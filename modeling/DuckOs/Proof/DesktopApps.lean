import DuckOs.Proof.DesktopWindows

/-!
# App instances

The windows name their instance, an instance counts its windows and names the state of its app. They
stay in step as long as the desktop is not initialized again while an app is running.
-/

namespace DuckOs

/-! ### Windows of an instance -/

namespace DesktopState

/-- How many windows `ref` owns. -/
def owned (state : DesktopState) (ref : DesktopInstanceRef) : Nat :=
  state.opened.countP fun window => window.owner = some ref

/-- Before it is initialized the desktop has no windows. -/
structure Ready (state : DesktopState) : Prop where
  tidy : state.Tidy
  unopened : state.initialized = false → state.windowCount = 0

section Owned

variable {state next : DesktopState} {ref : DesktopInstanceRef} {owner : Option DesktopInstanceRef}

theorem owned_eq_keys (state : DesktopState) (ref : DesktopInstanceRef) :
    state.owned ref = (state.opened.map (·.key)).countP fun key => key.2 = some ref := by
  rw [List.countP_map]
  rfl

theorem owned_of_count_zero (htidy : state.Tidy) (hcount : state.windowCount = 0) :
    state.owned ref = 0 := by
  have hnone : state.opened = [] := List.length_eq_zero_iff.mp (htidy.count_eq.symm.trans hcount)
  rw [owned, hnone, List.countP_nil]

theorem Rearranged.owned_eq (hnext : state.Rearranged next) (ref : DesktopInstanceRef) :
    next.owned ref = state.owned ref := by
  rw [owned_eq_keys, owned_eq_keys, hnext.keys_perm.countP_eq]

theorem Rearranged.ready (hnext : state.Rearranged next) (hready : state.Ready) : next.Ready := by
  refine ⟨hnext.tidy, fun hinitialized => ?_⟩
  rw [hnext.initialized_eq] at hinitialized
  rw [hnext.count_eq hready.tidy]
  exact hready.unopened hinitialized

theorem owned_desktopInit (state : DesktopState) (fb : Framebuffer) (ref : DesktopInstanceRef) :
    (desktopInit state (some fb)).2.owned ref = 0 := by
  rw [owned, (desktopInit_tidy state fb).2]
  rfl

theorem Ready.ensureInit (hready : state.Ready) (fb : Option Framebuffer) :
    (desktopEnsureInit state fb).2.Ready := by
  refine ⟨desktopEnsureInit_tidy hready.tidy fb, ?_⟩
  unfold desktopEnsureInit
  split_ifs
  · exact hready.unopened
  · cases fb with
    | none => exact hready.unopened
    | some fb => exact nofun

theorem Ready.ensureInit_owned (hready : state.Ready) (fb : Option Framebuffer)
    (ref : DesktopInstanceRef) : (desktopEnsureInit state fb).2.owned ref = state.owned ref := by
  unfold desktopEnsureInit
  split_ifs with hinitialized
  · rfl
  · cases fb with
    | none => rfl
    | some fb =>
        have hcount := hready.unopened (Bool.eq_false_of_not_eq_true hinitialized)
        rw [owned_desktopInit, owned_of_count_zero hready.tidy hcount]

end Owned

end DesktopState

section Opens

variable {state next : DesktopState} {owner : Option DesktopInstanceRef}

theorem OpensOne.ready (hnext : OpensOne owner state next) : next.Ready := by
  obtain ⟨build, modal, -, hinitialized, -, -, hrearranged⟩ := hnext
  refine ⟨hrearranged.tidy, fun hfresh => ?_⟩
  have hkept : next.initialized = state.initialized := hrearranged.initialized_eq
  rw [hkept, hinitialized] at hfresh
  exact nomatch hfresh

theorem OpensOne.owned_eq (hnext : OpensOne owner state next) (htidy : state.Tidy)
    (ref : DesktopInstanceRef) :
    next.owned ref = state.owned ref + if owner = some ref then 1 else 0 := by
  obtain ⟨build, modal, hbuilds, -, hroom, -, hrearranged⟩ := hnext
  have hopened := htidy.opened_addWindow hroom build
  have howner : (build (desktopNextWindowId
      { state with windowCount := state.windowCount + 1 })).owner = owner :=
    congrArg Prod.snd (hbuilds _).1
  rw [hrearranged.owned_eq]
  show (desktopAddWindow state build).2.opened.countP _ = _
  rw [hopened, List.countP_append, List.countP_singleton, howner]
  simp only [decide_eq_true_eq, DesktopState.owned]

theorem OpensUpTo.owned_eq (hnext : OpensUpTo none state next) (htidy : state.Tidy)
    (ref : DesktopInstanceRef) : next.owned ref = state.owned ref := by
  cases hnext with
  | kept hkept => exact hkept.owned_eq ref
  | added hadded =>
      rw [hadded.owned_eq htidy, if_neg (Option.some_ne_none ref).symm, Nat.add_zero]

theorem OpensUpTo.ready (hnext : OpensUpTo owner state next) (hready : state.Ready) : next.Ready := by
  cases hnext with
  | kept hkept => exact hkept.ready hready
  | added hadded => exact hadded.ready

theorem Closes.ready {index : Nat} (hnext : Closes index state next) (hready : state.Ready) :
    next.Ready := by
  refine ⟨hnext.tidy, fun hinitialized => ?_⟩
  rw [hnext.initialized_eq] at hinitialized
  have hcount := hready.unopened hinitialized
  have hlt := hnext.index_lt
  omega

theorem Closes.owned_add {index : Nat} (hnext : Closes index state next) (htidy : state.Tidy)
    (ref : DesktopInstanceRef) :
    next.owned ref + (if (state.window index).owner = some ref then 1 else 0) = state.owned ref := by
  have hlt := htidy.lt_length hnext.index_lt
  have hperm := List.getElem_cons_eraseIdx_perm hlt
  rw [DesktopState.owned, DesktopState.owned, hnext.opened_eq, ← hperm.countP_eq, List.countP_cons,
    htidy.window_of_lt hlt]
  simp only [decide_eq_true_eq]

end Opens

/-! ### The invariant -/

/-- The windows, the instances and the states of the apps agree, except that `starting` is an
instance that may have no window yet. -/
structure AppsInv (starting : Option DesktopInstanceRef) (desktop : Desktop) : Prop where
  ready : desktop.state.Ready
  counted : ∀ ref, (desktop.instances ref).running = true →
    (desktop.instances ref).windowCount = desktop.state.owned ref
  owns : ∀ ref, (desktop.instances ref).running = true → starting ≠ some ref →
    1 ≤ desktop.state.owned ref
  unowned : ∀ ref, (desktop.instances ref).running = false → desktop.state.owned ref = 0
  slots : ∀ ref, (desktop.instances ref).running = true →
    ∃ app slot, (desktop.instances ref).app = some app
      ∧ (desktop.instances ref).userData = .appState app slot
  slots_distinct : ∀ ref other, (desktop.instances ref).running = true →
    (desktop.instances other).running = true →
    (desktop.instances ref).userData = (desktop.instances other).userData → ref = other
  active_iff : ∀ app slot, desktop.active app slot = true
    ↔ ∃ ref, (desktop.instances ref).running = true
      ∧ (desktop.instances ref).userData = .appState app slot

section Inv

variable {desktop : Desktop} {starting : Option DesktopInstanceRef} {ref : DesktopInstanceRef}
  {state : DesktopState}

theorem AppsInv.accounted (hinv : AppsInv none desktop) : desktop.Accounted where
  counted := fun ref hrunning => ⟨hinv.counted ref hrunning, hinv.owns ref hrunning nofun⟩
  owners_run := fun window hwindow ref howner => by
    by_contra hstopped
    have hnone := hinv.unowned ref (Bool.eq_false_of_not_eq_true hstopped)
    exact List.countP_eq_zero.mp hnone window hwindow (decide_eq_true howner)
  active_iff := fun app slot => by
    rw [hinv.active_iff]
    constructor
    · rintro ⟨ref, hrunning, hdata⟩
      obtain ⟨app', slot', happ, hdata'⟩ := hinv.slots ref hrunning
      rw [hdata'] at hdata
      cases hdata
      exact ⟨ref, hrunning, happ, hdata'⟩
    · rintro ⟨ref, hrunning, -, hdata⟩
      exact ⟨ref, hrunning, hdata⟩

theorem boot_appsInv : AppsInv none .boot where
  ready := ⟨@DesktopState.Tidy.of_holds _ [] ⟨rfl, Nat.zero_le _⟩ rfl, fun _ => rfl⟩
  counted := nofun
  owns := nofun
  unowned := fun _ _ => rfl
  slots := nofun
  slots_distinct := nofun
  active_iff := fun _ _ => ⟨nofun, fun ⟨_, hrunning, _⟩ => nomatch hrunning⟩

/-- The windows change, but not how many each instance owns. -/
theorem AppsInv.congr (hinv : AppsInv starting desktop) (hready : state.Ready)
    (howned : ∀ ref, state.owned ref = desktop.state.owned ref) (dialog : DesktopDialog) :
    AppsInv starting { desktop with state := state, alertDialog := dialog } where
  ready := hready
  counted := fun ref hrunning => (hinv.counted ref hrunning).trans (howned ref).symm
  owns := fun ref hrunning hother => (howned ref).symm ▸ hinv.owns ref hrunning hother
  unowned := fun ref hstopped => (howned ref).trans (hinv.unowned ref hstopped)
  slots := hinv.slots
  slots_distinct := hinv.slots_distinct
  active_iff := hinv.active_iff

theorem AppsInv.weaken (hinv : AppsInv none desktop) (ref : DesktopInstanceRef) :
    AppsInv (some ref) desktop :=
  { hinv with owns := fun other hrunning _ => hinv.owns other hrunning nofun }

theorem AppsInv.started (hinv : AppsInv (some ref) desktop) (howns : 1 ≤ desktop.state.owned ref) :
    AppsInv none desktop :=
  { hinv with
    owns := fun other hrunning _ => by
      by_cases heq : ref = other
      · exact heq ▸ howns
      · exact hinv.owns other hrunning fun hsome => heq (Option.some.inj hsome) }

theorem Desktop.instances_setInstance_self (desktop : Desktop) (ref : DesktopInstanceRef)
    (value : DesktopAppInstance) : (desktop.setInstance ref value).instances ref = value :=
  Function.update_self _ _ _

theorem Desktop.instances_setInstance_of_ne (desktop : Desktop) {ref other : DesktopInstanceRef}
    (hne : ref ≠ other) (value : DesktopAppInstance) :
    (desktop.setInstance ref value).instances other = desktop.instances other :=
  Function.update_of_ne hne.symm _ _

/-- Windows of one instance are opened or closed, and counted. -/
theorem AppsInv.setCount (hinv : AppsInv (some ref) desktop)
    (hrunning : (desktop.instances ref).running = true) (hready : state.Ready)
    (howned : ∀ other, ref ≠ other → state.owned other = desktop.state.owned other) :
    AppsInv (some ref) { desktop.setInstance ref { desktop.instances ref with
      windowCount := state.owned ref } with state := state } := by
  have hself := desktop.instances_setInstance_self ref { desktop.instances ref with
    windowCount := state.owned ref }
  have hother : ∀ other, ref ≠ other → (desktop.setInstance ref { desktop.instances ref with
      windowCount := state.owned ref }).instances other = desktop.instances other :=
    fun other hne => desktop.instances_setInstance_of_ne hne _
  have hactive : (desktop.setInstance ref { desktop.instances ref with
    windowCount := state.owned ref }).active = desktop.active := rfl
  generalize desktop.setInstance ref { desktop.instances ref with
    windowCount := state.owned ref } = changed at hself hother hactive
  have hkept : ∀ other, (changed.instances other).running = (desktop.instances other).running
      ∧ (changed.instances other).app = (desktop.instances other).app
      ∧ (changed.instances other).userData = (desktop.instances other).userData := by
    intro other
    by_cases heq : ref = other
    · rw [← heq, hself]
      exact ⟨rfl, rfl, rfl⟩
    · rw [hother other heq]
      exact ⟨rfl, rfl, rfl⟩
  refine ⟨hready, fun other hrun => ?_, fun other hrun hne => ?_, fun other hstopped => ?_,
    fun other hrun => ?_, fun first second hfirst hsecond hdata => ?_, fun app slot => ?_⟩
  · by_cases heq : ref = other
    · rw [← heq]
      exact congrArg DesktopAppInstance.windowCount hself
    · rw [(hkept other).1] at hrun
      rw [howned other heq, ← hinv.counted other hrun]
      exact congrArg DesktopAppInstance.windowCount (hother other heq)
  · rw [(hkept other).1] at hrun
    rw [howned other fun heq => hne (congrArg some heq)]
    exact hinv.owns other hrun hne
  · rw [(hkept other).1] at hstopped
    rw [howned other fun heq => nomatch (heq ▸ hrunning).symm.trans hstopped]
    exact hinv.unowned other hstopped
  · rw [(hkept other).1] at hrun
    rw [(hkept other).2.1, (hkept other).2.2]
    exact hinv.slots other hrun
  · rw [(hkept first).1] at hfirst
    rw [(hkept second).1] at hsecond
    rw [(hkept first).2.2, (hkept second).2.2] at hdata
    exact hinv.slots_distinct first second hfirst hsecond hdata
  · rw [hactive, hinv.active_iff]
    simp only [(hkept _).1, (hkept _).2.2]

/-- An instance without windows ends, and with it the state of its app. -/
theorem AppsInv.vacate (hinv : AppsInv (some ref) desktop) (howned : desktop.state.owned ref = 0)
    {next : Desktop} (hstate : next.state = desktop.state)
    (hstopped : (next.instances ref).running = false)
    (hothers : ∀ other, ref ≠ other → next.instances other = desktop.instances other)
    (hactive : ∀ app slot, next.active app slot = true ↔ desktop.active app slot = true
      ∧ ¬((desktop.instances ref).running = true
        ∧ (desktop.instances ref).userData = .appState app slot)) : AppsInv none next := by
  have hkept : ∀ other, (next.instances other).running = true →
      ref ≠ other ∧ next.instances other = desktop.instances other := by
    intro other hrun
    have hne : ref ≠ other := by
      rintro rfl
      exact nomatch hstopped.symm.trans hrun
    exact ⟨hne, hothers other hne⟩
  refine ⟨hstate ▸ hinv.ready, fun other hrun => ?_, fun other hrun _ => ?_, fun other hstop => ?_,
    fun other hrun => ?_, fun first second hfirst hsecond hdata => ?_, fun app slot => ?_⟩
  · have hsame := (hkept other hrun).2
    rw [hsame] at hrun ⊢
    rw [hstate]
    exact hinv.counted other hrun
  · obtain ⟨hne, hsame⟩ := hkept other hrun
    rw [hsame] at hrun
    rw [hstate]
    exact hinv.owns other hrun fun heq => hne (Option.some.inj heq)
  · rw [hstate]
    by_cases heq : ref = other
    · rw [← heq]
      exact howned
    · rw [hothers other heq] at hstop
      exact hinv.unowned other hstop
  · have hsame := (hkept other hrun).2
    rw [hsame] at hrun ⊢
    exact hinv.slots other hrun
  · have hsame := (hkept first hfirst).2
    have hsame' := (hkept second hsecond).2
    rw [hsame] at hfirst hdata
    rw [hsame'] at hsecond hdata
    exact hinv.slots_distinct first second hfirst hsecond hdata
  · rw [hactive, hinv.active_iff]
    constructor
    · rintro ⟨⟨other, hrun, hdata⟩, hnot⟩
      have hne : ref ≠ other := by
        rintro rfl
        exact hnot ⟨hrun, hdata⟩
      refine ⟨other, ?_⟩
      rw [hothers other hne]
      exact ⟨hrun, hdata⟩
    · rintro ⟨other, hrun, hdata⟩
      obtain ⟨hne, hsame⟩ := hkept other hrun
      rw [hsame] at hrun hdata
      refine ⟨⟨other, hrun, hdata⟩, fun ⟨hrunning, hsameData⟩ => hne ?_⟩
      exact hinv.slots_distinct ref other hrunning hrun (hsameData.trans hdata.symm)

/-- An instance begins, and with it the state of its app. -/
theorem AppsInv.occupy (hinv : AppsInv none desktop)
    (hstopped : (desktop.instances ref).running = false) {app : DesktopApp} {slot : Fin 8}
    (hfree : desktop.active app slot = false) {next : Desktop} (hstate : next.state = desktop.state)
    (hcount : (next.instances ref).windowCount = 0) (happ : (next.instances ref).app = some app)
    (hdata : (next.instances ref).userData = .appState app slot)
    (hrunning : (next.instances ref).running = true)
    (hothers : ∀ other, ref ≠ other → next.instances other = desktop.instances other)
    (hactive : ∀ other otherSlot, next.active other otherSlot = true
      ↔ desktop.active other otherSlot = true ∨ app = other ∧ slot = otherSlot) :
    AppsInv (some ref) next := by
  have hnew : ∀ other, (desktop.instances other).running = true →
      (desktop.instances other).userData ≠ .appState app slot := by
    intro other hrun hsame
    exact nomatch ((hinv.active_iff app slot).mpr ⟨other, hrun, hsame⟩).symm.trans hfree
  refine ⟨hstate ▸ hinv.ready, fun other hrun => ?_, fun other hrun hne => ?_, fun other hstop => ?_,
    fun other hrun => ?_, fun first second hfirst hsecond hsame => ?_, fun other otherSlot => ?_⟩
  · rw [hstate]
    by_cases heq : ref = other
    · rw [← heq, hcount, hinv.unowned ref hstopped]
    · rw [hothers other heq] at hrun ⊢
      exact hinv.counted other hrun
  · have hother : ref ≠ other := fun heq => hne (congrArg some heq)
    rw [hothers other hother] at hrun
    rw [hstate]
    exact hinv.owns other hrun nofun
  · rw [hstate]
    by_cases heq : ref = other
    · exact nomatch (heq ▸ hstop).symm.trans hrunning
    · rw [hothers other heq] at hstop
      exact hinv.unowned other hstop
  · by_cases heq : ref = other
    · rw [← heq]
      exact ⟨app, slot, happ, hdata⟩
    · rw [hothers other heq] at hrun ⊢
      exact hinv.slots other hrun
  · by_cases hleft : ref = first
    · by_cases hright : ref = second
      · exact hleft.symm.trans hright
      · rw [hothers second hright] at hsecond hsame
        rw [← hleft, hdata] at hsame
        exact absurd hsame.symm (hnew second hsecond)
    · rw [hothers first hleft] at hfirst hsame
      by_cases hright : ref = second
      · rw [← hright, hdata] at hsame
        exact absurd hsame (hnew first hfirst)
      · rw [hothers second hright] at hsecond hsame
        exact hinv.slots_distinct first second hfirst hsecond hsame
  · rw [hactive, hinv.active_iff]
    constructor
    · rintro (⟨other', hrun, hsame⟩ | ⟨rfl, rfl⟩)
      · have hne : ref ≠ other' := by
          rintro rfl
          exact nomatch hstopped.symm.trans hrun
        exact ⟨other', (hothers other' hne).symm ▸ ⟨hrun, hsame⟩⟩
      · exact ⟨ref, hrunning, hdata⟩
    · rintro ⟨other', hrun, hsame⟩
      by_cases heq : ref = other'
      · rw [← heq, hdata] at hsame
        cases hsame
        exact .inr ⟨rfl, rfl⟩
      · rw [hothers other' heq] at hrun hsame
        exact .inl ⟨other', hrun, hsame⟩

theorem Desktop.active_setActive (desktop : Desktop) (app : DesktopApp) (slot : Fin 8) (value : Bool)
    (other : DesktopApp) (otherSlot : Fin 8) :
    (desktop.setActive app slot value).active other otherSlot
      = if app = other ∧ slot = otherSlot then value else desktop.active other otherSlot := by
  unfold Desktop.setActive
  dsimp only
  by_cases happ : app = other
  · subst happ
    rw [Function.update_self]
    by_cases hslot : slot = otherSlot
    · subst hslot
      rw [Function.update_self, if_pos ⟨rfl, rfl⟩]
    · rw [Function.update_of_ne (Ne.symm hslot), if_neg fun hboth => hslot hboth.2]
  · rw [Function.update_of_ne (Ne.symm happ), if_neg fun hboth => happ hboth.1]

theorem AppsInv.stop (hinv : AppsInv (some ref) desktop) (howned : desktop.state.owned ref = 0) :
    AppsInv none (desktopAppInstanceStop desktop ref) := by
  cases hrunning : (desktop.instances ref).running with
  | false =>
      have hstop : desktopAppInstanceStop desktop ref = desktop := by
        unfold desktopAppInstanceStop
        dsimp only
        rw [hrunning]
        rfl
      rw [hstop]
      refine hinv.vacate howned rfl hrunning (fun _ _ => rfl) fun app slot => ?_
      rw [hrunning]
      exact ⟨fun hactive => ⟨hactive, fun hboth => nomatch hboth.1⟩, fun hboth => hboth.1⟩
  | true =>
      obtain ⟨app, slot, happ, hdata⟩ := hinv.slots ref hrunning
      have hstop : desktopAppInstanceStop desktop ref
          = (desktop.setActive app slot false).setInstance ref .zero := by
        unfold desktopAppInstanceStop
        dsimp only
        rw [hrunning, happ, hdata]
        rfl
      rw [hstop]
      have hself := (desktop.setActive app slot false).instances_setInstance_self ref .zero
      refine hinv.vacate howned rfl (by rw [hself]; rfl)
        (fun other hne => Desktop.instances_setInstance_of_ne _ hne _) fun other otherSlot => ?_
      have hactive : ((desktop.setActive app slot false).setInstance ref .zero).active
          = (desktop.setActive app slot false).active := rfl
      rw [hactive, Desktop.active_setActive, hrunning, hdata]
      split_ifs with hsame
      · obtain ⟨rfl, rfl⟩ := hsame
        exact ⟨nofun, fun hboth => absurd ⟨rfl, rfl⟩ hboth.2⟩
      · refine ⟨fun hactive => ⟨hactive, fun hboth => hsame ?_⟩, fun hboth => hboth.1⟩
        cases hboth.2
        exact ⟨rfl, rfl⟩

theorem AppsInv.stop_of_count (hinv : AppsInv (some ref) desktop)
    (hcount : (desktop.instances ref).windowCount = 0) :
    AppsInv none (desktopAppInstanceStop desktop ref) := by
  apply hinv.stop
  cases hrunning : (desktop.instances ref).running with
  | false => exact hinv.unowned ref hrunning
  | true => rw [← hinv.counted ref hrunning, hcount]

end Inv

/-! ### Calls -/

section Calls

variable {desktop : Desktop} {starting : Option DesktopInstanceRef} {ref : DesktopInstanceRef}

theorem DesktopState.owned_le {state : DesktopState} (htidy : state.Tidy) (ref : DesktopInstanceRef) :
    state.owned ref ≤ desktopMaxWindows :=
  List.countP_le_length.trans htidy.holds.length_le

theorem AppsInv.ensureInit (hinv : AppsInv starting desktop) (fb : Option Framebuffer) :
    AppsInv starting { desktop with state := (desktopEnsureInit desktop.state fb).2 } :=
  hinv.congr (hinv.ready.ensureInit fb) (hinv.ready.ensureInit_owned fb) desktop.alertDialog

theorem AppsInv.windowOpened (hinv : AppsInv (some ref) desktop)
    (hrunning : (desktop.instances ref).running = true) {state : DesktopState}
    (hopens : OpensOne (some ref) desktop.state state) :
    AppsInv none { desktopAppInstanceWindowOpened desktop ref with state := state } := by
  have howned := hopens.owned_eq hinv.ready.tidy
  have hself := howned ref
  rw [if_pos rfl] at hself
  have hcount : ((desktop.instances ref).windowCount + 1) % 2 ^ 32 = state.owned ref := by
    have hle : state.owned ref ≤ 8 := DesktopState.owned_le hopens.ready.tidy ref
    rw [hinv.counted ref hrunning, ← hself]
    omega
  have hopened : desktopAppInstanceWindowOpened desktop ref = desktop.setInstance ref
      { desktop.instances ref with windowCount := state.owned ref } := by
    unfold desktopAppInstanceWindowOpened
    dsimp only
    rw [hrunning, hcount]
    rfl
  have hset := hinv.setCount hrunning hopens.ready fun other hne => by
    rw [howned other, if_neg fun heq => hne (Option.some.inj heq), Nat.add_zero]
  rw [hopened]
  apply hset.started
  show 1 ≤ state.owned ref
  omega

theorem desktopOpenAppInstanceWindow_inv (hinv : AppsInv (some ref) desktop)
    (fb : Option Framebuffer) (title : List UInt8) (width height : Nat)
    (userData : DesktopUserData) {opened : Desktop} :
    (desktopOpenAppInstanceWindow desktop fb ref title width height userData = (true, opened) →
        AppsInv none opened)
      ∧ (desktopOpenAppInstanceWindow desktop fb ref title width height userData = (false, opened) →
        ∃ found, opened = { desktop with state := (desktopEnsureInit desktop.state found).2 }) := by
  rcases desktopOpenAppInstanceWindow_cases hinv.ready.tidy fb ref title width height userData with
    ⟨found, heq⟩ | ⟨hrunning, state, hopens, heq⟩
  · rw [heq]
    refine ⟨nofun, fun hfailed => ?_⟩
    cases hfailed
    exact ⟨found, rfl⟩
  · rw [heq]
    refine ⟨fun hdone => ?_, nofun⟩
    cases hdone
    have hopened := (hinv.ensureInit fb).windowOpened hrunning hopens
    rw [desktopAppInstanceWindowOpened_state] at hopened
    exact hopened

theorem desktopShowAlert_inv (hinv : AppsInv starting desktop) (fb : Option Framebuffer)
    (title message : List UInt8) :
    AppsInv starting (desktopShowAlert desktop fb title message).2 := by
  obtain ⟨state, dialog, heq, hopens⟩ := desktopShowAlert_opens hinv.ready.tidy fb title message
  have hmid := hinv.ready.ensureInit fb
  rw [heq]
  refine hinv.congr (hopens.ready hmid) (fun ref => ?_) dialog
  rw [hopens.owned_eq hmid.tidy, hinv.ready.ensureInit_owned]

/-- A window is closed and counted, and the instance ends with its last one. -/
theorem desktopDestroyWindow_apps (hinv : AppsInv none desktop) (id : Nat) :
    AppsInv none (desktopDestroyWindow desktop id) := by
  rcases desktopDestroyWindow_cases hinv.ready.tidy id with
    ⟨-, heq⟩ | ⟨index, state, -, hcloses, heq⟩
  · rw [heq]
    exact hinv
  rw [heq]
  have hready := hcloses.ready hinv.ready
  have howned := hcloses.owned_add hinv.ready.tidy
  cases howner : (desktop.state.window index).owner with
  | none =>
      refine hinv.congr hready (fun ref => ?_) desktop.alertDialog
      rw [← howned ref, howner, if_neg (Option.some_ne_none ref).symm, Nat.add_zero]
  | some ref =>
      rw [howner] at howned
      have hself := howned ref
      rw [if_pos rfl] at hself
      have hrunning : (desktop.instances ref).running = true := by
        by_contra hstopped
        have hnone := hinv.unowned ref (Bool.eq_false_of_not_eq_true hstopped)
        omega
      have hcount : (desktop.instances ref).windowCount - 1 = state.owned ref := by
        rw [hinv.counted ref hrunning]
        omega
      have hset := (hinv.weaken ref).setCount hrunning hready fun other hne => by
        rw [← howned other, if_neg fun heq => hne (Option.some.inj heq), Nat.add_zero]
      rw [← desktopAppInstanceWindowClosed_state]
      unfold desktopAppInstanceWindowClosed
      dsimp only
      rw [if_neg (by rw [hrunning]; exact Bool.false_ne_true), hcount]
      by_cases hlast : state.owned ref = 0
      · exact (if_pos hlast).symm ▸ hset.stop hlast
      · exact (if_neg hlast).symm ▸ hset.started (Nat.one_le_iff_ne_zero.mpr hlast)

/-- The end of `desktop_launch_app_with_argument`. -/
def finishLaunch (started : Bool × Desktop) (ref : DesktopInstanceRef) : Desktop :=
  if !started.1 ∨ (started.2.instances ref).windowCount = 0 then desktopAppInstanceStop started.2 ref
  else started.2

theorem finishLaunch_false (desktop : Desktop) (ref : DesktopInstanceRef) :
    finishLaunch (false, desktop) ref = desktopAppInstanceStop desktop ref :=
  if_pos (.inl rfl)

theorem finishLaunch_of_open (hinv : AppsInv (some ref) desktop)
    (hcount : (desktop.instances ref).windowCount = 0) (fb : Option Framebuffer) (title : List UInt8)
    (width height : Nat) (userData : DesktopUserData) :
    AppsInv none (finishLaunch
      (desktopOpenAppInstanceWindow desktop fb ref title width height userData) ref) := by
  have hopened := @desktopOpenAppInstanceWindow_inv desktop ref hinv fb title width height userData
  rcases hresult : desktopOpenAppInstanceWindow desktop fb ref title width height userData with
    ⟨_ | _, opened⟩
  · obtain ⟨found, rfl⟩ := hopened.2 hresult
    exact (hinv.ensureInit found).stop_of_count hcount
  · have hdone := hopened.1 hresult
    unfold finishLaunch
    split_ifs with hnone
    · exact (hdone.weaken ref).stop_of_count (hnone.resolve_left nofun)
    · exact hdone

theorem desktopAllocAppInstance_cases (desktop : Desktop) (app : DesktopApp)
    (argument : List UInt8) :
    desktopAllocAppInstance desktop app argument = (none, desktop)
      ∨ ∃ ref value next, (desktop.instances ref).running = false
        ∧ value.running = true ∧ value.windowCount = 0 ∧ value.app = some app ∧ value.userData = .null
        ∧ desktopAllocAppInstance desktop app argument
          = (some ref, { desktop.setInstance ref value with nextInstanceId := next }) := by
  unfold desktopAllocAppInstance
  split
  · exact .inl rfl
  · rename_i ref hfound
    have hstopped := List.find?_some hfound
    rw [Bool.not_eq_true'] at hstopped
    exact .inr ⟨ref, _, _, hstopped, rfl, rfl, rfl, rfl, rfl⟩

theorem desktopAppAllocState_cases (desktop : Desktop) (app : DesktopApp) :
    desktopAppAllocState desktop app = (none, desktop)
      ∨ ∃ slot, desktop.active app slot = false
        ∧ desktopAppAllocState desktop app = (some slot, desktop.setActive app slot true) := by
  unfold desktopAppAllocState
  split
  · exact .inl rfl
  · rename_i slot hfound
    have hfree := List.find?_some hfound
    rw [Bool.not_eq_true'] at hfree
    exact .inr ⟨slot, hfree, rfl⟩

/-- There is no state left for the app. -/
theorem stop_allocated (hinv : AppsInv none desktop)
    (hstopped : (desktop.instances ref).running = false) {value : DesktopAppInstance} {next : Nat}
    (hrunning : value.running = true) (hdata : value.userData = .null) :
    AppsInv none (desktopAppInstanceStop
      { desktop.setInstance ref value with nextInstanceId := next } ref) := by
  have hself := desktop.instances_setInstance_self ref value
  have hstop : desktopAppInstanceStop { desktop.setInstance ref value with nextInstanceId := next } ref
      = ({ desktop.setInstance ref value with nextInstanceId := next } : Desktop).setInstance ref
        .zero := by
    unfold desktopAppInstanceStop
    dsimp only
    rw [hself, hrunning, hdata]
    split_ifs <;> first | rfl | contradiction
  rw [hstop]
  refine (hinv.weaken ref).vacate (hinv.unowned ref hstopped) rfl ?_ (fun other hne => ?_)
    fun app slot => ?_
  · rw [Desktop.instances_setInstance_self]
    rfl
  · rw [Desktop.instances_setInstance_of_ne _ hne]
    exact desktop.instances_setInstance_of_ne hne _
  · rw [hstopped]
    exact ⟨fun hactive => ⟨hactive, fun hboth => nomatch hboth.1⟩, fun hboth => hboth.1⟩

/-- The instance and the state of its app are allocated, and start to load a file. -/
theorem finishLaunch_of_start (hinv : AppsInv none desktop)
    (hstopped : (desktop.instances ref).running = false) {value : DesktopAppInstance} {next : Nat}
    {app : DesktopApp} {slot : Fin 8} (hrunning : value.running = true)
    (hcount : value.windowCount = 0) (happ : value.app = some app)
    (hfree : desktop.active app slot = false) (env : DesktopEnv) (path : List UInt8)
    (title : List UInt8) (width height : Nat) :
    AppsInv none (finishLaunch (desktopAppShow
      (textEditorLoadFile (({ desktop.setInstance ref value with nextInstanceId := next } :
        Desktop).setActive app slot true) env path) env.fb ref (.appState app slot) title width
          height) ref) := by
  have hself := desktop.instances_setInstance_self ref value
  obtain ⟨fb, state, dialog, heq, hopens⟩ := @textEditorLoadFile_opens
    (({ desktop.setInstance ref value with nextInstanceId := next } : Desktop).setActive app slot true)
    hinv.ready.tidy env path
  rw [heq]
  have hmid := hinv.ready.ensureInit fb
  have hoccupied : AppsInv (some ref)
      ((({ desktop.setInstance ref value with nextInstanceId := next } : Desktop).setActive app slot
        true).setInstance ref { value with userData := .appState app slot }) := by
    have hset := Desktop.instances_setInstance_self
      (({ desktop.setInstance ref value with nextInstanceId := next } : Desktop).setActive app slot
        true) ref { value with userData := .appState app slot }
    refine hinv.occupy hstopped hfree rfl ?_ ?_ ?_ ?_ (fun other hne => ?_)
      (fun other otherSlot => ?_)
    · rw [hset]
      exact hcount
    · rw [hset]
      exact happ
    · rw [hset]
    · rw [hset]
      exact hrunning
    · rw [Desktop.instances_setInstance_of_ne _ hne]
      exact desktop.instances_setInstance_of_ne hne _
    · have hactive := Desktop.active_setActive
        { desktop.setInstance ref value with nextInstanceId := next } app slot true other otherSlot
      refine (iff_of_eq (congrArg (· = true) hactive)).trans ?_
      split_ifs with hsame
      · exact ⟨fun _ => .inr hsame, fun _ => rfl⟩
      · exact ⟨.inl, fun hboth => hboth.resolve_right hsame⟩
  have hloaded := hoccupied.congr (hopens.ready hmid) (fun other => by
    rw [hopens.owned_eq hmid.tidy]
    exact hinv.ready.ensureInit_owned fb other) dialog
  have hkept : (desktop.setInstance ref value).instances ref = value := hself
  unfold desktopAppShow
  dsimp only [Desktop.setActive]
  rw [hkept]
  refine finishLaunch_of_open hloaded ?_ env.fb title width height (.appState app slot)
  have hset := Desktop.instances_setInstance_self
    (({ desktop.setInstance ref value with nextInstanceId := next } : Desktop).setActive app slot
      true) ref { value with userData := .appState app slot }
  exact (congrArg DesktopAppInstance.windowCount hset).trans hcount

theorem desktopLaunchAppWithArgument_inv (hinv : AppsInv none desktop) (env : DesktopEnv)
    (name argument : List UInt8) :
    AppsInv none (desktopLaunchAppWithArgument desktop env name argument).2 := by
  unfold desktopLaunchAppWithArgument
  cases desktopFindApp name with
  | none => exact desktopShowAlert_inv hinv _ _ _
  | some app =>
      dsimp only
      rcases desktopAllocAppInstance_cases desktop app argument with
        heq | ⟨ref, value, next, hstopped, hrunning, hcount, happ, hdata, heq⟩
      · rw [heq]
        exact hinv
      rw [heq]
      have hfinish : ∀ started : Bool × Desktop,
          (if !started.1 ∨ (started.2.instances ref).windowCount = 0 then
            (false, desktopAppInstanceStop started.2 ref) else (true, started.2)).2
            = finishLaunch started ref := by
        intro started
        unfold finishLaunch
        split_ifs <;> rfl
      dsimp only
      rw [hfinish]
      rcases app.onStart_cases { desktop.setInstance ref value with nextInstanceId := next } env ref
        with ⟨hnone, hstart⟩ | ⟨slot, path, title, width, height, hsome, hstart⟩
      all_goals
        rw [hstart]
        rcases desktopAppAllocState_cases
          { desktop.setInstance ref value with nextInstanceId := next } app with
          hfull | ⟨found, hfree, hfound⟩
      · rw [hfull, finishLaunch_false]
        exact stop_allocated hinv hstopped hrunning hdata
      · rw [hfound] at hnone
        exact nomatch hnone
      · rw [hfull] at hsome
        exact nomatch hsome
      · rw [hfound] at hsome ⊢
        cases hsome
        exact finishLaunch_of_start hinv hstopped hrunning hcount happ hfree env path title width
          height

end Calls

/-! ### Runs -/

section Runs

variable {desktop : Desktop}

theorem AppsInv.rearranged (hinv : AppsInv none desktop) {state : DesktopState}
    (hnext : desktop.state.Rearranged state) : AppsInv none { desktop with state := state } :=
  hinv.congr (hnext.ready hinv.ready) hnext.owned_eq desktop.alertDialog

theorem desktopCloseModalWindow_apps (hinv : AppsInv none desktop) :
    AppsInv none (desktopCloseModalWindow desktop) := by
  have hclosed := hinv.rearranged (.closeModal hinv.ready.tidy)
  rcases desktopCloseModalWindow_cases desktop with ⟨-, heq⟩ | ⟨-, heq | heq⟩
  all_goals rw [heq]
  · exact hinv
  · exact hclosed
  · exact desktopDestroyWindow_apps hclosed _

theorem desktopOpenAppInstanceWindow_apps (hinv : AppsInv none desktop) (fb : Option Framebuffer)
    (ref : DesktopInstanceRef) (title : List UInt8) (width height : Nat)
    (userData : DesktopUserData) :
    AppsInv none (desktopOpenAppInstanceWindow desktop fb ref title width height userData).2 := by
  have hopened := @desktopOpenAppInstanceWindow_inv desktop ref (hinv.weaken ref) fb title width height
    userData
  rcases hresult : desktopOpenAppInstanceWindow desktop fb ref title width height userData with
    ⟨_ | _, opened⟩
  · obtain ⟨found, rfl⟩ := hopened.2 hresult
    exact hinv.ensureInit found
  · exact hopened.1 hresult

/-- No app is running when the desktop is initialized. -/
theorem shellRunDesktop_apps (hinv : AppsInv none desktop) {fb : Option Framebuffer}
    {available : Bool} (command : DesktopCommand)
    (hkeeps : desktop.keepsApps (.shell fb available command) = true) :
    AppsInv none (shellRunDesktop desktop fb available command) := by
  rcases shellRunDesktop_cases desktop fb available command with
    ⟨-, heq⟩ | ⟨found, state, rfl, rfl, hrearranged, heq⟩
  · rw [heq]
    exact hinv
  have hstopped : ∀ ref, (desktop.instances ref).running = false := by
    intro ref
    have hall := List.all_eq_true.mp hkeeps ref (List.mem_finRange ref)
    rwa [Bool.not_eq_true'] at hall
  have hinit : (desktopInit desktop.state (some found)).2.Ready :=
    ⟨(desktopInit_tidy desktop.state found).1, nofun⟩
  rw [heq]
  refine hinv.congr (hrearranged.ready hinit) (fun ref => ?_) desktop.alertDialog
  rw [hrearranged.owned_eq, DesktopState.owned_desktopInit, hinv.unowned ref (hstopped ref)]

/-- An initialized desktop has no windows of apps. -/
theorem keepsApps_of_accounted {fb : Option Framebuffer} {available : Bool}
    {command : DesktopCommand}
    (hnext : (shellRunDesktop desktop fb available command).Accounted) :
    desktop.keepsApps (.shell fb available command) = true := by
  rcases shellRunDesktop_cases desktop fb available command with
    ⟨hskipped, -⟩ | ⟨found, state, rfl, rfl, hrearranged, heq⟩
  · rw [Desktop.keepsApps, hskipped, Bool.true_or]
  · apply List.all_eq_true.mpr
    intro ref _
    rw [heq] at hnext
    by_contra hrunning
    have hcounted := hnext.counted ref (by simpa using hrunning)
    have hnone : state.owned ref = 0 := by
      rw [hrearranged.owned_eq, DesktopState.owned_desktopInit]
    have howned : 1 ≤ state.owned ref := hcounted.2
    omega

theorem Desktop.step_appsInv (hinv : AppsInv none desktop) (op : DesktopOp)
    (hkeeps : desktop.keepsApps op = true) : AppsInv none (desktop.step op) := by
  have htidy := hinv.ready.tidy
  cases op with
  | openAppInstanceWindow fb ref title width height userData =>
      exact desktopOpenAppInstanceWindow_apps hinv fb ref title width height userData
  | openCustomWindow fb title width height draw handleEvent userData =>
      obtain ⟨found, hopens⟩ := desktopOpenCustomWindow_opens htidy fb title width height draw
        handleEvent userData
      have hmid := hinv.ready.ensureInit found
      refine hinv.congr (hopens.ready hmid) (fun ref => ?_) desktop.alertDialog
      rw [hopens.owned_eq hmid.tidy, hinv.ready.ensureInit_owned]
  | showAlert fb title message => exact desktopShowAlert_inv hinv fb title message
  | focusWindow index => exact hinv.rearranged (desktopFocusWindow_rearranged htidy _)
  | bringToFront index => exact hinv.rearranged (desktopBringToFront_rearranged htidy _)
  | minimizeWindow index => exact hinv.rearranged (desktopMinimizeWindow_rearranged htidy _)
  | toggleMaximizeWindow index =>
      exact hinv.rearranged (desktopToggleMaximizeWindow_rearranged htidy _)
  | destroyWindow index => exact desktopDestroyWindow_apps hinv _
  | closeModalWindow => exact desktopCloseModalWindow_apps hinv
  | launch env name argument => exact desktopLaunchAppWithArgument_inv hinv env name argument
  | shell fb available command => exact shellRunDesktop_apps hinv command hkeeps

end Runs

/-- From boot on, the windows, the instances and the states of the apps agree after each call exactly
when no call initializes the desktop while an app is running. -/
theorem desktop_apps_accounted_iff (ops : List DesktopOp) :
    Machine.Throughout Desktop.step Desktop.Accounted .boot ops
      ↔ Machine.EveryStep Desktop.step (fun desktop op => desktop.keepsApps op = true) .boot ops := by
  refine Machine.throughout_iff_of_inv (fun _ => AppsInv.accounted)
    (fun desktop op hinv hkeeps => Desktop.step_appsInv hinv op hkeeps)
    (fun desktop op _ hnext => ?_) ops boot_appsInv
  cases op with
  | shell fb available command => exact keepsApps_of_accounted hnext
  | _ => rfl

/-- A terminal is launched, and `desktop state` drops its window but not its instance. -/
theorem desktop_init_leaks_instance :
    ¬Machine.Throughout Desktop.step Desktop.Accounted .boot
      [.launch ⟨some ⟨640, 480⟩, .loaded⟩ (ascii "terminal") [],
        .shell (some ⟨640, 480⟩) true .state] := by
  intro hall
  have hcounted := hall.2.2.counted ⟨0, by decide⟩ (by decide +kernel)
  exact absurd hcounted.2 (by decide +kernel)

end DuckOs

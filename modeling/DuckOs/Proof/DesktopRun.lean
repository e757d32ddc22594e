import DuckOs.Proof.DesktopWindows

/-!
# Runs of the desktop

The windows of a desktop that has been initialized, whatever is called. The ids are bounded by the
number of windows opened so far, so the next one does not wrap around.
-/

namespace DuckOs

/-! ### Ids -/

section Ids

theorem foldl_highest (ids : Nat → Nat) : ∀ (indices : List Nat) (start : Nat),
    (∀ index ∈ indices, ids index ≤ indices.foldl
        (fun highestId index => if highestId < ids index then ids index else highestId) start)
      ∧ start ≤ indices.foldl
        (fun highestId index => if highestId < ids index then ids index else highestId) start
      ∧ ∀ bound, start ≤ bound → (∀ index ∈ indices, ids index ≤ bound) →
        indices.foldl
          (fun highestId index => if highestId < ids index then ids index else highestId) start
            ≤ bound := by
  intro indices
  induction indices with
  | nil => exact fun start => ⟨nofun, Nat.le_refl _, fun _ hstart _ => hstart⟩
  | cons first rest ih =>
      intro start
      rw [List.foldl_cons]
      obtain ⟨hrest, hstart, hbound⟩ := ih (if start < ids first then ids first else start)
      refine ⟨fun index hindex => ?_, ?_, fun bound hle hall => ?_⟩
      · rcases List.mem_cons.mp hindex with heq | hmem
        · rw [heq]
          split_ifs at hstart ⊢ <;> omega
        · exact hrest index hmem
      · split_ifs at hstart ⊢ <;> omega
      · apply hbound bound
        · have hfirst := hall first List.mem_cons_self
          split_ifs <;> omega
        · exact fun index hindex => hall index (List.mem_cons_of_mem _ hindex)

/-- The next id is above those of the windows, if it does not wrap around. -/
theorem desktopNextWindowId_bounds {state : DesktopState} {bound : Nat}
    (hids : ∀ index, index < state.windowCount → (state.window index).id ≤ bound)
    (hroom : bound + 1 < 2 ^ 32) :
    desktopNextWindowId state ≠ 0 ∧ desktopNextWindowId state ≤ bound + 1
      ∧ ∀ index, index < state.windowCount →
        (state.window index).id < desktopNextWindowId state := by
  obtain ⟨hall, -, hle⟩ := foldl_highest (fun index => (state.window index).id)
    (List.range state.windowCount) 0
  have hhighest := hle bound (Nat.zero_le _) fun index hindex => hids index (List.mem_range.mp hindex)
  unfold desktopNextWindowId
  rw [Nat.mod_eq_of_lt (by omega)]
  refine ⟨by omega, by omega, fun index hindex => ?_⟩
  exact Nat.lt_succ_of_le (hall index (List.mem_range.mpr hindex))

end Ids

/-! ### The invariant -/

/-- The windows of an initialized desktop, with ids up to `bound`. -/
structure WindowsInv (bound : Nat) (state : DesktopState) : Prop where
  tidy : state.Tidy
  initialized : state.initialized = true
  ids : ∀ id ∈ state.opened.map (·.id), id ≠ 0 ∧ id ≤ bound
  distinct : (state.opened.map (·.id)).Nodup
  consistent : ∀ window ∈ state.opened, window.Consistent
  focus : state.FocusSound
  modal : state.modalWindowId = 0 ∨ state.modalWindowId ∈ state.opened.map (·.id)

section Inv

variable {bound : Nat} {state next : DesktopState} {owner : Option DesktopInstanceRef}

theorem WindowsInv.mono {other : Nat} (hinv : WindowsInv bound state) (hle : bound ≤ other) :
    WindowsInv other state :=
  { hinv with ids := fun id hid => ⟨(hinv.ids id hid).1, (hinv.ids id hid).2.trans hle⟩ }

theorem WindowsInv.window_id (hinv : WindowsInv bound state) {index : Nat}
    (hindex : index < state.windowCount) :
    (state.window index).id ≠ 0 ∧ (state.window index).id ≤ bound :=
  hinv.ids _ (List.mem_map_of_mem (hinv.tidy.window_mem hindex))

theorem DesktopState.Rearranged.ids_perm (hnext : state.Rearranged next) :
    (next.opened.map (·.id)).Perm (state.opened.map (·.id)) := by
  have hperm := hnext.keys_perm.map Prod.fst
  rw [List.map_map, List.map_map] at hperm
  exact hperm

theorem WindowsInv.rearranged (hinv : WindowsInv bound state) (hnext : state.Rearranged next) :
    WindowsInv bound next where
  tidy := hnext.tidy
  initialized := hnext.initialized_eq.trans hinv.initialized
  ids := fun id hid => hinv.ids id (hnext.ids_perm.mem_iff.mp hid)
  distinct := hnext.ids_perm.nodup_iff.mpr hinv.distinct
  consistent := hnext.consistent hinv.consistent
  focus := hnext.focus hinv.focus
  modal := by
    rcases hnext.modal with hzero | heq
    · exact .inl hzero
    · rw [heq]
      exact hinv.modal.imp_right hnext.ids_perm.mem_iff.mpr

theorem desktopInit_windowsInv (state : DesktopState) (fb : Framebuffer) :
    WindowsInv 2 (desktopInit state (some fb)).2 := by
  obtain ⟨htidy, hopened⟩ := desktopInit_tidy state fb
  have hids : (desktopInit state (some fb)).2.opened.map (·.id) = [1, 2] := by
    rw [hopened]
    rfl
  refine ⟨htidy, rfl, ?_, ?_, ?_, Nat.zero_le _, .inl rfl⟩
  · rw [hids]
    decide
  · rw [hids]
    decide
  · rw [hopened]
    intro window hwindow
    rcases List.mem_pair.mp hwindow with heq | heq
    all_goals
      rw [heq]
      exact DesktopWindow.init_consistent _ _ _ _ _ _

theorem WindowsInv.nextId_bounds (hinv : WindowsInv bound state) (hbound : bound + 1 < 2 ^ 32) :
    desktopNextWindowId { state with windowCount := state.windowCount + 1 } ≠ 0
      ∧ desktopNextWindowId { state with windowCount := state.windowCount + 1 } ≤ bound + 1
      ∧ ∀ id ∈ state.opened.map (·.id),
        id < desktopNextWindowId { state with windowCount := state.windowCount + 1 } := by
  have hslots : ∀ index, index < state.windowCount + 1 → (state.window index).id ≤ bound := by
    intro index _
    by_cases hlt : index < state.windowCount
    · exact (hinv.window_id hlt).2
    · rw [hinv.tidy.window_of_le (Nat.le_of_not_lt hlt)]
      exact Nat.zero_le _
  obtain ⟨hpos, hle, habove⟩ := @desktopNextWindowId_bounds
    { state with windowCount := state.windowCount + 1 } bound hslots hbound
  refine ⟨hpos, hle, fun id hid => ?_⟩
  obtain ⟨window, hwindow, rfl⟩ := List.mem_map.mp hid
  obtain ⟨index, hindex, rfl⟩ := List.mem_iff_getElem.mp hwindow
  have hlt := habove index (Nat.lt_succ_of_lt (hinv.tidy.count_eq ▸ hindex))
  have hslot := hinv.tidy.window_of_lt hindex
  rw [← hslot]
  exact hlt

theorem WindowsInv.addWindow (hinv : WindowsInv bound state)
    (hroom : state.windowCount < desktopMaxWindows) (hbound : bound + 1 < 2 ^ 32)
    {build : Nat → DesktopWindow} (hbuilds : Builds owner build) {modal : Nat}
    (hmodal : modal = state.modalWindowId ∨ modal = (desktopAddWindow state build).1) :
    WindowsInv (bound + 1) { (desktopAddWindow state build).2 with modalWindowId := modal } := by
  have htidy := hinv.tidy.addWindow hroom build
  obtain ⟨hpos, hle, habove⟩ := hinv.nextId_bounds hbound
  have hopened := hinv.tidy.opened_addWindow hroom build
  have hnew : (desktopAddWindow state build).1
      = desktopNextWindowId { state with windowCount := state.windowCount + 1 } :=
    congrArg Prod.fst (hbuilds _).1
  rw [hnew] at hmodal
  generalize desktopNextWindowId { state with windowCount := state.windowCount + 1 } = next
    at hpos hle habove hopened hmodal
  have hids : (desktopAddWindow state build).2.opened.map (·.id)
      = state.opened.map (·.id) ++ [next] := by
    have hid : (build next).id = next := congrArg Prod.fst (hbuilds next).1
    rw [hopened, List.map_append, List.map_singleton, hid]
  refine ⟨⟨htidy.holds, htidy.count_eq⟩, hinv.initialized, ?_, ?_, ?_, ?_, ?_⟩
  · intro id hid
    rcases List.mem_append.mp (hids ▸ hid) with hmem | hmem
    · exact ⟨(hinv.ids id hmem).1, Nat.le_succ_of_le (hinv.ids id hmem).2⟩
    · rw [List.mem_singleton.mp hmem]
      exact ⟨hpos, hle⟩
  · show ((desktopAddWindow state build).2.opened.map (·.id)).Nodup
    rw [hids]
    apply hinv.distinct.append (List.nodup_singleton next)
    intro id hid hnext
    exact Nat.lt_irrefl _ (List.mem_singleton.mp hnext ▸ habove id hid)
  · intro window hwindow
    rcases List.mem_append.mp (hopened ▸ hwindow) with hmem | hmem
    · exact hinv.consistent window hmem
    · rw [List.mem_singleton.mp hmem]
      exact (hbuilds next).2
  · exact Nat.le_trans hinv.focus (Nat.sub_le_sub_right (Nat.le_succ _) 1)
  · show modal = 0 ∨ modal ∈ (desktopAddWindow state build).2.opened.map (·.id)
    rw [hids]
    rcases hmodal with heq | heq
    · rw [heq]
      exact hinv.modal.imp_right (List.mem_append_left [next])
    · rw [heq]
      exact .inr (List.mem_append_right _ List.mem_cons_self)

/-- What a call leaves, with as many more ids as there are more windows. -/
def Grows (bound : Nat) (state next : DesktopState) : Prop :=
  state.windowCount ≤ next.windowCount
    ∧ WindowsInv (bound + (next.windowCount - state.windowCount)) next

theorem WindowsInv.grows_rearranged (hinv : WindowsInv bound state)
    (hnext : state.Rearranged next) : Grows bound state next := by
  have hcount := hnext.count_eq hinv.tidy
  rw [Grows, hcount, Nat.sub_self]
  exact ⟨Nat.le_refl _, hinv.rearranged hnext⟩

theorem WindowsInv.grows_opensOne (hinv : WindowsInv bound state) (hbound : bound + 1 < 2 ^ 32)
    (hnext : OpensOne owner state next) : Grows bound state next := by
  obtain ⟨build, modal, hbuilds, -, hroom, hmodal, hrearranged⟩ := hnext
  have hadded := hinv.addWindow hroom hbound hbuilds hmodal
  have hcount : next.windowCount = state.windowCount + 1 := hrearranged.count_eq hadded.tidy
  rw [Grows, hcount, Nat.add_sub_cancel_left]
  exact ⟨Nat.le_succ _, hadded.rearranged hrearranged⟩

theorem WindowsInv.grows_opensUpTo (hinv : WindowsInv bound state) (hbound : bound + 1 < 2 ^ 32)
    (hnext : OpensUpTo owner state next) : Grows bound state next := by
  cases hnext with
  | kept hkept => exact hinv.grows_rearranged hkept
  | added hadded => exact hinv.grows_opensOne hbound hadded

theorem Grows.trans {last : DesktopState} (hnext : Grows bound state next)
    (hlast : Grows (bound + (next.windowCount - state.windowCount)) next last) :
    Grows bound state last := by
  obtain ⟨hle, -⟩ := hnext
  obtain ⟨hle', hinv⟩ := hlast
  have hsum : bound + (next.windowCount - state.windowCount) + (last.windowCount - next.windowCount)
      = bound + (last.windowCount - state.windowCount) := by omega
  exact ⟨hle.trans hle', hsum ▸ hinv⟩

theorem WindowsInv.closes (hinv : WindowsInv bound state) {index : Nat}
    (hcloses : Closes index state next)
    (hmodal : (state.window index).id ≠ state.modalWindowId) : WindowsInv bound next := by
  have hlt := hinv.tidy.lt_length hcloses.index_lt
  have hsub : next.opened.Sublist state.opened := by
    rw [hcloses.opened_eq]
    exact List.eraseIdx_sublist _ _
  have hids : (next.opened.map (·.id)).Sublist (state.opened.map (·.id)) := hsub.map _
  refine ⟨hcloses.tidy, hcloses.initialized_eq.trans hinv.initialized,
    fun id hid => hinv.ids id (hids.subset hid), hinv.distinct.sublist hids,
    fun window hwindow => hinv.consistent window (hsub.subset hwindow), hcloses.focus, ?_⟩
  rw [hcloses.modal_eq, hcloses.opened_eq]
  refine hinv.modal.imp_right fun hmem => ?_
  obtain ⟨window, hwindow, hid⟩ := List.mem_map.mp hmem
  have hperm := List.getElem_cons_eraseIdx_perm hlt
  rcases List.mem_cons.mp (hperm.mem_iff.mpr hwindow) with heq | hkept
  · rw [hinv.tidy.window_of_lt hlt, ← heq] at hmodal
    exact absurd hid hmodal
  · exact List.mem_map.mpr ⟨window, hkept, hid⟩

end Inv

/-! ### Calls -/

section Calls

variable {bound : Nat} {desktop : Desktop}

theorem desktopShowAlert_grows (hinv : WindowsInv bound desktop.state) (hbound : bound + 1 < 2 ^ 32)
    (fb : Option Framebuffer) (title message : List UInt8) :
    Grows bound desktop.state (desktopShowAlert desktop fb title message).2.state := by
  obtain ⟨state, dialog, heq, hopens⟩ := desktopShowAlert_opens hinv.tidy fb title message
  rw [desktopEnsureInit_initialized hinv.initialized] at hopens
  rw [heq]
  exact hinv.grows_opensUpTo hbound hopens

theorem desktopOpenAppInstanceWindow_grows (hinv : WindowsInv bound desktop.state)
    (hbound : bound + 1 < 2 ^ 32) (fb : Option Framebuffer) (ref : DesktopInstanceRef)
    (title : List UInt8) (width height : Nat) (userData : DesktopUserData) :
    Grows bound desktop.state
      (desktopOpenAppInstanceWindow desktop fb ref title width height userData).2.state := by
  rcases desktopOpenAppInstanceWindow_cases hinv.tidy fb ref title width height userData with
    ⟨found, heq⟩ | ⟨-, state, hopens, heq⟩
  · rw [heq, desktopEnsureInit_initialized hinv.initialized]
    exact hinv.grows_rearranged (.refl hinv.tidy)
  · rw [desktopEnsureInit_initialized hinv.initialized] at hopens
    rw [heq]
    exact hinv.grows_opensOne hbound hopens

theorem textEditorLoadFile_grows (hinv : WindowsInv bound desktop.state)
    (hbound : bound + 1 < 2 ^ 32) (env : DesktopEnv) (path : List UInt8) :
    Grows bound desktop.state (textEditorLoadFile desktop env path).state := by
  obtain ⟨fb, state, dialog, heq, hopens⟩ := textEditorLoadFile_opens hinv.tidy env path
  rw [desktopEnsureInit_initialized hinv.initialized] at hopens
  rw [heq]
  exact hinv.grows_opensUpTo hbound hopens

theorem desktopAppAllocState_state (desktop : Desktop) (app : DesktopApp) :
    (desktopAppAllocState desktop app).2.state = desktop.state := by
  unfold desktopAppAllocState
  split <;> rfl

theorem desktopAppInstanceStop_keeps (desktop : Desktop) (ref : DesktopInstanceRef) :
    (desktopAppInstanceStop desktop ref).state = desktop.state := by
  have hstate := congrArg Desktop.state (desktopAppInstanceStop_state desktop desktop.state ref)
  exact hstate

theorem desktopAppShow_grows (hinv : WindowsInv bound desktop.state) (hbound : bound + 1 < 2 ^ 32)
    (fb : Option Framebuffer) (ref : DesktopInstanceRef) (userData : DesktopUserData)
    (title : List UInt8) (width height : Nat) :
    Grows bound desktop.state
      (desktopAppShow desktop fb ref userData title width height).2.state := by
  have hset : WindowsInv bound (desktop.setInstance ref
      { desktop.instances ref with userData := userData }).state := hinv
  exact desktopOpenAppInstanceWindow_grows hset hbound fb ref title width height userData

/-- An alert and the window of the app. -/
theorem DesktopApp.onStart_grows (hinv : WindowsInv bound desktop.state)
    (hbound : bound + desktopMaxWindows + 1 < 2 ^ 32) (app : DesktopApp) (env : DesktopEnv)
    (ref : DesktopInstanceRef) :
    Grows bound desktop.state (app.onStart desktop env ref).2.state := by
  have hstate := desktopAppAllocState_state desktop app
  rcases DesktopApp.onStart_cases app desktop env ref with
    ⟨-, heq⟩ | ⟨slot, path, title, width, height, -, heq⟩
  · rw [heq, hstate]
    exact hinv.grows_rearranged (.refl hinv.tidy)
  · rw [← hstate] at hinv ⊢
    have hload := textEditorLoadFile_grows hinv (by omega) env path
    have hle := hload.2.tidy.count_le
    rw [heq]
    exact hload.trans (desktopAppShow_grows hload.2 (by omega) _ _ _ _ _ _)

theorem desktopAllocAppInstance_state (desktop : Desktop) (app : DesktopApp)
    (argument : List UInt8) :
    (desktopAllocAppInstance desktop app argument).2.state = desktop.state := by
  unfold desktopAllocAppInstance
  split <;> rfl

theorem desktopLaunchAppWithArgument_grows (hinv : WindowsInv bound desktop.state)
    (hbound : bound + desktopMaxWindows + 1 < 2 ^ 32) (env : DesktopEnv) (name argument : List UInt8) :
    Grows bound desktop.state (desktopLaunchAppWithArgument desktop env name argument).2.state := by
  unfold desktopLaunchAppWithArgument
  cases desktopFindApp name with
  | none => exact desktopShowAlert_grows hinv (by omega) _ _ _
  | some app =>
      dsimp only
      have hstate := desktopAllocAppInstance_state desktop app argument
      rcases halloc : desktopAllocAppInstance desktop app argument with ⟨_ | ref, allocated⟩
      all_goals
        rw [halloc] at hstate
        dsimp only at hstate ⊢
        rw [← hstate] at hinv ⊢
      · exact hinv.grows_rearranged (.refl hinv.tidy)
      have hstart := app.onStart_grows hinv hbound env ref
      split_ifs
      · dsimp only
        rw [desktopAppInstanceStop_keeps]
        exact hstart
      · exact hstart

theorem desktopDestroyWindow_inv (hinv : WindowsInv bound desktop.state) {id : Nat}
    (hmodal : id = 0 ∨ id ≠ desktop.state.modalWindowId) :
    WindowsInv bound (desktopDestroyWindow desktop id).state := by
  rcases desktopDestroyWindow_cases hinv.tidy id with
    ⟨-, heq⟩ | ⟨found, state, hfound, hcloses, heq⟩
  · rw [heq]
    exact hinv
  · have hlt := hcloses.index_lt
    have hid := desktopFindWindowIndexById_id (hfound ▸ hlt)
    rw [hfound] at hid
    have hpos := (hinv.window_id hlt).1
    rw [heq]
    apply hinv.closes hcloses
    rw [hid] at hpos ⊢
    exact hmodal.resolve_left hpos

theorem desktopCloseModalWindow_inv (hinv : WindowsInv bound desktop.state) :
    WindowsInv bound (desktopCloseModalWindow desktop).state := by
  have hclosed := hinv.rearranged (.closeModal hinv.tidy)
  rcases desktopCloseModalWindow_cases desktop with ⟨-, heq⟩ | ⟨hmodal, heq | heq⟩
  all_goals rw [heq]
  · exact hinv
  · exact hclosed
  · exact @desktopDestroyWindow_inv bound
      { desktop with state := { desktop.state with modalWindowId := 0 } } hclosed _ (.inr hmodal)

theorem shellRunDesktop_inv (hinv : WindowsInv bound desktop.state) (hbound : 2 ≤ bound)
    (fb : Option Framebuffer) (available : Bool) (command : DesktopCommand) :
    WindowsInv bound (shellRunDesktop desktop fb available command).state := by
  rcases shellRunDesktop_cases desktop fb available command with
    ⟨-, heq⟩ | ⟨found, state, -, -, hrearranged, heq⟩
  · rw [heq]
    exact hinv
  · have hinit := (desktopInit_windowsInv desktop.state found).mono hbound
    rw [heq]
    exact hinit.rearranged hrearranged

/-- One call, under a bound on the ids so far. -/
theorem Desktop.step_windowsInv (hinv : WindowsInv bound desktop.state) (hle : 2 ≤ bound)
    (hbound : bound + desktopMaxWindows + 1 < 2 ^ 32) (op : DesktopOp)
    (hkeeps : desktop.KeepsModal op) :
    WindowsInv (bound + ((desktop.step op).state.windowCount - desktop.state.windowCount))
      (desktop.step op).state := by
  have htidy := hinv.tidy
  cases op with
  | openAppInstanceWindow fb ref title width height userData =>
      exact (desktopOpenAppInstanceWindow_grows hinv (by omega) _ _ _ _ _ _).2
  | openCustomWindow fb title width height draw handleEvent userData =>
      obtain ⟨found, hopens⟩ := desktopOpenCustomWindow_opens htidy fb title width height draw
        handleEvent userData
      rw [desktopEnsureInit_initialized hinv.initialized] at hopens
      exact (hinv.grows_opensUpTo (by omega) hopens).2
  | showAlert fb title message => exact (desktopShowAlert_grows hinv (by omega) _ _ _).2
  | focusWindow index =>
      exact (hinv.grows_rearranged (desktopFocusWindow_rearranged htidy _)).2
  | bringToFront index =>
      exact (hinv.grows_rearranged (desktopBringToFront_rearranged htidy _)).2
  | minimizeWindow index =>
      exact (hinv.grows_rearranged (desktopMinimizeWindow_rearranged htidy _)).2
  | toggleMaximizeWindow index =>
      exact (hinv.grows_rearranged (desktopToggleMaximizeWindow_rearranged htidy _)).2
  | destroyWindow index =>
      exact (desktopDestroyWindow_inv hinv hkeeps).mono (Nat.le_add_right _ _)
  | closeModalWindow => exact (desktopCloseModalWindow_inv hinv).mono (Nat.le_add_right _ _)
  | launch env name argument =>
      exact (desktopLaunchAppWithArgument_grows hinv hbound env name argument).2
  | shell fb available command =>
      exact (shellRunDesktop_inv hinv hle fb available command).mono (Nat.le_add_right _ _)

theorem Desktop.run_windowsInv : ∀ {ops : List DesktopOp} {bound : Nat} {desktop : Desktop},
    WindowsInv bound desktop.state → 2 ≤ bound →
    bound + desktop.openedCount ops + desktopMaxWindows + 1 < 2 ^ 32 →
    Machine.EveryStep Desktop.step Desktop.KeepsModal desktop ops →
    ∃ bound, WindowsInv bound (ops.foldl Desktop.step desktop).state := by
  intro ops
  induction ops with
  | nil => exact fun hinv _ _ _ => ⟨_, hinv⟩
  | cons op rest ih =>
      rintro bound desktop hinv hle hbound ⟨hkeeps, hrest⟩
      rw [Desktop.openedCount, ← Nat.add_assoc] at hbound
      have hstep := Desktop.step_windowsInv hinv hle (by omega) op hkeeps
      exact ih hstep (by omega) hbound hrest

end Calls

theorem WindowsInv.windowsSound {bound : Nat} {desktop : Desktop}
    (hinv : WindowsInv bound desktop.state) : desktop.WindowsSound where
  count_le := hinv.tidy.count_le
  ids_pos := fun _ hwindow => (hinv.ids _ (List.mem_map_of_mem hwindow)).1
  ids_distinct := hinv.distinct
  rest_zero := fun _ hindex => hinv.tidy.window_of_le hindex
  focused_lt := fun hpos => by
    have hfocus := hinv.focus
    rw [DesktopState.FocusSound] at hfocus
    omega
  visible_iff := hinv.consistent
  modal_open := hinv.modal.imp_right fun hmem => by
    obtain ⟨window, hwindow, hid⟩ := List.mem_map.mp hmem
    exact ⟨window, hwindow, hid⟩

theorem WindowsInv.find_windowId {bound : Nat} {desktop : Desktop}
    (hinv : WindowsInv bound desktop.state) {index : Nat}
    (hindex : index < desktop.state.windowCount) :
    desktopFindWindowIndexById desktop.state (desktop.windowId index) = index :=
  desktopFindWindowIndexById_window hinv.tidy hinv.distinct hindex (hinv.window_id hindex).1

theorem WindowsInv.windows_bringToFront {bound : Nat} {desktop : Desktop}
    (hinv : WindowsInv bound desktop.state) {index : Nat} (hindex : index < desktop.windows.length) :
    (desktop.step (.bringToFront index)).windows
      = desktop.windows.eraseIdx index ++ [desktop.windows[index].unminimize] := by
  have hlt : index < desktop.state.windowCount := hinv.tidy.count_eq ▸ hindex
  have hopened := desktopBringToFront_opened hinv.tidy hlt (hinv.find_windowId hlt)
  rw [hinv.tidy.window_of_lt hindex] at hopened
  exact hopened

theorem WindowsInv.windows_destroyWindow {bound : Nat} {desktop : Desktop}
    (hinv : WindowsInv bound desktop.state) {index : Nat} (hindex : index < desktop.windows.length) :
    (desktop.step (.destroyWindow index)).windows = desktop.windows.eraseIdx index := by
  have hlt : index < desktop.state.windowCount := hinv.tidy.count_eq ▸ hindex
  have hfind := hinv.find_windowId hlt
  rcases desktopDestroyWindow_cases hinv.tidy (desktop.windowId index) with
    ⟨hmissing, -⟩ | ⟨found, state, hfound, hcloses, heq⟩
  · omega
  · rw [Desktop.step, heq]
    rw [← hfound, hfind] at hcloses
    exact hcloses.opened_eq

/-- Whatever is called after `desktop_init`, the windows stay sound, and bringing a window to the
front or destroying it leaves the others in their order. -/
theorem desktop_windows_sound (desktop : Desktop) (fb : Framebuffer) (ops : List DesktopOp)
    (hkeeps : Machine.EveryStep Desktop.step Desktop.KeepsModal
      { desktop with state := (desktopInit desktop.state (some fb)).2 } ops)
    (hopened : Desktop.openedCount { desktop with state := (desktopInit desktop.state (some fb)).2 } ops
      < 2 ^ 31) :
    let last := ops.foldl Desktop.step { desktop with state := (desktopInit desktop.state (some fb)).2 }
    last.WindowsSound ∧ ∀ (index : Nat) (hindex : index < last.windows.length),
      (last.step (.bringToFront index)).windows
          = last.windows.eraseIdx index ++ [last.windows[index].unminimize]
        ∧ (last.step (.destroyWindow index)).windows = last.windows.eraseIdx index := by
  have hinit : WindowsInv 2
      ({ desktop with state := (desktopInit desktop.state (some fb)).2 } : Desktop).state :=
    desktopInit_windowsInv desktop.state fb
  have hmax : desktopMaxWindows = 8 := rfl
  obtain ⟨bound, hinv⟩ := Desktop.run_windowsInv hinit (Nat.le_refl _) (by omega) hkeeps
  exact ⟨hinv.windowsSound, fun index hindex =>
    ⟨hinv.windows_bringToFront hindex, hinv.windows_destroyWindow hindex⟩⟩

theorem desktop_windows_sound_alert :
    let ops : List DesktopOp :=
      [.openCustomWindow (some ⟨640, 480⟩) (ascii "Notes") 200 100 .null .null .null,
        .showAlert (some ⟨640, 480⟩) (ascii "Alert") (ascii "text"), .minimizeWindow 1,
        .destroyWindow 0, .closeModalWindow]
    (ops.foldl Desktop.step
      { Desktop.boot with state := (desktopInit .zero (some ⟨640, 480⟩)).2 }).WindowsSound := by
  intro ops
  have hkeeps : Machine.EveryStep Desktop.step Desktop.KeepsModal
      { Desktop.boot with state := (desktopInit .zero (some ⟨640, 480⟩)).2 } ops :=
    ⟨trivial, trivial, trivial, .inr (by decide +kernel), trivial, trivial⟩
  exact (desktop_windows_sound .boot ⟨640, 480⟩ ops hkeeps (by decide +kernel)).1

end DuckOs

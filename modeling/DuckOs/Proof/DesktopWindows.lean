import Mathlib.Data.List.Perm.Basic
import Mathlib.Tactic.ByContra
import Mathlib.Tactic.SplitIfs
import DuckOs.Desktop.AppRegistry

/-!
# The open windows

What the functions of the desktop do to the list of open windows. Most of them rearrange it: windows
move and change, but keep their ids and owners.
-/

namespace DuckOs

/-- Shown or minimized. -/
def DesktopWindow.Consistent (window : DesktopWindow) : Prop :=
  window.flags.visible = true ↔ window.flags.minimized = false

/-- What says which window it is and whose. -/
def DesktopWindow.key (window : DesktopWindow) : Nat × Option DesktopInstanceRef :=
  (window.id, window.owner)

namespace DesktopState

/-- The windows that are open. -/
def opened (state : DesktopState) : List DesktopWindow := state.windows.take state.windowCount

/-- The open windows are in the first slots, the other slots are zero. -/
structure Tidy (state : DesktopState) : Prop where
  holds : SlotArray.Holds .zero desktopMaxWindows state.windows state.opened
  count_eq : state.windowCount = state.opened.length

/-- A window has the focus if there is one. -/
def FocusSound (state : DesktopState) : Prop := state.focusedWindowIndex ≤ state.windowCount - 1

section Opened

variable {state : DesktopState} {windows : List DesktopWindow} {index : Nat}

theorem opened_of_holds (hholds : SlotArray.Holds .zero desktopMaxWindows state.windows windows)
    (hcount : state.windowCount = windows.length) : state.opened = windows := by
  rw [opened, hholds.slots_eq, hcount, List.take_left]

theorem Tidy.of_holds (hholds : SlotArray.Holds .zero desktopMaxWindows state.windows windows)
    (hcount : state.windowCount = windows.length) : state.Tidy := by
  have hopened := opened_of_holds hholds hcount
  exact ⟨hopened ▸ hholds, hopened ▸ hcount⟩

theorem Tidy.count_le (htidy : state.Tidy) : state.windowCount ≤ desktopMaxWindows :=
  htidy.count_eq ▸ htidy.holds.length_le

theorem Tidy.lt_length (htidy : state.Tidy) (hindex : index < state.windowCount) :
    index < state.opened.length :=
  htidy.count_eq ▸ hindex

theorem Tidy.window_of_lt (htidy : state.Tidy) (hindex : index < state.opened.length) :
    state.window index = state.opened[index] :=
  htidy.holds.getD_of_lt hindex

theorem Tidy.window_of_le (htidy : state.Tidy) (hindex : state.windowCount ≤ index) :
    state.window index = .zero :=
  htidy.holds.getD_of_le (htidy.count_eq ▸ hindex)

theorem Tidy.window_mem (htidy : state.Tidy) (hindex : index < state.windowCount) :
    state.window index ∈ state.opened := by
  rw [htidy.window_of_lt (htidy.lt_length hindex)]
  exact List.getElem_mem _

theorem Tidy.holds_set (htidy : state.Tidy) (hindex : index < state.windowCount)
    (window : DesktopWindow) :
    SlotArray.Holds .zero desktopMaxWindows (state.setWindow index window).windows
      (state.opened.set index window) :=
  htidy.holds.set (htidy.lt_length hindex) window

theorem Tidy.opened_setWindow (htidy : state.Tidy) (hindex : index < state.windowCount)
    (window : DesktopWindow) :
    (state.setWindow index window).opened = state.opened.set index window :=
  opened_of_holds (htidy.holds_set hindex window) (by
    rw [List.length_set]
    exact htidy.count_eq)

theorem Tidy.setWindow (htidy : state.Tidy) (hindex : index < state.windowCount)
    (window : DesktopWindow) : (state.setWindow index window).Tidy :=
  .of_holds (htidy.holds_set hindex window) (by
    rw [List.length_set]
    exact htidy.count_eq)

theorem window_setWindow_self (htidy : state.Tidy) (hindex : index < state.windowCount)
    (window : DesktopWindow) : (state.setWindow index window).window index = window := by
  have hslot : index < state.windows.length := by
    rw [htidy.holds.length_slots]
    exact Nat.lt_of_lt_of_le hindex htidy.count_le
  rw [DesktopState.window, DesktopState.setWindow, List.getD_eq_getElem?_getD,
    List.getElem?_set_self hslot, Option.getD_some]

theorem window_setWindow_ne (state : DesktopState) {other : Nat} (hne : index ≠ other)
    (window : DesktopWindow) : (state.setWindow index window).window other = state.window other := by
  rw [DesktopState.window, DesktopState.setWindow, List.getD_eq_getElem?_getD,
    List.getElem?_set_ne hne, ← List.getD_eq_getElem?_getD, DesktopState.window]

end Opened

/-- The open windows of `next` are those of `state`, moved and changed. -/
structure Rearranged (state next : DesktopState) : Prop where
  tidy : next.Tidy
  keys_perm : (next.opened.map (·.key)).Perm (state.opened.map (·.key))
  consistent : (∀ window ∈ state.opened, window.Consistent) →
    ∀ window ∈ next.opened, window.Consistent
  focus : state.FocusSound → next.FocusSound
  modal : next.modalWindowId = 0 ∨ next.modalWindowId = state.modalWindowId
  initialized_eq : next.initialized = state.initialized

section Rearranged

variable {state next last : DesktopState} {index : Nat} {window : DesktopWindow}

theorem Rearranged.refl (htidy : state.Tidy) : state.Rearranged state :=
  ⟨htidy, .refl _, id, id, .inr rfl, rfl⟩

theorem Rearranged.trans (hfirst : state.Rearranged next) (hsecond : next.Rearranged last) :
    state.Rearranged last where
  tidy := hsecond.tidy
  keys_perm := hsecond.keys_perm.trans hfirst.keys_perm
  consistent := fun hall => hsecond.consistent (hfirst.consistent hall)
  focus := fun hfocus => hsecond.focus (hfirst.focus hfocus)
  modal := hsecond.modal.elim .inl fun heq => hfirst.modal.imp heq.trans heq.trans
  initialized_eq := hsecond.initialized_eq.trans hfirst.initialized_eq

theorem Rearranged.count_eq (hnext : state.Rearranged next) (htidy : state.Tidy) :
    next.windowCount = state.windowCount := by
  have hlength := hnext.keys_perm.length_eq
  rw [List.length_map, List.length_map] at hlength
  rw [hnext.tidy.count_eq, htidy.count_eq, hlength]

/-- Other fields change as well. -/
theorem Rearranged.congr (hnext : state.Rearranged next) (hwindows : last.windows = next.windows)
    (hcount : last.windowCount = next.windowCount) (hfocus : next.FocusSound → last.FocusSound)
    (hmodal : last.modalWindowId = 0 ∨ last.modalWindowId = next.modalWindowId)
    (hinitialized : last.initialized = next.initialized) : state.Rearranged last := by
  have hopened : last.opened = next.opened := by rw [opened, opened, hwindows, hcount]
  refine ⟨⟨?_, ?_⟩, ?_, ?_, fun hstate => hfocus (hnext.focus hstate),
    hmodal.elim .inl fun heq => hnext.modal.imp heq.trans heq.trans,
    hinitialized.trans hnext.initialized_eq⟩
  · rw [hwindows, hopened]
    exact hnext.tidy.holds
  · rw [hcount, hopened]
    exact hnext.tidy.count_eq
  · rw [hopened]
    exact hnext.keys_perm
  · rw [hopened]
    exact hnext.consistent

theorem Rearranged.closeModal (htidy : state.Tidy) :
    state.Rearranged { state with modalWindowId := 0 } :=
  (Rearranged.refl htidy).congr rfl rfl (fun hfocus => hfocus) (.inl rfl) rfl

theorem map_key_set {windows : List DesktopWindow} (hindex : index < windows.length)
    (hkey : window.key = windows[index].key) :
    (windows.set index window).map (·.key) = windows.map (·.key) := by
  apply List.ext_getElem
  · rw [List.length_map, List.length_map, List.length_set]
  intro position hleft hright
  rw [List.getElem_map, List.getElem_map, List.getElem_set]
  split_ifs with heq
  · subst heq
    exact hkey
  · rfl

theorem Rearranged.setWindow (htidy : state.Tidy) (hindex : index < state.windowCount)
    (hkey : window.key = (state.window index).key)
    (hconsistent : (state.window index).Consistent → window.Consistent) :
    state.Rearranged (state.setWindow index window) := by
  have hlt := htidy.lt_length hindex
  rw [htidy.window_of_lt hlt] at hkey hconsistent
  refine ⟨htidy.setWindow hindex window, ?_, ?_, id, .inr rfl, rfl⟩
  · rw [htidy.opened_setWindow hindex, map_key_set hlt hkey]
  · intro hall other hother
    rw [htidy.opened_setWindow hindex] at hother
    rcases List.mem_or_eq_of_mem_set hother with hmem | heq
    · exact hall other hmem
    · rw [heq]
      exact hconsistent (hall _ (List.getElem_mem _))

end Rearranged

end DesktopState

section Windows

variable (window : DesktopWindow)

theorem DesktopWindow.key_unminimize : window.unminimize.key = window.key := by
  rw [DesktopWindow.unminimize]
  split_ifs <;> rfl

theorem DesktopWindow.Consistent.unminimize {window : DesktopWindow} (hconsistent : window.Consistent) :
    window.unminimize.Consistent := by
  rw [DesktopWindow.unminimize]
  split_ifs
  · exact ⟨fun _ => rfl, fun _ => rfl⟩
  · exact hconsistent

theorem DesktopWindow.unminimize_unminimize : window.unminimize.unminimize = window.unminimize := by
  by_cases hminimized : window.flags.minimized = true
  · have hrevealed : window.unminimize = window.reveal := if_pos hminimized
    rw [hrevealed]
    exact if_neg Bool.false_ne_true
  · have hkept : window.unminimize = window := if_neg hminimized
    rw [hkept, hkept]

end Windows

/-! ### Finding windows -/

section Find

variable {state : DesktopState} {id index : Nat}

theorem desktopFindWindowIndexById_id
    (hfound : desktopFindWindowIndexById state id < state.windowCount) :
    (state.window (desktopFindWindowIndexById state id)).id = id := by
  unfold desktopFindWindowIndexById at hfound ⊢
  split_ifs at hfound ⊢ with hzero
  · omega
  · cases hfind : (List.range state.windowCount).find? fun index => (state.window index).id = id with
    | none =>
        rw [hfind, Option.getD_none] at hfound
        omega
    | some found =>
        rw [Option.getD_some]
        have hsome := List.find?_some hfind
        exact of_decide_eq_true hsome

theorem desktopFindWindowIndexById_lt (hindex : index < state.windowCount)
    (hid : (state.window index).id ≠ 0) :
    desktopFindWindowIndexById state (state.window index).id < state.windowCount := by
  rw [desktopFindWindowIndexById, if_neg hid]
  cases hfind : (List.range state.windowCount).find?
      fun other => (state.window other).id = (state.window index).id with
  | none =>
      have hnone := List.find?_eq_none.mp hfind index (List.mem_range.mpr hindex)
      exact absurd (decide_eq_true rfl) hnone
  | some found =>
      exact List.mem_range.mp (List.mem_of_find?_eq_some hfind)

theorem window_id_injective (htidy : state.Tidy) (hdistinct : (state.opened.map (·.id)).Nodup)
    {other : Nat} (hindex : index < state.windowCount) (hother : other < state.windowCount)
    (hid : (state.window other).id = (state.window index).id) : other = index := by
  have hleft := htidy.lt_length hother
  have hright := htidy.lt_length hindex
  rw [htidy.window_of_lt hleft, htidy.window_of_lt hright] at hid
  rw [← List.length_map (·.id)] at hleft hright
  apply (@List.Nodup.getElem_inj_iff _ _ hdistinct _ hleft _ hright).mp
  rw [List.getElem_map, List.getElem_map, hid]

/-- No two open windows have the same id. -/
theorem desktopFindWindowIndexById_window (htidy : state.Tidy)
    (hdistinct : (state.opened.map (·.id)).Nodup) (hindex : index < state.windowCount)
    (hid : (state.window index).id ≠ 0) :
    desktopFindWindowIndexById state (state.window index).id = index := by
  have hfound := desktopFindWindowIndexById_lt hindex hid
  exact window_id_injective htidy hdistinct hindex hfound (desktopFindWindowIndexById_id hfound)

end Find

/-! ### Rearranging -/

section Rearranging

variable {state : DesktopState} {index : Nat}

theorem desktopFocusWindow_rearranged (htidy : state.Tidy) (id : Nat) :
    state.Rearranged (desktopFocusWindow state id) := by
  unfold desktopFocusWindow
  dsimp only
  split_ifs with hmissing
  · exact .refl htidy
  have hindex : desktopFindWindowIndexById state id < state.windowCount := by omega
  have hset := DesktopState.Rearranged.setWindow htidy hindex
    (DesktopWindow.key_unminimize _) DesktopWindow.Consistent.unminimize
  refine hset.congr rfl rfl (fun _ => ?_) (.inr rfl) rfl
  exact Nat.le_sub_one_of_lt hindex

theorem desktopRecomputeFocus_eq (state : DesktopState) :
    ∃ focused, focused ≤ state.windowCount - 1
      ∧ desktopRecomputeFocus state = { state with focusedWindowIndex := focused } := by
  refine ⟨_, ?_, rfl⟩
  have hlast : ∀ count index, desktopLastVisible state count = some index → index < count := by
    intro count
    induction count with
    | zero => exact fun _ hsome => nomatch hsome
    | succ count ih =>
        intro index hsome
        rw [desktopLastVisible] at hsome
        split_ifs at hsome
        · cases hsome
          omega
        · exact Nat.lt_succ_of_lt (ih index hsome)
  split_ifs with hnone
  · omega
  · cases hsome : desktopLastVisible state state.windowCount with
    | none => exact Nat.le_refl _
    | some index => exact Nat.le_sub_one_of_lt (hlast _ _ hsome)

theorem DesktopState.Rearranged.recomputeFocus {next : DesktopState}
    (hnext : state.Rearranged next) : state.Rearranged (desktopRecomputeFocus next) := by
  obtain ⟨focused, hle, heq⟩ := desktopRecomputeFocus_eq next
  rw [heq]
  exact hnext.congr rfl rfl (fun _ => hle) (.inr rfl) rfl

theorem desktopMinimizeWindow_rearranged (htidy : state.Tidy) (id : Nat) :
    state.Rearranged (desktopMinimizeWindow state id) := by
  unfold desktopMinimizeWindow
  dsimp only
  split_ifs with hmissing
  · exact .refl htidy
  have hindex : desktopFindWindowIndexById state id < state.windowCount := by omega
  have hset : state.Rearranged (state.setWindow (desktopFindWindowIndexById state id)
      (state.window (desktopFindWindowIndexById state id)).hide) :=
    .setWindow htidy hindex rfl fun _ => ⟨nofun, nofun⟩
  apply DesktopState.Rearranged.recomputeFocus
  exact hset.congr rfl rfl (fun hfocus => hfocus) (.inr rfl) rfl

theorem DesktopWindow.clampToScreen_eq (window : DesktopWindow) (screenWidth screenHeight : Nat) :
    ∃ x y, window.clampToScreen screenWidth screenHeight = { window with x := x, y := y } :=
  ⟨_, _, rfl⟩

theorem desktopToggledWindow_key (state : DesktopState) (target : DesktopWindow) :
    (desktopToggledWindow state target).key = target.key := by
  unfold desktopToggledWindow
  split_ifs
  · rfl
  · obtain ⟨x, y, heq⟩ := DesktopWindow.clampToScreen_eq _ _ _
    rw [heq]
    rfl

theorem desktopToggleMaximizeWindow_rearranged (htidy : state.Tidy) (id : Nat) :
    state.Rearranged (desktopToggleMaximizeWindow state id) := by
  unfold desktopToggleMaximizeWindow
  split_ifs with hfb
  · exact .refl htidy
  dsimp only
  split_ifs with hmissing
  · exact .refl htidy
  have hindex : desktopFindWindowIndexById state id < state.windowCount := by omega
  have hset : state.Rearranged (state.setWindow (desktopFindWindowIndexById state id)
      (desktopToggledWindow state (state.window (desktopFindWindowIndexById state id))).reveal) :=
    .setWindow htidy hindex (desktopToggledWindow_key _ _) fun _ => ⟨fun _ => rfl, fun _ => rfl⟩
  exact hset.congr rfl rfl (fun hfocus => hfocus) (.inr rfl) rfl

theorem DesktopState.Tidy.holds_moveLast (htidy : state.Tidy) (hindex : index < state.windowCount)
    (window : DesktopWindow) :
    SlotArray.Holds .zero desktopMaxWindows
      ((state.shiftDown index).setWindow (state.windowCount - 1) window).windows
      (state.opened.eraseIdx index ++ [window]) := by
  have hmoved := htidy.holds.moveLast (htidy.lt_length hindex) window
  rw [← htidy.count_eq] at hmoved
  exact hmoved

theorem DesktopState.Tidy.length_moveLast (htidy : state.Tidy) (hindex : index < state.windowCount)
    (window : DesktopWindow) :
    state.windowCount = (state.opened.eraseIdx index ++ [window]).length := by
  rw [List.length_append, List.length_eraseIdx, if_pos (htidy.lt_length hindex),
    List.length_singleton, ← htidy.count_eq]
  omega

theorem DesktopState.Rearranged.moveLast (htidy : state.Tidy) (hindex : index < state.windowCount) :
    state.Rearranged
      ((state.shiftDown index).setWindow (state.windowCount - 1) (state.window index)) := by
  have hlt := htidy.lt_length hindex
  have hholds := htidy.holds_moveLast hindex (state.window index)
  have hlength := htidy.length_moveLast hindex (state.window index)
  have hperm : (state.opened.eraseIdx index ++ [state.window index]).Perm state.opened := by
    rw [htidy.window_of_lt hlt]
    exact (List.perm_append_singleton _ _).trans (List.getElem_cons_eraseIdx_perm hlt)
  have hopened := DesktopState.opened_of_holds hholds hlength
  refine ⟨.of_holds hholds hlength, ?_, fun hall window hwindow => ?_, id, .inr rfl, rfl⟩
  · rw [hopened]
    exact hperm.map _
  · rw [hopened] at hwindow
    exact hall window (hperm.mem_iff.mp hwindow)

theorem desktopBringToFront_rearranged (htidy : state.Tidy) (id : Nat) :
    state.Rearranged (desktopBringToFront state id) := by
  unfold desktopBringToFront
  dsimp only
  split_ifs with hmissing hlast
  · exact .refl htidy
  all_goals
    have hindex : desktopFindWindowIndexById state id < state.windowCount := by omega
    have hset := DesktopState.Rearranged.setWindow htidy hindex
      (DesktopWindow.key_unminimize _) DesktopWindow.Consistent.unminimize
  · exact hset.trans (desktopFocusWindow_rearranged hset.tidy id)
  · have hmoved := hset.trans (.moveLast hset.tidy hindex)
    exact hmoved.congr rfl rfl (fun _ => Nat.le_refl _) (.inr rfl) rfl

theorem desktopRaiseWindow_rearranged (htidy : state.Tidy) (id : Nat) :
    state.Rearranged (desktopRaiseWindow state id) := by
  have hfocus := desktopFocusWindow_rearranged htidy id
  exact hfocus.trans (desktopBringToFront_rearranged hfocus.tidy id)

end Rearranging

/-! ### The order of the windows -/

section Order

variable {state : DesktopState} {id index : Nat}

theorem desktopFindWindowIndexById_setWindow (htidy : state.Tidy) (hindex : index < state.windowCount)
    {window : DesktopWindow} (hid : window.id = (state.window index).id) :
    desktopFindWindowIndexById (state.setWindow index window) id
      = desktopFindWindowIndexById state id := by
  have hids : ∀ other, ((state.setWindow index window).window other).id = (state.window other).id := by
    intro other
    by_cases heq : index = other
    · rw [← heq, DesktopState.window_setWindow_self htidy hindex, hid]
    · rw [DesktopState.window_setWindow_ne state heq]
  have hcount : (state.setWindow index window).windowCount = state.windowCount := rfl
  simp only [desktopFindWindowIndexById, hids, hcount]

theorem desktopFocusWindow_opened (htidy : state.Tidy) (hindex : index < state.windowCount)
    (hfind : desktopFindWindowIndexById state id = index) :
    (desktopFocusWindow state id).opened
      = state.opened.set index (state.window index).unminimize := by
  unfold desktopFocusWindow
  dsimp only
  rw [hfind, if_neg (Nat.not_le_of_lt hindex)]
  exact htidy.opened_setWindow hindex _

theorem set_last {windows : List DesktopWindow} (hlast : index + 1 = windows.length)
    (window : DesktopWindow) : windows.set index window = windows.eraseIdx index ++ [window] := by
  rw [List.set_eq_take_append_cons_drop, if_pos (by omega), List.eraseIdx_eq_take_drop_succ, hlast,
    List.drop_length, List.append_nil]

/-- The window moves to the end, the others keep their order. -/
theorem desktopBringToFront_opened (htidy : state.Tidy) (hindex : index < state.windowCount)
    (hfind : desktopFindWindowIndexById state id = index) :
    (desktopBringToFront state id).opened
      = state.opened.eraseIdx index ++ [(state.window index).unminimize] := by
  have hid : (state.window index).unminimize.id = (state.window index).id :=
    congrArg Prod.fst (DesktopWindow.key_unminimize _)
  have hset := htidy.setWindow hindex (state.window index).unminimize
  have hself := DesktopState.window_setWindow_self htidy hindex (state.window index).unminimize
  have hopened := htidy.opened_setWindow hindex (state.window index).unminimize
  unfold desktopBringToFront
  dsimp only
  rw [hfind, if_neg (Nat.not_le_of_lt hindex)]
  split_ifs with hlast
  · have hagain := (desktopFindWindowIndexById_setWindow htidy hindex hid).trans hfind
    rw [desktopFocusWindow_opened hset hindex hagain, hself, DesktopWindow.unminimize_unminimize,
      hopened, List.set_set]
    exact set_last (htidy.count_eq ▸ hlast) _
  · have hmoved := DesktopState.opened_of_holds
      (hset.holds_moveLast hindex (state.window index).unminimize)
      (hset.length_moveLast hindex (state.window index).unminimize)
    rw [hopened, List.eraseIdx_set_eq] at hmoved
    rw [hself]
    exact hmoved

end Order

/-! ### Opening windows -/

section Opening

variable {state : DesktopState} {owner : Option DesktopInstanceRef}

theorem desktopInit_tidy (state : DesktopState) (fb : Framebuffer) :
    (desktopInit state (some fb)).2.Tidy
      ∧ (desktopInit state (some fb)).2.opened
        = [.init 1 40 32 268 132 (ascii "Welcome"), .init 2 336 72 232 116 (ascii "System")] := by
  have hholds : SlotArray.Holds .zero desktopMaxWindows (desktopInit state (some fb)).2.windows
      [.init 1 40 32 268 132 (ascii "Welcome"), .init 2 336 72 232 116 (ascii "System")] :=
    ⟨rfl, by decide⟩
  exact ⟨.of_holds hholds rfl, DesktopState.opened_of_holds hholds rfl⟩

theorem desktopEnsureInit_initialized (hinitialized : state.initialized = true)
    (fb : Option Framebuffer) : desktopEnsureInit state fb = (true, state) :=
  if_pos hinitialized

theorem desktopEnsureInit_none (state : DesktopState) : (desktopEnsureInit state none).2 = state := by
  unfold desktopEnsureInit
  split_ifs <;> rfl

theorem desktopEnsureInit_true {fb : Option Framebuffer} {next : DesktopState}
    (hensured : desktopEnsureInit state fb = (true, next)) : next.initialized = true := by
  unfold desktopEnsureInit at hensured
  split_ifs at hensured with hinitialized
  · cases hensured
    exact hinitialized
  · cases fb with
    | none => exact nomatch hensured
    | some fb =>
        cases hensured
        rfl

theorem desktopEnsureInit_tidy (htidy : state.Tidy) (fb : Option Framebuffer) :
    (desktopEnsureInit state fb).2.Tidy := by
  unfold desktopEnsureInit
  split_ifs
  · exact htidy
  · cases fb with
    | none => exact htidy
    | some fb => exact (desktopInit_tidy state fb).1

theorem DesktopState.Tidy.holds_addWindow (htidy : state.Tidy)
    (hroom : state.windowCount < desktopMaxWindows) (build : Nat → DesktopWindow) :
    SlotArray.Holds .zero desktopMaxWindows (desktopAddWindow state build).2.windows
      (state.opened ++ [build (desktopNextWindowId { state with
        windowCount := state.windowCount + 1 })]) := by
  have hpushed := htidy.holds.push (htidy.count_eq ▸ hroom)
    (build (desktopNextWindowId { state with windowCount := state.windowCount + 1 }))
  rw [← htidy.count_eq] at hpushed
  exact hpushed

theorem DesktopState.Tidy.length_addWindow (htidy : state.Tidy) (window : DesktopWindow) :
    state.windowCount + 1 = (state.opened ++ [window]).length := by
  rw [List.length_append, List.length_singleton, ← htidy.count_eq]

theorem DesktopState.Tidy.addWindow (htidy : state.Tidy)
    (hroom : state.windowCount < desktopMaxWindows) (build : Nat → DesktopWindow) :
    (desktopAddWindow state build).2.Tidy :=
  .of_holds (htidy.holds_addWindow hroom build) (htidy.length_addWindow _)

theorem DesktopState.Tidy.opened_addWindow (htidy : state.Tidy)
    (hroom : state.windowCount < desktopMaxWindows) (build : Nat → DesktopWindow) :
    (desktopAddWindow state build).2.opened = state.opened ++ [build (desktopNextWindowId
      { state with windowCount := state.windowCount + 1 })] :=
  DesktopState.opened_of_holds (htidy.holds_addWindow hroom build) (htidy.length_addWindow _)

/-- What a function puts into a slot: a window that is shown, under the id it is given. -/
def Builds (owner : Option DesktopInstanceRef) (build : Nat → DesktopWindow) : Prop :=
  ∀ id, (build id).key = (id, owner) ∧ (build id).Consistent

/-- A window of `owner` is opened, and the windows are rearranged. -/
def OpensOne (owner : Option DesktopInstanceRef) (state next : DesktopState) : Prop :=
  ∃ build modal, Builds owner build ∧ state.initialized = true
    ∧ state.windowCount < desktopMaxWindows
    ∧ (modal = state.modalWindowId ∨ modal = (desktopAddWindow state build).1)
    ∧ { (desktopAddWindow state build).2 with modalWindowId := modal }.Rearranged next

/-- At most one window is opened. -/
inductive OpensUpTo (owner : Option DesktopInstanceRef) (state next : DesktopState) : Prop
  | kept (hkept : state.Rearranged next)
  | added (hadded : OpensOne owner state next)

theorem DesktopWindow.init_consistent (id : Nat) (x y : Int) (width height : Nat)
    (title : List UInt8) : (DesktopWindow.init id x y width height title).Consistent :=
  ⟨fun _ => rfl, fun _ => rfl⟩

theorem Builds.clampToScreen {build : Nat → DesktopWindow} (hbuilds : Builds owner build)
    (screenWidth screenHeight : Nat) :
    Builds owner fun id => (build id).clampToScreen screenWidth screenHeight := by
  intro id
  obtain ⟨x, y, heq⟩ := DesktopWindow.clampToScreen_eq (build id) screenWidth screenHeight
  dsimp only
  rw [heq]
  exact hbuilds id

theorem desktopCenterWindow_eq (state : DesktopState) (window : DesktopWindow) :
    ∃ x y, desktopCenterWindow state window = { window with x := x, y := y } := by
  unfold desktopCenterWindow
  split_ifs
  · exact ⟨window.x, window.y, rfl⟩
  · exact DesktopWindow.clampToScreen_eq _ _ _

theorem OpensOne.raise (htidy : state.Tidy) (hinitialized : state.initialized = true)
    (hroom : state.windowCount < desktopMaxWindows) {build : Nat → DesktopWindow}
    (hbuilds : Builds owner build) :
    OpensOne owner state
      (desktopRaiseWindow (desktopAddWindow state build).2 (desktopAddWindow state build).1) :=
  ⟨build, state.modalWindowId, hbuilds, hinitialized, hroom, .inl rfl,
    desktopRaiseWindow_rearranged (htidy.addWindow hroom build) _⟩

/-- A window is added, raised and made the modal one. -/
theorem OpensOne.raiseModal (htidy : state.Tidy) (hinitialized : state.initialized = true)
    (hroom : state.windowCount < desktopMaxWindows) {build : Nat → DesktopWindow}
    (hbuilds : Builds owner build) :
    OpensOne owner state
      (desktopRaiseWindow
        { (desktopAddWindow state build).2 with modalWindowId := (desktopAddWindow state build).1 }
        (desktopAddWindow state build).1) := by
  have htidied : DesktopState.Tidy
      { (desktopAddWindow state build).2 with modalWindowId := (desktopAddWindow state build).1 } :=
    ⟨(htidy.addWindow hroom build).holds, (htidy.addWindow hroom build).count_eq⟩
  exact ⟨build, _, hbuilds, hinitialized, hroom, .inr rfl, desktopRaiseWindow_rearranged htidied _⟩

theorem OpensOne.congr {next last : DesktopState} (hnext : OpensOne owner state next)
    (hwindows : last.windows = next.windows) (hcount : last.windowCount = next.windowCount)
    (hfocused : last.focusedWindowIndex = next.focusedWindowIndex)
    (hmodal : last.modalWindowId = next.modalWindowId)
    (hinitialized : last.initialized = next.initialized) : OpensOne owner state last := by
  obtain ⟨build, modal, hbuilds, hstart, hroom, hmodals, hrearranged⟩ := hnext
  refine ⟨build, modal, hbuilds, hstart, hroom, hmodals,
    hrearranged.congr hwindows hcount ?_ (.inr hmodal) hinitialized⟩
  rw [DesktopState.FocusSound, DesktopState.FocusSound, hfocused, hcount]
  exact id

theorem desktopOpenCustomWindow_opens (htidy : state.Tidy) (fb : Option Framebuffer)
    (title : List UInt8) (width height : Nat) (draw handleEvent : DesktopCallback)
    (userData : DesktopUserData) :
    ∃ found, OpensUpTo none (desktopEnsureInit state found).2
      (desktopOpenCustomWindow state fb title width height draw handleEvent userData).2 := by
  unfold desktopOpenCustomWindow
  split_ifs with htitle
  · refine ⟨none, ?_⟩
    rw [desktopEnsureInit_none]
    exact .kept (.refl htidy)
  refine ⟨fb, ?_⟩
  have hmid := desktopEnsureInit_tidy htidy fb
  rcases hensured : desktopEnsureInit state fb with ⟨_ | _, mid⟩
  all_goals
    rw [hensured] at hmid
    dsimp only at hmid ⊢
  · exact .kept (.refl hmid)
  cases hfound : desktopFindCustomWindow mid title with
  | some index =>
      have hindex : index < mid.windowCount := List.mem_range.mp (List.mem_of_find?_eq_some hfound)
      have hset : mid.Rearranged (mid.setWindow index
          ((mid.window index).bind draw handleEvent userData)) :=
        .setWindow hmid hindex rfl id
      exact .kept (hset.trans (desktopRaiseWindow_rearranged hset.tidy _))
  | none =>
      dsimp only
      split_ifs with hfull
      · exact .kept (.refl hmid)
      · refine .added (.raise hmid (desktopEnsureInit_true hensured) (by omega)
          (Builds.clampToScreen (fun id => ⟨rfl, ?_⟩) _ _))
        exact ⟨fun _ => rfl, fun _ => rfl⟩

theorem desktopFindModalWindow_lt {index : Nat} (hfound : desktopFindModalWindow state = some index) :
    index < state.windowCount := by
  unfold desktopFindModalWindow desktopFindWindowById at hfound
  dsimp only at hfound
  split_ifs at hfound
  cases hfound
  omega

theorem desktopCenterWindow_consistent {window : DesktopWindow} (state : DesktopState)
    (hconsistent : window.Consistent) : (desktopCenterWindow state window).Consistent := by
  obtain ⟨x, y, heq⟩ := desktopCenterWindow_eq state window
  rw [heq]
  exact hconsistent

theorem desktopCenterWindow_key (state : DesktopState) (window : DesktopWindow) :
    (desktopCenterWindow state window).key = window.key := by
  obtain ⟨x, y, heq⟩ := desktopCenterWindow_eq state window
  rw [heq]
  rfl

theorem desktopShowAlert_opens {desktop : Desktop} (htidy : desktop.state.Tidy)
    (fb : Option Framebuffer) (title message : List UInt8) :
    ∃ state dialog, (desktopShowAlert desktop fb title message).2
        = { desktop with state := state, alertDialog := dialog }
      ∧ OpensUpTo none (desktopEnsureInit desktop.state fb).2 state := by
  unfold desktopShowAlert
  have hmid := desktopEnsureInit_tidy htidy fb
  rcases hensured : desktopEnsureInit desktop.state fb with ⟨_ | _, mid⟩
  all_goals
    rw [hensured] at hmid
    dsimp only at hmid ⊢
  · exact ⟨mid, _, rfl, .kept (.refl hmid)⟩
  by_cases hempty : title = [] ∨ message = []
  · rw [if_pos hempty]
    exact ⟨mid, _, rfl, .kept (.refl hmid)⟩
  rw [if_neg hempty]
  cases hfound : desktopFindModalWindow mid with
  | some index =>
      refine ⟨_, _, rfl, .kept ?_⟩
      have hset : mid.Rearranged (mid.setWindow index (desktopCenterWindow mid
          { mid.window index with
            title := strlcpy (strlcpy title desktopWindowTitleMax) desktopWindowTitleMax
            userData := .alertDialog })) :=
        .setWindow hmid (desktopFindModalWindow_lt hfound) (desktopCenterWindow_key _ _)
          fun hconsistent => desktopCenterWindow_consistent _ hconsistent
      exact (hset.trans (desktopRaiseWindow_rearranged hset.tidy _)).congr rfl rfl
        (fun hfocus => hfocus) (.inr rfl) rfl
  | none =>
      dsimp only
      split_ifs with hfull
      · exact ⟨_, _, rfl, .kept (.closeModal hmid)⟩
      · have hbuilds : Builds none fun id => desktopCenterWindow { mid with modalWindowId := 0 }
            { (DesktopWindow.init id 0 0 desktopAlertWidth desktopAlertHeight
                (strlcpy title desktopWindowTitleMax)).bind .dialogDraw .null .alertDialog with
              flags := ⟨true, false, false, true⟩ } :=
          fun id => ⟨desktopCenterWindow_key _ _, desktopCenterWindow_consistent _
            ⟨fun _ => rfl, fun _ => rfl⟩⟩
        have hraised := OpensOne.raiseModal hmid (desktopEnsureInit_true hensured)
          (Nat.lt_of_not_le hfull) hbuilds
        exact ⟨_, _, rfl, .added (hraised.congr rfl rfl rfl rfl rfl)⟩

theorem desktopOpenAppInstanceWindow_cases {desktop : Desktop} (htidy : desktop.state.Tidy)
    (fb : Option Framebuffer) (ref : DesktopInstanceRef) (title : List UInt8) (width height : Nat)
    (userData : DesktopUserData) :
    (∃ found, desktopOpenAppInstanceWindow desktop fb ref title width height userData
        = (false, { desktop with state := (desktopEnsureInit desktop.state found).2 }))
      ∨ ((desktop.instances ref).running = true
        ∧ ∃ state, OpensOne (some ref) (desktopEnsureInit desktop.state fb).2 state
          ∧ desktopOpenAppInstanceWindow desktop fb ref title width height userData
            = (true, { desktopAppInstanceWindowOpened desktop ref with state := state })) := by
  unfold desktopOpenAppInstanceWindow
  split_ifs with hrefused
  · refine .inl ⟨none, ?_⟩
    rw [desktopEnsureInit_none]
  have hrunning : (desktop.instances ref).running = true := by
    cases hstopped : (desktop.instances ref).running with
    | true => rfl
    | false => exact absurd (.inl (by rw [hstopped]; rfl)) hrefused
  have hmid := desktopEnsureInit_tidy htidy fb
  rcases hensured : desktopEnsureInit desktop.state fb with ⟨_ | _, mid⟩
  all_goals
    rw [hensured] at hmid
    dsimp only at hmid ⊢
  · refine .inl ⟨fb, ?_⟩
    rw [hensured]
  split_ifs with hfull
  · refine .inl ⟨fb, ?_⟩
    rw [hensured]
  · have hbuilds : Builds (some ref) fun id => { DesktopWindow.init id
          (72 + int32 (mid.windowCount * 28))
          (88 + int32 (mid.windowCount * 24)) width height title with
        owner := some ref
        userData := userData } :=
      fun id => ⟨rfl, fun _ => rfl, fun _ => rfl⟩
    have hraised := OpensOne.raise hmid (desktopEnsureInit_true hensured) (by omega)
      (hbuilds.clampToScreen mid.fbWidth (desktopWorkAreaHeight mid))
    refine .inr ⟨hrunning, _, hraised, ?_⟩
    unfold desktopAppInstanceWindowOpened
    dsimp only
    rw [hrunning]
    rfl

end Opening

/-! ### The shell -/

section Shell

variable {state : DesktopState}

theorem desktopEnter_rearranged (htidy : state.Tidy) (hinitialized : state.initialized = true)
    (fb : Option Framebuffer) : state.Rearranged (desktopEnter state fb).2 := by
  unfold desktopEnter
  rw [desktopEnsureInit_initialized hinitialized]
  exact (DesktopState.Rearranged.refl htidy).congr rfl rfl (fun _ => Nat.zero_le _) (.inr rfl) rfl

/-- The desktop is initialized if there is a framebuffer and a display. -/
theorem shellRunDesktop_cases (desktop : Desktop) (fb : Option Framebuffer) (available : Bool)
    (command : DesktopCommand) :
    ((!available || fb.isNone) = true
        ∧ shellRunDesktop desktop fb available command = desktop)
      ∨ ∃ found state, available = true ∧ fb = some found
        ∧ (desktopInit desktop.state (some found)).2.Rearranged state
        ∧ shellRunDesktop desktop fb available command = { desktop with state := state } := by
  cases available with
  | false => exact .inl ⟨rfl, rfl⟩
  | true =>
      cases fb with
      | none => exact .inl ⟨rfl, rfl⟩
      | some fb =>
          have htidy := (desktopInit_tidy desktop.state fb).1
          cases command with
          | run => exact .inr ⟨fb, _, rfl, rfl, desktopEnter_rearranged htidy rfl (some fb), rfl⟩
          | once => exact .inr ⟨fb, _, rfl, rfl, desktopEnter_rearranged htidy rfl (some fb), rfl⟩
          | state => exact .inr ⟨fb, _, rfl, rfl, .refl htidy, rfl⟩
          | usage => exact .inr ⟨fb, _, rfl, rfl, .refl htidy, rfl⟩

end Shell

/-! ### Starting apps -/

theorem textEditorLoadFile_opens {desktop : Desktop} (htidy : desktop.state.Tidy) (env : DesktopEnv)
    (path : List UInt8) :
    ∃ fb state dialog, textEditorLoadFile desktop env path
        = { desktop with state := state, alertDialog := dialog }
      ∧ OpensUpTo none (desktopEnsureInit desktop.state fb).2 state := by
  have hkept : OpensUpTo none (desktopEnsureInit desktop.state none).2 desktop.state := by
    rw [desktopEnsureInit_none]
    exact .kept (.refl htidy)
  unfold textEditorLoadFile
  split_ifs
  · exact ⟨none, _, _, rfl, hkept⟩
  · cases env.load with
    | loaded => exact ⟨none, _, _, rfl, hkept⟩
    | openFailed => exact ⟨env.fb, desktopShowAlert_opens htidy _ _ _⟩
    | readFailed => exact ⟨env.fb, desktopShowAlert_opens htidy _ _ _⟩

/-- The state of the app is allocated, the editor loads its file, a window is opened. -/
theorem DesktopApp.onStart_cases (app : DesktopApp) (desktop : Desktop) (env : DesktopEnv)
    (ref : DesktopInstanceRef) :
    ((desktopAppAllocState desktop app).1 = none
        ∧ app.onStart desktop env ref = (false, (desktopAppAllocState desktop app).2))
      ∨ ∃ slot path title width height, (desktopAppAllocState desktop app).1 = some slot
        ∧ app.onStart desktop env ref
          = desktopAppShow (textEditorLoadFile (desktopAppAllocState desktop app).2 env path) env.fb
            ref (.appState app slot) title width height := by
  cases app
  case terminal =>
    dsimp only [DesktopApp.onStart]
    unfold terminalAppStart
    rcases desktopAppAllocState desktop .terminal with ⟨_ | slot, allocated⟩
    · exact .inl ⟨rfl, rfl⟩
    · exact .inr ⟨slot, [], _, _, _, rfl, rfl⟩
  case editor =>
    dsimp only [DesktopApp.onStart]
    unfold textEditorAppStart
    rcases desktopAppAllocState desktop .editor with ⟨_ | slot, allocated⟩
    · exact .inl ⟨rfl, rfl⟩
    · exact .inr ⟨slot, _, _, _, _, rfl, rfl⟩
  case files =>
    dsimp only [DesktopApp.onStart]
    unfold filesAppStart
    rcases desktopAppAllocState desktop .files with ⟨_ | slot, allocated⟩
    · exact .inl ⟨rfl, rfl⟩
    · exact .inr ⟨slot, [], _, _, _, rfl, rfl⟩

/-! ### Closing windows -/

section Closing

theorem desktopAppClose_state (desktop : Desktop) (state : DesktopState)
    (userData : DesktopUserData) :
    desktopAppClose { desktop with state := state } userData
      = { desktopAppClose desktop userData with state := state } := by
  cases userData <;> rfl

theorem desktopAppInstanceStop_state (desktop : Desktop) (state : DesktopState)
    (ref : DesktopInstanceRef) :
    desktopAppInstanceStop { desktop with state := state } ref
      = { desktopAppInstanceStop desktop ref with state := state } := by
  unfold desktopAppInstanceStop
  dsimp only
  split_ifs
  · rfl
  · rw [desktopAppClose_state]
    rfl
  · rfl

theorem desktopAppInstanceWindowClosed_state (desktop : Desktop) (state : DesktopState)
    (owner : Option DesktopInstanceRef) :
    desktopAppInstanceWindowClosed { desktop with state := state } owner
      = { desktopAppInstanceWindowClosed desktop owner with state := state } := by
  unfold desktopAppInstanceWindowClosed
  cases owner with
  | none => rfl
  | some ref =>
      dsimp only
      split_ifs
      · rfl
      · exact desktopAppInstanceStop_state (desktop.setInstance ref { desktop.instances ref with
          windowCount := (desktop.instances ref).windowCount - 1 }) state ref
      · rfl

theorem desktopAppInstanceWindowOpened_state (desktop : Desktop) (state : DesktopState)
    (ref : DesktopInstanceRef) :
    desktopAppInstanceWindowOpened { desktop with state := state } ref
      = { desktopAppInstanceWindowOpened desktop ref with state := state } := by
  unfold desktopAppInstanceWindowOpened
  dsimp only
  split_ifs <;> rfl

/-- The window at `index` is taken out. -/
structure Closes (index : Nat) (state next : DesktopState) : Prop where
  index_lt : index < state.windowCount
  tidy : next.Tidy
  opened_eq : next.opened = state.opened.eraseIdx index
  focus : next.FocusSound
  modal_eq : next.modalWindowId = state.modalWindowId
  initialized_eq : next.initialized = state.initialized

theorem DesktopState.Tidy.closes {state : DesktopState} {index : Nat} (htidy : state.Tidy)
    (hindex : index < state.windowCount) :
    Closes index state (desktopRecomputeFocus
      { ({ state.shiftDown index with windowCount := state.windowCount - 1 } : DesktopState).setWindow
        (state.windowCount - 1) .zero with dragWindowId := 0 }) := by
  have herased := htidy.holds.erase (htidy.lt_length hindex)
  rw [← htidy.count_eq] at herased
  have hlength : state.windowCount - 1 = (state.opened.eraseIdx index).length := by
    rw [List.length_eraseIdx, if_pos (htidy.lt_length hindex), htidy.count_eq]
  obtain ⟨focused, hle, heq⟩ := desktopRecomputeFocus_eq
    { ({ state.shiftDown index with windowCount := state.windowCount - 1 } : DesktopState).setWindow
      (state.windowCount - 1) .zero with dragWindowId := 0 }
  rw [heq]
  exact ⟨hindex, .of_holds herased hlength, DesktopState.opened_of_holds herased hlength, hle, rfl, rfl⟩

theorem desktopDestroyWindow_cases {desktop : Desktop} (htidy : desktop.state.Tidy) (id : Nat) :
    (desktop.state.windowCount ≤ desktopFindWindowIndexById desktop.state id
        ∧ desktopDestroyWindow desktop id = desktop)
      ∨ ∃ index state, desktopFindWindowIndexById desktop.state id = index
        ∧ Closes index desktop.state state
        ∧ desktopDestroyWindow desktop id
          = { desktopAppInstanceWindowClosed desktop (desktop.state.window index).owner with
              state := state } := by
  unfold desktopDestroyWindow
  dsimp only
  split_ifs with hmissing
  · exact .inl ⟨hmissing, rfl⟩
  · refine .inr ⟨_, _, rfl, htidy.closes (Nat.lt_of_not_le hmissing), ?_⟩
    rw [desktopAppInstanceWindowClosed_state]

theorem desktopCloseModalWindow_cases (desktop : Desktop) :
    (desktop.state.modalWindowId = 0 ∧ desktopCloseModalWindow desktop = desktop)
      ∨ (desktop.state.modalWindowId ≠ 0
        ∧ (desktopCloseModalWindow desktop
            = { desktop with state := { desktop.state with modalWindowId := 0 } }
          ∨ desktopCloseModalWindow desktop
            = desktopDestroyWindow { desktop with state := { desktop.state with modalWindowId := 0 } }
              desktop.state.modalWindowId)) := by
  unfold desktopCloseModalWindow
  dsimp only
  split_ifs with hnone
  · exact .inl ⟨hnone, rfl⟩
  · refine .inr ⟨hnone, ?_⟩
    cases desktopFindWindowById desktop.state desktop.state.modalWindowId with
    | none => exact .inl rfl
    | some index => exact .inr rfl

end Closing

end DuckOs

import DuckOs.Desktop.Handler
import DuckOs.Proof.DesktopRun
import DuckOs.Proof.DrawFill
import Mathlib.Data.Int.ConditionallyCompleteOrder
import Mathlib.Order.ConditionallyCompleteLattice.Basic

/-!
# Dismissing an alert

A button event raises the modal window, which moves the windows behind it one slot down, and then looks
for the OK button in the slot where the modal window was.
-/

namespace DuckOs

/-- The window at `index` is gone, the others are as they were, and none is modal. -/
structure Desktop.Dismissed (desktop after : Desktop) (index : Nat) : Prop where
  windows_eq : after.windows = desktop.windows.eraseIdx index
  modal_eq : after.state.modalWindowId = 0

/-- The rectangle of the OK button. -/
def DesktopWindow.okArea (window : DesktopWindow) : Set (Int × Int) :=
  Set.Ico window.okX (window.okX + 52) ×ˢ Set.Ico window.okY (window.okY + 16)

/-- The OK button is under the point, and begins on the screen. -/
structure DesktopWindow.OkAt (window : DesktopWindow) (x y : Nat) : Prop where
  x_nonneg : 0 ≤ window.okX
  y_nonneg : 0 ≤ window.okY
  mem_area : ((x : Int), (y : Int)) ∈ window.okArea

/-- The slot that the raised window leaves holds the window from above it. -/
def DesktopState.slotAfterRaise (state : DesktopState) (index : Nat) : DesktopWindow :=
  if index + 1 = state.windowCount then state.window index else state.window (index + 1)

/-! ### The button -/

section Button

variable {window : DesktopWindow} {x y : Nat}

theorem desktopAlertOkHitTest_iff (hx : x < 2 ^ 31) (hy : y < 2 ^ 31) :
    desktopAlertOkHitTest window x y = true ↔ window.OkAt x y := by
  have hokX : -2 ^ 31 ≤ window.okX ∧ window.okX < 2 ^ 31 := int32_bounds _
  have hokY : -2 ^ 31 ≤ window.okY ∧ window.okY < 2 ^ 31 := int32_bounds _
  have hiff : window.OkAt x y ↔ 0 ≤ window.okX ∧ 0 ≤ window.okY
      ∧ (window.okX ≤ x ∧ (x : Int) < window.okX + 52) ∧ window.okY ≤ y ∧ (y : Int) < window.okY + 16 :=
    ⟨fun hok => ⟨hok.x_nonneg, hok.y_nonneg, hok.mem_area⟩, fun hok => ⟨hok.1, hok.2.1, hok.2.2⟩⟩
  rw [hiff, desktopAlertOkHitTest, decide_eq_true_eq, uint32_int32, uint32_int32]
  simp only [uint32]
  omega

end Button

/-! ### Raising a window -/

section Raise

variable {state : DesktopState} {id index : Nat}

theorem DesktopWindow.unminimize_okAt {window : DesktopWindow} {x y : Nat} :
    window.unminimize.OkAt x y ↔ window.OkAt x y := by
  have hx : window.unminimize.okX = window.okX := by
    rw [unminimize]
    split <;> rfl
  have hy : window.unminimize.okY = window.okY := by
    rw [unminimize]
    split <;> rfl
  constructor
  · rintro ⟨hleft, hup, hmem⟩
    rw [okArea, hx, hy] at hmem
    exact ⟨hx ▸ hleft, hy ▸ hup, hmem⟩
  · rintro ⟨hleft, hup, hmem⟩
    rw [okArea, ← hx, ← hy] at hmem
    exact ⟨hx.symm ▸ hleft, hy.symm ▸ hup, hmem⟩

theorem desktopRaiseWindow_opened (htidy : state.Tidy) (hindex : index < state.windowCount)
    (hfind : desktopFindWindowIndexById state id = index) :
    (desktopRaiseWindow state id).opened
      = state.opened.eraseIdx index ++ [(state.window index).unminimize] := by
  have hid : (state.window index).unminimize.id = (state.window index).id :=
    congrArg Prod.fst (DesktopWindow.key_unminimize _)
  have hfocus : desktopFocusWindow state id
      = { state.setWindow index (state.window index).unminimize with focusedWindowIndex := index } := by
    rw [desktopFocusWindow, hfind]
    exact if_neg (Nat.not_le_of_lt hindex)
  have hset := htidy.setWindow hindex (state.window index).unminimize
  have hself := DesktopState.window_setWindow_self htidy hindex (state.window index).unminimize
  have hopened := htidy.opened_setWindow hindex (state.window index).unminimize
  have hagain := (desktopFindWindowIndexById_setWindow htidy hindex hid).trans hfind
  rw [desktopRaiseWindow, hfocus]
  have hbring := @desktopBringToFront_opened
    { state.setWindow index (state.window index).unminimize with focusedWindowIndex := index } id index
    ⟨hset.holds, hset.count_eq⟩ hindex hagain
  rw [hbring]
  change (state.setWindow index (state.window index).unminimize).opened.eraseIdx index
    ++ [((state.setWindow index (state.window index).unminimize).window index).unminimize] = _
  rw [hopened, List.eraseIdx_set_eq, hself, DesktopWindow.unminimize_unminimize]

theorem desktopFocusWindow_modalWindowId (state : DesktopState) (id : Nat) :
    (desktopFocusWindow state id).modalWindowId = state.modalWindowId := by
  unfold desktopFocusWindow
  dsimp only
  split <;> rfl

theorem desktopRaiseWindow_modalWindowId (state : DesktopState) (id : Nat) :
    (desktopRaiseWindow state id).modalWindowId = state.modalWindowId := by
  rw [← desktopFocusWindow_modalWindowId state id, desktopRaiseWindow]
  generalize desktopFocusWindow state id = next
  unfold desktopBringToFront
  dsimp only
  split
  · rfl
  · split
    · exact desktopFocusWindow_modalWindowId _ _
    · rfl

/-- The slot of a window that is raised: the window itself if it was the last one. -/
theorem okAt_raise (htidy : state.Tidy) (hindex : index < state.windowCount)
    (hfind : desktopFindWindowIndexById state id = index) {x y : Nat} :
    ((desktopRaiseWindow state id).window index).OkAt x y ↔ (state.slotAfterRaise index).OkAt x y := by
  have hraised := desktopRaiseWindow_rearranged htidy id
  have hopened := desktopRaiseWindow_opened htidy hindex hfind
  have hcount := hraised.count_eq htidy
  have hlast := htidy.count_eq
  have hlength : index < (desktopRaiseWindow state id).opened.length := by
    rw [← hraised.tidy.count_eq, hcount]
    exact hindex
  have herase : (state.opened.eraseIdx index).length + 1 = state.opened.length := by
    rw [List.length_eraseIdx, if_pos (htidy.lt_length hindex)]
    omega
  have hslot : (desktopRaiseWindow state id).window index
      = (state.opened.eraseIdx index ++ [(state.window index).unminimize]).getD index .zero := by
    rw [hraised.tidy.window_of_lt hlength, ← hopened, List.getD_eq_getElem?_getD,
      List.getElem?_eq_getElem hlength, Option.getD_some]
  rw [hslot, DesktopState.slotAfterRaise, List.getD_eq_getElem?_getD]
  by_cases htop : index + 1 = state.windowCount
  · rw [if_pos htop, List.getElem?_append_right (by omega)]
    obtain hzero : index - (state.opened.eraseIdx index).length = 0 := by omega
    rw [hzero, List.getElem?_cons_zero, Option.getD_some, DesktopWindow.unminimize_okAt]
  · have habove : index + 1 < state.opened.length := by omega
    rw [if_neg htop, List.getElem?_append_left (by omega), List.getElem?_eraseIdx_of_ge (le_refl index),
      List.getElem?_eq_getElem habove, Option.getD_some, htidy.window_of_lt habove]

end Raise

/-! ### The alert -/

theorem desktopFindWindowById_eq_some {state : DesktopState} {id index : Nat}
    (hfind : desktopFindWindowIndexById state id = index) (hindex : index < state.windowCount) :
    desktopFindWindowById state id = some index := by
  rw [desktopFindWindowById, hfind]
  exact if_neg (Nat.not_le_of_lt hindex)

/-- The branch of `desktop_handle_modal_event` for a button. -/
def desktopPressModal (desktop : Desktop) (index : Nat) (event : DesktopEvent) : Desktop :=
  let state := desktopRaiseWindow desktop.state desktop.state.modalWindowId
  if desktopAlertOkHitTest (state.window index) event.cursorX event.cursorY then
    desktopCloseModalWindow { desktop with state := state }
  else { desktop with state := state }

/-- Closing the alert from the front leaves the windows that were there without it. -/
theorem dismissed_of_raise {desktop : Desktop} {index : Nat} (htidy : desktop.state.Tidy)
    (hdistinct : (desktop.state.opened.map (·.id)).Nodup) (hindex : index < desktop.state.windowCount)
    (hmodal : desktop.state.modalWindowId ≠ 0)
    (hid : (desktop.state.window index).id = desktop.state.modalWindowId) :
    desktop.Dismissed (desktopCloseModalWindow
      { desktop with state := desktopRaiseWindow desktop.state desktop.state.modalWindowId }) index := by
  have hfind := desktopFindWindowIndexById_window htidy hdistinct hindex (hid ▸ hmodal)
  rw [hid] at hfind
  have hraised := desktopRaiseWindow_rearranged htidy desktop.state.modalWindowId
  have hopened := desktopRaiseWindow_opened htidy hindex hfind
  have hcount := hraised.count_eq htidy
  have hmodal' := desktopRaiseWindow_modalWindowId desktop.state desktop.state.modalWindowId
  generalize desktopRaiseWindow desktop.state desktop.state.modalWindowId = raised
    at hraised hopened hcount hmodal' ⊢
  have hids : (raised.opened.map (·.id)).Nodup := hraised.ids_perm.nodup_iff.mpr hdistinct
  have herase : raised.windowCount = (desktop.state.opened.eraseIdx index).length + 1 := by
    rw [hcount, List.length_eraseIdx, if_pos (htidy.lt_length hindex), htidy.count_eq]
    have := htidy.lt_length hindex
    omega
  have hlastlt : raised.windowCount - 1 < raised.windowCount := by omega
  have hlast : (raised.window (raised.windowCount - 1)).id = desktop.state.modalWindowId := by
    have hlength := hraised.tidy.lt_length hlastlt
    have hid' : (desktop.state.window index).unminimize.id = (desktop.state.window index).id :=
      congrArg Prod.fst (DesktopWindow.key_unminimize _)
    rw [hraised.tidy.window_of_lt hlength, ← hid, ← hid']
    refine congrArg DesktopWindow.id (Option.some.inj ?_)
    rw [← List.getElem?_eq_getElem, hopened, herase, Nat.add_sub_cancel, List.getElem?_concat_length]
  have hlastfind := desktopFindWindowIndexById_window hraised.tidy hids hlastlt
    (by rw [hlast]; exact hmodal)
  rw [hlast] at hlastfind
  have htidy' := (DesktopState.Rearranged.closeModal hraised.tidy).tidy
  rw [desktopCloseModalWindow]
  dsimp only
  rw [hmodal', if_neg hmodal, desktopFindWindowById_eq_some hlastfind hlastlt]
  obtain ⟨hmissing, -⟩ | ⟨found, state, hfound, hcloses, heq⟩ := @desktopDestroyWindow_cases
      { desktop with state := { raised with modalWindowId := 0 } } htidy' desktop.state.modalWindowId
  · exact absurd (hmissing.trans_eq hlastfind) (Nat.not_le_of_lt hlastlt)
  · dsimp only
    rw [heq]
    obtain rfl : raised.windowCount - 1 = found := hlastfind.symm.trans hfound
    refine ⟨?_, hcloses.modal_eq⟩
    refine hcloses.opened_eq.trans ?_
    change raised.opened.eraseIdx (raised.windowCount - 1) = desktop.state.opened.eraseIdx index
    rw [hopened, herase, Nat.add_sub_cancel, List.eraseIdx_append_of_length_le (le_refl _),
      Nat.sub_self]
    simp

section Press

variable {desktop : Desktop} {event : DesktopEvent} {index : Nat}

/-- A button event goes to the modal window, wherever it is. -/
theorem desktopHandleEvent_modal {session : DesktopSession} (env : DesktopEnv)
    (htidy : session.desktop.state.Tidy) (hdistinct : (session.desktop.state.opened.map (·.id)).Nodup)
    (hindex : index < session.desktop.state.windowCount)
    (hmodal : session.desktop.state.modalWindowId ≠ 0)
    (hid : (session.desktop.state.window index).id = session.desktop.state.modalWindowId)
    (htype : event.type = .buttonDown) :
    (desktopHandleEvent session env event).1.desktop = desktopPressModal session.desktop index event := by
  have hfind := desktopFindWindowIndexById_window htidy hdistinct hindex (hid ▸ hmodal)
  rw [hid] at hfind
  have hfound := desktopFindWindowById_eq_some hfind hindex
  have hmodalEvent : desktopHandleModalEvent session.desktop event
      = (true, desktopPressModal session.desktop index event) := by
    rw [desktopHandleModalEvent, hfound]
    simp only [htype, hid, desktopPressModal]
    split
    · rfl
    · rfl
  rw [desktopHandleEvent, if_neg hmodal, hmodalEvent]

theorem desktopPressModal_dismisses_iff {fb : Surface} (htidy : desktop.state.Tidy)
    (hdistinct : (desktop.state.opened.map (·.id)).Nodup) (hindex : index < desktop.state.windowCount)
    (hmodal : desktop.state.modalWindowId ≠ 0)
    (hid : (desktop.state.window index).id = desktop.state.modalWindowId)
    (hinside : (event.cursorX, event.cursorY)
      ∈ Surface.painted (desktopDialogDrawOk (desktop.state.window index) fb)) :
    desktop.Dismissed (desktopPressModal desktop index event) index
      ↔ (desktop.state.slotAfterRaise index).OkAt event.cursorX event.cursorY := by
  obtain ⟨-, -, -, ⟨-, hright⟩, ⟨-, hbottom⟩, -⟩ := mem_painted_fillRect.mp hinside
  have hx : event.cursorX < 2 ^ 31 := by
    have := (int32_bounds ((desktop.state.window index).okX + 52)).2
    omega
  have hy : event.cursorY < 2 ^ 31 := by
    have := (int32_bounds ((desktop.state.window index).okY + 16)).2
    omega
  have hfind := desktopFindWindowIndexById_window htidy hdistinct hindex (hid ▸ hmodal)
  have hok := @okAt_raise _ _ _ htidy hindex hfind event.cursorX event.cursorY
  rw [hid] at hok
  rw [← hok, ← desktopAlertOkHitTest_iff hx hy]
  constructor
  · intro hdismissed
    by_contra hmiss
    have hmodal' := hdismissed.modal_eq
    rw [desktopPressModal, if_neg hmiss] at hmodal'
    exact hmodal ((desktopRaiseWindow_modalWindowId _ _).symm.trans hmodal')
  · intro hhit
    rw [desktopPressModal, if_pos hhit]
    exact dismissed_of_raise htidy hdistinct hindex hmodal hid

end Press

/-- A press on the OK button dismisses the alert just when the slot that the alert leaves has its OK
button there too: the alert itself, or the window from above it. -/
theorem desktopHandleEvent_dismisses_iff (session : DesktopSession) (env : DesktopEnv)
    (event : DesktopEvent) {index : Nat} {fb : Surface} (htidy : session.desktop.state.Tidy)
    (hdistinct : (session.desktop.state.opened.map (·.id)).Nodup)
    (hindex : index < session.desktop.state.windowCount)
    (hmodal : session.desktop.state.modalWindowId ≠ 0)
    (hid : (session.desktop.state.window index).id = session.desktop.state.modalWindowId)
    (htype : event.type = .buttonDown)
    (hinside : (event.cursorX, event.cursorY)
      ∈ Surface.painted (desktopDialogDrawOk (session.desktop.state.window index) fb)) :
    session.desktop.Dismissed (desktopHandleEvent session env event).1.desktop index
      ↔ (session.desktop.state.slotAfterRaise index).OkAt event.cursorX event.cursorY := by
  rw [desktopHandleEvent_modal env htidy hdistinct hindex hmodal hid htype]
  exact desktopPressModal_dismisses_iff htidy hdistinct hindex hmodal hid hinside

/-- Whatever is called after `desktop_init`: a modal window is one of the windows, and a press on its OK
button dismisses it just when the slot it leaves has its OK button there too. -/
theorem desktopHandleEvent_dismisses_after (start : Desktop) (screen : Framebuffer) (ops : List DesktopOp)
    (hkeeps : Machine.EveryStep Desktop.step Desktop.KeepsModal
      { start with state := (desktopInit start.state (some screen)).2 } ops)
    (hopened : Desktop.openedCount { start with state := (desktopInit start.state (some screen)).2 } ops
      < 2 ^ 31)
    (session : DesktopSession) (env : DesktopEnv)
    (hsession : session.desktop
      = ops.foldl Desktop.step { start with state := (desktopInit start.state (some screen)).2 })
    (hmodal : session.desktop.state.modalWindowId ≠ 0) :
    ∃ index < session.desktop.state.windowCount,
      (session.desktop.state.window index).id = session.desktop.state.modalWindowId
        ∧ ∀ (event : DesktopEvent) (fb : Surface), event.type = .buttonDown →
          (event.cursorX, event.cursorY)
            ∈ Surface.painted (desktopDialogDrawOk (session.desktop.state.window index) fb) →
          (session.desktop.Dismissed (desktopHandleEvent session env event).1.desktop index
            ↔ (session.desktop.state.slotAfterRaise index).OkAt event.cursorX event.cursorY) := by
  have hmax : desktopMaxWindows = 8 := rfl
  obtain ⟨bound, hinv⟩ := Desktop.run_windowsInv (desktopInit_windowsInv start.state screen) (Nat.le_refl _)
    (by omega) hkeeps
  rw [← hsession] at hinv
  obtain ⟨window, hwindow, hid⟩ := List.mem_map.mp (hinv.modal.resolve_left hmodal)
  obtain ⟨index, hlt, rfl⟩ := List.mem_iff_getElem.mp hwindow
  have hindex : index < session.desktop.state.windowCount := hinv.tidy.count_eq ▸ hlt
  rw [← hinv.tidy.window_of_lt hlt] at hid
  refine ⟨index, hindex, hid, fun event fb htype hinside => ?_⟩
  rw [desktopHandleEvent_modal env hinv.tidy hinv.distinct hindex hmodal hid htype]
  exact desktopPressModal_dismisses_iff hinv.tidy hinv.distinct hindex hmodal hid hinside

/-- An alert that is the topmost window. -/
theorem desktopHandleEvent_dismisses_topmost :
    let desktop := ({ Desktop.boot with state := (desktopInit .zero (some ⟨640, 480⟩)).2 } : Desktop).step
      (.showAlert (some ⟨640, 480⟩) (ascii "Alert") (ascii "text"))
    let event := { DesktopEvent.init with type := .buttonDown, cursorX := 300, cursorY := 250 }
    desktop.Dismissed
      (desktopHandleEvent ⟨desktop, 300, 250, 0, 0, 0, 0, .init⟩ ⟨some ⟨640, 480⟩, .loaded⟩
        event).1.desktop 2 := by
  intro desktop event
  have htidy : desktop.state.Tidy :=
    ⟨⟨by decide +kernel, by decide +kernel⟩, by decide +kernel⟩
  have hinside : (event.cursorX, event.cursorY) ∈ Surface.painted
      (desktopDialogDrawOk (desktop.state.window 2) ⟨⟨640, 480⟩, true, fun _ => 0⟩) :=
    mem_painted_fillRect.mpr ⟨rfl, by decide +kernel⟩
  exact (desktopHandleEvent_dismisses_iff ⟨desktop, 300, 250, 0, 0, 0, 0, .init⟩ _ event htidy
    (by decide +kernel) (by decide +kernel) (by decide +kernel) (by decide +kernel) rfl hinside).mpr
      ⟨by decide +kernel, by decide +kernel, ⟨by decide +kernel, by decide +kernel⟩,
        by decide +kernel, by decide +kernel⟩

/-- The editor reports a file that it cannot open, and opens its own window above the alert: a press on
OK does not dismiss it. -/
theorem desktopHandleEvent_keeps_alert :
    let desktop := ({ Desktop.boot with state := (desktopInit .zero (some ⟨640, 480⟩)).2 } : Desktop).step
      (.launch ⟨some ⟨640, 480⟩, .openFailed⟩ (ascii "editor") (ascii "/missing"))
    let event := { DesktopEvent.init with type := .buttonDown, cursorX := 300, cursorY := 250 }
    (desktop.state.window 2).id = desktop.state.modalWindowId
      ∧ (event.cursorX, event.cursorY) ∈ Surface.painted
        (desktopDialogDrawOk (desktop.state.window 2) ⟨⟨640, 480⟩, true, fun _ => 0⟩)
      ∧ ¬ desktop.Dismissed
        (desktopHandleEvent ⟨desktop, 300, 250, 0, 0, 0, 0, .init⟩ ⟨some ⟨640, 480⟩, .loaded⟩
          event).1.desktop 2 := by
  intro desktop event
  refine ⟨by decide +kernel, mem_painted_fillRect.mpr ⟨rfl, by decide +kernel⟩, fun hdismissed => ?_⟩
  exact absurd hdismissed.modal_eq (by decide +kernel)

end DuckOs

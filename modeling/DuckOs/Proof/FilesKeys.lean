import DuckOs.Desktop.FilesApp
import DuckOs.Lib.Machine
import DuckOs.Proof.DesktopWindows

/-!
# Keys of the Files app

`desktop_input_route` turns keys into characters, clicks and cursor moves before it hands any on as a
key. Of the four keys that `files_app_event` handles one gets through, and only while the keyboard is not
among the sources that are translated.
-/

namespace DuckOs

/-- A press of a key that `files_app_event` handles. -/
structure FilesPress (press : InputEvent) : Prop where
  key : ∃ keycode, press.data = .key keycode
    ∧ (keycode = inputKeyUp ∨ keycode = inputKeyDown ∨ keycode = inputKeyEnter
      ∨ keycode = inputKeyBackspace)
  pressed : desktopInputIsKeyPressed press = true

theorem FilesPress.data_eq {press : InputEvent} {keycode : Nat} (hpress : FilesPress press)
    (hcode : press.keycode = keycode) : press.data = .key keycode := by
  obtain ⟨_, hkey, -⟩ := hpress.key
  rw [InputEvent.keycode, hkey] at hcode
  rw [hkey]
  exact congrArg InputEventData.key hcode

namespace FilesDesktop

/-- A Files window has the focus; there is no modal window and the launcher is closed. -/
structure FilesFocused (world : FilesDesktop) (slot : Fin 8) : Prop where
  tidy : world.session.desktop.state.Tidy
  distinct : (world.session.desktop.state.opened.map (·.id)).Nodup
  modal_eq : world.session.desktop.state.modalWindowId = 0
  launcher_closed : world.session.desktop.state.launcherOpen = false
  focused_lt : world.session.desktop.state.focusedWindowIndex < world.session.desktop.state.windowCount
  id_ne : world.focused.id ≠ 0
  app_eq : (world.focused.owner.bind fun ref => (world.session.desktop.instances ref).app) = some .files
  userData_eq : world.focused.userData = .appState .files slot

/-- The press is handed to `files_app_event` as a key, and the app does what that specifies. -/
def Handled (world : FilesDesktop) (env : FilesEnv)
    (others : DesktopCall → FilesDesktop → FilesDesktop) (slot : Fin 8) (press : InputEvent) : Prop :=
  ∃ event : DesktopEvent, event.type = .key ∧ event.input = press
    ∧ (world.turn env others press).1 = some ⟨.app .files, world.focused, event⟩
    ∧ (world.turn env others press).2.files slot
      = (filesAppEvent env world.session.desktop world.focused (world.files slot) event).1

end FilesDesktop

/-! ### Characters of the keys -/

section Route

variable {press : InputEvent} {keycode : Nat}

theorem inputTranslateKeypress_files (input : InputState) :
    inputTranslateKeypress input inputKeyUp = none
      ∧ inputTranslateKeypress input inputKeyDown = none
      ∧ inputTranslateKeypress input inputKeyEnter = some 10
      ∧ inputTranslateKeypress input inputKeyBackspace = some 8 := by
  cases hshift : input.shift with
  | false =>
      simp only [inputTranslateKeypress, hshift]
      decide
  | true =>
      simp only [inputTranslateKeypress, hshift]
      decide

/-- A key that is let through is translated, and leaves the modifiers alone. -/
theorem inputEventToChar_press (input : InputState) (hkey : press.data = .key keycode)
    (hshift : inputKeyIsShift keycode = false) (hpressed : desktopInputIsKeyPressed press = true) :
    inputEventToChar input press
      = (if inputEventAllowed input press then inputTranslateKeypress input keycode else none,
          input) := by
  have hpress : ¬ (press.pressed ≠ inputKeyPress ∧ press.pressed ≠ inputKeyRepeat) := by
    rw [desktopInputIsKeyPressed, decide_eq_true_eq] at hpressed
    tauto
  rw [inputEventToChar, hkey]
  cases hallowed : inputEventAllowed input press with
  | false => rfl
  | true =>
      dsimp only
      rw [if_neg (by decide), if_neg (by rw [hshift]; decide), if_neg hpress, if_pos rfl]

/-- A press is routed as its character, if it has one. -/
theorem desktopInputRoute_press (view : DesktopRouteView) (input : InputState)
    (pointer : DesktopPointer) (hkey : press.data = .key keycode)
    (hother : keycode ≠ inputKeyEsc ∧ keycode ≠ inputKeyMouseLeft ∧ keycode ≠ inputKeyTab)
    (hshift : inputKeyIsShift keycode = false) (hpressed : desktopInputIsKeyPressed press = true) :
    desktopInputRoute view input press pointer
      = (match if inputEventAllowed input press then inputTranslateKeypress input keycode else none with
        | some character => view.toFocused
            { DesktopEvent.init with type := .char, character := character, input := press } pointer
        | none => view.routeKey press keycode pointer, input) := by
  rw [desktopInputRoute, hkey]
  dsimp only
  rw [if_neg fun hesc => hother.1 hesc.2, if_pos hother.2,
    inputEventToChar_press input hkey hshift hpressed]
  cases if inputEventAllowed input press then inputTranslateKeypress input keycode else none with
  | none => rfl
  | some character => rfl

/-- A press without a character: enter is a click, backspace stays a key, the arrows move the cursor. -/
theorem routeKey_files (view : DesktopRouteView) (pointer : DesktopPointer)
    (hpressed : desktopInputIsKeyPressed press = true) :
    (view.routeKey press inputKeyUp pointer).event.type = .cursorMove
      ∧ (view.routeKey press inputKeyDown pointer).event.type = .cursorMove
      ∧ (view.routeKey press inputKeyEnter pointer).event.type = .buttonDown
      ∧ view.routeKey press inputKeyBackspace pointer
        = view.toFocused (desktopEventFromInput press)
          (desktopClampCursor view.fbWidth view.fbHeight pointer) := by
  simp only [DesktopRouteView.routeKey, hpressed]
  exact ⟨rfl, rfl, rfl, rfl⟩

/-- The event of one of these keys is a key only if it is backspace and not let through as a
character. -/
theorem desktopInputRoute_type_iff (view : DesktopRouteView) (input : InputState)
    (pointer : DesktopPointer) (hpress : FilesPress press) :
    (desktopInputRoute view input press pointer).1.event.type = .key
      ↔ press.keycode = inputKeyBackspace ∧ inputEventAllowed input press = false := by
  obtain ⟨⟨keycode, hkey, hcode⟩, hpressed⟩ := hpress
  have hkeycode : press.keycode = keycode := by rw [InputEvent.keycode, hkey]
  obtain ⟨hup, hdown, henter, hback⟩ := inputTranslateKeypress_files input
  obtain ⟨hrouteUp, hrouteDown, hrouteEnter, hrouteBack⟩ := routeKey_files view pointer hpressed
  rw [hkeycode]
  obtain rfl | rfl | rfl | rfl := hcode
  all_goals
    rw [desktopInputRoute_press view input pointer hkey (by decide) (by decide) hpressed]
  · rw [hup, ite_self]
    exact iff_of_false (by rw [hrouteUp]; decide) fun hwhen => absurd hwhen.1 (by decide)
  · rw [hdown, ite_self]
    exact iff_of_false (by rw [hrouteDown]; decide) fun hwhen => absurd hwhen.1 (by decide)
  · refine iff_of_false ?_ fun hwhen => absurd hwhen.1 (by decide)
    rw [henter]
    cases inputEventAllowed input press with
    | false => exact fun htype => absurd (hrouteEnter.symm.trans htype) (by decide)
    | true => exact fun htype => nomatch htype
  · rw [hback]
    cases inputEventAllowed input press with
    | false =>
        refine iff_of_true ?_ ⟨rfl, rfl⟩
        change (view.routeKey press inputKeyBackspace pointer).event.type = .key
        rw [hrouteBack, DesktopRouteView.toFocused, DesktopEvent.at, desktopEventFromInput, hkey]
    | true => exact iff_of_false (fun htype => nomatch htype) fun hwhen => nomatch hwhen.2

end Route

/-! ### Calls of handlers -/

section Calls

variable {session : DesktopSession} {env : DesktopEnv} {event : DesktopEvent} {call : DesktopCall}

theorem desktopDispatchTo_event {desktop : Desktop} (hcall : desktopDispatchTo desktop event = some call) :
    call.event = event := by
  rw [desktopDispatchTo, Option.bind_eq_some_iff] at hcall
  obtain ⟨index, -, hdispatch⟩ := hcall
  rw [desktopDispatchWindowEvent] at hdispatch
  split at hdispatch
  · exact (Option.some.inj hdispatch) ▸ rfl
  · split at hdispatch
    · exact nomatch hdispatch
    · exact (Option.some.inj hdispatch) ▸ rfl

theorem key_event (hcall : (session.key env event).2 = some call) : call.event = event := by
  rw [DesktopSession.key] at hcall
  dsimp only at hcall
  iterate 5
    split at hcall
    · exact nomatch hcall
  exact desktopDispatchTo_event hcall

theorem buttonDown_event (hcall : (session.buttonDown env event).2 = some call) :
    call.event = event := by
  rw [DesktopSession.buttonDown] at hcall
  dsimp only at hcall
  split at hcall
  · exact nomatch hcall
  · split at hcall
    · exact nomatch hcall
    · split at hcall
      · exact nomatch hcall
      · exact desktopDispatchTo_event hcall

/-- A handler is called with the event that is handled. -/
theorem desktopHandleEvent_event (hcall : (desktopHandleEvent session env event).2 = some call) :
    call.event = event := by
  have hhandle : ∀ session : DesktopSession, (session.handle env event).2 = some call →
      call.event = event := by
    intro session hcall
    rw [DesktopSession.handle] at hcall
    split at hcall
    · exact key_event hcall
    · exact desktopDispatchTo_event hcall
    · exact buttonDown_event hcall
    · exact desktopDispatchTo_event hcall
    · exact nomatch hcall
    · exact nomatch hcall
  rw [desktopHandleEvent] at hcall
  split at hcall
  · exact hhandle _ hcall
  · split at hcall
    · exact nomatch hcall
    · exact hhandle _ hcall

end Calls

/-! ### Turns -/

@[simp]
theorem desktopClampCursor_focusedWindowIndex (fbWidth fbHeight : Nat) (pointer : DesktopPointer) :
    (desktopClampCursor fbWidth fbHeight pointer).focusedWindowIndex = pointer.focusedWindowIndex := by
  unfold desktopClampCursor
  split
  · rfl
  · rfl

section Turn

variable {world : FilesDesktop} {env : FilesEnv} {slot : Fin 8} {press : InputEvent}
  {others : DesktopCall → FilesDesktop → FilesDesktop}

/-- A key that is backspace is handed on. -/
theorem desktopHandleEvent_backspace {session : DesktopSession} {env : DesktopEnv} {event : DesktopEvent}
    (hmodal : session.desktop.state.modalWindowId = 0)
    (hlauncher : session.desktop.state.launcherOpen = false) (htype : event.type = .key)
    (hcode : event.input.keycode = inputKeyBackspace) :
    desktopHandleEvent session env event = (session, desktopDispatchTo session.desktop event) := by
  rw [desktopHandleEvent, if_pos hmodal, DesktopSession.handle, htype]
  simp only [DesktopSession.key, hcode, hlauncher, Bool.false_eq_true, false_and, if_false]
  rw [if_neg fun hpressed => absurd hpressed.1 (by decide),
    if_neg fun hpressed => absurd hpressed.1 (by decide)]

/-- The window with the focus is found by its id. -/
theorem FilesDesktop.FilesFocused.dispatch (hfocused : world.FilesFocused slot) {event : DesktopEvent}
    (hid : event.targetWindowId = world.focused.id) :
    desktopDispatchTo world.session.desktop event = some ⟨.app .files, world.focused, event⟩ := by
  have hfind := desktopFindWindowIndexById_window hfocused.tidy hfocused.distinct hfocused.focused_lt
    hfocused.id_ne
  have hfound : desktopFindWindowById world.session.desktop.state world.focused.id
      = some world.session.desktop.state.focusedWindowIndex := by
    rw [desktopFindWindowById]
    exact (if_neg (hfind ▸ Nat.not_le_of_lt hfocused.focused_lt)).trans (congrArg some hfind)
  rw [desktopDispatchTo, hid, hfound, Option.bind_some, desktopDispatchWindowEvent]
  have happ := hfocused.app_eq
  rw [FilesDesktop.focused] at happ
  rw [happ]
  rfl

/-- Backspace as it is routed to the window with the focus. -/
def FilesDesktop.backspace (world : FilesDesktop) (press : InputEvent) : DesktopEvent :=
  (desktopEventFromInput press).at world.focused.id
    (desktopClampCursor world.session.routeView.fbWidth world.session.routeView.fbHeight
      world.session.pointer)

/-- The cursor may be clamped, nothing else changes but the call. -/
theorem turn_backspace (hfocused : world.FilesFocused slot)
    (hkey : press.data = .key inputKeyBackspace) (hpressed : desktopInputIsKeyPressed press = true)
    (hallowed : inputEventAllowed world.session.input press = false) :
    (world.session.turn env.desktop press).1.desktop = world.session.desktop
      ∧ (world.session.turn env.desktop press).1.input = world.session.input
      ∧ (world.session.turn env.desktop press).2
        = some ⟨.app .files, world.focused, world.backspace press⟩ := by
  have hroute := desktopInputRoute_press world.session.routeView world.session.input
    world.session.pointer hkey (by decide) (by decide) hpressed
  have hid : world.session.routeView.idAt world.session.pointer.focusedWindowIndex
      = world.focused.id :=
    if_pos hfocused.focused_lt
  rw [hallowed] at hroute
  simp only [Bool.false_eq_true, if_false] at hroute
  rw [(routeKey_files _ _ hpressed).2.2.2, DesktopRouteView.toFocused,
    desktopClampCursor_focusedWindowIndex, hid] at hroute
  have hdesktop : (world.session.setPointer (desktopClampCursor world.session.routeView.fbWidth
      world.session.routeView.fbHeight world.session.pointer)).desktop = world.session.desktop := by
    simp only [DesktopSession.setPointer, DesktopSession.setState,
      desktopClampCursor_focusedWindowIndex]
    rfl
  rw [DesktopSession.turn, DesktopSession.route, hroute]
  dsimp only
  rw [desktopHandleEvent_backspace]
  · refine ⟨hdesktop, rfl, ?_⟩
    dsimp only
    rw [hdesktop]
    exact hfocused.dispatch rfl
  · exact (congrArg (·.state.modalWindowId) hdesktop).trans hfocused.modal_eq
  · exact (congrArg (·.state.launcherOpen) hdesktop).trans hfocused.launcher_closed
  · rw [DesktopEvent.at, desktopEventFromInput, hkey]
  · rw [DesktopEvent.at, desktopEventFromInput, hkey]
    exact congrArg (fun data => InputEvent.keycode ⟨data, press.source, press.pressed, press.modifiers⟩) hkey

theorem filesAppEvent_backspace (hkey : press.data = .key inputKeyBackspace)
    (hpressed : desktopInputIsKeyPressed press = true) (desktop : Desktop) (window : DesktopWindow)
    (state : FilesAppState) :
    filesAppEvent env desktop window state (world.backspace press) = (state.goParent env, desktop) := by
  have htype : (world.backspace press).type = .key := by
    rw [FilesDesktop.backspace, DesktopEvent.at, desktopEventFromInput, hkey]
  have hinput : (world.backspace press).input = press := by
    rw [FilesDesktop.backspace, DesktopEvent.at, desktopEventFromInput, hkey]
  have hcode : press.keycode = inputKeyBackspace := by rw [InputEvent.keycode, hkey]
  simp only [filesAppEvent, htype, hinput, hpressed, hcode]
  rfl

/-- The turn of a press that gets through: the app goes to the parent, the desktop stays as it is. -/
theorem filesDesktop_turn_backspace (hfocused : world.FilesFocused slot)
    (hkey : press.data = .key inputKeyBackspace) (hpressed : desktopInputIsKeyPressed press = true)
    (hallowed : inputEventAllowed world.session.input press = false) :
    (world.turn env others press).1 = some ⟨.app .files, world.focused, world.backspace press⟩
      ∧ (world.turn env others press).2.session.desktop = world.session.desktop
      ∧ (world.turn env others press).2.session.input = world.session.input
      ∧ (world.turn env others press).2.files
        = Function.update world.files slot ((world.files slot).goParent env) := by
  obtain ⟨hdesktop, hinput, hcall⟩ := @turn_backspace _ env _ _ hfocused hkey hpressed hallowed
  have hslot : DesktopCall.filesSlot ⟨.app .files, world.focused, world.backspace press⟩
      = some slot := by
    simp only [DesktopCall.filesSlot, hfocused.userData_eq]
  refine ⟨hcall, ?_⟩
  rw [FilesDesktop.turn]
  dsimp only
  rw [hcall, FilesDesktop.deliver]
  simp only [hslot, hdesktop, hinput]
  rw [filesAppEvent_backspace hkey hpressed]
  exact ⟨rfl, trivial, rfl⟩

/-- One press is handled just when it is backspace and not let through as a character. -/
theorem handled_iff (hfocused : world.FilesFocused slot) (hpress : FilesPress press) :
    world.Handled env others slot press
      ↔ press.keycode = inputKeyBackspace ∧ inputEventAllowed world.session.input press = false := by
  constructor
  · rintro ⟨event, htype, -, hcall, -⟩
    rw [← desktopInputRoute_type_iff world.session.routeView _ world.session.pointer hpress]
    rw [FilesDesktop.turn] at hcall
    dsimp only at hcall
    rw [DesktopSession.turn] at hcall
    split at hcall
    · have hevent := desktopHandleEvent_event hcall
      dsimp only at hevent
      rw [hevent] at htype
      exact htype
    · exact nomatch hcall
  · rintro ⟨hcode, hallowed⟩
    have hkey := hpress.data_eq hcode
    obtain ⟨hcall, -, -, hfiles⟩ :=
      @filesDesktop_turn_backspace _ env _ _ others hfocused hkey hpress.pressed hallowed
    refine ⟨world.backspace press, ?_, ?_, hcall, ?_⟩
    · rw [FilesDesktop.backspace, DesktopEvent.at, desktopEventFromInput, hkey]
    · rw [FilesDesktop.backspace, DesktopEvent.at, desktopEventFromInput, hkey]
    · rw [hfiles, Function.update_self, filesAppEvent_backspace hkey hpress.pressed]

/-- Behind a press that is handled the Files window still has the focus. -/
theorem FilesDesktop.FilesFocused.next (hfocused : world.FilesFocused slot) (hpress : FilesPress press)
    (hhandled : world.Handled env others slot press) :
    (world.turn env others press).2.FilesFocused slot
      ∧ (world.turn env others press).2.session.input = world.session.input := by
  obtain ⟨hcode, hallowed⟩ := (handled_iff hfocused hpress).mp hhandled
  obtain ⟨-, hdesktop, hinput, -⟩ := @filesDesktop_turn_backspace world env slot press others hfocused
    (hpress.data_eq hcode) hpress.pressed hallowed
  refine ⟨?_, hinput⟩
  obtain ⟨tidy, distinct, modal, launcher, focused, id, app, userData⟩ := hfocused
  rw [FilesDesktop.focused] at id app userData
  rw [← hdesktop] at tidy distinct modal launcher focused id app userData
  exact ⟨tidy, distinct, modal, launcher, focused, id, app, userData⟩

/-- Over a sequence of presses of its keys the Files app is handed each of them as a key, and does what
it specifies for it, just when all are backspace from a source that is not translated. -/
theorem files_keys_handled_iff {presses : List InputEvent} (hfocused : world.FilesFocused slot)
    (hpresses : ∀ press ∈ presses, FilesPress press) :
    Machine.EveryStep (fun world press => (FilesDesktop.turn world env others press).2)
        (fun world press => world.Handled env others slot press) world presses
      ↔ ∀ press ∈ presses, press.keycode = inputKeyBackspace
        ∧ inputEventAllowed world.session.input press = false := by
  induction presses generalizing world with
  | nil => exact iff_of_true trivial fun press hpress => absurd hpress List.not_mem_nil
  | cons press rest ih =>
      have hpress := hpresses press List.mem_cons_self
      rw [List.forall_mem_cons, ← @handled_iff world env slot press others hfocused hpress]
      refine and_congr_right fun hhandled => ?_
      obtain ⟨hfocused', hinput⟩ := hfocused.next hpress hhandled
      rw [ih hfocused' fun other hother => hpresses other (List.mem_cons_of_mem _ hother), hinput]

end Turn

/-! ### A started desktop -/

/-- With two files in `/a/b`. -/
def filesKeysEnv : FilesEnv where
  desktop := ⟨some ⟨640, 480⟩, .loaded⟩
  vfs := ⟨⟨none, [⟨ascii "a/b/c", 2048, 21, 0, by decide, by decide⟩,
    ⟨ascii "a/b/d", 2560, 22, 0, by decide, by decide⟩], true⟩, true⟩
  stale := fun _ _ => 0

/-- The Files window of a desktop that has just been started, with `/a/b` listed. -/
def filesKeysExample (keyboard : Bool) : FilesDesktop where
  session := ⟨({ Desktop.boot with state := (desktopInit .zero (some ⟨640, 480⟩)).2 } : Desktop).step
    (.launch ⟨some ⟨640, 480⟩, .loaded⟩ (ascii "files") []), 0, 0, 0, 0, 0, 0, ⟨true, keyboard, false⟩⟩
  files := fun _ => .setPath filesKeysEnv ⟨ascii "/", [], [], 0, 0⟩ (ascii "/a/b")

theorem filesKeysExample_focused (keyboard : Bool) : (filesKeysExample keyboard).FilesFocused 0 := by
  cases keyboard with
  | false =>
      exact ⟨⟨⟨by decide +kernel, by decide +kernel⟩, by decide +kernel⟩, by decide +kernel,
        by decide +kernel, by decide +kernel, by decide +kernel, by decide +kernel, by decide +kernel,
        by decide +kernel⟩
  | true =>
      exact ⟨⟨⟨by decide +kernel, by decide +kernel⟩, by decide +kernel⟩, by decide +kernel,
        by decide +kernel, by decide +kernel, by decide +kernel, by decide +kernel, by decide +kernel,
        by decide +kernel⟩

theorem filesPress_key {keycode : Nat}
    (hcode : keycode = inputKeyUp ∨ keycode = inputKeyDown ∨ keycode = inputKeyEnter
      ∨ keycode = inputKeyBackspace) :
    FilesPress ⟨.key keycode, .keyboard, inputKeyPress, 0⟩ :=
  ⟨⟨keycode, rfl, hcode⟩, rfl⟩

def filesBackspace : InputEvent := ⟨.key inputKeyBackspace, .keyboard, inputKeyPress, 0⟩

/-- Two presses lead from `/a/b` to `/`. -/
theorem files_keys_handled_backspace :
    Machine.EveryStep
        (fun world press => (FilesDesktop.turn world filesKeysEnv (fun _ world => world) press).2)
        (fun world press => world.Handled filesKeysEnv (fun _ world => world) 0 press)
        (filesKeysExample false) [filesBackspace, filesBackspace]
      ∧ ((filesKeysExample false).files 0).path = ascii "/a/b"
      ∧ (([filesBackspace, filesBackspace].foldl
          (fun world press => (FilesDesktop.turn world filesKeysEnv (fun _ world => world) press).2)
          (filesKeysExample false)).files 0).path = ascii "/" := by
  refine ⟨(files_keys_handled_iff (filesKeysExample_focused false) ?_).mpr ?_, by decide +kernel,
    by decide +kernel⟩
  · exact List.forall_mem_cons.mpr ⟨filesPress_key (.inr (.inr (.inr rfl))),
      List.forall_mem_singleton.mpr (filesPress_key (.inr (.inr (.inr rfl))))⟩
  · exact List.forall_mem_cons.mpr ⟨⟨rfl, rfl⟩, List.forall_mem_singleton.mpr ⟨rfl, rfl⟩⟩

/-- Down only moves the cursor: no handler is called. -/
theorem files_keys_down_missed :
    (filesKeysExample true).FilesFocused 0
      ∧ FilesPress ⟨.key inputKeyDown, .keyboard, inputKeyPress, 0⟩
      ∧ ((filesKeysExample true).turn filesKeysEnv (fun _ world => world)
        ⟨.key inputKeyDown, .keyboard, inputKeyPress, 0⟩).1 = none
      ∧ ¬ (filesKeysExample true).Handled filesKeysEnv (fun _ world => world) 0
        ⟨.key inputKeyDown, .keyboard, inputKeyPress, 0⟩ := by
  have hpress := filesPress_key (.inr (.inl (@rfl _ inputKeyDown)))
  refine ⟨filesKeysExample_focused true, hpress, by decide +kernel, fun hhandled => ?_⟩
  exact absurd ((handled_iff (filesKeysExample_focused true) hpress).mp hhandled).1 (by decide)

end DuckOs

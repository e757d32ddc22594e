import DuckOs.Desktop.AppRegistry
import DuckOs.Desktop.Input
import DuckOs.Desktop.Taskbar

/-!
# Handling events

`desktop_handle_event` of `src/desktop/desktop.c`, and one turn of the loop in `desktop_run` that pops
an event. A handler of a window is called last, so the call is left as a result.
-/

namespace DuckOs

/-- The static variables that events read and write. -/
structure DesktopSession where
  desktop : Desktop
  cursorX : Nat
  cursorY : Nat
  primaryButtonDown : Nat
  dragOffsetX : Nat
  dragOffsetY : Nat
  launcherSelectedIndex : Nat
  input : InputState

/-- `desktop_list_apps`. -/
def desktopListApps : List (List UInt8) := [ascii "terminal", ascii "editor", ascii "files"]

/-- The function that `desktop_dispatch_window_event` calls. -/
inductive DesktopReceiver where
  | app (app : DesktopApp)
  | callback (handleEvent : DesktopCallback)
  deriving DecidableEq

structure DesktopCall where
  receiver : DesktopReceiver
  window : DesktopWindow
  event : DesktopEvent
  deriving DecidableEq

def desktopDispatchWindowEvent (desktop : Desktop) (window : DesktopWindow) (event : DesktopEvent) :
    Option DesktopCall :=
  match window.owner.bind fun ref => (desktop.instances ref).app with
  | some app => some ⟨.app app, window, event⟩
  | none =>
      if window.handleEvent = .null then none else some ⟨.callback window.handleEvent, window, event⟩

/-- `desktop_find_window_by_id`, then `desktop_dispatch_window_event`. -/
def desktopDispatchTo (desktop : Desktop) (event : DesktopEvent) : Option DesktopCall :=
  (desktopFindWindowById desktop.state event.targetWindowId).bind fun index =>
    desktopDispatchWindowEvent desktop (desktop.state.window index) event

/-! ### The alert -/

/-- `button_x`, in `desktop_alert_ok_hit_test` as in `desktop_dialog_draw`. -/
def DesktopWindow.okX (window : DesktopWindow) : Int :=
  int32 (window.contentX + (int32 (int32 window.contentWidth - 52)).tdiv 2)

/-- `button_y`. -/
def DesktopWindow.okY (window : DesktopWindow) : Int :=
  int32 (int32 (window.contentY + int32 window.contentHeight) - 26)

/-- The button of `desktop_dialog_draw`. -/
def desktopDialogDrawOk (window : DesktopWindow) (fb : Surface) (buttonColor : UInt32) : Surface :=
  drawFillRect fb window.okX window.okY 52 16 buttonColor

def desktopAlertOkHitTest (window : DesktopWindow) (x y : Nat) : Bool :=
  uint32 window.okX ≤ x ∧ x < uint32 (int32 (window.okX + 52))
    ∧ uint32 window.okY ≤ y ∧ y < uint32 (int32 (window.okY + 16))

/-- `false` is the return value 0. With a button the window is brought to the front, which moves it to
another slot; the hit test goes on with the slot in which it was. -/
def desktopHandleModalEvent (desktop : Desktop) (event : DesktopEvent) : Bool × Desktop :=
  match desktopFindWindowById desktop.state desktop.state.modalWindowId with
  | none => (false, { desktop with state := { desktop.state with modalWindowId := 0 } })
  | some index =>
      match event.type with
      | .key =>
          if desktopInputIsKeyPressed event.input
              ∧ (event.input.keycode = inputKeyEnter ∨ event.input.keycode = inputKeyEsc) then
            (true, desktopCloseModalWindow desktop)
          else (true, desktop)
      | .char =>
          if event.character = 10 ∨ event.character = 13 ∨ event.character = 27 then
            (true, desktopCloseModalWindow desktop)
          else (true, desktop)
      | .buttonDown =>
          let state := desktopRaiseWindow desktop.state (desktop.state.window index).id
          let desktop := { desktop with state := state }
          if desktopAlertOkHitTest (state.window index) event.cursorX event.cursorY then
            (true, desktopCloseModalWindow desktop)
          else (true, desktop)
      | _ => (true, desktop)

/-! ### The launcher -/

namespace DesktopSession

def setState (session : DesktopSession) (state : DesktopState) : DesktopSession :=
  { session with desktop := { session.desktop with state := state } }

def setLauncher (session : DesktopSession) (launcherOpen : Bool) : DesktopSession :=
  session.setState { session.desktop.state with launcherOpen := launcherOpen }

/-- `desktop_toggle_launcher`. -/
def toggleLauncher (session : DesktopSession) : DesktopSession :=
  let session := session.setLauncher (!session.desktop.state.launcherOpen)
  if desktopListApps.length ≤ session.launcherSelectedIndex then
    { session with launcherSelectedIndex := 0 }
  else session

/-- `desktop_launcher_move_selection`, with -1. -/
def launcherPrevious (session : DesktopSession) : DesktopSession :=
  { session with
    launcherSelectedIndex :=
      if session.launcherSelectedIndex = 0 then desktopListApps.length - 1
      else session.launcherSelectedIndex - 1 }

/-- `desktop_launcher_move_selection`, with 1. -/
def launcherNext (session : DesktopSession) : DesktopSession :=
  { session with
    launcherSelectedIndex := (session.launcherSelectedIndex + 1) % 2 ^ 32 % desktopListApps.length }

/-- `desktop_launch_app` with the name of an app in the list. -/
def launch (session : DesktopSession) (env : DesktopEnv) (index : Nat) : DesktopSession :=
  { session with
    desktop := (desktopLaunchAppWithArgument session.desktop env (desktopListApps.getD index []) []).2 }

/-- `desktop_launcher_launch_selected`. -/
def launchSelected (session : DesktopSession) (env : DesktopEnv) : DesktopSession :=
  if desktopListApps.length ≤ session.launcherSelectedIndex then session
  else (session.launch env session.launcherSelectedIndex).setLauncher false

/-- `desktop_cycle_focus_by_id`. -/
def cycleFocusById (session : DesktopSession) (id : Nat) : DesktopSession :=
  match desktopFindWindowById session.desktop.state id with
  | none => session
  | some _ => session.setState (desktopRaiseWindow session.desktop.state id)

def endDrag (session : DesktopSession) : DesktopSession :=
  session.setState { session.desktop.state with dragWindowId := 0 }

def fbHeight (session : DesktopSession) : Nat := (session.desktop.state.fb.map (·.height)).getD 0

/-! ### Events -/

/-- A press on a window: it is focused, and a control is worked or a drag begun. -/
def pressWindow (session : DesktopSession) (id : Nat) (event : DesktopEvent) : DesktopSession :=
  let session := session.setState (desktopRaiseWindow session.desktop.state id)
  let session := session.setLauncher false
  let state := session.desktop.state
  let window := state.window state.focusedWindowIndex
  match window.controlHitTest event.cursorX event.cursorY with
  | some .close => { session with desktop := desktopDestroyWindow session.desktop window.id }
  | some .minimize => session.setState (desktopMinimizeWindow state window.id)
  | some .maximize => session.setState (desktopToggleMaximizeWindow state window.id)
  | none =>
      if window.titleHitTest event.cursorX event.cursorY then
        { session.setState { state with dragWindowId := window.id } with
          dragOffsetX := uint32 (event.cursorX - uint32 window.x)
          dragOffsetY := uint32 (event.cursorY - uint32 window.y) }
      else session

/-- `DESKTOP_EVENT_BUTTON_DOWN`. -/
def buttonDown (session : DesktopSession) (env : DesktopEnv) (event : DesktopEvent) :
    DesktopSession × Option DesktopCall :=
  let state := session.desktop.state
  if desktopTaskbarLauncherHitTest session.fbHeight event.cursorX event.cursorY then
    (session.toggleLauncher.endDrag, none)
  else
    match (if state.launcherOpen then
        desktopTaskbarLauncherItemHitTest session.fbHeight desktopListApps.length event.cursorX
          event.cursorY
      else none) with
    | some launcherIndex =>
        ({ ((session.launch env launcherIndex).setLauncher false).endDrag with
          launcherSelectedIndex := launcherIndex }, none)
    | none =>
        let buttonWindowId := desktopTaskbarWindowButtonHitTest state.windows state.windowCount
          session.fbHeight event.cursorX event.cursorY
        if buttonWindowId ≠ 0 then
          (((session.cycleFocusById buttonWindowId).setLauncher false).endDrag, none)
        else
          let session :=
            if desktopFindWindowIndexById state event.targetWindowId < state.windowCount then
              session.pressWindow event.targetWindowId event
            else if desktopTaskbarContainsPoint session.fbHeight event.cursorY then
              session.setLauncher false
            else (session.setLauncher false).endDrag
          (session, desktopDispatchTo session.desktop event)

/-- `DESKTOP_EVENT_CURSOR_MOVE`. -/
def moveCursor (session : DesktopSession) (event : DesktopEvent) : DesktopSession :=
  let state := session.desktop.state
  match desktopFindWindowById state state.dragWindowId with
  | none => session
  | some index =>
      let window := { state.window index with
        x := int32 (int32 event.cursorX - int32 session.dragOffsetX)
        y := int32 (int32 event.cursorY - int32 session.dragOffsetY) }
      session.setState (state.setWindow index
        (window.clampToScreen state.fbWidth (desktopWorkAreaHeight state)))

/-- `DESKTOP_EVENT_KEY`. -/
def key (session : DesktopSession) (env : DesktopEnv) (event : DesktopEvent) :
    DesktopSession × Option DesktopCall :=
  let keycode := event.input.keycode
  let pressed := desktopInputIsKeyPressed event.input
  if keycode = inputKeyF1 ∧ pressed then (session.toggleLauncher, none)
  else if session.desktop.state.launcherOpen ∧ pressed ∧ keycode = inputKeyUp then
    (session.launcherPrevious, none)
  else if session.desktop.state.launcherOpen ∧ pressed ∧ keycode = inputKeyDown then
    (session.launcherNext, none)
  else if session.desktop.state.launcherOpen ∧ pressed ∧ keycode = inputKeyEnter then
    (session.launchSelected env, none)
  else if session.desktop.state.launcherOpen ∧ pressed ∧ keycode = inputKeyEsc then
    (session.setLauncher false, none)
  else
    let session :=
      if keycode = inputKeyTab ∧ pressed then session.cycleFocusById event.targetWindowId else session
    (session, desktopDispatchTo session.desktop event)

/-- `desktop_handle_event` behind the modal window. -/
def handle (session : DesktopSession) (env : DesktopEnv) (event : DesktopEvent) :
    DesktopSession × Option DesktopCall :=
  match event.type with
  | .key => session.key env event
  | .char =>
      let session :=
        if event.character = 9 then session.cycleFocusById event.targetWindowId else session
      (session, desktopDispatchTo session.desktop event)
  | .buttonDown => session.buttonDown env event
  | .buttonUp =>
      let session := { session.endDrag with primaryButtonDown := 0 }
      (session, desktopDispatchTo session.desktop event)
  | .cursorMove => (session.moveCursor event, none)
  | _ => (session, none)

end DesktopSession

/-- The session and the call of a handler that is left to do. -/
def desktopHandleEvent (session : DesktopSession) (env : DesktopEnv) (event : DesktopEvent) :
    DesktopSession × Option DesktopCall :=
  if session.desktop.state.modalWindowId = 0 then session.handle env event
  else
    match desktopHandleModalEvent session.desktop event with
    | (true, desktop) => ({ session with desktop := desktop }, none)
    | (false, desktop) => { session with desktop := desktop }.handle env event

namespace DesktopSession

def routeView (session : DesktopSession) : DesktopRouteView where
  windows := session.desktop.state.windows
  windowCount := session.desktop.state.windowCount
  fbWidth := session.desktop.state.fbWidth
  fbHeight := session.fbHeight
  allowExit := session.desktop.state.modalWindowId = 0

def pointer (session : DesktopSession) : DesktopPointer where
  cursorX := session.cursorX
  cursorY := session.cursorY
  focusedWindowIndex := session.desktop.state.focusedWindowIndex
  primaryButtonDown := session.primaryButtonDown

def setPointer (session : DesktopSession) (pointer : DesktopPointer) : DesktopSession :=
  { session.setState
      { session.desktop.state with focusedWindowIndex := pointer.focusedWindowIndex } with
    cursorX := pointer.cursorX
    cursorY := pointer.cursorY
    primaryButtonDown := pointer.primaryButtonDown }

/-- The result, the event and the session after `desktop_input_route`. -/
def route (session : DesktopSession) (inputEvent : InputEvent) : DesktopRouted × DesktopSession :=
  let routed := desktopInputRoute session.routeView session.input inputEvent session.pointer
  (routed.1, { session.setPointer routed.1.pointer with input := routed.2 })

/-- What `desktop_run` does with an event. Leaving the desktop is not followed further. -/
def turn (session : DesktopSession) (env : DesktopEnv) (inputEvent : InputEvent) :
    DesktopSession × Option DesktopCall :=
  let routed := session.route inputEvent
  match routed.1.result with
  | .redraw => desktopHandleEvent routed.2 env routed.1.event
  | _ => (routed.2, none)

end DesktopSession

end DuckOs

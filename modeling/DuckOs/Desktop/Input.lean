import DuckOs.Desktop.WindowArea
import DuckOs.Input.Input

/-!
# Routing input to windows

`src/desktop/desktop_event.c` and `src/desktop/desktop_input.c`.
-/

namespace DuckOs

inductive DesktopEventType where
  | none
  | redraw
  | key
  | char
  | buttonDown
  | buttonUp
  | cursorMove
  | windowClose
  deriving DecidableEq

structure DesktopEvent where
  type : DesktopEventType
  input : InputEvent
  character : UInt8
  targetWindowId : Nat
  cursorX : Nat
  cursorY : Nat
  deriving DecidableEq

/-- `desktop_event_init`. -/
def DesktopEvent.init : DesktopEvent := ⟨.none, ⟨.other, .other, 0, 0⟩, 0, 0, 0, 0⟩

def desktopEventFromInput (inputEvent : InputEvent) : DesktopEvent :=
  let event := { DesktopEvent.init with input := inputEvent }
  match inputEvent.data with
  | .char character => { event with type := .char, character := character }
  | .key _ => { event with type := .key }
  | .other => event

def desktopCursorStep : Nat := 8

/-- The loop of `desktop_find_next_focusable_window`; `none` if it ends. -/
def desktopNextFocusableLoop (windows : List DesktopWindow) (windowCount focusedWindowIndex : Nat) :
    Option Nat :=
  (List.range windowCount).findSome? fun offset =>
    let index := (focusedWindowIndex + (offset + 1)) % 2 ^ 32 % windowCount
    if (windows.getD index .zero).isVisible then some index else none

def desktopFindNextFocusableWindow (windows : List DesktopWindow)
    (windowCount focusedWindowIndex : Nat) : Nat :=
  if windowCount = 0 then 0
  else (desktopNextFocusableLoop windows windowCount focusedWindowIndex).getD focusedWindowIndex

def desktopInputIsKeyPressed (inputEvent : InputEvent) : Bool :=
  inputEvent.pressed = inputKeyPress ∨ inputEvent.pressed = inputKeyRepeat

inductive DesktopInputResult where
  | none
  | redraw
  | exit
  deriving DecidableEq

/-- What `desktop_input_route` is given pointers to. -/
structure DesktopPointer where
  cursorX : Nat
  cursorY : Nat
  focusedWindowIndex : Nat
  primaryButtonDown : Nat
  deriving DecidableEq

def desktopClampCursor (fbWidth fbHeight : Nat) (pointer : DesktopPointer) : DesktopPointer :=
  if fbWidth = 0 ∨ fbHeight = 0 then { pointer with cursorX := 0, cursorY := 0 }
  else
    { pointer with
      cursorX := if fbWidth ≤ pointer.cursorX then fbWidth - 1 else pointer.cursorX
      cursorY := if fbHeight ≤ pointer.cursorY then fbHeight - 1 else pointer.cursorY }

def desktopInputReset (fbWidth fbHeight : Nat) : DesktopPointer where
  cursorX := fbWidth / 2
  cursorY := fbHeight / 2
  focusedWindowIndex := 0
  primaryButtonDown := 0

/-- The cursor after one of the keys that move it; `none` for the other keys. -/
def desktopMoveCursor (keycode : Nat) (pointer : DesktopPointer) : Option DesktopPointer :=
  let less := fun position =>
    if desktopCursorStep < position then position - desktopCursorStep else 0
  if keycode = inputKeyLeft then some { pointer with cursorX := less pointer.cursorX }
  else if keycode = inputKeyRight then
    some { pointer with cursorX := (pointer.cursorX + desktopCursorStep) % 2 ^ 32 }
  else if keycode = inputKeyUp then some { pointer with cursorY := less pointer.cursorY }
  else if keycode = inputKeyDown then
    some { pointer with cursorY := (pointer.cursorY + desktopCursorStep) % 2 ^ 32 }
  else none

/-- The id of a window by its index, 0 behind the last one. -/
def desktopWindowIdAt (windows : List DesktopWindow) (windowCount index : Nat) : Nat :=
  if index < windowCount then (windows.getD index .zero).id else 0

/-- The event with a window and the place of the cursor. -/
def DesktopEvent.at (event : DesktopEvent) (targetWindowId : Nat) (pointer : DesktopPointer) :
    DesktopEvent :=
  { event with
    targetWindowId := targetWindowId
    cursorX := pointer.cursorX
    cursorY := pointer.cursorY }

/-- The windows, the size of the framebuffer and `allow_exit`. -/
structure DesktopRouteView where
  windows : List DesktopWindow
  windowCount : Nat
  fbWidth : Nat
  fbHeight : Nat
  allowExit : Bool

structure DesktopRouted where
  result : DesktopInputResult
  pointer : DesktopPointer
  event : DesktopEvent
  deriving DecidableEq

/-- Nothing to do, or the end. -/
def DesktopRouted.ends (result : DesktopInputResult) (pointer : DesktopPointer) : DesktopRouted :=
  ⟨result, pointer, .init⟩

namespace DesktopRouteView

def idAt (view : DesktopRouteView) (index : Nat) : Nat :=
  desktopWindowIdAt view.windows view.windowCount index

/-- An event for the window with the focus. -/
def toFocused (view : DesktopRouteView) (event : DesktopEvent) (pointer : DesktopPointer) :
    DesktopRouted :=
  ⟨.redraw, pointer, event.at (view.idAt pointer.focusedWindowIndex) pointer⟩

/-- `desktop_input_route` with a character. -/
def routeChar (view : DesktopRouteView) (inputEvent : InputEvent) (character : UInt8)
    (pointer : DesktopPointer) : DesktopRouted :=
  if view.allowExit ∧ character = 27 then .ends .exit pointer
  else if character = 9 then
    let nextFocusIndex := desktopFindNextFocusableWindow view.windows view.windowCount
      pointer.focusedWindowIndex
    let event := { desktopEventFromInput inputEvent with type := .char }
    ⟨.redraw, pointer, event.at (view.idAt nextFocusIndex) pointer⟩
  else if character = 10 ∨ character = 13 then
    let index := desktopFindTopmostWindow view.windows view.windowCount pointer.cursorX pointer.cursorY
    let focused := if index < view.windowCount then index else pointer.focusedWindowIndex
    let down := pointer.primaryButtonDown = 0
    let pointer :=
      { pointer with focusedWindowIndex := focused, primaryButtonDown := if down then 1 else 0 }
    let event := { DesktopEvent.init with type := if down then .buttonDown else .buttonUp }
    ⟨.redraw, pointer, event.at (view.idAt index) pointer⟩
  else view.toFocused (desktopEventFromInput inputEvent) pointer

/-- `desktop_input_route` with a key that stands for no character. -/
def routeKey (view : DesktopRouteView) (inputEvent : InputEvent) (keycode : Nat)
    (pointer : DesktopPointer) : DesktopRouted :=
  let pressed := desktopInputIsKeyPressed inputEvent
  if keycode = inputKeyEnter ∨ keycode = inputKeyMouseLeft then
    let index := desktopFindTopmostWindow view.windows view.windowCount pointer.cursorX pointer.cursorY
    let event :=
      { desktopEventFromInput inputEvent with type := if pressed then .buttonDown else .buttonUp }
    let pointer := { pointer with primaryButtonDown := if pressed then 1 else 0 }
    ⟨.redraw, pointer, event.at (view.idAt index) pointer⟩
  else if !pressed then
    if pointer.focusedWindowIndex < view.windowCount then
      view.toFocused (desktopEventFromInput inputEvent) pointer
    else .ends .none pointer
  else if keycode = inputKeyTab then
    let index := desktopFindNextFocusableWindow view.windows view.windowCount
      pointer.focusedWindowIndex
    let event := { desktopEventFromInput inputEvent with type := .key }
    ⟨.redraw, pointer, event.at (view.idAt index) pointer⟩
  else
    match desktopMoveCursor keycode pointer with
    | some moved =>
        let pointer := desktopClampCursor view.fbWidth view.fbHeight moved
        view.toFocused { DesktopEvent.init with type := .cursorMove } pointer
    | none =>
        let pointer := desktopClampCursor view.fbWidth view.fbHeight pointer
        view.toFocused (desktopEventFromInput inputEvent) pointer

end DesktopRouteView

/-- The event that is left and what becomes of the pointers; `input_event_to_char` may change the
modifiers. -/
def desktopInputRoute (view : DesktopRouteView) (input : InputState) (inputEvent : InputEvent)
    (pointer : DesktopPointer) : DesktopRouted × InputState :=
  match inputEvent.data with
  | .other => (.ends .none pointer, input)
  | .char character => (view.routeChar inputEvent character pointer, input)
  | .key keycode =>
      if view.allowExit ∧ keycode = inputKeyEsc then
        if desktopInputIsKeyPressed inputEvent then (.ends .exit pointer, input)
        else (.ends .none pointer, input)
      else if keycode ≠ inputKeyMouseLeft ∧ keycode ≠ inputKeyTab then
        match inputEventToChar input inputEvent with
        | (some character, input) =>
            let event : DesktopEvent :=
              { DesktopEvent.init with type := .char, character := character, input := inputEvent }
            (view.toFocused event pointer, input)
        | (none, input) => (view.routeKey inputEvent keycode pointer, input)
      else (view.routeKey inputEvent keycode pointer, input)

end DuckOs

import DuckOs.Desktop.Handler
import DuckOs.Fs.VfsList
import Mathlib.Data.List.DropRight

/-!
# The Files app

`src/desktop/files_app.c`, and `desktop_open_file` of `src/desktop/desktop.c` which it calls. Of what is
drawn only the rows are here.
-/

namespace DuckOs

open ByteStore

/-- What an app finds outside the desktop: the file system, and what the buffers of a listing hold. -/
structure FilesEnv where
  desktop : DesktopEnv
  vfs : VfsState
  stale : Nat → Store

/-! ### Opening files -/

/-- `desktop_set_dialog_message`. -/
def desktopSetDialogMessage (text path : List UInt8) : List UInt8 :=
  let message := strlcpy text desktopDialogMessageMax
  if path ≠ [] ∧ message.length + 2 < desktopDialogMessageMax then
    let message := message ++ ascii ": "
    message ++ strlcpy path (desktopDialogMessageMax - message.length)
  else message

def desktopShowOpenError (desktop : Desktop) (env : FilesEnv) (text : String) (path : List UInt8) :
    Desktop :=
  let message := desktopSetDialogMessage (ascii text) path
  let desktop := { desktop with alertDialog := { desktop.alertDialog with message := message } }
  (desktopShowAlert desktop env.desktop.fb (ascii "File Open Error") message).2

/-- From the last dot behind the last slash on; `none` if there is no such dot. -/
def desktopPathExtension : List UInt8 → (lastDot : Option (List UInt8)) → Option (List UInt8)
  | [], lastDot => lastDot
  | letter :: rest, lastDot =>
      if letter = pathSeparator then desktopPathExtension rest none
      else if letter = 0x2e then desktopPathExtension rest (some (letter :: rest))
      else desktopPathExtension rest lastDot

/-- `false` is the return value -1, which comes with an alert. -/
def desktopOpenFile (desktop : Desktop) (env : FilesEnv) (path : List UInt8) : Bool × Desktop :=
  if path = [] then (false, desktopShowOpenError desktop env "open failed" (ascii "(empty path)"))
  else
    match vfsStat env.vfs path with
    | none => (false, desktopShowOpenError desktop env "not found" path)
    | some info =>
        if info.flags % 2 = 1 then
          (false, desktopShowOpenError desktop env "directory not supported" path)
        else
          let extension := desktopPathExtension path none
          if extension = some (ascii ".txt") ∨ extension = some (ascii ".md")
              ∨ extension = some (ascii ".log") then
            let launched := desktopLaunchAppWithArgument desktop env.desktop (ascii "editor") path
            if launched.1 then (true, launched.2)
            else (false, desktopShowOpenError launched.2 env "editor launch failed" path)
          else (false, desktopShowOpenError desktop env "unknown file type" path)

/-! ### The state of the app -/

def filesPathMax : Nat := 64

def filesEntryNameMax : Nat := 32

def filesMaxEntries : Nat := 32

def filesMargin : Nat := 6

def filesHeaderHeight : Nat := 16

def filesRowHeight : Nat := 12

structure FilesEntry where
  name : List UInt8
  size : Nat
  flags : Nat
  deriving DecidableEq

/-- The first `entry_count` entries. -/
structure FilesAppState where
  path : List UInt8
  status : List UInt8
  entries : List FilesEntry
  selectedIndex : Nat
  scrollOffset : Nat
  deriving DecidableEq

namespace FilesAppState

def setStatus (state : FilesAppState) (status : String) : FilesAppState :=
  { state with status := strlcpy (ascii status) filesPathMax }

/-- `files_app_collect_entry` for one entry of the listing after the other, until there is no slot. -/
def collect (state : FilesAppState) : List VfsFileInfo → FilesAppState
  | [] => state
  | entry :: rest =>
      if filesMaxEntries ≤ state.entries.length then state
      else
        let slot : FilesEntry := ⟨strlcpy entry.name filesEntryNameMax, entry.size, entry.flags⟩
        collect { state with entries := state.entries ++ [slot] } rest

/-- `files_app_refresh`. -/
def refresh (env : FilesEnv) (state : FilesAppState) : FilesAppState :=
  let state := { state with entries := [], selectedIndex := 0, scrollOffset := 0 }
  match vfsListEntries env.vfs env.stale (fun _ => false) state.path with
  | none => state.setStatus "list failed"
  | some entries =>
      let state := state.collect entries
      if state.entries = [] then state.setStatus "empty directory" else state.setStatus "read only"

/-- `files_app_set_path`. -/
def setPath (env : FilesEnv) (state : FilesAppState) (path : List UInt8) : FilesAppState :=
  if path = [] then state
  else refresh env { state with path := strlcpy path filesPathMax }

/-- `files_app_build_child_path`; `none` is the return value -1. -/
def buildChildPath (state : FilesAppState) (entry : FilesEntry) : Option (List UInt8) :=
  if state.path = [pathSeparator] then
    some (pathSeparator :: strlcpy entry.name (filesPathMax - 1))
  else
    let path := strlcpy state.path filesPathMax
    if filesPathMax ≤ path.length + 1 then none
    else
      let path := path ++ [pathSeparator]
      some (path ++ strlcpy entry.name (filesPathMax - path.length))

/-- `files_app_go_parent`: the path up to its last slash, and without that slash unless it is the
first. -/
def goParent (env : FilesEnv) (state : FilesAppState) : FilesAppState :=
  if state.path = [pathSeparator] then state
  else
    let kept := state.path.rdropWhile (· ≠ pathSeparator)
    refresh env
      { state with path := if kept.length ≤ 1 then [pathSeparator] else kept.dropLast }

/-- `files_app_open_selected`. -/
def openSelected (env : FilesEnv) (desktop : Desktop) (state : FilesAppState) :
    FilesAppState × Desktop :=
  match state.entries[state.selectedIndex]? with
  | none => (state, desktop)
  | some entry =>
      match state.buildChildPath entry with
      | none => (state.setStatus "path too long", desktop)
      | some childPath =>
          if entry.flags % 2 = 1 then (setPath env state childPath, desktop)
          else
            let opened := desktopOpenFile desktop env childPath
            if opened.1 then (state.setStatus "opened file", opened.2)
            else (state.setStatus "open failed", opened.2)

/-- `files_app_ensure_selection_visible`. -/
def ensureSelectionVisible (state : FilesAppState) (visibleRows : Nat) : FilesAppState :=
  if visibleRows = 0 then state
  else if state.selectedIndex < state.scrollOffset then
    { state with scrollOffset := state.selectedIndex }
  else if (state.scrollOffset + visibleRows) % 2 ^ 32 ≤ state.selectedIndex then
    { state with scrollOffset := uint32 (state.selectedIndex - visibleRows + 1) }
  else state

end FilesAppState

/-! ### Rows -/

def filesVisibleRows (window : DesktopWindow) : Nat :=
  if filesHeaderHeight + 24 < window.contentHeight then
    (window.contentHeight - filesHeaderHeight - 24) / filesRowHeight
  else 0

def FilesAppState.rowIndex (state : FilesAppState) (row : Nat) : Nat :=
  (state.scrollOffset + row) % 2 ^ 32

/-- The index of the entry, if the point is on one. -/
def filesAppRowHitTest (window : DesktopWindow) (state : FilesAppState) (x y : Nat) : Option Nat :=
  let rowAreaTop := uint32 (int32 (window.contentY + filesHeaderHeight + 8))
  if x < uint32 (int32 (window.contentX + filesMargin))
      ∨ uint32 (int32 (int32 (window.contentX + int32 window.contentWidth) - filesMargin)) ≤ x
      ∨ y < rowAreaTop then none
  else
    let row := (y - rowAreaTop) / filesRowHeight
    if filesVisibleRows window ≤ row then none
    else
      let index := state.rowIndex row
      if state.entries.length ≤ index then none else some index

/-- The state that `files_app_render` leaves: the rows are drawn from it. -/
def filesAppShown (window : DesktopWindow) (state : FilesAppState) : FilesAppState :=
  state.ensureSelectionVisible (filesVisibleRows window)

/-- The rows that `files_app_render` draws: it stops behind the last entry. -/
def filesAppDrawnRows (window : DesktopWindow) (state : FilesAppState) : List Nat :=
  (List.range (filesVisibleRows window)).takeWhile fun row => state.rowIndex row < state.entries.length

def filesAppFillRow (window : DesktopWindow) (row : Nat) (fb : Surface) (bgColor : UInt32) : Surface :=
  let rowY := int32 (window.contentY + filesHeaderHeight + 18 + int32 (row * filesRowHeight))
  drawFillRect fb (int32 (window.contentX + 2)) (int32 (rowY - 1))
    (int32 (int32 window.contentWidth - 4)) (filesRowHeight - 1 : Nat) bgColor

/-! ### Events -/

/-- `files_app_event` with the state of the window. -/
def filesAppEvent (env : FilesEnv) (desktop : Desktop) (window : DesktopWindow) (state : FilesAppState)
    (event : DesktopEvent) : FilesAppState × Desktop :=
  let visibleRows := filesVisibleRows window
  match event.type with
  | .buttonDown =>
      match filesAppRowHitTest window state event.cursorX event.cursorY with
      | none => (state, desktop)
      | some hitIndex =>
          (({ state with selectedIndex := hitIndex }).ensureSelectionVisible visibleRows, desktop)
  | .key =>
      let keycode := event.input.keycode
      if !desktopInputIsKeyPressed event.input then (state, desktop)
      else if keycode = inputKeyUp then
        if 0 < state.selectedIndex then
          (({ state with selectedIndex := state.selectedIndex - 1 }).ensureSelectionVisible visibleRows,
            desktop)
        else (state, desktop)
      else if keycode = inputKeyDown then
        if state.selectedIndex + 1 < state.entries.length then
          (({ state with selectedIndex := state.selectedIndex + 1 }).ensureSelectionVisible visibleRows,
            desktop)
        else (state, desktop)
      else if keycode = inputKeyEnter then state.openSelected env desktop
      else if keycode = inputKeyBackspace then (state.goParent env, desktop)
      else (state, desktop)
  | _ => (state, desktop)

/-! ### Turns -/

/-- The desktop and `files_states`. -/
structure FilesDesktop where
  session : DesktopSession
  files : Fin 8 → FilesAppState

/-- The state that `files_app_event` finds behind `window->user_data`, if it is called. -/
def DesktopCall.filesSlot (call : DesktopCall) : Option (Fin 8) :=
  match call.receiver, call.window.userData with
  | .app .files, .appState .files slot => some slot
  | _, _ => none

namespace FilesDesktop

/-- The call that `desktop_handle_event` ends with; `others` is what the other handlers do. -/
def deliver (world : FilesDesktop) (env : FilesEnv)
    (others : DesktopCall → FilesDesktop → FilesDesktop) : Option DesktopCall → FilesDesktop
  | none => world
  | some call =>
      match call.filesSlot with
      | none => others call world
      | some slot =>
          let handled := filesAppEvent env world.session.desktop call.window (world.files slot) call.event
          { session := { world.session with desktop := handled.2 }
            files := Function.update world.files slot handled.1 }

/-- The loop of `desktop_run` with one event. -/
def turn (world : FilesDesktop) (env : FilesEnv)
    (others : DesktopCall → FilesDesktop → FilesDesktop) (inputEvent : InputEvent) :
    Option DesktopCall × FilesDesktop :=
  let turned := world.session.turn env.desktop inputEvent
  (turned.2, deliver { world with session := turned.1 } env others turned.2)

def focused (world : FilesDesktop) : DesktopWindow :=
  world.session.desktop.state.window world.session.desktop.state.focusedWindowIndex

end FilesDesktop

end DuckOs

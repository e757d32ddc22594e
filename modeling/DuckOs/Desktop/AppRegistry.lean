import DuckOs.Desktop.Desktop
import DuckOs.Lib.Machine

/-!
# Launching apps

`desktop_launch_app_with_argument` of `src/desktop/app_registry.c`, with the three apps it registers,
and the `desktop` commands of the shell. `DesktopOp` is one call from outside.
-/

namespace DuckOs

/-! ### The apps -/

/-- How `text_editor_load_file` fares with the file. -/
inductive DesktopFileLoad where
  | loaded
  | openFailed
  | readFailed
  deriving DecidableEq

/-- What a launch finds outside the desktop. -/
structure DesktopEnv where
  fb : Option Framebuffer
  load : DesktopFileLoad

/-- `terminal_app_alloc_state`, `text_editor_alloc_state` and `files_app_alloc_state`. -/
def desktopAppAllocState (desktop : Desktop) (app : DesktopApp) : Option (Fin 8) × Desktop :=
  match (List.finRange 8).find? fun slot => !desktop.active app slot with
  | none => (none, desktop)
  | some slot => (some slot, desktop.setActive app slot true)

/-- The end of the start functions: `instance->user_data` is set and a window opened. -/
def desktopAppShow (desktop : Desktop) (fb : Option Framebuffer) (ref : DesktopInstanceRef)
    (userData : DesktopUserData) (title : List UInt8) (width height : Nat) : Bool × Desktop :=
  let desktop := desktop.setInstance ref { desktop.instances ref with userData := userData }
  desktopOpenAppInstanceWindow desktop fb ref title width height userData

def terminalAppStart (desktop : Desktop) (env : DesktopEnv) (ref : DesktopInstanceRef) :
    Bool × Desktop :=
  match desktopAppAllocState desktop .terminal with
  | (none, desktop) => (false, desktop)
  | (some slot, desktop) =>
      desktopAppShow desktop env.fb ref (.appState .terminal slot) (ascii "Terminal") 560 220

/-- A file that cannot be opened or read is reported by an alert. -/
def textEditorLoadFile (desktop : Desktop) (env : DesktopEnv) (path : List UInt8) : Desktop :=
  if path = [] then desktop
  else
    match env.load with
    | .loaded => desktop
    | .openFailed =>
        (desktopShowAlert desktop env.fb (ascii "File Open Error")
          (ascii "Editor could not open file")).2
    | .readFailed =>
        (desktopShowAlert desktop env.fb (ascii "File Open Error")
          (ascii "Editor could not read file")).2

def textEditorAppStart (desktop : Desktop) (env : DesktopEnv) (ref : DesktopInstanceRef) :
    Bool × Desktop :=
  match desktopAppAllocState desktop .editor with
  | (none, desktop) => (false, desktop)
  | (some slot, desktop) =>
      let desktop := textEditorLoadFile desktop env (desktop.instances ref).argument
      desktopAppShow desktop env.fb ref (.appState .editor slot) (ascii "Editor") 620 300

def filesAppStart (desktop : Desktop) (env : DesktopEnv) (ref : DesktopInstanceRef) :
    Bool × Desktop :=
  match desktopAppAllocState desktop .files with
  | (none, desktop) => (false, desktop)
  | (some slot, desktop) =>
      desktopAppShow desktop env.fb ref (.appState .files slot) (ascii "Files") 560 260

/-! ### The registry -/

def desktopAppArgumentMax : Nat := 64

/-- The size of `message` in `desktop_launch_app_with_argument`. -/
def desktopUnknownAppMessageSize : Nat := 48

def desktopFindApp (name : List UInt8) : Option DesktopApp :=
  if name = ascii "terminal" then some .terminal
  else if name = ascii "editor" then some .editor
  else if name = ascii "files" then some .files
  else none

def DesktopApp.onStart : DesktopApp → Desktop → DesktopEnv → DesktopInstanceRef → Bool × Desktop
  | .terminal => terminalAppStart
  | .editor => textEditorAppStart
  | .files => filesAppStart

def desktopAllocAppInstance (desktop : Desktop) (app : DesktopApp) (argument : List UInt8) :
    Option DesktopInstanceRef × Desktop :=
  match (List.finRange desktopRegistryMaxInstances).find? fun ref =>
      !(desktop.instances ref).running with
  | none => (none, desktop)
  | some ref =>
      (some ref, { desktop.setInstance ref { DesktopAppInstance.zero with
          id := desktop.nextInstanceId
          running := true
          app := some app
          argument := strlcpy argument desktopAppArgumentMax } with
        nextInstanceId := (desktop.nextInstanceId + 1) % 2 ^ 32 })

/-- "No app named " and the name, cut off at the end of the buffer. -/
def desktopUnknownAppMessage (name : List UInt8) : List UInt8 :=
  let message := strlcpy (ascii "No app named ") desktopUnknownAppMessageSize
  message ++ strlcpy name (desktopUnknownAppMessageSize - message.length)

/-- A null argument is an empty one. -/
def desktopLaunchAppWithArgument (desktop : Desktop) (env : DesktopEnv)
    (name argument : List UInt8) : Bool × Desktop :=
  match desktopFindApp name with
  | none =>
      (false, (desktopShowAlert desktop env.fb (ascii "Unknown App")
        (desktopUnknownAppMessage name)).2)
  | some app =>
      match desktopAllocAppInstance desktop app argument with
      | (none, desktop) => (false, desktop)
      | (some ref, desktop) =>
          let started := app.onStart desktop env ref
          if !started.1 ∨ (started.2.instances ref).windowCount = 0 then
            (false, desktopAppInstanceStop started.2 ref)
          else (true, started.2)

/-! ### Calls -/

inductive DesktopCommand where
  | run
  | once
  | state
  | usage
  deriving DecidableEq

/-- `shell_run_desktop` up to the events that `desktop_run` handles. `fb` is what `desktop_init`
finds, `available` whether there is a framebuffer and a display at all. -/
def shellRunDesktop (desktop : Desktop) (fb : Option Framebuffer) (available : Bool)
    (command : DesktopCommand) : Desktop :=
  if !available then desktop
  else
    match desktopInit desktop.state fb with
    | (false, state) => { desktop with state := state }
    | (true, state) =>
        match command with
        | .run => { desktop with state := (desktopEnter state fb).2 }
        | .once => { desktop with state := (desktopEnter state fb).2 }
        | .state => { desktop with state := state }
        | .usage => { desktop with state := state }

/-- Windows are given by their index in `desktop_state.windows`; behind the last one there is none. -/
inductive DesktopOp where
  | openAppInstanceWindow (fb : Option Framebuffer) (ref : DesktopInstanceRef) (title : List UInt8)
      (width height : Nat) (userData : DesktopUserData)
  | openCustomWindow (fb : Option Framebuffer) (title : List UInt8) (width height : Nat)
      (draw handleEvent : DesktopCallback) (userData : DesktopUserData)
  | showAlert (fb : Option Framebuffer) (title message : List UInt8)
  | focusWindow (index : Nat)
  | bringToFront (index : Nat)
  | minimizeWindow (index : Nat)
  | toggleMaximizeWindow (index : Nat)
  | destroyWindow (index : Nat)
  | closeModalWindow
  | launch (env : DesktopEnv) (name argument : List UInt8)
  | shell (fb : Option Framebuffer) (available : Bool) (command : DesktopCommand)

namespace Desktop

def windowId (desktop : Desktop) (index : Nat) : Nat := (desktop.state.window index).id

def step (desktop : Desktop) : DesktopOp → Desktop
  | .openAppInstanceWindow fb ref title width height userData =>
      (desktopOpenAppInstanceWindow desktop fb ref title width height userData).2
  | .openCustomWindow fb title width height draw handleEvent userData =>
      { desktop with
        state := (desktopOpenCustomWindow desktop.state fb title width height draw handleEvent
          userData).2 }
  | .showAlert fb title message => (desktopShowAlert desktop fb title message).2
  | .focusWindow index =>
      { desktop with state := desktopFocusWindow desktop.state (desktop.windowId index) }
  | .bringToFront index =>
      { desktop with state := desktopBringToFront desktop.state (desktop.windowId index) }
  | .minimizeWindow index =>
      { desktop with state := desktopMinimizeWindow desktop.state (desktop.windowId index) }
  | .toggleMaximizeWindow index =>
      { desktop with state := desktopToggleMaximizeWindow desktop.state (desktop.windowId index) }
  | .destroyWindow index => desktopDestroyWindow desktop (desktop.windowId index)
  | .closeModalWindow => desktopCloseModalWindow desktop
  | .launch env name argument => (desktopLaunchAppWithArgument desktop env name argument).2
  | .shell fb available command => shellRunDesktop desktop fb available command

/-- The windows that are open. -/
def windows (desktop : Desktop) : List DesktopWindow :=
  desktop.state.windows.take desktop.state.windowCount

/-! ### Windows -/

/-- What holds of the windows between two calls. -/
structure WindowsSound (desktop : Desktop) : Prop where
  count_le : desktop.state.windowCount ≤ desktopMaxWindows
  ids_pos : ∀ window ∈ desktop.windows, window.id ≠ 0
  ids_distinct : (desktop.windows.map (·.id)).Nodup
  rest_zero : ∀ index, desktop.state.windowCount ≤ index → desktop.state.window index = .zero
  focused_lt : 0 < desktop.state.windowCount →
    desktop.state.focusedWindowIndex < desktop.state.windowCount
  visible_iff : ∀ window ∈ desktop.windows, window.flags.visible = true
    ↔ window.flags.minimized = false
  modal_open : desktop.state.modalWindowId = 0
    ∨ ∃ window ∈ desktop.windows, window.id = desktop.state.modalWindowId

/-- The modal window is closed by `desktop_close_modal_window` alone. -/
def KeepsModal (desktop : Desktop) : DesktopOp → Prop
  | .destroyWindow index => desktop.windowId index = 0
      ∨ desktop.windowId index ≠ desktop.state.modalWindowId
  | _ => True

/-- How many windows the calls open. -/
def openedCount : Desktop → List DesktopOp → Nat
  | _, [] => 0
  | desktop, op :: rest =>
      ((desktop.step op).state.windowCount - desktop.state.windowCount)
        + openedCount (desktop.step op) rest

/-! ### App instances -/

/-- How many windows an instance owns. -/
def ownedCount (desktop : Desktop) (ref : DesktopInstanceRef) : Nat :=
  desktop.windows.countP fun window => window.owner = some ref

/-- The windows, the instances and the states of the apps agree. -/
structure Accounted (desktop : Desktop) : Prop where
  counted : ∀ ref, (desktop.instances ref).running = true →
    (desktop.instances ref).windowCount = desktop.ownedCount ref ∧ 1 ≤ desktop.ownedCount ref
  owners_run : ∀ window ∈ desktop.windows, ∀ ref, window.owner = some ref →
    (desktop.instances ref).running = true
  active_iff : ∀ app slot, desktop.active app slot = true
    ↔ ∃ ref, (desktop.instances ref).running = true ∧ (desktop.instances ref).app = some app
      ∧ (desktop.instances ref).userData = .appState app slot

/-- The call is no `desktop` command that initializes the desktop while an app is running. -/
def keepsApps (desktop : Desktop) : DesktopOp → Bool
  | .shell fb available _ => !available || fb.isNone
      || (List.finRange desktopRegistryMaxInstances).all fun ref => !(desktop.instances ref).running
  | _ => true

end Desktop

end DuckOs

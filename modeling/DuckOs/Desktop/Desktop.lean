import DuckOs.Desktop.Window
import DuckOs.Lib.SlotArray

/-!
# The desktop

The windows of `src/desktop/desktop.c` and the app instances of `src/desktop/app_registry.c`, which
call each other. A function that takes a window reads only its id. What is drawn, the session record
that `desktop_refresh_session_state` derives from the windows, and the cursor are left out; callbacks
of windows and the `on_event` functions at `DESKTOP_EVENT_WINDOW_CLOSE` change nothing here.
-/

namespace DuckOs

def desktopMaxWindows : Nat := 8

def desktopAlertWidth : Nat := 320

def desktopAlertHeight : Nat := 108

def desktopTaskbarHeight : Nat := 24

def desktopDialogMessageMax : Nat := 128

structure DesktopState where
  fb : Option Framebuffer
  windows : List DesktopWindow
  windowCount : Nat
  focusedWindowIndex : Nat
  dragWindowId : Nat
  launcherOpen : Bool
  initialized : Bool
  modalWindowId : Nat

namespace DesktopState

/-- After `memset(&desktop_state, 0, sizeof(desktop_state))`. -/
def zero : DesktopState where
  fb := none
  windows := List.replicate desktopMaxWindows .zero
  windowCount := 0
  focusedWindowIndex := 0
  dragWindowId := 0
  launcherOpen := false
  initialized := false
  modalWindowId := 0

def window (state : DesktopState) (index : Nat) : DesktopWindow := state.windows.getD index .zero

def setWindow (state : DesktopState) (index : Nat) (window : DesktopWindow) : DesktopState :=
  { state with windows := state.windows.set index window }

/-- The loop that copies the windows behind `index` one slot down. -/
def shiftDown (state : DesktopState) (index : Nat) : DesktopState :=
  { state with
    windows := SlotArray.shiftDown .zero state.windowCount state.windowCount index state.windows }

def fbWidth (state : DesktopState) : Nat := (state.fb.map (·.width)).getD 0

end DesktopState

def desktopFindWindowIndexById (state : DesktopState) (id : Nat) : Nat :=
  if id = 0 then state.windowCount
  else
    ((List.range state.windowCount).find? fun index => (state.window index).id = id).getD
      state.windowCount

/-- The index of the window, if there is one. -/
def desktopFindWindowById (state : DesktopState) (id : Nat) : Option Nat :=
  let index := desktopFindWindowIndexById state id
  if state.windowCount ≤ index then none else some index

def desktopNextWindowId (state : DesktopState) : Nat :=
  ((List.range state.windowCount).foldl (fun highestId index =>
    if highestId < (state.window index).id then (state.window index).id else highestId) 0 + 1) % 2 ^ 32

def desktopWorkAreaHeight (state : DesktopState) : Nat :=
  match state.fb with
  | none => 0
  | some fb => if fb.height ≤ desktopTaskbarHeight then 0 else fb.height - desktopTaskbarHeight

def desktopCreateLayout (state : DesktopState) : DesktopState :=
  let state := state.setWindow 0 (.init 1 40 32 268 132 (ascii "Welcome"))
  let state := state.setWindow 1 (.init 2 336 72 232 116 (ascii "System"))
  { state with windowCount := 2 }

/-- `fb` is the framebuffer it finds, if that has a buffer; `false` is the return value -1. -/
def desktopInit (state : DesktopState) (fb : Option Framebuffer) : Bool × DesktopState :=
  match fb with
  | none => (false, state)
  | some fb =>
      (true, { desktopCreateLayout { DesktopState.zero with fb := some fb, initialized := true } with
        focusedWindowIndex := 0 })

/-- `!desktop_state.initialized && desktop_init() != 0` is false. -/
def desktopEnsureInit (state : DesktopState) (fb : Option Framebuffer) : Bool × DesktopState :=
  if state.initialized then (true, state) else desktopInit state fb

/-- The input is reset, and with it the focus. -/
def desktopEnter (state : DesktopState) (fb : Option Framebuffer) : Bool × DesktopState :=
  match desktopEnsureInit state fb with
  | (false, state) => (false, state)
  | (true, state) => (true, { state with dragWindowId := 0, focusedWindowIndex := 0 })

def desktopFocusWindow (state : DesktopState) (id : Nat) : DesktopState :=
  let windowIndex := desktopFindWindowIndexById state id
  if state.windowCount ≤ windowIndex then state
  else
    { state.setWindow windowIndex (state.window windowIndex).unminimize with
      focusedWindowIndex := windowIndex }

def desktopBringToFront (state : DesktopState) (id : Nat) : DesktopState :=
  let windowIndex := desktopFindWindowIndexById state id
  if state.windowCount ≤ windowIndex then state
  else
    let state := state.setWindow windowIndex (state.window windowIndex).unminimize
    if windowIndex + 1 = state.windowCount then desktopFocusWindow state id
    else
      let movedWindow := state.window windowIndex
      { (state.shiftDown windowIndex).setWindow (state.windowCount - 1) movedWindow with
        focusedWindowIndex := state.windowCount - 1 }

/-- The last of the first `count` windows that is visible. -/
def desktopLastVisible (state : DesktopState) : (count : Nat) → Option Nat
  | 0 => none
  | count + 1 =>
      if (state.window count).isVisible then some count else desktopLastVisible state count

def desktopRecomputeFocus (state : DesktopState) : DesktopState :=
  { state with
    focusedWindowIndex :=
      if state.windowCount = 0 then 0
      else (desktopLastVisible state state.windowCount).getD (state.windowCount - 1) }

def desktopMinimizeWindow (state : DesktopState) (id : Nat) : DesktopState :=
  let windowIndex := desktopFindWindowIndexById state id
  if state.windowCount ≤ windowIndex then state
  else
    desktopRecomputeFocus
      { state.setWindow windowIndex (state.window windowIndex).hide with dragWindowId := 0 }

/-- The window at its new place. -/
def desktopToggledWindow (state : DesktopState) (target : DesktopWindow) : DesktopWindow :=
  if !target.flags.maximized then
    { target with
      restoreX := target.x
      restoreY := target.y
      restoreWidth := target.width
      restoreHeight := target.height
      x := 0
      y := 0
      width := state.fbWidth
      height := desktopWorkAreaHeight state
      flags := { target.flags with maximized := true } }
  else
    ({ target with
      x := target.restoreX
      y := target.restoreY
      width := target.restoreWidth
      height := target.restoreHeight
      flags := { target.flags with maximized := false } }).clampToScreen state.fbWidth
        (desktopWorkAreaHeight state)

def desktopToggleMaximizeWindow (state : DesktopState) (id : Nat) : DesktopState :=
  if state.fb = none then state
  else
    let windowIndex := desktopFindWindowIndexById state id
    if state.windowCount ≤ windowIndex then state
    else
      { state.setWindow windowIndex (desktopToggledWindow state (state.window windowIndex)).reveal with
        dragWindowId := 0 }

def desktopCenterWindow (state : DesktopState) (window : DesktopWindow) : DesktopWindow :=
  if state.fb = none then window
  else
    let screenHeight := desktopWorkAreaHeight state
    let x := (int32 (int32 state.fbWidth - int32 window.width)).tdiv 2
    let y := (int32 (int32 screenHeight - int32 window.height)).tdiv 2
    ({ window with x := x, y := if y < 0 then 0 else y }).clampToScreen state.fbWidth screenHeight

/-- The first free slot is counted and filled; `build` is given the next id. The result is the id of
the window. -/
def desktopAddWindow (state : DesktopState) (build : Nat → DesktopWindow) : Nat × DesktopState :=
  let index := state.windowCount
  let state := { state with windowCount := index + 1 }
  let window := build (desktopNextWindowId state)
  (window.id, state.setWindow index window)

/-- `desktop_focus_window`, then `desktop_bring_to_front`. -/
def desktopRaiseWindow (state : DesktopState) (id : Nat) : DesktopState :=
  desktopBringToFront (desktopFocusWindow state id) id

/-- The loop of `desktop_open_custom_window` over the open windows. -/
def desktopFindCustomWindow (state : DesktopState) (title : List UInt8) : Option Nat :=
  (List.range state.windowCount).find? fun index =>
    (state.window index).owner = none ∧ (state.window index).title = title

/-- An empty `title` is one that is null or empty. -/
def desktopOpenCustomWindow (state : DesktopState) (fb : Option Framebuffer) (title : List UInt8)
    (width height : Nat) (draw handleEvent : DesktopCallback) (userData : DesktopUserData) :
    Bool × DesktopState :=
  if title = [] then (false, state)
  else
    match desktopEnsureInit state fb with
    | (false, state) => (false, state)
    | (true, state) =>
        match desktopFindCustomWindow state title with
        | some index =>
            let window := (state.window index).bind draw handleEvent userData
            (true, desktopRaiseWindow (state.setWindow index window) window.id)
        | none =>
            if desktopMaxWindows ≤ state.windowCount then (false, state)
            else
              let x := 72 + int32 (state.windowCount * 28)
              let y := 88 + int32 (state.windowCount * 24)
              let added := desktopAddWindow state fun id =>
                ((DesktopWindow.init id x y width height title).bind draw handleEvent
                  userData).clampToScreen state.fbWidth (desktopWorkAreaHeight state)
              (true, desktopRaiseWindow added.2 added.1)

/-! ### App instances -/

structure DesktopAppInstance where
  id : Nat
  running : Bool
  windowCount : Nat
  app : Option DesktopApp
  userData : DesktopUserData
  argument : List UInt8

def DesktopAppInstance.zero : DesktopAppInstance := ⟨0, false, 0, none, .null, []⟩

structure DesktopDialog where
  title : List UInt8
  message : List UInt8

/-- The static variables. `active` is the flag of the states of the apps. -/
structure Desktop where
  state : DesktopState
  alertDialog : DesktopDialog
  instances : DesktopInstanceRef → DesktopAppInstance
  nextInstanceId : Nat
  active : DesktopApp → Fin 8 → Bool

namespace Desktop

def boot : Desktop where
  state := .zero
  alertDialog := ⟨[], []⟩
  instances := fun _ => .zero
  nextInstanceId := 1
  active := fun _ _ => false

def setInstance (desktop : Desktop) (ref : DesktopInstanceRef) (value : DesktopAppInstance) :
    Desktop :=
  { desktop with instances := Function.update desktop.instances ref value }

def setActive (desktop : Desktop) (app : DesktopApp) (slot : Fin 8) (value : Bool) : Desktop :=
  { desktop with
    active := Function.update desktop.active app (Function.update (desktop.active app) slot value) }

end Desktop

def desktopAppInstanceWindowOpened (desktop : Desktop) (ref : DesktopInstanceRef) : Desktop :=
  let target := desktop.instances ref
  if !target.running then desktop
  else desktop.setInstance ref { target with windowCount := (target.windowCount + 1) % 2 ^ 32 }

/-- `terminal_app_close`, `text_editor_app_close` and `files_app_close`: the state of the app is
cleared. -/
def desktopAppClose (desktop : Desktop) (userData : DesktopUserData) : Desktop :=
  match userData with
  | .appState app slot => desktop.setActive app slot false
  | _ => desktop

def desktopAppInstanceStop (desktop : Desktop) (ref : DesktopInstanceRef) : Desktop :=
  let target := desktop.instances ref
  if !target.running then desktop
  else
    let desktop := if target.app.isSome then desktopAppClose desktop target.userData else desktop
    desktop.setInstance ref .zero

def desktopAppInstanceWindowClosed (desktop : Desktop) (owner : Option DesktopInstanceRef) :
    Desktop :=
  match owner with
  | none => desktop
  | some ref =>
      let target := desktop.instances ref
      if !target.running then desktop
      else
        let closed := desktop.setInstance ref { target with windowCount := target.windowCount - 1 }
        if target.windowCount - 1 = 0 then desktopAppInstanceStop closed ref else closed

/-! ### Windows of the desktop -/

def desktopDestroyWindow (desktop : Desktop) (id : Nat) : Desktop :=
  let state := desktop.state
  let windowIndex := desktopFindWindowIndexById state id
  if state.windowCount ≤ windowIndex then desktop
  else
    let owner := (state.window windowIndex).owner
    let state := { state.shiftDown windowIndex with windowCount := state.windowCount - 1 }
    let state := { state.setWindow state.windowCount .zero with dragWindowId := 0 }
    let desktop := desktopAppInstanceWindowClosed { desktop with state := state } owner
    { desktop with state := desktopRecomputeFocus desktop.state }

def desktopCloseModalWindow (desktop : Desktop) : Desktop :=
  if desktop.state.modalWindowId = 0 then desktop
  else
    let found := desktopFindWindowById desktop.state desktop.state.modalWindowId
    let id := desktop.state.modalWindowId
    let desktop := { desktop with state := { desktop.state with modalWindowId := 0 } }
    match found with
    | none => desktop
    | some _ => desktopDestroyWindow desktop id

/-- The modal window, if it is open. -/
def desktopFindModalWindow (state : DesktopState) : Option Nat :=
  if state.modalWindowId = 0 then none else desktopFindWindowById state state.modalWindowId

def desktopShowAlert (desktop : Desktop) (fb : Option Framebuffer) (title message : List UInt8) :
    Bool × Desktop :=
  match desktopEnsureInit desktop.state fb with
  | (false, state) => (false, { desktop with state := state })
  | (true, state) =>
      if title = [] ∨ message = [] then (false, { desktop with state := state })
      else
        let dialog : DesktopDialog :=
          ⟨strlcpy title desktopWindowTitleMax, strlcpy message desktopDialogMessageMax⟩
        let desktop := { desktop with state := state, alertDialog := dialog }
        match desktopFindModalWindow state with
        | some index =>
            let window := desktopCenterWindow state { state.window index with
              title := strlcpy dialog.title desktopWindowTitleMax
              userData := .alertDialog }
            let state := desktopRaiseWindow (state.setWindow index window) window.id
            (true, { desktop with
              state := { state with dragWindowId := 0, launcherOpen := false } })
        | none =>
            let state := { state with modalWindowId := 0 }
            if desktopMaxWindows ≤ state.windowCount then (false, { desktop with state := state })
            else
              let added := desktopAddWindow state fun id =>
                let window := (DesktopWindow.init id 0 0 desktopAlertWidth desktopAlertHeight
                  dialog.title).bind .dialogDraw .null .alertDialog
                desktopCenterWindow state
                  { window with flags := { window.flags with noControls := true } }
              let state := desktopRaiseWindow { added.2 with modalWindowId := added.1 } added.1
              (true, { desktop with
                state := { state with dragWindowId := 0, launcherOpen := false } })

def desktopOpenAppInstanceWindow (desktop : Desktop) (fb : Option Framebuffer)
    (ref : DesktopInstanceRef) (title : List UInt8) (width height : Nat)
    (userData : DesktopUserData) : Bool × Desktop :=
  if !(desktop.instances ref).running ∨ title = [] then (false, desktop)
  else
    match desktopEnsureInit desktop.state fb with
    | (false, state) => (false, { desktop with state := state })
    | (true, state) =>
        if desktopMaxWindows ≤ state.windowCount then (false, { desktop with state := state })
        else
          let x := 72 + int32 (state.windowCount * 28)
          let y := 88 + int32 (state.windowCount * 24)
          let added := desktopAddWindow state fun id =>
            ({ DesktopWindow.init id x y width height title with
              owner := some ref
              userData := userData }).clampToScreen state.fbWidth (desktopWorkAreaHeight state)
          let desktop := desktopAppInstanceWindowOpened { desktop with state := added.2 } ref
          (true, { desktop with state := desktopRaiseWindow desktop.state added.1 })

end DuckOs

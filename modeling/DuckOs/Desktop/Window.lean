import DuckOs.Gfx.Framebuffer
import Mathlib.Data.Fin.Basic

/-!
# Desktop windows

`src/desktop/desktop_window.c`, without the drawing. Pointers to app instances are indices into
`desktop_registry_instances`, pointers to the states of apps are indices into the array of the app.
-/

namespace DuckOs

/-- The bytes of a string literal. -/
def ascii (text : String) : List UInt8 := text.toList.map fun letter => UInt8.ofNat letter.toNat

/-- What `strlcpy` leaves in a buffer of `size` bytes, before the terminator. -/
def strlcpy (text : List UInt8) (size : Nat) : List UInt8 := text.take (size - 1)

/-- The entries of `desktop_registry_apps`. -/
inductive DesktopApp where
  | terminal
  | editor
  | files
  deriving DecidableEq

def desktopRegistryMaxInstances : Nat := 8

abbrev DesktopInstanceRef := Fin desktopRegistryMaxInstances

/-- A `void *user_data`. -/
inductive DesktopUserData where
  | null
  | alertDialog
  | appState (app : DesktopApp) (slot : Fin 8)
  | other (address : Nat)
  deriving DecidableEq

/-- A pointer to a function. -/
inductive DesktopCallback where
  | null
  | dialogDraw
  | other (address : Nat)
  deriving DecidableEq

/-- The bits of `flags`. -/
structure DesktopWindowFlags where
  visible : Bool
  minimized : Bool
  maximized : Bool
  noControls : Bool
  deriving DecidableEq

structure DesktopWindow where
  id : Nat
  x : Int
  y : Int
  width : Nat
  height : Nat
  flags : DesktopWindowFlags
  restoreX : Int
  restoreY : Int
  restoreWidth : Nat
  restoreHeight : Nat
  title : List UInt8
  owner : Option DesktopInstanceRef
  draw : DesktopCallback
  handleEvent : DesktopCallback
  userData : DesktopUserData
  deriving DecidableEq

def desktopWindowTitleMax : Nat := 32

/-- `DESKTOP_WINDOW_TITLE_HEIGHT`, with a font of 8 pixels. -/
def desktopWindowTitleHeight : Nat := 16

namespace DesktopWindow

/-- After `memset(window, 0, sizeof(*window))`. -/
def zero : DesktopWindow where
  id := 0
  x := 0
  y := 0
  width := 0
  height := 0
  flags := ⟨false, false, false, false⟩
  restoreX := 0
  restoreY := 0
  restoreWidth := 0
  restoreHeight := 0
  title := []
  owner := none
  draw := .null
  handleEvent := .null
  userData := .null

/-- `desktop_window_init`. -/
def init (id : Nat) (x y : Int) (width height : Nat) (title : List UInt8) : DesktopWindow :=
  { zero with
    id := id
    x := x
    y := y
    width := width
    height := height
    flags := ⟨true, false, false, false⟩
    restoreX := x
    restoreY := y
    restoreWidth := width
    restoreHeight := height
    title := strlcpy title desktopWindowTitleMax }

/-- `desktop_window_bind`. -/
def bind (window : DesktopWindow) (draw handleEvent : DesktopCallback) (userData : DesktopUserData) :
    DesktopWindow :=
  { window with draw := draw, handleEvent := handleEvent, userData := userData }

/-- `desktop_window_is_visible`. -/
def isVisible (window : DesktopWindow) : Bool := window.id ≠ 0 ∧ window.flags.visible

/-- `desktop_window_clamp_to_screen`. -/
def clampToScreen (window : DesktopWindow) (screenWidth screenHeight : Nat) : DesktopWindow :=
  let minX := int32 (-int32 window.width + 24)
  let minY : Int := 0
  let maxX := int32 (int32 screenWidth - 24)
  let maxY := int32 (int32 screenHeight - int32 desktopWindowTitleHeight)
  let x := if window.x < minX then minX else window.x
  let y := if window.y < minY then minY else window.y
  { window with
    x := if maxX < x then maxX else x
    y := if maxY < y then maxY else y }

/-- `flags &= ~MINIMIZED; flags |= VISIBLE`. -/
def reveal (window : DesktopWindow) : DesktopWindow :=
  { window with flags := { window.flags with minimized := false, visible := true } }

/-- `flags &= ~VISIBLE; flags |= MINIMIZED`. -/
def hide (window : DesktopWindow) : DesktopWindow :=
  { window with flags := { window.flags with visible := false, minimized := true } }

/-- What `desktop_focus_window` and `desktop_bring_to_front` do first. -/
def unminimize (window : DesktopWindow) : DesktopWindow :=
  if window.flags.minimized then window.reveal else window

end DesktopWindow

end DuckOs

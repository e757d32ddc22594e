import DuckOs.Desktop.Window
import DuckOs.Gfx.Draw

/-!
# Areas of windows

Where `src/desktop/desktop_window.c` finds a point and where it paints: the content of a window, its hit
tests and the fill of its body. `desktop_find_topmost_window` is from `src/desktop/desktop_input.c`.
-/

namespace DuckOs

def desktopWindowPadding : Nat := 8

def desktopWindowControlSize : Nat := 12

def desktopWindowControlGap : Nat := 4

def desktopWindowControlMargin : Nat := 6

/-- `DESKTOP_WINDOW_CONTROL_CLOSE` and the other two; `DESKTOP_WINDOW_CONTROL_NONE` is none of them. -/
inductive DesktopWindowControl where
  | close
  | minimize
  | maximize
  deriving DecidableEq

def DesktopWindowControl.place : DesktopWindowControl → Nat
  | close => 0
  | minimize => 1
  | maximize => 2

namespace DesktopWindow

/-! ### Content -/

def contentX (window : DesktopWindow) : Int := int32 (window.x + desktopWindowPadding)

def contentY (window : DesktopWindow) : Int :=
  int32 (window.y + desktopWindowTitleHeight + desktopWindowPadding)

def contentWidth (window : DesktopWindow) : Nat :=
  if window.width ≤ desktopWindowPadding * 2 then 0 else window.width - desktopWindowPadding * 2

def contentHeight (window : DesktopWindow) : Nat :=
  let reservedHeight := desktopWindowTitleHeight + desktopWindowPadding * 2
  if window.height ≤ reservedHeight then 0 else window.height - reservedHeight

theorem contentWidth_eq (window : DesktopWindow) : window.contentWidth = window.width - 16 := by
  rw [contentWidth, desktopWindowPadding]
  split
  · omega
  · rfl

theorem contentHeight_eq (window : DesktopWindow) : window.contentHeight = window.height - 32 := by
  rw [contentHeight, desktopWindowTitleHeight, desktopWindowPadding]
  split
  · omega
  · rfl

/-! ### Hit tests -/

def right (window : DesktopWindow) : Int := int32 (window.x + int32 window.width)

def bottom (window : DesktopWindow) : Int := int32 (window.y + int32 window.height)

/-- `desktop_window_contains_point`. The position is signed, the point is not. -/
def containsPoint (window : DesktopWindow) (x y : Nat) : Bool :=
  if !window.isVisible then false
  else if window.x < 0 ∧ x < uint32 (-window.x) then false
  else if window.y < 0 ∧ y < uint32 (-window.y) then false
  else
    uint32 window.x ≤ x ∧ uint32 window.y ≤ y ∧ x < uint32 window.right ∧ y < uint32 window.bottom

def controlX (window : DesktopWindow) (control : DesktopWindowControl) : Int :=
  let right := int32 (window.x + int32 window.width - desktopWindowControlMargin
    - desktopWindowControlSize)
  let offset := control.place * (desktopWindowControlSize + desktopWindowControlGap)
  int32 (right - offset)

def controlContains (window : DesktopWindow) (x y : Nat) (control : DesktopWindowControl) : Bool :=
  let controlX := window.controlX control
  let controlY := int32 (window.y + ((desktopWindowTitleHeight - desktopWindowControlSize) / 2 : Nat))
  uint32 controlX ≤ x ∧ x < uint32 (int32 (controlX + desktopWindowControlSize))
    ∧ uint32 controlY ≤ y ∧ y < uint32 (int32 (controlY + desktopWindowControlSize))

/-- `desktop_window_control_hit_test`. -/
def controlHitTest (window : DesktopWindow) (x y : Nat) : Option DesktopWindowControl :=
  if !window.containsPoint x y then none
  else if window.flags.noControls then none
  else if uint32 (int32 (window.y + desktopWindowTitleHeight)) ≤ y then none
  else [.close, .minimize, .maximize].find? (window.controlContains x y)

/-- `desktop_window_title_hit_test`. -/
def titleHitTest (window : DesktopWindow) (x y : Nat) : Bool :=
  window.containsPoint x y ∧ y < uint32 (int32 (window.y + desktopWindowTitleHeight))
    ∧ window.controlHitTest x y = none

end DesktopWindow

/-- The loop of `desktop_find_topmost_window`, from the window before `count` down. -/
def desktopTopmostLoop (windows : List DesktopWindow) (x y : Nat) : (count : Nat) → Option Nat
  | 0 => none
  | count + 1 =>
      if (windows.getD count .zero).containsPoint x y then some count
      else desktopTopmostLoop windows x y count

def desktopFindTopmostWindow (windows : List DesktopWindow) (windowCount x y : Nat) : Nat :=
  (desktopTopmostLoop windows x y windowCount).getD windowCount

/-- The sum is of type `long`. -/
def desktopClipDimension (start : Int) (size limit : Nat) : Int :=
  if size = 0 ∨ int32 limit ≤ start then 0
  else
    let stop := start + size
    if stop ≤ 0 then 0
    else
      let stop := if (limit : Int) < stop then (limit : Int) else stop
      let start := if start < 0 then 0 else start
      int32 (int32 stop - start)

/-- `desktop_window_draw` up to the fill of the body. Without a buffer a framebuffer is not supported,
and nothing is drawn. -/
def desktopWindowDrawBody (window : DesktopWindow) (fb : Surface) (bodyBg : UInt32) : Surface :=
  if !window.isVisible then fb
  else
    let width := desktopClipDimension window.x window.width fb.width
    let height := desktopClipDimension window.y window.height fb.height
    if width ≤ 0 ∨ height ≤ 0 then fb
    else drawFillRect fb window.x window.y width height bodyBg

end DuckOs

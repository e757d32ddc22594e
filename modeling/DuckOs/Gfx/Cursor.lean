import DuckOs.Gfx.Framebuffer
import DuckOs.Lib.GridLoop

/-!
# The cursor

`src/gfx/cursor.c`. The cursor is drawn over the framebuffer it is attached to; what it covers is saved
and put back before it moves. `ι` names the framebuffers that there are.
-/

namespace DuckOs

def gfxCursorWidth : Nat := 12

def gfxCursorHeight : Nat := 16

def gfxCursorFillColor : UInt32 := 0xffffffff

def gfxCursorAccentColor : UInt32 := 0xff7fd1ff

def gfxCursorOutlineColor : UInt32 := 0xff101010

structure GfxCursorState (ι : Type) where
  fb : Option ι
  x : Nat
  y : Nat
  savedWidth : Nat
  savedHeight : Nat
  savedPixels : Nat → UInt32
  visible : Bool

/-- `gfx_cursor_state` and the framebuffers; `buffered` says whether `buffer` is not null. -/
structure CursorWorld (ι : Type) where
  surfaces : ι → Surface
  buffered : ι → Bool
  cursor : GfxCursorState ι

/-- How much of `size` is left from a position on. -/
def gfxCursorClip (size bound position : Nat) : Nat :=
  if bound ≤ position then 0
  else if bound < (position + size) % 2 ^ 32 then bound - position
  else size

/-- A loop over the words from `x` and `y` on, each of which gets a colour by its row and column. -/
def fbPutBlock (fb : Surface) (x y width height : Nat) (color : Nat → Nat → UInt32) : Surface :=
  GridLoop.run height width
    (fun row col fb => fbPutPixel fb ((x + col) % 2 ^ 32) ((y + row) % 2 ^ 32) (color row col)) fb

section World

variable {ι : Type} [DecidableEq ι]

def gfxCursorClipWidth (world : CursorWorld ι) (x : Nat) : Nat :=
  match world.cursor.fb with
  | none => 0
  | some fb => gfxCursorClip gfxCursorWidth (world.surfaces fb).width x

def gfxCursorClipHeight (world : CursorWorld ι) (y : Nat) : Nat :=
  match world.cursor.fb with
  | none => 0
  | some fb => gfxCursorClip gfxCursorHeight (world.surfaces fb).height y

def gfxCursorRestoreBackground (world : CursorWorld ι) : CursorWorld ι :=
  match world.cursor.visible, world.cursor.fb with
  | true, some fb =>
      let cursor := world.cursor
      { world with
        surfaces := Function.update world.surfaces fb
          (fbPutBlock (world.surfaces fb) cursor.x cursor.y cursor.savedWidth cursor.savedHeight
            fun row col => cursor.savedPixels (row * gfxCursorWidth + col))
        cursor := { cursor with visible := false } }
  | _, _ => world

/-- The loops of `gfx_cursor_save_background`. -/
def gfxCursorSaveLoop (fb : Surface) (x y width height : Nat) (saved : Nat → UInt32) :
    Nat → UInt32 :=
  GridLoop.run height width
    (fun row col saved => Function.update saved (row * gfxCursorWidth + col)
      (fbGetPixel fb ((x + col) % 2 ^ 32) ((y + row) % 2 ^ 32))) saved

def gfxCursorSaveBackground (world : CursorWorld ι) (x y : Nat) : CursorWorld ι :=
  let width := gfxCursorClipWidth world x
  let height := gfxCursorClipHeight world y
  let saved :=
    match world.cursor.fb with
    | none => world.cursor.savedPixels
    | some fb => gfxCursorSaveLoop (world.surfaces fb) x y width height world.cursor.savedPixels
  { world with
    cursor := { world.cursor with
      savedWidth := width, savedHeight := height, savedPixels := saved } }

/-- `color` in `gfx_cursor_draw_at`. It is never 0. -/
def gfxCursorColor (width height row col : Nat) : UInt32 :=
  if row = 0 ∨ col = 0 ∨ row + 1 = height ∨ col + 1 = width then gfxCursorOutlineColor
  else if 3 ≤ row ∧ row + 3 < height ∧ 3 ≤ col ∧ col + 3 < width then gfxCursorFillColor
  else gfxCursorAccentColor

def gfxCursorDrawAt (world : CursorWorld ι) (x y : Nat) : CursorWorld ι :=
  let cursor := world.cursor
  let surfaces :=
    match cursor.fb with
    | none => world.surfaces
    | some fb => Function.update world.surfaces fb
        (fbPutBlock (world.surfaces fb) x y cursor.savedWidth cursor.savedHeight
          (gfxCursorColor cursor.savedWidth cursor.savedHeight))
  { world with surfaces := surfaces, cursor := { cursor with visible := true } }

def gfxCursorAttach (world : CursorWorld ι) (fb : Option ι) : CursorWorld ι :=
  let world := if world.cursor.visible then gfxCursorRestoreBackground world else world
  { world with
    cursor := { world.cursor with
      fb := fb, x := 0, y := 0, savedWidth := 0, savedHeight := 0, visible := false } }

def gfxCursorAvailable (world : CursorWorld ι) : Bool :=
  match world.cursor.fb with
  | none => false
  | some fb => world.buffered fb

/-- A coordinate that is not on the framebuffer becomes the last one that is. -/
def gfxCursorClamp (bound position : Nat) : Nat := if bound ≤ position then uint32 (bound - 1) else position

def gfxCursorMove (world : CursorWorld ι) (x y : Nat) : CursorWorld ι :=
  match gfxCursorAvailable world, world.cursor.fb with
  | true, some fb =>
      let world := gfxCursorRestoreBackground world
      let x := gfxCursorClamp (world.surfaces fb).width x
      let y := gfxCursorClamp (world.surfaces fb).height y
      let world := { world with cursor := { world.cursor with x := x, y := y } }
      gfxCursorDrawAt (gfxCursorSaveBackground world x y) x y
  | _, _ => world

end World

end DuckOs

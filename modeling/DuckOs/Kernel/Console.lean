import DuckOs.Gfx.Text

/-!
# The graphics console

The graphics half of `src/kernel/console.c`. What goes to the serial port or to a capture callback is
not here.
-/

namespace DuckOs

def consoleSinkSerial : UInt32 := 0x1

def consoleSinkGraphics : UInt32 := 0x2

/-- `dirty_x0` and so on, and `dirty_valid`. -/
structure GfxDirty where
  x0 : Nat
  y0 : Nat
  x1 : Nat
  y1 : Nat
  valid : Bool

/-- `gfx_console` while a framebuffer is attached: `fb` and `cells` are not null. -/
structure GfxConsoleState where
  fb : Surface
  cells : Nat → UInt8
  cols : Nat
  rows : Nat
  cursorCol : Nat
  cursorRow : Nat
  fgColor : UInt32
  bgColor : UInt32
  cursorColor : UInt32
  dirty : GfxDirty
  cursorVisible : Bool

/-- `gfx_console_mark_dirty_rect`. -/
def GfxDirty.markRect (dirty : GfxDirty) (fb : Framebuffer) (x y width height : Nat) : GfxDirty :=
  if width = 0 ∨ height = 0 then dirty
  else if fb.width ≤ x ∨ fb.height ≤ y then dirty
  else
    let x1 := (x + width) % 2 ^ 32
    let y1 := (y + height) % 2 ^ 32
    let x1 := if fb.width < x1 then fb.width else x1
    let y1 := if fb.height < y1 then fb.height else y1
    if !dirty.valid then ⟨x, y, x1, y1, true⟩
    else
      { dirty with
        x0 := if x < dirty.x0 then x else dirty.x0
        y0 := if y < dirty.y0 then y else dirty.y0
        x1 := if dirty.x1 < x1 then x1 else dirty.x1
        y1 := if dirty.y1 < y1 then y1 else dirty.y1 }

namespace GfxConsoleState

def markDirtyRect (gfx : GfxConsoleState) (x y width height : Nat) : GfxConsoleState :=
  { gfx with dirty := gfx.dirty.markRect gfx.fb.toFramebuffer x y width height }

def index (gfx : GfxConsoleState) (col row : Nat) : Nat := (row * gfx.cols + col) % 2 ^ 32

def cellChar (gfx : GfxConsoleState) (col row : Nat) : UInt8 :=
  let ch := gfx.cells (gfx.index col row)
  if ch = 0 then 0x20 else ch

def drawCell (gfx : GfxConsoleState) (col row : Nat) : GfxConsoleState :=
  if gfx.cols ≤ col ∨ gfx.rows ≤ row then gfx
  else
    let x : Nat := col * gfxFontWidth % 2 ^ 32
    let y : Nat := row * gfxFontHeight % 2 ^ 32
    let fb := gfxDrawChar gfx.fb (int32 x) (int32 y) (gfx.cellChar col row) gfx.fgColor gfx.bgColor
    { gfx with fb := fb }.markDirtyRect x y gfxFontWidth gfxFontHeight

def hideCursor (gfx : GfxConsoleState) : GfxConsoleState :=
  if !gfx.cursorVisible then gfx
  else { gfx.drawCell gfx.cursorCol gfx.cursorRow with cursorVisible := false }

def showCursor (gfx : GfxConsoleState) : GfxConsoleState :=
  if gfx.rows ≤ gfx.cursorRow ∨ gfx.cols ≤ gfx.cursorCol then gfx
  else
    let x : Nat := gfx.cursorCol * gfxFontWidth % 2 ^ 32
    let y : Nat := (gfx.cursorRow * gfxFontHeight + (gfxFontHeight - 2)) % 2 ^ 32
    let fb := drawFillRect gfx.fb (int32 x) (int32 y) gfxFontWidth 2 gfx.cursorColor
    { { gfx with fb := fb }.markDirtyRect x y gfxFontWidth 2 with cursorVisible := true }

def redrawAll (gfx : GfxConsoleState) : GfxConsoleState :=
  GridLoop.run gfx.rows gfx.cols (fun row col gfx => gfx.drawCell col row) gfx

/-- The loop of `gfx_console_scroll` over the rows from 1 on. -/
def moveRowsUp (gfx : GfxConsoleState) : GfxConsoleState :=
  { gfx with
    cells := GridLoop.run (gfx.rows - 1) gfx.cols
      (fun row col cells =>
        Function.update cells (gfx.index col row) (cells (gfx.index col (row + 1)))) gfx.cells }

/-- The loop of `gfx_console_scroll` over the columns of the last row. -/
def clearRow (gfx : GfxConsoleState) (row : Nat) : GfxConsoleState :=
  { gfx with
    cells := (List.range gfx.cols).foldl
      (fun cells col => Function.update cells (gfx.index col row) 0x20) gfx.cells }

def scroll (gfx : GfxConsoleState) : GfxConsoleState :=
  if gfx.rows = 0 then gfx
  else
    let gfx := (gfx.moveRowsUp.clearRow (gfx.rows - 1)).redrawAll
    gfx.markDirtyRect 0 0 (gfx.cols * gfxFontWidth % 2 ^ 32) (gfx.rows * gfxFontHeight % 2 ^ 32)

def newline (gfx : GfxConsoleState) : GfxConsoleState :=
  let gfx := { gfx with cursorCol := 0, cursorRow := (gfx.cursorRow + 1) % 2 ^ 32 }
  if gfx.rows ≤ gfx.cursorRow then scroll { gfx with cursorRow := uint32 (gfx.rows - 1) }
  else gfx

/-- A byte in the cell under the cursor, which is drawn. -/
def putCell (gfx : GfxConsoleState) (ch : UInt8) : GfxConsoleState :=
  drawCell
    { gfx with cells := Function.update gfx.cells (gfx.index gfx.cursorCol gfx.cursorRow) ch }
    gfx.cursorCol gfx.cursorRow

def backspace (gfx : GfxConsoleState) : GfxConsoleState :=
  if 0 < gfx.cursorCol then putCell { gfx with cursorCol := gfx.cursorCol - 1 } 0x20
  else if 0 < gfx.cursorRow then
    putCell { gfx with cursorRow := gfx.cursorRow - 1, cursorCol := uint32 (gfx.cols - 1) } 0x20
  else gfx

end GfxConsoleState

def consoleIsBackspace (c : UInt8) : Bool := c = 0x08 ∨ c = 0x7f

namespace GfxConsoleState

/-- `gfx_console_putc` behind its tests for characters that move the cursor. -/
def writeChar (gfx : GfxConsoleState) (c : UInt8) : GfxConsoleState :=
  let c := if c < 32 ∨ 126 < c then 0x3f else c
  let gfx := gfx.putCell c
  let gfx := { gfx with cursorCol := (gfx.cursorCol + 1) % 2 ^ 32 }
  if gfx.cols ≤ gfx.cursorCol then gfx.newline else gfx

/-- `gfx_console_putc`. All its ways end with `gfx_console_show_cursor`. -/
def putc (gfx : GfxConsoleState) (c : UInt8) : GfxConsoleState :=
  if gfx.cols = 0 ∨ gfx.rows = 0 then gfx
  else
    let gfx := gfx.hideCursor
    if c = 0x0d then showCursor { gfx with cursorCol := 0 }
    else if c = 0x0a then gfx.newline.showCursor
    else if consoleIsBackspace c then gfx.backspace.showCursor
    else (gfx.writeChar c).showCursor

end GfxConsoleState

/-- `console_mode` and `gfx_console`. -/
structure ConsoleState where
  mode : UInt32
  gfx : GfxConsoleState

/-- A rectangle that is passed to `virtio_gpu_flush_rect`: its corner and its size. -/
structure FlushRect where
  x : Nat
  y : Nat
  width : Nat
  height : Nat
  deriving DecidableEq

namespace ConsoleState

def graphics (console : ConsoleState) : Bool := console.mode &&& consoleSinkGraphics ≠ 0

/-- `console_flush_unlocked`; `available` is `virtio_gpu_available()`. -/
def flushUnlocked (console : ConsoleState) (available : Bool) : Option FlushRect × ConsoleState :=
  if console.graphics ∧ available then
    let dirty := console.gfx.dirty
    if dirty.valid then
      (some ⟨dirty.x0, dirty.y0, uint32 (dirty.x1 - dirty.x0), uint32 (dirty.y1 - dirty.y0)⟩,
        { console with gfx := { console.gfx with dirty := { dirty with valid := false } } })
    else (none, console)
  else (none, console)

/-- `console_putc_unlocked`. -/
def putcUnlocked (console : ConsoleState) (c : UInt8) : ConsoleState :=
  if console.graphics then { console with gfx := console.gfx.putc c } else console

/-- `console_set_output_mode`. -/
def setOutputMode (console : ConsoleState) (mode : UInt32) (available : Bool) :
    Option FlushRect × ConsoleState :=
  let console := { console with mode := mode &&& (consoleSinkSerial ||| consoleSinkGraphics) }
  if console.graphics then
    flushUnlocked { console with gfx := console.gfx.showCursor } available
  else (none, { console with gfx := console.gfx.hideCursor })

end ConsoleState

/-- `console_attach_graphics` with a framebuffer that is not null, whose words are those that are left
when the cursor of the last console is hidden. `block` is what `kmalloc` returns for the cells, from its
start on. `none` is a console without graphics. -/
def consoleAttachGraphics (mode : UInt32) (fb : Surface) (block : Option (Nat → UInt8))
    (available : Bool) : Option (Option FlushRect × ConsoleState) :=
  if fb.width < gfxFontWidth ∨ fb.height < gfxFontHeight then none
  else
    let cols := fb.width / gfxFontWidth
    let rows := fb.height / gfxFontHeight
    let cellCount := cols * rows % 2 ^ 32
    match block with
    | none => none
    | some block =>
        let gfx : GfxConsoleState := {
          fb := fb
          cells := fun index => if index < cellCount then 0 else block index
          cols := cols
          rows := rows
          cursorCol := 0
          cursorRow := 0
          fgColor := 0xffffffff
          bgColor := 0xff000000
          cursorColor := 0xff7fd1ff
          dirty := ⟨0, 0, 0, 0, false⟩
          cursorVisible := false }
        let gfx := { gfx with fb := fbClear fb gfx.bgColor }.markDirtyRect 0 0 fb.width fb.height
        some (ConsoleState.flushUnlocked ⟨mode, gfx.showCursor⟩ available)

end DuckOs

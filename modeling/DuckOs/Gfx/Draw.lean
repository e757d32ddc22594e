import DuckOs.Gfx.Framebuffer

/-!
# Drawing

`src/gfx/draw.c` on a framebuffer that is not null.
-/

namespace DuckOs

def drawAbs (value : Int) : Int := if value < 0 then int32 (-value) else value

def drawMin (a b : Int) : Int := if a < b then a else b

def drawMax (a b : Int) : Int := if b < a then a else b

def drawPixel (fb : Surface) (x y : Int) (color : UInt32) : Surface :=
  if x < 0 ∨ y < 0 then fb else fbPutPixel fb x.toNat y.toNat color

/-- The loop of `draw_hline`: `count` words from `current_x` on. -/
def drawHlineLoop (y : Int) (color : UInt32) : (count : Nat) → (currentX : Int) → Surface → Surface
  | 0, _, fb => fb
  | count + 1, currentX, fb =>
      drawHlineLoop y color count (currentX + 1) (fbPutPixel fb currentX.toNat y.toNat color)

def drawHline (fb : Surface) (x y width : Int) (color : UInt32) : Surface :=
  if width ≤ 0 ∨ y < 0 ∨ int32 fb.height ≤ y then fb
  else
    let startX := drawMax x 0
    let endX := drawMin (int32 (x + width)) (int32 fb.width)
    drawHlineLoop y color (endX - startX).toNat startX fb

/-- The loop of `draw_vline`. -/
def drawVlineLoop (x : Int) (color : UInt32) : (count : Nat) → (currentY : Int) → Surface → Surface
  | 0, _, fb => fb
  | count + 1, currentY, fb =>
      drawVlineLoop x color count (currentY + 1) (fbPutPixel fb x.toNat currentY.toNat color)

def drawVline (fb : Surface) (x y height : Int) (color : UInt32) : Surface :=
  if height ≤ 0 ∨ x < 0 ∨ int32 fb.width ≤ x then fb
  else
    let startY := drawMax y 0
    let endY := drawMin (int32 (y + height)) (int32 fb.height)
    drawVlineLoop x color (endY - startY).toNat startY fb

def drawRect (fb : Surface) (x y width height : Int) (color : UInt32) : Surface :=
  if width ≤ 0 ∨ height ≤ 0 then fb
  else
    let fb := drawHline fb x y width color
    let fb := drawHline fb x (int32 (y + height - 1)) width color
    let fb := drawVline fb x y height color
    drawVline fb (int32 (x + width - 1)) y height color

/-- The loop of `draw_fill_rect`: `count` rows from `current_y` on. -/
def drawFillRectLoop (x width : Int) (color : UInt32) :
    (count : Nat) → (currentY : Int) → Surface → Surface
  | 0, _, fb => fb
  | count + 1, currentY, fb =>
      drawFillRectLoop x width color count (currentY + 1) (drawHline fb x currentY width color)

def drawFillRect (fb : Surface) (x y width height : Int) (color : UInt32) : Surface :=
  if width ≤ 0 ∨ height ≤ 0 then fb
  else
    let startY := drawMax y 0
    let endY := drawMin (int32 (y + height)) (int32 fb.height)
    drawFillRectLoop x width color (endY - startY).toNat startY fb

/-! ### Lines -/

/-- `x0`, `y0` and `err`. -/
structure LineState where
  x : Int
  y : Int
  err : Int

/-- The variables of `draw_line` that do not change. -/
structure LineSlope where
  dx : Int
  dy : Int
  sx : Int
  sy : Int

def LineSlope.of (x0 y0 x1 y1 : Int) : LineSlope where
  dx := drawAbs (int32 (x1 - x0))
  dy := drawAbs (int32 (y1 - y0))
  sx := if x0 < x1 then 1 else -1
  sy := if y0 < y1 then 1 else -1

namespace LineSlope

/-- The first test of the loop. -/
def stepX (slope : LineSlope) (state : LineState) : LineState :=
  if -slope.dy < int32 (state.err * 2) then
    { state with err := int32 (state.err - slope.dy), x := int32 (state.x + slope.sx) }
  else state

/-- The second test, with the error that the first one leaves. -/
def stepY (slope : LineSlope) (state : LineState) : LineState :=
  if int32 (state.err * 2) < slope.dx then
    { state with err := int32 (state.err + slope.dx), y := int32 (state.y + slope.sy) }
  else state

def step (slope : LineSlope) (state : LineState) : LineState := slope.stepY (slope.stepX state)

end LineSlope

/-- The points that are visited and the framebuffer at the end; `none` if the loop is still running
after `fuel` rounds. -/
def drawLineLoop (slope : LineSlope) (x1 y1 : Int) (color : UInt32) :
    (fuel : Nat) → LineState → Surface → Option (List (Int × Int) × Surface)
  | 0, _, _ => none
  | fuel + 1, state, fb =>
      let fb := drawPixel fb state.x state.y color
      if state.x = x1 ∧ state.y = y1 then some ([(state.x, state.y)], fb)
      else
        (drawLineLoop slope x1 y1 color fuel (slope.step state) fb).map fun result =>
          ((state.x, state.y) :: result.1, result.2)

def drawLine (fuel : Nat) (fb : Surface) (x0 y0 x1 y1 : Int) (color : UInt32) :
    Option (List (Int × Int) × Surface) :=
  let slope := LineSlope.of x0 y0 x1 y1
  drawLineLoop slope x1 y1 color fuel ⟨x0, y0, int32 (slope.dx - slope.dy)⟩ fb

end DuckOs

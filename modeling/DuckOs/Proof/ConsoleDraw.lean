import DuckOs.Kernel.Console
import DuckOs.Proof.CursorUnder
import DuckOs.Proof.DrawRect

/-!
# What the graphics console draws

Every operation of the graphics console marks what it draws on. A cell that is drawn shows the glyph of
its character, and nothing else changes.
-/

namespace DuckOs

/-! ### Characters and blank framebuffers -/

section Text

variable {fb : Surface} {x y : Nat} {ch : UInt8} {fgColor bgColor : UInt32}

theorem drawPixel_eq (fb : Surface) (hx : x < 2 ^ 31) (hy : y < 2 ^ 31) (color : UInt32) :
    drawPixel fb (int32 x) (int32 y) color = fbPutPixel fb x y color := by
  rw [int32_eq (by omega) (by omega), int32_eq (by omega) (by omega), drawPixel, if_neg (by omega)]
  rfl

/-- A character is a block of eight by eight words. -/
theorem gfxDrawChar_eq_putBlock (fb : Surface) (hx : x + 8 ≤ 2 ^ 31) (hy : y + 8 ≤ 2 ^ 31) :
    gfxDrawChar fb (int32 x) (int32 y) ch fgColor bgColor
      = fbPutBlock fb x y 8 8 (gfxGlyphColor ch fgColor bgColor) := by
  have hxInt : int32 x = x := int32_eq (by omega) (by omega)
  have hyInt : int32 y = y := int32_eq (by omega) (by omega)
  unfold gfxDrawChar fbPutBlock
  rw [hxInt, hyInt]
  refine GridLoop.run_congr (fun state row col hrow hcol => ?_) fb
  rw [← Int.natCast_add, ← Int.natCast_add]
  rw [gfxFontHeight] at hrow
  rw [gfxFontWidth] at hcol
  rw [drawPixel_eq state (by omega) (by omega), Nat.mod_eq_of_lt (by omega),
    Nat.mod_eq_of_lt (by omega)]

theorem fbClear_sameShape (fb : Surface) (color : UInt32) : (fbClear fb color).SameShape fb := by
  unfold fbClear
  split
  · exact ⟨rfl, rfl⟩
  · exact @GridLoop.run_keeps _ _ _ _ (fun other => other.SameShape fb)
      (fun _ _ _ _ _ hshape => (fbPutPixel_sameShape _ _ _ _).trans hshape) fb ⟨rfl, rfl⟩

theorem fbClear_pixel (hsupported : fb.supported = true) (hwidth : fb.width < 2 ^ 31)
    (hheight : fb.height < 2 ^ 31) (color : UInt32) {place : Nat × Nat}
    (hplace : place.1 < fb.width ∧ place.2 < fb.height) : (fbClear fb color).pixel place = color := by
  have hblock : fbClear fb color = fbPutBlock fb 0 0 fb.width fb.height fun _ _ => color := by
    rw [fbClear, hsupported, if_neg (by simp)]
    refine GridLoop.run_congr (fun state row col hrow hcol => ?_) fb
    rw [Nat.zero_add, Nat.zero_add, Nat.mod_eq_of_lt (by omega), Nat.mod_eq_of_lt (by omega)]
  rw [hblock]
  refine fbPutBlock_pixel_of_mem (by omega) (by omega) ⟨hsupported, ?_⟩
  simp only [blockPlaces, Set.mem_ofPred_eq]
  omega

end Text

/-! ### The dirty rectangle -/

namespace GfxDirty

def area (dirty : GfxDirty) : Set (Nat × Nat) :=
  {place | dirty.valid = true ∧ (dirty.x0 ≤ place.1 ∧ place.1 < dirty.x1)
    ∧ dirty.y0 ≤ place.2 ∧ place.2 < dirty.y1}

def Inside (dirty : GfxDirty) (fb : Framebuffer) : Prop :=
  dirty.valid = true →
    (dirty.x0 < dirty.x1 ∧ dirty.x1 ≤ fb.width) ∧ dirty.y0 < dirty.y1 ∧ dirty.y1 ≤ fb.height

section Mark

variable {dirty : GfxDirty} {fb : Framebuffer} {x y width height : Nat}

/-- A rectangle is added to what is marked, as far as it is on the framebuffer. -/
theorem markRect_spec (hx : x + width < 2 ^ 32) (hy : y + height < 2 ^ 32) :
    dirty.area ⊆ (dirty.markRect fb x y width height).area
      ∧ blockPlaces fb x y width height ⊆ (dirty.markRect fb x y width height).area
      ∧ (dirty.Inside fb → (dirty.markRect fb x y width height).Inside fb) := by
  unfold markRect
  by_cases hempty : width = 0 ∨ height = 0
  · rw [if_pos hempty]
    refine ⟨subset_rfl, fun place hplace => ?_, id⟩
    simp only [blockPlaces, Set.mem_ofPred_eq] at hplace
    omega
  by_cases hout : fb.width ≤ x ∨ fb.height ≤ y
  · rw [if_neg hempty, if_pos hout]
    refine ⟨subset_rfl, fun place hplace => ?_, id⟩
    simp only [blockPlaces, Set.mem_ofPred_eq] at hplace
    omega
  rw [if_neg hempty, if_neg hout, Nat.mod_eq_of_lt hx, Nat.mod_eq_of_lt hy]
  have hright : (if fb.width < x + width then fb.width else x + width) = min fb.width (x + width) := by
    split <;> omega
  have hbottom : (if fb.height < y + height then fb.height else y + height)
      = min fb.height (y + height) := by
    split <;> omega
  dsimp only
  rw [hright, hbottom]
  cases hvalid : dirty.valid with
  | false =>
      rw [if_pos (by simp)]
      refine ⟨fun place hplace => ?_, fun place hplace => ?_, fun _ _ => ?_⟩
      · exact absurd hplace.1 (by simp [hvalid])
      · simp only [blockPlaces, Set.mem_ofPred_eq] at hplace
        refine ⟨rfl, ?_⟩
        dsimp only
        omega
      · dsimp only
        omega
  | true =>
      rw [if_neg (by simp)]
      refine ⟨fun place hplace => ?_, fun place hplace => ?_, fun hinside _ => ?_⟩
      · obtain ⟨-, ⟨hleft, hrightLt⟩, htop, hbottomLt⟩ := hplace
        refine ⟨rfl, ⟨?_, ?_⟩, ?_, ?_⟩
        all_goals dsimp only; split <;> omega
      · simp only [blockPlaces, Set.mem_ofPred_eq] at hplace
        refine ⟨rfl, ⟨?_, ?_⟩, ?_, ?_⟩
        all_goals dsimp only; split <;> omega
      · obtain ⟨⟨hleft, hrightLe⟩, htop, hbottomLe⟩ := hinside hvalid
        refine ⟨⟨?_, ?_⟩, ?_, ?_⟩
        all_goals dsimp only; (repeat' split) <;> omega

end Mark

end GfxDirty

/-! ### Operations -/

namespace GfxConsoleState

/-- The grid of cells is on the framebuffer, and there is a byte for each of them. -/
structure Sized (gfx : GfxConsoleState) : Prop where
  supported : gfx.fb.supported = true
  right_le : gfx.cols * 8 ≤ gfx.fb.width
  bottom_le : gfx.rows * 8 ≤ gfx.fb.height
  width_lt : gfx.fb.width < 2 ^ 31
  height_lt : gfx.fb.height < 2 ^ 31
  cells_lt : gfx.rows * gfx.cols < 2 ^ 32

/-- What every operation keeps: it draws within what it marks. -/
structure Advance (before after : GfxConsoleState) : Prop where
  shape : after.fb.SameShape before.fb
  cols_eq : after.cols = before.cols
  rows_eq : after.rows = before.rows
  fgColor_eq : after.fgColor = before.fgColor
  bgColor_eq : after.bgColor = before.bgColor
  cursorColor_eq : after.cursorColor = before.cursorColor
  grows : before.dirty.area ⊆ after.dirty.area
  changed : ∀ place, after.fb.pixel place ≠ before.fb.pixel place → place ∈ after.dirty.area
  inside : before.dirty.Inside before.fb.toFramebuffer → after.dirty.Inside after.fb.toFramebuffer

/-- Only the picture and what is marked of it may be new. -/
structure Repainted (before after : GfxConsoleState) : Prop extends Advance before after where
  cells_eq : after.cells = before.cells
  cursorCol_eq : after.cursorCol = before.cursorCol
  cursorRow_eq : after.cursorRow = before.cursorRow
  cursorVisible_eq : after.cursorVisible = before.cursorVisible

variable {gfx before middle after : GfxConsoleState} {col row : Nat}

theorem Advance.trans (hfirst : Advance before middle) (hsecond : Advance middle after) :
    Advance before after where
  shape := hsecond.shape.trans hfirst.shape
  cols_eq := hsecond.cols_eq.trans hfirst.cols_eq
  rows_eq := hsecond.rows_eq.trans hfirst.rows_eq
  fgColor_eq := hsecond.fgColor_eq.trans hfirst.fgColor_eq
  bgColor_eq := hsecond.bgColor_eq.trans hfirst.bgColor_eq
  cursorColor_eq := hsecond.cursorColor_eq.trans hfirst.cursorColor_eq
  grows := hfirst.grows.trans hsecond.grows
  changed := by
    intro place hne
    by_cases hsame : after.fb.pixel place = middle.fb.pixel place
    · exact hsecond.grows (hfirst.changed place (hsame ▸ hne))
    · exact hsecond.changed place hsame
  inside := hsecond.inside ∘ hfirst.inside

theorem Repainted.refl (gfx : GfxConsoleState) : Repainted gfx gfx :=
  ⟨⟨⟨rfl, rfl⟩, rfl, rfl, rfl, rfl, rfl, subset_rfl, fun _ hne => absurd rfl hne, id⟩, rfl, rfl, rfl,
    rfl⟩

theorem Repainted.trans (hfirst : Repainted before middle) (hsecond : Repainted middle after) :
    Repainted before after :=
  ⟨hfirst.toAdvance.trans hsecond.toAdvance, hsecond.cells_eq.trans hfirst.cells_eq,
    hsecond.cursorCol_eq.trans hfirst.cursorCol_eq, hsecond.cursorRow_eq.trans hfirst.cursorRow_eq,
    hsecond.cursorVisible_eq.trans hfirst.cursorVisible_eq⟩

theorem Sized.advance (hsized : before.Sized) (hadvance : Advance before after) : after.Sized where
  supported := hadvance.shape.2.trans hsized.supported
  right_le := by
    rw [hadvance.cols_eq, hadvance.shape.1]
    exact hsized.right_le
  bottom_le := by
    rw [hadvance.rows_eq, hadvance.shape.1]
    exact hsized.bottom_le
  width_lt := by
    rw [hadvance.shape.1]
    exact hsized.width_lt
  height_lt := by
    rw [hadvance.shape.1]
    exact hsized.height_lt
  cells_lt := by
    rw [hadvance.rows_eq, hadvance.cols_eq]
    exact hsized.cells_lt

/-- A cell of the grid is on the framebuffer, and its places are far from wrapping around. -/
theorem Sized.cell_inside (hsized : gfx.Sized) (hcol : col < gfx.cols) (hrow : row < gfx.rows) :
    (col * 8 + 8 ≤ gfx.fb.width ∧ gfx.fb.width < 2 ^ 31)
      ∧ row * 8 + 8 ≤ gfx.fb.height ∧ gfx.fb.height < 2 ^ 31 := by
  have hright := hsized.right_le
  have hbottom := hsized.bottom_le
  exact ⟨⟨by omega, hsized.width_lt⟩, by omega, hsized.height_lt⟩

/-- What is not drawn may change freely. -/
theorem advance_text (gfx : GfxConsoleState) (cells : Nat → UInt8) (col row : Nat) (visible : Bool) :
    Advance gfx
      { gfx with cells := cells, cursorCol := col, cursorRow := row, cursorVisible := visible } :=
  ⟨⟨rfl, rfl⟩, rfl, rfl, rfl, rfl, rfl, subset_rfl, fun _ hne => absurd rfl hne, id⟩

/-- Words that are new only where they are marked. -/
theorem repainted_mark {fb : Surface} {x y width height : Nat} (hshape : fb.SameShape gfx.fb)
    (hpixel : ∀ place, fb.pixel place ≠ gfx.fb.pixel place →
      place ∈ blockPlaces gfx.fb.toFramebuffer x y width height)
    (hx : x + width < 2 ^ 32) (hy : y + height < 2 ^ 32) :
    Repainted gfx ({ gfx with fb := fb }.markDirtyRect x y width height) := by
  obtain ⟨hgrows, hblock, hinside⟩ :=
    @GfxDirty.markRect_spec gfx.dirty gfx.fb.toFramebuffer x y width height hx hy
  unfold markDirtyRect
  dsimp only
  rw [hshape.1]
  refine ⟨⟨hshape, rfl, rfl, rfl, rfl, rfl, hgrows, fun place hne => hblock (hpixel place hne), ?_⟩,
    rfl, rfl, rfl, rfl⟩
  rw [hshape.1]
  exact hinside

theorem drawCell_eq (hsized : gfx.Sized) (hcol : col < gfx.cols) (hrow : row < gfx.rows) :
    gfx.drawCell col row
      = { gfx with
          fb := fbPutBlock gfx.fb (col * 8) (row * 8) 8 8
            (gfxGlyphColor (gfx.cellChar col row) gfx.fgColor gfx.bgColor) }.markDirtyRect
        (col * 8) (row * 8) 8 8 := by
  obtain ⟨⟨hright, hwidth⟩, hbottom, hheight⟩ := hsized.cell_inside hcol hrow
  have hx : col * gfxFontWidth % 2 ^ 32 = col * 8 := Nat.mod_eq_of_lt (by rw [gfxFontWidth]; omega)
  have hy : row * gfxFontHeight % 2 ^ 32 = row * 8 := Nat.mod_eq_of_lt (by rw [gfxFontHeight]; omega)
  unfold drawCell
  rw [if_neg (by omega), hx, hy]
  dsimp only
  rw [gfxDrawChar_eq_putBlock gfx.fb (by omega) (by omega), gfxFontWidth, gfxFontHeight]

theorem drawCell_repainted (hsized : gfx.Sized) (col row : Nat) :
    Repainted gfx (gfx.drawCell col row) := by
  by_cases hcell : col < gfx.cols ∧ row < gfx.rows
  · obtain ⟨⟨hright, hwidth⟩, hbottom, hheight⟩ := hsized.cell_inside hcell.1 hcell.2
    rw [drawCell_eq hsized hcell.1 hcell.2]
    refine repainted_mark (fbPutBlock_sameShape _ _ _ _ _ _) (fun place hne => ?_) (by omega) (by omega)
    by_contra hout
    exact hne (fbPutBlock_pixel_of_notMem (by omega) (by omega) fun hmem => hout hmem.2)
  · rw [drawCell, if_pos (by omega)]
    exact Repainted.refl gfx

/-- The colour of a pixel of the grid without a cursor. -/
def glyphAt (gfx : GfxConsoleState) (place : Nat × Nat) : UInt32 :=
  gfxGlyphColor (gfx.cellChar (place.1 / 8) (place.2 / 8)) gfx.fgColor gfx.bgColor (place.2 % 8)
    (place.1 % 8)

theorem drawCell_pixel (hsized : gfx.Sized) (hcol : col < gfx.cols) (hrow : row < gfx.rows)
    (place : Nat × Nat) :
    (gfx.drawCell col row).fb.pixel place
      = if place.1 / 8 = col ∧ place.2 / 8 = row then gfx.glyphAt place else gfx.fb.pixel place := by
  obtain ⟨⟨hright, hwidth⟩, hbottom, hheight⟩ := hsized.cell_inside hcol hrow
  rw [drawCell_eq hsized hcol hrow]
  unfold markDirtyRect
  dsimp only
  split
  · rename_i hcell
    rw [fbPutBlock_pixel_of_mem (by omega) (by omega), glyphAt, hcell.1, hcell.2]
    · congr 1
      · omega
      · omega
    · refine ⟨hsized.supported, ?_⟩
      simp only [blockPlaces, Set.mem_ofPred_eq]
      omega
  · rename_i hother
    refine fbPutBlock_pixel_of_notMem (by omega) (by omega) fun hmem => hother ?_
    have hblock := hmem.2
    simp only [blockPlaces, Set.mem_ofPred_eq] at hblock
    omega

/-! ### The whole picture -/

/-- The grid shows the glyphs of the cells, and two rows of the cursor while that is visible. -/
def Drawn (gfx : GfxConsoleState) : Prop :=
  ∀ place : Nat × Nat, place.1 < gfx.cols * 8 → place.2 < gfx.rows * 8 →
    gfx.fb.pixel place
      = if gfx.cursorVisible = true ∧ (place.1 / 8 = gfx.cursorCol ∧ place.2 / 8 = gfx.cursorRow)
          ∧ 6 ≤ place.2 % 8 then gfx.cursorColor
        else gfx.glyphAt place

theorem Repainted.cellChar_eq (hpaint : Repainted before after) (col row : Nat) :
    after.cellChar col row = before.cellChar col row := by
  unfold cellChar index
  rw [hpaint.cols_eq, hpaint.cells_eq]

theorem Repainted.glyphAt_eq (hpaint : Repainted before after) (place : Nat × Nat) :
    after.glyphAt place = before.glyphAt place := by
  rw [glyphAt, glyphAt, hpaint.fgColor_eq, hpaint.bgColor_eq, hpaint.cellChar_eq]

theorem drawn_of_hidden (hhidden : gfx.cursorVisible = false)
    (hglyphs : ∀ place : Nat × Nat, place.1 < gfx.cols * 8 → place.2 < gfx.rows * 8 →
      gfx.fb.pixel place = gfx.glyphAt place) : gfx.Drawn := by
  intro place hx hy
  rw [if_neg (by rw [hhidden]; simp)]
  exact hglyphs place hx hy

theorem Drawn.glyphs (hdrawn : gfx.Drawn) (hhidden : gfx.cursorVisible = false) (place : Nat × Nat)
    (hx : place.1 < gfx.cols * 8) (hy : place.2 < gfx.rows * 8) :
    gfx.fb.pixel place = gfx.glyphAt place := by
  rw [hdrawn place hx hy, if_neg (by rw [hhidden]; simp)]

theorem redrawAll_repainted (hsized : gfx.Sized) : Repainted gfx gfx.redrawAll :=
  @GridLoop.run_keeps _ gfx.rows gfx.cols _ (Repainted gfx)
    (fun _ row col _ _ hpaint =>
      hpaint.trans (drawCell_repainted (hsized.advance hpaint.toAdvance) col row))
    gfx (Repainted.refl gfx)

theorem redrawAll_drawn (hsized : gfx.Sized) (hhidden : gfx.cursorVisible = false) :
    gfx.redrawAll.Drawn := by
  have hpaint := redrawAll_repainted hsized
  refine drawn_of_hidden (hpaint.cursorVisible_eq.trans hhidden) fun place hx hy => ?_
  rw [hpaint.glyphAt_eq]
  rw [hpaint.cols_eq] at hx
  rw [hpaint.rows_eq] at hy
  refine (@GridLoop.view_run _ _ _ gfx.rows gfx.cols _ (Repainted gfx) (fun other => other.fb.pixel)
    (fun row col place => place.1 / 8 = col ∧ place.2 / 8 = row) gfx.glyphAt
    (fun _ row col _ _ hpaint =>
      hpaint.trans (drawCell_repainted (hsized.advance hpaint.toAdvance) col row))
    ?_ ?_ gfx (Repainted.refl gfx) place).1
    ⟨place.2 / 8, by omega, place.1 / 8, by omega, rfl, rfl⟩
  · intro other row col place hrow hcol hother hcell
    rw [drawCell_pixel (hsized.advance hother.toAdvance) (hother.cols_eq ▸ hcol)
      (hother.rows_eq ▸ hrow), if_pos hcell, hother.glyphAt_eq]
  · intro other row col place hrow hcol hother hcell
    rw [drawCell_pixel (hsized.advance hother.toAdvance) (hother.cols_eq ▸ hcol)
      (hother.rows_eq ▸ hrow), if_neg hcell]

/-! ### The cursor -/

theorem hideCursor_spec (hsized : gfx.Sized) (hcol : gfx.cursorCol < gfx.cols)
    (hrow : gfx.cursorRow < gfx.rows) (hdrawn : gfx.Drawn) :
    Advance gfx gfx.hideCursor ∧ gfx.hideCursor.Drawn ∧ gfx.hideCursor.cursorVisible = false
      ∧ gfx.hideCursor.cells = gfx.cells ∧ gfx.hideCursor.cursorCol = gfx.cursorCol
      ∧ gfx.hideCursor.cursorRow = gfx.cursorRow := by
  unfold hideCursor
  cases hvisible : gfx.cursorVisible with
  | false => exact ⟨(Repainted.refl gfx).toAdvance, hdrawn, hvisible, rfl, rfl, rfl⟩
  | true =>
      have hpaint := drawCell_repainted hsized gfx.cursorCol gfx.cursorRow
      rw [if_neg (by simp)]
      refine ⟨hpaint.toAdvance.trans (advance_text _ _ _ _ _), ?_, rfl, hpaint.cells_eq,
        hpaint.cursorCol_eq, hpaint.cursorRow_eq⟩
      refine drawn_of_hidden rfl fun place hx hy => ?_
      have hglyph := hpaint.glyphAt_eq place
      dsimp only at hx hy ⊢
      rw [hpaint.cols_eq] at hx
      rw [hpaint.rows_eq] at hy
      rw [drawCell_pixel hsized hcol hrow]
      refine Eq.trans ?_ hglyph.symm
      split
      · rfl
      · rename_i hother
        rw [hdrawn place hx hy, if_neg fun hcursor => hother hcursor.2.1]

theorem showCursor_eq (hsized : gfx.Sized) (hcol : gfx.cursorCol < gfx.cols)
    (hrow : gfx.cursorRow < gfx.rows) :
    gfx.showCursor
      = { { gfx with
            fb := gfx.fb.paint
              (rectangle (gfx.cursorCol * 8 : Nat) (gfx.cursorRow * 8 + 6 : Nat) 8 2)
              gfx.cursorColor }.markDirtyRect (gfx.cursorCol * 8) (gfx.cursorRow * 8 + 6) 8 2 with
          cursorVisible := true } := by
  obtain ⟨⟨hright, hwidth⟩, hbottom, hheight⟩ := hsized.cell_inside hcol hrow
  have hx : gfx.cursorCol * gfxFontWidth % 2 ^ 32 = gfx.cursorCol * 8 :=
    Nat.mod_eq_of_lt (by rw [gfxFontWidth]; omega)
  have hy : (gfx.cursorRow * gfxFontHeight + (gfxFontHeight - 2)) % 2 ^ 32
      = gfx.cursorRow * 8 + 6 := Nat.mod_eq_of_lt (by rw [gfxFontHeight]; omega)
  have hxInt : int32 (gfx.cursorCol * 8 : Nat) = (gfx.cursorCol * 8 : Nat) :=
    int32_eq (by omega) (by omega)
  have hyInt : int32 (gfx.cursorRow * 8 + 6 : Nat) = (gfx.cursorRow * 8 + 6 : Nat) :=
    int32_eq (by omega) (by omega)
  unfold showCursor
  rw [if_neg (by omega), hx, hy]
  dsimp only
  rw [hxInt, hyInt, gfxFontWidth,
    drawFillRect_eq_rectangle hwidth hheight (by omega) (by omega) (by omega) (by omega)]
  rfl

theorem showCursor_spec (hsized : gfx.Sized) (hcol : gfx.cursorCol < gfx.cols)
    (hrow : gfx.cursorRow < gfx.rows) (hdrawn : gfx.Drawn) :
    Advance gfx gfx.showCursor ∧ gfx.showCursor.Drawn ∧ gfx.showCursor.cursorVisible = true
      ∧ gfx.showCursor.cells = gfx.cells ∧ gfx.showCursor.cursorCol = gfx.cursorCol
      ∧ gfx.showCursor.cursorRow = gfx.cursorRow := by
  obtain ⟨⟨hright, hwidth⟩, hbottom, hheight⟩ := hsized.cell_inside hcol hrow
  have hgridRight := hsized.right_le
  have hgridBottom := hsized.bottom_le
  have hpaint : Repainted gfx ({ gfx with
      fb := gfx.fb.paint (rectangle (gfx.cursorCol * 8 : Nat) (gfx.cursorRow * 8 + 6 : Nat) 8 2)
        gfx.cursorColor }.markDirtyRect (gfx.cursorCol * 8) (gfx.cursorRow * 8 + 6) 8 2) := by
    refine repainted_mark ⟨rfl, rfl⟩ (fun place hne => ?_) (by omega) (by omega)
    by_contra hout
    refine hne (Surface.paint_pixel_of_notMem fun hmem => hout ?_)
    obtain ⟨-, ⟨hplaceX, hplaceY⟩, hrectangle⟩ := hmem
    simp only [rectangle, Set.mem_ofPred_eq] at hrectangle
    simp only [blockPlaces, Set.mem_ofPred_eq]
    omega
  rw [showCursor_eq hsized hcol hrow]
  refine ⟨hpaint.toAdvance.trans (advance_text _ _ _ _ _), ?_, rfl, rfl, rfl, rfl⟩
  intro place hx hy
  have hglyph := hpaint.glyphAt_eq place
  have hplace : place ∈ gfx.fb.places := ⟨by dsimp only [markDirtyRect] at hx; omega,
    by dsimp only [markDirtyRect] at hy; omega⟩
  have hcursor : place ∈ rectangle (gfx.cursorCol * 8 : Nat) (gfx.cursorRow * 8 + 6 : Nat) 8 2
      ↔ (place.1 / 8 = gfx.cursorCol ∧ place.2 / 8 = gfx.cursorRow) ∧ 6 ≤ place.2 % 8 := by
    simp only [rectangle, Set.mem_ofPred_eq]
    omega
  unfold markDirtyRect at hglyph hx hy ⊢
  dsimp only at hglyph hx hy ⊢
  by_cases hmem : place ∈ rectangle (gfx.cursorCol * 8 : Nat) (gfx.cursorRow * 8 + 6 : Nat) 8 2
  · rw [Surface.paint_pixel_of_mem ⟨hsized.supported, hplace, hmem⟩,
      if_pos ⟨rfl, hcursor.mp hmem⟩]
  · rw [Surface.paint_pixel_of_notMem fun hinside => hmem hinside.2.2,
      if_neg fun hshown => hmem (hcursor.mpr hshown.2), hdrawn place hx hy,
      if_neg fun hshown => hmem (hcursor.mpr hshown.2)]
    exact hglyph.symm

end GfxConsoleState

end DuckOs

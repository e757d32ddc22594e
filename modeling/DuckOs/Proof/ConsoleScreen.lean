import DuckOs.Lib.CellScreen
import DuckOs.Proof.ConsoleDraw

/-!
# Bytes on the graphics console

A byte does to the cells, the cursor and the picture of the graphics console what it does to the screen of
a terminal.
-/

namespace DuckOs

/-! ### The terminal -/

section Terminal

variable {rows cols : Nat}

def terminalByte (screen : CellScreen rows cols UInt8) (c : UInt8) : CellScreen rows cols UInt8 :=
  if c = 0x0d then screen.carriageReturn
  else if c = 0x0a then screen.lineFeed 0x20
  else if c = 0x08 ∨ c = 0x7f then screen.backspace 0x20
  else if 0x20 ≤ c ∧ c ≤ 0x7e then screen.write 0x20 c
  else screen.write 0x20 0x3f

end Terminal

namespace GfxConsoleState

/-! ### Cells -/

section Cells

variable {gfx : GfxConsoleState} {col row otherCol otherRow : Nat}

theorem cell_lt {rows cols : Nat} (hrow : row < rows) (hcol : col < cols) :
    row * cols + col < rows * cols := by
  calc
    row * cols + col < row * cols + cols := Nat.add_lt_add_left hcol _
    _ = (row + 1) * cols := (Nat.succ_mul row cols).symm
    _ ≤ rows * cols := Nat.mul_le_mul_right cols hrow

theorem cell_inj {cols : Nat} (hcol : col < cols) (hother : otherCol < cols) :
    row * cols + col = otherRow * cols + otherCol ↔ row = otherRow ∧ col = otherCol := by
  constructor
  · intro hsame
    have hdiv : row = otherRow := by
      have hleft : (row * cols + col) / cols = row := by
        rw [Nat.add_comm, Nat.add_mul_div_right _ _ (by omega), Nat.div_eq_of_lt hcol, Nat.zero_add]
      have hright : (otherRow * cols + otherCol) / cols = otherRow := by
        rw [Nat.add_comm, Nat.add_mul_div_right _ _ (by omega), Nat.div_eq_of_lt hother, Nat.zero_add]
      rw [← hleft, hsame, hright]
    subst hdiv
    exact ⟨rfl, Nat.add_left_cancel hsame⟩
  · rintro ⟨rfl, rfl⟩
    rfl

theorem Sized.index_eq (hsized : gfx.Sized) (hcol : col < gfx.cols) (hrow : row < gfx.rows) :
    gfx.index col row = row * gfx.cols + col :=
  Nat.mod_eq_of_lt ((cell_lt hrow hcol).trans hsized.cells_lt)

/-- A cell that has never been written shows a blank. -/
def shownChar (ch : UInt8) : UInt8 := if ch = 0 then 0x20 else ch

theorem Sized.cellChar_eq (hsized : gfx.Sized) (hcol : col < gfx.cols) (hrow : row < gfx.rows) :
    gfx.cellChar col row = shownChar (gfx.cells (row * gfx.cols + col)) := by
  rw [cellChar, hsized.index_eq hcol hrow, shownChar]

theorem putCell_spec (hsized : gfx.Sized) (hcol : gfx.cursorCol < gfx.cols)
    (hrow : gfx.cursorRow < gfx.rows) (hhidden : gfx.cursorVisible = false) (hdrawn : gfx.Drawn)
    {ch : UInt8} (hch : ch ≠ 0) :
    Advance gfx (gfx.putCell ch) ∧ (gfx.putCell ch).Drawn ∧ (gfx.putCell ch).cursorVisible = false
      ∧ (gfx.putCell ch).cursorCol = gfx.cursorCol ∧ (gfx.putCell ch).cursorRow = gfx.cursorRow
      ∧ ∀ col < gfx.cols, ∀ row < gfx.rows, (gfx.putCell ch).cellChar col row
        = if row = gfx.cursorRow ∧ col = gfx.cursorCol then ch else gfx.cellChar col row := by
  have hwritten : Advance gfx { gfx with
      cells := Function.update gfx.cells (gfx.index gfx.cursorCol gfx.cursorRow) ch } :=
    advance_text _ _ _ _ _
  have hwrittenSized := hsized.advance hwritten
  have hchar : ∀ col < gfx.cols, ∀ row < gfx.rows, cellChar { gfx with
        cells := Function.update gfx.cells (gfx.index gfx.cursorCol gfx.cursorRow) ch } col row
      = if row = gfx.cursorRow ∧ col = gfx.cursorCol then ch else gfx.cellChar col row := by
    intro col hcolLt row hrowLt
    rw [hwrittenSized.cellChar_eq hcolLt hrowLt, hsized.cellChar_eq hcolLt hrowLt,
      hsized.index_eq hcol hrow]
    dsimp only
    by_cases hcell : row = gfx.cursorRow ∧ col = gfx.cursorCol
    · rw [if_pos hcell, hcell.1, hcell.2, Function.update_self, shownChar, if_neg hch]
    · rw [if_neg hcell, Function.update_of_ne fun hsame => hcell ((cell_inj hcolLt hcol).mp hsame)]
  have hpaint := drawCell_repainted hwrittenSized gfx.cursorCol gfx.cursorRow
  have hstill := hpaint.cursorVisible_eq.trans hhidden
  unfold putCell
  refine ⟨hwritten.trans hpaint.toAdvance, drawn_of_hidden hstill fun place hx hy => ?_, hstill,
    hpaint.cursorCol_eq, hpaint.cursorRow_eq, fun col hcolLt row hrowLt => ?_⟩
  · rw [hpaint.cols_eq] at hx
    rw [hpaint.rows_eq] at hy
    dsimp only at hx hy
    rw [drawCell_pixel hwrittenSized hcol hrow, hpaint.glyphAt_eq]
    split
    · rfl
    · rename_i hother
      unfold glyphAt
      rw [hchar _ (by omega) _ (by omega), if_neg fun hcell => hother ⟨hcell.2, hcell.1⟩]
      exact hdrawn.glyphs hhidden place hx hy
  · rw [hpaint.cellChar_eq]
    exact hchar col hcolLt row hrowLt

/-! ### Scrolling -/

theorem moveRowsUp_cells (hsized : gfx.Sized) (hrows : 0 < gfx.rows) (index : Nat) :
    gfx.moveRowsUp.cells index
      = if index < (gfx.rows - 1) * gfx.cols then gfx.cells (index + gfx.cols)
        else gfx.cells index := by
  revert index
  refine @GridLoop.run_rounds _ (gfx.rows - 1) gfx.cols _
    (fun done cells => ∀ index, cells index
      = if index < done then gfx.cells (index + gfx.cols) else gfx.cells index) ?_ gfx.cells
    (fun index => (if_neg (Nat.not_lt_zero index)).symm)
  intro cells row col hrow hcol hcells index
  have hto := hsized.index_eq hcol (show row < gfx.rows by omega)
  have hfrom := hsized.index_eq hcol (show row + 1 < gfx.rows by omega)
  rw [Nat.succ_mul] at hfrom
  by_cases hindex : index = row * gfx.cols + col
  · rw [hto, hindex, Function.update_self, if_pos (Nat.lt_succ_self _), hfrom, hcells,
      if_neg (by omega)]
    congr 1
    omega
  · rw [hto, Function.update_of_ne hindex, hcells]
    by_cases hbefore : index < row * gfx.cols + col
    · rw [if_pos hbefore, if_pos (by omega)]
    · rw [if_neg hbefore, if_neg (by omega)]

theorem clearRow_cells (hsized : gfx.Sized) (hrow : row < gfx.rows) (hcol : otherCol < gfx.cols)
    (otherRow : Nat) :
    (gfx.clearRow row).cells (otherRow * gfx.cols + otherCol)
      = if otherRow = row then 0x20 else gfx.cells (otherRow * gfx.cols + otherCol) := by
  obtain ⟨hcleared, hkept⟩ := @GridLoop.view_foldl_range _ _ _ (fun _ => True) id
    (fun col index => index = row * gfx.cols + col) (fun _ => (0x20 : UInt8)) gfx.cols
    (fun cells col => Function.update cells (gfx.index col row) 0x20) (fun _ _ _ _ => trivial)
    (by
      rintro cells col index hcolLt - rfl
      rw [id, hsized.index_eq hcolLt hrow, Function.update_self])
    (by
      rintro cells col index hcolLt - hne
      rw [id, id, hsized.index_eq hcolLt hrow, Function.update_of_ne hne])
    gfx.cells trivial (otherRow * gfx.cols + otherCol)
  split
  · rename_i hsame
    subst hsame
    exact hcleared ⟨otherCol, hcol, rfl⟩
  · rename_i hne
    refine hkept ?_
    rintro ⟨col, hcolLt, hindex⟩
    exact hne ((cell_inj hcol hcolLt).mp hindex).1

theorem scroll_spec (hsized : gfx.Sized) (hrows : 0 < gfx.rows)
    (hhidden : gfx.cursorVisible = false) :
    Advance gfx gfx.scroll ∧ gfx.scroll.Drawn ∧ gfx.scroll.cursorVisible = false
      ∧ gfx.scroll.cursorCol = gfx.cursorCol ∧ gfx.scroll.cursorRow = gfx.cursorRow
      ∧ ∀ col < gfx.cols, ∀ row < gfx.rows, gfx.scroll.cellChar col row
        = if row + 1 < gfx.rows then gfx.cellChar col (row + 1) else 0x20 := by
  have hright := hsized.right_le
  have hbottom := hsized.bottom_le
  have hwidth := hsized.width_lt
  have hheight := hsized.height_lt
  have hmoved : Advance gfx (gfx.moveRowsUp.clearRow (gfx.rows - 1)) := advance_text _ _ _ _ _
  have hchar : ∀ col < gfx.cols, ∀ row < gfx.rows,
      (gfx.moveRowsUp.clearRow (gfx.rows - 1)).cellChar col row
        = if row + 1 < gfx.rows then gfx.cellChar col (row + 1) else 0x20 := by
    intro col hcol row hrow
    have hup : gfx.moveRowsUp.Sized := hsized.advance (advance_text _ _ _ _ _)
    have hcleared : (gfx.moveRowsUp.clearRow (gfx.rows - 1)).cells (row * gfx.cols + col)
        = if row = gfx.rows - 1 then 0x20 else gfx.moveRowsUp.cells (row * gfx.cols + col) :=
      clearRow_cells hup (Nat.sub_lt hrows Nat.one_pos) hcol row
    rw [(hsized.advance hmoved).cellChar_eq hcol hrow]
    refine (congrArg shownChar hcleared).trans ?_
    by_cases hlast : row = gfx.rows - 1
    · rw [if_pos hlast, if_neg (by omega)]
      rfl
    · have hnext : row + 1 < gfx.rows := by omega
      have hbefore : row * gfx.cols + col < (gfx.rows - 1) * gfx.cols := cell_lt (by omega) hcol
      rw [if_neg hlast, if_pos hnext, hsized.cellChar_eq hcol hnext, Nat.succ_mul,
        Nat.add_right_comm]
      exact congrArg shownChar ((moveRowsUp_cells hsized hrows _).trans (if_pos hbefore))
  have hmovedSized := hsized.advance hmoved
  have hmovedHidden : (gfx.moveRowsUp.clearRow (gfx.rows - 1)).cursorVisible = false := hhidden
  have hmovedCol : (gfx.moveRowsUp.clearRow (gfx.rows - 1)).cursorCol = gfx.cursorCol := rfl
  have hmovedRow : (gfx.moveRowsUp.clearRow (gfx.rows - 1)).cursorRow = gfx.cursorRow := rfl
  have hpaint := redrawAll_repainted hmovedSized
  have hdrawn := redrawAll_drawn hmovedSized hhidden
  have hgridWidth : gfx.cols * gfxFontWidth % 2 ^ 32 = gfx.cols * 8 :=
    Nat.mod_eq_of_lt (by rw [gfxFontWidth]; omega)
  have hgridHeight : gfx.rows * gfxFontHeight % 2 ^ 32 = gfx.rows * 8 :=
    Nat.mod_eq_of_lt (by rw [gfxFontHeight]; omega)
  unfold scroll
  rw [if_neg (by omega)]
  dsimp only
  generalize gfx.moveRowsUp.clearRow (gfx.rows - 1) = moved at *
  have hcols := hpaint.cols_eq.trans hmoved.cols_eq
  have hrowsEq := hpaint.rows_eq.trans hmoved.rows_eq
  rw [hcols, hrowsEq, hgridWidth, hgridHeight]
  have hmark : Repainted moved.redrawAll
      (moved.redrawAll.markDirtyRect 0 0 (gfx.cols * 8) (gfx.rows * 8)) :=
    @repainted_mark moved.redrawAll moved.redrawAll.fb 0 0 (gfx.cols * 8) (gfx.rows * 8) ⟨rfl, rfl⟩
      (fun _ hne => absurd rfl hne) (by omega) (by omega)
  have hall := hpaint.trans hmark
  refine ⟨hmoved.trans hall.toAdvance, hdrawn, hall.cursorVisible_eq.trans hmovedHidden,
    hall.cursorCol_eq.trans hmovedCol, hall.cursorRow_eq.trans hmovedRow, fun col hcol row hrow => ?_⟩
  rw [hall.cellChar_eq]
  exact hchar col hcol row hrow

end Cells

/-! ### The console follows the terminal -/

section Screen

variable {rows cols : Nat}

/-- The cells and the cursor are those of the screen, and they are drawn. -/
structure Shows (gfx : GfxConsoleState) (screen : CellScreen rows cols UInt8) : Prop where
  sized : gfx.Sized
  cols_eq : gfx.cols = cols
  rows_eq : gfx.rows = rows
  col_eq : gfx.cursorCol = screen.col.val
  row_eq : gfx.cursorRow = screen.row.val
  cell_eq : ∀ row col, gfx.cellChar col.val row.val = screen.cell row col
  drawn : gfx.Drawn

/-- An operation that ends with the screen shown, and with the cursor visible or not. -/
structure Leads (before after : GfxConsoleState) (screen : CellScreen rows cols UInt8)
    (visible : Bool) : Prop where
  shows : after.Shows screen
  advance : Advance before after
  visible_eq : after.cursorVisible = visible

variable {gfx before middle after : GfxConsoleState} {screen next : CellScreen rows cols UInt8}

theorem Leads.trans {first second : Bool} (hfirst : Leads before middle screen first)
    (hsecond : Leads middle after next second) : Leads before after next second :=
  ⟨hsecond.shows, hfirst.advance.trans hsecond.advance, hsecond.visible_eq⟩

namespace Shows

theorem congr_dirty (hshows : gfx.Shows screen) (dirty : GfxDirty) :
    Shows { gfx with dirty := dirty } screen :=
  ⟨⟨hshows.sized.supported, hshows.sized.right_le, hshows.sized.bottom_le, hshows.sized.width_lt,
    hshows.sized.height_lt, hshows.sized.cells_lt⟩, hshows.cols_eq, hshows.rows_eq, hshows.col_eq,
    hshows.row_eq, hshows.cell_eq, hshows.drawn⟩

theorem col_lt (hshows : gfx.Shows screen) : gfx.cursorCol < gfx.cols := by
  rw [hshows.col_eq, hshows.cols_eq]
  exact screen.col.isLt

theorem row_lt (hshows : gfx.Shows screen) : gfx.cursorRow < gfx.rows := by
  rw [hshows.row_eq, hshows.rows_eq]
  exact screen.row.isLt

theorem bounds (hshows : gfx.Shows screen) : cols < 2 ^ 32 ∧ rows < 2 ^ 32 := by
  have hright := hshows.sized.right_le
  have hbottom := hshows.sized.bottom_le
  have hwidth := hshows.sized.width_lt
  have hheight := hshows.sized.height_lt
  have hcols := hshows.cols_eq
  have hrows := hshows.rows_eq
  omega

/-- The geometry stays, so only the text and the picture are to be looked at. -/
theorem leads (hshows : gfx.Shows screen) {visible : Bool} (hadvance : Advance gfx after)
    (hcol : after.cursorCol = next.col.val) (hrow : after.cursorRow = next.row.val)
    (hcell : ∀ row col, after.cellChar col.val row.val = next.cell row col) (hdrawn : after.Drawn)
    (hvisible : after.cursorVisible = visible) : Leads gfx after next visible where
  shows :=
    { sized := hshows.sized.advance hadvance
      cols_eq := hadvance.cols_eq.trans hshows.cols_eq
      rows_eq := hadvance.rows_eq.trans hshows.rows_eq
      col_eq := hcol
      row_eq := hrow
      cell_eq := hcell
      drawn := hdrawn }
  advance := hadvance
  visible_eq := hvisible

theorem hideCursor (hshows : gfx.Shows screen) : Leads gfx gfx.hideCursor screen false := by
  obtain ⟨hadvance, hdrawn, hvisible, hcells, hcol, hrow⟩ :=
    hideCursor_spec hshows.sized hshows.col_lt hshows.row_lt hshows.drawn
  refine hshows.leads hadvance (hcol.trans hshows.col_eq) (hrow.trans hshows.row_eq)
    (fun row col => ?_) hdrawn hvisible
  rw [← hshows.cell_eq]
  unfold cellChar index
  rw [hcells, hadvance.cols_eq]

theorem showCursor (hshows : gfx.Shows screen) : Leads gfx gfx.showCursor screen true := by
  obtain ⟨hadvance, hdrawn, hvisible, hcells, hcol, hrow⟩ :=
    showCursor_spec hshows.sized hshows.col_lt hshows.row_lt hshows.drawn
  refine hshows.leads hadvance (hcol.trans hshows.col_eq) (hrow.trans hshows.row_eq)
    (fun row col => ?_) hdrawn hvisible
  rw [← hshows.cell_eq]
  unfold cellChar index
  rw [hcells, hadvance.cols_eq]

/-- A hidden cursor leaves no trace where it was. -/
theorem moveTo (hshows : gfx.Shows screen) (hhidden : gfx.cursorVisible = false)
    (hcell : next.cell = screen.cell) {col row : Nat} (hcol : col = next.col.val)
    (hrow : row = next.row.val) :
    Leads gfx { gfx with cursorCol := col, cursorRow := row } next false := by
  have hadvance : Advance gfx { gfx with cursorCol := col, cursorRow := row } :=
    advance_text _ _ _ _ _
  refine hshows.leads hadvance hcol hrow ?_ ?_ hhidden
  · rw [hcell]
    exact hshows.cell_eq
  · exact drawn_of_hidden hhidden fun place hx hy => hshows.drawn.glyphs hhidden place hx hy

theorem put (hshows : gfx.Shows screen) (hhidden : gfx.cursorVisible = false) {ch : UInt8}
    (hch : ch ≠ 0) : Leads gfx (gfx.putCell ch) (screen.put ch) false := by
  obtain ⟨hadvance, hdrawn, hstill, hcol, hrow, hcells⟩ :=
    putCell_spec hshows.sized hshows.col_lt hshows.row_lt hhidden hshows.drawn hch
  refine hshows.leads hadvance (hcol.trans hshows.col_eq) (hrow.trans hshows.row_eq)
    (fun row col => ?_) hdrawn hstill
  rw [hcells _ (hshows.cols_eq ▸ col.isLt) _ (hshows.rows_eq ▸ row.isLt), hshows.row_eq,
    hshows.col_eq, hshows.cell_eq]
  simp only [CellScreen.put, Fin.ext_iff]

theorem scroll (hshows : gfx.Shows screen) (hhidden : gfx.cursorVisible = false) :
    Leads gfx gfx.scroll (screen.scroll 0x20) false := by
  obtain ⟨hadvance, hdrawn, hstill, hcol, hrow, hcells⟩ :=
    scroll_spec hshows.sized (Nat.zero_lt_of_lt hshows.row_lt) hhidden
  refine hshows.leads hadvance (hcol.trans hshows.col_eq) (hrow.trans hshows.row_eq)
    (fun row col => ?_) hdrawn hstill
  rw [hcells _ (hshows.cols_eq ▸ col.isLt) _ (hshows.rows_eq ▸ row.isLt), hshows.rows_eq]
  unfold CellScreen.scroll
  dsimp only
  split
  · rename_i hnext
    exact hshows.cell_eq ⟨row.val + 1, hnext⟩ col
  · rfl

theorem newline (hshows : gfx.Shows screen) (hhidden : gfx.cursorVisible = false) :
    Leads gfx gfx.newline (screen.lineFeed 0x20) false := by
  have hbounds := hshows.bounds
  have hrows := hshows.rows_eq
  have hrowLt := screen.row.isLt
  have hnextRow : (gfx.cursorRow + 1) % 2 ^ 32 = screen.row.val + 1 := by
    rw [hshows.row_eq]
    exact Nat.mod_eq_of_lt (by omega)
  unfold GfxConsoleState.newline CellScreen.lineFeed
  dsimp only
  rw [hnextRow]
  by_cases hnext : screen.row.val + 1 < rows
  · rw [if_neg (by omega), dif_pos hnext]
    exact @moveTo rows cols gfx screen { screen.carriageReturn with row := ⟨_, hnext⟩ } hshows hhidden
      rfl 0 _ rfl rfl
  · have hlast : uint32 ((gfx.rows : Int) - 1) = screen.carriageReturn.row.val := by
      rw [uint32]
      change _ = screen.row.val
      omega
    have hreturned := hshows.moveTo hhidden (show screen.carriageReturn.cell = screen.cell from rfl)
      (show 0 = screen.carriageReturn.col.val from rfl) hlast
    rw [if_pos (by omega), dif_neg hnext]
    exact hreturned.trans (hreturned.shows.scroll hreturned.visible_eq)

theorem backspace (hshows : gfx.Shows screen) (hhidden : gfx.cursorVisible = false) :
    Leads gfx gfx.backspace (screen.backspace 0x20) false := by
  have hbounds := hshows.bounds
  have hcolEq := hshows.col_eq
  have hrowEq := hshows.row_eq
  have hcols := hshows.cols_eq
  have hcolLt := screen.col.isLt
  unfold GfxConsoleState.backspace CellScreen.backspace CellScreen.stepBack
  by_cases hcol : 0 < screen.col.val
  · have hmoved := @moveTo rows cols gfx screen { screen with col := ⟨screen.col.val - 1, by omega⟩ }
      hshows hhidden rfl (gfx.cursorCol - 1) gfx.cursorRow (by rw [hcolEq]) hrowEq
    rw [if_pos (by omega), if_pos hcol]
    exact hmoved.trans (hmoved.shows.put hmoved.visible_eq (by decide))
  rw [if_neg (by omega), if_neg hcol]
  by_cases hrow : 0 < screen.row.val
  · have hlast : uint32 ((gfx.cols : Int) - 1) = cols - 1 := by
      rw [uint32]
      omega
    have hmoved := @moveTo rows cols gfx screen
      { screen with
        row := ⟨screen.row.val - 1, by omega⟩
        col := ⟨cols - 1, Nat.sub_lt screen.col.pos Nat.one_pos⟩ }
      hshows hhidden rfl _ (gfx.cursorRow - 1) hlast (by rw [hrowEq])
    rw [if_pos (by omega), if_pos hrow]
    exact hmoved.trans (hmoved.shows.put hmoved.visible_eq (by decide))
  · rw [if_neg (by omega), if_neg hrow]
    exact ⟨hshows, (Repainted.refl gfx).toAdvance, hhidden⟩

theorem writeChar (hshows : gfx.Shows screen) (hhidden : gfx.cursorVisible = false) (c : UInt8) :
    Leads gfx (gfx.writeChar c) (screen.write 0x20 (if 0x20 ≤ c ∧ c ≤ 0x7e then c else 0x3f)) false := by
  have hbounds := hshows.bounds
  have hcolLt := screen.col.isLt
  have hchar : (if c < 32 ∨ 126 < c then (0x3f : UInt8) else c)
      = if 0x20 ≤ c ∧ c ≤ 0x7e then c else 0x3f := by
    by_cases hprintable : 0x20 ≤ c ∧ c ≤ 0x7e
    · rw [if_pos hprintable, if_neg]
      rw [not_or, UInt8.not_lt, UInt8.not_lt]
      exact hprintable
    · rw [if_neg hprintable, if_pos]
      rwa [not_and_or, UInt8.not_le, UInt8.not_le] at hprintable
  have hne : (if 0x20 ≤ c ∧ c ≤ 0x7e then c else (0x3f : UInt8)) ≠ 0 := by
    split
    · rename_i hprintable
      rintro rfl
      exact absurd hprintable.1 (by decide)
    · decide
  unfold GfxConsoleState.writeChar CellScreen.write
  dsimp only
  rw [hchar]
  generalize (if 0x20 ≤ c ∧ c ≤ 0x7e then c else (0x3f : UInt8)) = ch at hne ⊢
  have hput := hshows.put hhidden hne
  have hcolEq := hput.shows.col_eq
  have hcols := hput.shows.cols_eq
  have hsame : (screen.put ch).col.val = screen.col.val := rfl
  have hnextCol : ((gfx.putCell ch).cursorCol + 1) % 2 ^ 32 = screen.col.val + 1 := by
    rw [hcolEq]
    exact Nat.mod_eq_of_lt (by omega)
  rw [hnextCol]
  by_cases hnext : screen.col.val + 1 < cols
  · rw [if_neg (by omega), dif_pos hnext]
    exact hput.trans (@moveTo rows cols _ (screen.put ch)
      { screen.put ch with col := ⟨_, hnext⟩ } hput.shows hput.visible_eq rfl _ _ rfl
      hput.shows.row_eq)
  · rw [if_pos (by omega), dif_neg hnext]
    exact hput.trans (hput.shows.newline hput.visible_eq)

theorem putc (hshows : gfx.Shows screen) (c : UInt8) :
    Leads gfx (gfx.putc c) (terminalByte screen c) true := by
  have hcols := hshows.col_lt
  have hrows := hshows.row_lt
  have hhide := hshows.hideCursor
  unfold GfxConsoleState.putc terminalByte
  rw [if_neg (by omega)]
  dsimp only
  have hreturn : Leads gfx.hideCursor { gfx.hideCursor with cursorCol := 0 } screen.carriageReturn
      false :=
    @moveTo rows cols _ screen screen.carriageReturn hhide.shows hhide.visible_eq rfl 0 _ rfl
      hhide.shows.row_eq
  have hline := hhide.shows.newline hhide.visible_eq
  have hback := hhide.shows.backspace hhide.visible_eq
  have hwrite := hhide.shows.writeChar hhide.visible_eq c
  by_cases hcr : c = 0x0d
  · rw [if_pos hcr, if_pos hcr]
    exact hhide.trans (hreturn.trans hreturn.shows.showCursor)
  rw [if_neg hcr, if_neg hcr]
  by_cases hlf : c = 0x0a
  · rw [if_pos hlf, if_pos hlf]
    exact hhide.trans (hline.trans hline.shows.showCursor)
  rw [if_neg hlf, if_neg hlf]
  by_cases hbs : c = 0x08 ∨ c = 0x7f
  · rw [if_pos (by rw [consoleIsBackspace, decide_eq_true_eq]; exact hbs), if_pos hbs]
    exact hhide.trans (hback.trans hback.shows.showCursor)
  rw [if_neg (by rw [consoleIsBackspace, decide_eq_true_eq]; exact hbs), if_neg hbs, ← apply_ite]
  exact hhide.trans (hwrite.trans hwrite.shows.showCursor)

end Shows

end Screen

end GfxConsoleState

end DuckOs

import DuckOs.Lib.CellScreen

/-!
# Screens as the tail of a text

A screen that is only written forward, or erased backward, shows the last rows of a text whose end is the cursor.
Scrolling moves the first row of the text that is still on the screen; what lies above it cannot be erased.
-/

namespace CellScreen

variable {rows cols : Nat} {α : Type}

/-- The text is blank up to the start of the next row. -/
def fed (cols : Nat) (blank : α) (text : List α) : List α :=
  text ++ List.replicate (cols - text.length % cols) blank

/-- The cells are those of the text from its row `top` on. -/
def CellsOf (blank : α) (top : Nat) (cell : Fin rows → Fin cols → α) (text : List α) : Prop :=
  ∀ row col, cell row col = text.getD ((top + row.val) * cols + col.val) blank

/-- The text ends at the cursor. -/
structure ShowsTail (blank : α) (top : Nat) (screen : CellScreen rows cols α) (text : List α) : Prop where
  length_eq : text.length = (top + screen.row.val) * cols + screen.col.val
  cells : CellsOf blank top screen.cell text

/-- The rows that are left when the text gets longer: the same ones, or the last row is that of the cursor. -/
structure Follows (rows cols top after : Nat) (length : Nat) : Prop where
  top_le : top ≤ after
  same_or : after = top ∨ (after + rows) * cols = length + cols

theorem Follows.refl (rows cols top length : Nat) : Follows rows cols top top length :=
  ⟨Nat.le_refl _, Or.inl rfl⟩

/-- A place stays on the screen while no more is written behind it than the other rows hold. -/
theorem Follows.place_le {top after length place room : Nat} (hfollows : Follows rows cols top after length)
    (hplace : top * cols ≤ place) (hlength : length ≤ place + room) (hroom : room + cols ≤ rows * cols) :
    after * cols ≤ place := by
  rcases hfollows.same_or with rfl | hlast
  · exact hplace
  · rw [Nat.add_mul] at hlast
    omega

section Cells

variable {top : Nat}

theorem getD_append_singleton (text : List α) (value blank : α) (place : Nat) :
    (text ++ [value]).getD place blank = if place = text.length then value else text.getD place blank := by
  rw [List.getD_eq_getElem?_getD, List.getD_eq_getElem?_getD, List.getElem?_append]
  split
  · rename_i hbefore
    rw [if_neg (Nat.ne_of_lt hbefore)]
  · rename_i hbehind
    rw [List.getElem?_eq_none (Nat.le_of_not_lt hbehind)]
    split
    · rename_i hplace
      rw [hplace, Nat.sub_self]
      rfl
    · rename_i hplace
      rw [List.getElem?_eq_none (by rw [List.length_singleton]; omega)]

theorem getD_dropLast (text : List α) (blank : α) (place : Nat) :
    text.dropLast.getD place blank = if place + 1 = text.length then blank else text.getD place blank := by
  rw [List.getD_eq_getElem?_getD, List.getD_eq_getElem?_getD, List.getElem?_dropLast]
  split
  · rename_i hbefore
    rw [if_neg (by omega)]
  · rename_i hbehind
    split
    · rfl
    · rename_i hplace
      rw [List.getElem?_eq_none (by omega)]

theorem getD_fed (cols : Nat) (text : List α) (blank : α) (place : Nat) :
    (fed cols blank text).getD place blank = text.getD place blank := by
  rw [List.getD_eq_getElem?_getD, List.getD_eq_getElem?_getD, fed, List.getElem?_append]
  split
  · rfl
  · rename_i hbehind
    rw [List.getElem?_eq_none (Nat.le_of_not_lt hbehind), List.getElem?_replicate]
    split
    · rfl
    · rfl

theorem length_fed (hcols : 0 < cols) (blank : α) (text : List α) :
    (fed cols blank text).length = (text.length / cols + 1) * cols := by
  have hmod := Nat.mod_lt text.length hcols
  have hdiv := Nat.div_add_mod text.length cols
  rw [fed, List.length_append, List.length_replicate, Nat.add_mul, Nat.one_mul, Nat.mul_comm]
  omega

theorem place_inj {row other col another : Nat} (hcol : col < cols) (hanother : another < cols) :
    (top + row) * cols + col = (top + other) * cols + another ↔ row = other ∧ col = another := by
  constructor
  · intro hsame
    have hrows : top + row = top + other := by
      have hdiv := congrArg (fun place => place / cols) hsame
      rwa [Nat.add_comm, Nat.add_mul_div_right _ _ (by omega), Nat.div_eq_of_lt hcol, Nat.zero_add,
        Nat.add_comm ((top + other) * cols), Nat.add_mul_div_right _ _ (by omega), Nat.div_eq_of_lt hanother,
        Nat.zero_add] at hdiv
    rw [hrows] at hsame
    omega
  · rintro ⟨rfl, rfl⟩
    rfl

end Cells

section Operations

variable {blank : α} {top : Nat} {screen : CellScreen rows cols α} {text : List α}

/-- The last row of the screen becomes free when all rows move up. -/
theorem CellsOf.scroll (hcells : CellsOf blank top screen.cell text) (hlength : text.length ≤ (top + rows) * cols) :
    CellsOf blank (top + 1) (screen.scroll blank).cell text := by
  intro row col
  dsimp only [CellScreen.scroll]
  split
  · rename_i hnext
    rw [hcells, Nat.add_assoc, Nat.add_comm 1]
  · rename_i hlast
    have hrow : row.val + 1 = rows := by
      have hlt := row.isLt
      omega
    have hbehind : text.length ≤ (top + 1 + row.val) * cols + col.val := by
      rw [Nat.add_assoc, Nat.add_comm 1, hrow]
      exact Nat.le_add_right_of_le hlength
    rw [List.getD_eq_getElem?_getD, List.getElem?_eq_none hbehind]
    rfl

theorem showsTail_clear (hrows : 0 < rows) (hcols : 0 < cols) (blank : α) :
    ShowsTail blank 0 (clear hrows hcols blank) [] := by
  constructor
  · change 0 = (0 + 0) * cols + 0
    rw [Nat.zero_add, Nat.zero_mul]
  · intro row col
    rfl

namespace ShowsTail

theorem top_le (hshows : ShowsTail blank top screen text) : top * cols ≤ text.length := by
  rw [hshows.length_eq, Nat.add_mul, Nat.add_assoc]
  exact Nat.le_add_right _ _

theorem length_lt (hshows : ShowsTail blank top screen text) : text.length < (top + rows) * cols := by
  have hrow := screen.row.isLt
  calc text.length = (top + screen.row.val) * cols + screen.col.val := hshows.length_eq
    _ < (top + screen.row.val) * cols + cols := Nat.add_lt_add_left screen.col.isLt _
    _ = (top + screen.row.val + 1) * cols := (Nat.succ_mul _ _).symm
    _ ≤ (top + rows) * cols := Nat.mul_le_mul_right _ (by omega)

theorem put_cells (hshows : ShowsTail blank top screen text) (value : α) :
    CellsOf blank top (screen.put value).cell (text ++ [value]) := by
  intro row col
  rw [getD_append_singleton, hshows.length_eq]
  simp only [put, place_inj col.isLt screen.col.isLt, Fin.ext_iff]
  split
  · rfl
  · exact hshows.cells row col

/-- The cursor goes to a new row behind a text that ends on the row it leaves. -/
theorem lineFeed_of_cells (hcells : CellsOf blank top screen.cell text)
    (hlength : text.length = (top + screen.row.val + 1) * cols) :
    ∃ after, ShowsTail blank after (screen.lineFeed blank) text ∧ Follows rows cols top after text.length := by
  unfold lineFeed
  by_cases hnext : screen.row.val + 1 < rows
  · rw [dif_pos hnext]
    refine ⟨top, ⟨?_, hcells⟩, Follows.refl _ _ _ _⟩
    rw [hlength, Nat.add_assoc]
    rfl
  · have hrow := screen.row.isLt
    have hlast : screen.row.val + 1 = rows := by omega
    have hend : text.length = (top + rows) * cols := by rw [hlength, Nat.add_assoc, hlast]
    rw [dif_neg hnext]
    refine ⟨top + 1, ⟨?_, hcells.scroll (Nat.le_of_eq hend)⟩, Nat.le_succ _, Or.inr ?_⟩
    · rw [hlength, Nat.add_right_comm]
      rfl
    · rw [hend, Nat.add_right_comm, Nat.succ_mul]

theorem write (hshows : ShowsTail blank top screen text) (value : α) :
    ∃ after, ShowsTail blank after (screen.write blank value) (text ++ [value])
      ∧ Follows rows cols top after (text.length + 1) := by
  have hcells := hshows.put_cells value
  have hlength : (text ++ [value]).length = text.length + 1 := by
    rw [List.length_append, List.length_singleton]
  unfold CellScreen.write
  by_cases hnext : screen.col.val + 1 < cols
  · rw [dif_pos hnext]
    refine ⟨top, ⟨?_, hcells⟩, Follows.refl _ _ _ _⟩
    rw [hlength, hshows.length_eq]
    rfl
  · have hcol := screen.col.isLt
    have hend : (text ++ [value]).length = (top + (screen.put value).row.val + 1) * cols := by
      rw [hlength, hshows.length_eq, Nat.succ_mul]
      change _ = (top + screen.row.val) * cols + cols
      omega
    rw [dif_neg hnext, ← hlength]
    exact lineFeed_of_cells hcells hend

theorem lineFeed (hshows : ShowsTail blank top screen text) :
    ∃ after, ShowsTail blank after (screen.lineFeed blank) (fed cols blank text)
      ∧ Follows rows cols top after (fed cols blank text).length := by
  have hcols := screen.col.pos
  apply lineFeed_of_cells
  · intro row col
    rw [getD_fed]
    exact hshows.cells row col
  · rw [length_fed hcols, hshows.length_eq, Nat.add_comm (_ * cols), Nat.add_mul_div_right _ _ hcols,
      Nat.div_eq_of_lt screen.col.isLt, Nat.zero_add]

/-- The last cell of the text is erased while it is on the screen. -/
theorem backspace (hshows : ShowsTail blank top screen text) (htop : top * cols < text.length) :
    ShowsTail blank top (screen.backspace blank) text.dropLast := by
  have hlength := hshows.length_eq
  have hcol := screen.col.isLt
  have hmoved : ∃ moved, screen.stepBack = some moved ∧ moved.cell = screen.cell
      ∧ text.length = (top + moved.row.val) * cols + moved.col.val + 1 := by
    unfold stepBack
    by_cases hback : 0 < screen.col.val
    · rw [if_pos hback]
      refine ⟨_, rfl, rfl, ?_⟩
      change text.length = (top + screen.row.val) * cols + (screen.col.val - 1) + 1
      omega
    · rw [if_neg hback]
      have hzero : screen.col.val = 0 := Nat.eq_zero_of_not_pos hback
      by_cases hup : 0 < screen.row.val
      · rw [if_pos hup]
        refine ⟨_, rfl, rfl, ?_⟩
        change text.length = (top + (screen.row.val - 1)) * cols + (cols - 1) + 1
        have hrow : top + screen.row.val = top + (screen.row.val - 1) + 1 := by omega
        rw [hlength, hzero, hrow, Nat.succ_mul]
        omega
      · rw [Nat.eq_zero_of_not_pos hup, hzero] at hlength
        exact absurd htop (Nat.not_lt_of_le (Nat.le_of_eq hlength))
  obtain ⟨moved, hstep, hcell, hplace⟩ := hmoved
  unfold CellScreen.backspace
  rw [hstep]
  constructor
  · rw [List.length_dropLast, hplace]
    rfl
  · intro row col
    rw [getD_dropLast, hplace]
    simp only [put, Nat.add_right_cancel_iff, place_inj col.isLt moved.col.isLt, Fin.ext_iff, hcell]
    split
    · rfl
    · exact hshows.cells row col

theorem backspace_of_top (hshows : ShowsTail blank top screen text) (htop : text.length ≤ top * cols) :
    screen.backspace blank = screen := by
  have hlength := hshows.length_eq
  have hcols := screen.col.pos
  rw [Nat.add_mul] at hlength
  have hcol : screen.col.val = 0 := by omega
  have hrow : screen.row.val = 0 := by
    rcases Nat.eq_zero_or_pos screen.row.val with hzero | hpos
    · exact hzero
    · have hle := Nat.le_mul_of_pos_left cols hpos
      omega
  rw [CellScreen.backspace, stepBack, if_neg (by omega), if_neg (by omega)]

/-- Back, a blank and back again: the last cell is erased, and the rows stay. -/
theorem rub (hshows : ShowsTail blank top screen text) (htop : top * cols < text.length) :
    ShowsTail blank top (((screen.backspace blank).write blank blank).backspace blank) text.dropLast := by
  have hback := hshows.backspace htop
  obtain ⟨after, hwritten, hfollows⟩ := hback.write blank
  have hlength : text.dropLast.length + 1 = text.length := by
    rw [List.length_dropLast]
    omega
  have hafter : after = top := by
    rcases hfollows.same_or with hsame | hlast
    · exact hsame
    · have hlt := hshows.length_lt
      rw [hlength, Nat.add_mul] at hlast
      rw [Nat.add_mul] at hlt
      by_contra hne
      have hmore : top + 1 ≤ after := by
        have hle := hfollows.top_le
        omega
      have hrows := Nat.mul_le_mul_right cols hmore
      rw [Nat.succ_mul] at hrows
      omega
  rw [hafter] at hwritten
  have hrubbed := hwritten.backspace (by rwa [List.length_append, List.length_singleton, hlength])
  rwa [List.dropLast_concat] at hrubbed

end ShowsTail

end Operations

end CellScreen

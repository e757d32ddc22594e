import Mathlib.Data.Fin.Basic

/-!
# Screens of character cells

Rows and columns of cells and a cursor, which is always on the screen. Writing behind the last column
wraps; moving below the last row scrolls.
-/

structure CellScreen (rows cols : Nat) (α : Type) where
  cell : Fin rows → Fin cols → α
  row : Fin rows
  col : Fin cols

namespace CellScreen

variable {rows cols : Nat} {α : Type}

def clear (hrows : 0 < rows) (hcols : 0 < cols) (blank : α) : CellScreen rows cols α where
  cell := fun _ _ => blank
  row := ⟨0, hrows⟩
  col := ⟨0, hcols⟩

def put (screen : CellScreen rows cols α) (value : α) : CellScreen rows cols α :=
  { screen with
    cell := fun row col =>
      if row = screen.row ∧ col = screen.col then value else screen.cell row col }

def carriageReturn (screen : CellScreen rows cols α) : CellScreen rows cols α :=
  { screen with col := ⟨0, screen.col.pos⟩ }

/-- All rows move up by one, and the last one becomes blank. -/
def scroll (screen : CellScreen rows cols α) (blank : α) : CellScreen rows cols α :=
  { screen with
    cell := fun row col =>
      if hnext : row.val + 1 < rows then screen.cell ⟨row.val + 1, hnext⟩ col else blank }

/-- To the start of the next row, which may have to be made first. -/
def lineFeed (screen : CellScreen rows cols α) (blank : α) : CellScreen rows cols α :=
  if hnext : screen.row.val + 1 < rows then
    { screen.carriageReturn with row := ⟨screen.row.val + 1, hnext⟩ }
  else screen.carriageReturn.scroll blank

/-- A value under the cursor, which then steps to the next cell. -/
def write (screen : CellScreen rows cols α) (blank value : α) : CellScreen rows cols α :=
  if hnext : screen.col.val + 1 < cols then
    { screen.put value with col := ⟨screen.col.val + 1, hnext⟩ }
  else (screen.put value).lineFeed blank

/-- The cursor one cell back; the first cell of a row follows on the last one of the row above. -/
def stepBack (screen : CellScreen rows cols α) : Option (CellScreen rows cols α) :=
  if 0 < screen.col.val then
    some { screen with col := ⟨screen.col.val - 1, by omega⟩ }
  else if 0 < screen.row.val then
    some { screen with
      row := ⟨screen.row.val - 1, by omega⟩
      col := ⟨cols - 1, Nat.sub_lt screen.col.pos Nat.one_pos⟩ }
  else none

/-- The cursor steps back and erases. -/
def backspace (screen : CellScreen rows cols α) (blank : α) : CellScreen rows cols α :=
  match screen.stepBack with
  | none => screen
  | some moved => moved.put blank

end CellScreen

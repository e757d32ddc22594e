import DuckOs.Lib.WrappedText

/-!
# Text with a cursor

What an editor with a single cursor does to a text of bounded length. A key that moves the cursor up or down
takes it to another row of the wrapped text, in the same column if that row is long enough.
-/

open WrappedText

structure EditBuffer (α : Type) (capacity : Nat) where
  text : List α
  cursor : Nat
  cursor_le : cursor ≤ text.length
  length_le : text.length ≤ capacity

namespace EditBuffer

variable {α : Type} {capacity : Nat}

/-- A text cut off at the capacity, with the cursor behind it. -/
def load (text : List α) : EditBuffer α capacity where
  text := text.take capacity
  cursor := (text.take capacity).length
  cursor_le := Nat.le_refl _
  length_le := List.length_take_le _ _

/-- A symbol at the cursor, which goes behind it. A full buffer refuses it. -/
def insert (buffer : EditBuffer α capacity) (symbol : α) : EditBuffer α capacity :=
  if hroom : buffer.text.length < capacity then
    { text := buffer.text.take buffer.cursor ++ symbol :: buffer.text.drop buffer.cursor
      cursor := buffer.cursor + 1
      cursor_le := by
        have hcursor := buffer.cursor_le
        rw [List.length_append, List.length_take_of_le hcursor, List.length_cons]
        omega
      length_le := by
        have hcursor := buffer.cursor_le
        rw [List.length_append, List.length_take_of_le hcursor, List.length_cons, List.length_drop]
        omega }
  else buffer

/-- The symbol before the cursor is taken out, if there is one. -/
def backspace (buffer : EditBuffer α capacity) : EditBuffer α capacity where
  text := buffer.text.take (buffer.cursor - 1) ++ buffer.text.drop buffer.cursor
  cursor := buffer.cursor - 1
  cursor_le := by
    have hcursor := buffer.cursor_le
    rw [List.length_append, List.length_take_of_le (by omega)]
    omega
  length_le := by
    have hcursor := buffer.cursor_le
    have hlength := buffer.length_le
    rw [List.length_append, List.length_take_of_le (by omega), List.length_drop]
    omega

/-- The cursor at another place in the text, or behind it. -/
def moveTo (buffer : EditBuffer α capacity) (place : Nat) : EditBuffer α capacity where
  text := buffer.text
  cursor := min place buffer.text.length
  cursor_le := Nat.min_le_right _ _
  length_le := buffer.length_le

def left (buffer : EditBuffer α capacity) : EditBuffer α capacity := buffer.moveTo (buffer.cursor - 1)

def right (buffer : EditBuffer α capacity) : EditBuffer α capacity := buffer.moveTo (buffer.cursor + 1)

section Fields

variable {buffer : EditBuffer α capacity}

@[simp]
theorem text_load (text : List α) : (load text : EditBuffer α capacity).text = text.take capacity := rfl

@[simp]
theorem cursor_load (text : List α) :
    (load text : EditBuffer α capacity).cursor = (text.take capacity).length := rfl

/-- The rest of a longer text makes no difference. -/
theorem load_take (text : List α) :
    (load (text.take capacity) : EditBuffer α capacity) = load text := by
  simp only [load, List.take_take, Nat.min_self]

theorem insert_of_lt (hroom : buffer.text.length < capacity) (symbol : α) :
    (buffer.insert symbol).text
        = buffer.text.take buffer.cursor ++ symbol :: buffer.text.drop buffer.cursor
      ∧ (buffer.insert symbol).cursor = buffer.cursor + 1 := by
  rw [insert, dif_pos hroom]
  exact ⟨rfl, rfl⟩

theorem insert_of_le (hfull : capacity ≤ buffer.text.length) (symbol : α) :
    buffer.insert symbol = buffer := dif_neg (Nat.not_lt_of_le hfull)

@[simp]
theorem text_backspace :
    buffer.backspace.text = buffer.text.take (buffer.cursor - 1) ++ buffer.text.drop buffer.cursor := rfl

@[simp]
theorem cursor_backspace : buffer.backspace.cursor = buffer.cursor - 1 := rfl

@[simp]
theorem cursor_moveTo (place : Nat) : (buffer.moveTo place).cursor = min place buffer.text.length := rfl

end Fields

section Rows

variable [DecidableEq α] (columns : Nat) (newline : α)

/-- To the column of the cursor on the row that begins at `start`. -/
def toRow (buffer : EditBuffer α capacity) (start : Nat) : EditBuffer α capacity :=
  let column := buffer.cursor - lineStart columns newline buffer.text buffer.cursor
  buffer.moveTo (start + min column (lineLength columns newline buffer.text start))

def up (buffer : EditBuffer α capacity) : EditBuffer α capacity :=
  let start := lineStart columns newline buffer.text buffer.cursor
  if start = 0 then buffer else buffer.toRow columns newline (prevStart columns newline buffer.text start)

def down (buffer : EditBuffer α capacity) : EditBuffer α capacity :=
  let start := lineStart columns newline buffer.text buffer.cursor
  buffer.toRow columns newline (nextStart columns newline buffer.text start)

end Rows

inductive Key (α : Type) where
  | symbol (symbol : α)
  | backspace
  | left
  | right
  | up
  | down
  | other

/-- What a key does while the text is shown with so many columns. -/
def press [DecidableEq α] (columns : Nat) (newline : α) (buffer : EditBuffer α capacity) :
    Key α → EditBuffer α capacity
  | .symbol symbol => buffer.insert symbol
  | .backspace => buffer.backspace
  | .left => buffer.left
  | .right => buffer.right
  | .up => buffer.up columns newline
  | .down => buffer.down columns newline
  | .other => buffer

end EditBuffer

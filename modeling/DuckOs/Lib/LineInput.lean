import Mathlib.Data.List.Basic
import Mathlib.Data.List.Induction
import Mathlib.Data.List.Infix
import Mathlib.Logic.Function.Basic

/-!
# Typed lines

Keys make a line of bounded length: a symbol is added while there is room, the last one is taken back, and the
line is entered. A buffer with a length is such a line as long as it is only written at its length.
-/

namespace LineInput

variable {α : Type} {room : Nat}

inductive Key (α : Type) where
  | symbol (symbol : α)
  | erase
  | enter
  deriving DecidableEq

structure Line (α : Type) (room : Nat) where
  symbols : List α
  length_le : symbols.length ≤ room

namespace Line

def empty : Line α room := ⟨[], Nat.zero_le _⟩

/-- A symbol that finds no room is left out. -/
def add (line : Line α room) (symbol : α) : Line α room :=
  if hroom : line.symbols.length < room then
    ⟨line.symbols ++ [symbol], by rw [List.length_append]; exact hroom⟩
  else line

def erase (line : Line α room) : Line α room :=
  ⟨line.symbols.dropLast, by
    rw [List.length_dropLast]
    exact Nat.le_trans (Nat.sub_le _ _) line.length_le⟩

/-- The line behind a key. -/
def press (line : Line α room) : Key α → Line α room
  | .symbol symbol => line.add symbol
  | .erase => line.erase
  | .enter => .empty

end Line

/-- The line that some keys make of the empty one. -/
def edited (keys : List (Key α)) : Line α room := keys.foldl Line.press .empty

theorem edited_append (keys : List (Key α)) (key : Key α) :
    (edited (keys ++ [key]) : Line α room) = (edited keys).press key := by
  rw [edited, List.foldl_append]
  rfl

/-- A line has only symbols that were typed. -/
theorem symbol_mem_of_mem_edited {symbol : α} {keys : List (Key α)} :
    symbol ∈ (edited keys : Line α room).symbols → .symbol symbol ∈ keys := by
  induction keys using List.reverseRecOn with
  | nil => exact fun hsymbol => absurd hsymbol List.not_mem_nil
  | append_singleton keys key ih =>
      intro hsymbol
      rw [edited_append] at hsymbol
      cases key with
      | symbol typed =>
          rw [Line.press, Line.add] at hsymbol
          split at hsymbol
          · rcases List.mem_append.mp hsymbol with hold | hnew
            · exact List.mem_append_left _ (ih hold)
            · rw [List.mem_singleton.mp hnew]
              exact List.mem_append_right _ List.mem_cons_self
          · exact List.mem_append_left _ (ih hsymbol)
      | erase => exact List.mem_append_left _ (ih (List.mem_of_mem_dropLast hsymbol))
      | enter => exact absurd hsymbol List.not_mem_nil

/-! ### Buffers -/

/-- The first cells of the buffer are the line. -/
structure Holds (buffer : Nat → α) (length : Nat) (line : Line α room) : Prop where
  length_eq : length = line.symbols.length
  cell_eq : ∀ index (hindex : index < line.symbols.length), buffer index = line.symbols[index]

namespace Holds

variable {buffer : Nat → α} {length : Nat} {line : Line α room}

theorem empty (buffer : Nat → α) : Holds buffer 0 (Line.empty : Line α room) :=
  ⟨rfl, fun _ hindex => absurd hindex (Nat.not_lt_zero _)⟩

theorem length_le (hholds : Holds buffer length line) : length ≤ room := by
  rw [hholds.length_eq]
  exact line.length_le

theorem symbols_eq (hholds : Holds buffer length line) : (List.range length).map buffer = line.symbols := by
  apply List.ext_getElem
  · rw [List.length_map, List.length_range, hholds.length_eq]
  · intro index _ hindex
    rw [List.getElem_map, List.getElem_range]
    exact hholds.cell_eq index hindex

theorem add_of_lt (hholds : Holds buffer length line) (hroom : length < room) (symbol : α) :
    Holds (Function.update buffer length symbol) (length + 1) (line.add symbol) := by
  have hlength := hholds.length_eq
  rw [hlength] at hroom
  rw [Line.add, dif_pos hroom]
  constructor
  · rw [List.length_append, List.length_singleton, hlength]
  · intro index hindex
    rw [List.length_append, List.length_singleton] at hindex
    by_cases hlast : index = line.symbols.length
    · subst hlast
      rw [hlength, Function.update_self, List.getElem_append_right (Nat.le_refl _)]
      simp only [Nat.sub_self, List.getElem_cons_zero]
    · have hbefore : index < line.symbols.length := by omega
      rw [Function.update_of_ne (by omega), List.getElem_append_left hbefore]
      exact hholds.cell_eq index hbefore

theorem add_of_full (hholds : Holds buffer length line) (hfull : room ≤ length) (symbol : α) :
    Holds buffer length (line.add symbol) := by
  rw [hholds.length_eq] at hfull
  rwa [Line.add, dif_neg (Nat.not_lt_of_le hfull)]

theorem erase (hholds : Holds buffer length line) : Holds buffer (length - 1) line.erase := by
  constructor
  · rw [Line.erase, List.length_dropLast, hholds.length_eq]
  · intro index hindex
    rw [Line.erase, List.length_dropLast] at hindex
    simp only [Line.erase, List.getElem_dropLast]
    exact hholds.cell_eq index (by omega)

/-- What is behind the line may be written. -/
theorem congr (hholds : Holds buffer length line) {other : Nat → α}
    (hsame : ∀ index < length, other index = buffer index) : Holds other length line := by
  refine ⟨hholds.length_eq, fun index hindex => ?_⟩
  rw [hsame index (hholds.length_eq ▸ hindex)]
  exact hholds.cell_eq index hindex

end Holds

end LineInput

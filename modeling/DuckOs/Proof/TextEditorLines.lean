import DuckOs.Desktop.TextEditorApp
import DuckOs.Lib.WrappedText

/-!
# The lines of the editor

The loops of the editor find the rows of its text. Going down a row and going up again ends on the same row
except where a row behind a full one holds a single character: there the rows that are walked back do not
match the ones that are drawn.
-/

namespace DuckOs

open ByteStore WrappedText

namespace TextEditorState

def bytes (state : TextEditorState) : List UInt8 := slice state.text 0 state.length

@[simp]
theorem length_bytes (state : TextEditorState) : state.bytes.length = state.length := length_slice

theorem getElem_bytes {state : TextEditorState} {index : Nat} (hindex : index < state.bytes.length) :
    state.bytes[index] = state.text index := by
  have hlength : index < state.length := by rwa [length_bytes] at hindex
  have hget := @getElem?_slice state.text 0 _ _ hlength
  rw [Nat.zero_add] at hget
  exact (List.getElem?_eq_some_iff.mp hget).2

section Loops

variable {state : TextEditorState} {columns : Nat}

theorem lineStartLoop_eq (hpos : 0 < columns) : ∀ {left scan count start : Nat},
    scan + left ≤ state.length → count = column columns 0x0a (state.bytes.take scan) →
    start = WrappedText.lineStart columns 0x0a state.bytes scan →
    state.lineStartLoop columns left scan count start
      = WrappedText.lineStart columns 0x0a state.bytes (scan + left) := by
  intro left
  induction left with
  | zero =>
      rintro scan count start - - rfl
      rfl
  | succ left ih =>
      rintro scan count start hlength hcount rfl
      have hscan : scan < state.bytes.length := by
        rw [length_bytes]
        omega
      have hbyte := getElem_bytes hscan
      have hcolumn := @column_take_succ _ _ columns 0x0a _ _ hscan
      have hstart := @lineStart_succ _ _ columns 0x0a _ _ hscan
      have hsum : scan + (left + 1) = scan + 1 + left := by omega
      have hbelow : count < columns := by
        rw [hcount]
        exact Nat.mod_lt _ hpos
      have hfirst : IsStart columns 0x0a state.bytes scan ↔ count = 0 := by
        rw [hcount]
        exact Iff.rfl
      rw [hbyte, ← hcount] at hcolumn
      simp only [hbyte, hfirst] at hstart
      rw [lineStartLoop, hsum]
      split
      next hnewline =>
        rw [if_pos hnewline] at hcolumn hstart
        exact ih (by omega) hcolumn.symm hstart.symm
      next hnewline =>
        rw [if_neg hnewline] at hcolumn hstart
        apply ih (by omega)
        · rw [hcolumn]
          split
          next hfull =>
            have hequal : count + 1 = columns := by omega
            rw [hequal, Nat.mod_self]
          next hroom => exact (Nat.mod_eq_of_lt (by omega)).symm
        · exact hstart.symm

theorem findLineStart_eq (hpos : 0 < columns) {index : Nat} (hindex : index ≤ state.length) :
    state.findLineStart index columns = WrappedText.lineStart columns 0x0a state.bytes index := by
  rw [findLineStart, if_neg (by omega), Nat.min_eq_left hindex]
  have hloop := @lineStartLoop_eq state columns hpos index 0 0 0 (by omega)
  rw [Nat.zero_add] at hloop
  exact hloop isStart_zero.symm lineStart_zero.symm

theorem findPrevLineStart_eq (hpos : 0 < columns) {start : Nat} (hstart : start ≤ state.length) :
    state.findPrevLineStart start columns = prevStart columns 0x0a state.bytes start := by
  rw [findPrevLineStart, prevStart]
  split
  · rfl
  · exact findLineStart_eq hpos (by omega)

theorem nextStartLoop_eq : ∀ {left index count : Nat}, index + left = state.length → count < columns →
    state.nextStartLoop columns left index count
      = nextStart (columns - count) 0x0a state.bytes index := by
  intro left
  induction left with
  | zero =>
      rintro index count hindex -
      have hlength : index = state.bytes.length := by rwa [length_bytes]
      rw [nextStartLoop, hlength, nextStart_length, length_bytes]
  | succ left ih =>
      intro index count hlength hcount
      have hindex : index < state.bytes.length := by
        rw [length_bytes]
        omega
      obtain ⟨room, hroom⟩ : ∃ room, columns - count = room + 1 := ⟨columns - count - 1, by omega⟩
      rw [nextStartLoop, hroom, nextStart_succ hindex, getElem_bytes hindex]
      split
      · rfl
      · split
        · obtain rfl : room = 0 := by omega
          rw [nextStart_zero]
        · have hrest : columns - (count + 1) = room := by omega
          rw [ih (by omega) (by omega), hrest]

theorem findNextLineStart_eq (hpos : 0 < columns) {start : Nat} (hstart : start ≤ state.length) :
    state.findNextLineStart start columns = nextStart columns 0x0a state.bytes start := by
  rw [findNextLineStart, if_neg (by omega), nextStartLoop_eq (by omega) hpos, Nat.sub_zero]

theorem lineLengthLoop_eq : ∀ {left index count : Nat}, index + left = state.length → count ≤ columns →
    state.lineLengthLoop columns left index count
      = count + WrappedText.lineLength (columns - count) 0x0a state.bytes index := by
  intro left
  induction left with
  | zero =>
      rintro index count hindex -
      have hend : WrappedText.lineLength (columns - count) 0x0a state.bytes index = 0 :=
        lineLength_of_le (by rw [length_bytes]; omega)
      rw [lineLengthLoop, hend, Nat.add_zero]
  | succ left ih =>
      intro index count hlength hcount
      have hindex : index < state.bytes.length := by
        rw [length_bytes]
        omega
      rw [lineLengthLoop]
      split
      next hbelow =>
        obtain ⟨room, hroom⟩ : ∃ room, columns - count = room + 1 := ⟨columns - count - 1, by omega⟩
        rw [hroom, lineLength_succ hindex, getElem_bytes hindex]
        split
        · rfl
        · have hrest : columns - (count + 1) = room := by omega
          rw [ih (by omega) hbelow, hrest]
          omega
      next hfull =>
        have hnone : columns - count = 0 := by omega
        rw [hnone, lineLength_zero, Nat.add_zero]

theorem lineLength_eq {start : Nat} (hstart : start ≤ state.length) :
    state.lineLength start columns = WrappedText.lineLength columns 0x0a state.bytes start := by
  rw [lineLength, lineLengthLoop_eq (by omega) (Nat.zero_le _), Nat.zero_add, Nat.sub_zero]

end Loops

end TextEditorState

end DuckOs

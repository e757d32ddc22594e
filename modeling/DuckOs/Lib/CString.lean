import DuckOs.Lib.ByteStore
import Mathlib.Data.List.TakeWhile

/-!
# NUL-terminated strings

A string passed by a caller is the bytes before its terminator. Strings live in memory that is much
smaller than 4 GiB, so their length fits in 32 bits and `unsigned int` holds every `strlen`.
-/

/-- A NUL-terminated string: the bytes before the terminator. -/
structure CString where
  bytes : List UInt8
  nulFree : 0 ∉ bytes
  representable : bytes.length < 2 ^ 32
  deriving DecidableEq

namespace CString

/-- The string that starts a buffer: everything before the first NUL byte. -/
def scan (buffer : List UInt8) : List UInt8 := buffer.takeWhile (· ≠ 0)

theorem scan_append_nul {bytes rest : List UInt8} (hnul : 0 ∉ bytes) :
    scan (bytes ++ 0 :: rest) = bytes := by
  have hall : ∀ byte ∈ bytes, decide (byte ≠ 0) = true := by
    intro byte hmem
    rw [decide_eq_true_eq]
    rintro rfl
    exact hnul hmem
  rw [scan, List.takeWhile_append_of_pos hall]
  simp

/-- A terminator ends the string, wherever it ended before. -/
theorem scan_append_zero (bytes rest : List UInt8) : scan (bytes ++ 0 :: rest) = scan bytes := by
  induction bytes with
  | nil => rfl
  | cons byte bytes ih =>
      unfold scan at ih ⊢
      rw [List.cons_append, List.takeWhile_cons, List.takeWhile_cons, ih]

theorem zero_notMem_scan (buffer : List UInt8) : 0 ∉ scan buffer := by
  intro hmem
  have hne := List.mem_takeWhile_imp hmem
  simp at hne

end CString

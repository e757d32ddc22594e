import Mathlib.Data.BitVec
import Mathlib.Data.List.Basic
import Mathlib.Tactic

/-!
# Bitmaps

A set of indices kept in machine words of `w` bits, word `index / w` holding bit `index % w`, with
the masks C code uses. Setting and clearing a bit change that one index, and the number of set bits
below a bound by one.
-/

namespace Bitmap

variable {w : Nat}

def testBit (words : List (BitVec w)) (index : Nat) : Bool :=
  words.getD (index / w) 0 &&& (1#w <<< (index % w)) != 0

def setBit (words : List (BitVec w)) (index : Nat) : List (BitVec w) :=
  words.set (index / w) (words.getD (index / w) 0 ||| (1#w <<< (index % w)))

def clearBit (words : List (BitVec w)) (index : Nat) : List (BitVec w) :=
  words.set (index / w) (words.getD (index / w) 0 &&& ~~~(1#w <<< (index % w)))

/-- The number of set bits below `bound`. -/
def count (words : List (BitVec w)) (bound : Nat) : Nat :=
  (List.range bound).countP (testBit words)

section Words

variable {words : List (BitVec w)} {index other bound : Nat}

@[simp]
theorem length_setBit : (setBit words index).length = words.length := by
  simp [setBit]

@[simp]
theorem length_clearBit : (clearBit words index).length = words.length := by
  simp [clearBit]

theorem testBit_eq_getLsbD (hw : 0 < w) (words : List (BitVec w)) (index : Nat) :
    testBit words index = (words.getD (index / w) 0).getLsbD (index % w) := by
  have hbit := Nat.mod_lt index hw
  have hmask : 1#w <<< (index % w) = BitVec.twoPow w (index % w) := rfl
  rw [testBit, hmask, BitVec.and_twoPow]
  cases hget : (words.getD (index / w) 0).getLsbD (index % w) with
  | false => simp
  | true =>
      have hone : (BitVec.twoPow w (index % w)).getLsbD (index % w) = true := by
        simp [hbit]
      simp only [↓reduceIte, bne_iff_ne, ne_eq]
      intro hzero
      rw [hzero] at hone
      simp at hone

/-- Two indices in one word have different bits. -/
theorem mod_ne_of_div_eq (hdiv : other / w = index / w) (hne : other ≠ index) :
    other % w ≠ index % w := by
  intro hmod
  apply hne
  rw [← Nat.div_add_mod other w, ← Nat.div_add_mod index w, hdiv, hmod]

theorem testBit_setBit (hw : 0 < w) (hword : index / w < words.length) :
    testBit (setBit words index) other = (decide (other = index) || testBit words other) := by
  rw [testBit_eq_getLsbD hw, testBit_eq_getLsbD hw, setBit]
  have hbit := Nat.mod_lt index hw
  by_cases hsame : other / w = index / w
  · have hget : (words.set (index / w)
        (words.getD (index / w) 0 ||| (1#w <<< (index % w)))).getD (other / w) 0
        = words.getD (index / w) 0 ||| BitVec.twoPow w (index % w) := by
      rw [hsame, List.getD_eq_getElem?_getD, List.getElem?_set_self hword]
      rfl
    rw [hget, hsame, BitVec.getLsbD_or, BitVec.getLsbD_twoPow]
    by_cases heq : other = index
    · simp [heq, hbit]
    · have hne := mod_ne_of_div_eq hsame heq
      simp [heq, Ne.symm hne]
  · have hget : (words.set (index / w)
        (words.getD (index / w) 0 ||| (1#w <<< (index % w)))).getD (other / w) 0
        = words.getD (other / w) 0 := by
      rw [List.getD_eq_getElem?_getD, List.getElem?_set_ne (Ne.symm hsame),
        List.getD_eq_getElem?_getD]
    have hne : other ≠ index := by
      rintro rfl
      exact hsame rfl
    rw [hget]
    simp [hne]

theorem testBit_clearBit (hw : 0 < w) (hword : index / w < words.length) :
    testBit (clearBit words index) other = (!decide (other = index) && testBit words other) := by
  rw [testBit_eq_getLsbD hw, testBit_eq_getLsbD hw, clearBit]
  have hbit := Nat.mod_lt index hw
  have hbit' := Nat.mod_lt other hw
  by_cases hsame : other / w = index / w
  · have hget : (words.set (index / w)
        (words.getD (index / w) 0 &&& ~~~(1#w <<< (index % w)))).getD (other / w) 0
        = words.getD (index / w) 0 &&& ~~~(BitVec.twoPow w (index % w)) := by
      rw [hsame, List.getD_eq_getElem?_getD, List.getElem?_set_self hword]
      rfl
    rw [hget, hsame, BitVec.getLsbD_and, BitVec.getLsbD_not, BitVec.getLsbD_twoPow]
    by_cases heq : other = index
    · simp [heq, hbit]
    · have hne := mod_ne_of_div_eq hsame heq
      simp [heq, hbit', Ne.symm hne]
  · have hget : (words.set (index / w)
        (words.getD (index / w) 0 &&& ~~~(1#w <<< (index % w)))).getD (other / w) 0
        = words.getD (other / w) 0 := by
      rw [List.getD_eq_getElem?_getD, List.getElem?_set_ne (Ne.symm hsame),
        List.getD_eq_getElem?_getD]
    have hne : other ≠ index := by
      rintro rfl
      exact hsame rfl
    rw [hget]
    simp [hne]

theorem testBit_replicate_zero (length index : Nat) :
    testBit (List.replicate length (0 : BitVec w)) index = false := by
  have hzero : (List.replicate length (0 : BitVec w)).getD (index / w) 0 = 0 := by
    rw [List.getD_eq_getElem?_getD, List.getElem?_replicate]
    split <;> rfl
  rw [testBit, hzero]
  simp

/-- Changing the answer at one index from false to true adds one to the count. -/
theorem countP_range_insert {test test' : Nat → Bool} (hindex : index < bound)
    (hbefore : test index = false)
    (hafter : ∀ other, test' other = (decide (other = index) || test other)) :
    (List.range bound).countP test' = (List.range bound).countP test + 1 := by
  induction bound with
  | zero => omega
  | succ bound ih =>
      rw [List.range_succ, List.countP_append, List.countP_append, List.countP_singleton,
        List.countP_singleton]
      by_cases hlast : index = bound
      · subst hlast
        have hrest : (List.range index).countP test' = (List.range index).countP test := by
          apply List.countP_congr
          intro other hother
          have hne : other ≠ index := (List.mem_range.mp hother).ne
          simp [hafter, hne]
        simp [hrest, hafter, hbefore]
      · have hne : bound ≠ index := Ne.symm hlast
        rw [ih (by omega), hafter bound]
        simp only [hne, decide_false, Bool.false_or]
        omega

theorem count_setBit (hw : 0 < w) (hword : index / w < words.length) (hindex : index < bound)
    (hclear : testBit words index = false) :
    count (setBit words index) bound = count words bound + 1 :=
  countP_range_insert hindex hclear fun _ => testBit_setBit hw hword

theorem count_clearBit (hw : 0 < w) (hword : index / w < words.length) (hindex : index < bound)
    (hset : testBit words index = true) :
    count (clearBit words index) bound + 1 = count words bound := by
  refine (countP_range_insert hindex ?_ fun other => ?_).symm
  · simp [testBit_clearBit hw hword]
  · rw [testBit_clearBit hw hword]
    by_cases hsame : other = index
    · simp [hsame, hset]
    · simp [hsame]

theorem count_replicate_zero (length bound : Nat) :
    count (List.replicate length (0 : BitVec w)) bound = 0 := by
  rw [count, List.countP_eq_zero]
  intro index _
  rw [Bool.not_eq_true]
  exact testBit_replicate_zero length index

end Words

end Bitmap

import DuckOs.Drivers.VirtioBlk
import DuckOs.Kernel.Klog
import DuckOs.Lib.Numeral
import Mathlib.Data.BitVec
import Mathlib.Tactic

/-!
# The digit buffer

A buffer of 16 bytes holds every word in base 16, and in base 10 the numbers below `10 ^ 16`. The conversions
of `kprintf` pass nothing larger in base 10, block counts may be larger.
-/

namespace DuckOs

open Numeral

/-! ### The loops -/

section Loops

variable {digitChar : Nat → UInt8} {base : Nat}

/-- The digits go to the buffer from the lowest on, if there is room for all of them. -/
theorem digitLoop_spec (hbase : 1 < base) :
    ∀ (fuel value : Nat) (buffer : List UInt8) (length : Nat), value ≤ fuel →
      length ≤ buffer.length →
      (length + (Nat.digits base value).length ≤ buffer.length →
        ∃ written, digitLoop digitChar base fuel value buffer length
            = some (written, length + (Nat.digits base value).length)
          ∧ written.length = buffer.length
          ∧ written.take (length + (Nat.digits base value).length)
            = buffer.take length ++ (Nat.digits base value).map digitChar)
      ∧ (buffer.length < length + (Nat.digits base value).length →
        digitLoop digitChar base fuel value buffer length = none) := by
  intro fuel
  induction fuel with
  | zero =>
      intro value buffer length hfuel hlength
      obtain rfl : value = 0 := by omega
      rw [digitLoop, if_pos rfl, Nat.digits_zero]
      exact ⟨fun _ => ⟨buffer, rfl, rfl, by simp⟩, fun hfull => absurd hlength (Nat.not_le.mpr hfull)⟩
  | succ fuel ih =>
      intro value buffer length hfuel hlength
      rw [digitLoop]
      split
      · rename_i hzero
        rw [hzero, Nat.digits_zero]
        exact ⟨fun _ => ⟨buffer, rfl, rfl, by simp⟩, fun hfull => absurd hlength (Nat.not_le.mpr hfull)⟩
      · rename_i hvalue
        have hsmaller : value / base < value := Nat.div_lt_self (Nat.pos_of_ne_zero hvalue) hbase
        rw [Nat.digits_eq_cons_digits_div hbase hvalue, List.length_cons, List.map_cons]
        split
        · rename_i hroom
          obtain ⟨hfits, hfull⟩ := ih (value / base) (buffer.set length (digitChar (value % base)))
            (length + 1) (by omega) (by rw [List.length_set]; omega)
          rw [List.length_set] at hfits hfull
          have hshift : length + ((Nat.digits base (value / base)).length + 1)
              = length + 1 + (Nat.digits base (value / base)).length := by omega
          rw [hshift]
          refine ⟨fun hle => ?_, hfull⟩
          obtain ⟨written, hloop, hsame, htake⟩ := hfits hle
          refine ⟨written, hloop, hsame, ?_⟩
          rw [htake, List.take_add_one, List.take_set_of_le (Nat.le_refl _), List.getElem?_set_self hroom]
          simp
        · rename_i hroom
          exact ⟨fun hle => absurd hle (by omega), fun _ => rfl⟩

theorem emitLoop_eq (buffer : List UInt8) :
    ∀ length ≤ buffer.length, emitLoop buffer length = (buffer.take length).reverse := by
  intro length
  induction length with
  | zero => exact fun _ => rfl
  | succ length ih =>
      intro hlength
      rw [emitLoop, ih (by omega), List.take_add_one, List.getElem?_eq_getElem hlength,
        List.getD_eq_getElem?_getD, List.getElem?_eq_getElem hlength, Option.toList_some,
        List.reverse_append]
      rfl

/-- A number with at most 16 digits is printed by the shortest numeral. -/
theorem putDigits_of_lt (hbase : 1 < base)
    (hdigit : ∀ place < base, asciiDigit (digitChar place) = some place) {value : Nat}
    (hvalue : value < base ^ digitBufferSize) :
    ∃ text, putDigits digitChar value base = some text ∧ Shortest asciiDigit base text value := by
  rw [putDigits]
  split
  · rename_i hzero
    subst hzero
    exact ⟨_, rfl, shortest_zero (by omega) (by decide)⟩
  · rename_i hne
    have hlength : (Nat.digits base value).length ≤ digitBufferSize :=
      (Nat.digits_length_le_iff hbase value).mpr hvalue
    obtain ⟨written, hloop, hsame, htake⟩ := (digitLoop_spec hbase value value
      (List.replicate digitBufferSize 0) 0 (Nat.le_refl _) (Nat.zero_le _)).1
      (by rwa [List.length_replicate, Nat.zero_add])
    rw [Nat.zero_add] at hloop htake
    rw [List.length_replicate] at hsame
    rw [hloop, Option.map_some]
    dsimp only
    rw [emitLoop_eq _ _ (by omega), htake, List.take_zero, List.nil_append]
    refine ⟨_, rfl, shortest_of_digits hbase hne ?_⟩
    rw [List.map_reverse, List.map_reverse, List.map_map]
    congr 1
    refine List.map_congr_left fun place hplace => ?_
    exact hdigit place (Nat.digits_lt_base hbase hplace)

theorem putDigits_of_le (hbase : 1 < base) {value : Nat} (hvalue : base ^ digitBufferSize ≤ value) :
    putDigits digitChar value base = none := by
  have hne : value ≠ 0 := by
    have hpos : 0 < base ^ digitBufferSize := Nat.pow_pos (by omega)
    omega
  have hlength : digitBufferSize < (Nat.digits base value).length :=
    (Nat.lt_digits_length_iff hbase value).mpr hvalue
  have hloop := (@digitLoop_spec digitChar base hbase value value (List.replicate digitBufferSize 0) 0
    (Nat.le_refl _) (Nat.zero_le _)).2 (by rwa [List.length_replicate, Nat.zero_add])
  rw [putDigits, if_neg hne, hloop]
  rfl

end Loops

/-! ### The conversions -/

theorem blockPrintUnsigned_of_lt {value : Nat} (hvalue : value < 10 ^ 16) :
    ∃ text, blockPrintUnsigned value = some text ∧ Shortest asciiDigit 10 text value :=
  putDigits_of_lt (by decide) (by decide) hvalue

theorem blockPrintUnsigned_of_le {value : Nat} (hvalue : 10 ^ 16 ≤ value) :
    blockPrintUnsigned value = none :=
  putDigits_of_le (by decide) hvalue

theorem kputUnsigned_decimal {value : Nat} (hvalue : value < 2 ^ 32) :
    ∃ text, kputUnsigned value 10 = some text ∧ Shortest asciiDigit 10 text value :=
  putDigits_of_lt (by decide) (by decide) (hvalue.trans_le (by decide))

theorem kputUnsigned_hexadecimal {value : Nat} (hvalue : value < 2 ^ 64) :
    ∃ text, kputUnsigned value 16 = some text ∧ Shortest asciiDigit 16 text value :=
  putDigits_of_lt (by decide) (by decide) hvalue

/-- A minus sign for a negative number, then the absolute value. -/
def SignedNumeral (text : List UInt8) (value : Int) : Prop :=
  if value < 0 then ∃ numeral, text = 0x2d :: numeral ∧ Shortest asciiDigit 10 numeral value.natAbs
  else Shortest asciiDigit 10 text value.natAbs

/-- The magnitude of a negative number is one more than the opposite of its successor, which does not
overflow. -/
theorem toNat_magnitude {value : BitVec 32} (hnegative : value.toInt < 0) :
    ((-(value + 1)).signExtend 64 + 1).toNat = value.toInt.natAbs := by
  have hword := value.isLt
  rw [BitVec.toInt_eq_toNat_cond] at hnegative ⊢
  split at hnegative
  · omega
  rename_i hhigh
  have hopposite : (-(value + 1)).toNat = 2 ^ 32 - 1 - value.toNat := by
    rw [BitVec.toNat_neg, BitVec.toNat_add]
    simp only [BitVec.reduceToNat]
    omega
  have hmsb : (-(value + 1)).msb = false := by
    rw [BitVec.msb_eq_false_iff_two_mul_lt, hopposite]
    omega
  rw [if_neg hhigh, BitVec.signExtend_eq_setWidth_of_msb_false hmsb, BitVec.toNat_add,
    BitVec.toNat_setWidth, hopposite]
  simp only [BitVec.reduceToNat]
  omega

theorem kputSigned_spec (value : BitVec 32) :
    ∃ text, kputSigned value = some text ∧ SignedNumeral text value.toInt := by
  have hslt : value.slt 0 = decide (value.toInt < 0) := by
    rw [BitVec.slt_eq_decide]
    rfl
  have hword := value.isLt
  unfold kputSigned SignedNumeral
  rw [hslt]
  by_cases hnegative : value.toInt < 0
  · have hbound : value.toInt.natAbs < 2 ^ 32 := by
      rw [BitVec.toInt_eq_toNat_cond] at hnegative ⊢
      split
      · omega
      · omega
    obtain ⟨text, hput, hshortest⟩ := kputUnsigned_decimal hbound
    rw [if_pos (decide_eq_true hnegative), toNat_magnitude hnegative, hput]
    refine ⟨_, rfl, ?_⟩
    rw [if_pos hnegative]
    exact ⟨text, rfl, hshortest⟩
  · have hmsb : value.msb = false := by
      rwa [BitVec.msb_eq_toInt, decide_eq_false_iff_not]
    have hvalue : (value.signExtend 64).toNat = value.toInt.natAbs := by
      rw [BitVec.signExtend_eq_setWidth_of_msb_false hmsb, BitVec.toNat_setWidth,
        BitVec.toInt_eq_toNat_of_msb hmsb, Int.natAbs_natCast]
      omega
    have hbound : value.toInt.natAbs < 2 ^ 32 := by
      rw [BitVec.toInt_eq_toNat_of_msb hmsb, Int.natAbs_natCast]
      exact hword
    obtain ⟨text, hput, hshortest⟩ := kputUnsigned_decimal hbound
    rw [if_neg (by rw [decide_eq_true_eq]; exact hnegative), hvalue, hput]
    refine ⟨text, rfl, ?_⟩
    rwa [if_neg hnegative]

/-! ### Numbers -/

/-- All characters are written to the buffer first, and they are the shortest numeral, with a sign or `0x` in
front of it. -/
def NumberPrint.Correct (print : NumberPrint) : Prop :=
  ∃ text, print.text = some text ∧
    match print with
    | .blockCount count => Shortest asciiDigit 10 text count.toNat
    | .d value => SignedNumeral text value.toInt
    | .u value => Shortest asciiDigit 10 text value.toNat
    | .x value => Shortest asciiDigit 16 text value.toNat
    | .p value => ∃ numeral, text = 0x30 :: 0x78 :: numeral ∧ Shortest asciiDigit 16 numeral value.toNat

/-- A format that is a single conversion. -/
theorem kprintf_conversion (conversion : UInt8) (arg : KprintfArg) :
    kprintf [0x25, conversion] [arg] = (kprintfConvert conversion [arg]).map Prod.fst := by
  rw [kprintf, if_neg (by decide)]
  split
  · rename_i hconvert
    rw [hconvert]
    rfl
  · rename_i hconvert
    rw [hconvert, kprintf, Option.map_some, Option.map_some, List.append_nil]

/-- The conversions of `kprintf` print every number, `block_print_unsigned` those of at most 16 digits. -/
theorem number_print_correct_iff (print : NumberPrint) :
    print.Correct ↔ ∀ count, print = .blockCount count → count.toNat < 10 ^ 16 := by
  cases print with
  | blockCount count =>
      constructor
      · rintro ⟨text, htext, -⟩ other hother
        obtain rfl := NumberPrint.blockCount.inj hother
        by_contra hlarge
        rw [NumberPrint.text, blockPrintUnsigned_of_le (Nat.not_lt.mp hlarge)] at htext
        cases htext
      · intro hsmall
        exact blockPrintUnsigned_of_lt (hsmall count rfl)
  | d value =>
      refine iff_of_true ?_ nofun
      obtain ⟨text, hput, hnumeral⟩ := kputSigned_spec value
      refine ⟨text, ?_, hnumeral⟩
      rw [NumberPrint.text, kprintf_conversion]
      simp [kprintfConvert, hput]
  | u value =>
      refine iff_of_true ?_ nofun
      obtain ⟨text, hput, hshortest⟩ := kputUnsigned_decimal value.isLt
      refine ⟨text, ?_, hshortest⟩
      rw [NumberPrint.text, kprintf_conversion]
      simp [kprintfConvert, hput]
  | x value =>
      refine iff_of_true ?_ nofun
      obtain ⟨text, hput, hshortest⟩ := kputUnsigned_hexadecimal (value.isLt.trans (by decide))
      refine ⟨text, ?_, hshortest⟩
      rw [NumberPrint.text, kprintf_conversion]
      simp [kprintfConvert, hput]
  | p value =>
      refine iff_of_true ?_ nofun
      obtain ⟨text, hput, hshortest⟩ := kputUnsigned_hexadecimal value.isLt
      refine ⟨0x30 :: 0x78 :: text, ?_, text, rfl, hshortest⟩
      rw [NumberPrint.text, kprintf_conversion]
      simp [kprintfConvert, hput]

/-- A device can report every block count. -/
theorem exists_virtioBlkReadCapacity (count : BitVec 64) :
    ∃ low high, virtioBlkReadCapacity low high = count := by
  refine ⟨count.setWidth 32, (count >>> 32).setWidth 32, ?_⟩
  ext index hindex
  by_cases hlow : index < 32
  · simp [virtioBlkReadCapacity, hlow, BitVec.getLsbD_eq_getElem hindex]
  · have hhigh : index - 32 < 32 := by omega
    have hsum : 32 + (index - 32) = index := by omega
    simp [virtioBlkReadCapacity, hlow, hhigh, hsum, BitVec.getLsbD_eq_getElem hindex]

/-- The seventeenth digit of a block count is written behind the buffer. -/
theorem block_count_overruns :
    virtioBlkReadCapacity 0x6fc10000 0x2386f2 = 10 ^ 16
      ∧ ¬ (NumberPrint.blockCount (virtioBlkReadCapacity 0x6fc10000 0x2386f2)).Correct := by
  refine ⟨by decide, ?_⟩
  rintro ⟨text, htext, -⟩
  rw [NumberPrint.text, blockPrintUnsigned_of_le (by decide)] at htext
  cases htext

end DuckOs

import Mathlib.Data.BitVec
import Mathlib.Tactic

/-!
# Translation tables

The stage 1 walk of VMSAv8-64 with 4 KiB pages, from the lower half of the address space. A table has
512 descriptors of 64 bits. A level resolves nine bits of the address, its descriptor names a table of
the next level or the memory itself, and the limits of the tables on the way apply to what is found.
-/

namespace TranslationTable

abbrev Word := BitVec 64

abbrev Table := Fin 512 → Word

/-- The nine bits of an address that select a descriptor. -/
def index (address : Word) (shift : Nat) : Fin 512 :=
  ⟨address.toNat / 2 ^ shift % 512, Nat.mod_lt _ (by decide)⟩

theorem val_index (address : Word) (shift : Nat) :
    (index address shift).val = address.toNat / 2 ^ shift % 512 := rfl

theorem index_eq_iff {address : Word} {shift : Nat} {entry : Fin 512}
    (haddress : address.toNat < 512 * 2 ^ shift) :
    index address shift = entry ↔ address.toNat / 2 ^ shift = entry.val := by
  rw [Fin.ext_iff, val_index, Nat.mod_eq_of_lt (Nat.div_lt_of_lt_mul (by rwa [Nat.mul_comm]))]

/-- The low bits of an address, which a walk leaves alone. -/
def lowBits (shift : Nat) : Word := BitVec.ofNat 64 (2 ^ shift - 1)

/-- Bits 47 to 12, the address in a descriptor. -/
def addressBits : Word := 0x0000fffffffff000

structure Access where
  el0Read : Bool
  el0Write : Bool
  el0Execute : Bool
  el1Write : Bool
  el1Execute : Bool
  attributeIndex : Word
  shareability : Word
  deriving DecidableEq

/-- AP, UXN, PXN, AttrIndx and SH of the last descriptor, under APTable, UXNTable and PXNTable of the
tables before it. -/
def access (descriptor limits : Word) : Access where
  el0Read := descriptor.getLsbD 6 && !limits.getLsbD 61
  el0Write := descriptor.getLsbD 6 && !descriptor.getLsbD 7 && !limits.getLsbD 61
    && !limits.getLsbD 62
  el0Execute := !descriptor.getLsbD 54 && !limits.getLsbD 60
  el1Write := !descriptor.getLsbD 7 && !limits.getLsbD 62
  el1Execute := !descriptor.getLsbD 53 && !limits.getLsbD 59
  attributeIndex := descriptor &&& 0x1c
  shareability := descriptor &&& 0x300

structure Translation where
  address : Word
  access : Access
  deriving DecidableEq

/-- A block or a page. Without the access flag it faults. -/
def leaf (descriptor limits address : Word) (shift : Nat) : Option Translation :=
  if descriptor.getLsbD 10 then
    some ⟨(descriptor &&& addressBits &&& ~~~ lowBits shift) ||| (address &&& lowBits shift),
      access descriptor limits⟩
  else none

/-- The walk with so many levels below this one. -/
def walkFrom (read : Word → Table) (address : Word) :
    (below : Nat) → (table limits : Word) → Option Translation
  | 0, table, limits =>
      let descriptor := read table (index address 12)
      if descriptor.getLsbD 0 && descriptor.getLsbD 1 then leaf descriptor limits address 12
      else none
  | below + 1, table, limits =>
      let shift := 12 + 9 * (below + 1)
      let descriptor := read table (index address shift)
      if !descriptor.getLsbD 0 then none
      else if descriptor.getLsbD 1 then
        walkFrom read address below (descriptor &&& addressBits) (limits ||| descriptor)
      else leaf descriptor limits address shift

/-- The walk over 39 bits of address; `read` gives the table at a physical address. -/
def walk (read : Word → Table) (table address : Word) : Option Translation :=
  if address.toNat < 2 ^ 39 then walkFrom read address 2 table 0 else none

/-! ### Words and masks -/

section Words

variable {value attributes : Word} {shift bit : Nat}

theorem getLsbD_lowBits (hshift : shift ≤ 64) : (lowBits shift).getLsbD bit = decide (bit < shift) := by
  rw [lowBits, BitVec.getLsbD_ofNat, Nat.testBit_two_pow_sub_one]
  by_cases hbit : bit < shift
  · simp only [hbit, decide_true, Bool.and_true, decide_eq_true_eq]
    omega
  · simp only [hbit, decide_false, Bool.and_false]

theorem toNat_and_lowBits (hshift : shift < 64) :
    (value &&& lowBits shift).toNat = value.toNat % 2 ^ shift := by
  have hpow : 2 ^ shift < 2 ^ 64 := Nat.pow_lt_pow_right (by decide) hshift
  rw [BitVec.toNat_and, lowBits, BitVec.toNat_ofNat, Nat.mod_eq_of_lt (by omega),
    Nat.and_two_pow_sub_one_eq_mod]

/-- A word is its high and its low part. -/
theorem and_not_or_and (value mask : Word) : (value &&& ~~~ mask) ||| (value &&& mask) = value := by
  ext bit hbit
  simp only [BitVec.getElem_or, BitVec.getElem_and, BitVec.getElem_not]
  cases value[bit] <;> cases mask[bit] <;> rfl

theorem or_and_distrib (first second mask : Word) :
    (first ||| second) &&& mask = (first &&& mask) ||| (second &&& mask) := by
  ext bit hbit
  simp only [BitVec.getElem_or, BitVec.getElem_and, Bool.and_or_distrib_right]

theorem toNat_and_not_lowBits (hshift : shift < 64) :
    (value &&& ~~~ lowBits shift).toNat = value.toNat / 2 ^ shift * 2 ^ shift := by
  have hdisjoint : (value &&& ~~~ lowBits shift) &&& (value &&& lowBits shift) = 0#64 := by
    ext bit hbit
    simp only [BitVec.getElem_and, BitVec.getElem_not, BitVec.getElem_zero]
    cases value[bit] <;> cases (lowBits shift)[bit] <;> rfl
  have hsum := BitVec.toNat_add_of_and_eq_zero hdisjoint
  rw [BitVec.add_eq_or_of_and_eq_zero _ _ hdisjoint, and_not_or_and, toNat_and_lowBits hshift] at hsum
  have hdivmod := Nat.div_add_mod' value.toNat (2 ^ shift)
  omega

end Words

/-! ### Descriptors

A descriptor is an address and attributes that share no bits. -/

/-- An address that a descriptor can hold, aligned to the memory it stands for. -/
def Fits (shift : Nat) (base : Word) : Prop := base &&& addressBits &&& ~~~ lowBits shift = base

/-- Tables on the way that take nothing away. -/
def Unlimited (limits : Word) : Prop := ∀ bit, 59 ≤ bit → bit ≤ 62 → limits.getLsbD bit = false

/-- The attributes of a block or a page that is in use. -/
structure LeafAttributes (page : Bool) (attributes : Word) : Prop where
  no_address : attributes &&& addressBits = 0
  valid : attributes.getLsbD 0 = true
  page_eq : attributes.getLsbD 1 = page
  accessed : attributes.getLsbD 10 = true

section Descriptors

variable {base attributes limits address : Word} {shift bit : Nat}

theorem getLsbD_addressBits (hbit : bit < 12 ∨ 48 ≤ bit) : addressBits.getLsbD bit = false := by
  have heq : addressBits = lowBits 48 &&& ~~~ lowBits 12 := by decide
  rw [heq, BitVec.getLsbD_and, BitVec.getLsbD_not, getLsbD_lowBits (by decide),
    getLsbD_lowBits (by decide)]
  rcases hbit with hlow | hhigh
  · rw [decide_eq_true hlow, Bool.not_true, Bool.and_false, Bool.and_false]
  · rw [decide_eq_false (by omega), Bool.false_and]

theorem Fits.getLsbD (hbase : Fits shift base) (hbit : bit < 12 ∨ 48 ≤ bit) :
    base.getLsbD bit = false := by
  have hbits : (base &&& addressBits &&& ~~~ lowBits shift).getLsbD bit = base.getLsbD bit :=
    congrArg (fun word => word.getLsbD bit) hbase
  rw [← hbits, BitVec.getLsbD_and, BitVec.getLsbD_and, getLsbD_addressBits hbit, Bool.and_false,
    Bool.false_and]

theorem fits_of_aligned (hpage : 12 ≤ shift) (hshift : shift < 64) (hlt : base.toNat < 2 ^ 48)
    (haligned : base.toNat % 2 ^ shift = 0) : Fits shift base := by
  have hpages : base.toNat % 2 ^ 12 = 0 := by
    apply Nat.mod_eq_zero_of_dvd
    exact (Nat.pow_dvd_pow 2 hpage).trans (Nat.dvd_of_mod_eq_zero haligned)
  have hhigh : base &&& lowBits 48 = base := by
    apply BitVec.eq_of_toNat_eq
    rw [toNat_and_lowBits (by decide), Nat.mod_eq_of_lt hlt]
  have hlow : ∀ {count}, count < 64 → base.toNat % 2 ^ count = 0 →
      base &&& ~~~ lowBits count = base := by
    intro count hcount hzero
    apply BitVec.eq_of_toNat_eq
    rw [toNat_and_not_lowBits hcount, Nat.div_mul_cancel (Nat.dvd_of_mod_eq_zero hzero)]
  have heq : addressBits = lowBits 48 &&& ~~~ lowBits 12 := by decide
  rw [Fits, heq, ← BitVec.and_assoc, hhigh, hlow (by decide) hpages, hlow hshift haligned]

/-- Outside the address the bits of a descriptor are those of its attributes. -/
theorem Fits.getLsbD_or (hbase : Fits shift base) (hbit : bit < 12 ∨ 48 ≤ bit) :
    (base ||| attributes).getLsbD bit = attributes.getLsbD bit := by
  rw [BitVec.getLsbD_or, hbase.getLsbD hbit, Bool.false_or]

theorem Fits.and_addressBits (hbase : Fits shift base) : base &&& addressBits = base := by
  calc base &&& addressBits
      = base &&& addressBits &&& ~~~ lowBits shift &&& addressBits := by rw [hbase]
    _ = base &&& ~~~ lowBits shift &&& (addressBits &&& addressBits) := by ac_rfl
    _ = base &&& addressBits &&& ~~~ lowBits shift := by
        rw [BitVec.and_self]
        ac_rfl
    _ = base := hbase

theorem Fits.and_not_lowBits (hbase : Fits shift base) : base &&& ~~~ lowBits shift = base := by
  calc base &&& ~~~ lowBits shift
      = base &&& addressBits &&& ~~~ lowBits shift &&& ~~~ lowBits shift := by rw [hbase]
    _ = base &&& addressBits &&& ~~~ lowBits shift := by rw [BitVec.and_assoc, BitVec.and_self]
    _ = base := hbase

theorem Fits.or_and (hbase : Fits shift base) {mask : Word} (hmask : addressBits &&& mask = 0) :
    (base ||| attributes) &&& mask = attributes &&& mask := by
  have hzero : base &&& mask = 0#64 := by
    rw [← hbase.and_addressBits, BitVec.and_assoc, hmask]
    exact BitVec.and_zero
  rw [or_and_distrib, hzero, BitVec.zero_or]

theorem Fits.access_or (hbase : Fits shift base) (limits : Word) :
    access (base ||| attributes) limits = access attributes limits := by
  unfold access
  rw [hbase.getLsbD_or (by decide), hbase.getLsbD_or (by decide), hbase.getLsbD_or (by decide),
    hbase.getLsbD_or (by decide), hbase.or_and (by decide), hbase.or_and (by decide)]

theorem Unlimited.access_eq (hlimits : Unlimited limits) (descriptor : Word) :
    access descriptor limits = access descriptor 0 := by
  unfold access
  simp only [hlimits 59 (by decide) (by decide), hlimits 60 (by decide) (by decide),
    hlimits 61 (by decide) (by decide), hlimits 62 (by decide) (by decide), BitVec.ofNat_eq_ofNat,
    BitVec.getLsbD_zero]

theorem Unlimited.or_table (hlimits : Unlimited limits) (hbase : Fits shift base) :
    Unlimited (limits ||| (base ||| 3)) := by
  intro bit hlow hhigh
  rw [BitVec.getLsbD_or, hlimits bit hlow hhigh, hbase.getLsbD_or (by omega), Bool.false_or]
  have hthree : (3 : Word) = lowBits 2 := by decide
  rw [hthree, getLsbD_lowBits (by decide), decide_eq_false (by omega)]

theorem unlimited_zero : Unlimited 0 := fun _ _ _ => BitVec.getLsbD_zero

/-- Filling the low bits of an aligned address is adding them. -/
theorem Fits.or_lowBits (hbase : Fits shift base) (address : Word) :
    base ||| (address &&& lowBits shift) = base + (address &&& lowBits shift) := by
  have hdisjoint : base &&& (address &&& lowBits shift) = 0#64 := by
    rw [← hbase.and_not_lowBits]
    ext bit hbit
    simp only [BitVec.getElem_and, BitVec.getElem_not, BitVec.getElem_zero]
    cases base[bit] <;> cases address[bit] <;> cases (lowBits shift)[bit] <;> rfl
  exact (BitVec.add_eq_or_of_and_eq_zero _ _ hdisjoint).symm

/-- Masking out the address of a descriptor gives the address back. -/
theorem Fits.address_eq (hbase : Fits shift base) (hattributes : attributes &&& addressBits = 0) :
    (base ||| attributes) &&& addressBits &&& ~~~ lowBits shift = base := by
  have hzero : attributes &&& addressBits = 0#64 := hattributes
  rw [or_and_distrib, hzero, BitVec.or_zero, hbase]

theorem Fits.leaf_eq (hbase : Fits shift base) {page : Bool}
    (hattributes : LeafAttributes page attributes) (hlimits : Unlimited limits) :
    leaf (base ||| attributes) limits address shift
      = some ⟨base ||| (address &&& lowBits shift), access attributes 0⟩ := by
  rw [leaf, hbase.getLsbD_or (by decide), hattributes.accessed, if_pos rfl,
    hbase.address_eq hattributes.no_address, hbase.access_or, hlimits.access_eq]

end Descriptors

/-! ### The rules of the walk -/

section Walk

variable {read : Word → Table} {address table limits base attributes : Word} {below : Nat}

theorem walkFrom_invalid (hentry : read table (index address (12 + 9 * below)) = 0) :
    walkFrom read address below table limits = none := by
  cases below with
  | zero => simp [walkFrom, hentry]
  | succ below => simp [walkFrom, hentry]

theorem walkFrom_table
    (hentry : read table (index address (12 + 9 * (below + 1))) = base ||| 3)
    (hbase : Fits 12 base) :
    walkFrom read address (below + 1) table limits
      = walkFrom read address below base (limits ||| (base ||| 3)) := by
  have hnext : (base ||| 3) &&& addressBits = base := by
    have hthree : (3 : Word) &&& addressBits = 0#64 := by decide
    rw [or_and_distrib, hthree, BitVec.or_zero, hbase.and_addressBits]
  rw [walkFrom, hentry, hbase.getLsbD_or (by decide), hbase.getLsbD_or (by decide), hnext]
  rfl

theorem walkFrom_block
    (hentry : read table (index address (12 + 9 * (below + 1))) = base ||| attributes)
    (hbase : Fits (12 + 9 * (below + 1)) base) (hattributes : LeafAttributes false attributes)
    (hlimits : Unlimited limits) :
    walkFrom read address (below + 1) table limits
      = some ⟨base ||| (address &&& lowBits (12 + 9 * (below + 1))), access attributes 0⟩ := by
  rw [walkFrom, hentry, hbase.getLsbD_or (by decide), hbase.getLsbD_or (by decide),
    hattributes.valid, hattributes.page_eq, hbase.leaf_eq hattributes hlimits]
  rfl

theorem walkFrom_page
    (hentry : read table (index address 12) = base ||| attributes)
    (hbase : Fits 12 base) (hattributes : LeafAttributes true attributes)
    (hlimits : Unlimited limits) :
    walkFrom read address 0 table limits
      = some ⟨base ||| (address &&& lowBits 12), access attributes 0⟩ := by
  rw [walkFrom, hentry, hbase.getLsbD_or (by decide), hbase.getLsbD_or (by decide),
    hattributes.valid, hattributes.page_eq, hbase.leaf_eq hattributes hlimits]
  rfl

end Walk

end TranslationTable

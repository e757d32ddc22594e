import Mathlib.Data.List.Basic
import Mathlib.Tactic

/-!
# Byte stores

A flat store maps every address to a byte. Reading a range gives a list, writing a list replaces a
range, and everything a program does to a disk or to memory through `memcpy` and `memset` is a
composition of the two. Little-endian words are read out of byte lists.
-/

namespace ByteStore

/-- A flat memory or disk image: one byte per address. -/
abbrev Store := Nat → UInt8

/-- The bytes at `start, start + 1, …, start + length - 1`. -/
def slice (store : Store) (start length : Nat) : List UInt8 :=
  (List.range length).map fun index => store (start + index)

/-- The store after `data` has been copied to `start`. -/
def patch (store : Store) (start : Nat) (data : List UInt8) : Store :=
  fun address =>
    if address < start then store address
    else data.getD (address - start) (store address)

/-- The two stores hold the same bytes below `bound`. -/
def AgreeBelow (bound : Nat) (left right : Store) : Prop :=
  ∀ address < bound, left address = right address

section Slice

variable {store left right : Store} {start length : Nat}

@[simp]
theorem length_slice : (slice store start length).length = length := by
  simp [slice]

@[simp]
theorem slice_zero : slice store start 0 = [] := by
  simp [slice]

theorem getElem?_slice {index : Nat} (hindex : index < length) :
    (slice store start length)[index]? = some (store (start + index)) := by
  simp [slice, hindex]

theorem slice_add (first second : Nat) :
    slice store start (first + second)
      = slice store start first ++ slice store (start + first) second := by
  simp [slice, List.range_add, Nat.add_assoc]

theorem slice_congr
    (hagree : ∀ index < length, left (start + index) = right (start + index)) :
    slice left start length = slice right start length := by
  apply List.map_congr_left
  intro index hindex
  exact hagree index (List.mem_range.mp hindex)

/-- Replacing one byte of the store replaces it in the slice. -/
theorem slice_update {index : Nat} (hindex : index < length) (value : UInt8) :
    slice (Function.update store (start + index) value) start length
      = (slice store start length).set index value := by
  apply List.ext_getElem?
  intro other
  by_cases hother : other < length
  · by_cases hsame : other = index
    · subst hsame
      rw [getElem?_slice hother, List.getElem?_set_self (by simpa using hother),
        Function.update_self]
    · rw [getElem?_slice hother, List.getElem?_set_ne (Ne.symm hsame), getElem?_slice hother,
        Function.update_of_ne (by omega)]
  · rw [List.getElem?_eq_none (by simpa using hother), List.getElem?_eq_none (by simpa using hother)]

theorem slice_update_of_outside {address : Nat} (value : UInt8)
    (houtside : address < start ∨ start + length ≤ address) :
    slice (Function.update store address value) start length = slice store start length :=
  slice_congr fun index hindex => Function.update_of_ne (by omega) _ _

theorem slice_eq_iff {data : List UInt8} (hlength : data.length = length) :
    slice store start length = data
      ↔ ∀ index < length, data[index]? = some (store (start + index)) := by
  constructor
  · rintro rfl index hindex
    exact getElem?_slice hindex
  · intro hget
    apply List.ext_getElem?
    intro index
    by_cases hindex : index < length
    · rw [getElem?_slice hindex, hget index hindex]
    · rw [List.getElem?_eq_none (by simpa using hindex), List.getElem?_eq_none (by omega)]

theorem take_slice (count : Nat) :
    (slice store start length).take count = slice store start (min count length) := by
  rw [slice, ← List.map_take, List.take_range, slice]

theorem drop_slice (count : Nat) :
    (slice store start length).drop count = slice store (start + count) (length - count) := by
  by_cases hcount : count ≤ length
  · have hsplit : slice store start (count + (length - count))
        = slice store start count ++ slice store (start + count) (length - count) :=
      slice_add count (length - count)
    rw [Nat.add_sub_cancel' hcount] at hsplit
    rw [hsplit, List.drop_left' (by simp)]
  · rw [List.drop_eq_nil_of_le (by simp; omega), Nat.sub_eq_zero_of_le (by omega), slice_zero]

/-- A concatenation is stored when its parts are, one behind the other. -/
theorem slice_eq_append_iff {first second : List UInt8} :
    slice store start (first ++ second).length = first ++ second
      ↔ slice store start first.length = first
        ∧ slice store (start + first.length) second.length = second := by
  rw [List.length_append, slice_add]
  constructor
  · intro heq
    exact List.append_inj heq length_slice
  · rintro ⟨hfirst, hsecond⟩
    rw [hfirst, hsecond]

theorem slice_eq_of_prefix {first whole : List UInt8} (hstarts : first <+: whole)
    (hwhole : slice store start whole.length = whole) : slice store start first.length = first := by
  obtain ⟨rest, rfl⟩ := hstarts
  exact (slice_eq_append_iff.mp hwhole).1

end Slice

section Patch

variable {store : Store} {start address : Nat} {data : List UInt8}

@[simp]
theorem patch_nil : patch store start [] = store := by
  funext address
  simp [patch]

theorem patch_of_lt (haddress : address < start) : patch store start data address = store address := by
  simp [patch, haddress]

theorem patch_of_le (haddress : start + data.length ≤ address) :
    patch store start data address = store address := by
  rw [patch, if_neg (by omega), List.getD_eq_getElem?_getD, List.getElem?_eq_none (by omega)]
  rfl

theorem patch_add {index : Nat} (hindex : index < data.length) :
    patch store start data (start + index) = data[index] := by
  rw [patch, if_neg (by omega), Nat.add_sub_cancel_left, List.getD_eq_getElem?_getD,
    List.getElem?_eq_getElem hindex]
  rfl

theorem agreeBelow_patch : AgreeBelow start (patch store start data) store :=
  fun _ haddress => patch_of_lt haddress

theorem slice_patch_self : slice (patch store start data) start data.length = data := by
  rw [slice_eq_iff rfl]
  intro index hindex
  rw [patch_add hindex, List.getElem?_eq_getElem hindex]

theorem slice_patch_of_disjoint {position length : Nat}
    (hdisjoint : position + length ≤ start ∨ start + data.length ≤ position) :
    slice (patch store start data) position length = slice store position length := by
  apply slice_congr
  intro index hindex
  rcases hdisjoint with hbefore | hafter
  · exact patch_of_lt (by omega)
  · exact patch_of_le (by omega)

theorem patch_append (first second : List UInt8) :
    patch store start (first ++ second)
      = patch (patch store start first) (start + first.length) second := by
  funext address
  by_cases hbefore : address < start
  · rw [patch_of_lt hbefore, patch_of_lt (by omega), patch_of_lt hbefore]
  obtain ⟨index, rfl⟩ := Nat.exists_eq_add_of_le (Nat.le_of_not_lt hbefore)
  by_cases hfirst : index < first.length
  · rw [patch_add (by simp; omega), patch_of_lt (by omega), patch_add hfirst,
      List.getElem_append_left hfirst]
  by_cases hsecond : index < first.length + second.length
  · obtain ⟨rest, rfl⟩ := Nat.exists_eq_add_of_le (Nat.le_of_not_lt hfirst)
    rw [patch_add (by simp; omega), ← Nat.add_assoc, patch_add (by omega),
      List.getElem_append_right (by omega)]
    simp
  · rw [patch_of_le (by simp; omega), patch_of_le (by omega), patch_of_le (by omega)]

theorem patch_slice_self (length : Nat) : patch store start (slice store start length) = store := by
  funext address
  by_cases hbefore : address < start
  · exact patch_of_lt hbefore
  by_cases hafter : start + length ≤ address
  · exact patch_of_le (by simpa using hafter)
  obtain ⟨index, rfl⟩ := Nat.exists_eq_add_of_le (Nat.le_of_not_lt hbefore)
  rw [patch_add (by simp; omega)]
  simp [slice]

theorem AgreeBelow.trans {bound : Nat} {first second third : Store}
    (hfirst : AgreeBelow bound first second) (hsecond : AgreeBelow bound second third) :
    AgreeBelow bound first third :=
  fun address haddress => (hfirst address haddress).trans (hsecond address haddress)

theorem AgreeBelow.patch {bound : Nat} {first second : Store} (hagree : AgreeBelow bound first second)
    (start : Nat) (data : List UInt8) :
    AgreeBelow bound (patch first start data) (patch second start data) := by
  intro address haddress
  rw [ByteStore.patch, ByteStore.patch, hagree address haddress]

/-- The store after data has been copied to several places, in turn. -/
def patchAll (store : Store) (writes : List (Nat × List UInt8)) : Store :=
  writes.foldl (fun store write => patch store write.1 write.2) store

theorem AgreeBelow.patchAll {bound : Nat} {first second : Store}
    (hagree : AgreeBelow bound first second) (writes : List (Nat × List UInt8)) :
    AgreeBelow bound (patchAll first writes) (patchAll second writes) := by
  induction writes generalizing first second with
  | nil => exact hagree
  | cons write rest ih => exact ih (hagree.patch write.1 write.2)

theorem patchAll_outside {writes : List (Nat × List UInt8)}
    (houtside : ∀ write ∈ writes, address < write.1 ∨ write.1 + write.2.length ≤ address) :
    patchAll store writes address = store address := by
  induction writes generalizing store with
  | nil => rfl
  | cons write rest ih =>
      rw [patchAll, List.foldl_cons, ← patchAll,
        ih fun other hmem => houtside other (List.mem_cons_of_mem _ hmem)]
      rcases houtside write List.mem_cons_self with hlow | hhigh
      · exact patch_of_lt hlow
      · exact patch_of_le hhigh

/-- Of writes to disjoint places every one can be read back. -/
theorem patchAll_of_mem {writes : List (Nat × List UInt8)}
    (hdisjoint : writes.Pairwise fun first second =>
      first.1 + first.2.length ≤ second.1 ∨ second.1 + second.2.length ≤ first.1)
    {write : Nat × List UInt8} (hmem : write ∈ writes) {index : Nat}
    (hindex : index < write.2.length) :
    patchAll store writes (write.1 + index) = write.2[index] := by
  induction writes generalizing store with
  | nil => cases hmem
  | cons first rest ih =>
      rw [List.pairwise_cons] at hdisjoint
      rw [patchAll, List.foldl_cons, ← patchAll]
      rcases List.mem_cons.mp hmem with rfl | hrest
      · rw [patchAll_outside, patch_add hindex]
        intro other hother
        have hapart := hdisjoint.1 other hother
        omega
      · exact ih hdisjoint.2 hrest

end Patch

/-! ### Little-endian words

A struct copied out of a store is read field by field; `field` is one such read. -/

section LittleEndian

/-- The natural number a little-endian byte list denotes. -/
def ofLe : List UInt8 → Nat
  | [] => 0
  | byte :: rest => byte.toNat + 256 * ofLe rest

/-- The low `width` bytes of a natural number, least significant first. -/
def toLe : Nat → Nat → List UInt8
  | 0, _ => []
  | width + 1, value => UInt8.ofNat value :: toLe width (value / 256)

/-- The word of `width` bytes at `offset` in a byte list. -/
def field (bytes : List UInt8) (offset width : Nat) : Nat :=
  ofLe ((bytes.drop offset).take width)

@[simp]
theorem length_toLe (width value : Nat) : (toLe width value).length = width := by
  induction width generalizing value with
  | zero => rfl
  | succ width ih => simp [toLe, ih]

theorem ofLe_toLe (width value : Nat) : ofLe (toLe width value) = value % 256 ^ width := by
  induction width generalizing value with
  | zero => simp [toLe, ofLe, Nat.mod_one]
  | succ width ih =>
      have hsplit : value % 256 ^ (width + 1)
          = value % 256 + 256 * (value / 256 % 256 ^ width) := by
        rw [pow_succ', Nat.mod_mul]
      rw [toLe, ofLe, ih, UInt8.toNat_ofNat', hsplit]

theorem ofLe_toLe_of_lt {width value : Nat} (hvalue : value < 256 ^ width) :
    ofLe (toLe width value) = value := by
  rw [ofLe_toLe, Nat.mod_eq_of_lt hvalue]

theorem toLe_ofLe (bytes : List UInt8) : toLe bytes.length (ofLe bytes) = bytes := by
  induction bytes with
  | nil => rfl
  | cons byte rest ih =>
      have hbyte := byte.toNat_lt
      have hhead : UInt8.ofNat (byte.toNat + 256 * ofLe rest) = byte := by
        rw [← UInt8.toNat_inj, UInt8.toNat_ofNat']
        omega
      have htail : (byte.toNat + 256 * ofLe rest) / 256 = ofLe rest := by omega
      rw [List.length_cons, ofLe, toLe, hhead, htail, ih]

/-- Byte lists of one length that denote the same number are the same. -/
theorem ofLe_inj {left right : List UInt8} (hlength : left.length = right.length) :
    ofLe left = ofLe right ↔ left = right := by
  constructor
  · intro heq
    rw [← toLe_ofLe left, ← toLe_ofLe right, hlength, heq]
  · rintro rfl
    rfl

theorem ofLe_lt (bytes : List UInt8) : ofLe bytes < 256 ^ bytes.length := by
  induction bytes with
  | nil => simp [ofLe]
  | cons byte rest ih =>
      have hbyte := byte.toNat_lt
      rw [ofLe, List.length_cons, pow_succ']
      omega

theorem ofLe_eq_zero_of_forall {bytes : List UInt8} (hzero : ∀ byte ∈ bytes, byte = 0) :
    ofLe bytes = 0 := by
  induction bytes with
  | nil => rfl
  | cons byte rest ih =>
      rw [ofLe, hzero byte List.mem_cons_self,
        ih fun other hother => hzero other (List.mem_cons_of_mem _ hother)]
      rfl

theorem field_lt (bytes : List UInt8) (offset width : Nat) :
    field bytes offset width < 256 ^ width := by
  apply (ofLe_lt _).trans_le
  apply Nat.pow_le_pow_right (by omega)
  simp

theorem field_slice {store : Store} {start length offset width : Nat}
    (hinside : offset + width ≤ length) :
    field (slice store start length) offset width = ofLe (slice store (start + offset) width) := by
  rw [field, drop_slice, take_slice, Nat.min_eq_left (by omega)]

theorem field_append_left {first second : List UInt8} {offset width : Nat}
    (hinside : offset + width ≤ first.length) :
    field (first ++ second) offset width = field first offset width := by
  rw [field, List.drop_append_of_le_length (by omega),
    List.take_append_of_le_length (by simp; omega), field]

theorem field_append_right {first second : List UInt8} {offset width : Nat}
    (hfirst : first.length ≤ offset) :
    field (first ++ second) offset width = field second (offset - first.length) width := by
  rw [field, List.drop_append, List.drop_eq_nil_of_le hfirst, List.nil_append, field]

theorem ofLe_take (bytes : List UInt8) (count : Nat) :
    ofLe (bytes.take count) = ofLe bytes % 256 ^ count := by
  induction bytes generalizing count with
  | nil => simp [ofLe]
  | cons byte rest ih =>
      cases count with
      | zero => simp [ofLe, Nat.mod_one]
      | succ count =>
          have hbyte := byte.toNat_lt
          rw [List.take_succ_cons, ofLe, ih, ofLe, pow_succ', Nat.mod_mul,
            Nat.add_mul_mod_self_left, Nat.mod_eq_of_lt (by omega : byte.toNat < 256),
            Nat.add_mul_div_left _ _ (by decide), Nat.div_eq_of_lt (by omega), Nat.zero_add]

theorem ofLe_append_zeros (bytes : List UInt8) (count : Nat) :
    ofLe (bytes ++ List.replicate count 0) = ofLe bytes := by
  induction bytes with
  | nil => exact ofLe_eq_zero_of_forall fun byte hbyte => List.eq_of_mem_replicate hbyte
  | cons byte rest ih => rw [List.cons_append, ofLe, ih, ofLe]

/-- The bytes with everything from `kept` on still zero. -/
def torn (bytes : List UInt8) (kept : Nat) : List UInt8 :=
  bytes.take kept ++ List.replicate (bytes.length - kept) 0

theorem take_torn {bytes : List UInt8} {count : Nat} (kept : Nat) (hcount : count ≤ bytes.length) :
    (torn bytes kept).take count = torn (bytes.take count) kept := by
  rw [torn, torn, List.take_append, List.take_take, List.take_take, List.take_replicate,
    List.length_take, List.length_take, Nat.min_comm]
  congr 2
  omega

/-- Of a word that was torn, the low bytes before the tear are left. -/
theorem field_torn {bytes : List UInt8} {offset width : Nat} (kept : Nat)
    (hinside : offset + width ≤ bytes.length) :
    field (torn bytes kept) offset width = field bytes offset width % 256 ^ (kept - offset) := by
  by_cases hbefore : kept ≤ offset
  · have hzero : field (torn bytes kept) offset width = 0 := by
      apply ofLe_eq_zero_of_forall
      intro byte hbyte
      have hdrop := List.mem_of_mem_take hbyte
      rw [torn, List.drop_append, List.drop_eq_nil_of_le (by simp; omega), List.nil_append] at hdrop
      exact List.eq_of_mem_replicate (List.mem_of_mem_drop hdrop)
    rw [hzero, Nat.sub_eq_zero_of_le hbefore, pow_zero, Nat.mod_one]
  · have hsplit : ((torn bytes kept).drop offset).take width
        = ((bytes.drop offset).take width).take (kept - offset)
          ++ List.replicate (width - (kept - offset)) 0 := by
      rw [torn, List.drop_append_of_le_length (by simp; omega), List.drop_take, List.take_append,
        List.take_take, List.take_take, List.take_replicate, List.length_take, List.length_drop,
        Nat.min_comm]
      congr 2
      omega
    rw [field, hsplit, ofLe_append_zeros, ofLe_take, field]

/-- Copying only the first `kept` bytes over zeros leaves the data torn. -/
theorem slice_patch_take {store : Store} {start kept : Nat} {data : List UInt8}
    (hzeros : ∀ index < data.length, store (start + index) = 0) :
    slice (patch store start (data.take kept)) start data.length = torn data kept := by
  rw [slice_eq_iff (by simp [torn]; omega)]
  intro index hindex
  by_cases hkept : index < kept
  · have hlt : index < (data.take kept).length := by
      rw [List.length_take]
      omega
    rw [patch_add hlt, torn, List.getElem?_append_left hlt, List.getElem?_eq_getElem hlt]
  · have hle : (data.take kept).length ≤ index := by
      rw [List.length_take]
      omega
    rw [patch_of_le (by omega), hzeros index hindex, torn, List.getElem?_append_right hle,
      List.getElem?_replicate, if_pos]
    rw [List.length_take] at hle ⊢
    omega

theorem field_toLe {width value : Nat} (hvalue : value < 256 ^ width) :
    field (toLe width value) 0 width = value := by
  rw [field, List.drop_zero, List.take_of_length_le (by simp), ofLe_toLe_of_lt hvalue]

end LittleEndian

end ByteStore

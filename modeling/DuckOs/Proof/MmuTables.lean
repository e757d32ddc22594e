import DuckOs.Arch.MmuTables

/-!
# What the page tables mean

For every address the walk over the built tables is worked out: the user pages as the calls left
them, the platform's memory at its own addresses, and nothing else.
-/

namespace DuckOs

open TranslationTable

namespace Mmu

/-! ### Indices and words -/

section Words

variable {address attributes : Word}

theorem entryIndex_div {size : Word} {shift : Nat} (hsize : size.toNat = 2 ^ shift) :
    entryIndex (address / size) = index address shift := by
  have hmask : (0x1ff : Word).toNat = 2 ^ 9 - 1 := by decide
  apply Fin.ext
  unfold entryIndex index
  dsimp only
  rw [BitVec.toNat_and, hmask, Nat.and_two_pow_sub_one_eq_mod, BitVec.toNat_udiv, hsize]

theorem l2Index_eq (address : Word) : l2Index address = index address 21 := entryIndex_div (by decide)

theorem l3Index_eq (address : Word) : l3Index address = index address 12 := entryIndex_div (by decide)

/-- The entry of a block. -/
def blockDescriptor (address attributes : Word) : Word :=
  (address &&& ~~~ lowBits 21) ||| (attributes ||| descBlock)

theorem mapL2Block_eq (table : Table) (address attributes : Word) :
    mapL2Block table address attributes
      = Function.update table (index address 21) (blockDescriptor address attributes) := by
  have hmask : l2BlockSize - 1 = lowBits 21 := by decide
  rw [mapL2Block, blockDescriptor, l2Index_eq, hmask, BitVec.or_assoc]

theorem blockDescriptor_congr {other : Word} (hblock : address.toNat / 2 ^ 21 = other.toNat / 2 ^ 21) :
    blockDescriptor address attributes = blockDescriptor other attributes := by
  have hbase : address &&& ~~~ lowBits 21 = other &&& ~~~ lowBits 21 := by
    apply BitVec.eq_of_toNat_eq
    rw [toNat_and_not_lowBits (by decide), toNat_and_not_lowBits (by decide), hblock]
  rw [blockDescriptor, blockDescriptor, hbase]

end Words

/-! ### The loops over blocks -/

section Blocks

variable {attributes stop : Word}

theorem toNat_next {address : Word} {block count : Nat} (haddress : address.toNat = block * 2 ^ 21)
    (hstop : stop.toNat = (block + count) * 2 ^ 21) (hcount : 0 < count) :
    (address + l2BlockSize).toNat = (block + 1) * 2 ^ 21
      ∧ stop.toNat = (block + 1 + (count - 1)) * 2 ^ 21 := by
  have hsize : l2BlockSize.toNat = 2 ^ 21 := by decide
  have hlt := stop.isLt
  constructor
  · rw [BitVec.toNat_add, hsize, haddress, Nat.mod_eq_of_lt (by omega)]
    omega
  · rw [hstop]
    omega

theorem mapL2Blocks_miss (entry : Fin 512) :
    ∀ (fuel block count : Nat) (address : Word) (table : Table),
      address.toNat = block * 2 ^ 21 → stop.toNat = (block + count) * 2 ^ 21 →
      (∀ step < count, entry.val ≠ (block + step) % 512) →
      mapL2Blocks attributes stop fuel address table entry = table entry := by
  intro fuel
  induction fuel with
  | zero => exact fun _ _ _ _ _ _ _ => rfl
  | succ fuel ih =>
      intro block count address table haddress hstop hmiss
      rw [mapL2Blocks]
      split
      · rename_i hmore
        have hcount : 0 < count := by
          rw [BitVec.lt_def, haddress, hstop] at hmore
          omega
        obtain ⟨hnext, hrest⟩ := toNat_next haddress hstop hcount
        rw [ih (block + 1) (count - 1) _ _ hnext hrest ?_, mapL2Block_eq, Function.update_of_ne]
        · intro heq
          apply hmiss 0 hcount
          rw [heq, val_index, haddress, Nat.mul_div_cancel _ (by decide), Nat.add_zero]
        · intro step hstep
          have hother := hmiss (step + 1) (by omega)
          rwa [← Nat.add_assoc, Nat.add_right_comm] at hother
      · rfl

theorem mapL2Blocks_hit {target : Word} :
    ∀ (fuel block count : Nat) (address : Word) (table : Table),
      address.toNat = block * 2 ^ 21 → stop.toNat = (block + count) * 2 ^ 21 →
      count ≤ fuel → count ≤ 512 →
      block ≤ target.toNat / 2 ^ 21 → target.toNat / 2 ^ 21 < block + count →
      mapL2Blocks attributes stop fuel address table (index target 21)
        = blockDescriptor target attributes := by
  intro fuel
  induction fuel with
  | zero =>
      intro block count address table _ _ hfuel _ hlow hhigh
      omega
  | succ fuel ih =>
      intro block count address table haddress hstop hfuel hcount hlow hhigh
      have hmore : address < stop := by
        rw [BitVec.lt_def, haddress, hstop]
        omega
      obtain ⟨hnext, hrest⟩ := toNat_next haddress hstop (by omega)
      rw [mapL2Blocks, if_pos hmore]
      by_cases hfirst : target.toNat / 2 ^ 21 = block
      · have hblock : address.toNat / 2 ^ 21 = target.toNat / 2 ^ 21 := by
          rw [haddress, hfirst, Nat.mul_div_cancel _ (by decide)]
        have hindex : index target 21 = index address 21 := by
          apply Fin.ext
          rw [val_index, val_index, hblock]
        rw [mapL2Blocks_miss _ fuel (block + 1) (count - 1) _ _ hnext hrest, mapL2Block_eq, hindex,
          Function.update_self, blockDescriptor_congr hblock]
        intro step hstep
        rw [val_index]
        omega
      · exact ih (block + 1) (count - 1) _ _ hnext hrest (by omega) (by omega) (by omega) (by omega)

end Blocks

/-! ### The built tables -/

section Layout

variable {layout : Layout} {table : Word}

theorem Layout.fits (hmem : table ∈ [layout.l1, layout.l2Low, layout.l2Ram, layout.l2Pci,
    layout.l3User]) : Fits 12 table := by
  have haligned := layout.aligned table hmem
  have hlt := (layout.inRam table hmem).2
  have hend : (QemuVirt.ramBase + QemuVirt.ramSize).toNat = 0x48000000 := by decide
  rw [BitVec.lt_def, hend] at hlt
  exact fits_of_aligned le_rfl (by decide) (by omega) haligned

variable (layout)

theorem Layout.fits_l2Low : Fits 12 layout.l2Low := layout.fits (by simp)

theorem Layout.fits_l2Ram : Fits 12 layout.l2Ram := layout.fits (by simp)

theorem Layout.fits_l2Pci : Fits 12 layout.l2Pci := layout.fits (by simp)

theorem Layout.fits_l3User : Fits 12 layout.l3User := layout.fits (by simp)

variable (memory : Word → Table) (tables : Tables)

@[simp]
theorem Layout.read_l1 : layout.read memory tables layout.l1 = tables.l1 := if_pos rfl

@[simp]
theorem Layout.read_l2Low : layout.read memory tables layout.l2Low = tables.l2Low := by
  have hdistinct := layout.distinct
  simp only [List.nodup_cons, List.mem_cons, not_or] at hdistinct
  rw [Layout.read, if_neg (Ne.symm hdistinct.1.1), if_pos rfl]

@[simp]
theorem Layout.read_l2Ram : layout.read memory tables layout.l2Ram = tables.l2Ram := by
  have hdistinct := layout.distinct
  simp only [List.nodup_cons, List.mem_cons, not_or] at hdistinct
  rw [Layout.read, if_neg (Ne.symm hdistinct.1.2.1), if_neg (Ne.symm hdistinct.2.1.1), if_pos rfl]

@[simp]
theorem Layout.read_l2Pci : layout.read memory tables layout.l2Pci = tables.l2Pci := by
  have hdistinct := layout.distinct
  simp only [List.nodup_cons, List.mem_cons, not_or] at hdistinct
  rw [Layout.read, if_neg (Ne.symm hdistinct.1.2.2.1), if_neg (Ne.symm hdistinct.2.1.2.1),
    if_neg (Ne.symm hdistinct.2.2.1.1), if_pos rfl]

@[simp]
theorem Layout.read_l3User : layout.read memory tables layout.l3User = tables.l3User := by
  have hdistinct := layout.distinct
  simp only [List.nodup_cons, List.mem_cons, not_or] at hdistinct
  rw [Layout.read, if_neg (Ne.symm hdistinct.1.2.2.2.1), if_neg (Ne.symm hdistinct.2.1.2.2.1),
    if_neg (Ne.symm hdistinct.2.2.1.2.1), if_neg (Ne.symm hdistinct.2.2.2.1.1), if_pos rfl]

end Layout

section Built

theorem tableDescriptor_eq {table : Word} (hfits : Fits 12 table) :
    (table &&& ~~~ 0xfff) ||| descValid ||| descTable = table ||| 3 := by
  have hmask : (0xfff : Word) = lowBits 12 := by decide
  have hbits : descValid ||| descTable = 3 := by decide
  rw [hmask, hfits.and_not_lowBits, BitVec.or_assoc, hbits]

variable (layout : Layout)

theorem buildTables_l1 (entry : Fin 512) :
    (buildTables layout).l1 entry
      = if entry = 256 then layout.l2Pci ||| 3
        else if entry = 1 then layout.l2Ram ||| 3
        else if entry = 0 then layout.l2Low ||| 3
        else 0 := by
  have hpresent : QemuVirt.pciEcamBase ≠ 0 ∧ QemuVirt.pciEcamSize ≠ 0 := by decide
  have hpci : l1Index QemuVirt.pciEcamBase = 256 := by decide
  have hram : l1Index QemuVirt.ramBase = 1 := by decide
  have hlow : l1Index 0 = 0 := by decide
  unfold buildTables
  dsimp only
  rw [if_pos hpresent, mapL1Table, mapL1Table, mapL1Table, hpci, hram, hlow,
    tableDescriptor_eq layout.fits_l2Low, tableDescriptor_eq layout.fits_l2Ram,
    tableDescriptor_eq layout.fits_l2Pci]
  simp only [Function.update_apply]

theorem buildTables_l2Low (entry : Fin 512) :
    (buildTables layout).l2Low entry
      = if entry = 80 then blockDescriptor QemuVirt.virtioMmioBase deviceAttributes
        else if entry = 72 then blockDescriptor QemuVirt.uart0Base deviceAttributes
        else if entry = 64 then blockDescriptor gicdBase deviceAttributes
        else if entry = 0 then layout.l3User ||| 3
        else 0 := by
  have hvirtio : index QemuVirt.virtioMmioBase 21 = 80 := by decide
  have huart : index QemuVirt.uart0Base 21 = 72 := by decide
  have hgic : index gicdBase 21 = 64 := by decide
  have hlow : l2Index 0 = 0 := by decide
  unfold buildTables
  dsimp only
  rw [mapL2Block_eq, mapL2Block_eq, mapL2Block_eq, mapL2Table, hvirtio, huart, hgic, hlow,
    tableDescriptor_eq layout.fits_l3User]
  simp only [Function.update_apply]

/-- The memory blocks are the entries 0 to 63 of their table. -/
theorem buildTables_l2Ram {address : Word} (hl1 : address.toNat / 2 ^ 30 = 1) :
    (buildTables layout).l2Ram (index address 21)
      = if address.toNat < 0x48000000 then blockDescriptor address ramAttributes else 0 := by
  have hstart : QemuVirt.ramBase.toNat = 512 * 2 ^ 21 := by decide
  have hstop : (QemuVirt.ramBase + QemuVirt.ramSize).toNat = (512 + 64) * 2 ^ 21 := by decide
  unfold buildTables
  dsimp only
  split
  · exact mapL2Blocks_hit 512 512 64 _ _ hstart hstop (by decide) (by decide) (by omega) (by omega)
  · rw [mapL2Blocks_miss _ 512 512 64 _ _ hstart hstop]
    intro step hstep
    rw [val_index]
    omega

theorem buildTables_l2Pci {address : Word} (hl1 : address.toNat / 2 ^ 30 = 256) :
    (buildTables layout).l2Pci (index address 21)
      = if 0x4010000000 ≤ address.toNat ∧ address.toNat < 0x4020000000 then
          blockDescriptor address deviceAttributes
        else 0 := by
  have hstart : QemuVirt.pciEcamBase.toNat = 131200 * 2 ^ 21 := by decide
  have hstop : (QemuVirt.pciEcamBase + QemuVirt.pciEcamSize).toNat = (131200 + 128) * 2 ^ 21 := by
    decide
  unfold buildTables
  dsimp only
  split
  · exact mapL2Blocks_hit 512 131200 128 _ _ hstart hstop (by decide) (by decide) (by omega)
      (by omega)
  · rw [mapL2Blocks_miss _ 512 131200 128 _ _ hstart hstop]
    intro step hstep
    rw [val_index]
    omega

end Built

/-! ### Walks over tables -/

section Walks

variable {layout : Layout} {memory : Word → Table} {tables : Tables} {address next attributes : Word}

theorem translate_none_of_l1 (hentry : tables.l1 (index address 30) = 0) :
    translate layout memory tables address = none := by
  unfold translate walk
  split
  · apply walkFrom_invalid
    rw [layout.read_l1]
    exact hentry
  · rfl

/-- The walk enters the table of the first level's entry. -/
theorem translate_table (haddress : address.toNat < 2 ^ 39)
    (hl1 : tables.l1 (index address 30) = next ||| 3) (hnext : Fits 12 next) :
    translate layout memory tables address
      = walkFrom (layout.read memory tables) address 1 next (0 ||| (next ||| 3)) := by
  unfold translate walk
  rw [if_pos haddress]
  apply walkFrom_table _ hnext
  rw [layout.read_l1]
  exact hl1

theorem translate_none_of_l2 (hl1 : tables.l1 (index address 30) = next ||| 3)
    (hnext : Fits 12 next)
    (hl2 : layout.read memory tables next (index address 21) = 0) :
    translate layout memory tables address = none := by
  by_cases haddress : address.toNat < 2 ^ 39
  · rw [translate_table haddress hl1 hnext]
    exact walkFrom_invalid hl2
  · rw [translate, walk, if_neg haddress]

theorem translate_block (haddress : address.toNat < 2 ^ 39)
    (hl1 : tables.l1 (index address 30) = next ||| 3) (hnext : Fits 12 next)
    (hl2 : layout.read memory tables next (index address 21) = blockDescriptor address attributes)
    (hattributes : LeafAttributes false (attributes ||| descBlock)) :
    translate layout memory tables address
      = some ⟨address, access (attributes ||| descBlock) 0⟩ := by
  have hbase : (address &&& ~~~ lowBits 21).toNat = address.toNat / 2 ^ 21 * 2 ^ 21 :=
    toNat_and_not_lowBits (by decide)
  have hfits : Fits 21 (address &&& ~~~ lowBits 21) := by
    apply fits_of_aligned (by decide) (by decide)
    · rw [hbase]
      omega
    · rw [hbase, Nat.mul_mod_left]
  rw [translate_table haddress hl1 hnext,
    @walkFrom_block _ _ _ _ _ _ 0 hl2 hfits hattributes (unlimited_zero.or_table hnext),
    and_not_or_and]

end Walks

/-! ### User pages -/

/-- The word of an entry of the user table. -/
def encode : Option MmuL3Descriptor → Word
  | none => 0
  | some descriptor =>
      BitVec.ofNat 64 descriptor.page ||| (userAttributes descriptor.attributes ||| descPage)

/-- The user table as pages and attributes. -/
def userTable (calls : List UserCall) : MmuL3Table :=
  calls.foldl (fun table call =>
    mmuMapL3Page table call.virtualAddress.toNat call.physicalAddress.toNat call.attributes)
    fun _ => none

/-- The last call for a page. -/
def lastCall (calls : List UserCall) (page : Word) : Option UserCall :=
  calls.reverse.find? fun call => call.virtualAddress = page

section User

variable {tables : Tables} {table : Table} {abstract : MmuL3Table}

theorem userStep_eq (tables : Tables) (call : UserCall) :
    userStep tables call = { tables with
      l3User := mapL3Page tables.l3User call.virtualAddress call.physicalAddress
        (userAttributes call.attributes) } := by
  unfold userStep
  cases call.attributes with
  | code => rfl
  | data => rfl

theorem mapL3Page_encode (hencode : ∀ entry : Fin 512, table entry = encode (abstract entry))
    (call : UserCall) (entry : Fin 512) :
    mapL3Page table call.virtualAddress call.physicalAddress (userAttributes call.attributes) entry
      = encode (mmuMapL3Page abstract call.virtualAddress.toNat call.physicalAddress.toNat
          call.attributes entry) := by
  have hmask : l3PageSize - 1 = lowBits 12 := by decide
  have hpage : call.physicalAddress &&& ~~~ lowBits 12
      = BitVec.ofNat 64 (call.physicalAddress.toNat / 2 ^ 12 * 2 ^ 12) := by
    rw [← toNat_and_not_lowBits (by decide), BitVec.ofNat_toNat, BitVec.setWidth_eq]
  rw [mapL3Page, mmuMapL3Page, Function.update_apply, Function.update_apply, l3Index_eq, hmask, hpage,
    BitVec.or_assoc]
  have hindex : entry = index call.virtualAddress 12
      ↔ entry.val = mmuL3Index call.virtualAddress.toNat := by
    rw [Fin.ext_iff, val_index]
    rfl
  by_cases hentry : entry = index call.virtualAddress 12
  · rw [if_pos hentry, if_pos (hindex.mp hentry)]
    rfl
  · rw [if_neg hentry, if_neg (fun heq => hentry (hindex.mpr heq)), hencode]

theorem foldl_userStep (calls : List UserCall) :
    ∀ (tables : Tables) (abstract : MmuL3Table),
      (∀ entry : Fin 512, tables.l3User entry = encode (abstract entry)) →
      ∃ l3User : Table, calls.foldl userStep tables = { tables with l3User := l3User }
        ∧ ∀ entry : Fin 512, l3User entry = encode (calls.foldl (fun table call =>
            mmuMapL3Page table call.virtualAddress.toNat call.physicalAddress.toNat
              call.attributes) abstract entry) := by
  induction calls with
  | nil => exact fun tables abstract hencode => ⟨tables.l3User, rfl, hencode⟩
  | cons call calls ih =>
      intro tables abstract hencode
      obtain ⟨l3User, hrun, hentries⟩ := ih (userStep tables call) _
        (by rw [userStep_eq]; exact mapL3Page_encode hencode call)
      refine ⟨l3User, ?_, hentries⟩
      rw [List.foldl_cons, hrun, userStep_eq]

/-- A run leaves the other tables as they were built. -/
theorem run_eq (layout : Layout) (calls : List UserCall) :
    ∃ l3User : Table, run layout calls = { buildTables layout with l3User := l3User }
      ∧ ∀ entry : Fin 512, l3User entry = encode (userTable calls entry) :=
  foldl_userStep calls (buildTables layout) (fun _ => none) fun _ => rfl

/-- A page is as its last call left it. -/
theorem userTable_apply (calls : List UserCall) {address : Word} (haddress : address.toNat < 2 ^ 21) :
    userTable calls (index address 12)
      = (lastCall calls (address &&& ~~~ lowBits 12)).map fun call =>
          ⟨call.physicalAddress.toNat, call.attributes⟩ := by
  induction calls using List.reverseRecOn with
  | nil => rfl
  | append_singleton calls call ih =>
      have hcall := call.virtual_lt
      have hpage := call.virtual_aligned
      have hphysical := call.physical_aligned
      rw [BitVec.lt_def] at hcall
      have hlimit : (0x200000 : Word).toNat = 2 ^ 21 := by decide
      have hsame : (index address 12).val = mmuL3Index call.virtualAddress.toNat
          ↔ call.virtualAddress = address &&& ~~~ lowBits 12 := by
        rw [BitVec.toNat_eq, toNat_and_not_lowBits (by decide), val_index, mmuL3Index, mmuL3PageSize,
          mmuTableEntries]
        omega
      rw [userTable, List.foldl_append, List.foldl_cons, List.foldl_nil, ← userTable, mmuMapL3Page,
        Function.update_apply, lastCall, List.reverse_append, List.reverse_singleton,
        List.singleton_append, List.find?_cons]
      by_cases hlast : call.virtualAddress = address &&& ~~~ lowBits 12
      · rw [if_pos (hsame.mpr hlast), decide_eq_true hlast, Option.map_some]
        congr 2
        rw [mmuL3PageSize]
        omega
      · rw [if_neg (fun heq => hlast (hsame.mp heq)), decide_eq_false hlast, ih, lastCall]

end User

/-! ### Every address -/

/-- Readable and executable in EL0, or readable and writable; never executable in EL1. -/
def userAccess : MmuUserAttributes → Access
  | .code => ⟨true, false, true, false, false, 0x4, 0x300⟩
  | .data => ⟨true, true, false, true, false, 0x4, 0x300⟩

def ramAccess : Access := ⟨false, false, true, true, true, 0x4, 0x300⟩

def deviceAccess : Access := ⟨false, false, false, true, false, 0, 0⟩

def InRam (address : Word) : Prop :=
  QemuVirt.ramBase ≤ address ∧ address < QemuVirt.ramBase + QemuVirt.ramSize

instance (address : Word) : Decidable (InRam address) := inferInstanceAs (Decidable (_ ∧ _))

/-- The interrupt controller, the UART, the virtio slots, each in a block of its own, and the ECAM. -/
def InDevice (address : Word) : Prop :=
  (∃ base ∈ [gicdBase, QemuVirt.uart0Base, QemuVirt.virtioMmioBase],
      base ≤ address ∧ address < base + l2BlockSize)
    ∨ (QemuVirt.pciEcamBase ≤ address ∧ address < QemuVirt.pciEcamBase + QemuVirt.pciEcamSize)

instance (address : Word) : Decidable (InDevice address) := inferInstanceAs (Decidable (_ ∨ _))

/-- The meaning of the tables after a sequence of calls. -/
def view (calls : List UserCall) (address : Word) : Option Translation :=
  if address < l2BlockSize then
    (lastCall calls (address &&& ~~~ lowBits 12)).map fun call =>
      ⟨call.physicalAddress + (address &&& lowBits 12), userAccess call.attributes⟩
  else if InRam address then some ⟨address, ramAccess⟩
  else if InDevice address then some ⟨address, deviceAccess⟩
  else none

section View

variable {layout : Layout} {memory : Word → Table} {calls : List UserCall} {address : Word}

theorem inRam_iff : InRam address ↔ 0x40000000 ≤ address.toNat ∧ address.toNat < 0x48000000 := by
  have hbase : QemuVirt.ramBase.toNat = 0x40000000 := by decide
  have hend : (QemuVirt.ramBase + QemuVirt.ramSize).toNat = 0x48000000 := by decide
  rw [InRam, BitVec.le_def, BitVec.lt_def, hbase, hend]

theorem inDevice_iff :
    InDevice address ↔ address.toNat / 2 ^ 21 = 64 ∨ address.toNat / 2 ^ 21 = 72
      ∨ address.toNat / 2 ^ 21 = 80
      ∨ 0x4010000000 ≤ address.toNat ∧ address.toNat < 0x4020000000 := by
  have hgic : gicdBase.toNat = 64 * 2 ^ 21 := by decide
  have hgicEnd : (gicdBase + l2BlockSize).toNat = 65 * 2 ^ 21 := by decide
  have huart : QemuVirt.uart0Base.toNat = 72 * 2 ^ 21 := by decide
  have huartEnd : (QemuVirt.uart0Base + l2BlockSize).toNat = 73 * 2 ^ 21 := by decide
  have hvirtio : QemuVirt.virtioMmioBase.toNat = 80 * 2 ^ 21 := by decide
  have hvirtioEnd : (QemuVirt.virtioMmioBase + l2BlockSize).toNat = 81 * 2 ^ 21 := by decide
  have hecam : QemuVirt.pciEcamBase.toNat = 0x4010000000 := by decide
  have hecamEnd : (QemuVirt.pciEcamBase + QemuVirt.pciEcamSize).toNat = 0x4020000000 := by decide
  simp only [InDevice, List.mem_cons, List.not_mem_nil, or_false, exists_eq_or_imp, exists_eq_left,
    BitVec.le_def, BitVec.lt_def, hgic, hgicEnd, huart, huartEnd, hvirtio, hvirtioEnd, hecam,
    hecamEnd]
  omega

theorem device_leaf : LeafAttributes false (deviceAttributes ||| descBlock) := by
  constructor <;> decide

theorem ram_leaf : LeafAttributes false (ramAttributes ||| descBlock) := by
  constructor <;> decide

theorem user_leaf (attributes : MmuUserAttributes) :
    LeafAttributes true (userAttributes attributes ||| descPage) := by
  cases attributes with
  | code => constructor <;> decide
  | data => constructor <;> decide

theorem user_access (attributes : MmuUserAttributes) :
    access (userAttributes attributes ||| descPage) 0 = userAccess attributes := by
  cases attributes with
  | code => decide
  | data => decide

/-- An address with its block mapped to itself. -/
theorem blockDescriptor_of_div {base attributes : Word} {block : Nat}
    (hbase : base.toNat = block * 2 ^ 21) (hblock : address.toNat / 2 ^ 21 = block) :
    blockDescriptor base attributes = blockDescriptor address attributes := by
  apply blockDescriptor_congr
  rw [hbase, hblock, Nat.mul_div_cancel _ (by decide)]

theorem run_l1 (layout : Layout) (calls : List UserCall) :
    (run layout calls).l1 = (buildTables layout).l1 := by
  obtain ⟨l3User, hrun, -⟩ := run_eq layout calls
  rw [hrun]

theorem run_l2Low (layout : Layout) (calls : List UserCall) :
    (run layout calls).l2Low = (buildTables layout).l2Low := by
  obtain ⟨l3User, hrun, -⟩ := run_eq layout calls
  rw [hrun]

theorem run_l2Ram (layout : Layout) (calls : List UserCall) :
    (run layout calls).l2Ram = (buildTables layout).l2Ram := by
  obtain ⟨l3User, hrun, -⟩ := run_eq layout calls
  rw [hrun]

theorem run_l2Pci (layout : Layout) (calls : List UserCall) :
    (run layout calls).l2Pci = (buildTables layout).l2Pci := by
  obtain ⟨l3User, hrun, -⟩ := run_eq layout calls
  rw [hrun]

/-- A page below the first block is translated by its entry in the user table. -/
theorem translate_user (haddress : address.toNat < 2 ^ 21) :
    translate layout memory (run layout calls) address = view calls address := by
  obtain ⟨l3User, hrun, hentries⟩ := run_eq layout calls
  have hl1 : (run layout calls).l1 (index address 30) = layout.l2Low ||| 3 := by
    have hindex : index address 30 = 0 := (index_eq_iff (by omega)).mpr (by omega)
    rw [run_l1, hindex, buildTables_l1, if_neg (by decide), if_neg (by decide), if_pos rfl]
  have hl2 : layout.read memory (run layout calls) layout.l2Low (index address 21)
      = layout.l3User ||| 3 := by
    have hindex : index address 21 = 0 := (index_eq_iff (by omega)).mpr (by omega)
    rw [layout.read_l2Low, run_l2Low, hindex, buildTables_l2Low, if_neg (by decide),
      if_neg (by decide), if_neg (by decide), if_pos rfl]
  have hl3 : layout.read memory (run layout calls) layout.l3User (index address 12)
      = encode ((lastCall calls (address &&& ~~~ lowBits 12)).map fun call =>
          ⟨call.physicalAddress.toNat, call.attributes⟩) := by
    rw [layout.read_l3User, hrun, ← userTable_apply calls haddress]
    exact hentries _
  have hbelow : address < l2BlockSize := haddress
  rw [translate_table (by omega) hl1 layout.fits_l2Low,
    @walkFrom_table _ _ _ _ _ 0 hl2 layout.fits_l3User, view, if_pos hbelow]
  cases hlast : lastCall calls (address &&& ~~~ lowBits 12) with
  | none =>
      rw [hlast] at hl3
      exact walkFrom_invalid hl3
  | some call =>
      have hfits : Fits 12 call.physicalAddress := by
        have hram := inRam_iff.mp call.physical_inRam
        exact fits_of_aligned le_rfl (by decide) (by omega) call.physical_aligned
      rw [hlast, Option.map_some, encode, BitVec.ofNat_toNat, BitVec.setWidth_eq] at hl3
      rw [walkFrom_page hl3 hfits (user_leaf _)
          ((unlimited_zero.or_table layout.fits_l2Low).or_table layout.fits_l3User),
        hfits.or_lowBits, user_access, Option.map_some]

theorem view_above (habove : 2 ^ 21 ≤ address.toNat) :
    view calls address
      = if InRam address then some ⟨address, ramAccess⟩
        else if InDevice address then some ⟨address, deviceAccess⟩
        else none := by
  have hnot : ¬ address < l2BlockSize := Nat.not_lt.mpr habove
  rw [view, if_neg hnot]

theorem translate_ram (habove : 2 ^ 21 ≤ address.toNat) (hl1 : address.toNat / 2 ^ 30 = 1) :
    translate layout memory (run layout calls) address = view calls address := by
  have hentry : (run layout calls).l1 (index address 30) = layout.l2Ram ||| 3 := by
    have hindex : index address 30 = 1 := (index_eq_iff (by omega)).mpr hl1
    rw [run_l1, hindex, buildTables_l1, if_neg (by decide), if_pos rfl]
  have hblock : layout.read memory (run layout calls) layout.l2Ram (index address 21)
      = if address.toNat < 0x48000000 then blockDescriptor address ramAttributes else 0 := by
    rw [layout.read_l2Ram, run_l2Ram, buildTables_l2Ram layout hl1]
  rw [view_above habove]
  by_cases hinside : address.toNat < 0x48000000
  · rw [if_pos hinside] at hblock
    rw [translate_block (by omega) hentry layout.fits_l2Ram hblock ram_leaf,
      if_pos (inRam_iff.mpr ⟨by omega, hinside⟩)]
    rfl
  · rw [if_neg hinside] at hblock
    rw [translate_none_of_l2 hentry layout.fits_l2Ram hblock,
      if_neg (fun hram => hinside (inRam_iff.mp hram).2), if_neg]
    rw [inDevice_iff]
    omega

theorem translate_pci (habove : 2 ^ 21 ≤ address.toNat) (hl1 : address.toNat / 2 ^ 30 = 256) :
    translate layout memory (run layout calls) address = view calls address := by
  have hentry : (run layout calls).l1 (index address 30) = layout.l2Pci ||| 3 := by
    have hindex : index address 30 = 256 := (index_eq_iff (by omega)).mpr hl1
    rw [run_l1, hindex, buildTables_l1, if_pos rfl]
  have hblock : layout.read memory (run layout calls) layout.l2Pci (index address 21)
      = if 0x4010000000 ≤ address.toNat ∧ address.toNat < 0x4020000000 then
          blockDescriptor address deviceAttributes
        else 0 := by
    rw [layout.read_l2Pci, run_l2Pci, buildTables_l2Pci layout hl1]
  have hram : ¬ InRam address := by
    rw [inRam_iff]
    omega
  rw [view_above habove, if_neg hram]
  by_cases hinside : 0x4010000000 ≤ address.toNat ∧ address.toNat < 0x4020000000
  · rw [if_pos hinside] at hblock
    rw [translate_block (by omega) hentry layout.fits_l2Pci hblock device_leaf,
      if_pos (inDevice_iff.mpr (Or.inr (Or.inr (Or.inr hinside))))]
    rfl
  · rw [if_neg hinside] at hblock
    rw [translate_none_of_l2 hentry layout.fits_l2Pci hblock, if_neg]
    rw [inDevice_iff]
    omega

theorem translate_low (habove : 2 ^ 21 ≤ address.toNat) (hl1 : address.toNat / 2 ^ 30 = 0) :
    translate layout memory (run layout calls) address = view calls address := by
  have hentry : (run layout calls).l1 (index address 30) = layout.l2Low ||| 3 := by
    have hindex : index address 30 = 0 := (index_eq_iff (by omega)).mpr hl1
    rw [run_l1, hindex, buildTables_l1, if_neg (by decide), if_neg (by decide), if_pos rfl]
  have hl2 : layout.read memory (run layout calls) layout.l2Low (index address 21)
      = (buildTables layout).l2Low (index address 21) := by
    rw [layout.read_l2Low, run_l2Low]
  have hindex : ∀ entry : Fin 512, index address 21 = entry ↔ address.toNat / 2 ^ 21 = entry.val :=
    fun entry => index_eq_iff (by omega)
  have hram : ¬ InRam address := by
    rw [inRam_iff]
    omega
  rw [buildTables_l2Low] at hl2
  rw [view_above habove, if_neg hram]
  by_cases hdevice : InDevice address
  · have hblock : layout.read memory (run layout calls) layout.l2Low (index address 21)
        = blockDescriptor address deviceAttributes := by
      have hgic : gicdBase.toNat = 64 * 2 ^ 21 := by decide
      have huart : QemuVirt.uart0Base.toNat = 72 * 2 ^ 21 := by decide
      have hvirtio : QemuVirt.virtioMmioBase.toNat = 80 * 2 ^ 21 := by decide
      rw [hl2]
      rcases inDevice_iff.mp hdevice with hblock | hblock | hblock | hecam
      · rw [(hindex 64).mpr hblock, if_neg (by decide), if_neg (by decide), if_pos rfl,
          blockDescriptor_of_div hgic hblock]
      · rw [(hindex 72).mpr hblock, if_neg (by decide), if_pos rfl,
          blockDescriptor_of_div huart hblock]
      · rw [(hindex 80).mpr hblock, if_pos rfl, blockDescriptor_of_div hvirtio hblock]
      · omega
    rw [translate_block (by omega) hentry layout.fits_l2Low hblock device_leaf, if_pos hdevice]
    rfl
  · rw [inDevice_iff] at hdevice
    rw [if_neg (by rw [hindex]; omega), if_neg (by rw [hindex]; omega),
      if_neg (by rw [hindex]; omega), if_neg (by rw [hindex]; omega)] at hl2
    rw [translate_none_of_l2 hentry layout.fits_l2Low hl2, if_neg (inDevice_iff.not.mpr hdevice)]

/-- The walk over the tables of a run, at any address. -/
theorem translate_run (layout : Layout) (memory : Word → Table) (calls : List UserCall)
    (address : Word) : translate layout memory (run layout calls) address = view calls address := by
  by_cases huser : address.toNat < 2 ^ 21
  · exact translate_user huser
  have habove : 2 ^ 21 ≤ address.toNat := Nat.le_of_not_lt huser
  by_cases hpci : address.toNat / 2 ^ 30 = 256
  · exact translate_pci habove hpci
  by_cases hram : address.toNat / 2 ^ 30 = 1
  · exact translate_ram habove hram
  by_cases hlow : address.toNat / 2 ^ 30 = 0
  · exact translate_low habove hlow
  have hview : view calls address = none := by
    rw [view_above habove, if_neg (by rw [inRam_iff]; omega), if_neg (by rw [inDevice_iff]; omega)]
  rw [hview]
  by_cases hwide : address.toNat < 2 ^ 39
  · apply translate_none_of_l1
    have hindex : ∀ entry : Fin 512, index address 30 = entry ↔ address.toNat / 2 ^ 30 = entry.val :=
      fun entry => index_eq_iff (by omega)
    rw [run_l1, buildTables_l1, if_neg ((hindex 256).not.mpr hpci), if_neg ((hindex 1).not.mpr hram),
      if_neg ((hindex 0).not.mpr hlow)]
  · rw [translate, walk, if_neg hwide]

/-- The walk and the table of pages agree on where a user address is. -/
theorem map_translate_eq_mmuTranslate (haddress : address.toNat < 2 ^ 21) :
    (translate layout memory (run layout calls) address).map (·.address.toNat)
      = mmuTranslate (userTable calls) address.toNat := by
  have hbelow : address < l2BlockSize := haddress
  have hindex : mmuL3Index address.toNat = (index address 12).val := rfl
  rw [translate_run, view, if_pos hbelow, mmuTranslate, hindex, userTable_apply calls haddress,
    Option.map_map, Option.map_map]
  apply Option.map_congr
  intro call _
  have hram := inRam_iff.mp call.physical_inRam
  simp only [Function.comp_apply, BitVec.toNat_add, toNat_and_lowBits (by decide : 12 < 64),
    mmuL3PageSize]
  omega

end View

/-! ### The meaning of the tables -/

/-- What EL0 can read or write has been mapped by a call. -/
theorem call_of_view {calls : List UserCall} {address : Word} {translation : Translation}
    (htranslate : view calls address = some translation)
    (haccess : translation.access.el0Read = true ∨ translation.access.el0Write = true) :
    ∃ call ∈ calls, call.virtualAddress = address &&& ~~~ lowBits 12
      ∧ translation.address = call.physicalAddress + (address &&& lowBits 12) := by
  unfold view at htranslate
  split at htranslate
  · obtain ⟨call, hlast, rfl⟩ := Option.map_eq_some_iff.mp htranslate
    have hpage : call.virtualAddress = address &&& ~~~ lowBits 12 := by
      simpa using List.find?_some hlast
    exact ⟨call, List.mem_reverse.mp (List.mem_of_find?_eq_some hlast), hpage, rfl⟩
  · exfalso
    split at htranslate
    · cases htranslate
      rcases haccess with hread | hwrite
      · cases hread
      · cases hwrite
    · split at htranslate
      · cases htranslate
        rcases haccess with hread | hwrite
        · cases hread
        · cases hwrite
      · cases htranslate

/-- The platform is mapped to itself and closed to EL0, a user page is as its last call left it, as the
loader of programs sees it too, and EL0 can reach nothing but the pages of calls. -/
theorem mmu_tables_meaning (layout : Layout) (memory : Word → Table) (calls : List UserCall) :
    (∀ address, InRam address ∨ InDevice address →
        ∃ access, translate layout memory (run layout calls) address = some ⟨address, access⟩
          ∧ access.el0Read = false ∧ access.el0Write = false)
      ∧ (∀ address, address < 0x200000 →
          translate layout memory (run layout calls) address
            = (lastCall calls (address &&& ~~~ 0xfff)).map fun call =>
                ⟨call.physicalAddress + (address &&& 0xfff), userAccess call.attributes⟩)
      ∧ (∀ address, address < 0x200000 →
          (translate layout memory (run layout calls) address).map (·.address.toNat)
            = mmuTranslate (userTable calls) address.toNat)
      ∧ ∀ address translation,
          translate layout memory (run layout calls) address = some translation →
          translation.access.el0Read = true ∨ translation.access.el0Write = true →
          ∃ call ∈ calls, call.virtualAddress = address &&& ~~~ 0xfff
            ∧ translation.address = call.physicalAddress + (address &&& 0xfff) := by
  have hlow : (0xfff : Word) = lowBits 12 := by decide
  have hloader : ∀ address : Word, address < 0x200000 →
      (translate layout memory (run layout calls) address).map (·.address.toNat)
        = mmuTranslate (userTable calls) address.toNat :=
    fun _ hbelow => map_translate_eq_mmuTranslate hbelow
  refine ⟨?_, ?_, hloader, ?_⟩
  all_goals simp only [translate_run, hlow]
  · intro address hplatform
    have habove : 2 ^ 21 ≤ address.toNat := by
      rw [inRam_iff, inDevice_iff] at hplatform
      omega
    rw [view_above habove]
    by_cases hram : InRam address
    · exact ⟨ramAccess, if_pos hram, rfl, rfl⟩
    · refine ⟨deviceAccess, ?_, rfl, rfl⟩
      rw [if_neg hram, if_pos (hplatform.resolve_left hram)]
  · intro address hbelow
    exact if_pos hbelow
  · intro address translation htranslate haccess
    exact call_of_view htranslate haccess

def dataCall : UserCall :=
  ⟨0x10000, 0x40300000, .data, by decide, by decide, by decide, by decide, by decide⟩

/-- A page mapped as data and then as code. -/
def twoCalls : List UserCall :=
  [dataCall,
    ⟨0x10000, 0x40301000, .code, by decide, by decide, by decide, by decide, by decide⟩]

theorem mmu_tables_meaning_twoCalls :
    translate default (fun _ _ => 0) (run default twoCalls) 0x10008
        = some ⟨0x40301008, userAccess .code⟩
      ∧ translate default (fun _ _ => 0) (run default twoCalls) 0x11000 = none := by
  obtain ⟨-, hpages, -⟩ := mmu_tables_meaning default (fun _ _ => 0) twoCalls
  refine ⟨?_, ?_⟩
  · rw [hpages _ (by decide)]
    decide
  · rw [hpages _ (by decide)]
    decide

end Mmu

end DuckOs

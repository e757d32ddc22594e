import DuckOs.Arch.Mmu
import DuckOs.Lib.TranslationTable

/-!
# Building the page tables

The tables that `mmu_build_tables` of `src/arch/aarch64/mmu.c` fills for the qemu-virt platform, word
by word, and the entries that `mmu_map_user_code_page` and `mmu_map_user_data_page` write into
`mmu_l3_user_table` afterwards.
-/

namespace DuckOs

open TranslationTable

/-- The distributor; the CPU interface `GICC_BASE` is 64 KiB above it. -/
def gicdBase : Word := 0x08000000

namespace QemuVirt

def uart0Base : Word := 0x09000000

def virtioMmioBase : Word := 0x0a000000

def pciEcamBase : Word := 0x4010000000

def pciEcamSize : Word := 0x10000000

def ramBase : Word := 0x40000000

def ramSize : Word := 128 * 1024 * 1024

end QemuVirt

namespace Mmu

def l1BlockSize : Word := 0x40000000

def l2BlockSize : Word := 0x00200000

def l3PageSize : Word := 0x00001000

def descValid : Word := 1 <<< 0
def descTable : Word := 1 <<< 1
def descBlock : Word := descValid
def descPage : Word := descValid ||| descTable
def descAf : Word := 1 <<< 10
def descShInner : Word := 3 <<< 8
def descAttrDevice : Word := 0 <<< 2
def descAttrNormal : Word := 1 <<< 2
def descApUserRw : Word := 1 <<< 6
def descApUserRo : Word := 3 <<< 6
def descPxn : Word := 1 <<< 53
def descUxn : Word := 1 <<< 54

/-- `value & 0x1ff`, an index into a table. -/
def entryIndex (value : Word) : Fin 512 :=
  ⟨(value &&& 0x1ff).toNat, by
    rw [BitVec.toNat_and]
    exact Nat.and_lt_two_pow _ (by decide : (0x1ff : Word).toNat < 2 ^ 9)⟩

def l1Index (address : Word) : Fin 512 := entryIndex (address / l1BlockSize)

def l2Index (address : Word) : Fin 512 := entryIndex (address / l2BlockSize)

def l3Index (address : Word) : Fin 512 := entryIndex (address / l3PageSize)

/-- The five tables. -/
structure Tables where
  l1 : Table
  l2Low : Table
  l2Ram : Table
  l2Pci : Table
  l3User : Table

/-- Where the linker has put them: five objects in RAM, with an alignment of 4096. -/
structure Layout where
  l1 : Word
  l2Low : Word
  l2Ram : Word
  l2Pci : Word
  l3User : Word
  distinct : [l1, l2Low, l2Ram, l2Pci, l3User].Nodup
  aligned : ∀ table ∈ [l1, l2Low, l2Ram, l2Pci, l3User], table.toNat % 4096 = 0
  inRam : ∀ table ∈ [l1, l2Low, l2Ram, l2Pci, l3User],
    QemuVirt.ramBase ≤ table ∧ table < QemuVirt.ramBase + QemuVirt.ramSize

instance : Inhabited Layout where
  default := {
    l1 := 0x40200000
    l2Low := 0x40201000
    l2Ram := 0x40202000
    l2Pci := 0x40203000
    l3User := 0x40204000
    distinct := by decide
    aligned := by simp
    inRam := by simp [QemuVirt.ramBase, QemuVirt.ramSize] }

/-- What is in memory at the address of a table. -/
def Layout.read (layout : Layout) (memory : Word → Table) (tables : Tables) (address : Word) : Table :=
  if address = layout.l1 then tables.l1
  else if address = layout.l2Low then tables.l2Low
  else if address = layout.l2Ram then tables.l2Ram
  else if address = layout.l2Pci then tables.l2Pci
  else if address = layout.l3User then tables.l3User
  else memory address

def mapL1Table (l1 : Table) (virtualAddress table : Word) : Table :=
  Function.update l1 (l1Index virtualAddress) ((table &&& ~~~ 0xfff) ||| descValid ||| descTable)

def mapL2Block (table : Table) (address attributes : Word) : Table :=
  Function.update table (l2Index address)
    ((address &&& ~~~ (l2BlockSize - 1)) ||| attributes ||| descBlock)

def mapL2Table (table : Table) (virtualAddress nextTable : Word) : Table :=
  Function.update table (l2Index virtualAddress)
    ((nextTable &&& ~~~ 0xfff) ||| descValid ||| descTable)

def mapL3Page (table : Table) (virtualAddress physicalAddress attributes : Word) : Table :=
  Function.update table (l3Index virtualAddress)
    ((physicalAddress &&& ~~~ (l3PageSize - 1)) ||| attributes ||| descPage)

def deviceAttributes : Word := descAf ||| descAttrDevice ||| descPxn ||| descUxn

def ramAttributes : Word := descAf ||| descShInner ||| descAttrNormal

/-- The loops over blocks. A table has 512 of them, which is enough for both ranges. -/
def mapL2Blocks (attributes stop : Word) : (fuel : Nat) → (address : Word) → Table → Table
  | 0, _, table => table
  | fuel + 1, address, table =>
      if address < stop then
        mapL2Blocks attributes stop fuel (address + l2BlockSize)
          (mapL2Block table address attributes)
      else table

def buildTables (layout : Layout) : Tables :=
  let l1 : Table := fun _ => 0
  let l2Low : Table := fun _ => 0
  let l2Ram : Table := fun _ => 0
  let l2Pci : Table := fun _ => 0
  let l3User : Table := fun _ => 0
  let l1 := mapL1Table l1 0x00000000 layout.l2Low
  let l1 := mapL1Table l1 QemuVirt.ramBase layout.l2Ram
  let l2Low := mapL2Table l2Low 0x00000000 layout.l3User
  let l1 :=
    if QemuVirt.pciEcamBase ≠ 0 ∧ QemuVirt.pciEcamSize ≠ 0 then
      mapL1Table l1 QemuVirt.pciEcamBase layout.l2Pci
    else l1
  let l2Low := mapL2Block l2Low gicdBase deviceAttributes
  let l2Low := mapL2Block l2Low QemuVirt.uart0Base deviceAttributes
  let l2Low := mapL2Block l2Low QemuVirt.virtioMmioBase deviceAttributes
  let ramEnd := QemuVirt.ramBase + QemuVirt.ramSize
  let l2Ram := mapL2Blocks ramAttributes ramEnd 512 QemuVirt.ramBase l2Ram
  let pciEcamEnd := QemuVirt.pciEcamBase + QemuVirt.pciEcamSize
  let l2Pci := mapL2Blocks deviceAttributes pciEcamEnd 512 QemuVirt.pciEcamBase l2Pci
  ⟨l1, l2Low, l2Ram, l2Pci, l3User⟩

def mapUserPage (tables : Tables) (virtualAddress physicalAddress attributes : Word) : Tables :=
  { tables with l3User := mapL3Page tables.l3User virtualAddress physicalAddress attributes }

def userAttributes : MmuUserAttributes → Word
  | .code => descAf ||| descShInner ||| descAttrNormal ||| descApUserRo ||| descPxn
  | .data => descAf ||| descShInner ||| descAttrNormal ||| descApUserRw ||| descPxn ||| descUxn

def mapUserCodePage (tables : Tables) (virtualAddress physicalAddress : Word) : Tables :=
  mapUserPage tables virtualAddress physicalAddress (userAttributes .code)

def mapUserDataPage (tables : Tables) (virtualAddress physicalAddress : Word) : Tables :=
  mapUserPage tables virtualAddress physicalAddress (userAttributes .data)

/-! ### Runs -/

/-- A call of `mmu_map_user_code_page` or `mmu_map_user_data_page` for a page of the user range. -/
structure UserCall where
  virtualAddress : Word
  physicalAddress : Word
  attributes : MmuUserAttributes
  virtual_aligned : virtualAddress.toNat % 4096 = 0
  virtual_le : 0x10000 ≤ virtualAddress
  virtual_lt : virtualAddress < 0x200000
  physical_aligned : physicalAddress.toNat % 4096 = 0
  physical_inRam : QemuVirt.ramBase ≤ physicalAddress
    ∧ physicalAddress < QemuVirt.ramBase + QemuVirt.ramSize

def userStep (tables : Tables) (call : UserCall) : Tables :=
  match call.attributes with
  | .code => mapUserCodePage tables call.virtualAddress call.physicalAddress
  | .data => mapUserDataPage tables call.virtualAddress call.physicalAddress

/-- The tables after `mmu_init` and a sequence of calls. -/
def run (layout : Layout) (calls : List UserCall) : Tables :=
  calls.foldl userStep (buildTables layout)

/-- The walk from `ttbr0_el1`, which `mmu_init` sets to `mmu_l1_table`. -/
def translate (layout : Layout) (memory : Word → Table) (tables : Tables) (address : Word) :
    Option Translation :=
  walk (layout.read memory tables) layout.l1 address

end Mmu

end DuckOs

import Mathlib.Logic.Function.Basic

/-!
# User page tables

The part of `src/arch/aarch64/mmu.c` that maps pages for EL0: `mmu_l3_user_table` translates the
first 2 MiB of addresses. A descriptor is kept as the page it points to and its attributes.
-/

namespace DuckOs

def mmuTableEntries : Nat := 512

def mmuL3PageSize : Nat := 0x1000

/-- What `mmu_map_user_code_page` and `mmu_map_user_data_page` pass on: readable and executable, or
readable and writable. -/
inductive MmuUserAttributes where
  | code
  | data
  deriving DecidableEq

structure MmuL3Descriptor where
  page : Nat
  attributes : MmuUserAttributes
  deriving DecidableEq

/-- `mmu_l3_user_table`; `none` is an invalid entry. -/
abbrev MmuL3Table := Nat → Option MmuL3Descriptor

def mmuL3Index (address : Nat) : Nat := address / mmuL3PageSize % mmuTableEntries

def mmuMapL3Page (table : MmuL3Table) (virtualAddress physicalAddress : Nat)
    (attributes : MmuUserAttributes) : MmuL3Table :=
  Function.update table (mmuL3Index virtualAddress)
    (some ⟨physicalAddress / mmuL3PageSize * mmuL3PageSize, attributes⟩)

def mmuMapUserCodePage (table : MmuL3Table) (virtualAddress physicalAddress : Nat) : MmuL3Table :=
  mmuMapL3Page table virtualAddress physicalAddress .code

def mmuMapUserDataPage (table : MmuL3Table) (virtualAddress physicalAddress : Nat) : MmuL3Table :=
  mmuMapL3Page table virtualAddress physicalAddress .data

/-- The physical address behind an address below 2 MiB. -/
def mmuTranslate (table : MmuL3Table) (address : Nat) : Option Nat :=
  (table (mmuL3Index address)).map fun descriptor => descriptor.page + address % mmuL3PageSize

end DuckOs

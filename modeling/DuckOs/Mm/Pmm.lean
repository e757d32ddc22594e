import DuckOs.Lib.Bitmap

/-!
# Physical memory

`src/kernel/memory_layout.c`, `src/mm/pmm.c` and `src/kernel/kmalloc.c`. The page allocator keeps one
bit per page of RAM in a bitmap placed behind the kernel image; the heap is a bump pointer. The two
share only `first_free_phys`. Their static variables are the fields of `MemoryState`.
-/

namespace DuckOs

def pmmPageSize : Nat := 4096

/-- `QEMU_VIRT_RAM_BASE`. -/
def platformGetRamBase : Nat := 0x40000000

/-- What the board and the linker fix: the size of RAM, in whole pages, and a kernel image that lies
in it. -/
structure Platform where
  ramSize : Nat
  kernelStart : Nat
  kernelEnd : Nat
  ramSize_pos : 0 < ramSize
  ramSize_dvd : pmmPageSize ∣ ramSize
  ramEnd_lt : platformGetRamBase + ramSize < 2 ^ 64
  kernelStart_ge : platformGetRamBase ≤ kernelStart
  kernelEnd_ge : platformGetRamBase ≤ kernelEnd
  kernelEnd_le : kernelEnd ≤ platformGetRamBase + ramSize

/-- The kernel may be loaded at the start of the RAM. -/
theorem platformGetRamBase_le_start : platformGetRamBase ≤ 0x40000000 := by decide

def memoryLayoutRamStart : Nat := platformGetRamBase

def memoryLayoutRamEnd (platform : Platform) : Nat := platformGetRamBase + platform.ramSize

structure MemoryState where
  firstFreePhys : Nat
  pmmBitmap : List (BitVec 64)
  pmmBitmapBytes : Nat
  pmmPageCount : Nat
  pmmUsedCount : Nat
  pmmInitialized : Bool
  heapStart : Nat
  heapCurrent : Nat
  heapLimit : Nat
  deriving DecidableEq

/-- The static variables at boot. `firstFree` is 0 unless something has already claimed memory
behind the kernel image. -/
def MemoryState.boot (firstFree : Nat) : MemoryState :=
  ⟨firstFree, [], 0, 0, 0, false, 0, 0, 0⟩

def memoryLayoutFirstFreePhys (platform : Platform) (memory : MemoryState) : Nat :=
  if memory.firstFreePhys = 0 then platform.kernelEnd else memory.firstFreePhys

/-! ### The page allocator -/

def alignUpPage (value : Nat) : Nat :=
  (value + (pmmPageSize - 1)) % 2 ^ 64 / pmmPageSize * pmmPageSize

def alignDownPage (value : Nat) : Nat := value / pmmPageSize * pmmPageSize

def pmmReservePage (memory : MemoryState) (pageIndex : Nat) : MemoryState :=
  if Bitmap.testBit memory.pmmBitmap pageIndex then memory
  else
    { memory with
      pmmBitmap := Bitmap.setBit memory.pmmBitmap pageIndex
      pmmUsedCount := memory.pmmUsedCount + 1 }

/-- The loop of `pmm_reserve_range`, `current` stepping from page to page. -/
def pmmReserveLoop (stop : Nat) : (fuel current : Nat) → MemoryState → MemoryState
  | 0, _, memory => memory
  | fuel + 1, current, memory =>
      if current < stop then
        pmmReserveLoop stop fuel (current + pmmPageSize)
          (pmmReservePage memory ((current - memoryLayoutRamStart) / pmmPageSize))
      else memory

/-- Every round moves on by a page, so `stop` rounds are enough. -/
def pmmReserveRange (memory : MemoryState) (start stop : Nat) : MemoryState :=
  if stop ≤ start then memory
  else
    pmmReserveLoop (alignUpPage stop) ((alignUpPage stop - alignDownPage start) / pmmPageSize + 1)
      (alignDownPage start) memory

/-- Where `pmm_init` puts the bitmap, and how many bytes it takes. -/
def pmmBitmapStart (platform : Platform) (memory : MemoryState) : Nat :=
  alignUpPage (memoryLayoutFirstFreePhys platform memory)

def pmmBitmapSize (platform : Platform) : Nat :=
  alignUpPage ((platform.ramSize / pmmPageSize + 7) / 8)

def pmmInit (platform : Platform) (memory : MemoryState) : MemoryState :=
  if memory.pmmInitialized then memory
  else
    let bitmapStart := pmmBitmapStart platform memory
    let bitmapEnd := bitmapStart + pmmBitmapSize platform
    let cleared := { memory with
      pmmPageCount := platform.ramSize / pmmPageSize
      pmmBitmapBytes := pmmBitmapSize platform
      pmmBitmap := List.replicate (pmmBitmapSize platform / 8) 0 }
    let reserved := pmmReserveRange (pmmReserveRange cleared platform.kernelStart platform.kernelEnd)
      bitmapStart bitmapEnd
    { reserved with firstFreePhys := bitmapEnd, pmmInitialized := true }

/-- The lowest page whose bit is clear: the loop of `pmm_alloc_page`. -/
def pmmLowestFree (memory : MemoryState) : Option Nat :=
  (List.range memory.pmmPageCount).find? fun pageIndex =>
    !Bitmap.testBit memory.pmmBitmap pageIndex

/-- Return value 0 when no page is free. -/
def pmmAllocPage (platform : Platform) (memory : MemoryState) : Nat × MemoryState :=
  let memory := pmmInit platform memory
  match pmmLowestFree memory with
  | none => (0, memory)
  | some pageIndex =>
      (memoryLayoutRamStart + pageIndex * pmmPageSize,
        { memory with
          pmmBitmap := Bitmap.setBit memory.pmmBitmap pageIndex
          pmmUsedCount := memory.pmmUsedCount + 1 })

/-- The messages `pmm_free_page` panics with. -/
inductive PmmPanic where
  | outOfRange
  | notAligned
  | alreadyFree
  deriving DecidableEq

def pmmFreePage (platform : Platform) (memory : MemoryState) (address : Nat) :
    Except PmmPanic MemoryState :=
  let memory := pmmInit platform memory
  if address < memoryLayoutRamStart ∨ memoryLayoutRamEnd platform ≤ address then
    .error .outOfRange
  else if address % pmmPageSize ≠ 0 then .error .notAligned
  else
    let pageIndex := (address - memoryLayoutRamStart) / pmmPageSize
    if !Bitmap.testBit memory.pmmBitmap pageIndex then .error .alreadyFree
    else
      .ok { memory with
        pmmBitmap := Bitmap.clearBit memory.pmmBitmap pageIndex
        pmmUsedCount := memory.pmmUsedCount - 1 }

/-! ### The heap -/

def alignUp16 (value : Nat) : Nat := (value + 15) % 2 ^ 64 / 16 * 16

def kmallocInit (platform : Platform) (memory : MemoryState) : MemoryState :=
  if memory.heapStart ≠ 0 then memory
  else
    let start := alignUp16 (memoryLayoutFirstFreePhys platform memory)
    { memory with
      heapStart := start, heapCurrent := start, heapLimit := memoryLayoutRamEnd platform }

/-- Return value 0 when the heap is exhausted. -/
def kmalloc (platform : Platform) (memory : MemoryState) (size : Nat) : Nat × MemoryState :=
  let memory := kmallocInit platform memory
  let blockStart := memory.heapCurrent
  let blockEnd := (blockStart + alignUp16 size) % 2 ^ 64
  if blockEnd < blockStart ∨ memory.heapLimit < blockEnd then (0, memory)
  else (blockStart, { memory with heapCurrent := blockEnd })

/-- `kzalloc` clears the bytes it returns, which neither allocator looks at. -/
def kzalloc (platform : Platform) (memory : MemoryState) (size : Nat) : Nat × MemoryState :=
  kmalloc platform memory size

def kmallocUsed (platform : Platform) (memory : MemoryState) : Nat :=
  let memory := kmallocInit platform memory
  memory.heapCurrent - memory.heapStart

/-! ### Runs -/

/-- States reached from `pmm_init` by allocating pages, freeing held ones and calls of the heap, with the pages
held. -/
inductive PmmReachable (platform : Platform) (firstFree : Nat) : MemoryState → Finset Nat → Prop where
  | init : PmmReachable platform firstFree (pmmInit platform (.boot firstFree)) ∅
  | alloc {memory : MemoryState} {held : Finset Nat}
      (hstate : PmmReachable platform firstFree memory held)
      (hpage : (pmmAllocPage platform memory).1 ≠ 0) :
      PmmReachable platform firstFree (pmmAllocPage platform memory).2
        (insert (pmmAllocPage platform memory).1 held)
  | allocFailed {memory : MemoryState} {held : Finset Nat}
      (hstate : PmmReachable platform firstFree memory held)
      (hpage : (pmmAllocPage platform memory).1 = 0) :
      PmmReachable platform firstFree (pmmAllocPage platform memory).2 held
  | free {memory next : MemoryState} {held : Finset Nat} {page : Nat}
      (hstate : PmmReachable platform firstFree memory held) (hpage : page ∈ held)
      (hfree : pmmFreePage platform memory page = .ok next) :
      PmmReachable platform firstFree next (held.erase page)
  | heap {memory : MemoryState} {held : Finset Nat} (size : Nat)
      (hstate : PmmReachable platform firstFree memory held) :
      PmmReachable platform firstFree (kmalloc platform memory size).2 held

inductive MemoryCall where
  | kmalloc (size : Nat)
  | kzalloc (size : Nat)
  | allocPage
  | freePage (page : Nat)

/-- The allocators' state with the pages held and the blocks handed out, as start and size. -/
structure MemoryRun where
  memory : MemoryState
  pages : Finset Nat
  blocks : List (Nat × Nat)

namespace MemoryRun

def boot (platform : Platform) : MemoryRun := ⟨pmmInit platform (.boot 0), ∅, []⟩

/-- Record the block a heap call returned, unless it failed. -/
def addBlock (run : MemoryRun) (result : Nat × MemoryState) (size : Nat) : MemoryRun :=
  if result.1 = 0 then { run with memory := result.2 }
  else { run with memory := result.2, blocks := run.blocks ++ [(result.1, size)] }

/-- A call; a panic in `pmm_free_page` would stop the run. -/
def step (platform : Platform) (run : MemoryRun) : MemoryCall → MemoryRun
  | .kmalloc size => run.addBlock (DuckOs.kmalloc platform run.memory size) size
  | .kzalloc size => run.addBlock (DuckOs.kzalloc platform run.memory size) size
  | .allocPage =>
      let result := pmmAllocPage platform run.memory
      if result.1 = 0 then { run with memory := result.2 }
      else { run with memory := result.2, pages := insert result.1 run.pages }
  | .freePage page =>
      match pmmFreePage platform run.memory page with
      | .ok memory => { run with memory := memory, pages := run.pages.erase page }
      | .error _ => run

/-- Sizes are below 2^32, and only held pages are freed. -/
def Allowed (run : MemoryRun) : MemoryCall → Prop
  | .kmalloc size => size < 2 ^ 32
  | .kzalloc size => size < 2 ^ 32
  | .allocPage => True
  | .freePage page => page ∈ run.pages

/-- No address belongs both to a held page and to a block. -/
def Disjoint (run : MemoryRun) : Prop :=
  ∀ page ∈ run.pages, ∀ block ∈ run.blocks, ∀ address,
    page ≤ address → address < page + pmmPageSize →
    ¬ (block.1 ≤ address ∧ address < block.1 + block.2)

end MemoryRun

end DuckOs

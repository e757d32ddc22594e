import DuckOs.Lib.Machine
import DuckOs.Proof.Pmm

/-!
# The page allocator and the heap

Both allocators serve the memory behind the bitmap. Blocks cover the heap from there on, so they end where the sum
of their sizes says. The two stay apart as long as the blocks end below the held pages behind the bitmap, and pages
are only taken from below the kernel image once there are blocks. Nothing in the code provides for either.
-/

namespace DuckOs

theorem alignUp16_eq {value : Nat} (hvalue : value + 15 < 2 ^ 64) :
    alignUp16 value = (value + 15) / 16 * 16 := by
  rw [alignUp16, Nat.mod_eq_of_lt hvalue]

/-- The end of the bitmap, where the heap starts. -/
def heapBase (platform : Platform) : Nat :=
  pmmBitmapStart platform (.boot 0) + pmmBitmapSize platform

namespace MemoryRun

/-- The bytes of the blocks, each size rounded up. -/
def heapBytes (run : MemoryRun) : Nat := (run.blocks.map fun block => alignUp16 block.2).sum

/-- The blocks and one more of this size end below every held page behind the bitmap, if RAM has room for them. -/
def RoomBelowPages (platform : Platform) (run : MemoryRun) (size : Nat) : Prop :=
  heapBase platform + run.heapBytes + alignUp16 size ≤ memoryLayoutRamEnd platform →
    ∀ page ∈ run.pages, heapBase platform ≤ page →
      heapBase platform + run.heapBytes + alignUp16 size ≤ page

/-- A page below the end of the bitmap is neither reserved nor held. -/
def PageBelowHeap (platform : Platform) (run : MemoryRun) : Prop :=
  ∃ index, pageAddress index < heapBase platform ∧ ¬ PageReserved platform 0 index
    ∧ pageAddress index ∉ run.pages

/-- The condition under which a call keeps the allocators apart. -/
def Apart (platform : Platform) (run : MemoryRun) : MemoryCall → Prop
  | .kmalloc size => run.RoomBelowPages platform size
  | .kzalloc size => run.RoomBelowPages platform size
  | .allocPage => run.heapBytes = 0 ∨ run.PageBelowHeap platform
  | .freePage _ => True

theorem heapBytes_append (memory : MemoryState) (pages : Finset Nat) (blocks : List (Nat × Nat))
    (block : Nat × Nat) : heapBytes ⟨memory, pages, blocks ++ [block]⟩
      = heapBytes ⟨memory, pages, blocks⟩ + alignUp16 block.2 := by
  rw [heapBytes, List.map_append, List.sum_append, List.map_singleton, List.sum_singleton]
  rfl

end MemoryRun

section Heap

variable {platform : Platform} {run : MemoryRun}

theorem heapBase_dvd (platform : Platform) : pmmPageSize ∣ heapBase platform := by
  simp only [heapBase, pmmBitmapStart, pmmBitmapSize, alignUpPage, pmmPageSize]
  exact Nat.dvd_add (Nat.dvd_mul_left _ _) (Nat.dvd_mul_left _ _)

/-- The heap of a run: unused, or blocks that cover it from the end of the bitmap on. -/
structure HeapInv (platform : Platform) (run : MemoryRun) : Prop where
  pmm : PmmInv platform 0 run.memory run.pages
  firstFree_eq : run.memory.firstFreePhys = heapBase platform
  unused : run.memory.heapStart = 0 → run.memory.heapCurrent = 0 ∧ run.blocks = []
  start_eq : run.memory.heapStart ≠ 0 → run.memory.heapStart = heapBase platform
    ∧ run.memory.heapLimit = memoryLayoutRamEnd platform
  bytes_eq : run.memory.heapStart ≠ 0 → run.memory.heapCurrent = heapBase platform + run.heapBytes
  current_ge : run.memory.heapStart ≤ run.memory.heapCurrent
  current_le : run.memory.heapCurrent ≤ memoryLayoutRamEnd platform
  current_dvd : 16 ∣ run.memory.heapCurrent
  blocks_inside : ∀ block ∈ run.blocks, run.memory.heapStart ≤ block.1
    ∧ block.1 + block.2 ≤ run.memory.heapCurrent
  blocks_cover : ∀ address, 16 ∣ address → run.memory.heapStart ≤ address →
    address < run.memory.heapCurrent →
    ∃ block ∈ run.blocks, block.1 ≤ address ∧ address < block.1 + block.2

theorem PmmInv.page_aligned {firstFree : Nat} {memory : MemoryState} {held : Finset Nat}
    (hinv : PmmInv platform firstFree memory held) {page : Nat} (hpage : page ∈ held) :
    pmmPageSize ∣ page := by
  obtain ⟨index, -, rfl, -⟩ := hinv.held_pages page hpage
  simp only [pageAddress, pmmPageSize, memoryLayoutRamStart, platformGetRamBase]
  omega

/-- Pages and blocks are disjoint exactly when no held page starts inside the heap. -/
theorem HeapInv.disjoint_iff (hinv : HeapInv platform run) :
    run.Disjoint ↔ ∀ page ∈ run.pages,
      ¬ (run.memory.heapStart ≤ page ∧ page < run.memory.heapCurrent) := by
  constructor
  · rintro hdisjoint page hpage ⟨hstart, hcurrent⟩
    have hdvd := hinv.pmm.page_aligned hpage
    simp only [pmmPageSize] at hdvd
    obtain ⟨block, hblock, hge, hlt⟩ :=
      hinv.blocks_cover page (by omega) hstart hcurrent
    exact hdisjoint page hpage block hblock page le_rfl (by simp [pmmPageSize]) ⟨hge, hlt⟩
  · rintro hapart page hpage block hblock address hge hlt ⟨hblockGe, hblockLt⟩
    have hinside := hinv.blocks_inside block hblock
    have hdvd := hinv.pmm.page_aligned hpage
    have hbase := heapBase_dvd platform
    have hused : run.memory.heapStart ≠ 0 := by
      intro hunused
      rw [(hinv.unused hunused).2] at hblock
      cases hblock
    have hstart := (hinv.start_eq hused).1
    simp only [pmmPageSize] at hdvd hbase hlt
    exact hapart page hpage ⟨by omega, by omega⟩

/-! ### The calls -/

/-- RAM ends on a page, so nothing behind its last page wraps. -/
theorem ramEnd_add_lt (platform : Platform) : memoryLayoutRamEnd platform + 4095 < 2 ^ 64 := by
  have hlt := platform.ramEnd_lt
  have hdvd := platform.ramSize_dvd
  simp only [memoryLayoutRamEnd, pmmPageSize, platformGetRamBase] at *
  omega

theorem kernelEnd_le_bitmapStart (platform : Platform) :
    platform.kernelEnd ≤ pmmBitmapStart platform (.boot 0) := by
  have hend := ramEnd_add_lt platform
  have hkernel := platform.kernelEnd_le
  have hfirst : memoryLayoutFirstFreePhys platform (.boot 0) = platform.kernelEnd := if_pos rfl
  simp only [memoryLayoutRamEnd] at hend
  rw [pmmBitmapStart, hfirst, alignUpPage_eq (by omega)]
  omega

theorem heapBase_le (hinside : BitmapInside platform 0) :
    memoryLayoutRamStart ≤ heapBase platform ∧ heapBase platform ≤ memoryLayoutRamEnd platform :=
  ⟨hinside.start_ge.trans (Nat.le_add_right _ _), hinside.end_le⟩

/-- Starting the heap changes nothing that the invariant mentions but its bounds. -/
theorem HeapInv.startHeap (hinside : BitmapInside platform 0) (hinv : HeapInv platform run) :
    HeapInv platform { run with memory := kmallocInit platform run.memory }
      ∧ (kmallocInit platform run.memory).heapStart ≠ 0 := by
  have hbase := heapBase_le hinside
  have hdvd := heapBase_dvd platform
  have hlt := ramEnd_add_lt platform
  have hpos : 0 < memoryLayoutRamStart := by decide
  simp only [pmmPageSize] at hdvd
  by_cases hused : run.memory.heapStart ≠ 0
  · rw [kmallocInit, if_pos hused]
    exact ⟨hinv, hused⟩
  · have hunused := hinv.unused (not_not.mp hused)
    have hfirst : memoryLayoutFirstFreePhys platform run.memory = heapBase platform := by
      rw [memoryLayoutFirstFreePhys, if_neg (by rw [hinv.firstFree_eq]; omega),
        hinv.firstFree_eq]
    have hstart : alignUp16 (heapBase platform) = heapBase platform := by
      rw [alignUp16_eq (by omega)]
      omega
    rw [kmallocInit, if_neg hused, hfirst, hstart]
    refine ⟨?_, by simp only; omega⟩
    exact {
      pmm := { hinv.pmm with }
      firstFree_eq := hinv.firstFree_eq
      unused := fun hzero => absurd hzero (by simp only; omega)
      start_eq := fun _ => ⟨rfl, rfl⟩
      bytes_eq := by
        intro _
        simp only [MemoryRun.heapBytes, hunused.2, List.map_nil, List.sum_nil, Nat.add_zero]
      current_ge := le_rfl
      current_le := hbase.2
      current_dvd := by simp only; omega
      blocks_inside := by simp [hunused.2]
      blocks_cover := by
        intro address _ hge hlt
        simp only at hge hlt
        omega }

theorem HeapInv.kmalloc_cases (hinside : BitmapInside platform 0) (hinv : HeapInv platform run)
    {size : Nat} (hsize : size < 2 ^ 32) :
    ((kmallocInit platform run.memory).heapCurrent + alignUp16 size
          ≤ memoryLayoutRamEnd platform
        ∧ kmalloc platform run.memory size = ((kmallocInit platform run.memory).heapCurrent,
          { kmallocInit platform run.memory with
            heapCurrent := (kmallocInit platform run.memory).heapCurrent + alignUp16 size }))
      ∨ (¬ (kmallocInit platform run.memory).heapCurrent + alignUp16 size
          ≤ memoryLayoutRamEnd platform
        ∧ kmalloc platform run.memory size = (0, kmallocInit platform run.memory)) := by
  obtain ⟨hinit, hused⟩ := hinv.startHeap hinside
  have hlimit := (hinit.start_eq hused).2
  have hle := hinit.current_le
  have hlt := ramEnd_add_lt platform
  have hsmall : alignUp16 size ≤ 2 ^ 32 := by
    rw [alignUp16_eq (by omega)]
    omega
  simp only at hlimit hle
  simp only [kmalloc, hlimit]
  generalize (kmallocInit platform run.memory).heapCurrent = current at hle ⊢
  by_cases hwrap : current + alignUp16 size < 2 ^ 64
  · rw [Nat.mod_eq_of_lt hwrap]
    by_cases hfits : current + alignUp16 size ≤ memoryLayoutRamEnd platform
    · exact Or.inl ⟨hfits, by rw [if_neg (by omega)]⟩
    · exact Or.inr ⟨hfits, by rw [if_pos (by omega)]⟩
  · refine Or.inr ⟨by omega, ?_⟩
    rw [Nat.mod_eq_sub_mod (by omega), Nat.mod_eq_of_lt (by omega), if_pos (by omega)]

/-- A heap call keeps the invariant and keeps blocks apart from pages exactly when the blocks have room below the
pages. -/
theorem HeapInv.addBlock (hinside : BitmapInside platform 0) (hinv : HeapInv platform run)
    (hdisjoint : run.Disjoint) {size : Nat} (hsize : size < 2 ^ 32) :
    HeapInv platform (run.addBlock (kmalloc platform run.memory size) size)
      ∧ ((run.addBlock (kmalloc platform run.memory size) size).Disjoint
        ↔ run.RoomBelowPages platform size) := by
  obtain ⟨hinit, hused⟩ := hinv.startHeap hinside
  have hbase := (hinit.start_eq hused).1
  have hbytes : (kmallocInit platform run.memory).heapCurrent = heapBase platform + run.heapBytes :=
    hinit.bytes_eq hused
  have hge := hinit.current_ge
  have hram := (heapBase_le hinside).1
  have hpos : 0 < memoryLayoutRamStart := by decide
  have hdvd := hinit.current_dvd
  have haligned : alignUp16 size = (size + 15) / 16 * 16 := alignUp16_eq (by omega)
  have hinitDisjoint : ∀ page ∈ run.pages,
      ¬ ((kmallocInit platform run.memory).heapStart ≤ page
        ∧ page < (kmallocInit platform run.memory).heapCurrent) :=
    hinit.disjoint_iff.mp hdisjoint
  simp only at hbase hge hdvd
  rcases hinv.kmalloc_cases hinside hsize with ⟨hfits, hresult⟩ | ⟨hfull, hresult⟩
  · rw [hresult, MemoryRun.addBlock, if_neg (by simp only; omega)]
    have hnext : HeapInv platform { run with
        memory := { kmallocInit platform run.memory with
          heapCurrent := (kmallocInit platform run.memory).heapCurrent + alignUp16 size }
        blocks := run.blocks ++ [((kmallocInit platform run.memory).heapCurrent, size)] } := {
      pmm := { hinit.pmm with }
      firstFree_eq := hinit.firstFree_eq
      unused := fun hzero => absurd hzero hused
      start_eq := hinit.start_eq
      bytes_eq := by
        intro _
        rw [MemoryRun.heapBytes_append, ← Nat.add_assoc]
        exact congrArg (· + alignUp16 size) hbytes
      current_ge := hge.trans (Nat.le_add_right _ _)
      current_le := hfits
      current_dvd := by simp only; omega
      blocks_inside := by
        intro block hblock
        rcases List.mem_append.mp hblock with hold | hnew
        · have hblockInside := hinit.blocks_inside block hold
          simp only at hblockInside ⊢
          omega
        · rw [List.mem_singleton.mp hnew]
          simp only
          omega
      blocks_cover := by
        intro address haddress hstart hcurrent
        simp only at hstart hcurrent
        by_cases hold : address < (kmallocInit platform run.memory).heapCurrent
        · obtain ⟨block, hblock, hcover⟩ := hinit.blocks_cover address haddress hstart hold
          exact ⟨block, List.mem_append_left _ hblock, hcover⟩
        · exact ⟨_, List.mem_append_right _ (List.mem_singleton.mpr rfl), by simp only; omega,
            by simp only; omega⟩ }
    refine ⟨hnext, ?_⟩
    rw [hnext.disjoint_iff, MemoryRun.RoomBelowPages, ← hbytes]
    simp only
    constructor
    · intro happart _ page hpage hbehind
      by_contra hmeets
      exact happart page hpage ⟨by omega, by omega⟩
    · intro hroom page hpage hinHeap
      have hbelow := hroom hfits page hpage (by omega)
      omega
  · rw [hresult, MemoryRun.addBlock, if_pos rfl]
    refine ⟨hinit, ?_⟩
    rw [hinit.disjoint_iff, MemoryRun.RoomBelowPages, ← hbytes]
    exact ⟨fun _ hfits => absurd hfits hfull, fun _ => hinitDisjoint⟩

/-- The first page behind the bitmap is not reserved. -/
theorem exists_heapBase_page (hinside : BitmapInside platform 0)
    (hroom : heapBase platform < memoryLayoutRamEnd platform) :
    ∃ index < platform.ramSize / pmmPageSize, pageAddress index = heapBase platform
      ∧ ¬ PageReserved platform 0 index := by
  have hle := heapBase_le hinside
  have hdvd := heapBase_dvd platform
  have hram := memoryLayoutRamEnd_eq platform
  have hindex : pageAddress ((heapBase platform - memoryLayoutRamStart) / pmmPageSize)
      = heapBase platform := by
    simp only [pageAddress, pmmPageSize, memoryLayoutRamStart, platformGetRamBase] at hle hdvd ⊢
    omega
  have hbitmap := kernelEnd_le_bitmapStart platform
  refine ⟨_, ?_, hindex, ?_⟩
  · rw [← pageAddress_lt_iff, hindex, ← hram]
    exact hroom
  · rw [PageReserved, PageOverlaps, PageOverlaps, hindex]
    have hbase : heapBase platform = pmmBitmapStart platform (.boot 0) + pmmBitmapSize platform := rfl
    omega

/-- With blocks, the first page behind the bitmap is theirs, so the bitmap has it as free. -/
theorem HeapInv.first_page_clear (hinside : BitmapInside platform 0) (hinv : HeapInv platform run)
    (hdisjoint : run.Disjoint) (hbytes : run.heapBytes ≠ 0) :
    run.memory.heapStart = heapBase platform
      ∧ run.memory.heapCurrent = heapBase platform + run.heapBytes
      ∧ ∃ index < run.memory.pmmPageCount, pageAddress index = heapBase platform
        ∧ Bitmap.testBit run.memory.pmmBitmap index = false := by
  have hused : run.memory.heapStart ≠ 0 := by
    intro hunused
    rw [MemoryRun.heapBytes, (hinv.unused hunused).2] at hbytes
    exact hbytes rfl
  have hstart := (hinv.start_eq hused).1
  have hcurrent := hinv.bytes_eq hused
  have hle := hinv.current_le
  obtain ⟨index, hindex, haddress, hfree⟩ := exists_heapBase_page hinside (by omega)
  rw [← hinv.pmm.pageCount_eq] at hindex
  refine ⟨hstart, hcurrent, index, hindex, haddress, ?_⟩
  rw [← Bool.not_eq_true, hinv.pmm.testBit_iff index hindex, not_or]
  refine ⟨hfree, fun hheld => hinv.disjoint_iff.mp hdisjoint _ hheld ⟨?_, ?_⟩⟩
  · rw [haddress, hstart]
  · rw [haddress, hcurrent]
    omega

theorem pageAddress_le_of_lowest {memory : MemoryState} {index other : Nat}
    (hlowest : pmmLowestFree memory = some index)
    (hclear : Bitmap.testBit memory.pmmBitmap other = false) : pageAddress index ≤ pageAddress other := by
  have hle := pmmLowestFree_le hlowest hclear
  rw [← Nat.not_lt, pageAddress_lt_iff]
  omega

/-- The lowest free page lies outside the heap exactly when there are no blocks, or a page below them is free. -/
theorem HeapInv.lowest_apart_iff (hinside : BitmapInside platform 0) (hinv : HeapInv platform run)
    (hdisjoint : run.Disjoint) {index : Nat} (hlowest : pmmLowestFree run.memory = some index)
    (hindex : index < run.memory.pmmPageCount)
    (hclear : Bitmap.testBit run.memory.pmmBitmap index = false) :
    ¬ (run.memory.heapStart ≤ pageAddress index ∧ pageAddress index < run.memory.heapCurrent)
      ↔ run.heapBytes = 0 ∨ run.PageBelowHeap platform := by
  constructor
  · intro houtside
    by_cases hbytes : run.heapBytes = 0
    · exact Or.inl hbytes
    · obtain ⟨hstart, hcurrent, first, -, haddress, hfirst⟩ :=
        hinv.first_page_clear hinside hdisjoint hbytes
      have hle := pageAddress_le_of_lowest hlowest hfirst
      have hfree := hinv.pmm.testBit_iff index hindex
      rw [hclear, iff_comm, iff_false_right Bool.false_ne_true, not_or] at hfree
      rw [hstart, hcurrent] at houtside
      exact Or.inr ⟨index, by omega, hfree⟩
  · rintro hapart ⟨hge, hlt⟩
    have hused : run.memory.heapStart ≠ 0 := by
      intro hunused
      rw [(hinv.unused hunused).1] at hlt
      exact Nat.not_lt_zero _ hlt
    rw [(hinv.start_eq hused).1] at hge
    rw [hinv.bytes_eq hused] at hlt
    rcases hapart with hbytes | ⟨other, hbelow, hother⟩
    · omega
    · have hend := memoryLayoutRamEnd_eq platform
      have hle := (heapBase_le hinside).2
      have hotherLt : other < run.memory.pmmPageCount := by
        rw [← pageAddress_lt_iff, hinv.pmm.pageCount_eq, ← hend]
        omega
      have hotherClear : Bitmap.testBit run.memory.pmmBitmap other = false := by
        rw [← Bool.not_eq_true, hinv.pmm.testBit_iff other hotherLt, not_or]
        exact hother
      have hpages := pageAddress_le_of_lowest hlowest hotherClear
      omega

/-- Allocating a page keeps the invariant and keeps pages apart from blocks exactly when there are no blocks, or a
page below them is free. -/
theorem HeapInv.allocPage (hinside : BitmapInside platform 0) (hinv : HeapInv platform run)
    (hdisjoint : run.Disjoint) :
    HeapInv platform (run.step platform .allocPage)
      ∧ ((run.step platform .allocPage).Disjoint ↔ run.Apart platform .allocPage) := by
  have hold := hinv.disjoint_iff.mp hdisjoint
  simp only [MemoryRun.step, MemoryRun.Apart]
  rcases hinv.pmm.alloc_cases with ⟨-, hfull, hall⟩ | ⟨index, hlowest, hindex, hclear, hresult⟩
  · rw [hfull, if_pos rfl]
    refine ⟨hinv, fun _ => Or.inl ?_, fun _ => hdisjoint⟩
    by_contra hbytes
    obtain ⟨-, -, first, hfirst, -, hfirstClear⟩ := hinv.first_page_clear hinside hdisjoint hbytes
    rw [hall first hfirst] at hfirstClear
    cases hfirstClear
  · have hpage : pageAddress index ≠ 0 := by
      simp only [pageAddress, memoryLayoutRamStart, platformGetRamBase]
      omega
    rw [hresult, if_neg hpage]
    have hnext : HeapInv platform { run with
        memory := { run.memory with
          pmmBitmap := Bitmap.setBit run.memory.pmmBitmap index
          pmmUsedCount := run.memory.pmmUsedCount + 1 }
        pages := insert (pageAddress index) run.pages } :=
      { hinv with pmm := hinv.pmm.alloc hindex hclear }
    refine ⟨hnext, ?_⟩
    rw [hnext.disjoint_iff, ← hinv.lowest_apart_iff hinside hdisjoint hlowest hindex hclear]
    constructor
    · intro happart
      exact happart (pageAddress index) (Finset.mem_insert_self _ _)
    · intro houtside page hmem
      rcases Finset.mem_insert.mp hmem with rfl | hmem
      · exact houtside
      · exact hold page hmem

theorem HeapInv.freePage (hinv : HeapInv platform run) (hdisjoint : run.Disjoint) {page : Nat}
    (hpage : page ∈ run.pages) :
    HeapInv platform (run.step platform (.freePage page))
      ∧ (run.step platform (.freePage page)).Disjoint := by
  obtain ⟨next, hfree, hpmm⟩ := hinv.pmm.free hpage
  have hnext : next = { run.memory with
      pmmBitmap := next.pmmBitmap, pmmUsedCount := next.pmmUsedCount } := by
    simp only [pmmFreePage, hinv.pmm.pmmInit_eq] at hfree
    split_ifs at hfree
    cases hfree
    rfl
  simp only [MemoryRun.step, hfree]
  refine ⟨?_, ?_⟩
  · rw [hnext] at hpmm ⊢
    exact { hinv with pmm := hpmm }
  · intro other hother
    exact hdisjoint other (Finset.mem_of_mem_erase hother)

/-- One call: the invariant is kept, and the allocators stay apart exactly when the call meets its
condition. -/
theorem HeapInv.step (hinside : BitmapInside platform 0) (hinv : HeapInv platform run)
    (hdisjoint : run.Disjoint) {call : MemoryCall} (hallowed : run.Allowed call) :
    HeapInv platform (run.step platform call)
      ∧ ((run.step platform call).Disjoint ↔ run.Apart platform call) := by
  cases call with
  | kmalloc size => exact hinv.addBlock hinside hdisjoint hallowed
  | kzalloc size => exact hinv.addBlock hinside hdisjoint hallowed
  | allocPage => exact hinv.allocPage hinside hdisjoint
  | freePage page =>
      obtain ⟨hnext, hapart⟩ := hinv.freePage hdisjoint hallowed
      exact ⟨hnext, fun _ => trivial, fun _ => hapart⟩

theorem pmmReserveLoop_heap (stop : Nat) :
    ∀ (fuel current : Nat) (memory : MemoryState),
      (pmmReserveLoop stop fuel current memory).heapStart = memory.heapStart
        ∧ (pmmReserveLoop stop fuel current memory).heapCurrent = memory.heapCurrent := by
  intro fuel
  induction fuel with
  | zero => exact fun _ _ => ⟨rfl, rfl⟩
  | succ fuel ih =>
      intro current memory
      rw [pmmReserveLoop]
      split
      · have hpage : ∀ index, (pmmReservePage memory index).heapStart = memory.heapStart
            ∧ (pmmReservePage memory index).heapCurrent = memory.heapCurrent := by
          intro index
          rw [pmmReservePage]
          split <;> exact ⟨rfl, rfl⟩
        obtain ⟨hstart, hcurrent⟩ := ih (current + pmmPageSize)
          (pmmReservePage memory ((current - memoryLayoutRamStart) / pmmPageSize))
        exact ⟨hstart.trans (hpage _).1, hcurrent.trans (hpage _).2⟩
      · exact ⟨rfl, rfl⟩

theorem pmmReserveRange_heap (memory : MemoryState) (start stop : Nat) :
    (pmmReserveRange memory start stop).heapStart = memory.heapStart
      ∧ (pmmReserveRange memory start stop).heapCurrent = memory.heapCurrent := by
  rw [pmmReserveRange]
  split
  · exact ⟨rfl, rfl⟩
  · exact pmmReserveLoop_heap _ _ _ _

theorem pmmInit_heap (platform : Platform) :
    (pmmInit platform (.boot 0)).heapStart = 0 ∧ (pmmInit platform (.boot 0)).heapCurrent = 0
      ∧ (pmmInit platform (.boot 0)).firstFreePhys = heapBase platform := by
  refine ⟨?_, ?_, rfl⟩
  · exact (pmmReserveRange_heap _ _ _).1.trans (pmmReserveRange_heap _ _ _).1
  · exact (pmmReserveRange_heap _ _ _).2.trans (pmmReserveRange_heap _ _ _).2

theorem heapInv_boot (hinside : BitmapInside platform 0) : HeapInv platform (.boot platform) := by
  obtain ⟨hstart, hcurrent, hfirst⟩ := pmmInit_heap platform
  exact {
    pmm := pmmInit_inv hinside
    firstFree_eq := hfirst
    unused := fun _ => ⟨hcurrent, rfl⟩
    start_eq := fun hused => absurd hstart hused
    bytes_eq := fun hused => absurd hstart hused
    current_ge := by simp only [MemoryRun.boot, hstart, hcurrent, le_refl]
    current_le := by simp only [MemoryRun.boot, hcurrent, Nat.zero_le]
    current_dvd := by simp only [MemoryRun.boot, hcurrent, Nat.dvd_zero]
    blocks_inside := by simp [MemoryRun.boot]
    blocks_cover := by
      intro address _ _ hlt
      simp only [MemoryRun.boot, hcurrent] at hlt
      omega }

/-! ### Heap calls alone -/

/-- A heap that only heap calls have used. -/
def HeapOk (platform : Platform) (memory : MemoryState) : Prop :=
  ∃ blocks, HeapInv platform ⟨memory, ∅, blocks⟩

theorem heapOk_boot (hinside : BitmapInside platform 0) :
    HeapOk platform (pmmInit platform (.boot 0)) :=
  ⟨[], heapInv_boot hinside⟩

/-- A block lies between the old and the new end of the heap. -/
theorem HeapOk.kmalloc (hinside : BitmapInside platform 0) {memory : MemoryState}
    (hheap : HeapOk platform memory) {size : Nat} (hsize : size < 2 ^ 32) :
    HeapOk platform (DuckOs.kmalloc platform memory size).2
      ∧ memory.heapCurrent ≤ (DuckOs.kmalloc platform memory size).2.heapCurrent
      ∧ ((DuckOs.kmalloc platform memory size).1 ≠ 0 →
        heapBase platform ≤ (DuckOs.kmalloc platform memory size).1
          ∧ 16 ∣ (DuckOs.kmalloc platform memory size).1
          ∧ memory.heapCurrent ≤ (DuckOs.kmalloc platform memory size).1
          ∧ (DuckOs.kmalloc platform memory size).1 + size
            ≤ (DuckOs.kmalloc platform memory size).2.heapCurrent) := by
  obtain ⟨blocks, hinv⟩ := hheap
  have hok : HeapOk platform (DuckOs.kmalloc platform memory size).2 := by
    obtain ⟨hnext, -⟩ := hinv.addBlock hinside (by simp [MemoryRun.Disjoint]) hsize
    rw [MemoryRun.addBlock] at hnext
    split at hnext
    · exact ⟨_, hnext⟩
    · exact ⟨_, hnext⟩
  obtain ⟨hinit, hused⟩ := hinv.startHeap hinside
  have hstart := (hinit.start_eq hused).1
  have hge := hinit.current_ge
  have hdvd := hinit.current_dvd
  have hgrown : memory.heapCurrent ≤ (kmallocInit platform memory).heapCurrent := by
    by_cases hunused : memory.heapStart = 0
    · rw [(hinv.unused hunused).1]
      exact Nat.zero_le _
    · rw [kmallocInit, if_pos hunused]
  have hsmall : size ≤ alignUp16 size := by
    rw [alignUp16_eq (by omega)]
    omega
  refine ⟨hok, ?_⟩
  rcases hinv.kmalloc_cases hinside hsize with ⟨-, hresult⟩ | ⟨-, hresult⟩
  · rw [hresult]
    simp only at hstart hge hdvd hgrown ⊢
    exact ⟨by omega, fun _ => ⟨by omega, hdvd, hgrown, by omega⟩⟩
  · rw [hresult]
    exact ⟨hgrown, fun habsurd => absurd rfl habsurd⟩

/-! ### A bitmap behind RAM -/

/-- A heap that would start behind the end of RAM, and that has never handed out a block. -/
structure HeapShut (platform : Platform) (run : MemoryRun) : Prop where
  initialized : run.memory.pmmInitialized = true
  firstFree_eq : run.memory.firstFreePhys = heapBase platform
  heap : run.memory.heapStart = 0 ∨ run.memory.heapCurrent = heapBase platform
    ∧ run.memory.heapLimit = memoryLayoutRamEnd platform
  blocks_eq : run.blocks = []

theorem heapShut_boot (platform : Platform) : HeapShut platform (.boot platform) :=
  ⟨rfl, (pmmInit_heap platform).2.2, Or.inl (pmmInit_heap platform).1, rfl⟩

/-- No block fits. -/
theorem HeapShut.addBlock (hshut : HeapShut platform run)
    (hbehind : memoryLayoutRamEnd platform < heapBase platform) (hbase : heapBase platform + 15 < 2 ^ 64)
    {size : Nat} (hsize : size < 2 ^ 32) :
    HeapShut platform (run.addBlock (kmalloc platform run.memory size) size) := by
  have hdvd := heapBase_dvd platform
  simp only [pmmPageSize] at hdvd
  have hinit : (kmallocInit platform run.memory).heapCurrent = heapBase platform
      ∧ (kmallocInit platform run.memory).heapLimit = memoryLayoutRamEnd platform
      ∧ (kmallocInit platform run.memory).pmmInitialized = true
      ∧ (kmallocInit platform run.memory).firstFreePhys = heapBase platform := by
    by_cases hunused : run.memory.heapStart = 0
    · have hfirst : memoryLayoutFirstFreePhys platform run.memory = heapBase platform := by
        rw [memoryLayoutFirstFreePhys, if_neg (by rw [hshut.firstFree_eq]; omega), hshut.firstFree_eq]
      rw [kmallocInit, if_neg (not_not_intro hunused), hfirst, alignUp16_eq hbase]
      exact ⟨by simp only; omega, rfl, hshut.initialized, hshut.firstFree_eq⟩
    · have hheap := hshut.heap.resolve_left hunused
      rw [kmallocInit, if_pos hunused]
      exact ⟨hheap.1, hheap.2, hshut.initialized, hshut.firstFree_eq⟩
  have hfull : kmalloc platform run.memory size = (0, kmallocInit platform run.memory) := by
    have haligned : alignUp16 size ≤ 2 ^ 32 := by
      rw [alignUp16_eq (by omega)]
      omega
    simp only [kmalloc, hinit.1, hinit.2.1]
    rw [if_pos]
    by_cases hwrap : heapBase platform + alignUp16 size < 2 ^ 64
    · rw [Nat.mod_eq_of_lt hwrap]
      omega
    · rw [Nat.mod_eq_sub_mod (by omega), Nat.mod_eq_of_lt (by omega)]
      omega
  rw [hfull, MemoryRun.addBlock, if_pos rfl]
  exact ⟨hinit.2.2.1, hinit.2.2.2, Or.inr ⟨hinit.1, hinit.2.1⟩, hshut.blocks_eq⟩

theorem HeapShut.step (hshut : HeapShut platform run)
    (hbehind : memoryLayoutRamEnd platform < heapBase platform) (hbase : heapBase platform + 15 < 2 ^ 64)
    {call : MemoryCall} (hallowed : run.Allowed call) : HeapShut platform (run.step platform call) := by
  have hinit : pmmInit platform run.memory = run.memory := by rw [pmmInit, if_pos hshut.initialized]
  cases call with
  | kmalloc size => exact hshut.addBlock hbehind hbase hallowed
  | kzalloc size => exact hshut.addBlock hbehind hbase hallowed
  | allocPage =>
      simp only [MemoryRun.step, pmmAllocPage, hinit]
      cases pmmLowestFree run.memory with
      | none => exact hshut
      | some index =>
          dsimp only
          split
          · exact { hshut with }
          · exact { hshut with }
  | freePage page =>
      simp only [MemoryRun.step, pmmFreePage, hinit]
      split
      · rename_i next hnext
        split_ifs at hnext
        cases hnext
        exact { hshut with }
      · exact hshut

theorem HeapShut.apart (hshut : HeapShut platform run)
    (hbehind : memoryLayoutRamEnd platform < heapBase platform) (call : MemoryCall) :
    run.Apart platform call := by
  have hroom : ∀ size, run.RoomBelowPages platform size := fun size hfits => by omega
  cases call with
  | kmalloc size => exact hroom size
  | kzalloc size => exact hroom size
  | allocPage => exact Or.inl (by rw [MemoryRun.heapBytes, hshut.blocks_eq]; rfl)
  | freePage page => trivial

theorem HeapShut.disjoint (hshut : HeapShut platform run) : run.Disjoint := by
  intro page _ block hblock
  rw [hshut.blocks_eq] at hblock
  exact absurd hblock List.not_mem_nil

/-- In the lower half of the address space the bitmap's end does not wrap. -/
theorem heapBase_add_lt (hram : memoryLayoutRamEnd platform ≤ 2 ^ 63) : heapBase platform + 15 < 2 ^ 64 := by
  have hend := platform.kernelEnd_le
  have hfirst : memoryLayoutFirstFreePhys platform (.boot 0) = platform.kernelEnd := if_pos rfl
  simp only [memoryLayoutRamEnd] at hram
  rw [heapBase, pmmBitmapStart, pmmBitmapSize, hfirst, pmmPageSize, alignUpPage_eq (by omega),
    alignUpPage_eq (by omega)]
  omega

end Heap

/-- Over any run of heap and page calls from `pmm_init`, held pages and blocks are disjoint at every state if and
only if every block is asked for while the blocks have room below the held pages behind the bitmap, and every page
while there are no blocks or a page below them is free. -/
theorem pages_disjoint_iff_apart (platform : Platform) (hram : memoryLayoutRamEnd platform ≤ 2 ^ 63)
    (calls : List MemoryCall)
    (hallowed : Machine.EveryStep (MemoryRun.step platform) MemoryRun.Allowed (.boot platform)
      calls) :
    Machine.Throughout (MemoryRun.step platform) MemoryRun.Disjoint (.boot platform) calls
      ↔ Machine.EveryStep (MemoryRun.step platform) (MemoryRun.Apart platform) (.boot platform)
        calls := by
  by_cases hfits : heapBase platform ≤ memoryLayoutRamEnd platform
  · have hinside : BitmapInside platform 0 :=
      ⟨platform.kernelEnd_ge.trans (kernelEnd_le_bitmapStart platform), hfits⟩
    exact Machine.throughout_iff_everyStep
      (fun _ _ hinv hdisjoint hcall => HeapInv.step hinside hinv hdisjoint hcall) calls
      (heapInv_boot hinside) (by simp [MemoryRun.Disjoint, MemoryRun.boot]) hallowed
  · -- the bitmap ends behind RAM, so no block fits and every call keeps the allocators apart
    have hbehind := Nat.lt_of_not_le hfits
    have hstart := heapShut_boot platform
    exact Machine.throughout_iff_everyStep
      (fun _ _ hshut _ hcall =>
        have hnext := hshut.step hbehind (heapBase_add_lt hram) hcall
        ⟨hnext, fun _ => hshut.apart hbehind _, fun _ => hnext.disjoint⟩) calls
      hstart hstart.disjoint hallowed

/-- Sixteen pages of RAM with a kernel image in the third, so that two pages below it are free. -/
def loadedPlatform : Platform :=
  { smallPlatform with
    kernelStart := 0x40002000
    kernelEnd := 0x40003000
    kernelStart_ge := by decide
    kernelEnd_ge := by decide
    kernelEnd_le := by decide }

/-- Pages below the kernel image and blocks behind the bitmap. -/
theorem pages_disjoint_loaded :
    Machine.Throughout (MemoryRun.step loadedPlatform) MemoryRun.Disjoint (.boot loadedPlatform)
        [.allocPage, .kmalloc 16, .allocPage, .kzalloc 5000]
      ∧ ([.allocPage, .kmalloc 16, .allocPage, .kzalloc 5000].foldl (MemoryRun.step loadedPlatform)
          (.boot loadedPlatform)).pages = {0x40000000, 0x40001000}
      ∧ ([.allocPage, .kmalloc 16, .allocPage, .kzalloc 5000].foldl (MemoryRun.step loadedPlatform)
          (.boot loadedPlatform)).blocks = [(0x40004000, 16), (0x40004010, 5000)] := by
  have hallowed : Machine.EveryStep (MemoryRun.step loadedPlatform) MemoryRun.Allowed (.boot loadedPlatform)
      [.allocPage, .kmalloc 16, .allocPage, .kzalloc 5000] :=
    ⟨trivial, (by decide : 16 < 2 ^ 32), trivial, (by decide : 5000 < 2 ^ 32), trivial⟩
  have hfree : ¬ PageReserved loadedPlatform 0 1 := by
    unfold PageReserved PageOverlaps
    decide
  refine ⟨(pages_disjoint_iff_apart loadedPlatform (by decide) _ hallowed).mpr
    ⟨Or.inl rfl, ?_, Or.inr ⟨1, by decide, hfree, by decide⟩, ?_, trivial⟩, by decide, by decide⟩
  · unfold MemoryRun.Apart MemoryRun.RoomBelowPages
    decide
  · unfold MemoryRun.Apart MemoryRun.RoomBelowPages
    decide

/-- The first heap block and the first free page behind the bitmap are the same memory. -/
theorem page_meets_block :
    ¬ Machine.Throughout (MemoryRun.step smallPlatform) MemoryRun.Disjoint (.boot smallPlatform)
      [.kmalloc 16, .allocPage] := by
  rintro ⟨-, -, hdisjoint⟩
  exact hdisjoint 0x40002000 (by decide) (0x40002000, 16) (by decide) 0x40002000
    (by decide) (by decide) (by decide)

end DuckOs

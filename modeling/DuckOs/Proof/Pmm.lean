import DuckOs.Mm.Pmm

/-!
# The page allocator

The invariant over all runs: the bits that are set are those of the reserved pages and of the pages
held, and the counter is their number.
-/

namespace DuckOs

/-- The address of a page of RAM. -/
def pageAddress (pageIndex : Nat) : Nat := memoryLayoutRamStart + pageIndex * pmmPageSize

/-- The page shares an address with `[start, stop)`. -/
def PageOverlaps (pageIndex start stop : Nat) : Prop :=
  start < stop ∧ pageAddress pageIndex < stop ∧ start < pageAddress pageIndex + pmmPageSize

theorem alignUpPage_eq {value : Nat} (hvalue : value + 4095 < 2 ^ 64) :
    alignUpPage value = (value + 4095) / 4096 * 4096 := by
  simp only [alignUpPage, pmmPageSize]
  rw [show value + (4096 - 1) = value + 4095 from rfl, Nat.mod_eq_of_lt hvalue]

theorem pageAddress_lt_iff {left right : Nat} : pageAddress left < pageAddress right ↔ left < right := by
  simp only [pageAddress, pmmPageSize]
  omega

theorem pageAddress_add (index : Nat) : pageAddress index + pmmPageSize = pageAddress (index + 1) := by
  simp only [pageAddress, pmmPageSize]
  omega

theorem pageAddress_index (index : Nat) :
    (pageAddress index - memoryLayoutRamStart) / pmmPageSize = index := by
  simp only [pageAddress, pmmPageSize]
  omega

/-! ### Reserving -/

/-- `next` is `memory` with the given pages marked as used and counted. -/
structure Reserves (memory next : MemoryState) (pages : Nat → Prop) : Prop where
  frame : next = { memory with
    pmmBitmap := next.pmmBitmap, pmmUsedCount := next.pmmUsedCount }
  length_eq : next.pmmBitmap.length = memory.pmmBitmap.length
  testBit_iff : ∀ index, Bitmap.testBit next.pmmBitmap index = true
    ↔ pages index ∨ Bitmap.testBit memory.pmmBitmap index = true
  count_eq : next.pmmUsedCount + Bitmap.count memory.pmmBitmap memory.pmmPageCount
    = memory.pmmUsedCount + Bitmap.count next.pmmBitmap memory.pmmPageCount

section Reserving

variable {memory middle next : MemoryState} {first second : Nat → Prop}

theorem Reserves.none (hpages : ∀ index, ¬ first index) : Reserves memory memory first where
  frame := rfl
  length_eq := rfl
  testBit_iff := by simp [hpages]
  count_eq := rfl

theorem Reserves.pageCount_eq (hreserves : Reserves memory next first) :
    next.pmmPageCount = memory.pmmPageCount := by
  rw [hreserves.frame]

theorem Reserves.trans (hfirst : Reserves memory middle first)
    (hsecond : Reserves middle next second) :
    Reserves memory next fun index => second index ∨ first index where
  frame := by
    have hframe := hsecond.frame
    rw [hfirst.frame] at hframe
    exact hframe
  length_eq := hsecond.length_eq.trans hfirst.length_eq
  testBit_iff := by
    intro index
    rw [hsecond.testBit_iff, hfirst.testBit_iff, or_assoc]
  count_eq := by
    have hcount := hfirst.count_eq
    have hcount' := hsecond.count_eq
    rw [hfirst.pageCount_eq] at hcount'
    omega

theorem Reserves.congr (hreserves : Reserves memory next first)
    (hpages : ∀ index, first index ↔ second index) : Reserves memory next second :=
  { hreserves with testBit_iff := fun index => by rw [hreserves.testBit_iff, hpages] }

theorem pmmReservePage_reserves {pageIndex : Nat}
    (hwords : memory.pmmPageCount ≤ 64 * memory.pmmBitmap.length)
    (hpage : pageIndex < memory.pmmPageCount) :
    Reserves memory (pmmReservePage memory pageIndex) (· = pageIndex) := by
  have hword : pageIndex / 64 < memory.pmmBitmap.length := by omega
  cases hbit : Bitmap.testBit memory.pmmBitmap pageIndex with
  | true =>
      rw [pmmReservePage, if_pos hbit]
      refine ⟨rfl, rfl, ?_, rfl⟩
      intro index
      constructor
      · exact Or.inr
      · rintro (rfl | hset)
        · exact hbit
        · exact hset
  | false =>
      rw [pmmReservePage, if_neg (by simp [hbit])]
      refine ⟨rfl, Bitmap.length_setBit, ?_, ?_⟩
      · intro index
        rw [Bitmap.testBit_setBit (by decide) hword, Bool.or_eq_true, decide_eq_true_eq]
      · simp only [Bitmap.count_setBit (by decide) hword hpage hbit]
        omega

theorem pmmReserveLoop_reserves {last : Nat} :
    ∀ (fuel current : Nat) (memory : MemoryState), last ≤ current + fuel →
      memory.pmmPageCount ≤ 64 * memory.pmmBitmap.length → last ≤ memory.pmmPageCount →
      Reserves memory (pmmReserveLoop (pageAddress last) fuel (pageAddress current) memory)
        fun index => current ≤ index ∧ index < last := by
  intro fuel
  induction fuel with
  | zero =>
      intro current memory hfuel _ _
      rw [pmmReserveLoop]
      exact Reserves.none fun index => by omega
  | succ fuel ih =>
      intro current memory hfuel hwords hlast
      rw [pmmReserveLoop, pageAddress_index, pageAddress_add]
      by_cases hmore : current < last
      · have hpage := pmmReservePage_reserves hwords (by omega : current < memory.pmmPageCount)
        have hrest := ih (current + 1) (pmmReservePage memory current) (by omega)
          (by rw [hpage.pageCount_eq, hpage.length_eq]; exact hwords)
          (by rw [hpage.pageCount_eq]; exact hlast)
        rw [if_pos (pageAddress_lt_iff.mpr hmore)]
        refine (hpage.trans hrest).congr ?_
        intro index
        omega
      · rw [if_neg (by rwa [pageAddress_lt_iff])]
        exact Reserves.none fun index => by omega

/-- `pmm_reserve_range` reserves the pages that overlap the range. -/
theorem pmmReserveRange_reserves (memory : MemoryState) {start stop ramEnd : Nat}
    (hwords : memory.pmmPageCount ≤ 64 * memory.pmmBitmap.length)
    (hstart : memoryLayoutRamStart ≤ start) (hstop : stop ≤ ramEnd)
    (hram : ramEnd = pageAddress memory.pmmPageCount) (hlt : ramEnd < 2 ^ 64) :
    Reserves memory (pmmReserveRange memory start stop) fun index => PageOverlaps index start stop := by
  simp only [pageAddress, pmmPageSize, memoryLayoutRamStart, platformGetRamBase] at hstart hram
  by_cases hempty : stop ≤ start
  · rw [pmmReserveRange, if_pos hempty]
    refine Reserves.none fun index => ?_
    rintro ⟨hrange, -⟩
    omega
  · rw [pmmReserveRange, if_neg hempty, alignUpPage_eq (by omega)]
    have hfirst : alignDownPage start = pageAddress (start / 4096 - 0x40000) := by
      simp only [alignDownPage, pageAddress, pmmPageSize, memoryLayoutRamStart, platformGetRamBase]
      omega
    have hlast : (stop + 4095) / 4096 * 4096
        = pageAddress ((stop + 4095) / 4096 - 0x40000) := by
      simp only [pageAddress, pmmPageSize, memoryLayoutRamStart, platformGetRamBase]
      omega
    rw [hfirst, hlast]
    refine (pmmReserveLoop_reserves _ _ memory ?_ hwords (by omega)).congr ?_
    · simp only [pageAddress, pmmPageSize, memoryLayoutRamStart, platformGetRamBase]
      omega
    · intro index
      simp only [PageOverlaps, pageAddress, pmmPageSize, memoryLayoutRamStart, platformGetRamBase]
      omega

end Reserving

/-! ### The invariant -/

section Invariant

variable {platform : Platform} {firstFree : Nat} {memory next : MemoryState} {held : Finset Nat}

/-- The bitmap `pmm_init` places behind `firstFree` lies in RAM. -/
structure BitmapInside (platform : Platform) (firstFree : Nat) : Prop where
  start_ge : memoryLayoutRamStart ≤ pmmBitmapStart platform (.boot firstFree)
  end_le : pmmBitmapStart platform (.boot firstFree) + pmmBitmapSize platform
    ≤ memoryLayoutRamEnd platform

/-- The page overlaps the kernel image or the bitmap. -/
def PageReserved (platform : Platform) (firstFree pageIndex : Nat) : Prop :=
  PageOverlaps pageIndex (pmmBitmapStart platform (.boot firstFree))
      (pmmBitmapStart platform (.boot firstFree) + pmmBitmapSize platform)
    ∨ PageOverlaps pageIndex platform.kernelStart platform.kernelEnd

structure PmmInv (platform : Platform) (firstFree : Nat) (memory : MemoryState)
    (held : Finset Nat) : Prop where
  initialized : memory.pmmInitialized = true
  pageCount_eq : memory.pmmPageCount = platform.ramSize / pmmPageSize
  words : memory.pmmPageCount ≤ 64 * memory.pmmBitmap.length
  used_eq : memory.pmmUsedCount = Bitmap.count memory.pmmBitmap memory.pmmPageCount
  testBit_iff : ∀ index < memory.pmmPageCount, Bitmap.testBit memory.pmmBitmap index = true
    ↔ PageReserved platform firstFree index ∨ pageAddress index ∈ held
  held_pages : ∀ page ∈ held, ∃ index < memory.pmmPageCount, page = pageAddress index
    ∧ ¬ PageReserved platform firstFree index

theorem pageAddress_inj {left right : Nat} (heq : pageAddress left = pageAddress right) :
    left = right := by
  simp only [pageAddress, pmmPageSize] at heq
  omega

theorem memoryLayoutRamEnd_eq (platform : Platform) :
    memoryLayoutRamEnd platform = pageAddress (platform.ramSize / pmmPageSize) := by
  have hdvd := platform.ramSize_dvd
  simp only [pmmPageSize] at hdvd
  simp only [memoryLayoutRamEnd, pageAddress, pmmPageSize, memoryLayoutRamStart]
  omega

theorem pmmBitmapSize_le (platform : Platform) :
    platform.ramSize / pmmPageSize ≤ 64 * (pmmBitmapSize platform / 8) := by
  have hlt := platform.ramEnd_lt
  simp only [platformGetRamBase] at hlt
  rw [pmmBitmapSize, pmmPageSize, alignUpPage_eq (by omega)]
  omega

/-- `pmm_init` marks exactly the pages of the kernel image and the bitmap. -/
theorem pmmInit_inv (hinside : BitmapInside platform firstFree) :
    PmmInv platform firstFree (pmmInit platform (.boot firstFree)) ∅ := by
  have hram := memoryLayoutRamEnd_eq platform
  have hlt : memoryLayoutRamEnd platform < 2 ^ 64 := platform.ramEnd_lt
  generalize hcleared : ({ MemoryState.boot firstFree with
    pmmPageCount := platform.ramSize / pmmPageSize
    pmmBitmapBytes := pmmBitmapSize platform
    pmmBitmap := List.replicate (pmmBitmapSize platform / 8) 0 } : MemoryState) = cleared
  have hcount : cleared.pmmPageCount = platform.ramSize / pmmPageSize := by rw [← hcleared]
  have hwords : cleared.pmmPageCount ≤ 64 * cleared.pmmBitmap.length := by
    rw [← hcleared]
    simpa using pmmBitmapSize_le platform
  have hkernel := pmmReserveRange_reserves cleared hwords platform.kernelStart_ge
    platform.kernelEnd_le (by rw [hcount]; exact hram) hlt
  have hbitmap := pmmReserveRange_reserves
    (pmmReserveRange cleared platform.kernelStart platform.kernelEnd)
    (by rw [hkernel.pageCount_eq, hkernel.length_eq]; exact hwords) hinside.start_ge
    hinside.end_le (by rw [hkernel.pageCount_eq, hcount]; exact hram) hlt
  have hboth := hkernel.trans hbitmap
  have hinit : pmmInit platform (.boot firstFree)
      = { pmmReserveRange (pmmReserveRange cleared platform.kernelStart platform.kernelEnd)
            (pmmBitmapStart platform (.boot firstFree))
            (pmmBitmapStart platform (.boot firstFree) + pmmBitmapSize platform) with
          firstFreePhys := pmmBitmapStart platform (.boot firstFree) + pmmBitmapSize platform
          pmmInitialized := true } := by
    rw [← hcleared]
    rfl
  rw [hinit]
  exact {
    initialized := rfl
    pageCount_eq := by rw [← hcount]; exact hboth.pageCount_eq
    words := by
      simp only [hboth.pageCount_eq, hboth.length_eq]
      exact hwords
    used_eq := by
      have hused := hboth.count_eq
      have hzero : cleared.pmmUsedCount = 0 := by rw [← hcleared]; rfl
      have hclear : Bitmap.count cleared.pmmBitmap cleared.pmmPageCount = 0 := by
        rw [← hcleared]
        exact Bitmap.count_replicate_zero _ _
      simp only [hboth.pageCount_eq]
      omega
    testBit_iff := by
      intro index _
      have hclear : Bitmap.testBit cleared.pmmBitmap index = false := by
        rw [← hcleared]
        exact Bitmap.testBit_replicate_zero _ _
      simp only [hboth.testBit_iff, hclear, PageReserved]
      simp
    held_pages := by simp }

theorem PmmInv.pmmInit_eq (hinv : PmmInv platform firstFree memory held) :
    pmmInit platform memory = memory := by
  rw [pmmInit, if_pos hinv.initialized]

/-- The scan stops at the lowest clear bit. -/
theorem pmmLowestFree_le {index : Nat} (hlowest : pmmLowestFree memory = some index) {other : Nat}
    (hclear : Bitmap.testBit memory.pmmBitmap other = false) : index ≤ other := by
  by_contra hlt
  have hset := (List.find?_range_eq_some.mp hlowest).2.2 other (Nat.lt_of_not_le hlt)
  rw [hclear] at hset
  cases hset

theorem PmmInv.alloc_cases (hinv : PmmInv platform firstFree memory held) :
    (pmmLowestFree memory = none ∧ pmmAllocPage platform memory = (0, memory)
        ∧ ∀ index < memory.pmmPageCount, Bitmap.testBit memory.pmmBitmap index = true)
      ∨ ∃ index, pmmLowestFree memory = some index ∧ index < memory.pmmPageCount
        ∧ Bitmap.testBit memory.pmmBitmap index = false
        ∧ pmmAllocPage platform memory = (pageAddress index, { memory with
            pmmBitmap := Bitmap.setBit memory.pmmBitmap index
            pmmUsedCount := memory.pmmUsedCount + 1 }) := by
  cases hfind : pmmLowestFree memory with
  | none =>
      refine Or.inl ⟨rfl, ?_, ?_⟩
      · simp only [pmmAllocPage, hinv.pmmInit_eq, hfind]
      · intro index hindex
        have hall := List.find?_eq_none.mp hfind index (List.mem_range.mpr hindex)
        simpa using hall
  | some index =>
      have hmem := List.mem_range.mp (List.mem_of_find?_eq_some hfind)
      have hclear := List.find?_some hfind
      refine Or.inr ⟨index, rfl, hmem, by simpa using hclear, ?_⟩
      simp only [pmmAllocPage, hinv.pmmInit_eq, hfind]
      rfl

theorem PmmInv.alloc (hinv : PmmInv platform firstFree memory held) {index : Nat}
    (hindex : index < memory.pmmPageCount)
    (hclear : Bitmap.testBit memory.pmmBitmap index = false) :
    PmmInv platform firstFree
      { memory with
        pmmBitmap := Bitmap.setBit memory.pmmBitmap index
        pmmUsedCount := memory.pmmUsedCount + 1 }
      (insert (pageAddress index) held) := by
  have hwords := hinv.words
  have hword : index / 64 < memory.pmmBitmap.length := by omega
  have hfree : ¬ PageReserved platform firstFree index := by
    intro hreserved
    rw [(hinv.testBit_iff index hindex).mpr (Or.inl hreserved)] at hclear
    cases hclear
  exact {
    initialized := hinv.initialized
    pageCount_eq := hinv.pageCount_eq
    words := by rw [Bitmap.length_setBit]; exact hinv.words
    used_eq := by
      rw [Bitmap.count_setBit (by decide) hword hindex hclear, ← hinv.used_eq]
    testBit_iff := by
      intro other hother
      rw [Bitmap.testBit_setBit (by decide) hword, Bool.or_eq_true, decide_eq_true_eq,
        hinv.testBit_iff other hother, Finset.mem_insert]
      have hsame : other = index ↔ pageAddress other = pageAddress index :=
        ⟨congrArg pageAddress, pageAddress_inj⟩
      rw [hsame]
      exact or_left_comm
    held_pages := by
      intro page hpage
      rcases Finset.mem_insert.mp hpage with rfl | hold
      · exact ⟨index, hindex, rfl, hfree⟩
      · exact hinv.held_pages page hold }

theorem PmmInv.free (hinv : PmmInv platform firstFree memory held) {page : Nat}
    (hpage : page ∈ held) :
    ∃ next, pmmFreePage platform memory page = .ok next
      ∧ PmmInv platform firstFree next (held.erase page) := by
  obtain ⟨index, hindex, rfl, hfree⟩ := hinv.held_pages page hpage
  have hwords := hinv.words
  have hword : index / 64 < memory.pmmBitmap.length := by omega
  have hset := (hinv.testBit_iff index hindex).mpr (Or.inr hpage)
  have hrange : ¬ (pageAddress index < memoryLayoutRamStart
      ∨ memoryLayoutRamEnd platform ≤ pageAddress index) := by
    rw [memoryLayoutRamEnd_eq, not_or, ← hinv.pageCount_eq, Nat.not_le, pageAddress_lt_iff]
    exact ⟨by simp [pageAddress], hindex⟩
  have haligned : ¬ pageAddress index % pmmPageSize ≠ 0 := by
    simp only [pageAddress, pmmPageSize, memoryLayoutRamStart, platformGetRamBase]
    omega
  refine ⟨{ memory with
    pmmBitmap := Bitmap.clearBit memory.pmmBitmap index
    pmmUsedCount := memory.pmmUsedCount - 1 }, ?_, ?_⟩
  · simp only [pmmFreePage, hinv.pmmInit_eq, if_neg hrange, if_neg haligned, pageAddress_index,
      hset, Bool.not_true, Bool.false_eq_true, ↓reduceIte]
  · exact {
      initialized := hinv.initialized
      pageCount_eq := hinv.pageCount_eq
      words := by rw [Bitmap.length_clearBit]; exact hinv.words
      used_eq := by
        have hcount := Bitmap.count_clearBit (by decide) hword hindex hset
        have hused := hinv.used_eq
        change memory.pmmUsedCount - 1
          = Bitmap.count (Bitmap.clearBit memory.pmmBitmap index) memory.pmmPageCount
        omega
      testBit_iff := by
        intro other hother
        rw [Bitmap.testBit_clearBit (by decide) hword, Bool.and_eq_true, Bool.not_eq_true',
          decide_eq_false_iff_not, hinv.testBit_iff other hother, Finset.mem_erase]
        by_cases hsame : other = index
        · subst hsame
          simp [hfree]
        · have hne : pageAddress other ≠ pageAddress index := fun heq =>
            hsame (pageAddress_inj heq)
          simp [hsame, hne]
      held_pages := by
        intro page hmem
        exact hinv.held_pages page (Finset.mem_of_mem_erase hmem) }

/-- The heap has fields of its own. -/
theorem PmmInv.kmalloc (hinv : PmmInv platform firstFree memory held) (size : Nat) :
    PmmInv platform firstFree (DuckOs.kmalloc platform memory size).2 held := by
  have hinit : PmmInv platform firstFree (kmallocInit platform memory) held := by
    unfold kmallocInit
    split
    · exact hinv
    · exact { hinv with }
  unfold DuckOs.kmalloc
  dsimp only
  split
  · exact hinit
  · exact { hinit with }

theorem PmmReachable.inv (hinside : BitmapInside platform firstFree)
    (hreachable : PmmReachable platform firstFree memory held) :
    PmmInv platform firstFree memory held := by
  induction hreachable with
  | init => exact pmmInit_inv hinside
  | alloc _ hpage ih =>
      rcases ih.alloc_cases with ⟨-, hfull, -⟩ | ⟨index, -, hindex, hclear, hresult⟩
      · rw [hfull] at hpage
        exact absurd rfl hpage
      · rw [hresult]
        exact ih.alloc hindex hclear
  | allocFailed _ hpage ih =>
      rcases ih.alloc_cases with ⟨-, hfull, -⟩ | ⟨index, -, -, -, hresult⟩
      · rw [hfull]
        exact ih
      · rw [hresult] at hpage
        simp [pageAddress, memoryLayoutRamStart, platformGetRamBase] at hpage
  | free _ hpage hfree ih =>
      obtain ⟨next, hnext, hinv⟩ := ih.free hpage
      rw [hnext] at hfree
      cases hfree
      exact hinv
  | heap size _ ih => exact ih.kmalloc size

/-- A page that is handed out was not held before. -/
theorem PmmInv.alloc_fresh (hinv : PmmInv platform firstFree memory held)
    (hpage : (pmmAllocPage platform memory).1 ≠ 0) :
    (pmmAllocPage platform memory).1 ∉ held
      ∧ (pmmAllocPage platform memory).2.pmmUsedCount = memory.pmmUsedCount + 1 := by
  rcases hinv.alloc_cases with ⟨-, hfull, -⟩ | ⟨index, -, hindex, hclear, hresult⟩
  · rw [hfull] at hpage
    exact absurd rfl hpage
  · rw [hresult]
    refine ⟨fun hheld => ?_, rfl⟩
    rw [(hinv.testBit_iff index hindex).mpr (Or.inr hheld)] at hclear
    cases hclear

theorem PmmInv.alloc_full (hinv : PmmInv platform firstFree memory held)
    (hpage : (pmmAllocPage platform memory).1 = 0) : (pmmAllocPage platform memory).2 = memory := by
  rcases hinv.alloc_cases with ⟨-, hfull, -⟩ | ⟨index, -, -, -, hresult⟩
  · rw [hfull]
  · rw [hresult] at hpage
    simp [pageAddress, memoryLayoutRamStart, platformGetRamBase] at hpage

end Invariant

/-- In every state reached by allocating pages, freeing held ones and calls of the heap: the counter is the number
of set bits, and these are the reserved and the held pages; a page handed out is aligned, inside RAM, not held, and
apart from the kernel image and the bitmap; allocation fails only when every page is in use; and freeing a held
page does not panic. -/
theorem pmm_invariant (platform : Platform) (firstFree : Nat)
    (hinside : BitmapInside platform firstFree) (memory : MemoryState) (held : Finset Nat)
    (hreachable : PmmReachable platform firstFree memory held) :
    memory.pmmUsedCount = Bitmap.count memory.pmmBitmap memory.pmmPageCount
      ∧ (∀ index < memory.pmmPageCount, Bitmap.testBit memory.pmmBitmap index = true
        ↔ PageReserved platform firstFree index ∨ pageAddress index ∈ held)
      ∧ (∀ page, (pmmAllocPage platform memory).1 = page → page ≠ 0 →
        page % pmmPageSize = 0 ∧ memoryLayoutRamStart ≤ page
          ∧ page + pmmPageSize ≤ memoryLayoutRamEnd platform ∧ page ∉ held
          ∧ (∀ address, page ≤ address → address < page + pmmPageSize →
            ¬ (platform.kernelStart ≤ address ∧ address < platform.kernelEnd)
              ∧ ¬ (pmmBitmapStart platform (.boot firstFree) ≤ address
                ∧ address < pmmBitmapStart platform (.boot firstFree) + pmmBitmapSize platform)))
      ∧ ((pmmAllocPage platform memory).1 = 0 →
        ∀ index < memory.pmmPageCount, Bitmap.testBit memory.pmmBitmap index = true)
      ∧ ∀ page ∈ held, ∃ next, pmmFreePage platform memory page = .ok next := by
  have hinv := hreachable.inv hinside
  refine ⟨hinv.used_eq, hinv.testBit_iff, ?_, ?_, ?_⟩
  · rintro page hpage hsome
    rcases hinv.alloc_cases with ⟨-, hfull, -⟩ | ⟨index, -, hindex, hclear, hresult⟩
    · rw [hfull] at hpage
      exact absurd hpage.symm hsome
    · rw [hresult] at hpage
      subst hpage
      have hbit := hinv.testBit_iff index hindex
      rw [hclear] at hbit
      have hfree : ¬ PageReserved platform firstFree index ∧ pageAddress index ∉ held := by
        simpa [not_or] using hbit
      rw [PageReserved, not_or] at hfree
      refine ⟨?_, by simp [pageAddress], ?_, hfree.2, ?_⟩
      · simp only [pageAddress, pmmPageSize, memoryLayoutRamStart, platformGetRamBase]
        omega
      · rw [memoryLayoutRamEnd_eq, pageAddress_add, ← hinv.pageCount_eq]
        simp only [pageAddress, pmmPageSize]
        omega
      · intro address hge hlt
        refine ⟨?_, ?_⟩
        · rintro ⟨hstart, hstop⟩
          exact hfree.1.2 ⟨by omega, by omega, by omega⟩
        · rintro ⟨hstart, hstop⟩
          exact hfree.1.1 ⟨by omega, by omega, by omega⟩
  · intro hzero
    rcases hinv.alloc_cases with ⟨-, -, hall⟩ | ⟨index, -, -, -, hresult⟩
    · exact hall
    · rw [hresult] at hzero
      simp [pageAddress, memoryLayoutRamStart, platformGetRamBase] at hzero
  · intro page hpage
    obtain ⟨next, hnext, -⟩ := hinv.free hpage
    exact ⟨next, hnext⟩

/-- Sixteen pages of RAM with a kernel image in the first. -/
def smallPlatform : Platform where
  ramSize := 0x10000
  kernelStart := 0x40000000
  kernelEnd := 0x40001000
  ramSize_pos := by decide
  ramSize_dvd := by decide
  ramEnd_lt := by decide
  kernelStart_ge := by decide
  kernelEnd_ge := by decide
  kernelEnd_le := by decide

theorem smallPlatform_bitmapInside : BitmapInside smallPlatform 0 := ⟨by decide, by decide⟩

theorem pmm_invariant_one_page :
    ∃ next, pmmFreePage smallPlatform
      (pmmAllocPage smallPlatform (pmmInit smallPlatform (.boot 0))).2 0x40002000 = .ok next :=
  (pmm_invariant smallPlatform 0 smallPlatform_bitmapInside _ _
    (.alloc .init (by decide))).2.2.2.2 0x40002000 (by decide)

end DuckOs

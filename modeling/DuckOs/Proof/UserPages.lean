import DuckOs.Kernel.User
import DuckOs.Proof.Pmm

/-!
# The pages of a user program

Every loop of the loader keeps one invariant: the first `known` entries of the array of pages are the
pages that `pmm_alloc_page` handed out, indices are below `page_count`, and writes stay in these
pages.
-/

namespace DuckOs

open ByteStore

/-! ### Allocating one page after the other -/

/-- The allocator's state after `count` calls of `pmm_alloc_page`. -/
def pmmAfter (platform : Platform) (memory : MemoryState) : Nat → MemoryState
  | 0 => memory
  | count + 1 => (pmmAllocPage platform (pmmAfter platform memory count)).2

/-- What call number `index` of `pmm_alloc_page` returns. -/
def pmmPageAt (platform : Platform) (memory : MemoryState) (index : Nat) : Nat :=
  (pmmAllocPage platform (pmmAfter platform memory index)).1

/-- The pages held after `count` calls of `pmm_alloc_page`. -/
def pmmHeldAfter (platform : Platform) (memory : MemoryState) (held : Finset Nat) : Nat → Finset Nat
  | 0 => held
  | count + 1 =>
      if pmmPageAt platform memory count = 0 then pmmHeldAfter platform memory held count
      else insert (pmmPageAt platform memory count) (pmmHeldAfter platform memory held count)

section Handing

variable {platform : Platform} {firstFree : Nat} {memory : MemoryState} {held : Finset Nat}

theorem pmmAfter_reachable (hreachable : PmmReachable platform firstFree memory held) (count : Nat) :
    PmmReachable platform firstFree (pmmAfter platform memory count)
      (pmmHeldAfter platform memory held count) := by
  induction count with
  | zero => exact hreachable
  | succ count ih =>
      unfold pmmHeldAfter
      split
      · rename_i hpage
        exact .allocFailed ih hpage
      · rename_i hpage
        exact .alloc ih hpage

theorem pmmHeldAfter_mono {first second : Nat} (hle : first ≤ second) :
    pmmHeldAfter platform memory held first ⊆ pmmHeldAfter platform memory held second := by
  induction second with
  | zero =>
      rw [Nat.le_zero.mp hle]
  | succ second ih =>
      by_cases hlast : first = second + 1
      · rw [hlast]
      · apply (ih (by omega)).trans
        rw [pmmHeldAfter]
        split
        · exact Finset.Subset.refl _
        · exact Finset.subset_insert _ _

theorem pmmPageAt_mem {index count : Nat} (hindex : index < count)
    (hpage : pmmPageAt platform memory index ≠ 0) :
    pmmPageAt platform memory index ∈ pmmHeldAfter platform memory held count := by
  apply pmmHeldAfter_mono (Nat.succ_le_of_lt hindex)
  rw [pmmHeldAfter, if_neg hpage]
  exact Finset.mem_insert_self _ _

theorem pmmPageAt_notMem (hinside : BitmapInside platform firstFree)
    (hreachable : PmmReachable platform firstFree memory held) {count : Nat}
    (hpage : pmmPageAt platform memory count ≠ 0) :
    pmmPageAt platform memory count ∉ pmmHeldAfter platform memory held count :=
  (((pmmAfter_reachable hreachable count).inv hinside).alloc_fresh hpage).1

theorem pmmPageAt_inj (hinside : BitmapInside platform firstFree)
    (hreachable : PmmReachable platform firstFree memory held) {first second : Nat}
    (hfirst : pmmPageAt platform memory first ≠ 0)
    (heq : pmmPageAt platform memory first = pmmPageAt platform memory second) : first = second := by
  have hsecond := hfirst
  rw [heq] at hsecond
  by_contra hne
  rcases Nat.lt_or_gt_of_ne hne with hlt | hgt
  · apply pmmPageAt_notMem hinside hreachable hsecond
    rw [← heq]
    exact pmmPageAt_mem hlt hfirst
  · apply pmmPageAt_notMem hinside hreachable hfirst
    rw [heq]
    exact pmmPageAt_mem hgt hsecond

theorem pmmUsedCount_after (hinside : BitmapInside platform firstFree)
    (hreachable : PmmReachable platform firstFree memory held) (count : Nat) :
    (pmmAfter platform memory count).pmmUsedCount + held.card
        = memory.pmmUsedCount + (pmmHeldAfter platform memory held count).card
      ∧ (pmmHeldAfter platform memory held count).card ≤ held.card + count := by
  induction count with
  | zero => exact ⟨rfl, Nat.le_refl _⟩
  | succ count ih =>
      have hinv := (pmmAfter_reachable hreachable count).inv hinside
      rw [pmmAfter, pmmHeldAfter]
      by_cases hpage : pmmPageAt platform memory count = 0
      · rw [if_pos hpage, hinv.alloc_full hpage]
        omega
      · obtain ⟨hfresh, hused⟩ := hinv.alloc_fresh hpage
        rw [if_neg hpage, hused]
        have hcard : (insert (pmmPageAt platform memory count)
            (pmmHeldAfter platform memory held count)).card
              = (pmmHeldAfter platform memory held count).card + 1 :=
          Finset.card_insert_of_notMem hfresh
        rw [hcard]
        omega

end Handing

/-- A range of RAM, as start and length, that lies in a page. -/
def InsidePage (page : Nat) (range : Nat × Nat) : Prop :=
  page ≤ range.1 ∧ range.1 + range.2 ≤ page + pmmPageSize

theorem insidePage_mk {page offset length : Nat} (hinside : offset + length ≤ pmmPageSize) :
    InsidePage page (page + offset, length) := by
  simp only [InsidePage]
  omega

theorem insidePage_self (page : Nat) : InsidePage page (page, pmmPageSize) :=
  ⟨Nat.le_refl _, Nat.le_refl _⟩

theorem pmmAllocPage_aligned (platform : Platform) (memory : MemoryState) :
    (pmmAllocPage platform memory).1 % pmmPageSize = 0 := by
  rw [pmmAllocPage]
  cases pmmLowestFree (pmmInit platform memory) with
  | none => rfl
  | some index =>
      simp only [memoryLayoutRamStart, platformGetRamBase, pmmPageSize]
      omega

theorem pmmPageAt_aligned (platform : Platform) (memory : MemoryState) (index : Nat) :
    pmmPageAt platform memory index / mmuL3PageSize * mmuL3PageSize
      = pmmPageAt platform memory index := by
  have haligned : pmmPageAt platform memory index % pmmPageSize = 0 := pmmAllocPage_aligned _ _
  simp only [pmmPageSize] at haligned
  simp only [mmuL3PageSize]
  omega

/-! ### The invariant of the loader -/

@[simp]
theorem UserState.userTable_setTable (state : UserState) (table : MmuL3Table) :
    (state.setTable table).userTable = table := rfl

section Invariant

variable {platform : Platform} {origin : UserState} {pageCount known : Nat} {state : UserState}

/-- Of the tables, only the page allocator has moved on. -/
structure LoadFrame (platform : Platform) (origin : UserState) (pageCount : Nat)
    (state : UserState) : Prop where
  pageCount_eq : state.pageCount = pageCount
  table_eq : state.userTable = origin.userTable
  fileTable_eq : state.fileTable = origin.fileTable
  memory_after : ∃ handed ≤ pageCount + 1, state.memory = pmmAfter platform origin.memory handed

/-- What a step that writes RAM or reads the file leaves as it is. -/
structure KeepsTables (before after : UserState) : Prop where
  pageCount_eq : after.pageCount = before.pageCount
  table_eq : after.userTable = before.userTable
  fileTable_eq : after.fileTable = before.fileTable
  memory_eq : after.memory = before.memory
  pages_eq : after.pages = before.pages

theorem LoadFrame.keeps {before after : UserState} (hframe : LoadFrame platform origin pageCount before)
    (hkeeps : KeepsTables before after) : LoadFrame platform origin pageCount after where
  pageCount_eq := hkeeps.pageCount_eq.trans hframe.pageCount_eq
  table_eq := hkeeps.table_eq.trans hframe.table_eq
  fileTable_eq := hkeeps.fileTable_eq.trans hframe.fileTable_eq
  memory_after := by
    rw [hkeeps.memory_eq]
    exact hframe.memory_after

theorem KeepsTables.trans {before middle after : UserState} (hfirst : KeepsTables before middle)
    (hsecond : KeepsTables middle after) : KeepsTables before after where
  pageCount_eq := hsecond.pageCount_eq.trans hfirst.pageCount_eq
  table_eq := hsecond.table_eq.trans hfirst.table_eq
  fileTable_eq := hsecond.fileTable_eq.trans hfirst.fileTable_eq
  memory_eq := hsecond.memory_eq.trans hfirst.memory_eq
  pages_eq := hsecond.pages_eq.trans hfirst.pages_eq

theorem keepsTables_setFile (state : UserState) (file : File) :
    KeepsTables state (state.setFile file) := ⟨rfl, rfl, rfl, rfl, rfl⟩

theorem keepsTables_setBytes (state : UserState) (index address : Nat) (data : List UInt8) :
    KeepsTables state ((state.useIndex index).setBytes address data) := ⟨rfl, rfl, rfl, rfl, rfl⟩

theorem keepsTables_setWritable (state : UserState) (index : Nat) (value : Bool) :
    KeepsTables state (state.setWritable index value) := ⟨rfl, rfl, rfl, rfl, rfl⟩

/-- Indices are below `page_count`, and writes fall into the pages handed out for the program. -/
structure LoadLog (platform : Platform) (origin : UserState) (pageCount : Nat)
    (state : UserState) : Prop extends LoadFrame platform origin pageCount state where
  indices_lt : ∀ index ∈ state.indices, index < pageCount
  ranges_inside : ∀ range ∈ state.ranges, ∃ index < pageCount,
    pmmPageAt platform origin.memory index ≠ 0
      ∧ InsidePage (pmmPageAt platform origin.memory index) range

/-- So many pages have been handed out, and the first of them stand in the array. -/
structure PagesHeld (platform : Platform) (origin : UserState) (known handed : Nat)
    (state : UserState) : Prop where
  memory_eq : state.memory = pmmAfter platform origin.memory handed
  page_ne : ∀ index < handed, pmmPageAt platform origin.memory index ≠ 0
  pages_eq : ∀ index < known, state.pages index = pmmPageAt platform origin.memory index

structure LoadInv (platform : Platform) (origin : UserState) (pageCount known : Nat)
    (state : UserState) : Prop extends LoadLog platform origin pageCount state,
    PagesHeld platform origin known known state

theorem LoadLog.useIndex (hlog : LoadLog platform origin pageCount state) {index : Nat}
    (hindex : index < pageCount) : LoadLog platform origin pageCount (state.useIndex index) where
  pageCount_eq := hlog.pageCount_eq
  table_eq := hlog.table_eq
  fileTable_eq := hlog.fileTable_eq
  memory_after := hlog.memory_after
  indices_lt := by
    intro other hother
    rcases List.mem_append.mp hother with hold | hnew
    · exact hlog.indices_lt other hold
    · rw [List.mem_singleton.mp hnew]
      exact hindex
  ranges_inside := hlog.ranges_inside

theorem LoadLog.setBytes (hlog : LoadLog platform origin pageCount state) {index address : Nat}
    {data : List UInt8} (hindex : index < pageCount)
    (hpage : pmmPageAt platform origin.memory index ≠ 0)
    (hinside : InsidePage (pmmPageAt platform origin.memory index) (address, data.length)) :
    LoadLog platform origin pageCount (state.setBytes address data) where
  pageCount_eq := hlog.pageCount_eq
  table_eq := hlog.table_eq
  fileTable_eq := hlog.fileTable_eq
  memory_after := hlog.memory_after
  indices_lt := hlog.indices_lt
  ranges_inside := by
    intro range hrange
    rcases List.mem_append.mp hrange with hold | hnew
    · exact hlog.ranges_inside range hold
    · rw [List.mem_singleton.mp hnew]
      exact ⟨index, hindex, hpage, hinside⟩

theorem LoadInv.useIndex (hinv : LoadInv platform origin pageCount known state) {index : Nat}
    (hindex : index < pageCount) :
    LoadInv platform origin pageCount known (state.useIndex index) where
  toLoadLog := hinv.toLoadLog.useIndex hindex
  memory_eq := hinv.memory_eq
  page_ne := hinv.page_ne
  pages_eq := hinv.pages_eq

theorem LoadInv.setWritable (hinv : LoadInv platform origin pageCount known state) {index : Nat}
    (hindex : index < pageCount) (value : Bool) :
    LoadInv platform origin pageCount known (state.setWritable index value) where
  toLoadLog := by
    have hlog := hinv.toLoadLog.useIndex hindex
    exact ⟨hinv.toLoadFrame.keeps (keepsTables_setWritable state index value), hlog.indices_lt,
      hlog.ranges_inside⟩
  memory_eq := hinv.memory_eq
  page_ne := hinv.page_ne
  pages_eq := hinv.pages_eq

theorem LoadInv.setFile (hinv : LoadInv platform origin pageCount known state) (file : File) :
    LoadInv platform origin pageCount known (state.setFile file) where
  toLoadLog := ⟨hinv.toLoadFrame.keeps (keepsTables_setFile state file), hinv.indices_lt,
    hinv.ranges_inside⟩
  memory_eq := hinv.memory_eq
  page_ne := hinv.page_ne
  pages_eq := hinv.pages_eq

theorem LoadInv.setBytes (hinv : LoadInv platform origin pageCount pageCount state)
    {index offset : Nat} {data : List UInt8} (hindex : index < pageCount)
    (hinside : offset + data.length ≤ pmmPageSize) :
    LoadInv platform origin pageCount pageCount
      ((state.useIndex index).setBytes (state.pages index + offset) data) where
  toLoadLog := by
    refine (hinv.toLoadLog.useIndex hindex).setBytes hindex (hinv.page_ne index hindex) ?_
    rw [hinv.pages_eq index hindex]
    exact insidePage_mk hinside
  memory_eq := hinv.memory_eq
  page_ne := hinv.page_ne
  pages_eq := hinv.pages_eq

end Invariant

/-! ### Allocating the pages -/

section Allocation

variable {platform : Platform} {origin : UserState} {pageCount : Nat}

/-- The call for the next page succeeds: it is entered into the array and cleared. -/
theorem LoadInv.alloc {known : Nat} {state : UserState}
    (hinv : LoadInv platform origin pageCount known state) (hknown : known < pageCount)
    (hpage : (pmmAllocPage platform state.memory).1 ≠ 0) :
    LoadInv platform origin pageCount (known + 1)
      ((({ state with memory := (pmmAllocPage platform state.memory).2 }).setPage known
        (pmmAllocPage platform state.memory).1).setBytes (pmmAllocPage platform state.memory).1
          (List.replicate pmmPageSize 0)) := by
  have hat : (pmmAllocPage platform state.memory).1 = pmmPageAt platform origin.memory known := by
    rw [hinv.memory_eq, pmmPageAt]
  have hmemory : (pmmAllocPage platform state.memory).2 = pmmAfter platform origin.memory (known + 1) := by
    rw [hinv.memory_eq, pmmAfter]
  rw [hat] at hpage ⊢
  have hused : LoadLog platform origin pageCount
      (({ state with memory := (pmmAllocPage platform state.memory).2 }).setPage known
        (pmmPageAt platform origin.memory known)) := by
    have hlog := hinv.toLoadLog.useIndex hknown
    exact ⟨⟨hlog.pageCount_eq, hlog.table_eq, hlog.fileTable_eq, ⟨known + 1, by omega, hmemory⟩⟩,
      hlog.indices_lt, hlog.ranges_inside⟩
  refine ⟨hused.setBytes hknown hpage ?_, ⟨hmemory, ?_, ?_⟩⟩
  · rw [List.length_replicate]
    exact insidePage_self _
  · intro index hindex
    by_cases hlast : index = known
    · rw [hlast]
      exact hpage
    · exact hinv.page_ne index (by omega)
  · intro index hindex
    by_cases hlast : index = known
    · rw [hlast]
      exact Function.update_self known _ state.pages
    · exact (Function.update_of_ne hlast _ state.pages).trans (hinv.pages_eq index (by omega))

/-- When the call for the next page fails, only its entry in the array has been written. -/
theorem LoadInv.allocFailed {known : Nat} {state : UserState}
    (hinv : LoadInv platform origin pageCount known state) (hknown : known < pageCount)
    (page : Nat) :
    LoadLog platform origin pageCount
      (({ state with memory := (pmmAllocPage platform state.memory).2 }).setPage known page) := by
  have hlog := hinv.toLoadLog.useIndex hknown
  have hmemory : (pmmAllocPage platform state.memory).2
      = pmmAfter platform origin.memory (known + 1) := by
    rw [hinv.memory_eq, pmmAfter]
  exact ⟨⟨hlog.pageCount_eq, hlog.table_eq, hlog.fileTable_eq, ⟨known + 1, by omega, hmemory⟩⟩,
      hlog.indices_lt, hlog.ranges_inside⟩

theorem userAllocLoop_inv (remaining known : Nat) (state : UserState)
    (hinv : LoadInv platform origin pageCount known state)
    (hbound : known + remaining = pageCount) :
    LoadLog platform origin pageCount (userAllocLoop platform remaining known state).2
      ∧ ((userAllocLoop platform remaining known state).1 = true →
        LoadInv platform origin pageCount pageCount
          (userAllocLoop platform remaining known state).2) := by
  induction remaining generalizing known state with
  | zero =>
      rw [Nat.add_zero] at hbound
      subst hbound
      exact ⟨hinv.toLoadLog, fun _ => hinv⟩
  | succ remaining ih =>
      rw [userAllocLoop]
      by_cases hpage : (pmmAllocPage platform state.memory).1 = 0
      · simp only [hpage, ↓reduceIte]
        exact ⟨hinv.allocFailed (by omega) _, fun hfalse => by cases hfalse⟩
      · simp only [hpage, ↓reduceIte]
        exact ih (known + 1) _ (hinv.alloc (by omega) hpage) (by omega)

/-- From a state with nothing recorded, `user_alloc_program_pages` either fails or fills the array. -/
theorem userAllocProgramPages_inv {state next : UserState} {success : Bool}
    (hindices : state.indices = []) (hranges : state.ranges = [])
    (halloc : userAllocProgramPages platform { state with pageCount := pageCount } pageCount
      = (success, next)) :
    LoadLog platform state pageCount next
      ∧ (success = true → LoadInv platform state pageCount pageCount next) := by
  have hstart : LoadInv platform state pageCount 0 { state with pageCount := pageCount } := by
    refine ⟨⟨⟨rfl, rfl, rfl, ⟨0, Nat.zero_le _, rfl⟩⟩, ?_, ?_⟩, ⟨rfl, ?_, ?_⟩⟩
    · simp [hindices]
    · simp [hranges]
    · simp
    · simp
  have hloop := userAllocLoop_inv pageCount 0 _ hstart (Nat.zero_add pageCount)
  unfold userAllocProgramPages at halloc
  rwa [halloc] at hloop

end Allocation

/-! ### Mapping the pages -/

section Mapping

variable {platform : Platform} {origin : UserState} {pageCount : Nat}

/-- The address of page `index` of an image, in 64 bits as the code computes it. -/
def userPageVa (imageBase index : Nat) : Nat := (imageBase + index * pmmPageSize) % 2 ^ 64

theorem mmuMapL3Page_self (table : MmuL3Table) (virtualAddress physicalAddress : Nat)
    (attributes : MmuUserAttributes) :
    mmuMapL3Page table virtualAddress physicalAddress attributes (mmuL3Index virtualAddress)
      = some ⟨physicalAddress / mmuL3PageSize * mmuL3PageSize, attributes⟩ :=
  Function.update_self _ _ _

theorem mmuMapL3Page_of_ne (table : MmuL3Table) {virtualAddress index : Nat} (physicalAddress : Nat)
    (attributes : MmuUserAttributes) (hindex : index ≠ mmuL3Index virtualAddress) :
    mmuMapL3Page table virtualAddress physicalAddress attributes index = table index :=
  Function.update_of_ne hindex _ _

theorem userMapLoop_succ (imageBase : Nat) (usesWritable : Bool) (remaining index : Nat)
    (state : UserState) :
    userMapLoop imageBase usesWritable (remaining + 1) index state
      = userMapLoop imageBase usesWritable remaining (index + 1)
        ((state.useIndex index).setTable (mmuMapL3Page state.userTable (userPageVa imageBase index)
          (state.pages index) (userPageAttributes usesWritable state.writable index))) := by
  rw [userMapLoop, userPageAttributes]
  by_cases hwritable : usesWritable ∧ state.writable index
  · rw [if_pos hwritable, if_pos hwritable, mmuMapUserDataPage, userPageVa]
  · rw [if_neg hwritable, if_neg hwritable, mmuMapUserCodePage, userPageVa]

/-- The loop changes the table, and uses the indices in turn. -/
theorem userMapLoop_eq (imageBase : Nat) (usesWritable : Bool) (remaining index : Nat)
    (state : UserState) :
    userMapLoop imageBase usesWritable remaining index state
      = { state with
          indices := state.indices ++ List.range' index remaining
          userTable := (userMapLoop imageBase usesWritable remaining index state).userTable } := by
  induction remaining generalizing index state with
  | zero => simp [userMapLoop]
  | succ remaining ih =>
      rw [userMapLoop_succ, ih (index + 1)]
      simp [UserState.useIndex, UserState.setTable, List.range'_succ]

/-- Behind the loop the pages from `index` on are mapped at their addresses, and the entries of the
pages before it are kept, if no two of the addresses share an entry. -/
theorem userMapLoop_table (imageBase : Nat) (usesWritable : Bool) (remaining index : Nat)
    (state : UserState)
    (hdistinct : ∀ first < index + remaining, ∀ second < index + remaining,
      mmuL3Index (userPageVa imageBase first) = mmuL3Index (userPageVa imageBase second) →
      first = second) :
    ∀ page < index + remaining,
      (page < index →
        (userMapLoop imageBase usesWritable remaining index state).userTable
          (mmuL3Index (userPageVa imageBase page))
        = state.userTable (mmuL3Index (userPageVa imageBase page)))
      ∧ (index ≤ page →
        (userMapLoop imageBase usesWritable remaining index state).userTable
          (mmuL3Index (userPageVa imageBase page))
        = some ⟨state.pages page / mmuL3PageSize * mmuL3PageSize,
          userPageAttributes usesWritable state.writable page⟩) := by
  induction remaining generalizing index state with
  | zero =>
      intro page hpage
      exact ⟨fun _ => rfl, fun hle => by omega⟩
  | succ remaining ih =>
      intro page hpage
      have hshift : index + 1 + remaining = index + (remaining + 1) := by omega
      rw [userMapLoop_succ]
      obtain ⟨hbefore, hfrom⟩ := ih (index + 1) _ (by rwa [hshift]) page (by omega)
      refine ⟨fun hlt => ?_, fun hle => ?_⟩
      · have hother : mmuL3Index (userPageVa imageBase page)
            ≠ mmuL3Index (userPageVa imageBase index) := fun heq => by
          have hsame := hdistinct page hpage index (by omega) heq
          omega
        rw [hbefore (by omega), UserState.userTable_setTable, mmuMapL3Page_of_ne _ _ _ hother]
      · by_cases hsame : page = index
        · subst hsame
          rw [hbefore (by omega), UserState.userTable_setTable]
          exact mmuMapL3Page_self _ _ _ _
        · exact hfrom (by omega)

/-- An entry that belongs to none of the pages is left alone. -/
theorem userMapLoop_other (imageBase : Nat) (usesWritable : Bool) {slot : Nat}
    (remaining index : Nat) (state : UserState)
    (hother : ∀ page, index ≤ page → page < index + remaining →
      slot ≠ mmuL3Index (userPageVa imageBase page)) :
    (userMapLoop imageBase usesWritable remaining index state).userTable slot
      = state.userTable slot := by
  induction remaining generalizing index state with
  | zero => rfl
  | succ remaining ih =>
      rw [userMapLoop_succ, ih (index + 1) _ fun page hle hlt => hother page (by omega) (by omega),
        UserState.userTable_setTable,
        mmuMapL3Page_of_ne _ _ _ (hother index (Nat.le_refl _) (by omega))]

/-! ### An image that runs -/

/-- Whole pages from the lowest program address up to the stack page. -/
structure ImageFits (imageBase pageCount : Nat) : Prop where
  base_aligned : imageBase % pmmPageSize = 0
  base_ge : userCodeVa ≤ imageBase
  end_le : imageBase + pageCount * pmmPageSize ≤ userStackTop - pmmPageSize

section Image

variable {imageBase : Nat}

theorem ImageFits.userPageVa_eq (hfits : ImageFits imageBase pageCount) {index : Nat}
    (hindex : index < pageCount) : userPageVa imageBase index = imageBase + index * pmmPageSize := by
  have hend := hfits.end_le
  simp only [userStackTop, pmmPageSize] at hend
  rw [userPageVa, pmmPageSize, Nat.mod_eq_of_lt (by omega)]

theorem ImageFits.mmuL3Index_eq (hfits : ImageFits imageBase pageCount) {index : Nat}
    (hindex : index < pageCount) :
    mmuL3Index (userPageVa imageBase index) = imageBase / pmmPageSize + index := by
  have hend := hfits.end_le
  have hbase := hfits.base_aligned
  simp only [userStackTop, pmmPageSize] at hend hbase
  rw [hfits.userPageVa_eq hindex]
  simp only [mmuL3Index, mmuL3PageSize, mmuTableEntries, pmmPageSize]
  omega

theorem ImageFits.mmuL3Index_inj (hfits : ImageFits imageBase pageCount) :
    ∀ first < pageCount, ∀ second < pageCount,
      mmuL3Index (userPageVa imageBase first) = mmuL3Index (userPageVa imageBase second) →
      first = second := by
  intro first hfirst second hsecond heq
  rw [hfits.mmuL3Index_eq hfirst, hfits.mmuL3Index_eq hsecond] at heq
  omega

theorem ImageFits.mmuL3Index_ne_stack (hfits : ImageFits imageBase pageCount) {index : Nat}
    (hindex : index < pageCount) :
    mmuL3Index (userPageVa imageBase index) ≠ mmuL3Index (userStackTop - pmmPageSize) := by
  have hend := hfits.end_le
  have hbase := hfits.base_aligned
  simp only [userStackTop, pmmPageSize] at hend hbase
  rw [hfits.mmuL3Index_eq hindex]
  simp only [mmuL3Index, mmuL3PageSize, mmuTableEntries, userStackTop, pmmPageSize]
  omega

end Image

/-- The tables at the entry to EL0. -/
structure UserImage.Mapped (platform : Platform) (memory : MemoryState) (image : UserImage)
    (state : UserState) : Prop where
  fits : ImageFits image.imageBase image.pageCount
  memory_eq : state.memory = pmmAfter platform memory (image.pageCount + 1)
  page_ne : ∀ index ≤ image.pageCount, pmmPageAt platform memory index ≠ 0
  stackPage_eq : image.stackPage = pmmPageAt platform memory image.pageCount
  mapped : ∀ index < image.pageCount, ∃ attributes,
    state.userTable (mmuL3Index (userPageVa image.imageBase index))
      = some ⟨pmmPageAt platform memory index, attributes⟩
  stack_mapped : state.userTable (mmuL3Index (userStackTop - pmmPageSize))
    = some ⟨image.stackPage, .data⟩

theorem LoadInv.allocStack {state next : UserState} {stackPage : Nat}
    (hinv : LoadInv platform origin pageCount pageCount state)
    (hstack : userAllocStackPage platform state = (some stackPage, next)) :
    stackPage = pmmPageAt platform origin.memory pageCount
      ∧ PagesHeld platform origin pageCount (pageCount + 1) next
      ∧ LoadFrame platform origin pageCount next ∧ next.indices = state.indices
      ∧ next.ranges = state.ranges ++ [(stackPage, pmmPageSize)] := by
  simp only [userAllocStackPage, hinv.memory_eq] at hstack
  by_cases hpage : (pmmAllocPage platform (pmmAfter platform origin.memory pageCount)).1 = 0
  · rw [if_pos hpage] at hstack
    simp at hstack
  rw [if_neg hpage, Prod.mk.injEq, Option.some.injEq] at hstack
  obtain ⟨rfl, rfl⟩ := hstack
  refine ⟨rfl, ⟨rfl, ?_, hinv.pages_eq⟩, ⟨hinv.pageCount_eq, hinv.table_eq, hinv.fileTable_eq,
    ⟨pageCount + 1, Nat.le_refl _, rfl⟩⟩, rfl, ?_⟩
  · intro index hindex
    by_cases hlast : index = pageCount
    · rw [hlast]
      exact hpage
    · exact hinv.page_ne index (by omega)
  · simp [UserState.setBytes]

theorem LoadInv.allocStackFailed {state next : UserState}
    (hinv : LoadInv platform origin pageCount pageCount state)
    (hstack : userAllocStackPage platform state = (none, next)) :
    LoadLog platform origin pageCount next := by
  simp only [userAllocStackPage, hinv.memory_eq] at hstack
  split at hstack
  · cases hstack
    exact ⟨⟨hinv.pageCount_eq, hinv.table_eq, hinv.fileTable_eq, ⟨pageCount + 1, Nat.le_refl _, rfl⟩⟩,
      hinv.indices_lt, hinv.ranges_inside⟩
  · simp at hstack

/-- The entry of each page, when EL0 is entered. -/
theorem userRunLoadedPages_table {state : UserState} {imageBase : Nat}
    (hfits : ImageFits imageBase pageCount) (entryPoint : Nat) (usesWritable : Bool)
    (stackPage programSize : Nat) {index : Nat} (hindex : index < pageCount) :
    (userRunLoadedPages state imageBase entryPoint usesWritable pageCount stackPage
        programSize).2.userTable (mmuL3Index (userPageVa imageBase index))
      = some ⟨state.pages index / mmuL3PageSize * mmuL3PageSize,
        userPageAttributes usesWritable state.writable index⟩ := by
  have hdistinct := hfits.mmuL3Index_inj
  have hbound : index < 0 + pageCount := by
    rw [Nat.zero_add]
    exact hindex
  rw [← Nat.zero_add pageCount] at hdistinct
  have hmapped := (userMapLoop_table imageBase usesWritable pageCount 0 state hdistinct index
    hbound).2 (Nat.zero_le index)
  unfold userRunLoadedPages
  rw [UserState.userTable_setTable, mmuMapUserDataPage,
    mmuMapL3Page_of_ne _ _ _ (hfits.mmuL3Index_ne_stack hindex), hmapped]

theorem PagesHeld.run {state : UserState} {imageBase : Nat}
    (hheld : PagesHeld platform origin pageCount (pageCount + 1) state)
    (hfits : ImageFits imageBase pageCount) (entryPoint : Nat) (usesWritable : Bool)
    (programSize : Nat) :
    (UserImage.mk imageBase entryPoint usesWritable pageCount (pmmPageAt platform origin.memory pageCount)
      programSize).Mapped platform origin.memory
        (userRunLoadedPages state imageBase entryPoint usesWritable pageCount
          (pmmPageAt platform origin.memory pageCount) programSize).2 where
  fits := hfits
  memory_eq := by
    unfold userRunLoadedPages
    rw [userMapLoop_eq]
    exact hheld.memory_eq
  page_ne := fun index hindex => hheld.page_ne index (Nat.lt_succ_of_le hindex)
  stackPage_eq := rfl
  mapped := by
    intro index hindex
    refine ⟨userPageAttributes usesWritable state.writable index, ?_⟩
    rw [userRunLoadedPages_table hfits entryPoint usesWritable _ programSize hindex,
      hheld.pages_eq index hindex, pmmPageAt_aligned]
  stack_mapped := by
    unfold userRunLoadedPages
    rw [UserState.userTable_setTable, mmuMapUserDataPage, mmuMapL3Page_self, pmmPageAt_aligned]

end Mapping

end DuckOs

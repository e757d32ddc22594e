import DuckOs.Kernel.UserRun
import DuckOs.Proof.ElfBounds

/-!
# What a run of a program leaves behind

A load that fails returns the file and leaves the page table alone, but keeps the pages it was handed.
A load that succeeds overwrites the entries of its own pages; the entries of earlier programs stay.
-/

namespace DuckOs

open ByteStore

/-! ### Flat files -/

theorem userCopyChunkLoop_keeps (codePageCount fuel totalRead : Nat) (chunk : List UInt8)
    (state : UserState) :
    KeepsTables state (userCopyChunkLoop codePageCount fuel totalRead chunk state).2 := by
  fun_induction userCopyChunkLoop with
  | case1 => exact ⟨rfl, rfl, rfl, rfl, rfl⟩
  | case2 => exact ⟨rfl, rfl, rfl, rfl, rfl⟩
  | case3 => exact ⟨rfl, rfl, rfl, rfl, rfl⟩
  | case4 _ _ _ _ _ _ _ _ _ ih => exact (keepsTables_setBytes _ _ _ _).trans ih

theorem userLoadLoop_keeps (vfs : VfsState) (codePageCount fuel totalRead : Nat)
    (state : UserState) :
    KeepsTables state (userLoadLoop vfs codePageCount fuel totalRead state).2 := by
  fun_induction userLoadLoop with
  | case1 => exact ⟨rfl, rfl, rfl, rfl, rfl⟩
  | case2 => exact ⟨rfl, rfl, rfl, rfl, rfl⟩
  | case3 => exact keepsTables_setFile _ _
  | case4 _ totalRead state chunk file _ _ _ next hcopy =>
      have hcopied := userCopyChunkLoop_keeps codePageCount chunk.length totalRead chunk
        (state.setFile file)
      rw [hcopy] at hcopied
      exact (keepsTables_setFile _ file).trans hcopied
  | case5 _ totalRead state chunk file _ _ _ _ next hcopy ih =>
      have hcopied := userCopyChunkLoop_keeps codePageCount chunk.length totalRead chunk
        (state.setFile file)
      rw [hcopy] at hcopied
      exact ((keepsTables_setFile _ file).trans hcopied).trans ih

theorem PagesHeld.keeps {platform : Platform} {origin before after : UserState} {known handed : Nat}
    (hheld : PagesHeld platform origin known handed before) (hkeeps : KeepsTables before after) :
    PagesHeld platform origin known handed after where
  memory_eq := hkeeps.memory_eq.trans hheld.memory_eq
  page_ne := hheld.page_ne
  pages_eq := by
    rw [hkeeps.pages_eq]
    exact hheld.pages_eq

theorem imageFits_of_rangeValid {pageCount : Nat}
    (hvalid : userProgramRangeValid userCodeVa pageCount = true) :
    0 < pageCount ∧ ImageFits userCodeVa pageCount := by
  unfold userProgramRangeValid at hvalid
  split at hvalid
  · cases hvalid
  rename_i hcount
  rw [not_or, Nat.not_lt] at hcount
  refine ⟨Nat.pos_of_ne_zero hcount.1, ⟨rfl, Nat.le_refl _, ?_⟩⟩
  have hle := hcount.2
  simp only [userMaxProgramPages, userStackTop, userCodeVa, pmmPageSize] at hle ⊢
  omega

/-- What is known of a flat file that is run. -/
structure FlatLoaded (platform : Platform) (vfs : VfsState) (state : UserState) (pageCount : Nat)
    (allocated stacked loaded : UserState) : Prop where
  alloc : userAllocProgramPages platform { state with pageCount := pageCount } pageCount
    = (true, allocated)
  inv : LoadInv platform state pageCount pageCount allocated
  stack : userAllocStackPage platform allocated
    = (some (pmmPageAt platform state.memory pageCount), stacked)
  load : userLoadFileIntoPages vfs stacked pageCount = (true, loaded)
  held : PagesHeld platform state pageCount (pageCount + 1) loaded
  frame : LoadFrame platform state pageCount loaded
  fits : ImageFits userCodeVa pageCount

theorem userRunFlatFile_cases (platform : Platform) (vfs : VfsState) {state : UserState}
    {pageCount : Nat} (hindices : state.indices = []) (hranges : state.ranges = [])
    (hcount : userCodePageCount state.file.size = pageCount) :
    userRunFlatFile platform vfs state = (none, state)
      ∨ (∃ next, userRunFlatFile platform vfs state = (none, next)
        ∧ 0 < pageCount ∧ LoadFrame platform state pageCount next)
      ∨ ∃ allocated stacked loaded, FlatLoaded platform vfs state pageCount allocated stacked loaded
        ∧ userRunFlatFile platform vfs state
          = userRunLoadedPages loaded userCodeVa userCodeVa false pageCount
            (pmmPageAt platform state.memory pageCount) loaded.file.size := by
  subst hcount
  have hchecked : ∀ {pageCount : Nat}, ¬ ((!userProgramRangeValid userCodeVa pageCount) = true
      ∨ userFlatBinaryMaxPages < pageCount) → 0 < pageCount ∧ ImageFits userCodeVa pageCount := by
    intro pageCount hvalid
    rw [not_or, Bool.not_eq_true', Bool.not_eq_false] at hvalid
    exact imageFits_of_rangeValid hvalid.1
  fun_cases userRunFlatFile with
  | case1 => exact Or.inl rfl
  | case2 _ hvalid next halloc =>
      obtain ⟨hlog, -⟩ := userAllocProgramPages_inv hindices hranges halloc
      exact Or.inr (Or.inl ⟨next, rfl, (hchecked hvalid).1, hlog.toLoadFrame⟩)
  | case3 _ hvalid allocated halloc next hstack =>
      have hinv := (userAllocProgramPages_inv hindices hranges halloc).2 rfl
      exact Or.inr (Or.inl ⟨next, rfl, (hchecked hvalid).1,
        (hinv.allocStackFailed hstack).toLoadFrame⟩)
  | case4 pageCount hvalid allocated halloc stackPage stacked hstack next hload =>
      have hinv := (userAllocProgramPages_inv hindices hranges halloc).2 rfl
      obtain ⟨-, -, hframe, -, -⟩ := hinv.allocStack hstack
      have hkeeps := userLoadLoop_keeps vfs pageCount (stacked.file.size + 1) 0 stacked
      unfold userLoadFileIntoPages at hload
      rw [hload] at hkeeps
      exact Or.inr (Or.inl ⟨next, rfl, (hchecked hvalid).1, hframe.keeps hkeeps⟩)
  | case5 pageCount hvalid allocated halloc stackPage stacked hstack loaded hload =>
      have hinv := (userAllocProgramPages_inv hindices hranges halloc).2 rfl
      obtain ⟨rfl, hheld, hframe, -, -⟩ := hinv.allocStack hstack
      have hkeeps := userLoadLoop_keeps vfs pageCount (stacked.file.size + 1) 0 stacked
      have hloaded := hload
      unfold userLoadFileIntoPages at hloaded
      rw [hloaded] at hkeeps
      exact Or.inr (Or.inr ⟨allocated, stacked, loaded, ⟨halloc, hinv, hstack, hload,
        hheld.keeps hkeeps, hframe.keeps hkeeps, (hchecked hvalid).2⟩, rfl⟩)

/-! ### A load that fails -/

/-- What a failed load leaves behind: the pages it was handed. -/
structure LoadFailed (platform : Platform) (origin state : UserState) : Prop where
  table_eq : state.userTable = origin.userTable
  fileTable_eq : state.fileTable = origin.fileTable
  memory_after : ∃ handed ≤ state.pageCount + 1, (state.pageCount = 0 → handed = 0)
    ∧ state.memory = pmmAfter platform origin.memory handed

theorem LoadFrame.failed {platform : Platform} {origin state : UserState} {pageCount : Nat}
    (hframe : LoadFrame platform origin pageCount state) (hpos : 0 < pageCount) :
    LoadFailed platform origin state where
  table_eq := hframe.table_eq
  fileTable_eq := hframe.fileTable_eq
  memory_after := by
    obtain ⟨handed, hle, hmemory⟩ := hframe.memory_after
    rw [hframe.pageCount_eq]
    exact ⟨handed, hle, fun hzero => by omega, hmemory⟩

theorem userRunElfFile_failed (platform : Platform) (vfs : VfsState) (state : UserState) (file : File)
    (hnone : (userRunElfFile platform vfs (state.start.setFile file)).1 = none) :
    LoadFailed platform state (userRunElfFile platform vfs (state.start.setFile file)).2 := by
  rcases userRunElfFile_cases platform vfs (state.start.setFile file)
    with ⟨file, hresult⟩ | ⟨bytes, _, range, file, -, -, -, hinside, hlt, hresult⟩
  · rw [hresult]
    exact ⟨rfl, rfl, 0, Nat.zero_le _, fun _ => rfl, rfl⟩
  · have hpos : 0 < userCodePageCount (range.imageEnd - range.imageBase) := by
      have hend := hinside.end_eq hlt
      by_contra hzero
      rw [Nat.eq_zero_of_not_pos hzero] at hend
      omega
    rw [hresult] at hnone ⊢
    rcases userLoadElf_cases platform vfs (.ofBytes bytes) range
      (userCodePageCount (range.imageEnd - range.imageBase))
      (show ((state.start.setFile _).setFile file).indices = [] from rfl)
      (show ((state.start.setFile _).setFile file).ranges = [] from rfl)
      with ⟨next, hload, hlog⟩ | ⟨_, _, _, _, -, -, -, -, hload⟩
    · rw [hload]
      have hfailed := hlog.toLoadFrame.failed hpos
      exact ⟨hfailed.table_eq, hfailed.fileTable_eq, hfailed.memory_after⟩
    · rw [hload] at hnone
      cases hnone

theorem userRunFlatFile_failed (platform : Platform) (vfs : VfsState) (state : UserState) (file : File)
    (hnone : (userRunFlatFile platform vfs (state.start.setFile file)).1 = none) :
    LoadFailed platform state (userRunFlatFile platform vfs (state.start.setFile file)).2 := by
  rcases userRunFlatFile_cases platform vfs (show (state.start.setFile file).indices = [] from rfl)
    (show (state.start.setFile file).ranges = [] from rfl) rfl
    with hresult | ⟨next, hresult, hpos, hframe⟩ | ⟨_, _, _, -, hresult⟩
  · rw [hresult]
    exact ⟨rfl, rfl, 0, Nat.zero_le _, fun _ => rfl, rfl⟩
  · rw [hresult]
    have hfailed := hframe.failed hpos
    exact ⟨hfailed.table_eq, hfailed.fileTable_eq, hfailed.memory_after⟩
  · rw [hresult] at hnone
    cases hnone

theorem fileOpen_free {vfs : VfsState} {table : FileTable} {path : List UInt8}
    {slot : Fin fileTableMax} {file : File} (hopen : fileOpen vfs table path = some (slot, file)) :
    table slot = none := by
  unfold fileOpen at hopen
  split at hopen
  · cases hopen
  split at hopen
  · cases hopen
  rw [Option.map_eq_some_iff] at hopen
  obtain ⟨index, hfind, heq⟩ := hopen
  cases heq
  have hnone := List.find?_some hfind
  exact Option.isNone_iff_eq_none.mp hnone

theorem userRunOpened_cases (platform : Platform) (vfs : VfsState) (state : UserState) (file : File) :
    ∃ started, userRunOpened platform vfs state file
        = userRunElfFile platform vfs (state.setFile started)
      ∨ userRunOpened platform vfs state file
        = userRunFlatFile platform vfs (state.setFile started) := by
  fun_cases userRunOpened with
  | case1 bytes file => exact ⟨file, Or.inl rfl⟩
  | case2 bytes file => exact ⟨_, Or.inr rfl⟩
  | case3 file => exact ⟨_, Or.inr rfl⟩

theorem userRunFile_failed (platform : Platform) (vfs : VfsState) (state : UserState)
    (path : List UInt8) (hnone : (userRunFile platform vfs state.start path).1 = none) :
    LoadFailed platform state (userRunFile platform vfs state.start path).2 := by
  unfold userRunFile at hnone ⊢
  cases hopen : fileOpen vfs state.start.fileTable path with
  | none =>
      simp only
      exact ⟨rfl, rfl, 0, Nat.zero_le _, fun _ => rfl, rfl⟩
  | some opened =>
      obtain ⟨slot, file⟩ := opened
      simp only [hopen] at hnone ⊢
      have hfailed : LoadFailed platform state (userRunOpened platform vfs state.start file).2 := by
        obtain ⟨started, helf | hflat⟩ := userRunOpened_cases platform vfs state.start file
        · rw [helf] at hnone ⊢
          exact userRunElfFile_failed platform vfs state started hnone
        · rw [hflat] at hnone ⊢
          exact userRunFlatFile_failed platform vfs state started hnone
      refine ⟨hfailed.table_eq, ?_, hfailed.memory_after⟩
      rw [hnone, Option.isSome_none, if_neg Bool.false_ne_true, ← fileOpen_free hopen]
      exact Function.update_eq_self slot state.fileTable

/-- When `user_run_file` returns without having entered EL0, the page table and the file table are as
before. The pages it was handed stay allocated: none if it failed before the first
`pmm_alloc_page`, and at most one more than the image has pages. -/
theorem failed_load_keeps_tables (platform : Platform) (firstFree : Nat) (vfs : VfsState)
    (state : UserState) (path : List UInt8) (held : Finset Nat)
    (hinside : BitmapInside platform firstFree)
    (hreachable : PmmReachable platform firstFree state.memory held)
    (hnone : (userRunFile platform vfs state.start path).1 = none) :
    (userRunFile platform vfs state.start path).2.userTable = state.userTable
      ∧ (userRunFile platform vfs state.start path).2.fileTable = state.fileTable
      ∧ ∃ pages : Finset Nat, Disjoint held pages
        ∧ PmmReachable platform firstFree (userRunFile platform vfs state.start path).2.memory
          (held ∪ pages)
        ∧ (userRunFile platform vfs state.start path).2.memory.pmmUsedCount
          = state.memory.pmmUsedCount + pages.card
        ∧ pages.card ≤ (userRunFile platform vfs state.start path).2.pageCount + 1
        ∧ ((userRunFile platform vfs state.start path).2.pageCount = 0 → pages = ∅) := by
  obtain ⟨htable, hfiles, handed, hle, hzero, hmemory⟩ :=
    userRunFile_failed platform vfs state path hnone
  obtain ⟨hused, hcard⟩ := pmmUsedCount_after hinside hreachable handed
  have hsubset : held ⊆ pmmHeldAfter platform state.memory held handed :=
    pmmHeldAfter_mono (Nat.zero_le handed)
  have hsplit := Finset.card_sdiff_add_card_eq_card hsubset
  refine ⟨htable, hfiles, pmmHeldAfter platform state.memory held handed \ held,
    Finset.disjoint_sdiff, ?_, ?_, ?_, ?_⟩
  · rw [Finset.union_sdiff_of_subset hsubset, hmemory]
    exact pmmAfter_reachable hreachable handed
  · rw [hmemory]
    omega
  · omega
  · intro hcount
    rw [hzero hcount]
    exact Finset.sdiff_self held

/-- A program with one segment of four bytes at 0x20000. -/
def smallElf (entry : Nat) : List UInt8 :=
  [0x7f, 0x45, 0x4c, 0x46, 2, 1, 1] ++ List.replicate 9 0 ++ toLe 2 2 ++ toLe 2 183 ++ toLe 4 1
    ++ toLe 8 entry ++ toLe 8 64 ++ toLe 12 0 ++ toLe 2 64 ++ toLe 2 56 ++ toLe 2 1 ++ toLe 6 0
    ++ toLe 4 1 ++ toLe 4 5 ++ toLe 8 120 ++ toLe 8 0x20000 ++ toLe 8 0 ++ toLe 8 4 ++ toLe 8 4
    ++ toLe 8 0x1000 ++ [1, 2, 3, 4]

theorem smallFile_start_lt : 0 < 2 ^ 32 := by decide

theorem smallFile_size_lt : 124 < 2 ^ 32 := by decide

/-- A device of one block that holds one file, named `a`. -/
def smallVfs (bytes : List UInt8) : VfsState where
  tinyfs := ⟨some ⟨512, 1, fun address => bytes.getD address 0, []⟩,
    [⟨[0x61], 0, 124, 0, smallFile_start_lt, smallFile_size_lt⟩], true⟩
  ready := true

def smallUserState : UserState where
  ram := fun _ => 0
  memory := pmmInit smallPlatform (.boot 0)
  fileTable := fun _ => none
  file := ⟨[], 0, 0, 0, smallFile_start_lt⟩
  pages := fun _ => 0
  writable := fun _ => false
  userTable := fun _ => none
  pageCount := 0
  indices := []
  ranges := []

theorem smallElf_unmapped_entry :
    (userRunFile smallPlatform (smallVfs (smallElf 0x20800)) smallUserState.start [0x61]).1
      = none :=
  Option.isNone_iff_eq_none.mp (by decide +kernel)

theorem failed_load_keeps_tables_small :
    (userRunFile smallPlatform (smallVfs (smallElf 0x20800)) smallUserState.start [0x61]).2.userTable
      = smallUserState.userTable :=
  (failed_load_keeps_tables smallPlatform 0 (smallVfs (smallElf 0x20800)) smallUserState [0x61] ∅
    smallPlatform_bitmapInside .init smallElf_unmapped_entry).1

/-- An entry point that no segment contains is found out when the page is already allocated. -/
theorem failed_load_keeps_page :
    (userRunFile smallPlatform (smallVfs (smallElf 0x20800)) smallUserState.start [0x61]).1 = none
      ∧ (userRunFile smallPlatform (smallVfs (smallElf 0x20800)) smallUserState.start
          [0x61]).2.memory.pmmUsedCount
        ≠ smallUserState.memory.pmmUsedCount :=
  ⟨smallElf_unmapped_entry, by decide +kernel⟩

/-! ### Sessions -/

/-- The pages are filled and about to be mapped. -/
structure ReadyToMap (platform : Platform) (origin : UserState) (imageBase pageCount : Nat)
    (state : UserState) : Prop extends PagesHeld platform origin pageCount (pageCount + 1) state where
  table_eq : state.userTable = origin.userTable
  fits : ImageFits imageBase pageCount

theorem ImageFits.slot_of_covered {imageBase pageCount slot : Nat}
    (hfits : ImageFits imageBase pageCount) (hge : imageBase / pmmPageSize ≤ slot)
    (hlt : slot < imageBase / pmmPageSize + pageCount) :
    slot = mmuL3Index (userPageVa imageBase (slot - imageBase / pmmPageSize)) := by
  rw [hfits.mmuL3Index_eq (by omega)]
  omega

/-- Mapping a program puts its own descriptors over the table. -/
theorem ReadyToMap.descriptors {platform : Platform} {origin state : UserState}
    {imageBase pageCount : Nat} (hready : ReadyToMap platform origin imageBase pageCount state)
    (entryPoint : Nat) (usesWritable : Bool) (programSize : Nat) {image : UserImage} {next : UserState}
    (hrun : userRunLoadedPages state imageBase entryPoint usesWritable pageCount
      (pmmPageAt platform origin.memory pageCount) programSize = (some image, next)) (slot : Nat) :
    next.userTable slot
      = ((UserProgram.mk image next.pages next.writable).descriptor slot).or (origin.userTable slot) := by
  have hmapped := hready.toPagesHeld.run hready.fits entryPoint usesWritable programSize
  rw [hrun] at hmapped
  have hnext := hrun
  unfold userRunLoadedPages at hnext
  rw [Prod.mk.injEq, Option.some.injEq] at hnext
  obtain ⟨rfl, hnext⟩ := hnext
  have hkept : next.pages = state.pages ∧ next.writable = state.writable := by
    rw [← hnext, userMapLoop_eq]
    exact ⟨rfl, rfl⟩
  unfold UserProgram.descriptor
  dsimp only
  by_cases hstack : slot = mmuL3Index (userStackTop - pmmPageSize)
  · rw [if_pos hstack, hstack, hmapped.stack_mapped]
    rfl
  rw [if_neg hstack]
  by_cases hcovered : imageBase / pmmPageSize ≤ slot ∧ slot < imageBase / pmmPageSize + pageCount
  · have hindex : slot - imageBase / pmmPageSize < pageCount := by omega
    have hentry := @userRunLoadedPages_table _ state _ hready.fits entryPoint usesWritable
      (pmmPageAt platform origin.memory pageCount) programSize _ hindex
    rw [hrun, hready.pages_eq _ hindex, pmmPageAt_aligned] at hentry
    have hslot := hready.fits.slot_of_covered hcovered.1 hcovered.2
    have htable := (congrArg next.userTable hslot).trans hentry
    rw [if_pos hcovered, htable, hkept.1, hkept.2, hready.pages_eq _ hindex]
    rfl
  · have hother : ∀ page, 0 ≤ page → page < 0 + pageCount →
        slot ≠ mmuL3Index (userPageVa imageBase page) := by
      intro page _ hpage heq
      rw [hready.fits.mmuL3Index_eq (by omega)] at heq
      omega
    have htable : next.userTable slot = origin.userTable slot := by
      rw [← hnext, UserState.userTable_setTable, mmuMapUserDataPage,
        mmuMapL3Page_of_ne _ _ _ hstack, userMapLoop_other _ _ _ _ _ hother, hready.table_eq]
    rw [if_neg hcovered, htable]
    rfl

theorem userRunElfFile_ready {platform : Platform} {vfs : VfsState} {state next : UserState}
    {image : UserImage} (hindices : state.indices = []) (hranges : state.ranges = [])
    (hrun : userRunElfFile platform vfs state = (some image, next)) :
    ∃ loaded imageBase pageCount entryPoint usesWritable programSize,
      ReadyToMap platform state imageBase pageCount loaded
      ∧ userRunLoadedPages loaded imageBase entryPoint usesWritable pageCount
        (pmmPageAt platform state.memory pageCount) programSize = (some image, next) := by
  rcases userRunElfFile_cases platform vfs state
    with ⟨file, hresult⟩ | ⟨bytes, _, range, file, -, -, -, hinside, hlt, hresult⟩
  · rw [hresult] at hrun
    simp at hrun
  · rw [hresult] at hrun
    rcases userLoadElf_cases platform vfs (.ofBytes bytes) range
      (userCodePageCount (range.imageEnd - range.imageBase))
      (show (state.setFile file).indices = [] from hindices)
      (show (state.setFile file).ranges = [] from hranges)
      with ⟨_, hload, -⟩ | ⟨_, loaded, stacked, stackPage, -, -, hinv, hstack, hload⟩
    · rw [hload] at hrun
      simp at hrun
    · obtain ⟨rfl, hheld, hframe, -, -⟩ := hinv.allocStack hstack
      rw [hload] at hrun
      exact ⟨stacked, _, _, _, _, _, ⟨⟨hheld.memory_eq, hheld.page_ne, hheld.pages_eq⟩,
        hframe.table_eq, hinside.imageFits hlt⟩, hrun⟩

theorem userRunFlatFile_ready {platform : Platform} {vfs : VfsState} {state next : UserState}
    {image : UserImage} (hindices : state.indices = []) (hranges : state.ranges = [])
    (hrun : userRunFlatFile platform vfs state = (some image, next)) :
    ∃ loaded imageBase pageCount entryPoint usesWritable programSize,
      ReadyToMap platform state imageBase pageCount loaded
      ∧ userRunLoadedPages loaded imageBase entryPoint usesWritable pageCount
        (pmmPageAt platform state.memory pageCount) programSize = (some image, next) := by
  rcases userRunFlatFile_cases platform vfs hindices hranges rfl
    with hresult | ⟨_, hresult, -, -⟩ | ⟨_, _, loaded, hloaded, hresult⟩
  · rw [hresult] at hrun
    simp at hrun
  · rw [hresult] at hrun
    simp at hrun
  · rw [hresult] at hrun
    exact ⟨loaded, _, _, _, _, _, ⟨hloaded.held, hloaded.frame.table_eq, hloaded.fits⟩, hrun⟩

theorem userRunDemo_ready {platform : Platform} {blob : List UInt8} {state next : UserState}
    {image : UserImage} (hrun : userRunDemo platform blob state = (some image, next)) :
    ∃ loaded imageBase pageCount entryPoint usesWritable programSize,
      ReadyToMap platform state imageBase pageCount loaded
      ∧ userRunLoadedPages loaded imageBase entryPoint usesWritable pageCount
        (pmmPageAt platform state.memory pageCount) programSize = (some image, next) := by
  unfold userRunDemo at hrun
  dsimp only at hrun
  split at hrun
  · simp at hrun
  rename_i hpages
  rw [not_or] at hpages
  split at hrun
  · simp at hrun
  refine ⟨_, _, 1, _, _, _, ?_, hrun⟩
  refine ⟨⟨rfl, ?_, ?_⟩, rfl, ⟨rfl, Nat.le_refl _, by decide⟩⟩
  · intro index hindex
    by_cases hzero : index = 0
    · rw [hzero]
      exact hpages.1
    · have hone : index = 1 := by omega
      rw [hone]
      exact hpages.2
  · intro index hindex
    have hzero : index = 0 := by omega
    rw [hzero]
    exact Function.update_self 0 (pmmAllocPage platform state.memory).1 state.pages

/-- A failed call leaves the table, and a call that enters EL0 puts the program's descriptors over it. -/
theorem userCall_table {platform : Platform} {blob : List UInt8} {vfs : VfsState}
    {state next : UserState} {call : UserCall} {image : UserImage}
    (hcall : userCall platform blob vfs state.start call = (some image, next)) (slot : Nat) :
    next.userTable slot
      = ((UserProgram.mk image next.pages next.writable).descriptor slot).or (state.userTable slot) := by
  cases call with
  | demo =>
      obtain ⟨_, _, _, _, _, _, hready, hrun⟩ := userRunDemo_ready hcall
      exact hready.descriptors _ _ _ hrun slot
  | file path =>
      simp only [userCall] at hcall
      unfold userRunFile at hcall
      split at hcall
      · simp at hcall
      rename_i opened file hopen
      dsimp only at hcall
      rw [Prod.mk.injEq] at hcall
      obtain ⟨himage, rfl⟩ := hcall
      have hopened : userRunOpened platform vfs state.start file
          = (some image, (userRunOpened platform vfs state.start file).2) := by
        rw [← himage]
      obtain ⟨started, helf | hflat⟩ := userRunOpened_cases platform vfs state.start file
      · have hresult := helf.symm.trans hopened
        obtain ⟨_, _, _, _, _, _, hready, hrun⟩ := userRunElfFile_ready rfl rfl hresult
        exact hready.descriptors _ _ _ hrun slot
      · have hresult := hflat.symm.trans hopened
        obtain ⟨_, _, _, _, _, _, hready, hrun⟩ := userRunFlatFile_ready rfl rfl hresult
        exact hready.descriptors _ _ _ hrun slot

theorem userCall_failed_table {platform : Platform} {blob : List UInt8} {vfs : VfsState}
    {state next : UserState} {call : UserCall}
    (hcall : userCall platform blob vfs state.start call = (none, next)) :
    next.userTable = state.userTable := by
  cases call with
  | demo =>
      simp only [userCall, userRunDemo] at hcall
      split at hcall
      · cases hcall
        rfl
      split at hcall
      · cases hcall
        rfl
      · simp [userRunLoadedPages] at hcall
  | file path =>
      simp only [userCall] at hcall
      have hfailed := userRunFile_failed platform vfs state path (by rw [hcall])
      rw [hcall] at hfailed
      exact hfailed.table_eq

/-- In every session an entry of the table, its page frame and its attributes, is what the last program that has
mapped it made it: the running program's pages and stack are its own, and every other valid entry is one that an
earlier program has left. -/
theorem user_table_of_session (platform : Platform) (blob : List UInt8)
    (history : List UserProgram) (table : MmuL3Table)
    (hsession : UserSession platform blob history table) (slot : Nat) :
    table slot = history.findSome? (·.descriptor slot) := by
  induction hsession with
  | boot => rfl
  | entered hsession vfs call hcall ih =>
      rw [userCall_table hcall, ih, List.findSome?_cons]
      cases UserProgram.descriptor ⟨_, _, _⟩ slot with
      | none => rfl
      | some descriptor => rfl
  | failed hsession vfs call hcall ih => rw [userCall_failed_table hcall, ih]

/-- A program at 0x20000 is run, and then the demo. -/
def smallElfRun : Option UserImage × UserState :=
  userCall smallPlatform [] (smallVfs (smallElf 0x20000)) smallUserState.start (.file [0x61])

def smallDemoRun : Option UserImage × UserState :=
  userCall smallPlatform [] (smallVfs (smallElf 0x20000)) smallElfRun.2.start .demo

def smallHistory : List UserProgram :=
  [⟨⟨0x10000, 0x10000, false, 1, 0x40005000, 0⟩, smallDemoRun.2.pages, smallDemoRun.2.writable⟩,
    ⟨⟨0x20000, 0x20000, true, 1, 0x40003000, 0x1000⟩, smallElfRun.2.pages, smallElfRun.2.writable⟩]

theorem smallSession : UserSession smallPlatform [] smallHistory smallDemoRun.2.userTable := by
  have helf : smallElfRun.1 = some ⟨0x20000, 0x20000, true, 1, 0x40003000, 0x1000⟩ := by decide +kernel
  have hdemo : smallDemoRun.1 = some ⟨0x10000, 0x10000, false, 1, 0x40005000, 0⟩ := by decide +kernel
  have hfirst : smallElfRun = (some ⟨0x20000, 0x20000, true, 1, 0x40003000, 0x1000⟩, smallElfRun.2) := by
    rw [← helf]
  have hsecond : smallDemoRun = (some ⟨0x10000, 0x10000, false, 1, 0x40005000, 0⟩, smallDemoRun.2) := by
    rw [← hdemo]
  unfold smallElfRun at hfirst
  unfold smallDemoRun at hsecond
  have hboot : UserSession smallPlatform [] [] smallUserState.userTable := .boot
  exact .entered (.entered hboot _ _ hfirst) _ _ hsecond

theorem user_table_of_smallSession :
    smallDemoRun.2.userTable 32 = smallHistory.findSome? (·.descriptor 32) :=
  user_table_of_session smallPlatform [] smallHistory smallDemoRun.2.userTable smallSession 32

/-- While the demo runs, the page of the program before it can still be read at 0x20000. -/
theorem earlier_page_stays_mapped :
    UserSession smallPlatform [] smallHistory smallDemoRun.2.userTable
      ∧ (smallHistory.head?.bind (·.descriptor 32)) = none
      ∧ smallDemoRun.2.userTable 32 = some ⟨0x40002000, .code⟩
      ∧ smallElfRun.2.pages 0 = 0x40002000 ∧ smallDemoRun.2.pages 0 = 0x40004000 :=
  ⟨smallSession, by decide +kernel, by decide +kernel, by decide +kernel, by decide +kernel⟩

end DuckOs

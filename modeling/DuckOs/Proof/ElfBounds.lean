import DuckOs.Proof.UserPages

/-!
# The bounds of the ELF loader

Nothing is assumed about the file: whatever its header and program headers hold, the loader writes
only into the pages it has allocated, and an image it runs lies below the stack page.
-/

namespace DuckOs

open ByteStore

/-! ### The second pass -/

section Loading

variable {platform : Platform} {origin : UserState} {pageCount : Nat}

theorem userCopyChunk_inv (offset : Nat) {chunk : List UInt8} {state : UserState}
    (hinv : LoadInv platform origin pageCount pageCount state) (hchunk : chunk.length ≤ pmmPageSize) :
    LoadInv platform origin pageCount pageCount (userCopyChunk pageCount offset chunk state).2 := by
  have hmod : offset % pmmPageSize < pmmPageSize := Nat.mod_lt _ (by decide)
  unfold userCopyChunk
  dsimp only
  split
  · exact hinv
  rename_i hpage
  have hcopied := hinv.setBytes (Nat.lt_of_not_le hpage) (show offset % pmmPageSize
    + (chunk.take (min (pmmPageSize - offset % pmmPageSize) chunk.length)).length ≤ pmmPageSize by
      rw [List.length_take]
      omega)
  split
  · split
    · exact hcopied
    · rename_i hnext
      have hrest : 0 + (chunk.drop (min (pmmPageSize - offset % pmmPageSize) chunk.length)).length
          ≤ pmmPageSize := by
        rw [List.length_drop]
        omega
      exact hcopied.setBytes (Nat.lt_of_not_le hnext) hrest
  · exact hcopied

theorem userLoadChunk_le {length rest : Nat} (hlength : length = min userLoadChunkSize rest) :
    length ≤ pmmPageSize := by
  simp only [userLoadChunkSize] at hlength
  simp only [pmmPageSize]
  omega

theorem userCopyLoop_inv (vfs : VfsState) (destinationVa size imageBase : Nat)
    (fuel copied : Nat) (state : UserState)
    (hinv : LoadInv platform origin pageCount pageCount state) :
    LoadInv platform origin pageCount pageCount
      (userCopyLoop vfs destinationVa size imageBase pageCount fuel copied state).2 := by
  fun_induction userCopyLoop with
  | case1 => exact hinv
  | case2 => exact hinv
  | case3 => exact hinv
  | case4 _ _ _ _ _ file => exact hinv.setFile file
  | case5 fuel copied state _ chunk file _ hlength next hcopy =>
      rw [not_not] at hlength
      have hnext := userCopyChunk_inv (userImageOffset destinationVa imageBase copied)
        (hinv.setFile file) (userLoadChunk_le hlength)
      rwa [hcopy] at hnext
  | case6 fuel copied state _ chunk file _ hlength next hcopy ih =>
      rw [not_not] at hlength
      have hnext := userCopyChunk_inv (userImageOffset destinationVa imageBase copied)
        (hinv.setFile file) (userLoadChunk_le hlength)
      rw [hcopy] at hnext
      exact ih hnext

theorem userZeroLoop_inv (startVa size imageBase : Nat) (fuel cleared : Nat) (state : UserState)
    (hinv : LoadInv platform origin pageCount pageCount state) :
    LoadInv platform origin pageCount pageCount
      (userZeroLoop startVa size imageBase pageCount fuel cleared state).2 := by
  fun_induction userZeroLoop with
  | case1 => exact hinv
  | case2 => exact hinv
  | case3 => exact hinv
  | case4 fuel cleared state _ offset pageIndex pageOffset hpage clearSize ih =>
      have hmod : pageOffset < pmmPageSize := Nat.mod_lt _ (by decide)
      have hlength : pageOffset + (List.replicate clearSize (0 : UInt8)).length ≤ pmmPageSize := by
        rw [List.length_replicate]
        omega
      exact ih (hinv.setBytes (Nat.lt_of_not_le hpage) hlength)

theorem foldl_setWritable_inv (value : Bool) (indices : List Nat) (state : UserState)
    (hinv : LoadInv platform origin pageCount pageCount state)
    (hindices : ∀ index ∈ indices, index < pageCount) :
    LoadInv platform origin pageCount pageCount
      (indices.foldl (fun state index => state.setWritable index value) state) := by
  induction indices generalizing state with
  | nil => exact hinv
  | cons index rest ih =>
      rw [List.foldl_cons]
      apply ih
      · exact hinv.setWritable (hindices index List.mem_cons_self) value
      · intro other hother
        exact hindices other (List.mem_cons_of_mem _ hother)

theorem userClearWritable_inv {state : UserState}
    (hinv : LoadInv platform origin pageCount pageCount state) :
    LoadInv platform origin pageCount pageCount (userClearWritable state pageCount) :=
  foldl_setWritable_inv false _ _ hinv fun _ hindex => List.mem_range.mp hindex

theorem userMarkSegment_inv {state : UserState} (program : ElfProgramHeader) (first : Nat) {last : Nat}
    (hinv : LoadInv platform origin pageCount pageCount state) (hlast : last < pageCount) :
    LoadInv platform origin pageCount pageCount (userMarkSegment state program first last) := by
  unfold userMarkSegment
  split
  · apply foldl_setWritable_inv true _ _ hinv
    intro index hindex
    rw [List.mem_range'_1] at hindex
    omega
  · exact hinv

theorem userCopySegment_inv (vfs : VfsState) {state : UserState} (program : ElfProgramHeader)
    (imageBase : Nat) (hinv : LoadInv platform origin pageCount pageCount state) :
    LoadInv platform origin pageCount pageCount
      (userCopySegment vfs state program imageBase pageCount).2 := by
  unfold userCopySegment userCopyFileRangeIntoPages
  split
  · split
    · exact hinv
    · exact userCopyLoop_inv vfs _ _ _ _ _ _ (hinv.setFile _)
  · exact hinv

theorem userZeroSegment_inv {state : UserState} (program : ElfProgramHeader) (imageBase : Nat)
    (hinv : LoadInv platform origin pageCount pageCount state) :
    LoadInv platform origin pageCount pageCount
      (userZeroSegment state program imageBase pageCount).2 := by
  unfold userZeroSegment
  split
  · exact userZeroLoop_inv _ _ _ _ _ _ hinv
  · exact hinv

theorem userLoadSegment_inv (vfs : VfsState) {state : UserState} (program : ElfProgramHeader)
    (imageBase : Nat) (hinv : LoadInv platform origin pageCount pageCount state) :
    LoadInv platform origin pageCount pageCount
      (userLoadSegment vfs state program imageBase pageCount).2 := by
  fun_cases userLoadSegment with
  | case1 => exact hinv
  | case2 segmentOffset first last hlast copied hcopy =>
      have hcopied := userCopySegment_inv vfs program imageBase
        (userMarkSegment_inv program first hinv (Nat.lt_of_not_le hlast))
      rwa [hcopy] at hcopied
  | case3 segmentOffset first last hlast copied hcopy =>
      have hcopied := userCopySegment_inv vfs program imageBase
        (userMarkSegment_inv program first hinv (Nat.lt_of_not_le hlast))
      rw [hcopy] at hcopied
      exact userZeroSegment_inv program imageBase hcopied

theorem userSegmentLoop_inv (vfs : VfsState) (header : ElfHeader) (imageBase : Nat)
    (remaining index : Nat) (entryMapped : Bool) (state : UserState)
    (hinv : LoadInv platform origin pageCount pageCount state) :
    LoadInv platform origin pageCount pageCount
      (userSegmentLoop vfs header imageBase pageCount remaining index entryMapped state).2 := by
  fun_induction userSegmentLoop with
  | case1 => exact hinv
  | case2 _ _ _ _ file => exact hinv.setFile file
  | case3 _ _ _ _ _ file _ _ _ ih => exact ih (hinv.setFile file)
  | case4 _ _ _ _ program file _ _ _ next hload =>
      have hnext := userLoadSegment_inv vfs program imageBase (hinv.setFile file)
      rwa [hload] at hnext
  | case5 _ _ _ _ program file _ _ _ next hload ih =>
      have hnext := userLoadSegment_inv vfs program imageBase (hinv.setFile file)
      rw [hload] at hnext
      exact ih hnext

end Loading

/-! ### The first pass -/

/-- Whole pages from the lowest program address up to the stack page. The end may still lie before
the start. -/
structure ElfImageRange.Inside (range : ElfImageRange) : Prop where
  base_aligned : range.imageBase % pmmPageSize = 0
  base_ge : userCodeVa ≤ range.imageBase
  end_aligned : range.imageEnd % pmmPageSize = 0
  end_le : range.imageEnd ≤ userStackTop - pmmPageSize

theorem elfSegmentValid_bounds {program : ElfProgramHeader} {fileSize : Nat}
    (hvalid : elfSegmentValid program fileSize = true) :
    userCodeVa ≤ elfSegmentStart program
      ∧ elfSegmentEnd program ≤ userStackTop - pmmPageSize := by
  simp only [elfSegmentValid, Bool.and_eq_true, decide_eq_true_eq] at hvalid
  exact ⟨hvalid.1.2, hvalid.2⟩

theorem ElfImageRange.Inside.add {range : ElfImageRange} {program : ElfProgramHeader} {fileSize : Nat}
    (hrange : range.found = true → range.Inside) (hvalid : elfSegmentValid program fileSize = true) :
    (range.add program).Inside := by
  obtain ⟨hstart, hend⟩ := elfSegmentValid_bounds hvalid
  have hstartAligned : elfSegmentStart program % pmmPageSize = 0 := Nat.mul_mod_left _ _
  have hendAligned : elfSegmentEnd program % pmmPageSize = 0 := Nat.mul_mod_left _ _
  cases hfound : range.found with
  | false =>
      simp only [ElfImageRange.add, hfound, Bool.not_false, true_or, ↓reduceIte]
      exact ⟨hstartAligned, hstart, hendAligned, hend⟩
  | true =>
      obtain ⟨hbase, hge, htop, hle⟩ := hrange hfound
      simp only [ElfImageRange.add, hfound, Bool.not_true, Bool.false_eq_true, false_or]
      constructor
      · dsimp only
        split
        · exact hstartAligned
        · exact hbase
      · dsimp only
        split
        · exact hstart
        · exact hge
      · dsimp only
        split
        · exact hendAligned
        · exact htop
      · dsimp only
        split
        · exact hend
        · exact hle

theorem userScanLoop_inside (vfs : VfsState) (header : ElfHeader) (remaining index : Nat)
    (range : ElfImageRange) (file : File) (hrange : range.found = true → range.Inside)
    {result : ElfImageRange} (hscan : (userScanLoop vfs header remaining index range file).1
      = some result) (hfound : result.found = true) : result.Inside := by
  fun_induction userScanLoop with
  | case1 =>
      cases hscan
      exact hrange hfound
  | case2 => cases hscan
  | case3 _ _ _ _ _ _ _ _ ih => exact ih hrange hscan
  | case4 => cases hscan
  | case5 _ _ _ _ program file _ _ hvalid ih =>
      apply ih _ hscan
      intro _
      exact ElfImageRange.Inside.add hrange (by simpa using hvalid)

/-! ### The image -/

/-- Every page of the image counts once: the size is a whole number of pages. -/
theorem ElfImageRange.Inside.end_eq {range : ElfImageRange} (hrange : range.Inside)
    (hlt : range.imageBase < range.imageEnd) :
    range.imageBase + userCodePageCount (range.imageEnd - range.imageBase) * pmmPageSize
      = range.imageEnd := by
  obtain ⟨hbase, hge, hend, hle⟩ := hrange
  simp only [userStackTop, pmmPageSize] at hbase hend hle
  simp only [userCodePageCount, pmmPageSize]
  omega

theorem ElfImageRange.Inside.imageFits {range : ElfImageRange} (hrange : range.Inside)
    (hlt : range.imageBase < range.imageEnd) :
    ImageFits range.imageBase (userCodePageCount (range.imageEnd - range.imageBase)) where
  base_aligned := hrange.base_aligned
  base_ge := hrange.base_ge
  end_le := by
    rw [hrange.end_eq hlt]
    exact hrange.end_le

/-- What holds after `user_run_elf_file`, whether EL0 was entered or not. -/
structure ElfBounds (platform : Platform) (memory : MemoryState)
    (result : Option UserImage × UserState) : Prop where
  indices_lt : ∀ index ∈ result.2.indices, index < result.2.pageCount
  ranges_inside : ∀ range ∈ result.2.ranges,
    (∃ index < result.2.pageCount, pmmPageAt platform memory index ≠ 0
      ∧ InsidePage (pmmPageAt platform memory index) range)
    ∨ ∃ image, result.1 = some image ∧ range = (image.stackPage, pmmPageSize)
  pageCount_eq : ∀ image, result.1 = some image → image.pageCount = result.2.pageCount
  mapped : ∀ image, result.1 = some image → image.Mapped platform memory result.2

theorem LoadLog.elfBounds {platform : Platform} {origin : UserState} {pageCount : Nat}
    {state : UserState} (hlog : LoadLog platform origin pageCount state) :
    ElfBounds platform origin.memory (none, state) where
  indices_lt := by
    rw [hlog.pageCount_eq]
    exact hlog.indices_lt
  ranges_inside := by
    intro range hrange
    rw [hlog.pageCount_eq]
    exact Or.inl (hlog.ranges_inside range hrange)
  pageCount_eq := fun image himage => by cases himage
  mapped := fun image himage => by cases himage

theorem LoadInv.runElf {platform : Platform} {origin : UserState} {pageCount imageBase stackPage : Nat}
    {state next : UserState} (hinv : LoadInv platform origin pageCount pageCount state)
    (hstack : userAllocStackPage platform state = (some stackPage, next))
    (hfits : ImageFits imageBase pageCount) (entryPoint programSize : Nat) :
    ElfBounds platform origin.memory
      (userRunLoadedPages next imageBase entryPoint true pageCount stackPage programSize) := by
  obtain ⟨rfl, hheld, hframe, hused, hwritten⟩ := hinv.allocStack hstack
  have hcount := hframe.pageCount_eq
  have hmapped := hheld.run hfits entryPoint true programSize
  unfold userRunLoadedPages at hmapped ⊢
  rw [userMapLoop_eq] at hmapped ⊢
  constructor
  · intro index hindex
    change index ∈ next.indices ++ List.range' 0 pageCount at hindex
    change index < next.pageCount
    rw [hcount]
    rcases List.mem_append.mp hindex with hold | hnew
    · rw [hused] at hold
      exact hinv.indices_lt index hold
    · have hbound := List.mem_range'_1.mp hnew
      omega
  · intro range hrange
    change range ∈ next.ranges at hrange
    change (∃ index < next.pageCount, _) ∨ _
    rw [hwritten] at hrange
    rw [hcount]
    rcases List.mem_append.mp hrange with hold | hnew
    · exact Or.inl (hinv.ranges_inside range hold)
    · exact Or.inr ⟨_, rfl, List.mem_singleton.mp hnew⟩
  · intro image himage
    cases himage
    exact hcount.symm
  · intro image himage
    cases himage
    exact hmapped

/-- Behind the first pass: a failure, or an image whose segments have all been loaded. -/
theorem userLoadElf_cases (platform : Platform) (vfs : VfsState) {state : UserState}
    (header : ElfHeader) (range : ElfImageRange) (pageCount : Nat) (hindices : state.indices = [])
    (hranges : state.ranges = []) :
    (∃ next, userLoadElf platform vfs state header range pageCount = (none, next)
        ∧ LoadLog platform state pageCount next)
      ∨ ∃ allocated loaded next stackPage,
        userAllocProgramPages platform { state with pageCount := pageCount } pageCount
          = (true, allocated)
        ∧ userSegmentLoop vfs header range.imageBase pageCount header.phnum 0 false
          (userClearWritable allocated pageCount) = (some true, loaded)
        ∧ LoadInv platform state pageCount pageCount loaded
        ∧ userAllocStackPage platform loaded = (some stackPage, next)
        ∧ userLoadElf platform vfs state header range pageCount
          = userRunLoadedPages next range.imageBase header.entry true pageCount stackPage
            (range.imageEnd - range.imageBase) := by
  have hfilled : ∀ {allocated next : UserState} {entryMapped : Option Bool},
      userAllocProgramPages platform { state with pageCount := pageCount } pageCount
        = (true, allocated) →
      userSegmentLoop vfs header range.imageBase pageCount header.phnum 0 false
        (userClearWritable allocated pageCount) = (entryMapped, next) →
      LoadInv platform state pageCount pageCount next := by
    intro allocated next entryMapped halloc hload
    have hallocated := (userAllocProgramPages_inv hindices hranges halloc).2 rfl
    have hnext := userSegmentLoop_inv vfs header range.imageBase header.phnum 0 false _
      (userClearWritable_inv hallocated)
    rwa [hload] at hnext
  fun_cases userLoadElf with
  | case1 next halloc =>
      exact Or.inl ⟨next, rfl, (userAllocProgramPages_inv hindices hranges halloc).1⟩
  | case2 allocated halloc next hload =>
      exact Or.inl ⟨next, rfl, (hfilled halloc hload).toLoadLog⟩
  | case3 allocated halloc entryMapped next hload =>
      exact Or.inl ⟨next, rfl, (hfilled halloc hload).toLoadLog⟩
  | case4 allocated halloc entryMapped loaded hload _ next hstack =>
      exact Or.inl ⟨next, rfl, (hfilled halloc hload).allocStackFailed hstack⟩
  | case5 allocated halloc entryMapped loaded hload hentry stackPage next hstack =>
      rw [Bool.not_eq_true', Bool.not_eq_false] at hentry
      subst hentry
      exact Or.inr ⟨allocated, loaded, next, stackPage, halloc, hload, hfilled halloc hload, hstack,
        rfl⟩

/-- A file that is turned down before a page is allocated, or one whose image fits. -/
theorem userRunElfFile_cases (platform : Platform) (vfs : VfsState) (state : UserState) :
    (∃ file, userRunElfFile platform vfs state = (none, state.setFile file))
      ∨ ∃ bytes headerFile range file,
        userReadExactAt vfs state.file 0 ElfHeader.size = (some bytes, headerFile)
        ∧ userElfHeaderValid (.ofBytes bytes) headerFile.size = true
        ∧ userScanLoop vfs (.ofBytes bytes) (ElfHeader.ofBytes bytes).phnum 0 ⟨2 ^ 64 - 1, 0, false⟩
          headerFile = (some range, file)
        ∧ range.Inside ∧ range.imageBase < range.imageEnd
        ∧ userRunElfFile platform vfs state
          = userLoadElf platform vfs (state.setFile file) (.ofBytes bytes) range
            (userCodePageCount (range.imageEnd - range.imageBase)) := by
  fun_cases userRunElfFile with
  | case1 file => exact Or.inl ⟨file, rfl⟩
  | case2 bytes file => exact Or.inl ⟨file, rfl⟩
  | case3 bytes _ _ _ _ file => exact Or.inl ⟨file, rfl⟩
  | case4 bytes _ _ _ _ range file => exact Or.inl ⟨file, rfl⟩
  | case5 bytes _ _ _ _ range file => exact Or.inl ⟨file, rfl⟩
  | case6 bytes _ _ _ _ range file => exact Or.inl ⟨file, rfl⟩
  | case7 bytes file hread header hheader range scanned hscan started hfound pageCount hvalid hentry =>
      rw [not_or, Nat.not_le, Bool.not_eq_true', Bool.not_eq_false] at hfound
      rw [Bool.not_eq_true', Bool.not_eq_false] at hheader
      have hinside : range.Inside := by
        apply userScanLoop_inside vfs header header.phnum 0 ⟨2 ^ 64 - 1, 0, false⟩ file
        · intro hfalse
          cases hfalse
        · rw [hscan]
        · exact hfound.1
      exact Or.inr ⟨bytes, file, range, scanned, hread, hheader, hscan, hinside, hfound.2, rfl⟩

theorem userRunElfFile_bounds (platform : Platform) (vfs : VfsState) (state : UserState) :
    ElfBounds platform state.memory (userRunElfFile platform vfs state.start) := by
  rcases userRunElfFile_cases platform vfs state.start
    with ⟨file, hresult⟩ | ⟨bytes, _, range, file, -, -, -, hinside, hlt, hresult⟩
  · have hlog : LoadLog platform state 0 (state.start.setFile file) :=
      ⟨⟨rfl, rfl, rfl, ⟨0, Nat.zero_le _, rfl⟩⟩, fun _ hindex => absurd hindex List.not_mem_nil,
        fun _ hrange => absurd hrange List.not_mem_nil⟩
    rw [hresult]
    exact hlog.elfBounds
  · rw [hresult]
    rcases userLoadElf_cases platform vfs (.ofBytes bytes) range
      (userCodePageCount (range.imageEnd - range.imageBase))
      (show (state.start.setFile file).indices = [] from rfl)
      (show (state.start.setFile file).ranges = [] from rfl)
      with ⟨next, hload, hlog⟩ | ⟨_, loaded, next, stackPage, -, -, hinv, hstack, hload⟩
    · rw [hload]
      exact hlog.elfBounds
    · rw [hload]
      exact hinv.runElf hstack (hinside.imageFits hlt) _ _

/-- For every content of the file: indices stay below the page count, writes stay in the pages
allocated for the program (the stack page is cleared besides), and an image that is run has its pages
at distinct entries of the table, between the lowest program address and the stack page. -/
theorem elf_loader_bounds (platform : Platform) (vfs : VfsState) (state : UserState) :
    ElfBounds platform state.memory (userRunElfFile platform vfs state.start)
      ∧ ∀ image, (userRunElfFile platform vfs state.start).1 = some image →
        ∀ index < image.pageCount,
          userPageVa image.imageBase index % pmmPageSize = 0
            ∧ userCodeVa ≤ userPageVa image.imageBase index
            ∧ userPageVa image.imageBase index < userStackTop - pmmPageSize
            ∧ mmuL3Index (userPageVa image.imageBase index)
              ≠ mmuL3Index (userStackTop - pmmPageSize)
            ∧ ∀ other < image.pageCount,
              mmuL3Index (userPageVa image.imageBase index)
                = mmuL3Index (userPageVa image.imageBase other) → index = other := by
  have hbounds := userRunElfFile_bounds platform vfs state
  refine ⟨hbounds, ?_⟩
  intro image himage index hindex
  have hfits := (hbounds.mapped image himage).fits
  refine ⟨?_, ?_, ?_, hfits.mmuL3Index_ne_stack hindex, ?_⟩
  · rw [hfits.userPageVa_eq hindex, Nat.add_mul_mod_self_right]
    exact hfits.base_aligned
  · rw [hfits.userPageVa_eq hindex]
    exact hfits.base_ge.trans (Nat.le_add_right _ _)
  · rw [hfits.userPageVa_eq hindex]
    have hend := hfits.end_le
    simp only [pmmPageSize] at hend ⊢
    omega
  · intro other hother heq
    exact hfits.mmuL3Index_inj index hindex other hother heq

end DuckOs

import DuckOs.Proof.MmuTables
import DuckOs.Proof.UserImage

/-!
# The permissions of an ELF image

A page that a writable segment touches is mapped writable and not executable, every other page of the image
executable and read-only. Whether the entry point can be executed is decided by that rule alone: the
loader only checks that a segment contains it.
-/

namespace DuckOs

open ByteStore

section Segments

variable {vfs : VfsState} {origin : File} {writable : Nat → Bool} {pageCount : Nat}

structure SegmentKeeps (origin : File) (writable : Nat → Bool) (state : UserState) : Prop where
  moved : origin.Moved state.file
  writable_eq : state.writable = writable

theorem userCopyChunk_keeps (offset : Nat) (chunk : List UInt8) {state : UserState}
    (hkeeps : SegmentKeeps origin writable state) :
    SegmentKeeps origin writable (userCopyChunk pageCount offset chunk state).2 := by
  unfold userCopyChunk
  dsimp only
  split_ifs
  · exact hkeeps
  · exact ⟨hkeeps.moved, hkeeps.writable_eq⟩
  · exact ⟨hkeeps.moved, hkeeps.writable_eq⟩
  · exact ⟨hkeeps.moved, hkeeps.writable_eq⟩

theorem userCopyLoop_keeps (destinationVa size imageBase fuel copied : Nat) (state : UserState)
    (hkeeps : SegmentKeeps origin writable state) :
    SegmentKeeps origin writable
      (userCopyLoop vfs destinationVa size imageBase pageCount fuel copied state).2 := by
  fun_induction userCopyLoop with
  | case1 => exact hkeeps
  | case2 => exact hkeeps
  | case3 => exact hkeeps
  | case4 _ _ _ _ chunk file hread => exact ⟨hkeeps.moved.fileRead hread, hkeeps.writable_eq⟩
  | case5 fuel copied state _ chunk file hread _ next hcopy =>
      have hnext := @userCopyChunk_keeps origin writable pageCount
        (userImageOffset destinationVa imageBase copied) chunk (state.setFile file)
        ⟨hkeeps.moved.fileRead hread, hkeeps.writable_eq⟩
      rwa [hcopy] at hnext
  | case6 fuel copied state _ chunk file hread _ next hcopy ih =>
      have hnext := @userCopyChunk_keeps origin writable pageCount
        (userImageOffset destinationVa imageBase copied) chunk (state.setFile file)
        ⟨hkeeps.moved.fileRead hread, hkeeps.writable_eq⟩
      rw [hcopy] at hnext
      exact ih hnext

theorem userZeroLoop_keeps (startVa size imageBase fuel cleared : Nat) (state : UserState)
    (hkeeps : SegmentKeeps origin writable state) :
    SegmentKeeps origin writable
      (userZeroLoop startVa size imageBase pageCount fuel cleared state).2 := by
  fun_induction userZeroLoop with
  | case1 => exact hkeeps
  | case2 => exact hkeeps
  | case3 => exact hkeeps
  | case4 _ _ _ _ _ _ _ _ _ ih => exact ih ⟨hkeeps.moved, hkeeps.writable_eq⟩

theorem userCopySegment_keeps (program : ElfProgramHeader) (imageBase : Nat) {state : UserState}
    (hkeeps : SegmentKeeps origin writable state) :
    SegmentKeeps origin writable (userCopySegment vfs state program imageBase pageCount).2 := by
  unfold userCopySegment userCopyFileRangeIntoPages fileSeek
  split
  · by_cases hbeyond : state.file.size < program.offset % 2 ^ 32
    · rw [if_pos hbeyond]
      exact hkeeps
    · rw [if_neg hbeyond]
      exact userCopyLoop_keeps _ _ _ _ _ _ ⟨hkeeps.moved.setOffset _, hkeeps.writable_eq⟩
  · exact hkeeps

theorem userZeroSegment_keeps (program : ElfProgramHeader) (imageBase : Nat) {state : UserState}
    (hkeeps : SegmentKeeps origin writable state) :
    SegmentKeeps origin writable (userZeroSegment state program imageBase pageCount).2 := by
  unfold userZeroSegment
  split
  · exact userZeroLoop_keeps _ _ _ _ _ _ hkeeps
  · exact hkeeps

/-! ### Marks -/

theorem foldl_setWritable_marks (value : Bool) (page : Nat) :
    ∀ (indices : List Nat) (state : UserState),
      (indices.foldl (fun state index => state.setWritable index value) state).writable page
        = if page ∈ indices then value else state.writable page := by
  intro indices
  induction indices with
  | nil => exact fun state => rfl
  | cons index rest ih =>
      intro state
      rw [List.foldl_cons, ih]
      by_cases hrest : page ∈ rest
      · rw [if_pos hrest, if_pos (List.mem_cons_of_mem _ hrest)]
      · rw [if_neg hrest]
        by_cases hindex : page = index
        · rw [if_pos (List.mem_cons.mpr (.inl hindex)), hindex]
          exact Function.update_self _ _ _
        · rw [if_neg (by rw [List.mem_cons, not_or]; exact ⟨hindex, hrest⟩)]
          exact Function.update_of_ne hindex _ _

/-- The pages from the first to the last one of a segment are those that it touches. -/
theorem mem_segment_pages_iff {imageBase fileSize : Nat} {program : ElfProgramHeader}
    (hfits : SegmentFits imageBase pageCount fileSize program) (himage : ImageFits imageBase pageCount)
    (hloaded : program.Loaded) (page : Nat) :
    page ∈ List.range' (userImageOffset program.vaddr imageBase 0 / pmmPageSize % 2 ^ 32)
        ((userImageOffset program.vaddr imageBase 0 + program.memsz - 1) % 2 ^ 64 / pmmPageSize
          % 2 ^ 32 + 1 - userImageOffset program.vaddr imageBase 0 / pmmPageSize % 2 ^ 32)
      ↔ program.touches (imageBase + page * pmmPageSize) = true := by
  have hbase := hfits.base_le
  have hend := hfits.end_le
  have htop := himage.end_le
  have haligned := himage.base_aligned
  have hmemsz := hloaded.2
  simp only [userStackTop, pmmPageSize] at htop
  simp only [pmmPageSize] at hend haligned
  rw [@userImageOffset_eq program.vaddr imageBase 0 hbase (by omega) (by omega),
    List.mem_range'_1, ElfProgramHeader.touches, Bool.and_eq_true, decide_eq_true_eq,
    decide_eq_true_eq]
  simp only [pmmPageSize]
  omega

/-- What the second pass does to the marks with one segment. -/
theorem userLoadSegment_marks {imageBase fileSize : Nat} {program : ElfProgramHeader}
    {state next : UserState} (hfits : SegmentFits imageBase pageCount fileSize program)
    (himage : ImageFits imageBase pageCount) (hloaded : program.Loaded)
    (hmoved : origin.Moved state.file)
    (hload : userLoadSegment vfs state program imageBase pageCount = (true, next)) :
    origin.Moved next.file
      ∧ ∀ page, next.writable page = (state.writable page
        || (program.writes && program.touches (imageBase + page * pmmPageSize))) := by
  unfold userLoadSegment at hload
  dsimp only at hload
  split at hload
  · cases hload
  split at hload
  · cases hload
  rename_i copied hcopy
  have hpages := mem_segment_pages_iff hfits himage hloaded
  generalize userImageOffset program.vaddr imageBase 0 / pmmPageSize % 2 ^ 32 = first at hcopy hpages
  generalize (userImageOffset program.vaddr imageBase 0 + program.memsz - 1) % 2 ^ 64 / pmmPageSize
    % 2 ^ 32 = last at hcopy hpages
  have hmarkFile : (userMarkSegment state program first last).file = state.file :=
    (@userMarkSegment_loads pageCount state program first last 0).2
  have hcopied := @userCopySegment_keeps vfs origin _ pageCount program imageBase
    (userMarkSegment state program first last) ⟨by rw [hmarkFile]; exact hmoved, rfl⟩
  rw [hcopy] at hcopied
  have hzeroed := @userZeroSegment_keeps origin _ pageCount program imageBase copied hcopied
  rw [hload] at hzeroed
  refine ⟨hzeroed.moved, fun page => ?_⟩
  rw [hzeroed.writable_eq]
  unfold userMarkSegment userMarkWritable
  cases hwrites : program.writes with
  | false => simp
  | true =>
      rw [if_pos rfl, foldl_setWritable_marks, Bool.true_and]
      by_cases hpage : program.touches (imageBase + page * pmmPageSize) = true
      · rw [if_pos ((hpages page).mpr hpage), hpage, Bool.or_true]
      · rw [if_neg fun hmem => hpage ((hpages page).mp hmem), Bool.eq_false_iff.mpr hpage,
          Bool.or_false]

/-- A segment that passes the test for the entry point contains it. -/
theorem SegmentFits.contains_entry {imageBase fileSize entry : Nat} {program : ElfProgramHeader}
    (hfits : SegmentFits imageBase pageCount fileSize program) (himage : ImageFits imageBase pageCount)
    (hentry : (decide (program.vaddr ≤ entry)
      && decide (entry < (program.vaddr + program.memsz) % 2 ^ 64)) = true) :
    program.vaddr ≤ entry ∧ entry < program.vaddr + program.memsz := by
  have hend := hfits.end_le
  have htop := himage.end_le
  simp only [userStackTop, pmmPageSize] at htop
  simp only [pmmPageSize] at hend
  rwa [Bool.and_eq_true, decide_eq_true_eq, decide_eq_true_eq, Nat.mod_eq_of_lt (by omega)] at hentry

/-- The first pass has looked at every segment that is loaded. -/
def SegmentsCovered (vfs : VfsState) (origin : File) (header : ElfHeader) (range : ElfImageRange) :
    Prop :=
  ∀ index < header.phnum, ∀ program,
    (userReadProgramHeader vfs origin header index).1 = some program → program.Loaded →
    SegmentCovered range origin.size program

theorem userScanLoop_segmentsCovered {header : ElfHeader} {range result : ElfImageRange}
    {file last : File} (hmoved : origin.Moved file)
    (hscan : userScanLoop vfs header header.phnum 0 range file = (some result, last)) :
    origin.Moved last ∧ SegmentsCovered vfs origin header result := by
  obtain ⟨hlast, -, hcovers⟩ := userScanLoop_covered _ 0 _ hmoved hscan
  refine ⟨hlast, ?_⟩
  intro index hindex program hread hloaded
  obtain ⟨other, hother, hsegment⟩ := hcovers index (Nat.zero_le _) (by omega)
  obtain rfl := Option.some.inj (hread.symm.trans hother)
  exact hsegment hloaded

theorem elfSegmentsReadFrom_succ {header : ElfHeader} {index : Nat} {program : ElfProgramHeader}
    (hread : (userReadProgramHeader vfs origin header index).1 = some program) (count : Nat) :
    elfSegmentsReadFrom vfs origin header index (count + 1)
      = if program.Loaded then program :: elfSegmentsReadFrom vfs origin header (index + 1) count
        else elfSegmentsReadFrom vfs origin header (index + 1) count := by
  unfold elfSegmentsReadFrom
  rw [List.range'_succ, List.filterMap_cons]
  simp only [hread]
  rw [List.filter_cons]
  simp only [decide_eq_true_eq]

/-- Behind the second pass the marked pages are those that a writable segment touches, and the entry point
has been looked for in all segments. -/
theorem userSegmentLoop_marks {header : ElfHeader} {range : ElfImageRange}
    (hinside : range.Inside) (hlt : range.imageBase < range.imageEnd)
    (hcount : userCodePageCount (range.imageEnd - range.imageBase) = pageCount)
    (hcovered : SegmentsCovered vfs origin header range) :
    ∀ (remaining index : Nat) (entryMapped : Bool) {state next : UserState} {result : Bool},
      index + remaining = header.phnum → origin.Moved state.file →
      userSegmentLoop vfs header range.imageBase pageCount remaining index entryMapped state
        = (some result, next) →
      (∀ page, next.writable page = (state.writable page
          || elfPageWritable (elfSegmentsReadFrom vfs origin header index remaining)
            (range.imageBase + page * pmmPageSize)))
        ∧ (result = true → entryMapped = true
          ∨ ∃ program ∈ elfSegmentsReadFrom vfs origin header index remaining,
            program.vaddr ≤ header.entry ∧ header.entry < program.vaddr + program.memsz
              ∧ SegmentFits range.imageBase pageCount origin.size program) := by
  have himage : ImageFits range.imageBase pageCount := hcount ▸ hinside.imageFits hlt
  intro remaining
  induction remaining with
  | zero =>
      intro index entryMapped state next result _ _ hloop
      rw [userSegmentLoop] at hloop
      cases hloop
      exact ⟨fun page => (Bool.or_false _).symm, fun hresult => Or.inl hresult⟩
  | succ remaining ih =>
      intro index entryMapped state next result hindex hmoved hloop
      obtain ⟨hafter, hsame⟩ :=
        @File.Moved.userReadProgramHeader vfs origin state.file hmoved header index
      rw [userSegmentLoop] at hloop
      split at hloop
      · cases hloop
      rename_i program file hread
      rw [hread] at hafter hsame
      rw [elfSegmentsReadFrom_succ hsame.symm]
      dsimp only at hloop
      split at hloop
      · rename_i hskip
        rw [if_neg hskip]
        exact @ih (index + 1) entryMapped (state.setFile file) next result (by omega) hafter hloop
      rename_i hloaded
      rw [not_not] at hloaded
      rw [if_pos hloaded]
      split at hloop
      · cases hloop
      rename_i middle hload
      have hfits := (hcovered index (by omega) program hsame.symm hloaded).segmentFits
        (userReadProgramHeader_words hsame.symm) hinside hlt hcount (userLoadSegment_lastPage hload)
      obtain ⟨hmiddle, hmarks⟩ := @userLoadSegment_marks vfs origin pageCount range.imageBase _ program
        (state.setFile file) middle hfits himage hloaded hafter hload
      obtain ⟨hrest, hentry⟩ := ih (index + 1) _ (by omega) hmiddle hloop
      refine ⟨fun page => ?_, fun hresult => ?_⟩
      · rw [hrest, hmarks, elfPageWritable, elfPageWritable, List.any_cons, Bool.or_assoc]
        rfl
      · rcases hentry hresult with hmapped | ⟨other, hother, hinsideOther⟩
        · rcases Bool.or_eq_true_iff.mp hmapped with hbefore | hhere
          · exact Or.inl hbefore
          · obtain ⟨hge, hlt⟩ := hfits.contains_entry himage hhere
            exact Or.inr ⟨program, List.mem_cons_self, hge, hlt, hfits⟩
        · exact Or.inr ⟨other, List.mem_cons_of_mem _ hother, hinsideOther⟩

end Segments

/-! ### The image -/

theorem userAllocLoop_file (platform : Platform) (remaining index : Nat) (state : UserState) :
    (userAllocLoop platform remaining index state).2.file = state.file := by
  fun_induction userAllocLoop with
  | case1 => rfl
  | case2 => rfl
  | case3 _ _ _ _ _ _ ih => exact ih

theorem userAllocStackPage_writable {platform : Platform} {state next : UserState} {stackPage : Nat}
    (hstack : userAllocStackPage platform state = (some stackPage, next)) :
    next.writable = state.writable := by
  unfold userAllocStackPage at hstack
  dsimp only at hstack
  split at hstack
  · cases hstack
  · cases hstack
    rfl

/-- The attributes of the pages of an image that runs, and where its entry point is. -/
structure ElfPermissions (vfs : VfsState) (file : File) (image : UserImage) (table : MmuL3Table) :
    Prop where
  entry_eq : image.entryPoint = (elfHeaderRead vfs file).entry
  fits : ImageFits image.imageBase image.pageCount
  entry_inside : image.imageBase ≤ image.entryPoint
    ∧ image.entryPoint < image.imageBase + image.pageCount * pmmPageSize
  mapped : ∀ index < image.pageCount, ∃ page,
    table (mmuL3Index (userPageVa image.imageBase index))
      = some ⟨page, if elfPageWritable (elfSegmentsRead vfs file) (userPageVa image.imageBase index)
        then .data else .code⟩

/-- The second pass, the stack page and the page tables. -/
theorem userLoadElf_permissions (platform : Platform) (vfs : VfsState) {origin : File}
    {range : ElfImageRange} {state next : UserState} {image : UserImage}
    (hindices : state.indices = []) (hranges : state.ranges = []) (hinside : range.Inside)
    (hlt : range.imageBase < range.imageEnd) (hmoved : origin.Moved state.file)
    (hcovered : SegmentsCovered vfs origin (elfHeaderRead vfs origin) range)
    (hrun : userLoadElf platform vfs state (elfHeaderRead vfs origin) range
      (userCodePageCount (range.imageEnd - range.imageBase)) = (some image, next)) :
    ElfPermissions vfs origin image next.userTable := by
  generalize hcount : userCodePageCount (range.imageEnd - range.imageBase) = pageCount at hrun
  have himage : ImageFits range.imageBase pageCount := hcount ▸ hinside.imageFits hlt
  rcases userLoadElf_cases platform vfs (elfHeaderRead vfs origin) range pageCount hindices hranges
    with ⟨_, hload, -⟩ | ⟨allocated, loaded, stacked, stackPage, halloc, hsegments, -, hstack, hload⟩
  · rw [hload] at hrun
    cases hrun
  rw [hload] at hrun
  have hallocFile := userAllocLoop_file platform pageCount 0 { state with pageCount := pageCount }
  rw [← userAllocProgramPages, halloc] at hallocFile
  have hclearMoved : origin.Moved (userClearWritable allocated pageCount).file := by
    unfold userClearWritable
    rw [(foldl_setWritable_same false (List.range pageCount) allocated).2.2, hallocFile]
    exact hmoved
  obtain ⟨hmarks, hentry⟩ := userSegmentLoop_marks hinside hlt hcount hcovered _ 0 false
    (Nat.zero_add _) hclearMoved hsegments
  obtain ⟨program, -, hentryGe, hentryLt, hfits⟩ :=
    (hentry rfl).resolve_left Bool.false_ne_true
  have hbase := hfits.base_le
  have hend := hfits.end_le
  have htable := fun index (hindex : index < pageCount) =>
    @userRunLoadedPages_table pageCount stacked _ himage (elfHeaderRead vfs origin).entry true
      stackPage (range.imageEnd - range.imageBase) index hindex
  rw [hrun] at htable
  have himageEq := congrArg Prod.fst hrun
  obtain rfl := Option.some.inj himageEq
  refine ⟨rfl, himage, ⟨by dsimp only; omega, by dsimp only; omega⟩, fun index hindex => ?_⟩
  have hclear : (userClearWritable allocated pageCount).writable index = false := by
    unfold userClearWritable
    rw [foldl_setWritable_marks, if_pos (List.mem_range.mpr hindex)]
  have hpage := hmarks index
  rw [hclear, Bool.false_or] at hpage
  refine ⟨stacked.pages index / mmuL3PageSize * mmuL3PageSize, (htable index hindex).trans ?_⟩
  dsimp only
  rw [himage.userPageVa_eq hindex, userPageAttributes, userAllocStackPage_writable hstack, hpage]
  simp only [true_and]
  rfl

theorem userRunElfFile_permissions (platform : Platform) (vfs : VfsState) {state next : UserState}
    {image : UserImage} (hindices : state.indices = []) (hranges : state.ranges = [])
    (hrun : userRunElfFile platform vfs state = (some image, next)) :
    ElfPermissions vfs state.file image next.userTable := by
  rcases userRunElfFile_cases platform vfs state
    with ⟨file, hresult⟩ | ⟨bytes, headerFile, range, file, hheader, -, hscan, hinside, hlt, hresult⟩
  · rw [hresult] at hrun
    cases hrun
  rw [hresult] at hrun
  have hheaderRead : elfHeaderRead vfs state.file = .ofBytes bytes := by
    rw [elfHeaderRead, hheader]
    rfl
  have hheaderFile := (@File.Moved.userReadExactAt vfs state.file _ state.file.moved_refl 0
    ElfHeader.size).1
  rw [hheader] at hheaderFile
  rw [← hheaderRead] at hscan hrun
  obtain ⟨hfile, hcovered⟩ := userScanLoop_segmentsCovered hheaderFile hscan
  exact @userLoadElf_permissions platform vfs state.file range (state.setFile file) next image
    hindices hranges hinside hlt hfile hcovered hrun

/-- For every file that is accepted and entered: a page of the image is mapped as data if a writable segment
touches it, and as code otherwise. So the page of the entry point is executable if and only if no writable
segment touches it. -/
theorem elf_entry_executable_iff (platform : Platform) (vfs : VfsState) (state : UserState)
    (image : UserImage) (hrun : (userRunElfFile platform vfs state.start).1 = some image) :
    let table := (userRunElfFile platform vfs state.start).2.userTable
    let segments := elfSegmentsRead vfs state.file
    image.entryPoint = (elfHeaderRead vfs state.file).entry
      ∧ (∀ index < image.pageCount, ∃ page,
        table (mmuL3Index (userPageVa image.imageBase index))
          = some ⟨page, if elfPageWritable segments (userPageVa image.imageBase index) then .data
            else .code⟩)
      ∧ (∀ attributes : MmuUserAttributes,
        let access := TranslationTable.access (Mmu.userAttributes attributes ||| Mmu.descPage) 0
        access.el0Execute = decide (attributes = .code) ∧ access.el0Write = decide (attributes = .data))
      ∧ ((∃ page, table (mmuL3Index image.entryPoint) = some ⟨page, .code⟩)
        ↔ elfPageWritable segments (image.entryPoint / pmmPageSize * pmmPageSize) = false) := by
  intro table segments
  have hpermissions : ElfPermissions vfs state.file image table :=
    @userRunElfFile_permissions platform vfs state.start _ image rfl rfl (Prod.ext hrun rfl)
  obtain ⟨hentry, hfits, ⟨hbase, hend⟩, hmapped⟩ := hpermissions
  refine ⟨hentry, hmapped, fun attributes => ?_, ?_⟩
  · rw [Mmu.user_access]
    cases attributes with
    | code => exact ⟨rfl, rfl⟩
    | data => exact ⟨rfl, rfl⟩
  · have haligned := hfits.base_aligned
    have htop := hfits.end_le
    simp only [userStackTop, pmmPageSize] at haligned htop hend
    have hindex : (image.entryPoint - image.imageBase) / 4096 < image.pageCount := by omega
    have hva := hfits.userPageVa_eq hindex
    have hpage : userPageVa image.imageBase ((image.entryPoint - image.imageBase) / 4096)
        = image.entryPoint / pmmPageSize * pmmPageSize := by
      rw [hva]
      simp only [pmmPageSize]
      omega
    have hslot : mmuL3Index image.entryPoint
        = mmuL3Index (userPageVa image.imageBase ((image.entryPoint - image.imageBase) / 4096)) := by
      rw [hpage]
      simp only [mmuL3Index, mmuL3PageSize, mmuTableEntries, pmmPageSize]
      omega
    obtain ⟨page, hentryMapped⟩ := hmapped _ hindex
    rw [hslot, ← hpage, hentryMapped]
    cases elfPageWritable segments
        (userPageVa image.imageBase ((image.entryPoint - image.imageBase) / 4096)) with
    | false => exact iff_of_true ⟨page, rfl⟩ rfl
    | true =>
        refine iff_of_false ?_ Bool.noConfusion
        rintro ⟨other, hcode⟩
        cases hcode

def smallElfState : UserState := smallUserState.setFile ⟨[0x61], 124, 0, 0, smallFile_size_lt⟩

theorem elf_entry_executable_small :
    ∃ page, (userRunElfFile smallPlatform (smallVfs (smallElf 0x20000))
      smallElfState.start).2.userTable (mmuL3Index 0x20000) = some ⟨page, .code⟩ := by
  have hrun : (userRunElfFile smallPlatform (smallVfs (smallElf 0x20000)) smallElfState.start).1
      = some ⟨0x20000, 0x20000, true, 1, 0x40003000, 0x1000⟩ := by decide +kernel
  have hclear : elfPageWritable (elfSegmentsRead (smallVfs (smallElf 0x20000)) smallElfState.file)
      (0x20000 / pmmPageSize * pmmPageSize) = false := by decide +kernel
  have hiff := elf_entry_executable_iff smallPlatform (smallVfs (smallElf 0x20000)) smallElfState _ hrun
  dsimp only at hiff
  exact hiff.2.2.2.mpr hclear

/-- The same program with a segment that is writable as well. -/
def writableElf : List UInt8 := (smallElf 0x20000).set 68 7

/-- It is entered, at a page that it cannot execute. -/
theorem elf_entry_not_executable :
    (userRunElfFile smallPlatform (smallVfs writableElf) smallElfState.start).1
        = some ⟨0x20000, 0x20000, true, 1, 0x40003000, 0x1000⟩
      ∧ ¬ ∃ page, (userRunElfFile smallPlatform (smallVfs writableElf)
        smallElfState.start).2.userTable (mmuL3Index 0x20000) = some ⟨page, .code⟩ := by
  have hdata : (userRunElfFile smallPlatform (smallVfs writableElf)
      smallElfState.start).2.userTable (mmuL3Index 0x20000) = some ⟨0x40002000, .data⟩ := by
    decide +kernel
  refine ⟨by decide +kernel, ?_⟩
  rintro ⟨page, hcode⟩
  cases hdata.symm.trans hcode

end DuckOs

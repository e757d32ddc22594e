import DuckOs.Proof.UserLoad
import DuckOs.Proof.UserRun

/-!
# The memory of a program at its entry

A file that is accepted has been copied into the image as its format says, and the page table shows
the image to EL0 at the addresses of the program.
-/

namespace DuckOs

open ByteStore PagedStore

/-! ### From the image to EL0 -/

section Entry

variable {platform : Platform} {origin state next : UserState} {imageBase pageCount : Nat}
  {image : UserImage}

theorem ImageFits.mmuTranslate_eq (hfits : ImageFits imageBase pageCount) {table : MmuL3Table}
    {offset page : Nat} {attributes : MmuUserAttributes} (hoffset : offset < pageCount * pmmPageSize)
    (hentry : table (mmuL3Index (userPageVa imageBase (offset / pmmPageSize)))
      = some ⟨page, attributes⟩) :
    mmuTranslate table (imageBase + offset) = some (page + offset % pmmPageSize) := by
  have hindex := hfits.mmuL3Index_eq (div_lt_of_lt_mul hoffset).1
  have haligned := hfits.base_aligned
  have hend := hfits.end_le
  have hsame : mmuL3Index (imageBase + offset)
      = mmuL3Index (userPageVa imageBase (offset / pmmPageSize)) := by
    rw [hindex]
    simp only [mmuL3Index, mmuL3PageSize, mmuTableEntries, userStackTop, pmmPageSize] at *
    omega
  have hmod : (imageBase + offset) % mmuL3PageSize = offset % pmmPageSize := by
    simp only [mmuL3PageSize, pmmPageSize] at *
    omega
  rw [mmuTranslate, hsame, hentry, Option.map_some, hmod]

/-- The image is what EL0 sees at the entry. -/
theorem PagesHeld.byteAt (hheld : PagesHeld platform origin pageCount (pageCount + 1) state)
    (hfits : ImageFits imageBase pageCount) {entryPoint programSize : Nat} {usesWritable : Bool}
    (hrun : userRunLoadedPages state imageBase entryPoint usesWritable pageCount
      (pmmPageAt platform origin.memory pageCount) programSize = (some image, next)) :
    image.imageBase = imageBase ∧ image.pageCount = pageCount
      ∧ ∀ offset < pageCount * pmmPageSize,
        next.byteAt (imageBase + offset) = some (state.image offset) := by
  have hmapped := hheld.run hfits entryPoint usesWritable programSize
  rw [hrun] at hmapped
  unfold userRunLoadedPages at hrun
  rw [userMapLoop_eq] at hrun
  cases hrun
  refine ⟨rfl, rfl, ?_⟩
  intro offset hoffset
  have hindex := (div_lt_of_lt_mul hoffset).1
  obtain ⟨attributes, hentry⟩ := hmapped.mapped _ hindex
  rw [UserState.byteAt, hfits.mmuTranslate_eq hoffset hentry, Option.map_some, UserState.image, view,
    hheld.pages_eq _ hindex]
  rfl

end Entry

/-! ### Flat files -/

section Flat

variable {platform : Platform} {firstFree : Nat} {held : Finset Nat} {vfs : VfsState}
  {device : BlockDevice} {entry : TinyfsFile} {state next : UserState} {image : UserImage}

theorem userCodePageCount_bounds {size : Nat} (hsize : size < 2 ^ 32) :
    size ≤ userCodePageCount size * pmmPageSize
      ∧ userCodePageCount size * pmmPageSize < size + pmmPageSize := by
  simp only [userCodePageCount, pmmPageSize]
  omega

theorem FlatLoaded.cleared (hinside : BitmapInside platform firstFree)
    (hreachable : PmmReachable platform firstFree state.memory held)
    (hindices : state.indices = []) (hranges : state.ranges = []) {pageCount : Nat}
    {allocated stacked loaded : UserState}
    (hloaded : FlatLoaded platform vfs state pageCount allocated stacked loaded) :
    stacked.file = state.file ∧ Apart pmmPageSize stacked.pages pageCount
      ∧ AgreeBelow (pageCount * pmmPageSize) stacked.image (fun _ => 0) := by
  obtain ⟨hzero, hallocFile⟩ :=
    userAllocProgramPages_zero hinside hreachable hindices hranges hloaded.alloc
  obtain ⟨hpages, hstacked, hstackFile⟩ :=
    userAllocStackPage_image hinside hreachable hloaded.inv hloaded.stack
  refine ⟨hstackFile.trans hallocFile, ?_, hstacked.trans hzero⟩
  rw [hpages]
  exact hloaded.inv.toPagesHeld.apart hinside hreachable le_rfl

theorem userRunFlatFile_image (hinside : BitmapInside platform firstFree)
    (hreachable : PmmReachable platform firstFree state.memory held)
    (hstores : vfs.Stores device entry) (hof : state.file.Of entry) (hstart : state.file.offset = 0)
    (hlow : ∀ position, position % userLoadChunkSize = 0 → position < entry.size →
      entry.offset + position < 2 ^ 32)
    (hindices : state.indices = []) (hranges : state.ranges = [])
    (hrun : userRunFlatFile platform vfs state = (some image, next)) :
    FlatImage (entry.contents device) image next := by
  rcases userRunFlatFile_cases platform vfs hindices hranges rfl
    with hresult | ⟨_, hresult, -, -⟩ | ⟨allocated, stacked, loaded, hloaded, hresult⟩
  · rw [hresult] at hrun
    cases hrun
  · rw [hresult] at hrun
    cases hrun
  rw [hresult] at hrun
  generalize hcount : userCodePageCount state.file.size = pageCount at hloaded hrun
  obtain ⟨hfile, hapart, hzero⟩ := hloaded.cleared hinside hreachable hindices hranges
  have hload := hloaded.load
  unfold userLoadFileIntoPages at hload
  obtain ⟨hloads, -⟩ := userLoadLoop_loads hstores hlow _ 0 hapart (by rwa [hfile])
    (by rw [hfile, hstart]) (Nat.zero_le _) (fun _ => rfl) hload
  obtain ⟨hbase, hcountEq, hbytes⟩ := hloaded.held.byteAt hloaded.fits hrun
  have hsize := userCodePageCount_bounds entry.size_lt
  rw [hof.size_eq] at hcount
  rw [hcount] at hsize
  constructor
  · exact hbase
  · rw [hcountEq, length_contents]
    exact hsize.1
  · rw [hcountEq, length_contents]
    exact hsize.2
  · intro index hindex
    rw [hcountEq] at hindex
    rw [hbytes index hindex, hloads.image_eq index hindex, List.drop_zero]
    rw [patch, if_neg (Nat.not_lt_zero _), Nat.sub_zero, hzero index hindex]

end Flat

/-! ### The first pass -/

section Scan

variable {vfs : VfsState} {device : BlockDevice} {entry : TinyfsFile}

theorem ElfImageRange.add_covers (range : ElfImageRange) (program : ElfProgramHeader) :
    (range.add program).found = true
      ∧ (range.add program).imageBase ≤ elfSegmentStart program
      ∧ elfSegmentEnd program ≤ (range.add program).imageEnd
      ∧ (range.found = true → (range.add program).imageBase ≤ range.imageBase
        ∧ range.imageEnd ≤ (range.add program).imageEnd) := by
  unfold ElfImageRange.add
  dsimp only
  refine ⟨rfl, ?_, ?_, ?_⟩
  · split
    · exact Nat.le_refl _
    · omega
  · split
    · exact Nat.le_refl _
    · omega
  · intro hfound
    rw [hfound]
    simp only [Bool.not_true, Bool.false_eq_true, false_or]
    constructor
    · split <;> omega
    · split <;> omega

/-- A segment that has passed the checks, and a range that covers it. -/
structure SegmentCovered (range : ElfImageRange) (fileSize : Nat) (program : ElfProgramHeader) :
    Prop where
  valid : elfSegmentValid program fileSize = true
  base_le : range.imageBase ≤ elfSegmentStart program
  end_le : elfSegmentEnd program ≤ range.imageEnd

/-- Behind the first pass every program header has been read, and the range covers the segments. -/
theorem userScanLoop_covered {origin : File} {header : ElfHeader} :
    ∀ (remaining index : Nat) (range : ElfImageRange) {file last : File} {result : ElfImageRange},
      origin.Moved file →
      userScanLoop vfs header remaining index range file = (some result, last) →
      origin.Moved last
        ∧ (range.found = true → result.imageBase ≤ range.imageBase ∧ range.imageEnd ≤ result.imageEnd)
        ∧ ∀ other, index ≤ other → other < index + remaining →
          ∃ program, (userReadProgramHeader vfs origin header other).1 = some program
            ∧ (program.Loaded → SegmentCovered result origin.size program) := by
  intro remaining
  induction remaining with
  | zero =>
      intro index range file last result hmoved hscan
      rw [userScanLoop] at hscan
      cases hscan
      exact ⟨hmoved, fun _ => ⟨Nat.le_refl _, Nat.le_refl _⟩, fun other hle hlt => by omega⟩
  | succ remaining ih =>
      intro index range file last result hmoved hscan
      obtain ⟨hafter, hsame⟩ := @File.Moved.userReadProgramHeader vfs origin file hmoved header index
      have hshift : index + 1 + remaining = index + (remaining + 1) := by omega
      rw [userScanLoop] at hscan
      split at hscan
      · cases hscan
      rename_i program after hread
      rw [hread] at hafter hsame
      split at hscan
      · rename_i hskip
        obtain ⟨hlast, hmono, hcovers⟩ := ih (index + 1) range hafter hscan
        refine ⟨hlast, hmono, fun other hle hlt => ?_⟩
        by_cases hindex : other = index
        · subst hindex
          exact ⟨program, hsame.symm, fun hloaded => absurd hloaded hskip⟩
        · exact hcovers other (by omega) (by omega)
      split at hscan
      · cases hscan
      rename_i hload hsegment
      obtain ⟨hfound, hbase, hend, hgrows⟩ := range.add_covers program
      obtain ⟨hlast, hmono, hcovers⟩ := ih (index + 1) _ hafter hscan
      obtain ⟨hbaseLast, hendLast⟩ := hmono hfound
      refine ⟨hlast, fun hrange => ?_, fun other hle hlt => ?_⟩
      · have hstep := hgrows hrange
        omega
      · by_cases hindex : other = index
        · subst hindex
          refine ⟨program, hsame.symm, fun _ => ⟨?_, by omega, by omega⟩⟩
          rw [hafter.size_eq] at hsegment
          simpa using hsegment
        · exact hcovers other (by omega) (by omega)

/-- The same for the program headers in the bytes of the file. -/
structure ElfCovered (contents : List UInt8) (range : ElfImageRange) (index : Nat) : Prop where
  valid : elfSegmentValid (elfProgram contents index) contents.length = true
  base_le : range.imageBase ≤ elfSegmentStart (elfProgram contents index)
  end_le : elfSegmentEnd (elfProgram contents index) ≤ range.imageEnd

theorem userScanLoop_covers (hstores : vfs.Stores device entry)
    (hvalid : userElfHeaderValid (elfHeader (entry.contents device)) entry.size = true)
    (hlow : ∀ index < (elfHeader (entry.contents device)).phnum,
      entry.offset + elfProgramOffset (entry.contents device) index < 2 ^ 32)
    (range : ElfImageRange) {file last : File} {result : ElfImageRange} (hof : file.Of entry)
    (hscan : userScanLoop vfs (elfHeader (entry.contents device))
      (elfHeader (entry.contents device)).phnum 0 range file = (some result, last)) :
    last.Of entry
      ∧ ∀ index < (elfHeader (entry.contents device)).phnum,
        (elfProgram (entry.contents device) index).Loaded →
        ElfCovered (entry.contents device) result index := by
  obtain ⟨hlast, -, hcovers⟩ := userScanLoop_covered _ 0 range file.moved_refl hscan
  refine ⟨by rw [hlast]; exact hof.setOffset _, fun index hindex hloaded => ?_⟩
  obtain ⟨program, hread, hcovered⟩ := hcovers index (Nat.zero_le _) (by omega)
  have hprogram := hstores.of_userReadProgramHeader hof hvalid hindex (hlow index hindex) hread
  subst hprogram
  obtain ⟨hsegment, hbase, hend⟩ := hcovered hloaded
  rw [hof.size_eq, ← length_contents device entry] at hsegment
  exact ⟨hsegment, hbase, hend⟩

end Scan

/-! ### The second pass -/

section Second

variable {vfs : VfsState} {device : BlockDevice} {entry : TinyfsFile} {range : ElfImageRange}
  {pageCount : Nat}

/-- A segment whose last page is in the image lies in the image: where the rounded end wrapped around
in the first pass, the last page is far outside. -/
theorem SegmentCovered.segmentFits {fileSize : Nat} {program : ElfProgramHeader}
    (hcovered : SegmentCovered range fileSize program)
    (hwords : program.offset < 2 ^ 64 ∧ program.vaddr < 2 ^ 64 ∧ program.filesz < 2 ^ 64
      ∧ program.memsz < 2 ^ 64) (hinside : range.Inside)
    (hlt : range.imageBase < range.imageEnd)
    (hcount : userCodePageCount (range.imageEnd - range.imageBase) = pageCount)
    (hlast : (userImageOffset program.vaddr range.imageBase 0 + program.memsz - 1) % 2 ^ 64
      / pmmPageSize % 2 ^ 32 < pageCount) :
    SegmentFits range.imageBase pageCount fileSize program := by
  have hwhole := hinside.end_eq hlt
  rw [hcount] at hwhole
  obtain ⟨hvalid, hbase, hend⟩ := hcovered
  obtain ⟨hoffset, hvaddr, hfilesz, hmemsz⟩ := hwords
  have htop := hinside.end_le
  have hlow := hinside.base_ge
  have haligned := hinside.base_aligned
  unfold elfSegmentValid at hvalid
  simp only [Bool.and_eq_true, decide_eq_true_eq] at hvalid
  obtain ⟨⟨⟨⟨⟨hle, hstart⟩, hfile⟩, hwrap⟩, -⟩, -⟩ := hvalid
  simp only [elfSegmentStart, pmmPageSize] at hbase
  simp only [elfSegmentEnd, pmmPageSize] at hend
  simp only [userStackTop, pmmPageSize] at htop
  simp only [userCodeVa] at hlow
  simp only [pmmPageSize] at hwhole haligned hlast
  have hfits : program.vaddr + program.memsz < 2 ^ 64 := by omega
  have hbelow : range.imageBase ≤ program.vaddr := by omega
  by_cases hround : program.vaddr + program.memsz + 4096 - 1 < 2 ^ 64
  · exact ⟨hbelow, by simp only [pmmPageSize]; omega, hle, by omega⟩
  · exfalso
    unfold userImageOffset at hlast
    have hplace : (program.vaddr + (2 ^ 64 - range.imageBase) + 0) % 2 ^ 64
        = program.vaddr - range.imageBase := by omega
    rw [hplace, Nat.mod_eq_of_lt (by omega)] at hlast
    omega

theorem ElfCovered.segmentFits {contents : List UInt8} {index : Nat}
    (hcovered : ElfCovered contents range index) (hinside : range.Inside)
    (hlt : range.imageBase < range.imageEnd)
    (hcount : userCodePageCount (range.imageEnd - range.imageBase) = pageCount)
    (hlast : (userImageOffset (elfProgram contents index).vaddr range.imageBase 0
      + (elfProgram contents index).memsz - 1) % 2 ^ 64 / pmmPageSize % 2 ^ 32 < pageCount) :
    SegmentFits range.imageBase pageCount contents.length (elfProgram contents index) := by
  have hoffset : (elfProgram contents index).offset < 256 ^ 8 := field_lt _ 8 8
  have hvaddr : (elfProgram contents index).vaddr < 256 ^ 8 := field_lt _ 16 8
  have hfilesz : (elfProgram contents index).filesz < 256 ^ 8 := field_lt _ 32 8
  have hmemsz : (elfProgram contents index).memsz < 256 ^ 8 := field_lt _ 40 8
  have hsegment : SegmentCovered range contents.length (elfProgram contents index) :=
    ⟨hcovered.valid, hcovered.base_le, hcovered.end_le⟩
  exact hsegment.segmentFits ⟨by omega, by omega, by omega, by omega⟩ hinside hlt hcount hlast

/-- The loaded segments from a program header on. -/
def elfSegmentsFrom (contents : List UInt8) (index count : Nat) : List ElfProgramHeader :=
  ((List.range' index count).map (elfProgram contents)).filter fun program => program.Loaded

theorem elfSegmentsFrom_succ (contents : List UInt8) (index count : Nat) :
    elfSegmentsFrom contents index (count + 1)
      = if (elfProgram contents index).Loaded then
          elfProgram contents index :: elfSegmentsFrom contents (index + 1) count
        else elfSegmentsFrom contents (index + 1) count := by
  unfold elfSegmentsFrom
  rw [List.range'_succ, List.map_cons, List.filter_cons]
  simp only [decide_eq_true_eq]

theorem elfSegmentsFrom_zero (contents : List UInt8) :
    elfSegmentsFrom contents 0 (elfHeader contents).phnum = elfSegments contents := by
  unfold elfSegmentsFrom elfSegments
  rw [List.range_eq_range']

/-- The places and the bytes of segments in the image. -/
def segmentWrites (contents : List UInt8) (imageBase : Nat) (programs : List ElfProgramHeader) :
    List (Nat × List UInt8) :=
  programs.map fun program => (program.vaddr - imageBase, program.bytes contents)

/-- What the second pass needs to know of a program header. -/
structure ElfReadable (contents : List UInt8) (range : ElfImageRange) (offset index : Nat) : Prop where
  header_lt : offset + elfProgramOffset contents index < 2 ^ 32
  covered : (elfProgram contents index).Loaded → ElfCovered contents range index
  bytes_lt : (elfProgram contents index).Loaded → ∀ position, position % userLoadChunkSize = 0 →
    position < (elfProgram contents index).filesz →
    offset + ((elfProgram contents index).offset + position) < 2 ^ 32

theorem userLoadSegment_lastPage {program : ElfProgramHeader} {imageBase : Nat}
    {state next : UserState}
    (hload : userLoadSegment vfs state program imageBase pageCount = (true, next)) :
    (userImageOffset program.vaddr imageBase 0 + program.memsz - 1) % 2 ^ 64 / pmmPageSize % 2 ^ 32
      < pageCount := by
  unfold userLoadSegment at hload
  dsimp only at hload
  split at hload
  · cases hload
  · rename_i hlast
    exact Nat.lt_of_not_le hlast

/-- Behind the second pass the image holds every segment, and every segment lies in it. -/
theorem userSegmentLoop_loads (hstores : vfs.Stores device entry)
    (hvalid : userElfHeaderValid (elfHeader (entry.contents device)) entry.size = true)
    (hinside : range.Inside) (hlt : range.imageBase < range.imageEnd)
    (hcount : userCodePageCount (range.imageEnd - range.imageBase) = pageCount)
    (hreadable : ∀ index < (elfHeader (entry.contents device)).phnum,
      ElfReadable (entry.contents device) range entry.offset index) :
    ∀ (remaining index : Nat) (entryMapped : Bool) {state next : UserState} {result : Bool},
      Apart pmmPageSize state.pages pageCount → state.file.Of entry →
      index + remaining = (elfHeader (entry.contents device)).phnum →
      userSegmentLoop vfs (elfHeader (entry.contents device)) range.imageBase pageCount remaining
        index entryMapped state = (some result, next) →
      AgreeBelow (pageCount * pmmPageSize) next.image
          (patchAll state.image (segmentWrites (entry.contents device) range.imageBase
            (elfSegmentsFrom (entry.contents device) index remaining)))
        ∧ ∀ program ∈ elfSegmentsFrom (entry.contents device) index remaining,
          SegmentFits range.imageBase pageCount entry.size program := by
  intro remaining
  induction remaining with
  | zero =>
      intro index entryMapped state next result _ _ _ hloop
      rw [userSegmentLoop] at hloop
      cases hloop
      exact ⟨fun _ _ => rfl, fun _ hmem => absurd hmem List.not_mem_nil⟩
  | succ remaining ih =>
      intro index entryMapped state next result hapart hof hindex hloop
      have hread := hreadable index (by omega)
      have hof' := @File.Of.userReadProgramHeader vfs entry state.file hof
        (elfHeader (entry.contents device)) index
      rw [elfSegmentsFrom_succ]
      rw [userSegmentLoop] at hloop
      split at hloop
      · cases hloop
      rename_i program file hheader
      rw [hheader] at hof'
      have hprogram := hstores.of_userReadProgramHeader hof hvalid (by omega) hread.header_lt
        (by rw [hheader])
      subst hprogram
      dsimp only at hloop
      split at hloop
      · rename_i hskip
        rw [if_neg hskip]
        exact @ih (index + 1) entryMapped (state.setFile file) next result hapart hof' (by omega) hloop
      rename_i hloaded
      rw [not_not] at hloaded
      rw [if_pos hloaded]
      split at hloop
      · cases hloop
      rename_i middle hload
      have hfits := (hread.covered hloaded).segmentFits hinside hlt hcount
        (userLoadSegment_lastPage hload)
      rw [length_contents] at hfits
      have himage : ImageFits range.imageBase pageCount := hcount ▸ hinside.imageFits hlt
      obtain ⟨hloads, hmiddle⟩ := @userLoadSegment_loads pageCount (state.setFile file) middle vfs
        device entry hstores range.imageBase _ hfits himage (hread.bytes_lt hloaded) hapart hof' hload
      obtain ⟨hrest, hall⟩ := ih (index + 1) _ (hloads.apart hapart) hmiddle (by omega) hloop
      refine ⟨hrest.trans (hloads.image_eq.patchAll _), ?_⟩
      intro other hother
      rcases List.mem_cons.mp hother with rfl | hmem
      · exact hfits
      · exact hall other hmem

end Second

/-! ### ELF files -/

section Elf

variable {contents : List UInt8} {image : UserImage} {state : UserState}

theorem getD_segment_bytes {imageBase pageCount : Nat} {program : ElfProgramHeader}
    (hfits : SegmentFits imageBase pageCount contents.length program) {index : Nat}
    (hindex : index < (program.bytes contents).length) :
    (program.bytes contents)[index]
      = if index < program.filesz then contents.getD (program.offset + index) 0 else 0 := by
  have hfile := hfits.file_le
  have hlength : ((contents.drop program.offset).take program.filesz).length = program.filesz := by
    rw [List.length_take, List.length_drop]
    omega
  unfold ElfProgramHeader.bytes at hindex ⊢
  by_cases hstored : index < program.filesz
  · rw [List.getElem_append_left (by omega), List.getElem_take, List.getElem_drop, if_pos hstored,
      List.getD_eq_getElem?_getD, List.getElem?_eq_getElem (by omega), Option.getD_some]
  · rw [List.getElem_append_right (by omega), List.getElem_replicate, if_neg hstored]

/-- An image of zeros with the segments written into it is what the file asks for. -/
theorem elfImage_of_segments
    (hfits : ∀ program ∈ elfSegments contents,
      SegmentFits image.imageBase image.pageCount contents.length program)
    (hdisjoint : (elfSegments contents).Pairwise ElfProgramHeader.Disjoint)
    (hbytes : ∀ offset < image.pageCount * pmmPageSize,
      state.byteAt (image.imageBase + offset)
        = some (patchAll (fun _ => 0)
            (segmentWrites contents image.imageBase (elfSegments contents)) offset)) :
    ElfImage contents image state := by
  have hlength : ∀ program ∈ elfSegments contents, (program.bytes contents).length = program.memsz :=
    fun program hmem => length_segment_bytes rfl (hfits program hmem)
  have hapart : (segmentWrites contents image.imageBase (elfSegments contents)).Pairwise
      fun first second => first.1 + first.2.length ≤ second.1
        ∨ second.1 + second.2.length ≤ first.1 := by
    unfold segmentWrites
    rw [List.pairwise_map]
    apply hdisjoint.imp_of_mem
    intro first second hfirst hsecond hpair
    have hfirstBase := (hfits first hfirst).base_le
    have hsecondBase := (hfits second hsecond).base_le
    unfold ElfProgramHeader.Disjoint at hpair
    rw [hlength first hfirst, hlength second hsecond]
    omega
  constructor
  · intro program hmem
    exact (hfits program hmem).file_le
  · intro program hmem index hindex
    have hbase := (hfits program hmem).base_le
    have hend := (hfits program hmem).end_le
    have hwrite : (program.vaddr - image.imageBase, program.bytes contents)
        ∈ segmentWrites contents image.imageBase (elfSegments contents) :=
      List.mem_map_of_mem hmem
    have hinside : index < (program.bytes contents).length := by
      rw [hlength program hmem]
      exact hindex
    have haddress : program.vaddr + index
        = image.imageBase + (program.vaddr - image.imageBase + index) := by omega
    rw [haddress, hbytes _ (by omega), patchAll_of_mem hapart hwrite hinside,
      getD_segment_bytes (hfits program hmem)]
  · intro address hlow hhigh houtside
    obtain ⟨offset, rfl⟩ := Nat.exists_eq_add_of_le hlow
    rw [hbytes offset (by omega), patchAll_outside]
    intro write hwrite
    obtain ⟨program, hmem, rfl⟩ := List.mem_map.mp hwrite
    have hbase := (hfits program hmem).base_le
    have hother := houtside program hmem
    dsimp only
    rw [hlength program hmem]
    omega

end Elf

section Run

variable {platform : Platform} {firstFree : Nat} {held : Finset Nat} {vfs : VfsState}
  {device : BlockDevice} {entry : TinyfsFile} {state next : UserState} {image : UserImage}

theorem elfReadable_of_reads {contents : List UInt8} {range : ElfImageRange} {offset index : Nat}
    (helf : ElfFile contents)
    (hlow : ∀ position, LoaderReads contents position → offset + position < 2 ^ 32)
    (hindex : index < (elfHeader contents).phnum)
    (hcovered : (elfProgram contents index).Loaded → ElfCovered contents range index) :
    ElfReadable contents range offset index where
  header_lt := hlow _ (.program helf hindex)
  covered := hcovered
  bytes_lt := by
    intro hloaded position hchunk hlt
    have hmem : elfProgram contents index ∈ elfSegments contents := by
      unfold elfSegments
      rw [List.mem_filter]
      exact ⟨List.mem_map_of_mem (List.mem_range.mpr hindex), decide_eq_true hloaded⟩
    exact hlow _ (.segment helf hmem hchunk hlt)

theorem userRunElfFile_image (hinside : BitmapInside platform firstFree)
    (hreachable : PmmReachable platform firstFree state.memory held)
    (hstores : vfs.Stores device entry) (hof : state.file.Of entry)
    (helf : ElfFile (entry.contents device))
    (hlow : ∀ position, LoaderReads (entry.contents device) position →
      entry.offset + position < 2 ^ 32)
    (hdisjoint : (elfSegments (entry.contents device)).Pairwise ElfProgramHeader.Disjoint)
    (hindices : state.indices = []) (hranges : state.ranges = [])
    (hrun : userRunElfFile platform vfs state = (some image, next)) :
    ElfImage (entry.contents device) image next := by
  rcases userRunElfFile_cases platform vfs state
    with ⟨file, hresult⟩ | ⟨bytes, headerFile, range, file, hheader, hvalid, hscan, hrange, hlt,
      hresult⟩
  · rw [hresult] at hrun
    cases hrun
  rw [hresult] at hrun
  have hheaderOf := @File.Of.userReadExactAt vfs entry state.file hof 0 ElfHeader.size
  rw [hheader] at hheaderOf
  obtain ⟨hbytes, -⟩ := hstores.of_userReadExactAt hof
    (fun _ => hlow 0 .header) hheader
  have helfHeader : ElfHeader.ofBytes bytes = elfHeader (entry.contents device) := by
    rw [hbytes, List.drop_zero, elfHeader]
  rw [helfHeader] at hvalid hscan hrun
  have hsize : headerFile.size = entry.size := hheaderOf.size_eq
  rw [hsize] at hvalid
  obtain ⟨hfileOf, hcovers⟩ := userScanLoop_covers hstores hvalid
    (fun index hindex => hlow _ (.program helf hindex)) _ hheaderOf hscan
  have hreadable := fun index hindex => elfReadable_of_reads helf hlow hindex (hcovers index hindex)
  generalize hcount : userCodePageCount (range.imageEnd - range.imageBase) = pageCount at hrun
  have himage : ImageFits range.imageBase pageCount := hcount ▸ hrange.imageFits hlt
  rcases userLoadElf_cases platform vfs (elfHeader (entry.contents device)) range pageCount
    (show (state.setFile file).indices = [] from hindices)
    (show (state.setFile file).ranges = [] from hranges)
    with ⟨_, hload, -⟩ | ⟨allocated, loaded, stacked, stackPage, halloc, hsegments, hinv, hstack, hload⟩
  · rw [hload] at hrun
    cases hrun
  rw [hload] at hrun
  have hstart : PmmReachable platform firstFree (state.setFile file).memory held := hreachable
  obtain ⟨hzero, hallocFile⟩ := @userAllocProgramPages_zero platform firstFree held pageCount hinside
    (state.setFile file) allocated hstart hindices hranges halloc
  have hallocated := (@userAllocProgramPages_inv platform pageCount (state.setFile file) allocated
    true hindices hranges halloc).2 rfl
  obtain ⟨hram, hpages, hclearFile⟩ := foldl_setWritable_same false (List.range pageCount) allocated
  have hclearImage : (userClearWritable allocated pageCount).image = allocated.image := by
    unfold UserState.image userClearWritable
    rw [hram, hpages]
  have hapart : Apart pmmPageSize (userClearWritable allocated pageCount).pages pageCount := by
    unfold userClearWritable
    rw [hpages]
    exact hallocated.toPagesHeld.apart hinside hstart le_rfl
  have hclearOf : (userClearWritable allocated pageCount).file.Of entry := by
    unfold userClearWritable
    rw [hclearFile, hallocFile]
    exact hfileOf
  obtain ⟨hloaded, hfits⟩ := userSegmentLoop_loads hstores hvalid hrange hlt hcount hreadable _ 0
    false hapart hclearOf (Nat.zero_add _) hsegments
  rw [elfSegmentsFrom_zero] at hloaded hfits
  obtain ⟨-, hstacked, -⟩ := userAllocStackPage_image hinside hstart hinv hstack
  obtain ⟨rfl, hheld, -, -, -⟩ := hinv.allocStack hstack
  obtain ⟨hbase, hpageCount, hbyteAt⟩ := hheld.byteAt himage hrun
  rw [← length_contents device entry] at hfits
  apply elfImage_of_segments
  · rw [hbase, hpageCount]
    exact hfits
  · exact hdisjoint
  · intro offset hoffset
    rw [hbase]
    rw [hpageCount] at hoffset
    rw [hclearImage] at hloaded
    rw [hbyteAt offset hoffset, hstacked offset hoffset, hloaded offset hoffset,
      hzero.patchAll _ offset hoffset]

/-- A file that is loaded as a flat one was readable from its start. -/
theorem userRunFlatFile_reads (hinside : BitmapInside platform firstFree)
    (hreachable : PmmReachable platform firstFree state.memory held)
    (hstores : vfs.Stores device entry) (hof : state.file.Of entry)
    (hstart : state.file.offset = 0) (hsize : 0 < entry.size) (hindices : state.indices = [])
    (hranges : state.ranges = [])
    (hrun : (userRunFlatFile platform vfs state).1 = some image) :
    entry.offset + min userLoadChunkSize entry.size ≤ device.byteCount := by
  rcases userRunFlatFile_cases platform vfs hindices hranges rfl
    with hresult | ⟨_, hresult, -, -⟩ | ⟨allocated, stacked, loaded, hloaded, -⟩
  · rw [hresult] at hrun
    cases hrun
  · rw [hresult] at hrun
    cases hrun
  obtain ⟨hfile, -, -⟩ := hloaded.cleared hinside hreachable hindices hranges
  have hload := hloaded.load
  have hlow : entry.offset + stacked.file.offset < 2 ^ 32 := by
    rw [hfile, hstart]
    exact entry.offset_lt
  have hread := hstores.fileRead_eq (hfile ▸ hof) hlow (by rw [hfile, hstart]; exact hsize)
    (show 0 < userLoadChunkSize by decide)
  rw [hfile, hstart, Nat.add_zero, Nat.sub_zero] at hread
  by_contra hbeyond
  rw [if_neg hbeyond] at hread
  unfold userLoadFileIntoPages at hload
  rw [userLoadLoop, hfile, hread] at hload
  cases hload

/-- `file_open` has opened the file that the path names, at its start. -/
theorem fileOpen_named {table : FileTable} {path : List UInt8} {slot : Fin fileTableMax} {file : File}
    (hopen : fileOpen vfs table path = some (slot, file)) :
    ∃ entry, namedFile vfs.tinyfs.files path = some entry ∧ vfs.Names path entry
      ∧ file.Of entry ∧ file.offset = 0 := by
  unfold fileOpen at hopen
  split at hopen
  · cases hopen
  rename_i info hstat
  split at hopen
  · cases hopen
  rename_i hregular
  obtain ⟨index, -, heq⟩ := Option.map_eq_some_iff.mp hopen
  cases heq
  have hready : vfs.ready = true := by
    by_contra hnot
    unfold vfsStat at hstat
    simp [hnot] at hstat
  have htinyfs : vfs.tinyfs.ready = true := by
    by_contra hnot
    have hfind : ∀ name, tinyfsFind vfs.tinyfs name = none := by
      intro name
      simp [tinyfsFind, hnot]
    unfold vfsStat at hstat
    simp only [hready, hfind, hnot] at hstat
    split at hstat
    · cases hstat
    · split at hstat
      · cases hstat
      · split at hstat
        · cases hstat
          exact hregular rfl
        · simp at hstat
  obtain ⟨entry, hnamed⟩ := namedFile_of_stat hready htinyfs hstat hregular
  have hnames := namedFile_names hready htinyfs hnamed
  rw [hnames.stat_eq] at hstat
  cases hstat
  exact ⟨entry, hnamed, hnames, ⟨rfl, rfl⟩, rfl⟩

/-- Which way a file is loaded is decided by its first bytes. -/
theorem userRunOpened_format (hinside : BitmapInside platform firstFree)
    (hreachable : PmmReachable platform firstFree state.memory held)
    (hstores : vfs.Stores device entry) {file : File} (hof : file.Of entry)
    (hindices : state.indices = []) (hranges : state.ranges = [])
    (hrun : (userRunOpened platform vfs state file).1 = some image) :
    (ElfFile (entry.contents device) ∧ ∃ started : File, started.Of entry
        ∧ userRunOpened platform vfs state file
          = userRunElfFile platform vfs (state.setFile started))
      ∨ ¬ ElfFile (entry.contents device) ∧ ∃ started : File, started.Of entry
        ∧ started.offset = 0
        ∧ userRunOpened platform vfs state file
          = userRunFlatFile platform vfs (state.setFile started) := by
  have hreadOf := @File.Of.userReadExactAt vfs entry file hof 0 ElfHeader.size
  have hstart : 0 < entry.size → entry.offset + 0 < 2 ^ 32 := fun _ => entry.offset_lt
  unfold userRunOpened at hrun ⊢
  split at hrun
  · rename_i bytes started hread
    rw [hread] at hreadOf
    obtain ⟨hbytes, hlong⟩ := hstores.of_userReadExactAt hof hstart hread
    rw [List.drop_zero] at hbytes
    rw [Nat.zero_add, ← length_contents device entry] at hlong
    have hheader : ElfHeader.ofBytes bytes = elfHeader (entry.contents device) := by
      rw [hbytes, elfHeader]
    by_cases hmagic : (ElfHeader.ofBytes bytes).magic = true
    · left
      refine ⟨⟨hlong, hheader ▸ hmagic⟩, started, hreadOf, ?_⟩
      rw [if_pos hmagic]
    · right
      refine ⟨fun helf => hmagic (hheader ▸ helf.2), { started with offset := 0 },
        hreadOf.setOffset 0, rfl, ?_⟩
      rw [if_neg hmagic]
  · rename_i started hread
    rw [hread] at hreadOf
    right
    refine ⟨?_, { started with offset := 0 }, hreadOf.setOffset 0, rfl, rfl⟩
    intro helf
    have hlong := helf.1
    rw [length_contents] at hlong
    have hsize : ElfHeader.size = 64 := rfl
    have hchunk : userLoadChunkSize = 256 := rfl
    have hreads := @userRunFlatFile_reads platform firstFree held vfs device entry
      (state.setFile { started with offset := 0 }) image hinside hreachable hstores
      (hreadOf.setOffset 0) rfl (by omega) hindices hranges hrun
    have hheader := hstores.userReadExactAt_start hof (show 0 < ElfHeader.size by decide) hlong
      (by omega)
    rw [hread] at hheader
    cases hheader

end Run

/-! ### Every accepted file -/

/-- The memory of a program that is entered is the one its file describes, if no read of the loader
starts behind the first 4 GiB of the device. -/
theorem user_program_image (platform : Platform) (firstFree : Nat) (vfs : VfsState)
    (device : BlockDevice) (state : UserState) (path : List UInt8) (held : Finset Nat)
    (image : UserImage) (hinside : BitmapInside platform firstFree)
    (hreachable : PmmReachable platform firstFree state.memory held)
    (hdevice : vfs.tinyfs.device = some device) (husable : device.Usable)
    (hlow : ∀ entry, namedFile vfs.tinyfs.files path = some entry →
      ∀ position, LoaderReads (entry.contents device) position → entry.offset + position < 2 ^ 32)
    (hrun : (userRunFile platform vfs state.start path).1 = some image) :
    ∃ contents, vfs.contents device path = some contents
      ∧ (¬ ElfFile contents → FlatImage contents image (userRunFile platform vfs state.start path).2)
      ∧ (ElfFile contents → (elfSegments contents).Pairwise ElfProgramHeader.Disjoint →
          ElfImage contents image (userRunFile platform vfs state.start path).2) := by
  unfold userRunFile at hrun ⊢
  split at hrun
  · cases hrun
  rename_i slot file hopen
  obtain ⟨entry, hnamed, hnames, hof, -⟩ := fileOpen_named hopen
  have hstores : vfs.Stores device entry := ⟨hnames.name, hdevice, husable⟩
  refine ⟨entry.contents device, by rw [VfsState.contents, hnamed, Option.map_some], ?_⟩
  dsimp only at hrun ⊢
  rcases @userRunOpened_format platform firstFree held vfs device entry state.start image hinside
      hreachable hstores file hof rfl rfl hrun
    with ⟨helf, started, hstarted, hresult⟩ | ⟨hflat, started, hstarted, hzero, hresult⟩
  · rw [hresult] at hrun ⊢
    refine ⟨fun hnot => absurd helf hnot, fun _ hdisjoint => ?_⟩
    have hloaded := @userRunElfFile_image platform firstFree held vfs device entry
      (state.start.setFile started) _ image hinside hreachable hstores hstarted helf
      (hlow entry hnamed) hdisjoint rfl rfl (Prod.ext hrun rfl)
    exact ⟨hloaded.inside, hloaded.segment_eq, hloaded.rest_eq⟩
  · rw [hresult] at hrun ⊢
    refine ⟨fun _ => ?_, fun helf => absurd helf hflat⟩
    have hpositions : ∀ position, position % userLoadChunkSize = 0 → position < entry.size →
        entry.offset + position < 2 ^ 32 := by
      intro position hchunk hlt
      rw [← length_contents device entry] at hlt
      exact hlow entry hnamed position (.flat hflat hchunk hlt)
    have hloaded := @userRunFlatFile_image platform firstFree held vfs device entry
      (state.start.setFile started) _ image hinside hreachable hstores hstarted hzero hpositions
      rfl rfl (Prod.ext hrun rfl)
    exact ⟨hloaded.imageBase_eq, hloaded.length_le, hloaded.lt_length, hloaded.byte_eq⟩

/-- A file of 300 bytes, not an ELF file, which is read in two chunks. -/
def twoChunks : List UInt8 := List.replicate 256 7 ++ List.replicate 44 9

def twoChunksDevice : BlockDevice := ⟨512, 1, fun address => twoChunks.getD (address - 48) 0, []⟩

def twoChunksVfs : VfsState where
  tinyfs := ⟨some twoChunksDevice, [⟨[0x61], 48, 300, 0, by decide, by decide⟩], true⟩
  ready := true

theorem twoChunks_not_elf : ¬ ElfFile twoChunks := by
  rintro ⟨-, hmagic⟩
  revert hmagic
  decide +kernel

theorem twoChunks_contents : twoChunksVfs.contents twoChunksDevice [0x61] = some twoChunks := by
  decide +kernel

def smallElfDevice : BlockDevice := ⟨512, 1, fun address => (smallElf 0x20000).getD address 0, []⟩

theorem smallElf_contents :
    (smallVfs (smallElf 0x20000)).contents smallElfDevice [0x61] = some (smallElf 0x20000) := by
  decide +kernel

theorem smallElf_elf : ElfFile (smallElf 0x20000) := by
  unfold ElfFile
  decide +kernel

theorem smallElf_segments : ∀ program ∈ elfSegments (smallElf 0x20000),
    program.vaddr = 0x20000 ∧ program.offset = 120 ∧ program.filesz = 4 ∧ program.memsz = 4 := by
  decide +kernel

theorem smallElf_reads {position : Nat} (hreads : LoaderReads (smallElf 0x20000) position) :
    position < 2 ^ 32 := by
  have hprograms : (elfHeader (smallElf 0x20000)).phoff = 64 ∧ (elfHeader (smallElf 0x20000)).phnum = 1 := by
    decide +kernel
  cases hreads with
  | header => omega
  | flat hflat => exact absurd smallElf_elf hflat
  | program _ hindex =>
      rw [hprograms.2] at hindex
      rw [elfProgramOffset, hprograms.1, ElfProgramHeader.size]
      omega
  | segment _ hmem _ hlt =>
      obtain ⟨-, hoffset, hfilesz, -⟩ := smallElf_segments _ hmem
      omega

/-- A byte of the second chunk of a flat file, and one of a segment of an ELF file. -/
theorem user_program_image_small :
    (userRunFile smallPlatform twoChunksVfs smallUserState.start [0x61]).2.byteAt 0x10110 = some 9
      ∧ (userRunFile smallPlatform (smallVfs (smallElf 0x20000)) smallUserState.start
          [0x61]).2.byteAt 0x20002 = some 3 := by
  constructor
  · have hlow : ∀ entry, namedFile twoChunksVfs.tinyfs.files [0x61] = some entry →
        ∀ position, LoaderReads (entry.contents twoChunksDevice) position →
          entry.offset + position < 2 ^ 32 := by
      intro entry hnamed position hreads
      have hcontents := twoChunks_contents
      rw [VfsState.contents, hnamed, Option.map_some, Option.some.injEq] at hcontents
      have hentry : entry.offset = 48 := by
        cases hnamed
        rfl
      rw [hcontents] at hreads
      cases hreads with
      | header => omega
      | flat hflat hchunk hlt =>
          have hlength : twoChunks.length = 300 := by decide +kernel
          omega
      | program helf => exact absurd helf twoChunks_not_elf
      | segment helf => exact absurd helf twoChunks_not_elf
    have hrun : (userRunFile smallPlatform twoChunksVfs smallUserState.start [0x61]).1
        = some ⟨0x10000, 0x10000, false, 1, 0x40003000, 300⟩ := by decide +kernel
    obtain ⟨contents, hcontents, hflat, -⟩ := user_program_image smallPlatform 0 twoChunksVfs
      twoChunksDevice smallUserState [0x61] ∅ _ smallPlatform_bitmapInside .init rfl
      ⟨by decide, by decide⟩ hlow hrun
    rw [twoChunks_contents, Option.some.injEq] at hcontents
    subst hcontents
    have hbyte := (hflat twoChunks_not_elf).byte_eq 0x110 (by decide)
    exact hbyte.trans (by decide +kernel)
  · have hlow : ∀ entry, namedFile (smallVfs (smallElf 0x20000)).tinyfs.files [0x61] = some entry →
        ∀ position, LoaderReads (entry.contents smallElfDevice) position →
          entry.offset + position < 2 ^ 32 := by
      intro entry hnamed position hreads
      have hcontents := smallElf_contents
      rw [VfsState.contents, hnamed, Option.map_some, Option.some.injEq] at hcontents
      have hentry : entry.offset = 0 := by
        cases hnamed
        rfl
      rw [hcontents] at hreads
      have hposition := smallElf_reads hreads
      omega
    have hrun : (userRunFile smallPlatform (smallVfs (smallElf 0x20000)) smallUserState.start [0x61]).1
        = some ⟨0x20000, 0x20000, true, 1, 0x40003000, 0x1000⟩ := by decide +kernel
    obtain ⟨contents, hcontents, -, helf⟩ := user_program_image smallPlatform 0
      (smallVfs (smallElf 0x20000)) smallElfDevice smallUserState [0x61] ∅ _ smallPlatform_bitmapInside
      .init rfl ⟨by decide, by decide⟩ hlow hrun
    rw [smallElf_contents, Option.some.injEq] at hcontents
    subst hcontents
    have hone : (elfSegments (smallElf 0x20000)).length = 1 := by decide +kernel
    obtain ⟨program, hprogram⟩ := List.length_eq_one_iff.mp hone
    have himage := helf smallElf_elf (by rw [hprogram]; exact List.pairwise_singleton _ _)
    have hmem : program ∈ elfSegments (smallElf 0x20000) := by
      rw [hprogram]
      exact List.mem_singleton_self program
    obtain ⟨hvaddr, hoffset, hfilesz, hmemsz⟩ := smallElf_segments program hmem
    have hbyte := himage.segment_eq program hmem 2 (by omega)
    rw [hvaddr, hoffset, hfilesz] at hbyte
    exact hbyte.trans (by decide +kernel)

/-- A device of more than 4 GiB, with ones behind the 4 GiB mark. -/
def largeDevice : BlockDevice :=
  ⟨512, 2 ^ 23 + 1, fun address => if address < 2 ^ 32 then 0 else 1, []⟩

/-- A file of 300 bytes that starts 256 bytes below the mark. -/
def largeVfs : VfsState where
  tinyfs := ⟨some largeDevice, [⟨[0x61], 2 ^ 32 - 256, 300, 0, by decide, by decide⟩], true⟩
  ready := true

/-- The second chunk of the file is read from the start of the device. -/
theorem wrapped_read_loads_other_bytes :
    ∃ contents image, largeVfs.contents largeDevice [0x61] = some contents ∧ ¬ ElfFile contents
      ∧ (userRunFile smallPlatform largeVfs smallUserState.start [0x61]).1 = some image
      ∧ ¬ FlatImage contents image
        (userRunFile smallPlatform largeVfs smallUserState.start [0x61]).2 := by
  have hcontents : largeVfs.contents largeDevice [0x61]
      = some (List.replicate 256 0 ++ List.replicate 44 1) := by decide +kernel
  have helf : (elfHeader (List.replicate 256 0 ++ List.replicate 44 1)).magic = false := by
    decide +kernel
  have hrun : (userRunFile smallPlatform largeVfs smallUserState.start [0x61]).1
      = some ⟨0x10000, 0x10000, false, 1, 0x40003000, 300⟩ := by decide +kernel
  have hbyte : (userRunFile smallPlatform largeVfs smallUserState.start [0x61]).2.byteAt 0x10100
      = some 0 := by decide +kernel
  refine ⟨_, _, hcontents, ?_, hrun, ?_⟩
  · rintro ⟨-, hmagic⟩
    rw [helf] at hmagic
    cases hmagic
  · intro hflat
    have hother := hflat.byte_eq 0x100 (by decide)
    have haddress : userCodeVa + 0x100 = 0x10100 := rfl
    rw [haddress, hbyte] at hother
    revert hother
    decide +kernel

end DuckOs

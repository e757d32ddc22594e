import DuckOs.Lib.PagedStore
import DuckOs.Proof.ElfBounds
import DuckOs.Proof.UserRead

/-!
# What the loader writes

The pages of a program form one image. Allocating them clears it, and every loop of the loader writes
one stretch of bytes into it, whichever way the stretch is cut into chunks and pages.
-/

namespace DuckOs

open ByteStore PagedStore

/-- The pages of the program, one behind the other. -/
def UserState.image (state : UserState) : Store := view pmmPageSize state.pages state.ram

/-- The step writes `data` at `start` of the image. -/
structure Loads (pageCount : Nat) (before after : UserState) (start : Nat) (data : List UInt8) :
    Prop where
  pages_eq : after.pages = before.pages
  image_eq : AgreeBelow (pageCount * pmmPageSize) after.image (patch before.image start data)

section Loads

variable {pageCount start : Nat} {before middle after : UserState} {first second : List UInt8}

theorem loads_nil (hpages : after.pages = before.pages) (hram : after.ram = before.ram)
    (start : Nat) : Loads pageCount before after start [] where
  pages_eq := hpages
  image_eq := by
    rw [patch_nil, UserState.image, UserState.image, hpages, hram]
    exact fun _ _ => rfl

theorem Loads.append (hfirst : Loads pageCount before middle start first)
    (hsecond : Loads pageCount middle after (start + first.length) second) :
    Loads pageCount before after start (first ++ second) where
  pages_eq := hsecond.pages_eq.trans hfirst.pages_eq
  image_eq := by
    rw [patch_append]
    exact hsecond.image_eq.trans (hfirst.image_eq.patch _ _)

theorem loads_setFile (state : UserState) (file : File) (start : Nat) :
    Loads pageCount state (state.setFile file) start [] := by
  apply loads_nil
  · rfl
  · rfl

/-- Only the pages and the memory matter. -/
theorem Loads.of_nil (hnil : Loads pageCount before middle start [])
    (hloads : Loads pageCount middle after start first) : Loads pageCount before after start first :=
  hnil.append hloads

theorem Loads.apart (hloads : Loads pageCount before after start first)
    (hapart : Apart pmmPageSize before.pages pageCount) : Apart pmmPageSize after.pages pageCount := by
  rw [hloads.pages_eq]
  exact hapart

theorem loads_setBytes {state : UserState} (hapart : Apart pmmPageSize state.pages pageCount)
    {index offset : Nat} (hindex : index < pageCount) {data : List UInt8}
    (hfits : offset + data.length ≤ pmmPageSize) :
    Loads pageCount state ((state.useIndex index).setBytes (state.pages index + offset) data)
      (index * pmmPageSize + offset) data where
  pages_eq := rfl
  image_eq := view_patch hapart hindex hfits

end Loads

/-! ### Cleared pages -/

section Allocation

variable {platform : Platform} {firstFree : Nat} {origin : UserState} {held : Finset Nat}
  {pageCount : Nat}

theorem PagesHeld.apart (hinside : BitmapInside platform firstFree)
    (hreachable : PmmReachable platform firstFree origin.memory held) {known handed : Nat}
    {state : UserState} (hheld : PagesHeld platform origin known handed state)
    (hle : known ≤ handed) : Apart pmmPageSize state.pages known := by
  apply apart_of_aligned
  · intro index hindex
    rw [hheld.pages_eq index hindex]
    exact Nat.dvd_of_mod_eq_zero (pmmAllocPage_aligned _ _)
  · intro first hfirst second hsecond heq
    rw [hheld.pages_eq first hfirst, hheld.pages_eq second hsecond] at heq
    exact pmmPageAt_inj hinside hreachable (hheld.page_ne first (by omega)) heq

theorem userAllocLoop_zero (hinside : BitmapInside platform firstFree)
    (hreachable : PmmReachable platform firstFree origin.memory held) :
    ∀ (remaining known : Nat) {state next : UserState},
      LoadInv platform origin pageCount known state → known + remaining = pageCount →
      AgreeBelow (known * pmmPageSize) state.image (fun _ => 0) →
      userAllocLoop platform remaining known state = (true, next) →
      AgreeBelow (pageCount * pmmPageSize) next.image (fun _ => 0) ∧ next.file = state.file := by
  intro remaining
  induction remaining with
  | zero =>
      intro known state next _ hbound hzero hloop
      rw [userAllocLoop] at hloop
      cases hloop
      rw [Nat.add_zero] at hbound
      exact ⟨hbound ▸ hzero, rfl⟩
  | succ remaining ih =>
      intro known state next hinv hbound hzero hloop
      rw [userAllocLoop] at hloop
      split at hloop
      · cases hloop
      rename_i hpage
      have hnext := hinv.alloc (by omega) hpage
      have hapart := hnext.toPagesHeld.apart hinside hreachable le_rfl
      generalize hat : (pmmAllocPage platform state.memory).1 = page at hpage hnext hapart hloop
      generalize (pmmAllocPage platform state.memory).2 = memory at hnext hapart hloop
      have hcleared := @view_patch pmmPageSize (known + 1) (Function.update state.pages known page)
        state.ram (List.replicate pmmPageSize 0) hapart known 0 (Nat.lt_succ_self known)
        (by rw [List.length_replicate, Nat.zero_add])
      simp only [Function.update_self, Nat.add_zero] at hcleared
      apply ih (known + 1) hnext (by omega) _ hloop
      intro offset hoffset
      apply (hcleared offset hoffset).trans
      by_cases hold : offset < known * pmmPageSize
      · have hindex : offset / pmmPageSize ≠ known := by
          have hdiv := (div_lt_of_lt_mul hold).1
          omega
        rw [patch_of_lt hold, view, Function.update_of_ne hindex]
        exact hzero offset hold
      · obtain ⟨position, rfl⟩ := Nat.exists_eq_add_of_le (Nat.le_of_not_lt hold)
        rw [patch_add (by rw [List.length_replicate]; rw [Nat.succ_mul] at hoffset; omega),
          List.getElem_replicate]

theorem userAllocProgramPages_zero (hinside : BitmapInside platform firstFree)
    {state next : UserState} (hreachable : PmmReachable platform firstFree state.memory held)
    (hindices : state.indices = []) (hranges : state.ranges = [])
    (halloc : userAllocProgramPages platform { state with pageCount := pageCount } pageCount
      = (true, next)) :
    AgreeBelow (pageCount * pmmPageSize) next.image (fun _ => 0) ∧ next.file = state.file := by
  have hstart : LoadInv platform state pageCount 0 { state with pageCount := pageCount } := by
    refine ⟨⟨⟨rfl, rfl, rfl, ⟨0, Nat.zero_le _, rfl⟩⟩, ?_, ?_⟩, ⟨rfl, ?_, ?_⟩⟩
    · simp [hindices]
    · simp [hranges]
    · simp
    · simp
  have hnothing : AgreeBelow (0 * pmmPageSize) state.image (fun _ => 0) := by
    intro offset hoffset
    rw [Nat.zero_mul] at hoffset
    exact absurd hoffset (Nat.not_lt_zero _)
  have hloop := userAllocLoop_zero hinside hreachable pageCount 0 hstart (Nat.zero_add _) hnothing
    halloc
  exact hloop

/-- Clearing the stack page does not touch the image. -/
theorem userAllocStackPage_image (hinside : BitmapInside platform firstFree)
    (hreachable : PmmReachable platform firstFree origin.memory held) {state next : UserState}
    {stackPage : Nat} (hinv : LoadInv platform origin pageCount pageCount state)
    (hstack : userAllocStackPage platform state = (some stackPage, next)) :
    next.pages = state.pages ∧ AgreeBelow (pageCount * pmmPageSize) next.image state.image
      ∧ next.file = state.file := by
  obtain ⟨hpage, hheld, -, -, -⟩ := hinv.allocStack hstack
  have haligned : stackPage % pmmPageSize = 0 := by
    rw [hpage]
    exact pmmAllocPage_aligned _ _
  have hapart : ∀ index < pageCount, state.pages index + pmmPageSize ≤ stackPage
      ∨ stackPage + pmmPageSize ≤ state.pages index := by
    intro index hindex
    have hne : stackPage ≠ state.pages index := by
      intro heq
      rw [hpage, hinv.pages_eq index hindex] at heq
      have hsame := pmmPageAt_inj hinside hreachable (hheld.page_ne pageCount (by omega)) heq
      omega
    have hother : state.pages index % pmmPageSize = 0 := by
      rw [hinv.pages_eq index hindex]
      exact pmmAllocPage_aligned _ _
    simp only [pmmPageSize] at haligned hother ⊢
    omega
  unfold userAllocStackPage at hstack
  dsimp only at hstack
  split at hstack
  · cases hstack
  cases hstack
  refine ⟨rfl, view_patch_outside ?_, rfl⟩
  rw [List.length_replicate]
  exact hapart

end Allocation

/-! ### Flat files -/

section Flat

variable {pageCount : Nat}

theorem userCopyChunkLoop_loads :
    ∀ (fuel totalRead : Nat) (chunk : List UInt8) {state next : UserState} {total : Nat},
      Apart pmmPageSize state.pages pageCount → chunk.length ≤ fuel →
      totalRead + chunk.length < 2 ^ 32 →
      userCopyChunkLoop pageCount fuel totalRead chunk state = (some total, next) →
      total = totalRead + chunk.length ∧ Loads pageCount state next totalRead chunk
        ∧ next.file = state.file := by
  intro fuel
  induction fuel with
  | zero =>
      intro totalRead chunk state next total _ hfuel _ hloop
      have hnil : chunk = [] := List.length_eq_zero_iff.mp (Nat.le_zero.mp hfuel)
      subst hnil
      rw [userCopyChunkLoop] at hloop
      cases hloop
      exact ⟨rfl, loads_nil rfl rfl _, rfl⟩
  | succ fuel ih =>
      intro totalRead chunk state next total hapart hfuel hsmall hloop
      rw [userCopyChunkLoop] at hloop
      split at hloop
      · rename_i hnil
        cases hloop
        subst hnil
        exact ⟨rfl, loads_nil rfl rfl _, rfl⟩
      rename_i hsome
      dsimp only at hloop
      split at hloop
      · cases hloop
      rename_i hpage
      have hlength : 0 < chunk.length := List.length_pos_iff.mpr hsome
      have hmod : totalRead % pmmPageSize < pmmPageSize := Nat.mod_lt _ (by decide)
      generalize hcopy : min (pmmPageSize - totalRead % pmmPageSize) chunk.length = copySize at hloop
      have htake : (chunk.take copySize).length = copySize := by
        rw [List.length_take]
        omega
      have hstep := @loads_setBytes pageCount state hapart (totalRead / pmmPageSize)
        (totalRead % pmmPageSize) (Nat.lt_of_not_le hpage) (chunk.take copySize) (by omega)
      rw [Nat.div_add_mod'] at hstep
      rw [Nat.mod_eq_of_lt (by omega)] at hloop
      obtain ⟨htotal, hrest, hfile⟩ := ih (totalRead + copySize) (chunk.drop copySize)
        (hstep.apart hapart) (by rw [List.length_drop]; omega) (by rw [List.length_drop]; omega) hloop
      rw [List.length_drop] at htotal
      have hwhole := hstep.append (by rwa [htake])
      rw [List.take_append_drop] at hwhole
      exact ⟨by omega, hwhole, hfile⟩

variable {vfs : VfsState} {device : BlockDevice} {entry : TinyfsFile}

theorem userLoadLoop_loads (hstores : vfs.Stores device entry)
    (hlow : ∀ position, position % userLoadChunkSize = 0 → position < entry.size →
      entry.offset + position < 2 ^ 32) :
    ∀ (fuel totalRead : Nat) {state next : UserState},
      Apart pmmPageSize state.pages pageCount → state.file.Of entry →
      state.file.offset = totalRead → totalRead ≤ entry.size →
      (totalRead < entry.size → totalRead % userLoadChunkSize = 0) →
      userLoadLoop vfs pageCount fuel totalRead state = (true, next) →
      Loads pageCount state next totalRead ((entry.contents device).drop totalRead)
        ∧ next.file.Of entry := by
  intro fuel
  induction fuel with
  | zero =>
      intro totalRead state next _ _ _ _ _ hloop
      rw [userLoadLoop] at hloop
      cases hloop
  | succ fuel ih =>
      intro totalRead state next hapart hof hoffset hle haligned hloop
      have hentry := entry.size_lt
      rw [userLoadLoop] at hloop
      split at hloop
      · cases hloop
      rename_i chunk file hread
      obtain ⟨hchunk, hfile, hmoved⟩ := hstores.of_fileRead hof
        (fun hlt => by rw [hoffset] at hlt ⊢; exact hlow _ (haligned hlt) hlt) (by decide) hread
      rw [hoffset] at hchunk hmoved
      have hlength : chunk.length = min userLoadChunkSize (entry.size - totalRead) := by
        rw [hchunk, List.length_take, List.length_drop, length_contents]
      simp only [userLoadChunkSize] at hlength haligned
      dsimp only at hloop
      split at hloop
      · rename_i hnil
        cases hloop
        rw [hnil, List.length_nil] at hlength
        rw [List.drop_eq_nil_of_le (by rw [length_contents]; omega)]
        exact ⟨loads_setFile _ _ _, hfile⟩
      split at hloop
      · cases hloop
      rename_i total copied hcopy
      obtain ⟨rfl, hloads, hsame⟩ := userCopyChunkLoop_loads chunk.length totalRead chunk
        (show Apart pmmPageSize (state.setFile file).pages pageCount from hapart) le_rfl
        (by omega) hcopy
      have hfileAt : copied.file = file := hsame
      obtain ⟨hrest, hlast⟩ := ih (totalRead + chunk.length) (hloads.apart hapart)
        (by rw [hfileAt]; exact hfile) (by rw [hfileAt, hmoved]) (by omega)
        (by simp only [userLoadChunkSize]; omega) hloop
      refine ⟨?_, hlast⟩
      have hwhole := ((loads_setFile state file totalRead).of_nil hloads).append hrest
      have hsplit : chunk ++ (entry.contents device).drop (totalRead + chunk.length)
          = (entry.contents device).drop totalRead := by
        rw [← List.drop_drop]
        apply List.prefix_iff_eq_append.mp
        rw [hchunk]
        exact List.take_prefix _ _
      rwa [hsplit] at hwhole

end Flat

/-! ### Segments -/

section Segments

variable {pageCount : Nat} {state next : UserState}

theorem userImageOffset_eq {address imageBase count : Nat} (hbase : imageBase ≤ address)
    (hsmall : address - imageBase + count < 2 ^ 44) (hbound : imageBase < 2 ^ 64) :
    userImageOffset address imageBase count = address - imageBase + count := by
  unfold userImageOffset
  omega

theorem userCopyChunk_loads {start : Nat} {chunk : List UInt8}
    (hapart : Apart pmmPageSize state.pages pageCount) (hchunk : chunk.length ≤ pmmPageSize)
    (hsmall : start < 2 ^ 44) (hcopy : userCopyChunk pageCount start chunk state = (true, next)) :
    Loads pageCount state next start chunk ∧ next.file = state.file := by
  have hmod : start % pmmPageSize < pmmPageSize := Nat.mod_lt _ (by decide)
  have hindex : start / pmmPageSize % 2 ^ 32 = start / pmmPageSize := by
    simp only [pmmPageSize]
    omega
  unfold userCopyChunk at hcopy
  dsimp only at hcopy
  rw [hindex] at hcopy
  split at hcopy
  · cases hcopy
  rename_i hpage
  generalize hsize : min (pmmPageSize - start % pmmPageSize) chunk.length = copySize at hcopy
  have htake : (chunk.take copySize).length = copySize := by
    rw [List.length_take]
    omega
  have hfirst := @loads_setBytes pageCount state hapart (start / pmmPageSize)
    (start % pmmPageSize) (Nat.lt_of_not_le hpage) (chunk.take copySize) (by omega)
  rw [Nat.div_add_mod'] at hfirst
  split at hcopy
  · rename_i hmore
    split at hcopy
    · cases hcopy
    rename_i hnext
    cases hcopy
    have hsecond := @loads_setBytes pageCount _ (hfirst.apart hapart) (start / pmmPageSize + 1) 0
      (Nat.lt_of_not_le hnext) (chunk.drop copySize) (by rw [List.length_drop]; omega)
    have hplace : (start / pmmPageSize + 1) * pmmPageSize + 0
        = start + (chunk.take copySize).length := by
      rw [htake]
      simp only [pmmPageSize] at hsize hmore ⊢
      omega
    rw [hplace] at hsecond
    have hwhole := hfirst.append hsecond
    rw [List.take_append_drop] at hwhole
    exact ⟨hwhole, rfl⟩
  · rename_i hdone
    cases hcopy
    rw [List.take_of_length_le (by omega)] at hfirst ⊢
    exact ⟨hfirst, rfl⟩

variable {vfs : VfsState} {device : BlockDevice} {entry : TinyfsFile}

theorem userCopyLoop_loads (hstores : vfs.Stores device entry)
    {address size imageBase fileOffset : Nat} (hbase : imageBase ≤ address)
    (hbound : imageBase < 2 ^ 64) (hsmall : address - imageBase + size < 2 ^ 44)
    (hlow : ∀ position, position % userLoadChunkSize = 0 → position < size →
      entry.offset + (fileOffset + position) < 2 ^ 32) :
    ∀ (fuel copied : Nat) {state next : UserState},
      Apart pmmPageSize state.pages pageCount → state.file.Of entry →
      state.file.offset = fileOffset + copied → copied ≤ size →
      (copied < size → copied % userLoadChunkSize = 0) →
      userCopyLoop vfs address size imageBase pageCount fuel copied state = (true, next) →
      Loads pageCount state next (address - imageBase + copied)
          (((entry.contents device).drop (fileOffset + copied)).take (size - copied))
        ∧ next.file.Of entry := by
  intro fuel
  induction fuel with
  | zero =>
      intro copied state next _ hof _ hle _ hloop
      rw [userCopyLoop, Prod.mk.injEq, decide_eq_true_eq] at hloop
      obtain ⟨hdone, rfl⟩ := hloop
      rw [Nat.sub_eq_zero_of_le hdone, List.take_zero]
      exact ⟨loads_nil rfl rfl _, hof⟩
  | succ fuel ih =>
      intro copied state next hapart hof hoffset hle haligned hloop
      rw [userCopyLoop] at hloop
      split at hloop
      · rename_i hdone
        cases hloop
        rw [Nat.sub_eq_zero_of_le hdone, List.take_zero]
        exact ⟨loads_nil rfl rfl _, hof⟩
      rename_i hmore
      have hlt : copied < size := Nat.lt_of_not_le hmore
      split at hloop
      · cases hloop
      rename_i chunk file hread
      split at hloop
      · cases hloop
      rename_i hlength
      rw [not_not] at hlength
      split at hloop
      · cases hloop
      rename_i middle hcopy
      have hpos : 0 < min userLoadChunkSize (size - copied) := by
        simp only [userLoadChunkSize]
        omega
      obtain ⟨hchunk, hfile, hmoved⟩ := hstores.of_fileRead hof
        (fun _ => by rw [hoffset]; exact hlow _ (haligned hlt) hlt) hpos hread
      rw [hoffset] at hchunk hmoved
      have hplace : userImageOffset address imageBase copied = address - imageBase + copied :=
        userImageOffset_eq hbase (by omega) hbound
      rw [hplace] at hcopy
      obtain ⟨hloads, hsame⟩ := userCopyChunk_loads
        (show Apart pmmPageSize (state.setFile file).pages pageCount from hapart)
        (userLoadChunk_le hlength) (by omega) hcopy
      have hfileAt : middle.file = file := hsame
      simp only [userLoadChunkSize] at haligned hlength
      obtain ⟨hrest, hlast⟩ := ih (copied + chunk.length) (hloads.apart hapart)
        (by rw [hfileAt]; exact hfile) (by rw [hfileAt, hmoved, Nat.add_assoc]) (by omega)
        (by simp only [userLoadChunkSize]; omega) hloop
      refine ⟨?_, hlast⟩
      rw [← Nat.add_assoc] at hrest
      have hwhole := ((loads_setFile state file _).of_nil hloads).append hrest
      have hsplit : chunk ++ ((entry.contents device).drop (fileOffset + (copied + chunk.length))).take
            (size - (copied + chunk.length))
          = ((entry.contents device).drop (fileOffset + copied)).take (size - copied) := by
        have hrange : size - copied = chunk.length + (size - (copied + chunk.length)) := by omega
        rw [hrange, List.take_add, List.drop_drop, Nat.add_assoc, hlength]
        congr 1
      rwa [hsplit] at hwhole

theorem userZeroLoop_loads {address size imageBase : Nat} (hbase : imageBase ≤ address)
    (hbound : imageBase < 2 ^ 64) (hsmall : address - imageBase + size < 2 ^ 44) :
    ∀ (fuel cleared : Nat) {state next : UserState},
      Apart pmmPageSize state.pages pageCount → cleared ≤ size →
      userZeroLoop address size imageBase pageCount fuel cleared state = (true, next) →
      Loads pageCount state next (address - imageBase + cleared) (List.replicate (size - cleared) 0)
        ∧ next.file = state.file := by
  intro fuel
  induction fuel with
  | zero =>
      intro cleared state next _ hle hloop
      rw [userZeroLoop, Prod.mk.injEq, decide_eq_true_eq] at hloop
      obtain ⟨hdone, rfl⟩ := hloop
      rw [Nat.sub_eq_zero_of_le hdone, List.replicate_zero]
      exact ⟨loads_nil rfl rfl _, rfl⟩
  | succ fuel ih =>
      intro cleared state next hapart hle hloop
      rw [userZeroLoop] at hloop
      split at hloop
      · rename_i hdone
        cases hloop
        rw [Nat.sub_eq_zero_of_le hdone, List.replicate_zero]
        exact ⟨loads_nil rfl rfl _, rfl⟩
      rename_i hmore
      have hplace : userImageOffset address imageBase cleared = address - imageBase + cleared :=
        userImageOffset_eq hbase (by omega) hbound
      dsimp only at hloop
      rw [hplace] at hloop
      generalize hstart : address - imageBase + cleared = start at hloop ⊢
      have hindex : start / pmmPageSize % 2 ^ 32 = start / pmmPageSize := by
        simp only [pmmPageSize]
        omega
      have hmod : start % pmmPageSize < pmmPageSize := Nat.mod_lt _ (by decide)
      rw [hindex] at hloop
      split at hloop
      · cases hloop
      rename_i hpage
      generalize hclear : min (pmmPageSize - start % pmmPageSize) (size - cleared) = clearSize at hloop
      have hfirst := @loads_setBytes pageCount state hapart (start / pmmPageSize)
        (start % pmmPageSize) (Nat.lt_of_not_le hpage) (List.replicate clearSize 0)
        (by rw [List.length_replicate]; omega)
      rw [Nat.div_add_mod'] at hfirst
      obtain ⟨hrest, hfile⟩ := ih (cleared + clearSize) (hfirst.apart hapart) (by omega) hloop
      rw [← Nat.add_assoc, hstart] at hrest
      have hwhole := hfirst.append (by rwa [List.length_replicate])
      rw [List.replicate_append_replicate] at hwhole
      have hrange : clearSize + (size - (cleared + clearSize)) = size - cleared := by omega
      rw [hrange] at hwhole
      exact ⟨hwhole, hfile⟩

/-- A segment that lies in the file and in the image. -/
structure SegmentFits (imageBase pageCount fileSize : Nat) (program : ElfProgramHeader) : Prop where
  base_le : imageBase ≤ program.vaddr
  end_le : program.vaddr + program.memsz ≤ imageBase + pageCount * pmmPageSize
  filesz_le : program.filesz ≤ program.memsz
  file_le : program.offset + program.filesz ≤ fileSize

/-- The bytes of a segment in memory. -/
def ElfProgramHeader.bytes (contents : List UInt8) (program : ElfProgramHeader) : List UInt8 :=
  (contents.drop program.offset).take program.filesz
    ++ List.replicate (program.memsz - program.filesz) 0

theorem length_segment_bytes {imageBase fileSize : Nat} {contents : List UInt8}
    {program : ElfProgramHeader} (hlength : contents.length = fileSize)
    (hfits : SegmentFits imageBase pageCount fileSize program) :
    (program.bytes contents).length = program.memsz := by
  have hle := hfits.filesz_le
  have hfile := hfits.file_le
  rw [ElfProgramHeader.bytes, List.length_append, List.length_take, List.length_drop,
    List.length_replicate, hlength]
  omega

theorem foldl_setWritable_same (value : Bool) (indices : List Nat) (state : UserState) :
    (indices.foldl (fun state index => state.setWritable index value) state).ram = state.ram
      ∧ (indices.foldl (fun state index => state.setWritable index value) state).pages = state.pages
      ∧ (indices.foldl (fun state index => state.setWritable index value) state).file
        = state.file := by
  induction indices generalizing state with
  | nil => exact ⟨rfl, rfl, rfl⟩
  | cons index rest ih =>
      rw [List.foldl_cons]
      exact ih (state.setWritable index value)

theorem userMarkSegment_loads (state : UserState) (program : ElfProgramHeader)
    (first last start : Nat) :
    Loads pageCount state (userMarkSegment state program first last) start []
      ∧ (userMarkSegment state program first last).file = state.file := by
  unfold userMarkSegment userMarkWritable
  split
  · obtain ⟨hram, hpages, hfile⟩ := foldl_setWritable_same true
      (List.range' first (last + 1 - first)) state
    exact ⟨loads_nil hpages hram start, hfile⟩
  · exact ⟨loads_nil rfl rfl start, rfl⟩

theorem userCopySegment_loads (hstores : vfs.Stores device entry) {imageBase : Nat}
    {program : ElfProgramHeader} (hfits : SegmentFits imageBase pageCount entry.size program)
    (himage : ImageFits imageBase pageCount)
    (hlow : ∀ position, position % userLoadChunkSize = 0 → position < program.filesz →
      entry.offset + (program.offset + position) < 2 ^ 32)
    (hapart : Apart pmmPageSize state.pages pageCount) (hof : state.file.Of entry)
    (hcopy : userCopySegment vfs state program imageBase pageCount = (true, next)) :
    Loads pageCount state next (program.vaddr - imageBase)
        (((entry.contents device).drop program.offset).take program.filesz)
      ∧ next.file.Of entry := by
  have hentry := entry.size_lt
  have hbase := hfits.base_le
  have hend := hfits.end_le
  have htop := himage.end_le
  have hle := hfits.filesz_le
  have hfile := hfits.file_le
  simp only [userStackTop, pmmPageSize] at htop
  simp only [pmmPageSize] at hend
  unfold userCopySegment userCopyFileRangeIntoPages fileSeek at hcopy
  split at hcopy
  · rename_i hsome
    rw [Nat.mod_eq_of_lt (by omega), if_neg (by rw [hof.size_eq]; omega)] at hcopy
    dsimp only at hcopy
    obtain ⟨hloads, hlast⟩ := userCopyLoop_loads hstores hbase (by omega) (by omega) hlow
      program.filesz 0
      (show Apart pmmPageSize
        (state.setFile { state.file with offset := program.offset }).pages pageCount from hapart)
      (hof.setOffset program.offset) rfl (Nat.zero_le _) (fun _ => rfl) hcopy
    exact ⟨(loads_setFile _ _ _).of_nil hloads, hlast⟩
  · rename_i hnone
    cases hcopy
    rw [Nat.eq_zero_of_not_pos hnone, List.take_zero]
    exact ⟨loads_nil rfl rfl _, hof⟩

theorem userZeroSegment_loads {imageBase fileSize : Nat}
    {program : ElfProgramHeader} (hfits : SegmentFits imageBase pageCount fileSize program)
    (himage : ImageFits imageBase pageCount)
    (hapart : Apart pmmPageSize state.pages pageCount)
    (hzero : userZeroSegment state program imageBase pageCount = (true, next)) :
    Loads pageCount state next (program.vaddr - imageBase + program.filesz)
        (List.replicate (program.memsz - program.filesz) 0)
      ∧ next.file = state.file := by
  have hbase := hfits.base_le
  have hend := hfits.end_le
  have htop := himage.end_le
  have hle := hfits.filesz_le
  simp only [userStackTop, pmmPageSize] at htop
  simp only [pmmPageSize] at hend
  unfold userZeroSegment userZeroRangeInPages at hzero
  split at hzero
  · rw [Nat.mod_eq_of_lt (by omega)] at hzero
    obtain ⟨hloads, hfile⟩ := @userZeroLoop_loads pageCount (program.vaddr + program.filesz)
      (program.memsz - program.filesz) imageBase (by omega) (by omega) (by omega) _ 0 _ _ hapart
      (Nat.zero_le _) hzero
    rw [Nat.add_zero, Nat.sub_zero, Nat.sub_add_comm hbase] at hloads
    exact ⟨hloads, hfile⟩
  · rename_i hnone
    cases hzero
    rw [Nat.sub_eq_zero_of_le (Nat.le_of_not_lt hnone), List.replicate_zero]
    exact ⟨loads_nil rfl rfl _, rfl⟩

/-- A loaded segment is in the image, with zeros behind its bytes. -/
theorem userLoadSegment_loads (hstores : vfs.Stores device entry) {imageBase : Nat}
    {program : ElfProgramHeader} (hfits : SegmentFits imageBase pageCount entry.size program)
    (himage : ImageFits imageBase pageCount)
    (hlow : ∀ position, position % userLoadChunkSize = 0 → position < program.filesz →
      entry.offset + (program.offset + position) < 2 ^ 32)
    (hapart : Apart pmmPageSize state.pages pageCount) (hof : state.file.Of entry)
    (hload : userLoadSegment vfs state program imageBase pageCount = (true, next)) :
    Loads pageCount state next (program.vaddr - imageBase)
        (program.bytes (entry.contents device))
      ∧ next.file.Of entry := by
  unfold userLoadSegment at hload
  dsimp only at hload
  split at hload
  · cases hload
  split at hload
  · cases hload
  rename_i copied hcopy
  generalize hfirst : userImageOffset program.vaddr imageBase 0 / pmmPageSize % 2 ^ 32 = first at hcopy
  generalize hlast : (userImageOffset program.vaddr imageBase 0 + program.memsz - 1) % 2 ^ 64
    / pmmPageSize % 2 ^ 32 = last at hcopy
  obtain ⟨hmark, hmarkFile⟩ := @userMarkSegment_loads pageCount state program first last
    (program.vaddr - imageBase)
  obtain ⟨hcopied, hcopiedFile⟩ := userCopySegment_loads hstores hfits himage hlow
    (hmark.apart hapart) (by rw [hmarkFile]; exact hof) hcopy
  obtain ⟨hzero, hzeroFile⟩ := userZeroSegment_loads hfits himage
    (hcopied.apart (hmark.apart hapart)) hload
  have hlength : (((entry.contents device).drop program.offset).take program.filesz).length
      = program.filesz := by
    have hfile := hfits.file_le
    rw [List.length_take, List.length_drop, length_contents]
    omega
  refine ⟨(hmark.of_nil hcopied).append (by rwa [hlength]), ?_⟩
  rw [hzeroFile]
  exact hcopiedFile

end Segments

end DuckOs

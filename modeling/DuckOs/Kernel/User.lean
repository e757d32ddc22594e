import DuckOs.Arch.Mmu
import DuckOs.Fs.Vfs
import DuckOs.Mm.Pmm

/-!
# Loading user programs

`src/kernel/user.c` up to the entry to EL0. The state keeps RAM, the page allocator, the open file
and the arrays of pages. It also records which indices of these arrays are used and which ranges of
RAM are written.
-/

namespace DuckOs

open ByteStore

def userCodeVa : Nat := 0x00010000

def userStackTop : Nat := 0x00200000

def userLoadChunkSize : Nat := 256

def userFlatBinaryMaxPages : Nat := 16

def userMaxProgramPages : Nat := (userStackTop - userCodeVa - pmmPageSize) / pmmPageSize

structure UserState where
  ram : Store
  memory : MemoryState
  fileTable : FileTable
  file : File
  /-- `user_program_pages`, or `code_pages` of `user_run_flat_file`. -/
  pages : Nat → Nat
  /-- `user_program_page_writable`. -/
  writable : Nat → Bool
  userTable : MmuL3Table
  /-- `page_count`, 0 before it is computed. -/
  pageCount : Nat
  indices : List Nat
  ranges : List (Nat × Nat)

namespace UserState

/-- `memcpy` or `memset` to `address`. -/
def setBytes (state : UserState) (address : Nat) (data : List UInt8) : UserState :=
  { state with
    ram := patch state.ram address data
    ranges := state.ranges ++ [(address, data.length)] }

/-- An index of the page arrays is used. -/
def useIndex (state : UserState) (index : Nat) : UserState :=
  { state with indices := state.indices ++ [index] }

def setPage (state : UserState) (index page : Nat) : UserState :=
  { state.useIndex index with pages := Function.update state.pages index page }

def setWritable (state : UserState) (index : Nat) (value : Bool) : UserState :=
  { state.useIndex index with writable := Function.update state.writable index value }

def setFile (state : UserState) (file : File) : UserState := { state with file := file }

def setTable (state : UserState) (table : MmuL3Table) : UserState := { state with userTable := table }

/-- Before a run: nothing is recorded. -/
def start (state : UserState) : UserState :=
  { state with pageCount := 0, indices := [], ranges := [] }

end UserState

/-- What EL0 is entered with. -/
structure UserImage where
  imageBase : Nat
  entryPoint : Nat
  usesWritable : Bool
  pageCount : Nat
  stackPage : Nat
  programSize : Nat
  deriving DecidableEq

def userCodePageCount (programSize : Nat) : Nat :=
  (programSize + pmmPageSize - 1) % 2 ^ 64 / pmmPageSize % 2 ^ 32

def userProgramRangeValid (imageBase pageCount : Nat) : Bool :=
  if pageCount = 0 ∨ userMaxProgramPages < pageCount then false
  else if imageBase < userCodeVa then false
  else decide ((imageBase + pageCount * pmmPageSize) % 2 ^ 64 ≤ userStackTop - pmmPageSize)

/-- The loop of `user_alloc_program_pages` from `index` on. -/
def userAllocLoop (platform : Platform) : (remaining index : Nat) → UserState → Bool × UserState
  | 0, _, state => (true, state)
  | remaining + 1, index, state =>
      let page := pmmAllocPage platform state.memory
      let state := ({ state with memory := page.2 }).setPage index page.1
      if page.1 = 0 then (false, state)
      else
        userAllocLoop platform remaining (index + 1)
          (state.setBytes page.1 (List.replicate pmmPageSize 0))

def userAllocProgramPages (platform : Platform) (state : UserState) (pageCount : Nat) :
    Bool × UserState :=
  userAllocLoop platform pageCount 0 state

/-- A page for the stack, cleared. -/
def userAllocStackPage (platform : Platform) (state : UserState) : Option Nat × UserState :=
  let page := pmmAllocPage platform state.memory
  let state := { state with memory := page.2 }
  if page.1 = 0 then (none, state)
  else (some page.1, state.setBytes page.1 (List.replicate pmmPageSize 0))

/-- How a page of the image is mapped. -/
def userPageAttributes (usesWritable : Bool) (writable : Nat → Bool) (index : Nat) :
    MmuUserAttributes :=
  if usesWritable ∧ writable index then .data else .code

/-- The first loop of `user_run_loaded_pages` from `index` on. -/
def userMapLoop (imageBase : Nat) (usesWritable : Bool) :
    (remaining index : Nat) → UserState → UserState
  | 0, _, state => state
  | remaining + 1, index, state =>
      let virtualAddress := (imageBase + index * pmmPageSize) % 2 ^ 64
      let table :=
        if usesWritable ∧ state.writable index then
          mmuMapUserDataPage state.userTable virtualAddress (state.pages index)
        else mmuMapUserCodePage state.userTable virtualAddress (state.pages index)
      userMapLoop imageBase usesWritable remaining (index + 1)
        ((state.useIndex index).setTable table)

/-- `user_run_loaded_pages` up to `arch_enter_user`; `usesWritable` is whether the caller passes an
array of writable pages. -/
def userRunLoadedPages (state : UserState) (imageBase entryPoint : Nat) (usesWritable : Bool)
    (pageCount stackPage programSize : Nat) : Option UserImage × UserState :=
  let state := userMapLoop imageBase usesWritable pageCount 0 state
  (some ⟨imageBase, entryPoint, usesWritable, pageCount, stackPage, programSize⟩,
    state.setTable (mmuMapUserDataPage state.userTable (userStackTop - pmmPageSize) stackPage))

/-! ### Flat files -/

/-- The inner loop of `user_load_file_into_pages` with the rest of the chunk: `total_read` behind
it. -/
def userCopyChunkLoop (codePageCount : Nat) :
    (fuel totalRead : Nat) → (chunk : List UInt8) → UserState → Option Nat × UserState
  | 0, totalRead, _, state => (some totalRead, state)
  | fuel + 1, totalRead, chunk, state =>
      if chunk = [] then (some totalRead, state)
      else
        let pageIndex := totalRead / pmmPageSize
        let pageOffset := totalRead % pmmPageSize
        if codePageCount ≤ pageIndex then (none, state)
        else
          let copySize := min (pmmPageSize - pageOffset) chunk.length
          userCopyChunkLoop codePageCount fuel ((totalRead + copySize) % 2 ^ 32)
            (chunk.drop copySize)
            ((state.useIndex pageIndex).setBytes (state.pages pageIndex + pageOffset)
              (chunk.take copySize))

/-- The outer loop; every round but the last reads at least one byte of the file. -/
def userLoadLoop (vfs : VfsState) (codePageCount : Nat) :
    (fuel totalRead : Nat) → UserState → Bool × UserState
  | 0, _, state => (false, state)
  | fuel + 1, totalRead, state =>
      match fileRead vfs state.file userLoadChunkSize with
      | none => (false, state)
      | some (chunk, file) =>
          let state := state.setFile file
          if chunk = [] then (true, state)
          else
            match userCopyChunkLoop codePageCount chunk.length totalRead chunk state with
            | (none, state) => (false, state)
            | (some totalRead, state) => userLoadLoop vfs codePageCount fuel totalRead state

def userLoadFileIntoPages (vfs : VfsState) (state : UserState) (codePageCount : Nat) :
    Bool × UserState :=
  userLoadLoop vfs codePageCount (state.file.size + 1) 0 state

def userRunFlatFile (platform : Platform) (vfs : VfsState) (state : UserState) :
    Option UserImage × UserState :=
  let codePageCount := userCodePageCount state.file.size
  if !userProgramRangeValid userCodeVa codePageCount ∨ userFlatBinaryMaxPages < codePageCount then
    (none, state)
  else
    match userAllocProgramPages platform { state with pageCount := codePageCount } codePageCount with
    | (false, state) => (none, state)
    | (true, state) =>
        match userAllocStackPage platform state with
        | (none, state) => (none, state)
        | (some stackPage, state) =>
            match userLoadFileIntoPages vfs state codePageCount with
            | (false, state) => (none, state)
            | (true, state) =>
                userRunLoadedPages state userCodeVa userCodeVa false codePageCount stackPage
                  state.file.size

/-! ### ELF files -/

/-- The loop of `user_read_exact`; every round reads at least one byte or fails. -/
def userReadExact (vfs : VfsState) :
    (fuel remaining : Nat) → (buffer : List UInt8) → File → Option (List UInt8) × File
  | 0, remaining, buffer, file => (if remaining = 0 then some buffer else none, file)
  | fuel + 1, remaining, buffer, file =>
      if remaining = 0 then (some buffer, file)
      else
        match fileRead vfs file remaining with
        | none => (none, file)
        | some (bytes, file) =>
            if bytes = [] then (none, file)
            else userReadExact vfs fuel (remaining - bytes.length) (buffer ++ bytes) file

def userReadExactAt (vfs : VfsState) (file : File) (offset size : Nat) :
    Option (List UInt8) × File :=
  match fileSeek file offset with
  | none => (none, file)
  | some file => userReadExact vfs size size [] file

structure ElfHeader where
  ident : List UInt8
  type : Nat
  machine : Nat
  version : Nat
  entry : Nat
  phoff : Nat
  ehsize : Nat
  phentsize : Nat
  phnum : Nat

namespace ElfHeader

/-- `sizeof(elf64_header_t)`. -/
def size : Nat := 64

def ofBytes (bytes : List UInt8) : ElfHeader where
  ident := bytes.take 16
  type := field bytes 16 2
  machine := field bytes 18 2
  version := field bytes 20 4
  entry := field bytes 24 8
  phoff := field bytes 32 8
  ehsize := field bytes 52 2
  phentsize := field bytes 54 2
  phnum := field bytes 56 2

/-- The first four bytes of `ident`. -/
def magic (header : ElfHeader) : Bool := header.ident.take 4 = [0x7f, 0x45, 0x4c, 0x46]

end ElfHeader

structure ElfProgramHeader where
  type : Nat
  flags : Nat
  offset : Nat
  vaddr : Nat
  filesz : Nat
  memsz : Nat

namespace ElfProgramHeader

/-- `sizeof(elf64_program_header_t)`. -/
def size : Nat := 56

def ofBytes (bytes : List UInt8) : ElfProgramHeader where
  type := field bytes 0 4
  flags := field bytes 4 4
  offset := field bytes 8 8
  vaddr := field bytes 16 8
  filesz := field bytes 32 8
  memsz := field bytes 40 8

/-- A `PT_LOAD` segment that is not empty. -/
def Loaded (header : ElfProgramHeader) : Prop := header.type = 1 ∧ header.memsz ≠ 0

instance (header : ElfProgramHeader) : Decidable header.Loaded :=
  inferInstanceAs (Decidable (_ ∧ _))

def writes (header : ElfProgramHeader) : Bool := header.flags / 2 % 2 = 1

end ElfProgramHeader

/-- Class 64, little-endian, version 1, AArch64, executable, and a program header table that lies in
the file. -/
def userElfHeaderValid (header : ElfHeader) (fileSize : Nat) : Bool :=
  let programHeadersEnd := (header.phoff + header.phnum * header.phentsize) % 2 ^ 64
  decide (ElfHeader.size ≤ fileSize) && header.magic
    && header.ident.getD 4 0 = 2 && header.ident.getD 5 0 = 1
    && header.ident.getD 6 0 = 1 && header.version = 1
    && header.machine = 183 && header.type = 2
    && header.ehsize = ElfHeader.size && header.phentsize = ElfProgramHeader.size
    && header.phnum ≠ 0
    && header.phoff ≤ programHeadersEnd && programHeadersEnd ≤ fileSize

def userReadProgramHeader (vfs : VfsState) (file : File) (header : ElfHeader) (index : Nat) :
    Option ElfProgramHeader × File :=
  let headerOffset := (header.phoff + index * header.phentsize) % 2 ^ 64 % 2 ^ 32
  match userReadExactAt vfs file headerOffset ElfProgramHeader.size with
  | (none, file) => (none, file)
  | (some bytes, file) => (some (.ofBytes bytes), file)

/-- `image_base`, `image_end` and `found_load_segment`. -/
structure ElfImageRange where
  imageBase : Nat
  imageEnd : Nat
  found : Bool

def elfSegmentStart (program : ElfProgramHeader) : Nat := program.vaddr / pmmPageSize * pmmPageSize

def elfSegmentEnd (program : ElfProgramHeader) : Nat :=
  (program.vaddr + program.memsz + pmmPageSize - 1) % 2 ^ 64 / pmmPageSize * pmmPageSize

/-- The checks of the first pass on a loaded segment. -/
def elfSegmentValid (program : ElfProgramHeader) (fileSize : Nat) : Bool :=
  decide (program.filesz ≤ program.memsz)
    && program.offset ≤ (program.offset + program.filesz) % 2 ^ 64
    && (program.offset + program.filesz) % 2 ^ 64 ≤ fileSize
    && program.vaddr ≤ (program.vaddr + program.memsz) % 2 ^ 64
    && userCodeVa ≤ elfSegmentStart program
    && elfSegmentEnd program ≤ userStackTop - pmmPageSize

def ElfImageRange.add (range : ElfImageRange) (program : ElfProgramHeader) : ElfImageRange where
  imageBase :=
    if !range.found ∨ elfSegmentStart program < range.imageBase then elfSegmentStart program
    else range.imageBase
  imageEnd :=
    if !range.found ∨ range.imageEnd < elfSegmentEnd program then elfSegmentEnd program
    else range.imageEnd
  found := true

/-- The first pass over the program headers from `index` on. -/
def userScanLoop (vfs : VfsState) (header : ElfHeader) :
    (remaining index : Nat) → ElfImageRange → File → Option ElfImageRange × File
  | 0, _, range, file => (some range, file)
  | remaining + 1, index, range, file =>
      match userReadProgramHeader vfs file header index with
      | (none, file) => (none, file)
      | (some program, file) =>
          if ¬ program.Loaded then userScanLoop vfs header remaining (index + 1) range file
          else if !elfSegmentValid program file.size then (none, file)
          else userScanLoop vfs header remaining (index + 1) (range.add program) file

/-- `(address - image_base) + count` in 64 bits. -/
def userImageOffset (address imageBase count : Nat) : Nat :=
  (address + (2 ^ 64 - imageBase) + count) % 2 ^ 64

/-- One chunk of `user_copy_file_range_into_pages`, which may run over into the next page. -/
def userCopyChunk (pageCount destinationOffset : Nat) (chunk : List UInt8) (state : UserState) :
    Bool × UserState :=
  let pageIndex := destinationOffset / pmmPageSize % 2 ^ 32
  let pageOffset := destinationOffset % pmmPageSize
  if pageCount ≤ pageIndex then (false, state)
  else
    let copySize := min (pmmPageSize - pageOffset) chunk.length
    let copied := (state.useIndex pageIndex).setBytes (state.pages pageIndex + pageOffset)
      (chunk.take copySize)
    if copySize < chunk.length then
      if pageCount ≤ pageIndex + 1 then (false, copied)
      else
        (true, (copied.useIndex (pageIndex + 1)).setBytes (copied.pages (pageIndex + 1))
          (chunk.drop copySize))
    else (true, copied)

/-- The loop of `user_copy_file_range_into_pages`; every round copies at least one byte. -/
def userCopyLoop (vfs : VfsState) (destinationVa size imageBase pageCount : Nat) :
    (fuel copied : Nat) → UserState → Bool × UserState
  | 0, copied, state => (decide (size ≤ copied), state)
  | fuel + 1, copied, state =>
      if size ≤ copied then (true, state)
      else
        match fileRead vfs state.file (min userLoadChunkSize (size - copied)) with
        | none => (false, state)
        | some (chunk, file) =>
            if chunk.length ≠ min userLoadChunkSize (size - copied) then (false, state.setFile file)
            else
              match userCopyChunk pageCount (userImageOffset destinationVa imageBase copied) chunk
                (state.setFile file) with
              | (false, state) => (false, state)
              | (true, state) =>
                  userCopyLoop vfs destinationVa size imageBase pageCount fuel
                    (copied + chunk.length) state

def userCopyFileRangeIntoPages (vfs : VfsState) (state : UserState)
    (fileOffset destinationVa size imageBase pageCount : Nat) : Bool × UserState :=
  match fileSeek state.file fileOffset with
  | none => (false, state)
  | some file =>
      userCopyLoop vfs destinationVa size imageBase pageCount size 0 (state.setFile file)

/-- The loop of `user_zero_range_in_pages`; every round clears at least one byte. -/
def userZeroLoop (startVa size imageBase pageCount : Nat) :
    (fuel cleared : Nat) → UserState → Bool × UserState
  | 0, cleared, state => (decide (size ≤ cleared), state)
  | fuel + 1, cleared, state =>
      if size ≤ cleared then (true, state)
      else
        let destinationOffset := userImageOffset startVa imageBase cleared
        let pageIndex := destinationOffset / pmmPageSize % 2 ^ 32
        let pageOffset := destinationOffset % pmmPageSize
        if pageCount ≤ pageIndex then (false, state)
        else
          let clearSize := min (pmmPageSize - pageOffset) (size - cleared)
          userZeroLoop startVa size imageBase pageCount fuel (cleared + clearSize)
            ((state.useIndex pageIndex).setBytes (state.pages pageIndex + pageOffset)
              (List.replicate clearSize 0))

def userZeroRangeInPages (state : UserState) (startVa size imageBase pageCount : Nat) :
    Bool × UserState :=
  userZeroLoop startVa size imageBase pageCount size 0 state

/-- `memset(user_program_page_writable, 0, page_count)`. -/
def userClearWritable (state : UserState) (pageCount : Nat) : UserState :=
  (List.range pageCount).foldl (fun state index => state.setWritable index false) state

/-- The pages from `first` to `last` are made writable. -/
def userMarkWritable (state : UserState) (first last : Nat) : UserState :=
  (List.range' first (last + 1 - first)).foldl (fun state index => state.setWritable index true) state

/-- The copy of a segment's bytes, if it has any in the file. -/
def userCopySegment (vfs : VfsState) (state : UserState) (program : ElfProgramHeader)
    (imageBase pageCount : Nat) : Bool × UserState :=
  if 0 < program.filesz then
    userCopyFileRangeIntoPages vfs state (program.offset % 2 ^ 32) program.vaddr program.filesz
      imageBase pageCount
  else (true, state)

/-- The rest of a segment is cleared. -/
def userZeroSegment (state : UserState) (program : ElfProgramHeader) (imageBase pageCount : Nat) :
    Bool × UserState :=
  if program.filesz < program.memsz then
    userZeroRangeInPages state ((program.vaddr + program.filesz) % 2 ^ 64)
      (program.memsz - program.filesz) imageBase pageCount
  else (true, state)

def userMarkSegment (state : UserState) (program : ElfProgramHeader) (first last : Nat) :
    UserState :=
  if program.writes then userMarkWritable state first last else state

/-- What the second pass does with a loaded segment. -/
def userLoadSegment (vfs : VfsState) (state : UserState) (program : ElfProgramHeader)
    (imageBase pageCount : Nat) : Bool × UserState :=
  let segmentOffset := userImageOffset program.vaddr imageBase 0
  let firstPageIndex := segmentOffset / pmmPageSize % 2 ^ 32
  let lastPageIndex := (segmentOffset + program.memsz - 1) % 2 ^ 64 / pmmPageSize % 2 ^ 32
  if pageCount ≤ lastPageIndex then (false, state)
  else
    match userCopySegment vfs (userMarkSegment state program firstPageIndex lastPageIndex) program
      imageBase pageCount with
    | (false, state) => (false, state)
    | (true, state) => userZeroSegment state program imageBase pageCount

/-- The second pass over the program headers from `index` on; the result is `entry_mapped`. -/
def userSegmentLoop (vfs : VfsState) (header : ElfHeader) (imageBase pageCount : Nat) :
    (remaining index : Nat) → (entryMapped : Bool) → UserState → Option Bool × UserState
  | 0, _, entryMapped, state => (some entryMapped, state)
  | remaining + 1, index, entryMapped, state =>
      match userReadProgramHeader vfs state.file header index with
      | (none, file) => (none, state.setFile file)
      | (some program, file) =>
          let state := state.setFile file
          if ¬ program.Loaded then
            userSegmentLoop vfs header imageBase pageCount remaining (index + 1) entryMapped state
          else
            match userLoadSegment vfs state program imageBase pageCount with
            | (false, state) => (none, state)
            | (true, state) =>
                userSegmentLoop vfs header imageBase pageCount remaining (index + 1)
                  (entryMapped || (decide (program.vaddr ≤ header.entry)
                    && header.entry < (program.vaddr + program.memsz) % 2 ^ 64)) state

/-- Behind the first pass: the pages are allocated and filled. -/
def userLoadElf (platform : Platform) (vfs : VfsState) (state : UserState) (header : ElfHeader)
    (range : ElfImageRange) (pageCount : Nat) : Option UserImage × UserState :=
  match userAllocProgramPages platform { state with pageCount := pageCount } pageCount with
  | (false, state) => (none, state)
  | (true, state) =>
      match userSegmentLoop vfs header range.imageBase pageCount header.phnum 0 false
        (userClearWritable state pageCount) with
      | (none, state) => (none, state)
      | (some entryMapped, state) =>
          if !entryMapped then (none, state)
          else
            match userAllocStackPage platform state with
            | (none, state) => (none, state)
            | (some stackPage, state) =>
                userRunLoadedPages state range.imageBase header.entry true pageCount stackPage
                  (range.imageEnd - range.imageBase)

def userRunElfFile (platform : Platform) (vfs : VfsState) (state : UserState) :
    Option UserImage × UserState :=
  match userReadExactAt vfs state.file 0 ElfHeader.size with
  | (none, file) => (none, state.setFile file)
  | (some bytes, file) =>
      let header := ElfHeader.ofBytes bytes
      if !userElfHeaderValid header file.size then (none, state.setFile file)
      else
        match userScanLoop vfs header header.phnum 0 ⟨2 ^ 64 - 1, 0, false⟩ file with
        | (none, file) => (none, state.setFile file)
        | (some range, file) =>
            let state := state.setFile file
            if !range.found ∨ range.imageEnd ≤ range.imageBase then (none, state)
            else
              let pageCount := userCodePageCount (range.imageEnd - range.imageBase)
              if !userProgramRangeValid range.imageBase pageCount then (none, state)
              else if header.entry < range.imageBase ∨ range.imageEnd ≤ header.entry then
                (none, state)
              else userLoadElf platform vfs state header range pageCount

/-- The part of `user_run_file` between `file_open` and `file_close`: the magic bytes decide how the
file is loaded. -/
def userRunOpened (platform : Platform) (vfs : VfsState) (state : UserState) (file : File) :
    Option UserImage × UserState :=
  match userReadExactAt vfs file 0 ElfHeader.size with
  | (some bytes, file) =>
      if (ElfHeader.ofBytes bytes).magic then userRunElfFile platform vfs (state.setFile file)
      else userRunFlatFile platform vfs (state.setFile { file with offset := 0 })
  | (none, file) => userRunFlatFile platform vfs (state.setFile { file with offset := 0 })

/-- `user_run_file` up to `arch_enter_user`; a file that is not run is closed. -/
def userRunFile (platform : Platform) (vfs : VfsState) (state : UserState) (path : List UInt8) :
    Option UserImage × UserState :=
  match fileOpen vfs state.fileTable path with
  | none => (none, state)
  | some (slot, file) =>
      let result := userRunOpened platform vfs state file
      (result.1, { result.2 with
        fileTable := Function.update state.fileTable slot
          (if result.1.isSome then some result.2.file else none) })

end DuckOs

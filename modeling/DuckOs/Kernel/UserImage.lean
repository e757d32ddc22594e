import DuckOs.Fs.FileRun
import DuckOs.Kernel.User

/-!
# What a program finds in its memory

The bytes at the addresses of EL0, and what a flat file and an ELF file ask for.
-/

namespace DuckOs

open ByteStore

/-- The byte that EL0 reads at an address. -/
def UserState.byteAt (state : UserState) (address : Nat) : Option UInt8 :=
  (mmuTranslate state.userTable address).map state.ram

def elfHeader (contents : List UInt8) : ElfHeader := .ofBytes (contents.take ElfHeader.size)

/-- A file that is long enough for a header and starts with the magic bytes. -/
def ElfFile (contents : List UInt8) : Prop :=
  ElfHeader.size ≤ contents.length ∧ (elfHeader contents).magic = true

def elfProgramOffset (contents : List UInt8) (index : Nat) : Nat :=
  (elfHeader contents).phoff + index * ElfProgramHeader.size

def elfProgram (contents : List UInt8) (index : Nat) : ElfProgramHeader :=
  .ofBytes ((contents.drop (elfProgramOffset contents index)).take ElfProgramHeader.size)

/-- The `PT_LOAD` segments that are not empty. -/
def elfSegments (contents : List UInt8) : List ElfProgramHeader :=
  ((List.range (elfHeader contents).phnum).map (elfProgram contents)).filter fun program =>
    program.Loaded

def ElfProgramHeader.Disjoint (first second : ElfProgramHeader) : Prop :=
  first.vaddr + first.memsz ≤ second.vaddr ∨ second.vaddr + second.memsz ≤ first.vaddr

/-- The file from the address of the code on, and zeros to the end of the last page. -/
structure FlatImage (contents : List UInt8) (image : UserImage) (state : UserState) : Prop where
  imageBase_eq : image.imageBase = userCodeVa
  length_le : contents.length ≤ image.pageCount * pmmPageSize
  lt_length : image.pageCount * pmmPageSize < contents.length + pmmPageSize
  byte_eq : ∀ index < image.pageCount * pmmPageSize,
    state.byteAt (userCodeVa + index) = some (contents.getD index 0)

/-- Every segment with its bytes and the zeros behind them, and zeros between the segments. -/
structure ElfImage (contents : List UInt8) (image : UserImage) (state : UserState) : Prop where
  inside : ∀ program ∈ elfSegments contents, program.offset + program.filesz ≤ contents.length
  segment_eq : ∀ program ∈ elfSegments contents, ∀ index < program.memsz,
    state.byteAt (program.vaddr + index)
      = some (if index < program.filesz then contents.getD (program.offset + index) 0 else 0)
  rest_eq : ∀ address, image.imageBase ≤ address →
    address < image.imageBase + image.pageCount * pmmPageSize →
    (∀ program ∈ elfSegments contents,
      address < program.vaddr ∨ program.vaddr + program.memsz ≤ address) →
    state.byteAt address = some 0

/-! ### Permissions -/

/-- The header of a file as the loader reads it. -/
def elfHeaderRead (vfs : VfsState) (file : File) : ElfHeader :=
  .ofBytes ((userReadExactAt vfs file 0 ElfHeader.size).1.getD [])

/-- The `PT_LOAD` segments that are not empty, from a program header on, as the loader reads them. -/
def elfSegmentsReadFrom (vfs : VfsState) (file : File) (header : ElfHeader) (index count : Nat) :
    List ElfProgramHeader :=
  ((List.range' index count).filterMap fun index =>
    (userReadProgramHeader vfs file header index).1).filter fun program => program.Loaded

def elfSegmentsRead (vfs : VfsState) (file : File) : List ElfProgramHeader :=
  elfSegmentsReadFrom vfs file (elfHeaderRead vfs file) 0 (elfHeaderRead vfs file).phnum

/-- The segment has a byte on the page at an address. -/
def ElfProgramHeader.touches (program : ElfProgramHeader) (page : Nat) : Bool :=
  decide (program.vaddr < page + pmmPageSize) && page < program.vaddr + program.memsz

def elfPageWritable (segments : List ElfProgramHeader) (page : Nat) : Bool :=
  segments.any fun program => program.writes && program.touches page

/-! ### Reads -/

/-- The positions in a file at which the loader starts to read. -/
inductive LoaderReads (contents : List UInt8) : Nat → Prop where
  | header : LoaderReads contents 0
  | flat {position : Nat} (hflat : ¬ ElfFile contents) (hchunk : position % userLoadChunkSize = 0)
      (hlt : position < contents.length) : LoaderReads contents position
  | program {index : Nat} (helf : ElfFile contents) (hindex : index < (elfHeader contents).phnum) :
      LoaderReads contents (elfProgramOffset contents index)
  | segment {program : ElfProgramHeader} {position : Nat} (helf : ElfFile contents)
      (hmem : program ∈ elfSegments contents) (hchunk : position % userLoadChunkSize = 0)
      (hlt : position < program.filesz) : LoaderReads contents (program.offset + position)

end DuckOs

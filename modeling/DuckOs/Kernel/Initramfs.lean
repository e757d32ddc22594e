import DuckOs.Lib.CString

/-!
# The initramfs

`tools/mkinitramfs.py` packs files into an image, which the linker puts into the kernel;
`src/kernel/initramfs.c` finds the files in it. The packer appends to the image, the parser keeps a
pointer into it.
-/

namespace DuckOs

open ByteStore

def initramfsMagic : List UInt8 := [0x49, 0x52, 0x46, 0x53]

def initramfsMaxFiles : Nat := 16

/-! ### Packing -/

namespace Mkinitramfs

def align (data : List UInt8) : List UInt8 :=
  data ++ List.replicate ((8 - data.length % 8) % 8) 0

/-- The loop over the files, with base names for paths. `struct.pack` takes no length of 64 bits or
more; there is no file of that length. -/
def packLoop : List (List UInt8 × List UInt8) → (image : List UInt8) → Option (List UInt8)
  | [], image => some image
  | (name, data) :: rest, image =>
      if 0x2f ∈ name ∨ 0 ∈ name then none
      else
        let image := image ++ (toLe 8 (name.length + 1) ++ toLe 8 data.length)
        let image := image ++ align (name ++ [0])
        packLoop rest (image ++ align data)

/-- The image that is written; `none` if the tool prints an error instead. -/
def main (inputs : List (List UInt8 × List UInt8)) : Option (List UInt8) :=
  if inputs = [] then none
  else packLoop inputs (initramfsMagic ++ toLe 8 inputs.length)

end Mkinitramfs

/-! ### Parsing -/

/-- Memory with the symbols `_binary_build_initramfs_img_start` and `_end`. -/
structure InitramfsImage where
  memory : Store
  start : Nat
  stop : Nat

structure InitramfsHeader where
  magic : List UInt8
  fileCount : Nat

namespace InitramfsHeader

/-- `sizeof(struct initramfs_header)`, which is packed. -/
def size : Nat := 12

def ofBytes (bytes : List UInt8) : InitramfsHeader where
  magic := bytes.take 4
  fileCount := field bytes 4 8

end InitramfsHeader

structure InitramfsEntryHeader where
  nameLength : Nat
  dataLength : Nat

namespace InitramfsEntryHeader

/-- `sizeof(struct initramfs_entry_header)`. -/
def size : Nat := 16

def ofBytes (bytes : List UInt8) : InitramfsEntryHeader where
  nameLength := field bytes 0 8
  dataLength := field bytes 8 8

end InitramfsEntryHeader

/-- `name` and `data` are addresses. -/
structure InitramfsFile where
  name : Nat
  data : Nat
  size : Nat

/-- The entries of `initramfs_files` below `initramfs_count`. -/
structure InitramfsState where
  files : List InitramfsFile
  count : Nat
  ready : Bool

def InitramfsState.zero : InitramfsState := ⟨[], 0, false⟩

def initramfsAlignUp (value : Nat) : Nat := (value + 7) % 2 ^ 64 / 8 * 8

/-- `(unsigned long)(image_end - cursor)`. -/
def InitramfsImage.left (image : InitramfsImage) (cursor : Nat) : Nat :=
  (((image.stop : Int) - cursor) % 2 ^ 64).toNat

def initramfsFileCount (state : InitramfsState) : Nat := state.count

/-- The loop over the entries; `none` is a panic. -/
def initramfsInitLoop (image : InitramfsImage) :
    (remaining cursor : Nat) → Option (List InitramfsFile)
  | 0, _ => some []
  | remaining + 1, cursor =>
      if image.left cursor < InitramfsEntryHeader.size then none
      else
        let entry := InitramfsEntryHeader.ofBytes
          (slice image.memory cursor InitramfsEntryHeader.size)
        let name := cursor + InitramfsEntryHeader.size
        if image.left name < entry.nameLength then none
        else
          let data := name + initramfsAlignUp entry.nameLength
          if image.left data < entry.dataLength then none
          else
            (initramfsInitLoop image remaining (data + initramfsAlignUp entry.dataLength)).map
              (⟨name, data, entry.dataLength⟩ :: ·)

def initramfsInit (image : InitramfsImage) (state : InitramfsState) : Option InitramfsState :=
  if state.ready then some state
  else if image.left image.start < InitramfsHeader.size then none
  else
    let header := InitramfsHeader.ofBytes (slice image.memory image.start InitramfsHeader.size)
    if header.magic ≠ initramfsMagic then none
    else if initramfsMaxFiles < header.fileCount then none
    else
      (initramfsInitLoop image header.fileCount (image.start + InitramfsHeader.size)).map
        fun files => ⟨files, header.fileCount, true⟩

/-- The ranges that the loop reads, up to where it ends or panics: an address and a length. -/
def initramfsInitLoopReads (image : InitramfsImage) : (remaining cursor : Nat) → List (Nat × Nat)
  | 0, _ => []
  | remaining + 1, cursor =>
      if image.left cursor < InitramfsEntryHeader.size then []
      else
        let entry := InitramfsEntryHeader.ofBytes
          (slice image.memory cursor InitramfsEntryHeader.size)
        let name := cursor + InitramfsEntryHeader.size
        (cursor, InitramfsEntryHeader.size) ::
          if image.left name < entry.nameLength then []
          else
            let data := name + initramfsAlignUp entry.nameLength
            if image.left data < entry.dataLength then []
            else initramfsInitLoopReads image remaining (data + initramfsAlignUp entry.dataLength)

/-- The ranges that `initramfs_init` reads: the magic, the number of files, and what the loop reads. -/
def initramfsInitReads (image : InitramfsImage) (state : InitramfsState) : List (Nat × Nat) :=
  if state.ready then []
  else if image.left image.start < InitramfsHeader.size then []
  else
    let header := InitramfsHeader.ofBytes (slice image.memory image.start InitramfsHeader.size)
    (image.start, 4) ::
      if header.magic ≠ initramfsMagic then []
      else
        (image.start + 4, 8) ::
          if initramfsMaxFiles < header.fileCount then []
          else
            initramfsInitLoopReads image header.fileCount (image.start + InitramfsHeader.size)

/-- `strcmp` of the string at an address with `name` is 0. -/
def InitramfsImage.nameIs (image : InitramfsImage) (address : Nat) (name : List UInt8) : Bool :=
  slice image.memory address (name.length + 1) = name ++ [0]

/-- `name` is what the string passed holds before its terminator. -/
def initramfsFind (image : InitramfsImage) (state : InitramfsState) (name : List UInt8) :
    Option (Option InitramfsFile × InitramfsState) :=
  (initramfsInit image state).map fun state =>
    ((state.files.take state.count).find? fun file => image.nameIs file.name name, state)

/-- `initramfs_read` gives `data`, behind which the caller reads `size` bytes. -/
def initramfsRead (image : InitramfsImage) (file : InitramfsFile) : List UInt8 :=
  slice image.memory file.data file.size

end DuckOs

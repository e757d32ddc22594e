import DuckOs.Fs.Tinyfs
import DuckOs.Lib.CString

/-!
# TinyFS images

`build_image` of `tools/mktinyfs.py` packs files into an image; `tinyfs_mount` of `src/fs/tinyfs.c`
reads the table of files back. The two know the layout independently of each other.
-/

namespace DuckOs

open ByteStore

/-! ### Mounting -/

def tinyfsMagic : Nat := 0x53465954

def tinyfsVersion : Nat := 1

def tinyfsNameMax : Nat := 64

def tinyfsIoBufferSize : Nat := 512

structure TinyfsSuperblock where
  magic : Nat
  version : Nat
  fileCount : Nat
  fileTableOffset : Nat
  dataOffset : Nat

/-- `sizeof(tinyfs_superblock_t)`. -/
def TinyfsSuperblock.size : Nat := 20

def TinyfsSuperblock.ofBytes (bytes : List UInt8) : TinyfsSuperblock where
  magic := field bytes 0 4
  version := field bytes 4 4
  fileCount := field bytes 8 4
  fileTableOffset := field bytes 12 4
  dataOffset := field bytes 16 4

/-- `sizeof(tinyfs_file_t)`. -/
def TinyfsFile.entrySize : Nat := 76

/-- An entry of the table; its last byte of the name is overwritten with a NUL. -/
def TinyfsFile.ofBytes (bytes : List UInt8) : TinyfsFile where
  name := CString.scan (bytes.take (tinyfsNameMax - 1) ++ [0])
  offset := field bytes 64 4
  size := field bytes 68 4
  flags := field bytes 72 4
  offset_lt := field_lt bytes 64 4
  size_lt := field_lt bytes 68 4

def tinyfsMountLoop (state : TinyfsState) : (count entryOffset : Nat) → Option (List TinyfsFile)
  | 0, _ => some []
  | count + 1, entryOffset =>
      match tinyfsReadBytes state entryOffset TinyfsFile.entrySize with
      | none => none
      | some bytes =>
          (tinyfsMountLoop state count ((entryOffset + TinyfsFile.entrySize) % 2 ^ 32)).map
            (TinyfsFile.ofBytes bytes :: ·)

/-- Not mounted; nothing reads the table then. -/
def TinyfsState.unmounted : TinyfsState := ⟨none, [], false⟩

/-- `false` is the return value -1. -/
def tinyfsMount (device : BlockDevice) : Bool × TinyfsState :=
  if tinyfsIoBufferSize < device.blockSize then (false, .unmounted)
  else
    let state : TinyfsState := ⟨some device, [], false⟩
    match tinyfsReadBytes state 0 TinyfsSuperblock.size with
    | none => (false, .unmounted)
    | some bytes =>
        let header := TinyfsSuperblock.ofBytes bytes
        if header.magic ≠ tinyfsMagic ∨ header.version ≠ tinyfsVersion
            ∨ tinyfsMaxFiles < header.fileCount then (false, .unmounted)
        else
          match tinyfsMountLoop state header.fileCount header.fileTableOffset with
          | none => (false, .unmounted)
          | some files => (true, ⟨some device, files, true⟩)

/-- The bytes read, whose number is the return value. -/
def tinyfsReadFile (state : TinyfsState) (path : List UInt8) (maxSize : Nat) : Option (List UInt8) :=
  match tinyfsFind state path with
  | none => none
  | some file =>
      if maxSize < file.size then none else tinyfsReadBytes state file.offset file.size

/-! ### Packing -/

namespace Mktinyfs

def nameMax : Nat := 64

def blockSize : Nat := 512

def minImageSize : Nat := 4096

def alignUp (value alignment : Nat) : Nat := (value + alignment - 1) / alignment * alignment

/-- `SUPERBLOCK_STRUCT.pack`. A value that does not fit 32 bits is an error there; an image of less
than 4 GiB has none. -/
def packSuperblock (magic version fileCount fileTableOffset dataOffset : Nat) : List UInt8 :=
  toLe 4 magic ++ toLe 4 version ++ toLe 4 fileCount ++ toLe 4 fileTableOffset ++ toLe 4 dataOffset

/-- `ENTRY_STRUCT.pack` of the padded name. -/
def packEntry (name : List UInt8) (offset size flags : Nat) : List UInt8 :=
  name ++ List.replicate (nameMax - name.length) 0 ++ toLe 4 offset ++ toLe 4 size ++ toLe 4 flags

/-- The loop over the files, with `current_offset`, `entries` and `data`. -/
def buildLoop : List (List UInt8 × List UInt8) → (currentOffset : Nat) →
    (entries data : List UInt8) → List UInt8 × List UInt8
  | [], _, entries, data => (entries, data)
  | (name, contents) :: rest, currentOffset, entries, data =>
      let entries := entries ++ packEntry name currentOffset contents.length 0
      let data := data ++ contents
      let currentOffset := currentOffset + contents.length
      let padding := alignUp currentOffset blockSize - currentOffset
      buildLoop rest (currentOffset + padding) entries (data ++ List.replicate padding 0)

def dataOffset (count : Nat) : Nat := alignUp (20 + count * 76) blockSize

/-- Zeros up to the next block, and to the smallest image. -/
def padImage (image : List UInt8) : List UInt8 :=
  let image :=
    if image.length % blockSize ≠ 0 then
      image ++ List.replicate (blockSize - image.length % blockSize) 0
    else image
  if image.length < minImageSize then image ++ List.replicate (minImageSize - image.length) 0
  else image

def buildImage (files : List (List UInt8 × List UInt8)) : List UInt8 :=
  let dataOffset := dataOffset files.length
  let parts := buildLoop files dataOffset [] []
  let image := packSuperblock tinyfsMagic tinyfsVersion files.length 20 dataOffset
  let image := image ++ parts.1
  let image := image ++ List.replicate (dataOffset - image.length) 0
  padImage (image ++ parts.2)

end Mktinyfs

end DuckOs

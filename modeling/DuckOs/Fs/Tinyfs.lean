import DuckOs.Block.BlockDevice

/-!
# TinyFS

The read side of `src/fs/tinyfs.c`: files are looked up in the table that `tinyfs_mount` has read,
and their bytes are read from the mounted device. Names are the bytes before the terminating NUL.
-/

namespace DuckOs

def tinyfsMaxFiles : Nat := 16

structure TinyfsFile where
  name : List UInt8
  offset : Nat
  size : Nat
  flags : Nat
  offset_lt : offset < 2 ^ 32
  size_lt : size < 2 ^ 32

/-- `tinyfs_block_device`, `tinyfs_files` and `tinyfs_ready`. -/
structure TinyfsState where
  device : Option BlockDevice
  files : List TinyfsFile
  ready : Bool

/-- `none` is the return value -1. Every round copies at least one byte, so `size` rounds are
enough. -/
def tinyfsReadBytes (state : TinyfsState) (offset size : Nat) : Option (List UInt8) :=
  match state.device with
  | none => none
  | some device => device.readLoop offset size size 0 []

def tinyfsFind (state : TinyfsState) (path : List UInt8) : Option TinyfsFile :=
  if !state.ready then none else state.files.find? fun file => file.name = path

/-- The start of the part is a 32-bit sum; the length of the result is the return value. -/
def tinyfsReadFilePart (state : TinyfsState) (path : List UInt8) (offset size : Nat) :
    Option (List UInt8) :=
  match tinyfsFind state path with
  | none => none
  | some file =>
      if file.size < offset then none
      else
        let size := min size (file.size - offset)
        if size = 0 then some []
        else tinyfsReadBytes state ((file.offset + offset) % 2 ^ 32) size

end DuckOs

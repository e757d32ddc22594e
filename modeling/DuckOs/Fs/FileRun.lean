import DuckOs.Fs.Vfs
import DuckOs.Lib.Machine
import DuckOs.Lib.Path

/-!
# Sequences of file operations

The operations of `src/fs/file.c` on any handles, and what they are for: an open file is a list of
bytes with a position in it.
-/

namespace DuckOs

open ByteStore Path

def fileClose (table : FileTable) (handle : Fin fileTableMax) : FileTable :=
  Function.update table handle none

inductive FileOp where
  | openPath (path : List UInt8)
  | read (handle : Fin fileTableMax) (size : Nat)
  | seek (handle : Fin fileTableMax) (offset : Nat)
  | close (handle : Fin fileTableMax)

/-- What an operation returns; `none` and `false` are the error values. -/
inductive FileResult where
  | handle (handle : Option (Fin fileTableMax))
  | bytes (bytes : Option (List UInt8))
  | moved (success : Bool)
  | closed

/-- An operation on `file_table`. An entry that is not in use is refused by its `in_use`. -/
def fileStep (vfs : VfsState) (table : FileTable) : FileOp → FileResult × FileTable
  | .openPath path =>
      match fileOpen vfs table path with
      | none => (.handle none, table)
      | some (handle, file) => (.handle (some handle), Function.update table handle (some file))
  | .read handle size =>
      match table handle with
      | none => (.bytes none, table)
      | some file =>
          match fileRead vfs file size with
          | none => (.bytes none, table)
          | some (bytes, file) => (.bytes (some bytes), Function.update table handle (some file))
  | .seek handle offset =>
      match table handle with
      | none => (.moved false, table)
      | some file =>
          match fileSeek file offset with
          | none => (.moved false, table)
          | some file => (.moved true, Function.update table handle (some file))
  | .close handle => (.closed, fileClose table handle)

/-! ### What the operations are for -/

def vfsSegments (path : List UInt8) : List (List UInt8) := segments pathSeparator path

def vfsJoin (list : List (List UInt8)) : List UInt8 := join pathSeparator list

/-- The regular file that a path names: the first one whose name is the path without superfluous
separators. The segments `.` and `..` and paths of 64 bytes or more name nothing. -/
def namedFile (files : List TinyfsFile) (path : List UInt8) : Option TinyfsFile :=
  if vfsSegments path = [] ∨ (vfsSegments path).any pathDotSegment
      ∨ vfsPathMax ≤ (vfsJoin (vfsSegments path)).length then none
  else
    (files.find? fun file => file.name = vfsJoin (vfsSegments path)).filter
      fun file => file.flags % 2 = 0

def TinyfsFile.contents (device : BlockDevice) (file : TinyfsFile) : List UInt8 :=
  slice device.storage file.offset file.size

/-- The bytes of the regular file that a path names. -/
def VfsState.contents (vfs : VfsState) (device : BlockDevice) (path : List UInt8) :
    Option (List UInt8) :=
  (namedFile vfs.tinyfs.files path).map (·.contents device)

structure OpenFile where
  bytes : List UInt8
  position : Nat

abbrev OpenFiles := Fin fileTableMax → Option OpenFile

/-- The operations on lists of bytes; every one changes at most the handle it is for. -/
def openFilesStep (contents : List UInt8 → Option (List UInt8)) (files : OpenFiles) :
    FileOp → FileResult × OpenFiles
  | .openPath path =>
      match contents path, (List.finRange fileTableMax).find? fun handle => (files handle).isNone with
      | some bytes, some handle =>
          (.handle (some handle), Function.update files handle (some ⟨bytes, 0⟩))
      | _, _ => (.handle none, files)
  | .read handle size =>
      match files handle with
      | none => (.bytes none, files)
      | some file =>
          let bytes := (file.bytes.drop file.position).take size
          (.bytes (some bytes),
            Function.update files handle (some ⟨file.bytes, file.position + bytes.length⟩))
  | .seek handle offset =>
      match files handle with
      | none => (.moved false, files)
      | some file =>
          if file.bytes.length < offset then (.moved false, files)
          else (.moved true, Function.update files handle (some ⟨file.bytes, offset⟩))
  | .close handle => (.closed, Function.update files handle none)

end DuckOs

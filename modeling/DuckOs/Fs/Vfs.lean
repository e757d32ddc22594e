import DuckOs.Fs.Tinyfs

/-!
# Paths and open files

`src/fs/vfs.c` as far as files are opened and read through it, and `src/fs/file.c`. Paths are the
bytes before the terminating NUL.
-/

namespace DuckOs

/-- The root file system, and whether `vfs_mount_root` has succeeded. -/
structure VfsState where
  tinyfs : TinyfsState
  ready : Bool

def vfsPathMax : Nat := 64

def vfsFileFlagDirectory : Nat := 1

/-- `'/'`. -/
def pathSeparator : UInt8 := 0x2f

/-- The segments `.` and `..`. -/
def pathDotSegment (segment : List UInt8) : Bool := segment = [0x2e] ∨ segment = [0x2e, 0x2e]

/-- The loop of `vfs_normalize_path`, one segment a round, with the buffer filled so far. -/
def vfsNormalizeLoop : (fuel : Nat) → (path buffer : List UInt8) → Option (List UInt8)
  | 0, _, buffer => some buffer
  | fuel + 1, path, buffer =>
      if path = [] then some buffer
      else
        let segment := path.takeWhile (· ≠ pathSeparator)
        if pathDotSegment segment then none
        else if buffer ≠ [] ∧ vfsPathMax ≤ buffer.length + 1 then none
        else
          let buffer := if buffer ≠ [] then buffer ++ [pathSeparator] else buffer
          if vfsPathMax ≤ buffer.length + segment.length then none
          else
            vfsNormalizeLoop fuel
              ((path.drop segment.length).dropWhile (· = pathSeparator)) (buffer ++ segment)

/-- `none` is the return value -1. Every segment takes at least one byte of the path. -/
def vfsNormalizePath (path : List UInt8) (allowRoot : Bool) : Option (List UInt8) :=
  let path := path.dropWhile (· = pathSeparator)
  if path = [] then if allowRoot then some [] else none
  else vfsNormalizeLoop path.length path []

/-- Whether `vfs_collect_child_name` finds a child of the directory in a file's name. -/
def vfsHasChild (directory fileName : List UInt8) : Bool :=
  if directory = [] then fileName ≠ []
  else directory ++ [pathSeparator] <+: fileName ∧ directory.length + 1 < fileName.length

structure VfsFileInfo where
  name : List UInt8
  size : Nat
  flags : Nat
  size_lt : size < 2 ^ 32

def vfsStat (vfs : VfsState) (path : List UInt8) : Option VfsFileInfo :=
  if !vfs.ready then none
  else
    match vfsNormalizePath path true with
    | none => none
    | some normalized =>
        if normalized = [] then some ⟨[pathSeparator], 0, vfsFileFlagDirectory, by decide⟩
        else
          match tinyfsFind vfs.tinyfs normalized with
          | some file => some ⟨file.name, file.size, file.flags, file.size_lt⟩
          | none =>
              if vfs.tinyfs.ready ∧ vfs.tinyfs.files.any (vfsHasChild normalized ·.name) then
                some ⟨normalized, 0, vfsFileFlagDirectory, by decide⟩
              else none

def vfsReadFilePart (vfs : VfsState) (path : List UInt8) (offset size : Nat) :
    Option (List UInt8) :=
  if !vfs.ready then none
  else
    match vfsNormalizePath path false with
    | none => none
    | some normalized =>
        match vfsStat vfs normalized with
        | none => none
        | some info =>
            if info.flags % 2 = 1 then none
            else tinyfsReadFilePart vfs.tinyfs normalized offset size

/-! ### Open files -/

/-- An entry of `file_table` that is in use. -/
structure File where
  path : List UInt8
  size : Nat
  offset : Nat
  flags : Nat
  size_lt : size < 2 ^ 32

def fileTableMax : Nat := 8

/-- `file_table`, with `none` for an entry that is not in use. -/
abbrev FileTable := Fin fileTableMax → Option File

/-- The first free entry is taken. -/
def fileOpen (vfs : VfsState) (table : FileTable) (path : List UInt8) :
    Option (Fin fileTableMax × File) :=
  match vfsStat vfs path with
  | none => none
  | some info =>
      if info.flags % 2 = 1 then none
      else
        ((List.finRange fileTableMax).find? fun index => (table index).isNone).map fun index =>
          (index, ⟨info.name, info.size, 0, info.flags, info.size_lt⟩)

/-- The bytes read, whose number is the return value, and the file at its new offset. -/
def fileRead (vfs : VfsState) (file : File) (size : Nat) : Option (List UInt8 × File) :=
  if file.size ≤ file.offset then some ([], file)
  else
    (vfsReadFilePart vfs file.path file.offset (min size (file.size - file.offset))).map
      fun bytes => (bytes, { file with offset := (file.offset + bytes.length) % 2 ^ 32 })

def fileSeek (file : File) (offset : Nat) : Option File :=
  if file.size < offset then none else some { file with offset := offset }

end DuckOs

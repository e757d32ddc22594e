import DuckOs.Fs.FileRun

/-!
# Listing directories

The part of `src/fs/vfs.c` that lists directories. A directory exists only as a prefix of file names,
so its children are collected from the table of files.
-/

namespace DuckOs

open ByteStore

/-- The child of the directory that a file's name shows, and whether the child is itself a directory;
`none` is the return value 0. -/
def vfsCollectChildName (directory fileName : List UInt8) : Option (List UInt8 × Bool) :=
  let remainder :=
    if directory = [] then some fileName
    else if directory ++ [pathSeparator] <+: fileName then
      some (fileName.drop (directory.length + 1))
    else none
  match remainder with
  | none => none
  | some remainder =>
      if remainder = [] then none
      else some (remainder.takeWhile (· ≠ pathSeparator), pathSeparator ∈ remainder)

def vfsDirectoryExists (vfs : VfsState) (directory : List UInt8) : Bool :=
  directory = [] ∨ (vfs.tinyfs.ready ∧ vfs.tinyfs.files.any fun file =>
    (vfsCollectChildName directory file.name).isSome)

/-- A buffer of `seen` is compared up to the length of the name, and has to end there. -/
def vfsNameSeen (seen : List Store) (name : List UInt8) : Bool :=
  seen.any fun buffer => buffer name.length = 0 ∧ slice buffer 0 name.length = name

/-- A child that `vfs_list` prints and `vfs_list_entries` reports, with the file that shows it. -/
structure VfsChild where
  name : List UInt8
  isDirectory : Bool
  file : TinyfsFile

/-- The entry that `vfs_list_entries` hands to the callback. -/
def VfsChild.info (child : VfsChild) : VfsFileInfo where
  name := child.name
  size := if child.isDirectory then 0 else child.file.size
  flags := if child.isDirectory then vfsFileFlagDirectory else child.file.flags
  size_lt := by
    split
    · decide
    · exact child.file.size_lt

/-- The loop of `vfs_list` and `vfs_list_entries`. The array `seen` is not initialized: `stale` is what
its buffers hold. The loop ends when `stops`, the return value of the callback, is not 0. -/
def vfsListLoop (stale : Nat → Store) (directory : List UInt8) (stops : VfsChild → Bool) :
    List TinyfsFile → (seen : List Store) → List VfsChild
  | [], _ => []
  | file :: rest, seen =>
      match vfsCollectChildName directory file.name with
      | none => vfsListLoop stale directory stops rest seen
      | some (name, isDirectory) =>
          if vfsNameSeen seen name then vfsListLoop stale directory stops rest seen
          else
            let seen := seen ++ [patch (stale seen.length) 0 (name ++ [0])]
            let child := ⟨name, isDirectory, file⟩
            if stops child then [child]
            else child :: vfsListLoop stale directory stops rest seen

/-- The files that `tinyfs_get_file` returns for the indices below `tinyfs_file_count`. -/
def VfsState.listed (vfs : VfsState) : List TinyfsFile :=
  if vfs.tinyfs.ready then vfs.tinyfs.files else []

/-- The names that are printed, one a line. -/
def vfsList (vfs : VfsState) (stale : Nat → Store) (path : List UInt8) : Option (List (List UInt8)) :=
  if !vfs.ready then none
  else
    match vfsNormalizePath path true with
    | none => none
    | some normalized =>
        if !vfsDirectoryExists vfs normalized then none
        else some ((vfsListLoop stale normalized (fun _ => false) vfs.listed []).map (·.name))

/-- The entries with which the callback is called. -/
def vfsListEntries (vfs : VfsState) (stale : Nat → Store) (callback : VfsFileInfo → Bool)
    (path : List UInt8) : Option (List VfsFileInfo) :=
  if !vfs.ready then none
  else
    match vfsNormalizePath path true with
    | none => none
    | some normalized =>
        if !vfsDirectoryExists vfs normalized then none
        else
          some ((vfsListLoop stale normalized (fun child => callback child.info) vfs.listed []).map
            (·.info))

/-- A table of files as `mktinyfs.py` can build it. -/
structure VfsState.Packed (vfs : VfsState) : Prop where
  ready : vfs.ready = true
  tinyfs_ready : vfs.tinyfs.ready = true
  count_le : vfs.tinyfs.files.length ≤ tinyfsMaxFiles
  canonical : ∀ file ∈ vfs.tinyfs.files, vfsSegments file.name ≠ []
    ∧ file.name = vfsJoin (vfsSegments file.name)
    ∧ ¬ (vfsSegments file.name).any pathDotSegment
  nulFree : ∀ file ∈ vfs.tinyfs.files, 0 ∉ file.name
  short : ∀ file ∈ vfs.tinyfs.files, file.name.length < vfsPathMax
  distinct : (vfs.tinyfs.files.map (·.name)).Nodup
  apart : ∀ file ∈ vfs.tinyfs.files, ∀ other ∈ vfs.tinyfs.files,
    ¬ file.name ++ [pathSeparator] <+: other.name
  flags_eq : ∀ file ∈ vfs.tinyfs.files, file.flags = 0

/-- The immediate children of a directory, each once, in the order in which the names show them. -/
def immediateChildren (names : List (List (List UInt8))) (directory : List (List UInt8)) :
    List (List UInt8) :=
  (names.filterMap fun name =>
    if directory <+: name then name[directory.length]? else none).eraseDups

end DuckOs

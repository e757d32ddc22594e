import DuckOs.Fs.TinyfsImage
import DuckOs.Fs.VfsList

/-!
# The buffer of a normalized path

`vfs_normalize_path` of `src/fs/vfs.c` with its writes to the caller's buffer and its 32-bit lengths,
and `vfs_read_file`. The buffers that are passed have 64 bytes.
-/

namespace DuckOs

open ByteStore

/-- The writes to a buffer in their order: a position and the bytes. -/
abbrev BufferWrites := List (Nat × List UInt8)

/-- The loop over the segments; `false` is the return value -1. Every segment takes at least one byte
of the path. -/
def vfsNormalizeWriteLoop : (fuel : Nat) → (path : List UInt8) → (length : Nat) → Bool × BufferWrites
  | 0, _, length => (true, [(length, [0])])
  | fuel + 1, path, length =>
      if path = [] then (true, [(length, [0])])
      else
        let segment := path.takeWhile (· ≠ pathSeparator)
        let segmentLength := segment.length % 2 ^ 32
        if pathDotSegment segment then (false, [])
        else if length ≠ 0 ∧ vfsPathMax ≤ (length + 1) % 2 ^ 32 then (false, [])
        else
          let separator := if length ≠ 0 then [(length, [pathSeparator])] else []
          let length := if length ≠ 0 then (length + 1) % 2 ^ 32 else length
          if vfsPathMax ≤ (length + segmentLength) % 2 ^ 32 then (false, separator)
          else
            let rest := vfsNormalizeWriteLoop fuel
              ((path.drop segmentLength).dropWhile (· = pathSeparator))
              ((length + segmentLength) % 2 ^ 32)
            (rest.1, separator ++ (length, segment.take segmentLength) :: rest.2)

/-- Whether `vfs_normalize_path` returns 0, and what it writes. -/
def vfsNormalizeWrite (path : List UInt8) (allowRoot : Bool) : Bool × BufferWrites :=
  let path := path.dropWhile (· = pathSeparator)
  if path = [] then if allowRoot then (true, [(0, [0])]) else (false, [])
  else vfsNormalizeWriteLoop path.length path 0

/-- The bytes that the file has, whose number is the return value. -/
def vfsReadFile (vfs : VfsState) (path : List UInt8) (maxSize : Nat) : Option (List UInt8) :=
  if !vfs.ready then none
  else
    match vfsNormalizePath path false with
    | none => none
    | some normalized =>
        match vfsStat vfs normalized with
        | none => none
        | some info =>
            if info.flags % 2 = 1 then none else tinyfsReadFile vfs.tinyfs normalized maxSize

end DuckOs

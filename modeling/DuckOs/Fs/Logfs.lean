import DuckOs.Lib.CString
import DuckOs.Block.BlockDevice

/-!
# LogFS

`src/fs/logfs.c`. The disk holds a superblock and a log of checksummed records; the file and
segment tables in memory are what replaying the log builds. Static variables become the fields of
`LogfsState`; those that replay rebuilds are grouped in `LogfsTables`. File names are stored in the
file entries, where the source keeps a pointer into `logfs_file_names`. Offsets are `unsigned long`
values below `block_count * block_size`, a product of two 32-bit numbers, and never wrap.
-/

namespace DuckOs

open ByteStore

def logfsMagic : Nat := 0x5346474c
def logfsVersion : Nat := 1
def logfsNameMax : Nat := 32
def logfsMaxFiles : Nat := 16
def logfsMaxSegments : Nat := 64
def logfsRecordMagic : Nat := 0x4345524c
def logfsRecordTypeCreate : Nat := 1
def logfsRecordTypeAppend : Nat := 2
def logfsIoBufferSize : Nat := 512
def logfsAlign : Nat := 8

structure LogfsSuperblock where
  magic : Nat
  version : Nat
  blockSize : Nat
  blockCount : Nat
  logOffset : Nat
  deriving DecidableEq

namespace LogfsSuperblock

/-- `sizeof(logfs_superblock_t)`. -/
def size : Nat := 20

def zero : LogfsSuperblock := ⟨0, 0, 0, 0, 0⟩

def ofBytes (bytes : List UInt8) : LogfsSuperblock where
  magic := field bytes 0 4
  version := field bytes 4 4
  blockSize := field bytes 8 4
  blockCount := field bytes 12 4
  logOffset := field bytes 16 4

def toBytes (superblock : LogfsSuperblock) : List UInt8 :=
  toLe 4 superblock.magic ++ toLe 4 superblock.version ++ toLe 4 superblock.blockSize
    ++ toLe 4 superblock.blockCount ++ toLe 4 superblock.logOffset

/-- The end of the log: `block_count * block_size`. -/
def logLimit (superblock : LogfsSuperblock) : Nat := superblock.blockCount * superblock.blockSize

end LogfsSuperblock

structure LogfsRecordHeader where
  magic : Nat
  type : Nat
  fileId : Nat
  payloadSize : Nat
  fileSizeBefore : Nat
  fileSizeAfter : Nat
  checksum : Nat
  nameLength : Nat
  deriving DecidableEq

namespace LogfsRecordHeader

/-- `sizeof(logfs_record_header_t)`. -/
def size : Nat := 32

def ofBytes (bytes : List UInt8) : LogfsRecordHeader where
  magic := field bytes 0 4
  type := field bytes 4 4
  fileId := field bytes 8 4
  payloadSize := field bytes 12 4
  fileSizeBefore := field bytes 16 4
  fileSizeAfter := field bytes 20 4
  checksum := field bytes 24 4
  nameLength := field bytes 28 4

def toBytes (header : LogfsRecordHeader) : List UInt8 :=
  toLe 4 header.magic ++ toLe 4 header.type ++ toLe 4 header.fileId ++ toLe 4 header.payloadSize
    ++ toLe 4 header.fileSizeBefore ++ toLe 4 header.fileSizeAfter ++ toLe 4 header.checksum
    ++ toLe 4 header.nameLength

end LogfsRecordHeader

structure LogfsSegment where
  fileId : Nat
  fileOffset : Nat
  dataSize : Nat
  dataOffset : Nat
  deriving DecidableEq

structure LogfsFileInfo where
  name : List UInt8
  size : Nat
  deriving DecidableEq

structure LogfsFileState where
  info : LogfsFileInfo
  fileId : Nat
  segmentCount : Nat
  inUse : Bool
  deriving DecidableEq

/-- A file entry after `memset(file, 0, sizeof(*file))`. -/
def LogfsFileState.zero : LogfsFileState := ⟨⟨[], 0⟩, 0, 0, false⟩

/-- The static tables that replaying the log rebuilds: `logfs_files` with its
`LOGFS_MAX_FILES` slots, the first `logfs_segment_count` entries of `logfs_segments`, and
`logfs_next_file_id`. -/
structure LogfsTables where
  files : List LogfsFileState
  segments : List LogfsSegment
  nextFileId : Nat
  deriving DecidableEq

/-- The tables as `logfs_mount` clears them. -/
def LogfsTables.empty : LogfsTables where
  files := List.replicate logfsMaxFiles .zero
  segments := []
  nextFileId := 1

structure LogfsState where
  blockDevice : Option BlockDevice
  superblock : LogfsSuperblock
  tables : LogfsTables
  logEnd : Nat
  ready : Bool

def LogfsState.onDevice (state : LogfsState) (device : BlockDevice) : LogfsState :=
  { state with blockDevice := some device }

/-- `(value + 7) & ~7` on `unsigned int`. -/
def logfsAlignUp (value : Nat) : Nat :=
  (value + (logfsAlign - 1)) % 2 ^ 32 / logfsAlign * logfsAlign

def logfsChecksumBytes (seed : Nat) (data : List UInt8) : Nat :=
  data.foldl (fun sum byte => (sum * 33 + byte.toNat) % 2 ^ 32) seed

def logfsNameValid (name : List UInt8) : Bool :=
  name != [] && decide (name.length < logfsNameMax) && name.all (· != 0x2f)

/-! ### Byte ranges over blocks -/

/-- `none` is the return value -1. Every round copies at least one byte, so `size` rounds are
enough. -/
def logfsReadBytes (device : Option BlockDevice) (offset size : Nat) : Option (List UInt8) :=
  match device with
  | none => none
  | some device =>
      if logfsIoBufferSize < device.blockSize then none
      else device.readLoop offset size size 0 []

def logfsWriteLoop (offset size : Nat) (src : List UInt8) :
    (fuel copied : Nat) → BlockDevice → Int × BlockDevice
  | 0, copied, device => if copied < size then (-1, device) else (0, device)
  | fuel + 1, copied, device =>
      if copied < size then
        let blockIndex := (offset + copied) / device.blockSize
        let blockOffset := (offset + copied) % device.blockSize
        let chunkSize := min (device.blockSize - blockOffset) (size - copied)
        let chunk := (src.drop copied).take chunkSize
        if blockOffset = 0 ∧ chunkSize = device.blockSize then
          match device.writeBlocks blockIndex 1 chunk with
          | none => (-1, device)
          | some device => logfsWriteLoop offset size src fuel (copied + chunkSize) device
        else
          match device.readBlocks blockIndex 1 with
          | none => (-1, device)
          | some block =>
              match device.writeBlocks blockIndex 1
                (block.take blockOffset ++ chunk ++ block.drop (blockOffset + chunkSize)) with
              | none => (-1, device)
              | some device => logfsWriteLoop offset size src fuel (copied + chunkSize) device
      else (0, device)

def logfsWriteBytes (device : Option BlockDevice) (offset : Nat) (src : List UInt8) :
    Int × Option BlockDevice :=
  match device with
  | none => (-1, none)
  | some device =>
      if logfsIoBufferSize < device.blockSize then (-1, some device)
      else
        let result := logfsWriteLoop offset src.length src src.length 0 device
        (result.1, some result.2)

/-! ### The tables -/

def logfsFindFileState (tables : LogfsTables) (name : List UInt8) : Option Nat :=
  tables.files.findIdx? fun file => file.inUse && file.info.name == name

def logfsFindFileId (tables : LogfsTables) (fileId : Nat) : Option Nat :=
  tables.files.findIdx? fun file => file.inUse && file.fileId == fileId

/-- The first slot not in use. The caller fills it in, which also sets `in_use`. -/
def logfsAllocFileState (tables : LogfsTables) : Option Nat :=
  tables.files.findIdx? fun file => !file.inUse

/-- The entry at a slot of `logfs_files`. -/
def LogfsTables.fileAt (tables : LogfsTables) (slot : Nat) : LogfsFileState :=
  tables.files.getD slot .zero

def logfsAddSegment (tables : LogfsTables) (segment : LogfsSegment) : Option LogfsTables :=
  if logfsMaxSegments ≤ tables.segments.length then none
  else some { tables with segments := tables.segments ++ [segment] }

/-! ### Replay -/

def logfsReplayCreate (tables : LogfsTables) (header : LogfsRecordHeader) (payload : List UInt8) :
    Option LogfsTables :=
  let nameLength := header.nameLength
  if nameLength = 0 ∨ logfsNameMax ≤ nameLength then none
  else if header.payloadSize ≠ (nameLength + 1) % 2 ^ 32 ∨ payload.getD nameLength 0 ≠ 0 then none
  else
    let name := CString.scan payload
    if !logfsNameValid name then none
    else if (logfsFindFileState tables name).isSome ∨ (logfsFindFileId tables header.fileId).isSome
    then none
    else
      match logfsAllocFileState tables with
      | none => none
      | some slot =>
          some {
            files := tables.files.set slot ⟨⟨name, 0⟩, header.fileId, 0, true⟩
            segments := tables.segments
            nextFileId :=
              if tables.nextFileId ≤ header.fileId then (header.fileId + 1) % 2 ^ 32
              else tables.nextFileId }

def logfsReplayAppend (tables : LogfsTables) (header : LogfsRecordHeader) (payloadOffset : Nat) :
    Option LogfsTables :=
  match logfsFindFileId tables header.fileId with
  | none => none
  | some slot =>
      let file := tables.fileAt slot
      if header.payloadSize = 0 then none
      else if file.info.size ≠ header.fileSizeBefore
          ∨ header.fileSizeAfter ≠ (header.fileSizeBefore + header.payloadSize) % 2 ^ 32 then none
      else
        match logfsAddSegment tables
          ⟨header.fileId, file.info.size, header.payloadSize, payloadOffset⟩ with
        | none => none
        | some tables =>
            some { tables with
              files := tables.files.set slot
                { file with
                  info := { file.info with size := header.fileSizeAfter }
                  segmentCount := file.segmentCount + 1 } }

/-- What `logfs_replay_record` does: return 0 with the tables updated and `logfs_log_end` moved
behind the record, return 1 at a zero magic, or return -1 with nothing changed. -/
inductive ReplayStatus where
  | replayed (tables : LogfsTables) (logEnd : Nat)
  | endOfLog
  | rejected
  deriving DecidableEq

def logfsReplayRecord (device : BlockDevice) (superblock : LogfsSuperblock) (tables : LogfsTables)
    (offset : Nat) : ReplayStatus :=
  match logfsReadBytes (some device) offset LogfsRecordHeader.size with
  | none => .rejected
  | some headerBytes =>
      let header := LogfsRecordHeader.ofBytes headerBytes
      if header.magic = 0 then .endOfLog
      else if header.magic ≠ logfsRecordMagic then .rejected
      else
        let recordSize := logfsAlignUp ((LogfsRecordHeader.size + header.payloadSize) % 2 ^ 32)
        if recordSize < LogfsRecordHeader.size ∨ superblock.logLimit < offset + recordSize
            ∨ logfsIoBufferSize - LogfsRecordHeader.size < header.payloadSize then .rejected
        else
          match logfsReadBytes (some device) (offset + LogfsRecordHeader.size)
            header.payloadSize with
          | none => .rejected
          | some payload =>
              if logfsChecksumBytes
                  (logfsChecksumBytes 0 ({ header with checksum := 0 } : LogfsRecordHeader).toBytes)
                  payload ≠ header.checksum then .rejected
              else if header.type = logfsRecordTypeCreate then
                match logfsReplayCreate tables header payload with
                | none => .rejected
                | some tables => .replayed tables (offset + recordSize)
              else if header.type = logfsRecordTypeAppend then
                match logfsReplayAppend tables header (offset + LogfsRecordHeader.size) with
                | none => .rejected
                | some tables => .replayed tables (offset + recordSize)
              else .rejected

/-- The loop of `logfs_mount`: the tables and `logfs_log_end` when it stops. Every replayed record
is at least 32 bytes long, so the fuel `logfs_mount` passes is never used up. -/
def logfsReplayLoop (device : BlockDevice) (superblock : LogfsSuperblock) :
    (fuel offset : Nat) → LogfsTables → LogfsTables × Nat
  | 0, offset, tables => (tables, offset)
  | fuel + 1, offset, tables =>
      if offset + LogfsRecordHeader.size ≤ superblock.logLimit then
        match logfsReplayRecord device superblock tables offset with
        | .replayed tables logEnd => logfsReplayLoop device superblock fuel logEnd tables
        | .endOfLog => (tables, offset)
        | .rejected => (tables, offset)
      else (tables, offset)

/-- The static variables as `logfs_mount` clears them. -/
def LogfsState.cleared : LogfsState where
  blockDevice := none
  superblock := .zero
  tables := .empty
  logEnd := 0
  ready := false

/-- The checks `logfs_mount` makes on the superblock it has read. -/
def logfsSuperblockValid (device : BlockDevice) (superblock : LogfsSuperblock) : Bool :=
  decide (superblock.magic = logfsMagic) && decide (superblock.version = logfsVersion)
    && decide (superblock.blockSize = device.blockSize)
    && decide (superblock.blockCount ≤ device.blockCount)
    && decide (device.blockSize ≤ superblock.logOffset)

/-- Nothing of the previous state survives, so it is not an argument. -/
def logfsMount (device : BlockDevice) : Int × LogfsState :=
  if logfsIoBufferSize < device.blockSize then (-1, .cleared)
  else
    match logfsReadBytes (some device) 0 LogfsSuperblock.size with
    | none => (-1, .cleared)
    | some bytes =>
        let superblock := LogfsSuperblock.ofBytes bytes
        if logfsSuperblockValid device superblock then
          let result := logfsReplayLoop device superblock (superblock.logLimit + 1)
            superblock.logOffset .empty
          (0, { blockDevice := some device
                superblock := superblock
                tables := result.1
                logEnd := result.2
                ready := true })
        else (-1, { LogfsState.cleared with superblock := superblock })

/-! ### Operations -/

def logfsFileCount (state : LogfsState) : Nat :=
  state.tables.files.countP (·.inUse)

/-- The scan of `logfs_get_file`: `current` counts the entries in use so far. -/
def logfsGetFileFrom (index : Nat) : List LogfsFileState → (current : Nat) → Option LogfsFileInfo
  | [], _ => none
  | file :: rest, current =>
      if !file.inUse then logfsGetFileFrom index rest current
      else if current = index then some file.info
      else logfsGetFileFrom index rest (current + 1)

def logfsGetFile (state : LogfsState) (index : Nat) : Option LogfsFileInfo :=
  if !state.ready then none else logfsGetFileFrom index state.tables.files 0

def logfsStat (state : LogfsState) (name : CString) : Option LogfsFileInfo :=
  if !state.ready then none
  else
    match logfsFindFileState state.tables name.bytes with
    | none => none
    | some slot => some (state.tables.fileAt slot).info

/-- The bytes `logfs_append_record` puts in `logfs_record_buffer`. -/
def logfsRecordBytes (type fileId fileSizeBefore fileSizeAfter nameLength : Nat)
    (payload : List UInt8) : List UInt8 :=
  let header : LogfsRecordHeader :=
    ⟨logfsRecordMagic, type, fileId, payload.length, fileSizeBefore, fileSizeAfter, 0, nameLength⟩
  let recordSize := logfsAlignUp (LogfsRecordHeader.size + payload.length)
  let paddingSize := recordSize - (LogfsRecordHeader.size + payload.length)
  let checksum := logfsChecksumBytes (logfsChecksumBytes 0 header.toBytes) payload
  ({ header with checksum := checksum } : LogfsRecordHeader).toBytes ++ payload
    ++ List.replicate paddingSize 0

/-- `*record_offset_out` receives the value of `logfs_log_end` before the call. -/
def logfsAppendRecord (state : LogfsState)
    (type fileId fileSizeBefore fileSizeAfter nameLength : Nat) (payload : List UInt8) :
    Int × LogfsState :=
  if logfsIoBufferSize - LogfsRecordHeader.size < payload.length then (-1, state)
  else
    let recordSize := logfsAlignUp (LogfsRecordHeader.size + payload.length)
    if state.superblock.logLimit < state.logEnd + recordSize then (-1, state)
    else
      let result := logfsWriteBytes state.blockDevice state.logEnd
        (logfsRecordBytes type fileId fileSizeBefore fileSizeAfter nameLength payload)
      if result.1 ≠ 0 then (-1, { state with blockDevice := result.2 })
      else (0, { state with blockDevice := result.2, logEnd := state.logEnd + recordSize })

def logfsCreate (state : LogfsState) (name : CString) : Int × LogfsState :=
  if !state.ready || !logfsNameValid name.bytes
      || (logfsFindFileState state.tables name.bytes).isSome then (-1, state)
  else
    match logfsAllocFileState state.tables with
    | none => (-1, state)
    | some slot =>
        let fileId := state.tables.nextFileId
        let tables : LogfsTables :=
          { files := state.tables.files.set slot ⟨⟨name.bytes, 0⟩, fileId, 0, true⟩
            segments := state.tables.segments
            nextFileId := (fileId + 1) % 2 ^ 32 }
        let result := logfsAppendRecord { state with tables := tables } logfsRecordTypeCreate
          fileId 0 0 name.bytes.length (name.bytes ++ [0])
        if result.1 ≠ 0 then
          (-1, { result.2 with
            tables := { result.2.tables with files := result.2.tables.files.set slot .zero } })
        else (0, result.2)

/-- `data` is the caller's buffer of `size` bytes. -/
def logfsAppend (state : LogfsState) (name : CString) (data : List UInt8) : Int × LogfsState :=
  if !state.ready || data.length == 0 then (-1, state)
  else
    match logfsFindFileState state.tables name.bytes with
    | none => (-1, state)
    | some slot =>
        let file := state.tables.fileAt slot
        let recordOffset := state.logEnd
        let result := logfsAppendRecord state logfsRecordTypeAppend file.fileId file.info.size
          ((file.info.size + data.length) % 2 ^ 32) 0 data
        if result.1 ≠ 0 then (-1, result.2)
        else
          match logfsAddSegment result.2.tables
            ⟨file.fileId, file.info.size, data.length, recordOffset + LogfsRecordHeader.size⟩ with
          | none => (-1, result.2)
          | some tables =>
              (0, { result.2 with
                tables := { tables with
                  files := tables.files.set slot
                    { file with
                      info := { file.info with size := (file.info.size + data.length) % 2 ^ 32 }
                      segmentCount := file.segmentCount + 1 } } })

/-- The loop of `logfs_read_file_part`: return value and the bytes stored through `buffer`. -/
def logfsReadSegments (device : Option BlockDevice) (fileId offset readEnd size : Nat) :
    List LogfsSegment → (copied : Nat) → (dest : List UInt8) → Int × List UInt8
  | [], copied, dest => (copied, dest)
  | segment :: rest, copied, dest =>
      if copied < size then
        let segmentStart := segment.fileOffset
        let segmentEnd := (segment.fileOffset + segment.dataSize) % 2 ^ 32
        if segment.fileId ≠ fileId ∨ segmentEnd ≤ offset ∨ readEnd ≤ segmentStart then
          logfsReadSegments device fileId offset readEnd size rest copied dest
        else
          let overlapStart := max offset segmentStart
          let overlapEnd := min readEnd segmentEnd
          let readStart := overlapStart - segmentStart
          let readSize := overlapEnd - overlapStart
          match logfsReadBytes device (segment.dataOffset + readStart) readSize with
          | none => (-1, dest)
          | some bytes =>
              logfsReadSegments device fileId offset readEnd size rest (copied + readSize)
                (dest ++ bytes)
      else (copied, dest)

def logfsReadFilePart (state : LogfsState) (name : CString) (offset size : Nat) :
    Int × List UInt8 :=
  if !state.ready then (-1, [])
  else
    match logfsFindFileState state.tables name.bytes with
    | none => (-1, [])
    | some slot =>
        let file := state.tables.fileAt slot
        if file.info.size < offset then (-1, [])
        else
          let size := min size (file.info.size - offset)
          if size = 0 then (0, [])
          else
            logfsReadSegments state.blockDevice file.fileId offset ((offset + size) % 2 ^ 32) size
              state.tables.segments 0 []

def logfsReadFile (state : LogfsState) (name : CString) (maxSize : Nat) : Int × List UInt8 :=
  match logfsStat state name with
  | none => (-1, [])
  | some info =>
      if maxSize < info.size then (-1, []) else logfsReadFilePart state name 0 info.size

/-! ### The image `tools/mklogfs.py` writes -/

def mklogfsSuperblock : LogfsSuperblock where
  magic := 0x5346474c
  version := 1
  blockSize := 512
  blockCount := 128
  logOffset := 512

/-- The 128 blocks of a fresh image: the superblock, then zeros. -/
def mklogfsImage : Store := patch (fun _ => 0) 0 mklogfsSuperblock.toBytes

end DuckOs

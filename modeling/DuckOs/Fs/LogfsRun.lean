import DuckOs.Fs.Logfs
import DuckOs.Lib.Machine

/-!
# Runs of LogFS

The calls a client makes, runs of them, and what such runs are asked: what a remount should recover,
when a run loses a record, and the image a power cut leaves in the middle of a call.
-/

namespace DuckOs

/-! ### Calls -/

inductive LogfsOp where
  | create (name : CString)
  | append (name : CString) (data : List UInt8)
  | stat (name : CString)
  | getFile (index : Nat)
  | fileCount
  | readFile (name : CString) (maxSize : Nat)
  | readFilePart (name : CString) (offset size : Nat)
  | mount

/-- What a call returns, and the bytes it delivers through its buffer. -/
inductive LogfsReply where
  | status (code : Int)
  | info (info : Option LogfsFileInfo)
  | count (count : Nat)
  | bytes (code : Int) (data : List UInt8)
  deriving DecidableEq

/-- One call to LogFS; `mount` mounts the device in use again. -/
def logfsStep (state : LogfsState) : LogfsOp → LogfsReply × LogfsState
  | .create name => (.status (logfsCreate state name).1, (logfsCreate state name).2)
  | .append name data => (.status (logfsAppend state name data).1, (logfsAppend state name data).2)
  | .stat name => (.info (logfsStat state name), state)
  | .getFile index => (.info (logfsGetFile state index), state)
  | .fileCount => (.count (logfsFileCount state), state)
  | .readFile name maxSize =>
      (.bytes (logfsReadFile state name maxSize).1 (logfsReadFile state name maxSize).2, state)
  | .readFilePart name offset size =>
      (.bytes (logfsReadFilePart state name offset size).1
        (logfsReadFilePart state name offset size).2, state)
  | .mount =>
      match state.blockDevice with
      | none => (.status (-1), state)
      | some device => (.status (logfsMount device).1, (logfsMount device).2)

def LogfsOp.isAppend : LogfsOp → Bool
  | .append _ _ => true
  | _ => false

def LogfsOp.isCreate : LogfsOp → Bool
  | .create _ => true
  | _ => false

/-- A device that holds the image `tools/mklogfs.py` writes. -/
structure BlockDevice.Formatted (device : BlockDevice) : Prop where
  blockSize_eq : device.blockSize = 512
  blockCount_le : 128 ≤ device.blockCount
  image : ByteStore.AgreeBelow (128 * 512) device.storage mklogfsImage

/-! ### Creates and appends -/

inductive LogfsWrite where
  | create (name : CString)
  | append (name : CString) (data : List UInt8)
  deriving DecidableEq

def logfsWriteStep (state : LogfsState) : LogfsWrite → Int × LogfsState
  | .create name => logfsCreate state name
  | .append name data => logfsAppend state name data

/-- The calls of a run with their return values. -/
def logfsHistory (state : LogfsState) (writes : List LogfsWrite) : List (LogfsWrite × Int) :=
  writes.zip (Machine.run logfsWriteStep state writes).1

/-- The data of the appends to `name` that returned 0, in order. -/
def appendedTo (name : List UInt8) : List (LogfsWrite × Int) → List UInt8
  | [] => []
  | (.append target data, code) :: rest =>
      if target.bytes = name ∧ code = 0 then data ++ appendedTo name rest else appendedTo name rest
  | (.create _, _) :: rest => appendedTo name rest

/-- Mounting the device of `state` again recovers every file the history created, with everything
appended to it. -/
def LogfsRecovers (state : LogfsState) (history : List (LogfsWrite × Int)) : Prop :=
  ∃ device, state.blockDevice = some device ∧ (logfsMount device).1 = 0
    ∧ ∀ name : CString, (LogfsWrite.create name, 0) ∈ history →
      logfsStat (logfsMount device).2 name
          = some ⟨name.bytes, (appendedTo name.bytes history).length⟩
        ∧ logfsReadFile (logfsMount device).2 name (appendedTo name.bytes history).length
          = (((appendedTo name.bytes history).length : Int), appendedTo name.bytes history)

/-! ### Where a record gets lost -/

/-- A record with `size` bytes of payload fits the record buffer and the log. -/
def logfsRecordFits (state : LogfsState) (size : Nat) : Bool :=
  decide (size ≤ logfsIoBufferSize - LogfsRecordHeader.size)
    && decide (state.logEnd + logfsAlignUp (LogfsRecordHeader.size + size)
      ≤ state.superblock.logLimit)

/-- `logfs_create` goes through. -/
def logfsCreateAccepts (state : LogfsState) (name : CString) : Bool :=
  logfsNameValid name.bytes && (logfsFindFileState state.tables name.bytes).isNone
    && (logfsAllocFileState state.tables).isSome && logfsRecordFits state (name.bytes.length + 1)

/-- `logfs_append` writes its record although the segment table is full. -/
def logfsAppendOverflows (state : LogfsState) (name : CString) (data : List UInt8) : Bool :=
  (logfsFindFileState state.tables name.bytes).isSome && data.length != 0
    && logfsRecordFits state data.length && decide (logfsMaxSegments ≤ state.tables.segments.length)

/-- No create of the run is accepted after an append that overflowed the segment table, or with the
id of an existing file. `overflowed` tells whether such an append happened before. -/
def logfsRunSafe : LogfsState → (overflowed : Bool) → List LogfsWrite → Bool
  | _, _, [] => true
  | state, overflowed, .create name :: rest =>
      (!logfsCreateAccepts state name
          || !overflowed && (logfsFindFileId state.tables state.tables.nextFileId).isNone)
        && logfsRunSafe (logfsCreate state name).2 overflowed rest
  | state, overflowed, .append name data :: rest =>
      logfsRunSafe (logfsAppend state name data).2
        (overflowed || logfsAppendOverflows state name data) rest

/-! ### Power cuts -/

/-- States of a mounted LogFS: mounting a device whose blocks hold a superblock, and any calls from
there. Both drivers have blocks of 512 bytes; `logfs_mount` only asks that the log begins behind the
first block, which with less than 20 bytes in a block may be inside the superblock. -/
inductive LogfsReachable : LogfsState → Prop where
  | mount (device : BlockDevice) (hblockSize : LogfsSuperblock.size ≤ device.blockSize)
      (hmount : (logfsMount device).1 = 0) : LogfsReachable (logfsMount device).2
  | write {state : LogfsState} (hstate : LogfsReachable state) (write : LogfsWrite) :
      LogfsReachable (logfsWriteStep state write).2

/-- The device after a power cut: of the block writes that lead from `device` to `after`, only the
first `count` have happened. -/
def BlockDevice.cutAfter (device after : BlockDevice) (count : Nat) : BlockDevice :=
  { device with
    storage := applyWrites device.blockSize device.storage
      ((after.writes.drop device.writes.length).take count)
    writes := device.writes ++ (after.writes.drop device.writes.length).take count }

/-- The name a call appends to. -/
def LogfsWrite.target : LogfsWrite → Option (List UInt8)
  | .create _ => none
  | .append name _ => some name.bytes

/-- Every file of `before` is in `mounted`, can be read from both, and its former bytes are a prefix
of the recovered ones; only the target may have grown. -/
def LogfsKeepsFiles (before mounted : LogfsState) (target : Option (List UInt8)) : Prop :=
  ∀ (name : CString) (info : LogfsFileInfo), logfsStat before name = some info →
    ∃ former recovered : List UInt8, info = ⟨name.bytes, former.length⟩
      ∧ logfsReadFile before name former.length = ((former.length : Int), former)
      ∧ logfsStat mounted name = some ⟨name.bytes, recovered.length⟩
      ∧ logfsReadFile mounted name recovered.length = ((recovered.length : Int), recovered)
      ∧ former <+: recovered ∧ (target ≠ some name.bytes → recovered = former)

/-- Both states answer every query by name alike. -/
def LogfsSameFiles (left right : LogfsState) : Prop :=
  ∀ name : CString, logfsStat left name = logfsStat right name
    ∧ ∀ maxSize, logfsReadFile left name maxSize = logfsReadFile right name maxSize

/-! ### Blocks that a mount reads -/

/-- The indices that `readLoop` passes to `read_blocks`, up to the first one that is refused. A
device that refuses none is read in the same order as long as the indices are in range. -/
def BlockDevice.readIndices (device : BlockDevice) (offset size : Nat) :
    (fuel copied : Nat) → List Nat
  | 0, _ => []
  | fuel + 1, copied =>
      if copied < size then
        let blockIndex := (offset + copied) / device.blockSize
        let blockOffset := (offset + copied) % device.blockSize
        let chunkSize := min (device.blockSize - blockOffset) (size - copied)
        blockIndex :: match device.readBlocks blockIndex 1 with
          | none => []
          | some _ => device.readIndices offset size fuel (copied + chunkSize)
      else []

def logfsReadIndices (device : BlockDevice) (offset size : Nat) : List Nat :=
  if logfsIoBufferSize < device.blockSize then [] else device.readIndices offset size size 0

/-- The indices read by `logfs_replay_record`: those of the header, and those of the payload if the
header passes the tests made before the payload is read. -/
def logfsReplayRecordIndices (device : BlockDevice) (superblock : LogfsSuperblock) (offset : Nat) :
    List Nat :=
  logfsReadIndices device offset LogfsRecordHeader.size ++
    match logfsReadBytes (some device) offset LogfsRecordHeader.size with
    | none => []
    | some headerBytes =>
        let header := LogfsRecordHeader.ofBytes headerBytes
        if header.magic ≠ logfsRecordMagic then []
        else
          let recordSize := logfsAlignUp ((LogfsRecordHeader.size + header.payloadSize) % 2 ^ 32)
          if recordSize < LogfsRecordHeader.size ∨ superblock.logLimit < offset + recordSize
              ∨ logfsIoBufferSize - LogfsRecordHeader.size < header.payloadSize then []
          else logfsReadIndices device (offset + LogfsRecordHeader.size) header.payloadSize

def logfsReplayLoopIndices (device : BlockDevice) (superblock : LogfsSuperblock) :
    (fuel offset : Nat) → LogfsTables → List Nat
  | 0, _, _ => []
  | fuel + 1, offset, tables =>
      if offset + LogfsRecordHeader.size ≤ superblock.logLimit then
        logfsReplayRecordIndices device superblock offset ++
          match logfsReplayRecord device superblock tables offset with
          | .replayed tables logEnd => logfsReplayLoopIndices device superblock fuel logEnd tables
          | .endOfLog => []
          | .rejected => []
      else []

/-- Every index that `logfs_mount` passes to `read_blocks`. -/
def logfsMountIndices (device : BlockDevice) : List Nat :=
  logfsReadIndices device 0 LogfsSuperblock.size ++
    match logfsReadBytes (some device) 0 LogfsSuperblock.size with
    | none => []
    | some bytes =>
        let superblock := LogfsSuperblock.ofBytes bytes
        if logfsSuperblockValid device superblock then
          logfsReplayLoopIndices device superblock (superblock.logLimit + 1) superblock.logOffset
            .empty
        else []

/-! ### Sessions -/

/-- No two files in use share an id. -/
def LogfsIdsDistinct (tables : LogfsTables) : Prop :=
  ((tables.files.filter (·.inUse)).map (·.fileId)).Nodup

instance (tables : LogfsTables) : Decidable (LogfsIdsDistinct tables) :=
  inferInstanceAs (Decidable (List.Nodup _))

/-- What a file holds; a name without a file holds nothing. -/
def logfsBytes (state : LogfsState) (name : CString) : List UInt8 :=
  match logfsStat state name with
  | none => []
  | some info => (logfsReadFile state name info.size).2

/-- A mounted state and the calls that have been made on it, with their return values. -/
structure LogfsSession where
  state : LogfsState
  history : List (LogfsWrite × Int)

namespace LogfsSession

def next (session : LogfsSession) (write : LogfsWrite) : LogfsSession :=
  let result := logfsWriteStep session.state write
  ⟨result.2, session.history ++ [(write, result.1)]⟩

/-- Every file in use has its own id, and every read delivers what the file held in `mounted` and
what has been appended to it since, and nothing else. -/
structure Separate (mounted : LogfsState) (session : LogfsSession) : Prop where
  ids : LogfsIdsDistinct session.state.tables
  bytes : ∀ (name : CString) (info : LogfsFileInfo), logfsStat session.state name = some info →
    ∃ bytes, bytes = logfsBytes mounted name ++ appendedTo name.bytes session.history
      ∧ info = ⟨name.bytes, bytes.length⟩
      ∧ ∀ offset size, offset ≤ bytes.length →
        logfsReadFilePart session.state name offset size
          = (((min size (bytes.length - offset) : Nat) : Int), (bytes.drop offset).take size)

/-- The call is no create that is accepted while `logfs_next_file_id` is the id of a file. -/
def freshId (session : LogfsSession) : LogfsWrite → Bool
  | .create name => !logfsCreateAccepts session.state name
      || (logfsFindFileId session.state.tables session.state.tables.nextFileId).isNone
  | .append _ _ => true

end LogfsSession

/-! ### Failed calls -/

/-- Device, log and files of `after` are those of `before`. -/
structure LogfsUnchanged (before after : LogfsState) : Prop where
  blockDevice_eq : after.blockDevice = before.blockDevice
  logEnd_eq : after.logEnd = before.logEnd
  files_eq : after.tables.files = before.tables.files
  segments_eq : after.tables.segments = before.tables.segments

/-- `logfs_append` finds the segment table full when it has already written its record. -/
def logfsWriteOverflows (state : LogfsState) : LogfsWrite → Bool
  | .create _ => false
  | .append name data => logfsAppendOverflows state name data

/-! ### Corruption -/

/-- The device with one byte replaced. -/
def BlockDevice.setByte (device : BlockDevice) (address : Nat) (value : UInt8) : BlockDevice :=
  { device with storage := Function.update device.storage address value }

/-- A call of `logfs_replay_record`: what it returns, and the static variables after it. -/
def logfsReplayRecordCall (state : LogfsState) (offset : Nat) : Int × LogfsState :=
  match state.blockDevice with
  | none => (-1, state)
  | some device =>
      match logfsReplayRecord device state.superblock state.tables offset with
      | .replayed tables logEnd => (0, { state with tables := tables, logEnd := logEnd })
      | .endOfLog => (1, state)
      | .rejected => (-1, state)

end DuckOs

import DuckOs.Proof.LogfsReplay

/-!
# LogFS operations on a mounted state

What `logfs_create` and `logfs_append` do, branch by branch, to a mounted state, and how the log on
disk relates to the tables in memory: either replaying it leads to them, or replay gets stuck on a
record below `logfs_log_end` that no later write touches.
-/

namespace DuckOs

open ByteStore

/-- What the operations rely on in a state over `device`; the entries in use are `files`. -/
structure LogfsState.Running (state : LogfsState) (device : BlockDevice)
    (files : List LogfsFileState) : Prop where
  blockDevice_eq : state.blockDevice = some device
  ready : state.ready = true
  usable : device.Usable
  logLimit_le : state.superblock.logLimit ≤ device.byteCount
  holds : state.tables.Holds files
  nextFileId_lt : state.tables.nextFileId < 2 ^ 32

/-- A running state whose segments tile its files and lie in the written part of the log. -/
structure LogfsState.Filed (state : LogfsState) (device : BlockDevice)
    (files : List LogfsFileState) : Prop extends state.Running device files where
  logOffset_le : state.superblock.logOffset ≤ state.logEnd
  wf : state.tables.Wf files state.superblock.logOffset
    (min state.logEnd state.superblock.logLimit)

/-- A state as `logfs_mount` leaves it and the operations keep it, over `device`. The log starts
behind the superblock, and the entries in use are `files`. -/
structure LogfsState.Mounted (state : LogfsState) (device : BlockDevice)
    (files : List LogfsFileState) : Prop where
  blockDevice_eq : state.blockDevice = some device
  ready : state.ready = true
  usable : device.Usable
  size_le : 20 ≤ device.byteCount
  superblock_eq : state.superblock = superblockAt device.storage
  valid : logfsSuperblockValid device (superblockAt device.storage) = true
  superblock_le : 20 ≤ state.superblock.logOffset
  logOffset_le : state.superblock.logOffset ≤ state.logEnd
  holds : state.tables.Holds files
  nextFileId_lt : state.tables.nextFileId < 2 ^ 32

/-- A record with a payload of `size` bytes can be written: it fits the record buffer and the log. -/
def LogfsState.RecordFits (state : LogfsState) (size : Nat) : Prop :=
  size ≤ 480 ∧ state.logEnd + recordSize size ≤ state.superblock.logLimit

instance (state : LogfsState) (size : Nat) : Decidable (state.RecordFits size) :=
  inferInstanceAs (Decidable (_ ∧ _))

/-- The state after a record of `size` payload bytes was written to the log. -/
def LogfsState.advance (state : LogfsState) (next : BlockDevice) (size : Nat) : LogfsState :=
  { state with blockDevice := some next, logEnd := state.logEnd + recordSize size }

@[simp]
theorem LogfsState.advance_tables (state : LogfsState) (next : BlockDevice) (size : Nat) :
    (state.advance next size).tables = state.tables := rfl

def LogfsState.withTables (state : LogfsState) (tables : LogfsTables) : LogfsState :=
  { state with tables := tables }

@[simp]
theorem LogfsState.withTables_tables (state : LogfsState) (tables : LogfsTables) :
    (state.withTables tables).tables = tables := rfl

/-- `logfs_create` passes every check. -/
structure LogfsState.CreateAccepted (state : LogfsState) (files : List LogfsFileState)
    (name : CString) : Prop where
  nameValid : logfsNameValid name.bytes = true
  fresh : ∀ file ∈ files, file.info.name ≠ name.bytes
  slotFree : files.length < logfsMaxFiles
  recordFits : state.RecordFits (name.bytes.length + 1)

/-- `logfs_append` passes every check it makes before it writes the record. -/
structure LogfsState.AppendWrites (state : LogfsState) (name : CString) (data : List UInt8)
    (slot : Nat) : Prop where
  found : logfsFindFileState state.tables name.bytes = some slot
  nonempty : 0 < data.length
  recordFits : state.RecordFits data.length

section Operations

variable {state : LogfsState} {device next : BlockDevice} {files : List LogfsFileState}

/-- A write at or behind the log end leaves the superblock alone. -/
theorem LogfsState.Mounted.superblockAt_eq (hmounted : state.Mounted device files) {store : Store}
    (hagree : AgreeBelow state.logEnd store device.storage) :
    superblockAt store = superblockAt device.storage := by
  have hle := hmounted.superblock_le.trans hmounted.logOffset_le
  rw [superblockAt, superblockAt, slice_congr]
  intro index hindex
  exact hagree _ (by omega)

theorem LogfsState.Mounted.logLimit_le (hmounted : state.Mounted device files) :
    state.superblock.logLimit ≤ device.byteCount := by
  rw [hmounted.superblock_eq]
  exact logLimit_le_byteCount hmounted.valid

theorem LogfsState.Mounted.running (hmounted : state.Mounted device files) :
    state.Running device files where
  blockDevice_eq := hmounted.blockDevice_eq
  ready := hmounted.ready
  usable := hmounted.usable
  logLimit_le := hmounted.logLimit_le
  holds := hmounted.holds
  nextFileId_lt := hmounted.nextFileId_lt

theorem logfsSuperblockValid_congr {superblock : LogfsSuperblock}
    (hblockSize : next.blockSize = device.blockSize)
    (hblockCount : next.blockCount = device.blockCount) :
    logfsSuperblockValid next superblock = logfsSuperblockValid device superblock := by
  rw [logfsSuperblockValid, logfsSuperblockValid, hblockSize, hblockCount]

theorem LogfsState.Mounted.onDevice (hmounted : state.Mounted device files)
    (hblockSize : next.blockSize = device.blockSize)
    (hblockCount : next.blockCount = device.blockCount)
    (hagree : AgreeBelow state.logEnd next.storage device.storage) :
    (state.onDevice next).Mounted next files where
  blockDevice_eq := rfl
  ready := hmounted.ready
  usable := by
    refine ⟨?_, ?_⟩ <;> rw [hblockSize]
    exacts [hmounted.usable.blockSize_pos, hmounted.usable.blockSize_le]
  size_le := by
    rw [BlockDevice.byteCount, hblockSize, hblockCount]
    exact hmounted.size_le
  superblock_eq := by
    rw [hmounted.superblockAt_eq hagree]
    exact hmounted.superblock_eq
  valid := by
    rw [hmounted.superblockAt_eq hagree, logfsSuperblockValid_congr hblockSize hblockCount]
    exact hmounted.valid
  superblock_le := hmounted.superblock_le
  logOffset_le := hmounted.logOffset_le
  holds := hmounted.holds
  nextFileId_lt := hmounted.nextFileId_lt

theorem LogfsState.Mounted.advance (hmounted : state.Mounted device files) {data : List UInt8}
    (hwritten : WrittenTo device next state.logEnd data) (size : Nat) :
    (state.advance next size).Mounted next files := by
  have hnext := hmounted.onDevice hwritten.blockSize_eq hwritten.blockCount_eq
    (by rw [hwritten.storage_eq]; exact agreeBelow_patch)
  exact { hnext with logOffset_le := hnext.logOffset_le.trans (Nat.le_add_right _ _) }

theorem LogfsState.Mounted.withTables (hmounted : state.Mounted device files)
    {tables : LogfsTables} {files' : List LogfsFileState} (hholds : tables.Holds files')
    (hnext : tables.nextFileId < 2 ^ 32) :
    (state.withTables tables).Mounted device files' :=
  { hmounted with holds := hholds, nextFileId_lt := hnext }

theorem LogfsState.Running.advance (hrunning : state.Running device files) {data : List UInt8}
    (hwritten : WrittenTo device next state.logEnd data) (size : Nat) :
    (state.advance next size).Running next files where
  blockDevice_eq := rfl
  ready := hrunning.ready
  usable := by
    refine ⟨?_, ?_⟩ <;> rw [hwritten.blockSize_eq]
    exacts [hrunning.usable.blockSize_pos, hrunning.usable.blockSize_le]
  logLimit_le := by
    rw [BlockDevice.byteCount, hwritten.blockSize_eq, hwritten.blockCount_eq]
    exact hrunning.logLimit_le
  holds := hrunning.holds
  nextFileId_lt := hrunning.nextFileId_lt

theorem LogfsState.Running.withTables (hrunning : state.Running device files)
    {tables : LogfsTables} {files' : List LogfsFileState} (hholds : tables.Holds files')
    (hnext : tables.nextFileId < 2 ^ 32) :
    (state.withTables tables).Running device files' :=
  { hrunning with holds := hholds, nextFileId_lt := hnext }

/-- `logfs_append_record` writes the record if it fits and otherwise changes nothing. -/
theorem logfsAppendRecord_spec (state : LogfsState) (hdevice : state.blockDevice = some device)
    (husable : device.Usable)
    (hlimit : state.superblock.logLimit ≤ device.byteCount)
    (type fileId before after nameLength : Nat) (payload : List UInt8) :
    (state.RecordFits payload.length ∧ ∃ next,
        logfsAppendRecord state type fileId before after nameLength payload
          = (0, state.advance next payload.length)
        ∧ WrittenTo device next state.logEnd
          (logfsRecordBytes type fileId before after nameLength payload))
      ∨ (¬ state.RecordFits payload.length
        ∧ logfsAppendRecord state type fileId before after nameLength payload = (-1, state)) := by
  have hwhole : logfsAlignUp (LogfsRecordHeader.size + payload.length)
      = recordSize payload.length := rfl
  have hbuffer : logfsIoBufferSize - LogfsRecordHeader.size = 480 := rfl
  by_cases hfits : state.RecordFits payload.length
  · left
    obtain ⟨hsize, hroom⟩ := hfits
    have hlength := length_logfsRecordBytes type fileId before after nameLength hsize
    obtain ⟨next, hwrite, hwritten⟩ := logfsWriteBytes_spec state.logEnd
      (logfsRecordBytes type fileId before after nameLength payload) husable (by omega)
    refine ⟨⟨hsize, hroom⟩, next, ?_, hwritten⟩
    simp only [logfsAppendRecord, hwhole, hbuffer, hdevice, hwrite]
    rw [if_neg (by omega), if_neg (by omega), if_neg (by simp)]
    rfl
  · refine Or.inr ⟨hfits, ?_⟩
    rw [LogfsState.RecordFits, not_and_or, Nat.not_le, Nat.not_le] at hfits
    simp only [logfsAppendRecord, hwhole, hbuffer]
    by_cases hsize : 480 < payload.length
    · rw [if_pos hsize]
    · rw [if_neg hsize, if_pos (by omega)]

/-- `logfs_create`: an accepted call writes the record and adds the file; a refused one may still
have used up a file id. -/
theorem logfsCreate_spec (hrunning : state.Running device files) (name : CString) :
    (state.CreateAccepted files name ∧ ∃ next,
        logfsCreate state name
          = (0, (state.advance next (name.bytes.length + 1)).withTables
              (state.tables.addFile files.length name.bytes state.tables.nextFileId
                ((state.tables.nextFileId + 1) % 2 ^ 32)))
        ∧ WrittenTo device next state.logEnd
          (logfsRecordBytes logfsRecordTypeCreate state.tables.nextFileId 0 0 name.bytes.length
            (name.bytes ++ [0])))
      ∨ (¬ state.CreateAccepted files name ∧ ∃ nextFileId,
        (nextFileId = state.tables.nextFileId
          ∨ nextFileId = (state.tables.nextFileId + 1) % 2 ^ 32)
        ∧ logfsCreate state name
          = (-1, state.withTables { state.tables with nextFileId := nextFileId })) := by
  have hname := hrunning.holds.findFileState_isSome_iff name.bytes
  by_cases hvalid : logfsNameValid name.bytes = true
  swap
  · refine Or.inr ⟨fun haccept => hvalid haccept.nameValid, _, Or.inl rfl, ?_⟩
    simp [logfsCreate, hvalid, LogfsState.withTables]
  by_cases htaken : (logfsFindFileState state.tables name.bytes).isSome = true
  · refine Or.inr ⟨?_, _, Or.inl rfl, ?_⟩
    · intro haccept
      obtain ⟨file, hfile, heq⟩ := hname.mp htaken
      exact haccept.fresh file hfile heq
    · simp [logfsCreate, htaken, LogfsState.withTables]
  have hfresh : ∀ file ∈ files, file.info.name ≠ name.bytes := by
    intro file hfile heq
    exact htaken (hname.mpr ⟨file, hfile, heq⟩)
  have hchecks : (!state.ready || !logfsNameValid name.bytes
      || (logfsFindFileState state.tables name.bytes).isSome) = false := by
    simp [hrunning.ready, hvalid, Bool.eq_false_iff.mpr htaken]
  by_cases hfree : files.length < logfsMaxFiles
  swap
  · refine Or.inr ⟨fun haccept => hfree haccept.slotFree, _, Or.inl rfl, ?_⟩
    simp only [logfsCreate, hchecks, hrunning.holds.allocFileState_eq, if_neg hfree]
    rfl
  simp only [logfsCreate, hchecks, hrunning.holds.allocFileState_eq, if_pos hfree, Bool.false_eq_true,
    ↓reduceIte]
  rcases logfsAppendRecord_spec (state.withTables
      (state.tables.addFile files.length name.bytes state.tables.nextFileId
        ((state.tables.nextFileId + 1) % 2 ^ 32)))
    hrunning.blockDevice_eq hrunning.usable hrunning.logLimit_le logfsRecordTypeCreate
    state.tables.nextFileId 0 0 name.bytes.length (name.bytes ++ [0])
    with ⟨hfits, next, hrecord, hwritten⟩ | ⟨hfull, hrecord⟩
  · rw [List.length_append, List.length_singleton] at hfits hrecord
    refine Or.inl ⟨⟨hvalid, hfresh, hfree, hfits⟩, next, ?_, hwritten⟩
    rw [LogfsState.withTables, LogfsTables.addFile] at hrecord
    rw [hrecord]
    rfl
  · rw [List.length_append, List.length_singleton] at hfull
    refine Or.inr ⟨fun haccept => hfull haccept.recordFits, _, Or.inr rfl, ?_⟩
    rw [LogfsState.withTables, LogfsTables.addFile] at hrecord
    rw [hrecord, if_pos (by simp)]
    have hclear := (hrunning.holds.clearSlot hfree name.bytes state.tables.nextFileId
      ((state.tables.nextFileId + 1) % 2 ^ 32)).files_eq
    rw [← hrunning.holds.files_eq] at hclear
    simp only [LogfsTables.addFile] at hclear
    simp only [hclear, LogfsState.withTables]

/-- `logfs_append`: an accepted call writes the record and extends the file. When the segment table
is full the record has already been written and the log end moved; otherwise a refused call changes
nothing. -/
theorem logfsAppend_spec (hrunning : state.Running device files) (name : CString)
    (data : List UInt8) :
    (∃ slot, ∃ hslot : slot < files.length, state.AppendWrites name data slot
        ∧ files[slot].info.name = name.bytes ∧ ∃ next,
        WrittenTo device next state.logEnd
          (logfsRecordBytes logfsRecordTypeAppend files[slot].fileId files[slot].info.size
            ((files[slot].info.size + data.length) % 2 ^ 32) 0 data)
        ∧ logfsAppend state name data
          = if state.tables.segments.length < logfsMaxSegments then
              (0, (state.advance next data.length).withTables
                (state.tables.extendFile slot data.length (state.logEnd + 32)))
            else (-1, state.advance next data.length))
      ∨ ((∀ slot, ¬ state.AppendWrites name data slot)
        ∧ logfsAppend state name data = (-1, state)) := by
  cases hfind : logfsFindFileState state.tables name.bytes with
  | none =>
      refine Or.inr ⟨fun slot hwrites => ?_, ?_⟩
      · rw [hwrites.found] at hfind
        cases hfind
      · simp [logfsAppend, hfind]
  | some slot =>
      obtain ⟨hslot, hname⟩ := hrunning.holds.of_findFileState hfind
      by_cases hempty : data.length = 0
      · refine Or.inr ⟨fun other hwrites => ?_, ?_⟩
        · have hpos := hwrites.nonempty
          omega
        · simp [logfsAppend, hempty]
      have hchecks : (!state.ready || data.length == 0) = false := by
        simp only [hrunning.ready, Bool.not_true, Bool.false_or, beq_eq_false_iff_ne]
        exact hempty
      simp only [logfsAppend, hchecks, hfind, hrunning.holds.fileAt_eq hslot, Bool.false_eq_true,
        ↓reduceIte]
      rcases logfsAppendRecord_spec state hrunning.blockDevice_eq hrunning.usable hrunning.logLimit_le
        logfsRecordTypeAppend files[slot].fileId files[slot].info.size
        ((files[slot].info.size + data.length) % 2 ^ 32) 0 data
        with ⟨hfits, next, hrecord, hwritten⟩ | ⟨hfull, hrecord⟩
      · refine Or.inl ⟨slot, hslot, ⟨hfind, by omega, hfits⟩, hname, next, hwritten, ?_⟩
        simp only [hrecord, ne_eq, not_true_eq_false, ↓reduceIte, LogfsState.advance_tables]
        by_cases hroom : state.tables.segments.length < logfsMaxSegments
        · rw [if_pos hroom, logfsAddSegment, if_neg (by omega)]
          simp only [LogfsTables.extendFile, hrunning.holds.fileAt_eq hslot, LogfsFileState.extend]
          rfl
        · rw [if_neg hroom, logfsAddSegment, if_pos (by omega)]
      · refine Or.inr ⟨fun other hwrites => hfull hwrites.recordFits, ?_⟩
        rw [hrecord]
        simp

end Operations

/-! ### Files in a running state -/

section Files

variable {state : LogfsState} {device next : BlockDevice} {files : List LogfsFileState}

theorem LogfsState.Filed.create (hfiled : state.Filed device files) {name : CString}
    (haccept : state.CreateAccepted files name)
    (hid : ∀ file ∈ files, file.fileId ≠ state.tables.nextFileId) {data : List UInt8}
    (hwritten : WrittenTo device next state.logEnd data) :
    ((state.advance next (name.bytes.length + 1)).withTables
      (state.tables.addFile files.length name.bytes state.tables.nextFileId
        ((state.tables.nextFileId + 1) % 2 ^ 32))).Filed
      next (files ++ [⟨⟨name.bytes, 0⟩, state.tables.nextFileId, 0, true⟩]) := by
  have hwf := hfiled.wf.addFile haccept.slotFree haccept.nameValid name.nulFree haccept.fresh hid
    hfiled.nextFileId_lt ((state.tables.nextFileId + 1) % 2 ^ 32)
  exact {
    toRunning := (hfiled.toRunning.advance hwritten _).withTables hwf.toHolds
      (Nat.mod_lt _ (by decide))
    logOffset_le := hfiled.logOffset_le.trans (Nat.le_add_right _ _)
    wf := hwf.mono (by simp only [LogfsState.advance, LogfsState.withTables]; omega) rfl rfl }

theorem LogfsState.Filed.append (hfiled : state.Filed device files) {name : CString}
    {data : List UInt8} {slot : Nat} (hslot : slot < files.length)
    (hwrites : state.AppendWrites name data slot)
    (hroom : state.tables.segments.length < logfsMaxSegments) {record : List UInt8}
    (hwritten : WrittenTo device next state.logEnd record) :
    ((state.advance next data.length).withTables
      (state.tables.extendFile slot data.length (state.logEnd + 32))).Filed
      next (files.set slot (files[slot].extend data.length)) := by
  have hfits := hwrites.recordFits
  have hbounds := recordSize_bounds hfits.1
  have hlimit := hfits.2
  have hstart := hfiled.logOffset_le
  have hwf := hfiled.wf.extendFile hslot hwrites.nonempty hfits.1 hroom
    (show state.superblock.logOffset ≤ state.logEnd + 32 by omega)
    (show state.logEnd + 32 + data.length
      ≤ min (state.logEnd + recordSize data.length) state.superblock.logLimit by omega)
    (show min state.logEnd state.superblock.logLimit ≤ _ by omega)
  exact {
    toRunning := (hfiled.toRunning.advance hwritten _).withTables hwf.toHolds hfiled.nextFileId_lt
    logOffset_le := hstart.trans (Nat.le_add_right _ _)
    wf := hwf }

theorem LogfsState.Filed.written (hfiled : state.Filed device files) {record : List UInt8}
    (hwritten : WrittenTo device next state.logEnd record) (size : Nat) :
    (state.advance next size).Filed next files where
  toRunning := hfiled.toRunning.advance hwritten size
  logOffset_le := hfiled.logOffset_le.trans (Nat.le_add_right _ _)
  wf := hfiled.wf.mono (by simp only [LogfsState.advance]; omega) rfl rfl

/-- A refused create may have used up a file id. -/
theorem LogfsState.Filed.refused (hfiled : state.Filed device files) {nextFileId : Nat}
    (hlt : nextFileId < 2 ^ 32) :
    (state.withTables { state.tables with nextFileId := nextFileId }).Filed device files :=
  { hfiled with
    toRunning := hfiled.toRunning.withTables
      ⟨hfiled.holds.files_eq, hfiled.holds.length_le, hfiled.holds.inUse⟩ hlt
    wf := hfiled.wf.mono le_rfl rfl rfl }

end Files

/-! ### The log and the tables -/

/-- Replaying the whole log builds `replayed`, which agrees with the tables in memory except for
`logfs_next_file_id`: a refused create moves that as well. -/
structure LogfsState.Synced (state : LogfsState) (device : BlockDevice)
    (files : List LogfsFileState) (replayed : LogfsTables) : Prop
    extends state.Mounted device files where
  wf : state.tables.Wf files state.superblock.logOffset
    (min state.logEnd state.superblock.logLimit)
  replay : ReplayTo device.storage state.superblock.logLimit .empty state.superblock.logOffset
    replayed state.logEnd
  files_eq : replayed.files = state.tables.files
  segments_eq : replayed.segments = state.tables.segments

/-- Replay ends at `stopEnd` with `replayed`, whatever is written from the log end on. -/
def LogfsState.Stuck (state : LogfsState) (device : BlockDevice) (replayed : LogfsTables)
    (stopEnd : Nat) : Prop :=
  ∀ store, AgreeBelow state.logEnd store device.storage →
    ReplayTo store state.superblock.logLimit .empty state.superblock.logOffset replayed stopEnd
      ∧ ReplayStops store state.superblock.logLimit replayed stopEnd

section Log

variable {state : LogfsState} {device next : BlockDevice} {files : List LogfsFileState}
  {replayed : LogfsTables}

theorem LogfsState.Synced.filed (hsynced : state.Synced device files replayed) :
    state.Filed device files where
  toRunning := hsynced.toMounted.running
  logOffset_le := hsynced.logOffset_le
  wf := hsynced.wf

theorem LogfsState.Synced.wf_replayed (hsynced : state.Synced device files replayed) :
    replayed.Wf files state.superblock.logOffset (min state.logEnd state.superblock.logLimit) :=
  hsynced.wf.mono le_rfl hsynced.files_eq hsynced.segments_eq

/-- A record written at the log end is replayed after all the others. -/
theorem LogfsState.Synced.replay_written (hsynced : state.Synced device files replayed)
    {type fileId before after nameLength : Nat} {payload : List UInt8} {last : LogfsTables}
    (hwritten : WrittenTo device next state.logEnd
      (logfsRecordBytes type fileId before after nameLength payload))
    (hfits : state.RecordFits payload.length)
    (hheader : (writtenHeader type fileId before after nameLength payload).Fits)
    (happly : applyRecord replayed (writtenHeader type fileId before after nameLength payload)
      payload (state.logEnd + 32) = some last) :
    ReplayTo next.storage state.superblock.logLimit .empty state.superblock.logOffset last
      (state.logEnd + recordSize payload.length) := by
  rw [hwritten.storage_eq]
  refine (hsynced.replay.agree agreeBelow_patch).snoc ?_
  rw [replayAt_written hfits.1 hfits.2 hheader, happly]
  rw [← length_logfsRecordBytes type fileId before after nameLength hfits.1]
  exact slice_patch_self

/-- A record written at the log end that replay rejects stops replay for good. -/
theorem LogfsState.Synced.stuck_written (hsynced : state.Synced device files replayed)
    {type fileId before after nameLength : Nat} {payload : List UInt8}
    (hwritten : WrittenTo device next state.logEnd
      (logfsRecordBytes type fileId before after nameLength payload))
    (hfits : state.RecordFits payload.length)
    (hheader : (writtenHeader type fileId before after nameLength payload).Fits)
    (happly : applyRecord replayed (writtenHeader type fileId before after nameLength payload)
      payload (state.logEnd + 32) = none) :
    (state.advance next payload.length).Stuck next replayed state.logEnd := by
  intro store hagree
  have hlength := length_logfsRecordBytes type fileId before after nameLength hfits.1
  have hbelow : AgreeBelow state.logEnd store device.storage := by
    intro address haddress
    rw [hagree address (by simp only [LogfsState.advance]; omega), hwritten.storage_eq,
      patch_of_lt haddress]
  have hstored : slice store state.logEnd (recordSize payload.length)
      = logfsRecordBytes type fileId before after nameLength payload := by
    rw [slice_congr fun index hindex => hagree _ (by simp only [LogfsState.advance]; omega),
      hwritten.storage_eq, ← hlength]
    exact slice_patch_self
  refine ⟨hsynced.replay.agree hbelow, ?_⟩
  intro last logEnd hreplay
  change replayAt store state.superblock.logLimit replayed state.logEnd = _ at hreplay
  rw [replayAt_written hfits.1 hfits.2 hheader hstored, happly] at hreplay
  cases hreplay

theorem writtenHeader_create_fits {name : List UInt8} (hvalid : logfsNameValid name = true)
    {fileId : Nat} (hid : fileId < 2 ^ 32) :
    (writtenHeader logfsRecordTypeCreate fileId 0 0 name.length (name ++ [0])).Fits := by
  have hlength := length_of_logfsNameValid hvalid
  exact writtenHeader_fits (by decide) hid (by decide) (by decide) (by omega) (by simp; omega)

theorem writtenHeader_append_fits {tables : LogfsTables} {start stop slot : Nat}
    (hwf : tables.Wf files start stop) (hslot : slot < files.length) {data : List UInt8}
    (hsize : data.length ≤ 480) :
    (writtenHeader logfsRecordTypeAppend files[slot].fileId files[slot].info.size
      ((files[slot].info.size + data.length) % 2 ^ 32) 0 data).Fits := by
  have hmem : files[slot] ∈ files := List.getElem_mem hslot
  have hle := hwf.size_le hmem
  exact writtenHeader_fits (by decide) (hwf.ids_lt _ hmem) (by omega)
    (Nat.mod_lt _ (by decide)) (by decide) hsize

theorem LogfsState.Synced.create (hsynced : state.Synced device files replayed) {name : CString}
    (haccept : state.CreateAccepted files name)
    (hid : ∀ file ∈ files, file.fileId ≠ state.tables.nextFileId)
    (hwritten : WrittenTo device next state.logEnd
      (logfsRecordBytes logfsRecordTypeCreate state.tables.nextFileId 0 0 name.bytes.length
        (name.bytes ++ [0]))) :
    ((state.advance next (name.bytes.length + 1)).withTables
      (state.tables.addFile files.length name.bytes state.tables.nextFileId
        ((state.tables.nextFileId + 1) % 2 ^ 32))).Synced
      next (files ++ [⟨⟨name.bytes, 0⟩, state.tables.nextFileId, 0, true⟩])
      (replayed.addFile files.length name.bytes state.tables.nextFileId
        (if replayed.nextFileId ≤ state.tables.nextFileId
          then (state.tables.nextFileId + 1) % 2 ^ 32 else replayed.nextFileId)) := by
  have hlength : (name.bytes ++ [0]).length = name.bytes.length + 1 := by simp
  have hfiled := hsynced.filed.create haccept hid hwritten
  have happly := applyRecord_create hsynced.wf_replayed haccept.slotFree haccept.nameValid
    name.nulFree haccept.fresh hid (state.logEnd + 32)
  have hreplay := hsynced.replay_written hwritten (by rw [hlength]; exact haccept.recordFits)
    (writtenHeader_create_fits haccept.nameValid hsynced.nextFileId_lt) happly
  rw [hlength] at hreplay
  exact {
    toMounted := (hsynced.toMounted.advance hwritten _).withTables hfiled.holds
      hfiled.nextFileId_lt
    wf := hfiled.wf
    replay := hreplay
    files_eq := by
      simp only [LogfsState.withTables_tables, LogfsTables.addFile, hsynced.files_eq]
    segments_eq := hsynced.segments_eq }

/-- An accepted create with an id in use leaves a record that replay rejects. -/
theorem LogfsState.Synced.create_stuck (hsynced : state.Synced device files replayed)
    {name : CString} (haccept : state.CreateAccepted files name) {file : LogfsFileState}
    (hfile : file ∈ files) (hid : file.fileId = state.tables.nextFileId)
    (hwritten : WrittenTo device next state.logEnd
      (logfsRecordBytes logfsRecordTypeCreate state.tables.nextFileId 0 0 name.bytes.length
        (name.bytes ++ [0]))) :
    (state.advance next (name.bytes.length + 1)).Stuck next replayed state.logEnd := by
  have hlength : (name.bytes ++ [0]).length = name.bytes.length + 1 := by simp
  rw [← hlength]
  refine hsynced.stuck_written hwritten (by rw [hlength]; exact haccept.recordFits)
    (writtenHeader_create_fits haccept.nameValid hsynced.nextFileId_lt) ?_
  rw [applyRecord, writtenHeader_type, if_pos rfl, Option.eq_none_iff_forall_ne_some]
  intro last hlast
  obtain ⟨-, -, -, -, -, -, hids, -⟩ :=
    (logfsReplayCreate_eq_some_iff hsynced.wf_replayed.toHolds).mp hlast
  exact hids file hfile hid

theorem LogfsState.Synced.append (hsynced : state.Synced device files replayed) {name : CString}
    {data : List UInt8} {slot : Nat} (hslot : slot < files.length)
    (hwrites : state.AppendWrites name data slot)
    (hroom : state.tables.segments.length < logfsMaxSegments)
    (hwritten : WrittenTo device next state.logEnd
      (logfsRecordBytes logfsRecordTypeAppend files[slot].fileId files[slot].info.size
        ((files[slot].info.size + data.length) % 2 ^ 32) 0 data)) :
    ((state.advance next data.length).withTables
      (state.tables.extendFile slot data.length (state.logEnd + 32))).Synced
      next (files.set slot (files[slot].extend data.length))
      (replayed.extendFile slot data.length (state.logEnd + 32)) := by
  have hfits := hwrites.recordFits
  have hfiled := hsynced.filed.append hslot hwrites hroom hwritten
  have happly := applyRecord_append hsynced.wf_replayed hslot hwrites.nonempty (state.logEnd + 32)
  rw [hsynced.segments_eq, if_pos hroom] at happly
  have hreplay := hsynced.replay_written hwritten hfits
    (writtenHeader_append_fits hsynced.wf hslot hfits.1) happly
  exact {
    toMounted := (hsynced.toMounted.advance hwritten _).withTables hfiled.holds
      hsynced.nextFileId_lt
    wf := hfiled.wf
    replay := hreplay
    files_eq := by
      simp only [LogfsState.withTables_tables, LogfsTables.extendFile, LogfsTables.fileAt,
        hsynced.files_eq]
    segments_eq := by
      simp only [LogfsState.withTables_tables, LogfsTables.extendFile, LogfsTables.fileAt,
        hsynced.files_eq, hsynced.segments_eq] }

/-- An append that finds the segment table full leaves a record that replay rejects. -/
theorem LogfsState.Synced.append_stuck (hsynced : state.Synced device files replayed)
    {name : CString} {data : List UInt8} {slot : Nat} (hslot : slot < files.length)
    (hwrites : state.AppendWrites name data slot)
    (hfull : ¬ state.tables.segments.length < logfsMaxSegments)
    (hwritten : WrittenTo device next state.logEnd
      (logfsRecordBytes logfsRecordTypeAppend files[slot].fileId files[slot].info.size
        ((files[slot].info.size + data.length) % 2 ^ 32) 0 data)) :
    (state.advance next data.length).Stuck next replayed state.logEnd := by
  have happly := applyRecord_append hsynced.wf_replayed hslot hwrites.nonempty (state.logEnd + 32)
  rw [hsynced.segments_eq, if_neg hfull] at happly
  exact hsynced.stuck_written hwritten hwrites.recordFits
    (writtenHeader_append_fits hsynced.wf hslot hwrites.recordFits.1) happly

/-! ### Remounting -/

theorem LogfsState.Mounted.remount (hmounted : state.Mounted device files) {stopEnd : Nat}
    (hreplay : ReplayTo device.storage state.superblock.logLimit .empty
      state.superblock.logOffset replayed stopEnd)
    (hstops : ReplayStops device.storage state.superblock.logLimit replayed stopEnd) :
    logfsMount device = (0, { state with tables := replayed, logEnd := stopEnd }) := by
  obtain ⟨tables, logEnd, hmount, hreplay', hstops'⟩ :=
    logfsMount_of_valid hmounted.usable hmounted.size_le hmounted.valid
  rw [← hmounted.superblock_eq] at hmount hreplay' hstops'
  obtain ⟨rfl, rfl⟩ := hreplay.unique hstops hreplay' hstops'
  rw [hmount]
  congr 1
  rw [← hmounted.blockDevice_eq, ← hmounted.ready]

theorem LogfsState.Synced.remount (hsynced : state.Synced device files replayed)
    (hstops : ReplayStops device.storage state.superblock.logLimit replayed state.logEnd) :
    logfsMount device = (0, state.withTables replayed) :=
  hsynced.toMounted.remount hsynced.replay hstops

theorem replayStops_of_zeros {store : Store} {limit logEnd : Nat} {tables : LogfsTables}
    (hzeros : ∀ address, logEnd ≤ address → address < limit → store address = 0) :
    ReplayStops store limit tables logEnd := by
  intro last lastEnd hreplay
  have hlt := lt_of_replayAt hreplay
  obtain ⟨hmagic, -⟩ := replayAt_eq_replayed_iff.mp hreplay
  have hzero : (headerAt store logEnd).magic = 0 := by
    simp only [headerAt, LogfsRecordHeader.ofBytes]
    rw [field_slice (by omega)]
    apply ofLe_eq_zero_of_forall
    intro byte hbyte
    obtain ⟨index, hindex, rfl⟩ := List.mem_map.mp hbyte
    rw [List.mem_range] at hindex
    exact hzeros _ (by omega) (by omega)
  rw [hzero] at hmagic
  exact absurd hmagic (by decide)

/-- A successful mount leaves tables that satisfy the invariant, behind a log that has been replayed
until it stops. -/
theorem filed_of_logfsMount (hmount : (logfsMount device).1 = 0) :
    ∃ files, (logfsMount device).2.Filed device files
      ∧ ReplayTo device.storage (logfsMount device).2.superblock.logLimit .empty
        (logfsMount device).2.superblock.logOffset (logfsMount device).2.tables
        (logfsMount device).2.logEnd
      ∧ ReplayStops device.storage (logfsMount device).2.superblock.logLimit
        (logfsMount device).2.tables (logfsMount device).2.logEnd := by
  obtain ⟨husable, hsize, hvalid⟩ := valid_of_logfsMount hmount
  obtain ⟨tables, logEnd, heq, hreplay, hstops⟩ := logfsMount_of_valid husable hsize hvalid
  have hinside : ∃ files, tables.Wf files (superblockAt device.storage).logOffset
      (min logEnd (superblockAt device.storage).logLimit) ∧ tables.nextFileId < 2 ^ 32 := by
    rcases hreplay.eq_or_le with rfl | hle
    · exact ⟨[], LogfsTables.Wf.empty _ _, by decide⟩
    · rw [Nat.min_eq_left hle]
      exact hreplay.wf (LogfsTables.Wf.empty _ _) (by decide) le_rfl
  obtain ⟨files, hwf, hnext⟩ := hinside
  rw [heq]
  refine ⟨files, ?_, hreplay, hstops⟩
  exact {
    blockDevice_eq := rfl
    ready := rfl
    usable := husable
    logLimit_le := logLimit_le_byteCount hvalid
    holds := hwf.toHolds
    nextFileId_lt := hnext
    logOffset_le := hreplay.le
    wf := hwf }

/-- A successful mount of a device whose log lies behind the superblock leaves the log and the
tables in step, with nothing to replay at the log end. -/
theorem synced_of_logfsMount (hoffset : 20 ≤ (superblockAt device.storage).logOffset)
    (hmount : (logfsMount device).1 = 0) :
    ∃ files, (logfsMount device).2.Synced device files (logfsMount device).2.tables
      ∧ ReplayStops device.storage (logfsMount device).2.superblock.logLimit
        (logfsMount device).2.tables (logfsMount device).2.logEnd := by
  obtain ⟨husable, hsize, hvalid⟩ := valid_of_logfsMount hmount
  obtain ⟨tables, logEnd, heq, -⟩ := logfsMount_of_valid husable hsize hvalid
  obtain ⟨files, hfiled, hreplay, hstops⟩ := filed_of_logfsMount hmount
  rw [heq] at hfiled hreplay hstops ⊢
  refine ⟨files, ?_, hstops⟩
  exact {
    blockDevice_eq := rfl
    ready := rfl
    usable := husable
    size_le := hsize
    superblock_eq := rfl
    valid := hvalid
    superblock_le := hoffset
    logOffset_le := hreplay.le
    holds := hfiled.holds
    nextFileId_lt := hfiled.nextFileId_lt
    wf := hfiled.wf
    replay := hreplay
    files_eq := rfl
    segments_eq := rfl }

end Log

end DuckOs

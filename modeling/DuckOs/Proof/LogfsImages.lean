import DuckOs.Proof.LogfsDurability

/-!
# LogFS over arbitrary images

Whatever a device holds when `logfs_mount` accepts it: the mount stays inside the device and leaves
sound tables, the files stay apart until a create takes an id that is in use, and a failed call
changes nothing unless it is an append that finds the segment table full too late.
-/

namespace DuckOs

open ByteStore

/-! ### The blocks a mount reads -/

section Indices

variable {device : BlockDevice} {superblock : LogfsSuperblock} {offset size : Nat}

theorem BlockDevice.readIndices_lt (hrange : offset + size ≤ device.byteCount) :
    ∀ (fuel copied : Nat), ∀ index ∈ device.readIndices offset size fuel copied,
      index < device.blockCount := by
  intro fuel
  induction fuel with
  | zero => intro copied index hindex; cases hindex
  | succ fuel ih =>
      intro copied index hindex
      rw [BlockDevice.readIndices] at hindex
      split_ifs at hindex with hmore
      · rcases List.mem_cons.mp hindex with rfl | hrest
        · exact BlockDevice.blockIndex_lt (by omega)
        · split at hrest
          · cases hrest
          · exact ih _ index hrest
      · cases hindex

theorem logfsReadIndices_lt (hrange : offset + size ≤ device.byteCount) :
    ∀ index ∈ logfsReadIndices device offset size, index < device.blockCount := by
  intro index hindex
  rw [logfsReadIndices] at hindex
  split_ifs at hindex
  · cases hindex
  · exact BlockDevice.readIndices_lt hrange size 0 index hindex

/-- A payload is read only when the record it belongs to lies inside the log. -/
theorem logfsReplayRecordIndices_lt (hlimit : superblock.logLimit ≤ device.byteCount)
    (hheader : offset + 32 ≤ superblock.logLimit) :
    ∀ index ∈ logfsReplayRecordIndices device superblock offset, index < device.blockCount := by
  intro index hindex
  rcases List.mem_append.mp hindex with hindex | hindex
  · exact logfsReadIndices_lt (hheader.trans hlimit) index hindex
  split at hindex
  · cases hindex
  dsimp only at hindex
  split_ifs at hindex with hmagic hsize
  · cases hindex
  · cases hindex
  simp only [LogfsRecordHeader.size, show logfsIoBufferSize - 32 = 480 from rfl,
    recordSize_reject_iff, not_or, Nat.not_lt] at hsize
  have hbounds := recordSize_bounds hsize.1
  refine logfsReadIndices_lt ?_ index hindex
  simp only [LogfsRecordHeader.size]
  omega

theorem logfsReplayLoopIndices_lt (hlimit : superblock.logLimit ≤ device.byteCount) :
    ∀ (fuel offset : Nat) (tables : LogfsTables),
      ∀ index ∈ logfsReplayLoopIndices device superblock fuel offset tables,
        index < device.blockCount := by
  intro fuel
  induction fuel with
  | zero => intro offset tables index hindex; cases hindex
  | succ fuel ih =>
      intro offset tables index hindex
      rw [logfsReplayLoopIndices] at hindex
      split_ifs at hindex with hroom
      · rcases List.mem_append.mp hindex with hrecord | hrest
        · exact logfsReplayRecordIndices_lt hlimit hroom index hrecord
        · split at hrest
          · exact ih _ _ index hrest
          · cases hrest
          · cases hrest
      · cases hindex

theorem logfsMountIndices_lt (hsize : 20 ≤ device.byteCount) :
    ∀ index ∈ logfsMountIndices device, index < device.blockCount := by
  intro index hindex
  rcases List.mem_append.mp hindex with hindex | hindex
  · exact logfsReadIndices_lt (by simpa [LogfsSuperblock.size] using hsize) index hindex
  split at hindex
  · cases hindex
  dsimp only at hindex
  split_ifs at hindex with hvalid
  · exact logfsReplayLoopIndices_lt (logLimit_le_byteCount hvalid) _ _ _ index hindex
  · cases hindex

end Indices

/-! ### Mounting an arbitrary image -/

theorem LogfsTables.Holds.filter_inUse {tables : LogfsTables} {files : List LogfsFileState}
    (hholds : tables.Holds files) : tables.files.filter (·.inUse) = files := by
  have hused : files.filter (·.inUse) = files := List.filter_eq_self.mpr hholds.inUse
  rw [hholds.files_eq, List.filter_append, hused, List.filter_replicate]
  simp [LogfsFileState.zero]

/-- The tables of a mounted state: files told apart by name and id, each tiled by its segments, whose
data lies inside the log. -/
structure LogfsState.Sound (state : LogfsState) : Prop where
  files_le : (state.tables.files.filter (·.inUse)).length ≤ 16
  names_valid : ∀ file ∈ state.tables.files, file.inUse = true →
    logfsNameValid file.info.name = true
  names_distinct : ((state.tables.files.filter (·.inUse)).map (·.info.name)).Nodup
  ids_distinct : LogfsIdsDistinct state.tables
  segments_le : state.tables.segments.length ≤ 64
  tiles : ∀ file ∈ state.tables.files, file.inUse = true →
    Tiles (state.tables.segmentsOf file.fileId) 0 file.info.size
  ranges : ∀ segment ∈ state.tables.segments, state.superblock.logOffset ≤ segment.dataOffset
    ∧ segment.dataOffset + segment.dataSize
      ≤ state.superblock.blockCount * state.superblock.blockSize

theorem LogfsState.Filed.sound {state : LogfsState} {device : BlockDevice}
    {files : List LogfsFileState} (hfiled : state.Filed device files) : state.Sound := by
  have hfilter := hfiled.holds.filter_inUse
  have hmem : ∀ file ∈ state.tables.files, file.inUse = true → file ∈ files := by
    intro file hfile hused
    rw [← hfilter]
    exact List.mem_filter.mpr ⟨hfile, hused⟩
  exact {
    files_le := by rw [hfilter]; exact hfiled.holds.length_le
    names_valid := fun file hfile hused => (hfiled.wf.names_valid file (hmem file hfile hused)).1
    names_distinct := by rw [hfilter]; exact hfiled.wf.names_nodup
    ids_distinct := by rw [LogfsIdsDistinct, hfilter]; exact hfiled.wf.ids_nodup
    segments_le := hfiled.wf.segments_le
    tiles := fun file hfile hused => hfiled.wf.tiles file (hmem file hfile hused)
    ranges := by
      intro segment hsegment
      obtain ⟨hstart, hstop⟩ := hfiled.wf.ranges segment hsegment
      exact ⟨hstart, hstop.trans (Nat.min_le_right _ _)⟩ }

/-- Whatever the device holds, a mount that succeeds has read only blocks of the device, has stopped
where there is no further record, and leaves sound tables, from which every part read of a file
returns what is left of it behind the offset. -/
theorem logfs_mount_sound (device : BlockDevice) (hmount : (logfsMount device).1 = 0) :
    (∀ index ∈ logfsMountIndices device, index < device.blockCount)
      ∧ ((logfsMount device).2.superblock.logLimit < (logfsMount device).2.logEnd + 32
        ∨ ∀ tables logEnd, logfsReplayRecord device (logfsMount device).2.superblock
          (logfsMount device).2.tables (logfsMount device).2.logEnd ≠ .replayed tables logEnd)
      ∧ (logfsMount device).2.Sound
      ∧ ∀ file ∈ (logfsMount device).2.tables.files, file.inUse = true →
        ∀ name : CString, name.bytes = file.info.name →
          ∀ offset size, offset ≤ file.info.size →
            (logfsReadFilePart (logfsMount device).2 name offset size).1
              = ((min size (file.info.size - offset) : Nat) : Int) := by
  obtain ⟨-, hsize, -⟩ := valid_of_logfsMount hmount
  obtain ⟨files, hfiled, -, hstops⟩ := filed_of_logfsMount hmount
  refine ⟨logfsMountIndices_lt hsize, ?_, hfiled.sound, ?_⟩
  · by_cases hroom : (logfsMount device).2.logEnd + 32 ≤ (logfsMount device).2.superblock.logLimit
    · right
      rw [logfsReplayRecord_eq hfiled.usable hfiled.logLimit_le hroom]
      exact hstops
    · exact Or.inl (by omega)
  · intro file hfile hused name hname offset size hoffset
    have hmem : file ∈ files := by
      rw [← hfiled.holds.filter_inUse]
      exact List.mem_filter.mpr ⟨hfile, hused⟩
    obtain ⟨slot, hslot, rfl⟩ := List.mem_iff_getElem.mp hmem
    have hfind := hfiled.wf.findFileState_getElem hslot
    rw [← hname] at hfind
    have hshows := hfiled.shows
    rw [logfsReadFilePart_eq hshows.ready hshows.blockDevice_eq hshows.usable hshows.wf
      hshows.stop_le hfind hslot, if_neg (by omega)]

/-- The files `a` with id 1 and `b` with the largest id, after which `logfs_next_file_id` is 0. -/
def usedIdDevice : BlockDevice where
  blockSize := 512
  blockCount := 2
  storage := patch
    (patch (fun _ => 0) 0 ({ mklogfsSuperblock with blockCount := 2 } : LogfsSuperblock).toBytes) 512
    (logfsRecordBytes logfsRecordTypeCreate 1 0 0 1 [0x61, 0]
      ++ logfsRecordBytes logfsRecordTypeCreate (2 ^ 32 - 1) 0 0 1 [0x62, 0])
  writes := []

theorem logfs_mount_sound_used_id :
    (∀ index ∈ logfsMountIndices usedIdDevice, index < 2) ∧ (logfsMount usedIdDevice).2.Sound := by
  obtain ⟨hindices, -, hsound, -⟩ := logfs_mount_sound usedIdDevice (by decide +kernel)
  exact ⟨hindices, hsound⟩

/-! ### Failed calls -/

section Runs

variable {state : LogfsState} {device : BlockDevice} {files : List LogfsFileState}

/-- Calls keep a state running, whatever ids its files have. -/
theorem LogfsState.Running.write (hrunning : state.Running device files) (write : LogfsWrite) :
    ∃ nextDevice files', (logfsWriteStep state write).2.Running nextDevice files' := by
  cases write with
  | create name =>
      simp only [logfsWriteStep]
      rcases logfsCreate_spec hrunning name
        with ⟨haccept, next, hresult, hwritten⟩ | ⟨-, nextFileId, hnext, hresult⟩
      · rw [hresult]
        exact ⟨next, _, (hrunning.advance hwritten _).withTables
          (hrunning.holds.addFile haccept.slotFree _ _ _) (Nat.mod_lt _ (by decide))⟩
      · have hlt : nextFileId < 2 ^ 32 := by
          rcases hnext with rfl | rfl
          · exact hrunning.nextFileId_lt
          · exact Nat.mod_lt _ (by decide)
        rw [hresult]
        exact ⟨device, files, hrunning.withTables
          ⟨hrunning.holds.files_eq, hrunning.holds.length_le, hrunning.holds.inUse⟩ hlt⟩
  | append name data =>
      simp only [logfsWriteStep]
      rcases logfsAppend_spec hrunning name data
        with ⟨slot, hslot, -, -, next, hwritten, hresult⟩ | ⟨-, hresult⟩
      · rw [hresult]
        split
        · exact ⟨next, _, (hrunning.advance hwritten _).withTables
            (hrunning.holds.extendFile hslot _ _) hrunning.nextFileId_lt⟩
        · exact ⟨next, files, hrunning.advance hwritten _⟩
      · rw [hresult]
        exact ⟨device, files, hrunning⟩

theorem LogfsState.Running.run :
    ∀ (writes : List LogfsWrite) {state : LogfsState} {device : BlockDevice}
      {files : List LogfsFileState}, state.Running device files →
      ∃ nextDevice files', (Machine.run logfsWriteStep state writes).2.Running nextDevice files' := by
  intro writes
  induction writes with
  | nil => exact fun hrunning => ⟨_, _, hrunning⟩
  | cons write rest ih =>
      intro state device files hrunning
      obtain ⟨nextDevice, files', hnext⟩ := hrunning.write write
      exact ih hnext

theorem LogfsState.Running.unchanged_iff (hrunning : state.Running device files)
    (write : LogfsWrite) :
    ((logfsWriteStep state write).1 = -1 → LogfsUnchanged state (logfsWriteStep state write).2)
      ↔ logfsWriteOverflows state write = false := by
  cases write with
  | create name =>
      simp only [logfsWriteStep, logfsWriteOverflows, iff_true]
      intro hfailed
      rcases logfsCreate_spec hrunning name
        with ⟨-, next, hresult, -⟩ | ⟨-, nextFileId, -, hresult⟩
      · simp [hresult] at hfailed
      · rw [hresult]
        exact ⟨rfl, rfl, rfl, rfl⟩
  | append name data =>
      simp only [logfsWriteStep, logfsWriteOverflows]
      rcases logfsAppend_spec hrunning name data
        with ⟨slot, hslot, hwrites, -, next, -, hresult⟩ | ⟨hrefused, hresult⟩
      · by_cases hroom : state.tables.segments.length < logfsMaxSegments
        · have hsafe : logfsAppendOverflows state name data = false := by
            rw [Bool.eq_false_iff]
            exact fun hoverflow => (logfsAppendOverflows_iff.mp hoverflow).2 hroom
          simp [hresult, hroom, hsafe]
        · -- The record has been written, so that the log end has moved.
          have hoverflow : logfsAppendOverflows state name data = true :=
            logfsAppendOverflows_iff.mpr ⟨⟨slot, hwrites⟩, hroom⟩
          have hbounds := recordSize_bounds hwrites.recordFits.1
          rw [hresult, if_neg hroom, hoverflow]
          simp only [forall_const, Bool.true_eq_false, iff_false]
          intro hunchanged
          have hend : state.logEnd + recordSize data.length = state.logEnd := hunchanged.logEnd_eq
          omega
      · have hsafe : logfsAppendOverflows state name data = false := by
          rw [Bool.eq_false_iff]
          intro hoverflow
          obtain ⟨⟨slot, hwrites⟩, -⟩ := logfsAppendOverflows_iff.mp hoverflow
          exact hrefused slot hwrites
        rw [hresult, hsafe]
        simp only [forall_const, iff_true]
        exact ⟨rfl, rfl, rfl, rfl⟩

end Runs

/-- In every state that creates and appends reach from a mounted image, a call that fails changes
nothing, except for an append that writes its record and then finds the segment table full. -/
theorem logfs_failed_write_unchanged_iff (device : BlockDevice) (hmount : (logfsMount device).1 = 0)
    (writes : List LogfsWrite) (write : LogfsWrite) :
    ((logfsWriteStep (Machine.run logfsWriteStep (logfsMount device).2 writes).2 write).1 = -1 →
        LogfsUnchanged (Machine.run logfsWriteStep (logfsMount device).2 writes).2
          (logfsWriteStep (Machine.run logfsWriteStep (logfsMount device).2 writes).2 write).2)
      ↔ logfsWriteOverflows (Machine.run logfsWriteStep (logfsMount device).2 writes).2 write
        = false := by
  obtain ⟨files, hfiled, -⟩ := filed_of_logfsMount hmount
  obtain ⟨nextDevice, files', hrunning⟩ := hfiled.toRunning.run writes
  exact hrunning.unchanged_iff write

/-- A file with three bytes in it. -/
def fileOfThree : List LogfsWrite := [.create nameA, .append nameA [1, 2, 3]]

/-- An append to the file that is larger than the buffer of a record. -/
theorem logfs_failed_write_unchanged_large :
    let state := (Machine.run logfsWriteStep (logfsMount mklogfsDevice).2 fileOfThree).2
    (logfsWriteStep state (.append nameA (List.replicate 512 1))).1 = -1
      ∧ LogfsUnchanged state (logfsWriteStep state (.append nameA (List.replicate 512 1))).2 := by
  have hmount := mklogfsDevice_formatted.mount
  have hiff := logfs_failed_write_unchanged_iff mklogfsDevice (by rw [hmount]) fileOfThree
    (.append nameA (List.replicate 512 1))
  have hfailed : (logfsWriteStep (Machine.run logfsWriteStep (logfsMount mklogfsDevice).2 fileOfThree).2
      (.append nameA (List.replicate 512 1))).1 = -1 := by
    rw [hmount]
    decide +kernel
  refine ⟨hfailed, hiff.mpr ?_ hfailed⟩
  rw [hmount]
  decide +kernel

/-- The 65th append to a file fails, and has moved the log end. -/
theorem logfs_failed_append_moves_log_end :
    (logfsMount mklogfsDevice).1 = 0
      ∧ (logfsWriteStep (Machine.run logfsWriteStep (logfsMount mklogfsDevice).2
          (.create nameA :: List.replicate 64 (.append nameA [1]))).2 (.append nameA [1])).1 = -1
      ∧ ¬ LogfsUnchanged (Machine.run logfsWriteStep (logfsMount mklogfsDevice).2
          (.create nameA :: List.replicate 64 (.append nameA [1]))).2
        (logfsWriteStep (Machine.run logfsWriteStep (logfsMount mklogfsDevice).2
          (.create nameA :: List.replicate 64 (.append nameA [1]))).2 (.append nameA [1])).2 := by
  rw [mklogfsDevice_formatted.mount]
  dsimp only
  have hfailed : (logfsWriteStep (Machine.run logfsWriteStep (.formatted mklogfsDevice)
      (.create nameA :: List.replicate 64 (.append nameA [1]))).2 (.append nameA [1])).1 = -1
      ∧ (logfsWriteStep (Machine.run logfsWriteStep (.formatted mklogfsDevice)
        (.create nameA :: List.replicate 64 (.append nameA [1]))).2 (.append nameA [1])).2.logEnd
        ≠ (Machine.run logfsWriteStep (.formatted mklogfsDevice)
          (.create nameA :: List.replicate 64 (.append nameA [1]))).2.logEnd := by
    decide +kernel
  refine ⟨rfl, hfailed.1, ?_⟩
  intro hunchanged
  exact hfailed.2 hunchanged.logEnd_eq

/-! ### Files stay apart -/

/-- What the list of files holds under a name. -/
def heldBytes (files : List StoredFile) (name : List UInt8) : List UInt8 :=
  match StoredFile.lookup files name with
  | none => []
  | some file => file.bytes

/-- The files hold what `former` says and what the history has appended to them. -/
structure LogfsOwn (former : List UInt8 → List UInt8) (history : List (LogfsWrite × Int))
    (files : List StoredFile) : Prop where
  present : ∀ file ∈ files, file.bytes = former file.name ++ appendedTo file.name history
  absent : ∀ name, StoredFile.lookup files name = none →
    former name = [] ∧ appendedTo name history = []

section Own

variable {former : List UInt8 → List UInt8} {history : List (LogfsWrite × Int)}
  {files : List StoredFile}

theorem LogfsOwn.start (hnodup : (files.map (·.name)).Nodup) :
    LogfsOwn (heldBytes files) [] files where
  present := by
    intro file hfile
    have hlookup : StoredFile.lookup files file.name = some file := by
      rw [StoredFile.lookup, List.find?_eq_some_iff_getElem]
      obtain ⟨index, hindex, rfl⟩ := List.mem_iff_getElem.mp hfile
      refine ⟨by simp, index, hindex, rfl, ?_⟩
      intro earlier hearlier
      have hne := List.pairwise_iff_getElem.mp hnodup earlier index
        (by rw [List.length_map]; omega) (by rw [List.length_map]; exact hindex) hearlier
      simpa using hne
    simp [heldBytes, hlookup, appendedTo]
  absent := by
    intro name hnone
    simp [heldBytes, hnone, appendedTo]

theorem LogfsOwn.refused (hown : LogfsOwn former history files) (write : LogfsWrite) {code : Int}
    (hcode : code ≠ 0) : LogfsOwn former (history ++ [(write, code)]) files := by
  have hnothing : ∀ name, appendedTo name (history ++ [(write, code)]) = appendedTo name history := by
    intro name
    rw [appendedTo_append]
    cases write <;> simp [appendedTo, hcode]
  refine ⟨?_, ?_⟩
  · intro file hfile
    rw [hnothing]
    exact hown.present file hfile
  · intro name hnone
    rw [hnothing]
    exact hown.absent name hnone

theorem LogfsOwn.create (hown : LogfsOwn former history files) {name : CString}
    (hfresh : StoredFile.lookup files name.bytes = none) :
    LogfsOwn former (history ++ [(.create name, 0)]) (files ++ [⟨name.bytes, []⟩]) := by
  have hnothing : ∀ other, appendedTo other (history ++ [(LogfsWrite.create name, (0 : Int))])
      = appendedTo other history := by
    intro other
    rw [appendedTo_append]
    exact List.append_nil _
  refine ⟨?_, ?_⟩
  · intro file hfile
    rw [hnothing]
    rcases List.mem_append.mp hfile with hold | hnew
    · exact hown.present file hold
    · obtain ⟨hformer, happended⟩ := hown.absent _ hfresh
      rw [List.mem_singleton.mp hnew, hformer, happended]
      rfl
  · intro other hnone
    rw [StoredFile.lookup, List.find?_append, Option.or_eq_none_iff] at hnone
    rw [hnothing]
    exact hown.absent other hnone.1

theorem LogfsOwn.append (hown : LogfsOwn former history files) {name : CString}
    (hfound : StoredFile.lookup files name.bytes ≠ none) (data : List UInt8) :
    LogfsOwn former (history ++ [(.append name data, 0)]) (files.map fun file =>
      if file.name = name.bytes then { file with bytes := file.bytes ++ data } else file) := by
  refine ⟨?_, ?_⟩
  · intro file hfile
    obtain ⟨old, hold, rfl⟩ := List.mem_map.mp hfile
    have hbytes := hown.present old hold
    by_cases hname : old.name = name.bytes
    · simp [hname, appendedTo_append, appendedTo, hbytes, List.append_assoc]
    · simp [hname, Ne.symm hname, appendedTo_append, appendedTo, hbytes]
  · intro other hnone
    rw [lookup_map_extend, Option.map_eq_none_iff] at hnone
    have hother : name.bytes ≠ other := by
      rintro rfl
      exact hfound hnone
    obtain ⟨hformer, happended⟩ := hown.absent other hnone
    simp [appendedTo_append, appendedTo, hformer, happended, hother]

end Own

section Separate

variable {mounted : LogfsState} {former : List UInt8 → List UInt8} {session : LogfsSession}
  {device : BlockDevice} {files : List LogfsFileState}

theorem logfsBytes_eq {start stop : Nat} (hshows : mounted.Shows device files start stop)
    (name : CString) :
    logfsBytes mounted name = heldBytes (mounted.tables.view device.storage files) name.bytes := by
  rw [logfsBytes, heldBytes, hshows.stat_eq]
  cases hlookup : StoredFile.lookup (mounted.tables.view device.storage files) name.bytes with
  | none => rfl
  | some file =>
      simp [hshows.readFile_eq, StoredFile.read, hlookup, StoredFile.info]

/-- A state whose files are well-formed and hold what they should keeps them apart. -/
theorem LogfsOwn.separate (hfiled : session.state.Filed device files)
    (hown : LogfsOwn former session.history (session.state.tables.view device.storage files))
    (hformer : ∀ name : CString, logfsBytes mounted name = former name.bytes) :
    session.Separate mounted where
  ids := hfiled.sound.ids_distinct
  bytes := by
    intro name info hstat
    have hshows := hfiled.shows
    rw [hshows.stat_eq, Option.map_eq_some_iff] at hstat
    obtain ⟨file, hlookup, rfl⟩ := hstat
    have hname : file.name = name.bytes := by simpa using List.find?_some hlookup
    have hbytes := hown.present file (List.mem_of_find?_eq_some hlookup)
    rw [hname] at hbytes
    refine ⟨file.bytes, by rw [hformer, hbytes], ?_, ?_⟩
    · rw [StoredFile.info, hname]
    · intro offset size hoffset
      rw [hshows.readFilePart_eq, StoredFile.readPart, hlookup]
      simp only [if_neg (Nat.not_lt.mpr hoffset), List.length_take, List.length_drop]

/-- A running session whose files are well-formed and as they should be while their ids differ. -/
structure LogfsSession.Inv (former : List UInt8 → List UInt8) (session : LogfsSession) : Prop where
  running : ∃ device files, session.state.Running device files
  own : LogfsIdsDistinct session.state.tables → ∃ device files, session.state.Filed device files
    ∧ LogfsOwn former session.history (session.state.tables.view device.storage files)

/-- The files are well-formed and hold what they should. -/
def LogfsSession.Kept (former : List UInt8 → List UInt8) (session : LogfsSession) : Prop :=
  ∃ device files, session.state.Filed device files
    ∧ LogfsOwn former session.history (session.state.tables.view device.storage files)

theorem LogfsOwn.kept_create (hfiled : session.state.Filed device files)
    (hown : LogfsOwn former session.history (session.state.tables.view device.storage files))
    (name : CString) :
    (session.freshId (.create name) = true → (session.next (.create name)).Kept former)
      ∧ (session.freshId (.create name) = false →
        ¬LogfsIdsDistinct (session.next (.create name)).state.tables) := by
  rcases logfsCreate_spec hfiled.toRunning name
    with ⟨haccept, nextDevice, hresult, hwritten⟩ | ⟨hrefuse, nextFileId, hnext, hresult⟩
  · have haccepts := (logfsCreateAccepts_iff hfiled.holds).mpr haccept
    have hunused : session.freshId (.create name) = true
        ↔ ∀ file ∈ files, file.fileId ≠ session.state.tables.nextFileId := by
      rw [LogfsSession.freshId, haccepts, Bool.not_true, Bool.false_or,
        logfsFindFileId_isNone_iff hfiled.holds]
    refine ⟨?_, ?_⟩
    · intro hfresh
      have hid := hunused.mp hfresh
      refine ⟨nextDevice, files ++ [⟨⟨name.bytes, 0⟩, session.state.tables.nextFileId, 0, true⟩], ?_⟩
      simp only [LogfsSession.next, logfsWriteStep, hresult]
      refine ⟨hfiled.create haccept hid hwritten, ?_⟩
      rw [LogfsState.withTables_tables, hfiled.view_create name.bytes _ hid hwritten]
      exact hown.create (LogfsTables.lookup_view_eq_none_iff.mpr haccept.fresh)
    · intro hused hids
      have hholds := hfiled.holds.addFile haccept.slotFree name.bytes
        session.state.tables.nextFileId ((session.state.tables.nextFileId + 1) % 2 ^ 32)
      simp only [LogfsSession.next, logfsWriteStep, hresult, LogfsState.withTables_tables,
        LogfsIdsDistinct, hholds.filter_inUse, List.map_append, List.map_cons, List.map_nil] at hids
      refine Bool.eq_false_iff.mp hused (hunused.mpr ?_)
      intro file hfile heq
      exact (List.nodup_append.mp hids).2.2 file.fileId (List.mem_map_of_mem hfile)
        file.fileId (by rw [heq]; exact List.mem_singleton_self _) rfl
  · have haccepts : logfsCreateAccepts session.state name = false := by
      rw [Bool.eq_false_iff]
      exact fun haccepts => hrefuse ((logfsCreateAccepts_iff hfiled.holds).mp haccepts)
    have hlt : nextFileId < 2 ^ 32 := by
      rcases hnext with rfl | rfl
      · exact hfiled.nextFileId_lt
      · exact Nat.mod_lt _ (by decide)
    refine ⟨fun _ => ⟨device, files, ?_⟩, ?_⟩
    · simp only [LogfsSession.next, logfsWriteStep, hresult]
      exact ⟨hfiled.refused hlt, hown.refused _ (by decide)⟩
    · simp [LogfsSession.freshId, haccepts]

theorem LogfsOwn.kept_append (hfiled : session.state.Filed device files)
    (hown : LogfsOwn former session.history (session.state.tables.view device.storage files))
    (name : CString) (data : List UInt8) : (session.next (.append name data)).Kept former := by
  rcases logfsAppend_spec hfiled.toRunning name data
    with ⟨slot, hslot, hwrites, hname, nextDevice, hwritten, hresult⟩ | ⟨-, hresult⟩
  · rw [LogfsSession.Kept]
    simp only [LogfsSession.next, logfsWriteStep, hresult]
    by_cases hroom : session.state.tables.segments.length < logfsMaxSegments
    · refine ⟨nextDevice, files.set slot (files[slot].extend data.length), ?_⟩
      simp only [if_pos hroom]
      refine ⟨hfiled.append hslot hwrites hroom hwritten, ?_⟩
      rw [LogfsState.withTables_tables,
        hfiled.view_append hslot hwrites.recordFits.1 hwritten, hname]
      apply hown.append
      rw [← hname, hfiled.wf.lookup_view_getElem hslot]
      exact Option.some_ne_none _
    · -- The record is on the disk, but no table refers to it.
      refine ⟨nextDevice, files, ?_⟩
      simp only [if_neg hroom, LogfsState.advance_tables]
      refine ⟨hfiled.written hwritten _, ?_⟩
      rw [hfiled.view_written hwritten]
      exact hown.refused _ (by decide)
  · refine ⟨device, files, ?_⟩
    simp only [LogfsSession.next, logfsWriteStep, hresult]
    exact ⟨hfiled, hown.refused _ (by decide)⟩

/-- One call: it keeps the files apart exactly when it is no create under an id in use. -/
theorem LogfsSession.Inv.step (hinv : session.Inv former)
    (hformer : ∀ name : CString, logfsBytes mounted name = former name.bytes)
    (hseparate : session.Separate mounted) (write : LogfsWrite) :
    (session.next write).Inv former
      ∧ ((session.next write).Separate mounted ↔ session.freshId write = true) := by
  obtain ⟨_, _, hrunning⟩ := hinv.running
  obtain ⟨device, files, hfiled, hown⟩ := hinv.own hseparate.ids
  have hkept : (session.freshId write = true → (session.next write).Kept former)
      ∧ (session.freshId write = false → ¬LogfsIdsDistinct (session.next write).state.tables) := by
    cases write with
    | create name => exact hown.kept_create hfiled name
    | append name data =>
        exact ⟨fun _ => hown.kept_append hfiled name data, by simp [LogfsSession.freshId]⟩
  obtain ⟨hfresh, hused⟩ := hkept
  have hmeets : LogfsIdsDistinct (session.next write).state.tables →
      session.freshId write = true := by
    intro hids
    by_contra hnot
    exact hused (Bool.eq_false_iff.mpr hnot) hids
  refine ⟨⟨hrunning.write write, fun hids => hfresh (hmeets hids)⟩, ?_⟩
  constructor
  · exact fun hnext => hmeets hnext.ids
  · intro hmeets
    obtain ⟨nextDevice, files', hfiled', hown'⟩ := hfresh hmeets
    exact LogfsOwn.separate hfiled' hown' hformer

end Separate

/-- From any image that mounts, creates and appends keep the files apart for as long as no create is
accepted while `logfs_next_file_id` is the id of a file. -/
theorem logfs_files_separate_iff (device : BlockDevice) (hmount : (logfsMount device).1 = 0)
    (writes : List LogfsWrite) :
    Machine.Throughout LogfsSession.next (LogfsSession.Separate (logfsMount device).2)
        ⟨(logfsMount device).2, []⟩ writes
      ↔ Machine.EveryStep LogfsSession.next (fun session write => session.freshId write = true)
        ⟨(logfsMount device).2, []⟩ writes := by
  obtain ⟨files, hfiled, -⟩ := filed_of_logfsMount hmount
  have hformer := logfsBytes_eq hfiled.shows
  have hnames : (((logfsMount device).2.tables.view device.storage files).map (·.name)).Nodup := by
    rw [LogfsTables.view, List.map_map]
    exact hfiled.wf.names_nodup
  have hown := LogfsOwn.start hnames
  apply @Machine.throughout_iff_everyStep LogfsSession LogfsWrite LogfsSession.next
    (LogfsSession.Inv (heldBytes ((logfsMount device).2.tables.view device.storage files))) _
    (fun _ _ => True)
  · exact fun session write hinv hseparate _ => hinv.step hformer hseparate write
  · exact ⟨⟨device, files, hfiled.toRunning⟩, fun _ => ⟨device, files, hfiled, hown⟩⟩
  · exact LogfsOwn.separate hfiled hown hformer
  · exact Machine.everyStep_true _ _

def nameC : CString := ⟨[0x63], by decide, by decide⟩

def nameD : CString := ⟨[0x64], by decide, by decide⟩

/-- The next id is 0, which no file has. -/
theorem logfs_files_separate_first_create :
    Machine.Throughout LogfsSession.next (LogfsSession.Separate (logfsMount usedIdDevice).2)
      ⟨(logfsMount usedIdDevice).2, []⟩ [.create nameC, .append nameC [0x78]] :=
  (logfs_files_separate_iff usedIdDevice (by decide +kernel) [.create nameC, .append nameC [0x78]]).mpr
    (by decide +kernel)

/-- The second create behind the mount takes the id of `a`, and reading the new file then delivers
what has been appended to `a`. -/
theorem logfs_create_takes_used_id :
    (logfsMount usedIdDevice).1 = 0
      ∧ (Machine.run logfsWriteStep (logfsMount usedIdDevice).2
          [.create nameC, .create nameD, .append nameA [0x78], .append nameD [0x79]]).1 = [0, 0, 0, 0]
      ∧ ¬ LogfsIdsDistinct (Machine.run logfsWriteStep (logfsMount usedIdDevice).2
          [.create nameC, .create nameD, .append nameA [0x78], .append nameD [0x79]]).2.tables
      ∧ logfsReadFilePart (Machine.run logfsWriteStep (logfsMount usedIdDevice).2
          [.create nameC, .create nameD, .append nameA [0x78], .append nameD [0x79]]).2 nameD 0 1
        = (1, [0x78]) := by
  refine ⟨?_, ?_, ?_, ?_⟩
  all_goals decide +kernel

end DuckOs

import DuckOs.Proof.LogfsRefinement
import DuckOs.Proof.LogfsSteps

/-!
# When LogFS is durable

A run is in one of three phases. While the log is intact, replay rebuilds the tables. Once an append
has overflowed the segment table the log is cut: replay stops at that record, which loses nothing as
long as nothing more is accepted. Once a create has been accepted behind a cut, or under an id in use,
a file is lost for good.
-/

namespace DuckOs

open ByteStore

/-! ### The executable tests -/

section Tests

variable {state : LogfsState} {device : BlockDevice} {files : List LogfsFileState}

theorem logfsRecordFits_iff {size : Nat} :
    logfsRecordFits state size = true ↔ state.RecordFits size := by
  rw [logfsRecordFits, Bool.and_eq_true, decide_eq_true_eq, decide_eq_true_eq]
  rfl

theorem logfsCreateAccepts_iff (hholds : state.tables.Holds files) {name : CString} :
    logfsCreateAccepts state name = true ↔ state.CreateAccepted files name := by
  have hfresh : (logfsFindFileState state.tables name.bytes).isNone = true
      ↔ ∀ file ∈ files, file.info.name ≠ name.bytes := by
    rw [hholds.findFileState_eq, Option.isNone_iff_eq_none, List.findIdx?_eq_none_iff]
    simp
  have hfree : (logfsAllocFileState state.tables).isSome = true
      ↔ files.length < logfsMaxFiles := by
    rw [hholds.allocFileState_eq]
    by_cases hfree : files.length < logfsMaxFiles <;> simp [hfree]
  rw [logfsCreateAccepts, Bool.and_eq_true, Bool.and_eq_true, Bool.and_eq_true, hfresh, hfree,
    logfsRecordFits_iff]
  constructor
  · rintro ⟨⟨⟨hvalid, hnames⟩, hslot⟩, hfits⟩
    exact ⟨hvalid, hnames, hslot, hfits⟩
  · rintro ⟨hvalid, hnames, hslot, hfits⟩
    exact ⟨⟨⟨hvalid, hnames⟩, hslot⟩, hfits⟩

theorem logfsAppendOverflows_iff {name : CString} {data : List UInt8} :
    logfsAppendOverflows state name data = true
      ↔ (∃ slot, state.AppendWrites name data slot)
        ∧ ¬ state.tables.segments.length < logfsMaxSegments := by
  rw [logfsAppendOverflows, Bool.and_eq_true, Bool.and_eq_true, Bool.and_eq_true,
    Option.isSome_iff_exists, bne_iff_ne, logfsRecordFits_iff, decide_eq_true_eq, Nat.not_lt]
  constructor
  · rintro ⟨⟨⟨⟨slot, hfind⟩, hdata⟩, hfits⟩, hfull⟩
    exact ⟨⟨slot, hfind, by omega, hfits⟩, hfull⟩
  · rintro ⟨⟨slot, hwrites⟩, hfull⟩
    have hpos := hwrites.nonempty
    exact ⟨⟨⟨⟨slot, hwrites.found⟩, by omega⟩, hwrites.recordFits⟩, hfull⟩

theorem logfsFindFileId_isNone_iff (hholds : state.tables.Holds files) {fileId : Nat} :
    (logfsFindFileId state.tables fileId).isNone = true
      ↔ ∀ file ∈ files, file.fileId ≠ fileId := by
  rw [hholds.findFileId_eq, Option.isNone_iff_eq_none, List.findIdx?_eq_none_iff]
  simp

end Tests

/-! ### Histories -/

section Histories

variable {history : List (LogfsWrite × Int)} {files : List StoredFile}

theorem appendedTo_append (name : List UInt8) (first second : List (LogfsWrite × Int)) :
    appendedTo name (first ++ second) = appendedTo name first ++ appendedTo name second := by
  induction first with
  | nil => rfl
  | cons entry rest ih =>
      obtain ⟨write, code⟩ := entry
      cases write with
      | create target => simpa [appendedTo] using ih
      | append target data =>
          by_cases hmatch : target.bytes = name ∧ code = 0 <;> simp [appendedTo, hmatch, ih]

theorem append_logfsHistory_cons (history : List (LogfsWrite × Int)) (state : LogfsState)
    (write : LogfsWrite) (rest : List LogfsWrite) :
    history ++ logfsHistory state (write :: rest)
      = history ++ [(write, (logfsWriteStep state write).1)]
        ++ logfsHistory (logfsWriteStep state write).2 rest := by
  rw [logfsHistory, Machine.run_cons, List.zip_cons_cons, List.append_cons, logfsHistory]

/-- The files hold what the history has accepted. -/
structure LogfsRecords (history : List (LogfsWrite × Int)) (files : List StoredFile) : Prop where
  present : ∀ name : CString, (LogfsWrite.create name, 0) ∈ history →
    StoredFile.lookup files name.bytes = some ⟨name.bytes, appendedTo name.bytes history⟩
  absent : ∀ name, StoredFile.lookup files name = none → appendedTo name history = []

theorem LogfsRecords.refused (hrecords : LogfsRecords history files) (write : LogfsWrite)
    {code : Int} (hcode : code ≠ 0) : LogfsRecords (history ++ [(write, code)]) files := by
  have hnothing : ∀ name, appendedTo name [(write, code)] = [] := by
    intro name
    cases write <;> simp [appendedTo, hcode]
  refine ⟨?_, ?_⟩
  · intro name hmem
    rcases List.mem_append.mp hmem with hold | hnew
    · rw [appendedTo_append, hnothing, List.append_nil]
      exact hrecords.present name hold
    · rw [List.mem_singleton, Prod.mk.injEq] at hnew
      exact absurd hnew.2.symm hcode
  · intro name hlookup
    rw [appendedTo_append, hnothing, hrecords.absent name hlookup]
    rfl

theorem LogfsRecords.create (hrecords : LogfsRecords history files) {name : CString}
    (hfresh : StoredFile.lookup files name.bytes = none) :
    LogfsRecords (history ++ [(.create name, 0)]) (files ++ [⟨name.bytes, []⟩]) := by
  have hnothing : ∀ other, appendedTo other [(LogfsWrite.create name, (0 : Int))] = [] :=
    fun other => rfl
  have hlookup : ∀ other, StoredFile.lookup (files ++ [⟨name.bytes, []⟩]) other
      = (StoredFile.lookup files other).or
          (if name.bytes = other then some ⟨name.bytes, []⟩ else none) := by
    intro other
    rw [StoredFile.lookup, List.find?_append, List.find?_singleton]
    simp only [StoredFile.lookup, beq_iff_eq]
  refine ⟨?_, ?_⟩
  · intro other hmem
    rw [appendedTo_append, hnothing, List.append_nil, hlookup]
    rcases List.mem_append.mp hmem with hold | hnew
    · rw [hrecords.present other hold]
      rfl
    · rw [List.mem_singleton, Prod.mk.injEq, LogfsWrite.create.injEq] at hnew
      rw [hnew.1, hfresh, if_pos rfl, hrecords.absent _ hfresh]
      rfl
  · intro other hnone
    rw [hlookup, Option.or_eq_none_iff] at hnone
    rw [appendedTo_append, hnothing, List.append_nil]
    exact hrecords.absent other hnone.1

theorem lookup_map_extend (name data other : List UInt8) :
    StoredFile.lookup (files.map fun file =>
        if file.name = name then { file with bytes := file.bytes ++ data } else file) other
      = (StoredFile.lookup files other).map fun file =>
          if file.name = name then { file with bytes := file.bytes ++ data } else file := by
  rw [StoredFile.lookup, List.find?_map, StoredFile.lookup]
  congr 1
  apply List.find?_congr
  intro file _
  by_cases hname : file.name = name <;> simp [hname]

theorem LogfsRecords.append (hrecords : LogfsRecords history files) {name : CString}
    (hfound : StoredFile.lookup files name.bytes ≠ none) (data : List UInt8) :
    LogfsRecords (history ++ [(.append name data, 0)]) (files.map fun file =>
      if file.name = name.bytes then { file with bytes := file.bytes ++ data } else file) := by
  refine ⟨?_, ?_⟩
  · intro other hmem
    have hold : (LogfsWrite.create other, (0 : Int)) ∈ history := by
      rcases List.mem_append.mp hmem with hold | hnew
      · exact hold
      · simp at hnew
    rw [appendedTo_append, lookup_map_extend, hrecords.present other hold, Option.map_some]
    by_cases hsame : other.bytes = name.bytes
    · simp [appendedTo, hsame]
    · simp [appendedTo, hsame, Ne.symm hsame]
  · intro other hnone
    rw [lookup_map_extend, Option.map_eq_none_iff] at hnone
    have hother : name.bytes ≠ other := by
      rintro rfl
      exact hfound hnone
    rw [appendedTo_append, hrecords.absent other hnone]
    simp [appendedTo, hother]

end Histories

/-! ### The three phases -/

/-- Replay rebuilds the tables, and these hold what the history has accepted. -/
structure LogfsIntact (state : LogfsState) (history : List (LogfsWrite × Int))
    (device : BlockDevice) (files : List LogfsFileState) (replayed : LogfsTables) : Prop
    extends state.Synced device files replayed where
  zeros : ∀ address, state.logEnd ≤ address → address < state.superblock.logLimit →
    device.storage address = 0
  records : LogfsRecords history (state.tables.view device.storage files)

/-- Replay stops early, the segment table is full, and nothing has been accepted since. -/
structure LogfsCut (state : LogfsState) (history : List (LogfsWrite × Int))
    (device : BlockDevice) (replayed : LogfsTables) (recovered : List LogfsFileState)
    (start stop stopEnd : Nat) : Prop
    extends state.Halted device replayed recovered start stop stopEnd where
  full : ¬ state.tables.segments.length < logfsMaxSegments
  files_eq : state.tables.files = replayed.files
  records : LogfsRecords history (replayed.view device.storage recovered)

/-- Replay stops before the record of a file that was created. -/
structure LogfsLost (state : LogfsState) (history : List (LogfsWrite × Int))
    (device : BlockDevice) (replayed : LogfsTables) (stopEnd : Nat) : Prop where
  mounted : ∃ files, state.Mounted device files
  stuck : state.Stuck device replayed stopEnd
  lost : ∃ name : CString, (LogfsWrite.create name, 0) ∈ history
    ∧ logfsFindFileState replayed name.bytes = none

section Phases

variable {state next : LogfsState} {history : List (LogfsWrite × Int)}
  {device nextDevice : BlockDevice} {files recovered : List LogfsFileState}
  {replayed : LogfsTables} {start stop stopEnd : Nat}

theorem recovers_of_records (files : List LogfsFileState) {mounted : LogfsState} (hdevice : state.blockDevice = some device)
    (hmount : logfsMount device = (0, mounted)) (hshows : mounted.Shows device files start stop)
    (hrecords : LogfsRecords history (mounted.tables.view device.storage files)) :
    LogfsRecovers state history := by
  refine ⟨device, hdevice, by rw [hmount], ?_⟩
  intro name hname
  have hlookup := hrecords.present name hname
  rw [hmount, hshows.stat_eq, hshows.readFile_eq, StoredFile.read, hlookup]
  exact ⟨rfl, by simp⟩

theorem LogfsIntact.recovers (hintact : LogfsIntact state history device files replayed) :
    LogfsRecovers state history := by
  have hmount := hintact.toSynced.remount (replayStops_of_zeros hintact.zeros)
  have hshows := hintact.toSynced.filed.shows
  refine recovers_of_records files hintact.blockDevice_eq hmount
    ⟨hintact.ready, hintact.blockDevice_eq, hintact.usable, hintact.wf_replayed,
      hshows.stop_le⟩ ?_
  rw [LogfsState.withTables_tables, LogfsTables.view_eq_of_segments hintact.segments_eq]
  exact hintact.records

theorem LogfsCut.recovers
    (hcut : LogfsCut state history device replayed recovered start stop stopEnd) :
    LogfsRecovers state history := by
  obtain ⟨files, hmounted⟩ := hcut.mounted
  obtain ⟨hreplay, hstops⟩ := hcut.stuck device.storage fun _ _ => rfl
  exact recovers_of_records _ hmounted.blockDevice_eq (hmounted.remount hreplay hstops)
    ⟨hmounted.ready, hmounted.blockDevice_eq, hmounted.usable, hcut.wf,
      hcut.stop_limit.trans hmounted.logLimit_le⟩ hcut.records

theorem LogfsLost.not_recovers (hlost : LogfsLost state history device replayed stopEnd) :
    ¬ LogfsRecovers state history := by
  rintro ⟨other, hother, -, hrecovers⟩
  obtain ⟨files, hmounted⟩ := hlost.mounted
  obtain ⟨name, hname, hmissing⟩ := hlost.lost
  obtain ⟨hreplay, hstops⟩ := hlost.stuck device.storage fun _ _ => rfl
  rw [hmounted.blockDevice_eq] at hother
  cases hother
  have hstat := (hrecovers name hname).1
  rw [hmounted.remount hreplay hstops] at hstat
  simp [logfsStat, hmounted.ready, hmissing] at hstat

theorem LogfsLost.step (hlost : LogfsLost state history device replayed stopEnd)
    (write : LogfsWrite) :
    ∃ nextDevice, LogfsLost (logfsWriteStep state write).2
      (history ++ [(write, (logfsWriteStep state write).1)]) nextDevice replayed stopEnd := by
  obtain ⟨files, hmounted⟩ := hlost.mounted
  obtain ⟨nextDevice, hfollows⟩ := hmounted.follows write
  obtain ⟨name, hname, hmissing⟩ := hlost.lost
  exact ⟨nextDevice, hfollows.mounted, hlost.stuck.follows hfollows, name,
    List.mem_append_left _ hname, hmissing⟩

theorem LogfsLost.run :
    ∀ (writes : List LogfsWrite) {state : LogfsState} {history : List (LogfsWrite × Int)}
      {device : BlockDevice}, LogfsLost state history device replayed stopEnd →
      ¬ LogfsRecovers (Machine.run logfsWriteStep state writes).2
        (history ++ logfsHistory state writes) := by
  intro writes
  induction writes with
  | nil =>
      intro state history device hlost
      simpa [logfsHistory] using hlost.not_recovers
  | cons write rest ih =>
      intro state history device hlost
      obtain ⟨nextDevice, hnext⟩ := hlost.step write
      rw [append_logfsHistory_cons]
      exact ih hnext

theorem LogfsCut.refused
    (hcut : LogfsCut state history device replayed recovered start stop stopEnd)
    (write : LogfsWrite) (hfollows : next.Follows state nextDevice device)
    (hfiles : next.tables.files = state.tables.files) :
    LogfsCut next (history ++ [(write, -1)]) nextDevice replayed recovered start stop stopEnd where
  toHalted := hcut.toHalted.follows hfollows
  full := by
    have hfull := hcut.full
    have hle := hfollows.segments_le
    omega
  files_eq := hfiles.trans hcut.files_eq
  records := by
    have hview : replayed.view nextDevice.storage recovered
        = replayed.view device.storage recovered :=
      hcut.wf.view_congr fun address haddress =>
        hfollows.agree address (haddress.trans_le hcut.stop_le)
    rw [hview]
    exact hcut.records.refused write (by decide)

/-- With the segment table full no append is accepted and no file changes. -/
theorem logfsAppend_of_full (hmounted : state.Mounted device files)
    (hfull : ¬ state.tables.segments.length < logfsMaxSegments) (name : CString)
    (data : List UInt8) :
    (logfsAppend state name data).1 = -1
      ∧ (logfsAppend state name data).2.tables.files = state.tables.files := by
  rcases logfsAppend_spec hmounted.running name data
    with ⟨slot, hslot, -, -, nextDevice, -, hresult⟩ | ⟨-, hresult⟩
  · rw [hresult, if_neg hfull]
    exact ⟨rfl, rfl⟩
  · rw [hresult]
    exact ⟨rfl, rfl⟩

/-- A file created behind a cut is lost. -/
theorem LogfsCut.create_lost
    (hcut : LogfsCut state history device replayed recovered start stop stopEnd)
    (hmounted : state.Mounted device files) {name : CString}
    (haccept : state.CreateAccepted files name)
    (hfollows : next.Follows state nextDevice device) :
    LogfsLost next (history ++ [(.create name, 0)]) nextDevice replayed stopEnd := by
  refine ⟨hfollows.mounted, hcut.stuck.follows hfollows, name, by simp, ?_⟩
  have hmissing := (logfsCreateAccepts_iff hmounted.holds).mpr haccept
  rw [logfsCreateAccepts, Bool.and_eq_true, Bool.and_eq_true, Bool.and_eq_true,
    Option.isNone_iff_eq_none] at hmissing
  have hnone := hmissing.1.1.2
  rwa [logfsFindFileState, hcut.files_eq] at hnone

theorem LogfsCut.run :
    ∀ (writes : List LogfsWrite) {state : LogfsState} {history : List (LogfsWrite × Int)}
      {device : BlockDevice},
      LogfsCut state history device replayed recovered start stop stopEnd →
      (LogfsRecovers (Machine.run logfsWriteStep state writes).2
          (history ++ logfsHistory state writes)
        ↔ logfsRunSafe state true writes = true) := by
  intro writes
  induction writes with
  | nil =>
      intro state history device hcut
      simpa [logfsHistory, logfsRunSafe] using hcut.recovers
  | cons write rest ih =>
      intro state history device hcut
      obtain ⟨files, hmounted⟩ := hcut.mounted
      rw [append_logfsHistory_cons, Machine.run_cons]
      cases write with
      | create name =>
          obtain ⟨nextDevice, hfollows⟩ := hmounted.follows_create name
          rw [logfsRunSafe]
          simp only [logfsWriteStep]
          rcases logfsCreate_spec hmounted.running name
            with ⟨haccept, _, hresult, _⟩ | ⟨hrefuse, nextFileId, -, hresult⟩
          · have hlost := hcut.create_lost hmounted haccept hfollows
            have hcode : (logfsCreate state name).1 = 0 := by rw [hresult]
            rw [hcode, (logfsCreateAccepts_iff hmounted.holds).mpr haccept]
            simpa using hlost.run rest
          · have hcode : (logfsCreate state name).1 = -1 := by rw [hresult]
            have hnext := hcut.refused (.create name) hfollows (by rw [hresult]; rfl)
            have haccepts : logfsCreateAccepts state name = false := by
              rw [Bool.eq_false_iff]
              exact fun haccepts => hrefuse ((logfsCreateAccepts_iff hmounted.holds).mp haccepts)
            rw [hcode, haccepts]
            simpa using ih hnext
      | append name data =>
          obtain ⟨nextDevice, hfollows⟩ := hmounted.follows_append name data
          obtain ⟨hcode, hfiles⟩ := logfsAppend_of_full hmounted hcut.full name data
          have hnext := hcut.refused (.append name data) hfollows hfiles
          rw [logfsRunSafe, Bool.true_or]
          simp only [logfsWriteStep]
          rw [hcode]
          exact ih hnext

theorem LogfsIntact.zeros_written (hintact : LogfsIntact state history device files replayed)
    {data : List UInt8} (hwritten : WrittenTo device nextDevice state.logEnd data) :
    ∀ address, state.logEnd + data.length ≤ address → address < state.superblock.logLimit →
      nextDevice.storage address = 0 := by
  intro address hbehind hinside
  rw [hwritten.storage_eq, patch_of_le hbehind]
  exact hintact.zeros address (by omega) hinside

theorem LogfsIntact.create (hintact : LogfsIntact state history device files replayed)
    {name : CString} (haccept : state.CreateAccepted files name)
    (hid : ∀ file ∈ files, file.fileId ≠ state.tables.nextFileId)
    (hresult : logfsCreate state name
      = (0, (state.advance nextDevice (name.bytes.length + 1)).withTables
          (state.tables.addFile files.length name.bytes state.tables.nextFileId
            ((state.tables.nextFileId + 1) % 2 ^ 32))))
    (hwritten : WrittenTo device nextDevice state.logEnd
      (logfsRecordBytes logfsRecordTypeCreate state.tables.nextFileId 0 0 name.bytes.length
        (name.bytes ++ [0]))) :
    ∃ files' replayed', LogfsIntact (logfsCreate state name).2 (history ++ [(.create name, 0)])
      nextDevice files' replayed' := by
  rw [hresult]
  have hlength : (name.bytes ++ [0]).length = name.bytes.length + 1 := by simp
  have hrecord := length_logfsRecordBytes logfsRecordTypeCreate state.tables.nextFileId 0 0
    name.bytes.length (show (name.bytes ++ [0]).length ≤ 480 by simpa using haccept.recordFits.1)
  rw [hlength] at hrecord
  exact ⟨_, _, {
    toSynced := hintact.toSynced.create haccept hid hwritten
    zeros := by
      have hzeros := hintact.zeros_written hwritten
      rw [hrecord] at hzeros
      exact hzeros
    records := by
      have hview := hintact.toSynced.filed.view_create name.bytes
        ((state.tables.nextFileId + 1) % 2 ^ 32) hid hwritten
      rw [LogfsState.withTables_tables, hview]
      exact hintact.records.create (LogfsTables.lookup_view_eq_none_iff.mpr haccept.fresh) }⟩

theorem LogfsIntact.append (hintact : LogfsIntact state history device files replayed)
    {name : CString} {data : List UInt8} {slot : Nat} (hslot : slot < files.length)
    (hwrites : state.AppendWrites name data slot) (hname : files[slot].info.name = name.bytes)
    (hroom : state.tables.segments.length < logfsMaxSegments)
    (hwritten : WrittenTo device nextDevice state.logEnd
      (logfsRecordBytes logfsRecordTypeAppend files[slot].fileId files[slot].info.size
        ((files[slot].info.size + data.length) % 2 ^ 32) 0 data)) :
    ∃ files' replayed', LogfsIntact ((state.advance nextDevice data.length).withTables
      (state.tables.extendFile slot data.length (state.logEnd + 32)))
      (history ++ [(.append name data, 0)]) nextDevice files' replayed' := by
  have hfits := hwrites.recordFits
  have hrecord := length_logfsRecordBytes logfsRecordTypeAppend files[slot].fileId
    files[slot].info.size ((files[slot].info.size + data.length) % 2 ^ 32) 0 hfits.1
  exact ⟨_, _, {
    toSynced := hintact.toSynced.append hslot hwrites hroom hwritten
    zeros := by
      have hzeros := hintact.zeros_written hwritten
      rw [hrecord] at hzeros
      exact hzeros
    records := by
      rw [LogfsState.withTables_tables, hintact.toSynced.filed.view_append hslot hfits.1 hwritten, hname]
      refine hintact.records.append ?_ data
      rw [← hname, hintact.wf.lookup_view_getElem hslot]
      exact Option.some_ne_none _ }⟩

/-- An append that overflows the segment table cuts the log. -/
theorem LogfsIntact.append_cut (hintact : LogfsIntact state history device files replayed)
    {name : CString} {data : List UInt8} {slot : Nat} (hslot : slot < files.length)
    (hwrites : state.AppendWrites name data slot)
    (hfull : ¬ state.tables.segments.length < logfsMaxSegments)
    (hwritten : WrittenTo device nextDevice state.logEnd
      (logfsRecordBytes logfsRecordTypeAppend files[slot].fileId files[slot].info.size
        ((files[slot].info.size + data.length) % 2 ^ 32) 0 data)) :
    LogfsCut (state.advance nextDevice data.length) (history ++ [(.append name data, -1)])
      nextDevice replayed files state.superblock.logOffset
      (min state.logEnd state.superblock.logLimit) state.logEnd where
  toHalted := {
    mounted := ⟨files, hintact.toMounted.advance hwritten _⟩
    stuck := hintact.toSynced.append_stuck hslot hwrites hfull hwritten
    wf := hintact.wf_replayed
    stop_le := (Nat.min_le_left _ _).trans (Nat.le_add_right _ _)
    stop_limit := Nat.min_le_right _ _ }
  full := hfull
  files_eq := hintact.files_eq.symm
  records := by
    rw [LogfsTables.view_eq_of_segments hintact.segments_eq,
      hintact.toSynced.filed.view_written hwritten]
    exact hintact.records.refused _ (by decide)

theorem LogfsIntact.refused (hintact : LogfsIntact state history device files replayed)
    (write : LogfsWrite) {nextFileId : Nat} (hlt : nextFileId < 2 ^ 32) :
    LogfsIntact (state.withTables { state.tables with nextFileId := nextFileId })
      (history ++ [(write, -1)]) device files replayed :=
  { hintact with
    toSynced := hintact.toSynced.refused hlt
    records := hintact.records.refused write (by decide) }

/-- Under an id in use the record is written, but replay rejects it. -/
theorem LogfsIntact.create_lost (hintact : LogfsIntact state history device files replayed)
    {name : CString} (haccept : state.CreateAccepted files name) {file : LogfsFileState}
    (hfile : file ∈ files) (hid : file.fileId = state.tables.nextFileId)
    (hresult : logfsCreate state name
      = (0, (state.advance nextDevice (name.bytes.length + 1)).withTables
          (state.tables.addFile files.length name.bytes state.tables.nextFileId
            ((state.tables.nextFileId + 1) % 2 ^ 32))))
    (hwritten : WrittenTo device nextDevice state.logEnd
      (logfsRecordBytes logfsRecordTypeCreate state.tables.nextFileId 0 0 name.bytes.length
        (name.bytes ++ [0]))) :
    LogfsLost (logfsCreate state name).2 (history ++ [(.create name, 0)]) nextDevice replayed
      state.logEnd := by
  refine ⟨?_, ?_, name, by simp, ?_⟩
  · rw [hresult]
    exact ⟨_, (hintact.toMounted.advance hwritten _).withTables
      (hintact.holds.addFile haccept.slotFree _ _ _) (Nat.mod_lt _ (by decide))⟩
  · rw [hresult]
    exact hintact.toSynced.create_stuck haccept hfile hid hwritten
  · rw [hintact.wf_replayed.toHolds.findFileState_eq, List.findIdx?_eq_none_iff]
    simpa using haccept.fresh

theorem LogfsIntact.run :
    ∀ (writes : List LogfsWrite) {state : LogfsState} {history : List (LogfsWrite × Int)}
      {device : BlockDevice} {files : List LogfsFileState} {replayed : LogfsTables},
      LogfsIntact state history device files replayed →
      (LogfsRecovers (Machine.run logfsWriteStep state writes).2
          (history ++ logfsHistory state writes)
        ↔ logfsRunSafe state false writes = true) := by
  intro writes
  induction writes with
  | nil =>
      intro state history device files replayed hintact
      simpa [logfsHistory, logfsRunSafe] using hintact.recovers
  | cons write rest ih =>
      intro state history device files replayed hintact
      have hholds := hintact.holds
      rw [append_logfsHistory_cons, Machine.run_cons]
      cases write with
      | create name =>
          rw [logfsRunSafe]
          simp only [logfsWriteStep]
          rcases logfsCreate_spec hintact.toMounted.running name
            with ⟨haccept, nextDevice, hresult, hwritten⟩ | ⟨hrefuse, nextFileId, hnext, hresult⟩
          · have hcode : (logfsCreate state name).1 = 0 := by rw [hresult]
            rw [hcode, (logfsCreateAccepts_iff hholds).mpr haccept]
            by_cases hid : ∀ file ∈ files, file.fileId ≠ state.tables.nextFileId
            · obtain ⟨files', replayed', hintact'⟩ := hintact.create haccept hid hresult hwritten
              rw [(logfsFindFileId_isNone_iff hholds).mpr hid]
              simpa using ih hintact'
            · have hused : (logfsFindFileId state.tables state.tables.nextFileId).isNone = false := by
                rw [Bool.eq_false_iff]
                exact fun hnone => hid ((logfsFindFileId_isNone_iff hholds).mp hnone)
              push Not at hid
              obtain ⟨file, hfile, hid⟩ := hid
              have hlost := hintact.create_lost haccept hfile hid hresult hwritten
              rw [hused]
              simpa using hlost.run rest
          · have hlt : nextFileId < 2 ^ 32 := by
              rcases hnext with rfl | rfl
              · exact hintact.nextFileId_lt
              · exact Nat.mod_lt _ (by decide)
            have haccepts : logfsCreateAccepts state name = false := by
              rw [Bool.eq_false_iff]
              exact fun haccepts => hrefuse ((logfsCreateAccepts_iff hholds).mp haccepts)
            rw [haccepts, hresult]
            simpa using ih (hintact.refused (.create name) hlt)
      | append name data =>
          rw [logfsRunSafe, Bool.false_or]
          simp only [logfsWriteStep]
          rcases logfsAppend_spec hintact.toMounted.running name data
            with ⟨slot, hslot, hwrites, hname, nextDevice, hwritten, hresult⟩ | ⟨hrefuse, hresult⟩
          · by_cases hroom : state.tables.segments.length < logfsMaxSegments
            · have hsafe : logfsAppendOverflows state name data = false := by
                rw [Bool.eq_false_iff]
                exact fun hoverflow => (logfsAppendOverflows_iff.mp hoverflow).2 hroom
              obtain ⟨files', replayed', hintact'⟩ :=
                hintact.append hslot hwrites hname hroom hwritten
              rw [hsafe, hresult, if_pos hroom]
              exact ih hintact'
            · have hoverflow : logfsAppendOverflows state name data = true :=
                logfsAppendOverflows_iff.mpr ⟨⟨slot, hwrites⟩, hroom⟩
              rw [hoverflow, hresult, if_neg hroom]
              exact (hintact.append_cut hslot hwrites hroom hwritten).run rest
          · have hsafe : logfsAppendOverflows state name data = false := by
              rw [Bool.eq_false_iff]
              intro hoverflow
              obtain ⟨⟨slot, hwrites⟩, -⟩ := logfsAppendOverflows_iff.mp hoverflow
              exact hrefuse slot hwrites
            rw [hsafe, hresult]
            exact ih (hintact.refused (.append name data) hintact.nextFileId_lt)

end Phases

theorem BlockDevice.Formatted.intact {device : BlockDevice} (hformatted : device.Formatted) :
    LogfsIntact (.formatted device) [] device [] .empty :=
  { hformatted.synced with
    zeros := hformatted.zeros
    records := ⟨by simp, fun _ _ => rfl⟩ }

/-- From a fresh image a remount recovers everything a run of creates and appends was told it had
stored, if and only if no create is accepted after an append that found the segment table full, or
under the id of an existing file. -/
theorem logfs_recovers_iff_runSafe (device : BlockDevice) (hformatted : device.Formatted)
    (writes : List LogfsWrite) :
    LogfsRecovers (Machine.run logfsWriteStep (logfsMount device).2 writes).2
        (logfsHistory (logfsMount device).2 writes)
      ↔ logfsRunSafe (logfsMount device).2 false writes = true := by
  have hrun := hformatted.intact.run writes
  rwa [List.nil_append, show LogfsState.formatted device = (logfsMount device).2 by
    rw [hformatted.mount]] at hrun

def nameB : CString := ⟨[0x62], by decide, by decide⟩

theorem logfs_recovers_two_appends :
    LogfsRecovers
      (Machine.run logfsWriteStep (logfsMount mklogfsDevice).2
        [.create nameA, .append nameA [1], .append nameA [2]]).2
      (logfsHistory (logfsMount mklogfsDevice).2
        [.create nameA, .append nameA [1], .append nameA [2]]) := by
  rw [logfs_recovers_iff_runSafe mklogfsDevice mklogfsDevice_formatted,
    mklogfsDevice_formatted.mount]
  decide

/-- The 65th append is written and reported as failed; the create behind it is accepted and lost. -/
theorem logfs_create_lost_after_overflow :
    ¬ LogfsRecovers
      (Machine.run logfsWriteStep (logfsMount mklogfsDevice).2
        (.create nameA :: (List.replicate 65 (.append nameA [1]) ++ [.create nameB]))).2
      (logfsHistory (logfsMount mklogfsDevice).2
        (.create nameA :: (List.replicate 65 (.append nameA [1]) ++ [.create nameB]))) := by
  have hlost : logfsRunSafe (.formatted mklogfsDevice) false
      (.create nameA :: (List.replicate 65 (.append nameA [1]) ++ [.create nameB])) = false := by
    decide +kernel
  have hrun := mklogfsDevice_formatted.intact.run
    (.create nameA :: (List.replicate 65 (.append nameA [1]) ++ [.create nameB]))
  rw [hlost, List.nil_append] at hrun
  rw [mklogfsDevice_formatted.mount]
  exact fun hrecovers => Bool.false_ne_true (hrun.mp hrecovers)

end DuckOs

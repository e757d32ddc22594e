import DuckOs.Proof.LogfsView

/-!
# LogFS refines the append-only store

The simulation relates a mounted state to the store it implements: the log replays to the tables,
everything behind the log is zero, the tables show the store's files, and file ids have not wrapped.
Every call answers as the store does and keeps the relation, including a remount.
-/

namespace DuckOs

open ByteStore

/-! ### A fresh image -/

/-- The state after mounting a fresh image. -/
def LogfsState.formatted (device : BlockDevice) : LogfsState :=
  ⟨some device, mklogfsSuperblock, .empty, 512, true⟩

section Formatted

variable {device : BlockDevice}

theorem BlockDevice.Formatted.superblockAt_eq (hformatted : device.Formatted) :
    superblockAt device.storage = mklogfsSuperblock := by
  have hbytes : slice device.storage 0 20 = mklogfsSuperblock.toBytes := by
    rw [slice_congr fun index hindex => hformatted.image _ (by omega)]
    exact slice_patch_self
  rw [superblockAt, hbytes, LogfsSuperblock.ofBytes_toBytes] <;> decide

theorem BlockDevice.Formatted.zeros (hformatted : device.Formatted) :
    ∀ address, 512 ≤ address → address < 128 * 512 → device.storage address = 0 := by
  intro address hlog hinside
  rw [hformatted.image address hinside, mklogfsImage, patch_of_le]
  rw [LogfsSuperblock.length_toBytes]
  omega

theorem BlockDevice.Formatted.synced (hformatted : device.Formatted) :
    (LogfsState.formatted device).Synced device [] .empty where
  blockDevice_eq := rfl
  ready := rfl
  usable := by
    refine ⟨?_, ?_⟩
    · rw [hformatted.blockSize_eq]
      decide
    · rw [hformatted.blockSize_eq]
  size_le := by
    have hcount := hformatted.blockCount_le
    rw [BlockDevice.byteCount, hformatted.blockSize_eq]
    omega
  superblock_eq := hformatted.superblockAt_eq.symm
  valid := by
    rw [hformatted.superblockAt_eq, logfsSuperblockValid, hformatted.blockSize_eq]
    simp only [Bool.and_eq_true, decide_eq_true_eq]
    exact ⟨⟨⟨⟨rfl, rfl⟩, rfl⟩, hformatted.blockCount_le⟩, le_rfl⟩
  superblock_le := (by decide : 20 ≤ mklogfsSuperblock.logOffset)
  logOffset_le := le_rfl
  holds := LogfsTables.Holds.empty
  nextFileId_lt := (by decide : LogfsTables.empty.nextFileId < 2 ^ 32)
  wf := LogfsTables.Wf.empty _ _
  replay := .refl _ _
  files_eq := rfl
  segments_eq := rfl

/-- A fresh image mounts with no files and the log end at the start of the log. -/
theorem BlockDevice.Formatted.mount (hformatted : device.Formatted) :
    logfsMount device = (0, .formatted device) :=
  hformatted.synced.remount (replayStops_of_zeros hformatted.zeros)

end Formatted

/-! ### Both sides refuse the same calls -/

theorem logfsNameValid_iff {name : List UInt8} :
    logfsNameValid name = true ↔ AppendStore.ValidName name := by
  rw [logfsNameValid, AppendStore.ValidName, Bool.and_eq_true, Bool.and_eq_true, bne_iff_ne,
    decide_eq_true_eq, List.all_eq_true, and_assoc]
  refine and_congr_right fun _ => and_congr_right fun _ => ?_
  constructor
  · intro hall hmem
    simpa using hall _ hmem
  · intro hnotMem byte hbyte
    rw [bne_iff_ne]
    rintro rfl
    exact hnotMem hbyte

theorem recordSize_eq_recordLength {size : Nat} (hsize : size ≤ 480) :
    recordSize size = AppendStore.recordLength size := by
  rw [recordSize, show LogfsRecordHeader.size = 32 from rfl, logfsAlignUp_eq (by omega),
    AppendStore.recordLength]

/-! ### The simulation -/

/-- No id of `files` has reached `next`, the value `logfs_next_file_id` would have without
wrapping. -/
structure IdsBelow (files : List LogfsFileState) (nextFileId next : Nat) : Prop where
  nextFileId_eq : nextFileId = next % 2 ^ 32
  lt : ∀ file ∈ files, file.fileId < next

/-- The state implements the store, with `rest` the calls still to come. -/
structure LogfsSim (rest : List LogfsOp) (state : LogfsState) (store : AppendStore)
    (device : BlockDevice) (files : List LogfsFileState) (replayed : LogfsTables) (next : Nat) :
    Prop extends state.Synced device files replayed where
  superblock : state.superblock = mklogfsSuperblock
  zeros : ∀ address, state.logEnd ≤ address → address < 128 * 512 → device.storage address = 0
  view : state.tables.view device.storage files = store.files
  used : state.logEnd = 512 + store.used
  appends : state.tables.segments.length + rest.countP (·.isAppend) ≤ 64
  creates : next + rest.countP (·.isCreate) ≤ 2 ^ 32
  ids : IdsBelow files state.tables.nextFileId next
  replayedIds : ∃ replayedNext ≤ next, IdsBelow files replayed.nextFileId replayedNext

def LogfsRelated (rest : List LogfsOp) (state : LogfsState) (store : AppendStore) : Prop :=
  ∃ device files replayed next, LogfsSim rest state store device files replayed next

section Simulation

variable {op : LogfsOp} {rest : List LogfsOp} {state : LogfsState} {store : AppendStore}
  {device nextDevice : BlockDevice} {files : List LogfsFileState} {replayed : LogfsTables}
  {next : Nat}

theorem LogfsSim.logLimit_eq (hsim : LogfsSim rest state store device files replayed next) :
    state.superblock.logLimit = 128 * 512 := by
  rw [hsim.superblock]
  rfl

theorem LogfsSim.tail (hsim : LogfsSim (op :: rest) state store device files replayed next) :
    LogfsSim rest state store device files replayed next := by
  have happends := hsim.appends
  have hcreates := hsim.creates
  rw [List.countP_cons] at happends hcreates
  exact { hsim with appends := by omega, creates := by omega }

theorem LogfsSim.recordFits_iff (hsim : LogfsSim rest state store device files replayed next)
    {size : Nat} : state.RecordFits size ↔ size ≤ 480 ∧ store.Fits size := by
  rw [LogfsState.RecordFits, hsim.logLimit_eq, hsim.used, AppendStore.Fits]
  refine and_congr_right fun hsize => ?_
  rw [recordSize_eq_recordLength hsize]

theorem LogfsSim.createAccepted_iff (hsim : LogfsSim rest state store device files replayed next)
    {name : CString} :
    state.CreateAccepted files name ↔ AppendStore.ValidName name.bytes
      ∧ StoredFile.lookup store.files name.bytes = none ∧ store.files.length < 16
      ∧ store.Fits (name.bytes.length + 1) := by
  rw [← hsim.view, LogfsTables.lookup_view_eq_none_iff, LogfsTables.length_view,
    ← logfsNameValid_iff]
  constructor
  · intro haccept
    exact ⟨haccept.nameValid, haccept.fresh, haccept.slotFree,
      (hsim.recordFits_iff.mp haccept.recordFits).2⟩
  · rintro ⟨hvalid, hfresh, hfree, hfits⟩
    have hlength := length_of_logfsNameValid hvalid
    exact ⟨hvalid, hfresh, hfree, hsim.recordFits_iff.mpr ⟨by omega, hfits⟩⟩

/-- With room for every create to come, the next id is unused. -/
theorem LogfsSim.nextFileId_fresh
    (hsim : LogfsSim rest state store device files replayed next)
    (hcreate : 0 < rest.countP (·.isCreate)) :
    state.tables.nextFileId = next ∧ ∀ file ∈ files, file.fileId ≠ state.tables.nextFileId := by
  have hcreates := hsim.creates
  have heq : state.tables.nextFileId = next := by
    rw [hsim.ids.nextFileId_eq]
    exact Nat.mod_eq_of_lt (by omega)
  refine ⟨heq, ?_⟩
  intro file hfile
  have hlt := hsim.ids.lt file hfile
  omega

theorem LogfsSim.zeros_written (hsim : LogfsSim rest state store device files replayed next)
    {data : List UInt8} (hwritten : WrittenTo device nextDevice state.logEnd data) :
    ∀ address, state.logEnd + data.length ≤ address → address < 128 * 512 →
      nextDevice.storage address = 0 := by
  intro address hbehind hinside
  rw [hwritten.storage_eq, patch_of_le hbehind]
  exact hsim.zeros address (by omega) hinside

theorem LogfsSim.create {name : CString}
    (hsim : LogfsSim (.create name :: rest) state store device files replayed next) :
    (logfsCreate state name).1 = (store.create name.bytes).1
      ∧ LogfsRelated rest (logfsCreate state name).2 (store.create name.bytes).2 := by
  have hcount : (LogfsOp.create name :: rest).countP (·.isCreate)
      = rest.countP (·.isCreate) + 1 := by
    simp [LogfsOp.isCreate]
  have hcreates := hsim.creates
  rw [hcount] at hcreates
  rcases logfsCreate_spec hsim.toMounted.running name
    with ⟨haccept, nextDevice, hresult, hwritten⟩ | ⟨hrefuse, nextFileId, hnext, hresult⟩
  · obtain ⟨hid, hfresh⟩ := hsim.nextFileId_fresh (by omega)
    have hlength : (name.bytes ++ [0]).length = name.bytes.length + 1 := by simp
    have hrecord := length_logfsRecordBytes logfsRecordTypeCreate state.tables.nextFileId 0 0
      name.bytes.length (show (name.bytes ++ [0]).length ≤ 480 by simpa using haccept.recordFits.1)
    rw [hlength] at hrecord
    obtain ⟨replayedNext, hle, hreplayedIds⟩ := hsim.replayedIds
    have hreplayedNext : replayed.nextFileId ≤ state.tables.nextFileId := by
      rw [hreplayedIds.nextFileId_eq, Nat.mod_eq_of_lt (by omega)]
      omega
    have hsynced := hsim.toSynced.create haccept hfresh hwritten
    rw [if_pos hreplayedNext] at hsynced
    have hids : IdsBelow (files ++ [⟨⟨name.bytes, 0⟩, state.tables.nextFileId, 0, true⟩])
        ((state.tables.nextFileId + 1) % 2 ^ 32) (next + 1) := by
      refine ⟨by rw [hid], ?_⟩
      intro file hfile
      rcases List.mem_append.mp hfile with hold | hnew
      · have hlt := hsim.ids.lt file hold
        omega
      · rw [List.mem_singleton.mp hnew, ← hid]
        exact Nat.lt_succ_self _
    rw [hresult, AppendStore.create, if_pos (hsim.createAccepted_iff.mp haccept)]
    refine ⟨rfl, ?_⟩
    exact ⟨nextDevice, _, _, next + 1, {
      toSynced := hsynced
      superblock := hsim.superblock
      zeros := by
        have hzeros := hsim.zeros_written hwritten
        rw [hrecord] at hzeros
        exact hzeros
      view := by
        rw [← hsim.view]
        exact hsim.toSynced.filed.view_create _ _ hfresh hwritten
      used := by
        have hused := hsim.used
        have hsize := recordSize_eq_recordLength haccept.recordFits.1
        simp only [LogfsState.advance, LogfsState.withTables]
        omega
      appends := hsim.tail.appends
      creates := by omega
      ids := hids
      replayedIds := ⟨next + 1, le_rfl, hids⟩ }⟩
  · rw [hresult, AppendStore.create,
      if_neg fun haccept => hrefuse (hsim.createAccepted_iff.mpr haccept)]
    have hsame : ∀ nextFileId next', nextFileId < 2 ^ 32 →
        IdsBelow files nextFileId next' → next ≤ next' → next' ≤ next + 1 →
        LogfsSim rest (state.withTables { state.tables with nextFileId := nextFileId }) store
          device files replayed next' := by
      intro nextFileId next' hlt hids hle hle'
      obtain ⟨replayedNext, hreplayed, hreplayedIds⟩ := hsim.replayedIds
      exact { hsim.tail with
        toMounted := hsim.toMounted.withTables
          { hsim.toMounted.holds with files_eq := hsim.toMounted.holds.files_eq } hlt
        wf := hsim.wf.mono le_rfl rfl rfl
        creates := by omega
        ids := hids
        replayedIds := ⟨replayedNext, by omega, hreplayedIds⟩ }
    refine ⟨rfl, device, files, replayed, ?_⟩
    rcases hnext with rfl | rfl
    · exact ⟨next, hsame _ next hsim.nextFileId_lt hsim.ids le_rfl (by omega)⟩
    · refine ⟨next + 1, hsame _ (next + 1) (Nat.mod_lt _ (by decide)) ⟨?_, ?_⟩ (by omega) le_rfl⟩
      · rw [hsim.ids.nextFileId_eq, Nat.mod_add_mod]
      · intro file hfile
        exact (hsim.ids.lt file hfile).trans (Nat.lt_succ_self _)

theorem LogfsSim.lookup_ne_none_iff (hsim : LogfsSim rest state store device files replayed next)
    {name : List UInt8} :
    StoredFile.lookup store.files name ≠ none
      ↔ ∃ slot, logfsFindFileState state.tables name = some slot := by
  rw [← hsim.view]
  rcases hsim.toSynced.filed.shows.find_cases name with ⟨hfind, hlookup⟩ | ⟨slot, _, hfind, hlookup, -⟩
  · simp [hfind, hlookup]
  · simp [hfind, hlookup]

theorem LogfsSim.append {name : CString} {data : List UInt8}
    (hsim : LogfsSim (.append name data :: rest) state store device files replayed next) :
    (logfsAppend state name data).1 = (store.append name.bytes data).1
      ∧ LogfsRelated rest (logfsAppend state name data).2 (store.append name.bytes data).2 := by
  have happends := hsim.appends
  rw [List.countP_cons_of_pos (by rfl)] at happends
  rcases logfsAppend_spec hsim.toMounted.running name data
    with ⟨slot, hslot, hwrites, hname, nextDevice, hwritten, hresult⟩ | ⟨hrefuse, hresult⟩
  · have hroom : state.tables.segments.length < logfsMaxSegments := by
      rw [logfsMaxSegments]
      omega
    have hfits := hwrites.recordFits
    have hrecord := length_logfsRecordBytes logfsRecordTypeAppend files[slot].fileId
      files[slot].info.size ((files[slot].info.size + data.length) % 2 ^ 32) 0 hfits.1
    have haccept : StoredFile.lookup store.files name.bytes ≠ none ∧ data ≠ []
        ∧ data.length ≤ 480 ∧ store.Fits data.length := by
      refine ⟨hsim.lookup_ne_none_iff.mpr ⟨slot, hwrites.found⟩, ?_, hsim.recordFits_iff.mp hfits⟩
      exact List.length_pos_iff.mp hwrites.nonempty
    have hkept : ∀ nextFileId next', IdsBelow files nextFileId next' →
        IdsBelow (files.set slot (files[slot].extend data.length)) nextFileId next' := by
      intro nextFileId next' hids
      refine ⟨hids.nextFileId_eq, ?_⟩
      intro file hfile
      rcases List.mem_or_eq_of_mem_set hfile with hold | rfl
      · exact hids.lt file hold
      · exact hids.lt files[slot] (List.getElem_mem hslot)
    obtain ⟨replayedNext, hle, hreplayedIds⟩ := hsim.replayedIds
    rw [hresult, if_pos hroom, AppendStore.append, if_pos haccept]
    refine ⟨rfl, ?_⟩
    exact ⟨nextDevice, _, _, next, {
      toSynced := hsim.toSynced.append hslot hwrites hroom hwritten
      superblock := hsim.superblock
      zeros := by
        have hzeros := hsim.zeros_written hwritten
        rw [hrecord] at hzeros
        exact hzeros
      view := by
        rw [← hsim.view, ← hname]
        exact hsim.toSynced.filed.view_append hslot hfits.1 hwritten
      used := by
        have hused := hsim.used
        have hsize := recordSize_eq_recordLength hfits.1
        simp only [LogfsState.advance, LogfsState.withTables]
        omega
      appends := by
        simp only [LogfsState.withTables, LogfsTables.extendFile, List.length_append,
          List.length_singleton]
        omega
      creates := hsim.tail.creates
      ids := hkept _ _ hsim.ids
      replayedIds := ⟨replayedNext, hle, hkept _ _ hreplayedIds⟩ }⟩
  · have hrefuse' : ¬ (StoredFile.lookup store.files name.bytes ≠ none ∧ data ≠ []
        ∧ data.length ≤ 480 ∧ store.Fits data.length) := by
      rintro ⟨hfound, hdata, hfits⟩
      obtain ⟨slot, hslot⟩ := hsim.lookup_ne_none_iff.mp hfound
      exact hrefuse slot ⟨hslot, List.length_pos_iff.mpr hdata, hsim.recordFits_iff.mpr hfits⟩
    rw [hresult, AppendStore.append, if_neg hrefuse']
    exact ⟨rfl, device, files, replayed, next, hsim.tail⟩

/-- Mounting the device again rebuilds the tables, and at most moves `logfs_next_file_id` back. -/
theorem LogfsSim.mount (hsim : LogfsSim (.mount :: rest) state store device files replayed next) :
    (logfsMount device).1 = 0 ∧ LogfsRelated rest (logfsMount device).2 store := by
  have hstops : ReplayStops device.storage state.superblock.logLimit replayed state.logEnd := by
    rw [hsim.logLimit_eq]
    exact replayStops_of_zeros hsim.zeros
  obtain ⟨replayedNext, hle, hreplayedIds⟩ := hsim.replayedIds
  have hcreates := hsim.tail.creates
  rw [hsim.toSynced.remount hstops]
  refine ⟨rfl, device, files, replayed, replayedNext, ?_⟩
  exact { hsim.tail with
    toMounted := hsim.toMounted.withTables hsim.wf_replayed.toHolds (by
      rw [hreplayedIds.nextFileId_eq]
      exact Nat.mod_lt _ (by decide))
    wf := hsim.wf_replayed
    files_eq := rfl
    segments_eq := rfl
    view := by
      rw [← hsim.view]
      exact LogfsTables.view_eq_of_segments hsim.segments_eq
    appends := by
      rw [LogfsState.withTables_tables, hsim.segments_eq]
      exact hsim.tail.appends
    creates := by omega
    ids := hreplayedIds
    replayedIds := ⟨replayedNext, le_rfl, hreplayedIds⟩ }

/-- Every call answers as the store does and keeps the relation. -/
theorem LogfsRelated.step (op : LogfsOp) (rest : List LogfsOp) (state : LogfsState)
    (store : AppendStore) (hrelated : LogfsRelated (op :: rest) state store) :
    (logfsStep state op).1 = (store.step op).1
      ∧ LogfsRelated rest (logfsStep state op).2 (store.step op).2 := by
  obtain ⟨device, files, replayed, next, hsim⟩ := hrelated
  have hshows := hsim.toSynced.filed.shows
  have hquery : LogfsRelated rest state store := ⟨device, files, replayed, next, hsim.tail⟩
  cases op with
  | create name =>
      obtain ⟨hcode, hnext⟩ := hsim.create
      exact ⟨congrArg LogfsReply.status hcode, hnext⟩
  | append name data =>
      obtain ⟨hcode, hnext⟩ := hsim.append
      exact ⟨congrArg LogfsReply.status hcode, hnext⟩
  | stat name =>
      refine ⟨?_, hquery⟩
      simp only [logfsStep, AppendStore.step, hshows.stat_eq, hsim.view]
  | getFile index =>
      refine ⟨?_, hquery⟩
      simp only [logfsStep, AppendStore.step, hshows.getFile_eq, hsim.view]
  | fileCount =>
      refine ⟨?_, hquery⟩
      simp only [logfsStep, AppendStore.step, hshows.fileCount_eq, hsim.view]
  | readFile name maxSize =>
      refine ⟨?_, hquery⟩
      simp only [logfsStep, AppendStore.step, hshows.readFile_eq, hsim.view]
  | readFilePart name offset size =>
      refine ⟨?_, hquery⟩
      simp only [logfsStep, AppendStore.step, hshows.readFilePart_eq, hsim.view]
  | mount =>
      obtain ⟨hcode, hnext⟩ := hsim.mount
      rw [logfsStep, hsim.blockDevice_eq]
      exact ⟨congrArg LogfsReply.status hcode, hnext⟩

end Simulation

theorem BlockDevice.Formatted.related {device : BlockDevice} (hformatted : device.Formatted)
    {ops : List LogfsOp} (happends : ops.countP (·.isAppend) ≤ 64)
    (hcreates : ops.countP (·.isCreate) < 2 ^ 32) :
    LogfsRelated ops (.formatted device) .empty :=
  ⟨device, [], .empty, 1, {
    toSynced := hformatted.synced
    superblock := rfl
    zeros := hformatted.zeros
    view := rfl
    used := rfl
    appends := by simpa [LogfsState.formatted, LogfsTables.empty] using happends
    creates := by omega
    ids := ⟨rfl, by simp⟩
    replayedIds := ⟨1, le_rfl, rfl, by simp⟩ }⟩

/-- LogFS on a fresh image answers every run of calls, remounts included, as the append-only store
does, as long as the run appends at most 64 times and creates fewer than 2^32 times. -/
theorem logfs_run_eq_store_run (device : BlockDevice) (hformatted : device.Formatted)
    (ops : List LogfsOp) (happends : ops.countP (·.isAppend) ≤ logfsMaxSegments)
    (hcreates : ops.countP (·.isCreate) < 2 ^ 32) :
    (logfsMount device).1 = 0
      ∧ (Machine.run logfsStep (logfsMount device).2 ops).1
        = (Machine.run AppendStore.step .empty ops).1 := by
  rw [hformatted.mount]
  refine ⟨rfl, ?_⟩
  exact (Machine.run_simulation LogfsRelated.step (hformatted.related happends hcreates)).1

/-- A device of 128 blocks with a fresh image. -/
def mklogfsDevice : BlockDevice := ⟨512, 128, mklogfsImage, []⟩

theorem mklogfsDevice_formatted : mklogfsDevice.Formatted :=
  ⟨rfl, le_rfl, fun _ _ => rfl⟩

def nameA : CString := ⟨[0x61], by decide, by decide⟩

theorem logfs_run_with_remount :
    (Machine.run logfsStep (logfsMount mklogfsDevice).2
        [.create nameA, .append nameA [1, 2, 3], .mount, .readFilePart nameA 1 5, .fileCount]).1
      = [.status 0, .status 0, .status 0, .bytes 2 [2, 3], .count 1] := by
  rw [(logfs_run_eq_store_run mklogfsDevice mklogfsDevice_formatted _ (by decide) (by decide)).2]
  decide

end DuckOs

import DuckOs.Proof.LogfsDurability

/-!
# Power cuts

A power cut in the middle of a call leaves the first bytes of its record on disk, with zeros behind
them. A torn create record is replayed only if its whole header was written, a torn append record only
if the file id, the payload size and the old file size were; in both cases the record has its full
length and the log ends behind it.
-/

namespace DuckOs

open ByteStore

/-- Every prefix of a call's block writes leaves a prefix of the record. -/
theorem WrittenTo.cutAfter_storage {device after : BlockDevice} {offset : Nat} {data : List UInt8}
    (hwritten : WrittenTo device after offset data) (count : Nat) :
    ∃ kept, (device.cutAfter after count).storage = patch device.storage offset (data.take kept) := by
  obtain ⟨added, hadded, hprefix⟩ := hwritten.writes_eq
  obtain ⟨kept, hkept⟩ := hprefix count
  refine ⟨kept, ?_⟩
  rw [BlockDevice.cutAfter, hadded, List.drop_left]
  exact hkept

def BlockDevice.SameShape (left right : BlockDevice) : Prop :=
  left.blockSize = right.blockSize ∧ left.blockCount = right.blockCount

theorem sameShape_cutAfter {device after : BlockDevice} (count : Nat) :
    (device.cutAfter after count).SameShape device :=
  ⟨rfl, rfl⟩

/-! ### Torn records -/

section Torn

variable {state : LogfsState} {device : BlockDevice} {files : List LogfsFileState}
  {replayed next : LogfsTables} {kept lastEnd : Nat}

/-- What a tear leaves of a word: its low bytes, all of them if the tear is behind the word. -/
theorem torn_word_eq {value : Nat} (hvalue : value < 2 ^ 32) {position : Nat}
    (hbehind : position + 4 ≤ kept) : value % 256 ^ (kept - position) = value := by
  apply Nat.mod_eq_of_lt
  calc
    value < 2 ^ 32 := hvalue
    _ = 256 ^ 4 := by norm_num
    _ ≤ 256 ^ (kept - position) := Nat.pow_le_pow_right (by decide) (by omega)

theorem torn_word_eq_zero {value position : Nat} (hbefore : kept ≤ position) :
    value % 256 ^ (kept - position) = 0 := by
  rw [Nat.sub_eq_zero_of_le hbefore, pow_zero, Nat.mod_one]

theorem headerAt_torn {store : Store} {offset : Nat} {header : LogfsRecordHeader}
    (hfits : header.Fits) (hslice : slice store offset 32 = torn header.toBytes kept) :
    headerAt store offset
      = ⟨header.magic % 256 ^ kept, header.type % 256 ^ (kept - 4),
        header.fileId % 256 ^ (kept - 8), header.payloadSize % 256 ^ (kept - 12),
        header.fileSizeBefore % 256 ^ (kept - 16), header.fileSizeAfter % 256 ^ (kept - 20),
        header.checksum % 256 ^ (kept - 24), header.nameLength % 256 ^ (kept - 28)⟩ := by
  have hwhole := LogfsRecordHeader.ofBytes_toBytes hfits
  have hword : ∀ position, position + 4 ≤ 32 → field (torn header.toBytes kept) position 4
      = field header.toBytes position 4 % 256 ^ (kept - position) := by
    intro position hinside
    exact field_torn kept (by simpa using hinside)
  rw [headerAt, hslice, LogfsRecordHeader.ofBytes, hword 0 (by decide), hword 4 (by decide),
    hword 8 (by decide), hword 12 (by decide), hword 16 (by decide), hword 20 (by decide),
    hword 24 (by decide), hword 28 (by decide), Nat.sub_zero]
  rw [LogfsRecordHeader.ofBytes] at hwhole
  generalize field header.toBytes 0 4 = magic at hwhole ⊢
  generalize field header.toBytes 4 4 = type at hwhole ⊢
  generalize field header.toBytes 8 4 = fileId at hwhole ⊢
  generalize field header.toBytes 12 4 = payloadSize at hwhole ⊢
  generalize field header.toBytes 16 4 = fileSizeBefore at hwhole ⊢
  generalize field header.toBytes 20 4 = fileSizeAfter at hwhole ⊢
  generalize field header.toBytes 24 4 = checksum at hwhole ⊢
  generalize field header.toBytes 28 4 = nameLength at hwhole ⊢
  rw [← hwhole]

theorem headerAt_cut (kept : Nat) {store : Store} {offset type fileId before after nameLength : Nat}
    {payload : List UInt8} (hpayload : payload.length ≤ 480)
    (hzeros : ∀ index < recordSize payload.length, store (offset + index) = 0)
    (hfits : (writtenHeader type fileId before after nameLength payload).Fits) :
    headerAt (patch store offset
        ((logfsRecordBytes type fileId before after nameLength payload).take kept)) offset
      = ⟨logfsRecordMagic % 256 ^ kept, type % 256 ^ (kept - 4), fileId % 256 ^ (kept - 8),
        payload.length % 256 ^ (kept - 12), before % 256 ^ (kept - 16), after % 256 ^ (kept - 20),
        (writtenHeader type fileId before after nameLength payload).checksum % 256 ^ (kept - 24),
        nameLength % 256 ^ (kept - 28)⟩ := by
  have hbounds := recordSize_bounds hpayload
  have hlength := length_logfsRecordBytes type fileId before after nameLength hpayload
  have hwhole : slice (patch store offset
        ((logfsRecordBytes type fileId before after nameLength payload).take kept)) offset
        (logfsRecordBytes type fileId before after nameLength payload).length
      = torn (logfsRecordBytes type fileId before after nameLength payload) kept := by
    apply slice_patch_take
    rw [hlength]
    exact hzeros
  have htake : (logfsRecordBytes type fileId before after nameLength payload).take 32
      = (writtenHeader type fileId before after nameLength payload).toBytes := by
    rw [logfsRecordBytes_eq, List.append_assoc, List.take_left' (by simp)]
  have hslice := congrArg (List.take 32) hwhole
  rw [hlength, take_slice, Nat.min_eq_left (by omega), take_torn kept (by omega), htake] at hslice
  exact headerAt_torn hfits hslice

/-- A torn create record that is replayed has its full length and adds a file. -/
theorem replayAt_cut_create {store : Store} {limit offset fileId start stop : Nat}
    {name : List UInt8} (hwf : replayed.Wf files start stop) (hvalid : logfsNameValid name = true)
    (hid : fileId < 2 ^ 32)
    (hzeros : ∀ index < recordSize (name.length + 1), store (offset + index) = 0)
    (hreplay : replayAt (patch store offset
        ((logfsRecordBytes logfsRecordTypeCreate fileId 0 0 name.length (name ++ [0])).take kept))
      limit replayed offset = .replayed next lastEnd) :
    lastEnd = offset + recordSize (name.length + 1)
      ∧ ∃ newName newId nextFileId, logfsNameValid newName = true ∧ 0 ∉ newName
        ∧ (∀ file ∈ files, file.info.name ≠ newName) ∧ (∀ file ∈ files, file.fileId ≠ newId)
        ∧ newId < 2 ^ 32 ∧ files.length < logfsMaxFiles
        ∧ next = replayed.addFile files.length newName newId nextFileId := by
  have hlength := length_of_logfsNameValid hvalid
  have hpayload : (name ++ [0]).length = name.length + 1 := by simp
  obtain ⟨-, -, hend, -, -, happly⟩ := replayAt_eq_replayed_iff.mp hreplay
  have hheader := headerAt_cut kept (by rw [hpayload]; omega) (by rwa [hpayload])
    (writtenHeader_create_fits hvalid hid)
  rw [hheader] at hend happly
  simp only [hpayload] at hend happly
  generalize slice _ (offset + 32) ((name.length + 1) % 256 ^ (kept - 12)) = payload at happly
  rw [applyRecord] at happly
  have htype : logfsRecordTypeCreate % 256 ^ (kept - 4) ≤ 1 := Nat.mod_le _ _
  split_ifs at happly with hcreate happend
  · obtain ⟨hpos, -, -, -, hnewValid, hnames, hids, hfree, rfl⟩ :=
      (logfsReplayCreate_eq_some_iff hwf.toHolds).mp happly
    simp only at hpos
    have hkept : 28 < kept := by
      by_contra hbefore
      rw [torn_word_eq_zero (by omega)] at hpos
      omega
    rw [torn_word_eq (by omega) (by omega)] at hend
    exact ⟨hend, _, _, _, hnewValid, CString.zero_notMem_scan _, hnames, hids,
      (Nat.mod_le _ _).trans_lt hid, hfree, rfl⟩
  · simp only [logfsRecordTypeAppend] at happend
    omega

/-- A torn append record that is replayed has its full length and extends its own file. -/
theorem replayAt_cut_append {store : Store} {limit offset slot start stop : Nat}
    {data : List UInt8} (hwf : replayed.Wf files start stop) (hslot : slot < files.length)
    (hdata : data.length ≤ 480)
    (hzeros : ∀ index < recordSize data.length, store (offset + index) = 0)
    (hreplay : replayAt (patch store offset
        ((logfsRecordBytes logfsRecordTypeAppend files[slot].fileId files[slot].info.size
          ((files[slot].info.size + data.length) % 2 ^ 32) 0 data).take kept))
      limit replayed offset = .replayed next lastEnd) :
    lastEnd = offset + recordSize data.length ∧ 0 < data.length
      ∧ replayed.segments.length < logfsMaxSegments
      ∧ next = replayed.extendFile slot data.length (offset + 32) := by
  have hmem : files[slot] ∈ files := List.getElem_mem hslot
  have hsize := hwf.size_le hmem
  obtain ⟨-, -, hend, -, -, happly⟩ := replayAt_eq_replayed_iff.mp hreplay
  have hheader := headerAt_cut kept hdata hzeros
    (writtenHeader_append_fits hwf hslot hdata)
  rw [hheader] at hend happly
  simp only at hend happly
  generalize slice _ (offset + 32) (data.length % 256 ^ (kept - 12)) = payload at happly
  rw [applyRecord] at happly
  split_ifs at happly with hcreate happend
  · exfalso
    have htype : ∀ count, 2 % 256 ^ count ≠ 1 := by
      intro count
      cases count with
      | zero => decide
      | succ count =>
          have hpos : 0 < 256 ^ count := Nat.pow_pos (by decide)
          rw [Nat.mod_eq_of_lt (by rw [pow_succ]; omega)]
          decide
    exact htype _ hcreate
  · obtain ⟨slot', hslot', hid, hpos, hbefore, hafter, hroom, rfl⟩ :=
      (logfsReplayAppend_eq_some_iff hwf).mp happly
    simp only at hid hpos hbefore hafter
    have hkept : 20 < kept := by
      by_contra hearly
      have hle := Nat.mod_le files[slot].info.size (256 ^ (kept - 16))
      have hle' := Nat.mod_le data.length (256 ^ (kept - 12))
      rw [torn_word_eq_zero (by omega)] at hafter
      omega
    have hlength : data.length % 256 ^ (kept - 12) = data.length :=
      torn_word_eq (by omega) (by omega)
    rw [torn_word_eq (hwf.ids_lt _ hmem) (by omega)] at hid
    have hsame : slot' = slot := by
      exact hwf.slot_of_id hslot' hslot hid
    rw [hlength] at hend hpos
    exact ⟨hend, hpos, hroom, by rw [hlength, hsame]⟩

end Torn

/-! ### What a remount recovers -/

/-- Every file is still there, its bytes are a prefix of the recovered ones, and only the target may
have grown. -/
def Keeps (former recovered : List StoredFile) (target : Option (List UInt8)) : Prop :=
  ∀ name file, StoredFile.lookup former name = some file →
    ∃ file', StoredFile.lookup recovered name = some file' ∧ file.bytes <+: file'.bytes
      ∧ (target ≠ some name → file' = file)

theorem Keeps.refl (files : List StoredFile) (target : Option (List UInt8)) :
    Keeps files files target :=
  fun _ file hlookup => ⟨file, hlookup, List.prefix_rfl, fun _ => rfl⟩

theorem Keeps.add (files : List StoredFile) (added : StoredFile) (target : Option (List UInt8)) :
    Keeps files (files ++ [added]) target := by
  intro name file hlookup
  refine ⟨file, ?_, List.prefix_rfl, fun _ => rfl⟩
  rw [StoredFile.lookup] at hlookup ⊢
  rw [List.find?_append, hlookup]
  rfl

theorem Keeps.extend (files : List StoredFile) (name data : List UInt8) :
    Keeps files (files.map fun file =>
      if file.name = name then { file with bytes := file.bytes ++ data } else file) (some name) := by
  intro other file hlookup
  have hname : file.name = other := by
    have hfound := List.find?_some hlookup
    simpa using hfound
  rw [lookup_map_extend, hlookup, Option.map_some]
  refine ⟨_, rfl, ?_, ?_⟩
  · split
    · exact List.prefix_append _ _
    · exact List.prefix_rfl
  · intro htarget
    rw [if_neg]
    rintro rfl
    exact htarget (by rw [hname])

section Cut

variable {state : LogfsState} {device crashed after : BlockDevice} {files : List LogfsFileState}
  {replayed : LogfsTables}

/-- The state after mounting `crashed`, which replayed to `tables`. -/
def LogfsState.recovered (state : LogfsState) (crashed : BlockDevice) (tables : LogfsTables)
    (logEnd : Nat) : LogfsState :=
  { state with blockDevice := some crashed, tables := tables, logEnd := logEnd }

/-- Mounting a device on which the log is intact up to the old log end, and then replays to `last`. -/
theorem LogfsState.Synced.mount_crashed (hsynced : state.Synced device files replayed)
    (hshape : crashed.SameShape device) (hagree : AgreeBelow state.logEnd crashed.storage device.storage) {last : LogfsTables}
    {lastEnd : Nat}
    (hreplay : ReplayTo crashed.storage state.superblock.logLimit replayed state.logEnd last lastEnd)
    (hstops : ReplayStops crashed.storage state.superblock.logLimit last lastEnd) :
    logfsMount crashed = (0, state.recovered crashed last lastEnd) := by
  refine (hsynced.toMounted.onDevice hshape.1 hshape.2 hagree).remount ?_ hstops
  exact (hsynced.replay.agree hagree).trans hreplay

theorem LogfsState.Synced.view_crashed (hsynced : state.Synced device files replayed)
    (hagree : AgreeBelow state.logEnd crashed.storage device.storage) :
    replayed.view crashed.storage files = state.tables.view device.storage files := by
  rw [hsynced.wf_replayed.view_congr fun address haddress => hagree address (by omega),
    LogfsTables.view_eq_of_segments hsynced.segments_eq]

/-- What survives a power cut on a log that replays to the tables. -/
def LogfsState.Survives (state : LogfsState) (device crashed : BlockDevice)
    (files : List LogfsFileState) (target : Option (List UInt8)) : Prop :=
  ∃ mounted recovered start stop, logfsMount crashed = (0, mounted)
    ∧ mounted.Shows crashed recovered start stop
    ∧ Keeps (state.tables.view device.storage files)
      (mounted.tables.view crashed.storage recovered) target

/-- If no further record is replayed, everything is as before. -/
theorem LogfsState.Synced.survives_of_stops (hsynced : state.Synced device files replayed)
    (hshape : crashed.SameShape device) (hagree : AgreeBelow state.logEnd crashed.storage device.storage)
    (hstops : ReplayStops crashed.storage state.superblock.logLimit replayed state.logEnd)
    (target : Option (List UInt8)) : state.Survives device crashed files target := by
  have hmounted := hsynced.toMounted.onDevice hshape.1 hshape.2 hagree
  have hshows : (state.recovered crashed replayed state.logEnd).Shows crashed files
      state.superblock.logOffset (min state.logEnd state.superblock.logLimit) :=
    ⟨hmounted.ready, rfl, hmounted.usable, hsynced.wf_replayed,
      (Nat.min_le_right _ _).trans hmounted.logLimit_le⟩
  have hkeeps : Keeps (state.tables.view device.storage files)
      (replayed.view crashed.storage files) target := by
    rw [hsynced.view_crashed hagree]
    exact Keeps.refl _ _
  exact ⟨_, _, _, _, hsynced.mount_crashed hshape hagree (.refl _ _) hstops, hshows, hkeeps⟩

theorem zeros_cut {data : List UInt8} {size limit logEnd kept : Nat} {store : Store}
    (hlength : data.length = size)
    (hzeros : ∀ address, logEnd ≤ address → address < limit → store address = 0) :
    ∀ address, logEnd + size ≤ address → address < limit →
      patch store logEnd (data.take kept) address = 0 := by
  intro address hbehind hinside
  rw [patch_of_le (by rw [List.length_take]; omega)]
  exact hzeros address (by omega) hinside

theorem LogfsState.Synced.survives_create (hsynced : state.Synced device files replayed)
    (hzeros : ∀ address, state.logEnd ≤ address → address < state.superblock.logLimit →
      device.storage address = 0)
    {name : CString} (haccept : state.CreateAccepted files name)
    (hwritten : WrittenTo device after state.logEnd
      (logfsRecordBytes logfsRecordTypeCreate state.tables.nextFileId 0 0 name.bytes.length
        (name.bytes ++ [0]))) (count : Nat) :
    state.Survives device (device.cutAfter after count) files none := by
  have hpayload : (name.bytes ++ [0]).length = name.bytes.length + 1 := by simp
  have hroom := haccept.recordFits.2
  have hlength := length_logfsRecordBytes logfsRecordTypeCreate state.tables.nextFileId 0 0
    name.bytes.length (show (name.bytes ++ [0]).length ≤ 480 by simpa using haccept.recordFits.1)
  rw [hpayload] at hlength
  obtain ⟨kept, hkept⟩ := hwritten.cutAfter_storage count
  have hagree : AgreeBelow state.logEnd (device.cutAfter after count).storage device.storage := by
    rw [hkept]
    exact agreeBelow_patch
  by_cases hstops : ReplayStops (device.cutAfter after count).storage state.superblock.logLimit
      replayed state.logEnd
  · exact hsynced.survives_of_stops (sameShape_cutAfter count) hagree hstops none
  simp only [ReplayStops, not_forall, not_not] at hstops
  obtain ⟨next, lastEnd, hreplay⟩ := hstops
  have hcut := hreplay
  rw [hkept] at hcut
  obtain ⟨rfl, newName, newId, nextFileId, hvalid, hnul, hnames, hids, hlt, hfree, rfl⟩ :=
    replayAt_cut_create hsynced.wf_replayed haccept.nameValid hsynced.nextFileId_lt
      (fun index hindex => hzeros _ (by omega) (by omega)) hcut
  have hmounted : (state.onDevice (device.cutAfter after count)).Mounted
      (device.cutAfter after count) files := hsynced.toMounted.onDevice rfl rfl hagree
  have hwf := hsynced.wf_replayed.addFile hfree hvalid hnul hnames hids hlt nextFileId
  have hstops : ReplayStops (device.cutAfter after count).storage state.superblock.logLimit
      (replayed.addFile files.length newName newId nextFileId)
      (state.logEnd + recordSize (name.bytes.length + 1)) := by
    rw [hkept]
    exact replayStops_of_zeros (zeros_cut hlength hzeros)
  have hshows : (state.recovered (device.cutAfter after count)
      (replayed.addFile files.length newName newId nextFileId)
      (state.logEnd + recordSize (name.bytes.length + 1))).Shows (device.cutAfter after count)
      (files ++ [⟨⟨newName, 0⟩, newId, 0, true⟩]) state.superblock.logOffset
      (min state.logEnd state.superblock.logLimit) :=
    ⟨hmounted.ready, rfl, hmounted.usable, hwf,
      (Nat.min_le_right _ _).trans hmounted.logLimit_le⟩
  have hkeeps : Keeps (state.tables.view device.storage files)
      ((replayed.addFile files.length newName newId nextFileId).view
        (device.cutAfter after count).storage (files ++ [⟨⟨newName, 0⟩, newId, 0, true⟩])) none := by
    rw [hsynced.wf_replayed.view_addFile hids, hsynced.view_crashed hagree]
    exact Keeps.add _ _ _
  exact ⟨_, _, _, _, hsynced.mount_crashed (sameShape_cutAfter count) hagree
    (.step hreplay (.refl _ _)) hstops, hshows, hkeeps⟩

theorem LogfsState.Synced.survives_append (hsynced : state.Synced device files replayed)
    (hzeros : ∀ address, state.logEnd ≤ address → address < state.superblock.logLimit →
      device.storage address = 0)
    {slot : Nat} (hslot : slot < files.length) {data : List UInt8}
    (hfits : state.RecordFits data.length)
    (hwritten : WrittenTo device after state.logEnd
      (logfsRecordBytes logfsRecordTypeAppend files[slot].fileId files[slot].info.size
        ((files[slot].info.size + data.length) % 2 ^ 32) 0 data)) (count : Nat) :
    state.Survives device (device.cutAfter after count) files (some files[slot].info.name) := by
  have hroom := hfits.2
  have hbounds := recordSize_bounds hfits.1
  have hlength := length_logfsRecordBytes logfsRecordTypeAppend files[slot].fileId
    files[slot].info.size ((files[slot].info.size + data.length) % 2 ^ 32) 0 hfits.1
  obtain ⟨kept, hkept⟩ := hwritten.cutAfter_storage count
  have hagree : AgreeBelow state.logEnd (device.cutAfter after count).storage device.storage := by
    rw [hkept]
    exact agreeBelow_patch
  by_cases hstops : ReplayStops (device.cutAfter after count).storage state.superblock.logLimit
      replayed state.logEnd
  · exact hsynced.survives_of_stops (sameShape_cutAfter count) hagree hstops _
  simp only [ReplayStops, not_forall, not_not] at hstops
  obtain ⟨next, lastEnd, hreplay⟩ := hstops
  have hcut := hreplay
  rw [hkept] at hcut
  obtain ⟨rfl, hpos, hsegments, rfl⟩ :=
    replayAt_cut_append hsynced.wf_replayed hslot hfits.1
      (fun index hindex => hzeros _ (by omega) (by omega)) hcut
  have hmounted : (state.onDevice (device.cutAfter after count)).Mounted
      (device.cutAfter after count) files := hsynced.toMounted.onDevice rfl rfl hagree
  have hstart := hsynced.logOffset_le
  have hwf := hsynced.wf_replayed.extendFile hslot hpos hfits.1 hsegments
    (show state.superblock.logOffset ≤ state.logEnd + 32 by omega)
    (show state.logEnd + 32 + data.length ≤ state.superblock.logLimit by omega)
    (Nat.min_le_right _ _)
  have hstops : ReplayStops (device.cutAfter after count).storage state.superblock.logLimit
      (replayed.extendFile slot data.length (state.logEnd + 32))
      (state.logEnd + recordSize data.length) := by
    rw [hkept]
    exact replayStops_of_zeros (zeros_cut hlength hzeros)
  have hshows : (state.recovered (device.cutAfter after count)
      (replayed.extendFile slot data.length (state.logEnd + 32))
      (state.logEnd + recordSize data.length)).Shows (device.cutAfter after count)
      (files.set slot (files[slot].extend data.length)) state.superblock.logOffset
      state.superblock.logLimit :=
    ⟨hmounted.ready, rfl, hmounted.usable, hwf, hmounted.logLimit_le⟩
  have hkeeps : Keeps (state.tables.view device.storage files)
      ((replayed.extendFile slot data.length (state.logEnd + 32)).view
        (device.cutAfter after count).storage (files.set slot (files[slot].extend data.length)))
      (some files[slot].info.name) := by
    rw [hsynced.wf_replayed.view_extendFile hslot, hsynced.view_crashed hagree]
    exact Keeps.extend _ _ _
  exact ⟨_, _, _, _, hsynced.mount_crashed (sameShape_cutAfter count) hagree
    (.step hreplay (.refl _ _)) hstops, hshows, hkeeps⟩

theorem cutAfter_self_storage (count : Nat) :
    (device.cutAfter device count).storage = device.storage := by
  simp [BlockDevice.cutAfter]

theorem LogfsState.Synced.survives (hsynced : state.Synced device files replayed)
    (hzeros : ∀ address, state.logEnd ≤ address → address < state.superblock.logLimit →
      device.storage address = 0)
    (write : LogfsWrite) (hafter : (logfsWriteStep state write).2.blockDevice = some after)
    (count : Nat) :
    state.Survives device (device.cutAfter after count) files write.target := by
  have hrefused : ∀ target, state.Survives device (device.cutAfter device count) files target := by
    intro target
    refine hsynced.survives_of_stops (sameShape_cutAfter count) ?_ ?_ target
    · rw [cutAfter_self_storage]
      exact fun _ _ => rfl
    · rw [cutAfter_self_storage]
      exact replayStops_of_zeros hzeros
  cases write with
  | create name =>
      simp only [logfsWriteStep] at hafter
      rcases logfsCreate_spec hsynced.toMounted.running name
        with ⟨haccept, nextDevice, hresult, hwritten⟩ | ⟨-, nextFileId, -, hresult⟩
      · rw [hresult] at hafter
        cases hafter
        exact hsynced.survives_create hzeros haccept hwritten count
      · rw [hresult] at hafter
        cases hsynced.blockDevice_eq.symm.trans hafter
        exact hrefused _
  | append name data =>
      simp only [logfsWriteStep] at hafter
      rcases logfsAppend_spec hsynced.toMounted.running name data
        with ⟨slot, hslot, hwrites, hname, nextDevice, hwritten, hresult⟩ | ⟨-, hresult⟩
      · have hnext : nextDevice = after := by
          rw [hresult] at hafter
          split at hafter <;> exact Option.some.inj hafter
        subst hnext
        rw [LogfsWrite.target, ← hname]
        exact hsynced.survives_append hzeros hslot hwrites.recordFits hwritten count
      · rw [hresult] at hafter
        cases hsynced.blockDevice_eq.symm.trans hafter
        exact hrefused _

/-- Below the log end a power cut changes nothing. -/
theorem LogfsState.Mounted.cutAfter_agree (hmounted : state.Mounted device files)
    (write : LogfsWrite) (hafter : (logfsWriteStep state write).2.blockDevice = some after)
    (count : Nat) :
    AgreeBelow state.logEnd (device.cutAfter after count).storage device.storage := by
  have hwritten : ∃ data, WrittenTo device after state.logEnd data := by
    cases write with
    | create name =>
        simp only [logfsWriteStep] at hafter
        rcases logfsCreate_spec hmounted.running name
          with ⟨-, nextDevice, hresult, hwritten⟩ | ⟨-, nextFileId, -, hresult⟩
        · rw [hresult] at hafter
          cases hafter
          exact ⟨_, hwritten⟩
        · rw [hresult] at hafter
          cases hmounted.blockDevice_eq.symm.trans hafter
          exact ⟨[], WrittenTo.nil device _⟩
    | append name data =>
        simp only [logfsWriteStep] at hafter
        rcases logfsAppend_spec hmounted.running name data
          with ⟨slot, hslot, -, -, nextDevice, hwritten, hresult⟩ | ⟨-, hresult⟩
        · have hnext : nextDevice = after := by
            rw [hresult] at hafter
            split at hafter <;> exact Option.some.inj hafter
          subst hnext
          exact ⟨_, hwritten⟩
        · rw [hresult] at hafter
          cases hmounted.blockDevice_eq.symm.trans hafter
          exact ⟨[], WrittenTo.nil device _⟩
  obtain ⟨data, hwritten⟩ := hwritten
  obtain ⟨kept, hkept⟩ := hwritten.cutAfter_storage count
  rw [hkept]
  exact agreeBelow_patch

/-- Reading off the queries what the views say. -/
theorem keepsFiles_of_keeps {before mounted : LogfsState} {former recovered : List LogfsFileState}
    {start stop start' stop' : Nat} {target : Option (List UInt8)}
    (hbefore : before.Shows device former start stop)
    (hmounted : mounted.Shows crashed recovered start' stop')
    (hkeeps : Keeps (before.tables.view device.storage former)
      (mounted.tables.view crashed.storage recovered) target) :
    LogfsKeepsFiles before mounted target := by
  intro name info hstat
  rw [hbefore.stat_eq, Option.map_eq_some_iff] at hstat
  obtain ⟨file, hlookup, rfl⟩ := hstat
  obtain ⟨file', hlookup', hprefix, hsame⟩ := hkeeps name.bytes file hlookup
  have hname : file.name = name.bytes := by simpa using List.find?_some hlookup
  have hname' : file'.name = name.bytes := by simpa using List.find?_some hlookup'
  refine ⟨file.bytes, file'.bytes, by rw [StoredFile.info, hname], ?_, ?_, ?_, hprefix,
    fun htarget => by rw [hsame htarget]⟩
  · simp [hbefore.readFile_eq, StoredFile.read, hlookup]
  · simp [hmounted.stat_eq, hlookup', StoredFile.info, hname']
  · simp [hmounted.readFile_eq, StoredFile.read, hlookup']

/-- A halted log is recovered as it would have been before the call. -/
theorem LogfsState.Halted.keepsFiles {recovered : List LogfsFileState} {start stop stopEnd : Nat}
    (hhalted : state.Halted device replayed recovered start stop stopEnd)
    (hsame : LogfsSameFiles (logfsMount device).2 state) (hshape : crashed.SameShape device)
    (hagree : AgreeBelow state.logEnd crashed.storage device.storage)
    (target : Option (List UInt8)) :
    (logfsMount crashed).1 = 0 ∧ LogfsKeepsFiles state (logfsMount crashed).2 target := by
  obtain ⟨files, hmounted⟩ := hhalted.mounted
  have hcrashed := hmounted.onDevice hshape.1 hshape.2 hagree
  obtain ⟨hreplay, hstops⟩ := hhalted.stuck device.storage fun _ _ => rfl
  obtain ⟨hreplay', hstops'⟩ := hhalted.stuck crashed.storage hagree
  have hmount := hmounted.remount hreplay hstops
  have hmount' := hcrashed.remount hreplay' hstops'
  have hkeeps : LogfsKeepsFiles { state with tables := replayed, logEnd := stopEnd }
      { state.onDevice crashed with tables := replayed, logEnd := stopEnd } target := keepsFiles_of_keeps
    ⟨hmounted.ready, hmounted.blockDevice_eq, hmounted.usable, hhalted.wf,
      hhalted.stop_limit.trans hmounted.logLimit_le⟩
    ⟨hcrashed.ready, hcrashed.blockDevice_eq, hcrashed.usable, hhalted.wf,
      hhalted.stop_limit.trans hcrashed.logLimit_le⟩
    (by
      change Keeps (replayed.view device.storage recovered)
        (replayed.view crashed.storage recovered) target
      rw [hhalted.wf.view_congr fun address haddress =>
        hagree address (haddress.trans_le hhalted.stop_le)]
      exact Keeps.refl _ _)
  rw [hmount] at hsame
  rw [hmount']
  refine ⟨rfl, ?_⟩
  intro name info hstat
  rw [← (hsame name).1] at hstat
  obtain ⟨former, recovered, hinfo, hread, hrest⟩ := hkeeps name info hstat
  exact ⟨former, recovered, hinfo, by rw [← (hsame name).2]; exact hread, hrest⟩

end Cut

/-- Power cuts are harmless: take a mounted state that a remount of its device reproduces, with
nothing but zeros behind the log. Whichever create or append is under way and however many of its
block writes have happened, mounting the device succeeds, every file is there with its former contents
as a prefix, and only the file appended to can have grown. -/
theorem logfs_keepsFiles_of_power_cut (state : LogfsState) (hreachable : LogfsReachable state)
    (device : BlockDevice) (hdevice : state.blockDevice = some device)
    (hsame : LogfsSameFiles (logfsMount device).2 state)
    (hzeros : ∀ address, state.logEnd ≤ address → address < state.superblock.logLimit →
      device.storage address = 0)
    (write : LogfsWrite) (after : BlockDevice)
    (hafter : (logfsWriteStep state write).2.blockDevice = some after) (count : Nat) :
    (logfsMount (device.cutAfter after count)).1 = 0
      ∧ LogfsKeepsFiles state (logfsMount (device.cutAfter after count)).2 write.target := by
  obtain ⟨other, ⟨files, replayed, hsynced⟩ | ⟨_, _, _, _, _, hhalted⟩⟩ := hreachable.tracked
  · cases hsynced.blockDevice_eq.symm.trans hdevice
    obtain ⟨mounted, recovered, start, stop, hmount, hshows, hkeeps⟩ :=
      hsynced.survives hzeros write hafter count
    rw [hmount]
    exact ⟨rfl, keepsFiles_of_keeps hsynced.filed.shows hshows hkeeps⟩
  · obtain ⟨files, hmounted⟩ := hhalted.mounted
    cases hmounted.blockDevice_eq.symm.trans hdevice
    exact hhalted.keepsFiles hsame (sameShape_cutAfter count)
      (hmounted.cutAfter_agree write hafter count) _

/-- A remount of an intact log answers every query as before. -/
theorem LogfsIntact.sameFiles {state : LogfsState} {history : List (LogfsWrite × Int)}
    {device : BlockDevice} {files : List LogfsFileState} {replayed : LogfsTables}
    (hintact : LogfsIntact state history device files replayed) :
    LogfsSameFiles (logfsMount device).2 state := by
  have hshows := hintact.toSynced.filed.shows
  have hremount : (state.withTables replayed).Shows device files state.superblock.logOffset
      (min state.logEnd state.superblock.logLimit) :=
    ⟨hintact.ready, hintact.blockDevice_eq, hintact.usable, hintact.wf_replayed, hshows.stop_le⟩
  have hview : (state.withTables replayed).tables.view device.storage files
      = state.tables.view device.storage files :=
    LogfsTables.view_eq_of_segments hintact.segments_eq
  rw [hintact.toSynced.remount (replayStops_of_zeros hintact.zeros)]
  intro name
  refine ⟨?_, fun maxSize => ?_⟩
  · rw [hremount.stat_eq, hshows.stat_eq, hview]
  · rw [hremount.readFile_eq, hshows.readFile_eq, hview]

theorem logfs_keepsFiles_of_cut_append :
    ∃ device after,
      (logfsCreate (logfsMount mklogfsDevice).2 nameA).2.blockDevice = some device
        ∧ (logfsAppend (logfsCreate (logfsMount mklogfsDevice).2 nameA).2 nameA [1, 2]).2.blockDevice
          = some after
        ∧ (logfsMount (device.cutAfter after 1)).1 = 0
        ∧ LogfsKeepsFiles (logfsCreate (logfsMount mklogfsDevice).2 nameA).2
          (logfsMount (device.cutAfter after 1)).2 (some nameA.bytes) := by
  have hintact := mklogfsDevice_formatted.intact
  have hreachable : LogfsReachable (logfsCreate (logfsMount mklogfsDevice).2 nameA).2 :=
    .write (.mount mklogfsDevice (by decide) (by rw [mklogfsDevice_formatted.mount])) (.create nameA)
  have haccept : LogfsState.CreateAccepted (.formatted mklogfsDevice) [] nameA :=
    ⟨by decide, by simp, by decide, by decide⟩
  rw [mklogfsDevice_formatted.mount] at hreachable ⊢
  rcases logfsCreate_spec hintact.toMounted.running nameA
    with ⟨-, device, hresult, hwritten⟩ | ⟨hrefuse, -⟩
  swap
  · exact absurd haccept hrefuse
  obtain ⟨files, replayed, hcreated⟩ := hintact.create haccept (by simp) hresult hwritten
  obtain ⟨after, hfollows⟩ := hcreated.toMounted.follows_append nameA [1, 2]
  obtain ⟨files', hmounted⟩ := hfollows.mounted
  exact ⟨device, after, hcreated.blockDevice_eq, hmounted.blockDevice_eq,
    logfs_keepsFiles_of_power_cut _ hreachable device hcreated.blockDevice_eq hcreated.sameFiles
      hcreated.zeros (.append nameA [1, 2]) after hmounted.blockDevice_eq 1⟩

end DuckOs

import DuckOs.Proof.LogfsRead

/-!
# LogFS replay

What a create record and an append record do to the tables, the sequence of records `logfs_mount`
goes through, and the state it ends in. Replay from a store depends only on the bytes below the
offset it has reached.
-/

namespace DuckOs

open ByteStore

theorem findIdx?_key {α β : Type} [BEq β] [LawfulBEq β] (key : α → β) :
    ∀ {list : List α}, (list.map key).Nodup → ∀ {index : Nat} (hindex : index < list.length),
      list.findIdx? (fun entry => key entry == key list[index]) = some index := by
  intro list
  induction list with
  | nil => intro _ index hindex; simp at hindex
  | cons head rest ih =>
      intro hnodup index hindex
      rw [List.map_cons, List.nodup_cons] at hnodup
      cases index with
      | zero => simp [List.findIdx?_cons]
      | succ index =>
          have hrest : index < rest.length := by simpa using hindex
          have hne : (key head == key rest[index]) = false := by
            rw [beq_eq_false_iff_ne]
            intro heq
            exact hnodup.1 (heq ▸ List.mem_map_of_mem (List.getElem_mem hrest))
          simp only [List.findIdx?_cons, List.getElem_cons_succ, hne, Bool.false_eq_true, ↓reduceIte]
          rw [ih hnodup.2 hrest]
          rfl

section Records

variable {tables next : LogfsTables} {files : List LogfsFileState} {start stop : Nat}

theorem LogfsTables.Wf.findFileState_getElem (hwf : tables.Wf files start stop) {slot : Nat}
    (hslot : slot < files.length) :
    logfsFindFileState tables files[slot].info.name = some slot := by
  rw [hwf.toHolds.findFileState_eq]
  exact findIdx?_key (fun file : LogfsFileState => file.info.name) hwf.names_nodup hslot

theorem LogfsTables.Wf.findFileId_getElem (hwf : tables.Wf files start stop) {slot : Nat}
    (hslot : slot < files.length) : logfsFindFileId tables files[slot].fileId = some slot := by
  rw [hwf.toHolds.findFileId_eq]
  exact findIdx?_key (fun file : LogfsFileState => file.fileId) hwf.ids_nodup hslot

/-- A file found by name is the entry at the slot it was found at. -/
theorem LogfsTables.Holds.of_findFileState (hholds : tables.Holds files) {name : List UInt8}
    {slot : Nat} (hfind : logfsFindFileState tables name = some slot) :
    ∃ hslot : slot < files.length, files[slot].info.name = name := by
  rw [hholds.findFileState_eq, List.findIdx?_eq_some_iff_getElem] at hfind
  obtain ⟨hslot, hname, -⟩ := hfind
  exact ⟨hslot, by simpa using hname⟩

theorem LogfsTables.Holds.of_findFileId (hholds : tables.Holds files) {fileId slot : Nat}
    (hfind : logfsFindFileId tables fileId = some slot) :
    ∃ hslot : slot < files.length, files[slot].fileId = fileId := by
  rw [hholds.findFileId_eq, List.findIdx?_eq_some_iff_getElem] at hfind
  obtain ⟨hslot, hid, -⟩ := hfind
  exact ⟨hslot, by simpa using hid⟩

theorem logfsReplayCreate_eq_some_iff (hholds : tables.Holds files) {header : LogfsRecordHeader}
    {payload : List UInt8} :
    logfsReplayCreate tables header payload = some next ↔
      0 < header.nameLength ∧ header.nameLength < 32
        ∧ header.payloadSize = header.nameLength + 1 ∧ payload.getD header.nameLength 0 = 0
        ∧ logfsNameValid (CString.scan payload) = true
        ∧ (∀ file ∈ files, file.info.name ≠ CString.scan payload)
        ∧ (∀ file ∈ files, file.fileId ≠ header.fileId) ∧ files.length < logfsMaxFiles
        ∧ next = tables.addFile files.length (CString.scan payload) header.fileId
            (if tables.nextFileId ≤ header.fileId then (header.fileId + 1) % 2 ^ 32
              else tables.nextFileId) := by
  have hname : ∀ name, (logfsFindFileState tables name).isSome = true
      ↔ ¬ ∀ file ∈ files, file.info.name ≠ name := by
    intro name
    rw [hholds.findFileState_isSome_iff]
    push Not
    rfl
  have hid : (logfsFindFileId tables header.fileId).isSome = true
      ↔ ¬ ∀ file ∈ files, file.fileId ≠ header.fileId := by
    rw [hholds.findFileId_isSome_iff]
    push Not
    rfl
  simp only [logfsReplayCreate, hholds.allocFileState_eq, hname, hid, logfsNameMax,
    Bool.not_eq_true']
  generalize (if tables.nextFileId ≤ header.fileId then (header.fileId + 1) % 2 ^ 32
    else tables.nextFileId) = nextFileId
  constructor
  · intro hreplay
    split_ifs at hreplay with hlength hpayload hvalid hfresh hfree
    rw [not_or, Nat.not_le] at hlength
    rw [not_or, not_not, not_not, Nat.mod_eq_of_lt (by omega)] at hpayload
    rw [not_or, not_not, not_not] at hfresh
    exact ⟨by omega, hlength.2, hpayload.1, hpayload.2, by simpa using hvalid, hfresh.1, hfresh.2,
      hfree, (Option.some.inj hreplay).symm⟩
  · rintro ⟨hpos, hlt, hpayload, hnul, hvalid, hnames, hids, hfree, rfl⟩
    have hmod : (header.nameLength + 1) % 2 ^ 32 = header.nameLength + 1 :=
      Nat.mod_eq_of_lt (by omega)
    rw [if_neg (by omega), if_neg (not_or.mpr ⟨not_not.mpr (hpayload.trans hmod.symm),
      not_not.mpr hnul⟩), if_neg (by simp [hvalid]),
      if_neg (not_or.mpr ⟨not_not.mpr hnames, not_not.mpr hids⟩), if_pos hfree]
    rfl

theorem logfsReplayAppend_eq_some_iff (hwf : tables.Wf files start stop)
    {header : LogfsRecordHeader} {payloadOffset : Nat} :
    logfsReplayAppend tables header payloadOffset = some next ↔
      ∃ slot, ∃ hslot : slot < files.length, files[slot].fileId = header.fileId
        ∧ 0 < header.payloadSize ∧ files[slot].info.size = header.fileSizeBefore
        ∧ header.fileSizeAfter = (header.fileSizeBefore + header.payloadSize) % 2 ^ 32
        ∧ tables.segments.length < logfsMaxSegments
        ∧ next = tables.extendFile slot header.payloadSize payloadOffset := by
  constructor
  · intro hreplay
    rw [logfsReplayAppend] at hreplay
    cases hfind : logfsFindFileId tables header.fileId with
    | none => simp [hfind] at hreplay
    | some slot =>
        obtain ⟨hslot, hid⟩ := hwf.toHolds.of_findFileId hfind
        simp only [hfind, hwf.toHolds.fileAt_eq hslot, logfsAddSegment] at hreplay
        split_ifs at hreplay with hzero hsizes hfull
        rw [not_or, not_not, not_not] at hsizes
        refine ⟨slot, hslot, hid, by omega, hsizes.1, hsizes.2, by omega, ?_⟩
        rw [← Option.some.inj hreplay, LogfsTables.extendFile, hwf.toHolds.fileAt_eq hslot,
          LogfsFileState.extend, hid, hsizes.1, ← hsizes.2]
  · rintro ⟨slot, hslot, hid, hpos, hbefore, hafter, hroom, rfl⟩
    have hfind := hwf.findFileId_getElem hslot
    rw [hid] at hfind
    simp only [logfsReplayAppend, hfind, hwf.toHolds.fileAt_eq hslot, logfsAddSegment]
    rw [if_neg (by omega), if_neg (by simp [hbefore, hafter]), if_neg (by omega)]
    simp only [LogfsTables.extendFile, hwf.toHolds.fileAt_eq hslot, LogfsFileState.extend, hid,
      hbefore, ← hafter]

/-- A create record as `logfs_create` writes it is replayed. -/
theorem applyRecord_create (hwf : tables.Wf files start stop) {name : List UInt8} {fileId : Nat}
    (hfree : files.length < logfsMaxFiles) (hvalid : logfsNameValid name = true) (hnul : 0 ∉ name)
    (hname : ∀ file ∈ files, file.info.name ≠ name) (hid : ∀ file ∈ files, file.fileId ≠ fileId)
    (payloadOffset : Nat) :
    applyRecord tables (writtenHeader logfsRecordTypeCreate fileId 0 0 name.length (name ++ [0]))
        (name ++ [0]) payloadOffset
      = some (tables.addFile files.length name fileId
          (if tables.nextFileId ≤ fileId then (fileId + 1) % 2 ^ 32 else tables.nextFileId)) := by
  have hscan : CString.scan (name ++ [0]) = name := CString.scan_append_nul hnul
  have hlength := length_of_logfsNameValid hvalid
  rw [applyRecord, writtenHeader_type, if_pos rfl, logfsReplayCreate_eq_some_iff hwf.toHolds, hscan]
  have hend : (name ++ [0])[name.length]?.getD 0 = 0 := by simp
  have hsize : (name ++ [0]).length = name.length + 1 := List.length_append
  rw [writtenHeader_nameLength]
  exact ⟨hlength.1, hlength.2, hsize, hend, hvalid, hname, hid, hfree, rfl⟩

/-- An append record as `logfs_append` writes it is replayed unless the segment table is full. -/
theorem applyRecord_append (hwf : tables.Wf files start stop) {slot : Nat}
    (hslot : slot < files.length) {data : List UInt8} (hpos : 0 < data.length)
    (payloadOffset : Nat) :
    applyRecord tables
        (writtenHeader logfsRecordTypeAppend files[slot].fileId files[slot].info.size
          ((files[slot].info.size + data.length) % 2 ^ 32) 0 data) data payloadOffset
      = if tables.segments.length < logfsMaxSegments then
          some (tables.extendFile slot data.length payloadOffset)
        else none := by
  rw [applyRecord, writtenHeader_type, if_neg (by decide), if_pos rfl]
  by_cases hroom : tables.segments.length < logfsMaxSegments
  · rw [if_pos hroom, logfsReplayAppend_eq_some_iff hwf]
    exact ⟨slot, hslot, rfl, hpos, rfl, rfl, hroom, rfl⟩
  · rw [if_neg hroom, Option.eq_none_iff_forall_ne_some]
    intro next hnext
    obtain ⟨-, -, -, -, -, -, hroom', -⟩ := (logfsReplayAppend_eq_some_iff hwf).mp hnext
    exact hroom hroom'

theorem applyRecord_wf (hwf : tables.Wf files start stop) {header : LogfsRecordHeader}
    {payload : List UInt8} {payloadOffset stop' : Nat} (hnext : tables.nextFileId < 2 ^ 32)
    (hfits : header.Fits) (hsize : header.payloadSize ≤ 480) (hstart : start ≤ payloadOffset)
    (hend : payloadOffset + header.payloadSize ≤ stop') (hgrow : stop ≤ stop')
    (happly : applyRecord tables header payload payloadOffset = some next) :
    ∃ files', next.Wf files' start stop' ∧ next.nextFileId < 2 ^ 32 := by
  rw [applyRecord] at happly
  split_ifs at happly with hcreate happend
  · obtain ⟨-, -, -, -, hvalid, hnames, hids, hfree, rfl⟩ :=
      (logfsReplayCreate_eq_some_iff hwf.toHolds).mp happly
    refine ⟨_, (hwf.addFile hfree hvalid (CString.zero_notMem_scan _) hnames hids hfits.fileId
      _).mono hgrow rfl rfl, ?_⟩
    simp only [LogfsTables.addFile]
    split
    · exact Nat.mod_lt _ (by decide)
    · exact hnext
  · obtain ⟨slot, hslot, -, hpos, -, -, hroom, rfl⟩ :=
      (logfsReplayAppend_eq_some_iff hwf).mp happly
    exact ⟨_, hwf.extendFile hslot hpos hsize hroom hstart hend hgrow, hnext⟩

end Records

/-! ### Sequences of records -/

/-- Replaying record after record from `offset` leads to the last tables and offset. -/
inductive ReplayTo (store : Store) (limit : Nat) :
    LogfsTables → Nat → LogfsTables → Nat → Prop where
  | refl (tables : LogfsTables) (offset : Nat) : ReplayTo store limit tables offset tables offset
  | step {tables middle last : LogfsTables} {offset middleEnd lastEnd : Nat}
      (hrecord : replayAt store limit tables offset = .replayed middle middleEnd)
      (hrest : ReplayTo store limit middle middleEnd last lastEnd) :
      ReplayTo store limit tables offset last lastEnd

/-- No record is replayed at `offset`. -/
def ReplayStops (store : Store) (limit : Nat) (tables : LogfsTables) (offset : Nat) : Prop :=
  ∀ next logEnd, replayAt store limit tables offset ≠ .replayed next logEnd

section Sequences

variable {store : Store} {limit : Nat} {tables middle last : LogfsTables}
  {offset middleEnd lastEnd : Nat}

theorem ReplayTo.le (hreplay : ReplayTo store limit tables offset last lastEnd) :
    offset ≤ lastEnd := by
  induction hreplay with
  | refl => exact le_rfl
  | step hrecord _ ih =>
      have hlt := lt_of_replayAt hrecord
      omega

theorem ReplayTo.trans (hfirst : ReplayTo store limit tables offset middle middleEnd)
    (hsecond : ReplayTo store limit middle middleEnd last lastEnd) :
    ReplayTo store limit tables offset last lastEnd := by
  induction hfirst with
  | refl => exact hsecond
  | step hrecord _ ih => exact .step hrecord (ih hsecond)

theorem ReplayTo.snoc (hreplay : ReplayTo store limit tables offset middle middleEnd)
    (hrecord : replayAt store limit middle middleEnd = .replayed last lastEnd) :
    ReplayTo store limit tables offset last lastEnd :=
  hreplay.trans (.step hrecord (.refl _ _))

theorem ReplayTo.agree {other : Store}
    (hreplay : ReplayTo store limit tables offset last lastEnd)
    (hagree : AgreeBelow lastEnd other store) :
    ReplayTo other limit tables offset last lastEnd := by
  induction hreplay with
  | refl => exact .refl _ _
  | step hrecord hrest ih =>
      have hle := hrest.le
      refine .step (replayAt_of_agreeBelow ?_ hrecord) (ih hagree)
      intro address haddress
      exact hagree address (by omega)

theorem ReplayTo.unique {other : LogfsTables} {otherEnd : Nat}
    (hfirst : ReplayTo store limit tables offset last lastEnd)
    (hstops : ReplayStops store limit last lastEnd)
    (hsecond : ReplayTo store limit tables offset other otherEnd)
    (hstops' : ReplayStops store limit other otherEnd) : last = other ∧ lastEnd = otherEnd := by
  induction hfirst with
  | refl tables offset =>
      cases hsecond with
      | refl => exact ⟨rfl, rfl⟩
      | step hrecord _ => exact absurd hrecord (hstops _ _)
  | step hrecord _ ih =>
      cases hsecond with
      | refl => exact absurd hrecord (hstops' _ _)
      | step hrecord' hrest' =>
          rw [hrecord] at hrecord'
          cases hrecord'
          exact ih hstops hrest'

theorem ReplayTo.wf {files : List LogfsFileState} {start : Nat}
    (hreplay : ReplayTo store limit tables offset last lastEnd)
    (hwf : tables.Wf files start offset) (hnext : tables.nextFileId < 2 ^ 32)
    (hstart : start ≤ offset) :
    ∃ files', last.Wf files' start lastEnd ∧ last.nextFileId < 2 ^ 32 := by
  induction hreplay generalizing files with
  | refl => exact ⟨files, hwf, hnext⟩
  | @step tables middle last offset middleEnd lastEnd hrecord _ ih =>
      have hlt := lt_of_replayAt hrecord
      obtain ⟨-, hsize, hend, -, -, happly⟩ := replayAt_eq_replayed_iff.mp hrecord
      have hbounds := recordSize_bounds hsize
      have hfits : (headerAt store offset).Fits := LogfsRecordHeader.fits_ofBytes _
      have hpayload : offset + 32 + (headerAt store offset).payloadSize ≤ middleEnd := by omega
      obtain ⟨files', hwf', hnext'⟩ :=
        applyRecord_wf hwf hnext hfits hsize (by omega) hpayload (by omega) happly
      exact ih hwf' hnext' (by omega)

theorem ReplayTo.le_limit (hreplay : ReplayTo store limit tables offset last lastEnd)
    (hoffset : offset ≤ limit) : lastEnd ≤ limit := by
  induction hreplay with
  | refl => exact hoffset
  | step hrecord _ ih => exact ih (lt_of_replayAt hrecord).2

/-- A log without records may begin behind its limit; one with records ends before it. -/
theorem ReplayTo.eq_or_le (hreplay : ReplayTo store limit tables offset last lastEnd) :
    last = tables ∨ lastEnd ≤ limit := by
  cases hreplay with
  | refl => exact Or.inl rfl
  | step hrecord hrest => exact Or.inr (hrest.le_limit (lt_of_replayAt hrecord).2)

end Sequences

/-! ### Mounting -/

/-- The superblock stored at the beginning of the device. -/
def superblockAt (store : Store) : LogfsSuperblock := .ofBytes (slice store 0 20)

theorem logfsReplayLoop_spec {device : BlockDevice} {superblock : LogfsSuperblock}
    (husable : device.Usable) (hlimit : superblock.logLimit ≤ device.byteCount) :
    ∀ (fuel offset : Nat) (tables : LogfsTables), superblock.logLimit < offset + fuel →
      ∃ last lastEnd, logfsReplayLoop device superblock fuel offset tables = (last, lastEnd)
        ∧ ReplayTo device.storage superblock.logLimit tables offset last lastEnd
        ∧ ReplayStops device.storage superblock.logLimit last lastEnd := by
  have hstop : ∀ (tables : LogfsTables) (offset : Nat), superblock.logLimit < offset + 32 →
      ReplayStops device.storage superblock.logLimit tables offset := by
    intro tables offset hfull next logEnd hrecord
    have hlt := lt_of_replayAt hrecord
    omega
  intro fuel
  induction fuel with
  | zero =>
      intro offset tables hfuel
      exact ⟨tables, offset, rfl, .refl _ _, hstop tables offset (by omega)⟩
  | succ fuel ih =>
      intro offset tables hfuel
      by_cases hroom : offset + 32 ≤ superblock.logLimit
      swap
      · refine ⟨tables, offset, ?_, .refl _ _, hstop tables offset (by omega)⟩
        rw [logfsReplayLoop, if_neg (by simpa [LogfsRecordHeader.size] using hroom)]
      rw [logfsReplayLoop, if_pos (by simpa [LogfsRecordHeader.size] using hroom),
        logfsReplayRecord_eq husable hlimit hroom]
      cases hrecord : replayAt device.storage superblock.logLimit tables offset with
      | replayed next logEnd =>
          have hlt := lt_of_replayAt hrecord
          obtain ⟨last, lastEnd, hloop, hreplay, hstops⟩ := ih logEnd next (by omega)
          exact ⟨last, lastEnd, hloop, .step hrecord hreplay, hstops⟩
      | endOfLog => exact ⟨tables, offset, rfl, .refl _ _, by simp [ReplayStops, hrecord]⟩
      | rejected => exact ⟨tables, offset, rfl, .refl _ _, by simp [ReplayStops, hrecord]⟩

section Mount

variable {device : BlockDevice}

theorem logLimit_le_byteCount {superblock : LogfsSuperblock}
    (hvalid : logfsSuperblockValid device superblock = true) :
    superblock.logLimit ≤ device.byteCount := by
  simp only [logfsSuperblockValid, Bool.and_eq_true, decide_eq_true_eq] at hvalid
  rw [LogfsSuperblock.logLimit, BlockDevice.byteCount, hvalid.1.1.2]
  exact Nat.mul_le_mul_right _ hvalid.1.2

/-- Mounting a device with a valid superblock succeeds and replays its log until it stops. -/
theorem logfsMount_of_valid (husable : device.Usable) (hsize : 20 ≤ device.byteCount)
    (hvalid : logfsSuperblockValid device (superblockAt device.storage) = true) :
    ∃ tables logEnd,
      logfsMount device = (0, ⟨some device, superblockAt device.storage, tables, logEnd, true⟩)
        ∧ ReplayTo device.storage (superblockAt device.storage).logLimit .empty
          (superblockAt device.storage).logOffset tables logEnd
        ∧ ReplayStops device.storage (superblockAt device.storage).logLimit tables logEnd := by
  have hfits : ¬ logfsIoBufferSize < device.blockSize := Nat.not_lt.mpr husable.blockSize_le
  obtain ⟨tables, logEnd, hloop, hreplay, hstops⟩ :=
    logfsReplayLoop_spec husable (logLimit_le_byteCount hvalid)
      ((superblockAt device.storage).logLimit + 1) (superblockAt device.storage).logOffset .empty
      (by omega)
  refine ⟨tables, logEnd, ?_, hreplay, hstops⟩
  rw [logfsMount, if_neg hfits, show LogfsSuperblock.size = 20 from rfl,
    logfsReadBytes_eq husable (by omega)]
  simp only [show LogfsSuperblock.ofBytes (slice device.storage 0 20)
    = superblockAt device.storage from rfl, if_pos hvalid, hloop]

/-- A mount that succeeds has read a valid superblock. -/
theorem valid_of_logfsMount (hmount : (logfsMount device).1 = 0) :
    device.Usable ∧ 20 ≤ device.byteCount
      ∧ logfsSuperblockValid device (superblockAt device.storage) = true := by
  rw [logfsMount] at hmount
  split_ifs at hmount with hfits
  · cases hmount
  cases hread : logfsReadBytes (some device) 0 LogfsSuperblock.size with
  | none => simp [hread] at hmount
  | some bytes =>
      have husable := usable_of_logfsReadBytes (by decide) hread
      have hinside := logfsReadBytes_inside husable (by decide) hread
      rw [logfsReadBytes_eq husable hinside] at hmount
      refine ⟨husable, by simpa [LogfsSuperblock.size] using hinside, ?_⟩
      by_contra hvalid
      simp only [show LogfsSuperblock.ofBytes (slice device.storage 0 LogfsSuperblock.size)
        = superblockAt device.storage from rfl, if_neg hvalid] at hmount
      cases hmount

end Mount

end DuckOs

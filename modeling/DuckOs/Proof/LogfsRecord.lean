import DuckOs.Proof.LogfsIo

/-!
# LogFS records

A record read back from the bytes `logfs_append_record` wrote is the record it was given, and what
`logfs_replay_record` decides depends only on the bytes the record covers. Both are stated over the
store of the device, block boundaries having been dealt with by the byte-range lemmas.
-/

namespace DuckOs

open ByteStore

/-! ### Sizes -/

theorem logfsAlignUp_eq {value : Nat} (hvalue : value + 7 < 2 ^ 32) :
    logfsAlignUp value = (value + 7) / 8 * 8 := by
  have hmod : (value + 7) % 2 ^ 32 = value + 7 := Nat.mod_eq_of_lt hvalue
  simp only [logfsAlignUp, logfsAlign]
  rw [show value + (8 - 1) = value + 7 from rfl, hmod]

/-- The 8-aligned length of a record with a payload of `size` bytes. -/
def recordSize (size : Nat) : Nat := logfsAlignUp (LogfsRecordHeader.size + size)

theorem recordSize_bounds {size : Nat} (hsize : size ≤ 480) :
    32 + size ≤ recordSize size ∧ recordSize size ≤ 512 ∧ recordSize size < 32 + size + 8 := by
  rw [recordSize, logfsAlignUp_eq (by simp [LogfsRecordHeader.size]; omega)]
  simp only [LogfsRecordHeader.size]
  omega

/-! ### Headers and superblocks as bytes -/

/-- Every field is an `unsigned int`. -/
structure LogfsRecordHeader.Fits (header : LogfsRecordHeader) : Prop where
  magic : header.magic < 2 ^ 32
  type : header.type < 2 ^ 32
  fileId : header.fileId < 2 ^ 32
  payloadSize : header.payloadSize < 2 ^ 32
  fileSizeBefore : header.fileSizeBefore < 2 ^ 32
  fileSizeAfter : header.fileSizeAfter < 2 ^ 32
  checksum : header.checksum < 2 ^ 32
  nameLength : header.nameLength < 2 ^ 32

@[simp]
theorem LogfsRecordHeader.length_toBytes (header : LogfsRecordHeader) :
    header.toBytes.length = 32 := by
  simp [LogfsRecordHeader.toBytes]

@[simp]
theorem LogfsSuperblock.length_toBytes (superblock : LogfsSuperblock) :
    superblock.toBytes.length = 20 := by
  simp [LogfsSuperblock.toBytes]

theorem LogfsRecordHeader.fits_ofBytes (bytes : List UInt8) :
    (LogfsRecordHeader.ofBytes bytes).Fits where
  magic := field_lt bytes 0 4
  type := field_lt bytes 4 4
  fileId := field_lt bytes 8 4
  payloadSize := field_lt bytes 12 4
  fileSizeBefore := field_lt bytes 16 4
  fileSizeAfter := field_lt bytes 20 4
  checksum := field_lt bytes 24 4
  nameLength := field_lt bytes 28 4

theorem LogfsRecordHeader.ofBytes_toBytes {header : LogfsRecordHeader} (hfits : header.Fits) :
    LogfsRecordHeader.ofBytes header.toBytes = header := by
  have hword : ∀ value < 2 ^ 32, field (toLe 4 value) 0 4 = value :=
    fun value hvalue => field_toLe (by omega)
  have hfields : LogfsRecordHeader.ofBytes header.toBytes
      = ⟨header.magic, header.type, header.fileId, header.payloadSize, header.fileSizeBefore,
        header.fileSizeAfter, header.checksum, header.nameLength⟩ := by
    simp only [LogfsRecordHeader.ofBytes, LogfsRecordHeader.toBytes, LogfsRecordHeader.mk.injEq]
    refine ⟨?_, ?_, ?_, ?_, ?_, ?_, ?_, ?_⟩ <;>
      simp (disch := simp) only [field_append_left, field_append_right, List.length_append,
        length_toLe, Nat.reduceAdd, Nat.reduceSub]
    exacts [hword _ hfits.magic, hword _ hfits.type, hword _ hfits.fileId,
      hword _ hfits.payloadSize, hword _ hfits.fileSizeBefore, hword _ hfits.fileSizeAfter,
      hword _ hfits.checksum, hword _ hfits.nameLength]
  exact hfields

theorem LogfsSuperblock.ofBytes_toBytes {superblock : LogfsSuperblock}
    (hmagic : superblock.magic < 2 ^ 32) (hversion : superblock.version < 2 ^ 32)
    (hblockSize : superblock.blockSize < 2 ^ 32) (hblockCount : superblock.blockCount < 2 ^ 32)
    (hlogOffset : superblock.logOffset < 2 ^ 32) :
    LogfsSuperblock.ofBytes superblock.toBytes = superblock := by
  have hword : ∀ value < 2 ^ 32, field (toLe 4 value) 0 4 = value :=
    fun value hvalue => field_toLe (by omega)
  have hfields : LogfsSuperblock.ofBytes superblock.toBytes
      = ⟨superblock.magic, superblock.version, superblock.blockSize, superblock.blockCount,
        superblock.logOffset⟩ := by
    simp only [LogfsSuperblock.ofBytes, LogfsSuperblock.toBytes, LogfsSuperblock.mk.injEq]
    refine ⟨?_, ?_, ?_, ?_, ?_⟩ <;>
      simp (disch := simp) only [field_append_left, field_append_right, List.length_append,
        length_toLe, Nat.reduceAdd, Nat.reduceSub]
    exacts [hword _ hmagic, hword _ hversion, hword _ hblockSize, hword _ hblockCount,
      hword _ hlogOffset]
  exact hfields

/-! ### Replay over a store -/

/-- The header stored at `offset`. -/
def headerAt (store : Store) (offset : Nat) : LogfsRecordHeader :=
  .ofBytes (slice store offset 32)

/-- The checksum a record with this header and payload must carry. -/
def LogfsRecordHeader.expectedChecksum (header : LogfsRecordHeader) (payload : List UInt8) : Nat :=
  logfsChecksumBytes
    (logfsChecksumBytes 0 ({ header with checksum := 0 } : LogfsRecordHeader).toBytes) payload

/-- The effect on the tables of a record whose checksum matched. -/
def applyRecord (tables : LogfsTables) (header : LogfsRecordHeader) (payload : List UInt8)
    (payloadOffset : Nat) : Option LogfsTables :=
  if header.type = logfsRecordTypeCreate then logfsReplayCreate tables header payload
  else if header.type = logfsRecordTypeAppend then logfsReplayAppend tables header payloadOffset
  else none

/-- `logfs_replay_record` over the bytes of the device, for a log that ends at `limit`. -/
def replayAt (store : Store) (limit : Nat) (tables : LogfsTables) (offset : Nat) : ReplayStatus :=
  let header := headerAt store offset
  let payload := slice store (offset + 32) header.payloadSize
  if header.magic = 0 then .endOfLog
  else if header.magic ≠ logfsRecordMagic then .rejected
  else if 480 < header.payloadSize ∨ limit < offset + recordSize header.payloadSize then .rejected
  else if header.expectedChecksum payload ≠ header.checksum then .rejected
  else
    match applyRecord tables header payload (offset + 32) with
    | none => .rejected
    | some tables => .replayed tables (offset + recordSize header.payloadSize)

/-- The size test of `logfs_replay_record`, including the wrap of a huge payload size. -/
theorem recordSize_reject_iff {size offset limit : Nat} :
    (logfsAlignUp ((32 + size) % 2 ^ 32) < 32 ∨ limit < offset + logfsAlignUp ((32 + size) % 2 ^ 32)
      ∨ 480 < size) ↔ (480 < size ∨ limit < offset + recordSize size) := by
  by_cases hsize : 480 < size
  · simp [hsize]
  · have hmod : (32 + size) % 2 ^ 32 = 32 + size := Nat.mod_eq_of_lt (by omega)
    have hbounds := recordSize_bounds (show size ≤ 480 by omega)
    rw [hmod]
    change (recordSize size < 32 ∨ limit < offset + recordSize size ∨ 480 < size) ↔ _
    omega

/-- The header of a record is inside the device. Its payload may not be, which only an inconsistent
superblock allows; then the record is rejected. -/
theorem logfsReplayRecord_cases {device : BlockDevice} {superblock : LogfsSuperblock}
    {tables : LogfsTables} {offset : Nat} (husable : device.Usable)
    (hheader : offset + 32 ≤ device.byteCount) :
    logfsReplayRecord device superblock tables offset
        = replayAt device.storage superblock.logLimit tables offset
      ∨ (logfsReplayRecord device superblock tables offset = .rejected
        ∧ device.byteCount < superblock.logLimit) := by
  unfold logfsReplayRecord replayAt
  rw [show LogfsRecordHeader.size = 32 from rfl, show logfsIoBufferSize - 32 = 480 from rfl,
    logfsReadBytes_eq husable hheader]
  simp only [recordSize_reject_iff]
  change ((if (headerAt device.storage offset).magic = 0 then _ else _) = _) ∨ _
  simp only [show LogfsRecordHeader.ofBytes (slice device.storage offset 32)
    = headerAt device.storage offset from rfl]
  generalize headerAt device.storage offset = header
  by_cases hzero : header.magic = 0
  · simp only [if_pos hzero, true_or]
  by_cases hmagic : header.magic ≠ logfsRecordMagic
  · simp only [if_neg hzero, if_pos hmagic, true_or]
  by_cases hsize : 480 < header.payloadSize
      ∨ superblock.logLimit < offset + recordSize header.payloadSize
  · simp only [if_neg hzero, if_neg hmagic, if_pos hsize, true_or]
  simp only [if_neg hzero, if_neg hmagic, if_neg hsize]
  rw [not_or, Nat.not_lt, Nat.not_lt] at hsize
  have hbounds := recordSize_bounds hsize.1
  have hwhole : logfsAlignUp ((32 + header.payloadSize) % 2 ^ 32)
      = recordSize header.payloadSize := by
    rw [Nat.mod_eq_of_lt (by omega)]
    rfl
  by_cases hinside : offset + 32 + header.payloadSize ≤ device.byteCount
  swap
  · right
    have hread : logfsReadBytes (some device) (offset + 32) header.payloadSize = none := by
      cases hread : logfsReadBytes (some device) (offset + 32) header.payloadSize with
      | none => rfl
      | some bytes => exact absurd (logfsReadBytes_inside husable (by omega) hread) hinside
    simp only [hread, true_and]
    omega
  left
  rw [logfsReadBytes_eq husable hinside, hwhole]
  simp only [LogfsRecordHeader.expectedChecksum]
  refine if_congr Iff.rfl rfl ?_
  unfold applyRecord
  by_cases hcreate : header.type = logfsRecordTypeCreate
  · cases logfsReplayCreate tables header
        (slice device.storage (offset + 32) header.payloadSize) with
    | none => simp only [if_pos hcreate]
    | some next => simp only [if_pos hcreate]
  by_cases happend : header.type = logfsRecordTypeAppend
  · cases logfsReplayAppend tables header (offset + 32) with
    | none => simp only [if_neg hcreate, if_pos happend]
    | some next => simp only [if_neg hcreate, if_pos happend]
  · simp only [if_neg hcreate, if_neg happend]

theorem logfsReplayRecord_eq {device : BlockDevice} {superblock : LogfsSuperblock}
    {tables : LogfsTables} {offset : Nat} (husable : device.Usable)
    (hlimit : superblock.logLimit ≤ device.byteCount)
    (hheader : offset + 32 ≤ superblock.logLimit) :
    logfsReplayRecord device superblock tables offset
      = replayAt device.storage superblock.logLimit tables offset := by
  rcases logfsReplayRecord_cases husable (hheader.trans hlimit) with heq | ⟨-, hbeyond⟩
  · exact heq
  · omega

theorem replayAt_eq_replayed_iff {store : Store} {limit offset logEnd : Nat}
    {tables next : LogfsTables} :
    replayAt store limit tables offset = .replayed next logEnd ↔
      (headerAt store offset).magic = logfsRecordMagic
        ∧ (headerAt store offset).payloadSize ≤ 480
        ∧ logEnd = offset + recordSize (headerAt store offset).payloadSize
        ∧ logEnd ≤ limit
        ∧ (headerAt store offset).expectedChecksum
            (slice store (offset + 32) (headerAt store offset).payloadSize)
          = (headerAt store offset).checksum
        ∧ applyRecord tables (headerAt store offset)
            (slice store (offset + 32) (headerAt store offset).payloadSize) (offset + 32)
          = some next := by
  have hmagicPos : logfsRecordMagic ≠ 0 := by decide
  simp only [replayAt]
  generalize headerAt store offset = header
  generalize slice store (offset + 32) header.payloadSize = payload
  constructor
  · intro hreplay
    split_ifs at hreplay with hzero hmagic hsize hchecksum
    split at hreplay
    · simp at hreplay
    · rename_i result happly
      simp only [ReplayStatus.replayed.injEq] at hreplay
      rw [not_or, Nat.not_lt, Nat.not_lt] at hsize
      obtain ⟨rfl, rfl⟩ := hreplay
      exact ⟨not_not.mp hmagic, hsize.1, rfl, hsize.2, not_not.mp hchecksum, happly⟩
  · rintro ⟨hmagic, hpayload, rfl, hlimit, hchecksum, happly⟩
    rw [if_neg (by rw [hmagic]; exact hmagicPos), if_neg (not_not.mpr hmagic), if_neg (by omega),
      if_neg (not_not.mpr hchecksum), happly]

/-- A replayed record is replayed the same way from any store with the same bytes up to its end. -/
theorem replayAt_of_agreeBelow {store other : Store} {limit offset logEnd : Nat}
    {tables next : LogfsTables} (hagree : AgreeBelow logEnd other store)
    (hreplay : replayAt store limit tables offset = .replayed next logEnd) :
    replayAt other limit tables offset = .replayed next logEnd := by
  have hparts := replayAt_eq_replayed_iff.mp hreplay
  obtain ⟨-, hsize, hend, -⟩ := hparts
  have hbounds := recordSize_bounds hsize
  have hheader : headerAt other offset = headerAt store offset := by
    rw [headerAt, headerAt, slice_congr fun index hindex => hagree _ (by omega)]
  have hpayload : slice other (offset + 32) (headerAt store offset).payloadSize
      = slice store (offset + 32) (headerAt store offset).payloadSize :=
    slice_congr fun index hindex => hagree _ (by omega)
  rw [replayAt_eq_replayed_iff, hheader, hpayload]
  exact replayAt_eq_replayed_iff.mp hreplay

theorem lt_of_replayAt {store : Store} {limit offset logEnd : Nat} {tables next : LogfsTables}
    (hreplay : replayAt store limit tables offset = .replayed next logEnd) :
    offset + 32 ≤ logEnd ∧ logEnd ≤ limit := by
  obtain ⟨-, hsize, hend, hlimit, -⟩ := replayAt_eq_replayed_iff.mp hreplay
  have hbounds := recordSize_bounds hsize
  omega

/-! ### Records as `logfs_append_record` writes them -/

theorem logfsChecksumBytes_lt {seed : Nat} (hseed : seed < 2 ^ 32) (data : List UInt8) :
    logfsChecksumBytes seed data < 2 ^ 32 := by
  induction data generalizing seed with
  | nil => exact hseed
  | cons byte rest ih => exact ih (Nat.mod_lt _ (by decide))

/-- The header of a written record, checksum included. -/
def writtenHeader (type fileId fileSizeBefore fileSizeAfter nameLength : Nat)
    (payload : List UInt8) : LogfsRecordHeader :=
  let header : LogfsRecordHeader :=
    ⟨logfsRecordMagic, type, fileId, payload.length, fileSizeBefore, fileSizeAfter, 0, nameLength⟩
  { header with checksum := header.expectedChecksum payload }

section Written

variable {type fileId before after nameLength : Nat} {payload : List UInt8}

@[simp]
theorem writtenHeader_magic :
    (writtenHeader type fileId before after nameLength payload).magic = logfsRecordMagic := rfl

@[simp]
theorem writtenHeader_type :
    (writtenHeader type fileId before after nameLength payload).type = type := rfl

@[simp]
theorem writtenHeader_payloadSize :
    (writtenHeader type fileId before after nameLength payload).payloadSize = payload.length := rfl

@[simp]
theorem writtenHeader_nameLength :
    (writtenHeader type fileId before after nameLength payload).nameLength = nameLength := rfl

theorem logfsRecordBytes_eq :
    logfsRecordBytes type fileId before after nameLength payload
      = (writtenHeader type fileId before after nameLength payload).toBytes ++ payload
        ++ List.replicate (recordSize payload.length - (32 + payload.length)) 0 :=
  rfl

theorem length_logfsRecordBytes (type fileId before after nameLength : Nat)
    (hpayload : payload.length ≤ 480) :
    (logfsRecordBytes type fileId before after nameLength payload).length
      = recordSize payload.length := by
  have hbounds := recordSize_bounds hpayload
  rw [logfsRecordBytes_eq]
  simp only [List.length_append, LogfsRecordHeader.length_toBytes, List.length_replicate]
  omega

theorem writtenHeader_fits (htype : type < 2 ^ 32) (hfileId : fileId < 2 ^ 32)
    (hbefore : before < 2 ^ 32) (hafter : after < 2 ^ 32) (hnameLength : nameLength < 2 ^ 32)
    (hpayload : payload.length ≤ 480) :
    (writtenHeader type fileId before after nameLength payload).Fits where
  magic := by simp only [writtenHeader, logfsRecordMagic]; omega
  type := htype
  fileId := hfileId
  payloadSize := by simp only [writtenHeader]; omega
  fileSizeBefore := hbefore
  fileSizeAfter := hafter
  checksum := logfsChecksumBytes_lt (logfsChecksumBytes_lt (by decide) _) _
  nameLength := hnameLength

/-- Replaying a record from a store that holds it runs its effect: size and checksum match. -/
theorem replayAt_written {store : Store} {limit offset : Nat} {tables : LogfsTables}
    (hpayload : payload.length ≤ 480) (hlimit : offset + recordSize payload.length ≤ limit)
    (hfits : (writtenHeader type fileId before after nameLength payload).Fits)
    (hstored : slice store offset (recordSize payload.length)
      = logfsRecordBytes type fileId before after nameLength payload) :
    replayAt store limit tables offset
      = match applyRecord tables (writtenHeader type fileId before after nameLength payload) payload
          (offset + 32) with
        | none => .rejected
        | some next => .replayed next (offset + recordSize payload.length) := by
  have hbounds := recordSize_bounds hpayload
  rw [logfsRecordBytes_eq, List.append_assoc] at hstored
  have hheaderBytes : slice store offset 32
      = (writtenHeader type fileId before after nameLength payload).toBytes := by
    have htake := congrArg (List.take 32) hstored
    rwa [take_slice, Nat.min_eq_left (by omega), List.take_left' (by simp)] at htake
  have hheader : headerAt store offset
      = writtenHeader type fileId before after nameLength payload := by
    rw [headerAt, hheaderBytes, LogfsRecordHeader.ofBytes_toBytes hfits]
  have hpayloadBytes : slice store (offset + 32) payload.length = payload := by
    have hdrop := congrArg (fun bytes => (bytes.drop 32).take payload.length) hstored
    rwa [drop_slice, take_slice, Nat.min_eq_left (by omega), List.drop_left' (by simp),
      List.take_left' rfl] at hdrop
  have hchecksum : (writtenHeader type fileId before after nameLength payload).expectedChecksum
      payload = (writtenHeader type fileId before after nameLength payload).checksum := rfl
  simp only [replayAt, hheader, writtenHeader_payloadSize, hpayloadBytes, writtenHeader_magic,
    hchecksum]
  rw [if_neg (by decide), if_neg (not_not.mpr rfl), if_neg (by omega), if_neg (not_not.mpr rfl)]

end Written

end DuckOs

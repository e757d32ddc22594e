import DuckOs.Fs.LogfsRun
import DuckOs.Lib.Checksum
import DuckOs.Proof.LogfsReplay

/-!
# Corrupted LogFS records

The checksum of a record is a polynomial in 33 modulo 2^32 over the bytes of the record, its own
field taken as zero. It catches every changed byte that leaves `payload_size` alone. A changed
`payload_size` alters which bytes are summed, but then contradicts another field of the header.
-/

namespace DuckOs

open ByteStore

/-! ### The summed bytes -/

theorem lossless_checksum :
    Checksum.Lossless (Checksum.polynomialStep 33 (2 ^ 32) UInt8.toNat) {sum | sum < 2 ^ 32} := by
  apply Checksum.lossless_polynomialStep
  · decide
  · exact fun _ _ => UInt8.toNat_inj.mp
  · intro byte
    have hbyte := byte.toNat_lt
    omega

theorem logfsChecksumBytes_eq (seed : Nat) (data : List UInt8) :
    logfsChecksumBytes seed data
      = data.foldl (Checksum.polynomialStep 33 (2 ^ 32) UInt8.toNat) seed :=
  rfl

theorem logfsChecksumBytes_append (seed : Nat) (first second : List UInt8) :
    logfsChecksumBytes (logfsChecksumBytes seed first) second
      = logfsChecksumBytes seed (first ++ second) :=
  (List.foldl_append ..).symm

/-- The store with the checksum field of the record at `offset` cleared. -/
def clearChecksum (store : Store) (offset : Nat) : Store := patch store (offset + 24) [0, 0, 0, 0]

section Fields

variable {store : Store} {offset : Nat}

theorem toLe_slice (start width : Nat) :
    toLe width (ofLe (slice store start width)) = slice store start width := by
  have hbytes := toLe_ofLe (slice store start width)
  rwa [length_slice] at hbytes

theorem headerAt_eq (store : Store) (offset : Nat) :
    headerAt store offset
      = { magic := ofLe (slice store offset 4)
          type := ofLe (slice store (offset + 4) 4)
          fileId := ofLe (slice store (offset + 8) 4)
          payloadSize := ofLe (slice store (offset + 12) 4)
          fileSizeBefore := ofLe (slice store (offset + 16) 4)
          fileSizeAfter := ofLe (slice store (offset + 20) 4)
          checksum := ofLe (slice store (offset + 24) 4)
          nameLength := ofLe (slice store (offset + 28) 4) } := by
  simp (disch := omega) only [headerAt, LogfsRecordHeader.ofBytes, field_slice, Nat.add_zero]

theorem toBytes_headerAt (store : Store) (offset : Nat) :
    ({ headerAt store offset with checksum := 0 } : LogfsRecordHeader).toBytes
      = slice (clearChecksum store offset) offset 32 := by
  have hword : ∀ (store : Store) (size : Nat),
      slice store offset (size + 4) = slice store offset size ++ slice store (offset + size) 4 :=
    fun _ size => slice_add size 4
  have hzero : slice (clearChecksum store offset) (offset + 24) 4 = toLe 4 0 := slice_patch_self
  have hbefore : slice (clearChecksum store offset) offset 24 = slice store offset 24 :=
    slice_patch_of_disjoint (Or.inl le_rfl)
  have hafter : slice (clearChecksum store offset) (offset + 28) 4 = slice store (offset + 28) 4 :=
    slice_patch_of_disjoint (Or.inr (by simp))
  have hcleared : slice (clearChecksum store offset) offset 32
      = slice store offset 24 ++ toLe 4 0 ++ slice store (offset + 28) 4 := by
    rw [hword _ 28, hword _ 24, hbefore, hzero, hafter]
  rw [headerAt_eq, hcleared, hword store 20, hword store 16, hword store 12, hword store 8,
    hword store 4]
  simp only [LogfsRecordHeader.toBytes, toLe_slice]

/-- The checksum of a record is the sum over all its bytes with the checksum field cleared. -/
theorem expectedChecksum_headerAt (store : Store) (offset size : Nat) :
    (headerAt store offset).expectedChecksum (slice store (offset + 32) size)
      = logfsChecksumBytes 0 (slice (clearChecksum store offset) offset (32 + size)) := by
  have hpayload : slice (clearChecksum store offset) (offset + 32) size
      = slice store (offset + 32) size := slice_patch_of_disjoint (Or.inr (by simp))
  rw [LogfsRecordHeader.expectedChecksum, toBytes_headerAt, logfsChecksumBytes_append, slice_add,
    hpayload]

end Fields

/-! ### One byte replaced -/

section Replaced

variable {store : Store} {offset index : Nat} {value : UInt8}

theorem ofLe_slice_update_outside {start : Nat}
    (houtside : offset + index < start ∨ start + 4 ≤ offset + index) :
    ofLe (slice (Function.update store (offset + index) value) start 4)
      = ofLe (slice store start 4) := by
  rw [slice_update_of_outside value houtside]

theorem ofLe_slice_update_ne {start : Nat} (hstart : start ≤ offset + index)
    (hend : offset + index < start + 4) (hvalue : value ≠ store (offset + index)) :
    ofLe (slice (Function.update store (offset + index) value) start 4)
      ≠ ofLe (slice store start 4) := by
  obtain ⟨position, hposition⟩ := Nat.exists_eq_add_of_le hstart
  have hlt : position < 4 := by omega
  intro heq
  rw [ofLe_inj (by simp), hposition, slice_update hlt] at heq
  have hget : ((slice store start 4).set position value)[position]?
      = (slice store start 4)[position]? := by rw [heq]
  rw [List.getElem?_set_self (by simpa using hlt), getElem?_slice hlt] at hget
  rw [hposition] at hvalue
  exact hvalue (Option.some.inj hget)

/-- The magic has no byte that is zero, so that no single byte can clear it. -/
theorem magic_update_ne_zero (hmagic : (headerAt store offset).magic = logfsRecordMagic) :
    (headerAt (Function.update store (offset + index) value) offset).magic ≠ 0 := by
  have hbytes : slice store offset 4 = toLe 4 logfsRecordMagic := by
    rw [← hmagic, headerAt_eq, toLe_slice]
  have hget : ∀ position < 4, store (offset + position) ≠ 0 := by
    intro position hposition hzero
    have hbyte := @getElem?_slice store offset 4 position hposition
    rw [hbytes, hzero] at hbyte
    interval_cases position <;> exact absurd hbyte (by decide)
  intro hzero
  rw [headerAt_eq] at hzero
  have hclear : slice (Function.update store (offset + index) value) offset 4 = toLe 4 0 := by
    rw [← hzero, toLe_slice]
  have hkept : ∀ position < 4, position ≠ index → False := by
    intro position hposition hne
    have hbyte := @getElem?_slice (Function.update store (offset + index) value) offset 4 position
      hposition
    rw [hclear, Function.update_of_ne (by omega)] at hbyte
    apply hget position hposition
    interval_cases position <;> exact (Option.some.inj hbyte).symm
  by_cases hfirst : index = 0
  · exact hkept 1 (by omega) (by omega)
  · exact hkept 0 (by omega) (by omega)

end Replaced

/-! ### What an accepted record tells about `payload_size` -/

theorem payloadSize_of_replayCreate {tables next : LogfsTables} {header : LogfsRecordHeader}
    {payload : List UInt8} (hreplay : logfsReplayCreate tables header payload = some next) :
    header.payloadSize = (header.nameLength + 1) % 2 ^ 32 := by
  rw [logfsReplayCreate] at hreplay
  by_contra hpayload
  dsimp only at hreplay
  rw [if_pos (Or.inl hpayload : _ ∨ payload.getD header.nameLength 0 ≠ 0)] at hreplay
  split at hreplay <;> cases hreplay

theorem payloadSize_of_replayAppend {tables next : LogfsTables} {header : LogfsRecordHeader}
    {payloadOffset : Nat} (hreplay : logfsReplayAppend tables header payloadOffset = some next) :
    header.fileSizeAfter = (header.fileSizeBefore + header.payloadSize) % 2 ^ 32 := by
  rw [logfsReplayAppend] at hreplay
  split at hreplay
  · cases hreplay
  · dsimp only at hreplay
    split_ifs at hreplay with hzero hsizes
    rw [not_or, not_not, not_not] at hsizes
    exact hsizes.2

/-- The other fields of a record that is applied determine its `payload_size`. -/
theorem payloadSize_eq_of_applyRecord {tables next last : LogfsTables}
    {header other : LogfsRecordHeader} {payload otherPayload : List UInt8}
    {payloadOffset otherOffset : Nat} (hsize : header.payloadSize < 2 ^ 32)
    (hother : other.payloadSize < 2 ^ 32)
    (hsame : other = { header with payloadSize := other.payloadSize })
    (happly : applyRecord tables header payload payloadOffset = some next)
    (hlast : applyRecord tables other otherPayload otherOffset = some last) :
    other.payloadSize = header.payloadSize := by
  have htype : other.type = header.type := by rw [hsame]
  have hname : other.nameLength = header.nameLength := by rw [hsame]
  have hbefore : other.fileSizeBefore = header.fileSizeBefore := by rw [hsame]
  have hafter : other.fileSizeAfter = header.fileSizeAfter := by rw [hsame]
  rw [applyRecord] at happly hlast
  rw [htype] at hlast
  split_ifs at happly hlast with hcreate happend
  · rw [payloadSize_of_replayCreate hlast, payloadSize_of_replayCreate happly, hname]
  · have hold := payloadSize_of_replayAppend happly
    have hnew := payloadSize_of_replayAppend hlast
    rw [hbefore, hafter, hold] at hnew
    omega

/-! ### Detection -/

section Detection

variable {store : Store} {limit offset index logEnd : Nat} {tables next : LogfsTables} {value : UInt8}

/-- A replaced byte outside `payload_size`. -/
theorem checksum_update_ne {size : Nat} (hindex : index < 32 + size)
    (hvalue : value ≠ store (offset + index))
    (hchecksum : (headerAt store offset).expectedChecksum (slice store (offset + 32) size)
      = (headerAt store offset).checksum) :
    (headerAt (Function.update store (offset + index) value) offset).expectedChecksum
        (slice (Function.update store (offset + index) value) (offset + 32) size)
      ≠ (headerAt (Function.update store (offset + index) value) offset).checksum := by
  rw [expectedChecksum_headerAt] at hchecksum ⊢
  by_cases hfield : 24 ≤ index ∧ index < 28
  · -- The sum is the same, but the checksum it is compared with has changed.
    have hcleared : clearChecksum (Function.update store (offset + index) value) offset
        = clearChecksum store offset := by
      funext address
      obtain hbefore | ⟨position, rfl⟩ : address < offset + 24 ∨ ∃ position, address = offset + 24 + position :=
        (Nat.lt_or_ge _ _).imp_right Nat.exists_eq_add_of_le
      · rw [clearChecksum, clearChecksum, patch_of_lt hbefore, patch_of_lt hbefore,
          Function.update_of_ne (by omega)]
      by_cases hinside : position < 4
      · rw [clearChecksum, clearChecksum, patch_add hinside, patch_add hinside]
      · rw [clearChecksum, clearChecksum, patch_of_le (by simp; omega), patch_of_le (by simp; omega),
          Function.update_of_ne (by omega)]
    rw [hcleared, hchecksum, headerAt_eq, headerAt_eq]
    exact (ofLe_slice_update_ne (by omega) (by omega) hvalue).symm
  · -- The checksum stands as it was, but the sum has changed.
    have hcleared : clearChecksum (Function.update store (offset + index) value) offset
        = Function.update (clearChecksum store offset) (offset + index) value := by
      funext address
      by_cases hsame : address = offset + index
      · subst hsame
        rw [Function.update_self, clearChecksum]
        by_cases hbefore : index < 24
        · rw [patch_of_lt (by omega), Function.update_self]
        · rw [patch_of_le (by simp; omega), Function.update_self]
      · rw [Function.update_of_ne hsame, clearChecksum, clearChecksum, patch, patch,
          Function.update_of_ne hsame]
    have hkept : clearChecksum store offset (offset + index) = store (offset + index) := by
      by_cases hbefore : index < 24
      · exact patch_of_lt (by omega)
      · exact patch_of_le (by simp; omega)
    have hstored : (headerAt (Function.update store (offset + index) value) offset).checksum
        = (headerAt store offset).checksum := by
      rw [headerAt_eq, headerAt_eq]
      exact ofLe_slice_update_outside (by omega)
    rw [hcleared, hstored, ← hchecksum, slice_update hindex, logfsChecksumBytes_eq,
      logfsChecksumBytes_eq]
    apply lossless_checksum.foldl_set_ne (by simp) (by simpa using hindex)
    rw [← hkept] at hvalue
    simpa [slice] using hvalue

theorem replayAt_update (hreplay : replayAt store limit tables offset = .replayed next logEnd)
    (hindex : index < 32 + (headerAt store offset).payloadSize)
    (hvalue : value ≠ store (offset + index)) :
    replayAt (Function.update store (offset + index) value) limit tables offset = .rejected := by
  obtain ⟨hmagic, -, -, -, hchecksum, happly⟩ := replayAt_eq_replayed_iff.mp hreplay
  have hnonzero : (headerAt (Function.update store (offset + index) value) offset).magic ≠ 0 :=
    magic_update_ne_zero hmagic
  cases hresult : replayAt (Function.update store (offset + index) value) limit tables offset with
  | rejected => rfl
  | endOfLog =>
      exfalso
      simp only [replayAt, if_neg hnonzero] at hresult
      split_ifs at hresult
      split at hresult <;> cases hresult
  | replayed last lastEnd =>
      exfalso
      obtain ⟨-, -, -, -, hchecksum', happly'⟩ := replayAt_eq_replayed_iff.mp hresult
      by_cases hfield : 12 ≤ index ∧ index < 16
      · have hne : (headerAt (Function.update store (offset + index) value) offset).payloadSize
            ≠ (headerAt store offset).payloadSize := by
          rw [headerAt_eq, headerAt_eq]
          exact ofLe_slice_update_ne (by omega) (by omega) hvalue
        have hsame : headerAt (Function.update store (offset + index) value) offset
            = { headerAt store offset with
              payloadSize :=
                (headerAt (Function.update store (offset + index) value) offset).payloadSize } := by
          rw [headerAt_eq, headerAt_eq]
          simp (disch := omega) only [ofLe_slice_update_outside]
        exact hne (payloadSize_eq_of_applyRecord (LogfsRecordHeader.fits_ofBytes _).payloadSize
          (LogfsRecordHeader.fits_ofBytes _).payloadSize hsame happly happly')
      · have hsize : (headerAt (Function.update store (offset + index) value) offset).payloadSize
            = (headerAt store offset).payloadSize := by
          rw [headerAt_eq, headerAt_eq]
          exact ofLe_slice_update_outside (by omega)
        rw [hsize] at hchecksum'
        exact checksum_update_ne hindex hvalue hchecksum hchecksum'

end Detection

/-- Whatever the state: when `logfs_replay_record` accepts the record at `offset`, it rejects that
record with any one of its bytes replaced, and changes nothing. -/
theorem logfs_replay_detects_changed_byte {state : LogfsState} {device : BlockDevice}
    (hdevice : state.blockDevice = some device) {offset : Nat}
    (haccept : (logfsReplayRecordCall state offset).1 = 0) {index : Nat}
    (hindex : index < 32 + (headerAt device.storage offset).payloadSize) {value : UInt8}
    (hvalue : value ≠ device.storage (offset + index)) :
    logfsReplayRecordCall (state.onDevice (device.setByte (offset + index) value)) offset
      = (-1, state.onDevice (device.setByte (offset + index) value)) := by
  have hreplay : ∃ next logEnd, logfsReplayRecord device state.superblock state.tables offset
      = .replayed next logEnd := by
    simp only [logfsReplayRecordCall, hdevice] at haccept
    cases hrecord : logfsReplayRecord device state.superblock state.tables offset with
    | replayed next logEnd => exact ⟨next, logEnd, rfl⟩
    | endOfLog => simp [hrecord] at haccept
    | rejected => simp [hrecord] at haccept
  obtain ⟨next, logEnd, hrecord⟩ := hreplay
  have hread : ∃ bytes, logfsReadBytes (some device) offset 32 = some bytes := by
    cases hread : logfsReadBytes (some device) offset 32 with
    | some bytes => exact ⟨bytes, rfl⟩
    | none =>
        rw [logfsReplayRecord, show LogfsRecordHeader.size = 32 from rfl, hread] at hrecord
        cases hrecord
  obtain ⟨bytes, hread⟩ := hread
  have husable := usable_of_logfsReadBytes (by decide) hread
  have hinside := logfsReadBytes_inside husable (by decide) hread
  have hstored : replayAt device.storage state.superblock.logLimit state.tables offset
      = .replayed next logEnd := by
    rcases logfsReplayRecord_cases husable hinside with heq | ⟨hrejected, -⟩
    · exact heq.symm.trans hrecord
    · rw [hrejected] at hrecord
      cases hrecord
  have hrejected : logfsReplayRecord (device.setByte (offset + index) value) state.superblock
      state.tables offset = .rejected := by
    have husable' : (device.setByte (offset + index) value).Usable :=
      ⟨husable.blockSize_pos, husable.blockSize_le⟩
    rcases logfsReplayRecord_cases husable' hinside with heq | ⟨hrejected, -⟩
    · exact heq.trans (replayAt_update hstored hindex hvalue)
    · exact hrejected
  simp only [logfsReplayRecordCall, LogfsState.onDevice, hrejected]

/-- A log with one record, which creates the file `a`. -/
def oneRecordDevice : BlockDevice where
  blockSize := 512
  blockCount := 2
  storage := patch (fun _ => 0) 512 (logfsRecordBytes logfsRecordTypeCreate 1 0 0 1 [0x61, 0])
  writes := []

def oneRecordState : LogfsState where
  blockDevice := some oneRecordDevice
  superblock := ⟨logfsMagic, logfsVersion, 512, 2, 512⟩
  tables := .empty
  logEnd := 512
  ready := true

theorem oneRecordState_accepted : (logfsReplayRecordCall oneRecordState 512).1 = 0 := by
  have husable : oneRecordDevice.Usable := ⟨by decide, by decide⟩
  have hname : logfsNameValid [0x61] = true ∧ (0 : UInt8) ∉ [0x61] := by decide
  have hids : ∀ file ∈ ([] : List LogfsFileState), file.fileId ≠ 1 := by simp
  have happly : applyRecord .empty (writtenHeader logfsRecordTypeCreate 1 0 0 1 [0x61, 0]) [0x61, 0]
      (512 + 32) = some (LogfsTables.empty.addFile 0 [0x61] 1 2) :=
    applyRecord_create (LogfsTables.Wf.empty 512 512) (by decide) hname.1 hname.2 (by simp) hids _
  have hsize : ([0x61, 0] : List UInt8).length ≤ 480 := by decide
  have hfits : (writtenHeader logfsRecordTypeCreate 1 0 0 1 [0x61, 0]).Fits :=
    writtenHeader_fits (by decide) (by decide) (by decide) (by decide) (by decide) hsize
  have hstored : slice oneRecordDevice.storage 512 (recordSize ([0x61, 0] : List UInt8).length)
      = logfsRecordBytes logfsRecordTypeCreate 1 0 0 1 [0x61, 0] := by
    rw [← length_logfsRecordBytes logfsRecordTypeCreate 1 0 0 1 hsize]
    exact slice_patch_self
  have hreplay : replayAt oneRecordDevice.storage 1024 .empty 512
      = .replayed (LogfsTables.empty.addFile 0 [0x61] 1 2) (512 + recordSize 2) := by
    rw [replayAt_written hsize (by decide) hfits hstored, happly]
    rfl
  have hrecord : logfsReplayRecord oneRecordDevice oneRecordState.superblock oneRecordState.tables 512
      = .replayed (LogfsTables.empty.addFile 0 [0x61] 1 2) (512 + recordSize 2) :=
    (logfsReplayRecord_eq husable (by decide) (by decide)).trans hreplay
  have hdevice : oneRecordState.blockDevice = some oneRecordDevice := rfl
  simp only [logfsReplayRecordCall, hdevice, hrecord]

/-- The record that creates `a` is not taken for an append when its type is changed to 2. -/
theorem logfs_replay_detects_changed_byte_type :
    logfsReplayRecordCall (oneRecordState.onDevice (oneRecordDevice.setByte 516 2)) 512
      = (-1, oneRecordState.onDevice (oneRecordDevice.setByte 516 2)) :=
  @logfs_replay_detects_changed_byte oneRecordState oneRecordDevice rfl 512 oneRecordState_accepted 4
    (by omega) 2 (by decide)

end DuckOs

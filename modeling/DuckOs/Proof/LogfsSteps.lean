import DuckOs.Proof.LogfsView

/-!
# Runs of LogFS and the log on disk

From any mounted state, whatever its log holds, a call leaves everything below the log end alone. So
a log that replays to the tables keeps doing so until a record is written that replay rejects, and
from then on replay stops there.
-/

namespace DuckOs

open ByteStore

/-! ### What every call does to the log -/

/-- `next` follows `state` by a call: the log has at most grown, below its old end nothing has
changed, and no segment has been dropped. -/
structure LogfsState.Follows (next state : LogfsState) (nextDevice device : BlockDevice) :
    Prop where
  mounted : ∃ files, next.Mounted nextDevice files
  agree : AgreeBelow state.logEnd nextDevice.storage device.storage
  logEnd_le : state.logEnd ≤ next.logEnd
  superblock_eq : next.superblock = state.superblock
  segments_le : state.tables.segments.length ≤ next.tables.segments.length

section Follows

variable {state next : LogfsState} {device nextDevice : BlockDevice}
  {files : List LogfsFileState} {replayed : LogfsTables} {stopEnd : Nat}

theorem LogfsState.Mounted.follows_create (hmounted : state.Mounted device files)
    (name : CString) : ∃ nextDevice, (logfsCreate state name).2.Follows state nextDevice device := by
  rcases logfsCreate_spec hmounted.running name
    with ⟨haccept, nextDevice, hresult, hwritten⟩ | ⟨-, nextFileId, hnext, hresult⟩
  · refine ⟨nextDevice, ?_⟩
    rw [hresult]
    exact {
      mounted := ⟨_, (hmounted.advance hwritten _).withTables
        (hmounted.holds.addFile haccept.slotFree _ _ _) (Nat.mod_lt _ (by decide))⟩
      agree := by rw [hwritten.storage_eq]; exact agreeBelow_patch
      logEnd_le := Nat.le_add_right _ _
      superblock_eq := rfl
      segments_le := le_rfl }
  · have hlt : nextFileId < 2 ^ 32 := by
      rcases hnext with rfl | rfl
      · exact hmounted.nextFileId_lt
      · exact Nat.mod_lt _ (by decide)
    refine ⟨device, ?_⟩
    rw [hresult]
    exact {
      mounted := ⟨files, hmounted.withTables
        ⟨hmounted.holds.files_eq, hmounted.holds.length_le, hmounted.holds.inUse⟩ hlt⟩
      agree := fun _ _ => rfl
      logEnd_le := le_rfl
      superblock_eq := rfl
      segments_le := le_rfl }

theorem LogfsState.Mounted.follows_append (hmounted : state.Mounted device files)
    (name : CString) (data : List UInt8) :
    ∃ nextDevice, (logfsAppend state name data).2.Follows state nextDevice device := by
  rcases logfsAppend_spec hmounted.running name data
    with ⟨slot, hslot, -, -, nextDevice, hwritten, hresult⟩ | ⟨-, hresult⟩
  · refine ⟨nextDevice, ?_⟩
    rw [hresult]
    split
    · exact {
        mounted := ⟨_, (hmounted.advance hwritten _).withTables
          (hmounted.holds.extendFile hslot _ _) hmounted.nextFileId_lt⟩
        agree := by rw [hwritten.storage_eq]; exact agreeBelow_patch
        logEnd_le := Nat.le_add_right _ _
        superblock_eq := rfl
        segments_le := by simp [LogfsTables.extendFile] }
    · exact {
        mounted := ⟨files, hmounted.advance hwritten _⟩
        agree := by rw [hwritten.storage_eq]; exact agreeBelow_patch
        logEnd_le := Nat.le_add_right _ _
        superblock_eq := rfl
        segments_le := le_rfl }
  · refine ⟨device, ?_⟩
    rw [hresult]
    exact ⟨⟨files, hmounted⟩, fun _ _ => rfl, le_rfl, rfl, le_rfl⟩

theorem LogfsState.Mounted.follows (hmounted : state.Mounted device files) (write : LogfsWrite) :
    ∃ nextDevice, (logfsWriteStep state write).2.Follows state nextDevice device := by
  cases write with
  | create name => exact hmounted.follows_create name
  | append name data => exact hmounted.follows_append name data

theorem LogfsState.Stuck.follows (hstuck : state.Stuck device replayed stopEnd)
    (hfollows : next.Follows state nextDevice device) :
    next.Stuck nextDevice replayed stopEnd := by
  intro store hagree
  rw [hfollows.superblock_eq]
  apply hstuck store
  intro address haddress
  rw [hagree address (haddress.trans_le hfollows.logEnd_le), hfollows.agree address haddress]

end Follows

/-! ### Reachable states -/

/-- Replay stops for good at `stopEnd`, with tables that hold `recovered`. -/
structure LogfsState.Halted (state : LogfsState) (device : BlockDevice) (replayed : LogfsTables)
    (recovered : List LogfsFileState) (start stop stopEnd : Nat) : Prop where
  mounted : ∃ files, state.Mounted device files
  stuck : state.Stuck device replayed stopEnd
  wf : replayed.Wf recovered start stop
  stop_le : stop ≤ state.logEnd
  stop_limit : stop ≤ state.superblock.logLimit

/-- Replaying the log leads to the tables, or halts on a record below the log end. -/
def LogfsState.Tracked (state : LogfsState) (device : BlockDevice) : Prop :=
  (∃ files replayed, state.Synced device files replayed)
    ∨ ∃ replayed recovered start stop stopEnd,
      state.Halted device replayed recovered start stop stopEnd

section Reachable

variable {state next : LogfsState} {device nextDevice : BlockDevice}
  {files recovered : List LogfsFileState} {replayed : LogfsTables} {start stop stopEnd : Nat}

theorem LogfsState.Halted.follows
    (hhalted : state.Halted device replayed recovered start stop stopEnd)
    (hfollows : next.Follows state nextDevice device) :
    next.Halted nextDevice replayed recovered start stop stopEnd where
  mounted := hfollows.mounted
  stuck := hhalted.stuck.follows hfollows
  wf := hhalted.wf
  stop_le := hhalted.stop_le.trans hfollows.logEnd_le
  stop_limit := by
    rw [hfollows.superblock_eq]
    exact hhalted.stop_limit

/-- A record that replay rejects halts it with the tables as they were. -/
theorem LogfsState.Synced.halted (hsynced : state.Synced device files replayed)
    (hfollows : next.Follows state nextDevice device)
    (hstuck : next.Stuck nextDevice replayed state.logEnd) :
    next.Halted nextDevice replayed files state.superblock.logOffset
      (min state.logEnd state.superblock.logLimit) state.logEnd where
  mounted := hfollows.mounted
  stuck := hstuck
  wf := hsynced.wf_replayed
  stop_le := (Nat.min_le_left _ _).trans hfollows.logEnd_le
  stop_limit := by
    rw [hfollows.superblock_eq]
    exact Nat.min_le_right _ _

/-- A refused call leaves the log and the tables in step. -/
theorem LogfsState.Synced.refused (hsynced : state.Synced device files replayed)
    {nextFileId : Nat} (hlt : nextFileId < 2 ^ 32) :
    (state.withTables { state.tables with nextFileId := nextFileId }).Synced device files
      replayed :=
  { hsynced with
    toMounted := hsynced.toMounted.withTables
      ⟨hsynced.holds.files_eq, hsynced.holds.length_le, hsynced.holds.inUse⟩ hlt
    wf := hsynced.wf.mono le_rfl rfl rfl }

theorem LogfsState.Synced.track_create (hsynced : state.Synced device files replayed)
    (name : CString) : ∃ nextDevice, (logfsCreate state name).2.Tracked nextDevice := by
  rcases logfsCreate_spec hsynced.toMounted.running name
    with ⟨haccept, nextDevice, hresult, hwritten⟩ | ⟨-, nextFileId, hnext, hresult⟩
  · refine ⟨nextDevice, ?_⟩
    rw [hresult]
    by_cases hid : ∀ file ∈ files, file.fileId ≠ state.tables.nextFileId
    · exact Or.inl ⟨_, _, hsynced.create haccept hid hwritten⟩
    · push Not at hid
      obtain ⟨file, hfile, hid⟩ := hid
      refine Or.inr ⟨_, _, _, _, _, hsynced.halted ?_
        (hsynced.create_stuck haccept hfile hid hwritten)⟩
      exact {
        mounted := ⟨_, (hsynced.toMounted.advance hwritten _).withTables
          (hsynced.holds.addFile haccept.slotFree _ _ _) (Nat.mod_lt _ (by decide))⟩
        agree := by rw [hwritten.storage_eq]; exact agreeBelow_patch
        logEnd_le := Nat.le_add_right _ _
        superblock_eq := rfl
        segments_le := le_rfl }
  · have hlt : nextFileId < 2 ^ 32 := by
      rcases hnext with rfl | rfl
      · exact hsynced.nextFileId_lt
      · exact Nat.mod_lt _ (by decide)
    rw [hresult]
    exact ⟨device, Or.inl ⟨files, replayed, hsynced.refused hlt⟩⟩

theorem LogfsState.Synced.track_append (hsynced : state.Synced device files replayed)
    (name : CString) (data : List UInt8) :
    ∃ nextDevice, (logfsAppend state name data).2.Tracked nextDevice := by
  rcases logfsAppend_spec hsynced.toMounted.running name data
    with ⟨slot, hslot, hwrites, -, nextDevice, hwritten, hresult⟩ | ⟨-, hresult⟩
  · refine ⟨nextDevice, ?_⟩
    rw [hresult]
    by_cases hroom : state.tables.segments.length < logfsMaxSegments
    · rw [if_pos hroom]
      exact Or.inl ⟨_, _, hsynced.append hslot hwrites hroom hwritten⟩
    · rw [if_neg hroom]
      refine Or.inr ⟨_, _, _, _, _, hsynced.halted ?_
        (hsynced.append_stuck hslot hwrites hroom hwritten)⟩
      exact {
        mounted := ⟨files, hsynced.toMounted.advance hwritten _⟩
        agree := by rw [hwritten.storage_eq]; exact agreeBelow_patch
        logEnd_le := Nat.le_add_right _ _
        superblock_eq := rfl
        segments_le := le_rfl }
  · rw [hresult]
    exact ⟨device, Or.inl ⟨files, replayed, hsynced⟩⟩

theorem LogfsReachable.tracked (hreachable : LogfsReachable state) :
    ∃ device, state.Tracked device := by
  induction hreachable with
  | mount device hblockSize hmount =>
      have hsize : 20 ≤ device.blockSize := hblockSize
      obtain ⟨-, -, hvalid⟩ := valid_of_logfsMount hmount
      simp only [logfsSuperblockValid, Bool.and_eq_true, decide_eq_true_eq] at hvalid
      obtain ⟨files, hsynced, -⟩ :=
        synced_of_logfsMount (hsize.trans hvalid.2) hmount
      exact ⟨device, Or.inl ⟨files, _, hsynced⟩⟩
  | write hstate write ih =>
      obtain ⟨device, ⟨files, replayed, hsynced⟩ | ⟨_, _, _, _, _, hhalted⟩⟩ := ih
      · cases write with
        | create name => exact hsynced.track_create name
        | append name data => exact hsynced.track_append name data
      · obtain ⟨files, hmounted⟩ := hhalted.mounted
        obtain ⟨nextDevice, hfollows⟩ := hmounted.follows write
        exact ⟨nextDevice, Or.inr ⟨_, _, _, _, _, hhalted.follows hfollows⟩⟩

end Reachable

end DuckOs

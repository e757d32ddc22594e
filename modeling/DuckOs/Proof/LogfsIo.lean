import DuckOs.Fs.Logfs
import DuckOs.Proof.BlockDevice

/-!
# LogFS byte ranges over blocks

`logfs_read_bytes` and `logfs_write_bytes` cut a byte range into pieces that lie in one block each.
A read delivers the bytes of the range, a write patches the range, and stopping a write after any
number of its block writes leaves a patch by a prefix of the data.
-/

namespace DuckOs

open ByteStore

section Read

variable {device : BlockDevice} {offset size : Nat}

/-- A read inside the device delivers exactly the bytes of the range. -/
theorem logfsReadBytes_eq (husable : device.Usable) (hrange : offset + size ≤ device.byteCount) :
    logfsReadBytes (some device) offset size = some (slice device.storage offset size) := by
  have hfits : ¬ logfsIoBufferSize < device.blockSize := Nat.not_lt.mpr husable.blockSize_le
  simp only [logfsReadBytes, if_neg hfits]
  rw [BlockDevice.readLoop_eq husable hrange size 0 [] (Nat.zero_le _) (by omega)]
  simp

theorem logfsReadBytes_inside (husable : device.Usable) (hsize : 0 < size) {bytes : List UInt8}
    (hread : logfsReadBytes (some device) offset size = some bytes) :
    offset + size ≤ device.byteCount := by
  by_contra hbeyond
  have hfits : ¬ logfsIoBufferSize < device.blockSize := Nat.not_lt.mpr husable.blockSize_le
  simp only [logfsReadBytes, if_neg hfits] at hread
  rw [BlockDevice.readLoop_eq_none husable (by omega) size 0 [] hsize] at hread
  cases hread

/-- A successful read comes from a device with usable blocks. -/
theorem usable_of_logfsReadBytes {device : BlockDevice} {offset size : Nat} {bytes : List UInt8}
    (hsize : 0 < size) (hread : logfsReadBytes (some device) offset size = some bytes) :
    device.Usable := by
  simp only [logfsReadBytes] at hread
  split_ifs at hread with hbuffer
  refine ⟨?_, Nat.not_lt.mp hbuffer⟩
  by_contra hzero
  have hblockSize : device.blockSize = 0 := by omega
  have hstuck : ∀ (fuel copied : Nat) (dest : List UInt8), copied < size →
      device.readLoop offset size fuel copied dest = none := by
    intro fuel
    induction fuel with
    | zero =>
        intro copied dest hmore
        rw [BlockDevice.readLoop, if_pos hmore]
    | succ fuel ih =>
        intro copied dest hmore
        rw [BlockDevice.readLoop, if_pos hmore]
        simp only [hblockSize, Nat.zero_sub, Nat.zero_min, Nat.add_zero]
        split
        · rfl
        · exact ih copied _ hmore
  rw [hstuck size 0 [] hsize] at hread
  cases hread

end Read

section Write

/-- `next` is `device` after the byte range at `offset` was overwritten by `data` in single-block
writes: its bytes are patched, and every prefix of those writes patches a prefix of `data`. -/
structure WrittenTo (device next : BlockDevice) (offset : Nat) (data : List UInt8) : Prop where
  blockSize_eq : next.blockSize = device.blockSize
  blockCount_eq : next.blockCount = device.blockCount
  storage_eq : next.storage = patch device.storage offset data
  writes_eq : ∃ added, next.writes = device.writes ++ added ∧
    ∀ count, ∃ kept,
      BlockDevice.applyWrites device.blockSize device.storage (added.take count)
        = patch device.storage offset (data.take kept)

variable {device next : BlockDevice} {offset size : Nat} {src : List UInt8}

theorem WrittenTo.nil (device : BlockDevice) (offset : Nat) : WrittenTo device device offset [] where
  blockSize_eq := rfl
  blockCount_eq := rfl
  storage_eq := by rw [patch_nil]
  writes_eq := ⟨[], by simp, fun _ => ⟨0, by simp⟩⟩

theorem WrittenTo.cons {chunk rest : List UInt8} (write : BlockWrite)
    (hwrite : patch device.storage (write.1 * device.blockSize) write.2
      = patch device.storage offset chunk)
    (hrest : WrittenTo
      { device with
        storage := patch device.storage (write.1 * device.blockSize) write.2
        writes := device.writes ++ [write] }
      next (offset + chunk.length) rest) :
    WrittenTo device next offset (chunk ++ rest) where
  blockSize_eq := hrest.blockSize_eq
  blockCount_eq := hrest.blockCount_eq
  storage_eq := by
    rw [hrest.storage_eq, patch_append]
    exact congrArg (fun store => patch store (offset + chunk.length) rest) hwrite
  writes_eq := by
    obtain ⟨added, hadded, hprefix⟩ := hrest.writes_eq
    refine ⟨write :: added, by simp [hadded], ?_⟩
    intro count
    cases count with
    | zero => exact ⟨0, by simp⟩
    | succ count =>
        obtain ⟨kept, hkept⟩ := hprefix count
        refine ⟨chunk.length + kept, ?_⟩
        rw [List.take_succ_cons, BlockDevice.applyWrites_cons, List.take_length_add_append]
        rw [patch_append, ← hwrite]
        exact hkept

theorem logfsWriteLoop_spec :
    ∀ (fuel copied : Nat) (device : BlockDevice), device.Usable →
      offset + src.length ≤ device.byteCount → copied ≤ src.length → src.length - copied ≤ fuel →
      ∃ next, logfsWriteLoop offset src.length src fuel copied device = (0, next)
        ∧ WrittenTo device next (offset + copied) (src.drop copied) := by
  intro fuel
  induction fuel with
  | zero =>
      intro copied device husable hrange hcopied hfuel
      have hdone : src.drop copied = [] := List.drop_eq_nil_of_le (by omega)
      refine ⟨device, ?_, ?_⟩
      · rw [logfsWriteLoop, if_neg (by omega)]
      · rw [hdone]
        exact WrittenTo.nil device _
  | succ fuel ih =>
      intro copied device husable hrange hcopied hfuel
      by_cases hmore : copied < src.length
      · have hblockSize := husable.blockSize_pos
        have hmod := Nat.mod_lt (offset + copied) hblockSize
        have hindex : (offset + copied) / device.blockSize < device.blockCount :=
          BlockDevice.blockIndex_lt (by omega)
        rw [logfsWriteLoop, if_pos hmore]
        simp only [BlockDevice.readBlocks_one hindex, BlockDevice.writeBlocks_one hindex]
        generalize hchunkSize :
          min (device.blockSize - (offset + copied) % device.blockSize) (src.length - copied)
            = chunkSize
        have hpos : 0 < chunkSize := by omega
        generalize hchunk : (src.drop copied).take chunkSize = chunk
        have hlength : chunk.length = chunkSize := by
          rw [← hchunk, List.length_take, List.length_drop]
          omega
        have hsplit : src.drop copied = chunk ++ src.drop (copied + chunkSize) := by
          rw [← hchunk, ← List.drop_drop, List.take_append_drop]
        have hstep : ∀ block : List UInt8,
            patch device.storage ((offset + copied) / device.blockSize * device.blockSize) block
              = patch device.storage (offset + copied) chunk →
            ∃ next, logfsWriteLoop offset src.length src fuel (copied + chunkSize)
                { device with
                  storage := patch device.storage
                    ((offset + copied) / device.blockSize * device.blockSize) block
                  writes := device.writes ++ [((offset + copied) / device.blockSize, block)] }
              = (0, next) ∧ WrittenTo device next (offset + copied) (src.drop copied) := by
          intro block hblock
          obtain ⟨next, hloop, hwritten⟩ := ih (copied + chunkSize)
            { device with
              storage := patch device.storage
                ((offset + copied) / device.blockSize * device.blockSize) block
              writes := device.writes ++ [((offset + copied) / device.blockSize, block)] }
            ⟨husable.blockSize_pos, husable.blockSize_le⟩ hrange (by omega) (by omega)
          refine ⟨next, hloop, ?_⟩
          rw [hsplit]
          refine WrittenTo.cons ((offset + copied) / device.blockSize, block) hblock ?_
          rwa [hlength, Nat.add_assoc]
        split
        · rename_i hwhole
          apply hstep
          have hposition :
              (offset + copied) / device.blockSize * device.blockSize = offset + copied := by
            have := Nat.div_add_mod (offset + copied) device.blockSize
            rw [hwhole.1, Nat.add_zero, Nat.mul_comm] at this
            exact this
          rw [hposition]
        · apply hstep
          rw [← hlength]
          exact patch_block (by omega)
      · have hdone : src.drop copied = [] := List.drop_eq_nil_of_le (by omega)
        refine ⟨device, ?_, ?_⟩
        · rw [logfsWriteLoop, if_neg hmore]
        · rw [hdone]
          exact WrittenTo.nil device _

theorem logfsWriteBytes_spec (offset : Nat) (src : List UInt8) (husable : device.Usable)
    (hrange : offset + src.length ≤ device.byteCount) :
    ∃ next, logfsWriteBytes (some device) offset src = (0, some next)
      ∧ WrittenTo device next offset src := by
  have hfits : ¬ logfsIoBufferSize < device.blockSize := Nat.not_lt.mpr husable.blockSize_le
  obtain ⟨next, hloop, hwritten⟩ :=
    logfsWriteLoop_spec src.length 0 device husable hrange (Nat.zero_le _) (by omega)
  refine ⟨next, ?_, by simpa using hwritten⟩
  simp only [logfsWriteBytes, if_neg hfits, hloop]

end Write

/-! ### Reading back -/

/-- `next` differs from `device` in the bytes of one range, which are those of `data`. -/
structure RangeReplaced (device next : BlockDevice) (offset : Nat) (data : List UInt8) : Prop where
  blockSize_eq : next.blockSize = device.blockSize
  blockCount_eq : next.blockCount = device.blockCount
  inside : ∀ index (hindex : index < data.length), next.storage (offset + index) = data[index]
  outside : ∀ position, position < offset ∨ offset + data.length ≤ position →
    next.storage position = device.storage position

theorem WrittenTo.rangeReplaced {device next : BlockDevice} {offset : Nat} {data : List UInt8}
    (hwritten : WrittenTo device next offset data) : RangeReplaced device next offset data where
  blockSize_eq := hwritten.blockSize_eq
  blockCount_eq := hwritten.blockCount_eq
  inside := by
    intro index hindex
    rw [hwritten.storage_eq, patch_add hindex]
  outside := by
    intro position houtside
    rw [hwritten.storage_eq]
    rcases houtside with hbefore | hbehind
    · exact patch_of_lt hbefore
    · exact patch_of_le hbehind

theorem WrittenTo.usable {device next : BlockDevice} {offset : Nat} {data : List UInt8}
    (hwritten : WrittenTo device next offset data) (husable : device.Usable) : next.Usable where
  blockSize_pos := by
    rw [hwritten.blockSize_eq]
    exact husable.blockSize_pos
  blockSize_le := by
    rw [hwritten.blockSize_eq]
    exact husable.blockSize_le

/-- Ranges of a device with blocks of 1 to 512 bytes are written and read to the byte. -/
theorem logfs_bytes_written_and_read (device : BlockDevice)
    (hblock : 1 ≤ device.blockSize ∧ device.blockSize ≤ 512) (offset : Nat) (data : List UInt8)
    (hrange : offset + data.length ≤ device.byteCount) :
    (∀ start size, start + size ≤ device.byteCount →
      logfsReadBytes (some device) start size = some (slice device.storage start size))
      ∧ ∃ next, logfsWriteBytes (some device) offset data = (0, some next)
        ∧ RangeReplaced device next offset data
        ∧ logfsReadBytes (some next) offset data.length = some data := by
  have husable : device.Usable := ⟨hblock.1, hblock.2⟩
  obtain ⟨next, hwrite, hwritten⟩ := logfsWriteBytes_spec offset data husable hrange
  refine ⟨fun start size hinside => logfsReadBytes_eq husable hinside, next, hwrite,
    hwritten.rangeReplaced, ?_⟩
  have hnext : offset + data.length ≤ next.byteCount := by
    rwa [BlockDevice.byteCount, hwritten.blockCount_eq, hwritten.blockSize_eq]
  rw [logfsReadBytes_eq (hwritten.usable husable) hnext, hwritten.storage_eq, slice_patch_self]

/-- Seven bytes over three blocks of four bytes: the last byte of one, all of the next, two of the third. -/
theorem logfs_bytes_written_and_read_small :
    let device : BlockDevice := ⟨4, 4, fun _ => 0xee, []⟩
    ∃ next, logfsWriteBytes (some device) 3 [1, 2, 3, 4, 5, 6, 7] = (0, some next)
      ∧ next.storage 2 = 0xee ∧ next.storage 3 = 1 ∧ next.storage 9 = 7 ∧ next.storage 10 = 0xee
      ∧ logfsReadBytes (some next) 3 7 = some [1, 2, 3, 4, 5, 6, 7] := by
  obtain ⟨-, next, hwrite, hreplaced, hread⟩ := logfs_bytes_written_and_read
    ⟨4, 4, fun _ => 0xee, []⟩ ⟨by decide, by decide⟩ 3 [1, 2, 3, 4, 5, 6, 7] (by decide)
  exact ⟨next, hwrite, hreplaced.outside 2 (Or.inl (by decide)), hreplaced.inside 0 (by decide),
    hreplaced.inside 6 (by decide), hreplaced.outside 10 (Or.inr (by decide)), hread⟩

end DuckOs

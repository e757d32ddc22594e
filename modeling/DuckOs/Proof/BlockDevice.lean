import DuckOs.Block.BlockDevice
import Mathlib.Tactic

/-!
# Byte ranges over blocks

A byte range is read and written in pieces that lie in one block each. The read loop of the file
systems delivers the bytes of the range, and fails when the range is not inside the device.
-/

namespace DuckOs

open ByteStore

/-- A device whose blocks are non-empty and fit the file systems' one-block buffers. -/
structure BlockDevice.Usable (device : BlockDevice) : Prop where
  blockSize_pos : 0 < device.blockSize
  blockSize_le : device.blockSize ≤ 512

section Chunk

variable {device : BlockDevice} {offset size copied : Nat}

/-- The block under `position` is in range when the position is. -/
theorem BlockDevice.blockIndex_lt {position : Nat}
    (hinside : position < device.byteCount) : position / device.blockSize < device.blockCount :=
  Nat.div_lt_of_lt_mul (by rwa [BlockDevice.byteCount, Nat.mul_comm] at hinside)

/-- The part of the block under `position` that a piece of length `chunkSize` reads. -/
theorem slice_block {store : Store} {blockSize position chunkSize : Nat}
    (hchunk : chunkSize ≤ blockSize - position % blockSize) :
    ((slice store (position / blockSize * blockSize) blockSize).drop (position % blockSize)).take
      chunkSize = slice store position chunkSize := by
  have hposition : position / blockSize * blockSize + position % blockSize = position := by
    rw [Nat.mul_comm]
    exact Nat.div_add_mod position blockSize
  rw [drop_slice, take_slice, hposition, Nat.min_eq_left hchunk]

theorem patch_block {store : Store} {blockSize position : Nat} {chunk : List UInt8}
    (hchunk : chunk.length ≤ blockSize - position % blockSize) :
    patch store (position / blockSize * blockSize)
      ((slice store (position / blockSize * blockSize) blockSize).take (position % blockSize)
        ++ chunk
        ++ (slice store (position / blockSize * blockSize) blockSize).drop
          (position % blockSize + chunk.length))
      = patch store position chunk := by
  have hposition : position / blockSize * blockSize + position % blockSize = position := by
    rw [Nat.mul_comm]
    exact Nat.div_add_mod position blockSize
  by_cases hblockSize : blockSize = 0
  · have hnil : chunk = [] := List.length_eq_zero_iff.mp (by omega)
    simp [hblockSize, hnil]
  have hmod : position % blockSize < blockSize := Nat.mod_lt _ (by omega)
  rw [take_slice, drop_slice, Nat.min_eq_left hmod.le, patch_append, patch_append, patch_slice_self,
    length_slice, List.length_append, length_slice, hposition, ← Nat.add_assoc, hposition]
  have htail : slice store (position + chunk.length)
      (blockSize - (position % blockSize + chunk.length))
      = slice (patch store position chunk) (position + chunk.length)
        (blockSize - (position % blockSize + chunk.length)) :=
    (slice_patch_of_disjoint (Or.inr le_rfl)).symm
  rw [htail, patch_slice_self]

end Chunk

section Read

variable {device : BlockDevice} {offset size : Nat}

theorem BlockDevice.readLoop_eq (husable : device.Usable) (hrange : offset + size ≤ device.byteCount) :
    ∀ (fuel copied : Nat) (dest : List UInt8), copied ≤ size → size - copied ≤ fuel →
      device.readLoop offset size fuel copied dest
        = some (dest ++ slice device.storage (offset + copied) (size - copied)) := by
  intro fuel
  induction fuel with
  | zero =>
      intro copied dest hcopied hfuel
      have hdone : size - copied = 0 := by omega
      rw [BlockDevice.readLoop, if_neg (by omega), hdone, slice_zero, List.append_nil]
  | succ fuel ih =>
      intro copied dest hcopied hfuel
      by_cases hmore : copied < size
      · have hblockSize := husable.blockSize_pos
        have hmod := Nat.mod_lt (offset + copied) hblockSize
        have hindex : (offset + copied) / device.blockSize < device.blockCount :=
          BlockDevice.blockIndex_lt (by omega)
        rw [BlockDevice.readLoop, if_pos hmore]
        simp only [BlockDevice.readBlocks_one hindex]
        rw [slice_block (Nat.min_le_left _ _)]
        generalize hchunk :
          min (device.blockSize - (offset + copied) % device.blockSize) (size - copied) = chunkSize
        have hpos : 0 < chunkSize := by omega
        have hsplit : size - copied = chunkSize + (size - (copied + chunkSize)) := by omega
        rw [ih (copied + chunkSize) _ (by omega) (by omega), List.append_assoc,
          ← Nat.add_assoc offset, ← slice_add, ← hsplit]
      · have hdone : size - copied = 0 := by omega
        rw [BlockDevice.readLoop, if_neg hmore, hdone, slice_zero, List.append_nil]

/-- Whatever the device is like, no more is read than was asked for. -/
theorem BlockDevice.length_le_of_readLoop {bytes : List UInt8} :
    ∀ {fuel copied : Nat} {dest : List UInt8}, copied ≤ size → dest.length ≤ copied →
      device.readLoop offset size fuel copied dest = some bytes → bytes.length ≤ size := by
  intro fuel
  induction fuel with
  | zero =>
      intro copied dest hcopied hdest hread
      rw [BlockDevice.readLoop] at hread
      split at hread
      · cases hread
      · cases hread
        exact hdest.trans hcopied
  | succ fuel ih =>
      intro copied dest hcopied hdest hread
      rw [BlockDevice.readLoop] at hread
      split at hread
      · dsimp only at hread
        split at hread
        · cases hread
        · refine ih (by omega) ?_ hread
          rw [List.length_append]
          exact Nat.add_le_add hdest (List.length_take_le _ _)
      · cases hread
        exact hdest.trans hcopied

theorem BlockDevice.readLoop_eq_none (husable : device.Usable)
    (hbeyond : device.byteCount < offset + size) :
    ∀ (fuel copied : Nat) (dest : List UInt8), copied < size →
      device.readLoop offset size fuel copied dest = none := by
  intro fuel
  induction fuel with
  | zero =>
      intro copied dest hmore
      rw [BlockDevice.readLoop, if_pos hmore]
  | succ fuel ih =>
      intro copied dest hmore
      rw [BlockDevice.readLoop, if_pos hmore]
      by_cases hindex : (offset + copied) / device.blockSize < device.blockCount
      · simp only [BlockDevice.readBlocks_one hindex]
        apply ih
        have hblock : ((offset + copied) / device.blockSize + 1) * device.blockSize
            ≤ device.byteCount := Nat.mul_le_mul_right _ hindex
        have hdivmod := Nat.div_add_mod (offset + copied) device.blockSize
        rw [Nat.mul_comm, Nat.mul_succ] at hblock
        have hmod := Nat.mod_lt (offset + copied) husable.blockSize_pos
        omega
      · have hnone : device.readBlocks ((offset + copied) / device.blockSize) 1 = none := by
          rw [BlockDevice.readBlocks, if_neg]
          simp only [BlockDevice.rangeValid, Bool.and_eq_true, decide_eq_true_eq]
          omega
        simp only [hnone]

end Read

end DuckOs

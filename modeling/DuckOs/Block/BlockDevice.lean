import DuckOs.Lib.ByteStore

/-!
# Block devices

`include/block/block_device.h` and the range check of `src/drivers/ramdisk.c`: a device transfers
whole blocks, refuses a range that does not lie inside it, and otherwise succeeds. Completed block
writes are also recorded in order, so that the image left by a power cut in the middle of an
operation can be spelled out.
-/

namespace DuckOs

open ByteStore

/-- One completed `write_blocks` call: first block and data. -/
abbrev BlockWrite := Nat × List UInt8

structure BlockDevice where
  blockSize : Nat
  blockCount : Nat
  storage : Store
  writes : List BlockWrite

namespace BlockDevice

/-- `ramdisk_range_valid`. -/
def rangeValid (device : BlockDevice) (startBlock count : Nat) : Bool :=
  count != 0 && decide (startBlock + count ≤ device.blockCount)

/-- `read_blocks`. -/
def readBlocks (device : BlockDevice) (startBlock count : Nat) : Option (List UInt8) :=
  if device.rangeValid startBlock count then
    some (slice device.storage (startBlock * device.blockSize) (count * device.blockSize))
  else none

/-- `write_blocks`; `data` is the caller's buffer of `count` blocks. -/
def writeBlocks (device : BlockDevice) (startBlock count : Nat) (data : List UInt8) :
    Option BlockDevice :=
  if device.rangeValid startBlock count then
    some { device with
      storage := patch device.storage (startBlock * device.blockSize) data
      writes := device.writes ++ [(startBlock, data)] }
  else none

/-- The loop of `logfs_read_bytes` and `tinyfs_read_bytes`. -/
def readLoop (device : BlockDevice) (offset size : Nat) :
    (fuel copied : Nat) → (dest : List UInt8) → Option (List UInt8)
  | 0, copied, dest => if copied < size then none else some dest
  | fuel + 1, copied, dest =>
      if copied < size then
        let blockIndex := (offset + copied) / device.blockSize
        let blockOffset := (offset + copied) % device.blockSize
        let chunkSize := min (device.blockSize - blockOffset) (size - copied)
        match device.readBlocks blockIndex 1 with
        | none => none
        | some block =>
            readLoop device offset size fuel (copied + chunkSize)
              (dest ++ (block.drop blockOffset).take chunkSize)
      else some dest

/-- The image reached from `store` by the given block writes. -/
def applyWrites (blockSize : Nat) (store : Store) (writes : List BlockWrite) : Store :=
  writes.foldl (fun image write => patch image (write.1 * blockSize) write.2) store

/-- The bytes of the device, counted from its first block. -/
def byteCount (device : BlockDevice) : Nat := device.blockCount * device.blockSize

variable {device next : BlockDevice} {startBlock : Nat} {data : List UInt8}

theorem readBlocks_one (hrange : startBlock < device.blockCount) :
    device.readBlocks startBlock 1
      = some (slice device.storage (startBlock * device.blockSize) device.blockSize) := by
  have hvalid : device.rangeValid startBlock 1 = true := by
    simp [rangeValid]
    omega
  rw [readBlocks, if_pos hvalid, Nat.one_mul]

theorem writeBlocks_one (hrange : startBlock < device.blockCount) :
    device.writeBlocks startBlock 1 data
      = some { device with
          storage := patch device.storage (startBlock * device.blockSize) data
          writes := device.writes ++ [(startBlock, data)] } := by
  have hvalid : device.rangeValid startBlock 1 = true := by
    simp [rangeValid]
    omega
  rw [writeBlocks, if_pos hvalid]

@[simp]
theorem applyWrites_nil (blockSize : Nat) (store : Store) : applyWrites blockSize store [] = store :=
  rfl

@[simp]
theorem applyWrites_cons (blockSize : Nat) (store : Store) (write : BlockWrite)
    (rest : List BlockWrite) :
    applyWrites blockSize store (write :: rest)
      = applyWrites blockSize (patch store (write.1 * blockSize) write.2) rest :=
  rfl

end BlockDevice

end DuckOs

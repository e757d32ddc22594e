import DuckOs.Drivers.Virtqueue
import DuckOs.Lib.ByteStore

/-!
# What a device finds in a chain

A device follows the chain of descriptors from the head it has taken. It reads the buffers that the
driver wrote, one behind the other, and fills those that are marked for writing.
-/

namespace DuckOs

/-- The descriptors from a head on. -/
def virtqChain (desc : Nat → VirtqDesc) : (fuel head : Nat) → List VirtqDesc
  | 0, _ => []
  | fuel + 1, head =>
      if (desc head).flags &&& virtqDescFNext ≠ 0 then
        desc head :: virtqChain desc fuel (desc head).next
      else [desc head]

def Virtqueue.chain (queue : Virtqueue) (head : Nat) : List VirtqDesc :=
  virtqChain queue.desc queue.size head

/-- Marked for writing by the device. -/
def VirtqDesc.writable (desc : VirtqDesc) : Bool := desc.flags &&& virtqDescFWrite ≠ 0

/-- All that the device may read. -/
def virtqGather (read : (addr len : Nat) → List UInt8) (chain : List VirtqDesc) : List UInt8 :=
  (chain.filter fun desc => !desc.writable).flatMap fun desc => read desc.addr desc.len

/-- The room that the device has to write. -/
def virtqRoom (chain : List VirtqDesc) : Nat := ((chain.filter (·.writable)).map (·.len)).sum

/-- What the device writes, buffer by buffer. -/
def virtqScatter : List VirtqDesc → (data : List UInt8) → List (Nat × List UInt8)
  | [], _ => []
  | desc :: rest, data =>
      if desc.writable then (desc.addr, data.take desc.len) :: virtqScatter rest (data.drop desc.len)
      else virtqScatter rest data

theorem VirtqDesc.writable_mk (addr len flags next : Nat) :
    (VirtqDesc.mk addr len flags next).writable = decide (flags &&& virtqDescFWrite ≠ 0) := rfl

section Cons

variable {desc : VirtqDesc} {read : (addr len : Nat) → List UInt8} {rest : List VirtqDesc}

@[simp]
theorem virtqGather_nil : virtqGather read [] = [] := rfl

theorem virtqGather_cons_readable (hdesc : desc.writable = false) :
    virtqGather read (desc :: rest) = read desc.addr desc.len ++ virtqGather read rest := by
  rw [virtqGather, virtqGather, List.filter_cons_of_pos (by simp [hdesc]), List.flatMap_cons]

theorem virtqGather_cons_writable (hdesc : desc.writable = true) :
    virtqGather read (desc :: rest) = virtqGather read rest := by
  rw [virtqGather, virtqGather, List.filter_cons_of_neg (by simp [hdesc])]

@[simp]
theorem virtqRoom_nil : virtqRoom [] = 0 := rfl

theorem virtqRoom_cons_readable (hdesc : desc.writable = false) :
    virtqRoom (desc :: rest) = virtqRoom rest := by
  rw [virtqRoom, virtqRoom, List.filter_cons_of_neg (by simp [hdesc])]

theorem virtqRoom_cons_writable (hdesc : desc.writable = true) :
    virtqRoom (desc :: rest) = desc.len + virtqRoom rest := by
  rw [virtqRoom, virtqRoom, List.filter_cons_of_pos (by simp [hdesc]), List.map_cons, List.sum_cons]

@[simp]
theorem virtqScatter_nil (data : List UInt8) : virtqScatter [] data = [] := rfl

theorem virtqScatter_cons_readable (hdesc : desc.writable = false) (data : List UInt8) :
    virtqScatter (desc :: rest) data = virtqScatter rest data := by
  rw [virtqScatter, hdesc, if_neg Bool.false_ne_true]

theorem virtqScatter_cons_writable (hdesc : desc.writable = true) (data : List UInt8) :
    virtqScatter (desc :: rest) data
      = (desc.addr, data.take desc.len) :: virtqScatter rest (data.drop desc.len) := by
  rw [virtqScatter, hdesc, if_pos rfl]

end Cons

end DuckOs

import DuckOs.Lib.Machine
import DuckOs.Lib.Ring
import Mathlib.Algebra.Group.Nat.Defs
import Mathlib.Logic.Function.Basic

/-!
# Virtqueues

`src/drivers/virtqueue.c`, with a device on the other side of the queue. The descriptor table and the
two rings are arrays in one page that driver and device share.
-/

namespace DuckOs

structure VirtqDesc where
  addr : Nat
  len : Nat
  flags : Nat
  next : Nat
  deriving DecidableEq

/-- A descriptor after `memset`. -/
def VirtqDesc.zero : VirtqDesc := ⟨0, 0, 0, 0⟩

def virtqDescFNext : Nat := 1

def virtqDescFWrite : Nat := 2

structure VirtqUsedElem where
  id : Nat
  len : Nat
  deriving DecidableEq

structure Virtqueue where
  size : Nat
  numFree : Nat
  freeHead : Nat
  lastUsedIdx : Nat
  page : Nat
  desc : Nat → VirtqDesc
  availIdx : Nat
  availRing : Nat → Nat
  usedIdx : Nat
  usedRing : Nat → VirtqUsedElem

/-- Counters are of type `unsigned short`. -/
def virtqModulus : Nat := 2 ^ 16

def virtqPageSize : Nat := 4096

def virtqueueAlignUp (value alignment : Nat) : Nat := (value + alignment - 1) / alignment * alignment

def virtqDescBytes (size : Nat) : Nat := 16 * size

def virtqAvailBytes (size : Nat) : Nat := 4 + 2 * size + 2

def virtqUsedOffset (size : Nat) : Nat :=
  virtqueueAlignUp (virtqDescBytes size + virtqAvailBytes size) 4

def virtqUsedBytes (size : Nat) : Nat := 4 + 8 * size + 2

/-- The loop that chains the free descriptors, from `freeHead` on. -/
def virtqueueChainLoop (size : Nat) : (fuel freeHead : Nat) → (Nat → VirtqDesc) → Nat → VirtqDesc
  | 0, freeHead, desc => Function.update desc freeHead { desc freeHead with next := 0 }
  | fuel + 1, freeHead, desc =>
      if freeHead < (size - 1) % 2 ^ 16 then
        virtqueueChainLoop size fuel (freeHead + 1)
          (Function.update desc freeHead { desc freeHead with next := freeHead + 1 })
      else Function.update desc freeHead { desc freeHead with next := 0 }

/-- `page` is what `pmm_alloc_page` returns. -/
def virtqueueInit (size page : Nat) : Option Virtqueue :=
  if size = 0 then none
  else if virtqPageSize < virtqUsedOffset size + virtqUsedBytes size then none
  else if page = 0 then none
  else
    some {
      size := size
      numFree := size
      freeHead := 0
      lastUsedIdx := 0
      page := page
      desc := virtqueueChainLoop size size 0 fun _ => .zero
      availIdx := 0
      availRing := fun _ => 0
      usedIdx := 0
      usedRing := fun _ => ⟨0, 0⟩ }

def virtqueueAllocDesc (queue : Virtqueue) : Option Nat × Virtqueue :=
  if queue.numFree = 0 then (none, queue)
  else
    let index := queue.freeHead
    (some index, { queue with
      freeHead := (queue.desc index).next
      numFree := queue.numFree - 1
      desc := Function.update queue.desc index { queue.desc index with next := 0, flags := 0 } })

def virtqueueFreeDesc (queue : Virtqueue) (index : Nat) : Virtqueue :=
  { queue with
    desc := Function.update queue.desc index
      { queue.desc index with next := queue.freeHead, flags := 0 }
    freeHead := index
    numFree := (queue.numFree + 1) % 2 ^ 16 }

def virtqueueSubmit (queue : Virtqueue) (head : Nat) : Virtqueue :=
  { queue with
    availRing := Function.update queue.availRing (queue.availIdx % queue.size) head
    availIdx := (queue.availIdx + 1) % virtqModulus }

/-- The head and the length that are stored to the arguments, or `none` for the return value 0. -/
def virtqueuePopUsed (queue : Virtqueue) : Option VirtqUsedElem × Virtqueue :=
  if queue.lastUsedIdx = queue.usedIdx then (none, queue)
  else
    (some (queue.usedRing (queue.lastUsedIdx % queue.size)),
      { queue with lastUsedIdx := (queue.lastUsedIdx + 1) % virtqModulus })

/-! ### Descriptors -/

/-- The first `count` descriptors of the free list that starts at `head`. -/
def virtqFreeWalk (desc : Nat → VirtqDesc) : (count head : Nat) → List Nat
  | 0, _ => []
  | count + 1, head => head :: virtqFreeWalk desc count (desc head).next

def Virtqueue.freeList (queue : Virtqueue) : List Nat :=
  virtqFreeWalk queue.desc queue.numFree queue.freeHead

/-- A queue, and the indices that `virtqueue_alloc_desc` has returned and that have not been freed since. -/
structure VirtqUse where
  queue : Virtqueue
  allocated : List Nat

/-- `write` is what a caller does to a descriptor. -/
inductive VirtqUseOp where
  | alloc
  | free (index : Nat)
  | write (index : Nat) (desc : VirtqDesc)

namespace VirtqUse

def next (use : VirtqUse) : VirtqUseOp → VirtqUse
  | .alloc =>
      let result := virtqueueAllocDesc use.queue
      ⟨result.2, result.1.toList ++ use.allocated⟩
  | .free index => ⟨virtqueueFreeDesc use.queue index, use.allocated.erase index⟩
  | .write index desc =>
      { use with queue := { use.queue with desc := Function.update use.queue.desc index desc } }

/-- Callers free and write only what they have been given. -/
def Allowed (use : VirtqUse) : VirtqUseOp → Prop
  | .alloc => True
  | .free index => index ∈ use.allocated
  | .write index _ => index ∈ use.allocated

instance (use : VirtqUse) : (op : VirtqUseOp) → Decidable (use.Allowed op)
  | .alloc => .isTrue trivial
  | .free _ => inferInstanceAs (Decidable (_ ∈ _))
  | .write _ _ => inferInstanceAs (Decidable (_ ∈ _))

end VirtqUse

/-! ### The device -/

/-- A device takes heads from the available ring in order and holds them until it completes them, in
any order. Both of its counters are its own. -/
structure VirtqDevice where
  availIdx : Nat
  held : List Nat
  usedIdx : Nat

def VirtqDevice.reset : VirtqDevice := ⟨0, [], 0⟩

def VirtqDevice.consume (device : VirtqDevice) (queue : Virtqueue) : Option Nat × VirtqDevice :=
  if device.availIdx = queue.availIdx then (none, device)
  else
    let head := queue.availRing (device.availIdx % queue.size)
    (some head, { device with
      availIdx := (device.availIdx + 1) % virtqModulus
      held := device.held ++ [head] })

/-- The device writes the used element and publishes its counter. -/
def VirtqDevice.complete (device : VirtqDevice) (queue : Virtqueue) (position len : Nat) :
    Option Nat × VirtqDevice × Virtqueue :=
  match device.held[position]? with
  | none => (none, device, queue)
  | some head =>
      let usedIdx := (device.usedIdx + 1) % virtqModulus
      (some head, { device with held := device.held.eraseIdx position, usedIdx := usedIdx },
        { queue with
          usedRing := Function.update queue.usedRing (device.usedIdx % queue.size) ⟨head, len⟩
          usedIdx := usedIdx })

/-! ### Driver and device -/

inductive VirtqOp where
  | submit (head : Nat)
  | consume
  | complete (position len : Nat)
  | pop

/-- What an operation hands over: a head to the device or back, or a used element to the driver. -/
inductive VirtqResult where
  | submitted
  | consumed (head : Option Nat)
  | completed (head : Option Nat)
  | popped (elem : Option VirtqUsedElem)
  deriving DecidableEq

def virtqStep (state : Virtqueue × VirtqDevice) : VirtqOp → VirtqResult × (Virtqueue × VirtqDevice)
  | .submit head => (.submitted, virtqueueSubmit state.1 head, state.2)
  | .consume =>
      let result := state.2.consume state.1
      (.consumed result.1, state.1, result.2)
  | .complete position len =>
      let result := state.2.complete state.1 position len
      (.completed result.1, result.2.2, result.2.1)
  | .pop =>
      let result := virtqueuePopUsed state.1
      (.popped result.1, result.2, state.2)

/-- What the queue is for: heads travel to the device and completions back, both first in, first
out. -/
structure VirtqFifos where
  submitted : List Nat
  held : List Nat
  completed : List VirtqUsedElem

def VirtqFifos.empty : VirtqFifos := ⟨[], [], []⟩

/-- Requests that have been submitted and whose completion has not been popped. -/
def VirtqFifos.outstanding (fifos : VirtqFifos) : Nat :=
  fifos.submitted.length + fifos.held.length + fifos.completed.length

def virtqFifosStep (fifos : VirtqFifos) : VirtqOp → VirtqResult × VirtqFifos
  | .submit head => (.submitted, { fifos with submitted := fifos.submitted ++ [head] })
  | .consume =>
      match fifos.submitted with
      | [] => (.consumed none, fifos)
      | head :: rest =>
          (.consumed (some head), { fifos with submitted := rest, held := fifos.held ++ [head] })
  | .complete position len =>
      match fifos.held[position]? with
      | none => (.completed none, fifos)
      | some head =>
          (.completed (some head), { fifos with
            held := fifos.held.eraseIdx position
            completed := fifos.completed ++ [⟨head, len⟩] })
  | .pop =>
      match fifos.completed with
      | [] => (.popped none, fifos)
      | elem :: rest => (.popped (some elem), { fifos with completed := rest })

/-- A request is only submitted when fewer than `size` are outstanding. -/
def VirtqFifos.Room (size : Nat) (fifos : VirtqFifos) : VirtqOp → Prop
  | .submit _ => fifos.outstanding < size
  | _ => True

instance (size : Nat) (fifos : VirtqFifos) : (op : VirtqOp) → Decidable (fifos.Room size op)
  | .submit _ => inferInstanceAs (Decidable (_ < _))
  | .consume => .isTrue trivial
  | .complete _ _ => .isTrue trivial
  | .pop => .isTrue trivial

end DuckOs

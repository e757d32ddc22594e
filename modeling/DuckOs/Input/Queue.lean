import DuckOs.Input.Input
import DuckOs.Lib.DropQueue
import Mathlib.Logic.Function.Basic

/-!
# The input queue

The queue of `src/input/input.c`. One of the slots stays free, so that a full queue and an empty one have
different indices.
-/

namespace DuckOs

def inputQueueCapacity : Nat := 64

/-- `input_queue`, `input_queue_head` and `input_queue_tail`. -/
structure InputQueue where
  slots : Nat → InputEvent
  head : Nat
  tail : Nat

/-- `input_init`; the slots keep what they hold. -/
def inputQueueInit (slots : Nat → InputEvent) : InputQueue := ⟨slots, 0, 0⟩

def inputQueueIsEmpty (queue : InputQueue) : Bool := queue.head = queue.tail

def inputQueueIsFull (queue : InputQueue) : Bool :=
  (queue.tail + 1) % inputQueueCapacity = queue.head

def inputPushEvent (queue : InputQueue) (event : InputEvent) : InputQueue :=
  let head := if inputQueueIsFull queue then (queue.head + 1) % inputQueueCapacity else queue.head
  { slots := Function.update queue.slots queue.tail event
    head := head
    tail := (queue.tail + 1) % inputQueueCapacity }

/-- `none` is the return value 0. -/
def inputPopEvent (queue : InputQueue) : Option InputEvent × InputQueue :=
  if inputQueueIsEmpty queue then (none, queue)
  else (some (queue.slots queue.head), { queue with head := (queue.head + 1) % inputQueueCapacity })

def inputHasEvent (queue : InputQueue) : Bool := !inputQueueIsEmpty queue

def inputQueueStep (queue : InputQueue) : DropQueue.Op InputEvent → Option InputEvent × InputQueue
  | .push event => (none, inputPushEvent queue event)
  | .pop => inputPopEvent queue

end DuckOs

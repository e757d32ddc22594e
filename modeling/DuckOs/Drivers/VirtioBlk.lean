import DuckOs.Drivers.Virtqueue

/-!
# The virtio block driver

`src/drivers/virtio_blk.c`. `virtio_blk_transfer` falls into the part up to the unlocking, the loop
that waits for `request_done`, and the reading of the result; between these, other tasks, the interrupt
handler and the device go on. The lock and the masking of interrupts make the first part atomic.
-/

namespace DuckOs

def virtioBlkQueueSize : Nat := 8

def virtioBlkBlockSize : Nat := 512

def virtioBlkTIn : Nat := 0

def virtioBlkTOut : Nat := 1

def virtioBlkSOk : Nat := 0

/-- `virtio_blk_state`, with the addresses of its request header and its status byte. -/
structure VirtioBlkState where
  available : Bool
  blockSize : Nat
  blockCount : Nat
  queue : Virtqueue
  headerAddr : Nat
  statusAddr : Nat
  headerType : Nat
  headerSector : Nat
  requestStatus : Nat
  requestDone : Bool
  requestBusy : Bool
  requestUsedLen : Nat
  requestBuffer : Nat
  requestBlockCount : Nat
  headerDesc : Nat
  dataDesc : Nat
  statusDesc : Nat

/-- The arguments of `virtio_blk_transfer`. -/
structure VirtioBlkRequest where
  requestType : Nat
  startBlock : Nat
  blockCount : Nat
  buffer : Nat

/-- `virtio_blk_read_capacity`, from the two registers. -/
def virtioBlkReadCapacity (low high : BitVec 32) : BitVec 64 :=
  low.setWidth 64 ||| high.setWidth 64 <<< 32

/-- `virtio_blk_init` on a device that accepts its features and its queue; `page` is what
`pmm_alloc_page` returns. -/
def virtioBlkInit (page capacity headerAddr statusAddr : Nat) : Option VirtioBlkState :=
  match virtqueueInit virtioBlkQueueSize page with
  | none => none
  | some queue =>
      if capacity = 0 then none
      else
        some {
          available := true
          blockSize := virtioBlkBlockSize
          blockCount := capacity
          queue := queue
          headerAddr := headerAddr
          statusAddr := statusAddr
          headerType := 0
          headerSector := 0
          requestStatus := 0
          requestDone := false
          requestBusy := false
          requestUsedLen := 0
          requestBuffer := 0
          requestBlockCount := 0
          headerDesc := 0
          dataDesc := 0
          statusDesc := 0 }

/-- `byte_count`, a 64-bit product. -/
def virtioBlkByteCount (state : VirtioBlkState) (request : VirtioBlkRequest) : Nat :=
  request.blockCount * state.blockSize % 2 ^ 64

/-- The checks of `virtio_blk_transfer` before it takes the lock. -/
def virtioBlkAccepts (state : VirtioBlkState) (request : VirtioBlkRequest) : Bool :=
  request.buffer ≠ 0 ∧ request.blockCount ≠ 0 ∧ state.available
    ∧ request.startBlock < state.blockCount
    ∧ request.blockCount ≤ state.blockCount - request.startBlock
    ∧ virtioBlkByteCount state request / state.blockSize = request.blockCount

def virtioBlkGiveBack (queue : Virtqueue) (index : Option Nat) : Virtqueue :=
  index.elim queue (virtqueueFreeDesc queue)

/-- The three descriptors of a request, written and chained. -/
def virtioBlkChain (state : VirtioBlkState) (request : VirtioBlkRequest) (header data status : Nat) :
    Nat → VirtqDesc :=
  let desc := Function.update state.queue.desc header
    ⟨state.headerAddr, 16, virtqDescFNext, data⟩
  let desc := Function.update desc data
    ⟨request.buffer, virtioBlkByteCount state request % 2 ^ 32,
      if request.requestType = virtioBlkTIn then virtqDescFNext ||| virtqDescFWrite
      else virtqDescFNext, status⟩
  Function.update desc status ⟨state.statusAddr, 1, virtqDescFWrite, 0⟩

/-- The request becomes the pending one and its head is submitted. -/
def virtioBlkStart (state : VirtioBlkState) (request : VirtioBlkRequest) (header data status : Nat) :
    VirtioBlkState :=
  { state with
    headerType := request.requestType
    headerSector := request.startBlock
    requestStatus := 0xff
    requestDone := false
    requestBusy := true
    requestUsedLen := 0
    requestBuffer := request.buffer
    requestBlockCount := request.blockCount
    headerDesc := header
    dataDesc := data
    statusDesc := status
    queue := virtqueueSubmit
      { state.queue with desc := virtioBlkChain state request header data status } header }

/-- `virtio_blk_transfer` up to the unlocking; `false` is the return value -1. -/
def virtioBlkSubmit (state : VirtioBlkState) (request : VirtioBlkRequest) : Bool × VirtioBlkState :=
  if !virtioBlkAccepts state request then (false, state)
  else if state.requestBusy then (false, state)
  else
    let header := virtqueueAllocDesc state.queue
    let data := virtqueueAllocDesc header.2
    let status := virtqueueAllocDesc data.2
    match header.1, data.1, status.1 with
    | some headerDesc, some dataDesc, some statusDesc =>
        (true, virtioBlkStart { state with queue := status.2 } request headerDesc dataDesc statusDesc)
    | headerDesc, dataDesc, statusDesc =>
        let queue := virtioBlkGiveBack status.2 statusDesc
        let queue := virtioBlkGiveBack queue dataDesc
        (false, { state with queue := virtioBlkGiveBack queue headerDesc })

def virtioBlkFreePendingChain (state : VirtioBlkState) : VirtioBlkState :=
  let queue := virtqueueFreeDesc state.queue state.headerDesc
  let queue := virtqueueFreeDesc queue state.dataDesc
  { state with queue := virtqueueFreeDesc queue state.statusDesc }

def virtioBlkCompleteUsedLoop : (fuel : Nat) → VirtioBlkState → VirtioBlkState
  | 0, state => state
  | fuel + 1, state =>
      let popped := virtqueuePopUsed state.queue
      let state := { state with queue := popped.2 }
      match popped.1 with
      | none => state
      | some elem =>
          if !state.requestBusy ∨ elem.id ≠ state.headerDesc then
            virtioBlkCompleteUsedLoop fuel state
          else
            virtioBlkCompleteUsedLoop fuel
              { virtioBlkFreePendingChain state with
                requestUsedLen := elem.len, requestDone := true, requestBusy := false }

/-- There are as many rounds as the used ring has new elements. -/
def virtioBlkCompleteUsed (state : VirtioBlkState) : VirtioBlkState :=
  virtioBlkCompleteUsedLoop
    ((state.queue.usedIdx + virtqModulus - state.queue.lastUsedIdx) % virtqModulus) state

/-- The result that `virtio_blk_transfer` reads when the wait is over; `true` is the return value 0. -/
def virtioBlkResult (state : VirtioBlkState) : Bool :=
  ¬ (state.requestStatus ≠ virtioBlkSOk ∨ state.requestUsedLen < 1)

/-! ### Runs -/

/-- Where a task stands in `virtio_blk_transfer` with a request of its own. -/
inductive VirtioBlkPhase where
  | idle
  | polling (request : Nat)
  | reading (request : Nat)
  deriving DecidableEq

def VirtioBlkPhase.isPolling : VirtioBlkPhase → Bool
  | .polling _ => true
  | _ => false

def VirtioBlkPhase.isReading : VirtioBlkPhase → Bool
  | .reading _ => true
  | _ => false

/-- Requests are numbered in the order in which they were accepted. -/
structure VirtioBlkRun (ι : Type) where
  driver : VirtioBlkState
  device : VirtqDevice
  calls : ι → VirtioBlkPhase
  accepted : Nat
  /-- The request that was last submitted under a head. -/
  requestOf : Nat → Nat
  /-- The status and the length with which the device has completed a request. -/
  results : Nat → Option (Nat × Nat)

/-- `test` and `read` are the tests of `request_done` and the reading of the result; `completeUsed` is
made by a waiting task or by the interrupt handler. -/
inductive VirtioBlkEvent (ι : Type) where
  | submit (task : ι) (request : VirtioBlkRequest)
  | consume
  | complete (position status len : Nat)
  | completeUsed
  | test (task : ι)
  | read (task : ι)

/-- `refused` is a return before the submission, `returned` one with a result. -/
inductive VirtioBlkReply where
  | done
  | refused
  | returned (request : Nat) (success : Bool)
  deriving DecidableEq

namespace VirtioBlkRun

variable {ι : Type} [DecidableEq ι]

def start (ι : Type) (driver : VirtioBlkState) : VirtioBlkRun ι where
  driver := driver
  device := .reset
  calls := fun _ => .idle
  accepted := 0
  requestOf := fun _ => 0
  results := fun _ => none

def setCall (run : VirtioBlkRun ι) (task : ι) (phase : VirtioBlkPhase) : VirtioBlkRun ι :=
  { run with calls := Function.update run.calls task phase }

/-- The device writes the status byte of the driver along with the used element. -/
def step (run : VirtioBlkRun ι) : VirtioBlkEvent ι → VirtioBlkReply × VirtioBlkRun ι
  | .submit task request =>
      let result := virtioBlkSubmit run.driver request
      if result.1 then
        (.done, { run with
          driver := result.2
          calls := Function.update run.calls task (.polling run.accepted)
          accepted := run.accepted + 1
          requestOf := Function.update run.requestOf result.2.headerDesc run.accepted })
      else (.refused, { run with driver := result.2 })
  | .consume => (.done, { run with device := (run.device.consume run.driver.queue).2 })
  | .complete position status len =>
      let result := run.device.complete run.driver.queue position len
      match result.1 with
      | none => (.done, run)
      | some head =>
          (.done, { run with
            device := result.2.1
            driver := { run.driver with queue := result.2.2, requestStatus := status }
            results := Function.update run.results (run.requestOf head) (some (status, len)) })
  | .completeUsed => (.done, { run with driver := virtioBlkCompleteUsed run.driver })
  | .test task =>
      match run.calls task with
      | .polling request =>
          if run.driver.requestDone then (.done, run.setCall task (.reading request)) else (.done, run)
      | _ => (.done, run)
  | .read task =>
      match run.calls task with
      | .reading request =>
          (.returned request (virtioBlkResult run.driver), run.setCall task .idle)
      | _ => (.done, run)

def next (run : VirtioBlkRun ι) (event : VirtioBlkEvent ι) : VirtioBlkRun ι := (run.step event).2

/-- A task starts a transfer when it has returned from the one before. -/
def Possible (run : VirtioBlkRun ι) : VirtioBlkEvent ι → Prop
  | .submit task _ => run.calls task = .idle
  | .test task => (run.calls task).isPolling
  | .read task => (run.calls task).isReading
  | _ => True

instance (run : VirtioBlkRun ι) : (event : VirtioBlkEvent ι) → Decidable (run.Possible event)
  | .submit _ _ => inferInstanceAs (Decidable (_ = _))
  | .test _ => inferInstanceAs (Decidable (_ = _))
  | .read _ => inferInstanceAs (Decidable (_ = _))
  | .consume => .isTrue trivial
  | .complete _ _ _ => .isTrue trivial
  | .completeUsed => .isTrue trivial

/-- The device has completed the request with status `VIRTIO_BLK_S_OK` and has written it. -/
def Succeeded (run : VirtioBlkRun ι) (request : Nat) : Prop :=
  ∃ len, run.results request = some (virtioBlkSOk, len) ∧ 1 ≤ len

/-- A call that returns tells whether its own request has succeeded. -/
def ResultOwn (run : VirtioBlkRun ι) (event : VirtioBlkEvent ι) : Prop :=
  ∀ request success, (run.step event).1 = .returned request success →
    (success = true ↔ run.Succeeded request)

/-- No request is accepted while a call with an earlier one has not read its result. -/
def SubmitsAlone (run : VirtioBlkRun ι) (event : VirtioBlkEvent ι) : Prop :=
  ∀ task request, event = .submit task request → (virtioBlkSubmit run.driver request).1 = true →
    ∀ other, run.calls other = .idle

end VirtioBlkRun

/-! ### Descriptors -/

/-- Either all descriptors are free, or all but the three of the pending request. -/
def VirtioBlkState.Conserved (state : VirtioBlkState) : Prop :=
  (state.requestBusy = false ∧ state.queue.freeList.Perm (List.range virtioBlkQueueSize))
    ∨ (state.requestBusy = true
      ∧ (state.headerDesc :: state.dataDesc :: state.statusDesc :: state.queue.freeList).Perm
        (List.range virtioBlkQueueSize))

end DuckOs

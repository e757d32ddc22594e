import DuckOs.Block.BlockDevice
import DuckOs.Drivers.VirtioBlk
import DuckOs.Drivers.VirtqDma

/-!
# A disk behind the virtio block driver

`src/drivers/virtio_blk.c` with the memory of its callers and a device that executes the requests it
takes from the queue. A call is made of the submission, of whatever driver and device do while it
waits, and of the reading of the result.
-/

namespace DuckOs

open ByteStore

/-- What happens while a call waits; the loop of the call and the interrupt handler make the same
`completeUsed`. -/
inductive VirtioDiskEvent where
  | consume
  | complete (position : Nat)
  | completeUsed
  deriving DecidableEq

/-- `struct virtio_blk_request_header`. -/
def VirtioBlkState.headerBytes (driver : VirtioBlkState) : List UInt8 :=
  toLe 4 driver.headerType ++ toLe 4 0 ++ toLe 8 driver.headerSector

/-- What a virtio block device does with the bytes of a request and the room it has to answer: the data,
the status, and the disk behind the request. The last byte of the room is for the status. Requests for
blocks that it has it carries out; about all others nothing is said. -/
structure VirtioDiskServer where
  serve : (capacity : Nat) → (disk : Store) → (request : List UInt8) → (room : Nat) →
    List UInt8 × UInt8 × Store
  serve_read : ∀ {capacity startBlock room : Nat} (disk : Store) {request : List UInt8},
    request.length = 16 → field request 0 4 = virtioBlkTIn → field request 8 8 = startBlock →
      startBlock * virtioBlkBlockSize + room ≤ capacity * virtioBlkBlockSize →
      serve capacity disk request (room + 1) = (slice disk (startBlock * virtioBlkBlockSize) room, 0, disk)
  serve_write : ∀ {capacity startBlock : Nat} (disk : Store) {header data : List UInt8},
    header.length = 16 → field (header ++ data) 0 4 = virtioBlkTOut →
      field (header ++ data) 8 8 = startBlock →
      startBlock * virtioBlkBlockSize + data.length ≤ capacity * virtioBlkBlockSize →
      serve capacity disk (header ++ data) 1 = ([], 0, patch disk (startBlock * virtioBlkBlockSize) data)

/-- `capacity` and `disk` are on the device's side. -/
structure VirtioDisk where
  server : VirtioDiskServer
  driver : VirtioBlkState
  device : VirtqDevice
  memory : Store
  capacity : Nat
  disk : Store

namespace VirtioDisk

/-- The request header is part of the driver's state; everything else is in the memory. -/
def dmaRead (state : VirtioDisk) (addr len : Nat) : List UInt8 :=
  if addr = state.driver.headerAddr then state.driver.headerBytes.take len
  else slice state.memory addr len

/-- The status byte is part of the driver's state. -/
def dmaWrite (state : VirtioDisk) (write : Nat × List UInt8) : VirtioDisk :=
  if write.1 = state.driver.statusAddr then
    { state with
      driver := { state.driver with
        requestStatus := (write.2.head?.map UInt8.toNat).getD state.driver.requestStatus } }
  else { state with memory := patch state.memory write.1 write.2 }

/-- The device executes the request that starts at a head; the length that it reports is that of all it
has written. -/
def execute (state : VirtioDisk) (head : Nat) : Nat × VirtioDisk :=
  let chain := state.driver.queue.chain head
  let served := state.server.serve state.capacity state.disk (virtqGather state.dmaRead chain)
    (virtqRoom chain)
  let status := ((chain.filter (·.writable)).getLast?).map fun desc =>
    (desc.addr + desc.len - 1, [served.2.1])
  (served.1.length + 1,
    (virtqScatter chain served.1 ++ status.toList).foldl dmaWrite { state with disk := served.2.2 })

def complete (state : VirtioDisk) (position : Nat) : VirtioDisk :=
  match state.device.held[position]? with
  | none => state
  | some head =>
      let executed := state.execute head
      let result := executed.2.device.complete executed.2.driver.queue position executed.1
      { executed.2 with
        device := result.2.1
        driver := { executed.2.driver with queue := result.2.2 } }

def next (state : VirtioDisk) : VirtioDiskEvent → VirtioDisk
  | .consume => { state with device := (state.device.consume state.driver.queue).2 }
  | .complete position => state.complete position
  | .completeUsed => { state with driver := virtioBlkCompleteUsed state.driver }

/-- `virtio_blk_transfer`, with what happens until its last test of `request_done`: the return value is 0
or not, and `none` stands for a call that still waits. -/
def transfer (state : VirtioDisk) (request : VirtioBlkRequest) (events : List VirtioDiskEvent) :
    Option Bool × VirtioDisk :=
  let submitted := virtioBlkSubmit state.driver request
  let state := { state with driver := submitted.2 }
  if !submitted.1 then (some false, state)
  else
    let state := events.foldl next state
    (if state.driver.requestDone then some (virtioBlkResult state.driver) else none, state)

end VirtioDisk

/-! ### The driver as a block device -/

/-- A call of `read_blocks` or `write_blocks` of the device, with the address of the caller's buffer. -/
inductive BlockCall where
  | read (startBlock count buffer : Nat)
  | write (startBlock count buffer : Nat) (data : List UInt8)

namespace BlockCall

def buffer : BlockCall → Nat
  | .read _ _ buffer => buffer
  | .write _ _ buffer _ => buffer

def count : BlockCall → Nat
  | .read _ count _ => count
  | .write _ count _ _ => count

def request : BlockCall → VirtioBlkRequest
  | .read startBlock count buffer => ⟨virtioBlkTIn, startBlock, count, buffer⟩
  | .write startBlock count buffer _ => ⟨virtioBlkTOut, startBlock, count, buffer⟩

/-- What the buffer holds when the call is made. -/
def given : BlockCall → List UInt8
  | .read _ _ _ => []
  | .write _ _ _ data => data

/-- What the buffer holds when the call has returned 0. -/
def taken (call : BlockCall) (memory : Store) : List UInt8 :=
  match call with
  | .read _ count buffer => slice memory buffer (count * virtioBlkBlockSize)
  | .write _ _ _ _ => []

end BlockCall

/-- `some none` is the return value -1, and `none` a call that still waits. -/
def VirtioDisk.call (state : VirtioDisk) (input : BlockCall × List VirtioDiskEvent) :
    Option (Option (List UInt8)) × VirtioDisk :=
  let filled := { state with memory := patch state.memory input.1.buffer input.1.given }
  let result := filled.transfer input.1.request input.2
  (result.1.map fun success => if success then some (input.1.taken result.2.memory) else none,
    result.2)

/-- The same call on a block device. -/
def BlockDevice.call (device : BlockDevice) (input : BlockCall × List VirtioDiskEvent) :
    Option (Option (List UInt8)) × BlockDevice :=
  match input.1 with
  | .read startBlock count _ => (some (device.readBlocks startBlock count), device)
  | .write startBlock count _ data =>
      match device.writeBlocks startBlock count data with
      | none => (some none, device)
      | some written => (some (some []), written)

/-- What the driver relies on: the length of the transfer fits into a descriptor, the data is as long as the
transfer, and the buffer is not part of the driver's state. -/
structure BlockCall.Fits (headerAddr statusAddr : Nat) (call : BlockCall) : Prop where
  buffer_ne : call.buffer ≠ 0
  count_lt : call.count * virtioBlkBlockSize < 2 ^ 32
  given_length : ∀ startBlock count buffer data, call = .write startBlock count buffer data →
    data.length = count * virtioBlkBlockSize
  apart : ∀ address, call.buffer ≤ address →
    address < call.buffer + call.count * virtioBlkBlockSize →
      (address < headerAddr ∨ headerAddr + 16 ≤ address) ∧ address ≠ statusAddr

/-- The device takes the request and completes it, and the driver notices. -/
def virtioDiskServed : List VirtioDiskEvent := [.consume, .complete 0, .completeUsed]

end DuckOs

import DuckOs.Drivers.VirtqDma
import DuckOs.Gfx.Cursor
import DuckOs.Input.Queue

/-!
# The virtio input driver

`src/drivers/virtio_input.c`. A device writes its events to buffers that the driver has submitted; the
driver handles each event and submits the buffer again. Driver and device go on in any order.
-/

namespace DuckOs

open ByteStore

def virtioInputQueueSize : Nat := 32

def virtioInputEvKey : Nat := 1

def virtioInputEvRel : Nat := 2

def virtioInputEvAbs : Nat := 3

/-- `VIRTIO_INPUT_REL_X` and `VIRTIO_INPUT_ABS_X`. -/
def virtioInputAxisX : Nat := 0

/-- `VIRTIO_INPUT_REL_Y` and `VIRTIO_INPUT_ABS_Y`. -/
def virtioInputAxisY : Nat := 1

def virtioInputAbsMax : Nat := 0x7fff

structure VirtioInputEvent where
  type : UInt16
  code : UInt16
  value : UInt32
  deriving DecidableEq

namespace VirtioInputEvent

def size : Nat := 8

def bytes (event : VirtioInputEvent) : List UInt8 :=
  toLe 2 event.type.toNat ++ toLe 2 event.code.toNat ++ toLe 4 event.value.toNat

def ofBytes (bytes : List UInt8) : VirtioInputEvent :=
  ⟨.ofNat (field bytes 0 2), .ofNat (field bytes 2 2), .ofNat (field bytes 4 4)⟩

end VirtioInputEvent

/-! ### Handling an event -/

def virtioInputScaleAbs (value size : Nat) : Nat :=
  if size = 0 then 0
  else if size = 1 then 0
  else if virtioInputAbsMax ≤ value then size - 1
  else value * (size - 1) / virtioInputAbsMax

/-- The input queue and its modifiers, the cursor, and `virtio_gpu_framebuffer()`. -/
structure VirtioInputWorld (ι : Type) where
  queue : InputQueue
  input : InputState
  cursor : CursorWorld ι
  display : Option ι

section Handle

variable {ι : Type} [DecidableEq ι]

def inputQueueKeyEvent (world : VirtioInputWorld ι) (keycode pressed : Nat) : VirtioInputWorld ι :=
  { world with
    queue := inputPushEvent world.queue
      ⟨.key keycode, .keyboard, pressed % 2 ^ 8, if world.input.shift then 1 else 0⟩ }

/-- The cursor is attached to the display, in its middle. -/
def virtioInputAttachCursor (cursor : CursorWorld ι) (fb : ι) : CursorWorld ι :=
  gfxCursorMove (gfxCursorAttach cursor (some fb)) ((cursor.surfaces fb).width / 2)
    ((cursor.surfaces fb).height / 2)

def virtioInputMoveCursorRelative (world : VirtioInputWorld ι) (dx dy : Int) : VirtioInputWorld ι :=
  let attached :=
    if gfxCursorAvailable world.cursor then some world.cursor
    else world.display.map (virtioInputAttachCursor world.cursor)
  match attached with
  | none => world
  | some cursor =>
      let x : Int := cursor.cursor.x + dx
      let y : Int := cursor.cursor.y + dy
      { world with
        cursor := gfxCursorMove cursor (uint32 (if x < 0 then 0 else x)) (uint32 (if y < 0 then 0 else y)) }

def virtioInputMoveCursorAbsolute (world : VirtioInputWorld ι) (code value : Nat) : VirtioInputWorld ι :=
  match world.display with
  | none => world
  | some fb =>
      let cursor :=
        if gfxCursorAvailable world.cursor then world.cursor else virtioInputAttachCursor world.cursor fb
      let size := (cursor.surfaces fb).toFramebuffer
      let x := cursor.cursor.x
      let y := cursor.cursor.y
      if code = virtioInputAxisX then
        { world with cursor := gfxCursorMove cursor (virtioInputScaleAbs value size.width) y }
      else if code = virtioInputAxisY then
        { world with cursor := gfxCursorMove cursor x (virtioInputScaleAbs value size.height) }
      else { world with cursor := cursor }

def virtioInputHandleEvent (world : VirtioInputWorld ι) (event : VirtioInputEvent) : VirtioInputWorld ι :=
  let type := event.type.toNat
  let code := event.code.toNat
  let value := event.value.toNat
  if type = virtioInputEvKey then inputQueueKeyEvent world code value
  else if type = virtioInputEvRel then
    if code = virtioInputAxisX then virtioInputMoveCursorRelative world (int32 value) 0
    else if code = virtioInputAxisY then virtioInputMoveCursorRelative world 0 (int32 value)
    else world
  else if type = virtioInputEvAbs then virtioInputMoveCursorAbsolute world code value
  else world

end Handle

/-- What a key event puts into the input queue. -/
def VirtioInputEvent.keyEvent (shift : Bool) (event : VirtioInputEvent) : Option InputEvent :=
  if event.type.toNat = virtioInputEvKey then
    some ⟨.key event.code.toNat, .keyboard, event.value.toNat % 2 ^ 8, if shift then 1 else 0⟩
  else none

/-! ### Pointers

What the events of mice and tablets are for: a pointer that stays on its screen. -/

/-- Along an axis, by a distance. -/
def pointerMoved (bound position : Nat) (distance : Int) : Nat :=
  min (position + distance).toNat (bound - 1)

/-- Along an axis, to a share of it. -/
def pointerScaled (bound value : Nat) : Nat :=
  min value virtioInputAbsMax * (bound - 1) / virtioInputAbsMax

/-- There is no pointer before the first event that is about one; it then starts in the middle. -/
def pointerStep (screen : Framebuffer) (pointer : Option (Nat × Nat)) (event : VirtioInputEvent) :
    Option (Nat × Nat) :=
  let type := event.type.toNat
  let code := event.code.toNat
  let value := event.value.toNat
  let position := pointer.getD (screen.width / 2, screen.height / 2)
  if type = virtioInputEvRel then
    if code = virtioInputAxisX then
      some (pointerMoved screen.width position.1 (int32 value), position.2)
    else if code = virtioInputAxisY then
      some (position.1, pointerMoved screen.height position.2 (int32 value))
    else pointer
  else if type = virtioInputEvAbs then
    if code = virtioInputAxisX then some (pointerScaled screen.width value, position.2)
    else if code = virtioInputAxisY then some (position.1, pointerScaled screen.height value)
    else some position
  else pointer

/-! ### Buffers -/

/-- `virtio_input_device_state`, with the memory of its `events`. -/
structure VirtioInputDeviceState where
  eventq : Virtqueue
  eventsAddr : Nat
  memory : Store
  descIndex : Nat → Nat

namespace VirtioInputDeviceState

def eventAddr (state : VirtioInputDeviceState) (slot : Nat) : Nat :=
  state.eventsAddr + VirtioInputEvent.size * slot

/-- `events[slot]`. -/
def event (state : VirtioInputDeviceState) (slot : Nat) : VirtioInputEvent :=
  .ofBytes (slice state.memory (state.eventAddr slot) VirtioInputEvent.size)

end VirtioInputDeviceState

def virtioInputSubmitBuffer (state : VirtioInputDeviceState) (slot : Nat) : VirtioInputDeviceState :=
  { state with eventq := virtqueueSubmit state.eventq (state.descIndex slot) }

/-- The loop of `virtio_input_init_device` over the slots. -/
def virtioInputSlotLoop : (fuel slot : Nat) → VirtioInputDeviceState → Option VirtioInputDeviceState
  | 0, _, state => some state
  | fuel + 1, slot, state =>
      let result := virtqueueAllocDesc state.eventq
      match result.1 with
      | none => none
      | some index =>
          virtioInputSlotLoop fuel (slot + 1)
            (virtioInputSubmitBuffer
              { state with
                descIndex := Function.update state.descIndex slot (index % 2 ^ 16)
                eventq := { result.2 with
                  desc := Function.update result.2.desc index
                    ⟨state.eventAddr slot, VirtioInputEvent.size, virtqDescFWrite, 0⟩ } }
              slot)

/-- `virtio_input_init_device` on a device that accepts its features and its queue; `page` is what
`pmm_alloc_page` returns. -/
def virtioInputInitDevice (page eventsAddr : Nat) (memory : Store) : Option VirtioInputDeviceState :=
  match virtqueueInit virtioInputQueueSize page with
  | none => none
  | some queue => virtioInputSlotLoop virtioInputQueueSize 0 ⟨queue, eventsAddr, memory, fun _ => 0⟩

/-- The loop of `virtio_input_poll_device` that looks for the slot of a head. -/
def virtioInputFindSlot (state : VirtioInputDeviceState) (head : Nat) : Option Nat :=
  (List.range virtioInputQueueSize).find? fun slot => state.descIndex slot = head % 2 ^ 16

/-- `virtio_input_poll_device`, with at most `fuel` used elements to pop. -/
def virtioInputPollDevice {ω : Type} (handle : ω → VirtioInputEvent → ω) :
    (fuel : Nat) → ω × VirtioInputDeviceState → ω × VirtioInputDeviceState
  | 0, state => state
  | fuel + 1, (world, state) =>
      let popped := virtqueuePopUsed state.eventq
      match popped.1 with
      | none => (world, state)
      | some elem =>
          let state := { state with eventq := popped.2 }
          match virtioInputFindSlot state elem.id with
          | none => virtioInputPollDevice handle fuel (world, state)
          | some slot =>
              virtioInputPollDevice handle fuel
                (handle world (state.event slot), virtioInputSubmitBuffer state slot)

/-- The used elements that have not been popped. -/
def Virtqueue.usedCount (queue : Virtqueue) : Nat :=
  (queue.usedIdx + virtqModulus - queue.lastUsedIdx) % virtqModulus

/-- The heads that the device has not taken. -/
def VirtqDevice.availCount (device : VirtqDevice) (queue : Virtqueue) : Nat :=
  (queue.availIdx + virtqModulus - device.availIdx) % virtqModulus

/-! ### Runs -/

/-- A device and its driver. `pending` is the slot that has been found and not been handled yet, and
`delivered` is what the device has written. -/
structure VirtioInputDevice where
  driver : VirtioInputDeviceState
  device : VirtqDevice
  pending : Option Nat
  delivered : List VirtioInputEvent

inductive VirtioInputOp where
  | consume
  | deliver (position : Nat) (event : VirtioInputEvent)
  | pop
  | handle

namespace VirtioInputDevice

def start (driver : VirtioInputDeviceState) : VirtioInputDevice := ⟨driver, .reset, none, []⟩

/-- The device writes an event to a buffer that it holds and completes it. -/
def deliver (state : VirtioInputDevice) (position : Nat) (event : VirtioInputEvent) : VirtioInputDevice :=
  match state.device.held[position]? with
  | none => state
  | some head =>
      let memory := patchAll state.driver.memory
        (virtqScatter (state.driver.eventq.chain head) event.bytes)
      let result := state.device.complete state.driver.eventq position VirtioInputEvent.size
      { state with
        driver := { state.driver with eventq := result.2.2, memory := memory }
        device := result.2.1
        delivered := state.delivered ++ [event] }

/-- An iteration of the loop up to the slot. -/
def pop (state : VirtioInputDevice) : VirtioInputDevice :=
  match state.pending with
  | some _ => state
  | none =>
      let popped := virtqueuePopUsed state.driver.eventq
      { state with
        driver := { state.driver with eventq := popped.2 }
        pending := popped.1.bind fun elem => virtioInputFindSlot state.driver elem.id }

/-- Each step, with the event that it handles. -/
def step (state : VirtioInputDevice) : VirtioInputOp → Option VirtioInputEvent × VirtioInputDevice
  | .consume => (none, { state with device := (state.device.consume state.driver.eventq).2 })
  | .deliver position event => (none, state.deliver position event)
  | .pop => (none, state.pop)
  | .handle =>
      match state.pending with
      | none => (none, state)
      | some slot =>
          (some (state.driver.event slot),
            { state with driver := virtioInputSubmitBuffer state.driver slot, pending := none })

end VirtioInputDevice

/-- All devices; `handled` are the events in the order in which they were handled. -/
structure VirtioInputRun (ω : Type) where
  world : ω
  devices : List VirtioInputDevice
  handled : List (Nat × VirtioInputEvent)

namespace VirtioInputRun

variable {ω : Type}

def start (world : ω) (drivers : List VirtioInputDeviceState) : VirtioInputRun ω :=
  ⟨world, drivers.map .start, []⟩

def next (handle : ω → VirtioInputEvent → ω) (run : VirtioInputRun ω) (op : Nat × VirtioInputOp) :
    VirtioInputRun ω :=
  match run.devices[op.1]? with
  | none => run
  | some device =>
      let result := device.step op.2
      { world := result.1.elim run.world (handle run.world)
        devices := run.devices.set op.1 result.2
        handled := run.handled ++ (result.1.map fun event => (op.1, event)).toList }

/-- The events of one device that have been handled. -/
def handledOf (run : VirtioInputRun ω) (index : Nat) : List VirtioInputEvent :=
  (run.handled.filter fun entry => entry.1 = index).map Prod.snd

end VirtioInputRun

end DuckOs

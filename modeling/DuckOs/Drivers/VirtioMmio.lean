import DuckOs.Drivers.VirtioBlk

/-!
# The virtio transport

`src/drivers/virtio_mmio.c` and what the drivers do with it: the probing of the slots, the bring-up of a
device, its interrupts. Every access to the registers of a slot is recorded; what a device answers is an
arbitrary function of the accesses before.
-/

namespace DuckOs

/-! ### Registers -/

def virtioMmioMagicValue : Nat := 0x000

def virtioMmioVersion : Nat := 0x004

def virtioMmioDeviceId : Nat := 0x008

def virtioMmioVendorId : Nat := 0x00c

def virtioMmioDeviceFeatures : Nat := 0x010

def virtioMmioDeviceFeaturesSel : Nat := 0x014

def virtioMmioDriverFeatures : Nat := 0x020

def virtioMmioDriverFeaturesSel : Nat := 0x024

def virtioMmioQueueSel : Nat := 0x030

def virtioMmioQueueNumMax : Nat := 0x034

def virtioMmioQueueNum : Nat := 0x038

def virtioMmioQueueReady : Nat := 0x044

def virtioMmioQueueNotify : Nat := 0x050

def virtioMmioInterruptStatus : Nat := 0x060

def virtioMmioInterruptAck : Nat := 0x064

def virtioMmioStatus : Nat := 0x070

def virtioMmioQueueDescLow : Nat := 0x080

def virtioMmioQueueDescHigh : Nat := 0x084

def virtioMmioQueueAvailLow : Nat := 0x090

def virtioMmioQueueAvailHigh : Nat := 0x094

def virtioMmioQueueUsedLow : Nat := 0x0a0

def virtioMmioQueueUsedHigh : Nat := 0x0a4

def virtioBlkConfigCapacityLow : Nat := 0x100

def virtioBlkConfigCapacityHigh : Nat := 0x104

def virtioMmioMagic : BitVec 32 := 0x74726976

def virtioMmioVersionModern : BitVec 32 := 2

def virtioDeviceIdInvalid : BitVec 32 := 0

def virtioDeviceIdBlock : BitVec 32 := 2

def virtioDeviceIdRng : BitVec 32 := 4

def virtioDeviceIdGpu : BitVec 32 := 16

def virtioDeviceIdInput : BitVec 32 := 18

def virtioStatusAcknowledge : BitVec 32 := 0x01

def virtioStatusDriver : BitVec 32 := 0x02

def virtioStatusDriverOk : BitVec 32 := 0x04

def virtioStatusFeaturesOk : BitVec 32 := 0x08

def virtioStatusFailed : BitVec 32 := 0x80

/-- `VIRTIO_F_VERSION_1`, on the second page of features. -/
def virtioFVersion1 : BitVec 32 := 1

inductive MmioAccess where
  | read (offset : Nat) (value : BitVec 32)
  | write (offset : Nat) (value : BitVec 32)
  deriving DecidableEq

/-- `virtio_irq_fn`, by the driver whose function it is. -/
inductive VirtioIrqHandler where
  | rng
  | blk
  deriving DecidableEq

/-- `virtio_mmio_device`, with the accesses to its registers so far. -/
structure VirtioMmioDevice where
  irq : Nat
  deviceId : BitVec 32
  vendorId : BitVec 32
  status : BitVec 32
  driverFeatures0 : BitVec 32
  driverFeatures1 : BitVec 32
  present : Bool
  initialized : Bool
  irqHandler : Option VirtioIrqHandler
  accesses : List MmioAccess

def VirtioMmioDevice.zero : VirtioMmioDevice := ⟨0, 0, 0, 0, 0, 0, false, false, none, []⟩

/-- What a device answers when a register is read, behind the accesses so far. -/
abbrev MmioAnswers := List MmioAccess → Nat → BitVec 32

section Device

variable (answers : MmioAnswers)

def virtioMmioRead32 (device : VirtioMmioDevice) (offset : Nat) : BitVec 32 × VirtioMmioDevice :=
  let value := answers device.accesses offset
  (value, { device with accesses := device.accesses ++ [.read offset value] })

def virtioMmioWrite32 (device : VirtioMmioDevice) (offset : Nat) (value : BitVec 32) :
    VirtioMmioDevice :=
  { device with accesses := device.accesses ++ [.write offset value] }

def virtioMmioReadFeatures (device : VirtioMmioDevice) (page : BitVec 32) :
    BitVec 32 × VirtioMmioDevice :=
  virtioMmioRead32 answers (virtioMmioWrite32 device virtioMmioDeviceFeaturesSel page)
    virtioMmioDeviceFeatures

def virtioMmioWriteFeatures (device : VirtioMmioDevice) (page value : BitVec 32) : VirtioMmioDevice :=
  virtioMmioWrite32 (virtioMmioWrite32 device virtioMmioDriverFeaturesSel page) virtioMmioDriverFeatures
    value

/-- `true` is the return value 0, here and below. -/
def virtioMmioBeginInit (device : VirtioMmioDevice) : Bool × VirtioMmioDevice :=
  let device := virtioMmioWrite32 device virtioMmioStatus 0
  let status := virtioMmioRead32 answers device virtioMmioStatus
  if status.1 ≠ 0 then (false, status.2)
  else
    let device := { status.2 with status := virtioStatusAcknowledge ||| virtioStatusDriver }
    (true, virtioMmioWrite32 device virtioMmioStatus device.status)

/-- The second half of `virtio_mmio_negotiate_features`: the features are accepted. -/
def virtioMmioAcceptFeatures (device : VirtioMmioDevice) : Bool × VirtioMmioDevice :=
  let device := virtioMmioWriteFeatures device 0 device.driverFeatures0
  let device := virtioMmioWriteFeatures device 1 device.driverFeatures1
  let device := { device with status := device.status ||| virtioStatusFeaturesOk }
  let status :=
    virtioMmioRead32 answers (virtioMmioWrite32 device virtioMmioStatus device.status) virtioMmioStatus
  if status.1 &&& virtioStatusFeaturesOk = 0 then (false, status.2) else (true, status.2)

def virtioMmioNegotiateFeatures (device : VirtioMmioDevice) (featurePage0 featurePage1 : BitVec 32) :
    Bool × VirtioMmioDevice :=
  let page0 := virtioMmioReadFeatures answers device 0
  let page1 := virtioMmioReadFeatures answers page0.2 1
  if page1.1 &&& virtioFVersion1 = 0 then (false, page1.2)
  else
    virtioMmioAcceptFeatures answers
      { page1.2 with
        driverFeatures0 := featurePage0 &&& page0.1
        driverFeatures1 := featurePage1 &&& page1.1 ||| virtioFVersion1 }

/-- The addresses of the descriptor table and of the two rings. -/
def Virtqueue.descAddr (queue : Virtqueue) : BitVec 64 := .ofNat 64 queue.page

def Virtqueue.availAddr (queue : Virtqueue) : BitVec 64 :=
  .ofNat 64 (queue.page + virtqDescBytes queue.size)

def Virtqueue.usedAddr (queue : Virtqueue) : BitVec 64 :=
  .ofNat 64 (queue.page + virtqUsedOffset queue.size)

def virtioMmioSetupQueue (device : VirtioMmioDevice) (queueIndex : BitVec 32) (queue : Virtqueue) :
    Bool × VirtioMmioDevice :=
  let device := virtioMmioWrite32 device virtioMmioQueueSel queueIndex
  let maxSize := virtioMmioRead32 answers device virtioMmioQueueNumMax
  if maxSize.1 = 0 ∨ maxSize.1.toNat < queue.size then (false, maxSize.2)
  else
    let device := virtioMmioWrite32 maxSize.2 virtioMmioQueueNum (.ofNat 32 queue.size)
    let device := virtioMmioWrite32 device virtioMmioQueueDescLow (queue.descAddr.setWidth 32)
    let device := virtioMmioWrite32 device virtioMmioQueueDescHigh ((queue.descAddr >>> 32).setWidth 32)
    let device := virtioMmioWrite32 device virtioMmioQueueAvailLow (queue.availAddr.setWidth 32)
    let device :=
      virtioMmioWrite32 device virtioMmioQueueAvailHigh ((queue.availAddr >>> 32).setWidth 32)
    let device := virtioMmioWrite32 device virtioMmioQueueUsedLow (queue.usedAddr.setWidth 32)
    let device := virtioMmioWrite32 device virtioMmioQueueUsedHigh ((queue.usedAddr >>> 32).setWidth 32)
    (true, virtioMmioWrite32 device virtioMmioQueueReady 1)

def virtioMmioNotifyQueue (device : VirtioMmioDevice) (queueIndex : BitVec 32) : VirtioMmioDevice :=
  virtioMmioWrite32 device virtioMmioQueueNotify queueIndex

def virtioMmioFinishInit (device : VirtioMmioDevice) : VirtioMmioDevice :=
  let device := { device with status := device.status ||| virtioStatusDriverOk }
  { virtioMmioWrite32 device virtioMmioStatus device.status with initialized := true }

def virtioMmioFail (device : VirtioMmioDevice) : VirtioMmioDevice :=
  let device := { device with status := device.status ||| virtioStatusFailed }
  virtioMmioWrite32 device virtioMmioStatus device.status

def virtioMmioSetIrqHandler (device : VirtioMmioDevice) (irqHandler : VirtioIrqHandler) :
    VirtioMmioDevice :=
  { device with irqHandler := some irqHandler }

def virtioMmioProbeSlot (slot : Nat) (device : VirtioMmioDevice) : VirtioMmioDevice :=
  let device := { VirtioMmioDevice.zero with irq := 48 + slot, accesses := device.accesses }
  let magic := virtioMmioRead32 answers device virtioMmioMagicValue
  let version := virtioMmioRead32 answers magic.2 virtioMmioVersion
  let deviceId := virtioMmioRead32 answers version.2 virtioMmioDeviceId
  if magic.1 ≠ virtioMmioMagic ∨ version.1 ≠ virtioMmioVersionModern
      ∨ deviceId.1 = virtioDeviceIdInvalid then
    deviceId.2
  else
    let vendorId := virtioMmioRead32 answers deviceId.2 virtioMmioVendorId
    { vendorId.2 with present := true, deviceId := deviceId.1, vendorId := vendorId.1 }

/-! ### Drivers

The bring-up of a device is the same in every driver up to the queue; `page` is what `pmm_alloc_page`
returns for it. -/

/-- Everything up to `virtio_mmio_setup_queue`, with the failures on the way. -/
def virtioBringUp (queueIndex : BitVec 32) (queueSize page : Nat) (device : VirtioMmioDevice) :
    Option Virtqueue × VirtioMmioDevice :=
  let begun := virtioMmioBeginInit answers device
  if !begun.1 then (none, begun.2)
  else
    let negotiated := virtioMmioNegotiateFeatures answers begun.2 0 0
    if !negotiated.1 then (none, virtioMmioFail negotiated.2)
    else
      match virtqueueInit queueSize page with
      | none => (none, virtioMmioFail negotiated.2)
      | some queue =>
          let ready := virtioMmioSetupQueue answers negotiated.2 queueIndex queue
          if !ready.1 then (none, virtioMmioFail ready.2) else (some queue, ready.2)

end Device

namespace VirtioMmioDevice

variable (answers : MmioAnswers)

/-- `virtio_rng_init` from the device on; `true` if the driver keeps the device. -/
def rngInit (page : Nat) (device : VirtioMmioDevice) : Bool × VirtioMmioDevice :=
  let result := virtioBringUp answers 0 8 page device
  match result.1 with
  | none => (false, result.2)
  | some _ => (true, virtioMmioFinishInit (virtioMmioSetIrqHandler result.2 .rng))

/-- `virtio_blk_init` from the device on; `registered` says whether `block_register_device` returns 0. -/
def blkInit (page : Nat) (registered : Bool) (device : VirtioMmioDevice) : Bool × VirtioMmioDevice :=
  let result := virtioBringUp answers 0 virtioBlkQueueSize page device
  match result.1 with
  | none => (false, result.2)
  | some _ =>
      let low := virtioMmioRead32 answers result.2 virtioBlkConfigCapacityLow
      let high := virtioMmioRead32 answers low.2 virtioBlkConfigCapacityHigh
      if virtioBlkReadCapacity low.1 high.1 = 0 then (false, virtioMmioFail high.2)
      else if !registered then (false, virtioMmioFail high.2)
      else (true, virtioMmioFinishInit (virtioMmioSetIrqHandler high.2 .blk))

/-- `virtio_gpu_init` from the device on, with the number of requests that it sends in the end and whether
the driver keeps the device. -/
def gpuInit (page requests : Nat) (kept : Bool) (device : VirtioMmioDevice) : Bool × VirtioMmioDevice :=
  let result := virtioBringUp answers 0 8 page device
  match result.1 with
  | none => (false, result.2)
  | some _ =>
      (kept, (List.replicate requests 0).foldl virtioMmioNotifyQueue (virtioMmioFinishInit result.2))

/-- `virtio_input_init_device`; the descriptors of a new queue suffice for the buffers. -/
def inputInit (page : Nat) (device : VirtioMmioDevice) : Bool × VirtioMmioDevice :=
  let result := virtioBringUp answers 0 32 page device
  match result.1 with
  | none => (false, result.2)
  | some _ => (true, virtioMmioFinishInit result.2)

end VirtioMmioDevice

/-! ### The bus -/

def virtioMmioCount : Nat := 32

def virtioInputMaxDevices : Nat := 4

/-- `virtio_devices` and the devices that the drivers keep. -/
structure VirtioBus where
  devices : Nat → VirtioMmioDevice
  rng : Option Nat
  blk : Option Nat
  gpu : Option Nat
  inputs : List Nat

/-- The answers of every slot. -/
abbrev BusAnswers := Nat → MmioAnswers

/-- What else decides on the bring-up: the pages, and what `VirtioMmioDevice.blkInit` and
`VirtioMmioDevice.gpuInit` say. -/
structure VirtioBootChoices where
  rngPage : Nat
  blkPage : Nat
  gpuPage : Nat
  inputPages : Nat → Nat
  blkRegistered : Bool
  gpuRequests : Nat
  gpuKept : Bool

namespace VirtioBus

/-- Before the boot. -/
def zero : VirtioBus := ⟨fun _ => .zero, none, none, none, []⟩

def set (bus : VirtioBus) (slot : Nat) (device : VirtioMmioDevice) : VirtioBus :=
  { bus with devices := Function.update bus.devices slot device }

/-- The loop of `virtio_find_device`. -/
def findLoop (devices : Nat → VirtioMmioDevice) (deviceId : BitVec 32) (instanceIndex : Nat) :
    (fuel slot found : Nat) → Option Nat
  | 0, _, _ => none
  | fuel + 1, slot, found =>
      if (devices slot).present ∧ (devices slot).deviceId = deviceId then
        if found = instanceIndex then some slot
        else findLoop devices deviceId instanceIndex fuel (slot + 1) (found + 1)
      else findLoop devices deviceId instanceIndex fuel (slot + 1) found

def virtioFindDevice (bus : VirtioBus) (deviceId : BitVec 32) (instanceIndex : Nat) : Option Nat :=
  findLoop bus.devices deviceId instanceIndex virtioMmioCount 0 0

variable (answers : BusAnswers)

/-- The loop of `virtio_init`. -/
def virtioInit (bus : VirtioBus) : VirtioBus :=
  (List.range virtioMmioCount).foldl
    (fun bus slot => bus.set slot (virtioMmioProbeSlot (answers slot) slot (bus.devices slot))) bus

def virtioRngInit (page : Nat) (bus : VirtioBus) : VirtioBus :=
  match bus.virtioFindDevice virtioDeviceIdRng 0 with
  | none => { bus with rng := none }
  | some slot =>
      let result := (bus.devices slot).rngInit (answers slot) page
      { bus.set slot result.2 with rng := if result.1 then some slot else none }

def virtioBlkInit (page : Nat) (registered : Bool) (bus : VirtioBus) : VirtioBus :=
  match bus.virtioFindDevice virtioDeviceIdBlock 0 with
  | none => { bus with blk := none }
  | some slot =>
      let result := (bus.devices slot).blkInit (answers slot) page registered
      { bus.set slot result.2 with blk := if result.1 then some slot else none }

def virtioGpuInit (page requests : Nat) (kept : Bool) (bus : VirtioBus) : VirtioBus :=
  match bus.virtioFindDevice virtioDeviceIdGpu 0 with
  | none => { bus with gpu := none }
  | some slot =>
      let result := (bus.devices slot).gpuInit (answers slot) page requests kept
      { bus.set slot result.2 with gpu := if result.1 then some slot else none }

/-- The loop of `virtio_input_init`. -/
def inputLoop (pages : Nat → Nat) : (fuel instanceIndex : Nat) → VirtioBus → VirtioBus
  | 0, _, bus => bus
  | fuel + 1, instanceIndex, bus =>
      match bus.virtioFindDevice virtioDeviceIdInput instanceIndex with
      | none => bus
      | some slot =>
          let result := (bus.devices slot).inputInit (answers slot) (pages instanceIndex)
          inputLoop pages fuel (instanceIndex + 1)
            { bus.set slot result.2 with
              inputs := if result.1 then bus.inputs ++ [slot] else bus.inputs }

def virtioInputInit (pages : Nat → Nat) (bus : VirtioBus) : VirtioBus :=
  inputLoop answers pages virtioInputMaxDevices 0 { bus with inputs := [] }

/-- The calls of `kernel_main`, in its order. -/
def boot (choices : VirtioBootChoices) : VirtioBus :=
  let bus := virtioInit answers zero
  let bus := virtioRngInit answers choices.rngPage bus
  let bus := virtioBlkInit answers choices.blkPage choices.blkRegistered bus
  let bus := virtioGpuInit answers choices.gpuPage choices.gpuRequests choices.gpuKept bus
  virtioInputInit answers choices.inputPages bus

/-- The interrupts that `virtio_enable_irqs` enables. -/
def virtioEnableIrqs (bus : VirtioBus) : List Nat :=
  ((List.range virtioMmioCount).filter fun slot =>
    (bus.devices slot).present ∧ (bus.devices slot).initialized).map fun slot => (bus.devices slot).irq

/-- The acknowledgement of `virtio_handle_irq`, with the status. -/
def acknowledge (bus : VirtioBus) (slot : Nat) : BitVec 32 × VirtioBus :=
  let status := virtioMmioRead32 (answers slot) (bus.devices slot) virtioMmioInterruptStatus
  (status.1,
    bus.set slot
      (if status.1 ≠ 0 then virtioMmioWrite32 status.2 virtioMmioInterruptAck status.1 else status.2))

/-- The handler that is called, with its slot and the status. -/
def virtioHandleIrq (irqId : Nat) (bus : VirtioBus) :
    Option (VirtioIrqHandler × Nat × BitVec 32) × VirtioBus :=
  match (List.range virtioMmioCount).find? fun slot =>
    (bus.devices slot).present ∧ (bus.devices slot).initialized ∧ (bus.devices slot).irq = irqId with
  | none => (none, bus)
  | some slot =>
      let result := bus.acknowledge answers slot
      ((bus.devices slot).irqHandler.map fun handler => (handler, slot, result.1), result.2)

/-- A driver that has a device notifies it of a request; the devices are those of the random numbers, the
disk and the display. -/
def notify (device : Option Nat) (bus : VirtioBus) : VirtioBus :=
  match device with
  | none => bus
  | some slot =>
      if (bus.devices slot).initialized then
        bus.set slot (virtioMmioNotifyQueue (bus.devices slot) 0)
      else bus

end VirtioBus

/-- What goes on after the boot, in any order. -/
inductive VirtioBusEvent where
  | irq (irqId : Nat)
  | notifyRng
  | notifyBlk
  | notifyGpu

def VirtioBus.next (answers : BusAnswers) (bus : VirtioBus) : VirtioBusEvent → VirtioBus
  | .irq irqId => (bus.virtioHandleIrq answers irqId).2
  | .notifyRng => bus.notify bus.rng
  | .notifyBlk => bus.notify bus.blk
  | .notifyGpu => bus.notify bus.gpu

/-! ### The protocol of a slot

What a device may expect of its driver, access by access. -/

inductive VirtioPhase where
  | start
  | resetting
  | reset
  | acknowledged
  | negotiating
  | negotiated
  | ready
  | live
  | failed
  deriving DecidableEq

/-- Where the driver is, and what the device has told it. -/
structure VirtioMonitor where
  phase : VirtioPhase
  deviceSel : BitVec 32
  driverSel : BitVec 32
  offered : BitVec 32 → BitVec 32
  accepted : BitVec 32 → BitVec 32
  queueMax : BitVec 32
  interrupt : BitVec 32

namespace VirtioMonitor

def start : VirtioMonitor := ⟨.start, 0, 0, fun _ => 0, fun _ => 0, 0, 0⟩

def afterRead (monitor : VirtioMonitor) (offset : Nat) (value : BitVec 32) : VirtioMonitor :=
  if offset = virtioMmioStatus then
    if monitor.phase = .resetting ∧ value = 0 then { monitor with phase := .reset }
    else if monitor.phase = .negotiating ∧ value &&& virtioStatusFeaturesOk ≠ 0 then
      { monitor with phase := .negotiated }
    else monitor
  else if offset = virtioMmioDeviceFeatures then
    { monitor with offered := Function.update monitor.offered monitor.deviceSel value }
  else if offset = virtioMmioQueueNumMax then { monitor with queueMax := value }
  else if offset = virtioMmioInterruptStatus then { monitor with interrupt := value }
  else monitor

/-- The new phase that a write of the status may bring about. A driver goes through the phases one by one
and only once; it may give up until the device is live. -/
def afterStatus (monitor : VirtioMonitor) (value : BitVec 32) : Option VirtioPhase :=
  match monitor.phase with
  | .start => if value = 0 then some .resetting else none
  | .reset => if value = 3 then some .acknowledged else none
  | .acknowledged =>
      if value = 11 ∧ monitor.accepted 1 &&& virtioFVersion1 ≠ 0 then some .negotiating
      else if value = 131 then some .failed else none
  | .negotiating | .negotiated => if value = 139 then some .failed else none
  | .ready => if value = 15 then some .live else if value = 139 then some .failed else none
  | .resetting | .live | .failed => none

/-- Features are selected and accepted after the acknowledgement, and only those that are offered; the queue
is set up when the device has agreed to the features, and it is not larger than the device allows; a device is
notified when it is live, and only the interrupts that it reports are acknowledged. -/
def afterWrite (monitor : VirtioMonitor) (offset : Nat) (value : BitVec 32) : Option VirtioMonitor :=
  if offset = virtioMmioStatus then
    (monitor.afterStatus value).map fun phase => { monitor with phase := phase }
  else if offset = virtioMmioDeviceFeaturesSel then
    if monitor.phase = .acknowledged then some { monitor with deviceSel := value } else none
  else if offset = virtioMmioDriverFeaturesSel then
    if monitor.phase = .acknowledged then some { monitor with driverSel := value } else none
  else if offset = virtioMmioDriverFeatures then
    if monitor.phase = .acknowledged ∧ value &&& ~~~(monitor.offered monitor.driverSel) = 0 then
      some { monitor with accepted := Function.update monitor.accepted monitor.driverSel value }
    else none
  else if offset = virtioMmioQueueSel then
    if monitor.phase = .negotiated then some { monitor with queueMax := 0 } else none
  else if offset = virtioMmioQueueNum then
    if monitor.phase = .negotiated ∧ value ≠ 0 ∧ value.toNat ≤ monitor.queueMax.toNat then some monitor
    else none
  else if offset = virtioMmioQueueReady then
    if monitor.phase = .negotiated ∧ value = 1 then some { monitor with phase := .ready } else none
  else if virtioMmioQueueDescLow ≤ offset ∧ offset ≤ virtioMmioQueueUsedHigh then
    if monitor.phase = .negotiated then some monitor else none
  else if offset = virtioMmioQueueNotify then
    if monitor.phase = .live then some monitor else none
  else if offset = virtioMmioInterruptAck then
    if monitor.phase = .live ∧ value ≠ 0 ∧ value = monitor.interrupt then
      some { monitor with interrupt := 0 }
    else none
  else none

/-- `none` when the driver has broken the protocol. -/
def step (monitor : VirtioMonitor) : MmioAccess → Option VirtioMonitor
  | .read offset value => some (monitor.afterRead offset value)
  | .write offset value => monitor.afterWrite offset value

end VirtioMonitor

/-- The protocol has been kept up to now, and the driver is where the monitor is. -/
def VirtioMmioDevice.Conforms (device : VirtioMmioDevice) (monitor : VirtioMonitor) : Prop :=
  device.accesses.foldlM VirtioMonitor.step .start = some monitor

end DuckOs

import DuckOs.Drivers.VirtioMmio
import DuckOs.Proof.Virtqueue

/-!
# The drivers keep the protocol

Whatever the devices answer, every access that the drivers make to a slot is one that the protocol allows at
that point, and a slot is brought up by one driver at most.
-/

namespace DuckOs

/-! ### Accesses -/

namespace VirtioMonitor

variable (monitor : VirtioMonitor) (value : BitVec 32)

theorem afterWrite_driverFeatures : monitor.afterWrite virtioMmioDriverFeatures value
    = if monitor.phase = .acknowledged ∧ value &&& ~~~(monitor.offered monitor.driverSel) = 0 then
        some { monitor with accepted := Function.update monitor.accepted monitor.driverSel value }
      else none := rfl

theorem afterWrite_queueNum : monitor.afterWrite virtioMmioQueueNum value
    = if monitor.phase = .negotiated ∧ value ≠ 0 ∧ value.toNat ≤ monitor.queueMax.toNat then some monitor
      else none := rfl

theorem afterWrite_queueReady : monitor.afterWrite virtioMmioQueueReady value
    = if monitor.phase = .negotiated ∧ value = 1 then some { monitor with phase := .ready }
      else none := rfl

theorem afterWrite_queueNotify : monitor.afterWrite virtioMmioQueueNotify value
    = if monitor.phase = .live then some monitor else none := rfl

theorem afterWrite_interruptAck : monitor.afterWrite virtioMmioInterruptAck value
    = if monitor.phase = .live ∧ value ≠ 0 ∧ value = monitor.interrupt then
        some { monitor with interrupt := 0 }
      else none := rfl

/-- The addresses of the queue. -/
theorem afterWrite_queueAddr {offset : Nat}
    (hoffset : virtioMmioQueueDescLow ≤ offset ∧ offset ≤ virtioMmioQueueUsedHigh)
    (hphase : monitor.phase = .negotiated) : monitor.afterWrite offset value = some monitor := by
  have hhigh : 0x80 ≤ offset := hoffset.1
  have hne : ∀ other, other < 0x80 → offset ≠ other := fun other hother => by omega
  rw [afterWrite, if_neg (hne _ (by decide)), if_neg (hne _ (by decide)), if_neg (hne _ (by decide)),
    if_neg (hne _ (by decide)), if_neg (hne _ (by decide)), if_neg (hne _ (by decide)),
    if_neg (hne _ (by decide)), if_pos hoffset, if_pos hphase]

end VirtioMonitor

namespace VirtioMmioDevice

section Accesses

variable {answers : MmioAnswers} {device : VirtioMmioDevice} {monitor after : VirtioMonitor}

theorem zero_conforms : zero.Conforms .start := rfl

theorem Conforms.congr {other : VirtioMmioDevice} (hconforms : device.Conforms monitor)
    (hsame : other.accesses = device.accesses) : other.Conforms monitor := by
  rw [Conforms, hsame]
  exact hconforms

theorem Conforms.read (hconforms : device.Conforms monitor) (offset : Nat) :
    (virtioMmioRead32 answers device offset).2.Conforms
      (monitor.afterRead offset (virtioMmioRead32 answers device offset).1) := by
  rw [Conforms, virtioMmioRead32, List.foldlM_append, hconforms]
  rfl

theorem Conforms.write (hconforms : device.Conforms monitor) {offset : Nat} {value : BitVec 32}
    (hafter : monitor.afterWrite offset value = some after) :
    (virtioMmioWrite32 device offset value).Conforms after := by
  rw [Conforms, virtioMmioWrite32, List.foldlM_append, hconforms]
  change (monitor.afterWrite offset value).bind some = some after
  rw [hafter, Option.bind_some]

/-- A register that tells the driver nothing about the protocol. -/
theorem Conforms.read_other (hconforms : device.Conforms monitor) {offset : Nat}
    (hother : offset ∉ [virtioMmioStatus, virtioMmioDeviceFeatures, virtioMmioQueueNumMax,
      virtioMmioInterruptStatus]) :
    (virtioMmioRead32 answers device offset).2.Conforms monitor := by
  have hread := @Conforms.read answers _ _ hconforms offset
  simp only [List.mem_cons, List.not_mem_nil, or_false, not_or] at hother
  rwa [VirtioMonitor.afterRead, if_neg hother.1, if_neg hother.2.1, if_neg hother.2.2.1,
    if_neg hother.2.2.2] at hread

end Accesses

/-! ### The bring-up of a device -/

/-- What a bring-up leaves as it is. -/
def identity (device : VirtioMmioDevice) : Bool × BitVec 32 × Nat × Bool × Option VirtioIrqHandler :=
  (device.present, device.deviceId, device.irq, device.initialized, device.irqHandler)

@[simp]
theorem identity_write (device : VirtioMmioDevice) (offset : Nat) (value : BitVec 32) :
    (virtioMmioWrite32 device offset value).identity = device.identity := rfl

@[simp]
theorem status_write (device : VirtioMmioDevice) (offset : Nat) (value : BitVec 32) :
    (virtioMmioWrite32 device offset value).status = device.status := rfl

/-- The protocol has been kept, and the driver is in a phase. -/
def InPhase (device : VirtioMmioDevice) (phase : VirtioPhase) : Prop :=
  ∃ monitor, device.Conforms monitor ∧ monitor.phase = phase

section BringUp

variable {answers : MmioAnswers} {device : VirtioMmioDevice} {monitor : VirtioMonitor}
  {phase : VirtioPhase}

theorem InPhase.congr {other : VirtioMmioDevice} (hphase : device.InPhase phase)
    (hsame : other.accesses = device.accesses) : other.InPhase phase := by
  obtain ⟨monitor, hconforms, hmonitor⟩ := hphase
  exact ⟨monitor, hconforms.congr hsame, hmonitor⟩

theorem Conforms.write_status (hconforms : device.Conforms monitor) {value : BitVec 32}
    (hstatus : monitor.afterStatus value = some phase) :
    (virtioMmioWrite32 device virtioMmioStatus value).Conforms { monitor with phase := phase } := by
  apply hconforms.write
  rw [VirtioMonitor.afterWrite, if_pos rfl, hstatus, Option.map_some]

/-- The status with which a driver gives up goes by the phase. -/
theorem InPhase.fail (hphase : device.InPhase phase)
    (hstatus : (phase = .acknowledged ∧ device.status = 3)
      ∨ (phase = .negotiating ∨ phase = .negotiated ∨ phase = .ready) ∧ device.status = 11) :
    (virtioMmioFail device).InPhase .failed
      ∧ (virtioMmioFail device).identity = device.identity := by
  obtain ⟨monitor, hconforms, rfl⟩ := hphase
  have hafter : monitor.afterStatus (device.status ||| virtioStatusFailed) = some .failed := by
    unfold VirtioMonitor.afterStatus
    obtain ⟨hphase, hvalue⟩ | ⟨hphase | hphase | hphase, hvalue⟩ := hstatus
    · rw [hphase, hvalue]
      exact (if_neg fun hboth => absurd hboth.1 (by decide)).trans (if_pos (by decide))
    · rw [hphase, hvalue]
      rfl
    · rw [hphase, hvalue]
      rfl
    · rw [hphase, hvalue]
      rfl
  exact ⟨⟨_, (hconforms.congr rfl).write_status hafter, rfl⟩, rfl⟩

/-- After the reset the device is acknowledged, or it has not been reset. -/
theorem beginInit_spec (hphase : device.InPhase .start) :
    (virtioMmioBeginInit answers device).2.identity = device.identity
      ∧ ((virtioMmioBeginInit answers device).1 = true →
        (virtioMmioBeginInit answers device).2.InPhase .acknowledged
          ∧ (virtioMmioBeginInit answers device).2.status = 3)
      ∧ ((virtioMmioBeginInit answers device).1 = false →
        (virtioMmioBeginInit answers device).2.InPhase .resetting) := by
  obtain ⟨monitor, hconforms, hphase⟩ := hphase
  have hreset : monitor.afterStatus 0 = some .resetting := by
    rw [VirtioMonitor.afterStatus, hphase]
    rfl
  have hread := @Conforms.read answers _ _ (hconforms.write_status hreset) virtioMmioStatus
  unfold virtioMmioBeginInit
  dsimp only
  generalize hresult : virtioMmioRead32 answers (virtioMmioWrite32 device virtioMmioStatus 0)
    virtioMmioStatus = result at hread
  have hidentity : result.2.identity = device.identity := by
    rw [← hresult]
    rfl
  by_cases hzero : result.1 = 0
  · rw [VirtioMonitor.afterRead, if_pos rfl, if_pos ⟨rfl, hzero⟩] at hread
    rw [if_neg (not_not.mpr hzero)]
    have hset : Conforms
        { result.2 with status := virtioStatusAcknowledge ||| virtioStatusDriver } _ :=
      hread.congr rfl
    have hacknowledged := @Conforms.write_status _ _ .acknowledged hset 3 rfl
    exact ⟨hidentity, fun _ => ⟨⟨_, hacknowledged, rfl⟩, rfl⟩, fun hfalse => nomatch hfalse⟩
  · have hnot : ¬ (VirtioPhase.resetting = .resetting ∧ result.1 = 0) := fun hboth => hzero hboth.2
    have hother : ¬ (VirtioPhase.resetting = .negotiating
        ∧ result.1 &&& virtioStatusFeaturesOk ≠ 0) := fun hboth => nomatch hboth.1
    rw [VirtioMonitor.afterRead, if_pos rfl, if_neg hnot, if_neg hother] at hread
    rw [if_pos hzero]
    exact ⟨hidentity, (fun htrue => nomatch htrue), fun _ => ⟨_, hread, rfl⟩⟩

theorem Conforms.read_features (hconforms : device.Conforms monitor)
    (hphase : monitor.phase = .acknowledged) (page : BitVec 32) :
    ∃ after, (virtioMmioReadFeatures answers device page).2.Conforms after
      ∧ after.phase = .acknowledged
      ∧ after.offered = Function.update monitor.offered page
        (virtioMmioReadFeatures answers device page).1 := by
  have hselect : monitor.afterWrite virtioMmioDeviceFeaturesSel page
      = some { monitor with deviceSel := page } := if_pos hphase
  have hread := @Conforms.read answers _ _ (hconforms.write hselect) virtioMmioDeviceFeatures
  exact ⟨_, hread, hphase, rfl⟩

theorem Conforms.write_features (hconforms : device.Conforms monitor)
    (hphase : monitor.phase = .acknowledged) {page value : BitVec 32}
    (hoffered : value &&& ~~~(monitor.offered page) = 0) :
    ∃ after, (virtioMmioWriteFeatures device page value).Conforms after
      ∧ after.phase = .acknowledged ∧ after.offered = monitor.offered ∧ after.accepted page = value := by
  have hselect : monitor.afterWrite virtioMmioDriverFeaturesSel page
      = some { monitor with driverSel := page } := if_pos hphase
  have haccept : VirtioMonitor.afterWrite { monitor with driverSel := page } virtioMmioDriverFeatures
      value = some { monitor with
        driverSel := page
        accepted := Function.update monitor.accepted page value } := by
    rw [VirtioMonitor.afterWrite_driverFeatures, if_pos ⟨hphase, hoffered⟩]
  exact ⟨_, (hconforms.write hselect).write haccept, hphase, rfl, Function.update_self _ _ _⟩

/-- The device is asked whether it agrees. -/
theorem Conforms.write_agreed (hconforms : device.Conforms monitor)
    (hphase : monitor.phase = .acknowledged) (hversion : monitor.accepted 1 &&& virtioFVersion1 ≠ 0) :
    (virtioMmioWrite32 device virtioMmioStatus 11).InPhase .negotiating := by
  have hstatus : monitor.afterStatus 11 = some .negotiating := by
    rw [VirtioMonitor.afterStatus, hphase]
    exact if_pos ⟨rfl, hversion⟩
  exact ⟨_, hconforms.write_status hstatus, rfl⟩

theorem InPhase.read_agreed (hphase : device.InPhase .negotiating) :
    let status := virtioMmioRead32 answers device virtioMmioStatus
    status.2.InPhase
      (if status.1 &&& virtioStatusFeaturesOk = 0 then .negotiating else .negotiated) := by
  obtain ⟨monitor, hconforms, hphase⟩ := hphase
  intro status
  have hread := @Conforms.read answers _ _ hconforms virtioMmioStatus
  have hreset : ¬ (monitor.phase = .resetting ∧ status.1 = 0) := by
    rintro ⟨hother, -⟩
    exact nomatch hphase.symm.trans hother
  rw [VirtioMonitor.afterRead, if_pos rfl, if_neg hreset] at hread
  by_cases hagreed : status.1 &&& virtioStatusFeaturesOk = 0
  · rw [if_neg fun hboth => hboth.2 hagreed] at hread
    rw [if_pos hagreed]
    exact ⟨_, hread, hphase⟩
  · rw [if_pos ⟨hphase, hagreed⟩] at hread
    rw [if_neg hagreed]
    exact ⟨_, hread, rfl⟩

/-- Only what the device offers is accepted, `VIRTIO_F_VERSION_1` included. -/
theorem and_not_eq_zero (feature page : BitVec 32) : feature &&& page &&& ~~~page = 0 := by
  simp [BitVec.and_assoc]

theorem version1_and_not {page : BitVec 32} (hversion : page &&& virtioFVersion1 ≠ 0) :
    virtioFVersion1 &&& ~~~page = 0 := by
  have hget : page.getLsbD 0 = true := by
    by_contra hnot
    rw [Bool.not_eq_true] at hnot
    apply hversion
    change page &&& 1#32 = 0
    rw [BitVec.and_one_eq_setWidth_ofBool_getLsbD, hnot]
    rfl
  change 1#32 &&& ~~~page = 0
  rw [BitVec.and_comm, BitVec.and_one_eq_setWidth_ofBool_getLsbD, BitVec.getLsbD_not, hget]
  rfl

theorem or_version1_and_not (feature : BitVec 32) {page : BitVec 32}
    (hversion : page &&& virtioFVersion1 ≠ 0) :
    (feature &&& page ||| virtioFVersion1) &&& ~~~page = 0 := by
  rw [BitVec.and_or_distrib_right, and_not_eq_zero, version1_and_not hversion]
  rfl

theorem or_version1_ne_zero (features : BitVec 32) :
    (features ||| virtioFVersion1) &&& virtioFVersion1 ≠ 0 := by
  have habsorb : (features ||| virtioFVersion1) &&& virtioFVersion1 = virtioFVersion1 := by
    change (features ||| 1#32) &&& 1#32 = 1#32
    rw [BitVec.and_one_eq_setWidth_ofBool_getLsbD, BitVec.getLsbD_or]
    simp
  rw [habsorb]
  decide

theorem accept_spec (hconforms : device.Conforms monitor) (hphase : monitor.phase = .acknowledged)
    (hstatus : device.status = 3) (hpage0 : device.driverFeatures0 &&& ~~~(monitor.offered 0) = 0)
    (hpage1 : device.driverFeatures1 &&& ~~~(monitor.offered 1) = 0)
    (hversion : device.driverFeatures1 &&& virtioFVersion1 ≠ 0) :
    let result := virtioMmioAcceptFeatures answers device
    result.2.identity = device.identity ∧ result.2.status = 11
      ∧ (result.1 = true → result.2.InPhase .negotiated)
      ∧ (result.1 = false → result.2.InPhase .negotiating) := by
  unfold virtioMmioAcceptFeatures
  dsimp only
  obtain ⟨afterFirst, hfirst, hfirstPhase, hfirstOffered, -⟩ :=
    hconforms.write_features hphase hpage0
  have hfirstSame : (virtioMmioWriteFeatures device 0 device.driverFeatures0).driverFeatures1
      = device.driverFeatures1 := rfl
  have hfirstKept : (virtioMmioWriteFeatures device 0 device.driverFeatures0).identity
      = device.identity := rfl
  have hfirstStatus : (virtioMmioWriteFeatures device 0 device.driverFeatures0).status = 3 := hstatus
  generalize virtioMmioWriteFeatures device 0 device.driverFeatures0 = first
    at hfirst hfirstSame hfirstKept hfirstStatus ⊢
  rw [← hfirstOffered, ← hfirstSame] at hpage1
  obtain ⟨afterSecond, hsecond, hsecondPhase, -, haccepted⟩ := hfirst.write_features hfirstPhase hpage1
  have hsecondKept : (virtioMmioWriteFeatures first 1 first.driverFeatures1).identity
      = device.identity := hfirstKept
  have hsecondStatus : (virtioMmioWriteFeatures first 1 first.driverFeatures1).status
      ||| virtioStatusFeaturesOk = 11 := by
    change first.status ||| virtioStatusFeaturesOk = 11
    rw [hfirstStatus]
    rfl
  generalize virtioMmioWriteFeatures first 1 first.driverFeatures1 = second
    at hsecond hsecondKept hsecondStatus ⊢
  rw [hsecondStatus]
  have hset : Conforms { second with status := 11 } afterSecond := hsecond.congr rfl
  have hread := @InPhase.read_agreed answers _
    (hset.write_agreed hsecondPhase (by rw [haccepted, hfirstSame]; exact hversion))
  dsimp only at hread
  have hidentity : ∀ status : BitVec 32 × VirtioMmioDevice,
      virtioMmioRead32 answers (virtioMmioWrite32 { second with status := 11 } virtioMmioStatus 11)
        virtioMmioStatus = status → status.2.identity = device.identity ∧ status.2.status = 11 := by
    rintro _ rfl
    exact ⟨hsecondKept, rfl⟩
  generalize virtioMmioRead32 answers (virtioMmioWrite32 { second with status := 11 } virtioMmioStatus 11)
    virtioMmioStatus = status at hread hidentity ⊢
  obtain ⟨hkept, hvalue⟩ := hidentity status rfl
  by_cases hagreed : status.1 &&& virtioStatusFeaturesOk = 0
  · rw [if_pos hagreed] at hread ⊢
    exact ⟨hkept, hvalue, (fun htrue => nomatch htrue), fun _ => hread⟩
  · rw [if_neg hagreed] at hread ⊢
    exact ⟨hkept, hvalue, fun _ => hread, fun hfalse => nomatch hfalse⟩

theorem negotiate_spec (hphase : device.InPhase .acknowledged) (hstatus : device.status = 3)
    (page0 page1 : BitVec 32) :
    let result := virtioMmioNegotiateFeatures answers device page0 page1
    result.2.identity = device.identity
      ∧ (result.1 = true → result.2.InPhase .negotiated ∧ result.2.status = 11)
      ∧ (result.1 = false →
        (result.2.InPhase .acknowledged ∧ result.2.status = 3)
          ∨ result.2.InPhase .negotiating ∧ result.2.status = 11) := by
  obtain ⟨monitor, hconforms, hphase⟩ := hphase
  unfold virtioMmioNegotiateFeatures
  dsimp only
  obtain ⟨afterFirst, hfirst, hfirstPhase, hfirstOffered⟩ :=
    @Conforms.read_features answers _ _ hconforms hphase 0
  generalize hfirstEq : virtioMmioReadFeatures answers device 0 = first at hfirst hfirstOffered
  have hfirstStatus : first.2.status = 3 := by
    rw [← hfirstEq, ← hstatus]
    rfl
  obtain ⟨afterSecond, hsecond, hsecondPhase, hsecondOffered⟩ :=
    @Conforms.read_features answers _ _ hfirst hfirstPhase 1
  generalize hsecondEq : virtioMmioReadFeatures answers first.2 1 = second at hsecond hsecondOffered
  have hsecondStatus : second.2.status = 3 := by
    rw [← hsecondEq, ← hfirstStatus]
    rfl
  have hidentity : second.2.identity = device.identity := by
    rw [← hsecondEq, ← hfirstEq]
    rfl
  by_cases hversion : second.1 &&& virtioFVersion1 = 0
  · rw [if_pos hversion]
    exact ⟨hidentity, (fun htrue => nomatch htrue),
      fun _ => .inl ⟨⟨_, hsecond, hsecondPhase⟩, hsecondStatus⟩⟩
  rw [if_neg hversion]
  have hset : Conforms
      { second.2 with
        driverFeatures0 := page0 &&& first.1
        driverFeatures1 := page1 &&& second.1 ||| virtioFVersion1 } afterSecond := hsecond.congr rfl
  have hoffered0 : (page0 &&& first.1) &&& ~~~(afterSecond.offered 0) = 0 := by
    rw [hsecondOffered, Function.update_of_ne (by decide), hfirstOffered, Function.update_self]
    exact and_not_eq_zero page0 first.1
  have hoffered1 : (page1 &&& second.1 ||| virtioFVersion1) &&& ~~~(afterSecond.offered 1) = 0 := by
    rw [hsecondOffered, Function.update_self]
    exact or_version1_and_not page1 hversion
  obtain ⟨haccepted, hstatusAfter, htrue, hfalse⟩ := @accept_spec answers _ _ hset hsecondPhase
    hsecondStatus hoffered0 hoffered1 (or_version1_ne_zero _)
  exact ⟨haccepted.trans hidentity, fun hresult => ⟨htrue hresult, hstatusAfter⟩,
    fun hresult => .inr ⟨hfalse hresult, hstatusAfter⟩⟩

theorem setupQueue_spec (hphase : device.InPhase .negotiated) (queueIndex : BitVec 32)
    {queue : Virtqueue} (hsize : 0 < queue.size) (hlt : queue.size < 2 ^ 16) :
    let result := virtioMmioSetupQueue answers device queueIndex queue
    result.2.identity = device.identity ∧ result.2.status = device.status
      ∧ (result.1 = true → result.2.InPhase .ready) ∧ (result.1 = false → result.2.InPhase .negotiated) := by
  obtain ⟨monitor, hconforms, hphase⟩ := hphase
  have hselect : monitor.afterWrite virtioMmioQueueSel queueIndex
      = some { monitor with queueMax := 0 } := if_pos hphase
  have hread := @Conforms.read answers _ _ (hconforms.write hselect) virtioMmioQueueNumMax
  unfold virtioMmioSetupQueue
  dsimp only
  generalize hmaxEq : virtioMmioRead32 answers (virtioMmioWrite32 device virtioMmioQueueSel queueIndex)
    virtioMmioQueueNumMax = max at hread ⊢
  have hidentity : max.2.identity = device.identity ∧ max.2.status = device.status := by
    rw [← hmaxEq]
    exact ⟨rfl, rfl⟩
  by_cases hsmall : max.1 = 0 ∨ max.1.toNat < queue.size
  · rw [if_pos hsmall]
    exact ⟨hidentity.1, hidentity.2, (fun htrue => nomatch htrue), fun _ => ⟨_, hread, hphase⟩⟩
  rw [if_neg hsmall]
  rw [not_or, Nat.not_lt] at hsmall
  have hnum : VirtioMonitor.afterWrite
      (VirtioMonitor.afterRead { monitor with queueMax := 0 } virtioMmioQueueNumMax max.1)
      virtioMmioQueueNum (.ofNat 32 queue.size)
      = some (VirtioMonitor.afterRead { monitor with queueMax := 0 } virtioMmioQueueNumMax max.1) := by
    have htoNat : (BitVec.ofNat 32 queue.size).toNat = queue.size := by
      rw [BitVec.toNat_ofNat, Nat.mod_eq_of_lt (by omega)]
    rw [VirtioMonitor.afterWrite_queueNum, if_pos]
    refine ⟨hphase, fun hzero => ?_, ?_⟩
    · rw [hzero] at htoNat
      exact Nat.ne_of_lt hsize htoNat
    · rw [htoNat]
      exact hsmall.2
  have hwritten := hread.write hnum
  have hafterPhase : (VirtioMonitor.afterRead { monitor with queueMax := 0 } virtioMmioQueueNumMax
      max.1).phase = .negotiated := hphase
  generalize VirtioMonitor.afterRead { monitor with queueMax := 0 } virtioMmioQueueNumMax max.1
    = after at hwritten hafterPhase
  have haddr : ∀ (offset : Nat) (value : BitVec 32) {other : VirtioMmioDevice},
      virtioMmioQueueDescLow ≤ offset ∧ offset ≤ virtioMmioQueueUsedHigh → other.Conforms after →
      (virtioMmioWrite32 other offset value).Conforms after :=
    fun offset value _ hoffset hother =>
      hother.write (after.afterWrite_queueAddr value hoffset hafterPhase)
  have hdesc := haddr virtioMmioQueueDescHigh ((queue.descAddr >>> 32).setWidth 32) (by decide)
    (haddr virtioMmioQueueDescLow (queue.descAddr.setWidth 32) (by decide) hwritten)
  have havail := haddr virtioMmioQueueAvailHigh ((queue.availAddr >>> 32).setWidth 32) (by decide)
    (haddr virtioMmioQueueAvailLow (queue.availAddr.setWidth 32) (by decide) hdesc)
  have hused := haddr virtioMmioQueueUsedHigh ((queue.usedAddr >>> 32).setWidth 32) (by decide)
    (haddr virtioMmioQueueUsedLow (queue.usedAddr.setWidth 32) (by decide) havail)
  have hready : after.afterWrite virtioMmioQueueReady 1 = some { after with phase := .ready } := by
    rw [VirtioMonitor.afterWrite_queueReady, if_pos ⟨hafterPhase, rfl⟩]
  have hlast := hused.write hready
  simp only [identity_write, status_write]
  exact ⟨hidentity.1, hidentity.2, fun _ => ⟨_, hlast, rfl⟩, fun hfalse => nomatch hfalse⟩

/-- A bring-up ends with a device that is ready, or one that is given up. -/
theorem bringUp_spec (hphase : device.InPhase .start) (queueIndex : BitVec 32)
    {queueSize : Nat} (page : Nat) :
    let result := virtioBringUp answers queueIndex queueSize page device
    result.2.identity = device.identity
      ∧ (result.1.isSome = true → result.2.InPhase .ready ∧ result.2.status = 11)
      ∧ (result.1 = none → ∃ phase, phase ≠ .live ∧ result.2.InPhase phase) := by
  obtain ⟨hbegunKept, hbegun, hnotBegun⟩ := @beginInit_spec answers _ hphase
  unfold virtioBringUp
  dsimp only
  generalize virtioMmioBeginInit answers device = begun at hbegunKept hbegun hnotBegun ⊢
  cases hbegunResult : begun.1 with
  | false =>
      exact ⟨hbegunKept, (fun hsome => nomatch hsome),
        fun _ => ⟨.resetting, by decide, hnotBegun hbegunResult⟩⟩
  | true =>
      obtain ⟨hacknowledged, hstatus⟩ := hbegun hbegunResult
      obtain ⟨hkept, hnegotiated, hnotNegotiated⟩ :=
        @negotiate_spec answers _ hacknowledged hstatus 0 0
      rw [hbegunKept] at hkept
      rw [Bool.not_true, if_neg Bool.false_ne_true]
      generalize virtioMmioNegotiateFeatures answers begun.2 0 0 = negotiated
        at hkept hnegotiated hnotNegotiated ⊢
      cases hresult : negotiated.1 with
      | false =>
          obtain ⟨hfailed, hfailedKept⟩ : (virtioMmioFail negotiated.2).InPhase .failed
              ∧ (virtioMmioFail negotiated.2).identity = negotiated.2.identity := by
            rcases hnotNegotiated hresult with ⟨hphase, hstatus⟩ | ⟨hphase, hstatus⟩
            · exact hphase.fail (.inl ⟨rfl, hstatus⟩)
            · exact hphase.fail (.inr ⟨.inl rfl, hstatus⟩)
          exact ⟨hfailedKept.trans hkept, (fun hsome => nomatch hsome),
            fun _ => ⟨.failed, by decide, hfailed⟩⟩
      | true =>
          obtain ⟨hphase, hstatus⟩ := hnegotiated hresult
          rw [Bool.not_true, if_neg Bool.false_ne_true]
          cases hqueue : virtqueueInit queueSize page with
          | none =>
              obtain ⟨hfailed, hfailedKept⟩ := hphase.fail (.inr ⟨.inr (.inl rfl), hstatus⟩)
              exact ⟨hfailedKept.trans hkept, (fun hsome => nomatch hsome),
                fun _ => ⟨.failed, by decide, hfailed⟩⟩
          | some queue =>
              have hsize : queue.size = queueSize := by
                rw [virtqueueInit_eq hqueue]
              obtain ⟨hreadyKept, hreadyStatus, hready, hnotReady⟩ := @setupQueue_spec answers _ hphase
                queueIndex queue (hsize ▸ (virtqueueInit_fits hqueue).1)
                (hsize ▸ virtqueueInit_size_lt hqueue)
              dsimp only at hreadyKept hreadyStatus hready hnotReady ⊢
              generalize virtioMmioSetupQueue answers negotiated.2 queueIndex queue = ready
                at hreadyKept hreadyStatus hready hnotReady ⊢
              rw [hkept] at hreadyKept
              rw [hstatus] at hreadyStatus
              cases hreadyResult : ready.1 with
              | false =>
                  obtain ⟨hfailed, hfailedKept⟩ :=
                    (hnotReady hreadyResult).fail (.inr ⟨.inr (.inl rfl), hreadyStatus⟩)
                  exact ⟨hfailedKept.trans hreadyKept, (fun hsome => nomatch hsome),
                    fun _ => ⟨.failed, by decide, hfailed⟩⟩
              | true =>
                  exact ⟨hreadyKept, fun _ => ⟨hready hreadyResult, hreadyStatus⟩,
                    fun hnone => nomatch hnone⟩

end BringUp

/-! ### The drivers -/

/-- What probing a slot has found. -/
def place (device : VirtioMmioDevice) : Bool × BitVec 32 × Nat :=
  (device.present, device.deviceId, device.irq)

/-- In every state of a slot: the protocol has been kept, and the device is initialised when it is live. -/
def Kept (device : VirtioMmioDevice) : Prop :=
  ∃ monitor, device.Conforms monitor ∧ (device.initialized = true ↔ monitor.phase = .live)

/-- No driver has touched the slot. -/
structure Fresh (device : VirtioMmioDevice) : Prop where
  start : device.InPhase .start
  initialized_eq : device.initialized = false
  irqHandler_eq : device.irqHandler = none

/-- What the bring-up by a driver with an interrupt handler leaves behind. -/
structure Driven (handler : Option VirtioIrqHandler) (device : VirtioMmioDevice)
    (result : Bool × VirtioMmioDevice) : Prop where
  kept : result.2.Kept
  place_eq : result.2.place = device.place
  initialized_of : result.1 = true → result.2.initialized = true
  irqHandler_eq : result.2.irqHandler = if result.1 then handler else none

section Drivers

variable {answers : MmioAnswers} {device : VirtioMmioDevice} {phase : VirtioPhase}

theorem Fresh.kept (hfresh : device.Fresh) : device.Kept := by
  obtain ⟨monitor, hconforms, hphase⟩ := hfresh.start
  refine ⟨monitor, hconforms, ?_⟩
  rw [hfresh.initialized_eq, hphase]
  exact iff_of_false Bool.false_ne_true (by decide)

theorem place_of_identity {other : VirtioMmioDevice} (hidentity : device.identity = other.identity) :
    device.place = other.place ∧ device.initialized = other.initialized
      ∧ device.irqHandler = other.irqHandler := by
  simp only [identity, Prod.mk.injEq] at hidentity
  obtain ⟨hpresent, hdeviceId, hirq, hinitialized, hhandler⟩ := hidentity
  refine ⟨?_, hinitialized, hhandler⟩
  rw [place, place, hpresent, hdeviceId, hirq]

/-- A device that the driver has given up. -/
theorem Fresh.driven_false (hfresh : device.Fresh) {result : VirtioMmioDevice}
    (hidentity : result.identity = device.identity) (hphase : result.InPhase phase) (hlive : phase ≠ .live)
    (handler : Option VirtioIrqHandler) : device.Driven handler (false, result) := by
  obtain ⟨hplace, hinitialized, hhandler⟩ := place_of_identity hidentity
  obtain ⟨monitor, hconforms, rfl⟩ := hphase
  refine ⟨⟨monitor, hconforms, ?_⟩, hplace, (fun htrue => nomatch htrue), ?_⟩
  · rw [hinitialized, hfresh.initialized_eq]
    exact iff_of_false Bool.false_ne_true hlive
  · exact hhandler.trans hfresh.irqHandler_eq

/-- The bring-up by any driver, up to the queue. -/
theorem Fresh.bringUp (hfresh : device.Fresh) (queueIndex : BitVec 32) (queueSize page : Nat) :
    let result := virtioBringUp answers queueIndex queueSize page device
    (result.1 = none → ∀ handler, device.Driven handler (false, result.2))
      ∧ ∀ queue, result.1 = some queue →
        result.2.InPhase .ready ∧ result.2.status = 11 ∧ result.2.identity = device.identity := by
  obtain ⟨hidentity, hready, hfailed⟩ :=
    @bringUp_spec answers _ hfresh.start queueIndex queueSize page
  constructor
  · intro hnone handler
    obtain ⟨phase, hlive, hphase⟩ := hfailed hnone
    exact hfresh.driven_false hidentity hphase hlive handler
  · intro queue hqueue
    obtain ⟨hphase, hstatus⟩ := hready (by rw [hqueue]; rfl)
    exact ⟨hphase, hstatus, hidentity⟩

theorem InPhase.finish (hphase : device.InPhase .ready) (hstatus : device.status = 11) :
    (virtioMmioFinishInit device).InPhase .live := by
  obtain ⟨monitor, hconforms, hphase⟩ := hphase
  have hlive : monitor.afterStatus (device.status ||| virtioStatusDriverOk) = some .live := by
    rw [VirtioMonitor.afterStatus, hphase, hstatus]
    rfl
  have hset : Conforms { device with status := device.status ||| virtioStatusDriverOk } monitor :=
    hconforms.congr rfl
  exact ⟨_, (hset.write_status hlive).congr rfl, rfl⟩

theorem InPhase.notify (hphase : device.InPhase .live) (queueIndex : BitVec 32) :
    (virtioMmioNotifyQueue device queueIndex).InPhase .live := by
  obtain ⟨monitor, hconforms, hphase⟩ := hphase
  have hnotify : monitor.afterWrite virtioMmioQueueNotify queueIndex = some monitor := by
    rw [VirtioMonitor.afterWrite_queueNotify, if_pos hphase]
  exact ⟨monitor, hconforms.write hnotify, hphase⟩

theorem InPhase.notify_all (queues : List (BitVec 32)) : ∀ {device : VirtioMmioDevice},
    device.InPhase .live →
      (queues.foldl virtioMmioNotifyQueue device).InPhase .live
        ∧ (queues.foldl virtioMmioNotifyQueue device).identity = device.identity := by
  induction queues with
  | nil => exact fun hphase => ⟨hphase, rfl⟩
  | cons queue rest ih => exact fun hphase => ih (hphase.notify queue)

/-- A device that is live, with or without a driver that keeps it. -/
theorem driven_of_live {result : VirtioMmioDevice} (hphase : result.InPhase .live)
    (hplace : result.place = device.place) (hinitialized : result.initialized = true) (kept : Bool)
    {handler : Option VirtioIrqHandler} (hhandler : result.irqHandler = if kept then handler else none) :
    device.Driven handler (kept, result) := by
  obtain ⟨monitor, hconforms, hphase⟩ := hphase
  exact ⟨⟨monitor, hconforms, iff_of_true hinitialized hphase⟩, hplace, fun _ => hinitialized, hhandler⟩

theorem Fresh.rngInit (hfresh : device.Fresh) (page : Nat) :
    device.Driven (some .rng) (rngInit answers page device) := by
  obtain ⟨hfailed, hready⟩ := @Fresh.bringUp answers _ hfresh 0 8 page
  unfold VirtioMmioDevice.rngInit
  dsimp only at hready hfailed ⊢
  generalize virtioBringUp answers 0 8 page device = result at hready hfailed ⊢
  cases hqueue : result.1 with
  | none => exact hfailed hqueue _
  | some queue =>
      obtain ⟨hphase, hstatus, hidentity⟩ := hready queue hqueue
      have hset : (virtioMmioSetIrqHandler result.2 .rng).InPhase .ready := hphase.congr rfl
      exact driven_of_live (hset.finish hstatus) (place_of_identity hidentity).1 rfl true rfl

theorem Fresh.blkInit (hfresh : device.Fresh) (page : Nat) (registered : Bool) :
    device.Driven (some .blk) (blkInit answers page registered device) := by
  obtain ⟨hfailed, hready⟩ := @Fresh.bringUp answers _ hfresh 0 virtioBlkQueueSize page
  unfold VirtioMmioDevice.blkInit
  dsimp only at hready hfailed ⊢
  generalize virtioBringUp answers 0 virtioBlkQueueSize page device = result
    at hready hfailed ⊢
  cases hqueue : result.1 with
  | none => exact hfailed hqueue _
  | some queue =>
      obtain ⟨⟨monitor, hconforms, hphase⟩, hstatus, hidentity⟩ := hready queue hqueue
      have hlow := @Conforms.read_other answers _ _ hconforms virtioBlkConfigCapacityLow (by decide)
      have hhigh := @Conforms.read_other answers _ _ hlow virtioBlkConfigCapacityHigh (by decide)
      dsimp only
      generalize hlowEq : virtioMmioRead32 answers result.2 virtioBlkConfigCapacityLow = low at hhigh ⊢
      generalize hhighEq : virtioMmioRead32 answers low.2 virtioBlkConfigCapacityHigh = high at hhigh ⊢
      have hkept : high.2.identity = device.identity := by
        rw [← hidentity, ← hhighEq, ← hlowEq]
        rfl
      have hhighStatus : high.2.status = 11 := by
        rw [← hstatus, ← hhighEq, ← hlowEq]
        rfl
      have hphaseHigh : high.2.InPhase .ready := ⟨monitor, hhigh, hphase⟩
      obtain ⟨hgivenUp, hgivenUpKept⟩ := hphaseHigh.fail (.inr ⟨.inr (.inr rfl), hhighStatus⟩)
      split
      · exact hfresh.driven_false (hgivenUpKept.trans hkept) hgivenUp (by decide) _
      split
      · exact hfresh.driven_false (hgivenUpKept.trans hkept) hgivenUp (by decide) _
      · have hset : (virtioMmioSetIrqHandler high.2 .blk).InPhase .ready := hphaseHigh.congr rfl
        exact driven_of_live (hset.finish hhighStatus) (place_of_identity hkept).1 rfl true rfl

theorem Fresh.gpuInit (hfresh : device.Fresh) (page requests : Nat) (kept : Bool) :
    device.Driven none (gpuInit answers page requests kept device) := by
  obtain ⟨hfailed, hready⟩ := @Fresh.bringUp answers _ hfresh 0 8 page
  unfold VirtioMmioDevice.gpuInit
  dsimp only at hready hfailed ⊢
  generalize virtioBringUp answers 0 8 page device = result at hready hfailed ⊢
  cases hqueue : result.1 with
  | none => exact hfailed hqueue _
  | some queue =>
      obtain ⟨hphase, hstatus, hidentity⟩ := hready queue hqueue
      obtain ⟨hlive, hkept⟩ := InPhase.notify_all (List.replicate requests 0) (hphase.finish hstatus)
      obtain ⟨hplace, hinitialized, hhandler⟩ := place_of_identity hkept
      obtain ⟨hplaceBefore, -, hhandlerBefore⟩ := place_of_identity hidentity
      refine driven_of_live hlive (hplace.trans hplaceBefore) hinitialized kept ?_
      rw [hhandler]
      change result.2.irqHandler = _
      rw [hhandlerBefore, hfresh.irqHandler_eq, ite_self]

theorem Fresh.inputInit (hfresh : device.Fresh) (page : Nat) :
    device.Driven none (inputInit answers page device) := by
  obtain ⟨hfailed, hready⟩ := @Fresh.bringUp answers _ hfresh 0 32 page
  unfold VirtioMmioDevice.inputInit
  dsimp only at hready hfailed ⊢
  generalize virtioBringUp answers 0 32 page device = result at hready hfailed ⊢
  cases hqueue : result.1 with
  | none => exact hfailed hqueue _
  | some queue =>
      obtain ⟨hphase, hstatus, hidentity⟩ := hready queue hqueue
      obtain ⟨hplace, -, hhandler⟩ := place_of_identity hidentity
      refine driven_of_live (hphase.finish hstatus) hplace rfl true ?_
      exact hhandler.trans hfresh.irqHandler_eq

end Drivers

end VirtioMmioDevice

end DuckOs

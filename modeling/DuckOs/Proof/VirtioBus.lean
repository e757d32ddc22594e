import DuckOs.Proof.VirtioMmio

/-!
# The virtio bus

Each driver finds slots of its own, so that every slot is brought up once at most, and an interrupt reaches
the handler of its slot and no other.
-/

namespace DuckOs

namespace VirtioBus

/-! ### Looking for a device -/

section Find

variable {devices other : Nat → VirtioMmioDevice} {deviceId : BitVec 32} {instanceIndex : Nat}

/-- A device that is present and of a kind. -/
abbrev IsDevice (devices : Nat → VirtioMmioDevice) (deviceId : BitVec 32) (slot : Nat) : Prop :=
  (devices slot).present = true ∧ (devices slot).deviceId = deviceId

/-- The slot that is found, and how many of its kind are before it. -/
theorem findLoop_spec : ∀ (fuel slot found : Nat) {target : Nat},
    findLoop devices deviceId instanceIndex fuel slot found = some target →
    slot ≤ target ∧ target < slot + fuel ∧ IsDevice devices deviceId target
      ∧ instanceIndex = found + (List.range' slot (target - slot)).countP (IsDevice devices deviceId) := by
  intro fuel
  induction fuel with
  | zero => exact fun _ _ _ hfound => nomatch hfound
  | succ fuel ih =>
      intro slot found target hfound
      rw [findLoop] at hfound
      by_cases hdevice : IsDevice devices deviceId slot
      · rw [if_pos hdevice] at hfound
        by_cases hlast : found = instanceIndex
        · rw [if_pos hlast, Option.some.injEq] at hfound
          rw [← hfound]
          refine ⟨Nat.le_refl _, by omega, hdevice, ?_⟩
          rw [Nat.sub_self, ← hlast]
          rfl
        · rw [if_neg hlast] at hfound
          obtain ⟨hfrom, hto, htarget, hcount⟩ := ih (slot + 1) (found + 1) hfound
          refine ⟨by omega, by omega, htarget, ?_⟩
          have hlength : target - slot = target - (slot + 1) + 1 := by omega
          rw [hlength, List.range'_succ, List.countP_cons_of_pos (by simpa using hdevice), hcount]
          omega
      · rw [if_neg hdevice] at hfound
        obtain ⟨hfrom, hto, htarget, hcount⟩ := ih (slot + 1) found hfound
        refine ⟨by omega, by omega, htarget, ?_⟩
        have hlength : target - slot = target - (slot + 1) + 1 := by omega
        rw [hlength, List.range'_succ, List.countP_cons_of_neg (by simpa using hdevice), hcount]

theorem findLoop_congr (hsame : ∀ slot, (other slot).place = (devices slot).place) :
    ∀ fuel slot found : Nat, findLoop other deviceId instanceIndex fuel slot found
      = findLoop devices deviceId instanceIndex fuel slot found := by
  have hfields : ∀ slot, (other slot).present = (devices slot).present
      ∧ (other slot).deviceId = (devices slot).deviceId := by
    intro slot
    have hplace := hsame slot
    simp only [VirtioMmioDevice.place, Prod.mk.injEq] at hplace
    exact ⟨hplace.1, hplace.2.1⟩
  intro fuel
  induction fuel with
  | zero => exact fun _ _ => rfl
  | succ fuel ih =>
      intro slot found
      rw [findLoop, findLoop, (hfields slot).1, (hfields slot).2, ih, ih]

variable {bus : VirtioBus} {slot : Nat}

theorem virtioFindDevice_spec (hfound : bus.virtioFindDevice deviceId instanceIndex = some slot) :
    slot < virtioMmioCount ∧ IsDevice bus.devices deviceId slot := by
  obtain ⟨-, hlt, hdevice, -⟩ := findLoop_spec virtioMmioCount 0 0 hfound
  rw [Nat.zero_add] at hlt
  exact ⟨hlt, hdevice⟩

/-- Different instances are in different slots. -/
theorem virtioFindDevice_inj {otherIndex : Nat}
    (hfound : bus.virtioFindDevice deviceId instanceIndex = some slot)
    (hother : bus.virtioFindDevice deviceId otherIndex = some slot) : instanceIndex = otherIndex := by
  obtain ⟨-, -, -, hcount⟩ := findLoop_spec virtioMmioCount 0 0 hfound
  obtain ⟨-, -, -, hcountOther⟩ := findLoop_spec virtioMmioCount 0 0 hother
  rw [hcount, hcountOther]

end Find

/-! ### The bring-up of all devices -/

/-- The slot of the driver whose handler it is. -/
def owner (bus : VirtioBus) : VirtioIrqHandler → Option Nat
  | .rng => bus.rng
  | .blk => bus.blk

/-- A driver uses the slot. -/
def Used (bus : VirtioBus) (slot : Nat) : Prop :=
  bus.rng = some slot ∨ bus.blk = some slot ∨ bus.gpu = some slot ∨ slot ∈ bus.inputs

/-- In every state from the probing on. -/
structure Inv (bus : VirtioBus) : Prop where
  kept : ∀ slot, (bus.devices slot).Kept
  irq_eq : ∀ slot < virtioMmioCount, (bus.devices slot).irq = 48 + slot
  handler_iff : ∀ slot handler,
    (bus.devices slot).irqHandler = some handler ↔ bus.owner handler = some slot
  used : ∀ slot, bus.Used slot → (bus.devices slot).initialized = true
  present : ∀ slot, (bus.devices slot).initialized = true → (bus.devices slot).present = true

/-- Devices of the kinds of `deviceIds` have not been touched. -/
def Untouched (bus : VirtioBus) (deviceIds : List (BitVec 32)) : Prop :=
  ∀ slot, (bus.devices slot).deviceId ∈ deviceIds → (bus.devices slot).Fresh

section Boot

variable {bus : VirtioBus} {slot : Nat} {answers : BusAnswers}

theorem probeSlot_spec (answers : MmioAnswers) (slot : Nat) :
    (virtioMmioProbeSlot answers slot .zero).Fresh
      ∧ (virtioMmioProbeSlot answers slot .zero).irq = 48 + slot := by
  have hstart : VirtioMmioDevice.Conforms { VirtioMmioDevice.zero with irq := 48 + slot } .start := rfl
  have hmagic := @VirtioMmioDevice.Conforms.read_other answers _ _ hstart virtioMmioMagicValue
    (by decide)
  have hversion := @VirtioMmioDevice.Conforms.read_other answers _ _ hmagic virtioMmioVersion (by decide)
  have hdeviceId := @VirtioMmioDevice.Conforms.read_other answers _ _ hversion virtioMmioDeviceId
    (by decide)
  have hvendorId := @VirtioMmioDevice.Conforms.read_other answers _ _ hdeviceId virtioMmioVendorId
    (by decide)
  unfold virtioMmioProbeSlot
  dsimp only
  split
  · exact ⟨⟨⟨_, hdeviceId, rfl⟩, rfl, rfl⟩, rfl⟩
  · exact ⟨⟨⟨_, hvendorId.congr rfl, rfl⟩, rfl, rfl⟩, rfl⟩

/-- All slots are untouched after the probing. -/
theorem virtioInit_spec : ∀ count : Nat,
    let bus := (List.range count).foldl
      (fun bus slot => bus.set slot (virtioMmioProbeSlot (answers slot) slot (bus.devices slot))) zero
    bus.rng = none ∧ bus.blk = none ∧ bus.gpu = none ∧ bus.inputs = []
      ∧ (∀ slot, (bus.devices slot).Fresh)
      ∧ (∀ slot < count, (bus.devices slot).irq = 48 + slot)
      ∧ ∀ slot, count ≤ slot → bus.devices slot = .zero := by
  intro count
  induction count with
  | zero =>
      have hzero : VirtioMmioDevice.zero.Fresh :=
        ⟨⟨.start, VirtioMmioDevice.zero_conforms, rfl⟩, rfl, rfl⟩
      exact ⟨rfl, rfl, rfl, rfl, fun _ => hzero, fun _ hslot => absurd hslot (Nat.not_lt_zero _),
        fun _ _ => rfl⟩
  | succ count ih =>
      rw [List.range_succ, List.foldl_append]
      dsimp only at ih ⊢
      generalize (List.range count).foldl _ zero = bus at ih ⊢
      obtain ⟨hrng, hblk, hgpu, hinputs, hfresh, hirq, hzero⟩ := ih
      obtain ⟨hprobed, hprobedIrq⟩ := probeSlot_spec (answers count) count
      rw [← hzero count (Nat.le_refl _)] at hprobed hprobedIrq
      refine ⟨hrng, hblk, hgpu, hinputs, fun slot => ?_, fun slot hslot => ?_, fun slot hslot => ?_⟩
      · by_cases heq : slot = count
        · rw [heq]
          exact (congrArg VirtioMmioDevice.Fresh (Function.update_self _ _ _)).mpr hprobed
        · exact (congrArg VirtioMmioDevice.Fresh (Function.update_of_ne heq _ _)).mpr (hfresh slot)
      · by_cases heq : slot = count
        · rw [heq]
          exact (congrArg VirtioMmioDevice.irq (Function.update_self _ _ _)).trans hprobedIrq
        · exact (congrArg VirtioMmioDevice.irq (Function.update_of_ne heq _ _)).trans
            (hirq slot (by omega))
      · have hne : slot ≠ count := by omega
        exact (Function.update_of_ne hne _ _).trans (hzero slot (by omega))

/-- The bring-up of a slot by a driver that has had no slot so far. -/
theorem Inv.attach (hinv : bus.Inv) {handler : Option VirtioIrqHandler} {result : Bool × VirtioMmioDevice}
    (hdriven : (bus.devices slot).Driven handler result) (hfresh : (bus.devices slot).Fresh)
    (hpresent : (bus.devices slot).present = true) {after : VirtioBus}
    (hdevices : after.devices = Function.update bus.devices slot result.2)
    (hnone : ∀ mine, handler = some mine → bus.owner mine = none)
    (howner : ∀ mine, after.owner mine
      = if result.1 = true ∧ handler = some mine then some slot else bus.owner mine)
    (hused : ∀ other, after.Used other → bus.Used other ∨ result.1 = true ∧ other = slot) :
    after.Inv := by
  obtain ⟨hplacePresent, -, hplaceIrq⟩ : result.2.present = (bus.devices slot).present
      ∧ result.2.deviceId = (bus.devices slot).deviceId ∧ result.2.irq = (bus.devices slot).irq := by
    have hplace := hdriven.place_eq
    simp only [VirtioMmioDevice.place, Prod.mk.injEq] at hplace
    exact hplace
  have hnotOwned : ∀ mine, bus.owner mine ≠ some slot := by
    intro mine howned
    have hhandler := (hinv.handler_iff slot mine).mpr howned
    rw [hfresh.irqHandler_eq] at hhandler
    exact Option.some_ne_none _ hhandler.symm
  have hnotUsed : ¬ bus.Used slot := by
    intro hslot
    have hinitialized := hinv.used slot hslot
    rw [hfresh.initialized_eq] at hinitialized
    exact Bool.false_ne_true hinitialized
  have hself : after.devices slot = result.2 := by
    rw [hdevices, Function.update_self]
  have hother : ∀ other, other ≠ slot → after.devices other = bus.devices other := by
    intro other hne
    rw [hdevices, Function.update_of_ne hne]
  constructor
  case kept =>
    intro other
    by_cases heq : other = slot
    · rw [heq, hself]
      exact hdriven.kept
    · rw [hother other heq]
      exact hinv.kept other
  case irq_eq =>
    intro other hlt
    by_cases heq : other = slot
    · rw [heq, hself, hplaceIrq]
      exact hinv.irq_eq slot (heq ▸ hlt)
    · rw [hother other heq]
      exact hinv.irq_eq other hlt
  case handler_iff =>
    intro other mine
    rw [howner]
    by_cases heq : other = slot
    · rw [heq, hself, hdriven.irqHandler_eq]
      cases hresult : result.1 with
      | false =>
          rw [if_neg Bool.false_ne_true, if_neg fun hboth => Bool.false_ne_true hboth.1]
          exact iff_of_false (fun hsome => Option.some_ne_none _ hsome.symm) (hnotOwned mine)
      | true =>
          rw [if_pos rfl]
          by_cases hmine : handler = some mine
          · rw [if_pos ⟨rfl, hmine⟩]
            exact iff_of_true hmine rfl
          · rw [if_neg fun hboth => hmine hboth.2]
            exact iff_of_false hmine (hnotOwned mine)
    · rw [hother other heq, hinv.handler_iff other mine]
      split
      case isTrue hmine =>
        rw [hnone mine hmine.2]
        exact iff_of_false (fun hsome => Option.some_ne_none _ hsome.symm) fun hsome => heq (Option.some.inj hsome).symm
      case isFalse => exact Iff.rfl
  case used =>
    intro other hothers
    obtain hbefore | ⟨hkept, rfl⟩ := hused other hothers
    · have hne : other ≠ slot := fun heq => hnotUsed (heq ▸ hbefore)
      rw [hother other hne]
      exact hinv.used other hbefore
    · rw [hself]
      exact hdriven.initialized_of hkept
  case present =>
    intro other hinitialized
    by_cases heq : other = slot
    · rw [heq, hself, hplacePresent]
      exact hpresent
    · rw [hother other heq] at hinitialized ⊢
      exact hinv.present other hinitialized

theorem Untouched.attach {deviceId : BitVec 32} {rest : List (BitVec 32)}
    (huntouched : bus.Untouched (deviceId :: rest)) (hdeviceId : deviceId ∉ rest)
    (hdevice : IsDevice bus.devices deviceId slot) {handler : Option VirtioIrqHandler}
    {result : Bool × VirtioMmioDevice} (hdriven : (bus.devices slot).Driven handler result)
    {after : VirtioBus} (hdevices : after.devices = Function.update bus.devices slot result.2) :
    after.Untouched rest := by
  intro other hother
  rw [hdevices] at hother ⊢
  by_cases heq : other = slot
  · have hplace := hdriven.place_eq
    simp only [VirtioMmioDevice.place, Prod.mk.injEq] at hplace
    rw [heq, Function.update_self, hplace.2.1, hdevice.2] at hother
    exact absurd hother hdeviceId
  · rw [Function.update_of_ne heq] at hother ⊢
    exact huntouched other (List.mem_cons_of_mem _ hother)

theorem Untouched.tail {deviceId : BitVec 32} {rest : List (BitVec 32)}
    (huntouched : bus.Untouched (deviceId :: rest)) : bus.Untouched rest :=
  fun other hother => huntouched other (List.mem_cons_of_mem _ hother)

theorem Inv.rngInit (hinv : bus.Inv) {rest : List (BitVec 32)}
    (huntouched : bus.Untouched (virtioDeviceIdRng :: rest)) (hrest : virtioDeviceIdRng ∉ rest)
    (hrng : bus.rng = none) (page : Nat) :
    let after := virtioRngInit answers page bus
    after.Inv ∧ after.Untouched rest ∧ after.blk = bus.blk := by
  unfold virtioRngInit
  cases hfound : bus.virtioFindDevice virtioDeviceIdRng 0 with
  | none =>
      have hsame : { bus with rng := none } = bus := by rw [← hrng]
      dsimp only
      rw [hsame]
      exact ⟨hinv, huntouched.tail, rfl⟩
  | some slot =>
      obtain ⟨-, hdevice⟩ := virtioFindDevice_spec hfound
      have hfresh : (bus.devices slot).Fresh :=
        huntouched slot (by rw [hdevice.2]; exact List.mem_cons_self)
      have hdriven := @VirtioMmioDevice.Fresh.rngInit (answers slot) _ hfresh page
      refine ⟨hinv.attach hdriven hfresh hdevice.1 rfl ?_ ?_ ?_,
        huntouched.attach hrest hdevice hdriven rfl, rfl⟩
      · rintro mine hmine
        rw [← Option.some.inj hmine]
        exact hrng
      · rintro (_ | _)
        · change (if _ then some slot else none) = _
          simp [owner, hrng]
        · change bus.blk = _
          simp [owner]
      · rintro other (hother | hother)
        · change (if _ then some slot else none) = _ at hother
          split at hother
          · next hkept => exact .inr ⟨hkept, (Option.some.inj hother).symm⟩
          · exact nomatch hother
        · exact .inl (.inr hother)

theorem Inv.blkInit (hinv : bus.Inv) {rest : List (BitVec 32)}
    (huntouched : bus.Untouched (virtioDeviceIdBlock :: rest)) (hrest : virtioDeviceIdBlock ∉ rest)
    (hblk : bus.blk = none) (page : Nat) (registered : Bool) :
    let after := virtioBlkInit answers page registered bus
    after.Inv ∧ after.Untouched rest := by
  unfold virtioBlkInit
  cases hfound : bus.virtioFindDevice virtioDeviceIdBlock 0 with
  | none =>
      have hsame : { bus with blk := none } = bus := by rw [← hblk]
      dsimp only
      rw [hsame]
      exact ⟨hinv, huntouched.tail⟩
  | some slot =>
      obtain ⟨-, hdevice⟩ := virtioFindDevice_spec hfound
      have hfresh : (bus.devices slot).Fresh :=
        huntouched slot (by rw [hdevice.2]; exact List.mem_cons_self)
      have hdriven := @VirtioMmioDevice.Fresh.blkInit (answers slot) _ hfresh page registered
      refine ⟨hinv.attach hdriven hfresh hdevice.1 rfl ?_ ?_ ?_,
        huntouched.attach hrest hdevice hdriven rfl⟩
      · rintro mine hmine
        rw [← Option.some.inj hmine]
        exact hblk
      · rintro (_ | _)
        · change bus.rng = _
          simp [owner]
        · change (if _ then some slot else none) = _
          simp [owner, hblk]
      · rintro other (hother | hother | hother)
        · exact .inl (.inl hother)
        · change (if _ then some slot else none) = _ at hother
          split at hother
          · next hkept => exact .inr ⟨hkept, (Option.some.inj hother).symm⟩
          · exact nomatch hother
        · exact .inl (.inr (.inr hother))

theorem Inv.gpuInit (hinv : bus.Inv) {rest : List (BitVec 32)}
    (huntouched : bus.Untouched (virtioDeviceIdGpu :: rest)) (hrest : virtioDeviceIdGpu ∉ rest)
    (page requests : Nat) (kept : Bool) :
    let after := virtioGpuInit answers page requests kept bus
    after.Inv ∧ after.Untouched rest := by
  unfold virtioGpuInit
  cases hfound : bus.virtioFindDevice virtioDeviceIdGpu 0 with
  | none =>
      refine ⟨⟨hinv.kept, hinv.irq_eq, ?_, ?_, hinv.present⟩, huntouched.tail⟩
      · rintro slot (_ | _)
        · exact hinv.handler_iff slot .rng
        · exact hinv.handler_iff slot .blk
      · rintro slot (hslot | hslot | hslot | hslot)
        · exact hinv.used slot (.inl hslot)
        · exact hinv.used slot (.inr (.inl hslot))
        · exact nomatch hslot
        · exact hinv.used slot (.inr (.inr (.inr hslot)))
  | some slot =>
      obtain ⟨-, hdevice⟩ := virtioFindDevice_spec hfound
      have hfresh : (bus.devices slot).Fresh :=
        huntouched slot (by rw [hdevice.2]; exact List.mem_cons_self)
      have hdriven := @VirtioMmioDevice.Fresh.gpuInit (answers slot) _ hfresh page requests kept
      refine ⟨hinv.attach hdriven hfresh hdevice.1 rfl (fun _ hmine => nomatch hmine) ?_ ?_,
        huntouched.attach hrest hdevice hdriven rfl⟩
      · rintro (_ | _)
        · exact (if_neg fun hboth => nomatch hboth.2).symm
        · exact (if_neg fun hboth => nomatch hboth.2).symm
      · rintro other (hother | hother | hother | hother)
        · exact .inl (.inl hother)
        · exact .inl (.inr (.inl hother))
        · change (if _ then some slot else none) = _ at hother
          split at hother
          · next hkept => exact .inr ⟨hkept, (Option.some.inj hother).symm⟩
          · exact nomatch hother
        · exact .inl (.inr (.inr (.inr hother)))

/-- The instances that the loop has not come to are untouched: another instance is in another slot. -/
theorem Inv.inputLoop (pages : Nat → Nat) : ∀ (fuel instanceIndex : Nat) {bus : VirtioBus}, bus.Inv →
    (∀ later slot, instanceIndex ≤ later →
      bus.virtioFindDevice virtioDeviceIdInput later = some slot → (bus.devices slot).Fresh) →
    (inputLoop answers pages fuel instanceIndex bus).Inv := by
  intro fuel
  induction fuel with
  | zero => exact fun _ _ hinv _ => hinv
  | succ fuel ih =>
      intro instanceIndex bus hinv hlater
      rw [VirtioBus.inputLoop]
      cases hfound : bus.virtioFindDevice virtioDeviceIdInput instanceIndex with
      | none => exact hinv
      | some slot =>
          obtain ⟨-, hdevice⟩ := virtioFindDevice_spec hfound
          have hfresh := hlater instanceIndex slot (Nat.le_refl _) hfound
          have hdriven := @VirtioMmioDevice.Fresh.inputInit (answers slot) _ hfresh
            (pages instanceIndex)
          dsimp only
          generalize VirtioMmioDevice.inputInit (answers slot) (pages instanceIndex) (bus.devices slot)
            = result at hdriven ⊢
          apply ih
          · refine hinv.attach hdriven hfresh hdevice.1 rfl (fun _ hmine => nomatch hmine) ?_ ?_
            · rintro (_ | _)
              · exact (if_neg fun hboth => nomatch hboth.2).symm
              · exact (if_neg fun hboth => nomatch hboth.2).symm
            · rintro other (hother | hother | hother | hother)
              · exact .inl (.inl hother)
              · exact .inl (.inr (.inl hother))
              · exact .inl (.inr (.inr (.inl hother)))
              · change other ∈ (if _ then bus.inputs ++ [slot] else bus.inputs) at hother
                split at hother
                · next hkept =>
                    rw [List.mem_append, List.mem_singleton] at hother
                    exact hother.elim (fun hmem => .inl (.inr (.inr (.inr hmem))))
                      fun heq => .inr ⟨hkept, heq⟩
                · exact .inl (.inr (.inr (.inr hother)))
          · intro later target hle htarget
            have hplaces : ∀ other,
                (Function.update bus.devices slot result.2 other).place = (bus.devices other).place := by
              intro other
              by_cases heq : other = slot
              · rw [heq, Function.update_self, hdriven.place_eq]
              · rw [Function.update_of_ne heq]
            have hbefore : bus.virtioFindDevice virtioDeviceIdInput later = some target :=
              (findLoop_congr hplaces virtioMmioCount 0 0).symm.trans htarget
            have hne : target ≠ slot := by
              intro heq
              have hsame := virtioFindDevice_inj hfound (heq ▸ hbefore)
              omega
            change (Function.update bus.devices slot result.2 target).Fresh
            rw [Function.update_of_ne hne]
            exact hlater later target (by omega) hbefore

/-- After the boot every slot is in a state that the protocol allows. -/
theorem boot_inv (choices : VirtioBootChoices) : (boot answers choices).Inv := by
  obtain ⟨hrng, hblk, hgpu, hinputs, hfresh, hirq, -⟩ := @virtioInit_spec answers virtioMmioCount
  unfold boot
  change (virtioInit answers zero).rng = none at hrng
  change (virtioInit answers zero).blk = none at hblk
  change (virtioInit answers zero).gpu = none at hgpu
  change (virtioInit answers zero).inputs = [] at hinputs
  change ∀ slot, ((virtioInit answers zero).devices slot).Fresh at hfresh
  change ∀ slot < virtioMmioCount, ((virtioInit answers zero).devices slot).irq = 48 + slot at hirq
  generalize virtioInit answers zero = probed at hrng hblk hgpu hinputs hfresh hirq ⊢
  have hinv : probed.Inv := by
    refine ⟨fun slot => (hfresh slot).kept, hirq, fun slot handler => ?_, fun slot hslot => ?_,
      fun slot hinitialized => ?_⟩
    · rw [(hfresh slot).irqHandler_eq]
      refine iff_of_false (fun hsome => nomatch hsome) ?_
      cases handler with
      | rng => exact fun hsome => nomatch hrng.symm.trans hsome
      | blk => exact fun hsome => nomatch hblk.symm.trans hsome
    · rw [Used, hrng, hblk, hgpu, hinputs] at hslot
      simp at hslot
    · rw [(hfresh slot).initialized_eq] at hinitialized
      exact nomatch hinitialized
  have huntouched : probed.Untouched
      [virtioDeviceIdRng, virtioDeviceIdBlock, virtioDeviceIdGpu, virtioDeviceIdInput] :=
    fun slot _ => hfresh slot
  obtain ⟨hinvRng, huntouchedRng, hblkRng⟩ :=
    @Inv.rngInit probed answers hinv _ huntouched (by decide) hrng choices.rngPage
  rw [hblk] at hblkRng
  obtain ⟨hinvBlk, huntouchedBlk⟩ := @Inv.blkInit _ answers hinvRng _ huntouchedRng (by decide) hblkRng
    choices.blkPage choices.blkRegistered
  obtain ⟨hinvGpu, huntouchedGpu⟩ := @Inv.gpuInit _ answers hinvBlk _ huntouchedBlk (by decide)
    choices.gpuPage choices.gpuRequests choices.gpuKept
  dsimp only at hinvGpu huntouchedGpu ⊢
  generalize virtioGpuInit answers choices.gpuPage choices.gpuRequests choices.gpuKept _ = bus
    at hinvGpu huntouchedGpu ⊢
  apply Inv.inputLoop
  · refine ⟨hinvGpu.kept, hinvGpu.irq_eq, ?_, ?_, hinvGpu.present⟩
    · rintro slot (_ | _)
      · exact hinvGpu.handler_iff slot .rng
      · exact hinvGpu.handler_iff slot .blk
    · rintro slot (hslot | hslot | hslot | hslot)
      · exact hinvGpu.used slot (.inl hslot)
      · exact hinvGpu.used slot (.inr (.inl hslot))
      · exact hinvGpu.used slot (.inr (.inr (.inl hslot)))
      · exact nomatch hslot
  · intro later slot _ hfound
    obtain ⟨-, hdevice⟩ := virtioFindDevice_spec hfound
    exact huntouchedGpu slot (by rw [hdevice.2]; exact List.mem_cons_self)

end Boot

/-! ### Interrupts and notifications -/

section Events

variable {bus : VirtioBus} {slot : Nat} {answers : BusAnswers}

/-- A step that changes nothing of a slot but its accesses. -/
theorem Inv.set (hinv : bus.Inv) {device : VirtioMmioDevice} (hkept : device.Kept)
    (hidentity : device.identity = (bus.devices slot).identity) : (bus.set slot device).Inv := by
  simp only [VirtioMmioDevice.identity, Prod.mk.injEq] at hidentity
  obtain ⟨hpresent, -, hirq, hinitialized, hhandler⟩ := hidentity
  have hself : (bus.set slot device).devices slot = device := Function.update_self _ _ _
  have hother : ∀ other, other ≠ slot → (bus.set slot device).devices other = bus.devices other :=
    fun other hne => Function.update_of_ne hne _ _
  constructor
  case kept =>
    intro other
    by_cases heq : other = slot
    · rw [heq, hself]
      exact hkept
    · rw [hother other heq]
      exact hinv.kept other
  case irq_eq =>
    intro other hlt
    by_cases heq : other = slot
    · rw [heq, hself, hirq]
      exact hinv.irq_eq slot (heq ▸ hlt)
    · rw [hother other heq]
      exact hinv.irq_eq other hlt
  case handler_iff =>
    intro other handler
    have howner : (bus.set slot device).owner handler = bus.owner handler := by
      cases handler with
      | rng => rfl
      | blk => rfl
    rw [howner, ← hinv.handler_iff other handler]
    by_cases heq : other = slot
    · rw [heq, hself, hhandler]
    · rw [hother other heq]
  case used =>
    intro other hused
    by_cases heq : other = slot
    · rw [heq, hself, hinitialized]
      exact hinv.used slot (heq ▸ hused)
    · rw [hother other heq]
      exact hinv.used other hused
  case present =>
    intro other hother'
    by_cases heq : other = slot
    · rw [heq, hself] at hother' ⊢
      rw [hpresent]
      exact hinv.present slot (hinitialized ▸ hother')
    · rw [hother other heq] at hother' ⊢
      exact hinv.present other hother'

/-- The acknowledged interrupts are those that the device has just reported. -/
theorem Inv.acknowledge (hinv : bus.Inv) (hlive : (bus.devices slot).initialized = true) :
    (bus.acknowledge answers slot).2.Inv := by
  obtain ⟨monitor, hconforms, hiff⟩ := hinv.kept slot
  have hphase := hiff.mp hlive
  have hread := @VirtioMmioDevice.Conforms.read (answers slot) _ _ hconforms virtioMmioInterruptStatus
  unfold VirtioBus.acknowledge
  dsimp only
  generalize hstatusEq : virtioMmioRead32 (answers slot) (bus.devices slot) virtioMmioInterruptStatus
    = status at hread
  have hidentity : status.2.identity = (bus.devices slot).identity := by
    rw [← hstatusEq]
    rfl
  have hinitialized : status.2.initialized = true := by
    rw [← hstatusEq]
    exact hlive
  change status.2.Conforms { monitor with interrupt := status.1 } at hread
  by_cases hzero : status.1 = 0
  · rw [if_neg (not_not.mpr hzero)]
    exact hinv.set ⟨_, hread, iff_of_true hinitialized hphase⟩ hidentity
  · rw [if_pos hzero]
    have hack : VirtioMonitor.afterWrite { monitor with interrupt := status.1 } virtioMmioInterruptAck
        status.1 = some { monitor with interrupt := 0 } := by
      rw [VirtioMonitor.afterWrite_interruptAck, if_pos ⟨hphase, hzero, rfl⟩]
    exact hinv.set ⟨_, hread.write hack, iff_of_true hinitialized hphase⟩ hidentity

/-- The slot whose interrupt it is. -/
theorem Inv.find_irq (hinv : bus.Inv) (irqId : Nat) :
    ((List.range virtioMmioCount).find? fun slot =>
      (bus.devices slot).present ∧ (bus.devices slot).initialized ∧ (bus.devices slot).irq = irqId)
      = if 48 ≤ irqId ∧ irqId < 48 + virtioMmioCount ∧ (bus.devices (irqId - 48)).initialized = true then
          some (irqId - 48)
        else none := by
  split
  case isTrue hslot =>
    obtain ⟨hfrom, hto, hlive⟩ := hslot
    have hlt : irqId - 48 < virtioMmioCount := by omega
    have hsplit : List.range virtioMmioCount
        = List.range (irqId - 48) ++ (irqId - 48) :: (List.range' (irqId - 48 + 1)
          (virtioMmioCount - (irqId - 48) - 1)) := by
      have hcount : virtioMmioCount = irqId - 48 + (virtioMmioCount - (irqId - 48) - 1 + 1) := by omega
      rw [List.range_eq_range', List.range_eq_range', ← List.range'_succ]
      nth_rewrite 1 [hcount]
      rw [← List.range'_append_1, Nat.zero_add]
    rw [hsplit, List.find?_append]
    have hbefore : (List.range (irqId - 48)).find? (fun slot =>
        (bus.devices slot).present ∧ (bus.devices slot).initialized ∧ (bus.devices slot).irq = irqId)
        = none := by
      rw [List.find?_eq_none]
      intro slot hslot
      have hirq := hinv.irq_eq slot (Nat.lt_trans (List.mem_range.mp hslot) hlt)
      have hne := List.mem_range.mp hslot
      simp only [decide_eq_true_eq]
      rintro ⟨-, -, hirqId⟩
      omega
    rw [hbefore, Option.none_or, List.find?_cons_of_pos]
    have hirq := hinv.irq_eq _ hlt
    simp only [decide_eq_true_eq]
    exact ⟨hinv.present _ hlive, hlive, by omega⟩
  case isFalse hnot =>
    rw [List.find?_eq_none]
    intro slot hslot
    have hirq := hinv.irq_eq slot (List.mem_range.mp hslot)
    have hlt := List.mem_range.mp hslot
    simp only [decide_eq_true_eq]
    rintro ⟨-, hlive, rfl⟩
    refine hnot ⟨by omega, by omega, ?_⟩
    rw [hirq, Nat.add_sub_cancel_left]
    exact hlive

theorem Inv.notify (hinv : bus.Inv) (device : Option Nat) : (bus.notify device).Inv := by
  unfold VirtioBus.notify
  cases device with
  | none => exact hinv
  | some slot =>
      dsimp only
      split
      case isTrue hlive =>
        obtain ⟨monitor, hconforms, hiff⟩ := hinv.kept slot
        obtain ⟨after, hafter, hphase⟩ := VirtioMmioDevice.InPhase.notify ⟨monitor, hconforms, hiff.mp hlive⟩ 0
        exact hinv.set ⟨after, hafter, iff_of_true hlive hphase⟩ rfl
      case isFalse => exact hinv

theorem Inv.next (hinv : bus.Inv) (event : VirtioBusEvent) : (bus.next answers event).Inv := by
  cases event with
  | irq irqId =>
      change (bus.virtioHandleIrq answers irqId).2.Inv
      rw [virtioHandleIrq, hinv.find_irq]
      split
      case h_1 => exact hinv
      case h_2 slot hslot =>
        split at hslot
        case isTrue hlive => exact hinv.acknowledge (Option.some.inj hslot ▸ hlive.2.2)
        case isFalse => exact nomatch hslot
  | notifyRng => exact hinv.notify _
  | notifyBlk => exact hinv.notify _
  | notifyGpu => exact hinv.notify _

/-- After the boot and any interrupts and requests. -/
theorem run_inv (choices : VirtioBootChoices) (events : List VirtioBusEvent) :
    (events.foldl (VirtioBus.next answers) (boot answers choices)).Inv := by
  suffices hrun : ∀ {bus : VirtioBus}, bus.Inv → (events.foldl (VirtioBus.next answers) bus).Inv from
    hrun (boot_inv choices)
  induction events with
  | nil => exact fun hinv => hinv
  | cons event rest ih => exact fun hinv => ih (hinv.next event)

end Events

end VirtioBus

/-- Whatever the devices answer and in whatever order interrupts and requests come, all accesses to a slot
are allowed by the protocol, and a device that a driver has is live. -/
theorem virtio_drivers_keep_the_protocol (answers : BusAnswers) (choices : VirtioBootChoices)
    (events : List VirtioBusEvent) (slot : Nat) :
    let bus := events.foldl (VirtioBus.next answers) (VirtioBus.boot answers choices)
    ∃ monitor, (bus.devices slot).Conforms monitor
      ∧ ((bus.devices slot).initialized = true ↔ monitor.phase = .live)
      ∧ (bus.rng = some slot ∨ bus.blk = some slot ∨ bus.gpu = some slot ∨ slot ∈ bus.inputs →
        monitor.phase = .live) := by
  intro bus
  have hinv : bus.Inv := VirtioBus.run_inv choices events
  obtain ⟨monitor, hconforms, hiff⟩ := hinv.kept slot
  exact ⟨monitor, hconforms, hiff, fun hused => hiff.mp (hinv.used slot hused)⟩

/-- An interrupt is enabled exactly when its slot is initialised. It then has its reported bits acknowledged, if there
are any, and goes to the driver that has the slot; no other slot is accessed. Any other interrupt changes
nothing. -/
theorem virtio_irq_reaches_its_driver (answers : BusAnswers) (choices : VirtioBootChoices)
    (events : List VirtioBusEvent) (irqId : Nat) :
    let bus := events.foldl (VirtioBus.next answers) (VirtioBus.boot answers choices)
    let result := bus.virtioHandleIrq answers irqId
    (irqId ∈ bus.virtioEnableIrqs
        ↔ ∃ slot < virtioMmioCount, irqId = 48 + slot ∧ (bus.devices slot).initialized = true)
      ∧ (irqId ∉ bus.virtioEnableIrqs → result = (none, bus))
      ∧ (irqId ∈ bus.virtioEnableIrqs →
        ∃ slot < virtioMmioCount, irqId = 48 + slot ∧
          let status := answers slot (bus.devices slot).accesses virtioMmioInterruptStatus
          (∀ handler other reported, result.1 = some (handler, other, reported)
            ↔ (bus.owner handler = some slot ∧ other = slot ∧ reported = status))
          ∧ (result.2.devices slot).accesses = (bus.devices slot).accesses
            ++ .read virtioMmioInterruptStatus status
              :: (if status = 0 then [] else [.write virtioMmioInterruptAck status])
          ∧ ∀ other, other ≠ slot → result.2.devices other = bus.devices other) := by
  intro bus result
  have hinv : bus.Inv := VirtioBus.run_inv choices events
  have hmem : irqId ∈ bus.virtioEnableIrqs ↔ 48 ≤ irqId ∧ irqId < 48 + virtioMmioCount
      ∧ (bus.devices (irqId - 48)).initialized = true := by
    rw [VirtioBus.virtioEnableIrqs, List.mem_map]
    simp only [List.mem_filter, List.mem_range, decide_eq_true_eq]
    constructor
    · rintro ⟨slot, ⟨hlt, -, hlive⟩, rfl⟩
      rw [hinv.irq_eq slot hlt, Nat.add_sub_cancel_left]
      exact ⟨by omega, by omega, hlive⟩
    · rintro ⟨hfrom, hto, hlive⟩
      have hlt : irqId - 48 < virtioMmioCount := by omega
      refine ⟨irqId - 48, ⟨hlt, hinv.present _ hlive, hlive⟩, ?_⟩
      rw [hinv.irq_eq _ hlt]
      omega
  have hresult : result = bus.virtioHandleIrq answers irqId := rfl
  rw [VirtioBus.virtioHandleIrq, hinv.find_irq] at hresult
  rw [hmem]
  refine ⟨?_, ?_, ?_⟩
  · constructor
    · rintro ⟨hfrom, hto, hlive⟩
      exact ⟨irqId - 48, by omega, by omega, hlive⟩
    · rintro ⟨slot, hlt, rfl, hlive⟩
      rw [Nat.add_sub_cancel_left]
      exact ⟨by omega, by omega, hlive⟩
  · intro hnot
    rw [hresult, if_neg hnot]
  · intro hlive
    rw [if_pos hlive] at hresult
    refine ⟨irqId - 48, by omega, by omega, ?_⟩
    generalize irqId - 48 = slot at hresult
    intro status
    rw [hresult]
    refine ⟨fun handler other reported => ?_, ?_, fun other hne => ?_⟩
    · rw [← hinv.handler_iff slot handler]
      change (bus.devices slot).irqHandler.map (fun mine => (mine, slot, status)) = _ ↔ _
      cases (bus.devices slot).irqHandler with
      | none => exact iff_of_false (fun hsome => nomatch hsome) fun hboth => nomatch hboth.1
      | some mine =>
          rw [Option.map_some, Option.some.injEq, Option.some.injEq, Prod.mk.injEq, Prod.mk.injEq,
            @eq_comm _ slot other, @eq_comm _ status reported]
    · change (Function.update bus.devices slot _ slot).accesses = _
      rw [Function.update_self]
      by_cases hzero : status = 0
      · rw [if_pos hzero]
        have hsame : (virtioMmioRead32 (answers slot) (bus.devices slot) virtioMmioInterruptStatus).1
            = 0 := hzero
        rw [if_neg (not_not.mpr hsame)]
        rfl
      · rw [if_neg hzero]
        have hsame : (virtioMmioRead32 (answers slot) (bus.devices slot) virtioMmioInterruptStatus).1
            ≠ 0 := hzero
        rw [if_pos hsame]
        exact List.append_assoc _ [_] [_]
    · exact Function.update_of_ne hne _ _

end DuckOs

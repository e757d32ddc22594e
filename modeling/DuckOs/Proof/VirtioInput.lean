import DuckOs.Drivers.VirtioInput
import DuckOs.Proof.VirtqueueFree
import Mathlib.Data.List.Perm.Basic

/-!
# Input events

Every buffer is at one place on its way from the driver to the device and back, and what a buffer holds
on its way back is the event that the device has written. No event is lost, and none is handled twice.
-/

namespace DuckOs

open ByteStore

/-! ### Events as bytes -/

namespace VirtioInputEvent

theorem length_bytes (event : VirtioInputEvent) : event.bytes.length = size := by
  simp [bytes, size]

theorem ofBytes_bytes (event : VirtioInputEvent) : ofBytes event.bytes = event := by
  have htype : field event.bytes 0 2 = event.type.toNat := by
    rw [bytes, List.append_assoc, field_append_left (by simp), field_toLe event.type.toNat_lt]
  have hcode : field event.bytes 2 2 = event.code.toNat := by
    rw [bytes, List.append_assoc, field_append_right (by simp), field_append_left (by simp)]
    simpa using field_toLe event.code.toNat_lt
  have hvalue : field event.bytes 4 4 = event.value.toNat := by
    rw [bytes, field_append_right (by simp)]
    simpa using field_toLe event.value.toNat_lt
  rw [ofBytes, htype, hcode, hvalue]
  simp

end VirtioInputEvent

/-! ### The buffers -/

theorem virtioInputQueueSize_dvd : virtioInputQueueSize ∣ virtqModulus := by decide

theorem virtioInputQueueSize_lt : virtioInputQueueSize < virtqModulus := by decide

/-- The buffers of the first `count` slots have the descriptors of the same numbers. -/
structure VirtioInputDeviceState.Prepared (state : VirtioInputDeviceState) (count : Nat) : Prop where
  descIndex_eq : ∀ slot < count, state.descIndex slot = slot
  desc_eq : ∀ slot < count,
    state.eventq.desc slot = ⟨state.eventAddr slot, VirtioInputEvent.size, virtqDescFWrite, 0⟩

section Slots

variable {state : VirtioInputDeviceState}

/-- Each round gives a buffer to the device and a descriptor to the buffer. -/
theorem virtioInputSlotLoop_spec : ∀ (fuel slot : Nat) {state : VirtioInputDeviceState},
    state.eventq.freeList = List.range' slot fuel →
    VirtqRelated virtioInputQueueSize state.eventq .reset ⟨List.range slot, [], []⟩ →
    state.Prepared slot → slot + fuel = virtioInputQueueSize →
    ∃ after, virtioInputSlotLoop fuel slot state = some after
      ∧ after.Prepared virtioInputQueueSize
      ∧ VirtqRelated virtioInputQueueSize after.eventq .reset
        ⟨List.range virtioInputQueueSize, [], []⟩ := by
  intro fuel
  induction fuel with
  | zero =>
      intro slot state hfree hrelated hprepared hslot
      rw [Nat.add_zero] at hslot
      rw [hslot] at hrelated hprepared
      exact ⟨state, rfl, hprepared, hrelated⟩
  | succ fuel ih =>
      intro slot state hfree hrelated hprepared hslot
      have hsize : virtioInputQueueSize < 2 ^ 16 := virtioInputQueueSize_lt
      have hnodup : state.eventq.freeList.Nodup := by
        rw [hfree]
        exact List.nodup_range'
      have hlist : state.eventq.freeList = slot :: List.range' (slot + 1) fuel := by
        rw [hfree, List.range'_succ]
      obtain ⟨hindex, htakes⟩ := virtqueueAllocDesc_cons hlist hnodup
      rw [virtioInputSlotLoop]
      simp only [hindex]
      generalize (virtqueueAllocDesc state.eventq).2 = queue at htakes ⊢
      have hrest : queue.freeList = List.range' (slot + 1) fuel := by
        have hcons := htakes.freeList_eq.symm.trans hlist
        rw [List.cons.injEq] at hcons
        exact hcons.2
      have hslotMod : slot % 2 ^ 16 = slot := Nat.mod_eq_of_lt (by omega)
      refine ih (slot + 1) ?_ ?_ ⟨?_, ?_⟩ (by omega)
      · rw [← hrest]
        refine @Virtqueue.freeList_congr queue _ rfl rfl fun index hmem => ?_
        rw [hrest, List.mem_range'_1] at hmem
        have hne : index ≠ slot := by omega
        exact Function.update_of_ne hne _ _
      · have hsame : VirtqRelated virtioInputQueueSize
            { queue with
              desc := Function.update queue.desc slot
                ⟨state.eventAddr slot, VirtioInputEvent.size, virtqDescFWrite, 0⟩ }
            .reset ⟨List.range slot, [], []⟩ :=
          (hrelated.sameRings htakes.rings).sameRings ⟨rfl, rfl, rfl, rfl, rfl, rfl⟩
        have hroom : (VirtqFifos.mk (List.range slot) [] []).outstanding < virtioInputQueueSize := by
          rw [VirtqFifos.outstanding, List.length_range]
          exact (by omega : slot < virtioInputQueueSize)
        have hsubmit := hsame.submit virtioInputQueueSize_dvd hroom slot
        rw [← List.range_succ] at hsubmit
        rw [virtioInputSubmitBuffer]
        dsimp only
        rw [Function.update_self, hslotMod]
        exact hsubmit
      · intro other hother
        dsimp only [virtioInputSubmitBuffer]
        by_cases heq : other = slot
        · rw [heq, Function.update_self, hslotMod]
        · rw [Function.update_of_ne heq]
          exact hprepared.descIndex_eq other (by omega)
      · intro other hother
        dsimp only [virtioInputSubmitBuffer, virtqueueSubmit]
        by_cases heq : other = slot
        · rw [heq, Function.update_self]
          rfl
        · rw [Function.update_of_ne heq, htakes.desc_eq other heq]
          exact hprepared.desc_eq other (by omega)

/-- Every buffer goes to the device. -/
theorem virtioInputInitDevice_spec {page eventsAddr : Nat} {memory : Store}
    (hinit : virtioInputInitDevice page eventsAddr memory = some state) :
    state.Prepared virtioInputQueueSize
      ∧ VirtqRelated virtioInputQueueSize state.eventq .reset
        ⟨List.range virtioInputQueueSize, [], []⟩ := by
  unfold virtioInputInitDevice at hinit
  split at hinit
  · cases hinit
  rename_i queue hqueue
  have hfree := virtqueueInit_freeList hqueue
  rw [List.range_eq_range'] at hfree
  obtain ⟨after, hloop, hprepared, hrelated⟩ := @virtioInputSlotLoop_spec virtioInputQueueSize 0
    ⟨queue, eventsAddr, memory, fun _ => 0⟩ hfree (virtqRelated_init hqueue)
    ⟨fun _ hslot => absurd hslot (Nat.not_lt_zero _), fun _ hslot => absurd hslot (Nat.not_lt_zero _)⟩
    (Nat.zero_add _)
  rw [hloop] at hinit
  cases hinit
  exact ⟨hprepared, hrelated⟩

theorem VirtioInputDeviceState.Prepared.findSlot (hprepared : state.Prepared virtioInputQueueSize)
    {head : Nat} (hhead : head < virtioInputQueueSize) : virtioInputFindSlot state head = some head := by
  have hmod : head % 2 ^ 16 = head :=
    Nat.mod_eq_of_lt (hhead.trans virtioInputQueueSize_lt)
  rw [virtioInputFindSlot, hmod, List.find?_range_eq_some]
  refine ⟨?_, List.mem_range.mpr hhead, ?_⟩
  · rw [decide_eq_true_eq]
    exact hprepared.descIndex_eq head hhead
  · intro slot hslot
    rw [hprepared.descIndex_eq slot (hslot.trans hhead), Bool.not_eq_true', decide_eq_false_iff_not]
    exact Nat.ne_of_lt hslot

end Slots

/-! ### One device -/

namespace VirtioInputDevice

/-- The slots whose events wait for the driver, in order. -/
def back (state : VirtioInputDevice) (fifos : VirtqFifos) : List Nat :=
  state.pending.toList ++ fifos.completed.map (·.id)

/-- In every state of a run in which the events of `handled` have been handled. -/
structure Inv (state : VirtioInputDevice) (fifos : VirtqFifos) (handled : List VirtioInputEvent) :
    Prop where
  related : VirtqRelated virtioInputQueueSize state.driver.eventq state.device fifos
  prepared : state.driver.Prepared virtioInputQueueSize
  buffers : (fifos.submitted ++ fifos.held ++ state.back fifos).Perm (List.range virtioInputQueueSize)
  delivered_eq : state.delivered = handled ++ (state.back fifos).map state.driver.event

section Step

variable {state : VirtioInputDevice} {fifos : VirtqFifos} {handled : List VirtioInputEvent}

theorem start_inv {page eventsAddr : Nat} {memory : Store} {driver : VirtioInputDeviceState}
    (hinit : virtioInputInitDevice page eventsAddr memory = some driver) :
    (start driver).Inv ⟨List.range virtioInputQueueSize, [], []⟩ [] := by
  obtain ⟨hprepared, hrelated⟩ := virtioInputInitDevice_spec hinit
  refine ⟨hrelated, hprepared, ?_, rfl⟩
  change (List.range virtioInputQueueSize ++ [] ++ []).Perm _
  rw [List.append_nil, List.append_nil]

theorem Inv.lt_of_mem (hinv : state.Inv fifos handled) {head : Nat}
    (hmem : head ∈ fifos.submitted ++ fifos.held ++ state.back fifos) : head < virtioInputQueueSize :=
  List.mem_range.mp (hinv.buffers.mem_iff.mp hmem)

theorem Inv.consume (hinv : state.Inv fifos handled) :
    ∃ after, (state.step .consume).2.Inv after handled := by
  cases hfirst : fifos.submitted with
  | nil =>
      refine ⟨fifos, ?_⟩
      rw [step, hinv.related.consume_nil hfirst]
      exact hinv
  | cons head rest =>
      obtain ⟨-, hnext⟩ := hinv.related.consume_cons virtioInputQueueSize_lt hfirst
      refine ⟨_, hnext, hinv.prepared, ?_, hinv.delivered_eq⟩
      have hbuffers := hinv.buffers
      rw [hfirst] at hbuffers
      refine (List.Perm.append_right _ ?_).trans hbuffers
      dsimp only
      rw [← List.append_assoc]
      exact List.perm_append_comm

/-- The device writes to the buffer of the slot alone. -/
theorem Inv.chain_eq (hinv : state.Inv fifos handled) {head : Nat} (hhead : head < virtioInputQueueSize)
    (event : VirtioInputEvent) :
    virtqScatter (state.driver.eventq.chain head) event.bytes
      = [(state.driver.eventAddr head, event.bytes)] := by
  have hdesc := hinv.prepared.desc_eq head hhead
  have hchain : state.driver.eventq.chain head
      = [⟨state.driver.eventAddr head, VirtioInputEvent.size, virtqDescFWrite, 0⟩] := by
    have hlast : ¬ virtqDescFWrite &&& virtqDescFNext ≠ 0 := by decide
    rw [Virtqueue.chain, hinv.related.size_eq, virtioInputQueueSize, virtqChain, hdesc, if_neg hlast]
  have hwritable : (VirtqDesc.mk (state.driver.eventAddr head) VirtioInputEvent.size virtqDescFWrite
      0).writable = true := by
    rw [VirtqDesc.writable_mk]
    decide
  rw [hchain, virtqScatter_cons_writable hwritable, virtqScatter_nil,
    List.take_of_length_le event.length_bytes.le]

theorem event_patch_self (driver : VirtioInputDeviceState) (slot : Nat) (event : VirtioInputEvent) :
    VirtioInputDeviceState.event
      { driver with memory := patch driver.memory (driver.eventAddr slot) event.bytes } slot = event := by
  have hself : slice (patch driver.memory (driver.eventAddr slot) event.bytes) (driver.eventAddr slot)
      event.bytes.length = event.bytes := slice_patch_self
  rw [event.length_bytes] at hself
  exact (congrArg VirtioInputEvent.ofBytes hself).trans event.ofBytes_bytes

theorem event_patch_of_ne (driver : VirtioInputDeviceState) {slot other : Nat} (hne : other ≠ slot)
    (event : VirtioInputEvent) :
    VirtioInputDeviceState.event
      { driver with memory := patch driver.memory (driver.eventAddr slot) event.bytes } other
      = driver.event other := by
  refine congrArg VirtioInputEvent.ofBytes (slice_patch_of_disjoint ?_)
  rw [event.length_bytes]
  dsimp only [VirtioInputDeviceState.eventAddr, VirtioInputEvent.size]
  omega

theorem Inv.deliver (hinv : state.Inv fifos handled) (position : Nat) (event : VirtioInputEvent) :
    ∃ after, (state.deliver position event).Inv after handled := by
  cases hheld : fifos.held[position]? with
  | none =>
      refine ⟨fifos, ?_⟩
      rw [VirtioInputDevice.deliver, hinv.related.held_eq, hheld]
      exact hinv
  | some head =>
      obtain ⟨-, hnext⟩ := hinv.related.complete virtioInputQueueSize_dvd hheld VirtioInputEvent.size
      obtain ⟨hlt, hget⟩ := List.getElem?_eq_some_iff.mp hheld
      have hmemHeld : head ∈ fifos.held := by
        rw [← hget]
        exact List.getElem_mem hlt
      have hhead := hinv.lt_of_mem (List.mem_append_left _ (List.mem_append_right _ hmemHeld))
      have hnodup := hinv.buffers.nodup_iff.mpr List.nodup_range
      have hback : head ∉ state.back fifos := by
        intro hmem
        exact (List.nodup_append.mp hnodup).2.2 head (List.mem_append_right _ hmemHeld) head hmem rfl
      have hdeliver : state.deliver position event
          = { state with
              driver := { state.driver with
                eventq := (state.device.complete state.driver.eventq position VirtioInputEvent.size).2.2
                memory := patch state.driver.memory (state.driver.eventAddr head) event.bytes }
              device := (state.device.complete state.driver.eventq position VirtioInputEvent.size).2.1
              delivered := state.delivered ++ [event] } := by
        rw [VirtioInputDevice.deliver, hinv.related.held_eq, hheld]
        dsimp only
        rw [hinv.chain_eq hhead event]
        rfl
      have hafter : (state.deliver position event).back
          { fifos with
            held := fifos.held.eraseIdx position
            completed := fifos.completed ++ [⟨head, VirtioInputEvent.size⟩] }
          = state.back fifos ++ [head] := by
        rw [hdeliver, back, back, List.map_append, ← List.append_assoc]
        rfl
      refine ⟨{ fifos with
        held := fifos.held.eraseIdx position
        completed := fifos.completed ++ [⟨head, VirtioInputEvent.size⟩] }, ?_, ?_, ?_, ?_⟩
      · rw [hdeliver]
        exact hnext
      · rw [hdeliver]
        refine ⟨hinv.prepared.descIndex_eq, fun slot hslot => ?_⟩
        have hdesc : (state.device.complete state.driver.eventq position
            VirtioInputEvent.size).2.2.desc = state.driver.eventq.desc := by
          unfold VirtqDevice.complete
          split
          · rfl
          · rfl
        dsimp only
        rw [hdesc]
        exact hinv.prepared.desc_eq slot hslot
      · rw [hafter]
        refine List.Perm.trans ?_ hinv.buffers
        have herase : (head :: fifos.held.eraseIdx position).Perm fifos.held := by
          rw [← hget]
          exact List.getElem_cons_eraseIdx_perm hlt
        calc fifos.submitted ++ fifos.held.eraseIdx position ++ (state.back fifos ++ [head])
            = fifos.submitted ++ (fifos.held.eraseIdx position ++ state.back fifos ++ [head]) := by
              simp only [List.append_assoc]
          List.Perm _ (fifos.submitted ++ (head :: (fifos.held.eraseIdx position ++ state.back fifos))) :=
            (List.perm_append_singleton _ _).append_left _
          _ = fifos.submitted ++ (head :: fifos.held.eraseIdx position) ++ state.back fifos := by
              rw [← List.cons_append, List.append_assoc]
          List.Perm _ (fifos.submitted ++ fifos.held ++ state.back fifos) :=
            (herase.append_left _).append_right _
      · have hothers : (state.back fifos).map (state.deliver position event).driver.event
            = (state.back fifos).map state.driver.event := by
          apply List.map_congr_left
          intro slot hslot
          have hne : slot ≠ head := fun heq => hback (heq ▸ hslot)
          rw [hdeliver]
          exact event_patch_of_ne state.driver hne event
        have hself : (state.deliver position event).driver.event head = event := by
          rw [hdeliver]
          exact event_patch_self state.driver head event
        rw [hafter, List.map_append, hothers, List.map_singleton, hself, ← List.append_assoc,
          ← hinv.delivered_eq, hdeliver]

theorem Inv.pop_cons (hinv : state.Inv fifos handled) (hpending : state.pending = none)
    {elem : VirtqUsedElem} {rest : List VirtqUsedElem} (hfirst : fifos.completed = elem :: rest) :
    (virtqueuePopUsed state.driver.eventq).1 = some elem
      ∧ virtioInputFindSlot state.driver elem.id = some elem.id
      ∧ VirtioInputDevice.Inv
        { state with
          driver := { state.driver with eventq := (virtqueuePopUsed state.driver.eventq).2 }
          pending := some elem.id }
        { fifos with completed := rest } handled := by
  obtain ⟨helem, hnext⟩ := hinv.related.popUsed_cons virtioInputQueueSize_lt hfirst
  have hbefore : state.back fifos = elem.id :: rest.map (·.id) := by
    rw [back, hpending, hfirst]
    rfl
  have hid : elem.id < virtioInputQueueSize := by
    apply hinv.lt_of_mem
    rw [hbefore]
    exact List.mem_append_right _ List.mem_cons_self
  have hdesc : (virtqueuePopUsed state.driver.eventq).2.desc = state.driver.eventq.desc := by
    unfold virtqueuePopUsed
    split
    · rfl
    · rfl
  have hbuffers := hinv.buffers
  have hdelivered := hinv.delivered_eq
  rw [hbefore] at hbuffers hdelivered
  refine ⟨helem, hinv.prepared.findSlot hid, hnext, ⟨hinv.prepared.descIndex_eq, ?_⟩, hbuffers,
    hdelivered⟩
  intro slot hslot
  dsimp only
  rw [hdesc]
  exact hinv.prepared.desc_eq slot hslot

theorem Inv.pop (hinv : state.Inv fifos handled) : ∃ after, state.pop.Inv after handled := by
  cases hpending : state.pending with
  | some slot =>
      refine ⟨fifos, ?_⟩
      rw [VirtioInputDevice.pop, hpending]
      exact hinv
  | none =>
      rw [VirtioInputDevice.pop, hpending]
      cases hfirst : fifos.completed with
      | nil =>
          refine ⟨fifos, ?_⟩
          rw [hinv.related.popUsed_nil hfirst]
          dsimp only [Option.bind_none]
          rw [← hpending]
          exact hinv
      | cons elem rest =>
          obtain ⟨helem, hslot, hnext⟩ := hinv.pop_cons hpending hfirst
          dsimp only
          rw [helem, Option.bind_some, hslot]
          exact ⟨_, hnext⟩

/-- The buffer of a handled event goes back to the device. -/
theorem Inv.handle_some (hinv : state.Inv fifos handled) {slot : Nat}
    (hpending : state.pending = some slot) :
    VirtioInputDevice.Inv
      { state with driver := virtioInputSubmitBuffer state.driver slot, pending := none }
      { fifos with submitted := fifos.submitted ++ [slot] } (handled ++ [state.driver.event slot]) := by
  have hback : state.back fifos = slot :: fifos.completed.map (·.id) := by
    rw [back, hpending]
    rfl
  have hbuffers := hinv.buffers
  have hdelivered := hinv.delivered_eq
  rw [hback] at hbuffers hdelivered
  have hslot : slot < virtioInputQueueSize := by
    apply hinv.lt_of_mem
    rw [hback]
    exact List.mem_append_right _ List.mem_cons_self
  have hroom : fifos.outstanding < virtioInputQueueSize := by
    have hlength := hbuffers.length_eq
    simp only [List.length_append, List.length_cons, List.length_map, List.length_range] at hlength
    rw [VirtqFifos.outstanding]
    omega
  have hnext := hinv.related.submit virtioInputQueueSize_dvd hroom slot
  refine ⟨?_, ⟨hinv.prepared.descIndex_eq, hinv.prepared.desc_eq⟩, ?_, ?_⟩
  · dsimp only [virtioInputSubmitBuffer]
    rw [hinv.prepared.descIndex_eq slot hslot]
    exact hnext
  · refine List.Perm.trans ?_ hbuffers
    calc fifos.submitted ++ [slot] ++ fifos.held ++ ([] ++ fifos.completed.map VirtqUsedElem.id)
        = fifos.submitted ++ ([slot] ++ fifos.held) ++ fifos.completed.map VirtqUsedElem.id := by
          rw [List.nil_append, List.append_assoc fifos.submitted]
      List.Perm _ (fifos.submitted ++ (fifos.held ++ [slot])
          ++ fifos.completed.map VirtqUsedElem.id) :=
        (List.perm_append_comm.append_left _).append_right _
      _ = fifos.submitted ++ fifos.held ++ slot :: fifos.completed.map VirtqUsedElem.id := by
          simp only [List.append_assoc, List.singleton_append]
  · rw [hdelivered, List.append_assoc]
    rfl

theorem Inv.handle (hinv : state.Inv fifos handled) :
    ∃ after, (state.step .handle).2.Inv after (handled ++ (state.step .handle).1.toList) := by
  cases hpending : state.pending with
  | none =>
      refine ⟨fifos, ?_⟩
      rw [step, hpending]
      dsimp only
      rw [Option.toList_none, List.append_nil]
      exact hinv
  | some slot =>
      rw [step, hpending]
      exact ⟨_, hinv.handle_some hpending⟩

/-- What one step preserves, whoever makes it. -/
theorem Inv.step (hinv : state.Inv fifos handled) (op : VirtioInputOp) :
    ∃ after, (state.step op).2.Inv after (handled ++ (state.step op).1.toList) := by
  cases op with
  | consume =>
      obtain ⟨after, hafter⟩ := hinv.consume
      exact ⟨after, (List.append_nil handled).symm ▸ hafter⟩
  | deliver position event =>
      obtain ⟨after, hafter⟩ := hinv.deliver position event
      exact ⟨after, (List.append_nil handled).symm ▸ hafter⟩
  | pop =>
      obtain ⟨after, hafter⟩ := hinv.pop
      exact ⟨after, (List.append_nil handled).symm ▸ hafter⟩
  | handle => exact hinv.handle

/-- A poll handles all that the device has written, while the device stands still. -/
theorem Inv.poll {ω : Type} (handle : ω → VirtioInputEvent → ω) : ∀ (fuel : Nat) {world : ω}
    {state : VirtioInputDevice} {fifos : VirtqFifos} {handled : List VirtioInputEvent},
    state.Inv fifos handled → state.pending = none → fifos.completed.length ≤ fuel →
    (virtioInputPollDevice handle fuel (world, state.driver)).1
      = ((state.back fifos).map state.driver.event).foldl handle world := by
  intro fuel
  induction fuel with
  | zero =>
      intro world state fifos handled hinv hpending hfuel
      have hempty : fifos.completed = [] := List.length_eq_zero_iff.mp (Nat.le_zero.mp hfuel)
      rw [back, hpending, hempty]
      rfl
  | succ fuel ih =>
      intro world state fifos handled hinv hpending hfuel
      rw [virtioInputPollDevice]
      cases hfirst : fifos.completed with
      | nil =>
          rw [hinv.related.popUsed_nil hfirst, back, hpending, hfirst]
          rfl
      | cons elem rest =>
          obtain ⟨helem, hslot, hpop⟩ := hinv.pop_cons hpending hfirst
          have hnext := hpop.handle_some rfl
          rw [hfirst, List.length_cons] at hfuel
          simp only [helem, virtioInputFindSlot] at hslot ⊢
          rw [hslot]
          dsimp only
          rw [ih hnext rfl (Nat.le_of_succ_le_succ hfuel), back, back, hpending, hfirst]
          rfl

/-- The events of the buffers on their way back wait for the driver; all others are with the device or
on their way to it. -/
theorem Inv.counts (hinv : state.Inv fifos handled) :
    fifos.completed.length = state.driver.eventq.usedCount
      ∧ state.device.availCount state.driver.eventq + state.device.held.length
        + (state.back fifos).length = virtioInputQueueSize := by
  have hle := hinv.related.outstanding_le
  have hlt := virtioInputQueueSize_lt
  rw [VirtqFifos.outstanding] at hle
  have hused := hinv.related.used.count_eq (by omega)
  have havail := hinv.related.avail.count_eq (by omega)
  refine ⟨hused.symm, ?_⟩
  have hlength := hinv.buffers.length_eq
  rw [List.length_append, List.length_append, List.length_range] at hlength
  rw [VirtqDevice.availCount, havail, hinv.related.held_eq, hlength]

end Step

end VirtioInputDevice

/-! ### All devices -/

namespace VirtioInputRun

variable {ω : Type} {handle : ω → VirtioInputEvent → ω} {start world : ω} {run : VirtioInputRun ω}

/-- In every state of a run that has started with a world. -/
structure Inv (handle : ω → VirtioInputEvent → ω) (start : ω) (run : VirtioInputRun ω) : Prop where
  world_eq : run.world = run.handled.foldl (fun world entry => handle world entry.2) start
  devices : ∀ (index : Nat) (device : VirtioInputDevice), run.devices[index]? = some device →
    ∃ fifos, device.Inv fifos (run.handledOf index)

theorem start_inv {drivers : List VirtioInputDeviceState}
    (hinit : ∀ driver ∈ drivers,
      ∃ page eventsAddr memory, virtioInputInitDevice page eventsAddr memory = some driver) :
    (VirtioInputRun.start world drivers).Inv handle world := by
  refine ⟨rfl, fun index device hdevice => ?_⟩
  rw [VirtioInputRun.start, List.getElem?_map, Option.map_eq_some_iff] at hdevice
  obtain ⟨driver, hdriver, rfl⟩ := hdevice
  obtain ⟨page, eventsAddr, memory, hdriver⟩ := hinit driver (List.mem_of_getElem? hdriver)
  exact ⟨_, VirtioInputDevice.start_inv hdriver⟩

theorem handledOf_append (run : VirtioInputRun ω) (world : ω) (devices : List VirtioInputDevice)
    (index other : Nat) (event : Option VirtioInputEvent) :
    VirtioInputRun.handledOf
        ⟨world, devices, run.handled ++ (event.map fun event => (index, event)).toList⟩ other
      = run.handledOf other ++ if index = other then event.toList else [] := by
  rw [handledOf, handledOf, List.filter_append, List.map_append]
  cases event with
  | none => simp
  | some event =>
      by_cases heq : index = other
      · simp [heq]
      · simp [heq]

theorem Inv.next (hinv : run.Inv handle start) (op : Nat × VirtioInputOp) :
    (run.next handle op).Inv handle start := by
  unfold VirtioInputRun.next
  split
  · exact hinv
  · rename_i device hdevice
    obtain ⟨fifos, hdeviceInv⟩ := hinv.devices op.1 device hdevice
    obtain ⟨after, hafter⟩ := hdeviceInv.step op.2
    constructor
    · dsimp only
      rw [List.foldl_append, ← hinv.world_eq]
      cases (device.step op.2).1 with
      | none => rfl
      | some event => rfl
    · intro index other hother
      rw [handledOf_append]
      dsimp only at hother
      rw [List.getElem?_set] at hother
      by_cases heq : op.1 = index
      · rw [if_pos heq] at hother ⊢
        rw [if_pos ((List.getElem?_eq_some_iff.mp hdevice).1), Option.some.injEq] at hother
        rw [← hother, ← heq]
        exact ⟨after, hafter⟩
      · rw [if_neg heq] at hother ⊢
        rw [List.append_nil]
        exact hinv.devices index other hother

theorem inv_foldl (hinv : run.Inv handle start) (ops : List (Nat × VirtioInputOp)) :
    (ops.foldl (VirtioInputRun.next handle) run).Inv handle start := by
  induction ops generalizing run with
  | nil => exact hinv
  | cons op rest ih => exact ih (hinv.next op)

end VirtioInputRun

/-- Whatever driver and devices do and in whatever order, every event that a device writes is handled once,
after those that it wrote before: what has been handled is a beginning of what the device has written, and
the rest waits in buffers on their way back, which the next poll handles in order. All other buffers are
with the device or on their way to it. -/
theorem virtio_input_events_in_order {ω : Type} (handle : ω → VirtioInputEvent → ω) (world : ω)
    (drivers : List VirtioInputDeviceState)
    (hinit : ∀ driver ∈ drivers,
      ∃ page eventsAddr memory, virtioInputInitDevice page eventsAddr memory = some driver)
    (ops : List (Nat × VirtioInputOp)) :
    let run := ops.foldl (VirtioInputRun.next handle) (.start world drivers)
    run.world = run.handled.foldl (fun world entry => handle world entry.2) world
      ∧ ∀ (index : Nat) (device : VirtioInputDevice), run.devices[index]? = some device → ∃ waiting,
        device.delivered = run.handledOf index ++ waiting
          ∧ waiting.length = device.pending.toList.length + device.driver.eventq.usedCount
          ∧ device.device.availCount device.driver.eventq + device.device.held.length + waiting.length
            = virtioInputQueueSize
          ∧ (device.pending = none → ∀ fuel, device.driver.eventq.usedCount ≤ fuel →
            (virtioInputPollDevice handle fuel (run.world, device.driver)).1
              = waiting.foldl handle run.world) := by
  intro run
  have hinv : run.Inv handle world := VirtioInputRun.inv_foldl (VirtioInputRun.start_inv hinit) ops
  refine ⟨hinv.world_eq, fun index device hdevice => ?_⟩
  obtain ⟨fifos, hdeviceInv⟩ := hinv.devices index device hdevice
  obtain ⟨hused, hcount⟩ := hdeviceInv.counts
  refine ⟨_, hdeviceInv.delivered_eq, ?_, ?_, fun hpending fuel hfuel => ?_⟩
  · rw [List.length_map, VirtioInputDevice.back, List.length_append, List.length_map, hused]
  · rw [List.length_map]
    exact hcount
  · exact hdeviceInv.poll handle fuel hpending (hused ▸ hfuel)

/-- A device with all of its buffers in the queue. -/
def freshInputDevice : VirtioInputDeviceState :=
  (virtioInputInitDevice 0x1000 0x2000 fun _ => 0).get (by decide)

/-- Two devices; the second one writes two events, of which the first is handled. -/
def interleavedInput : List (Nat × VirtioInputOp) :=
  [(1, .consume), (0, .consume), (1, .consume), (1, .deliver 1 ⟨1, 30, 1⟩), (0, .deliver 0 ⟨2, 0, 5⟩),
    (1, .pop), (1, .deliver 0 ⟨1, 30, 0⟩), (0, .pop), (1, .handle)]

theorem virtio_input_events_in_order_two :
    let run := interleavedInput.foldl (VirtioInputRun.next fun events event => events ++ [event])
      (.start [] [freshInputDevice, freshInputDevice])
    run.world = [⟨1, 30, 1⟩]
      ∧ (run.devices[1]?.map fun device => (virtioInputPollDevice
        (fun events event => events ++ [event]) 32 (run.world, device.driver)).1)
        = some [⟨1, 30, 1⟩, ⟨1, 30, 0⟩] := by
  intro run
  have hinit : ∀ driver ∈ [freshInputDevice, freshInputDevice],
      ∃ page eventsAddr memory, virtioInputInitDevice page eventsAddr memory = some driver := by
    intro driver hmem
    have hfresh : driver = freshInputDevice := by simpa using hmem
    exact ⟨0x1000, 0x2000, fun _ => 0, by rw [hfresh, freshInputDevice, Option.some_get]⟩
  obtain ⟨hworld, hdevices⟩ := virtio_input_events_in_order (fun events event => events ++ [event]) []
    [freshInputDevice, freshInputDevice] hinit interleavedInput
  have hhandled : run.handled = [(1, ⟨1, 30, 1⟩)] := by decide +kernel
  have hstate : (run.devices[1]?.map fun device =>
      (device.delivered, device.pending, device.driver.eventq.usedCount))
      = some ([⟨1, 30, 1⟩, ⟨1, 30, 0⟩], none, 1) := by
    decide +kernel
  have hlist : run.world = [⟨1, 30, 1⟩] := by
    rw [hworld, hhandled]
    rfl
  refine ⟨hlist, ?_⟩
  obtain ⟨device, hdevice, hfields⟩ := Option.map_eq_some_iff.mp hstate
  simp only [Prod.mk.injEq] at hfields
  obtain ⟨waiting, hdelivered, -, -, hpoll⟩ := hdevices 1 device hdevice
  have hhandledOf : run.handledOf 1 = [⟨1, 30, 1⟩] := by
    rw [VirtioInputRun.handledOf, hhandled]
    rfl
  rw [hfields.1, hhandledOf, List.singleton_append, List.cons.injEq] at hdelivered
  rw [hdevice, Option.map_some, hpoll hfields.2.1 32 (by omega), ← hdelivered.2, hlist]
  rfl

end DuckOs

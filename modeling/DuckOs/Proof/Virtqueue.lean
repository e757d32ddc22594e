import DuckOs.Drivers.Virtqueue

/-!
# The ring protocol

Both rings are queues, for any number of wrap-arounds of the counters: the size divides the modulus,
and no more requests are outstanding than there are cells.
-/

namespace DuckOs

section Init

variable {size page : Nat} {queue : Virtqueue}

/-- The descriptor table and the rings lie one after the other in the page. -/
theorem virtqueueInit_fits (hinit : virtqueueInit size page = some queue) :
    0 < size ∧ virtqDescBytes size + virtqAvailBytes size ≤ virtqUsedOffset size
      ∧ virtqUsedOffset size + virtqUsedBytes size ≤ virtqPageSize := by
  unfold virtqueueInit at hinit
  split at hinit
  · cases hinit
  rename_i hsize
  split at hinit
  · cases hinit
  rename_i hfits
  refine ⟨Nat.pos_of_ne_zero hsize, ?_, Nat.le_of_not_lt hfits⟩
  simp only [virtqUsedOffset, virtqueueAlignUp]
  omega

theorem virtqueueInit_eq (hinit : virtqueueInit size page = some queue) :
    queue = ⟨size, size, 0, 0, page, virtqueueChainLoop size size 0 fun _ => .zero, 0, fun _ => 0, 0,
      fun _ => ⟨0, 0⟩⟩ := by
  unfold virtqueueInit at hinit
  split at hinit
  · cases hinit
  split at hinit
  · cases hinit
  split at hinit
  · cases hinit
  · exact (Option.some.inj hinit).symm

theorem virtqueueInit_size_lt (hinit : virtqueueInit size page = some queue) :
    size < virtqModulus := by
  obtain ⟨-, havail, hused⟩ := virtqueueInit_fits hinit
  simp only [virtqDescBytes, virtqAvailBytes, virtqPageSize, virtqModulus] at *
  omega

/-- A power of two that is accepted divides the modulus of the counters. -/
theorem virtqueueInit_dvd (hinit : virtqueueInit size page = some queue)
    (hpower : ∃ exponent, size = 2 ^ exponent) : size ∣ virtqModulus := by
  obtain ⟨exponent, rfl⟩ := hpower
  have hlt := virtqueueInit_size_lt hinit
  exact Nat.pow_dvd_pow 2 (Nat.le_of_lt ((Nat.pow_lt_pow_iff_right (by decide)).mp hlt))

end Init

/-! ### Queues -/

/-- The rings and the device hold what the queues hold. -/
structure VirtqRelated (size : Nat) (queue : Virtqueue) (device : VirtqDevice) (fifos : VirtqFifos) :
    Prop where
  size_eq : queue.size = size
  avail : Ring.Holds size virtqModulus queue.availRing device.availIdx queue.availIdx fifos.submitted
  held_eq : device.held = fifos.held
  usedIdx_eq : device.usedIdx = queue.usedIdx
  used : Ring.Holds size virtqModulus queue.usedRing queue.lastUsedIdx queue.usedIdx fifos.completed
  outstanding_le : fifos.outstanding ≤ size

section Steps

variable {size page : Nat} {queue : Virtqueue} {device : VirtqDevice} {fifos : VirtqFifos}

theorem virtqRelated_init (hinit : virtqueueInit size page = some queue) :
    VirtqRelated size queue .reset .empty := by
  have hpos : 0 < virtqModulus := by decide
  rw [virtqueueInit_eq hinit]
  exact ⟨rfl, Ring.holds_nil hpos _, rfl, rfl, Ring.holds_nil hpos _, Nat.zero_le _⟩

theorem VirtqRelated.submit (hrelated : VirtqRelated size queue device fifos)
    (hdvd : size ∣ virtqModulus) (hroom : fifos.outstanding < size) (head : Nat) :
    VirtqRelated size (virtqueueSubmit queue head) device
      { fifos with submitted := fifos.submitted ++ [head] } where
  size_eq := hrelated.size_eq
  avail := by
    simp only [virtqueueSubmit, hrelated.size_eq]
    apply hrelated.avail.push hdvd
    simp only [VirtqFifos.outstanding] at hroom
    omega
  held_eq := hrelated.held_eq
  usedIdx_eq := hrelated.usedIdx_eq
  used := hrelated.used
  outstanding_le := by
    simp only [VirtqFifos.outstanding, List.length_append, List.length_singleton] at hroom ⊢
    omega

theorem VirtqRelated.consume_nil (hrelated : VirtqRelated size queue device fifos)
    (hempty : fifos.submitted = []) :
    device.consume queue = (none, device) := by
  have hequal : device.availIdx = queue.availIdx :=
    (hrelated.avail.eq_iff (by rw [hempty]; decide)).mpr hempty
  rw [VirtqDevice.consume, if_pos hequal]

theorem VirtqRelated.consume_cons (hrelated : VirtqRelated size queue device fifos)
    (hlt : size < virtqModulus) {head : Nat} {rest : List Nat} (hfirst : fifos.submitted = head :: rest) :
    (device.consume queue).1 = some head
      ∧ VirtqRelated size queue (device.consume queue).2
        { fifos with submitted := rest, held := fifos.held ++ [head] } := by
  have havail := hrelated.avail
  have hlength : fifos.submitted.length < virtqModulus := by
    have hle := hrelated.outstanding_le
    simp only [VirtqFifos.outstanding] at hle
    omega
  have hne : device.availIdx ≠ queue.availIdx := by
    rw [Ne, havail.eq_iff hlength, hfirst]
    exact List.cons_ne_nil _ _
  rw [hfirst] at havail
  have hhead := havail.front
  rw [VirtqDevice.consume, if_neg hne, hrelated.size_eq, hhead]
  refine ⟨rfl, hrelated.size_eq, havail.pop, ?_, hrelated.usedIdx_eq, hrelated.used, ?_⟩
  · dsimp only
    rw [hrelated.held_eq]
  · have hle := hrelated.outstanding_le
    simp only [VirtqFifos.outstanding, hfirst, List.length_cons, List.length_append,
      List.length_nil] at hle ⊢
    omega

theorem VirtqRelated.complete (hrelated : VirtqRelated size queue device fifos)
    (hdvd : size ∣ virtqModulus) {position head : Nat} (hheld : fifos.held[position]? = some head)
    (len : Nat) :
    (device.complete queue position len).1 = some head
      ∧ VirtqRelated size (device.complete queue position len).2.2
        (device.complete queue position len).2.1
        { fifos with
          held := fifos.held.eraseIdx position
          completed := fifos.completed ++ [⟨head, len⟩] } := by
  have hlt : position < fifos.held.length := (List.getElem?_eq_some_iff.mp hheld).1
  have hle := hrelated.outstanding_le
  simp only [VirtqFifos.outstanding] at hle
  rw [VirtqDevice.complete, hrelated.held_eq, hheld]
  refine ⟨rfl, hrelated.size_eq, hrelated.avail, rfl, rfl, ?_, ?_⟩
  · dsimp only
    rw [hrelated.size_eq, hrelated.usedIdx_eq]
    exact hrelated.used.push hdvd (by omega) _
  · simp only [VirtqFifos.outstanding, List.length_append, List.length_singleton,
      List.length_eraseIdx_of_lt hlt]
    omega

theorem VirtqRelated.popUsed_nil (hrelated : VirtqRelated size queue device fifos)
    (hempty : fifos.completed = []) : virtqueuePopUsed queue = (none, queue) := by
  have hequal : queue.lastUsedIdx = queue.usedIdx :=
    (hrelated.used.eq_iff (by rw [hempty]; decide)).mpr hempty
  rw [virtqueuePopUsed, if_pos hequal]

theorem VirtqRelated.popUsed_cons (hrelated : VirtqRelated size queue device fifos)
    (hlt : size < virtqModulus) {elem : VirtqUsedElem} {rest : List VirtqUsedElem}
    (hfirst : fifos.completed = elem :: rest) :
    (virtqueuePopUsed queue).1 = some elem
      ∧ VirtqRelated size (virtqueuePopUsed queue).2 device { fifos with completed := rest } := by
  have hused := hrelated.used
  have hle := hrelated.outstanding_le
  simp only [VirtqFifos.outstanding] at hle
  have hne : queue.lastUsedIdx ≠ queue.usedIdx := by
    rw [Ne, hused.eq_iff (by omega), hfirst]
    exact List.cons_ne_nil _ _
  rw [hfirst] at hused
  have helem := hused.front
  rw [virtqueuePopUsed, if_neg hne, hrelated.size_eq, helem]
  refine ⟨rfl, rfl, hrelated.avail, hrelated.held_eq, hrelated.usedIdx_eq, hused.pop, ?_⟩
  rw [hfirst, List.length_cons] at hle
  simp only [VirtqFifos.outstanding]
  omega

theorem virtqStep_related (hdvd : size ∣ virtqModulus) (hlt : size < virtqModulus)
    (hrelated : VirtqRelated size queue device fifos) {op : VirtqOp} (hroom : fifos.Room size op) :
    (virtqStep (queue, device) op).1 = (virtqFifosStep fifos op).1
      ∧ VirtqRelated size (virtqStep (queue, device) op).2.1 (virtqStep (queue, device) op).2.2
        (virtqFifosStep fifos op).2 := by
  cases op with
  | submit head => exact ⟨rfl, hrelated.submit hdvd hroom head⟩
  | consume =>
      cases hfirst : fifos.submitted with
      | nil =>
          simp only [virtqStep, virtqFifosStep, hfirst, hrelated.consume_nil hfirst]
          exact ⟨trivial, hrelated⟩
      | cons head rest =>
          obtain ⟨hhead, hnext⟩ := hrelated.consume_cons hlt hfirst
          simp only [virtqStep, virtqFifosStep, hfirst, hhead]
          exact ⟨trivial, hnext⟩
  | complete position len =>
      cases hheld : fifos.held[position]? with
      | none =>
          simp only [virtqStep, virtqFifosStep, VirtqDevice.complete, hrelated.held_eq, hheld]
          exact ⟨trivial, hrelated⟩
      | some head =>
          obtain ⟨hhead, hnext⟩ := hrelated.complete hdvd hheld len
          simp only [virtqStep, virtqFifosStep, hheld, hhead]
          exact ⟨trivial, hnext⟩
  | pop =>
      cases hfirst : fifos.completed with
      | nil =>
          simp only [virtqStep, virtqFifosStep, hfirst, hrelated.popUsed_nil hfirst]
          exact ⟨trivial, hrelated⟩
      | cons elem rest =>
          obtain ⟨helem, hnext⟩ := hrelated.popUsed_cons hlt hfirst
          simp only [virtqStep, virtqFifosStep, hfirst, helem]
          exact ⟨trivial, hnext⟩

end Steps

/-- For every power of two that `virtqueue_init` accepts as a size, and every interleaving of driver and
device with at most that many requests outstanding: the device takes the heads in the order of
submission, and the driver the completions in the order of completion, each exactly once. -/
theorem virtqueue_run_eq_fifos (size page : Nat) (queue : Virtqueue)
    (hpower : ∃ exponent, size = 2 ^ exponent) (hinit : virtqueueInit size page = some queue)
    (ops : List VirtqOp)
    (hroom : Machine.EveryStep (fun fifos op => (virtqFifosStep fifos op).2) (VirtqFifos.Room size)
      .empty ops) :
    (Machine.run virtqStep (queue, .reset) ops).1 = (Machine.run virtqFifosStep .empty ops).1 := by
  have hdvd := virtqueueInit_dvd hinit hpower
  have hlt := virtqueueInit_size_lt hinit
  have hrun := @Machine.run_simulation _ _ _ _ virtqStep virtqFifosStep
    fun rest state fifos => VirtqRelated size state.1 state.2 fifos
      ∧ Machine.EveryStep (fun fifos op => (virtqFifosStep fifos op).2) (VirtqFifos.Room size) fifos
        rest
  apply (hrun _ ⟨virtqRelated_init hinit, hroom⟩).1
  rintro op rest ⟨queue, device⟩ fifos ⟨hrelated, hop, hrest⟩
  obtain ⟨houtput, hnext⟩ := virtqStep_related hdvd hlt hrelated hop
  exact ⟨houtput, hnext, hrest⟩

/-- Two requests on a queue of two cells, completed in the other order, and a third one behind. -/
theorem virtqueue_run_two_cells :
    ∃ queue, virtqueueInit 2 0x1000 = some queue
      ∧ (Machine.run virtqStep (queue, .reset) [.submit 0, .submit 1, .consume, .consume,
          .complete 1 7, .complete 0 8, .pop, .submit 1, .consume, .pop, .pop]).1
        = [.submitted, .submitted, .consumed (some 0), .consumed (some 1), .completed (some 1),
          .completed (some 0), .popped (some ⟨1, 7⟩), .submitted, .consumed (some 1),
          .popped (some ⟨0, 8⟩), .popped none] := by
  refine ⟨_, rfl, ?_⟩
  rw [virtqueue_run_eq_fifos 2 0x1000 _ ⟨1, rfl⟩ rfl _ (by decide)]
  rfl

end DuckOs

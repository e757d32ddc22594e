import DuckOs.Drivers.VirtioBlk
import DuckOs.Proof.VirtqueueFree

/-!
# Block requests

The free list of the queue and the descriptors of the pending request together are all the
descriptors, in every state of a run. A call gets the result of its own request as long as no other
request is accepted before it has read it.
-/

namespace DuckOs

/-! ### Submissions -/

section Submit

variable {state : VirtioBlkState} {request : VirtioBlkRequest}

/-- The request is refused and changes nothing. -/
def VirtioBlkRefused (state : VirtioBlkState) (result : Bool × VirtioBlkState) : Prop :=
  ∃ queue, result = (false, { state with queue := queue }) ∧ state.queue.SameFree queue

/-- The request takes three descriptors and becomes the pending one. -/
def VirtioBlkStarted (state : VirtioBlkState) (request : VirtioBlkRequest)
    (result : Bool × VirtioBlkState) : Prop :=
  ∃ header data status first second third, state.requestBusy = false
    ∧ state.queue.Takes header first ∧ first.Takes data second ∧ second.Takes status third
    ∧ result = (true, virtioBlkStart { state with queue := third } request header data status)

theorem virtioBlkRefused_refl (state : VirtioBlkState) : VirtioBlkRefused state (false, state) :=
  ⟨state.queue, rfl, .refl state.queue⟩

/-- What a submission can do; too few free descriptors are given back. -/
theorem virtioBlkSubmit_cases (hnodup : state.queue.freeList.Nodup)
    (hcount : state.queue.numFree < 2 ^ 16) (request : VirtioBlkRequest) :
    (VirtioBlkRefused state (virtioBlkSubmit state request))
      ∨ (3 ≤ state.queue.numFree
        ∧ VirtioBlkStarted state request (virtioBlkSubmit state request)) := by
  unfold virtioBlkSubmit
  split
  · exact .inl (virtioBlkRefused_refl state)
  split
  · exact .inl (virtioBlkRefused_refl state)
  rename_i hbusy
  dsimp only
  have hlength := state.queue.length_freeList
  cases hlist : state.queue.freeList with
  | nil =>
      simp only [virtqueueAllocDesc_nil hlist]
      exact .inl (virtioBlkRefused_refl state)
  | cons header rest =>
      obtain ⟨hheader, hfirst⟩ := virtqueueAllocDesc_cons hlist hnodup
      generalize virtqueueAllocDesc state.queue = first at hheader hfirst ⊢
      have hrest : first.2.freeList = rest := by
        rw [hfirst.freeList_eq] at hlist
        exact (List.cons.inj hlist).2
      have hnodupRest : first.2.freeList.Nodup := by
        rw [hfirst.freeList_eq] at hnodup
        exact (List.nodup_cons.mp hnodup).2
      have hcountRest : first.2.numFree + 1 = state.queue.numFree := by
        rw [← hlength, ← first.2.length_freeList, hfirst.freeList_eq, List.length_cons]
      cases rest with
      | nil =>
          simp only [hheader, virtqueueAllocDesc_nil hrest]
          exact .inl ⟨_, rfl, hfirst.giveBack hnodup (.refl _) hcount⟩
      | cons data rest =>
          obtain ⟨hdata, hsecond⟩ := virtqueueAllocDesc_cons hrest hnodupRest
          generalize virtqueueAllocDesc first.2 = second at hdata hsecond ⊢
          have hlast : second.2.freeList = rest := by
            rw [hsecond.freeList_eq] at hrest
            exact (List.cons.inj hrest).2
          have hnodupLast : second.2.freeList.Nodup := by
            rw [hsecond.freeList_eq] at hnodupRest
            exact (List.nodup_cons.mp hnodupRest).2
          cases rest with
          | nil =>
              simp only [hheader, hdata, virtqueueAllocDesc_nil hlast]
              have hback := hsecond.giveBack hnodupRest (.refl _) (by omega)
              exact .inl ⟨_, rfl, hfirst.giveBack hnodup hback hcount⟩
          | cons status rest =>
              obtain ⟨hstatus, hthird⟩ := virtqueueAllocDesc_cons hlast hnodupLast
              generalize virtqueueAllocDesc second.2 = third at hstatus hthird ⊢
              simp only [hheader, hdata, hstatus]
              refine .inr ⟨?_, header, data, status, first.2, second.2, third.2, ?_, hfirst, hsecond,
                hthird, rfl⟩
              · rw [← hlength, hlist]
                simp
              · simpa using hbusy

/-- While a request is pending, or with fewer than three free descriptors, a submission returns -1
and changes nothing. -/
theorem virtioBlkSubmit_refused (hnodup : state.queue.freeList.Nodup)
    (hcannot : state.requestBusy = true ∨ state.queue.numFree < 3) (request : VirtioBlkRequest) :
    VirtioBlkRefused state (virtioBlkSubmit state request) := by
  rcases hcannot with hbusy | hfew
  · unfold virtioBlkSubmit
    rw [if_pos hbusy]
    split
    · exact virtioBlkRefused_refl state
    · exact virtioBlkRefused_refl state
  · rcases virtioBlkSubmit_cases hnodup (by omega) request with hrefused | ⟨hthree, -⟩
    · exact hrefused
    · omega

end Submit

/-! ### The invariant -/

/-- In every state of a run: at most one request is under way, and its head is in exactly one place. -/
structure VirtioBlkInv (driver : VirtioBlkState) (device : VirtqDevice) (fifos : VirtqFifos) :
    Prop where
  related : VirtqRelated virtioBlkQueueSize driver.queue device fifos
  conserved : driver.Conserved
  idle : driver.requestBusy = false → fifos = .empty
  pending : driver.requestBusy = true →
    fifos.submitted ++ fifos.held ++ fifos.completed.map (·.id) = [driver.headerDesc]

section Invariant

variable {driver : VirtioBlkState} {device : VirtqDevice} {fifos : VirtqFifos}

theorem virtioBlkQueueSize_dvd : virtioBlkQueueSize ∣ virtqModulus := by decide

theorem virtioBlkQueueSize_lt : virtioBlkQueueSize < virtqModulus := by decide

theorem VirtioBlkState.Conserved.nodup (hconserved : driver.Conserved) :
    driver.queue.freeList.Nodup := by
  rcases hconserved with ⟨-, hperm⟩ | ⟨-, hperm⟩
  · exact hperm.nodup_iff.mpr List.nodup_range
  · have hall := hperm.nodup_iff.mpr List.nodup_range
    exact (List.nodup_cons.mp (List.nodup_cons.mp (List.nodup_cons.mp hall).2).2).2

theorem VirtioBlkState.Conserved.numFree_le (hconserved : driver.Conserved) :
    driver.queue.numFree ≤ virtioBlkQueueSize := by
  rw [← driver.queue.length_freeList]
  rcases hconserved with ⟨-, hperm⟩ | ⟨-, hperm⟩
  · exact Nat.le_of_eq (hperm.length_eq.trans List.length_range)
  · have hlength := hperm.length_eq
    simp only [List.length_cons, List.length_range] at hlength
    omega

theorem virtioBlkInit_inv {page capacity headerAddr statusAddr : Nat}
    (hinit : virtioBlkInit page capacity headerAddr statusAddr = some driver) :
    VirtioBlkInv driver .reset .empty := by
  unfold virtioBlkInit at hinit
  split at hinit
  · cases hinit
  rename_i queue hqueue
  split at hinit
  · cases hinit
  cases hinit
  refine ⟨virtqRelated_init hqueue, .inl ⟨rfl, ?_⟩, fun _ => rfl,
    fun hbusy => absurd hbusy Bool.false_ne_true⟩
  rw [virtqueueInit_eq hqueue]
  have hwalk : virtqFreeWalk (virtqueueChainLoop virtioBlkQueueSize virtioBlkQueueSize 0 fun _ => .zero)
      virtioBlkQueueSize 0 = List.range virtioBlkQueueSize := by decide
  exact List.Perm.of_eq hwalk

theorem VirtioBlkInv.refused (hinv : VirtioBlkInv driver device fifos) {queue : Virtqueue}
    (hsame : driver.queue.SameFree queue) :
    VirtioBlkInv { driver with queue := queue } device fifos where
  related := hinv.related.sameRings hsame.rings
  conserved := by
    have hconserved := hinv.conserved
    unfold VirtioBlkState.Conserved at hconserved ⊢
    dsimp only
    rw [hsame.freeList_eq]
    exact hconserved
  idle := hinv.idle
  pending := hinv.pending

/-- The three descriptors leave the free list, and the head goes to the device. -/
theorem VirtioBlkInv.started (hinv : VirtioBlkInv driver device fifos)
    {request : VirtioBlkRequest} {header data status : Nat} {first second third : Virtqueue}
    (hidle : driver.requestBusy = false) (hfirst : driver.queue.Takes header first)
    (hsecond : first.Takes data second) (hthird : second.Takes status third) :
    VirtioBlkInv (virtioBlkStart { driver with queue := third } request header data status) device
      ⟨[header], [], []⟩ := by
  have hfifos := hinv.idle hidle
  have hlist : driver.queue.freeList = header :: data :: status :: third.freeList := by
    rw [hfirst.freeList_eq, hsecond.freeList_eq, hthird.freeList_eq]
  have hnodup := hinv.conserved.nodup
  rw [hlist] at hnodup
  have hrings := hfirst.rings.trans (hsecond.rings.trans hthird.rings)
  generalize hdesc : virtioBlkChain { driver with queue := third } request header data status = desc
  have hchain : ∀ index ∈ third.freeList, desc index = third.desc index := by
    intro index hmem
    simp only [List.nodup_cons, List.mem_cons, not_or] at hnodup
    have hheader : index ≠ header := fun heq => hnodup.1.2.2 (heq ▸ hmem)
    have hdata : index ≠ data := fun heq => hnodup.2.1.2 (heq ▸ hmem)
    have hstatus : index ≠ status := fun heq => hnodup.2.2.1 (heq ▸ hmem)
    rw [← hdesc, virtioBlkChain]
    dsimp only
    rw [Function.update_of_ne hstatus, Function.update_of_ne hdata, Function.update_of_ne hheader]
  have hqueue : (virtioBlkStart { driver with queue := third } request header data status).queue
      = virtqueueSubmit { third with desc := desc } header := by
    rw [virtioBlkStart, hdesc]
  have hfree : (virtqueueSubmit { third with desc := desc } header).freeList = third.freeList :=
    Virtqueue.freeList_congr rfl rfl hchain
  refine ⟨?_, .inr ⟨rfl, ?_⟩, (fun hbusy => nomatch hbusy), fun _ => rfl⟩
  · have hrelated : VirtqRelated virtioBlkQueueSize { third with desc := desc } device .empty := by
      rw [hfifos] at hinv
      exact hinv.related.sameRings (hrings.trans ⟨rfl, rfl, rfl, rfl, rfl, rfl⟩)
    rw [hqueue]
    exact hrelated.submit virtioBlkQueueSize_dvd (by decide) header
  · rw [hqueue, hfree]
    rcases hinv.conserved with ⟨-, hperm⟩ | ⟨hbusy, -⟩
    · rw [hlist] at hperm
      exact hperm
    · rw [hidle] at hbusy
      cases hbusy

theorem virtqueuePopUsed_freeList (queue : Virtqueue) :
    (virtqueuePopUsed queue).2.freeList = queue.freeList := by
  unfold virtqueuePopUsed
  split
  · rfl
  · rfl

theorem virtioBlkFreePendingChain_freeList {rest : List Nat}
    (hlist : driver.queue.freeList = rest)
    (hnodup : (driver.headerDesc :: driver.dataDesc :: driver.statusDesc :: rest).Nodup)
    (hcount : rest.length + 3 < 2 ^ 16) :
    (virtioBlkFreePendingChain driver).queue.freeList
        = driver.statusDesc :: driver.dataDesc :: driver.headerDesc :: rest
      ∧ driver.queue.SameRings (virtioBlkFreePendingChain driver).queue := by
  simp only [List.nodup_cons, List.mem_cons, not_or] at hnodup
  obtain ⟨⟨hheaderData, hheaderStatus, hheader⟩, ⟨hdataStatus, hdata⟩, hstatus, -⟩ := hnodup
  have hfirst := virtqueueFreeDesc_freeList hlist hheader (by omega)
  have hsecond := virtqueueFreeDesc_freeList hfirst
    (List.not_mem_cons_of_ne_of_not_mem (Ne.symm hheaderData) hdata)
    (by rw [List.length_cons]; omega)
  have hthird := virtqueueFreeDesc_freeList hsecond
    (List.not_mem_cons_of_ne_of_not_mem (Ne.symm hdataStatus)
      (List.not_mem_cons_of_ne_of_not_mem (Ne.symm hheaderStatus) hstatus))
    (by rw [List.length_cons, List.length_cons]; omega)
  exact ⟨hthird, ⟨rfl, rfl, rfl, rfl, rfl, rfl⟩⟩

/-- The new used element is that of the pending request, whose descriptors go back. -/
structure VirtioBlkCompleted (driver : VirtioBlkState) (fifos : VirtqFifos) (elem : VirtqUsedElem)
    (after : VirtioBlkState) : Prop where
  busy : driver.requestBusy = true
  id_eq : elem.id = driver.headerDesc
  fifos_eq : fifos = ⟨[], [], [elem]⟩
  after_eq : ∃ queue, after = { driver with
    queue := queue, requestUsedLen := elem.len, requestDone := true, requestBusy := false }

/-- A completion is that of the pending request, and the rings hold nothing else. -/
theorem VirtioBlkInv.fifos_of_completed (hinv : VirtioBlkInv driver device fifos)
    (hbusy : driver.requestBusy = true) {elem : VirtqUsedElem} {rest : List VirtqUsedElem}
    (hcompleted : fifos.completed = elem :: rest) :
    rest = [] ∧ elem.id = driver.headerDesc ∧ fifos = ⟨[], [], [elem]⟩ := by
  have hheads := hinv.pending hbusy
  rw [hcompleted, List.map_cons] at hheads
  have hcount := congrArg List.length hheads
  simp only [List.length_append, List.length_cons, List.length_map, List.length_nil] at hcount
  have hsubmitted : fifos.submitted = [] := List.length_eq_zero_iff.mp (by omega)
  have hheld : fifos.held = [] := List.length_eq_zero_iff.mp (by omega)
  have hrest : rest = [] := List.length_eq_zero_iff.mp (by omega)
  rw [hsubmitted, hheld, hrest] at hheads
  refine ⟨hrest, (List.cons.inj hheads).1, ?_⟩
  cases fifos
  simp only at hsubmitted hheld hcompleted
  rw [hsubmitted, hheld, hcompleted, hrest]

theorem VirtioBlkInv.completeUsed (hinv : VirtioBlkInv driver device fifos) :
    (fifos.completed = [] ∧ virtioBlkCompleteUsed driver = driver)
      ∨ ∃ elem, VirtioBlkCompleted driver fifos elem (virtioBlkCompleteUsed driver)
        ∧ VirtioBlkInv (virtioBlkCompleteUsed driver) device .empty := by
  have hrelated := hinv.related
  have hlength : fifos.completed.length < virtqModulus := by
    have hle := hrelated.outstanding_le
    have hlt := virtioBlkQueueSize_lt
    simp only [VirtqFifos.outstanding] at hle
    omega
  have hfuel := hrelated.used.count_eq hlength
  cases hcompleted : fifos.completed with
  | nil =>
      rw [hcompleted] at hfuel
      refine .inl ⟨rfl, ?_⟩
      rw [virtioBlkCompleteUsed, hfuel]
      rfl
  | cons elem rest =>
      have hbusy : driver.requestBusy = true := by
        by_contra hidle
        rw [Bool.not_eq_true] at hidle
        rw [hinv.idle hidle] at hcompleted
        cases hcompleted
      obtain ⟨rfl, hid, hfifos⟩ := hinv.fifos_of_completed hbusy hcompleted
      obtain ⟨hpop, hnext⟩ := hrelated.popUsed_cons virtioBlkQueueSize_lt hcompleted
      rw [hcompleted] at hfuel
      generalize hpopped : (virtqueuePopUsed driver.queue).2 = popped at hnext
      have hafter : virtioBlkCompleteUsed driver
          = { virtioBlkFreePendingChain { driver with queue := popped } with
              requestUsedLen := elem.len, requestDone := true, requestBusy := false } := by
        rw [virtioBlkCompleteUsed, hfuel, List.length_singleton, virtioBlkCompleteUsedLoop]
        simp only [hpop, hpopped, hbusy, hid, Bool.not_true, Bool.false_eq_true, ne_eq,
          not_true_eq_false, or_self, ↓reduceIte]
        rfl
      have hperm : (driver.headerDesc :: driver.dataDesc :: driver.statusDesc
          :: driver.queue.freeList).Perm (List.range virtioBlkQueueSize) := by
        rcases hinv.conserved with ⟨hidle, -⟩ | ⟨-, hperm⟩
        · rw [hbusy] at hidle
          cases hidle
        · exact hperm
      have hcount := hperm.length_eq
      simp only [List.length_cons, List.length_range, virtioBlkQueueSize] at hcount
      have hfree : popped.freeList = driver.queue.freeList := by
        rw [← hpopped, virtqueuePopUsed_freeList]
      obtain ⟨hlist, hrings⟩ := @virtioBlkFreePendingChain_freeList { driver with queue := popped } _
        hfree (hperm.nodup_iff.mpr List.nodup_range) (by omega)
      refine .inr ⟨elem, ⟨hbusy, hid, hfifos, ⟨_, hafter⟩⟩, ?_⟩
      rw [hafter]
      refine ⟨?_, .inl ⟨rfl, ?_⟩, fun _ => rfl, fun hbusy => absurd hbusy Bool.false_ne_true⟩
      · rw [hfifos] at hnext
        exact hnext.sameRings hrings
      · dsimp only
        rw [hlist]
        refine List.Perm.trans ?_ hperm
        exact (List.Perm.swap _ _ _).trans (((List.Perm.swap _ _ _).cons _).trans (List.Perm.swap _ _ _))

theorem VirtioBlkInv.consume (hinv : VirtioBlkInv driver device fifos) :
    ∃ after, VirtioBlkInv driver (device.consume driver.queue).2 after
      ∧ after.completed = fifos.completed := by
  cases hfirst : fifos.submitted with
  | nil =>
      rw [hinv.related.consume_nil hfirst]
      exact ⟨fifos, hinv, rfl⟩
  | cons head rest =>
      obtain ⟨-, hnext⟩ := hinv.related.consume_cons virtioBlkQueueSize_lt hfirst
      refine ⟨_, ⟨hnext, hinv.conserved, ?_, ?_⟩, rfl⟩
      · intro hidle
        rw [hinv.idle hidle] at hfirst
        cases hfirst
      · intro hbusy
        have hheads := hinv.pending hbusy
        have hcount := congrArg List.length hheads
        rw [hfirst] at hheads hcount
        simp only [List.length_append, List.length_cons, List.length_map, List.length_nil] at hcount
        have hrest : rest = [] := List.length_eq_zero_iff.mp (by omega)
        have hheld : fifos.held = [] := List.length_eq_zero_iff.mp (by omega)
        rw [hrest, hheld] at hheads ⊢
        exact hheads

theorem VirtioBlkInv.complete (hinv : VirtioBlkInv driver device fifos) {position head : Nat}
    (hheld : fifos.held[position]? = some head) (status len : Nat) :
    (device.complete driver.queue position len).1 = some head
      ∧ driver.requestBusy = true ∧ head = driver.headerDesc
      ∧ VirtioBlkInv
        { driver with
          queue := (device.complete driver.queue position len).2.2, requestStatus := status }
        (device.complete driver.queue position len).2.1 ⟨[], [], [⟨head, len⟩]⟩ := by
  obtain ⟨hhead, hnext⟩ := hinv.related.complete virtioBlkQueueSize_dvd hheld len
  have hbusy : driver.requestBusy = true := by
    by_contra hidle
    rw [Bool.not_eq_true] at hidle
    rw [hinv.idle hidle] at hheld
    cases hheld
  have hheads := hinv.pending hbusy
  have hlt := (List.getElem?_eq_some_iff.mp hheld).1
  have hcount := congrArg List.length hheads
  simp only [List.length_append, List.length_map, List.length_singleton] at hcount
  have hsubmitted : fifos.submitted = [] := List.length_eq_zero_iff.mp (by omega)
  have hcompleted : fifos.completed = [] := List.length_eq_zero_iff.mp (by omega)
  have hlist : fifos.held = [driver.headerDesc] := by
    rw [hsubmitted, hcompleted] at hheads
    simpa using hheads
  have hzero : position = 0 := by
    rw [hlist, List.length_singleton] at hlt
    omega
  have hsame : head = driver.headerDesc := by
    rw [hlist, hzero] at hheld
    exact (Option.some.inj hheld).symm
  rw [hsubmitted, hcompleted, hlist, hzero] at hnext
  rw [hzero] at hhead ⊢
  have hfree : (device.complete driver.queue 0 len).2.2.freeList = driver.queue.freeList := by
    unfold VirtqDevice.complete
    split
    · rfl
    · rfl
  refine ⟨hhead, hbusy, hsame, hnext, ?_, ?_, ?_⟩
  · have hconserved := hinv.conserved
    unfold VirtioBlkState.Conserved at hconserved ⊢
    dsimp only
    rw [hfree]
    exact hconserved
  · intro hidle
    rw [hbusy] at hidle
    cases hidle
  · intro _
    simp only [List.append_nil, List.nil_append, List.map_cons, List.map_nil, hsame]

end Invariant

/-! ### Runs -/

namespace VirtioBlkRun

variable {ι : Type} [DecidableEq ι] {run : VirtioBlkRun ι} {fifos : VirtqFifos}

/-- What an event does to driver and device, and to the numbers and results of the requests. -/
inductive Effect (run : VirtioBlkRun ι) (fifos : VirtqFifos) :
    VirtioBlkEvent ι → VirtioBlkRun ι → VirtqFifos → Prop where
  | refused {task : ι} {request : VirtioBlkRequest} {queue : Virtqueue}
      (hrefused : (virtioBlkSubmit run.driver request).1 = false)
      (hsame : run.driver.queue.SameFree queue) :
      Effect run fifos (.submit task request)
        { run with driver := { run.driver with queue := queue } } fifos
  | started {task : ι} {request : VirtioBlkRequest} {after : VirtioBlkState}
      (haccepted : (virtioBlkSubmit run.driver request).1 = true)
      (hbusy : after.requestBusy = true) (hdone : after.requestDone = false) :
      Effect run fifos (.submit task request)
        { run with
          driver := after
          calls := Function.update run.calls task (.polling run.accepted)
          accepted := run.accepted + 1
          requestOf := Function.update run.requestOf after.headerDesc run.accepted }
        ⟨[after.headerDesc], [], []⟩
  | consumed {device : VirtqDevice} {after : VirtqFifos} (hsame : after.completed = fifos.completed) :
      Effect run fifos .consume { run with device := device } after
  | uncompleted {position status len : Nat} : Effect run fifos (.complete position status len) run fifos
  | completed {position status len : Nat} {device : VirtqDevice} {queue : Virtqueue}
      (hbusy : run.driver.requestBusy = true) :
      Effect run fifos (.complete position status len)
        { run with
          device := device
          driver := { run.driver with queue := queue, requestStatus := status }
          results := Function.update run.results (run.requestOf run.driver.headerDesc)
            (some (status, len)) }
        ⟨[], [], [⟨run.driver.headerDesc, len⟩]⟩
  | unused : Effect run fifos .completeUsed run fifos
  | used {elem : VirtqUsedElem} {after : VirtioBlkState}
      (hcompleted : VirtioBlkCompleted run.driver fifos elem after) :
      Effect run fifos .completeUsed { run with driver := after } .empty
  | waits {task : ι} : Effect run fifos (.test task) run fifos
  | tested {task : ι} {request : Nat} (hcall : run.calls task = .polling request)
      (hdone : run.driver.requestDone = true) :
      Effect run fifos (.test task) (run.setCall task (.reading request)) fifos
  | unread {task : ι} : Effect run fifos (.read task) run fifos
  | read {task : ι} {request : Nat} (hcall : run.calls task = .reading request) :
      Effect run fifos (.read task) (run.setCall task .idle) fifos

theorem next_effect (hinv : VirtioBlkInv run.driver run.device fifos) (event : VirtioBlkEvent ι) :
    ∃ after, run.Effect fifos event (run.next event) after
      ∧ VirtioBlkInv (run.next event).driver (run.next event).device after := by
  cases event with
  | submit task request =>
      have hcount := hinv.conserved.numFree_le
      have hsmall : run.driver.queue.numFree < 2 ^ 16 := Nat.lt_of_le_of_lt hcount (by decide)
      rcases virtioBlkSubmit_cases hinv.conserved.nodup hsmall request with
        ⟨queue, heq, hsame⟩ | ⟨-, header, data, status, first, second, third, hidle, hfirst, hsecond,
          hthird, heq⟩
      · have hrefused : (virtioBlkSubmit run.driver request).1 = false := by rw [heq]
        have hnext : run.next (.submit task request)
            = { run with driver := { run.driver with queue := queue } } := by
          simp only [next, step, heq, Bool.false_eq_true, ↓reduceIte]
        rw [hnext]
        exact ⟨fifos, .refused hrefused hsame, hinv.refused hsame⟩
      · have haccepted : (virtioBlkSubmit run.driver request).1 = true := by rw [heq]
        simp only [next, step, heq, ↓reduceIte]
        exact ⟨_, .started haccepted rfl rfl, hinv.started hidle hfirst hsecond hthird⟩
  | consume =>
      obtain ⟨after, hafter, hsame⟩ := hinv.consume
      exact ⟨after, .consumed hsame, hafter⟩
  | complete position status len =>
      cases hheld : fifos.held[position]? with
      | none =>
          have hnone : (run.device.complete run.driver.queue position len).1 = none := by
            rw [VirtqDevice.complete, hinv.related.held_eq, hheld]
          simp only [next, step, hnone]
          exact ⟨fifos, .uncompleted, hinv⟩
      | some head =>
          obtain ⟨hhead, hbusy, rfl, hafter⟩ := hinv.complete hheld status len
          simp only [next, step, hhead]
          exact ⟨_, .completed hbusy, hafter⟩
  | completeUsed =>
      rcases hinv.completeUsed with ⟨-, hsame⟩ | ⟨elem, hcompleted, hafter⟩
      · simp only [next, step, hsame]
        exact ⟨fifos, .unused, hinv⟩
      · exact ⟨_, .used hcompleted, hafter⟩
  | test task =>
      simp only [next, step]
      split
      · rename_i request hcall
        split
        · rename_i hdone
          exact ⟨fifos, .tested hcall hdone, hinv⟩
        · exact ⟨fifos, .waits, hinv⟩
      · exact ⟨fifos, .waits, hinv⟩
  | read task =>
      simp only [next, step]
      split
      · rename_i request hcall
        exact ⟨fifos, .read hcall, hinv⟩
      · exact ⟨fifos, .unread, hinv⟩

/-- What a call with a request of its own relies on: the request is the last one accepted, and its
status and length are those in the driver. -/
structure OwnResult (run : VirtioBlkRun ι) (fifos : VirtqFifos) (request : Nat) : Prop where
  requestOf_eq : run.requestOf run.driver.headerDesc = request
  waiting : run.driver.requestBusy = true → run.driver.requestDone = false
    ∧ ∀ elem ∈ fifos.completed, run.results request = some (run.driver.requestStatus, elem.len)
  finished : run.driver.requestBusy = false → run.driver.requestDone = true
    ∧ run.results request = some (run.driver.requestStatus, run.driver.requestUsedLen)

structure CallsInv (run : VirtioBlkRun ι) (fifos : VirtqFifos) : Prop where
  polling : ∀ task request, run.calls task = .polling request → run.OwnResult fifos request
  reading : ∀ task request, run.calls task = .reading request →
    run.OwnResult fifos request ∧ run.driver.requestDone = true

omit [DecidableEq ι] in
theorem CallsInv.congr {after : VirtioBlkRun ι} {later : VirtqFifos} (hcalls : run.CallsInv fifos)
    (hsame : after.calls = run.calls)
    (hown : ∀ request, run.OwnResult fifos request → after.OwnResult later request)
    (hdone : run.driver.requestDone = true → after.driver.requestDone = true) :
    after.CallsInv later where
  polling := fun task request hcall =>
    hown request (hcalls.polling task request (by rw [← hsame, hcall]))
  reading := fun task request hcall => by
    obtain ⟨hresult, hread⟩ := hcalls.reading task request (by rw [← hsame, hcall])
    exact ⟨hown request hresult, hdone hread⟩

theorem setCall_cases {task other : ι} {phase wanted : VirtioBlkPhase}
    (hcall : (run.setCall task phase).calls other = wanted) :
    (other = task ∧ phase = wanted) ∨ run.calls other = wanted := by
  by_cases heq : other = task
  · subst heq
    exact .inl ⟨rfl, (Function.update_self _ _ _).symm.trans hcall⟩
  · exact .inr ((Function.update_of_ne heq _ _).symm.trans hcall)

theorem OwnResult.setCall {request : Nat} (hown : run.OwnResult fifos request) (task : ι)
    (phase : VirtioBlkPhase) : (run.setCall task phase).OwnResult fifos request :=
  ⟨hown.requestOf_eq, hown.waiting, hown.finished⟩

theorem CallsInv.setCall (hcalls : run.CallsInv fifos) (task : ι) {phase : VirtioBlkPhase}
    (hphase : ∀ request, phase ≠ .polling request)
    (hreading : ∀ request, phase = .reading request →
      run.OwnResult fifos request ∧ run.driver.requestDone = true) :
    (run.setCall task phase).CallsInv fifos where
  polling := fun other number hcall => by
    rcases setCall_cases hcall with ⟨-, heq⟩ | hbefore
    · exact absurd heq (hphase number)
    · exact (hcalls.polling other number hbefore).setCall task phase
  reading := fun other number hcall => by
    have hown : run.OwnResult fifos number ∧ run.driver.requestDone = true := by
      rcases setCall_cases hcall with ⟨-, heq⟩ | hbefore
      · exact hreading number heq
      · exact hcalls.reading other number hbefore
    exact ⟨hown.1.setCall task phase, hown.2⟩

/-- A request under way stays the one of the call as long as no other is accepted. -/
theorem CallsInv.next {after : VirtioBlkRun ι} {later : VirtqFifos} {event : VirtioBlkEvent ι}
    (hcalls : run.CallsInv fifos) (heffect : run.Effect fifos event after later)
    (halone : run.SubmitsAlone event) : after.CallsInv later := by
  cases heffect with
  | refused _ _ =>
      refine hcalls.congr rfl ?_ ?_
      · exact fun request hown => ⟨hown.requestOf_eq, hown.waiting, hown.finished⟩
      · exact id
  | @started task request state haccepted hbusy hdone =>
      have hidle := halone task request rfl haccepted
      have hown : ∀ other number,
          Function.update run.calls task (.polling run.accepted) other = .polling number →
          number = run.accepted := by
        intro other number hcall
        by_cases hother : other = task
        · rw [hother, Function.update_self] at hcall
          exact (VirtioBlkPhase.polling.inj hcall).symm
        · rw [Function.update_of_ne hother, hidle other] at hcall
          cases hcall
      constructor
      · intro other number hcall
        rw [hown other number hcall]
        refine ⟨Function.update_self _ _ _, fun _ => ⟨hdone, fun elem hmem => nomatch hmem⟩, ?_⟩
        intro hfree
        rw [hbusy] at hfree
        cases hfree
      · intro other number hcall
        dsimp only at hcall
        by_cases hother : other = task
        · rw [hother, Function.update_self] at hcall
          cases hcall
        · rw [Function.update_of_ne hother, hidle other] at hcall
          cases hcall
  | consumed hsame =>
      refine hcalls.congr rfl ?_ ?_
      · intro request hown
        refine ⟨hown.requestOf_eq, ?_, hown.finished⟩
        rw [hsame]
        exact hown.waiting
      · exact id
  | uncompleted => exact hcalls
  | completed hbusy =>
      refine hcalls.congr rfl ?_ ?_
      · intro request hown
        refine ⟨hown.requestOf_eq, fun _ => ⟨(hown.waiting hbusy).1, ?_⟩, ?_⟩
        · intro elem hmem
          rw [List.mem_singleton] at hmem
          dsimp only
          rw [hmem, hown.requestOf_eq, Function.update_self]
        · intro hfree
          exact nomatch hbusy.symm.trans hfree
      · exact id
  | unused => exact hcalls
  | used hcompleted =>
      obtain ⟨queue, rfl⟩ := hcompleted.after_eq
      refine hcalls.congr rfl ?_ ?_
      · intro request hown
        refine ⟨hown.requestOf_eq, (fun hbusy => nomatch hbusy), fun _ => ⟨rfl, ?_⟩⟩
        apply (hown.waiting hcompleted.busy).2
        rw [hcompleted.fifos_eq]
        exact List.mem_singleton_self _
      · exact fun _ => rfl
  | waits => exact hcalls
  | @tested task request hcall hdone =>
      apply hcalls.setCall task
      · exact fun _ heq => nomatch heq
      · rintro _ ⟨⟩
        exact ⟨hcalls.polling task request hcall, hdone⟩
  | unread => exact hcalls
  | read _ =>
      apply hcalls.setCall
      · exact fun _ heq => nomatch heq
      · exact fun _ heq => nomatch heq

/-- In every state of a run in which requests are accepted one after the other. -/
def Inv (run : VirtioBlkRun ι) : Prop :=
  ∃ fifos, VirtioBlkInv run.driver run.device fifos ∧ run.CallsInv fifos

/-- The result that is read is that of the call's own request. -/
theorem CallsInv.resultOwn (hcalls : run.CallsInv fifos) (event : VirtioBlkEvent ι) :
    run.ResultOwn event := by
  intro request success hreply
  cases event with
  | submit task wanted =>
      simp only [step] at hreply
      split at hreply
      · cases hreply
      · cases hreply
  | consume => cases hreply
  | complete position status len =>
      simp only [step] at hreply
      split at hreply
      · cases hreply
      · cases hreply
  | completeUsed => cases hreply
  | test task =>
      simp only [step] at hreply
      split at hreply
      · split at hreply
        · cases hreply
        · cases hreply
      · cases hreply
  | read task =>
      simp only [step] at hreply
      split at hreply
      · rename_i number hcall
        cases hreply
        obtain ⟨hown, hdone⟩ := hcalls.reading task request hcall
        have hfree : run.driver.requestBusy = false := by
          by_contra hbusy
          rw [Bool.not_eq_false] at hbusy
          rw [(hown.waiting hbusy).1] at hdone
          cases hdone
        have hresult := (hown.finished hfree).2
        unfold virtioBlkResult Succeeded
        rw [hresult, decide_eq_true_eq, not_or, not_not, Nat.not_lt]
        constructor
        · rintro ⟨hstatus, hlen⟩
          exact ⟨_, by rw [hstatus], hlen⟩
        · rintro ⟨len, heq, hlen⟩
          rw [Option.some.injEq, Prod.mk.injEq] at heq
          exact ⟨heq.1, heq.2 ▸ hlen⟩
      · cases hreply

end VirtioBlkRun

/-- In every run all descriptors are in the free list, or all but the three of the pending request. A
submission while a request is pending, or with fewer than three free descriptors, returns -1 and leaves
the free list and the pending request as they are. -/
theorem virtio_blk_descriptors_conserved {ι : Type} [DecidableEq ι]
    (page capacity headerAddr statusAddr : Nat) (driver : VirtioBlkState)
    (hinit : virtioBlkInit page capacity headerAddr statusAddr = some driver)
    (events : List (VirtioBlkEvent ι)) :
    Machine.Throughout VirtioBlkRun.next (fun run => run.driver.Conserved) (.start ι driver) events
      ∧ ∀ (state : VirtioBlkState) (request : VirtioBlkRequest), state.queue.freeList.Nodup →
        state.requestBusy = true ∨ state.queue.numFree < 3 →
        VirtioBlkRefused state (virtioBlkSubmit state request) := by
  refine ⟨?_, fun state request hnodup hcannot => virtioBlkSubmit_refused hnodup hcannot request⟩
  have hinv : Machine.Throughout VirtioBlkRun.next
      (fun run => ∃ fifos, VirtioBlkInv run.driver run.device fifos) (.start ι driver) events := by
    refine Machine.throughout_of_step ?_ events ⟨.empty, virtioBlkInit_inv hinit⟩
    rintro run event ⟨fifos, hinv⟩
    obtain ⟨after, -, hnext⟩ := VirtioBlkRun.next_effect hinv event
    exact ⟨after, hnext⟩
  refine hinv.mono ?_
  rintro run ⟨fifos, hinv⟩
  exact hinv.conserved

/-- In every run in which no request is accepted before the call with the last one has read its result,
every call returns the result of its own request. -/
theorem virtio_blk_results_own {ι : Type} [DecidableEq ι]
    (page capacity headerAddr statusAddr : Nat) (driver : VirtioBlkState)
    (hinit : virtioBlkInit page capacity headerAddr statusAddr = some driver)
    (events : List (VirtioBlkEvent ι))
    (halone : Machine.EveryStep VirtioBlkRun.next VirtioBlkRun.SubmitsAlone (.start ι driver) events) :
    Machine.EveryStep VirtioBlkRun.next VirtioBlkRun.ResultOwn (.start ι driver) events := by
  have hstart : (VirtioBlkRun.start ι driver).Inv :=
    ⟨.empty, virtioBlkInit_inv hinit, (fun _ _ hcall => nomatch hcall), fun _ _ hcall => nomatch hcall⟩
  refine Machine.EveryStep.of_inv ?_ hstart halone
  rintro run event ⟨fifos, hinv, hcalls⟩ halone
  obtain ⟨after, heffect, hnext⟩ := VirtioBlkRun.next_effect hinv event
  exact ⟨hcalls.resultOwn event, after, hnext, hcalls.next heffect halone⟩

/-- A driver for a disk of eight blocks. -/
def smallVirtioBlk : VirtioBlkState where
  available := true
  blockSize := 512
  blockCount := 8
  queue := ⟨8, 8, 0, 0, 0x1000, virtqueueChainLoop 8 8 0 fun _ => .zero, 0, fun _ => 0, 0,
    fun _ => ⟨0, 0⟩⟩
  headerAddr := 0x100
  statusAddr := 0x200
  headerType := 0
  headerSector := 0
  requestStatus := 0
  requestDone := false
  requestBusy := false
  requestUsedLen := 0
  requestBuffer := 0
  requestBlockCount := 0
  headerDesc := 0
  dataDesc := 0
  statusDesc := 0

theorem smallVirtioBlk_init : virtioBlkInit 0x1000 8 0x100 0x200 = some smallVirtioBlk := rfl

def readFirstBlock : VirtioBlkRequest := ⟨virtioBlkTIn, 0, 1, 0x3000⟩

/-- Two transfers, one after the other. -/
def transfersInTurn : List (VirtioBlkEvent Bool) :=
  [.submit false readFirstBlock, .consume, .complete 0 0 513, .completeUsed, .test false, .read false,
    .submit true readFirstBlock, .consume, .complete 0 1 1, .completeUsed, .test true, .read true]

/-- A request is pending. -/
def pendingVirtioBlk : VirtioBlkState := (virtioBlkSubmit smallVirtioBlk readFirstBlock).2

theorem virtio_blk_descriptors_conserved_in_turn :
    Machine.Throughout VirtioBlkRun.next (fun run => run.driver.Conserved)
        (.start Bool smallVirtioBlk) transfersInTurn
      ∧ VirtioBlkRefused pendingVirtioBlk (virtioBlkSubmit pendingVirtioBlk readFirstBlock) := by
  have hall := virtio_blk_descriptors_conserved 0x1000 8 0x100 0x200 smallVirtioBlk
    smallVirtioBlk_init transfersInTurn
  exact ⟨hall.1, hall.2 _ _ (by decide) (.inl rfl)⟩

theorem virtio_blk_results_own_in_turn :
    Machine.EveryStep VirtioBlkRun.next VirtioBlkRun.ResultOwn (.start Bool smallVirtioBlk)
      transfersInTurn := by
  have halone : Machine.EveryStep VirtioBlkRun.next
      (fun run event => (match event with
        | .submit _ _ => decide (∀ other, run.calls other = .idle)
        | _ => true) = true) (.start Bool smallVirtioBlk) transfersInTurn := by
    decide +kernel
  refine virtio_blk_results_own 0x1000 8 0x100 0x200 smallVirtioBlk smallVirtioBlk_init
    transfersInTurn (halone.mono ?_)
  rintro run event hidle task request rfl -
  simpa using hidle

/-- The second task submits its request before the first one has tested `request_done`. -/
def transfersOverlapping (first second : Nat) : List (VirtioBlkEvent Bool) :=
  [.submit false readFirstBlock, .consume, .complete 0 first 513, .completeUsed,
    .submit true readFirstBlock, .consume, .complete 0 second 513, .completeUsed, .test false]

def overlappedRun (first second : Nat) : VirtioBlkRun Bool :=
  (transfersOverlapping first second).foldl VirtioBlkRun.next (.start Bool smallVirtioBlk)

/-- The first task returns the result of the second one's request, for better or worse. -/
theorem virtio_blk_result_of_other_request :
    ((overlappedRun 0 1).Succeeded 0
        ∧ ((overlappedRun 0 1).step (.read false)).1 = .returned 0 false)
      ∧ ((overlappedRun 1 0).results 0 = some (1, 513)
        ∧ ((overlappedRun 1 0).step (.read false)).1 = .returned 0 true)
      ∧ Machine.EveryStep VirtioBlkRun.next VirtioBlkRun.Possible (.start Bool smallVirtioBlk)
        (transfersOverlapping 0 1 ++ [.read false])
      ∧ ¬ Machine.EveryStep VirtioBlkRun.next VirtioBlkRun.ResultOwn (.start Bool smallVirtioBlk)
        (transfersOverlapping 0 1 ++ [.read false]) := by
  have hsucceeded : (overlappedRun 0 1).Succeeded 0 :=
    ⟨513, by decide +kernel, by decide⟩
  have hreply : ((overlappedRun 0 1).step (.read false)).1 = .returned 0 false := by decide +kernel
  refine ⟨⟨hsucceeded, hreply⟩, ⟨by decide +kernel, by decide +kernel⟩, by decide +kernel, ?_⟩
  intro hown
  have hiff := hown.at 0 false hreply
  exact absurd (hiff.mpr hsucceeded) (by decide)

end DuckOs

import DuckOs.Proof.Virtqueue
import Mathlib.Data.List.Perm.Basic
import Mathlib.Tactic

/-!
# The free list

The free descriptors of a queue are chained, and only `num_free` tells where the chain ends. Whatever
callers allocate, write and free, the chain and what they hold are together all descriptors of the queue.
-/

namespace DuckOs

/-! ### Allocating and freeing -/

section FreeList

variable {queue : Virtqueue}

theorem virtqFreeWalk_congr {desc other : Nat → VirtqDesc} :
    ∀ {count head : Nat}, (∀ index ∈ virtqFreeWalk desc count head,
        (other index).next = (desc index).next) →
      virtqFreeWalk other count head = virtqFreeWalk desc count head := by
  intro count
  induction count with
  | zero => exact fun _ => rfl
  | succ count ih =>
      intro head hsame
      simp only [virtqFreeWalk, List.mem_cons, forall_eq_or_imp] at hsame ⊢
      rw [hsame.1, ih hsame.2]

theorem length_virtqFreeWalk (desc : Nat → VirtqDesc) (count head : Nat) :
    (virtqFreeWalk desc count head).length = count := by
  induction count generalizing head with
  | zero => rfl
  | succ count ih => rw [virtqFreeWalk, List.length_cons, ih]

theorem Virtqueue.length_freeList (queue : Virtqueue) : queue.freeList.length = queue.numFree :=
  length_virtqFreeWalk _ _ _

theorem Virtqueue.freeList_congr {other : Virtqueue} (hfree : other.numFree = queue.numFree)
    (hhead : other.freeHead = queue.freeHead)
    (hdesc : ∀ index ∈ queue.freeList, other.desc index = queue.desc index) :
    other.freeList = queue.freeList := by
  unfold freeList
  rw [hfree, hhead]
  exact virtqFreeWalk_congr fun index hmem => by rw [hdesc index hmem]

/-- What does not concern descriptors. -/
structure Virtqueue.SameRings (queue other : Virtqueue) : Prop where
  size_eq : other.size = queue.size
  availIdx_eq : other.availIdx = queue.availIdx
  availRing_eq : other.availRing = queue.availRing
  usedIdx_eq : other.usedIdx = queue.usedIdx
  usedRing_eq : other.usedRing = queue.usedRing
  lastUsedIdx_eq : other.lastUsedIdx = queue.lastUsedIdx

theorem Virtqueue.SameRings.refl (queue : Virtqueue) : queue.SameRings queue :=
  ⟨rfl, rfl, rfl, rfl, rfl, rfl⟩

theorem Virtqueue.SameRings.trans {other last : Virtqueue} (hfirst : queue.SameRings other)
    (hsecond : other.SameRings last) : queue.SameRings last :=
  ⟨hsecond.1.trans hfirst.1, hsecond.2.trans hfirst.2, hsecond.3.trans hfirst.3,
    hsecond.4.trans hfirst.4, hsecond.5.trans hfirst.5, hsecond.6.trans hfirst.6⟩

theorem VirtqRelated.sameRings {size : Nat} {device : VirtqDevice} {fifos : VirtqFifos}
    {other : Virtqueue} (hrelated : VirtqRelated size queue device fifos)
    (hsame : queue.SameRings other) : VirtqRelated size other device fifos := by
  refine ⟨hsame.size_eq.trans hrelated.size_eq, ?_, hrelated.held_eq, ?_, ?_, hrelated.outstanding_le⟩
  · rw [hsame.availIdx_eq, hsame.availRing_eq]
    exact hrelated.avail
  · rw [hsame.usedIdx_eq]
    exact hrelated.usedIdx_eq
  · rw [hsame.usedIdx_eq, hsame.usedRing_eq, hsame.lastUsedIdx_eq]
    exact hrelated.used

/-- The first free descriptor is taken from the list. -/
structure Virtqueue.Takes (queue : Virtqueue) (index : Nat) (other : Virtqueue) : Prop where
  freeList_eq : queue.freeList = index :: other.freeList
  desc_eq : ∀ target, target ≠ index → other.desc target = queue.desc target
  rings : queue.SameRings other

theorem virtqueueAllocDesc_nil (hempty : queue.freeList = []) :
    virtqueueAllocDesc queue = (none, queue) := by
  have hzero : queue.numFree = 0 := by
    rw [← queue.length_freeList, hempty, List.length_nil]
  rw [virtqueueAllocDesc, if_pos hzero]

theorem virtqueueAllocDesc_cons {index : Nat} {rest : List Nat}
    (hlist : queue.freeList = index :: rest) (hnodup : queue.freeList.Nodup) :
    (virtqueueAllocDesc queue).1 = some index
      ∧ queue.Takes index (virtqueueAllocDesc queue).2 := by
  have hcount : queue.numFree = rest.length + 1 := by
    rw [← queue.length_freeList, hlist, List.length_cons]
  generalize rest.length = count at hcount
  have hne : queue.numFree ≠ 0 := by omega
  have hwalk := hlist
  rw [Virtqueue.freeList, hcount, virtqFreeWalk, List.cons.injEq] at hwalk
  obtain ⟨hhead, hrest⟩ := hwalk
  rw [virtqueueAllocDesc, if_neg hne]
  refine ⟨by rw [hhead], ?_, ?_, ⟨rfl, rfl, rfl, rfl, rfl, rfl⟩⟩
  · rw [hlist, Virtqueue.freeList, List.cons.injEq]
    refine ⟨rfl, ?_⟩
    dsimp only
    rw [show queue.numFree - 1 = count by omega, ← hrest]
    refine (virtqFreeWalk_congr fun target hmem => ?_).symm
    rw [hlist, List.nodup_cons, ← hrest] at hnodup
    have hother : target ≠ queue.freeHead := by
      rintro rfl
      rw [hhead] at hmem
      exact hnodup.1 (hhead ▸ hmem)
    rw [Function.update_of_ne hother]
  · intro target hother
    rw [← hhead] at hother
    exact Function.update_of_ne hother _ _

theorem virtqueueFreeDesc_takes {index : Nat} (hfresh : index ∉ queue.freeList)
    (hcount : queue.numFree + 1 < 2 ^ 16) : (virtqueueFreeDesc queue index).Takes index queue := by
  refine ⟨?_, ?_, ⟨rfl, rfl, rfl, rfl, rfl, rfl⟩⟩
  · rw [Virtqueue.freeList]
    simp only [virtqueueFreeDesc]
    rw [Nat.mod_eq_of_lt hcount, virtqFreeWalk, List.cons.injEq]
    refine ⟨rfl, ?_⟩
    rw [Function.update_self]
    apply virtqFreeWalk_congr
    intro target hmem
    have hother : target ≠ index := by
      rintro rfl
      exact hfresh hmem
    rw [Function.update_of_ne hother]
  · intro target hother
    exact (Function.update_of_ne hother _ _).symm

theorem virtqueueFreeDesc_freeList {index : Nat} {rest : List Nat} (hlist : queue.freeList = rest)
    (hfresh : index ∉ rest) (hcount : rest.length + 1 < 2 ^ 16) :
    (virtqueueFreeDesc queue index).freeList = index :: rest := by
  subst hlist
  rw [queue.length_freeList] at hcount
  exact (virtqueueFreeDesc_takes hfresh hcount).freeList_eq

/-- The free list, the descriptors in use and the rings are as they were. -/
structure Virtqueue.SameFree (queue other : Virtqueue) : Prop where
  freeList_eq : other.freeList = queue.freeList
  desc_eq : ∀ target ∉ queue.freeList, other.desc target = queue.desc target
  rings : queue.SameRings other

theorem Virtqueue.SameFree.refl (queue : Virtqueue) : queue.SameFree queue :=
  ⟨rfl, fun _ _ => rfl, .refl queue⟩

/-- A descriptor that was taken is given back. -/
theorem Virtqueue.Takes.giveBack {index : Nat} {taken other : Virtqueue}
    (htakes : queue.Takes index taken) (hnodup : queue.freeList.Nodup)
    (hsame : taken.SameFree other) (hcount : queue.numFree < 2 ^ 16) :
    queue.SameFree (virtqueueFreeDesc other index) := by
  rw [htakes.freeList_eq, List.nodup_cons] at hnodup
  have hfree : other.numFree + 1 = queue.numFree := by
    rw [← other.length_freeList, ← queue.length_freeList, hsame.freeList_eq, htakes.freeList_eq,
      List.length_cons]
  have hback : (virtqueueFreeDesc other index).Takes index other := by
    apply virtqueueFreeDesc_takes
    · rw [hsame.freeList_eq]
      exact hnodup.1
    · omega
  refine ⟨?_, ?_, htakes.rings.trans (hsame.rings.trans ⟨rfl, rfl, rfl, rfl, rfl, rfl⟩)⟩
  · rw [hback.freeList_eq, hsame.freeList_eq, htakes.freeList_eq]
  · intro target hused
    rw [htakes.freeList_eq, List.mem_cons, not_or] at hused
    rw [← hback.desc_eq target hused.1, hsame.desc_eq target hused.2, htakes.desc_eq target hused.1]

end FreeList

/-! ### Chaining -/

section Chain

variable {size : Nat}

/-- The loop does not come back to the descriptors before its head. -/
theorem virtqueueChainLoop_before :
    ∀ (fuel head : Nat) (desc : Nat → VirtqDesc) {index : Nat}, index < head →
      virtqueueChainLoop size fuel head desc index = desc index := by
  intro fuel
  induction fuel with
  | zero =>
      intro head desc index hindex
      exact Function.update_of_ne (Nat.ne_of_lt hindex) _ _
  | succ fuel ih =>
      intro head desc index hindex
      rw [virtqueueChainLoop]
      split
      · rw [ih _ _ (by omega), Function.update_of_ne (Nat.ne_of_lt hindex)]
      · exact Function.update_of_ne (Nat.ne_of_lt hindex) _ _

theorem virtqueueChainLoop_next (hsize : 0 < size) (hlt : size < 2 ^ 16) :
    ∀ (fuel head : Nat) (desc : Nat → VirtqDesc), head < size → size ≤ head + fuel + 1 →
      ∀ index, head ≤ index → index + 1 < size →
        (virtqueueChainLoop size fuel head desc index).next = index + 1 := by
  intro fuel
  induction fuel with
  | zero =>
      intro head desc hhead hfuel index hindex hlast
      omega
  | succ fuel ih =>
      intro head desc hhead hfuel index hindex hlast
      rw [virtqueueChainLoop, Nat.mod_eq_of_lt (by omega), if_pos (by omega)]
      rcases Nat.eq_or_lt_of_le hindex with rfl | hbehind
      · rw [virtqueueChainLoop_before fuel _ _ (Nat.lt_succ_self _), Function.update_self]
      · exact ih _ _ (by omega) (by omega) index hbehind hlast

theorem virtqFreeWalk_range' {desc : Nat → VirtqDesc} {stop : Nat}
    (hnext : ∀ index, index + 1 < stop → (desc index).next = index + 1) :
    ∀ count head, head + count ≤ stop → virtqFreeWalk desc count head = List.range' head count := by
  intro count
  induction count with
  | zero => exact fun _ _ => rfl
  | succ count ih =>
      intro head hstop
      rw [virtqFreeWalk, List.range'_succ]
      cases count with
      | zero => rfl
      | succ count => rw [hnext head (by omega), ih (head + 1) (by omega)]

/-- At first all descriptors are free, in order. -/
theorem virtqueueInit_freeList {page : Nat} {queue : Virtqueue}
    (hinit : virtqueueInit size page = some queue) : queue.freeList = List.range size := by
  obtain ⟨hsize, -, -⟩ := virtqueueInit_fits hinit
  have hlt := virtqueueInit_size_lt hinit
  rw [virtqueueInit_eq hinit, Virtqueue.freeList, List.range_eq_range']
  refine virtqFreeWalk_range' (fun index hindex => ?_) size 0 (Nat.zero_add size).le
  exact virtqueueChainLoop_next hsize hlt size 0 _ hsize (by omega) index (Nat.zero_le _) hindex

end Chain

/-! ### Runs -/

namespace VirtqUse

section Step

variable {size : Nat} {use : VirtqUse}

/-- The chain and what is allocated, each descriptor once. -/
def Split (size : Nat) (use : VirtqUse) : Prop :=
  (use.queue.freeList ++ use.allocated).Perm (List.range size)

theorem Split.nodup (hsplit : use.Split size) : (use.queue.freeList ++ use.allocated).Nodup :=
  hsplit.nodup_iff.mpr List.nodup_range

theorem Split.notMem_freeList (hsplit : use.Split size) {index : Nat} (hmem : index ∈ use.allocated) :
    index ∉ use.queue.freeList :=
  fun hfree => (List.nodup_append.mp hsplit.nodup).2.2 index hfree index hmem rfl

theorem Split.length_eq (hsplit : use.Split size) :
    use.queue.freeList.length + use.allocated.length = size := by
  rw [← List.length_append, List.Perm.length_eq hsplit, List.length_range]

theorem Split.alloc (hsplit : use.Split size) : (use.next .alloc).Split size := by
  have hnodup : use.queue.freeList.Nodup := (List.nodup_append.mp hsplit.nodup).1
  unfold next
  cases hlist : use.queue.freeList with
  | nil =>
      rw [virtqueueAllocDesc_nil hlist]
      exact hsplit
  | cons index rest =>
      obtain ⟨hindex, htakes⟩ := virtqueueAllocDesc_cons hlist hnodup
      dsimp only
      rw [hindex]
      refine List.Perm.trans ?_ hsplit
      rw [htakes.freeList_eq]
      exact List.perm_middle

theorem Split.free (hsplit : use.Split size) (hlt : size < 2 ^ 16) {index : Nat}
    (hmem : index ∈ use.allocated) : (use.next (.free index)).Split size := by
  have hlength := hsplit.length_eq
  have hpos := List.length_pos_of_mem hmem
  have hlist := @virtqueueFreeDesc_freeList use.queue index _ rfl (hsplit.notMem_freeList hmem)
    (by omega)
  refine List.Perm.trans ?_ hsplit
  unfold next
  dsimp only
  rw [hlist]
  have hback : (index :: use.allocated.erase index).Perm use.allocated :=
    (List.perm_cons_erase hmem).symm
  exact List.perm_middle.symm.trans (hback.append_left _)

theorem Split.write (hsplit : use.Split size) {index : Nat} (hmem : index ∈ use.allocated)
    (desc : VirtqDesc) : (use.next (.write index desc)).Split size := by
  have hlist : (use.next (.write index desc)).queue.freeList = use.queue.freeList := by
    refine Virtqueue.freeList_congr rfl rfl fun other hother => ?_
    refine Function.update_of_ne ?_ _ _
    rintro rfl
    exact hsplit.notMem_freeList hmem hother
  unfold Split
  rw [hlist]
  exact hsplit

theorem Split.next (hsplit : use.Split size) (hlt : size < 2 ^ 16) {op : VirtqUseOp}
    (hallowed : use.Allowed op) : (use.next op).Split size := by
  cases op with
  | alloc => exact hsplit.alloc
  | free index => exact hsplit.free hlt hallowed
  | write index desc => exact hsplit.write hallowed desc

/-- What the chain is worth to callers: its descriptors are distinct, exist and belong to nobody, all
others are allocated, and `virtqueue_alloc_desc` fails when there are no others only. -/
structure Sound (size : Nat) (use : VirtqUse) : Prop where
  length_eq : use.queue.freeList.length = use.queue.numFree
  nodup : use.queue.freeList.Nodup
  free_lt : ∀ index ∈ use.queue.freeList, index < size ∧ index ∉ use.allocated
  allocated_nodup : use.allocated.Nodup
  mem_iff : ∀ index, index ∈ use.queue.freeList ∨ index ∈ use.allocated ↔ index < size
  alloc_none_iff : (virtqueueAllocDesc use.queue).1 = none ↔ ∀ index < size, index ∈ use.allocated
  alloc_fresh : ∀ index, (virtqueueAllocDesc use.queue).1 = some index →
    index < size ∧ index ∉ use.allocated

theorem Split.sound (hsplit : use.Split size) : use.Sound size := by
  obtain ⟨hnodup, hallocated, -⟩ := List.nodup_append.mp hsplit.nodup
  have hmem : ∀ index, index ∈ use.queue.freeList ∨ index ∈ use.allocated ↔ index < size := by
    intro index
    rw [← List.mem_append, hsplit.mem_iff, List.mem_range]
  have hfree : ∀ index ∈ use.queue.freeList, index < size ∧ index ∉ use.allocated :=
    fun index hindex => ⟨(hmem index).mp (Or.inl hindex),
      fun hother => hsplit.notMem_freeList hother hindex⟩
  refine ⟨use.queue.length_freeList, hnodup, hfree, hallocated, hmem, ?_, ?_⟩
  · cases hlist : use.queue.freeList with
    | nil =>
        rw [virtqueueAllocDesc_nil hlist]
        refine iff_of_true rfl fun index hindex => ((hmem index).mpr hindex).resolve_left ?_
        rw [hlist]
        exact List.not_mem_nil
    | cons index rest =>
        have hindex : index ∈ use.queue.freeList := hlist ▸ List.mem_cons_self
        rw [(virtqueueAllocDesc_cons hlist hnodup).1]
        exact iff_of_false (Option.some_ne_none _)
          fun hall => (hfree index hindex).2 (hall index (hfree index hindex).1)
  · intro index halloc
    cases hlist : use.queue.freeList with
    | nil =>
        rw [virtqueueAllocDesc_nil hlist] at halloc
        cases halloc
    | cons first rest =>
        rw [(virtqueueAllocDesc_cons hlist hnodup).1] at halloc
        obtain rfl := Option.some.inj halloc
        exact hfree first (hlist ▸ List.mem_cons_self)

end Step

end VirtqUse

/-- For every size that `virtqueue_init` accepts, and all calls of `virtqueue_alloc_desc` and
`virtqueue_free_desc` between which callers write to what they have allocated. -/
theorem virtqueue_descriptors_sound (size page : Nat) (queue : Virtqueue)
    (hinit : virtqueueInit size page = some queue) (ops : List VirtqUseOp)
    (hallowed : Machine.EveryStep VirtqUse.next VirtqUse.Allowed ⟨queue, []⟩ ops) :
    Machine.Throughout VirtqUse.next (VirtqUse.Sound size) ⟨queue, []⟩ ops := by
  have hlt : size < 2 ^ 16 := virtqueueInit_size_lt hinit
  have hstart : VirtqUse.Split size ⟨queue, []⟩ := by
    unfold VirtqUse.Split
    rw [List.append_nil]
    exact .of_eq (virtqueueInit_freeList hinit)
  have hruns : Machine.Throughout VirtqUse.next (VirtqUse.Split size) ⟨queue, []⟩ ops :=
    hallowed.throughout (fun _ _ hsplit hop => hsplit.next hlt hop) hstart
  exact hruns.mono fun _ hsplit => hsplit.sound

/-- A queue of two descriptors that is emptied, written to and filled again. -/
theorem virtqueue_descriptors_sound_two :
    ∃ queue, virtqueueInit 2 0x1000 = some queue
      ∧ Machine.Throughout VirtqUse.next (VirtqUse.Sound 2) ⟨queue, []⟩
        [.alloc, .alloc, .write 0 ⟨0x3000, 16, 1, 7⟩, .alloc, .free 0, .free 1, .alloc] := by
  refine ⟨_, rfl, ?_⟩
  exact virtqueue_descriptors_sound 2 0x1000 _ rfl _ (by decide)

end DuckOs

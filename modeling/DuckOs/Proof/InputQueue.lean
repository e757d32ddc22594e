import DuckOs.Input.Queue
import DuckOs.Lib.Ring

/-!
# The input queue as a queue

Any number of pushes and pops, in any order, from `input_init` on.
-/

namespace DuckOs

/-- The slots from the head to the tail hold `events`. -/
structure InputQueue.Holds (queue : InputQueue) (events : List InputEvent) : Prop where
  ring : Ring.Holds inputQueueCapacity inputQueueCapacity queue.slots queue.head queue.tail events
  length_le : events.length ≤ inputQueueCapacity - 1

namespace InputQueue.Holds

variable {queue : InputQueue} {events : List InputEvent}

theorem length_lt (hholds : queue.Holds events) : events.length < inputQueueCapacity :=
  Nat.lt_of_le_of_lt hholds.length_le (by decide)

theorem tail_lt (hholds : queue.Holds events) : queue.tail < inputQueueCapacity := by
  rw [hholds.ring.producer_eq]
  exact Nat.mod_lt _ (by decide)

theorem isEmpty_iff (hholds : queue.Holds events) : inputQueueIsEmpty queue = true ↔ events = [] := by
  rw [inputQueueIsEmpty, decide_eq_true_eq]
  exact hholds.ring.eq_iff hholds.length_lt

theorem hasEvent_iff (hholds : queue.Holds events) : inputHasEvent queue = true ↔ events ≠ [] := by
  rw [inputHasEvent, Bool.not_eq_true', Bool.eq_false_iff]
  exact hholds.isEmpty_iff.not

/-- The tail is one slot behind the head exactly when one slot is left. -/
theorem isFull_iff (hholds : queue.Holds events) :
    inputQueueIsFull queue = true ↔ events.length = inputQueueCapacity - 1 := by
  have hhead := hholds.ring.consumer_lt
  have hlength := hholds.length_le
  rw [inputQueueIsFull, decide_eq_true_eq, hholds.ring.producer_eq, Nat.mod_add_mod]
  simp only [inputQueueCapacity] at *
  omega

/-- A push, first into a queue that has a slot to spare. -/
theorem push (hholds : queue.Holds events) (event : InputEvent) :
    (inputPushEvent queue event).Holds
      (DropQueue.kept (inputQueueCapacity - 1) events ++ [event]) := by
  have htail : queue.tail % inputQueueCapacity = queue.tail := Nat.mod_eq_of_lt hholds.tail_lt
  have hpushed := hholds.ring.push (Nat.dvd_refl _) hholds.length_lt event
  rw [htail] at hpushed
  have hlength := hholds.length_le
  unfold inputPushEvent
  by_cases hfull : inputQueueIsFull queue = true
  · have hall := hholds.isFull_iff.mp hfull
    rw [if_pos hfull, DropQueue.kept_of_full hall]
    cases events with
    | nil => exact absurd hall (by decide)
    | cons first rest =>
        refine ⟨hpushed.pop, ?_⟩
        rw [List.length_cons] at hlength
        rwa [List.tail_cons, List.length_append, List.length_singleton]
  · have hroom : events.length < inputQueueCapacity - 1 :=
      Nat.lt_of_le_of_ne hlength (hholds.isFull_iff.not.mp hfull)
    rw [if_neg hfull, DropQueue.kept_of_lt hroom]
    refine ⟨hpushed, ?_⟩
    rwa [List.length_append, List.length_singleton]

theorem pop (hholds : queue.Holds events) :
    (inputPopEvent queue).1 = events.head? ∧ (inputPopEvent queue).2.Holds events.tail := by
  unfold inputPopEvent
  cases events with
  | nil =>
      rw [if_pos (hholds.isEmpty_iff.mpr rfl)]
      exact ⟨rfl, hholds⟩
  | cons first rest =>
      have hhead : queue.head % inputQueueCapacity = queue.head :=
        Nat.mod_eq_of_lt hholds.ring.consumer_lt
      have hfront := hholds.ring.front
      rw [hhead] at hfront
      rw [if_neg (hholds.isEmpty_iff.not.mpr (List.cons_ne_nil _ _)), hfront]
      exact ⟨rfl, hholds.ring.pop, Nat.le_of_succ_le hholds.length_le⟩

theorem step (hholds : queue.Holds events) (op : DropQueue.Op InputEvent) :
    (inputQueueStep queue op).1 = (DropQueue.step (inputQueueCapacity - 1) events op).1
      ∧ (inputQueueStep queue op).2.Holds (DropQueue.step (inputQueueCapacity - 1) events op).2 := by
  cases op with
  | push event => exact ⟨rfl, hholds.push event⟩
  | pop => exact hholds.pop

end InputQueue.Holds

theorem inputQueueInit_holds (slots : Nat → InputEvent) : (inputQueueInit slots).Holds [] :=
  ⟨Ring.holds_nil (by decide) slots, Nat.zero_le _⟩

/-- The queue is one of at most 63 events that drops its oldest: with `input_init` before them, pushes and
pops answer as on that queue, whose events leave it in the order in which they were pushed, each popped or
dropped once or still there. -/
theorem input_queue_is_fifo (slots : Nat → InputEvent) (ops : List (DropQueue.Op InputEvent)) :
    let run := Machine.run inputQueueStep (inputQueueInit slots) ops
    let fifo := Machine.run (DropQueue.step 63) [] ops
    let gone := DropQueue.gone 63 [] ops
    run.1 = fifo.1
      ∧ run.1.filterMap id = (gone.filter Prod.fst).map Prod.snd
      ∧ gone.map Prod.snd ++ fifo.2 = DropQueue.pushed ops
      ∧ fifo.2.length ≤ 63
      ∧ (inputHasEvent run.2 = true ↔ fifo.2 ≠ [])
      ∧ run.2.head < 64 ∧ run.2.tail < 64 := by
  intro run fifo gone
  obtain ⟨houtputs, hlast⟩ := @Machine.run_simulation _ _ _ _ inputQueueStep (DropQueue.step 63)
    (fun _ => InputQueue.Holds) (fun op _ _ _ hholds => hholds.step op) ops _ _
    (inputQueueInit_holds slots)
  refine ⟨houtputs, ?_, DropQueue.gone_append ops [], hlast.length_le, hlast.hasEvent_iff,
    hlast.ring.consumer_lt, hlast.tail_lt⟩
  calc run.1.filterMap id
      = fifo.1.filterMap id := by rw [houtputs]
    _ = (gone.filter Prod.fst).map Prod.snd := DropQueue.pops_eq_gone ops []

end DuckOs

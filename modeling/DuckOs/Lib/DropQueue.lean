import DuckOs.Lib.Machine

/-!
# Queues that drop their oldest entry

A queue of bounded length. A push that finds it full drops the entry at the front, so it never fails.
What leaves the queue, by a pop or because it is dropped, leaves it in the order in which it came.
-/

namespace DropQueue

variable {α : Type}

inductive Op (α : Type) where
  | push (value : α)
  | pop

def dropped (bound : Nat) (queue : List α) : List α := queue.take (queue.length + 1 - bound)

/-- What is kept behind a push. -/
def kept (bound : Nat) (queue : List α) : List α := queue.drop (queue.length + 1 - bound)

/-- What is left of entries that are only pushed. -/
def last (bound : Nat) (entries : List α) : List α := entries.drop (entries.length - bound)

/-- A pop answers with the entry that it removes. -/
def step (bound : Nat) (queue : List α) : Op α → Option α × List α
  | .push value => (none, kept bound queue ++ [value])
  | .pop => (queue.head?, queue.tail)

/-- What an operation removes, and whether it was asked for. -/
def removed (bound : Nat) (queue : List α) : Op α → List (Bool × α)
  | .push _ => (dropped bound queue).map (false, ·)
  | .pop => queue.head?.toList.map (true, ·)

/-- Everything that leaves the queue, in order. -/
def gone (bound : Nat) : List α → List (Op α) → List (Bool × α)
  | _, [] => []
  | queue, op :: rest => removed bound queue op ++ gone bound (step bound queue op).2 rest

def pushed (ops : List (Op α)) : List α :=
  ops.filterMap fun op =>
    match op with
    | .push value => some value
    | .pop => none

section Push

variable {bound : Nat} {queue : List α}

theorem kept_of_lt (hroom : queue.length < bound) : kept bound queue = queue := by
  rw [kept, Nat.sub_eq_zero_of_le hroom, List.drop_zero]

theorem kept_of_full (hfull : queue.length = bound) : kept bound queue = queue.tail := by
  rw [kept, hfull, Nat.add_sub_cancel_left, List.drop_one]

theorem dropped_append_kept (bound : Nat) (queue : List α) :
    dropped bound queue ++ kept bound queue = queue :=
  List.take_append_drop _ _

theorem last_append (hpos : 0 < bound) (entries : List α) (value : α) :
    last bound (entries ++ [value]) = kept bound (last bound entries) ++ [value] := by
  have hcount : (entries ++ [value]).length - bound ≤ entries.length := by
    rw [List.length_append, List.length_singleton]
    omega
  rw [last, List.drop_append_of_le_length hcount, kept, last, List.drop_drop]
  congr 2
  rw [List.length_append, List.length_singleton, List.length_drop]
  omega

theorem length_last (entries : List α) : (last bound entries).length = min bound entries.length := by
  rw [last, List.length_drop]
  omega

end Push

section Runs

variable {bound : Nat}

/-- What has left the queue and what is in it are what has been pushed. -/
theorem gone_append (ops : List (Op α)) : ∀ queue : List α,
    (gone bound queue ops).map Prod.snd ++ (Machine.run (step bound) queue ops).2
      = queue ++ pushed ops := by
  induction ops with
  | nil => exact fun queue => (List.append_nil queue).symm
  | cons op rest ih =>
      intro queue
      rw [gone, List.map_append, List.append_assoc, Machine.run_cons, ih]
      cases op with
      | push value =>
          have hdropped : (removed bound queue (.push value)).map Prod.snd = dropped bound queue := by
            rw [removed, List.map_map]
            exact List.map_id _
          calc (removed bound queue (.push value)).map Prod.snd
                ++ (kept bound queue ++ [value] ++ pushed rest)
              = dropped bound queue ++ kept bound queue ++ (value :: pushed rest) := by
                rw [hdropped, List.append_assoc, List.append_assoc]
                rfl
            _ = queue ++ pushed (.push value :: rest) := by
                rw [dropped_append_kept]
                rfl
      | pop =>
          cases queue with
          | nil => rfl
          | cons first others => rfl

/-- The pops answer with what they remove. -/
theorem pops_eq_gone (ops : List (Op α)) : ∀ queue : List α,
    (Machine.run (step bound) queue ops).1.filterMap id
      = ((gone bound queue ops).filter Prod.fst).map Prod.snd := by
  induction ops with
  | nil => exact fun _ => rfl
  | cons op rest ih =>
      intro queue
      rw [gone, List.filter_append, List.map_append, Machine.run_cons, ← ih]
      cases op with
      | push value =>
          have hnone : (removed bound queue (.push value)).filter Prod.fst = [] := by
            rw [removed, List.filter_eq_nil_iff]
            intro entry hentry
            obtain ⟨_, -, rfl⟩ := List.mem_map.mp hentry
            exact Bool.false_ne_true
          rw [hnone]
          rfl
      | pop =>
          cases queue with
          | nil => rfl
          | cons first others => rfl

end Runs

end DropQueue

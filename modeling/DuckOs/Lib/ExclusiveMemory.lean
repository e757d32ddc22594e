import Mathlib.Logic.Function.Basic

/-!
# Memory with exclusive accesses

A processor that has loaded a cell with a reservation may store to it as long as nobody has stored to it in
between. Reservations may be lost at any time.
-/

structure ExclusiveMemory (κ α ν : Type) where
  cells : α → ν
  reserved : κ → Option α

namespace ExclusiveMemory

variable {κ α ν : Type} [DecidableEq κ] [DecidableEq α] (memory : ExclusiveMemory κ α ν) (cpu : κ)
  (cell : α) (value : ν)

def loadExclusive : ν × ExclusiveMemory κ α ν :=
  (memory.cells cell, { memory with reserved := Function.update memory.reserved cpu (some cell) })

def lose : ExclusiveMemory κ α ν :=
  { memory with reserved := Function.update memory.reserved cpu none }

omit [DecidableEq κ] in
/-- A store takes away the reservations of its cell. -/
def store : ExclusiveMemory κ α ν :=
  ⟨Function.update memory.cells cell value,
    fun other => if memory.reserved other = some cell then none else memory.reserved other⟩

def storeExclusive : Bool × ExclusiveMemory κ α ν :=
  if memory.reserved cpu = some cell then (true, (memory.store cell value).lose cpu)
  else (false, memory.lose cpu)

/-- A reserved cell holds what its processor has seen in it. -/
def Reads (seen : κ → ν) : Prop :=
  ∀ cpu cell, memory.reserved cpu = some cell → memory.cells cell = seen cpu

variable {memory} {seen : κ → ν}

omit [DecidableEq κ] [DecidableEq α] in
theorem reads_of_none (hnone : ∀ cpu, memory.reserved cpu = none) (seen : κ → ν) : memory.Reads seen := by
  intro cpu cell hreserved
  rw [hnone cpu] at hreserved
  exact absurd hreserved.symm (Option.some_ne_none cell)

omit [DecidableEq α] in
theorem Reads.loadExclusive (hreads : memory.Reads seen) :
    (memory.loadExclusive cpu cell).2.Reads (Function.update seen cpu (memory.cells cell)) := by
  intro other target hreserved
  change Function.update memory.reserved cpu (some cell) other = some target at hreserved
  by_cases heq : other = cpu
  · rw [heq, Function.update_self, Option.some.injEq] at hreserved
    rw [heq, Function.update_self, hreserved]
    rfl
  · rw [Function.update_of_ne heq] at hreserved ⊢
    exact hreads other target hreserved

omit [DecidableEq α] in
theorem Reads.lose (hreads : memory.Reads seen) : (memory.lose cpu).Reads seen := by
  intro other target hreserved
  change Function.update memory.reserved cpu none other = some target at hreserved
  by_cases heq : other = cpu
  · rw [heq, Function.update_self] at hreserved
    exact absurd hreserved.symm (Option.some_ne_none target)
  · rw [Function.update_of_ne heq] at hreserved
    exact hreads other target hreserved

omit [DecidableEq κ] in
theorem Reads.store (hreads : memory.Reads seen) : (memory.store cell value).Reads seen := by
  intro other target hreserved
  change (if memory.reserved other = some cell then none else memory.reserved other) = some target
    at hreserved
  split at hreserved
  case isTrue => exact absurd hreserved.symm (Option.some_ne_none target)
  case isFalse hnot =>
    have hne : target ≠ cell := fun heq => hnot (heq ▸ hreserved)
    exact (Function.update_of_ne hne _ _).trans (hreads other target hreserved)

/-- A store that succeeds finds the cell as it has been seen; one that fails changes no cell. -/
theorem Reads.storeExclusive (hreads : memory.Reads seen) :
    (memory.storeExclusive cpu cell value).2.Reads seen
      ∧ ((memory.storeExclusive cpu cell value).1 = true →
        memory.cells cell = seen cpu
          ∧ (memory.storeExclusive cpu cell value).2.cells = Function.update memory.cells cell value)
      ∧ ((memory.storeExclusive cpu cell value).1 = false →
        (memory.storeExclusive cpu cell value).2.cells = memory.cells) := by
  unfold ExclusiveMemory.storeExclusive
  split
  case isTrue hreserved =>
    exact ⟨(hreads.store cell value).lose cpu, fun _ => ⟨hreads cpu cell hreserved, rfl⟩,
      fun hfalse => absurd hfalse.symm Bool.false_ne_true⟩
  case isFalse =>
    exact ⟨hreads.lose cpu, fun htrue => absurd htrue Bool.false_ne_true, fun _ => rfl⟩

end ExclusiveMemory

import Mathlib.Data.List.Basic
import Mathlib.Logic.Function.Basic

/-!
# Rings with free-running counters

Producer and consumer share a ring of `size` cells and count modulo `modulus`. If `size` divides the
modulus, reducing a counter to a cell survives the wrap-around, and the cells between the two counters
are a queue. Any number of pushes and pops may have gone before.
-/

namespace Ring

variable {α : Type}

/-- From the consumer's counter to the producer's, the cells hold `list`. -/
structure Holds (size modulus : Nat) (ring : Nat → α) (consumer producer : Nat) (list : List α) :
    Prop where
  consumer_lt : consumer < modulus
  producer_eq : producer = (consumer + list.length) % modulus
  cell_eq : ∀ i (h : i < list.length), ring ((consumer + i) % modulus % size) = list[i]

section Cells

variable {size modulus : Nat} {ring : Nat → α} {consumer producer : Nat} {list : List α} {value : α}

theorem holds_nil (hpos : 0 < modulus) (ring : Nat → α) : Holds size modulus ring 0 0 [] where
  consumer_lt := hpos
  producer_eq := (Nat.zero_mod _).symm
  cell_eq := fun _ h => absurd h (Nat.not_lt_zero _)

/-- Equal counters mean an empty queue, not a full one. -/
theorem Holds.eq_iff (hholds : Holds size modulus ring consumer producer list)
    (hlength : list.length < modulus) : consumer = producer ↔ list = [] := by
  have hlt := hholds.consumer_lt
  rw [hholds.producer_eq]
  constructor
  · intro heq
    rw [← List.length_eq_zero_iff]
    by_cases hwrap : consumer + list.length < modulus
    · rw [Nat.mod_eq_of_lt hwrap] at heq
      omega
    · rw [Nat.mod_eq_sub_mod (Nat.le_of_not_lt hwrap), Nat.mod_eq_of_lt (by omega)] at heq
      omega
  · rintro rfl
    rw [List.length_nil, Nat.add_zero, Nat.mod_eq_of_lt hlt]

/-- The distance of the counters is the length of the queue. -/
theorem Holds.count_eq (hholds : Holds size modulus ring consumer producer list)
    (hlength : list.length < modulus) :
    (producer + modulus - consumer) % modulus = list.length := by
  have hlt := hholds.consumer_lt
  rw [hholds.producer_eq]
  by_cases hwrap : consumer + list.length < modulus
  · rw [Nat.mod_eq_of_lt hwrap,
      show consumer + list.length + modulus - consumer = list.length + modulus by omega,
      Nat.add_mod_right, Nat.mod_eq_of_lt hlength]
  · have hless : consumer + list.length - modulus < modulus := by omega
    rw [Nat.mod_eq_sub_mod (Nat.le_of_not_lt hwrap), Nat.mod_eq_of_lt hless,
      show consumer + list.length - modulus + modulus - consumer = list.length by omega,
      Nat.mod_eq_of_lt hlength]

/-- Cells less than a ring apart are different. -/
theorem cell_ne (hdvd : size ∣ modulus) {first second : Nat} (hlt : first < second)
    (hnear : second < first + size) :
    (consumer + first) % modulus % size ≠ (consumer + second) % modulus % size := by
  rw [Nat.mod_mod_of_dvd _ hdvd, Nat.mod_mod_of_dvd _ hdvd]
  intro heq
  have hsub : (consumer + second - (consumer + first)) % size = 0 := Nat.sub_mod_eq_zero_of_mod_eq heq.symm
  rw [Nat.add_sub_add_left, Nat.mod_eq_of_lt (by omega)] at hsub
  omega

theorem Holds.push (hholds : Holds size modulus ring consumer producer list)
    (hdvd : size ∣ modulus) (hroom : list.length < size) (value : α) :
    Holds size modulus (Function.update ring (producer % size) value) consumer
      ((producer + 1) % modulus) (list ++ [value]) where
  consumer_lt := hholds.consumer_lt
  producer_eq := by
    rw [hholds.producer_eq, Nat.mod_add_mod, List.length_append, List.length_singleton,
      Nat.add_assoc]
  cell_eq := by
    intro i hi
    rw [hholds.producer_eq]
    rw [List.length_append, List.length_singleton] at hi
    by_cases hlast : i = list.length
    · subst hlast
      rw [Function.update_self, List.getElem_append_right (Nat.le_refl _)]
      simp
    · have hlt : i < list.length := by omega
      rw [Function.update_of_ne (cell_ne hdvd hlt (by omega)), hholds.cell_eq i hlt,
        List.getElem_append_left hlt]

theorem Holds.front (hholds : Holds size modulus ring consumer producer (value :: list)) :
    ring (consumer % size) = value := by
  have hcell := hholds.cell_eq 0 (Nat.zero_lt_succ _)
  rwa [Nat.add_zero, Nat.mod_eq_of_lt hholds.consumer_lt] at hcell

theorem Holds.pop (hholds : Holds size modulus ring consumer producer (value :: list)) :
    Holds size modulus ring ((consumer + 1) % modulus) producer list where
  consumer_lt := Nat.mod_lt _ (Nat.lt_of_le_of_lt (Nat.zero_le _) hholds.consumer_lt)
  producer_eq := by
    rw [hholds.producer_eq, Nat.mod_add_mod, List.length_cons, Nat.add_assoc, Nat.add_comm 1]
  cell_eq := by
    intro i hi
    have hcell := hholds.cell_eq (i + 1) (Nat.succ_lt_succ hi)
    rw [List.getElem_cons_succ] at hcell
    rw [Nat.mod_add_mod, Nat.add_assoc, Nat.add_comm 1, hcell]

/-- The last cell takes another value. -/
theorem Holds.replaceLast {list : List α} {last : α}
    (hholds : Holds size modulus ring consumer producer (list ++ [last])) (hdvd : size ∣ modulus)
    (hroom : list.length < size) (value : α) :
    Holds size modulus
      (Function.update ring ((consumer + list.length) % modulus % size) value) consumer producer
      (list ++ [value]) := by
  have hrest : Holds size modulus ring consumer ((consumer + list.length) % modulus) list := {
    consumer_lt := hholds.consumer_lt
    producer_eq := rfl
    cell_eq := by
      intro i hi
      have hcell := hholds.cell_eq i
        (by rw [List.length_append, List.length_singleton]; exact Nat.lt_succ_of_lt hi)
      rwa [List.getElem_append_left hi] at hcell }
  have hpushed := hrest.push hdvd hroom value
  have hproducer := hholds.producer_eq
  rw [List.length_append, List.length_singleton] at hproducer
  rwa [Nat.mod_add_mod, Nat.add_assoc, ← hproducer] at hpushed

end Cells

end Ring

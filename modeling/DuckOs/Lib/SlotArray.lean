import Mathlib.Data.List.Basic
import Mathlib.Data.List.Nodup

/-!
# Lists in slots

An array of fixed size that holds a list in its first slots, with the other slots blank. A new item
goes into the first blank slot, and an item is taken out by moving the ones behind it one slot down.
-/

namespace SlotArray

variable {α : Type}

/-- The array holds `items`, in slots that would hold `size`. -/
structure Holds (blank : α) (size : Nat) (slots items : List α) : Prop where
  slots_eq : slots = items ++ List.replicate (size - items.length) blank
  length_le : items.length ≤ size

/-- Copies the slots behind `index` one slot down, as far as the last of `count`. -/
def shiftDown (blank : α) (count : Nat) : (fuel index : Nat) → List α → List α
  | 0, _, slots => slots
  | fuel + 1, index, slots =>
      if index + 1 < count then
        shiftDown blank count fuel (index + 1) (slots.set index (slots.getD (index + 1) blank))
      else slots

section Access

variable {blank item : α} {size index : Nat} {slots items : List α}

theorem Holds.length_slots (hholds : Holds blank size slots items) : slots.length = size := by
  have hle := hholds.length_le
  rw [hholds.slots_eq, List.length_append, List.length_replicate]
  omega

theorem Holds.getD_of_lt (hholds : Holds blank size slots items) (hindex : index < items.length) :
    slots.getD index blank = items[index] := by
  rw [hholds.slots_eq, List.getD_eq_getElem?_getD, List.getElem?_append_left hindex,
    List.getElem?_eq_getElem hindex, Option.getD_some]

theorem Holds.getD_of_le (hholds : Holds blank size slots items) (hindex : items.length ≤ index) :
    slots.getD index blank = blank := by
  rw [hholds.slots_eq, List.getD_eq_getElem?_getD, List.getElem?_append_right hindex,
    List.getElem?_replicate]
  split_ifs <;> rfl

theorem Holds.set (hholds : Holds blank size slots items) (hindex : index < items.length) (item : α) :
    Holds blank size (slots.set index item) (items.set index item) := by
  refine ⟨?_, ?_⟩
  · rw [hholds.slots_eq, List.set_append_left _ _ hindex, List.length_set]
  · rw [List.length_set]
    exact hholds.length_le

theorem Holds.push (hholds : Holds blank size slots items) (hroom : items.length < size) (item : α) :
    Holds blank size (slots.set items.length item) (items ++ [item]) := by
  refine ⟨?_, ?_⟩
  · have hblanks : size - items.length = size - (items.length + 1) + 1 := by omega
    rw [hholds.slots_eq, List.set_append_right _ _ (Nat.le_refl _), Nat.sub_self, hblanks,
      List.replicate_succ, List.set_cons_zero, List.length_append, List.length_singleton,
      List.append_assoc, List.singleton_append]
  · rw [List.length_append, List.length_singleton]
    omega

theorem getElem?_shiftDown (blank : α) {count : Nat} :
    ∀ (fuel index : Nat) (slots : List α), count ≤ slots.length → count ≤ index + fuel →
      ∀ position, (shiftDown blank count fuel index slots)[position]?
        = if index ≤ position ∧ position + 1 < count then slots[position + 1]?
          else slots[position]? := by
  intro fuel
  induction fuel with
  | zero =>
      intro index slots _ hfuel position
      rw [shiftDown, if_neg (by omega)]
  | succ fuel ih =>
      intro index slots hlength hfuel position
      rw [shiftDown]
      split_ifs with hmore hmoved hmoved
      · rw [ih (index + 1) _ (by rw [List.length_set]; exact hlength) (by omega)]
        by_cases hposition : position = index
        · subst hposition
          rw [if_neg (by omega), List.getElem?_set_self (by omega), List.getD_eq_getElem?_getD,
            List.getElem?_eq_getElem (by omega), Option.getD_some]
        · rw [if_pos (by omega), List.getElem?_set_ne (by omega)]
      · rw [ih (index + 1) _ (by rw [List.length_set]; exact hlength) (by omega), if_neg (by omega)]
        rw [List.getElem?_set_ne (by omega)]
      · omega
      · rfl

theorem length_shiftDown (blank : α) (count : Nat) : ∀ (fuel index : Nat) (slots : List α),
    (shiftDown blank count fuel index slots).length = slots.length := by
  intro fuel
  induction fuel with
  | zero => exact fun _ _ => rfl
  | succ fuel ih =>
      intro index slots
      rw [shiftDown]
      split_ifs
      · rw [ih, List.length_set]
      · rfl

/-- Shifting down over an item and putting another one in the last slot. -/
theorem Holds.shiftDown_set (hholds : Holds blank size slots items) (hindex : index < items.length)
    (item : α) :
    (shiftDown blank items.length items.length index slots).set (items.length - 1) item
      = items.eraseIdx index ++ item :: List.replicate (size - items.length) blank := by
  have hlength := hholds.length_slots
  have hle := hholds.length_le
  have herased : (items.eraseIdx index).length = items.length - 1 := by
    rw [List.length_eraseIdx, if_pos hindex]
  apply List.ext_getElem?
  intro position
  rw [List.getElem?_set]
  by_cases hlast : items.length - 1 = position
  · rw [if_pos hlast, length_shiftDown, if_pos (by omega), List.getElem?_append_right (by omega),
      herased, hlast, Nat.sub_self, List.getElem?_cons_zero]
  rw [if_neg hlast, getElem?_shiftDown _ _ _ _ (by omega) (by omega), hholds.slots_eq]
  by_cases hbefore : position < items.length - 1
  · rw [List.getElem?_append_left (by omega : position < (items.eraseIdx index).length),
      List.getElem?_eraseIdx]
    by_cases hmoved : index ≤ position
    · rw [if_pos (by omega), if_neg (by omega), List.getElem?_append_left (by omega)]
    · rw [if_neg (by omega), if_pos (by omega), List.getElem?_append_left (by omega)]
  · have hbehind : position - (items.length - 1) = position - items.length + 1 := by omega
    rw [if_neg (by omega), List.getElem?_append_right (by omega),
      List.getElem?_append_right (by omega), herased, hbehind, List.getElem?_cons_succ]

/-- Taking an item out and putting it behind the others. -/
theorem Holds.moveLast (hholds : Holds blank size slots items) (hindex : index < items.length)
    (item : α) :
    Holds blank size
      ((shiftDown blank items.length items.length index slots).set (items.length - 1) item)
      (items.eraseIdx index ++ [item]) := by
  have hle := hholds.length_le
  have hlength : (items.eraseIdx index ++ [item]).length = items.length := by
    rw [List.length_append, List.length_eraseIdx, if_pos hindex, List.length_singleton]
    omega
  refine ⟨?_, by omega⟩
  rw [hholds.shiftDown_set hindex, hlength, List.append_assoc, List.singleton_append]

/-- Taking an item out and clearing the slot that is left over. -/
theorem Holds.erase (hholds : Holds blank size slots items) (hindex : index < items.length) :
    Holds blank size
      ((shiftDown blank items.length items.length index slots).set (items.length - 1) blank)
      (items.eraseIdx index) := by
  have hle := hholds.length_le
  have hlength : (items.eraseIdx index).length = items.length - 1 := by
    rw [List.length_eraseIdx, if_pos hindex]
  refine ⟨?_, by omega⟩
  have hblanks : size - (items.length - 1) = size - items.length + 1 := by omega
  rw [hholds.shiftDown_set hindex, hlength, hblanks, List.replicate_succ]

end Access

end SlotArray

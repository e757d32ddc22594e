import Mathlib.Data.Nat.Digits.Lemmas

/-!
# Numerals

Symbols denote a number in a base, the most significant first. Of all numerals of a number the one without
superfluous zeros is the shortest.
-/

namespace Numeral

/-- The digits of the bases up to 36. -/
def asciiDigit (letter : UInt8) : Option Nat :=
  if 0x30 ≤ letter ∧ letter ≤ 0x39 then some (letter.toNat - 0x30)
  else if 0x61 ≤ letter ∧ letter ≤ 0x7a then some (letter.toNat - 0x61 + 10)
  else none

section Value

variable {α : Type} (digit : α → Option Nat) (base : Nat)

def push (total : Nat) (symbol : α) : Option Nat :=
  match digit symbol with
  | none => none
  | some place => if place < base then some (total * base + place) else none

/-- The number that symbols denote. No symbols at all denote none. -/
def value (symbols : List α) : Option Nat :=
  if symbols = [] then none else symbols.foldlM (push digit base) 0

/-- A numeral of the number, and none is shorter. -/
def Shortest (symbols : List α) (number : Nat) : Prop :=
  value digit base symbols = some number
    ∧ ∀ other, value digit base other = some number → symbols.length ≤ other.length

variable {digit base}

theorem push_eq_some_iff {total next : Nat} {symbol : α} :
    push digit base total symbol = some next
      ↔ ∃ place, digit symbol = some place ∧ place < base ∧ next = total * base + place := by
  rw [push]
  cases digit symbol with
  | none =>
      refine iff_of_false nofun ?_
      rintro ⟨place, hplace, -⟩
      cases hplace
  | some first =>
      dsimp only
      split
      next hfirst =>
        constructor
        · intro hnext
          exact ⟨first, rfl, hfirst, (Option.some.inj hnext).symm⟩
        · rintro ⟨place, hplace, -, rfl⟩
          rw [Option.some.inj hplace]
      next hfirst =>
        refine iff_of_false nofun ?_
        rintro ⟨place, hplace, hlt, -⟩
        obtain rfl := Option.some.inj hplace
        exact hfirst hlt

/-- The first place counts `base` times for each of the others. -/
theorem ofDigits_cons (total place : Nat) (others : List Nat) :
    total * base ^ (place :: others).length + Nat.ofDigits base (place :: others).reverse
      = (total * base + place) * base ^ others.length + Nat.ofDigits base others.reverse := by
  rw [Nat.ofDigits_reverse_cons, List.length_cons, pow_succ]
  ring

theorem foldlM_push_eq_some_iff {symbols : List α} : ∀ {total number : Nat},
    symbols.foldlM (push digit base) total = some number
      ↔ ∃ places : List Nat, symbols.map digit = places.map some ∧ (∀ place ∈ places, place < base)
        ∧ number = total * base ^ places.length + Nat.ofDigits base places.reverse := by
  induction symbols with
  | nil =>
      intro total number
      constructor
      · intro hnumber
        cases hnumber
        exact ⟨[], rfl, fun _ hplace => absurd hplace List.not_mem_nil, by simp⟩
      · rintro ⟨places, hplaces, -, rfl⟩
        obtain rfl := List.map_eq_nil_iff.mp hplaces.symm
        simp
  | cons symbol rest ih =>
      intro total number
      rw [List.foldlM_cons, Option.bind_eq_bind, Option.bind_eq_some_iff]
      constructor
      · rintro ⟨next, hnext, hrest⟩
        obtain ⟨first, hdigit, hfirst, rfl⟩ := push_eq_some_iff.mp hnext
        obtain ⟨places, hplaces, hlt, rfl⟩ := ih.mp hrest
        refine ⟨first :: places, ?_, ?_, (ofDigits_cons total first places).symm⟩
        · rw [List.map_cons, List.map_cons, hdigit, hplaces]
        · rintro place (- | ⟨-, hplace⟩)
          · exact hfirst
          · exact hlt place hplace
      · rintro ⟨places, hplaces, hlt, rfl⟩
        cases places with
        | nil => cases hplaces
        | cons place others =>
            rw [List.map_cons, List.map_cons, List.cons.injEq] at hplaces
            obtain ⟨hdigit, hothers⟩ := hplaces
            refine ⟨_, push_eq_some_iff.mpr ⟨place, hdigit, hlt place List.mem_cons_self, rfl⟩, ?_⟩
            apply ih.mpr
            exact ⟨others, hothers, fun other hother => hlt other (List.mem_cons_of_mem _ hother),
              ofDigits_cons total place others⟩

theorem value_eq_some_iff {symbols : List α} {number : Nat} :
    value digit base symbols = some number
      ↔ symbols ≠ [] ∧ ∃ places : List Nat, symbols.map digit = places.map some
        ∧ (∀ place ∈ places, place < base) ∧ number = Nat.ofDigits base places.reverse := by
  rw [value]
  split
  · rename_i hnil
    exact iff_of_false nofun fun hne => hne.1 hnil
  · rename_i hne
    rw [foldlM_push_eq_some_iff]
    simp only [Nat.zero_mul, Nat.zero_add]
    exact (and_iff_right hne).symm

/-- A numeral has enough symbols for its number. -/
theorem lt_pow_of_value (hbase : 1 < base) {symbols : List α} {number : Nat}
    (hvalue : value digit base symbols = some number) : number < base ^ symbols.length := by
  obtain ⟨-, places, hplaces, hlt, rfl⟩ := value_eq_some_iff.mp hvalue
  have hlength : symbols.length = places.reverse.length := by
    rw [List.length_reverse, ← List.length_map digit, hplaces, List.length_map]
  rw [hlength]
  exact Nat.ofDigits_lt_base_pow_length hbase fun place hplace => hlt place (List.mem_reverse.mp hplace)

/-- Symbols for the digits of a number. -/
theorem shortest_of_digits (hbase : 1 < base) {number : Nat} (hnumber : number ≠ 0) {symbols : List α}
    (hsymbols : symbols.map digit = (Nat.digits base number).reverse.map some) :
    Shortest digit base symbols number := by
  have hlength : symbols.length = (Nat.digits base number).length := by
    rw [← List.length_map digit, hsymbols, List.length_map, List.length_reverse]
  constructor
  · rw [value_eq_some_iff]
    refine ⟨?_, _, hsymbols, fun place hplace => ?_, ?_⟩
    · rintro rfl
      exact Nat.digits_ne_nil_iff_ne_zero.mpr hnumber (List.length_eq_zero_iff.mp hlength.symm)
    · exact Nat.digits_lt_base hbase (List.mem_reverse.mp hplace)
    · rw [List.reverse_reverse, Nat.ofDigits_digits]
  · intro other hother
    rw [hlength, Nat.digits_length_le_iff hbase]
    exact lt_pow_of_value hbase hother

theorem shortest_zero (hbase : 0 < base) {symbol : α} (hsymbol : digit symbol = some 0) :
    Shortest digit base [symbol] 0 := by
  constructor
  · rw [value_eq_some_iff]
    refine ⟨List.cons_ne_nil _ _, [0], by rw [List.map_singleton, hsymbol]; rfl, ?_, by simp⟩
    intro place hplace
    rwa [List.mem_singleton.mp hplace]
  · intro other hother
    exact List.length_pos_of_ne_nil (value_eq_some_iff.mp hother).1

end Value

end Numeral

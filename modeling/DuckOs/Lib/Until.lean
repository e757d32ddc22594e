import Mathlib.Data.List.Range
import Mathlib.Logic.Function.Iterate

/-!
# Loops that end at a condition

A loop steps from state to state until a condition holds. The states that it passes are the iterates of
the step, up to the first one at which the condition holds; whether there is one is not decided by the
loop itself, so it is run for a number of rounds.
-/

namespace Until

variable {σ : Type} {step : σ → σ} {done : σ → Prop} [DecidablePred done]

/-- The states passed, the last one included; `none` if the loop is still running after `fuel` rounds. -/
def visits (step : σ → σ) (done : σ → Prop) [DecidablePred done] : (fuel : Nat) → σ → Option (List σ)
  | 0, _ => none
  | fuel + 1, state =>
      if done state then some [state] else (visits step done fuel (step state)).map (state :: ·)

/-- The first iterate at which the condition holds. -/
structure EndsAt (step : σ → σ) (done : σ → Prop) (state : σ) (count : Nat) : Prop where
  holds : done (step^[count] state)
  before : ∀ index < count, ¬ done (step^[index] state)

/-- The states from a state on. -/
def orbit (step : σ → σ) (state : σ) (count : Nat) : List σ :=
  (List.range count).map fun index => step^[index] state

omit [DecidablePred done] in
theorem orbit_succ (state : σ) (count : Nat) :
    orbit step state (count + 1) = state :: orbit step (step state) count := by
  rw [orbit, List.range_succ_eq_map, List.map_cons, List.map_map]
  rfl

omit [DecidablePred done] in
theorem endsAt_succ_iff {state : σ} {count : Nat} :
    EndsAt step done state (count + 1) ↔ ¬ done state ∧ EndsAt step done (step state) count := by
  constructor
  · intro hends
    refine ⟨hends.before 0 (Nat.succ_pos _), hends.holds, fun index hindex => ?_⟩
    exact hends.before (index + 1) (Nat.succ_lt_succ hindex)
  · rintro ⟨hstart, hends⟩
    refine ⟨hends.holds, fun index hindex => ?_⟩
    cases index with
    | zero => exact hstart
    | succ index => exact hends.before index (Nat.lt_of_succ_lt_succ hindex)

theorem visits_eq_some_iff {fuel : Nat} {states : List σ} :
    ∀ {state : σ}, visits step done fuel state = some states
      ↔ ∃ count < fuel, EndsAt step done state count ∧ states = orbit step state (count + 1) := by
  induction fuel generalizing states with
  | zero =>
      intro state
      refine iff_of_false (fun hnone => nomatch hnone) ?_
      rintro ⟨count, hcount, -⟩
      exact Nat.not_lt_zero _ hcount
  | succ fuel ih =>
      intro state
      rw [visits]
      by_cases hdone : done state
      · rw [if_pos hdone]
        constructor
        · intro hstates
          refine ⟨0, Nat.succ_pos _, ⟨hdone, fun index hindex => absurd hindex (Nat.not_lt_zero _)⟩, ?_⟩
          exact (Option.some.inj hstates).symm
        · rintro ⟨count, -, hends, rfl⟩
          cases count with
          | zero => rfl
          | succ count => exact absurd hdone (hends.before 0 (Nat.succ_pos _))
      · rw [if_neg hdone, Option.map_eq_some_iff]
        constructor
        · rintro ⟨rest, hrest, rfl⟩
          obtain ⟨count, hcount, hends, rfl⟩ := ih.mp hrest
          refine ⟨count + 1, Nat.succ_lt_succ hcount, endsAt_succ_iff.mpr ⟨hdone, hends⟩, ?_⟩
          rw [orbit_succ state]
        · rintro ⟨count, hcount, hends, rfl⟩
          cases count with
          | zero => exact absurd hends.holds hdone
          | succ count =>
              refine ⟨orbit step (step state) (count + 1),
                ih.mpr ⟨count, Nat.lt_of_succ_lt_succ hcount, (endsAt_succ_iff.mp hends).2, rfl⟩, ?_⟩
              rw [orbit_succ state]

omit [DecidablePred done] in
/-- Neighbours in an orbit are a state and the next one. -/
theorem isChain_orbit_iff {related : σ → σ → Prop} {state : σ} {count : Nat} :
    (orbit step state (count + 1)).IsChain related
      ↔ ∀ index < count, related (step^[index] state) (step^[index + 1] state) := by
  rw [orbit, List.isChain_map, List.isChain_range_succ]

omit [DecidablePred done] in
theorem getLast?_orbit (state : σ) (count : Nat) :
    (orbit step state (count + 1)).getLast? = some (step^[count] state) := by
  rw [orbit, List.range_succ, List.map_append]
  simp

omit [DecidablePred done] in
@[simp]
theorem length_orbit (state : σ) (count : Nat) : (orbit step state count).length = count := by
  rw [orbit, List.length_map, List.length_range]

end Until

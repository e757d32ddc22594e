import Mathlib.Data.Fin.Basic
import Mathlib.Data.List.Basic
import DuckOs.Lib.Machine

/-!
# Cyclic scans

A table is scanned from the entry behind an origin, once around, for the first entry that is ready.
The entry found becomes the next origin. Every entry that stays ready gets nearer with each scan, so
no entry is found twice before it.
-/

namespace CyclicScan

variable {n : Nat}

/-- The entry `i` places behind `origin`. -/
def entry (origin : Fin n) (i : Nat) : Fin n := ⟨(origin + i) % n, Nat.mod_lt _ origin.pos⟩

/-- How many places `target` is behind `origin`; a whole round for `origin` itself. -/
def distance (origin target : Fin n) : Nat :=
  if (origin : Nat) < target then target - origin else target + n - origin

def scan (ready : Fin n → Bool) (origin : Fin n) : Option (Fin n) :=
  ((List.range' 1 n).map (entry origin)).find? ready

section Distance

variable {origin found target : Fin n}

theorem distance_pos : 0 < distance origin target := by
  rw [distance]
  split_ifs <;> omega

theorem distance_le : distance origin target ≤ n := by
  rw [distance]
  split_ifs <;> omega

theorem entry_distance : entry origin (distance origin target) = target := by
  apply Fin.ext
  have htarget := target.isLt
  change ((origin : Nat) + distance origin target) % n = target
  rw [distance]
  split_ifs with hbehind
  · rw [show (origin : Nat) + (target - origin) = target by omega, Nat.mod_eq_of_lt htarget]
  · rw [show (origin : Nat) + (target + n - origin) = target + n by omega, Nat.add_mod_right,
      Nat.mod_eq_of_lt htarget]

theorem distance_entry {i : Nat} (hpos : 0 < i) (hle : i ≤ n) :
    distance origin (entry origin i) = i := by
  have horigin := origin.isLt
  have hvalue : (entry origin i : Nat) = (origin + i) % n := rfl
  rw [distance]
  by_cases hwrap : (origin : Nat) + i < n
  · rw [Nat.mod_eq_of_lt hwrap] at hvalue
    rw [if_pos (by omega)]
    omega
  · rw [Nat.mod_eq_sub_mod (by omega), Nat.mod_eq_of_lt (by omega)] at hvalue
    rw [if_neg (by omega)]
    omega

theorem distance_inj (heq : distance origin found = distance origin target) : found = target := by
  rw [← @entry_distance n origin found, heq, entry_distance]

/-- An entry between two others splits the way. -/
theorem distance_add (hlt : distance origin found < distance origin target) :
    distance origin found + distance found target = distance origin target := by
  have horigin := origin.isLt
  simp only [distance] at hlt ⊢
  split_ifs at hlt ⊢ <;> omega

end Distance

section Scan

variable {ready : Fin n → Bool} {origin found target : Fin n}

theorem scan_eq_none_iff : scan ready origin = none ↔ ∀ target, ready target = false := by
  rw [scan, List.find?_eq_none]
  constructor
  · intro hnone target
    have hmem : target ∈ (List.range' 1 n).map (entry origin) := by
      refine List.mem_map.mpr ⟨distance origin target, ?_, entry_distance⟩
      rw [List.mem_range'_1]
      exact ⟨distance_pos, Nat.lt_add_one_of_le distance_le |>.trans_eq (Nat.add_comm _ _)⟩
    exact Bool.eq_false_iff.mpr (hnone target hmem)
  · intro hnone target _
    rw [hnone target]
    exact Bool.false_ne_true

/-- The entry found is the nearest one that is ready. -/
theorem distance_le_of_scan (hscan : scan ready origin = some found)
    (hready : ready target = true) : distance origin found ≤ distance origin target := by
  rw [scan, List.find?_map, Option.map_eq_some_iff] at hscan
  obtain ⟨i, hfind, rfl⟩ := hscan
  obtain ⟨-, position, hposition, hi, hbefore⟩ := List.find?_eq_some_iff_getElem.mp hfind
  rw [List.getElem_range'] at hi
  rw [List.length_range'] at hposition
  rw [distance_entry (by omega) (by omega)]
  by_contra hnear
  have hpos := @distance_pos n origin target
  have hearlier := hbefore (distance origin target - 1) (by omega)
  rw [List.getElem_range', Nat.one_mul] at hearlier
  simp only [Function.comp_apply, show 1 + (distance origin target - 1) = distance origin target by
    omega, entry_distance, hready] at hearlier
  exact absurd hearlier (by decide)

end Scan

/-! ### Runs of scans -/

section Runs

variable {σ ι : Type} {next : σ → ι → σ}

/-- What the inputs of a machine find is found by scans, each of which starts where the one before has
stopped. With nothing ready the origin may move anywhere. -/
structure Scans (next : σ → ι → σ) (inv : σ → Prop) (origin : σ → Fin n) (ready : σ → Fin n → Bool)
    (finds : σ → ι → Option (Fin n)) : Prop where
  inv_next : ∀ state input, inv state → inv (next state input)
  scan_eq : ∀ state input found, inv state → finds state input = some found →
    scan (ready state) (origin state) = some found
  origin_found : ∀ state input found, inv state → finds state input = some found →
    origin (next state input) = found
  origin_kept : ∀ state input target, inv state → finds state input = none →
    ready state target = true → origin (next state input) = origin state

variable {inv : σ → Prop} {origin : σ → Fin n} {ready : σ → Fin n → Bool}
  {finds : σ → ι → Option (Fin n)} {target : Fin n}

theorem Scans.inv_foldl (hscans : Scans next inv origin ready finds) :
    ∀ (inputs : List ι) {state : σ}, inv state → inv (inputs.foldl next state) := by
  intro inputs
  induction inputs with
  | nil => exact fun hinv => hinv
  | cons input rest ih => exact fun hinv => ih (hscans.inv_next _ input hinv)

/-- A ready entry that is not found does not get farther away. -/
theorem Scans.distance_next_le (hscans : Scans next inv origin ready finds) {state : σ} {input : ι}
    (hinv : inv state) (hready : ready state target = true)
    (hunfound : finds state input ≠ some target) :
    distance (origin (next state input)) target ≤ distance (origin state) target := by
  cases hfinds : finds state input with
  | none => rw [hscans.origin_kept state input target hinv hfinds hready]
  | some found =>
      have hscan := hscans.scan_eq state input found hinv hfinds
      have hle := distance_le_of_scan hscan hready
      have hne : found ≠ target := fun heq => hunfound (heq ▸ hfinds)
      have hlt := lt_of_le_of_ne hle fun heq => hne (distance_inj heq)
      have hadd := distance_add hlt
      rw [hscans.origin_found state input found hinv hfinds]
      omega

theorem Scans.distance_run_le (hscans : Scans next inv origin ready finds) :
    ∀ {inputs : List ι} {state : σ}, inv state →
      Machine.Throughout next (fun state => ready state target = true) state inputs →
      Machine.EveryStep next (fun state input => finds state input ≠ some target) state inputs →
      distance (origin (inputs.foldl next state)) target ≤ distance (origin state) target
        ∧ ready (inputs.foldl next state) target = true := by
  intro inputs
  induction inputs with
  | nil => exact fun _ hready _ => ⟨le_refl _, hready⟩
  | cons input rest ih =>
      rintro state hinv ⟨hready, hreadyRest⟩ ⟨hunfound, hunfoundRest⟩
      obtain ⟨hle, hlast⟩ := ih (hscans.inv_next state input hinv) hreadyRest hunfoundRest
      exact ⟨hle.trans (hscans.distance_next_le hinv hready hunfound), hlast⟩

/-- Between two times that one entry is found, no other entry is ready all the time and not found. -/
theorem Scans.not_passed_over (hscans : Scans next inv origin ready finds) {state : σ}
    {first second : ι} {between : List ι} {found : Fin n} (hinv : inv state)
    (hfirst : finds state first = some found)
    (hsecond : finds (between.foldl next (next state first)) second = some found)
    (hne : target ≠ found) :
    ¬ (Machine.Throughout next (fun state => ready state target = true) (next state first) between
      ∧ Machine.EveryStep next (fun state input => finds state input ≠ some target)
        (next state first) between) := by
  rintro ⟨hready, hunfound⟩
  have hnext := hscans.inv_next state first hinv
  obtain ⟨hle, hlast⟩ := hscans.distance_run_le hnext hready hunfound
  rw [hscans.origin_found state first found hinv hfirst] at hle
  have hscan := hscans.scan_eq _ second found (hscans.inv_foldl between hnext) hsecond
  have hnear := lt_of_le_of_ne (distance_le_of_scan hscan hlast) fun heq =>
    hne (distance_inj heq).symm
  have hadd := distance_add hnear
  have hpos := @distance_pos n (origin (between.foldl next (next state first))) found
  omega

end Runs

end CyclicScan

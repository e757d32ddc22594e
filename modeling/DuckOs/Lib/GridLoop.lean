import Mathlib.Data.List.Basic

/-!
# Loops over a grid

Two nested loops, over rows and over the columns of each. When every round writes cells of its own and
leaves all others, the result can be told cell by cell.
-/

namespace GridLoop

variable {σ κ α : Type}

def run (height width : Nat) (body : Nat → Nat → σ → σ) (state : σ) : σ :=
  (List.range height).foldl
    (fun state row => (List.range width).foldl (fun state col => body row col state) state) state

theorem foldl_range_keeps {inv : σ → Prop} {count : Nat} {body : σ → Nat → σ}
    (hkeep : ∀ state index, index < count → inv state → inv (body state index)) {state : σ}
    (hinv : inv state) : inv ((List.range count).foldl body state) := by
  induction count with
  | zero => exact hinv
  | succ count ih =>
      rw [List.range_succ, List.foldl_append]
      exact hkeep _ _ (Nat.lt_succ_self _)
        (ih fun state index hindex => hkeep state index (Nat.lt_succ_of_lt hindex))

/-- One loop in which round `index` gives the cells in `writes index` their values. -/
theorem view_foldl_range {inv : σ → Prop} {view : σ → κ → α} {writes : Nat → κ → Prop} {value : κ → α}
    {count : Nat} {body : σ → Nat → σ}
    (hkeep : ∀ state index, index < count → inv state → inv (body state index))
    (hwrite : ∀ state index cell, index < count → inv state → writes index cell →
      view (body state index) cell = value cell)
    (hframe : ∀ state index cell, index < count → inv state → ¬ writes index cell →
      view (body state index) cell = view state cell)
    {state : σ} (hinv : inv state) (cell : κ) :
    ((∃ index < count, writes index cell) →
        view ((List.range count).foldl body state) cell = value cell)
      ∧ ((¬ ∃ index < count, writes index cell) →
        view ((List.range count).foldl body state) cell = view state cell) := by
  induction count with
  | zero => exact ⟨fun ⟨_, hlt, _⟩ => absurd hlt (Nat.not_lt_zero _), fun _ => rfl⟩
  | succ count ih =>
      have hkeepInit := fun state index (hindex : index < count) =>
        hkeep state index (Nat.lt_succ_of_lt hindex)
      have hbefore := foldl_range_keeps hkeepInit hinv
      obtain ⟨hdone, hleft⟩ := ih hkeepInit
        (fun state index cell hindex => hwrite state index cell (Nat.lt_succ_of_lt hindex))
        (fun state index cell hindex => hframe state index cell (Nat.lt_succ_of_lt hindex))
      rw [List.range_succ, List.foldl_append, List.foldl_cons, List.foldl_nil]
      by_cases hlast : writes count cell
      · exact ⟨fun _ => hwrite _ _ _ (Nat.lt_succ_self _) hbefore hlast,
          fun hnone => absurd ⟨count, Nat.lt_succ_self _, hlast⟩ hnone⟩
      · rw [hframe _ _ _ (Nat.lt_succ_self _) hbefore hlast]
        constructor
        · rintro ⟨index, hindex, hwrites⟩
          have hne : index ≠ count := by
            rintro rfl
            exact hlast hwrites
          exact hdone ⟨index, Nat.lt_of_le_of_ne (Nat.le_of_lt_succ hindex) hne, hwrites⟩
        · rintro hnone
          exact hleft fun ⟨index, hindex, hwrites⟩ =>
            hnone ⟨index, Nat.lt_succ_of_lt hindex, hwrites⟩

/-- The rounds one after the other: what holds after so many of them. -/
theorem foldl_range_rounds {inv : Nat → σ → Prop} {count : Nat} {body : σ → Nat → σ}
    (hround : ∀ state index, index < count → inv index state → inv (index + 1) (body state index))
    {state : σ} (hinv : inv 0 state) : inv count ((List.range count).foldl body state) := by
  induction count with
  | zero => exact hinv
  | succ count ih =>
      rw [List.range_succ, List.foldl_append]
      exact hround _ _ (Nat.lt_succ_self _)
        (ih fun state index hindex => hround state index (Nat.lt_succ_of_lt hindex))

section Grid

variable {height width : Nat} {body : Nat → Nat → σ → σ} {inv : σ → Prop}

theorem run_keeps
    (hkeep : ∀ state row col, row < height → col < width → inv state → inv (body row col state))
    {state : σ} (hinv : inv state) : inv (run height width body state) :=
  foldl_range_keeps (fun _ row hrow hstate =>
    foldl_range_keeps (fun state col hcol => hkeep state row col hrow hcol) hstate) hinv

/-- Only the rounds that are run count. -/
theorem run_congr {other : Nat → Nat → σ → σ}
    (hsame : ∀ state row col, row < height → col < width → body row col state = other row col state)
    (state : σ) : run height width body state = run height width other state := by
  unfold run
  refine List.foldl_ext _ _ state fun state row hrow => ?_
  refine List.foldl_ext _ _ state fun state col hcol => ?_
  exact hsame state row col (List.mem_range.mp hrow) (List.mem_range.mp hcol)

/-- The rounds of both loops are counted from row to row. -/
theorem run_rounds {inv : Nat → σ → Prop}
    (hround : ∀ state row col, row < height → col < width → inv (row * width + col) state →
      inv (row * width + col + 1) (body row col state))
    {state : σ} (hinv : inv 0 state) : inv (height * width) (run height width body state) := by
  refine @foldl_range_rounds _ (fun row state => inv (row * width) state) height _ ?_ state
    (by rwa [Nat.zero_mul])
  intro state row hrow hstate
  rw [Nat.succ_mul]
  exact @foldl_range_rounds _ (fun col state => inv (row * width + col) state) width _
    (fun state col hcol => hround state row col hrow hcol) state hstate

/-- The rounds give the cells they write their values, and leave the others. -/
theorem view_run {view : σ → κ → α} {writes : Nat → Nat → κ → Prop} {value : κ → α}
    (hkeep : ∀ state row col, row < height → col < width → inv state → inv (body row col state))
    (hwrite : ∀ state row col cell, row < height → col < width → inv state → writes row col cell →
      view (body row col state) cell = value cell)
    (hframe : ∀ state row col cell, row < height → col < width → inv state → ¬ writes row col cell →
      view (body row col state) cell = view state cell)
    {state : σ} (hinv : inv state) (cell : κ) :
    ((∃ row < height, ∃ col < width, writes row col cell) →
        view (run height width body state) cell = value cell)
      ∧ ((¬ ∃ row < height, ∃ col < width, writes row col cell) →
        view (run height width body state) cell = view state cell) := by
  refine @view_foldl_range _ _ _ inv view (fun row cell => ∃ col < width, writes row col cell) value
    height _ ?_ ?_ ?_ state hinv cell
  · exact fun state row hrow hstate =>
      foldl_range_keeps (fun state col hcol => hkeep state row col hrow hcol) hstate
  · intro state row cell hrow hstate
    exact (view_foldl_range (fun state col hcol => hkeep state row col hrow hcol)
      (fun state col cell hcol => hwrite state row col cell hrow hcol)
      (fun state col cell hcol => hframe state row col cell hrow hcol) hstate cell).1
  · intro state row cell hrow hstate
    exact (view_foldl_range (fun state col hcol => hkeep state row col hrow hcol)
      (fun state col cell hcol => hwrite state row col cell hrow hcol)
      (fun state col cell hcol => hframe state row col cell hrow hcol) hstate cell).2

end Grid

end GridLoop

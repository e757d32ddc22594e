import DuckOs.Gfx.Draw
import Mathlib.Data.Int.GCD
import Mathlib.Tactic.Linarith
import Mathlib.Tactic.Ring

/-!
# The error term of a line

The two tests of a round of `draw_line`, as moves in two directions. On a flat line every round moves to
the side and the error stays between half the width and one and a half times the width; on a steep line
every round moves up or down. Both hold for as long as twice the error is an `int`; a move that is missed
because it is not is never made up for.
-/

namespace DuckOs

/-- The largest magnitude of the error term, for a line that ends. -/
def linePeak (dx dy : Nat) : Nat :=
  Nat.gcd dx dy * ((3 * (max dx dy / Nat.gcd dx dy) - 1) / 2)

section Slope

variable {slope : LineSlope} {x0 y0 x1 y1 : Int}

/-- What `draw_line` has computed before the loop. -/
structure LineSlope.Joins (slope : LineSlope) (x0 y0 x1 y1 : Int) : Prop where
  dx_nonneg : 0 ≤ slope.dx
  dx_lt : slope.dx < 2 ^ 30
  dy_nonneg : 0 ≤ slope.dy
  dy_lt : slope.dy < 2 ^ 30
  sx_eq : slope.sx = 1 ∨ slope.sx = -1
  sy_eq : slope.sy = 1 ∨ slope.sy = -1
  x1_eq : x1 = x0 + slope.dx * slope.sx
  y1_eq : y1 = y0 + slope.dy * slope.sy
  x0_lt : x0.natAbs < 2 ^ 29
  y0_lt : y0.natAbs < 2 ^ 29

/-- The error after `a` moves to the side and `b` moves up or down. -/
def LineSlope.error (slope : LineSlope) (a b : Nat) : Int :=
  slope.dx - slope.dy - a * slope.dy + b * slope.dx

/-- The state after these moves. -/
def LineSlope.moved (slope : LineSlope) (x0 y0 : Int) (a b : Nat) : LineState where
  x := x0 + a * slope.sx
  y := y0 + b * slope.sy
  err := slope.error a b

theorem LineSlope.error_succ_left (slope : LineSlope) (a b : Nat) :
    slope.error (a + 1) b = slope.error a b - slope.dy := by
  simp only [LineSlope.error, Nat.cast_add, Nat.cast_one]
  ring

theorem LineSlope.error_succ_right (slope : LineSlope) (a b : Nat) :
    slope.error a (b + 1) = slope.error a b + slope.dx := by
  simp only [LineSlope.error, Nat.cast_add, Nat.cast_one]
  ring

theorem LineSlope.of_joins (hx0 : x0.natAbs < 2 ^ 29) (hy0 : y0.natAbs < 2 ^ 29)
    (hx1 : x1.natAbs < 2 ^ 29) (hy1 : y1.natAbs < 2 ^ 29) :
    (LineSlope.of x0 y0 x1 y1).Joins x0 y0 x1 y1
      ∧ (LineSlope.of x0 y0 x1 y1).dx = (x1 - x0).natAbs
      ∧ (LineSlope.of x0 y0 x1 y1).dy = (y1 - y0).natAbs := by
  have habs : ∀ a b : Int, a.natAbs < 2 ^ 29 → b.natAbs < 2 ^ 29 →
      drawAbs (int32 (b - a)) = (b - a).natAbs := by
    intro a b ha hb
    rw [int32_eq (by omega) (by omega), drawAbs]
    split
    · rw [int32_eq (by omega) (by omega)]
      omega
    · omega
  have hdx : (LineSlope.of x0 y0 x1 y1).dx = (x1 - x0).natAbs := habs x0 x1 hx0 hx1
  have hdy : (LineSlope.of x0 y0 x1 y1).dy = (y1 - y0).natAbs := habs y0 y1 hy0 hy1
  have hend : ∀ a b : Int, b = a + (b - a).natAbs * (if a < b then 1 else -1) := by
    intro a b
    split
    · omega
    · omega
  refine ⟨?_, hdx, hdy⟩
  constructor
  case sx_eq =>
    dsimp only [LineSlope.of]
    split
    · exact .inl rfl
    · exact .inr rfl
  case sy_eq =>
    dsimp only [LineSlope.of]
    split
    · exact .inl rfl
    · exact .inr rfl
  case x1_eq =>
    rw [hdx]
    exact hend x0 x1
  case y1_eq =>
    rw [hdy]
    exact hend y0 y1
  all_goals omega

namespace LineSlope.Joins

variable (joins : slope.Joins x0 y0 x1 y1)
include joins

/-- The first test, as long as the coordinates and twice the error are of type `int`. -/
theorem stepX_moved {a b : Nat} (ha : a < 2 ^ 30) (hlow : -2 ^ 31 ≤ 2 * slope.error a b)
    (hhigh : 2 * slope.error a b < 2 ^ 31) :
    slope.stepX (slope.moved x0 y0 a b)
      = if -slope.dy < 2 * slope.error a b then slope.moved x0 y0 (a + 1) b
        else slope.moved x0 y0 a b := by
  have hdy := joins.dy_nonneg
  have hdylt := joins.dy_lt
  have hx0 := joins.x0_lt
  have hx : x0 + a * slope.sx + slope.sx = x0 + (a + 1 : Nat) * slope.sx := by
    push_cast
    ring
  have hbound : -2 ^ 31 ≤ x0 + (a + 1 : Nat) * slope.sx ∧ x0 + (a + 1 : Nat) * slope.sx < 2 ^ 31 := by
    obtain hsx | hsx := joins.sx_eq
    · rw [hsx]
      omega
    · rw [hsx]
      omega
  have htwice : int32 ((slope.moved x0 y0 a b).err * 2) = 2 * slope.error a b := by
    rw [mul_comm]
    exact int32_eq hlow hhigh
  rw [stepX]
  simp only [htwice]
  by_cases htest : -slope.dy < 2 * slope.error a b
  · rw [if_pos htest, if_pos htest]
    simp only [moved]
    rw [hx, int32_eq hbound.1 hbound.2, int32_eq (by omega) (by omega), error_succ_left]
  · rw [if_neg htest, if_neg htest]

/-- The second test. -/
theorem stepY_moved {a b : Nat} (hb : b < 2 ^ 30) (hlow : -2 ^ 31 ≤ 2 * slope.error a b)
    (hhigh : 2 * slope.error a b < 2 ^ 31) :
    slope.stepY (slope.moved x0 y0 a b)
      = if 2 * slope.error a b < slope.dx then slope.moved x0 y0 a (b + 1)
        else slope.moved x0 y0 a b := by
  have hdx := joins.dx_nonneg
  have hdxlt := joins.dx_lt
  have hy0 := joins.y0_lt
  have hy : y0 + b * slope.sy + slope.sy = y0 + (b + 1 : Nat) * slope.sy := by
    push_cast
    ring
  have hbound : -2 ^ 31 ≤ y0 + (b + 1 : Nat) * slope.sy ∧ y0 + (b + 1 : Nat) * slope.sy < 2 ^ 31 := by
    obtain hsy | hsy := joins.sy_eq
    · rw [hsy]
      omega
    · rw [hsy]
      omega
  have htwice : int32 ((slope.moved x0 y0 a b).err * 2) = 2 * slope.error a b := by
    rw [mul_comm]
    exact int32_eq hlow hhigh
  rw [stepY]
  simp only [htwice]
  by_cases htest : 2 * slope.error a b < slope.dx
  · rw [if_pos htest, if_pos htest]
    simp only [moved]
    rw [hy, int32_eq hbound.1 hbound.2, int32_eq (by omega) (by omega), error_succ_right]
  · rw [if_neg htest, if_neg htest]

/-! ### Moves that are missed -/

omit joins in
theorem stepX_x_of_wraps {state : LineState} (hdy : slope.dy < 2 ^ 30) (hlow : 2 ^ 31 ≤ 2 * state.err)
    (hhigh : 2 * state.err < 3 * 2 ^ 30) : slope.stepX state = state := by
  rw [stepX, if_neg]
  rw [mul_comm, int32_of_le hlow (by omega)]
  omega

omit joins in
theorem stepY_of_wraps {state : LineState} (hdx : slope.dx < 2 ^ 30) (hlow : 2 * state.err < -2 ^ 31)
    (hhigh : -3 * 2 ^ 30 ≤ 2 * state.err) : slope.stepY state = state := by
  rw [stepY, if_neg]
  rw [mul_comm, int32_of_lt (by omega) hlow]
  omega

omit joins in
@[simp]
theorem stepX_y (state : LineState) : (slope.stepX state).y = state.y := by
  unfold stepX
  split
  · rfl
  · rfl

omit joins in
@[simp]
theorem stepY_x (state : LineState) : (slope.stepY state).x = state.x := by
  unfold stepY
  split
  · rfl
  · rfl

theorem step_x {state : LineState} {a : Nat} (ha : a < 2 ^ 30) (hx : state.x = x0 + a * slope.sx) :
    ∃ a' ≤ a + 1, (slope.step state).x = x0 + a' * slope.sx := by
  have hx0 := joins.x0_lt
  rw [step, stepY_x, stepX]
  split
  · refine ⟨a + 1, le_rfl, ?_⟩
    dsimp only
    obtain hsx | hsx := joins.sx_eq
    · rw [hx, hsx, int32_eq (by omega) (by omega)]
      omega
    · rw [hx, hsx, int32_eq (by omega) (by omega)]
      omega
  · exact ⟨a, Nat.le_succ a, hx⟩

theorem step_y {state : LineState} {b : Nat} (hb : b < 2 ^ 30) (hy : state.y = y0 + b * slope.sy) :
    ∃ b' ≤ b + 1, (slope.step state).y = y0 + b' * slope.sy := by
  have hy0 := joins.y0_lt
  rw [step, stepY]
  split
  · refine ⟨b + 1, le_rfl, ?_⟩
    dsimp only
    rw [stepX_y]
    obtain hsy | hsy := joins.sy_eq
    · rw [hy, hsy, int32_eq (by omega) (by omega)]
      omega
    · rw [hy, hsy, int32_eq (by omega) (by omega)]
      omega
  · rw [stepX_y]
    exact ⟨b, Nat.le_succ b, hy⟩

theorem iterate_x (count : Nat) :
    ∀ {state : LineState} {a : Nat}, a + count < 2 ^ 30 → state.x = x0 + a * slope.sx →
      ∃ a' ≤ a + count, (slope.step^[count] state).x = x0 + a' * slope.sx := by
  induction count with
  | zero => exact fun {state a} _ hx => ⟨a, le_rfl, hx⟩
  | succ count ih =>
      intro state a hcount hx
      obtain ⟨a', ha', hx'⟩ := joins.step_x (by omega) hx
      obtain ⟨last, hlast, hend⟩ := ih (by omega) hx'
      exact ⟨last, by omega, hend⟩

theorem iterate_y (count : Nat) :
    ∀ {state : LineState} {b : Nat}, b + count < 2 ^ 30 → state.y = y0 + b * slope.sy →
      ∃ b' ≤ b + count, (slope.step^[count] state).y = y0 + b' * slope.sy := by
  induction count with
  | zero => exact fun {state b} _ hy => ⟨b, le_rfl, hy⟩
  | succ count ih =>
      intro state b hcount hy
      obtain ⟨b', hb', hy'⟩ := joins.step_y (by omega) hy
      obtain ⟨last, hlast, hend⟩ := ih (by omega) hy'
      exact ⟨last, by omega, hend⟩

/-- A side step that is missed is not made up for. -/
theorem ne_of_stays_x {start : LineState} {count total : Nat} (htotal : slope.dx = total)
    (hcount : count < total) (hx : (slope.step^[count] start).x = x0 + count * slope.sx)
    (hstays : (slope.step^[count + 1] start).x = (slope.step^[count] start).x) :
    (slope.step^[total] start).x ≠ x1 := by
  have hdx := joins.dx_lt
  obtain ⟨rest, rfl⟩ : ∃ rest, total = rest + (count + 1) := ⟨total - (count + 1), by omega⟩
  obtain ⟨a, ha, hend⟩ := joins.iterate_x rest (by omega) (hstays.trans hx)
  rw [Function.iterate_add_apply, hend, joins.x1_eq, htotal]
  obtain hsx | hsx := joins.sx_eq
  · rw [hsx]
    omega
  · rw [hsx]
    omega

theorem ne_of_stays_y {start : LineState} {count total : Nat} (htotal : slope.dy = total)
    (hcount : count < total) (hy : (slope.step^[count] start).y = y0 + count * slope.sy)
    (hstays : (slope.step^[count + 1] start).y = (slope.step^[count] start).y) :
    (slope.step^[total] start).y ≠ y1 := by
  have hdy := joins.dy_lt
  obtain ⟨rest, rfl⟩ : ∃ rest, total = rest + (count + 1) := ⟨total - (count + 1), by omega⟩
  obtain ⟨b, hb, hend⟩ := joins.iterate_y rest (by omega) (hstays.trans hy)
  rw [Function.iterate_add_apply, hend, joins.y1_eq, htotal]
  obtain hsy | hsy := joins.sy_eq
  · rw [hsy]
    omega
  · rw [hsy]
    omega

end LineSlope.Joins

/-! ### Flat lines -/

/-- The error of a line that is flatter than a diagonal, after `a` rounds of which `b` have moved up or
down. Above half the width it stays there; below, the line keeps to the diagonal. -/
structure LineSlope.FlatAt (slope : LineSlope) (a b : Nat) : Prop where
  b_le : b ≤ a
  pos : 0 < slope.error a b
  lt : 2 * slope.error a b < 3 * slope.dx
  ge : slope.dx ≤ 2 * slope.error a b ∨ (b = a ∧ slope.dx < 2 * slope.dy)

namespace LineSlope.FlatAt

theorem start (hdy : 0 ≤ slope.dy) (hflat : slope.dy < slope.dx) : slope.FlatAt 0 0 := by
  have herror : slope.error 0 0 = slope.dx - slope.dy := by simp [error]
  refine ⟨le_rfl, ?_, ?_, ?_⟩
  all_goals omega

theorem step (joins : slope.Joins x0 y0 x1 y1) (hflat : slope.dy < slope.dx) {a b : Nat}
    (ha : a < 2 ^ 30) (h : slope.FlatAt a b) (hfits : 2 * slope.error a b < 2 ^ 31) :
    ∃ b', b ≤ b' ∧ b' ≤ b + 1 ∧ slope.step (slope.moved x0 y0 a b) = slope.moved x0 y0 (a + 1) b'
      ∧ slope.FlatAt (a + 1) b' := by
  have hb := h.b_le
  have hpos := h.pos
  have hlt := h.lt
  have hge := h.ge
  have hdy := joins.dy_nonneg
  have hdylt := joins.dy_lt
  have hside := slope.error_succ_left a b
  have hboth := slope.error_succ_right (a + 1) b
  rw [LineSlope.step, joins.stepX_moved ha (by omega) hfits, if_pos (by omega),
    joins.stepY_moved (by omega) (by omega) (by omega)]
  by_cases htest : 2 * slope.error (a + 1) b < slope.dx
  · rw [if_pos htest]
    refine ⟨b + 1, by omega, le_rfl, rfl, by omega, by omega, by omega, ?_⟩
    obtain hge | ⟨rfl, hsteep⟩ := hge
    · exact .inl (by omega)
    · exact .inr ⟨rfl, hsteep⟩
  · rw [if_neg htest]
    exact ⟨b, le_rfl, Nat.le_succ b, rfl, by omega, by omega, by omega, .inl (by omega)⟩

/-- If twice the error is no `int`, then the side step is missed. -/
theorem stays (joins : slope.Joins x0 y0 x1 y1) {a b : Nat} (h : slope.FlatAt a b)
    (hwraps : 2 ^ 31 ≤ 2 * slope.error a b) :
    (slope.step (slope.moved x0 y0 a b)).x = (slope.moved x0 y0 a b).x := by
  have hlt := h.lt
  have hdx := joins.dx_lt
  rw [LineSlope.step, Joins.stepY_x,
    Joins.stepX_x_of_wraps joins.dy_lt hwraps (lt_of_lt_of_le hlt (by omega))]

end LineSlope.FlatAt

/-! ### Steep lines -/

/-- The error of a line that is as steep as a diagonal, after `b` rounds of which `a` have moved to the
side. -/
structure LineSlope.SteepAt (slope : LineSlope) (a b : Nat) : Prop where
  a_le : a ≤ b
  gt : 2 * slope.dx - 3 * slope.dy < 2 * slope.error a b
  le : 2 * slope.error a b ≤ 2 * slope.dx - slope.dy
  fits : -2 ^ 31 ≤ 2 * slope.error a b

namespace LineSlope.SteepAt

theorem start (joins : slope.Joins x0 y0 x1 y1) (hpos : 0 < slope.dy) : slope.SteepAt 0 0 := by
  have herror : slope.error 0 0 = slope.dx - slope.dy := by simp [error]
  have hdx := joins.dx_nonneg
  have hdylt := joins.dy_lt
  refine ⟨le_rfl, ?_, ?_, ?_⟩
  all_goals omega

theorem step (joins : slope.Joins x0 y0 x1 y1) (hsteep : slope.dx ≤ slope.dy) (hpos : 0 < slope.dy)
    {a b : Nat} (hb : b < 2 ^ 30) (h : slope.SteepAt a b)
    (hfits : -slope.dy < 2 * slope.error a b → -2 ^ 30 ≤ slope.error a b - slope.dy) :
    ∃ a', a ≤ a' ∧ a' ≤ a + 1 ∧ slope.step (slope.moved x0 y0 a b) = slope.moved x0 y0 a' (b + 1)
      ∧ slope.SteepAt a' (b + 1) := by
  have ha := h.a_le
  have hgt := h.gt
  have hle := h.le
  have hlow := h.fits
  have hdx := joins.dx_nonneg
  have hdxlt := joins.dx_lt
  have hside := slope.error_succ_left a b
  have hdown := slope.error_succ_right a b
  have hboth := slope.error_succ_right (a + 1) b
  rw [LineSlope.step, joins.stepX_moved (by omega) hlow (by omega)]
  by_cases htest : -slope.dy < 2 * slope.error a b
  · have hfits := hfits htest
    rw [if_pos htest, joins.stepY_moved hb (by omega) (by omega), if_pos (by omega)]
    exact ⟨a + 1, Nat.le_succ a, le_rfl, rfl, by omega, by omega, by omega, by omega⟩
  · rw [if_neg htest, joins.stepY_moved hb hlow (by omega), if_pos (by omega)]
    exact ⟨a, le_rfl, Nat.le_succ a, rfl, by omega, by omega, by omega, by omega⟩

/-- If twice the error of the second test is no `int`, then the move up or down is missed. -/
theorem stays (joins : slope.Joins x0 y0 x1 y1) {a b : Nat} (hb : b < 2 ^ 30)
    (h : slope.SteepAt a b) (htest : -slope.dy < 2 * slope.error a b)
    (hwraps : slope.error a b - slope.dy < -2 ^ 30) :
    (slope.step (slope.moved x0 y0 a b)).y = (slope.moved x0 y0 a b).y := by
  have ha := h.a_le
  have hle := h.le
  have hdx := joins.dx_lt
  have hdy := joins.dy_lt
  have hside := slope.error_succ_left a b
  rw [LineSlope.step, joins.stepX_moved (by omega) h.fits (by omega), if_pos htest,
    Joins.stepY_of_wraps hdx]
  · rfl
  · dsimp only [moved]
    omega
  · dsimp only [moved]
    omega

end LineSlope.SteepAt

end Slope

/-! ### The largest error -/

/-- Every multiple of the common divisor is a multiple of one number, up to the other one. -/
theorem exists_mul_sub_dvd {n : Nat} (hn : 0 < n) (m : Nat) {value : Int}
    (hvalue : (Nat.gcd m n : Int) ∣ value) : ∃ k < n, (n : Int) ∣ (k + 1 : Nat) * m - value := by
  obtain ⟨factor, rfl⟩ := hvalue
  have hpos : 0 ≤ (Nat.gcdA m n * factor - 1) % n := Int.emod_nonneg _ (by omega)
  have hlt : (Nat.gcdA m n * factor - 1) % n < n := Int.emod_lt_of_pos _ (by omega)
  refine ⟨((Nat.gcdA m n * factor - 1) % n).toNat, by omega, ?_⟩
  refine ⟨-((Nat.gcdA m n * factor - 1) / n * m) - Nat.gcdB m n * factor, ?_⟩
  rw [Nat.cast_add, Int.toNat_of_nonneg hpos, Int.emod_def, Nat.gcd_eq_gcd_ab]
  push_cast
  ring

section Peak

variable {n m : Nat}

theorem linePeak_dvd : (Nat.gcd n m : Int) ∣ linePeak n m := by
  rw [linePeak, Nat.cast_mul]
  exact dvd_mul_right _ _

/-- The peak is the largest multiple below one and a half times the length of the line. -/
theorem linePeak_bounds (hn : 0 < max n m) :
    2 * linePeak n m < 3 * max n m ∧ 3 * max n m ≤ 2 * linePeak n m + 2 * Nat.gcd n m := by
  have hdvd : Nat.gcd n m ∣ max n m := by
    obtain hmax | hmax := max_choice n m
    · rw [hmax]
      exact Nat.gcd_dvd_left n m
    · rw [hmax]
      exact Nat.gcd_dvd_right n m
  obtain ⟨q, hq⟩ := hdvd
  have hgcd : 0 < Nat.gcd n m := Nat.pos_of_ne_zero fun hzero => by simp [hzero] at hq; omega
  have hqpos : 0 < q := Nat.pos_of_ne_zero fun hzero => by simp [hzero] at hq; omega
  rw [linePeak, hq, Nat.mul_div_cancel_left _ hgcd]
  constructor
  · calc 2 * (Nat.gcd n m * ((3 * q - 1) / 2)) = Nat.gcd n m * (2 * ((3 * q - 1) / 2)) := by ring
      _ < Nat.gcd n m * (3 * q) := Nat.mul_lt_mul_of_pos_left (by omega) hgcd
      _ = 3 * (Nat.gcd n m * q) := by ring
  · calc 3 * (Nat.gcd n m * q) = Nat.gcd n m * (3 * q) := by ring
      _ ≤ Nat.gcd n m * (2 * ((3 * q - 1) / 2) + 2) := Nat.mul_le_mul_left _ (by omega)
      _ = 2 * (Nat.gcd n m * ((3 * q - 1) / 2)) + 2 * Nat.gcd n m := by ring

theorem le_linePeak (hn : 0 < max n m) {value : Int} (hdvd : (Nat.gcd n m : Int) ∣ value)
    (hvalue : 2 * value < 3 * (max n m : Nat)) : value ≤ linePeak n m := by
  have hbounds := linePeak_bounds hn
  obtain ⟨factor, hfactor⟩ := Int.dvd_sub hdvd linePeak_dvd
  by_contra hgt
  have hfactor_pos : 1 ≤ factor := by
    by_contra hle
    have := mul_nonpos_of_nonneg_of_nonpos (Int.natCast_nonneg (Nat.gcd n m))
      (show factor ≤ 0 by omega)
    omega
  have := mul_le_mul_of_nonneg_left hfactor_pos (Int.natCast_nonneg (Nat.gcd n m))
  omega

end Peak

/-! ### Where the error ends -/

section Slope

variable {slope : LineSlope} {n m : Nat}

theorem LineSlope.gcd_dvd_error (slope : LineSlope) (hn : slope.dx = n) (hm : slope.dy = m) (a b : Nat) :
    (Nat.gcd n m : Int) ∣ slope.error a b := by
  have hdx : (Nat.gcd n m : Int) ∣ slope.dx := by
    rw [hn]
    exact Int.natCast_dvd_natCast.mpr (Nat.gcd_dvd_left n m)
  have hdy : (Nat.gcd n m : Int) ∣ slope.dy := by
    rw [hm]
    exact Int.natCast_dvd_natCast.mpr (Nat.gcd_dvd_right n m)
  rw [LineSlope.error]
  exact Int.dvd_add (Int.dvd_sub (Int.dvd_sub hdx hdy) (dvd_mul_of_dvd_right hdy _))
    (dvd_mul_of_dvd_right hdx _)

/-- Above the diagonal's half, no more rows are taken than the line has. -/
theorem LineSlope.FlatAt.le_dy (hn : slope.dx = n) (hm : slope.dy = m) (hhalf : 2 * m ≤ n) {a b : Nat}
    (hpos : 0 < n) (ha : a ≤ n) (h : slope.FlatAt a b) : b ≤ m := by
  have hlt := h.lt
  rw [LineSlope.error, hn, hm] at hlt
  by_contra hgt
  have hrows : (m + 1 : Int) * n ≤ b * n := mul_le_mul_of_nonneg_right (by omega) (by omega)
  have hcolumns : (a : Int) * m ≤ n * m := mul_le_mul_of_nonneg_right (by omega) (by omega)
  have hexpand : (m + 1 : Int) * n = n * m + n := by ring
  omega

theorem LineSlope.FlatAt.eq_dy (hn : slope.dx = n) (hm : slope.dy = m) (hhalf : 2 * m ≤ n) {b : Nat}
    (hpos : 0 < n) (h : slope.FlatAt n b) : b = m := by
  have hle := h.le_dy hn hm hhalf hpos le_rfl
  have hge : slope.dx ≤ 2 * slope.error n b := by
    obtain hge | ⟨-, hsteep⟩ := h.ge
    · exact hge
    · omega
  rw [LineSlope.error, hn, hm] at hge
  by_contra hne
  have hrows : (b : Int) * n ≤ (m - 1) * n := mul_le_mul_of_nonneg_right (by omega) (by omega)
  have hexpand : ((m : Int) - 1) * n = n * m - n := by ring
  omega

theorem LineSlope.SteepAt.le_dx (hn : slope.dx = n) (hm : slope.dy = m) (hpos : 0 < m) {a b : Nat}
    (hb : b ≤ m) (h : slope.SteepAt a b) : a ≤ n := by
  have hgt := h.gt
  rw [LineSlope.error, hn, hm] at hgt
  by_contra hlt
  have hcolumns : (n + 1 : Int) * m ≤ a * m := mul_le_mul_of_nonneg_right (by omega) (by omega)
  have hrows : (b : Int) * n ≤ m * n := mul_le_mul_of_nonneg_right (by omega) (by omega)
  have hexpand : (n + 1 : Int) * m = m * n + m := by ring
  omega

theorem LineSlope.SteepAt.eq_dx (hn : slope.dx = n) (hm : slope.dy = m) (hpos : 0 < m) {a : Nat}
    (h : slope.SteepAt a m) : a = n := by
  have hle' := h.le_dx hn hm hpos le_rfl
  have hle := h.le
  rw [LineSlope.error, hn, hm] at hle
  by_contra hne
  have hcolumns : (a : Int) * m ≤ (n - 1) * m := mul_le_mul_of_nonneg_right (by omega) (by omega)
  have hexpand : ((n : Int) - 1) * m = m * n - m := by ring
  omega

/-- In a line that is flat enough the error comes up to its peak before the end. -/
theorem exists_flat_peak (hn : slope.dx = n) (hm : slope.dy = m) (hhalf : 2 * m ≤ n) (hpos : 0 < n) :
    ∃ round < n, ∀ b, slope.FlatAt round b → slope.error round b = linePeak n m := by
  have hmax : max n m = n := max_eq_left (by omega)
  have hwindow := linePeak_bounds (by omega : 0 < max n m)
  have hgcd : Nat.gcd n m ≤ n := Nat.gcd_le_left m hpos
  have hpeak : (Nat.gcd m n : Int) ∣ -linePeak n m := by
    rw [Nat.gcd_comm]
    exact Int.dvd_neg.mpr linePeak_dvd
  rw [hmax] at hwindow
  obtain ⟨round, hround, hdvd⟩ := exists_mul_sub_dvd hpos m hpeak
  refine ⟨round, hround, fun b hflatAt => ?_⟩
  have hlt := hflatAt.lt
  have hge : slope.dx ≤ 2 * slope.error round b := by
    obtain hge | ⟨-, hsteep⟩ := hflatAt.ge
    · exact hge
    · omega
  refine sub_eq_zero.mp (Int.eq_zero_of_abs_lt_dvd (m := n) ?_ (abs_lt.mpr ⟨?_, ?_⟩))
  · have hsum : slope.error round b - linePeak n m
        = n * (b + 1) - ((round + 1 : Nat) * m - -linePeak n m) := by
      rw [LineSlope.error, hn, hm]
      push_cast
      ring
    rw [hsum]
    exact Int.dvd_sub (dvd_mul_right _ _) hdvd
  · omega
  · omega

/-- In a steep line that is not upright the error comes down to its peak below the height. -/
theorem exists_steep_peak (hn : slope.dx = n) (hm : slope.dy = m) (hsteep : n ≤ m) (hpos : 0 < n) :
    ∃ round < m, ∀ a, slope.SteepAt a round → slope.error a round = m - linePeak n m := by
  have hmax : max n m = m := max_eq_right hsteep
  have hwindow := linePeak_bounds (by omega : 0 < max n m)
  have hgcd : Nat.gcd n m ≤ n := Nat.gcd_le_left m hpos
  have hpeak : (Nat.gcd n m : Int) ∣ m - linePeak n m :=
    Int.dvd_sub (Int.natCast_dvd_natCast.mpr (Nat.gcd_dvd_right n m)) linePeak_dvd
  rw [hmax] at hwindow
  obtain ⟨round, hround, hdvd⟩ := exists_mul_sub_dvd (by omega : 0 < m) n hpeak
  refine ⟨round, hround, fun a hsteepAt => ?_⟩
  have hgt := hsteepAt.gt
  have hle := hsteepAt.le
  refine sub_eq_zero.mp (Int.eq_zero_of_abs_lt_dvd (m := m) ?_ (abs_lt.mpr ⟨?_, ?_⟩))
  · have hsum : slope.error a round - (m - linePeak n m)
        = (round + 1 : Nat) * n - (m - linePeak n m) - m * (a + 1) := by
      rw [LineSlope.error, hn, hm]
      push_cast
      ring
    rw [hsum]
    exact Int.dvd_sub hdvd (dvd_mul_right _ _)
  · omega
  · omega

end Slope

end DuckOs

import DuckOs.Lib.Until
import DuckOs.Proof.LineError

/-!
# Where lines end

The loop of `draw_line` moves in both directions by one error term, and tests it a second time after it
has changed. For a line that is flat enough or steep enough the error comes back to where it started when
the end is reached; in between, one row too many is taken and the end is missed.
-/

namespace DuckOs

/-! ### What is claimed of a line -/

/-- From one point to the next: at most one in each direction, and closer to the end. -/
structure LineMove (x1 y1 : Int) (point next : Int × Int) : Prop where
  x_le : (next.1 - point.1).natAbs ≤ 1
  y_le : (next.2 - point.2).natAbs ≤ 1
  x_toward : (x1 - next.1).natAbs ≤ (x1 - point.1).natAbs
  y_toward : (y1 - next.2).natAbs ≤ (y1 - point.2).natAbs
  closer : (x1 - next.1).natAbs + (y1 - next.2).natAbs
    < (x1 - point.1).natAbs + (y1 - point.2).natAbs

/-- The loop ends after the points of the line, and has drawn no other ones. -/
def LineReaches (fb : Surface) (x0 y0 x1 y1 : Int) (color : UInt32) : Prop :=
  ∃ fuel points after, drawLine fuel fb x0 y0 x1 y1 color = some (points, after)
    ∧ points.length = max (x1 - x0).natAbs (y1 - y0).natAbs + 1
    ∧ points.head? = some (x0, y0)
    ∧ points.getLast? = some (x1, y1)
    ∧ points.IsChain (LineMove x1 y1)
    ∧ ∀ column row : Nat,
      ¬ (((column : Int), (row : Int)) ∈ points ∧ column < fb.width ∧ row < fb.height) →
        after.pixel (column, row) = fb.pixel (column, row)

/-- The line is not too close to a diagonal from below, and twice its error is an `int`. -/
def LineFits (dx dy : Nat) : Prop :=
  (dx ≤ dy ∧ linePeak dx dy ≤ 2 ^ 30) ∨ (2 * dy ≤ dx ∧ linePeak dx dy < 2 ^ 30)

/-! ### The loop -/

section Loop

variable {slope : LineSlope} {x1 y1 : Int} {color : UInt32}

def LineState.point (state : LineState) : Int × Int := (state.x, state.y)

def drawPoints (color : UInt32) (points : List (Int × Int)) (fb : Surface) : Surface :=
  points.foldl (fun fb point => drawPixel fb point.1 point.2 color) fb

theorem drawLineLoop_eq (fuel : Nat) :
    ∀ (state : LineState) (fb : Surface),
      drawLineLoop slope x1 y1 color fuel state fb
        = (Until.visits slope.step (fun state => state.x = x1 ∧ state.y = y1) fuel state).map
          fun states => (states.map LineState.point,
            drawPoints color (states.map LineState.point) fb) := by
  induction fuel with
  | zero =>
      intro state fb
      rfl
  | succ fuel ih =>
      intro state fb
      rw [drawLineLoop, Until.visits]
      split
      · rfl
      · rw [ih, Option.map_map, Option.map_map]
        rfl

@[simp]
theorem drawPixel_toFramebuffer (fb : Surface) (x y : Int) (color : UInt32) :
    (drawPixel fb x y color).toFramebuffer = fb.toFramebuffer := by
  unfold drawPixel
  split
  · rfl
  · exact fbPutPixel_toFramebuffer fb _ _ color

theorem drawPixel_pixel_of_ne {fb : Surface} {x y : Int} {column row : Nat}
    (hother : ¬ (((column : Int), (row : Int)) = (x, y) ∧ column < fb.width ∧ row < fb.height)) :
    (drawPixel fb x y color).pixel (column, row) = fb.pixel (column, row) := by
  unfold drawPixel
  split
  · rfl
  · rename_i hinside
    rw [fbPutPixel_pixel, if_neg]
    rintro ⟨-, hcolumn, hrow, hplace⟩
    obtain ⟨rfl, rfl⟩ := Prod.mk.inj hplace
    refine hother ⟨?_, hcolumn, hrow⟩
    rw [Prod.mk.injEq]
    omega

/-- Drawing points changes no pixel but those points that lie inside. -/
theorem drawPoints_pixel (points : List (Int × Int)) :
    ∀ (fb : Surface) (column row : Nat),
      ¬ (((column : Int), (row : Int)) ∈ points ∧ column < fb.width ∧ row < fb.height) →
        (drawPoints color points fb).pixel (column, row) = fb.pixel (column, row) := by
  induction points with
  | nil => exact fun _ _ _ _ => rfl
  | cons point rest ih =>
      intro fb column row hother
      have hsize := drawPixel_toFramebuffer fb point.1 point.2 color
      rw [drawPoints, List.foldl_cons, ← drawPoints, ih, drawPixel_pixel_of_ne]
      · rintro ⟨hpoint, hinside⟩
        exact hother ⟨List.mem_cons.mpr (.inl hpoint), hinside⟩
      · rw [hsize]
        rintro ⟨hmem, hinside⟩
        exact hother ⟨List.mem_cons_of_mem _ hmem, hinside⟩

end Loop

section Line

variable {x0 y0 x1 y1 : Int}

/-- The state before the first round. -/
def LineState.start (x0 y0 x1 y1 : Int) : LineState where
  x := x0
  y := y0
  err := int32 ((LineSlope.of x0 y0 x1 y1).dx - (LineSlope.of x0 y0 x1 y1).dy)

/-- The state after some rounds. -/
def lineAt (x0 y0 x1 y1 : Int) (count : Nat) : LineState :=
  (LineSlope.of x0 y0 x1 y1).step^[count] (LineState.start x0 y0 x1 y1)

/-- A line reaches its end when the loop is there after the right number of rounds, has not been there
before, and has moved well in each round. -/
theorem lineReaches_iff (fb : Surface) (color : UInt32) :
    LineReaches fb x0 y0 x1 y1 color
      ↔ (∀ count < max (x1 - x0).natAbs (y1 - y0).natAbs,
          (lineAt x0 y0 x1 y1 count).point ≠ (x1, y1)
            ∧ LineMove x1 y1 (lineAt x0 y0 x1 y1 count).point (lineAt x0 y0 x1 y1 (count + 1)).point)
        ∧ (lineAt x0 y0 x1 y1 (max (x1 - x0).natAbs (y1 - y0).natAbs)).point = (x1, y1) := by
  rw [LineReaches]
  generalize max (x1 - x0).natAbs (y1 - y0).natAbs = total
  have hpoint : ∀ state : LineState, state.point = (x1, y1) ↔ state.x = x1 ∧ state.y = y1 := by
    intro state
    rw [LineState.point, Prod.mk.injEq]
  constructor
  · rintro ⟨fuel, points, after, hdraw, hlength, -, -, hchain, -⟩
    rw [drawLine, drawLineLoop_eq, Option.map_eq_some_iff] at hdraw
    obtain ⟨states, hstates, hpoints⟩ := hdraw
    obtain ⟨count, -, hends, rfl⟩ := Until.visits_eq_some_iff.mp hstates
    rw [← (Prod.mk.inj hpoints).1, List.length_map, Until.length_orbit] at hlength
    obtain rfl : count = total := Nat.succ.inj hlength
    rw [← (Prod.mk.inj hpoints).1, List.isChain_map, Until.isChain_orbit_iff] at hchain
    refine ⟨fun index hindex => ⟨?_, hchain index hindex⟩, (hpoint _).mpr hends.holds⟩
    exact (hpoint _).not.mpr (hends.before index hindex)
  · rintro ⟨hmoves, hend⟩
    have hends : Until.EndsAt (LineSlope.of x0 y0 x1 y1).step
        (fun state => state.x = x1 ∧ state.y = y1) (LineState.start x0 y0 x1 y1) total :=
      ⟨(hpoint _).mp hend, fun index hindex => (hpoint _).not.mp (hmoves index hindex).1⟩
    have hvisits := Until.visits_eq_some_iff.mpr ⟨total, Nat.lt_succ_self total, hends, rfl⟩
    have hdraw := @drawLineLoop_eq (LineSlope.of x0 y0 x1 y1) x1 y1 color (total + 1)
      (LineState.start x0 y0 x1 y1) fb
    rw [hvisits] at hdraw
    refine ⟨total + 1, _, _, hdraw, ?_, ?_, ?_, ?_, drawPoints_pixel _ fb⟩
    · rw [List.length_map, Until.length_orbit]
    · rw [Until.orbit_succ]
      rfl
    · rw [List.getLast?_map, Until.getLast?_orbit, Option.map_some]
      exact congrArg some hend
    · rw [List.isChain_map, Until.isChain_orbit_iff]
      exact fun index hindex => (hmoves index hindex).2

end Line

/-! ### Good moves -/

namespace LineSlope.Joins

variable {slope : LineSlope} {x0 y0 x1 y1 : Int} (joins : slope.Joins x0 y0 x1 y1)
include joins

theorem start_eq (hof : slope = LineSlope.of x0 y0 x1 y1) :
    LineState.start x0 y0 x1 y1 = slope.moved x0 y0 0 0 := by
  have hdx := joins.dx_nonneg
  have hdxlt := joins.dx_lt
  have hdy := joins.dy_nonneg
  have hdylt := joins.dy_lt
  rw [LineState.start, ← hof, int32_eq (by omega) (by omega)]
  simp [moved, error]

/-- A move that does not go past the end in either direction is a good one. -/
theorem lineMove {a b a' b' : Nat} (ha : a ≤ a') (ha' : a' ≤ a + 1) (hb : b ≤ b') (hb' : b' ≤ b + 1)
    (hmoved : a + b < a' + b') (hdx : a' ≤ slope.dx) (hdy : b' ≤ slope.dy) :
    LineMove x1 y1 (slope.moved x0 y0 a b).point (slope.moved x0 y0 a' b').point := by
  have hx1 := joins.x1_eq
  have hy1 := joins.y1_eq
  simp only [LineState.point, moved]
  obtain hsx | hsx := joins.sx_eq
  · rw [hsx] at hx1 ⊢
    obtain hsy | hsy := joins.sy_eq
    · rw [hsy] at hy1 ⊢
      constructor <;> dsimp only <;> omega
    · rw [hsy] at hy1 ⊢
      constructor <;> dsimp only <;> omega
  · rw [hsx] at hx1 ⊢
    obtain hsy | hsy := joins.sy_eq
    · rw [hsy] at hy1 ⊢
      constructor <;> dsimp only <;> omega
    · rw [hsy] at hy1 ⊢
      constructor <;> dsimp only <;> omega

theorem point_eq_end_iff {a b : Nat} :
    (slope.moved x0 y0 a b).point = (x1, y1) ↔ a = slope.dx ∧ b = slope.dy := by
  rw [LineState.point, Prod.mk.injEq, joins.x1_eq, joins.y1_eq]
  simp only [moved]
  obtain hsx | hsx := joins.sx_eq
  · obtain hsy | hsy := joins.sy_eq
    · rw [hsx, hsy]
      omega
    · rw [hsx, hsy]
      omega
  · obtain hsy | hsy := joins.sy_eq
    · rw [hsx, hsy]
      omega
    · rw [hsx, hsy]
      omega

end LineSlope.Joins

/-! ### Which lines reach their end -/

section Reaches

variable {slope : LineSlope} {x0 y0 x1 y1 : Int} {n m : Nat}

/-- The rounds of a line that gets to its end. -/
structure LineSlope.Arrives (slope : LineSlope) (x0 y0 x1 y1 : Int) (total : Nat) : Prop where
  moves : ∀ count < total, (slope.step^[count] (slope.moved x0 y0 0 0)).point ≠ (x1, y1)
    ∧ LineMove x1 y1 (slope.step^[count] (slope.moved x0 y0 0 0)).point
      (slope.step^[count + 1] (slope.moved x0 y0 0 0)).point
  ends : (slope.step^[total] (slope.moved x0 y0 0 0)).point = (x1, y1)

/-! #### Flat lines -/

theorem flat_run (joins : slope.Joins x0 y0 x1 y1) (hflat : slope.dy < slope.dx) {count : Nat}
    (hcount : count ≤ 2 ^ 30)
    (hfits : ∀ before < count, ∀ b, slope.step^[before] (slope.moved x0 y0 0 0)
        = slope.moved x0 y0 before b → slope.FlatAt before b → 2 * slope.error before b < 2 ^ 31) :
    ∃ b, slope.step^[count] (slope.moved x0 y0 0 0) = slope.moved x0 y0 count b
      ∧ slope.FlatAt count b := by
  induction count with
  | zero => exact ⟨0, rfl, .start joins.dy_nonneg hflat⟩
  | succ count ih =>
      obtain ⟨b, hstate, hflatAt⟩ := ih (by omega) fun before hbefore =>
        hfits before (Nat.lt_succ_of_lt hbefore)
      have hfit := hfits count (Nat.lt_succ_self count) b hstate hflatAt
      obtain ⟨b', -, -, hstep, hnext⟩ := hflatAt.step joins hflat hcount hfit
      refine ⟨b', ?_, hnext⟩
      rw [Function.iterate_succ_apply', hstate, hstep]

theorem flat_arrives_iff (joins : slope.Joins x0 y0 x1 y1) (hn : slope.dx = n) (hm : slope.dy = m)
    (hflat : m < n) :
    slope.Arrives x0 y0 x1 y1 n ↔ 2 * m ≤ n ∧ linePeak n m < 2 ^ 30 := by
  have hnlt := joins.dx_lt
  have hslope : slope.dy < slope.dx := by omega
  have hmax : max n m = n := max_eq_left hflat.le
  constructor
  · rintro ⟨-, hends⟩
    have hfits : ∀ before < n, ∀ b, slope.step^[before] (slope.moved x0 y0 0 0)
        = slope.moved x0 y0 before b → slope.FlatAt before b →
          2 * slope.error before b < 2 ^ 31 := by
      intro before hbefore b hstate hflatAt
      by_contra hwraps
      refine joins.ne_of_stays_x hn hbefore ?_ ?_ (Prod.mk.inj hends).1
      · rw [hstate]
        rfl
      · rw [Function.iterate_succ_apply', hstate]
        exact hflatAt.stays joins (by omega)
    obtain ⟨b, hstate, hflatAt⟩ := flat_run joins hslope (by omega) hfits
    rw [hstate, joins.point_eq_end_iff] at hends
    have hhalf : 2 * m ≤ n := by
      obtain hge | ⟨rfl, -⟩ := hflatAt.ge
      · obtain rfl : b = m := by omega
        rw [LineSlope.error, hn, hm, mul_comm (b : Int)] at hge
        omega
      · omega
    refine ⟨hhalf, ?_⟩
    obtain ⟨round, hround, hpeak⟩ := exists_flat_peak hn hm hhalf (by omega)
    obtain ⟨b, hstate, hflatAt⟩ := flat_run joins hslope (by omega) fun before hbefore =>
      hfits before (hbefore.trans hround)
    have herror := hpeak b hflatAt
    have hfit := hfits round hround b hstate hflatAt
    omega
  · rintro ⟨hhalf, hpeak⟩
    have hfits : ∀ before < n, ∀ b, slope.step^[before] (slope.moved x0 y0 0 0)
        = slope.moved x0 y0 before b → slope.FlatAt before b →
          2 * slope.error before b < 2 ^ 31 := by
      intro before _ b _ hflatAt
      have hlt : 2 * slope.error before b < 3 * (max n m : Nat) := by
        rw [hmax, ← hn]
        exact hflatAt.lt
      have hpeak' := le_linePeak (by omega) (slope.gcd_dvd_error hn hm before b) hlt
      omega
    have hrun : ∀ count ≤ n, ∃ b, slope.step^[count] (slope.moved x0 y0 0 0)
        = slope.moved x0 y0 count b ∧ slope.FlatAt count b := fun count hcount =>
      flat_run joins hslope (by omega) fun before hbefore => hfits before (by omega)
    constructor
    · intro count hcount
      obtain ⟨b, hstate, hflatAt⟩ := hrun count hcount.le
      obtain ⟨b', hb, hb', hstep, hnext⟩ := hflatAt.step joins hslope (by omega)
        (hfits count hcount b hstate hflatAt)
      have hrows := hnext.le_dy hn hm hhalf (by omega) hcount
      rw [Function.iterate_succ_apply', hstate, hstep, Ne, joins.point_eq_end_iff]
      refine ⟨by omega, joins.lineMove (Nat.le_succ _) le_rfl hb hb' (by omega) (by omega) (by omega)⟩
    · obtain ⟨b, hstate, hflatAt⟩ := hrun n le_rfl
      rw [hstate, joins.point_eq_end_iff]
      exact ⟨hn.symm, by rw [hm, hflatAt.eq_dy hn hm hhalf (by omega)]⟩

/-! #### Steep lines -/

/-- Twice the error of the second test is an `int`. -/
def LineSlope.SteepFits (slope : LineSlope) (a b : Nat) : Prop :=
  -slope.dy < 2 * slope.error a b → -2 ^ 30 ≤ slope.error a b - slope.dy

theorem steep_run (joins : slope.Joins x0 y0 x1 y1) (hsteep : slope.dx ≤ slope.dy)
    (hpos : 0 < slope.dy) {count : Nat} (hcount : count ≤ 2 ^ 30)
    (hfits : ∀ before < count, ∀ a, slope.step^[before] (slope.moved x0 y0 0 0)
        = slope.moved x0 y0 a before → slope.SteepAt a before → slope.SteepFits a before) :
    ∃ a, slope.step^[count] (slope.moved x0 y0 0 0) = slope.moved x0 y0 a count
      ∧ slope.SteepAt a count := by
  induction count with
  | zero => exact ⟨0, rfl, .start joins hpos⟩
  | succ count ih =>
      obtain ⟨a, hstate, hsteepAt⟩ := ih (by omega) fun before hbefore =>
        hfits before (Nat.lt_succ_of_lt hbefore)
      have hfit := hfits count (Nat.lt_succ_self count) a hstate hsteepAt
      obtain ⟨a', -, -, hstep, hnext⟩ := hsteepAt.step joins hsteep hpos hcount hfit
      refine ⟨a', ?_, hnext⟩
      rw [Function.iterate_succ_apply', hstate, hstep]

theorem steep_arrives_iff (joins : slope.Joins x0 y0 x1 y1) (hn : slope.dx = n) (hm : slope.dy = m)
    (hsteep : n ≤ m) (hpos : 0 < m) :
    slope.Arrives x0 y0 x1 y1 m ↔ linePeak n m ≤ 2 ^ 30 := by
  have hmlt := joins.dy_lt
  have hslope : slope.dx ≤ slope.dy := by omega
  have hdy : 0 < slope.dy := by omega
  have hmax : max n m = m := max_eq_right hsteep
  constructor
  · rintro ⟨-, hends⟩
    have hfits : ∀ before < m, ∀ a, slope.step^[before] (slope.moved x0 y0 0 0)
        = slope.moved x0 y0 a before → slope.SteepAt a before → slope.SteepFits a before := by
      intro before hbefore a hstate hsteepAt htest
      by_contra hwraps
      refine joins.ne_of_stays_y hm hbefore ?_ ?_ (Prod.mk.inj hends).2
      · rw [hstate]
        rfl
      · rw [Function.iterate_succ_apply', hstate]
        exact hsteepAt.stays joins (by omega) htest (by omega)
    obtain rfl | hwide := Nat.eq_zero_or_pos n
    · rw [linePeak, Nat.gcd_zero_left, Nat.zero_max, Nat.div_self hpos]
      omega
    · obtain ⟨round, hround, hpeak⟩ := exists_steep_peak hn hm hsteep hwide
      obtain ⟨a, hstate, hsteepAt⟩ := steep_run joins hslope hdy (by omega) fun before hbefore =>
        hfits before (hbefore.trans hround)
      have hwindow := linePeak_bounds (by omega : 0 < max n m)
      have herror := hpeak a hsteepAt
      have hfit := hfits round hround a hstate hsteepAt (by omega)
      omega
  · intro hpeak
    have hfits : ∀ a b, slope.SteepFits a b := by
      intro a b htest
      have hdvd : (Nat.gcd n m : Int) ∣ m - slope.error a b :=
        Int.dvd_sub (Int.natCast_dvd_natCast.mpr (Nat.gcd_dvd_right n m))
          (slope.gcd_dvd_error hn hm a b)
      have hpeak' := le_linePeak (by omega) hdvd (by omega)
      omega
    have hrun : ∀ count ≤ m, ∃ a, slope.step^[count] (slope.moved x0 y0 0 0)
        = slope.moved x0 y0 a count ∧ slope.SteepAt a count := fun count hcount =>
      steep_run joins hslope hdy (by omega) fun before _ a _ _ => hfits a before
    constructor
    · intro count hcount
      obtain ⟨a, hstate, hsteepAt⟩ := hrun count hcount.le
      obtain ⟨a', ha, ha', hstep, hnext⟩ := hsteepAt.step joins hslope hdy (by omega) (hfits a count)
      have hcolumns := hnext.le_dx hn hm hpos hcount
      rw [Function.iterate_succ_apply', hstate, hstep, Ne, joins.point_eq_end_iff]
      refine ⟨by omega, joins.lineMove ha ha' (Nat.le_succ _) le_rfl (by omega) (by omega) (by omega)⟩
    · obtain ⟨a, hstate, hsteepAt⟩ := hrun m le_rfl
      rw [hstate, joins.point_eq_end_iff]
      exact ⟨by rw [hn, hsteepAt.eq_dx hn hm hpos], hm.symm⟩

end Reaches

/-- A line reaches its end when it is not too close to a diagonal from below and twice its error is an
`int`; no other line does, whatever is drawn on. -/
theorem drawLine_reaches_iff (fb : Surface) {x0 y0 x1 y1 : Int} (color : UInt32)
    (hx0 : x0.natAbs < 2 ^ 29) (hy0 : y0.natAbs < 2 ^ 29) (hx1 : x1.natAbs < 2 ^ 29)
    (hy1 : y1.natAbs < 2 ^ 29) :
    LineReaches fb x0 y0 x1 y1 color ↔ LineFits (x1 - x0).natAbs (y1 - y0).natAbs := by
  obtain ⟨joins, hn, hm⟩ := LineSlope.of_joins hx0 hy0 hx1 hy1
  have hstart := joins.start_eq rfl
  have hreaches : LineReaches fb x0 y0 x1 y1 color
      ↔ (LineSlope.of x0 y0 x1 y1).Arrives x0 y0 x1 y1 (max (x1 - x0).natAbs (y1 - y0).natAbs) := by
    rw [lineReaches_iff, lineAt]
    simp only [lineAt, hstart]
    exact ⟨fun ⟨hmoves, hends⟩ => ⟨hmoves, hends⟩, fun ⟨hmoves, hends⟩ => ⟨hmoves, hends⟩⟩
  rw [hreaches]
  generalize (x1 - x0).natAbs = n at hn ⊢
  generalize (y1 - y0).natAbs = m at hm ⊢
  obtain hflat | hsteep := Nat.lt_or_ge m n
  · rw [max_eq_left hflat.le, flat_arrives_iff joins hn hm hflat, LineFits]
    omega
  · rw [max_eq_right hsteep]
    obtain rfl | hpos := Nat.eq_zero_or_pos m
    · obtain rfl : n = 0 := by omega
      refine iff_of_true ⟨fun count hcount => absurd hcount (Nat.not_lt_zero _), ?_⟩ (.inl ⟨le_rfl, ?_⟩)
      · exact joins.point_eq_end_iff.mpr ⟨hn.symm, hm.symm⟩
      · simp [linePeak]
    · rw [steep_arrives_iff joins hn hm hsteep hpos, LineFits]
      omega

/-- Two to the side and one down. -/
theorem drawLine_reaches_knight : LineReaches ⟨⟨4, 4⟩, true, fun _ => 0⟩ 0 0 2 1 7 :=
  (drawLine_reaches_iff _ 7 (by decide) (by decide) (by decide) (by decide)).mpr
    (.inr ⟨by decide, by decide⟩)

/-- Three to the side and two down: after three rounds the line is at the column of its end, a row too
low. -/
theorem drawLine_misses : ¬ LineReaches ⟨⟨4, 4⟩, true, fun _ => 0⟩ 0 0 3 2 7 := by
  intro hreaches
  have hend := (lineReaches_iff _ _).mp hreaches |>.2
  have hlast : (lineAt 0 0 3 2 3).point = (3, 3) := by decide
  exact absurd (hlast.symm.trans hend) (by decide)

end DuckOs

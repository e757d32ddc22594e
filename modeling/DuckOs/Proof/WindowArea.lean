import DuckOs.Desktop.WindowArea
import Mathlib.Data.Int.ConditionallyCompleteOrder
import Mathlib.Data.Set.Prod
import Mathlib.Order.ConditionallyCompleteLattice.Basic
import Mathlib.Order.Interval.Set.Basic

/-!
# Windows are found where they are

The position of a window is signed, the cursor is not: for a window that has been moved over the left or
upper edge of the screen, its position as an unsigned number lies behind every point.
-/

namespace DuckOs

namespace DesktopWindow

/-- The position is of type `int`, and so are the coordinates behind the window. -/
structure Fits (window : DesktopWindow) : Prop where
  x_ge : -2 ^ 31 ≤ window.x
  y_ge : -2 ^ 31 ≤ window.y
  right_lt : window.x + window.width < 2 ^ 31
  bottom_lt : window.y + window.height < 2 ^ 31

def area (window : DesktopWindow) : Set (Int × Int) :=
  Set.Ico window.x (window.x + window.width) ×ˢ Set.Ico window.y (window.y + window.height)

theorem mem_area_iff {window : DesktopWindow} {x y : Int} :
    (x, y) ∈ window.area ↔ (window.x ≤ x ∧ x < window.x + window.width)
      ∧ window.y ≤ y ∧ y < window.y + window.height :=
  Iff.rfl

/-- What a window makes of a point: it contains the point, it is focused if it is the topmost one, and it
is dragged in its title bar beside the controls. -/
structure Answers (window : DesktopWindow) (x y : Nat) : Prop where
  contains : window.containsPoint x y = true ↔ ((x : Int), (y : Int)) ∈ window.area
  focused : ∀ below : List DesktopWindow,
    desktopFindTopmostWindow (below ++ [window]) (below.length + 1) x y = below.length
      ↔ ((x : Int), (y : Int)) ∈ window.area
  dragged : window.titleHitTest x y = true
    ↔ ((x : Int), (y : Int)) ∈ window.area ∧ (y : Int) < window.y + desktopWindowTitleHeight
      ∧ window.controlHitTest x y = none

variable {window : DesktopWindow} {x y : Nat}

theorem Fits.right_eq (hfits : window.Fits) : window.right = window.x + window.width := by
  have hx := hfits.x_ge
  have hright := hfits.right_lt
  rw [right, int32, int32, Int.add_bmod_bmod, ← int32, int32_eq (by omega) hright]

theorem Fits.bottom_eq (hfits : window.Fits) : window.bottom = window.y + window.height := by
  have hy := hfits.y_ge
  have hbottom := hfits.bottom_lt
  rw [bottom, int32, int32, Int.add_bmod_bmod, ← int32, int32_eq (by omega) hbottom]

/-- Only a window whose position is not negative contains points. -/
theorem containsPoint_iff (hvisible : window.isVisible = true) (hfits : window.Fits)
    (hx : x < 2 ^ 31) (hy : y < 2 ^ 31) :
    window.containsPoint x y = true
      ↔ 0 ≤ window.x ∧ 0 ≤ window.y ∧ ((x : Int), (y : Int)) ∈ window.area := by
  have hxge := hfits.x_ge
  have hyge := hfits.y_ge
  have hright := hfits.right_lt
  have hbottom := hfits.bottom_lt
  rw [containsPoint, hvisible, hfits.right_eq, hfits.bottom_eq, mem_area_iff, if_neg (by decide)]
  by_cases hleft : window.x < 0 ∧ x < uint32 (-window.x)
  · rw [if_pos hleft]
    exact iff_of_false (by decide) fun hinside => absurd hinside.1 (by omega)
  · rw [if_neg hleft]
    by_cases hup : window.y < 0 ∧ y < uint32 (-window.y)
    · rw [if_pos hup]
      exact iff_of_false (by decide) fun hinside => absurd hinside.2.1 (by omega)
    · rw [if_neg hup, decide_eq_true_eq]
      simp only [uint32]
      omega

/-- From a window that contains the point, the loop goes no further down. -/
theorem desktopFindTopmostWindow_append (below : List DesktopWindow) :
    desktopFindTopmostWindow (below ++ [window]) (below.length + 1) x y = below.length
      ↔ window.containsPoint x y = true := by
  have hbelow : ∀ count, ∀ index ∈ desktopTopmostLoop (below ++ [window]) x y count, index < count := by
    intro count
    induction count with
    | zero => exact fun index hindex => nomatch hindex
    | succ count ih =>
        intro index hindex
        rw [desktopTopmostLoop] at hindex
        split at hindex
        · obtain rfl := Option.some.inj hindex
          exact Nat.lt_succ_self count
        · exact Nat.lt_succ_of_lt (ih index hindex)
  have hlast : (below ++ [window]).getD below.length .zero = window := by simp
  rw [desktopFindTopmostWindow, desktopTopmostLoop, hlast]
  by_cases hcontains : window.containsPoint x y = true
  · rw [if_pos hcontains]
    exact iff_of_true rfl hcontains
  · rw [if_neg hcontains]
    refine iff_of_false (fun hfound => ?_) hcontains
    cases hloop : desktopTopmostLoop (below ++ [window]) x y below.length with
    | none =>
        rw [hloop, Option.getD_none] at hfound
        omega
    | some index =>
        rw [hloop, Option.getD_some] at hfound
        exact absurd (hbelow _ index hloop) (by omega)

/-- A window is found by its visible part where its position is not negative, and nowhere else. -/
theorem answers_iff (hvisible : window.isVisible = true) (hfits : window.Fits) (hx : x < 2 ^ 31)
    (hy : y < 2 ^ 31) :
    window.Answers x y
      ↔ (0 ≤ window.x ∧ 0 ≤ window.y) ∨ ((x : Int), (y : Int)) ∉ window.area := by
  have hcontains := containsPoint_iff hvisible hfits hx hy
  constructor
  · intro hanswers
    by_cases harea : ((x : Int), (y : Int)) ∈ window.area
    · obtain ⟨hleft, hup, -⟩ := hcontains.mp (hanswers.contains.mpr harea)
      exact .inl ⟨hleft, hup⟩
    · exact .inr harea
  · intro hplaced
    have hiff : window.containsPoint x y = true ↔ ((x : Int), (y : Int)) ∈ window.area := by
      rw [hcontains]
      tauto
    refine ⟨hiff, fun below => ?_, ?_⟩
    · rw [desktopFindTopmostWindow_append, hiff]
    · rw [titleHitTest, decide_eq_true_eq, uint32_int32, hiff]
      refine and_congr_right fun harea => and_congr_left fun _ => ?_
      have hyge : 0 ≤ window.y := (hcontains.mp (hiff.mpr harea)).2.1
      have hbottom := hfits.bottom_lt
      rw [← Int.ofNat_lt, uint32_eq (by omega) (by dsimp only [desktopWindowTitleHeight]; omega)]

/-- The first window of the desktop, seen at a point of its title bar. -/
theorem answers_iff_welcome :
    (init 1 40 32 268 132 (ascii "Welcome")).Answers 50 40
      ↔ (0 ≤ (40 : Int) ∧ 0 ≤ (32 : Int))
        ∨ (((50 : Nat) : Int), ((40 : Nat) : Int))
          ∉ (init 1 40 32 268 132 (ascii "Welcome")).area :=
  answers_iff (by decide) ⟨by decide, by decide, by decide, by decide⟩ (by decide) (by decide)

/-- The same window, dragged ten pixels over the left edge: it may stay there, but the title bar that is
left is not hit. -/
theorem leftEdge_not_answers :
    (init 1 (-10) 32 268 132 (ascii "Welcome")).clampToScreen 640 456
        = init 1 (-10) 32 268 132 (ascii "Welcome")
      ∧ ¬ (init 1 (-10) 32 268 132 (ascii "Welcome")).Answers 5 40 := by
  refine ⟨by decide, fun hanswers => ?_⟩
  have hcontains := hanswers.contains.mpr ⟨⟨by decide, by decide⟩, by decide, by decide⟩
  exact absurd hcontains (by decide)

end DesktopWindow

end DuckOs

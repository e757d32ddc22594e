import DuckOs.Proof.DrawFill

/-!
# What rectangles cover

`draw_fill_rect` paints the part of its rectangle that is on the framebuffer and `draw_rect` that of the
border, wherever the rectangle is.
-/

namespace DuckOs

section Rectangles

variable {x y width height : Int} {color : UInt32}

/-- `[x, x + width)` by `[y, y + height)`. -/
def rectangle (x y width height : Int) : Set (Nat × Nat) :=
  {place | (x ≤ place.1 ∧ (place.1 : Int) < x + width)
    ∧ y ≤ place.2 ∧ (place.2 : Int) < y + height}

/-- The places of a rectangle at one of its edges. -/
def rectangleBorder (x y width height : Int) : Set (Nat × Nat) :=
  {place | place ∈ rectangle x y width height
    ∧ ((place.1 : Int) = x ∨ (place.1 : Int) = x + width - 1 ∨ (place.2 : Int) = y
      ∨ (place.2 : Int) = y + height - 1)}

theorem paint_rectangle_of_empty (fb : Surface) {area : Set (Nat × Nat)}
    (harea : area ⊆ rectangle x y width height) (hempty : width ≤ 0 ∨ height ≤ 0) :
    fb.paint area color = fb := by
  refine Surface.paint_eq_self fun place _ hplace => ?_
  obtain ⟨⟨hleft, hright⟩, htop, hbottom⟩ := harea hplace
  omega

theorem drawVlineLoop_eq_paint (x : Int) (count : Nat) :
    ∀ (currentY : Int) (fb : Surface), 0 ≤ currentY →
      drawVlineLoop x color count currentY fb
        = fb.paint {place | currentY ≤ place.2 ∧ (place.2 : Int) < currentY + count
            ∧ place.1 = x.toNat} color := by
  induction count with
  | zero =>
      intro currentY fb _
      refine (Surface.paint_eq_self fun place _ hplace => ?_).symm
      obtain ⟨hlow, hhigh, -⟩ := hplace
      omega
  | succ count ih =>
      intro currentY fb hcurrent
      rw [drawVlineLoop, fbPutPixel_eq_paint, ih (currentY + 1) _ (by omega), Surface.paint_paint]
      refine congrArg (fb.paint · color) ?_
      ext ⟨column, row⟩
      simp only [Set.mem_union, Set.mem_singleton_iff, Set.mem_ofPred_eq, Prod.mk.injEq]
      omega

theorem drawVline_eq_paint (fb : Surface) (x y height : Int) :
    drawVline fb x y height color
      = fb.paint {place | 0 < height ∧ (y ≤ place.2 ∧ (place.2 : Int) < int32 (y + height))
          ∧ (place.2 : Int) < int32 fb.height ∧ (place.1 : Int) = x ∧ x < int32 fb.width} color := by
  rw [drawVline]
  split
  · refine (Surface.paint_eq_self fun place _ hplace => ?_).symm
    obtain ⟨hheight, -, -, hcolumn, hwidth⟩ := hplace
    omega
  · rw [drawVlineLoop_eq_paint]
    · refine congrArg (fb.paint · color) ?_
      ext ⟨column, row⟩
      simp only [Set.mem_ofPred_eq, drawMax, drawMin]
      split <;> split <;> omega
    · rw [drawMax]
      split <;> omega

/-- On a framebuffer of this size the rectangle is filled as far as it is on it. -/
theorem drawFillRect_eq_rectangle {fb : Surface} (hfbWidth : fb.width < 2 ^ 31)
    (hfbHeight : fb.height < 2 ^ 31) (hx : -2 ^ 31 ≤ x) (hy : -2 ^ 31 ≤ y)
    (hright : x + width < 2 ^ 31) (hbottom : y + height < 2 ^ 31) :
    drawFillRect fb x y width height color = fb.paint (rectangle x y width height) color := by
  by_cases hempty : width ≤ 0 ∨ height ≤ 0
  · rw [drawFillRect, if_pos hempty, paint_rectangle_of_empty fb subset_rfl hempty]
  · rw [drawFillRect_eq_paint fb (by omega) (by omega)]
    have hfbWidthInt : int32 fb.width = fb.width := int32_eq (by omega) (by omega)
    have hfbHeightInt : int32 fb.height = fb.height := int32_eq (by omega) (by omega)
    have hrightInt : int32 (x + width) = x + width := int32_eq (by omega) hright
    have hbottomInt : int32 (y + height) = y + height := int32_eq (by omega) hbottom
    rw [hfbWidthInt, hfbHeightInt, hrightInt, hbottomInt]
    apply Surface.paint_congr
    rintro ⟨column, row⟩ ⟨hcolumn, hrow⟩
    simp only [rectangle, Set.mem_ofPred_eq]
    dsimp only at hcolumn hrow
    omega

/-- Of the border the four lines draw what is on the framebuffer. -/
theorem drawRect_eq_border {fb : Surface} (hfbWidth : fb.width < 2 ^ 31)
    (hfbHeight : fb.height < 2 ^ 31) (hx : -2 ^ 31 ≤ x) (hy : -2 ^ 31 ≤ y)
    (hright : x + width < 2 ^ 31) (hbottom : y + height < 2 ^ 31) :
    drawRect fb x y width height color = fb.paint (rectangleBorder x y width height) color := by
  by_cases hempty : width ≤ 0 ∨ height ≤ 0
  · rw [drawRect, if_pos hempty, paint_rectangle_of_empty fb (fun _ hplace => hplace.1) hempty]
  · have hfbWidthInt : int32 fb.width = fb.width := int32_eq (by omega) (by omega)
    have hfbHeightInt : int32 fb.height = fb.height := int32_eq (by omega) (by omega)
    have hrightInt : int32 (x + width) = x + width := int32_eq (by omega) hright
    have hbottomInt : int32 (y + height) = y + height := int32_eq (by omega) hbottom
    have hlastColumn : int32 (x + width - 1) = x + width - 1 := int32_eq (by omega) (by omega)
    have hlastRow : int32 (y + height - 1) = y + height - 1 := int32_eq (by omega) (by omega)
    rw [drawRect, if_neg hempty, hlastColumn, hlastRow]
    dsimp only
    rw [drawHline_eq_paint, drawHline_eq_paint, drawVline_eq_paint, drawVline_eq_paint,
      Surface.paint_paint, Surface.paint_paint, Surface.paint_paint]
    simp only [Surface.paint_toFramebuffer]
    rw [hfbWidthInt, hfbHeightInt, hrightInt, hbottomInt]
    apply Surface.paint_congr
    rintro ⟨column, row⟩ ⟨hcolumn, hrow⟩
    simp only [Set.mem_union, rectangleBorder, rectangle, Set.mem_ofPred_eq]
    omega

/-- Filled rectangles and borders, anywhere: the places of the shape that the framebuffer has get the
colour, the others stay as they are, and nothing is drawn without a positive size. -/
theorem rectangles_paint_their_shape (fb : Surface) (x y width height : Int) (color : UInt32)
    (hfbWidth : fb.width < 2 ^ 31) (hfbHeight : fb.height < 2 ^ 31) (hx : -2 ^ 31 ≤ x)
    (hy : -2 ^ 31 ≤ y) (hright : x + width < 2 ^ 31) (hbottom : y + height < 2 ^ 31) :
    drawFillRect fb x y width height color = fb.paint (rectangle x y width height) color
      ∧ drawRect fb x y width height color = fb.paint (rectangleBorder x y width height) color
      ∧ (width ≤ 0 ∨ height ≤ 0 →
        drawFillRect fb x y width height color = fb ∧ drawRect fb x y width height color = fb) :=
  ⟨drawFillRect_eq_rectangle hfbWidth hfbHeight hx hy hright hbottom,
    drawRect_eq_border hfbWidth hfbHeight hx hy hright hbottom,
    fun hempty => ⟨if_pos hempty, if_pos hempty⟩⟩

/-- A rectangle that begins left of the framebuffer. -/
theorem rectangles_paint_their_shape_left :
    drawRect ⟨⟨4, 4⟩, true, fun _ => 0⟩ (-1) 1 3 2 7
      = Surface.paint ⟨⟨4, 4⟩, true, fun _ => 0⟩ (rectangleBorder (-1) 1 3 2) 7 :=
  (rectangles_paint_their_shape ⟨⟨4, 4⟩, true, fun _ => 0⟩ (-1) 1 3 2 7 (by decide) (by decide)
    (by decide) (by decide) (by decide) (by decide)).2.1

end Rectangles

end DuckOs

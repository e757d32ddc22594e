import DuckOs.Gfx.Draw
import Mathlib.Data.Set.Prod
import Mathlib.Order.Interval.Set.Basic

/-!
# What a filled rectangle covers

`Surface.paint` colours a set of places at once. Filling a rectangle word by word comes to the same as
painting the part of it that is on the framebuffer.
-/

namespace DuckOs

namespace Surface

/-- The places that a framebuffer has. -/
def places (fb : Surface) : Set (Nat × Nat) := {place | place.1 < fb.width ∧ place.2 < fb.height}

open Classical in
/-- Some places in a new colour, the others as before. -/
noncomputable def paint (fb : Surface) (area : Set (Nat × Nat)) (color : UInt32) : Surface :=
  { fb with
    pixel := fun place =>
      if fb.supported ∧ place ∈ fb.places ∧ place ∈ area then color else fb.pixel place }

/-- The places that are given the colour, whichever it is. -/
def painted (draw : UInt32 → Surface) : Set (Nat × Nat) :=
  {place | ∀ color, (draw color).pixel place = color}

variable {fb : Surface} {area : Set (Nat × Nat)} {color : UInt32}

@[simp]
theorem paint_toFramebuffer : (fb.paint area color).toFramebuffer = fb.toFramebuffer := rfl

theorem paint_pixel_of_mem {place : Nat × Nat}
    (hmem : fb.supported = true ∧ place ∈ fb.places ∧ place ∈ area) :
    (fb.paint area color).pixel place = color :=
  if_pos hmem

theorem paint_pixel_of_notMem {place : Nat × Nat}
    (hmem : ¬ (fb.supported = true ∧ place ∈ fb.places ∧ place ∈ area)) :
    (fb.paint area color).pixel place = fb.pixel place :=
  if_neg hmem

theorem ext_pixel {other : Surface} (hsize : fb.toFramebuffer = other.toFramebuffer)
    (hsupported : fb.supported = other.supported)
    (hpixel : ∀ place, fb.pixel place = other.pixel place) : fb = other := by
  obtain ⟨size, supported, pixel⟩ := fb
  obtain ⟨size', supported', pixel'⟩ := other
  obtain rfl : size = size' := hsize
  obtain rfl : supported = supported' := hsupported
  obtain rfl : pixel = pixel' := funext hpixel
  rfl

theorem paint_eq_self (hnone : ∀ place ∈ fb.places, place ∉ area) : fb.paint area color = fb :=
  ext_pixel rfl rfl fun place =>
    paint_pixel_of_notMem fun hinside => hnone place hinside.2.1 hinside.2.2

/-- Only the places on the framebuffer count. -/
theorem paint_congr {other : Set (Nat × Nat)}
    (hsame : ∀ place ∈ fb.places, place ∈ area ↔ place ∈ other) :
    fb.paint area color = fb.paint other color := by
  refine ext_pixel rfl rfl fun place => ?_
  by_cases harea : fb.supported = true ∧ place ∈ fb.places ∧ place ∈ area
  · obtain ⟨hsupported, hplace, hmem⟩ := harea
    rw [paint_pixel_of_mem ⟨hsupported, hplace, hmem⟩,
      paint_pixel_of_mem ⟨hsupported, hplace, (hsame place hplace).mp hmem⟩]
  · rw [paint_pixel_of_notMem harea, paint_pixel_of_notMem]
    rintro ⟨hsupported, hplace, hmem⟩
    exact harea ⟨hsupported, hplace, (hsame place hplace).mpr hmem⟩

theorem paint_paint (other : Set (Nat × Nat)) :
    (fb.paint area color).paint other color = fb.paint (area ∪ other) color := by
  refine ext_pixel rfl rfl fun place => ?_
  by_cases hother : (fb.paint area color).supported = true ∧ place ∈ (fb.paint area color).places
      ∧ place ∈ other
  · have hunion : fb.supported = true ∧ place ∈ fb.places ∧ place ∈ area ∪ other :=
      ⟨hother.1, hother.2.1, .inr hother.2.2⟩
    rw [paint_pixel_of_mem hother, paint_pixel_of_mem hunion]
  · rw [paint_pixel_of_notMem hother]
    by_cases harea : fb.supported = true ∧ place ∈ fb.places ∧ place ∈ area
    · have hunion : fb.supported = true ∧ place ∈ fb.places ∧ place ∈ area ∪ other :=
        ⟨harea.1, harea.2.1, .inl harea.2.2⟩
      rw [paint_pixel_of_mem harea, paint_pixel_of_mem hunion]
    · rw [paint_pixel_of_notMem harea, paint_pixel_of_notMem]
      rintro ⟨hsupported, hplace, hmem | hmem⟩
      · exact harea ⟨hsupported, hplace, hmem⟩
      · exact hother ⟨hsupported, hplace, hmem⟩

/-- What is painted can be told from the words behind. -/
theorem mem_painted_paint {place : Nat × Nat} :
    place ∈ painted (fb.paint area) ↔ fb.supported = true ∧ place ∈ fb.places ∧ place ∈ area := by
  constructor
  · intro hpainted
    by_contra hout
    have hcolor : ∀ color, fb.pixel place = color := by
      intro color
      rw [← hpainted color, paint_pixel_of_notMem hout]
    exact absurd ((hcolor 0).symm.trans (hcolor 1)) (by decide)
  · exact fun hinside color => paint_pixel_of_mem hinside

theorem painted_const : painted (fun _ => fb) = ∅ := by
  ext place
  refine iff_of_false (fun hpainted => ?_) (Set.notMem_empty place)
  exact absurd ((hpainted 0).symm.trans (hpainted 1)) (by decide)

end Surface

section Fill

variable {color : UInt32}

theorem fbPutPixel_eq_paint (fb : Surface) (x y : Nat) (color : UInt32) :
    fbPutPixel fb x y color = fb.paint {(x, y)} color := by
  refine Surface.ext_pixel (fbPutPixel_toFramebuffer fb x y color) (fbPutPixel_supported fb x y color)
    fun place => ?_
  rw [fbPutPixel_pixel]
  split
  · rename_i hinside
    obtain ⟨hsupported, hx, hy, rfl⟩ := hinside
    exact (Surface.paint_pixel_of_mem ⟨hsupported, ⟨hx, hy⟩, rfl⟩).symm
  · rename_i hout
    refine (Surface.paint_pixel_of_notMem fun hinside => hout ?_).symm
    obtain ⟨hsupported, hplace, rfl⟩ := hinside
    exact ⟨hsupported, hplace.1, hplace.2, rfl⟩

/-- The words of one row from a column on. -/
theorem drawHlineLoop_eq_paint (y : Int) (count : Nat) :
    ∀ (currentX : Int) (fb : Surface), 0 ≤ currentX →
      drawHlineLoop y color count currentX fb
        = fb.paint {place | currentX ≤ place.1 ∧ (place.1 : Int) < currentX + count
            ∧ place.2 = y.toNat} color := by
  induction count with
  | zero =>
      intro currentX fb _
      exact (Surface.paint_eq_self fun place _ hplace => absurd hplace.1 (by
        have := hplace.2.1
        omega)).symm
  | succ count ih =>
      intro currentX fb hcurrent
      rw [drawHlineLoop, fbPutPixel_eq_paint, ih (currentX + 1) _ (by omega), Surface.paint_paint]
      refine congrArg (fb.paint · color) ?_
      ext ⟨column, row⟩
      simp only [Set.mem_union, Set.mem_singleton_iff, Set.mem_ofPred_eq, Prod.mk.injEq]
      omega

theorem drawHline_eq_paint (fb : Surface) (x y width : Int) :
    drawHline fb x y width color
      = fb.paint {place | 0 < width ∧ (x ≤ place.1 ∧ (place.1 : Int) < int32 (x + width))
          ∧ (place.1 : Int) < int32 fb.width ∧ (place.2 : Int) = y ∧ y < int32 fb.height} color := by
  rw [drawHline]
  split
  · rename_i hout
    exact (Surface.paint_eq_self fun place _ hplace => by
      obtain ⟨hwidth, -, -, hrow, hheight⟩ := hplace
      omega).symm
  · rename_i hinside
    rw [drawHlineLoop_eq_paint]
    · refine congrArg (fb.paint · color) ?_
      ext ⟨column, row⟩
      simp only [Set.mem_ofPred_eq, drawMax, drawMin]
      split <;> split <;> omega
    · rw [drawMax]
      split <;> omega

theorem drawFillRectLoop_eq_paint (x width : Int) (count : Nat) :
    ∀ (currentY : Int) (fb : Surface),
      drawFillRectLoop x width color count currentY fb
        = fb.paint {place | 0 < width ∧ (x ≤ place.1 ∧ (place.1 : Int) < int32 (x + width))
            ∧ (place.1 : Int) < int32 fb.width ∧ currentY ≤ place.2
            ∧ (place.2 : Int) < currentY + count ∧ (place.2 : Int) < int32 fb.height} color := by
  induction count with
  | zero =>
      intro currentY fb
      exact (Surface.paint_eq_self fun place _ hplace => by
        obtain ⟨-, -, -, hlow, hhigh, -⟩ := hplace
        omega).symm
  | succ count ih =>
      intro currentY fb
      rw [drawFillRectLoop, drawHline_eq_paint, ih (currentY + 1) _, Surface.paint_paint]
      refine congrArg (fb.paint · color) ?_
      ext ⟨column, row⟩
      simp only [Set.mem_union, Set.mem_ofPred_eq, Surface.paint_toFramebuffer]
      omega

/-- A filled rectangle is painted as far as it is on the framebuffer. -/
theorem drawFillRect_eq_paint (fb : Surface) {x y width height : Int} (hwidth : 0 < width)
    (hheight : 0 < height) :
    drawFillRect fb x y width height color
      = fb.paint {place | (x ≤ place.1 ∧ (place.1 : Int) < int32 (x + width))
          ∧ (y ≤ place.2 ∧ (place.2 : Int) < int32 (y + height))
          ∧ (place.1 : Int) < int32 fb.width ∧ (place.2 : Int) < int32 fb.height} color := by
  rw [drawFillRect, if_neg (by omega), drawFillRectLoop_eq_paint]
  refine congrArg (fb.paint · color) ?_
  ext ⟨column, row⟩
  simp only [Set.mem_ofPred_eq, drawMax, drawMin]
  generalize int32 (x + width) = right
  generalize int32 (y + height) = bottom
  generalize int32 fb.width = screenWidth
  generalize int32 fb.height = screenHeight
  split <;> split <;> omega

/-- The pixels that a filled rectangle gives its colour. -/
theorem mem_painted_fillRect {fb : Surface} {x y width height : Int} {column row : Nat} :
    (column, row) ∈ Surface.painted (drawFillRect fb x y width height)
      ↔ fb.supported = true ∧ (column < fb.width ∧ row < fb.height) ∧ (0 < width ∧ 0 < height)
        ∧ (x ≤ column ∧ (column : Int) < int32 (x + width))
        ∧ (y ≤ row ∧ (row : Int) < int32 (y + height))
        ∧ (column : Int) < int32 fb.width ∧ (row : Int) < int32 fb.height := by
  by_cases hsize : 0 < width ∧ 0 < height
  · have hdraw : drawFillRect fb x y width height = fb.paint _ :=
      funext fun color => drawFillRect_eq_paint fb hsize.1 hsize.2
    rw [hdraw, Surface.mem_painted_paint]
    exact and_congr_right fun _ => and_congr_right fun _ => (and_iff_right hsize).symm
  · have hdraw : drawFillRect fb x y width height = fun _ => fb :=
      funext fun color => if_pos (by omega)
    rw [hdraw, Surface.painted_const]
    exact iff_of_false (Set.notMem_empty _) fun hpainted => hsize hpainted.2.2.1

end Fill

end DuckOs

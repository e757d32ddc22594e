import DuckOs.Proof.DrawFill
import DuckOs.Proof.WindowArea

/-!
# Windows are painted where they are

`desktop_clip_dimension` counts the columns and rows of a window that are on the framebuffer;
`draw_fill_rect` takes them from the position of the window on, wherever that is.
-/

namespace DuckOs

/-- The part of an area that is on the framebuffer. -/
def Surface.shown (fb : Surface) (area : Set (Int × Int)) : Set (Nat × Nat) :=
  {place ∈ fb.places | ((place.1 : Int), (place.2 : Int)) ∈ area}

/-! ### One dimension -/

/-- A column, or a row, that the fill reaches. -/
structure ClipPaints (start : Int) (size limit column : Nat) : Prop where
  clip_pos : 0 < desktopClipDimension start size limit
  ge : start ≤ column
  lt : (column : Int) < int32 (start + desktopClipDimension start size limit)
  lt_limit : (column : Int) < int32 limit

section Clip

variable {start : Int} {size limit column : Nat}

theorem int32_natCast_lt {limit : Nat} (hlimit : limit < 2 ^ 32) :
    (limit < 2 ^ 31 ∧ int32 limit = limit) ∨ (2 ^ 31 ≤ limit ∧ int32 limit < 0) := by
  obtain hsmall | hlarge := Nat.lt_or_ge limit (2 ^ 31)
  · exact .inl ⟨hsmall, int32_eq (by omega) (by omega)⟩
  · rw [int32_of_le (by omega) (by omega)]
    exact .inr ⟨hlarge, by omega⟩

/-- On a framebuffer of this size the columns are counted as they are. -/
theorem desktopClipDimension_eq (hstart : -2 ^ 31 ≤ start) (hstop : start + size < 2 ^ 31)
    (hlimit : limit < 2 ^ 31) :
    desktopClipDimension start size limit
      = if size = 0 ∨ (limit : Int) ≤ start ∨ start + size ≤ 0 then 0
        else min (start + size) limit - max start 0 := by
  have hint : int32 limit = limit := int32_eq (by omega) (by omega)
  rw [desktopClipDimension, hint]
  by_cases hout : size = 0 ∨ (limit : Int) ≤ start
  · rw [if_pos hout, if_pos (by omega)]
  · rw [if_neg hout]
    dsimp only
    by_cases hleft : start + size ≤ 0
    · rw [if_pos hleft, if_pos (by omega)]
    · have hend : (if (limit : Int) < start + size then (limit : Int) else start + size)
          = min (start + size) limit := by
        rw [min_def]
        split <;> split <;> omega
      have hbegin : (if start < 0 then 0 else start) = max start 0 := by
        rw [max_def]
        split <;> split <;> omega
      have hendInt : int32 (min (start + size) limit) = min (start + size) limit :=
        int32_eq (by omega) (by omega)
      rw [if_neg hleft, hend, hbegin, hendInt, if_neg (by omega), int32_eq (by omega) (by omega)]

theorem clipPaints_iff (hstart : -2 ^ 31 ≤ start) (hstop : start + size < 2 ^ 31)
    (hlimit : limit < 2 ^ 31) (hcolumn : column < limit) :
    ClipPaints start size limit column
      ↔ start ≤ column ∧ (column : Int) < min (start + size) limit + min start 0 := by
  have hint : int32 limit = limit := int32_eq (by omega) (by omega)
  have hclip := desktopClipDimension_eq hstart hstop hlimit
  constructor
  · rintro ⟨hpos, hge, hlt, -⟩
    split at hclip
    · omega
    · rw [hclip, int32_eq (by omega) (by omega)] at hlt
      omega
  · rintro ⟨hge, hlt⟩
    rw [if_neg (by omega)] at hclip
    refine ⟨by omega, hge, ?_, by omega⟩
    rw [hclip, int32_eq (by omega) (by omega)]
    omega

theorem ClipPaints.limit_lt (hlimit : limit < 2 ^ 32) (h : ClipPaints start size limit column) :
    limit < 2 ^ 31 := by
  have hlt := h.lt_limit
  obtain ⟨hsmall, -⟩ | ⟨-, hneg⟩ := int32_natCast_lt hlimit
  · exact hsmall
  · omega

/-- Of columns that are shown there is a last one. -/
theorem exists_last (hcolumn : column < limit) (hge : start ≤ column)
    (hlt : (column : Int) < start + size) :
    ∃ last : Nat, (last : Int) = min (start + size) limit - 1
      ∧ last < limit ∧ start ≤ last ∧ (last : Int) < start + size := by
  obtain ⟨last, hlast⟩ : ∃ last : Nat, (last : Int) = min (start + size) limit - 1 :=
    ⟨_, Int.toNat_of_nonneg (by omega)⟩
  exact ⟨last, hlast, by omega, by omega, by omega⟩

end Clip

/-! ### Both dimensions -/

namespace DesktopWindow

variable {window : DesktopWindow} {fb : Surface}

/-- The fill of the body, as places that are painted. -/
theorem mem_painted_body (hvisible : window.isVisible = true) {place : Nat × Nat} :
    place ∈ Surface.painted (desktopWindowDrawBody window fb)
      ↔ fb.supported = true ∧ place ∈ fb.places
        ∧ ClipPaints window.x window.width fb.width place.1
        ∧ ClipPaints window.y window.height fb.height place.2 := by
  by_cases hclip : 0 < desktopClipDimension window.x window.width fb.width
      ∧ 0 < desktopClipDimension window.y window.height fb.height
  · have hbody : desktopWindowDrawBody window fb = drawFillRect fb window.x window.y
        (desktopClipDimension window.x window.width fb.width)
        (desktopClipDimension window.y window.height fb.height) :=
      funext fun color => by
        rw [desktopWindowDrawBody, hvisible, if_neg (by decide), if_neg (by omega)]
    rw [hbody, mem_painted_fillRect]
    refine and_congr_right fun _ => and_congr_right fun _ => ⟨?_, ?_⟩
    · rintro ⟨-, ⟨hx, hx'⟩, ⟨hy, hy'⟩, hwidth, hheight⟩
      exact ⟨⟨hclip.1, hx, hx', hwidth⟩, hclip.2, hy, hy', hheight⟩
    · rintro ⟨hcolumn, hrow⟩
      exact ⟨hclip, ⟨hcolumn.ge, hcolumn.lt⟩, ⟨hrow.ge, hrow.lt⟩, hcolumn.lt_limit, hrow.lt_limit⟩
  · have hbody : desktopWindowDrawBody window fb = fun _ => fb :=
      funext fun color => by
        rw [desktopWindowDrawBody, hvisible, if_neg (by decide), if_pos (by omega)]
    rw [hbody, Surface.painted_const]
    exact iff_of_false (Set.notMem_empty place) fun hpaints =>
      hclip ⟨hpaints.2.2.1.clip_pos, hpaints.2.2.2.clip_pos⟩

theorem mem_shown_area {place : Nat × Nat} :
    place ∈ fb.shown window.area ↔ place ∈ fb.places
      ∧ (window.x ≤ place.1 ∧ (place.1 : Int) < window.x + window.width)
      ∧ window.y ≤ place.2 ∧ (place.2 : Int) < window.y + window.height :=
  Iff.rfl

/-- The fill of the body covers what is on the framebuffer of the window just when nothing is or the
window has not been moved over the left or upper edge. -/
theorem drawBody_paints_iff (hvisible : window.isVisible = true) (hfits : window.Fits)
    (hwidth : fb.width < 2 ^ 32) (hheight : fb.height < 2 ^ 32) :
    Surface.painted (desktopWindowDrawBody window fb) = fb.shown window.area
      ↔ fb.shown window.area = ∅
        ∨ (fb.supported = true ∧ fb.width < 2 ^ 31 ∧ fb.height < 2 ^ 31 ∧ 0 ≤ window.x
          ∧ 0 ≤ window.y) := by
  have hxge := hfits.x_ge
  have hyge := hfits.y_ge
  have hright := hfits.right_lt
  have hbottom := hfits.bottom_lt
  constructor
  · intro hsame
    by_cases hempty : fb.shown window.area = ∅
    · exact .inl hempty
    · obtain ⟨⟨column, row⟩, hshown⟩ := Set.nonempty_iff_ne_empty.mpr hempty
      have hpainted := hshown
      rw [← hsame, mem_painted_body hvisible] at hpainted
      obtain ⟨hsupported, ⟨hcolumnlt, hrowlt⟩, hcolumn, hrow⟩ := hpainted
      have hwidth := hcolumn.limit_lt hwidth
      have hheight := hrow.limit_lt hheight
      obtain ⟨-, ⟨hleft, hcolumn'⟩, htop, hrow'⟩ := mem_shown_area.mp hshown
      -- The last column and the last row of the window on the framebuffer.
      obtain ⟨right, hrighteq, hrightIn⟩ := exists_last hcolumnlt hleft hcolumn'
      obtain ⟨bottom, hbottomeq, hbottomIn⟩ := exists_last hrowlt htop hrow'
      have hcorner : (right, bottom) ∈ fb.shown window.area :=
        mem_shown_area.mpr ⟨⟨hrightIn.1, hbottomIn.1⟩, hrightIn.2, hbottomIn.2⟩
      rw [← hsame, mem_painted_body hvisible] at hcorner
      obtain ⟨-, ⟨hrightlt, hbottomlt⟩, hlast, hlow⟩ := hcorner
      rw [clipPaints_iff hxge hright hwidth hrightlt] at hlast
      rw [clipPaints_iff hyge hbottom hheight hbottomlt] at hlow
      dsimp only at hlast hlow
      exact .inr ⟨hsupported, hwidth, hheight, by omega, by omega⟩
  · intro hwhen
    ext ⟨column, row⟩
    rw [mem_painted_body hvisible]
    constructor
    · rintro ⟨-, hplace, hcolumn, hrow⟩
      rw [clipPaints_iff hxge hright (hcolumn.limit_lt hwidth) hplace.1] at hcolumn
      rw [clipPaints_iff hyge hbottom (hrow.limit_lt hheight) hplace.2] at hrow
      refine mem_shown_area.mpr ⟨hplace, ⟨hcolumn.1, ?_⟩, hrow.1, ?_⟩
      · omega
      · omega
    · intro hshown
      obtain hempty | ⟨hsupported, hwidth, hheight, hx, hy⟩ := hwhen
      · rw [hempty] at hshown
        exact absurd hshown (Set.notMem_empty _)
      · obtain ⟨hplace, hcolumn, hrow⟩ := mem_shown_area.mp hshown
        have hplace' := hplace
        obtain ⟨hcolumnlt, hrowlt⟩ := hplace'
        refine ⟨hsupported, hplace, ?_, ?_⟩
        · rw [clipPaints_iff hxge hright hwidth hcolumnlt]
          dsimp only at hcolumnlt hcolumn ⊢
          omega
        · rw [clipPaints_iff hyge hbottom hheight hrowlt]
          dsimp only at hrowlt hrow ⊢
          omega

theorem drawBody_paints_welcome :
    Surface.painted (desktopWindowDrawBody (init 1 40 32 268 132 (ascii "Welcome"))
        ⟨⟨640, 480⟩, true, fun _ => 0⟩)
      = Surface.shown ⟨⟨640, 480⟩, true, fun _ => 0⟩
        (init 1 40 32 268 132 (ascii "Welcome")).area :=
  (drawBody_paints_iff (by decide) ⟨by decide, by decide, by decide, by decide⟩ (by decide)
    (by decide)).mpr (.inr ⟨rfl, by decide, by decide, by decide, by decide⟩)

/-- Ten pixels over the left edge the window ends at column 258, and its body at column 248. -/
theorem leftEdge_not_painted :
    (init 1 (-10) 32 268 132 (ascii "Welcome")).clampToScreen 640 456
        = init 1 (-10) 32 268 132 (ascii "Welcome")
      ∧ Surface.painted (desktopWindowDrawBody (init 1 (-10) 32 268 132 (ascii "Welcome"))
          ⟨⟨640, 480⟩, true, fun _ => 0⟩)
        ≠ Surface.shown ⟨⟨640, 480⟩, true, fun _ => 0⟩
          (init 1 (-10) 32 268 132 (ascii "Welcome")).area := by
  refine ⟨by decide, fun hsame => ?_⟩
  have hshown : ((250, 40) : Nat × Nat) ∈ Surface.shown ⟨⟨640, 480⟩, true, fun _ => 0⟩
      (init 1 (-10) 32 268 132 (ascii "Welcome")).area :=
    mem_shown_area.mpr ⟨⟨by decide, by decide⟩, ⟨by decide, by decide⟩, by decide, by decide⟩
  rw [← hsame, mem_painted_body (by decide)] at hshown
  exact absurd hshown.2.2.1.lt (by decide)

end DesktopWindow

end DuckOs

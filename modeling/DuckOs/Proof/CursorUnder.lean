import DuckOs.Gfx.Cursor
import DuckOs.Proof.DrawFill

/-!
# What the cursor covers

Between two moves the framebuffer is the picture under the cursor with the cursor drawn over it, and what
is saved is that picture where the cursor covers it.
-/

namespace DuckOs

/-! ### Blocks of words -/

/-- The places of a block that are on the framebuffer. -/
def blockPlaces (fb : Framebuffer) (x y width height : Nat) : Set (Nat × Nat) :=
  {place | x ≤ place.1 ∧ place.1 < x + width ∧ place.1 < fb.width
    ∧ y ≤ place.2 ∧ place.2 < y + height ∧ place.2 < fb.height}

/-- Same size and support. -/
def Surface.SameShape (fb other : Surface) : Prop :=
  fb.toFramebuffer = other.toFramebuffer ∧ fb.supported = other.supported

section Block

variable {fb : Surface} {x y width height : Nat} {color : Nat → Nat → UInt32} {place : Nat × Nat}

theorem fbPutPixel_sameShape (fb : Surface) (x y : Nat) (color : UInt32) :
    (fbPutPixel fb x y color).SameShape fb :=
  ⟨fbPutPixel_toFramebuffer fb x y color, fbPutPixel_supported fb x y color⟩

theorem Surface.SameShape.trans {fb other third : Surface} (hfirst : fb.SameShape other)
    (hsecond : other.SameShape third) : fb.SameShape third :=
  ⟨hfirst.1.trans hsecond.1, hfirst.2.trans hsecond.2⟩

theorem fbPutBlock_sameShape (fb : Surface) (x y width height : Nat) (color : Nat → Nat → UInt32) :
    (fbPutBlock fb x y width height color).SameShape fb :=
  @GridLoop.run_keeps _ height width _ (fun other => other.SameShape fb)
    (fun _ _ _ _ _ hshape => (fbPutPixel_sameShape _ _ _ _).trans hshape) fb ⟨rfl, rfl⟩

/-- A round of the loop writes one word, if that is on the framebuffer. -/
theorem fbPutBlock_round {other : Surface} {row col : Nat} (hx : x + width ≤ 2 ^ 32)
    (hy : y + height ≤ 2 ^ 32) (hrow : row < height) (hcol : col < width)
    (hshape : other.SameShape fb) (place : Nat × Nat) :
    (fbPutPixel other ((x + col) % 2 ^ 32) ((y + row) % 2 ^ 32) (color row col)).pixel place
      = if fb.supported = true ∧ x + col < fb.width ∧ y + row < fb.height
          ∧ place = (x + col, y + row) then color row col else other.pixel place := by
  rw [fbPutPixel_pixel, Nat.mod_eq_of_lt (by omega), Nat.mod_eq_of_lt (by omega), hshape.2, hshape.1]

theorem exists_round_iff :
    (∃ row < height, ∃ col < width, fb.supported = true ∧ x + col < fb.width
        ∧ y + row < fb.height ∧ place = (x + col, y + row))
      ↔ fb.supported = true ∧ place ∈ blockPlaces fb.toFramebuffer x y width height := by
  constructor
  · rintro ⟨row, hrow, col, hcol, hsupported, hright, hbottom, rfl⟩
    exact ⟨hsupported, Nat.le_add_right _ _, Nat.add_lt_add_left hcol _, hright,
      Nat.le_add_right _ _, Nat.add_lt_add_left hrow _, hbottom⟩
  · rintro ⟨hsupported, hxLe, hxLt, hright, hyLe, hyLt, hbottom⟩
    obtain ⟨placeX, placeY⟩ := place
    simp only at hxLe hxLt hright hyLe hyLt hbottom
    refine ⟨placeY - y, by omega, placeX - x, by omega, hsupported, by omega, by omega, ?_⟩
    rw [Nat.add_sub_cancel' hxLe, Nat.add_sub_cancel' hyLe]

theorem fbPutBlock_view (color : Nat → Nat → UInt32) (hx : x + width ≤ 2 ^ 32)
    (hy : y + height ≤ 2 ^ 32) (place : Nat × Nat) :
    (fb.supported = true ∧ place ∈ blockPlaces fb.toFramebuffer x y width height →
        (fbPutBlock fb x y width height color).pixel place = color (place.2 - y) (place.1 - x))
      ∧ (¬ (fb.supported = true ∧ place ∈ blockPlaces fb.toFramebuffer x y width height) →
        (fbPutBlock fb x y width height color).pixel place = fb.pixel place) := by
  rw [← exists_round_iff]
  unfold fbPutBlock
  refine @GridLoop.view_run _ _ _ height width _ (fun other => other.SameShape fb) Surface.pixel
    (fun row col place => fb.supported = true ∧ x + col < fb.width ∧ y + row < fb.height
      ∧ place = (x + col, y + row))
    (fun place => color (place.2 - y) (place.1 - x))
    (fun _ _ _ _ _ hshape => (fbPutPixel_sameShape _ _ _ _).trans hshape) ?_ ?_ fb ⟨rfl, rfl⟩ place
  · intro other row col place hrow hcol hshape hwrites
    rw [fbPutBlock_round hx hy hrow hcol hshape, if_pos hwrites, hwrites.2.2.2]
    simp only [Nat.add_sub_cancel_left]
  · intro other row col place hrow hcol hshape hwrites
    rw [fbPutBlock_round hx hy hrow hcol hshape, if_neg hwrites]

theorem fbPutBlock_pixel_of_mem (hx : x + width ≤ 2 ^ 32) (hy : y + height ≤ 2 ^ 32)
    (hmem : fb.supported = true ∧ place ∈ blockPlaces fb.toFramebuffer x y width height) :
    (fbPutBlock fb x y width height color).pixel place = color (place.2 - y) (place.1 - x) :=
  (fbPutBlock_view color hx hy place).1 hmem

theorem fbPutBlock_pixel_of_notMem (hx : x + width ≤ 2 ^ 32) (hy : y + height ≤ 2 ^ 32)
    (hmem : ¬ (fb.supported = true ∧ place ∈ blockPlaces fb.toFramebuffer x y width height)) :
    (fbPutBlock fb x y width height color).pixel place = fb.pixel place :=
  (fbPutBlock_view color hx hy place).2 hmem

end Block

/-! ### The steps of a move -/

theorem gfxCursorClip_eq {size bound position : Nat} (hbound : bound < 2 ^ 31) (hsize : size ≤ 16) :
    gfxCursorClip size bound position = min size (bound - position) := by
  unfold gfxCursorClip
  by_cases hinside : bound ≤ position
  · rw [if_pos hinside, Nat.sub_eq_zero_of_le hinside, Nat.min_zero]
  · rw [if_neg hinside, Nat.mod_eq_of_lt (by omega)]
    split
    · omega
    · omega

theorem gfxCursorClamp_lt {bound position : Nat} (hpos : 0 < bound) (hbound : bound < 2 ^ 31) :
    gfxCursorClamp bound position < bound := by
  unfold gfxCursorClamp
  split
  · rw [uint32]
    omega
  · omega

/-- What the save loop leaves at the places that it reads. -/
theorem gfxCursorSaveLoop_eq {fb : Surface} {x y width height : Nat} (hx : x + width ≤ fb.width)
    (hy : y + height ≤ fb.height) (hfbWidth : fb.width < 2 ^ 31) (hfbHeight : fb.height < 2 ^ 31)
    (hwidth : width ≤ gfxCursorWidth) (saved : Nat → UInt32) {row col : Nat} (hrow : row < height)
    (hcol : col < width) (hsupported : fb.supported = true) :
    gfxCursorSaveLoop fb x y width height saved (row * gfxCursorWidth + col)
      = fb.pixel (x + col, y + row) := by
  have hget : ∀ row col, row < height → col < width →
      fbGetPixel fb ((x + col) % 2 ^ 32) ((y + row) % 2 ^ 32) = fb.pixel (x + col, y + row) := by
    intro row col hrow hcol
    rw [Nat.mod_eq_of_lt (by omega), Nat.mod_eq_of_lt (by omega), fbGetPixel, if_neg]
    simp only [hsupported, Bool.not_true, Bool.false_eq_true, false_or, not_or, Nat.not_le]
    omega
  have hcell : ∀ {row col : Nat}, col < width →
      (row * gfxCursorWidth + col) / gfxCursorWidth = row
        ∧ (row * gfxCursorWidth + col) % gfxCursorWidth = col := by
    intro row col hcol
    simp only [gfxCursorWidth] at hwidth ⊢
    omega
  have hview := (@GridLoop.view_run _ _ _ height width
    (fun row col saved => Function.update saved (row * gfxCursorWidth + col)
      (fbGetPixel fb ((x + col) % 2 ^ 32) ((y + row) % 2 ^ 32))) (fun _ => True) id
    (fun row col index => index = row * gfxCursorWidth + col)
    (fun index => fb.pixel (x + index % gfxCursorWidth, y + index / gfxCursorWidth))
    (fun _ _ _ _ _ _ => trivial)
    (by
      rintro saved row col index hrow hcol - rfl
      rw [(hcell hcol).1, (hcell hcol).2, id, Function.update_self, hget row col hrow hcol])
    (by
      rintro saved row col index hrow hcol - hne
      exact Function.update_of_ne hne _ _)
    saved trivial (row * gfxCursorWidth + col)).1 ⟨row, hrow, col, hcol, rfl⟩
  rwa [(hcell hcol).1, (hcell hcol).2] at hview

section Moves

variable {ι : Type} [DecidableEq ι]

/-- The cursor is over the picture `under` on `fb`, and what it covers is saved. -/
structure CursorOver (world : CursorWorld ι) (fb : ι) (under : Surface) : Prop where
  fb_eq : world.cursor.fb = some fb
  shape : (world.surfaces fb).SameShape under
  x_lt : world.cursor.x < under.width
  y_lt : world.cursor.y < under.height
  hidden : world.cursor.visible = false → world.surfaces fb = under
  width_eq : world.cursor.visible = true →
    world.cursor.savedWidth = gfxCursorClip gfxCursorWidth under.width world.cursor.x
  height_eq : world.cursor.visible = true →
    world.cursor.savedHeight = gfxCursorClip gfxCursorHeight under.height world.cursor.y
  outside : ∀ place, ¬ (under.supported = true ∧ place ∈ blockPlaces under.toFramebuffer
      world.cursor.x world.cursor.y gfxCursorWidth gfxCursorHeight) →
    (world.surfaces fb).pixel place = under.pixel place
  saved : world.cursor.visible = true → under.supported = true →
    ∀ row < world.cursor.savedHeight, ∀ col < world.cursor.savedWidth,
      world.cursor.savedPixels (row * gfxCursorWidth + col)
        = under.pixel (world.cursor.x + col, world.cursor.y + row)

variable {world : CursorWorld ι} {fb : ι} {under : Surface}

theorem gfxCursorRestoreBackground_size (world : CursorWorld ι) (fb : ι) :
    ((gfxCursorRestoreBackground world).surfaces fb).toFramebuffer
      = (world.surfaces fb).toFramebuffer := by
  unfold gfxCursorRestoreBackground
  split
  · rename_i attached _ _
    by_cases hfb : fb = attached
    · rw [hfb]
      dsimp only
      rw [Function.update_self]
      exact (fbPutBlock_sameShape _ _ _ _ _ _).1
    · dsimp only
      rw [Function.update_of_ne hfb]
  · rfl

theorem gfxCursorAttach_size (world : CursorWorld ι) (next : Option ι) (fb : ι) :
    ((gfxCursorAttach world next).surfaces fb).toFramebuffer
      = (world.surfaces fb).toFramebuffer := by
  unfold gfxCursorAttach
  by_cases hvisible : world.cursor.visible = true
  · rw [if_pos hvisible]
    exact gfxCursorRestoreBackground_size world fb
  · rw [if_neg hvisible]

theorem blockPlaces_clip {size : Framebuffer} (hwidth : size.width < 2 ^ 31)
    (hheight : size.height < 2 ^ 31) (x y : Nat) :
    blockPlaces size x y (gfxCursorClip gfxCursorWidth size.width x)
        (gfxCursorClip gfxCursorHeight size.height y)
      = blockPlaces size x y gfxCursorWidth gfxCursorHeight := by
  rw [gfxCursorClip_eq hwidth (by decide), gfxCursorClip_eq hheight (by decide)]
  ext place
  simp only [blockPlaces, Set.mem_ofPred_eq]
  omega

/-- Putting back what is saved gives the picture. -/
theorem CursorOver.restore (hover : CursorOver world fb under) (hwidth : under.width < 2 ^ 31)
    (hheight : under.height < 2 ^ 31) :
    (gfxCursorRestoreBackground world).surfaces fb = under
      ∧ (∀ other, other ≠ fb →
        (gfxCursorRestoreBackground world).surfaces other = world.surfaces other)
      ∧ (gfxCursorRestoreBackground world).cursor.fb = some fb
      ∧ (gfxCursorRestoreBackground world).cursor.visible = false := by
  unfold gfxCursorRestoreBackground
  cases hvisible : world.cursor.visible with
  | false => exact ⟨hover.hidden hvisible, fun _ _ => rfl, hover.fb_eq, hvisible⟩
  | true =>
      rw [hover.fb_eq]
      refine ⟨?_, fun other hother => Function.update_of_ne hother _ _, hover.fb_eq, rfl⟩
      have hsavedWidth := hover.width_eq hvisible
      have hsavedHeight := hover.height_eq hvisible
      have hclipWidth := @gfxCursorClip_eq gfxCursorWidth _ world.cursor.x hwidth (by decide)
      have hclipHeight := @gfxCursorClip_eq gfxCursorHeight _ world.cursor.y hheight (by decide)
      have hplaces := blockPlaces_clip hwidth hheight world.cursor.x world.cursor.y
      rw [← hsavedWidth, ← hsavedHeight, ← hover.shape.1] at hplaces
      have hx := hover.x_lt
      have hy := hover.y_lt
      dsimp only
      rw [Function.update_self]
      refine Surface.ext_pixel ((fbPutBlock_sameShape _ _ _ _ _ _).1.trans hover.shape.1)
        ((fbPutBlock_sameShape _ _ _ _ _ _).2.trans hover.shape.2) fun place => ?_
      by_cases hmem : (world.surfaces fb).supported = true
          ∧ place ∈ blockPlaces (world.surfaces fb).toFramebuffer world.cursor.x world.cursor.y
            world.cursor.savedWidth world.cursor.savedHeight
      · obtain ⟨hxLe, hxLt, -, hyLe, hyLt, -⟩ := hmem.2
        rw [fbPutBlock_pixel_of_mem (by omega) (by omega) hmem,
          hover.saved hvisible (hover.shape.2 ▸ hmem.1) _ (by omega) _ (by omega),
          Nat.add_sub_cancel' hxLe, Nat.add_sub_cancel' hyLe]
      · rw [fbPutBlock_pixel_of_notMem (by omega) (by omega) hmem]
        refine hover.outside place ?_
        rwa [hplaces, hover.shape.1, hover.shape.2] at hmem

/-- Saving and drawing at a place puts the cursor over the picture that is there. -/
theorem cursorOver_drawAt (hfb : world.cursor.fb = some fb) {x y : Nat}
    (hx : x < (world.surfaces fb).width) (hy : y < (world.surfaces fb).height)
    (hwidth : (world.surfaces fb).width < 2 ^ 31) (hheight : (world.surfaces fb).height < 2 ^ 31) :
    let placed := { world with cursor := { world.cursor with x := x, y := y } }
    let drawn := gfxCursorDrawAt (gfxCursorSaveBackground placed x y) x y
    CursorOver drawn fb (world.surfaces fb)
      ∧ ∀ other, other ≠ fb → drawn.surfaces other = world.surfaces other := by
  intro placed drawn
  have hclipWidth := @gfxCursorClip_eq gfxCursorWidth _ x hwidth (by decide)
  have hclipHeight := @gfxCursorClip_eq gfxCursorHeight _ y hheight (by decide)
  have hplaces := blockPlaces_clip hwidth hheight x y
  have hdrawn : drawn = { world with
      surfaces := Function.update world.surfaces fb
        (fbPutBlock (world.surfaces fb) x y
          (gfxCursorClip gfxCursorWidth (world.surfaces fb).width x)
          (gfxCursorClip gfxCursorHeight (world.surfaces fb).height y)
          (gfxCursorColor (gfxCursorClip gfxCursorWidth (world.surfaces fb).width x)
            (gfxCursorClip gfxCursorHeight (world.surfaces fb).height y)))
      cursor := {
        fb := some fb
        x := x
        y := y
        savedWidth := gfxCursorClip gfxCursorWidth (world.surfaces fb).width x
        savedHeight := gfxCursorClip gfxCursorHeight (world.surfaces fb).height y
        savedPixels := gfxCursorSaveLoop (world.surfaces fb) x y
          (gfxCursorClip gfxCursorWidth (world.surfaces fb).width x)
          (gfxCursorClip gfxCursorHeight (world.surfaces fb).height y) world.cursor.savedPixels
        visible := true } } := by
    simp only [drawn, placed, gfxCursorDrawAt, gfxCursorSaveBackground, gfxCursorClipWidth,
      gfxCursorClipHeight, hfb]
  rw [hdrawn]
  refine ⟨?_, fun other hother => Function.update_of_ne hother _ _⟩
  exact {
    fb_eq := rfl
    shape := by
      dsimp only
      rw [Function.update_self]
      exact fbPutBlock_sameShape _ _ _ _ _ _
    x_lt := hx
    y_lt := hy
    hidden := fun hhidden => absurd hhidden (by simp)
    width_eq := fun _ => rfl
    height_eq := fun _ => rfl
    outside := by
      intro place hout
      dsimp only at hout ⊢
      rw [Function.update_self]
      rw [← hplaces] at hout
      exact fbPutBlock_pixel_of_notMem (by omega) (by omega) hout
    saved := by
      intro _ hsupported row hrow col hcol
      exact gfxCursorSaveLoop_eq (by omega) (by omega) hwidth hheight (by omega) _ hrow hcol
        hsupported }

theorem CursorOver.move (hover : CursorOver world fb under) (hwidth : under.width < 2 ^ 31)
    (hheight : under.height < 2 ^ 31) (x y : Nat) :
    CursorOver (gfxCursorMove world x y) fb under
      ∧ ∀ other, other ≠ fb → (gfxCursorMove world x y).surfaces other = world.surfaces other := by
  unfold gfxCursorMove
  cases gfxCursorAvailable world with
  | false => exact ⟨hover, fun _ _ => rfl⟩
  | true =>
      obtain ⟨hunder, hothers, hfb, -⟩ := hover.restore hwidth hheight
      rw [hover.fb_eq]
      dsimp only
      generalize gfxCursorRestoreBackground world = restored at hunder hothers hfb
      subst hunder
      have hx := hover.x_lt
      have hy := hover.y_lt
      obtain ⟨hnext, hsame⟩ := @cursorOver_drawAt _ _ restored fb hfb
        (gfxCursorClamp (restored.surfaces fb).width x)
        (gfxCursorClamp (restored.surfaces fb).height y)
        (gfxCursorClamp_lt (by omega) hwidth) (gfxCursorClamp_lt (by omega) hheight) hwidth hheight
      exact ⟨hnext, fun other hother => (hsame other hother).trans (hothers other hother)⟩

theorem CursorOver.moves (hwidth : under.width < 2 ^ 31) (hheight : under.height < 2 ^ 31)
    (moves : List (Nat × Nat)) : ∀ {world : CursorWorld ι}, CursorOver world fb under →
      CursorOver (moves.foldl (fun world move => gfxCursorMove world move.1 move.2) world) fb under
        ∧ ∀ other, other ≠ fb →
          (moves.foldl (fun world move => gfxCursorMove world move.1 move.2) world).surfaces other
            = world.surfaces other := by
  induction moves with
  | nil => exact fun hover => ⟨hover, fun _ _ => rfl⟩
  | cons move rest ih =>
      intro world hover
      obtain ⟨hmoved, hsame⟩ := hover.move hwidth hheight move.1 move.2
      obtain ⟨hlast, hrest⟩ := ih hmoved
      exact ⟨hlast, fun other hother => (hrest other hother).trans (hsame other hother)⟩

theorem cursorOver_attach (world : CursorWorld ι) (fb : ι)
    (hwidth : 0 < ((gfxCursorAttach world (some fb)).surfaces fb).width)
    (hheight : 0 < ((gfxCursorAttach world (some fb)).surfaces fb).height) :
    CursorOver (gfxCursorAttach world (some fb)) fb
      ((gfxCursorAttach world (some fb)).surfaces fb) where
  fb_eq := rfl
  shape := ⟨rfl, rfl⟩
  x_lt := hwidth
  y_lt := hheight
  hidden := fun _ => rfl
  width_eq := fun hvisible => absurd hvisible (by simp [gfxCursorAttach])
  height_eq := fun hvisible => absurd hvisible (by simp [gfxCursorAttach])
  outside := fun _ _ => rfl
  saved := fun hvisible => absurd hvisible (by simp [gfxCursorAttach])

/-- Attaching the cursor elsewhere, or nowhere, leaves the picture. -/
theorem CursorOver.attach (hover : CursorOver world fb under) (hwidth : under.width < 2 ^ 31)
    (hheight : under.height < 2 ^ 31) (next : Option ι) :
    (gfxCursorAttach world next).surfaces fb = under := by
  unfold gfxCursorAttach
  cases hvisible : world.cursor.visible with
  | false => exact hover.hidden hvisible
  | true => exact (hover.restore hwidth hheight).1

end Moves

/-- With the cursor attached to a framebuffer, whatever it is moved by, the picture under it is kept: it
shows everywhere but under the cursor, and attaching the cursor again brings it back. Only a cursor that
was shown before changes a framebuffer when it is attached. -/
theorem cursor_keeps_picture {ι : Type} [DecidableEq ι] (world : CursorWorld ι) (fb : ι)
    (hwidth : 0 < (world.surfaces fb).width ∧ (world.surfaces fb).width < 2 ^ 31)
    (hheight : 0 < (world.surfaces fb).height ∧ (world.surfaces fb).height < 2 ^ 31)
    (moves : List (Nat × Nat)) (next : Option ι) :
    let attached := gfxCursorAttach world (some fb)
    let picture := attached.surfaces fb
    let moved := moves.foldl (fun world move => gfxCursorMove world move.1 move.2) attached
    (world.cursor.visible = false → picture = world.surfaces fb)
      ∧ (moved.surfaces fb).toFramebuffer = picture.toFramebuffer
      ∧ (∀ place, place ∉ blockPlaces picture.toFramebuffer moved.cursor.x moved.cursor.y 12 16 →
        (moved.surfaces fb).pixel place = picture.pixel place)
      ∧ moved.cursor.x < picture.width ∧ moved.cursor.y < picture.height
      ∧ (gfxCursorAttach moved next).surfaces fb = picture
      ∧ ∀ other, other ≠ fb → moved.surfaces other = attached.surfaces other := by
  intro attached picture moved
  have hsize : picture.toFramebuffer = (world.surfaces fb).toFramebuffer :=
    gfxCursorAttach_size world (some fb) fb
  have hwidthLt : picture.width < 2 ^ 31 := hsize ▸ hwidth.2
  have hheightLt : picture.height < 2 ^ 31 := hsize ▸ hheight.2
  have hattached := cursorOver_attach world fb (hsize ▸ hwidth.1) (hsize ▸ hheight.1)
  obtain ⟨hover, hothers⟩ := hattached.moves hwidthLt hheightLt moves
  refine ⟨fun hhidden => ?_, hover.shape.1, fun place hout => ?_, hover.x_lt, hover.y_lt,
    hover.attach hwidthLt hheightLt next, hothers⟩
  · simp only [picture, attached, gfxCursorAttach, hhidden]
    rfl
  · exact hover.outside place fun hmem => hout hmem.2

/-- A framebuffer that the cursor does not fit on, if it is moved to its last row. -/
def smallCursorWorld : CursorWorld Unit where
  surfaces := fun _ => ⟨⟨20, 20⟩, true, fun _ => 0⟩
  buffered := fun _ => true
  cursor := ⟨none, 0, 0, 0, 0, fun _ => 0, false⟩

theorem cursor_keeps_picture_small :
    (gfxCursorAttach
        ([(3, 4), (15, 100)].foldl (fun world move => gfxCursorMove world move.1 move.2)
          (gfxCursorAttach smallCursorWorld (some ()))) none).surfaces ()
      = smallCursorWorld.surfaces () :=
  have hkept := cursor_keeps_picture smallCursorWorld () ⟨by decide, by decide⟩
    ⟨by decide, by decide⟩ [(3, 4), (15, 100)] none
  hkept.2.2.2.2.2.1.trans (hkept.1 rfl)

end DuckOs

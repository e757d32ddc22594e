import DuckOs.Drivers.VirtioInput
import DuckOs.Proof.CursorUnder

/-!
# The pointer and the keys

Handling an event moves the cursor as a pointer is moved, over a picture that stays as it is, or puts a
key into the input queue.
-/

namespace DuckOs

/-! ### Positions -/

theorem virtioInputScaleAbs_eq (value size : Nat) :
    virtioInputScaleAbs value size = pointerScaled size value := by
  unfold virtioInputScaleAbs pointerScaled
  split
  · rename_i hsize
    rw [hsize, Nat.zero_sub, Nat.mul_zero, Nat.zero_div]
  split
  · rename_i hsize
    rw [hsize, Nat.sub_self, Nat.mul_zero, Nat.zero_div]
  split
  · rename_i hmax
    rw [Nat.min_eq_right hmax, Nat.mul_div_cancel_left _ (by decide)]
  · rename_i hmax
    rw [Nat.min_eq_left (Nat.le_of_not_le hmax)]

theorem pointerScaled_lt {bound : Nat} (hpos : 0 < bound) (value : Nat) :
    pointerScaled bound value < bound := by
  have hle : pointerScaled bound value ≤ bound - 1 := by
    rw [pointerScaled]
    apply Nat.div_le_of_le_mul
    exact Nat.mul_le_mul_right _ (Nat.min_le_right _ _)
  omega

theorem gfxCursorClamp_eq {bound : Nat} (hpos : 0 < bound) (hbound : bound < 2 ^ 31) (position : Nat) :
    gfxCursorClamp bound position = min position (bound - 1) := by
  unfold gfxCursorClamp
  split
  · rw [uint32]
    omega
  · omega

theorem gfxCursorClamp_of_lt {bound position : Nat} (hlt : position < bound) :
    gfxCursorClamp bound position = position := by
  rw [gfxCursorClamp, if_neg (Nat.not_le.mpr hlt)]

/-- The sum of a coordinate and a distance, as `long`, and back. -/
theorem gfxCursorClamp_moved {bound position : Nat} (hposition : position < bound)
    (hbound : bound < 2 ^ 31) {distance : Int} (hlow : -2 ^ 31 ≤ distance) (hhigh : distance < 2 ^ 31) :
    gfxCursorClamp bound
        (uint32 (if (position : Int) + distance < 0 then 0 else (position : Int) + distance))
      = pointerMoved bound position distance := by
  rw [gfxCursorClamp_eq (by omega) hbound, pointerMoved, uint32]
  split
  · omega
  · omega

section Moves

variable {ι : Type} [DecidableEq ι] {world : CursorWorld ι} {fb : ι} {under : Surface}

/-- Where a move puts the cursor. -/
theorem gfxCursorMove_position (hfb : world.cursor.fb = some fb) (hbuffered : world.buffered fb = true)
    (x y : Nat) :
    (gfxCursorMove world x y).cursor.x = gfxCursorClamp (world.surfaces fb).width x
      ∧ (gfxCursorMove world x y).cursor.y = gfxCursorClamp (world.surfaces fb).height y
      ∧ (gfxCursorMove world x y).buffered = world.buffered := by
  have havailable : gfxCursorAvailable world = true := by
    rw [gfxCursorAvailable, hfb]
    exact hbuffered
  have hsize := gfxCursorRestoreBackground_size world fb
  have hkept : (gfxCursorRestoreBackground world).buffered = world.buffered := by
    unfold gfxCursorRestoreBackground
    split
    · rfl
    · rfl
  rw [gfxCursorMove, havailable, hfb]
  dsimp only [gfxCursorDrawAt, gfxCursorSaveBackground]
  rw [hsize]
  exact ⟨rfl, rfl, hkept⟩

/-- The cursor is at a position of `fb`, over the picture that was there at the start. -/
structure CursorAt (start : CursorWorld ι) (fb : ι) (cursor : CursorWorld ι) (position : Nat × Nat) :
    Prop where
  position_eq : (cursor.cursor.x, cursor.cursor.y) = position
  cover : CursorOver cursor fb (start.surfaces fb)
  others : ∀ other, other ≠ fb → cursor.surfaces other = start.surfaces other
  buffered : cursor.buffered fb = true

section At

variable {start cursor : CursorWorld ι} {position : Nat × Nat}

omit [DecidableEq ι] in
theorem CursorAt.position_lt (hat : CursorAt start fb cursor position) :
    position.1 < (start.surfaces fb).width ∧ position.2 < (start.surfaces fb).height := by
  rw [← hat.position_eq]
  exact ⟨hat.cover.x_lt, hat.cover.y_lt⟩

/-- Without the cursor all framebuffers show what they showed at the start. -/
theorem CursorAt.detached (hat : CursorAt start fb cursor position)
    (hwidth : (start.surfaces fb).width < 2 ^ 31) (hheight : (start.surfaces fb).height < 2 ^ 31) :
    (gfxCursorAttach cursor none).surfaces = start.surfaces := by
  funext other
  by_cases hother : other = fb
  · rw [hother]
    exact hat.cover.attach hwidth hheight none
  · rw [← hat.others other hother, gfxCursorAttach]
    dsimp only
    split
    · exact (hat.cover.restore hwidth hheight).2.1 other hother
    · rfl

omit [DecidableEq ι] in
theorem CursorAt.available (hat : CursorAt start fb cursor position) :
    gfxCursorAvailable cursor = true := by
  rw [gfxCursorAvailable, hat.cover.fb_eq]
  exact hat.buffered

theorem CursorAt.move (hat : CursorAt start fb cursor position)
    (hwidth : (start.surfaces fb).width < 2 ^ 31) (hheight : (start.surfaces fb).height < 2 ^ 31)
    (x y : Nat) :
    CursorAt start fb (gfxCursorMove cursor x y)
      (gfxCursorClamp (start.surfaces fb).width x, gfxCursorClamp (start.surfaces fb).height y) := by
  obtain ⟨hx, hy, hbuffered⟩ := gfxCursorMove_position hat.cover.fb_eq hat.buffered x y
  obtain ⟨hover, hothers⟩ := hat.cover.move hwidth hheight x y
  rw [hat.cover.shape.1] at hx hy
  refine ⟨Prod.ext hx hy, hover, fun other hother => ?_, ?_⟩
  · rw [hothers other hother, hat.others other hother]
  · rw [hbuffered]
    exact hat.buffered

/-- A cursor that was nowhere is put into the middle. -/
theorem cursorAt_attach (hbuffered : start.buffered fb = true) (hhidden : start.cursor.visible = false)
    (hwidth : 0 < (start.surfaces fb).width ∧ (start.surfaces fb).width < 2 ^ 31)
    (hheight : 0 < (start.surfaces fb).height ∧ (start.surfaces fb).height < 2 ^ 31) :
    CursorAt start fb (virtioInputAttachCursor start fb)
      ((start.surfaces fb).width / 2, (start.surfaces fb).height / 2) := by
  have hsurfaces : (gfxCursorAttach start (some fb)).surfaces = start.surfaces := by
    rw [gfxCursorAttach, hhidden]
    rfl
  have hkept : (gfxCursorAttach start (some fb)).buffered = start.buffered := by
    rw [gfxCursorAttach, hhidden]
    rfl
  have hover := cursorOver_attach start fb (by rw [hsurfaces]; exact hwidth.1)
    (by rw [hsurfaces]; exact hheight.1)
  rw [hsurfaces] at hover
  have hattached : CursorAt start fb (gfxCursorAttach start (some fb)) (0, 0) := by
    refine ⟨rfl, hover, fun other _ => ?_, ?_⟩
    · rw [hsurfaces]
    · rw [hkept]
      exact hbuffered
  have hmoved := hattached.move hwidth.2 hheight.2 ((start.surfaces fb).width / 2)
    ((start.surfaces fb).height / 2)
  rw [gfxCursorClamp_of_lt (Nat.div_lt_self hwidth.1 (by decide)),
    gfxCursorClamp_of_lt (Nat.div_lt_self hheight.1 (by decide))] at hmoved
  exact hmoved

end At

end Moves

/-! ### Events -/

section Events

variable {ι : Type} [DecidableEq ι] {start world : VirtioInputWorld ι} {fb : ι}
  {pointer : Option (Nat × Nat)}

/-- A display to put a cursor on, and no cursor yet. -/
structure VirtioInputWorld.Ready (start : VirtioInputWorld ι) (fb : ι) : Prop where
  display_eq : start.display = some fb
  buffered : start.cursor.buffered fb = true
  detached : start.cursor.cursor.fb = none
  hidden : start.cursor.cursor.visible = false
  width : 0 < (start.cursor.surfaces fb).width ∧ (start.cursor.surfaces fb).width < 2 ^ 31
  height : 0 < (start.cursor.surfaces fb).height ∧ (start.cursor.surfaces fb).height < 2 ^ 31

/-- The cursor of the world is the pointer. -/
structure VirtioInputWorld.Shows (start world : VirtioInputWorld ι) (fb : ι)
    (pointer : Option (Nat × Nat)) : Prop where
  input_eq : world.input = start.input
  display_eq : world.display = some fb
  untouched : pointer = none → world.cursor = start.cursor
  at_position : ∀ position, pointer = some position → CursorAt start.cursor fb world.cursor position

/-- The cursor that a pointer event moves: the one there is, or a new one. -/
theorem VirtioInputWorld.Shows.opened (hready : start.Ready fb) (hshows : start.Shows world fb pointer) :
    CursorAt start.cursor fb
      (if gfxCursorAvailable world.cursor then world.cursor else virtioInputAttachCursor world.cursor fb)
      (pointer.getD ((start.cursor.surfaces fb).width / 2, (start.cursor.surfaces fb).height / 2)) := by
  cases hpointer : pointer with
  | none =>
      have hsame := hshows.untouched hpointer
      have hunavailable : gfxCursorAvailable start.cursor = false := by
        rw [gfxCursorAvailable, hready.detached]
      rw [hsame, hunavailable, if_neg Bool.false_ne_true]
      exact cursorAt_attach hready.buffered hready.hidden hready.width hready.height
  | some position =>
      have hat := hshows.at_position position hpointer
      rw [hat.available, if_pos rfl]
      exact hat

omit [DecidableEq ι] in
theorem VirtioInputWorld.Shows.of_cursorAt (hshows : start.Shows world fb pointer)
    {cursor : CursorWorld ι} {position : Nat × Nat} (hat : CursorAt start.cursor fb cursor position) :
    start.Shows { world with cursor := cursor } fb (some position) := by
  refine ⟨hshows.input_eq, hshows.display_eq, (fun hnone => nomatch hnone), ?_⟩
  rintro other ⟨⟩
  exact hat

omit [DecidableEq ι] in
/-- The cursor stays where it is along an axis along which it is not moved. -/
theorem CursorAt.clamp_self {start cursor : CursorWorld ι} {position : Nat × Nat}
    (hat : CursorAt start fb cursor position) :
    gfxCursorClamp (start.surfaces fb).width cursor.cursor.x = position.1
      ∧ gfxCursorClamp (start.surfaces fb).height cursor.cursor.y = position.2 := by
  rw [← hat.position_eq]
  exact ⟨gfxCursorClamp_of_lt hat.cover.x_lt, gfxCursorClamp_of_lt hat.cover.y_lt⟩

theorem VirtioInputWorld.Shows.relative (hready : start.Ready fb) (hshows : start.Shows world fb pointer)
    {dx dy : Int} (hdx : -2 ^ 31 ≤ dx ∧ dx < 2 ^ 31) (hdy : -2 ^ 31 ≤ dy ∧ dy < 2 ^ 31) :
    start.Shows (virtioInputMoveCursorRelative world dx dy) fb
      (let position := pointer.getD
        ((start.cursor.surfaces fb).width / 2, (start.cursor.surfaces fb).height / 2)
      some (pointerMoved (start.cursor.surfaces fb).width position.1 dx,
        pointerMoved (start.cursor.surfaces fb).height position.2 dy)) := by
  have hopened := hshows.opened hready
  have hattached : (if gfxCursorAvailable world.cursor then some world.cursor
      else world.display.map (virtioInputAttachCursor world.cursor))
      = some (if gfxCursorAvailable world.cursor then world.cursor
        else virtioInputAttachCursor world.cursor fb) := by
    rw [hshows.display_eq]
    split
    · rfl
    · rfl
  rw [virtioInputMoveCursorRelative, hattached]
  generalize (if gfxCursorAvailable world.cursor then world.cursor
    else virtioInputAttachCursor world.cursor fb) = cursor at hopened
  dsimp only
  rw [← hopened.position_eq, ← gfxCursorClamp_moved hopened.cover.x_lt hready.width.2 hdx.1 hdx.2,
    ← gfxCursorClamp_moved hopened.cover.y_lt hready.height.2 hdy.1 hdy.2]
  exact hshows.of_cursorAt (hopened.move hready.width.2 hready.height.2 _ _)

theorem VirtioInputWorld.Shows.absolute (hready : start.Ready fb) (hshows : start.Shows world fb pointer)
    (code value : Nat) :
    start.Shows (virtioInputMoveCursorAbsolute world code value) fb
      (let position := pointer.getD
        ((start.cursor.surfaces fb).width / 2, (start.cursor.surfaces fb).height / 2)
      some (if code = virtioInputAxisX then
          (pointerScaled (start.cursor.surfaces fb).width value, position.2)
        else if code = virtioInputAxisY then
          (position.1, pointerScaled (start.cursor.surfaces fb).height value)
        else position)) := by
  have hopened := hshows.opened hready
  obtain ⟨queue, input, before, display⟩ := world
  obtain rfl : display = some fb := hshows.display_eq
  rw [virtioInputMoveCursorAbsolute]
  dsimp only at hopened ⊢
  generalize (if gfxCursorAvailable before then before
    else virtioInputAttachCursor before fb) = cursor at hopened
  obtain ⟨hx, hy⟩ := hopened.clamp_self
  have hsize := hopened.cover.shape.1
  split
  · have hmoved := hopened.move hready.width.2 hready.height.2
      (virtioInputScaleAbs value (cursor.surfaces fb).width) cursor.cursor.y
    rw [hy, virtioInputScaleAbs_eq, hsize,
      gfxCursorClamp_of_lt (pointerScaled_lt hready.width.1 value)] at hmoved
    rw [virtioInputScaleAbs_eq, hsize]
    exact hshows.of_cursorAt hmoved
  · split
    · have hmoved := hopened.move hready.width.2 hready.height.2 cursor.cursor.x
        (virtioInputScaleAbs value (cursor.surfaces fb).height)
      rw [hx, virtioInputScaleAbs_eq, hsize,
        gfxCursorClamp_of_lt (pointerScaled_lt hready.height.1 value)] at hmoved
      rw [virtioInputScaleAbs_eq, hsize]
      exact hshows.of_cursorAt hmoved
    · exact hshows.of_cursorAt hopened

omit [DecidableEq ι] in
theorem VirtioInputWorld.Shows.key (hshows : start.Shows world fb pointer) (keycode pressed : Nat) :
    start.Shows (inputQueueKeyEvent world keycode pressed) fb pointer :=
  ⟨hshows.input_eq, hshows.display_eq, hshows.untouched, hshows.at_position⟩

theorem pointerMoved_zero {bound position : Nat} (hlt : position < bound) :
    pointerMoved bound position 0 = position := by
  rw [pointerMoved]
  omega

/-- What one event does to the pointer. -/
theorem VirtioInputWorld.Shows.handle (hready : start.Ready fb) (hshows : start.Shows world fb pointer)
    (event : VirtioInputEvent) :
    start.Shows (virtioInputHandleEvent world event) fb
      (pointerStep (start.cursor.surfaces fb).toFramebuffer pointer event) := by
  have hzero : -2 ^ 31 ≤ (0 : Int) ∧ (0 : Int) < 2 ^ 31 := by decide
  have hbounds := int32_bounds event.value.toNat
  obtain ⟨hx, hy⟩ := (hshows.opened hready).position_lt
  unfold virtioInputHandleEvent pointerStep
  dsimp only
  by_cases hkey : event.type.toNat = virtioInputEvKey
  · have hrel : ¬ event.type.toNat = virtioInputEvRel := by
      rw [hkey]
      decide
    have habs : ¬ event.type.toNat = virtioInputEvAbs := by
      rw [hkey]
      decide
    rw [if_pos hkey, if_neg hrel, if_neg habs]
    exact hshows.key _ _
  rw [if_neg hkey]
  by_cases hrel : event.type.toNat = virtioInputEvRel
  · rw [if_pos hrel, if_pos hrel]
    by_cases haxisX : event.code.toNat = virtioInputAxisX
    · have hmoved := hshows.relative hready hbounds hzero
      dsimp only at hmoved
      rw [pointerMoved_zero hy] at hmoved
      rw [if_pos haxisX, if_pos haxisX]
      exact hmoved
    rw [if_neg haxisX, if_neg haxisX]
    by_cases haxisY : event.code.toNat = virtioInputAxisY
    · have hmoved := hshows.relative hready hzero hbounds
      dsimp only at hmoved
      rw [pointerMoved_zero hx] at hmoved
      rw [if_pos haxisY, if_pos haxisY]
      exact hmoved
    rw [if_neg haxisY, if_neg haxisY]
    exact hshows
  rw [if_neg hrel, if_neg hrel]
  by_cases habs : event.type.toNat = virtioInputEvAbs
  · have hmoved := hshows.absolute hready event.code.toNat event.value.toNat
    dsimp only at hmoved
    rw [apply_ite some, apply_ite some] at hmoved
    rw [if_pos habs, if_pos habs]
    exact hmoved
  rw [if_neg habs, if_neg habs]
  exact hshows

theorem virtioInputMoveCursorRelative_queue (world : VirtioInputWorld ι) (dx dy : Int) :
    (virtioInputMoveCursorRelative world dx dy).queue = world.queue := by
  unfold virtioInputMoveCursorRelative
  dsimp only
  split
  · rfl
  · rfl

theorem virtioInputMoveCursorAbsolute_queue (world : VirtioInputWorld ι) (code value : Nat) :
    (virtioInputMoveCursorAbsolute world code value).queue = world.queue := by
  unfold virtioInputMoveCursorAbsolute
  split
  · rfl
  dsimp only
  split
  · rfl
  split
  · rfl
  · rfl

/-- A key goes into the queue, and nothing else does. -/
theorem virtioInputHandleEvent_queue (world : VirtioInputWorld ι) (event : VirtioInputEvent) :
    (virtioInputHandleEvent world event).queue
      = (event.keyEvent world.input.shift).elim world.queue (inputPushEvent world.queue) := by
  unfold virtioInputHandleEvent VirtioInputEvent.keyEvent
  dsimp only
  by_cases hkey : event.type.toNat = virtioInputEvKey
  · rw [if_pos hkey, if_pos hkey]
    rfl
  rw [if_neg hkey, if_neg hkey]
  change _ = world.queue
  split
  · split
    · exact virtioInputMoveCursorRelative_queue world _ _
    split
    · exact virtioInputMoveCursorRelative_queue world _ _
    · rfl
  split
  · exact virtioInputMoveCursorAbsolute_queue world _ _
  · rfl

/-- What a sequence of events does. -/
theorem VirtioInputWorld.Shows.events (hready : start.Ready fb) (events : List VirtioInputEvent) :
    ∀ {world : VirtioInputWorld ι} {pointer : Option (Nat × Nat)}, start.Shows world fb pointer →
      start.Shows (events.foldl virtioInputHandleEvent world) fb
          (events.foldl (pointerStep (start.cursor.surfaces fb).toFramebuffer) pointer)
        ∧ (events.foldl virtioInputHandleEvent world).queue
          = (events.filterMap (·.keyEvent start.input.shift)).foldl inputPushEvent world.queue := by
  induction events with
  | nil => exact fun hshows => ⟨hshows, rfl⟩
  | cons event rest ih =>
      intro world pointer hshows
      obtain ⟨hlast, hqueue⟩ := ih (hshows.handle hready event)
      refine ⟨hlast, hqueue.trans ?_⟩
      rw [virtioInputHandleEvent_queue, hshows.input_eq, List.filterMap_cons]
      cases event.keyEvent start.input.shift with
      | none => rfl
      | some key => rfl

end Events

/-- For every sequence of events: the keys go into the input queue in their order, and the cursor is where a
pointer that never leaves the display is taken by the events of mice and tablets. It appears in the middle
with the first of them, and the picture under it is kept. -/
theorem virtio_input_moves_pointer {ι : Type} [DecidableEq ι] (start : VirtioInputWorld ι) (fb : ι)
    (hready : start.Ready fb) (events : List VirtioInputEvent) :
    let screen := (start.cursor.surfaces fb).toFramebuffer
    let world := events.foldl virtioInputHandleEvent start
    let pointer := events.foldl (pointerStep screen) none
    world.queue = (events.filterMap (·.keyEvent start.input.shift)).foldl inputPushEvent start.queue
      ∧ (pointer = none → world.cursor = start.cursor)
      ∧ (∀ position, pointer = some position →
        (world.cursor.cursor.x, world.cursor.cursor.y) = position
          ∧ position.1 < screen.width ∧ position.2 < screen.height)
      ∧ (gfxCursorAttach world.cursor none).surfaces = start.cursor.surfaces := by
  intro screen world pointer
  have hstart : start.Shows start fb none :=
    ⟨rfl, hready.display_eq, fun _ => rfl, fun _ hsome => nomatch hsome⟩
  obtain ⟨hshows, hqueue⟩ := VirtioInputWorld.Shows.events hready events hstart
  refine ⟨hqueue, hshows.untouched, ?_, ?_⟩
  · intro position hposition
    have hat := hshows.at_position position hposition
    exact ⟨hat.position_eq, hat.position_lt⟩
  · cases hpointer : pointer with
    | none =>
        rw [hshows.untouched hpointer, gfxCursorAttach, hready.hidden]
        rfl
    | some position =>
        exact (hshows.at_position position hpointer).detached hready.width.2 hready.height.2

def smallInputWorld : VirtioInputWorld Unit where
  queue := inputQueueInit fun _ => ⟨.other, .other, 0, 0⟩
  input := .init
  cursor := smallCursorWorld
  display := some ()

/-- To the right, over the upper edge, a key, and to the right edge. -/
def smallInputEvents : List VirtioInputEvent :=
  [⟨2, 0, 5⟩, ⟨2, 1, 0xfffffff0⟩, ⟨1, 30, 1⟩, ⟨3, 0, 0x7fff⟩]

theorem virtio_input_moves_pointer_small :
    let world := smallInputEvents.foldl virtioInputHandleEvent smallInputWorld
    (world.cursor.cursor.x, world.cursor.cursor.y) = (19, 0)
      ∧ (inputPopEvent world.queue).1 = some ⟨.key 30, .keyboard, 1, 0⟩ := by
  intro world
  have hready : smallInputWorld.Ready () :=
    ⟨rfl, rfl, rfl, rfl, ⟨by decide, by decide⟩, ⟨by decide, by decide⟩⟩
  obtain ⟨hqueue, -, hposition, -⟩ :=
    virtio_input_moves_pointer smallInputWorld () hready smallInputEvents
  refine ⟨(hposition (19, 0) (by decide)).1, ?_⟩
  rw [hqueue]
  rfl

end DuckOs

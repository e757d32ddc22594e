import DuckOs.Gfx.FramebufferBytes

/-!
# The surface is what lies in memory

Any sequence of writes has the same effect on the words of the surface and on the bytes of the buffer, and
no byte outside the buffer is written.
-/

namespace DuckOs

open ByteStore

namespace FramebufferMemory

variable {fb : FramebufferMemory} {surface : Surface} {rest : Store}

/-- The surface is that of the framebuffer. -/
structure Of (fb : FramebufferMemory) (surface : Surface) : Prop where
  size_eq : surface.toFramebuffer = fb.toFramebuffer
  supported_eq : surface.supported = fb.isSupported

theorem Of.putPixel (hof : fb.Of surface) (x y : Nat) (color : UInt32) :
    fb.Of (fbPutPixel surface x y color) :=
  ⟨(fbPutPixel_toFramebuffer surface x y color).trans hof.size_eq,
    (fbPutPixel_supported surface x y color).trans hof.supported_eq⟩

/-- Different pixels do not overlap. -/
theorem Packed.apart (hpacked : fb.Packed) {x y column row : Nat} (hx : x < fb.width)
    (hcolumn : column < fb.width) (hne : (column, row) ≠ (x, y)) {index : Nat} (hindex : index < 4) :
    fb.pixelAddress column row + index < fb.pixelAddress x y
      ∨ fb.pixelAddress x y + 4 ≤ fb.pixelAddress column row + index := by
  have hpitch := hpacked.pitch_eq
  rw [pixelAddress, pixelAddress]
  rcases Nat.lt_trichotomy row y with hlt | heq | hgt
  · have hrow : row * fb.pitch + fb.pitch ≤ y * fb.pitch := by
      rw [← Nat.succ_mul]
      exact Nat.mul_le_mul_right _ hlt
    exact .inl (by omega)
  · have hcolumns : column ≠ x := fun hsame => hne (by rw [hsame, heq])
    rw [heq]
    omega
  · have hrow : y * fb.pitch + fb.pitch ≤ row * fb.pitch := by
      rw [← Nat.succ_mul]
      exact Nat.mul_le_mul_right _ hgt
    exact .inr (by omega)

/-- A write does to the memory what it does to the surface. -/
theorem Packed.putPixel_store (hpacked : fb.Packed) (hof : fb.Of surface) (x y : Nat)
    (color : UInt32) :
    fb.putPixel (fb.store surface rest) x y color = fb.store (fbPutPixel surface x y color) rest := by
  have hsize : surface.width = fb.width ∧ surface.height = fb.height := by
    have heq := hof.size_eq
    exact ⟨congrArg Framebuffer.width heq, congrArg Framebuffer.height heq⟩
  unfold putPixel fbPutPixel
  rw [hof.supported_eq, hsize.1, hsize.2]
  split
  case isTrue => rfl
  case isFalse hinside =>
    have hx : x < fb.width := by
      by_contra hnot
      exact hinside (.inr (.inl (Nat.le_of_not_lt hnot)))
    have hy : y < fb.height := by
      by_contra hnot
      exact hinside (.inr (.inr (Nat.le_of_not_lt hnot)))
    funext address
    by_cases hbuffer : fb.buffer ≤ address ∧ address < fb.buffer + fb.pitch * fb.height
    · obtain ⟨column, row, index, hcolumn, hrow, hindex, rfl⟩ :=
        hpacked.exists_byte hbuffer.1 hbuffer.2
      rw [hpacked.store_byte _ rest hcolumn hrow hindex]
      by_cases hsame : (column, row) = (x, y)
      · obtain ⟨rfl, rfl⟩ := Prod.mk.inj hsame
        dsimp only
        rw [patch_add (by rw [length_toLe]; exact hindex), Function.update_self,
          List.getD_eq_getElem?_getD, List.getElem?_eq_getElem (by rw [length_toLe]; exact hindex)]
        rfl
      · dsimp only
        rw [Function.update_of_ne hsame, ← hpacked.store_byte surface rest hcolumn hrow hindex]
        obtain hbefore | hafter := hpacked.apart hx hcolumn hsame hindex
        · exact patch_of_lt hbefore
        · exact patch_of_le (by rw [length_toLe]; exact hafter)
    · have hrow : y * fb.pitch + fb.pitch ≤ fb.pitch * fb.height := by
        calc y * fb.pitch + fb.pitch = (y + 1) * fb.pitch := (Nat.succ_mul y fb.pitch).symm
          _ ≤ fb.height * fb.pitch := Nat.mul_le_mul_right _ hy
          _ = fb.pitch * fb.height := Nat.mul_comm _ _
      have hpitch := hpacked.pitch_eq
      have houtside : address < fb.pixelAddress x y
          ∨ fb.pixelAddress x y + (toLe 4 color.toNat).length ≤ address := by
        rw [length_toLe, pixelAddress]
        omega
      have hpatch : patch (fb.store surface rest) (fb.pixelAddress x y) (toLe 4 color.toNat) address
          = fb.store surface rest address :=
        houtside.elim patch_of_lt patch_of_le
      rw [hpatch, store, store, if_neg hbuffer, if_neg hbuffer]

theorem Packed.getPixel_store (hpacked : fb.Packed) (hof : fb.Of surface) (x y : Nat) :
    fb.getPixel (fb.store surface rest) x y = fbGetPixel surface x y := by
  have hsize : surface.width = fb.width ∧ surface.height = fb.height := by
    have heq := hof.size_eq
    exact ⟨congrArg Framebuffer.width heq, congrArg Framebuffer.height heq⟩
  unfold getPixel fbGetPixel
  rw [hof.supported_eq, hsize.1, hsize.2]
  split
  case isTrue => rfl
  case isFalse hinside =>
    have hx : x < fb.width := by
      by_contra hnot
      exact hinside (.inr (.inl (Nat.le_of_not_lt hnot)))
    have hy : y < fb.height := by
      by_contra hnot
      exact hinside (.inr (.inr (Nat.le_of_not_lt hnot)))
    exact hpacked.word_eq surface rest hx hy

/-- A call of `fb_put_pixel`. -/
structure PixelWrite where
  x : Nat
  y : Nat
  color : UInt32

theorem Packed.writes_store (hpacked : fb.Packed) (writes : List PixelWrite) :
    ∀ {surface : Surface}, fb.Of surface →
      writes.foldl (fun memory write => fb.putPixel memory write.x write.y write.color)
          (fb.store surface rest)
        = fb.store (writes.foldl (fun surface write => fbPutPixel surface write.x write.y write.color)
          surface) rest
      ∧ fb.Of (writes.foldl (fun surface write => fbPutPixel surface write.x write.y write.color)
        surface) := by
  induction writes with
  | nil => exact fun hof => ⟨rfl, hof⟩
  | cons write tail ih =>
      intro surface hof
      rw [List.foldl_cons, List.foldl_cons, hpacked.putPixel_store hof]
      exact ih (hof.putPixel write.x write.y write.color)

end FramebufferMemory

/-- Where rows of four-byte pixels lie one behind the other: after any writes, inside and outside of the
picture, every read of a pixel gives what the surface has there, which started as the words in the buffer,
and the memory outside the buffer is as before. -/
theorem framebuffer_bytes_are_surface (fb : FramebufferMemory) (hpacked : fb.Packed) (start : Store)
    (writes : List FramebufferMemory.PixelWrite) :
    let memory := writes.foldl (fun memory write => fb.putPixel memory write.x write.y write.color) start
    let surface := writes.foldl (fun surface write => fbPutPixel surface write.x write.y write.color)
      (fb.surface start)
    (∀ x y, fb.getPixel memory x y = fbGetPixel surface x y)
      ∧ ∀ address, address < fb.buffer ∨ fb.buffer + fb.pitch * fb.height ≤ address →
        memory address = start address := by
  intro memory surface
  obtain ⟨hstore, hof⟩ := @FramebufferMemory.Packed.writes_store fb start hpacked writes
    (fb.surface start) ⟨rfl, rfl⟩
  rw [hpacked.store_surface] at hstore
  have hmemory : memory = fb.store surface start := hstore
  rw [hmemory]
  refine ⟨hpacked.getPixel_store hof, fun address houtside => if_neg ?_⟩
  omega

/-- Two pixels at address 16, the second of which is written. -/
theorem framebuffer_bytes_are_surface_two :
    let fb : FramebufferMemory := ⟨⟨2, 1⟩, 8, 4, .b8g8r8a8, 16⟩
    fb.getPixel (fb.putPixel (fun _ => 0) 1 0 0xff7fd1ff) 1 0 = 0xff7fd1ff := by
  intro fb
  exact (framebuffer_bytes_are_surface fb ⟨rfl, rfl⟩ (fun _ => 0) [⟨1, 0, 0xff7fd1ff⟩]).1 1 0

end DuckOs

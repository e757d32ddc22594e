import DuckOs.Gfx.FramebufferMemory
import DuckOs.Lib.ByteStore

/-!
# The bytes of a framebuffer

`fb_put_pixel` and `fb_get_pixel` of `src/gfx/framebuffer.c` on the memory. The words of a surface lie in the
buffer row by row, so that both do to the memory what they do to the surface.
-/

namespace DuckOs

open ByteStore

namespace FramebufferMemory

/-- `fb_is_supported`. -/
def isSupported (fb : FramebufferMemory) : Bool := fb.buffer ≠ 0 ∧ fb.bytesPerPixel = 4

def putPixel (fb : FramebufferMemory) (memory : Store) (x y : Nat) (color : UInt32) : Store :=
  if !fb.isSupported ∨ fb.width ≤ x ∨ fb.height ≤ y then memory
  else patch memory (fb.pixelAddress x y) (toLe 4 color.toNat)

def getPixel (fb : FramebufferMemory) (memory : Store) (x y : Nat) : UInt32 :=
  if !fb.isSupported ∨ fb.width ≤ x ∨ fb.height ≤ y then 0
  else .ofNat (ofLe (slice memory (fb.pixelAddress x y) 4))

/-- The memory with the words of a surface in the buffer. -/
def store (fb : FramebufferMemory) (surface : Surface) (rest : Store) : Store :=
  fun address =>
    if fb.buffer ≤ address ∧ address < fb.buffer + fb.pitch * fb.height then
      let offset := address - fb.buffer
      (toLe 4 (surface.pixel (offset % fb.pitch / 4, offset / fb.pitch)).toNat).getD (offset % 4) 0
    else rest address

/-- The words that lie in the buffer. -/
def surface (fb : FramebufferMemory) (memory : Store) : Surface :=
  ⟨fb.toFramebuffer, fb.isSupported,
    fun place => .ofNat (ofLe (slice memory (fb.pixelAddress place.1 place.2) 4))⟩

/-- Rows of words, one behind the other. -/
structure Packed (fb : FramebufferMemory) : Prop where
  bytesPerPixel_eq : fb.bytesPerPixel = 4
  pitch_eq : fb.pitch = fb.width * 4

variable {fb : FramebufferMemory} {surface : Surface} {rest : Store} {x y : Nat}

/-- Every word is in its place. -/
theorem Packed.store_byte (hpacked : fb.Packed) (surface : Surface) (rest : Store) (hx : x < fb.width)
    (hy : y < fb.height) {index : Nat} (hindex : index < 4) :
    fb.store surface rest (fb.pixelAddress x y + index)
      = (toLe 4 (surface.pixel (x, y)).toNat).getD index 0 := by
  have hpitch := hpacked.pitch_eq
  have hrow : y * fb.pitch + fb.pitch ≤ fb.pitch * fb.height := by
    calc y * fb.pitch + fb.pitch = (y + 1) * fb.pitch := (Nat.succ_mul y fb.pitch).symm
      _ ≤ fb.height * fb.pitch := Nat.mul_le_mul_right _ hy
      _ = fb.pitch * fb.height := Nat.mul_comm _ _
  have hoffset : fb.pixelAddress x y + index - fb.buffer = fb.pitch * y + (4 * x + index) := by
    rw [pixelAddress, Nat.mul_comm fb.pitch y]
    omega
  have hlt : 4 * x + index < fb.pitch := by omega
  have hmod : (fb.pitch * y + (4 * x + index)) % fb.pitch = 4 * x + index := by
    rw [Nat.mul_add_mod, Nat.mod_eq_of_lt hlt]
  have hdiv : (fb.pitch * y + (4 * x + index)) / fb.pitch = y := by
    rw [Nat.mul_add_div (by omega), Nat.div_eq_of_lt hlt, Nat.add_zero]
  have hbyte : (fb.pitch * y + (4 * x + index)) % 4 = index := by
    rw [hpitch, Nat.mul_comm fb.width 4, Nat.mul_assoc, Nat.mul_add_mod, Nat.mul_add_mod,
      Nat.mod_eq_of_lt hindex]
  have hword : (4 * x + index) / 4 = x := by omega
  have hinside : fb.buffer ≤ fb.pixelAddress x y + index
      ∧ fb.pixelAddress x y + index < fb.buffer + fb.pitch * fb.height := by
    rw [pixelAddress]
    omega
  unfold store
  rw [if_pos hinside]
  dsimp only
  rw [hoffset, hmod, hdiv, hbyte, hword]

/-- Every byte of the buffer is one of a word. -/
theorem Packed.exists_byte (hpacked : fb.Packed) {address : Nat} (hfrom : fb.buffer ≤ address)
    (hto : address < fb.buffer + fb.pitch * fb.height) :
    ∃ x y index, x < fb.width ∧ y < fb.height ∧ index < 4 ∧ address = fb.pixelAddress x y + index := by
  have hpitch := hpacked.pitch_eq
  have hpos : 0 < fb.pitch := by
    apply Nat.pos_of_ne_zero
    intro hzero
    rw [hzero, Nat.zero_mul] at hto
    omega
  have hmod := Nat.mod_lt (address - fb.buffer) hpos
  have hsplit := Nat.div_add_mod (address - fb.buffer) fb.pitch
  have hrow : (address - fb.buffer) / fb.pitch < fb.height := by
    rw [Nat.div_lt_iff_lt_mul hpos, Nat.mul_comm]
    omega
  refine ⟨(address - fb.buffer) % fb.pitch / 4, (address - fb.buffer) / fb.pitch,
    (address - fb.buffer) % fb.pitch % 4, by omega, hrow, Nat.mod_lt _ (by decide), ?_⟩
  rw [pixelAddress, Nat.mul_comm ((address - fb.buffer) / fb.pitch)]
  omega

theorem Packed.slice_store (hpacked : fb.Packed) (surface : Surface) (rest : Store) (hx : x < fb.width)
    (hy : y < fb.height) :
    slice (fb.store surface rest) (fb.pixelAddress x y) 4 = toLe 4 (surface.pixel (x, y)).toNat := by
  rw [slice_eq_iff (length_toLe 4 _)]
  intro index hindex
  rw [hpacked.store_byte surface rest hx hy hindex, List.getD_eq_getElem?_getD,
    List.getElem?_eq_getElem (by rw [length_toLe]; exact hindex)]
  rfl

theorem Packed.store_surface (hpacked : fb.Packed) (memory : Store) :
    fb.store (fb.surface memory) memory = memory := by
  funext address
  by_cases hbuffer : fb.buffer ≤ address ∧ address < fb.buffer + fb.pitch * fb.height
  · obtain ⟨x, y, index, hx, hy, hindex, rfl⟩ := hpacked.exists_byte hbuffer.1 hbuffer.2
    have hlength : (slice memory (fb.pixelAddress x y) 4).length = 4 := length_slice
    have hlt : ofLe (slice memory (fb.pixelAddress x y) 4) < 2 ^ 32 := by
      have hbound := ofLe_lt (slice memory (fb.pixelAddress x y) 4)
      rwa [hlength] at hbound
    have hbytes : toLe 4 (UInt32.ofNat (ofLe (slice memory (fb.pixelAddress x y) 4))).toNat
        = slice memory (fb.pixelAddress x y) 4 := by
      rw [UInt32.toNat_ofNat_of_lt' hlt]
      nth_rewrite 1 [← hlength]
      exact toLe_ofLe _
    rw [hpacked.store_byte _ memory hx hy hindex, surface, hbytes, List.getD_eq_getElem?_getD,
      getElem?_slice hindex]
    rfl
  · exact if_neg hbuffer

theorem Packed.word_eq (hpacked : fb.Packed) (surface : Surface) (rest : Store) (hx : x < fb.width)
    (hy : y < fb.height) :
    UInt32.ofNat (ofLe (slice (fb.store surface rest) (fb.pixelAddress x y) 4))
      = surface.pixel (x, y) := by
  rw [hpacked.slice_store surface rest hx hy, ofLe_toLe_of_lt (surface.pixel (x, y)).toNat_lt,
    UInt32.ofNat_toNat]

end FramebufferMemory

end DuckOs

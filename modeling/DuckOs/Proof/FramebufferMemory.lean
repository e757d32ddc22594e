import DuckOs.Drivers.VirtioGpu
import DuckOs.Proof.Heap

/-!
# Framebuffers fit their blocks

`fb_create_test` computes sizes in 64 bits and rejects those above 32; `virtio_gpu_init` computes them in
32 bits, so that the size of a large display wraps.
-/

namespace DuckOs

section Pixels

variable {width height pitch size : Nat}

/-- The last pixel ends where the last row does. -/
theorem pixel_end_le (hpitch : 4 * width ≤ pitch) {x y : Nat} (hx : x < width) (hy : y < height) :
    y * pitch + 4 * x + 4 ≤ pitch * height := by
  calc y * pitch + 4 * x + 4 ≤ y * pitch + pitch := by omega
    _ = pitch * (y + 1) := by rw [Nat.mul_succ, Nat.mul_comm]
    _ ≤ pitch * height := Nat.mul_le_mul_left _ hy

/-- Sizes in 32 bits cover all pixels only if neither of them wraps. -/
theorem size_covers_iff (hwidth : 0 < width) (hheight : 0 < height) :
    (∀ x < width, ∀ y < height,
        y * (width * 4 % 2 ^ 32) + 4 * x + 4 ≤ width * 4 % 2 ^ 32 * height % 2 ^ 32)
      ↔ 4 * width * height < 2 ^ 32 := by
  constructor
  · intro hcovers
    have hlast := hcovers (width - 1) (by omega) (height - 1) (by omega)
    have hpitchLe : width * 4 % 2 ^ 32 ≤ width * 4 := Nat.mod_le _ _
    have hsizeLe := Nat.mod_le (width * 4 % 2 ^ 32 * height) (2 ^ 32)
    have hsizeLt := Nat.mod_lt (width * 4 % 2 ^ 32 * height) (Nat.two_pow_pos 32)
    have hrows : width * 4 % 2 ^ 32 * height
        = (height - 1) * (width * 4 % 2 ^ 32) + width * 4 % 2 ^ 32 := by
      obtain ⟨rows, rfl⟩ := Nat.exists_eq_succ_of_ne_zero (Nat.pos_iff_ne_zero.mp hheight)
      rw [Nat.succ_sub_one, Nat.mul_succ, Nat.mul_comm]
    have hpitch : width * 4 % 2 ^ 32 = width * 4 := by omega
    rw [hpitch] at hlast hrows hsizeLt hsizeLe
    have hfull : width * 4 * height % 2 ^ 32 = width * 4 * height := by omega
    rw [Nat.mul_comm 4 width, ← hfull]
    exact hsizeLt
  · intro hsize x hx y hy
    have hrow : width * 4 ≤ 4 * width * height := by
      rw [Nat.mul_comm width 4]
      exact Nat.le_mul_of_pos_right _ hheight
    rw [Nat.mod_eq_of_lt (by omega : width * 4 < 2 ^ 32), Nat.mul_comm width 4,
      Nat.mod_eq_of_lt hsize]
    exact pixel_end_le (Nat.le_refl _) hx hy

end Pixels

section Constructors

variable {platform : Platform} {memory : MemoryState} {allocation : FramebufferAllocation}

/-- What `fb_create_test` returns, if anything. -/
theorem fbCreateTest_cases {width height : Nat} (hwidth : width < 2 ^ 32) (hheight : height < 2 ^ 32)
    (hcreated : (fbCreateTest platform memory width height).1 = some allocation) :
    allocation.fb.width = width ∧ allocation.fb.height = height ∧ allocation.fb.pitch = width * 4
      ∧ allocation.fb.buffer = allocation.blockStart + framebufferSizeof
      ∧ allocation.blockSize = framebufferSizeof + width * 4 * height := by
  have hpitch : width * 4 % 2 ^ 64 = width * 4 := Nat.mod_eq_of_lt (by omega)
  unfold fbCreateTest at hcreated
  dsimp only at hcreated
  rw [hpitch] at hcreated
  split_ifs at hcreated with hzero hlarge
  obtain rfl := Option.some.inj hcreated
  have hpitchLe : width * 4 ≤ 0xffffffff := by omega
  have hsizeLt : width * 4 * height < 2 ^ 64 := by
    calc width * 4 * height ≤ 0xffffffff * height := Nat.mul_le_mul_right _ hpitchLe
      _ < 2 ^ 64 := by omega
  have hsize : width * 4 * height % 2 ^ 64 = width * 4 * height := Nat.mod_eq_of_lt hsizeLt
  rw [hsize] at hlarge
  dsimp only
  rw [hsize, Nat.mod_eq_of_lt (by omega : width * 4 < 2 ^ 32)]
  refine ⟨rfl, rfl, rfl, rfl, Nat.mod_eq_of_lt ?_⟩
  simp only [framebufferSizeof]
  omega

theorem fbCreateTest_covered {width height : Nat} (hwidth : width < 2 ^ 32) (hheight : height < 2 ^ 32)
    (hcreated : (fbCreateTest platform memory width height).1 = some allocation) :
    allocation.Covered := by
  obtain ⟨hfbWidth, hfbHeight, hpitch, hbuffer, hsize⟩ := fbCreateTest_cases hwidth hheight hcreated
  intro x hx y hy
  rw [hfbWidth] at hx
  rw [hfbHeight] at hy
  have hend := pixel_end_le (Nat.le_of_eq (Nat.mul_comm 4 width)) hx hy
  rw [FramebufferMemory.pixelAddress, hpitch, hbuffer, hsize]
  exact ⟨by omega, by omega⟩

/-- What `virtio_gpu_init` sets up, if it gets to its end. -/
theorem virtioGpuInit_cases {device : VirtioGpuDevice} {width height : BitVec 32}
    (hdisplay : device.displayInfo = some (width, height))
    (hready : (virtioGpuInit device platform memory).1 = some allocation) :
    0 < width.toNat ∧ 0 < height.toNat
      ∧ allocation.fb.width = width.toNat ∧ allocation.fb.height = height.toNat
      ∧ allocation.fb.pitch = width.toNat * 4 % 2 ^ 32
      ∧ allocation.fb.buffer = allocation.blockStart
      ∧ allocation.blockSize = width.toNat * 4 % 2 ^ 32 * height.toNat % 2 ^ 32 := by
  unfold virtioGpuInit at hready
  rw [hdisplay] at hready
  dsimp only at hready
  split_ifs at hready with hstarted hzero
  obtain rfl := Option.some.inj hready
  exact ⟨by omega, by omega, rfl, rfl, rfl, rfl, rfl⟩

theorem virtioGpuInit_covered_iff {device : VirtioGpuDevice} {width height : BitVec 32}
    (hdisplay : device.displayInfo = some (width, height))
    (hready : (virtioGpuInit device platform memory).1 = some allocation) :
    allocation.Covered ↔ 4 * width.toNat * height.toNat < 2 ^ 32 := by
  obtain ⟨hwidth, hheight, hfbWidth, hfbHeight, hpitch, hbuffer, hsize⟩ :=
    virtioGpuInit_cases hdisplay hready
  rw [← size_covers_iff hwidth hheight, FramebufferAllocation.Covered, hfbWidth, hfbHeight, hsize]
  refine forall₂_congr fun x _ => forall₂_congr fun y _ => ?_
  rw [FramebufferMemory.pixelAddress, hpitch, hbuffer]
  omega

end Constructors

/-- For any width and height: what `fb_create_test` returns covers its pixels; what `virtio_gpu_init` sets
up for a display of that size does so if and only if the size of the buffer fits in 32 bits. -/
theorem framebuffer_covers_iff (platform : Platform) (memory : MemoryState) (width height : BitVec 32) :
    (∀ allocation, (fbCreateTest platform memory width.toNat height.toNat).1 = some allocation →
        allocation.Covered)
      ∧ ∀ (device : VirtioGpuDevice) (allocation : FramebufferAllocation),
        device.displayInfo = some (width, height) →
        (virtioGpuInit device platform memory).1 = some allocation →
        (allocation.Covered ↔ 4 * width.toNat * height.toNat < 2 ^ 32) :=
  ⟨fun _ hcreated => fbCreateTest_covered width.isLt height.isLt hcreated,
    fun _ _ hdisplay hready => virtioGpuInit_covered_iff hdisplay hready⟩

/-- A device that does what it is asked. -/
def willingGpu (width height : BitVec 32) : VirtioGpuDevice := ⟨true, some (width, height), fun _ => true⟩

theorem framebuffer_covers_small :
    ∃ allocation, (virtioGpuInit (willingGpu 64 48) smallPlatform (.boot 0)).1 = some allocation
      ∧ allocation.Covered := by
  refine ⟨_, rfl, ?_⟩
  exact ((framebuffer_covers_iff smallPlatform (.boot 0) 64 48).2 (willingGpu 64 48) _ rfl rfl).mpr
    (by decide)

/-- A display of 65536 by 65536 pixels gets a buffer of no bytes. -/
theorem framebuffer_wraps :
    ¬ ∀ allocation,
      (virtioGpuInit (willingGpu 0x10000 0x10000) smallPlatform (.boot 0)).1 = some allocation →
      allocation.Covered := by
  intro hcovered
  have hfirst := hcovered _ rfl 0 (by decide) 0 (by decide)
  exact absurd hfirst (by decide)

end DuckOs

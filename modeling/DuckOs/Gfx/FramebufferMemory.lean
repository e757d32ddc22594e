import DuckOs.Gfx.Framebuffer
import DuckOs.Mm.Pmm

/-!
# Framebuffers in memory

`framebuffer_t` as it lies in memory, `fb_create_test` of `src/gfx/framebuffer.c`, and where `fb_put_pixel`
writes.
-/

namespace DuckOs

inductive FbPixelFormat where
  | x8r8g8b8
  | b8g8r8a8
  deriving DecidableEq

structure FramebufferMemory extends Framebuffer where
  pitch : Nat
  bytesPerPixel : Nat
  pixelFormat : FbPixelFormat
  buffer : Nat
  deriving DecidableEq

def framebufferSizeof : Nat := 32

/-- A framebuffer, and the start and size of the block that was allocated for its buffer. -/
structure FramebufferAllocation where
  fb : FramebufferMemory
  blockStart : Nat
  blockSize : Nat
  deriving DecidableEq

/-- `none` is a null pointer. The block holds the structure and the buffer behind it. -/
def fbCreateTest (platform : Platform) (memory : MemoryState) (width height : Nat) :
    Option FramebufferAllocation × MemoryState :=
  if width = 0 ∨ height = 0 then (none, memory)
  else
    let pitch := width * 4 % 2 ^ 64
    let bufferSize := pitch * height % 2 ^ 64
    if 0xffffffff < pitch ∨ 0xffffffff < bufferSize then (none, memory)
    else
      let allocationSize := (framebufferSizeof + bufferSize) % 2 ^ 64
      if allocationSize < framebufferSizeof then (none, memory)
      else
        let allocated := kzalloc platform memory allocationSize
        if allocated.1 = 0 then (none, allocated.2)
        else
          (some {
            fb := {
              width := width
              height := height
              pitch := pitch % 2 ^ 32
              bytesPerPixel := 4
              pixelFormat := .x8r8g8b8
              buffer := allocated.1 + framebufferSizeof }
            blockStart := allocated.1
            blockSize := allocationSize }, allocated.2)

/-- The first of the four bytes that `fb_put_pixel` writes, and `fb_get_pixel` reads. -/
def FramebufferMemory.pixelAddress (fb : FramebufferMemory) (x y : Nat) : Nat :=
  fb.buffer + (y * fb.pitch + 4 * x)

/-- Every pixel lies in the block. -/
def FramebufferAllocation.Covered (allocation : FramebufferAllocation) : Prop :=
  ∀ x < allocation.fb.width, ∀ y < allocation.fb.height,
    allocation.blockStart ≤ allocation.fb.pixelAddress x y
      ∧ allocation.fb.pixelAddress x y + 4 ≤ allocation.blockStart + allocation.blockSize

end DuckOs

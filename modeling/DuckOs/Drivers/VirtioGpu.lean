import DuckOs.Gfx.FramebufferMemory

/-!
# The virtio-gpu driver

`virtio_gpu_init` of `src/drivers/virtio_gpu.c`. The device is a parameter: the size it reports and the
requests it accepts.
-/

namespace DuckOs

/-- What the driver asks of the device once it knows the size of the display. -/
inductive VirtioGpuRequest where
  | createResource (width height : Nat)
  | attachBacking (address length : Nat)
  | setScanout (width height : Nat)
  | transferToHost (x y width height offset : Nat)
  | resourceFlush (x y width height : Nat)

/-- `started` says that there is a device and that it could be set up with its control queue.
`displayInfo` is the first mode of the display, `none` if the device does not tell. -/
structure VirtioGpuDevice where
  started : Bool
  displayInfo : Option (BitVec 32 × BitVec 32)
  accepts : VirtioGpuRequest → Bool

/-- `virtio_gpu_flush` for the whole framebuffer, which `virtio_gpu_clip_rect` leaves as it is. -/
def virtioGpuFlush (device : VirtioGpuDevice) (width height : Nat) : Bool :=
  device.accepts (.transferToHost 0 0 width height 0)
    && device.accepts (.resourceFlush 0 0 width height)

/-- The framebuffer that `virtio_gpu_framebuffer` then returns, `none` for a null pointer; `memory` is the
state behind `virtqueue_init`. What `virtio_gpu_draw_demo` draws before the flush goes through
`fb_put_pixel` into the framebuffer and changes neither its geometry nor the heap. -/
def virtioGpuInit (device : VirtioGpuDevice) (platform : Platform) (memory : MemoryState) :
    Option FramebufferAllocation × MemoryState :=
  if !device.started then (none, memory)
  else
    match device.displayInfo with
    | none => (none, memory)
    | some (reportedWidth, reportedHeight) =>
        let width := reportedWidth.toNat
        let height := reportedHeight.toNat
        if width = 0 ∨ height = 0 then (none, memory)
        else
          let pitch := width * 4 % 2 ^ 32
          let framebufferSize := pitch * height % 2 ^ 32
          let allocated := kzalloc platform memory framebufferSize
          let buffer := allocated.1
          if buffer = 0 then (none, allocated.2)
          else if !device.accepts (.createResource width height) then (none, allocated.2)
          else if !device.accepts (.attachBacking buffer framebufferSize) then (none, allocated.2)
          else if !device.accepts (.setScanout width height) then (none, allocated.2)
          else if !virtioGpuFlush device width height then (none, allocated.2)
          else
            (some {
              fb := {
                width := width
                height := height
                pitch := pitch
                bytesPerPixel := 4
                pixelFormat := .b8g8r8a8
                buffer := buffer }
              blockStart := buffer
              blockSize := framebufferSize }, allocated.2)

end DuckOs

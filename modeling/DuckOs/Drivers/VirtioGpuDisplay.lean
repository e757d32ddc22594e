import DuckOs.Gfx.FramebufferBytes
import DuckOs.Kernel.Console

/-!
# The display of virtio-gpu

`virtio_gpu_flush_rect` of `src/drivers/virtio_gpu.c` and `mmu_sync_for_device` of
`src/arch/aarch64/mmu.c`, with any device that carries the commands out. The device sees the memory without
what is still in the cache.
-/

namespace DuckOs

open ByteStore

/-! ### Memory -/

/-- `dc civac`: a line of the cache is written back. -/
def mmuDcCivac (cpu seen : Store) (address : Nat) : Store :=
  fun other => if other / 64 = address / 64 then cpu other else seen other

/-- The loop of `mmu_sync_for_device`, over so many lines. -/
def mmuSyncLoop (cpu : Store) : (lines current : Nat) → Store → Store
  | 0, _, seen => seen
  | lines + 1, current, seen => mmuSyncLoop cpu lines (current + 64) (mmuDcCivac cpu seen current)

def mmuSyncForDevice (cpu seen : Store) (address size : Nat) : Store :=
  let current := address / 64 * 64
  let stop := (address + size + 63) % 2 ^ 64 / 64 * 64
  mmuSyncLoop cpu ((stop - current) / 64) current seen

/-! ### The device -/

def FlushRect.Contains (rect : FlushRect) (place : Nat × Nat) : Prop :=
  (rect.x ≤ place.1 ∧ place.1 < rect.x + rect.width)
    ∧ rect.y ≤ place.2 ∧ place.2 < rect.y + rect.height

instance (rect : FlushRect) (place : Nat × Nat) : Decidable (rect.Contains place) :=
  inferInstanceAs (Decidable (_ ∧ _))

/-- The resource of the framebuffer, the memory behind it, and what the display shows. -/
structure VirtioGpuHost where
  width : Nat
  height : Nat
  backing : Nat
  length : Nat
  resource : Nat × Nat → UInt32
  shown : Nat × Nat → UInt32

namespace VirtioGpuHost

/-- The words of a rectangle come from memory, row by row and with the rows of the resource apart. -/
def transferred (host : VirtioGpuHost) (seen : Store) (rect : FlushRect) (offset : Nat) : VirtioGpuHost :=
  { host with
    resource := fun place =>
      if rect.Contains place then
        .ofNat (ofLe (slice seen
          (host.backing + offset + (place.2 - rect.y) * (host.width * 4) + (place.1 - rect.x) * 4) 4))
      else host.resource place }

/-- The words of a rectangle are shown. -/
def flushed (host : VirtioGpuHost) (rect : FlushRect) : VirtioGpuHost :=
  { host with shown := fun place => if rect.Contains place then host.resource place else host.shown place }

end VirtioGpuHost

/-- What a virtio display does with the commands for its resource. Those for a rectangle of it, with all words in
the memory behind it, it carries out; about all others nothing is said. -/
structure VirtioGpuServer where
  /-- `VIRTIO_GPU_CMD_TRANSFER_TO_HOST_2D` -/
  transferToHost : VirtioGpuHost → (seen : Store) → FlushRect → (offset : Nat) → Bool × VirtioGpuHost
  /-- `VIRTIO_GPU_CMD_RESOURCE_FLUSH` -/
  resourceFlush : VirtioGpuHost → FlushRect → Bool × VirtioGpuHost
  transferToHost_eq : ∀ {host : VirtioGpuHost} (seen : Store) {rect : FlushRect} {offset : Nat},
    rect.x + rect.width ≤ host.width → rect.y + rect.height ≤ host.height →
      offset + (rect.height - 1) * (host.width * 4) + rect.width * 4 ≤ host.length →
      transferToHost host seen rect offset = (true, host.transferred seen rect offset)
  resourceFlush_eq : ∀ {host : VirtioGpuHost} {rect : FlushRect},
    rect.x + rect.width ≤ host.width → rect.y + rect.height ≤ host.height →
      resourceFlush host rect = (true, host.flushed rect)

/-! ### The driver -/

/-- `virtio_gpu_state`; `device` says that it is not null and initialised. -/
structure VirtioGpuState where
  device : Bool
  framebuffer : FramebufferMemory
  framebufferSize : Nat
  width : Nat
  height : Nat

/-- `none` is the return value 0. -/
def virtioGpuClipRect (state : VirtioGpuState) (rect : FlushRect) : Option FlushRect :=
  if rect.width = 0 ∨ rect.height = 0 then none
  else if state.width ≤ rect.x ∨ state.height ≤ rect.y then none
  else
    let maxWidth := state.width - rect.x
    let maxHeight := state.height - rect.y
    let width := if maxWidth < rect.width then maxWidth else rect.width
    let height := if maxHeight < rect.height then maxHeight else rect.height
    if width ≠ 0 ∧ height ≠ 0 then some ⟨rect.x, rect.y, width, height⟩ else none

/-- `true` is the return value 0; with it comes the memory that the device then sees. -/
def virtioGpuFlushRect (server : VirtioGpuServer) (state : VirtioGpuState) (cpu seen : Store)
    (host : VirtioGpuHost) (rect : FlushRect) : Bool × Store × VirtioGpuHost :=
  if !state.device then (false, seen, host)
  else
    match virtioGpuClipRect state rect with
    | none => (true, seen, host)
    | some rect =>
        let fb := state.framebuffer
        let syncOffset := (rect.y * fb.pitch + rect.x * fb.bytesPerPixel) % 2 ^ 64
        let syncLength := ((rect.height - 1) * fb.pitch + rect.width * fb.bytesPerPixel) % 2 ^ 64
        let seen := mmuSyncForDevice cpu seen (fb.buffer + syncOffset) syncLength
        let transferred := server.transferToHost host seen rect syncOffset
        if !transferred.1 then (false, seen, transferred.2)
        else
          let flushed := server.resourceFlush transferred.2 rect
          (flushed.1, seen, flushed.2)

end DuckOs

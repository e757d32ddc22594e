import DuckOs.Drivers.VirtioGpuDisplay
import DuckOs.Proof.Console
import DuckOs.Proof.FramebufferMemory

/-!
# The display shows the console

A flush carries every word of its rectangle from the framebuffer to the display, and the console flushes all
that it has changed.
-/

namespace DuckOs

open ByteStore

/-! ### Memory -/

section Memory

variable {cpu seen rest : Store} {address size : Nat}

/-- The loop writes the lines back that it passes. -/
theorem mmuSyncLoop_of_mem : ∀ (lines current : Nat) (seen : Store), current % 64 = 0 →
    current ≤ address → address < current + 64 * lines →
    mmuSyncLoop cpu lines current seen address = cpu address := by
  have hkept : ∀ (lines current : Nat) (seen : Store), seen address = cpu address →
      mmuSyncLoop cpu lines current seen address = cpu address := by
    intro lines
    induction lines with
    | zero => exact fun _ _ hseen => hseen
    | succ lines ih =>
        intro current seen hseen
        apply ih
        change (if address / 64 = current / 64 then cpu address else seen address) = cpu address
        rw [hseen, ite_self]
  intro lines
  induction lines with
  | zero => exact fun current _ _ hfrom hto => absurd hto (by omega)
  | succ lines ih =>
      intro current seen haligned hfrom hto
      by_cases hfirst : address < current + 64
      · exact hkept lines (current + 64) _ (if_pos (by omega))
      · exact ih (current + 64) _ (by omega) (by omega) (by omega)

/-- The whole range is seen by the device, where it does not reach the end of the addresses. -/
theorem mmuSyncForDevice_of_mem (hfits : address + size + 63 < 2 ^ 64) {other : Nat}
    (hfrom : address ≤ other) (hto : other < address + size) :
    mmuSyncForDevice cpu seen address size other = cpu other := by
  rw [mmuSyncForDevice, Nat.mod_eq_of_lt hfits]
  exact mmuSyncLoop_of_mem _ _ _ (Nat.mul_mod_left _ _) (by omega) (by omega)

end Memory

/-! ### A flush -/

/-- The device has been given the framebuffer of the driver, whose rows lie one behind the other. -/
structure VirtioGpuState.Ready (state : VirtioGpuState) (host : VirtioGpuHost) : Prop where
  device_eq : state.device = true
  packed : state.framebuffer.Packed
  width_eq : state.width = state.framebuffer.width
  height_eq : state.height = state.framebuffer.height
  hostWidth_eq : host.width = state.framebuffer.width
  hostHeight_eq : host.height = state.framebuffer.height
  backing_eq : host.backing = state.framebuffer.buffer
  length_eq : host.length = state.framebuffer.pitch * state.framebuffer.height
  fits : state.framebuffer.buffer + state.framebuffer.pitch * state.framebuffer.height + 63 < 2 ^ 64

section Flush

variable {state : VirtioGpuState} {host : VirtioGpuHost} {rect clipped : FlushRect}

theorem virtioGpuClipRect_none (hnone : virtioGpuClipRect state rect = none) {place : Nat × Nat}
    (hx : place.1 < state.width) (hy : place.2 < state.height) : ¬ rect.Contains place := by
  unfold virtioGpuClipRect at hnone
  rintro ⟨⟨hleft, hright⟩, htop, hbottom⟩
  rw [if_neg (by omega), if_neg (by omega)] at hnone
  dsimp only at hnone
  rw [if_pos] at hnone
  · exact Option.some_ne_none _ hnone
  · constructor
    · split <;> omega
    · split <;> omega

/-- The part of the rectangle that is on the display. -/
theorem virtioGpuClipRect_some (hsome : virtioGpuClipRect state rect = some clipped) :
    (0 < clipped.width ∧ clipped.x + clipped.width ≤ state.width)
      ∧ (0 < clipped.height ∧ clipped.y + clipped.height ≤ state.height)
      ∧ ∀ place : Nat × Nat, place.1 < state.width → place.2 < state.height →
        (clipped.Contains place ↔ rect.Contains place) := by
  unfold virtioGpuClipRect at hsome
  split at hsome
  · exact nomatch hsome
  split at hsome
  · exact nomatch hsome
  rename_i hpositive hon
  dsimp only at hsome
  generalize hwidthEq : (if state.width - rect.x < rect.width then state.width - rect.x else rect.width)
    = width at hsome
  generalize hheightEq : (if state.height - rect.y < rect.height then state.height - rect.y
    else rect.height) = height at hsome
  have hwidth : width = min (state.width - rect.x) rect.width := by
    rw [← hwidthEq]
    split <;> omega
  have hheight : height = min (state.height - rect.y) rect.height := by
    rw [← hheightEq]
    split <;> omega
  rw [if_pos (by omega)] at hsome
  rw [← Option.some.inj hsome]
  refine ⟨by dsimp only; omega, by dsimp only; omega, fun place hx hy => ?_⟩
  unfold FlushRect.Contains
  dsimp only
  omega

/-- The bytes of a pixel in the rectangle are where the device looks for them, among those that have been
written back. -/
theorem clipped_pixel {fb : FramebufferMemory} (hpacked : fb.Packed) {place : Nat × Nat}
    (hcontains : clipped.Contains place) :
    fb.buffer + (clipped.y * fb.pitch + clipped.x * 4) + (place.2 - clipped.y) * (fb.width * 4)
        + (place.1 - clipped.x) * 4 = fb.pixelAddress place.1 place.2
      ∧ fb.buffer + (clipped.y * fb.pitch + clipped.x * 4) ≤ fb.pixelAddress place.1 place.2
      ∧ fb.pixelAddress place.1 place.2 + 4
        ≤ fb.buffer + (clipped.y * fb.pitch + clipped.x * 4)
          + ((clipped.height - 1) * fb.pitch + clipped.width * 4) := by
  obtain ⟨⟨hleft, hright⟩, htop, hbottom⟩ := hcontains
  rw [FramebufferMemory.pixelAddress, ← hpacked.pitch_eq]
  obtain ⟨row, hrow⟩ : ∃ row, place.2 = clipped.y + row := ⟨place.2 - clipped.y, by omega⟩
  obtain ⟨column, hcolumn⟩ : ∃ column, place.1 = clipped.x + column := ⟨place.1 - clipped.x, by omega⟩
  have hrows : row * fb.pitch ≤ (clipped.height - 1) * fb.pitch := Nat.mul_le_mul_right _ (by omega)
  rw [hrow, hcolumn, Nat.add_sub_cancel_left, Nat.add_sub_cancel_left, Nat.add_mul]
  omega

/-- The words of the rectangle are on the display afterwards, and the others are as they were. -/
theorem VirtioGpuState.Ready.flushRect (server : VirtioGpuServer) (hready : state.Ready host) (surface : Surface)
    (rest seen : ByteStore.Store) (rect : FlushRect) :
    let result := virtioGpuFlushRect server state (state.framebuffer.store surface rest) seen host rect
    result.1 = true ∧ state.Ready result.2.2
      ∧ ∀ place : Nat × Nat, place.1 < state.framebuffer.width → place.2 < state.framebuffer.height →
        result.2.2.shown place
          = if rect.Contains place then surface.pixel place else host.shown place := by
  unfold virtioGpuFlushRect
  rw [hready.device_eq, Bool.not_true, if_neg Bool.false_ne_true]
  cases hclip : virtioGpuClipRect state rect with
  | none =>
      refine ⟨rfl, hready, fun place hx hy => ?_⟩
      rw [if_neg (virtioGpuClipRect_none hclip (hready.width_eq ▸ hx) (hready.height_eq ▸ hy))]
  | some clipped =>
      obtain ⟨⟨hwidth, hright⟩, ⟨hheight, hbottom⟩, hcontains⟩ := virtioGpuClipRect_some hclip
      rw [hready.width_eq] at hright hcontains
      rw [hready.height_eq] at hbottom hcontains
      have hpitch := hready.packed.pitch_eq
      have hrows : (clipped.y + (clipped.height - 1)) * state.framebuffer.pitch
          + state.framebuffer.pitch ≤ state.framebuffer.pitch * state.framebuffer.height := by
        calc (clipped.y + (clipped.height - 1)) * state.framebuffer.pitch + state.framebuffer.pitch
            = (clipped.y + (clipped.height - 1) + 1) * state.framebuffer.pitch :=
              (Nat.succ_mul _ _).symm
          _ ≤ state.framebuffer.height * state.framebuffer.pitch :=
              Nat.mul_le_mul_right _ (by omega)
          _ = state.framebuffer.pitch * state.framebuffer.height := Nat.mul_comm _ _
      have hfits := hready.fits
      rw [Nat.add_mul] at hrows
      dsimp only
      rw [hready.packed.bytesPerPixel_eq,
        Nat.mod_eq_of_lt (by omega :
          clipped.y * state.framebuffer.pitch + clipped.x * 4 < 2 ^ 64),
        Nat.mod_eq_of_lt (by omega :
          (clipped.height - 1) * state.framebuffer.pitch + clipped.width * 4 < 2 ^ 64)]
      generalize hsynced : mmuSyncForDevice _ seen _ _ = synced
      have htransferred := server.transferToHost_eq synced (hready.hostWidth_eq ▸ hright)
        (hready.hostHeight_eq ▸ hbottom)
        (by rw [hready.hostWidth_eq, hready.length_eq, ← hpitch]; omega :
          clipped.y * state.framebuffer.pitch + clipped.x * 4
            + (clipped.height - 1) * (host.width * 4) + clipped.width * 4 ≤ host.length)
      rw [htransferred, Bool.not_true, if_neg Bool.false_ne_true,
        server.resourceFlush_eq (hready.hostWidth_eq ▸ hright) (hready.hostHeight_eq ▸ hbottom)]
      refine ⟨rfl, { hready with }, fun place hx hy => ?_⟩
      dsimp only [VirtioGpuHost.flushed, VirtioGpuHost.transferred]
      by_cases hplace : rect.Contains place
      · have hclipped := (hcontains place hx hy).mpr hplace
        obtain ⟨haddress, hfrom, hto⟩ := clipped_pixel hready.packed hclipped
        rw [if_pos hclipped, if_pos hclipped, if_pos hplace, hready.backing_eq, hready.hostWidth_eq,
          haddress, ← hready.packed.word_eq surface rest hx hy]
        congr 2
        apply ByteStore.slice_congr
        intro index hindex
        rw [← hsynced]
        exact mmuSyncForDevice_of_mem (by omega) (by omega) (by omega)
      · rw [if_neg fun hclipped => hplace ((hcontains place hx hy).mp hclipped), if_neg hplace]

end Flush

/-! ### The console on the display -/

/-- The console with the driver and the device behind it; `rest` is the memory besides the framebuffer. -/
structure ConsoleDisplay where
  server : VirtioGpuServer
  console : ConsoleState
  gpu : VirtioGpuState
  rest : Store
  host : VirtioGpuHost

/-- The calls of the console, which asks the driver itself whether there is a display. -/
inductive DisplayCall where
  | putc (c : UInt8)
  | flush
  | setOutputMode (mode : UInt32)

def DisplayCall.consoleCall (available : Bool) : DisplayCall → ConsoleCall
  | .putc c => .putc c
  | .flush => .flush available
  | .setOutputMode mode => .setOutputMode mode available

namespace ConsoleDisplay

/-- What the console hands to the driver; `seen` is what the device sees of the memory when the driver is
called. -/
def update (display : ConsoleDisplay) (result : Option FlushRect × ConsoleState) (seen : Store) :
    ConsoleDisplay :=
  { display with
    console := result.2
    host :=
      match result.1 with
      | none => display.host
      | some rect =>
          (virtioGpuFlushRect display.server display.gpu
            (display.gpu.framebuffer.store result.2.gfx.fb display.rest) seen display.host rect).2.2 }

def call (display : ConsoleDisplay) (input : DisplayCall × Store) : ConsoleDisplay :=
  display.update (display.console.call (input.1.consoleCall display.gpu.device)) input.2

/-- The places that have not changed since the last flush are on the display. -/
structure Follows {rows cols : Nat} (display : ConsoleDisplay) (changed : Set (Nat × Nat))
    (screen : CellScreen rows cols UInt8) : Prop where
  holds : ConsoleHolds display.gpu.framebuffer.toFramebuffer ⟨display.console, changed⟩ screen
  ready : display.gpu.Ready display.host
  shown_eq : ∀ place : Nat × Nat, place.1 < display.gpu.framebuffer.width →
    place.2 < display.gpu.framebuffer.height → place ∉ changed →
    display.host.shown place = display.console.gfx.fb.pixel place

section Calls

variable {rows cols : Nat} {display : ConsoleDisplay} {changed : Set (Nat × Nat)}
  {screen : CellScreen rows cols UInt8} {console : ConsoleState}

/-- The rectangle of a flush holds all that has changed. -/
theorem flushUnlocked_contains {fb : Framebuffer} (hholds : ConsoleHolds fb ⟨console, changed⟩ screen)
    {available : Bool} {rect : FlushRect} (hrect : (console.flushUnlocked available).1 = some rect)
    {place : Nat × Nat} (hplace : place ∈ changed) : rect.Contains place := by
  obtain ⟨hvalid, ⟨hleft, hright⟩, htop, hbottom⟩ := hholds.changed_dirty hplace
  obtain ⟨⟨hx, hxLe⟩, hy, hyLe⟩ := hholds.dirty_inside hvalid
  have hwidth := hholds.shows.sized.width_lt
  have hheight := hholds.shows.sized.height_lt
  dsimp only at hleft hright htop hbottom hx hxLe hy hyLe hwidth hheight
  unfold ConsoleState.flushUnlocked at hrect
  by_cases hon : console.graphics = true ∧ available = true
  · rw [if_pos hon] at hrect
    dsimp only at hrect
    rw [if_pos hvalid] at hrect
    rw [← Option.some.inj hrect]
    unfold FlushRect.Contains uint32
    dsimp only
    omega
  · rw [if_neg hon] at hrect
    exact absurd hrect.symm (Option.some_ne_none rect)

/-- A flush behind any other step of the console. -/
theorem Follows.flushed (hready : display.gpu.Ready display.host)
    (hholds : ConsoleHolds display.gpu.framebuffer.toFramebuffer ⟨console, changed⟩ screen)
    (hshown : ∀ place : Nat × Nat, place.1 < display.gpu.framebuffer.width →
      place.2 < display.gpu.framebuffer.height → place ∉ changed →
      display.host.shown place = console.gfx.fb.pixel place) (available : Bool) (seen : Store) :
    (display.update (console.flushUnlocked available) seen).Follows
      (if (console.flushUnlocked available).1.isSome then ∅ else changed) screen := by
  obtain ⟨hafter, hsame, -⟩ := hholds.flush available
  cases hresult : (console.flushUnlocked available).1 with
  | none =>
      rw [hresult, Option.isSome_none, if_neg Bool.false_ne_true] at hafter
      rw [Option.isSome_none, if_neg Bool.false_ne_true]
      unfold update
      rw [hresult]
      refine ⟨hafter, hready, fun place hx hy hplace => ?_⟩
      dsimp only
      rw [hsame]
      exact hshown place hx hy hplace
  | some rect =>
      rw [hresult, Option.isSome_some, if_pos rfl] at hafter
      rw [Option.isSome_some, if_pos rfl]
      unfold update
      rw [hresult]
      obtain ⟨-, hreadyAfter, hshownAfter⟩ := hready.flushRect display.server
        (console.flushUnlocked available).2.gfx.fb display.rest seen rect
      refine ⟨hafter, hreadyAfter, fun place hx hy _ => ?_⟩
      dsimp only at hx hy ⊢
      rw [hshownAfter place hx hy, hsame]
      split
      case isTrue => rfl
      case isFalse houtside =>
        exact hshown place hx hy fun hplace => houtside (flushUnlocked_contains hholds hresult hplace)

/-- What is on the display stays there while the console draws. -/
theorem Follows.shown_drawn (hfollows : display.Follows changed screen) {place : Nat × Nat}
    (hx : place.1 < display.gpu.framebuffer.width) (hy : place.2 < display.gpu.framebuffer.height)
    (hplace : place ∉ changed
      ∪ {place | console.gfx.fb.pixel place ≠ display.console.gfx.fb.pixel place}) :
    display.host.shown place = console.gfx.fb.pixel place := by
  rw [Set.mem_union, not_or, Set.mem_ofPred_eq, not_not] at hplace
  rw [hfollows.shown_eq place hx hy hplace.1, hplace.2]

theorem Follows.call (hfollows : display.Follows changed screen) (input : DisplayCall × Store) :
    ∃ after, (display.call input).Follows after
      (terminalCall display.console.mode screen (input.1.consoleCall display.gpu.device)) := by
  obtain ⟨displayCall, seen⟩ := input
  have hcall := hfollows.holds.call (displayCall.consoleCall display.gpu.device)
  cases displayCall with
  | putc c => exact ⟨_, hcall, hfollows.ready, fun place hx hy => hfollows.shown_drawn hx hy⟩
  | flush => exact ⟨_, Follows.flushed hfollows.ready hfollows.holds hfollows.shown_eq _ seen⟩
  | setOutputMode mode =>
      have hmode : (display.console.setOutputMode mode display.gpu.device)
          = if (ConsoleState.mk (mode &&& (consoleSinkSerial ||| consoleSinkGraphics))
              display.console.gfx).graphics then
            (ConsoleState.mk (mode &&& (consoleSinkSerial ||| consoleSinkGraphics))
              display.console.gfx.showCursor).flushUnlocked display.gpu.device
          else (none, ⟨mode &&& (consoleSinkSerial ||| consoleSinkGraphics),
            display.console.gfx.hideCursor⟩) := rfl
      unfold ConsoleDisplay.call
      dsimp only [DisplayCall.consoleCall, ConsoleState.call]
      rw [hmode]
      by_cases hgraphics : (ConsoleState.mk (mode &&& (consoleSinkSerial ||| consoleSinkGraphics))
          display.console.gfx).graphics = true
      · have hshown := @ConsoleHolds.leads _ _ _ _ _ screen hfollows.holds
          ⟨mode &&& (consoleSinkSerial ||| consoleSinkGraphics), display.console.gfx.showCursor⟩ true
          hfollows.holds.shows.showCursor fun _ => rfl
        rw [if_pos hgraphics]
        exact ⟨_, Follows.flushed hfollows.ready hshown
          (fun place hx hy => hfollows.shown_drawn hx hy) _ seen⟩
      · have hhidden := @ConsoleHolds.leads _ _ _ _ _ screen hfollows.holds
          ⟨mode &&& (consoleSinkSerial ||| consoleSinkGraphics), display.console.gfx.hideCursor⟩ false
          hfollows.holds.shows.hideCursor fun hon => absurd hon hgraphics
        rw [if_neg hgraphics]
        exact ⟨_, hhidden, hfollows.ready, fun place hx hy => hfollows.shown_drawn hx hy⟩

/-- The driver stays as it is, and the bytes that are written decide on the screen. -/
theorem Follows.calls (inputs : List (DisplayCall × Store)) :
    ∀ {display : ConsoleDisplay} {changed : Set (Nat × Nat)} {screen : CellScreen rows cols UInt8},
      display.Follows changed screen →
        ∃ after, (inputs.foldl ConsoleDisplay.call display).Follows after
          ((graphicsBytes display.console.mode
            (inputs.map fun input => input.1.consoleCall display.gpu.device)).foldl terminalByte screen)
        ∧ (inputs.foldl ConsoleDisplay.call display).gpu = display.gpu := by
  induction inputs with
  | nil => exact fun hfollows => ⟨_, hfollows, rfl⟩
  | cons input rest ih =>
      intro display changed screen hfollows
      obtain ⟨middle, hcall⟩ := hfollows.call input
      obtain ⟨after, hrest, hgpu⟩ := ih hcall
      refine ⟨after, ?_, hgpu⟩
      rw [List.map_cons, List.foldl_cons]
      have hbytes := graphicsBytes_cons ⟨display.console, changed⟩
        (input.1.consoleCall display.gpu.device)
        (rest.map fun input => input.1.consoleCall display.gpu.device) screen
      rw [hbytes]
      exact hrest

/-- With the graphics sink enabled a flush leaves nothing behind. -/
theorem Follows.shown_flush (hfollows : display.Follows changed screen)
    (hgraphics : display.console.graphics = true) (seen : Store) {place : Nat × Nat}
    (hx : place.1 < display.gpu.framebuffer.width) (hy : place.2 < display.gpu.framebuffer.height) :
    (display.call (.flush, seen)).host.shown place = display.console.gfx.fb.pixel place := by
  have hflushed := Follows.flushed hfollows.ready hfollows.holds hfollows.shown_eq display.gpu.device seen
  obtain ⟨-, hsame, -⟩ := hfollows.holds.flush display.gpu.device
  have hnothing : place ∉ (if (display.console.flushUnlocked display.gpu.device).1.isSome then ∅
      else changed) := by
    cases hvalid : display.console.gfx.dirty.valid with
    | true =>
        have hsome : (display.console.flushUnlocked display.gpu.device).1.isSome = true := by
          unfold ConsoleState.flushUnlocked
          rw [if_pos ⟨hgraphics, hfollows.ready.device_eq⟩]
          dsimp only
          rw [if_pos hvalid]
          rfl
        rw [if_pos hsome]
        exact Set.notMem_empty place
    | false =>
        split
        · exact Set.notMem_empty place
        · intro hplace
          exact Bool.false_ne_true (hvalid.symm.trans (hfollows.holds.changed_dirty hplace).1)
  exact (hflushed.shown_eq place hx hy hnothing).trans (congrFun (congrArg Surface.pixel hsame) place)

end Calls

end ConsoleDisplay

/-! ### From the start of the driver -/

/-- The state of the driver behind `virtio_gpu_init`. -/
def VirtioGpuState.ofAllocation (allocation : FramebufferAllocation) : VirtioGpuState :=
  ⟨true, allocation.fb, allocation.blockSize, allocation.fb.width, allocation.fb.height⟩

/-- The device behind the requests of `virtio_gpu_init`, with any contents. -/
def VirtioGpuHost.ofAllocation (allocation : FramebufferAllocation)
    (resource shown : Nat × Nat → UInt32) : VirtioGpuHost :=
  ⟨allocation.fb.width, allocation.fb.height, allocation.fb.buffer, allocation.blockSize, resource, shown⟩

section Start

variable {device : VirtioGpuDevice} {platform : Platform} {memory : MemoryState}
  {allocation : FramebufferAllocation}

theorem memoryLayoutRamEnd_le (platform : Platform) :
    memoryLayoutRamEnd platform + 4096 ≤ 2 ^ 64 := by
  obtain ⟨pages, hpages⟩ := platform.ramSize_dvd
  have hlt := platform.ramEnd_lt
  rw [memoryLayoutRamEnd]
  rw [hpages] at hlt ⊢
  simp only [platformGetRamBase, pmmPageSize] at hlt ⊢
  omega

/-- A block that is returned ends where the memory does at the latest. -/
theorem kzalloc_le (hlimit : memory.heapLimit ≤ memoryLayoutRamEnd platform) {size : Nat}
    (hsize : size < 2 ^ 32) (hblock : (kzalloc platform memory size).1 ≠ 0) :
    (kzalloc platform memory size).1 + size ≤ memoryLayoutRamEnd platform := by
  have hend := memoryLayoutRamEnd_le platform
  have hinit : (kmallocInit platform memory).heapLimit ≤ memoryLayoutRamEnd platform := by
    unfold kmallocInit
    split
    · exact hlimit
    · exact Nat.le_refl _
  unfold kzalloc kmalloc at hblock ⊢
  dsimp only at hblock ⊢
  generalize kmallocInit platform memory = heap at hinit hblock ⊢
  split at hblock
  case isTrue => exact absurd rfl hblock
  case isFalse hfits =>
    rw [if_neg hfits]
    simp only [alignUp16] at hfits
    dsimp only
    omega

theorem virtioGpuInit_block {width height : BitVec 32}
    (hdisplay : device.displayInfo = some (width, height))
    (hready : (virtioGpuInit device platform memory).1 = some allocation) :
    allocation.fb.bytesPerPixel = 4 ∧ allocation.fb.buffer ≠ 0
      ∧ allocation.fb.buffer = (kzalloc platform memory allocation.blockSize).1 := by
  unfold virtioGpuInit at hready
  rw [hdisplay] at hready
  dsimp only at hready
  split_ifs at hready with hstarted hzero hnull
  obtain rfl := Option.some.inj hready
  exact ⟨rfl, hnull, rfl⟩

theorem virtioGpuInit_ready (hready : (virtioGpuInit device platform memory).1 = some allocation)
    (hcovered : allocation.Covered) (hlimit : memory.heapLimit ≤ memoryLayoutRamEnd platform)
    (resource shown : Nat × Nat → UInt32) :
    (VirtioGpuState.ofAllocation allocation).Ready (.ofAllocation allocation resource shown)
      ∧ allocation.fb.isSupported = true
      ∧ 4 * allocation.fb.width * allocation.fb.height < 2 ^ 32 := by
  obtain ⟨width, height, hdisplay⟩ : ∃ width height, device.displayInfo = some (width, height) := by
    cases hdisplay : device.displayInfo with
    | none =>
        unfold virtioGpuInit at hready
        rw [hdisplay, ite_self] at hready
        exact absurd hready.symm (Option.some_ne_none allocation)
    | some size => exact ⟨size.1, size.2, rfl⟩
  have hsize := (virtioGpuInit_covered_iff hdisplay hready).mp hcovered
  obtain ⟨hwidth, hheight, hfbWidth, hfbHeight, hpitch, hbuffer, hblock⟩ :=
    virtioGpuInit_cases hdisplay hready
  obtain ⟨hbytes, hnull, hkzalloc⟩ := virtioGpuInit_block hdisplay hready
  have hrow : width.toNat * 4 ≤ 4 * width.toNat * height.toNat := by
    rw [Nat.mul_comm width.toNat 4]
    exact Nat.le_mul_of_pos_right _ hheight
  rw [Nat.mod_eq_of_lt (by omega : width.toNat * 4 < 2 ^ 32), ← hfbWidth] at hpitch
  have hlength : allocation.blockSize = allocation.fb.pitch * allocation.fb.height := by
    rw [hblock, hpitch, hfbWidth, hfbHeight, Nat.mod_eq_of_lt (by omega : width.toNat * 4 < 2 ^ 32),
      Nat.mul_comm width.toNat 4, Nat.mod_eq_of_lt hsize]
  have hblockLt : allocation.blockSize < 2 ^ 32 := by
    rw [hblock]
    exact Nat.mod_lt _ (by decide)
  have hend := kzalloc_le hlimit hblockLt (hkzalloc ▸ hnull)
  have hram := memoryLayoutRamEnd_le platform
  rw [← hkzalloc, hlength] at hend
  refine ⟨?_, ?_, ?_⟩
  · exact {
      device_eq := rfl
      packed := ⟨hbytes, hpitch⟩
      width_eq := rfl
      height_eq := rfl
      hostWidth_eq := rfl
      hostHeight_eq := rfl
      backing_eq := rfl
      length_eq := hlength
      fits := by
        change allocation.fb.buffer + allocation.fb.pitch * allocation.fb.height + 63 < 2 ^ 64
        omega }
  · exact decide_eq_true ⟨hnull, hbytes⟩
  · rw [hfbWidth, hfbHeight]
    exact hsize

end Start

/-- Whatever is written to the console while it is attached to the framebuffer of `virtio_gpu_init`, and
whatever the device sees of the memory before the driver writes the cache back: every pixel outside the dirty
rectangle is on the display, and after a flush the display shows the screen of the terminal. -/
theorem display_shows_console (device : VirtioGpuDevice) (platform : Platform) (memory : MemoryState)
    (allocation : FramebufferAllocation)
    (hready : (virtioGpuInit device platform memory).1 = some allocation)
    (hcovered : allocation.Covered) (hlimit : memory.heapLimit ≤ memoryLayoutRamEnd platform)
    (hwidth : 8 ≤ allocation.fb.width) (hheight : 8 ≤ allocation.fb.height)
    (server : VirtioGpuServer) (resource shown : Nat × Nat → UInt32) (mode : UInt32) (block : Nat → UInt8)
    (start seen : Store) (inputs : List (DisplayCall × Store)) :
    ∃ result,
      consoleAttachGraphics mode (allocation.fb.surface start) (some block) true = some result
      ∧
      let attached := ConsoleDisplay.update ⟨server, result.2, .ofAllocation allocation, start,
        .ofAllocation allocation resource shown⟩ result seen
      let display := inputs.foldl ConsoleDisplay.call attached
      let screen := (graphicsBytes mode (inputs.map fun input => input.1.consoleCall true)).foldl
        terminalByte
        (CellScreen.clear (Nat.div_pos hheight (by decide)) (Nat.div_pos hwidth (by decide))
          (0x20 : UInt8) : CellScreen (allocation.fb.height / 8) (allocation.fb.width / 8) UInt8)
      (∀ place : Nat × Nat, place.1 < allocation.fb.width → place.2 < allocation.fb.height →
        place ∉ display.console.gfx.dirty.area →
        display.host.shown place = display.console.gfx.fb.pixel place)
      ∧ (display.console.graphics = true →
        ∀ (seen : Store) (row : Fin (allocation.fb.height / 8)) (col : Fin (allocation.fb.width / 8)),
        ∀ dy < 8, ∀ dx < 8,
          (display.call (.flush, seen)).host.shown (col.val * 8 + dx, row.val * 8 + dy)
            = if (row = screen.row ∧ col = screen.col) ∧ 6 ≤ dy then 0xff7fd1ff
              else gfxGlyphColor (screen.cell row col) 0xffffffff 0xff000000 dy dx) := by
  obtain ⟨hgpu, hsupported, hsize⟩ := virtioGpuInit_ready hready hcovered hlimit resource shown
  have hwidthLt : allocation.fb.width < 2 ^ 27 := by
    have hle : 4 * allocation.fb.width * 8 ≤ 4 * allocation.fb.width * allocation.fb.height :=
      Nat.mul_le_mul_left _ hheight
    omega
  have hheightLt : allocation.fb.height < 2 ^ 27 := by
    have hle : 4 * 8 * allocation.fb.height ≤ 4 * allocation.fb.width * allocation.fb.height :=
      Nat.mul_le_mul_right _ (Nat.mul_le_mul_left 4 hwidth)
    omega
  have hcells : allocation.fb.height / 8 * (allocation.fb.width / 8) < 2 ^ 32 := by
    calc allocation.fb.height / 8 * (allocation.fb.width / 8)
        ≤ allocation.fb.height * (4 * allocation.fb.width) :=
          Nat.mul_le_mul (Nat.div_le_self _ _) (by omega)
      _ = 4 * allocation.fb.width * allocation.fb.height := Nat.mul_comm _ _
      _ < 2 ^ 32 := hsize
  obtain ⟨console, hconsole⟩ : ∃ console : ConsoleState, ∀ available,
      consoleAttachGraphics mode (allocation.fb.surface start) (some block) available
        = some (console.flushUnlocked available) := by
    have hlarge : ¬ ((allocation.fb.surface start).width < gfxFontWidth
        ∨ (allocation.fb.surface start).height < gfxFontHeight) := by
      change ¬ (allocation.fb.width < 8 ∨ allocation.fb.height < 8)
      omega
    exact ⟨_, fun available => if_neg hlarge⟩
  obtain ⟨result, hattach, hmode, hholds⟩ := @consoleHolds_attach (allocation.fb.surface start) mode
    hsupported hwidth hheight
    (Nat.lt_trans hwidthLt (by decide : 2 ^ 27 < 2 ^ 31))
    (Nat.lt_trans hheightLt (by decide : 2 ^ 27 < 2 ^ 31)) block hcells false
  rw [hconsole false] at hattach
  have hidle : console.flushUnlocked false = (none, console) :=
    if_neg fun hboth => Bool.false_ne_true hboth.2
  rw [hidle] at hattach
  obtain rfl := Option.some.inj hattach
  refine ⟨_, hconsole true, ?_⟩
  intro attached display screen
  have hattached := @ConsoleDisplay.Follows.flushed _ _ ⟨server, (console.flushUnlocked true).2,
    .ofAllocation allocation, start, .ofAllocation allocation resource shown⟩ _ _ console hgpu hholds
    (fun place hx hy hplace => absurd ⟨hx, hy⟩ hplace) true seen
  obtain ⟨after, hfollows, hgpuEq⟩ := hattached.calls inputs
  have hstart : attached.console.mode = mode := (flushUnlocked_mode console true).trans hmode
  change display.gpu = VirtioGpuState.ofAllocation allocation at hgpuEq
  change display.Follows after ((graphicsBytes attached.console.mode _).foldl terminalByte _) at hfollows
  rw [hstart] at hfollows
  change display.Follows after screen at hfollows
  have hfb : display.gpu.framebuffer = allocation.fb := congrArg VirtioGpuState.framebuffer hgpuEq
  constructor
  · intro place hx hy hclean
    exact hfollows.shown_eq place (by rw [hfb]; exact hx) (by rw [hfb]; exact hy)
      fun hplace => hclean (hfollows.holds.changed_dirty hplace)
  · intro hgraphics seen row col dy hdy dx hdx
    have hrow := row.isLt
    have hcol := col.isLt
    have hvisible : display.console.gfx.cursorVisible = true := hfollows.holds.visible hgraphics
    have hpixel := hfollows.holds.follows.pixel_eq row col dy hdy dx hdx
    rw [hfollows.shown_flush hgraphics seen (by rw [hfb]; dsimp only; omega)
      (by rw [hfb]; dsimp only; omega)]
    dsimp only at hpixel
    rw [hpixel, hvisible]
    simp only [true_and]

/-- A display that refuses all other commands. -/
def checkedDisplay : VirtioGpuServer where
  transferToHost host seen rect offset :=
    if rect.x + rect.width ≤ host.width ∧ rect.y + rect.height ≤ host.height
        ∧ offset + (rect.height - 1) * (host.width * 4) + rect.width * 4 ≤ host.length then
      (true, host.transferred seen rect offset)
    else (false, host)
  resourceFlush host rect :=
    if rect.x + rect.width ≤ host.width ∧ rect.y + rect.height ≤ host.height then (true, host.flushed rect)
    else (false, host)
  transferToHost_eq _ _ _ hright hbottom hlength := if_pos ⟨hright, hbottom, hlength⟩
  resourceFlush_eq hright hbottom := if_pos ⟨hright, hbottom⟩

/-- A display of 64 by 48 pixels on which a character is written. -/
theorem display_shows_console_small :
    ∃ allocation, (virtioGpuInit (willingGpu 64 48) smallPlatform (.boot 0)).1 = some allocation
      ∧ ∃ result,
        consoleAttachGraphics 2 (allocation.fb.surface fun _ => 0) (some fun _ => 0) true = some result
        ∧
        let attached := ConsoleDisplay.update ⟨checkedDisplay, result.2, .ofAllocation allocation, fun _ => 0,
          .ofAllocation allocation (fun _ => 0) fun _ => 0⟩ result fun _ => 0
        let display := [(DisplayCall.putc 0x41, fun _ => (0 : UInt8))].foldl ConsoleDisplay.call attached
        ∀ place : Nat × Nat, place.1 < 64 → place.2 < 48 → place ∉ display.console.gfx.dirty.area →
          display.host.shown place = display.console.gfx.fb.pixel place := by
  have hcovered := fun allocation hready =>
    (@virtioGpuInit_covered_iff smallPlatform (.boot 0) allocation (willingGpu 64 48) 64 48 rfl
      hready).mpr (by decide)
  refine ⟨_, rfl, ?_⟩
  obtain ⟨result, hattach, hshown, -⟩ := display_shows_console (willingGpu 64 48) smallPlatform (.boot 0)
    _ rfl (hcovered _ rfl) (by decide) (by decide) (by decide) checkedDisplay (fun _ => 0) (fun _ => 0) 2
    (fun _ => 0) (fun _ => 0) (fun _ => 0) [(.putc 0x41, fun _ => 0)]
  exact ⟨result, hattach, hshown⟩

end DuckOs

import DuckOs.Proof.Heap
import DuckOs.Proof.Task

/-!
# Saved contexts

The stacks of the tasks are disjoint, so what the current task and the exceptions it takes write
leaves the saved frames of the others alone. A frame saved by `exception_entry_common` lies 0x140
bytes below the stack pointer it records; the frame that `task_prepare_stack` builds lies 0x130 bytes
below it.
-/

namespace DuckOs

/-! ### Frames in memory -/

section Frames

variable {words : Nat → Nat} {address target : Nat}

theorem TrapFrame.store_outside {frame : TrapFrame}
    (houtside : ¬ (address ≤ target ∧ target < address + TrapFrame.size)) :
    TrapFrame.store words address frame target = words target := by
  rw [TrapFrame.store, if_neg houtside]

theorem TrapFrame.store_sp (frame : TrapFrame) :
    TrapFrame.store words address frame (address + TrapFrame.spOffset) = frame.sp := by
  rw [TrapFrame.store, if_pos ⟨Nat.le_add_right _ _, by simp [TrapFrame.spOffset, TrapFrame.size]⟩]
  simp [TrapFrame.word, TrapFrame.spOffset]

theorem exceptionEntry_outside {context : TrapContext} (hroom : exceptionFrameSpan ≤ context.sp)
    (houtside : ¬ (exceptionEntryFrame context ≤ target ∧ target < context.sp)) :
    exceptionEntry words context target = words target := by
  simp only [exceptionEntryFrame, exceptionFrameSpan] at hroom houtside
  rw [exceptionEntry, TrapFrame.store_outside, Function.update_of_ne]
  · omega
  · simp only [exceptionEntryFrame, exceptionFrameSpan, TrapFrame.size]
    omega

theorem exceptionEntry_sp (context : TrapContext) :
    exceptionEntry words context (exceptionEntryFrame context + TrapFrame.spOffset)
      = exceptionReturnSp (exceptionEntryFrame context) := by
  rw [exceptionEntry, TrapFrame.store_sp]
  rfl

end Frames

/-! ### What an exception does -/

section Handle

variable {image : KernelImage} {state after : KernelState} {frame : Nat}

/-- The current task is resumed; only its frame is written to. -/
structure StaysAt (before : KernelState) (frame : Nat) (after : KernelState) : Prop where
  initialized_eq : after.taskInitialized = before.taskInitialized
  current_eq : after.currentTask = before.currentTask
  memory_eq : after.memory = before.memory
  tasks_of_ne : ∀ ref, ref ≠ before.currentTask → after.tasks ref = before.tasks ref
  tasks_current : ∃ sp, after.tasks before.currentTask
    = { before.tasks before.currentTask with sp := sp }
  words_outside : ∀ address, ¬ (frame ≤ address ∧ address < frame + TrapFrame.size) →
    after.words address = before.words address

theorem staysAt_refl (state : KernelState) (frame : Nat) : StaysAt state frame state where
  initialized_eq := rfl
  current_eq := rfl
  memory_eq := rfl
  tasks_of_ne := fun _ _ => rfl
  tasks_current := ⟨_, rfl⟩
  words_outside := fun _ _ => rfl

theorem StaysAt.setWord (hstays : StaysAt state frame after) {offset : Nat}
    (hoffset : offset < TrapFrame.size) (value : Nat) :
    StaysAt state frame (after.setWord (frame + offset) value) where
  initialized_eq := hstays.initialized_eq
  current_eq := hstays.current_eq
  memory_eq := hstays.memory_eq
  tasks_of_ne := hstays.tasks_of_ne
  tasks_current := hstays.tasks_current
  words_outside := fun address houtside => by
    rw [← hstays.words_outside address houtside]
    exact Function.update_of_ne (by omega) _ _

theorem staysAt_setSp (state : KernelState) (frame : Nat) :
    StaysAt state frame (state.setSp state.currentTask frame) where
  initialized_eq := rfl
  current_eq := rfl
  memory_eq := rfl
  tasks_of_ne := fun ref hne => by simp [KernelState.setSp, KernelState.setTask, hne]
  tasks_current := ⟨frame, by simp [KernelState.setSp, KernelState.setTask]⟩
  words_outside := fun _ _ => rfl

theorem StaysAt.scheduler {lastFrame : TaskRef → Nat} (hstays : StaysAt state frame after)
    (hinv : SchedulerInv state lastFrame) : SchedulerInv after lastFrame := by
  refine hinv.congr hstays.initialized_eq hstays.current_eq ?_ ?_ fun _ _ => rfl
  · intro ref
    by_cases hne : ref = state.currentTask
    · obtain ⟨sp, htask⟩ := hstays.tasks_current
      rw [hne, htask]
    · rw [hstays.tasks_of_ne ref hne]
  · intro ref hne _
    rw [hstays.tasks_of_ne ref hne]

/-- The current task is left ready or finished, the kernel task ready. -/
def SwitchesAt (before : KernelState) (frame : Nat) (after : KernelState) : Prop :=
  ∃ left next resumed, (left = .ready ∨ left = .finished)
    ∧ (before.currentTask = .kernel → left = .ready)
    ∧ SwitchedTo before frame left next resumed after

theorem schedule_effect {lastFrame : TaskRef → Nat} (hinv : SchedulerInv state lastFrame)
    (frame : Nat) :
    StaysAt state frame (taskScheduleFromException state frame true).2
      ∨ SwitchesAt state frame (taskScheduleFromException state frame true).2 := by
  rcases taskSchedule_cases hinv.initialized hinv.current_ne_ready frame with
    ⟨-, -, heq⟩ | ⟨next, -, hswitch⟩
  · rw [heq]
    exact .inl (staysAt_setSp state frame)
  · refine .inr ⟨_, next, _, hinv.left_of_schedule, ?_, hswitch⟩
    exact hinv.left_of_schedule_kernel

theorem syscall_effect (image : KernelImage) {lastFrame : TaskRef → Nat}
    (hinv : SchedulerInv state lastFrame) (frame : Nat) :
    StaysAt state frame (syscallHandle image state frame).2
      ∨ SwitchesAt state frame (syscallHandle image state frame).2 := by
  have hsize : (0 : Nat) < TrapFrame.size := by decide
  rcases syscallHandle_cases image state frame with
    ⟨value, console, heq, -⟩ | ⟨-, -, heq⟩ | ⟨-, -, heq⟩
  · rw [heq]
    have hstays := (staysAt_refl state frame).setWord hsize value
    exact .inl { hstays with }
  · rw [heq]
    have hactive : StaysAt state frame { state with userActive := false } :=
      { staysAt_refl state frame with }
    exact .inl (((hactive.setWord hsize _).setWord (by decide) _).setWord (by decide) _)
  · rw [heq]
    rcases taskExit_cases hinv.initialized frame (frameX state frame 0) with
      ⟨-, hexit⟩ | ⟨hkernel, next, -, hswitch⟩
    · rw [hexit]
      exact .inl ((staysAt_setSp state frame).setWord hsize _)
    · exact .inr ⟨_, next, _, .inr rfl, fun h => absurd h hkernel, hswitch⟩

theorem exceptionHandle_effect {lastFrame : TaskRef → Nat} (hinv : SchedulerInv state lastFrame)
    {irqId : Nat} {result : Nat × KernelState}
    (hresult : exceptionHandle image state irqId frame = some result) :
    ∃ ticks, StaysAt { state with timerIrqTicks := ticks } frame result.2
      ∨ SwitchesAt { state with timerIrqTicks := ticks } frame result.2 := by
  have hticks : ∀ ticks, SchedulerInv { state with timerIrqTicks := ticks } lastFrame :=
    fun _ => { hinv with }
  simp only [exceptionHandle, exceptionHandleIrq] at hresult
  split_ifs at hresult <;> cases hresult
  · exact ⟨state.timerIrqTicks, .inl (staysAt_refl _ _)⟩
  · exact ⟨state.timerIrqTicks + 1, schedule_effect (hticks _) frame⟩
  · exact ⟨state.timerIrqTicks + 1, .inl (staysAt_refl _ _)⟩
  · exact ⟨state.timerIrqTicks, .inl (staysAt_refl _ _)⟩
  · exact ⟨state.timerIrqTicks, schedule_effect (hticks _) frame⟩
  · exact ⟨state.timerIrqTicks, syscall_effect image (hticks _) frame⟩

end Handle

/-! ### Stacks -/

/-- The kernel task, and the table entries in use. -/
def HasStack (state : KernelState) (ref : TaskRef) : Prop :=
  ref = .kernel ∨ (state.tasks ref).state ≠ .unused

/-- The stacks of the table entries in use lie one after the other in the heap. -/
structure StackLayout (image : KernelImage) (state : KernelState) : Prop where
  size_eq : ∀ index, (state.tasks (.slot index)).state ≠ .unused →
    (state.tasks (.slot index)).stackSize = taskStackSize
  base_ge : ∀ index, (state.tasks (.slot index)).state ≠ .unused →
    heapBase image.toPlatform ≤ (state.tasks (.slot index)).stackBase
  base_le : ∀ index, (state.tasks (.slot index)).state ≠ .unused →
    (state.tasks (.slot index)).stackBase + taskStackSize ≤ state.memory.heapCurrent
  apart : ∀ i j, i ≠ j → (state.tasks (.slot i)).state ≠ .unused →
    (state.tasks (.slot j)).state ≠ .unused →
    (state.tasks (.slot i)).stackBase + taskStackSize ≤ (state.tasks (.slot j)).stackBase
      ∨ (state.tasks (.slot j)).stackBase + taskStackSize ≤ (state.tasks (.slot i)).stackBase

section Stacks

variable {image : KernelImage} {state after : KernelState}

/-- The bitmap lies between the kernel image and the heap. -/
theorem kernelEnd_le_heapBase (platform : Platform) : platform.kernelEnd ≤ heapBase platform := by
  have hge := platform.kernelEnd_ge
  have hle := platform.kernelEnd_le
  have hlt := ramEnd_add_lt platform
  have hfirst : memoryLayoutFirstFreePhys platform (.boot 0) = platform.kernelEnd := rfl
  simp only [memoryLayoutRamEnd] at hlt
  rw [heapBase, pmmBitmapStart, hfirst, alignUpPage, Nat.mod_eq_of_lt (by
    simp only [pmmPageSize]
    omega)]
  simp only [pmmPageSize]
  omega

theorem StackLayout.high_slot (hlayout : StackLayout image state) {index : Fin taskMax}
    (hused : (state.tasks (.slot index)).state ≠ .unused) :
    stackHigh image state (.slot index) = (state.tasks (.slot index)).stackBase + taskStackSize := by
  rw [stackHigh, hlayout.size_eq index hused]

theorem StackLayout.stacks_apart (hlayout : StackLayout image state) {ref other : TaskRef}
    (hne : ref ≠ other) (href : HasStack state ref) (hother : HasStack state other) :
    stackHigh image state ref ≤ stackLow image state other
      ∨ stackHigh image state other ≤ stackLow image state ref := by
  have hkernel := kernelEnd_le_heapBase image.toPlatform
  cases ref with
  | kernel =>
      cases other with
      | kernel => exact absurd rfl hne
      | slot index =>
          have hused := hother.resolve_left (by simp)
          exact .inl (hkernel.trans (hlayout.base_ge index hused))
  | slot index =>
      have hused := href.resolve_left (by simp)
      rw [hlayout.high_slot hused]
      cases other with
      | kernel => exact .inr (hkernel.trans (hlayout.base_ge index hused))
      | slot second =>
          have hsecond := hother.resolve_left (by simp)
          rw [hlayout.high_slot hsecond]
          exact hlayout.apart index second (fun h => hne (by rw [h])) hused hsecond

theorem StackLayout.congr (hlayout : StackLayout image state)
    (hstacks : ∀ ref, (after.tasks ref).state ≠ .unused → HasStack state ref
      ∧ (after.tasks ref).stackBase = (state.tasks ref).stackBase
      ∧ (after.tasks ref).stackSize = (state.tasks ref).stackSize)
    (hgrown : state.memory.heapCurrent ≤ after.memory.heapCurrent) : StackLayout image after := by
  have hused : ∀ index, (after.tasks (.slot index)).state ≠ .unused →
      (state.tasks (.slot index)).state ≠ .unused :=
    fun index h => (hstacks (.slot index) h).1.resolve_left (by simp)
  exact {
    size_eq := fun index h => by
      rw [(hstacks _ h).2.2]
      exact hlayout.size_eq index (hused index h)
    base_ge := fun index h => by
      rw [(hstacks _ h).2.1]
      exact hlayout.base_ge index (hused index h)
    base_le := fun index h => by
      rw [(hstacks _ h).2.1]
      exact (hlayout.base_le index (hused index h)).trans hgrown
    apart := fun i j hne hi hj => by
      rw [(hstacks _ hi).2.1, (hstacks _ hj).2.1]
      exact hlayout.apart i j hne (hused i hi) (hused j hj) }

theorem StackLayout.add (hlayout : StackLayout image state) {index : Fin taskMax} {task : Task}
    {words : Nat → Nat} {memory : MemoryState}
    (hold : state.memory.heapCurrent ≤ task.stackBase)
    (hnew : task.stackBase + taskStackSize ≤ memory.heapCurrent)
    (hbase : heapBase image.toPlatform ≤ task.stackBase) (hsize : task.stackSize = taskStackSize) :
    StackLayout image { state with
      memory := memory
      tasks := Function.update state.tasks (.slot index) task
      words := words } := by
  have hother : ∀ i, i ≠ index →
      Function.update state.tasks (.slot index) task (.slot i) = state.tasks (.slot i) :=
    fun i hne => Function.update_of_ne (fun h => hne (TaskRef.slot.inj h)) _ _
  exact {
    size_eq := fun i hused => by
      by_cases hi : i = index
      · simp only [hi, Function.update_self, hsize]
      · simp only [hother i hi] at hused ⊢
        exact hlayout.size_eq i hused
    base_ge := fun i hused => by
      by_cases hi : i = index
      · simp only [hi, Function.update_self, hbase]
      · simp only [hother i hi] at hused ⊢
        exact hlayout.base_ge i hused
    base_le := fun i hused => by
      by_cases hi : i = index
      · simp only [hi, Function.update_self, hnew]
      · simp only [hother i hi] at hused ⊢
        have hle := hlayout.base_le i hused
        omega
    apart := fun i j hne hi hj => by
      by_cases hiIndex : i = index
      · have hjIndex : j ≠ index := fun h => hne (hiIndex.trans h.symm)
        simp only [hiIndex, Function.update_self, hother j hjIndex] at hj ⊢
        exact .inr ((hlayout.base_le j hj).trans hold)
      · by_cases hjIndex : j = index
        · simp only [hjIndex, Function.update_self, hother i hiIndex] at hi ⊢
          exact .inl ((hlayout.base_le i hi).trans hold)
        · simp only [hother i hiIndex, hother j hjIndex] at hi hj ⊢
          exact hlayout.apart i j hne hi hj }

theorem StackLayout.high_le_current (hlayout : StackLayout image state) {ref : TaskRef} {block : Nat}
    (hbase : heapBase image.toPlatform ≤ block) (hold : state.memory.heapCurrent ≤ block)
    (hstack : HasStack state ref) : stackHigh image state ref ≤ block := by
  cases ref with
  | kernel => exact (kernelEnd_le_heapBase image.toPlatform).trans hbase
  | slot index =>
      have hused := hstack.resolve_left (by simp)
      rw [hlayout.high_slot hused]
      exact (hlayout.base_le index hused).trans hold

theorem stackLow_congr {ref : TaskRef}
    (hbase : (after.tasks ref).stackBase = (state.tasks ref).stackBase) :
    stackLow image after ref = stackLow image state ref := by
  cases ref with
  | kernel => rfl
  | slot index => exact hbase

theorem stackHigh_congr {ref : TaskRef}
    (hbase : (after.tasks ref).stackBase = (state.tasks ref).stackBase)
    (hsize : (after.tasks ref).stackSize = (state.tasks ref).stackSize) :
    stackHigh image after ref = stackHigh image state ref := by
  cases ref with
  | kernel => rfl
  | slot index => simp only [stackHigh, hbase, hsize]

end Stacks

/-! ### The invariant -/

/-- A frame in the stack of the task, with the stack pointer that the code which built it records. -/
structure SavedContext (image : KernelImage) (run : ContextRun) (ref : TaskRef) : Prop where
  low_le : stackLow image run.state ref ≤ (run.state.tasks ref).sp
  le_high : (run.state.tasks ref).sp + TrapFrame.size ≤ stackHigh image run.state ref
  recorded : run.state.words ((run.state.tasks ref).sp + TrapFrame.spOffset)
    = (run.state.tasks ref).sp + if run.interrupted ref then exceptionFrameSpan else TrapFrame.size
  initial : run.interrupted ref = false →
    (run.state.tasks ref).sp + TrapFrame.size = stackHigh image run.state ref

structure ContextInv (image : KernelImage) (run : ContextRun) : Prop where
  scheduler : ∃ lastFrame, SchedulerInv run.state lastFrame
  heap : HeapOk image.toPlatform run.state.memory
  layout : StackLayout image run.state
  kernel_interrupted : run.state.currentTask ≠ .kernel → run.interrupted .kernel = true
  saved : ∀ ref, run.Resumable ref → SavedContext image run ref

section Invariant

variable {image : KernelImage} {run : ContextRun}

theorem ContextInv.hasStack_current (hinv : ContextInv image run) :
    HasStack run.state run.state.currentTask := by
  obtain ⟨lastFrame, hscheduler⟩ := hinv.scheduler
  rcases hscheduler.current_live with hcurrent | hcurrent <;>
    exact .inr (by simp [hcurrent])

theorem ContextRun.Resumable.hasStack {ref : TaskRef} (hresumable : run.Resumable ref) :
    HasStack run.state ref := by
  rcases hresumable.2 with hkernel | hready
  · exact .inl hkernel
  · exact .inr (by simp [hready])

theorem ContextRun.Resumable.used {ref : TaskRef} (hresumable : run.Resumable ref)
    (hscheduler : ∃ lastFrame, SchedulerInv run.state lastFrame) :
    (run.state.tasks ref).state ≠ .unused := by
  obtain ⟨lastFrame, hinv⟩ := hscheduler
  rcases hresumable.2 with rfl | hready
  · rcases hinv.kernel_live with hlive | hlive <;> simp [hlive]
  · simp [hready]

/-- A context survives when its task, its stack and the inside of its stack are left alone. -/
theorem SavedContext.congr {ref : TaskRef} (hsaved : SavedContext image run ref)
    {next : ContextRun} (htask : next.state.tasks ref = run.state.tasks ref)
    (hinterrupted : next.interrupted ref = run.interrupted ref)
    (hwords : ∀ address, stackLow image run.state ref + 0x10 ≤ address →
      address < stackHigh image run.state ref →
      next.state.words address = run.state.words address) :
    SavedContext image next ref := by
  have hlow : stackLow image next.state ref = stackLow image run.state ref :=
    stackLow_congr (by rw [htask])
  have hhigh : stackHigh image next.state ref = stackHigh image run.state ref :=
    stackHigh_congr (by rw [htask]) (by rw [htask])
  have hlowLe := hsaved.low_le
  have hleHigh := hsaved.le_high
  exact {
    low_le := by
      rw [hlow, htask]
      exact hlowLe
    le_high := by
      rw [hhigh, htask]
      exact hleHigh
    recorded := by
      rw [htask, hinterrupted, ← hsaved.recorded]
      simp only [TrapFrame.spOffset, TrapFrame.size] at *
      exact hwords _ (by omega) (by omega)
    initial := by
      rw [hinterrupted, hhigh, htask]
      exact hsaved.initial }

/-- Only the current task, the heap and memory outside the other stacks have changed. -/
theorem ContextInv.stay (hinv : ContextInv image run) {next : ContextRun}
    (hscheduler : ∃ lastFrame, SchedulerInv next.state lastFrame)
    (hheap : HeapOk image.toPlatform next.state.memory)
    (hgrown : run.state.memory.heapCurrent ≤ next.state.memory.heapCurrent)
    (hcurrent : next.state.currentTask = run.state.currentTask)
    (htasks : ∀ ref, ref ≠ run.state.currentTask → (next.state.tasks ref).state ≠ .unused →
      next.state.tasks ref = run.state.tasks ref)
    (hstack : (next.state.tasks run.state.currentTask).stackBase
        = (run.state.tasks run.state.currentTask).stackBase
      ∧ (next.state.tasks run.state.currentTask).stackSize
        = (run.state.tasks run.state.currentTask).stackSize)
    (hinterrupted : ∀ ref, ref ≠ run.state.currentTask → next.interrupted ref = run.interrupted ref)
    (hwords : ∀ ref, run.Resumable ref → ∀ address,
      stackLow image run.state ref + 0x10 ≤ address → address < stackHigh image run.state ref →
      next.state.words address = run.state.words address) :
    ContextInv image next where
  scheduler := hscheduler
  heap := hheap
  layout := by
    refine hinv.layout.congr (fun ref hused => ?_) hgrown
    by_cases hne : ref = run.state.currentTask
    · rw [hne]
      exact ⟨hinv.hasStack_current, hstack⟩
    · have htask := htasks ref hne hused
      rw [htask] at hused ⊢
      exact ⟨.inr hused, rfl, rfl⟩
  kernel_interrupted := fun hkernel => by
    rw [hcurrent] at hkernel
    rw [hinterrupted _ (Ne.symm hkernel)]
    exact hinv.kernel_interrupted hkernel
  saved := fun ref hresumable => by
    have hne : ref ≠ run.state.currentTask := hcurrent ▸ hresumable.1
    have htask := htasks ref hne (hresumable.used hscheduler)
    have hbefore : run.Resumable ref := ⟨hne, by rw [← htask]; exact hresumable.2⟩
    exact (hinv.saved ref hbefore).congr htask (hinterrupted ref hne) (hwords ref hbefore)

/-- Writing to one's own stack, or to the 16 bytes behind it, misses the other stacks. -/
theorem ContextInv.misses (hinv : ContextInv image run) {ref : TaskRef}
    (hresumable : run.Resumable ref) {start stop address : Nat}
    (hstart : stackLow image run.state run.state.currentTask ≤ start)
    (hstop : stop ≤ stackHigh image run.state run.state.currentTask + 0x10)
    (hlow : stackLow image run.state ref + 0x10 ≤ address)
    (hhigh : address < stackHigh image run.state ref) : ¬ (start ≤ address ∧ address < stop) := by
  rcases hinv.layout.stacks_apart hresumable.1 hresumable.hasStack hinv.hasStack_current with
    hapart | hapart <;> omega

/-! ### The events -/

theorem SchedulerInv.setWords {state : KernelState} {lastFrame : TaskRef → Nat}
    (hinv : SchedulerInv state lastFrame) (words : Nat → Nat) (ticks : Nat) :
    SchedulerInv { state with words := words, timerIrqTicks := ticks } lastFrame :=
  { hinv with }

theorem ContextInv.setWords (hinv : ContextInv image run) (words : Nat → Nat) (ticks : Nat)
    (hwords : ∀ ref, run.Resumable ref → ∀ address,
      stackLow image run.state ref + 0x10 ≤ address → address < stackHigh image run.state ref →
      words address = run.state.words address) :
    ContextInv image
      { run with state := { run.state with words := words, timerIrqTicks := ticks } } := by
  obtain ⟨lastFrame, hscheduler⟩ := hinv.scheduler
  exact hinv.stay ⟨lastFrame, hscheduler.setWords words ticks⟩ hinv.heap le_rfl rfl
    (fun _ _ _ => rfl) ⟨rfl, rfl⟩ (fun _ _ => rfl) hwords

theorem ContextInv.store (hinv : ContextInv image run) {address value : Nat}
    (hallowed : run.Allowed image (.store address value)) :
    ContextInv image (run.step image (.store address value)) := by
  refine hinv.setWords _ run.state.timerIrqTicks fun ref hresumable target hlow hhigh => ?_
  refine Function.update_of_ne ?_ _ _
  rintro rfl
  exact hallowed ref hresumable ⟨hlow, hhigh⟩

/-- The task that is switched to was resumable, and the one that is left has its context saved. -/
theorem ContextInv.switch (hinv : ContextInv image run) {frame : Nat} {after : KernelState}
    (hlow : stackLow image run.state run.state.currentTask ≤ frame)
    (hhigh : frame + TrapFrame.size ≤ stackHigh image run.state run.state.currentTask)
    (hrecorded : run.state.words (frame + TrapFrame.spOffset) = frame + exceptionFrameSpan)
    (hswitches : SwitchesAt run.state frame after) :
    ContextInv image ⟨after, Function.update run.interrupted run.state.currentTask true⟩ := by
  obtain ⟨lastFrame, hscheduler⟩ := hinv.scheduler
  obtain ⟨left, next, resumed, hleft, hkernel, hswitch⟩ := hswitches
  have hafter := hswitch.after_eq
  have hstacks : ∀ ref, (after.tasks ref).stackBase = (run.state.tasks ref).stackBase
      ∧ (after.tasks ref).stackSize = (run.state.tasks ref).stackSize
      ∧ ((after.tasks ref).state ≠ .unused → HasStack run.state ref) := by
    intro ref
    by_cases hnext : ref = next
    · rw [hnext, hswitch.tasks_next]
      refine ⟨rfl, rfl, fun _ => ?_⟩
      rcases hswitch.next_live with hready | hkernel
      · exact .inr (by simp [hready])
      · exact .inl hkernel
    · by_cases hcurrent : ref = run.state.currentTask
      · rw [hcurrent, hswitch.tasks_current]
        exact ⟨rfl, rfl, fun _ => hinv.hasStack_current⟩
      · rw [hswitch.tasks_of_ne hnext hcurrent]
        exact ⟨rfl, rfl, fun h => .inr h⟩
  have hmemory : after.memory = run.state.memory := by rw [hafter]
  have hwords : after.words = run.state.words := by rw [hafter]
  exact {
    scheduler := ⟨_, (hscheduler.switch hswitch hleft hkernel).1⟩
    heap := by
      simp only [hmemory]
      exact hinv.heap
    layout := hinv.layout.congr (fun ref hused => ⟨(hstacks ref).2.2 hused, (hstacks ref).1,
      (hstacks ref).2.1⟩) (by rw [hmemory])
    kernel_interrupted := fun _ => by
      by_cases hcurrent : TaskRef.kernel = run.state.currentTask
      · simp [hcurrent]
      · simp only [Function.update_of_ne hcurrent]
        exact hinv.kernel_interrupted (Ne.symm hcurrent)
    saved := fun ref hresumable => by
      obtain ⟨hne, hready⟩ := hresumable
      rw [hswitch.current_eq] at hne
      by_cases hcurrent : ref = run.state.currentTask
      · subst hcurrent
        obtain ⟨hbase, hsize, -⟩ := hstacks run.state.currentTask
        have hlowEq : stackLow image after run.state.currentTask
            = stackLow image run.state run.state.currentTask := stackLow_congr hbase
        have hhighEq : stackHigh image after run.state.currentTask
            = stackHigh image run.state run.state.currentTask := stackHigh_congr hbase hsize
        constructor <;> simp only [hlowEq, hhighEq, hwords, hswitch.tasks_current,
          Function.update_self]
        · exact hlow
        · exact hhigh
        · exact hrecorded
        · exact fun habsurd => absurd habsurd (by simp)
      · have htask := hswitch.tasks_of_ne hne hcurrent
        have hbefore : run.Resumable ref := ⟨hcurrent, by rw [← htask]; exact hready⟩
        exact (hinv.saved ref hbefore).congr htask (Function.update_of_ne hcurrent _ _)
          fun address _ _ => by rw [hwords] }

/-- The handler keeps to the frame, which lies in the current stack. -/
theorem ContextInv.handle (hinv : ContextInv image run) {frame irqId : Nat}
    {result : Nat × KernelState}
    (hlow : stackLow image run.state run.state.currentTask ≤ frame)
    (hhigh : frame + exceptionFrameSpan ≤ stackHigh image run.state run.state.currentTask + 0x10)
    (hrecorded : run.state.words (frame + TrapFrame.spOffset) = frame + exceptionFrameSpan)
    (hresult : exceptionHandle image run.state irqId frame = some result) :
    ContextInv image ⟨result.2, Function.update run.interrupted run.state.currentTask true⟩ := by
  have hsize : exceptionFrameSpan = TrapFrame.size + 0x10 := rfl
  have hticks : ∀ ticks, ContextInv image
      { run with state := { run.state with timerIrqTicks := ticks } } :=
    fun ticks => hinv.setWords run.state.words ticks fun _ _ _ _ _ => rfl
  have hlowTicks : ∀ ticks, stackLow image { run.state with timerIrqTicks := ticks }
      run.state.currentTask = stackLow image run.state run.state.currentTask :=
    fun _ => stackLow_congr rfl
  have hhighTicks : ∀ ticks, stackHigh image { run.state with timerIrqTicks := ticks }
      run.state.currentTask = stackHigh image run.state run.state.currentTask :=
    fun _ => stackHigh_congr rfl rfl
  obtain ⟨lastFrame, hscheduler⟩ := hinv.scheduler
  obtain ⟨ticks, hstays | hswitches⟩ := exceptionHandle_effect hscheduler hresult
  · obtain ⟨sp, hcurrent⟩ := hstays.tasks_current
    refine (hticks ticks).stay
      ⟨lastFrame, hstays.scheduler (hscheduler.setWords run.state.words ticks)⟩ ?_ ?_
      hstays.current_eq (fun ref hne _ => hstays.tasks_of_ne ref hne) ?_ (fun ref hne => Function.update_of_ne hne _ _) ?_
    · rw [hstays.memory_eq]
      exact hinv.heap
    · exact hstays.memory_eq ▸ le_rfl
    · rw [hcurrent]
      exact ⟨rfl, rfl⟩
    · intro ref hresumable address haddress hlt
      refine hstays.words_outside address ((hticks ticks).misses hresumable ?_ ?_ haddress hlt)
      · rw [hlowTicks]
        exact hlow
      · rw [hhighTicks]
        omega
  · refine (hticks ticks).switch ?_ ?_ hrecorded hswitches
    · rw [hlowTicks]
      exact hlow
    · rw [hhighTicks]
      omega

theorem ContextInv.trap (hinv : ContextInv image run) {context : TrapContext} {irqId : Nat}
    (hallowed : run.Allowed image (.trap context irqId)) :
    ContextInv image (run.step image (.trap context irqId)) := by
  obtain ⟨-, hlow, hhigh⟩ := hallowed
  have hspan : exceptionFrameSpan ≤ context.sp := by omega
  have hframe : exceptionEntryFrame context + exceptionFrameSpan = context.sp :=
    Nat.sub_add_cancel hspan
  have hrecorded : exceptionEntry run.state.words context
      (exceptionEntryFrame context + TrapFrame.spOffset)
        = exceptionEntryFrame context + exceptionFrameSpan := by
    rw [exceptionEntry_sp, exceptionReturnSp]
  have houtside : ∀ ref, run.Resumable ref → ∀ address,
      stackLow image run.state ref + 0x10 ≤ address → address < stackHigh image run.state ref →
      exceptionEntry run.state.words context address = run.state.words address :=
    fun ref hresumable address haddress hlt =>
      exceptionEntry_outside hspan (hinv.misses hresumable (by omega) hhigh haddress hlt)
  rcases hresult : exceptionHandle image (run.entered context) irqId
      (exceptionEntryFrame context) with - | result
  · rw [ContextRun.step, hresult, Option.elim_none]
    exact hinv
  · rw [ContextRun.step, hresult, Option.elim_some]
    rw [ContextRun.entered] at hresult
    generalize exceptionEntry run.state.words context = words at *
    generalize exceptionEntryFrame context = frame at *
    have hentered := hinv.setWords words run.state.timerIrqTicks houtside
    have hlowEntered : stackLow image { run.state with words := words } run.state.currentTask
        = stackLow image run.state run.state.currentTask := stackLow_congr rfl
    have hhighEntered : stackHigh image { run.state with words := words } run.state.currentTask
        = stackHigh image run.state run.state.currentTask := stackHigh_congr rfl rfl
    refine hentered.handle ?_ ?_ hrecorded hresult
    · rw [hlowEntered]
      omega
    · rw [hhighEntered]
      omega

theorem ContextInv.kmalloc (hinside : BitmapInside image.toPlatform 0) (hinv : ContextInv image run)
    {size : Nat} (hsize : size < 2 ^ 32) :
    ContextInv image (run.step image (.call (.kmalloc size))) := by
  obtain ⟨lastFrame, hscheduler⟩ := hinv.scheduler
  obtain ⟨hheap, hgrown, -⟩ := hinv.heap.kmalloc hinside hsize
  exact hinv.stay ⟨lastFrame, { hscheduler with }⟩ hheap hgrown rfl (fun _ _ _ => rfl) ⟨rfl, rfl⟩
    (fun _ _ => rfl) fun _ _ _ _ _ => rfl

/-- The top of a stack is aligned, so the initial frame ends there. -/
theorem createdTask_sp {block : Nat} (hdvd : 16 ∣ block) (name : String) (entry arg : Nat) :
    (createdTask block name entry arg).sp + TrapFrame.size = block + taskStackSize := by
  simp only [createdTask, alignDown16, TrapFrame.size, taskStackSize]
  omega

/-- The new stack lies behind all the others, so the initial frame misses them. -/
theorem ContextInv.addTask (hinv : ContextInv image run) {index : Fin taskMax}
    (hunused : (run.state.tasks (.slot index)).state = .unused) {task : Task} {frame : TrapFrame}
    {memory : MemoryState} (hheap : HeapOk image.toPlatform memory)
    (hbase : heapBase image.toPlatform ≤ task.stackBase)
    (hold : run.state.memory.heapCurrent ≤ task.stackBase)
    (hnew : task.stackBase + taskStackSize ≤ memory.heapCurrent) (hready : task.state = .ready)
    (hsize : task.stackSize = taskStackSize)
    (hsp : task.sp + TrapFrame.size = task.stackBase + taskStackSize)
    (hframe : frame.sp = task.sp + TrapFrame.size) :
    ContextInv image
      ⟨{ run.state with
          memory := memory
          tasks := Function.update run.state.tasks (.slot index) task
          words := TrapFrame.store run.state.words task.sp frame },
        Function.update run.interrupted (.slot index) false⟩ := by
  obtain ⟨lastFrame, hscheduler⟩ := hinv.scheduler
  have hroom : task.stackBase ≤ task.sp := by
    simp only [TrapFrame.size, taskStackSize] at hsp
    omega
  refine ⟨⟨_, (hscheduler.setSlot hunused (.inr hready)).1⟩, hheap,
    hinv.layout.add hold hnew hbase hsize, fun hkernel => ?_, fun ref hresumable => ?_⟩
  · change Function.update run.interrupted (.slot index) false .kernel = true
    rw [Function.update_of_ne (by simp)]
    exact hinv.kernel_interrupted hkernel
  · by_cases hindex : ref = .slot index
    · subst hindex
      have hhigh : task.stackBase + task.stackSize = task.sp + TrapFrame.size := by
        rw [hsize, hsp]
      refine ⟨?_, ?_, ?_, fun _ => ?_⟩
      · simp only [stackLow, Function.update_self]
        exact hroom
      · simp only [stackHigh, Function.update_self]
        exact hhigh.ge
      · change TrapFrame.store run.state.words task.sp frame
            ((Function.update run.state.tasks (.slot index) task (.slot index)).sp
              + TrapFrame.spOffset)
          = (Function.update run.state.tasks (.slot index) task (.slot index)).sp
            + if Function.update run.interrupted (.slot index) false (.slot index) then _ else _
        rw [Function.update_self, Function.update_self, TrapFrame.store_sp, hframe,
          if_neg Bool.false_ne_true]
      · simp only [stackHigh, Function.update_self]
        exact hhigh.symm
    · have htask : Function.update run.state.tasks (.slot index) task ref = run.state.tasks ref :=
        Function.update_of_ne hindex _ _
      have hbefore : run.Resumable ref := ⟨hresumable.1, by rw [← htask]; exact hresumable.2⟩
      have hhigh := hinv.layout.high_le_current hbase hold hbefore.hasStack
      refine (hinv.saved ref hbefore).congr htask (Function.update_of_ne hindex _ _) ?_
      intro address _ hlt
      exact TrapFrame.store_outside (by omega)

theorem ContextInv.create (hinside : BitmapInside image.toPlatform 0) (hinv : ContextInv image run)
    (name : String) (entry arg daif : Nat) :
    ContextInv image (run.step image (.call (.create name entry arg daif))) := by
  obtain ⟨lastFrame, hscheduler⟩ := hinv.scheduler
  rcases taskCreate_cases image hscheduler.initialized name entry arg daif with
    heq | ⟨index, hunused, ⟨-, heq⟩ | ⟨hblock, heq⟩⟩
  · simp only [ContextRun.step, kernelStep, heq]
    exact hinv
  · have hslot := hscheduler.slot_ne_current hunused
    obtain ⟨hheap, hgrown, -⟩ := hinv.heap.kmalloc hinside (by decide : taskStackSize < 2 ^ 32)
    simp only [ContextRun.step, kernelStep, heq]
    refine hinv.stay ⟨_, hscheduler.setSlot_unused hunused (by simpa using hunused)⟩ hheap hgrown
      rfl ?_ ?_ (fun _ _ => rfl) fun _ _ _ _ _ => rfl
    · intro ref _ hused
      refine Function.update_of_ne ?_ _ _
      rintro rfl
      simp [hunused] at hused
    · simp [hslot.symm]
  · obtain ⟨hheap, -, hfresh⟩ := hinv.heap.kmalloc hinside (by decide : taskStackSize < 2 ^ 32)
    obtain ⟨hbase, hdvd, hold, hnew⟩ := hfresh hblock
    simp only [ContextRun.step, kernelStep, heq]
    exact hinv.addTask hunused hheap hbase hold hnew rfl rfl (createdTask_sp hdvd name entry arg)
      (createdTask_sp hdvd name entry arg).symm

theorem ContextInv.complete (hinv : ContextInv image run)
    (hpossible : KernelCall.complete.Possible run.state) :
    ContextInv image (run.step image (.call .complete)) := by
  obtain ⟨lastFrame, hscheduler⟩ := hinv.scheduler
  have hrun : SchedulerInv (SchedulerRun.mk run.state lastFrame).state
    (SchedulerRun.mk run.state lastFrame).lastFrame := hscheduler
  refine hinv.stay ⟨_, (hrun.step image hpossible).inv⟩ hinv.heap le_rfl rfl ?_ ?_
    (fun _ _ => rfl) fun _ _ _ _ _ => rfl
  · exact fun ref hne _ => Function.update_of_ne hne _ _
  · simp [ContextRun.step, kernelStep, taskMarkFinished, KernelState.setState, KernelState.setTask]

theorem ContextInv.step (hinside : BitmapInside image.toPlatform 0) (hinv : ContextInv image run)
    {event : ContextEvent} (hallowed : run.Allowed image event) :
    ContextInv image (run.step image event) := by
  obtain ⟨lastFrame, hscheduler⟩ := hinv.scheduler
  cases event with
  | store address value => exact hinv.store hallowed
  | trap context irqId => exact hinv.trap hallowed
  | call call =>
      cases call with
      | create name entry arg daif => exact hinv.create hinside name entry arg daif
      | kmalloc size => exact hinv.kmalloc hinside hallowed
      | schedule frame => exact hallowed.elim
      | syscall level frame => exact hallowed.elim
      | complete => exact hinv.complete hallowed
      | userEnter daif =>
          exact hinv.stay ⟨lastFrame, { hscheduler with }⟩ hinv.heap le_rfl rfl (fun _ _ _ => rfl)
            ⟨rfl, rfl⟩ (fun _ _ => rfl) fun _ _ _ _ _ => rfl
      | userReturn =>
          exact hinv.stay ⟨lastFrame, { hscheduler with }⟩ hinv.heap le_rfl rfl (fun _ _ _ => rfl)
            ⟨rfl, rfl⟩ (fun _ _ => rfl) fun _ _ _ _ _ => rfl

theorem contextInv_boot (hinside : BitmapInside image.toPlatform 0) (words : Nat → Nat) :
    ContextInv image (.boot image words) where
  scheduler := ⟨_, schedulerInv_boot image words⟩
  heap := heapOk_boot hinside
  layout := by
    have hunused : ∀ index, ((ContextRun.boot image words).state.tasks (.slot index)).state
        = .unused := fun _ => rfl
    exact {
      size_eq := fun index h => absurd (hunused index) h
      base_ge := fun index h => absurd (hunused index) h
      base_le := fun index h => absurd (hunused index) h
      apart := fun i _ _ h _ => absurd (hunused i) h }
  kernel_interrupted := fun h => absurd rfl h
  saved := fun ref hresumable => by
    cases ref with
    | kernel => exact absurd rfl hresumable.1
    | slot index => rcases hresumable.2 with h | h <;> cases h

theorem ContextRun.Reachable.inv (hinside : BitmapInside image.toPlatform 0) {words : Nat → Nat}
    (hrun : ContextRun.Reachable image words run) : ContextInv image run := by
  induction hrun with
  | boot => exact contextInv_boot hinside words
  | step _ hevent ih => exact ih.step hinside hevent

end Invariant

/-- In every reachable state, a resumable task that is not current has a consistent context exactly
when an exception has interrupted it, as it has the kernel task; one that has only been created would
start with its stack pointer 16 bytes above its stack. -/
theorem context_consistent_iff_interrupted (image : KernelImage)
    (hinside : BitmapInside image.toPlatform 0) (words : Nat → Nat) (run : ContextRun)
    (hrun : ContextRun.Reachable image words run) (ref : TaskRef) (href : run.Resumable ref) :
    (run.Consistent ref ↔ run.interrupted ref = true)
      ∧ (ref = .kernel → run.interrupted ref = true)
      ∧ (run.interrupted ref = false → exceptionReturnSp (run.state.tasks ref).sp
        = (run.state.tasks ref).stackBase + (run.state.tasks ref).stackSize + 0x10) := by
  have hinv := hrun.inv hinside
  have hsaved := hinv.saved ref href
  have hkernel : ref = .kernel → run.interrupted ref = true := by
    rintro rfl
    exact hinv.kernel_interrupted href.1.symm
  have hspan : exceptionFrameSpan = TrapFrame.size + 0x10 := rfl
  refine ⟨?_, hkernel, fun hfresh => ?_⟩
  · rw [ContextRun.Consistent, hsaved.recorded, exceptionReturnSp]
    cases run.interrupted ref with
    | true => simp
    | false =>
        rw [if_neg Bool.false_ne_true]
        exact ⟨fun h => absurd h (by omega), fun h => absurd h Bool.false_ne_true⟩
  · have hhigh := hsaved.initial hfresh
    cases ref with
    | kernel =>
        rw [hkernel rfl] at hfresh
        cases hfresh
    | slot index =>
        rw [stackHigh] at hhigh
        rw [exceptionReturnSp, hspan, ← Nat.add_assoc, hhigh]

theorem smallImage_bitmapInside : BitmapInside smallImage.toPlatform 0 := ⟨by decide, by decide⟩

/-- A task has been created. -/
def createdRun : ContextRun :=
  (ContextRun.boot smallImage fun _ => 0).step smallImage (.call (.create "a" 0 0 0))

/-- A timer tick while the kernel task runs. -/
def kernelTick : TrapContext := ⟨fun _ => 0, 0x40004000, 0, 0x5, 0, 0, 0, 5⟩

theorem createdRun_reachable : ContextRun.Reachable smallImage (fun _ => 0) createdRun :=
  .step .boot trivial

theorem context_consistent_kernel :
    (createdRun.step smallImage (.trap kernelTick 30)).Consistent .kernel := by
  have hrun : ContextRun.Reachable smallImage (fun _ => 0)
      (createdRun.step smallImage (.trap kernelTick 30)) :=
    .step createdRun_reachable ⟨by decide, by decide, by decide⟩
  exact (context_consistent_iff_interrupted smallImage smallImage_bitmapInside _ _ hrun .kernel
    ⟨by decide +kernel, .inl rfl⟩).1.mpr (by decide +kernel)

/-- A new task would resume with another stack pointer than its frame records, outside its stack. -/
theorem new_task_context_inconsistent :
    ContextRun.Reachable smallImage (fun _ => 0) createdRun ∧ createdRun.Resumable (.slot 0)
      ∧ ¬ createdRun.Consistent (.slot 0)
      ∧ exceptionReturnSp (createdRun.state.tasks (.slot 0)).sp
        = (createdRun.state.tasks (.slot 0)).stackBase
          + (createdRun.state.tasks (.slot 0)).stackSize + 0x10 := by
  refine ⟨createdRun_reachable, ⟨by decide +kernel, .inr (by decide +kernel)⟩, ?_, by decide +kernel⟩
  unfold ContextRun.Consistent
  decide +kernel

end DuckOs

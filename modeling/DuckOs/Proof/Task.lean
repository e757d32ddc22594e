import DuckOs.Kernel.KernelRun

/-!
# The scheduler

One lemma says what each entry point of the scheduler can do; the invariant follows from these. In
every state at most the current task is running, the kernel task is never finished, and a ready task
that is not current is saved at the frame where it was last interrupted.
-/

namespace DuckOs

section Entry

variable {image : KernelImage} {state : KernelState} {frame : Nat}

theorem taskInit_of_initialized (hinit : state.taskInitialized) : taskInit state = state := by
  rw [taskInit, if_pos hinit]

theorem taskPickNext_cases (state : KernelState) :
    (∃ candidate, taskPickNext state = some (.slot candidate)
        ∧ (state.tasks (.slot candidate)).state = .ready)
      ∨ (taskPickNext state = some .kernel ∧ state.currentTask ≠ .kernel)
      ∨ (taskPickNext state = none ∧ state.currentTask = .kernel) := by
  unfold taskPickNext
  split
  case h_1 candidate hfind =>
      exact .inl ⟨candidate, rfl, by simpa using List.find?_some hfind⟩
  case h_2 hfind =>
      by_cases hkernel : state.currentTask = .kernel
      · exact .inr (.inr ⟨by rw [if_neg (not_not.mpr hkernel)], hkernel⟩)
      · exact .inr (.inl ⟨by rw [if_pos hkernel], hkernel⟩)

/-- The current task is left in state `left`, interrupted at `frame`, for another one, whose saved
frame is `resumed`. -/
structure SwitchedTo (before : KernelState) (frame : Nat) (left : TaskState) (next : TaskRef)
    (resumed : Nat) (after : KernelState) : Prop where
  next_ne : next ≠ before.currentTask
  next_live : (before.tasks next).state = .ready ∨ next = .kernel
  resumed_eq : resumed = (before.tasks next).sp
  after_eq : after = { before with
    currentTask := next
    tasks := Function.update
      (Function.update before.tasks before.currentTask
        { before.tasks before.currentTask with sp := frame, state := left })
      next { before.tasks next with state := .running } }

theorem SwitchedTo.tasks_of_ne {before after : KernelState} {left : TaskState} {next ref : TaskRef}
    {resumed : Nat} (hswitch : SwitchedTo before frame left next resumed after) (hnext : ref ≠ next)
    (hcurrent : ref ≠ before.currentTask) : after.tasks ref = before.tasks ref := by
  rw [hswitch.after_eq]
  simp [hnext, hcurrent]

theorem SwitchedTo.tasks_current {before after : KernelState} {left : TaskState} {next : TaskRef}
    {resumed : Nat} (hswitch : SwitchedTo before frame left next resumed after) :
    after.tasks before.currentTask
      = { before.tasks before.currentTask with sp := frame, state := left } := by
  rw [hswitch.after_eq]
  simp [hswitch.next_ne.symm]

theorem SwitchedTo.tasks_next {before after : KernelState} {left : TaskState} {next : TaskRef}
    {resumed : Nat} (hswitch : SwitchedTo before frame left next resumed after) :
    after.tasks next = { before.tasks next with state := .running } := by
  rw [hswitch.after_eq]
  simp

theorem SwitchedTo.current_eq {before after : KernelState} {left : TaskState} {next : TaskRef}
    {resumed : Nat} (hswitch : SwitchedTo before frame left next resumed after) :
    after.currentTask = next := by
  rw [hswitch.after_eq]

/-- A picked task that is not the current one was ready before, or is the kernel task. -/
theorem taskPickNext_setTask {next : TaskRef} {task : Task} (hready : task.state ≠ .ready)
    (hnext : taskPickNext (state.setTask state.currentTask task) = some next) :
    next ≠ state.currentTask
      ∧ ((state.tasks next).state = .ready ∨ next = .kernel) := by
  rcases taskPickNext_cases (state.setTask state.currentTask task) with
    ⟨candidate, hpick, hcandidate⟩ | ⟨hpick, hkernel⟩ | ⟨hpick, -⟩
  · rw [hpick] at hnext
    cases hnext
    have hne : TaskRef.slot candidate ≠ state.currentTask := by
      intro heq
      rw [heq] at hcandidate
      simp [KernelState.setTask] at hcandidate
      exact hready hcandidate
    refine ⟨hne, .inl ?_⟩
    simpa [KernelState.setTask, hne] using hcandidate
  · rw [hpick] at hnext
    cases hnext
    exact ⟨fun heq => hkernel heq.symm, .inr rfl⟩
  · rw [hpick] at hnext
    cases hnext

/-- `task_schedule_from_exception` goes on with the kernel task or switches. -/
theorem taskSchedule_cases (hinit : state.taskInitialized)
    (hcurrent : (state.tasks state.currentTask).state ≠ .ready) (frame : Nat) :
    (state.currentTask = .kernel
        ∧ taskPickNext (state.setSp state.currentTask frame) = none
        ∧ taskScheduleFromException state frame true
          = (frame, state.setSp state.currentTask frame))
      ∨ ∃ next, taskPickNext (state.setSp state.currentTask frame) = some next
        ∧ SwitchedTo state frame
          (if (state.tasks state.currentTask).state = .running then .ready
            else (state.tasks state.currentTask).state)
          next (taskScheduleFromException state frame true).1
          (taskScheduleFromException state frame true).2 := by
  have hpicked := @taskPickNext_setTask state
  rcases hpick : taskPickNext (state.setSp state.currentTask frame) with - | next
  · rcases taskPickNext_cases (state.setSp state.currentTask frame) with
      ⟨candidate, hsome, -⟩ | ⟨hsome, -⟩ | ⟨-, hkernel⟩
    · rw [hpick] at hsome
      cases hsome
    · rw [hpick] at hsome
      cases hsome
    · refine .inl ⟨hkernel, rfl, ?_⟩
      simp only [taskScheduleFromException, taskInit_of_initialized hinit, hpick]
  · obtain ⟨hne, hlive⟩ := hpicked (by simpa using hcurrent) hpick
    refine .inr ⟨next, rfl, hne, hlive, ?_, ?_⟩
    · simp only [taskScheduleFromException, taskInit_of_initialized hinit, hpick, if_neg hne]
      split <;> simp [KernelState.setSp, KernelState.setState, KernelState.setTask, hne]
    · simp only [taskScheduleFromException, taskInit_of_initialized hinit, hpick, if_neg hne]
      by_cases hrunning : (state.tasks state.currentTask).state = .running
      · simp [KernelState.setSp, KernelState.setState, KernelState.setTask, KernelState.setCurrent,
          hne, hrunning]
      · simp [KernelState.setSp, KernelState.setState, KernelState.setTask, KernelState.setCurrent,
          hne, hrunning]

/-- `task_exit_from_exception` hands the status to the kernel task, and finishes any other. -/
theorem taskExit_cases (hinit : state.taskInitialized) (frame status : Nat) :
    (state.currentTask = .kernel
        ∧ taskExitFromException state frame status
          = (frame, (state.setSp state.currentTask frame).setWord frame status))
      ∨ (state.currentTask ≠ .kernel ∧ ∃ next,
        taskPickNext (taskMarkFinished (state.setSp state.currentTask frame) state.currentTask)
            = some next
          ∧ SwitchedTo state frame .finished next
          (taskExitFromException state frame status).1
          (taskExitFromException state frame status).2) := by
  by_cases hkernel : state.currentTask = .kernel
  · refine .inl ⟨hkernel, ?_⟩
    simp only [taskExitFromException, taskInit_of_initialized hinit, if_pos hkernel]
  · refine .inr ⟨hkernel, ?_⟩
    have hmark : taskMarkFinished (state.setSp state.currentTask frame) state.currentTask
        = state.setTask state.currentTask
          { state.tasks state.currentTask with sp := frame, state := .finished } := by
      simp [taskMarkFinished, KernelState.setState, KernelState.setSp, KernelState.setTask]
    simp only [taskExitFromException, taskInit_of_initialized hinit, if_neg hkernel, hmark]
    rcases hpick : taskPickNext (state.setTask state.currentTask
      { state.tasks state.currentTask with sp := frame, state := .finished }) with - | next
    · rcases taskPickNext_cases (state.setTask state.currentTask
        { state.tasks state.currentTask with sp := frame, state := .finished }) with
        ⟨candidate, hsome, -⟩ | ⟨hsome, -⟩ | ⟨-, habsurd⟩
      · rw [hpick] at hsome
        cases hsome
      · rw [hpick] at hsome
        cases hsome
      · exact absurd habsurd hkernel
    · obtain ⟨hne, hlive⟩ := taskPickNext_setTask (by simp) hpick
      refine ⟨next, rfl, hne, hlive, ?_, ?_⟩
      · simp [KernelState.setTask, hne]
      · simp [KernelState.setState, KernelState.setTask, KernelState.setCurrent, hne]

/-- What a new task holds in its table entry. -/
def createdTask (block : Nat) (name : String) (entry arg : Nat) : Task where
  name := name
  sp := alignDown16 (block + taskStackSize) - TrapFrame.size
  entry := entry
  arg := arg
  stackBase := block
  stackSize := taskStackSize
  state := .ready

/-- What its initial frame holds. -/
def createdFrame (image : KernelImage) (block daif : Nat) : TrapFrame :=
  { TrapFrame.zero with
    elrEl1 := image.taskTrampoline
    spsrEl1 := (daif &&& 0x3c0) ||| 0x5
    sp := block + taskStackSize }

theorem taskCreate_cases (image : KernelImage) (hinit : state.taskInitialized) (name : String)
    (entry arg daif : Nat) :
    taskCreate image state name entry arg daif = (none, state)
      ∨ ∃ index, (state.tasks (.slot index)).state = .unused
        ∧ (((kmalloc image.toPlatform state.memory taskStackSize).1 = 0
            ∧ taskCreate image state name entry arg daif = (none, { state with
              memory := (kmalloc image.toPlatform state.memory taskStackSize).2
              tasks := Function.update state.tasks (.slot index)
                { state.tasks (.slot index) with stackBase := 0 } }))
          ∨ ((kmalloc image.toPlatform state.memory taskStackSize).1 ≠ 0
            ∧ taskCreate image state name entry arg daif = (some index, { state with
              memory := (kmalloc image.toPlatform state.memory taskStackSize).2
              tasks := Function.update state.tasks (.slot index)
                (createdTask (kmalloc image.toPlatform state.memory taskStackSize).1 name entry arg)
              words := TrapFrame.store state.words
                (createdTask (kmalloc image.toPlatform state.memory taskStackSize).1
                  name entry arg).sp
                (createdFrame image (kmalloc image.toPlatform state.memory taskStackSize).1
                  daif) }))) := by
  rcases hslot : taskUnusedSlot state with - | index
  · exact .inl (by simp only [taskCreate, taskInit_of_initialized hinit, hslot])
  · refine .inr ⟨index, by simpa using List.find?_some hslot, ?_⟩
    simp only [taskCreate, taskInit_of_initialized hinit, hslot]
    by_cases hblock : (kmalloc image.toPlatform state.memory taskStackSize).1 = 0
    · refine .inl ⟨hblock, ?_⟩
      rw [if_pos hblock]
      rfl
    · refine .inr ⟨hblock, ?_⟩
      rw [if_neg hblock]
      simp [taskPrepareStack, taskInitialFrame, KernelState.setSp, KernelState.setTask, createdTask,
        createdFrame]

/-- Only the memory and the table change. The new values are bound here, so that nothing unfolds them. -/
theorem taskCreate_keeps (image : KernelImage) (hinit : state.taskInitialized) (name : String)
    (entry arg daif : Nat) :
    (taskCreate image state name entry arg daif).2.taskInitialized = state.taskInitialized
      ∧ (taskCreate image state name entry arg daif).2.currentTask = state.currentTask
      ∧ (taskCreate image state name entry arg daif).2.userActive = state.userActive := by
  have hset : ∀ memory tasks words (next : KernelState),
      next = { state with memory := memory, tasks := tasks, words := words } →
      next.taskInitialized = state.taskInitialized ∧ next.currentTask = state.currentTask
        ∧ next.userActive = state.userActive := by
    rintro _ _ _ _ rfl
    exact ⟨rfl, rfl, rfl⟩
  rcases taskCreate_cases image hinit name entry arg daif with
    heq | ⟨index, -, ⟨-, heq⟩ | ⟨-, heq⟩⟩
  · exact hset state.memory state.tasks state.words _ (congrArg Prod.snd heq)
  · exact hset _ _ state.words _ (congrArg Prod.snd heq)
  · exact hset _ _ _ _ (congrArg Prod.snd heq)

/-- A system call that is not `SYS_EXIT` only writes to its frame and to the console. -/
theorem syscallHandle_cases (image : KernelImage) (state : KernelState) (frame : Nat) :
    (∃ value console, syscallHandle image state frame
        = (frame, { state.setWord frame value with console := console })
        ∧ frameX state frame 8 ≠ sysExit)
      ∨ (frameX state frame 8 = sysExit ∧ state.userActive = true
        ∧ syscallHandle image state frame
          = (frame, ((({ state with userActive := false }).setWord frame
              (frameX state frame 0)).setWord
              (frame + TrapFrame.elrOffset) image.archUserResumeEl1).setWord
              (frame + TrapFrame.spsrOffset) state.userResumeSpsr))
      ∨ (frameX state frame 8 = sysExit ∧ state.userActive = false
        ∧ syscallHandle image state frame
          = taskExitFromException state frame (frameX state frame 0)) := by
  unfold syscallHandle
  split
  case isTrue hnumber =>
      have hne : frameX state frame 8 ≠ sysExit := by
        rw [hnumber]
        decide
      split
      · exact .inl ⟨syscallError, state.console, rfl, hne⟩
      · exact .inl ⟨_, _, rfl, hne⟩
  case isFalse =>
      split
      case isTrue hnumber =>
          have hne : frameX state frame 8 ≠ sysExit := by
            rw [hnumber]
            decide
          exact .inl ⟨state.timerIrqTicks, state.console, rfl, hne⟩
      case isFalse =>
          split
          case isTrue hexit =>
              cases hactive : state.userActive with
              | true =>
                  refine .inr (.inl ⟨hexit, rfl, ?_⟩)
                  simp [userExceptionActive, userExitFromException, hactive]
              | false =>
                  refine .inr (.inr ⟨hexit, rfl, ?_⟩)
                  simp [userExceptionActive, hactive]
          case isFalse hexit => exact .inl ⟨syscallError, state.console, rfl, hexit⟩

end Entry

/-! ### The invariant -/

/-- In every state of a run. -/
structure SchedulerInv (state : KernelState) (lastFrame : TaskRef → Nat) : Prop where
  initialized : state.taskInitialized
  kernel_live : (state.tasks .kernel).state = .ready ∨ (state.tasks .kernel).state = .running
  running_current : ∀ ref, (state.tasks ref).state = .running → ref = state.currentTask
  current_live : (state.tasks state.currentTask).state = .running
    ∨ (state.tasks state.currentTask).state = .finished
  saved : ∀ ref, ref ≠ state.currentTask → (state.tasks ref).state = .ready →
    (state.tasks ref).sp = lastFrame ref

/-- At a return from an exception to `frame`. -/
structure SchedulerReturned (state : KernelState) (lastFrame : TaskRef → Nat) (frame : Nat) :
    Prop where
  running_iff : ∀ ref, (state.tasks ref).state = .running ↔ ref = state.currentTask
  frame_eq : frame = lastFrame state.currentTask

/-- No finished task comes back. -/
def FinishedStay (before after : KernelState) : Prop :=
  ∀ ref, (before.tasks ref).state = .finished → (after.tasks ref).state = .finished

section Invariant

variable {image : KernelImage} {state after : KernelState} {lastFrame : TaskRef → Nat}
  {frame resumed : Nat}

theorem SchedulerInv.current_ne_ready (hinv : SchedulerInv state lastFrame) :
    (state.tasks state.currentTask).state ≠ .ready := by
  rcases hinv.current_live with hcurrent | hcurrent <;> simp [hcurrent]

/-- `task_schedule_from_exception` leaves the current task ready, or finished if it was. -/
theorem SchedulerInv.left_of_schedule (hinv : SchedulerInv state lastFrame) :
    (if (state.tasks state.currentTask).state = .running then TaskState.ready
        else (state.tasks state.currentTask).state) = .ready
      ∨ (if (state.tasks state.currentTask).state = .running then TaskState.ready
        else (state.tasks state.currentTask).state) = .finished := by
  rcases hinv.current_live with hcurrent | hcurrent <;> simp [hcurrent]

theorem SchedulerInv.left_of_schedule_kernel (hinv : SchedulerInv state lastFrame)
    (hkernel : state.currentTask = .kernel) :
    (if (state.tasks state.currentTask).state = .running then TaskState.ready
      else (state.tasks state.currentTask).state) = .ready := by
  rcases hinv.current_live with hcurrent | hcurrent
  · simp [hcurrent]
  · rw [hkernel] at hcurrent
    rcases hinv.kernel_live with hlive | hlive <;> simp [hlive] at hcurrent

theorem SchedulerInv.congr (hinv : SchedulerInv state lastFrame)
    (hinit : after.taskInitialized = state.taskInitialized)
    (hcurrent : after.currentTask = state.currentTask)
    (hstate : ∀ ref, (after.tasks ref).state = (state.tasks ref).state)
    (hsp : ∀ ref, ref ≠ state.currentTask → (state.tasks ref).state = .ready →
      (after.tasks ref).sp = (state.tasks ref).sp)
    {other : TaskRef → Nat} (hother : ∀ ref, ref ≠ state.currentTask → other ref = lastFrame ref) :
    SchedulerInv after other where
  initialized := hinit ▸ hinv.initialized
  kernel_live := by
    rw [hstate]
    exact hinv.kernel_live
  running_current := fun ref hrunning => by
    rw [hstate] at hrunning
    rw [hcurrent]
    exact hinv.running_current ref hrunning
  current_live := by
    rw [hcurrent, hstate]
    exact hinv.current_live
  saved := fun ref hne hready => by
    rw [hcurrent] at hne
    rw [hstate] at hready
    rw [hsp ref hne hready, hother ref hne, hinv.saved ref hne hready]

theorem SchedulerInv.switch (hinv : SchedulerInv state lastFrame) {left : TaskState}
    {next : TaskRef} (hswitch : SwitchedTo state frame left next resumed after)
    (hleft : left = .ready ∨ left = .finished) (hkernel : state.currentTask = .kernel → left = .ready) :
    SchedulerInv after (Function.update lastFrame state.currentTask frame)
      ∧ SchedulerReturned after (Function.update lastFrame state.currentTask frame) resumed := by
  have hrunning : ∀ ref, (after.tasks ref).state = .running ↔ ref = next := by
    intro ref
    by_cases hnext : ref = next
    · rw [hnext, hswitch.tasks_next]
      simp
    · by_cases hcurrent : ref = state.currentTask
      · rw [hcurrent, hswitch.tasks_current]
        rcases hleft with hleft | hleft <;> simp [hleft, hswitch.next_ne.symm]
      · rw [hswitch.tasks_of_ne hnext hcurrent]
        exact ⟨fun h => absurd (hinv.running_current ref h) hcurrent, fun h => absurd h hnext⟩
  have hready : (state.tasks next).state = .ready := by
    rcases hswitch.next_live with hready | rfl
    · exact hready
    · exact hinv.kernel_live.resolve_right
        fun h => hswitch.next_ne (hinv.running_current _ h)
  refine ⟨?_, ?_, ?_⟩
  · exact {
      initialized := by
        rw [hswitch.after_eq]
        exact hinv.initialized
      kernel_live := by
        by_cases hnext : TaskRef.kernel = next
        · exact .inr ((hrunning _).mpr hnext)
        · by_cases hcurrent : TaskRef.kernel = state.currentTask
          · rw [hcurrent, hswitch.tasks_current]
            exact .inl (hkernel hcurrent.symm)
          · rw [hswitch.tasks_of_ne hnext hcurrent]
            exact hinv.kernel_live
      running_current := fun ref h => by
        rw [hswitch.current_eq]
        exact (hrunning ref).mp h
      current_live := by
        rw [hswitch.current_eq]
        exact .inl ((hrunning next).mpr rfl)
      saved := fun ref hne h => by
        rw [hswitch.current_eq] at hne
        by_cases hcurrent : ref = state.currentTask
        · rw [hcurrent, hswitch.tasks_current, Function.update_self]
        · rw [hswitch.tasks_of_ne hne hcurrent] at h ⊢
          rw [Function.update_of_ne hcurrent, hinv.saved ref hcurrent h] }
  · rw [hswitch.current_eq]
    exact hrunning
  · rw [hswitch.current_eq, Function.update_of_ne hswitch.next_ne, hswitch.resumed_eq]
    exact hinv.saved next hswitch.next_ne hready

theorem SchedulerInv.switch_finished (hinv : SchedulerInv state lastFrame) {left : TaskState}
    {next : TaskRef} (hswitch : SwitchedTo state frame left next resumed after)
    (hleft : (state.tasks state.currentTask).state = .finished → left = .finished) :
    FinishedStay state after := by
  intro ref hfinished
  have hnext : ref ≠ next := by
    rintro rfl
    rcases hswitch.next_live with hready | rfl
    · simp [hready] at hfinished
    · rcases hinv.kernel_live with hlive | hlive <;> simp [hlive] at hfinished
  by_cases hcurrent : ref = state.currentTask
  · rw [hcurrent] at hfinished ⊢
    rw [hswitch.tasks_current]
    exact hleft hfinished
  · rw [hswitch.tasks_of_ne hnext hcurrent]
    exact hfinished

/-- The current task is resumed where it was interrupted. -/
theorem SchedulerInv.stay (hinv : SchedulerInv state lastFrame)
    (hinit : after.taskInitialized = state.taskInitialized)
    (hcurrent : after.currentTask = state.currentTask)
    (hstate : ∀ ref, (after.tasks ref).state = (state.tasks ref).state)
    (hsp : ∀ ref, ref ≠ state.currentTask → (after.tasks ref).sp = (state.tasks ref).sp) :
    SchedulerInv after (Function.update lastFrame state.currentTask frame)
      ∧ ((state.tasks state.currentTask).state = .running →
        SchedulerReturned after (Function.update lastFrame state.currentTask frame) frame)
      ∧ FinishedStay state after := by
  refine ⟨hinv.congr hinit hcurrent hstate (fun ref hne _ => hsp ref hne) ?_,
    fun hrunning => ⟨?_, ?_⟩, ?_⟩
  · exact fun ref hne => Function.update_of_ne hne _ _
  · intro ref
    rw [hstate, hcurrent]
    exact ⟨hinv.running_current ref, fun h => h ▸ hrunning⟩
  · rw [hcurrent, Function.update_self]
  · intro ref hfinished
    rw [hstate]
    exact hfinished

theorem SchedulerInv.staySp (hinv : SchedulerInv state lastFrame) {words : Nat → Nat}
    (hafter : after = { state.setSp state.currentTask frame with words := words }) :
    SchedulerInv after (Function.update lastFrame state.currentTask frame)
      ∧ ((state.tasks state.currentTask).state = .running →
        SchedulerReturned after (Function.update lastFrame state.currentTask frame) frame)
      ∧ FinishedStay state after := by
  subst hafter
  refine hinv.stay rfl rfl ?_ ?_
  · intro ref
    by_cases hcurrent : ref = state.currentTask <;>
      simp [KernelState.setSp, KernelState.setTask, hcurrent]
  · intro ref hne
    simp [KernelState.setSp, KernelState.setTask, hne]

/-! ### The calls -/

theorem SchedulerInv.schedule (hinv : SchedulerInv state lastFrame) (frame : Nat) :
    SchedulerInv (taskScheduleFromException state frame true).2
        (Function.update lastFrame state.currentTask frame)
      ∧ SchedulerReturned (taskScheduleFromException state frame true).2
        (Function.update lastFrame state.currentTask frame)
        (taskScheduleFromException state frame true).1
      ∧ FinishedStay state (taskScheduleFromException state frame true).2 := by
  rcases taskSchedule_cases hinv.initialized hinv.current_ne_ready frame with
    ⟨hkernel, -, heq⟩ | ⟨next, -, hswitch⟩
  · have hrunning : (state.tasks state.currentTask).state = .running := by
      rcases hinv.current_live with hrunning | hfinished
      · exact hrunning
      · rw [hkernel] at hfinished
        rcases hinv.kernel_live with hlive | hlive <;> simp [hlive] at hfinished
    rw [heq]
    obtain ⟨hnext, hreturned, hfinished⟩ := hinv.staySp rfl
    exact ⟨hnext, hreturned hrunning, hfinished⟩
  · obtain ⟨hnext, hreturned⟩ :=
      hinv.switch hswitch hinv.left_of_schedule hinv.left_of_schedule_kernel
    exact ⟨hnext, hreturned, hinv.switch_finished hswitch fun hfinished => by simp [hfinished]⟩

theorem SchedulerInv.syscall (image : KernelImage) (hinv : SchedulerInv state lastFrame)
    (frame : Nat) :
    SchedulerInv (syscallHandle image state frame).2
        (Function.update lastFrame state.currentTask frame)
      ∧ ((state.tasks state.currentTask).state = .running →
        SchedulerReturned (syscallHandle image state frame).2
          (Function.update lastFrame state.currentTask frame) (syscallHandle image state frame).1)
      ∧ FinishedStay state (syscallHandle image state frame).2 := by
  rcases syscallHandle_cases image state frame with
    ⟨value, console, heq, -⟩ | ⟨-, -, heq⟩ | ⟨-, -, heq⟩
  · rw [heq]
    exact hinv.stay rfl rfl (fun _ => rfl) (fun _ _ => rfl)
  · rw [heq]
    exact hinv.stay rfl rfl (fun _ => rfl) (fun _ _ => rfl)
  · rw [heq]
    rcases taskExit_cases hinv.initialized frame (frameX state frame 0) with
      ⟨-, hexit⟩ | ⟨hkernel, next, -, hswitch⟩
    · rw [hexit]
      exact hinv.staySp rfl
    · obtain ⟨hnext, hreturned⟩ := hinv.switch hswitch (.inr rfl) fun h => absurd h hkernel
      exact ⟨hnext, fun _ => hreturned, hinv.switch_finished hswitch fun _ => rfl⟩

/-- An unused table entry is not current, and is neither running nor finished. -/
theorem SchedulerInv.slot_ne_current (hinv : SchedulerInv state lastFrame) {ref : TaskRef}
    (hunused : (state.tasks ref).state = .unused) : ref ≠ state.currentTask := by
  rintro rfl
  rcases hinv.current_live with hcurrent | hcurrent <;> simp [hcurrent] at hunused

theorem SchedulerInv.setSlot (hinv : SchedulerInv state lastFrame) {index : Fin taskMax}
    (hunused : (state.tasks (.slot index)).state = .unused) {task : Task}
    (htask : task.state = .unused ∨ task.state = .ready) {words : Nat → Nat} {memory : MemoryState} :
    SchedulerInv
        { state with
          words := words, memory := memory
          tasks := Function.update state.tasks (.slot index) task }
        (Function.update lastFrame (.slot index) task.sp)
      ∧ FinishedStay state
        { state with
          words := words, memory := memory
          tasks := Function.update state.tasks (.slot index) task } := by
  have hslot := hinv.slot_ne_current hunused
  refine ⟨?_, ?_⟩
  · exact {
      initialized := hinv.initialized
      kernel_live := by simpa using hinv.kernel_live
      running_current := fun ref h => by
        by_cases hindex : ref = .slot index
        · rw [hindex] at h
          rcases htask with htask | htask <;> simp [htask] at h
        · exact hinv.running_current ref (by simpa [hindex] using h)
      current_live := by simpa [hslot.symm] using hinv.current_live
      saved := fun ref hne h => by
        by_cases hindex : ref = .slot index
        · simp [hindex]
        · simp only [Function.update_of_ne hindex] at h ⊢
          exact hinv.saved ref hne h }
  · intro ref hfinished
    have hindex : ref ≠ .slot index := by
      rintro rfl
      simp [hunused] at hfinished
    simpa [hindex] using hfinished

theorem SchedulerInv.setSlot_unused (hinv : SchedulerInv state lastFrame) {index : Fin taskMax}
    (hunused : (state.tasks (.slot index)).state = .unused) {task : Task}
    (htask : task.state = .unused) {words : Nat → Nat} {memory : MemoryState} :
    SchedulerInv { state with
      words := words, memory := memory
      tasks := Function.update state.tasks (.slot index) task } lastFrame := by
  obtain ⟨hnext, -⟩ := hinv.setSlot hunused (.inl htask)
  refine { hnext with saved := fun ref hne h => ?_ }
  rw [hnext.saved ref hne h, Function.update_of_ne]
  rintro rfl
  simp [htask] at h

end Invariant

/-! ### Runs -/

section Run

variable {image : KernelImage} {run : SchedulerRun} {call : KernelCall}

/-- What a step keeps, and what it says when it is an exception. -/
structure SchedulerStep (image : KernelImage) (run : SchedulerRun) (call : KernelCall) : Prop where
  inv : SchedulerInv (run.step image call).2.state (run.step image call).2.lastFrame
  returned : ∀ frame, (run.step image call).1 = .resumed frame →
    SchedulerReturned (run.step image call).2.state (run.step image call).2.lastFrame frame
  finished : FinishedStay run.state (run.step image call).2.state

theorem SchedulerInv.create (hinv : SchedulerInv run.state run.lastFrame) (name : String)
    (entry arg daif : Nat) : SchedulerStep image run (.create name entry arg daif) := by
  rcases taskCreate_cases image hinv.initialized name entry arg daif with
    heq | ⟨index, hunused, ⟨-, heq⟩ | ⟨-, heq⟩⟩
  · constructor <;> simp only [SchedulerRun.step, kernelStep, heq]
    · exact hinv
    · rintro frame ⟨⟩
    · exact fun ref h => h
  · constructor <;> simp only [SchedulerRun.step, kernelStep, heq]
    · exact hinv.setSlot_unused hunused (by simpa using hunused)
    · rintro frame ⟨⟩
    · exact (hinv.setSlot hunused (.inl (by simpa using hunused))).2
  · have hframe : ∀ block, taskInitialFrame (createdTask block name entry arg)
        = (createdTask block name entry arg).sp := fun _ => rfl
    constructor <;> simp only [SchedulerRun.step, kernelStep, heq]
    · rw [Function.update_self, hframe]
      exact (hinv.setSlot hunused (.inr rfl)).1
    · rintro frame ⟨⟩
    · exact (hinv.setSlot hunused (.inr rfl)).2

theorem SchedulerInv.complete (hinv : SchedulerInv run.state run.lastFrame)
    (hpossible : KernelCall.complete.Possible run.state) : SchedulerStep image run .complete := by
  obtain ⟨hkernel, hrunning⟩ := hpossible
  have htasks : ∀ ref, ref ≠ run.state.currentTask →
      (taskMarkFinished run.state run.state.currentTask).tasks ref = run.state.tasks ref := by
    intro ref hne
    simp [taskMarkFinished, KernelState.setState, KernelState.setTask, hne]
  have hcurrent : ((taskMarkFinished run.state run.state.currentTask).tasks
      run.state.currentTask).state = .finished := by
    simp [taskMarkFinished, KernelState.setState, KernelState.setTask]
  constructor <;> simp only [SchedulerRun.step, kernelStep]
  · exact {
      initialized := hinv.initialized
      kernel_live := by
        rw [htasks _ (Ne.symm hkernel)]
        exact hinv.kernel_live
      running_current := fun ref h => by
        by_contra hne
        change ref ≠ run.state.currentTask at hne
        rw [htasks ref hne] at h
        exact hne (hinv.running_current ref h)
      current_live := .inr hcurrent
      saved := fun ref hne h => by
        change ref ≠ run.state.currentTask at hne
        rw [htasks ref hne] at h ⊢
        exact hinv.saved ref hne h }
  · rintro frame ⟨⟩
  · intro ref hfinished
    by_cases hne : ref = run.state.currentTask
    · rw [hne]
      exact hcurrent
    · rw [htasks ref hne]
      exact hfinished

/-- Calls that are no exceptions and leave the tasks alone. -/
theorem SchedulerInv.quiet (hinv : SchedulerInv run.state run.lastFrame)
    (hreply : (run.step image call).1 = .done)
    (hinit : (run.step image call).2.state.taskInitialized = run.state.taskInitialized)
    (hcurrent : (run.step image call).2.state.currentTask = run.state.currentTask)
    (htasks : (run.step image call).2.state.tasks = run.state.tasks)
    (hframes : (run.step image call).2.lastFrame = run.lastFrame) :
    SchedulerStep image run call where
  inv := hinv.congr hinit hcurrent (fun _ => by rw [htasks]) (fun _ _ _ => by rw [htasks])
    fun _ _ => by rw [hframes]
  returned := fun frame hresumed => by
    rw [hreply] at hresumed
    cases hresumed
  finished := fun ref h => by
    rw [htasks]
    exact h

theorem SchedulerInv.step (image : KernelImage) (hinv : SchedulerInv run.state run.lastFrame)
    (hcall : call.Possible run.state) : SchedulerStep image run call := by
  cases call with
  | create name entry arg daif => exact hinv.create name entry arg daif
  | schedule frame =>
      obtain ⟨hnext, hreturned, hfinished⟩ := hinv.schedule frame
      exact ⟨hnext, fun _ hreply => KernelReply.resumed.inj hreply ▸ hreturned, hfinished⟩
  | syscall level frame =>
      obtain ⟨hnext, hreturned, hfinished⟩ := hinv.syscall image frame
      exact ⟨hnext, fun _ hreply => KernelReply.resumed.inj hreply ▸ hreturned hcall, hfinished⟩
  | complete => exact hinv.complete hcall
  | kmalloc size => exact hinv.quiet rfl rfl rfl rfl rfl
  | userEnter daif => exact hinv.quiet rfl rfl rfl rfl rfl
  | userReturn => exact hinv.quiet rfl rfl rfl rfl rfl

theorem schedulerInv_boot (image : KernelImage) (words : Nat → Nat) :
    SchedulerInv (SchedulerRun.boot image words).state
      (SchedulerRun.boot image words).lastFrame where
  initialized := rfl
  kernel_live := .inr rfl
  running_current := fun ref h => by
    cases ref with
    | kernel => rfl
    | slot index => cases h
  current_live := .inl rfl
  saved := fun ref _ h => by
    cases ref with
    | kernel => cases h
    | slot index => cases h

/-- The invariant reads no memory. -/
theorem SchedulerInv.setWord {state : KernelState} {lastFrame : TaskRef → Nat}
    (hinv : SchedulerInv state lastFrame) (address value : Nat) :
    SchedulerInv (state.setWord address value) lastFrame where
  initialized := hinv.initialized
  kernel_live := hinv.kernel_live
  running_current := hinv.running_current
  current_live := hinv.current_live
  saved := hinv.saved

theorem SchedulerInv.reaches {later : SchedulerRun} (hinv : SchedulerInv run.state run.lastFrame)
    (hreaches : run.Reaches image later) :
    SchedulerInv later.state later.lastFrame ∧ FinishedStay run.state later.state := by
  induction hreaches with
  | refl => exact ⟨hinv, fun _ h => h⟩
  | step _ hcall ih =>
      obtain ⟨hlater, hstay⟩ := ih
      have hstep := hlater.step image hcall
      exact ⟨hstep.inv, fun ref h => hstep.finished ref (hstay ref h)⟩
  | store _ address value ih =>
      obtain ⟨hlater, hstay⟩ := ih
      exact ⟨hlater.setWord address value, hstay⟩

/-- In every run: the kernel task is never finished, and at every return from an exception exactly
the current task is running, no task that was finished earlier is current, and the frame returned to
is the one at which the current task was last interrupted, or its initial one. -/
theorem scheduler_run_invariant {words : Nat → Nat} {later : SchedulerRun}
    (hrun : (SchedulerRun.boot image words).Reaches image run) (hlater : run.Reaches image later) :
    (run.state.tasks .kernel).state ≠ .finished
      ∧ ∀ call frame, call.Possible later.state → (later.step image call).1 = .resumed frame →
        (∀ ref, ((later.step image call).2.state.tasks ref).state = .running
            ↔ ref = (later.step image call).2.state.currentTask)
          ∧ (∀ ref, (run.state.tasks ref).state = .finished →
            (later.step image call).2.state.currentTask ≠ ref)
          ∧ frame = (later.step image call).2.lastFrame
            (later.step image call).2.state.currentTask := by
  obtain ⟨hinv, -⟩ := (schedulerInv_boot image words).reaches hrun
  obtain ⟨hlaterInv, hstay⟩ := hinv.reaches hlater
  refine ⟨?_, fun call frame hcall hreply => ?_⟩
  · rcases hinv.kernel_live with hlive | hlive <;> simp [hlive]
  · have hstep := hlaterInv.step image hcall
    have hreturned := hstep.returned frame hreply
    refine ⟨hreturned.running_iff, fun ref hfinished hcurrent => ?_, hreturned.frame_eq⟩
    have hrunning := (hreturned.running_iff ref).mpr hcurrent.symm
    rw [hstep.finished ref (hstay ref hfinished)] at hrunning
    cases hrunning

end Run

/-- A board with 128 KiB of RAM and the kernel in its first five pages. -/
def smallImage : KernelImage where
  ramSize := 0x20000
  kernelStart := 0x40000000
  kernelEnd := 0x40005000
  ramSize_pos := by decide
  ramSize_dvd := by decide
  ramEnd_lt := by decide
  kernelStart_ge := platformGetRamBase_le_start
  kernelEnd_ge := by decide
  kernelEnd_le := by decide
  taskTrampoline := 0x40000100
  archUserResumeEl1 := 0x40000200
  kernelEnd_dvd := by decide
  bootStack_le := by decide

/-- A tick switches from the kernel task to a new task, at its initial frame. -/
theorem scheduler_run_first_switch :
    let later := ((SchedulerRun.boot smallImage fun _ => 0).step smallImage (.create "a" 0 0 0)).2
    (later.step smallImage (.schedule 0x40004000)).1 = .resumed 0x40009ed0
      ∧ (∀ ref, ((later.step smallImage (.schedule 0x40004000)).2.state.tasks ref).state = .running
          ↔ ref = .slot 0) := by
  have hlater : (SchedulerRun.boot smallImage fun _ => 0).Reaches smallImage
      ((SchedulerRun.boot smallImage fun _ => 0).step smallImage (.create "a" 0 0 0)).2 :=
    .step .refl trivial
  have hreply : ((((SchedulerRun.boot smallImage fun _ => 0).step smallImage
      (.create "a" 0 0 0)).2).step smallImage (.schedule 0x40004000)).1 = .resumed 0x40009ed0 := by
    decide +kernel
  exact ⟨hreply, ((scheduler_run_invariant .refl hlater).2 (.schedule 0x40004000) _ trivial hreply).1⟩

end DuckOs

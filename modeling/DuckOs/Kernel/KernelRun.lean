import DuckOs.Kernel.Syscall

/-!
# Runs of the kernel

What tasks and exceptions do to the scheduler, one call after another, with stores to memory between
them. `SchedulerRun` also keeps the frame at which each task was last interrupted, `UserRun` what the EL0
program is doing. In `ContextRun` exceptions start with `exception_entry_common`, and the code between
them runs on its own stack.
-/

namespace DuckOs

/-- The exception level a trap comes from. -/
inductive ExceptionLevel where
  | el0
  | el1
  deriving DecidableEq

/-- `schedule` is a timer tick or `svc #0`, `syscall` is `svc #1`; `complete` is what
`task_trampoline` does before it yields when the entry function has returned. -/
inductive KernelCall where
  | create (name : String) (entry arg daif : Nat)
  | kmalloc (size : Nat)
  | schedule (frame : Nat)
  | syscall (level : ExceptionLevel) (frame : Nat)
  | complete
  | userEnter (daif : Nat)
  | userReturn

/-- An exception answers with the frame it returns to. -/
inductive KernelReply where
  | done
  | created (task : Option (Fin taskMax))
  | resumed (frame : Nat)
  deriving DecidableEq

/-- `userEnter` and `userReturn` are the assignments of `user_run_loaded_pages` around
`arch_enter_user`. -/
def kernelStep (image : KernelImage) (state : KernelState) : KernelCall → KernelReply × KernelState
  | .create name entry arg daif =>
      let result := taskCreate image state name entry arg daif
      (.created result.1, result.2)
  | .kmalloc size =>
      (.done, { state with memory := (kmalloc image.toPlatform state.memory size).2 })
  | .schedule frame =>
      let result := taskScheduleFromException state frame true
      (.resumed result.1, result.2)
  | .syscall _ frame =>
      let result := syscallHandle image state frame
      (.resumed result.1, result.2)
  | .complete => (.done, taskMarkFinished state state.currentTask)
  | .userEnter daif =>
      (.done, { state with userResumeSpsr := (daif &&& 0x3c0) ||| 0x5, userActive := true })
  | .userReturn => (.done, { state with userActive := false })

/-- A task that has completed does nothing but yield, and the kernel task has no entry function to
return from. -/
def KernelCall.Possible (state : KernelState) : KernelCall → Prop
  | .syscall _ _ => (state.tasks state.currentTask).state = .running
  | .complete => state.currentTask ≠ .kernel
      ∧ (state.tasks state.currentTask).state = .running
  | _ => True

instance (state : KernelState) : (call : KernelCall) → Decidable (call.Possible state)
  | .syscall _ _ => inferInstanceAs (Decidable ((state.tasks state.currentTask).state = .running))
  | .complete => inferInstanceAs (Decidable (state.currentTask ≠ .kernel
      ∧ (state.tasks state.currentTask).state = .running))
  | .create _ _ _ _ => .isTrue trivial
  | .kmalloc _ => .isTrue trivial
  | .schedule _ => .isTrue trivial
  | .userEnter _ => .isTrue trivial
  | .userReturn => .isTrue trivial

/-- A call, or a store to memory between two calls. -/
inductive KernelEvent where
  | call (call : KernelCall)
  | store (address value : Nat)

/-- A condition on calls; every store meets it. -/
def KernelEvent.Meets (meets : KernelCall → Prop) : KernelEvent → Prop
  | .call made => meets made
  | .store _ _ => True

/-! ### Interrupted frames -/

structure SchedulerRun where
  state : KernelState
  /-- The frame at which the task was last interrupted, or its initial frame. -/
  lastFrame : TaskRef → Nat

namespace SchedulerRun

def boot (image : KernelImage) (words : Nat → Nat) : SchedulerRun := ⟨.boot image words, fun _ => 0⟩

def step (image : KernelImage) (run : SchedulerRun) (call : KernelCall) :
    KernelReply × SchedulerRun :=
  let result := kernelStep image run.state call
  let lastFrame := match call, result.1 with
    | .schedule frame, _ => Function.update run.lastFrame run.state.currentTask frame
    | .syscall _ frame, _ => Function.update run.lastFrame run.state.currentTask frame
    | .create _ _ _ _, .created (some index) =>
        Function.update run.lastFrame (.slot index) (taskInitialFrame (result.2.tasks (.slot index)))
    | _, _ => run.lastFrame
  (result.1, ⟨result.2, lastFrame⟩)

def store (run : SchedulerRun) (address value : Nat) : SchedulerRun :=
  { run with state := run.state.setWord address value }

/-- `later` is reached from `run` by calls that are possible when they are made, and by stores between
them. -/
inductive Reaches (image : KernelImage) (run : SchedulerRun) : SchedulerRun → Prop where
  | refl : Reaches image run run
  | step {later : SchedulerRun} {call : KernelCall} (hlater : Reaches image run later)
      (hcall : call.Possible later.state) : Reaches image run (later.step image call).2
  | store {later : SchedulerRun} (hlater : Reaches image run later) (address value : Nat) :
      Reaches image run (later.store address value)

end SchedulerRun

/-! ### The EL0 program -/

/-- Whether an EL0 program runs, and under which task; `returning` is between its exit and the end
of `user_run_loaded_pages`. -/
inductive UserPhase where
  | none
  | inEl0 (owner : TaskRef)
  | returning (owner : TaskRef)
  deriving DecidableEq

structure UserRun where
  state : KernelState
  phase : UserPhase

namespace UserRun

def boot (image : KernelImage) (words : Nat → Nat) : UserRun := ⟨.boot image words, .none⟩

/-- The calls are made by the current task: from EL0 when it runs the program, else from EL1. There
is one program at a time. -/
def Possible (run : UserRun) (call : KernelCall) : Prop :=
  call.Possible run.state ∧ match call with
    | .syscall .el0 _ => run.phase = .inEl0 run.state.currentTask
    | .syscall .el1 _ => run.phase ≠ .inEl0 run.state.currentTask
    | .complete => run.phase ≠ .inEl0 run.state.currentTask
    | .userEnter _ => run.phase = .none
    | .userReturn => run.phase = .returning run.state.currentTask
    | _ => True

/-- A program that exits leaves EL0 when the frame sends it to `arch_user_resume_el1`, and is gone
when its task has finished. -/
def phaseAfter (run : UserRun) (call : KernelCall) (state : KernelState) : UserPhase :=
  match call, run.phase with
  | .userEnter _, _ => .inEl0 run.state.currentTask
  | .userReturn, _ => .none
  | .syscall .el0 _, .inEl0 owner =>
      if (state.tasks owner).state = .finished then .none
      else if run.state.userActive ∧ ¬ state.userActive then .returning owner
      else .inEl0 owner
  | _, phase => phase

def step (image : KernelImage) (run : UserRun) (call : KernelCall) : UserRun :=
  let result := kernelStep image run.state call
  ⟨result.2, run.phaseAfter call result.2⟩

/-- Between two calls the program and the tasks store to memory, among others the registers of the next
frame. -/
def next (image : KernelImage) (run : UserRun) : KernelEvent → UserRun
  | .call call => run.step image call
  | .store address value => { run with state := run.state.setWord address value }

/-- The saved context of a task: its stack pointer and the frame there. -/
def ContextKept (before after : KernelState) (ref : TaskRef) : Prop :=
  (after.tasks ref).sp = (before.tasks ref).sp
    ∧ ∀ offset, offset < TrapFrame.size →
      after.words ((before.tasks ref).sp + offset) = before.words ((before.tasks ref).sp + offset)

/-- From EL1, `SYS_EXIT` finishes exactly its caller and switches away, and an EL0 program goes on;
the kernel task is given the status instead. From EL0 it ends the program: its caller resumes behind
`arch_enter_user`, and no task changes. -/
def ExitAttributed (image : KernelImage) (run : UserRun) (frame : Nat) : ExceptionLevel → Prop
  | .el1 =>
      let after := (kernelStep image run.state (.syscall .el1 frame)).2
      after.userActive = run.state.userActive
        ∧ (run.state.currentTask ≠ .kernel →
          (∀ ref, (after.tasks ref).state = .finished
              ↔ (run.state.tasks ref).state = .finished ∨ ref = run.state.currentTask)
            ∧ after.currentTask ≠ run.state.currentTask
            ∧ ∀ owner, run.phase = .inEl0 owner → ContextKept run.state after owner)
  | .el0 =>
      let after := (kernelStep image run.state (.syscall .el0 frame)).2
      (kernelStep image run.state (.syscall .el0 frame)).1 = .resumed frame
        ∧ after.words (frame + TrapFrame.elrOffset) = image.archUserResumeEl1
        ∧ after.userActive = false
        ∧ after.tasks = run.state.tasks
        ∧ after.currentTask = run.state.currentTask

/-- The call, if it is `SYS_EXIT`, is attributed to its caller. -/
def ExitsAttributed (image : KernelImage) (run : UserRun) (call : KernelCall) : Prop :=
  ∀ level frame, call = .syscall level frame → frameX run.state frame 8 = sysExit →
    run.ExitAttributed image frame level

/-- No `SYS_EXIT` is taken from EL1 while an EL0 program is active. -/
def ExitsAlone (run : UserRun) (call : KernelCall) : Prop :=
  ∀ frame, call = .syscall .el1 frame → frameX run.state frame 8 = sysExit →
    run.state.userActive = false

end UserRun

/-! ### Saved contexts -/

/-- A call that is no exception, a store to memory, or an exception. -/
inductive ContextEvent where
  | call (call : KernelCall)
  | store (address value : Nat)
  | trap (context : TrapContext) (irqId : Nat)

structure ContextRun where
  state : KernelState
  /-- Whether an exception has interrupted the task since it was created. -/
  interrupted : TaskRef → Bool

def stackLow (image : KernelImage) (state : KernelState) : TaskRef → Nat
  | .kernel => image.kernelEnd - bootStackSize
  | .slot index => (state.tasks (.slot index)).stackBase

def stackHigh (image : KernelImage) (state : KernelState) : TaskRef → Nat
  | .kernel => image.kernelEnd
  | .slot index => (state.tasks (.slot index)).stackBase + (state.tasks (.slot index)).stackSize

namespace ContextRun

def boot (image : KernelImage) (words : Nat → Nat) : ContextRun :=
  ⟨.boot image words, fun _ => false⟩

/-- A task that an exception may switch to: a ready table entry, or the kernel task. -/
def Resumable (run : ContextRun) (ref : TaskRef) : Prop :=
  ref ≠ run.state.currentTask ∧ (ref = .kernel ∨ (run.state.tasks ref).state = .ready)

/-- The stack pointer the task would resume with is the one its frame records. -/
def Consistent (run : ContextRun) (ref : TaskRef) : Prop :=
  exceptionReturnSp (run.state.tasks ref).sp
    = run.state.words ((run.state.tasks ref).sp + TrapFrame.spOffset)

/-- The code that runs stores nothing in the stack of a resumable task, but may store in the 16
bytes behind its own, where a new task starts. It is interrupted with an aligned stack pointer that
leaves room for the frame. -/
def Allowed (image : KernelImage) (run : ContextRun) : ContextEvent → Prop
  | .call (.schedule _) => False
  | .call (.syscall _ _) => False
  | .call (.kmalloc size) => size < 2 ^ 32
  | .call call => call.Possible run.state
  | .store address _ => ∀ ref, run.Resumable ref →
      ¬ (stackLow image run.state ref + 0x10 ≤ address ∧ address < stackHigh image run.state ref)
  | .trap context _ => 16 ∣ context.sp
      ∧ stackLow image run.state run.state.currentTask + exceptionFrameSpan ≤ context.sp
      ∧ context.sp ≤ stackHigh image run.state run.state.currentTask + 0x10

/-- The state that `exception_handle` finds. -/
def entered (run : ContextRun) (context : TrapContext) : KernelState :=
  { run.state with words := exceptionEntry run.state.words context }

/-- A panic ends the run. -/
def step (image : KernelImage) (run : ContextRun) : ContextEvent → ContextRun
  | .call call =>
      let result := kernelStep image run.state call
      match result.1 with
      | .created (some index) => ⟨result.2, Function.update run.interrupted (.slot index) false⟩
      | _ => ⟨result.2, run.interrupted⟩
  | .store address value => { run with state := run.state.setWord address value }
  | .trap context irqId =>
      (exceptionHandle image (run.entered context) irqId (exceptionEntryFrame context)).elim run
        fun result => ⟨result.2, Function.update run.interrupted run.state.currentTask true⟩

/-- States reached from boot by allowed events. -/
inductive Reachable (image : KernelImage) (words : Nat → Nat) : ContextRun → Prop where
  | boot : Reachable image words (.boot image words)
  | step {run : ContextRun} {event : ContextEvent} (hrun : Reachable image words run)
      (hevent : run.Allowed image event) : Reachable image words (run.step image event)

end ContextRun

/-! ### Selections -/

namespace KernelState

def next (image : KernelImage) (state : KernelState) : KernelEvent → KernelState
  | .call call => (kernelStep image state call).2
  | .store address value => state.setWord address value

def after (image : KernelImage) (state : KernelState) (events : List KernelEvent) : KernelState :=
  events.foldl (next image) state

/-- What `task_pick_next` returns in the event; most events do not call it. -/
def picks (state : KernelState) : KernelEvent → Option TaskRef
  | .call (.schedule frame) =>
      let state := taskInit state
      taskPickNext (state.setSp state.currentTask frame)
  | .call (.syscall _ frame) =>
      let initialized := taskInit state
      if frameX state frame 8 = sysExit ∧ ¬ userExceptionActive state
          ∧ initialized.currentTask ≠ .kernel then
        taskPickNext (taskMarkFinished (initialized.setSp initialized.currentTask frame)
          initialized.currentTask)
      else none
  | _ => none

/-- The event is a call of `task_create` that returns a task. -/
def creates (image : KernelImage) (state : KernelState) : KernelEvent → Bool
  | .call (.create name entry arg daif) => (taskCreate image state name entry arg daif).1.isSome
  | _ => false

/-- How many tasks the events create. -/
def createdCount (image : KernelImage) (state : KernelState) : List KernelEvent → Nat
  | [] => 0
  | event :: rest =>
      (if state.creates image event then 1 else 0) + createdCount image (state.next image event) rest

end KernelState

end DuckOs

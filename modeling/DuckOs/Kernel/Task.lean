import DuckOs.Arch.TrapFrame
import DuckOs.Mm.Pmm

/-!
# Tasks

`src/kernel/task.c`. A `struct task *` is a `TaskRef`: `&kernel_task` or an entry of `task_table`.
The state also holds the static variables of `src/kernel/user.c` and `src/kernel/timer.c` that the
system calls read and write.
-/

namespace DuckOs

inductive TaskState where
  | unused
  | ready
  | running
  | finished
  deriving DecidableEq

structure Task where
  name : String
  sp : Nat
  entry : Nat
  arg : Nat
  stackBase : Nat
  stackSize : Nat
  state : TaskState

/-- A task after `memset(task, 0, sizeof(*task))`. -/
def Task.zero : Task := ⟨"", 0, 0, 0, 0, 0, .unused⟩

def taskMax : Nat := 8

instance : NeZero taskMax := ⟨by decide⟩

def taskStackSize : Nat := 16384

inductive TaskRef where
  | kernel
  | slot (index : Fin taskMax)
  deriving DecidableEq

def bootStackSize : Nat := 0x4000

/-- The board, the addresses that trap frames name, and where `linker.ld` puts the boot stack: it
ends the kernel image. -/
structure KernelImage extends Platform where
  taskTrampoline : Nat
  archUserResumeEl1 : Nat
  kernelEnd_dvd : 16 ∣ kernelEnd
  bootStack_le : kernelStart + bootStackSize ≤ kernelEnd

structure KernelState where
  words : Nat → Nat
  memory : MemoryState
  tasks : TaskRef → Task
  currentTask : TaskRef
  taskInitialized : Bool
  timerIrqTicks : Nat
  /-- The address and length of what was sent to the console. -/
  console : List (Nat × Nat)
  userActive : Bool
  userResumeSpsr : Nat

namespace KernelState

/-- The static variables when `kernel_main` has called `pmm_init`. `current_task` is null until
`task_init`, and nothing reads it before. -/
def zero (image : KernelImage) (words : Nat → Nat) : KernelState where
  words := words
  memory := pmmInit image.toPlatform (.boot 0)
  tasks := fun _ => .zero
  currentTask := .kernel
  taskInitialized := false
  timerIrqTicks := 0
  console := []
  userActive := false
  userResumeSpsr := 0

def setTask (state : KernelState) (ref : TaskRef) (task : Task) : KernelState :=
  { state with tasks := Function.update state.tasks ref task }

def setSp (state : KernelState) (ref : TaskRef) (sp : Nat) : KernelState :=
  state.setTask ref { state.tasks ref with sp := sp }

def setState (state : KernelState) (ref : TaskRef) (taskState : TaskState) : KernelState :=
  state.setTask ref { state.tasks ref with state := taskState }

def setCurrent (state : KernelState) (ref : TaskRef) : KernelState :=
  { state with currentTask := ref }

def setWord (state : KernelState) (address value : Nat) : KernelState :=
  { state with words := Function.update state.words address value }

end KernelState

def alignDown16 (value : Nat) : Nat := value / 16 * 16

def taskIndexOf : TaskRef → Int
  | .kernel => -1
  | .slot index => index

/-- `(current_index + i + TASK_MAX) % TASK_MAX`. -/
def taskCandidate (current : TaskRef) (i : Nat) : Fin taskMax :=
  ⟨(taskIndexOf current + i + taskMax).toNat % taskMax, Nat.mod_lt _ (by decide)⟩

def taskPickNext (state : KernelState) : Option TaskRef :=
  match ((List.range' 1 taskMax).map (taskCandidate state.currentTask)).find? fun candidate =>
      (state.tasks (.slot candidate)).state = .ready with
  | some candidate => some (.slot candidate)
  | none => if state.currentTask ≠ .kernel then some .kernel else none

def taskMarkFinished (state : KernelState) (ref : TaskRef) : KernelState :=
  state.setState ref .finished

/-- The address of the frame that `task_prepare_stack` builds. -/
def taskInitialFrame (task : Task) : Nat :=
  alignDown16 (task.stackBase + task.stackSize) - TrapFrame.size

def taskPrepareStack (image : KernelImage) (state : KernelState) (ref : TaskRef) (daif : Nat) :
    KernelState :=
  let task := state.tasks ref
  { state.setSp ref (taskInitialFrame task) with
    words := TrapFrame.store state.words (taskInitialFrame task)
      { TrapFrame.zero with
        elrEl1 := image.taskTrampoline
        spsrEl1 := (daif &&& 0x3c0) ||| 0x5
        sp := task.stackBase + task.stackSize } }

def taskInit (state : KernelState) : KernelState :=
  if state.taskInitialized then state
  else
    { state with
      tasks := Function.update (fun _ => Task.zero) .kernel
        { Task.zero with name := "kernel", state := .running }
      currentTask := .kernel
      taskInitialized := true }

/-- `kernel_main` calls `task_init` before it lets interrupts through. -/
def KernelState.boot (image : KernelImage) (words : Nat → Nat) : KernelState :=
  taskInit (.zero image words)

/-- The first unused entry of `task_table`. -/
def taskUnusedSlot (state : KernelState) : Option (Fin taskMax) :=
  (List.finRange taskMax).find? fun index => (state.tasks (.slot index)).state = .unused

/-- `daif` is what `sysreg_read_daif` gives. -/
def taskCreate (image : KernelImage) (state : KernelState) (name : String) (entry arg daif : Nat) :
    Option (Fin taskMax) × KernelState :=
  let state := taskInit state
  match taskUnusedSlot state with
  | none => (none, state)
  | some index =>
      let task := state.tasks (.slot index)
      let block := kmalloc image.toPlatform state.memory taskStackSize
      let state := { state with memory := block.2 }
      if block.1 = 0 then (none, state.setTask (.slot index) { task with stackBase := 0 })
      else
        let task := { task with
          stackBase := block.1
          name := name
          entry := entry
          arg := arg
          stackSize := taskStackSize
          state := .ready }
        (some index, taskPrepareStack image (state.setTask (.slot index) task) (.slot index) daif)

def taskActiveCount (state : KernelState) : Nat × KernelState :=
  let state := taskInit state
  ((List.finRange taskMax).countP fun index =>
    (state.tasks (.slot index)).state = .ready ∨ (state.tasks (.slot index)).state = .running, state)

def taskTimeSliceTicks : Nat := 1

def taskScheduleFromException (state : KernelState) (frame : Nat) (currentCanContinue : Bool) :
    Nat × KernelState :=
  let state := taskInit state
  let previous := state.currentTask
  let state := state.setSp previous frame
  match taskPickNext state with
  | none => (frame, state)
  | some next =>
      if next = previous then (frame, state)
      else
        let state :=
          if currentCanContinue ∧ (state.tasks previous).state = .running then
            state.setState previous .ready
          else state
        ((state.tasks next).sp, (state.setState next .running).setCurrent next)

/-- The status is handed back when the kernel task exits, which goes on. -/
def taskExitFromException (state : KernelState) (frame status : Nat) : Nat × KernelState :=
  let state := taskInit state
  let previous := state.currentTask
  let state := state.setSp previous frame
  if previous = .kernel then (frame, state.setWord frame status)
  else
    let state := taskMarkFinished state previous
    match taskPickNext state with
    | none =>
        ((state.tasks .kernel).sp, (state.setState .kernel .running).setCurrent .kernel)
    | some next => ((state.tasks next).sp, (state.setState next .running).setCurrent next)

end DuckOs

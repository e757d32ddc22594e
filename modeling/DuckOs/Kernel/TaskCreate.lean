import DuckOs.Kernel.KernelRun
import DuckOs.Lib.Machine

/-!
# Creating tasks with interrupts unmasked

`task_create` one assignment after another. A timer interrupt may fall between any two of them and
run another task, which may call `task_create` itself, so every task has its own call under way.
-/

namespace DuckOs

/-- Where a call of `task_create` stands: the test or the assignment that comes next. -/
inductive CreateStage where
  | scan
  | stackBase
  | checkBase
  | name
  | entry
  | arg
  | stackSize
  | ready
  | prepare
  deriving DecidableEq

structure CreateCall where
  index : Fin taskMax
  stage : CreateStage
  name : String
  entry : Nat
  arg : Nat
  deriving DecidableEq

structure CreateRun where
  state : KernelState
  calls : TaskRef → Option CreateCall
  /-- The frame that `task_prepare_stack` wrote for the task, or at which it was interrupted last. -/
  frames : TaskRef → Option Nat

namespace CreateRun

def boot (image : KernelImage) (words : Nat → Nat) : CreateRun :=
  ⟨.boot image words, fun _ => none, fun _ => none⟩

/-- The call of the current task. -/
def call (run : CreateRun) : Option CreateCall := run.calls run.state.currentTask

def setCall (run : CreateRun) (call : Option CreateCall) : CreateRun :=
  { run with calls := Function.update run.calls run.state.currentTask call }

/-- An assignment to the table entry, after which the call goes on at `stage`. -/
def assign (run : CreateRun) (call : CreateCall) (task : Task) (stage : CreateStage) : CreateRun :=
  { run.setCall (some { call with stage := stage }) with
    state := run.state.setTask (.slot call.index) task }

/-- One step of the call; `daif` is what `sysreg_read_daif` gives. -/
def advance (image : KernelImage) (run : CreateRun) (call : CreateCall) (daif : Nat) :
    KernelReply × CreateRun :=
  let task := run.state.tasks (.slot call.index)
  match call.stage with
  | .scan =>
      if task.state = .unused then (.done, run.setCall (some { call with stage := .stackBase }))
      else if h : call.index + 1 < taskMax then
        (.done, run.setCall (some { call with index := ⟨call.index + 1, h⟩ }))
      else (.created none, run.setCall none)
  | .stackBase =>
      let block := kmalloc image.toPlatform run.state.memory taskStackSize
      let run := run.assign call { task with stackBase := block.1 } .checkBase
      (.done, { run with state := { run.state with memory := block.2 } })
  | .checkBase =>
      if task.stackBase = 0 then (.created none, run.setCall none)
      else (.done, run.setCall (some { call with stage := .name }))
  | .name => (.done, run.assign call { task with name := call.name } .entry)
  | .entry => (.done, run.assign call { task with entry := call.entry } .arg)
  | .arg => (.done, run.assign call { task with arg := call.arg } .stackSize)
  | .stackSize => (.done, run.assign call { task with stackSize := taskStackSize } .ready)
  | .ready => (.done, run.assign call { task with state := .ready } .prepare)
  | .prepare =>
      (.created (some call.index),
        { run.setCall none with
          state := taskPrepareStack image run.state (.slot call.index) daif
          frames := Function.update run.frames (.slot call.index) (some (taskInitialFrame task)) })

end CreateRun

/-- What the current task does, or the timer interrupt that it takes. -/
inductive CreateEvent where
  | start (name : String) (entry arg : Nat)
  | advance (daif : Nat)
  | interrupt (frame : Nat)
  | complete

namespace CreateRun

def step (image : KernelImage) (run : CreateRun) : CreateEvent → KernelReply × CreateRun
  | .start name entry arg =>
      (.done, { run.setCall (some ⟨0, .scan, name, entry, arg⟩) with state := taskInit run.state })
  | .advance daif => run.call.elim (.done, run) fun call => run.advance image call daif
  | .interrupt frame =>
      let result := taskScheduleFromException run.state frame true
      (.resumed result.1,
        { run with
          state := result.2
          frames := Function.update run.frames run.state.currentTask (some frame) })
  | .complete => (.done, { run with state := taskMarkFinished run.state run.state.currentTask })

def next (image : KernelImage) (run : CreateRun) (event : CreateEvent) : CreateRun :=
  (run.step image event).2

/-- Interrupts find the current task on its own stack. A task that has completed does nothing but
yield. -/
def Possible (image : KernelImage) (run : CreateRun) : CreateEvent → Prop
  | .start _ _ _ => run.call = none
      ∧ (run.state.tasks run.state.currentTask).state = .running
  | .advance _ => run.call ≠ none
  | .interrupt frame => stackLow image run.state run.state.currentTask ≤ frame
      ∧ frame + TrapFrame.size ≤ stackHigh image run.state run.state.currentTask
  | .complete => run.call = none ∧ run.state.currentTask ≠ .kernel
      ∧ (run.state.tasks run.state.currentTask).state = .running

instance (image : KernelImage) (run : CreateRun) :
    (event : CreateEvent) → Decidable (run.Possible image event)
  | .start _ _ _ => inferInstanceAs (Decidable (_ ∧ _))
  | .advance _ => inferInstanceAs (Decidable (_ ≠ _))
  | .interrupt _ => inferInstanceAs (Decidable (_ ∧ _))
  | .complete => inferInstanceAs (Decidable (_ ∧ _ ∧ _))

/-- The saved stack pointer is that of a frame in the stack of the task, which `task_prepare_stack`
or an interruption of the task has written. -/
def Built (image : KernelImage) (run : CreateRun) (ref : TaskRef) : Prop :=
  run.frames ref = some (run.state.tasks ref).sp
    ∧ stackLow image run.state ref ≤ (run.state.tasks ref).sp
    ∧ (run.state.tasks ref).sp + TrapFrame.size ≤ stackHigh image run.state ref

/-- An interrupt finds every ready table entry built, and returns to a frame that was written for the
task it resumes. -/
def InterruptSafe (image : KernelImage) (run : CreateRun) (event : CreateEvent) : Prop :=
  ∀ frame, event = .interrupt frame →
    (∀ index, (run.state.tasks (.slot index)).state = .ready → run.Built image (.slot index))
      ∧ ∀ resumed, (run.step image event).1 = .resumed resumed →
        (run.next image event).frames (run.next image event).state.currentTask = some resumed

/-- No interrupt falls between the assignment of `TASK_READY` and the end of `task_prepare_stack`. -/
def OutsidePrepare (run : CreateRun) (event : CreateEvent) : Prop :=
  ∀ frame call, event = .interrupt frame → run.call = some call → call.stage ≠ .prepare

/-- No call takes a table entry that the call of another task has taken and not finished. -/
def EntriesApart (run : CreateRun) (event : CreateEvent) : Prop :=
  ∀ daif call, event = .advance daif → run.call = some call → call.stage = .scan →
    ∀ ref other, ref ≠ run.state.currentTask → run.calls ref = some other → other.stage ≠ .scan →
      other.index = call.index → (run.state.tasks (.slot call.index)).state ≠ .unused

end CreateRun

/-! ### Selections -/

/-- Calls of `task_create` run to their end, or one assignment after another. -/
inductive SchedulerEvent where
  | kernel (event : KernelEvent)
  | create (event : CreateEvent)

namespace CreateRun

def nextEvent (image : KernelImage) (run : CreateRun) : SchedulerEvent → CreateRun
  | .kernel event => { run with state := run.state.next image event }
  | .create event => run.next image event

def after (image : KernelImage) (run : CreateRun) (events : List SchedulerEvent) : CreateRun :=
  events.foldl (nextEvent image) run

/-- What `task_pick_next` returns in the event, if it is called. -/
def picks (run : CreateRun) : SchedulerEvent → Option TaskRef
  | .kernel event => run.state.picks event
  | .create (.interrupt frame) => run.state.picks (.call (.schedule frame))
  | .create _ => none

def isReady (run : CreateRun) (index : Fin taskMax) : Bool :=
  (run.state.tasks (.slot index)).state = .ready

/-- Through all the events the table entry is ready and not picked. -/
structure PassesOver (image : KernelImage) (run : CreateRun) (events : List SchedulerEvent)
    (index : Fin taskMax) : Prop where
  ready : Machine.Throughout (nextEvent image) (fun run => run.isReady index = true) run events
  unpicked : Machine.EveryStep (nextEvent image)
    (fun run event => run.picks event ≠ some (.slot index)) run events

end CreateRun

end DuckOs

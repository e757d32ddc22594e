import DuckOs.Kernel.TaskCreate
import DuckOs.Proof.Context

/-!
# Tasks are built before they are scheduled

Up to the assignment of `TASK_READY` a new table entry is unused, so no interrupt picks it. From there
to the end of `task_prepare_stack` it is ready without a frame. If no interrupt falls there, and no
two calls share an entry, an interrupt finds frames in all ready entries.
-/

namespace DuckOs

namespace CreateRun

/-- The call has taken its table entry. -/
def Taken (run : CreateRun) (ref : TaskRef) (call : CreateCall) : Prop :=
  run.calls ref = some call ∧ call.stage ≠ .scan

/-- The entry is ready, and `task_prepare_stack` comes next. -/
def Preparing (run : CreateRun) (ref : TaskRef) : Prop :=
  ∃ call, run.call = some call ∧ call.stage = .prepare ∧ ref = .slot call.index

/-- In every state of a run in which no interrupt falls into `Preparing`. -/
structure Inv (image : KernelImage) (run : CreateRun) : Prop where
  initialized : run.state.taskInitialized
  current_live : (run.state.tasks run.state.currentTask).state = .running
    ∨ (run.state.tasks run.state.currentTask).state = .finished
  unused_frames : ∀ index, (run.state.tasks (.slot index)).state = .unused →
    run.frames (.slot index) = none
  built : ∀ ref, ref ≠ run.state.currentTask →
    (ref = .kernel ∨ (run.state.tasks ref).state = .ready) → run.Built image ref ∨ run.Preparing ref
  unused : ∀ ref call, run.Taken ref call → call.stage ≠ .prepare →
    (run.state.tasks (.slot call.index)).state = .unused
  apart : ∀ ref other first second, ref ≠ other → run.Taken ref first → run.Taken other second →
    first.index ≠ second.index
  sized : ∀ ref call, run.calls ref = some call → call.stage = .ready ∨ call.stage = .prepare →
    (run.state.tasks (.slot call.index)).stackSize = taskStackSize
  preparing : ∀ ref call, run.calls ref = some call → call.stage = .prepare →
    ref = run.state.currentTask
      ∧ (run.state.tasks (.slot call.index)).state = .ready
      ∧ run.frames (.slot call.index) = none

section Calls

variable {image : KernelImage} {run : CreateRun} {call : CreateCall}

theorem Inv.slot_ne_current (hinv : run.Inv image) {index : Fin taskMax}
    (hstate : (run.state.tasks (.slot index)).state = .unused
      ∨ (run.state.tasks (.slot index)).state = .ready) :
    TaskRef.slot index ≠ run.state.currentTask := by
  intro heq
  have hlive := hinv.current_live
  rw [← heq] at hlive
  rcases hstate with hstate | hstate <;> simp [hstate] at hlive

theorem setCall_current (run : CreateRun) (next : Option CreateCall) :
    (run.setCall next).calls run.state.currentTask = next := Function.update_self _ _ _

theorem setCall_of_ne (run : CreateRun) (next : Option CreateCall) {ref : TaskRef}
    (hne : ref ≠ run.state.currentTask) : (run.setCall next).calls ref = run.calls ref :=
  Function.update_of_ne hne _ _

/-- The call of the current task goes on, or ends, without an assignment. -/
theorem Inv.setCall (hinv : run.Inv image) {next : Option CreateCall}
    (hbefore : ∀ before, run.call = some before → before.stage ≠ .prepare)
    (hnext : ∀ after, next = some after → after.stage ≠ .ready ∧ after.stage ≠ .prepare
      ∧ (after.stage ≠ .scan → (run.state.tasks (.slot after.index)).state = .unused
        ∧ ∀ ref other, ref ≠ run.state.currentTask → run.Taken ref other →
          other.index ≠ after.index)) :
    (run.setCall next).Inv image := by
  have hcalls : ∀ ref after, (run.setCall next).calls ref = some after →
      (ref = run.state.currentTask ∧ next = some after)
        ∨ (ref ≠ run.state.currentTask ∧ run.calls ref = some after) := by
    intro ref after hcall
    by_cases href : ref = run.state.currentTask
    · rw [href, setCall_current] at hcall
      exact .inl ⟨href, hcall⟩
    · rw [setCall_of_ne run next href] at hcall
      exact .inr ⟨href, hcall⟩
  refine ⟨hinv.initialized, hinv.current_live, hinv.unused_frames, ?_, ?_, ?_, ?_, ?_⟩
  · intro ref hne hlive
    rcases hinv.built ref hne hlive with hbuilt | ⟨before, hcall, hstage, -⟩
    · exact .inl hbuilt
    · exact absurd hstage (hbefore before hcall)
  · rintro ref after ⟨hcall, hscan⟩ hstage
    rcases hcalls ref after hcall with ⟨-, hsome⟩ | ⟨href, hother⟩
    · exact ((hnext after hsome).2.2 hscan).1
    · exact hinv.unused ref after ⟨hother, hscan⟩ hstage
  · rintro ref other first second hne ⟨hfirst, hfirstScan⟩ ⟨hsecond, hsecondScan⟩
    rcases hcalls ref first hfirst with ⟨href, hsome⟩ | ⟨href, hfirst⟩
    · rcases hcalls other second hsecond with ⟨hother, -⟩ | ⟨hother, hsecond⟩
      · exact absurd (href.trans hother.symm) hne
      · exact (((hnext first hsome).2.2 hfirstScan).2 other second hother
          ⟨hsecond, hsecondScan⟩).symm
    · rcases hcalls other second hsecond with ⟨-, hsome⟩ | ⟨-, hsecond⟩
      · exact ((hnext second hsome).2.2 hsecondScan).2 ref first href ⟨hfirst, hfirstScan⟩
      · exact hinv.apart ref other first second hne ⟨hfirst, hfirstScan⟩ ⟨hsecond, hsecondScan⟩
  · intro ref after hcall hstage
    rcases hcalls ref after hcall with ⟨-, hsome⟩ | ⟨-, hother⟩
    · obtain ⟨hready, hprepare, -⟩ := hnext after hsome
      exact absurd hstage (not_or.mpr ⟨hready, hprepare⟩)
    · exact hinv.sized ref after hother hstage
  · intro ref after hcall hstage
    rcases hcalls ref after hcall with ⟨-, hsome⟩ | ⟨-, hother⟩
    · exact absurd hstage (hnext after hsome).2.1
    · exact hinv.preparing ref after hother hstage

theorem Built.congr {after : CreateRun} {ref : TaskRef} (hbuilt : run.Built image ref)
    (hframes : after.frames ref = run.frames ref)
    (htask : after.state.tasks ref = run.state.tasks ref) : after.Built image ref := by
  obtain ⟨hframe, hlow, hhigh⟩ := hbuilt
  refine ⟨?_, ?_, ?_⟩
  · rw [hframes, htask]
    exact hframe
  · rw [stackLow_congr (congrArg Task.stackBase htask), htask]
    exact hlow
  · rw [stackHigh_congr (congrArg Task.stackBase htask) (congrArg Task.stackSize htask), htask]
    exact hhigh

/-- The rest of the run is as before: only the entry that the call has taken changes, and the call
itself. -/
structure ChangesEntry (run : CreateRun) (call : CreateCall) (after : CreateRun) : Prop where
  initialized_eq : after.state.taskInitialized = run.state.taskInitialized
  current_eq : after.state.currentTask = run.state.currentTask
  tasks_eq : ∀ ref, ref ≠ .slot call.index → after.state.tasks ref = run.state.tasks ref
  frames_eq : ∀ ref, ref ≠ .slot call.index → after.frames ref = run.frames ref
  calls_eq : ∀ ref, ref ≠ run.state.currentTask → after.calls ref = run.calls ref

/-- What the entry and the call have to be for the next state. -/
structure EntryOk (image : KernelImage) (call : CreateCall) (after : CreateRun) : Prop where
  unused_frames : (after.state.tasks (.slot call.index)).state = .unused →
    after.frames (.slot call.index) = none
  built : (after.state.tasks (.slot call.index)).state = .ready →
    after.Built image (.slot call.index) ∨ after.Preparing (.slot call.index)
  index_eq : ∀ next, after.call = some next → next.index = call.index
  unused : ∀ next, after.call = some next → next.stage ≠ .prepare →
    (after.state.tasks (.slot call.index)).state = .unused
  sized : ∀ next, after.call = some next → next.stage = .ready ∨ next.stage = .prepare →
    (after.state.tasks (.slot call.index)).stackSize = taskStackSize
  preparing : ∀ next, after.call = some next → next.stage = .prepare →
    (after.state.tasks (.slot call.index)).state = .ready
      ∧ after.frames (.slot call.index) = none

theorem Inv.changeEntry (hinv : run.Inv image) (hcall : run.call = some call)
    (hscan : call.stage ≠ .scan) {after : CreateRun} (hchanges : run.ChangesEntry call after)
    (hentry : EntryOk image call after) : after.Inv image := by
  have htaken : run.Taken run.state.currentTask call := ⟨hcall, hscan⟩
  have hslot : TaskRef.slot call.index ≠ run.state.currentTask := by
    apply hinv.slot_ne_current
    by_cases hprepare : call.stage = .prepare
    · exact .inr (hinv.preparing _ _ hcall hprepare).2.1
    · exact .inl (hinv.unused _ _ htaken hprepare)
  have hcurrent := hchanges.current_eq
  have hafter : after.call = after.calls run.state.currentTask := by
    rw [CreateRun.call, hcurrent]
  have hapart : ∀ ref other, ref ≠ run.state.currentTask → after.Taken ref other →
      run.Taken ref other ∧ other.index ≠ call.index := by
    rintro ref other href ⟨hother, hstage⟩
    have hold : run.Taken ref other := ⟨(hchanges.calls_eq ref href) ▸ hother, hstage⟩
    exact ⟨hold, hinv.apart ref _ other call href hold htaken⟩
  have hsame : ∀ {other : CreateCall}, other.index ≠ call.index →
      after.state.tasks (.slot other.index) = run.state.tasks (.slot other.index)
        ∧ after.frames (.slot other.index) = run.frames (.slot other.index) := by
    intro other hne
    have href : TaskRef.slot other.index ≠ .slot call.index := fun heq => hne (TaskRef.slot.inj heq)
    exact ⟨hchanges.tasks_eq _ href, hchanges.frames_eq _ href⟩
  constructor
  · rw [hchanges.initialized_eq]
    exact hinv.initialized
  · rw [hcurrent, hchanges.tasks_eq _ hslot.symm]
    exact hinv.current_live
  · intro index hstate
    by_cases heq : TaskRef.slot index = .slot call.index
    · rw [heq] at hstate ⊢
      exact hentry.unused_frames hstate
    · rw [hchanges.tasks_eq _ heq] at hstate
      rw [hchanges.frames_eq _ heq]
      exact hinv.unused_frames index hstate
  · intro ref hne hlive
    by_cases heq : ref = .slot call.index
    · subst heq
      exact hentry.built (hlive.resolve_left (by simp))
    · rw [hcurrent] at hne
      rw [hchanges.tasks_eq ref heq] at hlive
      rcases hinv.built ref hne hlive with hbuilt | ⟨before, hbefore, -, hindex⟩
      · exact .inl (hbuilt.congr (hchanges.frames_eq ref heq) (hchanges.tasks_eq ref heq))
      · rw [hcall] at hbefore
        cases hbefore
        exact absurd hindex heq
  · rintro ref next hnext hstage
    by_cases href : ref = run.state.currentTask
    · rw [href] at hnext
      have hsome := hafter.trans hnext.1
      rw [hentry.index_eq next hsome]
      exact hentry.unused next hsome hstage
    · obtain ⟨hold, hne⟩ := hapart ref next href hnext
      rw [(hsame hne).1]
      exact hinv.unused ref next hold hstage
  · rintro ref other first second hne hfirst hsecond
    by_cases href : ref = run.state.currentTask
    · rw [href] at hfirst hne
      rw [hentry.index_eq first (hafter.trans hfirst.1)]
      exact (hapart other second hne.symm hsecond).2.symm
    · by_cases hother : other = run.state.currentTask
      · rw [hother] at hsecond
        rw [hentry.index_eq second (hafter.trans hsecond.1)]
        exact (hapart ref first href hfirst).2
      · exact hinv.apart ref other first second hne (hapart ref first href hfirst).1
          (hapart other second hother hsecond).1
  · intro ref next hnext hstage
    by_cases href : ref = run.state.currentTask
    · rw [href] at hnext
      have hsome := hafter.trans hnext
      rw [hentry.index_eq next hsome]
      exact hentry.sized next hsome hstage
    · have hscanned : next.stage ≠ .scan := by rcases hstage with h | h <;> simp [h]
      obtain ⟨hold, hne⟩ := hapart ref next href ⟨hnext, hscanned⟩
      rw [(hsame hne).1]
      exact hinv.sized ref next hold.1 hstage
  · intro ref next hnext hstage
    by_cases href : ref = run.state.currentTask
    · rw [href] at hnext
      have hsome := hafter.trans hnext
      rw [hentry.index_eq next hsome]
      exact ⟨href.trans hcurrent.symm, hentry.preparing next hsome hstage⟩
    · rw [hchanges.calls_eq ref href] at hnext
      exact absurd (hinv.preparing ref next hnext hstage).1 href

/-- An assignment after which the entry is still unused. -/
theorem Inv.assign (hinv : run.Inv image) (hcall : run.call = some call) (hscan : call.stage ≠ .scan)
    (hprepare : call.stage ≠ .prepare) (task : Task) (stage : CreateStage)
    (hstate : task.state = (run.state.tasks (.slot call.index)).state) (hstage : stage ≠ .prepare)
    (hsize : stage = .ready → task.stackSize = taskStackSize) (memory : MemoryState) :
    Inv image { run.assign call task stage with
      state := { (run.assign call task stage).state with memory := memory } } := by
  have hunused := hinv.unused _ _ ⟨hcall, hscan⟩ hprepare
  have htask := hstate.trans hunused
  generalize hafter : ({ run.assign call task stage with
    state := { (run.assign call task stage).state with memory := memory } } : CreateRun) = after
  have hentry : after.state.tasks (.slot call.index) = task := by
    subst hafter
    exact Function.update_self _ _ _
  have hframes : after.frames = run.frames := by
    subst hafter
    rfl
  have hnext : after.call = some { call with stage := stage } := by
    subst hafter
    exact Function.update_self _ _ _
  refine hinv.changeEntry hcall hscan ?_ ?_
  · subst hafter
    exact ⟨rfl, rfl, fun ref hne => Function.update_of_ne hne _ _, fun _ _ => rfl,
      fun ref hne => Function.update_of_ne hne _ _⟩
  · constructor
    · intro _
      rw [hframes]
      exact hinv.unused_frames _ hunused
    · rw [hentry, htask]
      exact fun hready => nomatch hready
    · intro next hsome
      rw [hnext] at hsome
      cases hsome
      rfl
    · intro _ _ _
      rw [hentry, htask]
    · intro next hsome hready
      rw [hnext] at hsome
      cases hsome
      rw [hentry]
      exact hsize (hready.resolve_right hstage)
    · intro next hsome hready
      rw [hnext] at hsome
      cases hsome
      exact absurd hready hstage

/-- From here on the entry may be scheduled. -/
theorem Inv.assignReady (hinv : run.Inv image) (hcall : run.call = some call)
    (hstage : call.stage = .ready) :
    (run.assign call { run.state.tasks (.slot call.index) with state := .ready } .prepare).Inv
      image := by
  have hscan : call.stage ≠ .scan := by simp [hstage]
  have hunused := hinv.unused _ _ ⟨hcall, hscan⟩ (by simp [hstage])
  generalize hafter :
    run.assign call { run.state.tasks (.slot call.index) with state := .ready } .prepare = after
  have hentry : after.state.tasks (.slot call.index)
      = { run.state.tasks (.slot call.index) with state := .ready } := by
    subst hafter
    exact Function.update_self _ _ _
  have hframes : after.frames (.slot call.index) = none := by
    subst hafter
    exact hinv.unused_frames _ hunused
  have hnext : after.call = some { call with stage := .prepare } := by
    subst hafter
    exact Function.update_self _ _ _
  refine hinv.changeEntry hcall hscan ?_ ?_
  · subst hafter
    exact ⟨rfl, rfl, fun ref hne => Function.update_of_ne hne _ _, fun _ _ => rfl,
      fun ref hne => Function.update_of_ne hne _ _⟩
  · constructor
    · exact fun _ => hframes
    · exact fun _ => .inr ⟨_, hnext, rfl, rfl⟩
    · intro next hsome
      rw [hnext] at hsome
      cases hsome
      rfl
    · intro next hsome hprepare
      rw [hnext] at hsome
      cases hsome
      exact absurd rfl hprepare
    · intro _ _ _
      rw [hentry]
      exact hinv.sized _ _ hcall (.inl hstage)
    · intro _ _ _
      rw [hentry]
      exact ⟨rfl, hframes⟩

theorem taskInitialFrame_inside {task : Task} (hsize : task.stackSize = taskStackSize) :
    task.stackBase ≤ taskInitialFrame task
      ∧ taskInitialFrame task + TrapFrame.size ≤ task.stackBase + task.stackSize := by
  simp only [taskInitialFrame, alignDown16, hsize, taskStackSize, TrapFrame.size]
  omega

theorem taskPrepareStack_currentTask (state : KernelState) (ref : TaskRef) (daif : Nat) :
    (taskPrepareStack image state ref daif).currentTask = state.currentTask := by
  simp only [taskPrepareStack, KernelState.setSp, KernelState.setTask]

theorem taskPrepareStack_taskInitialized (state : KernelState) (ref : TaskRef) (daif : Nat) :
    (taskPrepareStack image state ref daif).taskInitialized = state.taskInitialized := by
  simp only [taskPrepareStack, KernelState.setSp, KernelState.setTask]

theorem taskPrepareStack_tasks (state : KernelState) (ref : TaskRef) (daif : Nat) :
    (taskPrepareStack image state ref daif).tasks
      = Function.update state.tasks ref
        { state.tasks ref with sp := taskInitialFrame (state.tasks ref) } := rfl

theorem Inv.prepare (hinv : run.Inv image) (hcall : run.call = some call)
    (hstage : call.stage = .prepare) (daif : Nat) : (run.advance image call daif).2.Inv image := by
  have hscan : call.stage ≠ .scan := by simp [hstage]
  have hinside := taskInitialFrame_inside (hinv.sized _ _ hcall (.inr hstage))
  generalize hafter : (run.advance image call daif).2 = after
  simp only [advance, hstage] at hafter
  have hentry : after.state.tasks (.slot call.index)
      = { run.state.tasks (.slot call.index) with
          sp := taskInitialFrame (run.state.tasks (.slot call.index)) } := by
    subst hafter
    simp only [taskPrepareStack_tasks, Function.update_self]
  have hframes : after.frames (.slot call.index)
      = some (taskInitialFrame (run.state.tasks (.slot call.index))) := by
    subst hafter
    simp only [Function.update_self]
  have hnext : after.call = none := by
    subst hafter
    simp only [CreateRun.call, taskPrepareStack_currentTask, setCall_current]
  have hready := (hinv.preparing _ _ hcall hstage).2.1
  refine hinv.changeEntry hcall hscan ?_ ?_
  · subst hafter
    refine ⟨taskPrepareStack_taskInitialized _ _ _, taskPrepareStack_currentTask _ _ _, ?_,
      fun ref hne => Function.update_of_ne hne _ _, fun ref hne => Function.update_of_ne hne _ _⟩
    intro ref hne
    rw [taskPrepareStack_tasks, Function.update_of_ne hne]
  · constructor
    · rw [hentry, hready]
      exact fun hunused => nomatch hunused
    · refine fun _ => .inl ⟨?_, ?_, ?_⟩
      · rw [hframes, hentry]
      · rw [stackLow, hentry]
        exact hinside.1
      · rw [stackHigh, hentry]
        exact hinside.2
    all_goals
      intro next hsome
      rw [hnext] at hsome
      cases hsome

/-! ### Interrupts -/

/-- Between calls, or outside `Preparing`, all that an interrupt may switch to is built. -/
theorem Inv.built_outside (hinv : run.Inv image)
    (houtside : ∀ call, run.call = some call → call.stage ≠ .prepare) {ref : TaskRef}
    (hne : ref ≠ run.state.currentTask)
    (hlive : ref = .kernel ∨ (run.state.tasks ref).state = .ready) : run.Built image ref := by
  rcases hinv.built ref hne hlive with hbuilt | ⟨call, hcall, hstage, -⟩
  · exact hbuilt
  · exact absurd hstage (houtside call hcall)

/-- The tasks after an interrupt: the current one is saved at its frame, all others are as they were
up to their state, and only an entry that was in use changes its state. -/
structure Interrupted (image : KernelImage) (run : CreateRun) (frame : Nat) (resumed : Nat)
    (after : KernelState) : Prop where
  initialized_eq : after.taskInitialized = run.state.taskInitialized
  current_live : (after.tasks after.currentTask).state = .running
    ∨ (after.tasks after.currentTask).state = .finished
  resumed_eq : (after.currentTask = run.state.currentTask ∧ resumed = frame)
    ∨ (after.currentTask ≠ run.state.currentTask
      ∧ (after.currentTask = .kernel ∨ (run.state.tasks after.currentTask).state = .ready)
      ∧ resumed = (run.state.tasks after.currentTask).sp)
  task_current : ∃ state, state ≠ .unused ∧ after.tasks run.state.currentTask
    = { run.state.tasks run.state.currentTask with sp := frame, state := state }
  task_other : ∀ ref, ref ≠ run.state.currentTask → ref ≠ after.currentTask →
    after.tasks ref = run.state.tasks ref

theorem Inv.interrupted (hinv : run.Inv image) (frame : Nat) :
    Interrupted image run frame (taskScheduleFromException run.state frame true).1
      (taskScheduleFromException run.state frame true).2 := by
  have hready : (run.state.tasks run.state.currentTask).state ≠ .ready := by
    rcases hinv.current_live with hlive | hlive <;> simp [hlive]
  have hunused : (run.state.tasks run.state.currentTask).state ≠ .unused := by
    rcases hinv.current_live with hlive | hlive <;> simp [hlive]
  rcases taskSchedule_cases hinv.initialized hready frame with ⟨-, -, heq⟩ | ⟨next, -, hswitch⟩
  · rw [heq]
    refine ⟨rfl, ?_, .inl ⟨rfl, rfl⟩, ⟨_, hunused, Function.update_self _ _ _⟩, ?_⟩
    · simpa [KernelState.setSp, KernelState.setTask] using hinv.current_live
    · intro ref hne _
      exact Function.update_of_ne hne _ _
  · have hcurrent := hswitch.current_eq
    refine ⟨by rw [hswitch.after_eq], ?_, .inr ?_, ⟨_, ?_, hswitch.tasks_current⟩, ?_⟩
    · rw [hcurrent, hswitch.tasks_next]
      exact .inl rfl
    · rw [hcurrent]
      exact ⟨hswitch.next_ne, hswitch.next_live.symm, hswitch.resumed_eq⟩
    · split
      · simp
      · exact hunused
    · intro ref hne hnext
      rw [hcurrent] at hnext
      exact hswitch.tasks_of_ne hnext hne

/-- An entry that is not in use is not touched. -/
theorem Interrupted.unused {frame resumed : Nat} {after : KernelState} (hinv : run.Inv image)
    (hafter : Interrupted image run frame resumed after) {index : Fin taskMax}
    (hunused : (run.state.tasks (.slot index)).state = .unused) :
    after.tasks (.slot index) = run.state.tasks (.slot index) := by
  have hne := hinv.slot_ne_current (.inl hunused)
  refine hafter.task_other _ hne ?_
  rintro heq
  rcases hafter.resumed_eq with ⟨hcurrent, -⟩ | ⟨-, hkernel | hready, -⟩
  · exact hne (heq.trans hcurrent)
  · rw [hkernel] at heq
    cases heq
  · rw [← heq, hunused] at hready
    cases hready

theorem Inv.interrupt (hinv : run.Inv image)
    (houtside : ∀ call, run.call = some call → call.stage ≠ .prepare) {frame : Nat}
    (hframe : run.Possible image (.interrupt frame)) :
    (run.next image (.interrupt frame)).Inv image := by
  have hafter := hinv.interrupted frame
  have hnone : ∀ ref call, run.calls ref = some call → call.stage ≠ .prepare := by
    intro ref call hcall hstage
    have href := (hinv.preparing ref call hcall hstage).1
    exact houtside call (by rw [CreateRun.call, ← href, hcall]) hstage
  simp only [next, step]
  generalize (taskScheduleFromException run.state frame true).1 = resumed at hafter
  generalize (taskScheduleFromException run.state frame true).2 = after at hafter
  obtain ⟨left, hleft, hcurrent⟩ := hafter.task_current
  have hbase : (after.tasks run.state.currentTask).stackBase
      = (run.state.tasks run.state.currentTask).stackBase := by rw [hcurrent]
  have hsize : (after.tasks run.state.currentTask).stackSize
      = (run.state.tasks run.state.currentTask).stackSize := by rw [hcurrent]
  constructor
  · exact hafter.initialized_eq.trans hinv.initialized
  · exact hafter.current_live
  · intro index hunused
    dsimp only at hunused ⊢
    have hne : TaskRef.slot index ≠ run.state.currentTask := by
      intro heq
      rw [heq, hcurrent] at hunused
      exact hleft hunused
    have hnext : TaskRef.slot index ≠ after.currentTask := by
      intro heq
      rw [heq] at hunused
      rcases hafter.current_live with hlive | hlive <;> simp [hlive] at hunused
    rw [hafter.task_other _ hne hnext] at hunused
    rw [Function.update_of_ne hne]
    exact hinv.unused_frames index hunused
  · intro ref hnext hlive
    dsimp only at hnext hlive
    by_cases href : ref = run.state.currentTask
    · subst href
      refine .inl ⟨?_, ?_, ?_⟩
      · simp only [Function.update_self, hcurrent]
      · rw [stackLow_congr hbase, hcurrent]
        exact hframe.1
      · rw [stackHigh_congr hbase hsize, hcurrent]
        exact hframe.2
    · have hsame := hafter.task_other ref href hnext
      rw [hsame] at hlive
      exact .inl ((hinv.built_outside houtside href hlive).congr (Function.update_of_ne href _ _) hsame)
  · intro ref call hcall hstage
    have hunused := hinv.unused ref call hcall hstage
    dsimp only
    rw [hafter.unused hinv hunused]
    exact hunused
  · exact hinv.apart
  · intro ref call hcall hstage
    have hsize := hinv.sized ref call hcall hstage
    have hready := hstage.resolve_right (hnone ref call hcall)
    have hunused := hinv.unused ref call ⟨hcall, by simp [hready]⟩ (hnone ref call hcall)
    dsimp only
    rw [hafter.unused hinv hunused]
    exact hsize
  · exact fun ref call hcall hstage => absurd hstage (hnone ref call hcall)

/-- The interrupt is safe exactly when the current task is not between the assignment of `TASK_READY`
and the end of `task_prepare_stack`. -/
theorem Inv.interruptSafe_iff (hinv : run.Inv image) (event : CreateEvent) :
    run.InterruptSafe image event ↔ run.OutsidePrepare event := by
  constructor
  · intro hsafe frame call hevent hcall hstage
    obtain ⟨-, hready, hnone⟩ := hinv.preparing _ _ hcall hstage
    have hbuilt := ((hsafe frame hevent).1 call.index hready).1
    rw [hnone] at hbuilt
    cases hbuilt
  · rintro houtside frame rfl
    have hcalls := fun call => houtside frame call rfl
    refine ⟨?_, ?_⟩
    · intro index hready
      exact hinv.built_outside hcalls (hinv.slot_ne_current (.inr hready)) (.inr hready)
    · intro resumed hresumed
      have hafter := hinv.interrupted frame
      cases hresumed
      simp only [next, step]
      generalize (taskScheduleFromException run.state frame true).1 = resumed at hafter ⊢
      generalize (taskScheduleFromException run.state frame true).2 = after at hafter ⊢
      rcases hafter.resumed_eq with ⟨hcurrent, rfl⟩ | ⟨hne, hlive, rfl⟩
      · rw [hcurrent, Function.update_self]
      · rw [Function.update_of_ne hne]
        exact (hinv.built_outside hcalls hne hlive).1

/-! ### Runs -/

theorem Inv.advance (hinv : run.Inv image) (hcall : run.call = some call) (daif : Nat)
    (hapart : run.EntriesApart (.advance daif)) : (run.advance image call daif).2.Inv image := by
  have hbefore : call.stage ≠ .prepare →
      ∀ before, run.call = some before → before.stage ≠ .prepare := by
    intro hstage before hsome
    rw [hcall] at hsome
    cases hsome
    exact hstage
  cases hstage : call.stage with
  | scan =>
      have hfree := hbefore (by simp [hstage])
      simp only [CreateRun.advance, hstage]
      split
      · rename_i hentry
        refine hinv.setCall hfree ?_
        rintro after ⟨⟩
        refine ⟨by simp, by simp, fun _ => ⟨hentry, ?_⟩⟩
        rintro ref other href ⟨hother, hscan⟩ hindex
        exact hapart daif call rfl hcall hstage ref other href hother hscan hindex hentry
      · split
        · refine hinv.setCall hfree ?_
          rintro after ⟨⟩
          exact ⟨by simp, by simp, fun hscan => absurd rfl hscan⟩
        · exact hinv.setCall hfree fun _ hsome => nomatch hsome
  | stackBase =>
      simp only [CreateRun.advance, hstage]
      exact hinv.assign hcall (by simp [hstage]) (by simp [hstage])
        { run.state.tasks (.slot call.index) with stackBase := (kmalloc image.toPlatform run.state.memory taskStackSize).1 } .checkBase
        rfl (by simp) (fun hready => CreateStage.noConfusion hready) _
  | checkBase =>
      have hfree := hbefore (by simp [hstage])
      simp only [CreateRun.advance, hstage]
      split
      · exact hinv.setCall hfree fun _ hsome => nomatch hsome
      · refine hinv.setCall hfree ?_
        rintro after ⟨⟩
        have htaken : run.Taken run.state.currentTask call := ⟨hcall, by simp [hstage]⟩
        have hunused := hinv.unused _ _ htaken (by simp [hstage])
        refine ⟨by simp, by simp, fun _ => ⟨hunused, ?_⟩⟩
        exact fun ref other href hother => hinv.apart ref _ other call href hother htaken
  | name =>
      simp only [CreateRun.advance, hstage]
      exact hinv.assign hcall (by simp [hstage]) (by simp [hstage])
        { run.state.tasks (.slot call.index) with name := call.name } .entry
        rfl (by simp) (fun hready => CreateStage.noConfusion hready) run.state.memory
  | entry =>
      simp only [CreateRun.advance, hstage]
      exact hinv.assign hcall (by simp [hstage]) (by simp [hstage])
        { run.state.tasks (.slot call.index) with entry := call.entry } .arg
        rfl (by simp) (fun hready => CreateStage.noConfusion hready) run.state.memory
  | arg =>
      simp only [CreateRun.advance, hstage]
      exact hinv.assign hcall (by simp [hstage]) (by simp [hstage])
        { run.state.tasks (.slot call.index) with arg := call.arg } .stackSize
        rfl (by simp) (fun hready => CreateStage.noConfusion hready) run.state.memory
  | stackSize =>
      simp only [CreateRun.advance, hstage]
      exact hinv.assign hcall (by simp [hstage]) (by simp [hstage])
        { run.state.tasks (.slot call.index) with stackSize := taskStackSize } .ready
        rfl (by simp) (fun _ => rfl) run.state.memory
  | ready =>
      simp only [CreateRun.advance, hstage]
      exact hinv.assignReady hcall hstage
  | prepare => exact hinv.prepare hcall hstage daif

theorem Inv.complete (hinv : run.Inv image) (hpossible : run.Possible image .complete) :
    (run.next image .complete).Inv image := by
  obtain ⟨hcall, -, hrunning⟩ := hpossible
  have hother : ∀ ref, ref ≠ run.state.currentTask →
      (run.next image .complete).state.tasks ref = run.state.tasks ref :=
    fun ref hne => Function.update_of_ne hne _ _
  have hcurrent : ((run.next image .complete).state.tasks run.state.currentTask).state
      = .finished := by
    simp only [next, step, taskMarkFinished, KernelState.setState, KernelState.setTask,
      Function.update_self]
  have hentry : ∀ index, ((run.next image .complete).state.tasks (.slot index)).state ≠ .finished →
      (run.next image .complete).state.tasks (.slot index) = run.state.tasks (.slot index) := by
    intro index hstate
    apply hother
    intro heq
    rw [heq] at hstate
    exact hstate hcurrent
  have htaken : ∀ {ref call}, run.Taken ref call →
      (run.next image .complete).state.tasks (.slot call.index)
        = run.state.tasks (.slot call.index) := by
    rintro ref call hcalled
    apply hother
    by_cases hstage : call.stage = .prepare
    · exact hinv.slot_ne_current (.inr (hinv.preparing ref call hcalled.1 hstage).2.1)
    · exact hinv.slot_ne_current (.inl (hinv.unused ref call hcalled hstage))
  constructor
  · exact hinv.initialized
  · exact .inr hcurrent
  · intro index hunused
    rw [hentry index (by simp [hunused])] at hunused
    exact hinv.unused_frames index hunused
  · intro ref hne hlive
    have hsame := hother ref hne
    rw [hsame] at hlive
    rcases hinv.built ref hne hlive with hbuilt | ⟨call, hsome, -⟩
    · exact .inl (hbuilt.congr rfl hsame)
    · rw [hcall] at hsome
      cases hsome
  · intro ref call hcalled hstage
    rw [htaken hcalled]
    exact hinv.unused ref call hcalled hstage
  · exact hinv.apart
  · intro ref call hcalled hstage
    rw [htaken ⟨hcalled, by rcases hstage with h | h <;> simp [h]⟩]
    exact hinv.sized ref call hcalled hstage
  · intro ref call hcalled hstage
    rw [htaken ⟨hcalled, by simp [hstage]⟩]
    exact hinv.preparing ref call hcalled hstage

theorem Inv.step (hinv : run.Inv image) {event : CreateEvent}
    (hpossible : run.Possible image event) (hapart : run.EntriesApart event)
    (houtside : run.OutsidePrepare event) : (run.next image event).Inv image := by
  cases event with
  | start name entry arg =>
      have hfree : ∀ before, run.call = some before → before.stage ≠ .prepare := by
        rw [hpossible.1]
        exact fun _ hsome => nomatch hsome
      simp only [next, CreateRun.step, taskInit_of_initialized hinv.initialized]
      refine hinv.setCall hfree ?_
      rintro after ⟨⟩
      exact ⟨by simp, by simp, fun hscan => absurd rfl hscan⟩
  | advance daif =>
      obtain ⟨call, hcall⟩ := Option.ne_none_iff_exists'.mp hpossible
      simp only [next, CreateRun.step, hcall, Option.elim_some]
      exact hinv.advance hcall daif hapart
  | interrupt frame => exact hinv.interrupt (fun call => houtside frame call rfl) hpossible
  | complete => exact hinv.complete hpossible

theorem inv_boot (image : KernelImage) (words : Nat → Nat) : (boot image words).Inv image where
  initialized := rfl
  current_live := .inl rfl
  unused_frames := fun _ _ => rfl
  built := fun ref hne hlive => by
    cases ref with
    | kernel => exact absurd rfl hne
    | slot index => rcases hlive with hlive | hlive <;> cases hlive
  unused := fun _ _ hcall _ => nomatch hcall.1
  apart := fun _ _ _ _ _ hcall _ => nomatch hcall.1
  sized := fun _ _ hcall _ => nomatch hcall
  preparing := fun _ _ hcall _ => nomatch hcall

/-! ### The call as a whole -/

/-- The run after `count` steps of the call of the current task. -/
def advanced (image : KernelImage) (daif count : Nat) (run : CreateRun) : CreateRun :=
  (fun run => run.next image (.advance daif))^[count] run

theorem advanced_succ (daif count : Nat) (hcall : run.call = some call) :
    run.advanced image daif (count + 1) = (run.advance image call daif).2.advanced image daif count := by
  rw [advanced, Function.iterate_succ_apply]
  simp only [next, step, hcall, Option.elim_some, advanced]

theorem taskUnusedSlot_eq_some {state : KernelState} {index : Fin taskMax}
    (hslot : taskUnusedSlot state = some index) :
    (state.tasks (.slot index)).state = .unused
      ∧ ∀ earlier, earlier < index → (state.tasks (.slot earlier)).state ≠ .unused := by
  obtain ⟨hunused, position, hposition, hindex, hearlier⟩ :=
    List.find?_eq_some_iff_getElem.mp hslot
  refine ⟨by simpa using hunused, fun earlier hlt => ?_⟩
  rw [List.getElem_finRange] at hindex
  subst hindex
  have hbefore := hearlier earlier.1 (by simpa [Fin.lt_def] using hlt)
  simpa using hbefore

theorem setCall_setCall (run : CreateRun) (first second : Option CreateCall) :
    (run.setCall first).setCall second = run.setCall second := by
  simp only [setCall, Function.update_idem]

theorem setCall_call (run : CreateRun) (next : Option CreateCall) : (run.setCall next).call = next :=
  run.setCall_current next

theorem advanced_scan (daif : Nat) {index : Fin taskMax}
    (hunused : (run.state.tasks (.slot index)).state = .unused)
    (hearlier : ∀ earlier, earlier < index → (run.state.tasks (.slot earlier)).state ≠ .unused) :
    ∀ (distance : Nat) {call : CreateCall}, call.stage = .scan → call.index.1 + distance = index.1 →
      (run.setCall (some call)).advanced image daif (distance + 1)
        = run.setCall (some { call with index := index, stage := .stackBase }) := by
  intro distance
  induction distance with
  | zero =>
      intro call hstage hindex
      have heq : call.index = index := Fin.ext hindex
      rw [advanced_succ daif 0 (run.setCall_call _), CreateRun.advance, hstage]
      dsimp only
      rw [show (run.setCall (some call)).state = run.state from rfl, heq, if_pos hunused]
      exact run.setCall_setCall _ _
  | succ distance ih =>
      intro call hstage hindex
      have hlt : call.index < index := by
        rw [Fin.lt_def]
        omega
      have hmore : call.index.1 + 1 < taskMax := by
        have hmax := index.2
        omega
      rw [advanced_succ daif (distance + 1) (run.setCall_call _), CreateRun.advance, hstage]
      dsimp only
      rw [show (run.setCall (some call)).state = run.state from rfl, if_neg (hearlier _ hlt),
        dif_pos hmore, setCall_setCall, ih rfl (by dsimp only; omega)]

/-- Without an unused entry the loop runs to the end of the table. -/
theorem advanced_scan_full (daif : Nat)
    (hused : ∀ index, (run.state.tasks (.slot index)).state ≠ .unused) :
    ∀ (distance : Nat) {call : CreateCall}, call.stage = .scan →
      call.index.1 + distance + 1 = taskMax →
      (run.setCall (some call)).advanced image daif (distance + 1) = run.setCall none := by
  intro distance
  induction distance with
  | zero =>
      intro call hstage hindex
      have hlast : ¬ call.index.1 + 1 < taskMax := by omega
      rw [advanced_succ daif 0 (run.setCall_call _), CreateRun.advance, hstage]
      dsimp only
      rw [show (run.setCall (some call)).state = run.state from rfl, if_neg (hused _),
        dif_neg hlast]
      exact run.setCall_setCall _ _
  | succ distance ih =>
      intro call hstage hindex
      have hmore : call.index.1 + 1 < taskMax := by omega
      rw [advanced_succ daif (distance + 1) (run.setCall_call _), CreateRun.advance, hstage]
      dsimp only
      rw [show (run.setCall (some call)).state = run.state from rfl, if_neg (hused _),
        dif_pos hmore, setCall_setCall, ih rfl (by dsimp only; omega)]

theorem advanced_add (run : CreateRun) (daif later earlier : Nat) :
    run.advanced image daif (later + earlier)
      = (run.advanced image daif earlier).advanced image daif later :=
  Function.iterate_add_apply _ _ _ _

theorem assign_call (task : Task) (stage : CreateStage) :
    (run.assign call task stage).call = some { call with stage := stage } :=
  Function.update_self _ _ _

theorem assign_tasks (task : Task) (stage : CreateStage) :
    (run.assign call task stage).state.tasks (.slot call.index) = task :=
  Function.update_self _ _ _

theorem assign_assign (first second : Task) (stage later : CreateStage) :
    (run.assign call first stage).assign { call with stage := stage } second later
      = run.assign call second later := by
  simp only [assign, setCall, KernelState.setTask, Function.update_idem]

/-- The assignments behind the test for a null stack, and `task_prepare_stack`. -/
theorem advanced_fields (daif : Nat) (task : Task) :
    ((run.assign call task .name).advanced image daif 6).state
        = taskPrepareStack image (run.state.setTask (.slot call.index)
            { task with
              name := call.name, entry := call.entry, arg := call.arg
              stackSize := taskStackSize, state := .ready }) (.slot call.index) daif
      ∧ ((run.assign call task .name).advanced image daif 6).call = none := by
  rw [advanced_succ daif 5 (assign_call _ _), advance]
  dsimp only
  rw [assign_tasks, assign_assign, advanced_succ daif 4 (assign_call _ _), advance]
  dsimp only
  rw [assign_tasks, assign_assign, advanced_succ daif 3 (assign_call _ _), advance]
  dsimp only
  rw [assign_tasks, assign_assign, advanced_succ daif 2 (assign_call _ _), advance]
  dsimp only
  rw [assign_tasks, assign_assign, advanced_succ daif 1 (assign_call _ _), advance]
  dsimp only
  rw [assign_tasks, assign_assign, advanced_succ daif 0 (assign_call _ _), advance]
  dsimp only
  refine ⟨rfl, ?_⟩
  simp only [advanced, Function.iterate_zero, id, CreateRun.call, taskPrepareStack_currentTask,
    setCall_current]

theorem advanced_stack (daif : Nat) (hstage : call.stage = .stackBase) :
    let block := kmalloc image.toPlatform run.state.memory taskStackSize
    let allocated : CreateRun := { run with state := { run.state with memory := block.2 } }
    (run.setCall (some call)).advanced image daif 2
      = if block.1 = 0 then
          (allocated.assign call
            { run.state.tasks (.slot call.index) with stackBase := 0 } .checkBase).setCall none
        else
          allocated.assign call
            { run.state.tasks (.slot call.index) with stackBase := block.1 } .name := by
  intro block allocated
  have halloc : ((run.setCall (some call)).advance image call daif).2
      = allocated.assign call
        { run.state.tasks (.slot call.index) with stackBase := block.1 } .checkBase := by
    simp only [advance, hstage, assign, setCall, Function.update_idem, KernelState.setTask, allocated,
      block]
  rw [advanced_succ daif 1 (run.setCall_call _), halloc, advanced_succ daif 0 (assign_call _ _),
    advance]
  dsimp only
  rw [assign_tasks]
  dsimp only
  by_cases hnull : block.1 = 0
  · rw [if_pos hnull, if_pos hnull, hnull]
    rfl
  · rw [if_neg hnull, if_neg hnull]
    simp only [advanced, Function.iterate_zero, id, assign, setCall, KernelState.setTask,
      Function.update_idem]

/-- A call that no interrupt disturbs does what `taskCreate` does in one step. -/
theorem advanced_eq_taskCreate (hinit : run.state.taskInitialized) (name : String)
    (entry arg daif : Nat) :
    ∃ count, ((run.next image (.start name entry arg)).advanced image daif count).state
        = (taskCreate image run.state name entry arg daif).2
      ∧ ((run.next image (.start name entry arg)).advanced image daif count).call = none := by
  have hstart : run.next image (.start name entry arg)
      = run.setCall (some ⟨0, .scan, name, entry, arg⟩) := by
    simp only [next, step, taskInit_of_initialized hinit]
    rfl
  rw [hstart]
  rcases hslot : taskUnusedSlot run.state with - | index
  · have hused : ∀ index, (run.state.tasks (.slot index)).state ≠ .unused := by
      intro index hunused
      have hnone := List.find?_eq_none.mp hslot index (List.mem_finRange index)
      simp [hunused] at hnone
    refine ⟨7 + 1, ?_, ?_⟩
    · rw [advanced_scan_full daif hused 7 rfl rfl]
      simp only [taskCreate, taskInit_of_initialized hinit, hslot]
      rfl
    · rw [advanced_scan_full daif hused 7 rfl rfl]
      exact run.setCall_call none
  · obtain ⟨hunused, hearlier⟩ := taskUnusedSlot_eq_some hslot
    have hscan := @advanced_scan image run daif index hunused hearlier index.1
      ⟨0, .scan, name, entry, arg⟩ rfl (Nat.zero_add _)
    have hstack := @advanced_stack image run ⟨index, .stackBase, name, entry, arg⟩ daif rfl
    simp only [taskCreate, taskInit_of_initialized hinit, hslot]
    by_cases hnull : (kmalloc image.toPlatform run.state.memory taskStackSize).1 = 0
    · simp only [hnull, ↓reduceIte] at hstack ⊢
      refine ⟨2 + (index.1 + 1), ?_⟩
      rw [advanced_add, hscan, hstack]
      exact ⟨rfl, setCall_call _ none⟩
    · simp only [hnull, ↓reduceIte] at hstack ⊢
      refine ⟨6 + (2 + (index.1 + 1)), ?_⟩
      rw [advanced_add, advanced_add, hscan, hstack]
      exact advanced_fields daif _

end Calls

end CreateRun

/-- In every run in which no two calls of `task_create` share a table entry, every interrupt finds the
ready entries built and returns to a frame written for the task it resumes, if and only if no
interrupt falls between the assignment of `TASK_READY` and the end of `task_prepare_stack`. In such a
run the ready entries are built in every state but for the one that is being prepared. -/
theorem task_create_interrupts_safe_iff (image : KernelImage) (words : Nat → Nat)
    (events : List CreateEvent)
    (hpossible : Machine.EveryStep (CreateRun.next image)
      (fun run event => run.Possible image event ∧ run.EntriesApart event)
      (.boot image words) events) :
    (Machine.EveryStep (CreateRun.next image) (fun run event => run.InterruptSafe image event)
        (.boot image words) events
      ↔ Machine.EveryStep (CreateRun.next image) CreateRun.OutsidePrepare (.boot image words)
        events)
      ∧ (Machine.EveryStep (CreateRun.next image) CreateRun.OutsidePrepare (.boot image words)
          events →
        Machine.Throughout (CreateRun.next image)
          (fun run => ∀ index, (run.state.tasks (.slot index)).state = .ready →
            run.Built image (.slot index) ∨ run.Preparing (.slot index))
          (.boot image words) events) := by
  have hboot := CreateRun.inv_boot image words
  refine ⟨Machine.everyStep_iff ?_ events hboot hpossible, fun houtside => ?_⟩
  · intro run event hinv ⟨hevent, hapart⟩
    exact ⟨hinv.interruptSafe_iff event, hinv.step hevent hapart⟩
  · have hinv : Machine.Throughout (CreateRun.next image) (CreateRun.Inv image) (.boot image words)
        events := by
      refine Machine.EveryStep.throughout ?_ hboot (hpossible.and houtside)
      intro run event hinv ⟨⟨hevent, hapart⟩, hout⟩
      exact hinv.step hevent hapart hout
    refine hinv.mono fun run hrun index hready => ?_
    exact hrun.built _ (hrun.slot_ne_current (.inr hready)) (.inr hready)

/-- With one call under way no entry is shared. -/
theorem CreateRun.entriesApart_of_alone {run : CreateRun} (hkernel : run.state.currentTask = .kernel)
    (halone : ∀ index, (run.calls (.slot index)).isNone) (event : CreateEvent) :
    run.EntriesApart event := by
  intro daif call _ _ _ ref other href hother
  cases ref with
  | kernel => exact absurd hkernel.symm href
  | slot index =>
      have hnone := halone index
      rw [hother] at hnone
      cases hnone

/-- `task_create` up to the assignment of `TASK_READY`. -/
def createUpToReady : List CreateEvent :=
  .start "a" 0 0 :: List.replicate 8 (.advance 0)

def CreateEvent.isInterrupt : CreateEvent → Bool
  | .interrupt _ => true
  | _ => false

/-- A timer interrupt behind `task_create` starts the new task at its initial frame. -/
theorem interrupt_after_create_safe :
    Machine.EveryStep (CreateRun.next smallImage)
      (fun run event => run.InterruptSafe smallImage event) (.boot smallImage fun _ => 0)
      (createUpToReady ++ [.advance 0, .interrupt 0x40004000]) := by
  have halone : Machine.EveryStep (CreateRun.next smallImage)
      (fun run event => run.Possible smallImage event ∧ run.state.currentTask = .kernel
        ∧ ∀ index, (run.calls (.slot index)).isNone) (.boot smallImage fun _ => 0)
      (createUpToReady ++ [.advance 0, .interrupt 0x40004000]) := by
    decide +kernel
  refine (task_create_interrupts_safe_iff smallImage (fun _ => 0) _
    (halone.mono fun run event h =>
      ⟨h.1, CreateRun.entriesApart_of_alone h.2.1 h.2.2 event⟩)).1.mpr ?_
  have houtside : Machine.EveryStep (CreateRun.next smallImage)
      (fun run event => (!event.isInterrupt || run.call.isNone) = true)
      (.boot smallImage fun _ => 0) (createUpToReady ++ [.advance 0, .interrupt 0x40004000]) := by
    decide +kernel
  refine houtside.mono ?_
  rintro run event hnone frame call rfl hcall
  rw [hcall] at hnone
  cases hnone

/-- A timer interrupt before `task_prepare_stack` returns to the stack pointer 0 that `task_init` has
left in the entry. -/
theorem interrupt_before_prepare_resumes_null :
    Machine.EveryStep (CreateRun.next smallImage) (CreateRun.Possible smallImage)
        (.boot smallImage fun _ => 0) (createUpToReady ++ [.interrupt 0x40004000])
      ∧ ((createUpToReady.foldl (CreateRun.next smallImage) (.boot smallImage fun _ => 0)).step
          smallImage (.interrupt 0x40004000)).1 = .resumed 0
      ∧ ¬ Machine.EveryStep (CreateRun.next smallImage)
        (fun run event => run.InterruptSafe smallImage event) (.boot smallImage fun _ => 0)
        (createUpToReady ++ [.interrupt 0x40004000]) := by
  refine ⟨by decide +kernel, by decide +kernel, ?_⟩
  intro hsafe
  have hbuilt := ((hsafe.at 0x40004000 rfl).1 0 (by decide +kernel)).1
  have hnone : (createUpToReady.foldl (CreateRun.next smallImage)
      (.boot smallImage fun _ => 0)).frames (.slot 0) = none := by decide +kernel
  rw [hnone] at hbuilt
  cases hbuilt

end DuckOs

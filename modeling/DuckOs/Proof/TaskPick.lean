import DuckOs.Kernel.TaskCreate
import DuckOs.Lib.CyclicScan
import DuckOs.Proof.Task

/-!
# The choice of the next task

`task_pick_next` scans `task_table` cyclically from the entry behind the current task, so no ready
entry is passed over. An entry that has been taken is never given back: how often `task_create`
succeeds is limited by the size of the table.
-/

namespace DuckOs

section Scan

variable {state after : KernelState}

/-- The scan starts behind this entry; for the kernel task that is at the first one. -/
def TaskRef.origin : TaskRef → Fin taskMax
  | .kernel => ⟨taskMax - 1, by decide⟩
  | .slot index => index

def TaskRef.index : TaskRef → Option (Fin taskMax)
  | .kernel => none
  | .slot index => some index

namespace KernelState

def origin (state : KernelState) : Fin taskMax := state.currentTask.origin

def isReady (state : KernelState) (index : Fin taskMax) : Bool :=
  (state.tasks (.slot index)).state = .ready

end KernelState

theorem taskCandidate_eq_entry (current : TaskRef) (i : Nat) :
    taskCandidate current i = CyclicScan.entry current.origin i := by
  apply Fin.ext
  cases current with
  | kernel =>
      change ((-1 + (i : Int) + 8).toNat) % 8 = (7 + i) % 8
      omega
  | slot index =>
      change (((index : Nat) + (i : Int) + 8).toNat) % 8 = ((index : Nat) + i) % 8
      omega

theorem taskPickNext_eq_scan (state : KernelState) :
    taskPickNext state = match CyclicScan.scan state.isReady state.origin with
      | some index => some (.slot index)
      | none => if state.currentTask ≠ .kernel then some .kernel else none := by
  have hcandidates : taskCandidate state.currentTask = CyclicScan.entry state.origin := by
    funext i
    exact taskCandidate_eq_entry state.currentTask i
  rw [taskPickNext, CyclicScan.scan, hcandidates]
  rfl

theorem scan_of_taskPickNext {index : Fin taskMax} (hpick : taskPickNext state = some (.slot index)) :
    CyclicScan.scan state.isReady state.origin = some index := by
  rw [taskPickNext_eq_scan] at hpick
  split at hpick
  case h_1 found hscan =>
      cases hpick
      exact hscan
  case h_2 =>
      split_ifs at hpick
      cases hpick

/-- The kernel task is picked only when no entry is ready. -/
theorem not_ready_of_taskPickNext (hpick : taskPickNext state = some .kernel) (index : Fin taskMax) :
    (state.tasks (.slot index)).state ≠ .ready := by
  rw [taskPickNext_eq_scan] at hpick
  split at hpick
  case h_1 => cases hpick
  case h_2 hscan => simpa [KernelState.isReady] using CyclicScan.scan_eq_none_iff.mp hscan index

theorem taskPickNext_congr (hcurrent : after.currentTask = state.currentTask)
    (hready : after.isReady = state.isReady) : taskPickNext after = taskPickNext state := by
  rw [taskPickNext_eq_scan, taskPickNext_eq_scan, hready, KernelState.origin, KernelState.origin,
    hcurrent]

end Scan

/-! ### What an event does -/

section Events

variable {image : KernelImage} {state after : KernelState} {event : KernelEvent}

/-- In every state of a run, whatever is called. -/
structure KernelState.Live (state : KernelState) : Prop where
  initialized : state.taskInitialized
  current_live : (state.tasks state.currentTask).state = .running
    ∨ (state.tasks state.currentTask).state = .finished

theorem KernelState.Live.current_ne_ready (hlive : state.Live) :
    (state.tasks state.currentTask).state ≠ .ready := by
  rcases hlive.current_live with hcurrent | hcurrent <;> simp [hcurrent]

theorem KernelState.Live.current_ne_unused (hlive : state.Live) :
    (state.tasks state.currentTask).state ≠ .unused := by
  rcases hlive.current_live with hcurrent | hcurrent <;> simp [hcurrent]

/-- How an event changes the states of the tasks, with the task it picks and whether it creates
one. -/
inductive TaskEffect (before after : KernelState) : Option TaskRef → Bool → Prop where
  | kept (hinit : after.taskInitialized = before.taskInitialized)
      (hcurrent : after.currentTask = before.currentTask)
      (hstates : ∀ ref, (after.tasks ref).state = (before.tasks ref).state) :
      TaskEffect before after none false
  | created (index : Fin taskMax) (hunused : (before.tasks (.slot index)).state = .unused)
      (hinit : after.taskInitialized = before.taskInitialized)
      (hcurrent : after.currentTask = before.currentTask)
      (hready : (after.tasks (.slot index)).state = .ready)
      (hothers : ∀ ref, ref ≠ .slot index → after.tasks ref = before.tasks ref) :
      TaskEffect before after none true
  | finished (hinit : after.taskInitialized = before.taskInitialized)
      (hcurrent : after.currentTask = before.currentTask)
      (hfinished : (after.tasks before.currentTask).state = .finished)
      (hothers : ∀ ref, ref ≠ before.currentTask → after.tasks ref = before.tasks ref) :
      TaskEffect before after none false
  | switched {frame resumed : Nat} {left : TaskState} {next : TaskRef}
      (hleft : left = .ready ∨ left = .finished)
      (hswitch : SwitchedTo before frame left next resumed after) :
      TaskEffect before after (some next) false

theorem setSp_state (state : KernelState) (ref other : TaskRef) (frame : Nat) :
    ((state.setSp ref frame).tasks other).state = (state.tasks other).state := by
  by_cases hother : other = ref <;> simp [KernelState.setSp, KernelState.setTask, hother]

theorem KernelState.Live.effect_schedule (hlive : state.Live) (frame : Nat) :
    TaskEffect state (state.next image (.call (.schedule frame)))
      (state.picks (.call (.schedule frame))) false := by
  have hpicks : state.picks (.call (.schedule frame))
      = taskPickNext (state.setSp state.currentTask frame) := by
    simp only [KernelState.picks, taskInit_of_initialized hlive.initialized]
  rw [hpicks]
  simp only [KernelState.next, kernelStep]
  rcases taskSchedule_cases hlive.initialized hlive.current_ne_ready frame with
    ⟨-, hpick, heq⟩ | ⟨next, hpick, hswitch⟩
  · rw [hpick, heq]
    exact .kept rfl rfl fun ref => setSp_state state state.currentTask ref frame
  · rw [hpick]
    refine .switched ?_ hswitch
    rcases hlive.current_live with hcurrent | hcurrent <;> simp [hcurrent]

theorem KernelState.Live.effect_syscall (hlive : state.Live) (level : ExceptionLevel) (frame : Nat) :
    TaskEffect state (state.next image (.call (.syscall level frame)))
      (state.picks (.call (.syscall level frame))) false := by
  have hinit := taskInit_of_initialized hlive.initialized
  simp only [KernelState.next, kernelStep, KernelState.picks, hinit, userExceptionActive]
  rcases syscallHandle_cases image state frame with
    ⟨value, console, heq, hnumber⟩ | ⟨-, hactive, heq⟩ | ⟨hnumber, hactive, heq⟩
  · rw [heq, if_neg fun hexit => hnumber hexit.1]
    exact .kept rfl rfl fun _ => rfl
  · rw [heq, if_neg fun hexit => hexit.2.1 hactive]
    exact .kept rfl rfl fun _ => rfl
  · rw [heq]
    rcases taskExit_cases hlive.initialized frame (frameX state frame 0) with
      ⟨hkernel, hexit⟩ | ⟨hkernel, next, hpick, hswitch⟩
    · rw [hexit, if_neg fun hexit => hexit.2.2 hkernel]
      exact .kept rfl rfl fun ref => setSp_state state state.currentTask ref frame
    · rw [if_pos ⟨hnumber, by simp [hactive], hkernel⟩, hpick]
      exact .switched (.inr rfl) hswitch

theorem KernelState.Live.effect_create (hlive : state.Live) (name : String)
    (entry arg daif : Nat) :
    TaskEffect state (state.next image (.call (.create name entry arg daif))) none
      (state.creates image (.call (.create name entry arg daif))) := by
  obtain ⟨hinit, hcurrent, -⟩ := taskCreate_keeps image hlive.initialized name entry arg daif
  simp only [KernelState.next, kernelStep, KernelState.creates]
  rcases taskCreate_cases image hlive.initialized name entry arg daif with
    heq | ⟨index, hunused, ⟨-, heq⟩ | ⟨-, heq⟩⟩
  · rw [heq] at hinit hcurrent ⊢
    exact .kept hinit hcurrent fun _ => rfl
  · rw [heq] at hinit hcurrent ⊢
    refine .kept hinit hcurrent fun ref => ?_
    by_cases hindex : ref = .slot index <;> simp [hindex]
  · rw [heq] at hinit hcurrent ⊢
    refine .created index hunused hinit hcurrent ?_ ?_
    · simp [createdTask]
    · exact fun ref hne => Function.update_of_ne hne _ _

theorem KernelState.Live.effect (image : KernelImage) (hlive : state.Live) (event : KernelEvent) :
    TaskEffect state (state.next image event) (state.picks event) (state.creates image event) := by
  cases event with
  | store address value => exact .kept rfl rfl fun _ => rfl
  | call call =>
      cases call with
      | create name entry arg daif => exact hlive.effect_create name entry arg daif
      | schedule frame => exact hlive.effect_schedule frame
      | syscall level frame => exact hlive.effect_syscall level frame
      | complete =>
          refine .finished rfl rfl ?_ ?_
          · simp [KernelState.next, kernelStep, taskMarkFinished, KernelState.setState,
              KernelState.setTask]
          · exact fun ref hne => Function.update_of_ne hne _ _
      | kmalloc size => exact .kept rfl rfl fun _ => rfl
      | userEnter daif => exact .kept rfl rfl fun _ => rfl
      | userReturn => exact .kept rfl rfl fun _ => rfl

variable {picked : Option TaskRef} {created : Bool}

theorem TaskEffect.live (heffect : TaskEffect state after picked created) (hlive : state.Live) :
    after.Live := by
  have hne := hlive.current_ne_unused
  cases heffect with
  | kept hinit hcurrent hstates =>
      refine ⟨hinit.trans hlive.initialized, ?_⟩
      rw [hcurrent, hstates]
      exact hlive.current_live
  | created index hunused hinit hcurrent hready hothers =>
      refine ⟨hinit.trans hlive.initialized, ?_⟩
      have hold : state.currentTask ≠ .slot index := by
        intro heq
        exact hne (by rw [heq]; exact hunused)
      rw [hcurrent, hothers _ hold]
      exact hlive.current_live
  | finished hinit hcurrent hfinished hothers =>
      refine ⟨hinit.trans hlive.initialized, .inr ?_⟩
      rw [hcurrent]
      exact hfinished
  | switched hleft hswitch =>
      refine ⟨?_, .inl ?_⟩
      · rw [hswitch.after_eq]
        exact hlive.initialized
      · rw [hswitch.current_eq, hswitch.tasks_next]

/-- The task that is picked becomes the current one; otherwise the current one stays. -/
theorem TaskEffect.current_eq (heffect : TaskEffect state after picked created) :
    after.currentTask = picked.getD state.currentTask := by
  cases heffect with
  | kept _ hcurrent _ => exact hcurrent
  | created _ _ _ hcurrent _ _ => exact hcurrent
  | finished _ hcurrent _ _ => exact hcurrent
  | switched _ hswitch => exact hswitch.current_eq

theorem live_boot (image : KernelImage) (words : Nat → Nat) : (KernelState.boot image words).Live :=
  ⟨rfl, .inl rfl⟩

theorem KernelState.Live.run (image : KernelImage) (hlive : state.Live) :
    ∀ events : List KernelEvent, (state.after image events).Live := by
  intro events
  induction events generalizing state with
  | nil => exact hlive
  | cons event rest ih => exact ih ((hlive.effect image event).live hlive)

/-- Whatever the event has done before it calls `task_pick_next`, the choice is that of the state
before it. -/
theorem KernelState.Live.taskPickNext_of_picks (hlive : state.Live) {next : TaskRef}
    (hpicks : state.picks event = some next) : taskPickNext state = some next := by
  have hinit := taskInit_of_initialized hlive.initialized
  cases event with
  | store address value => cases hpicks
  | call call =>
      cases call with
      | schedule frame =>
          simp only [KernelState.picks, hinit] at hpicks
          rw [← hpicks]
          apply taskPickNext_congr
          · rfl
          · funext index
            simp only [KernelState.isReady, setSp_state]
      | syscall level frame =>
          simp only [KernelState.picks, hinit] at hpicks
          split_ifs at hpicks with hexit
          rw [← hpicks]
          apply taskPickNext_congr
          · rfl
          · funext index
            by_cases hindex : TaskRef.slot index = state.currentTask
            · have hcurrent := hlive.current_ne_ready
              rw [← hindex] at hcurrent
              simp [KernelState.isReady, taskMarkFinished, KernelState.setState,
                KernelState.setTask, hindex.symm, hcurrent]
            · simp [KernelState.isReady, taskMarkFinished, KernelState.setState, KernelState.setSp,
                KernelState.setTask, hindex]
      | create name entry arg daif => cases hpicks
      | kmalloc size => cases hpicks
      | complete => cases hpicks
      | userEnter daif => cases hpicks
      | userReturn => cases hpicks

/-! ### No task is passed over -/

namespace CreateRun

variable {run : CreateRun}

/-- A call under way has not taken the entry of the task that makes it. -/
structure Steady (run : CreateRun) : Prop where
  live : run.state.Live
  others : ∀ ref call, run.calls ref = some call → call.stage ≠ .scan → .slot call.index ≠ ref

theorem steady_boot (image : KernelImage) (words : Nat → Nat) : (boot image words).Steady :=
  ⟨live_boot image words, fun _ _ hcall => nomatch hcall⟩

/-- A step of the current task that leaves its own table entry alone. -/
theorem Steady.update (hsteady : run.Steady) {after : CreateRun}
    (hinit : after.state.taskInitialized = run.state.taskInitialized)
    (hcurrent : after.state.currentTask = run.state.currentTask)
    (htask : after.state.tasks run.state.currentTask = run.state.tasks run.state.currentTask)
    (hothers : ∀ ref, ref ≠ run.state.currentTask → after.calls ref = run.calls ref)
    (hown : ∀ call, after.calls run.state.currentTask = some call → call.stage ≠ .scan →
      .slot call.index ≠ run.state.currentTask) :
    after.Steady ∧ after.state.currentTask = run.state.currentTask := by
  refine ⟨⟨⟨hinit.trans hsteady.live.initialized, ?_⟩, ?_⟩, hcurrent⟩
  · rw [hcurrent, htask]
    exact hsteady.live.current_live
  · intro ref call hcall hstage
    by_cases href : ref = run.state.currentTask
    · rw [href] at hcall ⊢
      exact hown call hcall hstage
    · rw [hothers ref href] at hcall
      exact hsteady.others ref call hcall hstage

theorem Steady.setCall (hsteady : run.Steady) {next : Option CreateCall}
    (hnext : ∀ call, next = some call → call.stage ≠ .scan →
      .slot call.index ≠ run.state.currentTask) :
    (run.setCall next).Steady ∧ (run.setCall next).state.currentTask = run.state.currentTask := by
  refine hsteady.update rfl rfl rfl ?_ ?_
  · exact fun ref href => Function.update_of_ne href _ _
  · intro call hcall
    simp only [CreateRun.setCall, Function.update_self] at hcall
    exact hnext call hcall

/-- The call assigns to its entry, and the state may change outside the tasks. -/
theorem Steady.assign (hsteady : run.Steady) {call : CreateCall}
    (hne : .slot call.index ≠ run.state.currentTask) (task : Task) (stage : CreateStage)
    (memory : MemoryState) :
    let assigned := run.assign call task stage
    let after := { assigned with state := { assigned.state with memory := memory } }
    after.Steady ∧ after.state.currentTask = run.state.currentTask := by
  refine hsteady.update rfl rfl ?_ ?_ ?_
  · exact Function.update_of_ne hne.symm _ _
  · exact fun ref href => Function.update_of_ne href _ _
  · intro next hnext _
    simp only [CreateRun.assign, CreateRun.setCall, Function.update_self, Option.some.injEq] at hnext
    rw [← hnext]
    exact hne

theorem Steady.advance (image : KernelImage) (hsteady : run.Steady) {call : CreateCall}
    (hcall : run.call = some call) (daif : Nat) :
    (run.advance image call daif).2.Steady
      ∧ (run.advance image call daif).2.state.currentTask = run.state.currentTask := by
  have hne := hsteady.others run.state.currentTask call hcall
  cases hstage : call.stage with
  | scan =>
      simp only [CreateRun.advance, hstage]
      split_ifs with hunused hmore
      · refine hsteady.setCall ?_
        rintro next ⟨⟩ - heq
        have hcurrent := hsteady.live.current_ne_unused
        rw [← heq] at hcurrent
        exact hcurrent hunused
      · refine hsteady.setCall ?_
        rintro next ⟨⟩ hscan
        exact absurd rfl hscan
      · exact hsteady.setCall fun next hnext => nomatch hnext
  | checkBase =>
      simp only [CreateRun.advance, hstage]
      split_ifs
      · exact hsteady.setCall fun next hnext => nomatch hnext
      · refine hsteady.setCall ?_
        rintro next ⟨⟩ -
        exact hne (by simp [hstage])
  | prepare =>
      simp only [CreateRun.advance, hstage]
      have hslot := (hne (by simp [hstage])).symm
      refine hsteady.update ?_ ?_ ?_ ?_ ?_
      · simp [taskPrepareStack, KernelState.setSp, KernelState.setTask]
      · simp [taskPrepareStack, KernelState.setSp, KernelState.setTask]
      · simp [taskPrepareStack, KernelState.setSp, KernelState.setTask, hslot]
      · exact fun ref href => Function.update_of_ne href _ _
      · intro next hnext
        simp [CreateRun.setCall] at hnext
  | stackBase =>
      simp only [CreateRun.advance, hstage]
      exact hsteady.assign (hne (by simp [hstage])) _ _ _
  | name =>
      simp only [CreateRun.advance, hstage]
      exact hsteady.assign (hne (by simp [hstage])) _ _ run.state.memory
  | entry =>
      simp only [CreateRun.advance, hstage]
      exact hsteady.assign (hne (by simp [hstage])) _ _ run.state.memory
  | arg =>
      simp only [CreateRun.advance, hstage]
      exact hsteady.assign (hne (by simp [hstage])) _ _ run.state.memory
  | stackSize =>
      simp only [CreateRun.advance, hstage]
      exact hsteady.assign (hne (by simp [hstage])) _ _ run.state.memory
  | ready =>
      simp only [CreateRun.advance, hstage]
      exact hsteady.assign (hne (by simp [hstage])) _ _ run.state.memory

/-- A call to the kernel, which leaves the calls under way alone. -/
theorem Steady.kernel (image : KernelImage) (hsteady : run.Steady) (event : KernelEvent)
    (frames : TaskRef → Option Nat) :
    let after : CreateRun := ⟨run.state.next image event, run.calls, frames⟩
    after.Steady ∧ after.state.currentTask = (run.state.picks event).getD run.state.currentTask := by
  have heffect := hsteady.live.effect image event
  exact ⟨⟨heffect.live hsteady.live, hsteady.others⟩, heffect.current_eq⟩

theorem Steady.nextEvent (image : KernelImage) (hsteady : run.Steady) (event : SchedulerEvent) :
    (run.nextEvent image event).Steady
      ∧ (run.nextEvent image event).state.currentTask
        = (run.picks event).getD run.state.currentTask := by
  cases event with
  | kernel event => exact hsteady.kernel image event run.frames
  | create event =>
      cases event with
      | start name entry arg =>
          have hinit := taskInit_of_initialized hsteady.live.initialized
          simp only [CreateRun.nextEvent, CreateRun.next, CreateRun.step, hinit]
          refine hsteady.setCall ?_
          rintro call ⟨⟩ hscan
          exact absurd rfl hscan
      | advance daif =>
          simp only [CreateRun.nextEvent, CreateRun.next, CreateRun.step]
          cases hcall : run.call with
          | none => exact ⟨hsteady, rfl⟩
          | some call => exact hsteady.advance image hcall daif
      | interrupt frame => exact hsteady.kernel image (.call (.schedule frame)) _
      | complete => exact hsteady.kernel image (.call .complete) run.frames

theorem Steady.taskPickNext_of_picks (hsteady : run.Steady) {event : SchedulerEvent}
    {next : TaskRef} (hpicks : run.picks event = some next) :
    taskPickNext run.state = some next := by
  cases event with
  | kernel event => exact hsteady.live.taskPickNext_of_picks hpicks
  | create event =>
      cases event with
      | interrupt frame =>
          have hschedule : run.state.picks (.call (.schedule frame)) = some next := hpicks
          exact hsteady.live.taskPickNext_of_picks hschedule
      | start name entry arg => cases hpicks
      | advance daif => cases hpicks
      | complete => cases hpicks

/-- The selections of a run are cyclic scans. -/
theorem scans (image : KernelImage) :
    CyclicScan.Scans (nextEvent image) Steady (fun run => run.state.origin) isReady
      (fun run event => (run.picks event).bind TaskRef.index) where
  inv_next := fun run event hsteady => (hsteady.nextEvent image event).1
  scan_eq := by
    intro run event found hsteady hfinds
    obtain ⟨next, hpicks, hindex⟩ := Option.bind_eq_some_iff.mp hfinds
    cases next with
    | kernel => cases hindex
    | slot index =>
        cases hindex
        exact scan_of_taskPickNext (hsteady.taskPickNext_of_picks hpicks)
  origin_found := by
    intro run event found hsteady hfinds
    obtain ⟨next, hpicks, hindex⟩ := Option.bind_eq_some_iff.mp hfinds
    cases next with
    | kernel => cases hindex
    | slot index =>
        cases hindex
        rw [KernelState.origin, (hsteady.nextEvent image event).2, hpicks]
        rfl
  origin_kept := by
    intro run event target hsteady hfinds hready
    cases hpicks : run.picks event with
    | none =>
        rw [KernelState.origin, (hsteady.nextEvent image event).2, hpicks]
        rfl
    | some next =>
        cases next with
        | kernel =>
            have hnone := not_ready_of_taskPickNext (hsteady.taskPickNext_of_picks hpicks) target
            exact absurd (of_decide_eq_true hready) hnone
        | slot index =>
            rw [hpicks] at hfinds
            cases hfinds

end CreateRun

/-- In every run: the kernel task is picked only when no table entry is ready, and between two
selections of the same entry no other one is ready all the time and not picked. -/
theorem no_task_passed_over (image : KernelImage) (words : Nat → Nat)
    (before : List SchedulerEvent) (first : SchedulerEvent) :
    (((CreateRun.boot image words).after image before).picks first = some .kernel →
        ∀ index, (((CreateRun.boot image words).after image before).state.tasks (.slot index)).state
          ≠ .ready)
      ∧ ∀ picked, ((CreateRun.boot image words).after image before).picks first
          = some (.slot picked) →
        ∀ between second,
          ((CreateRun.boot image words).after image (before ++ first :: between)).picks second
              = some (.slot picked) →
            ∀ waiting, waiting ≠ picked →
              ¬ ((CreateRun.boot image words).after image (before ++ [first])).PassesOver image
                between waiting := by
  have hscans := CreateRun.scans image
  have hsteady : ((CreateRun.boot image words).after image before).Steady :=
    hscans.inv_foldl before (CreateRun.steady_boot image words)
  refine ⟨fun hkernel => not_ready_of_taskPickNext (hsteady.taskPickNext_of_picks hkernel), ?_⟩
  intro picked hfirst between second hsecond waiting hne hover
  have hsecond' : (between.foldl (CreateRun.nextEvent image) (((CreateRun.boot image words).after image
      before).nextEvent image first)).picks second = some (.slot picked) := by
    simpa [CreateRun.after] using hsecond
  rw [CreateRun.after, List.foldl_append] at hover
  refine @CyclicScan.Scans.not_passed_over _ _ _ _ _ _ _ _ waiting hscans _ first second between picked
    hsteady (by simp [hfirst, TaskRef.index]) (by simp [hsecond', TaskRef.index]) hne ⟨hover.ready, ?_⟩
  refine hover.unpicked.mono fun run event hunpicked hfinds => hunpicked ?_
  obtain ⟨next, hpicks, hindex⟩ := Option.bind_eq_some_iff.mp hfinds
  cases next with
  | kernel => cases hindex
  | slot index =>
      cases hindex
      exact hpicks

/-- Two new tasks take turns. -/
theorem no_task_passed_over_two_tasks :
    ¬ ((CreateRun.boot smallImage fun _ => 0).after smallImage
      [.kernel (.call (.create "a" 0 0 0)), .kernel (.call (.create "b" 0 0 0)),
        .create (.interrupt 0x40004000)]).PassesOver smallImage
          [.kernel (.call (.schedule 0x40009000))] 1 :=
  (no_task_passed_over smallImage (fun _ => 0)
    [.kernel (.call (.create "a" 0 0 0)), .kernel (.call (.create "b" 0 0 0))]
    (.create (.interrupt 0x40004000))).2 0 (by decide +kernel)
    [.kernel (.call (.schedule 0x40009000))] (.create (.interrupt 0x4000d000))
    (by decide +kernel) 1 (by decide)

/-! ### Table entries that are taken -/

namespace KernelState

/-- The table entries that have been taken, whether their tasks have finished or not. -/
def taken (state : KernelState) : Finset (Fin taskMax) :=
  Finset.univ.filter fun index => (state.tasks (.slot index)).state ≠ .unused

theorem mem_taken {index : Fin taskMax} :
    index ∈ state.taken ↔ (state.tasks (.slot index)).state ≠ .unused := by
  simp [taken]

theorem card_taken_le : state.taken.card ≤ taskMax := by
  simpa using state.taken.card_le_univ

theorem card_taken_boot (image : KernelImage) (words : Nat → Nat) :
    (boot image words).taken.card = 0 := by
  rw [Finset.card_eq_zero, taken, Finset.filter_eq_empty_iff]
  exact fun index _ hused => hused rfl

end KernelState

/-- No entry is given back, and only creation takes one. -/
theorem TaskEffect.card_taken (heffect : TaskEffect state after picked created) (hlive : state.Live) :
    after.taken.card = state.taken.card + (if created then 1 else 0) := by
  have hsame : (∀ index, (after.tasks (.slot index)).state = .unused
      ↔ (state.tasks (.slot index)).state = .unused) → after.taken = state.taken := by
    intro hiff
    ext index
    rw [KernelState.mem_taken, KernelState.mem_taken, Ne, hiff index]
  cases heffect with
  | kept hinit hcurrent hstates =>
      rw [hsame fun index => by rw [hstates]]
      rfl
  | created index hunused hinit hcurrent hready hothers =>
      have hinsert : after.taken = insert index state.taken := by
        ext other
        rw [Finset.mem_insert, KernelState.mem_taken, KernelState.mem_taken]
        by_cases hother : other = index
        · simp [hother, hready]
        · rw [hothers _ fun heq => hother (TaskRef.slot.inj heq)]
          simp [hother]
      rw [hinsert, Finset.card_insert_of_notMem]
      · rfl
      · exact fun hmem => KernelState.mem_taken.mp hmem hunused
  | finished hinit hcurrent hfinished hothers =>
      rw [hsame fun index => ?_]
      · rfl
      · by_cases hindex : TaskRef.slot index = state.currentTask
        · rw [hindex, hfinished]
          exact iff_of_false (by decide) hlive.current_ne_unused
        · rw [hothers _ hindex]
  | @switched frame resumed left next hleft hswitch =>
      rw [hsame fun index => ?_]
      · rfl
      · by_cases hnext : TaskRef.slot index = next
        · have hready : (state.tasks next).state = .ready := by
            rcases hswitch.next_live with hready | hkernel
            · exact hready
            · rw [hkernel] at hnext
              cases hnext
          rw [hnext, hswitch.tasks_next, hready]
          exact iff_of_false (by simp) (by simp)
        · by_cases hindex : TaskRef.slot index = state.currentTask
          · rw [hindex, hswitch.tasks_current]
            refine iff_of_false ?_ hlive.current_ne_unused
            rcases hleft with hleft | hleft <;> simp [hleft]
          · rw [hswitch.tasks_of_ne hnext hindex]

theorem KernelState.Live.card_taken_after (image : KernelImage) (hlive : state.Live) :
    ∀ events : List KernelEvent,
      (state.after image events).taken.card = state.taken.card + state.createdCount image events := by
  intro events
  induction events generalizing state with
  | nil => rfl
  | cons event rest ih =>
      have heffect := hlive.effect image event
      calc ((state.next image event).after image rest).taken.card
          = (state.next image event).taken.card
            + (state.next image event).createdCount image rest := ih (heffect.live hlive)
        _ = state.taken.card + state.createdCount image (event :: rest) := by
          rw [heffect.card_taken hlive, KernelState.createdCount, Nat.add_assoc]

theorem taskUnusedSlot_eq_none_iff : taskUnusedSlot state = none ↔ taskMax ≤ state.taken.card := by
  have hall : taskUnusedSlot state = none ↔ ∀ index, index ∈ state.taken := by
    simp [taskUnusedSlot, KernelState.mem_taken]
  rw [hall]
  constructor
  · intro hmem
    rw [Finset.eq_univ_of_forall hmem, Finset.card_univ, Fintype.card_fin]
  · intro hle index
    have huniv : state.taken = Finset.univ := by
      rw [← Finset.card_eq_iff_eq_univ, Fintype.card_fin]
      exact Nat.le_antisymm KernelState.card_taken_le hle
    rw [huniv]
    exact Finset.mem_univ index

/-- In every run: with memory for a stack, `task_create` returns a ready task exactly when fewer than
`TASK_MAX` tasks have been created so far, whether they have finished or not. -/
theorem task_create_ready_iff (image : KernelImage) (words : Nat → Nat) (events : List KernelEvent)
    (name : String) (entry arg daif : Nat)
    (hmemory : (kmalloc image.toPlatform ((KernelState.boot image words).after image events).memory
      taskStackSize).1 ≠ 0) :
    (∃ index, (taskCreate image ((KernelState.boot image words).after image events) name entry arg
          daif).1 = some index
        ∧ ((taskCreate image ((KernelState.boot image words).after image events) name entry arg
          daif).2.tasks (.slot index)).state = .ready)
      ↔ (KernelState.boot image words).createdCount image events < taskMax := by
  have hboot := live_boot image words
  have hlive := hboot.run image events
  have hcount := hboot.card_taken_after image events
  rw [KernelState.card_taken_boot, Nat.zero_add] at hcount
  rw [← hcount, ← Nat.not_le, ← taskUnusedSlot_eq_none_iff]
  constructor
  · rintro ⟨index, hcreated, -⟩ hnone
    simp only [taskCreate, taskInit_of_initialized hlive.initialized, hnone] at hcreated
    cases hcreated
  · intro hslot
    obtain ⟨index, hindex⟩ := Option.ne_none_iff_exists'.mp hslot
    refine ⟨index, ?_⟩
    simp [taskCreate, taskInit_of_initialized hlive.initialized, hindex, hmemory, taskPrepareStack,
      KernelState.setSp, KernelState.setTask]

end Events

/-- A task is created, runs and finishes. -/
def oneTask : List KernelEvent :=
  [.call (.create "a" 0 0 0), .call (.schedule 0x40004000), .call .complete, .call (.schedule 0x40009000)]

theorem task_create_ready_after_one :
    (((KernelState.boot smallImage fun _ => 0).after smallImage oneTask).tasks (.slot 0)).state = .finished
      ∧ ∃ index, (taskCreate smallImage ((KernelState.boot smallImage fun _ => 0).after smallImage oneTask)
          "b" 0 0 0).1 = some index
        ∧ ((taskCreate smallImage ((KernelState.boot smallImage fun _ => 0).after smallImage oneTask)
          "b" 0 0 0).2.tasks (.slot index)).state = .ready :=
  ⟨by decide +kernel,
    (task_create_ready_iff smallImage (fun _ => 0) oneTask "b" 0 0 0 (by decide +kernel)).mpr
      (by decide +kernel)⟩

/-- A board with 512 KiB of RAM and the kernel in its first five pages. -/
def largeImage : KernelImage where
  ramSize := 0x80000
  kernelStart := 0x40000000
  kernelEnd := 0x40005000
  ramSize_pos := by decide
  ramSize_dvd := by decide
  ramEnd_lt := by decide
  kernelStart_ge := platformGetRamBase_le_start
  kernelEnd_ge := smallImage.kernelEnd_ge
  kernelEnd_le := by decide
  taskTrampoline := 0x40000100
  archUserResumeEl1 := 0x40000200
  kernelEnd_dvd := smallImage.kernelEnd_dvd
  bootStack_le := smallImage.bootStack_le

/-- Eight tasks are created, run and finish. -/
def eightTasks : List KernelEvent :=
  List.replicate 8 (.call (.create "a" 0 0 0))
    ++ (List.replicate 8 [.call (.schedule 0x40004000), .call .complete]).flatten
    ++ [.call (.schedule 0x40004000)]

/-- No task is active then, and memory is left, but there is no entry for a ninth task. -/
theorem task_create_fails_after_eight :
    (taskActiveCount ((KernelState.boot largeImage fun _ => 0).after largeImage eightTasks)).1 = 0
      ∧ (kmalloc largeImage.toPlatform
        ((KernelState.boot largeImage fun _ => 0).after largeImage eightTasks).memory
        taskStackSize).1 ≠ 0
      ∧ (taskCreate largeImage ((KernelState.boot largeImage fun _ => 0).after largeImage eightTasks)
        "a" 0 0 0).1 = none := by
  refine ⟨?_, ?_, ?_⟩
  all_goals decide +kernel

end DuckOs

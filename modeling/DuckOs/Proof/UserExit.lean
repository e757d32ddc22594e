import DuckOs.Lib.Machine
import DuckOs.Proof.Task

/-!
# The end of an EL0 program

`syscall_handle` decides from `user_active` alone whether `SYS_EXIT` ends the EL0 program or the
current task. The flag is set as long as the program runs, so exits are attributed to their callers
exactly in the runs where no task exits from EL1 meanwhile.
-/

namespace DuckOs

section UserExit

variable {image : KernelImage} {run : UserRun} {call : KernelCall} {frame : Nat}

/-- In every state of a run without exits from EL1 during a program. -/
structure UserInv (run : UserRun) : Prop where
  scheduler : ∃ lastFrame, SchedulerInv run.state lastFrame
  active : ∀ owner, run.phase = .inEl0 owner → run.state.userActive = true

theorem UserInv.scheduler_step (hinv : UserInv run) (hcall : call.Possible run.state) :
    ∃ lastFrame, SchedulerInv (run.step image call).state lastFrame := by
  obtain ⟨lastFrame, hscheduler⟩ := hinv.scheduler
  have hrun : SchedulerInv (SchedulerRun.mk run.state lastFrame).state
    (SchedulerRun.mk run.state lastFrame).lastFrame := hscheduler
  exact ⟨_, (hrun.step image hcall).inv⟩

theorem taskExit_userActive (hinv : UserInv run) (status : Nat) :
    (taskExitFromException run.state frame status).2.userActive = run.state.userActive := by
  obtain ⟨lastFrame, hscheduler⟩ := hinv.scheduler
  rcases taskExit_cases hscheduler.initialized frame status with ⟨-, heq⟩ | ⟨-, next, -, hswitch⟩
  · rw [heq]
    rfl
  · rw [hswitch.after_eq]

theorem taskSchedule_userActive (hinv : UserInv run) :
    (taskScheduleFromException run.state frame true).2.userActive = run.state.userActive := by
  obtain ⟨lastFrame, hscheduler⟩ := hinv.scheduler
  rcases taskSchedule_cases hscheduler.initialized hscheduler.current_ne_ready frame with
    ⟨-, -, heq⟩ | ⟨next, -, hswitch⟩
  · rw [heq]
    rfl
  · rw [hswitch.after_eq]

theorem taskCreate_userActive (hinv : UserInv run) (name : String) (entry arg daif : Nat) :
    (taskCreate image run.state name entry arg daif).2.userActive = run.state.userActive := by
  obtain ⟨lastFrame, hscheduler⟩ := hinv.scheduler
  exact (taskCreate_keeps image hscheduler.initialized name entry arg daif).2.2

/-- An exit that goes to `task_exit_from_exception`, made by a table task. -/
theorem exitAttributed_el1 (hinv : UserInv run) (hexit : frameX run.state frame 8 = sysExit)
    (howner : run.phase ≠ .inEl0 run.state.currentTask) (hactive : run.state.userActive = false) :
    run.ExitAttributed image frame .el1 := by
  obtain ⟨lastFrame, hscheduler⟩ := hinv.scheduler
  have hhandle : syscallHandle image run.state frame
      = taskExitFromException run.state frame (frameX run.state frame 0) := by
    rcases syscallHandle_cases image run.state frame with
      ⟨_, _, -, hne⟩ | ⟨-, hset, -⟩ | ⟨-, -, heq⟩
    · exact absurd hexit hne
    · rw [hactive] at hset
      cases hset
    · exact heq
  simp only [UserRun.ExitAttributed, kernelStep, hhandle]
  refine ⟨taskExit_userActive hinv _, fun hkernel => ?_⟩
  rcases taskExit_cases hscheduler.initialized frame (frameX run.state frame 0) with
    ⟨habsurd, -⟩ | ⟨-, next, -, hswitch⟩
  · exact absurd habsurd hkernel
  · refine ⟨fun ref => ?_, ?_, fun owner hphase => ⟨?_, ?_⟩⟩
    · constructor
      · intro hfinished
        by_cases hcurrent : ref = run.state.currentTask
        · exact .inr hcurrent
        · have hnext : ref ≠ next := by
            rintro rfl
            rw [hswitch.tasks_next] at hfinished
            cases hfinished
          rw [hswitch.tasks_of_ne hnext hcurrent] at hfinished
          exact .inl hfinished
      · rintro (hfinished | rfl)
        · exact hscheduler.switch_finished hswitch (fun _ => rfl) ref hfinished
        · rw [hswitch.tasks_current]
    · rw [hswitch.current_eq]
      exact hswitch.next_ne
    · have hcurrent : owner ≠ run.state.currentTask := by
        rintro rfl
        exact howner hphase
      by_cases hnext : owner = next
      · rw [hnext, hswitch.tasks_next]
      · rw [hswitch.tasks_of_ne hnext hcurrent]
    · intro offset _
      rw [hswitch.after_eq]

/-- An exit that goes to `user_exit_from_exception`. -/
theorem exitAttributed_el0 (hexit : frameX run.state frame 8 = sysExit)
    (hactive : run.state.userActive = true) : run.ExitAttributed image frame .el0 := by
  rcases syscallHandle_cases image run.state frame with
    ⟨_, _, -, hne⟩ | ⟨-, -, heq⟩ | ⟨-, hunset, -⟩
  · exact absurd hexit hne
  · simp only [UserRun.ExitAttributed, kernelStep, heq]
    refine ⟨trivial, ?_, rfl, rfl, rfl⟩
    simp [KernelState.setWord, TrapFrame.elrOffset, TrapFrame.spsrOffset]
  · rw [hactive] at hunset
    cases hunset

/-- An exit from EL1 that goes to `user_exit_from_exception` clears the flag of the program. -/
theorem not_exitAttributed_el1 (hexit : frameX run.state frame 8 = sysExit)
    (hactive : run.state.userActive = true) : ¬ run.ExitAttributed image frame .el1 := by
  rintro ⟨hkept, -⟩
  rcases syscallHandle_cases image run.state frame with
    ⟨_, _, -, hne⟩ | ⟨-, -, heq⟩ | ⟨-, hunset, -⟩
  · exact hne hexit
  · simp only [kernelStep, heq, hactive] at hkept
    cases hkept
  · rw [hactive] at hunset
    cases hunset

theorem exitsAttributed_iff (hinv : UserInv run) (hpossible : run.Possible call) :
    run.ExitsAttributed image call ↔ run.ExitsAlone call := by
  constructor
  · rintro hattributed frame rfl hexit
    by_contra hactive
    exact not_exitAttributed_el1 hexit (by simpa using hactive)
      (hattributed .el1 frame rfl hexit)
  · rintro halone level frame rfl hexit
    cases level with
    | el0 => exact exitAttributed_el0 hexit (hinv.active _ hpossible.2)
    | el1 => exact exitAttributed_el1 hinv hexit hpossible.2 (halone frame rfl hexit)

/-! ### Runs -/

/-- The flag is set while the program runs: only the program's own exit clears it. -/
theorem UserInv.active_step (hinv : UserInv run) (hpossible : run.Possible call)
    (halone : run.ExitsAlone call) (owner : TaskRef)
    (hphase : (run.step image call).phase = .inEl0 owner) :
    (run.step image call).state.userActive = true := by
  cases call with
  | create name entry arg daif =>
      exact (taskCreate_userActive hinv name entry arg daif).trans (hinv.active owner hphase)
  | kmalloc size => exact hinv.active owner hphase
  | schedule frame => exact (taskSchedule_userActive hinv).trans (hinv.active owner hphase)
  | complete => exact hinv.active owner hphase
  | userEnter daif => rfl
  | userReturn => cases hphase
  | syscall level frame =>
      have hbefore : run.state.userActive = true := by
        cases level with
        | el0 => exact hinv.active _ hpossible.2
        | el1 => exact hinv.active owner hphase
      rcases syscallHandle_cases image run.state frame with
        ⟨value, console, heq, -⟩ | ⟨hexit, -, heq⟩ | ⟨-, hunset, -⟩
      · simp only [UserRun.step, kernelStep, heq]
        exact hbefore
      · cases level with
        | el0 =>
            have hrunning : (run.state.tasks run.state.currentTask).state = .running := hpossible.1
            simp [UserRun.step, kernelStep, heq, UserRun.phaseAfter, hpossible.2,
              KernelState.setWord, hrunning, hbefore] at hphase
        | el1 =>
            have hunset := halone frame rfl hexit
            rw [hbefore] at hunset
            cases hunset
      · rw [hbefore] at hunset
        cases hunset

theorem UserInv.next (hinv : UserInv run) {event : KernelEvent} (hpossible : event.Meets run.Possible)
    (halone : event.Meets run.ExitsAlone) : UserInv (run.next image event) := by
  cases event with
  | call call =>
      exact {
        scheduler := hinv.scheduler_step hpossible.1
        active := hinv.active_step hpossible halone }
  | store address value =>
      obtain ⟨lastFrame, hscheduler⟩ := hinv.scheduler
      exact ⟨⟨lastFrame, hscheduler.setWord address value⟩, hinv.active⟩

theorem userInv_boot (image : KernelImage) (words : Nat → Nat) : UserInv (.boot image words) where
  scheduler := ⟨_, schedulerInv_boot image words⟩
  active := fun owner hphase => by cases hphase

end UserExit

/-- In every run, every `SYS_EXIT` is attributed to its caller if and only if none is taken from EL1
while an EL0 program is active. -/
theorem exits_attributed_iff_alone (image : KernelImage) (words : Nat → Nat)
    (events : List KernelEvent)
    (hevents : Machine.EveryStep (UserRun.next image) (fun run event => event.Meets run.Possible)
      (.boot image words) events) :
    Machine.EveryStep (UserRun.next image) (fun run event => event.Meets (run.ExitsAttributed image))
        (.boot image words) events
      ↔ Machine.EveryStep (UserRun.next image) (fun run event => event.Meets run.ExitsAlone)
        (.boot image words) events := by
  refine Machine.everyStep_iff (fun run event hinv hpossible => ⟨?_, hinv.next hpossible⟩) events
    (userInv_boot image words) hevents
  cases event with
  | call call => exact exitsAttributed_iff hinv hpossible
  | store address value => exact Iff.rfl

/-- `SYS_EXIT` in `x8` of the frame. -/
def exitNumber (frame : Nat) : KernelEvent := .store (frame + 8 * 8) sysExit

/-- Under the kernel task, a program runs, is preempted by a new task and exits. -/
def programRun : List KernelEvent :=
  [.call (.create "a" 0 0 0), .call (.userEnter 0), .call (.schedule 0x40004000),
    .call (.schedule 0x40009000), exitNumber 0x40004000, .call (.syscall .el0 0x40004000)]

/-- Here the new task exits while the program runs. -/
def taskExitRun : List KernelEvent :=
  [.call (.create "a" 0 0 0), .call (.userEnter 0), .call (.schedule 0x40004000), exitNumber 0x40009000,
    .call (.syscall .el1 0x40009000)]

theorem exits_attributed_program :
    Machine.EveryStep (UserRun.next smallImage)
      (fun run event => event.Meets (run.ExitsAttributed smallImage)) (.boot smallImage fun _ => 0)
      programRun := by
  refine (exits_attributed_iff_alone smallImage (fun _ => 0) programRun ?_).mpr ?_
  · exact ⟨⟨trivial, trivial⟩, ⟨trivial, by decide⟩, ⟨trivial, trivial⟩, ⟨trivial, trivial⟩, trivial,
      ⟨by decide +kernel, by decide +kernel⟩, trivial⟩
  · refine ⟨?_, ?_, ?_, ?_, trivial, ?_, trivial⟩ <;> rintro frame ⟨⟩

/-- The exit of a task from EL1 is taken for the end of the EL0 program. -/
theorem task_exit_ends_program :
    Machine.EveryStep (UserRun.next smallImage) (fun run event => event.Meets run.Possible)
        (.boot smallImage fun _ => 0) taskExitRun
      ∧ ¬ Machine.EveryStep (UserRun.next smallImage)
        (fun run event => event.Meets (run.ExitsAttributed smallImage)) (.boot smallImage fun _ => 0)
        taskExitRun := by
  refine ⟨⟨⟨trivial, trivial⟩, ⟨trivial, by decide⟩, ⟨trivial, trivial⟩, trivial,
    ⟨by decide +kernel, by decide +kernel⟩, trivial⟩, ?_⟩
  rintro ⟨-, -, -, -, hexit, -⟩
  have hkept := (hexit .el1 0x40009000 rfl (by decide +kernel)).1
  revert hkept
  decide +kernel

end DuckOs

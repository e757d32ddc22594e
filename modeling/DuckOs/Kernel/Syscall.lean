import DuckOs.Kernel.Task

/-!
# Exceptions and system calls

`src/kernel/syscall.c`, the end of an EL0 program in `src/kernel/user.c`, and `exception_handle` of
`src/arch/aarch64/exceptions.c`. Registers are read from the trap frame in memory.
-/

namespace DuckOs

def syscallError : Nat := 2 ^ 64 - 1

def sysWriteConsole : Nat := 1

def sysGetTicks : Nat := 2

def sysExit : Nat := 3

/-- `frame->x[i]`. -/
def frameX (state : KernelState) (frame i : Nat) : Nat := state.words (frame + 8 * i)

def userExceptionActive (state : KernelState) : Bool := state.userActive

def userExitFromException (image : KernelImage) (state : KernelState) (frame status : Nat) :
    Nat × KernelState :=
  if !state.userActive then (frame, state.setWord frame (2 ^ 64 - 1))
  else
    (frame, ((({ state with userActive := false }).setWord frame status).setWord
      (frame + TrapFrame.elrOffset) image.archUserResumeEl1).setWord
      (frame + TrapFrame.spsrOffset) state.userResumeSpsr)

def syscallHandle (image : KernelImage) (state : KernelState) (frame : Nat) : Nat × KernelState :=
  if frameX state frame 8 = sysWriteConsole then
    if frameX state frame 0 = 0 then (frame, state.setWord frame syscallError)
    else
      (frame, { state.setWord frame (frameX state frame 1) with
        console := state.console ++ [(frameX state frame 0, frameX state frame 1)] })
  else if frameX state frame 8 = sysGetTicks then
    (frame, state.setWord frame state.timerIrqTicks)
  else if frameX state frame 8 = sysExit then
    if userExceptionActive state then
      userExitFromException image state frame (frameX state frame 0)
    else taskExitFromException state frame (frameX state frame 0)
  else (frame, state.setWord frame syscallError)

def gicIrqTimerPhysicalPpi : Nat := 30

/-- `none` is a panic. `irqId` is what the interrupt controller acknowledges; a virtio interrupt
changes only the state of its driver. -/
def exceptionHandleIrq (state : KernelState) (irqId frame : Nat) : Option (Nat × KernelState) :=
  if 1020 ≤ irqId % 0x400 then some (frame, state)
  else if irqId % 0x400 = gicIrqTimerPhysicalPpi then
    let state := { state with timerIrqTicks := state.timerIrqTicks + 1 }
    if state.timerIrqTicks % taskTimeSliceTicks = 0 then
      some (taskScheduleFromException state frame true)
    else some (frame, state)
  else if 48 ≤ irqId % 0x400 ∧ irqId % 0x400 < 80 then some (frame, state)
  else none

def exceptionIsIrqVector (vectorId : Nat) : Bool :=
  vectorId = 1 ∨ vectorId = 5 ∨ vectorId = 9 ∨ vectorId = 13

def exceptionHandle (image : KernelImage) (state : KernelState) (irqId frame : Nat) :
    Option (Nat × KernelState) :=
  let esr := state.words (frame + TrapFrame.esrOffset)
  if exceptionIsIrqVector (state.words (frame + TrapFrame.vectorOffset)) then
    exceptionHandleIrq state irqId frame
  else if esr / 2 ^ 26 % 0x40 = 0x15 ∧ esr % 0x10000 = 0 then
    some (taskScheduleFromException state frame true)
  else if esr / 2 ^ 26 % 0x40 = 0x15 ∧ esr % 0x10000 = 1 then
    some (syscallHandle image state frame)
  else none

end DuckOs

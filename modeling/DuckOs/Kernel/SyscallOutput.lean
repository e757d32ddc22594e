import DuckOs.Arch.MmuTables
import DuckOs.Kernel.Syscall

/-!
# What a system call delivers

`console_write_len` of `src/kernel/console.c` as `syscall_handle` calls it. It runs at EL1 and reads
the buffer through the same tables as its caller.
-/

namespace DuckOs

/-- A byte of physical memory. -/
def KernelState.byteAt (state : KernelState) (address : Nat) : UInt8 :=
  UInt8.ofNat (state.words (address / 8 * 8) / 256 ^ (address % 8))

/-- The tables in force: those of `mmu_init` after the calls that have mapped user pages. -/
structure AddressSpace where
  layout : Mmu.Layout
  memory : TranslationTable.Word → TranslationTable.Table
  calls : List Mmu.UserCall

namespace AddressSpace

def translate (space : AddressSpace) (address : Nat) : Option TranslationTable.Translation :=
  Mmu.translate space.layout space.memory (Mmu.run space.layout space.calls)
    (BitVec.ofNat 64 address)

/-- A load at EL1, which may read whatever is mapped; `none` is a fault. -/
def load (space : AddressSpace) (state : KernelState) (address : Nat) : Option UInt8 :=
  (space.translate address).map fun translation => state.byteAt translation.address.toNat

/-- The memories agree on the pages that are mapped for EL0. -/
def SameUserPages (space : AddressSpace) (state other : KernelState) : Prop :=
  ∀ address translation, space.translate address = some translation →
    translation.access.el0Read = true →
    other.byteAt translation.address.toNat = state.byteAt translation.address.toNat

/-- No byte of the buffer is mapped for the kernel alone. -/
def UserRange (space : AddressSpace) (buffer length : Nat) : Prop :=
  ∀ i, i < length → ∀ translation, space.translate ((buffer + i) % 2 ^ 64) = some translation →
    translation.access.el0Read = true

end AddressSpace

/-- The bytes given to `console_putc_unlocked`, and whether the loop ends without a fault. -/
def consoleWriteLen (load : Nat → Option UInt8) : (buffer length : Nat) → List UInt8 × Bool
  | _, 0 => ([], true)
  | buffer, length + 1 =>
      match load (buffer % 2 ^ 64) with
      | none => ([], false)
      | some byte =>
          let rest := consoleWriteLen load (buffer + 1) length
          (byte :: rest.1, rest.2)

structure SyscallOutcome where
  /-- The bytes sent to the console. -/
  sent : List UInt8
  /-- `x0` in the frame of the caller, unless the call ends in a panic. -/
  returned : Option Nat
  deriving DecidableEq

/-- `syscall_handle` with the writes to the console that it asks for. -/
def syscallOutcome (image : KernelImage) (space : AddressSpace) (state : KernelState) (frame : Nat) :
    SyscallOutcome :=
  let after := (syscallHandle image state frame).2
  match after.console.drop state.console.length with
  | [] => ⟨[], some (after.words frame)⟩
  | (buffer, length) :: _ =>
      let output := consoleWriteLen (space.load state) buffer length
      ⟨output.1, if output.2 then some (after.words frame) else none⟩

/-- Both memories hold the same trap frame. -/
def SameFrame (state other : KernelState) (frame : Nat) : Prop :=
  ∀ offset, offset < TrapFrame.size → other.words (frame + offset) = state.words (frame + offset)

end DuckOs

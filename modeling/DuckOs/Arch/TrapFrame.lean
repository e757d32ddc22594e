import Mathlib.Logic.Function.Basic

/-!
# Trap frames

`struct exception_trap_frame` of `include/arch/aarch64/exceptions.h` and what
`exception_entry_common` of `src/arch/aarch64/exceptions.S` does before and after the call of
`exception_handle`. Memory is a map from addresses to 64-bit words: every access below is to an
aligned word.
-/

namespace DuckOs

structure TrapFrame where
  x : Fin 31 → Nat
  sp : Nat
  elrEl1 : Nat
  spsrEl1 : Nat
  esrEl1 : Nat
  farEl1 : Nat
  daif : Nat
  vectorId : Nat

namespace TrapFrame

/-- `sizeof(struct exception_trap_frame)`. -/
def size : Nat := 0x130

def spOffset : Nat := 0xf8

def elrOffset : Nat := 0x100

def spsrOffset : Nat := 0x108

def esrOffset : Nat := 0x110

def farOffset : Nat := 0x118

def daifOffset : Nat := 0x120

def vectorOffset : Nat := 0x128

/-- A frame after `memset(frame, 0, sizeof(*frame))`. -/
def zero : TrapFrame := ⟨fun _ => 0, 0, 0, 0, 0, 0, 0, 0⟩

/-- The word of the frame at a byte offset. -/
def word (frame : TrapFrame) (offset : Nat) : Nat :=
  if h : offset / 8 < 31 then frame.x ⟨offset / 8, h⟩
  else if offset / 8 = 31 then frame.sp
  else if offset / 8 = 32 then frame.elrEl1
  else if offset / 8 = 33 then frame.spsrEl1
  else if offset / 8 = 34 then frame.esrEl1
  else if offset / 8 = 35 then frame.farEl1
  else if offset / 8 = 36 then frame.daif
  else frame.vectorId

/-- Memory with the frame stored at an address. -/
def store (words : Nat → Nat) (address : Nat) (frame : TrapFrame) : Nat → Nat := fun target =>
  if address ≤ target ∧ target < address + size then frame.word (target - address) else words target

end TrapFrame

/-- What `exception_entry_common` leaves between a frame and the interrupted stack pointer: the
frame and the slot in which `vector_entry` keeps `x0`. -/
def exceptionFrameSpan : Nat := 0x140

/-- The registers of the interrupted code, and the syndrome the CPU gives. -/
structure TrapContext where
  x : Fin 31 → Nat
  sp : Nat
  elrEl1 : Nat
  spsrEl1 : Nat
  esrEl1 : Nat
  farEl1 : Nat
  daif : Nat
  vectorId : Nat

/-- The frame pointer handed to `exception_handle`. -/
def exceptionEntryFrame (context : TrapContext) : Nat := context.sp - exceptionFrameSpan

/-- `vector_entry` and `exception_entry_common` up to the call: `x0` goes through the slot below
the interrupted stack pointer, and the `sp` field is computed from the frame pointer. -/
def exceptionEntry (words : Nat → Nat) (context : TrapContext) : Nat → Nat :=
  TrapFrame.store (Function.update words (context.sp - 0x10) (context.x 0))
    (exceptionEntryFrame context)
    { x := context.x
      sp := exceptionEntryFrame context + exceptionFrameSpan
      elrEl1 := context.elrEl1
      spsrEl1 := context.spsrEl1
      esrEl1 := context.esrEl1
      farEl1 := context.farEl1
      daif := context.daif
      vectorId := context.vectorId }

/-- The stack pointer with which `exception_entry_common` returns to a frame. -/
def exceptionReturnSp (frame : Nat) : Nat := frame + exceptionFrameSpan

end DuckOs

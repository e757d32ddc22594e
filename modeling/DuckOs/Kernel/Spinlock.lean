import DuckOs.Lib.ExclusiveMemory
import Mathlib.Data.Fintype.Defs
import Mathlib.Data.List.Basic

/-!
# Spinlocks

`src/kernel/spinlock.c`, instruction by instruction. Any number of contexts take locks on any number of
processors. A context can be interrupted between two instructions, and its processor then goes on with
another one, as long as interrupts are not masked.
-/

namespace DuckOs

/-- The bit of `DAIF` that masks interrupts. -/
def daifIrq : BitVec 64 := 1 <<< 7

def DaifMasked (daif : BitVec 64) : Prop := daif &&& daifIrq ≠ 0

instance (daif : BitVec 64) : Decidable (DaifMasked daif) := inferInstanceAs (Decidable (_ ≠ _))

/-- Where a context is in `spin_lock_irqsave` and `spin_unlock_irqrestore`, with what it keeps in `flags`. -/
inductive SpinlockPc (Λ : Type) where
  | idle
  | saved (lock : Λ) (flags : BitVec 64)
  | loading (lock : Λ) (flags : BitVec 64)
  | storing (lock : Λ) (flags : BitVec 64)
  | restoring (flags : BitVec 64)

/-- A lock that a context has, with the flags to restore and what it has done with the data since. -/
structure SpinlockHeld (Λ ω : Type) where
  lock : Λ
  flags : BitVec 64
  actions : List (ω → ω)

/-- The innermost lock comes first. -/
structure SpinlockContext (Λ ω : Type) where
  daif : BitVec 64
  pc : SpinlockPc Λ
  held : List (SpinlockHeld Λ ω)

/-- `sections` are the finished critical sections of each lock, the data that it protects is in `data`. -/
structure SpinlockSystem (κ ι Λ ω : Type) where
  memory : ExclusiveMemory κ Λ (BitVec 32)
  running : κ → ι
  contexts : ι → SpinlockContext Λ ω
  data : Λ → ω
  sections : Λ → List (List (ω → ω))

inductive SpinlockEvent (κ ι Λ ω : Type) where
  /-- `spin_lock_irqsave` is called and reads `DAIF`. -/
  | acquire (cpu : κ) (lock : Λ)
  /-- The next instruction of the call. -/
  | advance (cpu : κ)
  | work (cpu : κ) (lock : Λ) (action : ω → ω)
  /-- `spin_unlock_irqrestore` is called and stores to the innermost lock. -/
  | release (cpu : κ)
  | switch (cpu : κ) (target : ι)
  | lose (cpu : κ)

section Context

variable {Λ ω : Type}

def SpinlockPc.flags : SpinlockPc Λ → List (BitVec 64)
  | .idle => []
  | .saved _ flags | .loading _ flags | .storing _ flags | .restoring flags => [flags]

/-- A context gives its processor away of itself when it neither has a lock nor is about to take one, and
when it is interrupted. -/
def SpinlockContext.MaySwitch (context : SpinlockContext Λ ω) : Prop :=
  context.pc.flags.isEmpty ∧ context.held.isEmpty ∨ ¬ DaifMasked context.daif

instance (context : SpinlockContext Λ ω) : Decidable context.MaySwitch :=
  inferInstanceAs (Decidable (_ ∨ _))

/-- What a context does with the data of a lock is noted with the lock. -/
def SpinlockHeld.note [DecidableEq Λ] (lock : Λ) (action : ω → ω) (held : SpinlockHeld Λ ω) :
    SpinlockHeld Λ ω :=
  if held.lock = lock then { held with actions := held.actions ++ [action] } else held

end Context

namespace SpinlockSystem

section Steps

variable {κ ι Λ ω : Type} [DecidableEq κ] [DecidableEq ι] [DecidableEq Λ]
  (system : SpinlockSystem κ ι Λ ω) (cpu : κ)

omit [DecidableEq κ] [DecidableEq ι] [DecidableEq Λ] in
/-- The context that the processor runs. -/
def current : SpinlockContext Λ ω := system.contexts (system.running cpu)

omit [DecidableEq κ] [DecidableEq Λ] in
def setCurrent (context : SpinlockContext Λ ω) : SpinlockSystem κ ι Λ ω :=
  { system with contexts := Function.update system.contexts (system.running cpu) context }

omit [DecidableEq κ] [DecidableEq Λ] in
/-- The call of `spin_lock_irqsave`, up to `sysreg_read_daif`. -/
def acquire (lock : Λ) : SpinlockSystem κ ι Λ ω :=
  match (system.current cpu).pc with
  | .idle =>
      system.setCurrent cpu { system.current cpu with pc := .saved lock (system.current cpu).daif }
  | _ => system

/-- The next instruction: `sysreg_set_daif_irq`, the two exclusive accesses of `spin_lock`, or
`sysreg_write_daif`. -/
def advance : SpinlockSystem κ ι Λ ω :=
  let context := system.current cpu
  match context.pc with
  | .idle => system
  | .saved lock flags =>
      system.setCurrent cpu { context with daif := context.daif ||| daifIrq, pc := .loading lock flags }
  | .loading lock flags =>
      let loaded := system.memory.loadExclusive cpu lock
      { system.setCurrent cpu
          { context with pc := if loaded.1 ≠ 0 then .loading lock flags else .storing lock flags } with
        memory := loaded.2 }
  | .storing lock flags =>
      let stored := system.memory.storeExclusive cpu lock 1
      { system.setCurrent cpu
          (if stored.1 then { context with pc := .idle, held := ⟨lock, flags, []⟩ :: context.held }
          else { context with pc := .loading lock flags }) with
        memory := stored.2 }
  | .restoring flags => system.setCurrent cpu { context with daif := flags, pc := .idle }

omit [DecidableEq κ] in
def work (lock : Λ) (action : ω → ω) : SpinlockSystem κ ι Λ ω :=
  let context := system.current cpu
  match context.pc with
  | .idle =>
      if lock ∈ context.held.map (·.lock) then
        { system.setCurrent cpu { context with held := context.held.map (·.note lock action) } with
          data := Function.update system.data lock (action (system.data lock)) }
      else system
  | _ => system

omit [DecidableEq κ] in
/-- The call of `spin_unlock_irqrestore`, up to the store of `spin_unlock`. -/
def release : SpinlockSystem κ ι Λ ω :=
  let context := system.current cpu
  match context.pc, context.held with
  | .idle, held :: rest =>
      { system.setCurrent cpu { context with pc := .restoring held.flags, held := rest } with
        memory := system.memory.store held.lock 0
        sections := Function.update system.sections held.lock
          (system.sections held.lock ++ [held.actions]) }
  | _, _ => system

omit [DecidableEq Λ] in
/-- The processor goes on with another context, which no processor runs. -/
def switch [Fintype κ] (target : ι) : SpinlockSystem κ ι Λ ω :=
  if (system.current cpu).MaySwitch ∧ ∀ other, system.running other ≠ target then
    { system with
      running := Function.update system.running cpu target
      memory := system.memory.lose cpu }
  else system

def next [Fintype κ] (system : SpinlockSystem κ ι Λ ω) :
    SpinlockEvent κ ι Λ ω → SpinlockSystem κ ι Λ ω
  | .acquire cpu lock => system.acquire cpu lock
  | .advance cpu => system.advance cpu
  | .work cpu lock action => system.work cpu lock action
  | .release cpu => system.release cpu
  | .switch cpu target => system.switch cpu target
  | .lose cpu => { system with memory := system.memory.lose cpu }

end Steps

end SpinlockSystem

end DuckOs

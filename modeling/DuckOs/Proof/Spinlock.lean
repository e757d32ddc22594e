import DuckOs.Kernel.Spinlock
import Mathlib.Data.Fintype.Basic

/-!
# Critical sections

Sections of one lock come one after another as wholes, and every context finds the interrupts as it has left
them. On one processor no lock is ever waited for.
-/

namespace DuckOs

/-! ### Contexts -/

theorem daifMasked_or (daif : BitVec 64) : DaifMasked (daif ||| daifIrq) := by
  have habsorb : (daif ||| daifIrq) &&& daifIrq = daifIrq := by
    rw [BitVec.and_or_distrib_right, BitVec.and_self]
    ext index hindex
    simp only [BitVec.getElem_or, BitVec.getElem_and]
    cases daif[index] <;> simp
  rw [DaifMasked, habsorb]
  decide

namespace SpinlockContext

variable {Λ ω : Type} {context other : SpinlockContext Λ ω} {base : BitVec 64} {lock : Λ}
  {flags : BitVec 64}

/-- The saved flags, innermost first. -/
def stack (context : SpinlockContext Λ ω) : List (BitVec 64) :=
  context.pc.flags ++ context.held.map (·.flags)

/-- Interrupts have been masked for a lock. -/
def Locked (context : SpinlockContext Λ ω) : Prop :=
  context.held ≠ [] ∨ match context.pc with
    | .idle | .saved _ _ => False
    | .loading _ _ | .storing _ _ | .restoring _ => True

/-- Outside all locks the context has the `DAIF` that is `base`. -/
structure Inv (base : BitVec 64) (context : SpinlockContext Λ ω) : Prop where
  base_eq : context.stack.getLastD context.daif = base
  nested : ∀ flags ∈ context.stack.dropLast, DaifMasked flags
  masked : context.Locked → DaifMasked context.daif

theorem Inv.congr (hinv : context.Inv base) (hstack : other.stack = context.stack)
    (hdaif : other.daif = context.daif) (hlocked : other.Locked → context.Locked) : other.Inv base := by
  refine ⟨?_, ?_, fun hother => ?_⟩
  · rw [hstack, hdaif]
    exact hinv.base_eq
  · rw [hstack]
    exact hinv.nested
  · rw [hdaif]
    exact hinv.masked (hlocked hother)

theorem Inv.acquire (hinv : context.Inv base) (hidle : context.pc = .idle) (lock : Λ) :
    Inv base { context with pc := .saved lock context.daif } := by
  have hstack : context.stack = context.held.map (·.flags) := by
    rw [stack, hidle]
    rfl
  have hstackAfter : stack { context with pc := .saved lock context.daif }
      = context.daif :: context.stack := by
    rw [hstack]
    rfl
  refine ⟨?_, fun flags hflags => ?_, fun hlocked => ?_⟩
  · rw [hstackAfter, List.getLastD_cons]
    exact hinv.base_eq
  · rw [hstackAfter] at hflags
    cases hcons : context.stack with
    | nil =>
        rw [hcons] at hflags
        exact absurd hflags List.not_mem_nil
    | cons first rest =>
        rw [hcons, List.dropLast_cons_of_ne_nil (List.cons_ne_nil first rest), ← hcons,
          List.mem_cons] at hflags
        obtain rfl | hflags := hflags
        · refine hinv.masked (.inl fun hnil => ?_)
          rw [hstack, hnil] at hcons
          exact List.cons_ne_nil first rest hcons.symm
        · exact hinv.nested flags hflags
  · exact hinv.masked (.inl (hlocked.resolve_right id))

theorem Inv.mask (hinv : context.Inv base) (hsaved : context.pc = .saved lock flags) :
    Inv base { context with daif := context.daif ||| daifIrq, pc := .loading lock flags } := by
  have hstack : context.stack = flags :: context.held.map (·.flags) := by
    rw [stack, hsaved]
    rfl
  have hstackAfter : stack { context with daif := context.daif ||| daifIrq, pc := .loading lock flags }
      = context.stack := by
    rw [hstack]
    rfl
  refine ⟨?_, ?_, fun _ => daifMasked_or context.daif⟩
  · have hbase := hinv.base_eq
    rw [hstack, List.getLastD_cons] at hbase
    rw [hstackAfter, hstack, List.getLastD_cons]
    exact hbase
  · rw [hstackAfter]
    exact hinv.nested

theorem Inv.restore (hinv : context.Inv base) (hrestoring : context.pc = .restoring flags) :
    Inv base { context with daif := flags, pc := .idle } := by
  have hstack : context.stack = flags :: context.held.map (·.flags) := by
    rw [stack, hrestoring]
    rfl
  have hnested := hinv.nested
  have hbase := hinv.base_eq
  rw [hstack] at hnested hbase
  rw [List.getLastD_cons] at hbase
  refine ⟨hbase, fun other hother => ?_, fun hlocked => ?_⟩
  · change other ∈ (context.held.map (·.flags)).dropLast at hother
    have hne : context.held.map (·.flags) ≠ [] := by
      intro hnil
      rw [hnil] at hother
      exact List.not_mem_nil hother
    apply hnested
    rw [List.dropLast_cons_of_ne_nil hne]
    exact List.mem_cons_of_mem _ hother
  · have hne : context.held.map (·.flags) ≠ [] := by
      rw [ne_eq, List.map_eq_nil_iff]
      exact hlocked.resolve_right id
    apply hnested
    rw [List.dropLast_cons_of_ne_nil hne]
    exact List.mem_cons_self

theorem note_lock [DecidableEq Λ] (action : ω → ω) (held : SpinlockHeld Λ ω) :
    (held.note lock action).lock = held.lock ∧ (held.note lock action).flags = held.flags := by
  unfold SpinlockHeld.note
  split
  · exact ⟨rfl, rfl⟩
  · exact ⟨rfl, rfl⟩

end SpinlockContext

/-! ### Systems -/

namespace SpinlockSystem

section Systems

variable {κ ι Λ ω : Type} [DecidableEq κ] [DecidableEq ι] [DecidableEq Λ]
  {system : SpinlockSystem κ ι Λ ω} {base : ι → BitVec 64} {start : Λ → ω} {cpu : κ} {lock : Λ}
  {flags : BitVec 64}

/-- The context has taken the lock. -/
def Holds (system : SpinlockSystem κ ι Λ ω) (who : ι) (lock : Λ) : Prop :=
  lock ∈ (system.contexts who).held.map (·.lock)

/-- The data behind whole sections and some more actions. -/
def sectioned (start : Λ → ω) (system : SpinlockSystem κ ι Λ ω) (lock : Λ) (actions : List (ω → ω)) : ω :=
  ((system.sections lock).flatten ++ actions).foldl (fun value action => action value) (start lock)

/-- No context is in a call or has a lock. -/
structure Idle (system : SpinlockSystem κ ι Λ ω) : Prop where
  injective : Function.Injective system.running
  pc_eq : ∀ who, (system.contexts who).pc = .idle
  held_eq : ∀ who, (system.contexts who).held = []
  cells_eq : ∀ lock, system.memory.cells lock = 0
  reserved_eq : ∀ cpu, system.memory.reserved cpu = none
  sections_eq : ∀ lock, system.sections lock = []

/-- Every context keeps to its flags, and one that has masked interrupts for a lock keeps its processor. -/
structure Placed (base : ι → BitVec 64) (system : SpinlockSystem κ ι Λ ω) : Prop where
  injective : Function.Injective system.running
  context : ∀ who, (system.contexts who).Inv (base who)
  running : ∀ who, (system.contexts who).Locked → ∃ cpu, system.running cpu = who

/-- What the processors have seen in the cells that they have reserved; it is zero where a store follows. -/
structure Sees (system : SpinlockSystem κ ι Λ ω) (seen : κ → BitVec 32) : Prop where
  reads : system.memory.Reads seen
  storing : ∀ cpu lock flags, (system.current cpu).pc = .storing lock flags → seen cpu = 0

structure Inv (base : ι → BitVec 64) (start : Λ → ω) (system : SpinlockSystem κ ι Λ ω) : Prop where
  placed : system.Placed base
  word : ∀ lock, system.memory.cells lock ≠ 0 ↔ ∃ who, system.Holds who lock
  unique : ∀ lock who other, system.Holds who lock → system.Holds other lock → who = other
  nodup : ∀ who, ((system.contexts who).held.map (·.lock)).Nodup
  sees : ∃ seen, system.Sees seen
  data_free : ∀ lock, (∀ who, ¬ system.Holds who lock) → system.data lock = system.sectioned start lock []
  data_held : ∀ who, ∀ held ∈ (system.contexts who).held,
    system.data held.lock = system.sectioned start held.lock held.actions

/-- `after` differs from `system` in the context of the processor. -/
structure Changed (system : SpinlockSystem κ ι Λ ω) (cpu : κ) (context : SpinlockContext Λ ω)
    (after : SpinlockSystem κ ι Λ ω) : Prop where
  running_eq : after.running = system.running
  self_eq : after.contexts (system.running cpu) = context
  other_eq : ∀ who, who ≠ system.running cpu → after.contexts who = system.contexts who

omit [DecidableEq κ] [DecidableEq Λ] in
theorem changed_setCurrent (context : SpinlockContext Λ ω) (memory : ExclusiveMemory κ Λ (BitVec 32))
    (data : Λ → ω) (sections : Λ → List (List (ω → ω))) :
    system.Changed cpu context { system.setCurrent cpu context with
      memory := memory, data := data, sections := sections } :=
  ⟨rfl, Function.update_self _ _ _, fun _ hne => Function.update_of_ne hne _ _⟩

section Changed

variable {after : SpinlockSystem κ ι Λ ω} {context : SpinlockContext Λ ω}

omit [DecidableEq κ] [DecidableEq ι] [DecidableEq Λ] in
theorem Placed.changed (hplaced : system.Placed base) (hchanged : system.Changed cpu context after)
    (hcontext : context.Inv (base (system.running cpu))) : after.Placed base := by
  constructor
  case injective =>
    rw [hchanged.running_eq]
    exact hplaced.injective
  case context =>
    intro who
    by_cases heq : who = system.running cpu
    · rw [heq, hchanged.self_eq]
      exact hcontext
    · rw [hchanged.other_eq who heq]
      exact hplaced.context who
  case running =>
    intro who hlocked
    rw [hchanged.running_eq]
    by_cases heq : who = system.running cpu
    · exact ⟨cpu, heq.symm⟩
    · rw [hchanged.other_eq who heq] at hlocked
      exact hplaced.running who hlocked

omit [DecidableEq κ] [DecidableEq ι] [DecidableEq Λ] in
theorem Changed.sees (hchanged : system.Changed cpu context after)
    (hinjective : Function.Injective system.running) {seen : κ → BitVec 32}
    (hreads : after.memory.Reads seen)
    (hself : ∀ lock flags, context.pc = .storing lock flags → seen cpu = 0)
    (hothers : ∀ other, other ≠ cpu →
      ∀ lock flags, (system.current other).pc = .storing lock flags → seen other = 0) :
    after.Sees seen := by
  refine ⟨hreads, fun other lock flags hstoring => ?_⟩
  rw [current, hchanged.running_eq] at hstoring
  by_cases heq : other = cpu
  · rw [heq, hchanged.self_eq] at hstoring
    rw [heq]
    exact hself lock flags hstoring
  · rw [hchanged.other_eq _ fun hsame => heq (hinjective hsame)] at hstoring
    exact hothers other heq lock flags hstoring

end Changed

omit [DecidableEq κ] [DecidableEq ι] [DecidableEq Λ] in
theorem Idle.inv (hidle : system.Idle) :
    system.Inv (fun who => (system.contexts who).daif) system.data := by
  have hstack : ∀ who, (system.contexts who).stack = [] := by
    intro who
    rw [SpinlockContext.stack, hidle.pc_eq, hidle.held_eq]
    rfl
  have hlocked : ∀ who, ¬ (system.contexts who).Locked := by
    intro who
    rw [SpinlockContext.Locked, hidle.pc_eq, hidle.held_eq]
    exact fun hor => hor.elim (fun hne => hne rfl) id
  have hholds : ∀ who lock, ¬ system.Holds who lock := by
    intro who lock
    rw [Holds, hidle.held_eq]
    exact List.not_mem_nil
  constructor
  case placed =>
    refine ⟨hidle.injective, fun who => ⟨?_, ?_, fun hwho => absurd hwho (hlocked who)⟩,
      fun who hwho => absurd hwho (hlocked who)⟩
    · rw [hstack]
      rfl
    · rw [hstack]
      exact fun _ hmem => absurd hmem List.not_mem_nil
  case word =>
    intro lock
    rw [hidle.cells_eq]
    exact iff_of_false (fun hne => hne rfl) fun ⟨who, hwho⟩ => hholds who lock hwho
  case unique => exact fun lock who _ hwho => absurd hwho (hholds who lock)
  case nodup =>
    intro who
    rw [hidle.held_eq]
    exact List.nodup_nil
  case sees =>
    exact ⟨fun _ => 0, ExclusiveMemory.reads_of_none hidle.reserved_eq _, fun _ _ _ _ => rfl⟩
  case data_free =>
    intro lock _
    rw [sectioned, hidle.sections_eq]
    rfl
  case data_held =>
    intro who held hheld
    rw [hidle.held_eq] at hheld
    exact absurd hheld List.not_mem_nil

omit [DecidableEq κ] [DecidableEq Λ] in
/-- A step within a call that takes no lock and gives none back. -/
theorem Inv.moved (hinv : system.Inv base start) (context : SpinlockContext Λ ω)
    (hheld : context.held = (system.current cpu).held)
    (hcontext : context.Inv (base (system.running cpu)))
    (memory : ExclusiveMemory κ Λ (BitVec 32)) (hcells : memory.cells = system.memory.cells)
    {seen : κ → BitVec 32} (hreads : memory.Reads seen)
    (hself : ∀ lock flags, context.pc = .storing lock flags → seen cpu = 0)
    (hothers : ∀ other, other ≠ cpu →
      ∀ lock flags, (system.current other).pc = .storing lock flags → seen other = 0) :
    Inv base start { system.setCurrent cpu context with memory := memory } := by
  have hchanged := @changed_setCurrent κ ι Λ ω _ system cpu context memory system.data system.sections
  have hheldEq : ∀ who, ((system.setCurrent cpu context).contexts who).held
      = (system.contexts who).held := by
    intro who
    by_cases heq : who = system.running cpu
    · rw [heq]
      exact (congrArg _ hchanged.self_eq).trans hheld
    · exact congrArg _ (hchanged.other_eq who heq)
  have hholds : ∀ who lock, Holds { system.setCurrent cpu context with memory := memory } who lock
      ↔ system.Holds who lock := by
    intro who lock
    rw [Holds, Holds, ← hheldEq who]
  constructor
  case placed => exact hinv.placed.changed hchanged hcontext
  case word =>
    intro lock
    simp only [hholds]
    rw [hcells]
    exact hinv.word lock
  case unique =>
    intro lock who other hwho hother
    exact hinv.unique lock who other ((hholds who lock).mp hwho) ((hholds other lock).mp hother)
  case nodup =>
    intro who
    change (((system.setCurrent cpu context).contexts who).held.map _).Nodup
    rw [hheldEq]
    exact hinv.nodup who
  case sees => exact ⟨seen, hchanged.sees hinv.placed.injective hreads hself hothers⟩
  case data_free =>
    intro lock hfree
    exact hinv.data_free lock fun who hwho => hfree who ((hholds who lock).mpr hwho)
  case data_held =>
    intro who held hmem
    change held ∈ ((system.setCurrent cpu context).contexts who).held at hmem
    rw [hheldEq] at hmem
    exact hinv.data_held who held hmem

omit [DecidableEq κ] [DecidableEq Λ] in
theorem Inv.acquire (hinv : system.Inv base start) (cpu : κ) (lock : Λ) :
    (system.acquire cpu lock).Inv base start := by
  unfold SpinlockSystem.acquire
  obtain ⟨seen, hreads, hseen⟩ := hinv.sees
  split
  · next hidle =>
    exact hinv.moved { system.current cpu with pc := .saved lock (system.current cpu).daif } rfl
      ((hinv.placed.context _).acquire hidle lock) system.memory rfl hreads
      (fun _ _ hstoring => nomatch hstoring) fun other _ => hseen other
  · exact hinv

omit [DecidableEq κ] in
/-- The lock has been free. -/
theorem Inv.take (hinv : system.Inv base start) (hstoring : (system.current cpu).pc = .storing lock flags)
    (hfree : system.memory.cells lock = 0) {memory : ExclusiveMemory κ Λ (BitVec 32)}
    (hcells : memory.cells = Function.update system.memory.cells lock 1) {seen : κ → BitVec 32}
    (hreads : memory.Reads seen)
    (hothers : ∀ other, other ≠ cpu →
      ∀ lock flags, (system.current other).pc = .storing lock flags → seen other = 0) :
    Inv base start { system.setCurrent cpu
      { system.current cpu with pc := .idle, held := ⟨lock, flags, []⟩ :: (system.current cpu).held } with
      memory := memory } := by
  have hnone : ∀ who, ¬ system.Holds who lock := by
    intro who hwho
    exact (hinv.word lock).mpr ⟨who, hwho⟩ hfree
  generalize hafter : ({ system.setCurrent cpu
    { system.current cpu with pc := .idle, held := ⟨lock, flags, []⟩ :: (system.current cpu).held } with
    memory := memory } : SpinlockSystem κ ι Λ ω) = after
  have hchanged : system.Changed cpu
      { system.current cpu with pc := .idle, held := ⟨lock, flags, []⟩ :: (system.current cpu).held }
      after := by
    rw [← hafter]
    exact changed_setCurrent _ _ _ _
  have hholds : ∀ who taken, after.Holds who taken
      ↔ system.Holds who taken ∨ who = system.running cpu ∧ taken = lock := by
    intro who taken
    by_cases heq : who = system.running cpu
    · rw [Holds, Holds, heq, hchanged.self_eq]
      change taken ∈ lock :: (system.current cpu).held.map _ ↔ _
      rw [List.mem_cons, or_comm]
      exact or_congr_right ⟨fun htaken => ⟨rfl, htaken⟩, And.right⟩
    · rw [Holds, Holds, hchanged.other_eq who heq]
      exact ⟨.inl, fun hor => hor.resolve_right fun hboth => heq hboth.1⟩
  obtain ⟨hdata, hsections, hmemory⟩ : after.data = system.data ∧ after.sections = system.sections
      ∧ after.memory = memory := by
    rw [← hafter]
    exact ⟨rfl, rfl, rfl⟩
  constructor
  case placed =>
    refine hinv.placed.changed hchanged ((hinv.placed.context _).congr ?_ rfl fun _ => .inr ?_)
    · change flags :: (system.current cpu).held.map _ = (system.current cpu).stack
      rw [SpinlockContext.stack, hstoring]
      rfl
    · change match (system.current cpu).pc with
        | .idle | .saved _ _ => False
        | .loading _ _ | .storing _ _ | .restoring _ => True
      rw [hstoring]
      trivial
  case word =>
    intro taken
    rw [hmemory, hcells]
    by_cases heq : taken = lock
    · rw [heq, Function.update_self]
      exact iff_of_true (by decide) ⟨_, (hholds _ _).mpr (.inr ⟨rfl, rfl⟩)⟩
    · rw [Function.update_of_ne heq, hinv.word taken]
      exact exists_congr fun who =>
        ((hholds who taken).trans (or_iff_left fun hboth => heq hboth.2)).symm
  case unique =>
    intro taken who other hwho hother
    obtain hwho | ⟨hwho, htaken⟩ := (hholds who taken).mp hwho
    · obtain hother | ⟨-, htaken⟩ := (hholds other taken).mp hother
      · exact hinv.unique taken who other hwho hother
      · exact absurd (htaken ▸ hwho) (hnone who)
    · obtain hother | ⟨hother, -⟩ := (hholds other taken).mp hother
      · exact absurd (htaken ▸ hother) (hnone other)
      · rw [hwho, hother]
  case nodup =>
    intro who
    by_cases heq : who = system.running cpu
    · rw [heq, hchanged.self_eq]
      exact List.nodup_cons.mpr ⟨hnone _, hinv.nodup _⟩
    · rw [hchanged.other_eq who heq]
      exact hinv.nodup who
  case sees =>
    exact ⟨seen, hchanged.sees hinv.placed.injective (hmemory ▸ hreads)
      (fun _ _ hother => nomatch hother) hothers⟩
  case data_free =>
    intro taken hfree
    rw [hdata, sectioned, hsections]
    exact hinv.data_free taken fun who hwho => hfree who ((hholds who taken).mpr (.inl hwho))
  case data_held =>
    intro who held hmem
    rw [hdata, sectioned, hsections]
    by_cases heq : who = system.running cpu
    · rw [heq, hchanged.self_eq] at hmem
      obtain rfl | hmem := List.mem_cons.mp hmem
      · exact hinv.data_free lock hnone
      · exact hinv.data_held _ held hmem
    · rw [hchanged.other_eq who heq] at hmem
      exact hinv.data_held who held hmem

theorem Inv.advance (hinv : system.Inv base start) (cpu : κ) :
    (system.advance cpu).Inv base start := by
  unfold SpinlockSystem.advance
  obtain ⟨seen, hreads, hseen⟩ := hinv.sees
  dsimp only
  split
  · exact hinv
  · next lock flags hsaved =>
    exact hinv.moved
      { system.current cpu with daif := (system.current cpu).daif ||| daifIrq, pc := .loading lock flags }
      rfl ((hinv.placed.context _).mask hsaved) system.memory rfl hreads
      (fun _ _ hstoring => nomatch hstoring) fun other _ => hseen other
  · next lock flags hloading =>
    have hlocked : (system.current cpu).Locked := .inr (by rw [hloading]; trivial)
    have hstack : (system.current cpu).stack = flags :: (system.current cpu).held.map (·.flags) := by
      rw [SpinlockContext.stack, hloading]
      rfl
    refine hinv.moved
      { system.current cpu with
        pc := if system.memory.cells lock ≠ 0 then .loading lock flags else .storing lock flags } rfl
      ((hinv.placed.context _).congr ?_ rfl fun _ => hlocked) (system.memory.loadExclusive cpu lock).2 rfl
      (hreads.loadExclusive cpu lock) (fun _ _ hstoring => ?_) fun other hne target saved hother => ?_
    · refine Eq.trans ?_ hstack.symm
      unfold SpinlockContext.stack
      dsimp only
      split
      · rfl
      · rfl
    · rw [Function.update_self]
      by_contra hnot
      dsimp only at hstoring
      rw [if_pos hnot] at hstoring
      exact nomatch hstoring
    · rw [Function.update_of_ne hne]
      exact hseen other target saved hother
  · next lock flags hstoring =>
    have hlocked : (system.current cpu).Locked := .inr (by rw [hstoring]; trivial)
    have hstack : (system.current cpu).stack = flags :: (system.current cpu).held.map (·.flags) := by
      rw [SpinlockContext.stack, hstoring]
      rfl
    obtain ⟨hreadsAfter, hstored, hfailed⟩ := hreads.storeExclusive cpu lock 1
    cases hresult : (system.memory.storeExclusive cpu lock 1).1 with
    | false =>
        rw [if_neg Bool.false_ne_true]
        exact hinv.moved { system.current cpu with pc := .loading lock flags } rfl
          ((hinv.placed.context _).congr hstack.symm rfl fun _ => hlocked) _ (hfailed hresult) hreadsAfter
          (fun _ _ hother => nomatch hother) fun other _ => hseen other
    | true =>
        rw [if_pos rfl]
        obtain ⟨hcell, hcells⟩ := hstored hresult
        rw [hseen cpu lock flags hstoring] at hcell
        exact hinv.take hstoring hcell hcells hreadsAfter fun other _ => hseen other
  · next flags hrestoring =>
    exact hinv.moved { system.current cpu with daif := flags, pc := .idle } rfl
      ((hinv.placed.context _).restore hrestoring) system.memory rfl hreads
      (fun _ _ hstoring => nomatch hstoring) fun other _ => hseen other

omit [DecidableEq κ] in
theorem Inv.work (hinv : system.Inv base start) (cpu : κ) (lock : Λ) (action : ω → ω) :
    (system.work cpu lock action).Inv base start := by
  unfold SpinlockSystem.work
  dsimp only
  split
  case h_2 => exact hinv
  case h_1 hidle =>
    split
    case isFalse => exact hinv
    case isTrue hmine =>
      have hnote := @SpinlockContext.note_lock Λ ω lock _ action
      have hlocks : ∀ held : List (SpinlockHeld Λ ω),
          (held.map (·.note lock action)).map (·.lock) = held.map (·.lock) := by
        intro held
        rw [List.map_map]
        exact List.map_congr_left fun entry _ => (hnote entry).1
      generalize hafter : ({ system.setCurrent cpu
        { system.current cpu with held := (system.current cpu).held.map (·.note lock action) } with
        data := Function.update system.data lock (action (system.data lock)) }
          : SpinlockSystem κ ι Λ ω) = after
      have hchanged : system.Changed cpu
          { system.current cpu with held := (system.current cpu).held.map (·.note lock action) }
          after := by
        rw [← hafter]
        exact changed_setCurrent _ _ _ _
      have hholds : ∀ who taken, after.Holds who taken ↔ system.Holds who taken := by
        intro who taken
        rw [Holds, Holds]
        by_cases heq : who = system.running cpu
        · rw [heq, hchanged.self_eq]
          dsimp only
          rw [hlocks]
          rfl
        · rw [hchanged.other_eq who heq]
      obtain ⟨hdata, hsections, hmemory⟩ :
          after.data = Function.update system.data lock (action (system.data lock))
            ∧ after.sections = system.sections ∧ after.memory = system.memory := by
        rw [← hafter]
        exact ⟨rfl, rfl, rfl⟩
      constructor
      case placed =>
        refine hinv.placed.changed hchanged ((hinv.placed.context _).congr ?_ rfl
          fun hlocked => hlocked.imp_left fun hne hnil => hne ?_)
        · change _ ++ ((system.current cpu).held.map _).map _ = _
          rw [List.map_map]
          exact congrArg _ (List.map_congr_left fun entry _ => (hnote entry).2)
        · change (system.current cpu).held.map _ = []
          rw [List.map_eq_nil_iff]
          exact hnil
      case word =>
        intro taken
        rw [hmemory, hinv.word taken]
        exact exists_congr fun who => (hholds who taken).symm
      case unique =>
        intro taken who other hwho hother
        exact hinv.unique taken who other ((hholds who taken).mp hwho) ((hholds other taken).mp hother)
      case nodup =>
        intro who
        by_cases heq : who = system.running cpu
        · rw [heq, hchanged.self_eq]
          dsimp only
          rw [hlocks]
          exact hinv.nodup _
        · rw [hchanged.other_eq who heq]
          exact hinv.nodup who
      case sees =>
        obtain ⟨seen, hreads, hseen⟩ := hinv.sees
        exact ⟨seen, hchanged.sees hinv.placed.injective (hmemory ▸ hreads) (hseen cpu)
          fun other _ => hseen other⟩
      case data_free =>
        intro taken hfree
        have hne : taken ≠ lock := by
          rintro rfl
          exact hfree (system.running cpu) ((hholds _ _).mpr hmine)
        rw [hdata, Function.update_of_ne hne, sectioned, hsections]
        exact hinv.data_free taken fun who hwho => hfree who ((hholds who taken).mpr hwho)
      case data_held =>
        intro who held hmem
        rw [hdata, sectioned, hsections]
        by_cases heq : who = system.running cpu
        · rw [heq, hchanged.self_eq] at hmem
          obtain ⟨entry, hentry, rfl⟩ := List.mem_map.mp hmem
          have hbefore := hinv.data_held _ entry hentry
          by_cases hlock : entry.lock = lock
          · have hnoted : entry.note lock action
                = { entry with actions := entry.actions ++ [action] } := if_pos hlock
            rw [hnoted, hlock, Function.update_self, ← List.append_assoc, List.foldl_append]
            rw [hlock] at hbefore
            exact congrArg action hbefore
          · have hnoted : entry.note lock action = entry := if_neg hlock
            rw [hnoted, Function.update_of_ne hlock]
            exact hbefore
        · rw [hchanged.other_eq who heq] at hmem
          have hne : held.lock ≠ lock := by
            intro hlock
            have hwho : system.Holds who lock := hlock ▸ List.mem_map_of_mem hmem
            exact heq (hinv.unique lock who _ hwho hmine)
          rw [Function.update_of_ne hne]
          exact hinv.data_held who held hmem

omit [DecidableEq κ] in
theorem Inv.release (hinv : system.Inv base start) (cpu : κ) :
    (system.release cpu).Inv base start := by
  unfold SpinlockSystem.release
  dsimp only
  split
  case h_2 => exact hinv
  case h_1 hidle held rest hidle hheld =>
    have hmine : system.Holds (system.running cpu) held.lock := by
      change held.lock ∈ (system.current cpu).held.map _
      rw [hheld]
      exact List.mem_cons_self
    have hnodup : ((held :: rest).map (·.lock)).Nodup := by
      have hcurrentNodup := hinv.nodup (system.running cpu)
      change ((system.current cpu).held.map _).Nodup at hcurrentNodup
      rwa [hheld] at hcurrentNodup
    generalize hafter : ({ system.setCurrent cpu
      { system.current cpu with pc := .restoring held.flags, held := rest } with
      memory := system.memory.store held.lock 0
      sections := Function.update system.sections held.lock
        (system.sections held.lock ++ [held.actions]) } : SpinlockSystem κ ι Λ ω) = after
    have hchanged : system.Changed cpu
        { system.current cpu with pc := .restoring held.flags, held := rest } after := by
      rw [← hafter]
      exact changed_setCurrent _ _ _ _
    obtain ⟨hdata, hsections, hmemory⟩ : after.data = system.data
        ∧ after.sections = Function.update system.sections held.lock
          (system.sections held.lock ++ [held.actions])
        ∧ after.memory = system.memory.store held.lock 0 := by
      rw [← hafter]
      exact ⟨rfl, rfl, rfl⟩
    have hholds : ∀ who taken, after.Holds who taken ↔ system.Holds who taken ∧ taken ≠ held.lock := by
      intro who taken
      by_cases heq : who = system.running cpu
      · rw [Holds, Holds, heq, hchanged.self_eq]
        change taken ∈ rest.map _ ↔ taken ∈ (system.current cpu).held.map _ ∧ _
        rw [hheld, List.map_cons, List.mem_cons]
        constructor
        · intro htaken
          refine ⟨.inr htaken, ?_⟩
          rintro rfl
          exact (List.nodup_cons.mp hnodup).1 htaken
        · rintro ⟨rfl | htaken, hne⟩
          · exact absurd rfl hne
          · exact htaken
      · rw [Holds, Holds, hchanged.other_eq who heq]
        refine ⟨fun htaken => ⟨htaken, ?_⟩, And.left⟩
        rintro rfl
        exact heq (hinv.unique held.lock who _ htaken hmine)
    constructor
    case placed =>
      refine hinv.placed.changed hchanged ((hinv.placed.context _).congr ?_ rfl fun _ => .inl ?_)
      · change held.flags :: rest.map _ = (system.current cpu).stack
        rw [SpinlockContext.stack, hidle, hheld]
        rfl
      · change (system.current cpu).held ≠ []
        rw [hheld]
        exact List.cons_ne_nil held rest
    case word =>
      intro taken
      rw [hmemory]
      by_cases heq : taken = held.lock
      · refine iff_of_false ?_ fun ⟨who, hwho⟩ => ((hholds who taken).mp hwho).2 heq
        rw [heq]
        exact fun hne => hne (Function.update_self _ _ _)
      · have hsame : (system.memory.store held.lock 0).cells taken = system.memory.cells taken :=
          Function.update_of_ne heq _ _
        rw [hsame, hinv.word taken]
        exact exists_congr fun who =>
          ⟨fun hwho => (hholds who taken).mpr ⟨hwho, heq⟩, fun hwho => ((hholds who taken).mp hwho).1⟩
    case unique =>
      intro taken who other hwho hother
      exact hinv.unique taken who other ((hholds who taken).mp hwho).1 ((hholds other taken).mp hother).1
    case nodup =>
      intro who
      by_cases heq : who = system.running cpu
      · rw [heq, hchanged.self_eq]
        exact (List.nodup_cons.mp hnodup).2
      · rw [hchanged.other_eq who heq]
        exact hinv.nodup who
    case sees =>
      obtain ⟨seen, hreads, hseen⟩ := hinv.sees
      exact ⟨seen, hchanged.sees hinv.placed.injective (hmemory ▸ hreads.store held.lock 0)
        (fun _ _ hstoring => nomatch hstoring) fun other _ => hseen other⟩
    case data_free =>
      intro taken hfree
      rw [hdata, sectioned, hsections]
      by_cases heq : taken = held.lock
      · rw [heq, Function.update_self, List.flatten_append, List.flatten_singleton, List.append_nil]
        apply hinv.data_held (system.running cpu)
        change held ∈ (system.current cpu).held
        rw [hheld]
        exact List.mem_cons_self
      · rw [Function.update_of_ne heq]
        exact hinv.data_free taken fun who hwho => hfree who ((hholds who taken).mpr ⟨hwho, heq⟩)
    case data_held =>
      intro who entry hmem
      have hentry : after.Holds who entry.lock := List.mem_map_of_mem hmem
      have hne := ((hholds who entry.lock).mp hentry).2
      rw [hdata, sectioned, hsections, Function.update_of_ne hne]
      by_cases heq : who = system.running cpu
      · rw [heq, hchanged.self_eq] at hmem
        apply hinv.data_held (system.running cpu)
        change entry ∈ (system.current cpu).held
        rw [hheld]
        exact List.mem_cons_of_mem _ hmem
      · rw [hchanged.other_eq who heq] at hmem
        exact hinv.data_held who entry hmem

omit [DecidableEq κ] [DecidableEq ι] [DecidableEq Λ] in
/-- A context is not switched away from while it has a lock or is about to take one. -/
theorem Inv.not_locked (hinv : system.Inv base start) {who : ι} (hswitch : (system.contexts who).MaySwitch) :
    ¬ (system.contexts who).Locked := by
  obtain ⟨hflags, hheld⟩ | hunmasked := hswitch
  · rintro (hne | hlocking)
    · exact hne (List.isEmpty_iff.mp hheld)
    · cases hpc : (system.contexts who).pc with
      | idle =>
          rw [hpc] at hlocking
          exact hlocking
      | saved | loading | storing | restoring =>
          rw [hpc] at hflags
          exact Bool.false_ne_true hflags
  · exact fun hlocked => hunmasked ((hinv.placed.context who).masked hlocked)

omit [DecidableEq Λ] in
theorem Inv.switch [Fintype κ] (hinv : system.Inv base start) (cpu : κ) (target : ι) :
    (system.switch cpu target).Inv base start := by
  unfold SpinlockSystem.switch
  split
  case isFalse => exact hinv
  case isTrue hallowed =>
    obtain ⟨hswitch, hfree⟩ := hallowed
    obtain ⟨seen, hreads, hseen⟩ := hinv.sees
    have hrest : ¬ (system.contexts target).Locked := by
      intro hlocked
      obtain ⟨other, hother⟩ := hinv.placed.running target hlocked
      exact hfree other hother
    constructor
    case placed =>
      refine ⟨fun first second hsame => ?_, hinv.placed.context, fun who hlocked => ?_⟩
      · change Function.update system.running cpu target first
          = Function.update system.running cpu target second at hsame
        by_cases hfirst : first = cpu
        · by_cases hsecond : second = cpu
          · rw [hfirst, hsecond]
          · rw [hfirst, Function.update_self, Function.update_of_ne hsecond] at hsame
            exact absurd hsame.symm (hfree second)
        · by_cases hsecond : second = cpu
          · rw [hsecond, Function.update_self, Function.update_of_ne hfirst] at hsame
            exact absurd hsame (hfree first)
          · rw [Function.update_of_ne hfirst, Function.update_of_ne hsecond] at hsame
            exact hinv.placed.injective hsame
      · obtain ⟨other, hother⟩ := hinv.placed.running who hlocked
        have hne : other ≠ cpu := by
          rintro rfl
          exact hinv.not_locked hswitch (hother ▸ hlocked)
        exact ⟨other, (Function.update_of_ne hne _ _).trans hother⟩
    case word => exact hinv.word
    case unique => exact hinv.unique
    case nodup => exact hinv.nodup
    case sees =>
      refine ⟨seen, hreads.lose cpu, fun other taken saved hstoring => ?_⟩
      change (system.contexts (Function.update system.running cpu target other)).pc = _ at hstoring
      by_cases heq : other = cpu
      · rw [heq, Function.update_self] at hstoring
        exact absurd (.inr (by rw [hstoring]; trivial)) hrest
      · rw [Function.update_of_ne heq] at hstoring
        exact hseen other taken saved hstoring
    case data_free => exact hinv.data_free
    case data_held => exact hinv.data_held

/-- The two exclusive accesses, where nothing comes between them. -/
theorem advance_twice (hloading : (system.current cpu).pc = .loading lock flags)
    (hfree : system.memory.cells lock = 0) :
    ((system.advance cpu).advance cpu).Holds (system.running cpu) lock := by
  have hfirst : system.advance cpu
      = { system.setCurrent cpu { system.current cpu with pc := .storing lock flags } with
        memory := (system.memory.loadExclusive cpu lock).2 } := by
    simp only [SpinlockSystem.advance, hloading, ExclusiveMemory.loadExclusive, hfree, ne_eq,
      not_true_eq_false, if_false]
  have hcurrent : (system.advance cpu).current cpu
      = { system.current cpu with pc := .storing lock flags } := by
    rw [hfirst]
    exact Function.update_self _ _ _
  have hreserved : (system.advance cpu).memory.reserved cpu = some lock := by
    rw [hfirst]
    exact Function.update_self _ _ _
  have hrunning : (system.advance cpu).running = system.running := by
    rw [hfirst]
    rfl
  have hsecond : ((system.advance cpu).advance cpu).contexts ((system.advance cpu).running cpu)
      = { system.current cpu with
        pc := .idle, held := ⟨lock, flags, []⟩ :: (system.current cpu).held } := by
    generalize system.advance cpu = after at hcurrent hreserved ⊢
    simp only [SpinlockSystem.advance, hcurrent, ExclusiveMemory.storeExclusive, hreserved, if_true]
    exact Function.update_self _ _ _
  rw [Holds, ← hrunning, hsecond]
  exact List.mem_cons_self

theorem Inv.next [Fintype κ] (hinv : system.Inv base start) (event : SpinlockEvent κ ι Λ ω) :
    (system.next event).Inv base start := by
  cases event with
  | acquire cpu lock => exact hinv.acquire cpu lock
  | advance cpu => exact hinv.advance cpu
  | work cpu lock action => exact hinv.work cpu lock action
  | release cpu => exact hinv.release cpu
  | switch cpu target => exact hinv.switch cpu target
  | lose cpu =>
      obtain ⟨seen, hreads, hseen⟩ := hinv.sees
      exact ⟨⟨hinv.placed.injective, hinv.placed.context, hinv.placed.running⟩, hinv.word, hinv.unique,
        hinv.nodup, ⟨seen, hreads.lose cpu, hseen⟩, hinv.data_free, hinv.data_held⟩

theorem Inv.foldl [Fintype κ] (events : List (SpinlockEvent κ ι Λ ω)) :
    ∀ {system : SpinlockSystem κ ι Λ ω}, system.Inv base start →
      (events.foldl SpinlockSystem.next system).Inv base start := by
  induction events with
  | nil => exact fun hinv => hinv
  | cons event rest ih => exact fun hinv => ih (hinv.next event)

end Systems

end SpinlockSystem

/-! ### Runs -/

section Runs

variable {κ ι Λ ω : Type} [DecidableEq κ] [DecidableEq ι] [DecidableEq Λ] [Fintype κ]

/-- In every interleaving a lock is held by one context at most, exactly when its word is not zero. What it
protects is as if the finished sections had run one after another as wholes, with the actions of the section
that is under way behind them. -/
theorem spinlock_sections_are_atomic (start : SpinlockSystem κ ι Λ ω) (hidle : start.Idle)
    (events : List (SpinlockEvent κ ι Λ ω)) (lock : Λ) :
    let system := events.foldl SpinlockSystem.next start
    (system.memory.cells lock = 0 →
      (∀ who, ¬ system.Holds who lock) ∧ system.data lock = system.sectioned start.data lock [])
    ∧ (system.memory.cells lock ≠ 0 →
      ∃ who, ∃ held ∈ (system.contexts who).held, held.lock = lock
        ∧ system.data lock = system.sectioned start.data lock held.actions
        ∧ ∀ other, system.Holds other lock → other = who) := by
  intro system
  have hinv : system.Inv _ start.data := SpinlockSystem.Inv.foldl events hidle.inv
  constructor
  · intro hzero
    have hnone : ∀ who, ¬ system.Holds who lock := fun who hwho =>
      (hinv.word lock).mpr ⟨who, hwho⟩ hzero
    exact ⟨hnone, hinv.data_free lock hnone⟩
  · intro hne
    obtain ⟨who, hwho⟩ := (hinv.word lock).mp hne
    obtain ⟨held, hheld, rfl⟩ := List.mem_map.mp hwho
    exact ⟨who, held, hheld, rfl, hinv.data_held who held hheld,
      fun other hother => hinv.unique _ other who hother hwho⟩

/-- Two processors that reach for the lock at once: one of them gets it first. -/
def twoProcessors : SpinlockSystem Bool Bool Unit Nat :=
  ⟨⟨fun _ => 0, fun _ => none⟩, id, fun _ => ⟨0, .idle, []⟩, fun _ => 0, fun _ => []⟩

theorem twoProcessors_idle : twoProcessors.Idle :=
  ⟨Function.injective_id, fun _ => rfl, fun _ => rfl, fun _ => rfl, fun _ => rfl, fun _ => rfl⟩

def twoProcessorsEvents : List (SpinlockEvent Bool Bool Unit Nat) :=
  [.acquire true (), .acquire false (), .advance true, .advance false, .advance true, .advance false,
    .advance true, .advance false, .work true () (· + 3), .advance false, .work true () (· * 2),
    .release true, .advance false, .advance false, .work false () (· + 1)]

theorem spinlock_sections_are_atomic_two :
    (twoProcessorsEvents.foldl SpinlockSystem.next twoProcessors).data () = 7 := by
  obtain ⟨-, htaken⟩ :=
    spinlock_sections_are_atomic twoProcessors twoProcessors_idle twoProcessorsEvents ()
  obtain ⟨who, held, hheld, -, hdata, honly⟩ := htaken (by decide)
  obtain rfl : false = who := honly false (List.mem_singleton.mpr rfl)
  obtain rfl : held = ⟨(), 0, [(· + 1)]⟩ := List.mem_singleton.mp hheld
  exact hdata

/-- A context that neither has a lock nor is in a call has the interrupt flags it has had at the start, and
one that has a lock is not interrupted. -/
theorem spinlock_restores_interrupts (start : SpinlockSystem κ ι Λ ω) (hidle : start.Idle)
    (events : List (SpinlockEvent κ ι Λ ω)) (who : ι) :
    let system := events.foldl SpinlockSystem.next start
    let context := system.contexts who
    (context.pc.flags = [] → context.held = [] → context.daif = (start.contexts who).daif)
      ∧ (context.held ≠ [] → DaifMasked context.daif ∧ ∃ cpu, system.running cpu = who) := by
  intro system context
  have hinv : system.Inv (fun who => (start.contexts who).daif) start.data :=
    SpinlockSystem.Inv.foldl events hidle.inv
  constructor
  · intro hflags hheld
    have hbase := (hinv.placed.context who).base_eq
    rw [SpinlockContext.stack, hflags, hheld] at hbase
    exact hbase
  · intro hheld
    exact ⟨(hinv.placed.context who).masked (.inl hheld), hinv.placed.running who (.inl hheld)⟩

theorem spinlock_restores_interrupts_two :
    ((twoProcessorsEvents.foldl SpinlockSystem.next twoProcessors).contexts false).daif &&& daifIrq
      ≠ 0 :=
  ((spinlock_restores_interrupts twoProcessors twoProcessors_idle twoProcessorsEvents false).2
    (List.cons_ne_nil _ _)).1

/-- On one processor a context that reaches for a lock finds it free, unless it has it itself, and two
instructions later it has it: no call waits for another context. -/
theorem spinlock_never_waits_on_one_processor [Subsingleton κ] (start : SpinlockSystem κ ι Λ ω)
    (hidle : start.Idle) (events : List (SpinlockEvent κ ι Λ ω)) (cpu : κ) (lock : Λ)
    (flags : BitVec 64)
    (hloading : ((events.foldl SpinlockSystem.next start).current cpu).pc = .loading lock flags)
    (hmine : ¬ (events.foldl SpinlockSystem.next start).Holds
      ((events.foldl SpinlockSystem.next start).running cpu) lock) :
    let system := events.foldl SpinlockSystem.next start
    system.memory.cells lock = 0
      ∧ ((system.advance cpu).advance cpu).Holds (system.running cpu) lock := by
  intro system
  have hinv : system.Inv (fun who => (start.contexts who).daif) start.data :=
    SpinlockSystem.Inv.foldl events hidle.inv
  have hfree : system.memory.cells lock = 0 := by
    by_contra hne
    obtain ⟨who, hwho⟩ := (hinv.word lock).mp hne
    have hheld : (system.contexts who).held ≠ [] := by
      intro hnil
      rw [SpinlockSystem.Holds, hnil] at hwho
      exact List.not_mem_nil hwho
    obtain ⟨other, rfl⟩ := hinv.placed.running who (.inl hheld)
    rw [Subsingleton.elim other cpu] at hwho
    exact hmine hwho
  exact ⟨hfree, SpinlockSystem.advance_twice hloading hfree⟩

/-- An interrupt handler that reaches for the lock after the context that it has interrupted. -/
def oneProcessor : SpinlockSystem Unit Bool Unit Nat :=
  ⟨⟨fun _ => 0, fun _ => none⟩, fun _ => true, fun _ => ⟨0, .idle, []⟩, fun _ => 0, fun _ => []⟩

def oneProcessorEvents : List (SpinlockEvent Unit Bool Unit Nat) :=
  [.acquire () (), .switch () false, .acquire () (), .advance ()]

theorem spinlock_never_waits_on_one_processor_handler :
    (oneProcessorEvents.foldl SpinlockSystem.next oneProcessor).memory.cells () = 0 := by
  have hidle : oneProcessor.Idle :=
    ⟨fun _ _ _ => rfl, fun _ => rfl, fun _ => rfl, fun _ => rfl, fun _ => rfl, fun _ => rfl⟩
  exact (spinlock_never_waits_on_one_processor oneProcessor hidle oneProcessorEvents () () 0 rfl
    List.not_mem_nil).1

end Runs

end DuckOs

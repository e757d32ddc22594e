import Mathlib.Data.List.Basic

/-!
# Machines with outputs

A machine answers one input after another. Two machines related by a relation that every step keeps
and under which they answer alike give the same outputs on every sequence of inputs. The relation may
mention the inputs still to come, for assumptions on a whole run such as a bound on its length.

Conditions on whole runs are conditions at every step or at every state. An invariant turns a
condition at each step into an equivalent one.
-/

namespace Machine

variable {σ τ ι ο : Type}

/-- The outputs and the last state of a machine fed with `inputs`. -/
def run (step : σ → ι → ο × σ) : σ → List ι → List ο × σ
  | state, [] => ([], state)
  | state, input :: rest =>
      ((step state input).1 :: (run step (step state input).2 rest).1,
        (run step (step state input).2 rest).2)

section Run

variable {step : σ → ι → ο × σ} {other : τ → ι → ο × τ}

@[simp]
theorem run_nil (state : σ) : run step state [] = ([], state) := rfl

@[simp]
theorem run_cons (state : σ) (input : ι) (rest : List ι) :
    run step state (input :: rest)
      = ((step state input).1 :: (run step (step state input).2 rest).1,
        (run step (step state input).2 rest).2) := rfl

@[simp]
theorem length_run (state : σ) (inputs : List ι) :
    (run step state inputs).1.length = inputs.length := by
  induction inputs generalizing state with
  | nil => rfl
  | cons input rest ih => simp [ih]

/-- A relation kept by every step, with equal outputs, gives equal outputs of whole runs. -/
theorem run_simulation {related : List ι → σ → τ → Prop}
    (hstep : ∀ input rest state image, related (input :: rest) state image →
      (step state input).1 = (other image input).1
        ∧ related rest (step state input).2 (other image input).2) :
    ∀ {inputs : List ι} {state : σ} {image : τ}, related inputs state image →
      (run step state inputs).1 = (run other image inputs).1
        ∧ related [] (run step state inputs).2 (run other image inputs).2 := by
  intro inputs
  induction inputs with
  | nil => exact fun hrelated => ⟨rfl, hrelated⟩
  | cons input rest ih =>
      intro state image hrelated
      obtain ⟨houtput, hnext⟩ := hstep input rest state image hrelated
      obtain ⟨houtputs, hlast⟩ := ih hnext
      exact ⟨by rw [run_cons, run_cons, houtput, houtputs], hlast⟩

end Run

section Conditions

variable {next : σ → ι → σ}

/-- `meets` at every step of the run. -/
def EveryStep (next : σ → ι → σ) (meets : σ → ι → Prop) : σ → List ι → Prop
  | _, [] => True
  | state, input :: rest => meets state input ∧ EveryStep next meets (next state input) rest

/-- `holds` at every state of the run, the last one included. -/
def Throughout (next : σ → ι → σ) (holds : σ → Prop) : σ → List ι → Prop
  | state, [] => holds state
  | state, input :: rest => holds state ∧ Throughout next holds (next state input) rest

instance decidableEveryStep {meets : σ → ι → Prop} [∀ state input, Decidable (meets state input)] :
    (state : σ) → (inputs : List ι) → Decidable (EveryStep next meets state inputs)
  | _, [] => .isTrue trivial
  | state, input :: rest => @instDecidableAnd _ _ _ (decidableEveryStep (next state input) rest)

theorem EveryStep.mono {meets other : σ → ι → Prop}
    (himp : ∀ state input, meets state input → other state input) :
    ∀ {inputs : List ι} {state : σ}, EveryStep next meets state inputs →
      EveryStep next other state inputs := by
  intro inputs
  induction inputs with
  | nil => exact fun _ => trivial
  | cons input rest ih =>
      rintro state ⟨hmeets, hrest⟩
      exact ⟨himp state input hmeets, ih hrest⟩

theorem everyStep_true : ∀ (inputs : List ι) (state : σ),
    EveryStep next (fun _ _ => True) state inputs := by
  intro inputs
  induction inputs with
  | nil => exact fun _ => trivial
  | cons input rest ih => exact fun state => ⟨trivial, ih _⟩

/-- An invariant that the steps keep holds at every state. -/
theorem EveryStep.throughout {meets : σ → ι → Prop} {inv : σ → Prop}
    (hstep : ∀ state input, inv state → meets state input → inv (next state input)) :
    ∀ {inputs : List ι} {state : σ}, inv state → EveryStep next meets state inputs →
      Throughout next inv state inputs := by
  intro inputs
  induction inputs with
  | nil => exact fun hinv _ => hinv
  | cons input rest ih =>
      rintro state hinv ⟨hmeets, hrest⟩
      exact ⟨hinv, ih (hstep state input hinv hmeets) hrest⟩

theorem throughout_of_step {inv : σ → Prop} (hstep : ∀ state input, inv state → inv (next state input)) :
    ∀ (inputs : List ι) {state : σ}, inv state → Throughout next inv state inputs := by
  intro inputs
  induction inputs with
  | nil => exact fun hinv => hinv
  | cons input rest ih => exact fun hinv => ⟨hinv, ih (hstep _ input hinv)⟩

theorem Throughout.mono {holds other : σ → Prop} (himp : ∀ state, holds state → other state) :
    ∀ {inputs : List ι} {state : σ}, Throughout next holds state inputs →
      Throughout next other state inputs := by
  intro inputs
  induction inputs with
  | nil => exact fun hholds => himp _ hholds
  | cons input rest ih =>
      rintro state ⟨hholds, hrest⟩
      exact ⟨himp state hholds, ih hrest⟩

theorem EveryStep.and {meets other : σ → ι → Prop} :
    ∀ {inputs : List ι} {state : σ}, EveryStep next meets state inputs →
      EveryStep next other state inputs →
      EveryStep next (fun state input => meets state input ∧ other state input) state inputs := by
  intro inputs
  induction inputs with
  | nil => exact fun _ _ => trivial
  | cons input rest ih =>
      rintro state ⟨hmeets, hrest⟩ ⟨hother, hrest'⟩
      exact ⟨⟨hmeets, hother⟩, ih hrest hrest'⟩

/-- A condition that follows at every step from another one under an invariant. -/
theorem EveryStep.of_inv {meets other : σ → ι → Prop} {inv : σ → Prop}
    (hstep : ∀ state input, inv state → meets state input →
      other state input ∧ inv (next state input)) :
    ∀ {inputs : List ι} {state : σ}, inv state → EveryStep next meets state inputs →
      EveryStep next other state inputs := by
  intro inputs
  induction inputs with
  | nil => exact fun _ _ => trivial
  | cons input rest ih =>
      rintro state hinv ⟨hmeets, hrest⟩
      obtain ⟨hother, hnext⟩ := hstep state input hinv hmeets
      exact ⟨hother, ih hnext hrest⟩

/-- The step behind the first inputs. -/
theorem EveryStep.at {meets : σ → ι → Prop} {input : ι} {rest : List ι} :
    ∀ {inputs : List ι} {state : σ}, EveryStep next meets state (inputs ++ input :: rest) →
      meets (inputs.foldl next state) input := by
  intro inputs
  induction inputs with
  | nil => exact fun hall => hall.1
  | cons first others ih => exact fun hall => ih hall.2

theorem Throughout.start {holds : σ → Prop} {state : σ} {inputs : List ι}
    (hall : Throughout next holds state inputs) : holds state := by
  cases inputs with
  | nil => exact hall
  | cons input rest => exact hall.1

/-- Two conditions on steps that agree under an invariant, which the second one keeps. -/
theorem everyStep_iff {inv : σ → Prop} {possible meets other : σ → ι → Prop}
    (hstep : ∀ state input, inv state → possible state input →
      (meets state input ↔ other state input)
        ∧ (other state input → inv (next state input))) :
    ∀ (inputs : List ι) {state : σ}, inv state → EveryStep next possible state inputs →
      (EveryStep next meets state inputs ↔ EveryStep next other state inputs) := by
  intro inputs
  induction inputs with
  | nil => exact fun _ _ => Iff.rfl
  | cons input rest ih =>
      rintro state hinv ⟨hpossible, hrest⟩
      obtain ⟨hiff, hkeep⟩ := hstep state input hinv hpossible
      constructor
      · rintro ⟨hmeets, hall⟩
        have hother := hiff.mp hmeets
        exact ⟨hother, (ih (hkeep hother) hrest).mp hall⟩
      · rintro ⟨hother, hall⟩
        exact ⟨hiff.mpr hother, (ih (hkeep hother) hrest).mpr hall⟩

/-- A property of states that each step keeps exactly when it meets a condition. -/
theorem throughout_iff_everyStep {inv holds : σ → Prop} {possible meets : σ → ι → Prop}
    (hstep : ∀ state input, inv state → holds state → possible state input →
      inv (next state input) ∧ (holds (next state input) ↔ meets state input)) :
    ∀ (inputs : List ι) {state : σ}, inv state → holds state →
      EveryStep next possible state inputs →
      (Throughout next holds state inputs ↔ EveryStep next meets state inputs) := by
  intro inputs
  induction inputs with
  | nil => exact fun _ hholds _ => ⟨fun _ => trivial, fun _ => hholds⟩
  | cons input rest ih =>
      rintro state hinv hholds ⟨hpossible, hrest⟩
      obtain ⟨hnext, hiff⟩ := hstep state input hinv hholds hpossible
      constructor
      · rintro ⟨-, hall⟩
        exact ⟨hiff.mp hall.start, (ih hnext hall.start hrest).mp hall⟩
      · rintro ⟨hmeets, hall⟩
        exact ⟨hholds, (ih hnext (hiff.mpr hmeets) hrest).mpr hall⟩

/-- An invariant that the steps keep exactly when they meet a condition. -/
theorem throughout_iff_of_inv {inv holds : σ → Prop} {meets : σ → ι → Prop}
    (hholds : ∀ state, inv state → holds state)
    (hkeep : ∀ state input, inv state → meets state input → inv (next state input))
    (hmeets : ∀ state input, inv state → holds (next state input) → meets state input) :
    ∀ (inputs : List ι) {state : σ}, inv state →
      (Throughout next holds state inputs ↔ EveryStep next meets state inputs) := by
  intro inputs
  induction inputs with
  | nil => exact fun hinv => ⟨fun _ => trivial, fun _ => hholds _ hinv⟩
  | cons input rest ih =>
      intro state hinv
      constructor
      · rintro ⟨-, hall⟩
        have hinput := hmeets state input hinv hall.start
        exact ⟨hinput, (ih (hkeep state input hinv hinput)).mp hall⟩
      · rintro ⟨hinput, hall⟩
        exact ⟨hholds state hinv, (ih (hkeep state input hinv hinput)).mpr hall⟩

/-- Two machines that stay related, whatever they answer, answer alike on a whole run exactly when they do
so at every step. `κ` keeps track of what the answers depend on. -/
theorem run_eq_iff {κ : Type} {step : σ → ι → ο × σ} {other : τ → ι → ο × τ} {next : κ → ι → κ}
    {meets : κ → ι → Prop} {possible : ι → Prop} {related : σ → τ → κ → Prop}
    (hstep : ∀ state image track input, related state image track → possible input →
      related (step state input).2 (other image input).2 (next track input)
        ∧ ((step state input).1 = (other image input).1 ↔ meets track input)) :
    ∀ (inputs : List ι) {state : σ} {image : τ} {track : κ}, related state image track →
      (∀ input ∈ inputs, possible input) →
      ((run step state inputs).1 = (run other image inputs).1
        ↔ EveryStep next meets track inputs) := by
  intro inputs
  induction inputs with
  | nil => exact fun _ _ => iff_of_true rfl trivial
  | cons input rest ih =>
      intro state image track hrelated hpossible
      obtain ⟨hnext, hiff⟩ :=
        hstep state image track input hrelated (hpossible input List.mem_cons_self)
      rw [run_cons, run_cons, List.cons.injEq]
      exact and_congr hiff
        (ih hnext fun other hother => hpossible other (List.mem_cons_of_mem _ hother))

end Conditions

section Await

variable [DecidableEq ι]

/-- Inputs that are waited for, in order; others pass by. -/
def await (needed : List ι) (input : ι) : List ι :=
  if needed.head? = some input then needed.tail else needed

/-- Nothing is waited for any more once the inputs have come in order, whatever came between. -/
theorem foldl_await_eq_nil_iff :
    ∀ {inputs needed : List ι}, inputs.foldl await needed = [] ↔ needed.Sublist inputs := by
  intro inputs
  induction inputs with
  | nil => exact fun {needed} => List.sublist_nil.symm
  | cons input rest ih =>
      intro needed
      rw [List.foldl_cons, ih]
      cases needed with
      | nil => exact iff_of_true (List.nil_sublist _) (List.nil_sublist _)
      | cons first others =>
          by_cases hfirst : first = input
          · rw [await, List.head?_cons, if_pos (congrArg some hfirst), hfirst, List.tail_cons,
              List.cons_sublist_cons]
          · rw [await, List.head?_cons, if_neg fun heq => hfirst (Option.some.inj heq),
              List.cons_sublist_cons']
            exact (or_iff_left fun hboth => hfirst hboth.1).symm

end Await

end Machine

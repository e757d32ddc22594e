import DuckOs.Kernel.ShellSession
import DuckOs.Lib.LineInput
import DuckOs.Lib.LineWrap
import DuckOs.Lib.Machine
import DuckOs.Proof.InputQueue

/-!
# The shell executes what is typed

A session of the shell against one whose events are a queue and whose buffer is the line that is being typed. Events
may come and be taken at any time.
-/

namespace DuckOs

open LineInput

/-- What a character does to the line. -/
def consoleKey (c : UInt8) : Key UInt8 :=
  if c = 0x0d ∨ c = 0x0a then .enter else if consoleIsBackspace c then .erase else .symbol c

/-- What is printed for a key. -/
def typedEcho (line : Line UInt8 63) : Key UInt8 → List UInt8
  | .symbol c => if line.symbols.length < 63 then [c] else []
  | .erase => if line.symbols = [] then [] else [0x08, 0x20, 0x08]
  | .enter => [0x0a]

structure TypedSession (σ : Type) where
  events : List InputEvent
  input : InputState
  line : Line UInt8 63
  world : σ

section Sessions

variable {σ : Type} {execute : σ → InputState → ShellAction → ShellRan σ}

namespace TypedSession

variable (execute)

/-- The line behind the key, and what is executed if that enters the line. -/
def press (session : TypedSession σ) (c : UInt8) : ShellOutput × TypedSession σ :=
  let echo := typedEcho session.line (consoleKey c)
  let after := { session with line := session.line.press (consoleKey c) }
  if consoleKey c = .enter then
    let line := CString.scan session.line.symbols
    let ran := execute session.world session.input (shellRunCommand line)
    (⟨some c, echo ++ (ran.printed ++ shellPrompt), some line⟩,
      { after with input := ran.input, world := ran.world })
  else (⟨some c, echo, none⟩, after)

def step (session : TypedSession σ) : ShellStep → ShellOutput × TypedSession σ
  | .queue op => (.none, { session with events := (DropQueue.step 63 session.events op).2 })
  | .read =>
      match session.events with
      | [] => (.none, session)
      | event :: rest =>
          match inputEventToChar session.input event with
          | (none, input) => (.none, { session with events := rest, input := input })
          | (some c, input) => press execute { session with events := rest, input := input } c

end TypedSession

/-! ### A step -/

/-- The queue holds the events, and the first bytes of the buffer are the line. -/
structure ShellSession.Refines (session : ShellSession σ) (typed : TypedSession σ) : Prop where
  queue : session.queue.Holds typed.events
  input_eq : session.input = typed.input
  line : Holds session.reader.buffer session.reader.length typed.line
  world_eq : session.world = typed.world

/-- What is executed is the line, up to a terminator that was typed. -/
theorem scan_buffer {buffer : Nat → UInt8} {length : Nat} {line : Line UInt8 63}
    (hline : Holds buffer length line) :
    CString.scan ((List.range shellLineMax).map (Function.update buffer length 0))
      = CString.scan line.symbols := by
  have hlength := hline.length_le
  obtain ⟨rest, hrest⟩ : ∃ rest, shellLineMax = length + (rest + 1) := ⟨63 - length, by
    rw [shellLineMax]
    omega⟩
  have hbefore : (List.range length).map (Function.update buffer length 0) = line.symbols := by
    rw [← hline.symbols_eq]
    apply List.map_congr_left
    intro index hindex
    rw [Function.update_of_ne (Nat.ne_of_lt (List.mem_range.mp hindex))]
  rw [hrest, List.range_add, List.map_append, hbefore, List.range_succ_eq_map, List.map_cons, List.map_cons,
    Nat.add_zero, Function.update_self, CString.scan_append_zero]

/-- A character of `console_read_line`, by the key that it is. -/
theorem consoleReadChar_spec {reader : LineReader} {line : Line UInt8 63}
    (hline : Holds reader.buffer reader.length line) (c : UInt8) :
    (consoleReadChar shellLineMax reader c).printed = typedEcho line (consoleKey c)
      ∧ ((consoleReadChar shellLineMax reader c).finished = true ↔ consoleKey c = .enter)
      ∧ (consoleKey c ≠ .enter → Holds (consoleReadChar shellLineMax reader c).reader.buffer
        (consoleReadChar shellLineMax reader c).reader.length (line.press (consoleKey c)))
      ∧ (consoleKey c = .enter → (consoleReadChar shellLineMax reader c).reader.buffer
        = Function.update reader.buffer reader.length 0) := by
  have hlength := hline.length_eq
  unfold consoleReadChar consoleKey
  by_cases henter : c = 0x0d ∨ c = 0x0a
  · rw [if_pos henter, if_pos henter]
    exact ⟨rfl, iff_of_true rfl rfl, fun hne => absurd rfl hne, fun _ => rfl⟩
  rw [if_neg henter, if_neg henter]
  by_cases herase : consoleIsBackspace c = true
  · rw [if_pos herase, if_pos herase, typedEcho, Line.press]
    by_cases hempty : reader.length = 0
    · have hnil : line.symbols = [] := List.eq_nil_of_length_eq_zero (hlength ▸ hempty)
      have hsame := hline.erase
      rw [hempty] at hsame
      rw [if_neg (not_not_intro hempty), if_pos hnil]
      refine ⟨rfl, by simp, fun _ => ?_, by simp⟩
      dsimp only
      rwa [hempty]
    · have hcons : line.symbols ≠ [] := by
        intro hnil
        rw [hnil] at hlength
        exact hempty hlength
      rw [if_pos hempty, if_neg hcons]
      exact ⟨rfl, by simp, fun _ => hline.erase, by simp⟩
  rw [if_neg herase, if_neg herase, typedEcho, Line.press]
  by_cases hroom : reader.length + 1 < shellLineMax
  · have hless : reader.length < 63 := Nat.lt_of_succ_lt_succ hroom
    rw [if_pos hroom, if_pos (hlength ▸ hless)]
    exact ⟨rfl, by simp, fun _ => hline.add_of_lt hless c, by simp⟩
  · have hfull : 63 ≤ reader.length := by
      rw [shellLineMax] at hroom
      omega
    rw [if_neg hroom, if_neg (Nat.not_lt_of_le (hlength ▸ hfull))]
    exact ⟨rfl, by simp, fun _ => hline.add_of_full hfull c, by simp⟩

theorem ShellSession.Refines.readChar {session : ShellSession σ} {typed : TypedSession σ}
    (hrefines : session.Refines typed) (c : UInt8) :
    (session.readChar execute c).1 = (typed.press execute c).1
      ∧ (session.readChar execute c).2.Refines (typed.press execute c).2 := by
  obtain ⟨hprinted, hfinished, hmore, hdone⟩ := consoleReadChar_spec hrefines.line c
  unfold ShellSession.readChar TypedSession.press
  dsimp only
  by_cases henter : consoleKey c = .enter
  · have hline := scan_buffer hrefines.line
    rw [if_pos (hfinished.mpr henter), if_pos henter, hprinted]
    unfold ShellSession.runLine
    dsimp only
    rw [hdone henter, hline, hrefines.input_eq, hrefines.world_eq]
    refine ⟨rfl, hrefines.queue, rfl, ?_, rfl⟩
    dsimp only
    rw [henter]
    exact Holds.empty _
  · rw [if_neg (mt hfinished.mp henter), if_neg henter, hprinted]
    exact ⟨rfl, hrefines.queue, hrefines.input_eq, hmore henter, hrefines.world_eq⟩

theorem ShellSession.Refines.step {session : ShellSession σ} {typed : TypedSession σ}
    (hrefines : session.Refines typed) (input : ShellStep) :
    (session.step execute input).1 = (typed.step execute input).1
      ∧ (session.step execute input).2.Refines (typed.step execute input).2 := by
  cases input with
  | queue op =>
      have hqueue := (hrefines.queue.step op).2
      exact ⟨rfl, hqueue, hrefines.input_eq, hrefines.line, hrefines.world_eq⟩
  | read =>
      obtain ⟨hpopped, hqueue⟩ := hrefines.queue.pop
      have hinput := hrefines.input_eq
      unfold ShellSession.step ShellSession.read TypedSession.step
      dsimp only
      generalize inputPopEvent session.queue = popped at hpopped hqueue
      obtain ⟨first, queue⟩ := popped
      dsimp only at hpopped hqueue
      subst hpopped
      cases hevents : typed.events with
      | nil =>
          rw [hevents] at hqueue
          refine ⟨rfl, ?_, hinput, hrefines.line, hrefines.world_eq⟩
          rwa [hevents]
      | cons event rest =>
          rw [hevents] at hqueue
          dsimp only [List.head?_cons]
          rw [hinput]
          generalize inputEventToChar typed.input event = translated
          obtain ⟨character, input⟩ := translated
          have hnext : ShellSession.Refines { session with queue := queue, input := input }
              { typed with events := rest, input := input } :=
            ⟨hqueue, rfl, hrefines.line, hrefines.world_eq⟩
          cases character with
          | none => exact ⟨rfl, hnext⟩
          | some c => exact hnext.readChar c

/-! ### The lines of a session -/

/-- The keys that have been read since a line was entered make the line, and those before it the lines that were
executed. -/
structure TypedSession.Since (line : Line UInt8 63) (keys : List (Key UInt8)) (executed : List (List UInt8)) :
    Prop where
  split : ∃ done piece, keys.splitOn .enter = done ++ [piece]
    ∧ executed = done.map (fun keys => CString.scan (edited keys : Line UInt8 63).symbols)
    ∧ line = edited piece

theorem TypedSession.since_nil : TypedSession.Since .empty [] [] :=
  ⟨[], [], rfl, rfl, rfl⟩

/-- The keys that are read, and the lines that are executed. -/
def shellKeys (outputs : List ShellOutput) : List (Key UInt8) :=
  (outputs.filterMap (·.character)).map consoleKey

def shellExecuted (outputs : List ShellOutput) : List (List UInt8) := outputs.filterMap (·.executed)

/-- A key belongs to the line, or it ends the line. -/
theorem TypedSession.Since.press {line : Line UInt8 63} {keys : List (Key UInt8)}
    {executed : List (List UInt8)} (hsince : Since line keys executed) (key : Key UInt8) :
    Since (line.press key) (keys ++ [key])
      (executed ++ if key = .enter then [CString.scan line.symbols] else []) := by
  obtain ⟨done, piece, hsplit, rfl, hline⟩ := hsince.split
  obtain ⟨pieces, last, hall, happend⟩ := @LineWrap.exists_splitOn_append _ _ .enter key keys
  obtain ⟨rfl, hlast⟩ := List.append_inj' (hsplit.symm.trans hall) rfl
  obtain rfl : piece = last := List.singleton_inj.mp hlast
  by_cases henter : key = .enter
  · rw [henter, if_pos (beq_self_eq_true _)] at happend
    rw [if_pos henter, henter]
    refine ⟨done ++ [piece], [], ?_, ?_, rfl⟩
    · rw [happend, List.append_assoc]
      rfl
    · rw [List.map_append, hline]
      rfl
  · rw [if_neg (mt beq_iff_eq.mp henter)] at happend
    rw [if_neg henter, List.append_nil]
    refine ⟨done, piece ++ [key], happend, rfl, ?_⟩
    rw [edited_append, ← hline]

theorem TypedSession.press_since {session : TypedSession σ} {keys : List (Key UInt8)}
    {executed : List (List UInt8)} (hsince : Since session.line keys executed) (c : UInt8) :
    Since (session.press execute c).2.line (keys ++ shellKeys [(session.press execute c).1])
      (executed ++ shellExecuted [(session.press execute c).1]) := by
  have hpressed := hsince.press (consoleKey c)
  unfold TypedSession.press
  by_cases henter : consoleKey c = .enter
  · rw [if_pos henter] at hpressed
    rw [if_pos henter]
    exact hpressed
  · rw [if_neg henter] at hpressed
    rw [if_neg henter]
    exact hpressed

theorem TypedSession.step_since {session : TypedSession σ} {keys : List (Key UInt8)}
    {executed : List (List UInt8)} (hsince : Since session.line keys executed) (input : ShellStep) :
    Since (session.step execute input).2.line (keys ++ shellKeys [(session.step execute input).1])
      (executed ++ shellExecuted [(session.step execute input).1]) := by
  have hidle : Since session.line (keys ++ shellKeys [ShellOutput.none])
      (executed ++ shellExecuted [ShellOutput.none]) := by
    change Since session.line (keys ++ []) (executed ++ [])
    rwa [List.append_nil, List.append_nil]
  cases input with
  | queue op => exact hidle
  | read =>
      unfold TypedSession.step
      dsimp only
      split
      · exact hidle
      · split
        · exact hidle
        · rename_i c input _
          exact @press_since _ execute { session with events := _, input := input } _ _ hsince c

theorem TypedSession.run_since (steps : List ShellStep) : ∀ {session : TypedSession σ}
    {keys : List (Key UInt8)} {executed : List (List UInt8)}, Since session.line keys executed →
    Since (Machine.run (TypedSession.step execute) session steps).2.line
      (keys ++ shellKeys (Machine.run (TypedSession.step execute) session steps).1)
      (executed ++ shellExecuted (Machine.run (TypedSession.step execute) session steps).1) := by
  induction steps with
  | nil =>
      intro session keys executed hsince
      change Since session.line (keys ++ []) (executed ++ [])
      rwa [List.append_nil, List.append_nil]
  | cons input rest ih =>
      intro session keys executed hsince
      have hnext := ih (@step_since _ execute _ _ _ hsince input)
      rw [Machine.run_cons]
      have hkeys : ∀ (first : ShellOutput) (others : List ShellOutput),
          shellKeys (first :: others) = shellKeys [first] ++ shellKeys others := by
        intro first others
        rw [shellKeys, shellKeys, shellKeys, ← List.map_append, ← List.filterMap_append]
        rfl
      have hexecuted : ∀ (first : ShellOutput) (others : List ShellOutput),
          shellExecuted (first :: others) = shellExecuted [first] ++ shellExecuted others := by
        intro first others
        rw [shellExecuted, shellExecuted, shellExecuted, ← List.filterMap_append]
        rfl
      rwa [hkeys, hexecuted, ← List.append_assoc, ← List.append_assoc]

/-- Whenever events come and are taken, a session of the shell answers as one with a queue of at most 63 events and
a line of at most 63 characters. It executes a line for each enter: what the keys since the one before it have left of
the line. The keys since the last one make what is in the buffer. -/
theorem shell_executes_typed_lines (execute : σ → InputState → ShellAction → ShellRan σ)
    (slots : Nat → InputEvent) (buffer : Nat → UInt8) (input : InputState) (world : σ)
    (steps : List ShellStep) :
    let run := Machine.run (ShellSession.step execute) ⟨inputQueueInit slots, input, ⟨buffer, 0⟩, world⟩ steps
    let typed := Machine.run (TypedSession.step execute) ⟨[], input, .empty, world⟩ steps
    run.1 = typed.1 ∧ run.2.reader.length ≤ 63
      ∧ ∃ done piece, (shellKeys run.1).splitOn .enter = done ++ [piece]
        ∧ shellExecuted run.1 = done.map (fun keys => CString.scan (edited keys : Line UInt8 63).symbols)
        ∧ (List.range run.2.reader.length).map run.2.reader.buffer
          = (edited piece : Line UInt8 63).symbols := by
  intro run typed
  have hstart : ShellSession.Refines ⟨inputQueueInit slots, input, ⟨buffer, 0⟩, world⟩
      ⟨[], input, .empty, world⟩ :=
    ⟨inputQueueInit_holds slots, rfl, Holds.empty buffer, rfl⟩
  obtain ⟨houtputs, hlast⟩ := @Machine.run_simulation _ _ _ _ (ShellSession.step execute)
    (TypedSession.step execute) (fun _ => ShellSession.Refines)
    (fun input _ _ _ hrefines => hrefines.step input) steps _ _ hstart
  obtain ⟨done, piece, hsplit, hexecuted, hline⟩ :=
    (@TypedSession.run_since _ execute steps ⟨[], input, .empty, world⟩ [] []
      TypedSession.since_nil).split
  refine ⟨houtputs, hlast.line.length_le, done, piece, ?_, ?_, ?_⟩
  · rw [houtputs]
    exact hsplit
  · rw [houtputs]
    exact hexecuted
  · rw [← hline]
    exact hlast.line.symbols_eq

end Sessions

end DuckOs

import DuckOs.Lib.ScreenTail
import DuckOs.Proof.Console
import DuckOs.Proof.ShellSession

/-!
# The line on the console

What the graphics console shows while a line is typed: the prompt and the line behind what was there, and nothing of
what has been erased.
-/

namespace DuckOs

open LineInput
open CellScreen (ShowsTail Follows)

/-- What a byte that does not move the cursor back or down shows as. -/
def consoleGlyph (c : UInt8) : UInt8 := if 0x20 ≤ c ∧ c ≤ 0x7e then c else 0x3f

theorem shellPrompt_symbols : ∀ c ∈ shellPrompt, consoleKey c = .symbol c := by decide +kernel

section Bytes

variable {rows cols top : Nat} {screen : CellScreen rows cols UInt8} {text : List UInt8}

theorem terminalByte_symbol {c : UInt8} (hsymbol : consoleKey c = .symbol c) :
    terminalByte screen c = screen.write 0x20 (consoleGlyph c) := by
  unfold consoleKey at hsymbol
  by_cases henter : c = 0x0d ∨ c = 0x0a
  · rw [if_pos henter] at hsymbol
    cases hsymbol
  rw [if_neg henter] at hsymbol
  by_cases herase : consoleIsBackspace c = true
  · rw [if_pos herase] at hsymbol
    cases hsymbol
  rw [consoleIsBackspace, decide_eq_true_eq] at herase
  rw [not_or] at henter
  unfold terminalByte consoleGlyph
  rw [if_neg henter.1, if_neg henter.2, if_neg herase]
  split
  · rfl
  · rfl

/-- Whatever is printed without a carriage return, the screen shows the end of some text. -/
theorem ShowsTail.terminalByte (hshows : ShowsTail 0x20 top screen text) {c : UInt8} (hc : c ≠ 0x0d) :
    ∃ after next, ShowsTail 0x20 after (terminalByte screen c) next := by
  unfold DuckOs.terminalByte
  rw [if_neg hc]
  split
  · obtain ⟨after, hfed, -⟩ := hshows.lineFeed
    exact ⟨after, _, hfed⟩
  · split
    · by_cases htop : top * cols < text.length
      · exact ⟨top, _, hshows.backspace htop⟩
      · rw [hshows.backspace_of_top (Nat.le_of_not_lt htop)]
        exact ⟨top, text, hshows⟩
    · split
      · obtain ⟨after, hwritten, -⟩ := hshows.write c
        exact ⟨after, _, hwritten⟩
      · obtain ⟨after, hwritten, -⟩ := hshows.write 0x3f
        exact ⟨after, _, hwritten⟩

theorem exists_showsTail_foldl (bytes : List UInt8) : ∀ {top : Nat} {screen : CellScreen rows cols UInt8}
    {text : List UInt8}, ShowsTail 0x20 top screen text → 0x0d ∉ bytes →
    ∃ after next, ShowsTail 0x20 after (bytes.foldl terminalByte screen) next := by
  induction bytes with
  | nil => exact fun hshows _ => ⟨_, _, hshows⟩
  | cons c rest ih =>
      intro top screen text hshows hbytes
      rw [List.mem_cons, not_or] at hbytes
      obtain ⟨after, next, hnext⟩ := ShowsTail.terminalByte hshows (Ne.symm hbytes.1)
      exact ih hnext hbytes.2

end Bytes

/-! ### A line -/

/-- The screen shows the text and some bytes behind it, of which none has left the screen. -/
def ShowsBehind {rows cols : Nat} (screen : CellScreen rows cols UInt8) (text bytes : List UInt8) : Prop :=
  ∃ top, ShowsTail 0x20 top screen (text ++ bytes.map consoleGlyph) ∧ top * cols ≤ text.length

section Line

variable {rows cols : Nat} {screen : CellScreen rows cols UInt8} {text bytes : List UInt8}

theorem ShowsBehind.symbol (hshows : ShowsBehind screen text bytes) {c : UInt8}
    (hsymbol : consoleKey c = .symbol c) (hroom : bytes.length + 1 + cols ≤ rows * cols) :
    ShowsBehind (terminalByte screen c) text (bytes ++ [c]) := by
  obtain ⟨top, htail, htop⟩ := hshows
  obtain ⟨after, hwritten, hfollows⟩ := htail.write (consoleGlyph c)
  rw [terminalByte_symbol hsymbol]
  refine ⟨after, ?_, ?_⟩
  · rwa [List.map_append, ← List.append_assoc]
  · apply hfollows.place_le htop _ hroom
    rw [List.length_append, List.length_map, Nat.add_assoc]

theorem ShowsBehind.symbols : ∀ (more : List UInt8) {screen : CellScreen rows cols UInt8} {bytes : List UInt8},
    ShowsBehind screen text bytes → (∀ c ∈ more, consoleKey c = .symbol c) →
    bytes.length + more.length + cols ≤ rows * cols →
    ShowsBehind (more.foldl terminalByte screen) text (bytes ++ more) := by
  intro more
  induction more with
  | nil =>
      intro screen bytes hshows _ _
      rwa [List.append_nil]
  | cons c rest ih =>
      intro screen bytes hshows hsymbols hroom
      rw [List.length_cons] at hroom
      have hnext := hshows.symbol (hsymbols c List.mem_cons_self) (by omega)
      have hall := ih hnext (fun other hother => hsymbols other (List.mem_cons_of_mem _ hother))
        (by rw [List.length_append, List.length_singleton]; omega)
      rwa [List.append_assoc] at hall

/-- Back, a blank and back take the last byte off. -/
theorem ShowsBehind.erase (hshows : ShowsBehind screen text bytes) (hbytes : bytes ≠ []) :
    ShowsBehind ([0x08, 0x20, 0x08].foldl terminalByte screen) text bytes.dropLast := by
  obtain ⟨top, htail, htop⟩ := hshows
  have hpos := List.length_pos_iff.mpr hbytes
  have hrubbed := htail.rub (by rw [List.length_append, List.length_map]; omega)
  refine ⟨top, ?_, htop⟩
  rw [List.dropLast_append_of_ne_nil (by rwa [Ne, List.map_eq_nil_iff]), ← List.map_dropLast] at hrubbed
  exact hrubbed

/-- What is printed for a key that does not enter the line keeps the line on the screen. -/
theorem ShowsBehind.key {line : Line UInt8 63}
    (hshows : ShowsBehind screen text (shellPrompt ++ line.symbols)) (hroom : 77 + cols ≤ rows * cols)
    {c : UInt8} (hkey : consoleKey c ≠ .enter) :
    ShowsBehind ((typedEcho line (consoleKey c)).foldl terminalByte screen) text
      (shellPrompt ++ (line.press (consoleKey c)).symbols) := by
  have hsame : consoleKey c = .symbol c ∨ consoleKey c = .erase := by
    unfold consoleKey at hkey ⊢
    split at hkey
    · exact absurd rfl hkey
    · rename_i henter
      rw [if_neg henter]
      split
      · exact Or.inr rfl
      · exact Or.inl rfl
  have hprompt : shellPrompt.length = 14 := by decide +kernel
  have hlength := line.length_le
  rcases hsame with hsymbol | herase
  · have hbytes : (shellPrompt ++ line.symbols).length = 14 + line.symbols.length := by
      rw [List.length_append, hprompt]
    rw [hsymbol, typedEcho, Line.press, Line.add]
    by_cases hless : line.symbols.length < 63
    · rw [if_pos hless, dif_pos hless]
      have hnext := hshows.symbol hsymbol (by rw [hbytes]; omega)
      rwa [List.append_assoc] at hnext
    · rw [if_neg hless, dif_neg hless]
      exact hshows
  · rw [herase, typedEcho, Line.press, Line.erase]
    by_cases hnil : line.symbols = []
    · rw [if_pos hnil]
      dsimp only
      rw [hnil, List.dropLast_nil]
      rwa [hnil] at hshows
    · have hback := hshows.erase (List.append_ne_nil_of_right_ne_nil _ hnil)
      rw [List.dropLast_append_of_ne_nil hnil] at hback
      rwa [if_neg hnil]

end Line

/-! ### Typing -/

section Typing

variable {σ : Type} {execute : σ → InputState → ShellAction → ShellRan σ} {rows cols : Nat}
  {screen : CellScreen rows cols UInt8} {text : List UInt8}

theorem ShowsBehind.typedStep {session : TypedSession σ}
    (hshows : ShowsBehind screen text (shellPrompt ++ session.line.symbols))
    (hroom : 77 + cols ≤ rows * cols) (input : ShellStep)
    (hline : (session.step execute input).1.executed = none) :
    ShowsBehind ((session.step execute input).1.printed.foldl terminalByte screen) text
      (shellPrompt ++ (session.step execute input).2.line.symbols) := by
  cases input with
  | queue op => exact hshows
  | read =>
      unfold TypedSession.step at hline ⊢
      dsimp only at hline ⊢
      split
      · exact hshows
      · rename_i hevents
        rw [hevents] at hline
        dsimp only at hline
        split
        · exact hshows
        · rename_i c input htranslated
          rw [htranslated] at hline
          unfold TypedSession.press at hline ⊢
          dsimp only at hline ⊢
          split
          · rename_i henter
            rw [if_pos henter] at hline
            cases hline
          · rename_i hkey
            exact hshows.key hroom hkey

theorem ShowsBehind.typedRun (hroom : 77 + cols ≤ rows * cols) (steps : List ShellStep) :
    ∀ {session : TypedSession σ} {screen : CellScreen rows cols UInt8},
    ShowsBehind screen text (shellPrompt ++ session.line.symbols) →
    (∀ output ∈ (Machine.run (TypedSession.step execute) session steps).1, output.executed = none) →
    ShowsBehind (((Machine.run (TypedSession.step execute) session steps).1.flatMap (·.printed)).foldl
      terminalByte screen) text
      (shellPrompt ++ (Machine.run (TypedSession.step execute) session steps).2.line.symbols) := by
  induction steps with
  | nil => exact fun hshows _ => hshows
  | cons input rest ih =>
      intro session screen hshows hline
      rw [Machine.run_cons] at hline ⊢
      have hnext := hshows.typedStep hroom input (hline _ List.mem_cons_self)
      have hall := ih hnext fun output houtput => hline output (List.mem_cons_of_mem _ houtput)
      rwa [List.flatMap_cons, List.foldl_append]

end Typing

/-- While a line is typed the graphics console shows the prompt and the line, whole and just before the cursor, behind
the text that a console shows to which only what came before was printed, and blanks behind the cursor. The screen has
room for the longest line, and what was printed before it has no carriage return. -/
theorem typed_line_on_console (mode : UInt32) (fb : Surface) (hsupported : fb.supported = true)
    (hwidth : 8 ≤ fb.width ∧ fb.width < 2 ^ 31) (hheight : 8 ≤ fb.height ∧ fb.height < 2 ^ 31)
    (block : Nat → UInt8) (hcells : fb.height / 8 * (fb.width / 8) < 2 ^ 32) (available : Bool)
    (hroom : 77 + fb.width / 8 ≤ fb.height / 8 * (fb.width / 8)) {σ : Type}
    (execute : σ → InputState → ShellAction → ShellRan σ) (session : ShellSession σ)
    (events : List InputEvent) (hqueue : session.queue.Holds events) (hempty : session.reader.length = 0)
    (steps : List ShellStep)
    (hline : ∀ output ∈ (Machine.run (ShellSession.step execute) session steps).1, output.executed = none)
    (before : List UInt8) (hbefore : 0x0d ∉ before) (calls : List ConsoleCall)
    (hcalls : graphicsBytes mode calls = before ++ shellPrompt
      ++ (Machine.run (ShellSession.step execute) session steps).1.flatMap (·.printed)) :
    let reader := (Machine.run (ShellSession.step execute) session steps).2.reader
    let line := (List.range reader.length).map reader.buffer
    ∃ result, consoleAttachGraphics mode fb (some block) available = some result
      ∧ ∃ text : List UInt8,
        (∀ earlier, graphicsBytes mode earlier = before →
          ∃ (screen : CellScreen (fb.height / 8) (fb.width / 8) UInt8) (top : Nat),
            ConsoleFollows fb.toFramebuffer
              (earlier.foldl ConsoleState.Tracked.call (ConsoleState.attached fb.toFramebuffer result)) screen
            ∧ ShowsTail 0x20 top screen text)
        ∧ ∃ (screen : CellScreen (fb.height / 8) (fb.width / 8) UInt8) (top : Nat),
          ConsoleFollows fb.toFramebuffer
            (calls.foldl ConsoleState.Tracked.call (ConsoleState.attached fb.toFramebuffer result)) screen
          ∧ ShowsTail 0x20 top screen (text ++ (shellPrompt ++ line).map consoleGlyph)
          ∧ top * (fb.width / 8) ≤ text.length := by
  intro reader line
  have hrefines : session.Refines ⟨events, session.input, .empty, session.world⟩ := by
    refine ⟨hqueue, rfl, ?_, rfl⟩
    rw [hempty]
    exact Holds.empty _
  obtain ⟨houtputs, hlast⟩ := @Machine.run_simulation _ _ _ _ (ShellSession.step execute)
    (TypedSession.step execute) (fun _ => ShellSession.Refines)
    (fun input _ _ _ hrefines => hrefines.step input) steps _ _ hrefines
  obtain ⟨result, hattach, hmode, hholds⟩ := consoleHolds_attach mode hsupported hwidth.1 hheight.1 hwidth.2
    hheight.2 block hcells available
  have hstart : (ConsoleState.attached fb.toFramebuffer result).console.mode = mode := hmode
  have hfollows := (hholds.calls calls).follows
  rw [hstart, hcalls, List.foldl_append, List.foldl_append] at hfollows
  obtain ⟨top, text, hclear⟩ := exists_showsTail_foldl before (CellScreen.showsTail_clear
    (Nat.div_pos hheight.1 (by decide)) (Nat.div_pos hwidth.1 (by decide)) (0x20 : UInt8)) hbefore
  have hearlier : ∀ earlier, graphicsBytes mode earlier = before →
      ∃ (screen : CellScreen (fb.height / 8) (fb.width / 8) UInt8) (top : Nat),
        ConsoleFollows fb.toFramebuffer
          (earlier.foldl ConsoleState.Tracked.call (ConsoleState.attached fb.toFramebuffer result)) screen
        ∧ ShowsTail 0x20 top screen text := by
    intro earlier hbytes
    have hshown := (hholds.calls earlier).follows
    rw [hstart, hbytes] at hshown
    exact ⟨_, top, hshown, hclear⟩
  have hnothing : ShowsBehind (before.foldl terminalByte (CellScreen.clear
      (Nat.div_pos hheight.1 (by decide)) (Nat.div_pos hwidth.1 (by decide)) (0x20 : UInt8))) text [] := by
    refine ⟨top, ?_, hclear.top_le⟩
    rwa [List.map_nil, List.append_nil]
  have hprompt : shellPrompt.length = 14 := by decide +kernel
  have hprompted := ShowsBehind.symbols shellPrompt hnothing shellPrompt_symbols
    (by rw [List.length_nil, hprompt]; omega)
  rw [houtputs] at hline hfollows
  rw [List.nil_append, ← List.append_nil shellPrompt] at hprompted
  obtain ⟨after, htail, hafter⟩ := @ShowsBehind.typedRun _ execute _ _ text hroom steps
    ⟨events, session.input, .empty, session.world⟩ _ hprompted hline
  refine ⟨result, hattach, text, hearlier, _, after, hfollows, ?_, hafter⟩
  rw [← hlast.line.symbols_eq] at htail
  exact htail

/-- A session in which some characters arrive one by one, and each of them is read. -/
def typedSteps (characters : List UInt8) : List ShellStep :=
  characters.flatMap fun c => [.queue (.push ⟨.char c, .serial, inputKeyPress, 0⟩), .read]

def typedSession : ShellSession Unit :=
  ⟨inputQueueInit fun _ => ⟨.other, .other, 0, 0⟩, .init, ⟨fun _ => 0, 0⟩, ()⟩

def typedExecute (_ : Unit) (input : InputState) (_ : ShellAction) : ShellRan Unit := ⟨[], input, ()⟩

def typedRun : List ShellOutput × ShellSession Unit :=
  Machine.run (ShellSession.step typedExecute) typedSession (typedSteps [0x61, 0x7f, 0x62])

/-- A prompt behind which nothing was typed. -/
def typedBefore : List UInt8 := shellPrompt ++ [0x0a]

def typedCalls : List ConsoleCall :=
  (typedBefore ++ shellPrompt ++ [0x61, 0x08, 0x20, 0x08, 0x62]).map ConsoleCall.putc

/-- Two rows; below a prompt a letter is typed, taken back and replaced. -/
theorem typed_line_on_console_replaced :
    (List.range typedRun.2.reader.length).map typedRun.2.reader.buffer = [0x62]
      ∧ ∃ result, consoleAttachGraphics 2 ⟨⟨640, 16⟩, true, fun _ => 0⟩ (some fun _ => 0xff) true = some result
      ∧ ∃ text : List UInt8,
        (∀ earlier, graphicsBytes 2 earlier = typedBefore →
          ∃ (screen : CellScreen (16 / 8) (640 / 8) UInt8) (top : Nat),
            ConsoleFollows ⟨640, 16⟩
              (earlier.foldl ConsoleState.Tracked.call (ConsoleState.attached ⟨640, 16⟩ result)) screen
            ∧ ShowsTail 0x20 top screen text)
        ∧ ∃ (screen : CellScreen (16 / 8) (640 / 8) UInt8) (top : Nat),
          ConsoleFollows ⟨640, 16⟩
            (typedCalls.foldl ConsoleState.Tracked.call (ConsoleState.attached ⟨640, 16⟩ result)) screen
          ∧ ShowsTail 0x20 top screen (text ++ (shellPrompt
            ++ (List.range typedRun.2.reader.length).map typedRun.2.reader.buffer).map consoleGlyph)
          ∧ top * (640 / 8) ≤ text.length := by
  have hline : ∀ output ∈ typedRun.1, output.executed = none := by decide +kernel
  have hcalls : graphicsBytes 2 typedCalls = typedBefore ++ shellPrompt ++ typedRun.1.flatMap (·.printed) := by
    decide +kernel
  refine ⟨by decide +kernel, ?_⟩
  exact typed_line_on_console 2 ⟨⟨640, 16⟩, true, fun _ => 0⟩ rfl ⟨by decide, by decide⟩
    ⟨by decide, by decide⟩ (fun _ => 0xff) (by decide) true (by decide) typedExecute typedSession []
    (inputQueueInit_holds _) rfl (typedSteps [0x61, 0x7f, 0x62]) hline typedBefore (by decide +kernel) typedCalls
    hcalls

end DuckOs

import DuckOs.Desktop.TerminalSession
import DuckOs.Proof.ShellSession
import DuckOs.Proof.TerminalScrollback

/-!
# A session in the terminal

Whatever events reach a terminal and whatever its commands print, the scrollback is the end of the transcript, the
input is the line that is being typed, and the window shows the end of both.
-/

namespace DuckOs

open LineInput

/-- What an event does to the line. -/
def terminalKey (event : DesktopEvent) : Option (Key UInt8) :=
  if event.type = .windowClose then none
  else if event.type = .key ∧ event.input.pressed = inputKeyPress
      ∧ event.input.keycode = inputKeyBackspace then some .erase
  else if event.type ≠ .char then none
  else if event.character = 0x08 ∨ event.character = 0x7f then some .erase
  else if event.character = 0x0a ∨ event.character = 0x0d then some .enter
  else if event.character < 32 ∨ 126 < event.character then none
  else some (.symbol event.character)

/-- Only these are added to the line. -/
def TerminalPrintable (c : UInt8) : Prop := ¬ (c < 32 ∨ 126 < c)

theorem TerminalPrintable.ne_zero {c : UInt8} (hprintable : TerminalPrintable c) : c ≠ 0 := by
  rintro rfl
  exact hprintable (Or.inl (by decide))

theorem scan_printable {symbols : List UInt8} (hprintable : ∀ c ∈ symbols, TerminalPrintable c) :
    CString.scan symbols = symbols := by
  rw [CString.scan, List.takeWhile_eq_self_iff]
  intro c hc
  exact decide_eq_true (hprintable c hc).ne_zero

theorem terminalPrintable_of_symbol {event : DesktopEvent} {c : UInt8}
    (hkey : terminalKey event = some (.symbol c)) : TerminalPrintable c := by
  unfold terminalKey at hkey
  split at hkey
  · cases hkey
  split at hkey
  · cases hkey
  split at hkey
  · cases hkey
  split at hkey
  · cases hkey
  split at hkey
  · cases hkey
  split at hkey
  · cases hkey
  · rename_i hprintable
    cases hkey
    exact hprintable

/-! ### The state -/

/-- The scrollback shows the transcript, and the input is the line, with a terminator behind it. -/
structure TerminalApp.Shows (app : TerminalApp) (line : Line UInt8 63) (transcript : List UInt8) : Prop where
  output : app.output.ShowsText (transcript.flatMap terminalShown)
  holds : Holds app.input app.inputLength line
  terminated : app.input app.inputLength = 0
  printable : ∀ c ∈ line.symbols, TerminalPrintable c

namespace TerminalApp

variable {app : TerminalApp} {line : Line UInt8 63} {transcript : List UInt8}

theorem alloc_shows : alloc.Shows .empty [] :=
  ⟨TerminalAppState.showsText_allocState, Holds.empty _, rfl, fun _ hc => absurd hc List.not_mem_nil⟩

namespace Shows

theorem scan_symbols (hshows : app.Shows line transcript) : CString.scan line.symbols = line.symbols :=
  scan_printable hshows.printable

theorem inputText_eq (hshows : app.Shows line transcript) : app.inputText = line.symbols := by
  have hscan := scan_buffer hshows.holds
  have hsame : Function.update app.input app.inputLength 0 = app.input := by
    rw [← hshows.terminated, Function.update_eq_self]
  rw [hsame, hshows.scan_symbols] at hscan
  exact hscan

theorem promptLine_eq (hshows : app.Shows line transcript) :
    app.promptLine = terminalPrompt ++ line.symbols := by
  have hprompt : terminalPrompt.length = 14 := by decide +kernel
  have hlength := line.length_le
  unfold promptLine strlcpy
  dsimp only
  rw [hshows.inputText_eq, hprompt, terminalInputMax, List.take_of_length_le (by omega), hprompt,
    List.take_of_length_le (by omega)]

/-- The line and the cell of its terminator, when the last symbol is taken off. -/
theorem eraseInput (hshows : app.Shows line transcript) : app.eraseInput.Shows line.erase transcript := by
  have hline := hshows.holds.erase
  have hless : ∀ c ∈ line.erase.symbols, TerminalPrintable c :=
    fun c hc => hshows.printable c (List.mem_of_mem_dropLast hc)
  unfold TerminalApp.eraseInput
  by_cases hpos : 0 < app.inputLength
  · rw [if_pos hpos]
    refine ⟨hshows.output, hline.congr ?_, ?_, hless⟩
    · intro index hindex
      dsimp only
      rw [Function.update_of_ne (Nat.ne_of_lt hindex)]
    · dsimp only
      rw [Function.update_self]
  · have hzero := Nat.eq_zero_of_not_pos hpos
    rw [if_neg hpos]
    refine ⟨hshows.output, ?_, hshows.terminated, hless⟩
    rwa [hzero] at hline ⊢

theorem symbol (hshows : app.Shows line transcript) (hroom : app.inputLength < 63) {c : UInt8}
    (hc : TerminalPrintable c) :
    Shows { app with
      input := Function.update (Function.update app.input app.inputLength c) (app.inputLength + 1) 0
      inputLength := app.inputLength + 1 } (line.add c) transcript := by
  refine ⟨hshows.output, (hshows.holds.add_of_lt hroom c).congr ?_, ?_, ?_⟩
  · intro index hindex
    dsimp only
    rw [Function.update_of_ne (Nat.ne_of_lt hindex)]
  · dsimp only
    rw [Function.update_self]
  · intro other hother
    rw [Line.add] at hother
    split at hother
    · rcases List.mem_append.mp hother with hold | hnew
      · exact hshows.printable other hold
      · rw [List.mem_singleton.mp hnew]
        exact hc
    · exact hshows.printable other hother

/-- Characters that are appended one by one. -/
theorem foldl_appendText (printed : List UInt8) : ∀ {state : TerminalAppState} {transcript : List UInt8},
    state.ShowsText (transcript.flatMap terminalShown) →
    (printed.foldl (fun state ch => state.appendText [ch]) state).ShowsText
      ((transcript ++ printed).flatMap terminalShown) := by
  induction printed with
  | nil =>
      intro state transcript hshows
      rwa [List.append_nil]
  | cons ch rest ih =>
      intro state transcript hshows
      have hnext := TerminalAppState.ShowsText.appendText [ch] hshows
      rw [← List.flatMap_append] at hnext
      have hall := ih hnext
      rwa [List.append_assoc] at hall

theorem enterLine {σ : Type} (execute : σ → ShellAction → List UInt8 × σ)
    (hshows : app.Shows line transcript) (world : σ) :
    (app.enterLine execute world).2.1.Shows .empty
        (transcript ++ (app.enterLine execute world).1.appended)
      ∧ (app.enterLine execute world).1.executed = some (CString.scan line.symbols)
      ∧ terminalPrompt ++ line.symbols ++ [0x0a] <+: (app.enterLine execute world).1.appended := by
  unfold TerminalApp.enterLine
  dsimp only
  rw [hshows.inputText_eq, hshows.scan_symbols, hshows.promptLine_eq]
  generalize (execute world (shellRunCommand line.symbols)).1 = printed
  have hprompted := TerminalAppState.ShowsText.appendText (terminalPrompt ++ line.symbols) hshows.output
  have hnewline := hprompted.beginNewLine
  have hshown : transcript.flatMap terminalShown ++ (terminalPrompt ++ line.symbols).flatMap terminalShown
      ++ [0x0a] = (transcript ++ (terminalPrompt ++ line.symbols ++ [0x0a])).flatMap terminalShown := by
    simp only [List.flatMap_append, List.append_assoc]
    rfl
  rw [hshown] at hnewline
  have hprinted := foldl_appendText printed hnewline
  refine ⟨⟨?_, Holds.empty _, ?_, fun _ hc => absurd hc List.not_mem_nil⟩, rfl, printed, ?_⟩
  · rw [List.append_assoc, List.append_assoc] at hprinted
    exact hprinted
  · dsimp only
    rw [Function.update_self]
  · rw [List.append_assoc]
    rfl

/-- What each event does. -/
theorem event {σ : Type} (execute : σ → ShellAction → List UInt8 × σ) (hshows : app.Shows line transcript)
    (world : σ) (event : DesktopEvent) :
    (TerminalApp.event execute (app, world) event).2.1.Shows ((terminalKey event).elim line line.press)
        (transcript ++ (TerminalApp.event execute (app, world) event).1.appended)
      ∧ (TerminalApp.event execute (app, world) event).1.executed
        = if terminalKey event = some .enter then some (CString.scan line.symbols) else none := by
  have hsame : app.Shows line (transcript ++ []) := by rwa [List.append_nil]
  have herased : app.eraseInput.Shows line.erase (transcript ++ []) := by
    rw [List.append_nil]
    exact hshows.eraseInput
  have hprintable := @terminalPrintable_of_symbol event
  unfold TerminalApp.event terminalKey
  unfold terminalKey at hprintable
  dsimp only
  split
  · exact ⟨hsame, rfl⟩
  split
  · exact ⟨herased, rfl⟩
  split
  · exact ⟨hsame, rfl⟩
  split
  · exact ⟨herased, rfl⟩
  split
  · have hentered := hshows.enterLine execute world
    exact ⟨hentered.1, hentered.2.1⟩
  split
  · exact ⟨hsame, rfl⟩
  rename_i hc
  split
  · rename_i hfull
    refine ⟨?_, rfl⟩
    have hline := hshows.holds.add_of_full (Nat.le_of_succ_le_succ hfull) event.character
    have hadd : line.add event.character = line := by
      rw [Line.add, dif_neg]
      rw [← hshows.holds.length_eq]
      exact Nat.not_lt_of_le (Nat.le_of_succ_le_succ hfull)
    change app.Shows (line.add event.character) (transcript ++ [])
    rwa [hadd]
  · rename_i hroom
    refine ⟨?_, rfl⟩
    change Shows _ (line.add event.character) (transcript ++ [])
    rw [List.append_nil]
    exact hshows.symbol (by rw [terminalInputMax] at hroom; omega) hc

/-! ### The window -/

/-- The lines that are kept, read from the oldest on. -/
theorem lineAt_eq (hshows : app.Shows line transcript) :
    app.output.lineCount = (DropQueue.last terminalScrollbackLines (terminalLines transcript)).length
      ∧ ∀ index (hindex : index < (DropQueue.last terminalScrollbackLines (terminalLines transcript)).length),
        CString.scan (app.output.lineAt index)
          = (DropQueue.last terminalScrollbackLines (terminalLines transcript))[index] := by
  obtain ⟨done, current, hlines, hstate⟩ := hshows.output
  have hall : terminalLines transcript = done ++ [current] := hlines
  have hstores := hstate.stores
  rw [← hall] at hstores
  refine ⟨hstores.count_eq, fun index hindex => ?_⟩
  have hcell := hstores.ring.cell_eq index (by rwa [List.length_map])
  simp only [Nat.mod_mod, List.getElem_map] at hcell
  have hmem := List.mem_of_mem_drop (List.getElem_mem hindex)
  rw [TerminalAppState.lineAt, hcell]
  exact scan_terminalLineBuffer (LineWrap.length_le_of_mem (by decide) hmem)
    (zero_notMem_of_mem_terminalLines hmem)

/-- The window has the last of the lines, with the prompt below them, one on each row. -/
theorem drawnRows_eq (hshows : app.Shows line transcript) (height : Nat) :
    (app.drawnRows height).map Prod.snd = DropQueue.last (height / 10)
        (DropQueue.last terminalScrollbackLines (terminalLines transcript) ++ [terminalPrompt ++ line.symbols])
      ∧ (app.drawnRows height).map Prod.fst = List.range (app.drawnRows height).length := by
  obtain ⟨hcount, hlineAt⟩ := hshows.lineAt_eq
  generalize DropQueue.last terminalScrollbackLines (terminalLines transcript) = lines at hcount hlineAt ⊢
  have hrow : gfxFontHeight + terminalLineSpacing = 10 := rfl
  unfold drawnRows
  dsimp only
  rw [hrow, hcount, hshows.promptLine_eq]
  by_cases hnone : height / 10 = 0
  · rw [if_pos hnone, hnone, DropQueue.last, Nat.sub_zero, List.drop_length]
    exact ⟨rfl, rfl⟩
  rw [if_neg hnone]
  have hstart : (if height / 10 < lines.length + 1 then lines.length + 1 - height / 10 else 0)
      = lines.length + 1 - height / 10 := by
    split
    · rfl
    · omega
  rw [hstart]
  generalize hfrom : lines.length + 1 - height / 10 = start
  have hle : start ≤ lines.length := by omega
  constructor
  · rw [DropQueue.last, List.length_append, List.length_singleton, hfrom, List.drop_append_of_le_length hle,
      List.map_append, List.map_map]
    congr 1
    apply List.ext_getElem
    · rw [List.length_map, List.length_range', List.length_drop]
    · intro index hindex hbound
      rw [List.length_map, List.length_range'] at hindex
      rw [List.getElem_map, List.getElem_range', List.getElem_drop, Nat.one_mul]
      exact hlineAt (start + index) (by omega)
  · rw [List.length_append, List.length_map, List.length_range', List.length_singleton, List.range_succ,
      List.map_append, List.map_map, List.map_singleton]
    congr 1
    · apply List.ext_getElem
      · rw [List.length_map, List.length_range', List.length_range]
      · intro index hindex hbound
        rw [List.getElem_map, List.getElem_range', List.getElem_range, Nat.one_mul]
        exact Nat.add_sub_cancel_left start index
    · rw [List.cons.injEq]
      exact ⟨by omega, rfl⟩

end Shows

end TerminalApp

/-! ### A session -/

section Sessions

variable {σ : Type} {execute : σ → ShellAction → List UInt8 × σ}

/-- The line and what has been executed, behind an event. -/
theorem since_terminalKey {line : Line UInt8 63} {keys : List (Key UInt8)} {executed : List (List UInt8)}
    (hsince : TypedSession.Since line keys executed) (event : DesktopEvent) {output : TerminalOutput}
    (hexecuted : output.executed
      = if terminalKey event = some .enter then some (CString.scan line.symbols) else none) :
    TypedSession.Since ((terminalKey event).elim line line.press) (keys ++ [event].filterMap terminalKey)
      (executed ++ [output].filterMap (·.executed)) := by
  rw [List.filterMap_cons, List.filterMap_cons, List.filterMap_nil, List.filterMap_nil, hexecuted]
  cases terminalKey event with
  | none =>
      rw [if_neg (Option.some_ne_none _).symm, List.append_nil, List.append_nil]
      exact hsince
  | some key =>
      have hpressed := hsince.press key
      by_cases henter : key = .enter
      · rw [if_pos henter] at hpressed
        rw [if_pos (congrArg some henter)]
        exact hpressed
      · rw [if_neg henter] at hpressed
        rw [if_neg (mt Option.some.inj henter)]
        exact hpressed

theorem TerminalApp.Shows.run (events : List DesktopEvent) : ∀ {app : TerminalApp} {line : Line UInt8 63}
    {transcript : List UInt8} {keys : List (Key UInt8)} {executed : List (List UInt8)} {world : σ},
    app.Shows line transcript → TypedSession.Since line keys executed →
    ∃ last, (Machine.run (TerminalApp.event execute) (app, world) events).2.1.Shows last
        (transcript ++ (Machine.run (TerminalApp.event execute) (app, world) events).1.flatMap (·.appended))
      ∧ TypedSession.Since last (keys ++ events.filterMap terminalKey)
        (executed ++ (Machine.run (TerminalApp.event execute) (app, world) events).1.filterMap (·.executed)) := by
  induction events with
  | nil =>
      intro app line transcript keys executed world hshows hsince
      refine ⟨line, ?_, ?_⟩
      · change app.Shows line (transcript ++ [])
        rwa [List.append_nil]
      · change TypedSession.Since line (keys ++ []) (executed ++ [])
        rwa [List.append_nil, List.append_nil]
  | cons first rest ih =>
      intro app line transcript keys executed world hshows hsince
      obtain ⟨hnext, hexecuted⟩ := hshows.event execute world first
      obtain ⟨last, hlast, hall⟩ := @ih _ _ _ _ _ (TerminalApp.event execute (app, world) first).2.2 hnext
        (since_terminalKey hsince first hexecuted)
      refine ⟨last, ?_, ?_⟩
      · rw [Machine.run_cons, List.flatMap_cons, ← List.append_assoc]
        exact hlast
      · rw [List.append_assoc, List.append_assoc, ← List.filterMap_append, ← List.filterMap_append] at hall
        exact hall

/-- No terminator is typed. -/
theorem scan_edited {events : List DesktopEvent} {keys : List (Key UInt8)}
    (hkeys : keys ∈ (events.filterMap terminalKey).splitOn .enter) :
    CString.scan (edited keys : Line UInt8 63).symbols = (edited keys : Line UInt8 63).symbols := by
  refine scan_printable fun c hc => ?_
  have htyped := LineWrap.mem_of_mem_splitOn hkeys (symbol_mem_of_mem_edited hc)
  obtain ⟨event, -, hkey⟩ := List.mem_filterMap.mp htyped
  exact terminalPrintable_of_symbol hkey

/-- Whatever events reach a new terminal and whatever its commands print, it executes a line for each enter: what the
keys since the one before it have left of the line. Its input is what those since the last one have left. Its window
has the end of the last 128 lines of the transcript, and below them the prompt with the input, one on each row. -/
theorem terminal_session (execute : σ → ShellAction → List UInt8 × σ) (world : σ) (events : List DesktopEvent)
    (height : Nat) :
    let run := Machine.run (TerminalApp.event execute) (.alloc, world) events
    let drawn := run.2.1.drawnRows height
    ∃ done piece, (events.filterMap terminalKey).splitOn .enter = done ++ [piece]
      ∧ run.1.filterMap (·.executed) = done.map (fun keys => (edited keys : Line UInt8 63).symbols)
      ∧ run.2.1.inputText = (edited piece : Line UInt8 63).symbols
      ∧ drawn.map Prod.snd = DropQueue.last (height / 10)
        (DropQueue.last 128 (terminalLines (run.1.flatMap (·.appended)))
          ++ [terminalPrompt ++ (edited piece : Line UInt8 63).symbols])
      ∧ drawn.map Prod.fst = List.range drawn.length := by
  intro run drawn
  obtain ⟨last, hshows, hsince⟩ := @TerminalApp.Shows.run _ execute events _ _ _ _ _ world
    TerminalApp.alloc_shows TypedSession.since_nil
  obtain ⟨done, piece, hsplit, hexecuted, rfl⟩ := hsince.split
  obtain ⟨hdrawn, hrows⟩ := hshows.drawnRows_eq height
  refine ⟨done, piece, hsplit, hexecuted.trans (List.map_congr_left fun keys hkeys => ?_),
    hshows.inputText_eq, hdrawn, hrows⟩
  have hmem : keys ∈ (events.filterMap terminalKey).splitOn .enter := by
    change (events.filterMap terminalKey).splitOn .enter = done ++ [piece] at hsplit
    rw [hsplit]
    exact List.mem_append_left _ hkeys
  exact scan_edited hmem

end Sessions

end DuckOs

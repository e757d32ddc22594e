import DuckOs.Desktop.TerminalApp
import DuckOs.Lib.DropQueue
import DuckOs.Lib.LineWrap
import DuckOs.Lib.Ring

/-!
# The scrollback as the tail of the output

Whatever is written to a terminal, its lines are the last ones that the output fills. The line being
written is the last of them, and a line is wrapped when the first byte behind it comes.
-/

namespace DuckOs

/-- What a byte shows as; a newline stays. -/
def terminalShown (ch : UInt8) : List UInt8 :=
  if ch = 0x0d then []
  else if ch = 0x0a then [0x0a]
  else if ch = 0x09 then [0x20, 0x20, 0x20, 0x20]
  else if 32 ≤ ch ∧ ch ≤ 126 then [ch]
  else [0x3f]

/-- The lines that the output fills. -/
def terminalLines (output : List UInt8) : List (List UInt8) :=
  LineWrap.lines terminalLineMax 0x0a (output.flatMap terminalShown)

/-- The buffer of a line. -/
def terminalLineBuffer (line : List UInt8) : List UInt8 :=
  line ++ List.replicate (terminalLineMax + 1 - line.length) 0

theorem terminalLineBuffer_nil : terminalLineBuffer [] = TerminalAppState.clearedLine := rfl

/-- A byte and the terminator behind it. -/
theorem terminalLineBuffer_set {line : List UInt8} (hroom : line.length < terminalLineMax)
    (ch : UInt8) :
    ((terminalLineBuffer line).set line.length ch).set (line.length + 1) 0
      = terminalLineBuffer (line ++ [ch]) := by
  obtain ⟨rest, hrest⟩ : ∃ rest, terminalLineMax + 1 - line.length = rest + 2 :=
    ⟨terminalLineMax - 1 - line.length, by omega⟩
  have hless : terminalLineMax + 1 - (line ++ [ch]).length = rest + 1 := by
    rw [List.length_append, List.length_singleton]
    omega
  rw [terminalLineBuffer, terminalLineBuffer, hrest, hless, List.append_assoc,
    List.set_append_right _ _ (Nat.le_refl _), List.set_append_right _ _ (Nat.le_succ _),
    Nat.sub_self, Nat.succ_sub (Nat.le_refl _), Nat.sub_self]
  rfl

theorem scan_terminalLineBuffer {line : List UInt8} (hlength : line.length ≤ terminalLineMax)
    (hnul : 0 ∉ line) : CString.scan (terminalLineBuffer line) = line := by
  rw [terminalLineBuffer, Nat.succ_sub hlength, List.replicate_succ]
  exact CString.scan_append_nul hnul

theorem length_terminalLineBuffer {line : List UInt8} (hlength : line.length ≤ terminalLineMax) :
    (terminalLineBuffer line).length = terminalLineMax + 1 := by
  rw [terminalLineBuffer, List.length_append, List.length_replicate]
  omega

theorem zero_mem_terminalLineBuffer {line : List UInt8} (hlength : line.length ≤ terminalLineMax) :
    0 ∈ terminalLineBuffer line := by
  rw [terminalLineBuffer, Nat.succ_sub hlength, List.replicate_succ]
  exact List.mem_append_right _ List.mem_cons_self

namespace TerminalAppState

/-- The ring holds these lines, and every buffer is that of some line. -/
structure Stores (state : TerminalAppState) (shown : List (List UInt8)) : Prop where
  ring : Ring.Holds terminalScrollbackLines terminalScrollbackLines state.lines state.lineHead
    ((state.lineHead + state.lineCount) % terminalScrollbackLines) (shown.map terminalLineBuffer)
  count_eq : state.lineCount = shown.length
  count_le : shown.length ≤ terminalScrollbackLines
  buffers : ∀ index, ∃ line : List UInt8, line.length ≤ terminalLineMax
    ∧ state.lines index = terminalLineBuffer line

/-- The lines so far, the one being written last. -/
structure Shows (state : TerminalAppState) (done : List (List UInt8)) (current : List UInt8) :
    Prop where
  stores : state.Stores (DropQueue.last terminalScrollbackLines (done ++ [current]))
  length_eq : state.currentOutputLength = current.length
  current_le : current.length ≤ terminalLineMax

section Steps

variable {state : TerminalAppState} {shown done : List (List UInt8)} {current : List UInt8}

theorem Stores.buffers_update (hstores : state.Stores shown) (place : Nat) {line : List UInt8}
    (hlength : line.length ≤ terminalLineMax) (index : Nat) :
    ∃ other : List UInt8, other.length ≤ terminalLineMax
      ∧ Function.update state.lines place (terminalLineBuffer line) index
        = terminalLineBuffer other := by
  by_cases hindex : index = place
  · exact ⟨line, hlength, by rw [hindex, Function.update_self]⟩
  · rw [Function.update_of_ne hindex]
    exact hstores.buffers index

/-- A new line takes a free buffer, or that of the oldest line. -/
theorem Stores.beginNewLine (hstores : state.Stores shown) :
    state.beginNewLine.Stores (DropQueue.kept terminalScrollbackLines shown ++ [[]]) := by
  have hring := hstores.ring
  have hcount := hstores.count_eq
  have hcleared := fun place => @Stores.buffers_update _ _ hstores place [] (Nat.zero_le _)
  rw [terminalLineBuffer_nil] at hcleared
  unfold TerminalAppState.beginNewLine
  by_cases hroom : state.lineCount < terminalScrollbackLines
  · rw [if_pos hroom, DropQueue.kept_of_lt (hcount ▸ hroom)]
    have hpushed := hring.push (Nat.dvd_refl _) (by rwa [List.length_map, ← hcount]) clearedLine
    rw [Nat.mod_mod, Nat.mod_add_mod] at hpushed
    exact {
      ring := by rwa [List.map_append]
      count_eq := by rw [List.length_append, List.length_singleton, hcount]
      count_le := by rw [List.length_append, List.length_singleton, ← hcount]; exact hroom
      buffers := hcleared _ }
  · have hfull : shown.length = terminalScrollbackLines :=
      Nat.le_antisymm hstores.count_le (by rw [← hcount]; exact Nat.le_of_not_lt hroom)
    have hhead : (state.lineHead + state.lineCount) % terminalScrollbackLines = state.lineHead := by
      rw [hcount, hfull, Nat.add_mod_right, Nat.mod_eq_of_lt hring.consumer_lt]
    rw [if_neg hroom, DropQueue.kept_of_full hfull]
    cases shown with
    | nil => exact absurd hfull (by decide)
    | cons oldest rest =>
        have hrest : rest.length + 1 = terminalScrollbackLines := hfull
        have hpopped := hring.pop
        have hpushed := hpopped.push (Nat.dvd_refl _) (by rw [List.length_map]; omega) clearedLine
        rw [hhead, Nat.mod_eq_of_lt hring.consumer_lt] at hpushed
        have hnext : (state.lineHead + 1) % terminalScrollbackLines
            = ((state.lineHead + 1) % terminalScrollbackLines + state.lineCount)
              % terminalScrollbackLines := by
          rw [hcount, hfull, Nat.add_mod_right, Nat.mod_mod]
        exact {
          ring := by
            rw [← hnext, List.tail_cons, List.map_append]
            exact hpushed
          count_eq := by rw [List.tail_cons, List.length_append, List.length_singleton, hcount]; rfl
          count_le := by
            rw [List.tail_cons, List.length_append, List.length_singleton]
            exact Nat.le_of_eq hrest
          buffers := hcleared _ }

theorem beginNewLine_currentOutputLength (state : TerminalAppState) :
    state.beginNewLine.currentOutputLength = 0 := by
  unfold TerminalAppState.beginNewLine
  split
  · rfl
  · rfl

theorem Shows.beginNewLine (hshows : state.Shows done current) :
    state.beginNewLine.Shows (done ++ [current]) [] where
  stores := by
    rw [DropQueue.last_append (by decide)]
    exact hshows.stores.beginNewLine
  length_eq := beginNewLine_currentOutputLength state
  current_le := Nat.zero_le _

theorem Stores.currentLine_eq (hstores : state.Stores (shown ++ [current])) :
    state.currentLine = ((state.lineHead + shown.length) % terminalScrollbackLines, state) := by
  have hcount := hstores.count_eq
  rw [List.length_append, List.length_singleton] at hcount
  unfold currentLine
  rw [if_neg (by omega)]
  dsimp only
  rw [hcount]
  rfl

/-- The last line in use takes a byte. -/
theorem Stores.writeGlyph (hstores : state.Stores (shown ++ [current]))
    (hlength : state.currentOutputLength = current.length)
    (hroom : current.length < terminalLineMax) (ch : UInt8) :
    (state.writeGlyph ch).Stores (shown ++ [current ++ [ch]]) := by
  have hcount := hstores.count_eq
  have hle := hstores.count_le
  have hring := hstores.ring
  rw [List.length_append, List.length_singleton] at hcount hle
  rw [List.map_append, List.map_singleton] at hring
  have hreplaced := hring.replaceLast (Nat.dvd_refl _) (by rw [List.length_map]; exact hle)
    (terminalLineBuffer (current ++ [ch]))
  have hcell := hring.cell_eq shown.length
    (by rw [List.length_append, List.length_map, List.length_singleton]; exact Nat.lt_succ_self _)
  rw [List.getElem_append_right (by rw [List.length_map])] at hcell
  simp only [List.length_map, Nat.sub_self, List.getElem_cons_zero, Nat.mod_mod] at hcell hreplaced
  unfold TerminalAppState.writeGlyph
  rw [hstores.currentLine_eq]
  dsimp only
  rw [hcell, hlength, terminalLineBuffer_set hroom]
  exact {
    ring := by
      rw [List.map_append, List.map_singleton]
      exact hreplaced
    count_eq := by
      rw [List.length_append, List.length_singleton]
      exact hcount
    count_le := by
      rw [List.length_append, List.length_singleton]
      exact hle
    buffers := hstores.buffers_update _ (by rw [List.length_append]; exact hroom) }

theorem Shows.writeGlyph (hshows : state.Shows done current) (hroom : current.length < terminalLineMax)
    (ch : UInt8) : (state.writeGlyph ch).Shows done (current ++ [ch]) := by
  have hstores := hshows.stores
  rw [DropQueue.last_append (by decide)] at hstores
  exact {
    stores := by
      rw [DropQueue.last_append (by decide)]
      exact hstores.writeGlyph hshows.length_eq hroom ch
    length_eq := by
      unfold TerminalAppState.writeGlyph
      rw [hstores.currentLine_eq]
      dsimp only
      rw [List.length_append, List.length_singleton, hshows.length_eq]
    current_le := by
      rw [List.length_append, List.length_singleton]
      exact hroom }

/-- A byte that is shown goes to the current line, or to a new one if that is full. -/
theorem Shows.appendGlyph (hshows : state.Shows done current) {ch glyph : UInt8}
    (hglyph : (if ch < 32 ∨ 126 < ch then 0x3f else ch) = glyph) (hnewline : glyph ≠ 0x0a) :
    (state.appendGlyph ch).Shows
      (LineWrap.extend terminalLineMax 0x0a done current glyph).1
      (LineWrap.extend terminalLineMax 0x0a done current glyph).2 := by
  unfold TerminalAppState.appendGlyph LineWrap.extend
  rw [hglyph, if_neg (mt beq_iff_eq.mp hnewline), hshows.length_eq]
  by_cases hroom : current.length < terminalLineMax
  · rw [if_neg (Nat.not_le_of_lt hroom), if_pos hroom]
    exact hshows.writeGlyph hroom glyph
  · rw [if_pos (Nat.le_of_not_lt hroom), if_neg hroom]
    exact hshows.beginNewLine.writeGlyph (by decide) glyph

end Steps

/-- The state shows the lines that a text fills. -/
def ShowsText (state : TerminalAppState) (text : List UInt8) : Prop :=
  ∃ done current, LineWrap.lines terminalLineMax 0x0a text = done ++ [current]
    ∧ state.Shows done current

section Text

variable {state : TerminalAppState} {text : List UInt8}

theorem showsText_allocState : allocState.ShowsText [] := by
  refine ⟨[], [], LineWrap.lines_nil, ?_, rfl, Nat.zero_le _⟩
  have hempty : Stores ⟨fun _ => clearedLine, 0, 0, 0⟩ [] := {
    ring := Ring.holds_nil (by decide) _
    count_eq := rfl
    count_le := Nat.zero_le _
    buffers := fun _ => ⟨[], Nat.zero_le _, rfl⟩ }
  exact hempty.beginNewLine

theorem ShowsText.beginNewLine (hshows : state.ShowsText text) :
    state.beginNewLine.ShowsText (text ++ [0x0a]) := by
  obtain ⟨done, current, hlines, hstate⟩ := hshows
  refine ⟨done ++ [current], [], ?_, hstate.beginNewLine⟩
  rw [LineWrap.lines_append (by decide) hlines, LineWrap.extend, if_pos (beq_self_eq_true _)]

theorem ShowsText.appendGlyph (hshows : state.ShowsText text) {ch glyph : UInt8}
    (hglyph : (if ch < 32 ∨ 126 < ch then 0x3f else ch) = glyph) (hnewline : glyph ≠ 0x0a) :
    (state.appendGlyph ch).ShowsText (text ++ [glyph]) := by
  obtain ⟨done, current, hlines, hstate⟩ := hshows
  exact ⟨_, _, LineWrap.lines_append (by decide) hlines glyph, hstate.appendGlyph hglyph hnewline⟩

theorem ShowsText.appendChar (hshows : state.ShowsText text) (ch : UInt8) :
    (state.appendChar ch).ShowsText (text ++ terminalShown ch) := by
  unfold TerminalAppState.appendChar terminalShown
  by_cases hreturn : ch = 0x0d
  · rwa [if_pos hreturn, if_pos hreturn, List.append_nil]
  by_cases hnewline : ch = 0x0a
  · rw [if_neg hreturn, if_neg hreturn, if_pos hnewline, if_pos hnewline]
    exact hshows.beginNewLine
  by_cases htab : ch = 0x09
  · rw [if_neg hreturn, if_neg hreturn, if_neg hnewline, if_neg hnewline, if_pos htab, if_pos htab]
    have hblank : ∀ {state : TerminalAppState} {text : List UInt8}, state.ShowsText text →
        (state.appendGlyph 0x20).ShowsText (text ++ [0x20]) :=
      fun hshows => hshows.appendGlyph rfl (by decide)
    have hfour := hblank (hblank (hblank (hblank hshows)))
    rwa [List.append_assoc, List.append_assoc, List.append_assoc] at hfour
  rw [if_neg hreturn, if_neg hreturn, if_neg hnewline, if_neg hnewline, if_neg htab, if_neg htab]
  by_cases hprintable : 32 ≤ ch ∧ ch ≤ 126
  · rw [if_pos hprintable]
    refine hshows.appendGlyph (if_neg ?_) hnewline
    rintro (hlow | hhigh)
    · exact absurd hprintable.1 (UInt8.not_le.mpr hlow)
    · exact absurd hprintable.2 (UInt8.not_le.mpr hhigh)
  · rw [if_neg hprintable]
    refine hshows.appendGlyph (if_pos ?_) (by decide)
    rwa [← UInt8.not_le, ← UInt8.not_le, ← not_and_or]

theorem ShowsText.appendText (bytes : List UInt8) : ∀ {state : TerminalAppState} {text : List UInt8},
    state.ShowsText text → (state.appendText bytes).ShowsText (text ++ bytes.flatMap terminalShown) := by
  induction bytes with
  | nil =>
      intro state text hshows
      rwa [List.flatMap_nil, List.append_nil]
  | cons ch rest ih =>
      intro state text hshows
      rw [List.flatMap_cons, ← List.append_assoc]
      exact ih (hshows.appendChar ch)

theorem showsText_foldl (texts : List (List UInt8)) : ∀ {state : TerminalAppState} {text : List UInt8},
    state.ShowsText text →
    (texts.foldl appendText state).ShowsText (text ++ texts.flatten.flatMap terminalShown) := by
  induction texts with
  | nil =>
      intro state text hshows
      rwa [List.flatten_nil, List.flatMap_nil, List.append_nil]
  | cons bytes rest ih =>
      intro state text hshows
      rw [List.flatten_cons, List.flatMap_append, ← List.append_assoc]
      exact ih (ShowsText.appendText bytes hshows)

end Text

end TerminalAppState

theorem zero_notMem_terminalShown (ch : UInt8) : 0 ∉ terminalShown ch := by
  unfold terminalShown
  split_ifs with _ _ _ hprintable
  · exact List.not_mem_nil
  · decide
  · decide
  · rw [List.mem_singleton]
    rintro rfl
    exact absurd hprintable.1 (by decide)
  · decide

theorem zero_notMem_of_mem_terminalLines {output line : List UInt8} (hline : line ∈ terminalLines output) :
    0 ∉ line := by
  intro hzero
  obtain ⟨ch, -, hch⟩ := List.mem_flatMap.mp (LineWrap.mem_of_mem_lines hline hzero)
  exact zero_notMem_terminalShown ch hch

/-- A new terminal behind some calls of `terminal_app_append_text`. -/
def terminalAfter (texts : List (List UInt8)) : TerminalAppState :=
  texts.foldl TerminalAppState.appendText .allocState

/-- Whatever is appended to a new terminal, by any number of calls, its lines read from the oldest on are the
last 128 of those that the output fills, and every buffer is terminated. -/
theorem terminal_scrollback_is_tail (texts : List (List UInt8)) :
    (terminalAfter texts).lineCount = min 128 (terminalLines texts.flatten).length
      ∧ (List.range (terminalAfter texts).lineCount).map
          (fun index => CString.scan ((terminalAfter texts).lineAt index))
        = (terminalLines texts.flatten).drop ((terminalLines texts.flatten).length - 128)
      ∧ ∀ index, ((terminalAfter texts).lines index).length = 65
        ∧ 0 ∈ (terminalAfter texts).lines index := by
  obtain ⟨done, current, hlines, hshows⟩ :=
    TerminalAppState.showsText_foldl texts TerminalAppState.showsText_allocState
  change TerminalAppState.Shows (terminalAfter texts) done current at hshows
  generalize terminalAfter texts = state at hshows ⊢
  generalize houtput : terminalLines texts.flatten = lines
  have hall : lines = done ++ [current] := houtput.symm.trans hlines
  have hcount := hshows.stores.count_eq
  rw [← hall] at hcount
  refine ⟨by rw [hcount, DropQueue.length_last]; rfl, ?_, ?_⟩
  · refine List.ext_getElem ?_ fun index hindex hbound => ?_
    · rw [List.length_map, List.length_range, hcount]
      rfl
    · have hcell := hshows.stores.ring.cell_eq index (by rw [List.length_map, ← hall]; exact hbound)
      simp only [Nat.mod_mod, List.getElem_map] at hcell
      rw [List.getElem_map, List.getElem_range, TerminalAppState.lineAt, hcell]
      have hline : (lines.drop (lines.length - 128))[index] ∈ terminalLines texts.flatten := by
        rw [houtput]
        exact List.mem_of_mem_drop (List.getElem_mem hbound)
      have hscan := scan_terminalLineBuffer (LineWrap.length_le_of_mem (by decide) hline)
        (zero_notMem_of_mem_terminalLines hline)
      simp only [← hall]
      exact hscan
  · intro index
    obtain ⟨line, hlength, hbuffer⟩ := hshows.stores.buffers index
    rw [hbuffer]
    exact ⟨length_terminalLineBuffer hlength, zero_mem_terminalLineBuffer hlength⟩

end DuckOs

import DuckOs.Proof.TextEditorLines

/-!
# The rows that the editor draws

A row down and a row up lead back to the same row except where the row behind a full one holds a single
character. There the editor walks back over more rows than it counts, and the one with the cursor may not
be drawn.
-/

namespace DuckOs

open WrappedText

namespace TextEditorState

/-- The start of the line that many lines before the one that begins at `start`. -/
def lineBefore (state : TextEditorState) (columns start count : Nat) : Nat :=
  (state.findPrevLineStart · columns)^[count] start

/-- Both directions agree on the lines that are reached from the first one on. Wherever the cursor is, the
lines that are walked back are the first ones drawn, and the cursor is seen on the last of them. -/
structure LinesConsistent (state : TextEditorState) (columns : Nat) : Prop where
  back : ∀ start, Reached (state.findNextLineStart · columns) start →
    start < state.findNextLineStart start columns →
    state.findPrevLineStart (state.findNextLineStart start columns) columns = start
  drawn : ∀ cursor ≤ state.length, ∀ rows, 0 < rows →
    let shown := { state with cursor := cursor }
    let line := shown.findLineStart cursor columns
    let lineCount := (shown.view columns rows).2
    ((shown.drawnRows columns rows).take lineCount).map (·.start)
        = ((List.range lineCount).map (shown.lineBefore columns line)).reverse
      ∧ ∃ row ∈ shown.drawnRows columns rows, row.start = line ∧ row.cursorColumn ≠ none

theorem lineBefore_succ (state : TextEditorState) (columns start count : Nat) :
    state.lineBefore columns start (count + 1)
      = state.lineBefore columns (state.findPrevLineStart start columns) count := rfl

section Rows

variable {state : TextEditorState} {columns : Nat}

theorem reached_iff (hpos : 0 < columns) {start : Nat} :
    Reached (state.findNextLineStart · columns) start
      ↔ Reached (nextStart columns 0x0a state.bytes) start := by
  have hsame : ∀ count, (state.findNextLineStart · columns)^[count] 0
      = (nextStart columns 0x0a state.bytes)^[count] 0 := by
    intro count
    induction count with
    | zero => rfl
    | succ count ih =>
        have hreached : Reached (nextStart columns 0x0a state.bytes)
            ((nextStart columns 0x0a state.bytes)^[count] 0) := ⟨count, rfl⟩
        have hle := hreached.isStart.1
        rw [length_bytes] at hle
        rw [Function.iterate_succ_apply', Function.iterate_succ_apply', ih, findNextLineStart_eq hpos hle]
  rw [Reached, Reached]
  simp only [hsame]

/-- The lines go back and forth exactly when none behind a full one holds a single character. -/
theorem back_iff (hpos : 0 < columns) :
    (∀ start, Reached (state.findNextLineStart · columns) start →
        start < state.findNextLineStart start columns →
        state.findPrevLineStart (state.findNextLineStart start columns) columns = start)
      ↔ ∀ index < state.length, ¬ Cramped columns 0x0a state.bytes index := by
  have hiff := @forall_prevStart_nextStart_iff _ _ columns 0x0a state.bytes hpos
  rw [state.length_bytes] at hiff
  rw [← hiff]
  apply forall_congr'
  intro start
  rw [reached_iff hpos]
  apply imp_congr_right
  intro hreached
  have hle := hreached.isStart.1
  have hnext := @nextStart_le _ _ columns 0x0a _ _ hle
  rw [length_bytes] at hle hnext
  rw [findNextLineStart_eq hpos hle, findPrevLineStart_eq hpos hnext]

/-- The walk back, one line after another. -/
theorem viewLoop_eq (hpos : 0 < columns)
    (hroomy : ∀ index < state.length, ¬ Cramped columns 0x0a state.bytes index) :
    ∀ {left viewStart : Nat} (lineCount : Nat), viewStart ≤ state.length →
      IsStart columns 0x0a state.bytes viewStart →
      ∃ count ≤ left,
        state.viewLoop columns left viewStart lineCount
            = (state.lineBefore columns viewStart count, lineCount + count)
          ∧ ∀ index < count,
            state.lineBefore columns viewStart (index + 1) < state.lineBefore columns viewStart index
              ∧ state.findNextLineStart (state.lineBefore columns viewStart (index + 1)) columns
                = state.lineBefore columns viewStart index := by
  intro left
  induction left with
  | zero =>
      intro viewStart lineCount hlength hstart
      exact ⟨0, Nat.le_refl 0, rfl, fun index hindex => absurd hindex (Nat.not_lt_zero index)⟩
  | succ left ih =>
      intro viewStart lineCount hlength hstart
      rw [viewLoop]
      by_cases hzero : viewStart = 0
      · rw [if_pos hzero]
        exact ⟨0, Nat.zero_le _, rfl, fun index hindex => absurd hindex (Nat.not_lt_zero index)⟩
      · have hprev := @findPrevLineStart_eq state columns hpos _ hlength
        obtain ⟨hlt, hisStart, hnext⟩ := nextStart_prevStart hpos
          (by rwa [length_bytes]) (Nat.pos_of_ne_zero hzero) (by rwa [length_bytes]) hstart
        rw [← hprev] at hlt hisStart hnext
        rw [← findNextLineStart_eq hpos (by omega)] at hnext
        obtain ⟨count, hcount, hloop, hsteps⟩ := ih (lineCount + 1) (by omega) hisStart
        refine ⟨count + 1, Nat.succ_le_succ hcount, ?_, fun index hindex => ?_⟩
        · rw [if_neg hzero]
          dsimp only
          rw [if_neg (by omega), hloop, lineBefore_succ, Nat.add_assoc, Nat.add_comm 1 count]
        · cases index with
          | zero => exact ⟨hlt, hnext⟩
          | succ index =>
              rw [lineBefore_succ, lineBefore_succ]
              exact hsteps index (Nat.lt_of_succ_lt_succ hindex)

/-- The walk forward over lines given from the last one to the first. It does not end before the last. -/
theorem map_start_take_drawLoop {starts : Nat → Nat}
    (hend : starts 0 = state.length → 0 < state.length → state.text (state.length - 1) = 0x0a)
    (hinside : starts 0 ≤ state.length) : ∀ {count left : Nat}, count < left →
      (∀ index < count, starts (index + 1) < starts index
        ∧ state.findNextLineStart (starts (index + 1)) columns = starts index) →
      starts count ≤ starts 0
        ∧ ((state.drawLoop columns left (starts count)).take (count + 1)).map (·.start)
          = ((List.range (count + 1)).map starts).reverse := by
  intro count
  induction count with
  | zero =>
      intro left hleft hsteps
      obtain ⟨left, rfl⟩ : ∃ rest, left = rest + 1 := ⟨left - 1, by omega⟩
      refine ⟨Nat.le_refl _, ?_⟩
      rw [drawLoop, if_neg (by omega)]
      dsimp only
      split
      · rfl
      · rfl
  | succ count ih =>
      intro left hleft hsteps
      obtain ⟨left, rfl⟩ : ∃ rest, left = rest + 1 := ⟨left - 1, by omega⟩
      obtain ⟨hle, hrest⟩ := @ih left (by omega) fun index hindex => hsteps index (by omega)
      obtain ⟨hlt, hnext⟩ := hsteps count (Nat.lt_succ_self count)
      refine ⟨by omega, ?_⟩
      rw [drawLoop, if_neg (by omega)]
      dsimp only
      rw [hnext, if_neg, List.take_succ_cons, List.map_cons, hrest, List.range_succ (n := count + 1)]
      · simp [row]
      · rintro ⟨hlast, hbreak⟩
        have hline : starts 0 = state.length := by omega
        rcases hbreak with ⟨-, hnone⟩ | ⟨hpositive, hother, -⟩ | hempty
        · omega
        · exact hother (hend hline hpositive)
        · omega

/-- The row of the cursor shows the cursor. -/
theorem cursorColumn_row (hpos : 0 < columns) (hcursor : state.cursor ≤ state.length) :
    (state.row columns (state.findLineStart state.cursor columns)).cursorColumn ≠ none := by
  have hline := @findLineStart_eq state columns hpos _ hcursor
  have hle := @lineStart_le _ _ columns 0x0a state.bytes state.cursor
  have hbehind := @le_nextStart_lineStart _ _ columns 0x0a state.bytes state.cursor hpos
    (by rwa [length_bytes])
  rw [← hline] at hle hbehind
  rw [← findNextLineStart_eq hpos (by omega)] at hbehind
  rw [row]
  dsimp only
  rw [if_pos ⟨hle, hbehind⟩]
  exact Option.some_ne_none _

/-- The rows are those of the loop. -/
theorem eq_row_of_mem_drawLoop {drawn : TextEditorRow} : ∀ {left walk : Nat},
    drawn ∈ state.drawLoop columns left walk → drawn = state.row columns drawn.start := by
  intro left
  induction left with
  | zero =>
      intro walk hdrawn
      exact absurd hdrawn List.not_mem_nil
  | succ left ih =>
      intro walk hdrawn
      rw [drawLoop] at hdrawn
      split at hdrawn
      · exact absurd hdrawn List.not_mem_nil
      · dsimp only at hdrawn
        split at hdrawn
        · obtain rfl := List.mem_singleton.mp hdrawn
          rfl
        · rcases List.mem_cons.mp hdrawn with rfl | hrest
          · rfl
          · exact ih hrest

theorem drawn_of_roomy (hpos : 0 < columns) (hcursor : state.cursor ≤ state.length)
    (hroomy : ∀ index < state.length, ¬ Cramped columns 0x0a state.bytes index) {rows : Nat}
    (hrows : 0 < rows) :
    ((state.drawnRows columns rows).take (state.view columns rows).2).map (·.start)
        = ((List.range (state.view columns rows).2).map
            (state.lineBefore columns (state.findLineStart state.cursor columns))).reverse
      ∧ ∃ row ∈ state.drawnRows columns rows,
        row.start = state.findLineStart state.cursor columns ∧ row.cursorColumn ≠ none := by
  have hline := @findLineStart_eq state columns hpos _ hcursor
  have hle := @lineStart_le _ _ columns 0x0a state.bytes state.cursor
  have hstart := @isStart_lineStart _ _ columns 0x0a state.bytes state.cursor
  have hshows := cursorColumn_row hpos hcursor
  have hend : state.findLineStart state.cursor columns = state.length → 0 < state.length →
      state.text (state.length - 1) = 0x0a := by
    intro hlast hpositive
    have hsame : WrappedText.lineStart columns 0x0a state.bytes state.cursor = state.cursor := by omega
    have hcursorLast : state.cursor = state.length := by omega
    rcases afterNewline_of_lineStart_eq hsame with hzero | hnewline
    · omega
    · obtain ⟨hindex, hbyte⟩ := List.getElem?_eq_some_iff.mp hnewline
      rwa [getElem_bytes, hcursorLast] at hbyte
  rw [← hline] at hle hstart
  obtain ⟨count, hcount, hloop, hsteps⟩ :=
    @viewLoop_eq state columns hpos hroomy (rows - 1) _ 1 (by omega) hstart
  have hview : state.view columns rows
      = (state.lineBefore columns (state.findLineStart state.cursor columns) count, count + 1) := by
    rw [view, hloop, Nat.add_comm]
  obtain ⟨-, hdrawn⟩ := @map_start_take_drawLoop state columns
    (state.lineBefore columns (state.findLineStart state.cursor columns)) hend (by exact hle.trans hcursor)
    count rows (by omega) hsteps
  rw [drawnRows, hview]
  refine ⟨hdrawn, ?_⟩
  have hmem : state.findLineStart state.cursor columns
      ∈ ((List.range (count + 1)).map
        (state.lineBefore columns (state.findLineStart state.cursor columns))).reverse :=
    List.mem_reverse.mpr (List.mem_map.mpr ⟨0, List.mem_range.mpr (Nat.succ_pos count), rfl⟩)
  rw [← hdrawn] at hmem
  obtain ⟨drawn, htake, hsame⟩ := List.mem_map.mp hmem
  refine ⟨drawn, List.mem_of_mem_take htake, hsame, ?_⟩
  rw [eq_row_of_mem_drawLoop (List.mem_of_mem_take htake), hsame]
  exact hshows

/-- In a window with room for a character the cursor is seen. -/
theorem render_shows_cursor {window : DesktopWindow} (hcolumns : 0 < textEditorColumns window)
    (hrows : 0 < textEditorRows window) (hcursor : state.cursor ≤ state.length)
    (hroomy : ∀ index < state.length, ¬ Cramped (textEditorColumns window) 0x0a state.bytes index) :
    ∃ row ∈ textEditorAppRender window state,
      row.start = state.findLineStart state.cursor (textEditorColumns window)
        ∧ row.cursorColumn ≠ none := by
  rw [textEditorAppRender, if_neg (by omega)]
  exact (drawn_of_roomy hcolumns hcursor hroomy hrows).2

end Rows

end TextEditorState

/-- The lines of the editor are consistent exactly when no row behind a full one holds a single character:
a newline, the last character of the text, or any character if there is only one column. -/
theorem text_editor_lines_consistent_iff (state : TextEditorState) (columns : Nat) (hpos : 1 ≤ columns) :
    state.LinesConsistent columns
      ↔ ∀ index < state.length, ¬ Cramped columns 0x0a state.bytes index := by
  constructor
  · intro hconsistent
    exact (TextEditorState.back_iff hpos).mp hconsistent.back
  · intro hroomy
    refine ⟨(TextEditorState.back_iff hpos).mpr hroomy, fun cursor hcursor rows hrows => ?_⟩
    exact @TextEditorState.drawn_of_roomy { state with cursor := cursor } columns hpos hcursor hroomy
      rows hrows

/-- Five characters in lines of two: the newline behind the first line is a line of its own. -/
def fullLineEditor : TextEditorState where
  text := fun index => ([0x61, 0x62, 0x0a, 0x63, 0x64] : List UInt8).getD index 0
  length := 5
  cursor := 5
  status := ascii "file loaded"
  path := ascii "/a.txt"

theorem text_editor_lines_consistent_three : fullLineEditor.LinesConsistent 3 :=
  (text_editor_lines_consistent_iff fullLineEditor 3 (by decide)).mpr (by decide)

/-- From the third line back to the second is back to the first, and with two rows the third is not
drawn. -/
theorem text_editor_lines_two_columns :
    ¬ fullLineEditor.LinesConsistent 2
      ∧ fullLineEditor.findNextLineStart 2 2 = 3 ∧ fullLineEditor.findPrevLineStart 3 2 = 0
      ∧ fullLineEditor.findLineStart fullLineEditor.cursor 2 = 3
      ∧ (fullLineEditor.drawnRows 2 2).map (·.start) = [0, 2] := by
  refine ⟨fun hconsistent => ?_, by decide, by decide, by decide, by decide⟩
  have hback := hconsistent.back 2 ⟨1, by decide⟩ (by decide)
  exact absurd hback (by decide)

end DuckOs

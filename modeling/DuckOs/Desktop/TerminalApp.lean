import DuckOs.Lib.CString
import Mathlib.Logic.Function.Basic

/-!
# The scrollback of the terminal

The output half of `src/desktop/terminal_app.c`. The lines are a ring of buffers, of which the last one
in use is still being written.
-/

namespace DuckOs

def terminalScrollbackLines : Nat := 128

def terminalLineMax : Nat := 64

/-- The fields of `terminal_app_state_t` for the output. A line is a buffer of `TERMINAL_LINE_MAX + 1`
bytes. -/
structure TerminalAppState where
  lines : Nat → List UInt8
  lineCount : Nat
  lineHead : Nat
  currentOutputLength : Nat

namespace TerminalAppState

def clearedLine : List UInt8 := List.replicate (terminalLineMax + 1) 0

/-- `terminal_app_begin_new_line`. -/
def beginNewLine (state : TerminalAppState) : TerminalAppState :=
  if state.lineCount < terminalScrollbackLines then
    let index := (state.lineHead + state.lineCount) % terminalScrollbackLines
    { state with
      lines := Function.update state.lines index clearedLine
      lineCount := state.lineCount + 1
      currentOutputLength := 0 }
  else
    let index := state.lineHead
    { state with
      lines := Function.update state.lines index clearedLine
      lineHead := (state.lineHead + 1) % terminalScrollbackLines
      currentOutputLength := 0 }

/-- The state that `terminal_app_alloc_state` returns. -/
def allocState : TerminalAppState := beginNewLine ⟨fun _ => clearedLine, 0, 0, 0⟩

/-- `terminal_app_current_line`: the index of the line. -/
def currentLine (state : TerminalAppState) : Nat × TerminalAppState :=
  let state := if state.lineCount = 0 then state.beginNewLine else state
  ((state.lineHead + state.lineCount - 1) % terminalScrollbackLines, state)

/-- `terminal_app_line_at`. -/
def lineAt (state : TerminalAppState) (index : Nat) : List UInt8 :=
  state.lines ((state.lineHead + index) % terminalScrollbackLines)

/-- The end of `terminal_app_append_char`: a byte and the terminator behind it. -/
def writeGlyph (state : TerminalAppState) (ch : UInt8) : TerminalAppState :=
  let index := state.currentLine.1
  let state := state.currentLine.2
  let line := (state.lines index).set state.currentOutputLength ch
  { state with
    lines := Function.update state.lines index (line.set (state.currentOutputLength + 1) 0)
    currentOutputLength := state.currentOutputLength + 1 }

/-- `terminal_app_append_char` behind its tests for `'\r'`, `'\n'` and `'\t'`. -/
def appendGlyph (state : TerminalAppState) (ch : UInt8) : TerminalAppState :=
  let ch := if ch < 32 ∨ 126 < ch then 0x3f else ch
  if terminalLineMax ≤ state.currentOutputLength then state.beginNewLine.writeGlyph ch
  else state.writeGlyph ch

/-- `terminal_app_append_char`. A tab calls it four times, with a blank, which is none of the three. -/
def appendChar (state : TerminalAppState) (ch : UInt8) : TerminalAppState :=
  if ch = 0x0d then state
  else if ch = 0x0a then state.beginNewLine
  else if ch = 0x09 then
    (((state.appendGlyph 0x20).appendGlyph 0x20).appendGlyph 0x20).appendGlyph 0x20
  else state.appendGlyph ch

/-- `terminal_app_append_text`. -/
def appendText (state : TerminalAppState) (text : List UInt8) : TerminalAppState :=
  text.foldl appendChar state

end TerminalAppState

end DuckOs

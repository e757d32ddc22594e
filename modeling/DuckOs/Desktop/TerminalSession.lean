import DuckOs.Desktop.Input
import DuckOs.Desktop.TerminalApp
import DuckOs.Gfx.Text
import DuckOs.Kernel.ShellCommands

/-!
# The terminal

The input half of `src/desktop/terminal_app.c`: the line that is edited, the commands that are executed with their
output captured, and the rows that are drawn.
-/

namespace DuckOs

def terminalInputMax : Nat := 64

def terminalPrompt : List UInt8 := ascii "duck-os@dev > "

def terminalLineSpacing : Nat := 2

/-- `terminal_app_state_t`. -/
structure TerminalApp where
  output : TerminalAppState
  input : Nat → UInt8
  inputLength : Nat

/-- What is appended to the scrollback, and the line that is executed. -/
structure TerminalOutput where
  appended : List UInt8
  executed : Option (List UInt8)
  deriving DecidableEq

def TerminalOutput.none : TerminalOutput := ⟨[], .none⟩

namespace TerminalApp

/-- What `terminal_app_alloc_state` returns. -/
def alloc : TerminalApp := ⟨.allocState, fun _ => 0, 0⟩

def inputText (app : TerminalApp) : List UInt8 :=
  CString.scan ((List.range terminalInputMax).map app.input)

/-- `prompt_line`, in its buffer of `sizeof(TERMINAL_PROMPT) + TERMINAL_INPUT_MAX` bytes. -/
def promptLine (app : TerminalApp) : List UInt8 :=
  let size := terminalPrompt.length + 1 + terminalInputMax
  let promptLine := strlcpy terminalPrompt size
  promptLine ++ strlcpy app.inputText (size - promptLine.length)

def eraseInput (app : TerminalApp) : TerminalApp :=
  if 0 < app.inputLength then
    { app with
      input := Function.update app.input (app.inputLength - 1) 0
      inputLength := app.inputLength - 1 }
  else app

/-- The line is entered. `execute` is `shell_run_command`; each character that it prints goes to
`terminal_app_shell_output` by itself. -/
def enterLine {σ : Type} (execute : σ → ShellAction → List UInt8 × σ) (app : TerminalApp) (world : σ) :
    TerminalOutput × TerminalApp × σ :=
  let output := (app.output.appendText app.promptLine).beginNewLine
  let ran := execute world (shellRunCommand app.inputText)
  (⟨app.promptLine ++ 0x0a :: ran.1, some app.inputText⟩,
    { output := ran.1.foldl (fun output ch => output.appendText [ch]) output
      input := Function.update app.input 0 0
      inputLength := 0 },
    ran.2)

/-- `terminal_app_event`. -/
def event {σ : Type} (execute : σ → ShellAction → List UInt8 × σ) (state : TerminalApp × σ)
    (event : DesktopEvent) : TerminalOutput × TerminalApp × σ :=
  let app := state.1
  if event.type = .windowClose then (.none, state)
  else if event.type = .key ∧ event.input.pressed = inputKeyPress
      ∧ event.input.keycode = inputKeyBackspace then (.none, app.eraseInput, state.2)
  else if event.type ≠ .char then (.none, state)
  else if event.character = 0x08 ∨ event.character = 0x7f then (.none, app.eraseInput, state.2)
  else if event.character = 0x0a ∨ event.character = 0x0d then app.enterLine execute state.2
  else if event.character < 32 ∨ 126 < event.character then (.none, state)
  else if terminalInputMax ≤ app.inputLength + 1 then (.none, state)
  else
    (.none,
      { app with
        input := Function.update (Function.update app.input app.inputLength event.character)
          (app.inputLength + 1) 0
        inputLength := app.inputLength + 1 },
      state.2)

/-- The strings that `terminal_app_render` draws in a window of a height, each with its row. -/
def drawnRows (app : TerminalApp) (height : Nat) : List (Nat × List UInt8) :=
  let visibleRows := height / (gfxFontHeight + terminalLineSpacing)
  if visibleRows = 0 then []
  else
    let totalRows := app.output.lineCount + 1
    let startRow := if visibleRows < totalRows then totalRows - visibleRows else 0
    (List.range' startRow (app.output.lineCount - startRow)).map
        (fun row => (row - startRow, CString.scan (app.output.lineAt row)))
      ++ [(totalRows - startRow - 1, app.promptLine)]

end TerminalApp

end DuckOs

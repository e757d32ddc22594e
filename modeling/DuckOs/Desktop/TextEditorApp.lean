import DuckOs.Desktop.AppRegistry
import DuckOs.Desktop.Input
import DuckOs.Fs.Vfs
import DuckOs.Gfx.Text

/-!
# The editor

`src/desktop/text_editor_app.c`. The text is edited in its buffer; the rows on the screen are found by walking
through it. Of what is drawn only the rows are here.
-/

namespace DuckOs

open ByteStore

def editorTextMax : Nat := 4096

def editorStatusMax : Nat := 64

def editorPathMax : Nat := 64

def editorLineSpacing : Nat := 2

def editorMargin : Nat := 6

def editorHeaderHeight : Nat := 18

def editorStatusHeight : Nat := 14

/-- The size of `line_buffer`. -/
def editorLineBufferSize : Nat := 80

/-- `text_editor_state_t` without `active`. -/
structure TextEditorState where
  text : Store
  length : Nat
  cursor : Nat
  status : List UInt8
  path : List UInt8

namespace TextEditorState

def setStatus (state : TextEditorState) (message : List UInt8) : TextEditorState :=
  { state with status := strlcpy message editorStatusMax }

/-- What `text_editor_reset` leaves. -/
def reset : TextEditorState := setStatus ⟨fun _ => 0, 0, 0, [], []⟩ (ascii "ready")

/-! ### Editing -/

/-- The loop of `text_editor_insert_char`, from `index` down. -/
def shiftUp (cursor : Nat) : (index : Nat) → Store → Store
  | 0, text => text
  | index + 1, text =>
      if cursor < index + 1 then shiftUp cursor index (Function.update text (index + 1) (text index))
      else text

/-- The loop of `text_editor_backspace`, from `index` up; `count` rounds remain. -/
def shiftDown : (count index : Nat) → Store → Store
  | 0, _, text => text
  | count + 1, index, text => shiftDown count (index + 1) (Function.update text index (text (index + 1)))

def insertChar (state : TextEditorState) (ch : UInt8) : TextEditorState :=
  if editorTextMax ≤ state.length + 1 then state.setStatus (ascii "buffer full")
  else
    let text := shiftUp state.cursor state.length state.text
    { state with
      text := Function.update (Function.update text state.cursor ch) (state.length + 1) 0
      length := state.length + 1
      cursor := state.cursor + 1 }

def backspace (state : TextEditorState) : TextEditorState :=
  if state.cursor = 0 ∨ state.length = 0 then state
  else
    let text := shiftDown (state.length - 1 - (state.cursor - 1)) (state.cursor - 1) state.text
    { state with
      text := Function.update text (state.length - 1) 0
      length := state.length - 1
      cursor := state.cursor - 1 }

/-! ### Lines -/

/-- The loop of `text_editor_find_line_start`, while `scan` is below `index`; `left` rounds remain. -/
def lineStartLoop (state : TextEditorState) (columns : Nat) : (left scan count start : Nat) → Nat
  | 0, _, _, start => start
  | left + 1, scan, count, start =>
      let start := if count = 0 then scan else start
      if state.text scan = 0x0a then lineStartLoop state columns left (scan + 1) 0 (scan + 1)
      else
        let count := if columns ≤ count + 1 then 0 else count + 1
        lineStartLoop state columns left (scan + 1) count start

def findLineStart (state : TextEditorState) (index columns : Nat) : Nat :=
  if columns = 0 then 0 else state.lineStartLoop columns (min index state.length) 0 0 0

def findPrevLineStart (state : TextEditorState) (lineStart columns : Nat) : Nat :=
  if lineStart = 0 then 0 else state.findLineStart (lineStart - 1) columns

/-- The loop of `text_editor_find_next_line_start`, while `index` is below the length; `left` rounds
remain. -/
def nextStartLoop (state : TextEditorState) (columns : Nat) : (left index count : Nat) → Nat
  | 0, _, _ => state.length
  | left + 1, index, count =>
      if state.text index = 0x0a then index + 1
      else if columns ≤ count + 1 then index + 1
      else nextStartLoop state columns left (index + 1) (count + 1)

def findNextLineStart (state : TextEditorState) (lineStart columns : Nat) : Nat :=
  if columns = 0 then lineStart
  else state.nextStartLoop columns (state.length - lineStart) lineStart 0

/-- The loop of `text_editor_line_length`, while `index` is below the length. -/
def lineLengthLoop (state : TextEditorState) (columns : Nat) : (left index count : Nat) → Nat
  | 0, _, count => count
  | left + 1, index, count =>
      if count < columns then
        if state.text index = 0x0a then count
        else lineLengthLoop state columns left (index + 1) (count + 1)
      else count

def lineLength (state : TextEditorState) (lineStart columns : Nat) : Nat :=
  state.lineLengthLoop columns (state.length - lineStart) lineStart 0

def cursorPrevLine (state : TextEditorState) (columns : Nat) : Nat :=
  let lineStart := state.findLineStart state.cursor columns
  if lineStart = 0 then state.cursor
  else
    let prevStart := state.findPrevLineStart lineStart columns
    let column := state.cursor - lineStart
    let prevLength := state.lineLength prevStart columns
    prevStart + if prevLength < column then prevLength else column

def cursorNextLine (state : TextEditorState) (columns : Nat) : Nat :=
  let lineStart := state.findLineStart state.cursor columns
  let nextStart := state.findNextLineStart lineStart columns
  if state.length ≤ nextStart ∧ nextStart = lineStart then state.cursor
  else
    let column := state.cursor - lineStart
    let nextLength := state.lineLength nextStart columns
    nextStart + if nextLength < column then nextLength else column

/-! ### Files -/

/-- `text_editor_load_file`, with how it fares. A read that fails has already copied `copied`. The file
is closed again, so that the table stays as it is. -/
def loadFile (vfs : VfsState) (table : FileTable) (copied path : List UInt8) :
    DesktopFileLoad × TextEditorState :=
  if path = [] then (.loaded, reset.setStatus (ascii "new file"))
  else
    let state := { reset with path := strlcpy path editorPathMax }
    match fileOpen vfs table path with
    | none => (.openFailed, state.setStatus (ascii "open failed"))
    | some (_, file) =>
        match fileRead vfs file (editorTextMax - 1) with
        | none =>
            let text := Function.update (patch state.text 0 copied) 0 0
            (.readFailed, { state with text := text, length := 0 }.setStatus (ascii "read failed"))
        | some (bytes, _) =>
            let text := Function.update (patch state.text 0 bytes) bytes.length 0
            (.loaded, { state with text := text, length := bytes.length, cursor := bytes.length }.setStatus
              (ascii "file loaded"))

end TextEditorState

/-! ### Events -/

def textEditorSaveButtonHitTest (window : DesktopWindow) (x y : Nat) : Bool :=
  let buttonX := int32 (int32 (window.contentX + int32 window.contentWidth) - 56)
  let buttonY := int32 (window.contentY + 2)
  uint32 buttonX ≤ x ∧ x < uint32 (int32 (buttonX + 48))
    ∧ uint32 buttonY ≤ y ∧ y < uint32 (int32 (buttonY + 14))

/-- `columns` of `text_editor_app_event`, which is never 0. -/
def textEditorEventColumns (window : DesktopWindow) : Nat :=
  let columns :=
    if editorMargin * 2 < window.contentWidth then
      (window.contentWidth - editorMargin * 2) / gfxFontWidth
    else 1
  if columns = 0 then 1 else columns

/-- The keys of `text_editor_app_event`; `none` if it is none of them. -/
def TextEditorState.arrowKey (state : TextEditorState) (columns keycode : Nat) :
    Option TextEditorState :=
  if keycode = inputKeyLeft then
    some (if 0 < state.cursor then { state with cursor := state.cursor - 1 } else state)
  else if keycode = inputKeyRight then
    some (if state.cursor < state.length then { state with cursor := state.cursor + 1 } else state)
  else if keycode = inputKeyUp then some { state with cursor := state.cursorPrevLine columns }
  else if keycode = inputKeyDown then some { state with cursor := state.cursorNextLine columns }
  else none

/-- The characters of `text_editor_app_event`. -/
def TextEditorState.typed (state : TextEditorState) (character : UInt8) : TextEditorState :=
  if character = 0x08 ∨ character = 0x7f then state.backspace
  else if character = 0x0a ∨ character = 0x0d then state.insertChar 0x0a
  else if character < 32 ∨ 126 < character then state
  else state.insertChar character

/-- `text_editor_app_event` with the state of the window. -/
def textEditorAppEvent (fb : Option Framebuffer) (desktop : Desktop) (window : DesktopWindow)
    (state : TextEditorState) (event : DesktopEvent) : TextEditorState × Desktop :=
  let columns := textEditorEventColumns window
  match event.type with
  | .buttonDown =>
      if textEditorSaveButtonHitTest window event.cursorX event.cursorY then
        (state.setStatus (ascii "save not supported yet"),
          (desktopShowAlert desktop fb (ascii "Save Unsupported")
            (ascii "Saving files not supported yet")).2)
      else (state, desktop)
  | .key =>
      if event.input.pressed = inputKeyPress ∨ event.input.pressed = inputKeyRepeat then
        ((state.arrowKey columns event.input.keycode).getD state, desktop)
      else (state, desktop)
  | .char => (state.typed event.character, desktop)
  | _ => (state, desktop)

/-! ### Rows -/

/-- A row that is drawn: where it begins in the text, what is in `line_buffer` and the column of the
cursor if it is on the row. -/
structure TextEditorRow where
  start : Nat
  line : List UInt8
  cursorColumn : Option Nat
  deriving DecidableEq

namespace TextEditorState

/-- The first loop of `text_editor_app_render`, for `left` more lines at most: the start of the view, and
the lines walked back. -/
def viewLoop (state : TextEditorState) (columns : Nat) : (left viewStart lineCount : Nat) → Nat × Nat
  | 0, viewStart, lineCount => (viewStart, lineCount)
  | left + 1, viewStart, lineCount =>
      if viewStart = 0 then (viewStart, lineCount)
      else
        let prevStart := state.findPrevLineStart viewStart columns
        if prevStart = viewStart then (viewStart, lineCount)
        else viewLoop state columns left prevStart (lineCount + 1)

/-- `view_start` and `line_count` of `text_editor_app_render`, behind its first loop. -/
def view (state : TextEditorState) (columns rows : Nat) : Nat × Nat :=
  state.viewLoop columns (rows - 1) (state.findLineStart state.cursor columns) 1

/-- The loop that fills `line_buffer`. -/
def lineBufferLoop (state : TextEditorState) (columns : Nat) : (left index count : Nat) → List UInt8
  | 0, _, _ => []
  | left + 1, index, count =>
      if count < columns ∧ count + 1 < editorLineBufferSize ∧ state.text index ≠ 0x0a then
        state.text index :: lineBufferLoop state columns left (index + 1) (count + 1)
      else []

def row (state : TextEditorState) (columns walk : Nat) : TextEditorRow :=
  let line := state.lineBufferLoop columns (state.length - walk) walk 0
  { start := walk
    line := line
    cursorColumn :=
      if walk ≤ state.cursor ∧ state.cursor ≤ state.findNextLineStart walk columns then
        some (if line.length < state.cursor - walk then line.length else state.cursor - walk)
      else none }

/-- The second loop of `text_editor_app_render`, for `left` more rows at most. -/
def drawLoop (state : TextEditorState) (columns : Nat) : (left walk : Nat) → List TextEditorRow
  | 0, _ => []
  | left + 1, walk =>
      if state.length < walk then []
      else
        let row := state.row columns walk
        let next := state.findNextLineStart walk columns
        if next = state.length ∧ (state.cursor = state.length ∧ left = 0
            ∨ 0 < state.length ∧ state.text (state.length - 1) ≠ 0x0a ∧ row.line.length < columns
            ∨ state.length = 0) then [row]
        else row :: drawLoop state columns left next

def drawnRows (state : TextEditorState) (columns rows : Nat) : List TextEditorRow :=
  state.drawLoop columns rows (state.view columns rows).1

end TextEditorState

/-- `columns` of `text_editor_app_render`. -/
def textEditorColumns (window : DesktopWindow) : Nat :=
  if editorMargin * 2 < window.contentWidth then
    (window.contentWidth - editorMargin * 2) / gfxFontWidth
  else 0

/-- `rows` of `text_editor_app_render`. The height of the text is an unsigned difference. -/
def textEditorRows (window : DesktopWindow) : Nat :=
  let textHeight := uint32 (window.contentHeight - editorHeaderHeight - editorStatusHeight)
  if editorMargin < textHeight then (textHeight - editorMargin) / (gfxFontHeight + editorLineSpacing)
  else 0

/-- The rows that `text_editor_app_render` draws. -/
def textEditorAppRender (window : DesktopWindow) (state : TextEditorState) : List TextEditorRow :=
  let columns := textEditorColumns window
  let rows := textEditorRows window
  if columns = 0 ∨ rows = 0 then [] else state.drawnRows columns rows

end DuckOs

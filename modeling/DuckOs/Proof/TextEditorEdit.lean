import DuckOs.Lib.EditBuffer
import DuckOs.Proof.FileRun
import DuckOs.Proof.TextEditorLines

/-!
# Editing

Whatever is loaded and typed, the buffer of the editor is a text with a cursor. The in-place moves are
insertions into a list and deletions from it, and the cursor stays in the text on every way through the
lines.
-/

namespace DuckOs

open ByteStore

/-! ### What the editor is for -/

/-- The bytes that the editor takes from a file. -/
def textEditorFile (vfs : VfsState) (table : FileTable) (path : List UInt8) : List UInt8 :=
  if path = [] then []
  else
    match fileOpen vfs table path with
    | none => []
    | some (_, file) => ((fileRead vfs file (editorTextMax - 1)).map (·.1)).getD []

abbrev TextEditorBuffer := EditBuffer UInt8 (editorTextMax - 1)

def textEditorArrow (keycode : Nat) : EditBuffer.Key UInt8 :=
  if keycode = inputKeyLeft then .left
  else if keycode = inputKeyRight then .right
  else if keycode = inputKeyUp then .up
  else if keycode = inputKeyDown then .down
  else .other

/-- Only printable characters are typed, and a carriage return is a newline. -/
def textEditorTyped (character : UInt8) : EditBuffer.Key UInt8 :=
  if character = 0x08 ∨ character = 0x7f then .backspace
  else if character = 0x0a ∨ character = 0x0d then .symbol 0x0a
  else if 32 ≤ character ∧ character ≤ 126 then .symbol character
  else .other

def textEditorKey (event : DesktopEvent) : EditBuffer.Key UInt8 :=
  match event.type with
  | .char => textEditorTyped event.character
  | .key =>
      if desktopInputIsKeyPressed event.input then textEditorArrow event.input.keycode else .other
  | _ => .other

/-- A call of the event handler, with the window and the desktop as they are then. -/
structure TextEditorCall where
  fb : Option Framebuffer
  desktop : Desktop
  window : DesktopWindow
  event : DesktopEvent

def TextEditorState.handle (state : TextEditorState) (call : TextEditorCall) : TextEditorState :=
  (textEditorAppEvent call.fb call.desktop call.window state call.event).1

def TextEditorCall.press (buffer : TextEditorBuffer) (call : TextEditorCall) : TextEditorBuffer :=
  buffer.press (textEditorEventColumns call.window) 0x0a (textEditorKey call.event)

namespace TextEditorState

/-- The state stands for a text with a cursor, and a NUL is behind the text. -/
structure Shows (state : TextEditorState) (buffer : TextEditorBuffer) : Prop where
  bytes_eq : state.bytes = buffer.text
  cursor_eq : state.cursor = buffer.cursor
  terminated : state.text state.length = 0

section Edits

theorem shiftUp_apply {cursor place : Nat} : ∀ {index : Nat} {text : Store},
    shiftUp cursor index text place
      = if cursor < place ∧ place ≤ index then text (place - 1) else text place := by
  intro index
  induction index with
  | zero =>
      intro text
      rw [shiftUp, if_neg (by omega)]
  | succ index ih =>
      intro text
      rw [shiftUp]
      by_cases hcursor : cursor < index + 1
      · rw [if_pos hcursor, ih]
        split
        · rw [Function.update_of_ne (by omega), if_pos (by omega)]
        · by_cases hlast : place = index + 1
          · rw [hlast, Function.update_self, if_pos (by omega), Nat.add_sub_cancel]
          · rw [Function.update_of_ne hlast, if_neg (by omega)]
      · rw [if_neg hcursor, if_neg (by omega)]

theorem shiftDown_apply {place : Nat} : ∀ {count index : Nat} {text : Store},
    shiftDown count index text place
      = if index ≤ place ∧ place < index + count then text (place + 1) else text place := by
  intro count
  induction count with
  | zero =>
      intro index text
      rw [shiftDown, if_neg (by omega)]
  | succ count ih =>
      intro index text
      rw [shiftDown, ih]
      split
      · rw [Function.update_of_ne (by omega), if_pos (by omega)]
      · by_cases hfirst : place = index
        · rw [hfirst, Function.update_self, if_pos (by omega)]
        · rw [Function.update_of_ne hfirst, if_neg (by omega)]

variable {state : TextEditorState}

theorem getElem?_bytes (index : Nat) :
    state.bytes[index]? = if index < state.length then some (state.text index) else none := by
  split
  next hindex =>
    have hget := @getElem?_slice state.text 0 _ _ hindex
    rwa [Nat.zero_add] at hget
  next hindex => exact List.getElem?_eq_none (by rw [length_bytes]; omega)

theorem insertChar_of_lt (hroom : state.length + 1 < editorTextMax) (ch : UInt8) :
    state.insertChar ch
      = { state with
          text := Function.update (Function.update (shiftUp state.cursor state.length state.text)
            state.cursor ch) (state.length + 1) 0
          length := state.length + 1
          cursor := state.cursor + 1 } := if_neg (Nat.not_le_of_lt hroom)

theorem backspace_of_pos (hpositive : 0 < state.cursor) (hcursor : state.cursor ≤ state.length) :
    state.backspace
      = { state with
          text := Function.update (shiftDown (state.length - 1 - (state.cursor - 1)) (state.cursor - 1)
            state.text) (state.length - 1) 0
          length := state.length - 1
          cursor := state.cursor - 1 } := if_neg (by omega)

theorem bytes_insertChar (hroom : state.length + 1 < editorTextMax) (hcursor : state.cursor ≤ state.length)
    (ch : UInt8) :
    (state.insertChar ch).bytes
      = state.bytes.take state.cursor ++ ch :: state.bytes.drop state.cursor := by
  have htake : (state.bytes.take state.cursor).length = state.cursor := by
    rw [List.length_take, length_bytes, Nat.min_eq_left hcursor]
  apply List.ext_getElem?
  intro index
  rw [insertChar_of_lt hroom, getElem?_bytes]
  dsimp only
  rcases Nat.lt_trichotomy index state.cursor with hbefore | rfl | hbehind
  · rw [List.getElem?_append_left (by omega), List.getElem?_take_of_lt hbefore, getElem?_bytes,
      if_pos (by omega), if_pos (by omega), Function.update_of_ne (by omega),
      Function.update_of_ne (by omega), shiftUp_apply, if_neg (by omega)]
  · rw [List.getElem?_append_right (by omega), htake, Nat.sub_self, List.getElem?_cons_zero,
      if_pos (by omega), Function.update_of_ne (by omega), Function.update_self]
  · obtain ⟨rest, rfl⟩ : ∃ rest, index = state.cursor + rest + 1 := ⟨index - state.cursor - 1, by omega⟩
    have hsub : state.cursor + rest + 1 - state.cursor = rest + 1 := by omega
    rw [List.getElem?_append_right (by omega), htake, hsub, List.getElem?_cons_succ,
      List.getElem?_drop, getElem?_bytes]
    by_cases hinside : state.cursor + rest < state.length
    · rw [if_pos (by omega), if_pos hinside, Function.update_of_ne (by omega),
        Function.update_of_ne (by omega), shiftUp_apply, if_pos (by omega), Nat.add_sub_cancel]
    · rw [if_neg (by omega), if_neg hinside]

theorem bytes_backspace (hpositive : 0 < state.cursor) (hcursor : state.cursor ≤ state.length) :
    state.backspace.bytes = state.bytes.take (state.cursor - 1) ++ state.bytes.drop state.cursor := by
  have htake : (state.bytes.take (state.cursor - 1)).length = state.cursor - 1 := by
    rw [List.length_take, length_bytes, Nat.min_eq_left (by omega)]
  apply List.ext_getElem?
  intro index
  rw [backspace_of_pos hpositive hcursor, getElem?_bytes]
  dsimp only
  rcases Nat.lt_or_ge index (state.cursor - 1) with hbefore | hbehind
  · rw [List.getElem?_append_left (by omega), List.getElem?_take_of_lt hbefore, getElem?_bytes,
      if_pos (by omega), if_pos (by omega), Function.update_of_ne (by omega), shiftDown_apply,
      if_neg (by omega)]
  · have hplace : state.cursor + (index - (state.cursor - 1)) = index + 1 := by omega
    rw [List.getElem?_append_right (by omega), htake, List.getElem?_drop, hplace, getElem?_bytes]
    by_cases hinside : index + 1 < state.length
    · rw [if_pos (by omega), if_pos hinside, Function.update_of_ne (by omega), shiftDown_apply,
        if_pos (by omega)]
    · rw [if_neg (by omega), if_neg hinside]

end Edits

section Keys

variable {state : TextEditorState} {buffer : TextEditorBuffer}

theorem Shows.length_eq (hshows : state.Shows buffer) : buffer.text.length = state.length := by
  rw [← hshows.bytes_eq, length_bytes]

theorem Shows.cursor_le (hshows : state.Shows buffer) : state.cursor ≤ state.length := by
  rw [hshows.cursor_eq, ← hshows.length_eq]
  exact buffer.cursor_le

theorem Shows.length_le (hshows : state.Shows buffer) : state.length ≤ editorTextMax - 1 := by
  rw [← hshows.length_eq]
  exact buffer.length_le

theorem Shows.insertChar (hshows : state.Shows buffer) (ch : UInt8) :
    (state.insertChar ch).Shows (buffer.insert ch) := by
  have hlength := hshows.length_eq
  by_cases hroom : state.length + 1 < editorTextMax
  · obtain ⟨htext, hcursor⟩ := @EditBuffer.insert_of_lt _ _ buffer (by omega) ch
    refine ⟨?_, ?_, ?_⟩
    · rw [bytes_insertChar hroom hshows.cursor_le, htext, hshows.bytes_eq, hshows.cursor_eq]
    · rw [insertChar_of_lt hroom, hcursor, ← hshows.cursor_eq]
    · rw [insertChar_of_lt hroom]
      exact Function.update_self _ _ _
  · rw [EditBuffer.insert_of_le (by omega), TextEditorState.insertChar, if_pos (Nat.le_of_not_lt hroom)]
    exact ⟨hshows.bytes_eq, hshows.cursor_eq, hshows.terminated⟩

/-- A full buffer refuses every character, and no other one does. -/
theorem Shows.insertChar_refused_iff (hshows : state.Shows buffer) (ch : UInt8) :
    (state.insertChar ch).bytes = state.bytes ↔ state.length = editorTextMax - 1 := by
  have hle := hshows.length_le
  constructor
  · intro hsame
    have hlength := congrArg List.length hsame
    rw [length_bytes, length_bytes] at hlength
    by_contra hroom
    rw [insertChar_of_lt (by omega)] at hlength
    exact absurd hlength (Nat.succ_ne_self state.length)
  · intro hfull
    rw [TextEditorState.insertChar, if_pos (by omega)]
    rfl

theorem Shows.backspace (hshows : state.Shows buffer) : state.backspace.Shows buffer.backspace := by
  rcases Nat.eq_zero_or_pos state.cursor with hzero | hpositive
  · rw [TextEditorState.backspace, if_pos (Or.inl hzero)]
    refine ⟨?_, ?_, hshows.terminated⟩
    · rw [EditBuffer.text_backspace, ← hshows.cursor_eq, hzero, List.take_zero, List.drop_zero,
        List.nil_append, hshows.bytes_eq]
    · rw [EditBuffer.cursor_backspace, ← hshows.cursor_eq, hzero]
  · refine ⟨?_, ?_, ?_⟩
    · rw [bytes_backspace hpositive hshows.cursor_le, EditBuffer.text_backspace, hshows.bytes_eq,
        hshows.cursor_eq]
    · rw [backspace_of_pos hpositive hshows.cursor_le, EditBuffer.cursor_backspace, ← hshows.cursor_eq]
    · rw [backspace_of_pos hpositive hshows.cursor_le]
      exact Function.update_self _ _ _

theorem Shows.moveTo (hshows : state.Shows buffer) {place : Nat} (hplace : place ≤ state.length) :
    ({ state with cursor := place } : TextEditorState).Shows (buffer.moveTo place) := by
  refine ⟨hshows.bytes_eq, ?_, hshows.terminated⟩
  rw [EditBuffer.cursor_moveTo, hshows.length_eq, Nat.min_eq_left hplace]

/-- The cursor stays where it is. -/
theorem Shows.stay (hshows : state.Shows buffer) {place : Nat}
    (hplace : min place state.length = state.cursor) : state.Shows (buffer.moveTo place) := by
  refine ⟨hshows.bytes_eq, ?_, hshows.terminated⟩
  rw [EditBuffer.cursor_moveTo, hshows.length_eq, hplace]

theorem Shows.left (hshows : state.Shows buffer) :
    (if 0 < state.cursor then { state with cursor := state.cursor - 1 } else state).Shows buffer.left := by
  have hcursor := hshows.cursor_le
  rw [EditBuffer.left, ← hshows.cursor_eq]
  split
  · exact hshows.moveTo (by omega)
  · exact hshows.stay (by omega)

theorem Shows.right (hshows : state.Shows buffer) :
    (if state.cursor < state.length then { state with cursor := state.cursor + 1 } else state).Shows
      buffer.right := by
  have hcursor := hshows.cursor_le
  rw [EditBuffer.right, ← hshows.cursor_eq]
  split
  next hinside => exact hshows.moveTo hinside
  next hlast => exact hshows.stay (by omega)

variable {columns : Nat}

/-- The column of the cursor, on the row that begins at `start`. -/
theorem Shows.toRow (hshows : state.Shows buffer) {start column : Nat} (hstart : start ≤ state.length)
    (hcolumn : column = state.cursor - WrappedText.lineStart columns 0x0a state.bytes state.cursor) :
    ({ state with
        cursor := start + if state.lineLength start columns < column then state.lineLength start columns
          else column } : TextEditorState).Shows (buffer.toRow columns 0x0a start) := by
  have hinside := @WrappedText.add_lineLength_le _ _ columns 0x0a state.bytes start
    (by rwa [length_bytes])
  rw [length_bytes, ← lineLength_eq hstart] at hinside
  have hmin : (if state.lineLength start columns < column then state.lineLength start columns else column)
      = min column (WrappedText.lineLength columns 0x0a buffer.text start) := by
    rw [← hshows.bytes_eq, ← lineLength_eq hstart]
    split
    · omega
    · omega
  rw [hmin, EditBuffer.toRow, ← hshows.cursor_eq, hcolumn, hshows.bytes_eq]
  apply hshows.moveTo
  rw [← hshows.bytes_eq, ← lineLength_eq hstart]
  omega

theorem Shows.up (hshows : state.Shows buffer) (hpos : 0 < columns) :
    ({ state with cursor := state.cursorPrevLine columns } : TextEditorState).Shows
      (buffer.up columns 0x0a) := by
  have hline := @findLineStart_eq state columns hpos _ hshows.cursor_le
  have hle := @WrappedText.lineStart_le _ _ columns 0x0a state.bytes state.cursor
  have hcursor := hshows.cursor_le
  rw [cursorPrevLine, hline, EditBuffer.up, ← hshows.bytes_eq, ← hshows.cursor_eq]
  split
  · exact hshows
  · rw [findPrevLineStart_eq hpos (by omega)]
    have hprev := @WrappedText.prevStart_le _ _ columns 0x0a state.bytes
      (WrappedText.lineStart columns 0x0a state.bytes state.cursor)
    exact hshows.toRow (by omega) rfl

theorem Shows.down (hshows : state.Shows buffer) (hpos : 0 < columns) :
    ({ state with cursor := state.cursorNextLine columns } : TextEditorState).Shows
      (buffer.down columns 0x0a) := by
  have hline := @findLineStart_eq state columns hpos _ hshows.cursor_le
  have hle := @WrappedText.lineStart_le _ _ columns 0x0a state.bytes state.cursor
  have hcursor := hshows.cursor_le
  have hnext := @WrappedText.nextStart_le _ _ columns 0x0a state.bytes
    (WrappedText.lineStart columns 0x0a state.bytes state.cursor) (by rw [length_bytes]; omega)
  rw [cursorNextLine, hline, findNextLineStart_eq hpos (by omega), EditBuffer.down, ← hshows.bytes_eq,
    ← hshows.cursor_eq]
  dsimp only
  split
  next hlast =>
    -- The row is the last one, and the cursor is at its end.
    apply hshows.stay
    omega
  next => exact hshows.toRow (by rwa [length_bytes] at hnext) rfl

theorem Shows.arrowKey (hshows : state.Shows buffer) (hpos : 0 < columns) (keycode : Nat) :
    ((state.arrowKey columns keycode).getD state).Shows
      (buffer.press columns 0x0a (textEditorArrow keycode)) := by
  rw [TextEditorState.arrowKey, textEditorArrow]
  by_cases hleft : keycode = inputKeyLeft
  · rw [if_pos hleft, if_pos hleft]
    exact hshows.left
  rw [if_neg hleft, if_neg hleft]
  by_cases hright : keycode = inputKeyRight
  · rw [if_pos hright, if_pos hright]
    exact hshows.right
  rw [if_neg hright, if_neg hright]
  by_cases hup : keycode = inputKeyUp
  · rw [if_pos hup, if_pos hup]
    exact hshows.up hpos
  rw [if_neg hup, if_neg hup]
  by_cases hdown : keycode = inputKeyDown
  · rw [if_pos hdown, if_pos hdown]
    exact hshows.down hpos
  · rw [if_neg hdown, if_neg hdown]
    exact hshows

theorem Shows.typed (hshows : state.Shows buffer) (character : UInt8) :
    (state.typed character).Shows (buffer.press columns 0x0a (textEditorTyped character)) := by
  rw [TextEditorState.typed, textEditorTyped]
  by_cases hback : character = 0x08 ∨ character = 0x7f
  · rw [if_pos hback, if_pos hback]
    exact hshows.backspace
  rw [if_neg hback, if_neg hback]
  by_cases hnewline : character = 0x0a ∨ character = 0x0d
  · rw [if_pos hnewline, if_pos hnewline]
    exact hshows.insertChar 0x0a
  rw [if_neg hnewline, if_neg hnewline]
  have hprintable : 32 ≤ character ∧ character ≤ 126 ↔ ¬ (character < 32 ∨ 126 < character) := by
    rw [not_or, UInt8.not_lt, UInt8.not_lt]
  by_cases hother : character < 32 ∨ 126 < character
  · rw [if_pos hother, if_neg (fun hboth => hprintable.mp hboth hother)]
    exact hshows
  · rw [if_neg hother, if_pos (hprintable.mpr hother)]
    exact hshows.insertChar character

theorem textEditorEventColumns_pos (window : DesktopWindow) : 0 < textEditorEventColumns window := by
  have hpositive : ∀ columns : Nat, 0 < if columns = 0 then 1 else columns := by
    intro columns
    split
    · exact Nat.one_pos
    next hcolumns => exact Nat.pos_of_ne_zero hcolumns
  exact hpositive _

/-- One event does to the buffer what the key does to the text with the cursor. -/
theorem Shows.handle (hshows : state.Shows buffer) (call : TextEditorCall) :
    (state.handle call).Shows (call.press buffer) := by
  have hpos := textEditorEventColumns_pos call.window
  rw [TextEditorState.handle, textEditorAppEvent, TextEditorCall.press, textEditorKey]
  cases call.event.type with
  | key =>
      have hpressed : desktopInputIsKeyPressed call.event.input = true
          ↔ call.event.input.pressed = inputKeyPress ∨ call.event.input.pressed = inputKeyRepeat := by
        rw [desktopInputIsKeyPressed, decide_eq_true_iff]
      by_cases hkey : call.event.input.pressed = inputKeyPress ∨ call.event.input.pressed = inputKeyRepeat
      · dsimp only
        rw [if_pos hkey, if_pos (hpressed.mpr hkey)]
        exact hshows.arrowKey hpos _
      · dsimp only
        rw [if_neg hkey, if_neg (fun htrue => hkey (hpressed.mp htrue))]
        exact hshows
  | char => exact hshows.typed _
  | buttonDown =>
      dsimp only
      split
      · exact ⟨hshows.bytes_eq, hshows.cursor_eq, hshows.terminated⟩
      · exact hshows
  | none | redraw | buttonUp | cursorMove | windowClose => exact hshows

/-- A whole run of events. -/
theorem Shows.handleAll (calls : List TextEditorCall) : ∀ {state : TextEditorState}
    {buffer : TextEditorBuffer}, state.Shows buffer →
      (calls.foldl TextEditorState.handle state).Shows (calls.foldl TextEditorCall.press buffer) := by
  induction calls with
  | nil => exact fun hshows => hshows
  | cons call calls ih => exact fun hshows => ih (hshows.handle call)

end Keys

section Files

theorem shows_load {state : TextEditorState} {bytes : List UInt8} (hlength : state.length = bytes.length)
    (hle : bytes.length ≤ editorTextMax - 1) (hbytes : state.bytes = bytes)
    (hcursor : state.cursor = state.length) (hterminated : state.text state.length = 0) :
    state.Shows (EditBuffer.load bytes) := by
  have htake : bytes.take (editorTextMax - 1) = bytes := List.take_of_length_le hle
  refine ⟨?_, ?_, hterminated⟩
  · rw [EditBuffer.text_load, htake, hbytes]
  · rw [EditBuffer.cursor_load, htake, hcursor, hlength]

theorem shows_loadFile (vfs : VfsState) (table : FileTable) (copied path : List UInt8) :
    (loadFile vfs table copied path).2.Shows (EditBuffer.load (textEditorFile vfs table path)) := by
  rw [loadFile, textEditorFile]
  split
  · exact shows_load rfl (Nat.zero_le _) slice_zero rfl rfl
  · cases fileOpen vfs table path with
    | none => exact shows_load rfl (Nat.zero_le _) slice_zero rfl rfl
    | some opened =>
        dsimp only
        cases hread : fileRead vfs opened.2 (editorTextMax - 1) with
        | none =>
            have hterminated := Function.update_self 0 0 (patch reset.text 0 copied)
            exact shows_load rfl (Nat.zero_le _) slice_zero rfl hterminated
        | some result =>
            refine shows_load rfl (length_le_of_fileRead hread) ?_ rfl (Function.update_self _ _ _)
            have houtside := @slice_update_of_outside (patch (fun _ => 0) 0 result.1) 0 result.1.length
              result.1.length 0 (Or.inr (by omega))
            exact houtside.trans slice_patch_self

/-- Of a file on a mounted file system the editor takes the first 4095 bytes. -/
theorem textEditorFile_eq {vfs : VfsState} {device : BlockDevice} {table : FileTable}
    {path bytes : List UInt8} (hmounted : vfs.Mounted device)
    (hcontents : vfs.contents device path = some bytes) (hfree : ∃ handle, table handle = none) :
    textEditorFile vfs table path = bytes.take (editorTextMax - 1) := by
  obtain ⟨entry, hnamed, rfl⟩ := Option.map_eq_some_iff.mp hcontents
  have hpath : path ≠ [] := by
    rintro rfl
    cases hnamed
  have hsome : ((List.finRange fileTableMax).find? fun handle => (table handle).isNone).isSome := by
    obtain ⟨handle, hnone⟩ := hfree
    exact List.find?_isSome.mpr ⟨handle, List.mem_finRange handle, by rw [hnone]; rfl⟩
  obtain ⟨handle, hfind⟩ := Option.isSome_iff_exists.mp hsome
  have hnames := (namedFile_names hmounted.ready hmounted.tinyfs_ready hnamed).name
  have hshows : OpenFile.Shows vfs device ⟨entry.name, entry.size, 0, entry.flags, entry.size_lt⟩
      ⟨entry.contents device, 0⟩ :=
    ⟨⟨entry, namedFile_mem hnamed, hnames, rfl, rfl, rfl⟩, rfl, Nat.zero_le _⟩
  obtain ⟨next, hread, -⟩ := hshows.read hmounted (editorTextMax - 1)
  rw [textEditorFile, if_neg hpath, fileOpen_eq hmounted, hnamed, hfind]
  dsimp only [Option.bind_some, Option.map_some]
  rw [hread]
  rfl

end Files

end TextEditorState

/-- Whatever has been loaded and whatever the events are, in windows of any width, the editor shows the
text with a cursor that the same keys make out of the bytes of the file. A character is refused exactly by
a full buffer. -/
theorem text_editor_list_with_cursor (vfs : VfsState) (table : FileTable) (copied path : List UInt8)
    (calls : List TextEditorCall) :
    let state := calls.foldl TextEditorState.handle (TextEditorState.loadFile vfs table copied path).2
    let start : TextEditorBuffer := EditBuffer.load (textEditorFile vfs table path)
    state.bytes = (calls.foldl TextEditorCall.press start).text
      ∧ state.cursor = (calls.foldl TextEditorCall.press start).cursor
      ∧ state.length ≤ 4095 ∧ state.cursor ≤ state.length ∧ state.text state.length = 0
      ∧ (∀ ch, (state.insertChar ch).bytes = state.bytes ↔ state.length = 4095)
      ∧ ∀ device bytes, vfs.Mounted device → vfs.contents device path = some bytes →
        (∃ handle, table handle = none) → start = EditBuffer.load bytes := by
  intro state start
  have hshows : state.Shows (calls.foldl TextEditorCall.press start) :=
    TextEditorState.Shows.handleAll calls (TextEditorState.shows_loadFile vfs table copied path)
  refine ⟨hshows.bytes_eq, hshows.cursor_eq, hshows.length_le, hshows.cursor_le, hshows.terminated, ?_, ?_⟩
  · exact hshows.insertChar_refused_iff
  · intro device bytes hmounted hcontents hfree
    exact (congrArg EditBuffer.load (TextEditorState.textEditorFile_eq hmounted hcontents hfree)).trans
      (EditBuffer.load_take bytes)

def charCall (character : UInt8) : TextEditorCall :=
  ⟨none, .boot, .zero, { DesktopEvent.init with type := .char, character := character }⟩

def keyCall (keycode : Nat) : TextEditorCall :=
  ⟨none, .boot, .zero,
    { DesktopEvent.init with type := .key, input := ⟨.key keycode, .keyboard, inputKeyPress, 0⟩ }⟩

theorem text_editor_list_with_cursor_six :
    let calls := [charCall 0x78, keyCall inputKeyLeft, keyCall inputKeyUp, charCall 0x08]
    let state := calls.foldl TextEditorState.handle
      (TextEditorState.loadFile twoBlockVfs (fun _ => none) [] [0x2f, 0x61]).2
    state.bytes = [1, 2, 3, 5, 6, 0x78] ∧ state.cursor = 3 := by
  intro calls state
  obtain ⟨hbytes, hcursor, -, -, -, -, hloaded⟩ :=
    text_editor_list_with_cursor twoBlockVfs (fun _ => none) [] [0x2f, 0x61] calls
  have hstart := hloaded _ _ twoBlockVfs_mounted rfl ⟨0, rfl⟩
  rw [hstart] at hbytes hcursor
  exact ⟨hbytes.trans (by decide), hcursor.trans (by decide)⟩

end DuckOs

import DuckOs.Proof.ConsoleScreen

/-!
# The graphics console is a terminal

The cells, the picture and the dirty rectangle of the graphics console follow the screen of a terminal,
whatever is written, flushed and switched.
-/

namespace DuckOs

/-! ### Runs -/

/-- What is called once a framebuffer is attached. The functions that write strings are sequences of
these. -/
inductive ConsoleCall where
  | putc (c : UInt8)
  | flush (available : Bool)
  | setOutputMode (mode : UInt32) (available : Bool)

namespace ConsoleState

/-- The rectangle that is flushed, and the console behind the call. -/
def call (console : ConsoleState) : ConsoleCall → Option FlushRect × ConsoleState
  | .putc c => (none, console.putcUnlocked c)
  | .flush available => console.flushUnlocked available
  | .setOutputMode mode available => console.setOutputMode mode available

/-- The places whose words have changed since the last flush, and the console. -/
structure Tracked where
  console : ConsoleState
  changed : Set (Nat × Nat)

def Tracked.call (tracked : Tracked) (consoleCall : ConsoleCall) : Tracked :=
  let result := tracked.console.call consoleCall
  { console := result.2
    changed :=
      if result.1.isSome then ∅
      else tracked.changed
        ∪ {place | result.2.gfx.fb.pixel place ≠ tracked.console.gfx.fb.pixel place} }

/-- Attaching counts as a change of every word of the framebuffer. -/
def attached (fb : Framebuffer) (result : Option FlushRect × ConsoleState) : Tracked where
  console := result.2
  changed := if result.1.isSome then ∅ else {place | place.1 < fb.width ∧ place.2 < fb.height}

end ConsoleState

/-- The bytes that are written while the graphics sink is enabled. -/
def graphicsBytes : (mode : UInt32) → List ConsoleCall → List UInt8
  | _, [] => []
  | mode, .putc c :: rest =>
      if mode &&& consoleSinkGraphics ≠ 0 then c :: graphicsBytes mode rest else graphicsBytes mode rest
  | mode, .flush _ :: rest => graphicsBytes mode rest
  | _, .setOutputMode mode _ :: rest =>
      graphicsBytes (mode &&& (consoleSinkSerial ||| consoleSinkGraphics)) rest

/-- The cursor is on the grid; the cells are those of the terminal; each block of a cell shows its glyph,
but for the two rows of the cursor; and what has changed lies in the dirty rectangle, which is on the
framebuffer. -/
structure ConsoleFollows {rows cols : Nat} (fb : Framebuffer) (tracked : ConsoleState.Tracked)
    (screen : CellScreen rows cols UInt8) : Prop where
  size_eq : tracked.console.gfx.fb.toFramebuffer = fb
  cols_eq : tracked.console.gfx.cols = cols
  rows_eq : tracked.console.gfx.rows = rows
  cursor_lt : tracked.console.gfx.cursorCol < cols ∧ tracked.console.gfx.cursorRow < rows
  cursorCol_eq : tracked.console.gfx.cursorCol = screen.col.val
  cursorRow_eq : tracked.console.gfx.cursorRow = screen.row.val
  cellChar_eq : ∀ (row : Fin rows) (col : Fin cols),
    tracked.console.gfx.cellChar col.val row.val = screen.cell row col
  visible : tracked.console.graphics = true → tracked.console.gfx.cursorVisible = true
  pixel_eq : ∀ (row : Fin rows) (col : Fin cols), ∀ dy < 8, ∀ dx < 8,
    tracked.console.gfx.fb.pixel (col.val * 8 + dx, row.val * 8 + dy)
      = if tracked.console.gfx.cursorVisible = true ∧ (row = screen.row ∧ col = screen.col) ∧ 6 ≤ dy
        then 0xff7fd1ff
        else gfxGlyphColor (screen.cell row col) 0xffffffff 0xff000000 dy dx
  dirty_inside : tracked.console.gfx.dirty.Inside fb
  changed_dirty : tracked.changed ⊆ tracked.console.gfx.dirty.area

structure ConsoleHolds {rows cols : Nat} (fb : Framebuffer) (tracked : ConsoleState.Tracked)
    (screen : CellScreen rows cols UInt8) : Prop where
  size_eq : tracked.console.gfx.fb.toFramebuffer = fb
  shows : tracked.console.gfx.Shows screen
  fgColor_eq : tracked.console.gfx.fgColor = 0xffffffff
  bgColor_eq : tracked.console.gfx.bgColor = 0xff000000
  cursorColor_eq : tracked.console.gfx.cursorColor = 0xff7fd1ff
  visible : tracked.console.graphics = true → tracked.console.gfx.cursorVisible = true
  dirty_inside : tracked.console.gfx.dirty.Inside tracked.console.gfx.fb.toFramebuffer
  changed_dirty : tracked.changed ⊆ tracked.console.gfx.dirty.area

section Run

variable {rows cols : Nat} {fb : Framebuffer} {tracked : ConsoleState.Tracked}
  {screen next : CellScreen rows cols UInt8}

theorem ConsoleHolds.follows (hholds : ConsoleHolds fb tracked screen) :
    ConsoleFollows fb tracked screen where
  size_eq := hholds.size_eq
  cols_eq := hholds.shows.cols_eq
  rows_eq := hholds.shows.rows_eq
  cursor_lt := by
    rw [hholds.shows.col_eq, hholds.shows.row_eq]
    exact ⟨screen.col.isLt, screen.row.isLt⟩
  cursorCol_eq := hholds.shows.col_eq
  cursorRow_eq := hholds.shows.row_eq
  cellChar_eq := hholds.shows.cell_eq
  visible := hholds.visible
  dirty_inside := by
    rw [← hholds.size_eq]
    exact hholds.dirty_inside
  changed_dirty := hholds.changed_dirty
  pixel_eq := by
    intro row col dy hdy dx hdx
    have hcols := hholds.shows.cols_eq
    have hrows := hholds.shows.rows_eq
    have hcol := col.isLt
    have hrow := row.isLt
    have hdrawn := hholds.shows.drawn (col.val * 8 + dx, row.val * 8 + dy) (by dsimp only; omega)
      (by dsimp only; omega)
    have hcolDiv : (col.val * 8 + dx) / 8 = col.val := by omega
    have hrowDiv : (row.val * 8 + dy) / 8 = row.val := by omega
    have hcolMod : (col.val * 8 + dx) % 8 = dx := by omega
    have hrowMod : (row.val * 8 + dy) % 8 = dy := by omega
    rw [hdrawn]
    unfold GfxConsoleState.glyphAt
    dsimp only
    rw [hcolDiv, hrowDiv, hcolMod, hrowMod, hholds.shows.cell_eq, hholds.fgColor_eq,
      hholds.bgColor_eq, hholds.cursorColor_eq, hholds.shows.col_eq, hholds.shows.row_eq]
    refine if_congr ?_ rfl rfl
    rw [Fin.ext_iff, Fin.ext_iff, and_comm (a := row.val = _)]

theorem ConsoleHolds.leads (hholds : ConsoleHolds fb tracked screen) {console : ConsoleState}
    {visible : Bool} (hleads : tracked.console.gfx.Leads console.gfx next visible)
    (hvisible : console.graphics = true → visible = true) :
    ConsoleHolds fb ⟨console, tracked.changed
      ∪ {place | console.gfx.fb.pixel place ≠ tracked.console.gfx.fb.pixel place}⟩ next where
  size_eq := hleads.advance.shape.1.trans hholds.size_eq
  shows := hleads.shows
  fgColor_eq := hleads.advance.fgColor_eq.trans hholds.fgColor_eq
  bgColor_eq := hleads.advance.bgColor_eq.trans hholds.bgColor_eq
  cursorColor_eq := hleads.advance.cursorColor_eq.trans hholds.cursorColor_eq
  visible := fun hgraphics => hleads.visible_eq.trans (hvisible hgraphics)
  dirty_inside := hleads.advance.inside hholds.dirty_inside
  changed_dirty :=
    Set.union_subset (hholds.changed_dirty.trans hleads.advance.grows) hleads.advance.changed

/-- A flush either does nothing, or hands on the whole dirty rectangle. -/
theorem ConsoleHolds.flush {console : ConsoleState} {changed : Set (Nat × Nat)}
    (hholds : ConsoleHolds fb ⟨console, changed⟩ screen) (available : Bool) :
    ConsoleHolds fb ⟨(console.flushUnlocked available).2,
        if (console.flushUnlocked available).1.isSome then ∅ else changed⟩ screen
      ∧ (console.flushUnlocked available).2.gfx.fb = console.gfx.fb
      ∧ (console.flushUnlocked available).2.mode = console.mode := by
  unfold ConsoleState.flushUnlocked
  split
  · dsimp only
    split
    · refine ⟨?_, rfl, rfl⟩
      exact {
        size_eq := hholds.size_eq
        shows := hholds.shows.congr_dirty _
        fgColor_eq := hholds.fgColor_eq
        bgColor_eq := hholds.bgColor_eq
        cursorColor_eq := hholds.cursorColor_eq
        visible := hholds.visible
        dirty_inside := fun hvalid => nomatch hvalid
        changed_dirty := Set.empty_subset _ }
    · exact ⟨hholds, rfl, rfl⟩
  · exact ⟨hholds, rfl, rfl⟩

theorem ConsoleHolds.mono {console : ConsoleState} {changed fewer : Set (Nat × Nat)}
    (hholds : ConsoleHolds fb ⟨console, changed⟩ screen) (hfewer : fewer ⊆ changed) :
    ConsoleHolds fb ⟨console, fewer⟩ screen :=
  { hholds with changed_dirty := hfewer.trans hholds.changed_dirty }

def terminalCall (mode : UInt32) (screen : CellScreen rows cols UInt8) :
    ConsoleCall → CellScreen rows cols UInt8
  | .putc c => if mode &&& consoleSinkGraphics ≠ 0 then terminalByte screen c else screen
  | .flush _ => screen
  | .setOutputMode _ _ => screen

theorem ConsoleHolds.flushed {console : ConsoleState}
    (hholds : ConsoleHolds fb ⟨console, tracked.changed
      ∪ {place | console.gfx.fb.pixel place ≠ tracked.console.gfx.fb.pixel place}⟩ screen)
    (available : Bool) :
    ConsoleHolds fb ⟨(console.flushUnlocked available).2,
      if (console.flushUnlocked available).1.isSome then ∅
      else tracked.changed ∪ {place | (console.flushUnlocked available).2.gfx.fb.pixel place
        ≠ tracked.console.gfx.fb.pixel place}⟩ screen := by
  obtain ⟨hflush, hsame, -⟩ := hholds.flush available
  rwa [hsame]

theorem ConsoleHolds.call (hholds : ConsoleHolds fb tracked screen) (consoleCall : ConsoleCall) :
    ConsoleHolds fb (tracked.call consoleCall)
      (terminalCall tracked.console.mode screen consoleCall) := by
  have hidle : ConsoleHolds fb ⟨tracked.console, tracked.changed
      ∪ {place | tracked.console.gfx.fb.pixel place ≠ tracked.console.gfx.fb.pixel place}⟩ screen :=
    ConsoleHolds.mono hholds
      (Set.union_subset subset_rfl fun _ hne => absurd rfl hne)
  cases consoleCall with
  | putc c =>
      unfold ConsoleState.Tracked.call ConsoleState.call ConsoleState.putcUnlocked terminalCall
      dsimp only
      by_cases hgraphics : tracked.console.mode &&& consoleSinkGraphics ≠ 0
      · have hon : tracked.console.graphics = true := decide_eq_true hgraphics
        rw [if_pos hon, if_pos hgraphics]
        exact hholds.leads (hholds.shows.putc c) fun _ => rfl
      · have hoff : ¬ tracked.console.graphics = true := fun hon => hgraphics (of_decide_eq_true hon)
        rw [if_neg hoff, if_neg hgraphics]
        exact hidle
  | flush available => exact hidle.flushed available
  | setOutputMode mode available =>
      unfold ConsoleState.Tracked.call ConsoleState.call ConsoleState.setOutputMode terminalCall
      dsimp only
      split
      · rename_i hgraphics
        have hshown := @ConsoleHolds.leads _ _ _ _ _ screen hholds
          ⟨mode &&& (consoleSinkSerial ||| consoleSinkGraphics), tracked.console.gfx.showCursor⟩ true
          hholds.shows.showCursor fun _ => rfl
        exact hshown.flushed available
      · rename_i hgraphics
        exact hholds.leads hholds.shows.hideCursor fun hon => absurd hon hgraphics

theorem flushUnlocked_mode (console : ConsoleState) (available : Bool) :
    (console.flushUnlocked available).2.mode = console.mode := by
  unfold ConsoleState.flushUnlocked
  split
  · dsimp only
    split
    · rfl
    · rfl
  · rfl

theorem graphicsBytes_cons (tracked : ConsoleState.Tracked) (consoleCall : ConsoleCall)
    (rest : List ConsoleCall) (screen : CellScreen rows cols UInt8) :
    (graphicsBytes tracked.console.mode (consoleCall :: rest)).foldl terminalByte screen
      = (graphicsBytes (tracked.call consoleCall).console.mode rest).foldl terminalByte
        (terminalCall tracked.console.mode screen consoleCall) := by
  cases consoleCall with
  | putc c =>
      have hmode : (tracked.call (.putc c)).console.mode = tracked.console.mode := by
        unfold ConsoleState.Tracked.call ConsoleState.call ConsoleState.putcUnlocked
        dsimp only
        split
        · rfl
        · rfl
      rw [hmode, graphicsBytes, terminalCall]
      split
      · rfl
      · rfl
  | flush available =>
      have hmode : (tracked.call (.flush available)).console.mode = tracked.console.mode :=
        flushUnlocked_mode _ _
      rw [hmode, graphicsBytes, terminalCall]
  | setOutputMode mode available =>
      have hmode : (tracked.call (.setOutputMode mode available)).console.mode
          = mode &&& (consoleSinkSerial ||| consoleSinkGraphics) := by
        unfold ConsoleState.Tracked.call ConsoleState.call ConsoleState.setOutputMode
        dsimp only
        split
        · exact flushUnlocked_mode _ _
        · rfl
      rw [hmode, graphicsBytes, terminalCall]

theorem ConsoleHolds.calls (calls : List ConsoleCall) :
    ∀ {tracked : ConsoleState.Tracked} {screen : CellScreen rows cols UInt8},
      ConsoleHolds fb tracked screen →
        ConsoleHolds fb (calls.foldl ConsoleState.Tracked.call tracked)
          ((graphicsBytes tracked.console.mode calls).foldl terminalByte screen) := by
  induction calls with
  | nil => exact fun hholds => hholds
  | cons consoleCall rest ih =>
      intro tracked screen hholds
      rw [List.foldl_cons, graphicsBytes_cons]
      exact ih (hholds.call consoleCall)

end Run

/-! ### Attaching -/

theorem gfxGlyphColor_blank (fgColor bgColor : UInt32) (row col : Nat) :
    gfxGlyphColor 0x20 fgColor bgColor row col = bgColor := by
  have hglyph : gfxFont8x8Get 0x20 = List.replicate 8 0 := by decide +kernel
  have hrow : (List.replicate 8 (0 : UInt8)).getD row 0 = 0 := by
    rw [List.getD_eq_getElem?_getD, List.getElem?_replicate]
    split
    · rfl
    · rfl
  unfold gfxGlyphColor
  rw [hglyph, hrow, if_neg]
  simp

/-- `gfx_console` in `console_attach_graphics`, with the framebuffer cleared. -/
def clearedGfx (fb : Surface) (block : Nat → UInt8) : GfxConsoleState where
  fb := fbClear fb 0xff000000
  cells := fun index =>
    if index < fb.width / gfxFontWidth * (fb.height / gfxFontHeight) % 2 ^ 32 then 0 else block index
  cols := fb.width / gfxFontWidth
  rows := fb.height / gfxFontHeight
  cursorCol := 0
  cursorRow := 0
  fgColor := 0xffffffff
  bgColor := 0xff000000
  cursorColor := 0xff7fd1ff
  dirty := ⟨0, 0, 0, 0, false⟩
  cursorVisible := false

section Attach

variable {fb : Surface}

theorem clearedGfx_shows (hsupported : fb.supported = true) (hwidth : 8 ≤ fb.width)
    (hheight : 8 ≤ fb.height) (hwidthLt : fb.width < 2 ^ 31) (hheightLt : fb.height < 2 ^ 31)
    (block : Nat → UInt8) (hcells : fb.height / 8 * (fb.width / 8) < 2 ^ 32) :
    (clearedGfx fb block).Shows
      (CellScreen.clear (Nat.div_pos hheight (by decide)) (Nat.div_pos hwidth (by decide))
        (0x20 : UInt8) : CellScreen (fb.height / 8) (fb.width / 8) UInt8) := by
  have hshape := fbClear_sameShape fb 0xff000000
  have hsized : (clearedGfx fb block).Sized := {
    supported := hshape.2.trans hsupported
    right_le := by
      change fb.width / 8 * 8 ≤ (fbClear fb 0xff000000).width
      rw [hshape.1]
      exact Nat.div_mul_le_self _ _
    bottom_le := by
      change fb.height / 8 * 8 ≤ (fbClear fb 0xff000000).height
      rw [hshape.1]
      exact Nat.div_mul_le_self _ _
    width_lt := by
      change (fbClear fb 0xff000000).width < 2 ^ 31
      rwa [hshape.1]
    height_lt := by
      change (fbClear fb 0xff000000).height < 2 ^ 31
      rwa [hshape.1]
    cells_lt := hcells }
  have hblank : ∀ col < fb.width / 8, ∀ row < fb.height / 8,
      (clearedGfx fb block).cellChar col row = 0x20 := by
    intro col hcol row hrow
    have hcell := GfxConsoleState.cell_lt hrow hcol
    rw [hsized.cellChar_eq hcol hrow]
    change GfxConsoleState.shownChar (if row * (fb.width / 8) + col
      < fb.width / 8 * (fb.height / 8) % 2 ^ 32 then 0 else _) = 0x20
    rw [Nat.mul_comm (fb.width / 8), Nat.mod_eq_of_lt hcells, if_pos hcell]
    rfl
  refine ⟨hsized, rfl, rfl, rfl, rfl, fun row col => hblank _ col.isLt _ row.isLt, ?_⟩
  refine GfxConsoleState.drawn_of_hidden rfl fun place hx hy => ?_
  change place.1 < fb.width / 8 * 8 at hx
  change place.2 < fb.height / 8 * 8 at hy
  unfold GfxConsoleState.glyphAt
  rw [hblank _ (by omega) _ (by omega), gfxGlyphColor_blank]
  exact fbClear_pixel hsupported hwidthLt hheightLt _ (by omega)

theorem consoleHolds_attach (mode : UInt32) (hsupported : fb.supported = true)
    (hwidth : 8 ≤ fb.width) (hheight : 8 ≤ fb.height) (hwidthLt : fb.width < 2 ^ 31)
    (hheightLt : fb.height < 2 ^ 31) (block : Nat → UInt8)
    (hcells : fb.height / 8 * (fb.width / 8) < 2 ^ 32) (available : Bool) :
    ∃ result, consoleAttachGraphics mode fb (some block) available = some result
      ∧ result.2.mode = mode
      ∧ ConsoleHolds fb.toFramebuffer (ConsoleState.attached fb.toFramebuffer result)
        (CellScreen.clear (Nat.div_pos hheight (by decide)) (Nat.div_pos hwidth (by decide))
          (0x20 : UInt8) : CellScreen (fb.height / 8) (fb.width / 8) UInt8) := by
  have hshape := fbClear_sameShape fb 0xff000000
  have hmarked := (clearedGfx_shows hsupported hwidth hheight hwidthLt hheightLt block
    hcells).congr_dirty ((clearedGfx fb block).dirty.markRect
      (clearedGfx fb block).fb.toFramebuffer 0 0 fb.width fb.height)
  have hshown := hmarked.showCursor
  obtain ⟨-, hall, hinside⟩ := @GfxDirty.markRect_spec (clearedGfx fb block).dirty
    (clearedGfx fb block).fb.toFramebuffer 0 0 fb.width fb.height (by omega) (by omega)
  have hholds : ConsoleHolds fb.toFramebuffer
      ⟨⟨mode, ((clearedGfx fb block).markDirtyRect 0 0 fb.width fb.height).showCursor⟩,
        {place | place.1 < fb.width ∧ place.2 < fb.height}⟩
      (CellScreen.clear (Nat.div_pos hheight (by decide)) (Nat.div_pos hwidth (by decide))
        (0x20 : UInt8)) := {
    size_eq := hshown.advance.shape.1.trans hshape.1
    shows := hshown.shows
    fgColor_eq := hshown.advance.fgColor_eq
    bgColor_eq := hshown.advance.bgColor_eq
    cursorColor_eq := hshown.advance.cursorColor_eq
    visible := fun _ => hshown.visible_eq
    dirty_inside := hshown.advance.inside (hinside fun hvalid => nomatch hvalid)
    changed_dirty := by
      refine Set.Subset.trans (fun place hplace => hall ?_) hshown.advance.grows
      have hsize : (clearedGfx fb block).fb.toFramebuffer = fb.toFramebuffer := hshape.1
      simp only [blockPlaces, Set.mem_ofPred_eq, hsize] at hplace ⊢
      omega }
  refine ⟨_, ?_, flushUnlocked_mode _ available, (hholds.flush available).1⟩
  unfold consoleAttachGraphics
  rw [if_neg (by rw [gfxFontWidth, gfxFontHeight]; omega)]
  rfl

end Attach

/-- After a framebuffer is attached the graphics console is a terminal, whatever is written, flushed and
switched: the cells are its screen, the framebuffer shows them and the cursor, and the dirty rectangle
covers what has changed. -/
theorem graphics_console_follows_terminal (mode : UInt32) (fb : Surface)
    (hsupported : fb.supported = true) (hwidth : 8 ≤ fb.width ∧ fb.width < 2 ^ 31)
    (hheight : 8 ≤ fb.height ∧ fb.height < 2 ^ 31) (block : Nat → UInt8)
    (hcells : fb.height / 8 * (fb.width / 8) < 2 ^ 32) (available : Bool)
    (calls : List ConsoleCall) :
    ∃ result, consoleAttachGraphics mode fb (some block) available = some result
      ∧ ConsoleFollows fb.toFramebuffer
        (calls.foldl ConsoleState.Tracked.call (ConsoleState.attached fb.toFramebuffer result))
        ((graphicsBytes mode calls).foldl terminalByte
          (CellScreen.clear (Nat.div_pos hheight.1 (by decide)) (Nat.div_pos hwidth.1 (by decide))
            (0x20 : UInt8) : CellScreen (fb.height / 8) (fb.width / 8) UInt8)) := by
  obtain ⟨result, hattach, hmode, hholds⟩ := consoleHolds_attach mode hsupported hwidth.1 hheight.1
    hwidth.2 hheight.2 block hcells available
  have hcalls := hholds.calls calls
  have hstart : (ConsoleState.attached fb.toFramebuffer result).console.mode = mode := hmode
  rw [hstart] at hcalls
  exact ⟨result, hattach, hcalls.follows⟩

/-- Two letters on a screen of two rows and three columns. -/
def twoLetters : List ConsoleCall := [.putc 0x41, .putc 0x0a, .putc 0x42, .flush true]

theorem graphics_console_follows_terminal_letters :
    ∃ result, consoleAttachGraphics 2 ⟨⟨24, 16⟩, true, fun _ => 0⟩ (some fun _ => 0xff) true = some result
      ∧ let tracked := twoLetters.foldl ConsoleState.Tracked.call (ConsoleState.attached ⟨24, 16⟩ result)
        tracked.console.gfx.cellChar 0 0 = 0x41 ∧ tracked.console.gfx.cellChar 0 1 = 0x42
          ∧ tracked.console.gfx.fb.pixel (3, 0) = 0xffffffff := by
  obtain ⟨result, hattach, hfollows⟩ := graphics_console_follows_terminal 2
    ⟨⟨24, 16⟩, true, fun _ => 0⟩ rfl ⟨by decide, by decide⟩ ⟨by decide, by decide⟩ (fun _ => 0xff)
    (by decide) true twoLetters
  have hpixel := hfollows.pixel_eq (0 : Fin 2) (0 : Fin 3) 0 (by decide) 3 (by decide)
  rw [if_neg fun hcursor => absurd hcursor.2.2 (by decide)] at hpixel
  refine ⟨result, hattach, ?_, ?_, ?_⟩
  · exact (hfollows.cellChar_eq (0 : Fin 2) (0 : Fin 3)).trans (by decide)
  · exact (hfollows.cellChar_eq (1 : Fin 2) (0 : Fin 3)).trans (by decide)
  · exact hpixel.trans (by decide)

end DuckOs

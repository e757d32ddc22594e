import DuckOs.Desktop.FilesApp
import DuckOs.Proof.DrawFill

/-!
# Rows of the Files app

`files_app_render` draws a row nine pixels below the band in which `files_app_row_hit_test` looks for it.
-/

namespace DuckOs

section Rows

variable {window : DesktopWindow} {state : FilesAppState} {fb : Surface} {row x y : Nat}

theorem mem_filesAppDrawnRows (hrow : row ∈ filesAppDrawnRows window state) :
    row < filesVisibleRows window ∧ state.rowIndex row < state.entries.length := by
  refine ⟨List.mem_range.mp ((List.takeWhile_sublist _).mem hrow), ?_⟩
  have hentry := @List.mem_takeWhile_imp _ _ _ _ hrow
  exact of_decide_eq_true hentry

/-- The next row holds another entry. -/
theorem rowIndex_succ_ne : state.rowIndex (row + 1) ≠ state.rowIndex row := by
  rw [FilesAppState.rowIndex, FilesAppState.rowIndex]
  omega

/-- The window is on the screen. -/
structure DesktopWindow.OnScreen (window : DesktopWindow) : Prop where
  x_nonneg : 0 ≤ window.x
  y_nonneg : 0 ≤ window.y
  right_lt : window.x + window.width < 2 ^ 31
  bottom_lt : window.y + window.height < 2 ^ 31

theorem lt_filesVisibleRows_iff : row < filesVisibleRows window ↔ 12 * row + 84 ≤ window.height := by
  rw [filesVisibleRows, DesktopWindow.contentHeight_eq, filesHeaderHeight, filesRowHeight]
  split
  · omega
  · omega

namespace DesktopWindow.OnScreen

theorem contentX_eq (hscreen : window.OnScreen) (hwidth : 8 ≤ window.width) :
    window.contentX = window.x + 8 := by
  have hx := hscreen.x_nonneg
  have hright := hscreen.right_lt
  exact int32_eq (show -2 ^ 31 ≤ window.x + 8 by omega) (show window.x + 8 < 2 ^ 31 by omega)

theorem contentY_eq (hscreen : window.OnScreen) (hheight : 24 ≤ window.height) :
    window.contentY = window.y + 24 := by
  have hy := hscreen.y_nonneg
  have hbottom := hscreen.bottom_lt
  refine (int32_eq (show -2 ^ 31 ≤ window.y + 16 + 8 by omega)
    (show window.y + 16 + 8 < 2 ^ 31 by omega)).trans ?_
  omega

/-- Between the margins, as the hit test sees it. -/
theorem inside_margins (hscreen : window.OnScreen)
    (hmargin : window.contentX + filesMargin ≤ x
      ∧ (x : Int) < window.contentX + window.contentWidth - filesMargin) :
    uint32 (int32 (window.contentX + filesMargin)) ≤ x
      ∧ x < uint32 (int32 (int32 (window.contentX + int32 window.contentWidth) - filesMargin)) := by
  have hx := hscreen.x_nonneg
  have hright := hscreen.right_lt
  have hmarginInt : ((filesMargin : Nat) : Int) = 6 := rfl
  have hwidth := window.contentWidth_eq
  rw [hmarginInt] at hmargin ⊢
  have hcontentX := hscreen.contentX_eq (by omega)
  generalize window.contentX = contentX at *
  generalize window.contentWidth = contentWidth at *
  have hleft := uint32_eq (show 0 ≤ contentX + 6 by omega) (by omega)
  have hedge := uint32_eq (show 0 ≤ contentX + contentWidth - 6 by omega) (by omega)
  have hinner : int32 (contentX + int32 contentWidth) = contentX + contentWidth := by
    rw [@int32_eq contentWidth (by omega) (by omega), int32_eq (by omega) (by omega)]
  rw [uint32_int32, uint32_int32, hinner]
  omega

end DesktopWindow.OnScreen

/-- The rows of the screen that the rectangle of a row covers. -/
theorem mem_painted_row (hscreen : window.OnScreen) (hvisible : row < filesVisibleRows window)
    (hpainted : (x, y) ∈ Surface.painted (filesAppFillRow window row fb)) :
    window.contentY + 33 + 12 * row ≤ y ∧ (y : Int) < window.contentY + 44 + 12 * row := by
  have hheight := lt_filesVisibleRows_iff.mp hvisible
  have hy := hscreen.y_nonneg
  have hbottom := hscreen.bottom_lt
  have hcontentY := hscreen.contentY_eq (by omega)
  obtain ⟨-, -, -, -, ⟨htop, hlow⟩, -⟩ := mem_painted_fillRect.mp hpainted
  have hrowY : int32 (window.contentY + filesHeaderHeight + 18 + int32 (row * filesRowHeight))
      = window.contentY + 34 + 12 * row := by
    have hoffset : int32 (row * filesRowHeight) = 12 * row := by
      rw [filesRowHeight, int32_eq (by omega) (by omega)]
      omega
    rw [hoffset, filesHeaderHeight, int32_eq (by omega) (by omega)]
    omega
  have hfillY : int32 (window.contentY + 34 + 12 * row - 1) = window.contentY + 33 + 12 * row := by
    rw [int32_eq (by omega) (by omega)]
    omega
  rw [hrowY, hfillY] at htop hlow
  rw [filesRowHeight, int32_eq (by omega) (by omega)] at hlow
  omega

/-- A point of a drawn row is taken for the row just when it is one of the upper three pixels. -/
theorem filesAppRowHitTest_drawn_iff (hscreen : window.OnScreen)
    (hrow : row ∈ filesAppDrawnRows window (filesAppShown window state))
    (hpainted : (x, y) ∈ Surface.painted (filesAppFillRow window row fb))
    (hmargin : window.contentX + filesMargin ≤ x
      ∧ (x : Int) < window.contentX + window.contentWidth - filesMargin) :
    filesAppRowHitTest window (filesAppShown window state) x y
        = some ((filesAppShown window state).rowIndex row)
      ↔ (y : Int) < window.contentY + 33 + 12 * row + 3 := by
  generalize filesAppShown window state = shown at hrow ⊢
  obtain ⟨hvisible, hentry⟩ := mem_filesAppDrawnRows hrow
  obtain ⟨htop, hlow⟩ := mem_painted_row hscreen hvisible hpainted
  have hheight := lt_filesVisibleRows_iff.mp hvisible
  have hx := hscreen.x_nonneg
  have hy := hscreen.y_nonneg
  have hright := hscreen.right_lt
  have hbottom := hscreen.bottom_lt
  have hcontentY := hscreen.contentY_eq (by omega)
  have htopInt : int32 (window.contentY + filesHeaderHeight + 8) = window.contentY + 24 := by
    rw [filesHeaderHeight, int32_eq (by omega) (by omega)]
    omega
  have hrowAreaTop := uint32_eq (show 0 ≤ window.contentY + 24 by omega) (by omega)
  obtain ⟨hleft, hrightEdge⟩ := hscreen.inside_margins hmargin
  rw [filesAppRowHitTest, htopInt]
  dsimp only
  rw [if_neg (by omega), filesRowHeight]
  by_cases hupper : (y : Int) < window.contentY + 33 + 12 * row + 3
  · have hband : (y - uint32 (window.contentY + 24)) / 12 = row := by omega
    rw [hband, if_neg (by omega), if_neg (by omega)]
    exact iff_of_true rfl hupper
  · have hband : (y - uint32 (window.contentY + 24)) / 12 = row + 1 := by omega
    rw [hband]
    refine iff_of_false (fun hhit => ?_) hupper
    split at hhit
    · exact nomatch hhit
    · split at hhit
      · exact nomatch hhit
      · exact rowIndex_succ_ne (Option.some.inj hhit)

end Rows

/-- The root directory with two files, in the window that the app opens. -/
def filesExample : DesktopWindow × FilesAppState :=
  (.init 3 72 88 560 260 (ascii "Files"),
    ⟨ascii "/", ascii "read only", [⟨ascii "a", 4, 0⟩, ⟨ascii "b", 9, 0⟩], 0, 0⟩)

theorem filesAppRowHitTest_drawn_upper :
    filesAppRowHitTest filesExample.1 (filesAppShown filesExample.1 filesExample.2) 100 145
        = some ((filesAppShown filesExample.1 filesExample.2).rowIndex 0) :=
  (@filesAppRowHitTest_drawn_iff filesExample.1 filesExample.2 ⟨⟨640, 480⟩, true, fun _ => 0⟩ 0 100 145
    ⟨by decide, by decide, by decide, by decide⟩ (by decide)
    (mem_painted_fillRect.mpr ⟨rfl, by decide⟩) (by decide)).mpr (by decide)

/-- Five pixels further down the click selects the file below. -/
theorem filesAppRowHitTest_drawn_lower :
    0 ∈ filesAppDrawnRows filesExample.1 (filesAppShown filesExample.1 filesExample.2)
      ∧ (100, 150) ∈ Surface.painted
        (filesAppFillRow filesExample.1 0 ⟨⟨640, 480⟩, true, fun _ => 0⟩)
      ∧ filesAppRowHitTest filesExample.1 (filesAppShown filesExample.1 filesExample.2) 100 150
        ≠ some ((filesAppShown filesExample.1 filesExample.2).rowIndex 0) :=
  ⟨by decide, mem_painted_fillRect.mpr ⟨rfl, by decide⟩, by decide⟩

end DuckOs

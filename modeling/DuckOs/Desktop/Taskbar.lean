import DuckOs.Desktop.Desktop

/-!
# The taskbar

The hit tests of `src/desktop/taskbar.c`. The bar is at the lower edge of the screen, the menu of the
launcher above it.
-/

namespace DuckOs

def desktopTaskbarPadding : Nat := 8

def desktopTaskbarLauncherWidth : Nat := 68

def desktopTaskbarWindowButtonWidth : Nat := 88

def desktopTaskbarWindowButtonGap : Nat := 6

def desktopTaskbarMenuWidth : Nat := 144

def desktopTaskbarMenuHeaderHeight : Nat := 20

def desktopTaskbarMenuItemHeight : Nat := 18

def desktopTaskbarMenuHeight (appCount : Nat) : Nat :=
  desktopTaskbarMenuHeaderHeight + appCount * desktopTaskbarMenuItemHeight + 8

def desktopTaskbarY (screenHeight : Nat) : Int :=
  if screenHeight ≤ desktopTaskbarHeight then 0 else int32 (screenHeight - desktopTaskbarHeight : Nat)

def desktopTaskbarWindowButtonX (buttonIndex : Nat) : Int :=
  int32 (desktopTaskbarPadding + desktopTaskbarLauncherWidth + desktopTaskbarWindowButtonGap
    + buttonIndex * (desktopTaskbarWindowButtonWidth + desktopTaskbarWindowButtonGap))

def desktopTaskbarContainsPoint (screenHeight y : Nat) : Bool :=
  uint32 (desktopTaskbarY screenHeight) ≤ y

/-- The rows of the buttons on the bar. -/
def desktopTaskbarButtonRow (screenHeight y : Nat) : Bool :=
  let barY := desktopTaskbarY screenHeight
  uint32 (int32 (barY + 4)) ≤ y ∧ y < uint32 (int32 (barY + desktopTaskbarHeight - 4))

def desktopTaskbarLauncherHitTest (screenHeight x y : Nat) : Bool :=
  desktopTaskbarPadding ≤ x ∧ x < desktopTaskbarPadding + desktopTaskbarLauncherWidth
    ∧ desktopTaskbarButtonRow screenHeight y

/-- `none` is the return value `app_count`. -/
def desktopTaskbarLauncherItemHitTest (screenHeight appCount x y : Nat) : Option Nat :=
  if appCount = 0 then none
  else
    let menuHeight := desktopTaskbarMenuHeight appCount
    let menuY := int32 (desktopTaskbarY screenHeight - int32 menuHeight)
    let menuY := if menuY < 0 then 0 else menuY
    let itemsY := uint32 (int32 (menuY + desktopTaskbarMenuHeaderHeight))
    if x < desktopTaskbarPadding ∨ desktopTaskbarPadding + desktopTaskbarMenuWidth ≤ x ∨ y < itemsY
        ∨ uint32 (int32 (menuY + int32 menuHeight)) ≤ y then none
    else
      let index := (y - itemsY) / desktopTaskbarMenuItemHeight
      if appCount ≤ index then none else some index

/-- The loop of `desktop_taskbar_window_button_hit_test`. -/
def desktopTaskbarWindowButtonLoop (screenHeight x y : Nat) :
    (buttonIndex : Nat) → List DesktopWindow → Nat
  | _, [] => 0
  | buttonIndex, window :: rest =>
      if window.id = 0 ∨ window.flags.noControls then
        desktopTaskbarWindowButtonLoop screenHeight x y buttonIndex rest
      else
        let buttonX := desktopTaskbarWindowButtonX buttonIndex
        if uint32 buttonX ≤ x ∧ x < uint32 (int32 (buttonX + desktopTaskbarWindowButtonWidth))
            ∧ desktopTaskbarButtonRow screenHeight y then window.id
        else desktopTaskbarWindowButtonLoop screenHeight x y (buttonIndex + 1) rest

/-- The id of the window, 0 if there is no button. -/
def desktopTaskbarWindowButtonHitTest (windows : List DesktopWindow)
    (windowCount screenHeight x y : Nat) : Nat :=
  desktopTaskbarWindowButtonLoop screenHeight x y 0 (windows.take windowCount)

end DuckOs

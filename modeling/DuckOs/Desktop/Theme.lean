import DuckOs.Desktop.Window
import DuckOs.Lib.CString
import Mathlib.Data.Fintype.Defs
import Mathlib.Data.List.DropRight

/-!
# Themes

`src/desktop/desktop_theme.c` as far as it parses the text of `/etc/theme`. The parser walks over the
buffer and writes a NUL behind each value; pointers into the buffer are indices.
-/

namespace DuckOs

structure DesktopTheme where
  background : UInt32
  taskbar : UInt32
  windowBody : UInt32
  titlebarActive : UInt32
  titlebarInactive : UInt32
  text : UInt32
  accent : UInt32
  deriving DecidableEq

def desktopThemeDefaults : DesktopTheme where
  background := 0xff6d8fa4
  taskbar := 0xff20313c
  windowBody := 0xffd9e4ea
  titlebarActive := 0xff2a6076
  titlebarInactive := 0xff546b78
  text := 0xff102030
  accent := 0xff89aebf

def desktopThemeIsSpace (letter : UInt8) : Bool :=
  letter = 0x20 ∨ letter = 0x09 ∨ letter = 0x0d ∨ letter = 0x0a

/-- `'\n'` or `'\r'`. -/
def desktopThemeIsNewline (letter : UInt8) : Bool := letter = 0x0a ∨ letter = 0x0d

/-- `'#'`. -/
def themeMark : UInt8 := 0x23

/-- `'='`. -/
def themeEquals : UInt8 := 0x3d

/-- `none` if the letter is not valid. -/
def desktopThemeHexValue (letter : UInt8) : Option UInt32 :=
  if 0x30 ≤ letter ∧ letter ≤ 0x39 then some (letter - 0x30).toUInt32
  else if 0x61 ≤ letter ∧ letter ≤ 0x66 then some (10 + (letter - 0x61).toUInt32)
  else if 0x41 ≤ letter ∧ letter ≤ 0x46 then some (10 + (letter - 0x41).toUInt32)
  else none

/-- Behind a `#` or `0x` before the digits. -/
def desktopThemeSkipPrefix (text : List UInt8) : List UInt8 :=
  if text[0]? = some themeMark then text.drop 1
  else if text[0]? = some 0x30 ∧ (text[1]? = some 0x78 ∨ text[1]? = some 0x58) then text.drop 2
  else text

/-- The loop over the digits, with `color` and `digits`. -/
def desktopThemeParseDigits : List UInt8 → (color : UInt32) → (digits : Nat) → Option (UInt32 × Nat)
  | [], color, digits => some (color, digits)
  | letter :: rest, color, digits =>
      if desktopThemeIsSpace letter then some (color, digits)
      else
        match desktopThemeHexValue letter with
        | none => none
        | some value => desktopThemeParseDigits rest (color <<< 4 ||| value) (digits + 1)

/-- `text` is the string before its terminator; `none` is the return value -1. -/
def desktopThemeParseColor (text : List UInt8) : Option UInt32 :=
  match desktopThemeParseDigits (desktopThemeSkipPrefix (text.dropWhile desktopThemeIsSpace)) 0 0 with
  | none => none
  | some (color, digits) =>
      if digits = 6 then some (0xff000000 ||| color) else if digits = 8 then some color else none

def desktopThemeApplyValue (theme : DesktopTheme) (key : List UInt8) (color : UInt32) : DesktopTheme :=
  if key = ascii "background" then { theme with background := color }
  else if key = ascii "taskbar" then { theme with taskbar := color }
  else if key = ascii "window_body" then { theme with windowBody := color }
  else if key = ascii "titlebar_active" then { theme with titlebarActive := color }
  else if key = ascii "titlebar_inactive" then { theme with titlebarInactive := color }
  else if key = ascii "text" then { theme with text := color }
  else if key = ascii "accent" then { theme with accent := color }
  else theme

/-! ### The walk over the buffer -/

def themeByte (buffer : List UInt8) (index : Nat) : UInt8 := buffer.getD index 0

/-- `while (p(*line)) line++`. -/
def themeAdvance (p : UInt8 → Bool) (buffer : List UInt8) (line : Nat) : Nat :=
  line + ((buffer.drop line).takeWhile p).length

/-- `while (scan > start && is_space(scan[-1])) scan--`. -/
def themeRetreat (buffer : List UInt8) (start : Nat) : (scan : Nat) → Nat
  | 0 => 0
  | scan + 1 =>
      if start < scan + 1 ∧ desktopThemeIsSpace (themeByte buffer scan) then
        themeRetreat buffer start scan
      else scan + 1

/-- What a key is made of. -/
def themeInKey (letter : UInt8) : Bool :=
  letter ≠ 0 ∧ !desktopThemeIsNewline letter ∧ letter ≠ themeEquals ∧ letter ≠ themeMark

/-- What a value is made of. -/
def themeInValue (letter : UInt8) : Bool :=
  letter ≠ 0 ∧ !desktopThemeIsNewline letter ∧ letter ≠ themeMark

def themeInLine (letter : UInt8) : Bool := letter ≠ 0 ∧ !desktopThemeIsNewline letter

/-- The loop over the lines. Every round passes at least one byte. -/
def desktopThemeParseLoop : (fuel : Nat) → (buffer : List UInt8) → (line : Nat) → DesktopTheme →
    DesktopTheme
  | 0, _, _, theme => theme
  | fuel + 1, buffer, line, theme =>
      if themeByte buffer line = 0 then theme
      else
        let line := themeAdvance desktopThemeIsNewline buffer line
        if themeByte buffer line = 0 then theme
        else
          let line := themeAdvance desktopThemeIsSpace buffer line
          if themeByte buffer line = 0 then theme
          else
            let keyStart := line
            let line := themeAdvance themeInKey buffer line
            if themeByte buffer line = themeMark then
              desktopThemeParseLoop fuel buffer (themeAdvance themeInLine buffer line) theme
            else
              let keyEnd := themeRetreat buffer keyStart line
              if themeByte buffer line ≠ themeEquals then
                desktopThemeParseLoop fuel buffer (themeAdvance themeInLine buffer line) theme
              else
                let valueStart := themeAdvance desktopThemeIsSpace buffer (line + 1)
                let line := themeAdvance themeInValue buffer valueStart
                let scan := themeRetreat buffer valueStart line
                let buffer := buffer.set scan 0
                let theme :=
                  if keyStart < keyEnd then
                    match desktopThemeParseColor (CString.scan (buffer.drop valueStart)) with
                    | none => theme
                    | some color =>
                        desktopThemeApplyValue theme
                          ((buffer.drop keyStart).take (keyEnd - keyStart)) color
                  else theme
                desktopThemeParseLoop fuel buffer (themeAdvance themeInLine buffer line) theme

def desktopThemeParseBuffer (buffer : List UInt8) (theme : DesktopTheme) : DesktopTheme :=
  desktopThemeParseLoop buffer.length buffer 0 theme

/-- The theme after `desktop_theme_init`; `read` is what is read of the file, if it can be opened. -/
def desktopThemeInit (read : Option (List UInt8)) : DesktopTheme :=
  match read with
  | none => desktopThemeDefaults
  | some bytes =>
      if bytes = [] then desktopThemeDefaults
      else
        desktopThemeParseBuffer (bytes ++ List.replicate (512 - bytes.length) 0) desktopThemeDefaults

/-! ### What the lines say -/

inductive ThemeField where
  | background
  | taskbar
  | windowBody
  | titlebarActive
  | titlebarInactive
  | text
  | accent
  deriving DecidableEq

instance : Fintype ThemeField where
  elems := {.background, .taskbar, .windowBody, .titlebarActive, .titlebarInactive, .text, .accent}
  complete := by
    intro field
    cases field
    all_goals decide

namespace ThemeField

def key : ThemeField → List UInt8
  | .background => ascii "background"
  | .taskbar => ascii "taskbar"
  | .windowBody => ascii "window_body"
  | .titlebarActive => ascii "titlebar_active"
  | .titlebarInactive => ascii "titlebar_inactive"
  | .text => ascii "text"
  | .accent => ascii "accent"

def get (theme : DesktopTheme) : ThemeField → UInt32
  | .background => theme.background
  | .taskbar => theme.taskbar
  | .windowBody => theme.windowBody
  | .titlebarActive => theme.titlebarActive
  | .titlebarInactive => theme.titlebarInactive
  | .text => theme.text
  | .accent => theme.accent

end ThemeField

/-- Without the blanks at both ends. -/
def themeTrim (text : List UInt8) : List UInt8 :=
  (text.dropWhile desktopThemeIsSpace).rdropWhile desktopThemeIsSpace

def themeLines (text : List UInt8) : List (List UInt8) := text.splitOnP desktopThemeIsNewline

/-- What stands behind the first `=` of a line. -/
def themeAfter (line : List UInt8) : List UInt8 := (line.dropWhile (· ≠ themeEquals)).drop 1

/-- A key and its value, if the line has a `=`. -/
def themeSetting (line : List UInt8) : Option (List UInt8 × List UInt8) :=
  if themeEquals ∈ line then
    some (themeTrim (line.takeWhile (· ≠ themeEquals)), themeTrim (themeAfter line))
  else none

/-- The color that a value stands for, if it is valid: six or eight hexadecimal digits. -/
def themeColor (value : List UInt8) : Option UInt32 :=
  let digits := desktopThemeSkipPrefix value
  match digits.mapM desktopThemeHexValue with
  | none => none
  | some values =>
      let color := values.foldl (fun (color value : UInt32) => color <<< 4 ||| value) 0
      if values.length = 6 then some (0xff000000 ||| color)
      else if values.length = 8 then some color
      else none

/-- The color that a setting gives a field. -/
def ThemeField.color (field : ThemeField) (setting : List UInt8 × List UInt8) : Option UInt32 :=
  if setting.1 = field.key then themeColor setting.2 else none

/-- The color of the last setting that gives the field one, or its default. -/
def ThemeField.last (field : ThemeField) (settings : List (List UInt8 × List UInt8)) : UInt32 :=
  ((settings.filterMap field.color).getLast?).getD (field.get desktopThemeDefaults)

end DuckOs

import DuckOs.Desktop.Window

/-!
# Input events

`src/input/input.c` without the queue: which events are let through and which character a key stands
for.
-/

namespace DuckOs

inductive InputSource where
  | serial
  | keyboard
  | other
  deriving DecidableEq

def inputKeyRelease : Nat := 0

def inputKeyPress : Nat := 1

def inputKeyRepeat : Nat := 2

def inputKeyEsc : Nat := 1

def inputKeyBackspace : Nat := 14

def inputKeyTab : Nat := 15

def inputKeyEnter : Nat := 28

def inputKeyLeftshift : Nat := 42

def inputKeyRightshift : Nat := 54

def inputKeyF1 : Nat := 59

def inputKeyUp : Nat := 103

def inputKeyLeft : Nat := 105

def inputKeyRight : Nat := 106

def inputKeyDown : Nat := 108

def inputKeyMouseLeft : Nat := 272

/-- `type` and `data`: the member of the union goes by the type. -/
inductive InputEventData where
  | char (character : UInt8)
  | key (keycode : Nat)
  | other
  deriving DecidableEq

structure InputEvent where
  data : InputEventData
  source : InputSource
  pressed : Nat
  modifiers : Nat
  deriving DecidableEq

/-- `data.keycode`. -/
def InputEvent.keycode (event : InputEvent) : Nat :=
  match event.data with
  | .char character => character.toNat
  | .key keycode => keycode
  | .other => 0

/-- The bits of `input_mode_flags` and of `input_modifiers`. -/
structure InputState where
  serial : Bool
  keyboard : Bool
  shift : Bool
  deriving DecidableEq

/-- `input_init`. -/
def InputState.init : InputState := ⟨true, false, false⟩

def inputEventAllowed (state : InputState) (event : InputEvent) : Bool :=
  match event.source with
  | .serial => state.serial
  | .keyboard => state.keyboard
  | .other => false

def inputKeyIsShift (keycode : Nat) : Bool :=
  keycode = inputKeyLeftshift ∨ keycode = inputKeyRightshift

/-! ### Characters of keys -/

/-- Keys with consecutive codes, each with its character and the one with shift. -/
def inputKeyRow (first : Nat) (plain shifted : String) : List (Nat × UInt8 × UInt8) :=
  ((ascii plain).zip (ascii shifted)).mapIdx fun index characters => (first + index, characters)

def inputAlphaKeys : List (Nat × UInt8 × UInt8) :=
  inputKeyRow 16 "qwertyuiop" "QWERTYUIOP" ++ inputKeyRow 30 "asdfghjkl" "ASDFGHJKL"
    ++ inputKeyRow 44 "zxcvbnm" "ZXCVBNM"

def inputDigitKeys : List (Nat × UInt8 × UInt8) := inputKeyRow 2 "1234567890" "!@#$%^&*()"

/-- Space, enter, backspace and tab; then minus, equal, the braces, semicolon, apostrophe, grave,
backslash, comma, dot and slash. -/
def inputPunctuationKeys : List (Nat × UInt8 × UInt8) :=
  [(57, 32, 32), (inputKeyEnter, 10, 10), (inputKeyBackspace, 8, 8), (inputKeyTab, 9, 9),
    (12, 45, 95), (13, 61, 43), (26, 91, 123), (27, 93, 125), (39, 59, 58), (40, 39, 34),
    (41, 96, 126), (43, 92, 124), (51, 44, 60), (52, 46, 62), (53, 47, 63)]

/-- `input_translate_alpha` and the other two, by the keys of each. -/
def inputTranslate (keys : List (Nat × UInt8 × UInt8)) (keycode : Nat) (shifted : Bool) :
    Option UInt8 :=
  (keys.find? fun key => key.1 = keycode).map fun key => if shifted then key.2.2 else key.2.1

def inputTranslateAlpha : Nat → Bool → Option UInt8 := inputTranslate inputAlphaKeys

def inputTranslateDigit : Nat → Bool → Option UInt8 := inputTranslate inputDigitKeys

def inputTranslatePunctuation : Nat → Bool → Option UInt8 := inputTranslate inputPunctuationKeys

/-- No character is the return value 0. -/
def inputTranslateKeypress (state : InputState) (keycode : Nat) : Option UInt8 :=
  (inputTranslateAlpha keycode state.shift).or
    ((inputTranslateDigit keycode state.shift).or (inputTranslatePunctuation keycode state.shift))

def inputEventToChar (state : InputState) (event : InputEvent) : Option UInt8 × InputState :=
  if !inputEventAllowed state event then (none, state)
  else
    match event.data with
    | .char character => (some character, state)
    | .key keycode =>
        if inputKeyIsShift keycode then
          (none, { state with shift := event.pressed ≠ inputKeyRelease })
        else if event.pressed ≠ inputKeyPress ∧ event.pressed ≠ inputKeyRepeat then (none, state)
        else (inputTranslateKeypress state keycode, state)
    | .other => (none, state)

end DuckOs

import DuckOs.Input.Input
import DuckOs.Lib.Machine

/-!
# Shift

Two keys of the keyboard are shift keys, and one bit of `input_modifiers` stands for both. A release of
either clears the bit, so it follows the keys until one of them is released before the other.
-/

namespace DuckOs

/-! ### What the keys mean -/

/-- An event of the keyboard's keys, as `input_queue_key_event` makes it. -/
structure KeyboardEvent (event : InputEvent) : Prop where
  source_eq : event.source = .keyboard
  key : ∃ keycode, event.data = .key keycode

/-- The character of a key and the one with shift. -/
def inputKeyCharacters (keycode : Nat) : Option (UInt8 × UInt8) :=
  ((inputAlphaKeys ++ inputDigitKeys ++ inputPunctuationKeys).find? fun key => key.1 = keycode).map
    Prod.snd

/-- Which of the shift keys have been pressed and not released since. -/
structure ShiftKeys where
  left : Bool
  right : Bool
  deriving DecidableEq

namespace ShiftKeys

/-- A press, or the repeat of one. -/
def goesDown (event : InputEvent) : Bool := event.pressed ≠ inputKeyRelease

def next (keys : ShiftKeys) (event : InputEvent) : ShiftKeys where
  left := if event.keycode = inputKeyLeftshift then goesDown event else keys.left
  right := if event.keycode = inputKeyRightshift then goesDown event else keys.right

def held (keys : ShiftKeys) : Bool := keys.left || keys.right

/-- What a key event yields: the shifted character while a shift key is held. -/
def yields (keys : ShiftKeys) (event : InputEvent) : Option UInt8 :=
  if event.pressed ≠ inputKeyPress ∧ event.pressed ≠ inputKeyRepeat then none
  else
    (inputKeyCharacters event.keycode).map fun characters =>
      if keys.held then characters.2 else characters.1

def step (keys : ShiftKeys) (event : InputEvent) : Option UInt8 × ShiftKeys :=
  (keys.yields event, keys.next event)

end ShiftKeys

/-- The shift keys, and whether one of them was released last. -/
structure ShiftHistory where
  keys : ShiftKeys
  released : Bool
  deriving DecidableEq

namespace ShiftHistory

/-- Before the first event. -/
def start : ShiftHistory := ⟨⟨false, false⟩, true⟩

def next (history : ShiftHistory) (event : InputEvent) : ShiftHistory where
  keys := history.keys.next event
  released :=
    if inputKeyIsShift event.keycode then !ShiftKeys.goesDown event else history.released

/-- A press or repeat of a key that has two characters. -/
def Distinguishes (event : InputEvent) : Prop :=
  (event.pressed = inputKeyPress ∨ event.pressed = inputKeyRepeat)
    ∧ ∃ characters, inputKeyCharacters event.keycode = some characters
      ∧ characters.1 ≠ characters.2

/-- No such key is struck while one shift key is held and the other was released last. -/
def Follows (history : ShiftHistory) (event : InputEvent) : Prop :=
  Distinguishes event → history.keys.held = true → history.released = false

end ShiftHistory

/-! ### One event -/

theorem inputTranslateKeypress_eq (state : InputState) (keycode : Nat) :
    inputTranslateKeypress state keycode
      = (inputKeyCharacters keycode).map fun characters =>
        if state.shift then characters.2 else characters.1 := by
  simp only [inputTranslateKeypress, inputTranslateAlpha, inputTranslateDigit,
    inputTranslatePunctuation, inputTranslate, inputKeyCharacters, List.find?_append, Option.map_or,
    Option.map_map, Option.or_assoc]
  rfl

theorem inputKeyCharacters_shift {keycode : Nat} (hshift : inputKeyIsShift keycode = true) :
    inputKeyCharacters keycode = none := by
  rw [inputKeyIsShift, decide_eq_true_eq] at hshift
  obtain rfl | rfl := hshift
  · decide
  · decide

/-- The shift bit is set just when no shift key was released last, and then one is held. -/
structure ShiftFollowed (state : InputState) (keys : ShiftKeys) (history : ShiftHistory) : Prop where
  keyboard_eq : state.keyboard = true
  shift_eq : state.shift = !history.released
  keys_eq : history.keys = keys
  held : state.shift = true → keys.held = true

namespace ShiftFollowed

variable {state : InputState} {keys : ShiftKeys} {history : ShiftHistory} {event : InputEvent}

theorem start (serial : Bool) :
    ShiftFollowed ⟨serial, true, false⟩ ⟨false, false⟩ .start :=
  ⟨rfl, rfl, rfl, fun hshift => absurd hshift Bool.false_ne_true⟩

/-- `input_event_to_char` with an event of the keyboard that is let through. -/
theorem eventToChar (hfollowed : ShiftFollowed state keys history) (hkey : KeyboardEvent event) :
    inputEventToChar state event
      = if inputKeyIsShift event.keycode then (none, { state with shift := ShiftKeys.goesDown event })
        else if event.pressed ≠ inputKeyPress ∧ event.pressed ≠ inputKeyRepeat then (none, state)
        else (inputTranslateKeypress state event.keycode, state) := by
  obtain ⟨keycode, hdata⟩ := hkey.key
  have hallowed : inputEventAllowed state event = true := by
    rw [inputEventAllowed, hkey.source_eq]
    exact hfollowed.keyboard_eq
  have hkeycode : event.keycode = keycode := by rw [InputEvent.keycode, hdata]
  rw [inputEventToChar, hallowed, hdata, hkeycode]
  rfl

/-- A shift key decides about the bit, and leaves the characters alone. -/
theorem next_shift (hfollowed : ShiftFollowed state keys history)
    (hshift : inputKeyIsShift event.keycode = true) :
    ShiftFollowed { state with shift := ShiftKeys.goesDown event } (keys.next event)
      (history.next event) where
  keyboard_eq := hfollowed.keyboard_eq
  shift_eq := by
    rw [ShiftHistory.next, if_pos hshift, Bool.not_not]
  keys_eq := congrArg (·.next event) hfollowed.keys_eq
  held := by
    intro hdown
    change ShiftKeys.goesDown event = true at hdown
    rw [inputKeyIsShift, decide_eq_true_eq] at hshift
    rw [ShiftKeys.held, ShiftKeys.next, Bool.or_eq_true]
    obtain hleft | hright := hshift
    · exact .inl (by rw [if_pos hleft, hdown])
    · exact .inr (by rw [if_pos hright, hdown])

theorem next_other (hfollowed : ShiftFollowed state keys history)
    (hother : inputKeyIsShift event.keycode = false) :
    ShiftFollowed state (keys.next event) (history.next event) := by
  have hne : event.keycode ≠ inputKeyLeftshift ∧ event.keycode ≠ inputKeyRightshift := by
    rw [inputKeyIsShift, decide_eq_false_iff_not] at hother
    exact not_or.mp hother
  have hkeys : ∀ keys : ShiftKeys, keys.next event = keys := by
    intro keys
    rw [ShiftKeys.next, if_neg hne.1, if_neg hne.2]
  refine ⟨hfollowed.keyboard_eq, ?_, ?_, ?_⟩
  · rw [hfollowed.shift_eq, ShiftHistory.next, if_neg (by rw [hother]; exact Bool.false_ne_true)]
  · rw [ShiftHistory.next, hkeys, hkeys]
    exact hfollowed.keys_eq
  · rw [hkeys]
    exact hfollowed.held

/-- The character is the one that is meant unless the bit is clear while a shift key is held. -/
theorem translate_iff (hfollowed : ShiftFollowed state keys history)
    (hstruck : event.pressed = inputKeyPress ∨ event.pressed = inputKeyRepeat) :
    (inputTranslateKeypress state event.keycode
        = (inputKeyCharacters event.keycode).map fun characters =>
          if keys.held then characters.2 else characters.1)
      ↔ history.Follows event := by
  have hheld := hfollowed.held
  rw [inputTranslateKeypress_eq, ShiftHistory.Follows, ShiftHistory.Distinguishes, hfollowed.keys_eq,
    ← Bool.not_eq_true', ← hfollowed.shift_eq]
  cases inputKeyCharacters event.keycode with
  | none =>
      refine iff_of_true rfl fun ⟨_, _, hsome, _⟩ => ?_
      exact nomatch hsome
  | some characters =>
      rw [Option.map_some, Option.map_some, Option.some.injEq]
      constructor
      · rintro hsame ⟨-, _, hsome, hne⟩ hkeys
        obtain rfl := Option.some.inj hsome
        rw [hkeys, if_pos rfl] at hsame
        by_contra hclear
        rw [if_neg hclear] at hsame
        exact hne hsame
      · intro hfollows
        by_cases hsame : characters.1 = characters.2
        · rw [hsame, ite_self, ite_self]
        · have hset := hfollows ⟨hstruck, characters, rfl, hsame⟩
          congr 1
          exact propext ⟨hheld, hset⟩

theorem step (hfollowed : ShiftFollowed state keys history) (hkey : KeyboardEvent event) :
    ShiftFollowed (inputEventToChar state event).2 (keys.step event).2 (history.next event)
      ∧ ((inputEventToChar state event).1 = (keys.step event).1 ↔ history.Follows event) := by
  rw [hfollowed.eventToChar hkey, ShiftKeys.step, ShiftKeys.yields]
  cases hshift : inputKeyIsShift event.keycode with
  | true =>
      rw [if_pos rfl, inputKeyCharacters_shift hshift, Option.map_none, ite_self]
      refine ⟨hfollowed.next_shift hshift, iff_of_true rfl fun ⟨_, _, hsome, _⟩ => ?_⟩
      rw [inputKeyCharacters_shift hshift] at hsome
      exact nomatch hsome
  | false =>
      rw [if_neg Bool.false_ne_true]
      have hnext := hfollowed.next_other hshift
      by_cases hidle : event.pressed ≠ inputKeyPress ∧ event.pressed ≠ inputKeyRepeat
      · rw [if_pos hidle, if_pos hidle]
        exact ⟨hnext, iff_of_true rfl fun hkeys => absurd hkeys.1 (not_or.mpr hidle)⟩
      · rw [if_neg hidle, if_neg hidle]
        exact ⟨hnext, hfollowed.translate_iff (by tauto)⟩

end ShiftFollowed

/-- Over every sequence of key events the characters follow the shift keys exactly when no key with two
characters is struck while one shift key is held and the other was released last. -/
theorem input_characters_follow_shift_iff (serial : Bool) (events : List InputEvent)
    (hevents : ∀ event ∈ events, KeyboardEvent event) :
    (Machine.run inputEventToChar ⟨serial, true, false⟩ events).1
        = (Machine.run ShiftKeys.step ⟨false, false⟩ events).1
      ↔ Machine.EveryStep ShiftHistory.next ShiftHistory.Follows .start events :=
  Machine.run_eq_iff (fun _ _ _ _ hfollowed hkey => hfollowed.step hkey) events
    (ShiftFollowed.start serial) hevents

/-- The events of a key by its keycode. -/
def keyboardEvents (keys : List (Nat × Nat)) : List InputEvent :=
  keys.map fun key => ⟨.key key.1, .keyboard, key.2, 0⟩

theorem keyboardEvents_keyboard (keys : List (Nat × Nat)) :
    ∀ event ∈ keyboardEvents keys, KeyboardEvent event := by
  intro event hevent
  obtain ⟨key, -, rfl⟩ := List.mem_map.mp hevent
  exact ⟨rfl, key.1, rfl⟩

/-- Left shift and A. -/
theorem input_characters_follow_shift_left :
    (Machine.run inputEventToChar ⟨true, true, false⟩
        (keyboardEvents [(inputKeyLeftshift, inputKeyPress), (30, inputKeyPress)])).1
      = (Machine.run ShiftKeys.step ⟨false, false⟩
        (keyboardEvents [(inputKeyLeftshift, inputKeyPress), (30, inputKeyPress)])).1 :=
  (input_characters_follow_shift_iff true _ (keyboardEvents_keyboard _)).mpr
    ⟨fun _ hheld => absurd hheld (by decide), fun _ _ => rfl, trivial⟩

/-- Both shift keys are pressed and the right one is released: with the left one still held, A yields a
small letter. -/
theorem input_characters_lose_shift :
    let events := keyboardEvents [(inputKeyLeftshift, inputKeyPress),
      (inputKeyRightshift, inputKeyPress), (inputKeyRightshift, inputKeyRelease), (30, inputKeyPress)]
    (Machine.run inputEventToChar ⟨true, true, false⟩ events).1 = [none, none, none, some 0x61]
      ∧ (Machine.run inputEventToChar ⟨true, true, false⟩ events).1
        ≠ (Machine.run ShiftKeys.step ⟨false, false⟩ events).1 :=
  ⟨by decide +kernel, by decide +kernel⟩

end DuckOs

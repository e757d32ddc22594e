import DuckOs.Desktop.Theme

/-!
# What the theme parser takes from a text

The parser writes a NUL behind each value. If there is no blank between the value and the end of its
line, the NUL takes the place of the end of the line, and nothing behind it is read.
-/

namespace DuckOs

/-! ### The walk -/

/-- The text that is left at an index of the buffer. -/
def ThemeLeft (buffer : List UInt8) (line : Nat) (rest : List UInt8) : Prop :=
  ∃ junk, buffer.drop line = rest ++ 0 :: junk

section Walk

variable {buffer rest : List UInt8} {line : Nat} {p : UInt8 → Bool}

theorem ThemeLeft.byte (hleft : ThemeLeft buffer line rest) :
    themeByte buffer line = rest.head?.getD 0 := by
  obtain ⟨junk, hdrop⟩ := hleft
  have hhead : (buffer.drop line)[0]? = (rest ++ 0 :: junk)[0]? := by rw [hdrop]
  rw [List.getElem?_drop, Nat.add_zero] at hhead
  rw [themeByte, List.getD_eq_getElem?_getD, hhead]
  cases rest with
  | nil => rfl
  | cons head tail => rfl

theorem takeWhile_append_stop (hstop : p 0 = false) (rest junk : List UInt8) :
    (rest ++ 0 :: junk).takeWhile p = rest.takeWhile p
      ∧ (rest ++ 0 :: junk).drop (rest.takeWhile p).length = rest.dropWhile p ++ 0 :: junk := by
  induction rest with
  | nil => simp [hstop]
  | cons head tail ih =>
      by_cases hhead : p head = true
      · simpa [hhead] using ih
      · simp [hhead]

theorem ThemeLeft.advance (hstop : p 0 = false) (hleft : ThemeLeft buffer line rest) :
    themeAdvance p buffer line = line + (rest.takeWhile p).length
      ∧ ThemeLeft buffer (themeAdvance p buffer line) (rest.dropWhile p) := by
  obtain ⟨junk, hdrop⟩ := hleft
  obtain ⟨htake, hrest⟩ := takeWhile_append_stop hstop rest junk
  have hadvance : themeAdvance p buffer line = line + (rest.takeWhile p).length := by
    rw [themeAdvance, hdrop, htake]
  refine ⟨hadvance, junk, ?_⟩
  rw [hadvance, ← List.drop_drop, hdrop, hrest]

/-- The blanks that are passed on the way back are those at the end. -/
theorem themeRetreat_eq {start : Nat} (value : List UInt8) :
    ∀ {tail : List UInt8}, buffer.drop start = value ++ tail →
      themeRetreat buffer start (start + value.length) = start + (value.rdropWhile desktopThemeIsSpace).length := by
  induction value using List.reverseRecOn with
  | nil =>
      intro tail _
      cases start with
      | zero => rfl
      | succ start =>
          rw [List.length_nil, Nat.add_zero, themeRetreat, if_neg]
          · rfl
          · exact fun hboth => absurd hboth.1 (Nat.lt_irrefl _)
  | append_singleton value letter ih =>
      intro tail hdrop
      have hbyte : themeByte buffer (start + value.length) = letter := by
        have hget : (buffer.drop start)[value.length]?
            = (value ++ [letter] ++ tail)[value.length]? := by rw [hdrop]
        rw [List.getElem?_drop, List.append_assoc, List.getElem?_append_right le_rfl,
          Nat.sub_self] at hget
        rw [themeByte, List.getD_eq_getElem?_getD, hget]
        rfl
      rw [List.length_append, List.length_singleton, ← Nat.add_assoc, themeRetreat, hbyte,
        List.rdropWhile_concat]
      by_cases hspace : desktopThemeIsSpace letter = true
      · rw [if_pos ⟨by omega, hspace⟩, if_pos hspace]
        rw [List.append_assoc] at hdrop
        exact ih hdrop
      · rw [if_neg fun hboth => hspace hboth.2, if_neg hspace, List.length_append,
          List.length_singleton, Nat.add_assoc]

end Walk

/-! ### Colors -/

theorem desktopThemeParseDigits_eq (text : List UInt8) :
    ∀ (color : UInt32) (digits : Nat),
      desktopThemeParseDigits text color digits
        = ((text.takeWhile fun letter => !desktopThemeIsSpace letter).mapM desktopThemeHexValue).map
          fun values => (values.foldl (fun (color value : UInt32) => color <<< 4 ||| value) color,
            digits + values.length) := by
  induction text with
  | nil =>
      intro color digits
      rfl
  | cons letter rest ih =>
      intro color digits
      rw [desktopThemeParseDigits]
      by_cases hspace : desktopThemeIsSpace letter = true
      · rw [if_pos hspace, List.takeWhile_cons_of_neg (by rw [hspace]; decide)]
        rfl
      · rw [if_neg hspace, List.takeWhile_cons_of_pos (by simpa using hspace), List.mapM_cons]
        cases desktopThemeHexValue letter with
        | none => rfl
        | some value =>
            dsimp only
            rw [ih]
            cases (rest.takeWhile fun letter => !desktopThemeIsSpace letter).mapM
                desktopThemeHexValue with
            | none => rfl
            | some values =>
                simp only [Option.map_some, Option.bind_eq_bind, Option.bind_some, Option.pure_def,
                  List.foldl_cons, List.length_cons]
                rw [Nat.add_right_comm, Nat.add_assoc]

/-- The first word of a text. -/
def themeWord (text : List UInt8) : List UInt8 :=
  text.takeWhile fun letter => !desktopThemeIsSpace letter

theorem themeWord_cons {letter : UInt8} (hletter : desktopThemeIsSpace letter = false)
    (rest : List UInt8) : themeWord (letter :: rest) = letter :: themeWord rest := by
  rw [themeWord, List.takeWhile_cons_of_pos (by rw [hletter]; rfl), themeWord]

theorem themeWord_space {letter : UInt8} (hletter : desktopThemeIsSpace letter = true)
    (rest : List UInt8) : themeWord (letter :: rest) = [] := by
  rw [themeWord, List.takeWhile_cons_of_neg (by rw [hletter]; decide)]

theorem desktopThemeSkipPrefix_pair {second : UInt8} (hsecond : second = 0x78 ∨ second = 0x58)
    (rest : List UInt8) : desktopThemeSkipPrefix (0x30 :: second :: rest) = rest := by
  rcases hsecond with rfl | rfl
  · rfl
  · rfl

theorem desktopThemeSkipPrefix_word (text : List UInt8) :
    themeWord (desktopThemeSkipPrefix text) = desktopThemeSkipPrefix (themeWord text) := by
  cases text with
  | nil => rfl
  | cons first rest =>
      by_cases hmark : first = themeMark
      · subst hmark
        rw [themeWord_cons (by decide)]
        rfl
      by_cases hx : first = 0x30 ∧ (rest[0]? = some 0x78 ∨ rest[0]? = some 0x58)
      · obtain ⟨rfl, hsecond⟩ := hx
        cases rest with
        | nil => simp at hsecond
        | cons second others =>
            have hspace : desktopThemeIsSpace second = false := by
              rcases hsecond with hlower | hupper
              · rw [Option.some.inj hlower]
                decide
              · rw [Option.some.inj hupper]
                decide
            have hpair : second = 0x78 ∨ second = 0x58 := by simpa using hsecond
            rw [themeWord_cons (by decide), themeWord_cons hspace, desktopThemeSkipPrefix_pair hpair,
              desktopThemeSkipPrefix_pair hpair]
      · have hplain : ∀ others : List UInt8, others[0]? = rest[0]? ∨ others = [] →
            desktopThemeSkipPrefix (first :: others) = first :: others := by
          intro others hothers
          rw [desktopThemeSkipPrefix, if_neg (by simpa using hmark), if_neg]
          rintro ⟨hzero, hsecond⟩
          rcases hothers with hsame | rfl
          · exact hx ⟨by simpa using hzero, by simpa [hsame] using hsecond⟩
          · simp at hsecond
        rw [hplain rest (.inl rfl)]
        by_cases hspace : desktopThemeIsSpace first = true
        · rw [themeWord_space hspace]
          rfl
        · rw [themeWord_cons (by simpa using hspace), hplain]
          cases rest with
          | nil => exact .inl rfl
          | cons second others =>
              by_cases hsecond : desktopThemeIsSpace second = true
              · exact .inr (themeWord_space hsecond others)
              · rw [themeWord_cons (by simpa using hsecond)]
                exact .inl rfl

theorem desktopThemeParseColor_eq (text : List UInt8) :
    desktopThemeParseColor text = themeColor (themeWord (text.dropWhile desktopThemeIsSpace)) := by
  rw [desktopThemeParseColor, desktopThemeParseDigits_eq, themeColor]
  have hword := desktopThemeSkipPrefix_word (text.dropWhile desktopThemeIsSpace)
  rw [← hword]
  dsimp only
  unfold themeWord
  cases ((desktopThemeSkipPrefix (text.dropWhile desktopThemeIsSpace)).takeWhile
      fun letter => !desktopThemeIsSpace letter).mapM desktopThemeHexValue with
  | none => rfl
  | some values => simp

/-! ### Lines -/

/-- What the parser takes for the value in what stands behind a `=`. -/
def themeValue (region : List UInt8) : List UInt8 :=
  (region.dropWhile desktopThemeIsSpace).takeWhile (· ≠ themeMark)

/-- A blank stands behind the value. -/
def themeSpaced (value : List UInt8) : Bool := value.getLast?.any desktopThemeIsSpace

/-- The settings that are read: those up to the first one without a blank behind its value, which ends
at a `#`. A key with nothing behind the `=` is `pending`: its value is looked for in the next lines. -/
def themeRead : (pending : Option (List UInt8)) → List (List UInt8) → List (List UInt8 × List UInt8)
  | _, [] => []
  | none, line :: rest =>
      if themeEquals ∈ line.takeWhile (· ≠ themeMark) then
        let key := themeTrim (line.takeWhile (· ≠ themeEquals))
        let region := themeAfter line
        if region.all desktopThemeIsSpace then themeRead (some key) rest
        else
          (key, themeWord (themeValue region))
            :: if themeSpaced (themeValue region) then themeRead none rest else []
      else themeRead none rest
  | some key, region :: rest =>
      if region.all desktopThemeIsSpace then themeRead (some key) rest
      else
        (key, themeWord (themeValue region))
          :: if themeSpaced (themeValue region) then themeRead none rest else []

/-- Everything the parser takes from a text. -/
def themeReads (text : List UInt8) : List (List UInt8 × List UInt8) := themeRead none (themeLines text)

theorem themeInLine_eq {letter : UInt8} (hletter : letter ≠ 0) :
    themeInLine letter = !desktopThemeIsNewline letter := by
  simp [themeInLine, hletter]

/-- The lines behind the first one. -/
def themeOthers : List UInt8 → List (List UInt8)
  | [] => []
  | _ :: rest => themeLines rest

theorem themeLines_eq {text : List UInt8} (hnul : 0 ∉ text) :
    themeLines text = text.takeWhile themeInLine :: themeOthers (text.dropWhile themeInLine) := by
  induction text with
  | nil => rfl
  | cons letter rest ih =>
      have hletter : letter ≠ 0 := fun hzero => hnul (hzero ▸ List.mem_cons_self)
      have hrest := ih fun hmem => hnul (List.mem_cons_of_mem _ hmem)
      rw [themeLines, List.splitOnP_cons_eq_if_modifyHead, ← themeLines]
      by_cases hnewline : desktopThemeIsNewline letter = true
      · have hline : ¬ themeInLine letter = true := by simp [themeInLine, hnewline]
        rw [if_pos hnewline, List.takeWhile_cons_of_neg hline, List.dropWhile_cons_of_neg hline]
        rfl
      · have hline : themeInLine letter = true := by
          rw [themeInLine_eq hletter]
          simpa using hnewline
        rw [if_neg hnewline, hrest, List.takeWhile_cons_of_pos hline,
          List.dropWhile_cons_of_pos hline, List.modifyHead_cons]

theorem themeRead_blank {line : List UInt8} (hblank : line.all desktopThemeIsSpace = true)
    (pending : Option (List UInt8)) (rest : List (List UInt8)) :
    themeRead pending (line :: rest) = themeRead pending rest := by
  cases pending with
  | none =>
      rw [themeRead, if_neg]
      intro hequals
      have hspace := List.all_eq_true.mp hblank themeEquals ((List.takeWhile_sublist _).subset hequals)
      exact absurd hspace (by decide)
  | some key => rw [themeRead, if_pos hblank]

/-- What is read of a text that begins at the end of a line. -/
theorem themeRead_others {text : List UInt8} (hnul : 0 ∉ text) (pending : Option (List UInt8)) :
    themeRead pending (themeLines (text.dropWhile themeInLine))
      = themeRead pending (themeOthers (text.dropWhile themeInLine)) := by
  have hfirst := List.head?_dropWhile_not themeInLine text
  have hsubset := (List.dropWhile_sublist themeInLine (l := text)).subset
  cases hrest : text.dropWhile themeInLine with
  | nil => rw [themeOthers, themeLines, List.splitOnP_nil, themeRead_blank rfl]
  | cons letter rest =>
      rw [hrest] at hfirst hsubset
      have hletter : letter ≠ 0 := fun hzero => hnul (hzero ▸ hsubset List.mem_cons_self)
      have hnewline : desktopThemeIsNewline letter = true := by
        simpa [themeInLine_eq hletter] using hfirst
      rw [themeLines, List.splitOnP_cons_eq_if_modifyHead, if_pos hnewline, themeRead_blank rfl]
      rfl

/-- Blanks before a line do not count. -/
theorem themeRead_cons_space {letter : UInt8} (hletter : desktopThemeIsSpace letter = true)
    (pending : Option (List UInt8)) (line : List UInt8) (rest : List (List UInt8)) :
    themeRead pending ((letter :: line) :: rest) = themeRead pending (line :: rest) := by
  have hmark : letter ≠ themeMark := by
    rintro rfl
    exact absurd hletter (by decide)
  have hequals : letter ≠ themeEquals := by
    rintro rfl
    exact absurd hletter (by decide)
  have hvalue : themeValue (letter :: line) = themeValue line := by
    rw [themeValue, List.dropWhile_cons_of_pos hletter, themeValue]
  cases pending with
  | none =>
      have htrim : themeTrim (letter :: line.takeWhile (· ≠ themeEquals))
          = themeTrim (line.takeWhile (· ≠ themeEquals)) := by
        rw [themeTrim, List.dropWhile_cons_of_pos hletter, themeTrim]
      have hafter : themeAfter (letter :: line) = themeAfter line := by
        rw [themeAfter, List.dropWhile_cons_of_pos (by simpa using hequals), themeAfter]
      rw [themeRead, themeRead, List.takeWhile_cons_of_pos (by simpa using hmark),
        List.takeWhile_cons_of_pos (by simpa using hequals), htrim, hafter]
      simp only [List.mem_cons, Ne.symm hequals, false_or]
  | some key => rw [themeRead, themeRead, List.all_cons, hletter, Bool.true_and, hvalue]

theorem themeRead_dropWhile {text : List UInt8} (hnul : 0 ∉ text) (pending : Option (List UInt8)) :
    themeRead pending (themeLines (text.dropWhile desktopThemeIsSpace))
      = themeRead pending (themeLines text) := by
  induction text with
  | nil => rfl
  | cons letter rest ih =>
      have hrest : 0 ∉ rest := fun hmem => hnul (List.mem_cons_of_mem _ hmem)
      by_cases hspace : desktopThemeIsSpace letter = true
      · rw [List.dropWhile_cons_of_pos hspace, ih hrest]
        conv_rhs => rw [themeLines, List.splitOnP_cons_eq_if_modifyHead, ← themeLines]
        by_cases hnewline : desktopThemeIsNewline letter = true
        · rw [if_pos hnewline, themeRead_blank rfl]
        · rw [if_neg hnewline, themeLines_eq hrest, List.modifyHead_cons,
            themeRead_cons_space hspace]
      · rw [List.dropWhile_cons_of_neg hspace]

/-! ### One setting -/

theorem themeSpaced_concat (value : List UInt8) (letter : UInt8) :
    themeSpaced (value ++ [letter]) = desktopThemeIsSpace letter := by
  simp [themeSpaced]

theorem rdropWhile_of_spaced (value : List UInt8) :
    if themeSpaced value = true then (value.rdropWhile desktopThemeIsSpace).length < value.length
    else value.rdropWhile desktopThemeIsSpace = value := by
  induction value using List.reverseRecOn with
  | nil => rfl
  | append_singleton value letter _ =>
      rw [themeSpaced_concat, List.rdropWhile_concat]
      split
      · have hle := (List.rdropWhile_prefix desktopThemeIsSpace (l := value)).length_le
        rw [List.length_append, List.length_singleton]
        omega
      · rfl

theorem dropWhile_dropWhile_of_imp {p q : UInt8 → Bool} (himp : ∀ letter, p letter = true → q letter = true)
    (text : List UInt8) : (text.dropWhile p).dropWhile q = text.dropWhile q := by
  induction text with
  | nil => rfl
  | cons letter rest ih =>
      by_cases hletter : p letter = true
      · rw [List.dropWhile_cons_of_pos hletter, ih, List.dropWhile_cons_of_pos (himp letter hletter)]
      · rw [List.dropWhile_cons_of_neg hletter]

theorem themeInLine_of_inValue (letter : UInt8) (hletter : themeInValue letter = true) :
    themeInLine letter = true := by
  simp only [themeInValue, decide_eq_true_eq] at hletter
  simp only [themeInLine, decide_eq_true_eq]
  exact ⟨hletter.1, hletter.2.1⟩

section Setting

variable {buffer rest : List UInt8} {start scan line : Nat}

/-- The NUL behind a value ends it, and takes the place of the end of the line if there is no blank
behind the value. -/
theorem ThemeLeft.setting (hleft : ThemeLeft buffer start rest) (hnul : 0 ∉ rest)
    (hline : line = themeAdvance themeInValue buffer start)
    (hscan : scan = themeRetreat buffer start line) :
    start ≤ scan
      ∧ CString.scan ((buffer.set scan 0).drop start)
        = (rest.takeWhile themeInValue).rdropWhile desktopThemeIsSpace
      ∧ ThemeLeft (buffer.set scan 0) (themeAdvance themeInLine (buffer.set scan 0) line)
        (if themeSpaced (rest.takeWhile themeInValue) = true then rest.dropWhile themeInLine
          else []) := by
  obtain ⟨hadvance, junk', hjunk'⟩ := hleft.advance (p := themeInValue) rfl
  obtain ⟨junk, hdrop⟩ := hleft
  have hsplit := List.takeWhile_append_dropWhile (p := themeInValue) (l := rest)
  generalize hvalue : rest.takeWhile themeInValue = value at *
  generalize htail : rest.dropWhile themeInValue = tail at *
  rw [← hsplit, List.append_assoc] at hdrop
  rw [← hline] at hjunk' hadvance
  rw [hadvance, themeRetreat_eq value hdrop] at hscan
  have hspaced := rdropWhile_of_spaced value
  obtain ⟨blanks, hblanks⟩ := List.rdropWhile_prefix desktopThemeIsSpace (l := value)
  generalize htrimmed : value.rdropWhile desktopThemeIsSpace = trimmed at *
  have hnulTrimmed : 0 ∉ trimmed := by
    intro hmem
    apply hnul
    rw [← hsplit, ← hblanks, List.mem_append, List.mem_append]
    exact .inl (.inl hmem)
  refine ⟨by omega, ?_, ?_⟩
  · have hset : (buffer.set scan 0).drop start
        = (trimmed ++ (blanks ++ (tail ++ 0 :: junk))).set trimmed.length 0 := by
      rw [List.drop_set, if_neg (by omega), hdrop, ← hblanks, List.append_assoc]
      congr 1
      omega
    rw [hset, List.set_append_right _ _ le_rfl, Nat.sub_self]
    cases hmore : blanks ++ (tail ++ 0 :: junk) with
    | nil => simp at hmore
    | cons letter others =>
        rw [List.set_cons_zero]
        exact CString.scan_append_nul hnulTrimmed
  · split at hspaced
    · rename_i hyes
      rw [if_pos hyes]
      have hsame : (buffer.set scan 0).drop line = buffer.drop line := by
        rw [List.drop_set, if_pos (by omega)]
      have hbehind : ThemeLeft (buffer.set scan 0) line tail := ⟨junk', by rw [hsame, hjunk']⟩
      have hnext := (hbehind.advance (p := themeInLine) rfl).2
      rwa [← htail, dropWhile_dropWhile_of_imp themeInLine_of_inValue] at hnext
    · rename_i hno
      rw [if_neg hno]
      have hend : ThemeLeft (buffer.set scan 0) line [] := by
        rw [hspaced] at hscan
        rw [← hadvance] at hscan
        refine ⟨(tail ++ 0 :: junk').tail, ?_⟩
        rw [List.drop_set, if_neg (by omega), hjunk', hscan, Nat.sub_self]
        cases tail with
        | nil => rfl
        | cons letter others => rfl
      exact (hend.advance (p := themeInLine) rfl).2

end Setting

/-! ### The loop -/

section Lines

variable {text : List UInt8}

theorem themeInLine_of_inKey (letter : UInt8) (hletter : themeInKey letter = true) :
    themeInLine letter = true := by
  simp only [themeInKey, decide_eq_true_eq] at hletter
  simp only [themeInLine, decide_eq_true_eq]
  exact ⟨hletter.1, hletter.2.1⟩

theorem themeInValue_of_inKey (letter : UInt8) (hletter : themeInKey letter = true) :
    themeInValue letter = true := by
  simp only [themeInKey, decide_eq_true_eq] at hletter
  simp only [themeInValue, decide_eq_true_eq]
  exact ⟨hletter.1, hletter.2.1, hletter.2.2.2⟩

theorem takeWhile_line_mark (text : List UInt8) :
    (text.takeWhile themeInLine).takeWhile (· ≠ themeMark) = text.takeWhile themeInValue := by
  rw [List.takeWhile_takeWhile]
  congr 1
  funext letter
  by_cases hzero : letter = 0
  · simp [themeInLine, themeInValue, hzero]
  · simp [themeInLine, themeInValue, hzero, and_comm]

/-- A line whose key is not followed by a `=` sets nothing. -/
theorem themeReads_of_plain (hnul : 0 ∉ text)
    (hplain : (text.dropWhile themeInKey).head? ≠ some themeEquals) :
    themeReads text = themeReads (text.dropWhile themeInLine) := by
  have hvalue : text.takeWhile themeInValue = text.takeWhile themeInKey := by
    have hsplit := List.takeWhile_append_dropWhile (p := themeInKey) (l := text)
    have hall : ∀ letter ∈ text.takeWhile themeInKey, themeInValue letter = true :=
      fun letter hmem => themeInValue_of_inKey letter (List.mem_takeWhile_imp hmem)
    have hsubset := (List.dropWhile_sublist themeInKey (l := text)).subset
    have hfirst := List.head?_dropWhile_not themeInKey text
    conv_lhs => rw [← hsplit]
    rw [List.takeWhile_append_of_pos hall]
    cases hrest : text.dropWhile themeInKey with
    | nil => rw [List.takeWhile_nil, List.append_nil]
    | cons letter rest =>
        rw [hrest] at hplain hsubset hfirst
        have hletter : letter ≠ 0 := fun hzero => hnul (hzero ▸ hsubset List.mem_cons_self)
        have hequals : letter ≠ themeEquals := fun heq => hplain (by rw [heq]; rfl)
        have hstop : ¬ themeInValue letter = true := by
          simp only [themeInKey, List.head?_cons, hletter, hequals, ne_eq, not_false_eq_true,
            true_and] at hfirst
          simp only [themeInValue, hletter, ne_eq, not_false_eq_true, true_and]
          simpa using hfirst
        rw [List.takeWhile_cons_of_neg hstop, List.append_nil]
  rw [themeReads, themeLines_eq hnul, themeRead, takeWhile_line_mark, hvalue, if_neg, themeReads,
    themeRead_others hnul]
  intro hmem
  have hkey := List.mem_takeWhile_imp hmem
  exact absurd hkey (by decide)

/-- Behind the `=` of a line its value is looked for. -/
theorem ne_of_inKey (letter : UInt8) (hletter : themeInKey letter = true) :
    letter ≠ themeEquals ∧ letter ≠ themeMark := by
  simp only [themeInKey, decide_eq_true_eq] at hletter
  exact hletter.2.2

theorem themeReads_of_equals {after : List UInt8} (hnul : 0 ∉ text)
    (hafter : text.dropWhile themeInKey = themeEquals :: after) :
    themeReads text
      = themeRead (some (themeTrim (text.takeWhile themeInKey))) (themeLines after) := by
  have hsplit := List.takeWhile_append_dropWhile (p := themeInKey) (l := text)
  have hall : ∀ letter ∈ text.takeWhile themeInKey, themeInKey letter = true :=
    fun letter hmem => List.mem_takeWhile_imp hmem
  rw [hafter] at hsplit
  generalize text.takeWhile themeInKey = key at *
  have hnulAfter : 0 ∉ after := by
    intro hmem
    rw [← hsplit] at hnul
    exact hnul (List.mem_append_right _ (List.mem_cons_of_mem _ hmem))
  have hfirst : text.takeWhile themeInLine = key ++ themeEquals :: after.takeWhile themeInLine := by
    rw [← hsplit,
      List.takeWhile_append_of_pos fun letter hmem => themeInLine_of_inKey letter (hall letter hmem)]
    rfl
  have hrest : text.dropWhile themeInLine = after.dropWhile themeInLine := by
    rw [← hsplit,
      List.dropWhile_append_of_pos fun letter hmem => themeInLine_of_inKey letter (hall letter hmem)]
    rfl
  have hkey : ∀ more : List UInt8, (key ++ themeEquals :: more).takeWhile (· ≠ themeEquals) = key := by
    intro more
    rw [List.takeWhile_append_of_pos]
    · simp
    · intro letter hmem
      simpa using (ne_of_inKey letter (hall letter hmem)).1
  have hbehind : ∀ more : List UInt8, themeAfter (key ++ themeEquals :: more) = more := by
    intro more
    rw [themeAfter, List.dropWhile_append_of_pos]
    · simp
    · intro letter hmem
      simpa using (ne_of_inKey letter (hall letter hmem)).1
  have hsets : themeEquals
      ∈ (key ++ themeEquals :: after.takeWhile themeInLine).takeWhile (· ≠ themeMark) := by
    rw [List.takeWhile_append_of_pos]
    · rw [List.takeWhile_cons_of_pos (by decide)]
      exact List.mem_append_right _ List.mem_cons_self
    · intro letter hmem
      simpa using (ne_of_inKey letter (hall letter hmem)).2
  rw [themeReads, themeLines_eq hnul, themeLines_eq hnulAfter, hfirst, hrest, themeRead,
    if_pos hsets, hkey, hbehind, themeRead]

end Lines

/-- The theme with what a setting that is read gives it. -/
def themeApply (theme : DesktopTheme) (setting : List UInt8 × List UInt8) : DesktopTheme :=
  match themeColor setting.2 with
  | none => theme
  | some color => desktopThemeApplyValue theme setting.1 color

theorem themeWord_rdropWhile (value : List UInt8) :
    themeWord (value.rdropWhile desktopThemeIsSpace) = themeWord value := by
  induction value using List.reverseRecOn with
  | nil => rfl
  | append_singleton value letter ih =>
      rw [List.rdropWhile_concat]
      split
      · rename_i hspace
        rw [ih, themeWord, themeWord, List.takeWhile_append,
          List.takeWhile_cons_of_neg (by rw [hspace]; decide), List.append_nil]
        split
        · rename_i hwhole
          exact (List.takeWhile_prefix _).eq_of_length hwhole
        · rfl
      · rfl

/-- The color that is parsed behind the key, for a text without blanks before it. -/
theorem desktopThemeParseColor_value {value : List UInt8}
    (hstart : ∀ letter, value.head? = some letter → desktopThemeIsSpace letter = false) :
    desktopThemeParseColor (value.rdropWhile desktopThemeIsSpace) = themeColor (themeWord value) := by
  have hprefix := List.rdropWhile_prefix desktopThemeIsSpace (l := value)
  rw [desktopThemeParseColor_eq, ← themeWord_rdropWhile value]
  congr 2
  cases htrimmed : value.rdropWhile desktopThemeIsSpace with
  | nil => rfl
  | cons letter rest =>
      rw [htrimmed] at hprefix
      obtain ⟨more, hmore⟩ := hprefix
      have hletter := hstart letter (by rw [← hmore]; rfl)
      rw [List.dropWhile_cons_of_neg (by rw [hletter]; decide)]

/-- The key is read after the NUL has been written behind it. -/
theorem themeKey_take {buffer key tail : List UInt8} {start scan : Nat}
    (hdrop : buffer.drop start = key ++ tail) (hscan : start + key.length ≤ scan) :
    ((buffer.set scan 0).drop start).take (key.rdropWhile desktopThemeIsSpace).length
      = key.rdropWhile desktopThemeIsSpace := by
  have hprefix := List.rdropWhile_prefix desktopThemeIsSpace (l := key)
  have hle := hprefix.length_le
  rw [List.drop_set, if_neg (by omega), List.take_set_of_le (by omega), hdrop,
    List.take_append_of_le_length hle, ← List.prefix_iff_eq_take.mp hprefix]

theorem desktopThemeIsSpace_of_newline (letter : UInt8) (hletter : desktopThemeIsNewline letter = true) :
    desktopThemeIsSpace letter = true := by
  simp only [desktopThemeIsNewline, decide_eq_true_eq] at hletter
  simp only [desktopThemeIsSpace, decide_eq_true_eq]
  rcases hletter with hlf | hcr
  · exact .inr (.inr (.inr hlf))
  · exact .inr (.inr (.inl hcr))

theorem head?_dropWhile_space (text : List UInt8) (letter : UInt8)
    (hhead : (text.dropWhile desktopThemeIsSpace).head? = some letter) :
    desktopThemeIsSpace letter = false := by
  have hfirst := List.head?_dropWhile_not desktopThemeIsSpace text
  rw [hhead] at hfirst
  simpa using hfirst

theorem length_dropWhile_inLine {text : List UInt8} (hempty : text ≠ []) (hnul : 0 ∉ text)
    (hfirst : ∀ letter, text.head? = some letter → desktopThemeIsSpace letter = false) :
    (text.dropWhile themeInLine).length < text.length := by
  cases text with
  | nil => exact absurd rfl hempty
  | cons letter rest =>
      have hletter : letter ≠ 0 := fun hzero => hnul (hzero ▸ List.mem_cons_self)
      have hline : themeInLine letter = true := by
        rw [themeInLine_eq hletter, Bool.not_eq_true', Bool.eq_false_iff]
        intro hnewline
        have hspace := desktopThemeIsSpace_of_newline letter hnewline
        rw [hfirst letter rfl] at hspace
        cases hspace
      have hle := (List.dropWhile_sublist themeInLine (l := rest)).length_le
      rw [List.dropWhile_cons_of_pos hline, List.length_cons]
      omega

/-- The value that is looked for is found where the blanks end. -/
theorem themeRead_pending {text : List UInt8} (hempty : text ≠ []) (hnul : 0 ∉ text)
    (hfirst : ∀ letter, text.head? = some letter → desktopThemeIsSpace letter = false)
    (key : List UInt8) :
    themeRead (some key) (themeLines text)
      = (key, themeWord (text.takeWhile themeInValue))
        :: themeReads
          (if themeSpaced (text.takeWhile themeInValue) = true then text.dropWhile themeInLine
            else []) := by
  have hshorter := length_dropWhile_inLine hempty hnul hfirst
  have hsplit := List.takeWhile_append_dropWhile (p := themeInLine) (l := text)
  have hvalue := takeWhile_line_mark text
  rw [themeLines_eq hnul]
  cases hline : text.takeWhile themeInLine with
  | nil =>
      rw [hline, List.nil_append] at hsplit
      rw [hsplit] at hshorter
      exact absurd hshorter (Nat.lt_irrefl _)
  | cons letter rest =>
      have hletter : desktopThemeIsSpace letter = false := by
        apply hfirst
        rw [← hsplit, hline]
        rfl
      have hregion : themeValue (letter :: rest) = text.takeWhile themeInValue := by
        rw [themeValue, List.dropWhile_cons_of_neg (by rw [hletter]; decide), ← hline, hvalue]
      rw [themeRead, if_neg (by rw [List.all_cons, hletter, Bool.false_and]; decide), hregion]
      congr 1
      split
      · rw [themeReads, themeRead_others hnul]
      · rfl

/-- What the parser does with a value, and what it takes from the text from there on. -/
theorem themeApply_setting {value : List UInt8} (hnul : 0 ∉ value)
    (hfirst : ∀ letter, value.head? = some letter → desktopThemeIsSpace letter = false)
    (key : List UInt8) (start : Nat) (theme : DesktopTheme) :
    (themeReads
        (if themeSpaced (value.takeWhile themeInValue) = true then value.dropWhile themeInLine
          else [])).foldl themeApply
      (if start < start + key.length then
        match desktopThemeParseColor
            ((value.takeWhile themeInValue).rdropWhile desktopThemeIsSpace) with
        | none => theme
        | some color => desktopThemeApplyValue theme key color
      else theme)
      = (themeRead (some key) (themeLines value)).foldl themeApply theme := by
  by_cases hempty : value = []
  · subst hempty
    have hnone : desktopThemeParseColor
        (([] : List UInt8).rdropWhile desktopThemeIsSpace) = none := rfl
    rw [List.takeWhile_nil, hnone]
    dsimp only
    rw [ite_self]
    rfl
  have hstart : ∀ letter, (value.takeWhile themeInValue).head? = some letter →
      desktopThemeIsSpace letter = false := by
    intro letter hhead
    obtain ⟨more, hmore⟩ := List.takeWhile_prefix themeInValue (l := value)
    apply hfirst
    rw [← hmore, List.head?_append, hhead]
    rfl
  rw [themeRead_pending hempty hnul hfirst, List.foldl_cons, desktopThemeParseColor_value hstart]
  congr 1
  unfold themeApply
  dsimp only
  by_cases hkey : key = []
  · subst hkey
    rw [if_neg (by rw [List.length_nil, Nat.add_zero]; exact Nat.lt_irrefl _)]
    cases themeColor (themeWord (value.takeWhile themeInValue)) with
    | none => rfl
    | some color => rfl
  · have hpos := List.length_pos_iff.mpr hkey
    rw [if_pos (by omega)]

theorem ThemeLeft.tail {buffer rest : List UInt8} {line : Nat} {letter : UInt8}
    (hleft : ThemeLeft buffer line (letter :: rest)) : ThemeLeft buffer (line + 1) rest := by
  obtain ⟨junk, hdrop⟩ := hleft
  refine ⟨junk, ?_⟩
  rw [← List.drop_drop, hdrop]
  rfl

theorem themeTrim_key {text : List UInt8}
    (hfirst : ∀ letter, text.head? = some letter → desktopThemeIsSpace letter = false) :
    themeTrim (text.takeWhile themeInKey)
      = (text.takeWhile themeInKey).rdropWhile desktopThemeIsSpace := by
  have hprefix := List.takeWhile_prefix themeInKey (l := text)
  rw [themeTrim]
  cases hkey : text.takeWhile themeInKey with
  | nil => rfl
  | cons letter rest =>
      rw [hkey] at hprefix
      obtain ⟨more, hmore⟩ := hprefix
      have hletter := hfirst letter (by rw [← hmore]; rfl)
      rw [List.dropWhile_cons_of_neg (by rw [hletter]; decide)]

section Rounds

variable {buffer rest text after : List UInt8} {line keyStart : Nat}

theorem not_mem_dropWhile {letter : UInt8} (hmem : letter ∉ text) (p : UInt8 → Bool) :
    letter ∉ text.dropWhile p :=
  fun hrest => hmem ((List.dropWhile_sublist p).subset hrest)

theorem ThemeLeft.byte_eq_zero_iff (hleft : ThemeLeft buffer line rest) (hnul : 0 ∉ rest) :
    themeByte buffer line = 0 ↔ rest = [] := by
  rw [hleft.byte]
  cases rest with
  | nil => exact iff_of_true rfl rfl
  | cons letter others =>
      refine iff_of_false (fun hzero => hnul ?_) (List.cons_ne_nil _ _)
      rw [← hzero]
      exact List.mem_cons_self

/-- A round takes some of the text: what is left makes of the new theme what the text makes of the old
one. -/
def ThemeRound (text : List UInt8) (theme : DesktopTheme) (buffer : List UInt8) (line : Nat)
    (next : DesktopTheme) : Prop :=
  ∃ left, ThemeLeft buffer line left ∧ 0 ∉ left ∧ left.length < text.length
    ∧ (themeReads left).foldl themeApply next = (themeReads text).foldl themeApply theme

/-- A line whose key is not followed by a `=` is passed over. -/
theorem themeRound_plain (hleft : ThemeLeft buffer keyStart text) (hnul : 0 ∉ text) (hempty : text ≠ [])
    (hfirst : ∀ letter, text.head? = some letter → desktopThemeIsSpace letter = false)
    (hhead : (text.dropWhile themeInKey).head? ≠ some themeEquals) (theme : DesktopTheme) :
    ThemeRound text theme buffer
      (themeAdvance themeInLine buffer (themeAdvance themeInKey buffer keyStart)) theme := by
  have hkey := (hleft.advance (p := themeInKey) rfl).2
  have hline := (hkey.advance (p := themeInLine) rfl).2
  rw [dropWhile_dropWhile_of_imp themeInLine_of_inKey] at hline
  refine ⟨_, hline, not_mem_dropWhile hnul _, length_dropWhile_inLine hempty hnul hfirst, ?_⟩
  rw [themeReads_of_plain hnul hhead]

/-- A line with a `=` behind its key sets the theme. -/
theorem themeRound_setting (hleft : ThemeLeft buffer keyStart text) (hnul : 0 ∉ text)
    (hfirst : ∀ letter, text.head? = some letter → desktopThemeIsSpace letter = false)
    (hafter : text.dropWhile themeInKey = themeEquals :: after) (theme : DesktopTheme)
    {keyEnd valueStart scan : Nat} (hline : line = themeAdvance themeInKey buffer keyStart)
    (hkeyEnd : keyEnd = themeRetreat buffer keyStart line)
    (hvalueStart : valueStart = themeAdvance desktopThemeIsSpace buffer (line + 1))
    (hscan : scan = themeRetreat buffer valueStart (themeAdvance themeInValue buffer valueStart)) :
    ThemeRound text theme (buffer.set scan 0)
      (themeAdvance themeInLine (buffer.set scan 0) (themeAdvance themeInValue buffer valueStart))
      (if keyStart < keyEnd then
        match desktopThemeParseColor (CString.scan ((buffer.set scan 0).drop valueStart)) with
        | none => theme
        | some color =>
            desktopThemeApplyValue theme
              (((buffer.set scan 0).drop keyStart).take (keyEnd - keyStart)) color
      else theme) := by
  obtain ⟨hadvance, hkey⟩ := hleft.advance (p := themeInKey) rfl
  rw [← hline, hafter] at hkey
  rw [← hline] at hadvance
  have hnulAfter : 0 ∉ after := by
    have hnulKey := not_mem_dropWhile hnul themeInKey
    rw [hafter] at hnulKey
    exact fun hmem => hnulKey (List.mem_cons_of_mem _ hmem)
  have hvalue := hkey.tail.advance (p := desktopThemeIsSpace) rfl
  rw [← hvalueStart] at hvalue
  have hnulValue := not_mem_dropWhile hnulAfter desktopThemeIsSpace
  obtain ⟨hle, hstring, hnext⟩ := hvalue.2.setting hnulValue rfl hscan
  -- The key, which stands before the value.
  have hsplit := List.takeWhile_append_dropWhile (p := themeInKey) (l := text)
  obtain ⟨junk, hdrop⟩ := hleft
  rw [← hsplit, List.append_assoc] at hdrop
  have hend := themeRetreat_eq _ hdrop
  rw [← hadvance, ← hkeyEnd] at hend
  have htake := themeKey_take hdrop (le_trans (by rw [← hadvance, hvalue.1]; omega) hle)
  have htrim := themeTrim_key hfirst
  have hlength := congrArg List.length hsplit
  rw [hafter, List.length_append, List.length_cons] at hlength
  have hshorter := (List.dropWhile_sublist desktopThemeIsSpace (l := after)).length_le
  have hfirstValue := head?_dropWhile_space after
  unfold ThemeRound
  rw [themeReads_of_equals hnul hafter, ← themeRead_dropWhile hnulAfter, hend]
  generalize after.dropWhile desktopThemeIsSpace = value at *
  refine ⟨_, hnext, ?_, ?_, ?_⟩
  · split
    · exact not_mem_dropWhile hnulValue _
    · exact List.not_mem_nil
  · split
    · have hless := (List.dropWhile_sublist themeInLine (l := value)).length_le
      omega
    · rw [List.length_nil]
      omega
  · rw [Nat.add_sub_cancel_left, hstring, htake, ← htrim]
    exact themeApply_setting hnulValue hfirstValue _ keyStart theme

/-- One round of the loop, where the text does not end. -/
theorem desktopThemeParseLoop_round (hleft : ThemeLeft buffer line rest) (hnul : 0 ∉ rest)
    (htext : text = rest.dropWhile desktopThemeIsSpace) (hempty : text ≠ []) (fuel : Nat)
    (theme : DesktopTheme) :
    ∃ buffer' line' next, ThemeRound text theme buffer' line' next
      ∧ desktopThemeParseLoop (fuel + 1) buffer line theme
        = desktopThemeParseLoop fuel buffer' line' next := by
  have hnewline := (hleft.advance (p := desktopThemeIsNewline) rfl).2
  have hspace := (hnewline.advance (p := desktopThemeIsSpace) rfl).2
  have hskip := dropWhile_dropWhile_of_imp desktopThemeIsSpace_of_newline rest
  rw [hskip, ← htext] at hspace
  have hfirst := head?_dropWhile_space rest
  have hnulText := not_mem_dropWhile hnul desktopThemeIsSpace
  rw [← htext] at hskip hfirst hnulText
  have hrest : rest ≠ [] := by
    rintro rfl
    exact hempty htext
  have hrest' : rest.dropWhile desktopThemeIsNewline ≠ [] := by
    intro hnil
    rw [hnil] at hskip
    exact hempty hskip.symm
  rw [desktopThemeParseLoop]
  dsimp only
  rw [if_neg ((hleft.byte_eq_zero_iff hnul).not.mpr hrest),
    if_neg ((hnewline.byte_eq_zero_iff (not_mem_dropWhile hnul _)).not.mpr hrest'),
    if_neg ((hspace.byte_eq_zero_iff hnulText).not.mpr hempty)]
  generalize themeAdvance desktopThemeIsSpace buffer
    (themeAdvance desktopThemeIsNewline buffer line) = keyStart at *
  have hhead := (hspace.advance (p := themeInKey) rfl).2.byte
  have hplain := fun hother => themeRound_plain hspace hnulText hempty hfirst hother theme
  by_cases hmark : themeByte buffer (themeAdvance themeInKey buffer keyStart) = themeMark
  · rw [if_pos hmark]
    refine ⟨_, _, _, hplain fun hequals => ?_, rfl⟩
    rw [hhead, hequals] at hmark
    exact absurd hmark (by decide)
  rw [if_neg hmark]
  by_cases hequals : themeByte buffer (themeAdvance themeInKey buffer keyStart) ≠ themeEquals
  · rw [if_pos hequals]
    refine ⟨_, _, _, hplain fun hhead' => ?_, rfl⟩
    rw [hhead, hhead'] at hequals
    exact hequals rfl
  rw [if_neg hequals]
  cases hafter : text.dropWhile themeInKey with
  | nil =>
      rw [hafter] at hhead
      rw [hhead] at hequals
      exact absurd (by decide) hequals
  | cons letter after =>
      rw [hafter] at hhead
      rw [hhead] at hequals
      obtain rfl : letter = themeEquals := not_not.mp hequals
      exact ⟨_, _, _, themeRound_setting hspace hnulText hfirst hafter theme rfl rfl rfl rfl, rfl⟩

theorem desktopThemeParseLoop_blank (hleft : ThemeLeft buffer line rest)
    (hblank : rest.dropWhile desktopThemeIsSpace = []) (fuel : Nat) (theme : DesktopTheme) :
    desktopThemeParseLoop fuel buffer line theme = theme := by
  cases fuel with
  | zero => rfl
  | succ fuel =>
      have hspace := ((hleft.advance (p := desktopThemeIsNewline) rfl).2.advance
        (p := desktopThemeIsSpace) rfl).2
      rw [dropWhile_dropWhile_of_imp desktopThemeIsSpace_of_newline, hblank] at hspace
      rw [desktopThemeParseLoop]
      dsimp only
      rw [(hspace.byte_eq_zero_iff List.not_mem_nil).mpr rfl, if_pos rfl, ite_self, ite_self]

/-- The loop over any text, by induction on its rounds. -/
theorem desktopThemeParseLoop_eq (hleft : ThemeLeft buffer line rest) (hnul : 0 ∉ rest) {fuel : Nat}
    (hfuel : rest.length ≤ fuel) (theme : DesktopTheme) :
    desktopThemeParseLoop fuel buffer line theme = (themeReads rest).foldl themeApply theme := by
  induction fuel generalizing buffer line rest theme with
  | zero =>
      rw [List.length_eq_zero_iff.mp (Nat.le_zero.mp hfuel)]
      rfl
  | succ fuel ih =>
      have hreads : themeReads rest = themeReads (rest.dropWhile desktopThemeIsSpace) :=
        (themeRead_dropWhile hnul none).symm
      rw [hreads]
      by_cases hblank : rest.dropWhile desktopThemeIsSpace = []
      · rw [desktopThemeParseLoop_blank hleft hblank, hblank]
        rfl
      · obtain ⟨buffer', line', next, ⟨left, hnext, hnulLeft, hshorter, happly⟩, hloop⟩ :=
          desktopThemeParseLoop_round hleft hnul rfl hblank fuel theme
        have hshort := (List.dropWhile_sublist desktopThemeIsSpace (l := rest)).length_le
        rw [hloop, ih hnext hnulLeft (by omega), happly]

end Rounds

/-! ### Fields -/

namespace ThemeField

def set (theme : DesktopTheme) (color : UInt32) : ThemeField → DesktopTheme
  | .background => { theme with background := color }
  | .taskbar => { theme with taskbar := color }
  | .windowBody => { theme with windowBody := color }
  | .titlebarActive => { theme with titlebarActive := color }
  | .titlebarInactive => { theme with titlebarInactive := color }
  | .text => { theme with text := color }
  | .accent => { theme with accent := color }

theorem get_set (theme : DesktopTheme) (color : UInt32) (field other : ThemeField) :
    field.get (other.set theme color) = if other = field then color else field.get theme := by
  cases other
  all_goals cases field
  all_goals rfl

theorem key_injective : Function.Injective key := by
  intro field other heq
  cases field
  all_goals cases other
  all_goals first
    | rfl
    | exact absurd heq (by decide)

end ThemeField

theorem desktopThemeApplyValue_key (theme : DesktopTheme) (field : ThemeField) (color : UInt32) :
    desktopThemeApplyValue theme field.key color = field.set theme color := by
  cases field
  all_goals rfl

theorem desktopThemeApplyValue_of_ne {key : List UInt8} (hkey : ∀ field : ThemeField, key ≠ field.key)
    (theme : DesktopTheme) (color : UInt32) : desktopThemeApplyValue theme key color = theme := by
  have hbackground : key ≠ ascii "background" := hkey .background
  have htaskbar : key ≠ ascii "taskbar" := hkey .taskbar
  have hbody : key ≠ ascii "window_body" := hkey .windowBody
  have hactive : key ≠ ascii "titlebar_active" := hkey .titlebarActive
  have hinactive : key ≠ ascii "titlebar_inactive" := hkey .titlebarInactive
  have htext : key ≠ ascii "text" := hkey .text
  have haccent : key ≠ ascii "accent" := hkey .accent
  rw [desktopThemeApplyValue, if_neg hbackground, if_neg htaskbar, if_neg hbody, if_neg hactive,
    if_neg hinactive, if_neg htext, if_neg haccent]

theorem get_desktopThemeApplyValue (theme : DesktopTheme) (key : List UInt8) (color : UInt32)
    (field : ThemeField) :
    field.get (desktopThemeApplyValue theme key color)
      = if key = field.key then color else field.get theme := by
  by_cases hknown : ∃ other : ThemeField, key = other.key
  · obtain ⟨other, rfl⟩ := hknown
    rw [desktopThemeApplyValue_key, ThemeField.get_set]
    congr 1
    exact propext ThemeField.key_injective.eq_iff.symm
  · have hne : ∀ other : ThemeField, key ≠ other.key := fun other heq => hknown ⟨other, heq⟩
    rw [desktopThemeApplyValue_of_ne hne, if_neg (hne field)]

theorem get_themeApply (theme : DesktopTheme) (setting : List UInt8 × List UInt8)
    (field : ThemeField) :
    field.get (themeApply theme setting) = (field.color setting).getD (field.get theme) := by
  rw [themeApply, ThemeField.color]
  cases hcolor : themeColor setting.2 with
  | none =>
      rw [ite_self]
      rfl
  | some color =>
      dsimp only
      rw [get_desktopThemeApplyValue]
      split
      · rfl
      · rfl

/-- The last setting that gives a field a color decides about it. -/
theorem get_foldl_themeApply (field : ThemeField) (settings : List (List UInt8 × List UInt8)) :
    ∀ theme : DesktopTheme, field.get (settings.foldl themeApply theme)
      = ((settings.filterMap field.color).getLast?).getD (field.get theme) := by
  induction settings using List.reverseRecOn with
  | nil => exact fun theme => rfl
  | append_singleton settings setting ih =>
      intro theme
      rw [List.foldl_append, List.foldl_cons, List.foldl_nil, get_themeApply, ih,
        List.filterMap_append]
      cases hcolor : field.color setting with
      | none => rw [List.filterMap_cons_none hcolor, List.filterMap_nil, List.append_nil,
          Option.getD_none]
      | some color => rw [List.filterMap_cons_some hcolor, List.filterMap_nil,
          List.getLast?_append, List.getLast?_singleton, Option.some_or, Option.getD_some,
          Option.getD_some]

/-- The theme that the parser makes of a text is the one that the settings make which it reads. -/
theorem get_desktopThemeParseBuffer {text : List UInt8} (hnul : 0 ∉ text) (junk : List UInt8)
    (field : ThemeField) :
    field.get (desktopThemeParseBuffer (text ++ 0 :: junk) desktopThemeDefaults)
      = field.last (themeReads text) := by
  have hleft : ThemeLeft (text ++ 0 :: junk) 0 text := ⟨junk, rfl⟩
  have hfuel : text.length ≤ (text ++ 0 :: junk).length := by
    rw [List.length_append]
    exact Nat.le_add_right _ _
  rw [desktopThemeParseBuffer, desktopThemeParseLoop_eq hleft hnul hfuel,
    get_foldl_themeApply, ThemeField.last]

/-! ### Texts that are read right -/

/-- The line gives no field a color. -/
def ThemeSilent (line : List UInt8) : Prop :=
  ∀ setting ∈ themeSetting line, ∀ field : ThemeField, field.color setting = none

/-- The first word behind the `=`, up to a `#`, stands for the color that all of it stands for, or the key is that
of no field. -/
def ThemeLineRead (line : List UInt8) : Prop :=
  themeColor (themeWord (themeValue (themeAfter line))) = themeColor (themeTrim (themeAfter line))
    ∨ ∀ field : ThemeField, themeTrim (line.takeWhile (· ≠ themeEquals)) ≠ field.key

/-- Every line with a `=` that no `#` precedes has a value behind it, of which the first word counts, and a blank
behind the value. Without the value only blank lines follow, and without the blank only lines that give no field a
color. -/
def ThemeApplied : List (List UInt8) → Prop
  | [] => True
  | line :: rest =>
      if themeEquals ∈ line.takeWhile (· ≠ themeMark) then
        if (themeAfter line).all desktopThemeIsSpace then ∀ other ∈ rest, other.all desktopThemeIsSpace
        else
          ThemeLineRead line
            ∧ if themeSpaced (themeValue (themeAfter line)) then ThemeApplied rest
              else ∀ other ∈ rest, ThemeSilent other
      else ThemeApplied rest

instance (line : List UInt8) : Decidable (ThemeSilent line) :=
  inferInstanceAs (Decidable (∀ setting ∈ themeSetting line, ∀ field : ThemeField,
    field.color setting = none))

instance (line : List UInt8) : Decidable (ThemeLineRead line) := instDecidableOr

instance decidableThemeApplied : (lines : List (List UInt8)) → Decidable (ThemeApplied lines)
  | [] => .isTrue trivial
  | line :: rest =>
      have := decidableThemeApplied rest
      inferInstanceAs (Decidable (if themeEquals ∈ line.takeWhile (· ≠ themeMark) then
          if (themeAfter line).all desktopThemeIsSpace then ∀ other ∈ rest, other.all desktopThemeIsSpace
          else
            ThemeLineRead line
              ∧ if themeSpaced (themeValue (themeAfter line)) then ThemeApplied rest
                else ∀ other ∈ rest, ThemeSilent other
        else ThemeApplied rest))

theorem mem_dropWhile_space {letter : UInt8} (hletter : desktopThemeIsSpace letter = false)
    {text : List UInt8} (hmem : letter ∈ text) : letter ∈ text.dropWhile desktopThemeIsSpace := by
  rw [← List.takeWhile_append_dropWhile (p := desktopThemeIsSpace) (l := text)] at hmem
  rcases List.mem_append.mp hmem with hblank | hrest
  · rw [List.mem_takeWhile_imp hblank] at hletter
    cases hletter
  · exact hrest

theorem mem_themeTrim {letter : UInt8} (hletter : desktopThemeIsSpace letter = false) {text : List UInt8}
    (hmem : letter ∈ text) : letter ∈ themeTrim text := by
  have hleft := mem_dropWhile_space hletter hmem
  rw [themeTrim, List.rdropWhile, List.mem_reverse]
  exact mem_dropWhile_space hletter (List.mem_reverse.mpr hleft)

theorem themeMark_notMem_key (field : ThemeField) : themeMark ∉ field.key := by
  cases field
  all_goals decide +kernel

/-- Of a `#` and a `=` one comes first. -/
theorem themeMark_mem_key {line : List UInt8} (hequals : themeEquals ∈ line)
    (hmarked : themeEquals ∉ line.takeWhile (· ≠ themeMark)) :
    themeMark ∈ line.takeWhile (· ≠ themeEquals) := by
  induction line with
  | nil => exact absurd hequals List.not_mem_nil
  | cons letter rest ih =>
      by_cases hmark : letter = themeMark
      · rw [hmark, List.takeWhile_cons_of_pos (by decide)]
        exact List.mem_cons_self
      · rw [List.takeWhile_cons_of_pos (by simpa using hmark), List.mem_cons, not_or] at hmarked
        have hother := Ne.symm hmarked.1
        rw [List.takeWhile_cons_of_pos (by simpa using hother)]
        exact List.mem_cons_of_mem _ (ih (List.mem_of_ne_of_mem hmarked.1 hequals) hmarked.2)

/-- A line whose `=` is behind a `#` gives no field a color: its key has the `#` in it. -/
theorem themeSilent_of_mark {line : List UInt8}
    (hmarked : themeEquals ∉ line.takeWhile (· ≠ themeMark)) : ThemeSilent line := by
  intro setting hsetting field
  rw [themeSetting, Option.mem_def] at hsetting
  split at hsetting
  · rename_i hequals
    cases hsetting
    rw [ThemeField.color, if_neg]
    intro hkey
    have hmem := mem_themeTrim (by decide) (themeMark_mem_key hequals hmarked)
    exact themeMark_notMem_key field (hkey ▸ hmem)
  · cases hsetting

theorem themeSilent_of_blank {line : List UInt8} (hblank : line.all desktopThemeIsSpace = true) :
    ThemeSilent line := by
  refine themeSilent_of_mark fun hequals => ?_
  have hspace := List.all_eq_true.mp hblank themeEquals ((List.takeWhile_sublist _).subset hequals)
  exact absurd hspace (by decide)

/-- The colors that a line and those behind it give a field. -/
theorem filterMap_color_of_silent {line : List UInt8} (hsilent : ThemeSilent line)
    (rest : List (List UInt8)) (field : ThemeField) :
    ((line :: rest).filterMap themeSetting).filterMap field.color
      = (rest.filterMap themeSetting).filterMap field.color := by
  cases hsetting : themeSetting line with
  | none => rw [List.filterMap_cons_none hsetting]
  | some setting =>
      rw [List.filterMap_cons_some hsetting, List.filterMap_cons_none (hsilent setting hsetting field)]

theorem filterMap_color_eq_nil {lines : List (List UInt8)} (hsilent : ∀ line ∈ lines, ThemeSilent line)
    (field : ThemeField) : (lines.filterMap themeSetting).filterMap field.color = [] := by
  induction lines with
  | nil => rfl
  | cons line rest ih =>
      rw [filterMap_color_of_silent (hsilent line List.mem_cons_self)]
      exact ih fun other hmem => hsilent other (List.mem_cons_of_mem _ hmem)

theorem themeRead_of_blank {lines : List (List UInt8)}
    (hblank : ∀ line ∈ lines, line.all desktopThemeIsSpace = true) (pending : Option (List UInt8)) :
    themeRead pending lines = [] := by
  induction lines with
  | nil => rw [themeRead]
  | cons line rest ih =>
      rw [themeRead_blank (hblank line List.mem_cons_self)]
      exact ih fun other hmem => hblank other (List.mem_cons_of_mem _ hmem)

theorem ThemeLineRead.color_eq {line : List UInt8} (hread : ThemeLineRead line) (field : ThemeField) :
    field.color (themeTrim (line.takeWhile (· ≠ themeEquals)), themeWord (themeValue (themeAfter line)))
      = field.color (themeTrim (line.takeWhile (· ≠ themeEquals)), themeTrim (themeAfter line)) := by
  rw [ThemeField.color, ThemeField.color]
  rcases hread with hcolor | hkey
  · dsimp only
    rw [hcolor]
  · rw [if_neg (hkey field), if_neg (hkey field)]

theorem themeTrim_of_blank {text : List UInt8} (hblank : text.all desktopThemeIsSpace = true) :
    themeTrim text = [] := by
  rw [themeTrim, List.dropWhile_eq_nil_iff.mpr fun letter hmem => List.all_eq_true.mp hblank letter hmem]
  rfl

/-- What is read gives each field the colors that the lines give it. -/
theorem filterMap_color_themeRead {lines : List (List UInt8)} (happlied : ThemeApplied lines)
    (field : ThemeField) :
    (themeRead none lines).filterMap field.color
      = (lines.filterMap themeSetting).filterMap field.color := by
  induction lines with
  | nil => rfl
  | cons line rest ih =>
      rw [ThemeApplied] at happlied
      rw [themeRead]
      by_cases hsets : themeEquals ∈ line.takeWhile (· ≠ themeMark)
      · have hsetting : themeSetting line
            = some (themeTrim (line.takeWhile (· ≠ themeEquals)), themeTrim (themeAfter line)) :=
          if_pos ((List.takeWhile_sublist _).subset hsets)
        rw [if_pos hsets] at happlied ⊢
        dsimp only
        by_cases hblank : (themeAfter line).all desktopThemeIsSpace = true
        · rw [if_pos hblank] at happlied ⊢
          have hline : ThemeSilent line := by
            intro setting hmem other
            rw [hsetting, Option.mem_def, Option.some.injEq] at hmem
            subst hmem
            rw [ThemeField.color, themeTrim_of_blank hblank]
            exact ite_self none
          rw [themeRead_of_blank happlied, filterMap_color_of_silent hline,
            filterMap_color_eq_nil fun other hmem => themeSilent_of_blank (happlied other hmem)]
          rfl
        · rw [if_neg hblank] at happlied ⊢
          obtain ⟨hread, hrest⟩ := happlied
          have htail : (if themeSpaced (themeValue (themeAfter line)) then themeRead none rest
              else []).filterMap field.color = (rest.filterMap themeSetting).filterMap field.color := by
            split at hrest
            · rename_i hspaced
              rw [if_pos hspaced]
              exact ih hrest
            · rename_i hspaced
              rw [if_neg hspaced, filterMap_color_eq_nil hrest]
              rfl
          rw [List.filterMap_cons_some hsetting, List.filterMap_cons, List.filterMap_cons, htail,
            hread.color_eq]
      · rw [if_neg hsets] at happlied ⊢
        rw [filterMap_color_of_silent (themeSilent_of_mark hsets)]
        exact ih happlied

/-- The parser gives every field the color of the last line that has one for it, or its default, if every setting
is read and no value ends where its line does. -/
theorem desktopThemeParseBuffer_applies (text : List UInt8) (hnul : 0 ∉ text)
    (happlied : ThemeApplied (themeLines text)) (junk : List UInt8) (field : ThemeField) :
    field.get (desktopThemeParseBuffer (text ++ 0 :: junk) desktopThemeDefaults)
      = field.last ((themeLines text).filterMap themeSetting) := by
  rw [get_desktopThemeParseBuffer hnul, ThemeField.last, ThemeField.last, themeReads,
    filterMap_color_themeRead happlied]

/-- `rootfs/etc/theme`. -/
def themeFile : List UInt8 :=
  ascii "background=0xff1f2018\ntaskbar=0xff2b2d22\nwindow_body=0xff343527\n"
    ++ ascii "titlebar_active=0xff8e8456\ntitlebar_inactive=0xff5a5947\n"
    ++ ascii "text=0xffe7dfb5\naccent=0xffb8ab72\n"

theorem themeFile_nul : 0 ∉ themeFile := by decide +kernel

/-- A comment, settings with a blank behind the value, and a last one without. -/
def spacedTheme : List UInt8 :=
  ascii "# background=0xff000000\nbackground = 0xff1f2018 \ntaskbar=2b2d22\t\n\ntaskbar=red and blue \n"
    ++ ascii "title=my theme #1\ntext=0xffe7dfb5\n"

theorem spacedTheme_applied : ThemeApplied (themeLines spacedTheme) := by decide +kernel

theorem desktopThemeParseBuffer_applies_spacedTheme :
    (desktopThemeParseBuffer (spacedTheme ++ 0 :: []) desktopThemeDefaults).taskbar = 0xff2b2d22
      ∧ (desktopThemeParseBuffer (spacedTheme ++ 0 :: []) desktopThemeDefaults).text = 0xffe7dfb5 := by
  have hnul : 0 ∉ spacedTheme := by decide +kernel
  have htaskbar := desktopThemeParseBuffer_applies spacedTheme hnul spacedTheme_applied [] .taskbar
  have htext := desktopThemeParseBuffer_applies spacedTheme hnul spacedTheme_applied [] .text
  exact ⟨htaskbar.trans (by decide +kernel), htext.trans (by decide +kernel)⟩

/-- Of the theme that is shipped, the parser reads the first line. -/
theorem desktopThemeParseBuffer_drops_lines :
    (desktopThemeInit (some themeFile)).taskbar = desktopThemeDefaults.taskbar
      ∧ ¬ ∀ text : List UInt8, 0 ∉ text → text.length ≤ 511 →
        ∀ (junk : List UInt8) (field : ThemeField),
          field.get (desktopThemeParseBuffer (text ++ 0 :: junk) desktopThemeDefaults)
            = field.last ((themeLines text).filterMap themeSetting) := by
  have hruns : (desktopThemeInit (some themeFile)).taskbar = desktopThemeDefaults.taskbar
      ∧ themeFile.length ≤ 511
      ∧ ThemeField.taskbar.get
          (desktopThemeParseBuffer (themeFile ++ 0 :: []) desktopThemeDefaults) = 0xff20313c
      ∧ ThemeField.taskbar.last ((themeLines themeFile).filterMap themeSetting)
        = 0xff2b2d22 := by
    decide +kernel
  obtain ⟨hdefault, hlength, hread, hlines⟩ := hruns
  refine ⟨hdefault, fun hall => ?_⟩
  have htaskbar := hall themeFile themeFile_nul hlength [] .taskbar
  rw [hread, hlines] at htaskbar
  exact absurd htaskbar (by decide)

end DuckOs

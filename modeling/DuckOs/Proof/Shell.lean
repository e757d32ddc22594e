import DuckOs.Kernel.Shell
import DuckOs.Lib.Numeral
import DuckOs.Lib.Path

/-!
# Arguments as they are typed

Tokens are shortened to the buffers of the commands, and numbers are reduced to the width of their types. A
command calls for what was typed just when neither happens to the tokens that it accepts.
-/

namespace DuckOs

open Numeral Path

/-- The pieces of an argument between spaces. -/
def shellTokens (args : List UInt8) : List (List UInt8) := segments shellSpace args

/-- The decimal value of a token. -/
def shellNumber (token : List UInt8) : Option Nat := value asciiDigit 10 token

/-! ### Tokens -/

section Tokens

variable {text token : List UInt8} {rest : List (List UInt8)} {bufferSize : Nat}

theorem shellTokenLoop_eq (bufferSize : Nat) : ∀ (text : List UInt8) (length : Nat) (buffer : List UInt8),
    shellTokenLoop bufferSize text length buffer
      = (buffer ++ (text.takeWhile (· ≠ shellSpace)).take (bufferSize - 1 - length),
        text.drop (text.takeWhile (· ≠ shellSpace)).length) := by
  intro text
  induction text with
  | nil =>
      intro length buffer
      rw [shellTokenLoop, List.takeWhile_nil, List.take_nil, List.append_nil, List.drop_nil]
  | cons letter others ih =>
      intro length buffer
      rw [shellTokenLoop]
      split
      · rename_i hspace
        rw [List.takeWhile_cons_of_neg (by simp [hspace]), List.take_nil, List.append_nil]
        rfl
      · rename_i hspace
        rw [ih, List.takeWhile_cons_of_pos (by simpa using hspace), List.length_cons, List.drop_succ_cons]
        split
        · have hroom : bufferSize - 1 - length = bufferSize - 1 - (length + 1) + 1 := by omega
          rw [hroom, List.take_succ_cons, List.append_assoc, List.singleton_append]
        · have hnone : bufferSize - 1 - length = 0 := by omega
          have hstill : bufferSize - 1 - (length + 1) = 0 := by omega
          rw [hnone, hstill, List.take_zero, List.take_zero]

theorem shellSkipSpaces_eq_nil_iff : shellSkipSpaces text = [] ↔ shellTokens text = [] := by
  rw [shellTokens, ← segments_dropWhile, ← shellSkipSpaces]
  constructor
  · intro hnil
    rw [hnil, segments_nil]
  · intro hsegments
    cases htext : shellSkipSpaces text with
    | nil => rfl
    | cons head others =>
        have hhead : head ≠ shellSpace := by
          have hfirst := List.head?_dropWhile_not (· = shellSpace) text
          rw [← shellSkipSpaces, htext] at hfirst
          simpa using hfirst
        rw [htext, (segments_takeWhile hhead).2] at hsegments
        cases hsegments

theorem shellReadToken_nil (htext : shellTokens text = []) :
    shellReadToken text bufferSize = ([], []) := by
  rw [shellReadToken, shellSkipSpaces_eq_nil_iff.mpr htext, shellTokenLoop]

/-- What fits of the first token, and the text behind the whole token. -/
theorem shellReadToken_cons (htext : shellTokens text = token :: rest) :
    (shellReadToken text bufferSize).1 = token.take (bufferSize - 1)
      ∧ shellTokens (shellReadToken text bufferSize).2 = rest := by
  rw [shellReadToken, shellTokenLoop_eq, List.nil_append, Nat.sub_zero]
  rw [shellTokens, ← segments_dropWhile, ← shellSkipSpaces] at htext
  cases hskip : shellSkipSpaces text with
  | nil =>
      rw [hskip, segments_nil] at htext
      cases htext
  | cons head others =>
      have hhead : head ≠ shellSpace := by
        have hfirst := List.head?_dropWhile_not (· = shellSpace) text
        rw [← shellSkipSpaces, hskip] at hfirst
        simpa using hfirst
      rw [hskip, (segments_takeWhile hhead).2, List.cons.injEq] at htext
      obtain ⟨rfl, hrest⟩ := htext
      exact ⟨rfl, hrest⟩

theorem token_ne_nil (htext : shellTokens text = token :: rest) : token ≠ [] := by
  have hmem : token ∈ segments shellSpace text := by
    rw [← shellTokens, htext]
    exact List.mem_cons_self
  exact (segment_of_mem hmem).1

theorem take_token_ne_nil (htext : shellTokens text = token :: rest) (hsize : 0 < bufferSize) :
    token.take bufferSize ≠ [] := by
  rw [Ne, List.take_eq_nil_iff, not_or]
  exact ⟨Nat.ne_of_gt hsize, token_ne_nil htext⟩

end Tokens

/-! ### Numbers -/

section Numbers

theorem push_asciiDigit (total : Nat) (letter : UInt8) :
    push asciiDigit 10 total letter
      = if letter < 0x30 ∨ 0x39 < letter then none else some (total * 10 + (letter.toNat - 0x30)) := by
  simp only [push, asciiDigit, UInt8.le_iff_toNat_le, UInt8.lt_iff_toNat_lt, UInt8.reduceToNat]
  by_cases hdigit : 0x30 ≤ letter.toNat ∧ letter.toNat ≤ 0x39
  · rw [if_pos hdigit, if_neg (by omega)]
    dsimp only
    rw [if_pos (by omega)]
  · have hother : letter.toNat < 0x30 ∨ 0x39 < letter.toNat := by omega
    rw [if_neg hdigit]
    split
    · rename_i hnone
      exact (if_pos hother).symm
    · rename_i place hplace
      split at hplace
      · obtain rfl := Option.some.inj hplace
        rw [if_neg (by omega), if_pos hother]
      · cases hplace

theorem shellParseLoop_eq : ∀ (text : List UInt8) (total : Nat),
    shellParseLoop text (total % 2 ^ 64)
      = (text.foldlM (push asciiDigit 10) total).map (· % 2 ^ 64) := by
  intro text
  induction text with
  | nil => exact fun _ => rfl
  | cons letter rest ih =>
      intro total
      rw [shellParseLoop, List.foldlM_cons, push_asciiDigit]
      split
      · rfl
      · rw [Option.bind_eq_bind, Option.bind_some, ← ih]
        congr 1
        omega

/-- A number is parsed modulo the size of a word. -/
theorem shellParseUnsignedLong_eq (text : List UInt8) :
    shellParseUnsignedLong text = (shellNumber text).map (· % 2 ^ 64) := by
  rw [shellParseUnsignedLong, shellNumber, value]
  split
  · rfl
  · exact shellParseLoop_eq text 0

/-- What fits a buffer of 16 bytes is not reduced. -/
theorem shellParseUnsignedLong_take (token : List UInt8) :
    shellParseUnsignedLong (token.take 15) = shellNumber (token.take 15) := by
  rw [shellParseUnsignedLong_eq]
  cases hnumber : shellNumber (token.take 15) with
  | none => rfl
  | some number =>
      have hbound : number < 10 ^ (token.take 15).length := lt_pow_of_value (by decide) hnumber
      have hlength : (token.take 15).length ≤ 15 := List.length_take_le 15 token
      have hpower : 10 ^ (token.take 15).length ≤ 10 ^ 15 := Nat.pow_le_pow_right (by decide) hlength
      rw [Option.map_some, Nat.mod_eq_of_lt (by omega)]

end Numbers

/-! ### Calls -/

section Calls

variable {env : ShellEnv} {args : List UInt8}

/-- The call is for the tokens: names and numbers are those of whole tokens, which fit their buffers. -/
def ShellCall.Typed (tokens : List (List UInt8)) : ShellCall → Prop
  | .logfsAppend name _ => tokens.head? = some name
  | .readBlocks device startBlock =>
      ∃ name block rest, tokens = name :: block :: rest ∧ device.name = name
        ∧ block.length < 16 ∧ shellNumber block = some startBlock
  | .gfxCursorMove x y =>
      ∃ xText yText rest, tokens = xText :: yText :: rest
        ∧ (xText.length < 16 ∧ shellNumber xText = some x)
        ∧ yText.length < 16 ∧ shellNumber yText = some y
  | .appFileBrowserOpen selectedIndex =>
      (tokens = [] ∧ selectedIndex = 0)
        ∨ ∃ token, tokens = [token] ∧ shellNumber token = some selectedIndex

/-- The command calls for nothing but what was typed. -/
def ShellTyped (env : ShellEnv) (args : List UInt8) (command : ShellCommand) : Prop :=
  ∀ call, (shellRun env args command).call = some call → call.Typed (shellTokens args)

/-- What is accepted of the tokens is all of them, and it fits an `unsigned int` where it is cast to one. -/
def ShellFits (env : ShellEnv) (args : List UInt8) : ShellCommand → Prop
  | .logappend => ∀ name text rest, shellTokens args = name :: text :: rest → name.length < 32
  | .blkread => ∀ name block rest, shellTokens args = name :: block :: rest →
      ∀ device, blockFindDevice env.blockDevices (name.take 15) = some device →
        device.device.blockSize ≤ 512 → ∀ number, shellNumber (block.take 15) = some number →
          name.length < 16 ∧ block.length < 16
  | .cursor => ∀ xText yText rest, shellTokens args = xText :: yText :: rest →
      env.graphics = true → ∀ x y, shellNumber (xText.take 15) = some x →
        shellNumber (yText.take 15) = some y →
          (xText.length < 16 ∧ x < 2 ^ 32) ∧ yText.length < 16 ∧ y < 2 ^ 32
  | .guiFiles => ∀ number, shellNumber args = some number → env.graphics = true → number < 2 ^ 32

/-- A command with fewer than two tokens prints how it is used. -/
theorem shellReadToken_second (hfew : ∀ first second rest, shellTokens args ≠ first :: second :: rest)
    (firstSize secondSize : Nat) :
    (shellReadToken args firstSize).1 = []
      ∨ shellSkipSpaces (shellReadToken args firstSize).2 = []
        ∧ (shellReadToken (shellReadToken args firstSize).2 secondSize).1 = [] := by
  cases htokens : shellTokens args with
  | nil => exact Or.inl (by rw [shellReadToken_nil htokens])
  | cons first others =>
      have hothers := (@shellReadToken_cons _ _ _ firstSize htokens).2
      cases others with
      | nil =>
          refine Or.inr ⟨shellSkipSpaces_eq_nil_iff.mpr hothers, ?_⟩
          rw [shellReadToken_nil hothers]
      | cons second rest => exact absurd htokens (hfew first second rest)

theorem shellLogAppend_call {name second : List UInt8} {rest : List (List UInt8)}
    (htokens : shellTokens args = name :: second :: rest) :
    ∃ text, (shellLogAppend args).call = some (.logfsAppend (name.take 31) text) := by
  obtain ⟨hname, hbehind⟩ := @shellReadToken_cons _ _ _ logfsNameMax htokens
  rw [shellLogAppend, if_neg, hname]
  · exact ⟨_, rfl⟩
  · rw [not_or, hname, shellSkipSpaces_eq_nil_iff, hbehind]
    exact ⟨take_token_ne_nil htokens (by decide), List.cons_ne_nil _ _⟩

theorem shellBlockRead_call {name block : List UInt8} {rest : List (List UInt8)}
    (htokens : shellTokens args = name :: block :: rest) :
    (shellBlockRead env args).call
      = (blockFindDevice env.blockDevices (name.take 15)).bind fun device =>
          (shellNumber (block.take 15)).bind fun number =>
            if device.device.blockSize ≤ 512 then some (.readBlocks device number) else none := by
  obtain ⟨hname, hbehind⟩ := @shellReadToken_cons _ _ _ 16 htokens
  obtain ⟨hblock, -⟩ := @shellReadToken_cons _ _ _ 16 hbehind
  have hnameNe := @take_token_ne_nil _ _ _ 15 htokens (by decide)
  have hblockNe := @take_token_ne_nil _ _ _ 15 hbehind (by decide)
  rw [shellBlockRead, hname, hblock, if_neg (not_or.mpr ⟨hnameNe, hblockNe⟩),
    shellParseUnsignedLong_take]
  cases blockFindDevice env.blockDevices (name.take 15) with
  | none => rfl
  | some device =>
      cases shellNumber (block.take 15) with
      | none => rfl
      | some number =>
          rw [Option.bind_some, Option.bind_some]
          dsimp only
          by_cases hsize : device.device.blockSize ≤ 512
          · rw [if_pos hsize, if_neg (by rw [shellBlockDumpBytes]; omega)]
          · rw [if_neg hsize, if_pos (by rw [shellBlockDumpBytes]; omega)]
            rfl

theorem shellMoveCursor_call {xText yText : List UInt8} {rest : List (List UInt8)}
    (htokens : shellTokens args = xText :: yText :: rest) :
    (shellMoveCursor env args).call
      = (shellNumber (xText.take 15)).bind fun x => (shellNumber (yText.take 15)).bind fun y =>
          if env.graphics then some (.gfxCursorMove (x % 2 ^ 32) (y % 2 ^ 32)) else none := by
  obtain ⟨hx, hbehind⟩ := @shellReadToken_cons _ _ _ 16 htokens
  obtain ⟨hy, -⟩ := @shellReadToken_cons _ _ _ 16 hbehind
  have hxNe := @take_token_ne_nil _ _ _ 15 htokens (by decide)
  have hyNe := @take_token_ne_nil _ _ _ 15 hbehind (by decide)
  rw [shellMoveCursor, hx, hy, if_neg (not_or.mpr ⟨hxNe, hyNe⟩), shellParseUnsignedLong_take,
    shellParseUnsignedLong_take]
  cases shellNumber (xText.take 15) with
  | none => rfl
  | some x =>
      cases shellNumber (yText.take 15) with
      | none => rfl
      | some y =>
          rw [Option.bind_some, Option.bind_some]
          dsimp only
          cases env.graphics with
          | false => rfl
          | true => rfl

theorem shellRunGuiFiles_call :
    (shellRunGuiFiles env args).call
      = (if args = [] then some 0 else shellNumber args).bind fun index =>
          if env.graphics then some (.appFileBrowserOpen (index % 2 ^ 32)) else none := by
  have hnumber : (if args = [] then some 0 else shellParseUnsignedLong args)
      = (if args = [] then some 0 else shellNumber args).map (· % 2 ^ 64) := by
    split
    · rfl
    · exact shellParseUnsignedLong_eq args
  rw [shellRunGuiFiles, hnumber]
  cases (if args = [] then some 0 else shellNumber args) with
  | none => rfl
  | some index =>
      rw [Option.map_some, Option.bind_some]
      dsimp only
      rw [show index % 2 ^ 64 % 2 ^ 32 = index % 2 ^ 32 by omega]
      cases env.graphics with
      | false => rfl
      | true => rfl

theorem shellRun_call_of_few {command : ShellCommand} (hcommand : command ≠ .guiFiles)
    (hfew : ∀ first second rest, shellTokens args ≠ first :: second :: rest) :
    (shellRun env args command).call = none := by
  cases command with
  | logappend =>
      have husage : (shellReadToken args logfsNameMax).1 = []
          ∨ shellSkipSpaces (shellReadToken args logfsNameMax).2 = [] :=
        (shellReadToken_second hfew logfsNameMax 0).imp_right And.left
      rw [shellRun, shellLogAppend, if_pos husage]
      rfl
  | blkread =>
      rw [shellRun, shellBlockRead, if_pos ((shellReadToken_second hfew 16 16).imp_right And.right)]
      rfl
  | cursor =>
      rw [shellRun, shellMoveCursor, if_pos ((shellReadToken_second hfew 16 16).imp_right And.right)]
      rfl
  | guiFiles => exact absurd rfl hcommand

/-- Where two tokens are needed and there are fewer, nothing is called for and nothing has to fit. -/
theorem shellTyped_iff_of_few {command : ShellCommand} (hcommand : command ≠ .guiFiles)
    (hfew : ∀ first second rest, shellTokens args ≠ first :: second :: rest) :
    ShellTyped env args command ↔ ShellFits env args command := by
  have hnone := @shellRun_call_of_few env args command hcommand hfew
  refine iff_of_true (fun call hcall => ?_) ?_
  · rw [hnone] at hcall
    cases hcall
  · cases command with
    | logappend => exact fun first second rest htokens => absurd htokens (hfew first second rest)
    | blkread => exact fun first second rest htokens => absurd htokens (hfew first second rest)
    | cursor => exact fun first second rest htokens => absurd htokens (hfew first second rest)
    | guiFiles => exact absurd rfl hcommand

theorem shellTokens_cases (args : List UInt8) :
    (∃ first second rest, shellTokens args = first :: second :: rest)
      ∨ ∀ first second rest, shellTokens args ≠ first :: second :: rest := by
  by_cases htwo : ∃ first second rest, shellTokens args = first :: second :: rest
  · exact Or.inl htwo
  · exact Or.inr fun first second rest htokens => htwo ⟨first, second, rest, htokens⟩

theorem shellTyped_logappend_iff :
    ShellTyped env args .logappend ↔ ShellFits env args .logappend := by
  rcases shellTokens_cases args with ⟨name, second, rest, htokens⟩ | hfew
  · obtain ⟨text, hcall⟩ := shellLogAppend_call htokens
    have hwhole : name.take 31 = name ↔ name.length < 32 := by
      rw [List.take_eq_self_iff]
      omega
    constructor
    · intro htyped other otherSecond otherRest hother
      obtain ⟨rfl, -⟩ := List.cons.inj (htokens.symm.trans hother)
      have hname := htyped _ hcall
      rw [ShellCall.Typed, htokens, List.head?_cons, Option.some.injEq] at hname
      exact hwhole.mp hname.symm
    · intro hfits call hother
      obtain rfl := Option.some.inj (hcall.symm.trans hother)
      rw [ShellCall.Typed, htokens, List.head?_cons, hwhole.mpr (hfits _ _ _ htokens)]
  · exact shellTyped_iff_of_few nofun hfew

theorem shellTyped_blkread_iff : ShellTyped env args .blkread ↔ ShellFits env args .blkread := by
  rcases shellTokens_cases args with ⟨name, block, rest, htokens⟩ | hfew
  · have hcall := @shellBlockRead_call env _ _ _ _ htokens
    constructor
    · intro htyped other otherBlock otherRest hother device hdevice hsize number hnumber
      obtain ⟨rfl, hothers⟩ := List.cons.inj (htokens.symm.trans hother)
      obtain ⟨rfl, -⟩ := List.cons.inj hothers
      rw [hdevice, hnumber, Option.bind_some, Option.bind_some, if_pos hsize] at hcall
      obtain ⟨typedName, typedBlock, typedRest, htyped, hname, hblock, -⟩ := htyped _ hcall
      obtain ⟨rfl, htypedRest⟩ := List.cons.inj (htokens.symm.trans htyped)
      obtain ⟨rfl, -⟩ := List.cons.inj htypedRest
      have hfound : device.name = name.take 15 := by simpa using List.find?_some hdevice
      have hshort : name.length ≤ 15 := (List.take_eq_self_iff _).mp (hfound.symm.trans hname)
      exact ⟨by omega, hblock⟩
    · intro hfits call hother
      replace hother : (shellBlockRead env args).call = some call := hother
      rw [hcall] at hother
      obtain ⟨device, hdevice, hother⟩ := Option.bind_eq_some_iff.mp hother
      obtain ⟨number, hnumber, hother⟩ := Option.bind_eq_some_iff.mp hother
      split at hother
      · rename_i hsize
        obtain rfl := Option.some.inj hother
        obtain ⟨hname, hblock⟩ := hfits _ _ _ htokens device hdevice hsize number hnumber
        rw [List.take_of_length_le (by omega)] at hdevice hnumber
        exact ⟨name, block, rest, htokens, by simpa using List.find?_some hdevice, hblock, hnumber⟩
      · cases hother
  · exact shellTyped_iff_of_few nofun hfew

theorem shellTyped_cursor_iff : ShellTyped env args .cursor ↔ ShellFits env args .cursor := by
  rcases shellTokens_cases args with ⟨xText, yText, rest, htokens⟩ | hfew
  · have hcall := @shellMoveCursor_call env _ _ _ _ htokens
    constructor
    · intro htyped other otherText otherRest hother hgraphics x y hx hy
      obtain ⟨rfl, hothers⟩ := List.cons.inj (htokens.symm.trans hother)
      obtain ⟨rfl, -⟩ := List.cons.inj hothers
      rw [hx, hy, Option.bind_some, Option.bind_some, if_pos hgraphics] at hcall
      obtain ⟨typedX, typedY, typedRest, htyped, ⟨hxLength, hxTyped⟩, hyLength, hyTyped⟩ :=
        htyped _ hcall
      obtain ⟨rfl, htypedRest⟩ := List.cons.inj (htokens.symm.trans htyped)
      obtain ⟨rfl, -⟩ := List.cons.inj htypedRest
      rw [List.take_of_length_le (by omega), hxTyped, Option.some.injEq] at hx
      rw [List.take_of_length_le (by omega), hyTyped, Option.some.injEq] at hy
      exact ⟨⟨hxLength, by omega⟩, hyLength, by omega⟩
    · intro hfits call hother
      replace hother : (shellMoveCursor env args).call = some call := hother
      rw [hcall] at hother
      obtain ⟨x, hx, hother⟩ := Option.bind_eq_some_iff.mp hother
      obtain ⟨y, hy, hother⟩ := Option.bind_eq_some_iff.mp hother
      split at hother
      · rename_i hgraphics
        obtain rfl := Option.some.inj hother
        obtain ⟨⟨hxLength, hxBound⟩, hyLength, hyBound⟩ := hfits _ _ _ htokens hgraphics x y hx hy
        rw [List.take_of_length_le (by omega)] at hx hy
        rw [Nat.mod_eq_of_lt hxBound, Nat.mod_eq_of_lt hyBound]
        exact ⟨xText, yText, rest, htokens, ⟨hxLength, hx⟩, hyLength, hy⟩
      · cases hother
  · exact shellTyped_iff_of_few nofun hfew

/-- A numeral is a single token. -/
theorem shellTokens_of_number {token : List UInt8} {number : Nat}
    (hnumber : shellNumber token = some number) : shellTokens token = [token] := by
  obtain ⟨hne, places, hplaces, -⟩ := value_eq_some_iff.mp hnumber
  refine segments_of_segment ⟨hne, fun hspace => ?_⟩
  have hmem := @List.mem_map_of_mem _ _ _ _ asciiDigit hspace
  rw [hplaces] at hmem
  obtain ⟨place, -, hplace⟩ := List.mem_map.mp hmem
  cases hplace

theorem shellTyped_guiFiles_iff : ShellTyped env args .guiFiles ↔ ShellFits env args .guiFiles := by
  have hcall := @shellRunGuiFiles_call env args
  constructor
  · intro htyped number hnumber hgraphics
    have htokens := shellTokens_of_number hnumber
    have hne : args ≠ [] := (value_eq_some_iff.mp hnumber).1
    rw [if_neg hne, hnumber, Option.bind_some, if_pos hgraphics] at hcall
    rcases htyped _ hcall with ⟨hnone, -⟩ | ⟨token, htoken, hindex⟩
    · rw [htokens] at hnone
      cases hnone
    · obtain ⟨rfl, -⟩ := List.cons.inj (htokens.symm.trans htoken)
      rw [hnumber, Option.some.injEq] at hindex
      omega
  · intro hfits call hother
    replace hother : (shellRunGuiFiles env args).call = some call := hother
    rw [hcall] at hother
    obtain ⟨index, hindex, hother⟩ := Option.bind_eq_some_iff.mp hother
    split at hother
    · rename_i hgraphics
      obtain rfl := Option.some.inj hother
      split at hindex
      · rename_i hempty
        obtain rfl := Option.some.inj hindex
        exact Or.inl ⟨by rw [hempty]; exact segments_nil, rfl⟩
      · rw [Nat.mod_eq_of_lt (hfits index hindex hgraphics)]
        exact Or.inr ⟨args, shellTokens_of_number hindex, hindex⟩
    · cases hother

end Calls

/-- A command acts on what was typed if and only if nothing that it accepts is shortened or reduced. -/
theorem shell_typed_iff (env : ShellEnv) (args : List UInt8) (command : ShellCommand) :
    ShellTyped env args command ↔ ShellFits env args command := by
  cases command with
  | logappend => exact shellTyped_logappend_iff
  | blkread => exact shellTyped_blkread_iff
  | cursor => exact shellTyped_cursor_iff
  | guiFiles => exact shellTyped_guiFiles_iff

/-- Text for a file whose name has 32 bytes goes to the file whose name has the first 31 of them. -/
theorem shell_logappend_shortened :
    (shellRun ⟨[], true⟩ (List.replicate 32 0x61 ++ [0x20, 0x78]) .logappend).call
        = some (.logfsAppend (List.replicate 31 0x61) [0x78])
      ∧ ¬ ShellTyped ⟨[], true⟩ (List.replicate 32 0x61 ++ [0x20, 0x78]) .logappend := by
  have hcall : (shellRun ⟨[], true⟩ (List.replicate 32 0x61 ++ [0x20, 0x78]) .logappend).call
      = some (.logfsAppend (List.replicate 31 0x61) [0x78]) := by rfl
  refine ⟨hcall, fun htyped => ?_⟩
  have hname := htyped _ hcall
  revert hname
  rw [ShellCall.Typed]
  decide +kernel

end DuckOs

import DuckOs.Kernel.ShellCommands
import DuckOs.Lib.FirstMatch

/-!
# Command lines

No test of a command line hides another one: a line is read in at most one way, whatever the order of the tests.
-/

namespace DuckOs

/-- The line is the command, with its arguments behind some blanks. -/
def ShellTest.Reads (test : ShellTest) (line args : List UInt8) : Prop :=
  if test.hasArgs then
    ∃ blanks, line = ascii test.command ++ List.replicate blanks shellSpace ++ args
      ∧ args.head? ≠ some shellSpace ∧ (blanks = 0 → args = [])
  else line = ascii test.command ∧ args = []

/-! ### Reading a line -/

section Read

variable {line text args : List UInt8}

theorem shellStartsWith_iff : ∀ {text start : List UInt8}, shellStartsWith text start = true ↔ start <+: text := by
  intro text start
  induction start generalizing text with
  | nil =>
      rw [shellStartsWith]
      exact iff_of_true rfl List.nil_prefix
  | cons first start ih =>
      cases text with
      | nil =>
          rw [shellStartsWith]
          exact iff_of_false Bool.false_ne_true fun hstart => List.cons_ne_nil _ _ (List.prefix_nil.mp hstart)
      | cons letter text =>
          rw [shellStartsWith, decide_eq_true_eq, ih, List.cons_prefix_cons, eq_comm (a := letter)]

theorem shellSkipSpaces_append (blanks : Nat) (args : List UInt8) :
    shellSkipSpaces (List.replicate blanks shellSpace ++ args) = shellSkipSpaces args := by
  rw [shellSkipSpaces, shellSkipSpaces]
  apply List.dropWhile_append_of_pos
  intro letter hletter
  rw [List.eq_of_mem_replicate hletter]
  exact decide_eq_true rfl

theorem shellSkipSpaces_of_head (hhead : args.head? ≠ some shellSpace) : shellSkipSpaces args = args := by
  cases args with
  | nil => rfl
  | cons letter rest =>
      rw [shellSkipSpaces, List.dropWhile_cons_of_neg]
      rw [decide_eq_true_eq]
      rintro rfl
      exact hhead rfl

theorem head?_shellSkipSpaces (text : List UInt8) : (shellSkipSpaces text).head? ≠ some shellSpace := by
  intro hhead
  have hfirst := List.head?_dropWhile_not (· = shellSpace) text
  rw [← shellSkipSpaces, hhead] at hfirst
  exact absurd hfirst (by decide)

/-- Text is blanks, and what is behind them. -/
theorem exists_blanks (text : List UInt8) :
    ∃ blanks, text = List.replicate blanks shellSpace ++ shellSkipSpaces text := by
  refine ⟨(text.takeWhile (· = shellSpace)).length, ?_⟩
  have hblank : text.takeWhile (· = shellSpace)
      = List.replicate (text.takeWhile (· = shellSpace)).length shellSpace := by
    apply List.eq_replicate_of_mem
    intro letter hletter
    have hsame := List.mem_takeWhile_imp hletter
    exact of_decide_eq_true hsame
  rw [← hblank, shellSkipSpaces, List.takeWhile_append_dropWhile]

theorem ShellTest.matches_iff (test : ShellTest) :
    test.matches line = true ∧ test.args line = args ↔ test.Reads line args := by
  unfold ShellTest.matches ShellTest.args ShellTest.Reads
  by_cases hargs : test.hasArgs = true
  · rw [if_pos hargs, if_pos hargs, if_pos hargs]
    generalize ascii test.command = command
    unfold shellCommandMatches
    rw [decide_eq_true_eq, shellStartsWith_iff]
    constructor
    · rintro ⟨⟨⟨rest, rfl⟩, hend⟩, rfl⟩
      rw [List.drop_left] at hend ⊢
      obtain ⟨blanks, hblanks⟩ := exists_blanks rest
      refine ⟨blanks, by rw [List.append_assoc, ← hblanks], head?_shellSkipSpaces rest, ?_⟩
      rintro rfl
      rw [List.replicate_zero, List.nil_append] at hblanks
      rcases hend with hnil | hspace
      · rw [← hblanks]
        exact List.head?_eq_none_iff.mp hnil
      · rw [hblanks] at hspace
        exact absurd hspace (head?_shellSkipSpaces rest)
    · rintro ⟨blanks, rfl, hhead, hnone⟩
      rw [List.append_assoc, List.drop_left]
      refine ⟨⟨List.prefix_append _ _, ?_⟩, ?_⟩
      · cases blanks with
        | zero =>
            rw [hnone rfl]
            exact Or.inl rfl
        | succ blanks => exact Or.inr rfl
      · rw [shellSkipSpaces_append, shellSkipSpaces_of_head hhead]
  · rw [if_neg hargs, if_neg hargs, if_neg hargs, decide_eq_true_eq, eq_comm (a := ([] : List UInt8))]

end Read

/-! ### The tests -/

/-- A line that is read starts with the command and a blank, when there is a blank behind the line. -/
theorem ShellTest.Reads.start {test : ShellTest} {line args : List UInt8} (hreads : test.Reads line args) :
    ascii test.command ++ [shellSpace] <+: line ++ [shellSpace] := by
  unfold ShellTest.Reads at hreads
  split at hreads
  · obtain ⟨blanks, rfl, -, hnone⟩ := hreads
    cases blanks with
    | zero =>
        rw [hnone rfl, List.replicate_zero, List.append_nil, List.append_nil]
    | succ blanks =>
        rw [List.replicate_succ]
        refine ⟨List.replicate blanks shellSpace ++ args ++ [shellSpace], ?_⟩
        simp only [List.append_assoc, List.cons_append, List.nil_append]
  · rw [hreads.1]

/-- No command starts another one up to a blank. -/
theorem shellTests_apart : ∀ first ∈ shellTests, ∀ second ∈ shellTests,
    ascii first.command ++ [shellSpace] <+: ascii second.command ++ [shellSpace] → first = second := by
  decide +kernel

theorem shellTests_exclusive (line : List UInt8) :
    FirstMatch.Exclusive shellTests (·.matches line) := by
  intro first hfirst second hsecond hmatches hother
  have hstart := (first.matches_iff.mp ⟨hmatches, rfl⟩).start
  have hsecondStart := (second.matches_iff.mp ⟨hother, rfl⟩).start
  rcases List.prefix_or_prefix_of_prefix hstart hsecondStart with hprefix | hprefix
  · exact shellTests_apart first hfirst second hsecond hprefix
  · exact (shellTests_apart second hsecond first hfirst hprefix).symm

theorem ascii_command_ne_nil : ∀ test ∈ shellTests, ascii test.command ≠ [] := by
  decide +kernel

/-- The empty line is no command. -/
theorem ShellTest.Reads.line_ne_nil {test : ShellTest} (htest : test ∈ shellTests) {line args : List UInt8}
    (hreads : test.Reads line args) : line ≠ [] := by
  rintro rfl
  have hlength := hreads.start.length_le
  have hpos := List.length_pos_iff.mpr (ascii_command_ne_nil test htest)
  rw [List.length_append] at hlength
  simp only [List.nil_append, List.length_singleton] at hlength
  omega

/-- A line runs a function exactly when one of the commands is read in it, and it is unknown exactly when none is.
The order of the tests does not matter. -/
theorem shell_line_is_read (tests : List ShellTest) (hperm : tests.Perm shellTests) (line : List UInt8) :
    (line ≠ [] → shellRunTests tests line = shellRunCommand line)
      ∧ (∀ function args, shellRunCommand line = .call function args
        ↔ ∃ test ∈ shellTests, test.function = function ∧ test.Reads line args)
      ∧ (shellRunCommand line = .unknown line
        ↔ line ≠ [] ∧ ∀ test ∈ shellTests, ∀ args, ¬ test.Reads line args) := by
  have hexclusive := shellTests_exclusive line
  unfold shellRunCommand
  refine ⟨?_, ?_, ?_⟩
  · intro hline
    rw [if_neg hline, shellRunTests, shellRunTests, FirstMatch.find?_perm hexclusive hperm]
  · intro function args
    by_cases hline : line = []
    · rw [if_pos hline]
      refine iff_of_false (by simp) ?_
      rintro ⟨test, htest, -, hreads⟩
      exact hreads.line_ne_nil htest hline
    rw [if_neg hline, shellRunTests]
    constructor
    · intro hcall
      cases hfound : shellTests.find? (·.matches line) with
      | none =>
          rw [hfound] at hcall
          cases hcall
      | some test =>
          rw [hfound, ShellAction.call.injEq] at hcall
          obtain ⟨hmem, hmatches⟩ := (FirstMatch.find?_eq_some_iff hexclusive test).mp hfound
          exact ⟨test, hmem, hcall.1, test.matches_iff.mp ⟨hmatches, hcall.2⟩⟩
    · rintro ⟨test, hmem, rfl, hreads⟩
      obtain ⟨hmatches, rfl⟩ := test.matches_iff.mpr hreads
      rw [(FirstMatch.find?_eq_some_iff hexclusive test).mpr ⟨hmem, hmatches⟩]
  · by_cases hline : line = []
    · rw [if_pos hline]
      exact iff_of_false (by simp) fun hread => hread.1 hline
    rw [if_neg hline, shellRunTests]
    constructor
    · intro hunknown
      refine ⟨hline, ?_⟩
      intro test htest args hreads
      obtain ⟨hmatches, -⟩ := test.matches_iff.mpr hreads
      rw [(FirstMatch.find?_eq_some_iff hexclusive test).mpr ⟨htest, hmatches⟩] at hunknown
      cases hunknown
    · rintro ⟨-, hnone⟩
      have hfound : shellTests.find? (·.matches line) = none := by
        rw [List.find?_eq_none]
        intro test htest hmatches
        exact hnone test htest _ (test.matches_iff.mp ⟨hmatches, rfl⟩)
      rw [hfound]

/-- The tests from the last one to the first, and two blanks before the argument. -/
theorem shell_line_is_read_backward :
    shellRunTests shellTests.reverse (ascii "cat  notes") = shellRunCommand (ascii "cat  notes")
      ∧ shellRunCommand (ascii "cat  notes") = .call .catFile (ascii "notes") :=
  ⟨(shell_line_is_read shellTests.reverse (List.reverse_perm _) _).1 (by decide),
    ((shell_line_is_read shellTests.reverse (List.reverse_perm _) _).2.1 _ _).mpr
      ⟨⟨"cat", true, .catFile⟩, by decide, rfl, 2, by decide, by decide, by decide⟩⟩

end DuckOs

import DuckOs.Lib.Numeral
import Mathlib.Data.List.TakeWhile

/-!
# Hex dumps

Every line begins with the offset of its first byte and a colon; then come the bytes, each as a blank and two
digits. What stands behind them is for the eye.
-/

namespace Hexdump

open Numeral

/-- The symbols of a dump. The three that are no digits tell the parts of a line apart. -/
structure Marks (α : Type) where
  digit : α → Option Nat
  colon : α
  blank : α
  newline : α
  digit_colon : digit colon = none
  digit_blank : digit blank = none
  digit_newline : digit newline = none
  newline_ne_colon : newline ≠ colon
  newline_ne_blank : newline ≠ blank

section Read

variable {α : Type} [DecidableEq α] (marks : Marks α)

/-- The bytes up to the first group that is not a blank and two digits. -/
def readGroups : List α → List UInt8
  | first :: high :: low :: rest =>
      if first = marks.blank then
        match value marks.digit 16 [high, low] with
        | some byte => UInt8.ofNat byte :: readGroups rest
        | none => []
      else []
  | _ => []

/-- The offset of a line and its bytes. -/
def readLine (line : List α) : Option (Nat × List UInt8) :=
  (value marks.digit 16 (line.takeWhile (· ≠ marks.colon))).map fun offset =>
    (offset, readGroups marks ((line.dropWhile (· ≠ marks.colon)).drop 1))

/-- The bytes of lines of which each begins where the last one ends. -/
def readLines : (offset : Nat) → List (List α) → Option (List UInt8)
  | _, [] => some []
  | offset, line :: rest =>
      match readLine marks line with
      | none => none
      | some (start, bytes) =>
          if start = offset then
            (readLines (offset + bytes.length) rest).map fun more => bytes ++ more
          else none

/-- Every line ends with a newline, so nothing follows the last one. -/
def read (text : List α) : Option (List UInt8) :=
  readLines marks 0 (text.splitOn marks.newline).dropLast

/-- A blank and the two digits of a byte. -/
def Group (byte : UInt8) (group : List α) : Prop :=
  ∃ high low, group = [marks.blank, high, low] ∧ value marks.digit 16 [high, low] = some byte.toNat

/-- A line without its newline. -/
def Line (offset : Nat) (bytes : List UInt8) (line : List α) : Prop :=
  ∃ numeral groups tail, line = numeral ++ marks.colon :: (groups.flatten ++ tail)
    ∧ value marks.digit 16 numeral = some offset ∧ List.Forall₂ (Group marks) bytes groups
    ∧ readGroups marks tail = [] ∧ marks.newline ∉ tail

/-- Lines with bytes that follow on each other. -/
inductive Dump : (offset : Nat) → (bytes : List UInt8) → (text : List α) → Prop where
  | nil {offset : Nat} : Dump offset [] []
  | cons {offset : Nat} {bytes more : List UInt8} {line text : List α} :
      Line marks offset bytes line → Dump (offset + bytes.length) more text →
        Dump offset (bytes ++ more) (line ++ marks.newline :: text)

variable {marks}

omit [DecidableEq α] in
/-- A symbol that is no digit stands in no numeral. -/
theorem notMem_of_value {digit : α → Option Nat} {numeral : List α} {number : Nat}
    (hvalue : value digit 16 numeral = some number) {symbol : α} (hsymbol : digit symbol = none) :
    symbol ∉ numeral := by
  obtain ⟨-, places, hplaces, -, -⟩ := value_eq_some_iff.mp hvalue
  intro hmem
  have hnone : none ∈ places.map some := by
    rw [← hplaces, ← hsymbol]
    exact List.mem_map_of_mem hmem
  obtain ⟨place, -, hplace⟩ := List.mem_map.mp hnone
  cases hplace

theorem readGroups_append {bytes : List UInt8} {groups : List (List α)}
    (hgroups : List.Forall₂ (Group marks) bytes groups) (tail : List α) :
    readGroups marks (groups.flatten ++ tail) = bytes ++ readGroups marks tail := by
  induction hgroups with
  | nil => rfl
  | @cons byte group bytes groups hgroup hgroups ih =>
      obtain ⟨high, low, rfl, hvalue⟩ := hgroup
      rw [List.flatten_cons, List.append_assoc, List.cons_append, List.cons_append, List.cons_append,
        List.nil_append, readGroups, if_pos rfl, hvalue]
      dsimp only
      rw [UInt8.ofNat_toNat, ih, List.cons_append]

/-- Two blanks end the groups. -/
theorem readGroups_blank (rest : List α) :
    readGroups marks (marks.blank :: marks.blank :: rest) = [] := by
  cases rest with
  | nil => rfl
  | cons low rest =>
      have hnone : value marks.digit 16 [marks.blank, low] = none := by
        rw [Option.eq_none_iff_forall_ne_some]
        intro number hvalue
        exact notMem_of_value hvalue marks.digit_blank List.mem_cons_self
      rw [readGroups, if_pos rfl, hnone]

theorem Line.newline_notMem {offset : Nat} {bytes : List UInt8} {line : List α}
    (hline : Line marks offset bytes line) : marks.newline ∉ line := by
  obtain ⟨numeral, groups, tail, rfl, hvalue, hgroups, -, htail⟩ := hline
  have hgroup : marks.newline ∉ groups.flatten := by
    clear hvalue htail
    induction hgroups with
    | nil => exact List.not_mem_nil
    | @cons byte group bytes groups hgroup _ ih =>
        obtain ⟨high, low, rfl, hdigits⟩ := hgroup
        rw [List.flatten_cons, List.mem_append, List.mem_cons, not_or, not_or]
        exact ⟨⟨marks.newline_ne_blank, notMem_of_value hdigits marks.digit_newline⟩, ih⟩
  rw [List.mem_append, List.mem_cons, List.mem_append, not_or, not_or, not_or]
  exact ⟨notMem_of_value hvalue marks.digit_newline, marks.newline_ne_colon, hgroup, htail⟩

theorem readLine_of_line {offset : Nat} {bytes : List UInt8} {line : List α}
    (hline : Line marks offset bytes line) : readLine marks line = some (offset, bytes) := by
  obtain ⟨numeral, groups, tail, rfl, hvalue, hgroups, htail, -⟩ := hline
  have hbefore : ∀ symbol ∈ numeral, decide (symbol ≠ marks.colon) = true := by
    intro symbol hmem
    rw [decide_eq_true_eq]
    rintro rfl
    exact notMem_of_value hvalue marks.digit_colon hmem
  have hdrop : (numeral ++ marks.colon :: (groups.flatten ++ tail)).dropWhile (· ≠ marks.colon)
      = marks.colon :: (groups.flatten ++ tail) := by
    rw [List.dropWhile_append_of_pos hbefore, List.dropWhile_cons_of_neg (by simp)]
  rw [readLine, hdrop, List.takeWhile_append_of_pos hbefore, List.takeWhile_cons_of_neg (by simp),
    List.append_nil, hvalue, List.drop_one, List.tail_cons, readGroups_append hgroups, htail,
    List.append_nil, Option.map_some]

theorem Dump.append {offset : Nat} {bytes more : List UInt8} {text tail : List α}
    (hdump : Dump marks offset bytes text) (hmore : Dump marks (offset + bytes.length) more tail) :
    Dump marks offset (bytes ++ more) (text ++ tail) := by
  induction hdump with
  | nil => exact hmore
  | @cons offset bytes others line text hline _ ih =>
      rw [List.append_assoc, List.append_assoc, List.cons_append]
      apply Dump.cons hline
      apply ih
      rwa [Nat.add_assoc, ← List.length_append]

theorem Dump.readLines_eq {offset : Nat} {bytes : List UInt8} {text : List α}
    (hdump : Dump marks offset bytes text) :
    readLines marks offset (text.splitOn marks.newline).dropLast = some bytes := by
  induction hdump with
  | nil => rw [List.splitOn_nil]; rfl
  | @cons offset bytes more line text hline _ ih =>
      have hrest := List.splitOn_ne_nil marks.newline text
      rw [List.splitOn_append_cons_self, List.splitOn_eq_singleton hline.newline_notMem,
        List.singleton_append, List.dropLast_cons_of_ne_nil hrest, readLines, readLine_of_line hline]
      dsimp only
      rw [if_pos rfl, ih, Option.map_some]

/-- What was dumped from the start on is read back. -/
theorem read_of_dump {bytes : List UInt8} {text : List α} (hdump : Dump marks 0 bytes text) :
    read marks text = some bytes := hdump.readLines_eq

end Read

end Hexdump

import Mathlib.Data.List.DropRight
import Mathlib.Data.Nat.Find
import Mathlib.Logic.Function.Iterate

/-!
# Rows of a text

The rows that a text fills on a screen of some columns. A row ends behind a newline, and it ends as soon
as it is full. Behind a full row a new one begins although nothing may follow; a newline right there is
alone on its row.
-/

namespace WrappedText

variable {α : Type} [DecidableEq α] (columns : Nat) (newline : α) (text : List α)

/-- The column behind a text: the symbols since the last newline fill one row after another. -/
def column (before : List α) : Nat := (before.rtakeWhile (· ≠ newline)).length % columns

def IsStart (index : Nat) : Prop := column columns newline (text.take index) = 0

instance : DecidablePred (IsStart columns newline text) := fun _ => Nat.decEq _ _

/-- The index at which the text begins or a newline has ended a row. -/
def AfterNewline (index : Nat) : Prop := index = 0 ∨ text[index - 1]? = some newline

instance : DecidablePred (AfterNewline newline text) := fun _ => instDecidableOr

/-- The start of the row that the cursor is on. Behind a full row the cursor stays on that row. -/
def lineStart (index : Nat) : Nat :=
  if AfterNewline newline text index then index
  else Nat.findGreatest (IsStart columns newline text) (index - 1)

/-- The symbols of the row that begins at `start`, without a newline. -/
def lineLength (start : Nat) : Nat :=
  (((text.drop start).take columns).takeWhile (· ≠ newline)).length

/-- Behind the row that begins at `start`. -/
def nextStart (start : Nat) : Nat :=
  let stop := start + lineLength columns newline text start
  if lineLength columns newline text start < columns ∧ stop < text.length then stop + 1 else stop

def prevStart (start : Nat) : Nat := if start = 0 then 0 else lineStart columns newline text (start - 1)

/-- Some number of steps lead from the beginning to the index. -/
def Reached (next : Nat → Nat) (index : Nat) : Prop := ∃ count, next^[count] 0 = index

/-- The row behind a full one holds a single symbol. -/
def Cramped (index : Nat) : Prop :=
  ¬ AfterNewline newline text index ∧ IsStart columns newline text index
    ∧ (columns = 1 ∨ text[index]? = some newline ∨ index + 1 = text.length)

instance : DecidablePred (Cramped columns newline text) := fun _ => instDecidableAnd

variable {columns newline text}

section Column

variable {index : Nat}

@[simp]
theorem isStart_zero : IsStart columns newline text 0 := by
  rw [IsStart, List.take_zero, column, List.rtakeWhile_nil, List.length_nil, Nat.zero_mod]

omit [DecidableEq α] in
@[simp]
theorem afterNewline_zero : AfterNewline newline text 0 := Or.inl rfl

omit [DecidableEq α] in
theorem afterNewline_succ_iff (hindex : index < text.length) :
    AfterNewline newline text (index + 1) ↔ text[index] = newline := by
  rw [AfterNewline, Nat.add_sub_cancel, List.getElem?_eq_getElem hindex, Option.some.injEq]
  exact or_iff_right (Nat.succ_ne_zero index)

/-- One symbol more is one column more, and a newline or the end of the row leads back to the first. -/
theorem column_take_succ (hindex : index < text.length) :
    column columns newline (text.take (index + 1))
      = if text[index] = newline then 0
        else (column columns newline (text.take index) + 1) % columns := by
  rw [List.take_add_one, List.getElem?_eq_getElem hindex, Option.toList_some, column,
    List.rtakeWhile_concat]
  by_cases hnewline : text[index] = newline
  · rw [if_neg (by simpa using hnewline), if_pos hnewline, List.length_nil, Nat.zero_mod]
  · rw [if_pos (by simpa using hnewline), if_neg hnewline, List.length_append, List.length_singleton,
      column, Nat.mod_add_mod]

theorem AfterNewline.isStart (hafter : AfterNewline newline text index) :
    IsStart columns newline text index := by
  cases index with
  | zero => exact isStart_zero
  | succ index =>
      have hnewline : text[index]? = some newline := by
        rcases hafter with hzero | hnewline
        · exact absurd hzero (Nat.succ_ne_zero index)
        · exact hnewline
      obtain ⟨hindex, hnewline⟩ := List.getElem?_eq_some_iff.mp hnewline
      rw [IsStart, column_take_succ hindex, if_pos hnewline]

end Column

section LineStart

variable {index : Nat}

theorem lineStart_zero : lineStart columns newline text 0 = 0 := if_pos afterNewline_zero

theorem lineStart_succ (hindex : index < text.length) :
    lineStart columns newline text (index + 1)
      = if text[index] = newline then index + 1
        else if IsStart columns newline text index then index
        else lineStart columns newline text index := by
  rw [lineStart]
  by_cases hnewline : text[index] = newline
  · rw [if_pos ((afterNewline_succ_iff hindex).mpr hnewline), if_pos hnewline]
  · rw [if_neg (fun hafter => hnewline ((afterNewline_succ_iff hindex).mp hafter)), if_neg hnewline,
      Nat.add_sub_cancel]
    by_cases hstart : IsStart columns newline text index
    · rw [if_pos hstart, Nat.findGreatest_eq hstart]
    · have hafter : ¬ AfterNewline newline text index := fun hafter => hstart hafter.isStart
      cases index with
      | zero => exact absurd isStart_zero hstart
      | succ index =>
          rw [if_neg hstart, Nat.findGreatest_of_not hstart, lineStart, if_neg hafter,
            Nat.add_sub_cancel]

theorem lineStart_le (index : Nat) : lineStart columns newline text index ≤ index := by
  rw [lineStart]
  split
  · exact Nat.le_refl index
  · exact (Nat.findGreatest_le _).trans (Nat.sub_le _ _)

theorem prevStart_le (start : Nat) : prevStart columns newline text start ≤ start := by
  rw [prevStart]
  split
  · exact Nat.zero_le start
  · exact (lineStart_le _).trans (Nat.sub_le _ _)

theorem afterNewline_of_lineStart_eq (hsame : lineStart columns newline text index = index) :
    AfterNewline newline text index := by
  by_contra hafter
  rw [lineStart, if_neg hafter] at hsame
  have hpositive : index ≠ 0 := fun hzero => hafter (Or.inl hzero)
  have hle := @Nat.findGreatest_le (IsStart columns newline text) _ (index - 1)
  omega

theorem isStart_lineStart (index : Nat) :
    IsStart columns newline text (lineStart columns newline text index) := by
  rw [lineStart]
  split
  next hafter => exact hafter.isStart
  next => exact Nat.findGreatest_spec (Nat.zero_le _) isStart_zero

theorem not_isStart_of_lineStart_lt {other : Nat} (hlow : lineStart columns newline text index < other)
    (hhigh : other < index) : ¬ IsStart columns newline text other := by
  rw [lineStart] at hlow
  split at hlow
  · omega
  · exact Nat.findGreatest_is_greatest hlow (by omega)

/-- The last start before the index, unless a newline has just ended. -/
theorem lineStart_eq {start : Nat} (hstart : IsStart columns newline text start) (hlow : start < index)
    (hnone : ∀ other, start < other → other ≤ index → ¬ IsStart columns newline text other) :
    lineStart columns newline text index = start := by
  have hafter : ¬ AfterNewline newline text index := fun hafter =>
    hnone index hlow (Nat.le_refl index) hafter.isStart
  rw [lineStart, if_neg hafter, Nat.findGreatest_eq_iff]
  refine ⟨by omega, fun _ => hstart, fun other hother hle => ?_⟩
  exact hnone other hother (by omega)

end LineStart

section LineLength

variable {start offset : Nat}

theorem lineLength_zero (start : Nat) : lineLength 0 newline text start = 0 := by
  rw [lineLength, List.take_zero, List.takeWhile_nil, List.length_nil]

theorem lineLength_of_le (hstart : text.length ≤ start) : lineLength columns newline text start = 0 := by
  rw [lineLength, List.drop_eq_nil_of_le hstart, List.take_nil, List.takeWhile_nil, List.length_nil]

/-- The length symbol by symbol, as a loop counts it. -/
theorem lineLength_succ (hstart : start < text.length) :
    lineLength (columns + 1) newline text start
      = if text[start] = newline then 0 else lineLength columns newline text (start + 1) + 1 := by
  rw [lineLength, List.drop_eq_getElem_cons hstart, List.take_succ_cons, List.takeWhile_cons]
  by_cases hnewline : text[start] = newline
  · rw [if_neg (by simpa using hnewline), if_pos hnewline, List.length_nil]
  · rw [if_pos (by simpa using hnewline), if_neg hnewline, List.length_cons, lineLength]

theorem lineLength_le_columns (start : Nat) : lineLength columns newline text start ≤ columns := by
  rw [lineLength]
  exact (List.takeWhile_prefix _).length_le.trans (List.length_take_le _ _)

theorem add_lineLength_le (hstart : start ≤ text.length) :
    start + lineLength columns newline text start ≤ text.length := by
  have hle : lineLength columns newline text start ≤ (text.drop start).length := by
    rw [lineLength]
    exact (List.takeWhile_prefix _).length_le.trans (List.length_take_le' _ _)
  rw [List.length_drop] at hle
  omega

/-- There is no newline on the row, -/
theorem ne_newline_of_lt_lineLength (hoffset : offset < lineLength columns newline text start) :
    ∃ hindex : start + offset < text.length, text[start + offset] ≠ newline := by
  induction columns generalizing start offset with
  | zero =>
      rw [lineLength_zero] at hoffset
      exact absurd hoffset (Nat.not_lt_zero offset)
  | succ columns ih =>
      by_cases hstart : start < text.length
      · rw [lineLength_succ hstart] at hoffset
        split at hoffset
        · exact absurd hoffset (Nat.not_lt_zero offset)
        next hnewline =>
          cases offset with
          | zero => exact ⟨hstart, hnewline⟩
          | succ offset =>
              obtain ⟨hindex, hne⟩ := ih (Nat.lt_of_succ_lt_succ hoffset)
              have hsum : start + 1 + offset = start + (offset + 1) := by omega
              simp only [hsum] at hindex hne
              exact ⟨hindex, hne⟩
      · rw [lineLength_of_le (Nat.le_of_not_lt hstart)] at hoffset
        exact absurd hoffset (Nat.not_lt_zero offset)

/-- and there is one behind it if it is not full. -/
theorem newline_of_lineLength_lt (hroom : lineLength columns newline text start < columns)
    (hindex : start + lineLength columns newline text start < text.length) :
    text[start + lineLength columns newline text start] = newline := by
  induction columns generalizing start with
  | zero => exact absurd hroom (Nat.not_lt_zero _)
  | succ columns ih =>
      have hstart : start < text.length := by omega
      by_cases hnewline : text[start] = newline
      · have hzero : lineLength (columns + 1) newline text start = 0 := by
          rw [lineLength_succ hstart, if_pos hnewline]
        simp only [hzero, Nat.add_zero]
        exact hnewline
      · have hsucc : lineLength (columns + 1) newline text start
            = lineLength columns newline text (start + 1) + 1 := by
          rw [lineLength_succ hstart, if_neg hnewline]
        rw [hsucc] at hroom
        have hsum : start + lineLength (columns + 1) newline text start
            = start + 1 + lineLength columns newline text (start + 1) := by omega
        simp only [hsum] at hindex ⊢
        exact ih (Nat.lt_of_succ_lt_succ hroom) hindex

/-- On a row the column is the distance from its start. -/
theorem column_take_add (hstart : IsStart columns newline text start)
    (hoffset : offset ≤ lineLength columns newline text start) :
    column columns newline (text.take (start + offset)) = offset % columns := by
  induction offset with
  | zero => rw [Nat.add_zero, hstart, Nat.zero_mod]
  | succ offset ih =>
      obtain ⟨hindex, hne⟩ := ne_newline_of_lt_lineLength (Nat.lt_of_succ_le hoffset)
      rw [← Nat.add_assoc, column_take_succ hindex, if_neg hne, ih (Nat.le_of_succ_le hoffset),
        Nat.mod_add_mod]

end LineLength

section NextStart

variable {start index : Nat}

theorem nextStart_le (hstart : start ≤ text.length) : nextStart columns newline text start ≤ text.length := by
  have hle := @add_lineLength_le _ _ columns newline _ _ hstart
  rw [nextStart]
  split
  · omega
  · exact hle

theorem nextStart_zero (start : Nat) : nextStart 0 newline text start = start := by
  rw [nextStart, lineLength_zero, Nat.add_zero, if_neg (fun hroom => Nat.lt_irrefl 0 hroom.1)]

/-- The next start symbol by symbol, as a loop finds it. -/
theorem nextStart_succ (hstart : start < text.length) :
    nextStart (columns + 1) newline text start
      = if text[start] = newline then start + 1 else nextStart columns newline text (start + 1) := by
  rw [nextStart, lineLength_succ hstart]
  by_cases hnewline : text[start] = newline
  · rw [if_pos hnewline, if_pos hnewline, Nat.add_zero, if_pos ⟨Nat.succ_pos _, hstart⟩]
  · rw [if_neg hnewline, if_neg hnewline, nextStart]
    have hsum : start + (lineLength columns newline text (start + 1) + 1)
        = start + 1 + lineLength columns newline text (start + 1) := by omega
    simp only [hsum, Nat.add_lt_add_iff_right]

theorem nextStart_length : nextStart columns newline text text.length = text.length := by
  have hzero : lineLength columns newline text text.length = 0 := lineLength_of_le (Nat.le_refl _)
  rw [nextStart, hzero, Nat.add_zero, if_neg (fun hroom => Nat.lt_irrefl _ hroom.2)]

theorem lt_nextStart (hpos : 0 < columns) (hstart : start < text.length) :
    start < nextStart columns newline text start := by
  rw [nextStart]
  split
  · omega
  · omega

theorem not_isStart_of_lt_nextStart (hstart : IsStart columns newline text start)
    (hlow : start < index) (hhigh : index < nextStart columns newline text start) :
    ¬ IsStart columns newline text index := by
  have hcolumns := @lineLength_le_columns _ _ columns newline text start
  rw [nextStart] at hhigh
  obtain ⟨offset, rfl⟩ : ∃ offset, index = start + offset := ⟨index - start, by omega⟩
  have hoffset : offset ≤ lineLength columns newline text start ∧ offset < columns := by
    split at hhigh
    · omega
    · omega
  rw [IsStart, column_take_add hstart hoffset.1, Nat.mod_eq_of_lt hoffset.2]
  omega

/-- Behind a row begins another one, or the text ends there. -/
theorem isStart_nextStart (hstart : IsStart columns newline text start)
    (hnext : nextStart columns newline text start < text.length) :
    IsStart columns newline text (nextStart columns newline text start) := by
  have hcolumns := @lineLength_le_columns _ _ columns newline text start
  rw [nextStart] at hnext ⊢
  split
  next hroom =>
    rw [IsStart, column_take_succ hroom.2, if_pos (newline_of_lineLength_lt hroom.1 hroom.2)]
  next hfull =>
    rw [if_neg hfull] at hnext
    have hequal : lineLength columns newline text start = columns := by omega
    rw [IsStart, column_take_add hstart (Nat.le_refl _), hequal, Nat.mod_self]

/-- A row of one symbol is a column wide, a newline, or the end of the text. -/
theorem nextStart_eq_succ_iff (hpos : 0 < columns) (hstart : start < text.length) :
    nextStart columns newline text start = start + 1
      ↔ columns = 1 ∨ text[start]? = some newline ∨ start + 1 = text.length := by
  obtain ⟨columns, rfl⟩ : ∃ count, columns = count + 1 := ⟨columns - 1, by omega⟩
  rw [nextStart_succ hstart, List.getElem?_eq_getElem hstart, Option.some.injEq]
  by_cases hnewline : text[start] = newline
  · rw [if_pos hnewline]
    exact iff_of_true rfl (Or.inr (Or.inl hnewline))
  · rw [if_neg hnewline]
    constructor
    · intro hsame
      rcases Nat.eq_zero_or_pos columns with rfl | hcolumns
      · exact Or.inl rfl
      · by_cases hlast : start + 1 < text.length
        · have hlt := @lt_nextStart _ _ columns newline text (start + 1) hcolumns hlast
          omega
        · exact Or.inr (Or.inr (by omega))
    · rintro (hwidth | hhere | hlast)
      · obtain rfl : columns = 0 := by omega
        exact nextStart_zero _
      · exact absurd hhere hnewline
      · rw [hlast, nextStart_length]

/-- Every start but the first has a row before it. -/
theorem exists_nextStart_eq (hpos : 0 < columns) (hindex : 0 < index) (hlength : index ≤ text.length)
    (hstart : IsStart columns newline text index) :
    ∃ before < index, IsStart columns newline text before
      ∧ nextStart columns newline text before = index := by
  have hbefore : Nat.findGreatest (IsStart columns newline text) (index - 1) ≤ index - 1 :=
    Nat.findGreatest_le _
  have hisStart : IsStart columns newline text
      (Nat.findGreatest (IsStart columns newline text) (index - 1)) :=
    Nat.findGreatest_spec (Nat.zero_le _) isStart_zero
  have hnone : ∀ other, Nat.findGreatest (IsStart columns newline text) (index - 1) < other →
      other ≤ index - 1 → ¬ IsStart columns newline text other :=
    fun other hlow hhigh => Nat.findGreatest_is_greatest hlow hhigh
  generalize Nat.findGreatest (IsStart columns newline text) (index - 1) = before at hbefore hisStart hnone
  refine ⟨before, by omega, hisStart, ?_⟩
  have hlt := @lt_nextStart _ _ columns newline text before hpos (by omega)
  rcases Nat.lt_trichotomy (nextStart columns newline text before) index with hless | hsame | hmore
  · exact absurd (isStart_nextStart hisStart (by omega)) (hnone _ hlt (by omega))
  · exact hsame
  · exact absurd hstart (not_isStart_of_lt_nextStart hisStart (by omega) hmore)

/-- The cursor is on the row that begins at its line start, or right behind it. -/
theorem le_nextStart_lineStart (hpos : 0 < columns) (hindex : index ≤ text.length) :
    index ≤ nextStart columns newline text (lineStart columns newline text index) := by
  by_contra hbehind
  have hle := @lineStart_le _ _ columns newline text index
  have hlt := @lt_nextStart _ _ columns newline text (lineStart columns newline text index)
  have hstart := @isStart_lineStart _ _ columns newline text index
  have hfirst : lineStart columns newline text index < index := by
    by_contra hsame
    have hequal : lineStart columns newline text index = index := by omega
    rcases Nat.lt_or_ge index text.length with hinside | hend
    · rw [hequal] at hlt hbehind
      have := hlt hpos hinside
      omega
    · rw [hequal, Nat.le_antisymm hindex hend, nextStart_length] at hbehind
      exact hbehind (Nat.le_refl _)
  exact not_isStart_of_lineStart_lt (hlt hpos (by omega)) (Nat.lt_of_not_le hbehind)
    (isStart_nextStart hstart (by omega))

end NextStart

section Walks

variable {start : Nat}

/-- One row forward and one row back. It fails where the row is behind a full one and holds one symbol. -/
theorem prevStart_nextStart_eq_iff (hpos : 0 < columns) (hlength : start < text.length)
    (hstart : IsStart columns newline text start) :
    prevStart columns newline text (nextStart columns newline text start) = start
      ↔ ¬ Cramped columns newline text start := by
  have hlt := @lt_nextStart _ _ columns newline text start hpos hlength
  have hone := @nextStart_eq_succ_iff _ _ columns newline text start hpos hlength
  rw [prevStart, if_neg (by omega), Cramped, ← hone]
  by_cases hsingle : nextStart columns newline text start = start + 1
  · rw [hsingle, Nat.add_sub_cancel]
    by_cases hafter : AfterNewline newline text start
    · rw [lineStart, if_pos hafter]
      exact iff_of_true rfl fun hcramped => hcramped.1 hafter
    · exact iff_of_false (fun hsame => hafter (afterNewline_of_lineStart_eq hsame))
        fun hgood => hgood ⟨hafter, hstart, rfl⟩
  · refine iff_of_true (lineStart_eq hstart (by omega) fun other hlow hhigh => ?_)
      fun hcramped => hsingle hcramped.2.2
    exact not_isStart_of_lt_nextStart hstart hlow (by omega)

/-- The rows are reached from the first one on, -/
theorem Reached.isStart (hreached : Reached (nextStart columns newline text) start) :
    start ≤ text.length ∧ (start < text.length → IsStart columns newline text start) := by
  obtain ⟨count, rfl⟩ := hreached
  induction count with
  | zero => exact ⟨Nat.zero_le _, fun _ => isStart_zero⟩
  | succ count ih =>
      rw [Function.iterate_succ_apply']
      generalize (nextStart columns newline text)^[count] 0 = start at ih
      refine ⟨nextStart_le ih.1, fun hnext => ?_⟩
      rcases Nat.lt_or_ge start text.length with hinside | hend
      · exact isStart_nextStart (ih.2 hinside) hnext
      · rw [Nat.le_antisymm ih.1 hend, nextStart_length] at hnext
        exact absurd hnext (Nat.lt_irrefl _)

/-- and every row is reached. -/
theorem IsStart.reached (hpos : 0 < columns) (hlength : start ≤ text.length)
    (hstart : IsStart columns newline text start) : Reached (nextStart columns newline text) start := by
  induction start using Nat.strong_induction_on with
  | _ start ih =>
      rcases Nat.eq_zero_or_pos start with rfl | hpositive
      · exact ⟨0, rfl⟩
      · obtain ⟨before, hbefore, hisStart, hnext⟩ := exists_nextStart_eq hpos hpositive hlength hstart
        obtain ⟨count, hcount⟩ := ih before hbefore (by omega) hisStart
        exact ⟨count + 1, by rw [Function.iterate_succ_apply', hcount, hnext]⟩

/-- Both directions agree on the rows that are reached if none is cramped, and only then. -/
theorem forall_prevStart_nextStart_iff (hpos : 0 < columns) :
    (∀ start, Reached (nextStart columns newline text) start →
        start < nextStart columns newline text start →
        prevStart columns newline text (nextStart columns newline text start) = start)
      ↔ ∀ index < text.length, ¬ Cramped columns newline text index := by
  constructor
  · intro hsame index hindex hcramped
    have hreached := IsStart.reached hpos hindex.le hcramped.2.1
    exact (prevStart_nextStart_eq_iff hpos hindex hcramped.2.1).mp
      (hsame index hreached (lt_nextStart hpos hindex)) hcramped
  · intro hroomy start hreached hlt
    obtain ⟨hle, hstart⟩ := hreached.isStart
    have hinside : start < text.length := hlt.trans_le (nextStart_le hle)
    exact (prevStart_nextStart_eq_iff hpos hinside (hstart hinside)).mpr (hroomy start hinside)

/-- One row back and one row forward. -/
theorem nextStart_prevStart (hpos : 0 < columns)
    (hroomy : ∀ index < text.length, ¬ Cramped columns newline text index) (hpositive : 0 < start)
    (hlength : start ≤ text.length) (hstart : IsStart columns newline text start) :
    prevStart columns newline text start < start
      ∧ IsStart columns newline text (prevStart columns newline text start)
      ∧ nextStart columns newline text (prevStart columns newline text start) = start := by
  obtain ⟨before, hbefore, hisStart, rfl⟩ := exists_nextStart_eq hpos hpositive hlength hstart
  have hinside : before < text.length := by omega
  rw [(prevStart_nextStart_eq_iff hpos hinside hisStart).mpr (hroomy before hinside)]
  exact ⟨hbefore, hisStart, rfl⟩

end Walks

end WrappedText

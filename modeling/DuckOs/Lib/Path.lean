import Mathlib.Data.List.TakeWhile
import Mathlib.Tactic

/-!
# Paths as lists of segments

A path is a list of characters with a separator. Its segments are the non-empty pieces between
separators, so leading, trailing and repeated separators do not count; a list of segments is joined
with one separator between two of them.
-/

namespace Path

variable {α : Type} [DecidableEq α] {separator : α}

def segments (separator : α) (path : List α) : List (List α) :=
  (path.splitOn separator).filter fun segment => segment ≠ []

def join (separator : α) (list : List (List α)) : List α := [separator].intercalate list

/-- What the pieces between separators look like. -/
def Segment (separator : α) (segment : List α) : Prop := segment ≠ [] ∧ separator ∉ segment

@[simp]
theorem segments_nil : segments separator [] = [] := by
  simp [segments]

theorem segments_append_cons (first second : List α) :
    segments separator (first ++ separator :: second)
      = segments separator first ++ segments separator second := by
  unfold segments
  rw [List.splitOn_append_cons_self, List.filter_append]

@[simp]
theorem segments_cons_self (path : List α) :
    segments separator (separator :: path) = segments separator path := by
  calc
    segments separator (separator :: path)
        = segments separator [] ++ segments separator path := segments_append_cons [] path
    _ = segments separator path := by rw [segments_nil, List.nil_append]

theorem segments_of_segment {segment : List α} (hsegment : Segment separator segment) :
    segments separator segment = [segment] := by
  unfold segments
  rw [List.splitOn_eq_singleton hsegment.2]
  simp [hsegment.1]

theorem separator_notMem_splitOn (path : List α) :
    ∀ piece ∈ path.splitOn separator, separator ∉ piece := by
  induction path with
  | nil => simp
  | cons head rest ih =>
      intro piece hpiece
      rw [List.splitOn_cons_eq_if_modifyHead] at hpiece
      by_cases hhead : (head == separator) = true
      · rw [if_pos hhead, List.mem_cons] at hpiece
        rcases hpiece with rfl | hrest
        · exact List.not_mem_nil
        · exact ih piece hrest
      · rw [if_neg hhead] at hpiece
        have hne : separator ≠ head := fun heq => hhead (by rw [heq, beq_self_eq_true])
        cases hsplit : rest.splitOn separator with
        | nil => exact absurd hsplit (List.splitOn_ne_nil separator rest)
        | cons first others =>
            rw [hsplit] at hpiece ih
            rw [List.modifyHead_cons, List.mem_cons] at hpiece
            rcases hpiece with rfl | hother
            · rw [List.mem_cons, not_or]
              exact ⟨hne, ih first List.mem_cons_self⟩
            · exact ih piece (List.mem_cons_of_mem _ hother)

theorem segment_of_mem {path segment : List α} (hmem : segment ∈ segments separator path) :
    Segment separator segment := by
  unfold segments at hmem
  rw [List.mem_filter] at hmem
  exact ⟨by simpa using hmem.2, separator_notMem_splitOn path segment hmem.1⟩

theorem segments_dropWhile (path : List α) :
    segments separator (path.dropWhile (· = separator)) = segments separator path := by
  induction path with
  | nil => rfl
  | cons head rest ih =>
      by_cases hhead : head = separator
      · subst hhead
        rw [List.dropWhile_cons_of_pos (by simp), ih, segments_cons_self]
      · rw [List.dropWhile_cons_of_neg (by simpa using hhead)]

/-- A path that does not start with a separator begins with its first segment. -/
theorem segments_takeWhile {head : α} {rest : List α} (hhead : head ≠ separator) :
    Segment separator ((head :: rest).takeWhile (· ≠ separator))
      ∧ segments separator (head :: rest)
        = (head :: rest).takeWhile (· ≠ separator)
          :: segments separator
            ((head :: rest).drop ((head :: rest).takeWhile (· ≠ separator)).length) := by
  have hsegment : Segment separator ((head :: rest).takeWhile (· ≠ separator)) := by
    refine ⟨?_, fun hmem => ?_⟩
    · rw [List.takeWhile_cons_of_pos (by simpa using hhead)]
      exact List.cons_ne_nil _ _
    · have hkept := List.mem_takeWhile_imp hmem
      simp at hkept
  refine ⟨hsegment, ?_⟩
  have hsplit := List.takeWhile_append_dropWhile (p := (· ≠ separator)) (l := head :: rest)
  have hdrop : (head :: rest).drop ((head :: rest).takeWhile (· ≠ separator)).length
      = (head :: rest).dropWhile (· ≠ separator) := by
    have hleft := congrArg (List.drop ((head :: rest).takeWhile (· ≠ separator)).length) hsplit
    rwa [List.drop_left, eq_comm] at hleft
  rw [hdrop]
  cases htail : (head :: rest).dropWhile (· ≠ separator) with
  | nil =>
      rw [htail, List.append_nil] at hsplit
      rw [hsplit] at hsegment ⊢
      rw [segments_of_segment hsegment, segments_nil]
  | cons next tail =>
      have hnext : next = separator := by
        have hfirst := List.head?_dropWhile_not (· ≠ separator) (head :: rest)
        rw [htail] at hfirst
        simpa using hfirst
      subst hnext
      rw [htail] at hsplit
      conv_lhs => rw [← hsplit]
      rw [segments_append_cons, segments_of_segment hsegment, segments_cons_self]
      rfl

omit [DecidableEq α] in
theorem join_concat {list : List (List α)} (hlist : list ≠ []) (segment : List α) :
    join separator (list ++ [segment]) = join separator list ++ separator :: segment := by
  unfold join
  induction list with
  | nil => exact absurd rfl hlist
  | cons head rest ih =>
      cases rest with
      | nil => simp
      | cons next others =>
          rw [List.cons_append, List.intercalate_cons_of_ne_nil (by simp),
            ih (List.cons_ne_nil _ _), List.intercalate_cons_of_ne_nil (List.cons_ne_nil _ _),
            List.append_assoc, List.append_assoc, List.append_assoc]

theorem segments_join {list : List (List α)} (hlist : ∀ segment ∈ list, Segment separator segment) :
    segments separator (join separator list) = list := by
  by_cases hempty : list = []
  · subst hempty
    exact segments_nil
  · unfold segments join
    rw [List.splitOn_intercalate separator (fun segment hmem => (hlist segment hmem).2) hempty,
      List.filter_eq_self]
    intro segment hmem
    simpa using (hlist segment hmem).1

theorem join_eq_nil {list : List (List α)} (hlist : ∀ segment ∈ list, Segment separator segment)
    (hjoin : join separator list = []) : list = [] := by
  have hsegments := segments_join hlist
  rw [hjoin, segments_nil] at hsegments
  exact hsegments.symm

omit [DecidableEq α] in
theorem length_join_le (first second : List (List α)) :
    (join separator first).length ≤ (join separator (first ++ second)).length := by
  induction second generalizing first with
  | nil => rw [List.append_nil]
  | cons segment rest ih =>
      rw [List.append_cons]
      refine le_trans ?_ (ih (first ++ [segment]))
      by_cases hempty : first = []
      · subst hempty
        exact Nat.zero_le _
      · rw [join_concat hempty, List.length_append]
        exact Nat.le_add_right _ _

omit [DecidableEq α] in
theorem join_append {first second : List (List α)} (hfirst : first ≠ []) (hsecond : second ≠ []) :
    join separator (first ++ second) = join separator first ++ separator :: join separator second := by
  unfold join
  induction first with
  | nil => exact absurd rfl hfirst
  | cons head rest ih =>
      cases rest with
      | nil =>
          rw [List.singleton_append, List.intercalate_cons_of_ne_nil hsecond]
          simp
      | cons next others =>
          rw [List.cons_append, List.intercalate_cons_of_ne_nil (by simp),
            ih (List.cons_ne_nil _ _), List.intercalate_cons_of_ne_nil (List.cons_ne_nil _ _),
            List.append_assoc, List.append_assoc, List.append_assoc]

omit [DecidableEq α] in
theorem mem_join {list : List (List α)} {segment : List α} {letter : α} (hsegment : segment ∈ list)
    (hletter : letter ∈ segment) : letter ∈ join separator list := by
  induction list with
  | nil => cases hsegment
  | cons head rest ih =>
      by_cases hrest : rest = []
      · subst hrest
        rw [List.mem_singleton.mp hsegment] at hletter
        simpa [join] using hletter
      · have happend := @join_append _ separator [head] rest (List.cons_ne_nil _ _) hrest
        rw [List.singleton_append] at happend
        rw [happend, List.mem_append, List.mem_cons]
        rcases List.mem_cons.mp hsegment with rfl | hmem
        · exact .inl (by simpa [join] using hletter)
        · exact .inr (.inr (ih hmem))

omit [DecidableEq α] in
theorem mem_of_mem_join {list : List (List α)} {letter : α} (hletter : letter ∈ join separator list) :
    letter = separator ∨ ∃ segment ∈ list, letter ∈ segment := by
  induction list with
  | nil => cases hletter
  | cons head rest ih =>
      by_cases hrest : rest = []
      · subst hrest
        exact .inr ⟨head, List.mem_cons_self, by simpa [join] using hletter⟩
      · have happend := @join_append _ separator [head] rest (List.cons_ne_nil _ _) hrest
        rw [List.singleton_append] at happend
        rw [happend, List.mem_append, List.mem_cons] at hletter
        rcases hletter with hhead | hsep | hmore
        · exact .inr ⟨head, List.mem_cons_self, by simpa [join] using hhead⟩
        · exact .inl hsep
        · refine (ih hmore).imp_right ?_
          rintro ⟨segment, hsegment, hmem⟩
          exact ⟨segment, List.mem_cons_of_mem _ hsegment, hmem⟩

theorem mem_of_mem_segments {path segment : List α} {letter : α}
    (hsegment : segment ∈ segments separator path) (hletter : letter ∈ segment) : letter ∈ path := by
  have hsplit : segment ∈ path.splitOn separator := List.mem_of_mem_filter hsegment
  have hjoin : join separator (path.splitOn separator) = path :=
    List.intercalate_splitOn separator
  rw [← hjoin]
  exact mem_join hsplit hletter

/-- A path below another one has its segments first, and more behind them. -/
theorem prefix_join_iff {first second : List (List α)} (hne : first ≠ [])
    (hfirst : ∀ segment ∈ first, Segment separator segment)
    (hsecond : ∀ segment ∈ second, Segment separator segment) :
    join separator first ++ [separator] <+: join separator second
      ↔ ∃ rest, rest ≠ [] ∧ second = first ++ rest := by
  constructor
  · rintro ⟨tail, htail⟩
    rw [List.append_assoc, List.singleton_append] at htail
    have hsegments := @segments_append_cons _ _ separator (join separator first) tail
    rw [htail, segments_join hsecond, segments_join hfirst] at hsegments
    refine ⟨segments separator tail, ?_, hsegments⟩
    intro hempty
    rw [hempty, List.append_nil] at hsegments
    have hlength := congrArg List.length htail
    rw [hsegments, List.length_append, List.length_cons] at hlength
    omega
  · rintro ⟨rest, hrest, rfl⟩
    refine ⟨join separator rest, ?_⟩
    rw [join_append hne hrest, List.append_assoc, List.singleton_append]

/-- A path begins with its first segment, and has a separator if there are more. -/
theorem takeWhile_join {segment : List α} {rest : List (List α)}
    (hsegment : Segment separator segment) :
    (join separator (segment :: rest)).takeWhile (· ≠ separator) = segment
      ∧ (separator ∈ join separator (segment :: rest) ↔ rest ≠ []) := by
  have hkept : ∀ letter ∈ segment, decide (letter ≠ separator) = true := by
    intro letter hmem
    rw [decide_eq_true_eq]
    rintro rfl
    exact hsegment.2 hmem
  by_cases hrest : rest = []
  · subst hrest
    have hjoin : join separator [segment] = segment := by simp [join]
    rw [hjoin]
    refine ⟨List.takeWhile_eq_self_iff.mpr hkept, iff_of_false hsegment.2 (by simp)⟩
  · have hjoin : join separator (segment :: rest) = segment ++ separator :: join separator rest := by
      have happend := @join_append _ separator [segment] rest (List.cons_ne_nil _ _) hrest
      simpa [join] using happend
    rw [hjoin, List.takeWhile_append_of_pos hkept]
    refine ⟨by simp, iff_of_true (by simp) hrest⟩

end Path

import Mathlib.Data.List.Perm.Basic

/-!
# Tables of tests

A table is searched for the first entry whose test succeeds. Where the tests exclude each other, that is the only
one, and the order of the table does not matter.
-/

namespace FirstMatch

variable {α : Type} {table other : List α} {test : α → Bool}

/-- No two entries succeed. -/
def Exclusive (table : List α) (test : α → Bool) : Prop :=
  ∀ first ∈ table, ∀ second ∈ table, test first = true → test second = true → first = second

theorem find?_eq_some_iff (hexclusive : Exclusive table test) (entry : α) :
    table.find? test = some entry ↔ entry ∈ table ∧ test entry = true := by
  constructor
  · intro hfound
    exact ⟨List.mem_of_find?_eq_some hfound, List.find?_some hfound⟩
  · rintro ⟨hmem, htest⟩
    cases hfound : table.find? test with
    | none => exact absurd htest (List.find?_eq_none.mp hfound entry hmem)
    | some first =>
        have hsame := hexclusive first (List.mem_of_find?_eq_some hfound) entry hmem
          (List.find?_some hfound) htest
        rw [hsame]

theorem Exclusive.perm (hexclusive : Exclusive table test) (hperm : other.Perm table) :
    Exclusive other test := by
  intro first hfirst second hsecond
  exact hexclusive first (hperm.mem_iff.mp hfirst) second (hperm.mem_iff.mp hsecond)

theorem find?_perm (hexclusive : Exclusive table test) (hperm : other.Perm table) :
    other.find? test = table.find? test := by
  apply Option.ext
  intro entry
  rw [find?_eq_some_iff (hexclusive.perm hperm), find?_eq_some_iff hexclusive, hperm.mem_iff]

end FirstMatch

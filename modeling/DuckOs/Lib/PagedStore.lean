import DuckOs.Lib.ByteStore

/-!
# Images in pages

An image is laid out over pages that may lie anywhere in a store, as long as they do not overlap.
Seen through the list of pages it is one stretch of bytes, and a write into one page is a write at one
place of the image.
-/

namespace PagedStore

open ByteStore

/-- The bytes of the pages, one page behind the other. -/
def view (pageSize : Nat) (pages : Nat → Nat) (store : Store) : Store :=
  fun offset => store (pages (offset / pageSize) + offset % pageSize)

/-- The first `count` pages do not overlap. -/
def Apart (pageSize : Nat) (pages : Nat → Nat) (count : Nat) : Prop :=
  ∀ first < count, ∀ second < count, first ≠ second →
    pages first + pageSize ≤ pages second ∨ pages second + pageSize ≤ pages first

variable {pageSize count : Nat} {pages : Nat → Nat} {store : Store} {data : List UInt8}

/-- Aligned pages at different addresses do not overlap. -/
theorem apart_of_aligned (haligned : ∀ index < count, pageSize ∣ pages index)
    (hinj : ∀ first < count, ∀ second < count, pages first = pages second → first = second) :
    Apart pageSize pages count := by
  intro first hfirst second hsecond hne
  obtain ⟨low, hlow⟩ := haligned first hfirst
  obtain ⟨high, hhigh⟩ := haligned second hsecond
  rw [hlow, hhigh]
  have hdistinct : low ≠ high := by
    intro heq
    apply hne
    apply hinj first hfirst second hsecond
    rw [hlow, hhigh, heq]
  rcases Nat.lt_or_gt_of_ne hdistinct with hlt | hgt
  · left
    calc pageSize * low + pageSize = pageSize * (low + 1) := (Nat.mul_succ _ _).symm
      _ ≤ pageSize * high := Nat.mul_le_mul_left _ hlt
  · right
    calc pageSize * high + pageSize = pageSize * (high + 1) := (Nat.mul_succ _ _).symm
      _ ≤ pageSize * low := Nat.mul_le_mul_left _ hgt

theorem div_lt_of_lt_mul {offset : Nat} (hoffset : offset < count * pageSize) :
    offset / pageSize < count ∧ offset % pageSize < pageSize := by
  have hpos : 0 < pageSize := by
    apply Nat.pos_of_ne_zero
    rintro rfl
    omega
  exact ⟨Nat.div_lt_of_lt_mul (by rwa [Nat.mul_comm]), Nat.mod_lt _ hpos⟩

theorem view_patch (hapart : Apart pageSize pages count) {index start : Nat} (hindex : index < count)
    (hfits : start + data.length ≤ pageSize) :
    AgreeBelow (count * pageSize) (view pageSize pages (patch store (pages index + start) data))
      (patch (view pageSize pages store) (index * pageSize + start) data) := by
  intro offset hoffset
  obtain ⟨hpage, hmod⟩ := div_lt_of_lt_mul hoffset
  have hsplit := Nat.div_add_mod' offset pageSize
  unfold view
  by_cases hsame : offset / pageSize = index
  · rw [hsame] at hsplit ⊢
    by_cases hbefore : offset % pageSize < start
    · rw [patch_of_lt (by omega), patch_of_lt (by omega), hsame]
    by_cases hafter : start + data.length ≤ offset % pageSize
    · rw [patch_of_le (by omega), patch_of_le (by omega), hsame]
    obtain ⟨position, hposition⟩ := Nat.exists_eq_add_of_le (Nat.le_of_not_lt hbefore)
    have hinside : position < data.length := by omega
    rw [hposition, ← Nat.add_assoc, patch_add hinside, ← hsplit, hposition, ← Nat.add_assoc,
      patch_add hinside]
  · have hother := hapart _ hpage index hindex hsame
    have hle : offset / pageSize < index ∨ index < offset / pageSize := Nat.lt_or_gt_of_ne hsame
    have houtside : offset < index * pageSize + start
        ∨ index * pageSize + start + data.length ≤ offset := by
      rcases hle with hlt | hgt
      · left
        have hmul := Nat.mul_le_mul_right pageSize hlt
        rw [Nat.succ_mul] at hmul
        omega
      · right
        have hmul := Nat.mul_le_mul_right pageSize hgt
        rw [Nat.succ_mul] at hmul
        omega
    have hread : patch (fun offset => store (pages (offset / pageSize) + offset % pageSize))
        (index * pageSize + start) data offset
          = store (pages (offset / pageSize) + offset % pageSize) := by
      rcases houtside with hlow | hhigh
      · exact patch_of_lt hlow
      · exact patch_of_le hhigh
    rw [hread]
    rcases hother with hlow | hhigh
    · exact patch_of_lt (by omega)
    · exact patch_of_le (by omega)

theorem view_patch_outside {start : Nat}
    (houtside : ∀ index < count, pages index + pageSize ≤ start ∨ start + data.length ≤ pages index) :
    AgreeBelow (count * pageSize) (view pageSize pages (patch store start data))
      (view pageSize pages store) := by
  intro offset hoffset
  obtain ⟨hpage, hmod⟩ := div_lt_of_lt_mul hoffset
  unfold view
  rcases houtside _ hpage with hlow | hhigh
  · exact patch_of_lt (by omega)
  · exact patch_of_le (by omega)

end PagedStore

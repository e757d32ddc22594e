import DuckOs.Fs.FileRun

/-!
# Normalized paths

`vfs_normalize_path` joins the segments of a path with single separators. It refuses the segments `.`
and `..` and results that do not fit its buffer.
-/

namespace DuckOs

open Path

/-- What `vfs_normalize_path` accepts. -/
structure PathOk (list : List (List UInt8)) : Prop where
  segment : ∀ segment ∈ list, Segment pathSeparator segment
  no_dots : ∀ segment ∈ list, pathDotSegment segment = false
  short : (vfsJoin list).length < vfsPathMax

theorem PathOk.left {first second : List (List UInt8)} (hok : PathOk (first ++ second)) :
    PathOk first where
  segment := fun segment hmem => hok.segment segment (List.mem_append_left _ hmem)
  no_dots := fun segment hmem => hok.no_dots segment (List.mem_append_left _ hmem)
  short := (length_join_le first second).trans_lt hok.short

theorem pathOk_nil : PathOk [] where
  segment := fun _ hmem => absurd hmem List.not_mem_nil
  no_dots := fun _ hmem => absurd hmem List.not_mem_nil
  short := by decide

theorem vfsJoin_concat {done : List (List UInt8)}
    (hdone : ∀ segment ∈ done, Segment pathSeparator segment) (segment : List UInt8) :
    vfsJoin (done ++ [segment])
      = (if vfsJoin done ≠ [] then vfsJoin done ++ [pathSeparator] else vfsJoin done) ++ segment := by
  by_cases hempty : done = []
  · subst hempty
    simp [vfsJoin, join]
  · have hne : vfsJoin done ≠ [] := fun heq => hempty (join_eq_nil hdone heq)
    rw [if_pos hne, vfsJoin, join_concat hempty, List.append_assoc]
    rfl

/-- The loop accepts the rest of a path exactly when the whole list of segments is acceptable. -/
theorem vfsNormalizeLoop_iff (fuel : Nat) (path : List UInt8) (done : List (List UInt8))
    (hdone : PathOk done) (hstart : path.head? ≠ some pathSeparator) (hfuel : path.length ≤ fuel)
    (result : List UInt8) :
    vfsNormalizeLoop fuel path (vfsJoin done) = some result
      ↔ PathOk (done ++ vfsSegments path) ∧ result = vfsJoin (done ++ vfsSegments path) := by
  induction fuel generalizing path done with
  | zero =>
      have hnil : path = [] := List.length_eq_zero_iff.mp (Nat.le_zero.mp hfuel)
      subst hnil
      simp [vfsNormalizeLoop, vfsSegments, hdone, eq_comm]
  | succ fuel ih =>
      cases path with
      | nil => simp [vfsNormalizeLoop, vfsSegments, hdone, eq_comm]
      | cons head rest =>
          have hhead : head ≠ pathSeparator := by simpa using hstart
          have htake : Segment pathSeparator ((head :: rest).takeWhile (· ≠ pathSeparator)) ∧ _ :=
            segments_takeWhile hhead
          rw [vfsNormalizeLoop, if_neg (List.cons_ne_nil _ _)]
          dsimp only
          generalize (head :: rest).takeWhile (· ≠ pathSeparator) = segment at htake ⊢
          obtain ⟨hsegment, hsegments⟩ := htake
          generalize htail : ((head :: rest).drop segment.length).dropWhile (· = pathSeparator)
            = tail at *
          have hpath : done ++ vfsSegments (head :: rest)
              = (done ++ [segment]) ++ vfsSegments tail := by
            rw [vfsSegments, hsegments, vfsSegments, ← htail, segments_dropWhile,
              List.append_cons]
          have hjoin := vfsJoin_concat hdone.segment segment
          rw [hpath]
          by_cases hdot : pathDotSegment segment = true
          · rw [if_pos hdot]
            refine iff_of_false (by simp) fun hok => ?_
            have hplain := hok.1.no_dots segment (by simp)
            rw [hplain] at hdot
            cases hdot
          rw [if_neg hdot]
          by_cases hlong : vfsPathMax ≤ (vfsJoin (done ++ [segment])).length
          · have hlength := hlong
            rw [hjoin, List.length_append] at hlength
            rw [if_pos hlength, ite_self]
            refine iff_of_false (by simp) fun hok => ?_
            exact absurd hok.1.left.short (Nat.not_lt.mpr hlong)
          · have hroom : ¬ (vfsJoin done ≠ [] ∧ vfsPathMax ≤ (vfsJoin done).length + 1) := by
              rintro ⟨hne, hfull⟩
              rw [hjoin, if_pos hne, List.length_append, List.length_append] at hlong
              simp only [List.length_singleton] at hlong
              omega
            have hlength := hlong
            rw [hjoin, List.length_append] at hlength
            rw [if_neg hroom, if_neg hlength, ← hjoin]
            apply ih
            · refine ⟨?_, ?_, Nat.lt_of_not_le hlong⟩
              · intro other hmem
                rcases List.mem_append.mp hmem with hold | hnew
                · exact hdone.segment other hold
                · rw [List.mem_singleton.mp hnew]
                  exact hsegment
              · intro other hmem
                rcases List.mem_append.mp hmem with hold | hnew
                · exact hdone.no_dots other hold
                · rw [List.mem_singleton.mp hnew]
                  exact Bool.eq_false_iff.mpr hdot
            · intro hsep
              have hfirst := List.head?_dropWhile_not (· = pathSeparator)
                ((head :: rest).drop segment.length)
              rw [htail, hsep] at hfirst
              simp at hfirst
            · have hpos := List.length_pos_iff.mpr hsegment.1
              have hle := List.Sublist.length_le (List.dropWhile_sublist (· = pathSeparator)
                (l := (head :: rest).drop segment.length))
              rw [htail, List.length_drop] at hle
              omega

/-- A normalized path is the join of the segments of the path. -/
theorem vfsNormalizePath_iff (path : List UInt8) (allowRoot : Bool) (result : List UInt8) :
    vfsNormalizePath path allowRoot = some result
      ↔ PathOk (vfsSegments path) ∧ (vfsSegments path = [] → allowRoot = true)
        ∧ result = vfsJoin (vfsSegments path) := by
  have hsegments : vfsSegments (path.dropWhile (· = pathSeparator)) = vfsSegments path :=
    segments_dropWhile path
  have hfirst := List.head?_dropWhile_not (· = pathSeparator) path
  unfold vfsNormalizePath
  dsimp only
  generalize path.dropWhile (· = pathSeparator) = rest at *
  rw [← hsegments]
  by_cases hempty : rest = []
  · subst hempty
    cases allowRoot with
    | false => simp [vfsSegments]
    | true => simp [vfsSegments, pathOk_nil, vfsJoin, join, eq_comm]
  · rw [if_neg hempty]
    have hstart : rest.head? ≠ some pathSeparator := by
      intro hsep
      rw [hsep] at hfirst
      simp at hfirst
    have hloop := vfsNormalizeLoop_iff rest.length rest [] pathOk_nil hstart (Nat.le_refl _) result
    have hbuffer : vfsJoin [] = [] := rfl
    rw [List.nil_append, hbuffer] at hloop
    have hsome : vfsSegments rest ≠ [] := by
      cases rest with
      | nil => exact absurd rfl hempty
      | cons head tail =>
          have hhead : head ≠ pathSeparator := by simpa using hstart
          rw [vfsSegments, (segments_takeWhile hhead).2]
          exact List.cons_ne_nil _ _
    simpa [hsome] using hloop

theorem vfsNormalizePath_idem {path normalized : List UInt8} {allowRoot : Bool}
    (hnormalized : vfsNormalizePath path allowRoot = some normalized) :
    vfsNormalizePath normalized allowRoot = some normalized := by
  rw [vfsNormalizePath_iff] at hnormalized ⊢
  obtain ⟨hok, hroot, rfl⟩ := hnormalized
  have hsegments : vfsSegments (vfsJoin (vfsSegments path)) = vfsSegments path :=
    segments_join hok.segment
  rw [hsegments]
  exact ⟨hok, hroot, rfl⟩

end DuckOs

import DuckOs.Fs.VfsBuffer
import DuckOs.Proof.VfsPath

/-!
# What normalizing a path writes

The writes of `vfs_normalize_path` stay inside the 64 bytes of the buffer, and what they leave there is
the join of the segments with a terminator. The 32-bit lengths do not wrap around, since the buffer
never holds more bytes than have been read from the path.
-/

namespace DuckOs

open ByteStore Path

/-- A string that the buffer holds is a prefix of it with a terminator. -/
def HoldsString (store : Store) (string : List UInt8) : Prop :=
  slice store 0 (string.length + 1) = string ++ [0]

theorem slice_append_patch {store : Store} {filled bytes : List UInt8}
    (hfilled : slice store 0 filled.length = filled) :
    slice (patch store filled.length bytes) 0 (filled ++ bytes).length = filled ++ bytes := by
  rw [slice_eq_append_iff, Nat.zero_add]
  refine ⟨?_, slice_patch_self⟩
  rw [slice_patch_of_disjoint (Or.inl (by omega)), hfilled]

/-- Room for what is left of the path and a separator before it. -/
def NormalizeRoom (filled path : List UInt8) : Prop :=
  filled.length < vfsPathMax
    ∧ (path ≠ [] → (if filled = [] then 0 else filled.length + 1) + path.length < 2 ^ 32)

/-- What the loop writes, against the list that it builds. -/
structure LoopWrites (filled : List UInt8) (outcome : Option (List UInt8))
    (run : Bool × BufferWrites) : Prop where
  returns : run.1 = outcome.isSome
  inside : ∀ write ∈ run.2, write.1 + write.2.length ≤ vfsPathMax
  holds : ∀ result, outcome = some result → ∀ store, slice store 0 filled.length = filled →
    HoldsString (patchAll store run.2) result

theorem loopWrites_done {filled : List UInt8} (hfilled : filled.length < vfsPathMax) :
    LoopWrites filled (some filled) (true, [(filled.length, [0])]) where
  returns := rfl
  inside := by
    intro write hwrite
    rw [List.mem_singleton.mp hwrite]
    exact hfilled
  holds := by
    rintro result hresult store hstore
    cases hresult
    have happend := @slice_append_patch store filled [0] hstore
    rwa [List.length_append] at happend

theorem loopWrites_fail {filled : List UInt8} {writes : BufferWrites}
    (hinside : ∀ write ∈ writes, write.1 + write.2.length ≤ vfsPathMax) :
    LoopWrites filled none (false, writes) where
  returns := rfl
  inside := hinside
  holds := fun _ hresult => nomatch hresult

/-- Bytes written behind what the buffer holds, before the rest of the loop. -/
theorem LoopWrites.prepend {filled bytes : List UInt8} {outcome : Option (List UInt8)}
    {run : Bool × BufferWrites} (hrest : LoopWrites (filled ++ bytes) outcome run)
    (hroom : (filled ++ bytes).length ≤ vfsPathMax) :
    LoopWrites filled outcome (run.1, (filled.length, bytes) :: run.2) where
  returns := hrest.returns
  inside := by
    intro write hwrite
    rcases List.mem_cons.mp hwrite with rfl | hmem
    · rwa [List.length_append] at hroom
    · exact hrest.inside write hmem
  holds := fun result hresult store hstore =>
    hrest.holds result hresult _ (slice_append_patch hstore)

/-- A path that does not start with a separator, without its first segment and the separators behind
that. -/
theorem vfsPath_tail {path segment tail : List UInt8} (hpath : path ≠ [])
    (hstart : path.head? ≠ some pathSeparator) (hsegment : path.takeWhile (· ≠ pathSeparator) = segment)
    (htail : (path.drop segment.length).dropWhile (· = pathSeparator) = tail) :
    segment ≠ [] ∧ segment.length ≤ path.length ∧ tail.head? ≠ some pathSeparator
      ∧ (tail ≠ [] → segment.length + 1 + tail.length ≤ path.length) := by
  have hsplit := List.takeWhile_append_dropWhile (p := (· ≠ pathSeparator)) (l := path)
  rw [hsegment] at hsplit
  have hdrop : path.drop segment.length = path.dropWhile (· ≠ pathSeparator) := by
    conv_lhs => rw [← hsplit]
    exact List.drop_left
  have hlength := congrArg List.length hsplit
  rw [List.length_append] at hlength
  rw [hdrop] at htail
  refine ⟨?_, by omega, ?_, ?_⟩
  · cases path with
    | nil => exact absurd rfl hpath
    | cons head rest =>
        have hhead : head ≠ pathSeparator := by simpa using hstart
        rw [← hsegment, List.takeWhile_cons_of_pos (by simpa using hhead)]
        exact List.cons_ne_nil _ _
  · intro hsep
    have hfirst := List.head?_dropWhile_not (· = pathSeparator)
      (path.dropWhile (· ≠ pathSeparator))
    rw [htail, hsep] at hfirst
    simp at hfirst
  · intro hne
    cases hrest : path.dropWhile (· ≠ pathSeparator) with
    | nil =>
        rw [hrest] at htail
        exact absurd htail.symm hne
    | cons head rest =>
        have hhead : head = pathSeparator := by
          have hfirst := List.head?_dropWhile_not (· ≠ pathSeparator) path
          rw [hrest] at hfirst
          simpa using hfirst
        rw [hrest, List.dropWhile_cons_of_pos (by simpa using hhead)] at htail
        have hle := List.Sublist.length_le (List.dropWhile_sublist (· = pathSeparator) (l := rest))
        rw [htail] at hle
        rw [hrest, List.length_cons] at hlength
        omega

/-- One segment behind what the buffer holds. -/
theorem LoopWrites.segment {fuel : Nat} {filled segment tail : List UInt8}
    (hwide : filled.length + segment.length < 2 ^ 32)
    (hrest : filled.length + segment.length < vfsPathMax →
      LoopWrites (filled ++ segment) (vfsNormalizeLoop fuel tail (filled ++ segment))
        (vfsNormalizeWriteLoop fuel tail (filled ++ segment).length)) :
    LoopWrites filled
      (if vfsPathMax ≤ filled.length + segment.length then none
        else vfsNormalizeLoop fuel tail (filled ++ segment))
      (if vfsPathMax ≤ (filled.length + segment.length) % 2 ^ 32 then (false, [])
        else
          ((vfsNormalizeWriteLoop fuel tail ((filled.length + segment.length) % 2 ^ 32)).1,
            (filled.length, segment)
              :: (vfsNormalizeWriteLoop fuel tail ((filled.length + segment.length) % 2 ^ 32)).2)) := by
  rw [Nat.mod_eq_of_lt hwide]
  by_cases hlong : vfsPathMax ≤ filled.length + segment.length
  · rw [if_pos hlong, if_pos hlong]
    exact loopWrites_fail fun write hwrite => absurd hwrite List.not_mem_nil
  · rw [if_neg hlong, if_neg hlong]
    have hsegment := hrest (Nat.lt_of_not_le hlong)
    rw [List.length_append] at hsegment
    apply hsegment.prepend
    rw [List.length_append]
    omega

/-- A segment takes as many bytes into the buffer as from the path, the separator before it too unless it
is the first. -/
theorem NormalizeRoom.tail {filled before path segment tail : List UInt8}
    (hroom : NormalizeRoom filled path) (hpath : path ≠ []) (hne : segment ≠ [])
    (hshorter : tail ≠ [] → segment.length + 1 + tail.length ≤ path.length)
    (hbefore : before.length = filled.length ∨ filled ≠ [] ∧ before.length = filled.length + 1)
    (hshort : before.length + segment.length < vfsPathMax) :
    NormalizeRoom (before ++ segment) tail := by
  have hwide := hroom.2 hpath
  refine ⟨by rwa [List.length_append], fun htail => ?_⟩
  have hless := hshorter htail
  rw [if_neg (List.append_ne_nil_of_right_ne_nil _ hne), List.length_append]
  by_cases hfilled : filled = []
  · rw [if_pos hfilled] at hwide
    rw [hfilled, List.length_nil] at hbefore
    obtain hnil | ⟨hsome, -⟩ := hbefore
    · omega
    · exact absurd rfl hsome
  · rw [if_neg hfilled] at hwide
    omega

theorem vfsNormalizeWriteLoop_writes (fuel : Nat) :
    ∀ (path filled : List UInt8), NormalizeRoom filled path →
      path.head? ≠ some pathSeparator →
      LoopWrites filled (vfsNormalizeLoop fuel path filled)
        (vfsNormalizeWriteLoop fuel path filled.length) := by
  induction fuel with
  | zero =>
      intro path filled hroom _
      exact loopWrites_done hroom.1
  | succ fuel ih =>
      intro path filled hroom hstart
      rw [vfsNormalizeLoop, vfsNormalizeWriteLoop]
      by_cases hempty : path = []
      · rw [if_pos hempty, if_pos hempty]
        exact loopWrites_done hroom.1
      rw [if_neg hempty, if_neg hempty]
      dsimp only
      generalize hsegment : path.takeWhile (· ≠ pathSeparator) = segment
      have hwide := hroom.2 hempty
      generalize htail : (path.drop segment.length).dropWhile (· = pathSeparator) = tail
      obtain ⟨hne, hle, hstartTail, hshorter⟩ := vfsPath_tail hempty hstart hsegment htail
      have hsegmentLength : segment.length % 2 ^ 32 = segment.length := Nat.mod_eq_of_lt (by omega)
      rw [hsegmentLength, htail, List.take_length]
      have hrest : ∀ before : List UInt8,
          (before.length = filled.length ∨ filled ≠ [] ∧ before.length = filled.length + 1) →
          before.length + segment.length < vfsPathMax →
          LoopWrites (before ++ segment) (vfsNormalizeLoop fuel tail (before ++ segment))
            (vfsNormalizeWriteLoop fuel tail (before ++ segment).length) :=
        fun before hbefore hshort =>
          ih tail (before ++ segment) (hroom.tail hempty hne hshorter hbefore hshort) hstartTail
      by_cases hdot : pathDotSegment segment = true
      · rw [if_pos hdot, if_pos hdot]
        exact loopWrites_fail fun write hwrite => absurd hwrite List.not_mem_nil
      rw [if_neg hdot, if_neg hdot]
      by_cases hfilled : filled = []
      · subst hfilled
        rw [if_pos rfl] at hwide
        simp only [ne_eq, not_true_eq_false, List.length_nil, false_and, if_false, List.nil_append]
        have hstep := @LoopWrites.segment fuel [] segment tail (by rw [List.length_nil]; omega)
          (hrest [] (.inl rfl))
        simpa using hstep
      · rw [if_neg hfilled] at hwide
        have hlength : filled.length ≠ 0 := fun hzero => hfilled (List.length_eq_zero_iff.mp hzero)
        have hnext : (filled.length + 1) % 2 ^ 32 = (filled ++ [pathSeparator]).length := by
          rw [List.length_append, List.length_singleton, Nat.mod_eq_of_lt (by omega)]
        rw [if_pos hfilled, if_pos hlength, if_pos hlength]
        by_cases hfull : vfsPathMax ≤ filled.length + 1
        · have hnextFull : vfsPathMax ≤ (filled.length + 1) % 2 ^ 32 := by
            rwa [Nat.mod_eq_of_lt (by omega)]
          rw [if_pos ⟨hfilled, hfull⟩, if_pos ⟨hlength, hnextFull⟩]
          exact loopWrites_fail fun write hwrite => absurd hwrite List.not_mem_nil
        have hsmall : ¬ (filled.length ≠ 0 ∧ vfsPathMax ≤ (filled.length + 1) % 2 ^ 32) := by
          rintro ⟨-, hlarge⟩
          rw [hnext, List.length_append, List.length_singleton] at hlarge
          exact hfull hlarge
        rw [if_neg (fun hboth => hfull hboth.2), if_neg hsmall, hnext]
        have hstep := @LoopWrites.segment fuel (filled ++ [pathSeparator]) segment tail
          (by rw [List.length_append, List.length_singleton]; omega)
          (hrest _ (.inr ⟨hfilled, List.length_append⟩))
        have hboth := hstep.prepend (by rw [List.length_append, List.length_singleton]; omega)
        by_cases hlong : vfsPathMax
            ≤ ((filled ++ [pathSeparator]).length + segment.length) % 2 ^ 32
        · rw [if_pos hlong] at hboth ⊢
          exact hboth
        · rw [if_neg hlong] at hboth ⊢
          exact hboth

/-! ### The whole function -/

theorem vfsNormalizeWrite_writes (path : CString) (allowRoot : Bool) :
    LoopWrites [] (vfsNormalizePath path.bytes allowRoot) (vfsNormalizeWrite path.bytes allowRoot) := by
  have hfirst := List.head?_dropWhile_not (· = pathSeparator) path.bytes
  have hle := List.Sublist.length_le
    (List.dropWhile_sublist (· = pathSeparator) (l := path.bytes))
  have hlength := path.representable
  unfold vfsNormalizePath vfsNormalizeWrite
  dsimp only
  generalize path.bytes.dropWhile (· = pathSeparator) = rest at *
  by_cases hempty : rest = []
  · rw [if_pos hempty, if_pos hempty]
    cases allowRoot with
    | true => exact loopWrites_done (by decide)
    | false => exact loopWrites_fail fun write hwrite => absurd hwrite List.not_mem_nil
  · rw [if_neg hempty, if_neg hempty]
    refine vfsNormalizeWriteLoop_writes rest.length rest [] ⟨by decide, fun _ => ?_⟩ ?_
    · rw [if_pos rfl]
      omega
    · intro hsep
      rw [hsep] at hfirst
      simp at hfirst

/-- What a path has to be for `vfs_normalize_path` to return 0. -/
def Normalizes (path : List UInt8) (allowRoot : Bool) : Prop :=
  (∀ segment ∈ vfsSegments path, pathDotSegment segment = false)
    ∧ (vfsJoin (vfsSegments path)).length ≤ 63
    ∧ (vfsSegments path ≠ [] ∨ allowRoot = true)

theorem vfsNormalizePath_isSome (path : List UInt8) (allowRoot : Bool) :
    (vfsNormalizePath path allowRoot).isSome = true ↔ Normalizes path allowRoot := by
  rw [Option.isSome_iff_exists]
  constructor
  · rintro ⟨result, hresult⟩
    obtain ⟨hok, hroot, -⟩ := (vfsNormalizePath_iff path allowRoot result).mp hresult
    refine ⟨hok.no_dots, Nat.le_of_lt_succ hok.short, ?_⟩
    by_cases hempty : vfsSegments path = []
    · exact .inr (hroot hempty)
    · exact .inl hempty
  · rintro ⟨hdots, hshort, hroot⟩
    refine ⟨vfsJoin (vfsSegments path), (vfsNormalizePath_iff path allowRoot _).mpr ⟨⟨?_, hdots, ?_⟩,
      ?_, rfl⟩⟩
    · exact fun segment hmem => segment_of_mem hmem
    · exact Nat.lt_succ_of_le hshort
    · exact fun hempty => hroot.resolve_left (not_not.mpr hempty)

theorem vfsNormalizePath_congr {path other : List UInt8} (hsegments : vfsSegments path = vfsSegments other)
    (allowRoot : Bool) : vfsNormalizePath path allowRoot = vfsNormalizePath other allowRoot := by
  apply Option.ext
  intro result
  rw [vfsNormalizePath_iff, vfsNormalizePath_iff, hsegments]

/-- What `vfs_normalize_path` does: when it returns 0, what it leaves in the buffer, and that the buffer
normalizes to itself. Paths with the same segments cannot be told apart by what takes a path. -/
theorem vfsNormalizePath_spec (path : CString) (allowRoot : Bool) :
    ((vfsNormalizeWrite path.bytes allowRoot).1 = true ↔ Normalizes path.bytes allowRoot)
      ∧ (∀ write ∈ (vfsNormalizeWrite path.bytes allowRoot).2,
        ∀ index < write.2.length, write.1 + index ≤ 63)
      ∧ ((vfsNormalizeWrite path.bytes allowRoot).1 = true →
        ∃ result : CString, result.bytes = vfsJoin (vfsSegments path.bytes)
          ∧ (∀ buffer, HoldsString (patchAll buffer (vfsNormalizeWrite path.bytes allowRoot).2)
            result.bytes)
          ∧ (vfsNormalizeWrite result.bytes allowRoot).1 = true
          ∧ ∀ buffer, HoldsString (patchAll buffer (vfsNormalizeWrite result.bytes allowRoot).2)
            result.bytes)
      ∧ ∀ other : CString, vfsSegments other.bytes = vfsSegments path.bytes →
        ∀ (vfs : VfsState) (stale : Nat → Store) (maxSize : Nat),
          vfsStat vfs other.bytes = vfsStat vfs path.bytes
            ∧ vfsList vfs stale other.bytes = vfsList vfs stale path.bytes
            ∧ vfsReadFile vfs other.bytes maxSize = vfsReadFile vfs path.bytes maxSize := by
  have hwrites := vfsNormalizeWrite_writes path allowRoot
  refine ⟨?_, ?_, ?_, ?_⟩
  · rw [hwrites.returns, vfsNormalizePath_isSome]
  · intro write hwrite index hindex
    have hinside := hwrites.inside write hwrite
    rw [vfsPathMax] at hinside
    omega
  · intro hreturns
    rw [hwrites.returns, Option.isSome_iff_exists] at hreturns
    obtain ⟨bytes, hbytes⟩ := hreturns
    obtain ⟨hok, -, hjoin⟩ := (vfsNormalizePath_iff path.bytes allowRoot bytes).mp hbytes
    have hnul : 0 ∉ bytes := by
      intro hmem
      rw [hjoin] at hmem
      rcases mem_of_mem_join hmem with hsep | ⟨segment, hsegment, hletter⟩
      · exact absurd hsep (by decide)
      · exact path.nulFree (mem_of_mem_segments hsegment hletter)
    have hshort : bytes.length < 2 ^ 32 := by
      rw [hjoin]
      exact hok.short.trans (by decide)
    have hagain := vfsNormalizeWrite_writes ⟨bytes, hnul, hshort⟩ allowRoot
    have hidem := vfsNormalizePath_idem hbytes
    refine ⟨⟨bytes, hnul, hshort⟩, hjoin, ?_, ?_, ?_⟩
    · exact fun buffer => hwrites.holds bytes hbytes buffer rfl
    · rw [hagain.returns, hidem]
      rfl
    · exact fun buffer => hagain.holds bytes hidem buffer rfl
  · intro other hsegments vfs stale maxSize
    have hcongr := vfsNormalizePath_congr hsegments
    refine ⟨?_, ?_, ?_⟩
    · rw [vfsStat, vfsStat, hcongr]
    · rw [vfsList, vfsList, hcongr]
    · rw [vfsReadFile, vfsReadFile, hcongr]

end DuckOs

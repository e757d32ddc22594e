import DuckOs.Fs.VfsList
import DuckOs.Proof.Tinyfs

/-!
# The views of the file tree agree

Names are lists of segments. A child of a directory is the segment behind the directory's own, and it
is a directory when more segments follow. All the functions that look for directories look for that.
-/

namespace DuckOs

open ByteStore Path

/-! ### Children -/

section Children

variable {directory name : List (List UInt8)}

theorem vfsCollectChildName_root (hname : ∀ segment ∈ name, Segment pathSeparator segment) :
    vfsCollectChildName [] (vfsJoin name)
      = name[0]?.map fun child => (child, decide (1 < name.length)) := by
  cases name with
  | nil => rfl
  | cons segment rest =>
      have hsegment := hname segment List.mem_cons_self
      obtain ⟨htake, hmem⟩ := @takeWhile_join _ _ pathSeparator segment rest hsegment
      have hne : join pathSeparator (segment :: rest) ≠ [] := by
        intro hnil
        exact List.cons_ne_nil _ _ (join_eq_nil hname hnil)
      have hmore : pathSeparator ∈ join pathSeparator (segment :: rest)
          ↔ 1 < (segment :: rest).length := by
        rw [hmem, List.length_cons, ← List.length_pos_iff]
        omega
      unfold vfsCollectChildName vfsJoin
      dsimp only
      rw [if_pos rfl]
      dsimp only
      rw [if_neg hne, htake]
      simp only [hmore, List.getElem?_cons_zero, Option.map_some]

/-- The child is the segment behind those of the directory. -/
theorem vfsCollectChildName_join (hdirectory : ∀ segment ∈ directory, Segment pathSeparator segment)
    (hname : ∀ segment ∈ name, Segment pathSeparator segment) :
    vfsCollectChildName (vfsJoin directory) (vfsJoin name)
      = if directory <+: name then
          name[directory.length]?.map fun child =>
            (child, decide (directory.length + 1 < name.length))
        else none := by
  by_cases hempty : directory = []
  · subst hempty
    rw [if_pos List.nil_prefix]
    simpa [vfsJoin, join] using vfsCollectChildName_root hname
  have hjoin : vfsJoin directory ≠ [] := fun hnil => hempty (join_eq_nil hdirectory hnil)
  have hstarts : vfsJoin directory ++ [pathSeparator] <+: vfsJoin name
      ↔ ∃ rest, rest ≠ [] ∧ name = directory ++ rest := prefix_join_iff hempty hdirectory hname
  by_cases hbelow : vfsJoin directory ++ [pathSeparator] <+: vfsJoin name
  · obtain ⟨rest, hrest, rfl⟩ := hstarts.mp hbelow
    have hsegments : ∀ segment ∈ rest, Segment pathSeparator segment :=
      fun segment hmem => hname segment (List.mem_append_right _ hmem)
    have hdrop : (vfsJoin (directory ++ rest)).drop ((vfsJoin directory).length + 1)
        = vfsJoin rest := by
      unfold vfsJoin
      rw [join_append hempty hrest]
      exact List.drop_length_add_append 1
    have hroot := vfsCollectChildName_root hsegments
    unfold vfsCollectChildName at hroot ⊢
    dsimp only at hroot ⊢
    rw [if_pos rfl] at hroot
    rw [if_neg hjoin, if_pos hbelow, hdrop, if_pos (List.prefix_append _ _)]
    rw [hroot, List.getElem?_append_right (Nat.le_refl _), Nat.sub_self, List.length_append]
    simp only [Nat.add_lt_add_iff_left]
  · have hshort : ¬ directory <+: name ∨ name[directory.length]? = none := by
      by_cases hstart : directory <+: name
      · obtain ⟨rest, rfl⟩ := hstart
        have hnil : rest = [] := by
          by_contra hrest
          exact hbelow (hstarts.mpr ⟨rest, hrest, rfl⟩)
        refine .inr ?_
        rw [hnil, List.append_nil, List.getElem?_eq_none (Nat.le_refl _)]
      · exact .inl hstart
    have hnone : vfsCollectChildName (vfsJoin directory) (vfsJoin name) = none := by
      unfold vfsCollectChildName
      dsimp only
      rw [if_neg hjoin, if_neg hbelow]
    rw [hnone]
    rcases hshort with hstart | hend
    · rw [if_neg hstart]
    · rw [hend, Option.map_none, ite_self]

theorem vfsHasChild_eq (directory fileName : List UInt8) :
    vfsHasChild directory fileName = (vfsCollectChildName directory fileName).isSome := by
  unfold vfsHasChild vfsCollectChildName
  dsimp only
  by_cases hempty : directory = []
  · rw [if_pos hempty, if_pos hempty]
    dsimp only
    by_cases hname : fileName = []
    · simp [hname]
    · simp [hname]
  · rw [if_neg hempty, if_neg hempty]
    by_cases hbelow : directory ++ [pathSeparator] <+: fileName
    · rw [if_pos hbelow]
      dsimp only
      by_cases hmore : directory.length + 1 < fileName.length
      · rw [if_neg (by rw [List.drop_eq_nil_iff]; omega)]
        simp [hbelow, hmore]
      · rw [if_pos (by rw [List.drop_eq_nil_iff]; omega)]
        simp [hmore]
    · rw [if_neg hbelow]
      simp [hbelow]

end Children

/-! ### Names seen before -/

/-- The buffers of `seen` hold the names, with a NUL behind each. -/
def SeenNames (seen : List Store) (names : List (List UInt8)) : Prop :=
  List.Forall₂ (fun buffer name => slice buffer 0 (name.length + 1) = name ++ [0]) seen names

section Seen

variable {seen : List Store} {names : List (List UInt8)} {name : List UInt8}

/-- What stands behind the NUL does not matter: a longer name has another byte in its place. -/
theorem buffer_matches_iff {buffer : Store} {other : List UInt8}
    (hbuffer : slice buffer 0 (other.length + 1) = other ++ [0]) (hother : 0 ∉ other)
    (hname : 0 ∉ name) :
    (buffer name.length = 0 ∧ slice buffer 0 name.length = name) ↔ name = other := by
  have hslice : ∀ length, length ≤ other.length →
      slice buffer 0 length = other.take length := by
    intro length hle
    have htake := congrArg (List.take length) hbuffer
    rwa [take_slice, Nat.min_eq_left (by omega), List.take_append_of_le_length hle] at htake
  have hbyte : ∀ index, index ≤ other.length →
      (other ++ [0])[index]? = some (buffer index) := by
    intro index hle
    rw [← hbuffer, getElem?_slice (Nat.lt_succ_of_le hle), Nat.zero_add]
  constructor
  · rintro ⟨hend, hsame⟩
    by_cases hlong : name.length ≤ other.length
    · have hzero := hbyte name.length hlong
      rw [hend] at hzero
      by_cases hshort : name.length < other.length
      · rw [List.getElem?_append_left hshort] at hzero
        exact absurd (List.mem_of_getElem? hzero) hother
      · have hequal : name.length = other.length := by omega
        rw [← hsame, hslice _ hlong, hequal, List.take_length]
    · have hzero := hbyte other.length (Nat.le_refl _)
      rw [List.getElem?_append_right (Nat.le_refl _), Nat.sub_self] at hzero
      have hin : name[other.length]? = some (buffer other.length) := by
        rw [← hsame, getElem?_slice (by omega), Nat.zero_add]
      rw [← Option.some.inj hzero] at hin
      exact absurd (List.mem_of_getElem? hin) hname
  · rintro rfl
    have hzero := hbyte name.length (Nat.le_refl _)
    rw [List.getElem?_append_right (Nat.le_refl _), Nat.sub_self] at hzero
    exact ⟨(Option.some.inj hzero).symm, by rw [hslice _ (Nat.le_refl _), List.take_length]⟩

theorem vfsNameSeen_iff (hseen : SeenNames seen names) (hnames : ∀ other ∈ names, 0 ∉ other)
    (hname : 0 ∉ name) : vfsNameSeen seen name = true ↔ name ∈ names := by
  induction hseen with
  | nil => simp [vfsNameSeen]
  | @cons buffer other seen names hbuffer hrest ih =>
      have htail := ih fun later hmem => hnames later (List.mem_cons_of_mem _ hmem)
      have hhead := buffer_matches_iff hbuffer (hnames other List.mem_cons_self) hname
      unfold vfsNameSeen at htail ⊢
      rw [List.any_cons, Bool.or_eq_true, htail, decide_eq_true_eq, hhead, List.mem_cons]

theorem SeenNames.add (hseen : SeenNames seen names) (stale : Store) (name : List UInt8) :
    SeenNames (seen ++ [patch stale 0 (name ++ [0])]) (names ++ [name]) := by
  apply List.rel_append hseen
  refine .cons ?_ .nil
  have hpatch := @slice_patch_self stale 0 (name ++ [0])
  rwa [List.length_append, List.length_singleton] at hpatch

end Seen

/-! ### The loop -/

/-- The child that a file of the table shows in a directory. -/
def childOf (directory : List UInt8) (file : TinyfsFile) : Option VfsChild :=
  (vfsCollectChildName directory file.name).map fun found => ⟨found.1, found.2, file⟩

section Loop

variable {stale : Nat → Store} {directory : List UInt8}

/-- Every child that the loop reports is one that a file shows, and the names are those of all children
with the repetitions left out. -/
theorem vfsListLoop_eq (files : List TinyfsFile)
    (hnul : ∀ file ∈ files, ∀ child, childOf directory file = some child → 0 ∉ child.name) :
    ∀ (seen : List Store) (names : List (List UInt8)), SeenNames seen names →
      (∀ other ∈ names, 0 ∉ other) →
      (∀ child ∈ vfsListLoop stale directory (fun _ => false) files seen,
          ∃ file ∈ files, childOf directory file = some child)
        ∧ (vfsListLoop stale directory (fun _ => false) files seen).map (·.name)
          = (((files.filterMap (childOf directory)).map (·.name)).filter
              fun name => name ∉ names).eraseDups := by
  induction files with
  | nil =>
      intro seen names _ _
      exact ⟨(fun _ hmem => nomatch hmem), rfl⟩
  | cons file rest ih =>
      intro seen names hseen hnames
      have hrest := ih fun other hmem => hnul other (List.mem_cons_of_mem _ hmem)
      cases hfound : vfsCollectChildName directory file.name with
      | none =>
          have hchild : childOf directory file = none := by rw [childOf, hfound, Option.map_none]
          obtain ⟨hmembers, hlist⟩ := hrest seen names hseen hnames
          rw [vfsListLoop, hfound, List.filterMap_cons_none hchild]
          dsimp only
          refine ⟨fun child hmem => ?_, hlist⟩
          obtain ⟨other, hother, hshows⟩ := hmembers child hmem
          exact ⟨other, List.mem_cons_of_mem _ hother, hshows⟩
      | some found =>
          have hchild : childOf directory file = some ⟨found.1, found.2, file⟩ := by
            rw [childOf, hfound, Option.map_some]
          have hname := hnul file List.mem_cons_self _ hchild
          rw [vfsListLoop, hfound, List.filterMap_cons_some hchild, List.map_cons]
          dsimp only
          by_cases hold : found.1 ∈ names
          · obtain ⟨hmembers, hlist⟩ := hrest seen names hseen hnames
            rw [if_pos ((vfsNameSeen_iff hseen hnames hname).mpr hold),
              List.filter_cons_of_neg (by simpa using hold)]
            refine ⟨fun child hmem => ?_, hlist⟩
            obtain ⟨other, hother, hshows⟩ := hmembers child hmem
            exact ⟨other, List.mem_cons_of_mem _ hother, hshows⟩
          · have hmore : ∀ other ∈ names ++ [found.1], 0 ∉ other :=
              List.forall_mem_append.mpr ⟨hnames, List.forall_mem_singleton.mpr hname⟩
            obtain ⟨hmembers, hlist⟩ := hrest (seen ++ [patch (stale seen.length) 0 (found.1 ++ [0])])
              (names ++ [found.1]) (hseen.add _ _) hmore
            rw [if_neg (fun hnew => hold ((vfsNameSeen_iff hseen hnames hname).mp hnew)),
              if_neg Bool.false_ne_true, List.filter_cons_of_pos (by simpa using hold),
              List.eraseDups_cons, List.filter_filter]
            refine ⟨?_, ?_⟩
            · intro child hmem
              rcases List.mem_cons.mp hmem with rfl | hmem
              · exact ⟨file, List.mem_cons_self, hchild⟩
              · obtain ⟨other, hother, hshows⟩ := hmembers child hmem
                exact ⟨other, List.mem_cons_of_mem _ hother, hshows⟩
            · rw [List.map_cons, hlist]
              congr 2
              apply List.filter_congr
              intro name _
              rw [Bool.eq_iff_iff]
              simp [and_comm, not_or]

/-- The result does not depend on what the buffers held. -/
theorem vfsListLoop_stale {other : Nat → Store} (stops : VfsChild → Bool) (files : List TinyfsFile)
    (hnul : ∀ file ∈ files, ∀ child, childOf directory file = some child → 0 ∉ child.name) :
    ∀ (seen seenOther : List Store) (names : List (List UInt8)), SeenNames seen names →
      SeenNames seenOther names → (∀ name ∈ names, 0 ∉ name) →
      vfsListLoop stale directory stops files seen
        = vfsListLoop other directory stops files seenOther := by
  induction files with
  | nil =>
      intro seen seenOther names _ _ _
      rfl
  | cons file rest ih =>
      intro seen seenOther names hseen hseenOther hnames
      have hrest := ih fun later hmem => hnul later (List.mem_cons_of_mem _ hmem)
      rw [vfsListLoop, vfsListLoop]
      cases hfound : vfsCollectChildName directory file.name with
      | none => exact hrest seen seenOther names hseen hseenOther hnames
      | some found =>
          have hname : 0 ∉ found.1 := hnul file List.mem_cons_self ⟨found.1, found.2, file⟩
            (by rw [childOf, hfound, Option.map_some])
          have hold : vfsNameSeen seen found.1 = vfsNameSeen seenOther found.1 := by
            rw [Bool.eq_iff_iff, vfsNameSeen_iff hseen hnames hname,
              vfsNameSeen_iff hseenOther hnames hname]
          have hmore : ∀ name ∈ names ++ [found.1], 0 ∉ name :=
            List.forall_mem_append.mpr ⟨hnames, List.forall_mem_singleton.mpr hname⟩
          dsimp only
          rw [hold, hrest seen seenOther names hseen hseenOther hnames,
            hrest _ _ _ (hseen.add (stale seen.length) found.1)
              (hseenOther.add (other seenOther.length) found.1) hmore]

end Loop

/-! ### Tables -/

section Table

variable {vfs : VfsState} {path : List UInt8}

theorem VfsState.Packed.pathOk (hpacked : vfs.Packed) {file : TinyfsFile}
    (hfile : file ∈ vfs.tinyfs.files) : PathOk (vfsSegments file.name) where
  segment := fun _ hmem => segment_of_mem hmem
  no_dots := fun segment hmem => by
    have hdots := (hpacked.canonical file hfile).2.2
    rw [Bool.not_eq_true, List.any_eq_false] at hdots
    simpa using hdots segment hmem
  short := by
    rw [← (hpacked.canonical file hfile).2.1]
    exact hpacked.short file hfile

/-- What a file of the table shows in a directory, in terms of segments. -/
theorem VfsState.Packed.collectChildName (hpacked : vfs.Packed) {file : TinyfsFile}
    (hfile : file ∈ vfs.tinyfs.files) {directory : List (List UInt8)}
    (hdirectory : ∀ segment ∈ directory, Segment pathSeparator segment) :
    vfsCollectChildName (vfsJoin directory) file.name
      = if directory <+: vfsSegments file.name then
          (vfsSegments file.name)[directory.length]?.map fun child =>
            (child, decide (directory.length + 1 < (vfsSegments file.name).length))
        else none := by
  conv_lhs => rw [(hpacked.canonical file hfile).2.1]
  exact vfsCollectChildName_join hdirectory (hpacked.pathOk hfile).segment

/-- A child that a file shows: its name is the next segment, and the file is the child itself unless
there are more. -/
theorem VfsState.Packed.childOf_cases (hpacked : vfs.Packed) {file : TinyfsFile}
    (hfile : file ∈ vfs.tinyfs.files) {directory : List (List UInt8)}
    (hdirectory : ∀ segment ∈ directory, Segment pathSeparator segment) {child : VfsChild}
    (hchild : childOf (vfsJoin directory) file = some child) :
    child.file = file ∧ ∃ rest, vfsSegments file.name = directory ++ child.name :: rest
      ∧ (child.isDirectory = true ↔ rest ≠ []) := by
  rw [childOf, hpacked.collectChildName hfile hdirectory] at hchild
  split at hchild
  case isFalse => cases hchild
  rename_i hstarts
  obtain ⟨tail, htail⟩ := hstarts
  rw [← htail, List.getElem?_append_right (Nat.le_refl _), Nat.sub_self] at hchild
  cases tail with
  | nil => cases hchild
  | cons name rest =>
      cases hchild
      refine ⟨rfl, rest, htail.symm, ?_⟩
      dsimp only
      rw [decide_eq_true_eq, List.length_append, List.length_cons, ← List.length_pos_iff]
      omega

theorem VfsState.Packed.child_nulFree (hpacked : vfs.Packed) {file : TinyfsFile}
    (hfile : file ∈ vfs.tinyfs.files) {directory : List (List UInt8)}
    (hdirectory : ∀ segment ∈ directory, Segment pathSeparator segment) {child : VfsChild}
    (hchild : childOf (vfsJoin directory) file = some child) : 0 ∉ child.name := by
  obtain ⟨-, rest, hsegments, -⟩ := hpacked.childOf_cases hfile hdirectory hchild
  have hmem : child.name ∈ vfsSegments file.name := by
    rw [hsegments]
    exact List.mem_append_right _ List.mem_cons_self
  intro hzero
  apply hpacked.nulFree file hfile
  rw [(hpacked.canonical file hfile).2.1]
  exact mem_join hmem hzero

theorem VfsState.Packed.childNames_eq (hpacked : vfs.Packed) {directory : List (List UInt8)}
    (hdirectory : ∀ segment ∈ directory, Segment pathSeparator segment) :
    (vfs.tinyfs.files.filterMap (childOf (vfsJoin directory))).map (·.name)
      = (vfs.tinyfs.files.map (vfsSegments ·.name)).filterMap fun name =>
          if directory <+: name then name[directory.length]? else none := by
  rw [List.map_filterMap, List.filterMap_map]
  apply List.filterMap_congr
  intro file hfile
  rw [childOf, hpacked.collectChildName hfile hdirectory, Function.comp_apply]
  split
  · rw [Option.map_map, Option.map_map]
    exact congrFun Option.map_id _
  · rfl

theorem VfsState.Packed.find_eq (hpacked : vfs.Packed) {file : TinyfsFile}
    (hfile : file ∈ vfs.tinyfs.files) : tinyfsFind vfs.tinyfs file.name = some file := by
  unfold tinyfsFind
  rw [hpacked.tinyfs_ready, if_neg (by simp)]
  cases hfind : vfs.tinyfs.files.find? fun other => other.name = file.name with
  | none =>
      have hnone := List.find?_eq_none.mp hfind file hfile
      simp at hnone
  | some other =>
      have hname : other.name = file.name := by simpa using List.find?_some hfind
      have hinj := List.inj_on_of_nodup_map hpacked.distinct
      rw [hinj (List.mem_of_find?_eq_some hfind) hfile hname]

/-- No file has the name of a directory. -/
theorem VfsState.Packed.find_directory (hpacked : vfs.Packed) {file : TinyfsFile}
    (hfile : file ∈ vfs.tinyfs.files) {directory rest : List (List UInt8)} (hne : directory ≠ [])
    (hrest : rest ≠ []) (hsegments : vfsSegments file.name = directory ++ rest) :
    tinyfsFind vfs.tinyfs (vfsJoin directory) = none := by
  unfold tinyfsFind
  rw [hpacked.tinyfs_ready, if_neg (by simp), List.find?_eq_none]
  intro other hother hname
  rw [decide_eq_true_eq] at hname
  apply hpacked.apart other hother file hfile
  rw [hname, (hpacked.canonical file hfile).2.1]
  refine (prefix_join_iff hne ?_ (hpacked.pathOk hfile).segment).mpr ⟨rest, hrest, hsegments⟩
  intro segment hmem
  apply (hpacked.pathOk hfile).segment
  rw [hsegments]
  exact List.mem_append_left _ hmem

theorem VfsState.Packed.directoryExists_iff (hpacked : vfs.Packed) (directory : List UInt8) :
    vfsDirectoryExists vfs directory = true
      ↔ directory = [] ∨ vfs.tinyfs.files.any (vfsHasChild directory ·.name) = true := by
  unfold vfsDirectoryExists
  rw [decide_eq_true_eq]
  simp only [hpacked.tinyfs_ready, true_and, vfsHasChild_eq]

/-- `vfs_stat` reports a directory exactly for the paths of directories that exist. -/
theorem VfsState.Packed.stat_directory_iff (hpacked : vfs.Packed) (path : List UInt8) :
    (∃ info, vfsStat vfs path = some info ∧ info.flags % 2 = 1)
      ↔ ∃ normalized, vfsNormalizePath path true = some normalized
        ∧ vfsDirectoryExists vfs normalized = true := by
  unfold vfsStat
  rw [hpacked.ready, if_neg (by simp)]
  cases hnormalized : vfsNormalizePath path true with
  | none => simp
  | some normalized =>
      simp only [Option.some.injEq, exists_eq_left', hpacked.directoryExists_iff]
      by_cases hempty : normalized = []
      · rw [if_pos hempty]
        exact iff_of_true ⟨_, rfl, rfl⟩ (.inl hempty)
      rw [if_neg hempty]
      cases hfind : tinyfsFind vfs.tinyfs normalized with
      | none =>
          simp only [hpacked.tinyfs_ready, true_and, hempty, false_or]
          by_cases hany : vfs.tinyfs.files.any (vfsHasChild normalized ·.name) = true
          · rw [if_pos hany]
            exact iff_of_true ⟨_, rfl, rfl⟩ hany
          · rw [if_neg hany]
            exact iff_of_false (by simp) hany
      | some file =>
          unfold tinyfsFind at hfind
          rw [hpacked.tinyfs_ready, if_neg (by simp)] at hfind
          have hfile := List.mem_of_find?_eq_some hfind
          have hname : file.name = normalized := by simpa using List.find?_some hfind
          refine iff_of_false ?_ ?_
          · rintro ⟨info, hinfo, hodd⟩
            cases hinfo
            rw [hpacked.flags_eq file hfile] at hodd
            cases hodd
          · rintro (hroot | hany)
            · exact hempty hroot
            · obtain ⟨other, hother, hbelow⟩ := List.any_eq_true.mp hany
              unfold vfsHasChild at hbelow
              rw [if_neg hempty, decide_eq_true_eq, ← hname] at hbelow
              exact hpacked.apart file hfile other hother hbelow.1

/-- The path of a child is normalized to the directory's segments with the child behind them. -/
theorem normalizePath_child {name : List UInt8} {rest : List (List UInt8)}
    (hok : PathOk (vfsSegments path ++ name :: rest)) :
    vfsNormalizePath (path ++ pathSeparator :: name) true
      = some (vfsJoin (vfsSegments path ++ [name])) := by
  have hname := hok.segment name (List.mem_append_right _ List.mem_cons_self)
  have hsegments : vfsSegments (path ++ pathSeparator :: name) = vfsSegments path ++ [name] := by
    unfold vfsSegments
    rw [segments_append_cons, segments_of_segment hname]
  rw [vfsNormalizePath_iff, hsegments]
  rw [List.append_cons] at hok
  exact ⟨hok.left, fun _ => rfl, rfl⟩

/-- A child has the status with which it is reported. -/
theorem VfsState.Packed.stat_child (hpacked : vfs.Packed) {file : TinyfsFile}
    (hfile : file ∈ vfs.tinyfs.files) {child : VfsChild}
    (hchild : childOf (vfsJoin (vfsSegments path)) file = some child) :
    ∃ info, vfsStat vfs (path ++ pathSeparator :: child.name) = some info
      ∧ info.flags % 2 = child.info.flags % 2 ∧ info.size = child.info.size := by
  have hdirectory : ∀ segment ∈ vfsSegments path, Segment pathSeparator segment :=
    fun _ hmem => segment_of_mem hmem
  obtain ⟨hsame, rest, hsegments, hmore⟩ := hpacked.childOf_cases hfile hdirectory hchild
  have hok := hpacked.pathOk hfile
  rw [hsegments] at hok
  have hne : vfsSegments path ++ [child.name] ≠ [] := by simp
  have hjoin : vfsJoin (vfsSegments path ++ [child.name]) ≠ [] := by
    intro hnil
    rw [List.append_cons] at hok
    exact hne (join_eq_nil hok.left.segment hnil)
  unfold vfsStat
  rw [hpacked.ready, if_neg (by simp), normalizePath_child hok]
  dsimp only
  rw [if_neg hjoin]
  by_cases hrest : rest = []
  · have hname : vfsJoin (vfsSegments path ++ [child.name]) = file.name := by
      rw [(hpacked.canonical file hfile).2.1, hsegments, hrest]
    have hregular : child.isDirectory = false := by
      rw [← Bool.not_eq_true, hmore]
      simp [hrest]
    rw [hname, hpacked.find_eq hfile]
    refine ⟨_, rfl, ?_, ?_⟩
    · simp only [VfsChild.info, hregular, hsame, Bool.false_eq_true, ↓reduceIte]
    · simp only [VfsChild.info, hregular, hsame, Bool.false_eq_true, ↓reduceIte]
  · have hdirectory : child.isDirectory = true := hmore.mpr hrest
    rw [List.append_cons] at hsegments
    rw [hpacked.find_directory hfile hne hrest hsegments]
    have hbelow : vfsHasChild (vfsJoin (vfsSegments path ++ [child.name])) file.name = true := by
      rw [List.append_cons] at hok
      rw [vfsHasChild_eq, hpacked.collectChildName hfile hok.left.segment, hsegments,
        if_pos (List.prefix_append _ _), List.getElem?_append_right (Nat.le_refl _), Nat.sub_self]
      cases rest with
      | nil => exact absurd rfl hrest
      | cons next others => rfl
    have hany : vfs.tinyfs.files.any
        (vfsHasChild (vfsJoin (vfsSegments path ++ [child.name])) ·.name) = true :=
      List.any_eq_true.mpr ⟨file, hfile, hbelow⟩
    dsimp only
    rw [if_pos ⟨hpacked.tinyfs_ready, hany⟩]
    refine ⟨_, rfl, ?_, ?_⟩
    · simp only [VfsChild.info, hdirectory, ↓reduceIte]
    · simp only [VfsChild.info, hdirectory, ↓reduceIte]

/-- A listing reports the children that the files show, and nothing else. -/
theorem VfsState.Packed.listEntries_some (hpacked : vfs.Packed) {stale : Nat → Store}
    {entries : List VfsFileInfo}
    (hlist : vfsListEntries vfs stale (fun _ => false) path = some entries) :
    PathOk (vfsSegments path)
      ∧ (∃ info, vfsStat vfs path = some info ∧ info.flags % 2 = 1)
      ∧ (∀ entry ∈ entries, ∃ file ∈ vfs.tinyfs.files, ∃ child,
        childOf (vfsJoin (vfsSegments path)) file = some child ∧ child.info = entry)
      ∧ ∀ file ∈ vfs.tinyfs.files, ∀ child,
        childOf (vfsJoin (vfsSegments path)) file = some child →
          ∃ entry ∈ entries, entry.name = child.name := by
  have hdirectory := hpacked.stat_directory_iff path
  unfold vfsListEntries at hlist
  rw [hpacked.ready, if_neg (by simp), VfsState.listed, hpacked.tinyfs_ready, if_pos rfl] at hlist
  cases hnormalized : vfsNormalizePath path true with
  | none =>
      rw [hnormalized] at hlist
      cases hlist
  | some normalized =>
      rw [hnormalized] at hlist
      dsimp only at hlist
      split at hlist
      case isTrue => cases hlist
      rename_i hexists
      rw [Bool.not_eq_true', Bool.not_eq_false] at hexists
      cases hlist
      obtain ⟨hok, -, rfl⟩ := (vfsNormalizePath_iff path true normalized).mp hnormalized
      obtain ⟨hmembers, hnames⟩ := @vfsListLoop_eq stale (vfsJoin (vfsSegments path))
        vfs.tinyfs.files (fun _ hfile _ => hpacked.child_nulFree hfile hok.segment) [] [] .nil
        fun _ hmem => nomatch hmem
      refine ⟨hok, hdirectory.mpr ⟨_, hnormalized, hexists⟩, ?_, ?_⟩
      · intro entry hentry
        obtain ⟨child, hchild, rfl⟩ := List.mem_map.mp hentry
        obtain ⟨file, hfile, hshows⟩ := hmembers child hchild
        exact ⟨file, hfile, child, hshows, rfl⟩
      · intro file hfile child hshows
        have hname : child.name ∈ (vfsListLoop stale (vfsJoin (vfsSegments path)) (fun _ => false)
            vfs.tinyfs.files []).map (·.name) := by
          rw [hnames, List.mem_eraseDups, List.mem_filter]
          exact ⟨List.mem_map_of_mem (List.mem_filterMap.mpr ⟨file, hfile, hshows⟩), by simp⟩
        obtain ⟨found, hfound, hsame⟩ := List.mem_map.mp hname
        exact ⟨found.info, List.mem_map_of_mem hfound, hsame⟩

theorem VfsState.Packed.listEntries_stale (hpacked : vfs.Packed) (stale other : Nat → Store)
    (callback : VfsFileInfo → Bool) (path : List UInt8) :
    vfsListEntries vfs stale callback path = vfsListEntries vfs other callback path := by
  unfold vfsListEntries
  cases hnormalized : vfsNormalizePath path true with
  | none => rfl
  | some normalized =>
      obtain ⟨hok, -, rfl⟩ := (vfsNormalizePath_iff path true normalized).mp hnormalized
      have hnul : ∀ file ∈ vfs.listed, ∀ child,
          childOf (vfsJoin (vfsSegments path)) file = some child → 0 ∉ child.name := by
        intro file hfile child hshows
        rw [VfsState.listed, hpacked.tinyfs_ready, if_pos rfl] at hfile
        exact hpacked.child_nulFree hfile hok.segment hshows
      have hloop := @vfsListLoop_stale stale _ other (fun child => callback child.info) vfs.listed hnul
        [] [] [] .nil .nil fun _ hmem => nomatch hmem
      dsimp only
      rw [hloop]

/-- A path behind which one segment follows has a status just when the segment is a child. -/
theorem VfsState.Packed.shows_of_stat (hpacked : vfs.Packed) {name : List UInt8}
    (hname : Segment pathSeparator name) {info : VfsFileInfo}
    (hstat : vfsStat vfs (path ++ pathSeparator :: name) = some info) :
    ∃ file ∈ vfs.tinyfs.files, ∃ child,
      childOf (vfsJoin (vfsSegments path)) file = some child ∧ child.name = name := by
  have hsegments : vfsSegments (path ++ pathSeparator :: name) = vfsSegments path ++ [name] := by
    unfold vfsSegments
    rw [segments_append_cons, segments_of_segment hname]
  have hdirectory : ∀ segment ∈ vfsSegments path, Segment pathSeparator segment :=
    fun _ hmem => segment_of_mem hmem
  have hshows : ∀ file ∈ vfs.tinyfs.files, vfsSegments path ++ [name] <+: vfsSegments file.name →
      ∃ child, childOf (vfsJoin (vfsSegments path)) file = some child ∧ child.name = name := by
    rintro file hfile ⟨rest, hrest⟩
    rw [childOf, hpacked.collectChildName hfile hdirectory, ← hrest, List.append_assoc,
      if_pos (List.prefix_append _ _), List.getElem?_append_right (Nat.le_refl _), Nat.sub_self]
    exact ⟨_, rfl, rfl⟩
  unfold vfsStat at hstat
  rw [hpacked.ready, if_neg (by simp)] at hstat
  cases hnormalized : vfsNormalizePath (path ++ pathSeparator :: name) true with
  | none =>
      rw [hnormalized] at hstat
      cases hstat
  | some normalized =>
      obtain ⟨hok, -, rfl⟩ := (vfsNormalizePath_iff _ true normalized).mp hnormalized
      rw [hsegments] at hok
      have hne : vfsSegments path ++ [name] ≠ [] := by simp
      have hjoin : vfsJoin (vfsSegments path ++ [name]) ≠ [] := fun hnil =>
        hne (join_eq_nil hok.segment hnil)
      rw [hnormalized, hsegments] at hstat
      dsimp only at hstat
      rw [if_neg hjoin] at hstat
      cases hfind : tinyfsFind vfs.tinyfs (vfsJoin (vfsSegments path ++ [name])) with
      | some file =>
          unfold tinyfsFind at hfind
          rw [hpacked.tinyfs_ready, if_neg (by simp)] at hfind
          have hfile := List.mem_of_find?_eq_some hfind
          have hsame : file.name = vfsJoin (vfsSegments path ++ [name]) := by
            simpa using List.find?_some hfind
          have hjoined : vfsSegments file.name = vfsSegments path ++ [name] := by
            rw [hsame]
            exact segments_join hok.segment
          exact ⟨file, hfile, hshows file hfile (by rw [hjoined])⟩
      | none =>
          rw [hfind] at hstat
          dsimp only at hstat
          split at hstat
          case isFalse => cases hstat
          rename_i hbelow
          obtain ⟨file, hfile, hchild⟩ := List.any_eq_true.mp hbelow.2
          rw [vfsHasChild_eq, hpacked.collectChildName hfile hok.segment] at hchild
          split at hchild
          · rename_i hprefix
            exact ⟨file, hfile, hshows file hfile hprefix⟩
          · cases hchild

/-- A directory has the size 0. -/
theorem VfsState.Packed.stat_size (hpacked : vfs.Packed) {info : VfsFileInfo}
    (hstat : vfsStat vfs path = some info) (hdirectory : info.flags % 2 = 1) : info.size = 0 := by
  unfold vfsStat at hstat
  rw [hpacked.ready, if_neg (by simp)] at hstat
  split at hstat
  · cases hstat
  · split at hstat
    · cases hstat
      rfl
    · split at hstat
      · rename_i file hfind
        unfold tinyfsFind at hfind
        rw [hpacked.tinyfs_ready, if_neg (by simp)] at hfind
        cases hstat
        rw [hpacked.flags_eq file (List.mem_of_find?_eq_some hfind)] at hdirectory
        cases hdirectory
      · split at hstat
        · cases hstat
          rfl
        · cases hstat

end Table

/-- `vfs_list` and `vfs_list_entries` succeed exactly for directories. They report the immediate
children, each once and in the order of the table, and `vfs_stat` has the same size and the same
directory flag for each of them. -/
theorem vfs_views_agree (vfs : VfsState) (hpacked : vfs.Packed) (stale : Nat → Store)
    (path : List UInt8) :
    ((vfsList vfs stale path).isSome = true
        ↔ ∃ info, vfsStat vfs path = some info ∧ info.flags % 2 = 1)
      ∧ ((vfsListEntries vfs stale (fun _ => false) path).isSome = true
        ↔ ∃ info, vfsStat vfs path = some info ∧ info.flags % 2 = 1)
      ∧ ∀ entries, vfsListEntries vfs stale (fun _ => false) path = some entries →
        entries.map (·.name)
            = immediateChildren (vfs.tinyfs.files.map (vfsSegments ·.name)) (vfsSegments path)
          ∧ vfsList vfs stale path = some (entries.map (·.name))
          ∧ ∀ entry ∈ entries, ∃ info,
            vfsStat vfs (path ++ pathSeparator :: entry.name) = some info
              ∧ info.flags % 2 = entry.flags % 2 ∧ info.size = entry.size := by
  have hlisted : vfs.listed = vfs.tinyfs.files := by
    rw [VfsState.listed, hpacked.tinyfs_ready, if_pos rfl]
  rw [hpacked.stat_directory_iff path]
  unfold vfsList vfsListEntries
  rw [hpacked.ready, if_neg (by simp), if_neg (by simp), hlisted]
  cases hnormalized : vfsNormalizePath path true with
  | none => simp
  | some normalized =>
      dsimp only
      cases hexists : vfsDirectoryExists vfs normalized with
      | false => simp [hexists]
      | true =>
          simp only [Bool.not_true, Bool.false_eq_true, ↓reduceIte, Option.isSome_some,
            Option.some.injEq, exists_eq_left', hexists, true_and]
          obtain ⟨hok, -, rfl⟩ := (vfsNormalizePath_iff path true normalized).mp hnormalized
          obtain ⟨hmembers, hnames⟩ := @vfsListLoop_eq stale (vfsJoin (vfsSegments path))
            vfs.tinyfs.files (fun _ hfile _ => hpacked.child_nulFree hfile hok.segment) [] [] .nil
            fun _ hmem => nomatch hmem
          have hall : (((vfs.tinyfs.files.filterMap (childOf (vfsJoin (vfsSegments path)))).map
              (·.name)).filter fun name => name ∉ []) = _ := List.filter_eq_self.mpr (by simp)
          rw [hall, hpacked.childNames_eq hok.segment] at hnames
          rintro entries rfl
          rw [List.map_map]
          refine ⟨hnames, rfl, ?_⟩
          intro entry hentry
          obtain ⟨child, hchild, rfl⟩ := List.mem_map.mp hentry
          obtain ⟨file, hfile, hshows⟩ := hmembers child hchild
          exact hpacked.stat_child hfile hshows

/-- `a/b`, `a/c` and `d`, as `mktinyfs.py` packs them. -/
def smallTree : VfsState where
  tinyfs := ⟨none, [⟨[0x61, 0x2f, 0x62], 512, 3, 0, by decide, by decide⟩,
    ⟨[0x61, 0x2f, 0x63], 1024, 4, 0, by decide, by decide⟩,
    ⟨[0x64], 1536, 5, 0, by decide, by decide⟩], true⟩
  ready := true

theorem smallTree_packed : smallTree.Packed where
  ready := rfl
  tinyfs_ready := rfl
  count_le := by decide
  canonical := by decide +kernel
  nulFree := by decide
  short := by decide
  distinct := by decide
  apart := by decide
  flags_eq := by decide

theorem vfs_views_agree_smallTree :
    ∃ entries, vfsListEntries smallTree (fun _ _ => 0xff) (fun _ => false) [0x2f] = some entries
      ∧ entries.map (·.name) = [[0x61], [0x64]]
      ∧ ∀ entry ∈ entries, ∃ info, vfsStat smallTree ([0x2f] ++ pathSeparator :: entry.name) = some info
        ∧ info.flags % 2 = entry.flags % 2 ∧ info.size = entry.size := by
  obtain ⟨-, hlists, hentries⟩ :=
    vfs_views_agree smallTree smallTree_packed (fun _ _ => 0xff) [0x2f]
  obtain ⟨entries, hsome⟩ := Option.isSome_iff_exists.mp (hlists.mpr ⟨_, rfl, rfl⟩)
  obtain ⟨hnames, -, hstat⟩ := hentries entries hsome
  exact ⟨entries, hsome, hnames.trans (by decide +kernel), hstat⟩

end DuckOs

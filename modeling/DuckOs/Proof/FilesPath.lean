import DuckOs.Desktop.FilesApp
import DuckOs.Proof.VfsList

/-!
# Paths in the Files app

An entry keeps 31 bytes of its name, and a child's path 63 bytes in all. What is opened is the child
with the name that is left.
-/

namespace DuckOs

open ByteStore Path

/-- The states that the app reaches from the root directory of a file system, whatever the events. -/
inductive FilesReached (vfs : VfsState) : FilesAppState → Prop
  | start (env : FilesEnv) (state : FilesAppState) (henv : env.vfs = vfs)
      (hpath : state.path = [pathSeparator]) : FilesReached vfs (state.refresh env)
  | event {state : FilesAppState} (hreached : FilesReached vfs state) (env : FilesEnv)
      (henv : env.vfs = vfs) (desktop : Desktop) (window : DesktopWindow) (event : DesktopEvent) :
      FilesReached vfs (filesAppEvent env desktop window state event).1

/-- The child path of an entry is refused, or `vfs_stat` finds what the entry says. -/
def FilesAppState.OpensEntry (state : FilesAppState) (vfs : VfsState) (entry : FilesEntry) : Prop :=
  ∀ childPath, state.buildChildPath entry = some childPath →
    ∃ info, vfsStat vfs childPath = some info ∧ info.flags % 2 = entry.flags % 2
      ∧ info.size = entry.size

/-- What stands before the separator in the path of a child. -/
def filesBasePath (path : List UInt8) : List UInt8 := if path = [pathSeparator] then [] else path

/-- The number of bytes of a child's name that get into its path. -/
def filesNameRoom (path : List UInt8) : Nat :=
  min (filesEntryNameMax - 1) (filesPathMax - 2 - (filesBasePath path).length)

/-- The path is full; or the name fits; or nothing of it is left, and the directory stands for another
one; or what is left of it is the name of an entry that looks the same. -/
def FilesEntryOpens (path : List UInt8) (entries : List VfsFileInfo) (info : VfsFileInfo) : Prop :=
  path.length = filesPathMax - 1
    ∨ info.name.length ≤ filesNameRoom path
    ∨ (filesNameRoom path = 0 ∧ info.flags % 2 = 1)
    ∨ ∃ other ∈ entries, other.name = info.name.take (filesNameRoom path)
      ∧ other.flags % 2 = info.flags % 2 ∧ other.size = info.size

def filesEntryOf (info : VfsFileInfo) : FilesEntry :=
  ⟨strlcpy info.name filesEntryNameMax, info.size, info.flags⟩

/-! ### Reached states -/

section Reached

variable {env : FilesEnv} {vfs : VfsState} {state : FilesAppState}

theorem FilesAppState.collect_eq (state : FilesAppState) (infos : List VfsFileInfo) :
    state.collect infos = { state with
      entries := state.entries
        ++ (infos.take (filesMaxEntries - state.entries.length)).map filesEntryOf } := by
  induction infos generalizing state with
  | nil => rw [collect, List.take_nil, List.map_nil, List.append_nil]
  | cons info rest ih =>
      rw [collect]
      split
      · rename_i hfull
        rw [Nat.sub_eq_zero_of_le hfull, List.take_zero, List.map_nil, List.append_nil]
      · rename_i hroom
        obtain ⟨left, hleft⟩ : ∃ left, filesMaxEntries - state.entries.length = left + 1 :=
          ⟨filesMaxEntries - state.entries.length - 1, by omega⟩
        have hnext : filesMaxEntries - (state.entries ++ [filesEntryOf info]).length = left := by
          rw [List.length_append, List.length_singleton]
          omega
        change collect { state with entries := state.entries ++ [filesEntryOf info] } rest = _
        rw [ih]
        dsimp only
        rw [hnext, hleft, List.take_succ_cons, List.map_cons, List.append_assoc,
          List.singleton_append]

/-- The entries are those of the directory at the path. -/
structure FilesListed (vfs : VfsState) (state : FilesAppState) : Prop where
  rooted : [pathSeparator] <+: state.path
  short : state.path.length < filesPathMax
  entries_eq : ∃ stale : Nat → Store, state.entries
    = (((vfsListEntries vfs stale (fun _ => false) state.path).getD []).take filesMaxEntries).map
      filesEntryOf

@[simp]
theorem FilesAppState.refresh_path (env : FilesEnv) (state : FilesAppState) :
    (state.refresh env).path = state.path := by
  unfold refresh setStatus
  dsimp only
  split
  · rfl
  · rw [collect_eq]
    dsimp only
    split
    · rfl
    · rfl

theorem FilesAppState.refresh_entries (env : FilesEnv) (state : FilesAppState) :
    (state.refresh env).entries
      = (((vfsListEntries env.vfs env.stale (fun _ => false) state.path).getD []).take
          filesMaxEntries).map filesEntryOf := by
  unfold refresh setStatus
  dsimp only
  cases vfsListEntries env.vfs env.stale (fun _ => false) state.path with
  | none => rfl
  | some infos =>
      dsimp only
      rw [collect_eq]
      split
      · rfl
      · rfl

theorem filesListed_refresh (henv : env.vfs = vfs) (hrooted : [pathSeparator] <+: state.path)
    (hshort : state.path.length < filesPathMax) : FilesListed vfs (state.refresh env) where
  rooted := by rwa [FilesAppState.refresh_path]
  short := by rwa [FilesAppState.refresh_path]
  entries_eq := ⟨env.stale, by
    rw [FilesAppState.refresh_entries, FilesAppState.refresh_path, henv]⟩

theorem FilesListed.congr (hlisted : FilesListed vfs state) {other : FilesAppState}
    (hpath : other.path = state.path) (hentries : other.entries = state.entries) :
    FilesListed vfs other where
  rooted := by
    rw [hpath]
    exact hlisted.rooted
  short := by
    rw [hpath]
    exact hlisted.short
  entries_eq := by
    rw [hpath, hentries]
    exact hlisted.entries_eq

theorem FilesAppState.ensureSelectionVisible_same (state : FilesAppState) (visibleRows : Nat) :
    (state.ensureSelectionVisible visibleRows).path = state.path
      ∧ (state.ensureSelectionVisible visibleRows).entries = state.entries := by
  unfold ensureSelectionVisible
  split
  · exact ⟨rfl, rfl⟩
  · split
    · exact ⟨rfl, rfl⟩
    · split
      · exact ⟨rfl, rfl⟩
      · exact ⟨rfl, rfl⟩

/-- An event opens the selected entry, goes to the parent, or leaves the directory as it is. -/
theorem filesAppEvent_cases (env : FilesEnv) (desktop : Desktop) (window : DesktopWindow)
    (state : FilesAppState) (event : DesktopEvent) :
    filesAppEvent env desktop window state event = state.openSelected env desktop
      ∨ (filesAppEvent env desktop window state event).1 = state.goParent env
      ∨ ((filesAppEvent env desktop window state event).1.path = state.path
        ∧ (filesAppEvent env desktop window state event).1.entries = state.entries) := by
  have hmoved : ∀ selected, ({ state with selectedIndex := selected }.ensureSelectionVisible
        (filesVisibleRows window)).path = state.path
      ∧ ({ state with selectedIndex := selected }.ensureSelectionVisible
        (filesVisibleRows window)).entries = state.entries :=
    fun selected => FilesAppState.ensureSelectionVisible_same _ _
  unfold filesAppEvent
  dsimp only
  split
  · split
    · exact .inr (.inr ⟨rfl, rfl⟩)
    · exact .inr (.inr (hmoved _))
  · split
    · exact .inr (.inr ⟨rfl, rfl⟩)
    · split
      · split
        · exact .inr (.inr (hmoved _))
        · exact .inr (.inr ⟨rfl, rfl⟩)
      · split
        · split
          · exact .inr (.inr (hmoved _))
          · exact .inr (.inr ⟨rfl, rfl⟩)
        · split
          · exact .inl rfl
          · split
            · exact .inr (.inl rfl)
            · exact .inr (.inr ⟨rfl, rfl⟩)
  · exact .inr (.inr ⟨rfl, rfl⟩)

/-- The selected entry is a directory that is entered, or the directory stays. -/
theorem FilesAppState.openSelected_cases (env : FilesEnv) (desktop : Desktop)
    (state : FilesAppState) :
    (∃ entry childPath, state.entries[state.selectedIndex]? = some entry
        ∧ state.buildChildPath entry = some childPath ∧ entry.flags % 2 = 1
        ∧ (state.openSelected env desktop).1 = setPath env state childPath)
      ∨ ((state.openSelected env desktop).1.path = state.path
        ∧ (state.openSelected env desktop).1.entries = state.entries) := by
  unfold openSelected setStatus
  cases hentry : state.entries[state.selectedIndex]? with
  | none => exact .inr ⟨rfl, rfl⟩
  | some entry =>
      dsimp only
      cases hchild : state.buildChildPath entry with
      | none => exact .inr ⟨rfl, rfl⟩
      | some childPath =>
          dsimp only
          by_cases hdirectory : entry.flags % 2 = 1
          · rw [if_pos hdirectory]
            exact .inl ⟨entry, childPath, rfl, hchild, hdirectory, rfl⟩
          · rw [if_neg hdirectory]
            split
            · exact .inr ⟨rfl, rfl⟩
            · exact .inr ⟨rfl, rfl⟩

/-! ### Child paths -/

theorem filesBasePath_root : filesBasePath [pathSeparator] = [] := rfl

theorem filesBasePath_of_ne {path : List UInt8} (hpath : path ≠ [pathSeparator]) :
    filesBasePath path = path := if_neg hpath

theorem length_filesBasePath_le (path : List UInt8) :
    (filesBasePath path).length ≤ path.length := by
  unfold filesBasePath
  split
  · exact Nat.zero_le _
  · exact Nat.le_refl _

theorem vfsSegments_filesBasePath (path : List UInt8) :
    vfsSegments (filesBasePath path) = vfsSegments path := by
  unfold filesBasePath
  split
  · rename_i hroot
    rw [hroot]
    rfl
  · rfl

theorem FilesAppState.buildChildPath_eq (hshort : state.path.length < filesPathMax)
    (entry : FilesEntry) :
    state.buildChildPath entry
      = if state.path.length = filesPathMax - 1 then none
        else some (filesBasePath state.path ++ pathSeparator
          :: entry.name.take (filesPathMax - 2 - (filesBasePath state.path).length)) := by
  unfold buildChildPath strlcpy
  by_cases hroot : state.path = [pathSeparator]
  · rw [if_pos hroot, hroot, filesBasePath_root, if_neg (by decide)]
    rfl
  · have hcopy : state.path.take (filesPathMax - 1) = state.path :=
      List.take_of_length_le (by omega)
    rw [if_neg hroot, filesBasePath_of_ne hroot, hcopy]
    dsimp only
    by_cases hfull : state.path.length = filesPathMax - 1
    · rw [if_pos hfull, if_pos (by omega)]
    · have hleft : filesPathMax - (state.path ++ [pathSeparator]).length - 1
          = filesPathMax - 2 - state.path.length := by
        rw [List.length_append, List.length_singleton]
        omega
      rw [if_neg hfull, if_neg (by omega), hleft, List.append_assoc, List.singleton_append]

theorem FilesAppState.buildChildPath_entryOf (hshort : state.path.length < filesPathMax)
    (info : VfsFileInfo) :
    state.buildChildPath (filesEntryOf info)
      = if state.path.length = filesPathMax - 1 then none
        else some (filesBasePath state.path ++ pathSeparator
          :: info.name.take (filesNameRoom state.path)) := by
  rw [buildChildPath_eq hshort, filesEntryOf, strlcpy]
  dsimp only
  rw [List.take_take, Nat.min_comm, filesNameRoom]

/-- A child path fits the path of the app, which keeps it as it is. -/
theorem FilesAppState.setPath_child (hshort : state.path.length < filesPathMax) {entry : FilesEntry}
    {childPath : List UInt8} (hchild : state.buildChildPath entry = some childPath) :
    childPath.length < filesPathMax
      ∧ setPath env state childPath = refresh env { state with path := childPath } := by
  rw [buildChildPath_eq hshort] at hchild
  split at hchild
  case isTrue => cases hchild
  rename_i hfull
  have hbase := length_filesBasePath_le state.path
  have hmax : filesPathMax = 64 := rfl
  have hlength : childPath.length < filesPathMax := by
    rw [← Option.some.inj hchild, List.length_append, List.length_cons, List.length_take]
    omega
  have hne : childPath ≠ [] := by
    rw [← Option.some.inj hchild]
    simp
  refine ⟨hlength, ?_⟩
  rw [setPath, if_neg hne, strlcpy, List.take_of_length_le (by omega)]

theorem rooted_child (hrooted : [pathSeparator] <+: state.path) (name : List UInt8) :
    [pathSeparator] <+: filesBasePath state.path ++ pathSeparator :: name := by
  by_cases hroot : state.path = [pathSeparator]
  · rw [hroot, filesBasePath_root, List.nil_append]
    exact ⟨name, rfl⟩
  · rw [filesBasePath_of_ne hroot]
    exact hrooted.trans (List.prefix_append _ _)

/-! ### The directory that is left -/

theorem rdropWhile_child (path : List UInt8) {name : List UInt8} (hname : pathSeparator ∉ name) :
    (path ++ pathSeparator :: name).rdropWhile (· ≠ pathSeparator) = path ++ [pathSeparator] := by
  induction name using List.reverseRecOn with
  | nil =>
      rw [List.rdropWhile_concat_neg]
      simp
  | append_singleton front last ih =>
      rw [List.mem_append, not_or, List.mem_singleton] at hname
      rw [← List.cons_append, ← List.append_assoc, List.rdropWhile_concat_pos, ih hname.1]
      simpa using Ne.symm hname.2

/-- `files_app_go_parent` takes off what `files_app_build_child_path` has put behind a path. -/
theorem FilesAppState.goParent_child (hrooted : [pathSeparator] <+: state.path) {name : List UInt8}
    (hname : pathSeparator ∉ name) {other : FilesAppState}
    (hother : other.path = filesBasePath state.path ++ pathSeparator :: name) :
    (other.goParent env).path = state.path := by
  unfold goParent
  by_cases hroot : state.path = [pathSeparator]
  · rw [hroot, filesBasePath_root] at hother
    split
    · rename_i hsame
      rw [hsame, hroot]
    · rw [refresh_path, hother, rdropWhile_child [] hname, hroot]
      rfl
  · have hne : state.path ≠ [] := by
      intro hnil
      rw [hnil] at hrooted
      exact absurd (List.prefix_nil.mp hrooted) (List.cons_ne_nil _ _)
    have hlength := List.length_pos_iff.mpr hne
    rw [filesBasePath_of_ne hroot] at hother
    have hlong : other.path ≠ [pathSeparator] := by
      intro hsame
      have hshort := congrArg List.length (hother.symm.trans hsame)
      rw [List.length_append, List.length_cons, List.length_singleton] at hshort
      omega
    rw [if_neg hlong, refresh_path, hother, rdropWhile_child _ hname]
    dsimp only
    rw [List.length_append, List.length_singleton, if_neg (by omega), List.dropLast_concat]

theorem filesListed_goParent (henv : env.vfs = vfs) (hlisted : FilesListed vfs state) :
    FilesListed vfs (state.goParent env) := by
  unfold FilesAppState.goParent
  split
  · exact hlisted
  · have hkept : state.path.rdropWhile (· ≠ pathSeparator) <+: state.path :=
      List.rdropWhile_prefix _ _
    have hshort := hkept.length_le.trans_lt hlisted.short
    refine filesListed_refresh henv ?_ ?_
    · dsimp only
      split
      · exact List.prefix_refl _
      · rename_i hlong
        have hstart := List.prefix_of_prefix_length_le hlisted.rooted hkept
          (by rw [List.length_singleton]; omega)
        exact List.prefix_of_prefix_length_le hstart (List.dropLast_prefix _)
          (by rw [List.length_singleton, List.length_dropLast]; omega)
    · dsimp only
      split
      · decide
      · rw [List.length_dropLast]
        omega

theorem FilesReached.listed (hreached : FilesReached vfs state) : FilesListed vfs state := by
  induction hreached with
  | start env state henv hpath =>
      refine filesListed_refresh henv ?_ ?_
      · rw [hpath]
      · rw [hpath]
        decide
  | event hreached env henv desktop window event ih =>
      rename_i before
      obtain hopened | hparent | ⟨hpath, hentries⟩ :=
        filesAppEvent_cases env desktop window before event
      · rw [hopened]
        obtain ⟨entry, childPath, -, hchild, -, hentered⟩ | ⟨hpath, hentries⟩ :=
          before.openSelected_cases env desktop
        · obtain ⟨hlength, hset⟩ := @FilesAppState.setPath_child env _ ih.short _ _ hchild
          rw [hentered, hset]
          refine filesListed_refresh henv ?_ hlength
          rw [FilesAppState.buildChildPath_eq ih.short] at hchild
          split at hchild
          · cases hchild
          · rw [← Option.some.inj hchild]
            exact rooted_child ih.rooted _
        · exact ih.congr hpath hentries
      · rw [hparent]
        exact filesListed_goParent henv ih
      · exact ih.congr hpath hentries

/-! ### Entries -/

theorem FilesListed.entry (hpacked : vfs.Packed) (hlisted : FilesListed vfs state)
    (stale : Nat → Store) {index : Nat} {entry : FilesEntry}
    (hentry : state.entries[index]? = some entry) :
    ∃ infos info, vfsListEntries vfs stale (fun _ => false) state.path = some infos
      ∧ infos[index]? = some info ∧ entry = filesEntryOf info := by
  obtain ⟨held, hentries⟩ := hlisted.entries_eq
  rw [hpacked.listEntries_stale held stale] at hentries
  cases hlist : vfsListEntries vfs stale (fun _ => false) state.path with
  | none =>
      rw [hlist, Option.getD_none, List.take_nil, List.map_nil] at hentries
      rw [hentries] at hentry
      cases hentry
  | some infos =>
      rw [hlist, Option.getD_some] at hentries
      rw [hentries, List.getElem?_map, Option.map_eq_some_iff] at hentry
      obtain ⟨info, hinfo, hsame⟩ := hentry
      rw [List.getElem?_take] at hinfo
      split at hinfo
      · exact ⟨infos, info, rfl, hinfo, hsame.symm⟩
      · cases hinfo

section Listing

variable {stale : Nat → Store} {infos : List VfsFileInfo} {info : VfsFileInfo}

/-- A listed entry is found under its whole name. -/
theorem stat_listed (hpacked : vfs.Packed)
    (hlist : vfsListEntries vfs stale (fun _ => false) state.path = some infos)
    (hinfo : info ∈ infos) :
    Segment pathSeparator info.name
      ∧ ∃ status, vfsStat vfs (filesBasePath state.path ++ pathSeparator :: info.name) = some status
        ∧ status.flags % 2 = info.flags % 2 ∧ status.size = info.size := by
  obtain ⟨hok, -, hmembers, -⟩ := hpacked.listEntries_some hlist
  obtain ⟨file, hfile, child, hshows, rfl⟩ := hmembers info hinfo
  refine ⟨?_, ?_⟩
  · obtain ⟨-, rest, hsegments, -⟩ := hpacked.childOf_cases hfile hok.segment hshows
    apply (hpacked.pathOk hfile).segment
    rw [hsegments]
    exact List.mem_append_right _ List.mem_cons_self
  · rw [← vfsSegments_filesBasePath] at hshows
    exact hpacked.stat_child hfile hshows

/-- What is found under a name that a listed entry does not have to have is listed, too. -/
theorem listed_of_stat (hpacked : vfs.Packed)
    (hlist : vfsListEntries vfs stale (fun _ => false) state.path = some infos) {name : List UInt8}
    (hname : Segment pathSeparator name) {status : VfsFileInfo}
    (hstat : vfsStat vfs (filesBasePath state.path ++ pathSeparator :: name) = some status) :
    ∃ other ∈ infos, other.name = name ∧ other.flags % 2 = status.flags % 2
      ∧ other.size = status.size := by
  obtain ⟨-, -, -, hcomplete⟩ := hpacked.listEntries_some hlist
  obtain ⟨file, hfile, child, hshows, rfl⟩ := hpacked.shows_of_stat hname hstat
  rw [vfsSegments_filesBasePath] at hshows
  obtain ⟨other, hother, hsame⟩ := hcomplete file hfile child hshows
  obtain ⟨-, found, hfound, hflags, hsize⟩ := stat_listed hpacked hlist hother
  rw [hsame, hstat] at hfound
  cases hfound
  exact ⟨other, hother, hsame, hflags.symm, hsize.symm⟩

/-- Behind a path that ends in a separator there is the directory itself. -/
theorem stat_nothing_left (hpacked : vfs.Packed)
    (hlist : vfsListEntries vfs stale (fun _ => false) state.path = some infos) :
    ∃ status, vfsStat vfs (filesBasePath state.path ++ [pathSeparator]) = some status
      ∧ status.flags % 2 = 1 ∧ status.size = 0 := by
  obtain ⟨-, hdirectory, -, -⟩ := hpacked.listEntries_some hlist
  obtain ⟨normalized, hnormalized, hexists⟩ := (hpacked.stat_directory_iff state.path).mp hdirectory
  have hsegments : vfsSegments (filesBasePath state.path ++ [pathSeparator])
      = vfsSegments state.path := by
    rw [← vfsSegments_filesBasePath state.path]
    unfold vfsSegments
    rw [segments_append_cons, segments_nil, List.append_nil]
  have hsame : vfsNormalizePath (filesBasePath state.path ++ [pathSeparator]) true
      = some normalized := by
    rw [vfsNormalizePath_iff] at hnormalized ⊢
    rwa [hsegments]
  obtain ⟨status, hstatus, hflags⟩ := (hpacked.stat_directory_iff _).mpr ⟨_, hsame, hexists⟩
  exact ⟨status, hstatus, hflags, hpacked.stat_size hstatus hflags⟩

theorem FilesAppState.opensEntry_iff (hpacked : vfs.Packed)
    (hshort : state.path.length < filesPathMax)
    (hlist : vfsListEntries vfs stale (fun _ => false) state.path = some infos)
    (hinfo : info ∈ infos) :
    state.OpensEntry vfs (filesEntryOf info) ↔ FilesEntryOpens state.path infos info := by
  unfold OpensEntry FilesEntryOpens
  rw [buildChildPath_entryOf hshort]
  by_cases hfull : state.path.length = filesPathMax - 1
  · rw [if_pos hfull]
    exact iff_of_true (fun _ hnone => nomatch hnone) (.inl hfull)
  rw [if_neg hfull]
  simp only [Option.some.injEq, forall_eq', hfull, false_or]
  obtain ⟨hsegment, status, hstat, hflags, hsize⟩ := stat_listed hpacked hlist hinfo
  by_cases hfits : info.name.length ≤ filesNameRoom state.path
  · rw [List.take_of_length_le hfits]
    exact iff_of_true ⟨status, hstat, hflags, hsize⟩ (.inl hfits)
  simp only [hfits, false_or]
  by_cases hroom : filesNameRoom state.path = 0
  · obtain ⟨found, hfound, hdirectory, hzero⟩ := stat_nothing_left hpacked hlist
    rw [hroom, List.take_zero, hfound]
    constructor
    · rintro ⟨_, hsame, hkind, -⟩
      cases hsame
      exact .inl ⟨rfl, hkind.symm.trans hdirectory⟩
    · rintro (⟨-, hkind⟩ | ⟨other, hother, hnil, -⟩)
      · have hempty := hpacked.stat_size hstat (hflags.trans hkind)
        exact ⟨found, rfl, hdirectory.trans hkind.symm, hzero.trans (hempty.symm.trans hsize)⟩
      · exact absurd hnil (stat_listed hpacked hlist hother).1.1
  · have hcut : Segment pathSeparator (info.name.take (filesNameRoom state.path)) := by
      refine ⟨?_, fun hmem => hsegment.2 (List.mem_of_mem_take hmem)⟩
      rw [← List.length_pos_iff, List.length_take]
      omega
    constructor
    · rintro ⟨found, hfound, hkind, hequal⟩
      obtain ⟨other, hother, hname, hotherKind, hotherSize⟩ :=
        listed_of_stat hpacked hlist hcut hfound
      exact .inr ⟨other, hother, hname, hotherKind.trans hkind, hotherSize.trans hequal⟩
    · rintro (⟨hnone, -⟩ | ⟨other, hother, hname, hkind, hequal⟩)
      · exact absurd hnone hroom
      · obtain ⟨-, found, hfound, hfoundKind, hfoundSize⟩ := stat_listed hpacked hlist hother
        rw [hname] at hfound
        exact ⟨found, hfound, hfoundKind.trans hkind, hfoundSize.trans hequal⟩

end Listing

end Reached

/-- An entry is opened as the one that is listed just when its name is not cut, or the cut makes no
difference. What is entered is left again. -/
theorem files_opens_listed_iff (vfs : VfsState) (hpacked : vfs.Packed) (state : FilesAppState)
    (hreached : FilesReached vfs state) (stale : Nat → Store) (index : Nat) (entry : FilesEntry)
    (hentry : state.entries[index]? = some entry) :
    (∃ infos info, vfsListEntries vfs stale (fun _ => false) state.path = some infos
        ∧ infos[index]? = some info ∧ entry = filesEntryOf info
        ∧ (state.OpensEntry vfs entry ↔ FilesEntryOpens state.path infos info))
      ∧ ∀ childPath, state.buildChildPath entry = some childPath → entry.flags % 2 = 1 →
        ∀ (env other : FilesEnv) (desktop : Desktop),
          ((({ state with selectedIndex := index } : FilesAppState).openSelected env desktop).1.goParent
            other).path = state.path := by
  have hlisted := hreached.listed
  obtain ⟨infos, info, hlist, hinfo, rfl⟩ := hlisted.entry hpacked stale hentry
  have hmem := List.mem_of_getElem? hinfo
  refine ⟨⟨infos, info, hlist, hinfo, rfl,
    FilesAppState.opensEntry_iff hpacked hlisted.short hlist hmem⟩, ?_⟩
  intro childPath hchild hdirectory env other desktop
  have hopened : (({ state with selectedIndex := index } : FilesAppState).openSelected env desktop).1
      = FilesAppState.setPath env { state with selectedIndex := index } childPath := by
    unfold FilesAppState.openSelected
    dsimp only
    rw [hentry]
    dsimp only
    have hsame : FilesAppState.buildChildPath { state with selectedIndex := index } (filesEntryOf info)
        = some childPath := hchild
    rw [hsame]
    dsimp only
    rw [if_pos hdirectory]
  have hset := (@FilesAppState.setPath_child env { state with selectedIndex := index } hlisted.short
    _ _ hchild).2
  rw [FilesAppState.buildChildPath_entryOf hlisted.short] at hchild
  split at hchild
  case isTrue => cases hchild
  have hslash : pathSeparator ∉ info.name.take (filesNameRoom state.path) :=
    fun hcut => (stat_listed hpacked hlist hmem).1.2 (List.mem_of_mem_take hcut)
  apply FilesAppState.goParent_child hlisted.rooted hslash
  rw [hopened, hset, FilesAppState.refresh_path]
  exact (Option.some.inj hchild).symm

/-- A screen, and buffers full of ones. -/
def filesEnvOf (vfs : VfsState) : FilesEnv := ⟨⟨some ⟨640, 480⟩, .loaded⟩, vfs, fun _ _ => 0xff⟩

def filesRoot (vfs : VfsState) : FilesAppState :=
  FilesAppState.refresh (filesEnvOf vfs) ⟨[pathSeparator], [], [], 0, 0⟩

theorem filesRoot_reached (vfs : VfsState) : FilesReached vfs (filesRoot vfs) :=
  .start _ _ rfl rfl

/-- The directory `a` of a small tree is opened, and left again. -/
theorem files_opens_smallTree :
    (filesRoot smallTree).OpensEntry smallTree ⟨[0x61], 0, 1⟩
      ∧ (((filesRoot smallTree).openSelected (filesEnvOf smallTree) Desktop.boot).1.goParent
        (filesEnvOf smallTree)).path
        = [pathSeparator] := by
  have hpath : (filesRoot smallTree).path = [pathSeparator] := FilesAppState.refresh_path _ _
  have hentry : (filesRoot smallTree).entries[0]? = some ⟨[0x61], 0, 1⟩ := by decide +kernel
  obtain ⟨⟨infos, info, -, -, hsame, hopens⟩, hparent⟩ := files_opens_listed_iff smallTree
    smallTree_packed (filesRoot smallTree) (filesRoot_reached _) (fun _ _ => 0) 0 _ hentry
  have hshort : info.name.length ≤ filesNameRoom (filesRoot smallTree).path := by
    have hname := congrArg (fun entry => entry.name.length) hsame
    dsimp only [filesEntryOf, strlcpy] at hname
    rw [List.length_take, List.length_singleton] at hname
    rw [hpath]
    change info.name.length ≤ 31
    have hmax : filesEntryNameMax = 32 := rfl
    omega
  refine ⟨hopens.mpr (.inr (.inl hshort)), ?_⟩
  have hback := hparent [0x2f, 0x61] (by decide +kernel) rfl (filesEnvOf smallTree)
    (filesEnvOf smallTree) Desktop.boot
  rwa [hpath] at hback

theorem longName_offset_lt : 512 < 2 ^ 32 := by decide

theorem longName_size_lt : 5 < 2 ^ 32 := by decide

/-- A file of the root directory whose name has 32 bytes. -/
def longNameTree : VfsState where
  tinyfs := ⟨none,
    [⟨List.replicate 32 0x61, 512, 5, 0, longName_offset_lt, longName_size_lt⟩], true⟩
  ready := true

theorem longNameTree_packed : longNameTree.Packed where
  ready := rfl
  tinyfs_ready := rfl
  count_le := by decide
  canonical := by decide +kernel
  nulFree := by decide +kernel
  short := by decide
  distinct := by decide
  apart := by decide +kernel
  flags_eq := by decide

/-- It is listed with 31 bytes, and there is nothing under that name. -/
theorem files_long_name_missed :
    longNameTree.Packed ∧ FilesReached longNameTree (filesRoot longNameTree)
      ∧ ⟨List.replicate 31 0x61, 5, 0⟩ ∈ (filesRoot longNameTree).entries
      ∧ ¬ (filesRoot longNameTree).OpensEntry longNameTree ⟨List.replicate 31 0x61, 5, 0⟩ := by
  refine ⟨longNameTree_packed, filesRoot_reached _, by decide +kernel, fun hopens => ?_⟩
  obtain ⟨info, hinfo, -⟩ := hopens (pathSeparator :: List.replicate 31 0x61) (by decide +kernel)
  have hnone : (vfsStat longNameTree (pathSeparator :: List.replicate 31 0x61)).isSome = false := by
    decide +kernel
  rw [hinfo] at hnone
  cases hnone

end DuckOs

import DuckOs.Proof.ShellLog
import DuckOs.Proof.VfsList

/-!
# Directories on the console

`ls` prints the children of a directory, one a line and in the order of the table, with a slash behind those that are
directories themselves.
-/

namespace DuckOs

open ByteStore Path

/-- The line for a child of a directory. -/
def shellListLine (vfs : VfsState) (directory name : List UInt8) : List UInt8 :=
  let isDirectory := (vfsStat vfs (directory ++ pathSeparator :: name)).any fun info => info.flags % 2 = 1
  name ++ (if isDirectory then [pathSeparator] else []) ++ [0x0a]

theorem shellListEntry_eq (entry : VfsFileInfo) : shellListEntry entry
    = some (entry.name ++ (if entry.flags % 2 = 1 then [pathSeparator] else []) ++ [0x0a]) := by
  have hdirectory : ascii "%s/\n" = [0x25, 0x73, 0x2f, 0x0a] := by decide +kernel
  have hfile : ascii "%s\n" = [0x25, 0x73, 0x0a] := by decide +kernel
  unfold shellListEntry
  split
  · rw [hdirectory]
    simp [kprintf, kprintfConvert, pathSeparator]
  · rw [hfile]
    simp [kprintf, kprintfConvert]

section Listing

variable {vfs : VfsState} {path : List UInt8}

/-- A directory is listed, its children in order. -/
theorem VfsState.Packed.listEntries_names (hpacked : vfs.Packed) (stale : Nat → Store)
    (hdirectory : ∃ info, vfsStat vfs path = some info ∧ info.flags % 2 = 1) :
    ∃ entries, vfsListEntries vfs stale (fun _ => false) path = some entries
      ∧ entries.map (·.name)
        = immediateChildren (vfs.tinyfs.files.map (vfsSegments ·.name)) (vfsSegments path) := by
  obtain ⟨normalized, hnormalized, hexists⟩ := (hpacked.stat_directory_iff path).mp hdirectory
  obtain ⟨hok, -, rfl⟩ := (vfsNormalizePath_iff path true normalized).mp hnormalized
  obtain ⟨-, hnames⟩ := @vfsListLoop_eq stale (vfsJoin (vfsSegments path)) vfs.tinyfs.files
    (fun _ hfile _ => hpacked.child_nulFree hfile hok.segment) [] [] .nil fun _ hmem => nomatch hmem
  rw [List.filter_eq_self.mpr (by simp), hpacked.childNames_eq hok.segment] at hnames
  unfold vfsListEntries
  rw [hpacked.ready, if_neg (by simp), VfsState.listed, hpacked.tinyfs_ready, if_pos rfl, hnormalized]
  dsimp only
  rw [hexists, if_neg (by simp)]
  refine ⟨_, rfl, ?_⟩
  rw [List.map_map]
  exact hnames

/-- An entry is printed as its path has it. -/
theorem VfsState.Packed.shellListEntry_eq_line (hpacked : vfs.Packed) {stale : Nat → Store}
    {entries : List VfsFileInfo} (hlist : vfsListEntries vfs stale (fun _ => false) path = some entries)
    {entry : VfsFileInfo} (hentry : entry ∈ entries) :
    shellListEntry entry = some (shellListLine vfs path entry.name) := by
  obtain ⟨-, -, hshown, -⟩ := hpacked.listEntries_some hlist
  obtain ⟨file, hfile, child, hchild, rfl⟩ := hshown entry hentry
  obtain ⟨info, hinfo, hflags, -⟩ := hpacked.stat_child hfile hchild
  change vfsStat vfs (path ++ pathSeparator :: child.info.name) = some info at hinfo
  rw [shellListEntry_eq, shellListLine, hinfo, Option.any_some, hflags]
  simp only [decide_eq_true_eq]

theorem VfsState.Packed.shellPrintAll_entries (hpacked : vfs.Packed) {stale : Nat → Store}
    {entries : List VfsFileInfo} (hlist : vfsListEntries vfs stale (fun _ => false) path = some entries) :
    shellPrintAll (entries.map shellListEntry)
      = some ((entries.map (·.name)).flatMap (shellListLine vfs path)) := by
  have hlines : entries.map shellListEntry
      = ((entries.map (·.name)).map (shellListLine vfs path)).map some := by
    rw [List.map_map, List.map_map]
    exact List.map_congr_left fun entry hentry => hpacked.shellListEntry_eq_line hlist hentry
  rw [hlines, shellPrintAll_some, List.flatMap_def]

end Listing

/-- What `ls` prints for a path, where no path stands for the root. -/
theorem shell_ls_lists_children (vfs : VfsState) (hpacked : vfs.Packed) (stale : Nat → Store)
    (path : List UInt8) :
    let listPath := if path = [] then [pathSeparator] else path
    shellListFiles vfs stale path
      = match vfsStat vfs listPath with
        | none => some (ascii "ls failed: " ++ listPath ++ [0x0a])
        | some info =>
            if info.flags % 2 = 1 then
              some ((immediateChildren (vfs.tinyfs.files.map (vfsSegments ·.name))
                (vfsSegments listPath)).flatMap (shellListLine vfs listPath))
            else some (info.name ++ [0x0a]) := by
  intro listPath
  have hroot : ascii "/" = [pathSeparator] := by decide +kernel
  unfold shellListFiles
  rw [hroot]
  dsimp only [listPath]
  generalize hlisted : (if path = [] then [pathSeparator] else path) = listed
  have hne : listed ≠ [] := by
    rw [← hlisted]
    split
    · exact List.cons_ne_nil _ _
    · assumption
  cases hstat : vfsStat vfs listed with
  | none =>
      dsimp only
      rw [shellPrintPathError_eq _ hne]
      rfl
  | some info =>
      dsimp only
      by_cases hdirectory : info.flags % 2 = 1
      · obtain ⟨entries, hlist, hnames⟩ := hpacked.listEntries_names stale ⟨info, hstat, hdirectory⟩
        rw [if_neg (by omega), if_pos hdirectory, hlist]
        dsimp only
        rw [hpacked.shellPrintAll_entries hlist, hnames]
      · rw [if_pos (by omega), if_neg hdirectory]
        exact kprintf_string List.not_mem_nil info.name

theorem shell_ls_lists_children_smallTree :
    shellListFiles smallTree (fun _ _ => 0xff) [] = some (ascii "a/\nd\n") := by
  rw [shell_ls_lists_children smallTree smallTree_packed]
  decide +kernel

end DuckOs

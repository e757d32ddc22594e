import DuckOs.Proof.BlockDevice
import DuckOs.Proof.VfsPath

/-!
# Reading files of TinyFS

A part of a file is read through the path layer, which looks the path up once more. What arrives is
the slice of the device that the file's extent and the part describe.
-/

namespace DuckOs

open ByteStore

/-! ### Parts of files -/

section Part

variable {state : TinyfsState} {device : BlockDevice} {path : List UInt8} {file : TinyfsFile}

/-- A part is delivered when what is read in its place, from the 32-bit sum on, lies in the device. -/
theorem tinyfsReadFilePart_wrapped (hdevice : state.device = some device) (husable : device.Usable)
    (hfind : tinyfsFind state path = some file) {offset size : Nat} (hoffset : offset < file.size)
    (hsize : 0 < size) :
    tinyfsReadFilePart state path offset size
      = if (file.offset + offset) % 2 ^ 32 + min size (file.size - offset) ≤ device.byteCount then
          some (slice device.storage ((file.offset + offset) % 2 ^ 32)
            (min size (file.size - offset)))
        else none := by
  unfold tinyfsReadFilePart
  rw [hfind]
  dsimp only
  rw [if_neg (Nat.not_lt.mpr hoffset.le)]
  generalize hcount : min size (file.size - offset) = count
  generalize (file.offset + offset) % 2 ^ 32 = start
  rw [if_neg (by omega), tinyfsReadBytes, hdevice]
  dsimp only
  by_cases hinside : start + count ≤ device.byteCount
  · rw [device.readLoop_eq husable hinside count 0 [] (Nat.zero_le _) (by omega), if_pos hinside]
    rfl
  · rw [device.readLoop_eq_none husable (by omega) count 0 [] (by omega), if_neg hinside]

theorem tinyfsReadFilePart_of_lt (hdevice : state.device = some device) (husable : device.Usable)
    (hfind : tinyfsFind state path = some file) {offset size : Nat} (hoffset : offset < file.size)
    (hlow : file.offset + offset < 2 ^ 32) (hsize : 0 < size) :
    tinyfsReadFilePart state path offset size
      = if file.offset + offset + min size (file.size - offset) ≤ device.byteCount then
          some (slice device.storage (file.offset + offset) (min size (file.size - offset)))
        else none := by
  rw [tinyfsReadFilePart_wrapped hdevice husable hfind hoffset hsize, Nat.mod_eq_of_lt hlow]

theorem tinyfsReadFilePart_empty (hfind : tinyfsFind state path = some file) {offset size : Nat}
    (hoffset : offset ≤ file.size) (hempty : min size (file.size - offset) = 0) :
    tinyfsReadFilePart state path offset size = some [] := by
  unfold tinyfsReadFilePart
  rw [hfind]
  dsimp only
  rw [if_neg (Nat.not_lt.mpr hoffset), if_pos hempty]

theorem length_le_of_tinyfsReadFilePart {offset size : Nat} {bytes : List UInt8}
    (hread : tinyfsReadFilePart state path offset size = some bytes) : bytes.length ≤ size := by
  unfold tinyfsReadFilePart at hread
  split at hread
  · cases hread
  next found _ =>
    split at hread
    · cases hread
    · dsimp only at hread
      split at hread
      · cases hread
        exact Nat.zero_le size
      · unfold tinyfsReadBytes at hread
        split at hread
        · cases hread
        · refine (BlockDevice.length_le_of_readLoop (Nat.zero_le _) ?_ hread).trans (Nat.min_le_left _ _)
          exact Nat.le_refl 0

theorem tinyfsReadFilePart_eq (hdevice : state.device = some device) (husable : device.Usable)
    (hfind : tinyfsFind state path = some file) (hextent : file.offset + file.size ≤ 2 ^ 32)
    (hinside : file.offset + file.size ≤ device.byteCount) {offset : Nat}
    (hoffset : offset ≤ file.size) (size : Nat) :
    tinyfsReadFilePart state path offset size
      = some (slice device.storage (file.offset + offset) (min size (file.size - offset))) := by
  by_cases hpos : offset < file.size ∧ 0 < size
  · rw [tinyfsReadFilePart_of_lt hdevice husable hfind hpos.1 (by omega) hpos.2, if_pos (by omega)]
  · have hzero : min size (file.size - offset) = 0 := by omega
    rw [tinyfsReadFilePart_empty hfind hoffset hzero, hzero, slice_zero]

end Part

/-! ### Paths -/

section Named

variable {vfs : VfsState} {path : List UInt8} {file : TinyfsFile}

/-- A path that names a regular file, as the path layer sees it. -/
structure VfsState.Names (vfs : VfsState) (path : List UInt8) (file : TinyfsFile) : Prop where
  ready : vfs.ready = true
  normalized : ∀ allowRoot, vfsNormalizePath path allowRoot = some file.name
  name_ne : file.name ≠ []
  found : tinyfsFind vfs.tinyfs file.name = some file
  regular : file.flags % 2 = 0

theorem VfsState.Names.name (hnames : vfs.Names path file) : vfs.Names file.name file where
  ready := hnames.ready
  normalized := fun allowRoot => vfsNormalizePath_idem (hnames.normalized allowRoot)
  name_ne := hnames.name_ne
  found := hnames.found
  regular := hnames.regular

theorem VfsState.Names.stat_eq (hnames : vfs.Names path file) :
    vfsStat vfs path = some ⟨file.name, file.size, file.flags, file.size_lt⟩ := by
  unfold vfsStat
  simp only [hnames.ready, Bool.not_true, Bool.false_eq_true, ↓reduceIte, hnames.normalized true,
    hnames.name_ne, hnames.found]

theorem VfsState.Names.readFilePart_eq (hnames : vfs.Names path file) (offset size : Nat) :
    vfsReadFilePart vfs path offset size
      = tinyfsReadFilePart vfs.tinyfs file.name offset size := by
  have hregular : ¬ file.flags % 2 = 1 := by
    have heven := hnames.regular
    omega
  unfold vfsReadFilePart
  simp only [hnames.ready, Bool.not_true, Bool.false_eq_true, ↓reduceIte, hnames.normalized false,
    hnames.name.stat_eq, hregular]

theorem namedFile_names (hready : vfs.ready = true) (htinyfs : vfs.tinyfs.ready = true)
    (hnamed : namedFile vfs.tinyfs.files path = some file) : vfs.Names path file := by
  unfold namedFile at hnamed
  split at hnamed
  · cases hnamed
  rename_i hok
  rw [not_or, not_or, Nat.not_le] at hok
  obtain ⟨hsome, hdots, hshort⟩ := hok
  rw [Option.filter_eq_some_iff] at hnamed
  obtain ⟨hfind, hregular⟩ := hnamed
  have hname : file.name = vfsJoin (vfsSegments path) := by
    simpa using List.find?_some hfind
  have hpath : PathOk (vfsSegments path) := by
    refine ⟨fun segment hmem => Path.segment_of_mem hmem, ?_, hshort⟩
    intro segment hmem
    rw [Bool.not_eq_true, List.any_eq_false] at hdots
    simpa using hdots segment hmem
  refine ⟨hready, ?_, ?_, ?_, by simpa using hregular⟩
  · intro allowRoot
    rw [vfsNormalizePath_iff]
    exact ⟨hpath, fun hempty => absurd hempty hsome, hname⟩
  · rw [hname]
    exact fun hempty => hsome (Path.join_eq_nil hpath.segment hempty)
  · rw [tinyfsFind, htinyfs, hname]
    exact hfind

/-- A path with a status that is not a directory names a regular file. -/
theorem namedFile_of_stat (hready : vfs.ready = true) (htinyfs : vfs.tinyfs.ready = true)
    {info : VfsFileInfo} (hstat : vfsStat vfs path = some info) (hregular : ¬ info.flags % 2 = 1) :
    ∃ file, namedFile vfs.tinyfs.files path = some file := by
  unfold vfsStat at hstat
  simp only [hready, Bool.not_true, Bool.false_eq_true, ↓reduceIte] at hstat
  split at hstat
  · cases hstat
  rename_i normalized hnormalized
  rw [vfsNormalizePath_iff] at hnormalized
  obtain ⟨hok, -, rfl⟩ := hnormalized
  split at hstat
  · cases hstat
    exact absurd rfl hregular
  rename_i hname
  split at hstat
  · rename_i file hfind
    cases hstat
    refine ⟨file, ?_⟩
    have hchecks : ¬ (vfsSegments path = [] ∨ (vfsSegments path).any pathDotSegment = true
        ∨ vfsPathMax ≤ (vfsJoin (vfsSegments path)).length) := by
      rintro (hempty | hdots | hlong)
      · rw [hempty] at hname
        exact hname rfl
      · obtain ⟨segment, hmem, hdot⟩ := List.any_eq_true.mp hdots
        rw [hok.no_dots segment hmem] at hdot
        cases hdot
      · exact absurd hok.short (Nat.not_lt.mpr hlong)
    rw [tinyfsFind, htinyfs] at hfind
    rw [namedFile, if_neg hchecks, Option.filter_eq_some_iff]
    refine ⟨hfind, ?_⟩
    have hregular' : ¬ file.flags % 2 = 1 := hregular
    rw [decide_eq_true_eq]
    omega
  · split at hstat
    · cases hstat
      exact absurd rfl hregular
    · cases hstat

end Named

end DuckOs

import DuckOs.Proof.Tinyfs

/-!
# Open files

Every operation on the table of open files does what it does on lists of bytes with positions, so
whole sequences of operations do. The relation keeps, for each handle, the file that its path names.
-/

namespace DuckOs

open ByteStore

/-- A mounted file system whose files lie in its device, below 2 GiB. -/
structure VfsState.Mounted (vfs : VfsState) (device : BlockDevice) : Prop where
  ready : vfs.ready = true
  tinyfs_ready : vfs.tinyfs.ready = true
  device_eq : vfs.tinyfs.device = some device
  usable : device.Usable
  inside : ∀ file ∈ vfs.tinyfs.files, file.offset + file.size ≤ device.byteCount
  short : ∀ file ∈ vfs.tinyfs.files, file.offset + file.size < 2 ^ 31

/-- A handle in use stands for a position in the file that its path names. -/
structure OpenFile.Shows (vfs : VfsState) (device : BlockDevice) (file : File) (shown : OpenFile) :
    Prop where
  names : ∃ entry ∈ vfs.tinyfs.files, vfs.Names file.path entry ∧ file.path = entry.name
    ∧ file.size = entry.size ∧ shown.bytes = entry.contents device
  position_eq : shown.position = file.offset
  offset_le : file.offset ≤ file.size

def FilesRelated (vfs : VfsState) (device : BlockDevice) (table : FileTable) (files : OpenFiles) :
    Prop :=
  ∀ handle, Option.Rel (OpenFile.Shows vfs device) (table handle) (files handle)

section Steps

variable {vfs : VfsState} {device : BlockDevice} {table : FileTable} {files : OpenFiles}

theorem FilesRelated.update (hrelated : FilesRelated vfs device table files)
    (handle : Fin fileTableMax) {file : Option File} {shown : Option OpenFile}
    (hshows : Option.Rel (OpenFile.Shows vfs device) file shown) :
    FilesRelated vfs device (Function.update table handle file)
      (Function.update files handle shown) := by
  intro other
  by_cases hsame : other = handle
  · subst hsame
    rw [Function.update_self, Function.update_self]
    exact hshows
  · rw [Function.update_of_ne hsame, Function.update_of_ne hsame]
    exact hrelated other

theorem FilesRelated.handle_cases (hrelated : FilesRelated vfs device table files)
    (handle : Fin fileTableMax) :
    (table handle = none ∧ files handle = none)
      ∨ ∃ file shown, table handle = some file ∧ files handle = some shown
        ∧ OpenFile.Shows vfs device file shown := by
  have hhandle := hrelated handle
  generalize table handle = entry at hhandle ⊢
  generalize files handle = shown at hhandle ⊢
  cases hhandle with
  | none => exact Or.inl ⟨rfl, rfl⟩
  | some hshows => exact Or.inr ⟨_, _, rfl, rfl, hshows⟩

theorem FilesRelated.find_eq (hrelated : FilesRelated vfs device table files) :
    ((List.finRange fileTableMax).find? fun handle => (table handle).isNone)
      = (List.finRange fileTableMax).find? fun handle => (files handle).isNone := by
  congr 1
  funext handle
  rcases hrelated.handle_cases handle with ⟨htable, hfiles⟩ | ⟨_, _, htable, hfiles, -⟩
  · rw [htable, hfiles]
    rfl
  · rw [htable, hfiles]
    rfl

theorem OpenFile.Shows.length_bytes {file : File} {shown : OpenFile}
    (hshows : OpenFile.Shows vfs device file shown) : shown.bytes.length = file.size := by
  obtain ⟨entry, -, -, -, hsize, hbytes⟩ := hshows.names
  rw [hbytes, TinyfsFile.contents, length_slice, hsize]

theorem length_le_of_fileRead {file next : File} {size : Nat} {bytes : List UInt8}
    (hread : fileRead vfs file size = some (bytes, next)) : bytes.length ≤ size := by
  unfold fileRead at hread
  split at hread
  · cases hread
    exact Nat.zero_le size
  · obtain ⟨read, hpart, hsame⟩ := Option.map_eq_some_iff.mp hread
    cases hsame
    unfold vfsReadFilePart at hpart
    split at hpart
    · cases hpart
    split at hpart
    · cases hpart
    split at hpart
    · cases hpart
    split at hpart
    · cases hpart
    · exact (length_le_of_tinyfsReadFilePart hpart).trans (Nat.min_le_left _ _)

/-- A read delivers the bytes from the position on and moves the position behind them. -/
theorem OpenFile.Shows.read (hmounted : vfs.Mounted device) {file : File} {shown : OpenFile}
    (hshows : OpenFile.Shows vfs device file shown) (size : Nat) :
    ∃ next, fileRead vfs file size = some ((shown.bytes.drop shown.position).take size, next)
      ∧ OpenFile.Shows vfs device next
        ⟨shown.bytes, shown.position + ((shown.bytes.drop shown.position).take size).length⟩ := by
  obtain ⟨entry, hentry, hnames, hpath, hsize, hbytes⟩ := hshows.names
  have hoffset := hshows.offset_le
  have hshort := hmounted.short entry hentry
  have hlength := hshows.length_bytes
  rw [hshows.position_eq]
  by_cases hend : file.size ≤ file.offset
  · have hnone : (shown.bytes.drop file.offset).take size = [] := by
      rw [List.drop_eq_nil_of_le (by omega), List.take_nil]
    refine ⟨file, ?_, ?_⟩
    · rw [fileRead, if_pos hend, hnone]
    · rw [hnone]
      exact ⟨hshows.names, rfl, hoffset⟩
  · have hread := tinyfsReadFilePart_eq hmounted.device_eq hmounted.usable hnames.found
      (by omega) (hmounted.inside entry hentry) (show file.offset ≤ entry.size by omega)
      (min size (file.size - file.offset))
    have hslice : slice device.storage (entry.offset + file.offset)
        (min (min size (file.size - file.offset)) (entry.size - file.offset))
        = (shown.bytes.drop file.offset).take size := by
      rw [hbytes, TinyfsFile.contents, drop_slice, take_slice]
      congr 1
      omega
    refine ⟨{ file with
      offset := (file.offset + ((shown.bytes.drop file.offset).take size).length) % 2 ^ 32 }, ?_, ?_⟩
    · rw [fileRead, if_neg hend, hnames.readFilePart_eq, hread, hslice]
      rfl
    · have hcount : ((shown.bytes.drop file.offset).take size).length
          = min size (file.size - file.offset) := by
        rw [List.length_take, List.length_drop, hlength]
      rw [hcount, Nat.mod_eq_of_lt (by omega)]
      exact ⟨hshows.names, rfl, by dsimp only; omega⟩

/-- `file_open` fails exactly when the path names no regular file or no handle is free. -/
theorem fileOpen_eq (hmounted : vfs.Mounted device) (path : List UInt8) :
    fileOpen vfs table path
      = (namedFile vfs.tinyfs.files path).bind fun entry =>
          ((List.finRange fileTableMax).find? fun handle => (table handle).isNone).map fun handle =>
            (handle, ⟨entry.name, entry.size, 0, entry.flags, entry.size_lt⟩) := by
  unfold fileOpen
  cases hnamed : namedFile vfs.tinyfs.files path with
  | some entry =>
      have hnames := namedFile_names hmounted.ready hmounted.tinyfs_ready hnamed
      have hregular : ¬ entry.flags % 2 = 1 := by
        have heven := hnames.regular
        omega
      simp only [hnames.stat_eq, hregular, ↓reduceIte]
      rfl
  | none =>
      cases hstat : vfsStat vfs path with
      | none => rfl
      | some info =>
          by_cases hdirectory : info.flags % 2 = 1
          · simp only [hdirectory, ↓reduceIte]
            rfl
          · obtain ⟨entry, hentry⟩ :=
              namedFile_of_stat hmounted.ready hmounted.tinyfs_ready hstat hdirectory
            rw [hnamed] at hentry
            cases hentry

theorem namedFile_mem {entries : List TinyfsFile} {path : List UInt8} {entry : TinyfsFile}
    (hnamed : namedFile entries path = some entry) : entry ∈ entries := by
  unfold namedFile at hnamed
  split at hnamed
  · cases hnamed
  · rw [Option.filter_eq_some_iff] at hnamed
    exact List.mem_of_find?_eq_some hnamed.1

theorem fileStep_related (hmounted : vfs.Mounted device)
    (hrelated : FilesRelated vfs device table files) (op : FileOp) :
    (fileStep vfs table op).1 = (openFilesStep (vfs.contents device) files op).1
      ∧ FilesRelated vfs device (fileStep vfs table op).2
        (openFilesStep (vfs.contents device) files op).2 := by
  cases op with
  | openPath path =>
      simp only [fileStep, openFilesStep, fileOpen_eq hmounted, hrelated.find_eq, VfsState.contents]
      cases hnamed : namedFile vfs.tinyfs.files path with
      | none => exact ⟨rfl, hrelated⟩
      | some entry =>
          cases hfree : (List.finRange fileTableMax).find? fun handle => (files handle).isNone with
          | none => exact ⟨rfl, hrelated⟩
          | some handle =>
              have hnames := (namedFile_names hmounted.ready hmounted.tinyfs_ready hnamed).name
              refine ⟨rfl, hrelated.update handle (.some ⟨?_, rfl, Nat.zero_le _⟩)⟩
              exact ⟨entry, namedFile_mem hnamed, hnames, rfl, rfl, rfl⟩
  | read handle size =>
      rcases hrelated.handle_cases handle with ⟨htable, hfiles⟩ | ⟨file, shown, htable, hfiles, hshows⟩
      · simp only [fileStep, openFilesStep, htable, hfiles]
        exact ⟨trivial, hrelated⟩
      · obtain ⟨next, hread, hnext⟩ := hshows.read hmounted size
        simp only [fileStep, openFilesStep, htable, hfiles, hread]
        exact ⟨trivial, hrelated.update handle (.some hnext)⟩
  | seek handle offset =>
      rcases hrelated.handle_cases handle with ⟨htable, hfiles⟩ | ⟨file, shown, htable, hfiles, hshows⟩
      · simp only [fileStep, openFilesStep, htable, hfiles]
        exact ⟨trivial, hrelated⟩
      · simp only [fileStep, openFilesStep, htable, hfiles, fileSeek, hshows.length_bytes]
        by_cases hbeyond : file.size < offset
        · simp only [hbeyond, ↓reduceIte]
          exact ⟨trivial, hrelated⟩
        · simp only [hbeyond, ↓reduceIte]
          exact ⟨trivial, hrelated.update handle
            (.some ⟨hshows.names, rfl, Nat.le_of_not_lt hbeyond⟩)⟩
  | close handle => exact ⟨rfl, hrelated.update handle .none⟩

end Steps

/-- On a mounted file system whose files lie in the device, every sequence of operations on open files
returns what it returns on lists of bytes with positions. -/
theorem file_run_eq_open_files (vfs : VfsState) (device : BlockDevice)
    (hmounted : vfs.Mounted device) (ops : List FileOp) :
    (Machine.run (fileStep vfs) (fun _ => none) ops).1
      = (Machine.run (openFilesStep (vfs.contents device)) (fun _ => none) ops).1 := by
  have hstart : FilesRelated vfs device (fun _ => none) fun _ => none := fun _ => .none
  have hrun := @Machine.run_simulation _ _ _ _ (fileStep vfs) (openFilesStep (vfs.contents device))
    (fun _ => FilesRelated vfs device)
  apply (hrun _ hstart).1
  intro op rest table files hrelated
  exact fileStep_related hmounted hrelated op

instance : NeZero fileTableMax := ⟨by decide⟩

/-- A file of six bytes over two blocks of four. -/
def twoBlockVfs : VfsState where
  tinyfs := ⟨some ⟨4, 2, fun address => address.toUInt8, []⟩,
    [⟨[0x61], 1, 6, 0, by decide, by decide⟩], true⟩
  ready := true

theorem twoBlockVfs_mounted :
    twoBlockVfs.Mounted ⟨4, 2, fun address => address.toUInt8, []⟩ where
  ready := rfl
  tinyfs_ready := rfl
  device_eq := rfl
  usable := ⟨by decide, by decide⟩
  inside := by decide
  short := by decide

theorem file_run_eq_open_files_two_blocks :
    (Machine.run (fileStep twoBlockVfs) (fun _ => none)
        [.openPath [0x61], .openPath [0x2f, 0x61], .seek 1 5, .read 0 4, .read 1 9, .seek 0 7]).1
      = [.handle (some 0), .handle (some 1), .moved true, .bytes (some [1, 2, 3, 4]),
        .bytes (some [6]), .moved false] := by
  rw [file_run_eq_open_files twoBlockVfs _ twoBlockVfs_mounted]
  rfl

end DuckOs

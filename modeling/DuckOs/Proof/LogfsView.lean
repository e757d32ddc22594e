import DuckOs.Fs.AppendStore
import DuckOs.Proof.LogfsRuntime

/-!
# The files a LogFS state shows

The list of names and contents behind a state's tables, what each query answers in terms of it, and
how the list changes when a record is written and when replay stops early.
-/

namespace DuckOs

open ByteStore

/-- The names and contents of `files`, in table order. -/
def LogfsTables.view (tables : LogfsTables) (store : Store) (files : List LogfsFileState) :
    List StoredFile :=
  files.map fun file => ⟨file.info.name, tables.contents store file.fileId⟩

section View

variable {tables : LogfsTables} {store : Store} {files : List LogfsFileState} {start stop : Nat}

@[simp]
theorem LogfsTables.length_view : (tables.view store files).length = files.length := by
  simp [LogfsTables.view]

theorem LogfsTables.Wf.view_congr (hwf : tables.Wf files start stop) {other : Store}
    (hagree : AgreeBelow stop other store) : tables.view other files = tables.view store files := by
  apply List.map_congr_left
  intro file _
  rw [hwf.contents_congr hagree]

theorem LogfsTables.view_eq_of_segments {other : LogfsTables}
    (hsegments : other.segments = tables.segments) :
    other.view store files = tables.view store files := by
  simp only [LogfsTables.view, LogfsTables.contents, LogfsTables.segmentsOf, hsegments]

theorem LogfsTables.lookup_view (name : List UInt8) :
    StoredFile.lookup (tables.view store files) name
      = (files.find? fun file => file.info.name == name).map
          fun file => ⟨file.info.name, tables.contents store file.fileId⟩ := by
  rw [StoredFile.lookup, LogfsTables.view, List.find?_map]
  rfl

theorem LogfsTables.lookup_view_eq_none_iff {name : List UInt8} :
    StoredFile.lookup (tables.view store files) name = none
      ↔ ∀ file ∈ files, file.info.name ≠ name := by
  rw [LogfsTables.lookup_view]
  simp

theorem LogfsTables.Wf.lookup_view_getElem (hwf : tables.Wf files start stop) {slot : Nat}
    (hslot : slot < files.length) :
    StoredFile.lookup (tables.view store files) files[slot].info.name
      = some ⟨files[slot].info.name, tables.contents store files[slot].fileId⟩ := by
  rw [LogfsTables.lookup_view]
  have hfind : files.find? (fun file => file.info.name == files[slot].info.name)
      = some files[slot] := by
    rw [List.find?_eq_some_iff_getElem]
    refine ⟨by simp, slot, hslot, rfl, ?_⟩
    intro index hindex
    have hne : files[index].info.name ≠ files[slot].info.name := by
      intro heq
      have hsame := hwf.slot_of_name (by omega) hslot heq
      omega
    simpa using hne
  rw [hfind]
  rfl

/-- A new file shows up empty at the end. -/
theorem LogfsTables.Wf.view_addFile (hwf : tables.Wf files start stop) {name : List UInt8}
    {fileId nextFileId slot : Nat} (hid : ∀ file ∈ files, file.fileId ≠ fileId) :
    (tables.addFile slot name fileId nextFileId).view store
        (files ++ [⟨⟨name, 0⟩, fileId, 0, true⟩])
      = tables.view store files ++ [⟨name, []⟩] := by
  have hcontents : tables.contents store fileId = [] := by
    rw [LogfsTables.contents, hwf.segmentsOf_eq_nil hid]
    rfl
  have hview : (tables.addFile slot name fileId nextFileId).view store
        (files ++ [⟨⟨name, 0⟩, fileId, 0, true⟩])
      = tables.view store (files ++ [⟨⟨name, 0⟩, fileId, 0, true⟩]) :=
    LogfsTables.view_eq_of_segments rfl
  rw [hview]
  simp [LogfsTables.view, hcontents]

/-- An append shows up at the end of the file at `slot` and nowhere else. -/
theorem LogfsTables.Wf.view_extendFile (hwf : tables.Wf files start stop) {slot size : Nat}
    (hslot : slot < files.length) (dataOffset : Nat) :
    (tables.extendFile slot size dataOffset).view store (files.set slot (files[slot].extend size))
      = (tables.view store files).map fun file =>
          if file.name = files[slot].info.name
          then { file with bytes := file.bytes ++ slice store dataOffset size } else file := by
  apply List.ext_getElem
  · simp
  intro index hleft hright
  have hindex : index < files.length := by simpa using hright
  have hfileAt := hwf.toHolds.fileAt_eq hslot
  by_cases hsame : index = slot
  · subst hsame
    have hself := contents_extendFile_self tables store index size dataOffset
    rw [hfileAt] at hself
    simp [LogfsTables.view, LogfsFileState.extend, hself]
  · have hids : files[index].fileId ≠ files[slot].fileId := by
      intro heq
      exact hsame (hwf.slot_of_id hindex hslot heq)
    have hnames : files[index].info.name ≠ files[slot].info.name := by
      intro heq
      exact hsame (hwf.slot_of_name hindex hslot heq)
    rw [← hfileAt] at hids
    have hother := contents_extendFile_of_ne tables store slot size dataOffset hids
    simp [LogfsTables.view, List.getElem_set_ne (Ne.symm hsame), hother, hnames]

end View

/-! ### Queries -/

section Queries

variable {state : LogfsState} {device : BlockDevice} {files : List LogfsFileState}
  {start stop : Nat}

theorem logfsFileCount_eq (hholds : state.tables.Holds files) :
    logfsFileCount state = files.length := by
  have hused : files.countP (·.inUse) = files.length := by
    rw [List.countP_eq_length]
    exact hholds.inUse
  rw [logfsFileCount, hholds.files_eq, List.countP_append, hused, List.countP_replicate]
  simp [LogfsFileState.zero]

theorem logfsGetFileFrom_clear {index current count : Nat} :
    logfsGetFileFrom index (List.replicate count .zero) current = none := by
  induction count with
  | zero => rfl
  | succ count ih => simpa [List.replicate_succ, logfsGetFileFrom, LogfsFileState.zero] using ih

theorem logfsGetFileFrom_eq {index count : Nat} :
    ∀ {files : List LogfsFileState} (current : Nat), (∀ file ∈ files, file.inUse = true) →
      current ≤ index →
      logfsGetFileFrom index (files ++ List.replicate count .zero) current
        = files[index - current]?.map (·.info) := by
  intro files
  induction files with
  | nil => intro current _ _; simpa using logfsGetFileFrom_clear
  | cons file rest ih =>
      intro current hinUse hle
      rw [List.cons_append, logfsGetFileFrom, hinUse file List.mem_cons_self]
      by_cases hhere : current = index
      · simp [hhere]
      · have hshift : index - current = index - (current + 1) + 1 := by omega
        rw [hshift, List.getElem?_cons_succ]
        simpa [hhere] using ih (current + 1)
          (fun other hother => hinUse other (List.mem_cons_of_mem _ hother)) (by omega)

theorem logfsGetFile_eq (hready : state.ready = true) (hholds : state.tables.Holds files)
    (index : Nat) : logfsGetFile state index = files[index]?.map (·.info) := by
  rw [logfsGetFile, hready, hholds.files_eq]
  simpa using logfsGetFileFrom_eq 0 hholds.inUse (Nat.zero_le index)

theorem LogfsTables.Wf.map_info_view {tables : LogfsTables} (hwf : tables.Wf files start stop)
    (store : Store) : (tables.view store files).map StoredFile.info = files.map (·.info) := by
  rw [LogfsTables.view, List.map_map]
  apply List.map_congr_left
  intro file hfile
  simp [StoredFile.info, hwf.length_contents hfile store]

/-- What a mounted state with well-formed tables shows. -/
structure LogfsState.Shows (state : LogfsState) (device : BlockDevice)
    (files : List LogfsFileState) (start stop : Nat) : Prop where
  ready : state.ready = true
  blockDevice_eq : state.blockDevice = some device
  usable : device.Usable
  wf : state.tables.Wf files start stop
  stop_le : stop ≤ device.byteCount

namespace LogfsState.Shows

theorem getFile_eq (hshows : state.Shows device files start stop) (index : Nat) :
    logfsGetFile state index
      = (state.tables.view device.storage files)[index]?.map StoredFile.info := by
  rw [logfsGetFile_eq hshows.ready hshows.wf.toHolds, ← List.getElem?_map, ← List.getElem?_map,
    hshows.wf.map_info_view]

theorem fileCount_eq (hshows : state.Shows device files start stop) :
    logfsFileCount state = (state.tables.view device.storage files).length := by
  rw [logfsFileCount_eq hshows.wf.toHolds, LogfsTables.length_view]

/-- A search by name finds nothing, or the slot of the file of that name. -/
theorem find_cases (hshows : state.Shows device files start stop) (name : List UInt8) :
    (logfsFindFileState state.tables name = none
        ∧ StoredFile.lookup (state.tables.view device.storage files) name = none)
      ∨ ∃ slot, ∃ hslot : slot < files.length, logfsFindFileState state.tables name = some slot
        ∧ StoredFile.lookup (state.tables.view device.storage files) name
          = some ⟨name, state.tables.contents device.storage files[slot].fileId⟩
        ∧ files[slot].info = ⟨name,
          (state.tables.contents device.storage files[slot].fileId).length⟩ := by
  cases hfind : logfsFindFileState state.tables name with
  | none =>
      refine Or.inl ⟨rfl, LogfsTables.lookup_view_eq_none_iff.mpr ?_⟩
      intro file hfile heq
      have hsome := (hshows.wf.toHolds.findFileState_isSome_iff name).mpr ⟨file, hfile, heq⟩
      rw [hfind] at hsome
      cases hsome
  | some slot =>
      obtain ⟨hslot, rfl⟩ := hshows.wf.toHolds.of_findFileState hfind
      refine Or.inr ⟨slot, hslot, rfl, hshows.wf.lookup_view_getElem hslot, ?_⟩
      rw [hshows.wf.length_contents (List.getElem_mem hslot)]

theorem stat_eq (hshows : state.Shows device files start stop) (name : CString) :
    logfsStat state name
      = (StoredFile.lookup (state.tables.view device.storage files) name.bytes).map
          StoredFile.info := by
  rcases hshows.find_cases name.bytes with ⟨hfind, hlookup⟩ | ⟨slot, hslot, hfind, hlookup, hinfo⟩
  · simp [logfsStat, hfind, hlookup]
  · simp [logfsStat, hshows.ready, hfind, hlookup, hshows.wf.toHolds.fileAt_eq hslot, hinfo,
      StoredFile.info]

theorem readFilePart_eq (hshows : state.Shows device files start stop) (name : CString)
    (offset size : Nat) :
    logfsReadFilePart state name offset size
      = StoredFile.readPart (state.tables.view device.storage files) name.bytes offset size := by
  rcases hshows.find_cases name.bytes with ⟨hfind, hlookup⟩ | ⟨slot, hslot, hfind, hlookup, hinfo⟩
  · simp [logfsReadFilePart, StoredFile.readPart, hfind, hlookup]
  · rw [logfsReadFilePart_eq hshows.ready hshows.blockDevice_eq hshows.usable hshows.wf
      hshows.stop_le hfind hslot, StoredFile.readPart, hlookup, hinfo]
    simp only [List.length_take, List.length_drop]

theorem readFile_eq (hshows : state.Shows device files start stop) (name : CString)
    (maxSize : Nat) :
    logfsReadFile state name maxSize
      = StoredFile.read (state.tables.view device.storage files) name.bytes maxSize := by
  rw [logfsReadFile, hshows.stat_eq, StoredFile.read]
  cases hlookup : StoredFile.lookup (state.tables.view device.storage files) name.bytes with
  | none => rfl
  | some file =>
      simp only [Option.map_some, StoredFile.info, hshows.readFilePart_eq, StoredFile.readPart,
        hlookup]
      by_cases hlarge : maxSize < file.bytes.length
      · rw [if_pos hlarge, if_pos hlarge]
      · simp [hlarge]

end LogfsState.Shows

end Queries

/-! ### Writes -/

section Writes

variable {state : LogfsState} {device next : BlockDevice} {files : List LogfsFileState}

/-- The payload of a written record is found behind its header. -/
theorem WrittenTo.slice_payload {offset type fileId before after nameLength : Nat}
    {payload : List UInt8} (hpayload : payload.length ≤ 480)
    (hwritten : WrittenTo device next offset
      (logfsRecordBytes type fileId before after nameLength payload)) :
    slice next.storage (offset + 32) payload.length = payload := by
  have hbounds := recordSize_bounds hpayload
  have hlength := length_logfsRecordBytes type fileId before after nameLength hpayload
  have hstored : slice next.storage offset (recordSize payload.length)
      = logfsRecordBytes type fileId before after nameLength payload := by
    rw [hwritten.storage_eq, ← hlength]
    exact slice_patch_self
  rw [logfsRecordBytes_eq, List.append_assoc] at hstored
  have hdrop := congrArg (fun bytes => (bytes.drop 32).take payload.length) hstored
  rwa [drop_slice, take_slice, Nat.min_eq_left (by omega), List.drop_left' (by simp),
    List.take_left' rfl] at hdrop

theorem LogfsState.Filed.shows (hfiled : state.Filed device files) :
    state.Shows device files state.superblock.logOffset
      (min state.logEnd state.superblock.logLimit) where
  ready := hfiled.ready
  blockDevice_eq := hfiled.blockDevice_eq
  usable := hfiled.usable
  wf := hfiled.wf
  stop_le := (Nat.min_le_right _ _).trans hfiled.logLimit_le

theorem LogfsState.Filed.view_written (hfiled : state.Filed device files)
    {data : List UInt8} (hwritten : WrittenTo device next state.logEnd data) :
    state.tables.view next.storage files = state.tables.view device.storage files := by
  apply hfiled.wf.view_congr
  intro address haddress
  rw [hwritten.storage_eq, patch_of_lt (by omega)]

/-- An accepted create adds an empty file to the view. -/
theorem LogfsState.Filed.view_create (hfiled : state.Filed device files)
    (name : List UInt8) {data : List UInt8} (nextFileId : Nat)
    (hid : ∀ file ∈ files, file.fileId ≠ state.tables.nextFileId)
    (hwritten : WrittenTo device next state.logEnd data) :
    (state.tables.addFile files.length name state.tables.nextFileId nextFileId).view next.storage
        (files ++ [⟨⟨name, 0⟩, state.tables.nextFileId, 0, true⟩])
      = state.tables.view device.storage files ++ [⟨name, []⟩] := by
  rw [hfiled.wf.view_addFile hid, hfiled.view_written hwritten]

/-- An accepted append extends one file of the view. -/
theorem LogfsState.Filed.view_append (hfiled : state.Filed device files)
    {data : List UInt8} {slot type fileId before after nameLength : Nat}
    (hslot : slot < files.length) (hsize : data.length ≤ 480)
    (hwritten : WrittenTo device next state.logEnd
      (logfsRecordBytes type fileId before after nameLength data)) :
    (state.tables.extendFile slot data.length (state.logEnd + 32)).view next.storage
        (files.set slot (files[slot].extend data.length))
      = (state.tables.view device.storage files).map fun file =>
          if file.name = files[slot].info.name then { file with bytes := file.bytes ++ data }
          else file := by
  rw [hfiled.wf.view_extendFile hslot, hfiled.view_written hwritten,
    hwritten.slice_payload hsize]

end Writes

end DuckOs

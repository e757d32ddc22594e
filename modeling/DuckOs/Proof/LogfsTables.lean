import DuckOs.Proof.LogfsRecord

/-!
# The LogFS tables

Entries in use fill the slots of `logfs_files` from the front, so the table is a list of files. The
invariant says that names and ids are distinct and that the segments of each file tile it, from which
a part read delivers a slice of the file's contents.
-/

namespace DuckOs

open ByteStore

/-! ### Slots -/

/-- The slots hold `files` from the front; the remaining ones are clear. -/
structure LogfsTables.Holds (tables : LogfsTables) (files : List LogfsFileState) : Prop where
  files_eq : tables.files = files ++ List.replicate (logfsMaxFiles - files.length) .zero
  length_le : files.length ≤ logfsMaxFiles
  inUse : ∀ file ∈ files, file.inUse = true

/-- The tables after a create record: an empty file at `slot`. -/
def LogfsTables.addFile (tables : LogfsTables) (slot : Nat) (name : List UInt8)
    (fileId nextFileId : Nat) : LogfsTables where
  files := tables.files.set slot ⟨⟨name, 0⟩, fileId, 0, true⟩
  segments := tables.segments
  nextFileId := nextFileId

/-- A file after one more segment of `size` bytes. -/
def LogfsFileState.extend (file : LogfsFileState) (size : Nat) : LogfsFileState :=
  { file with
    info := { file.info with size := (file.info.size + size) % 2 ^ 32 }
    segmentCount := file.segmentCount + 1 }

/-- The tables after an append record for the file at `slot`. -/
def LogfsTables.extendFile (tables : LogfsTables) (slot size dataOffset : Nat) : LogfsTables where
  files := tables.files.set slot ((tables.fileAt slot).extend size)
  segments := tables.segments
    ++ [⟨(tables.fileAt slot).fileId, (tables.fileAt slot).info.size, size, dataOffset⟩]
  nextFileId := tables.nextFileId

namespace LogfsTables.Holds

variable {tables : LogfsTables} {files : List LogfsFileState} {slot : Nat}

theorem empty : LogfsTables.empty.Holds [] where
  files_eq := rfl
  length_le := Nat.zero_le _
  inUse := by simp

theorem findIdx?_inUse {test : LogfsFileState → Bool} :
    ∀ {files : List LogfsFileState}, (∀ file ∈ files, file.inUse = true) →
      files.findIdx? (fun file => file.inUse && test file) = files.findIdx? test := by
  intro files
  induction files with
  | nil => intro _; rfl
  | cons file rest ih =>
      intro hinUse
      rw [List.findIdx?_cons, List.findIdx?_cons, hinUse file List.mem_cons_self, Bool.true_and,
        ih fun other hother => hinUse other (List.mem_cons_of_mem _ hother)]

theorem findIdx?_eq (hholds : tables.Holds files) (test : LogfsFileState → Bool) :
    tables.files.findIdx? (fun file => file.inUse && test file) = files.findIdx? test := by
  rw [hholds.files_eq, List.findIdx?_append]
  have hclear : (List.replicate (logfsMaxFiles - files.length) LogfsFileState.zero).findIdx?
      (fun file => file.inUse && test file) = none := by
    rw [List.findIdx?_eq_none_iff]
    intro file hfile
    rw [List.eq_of_mem_replicate hfile]
    rfl
  rw [hclear, findIdx?_inUse hholds.inUse]
  simp

theorem findFileState_eq (hholds : tables.Holds files) (name : List UInt8) :
    logfsFindFileState tables name = files.findIdx? fun file => file.info.name == name :=
  hholds.findIdx?_eq fun file => file.info.name == name

theorem findFileId_eq (hholds : tables.Holds files) (fileId : Nat) :
    logfsFindFileId tables fileId = files.findIdx? fun file => file.fileId == fileId :=
  hholds.findIdx?_eq fun file => file.fileId == fileId

theorem findFileState_isSome_iff (hholds : tables.Holds files) (name : List UInt8) :
    (logfsFindFileState tables name).isSome = true ↔ ∃ file ∈ files, file.info.name = name := by
  rw [hholds.findFileState_eq, List.findIdx?_isSome, List.any_eq_true]
  simp

theorem findFileId_isSome_iff (hholds : tables.Holds files) (fileId : Nat) :
    (logfsFindFileId tables fileId).isSome = true ↔ ∃ file ∈ files, file.fileId = fileId := by
  rw [hholds.findFileId_eq, List.findIdx?_isSome, List.any_eq_true]
  simp

theorem allocFileState_eq (hholds : tables.Holds files) :
    logfsAllocFileState tables
      = if files.length < logfsMaxFiles then some files.length else none := by
  have hused : files.findIdx? (fun file => !file.inUse) = none := by
    rw [List.findIdx?_eq_none_iff]
    intro file hfile
    simp [hholds.inUse file hfile]
  rw [logfsAllocFileState, hholds.files_eq, List.findIdx?_append, hused]
  by_cases hfree : files.length < logfsMaxFiles
  · obtain ⟨rest, hrest⟩ := Nat.exists_eq_add_of_lt hfree
    rw [if_pos hfree, show logfsMaxFiles - files.length = rest + 1 by omega, List.replicate_succ]
    simp [List.findIdx?_cons, LogfsFileState.zero]
  · rw [if_neg hfree, show logfsMaxFiles - files.length = 0 by omega]
    simp

theorem fileAt_eq (hholds : tables.Holds files) (hslot : slot < files.length) :
    tables.fileAt slot = files[slot] := by
  rw [LogfsTables.fileAt, hholds.files_eq, List.getD_eq_getElem?_getD,
    List.getElem?_append_left hslot, List.getElem?_eq_getElem hslot]
  rfl

theorem addFile (hholds : tables.Holds files) (hfree : files.length < logfsMaxFiles)
    (name : List UInt8) (fileId nextFileId : Nat) :
    (tables.addFile files.length name fileId nextFileId).Holds
      (files ++ [⟨⟨name, 0⟩, fileId, 0, true⟩]) where
  files_eq := by
    obtain ⟨rest, hrest⟩ := Nat.exists_eq_add_of_lt hfree
    simp only [LogfsTables.addFile]
    rw [hholds.files_eq, List.set_append_right _ _ le_rfl, Nat.sub_self, List.append_assoc,
      show logfsMaxFiles - files.length = rest + 1 by omega, List.replicate_succ, List.set_cons_zero,
      List.length_append, List.length_singleton,
      show logfsMaxFiles - (files.length + 1) = rest by omega]
    rfl
  length_le := by simpa using hfree
  inUse := by
    intro file hfile
    rcases List.mem_append.mp hfile with hold | hnew
    · exact hholds.inUse file hold
    · rw [List.mem_singleton.mp hnew]

theorem clearSlot (hholds : tables.Holds files) (hfree : files.length < logfsMaxFiles)
    (name : List UInt8) (fileId nextFileId : Nat) :
    (({ tables.addFile files.length name fileId nextFileId with
        files := (tables.addFile files.length name fileId nextFileId).files.set files.length .zero }
      : LogfsTables)).Holds files where
  files_eq := by
    obtain ⟨rest, hrest⟩ := Nat.exists_eq_add_of_lt hfree
    simp only [LogfsTables.addFile, List.set_set]
    rw [hholds.files_eq, List.set_append_right _ _ le_rfl, Nat.sub_self,
      show logfsMaxFiles - files.length = rest + 1 by omega, List.replicate_succ, List.set_cons_zero]
  length_le := hholds.length_le
  inUse := hholds.inUse

theorem extendFile (hholds : tables.Holds files) (hslot : slot < files.length)
    (size dataOffset : Nat) :
    (tables.extendFile slot size dataOffset).Holds
      (files.set slot (files[slot].extend size)) where
  files_eq := by
    simp only [LogfsTables.extendFile]
    rw [hholds.fileAt_eq hslot, hholds.files_eq, List.set_append_left _ _ hslot, List.length_set]
  length_le := by simpa using hholds.length_le
  inUse := by
    intro file hfile
    rcases List.mem_or_eq_of_mem_set hfile with hold | hnew
    · exact hholds.inUse file hold
    · rw [hnew]
      exact hholds.inUse files[slot] (List.getElem_mem hslot)

end LogfsTables.Holds

/-! ### Segments -/

theorem length_of_logfsNameValid {name : List UInt8} (hvalid : logfsNameValid name = true) :
    0 < name.length ∧ name.length < 32 := by
  rw [logfsNameValid, Bool.and_eq_true, Bool.and_eq_true, bne_iff_ne, decide_eq_true_eq] at hvalid
  exact ⟨List.length_pos_iff.mpr hvalid.1.1, hvalid.1.2⟩

/-- The segments, in table order, tile the range from `first` to `last` of a file. -/
def Tiles : List LogfsSegment → (first last : Nat) → Prop
  | [], first, last => first = last
  | segment :: rest, first, last =>
      segment.fileOffset = first ∧ 0 < segment.dataSize ∧ segment.dataSize ≤ 480
        ∧ Tiles rest (first + segment.dataSize) last

/-- The bytes the segments point at. -/
def segmentBytes (store : Store) (segments : List LogfsSegment) : List UInt8 :=
  segments.flatMap fun segment => slice store segment.dataOffset segment.dataSize

def LogfsTables.segmentsOf (tables : LogfsTables) (fileId : Nat) : List LogfsSegment :=
  tables.segments.filter fun segment => segment.fileId == fileId

/-- The contents of the file with the given id. -/
def LogfsTables.contents (tables : LogfsTables) (store : Store) (fileId : Nat) : List UInt8 :=
  segmentBytes store (tables.segmentsOf fileId)

theorem Tiles.concat {segments : List LogfsSegment} {segment : LogfsSegment} {first last : Nat}
    (htiles : Tiles segments first last) (hoffset : segment.fileOffset = last)
    (hpos : 0 < segment.dataSize) (hle : segment.dataSize ≤ 480) :
    Tiles (segments ++ [segment]) first (last + segment.dataSize) := by
  induction segments generalizing first with
  | nil =>
      have hfirst : first = last := htiles
      exact ⟨hoffset.trans hfirst.symm, hpos, hle, by rw [hfirst]; rfl⟩
  | cons head rest ih =>
      obtain ⟨hhead, hheadPos, hheadLe, hrest⟩ := htiles
      exact ⟨hhead, hheadPos, hheadLe, ih hrest⟩

theorem Tiles.le {segments : List LogfsSegment} {first last : Nat}
    (htiles : Tiles segments first last) : last ≤ first + 480 * segments.length := by
  induction segments generalizing first with
  | nil => exact (Eq.symm htiles).le
  | cons head rest ih =>
      obtain ⟨-, -, hheadLe, hrest⟩ := htiles
      have hle := ih hrest
      rw [List.length_cons]
      omega

theorem Tiles.length_segmentBytes {segments : List LogfsSegment} {first last : Nat}
    (htiles : Tiles segments first last) (store : Store) :
    first + (segmentBytes store segments).length = last := by
  induction segments generalizing first with
  | nil => exact htiles
  | cons head rest ih =>
      obtain ⟨-, -, -, hrest⟩ := htiles
      have hlength := ih hrest
      simp only [segmentBytes, List.flatMap_cons, List.length_append, length_slice] at hlength ⊢
      omega

theorem segmentBytes_congr {left right : Store} {segments : List LogfsSegment} {bound : Nat}
    (hagree : AgreeBelow bound left right)
    (hranges : ∀ segment ∈ segments, segment.dataOffset + segment.dataSize ≤ bound) :
    segmentBytes left segments = segmentBytes right segments := by
  apply List.flatMap_congr
  intro segment hsegment
  have hrange := hranges segment hsegment
  exact slice_congr fun index hindex => hagree _ (by omega)

/-! ### The invariant -/

/-- What the tables satisfy after any replay: `files` fill the slots, are told apart by name and by
id, and are tiled by segments whose data lies between `start` and `stop` on the disk. -/
structure LogfsTables.Wf (tables : LogfsTables) (files : List LogfsFileState) (start stop : Nat) :
    Prop extends tables.Holds files where
  names_nodup : (files.map (·.info.name)).Nodup
  ids_nodup : (files.map (·.fileId)).Nodup
  names_valid : ∀ file ∈ files, logfsNameValid file.info.name = true ∧ 0 ∉ file.info.name
  ids_lt : ∀ file ∈ files, file.fileId < 2 ^ 32
  tiles : ∀ file ∈ files, Tiles (tables.segmentsOf file.fileId) 0 file.info.size
  owned : ∀ segment ∈ tables.segments, ∃ file ∈ files, file.fileId = segment.fileId
  ranges : ∀ segment ∈ tables.segments,
    start ≤ segment.dataOffset ∧ segment.dataOffset + segment.dataSize ≤ stop
  segments_le : tables.segments.length ≤ logfsMaxSegments

theorem LogfsTables.Wf.slot_of_name {tables : LogfsTables} {files : List LogfsFileState}
    {start stop index slot : Nat} (hwf : tables.Wf files start stop) (hindex : index < files.length)
    (hslot : slot < files.length) (hname : files[index].info.name = files[slot].info.name) :
    index = slot := by
  have hmapped : index < (files.map (·.info.name)).length := by rwa [List.length_map]
  have hmapped' : slot < (files.map (·.info.name)).length := by rwa [List.length_map]
  exact (@List.Nodup.getElem_inj_iff _ _ hwf.names_nodup _ hmapped _ hmapped').mp
    (by simpa using hname)

theorem LogfsTables.Wf.slot_of_id {tables : LogfsTables} {files : List LogfsFileState}
    {start stop index slot : Nat} (hwf : tables.Wf files start stop) (hindex : index < files.length)
    (hslot : slot < files.length) (hid : files[index].fileId = files[slot].fileId) :
    index = slot := by
  have hmapped : index < (files.map (·.fileId)).length := by rwa [List.length_map]
  have hmapped' : slot < (files.map (·.fileId)).length := by rwa [List.length_map]
  exact (@List.Nodup.getElem_inj_iff _ _ hwf.ids_nodup _ hmapped _ hmapped').mp
    (by simpa using hid)

theorem map_set_of_eq {α β : Type} {list : List α} {index : Nat} {value : α} {key : α → β}
    (hindex : index < list.length) (hkey : key value = key list[index]) :
    (list.set index value).map key = list.map key := by
  rw [List.map_set, hkey, ← List.getElem_map key, List.set_getElem_self]
  simpa using hindex

theorem map_name_set_extend {files : List LogfsFileState} {slot : Nat} (hslot : slot < files.length)
    (size : Nat) :
    (files.set slot (files[slot].extend size)).map (·.info.name) = files.map (·.info.name) :=
  map_set_of_eq hslot rfl

theorem map_fileId_set_extend {files : List LogfsFileState} {slot : Nat}
    (hslot : slot < files.length) (size : Nat) :
    (files.set slot (files[slot].extend size)).map (·.fileId) = files.map (·.fileId) :=
  map_set_of_eq hslot rfl

namespace LogfsTables.Wf

variable {tables : LogfsTables} {files : List LogfsFileState} {start stop : Nat}

theorem empty (start stop : Nat) : LogfsTables.empty.Wf [] start stop where
  toHolds := Holds.empty
  names_nodup := List.nodup_nil
  ids_nodup := List.nodup_nil
  names_valid := by simp
  ids_lt := by simp
  tiles := by simp
  owned := by simp [LogfsTables.empty]
  ranges := by simp [LogfsTables.empty]
  segments_le := by simp [LogfsTables.empty]

/-- The log only grows, and `logfs_next_file_id` is not part of the invariant. -/
theorem mono {other : LogfsTables} {stop' : Nat} (hwf : tables.Wf files start stop)
    (hstop : stop ≤ stop') (hfiles : other.files = tables.files)
    (hsegments : other.segments = tables.segments) : other.Wf files start stop' where
  files_eq := by rw [hfiles]; exact hwf.files_eq
  length_le := hwf.length_le
  inUse := hwf.inUse
  names_nodup := hwf.names_nodup
  ids_nodup := hwf.ids_nodup
  names_valid := hwf.names_valid
  ids_lt := hwf.ids_lt
  tiles := by
    simp only [LogfsTables.segmentsOf, hsegments]
    exact hwf.tiles
  owned := by rw [hsegments]; exact hwf.owned
  ranges := by
    rw [hsegments]
    intro segment hsegment
    have hrange := hwf.ranges segment hsegment
    omega
  segments_le := by rw [hsegments]; exact hwf.segments_le

/-- No file outgrows what the segment table can describe. -/
theorem size_le (hwf : tables.Wf files start stop) {file : LogfsFileState} (hfile : file ∈ files) :
    file.info.size ≤ 30720 := by
  have hle := (hwf.tiles file hfile).le
  have hcount : (tables.segmentsOf file.fileId).length ≤ 64 :=
    (List.length_filter_le _ _).trans hwf.segments_le
  omega

theorem length_contents (hwf : tables.Wf files start stop) {file : LogfsFileState}
    (hfile : file ∈ files) (store : Store) :
    (tables.contents store file.fileId).length = file.info.size := by
  have hlength := (hwf.tiles file hfile).length_segmentBytes store
  rwa [Nat.zero_add] at hlength

theorem segmentsOf_eq_nil (hwf : tables.Wf files start stop) {fileId : Nat}
    (hfresh : ∀ file ∈ files, file.fileId ≠ fileId) : tables.segmentsOf fileId = [] := by
  rw [LogfsTables.segmentsOf, List.filter_eq_nil_iff]
  intro segment hsegment hid
  obtain ⟨file, hfile, howner⟩ := hwf.owned segment hsegment
  exact hfresh file hfile (howner.trans (by simpa using hid))

theorem addFile (hwf : tables.Wf files start stop) {name : List UInt8} {fileId : Nat}
    (hfree : files.length < logfsMaxFiles) (hvalid : logfsNameValid name = true)
    (hnul : 0 ∉ name) (hname : ∀ file ∈ files, file.info.name ≠ name)
    (hid : ∀ file ∈ files, file.fileId ≠ fileId) (hlt : fileId < 2 ^ 32) (nextFileId : Nat) :
    (tables.addFile files.length name fileId nextFileId).Wf
      (files ++ [⟨⟨name, 0⟩, fileId, 0, true⟩]) start stop where
  toHolds := hwf.toHolds.addFile hfree name fileId nextFileId
  names_nodup := by
    rw [List.map_append, List.nodup_append]
    refine ⟨hwf.names_nodup, List.nodup_singleton _, ?_⟩
    rintro left hleft right hright rfl
    obtain ⟨file, hfile, rfl⟩ := List.mem_map.mp hleft
    exact hname file hfile (List.mem_singleton.mp hright)
  ids_nodup := by
    rw [List.map_append, List.nodup_append]
    refine ⟨hwf.ids_nodup, List.nodup_singleton _, ?_⟩
    rintro left hleft right hright rfl
    obtain ⟨file, hfile, rfl⟩ := List.mem_map.mp hleft
    exact hid file hfile (List.mem_singleton.mp hright)
  names_valid := by
    intro file hfile
    rcases List.mem_append.mp hfile with hold | hnew
    · exact hwf.names_valid file hold
    · rw [List.mem_singleton.mp hnew]
      exact ⟨hvalid, hnul⟩
  ids_lt := by
    intro file hfile
    rcases List.mem_append.mp hfile with hold | hnew
    · exact hwf.ids_lt file hold
    · rw [List.mem_singleton.mp hnew]
      exact hlt
  tiles := by
    intro file hfile
    rcases List.mem_append.mp hfile with hold | hnew
    · exact hwf.tiles file hold
    · rw [List.mem_singleton.mp hnew]
      change Tiles (tables.segmentsOf fileId) 0 0
      rw [hwf.segmentsOf_eq_nil hid]
      rfl
  owned := by
    intro segment hsegment
    obtain ⟨file, hfile, howner⟩ := hwf.owned segment hsegment
    exact ⟨file, List.mem_append_left _ hfile, howner⟩
  ranges := hwf.ranges
  segments_le := hwf.segments_le

/-- Entries other than the one at `slot` belong to other files. -/
theorem mem_set_cases (hwf : tables.Wf files start stop) {slot : Nat} (hslot : slot < files.length)
    {file value : LogfsFileState} (hfile : file ∈ files.set slot value) :
    file = value ∨ (file ∈ files ∧ file.fileId ≠ files[slot].fileId) := by
  obtain ⟨index, hindex⟩ := List.mem_iff_getElem?.mp hfile
  by_cases hsame : slot = index
  · subst hsame
    rw [List.getElem?_set_self hslot] at hindex
    exact Or.inl (Option.some.inj hindex).symm
  · rw [List.getElem?_set_ne hsame] at hindex
    obtain ⟨hlt, hget⟩ := List.getElem?_eq_some_iff.mp hindex
    refine Or.inr ⟨List.mem_of_getElem? hindex, ?_⟩
    intro hid
    apply hsame
    have hmap : (files.map (·.fileId)).get ⟨slot, by simpa using hslot⟩
        = (files.map (·.fileId)).get ⟨index, by simpa using hlt⟩ := by
      simp [hget, hid]
    exact Fin.mk.inj (List.nodup_iff_injective_get.mp hwf.ids_nodup hmap)

theorem extendFile (hwf : tables.Wf files start stop) {slot size dataOffset stop' : Nat}
    (hslot : slot < files.length) (hpos : 0 < size) (hle : size ≤ 480)
    (hroom : tables.segments.length < logfsMaxSegments) (hstart : start ≤ dataOffset)
    (hstop : dataOffset + size ≤ stop') (hgrow : stop ≤ stop') :
    (tables.extendFile slot size dataOffset).Wf (files.set slot (files[slot].extend size))
      start stop' where
  toHolds := hwf.toHolds.extendFile hslot size dataOffset
  names_nodup := by
    rw [map_name_set_extend hslot]
    exact hwf.names_nodup
  ids_nodup := by
    rw [map_fileId_set_extend hslot]
    exact hwf.ids_nodup
  names_valid := by
    intro file hfile
    rcases hwf.mem_set_cases hslot hfile with rfl | ⟨hold, -⟩
    · exact hwf.names_valid files[slot] (List.getElem_mem hslot)
    · exact hwf.names_valid file hold
  ids_lt := by
    intro file hfile
    rcases hwf.mem_set_cases hslot hfile with rfl | ⟨hold, -⟩
    · exact hwf.ids_lt files[slot] (List.getElem_mem hslot)
    · exact hwf.ids_lt file hold
  tiles := by
    intro file hfile
    have hmem : files[slot] ∈ files := List.getElem_mem hslot
    have hsize := hwf.size_le hmem
    simp only [LogfsTables.segmentsOf, LogfsTables.extendFile, List.filter_append,
      hwf.toHolds.fileAt_eq hslot]
    rcases hwf.mem_set_cases hslot hfile with rfl | ⟨hold, hother⟩
    · have hnew : (files[slot].extend size).info.size = files[slot].info.size + size :=
        Nat.mod_eq_of_lt (by omega)
      rw [hnew]
      simp only [LogfsFileState.extend, List.filter_cons, BEq.rfl, ↓reduceIte, List.filter_nil]
      exact (hwf.tiles files[slot] hmem).concat rfl hpos hle
    · rw [List.filter_cons_of_neg (by simpa using fun hid => hother (Eq.symm hid)),
        List.filter_nil, List.append_nil]
      exact hwf.tiles file hold
  owned := by
    intro segment hsegment
    have hmem : segment.fileId ∈ files.map (·.fileId) := by
      rcases List.mem_append.mp hsegment with hold | hnew
      · obtain ⟨file, hfile, howner⟩ := hwf.owned segment hold
        exact List.mem_map.mpr ⟨file, hfile, howner⟩
      · rw [List.mem_singleton.mp hnew, hwf.toHolds.fileAt_eq hslot]
        exact List.mem_map.mpr ⟨files[slot], List.getElem_mem hslot, rfl⟩
    rw [← map_fileId_set_extend hslot size] at hmem
    exact List.mem_map.mp hmem
  ranges := by
    intro segment hsegment
    rcases List.mem_append.mp hsegment with hold | hnew
    · have hrange := hwf.ranges segment hold
      omega
    · rw [List.mem_singleton.mp hnew]
      exact ⟨hstart, hstop⟩
  segments_le := by
    simp only [LogfsTables.extendFile, List.length_append, List.length_singleton]
    exact hroom

end LogfsTables.Wf

end DuckOs

import DuckOs.Proof.LogfsTables

/-!
# Reading LogFS files

The loop of `logfs_read_file_part` walks the whole segment table, skips other files' segments, and
copies the overlap of each segment with the requested range. Over segments that tile the file this
assembles a slice of its contents.
-/

namespace DuckOs

open ByteStore

section Contents

variable {tables : LogfsTables} {files : List LogfsFileState} {start stop : Nat}

theorem LogfsTables.Wf.contents_congr (hwf : tables.Wf files start stop) {left right : Store}
    (hagree : AgreeBelow stop left right) (fileId : Nat) :
    tables.contents left fileId = tables.contents right fileId := by
  apply segmentBytes_congr hagree
  intro segment hsegment
  exact (hwf.ranges segment (List.mem_of_mem_filter hsegment)).2

theorem contents_extendFile_self (tables : LogfsTables) (store : Store) (slot size dataOffset : Nat) :
    (tables.extendFile slot size dataOffset).contents store (tables.fileAt slot).fileId
      = tables.contents store (tables.fileAt slot).fileId ++ slice store dataOffset size := by
  simp [LogfsTables.contents, LogfsTables.segmentsOf, LogfsTables.extendFile, segmentBytes]

theorem contents_extendFile_of_ne (tables : LogfsTables) (store : Store)
    (slot size dataOffset : Nat) {fileId : Nat}
    (hne : fileId ≠ (tables.fileAt slot).fileId) :
    (tables.extendFile slot size dataOffset).contents store fileId
      = tables.contents store fileId := by
  simp [LogfsTables.contents, LogfsTables.segmentsOf, LogfsTables.extendFile, Ne.symm hne]

end Contents

/-- A segment that ends before the requested range contributes nothing. -/
theorem drop_take_append_skip {chunk rest : List UInt8} (position : Nat) {offset readEnd : Nat}
    (hbefore : position + chunk.length ≤ offset) (hrange : offset ≤ readEnd) :
    ((chunk ++ rest).take (readEnd - position)).drop (offset - position)
      = (rest.take (readEnd - (position + chunk.length))).drop
          (offset - (position + chunk.length)) := by
  have htake : (chunk.take (readEnd - position)).length = chunk.length := by
    rw [List.length_take]
    omega
  rw [List.take_append, List.drop_append, List.drop_eq_nil_of_le (by rw [htake]; omega), htake,
    List.nil_append, Nat.sub_sub, Nat.sub_sub]

/-- One segment's share of a requested range, and what is left of the range behind it. -/
theorem drop_take_append_chunk (chunk rest : List UInt8) {position offset readEnd : Nat}
    (hoffset : offset < position + chunk.length) (hread : position < readEnd)
    (hrange : offset < readEnd) :
    ((chunk ++ rest).take (readEnd - position)).drop (offset - position)
      = (chunk.drop (max offset position - position)).take
          (min readEnd (position + chunk.length) - max offset position)
        ++ (rest.take (readEnd - (position + chunk.length))).drop
          (offset - (position + chunk.length)) := by
  have hskip : offset - position = max offset position - position := by omega
  have hnone : offset - (position + chunk.length) = 0 := by omega
  rw [List.take_append, List.drop_append_of_le_length (by simp; omega), List.drop_take, hnone,
    List.drop_zero, ← hskip, Nat.sub_sub readEnd position chunk.length]
  congr 1
  apply List.take_eq_take_iff.mpr
  rw [List.length_drop]
  omega

theorem logfsReadSegments_eq {device : BlockDevice} (husable : device.Usable) (fileId : Nat)
    {offset readEnd total : Nat} (hrange : offset ≤ readEnd) (htotal : readEnd ≤ total)
    (hword : total < 2 ^ 32) :
    ∀ (segments : List LogfsSegment) (position : Nat) (dest : List UInt8),
      Tiles (segments.filter fun segment => segment.fileId == fileId) position total →
      (∀ segment ∈ segments, segment.dataOffset + segment.dataSize ≤ device.byteCount) →
      logfsReadSegments (some device) fileId offset readEnd (readEnd - offset) segments
          (min position readEnd - min position offset) dest
        = (((readEnd - offset : Nat) : Int),
          dest ++ ((segmentBytes device.storage
            (segments.filter fun segment => segment.fileId == fileId)).take
              (readEnd - position)).drop (offset - position)) := by
  intro segments
  induction segments with
  | nil =>
      intro position dest htiles _
      have hposition : position = total := htiles
      rw [logfsReadSegments]
      simp only [List.filter_nil, segmentBytes, List.flatMap_nil, List.take_nil, List.drop_nil,
        List.append_nil, Prod.mk.injEq, and_true]
      congr 1
      omega
  | cons segment rest ih =>
      intro position dest htiles hinside
      have hrest : ∀ other ∈ rest, other.dataOffset + other.dataSize ≤ device.byteCount :=
        fun other hother => hinside other (List.mem_cons_of_mem _ hother)
      by_cases hdone : min position readEnd - min position offset < readEnd - offset
      swap
      · have hempty : ∀ bytes : List UInt8,
            (bytes.take (readEnd - position)).drop (offset - position) = [] := by
          intro bytes
          apply List.drop_eq_nil_of_le
          rw [List.length_take]
          omega
        rw [logfsReadSegments, if_neg hdone, hempty, List.append_nil]
        congr 2
        omega
      by_cases hother : segment.fileId = fileId
      swap
      · rw [logfsReadSegments, if_pos hdone]
        simp only [if_pos (Or.inl hother : segment.fileId ≠ fileId ∨ _)]
        rw [List.filter_cons_of_neg (by simpa using hother)] at htiles ⊢
        exact ih position dest htiles hrest
      rw [List.filter_cons_of_pos (by simpa using hother)] at htiles ⊢
      obtain ⟨hstart, hpos, -, htail⟩ := htiles
      have hbytes := htail.length_segmentBytes device.storage
      have hend : (position + segment.dataSize) % 2 ^ 32 = position + segment.dataSize :=
        Nat.mod_eq_of_lt (by omega)
      rw [logfsReadSegments, if_pos hdone]
      simp only [hstart, hend]
      rw [show segmentBytes device.storage
          (segment :: rest.filter fun segment => segment.fileId == fileId)
          = slice device.storage segment.dataOffset segment.dataSize
            ++ segmentBytes device.storage (rest.filter fun segment => segment.fileId == fileId)
        from rfl]
      by_cases hskip : segment.fileId ≠ fileId ∨ position + segment.dataSize ≤ offset
          ∨ readEnd ≤ position
      · have hbefore : position + segment.dataSize ≤ offset := by
          rcases hskip with hne | hbefore | hafter
          · exact absurd hother hne
          · exact hbefore
          · omega
        have hcopied : min position readEnd - min position offset
            = min (position + segment.dataSize) readEnd
              - min (position + segment.dataSize) offset := by omega
        rw [if_pos hskip, hcopied, ih (position + segment.dataSize) dest htail hrest]
        rw [drop_take_append_skip position (by simpa using hbefore) hrange,
          length_slice]
      · rw [not_or, not_or, Nat.not_le, Nat.not_le] at hskip
        have hinside' := hinside segment List.mem_cons_self
        rw [if_neg (by omega), logfsReadBytes_eq husable (by omega)]
        simp only
        have hcopied : min position readEnd - min position offset
              + (min readEnd (position + segment.dataSize) - max offset position)
            = min (position + segment.dataSize) readEnd
              - min (position + segment.dataSize) offset := by omega
        have hchunk := drop_take_append_chunk
          (slice device.storage segment.dataOffset segment.dataSize)
          (segmentBytes device.storage (rest.filter fun segment => segment.fileId == fileId))
          (show offset < position + _ by simpa using hskip.2.1) hskip.2.2 (by omega)
        rw [length_slice, drop_slice, take_slice, Nat.min_eq_left (by omega)] at hchunk
        rw [hcopied, ih (position + segment.dataSize) _ htail hrest, hchunk, List.append_assoc]

section ReadFile

variable {state : LogfsState} {device : BlockDevice} {files : List LogfsFileState}
  {start stop : Nat}

/-- A part read of a present file returns the number of bytes of the clamped range and delivers
that slice of the contents; an offset behind the end is refused. -/
theorem logfsReadFilePart_eq (hready : state.ready = true) (hdevice : state.blockDevice = some device)
    (husable : device.Usable) (hwf : state.tables.Wf files start stop)
    (hstop : stop ≤ device.byteCount) {name : CString} {slot : Nat}
    (hfind : logfsFindFileState state.tables name.bytes = some slot) (hslot : slot < files.length)
    (offset size : Nat) :
    logfsReadFilePart state name offset size
      = if files[slot].info.size < offset then (-1, [])
        else
          (((min size (files[slot].info.size - offset) : Nat) : Int),
            ((state.tables.contents device.storage files[slot].fileId).drop offset).take size) := by
  have hmem : files[slot] ∈ files := List.getElem_mem hslot
  have hle := hwf.size_le hmem
  have hlength := hwf.length_contents hmem device.storage
  simp only [logfsReadFilePart, hready, Bool.not_true, Bool.false_eq_true, ↓reduceIte, hfind,
    hwf.toHolds.fileAt_eq hslot]
  by_cases hpast : files[slot].info.size < offset
  · rw [if_pos hpast, if_pos hpast]
  rw [if_neg hpast, if_neg hpast]
  have htake : ((state.tables.contents device.storage files[slot].fileId).drop offset).take size
      = ((state.tables.contents device.storage files[slot].fileId).drop offset).take
        (min size (files[slot].info.size - offset)) := by
    apply List.take_eq_take_iff.mpr
    rw [List.length_drop, hlength]
    omega
  rw [htake]
  generalize hclamp : min size (files[slot].info.size - offset) = clamped
  by_cases hzero : clamped = 0
  · rw [if_pos hzero, hzero]
    simp
  rw [if_neg hzero, Nat.mod_eq_of_lt (by omega), hdevice]
  have hread := logfsReadSegments_eq husable files[slot].fileId
    (show offset ≤ offset + clamped by omega) (show _ ≤ files[slot].info.size by omega) (by omega)
    state.tables.segments 0 [] (hwf.tiles _ hmem)
    (fun segment hsegment => (hwf.ranges segment hsegment).2.trans hstop)
  simp only [Nat.zero_min, Nat.sub_zero, Nat.add_sub_cancel_left, List.nil_append] at hread
  rw [hread]
  change ((clamped : Int), ((state.tables.contents device.storage files[slot].fileId).take
    (offset + clamped)).drop offset) = _
  rw [List.drop_take, Nat.add_sub_cancel_left]

end ReadFile

end DuckOs

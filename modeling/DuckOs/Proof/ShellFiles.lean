import DuckOs.Kernel.ShellFiles
import DuckOs.Lib.Hexdump
import DuckOs.Proof.FileRun
import DuckOs.Proof.Klog

/-!
# Files on the console

`cat` prints a file as it is, and what `hexdump` prints can be read back. Both read in pieces of 128 bytes,
through an entry of the table of open files that they give back. `stat` prints the length of what they read.
-/

namespace DuckOs

open ByteStore Hexdump Numeral

/-- The symbols of `shell_dump_hex_line`. -/
def shellMarks : Hexdump.Marks UInt8 where
  digit := asciiDigit
  colon := 0x3a
  blank := 0x20
  newline := 0x0a
  digit_colon := rfl
  digit_blank := rfl
  digit_newline := rfl
  newline_ne_colon := by decide
  newline_ne_blank := by decide

/-! ### Messages -/

theorem kprintf_append {text : List UInt8} (htext : 0x25 ∉ text) (format : List UInt8)
    (args : List KprintfArg) :
    kprintf (text ++ format) args = (kprintf format args).map fun more => text ++ more := by
  induction text with
  | nil =>
      cases hformat : kprintf format args with
      | none => rw [List.nil_append, hformat]; rfl
      | some more => rw [List.nil_append, hformat]; rfl
  | cons letter rest ih =>
      rw [List.mem_cons, not_or] at htext
      rw [List.cons_append, kprintf.eq_def]
      dsimp only
      rw [if_pos (Ne.symm htext.1), ih htext.2]
      cases kprintf format args with
      | none => rfl
      | some more => rfl

theorem kprintf_plain {text : List UInt8} (htext : 0x25 ∉ text) : kprintf text [] = some text := by
  have happend := kprintf_append htext [] []
  rw [List.append_nil] at happend
  rw [happend, kprintf, Option.map_some, List.append_nil]

/-- A message that ends with a string and a newline. -/
theorem kprintf_string {text : List UInt8} (htext : 0x25 ∉ text) (string : List UInt8) :
    kprintf (text ++ [0x25, 0x73, 0x0a]) [.string (some string)] = some (text ++ string ++ [0x0a]) := by
  rw [kprintf_append htext, List.append_assoc]
  simp [kprintf, kprintfConvert]

/-- A message with one number in it. -/
theorem kprintf_number {text unit numeral : List UInt8} (htext : 0x25 ∉ text) (hunit : 0x25 ∉ unit)
    {conversion : UInt8} {word : BitVec 32}
    (hconvert : kprintfConvert conversion [.int word] = some (numeral, [])) :
    kprintf (text ++ 0x25 :: conversion :: unit) [.int word] = some (text ++ numeral ++ unit) := by
  rw [kprintf_append htext, kprintf, if_neg (by decide)]
  simp only [hconvert]
  rw [kprintf_plain hunit, Option.map_some, Option.map_some, List.append_assoc]

theorem kprintfConvert_decimal {word : BitVec 32} {numeral : List UInt8}
    (hput : kputUnsigned word.toNat 10 = some numeral) :
    kprintfConvert 0x75 [.int word] = some (numeral, []) := by
  simp [kprintfConvert, hput]

theorem kprintfConvert_hexadecimal {word : BitVec 32} {numeral : List UInt8}
    (hput : kputUnsigned word.toNat 16 = some numeral) :
    kprintfConvert 0x78 [.int word] = some (numeral, []) := by
  simp [kprintfConvert, hput]

/-! ### Dumps -/

section Dump

variable {offset : Nat} {buffer : List UInt8}

theorem asciiDigit_shellDigit :
    ∀ place < 16, asciiDigit ((ascii "0123456789abcdef").getD place 0) = some place := by decide

theorem shellPrintHexByte_group (byte : UInt8) :
    Group shellMarks byte (0x20 :: shellPrintHexByte byte) := by
  refine ⟨_, _, rfl, ?_⟩
  have hhigh : ((byte >>> 4) &&& 0x0f).toNat = byte.toNat / 16 := by
    have hshift : (byte >>> 4).toNat = byte.toNat / 16 := Nat.shiftRight_eq_div_pow byte.toNat 4
    have hlt := byte.toNat_lt
    calc
      ((byte >>> 4) &&& 0x0f).toNat = (byte >>> 4).toNat % 16 := by
        rw [UInt8.toNat_and]
        exact Nat.and_two_pow_sub_one_eq_mod _ 4
      _ = byte.toNat / 16 := by omega
  have hlow : (byte &&& 0x0f).toNat = byte.toNat % 16 := by
    rw [UInt8.toNat_and]
    exact Nat.and_two_pow_sub_one_eq_mod _ 4
  have hlt := byte.toNat_lt
  rw [hhigh, hlow, value_eq_some_iff]
  refine ⟨List.cons_ne_nil _ _, [byte.toNat / 16, byte.toNat % 16], ?_, ?_, ?_⟩
  · rw [List.map_cons, List.map_singleton]
    change [asciiDigit _, asciiDigit _] = _
    rw [asciiDigit_shellDigit _ (by omega), asciiDigit_shellDigit _ (by omega)]
    rfl
  · intro place hplace
    rw [List.mem_cons, List.mem_singleton] at hplace
    omega
  · change _ = Nat.ofDigits 16 [byte.toNat % 16, byte.toNat / 16]
    rw [Nat.ofDigits_cons, Nat.ofDigits_singleton]
    omega

theorem shellDumpGlyph_ne_newline (ch : UInt8) : shellDumpGlyph ch ≠ 0x0a := by
  unfold shellDumpGlyph
  split
  · rename_i hprintable
    rintro rfl
    exact absurd hprintable.1 (by decide)
  · decide

/-- The numeral of the offset and the colon. -/
theorem kprintf_offset (hoffset : offset < 2 ^ 32) :
    ∃ numeral, kprintf (ascii "%x:") [.int (BitVec.ofNat 32 offset)] = some (numeral ++ [0x3a])
      ∧ value asciiDigit 16 numeral = some offset := by
  have hword : (BitVec.ofNat 32 offset).toNat = offset := by
    rw [BitVec.toNat_ofNat, Nat.mod_eq_of_lt hoffset]
  obtain ⟨numeral, hput, hvalue, -⟩ :=
    kputUnsigned_hexadecimal (hoffset.trans (show 2 ^ 32 < 2 ^ 64 by decide))
  refine ⟨numeral, ?_, hvalue⟩
  change kprintf (0x25 :: 0x78 :: [0x3a]) _ = _
  rw [kprintf, if_neg (by decide)]
  simp only [kprintfConvert, hword, hput]
  rfl

theorem shellDumpHexLine_line (buffer : List UInt8) (hoffset : offset < 2 ^ 32) :
    ∃ line, shellDumpHexLine offset buffer = some (line ++ [0x0a])
      ∧ Line shellMarks offset buffer line := by
  obtain ⟨numeral, hprint, hvalue⟩ := kprintf_offset hoffset
  -- The padding and the two blanks, the glyphs, and the bars around them.
  let tail := (List.replicate (16 - buffer.length) (ascii "   ")).flatten ++ ascii "  |"
    ++ buffer.map shellDumpGlyph ++ ascii "|"
  refine ⟨numeral ++ 0x3a :: ((buffer.map fun byte => 0x20 :: shellPrintHexByte byte).flatten ++ tail),
    ?_, numeral, _, tail, rfl, hvalue, ?_, ?_, ?_⟩
  · have hend : ascii "|\n" = ascii "|" ++ [0x0a] := rfl
    rw [shellDumpHexLine, hprint, Option.map_some, hend, List.flatMap_def, shellHexdumpBytesPerLine]
    simp only [tail, List.append_assoc, List.cons_append, List.nil_append]
  · rw [List.forall₂_map_right_iff]
    exact List.forall₂_same.mpr fun byte _ => shellPrintHexByte_group byte
  · cases hpadding : 16 - buffer.length with
    | zero =>
        simp only [tail, hpadding, List.replicate_zero, List.flatten_nil, List.nil_append]
        exact readGroups_blank _
    | succ padding =>
        simp only [tail, hpadding, List.replicate_succ, List.flatten_cons, List.append_assoc]
        exact readGroups_blank _
  · simp only [tail, List.mem_append, List.mem_flatten, List.mem_replicate, List.mem_map]
    rintro (((⟨piece, ⟨-, rfl⟩, hmem⟩ | hmem) | ⟨ch, -, hch⟩) | hmem)
    · exact absurd hmem (by decide)
    · exact absurd hmem (by decide)
    · exact shellDumpGlyph_ne_newline ch hch
    · exact absurd hmem (by decide)

theorem shellDumpLines_end {lineOffset : Nat} (hend : buffer.length ≤ lineOffset) (fuel : Nat) :
    shellDumpLines offset buffer fuel lineOffset = some [] := by
  cases fuel with
  | zero => rfl
  | succ fuel => rw [shellDumpLines, if_neg (Nat.not_lt_of_le hend)]

/-- The lines of a buffer from one of them on. -/
theorem shellDumpLines_dump (hword : offset + buffer.length ≤ 2 ^ 32) :
    ∀ fuel lineOffset, buffer.length ≤ lineOffset + fuel * 16 →
      ∃ text, shellDumpLines offset buffer fuel lineOffset = some text
        ∧ Dump shellMarks (offset + lineOffset) (buffer.drop lineOffset) text := by
  intro fuel
  induction fuel with
  | zero =>
      intro lineOffset hfuel
      refine ⟨[], rfl, ?_⟩
      rw [List.drop_eq_nil_of_le (by omega)]
      exact .nil
  | succ fuel ih =>
      intro lineOffset hfuel
      by_cases hmore : lineOffset < buffer.length
      · have htake : (buffer.drop lineOffset).take (min (buffer.length - lineOffset) 16)
            = (buffer.drop lineOffset).take 16 := by
          rw [← List.length_drop, Nat.min_comm, ← List.take_take, List.take_length]
        obtain ⟨line, hprint, hline⟩ := @shellDumpHexLine_line (offset + lineOffset)
          ((buffer.drop lineOffset).take 16) (by omega)
        obtain ⟨text, htext, hdump⟩ := ih (lineOffset + 16) (by omega)
        rw [shellDumpLines, if_pos hmore]
        simp only [shellHexdumpBytesPerLine, htake, hprint, htext, Option.map_some]
        refine ⟨_, rfl, ?_⟩
        have hparts : buffer.drop lineOffset
            = (buffer.drop lineOffset).take 16 ++ buffer.drop (lineOffset + 16) := by
          rw [← List.drop_drop, List.take_append_drop]
        rw [hparts, List.append_assoc, List.singleton_append]
        apply Dump.cons hline
        by_cases hlast : buffer.length ≤ lineOffset + 16
        · rw [shellDumpLines_end hlast] at htext
          rw [List.drop_eq_nil_of_le hlast, ← Option.some.inj htext]
          exact .nil
        · rw [List.length_take, List.length_drop, Nat.min_eq_left (by omega), Nat.add_assoc]
          exact hdump
      · rw [shellDumpLines_end (by omega), List.drop_eq_nil_of_le (by omega)]
        exact ⟨[], rfl, .nil⟩

/-- The dump of a block is read back. -/
theorem shellBlockDump_read (device : NamedDevice) {blockNumber : Nat}
    (hblock : blockNumber < device.device.blockCount)
    (hsize : device.device.blockSize ≤ shellBlockDumpBytes) :
    ∃ text, shellBlockDump device blockNumber = some text
      ∧ Hexdump.read shellMarks text = some (slice device.device.storage
        (blockNumber * device.device.blockSize) device.device.blockSize) := by
  have hlength : (slice device.device.storage (blockNumber * device.device.blockSize)
      device.device.blockSize).length = device.device.blockSize := length_slice
  rw [shellBlockDumpBytes] at hsize
  obtain ⟨text, htext, hdump⟩ := @shellDumpLines_dump 0
    (slice device.device.storage (blockNumber * device.device.blockSize) device.device.blockSize)
    (by omega) device.device.blockSize 0 (by omega)
  refine ⟨text, ?_, read_of_dump hdump⟩
  rw [shellBlockDump, BlockDevice.readBlocks_one hblock]
  exact htext

end Dump

/-! ### Files -/

section Files

variable {vfs : VfsState} {device : BlockDevice} {table : FileTable} {path : List UInt8}

theorem OpenFile.Shows.length_lt (hmounted : vfs.Mounted device) {file : File} {shown : OpenFile}
    (hshows : OpenFile.Shows vfs device file shown) : shown.bytes.length < 2 ^ 31 := by
  obtain ⟨entry, hentry, -, -, hsize, -⟩ := hshows.names
  have hshort := hmounted.short entry hentry
  rw [hshows.length_bytes, hsize]
  omega

/-- A read takes the next piece, and the rest is still there. -/
theorem OpenFile.Shows.readPiece (hmounted : vfs.Mounted device) {file : File} {shown : OpenFile}
    (hshows : OpenFile.Shows vfs device file shown) :
    ∃ piece next, fileRead vfs file shellFileBufferMax = some (piece, next)
      ∧ OpenFile.Shows vfs device next ⟨shown.bytes, shown.position + piece.length⟩
      ∧ piece ++ shown.bytes.drop (shown.position + piece.length)
        = shown.bytes.drop shown.position
      ∧ (piece = [] → shown.bytes.drop shown.position = []) := by
  obtain ⟨next, hread, hnext⟩ := hshows.read hmounted shellFileBufferMax
  refine ⟨_, next, hread, hnext, ?_, ?_⟩
  · rw [← List.drop_drop]
    exact (List.prefix_append_drop (List.take_prefix _ _)).symm
  · intro hnil
    exact (List.take_eq_nil_iff.mp hnil).resolve_left (by decide)

/-- The bytes behind the position are printed, and the last of them is remembered. -/
theorem shellCatLoop_eq (hmounted : vfs.Mounted device) :
    ∀ (fuel : Nat) {file : File} {shown : OpenFile} (lastChar : Option UInt8),
      OpenFile.Shows vfs device file shown → shown.bytes.length - shown.position < fuel →
      shellCatLoop vfs fuel file lastChar
        = (shown.bytes.drop shown.position, false,
          (shown.bytes.drop shown.position).getLast?.or lastChar) := by
  intro fuel
  induction fuel with
  | zero => exact fun _ _ hfuel => absurd hfuel (Nat.not_lt_zero _)
  | succ fuel ih =>
      intro file shown lastChar hshows hfuel
      obtain ⟨piece, next, hread, hnext, hparts, hend⟩ := hshows.readPiece hmounted
      rw [shellCatLoop, hread]
      cases piece with
      | nil =>
          rw [hend rfl]
          rfl
      | cons byte bytes =>
          have hlength := congrArg List.length hparts
          rw [List.length_append, List.length_drop, List.length_drop, List.length_cons] at hlength
          dsimp only
          rw [ih _ hnext (by rw [List.length_cons]; dsimp only; omega)]
          dsimp only
          rw [hparts, ← hparts, List.getLast?_append, Option.or_assoc]
          rfl

/-- The dump of the bytes behind the position. -/
theorem shellHexdumpLoop_dump (hmounted : vfs.Mounted device) :
    ∀ (fuel : Nat) {file : File} {shown : OpenFile},
      OpenFile.Shows vfs device file shown → shown.bytes.length - shown.position < fuel →
      ∃ text, shellHexdumpLoop vfs shown.bytes.length fuel file shown.position = some (text, false)
        ∧ Dump shellMarks shown.position (shown.bytes.drop shown.position) text := by
  intro fuel
  induction fuel with
  | zero => exact fun _ hfuel => absurd hfuel (Nat.not_lt_zero _)
  | succ fuel ih =>
      intro file shown hshows hfuel
      by_cases hmore : shown.bytes.length ≤ shown.position
      · rw [shellHexdumpLoop, if_pos hmore, List.drop_eq_nil_of_le hmore]
        exact ⟨[], rfl, .nil⟩
      · obtain ⟨piece, next, hread, hnext, hparts, hend⟩ := hshows.readPiece hmounted
        rw [shellHexdumpLoop, if_neg hmore, hread]
        cases piece with
        | nil =>
            rw [hend rfl]
            exact ⟨[], rfl, .nil⟩
        | cons byte bytes =>
            have hlength := congrArg List.length hparts
            have hword := hshows.length_lt hmounted
            rw [List.length_append, List.length_drop, List.length_drop] at hlength
            obtain ⟨text, htext, hdump⟩ := @shellDumpLines_dump shown.position (byte :: bytes) (by omega)
              (byte :: bytes).length 0 (by omega)
            obtain ⟨rest, hloop, hrest⟩ := ih hnext (by rw [List.length_cons] at hlength ⊢; dsimp only; omega)
            dsimp only at hloop ⊢
            rw [htext, hloop, ← hparts]
            exact ⟨text ++ rest, rfl, hdump.append hrest⟩

/-- A regular file that a path names is opened at its start, in a free entry. -/
theorem fileOpen_contents (hmounted : vfs.Mounted device) (hfree : ∃ handle, table handle = none)
    {bytes : List UInt8} (hcontents : vfs.contents device path = some bytes) :
    ∃ handle file, fileOpen vfs table path = some (handle, file) ∧ table handle = none
      ∧ file.size = bytes.length ∧ OpenFile.Shows vfs device file ⟨bytes, 0⟩
      ∧ ∃ info, vfsStat vfs path = some info ∧ info.flags % 2 = 0 ∧ info.size = bytes.length := by
  obtain ⟨entry, hnamed, rfl⟩ := Option.map_eq_some_iff.mp hcontents
  have hnames := namedFile_names hmounted.ready hmounted.tinyfs_ready hnamed
  have hlength : (entry.contents device).length = entry.size := length_slice
  cases hfind : (List.finRange fileTableMax).find? fun handle => (table handle).isNone with
  | none =>
      obtain ⟨handle, hhandle⟩ := hfree
      have hused := List.find?_eq_none.mp hfind handle (List.mem_finRange handle)
      rw [hhandle] at hused
      exact absurd rfl hused
  | some handle =>
      have hhandle := List.find?_some hfind
      refine ⟨handle, ⟨entry.name, entry.size, 0, entry.flags, entry.size_lt⟩, ?_,
        Option.isNone_iff_eq_none.mp hhandle, hlength.symm,
        ⟨⟨entry, namedFile_mem hnamed, hnames.name, rfl, rfl, rfl⟩, rfl, Nat.zero_le _⟩,
        _, hnames.stat_eq, hnames.regular, hlength.symm⟩
      rw [fileOpen_eq hmounted, hnamed, Option.bind_some, hfind]
      rfl

theorem fileOpen_none (hmounted : vfs.Mounted device) (hcontents : vfs.contents device path = none) :
    fileOpen vfs table path = none := by
  rw [fileOpen_eq hmounted, Option.map_eq_none_iff.mp hcontents, Option.bind_none]

/-- The entry is free again. -/
theorem fileClose_update {handle : Fin fileTableMax} (hhandle : table handle = none) (file : File) :
    fileClose (Function.update table handle (some file)) handle = table := by
  rw [fileClose, Function.update_idem, ← hhandle, Function.update_eq_self]

theorem shellPrintPathError_eq (action : List UInt8) (hpath : path ≠ []) :
    shellPrintPathError action path = some (action ++ ascii " failed: " ++ path ++ [0x0a]) := by
  rw [shellPrintPathError, if_neg hpath]
  simp [kprintf, kprintfConvert, ascii]

/-- The four lines of `stat`. -/
def shellStatText (name type size flags : List UInt8) : List UInt8 :=
  (ascii "path: " ++ name ++ [0x0a]) ++ (ascii "type: " ++ type ++ [0x0a])
    ++ (ascii "size: " ++ size ++ ascii " bytes\n") ++ (ascii "flags: 0x" ++ flags ++ [0x0a])

/-- `stat` prints what `vfs_stat` finds, the size and the flags as numerals, or the error. -/
theorem shellPrintStat_eq (vfs : VfsState) (hpath : path ≠ []) :
    match vfsStat vfs path with
    | none => shellPrintStat vfs path = some (ascii "stat" ++ ascii " failed: " ++ path ++ [0x0a])
    | some info =>
        ∃ size flags, shellPrintStat vfs path
            = some (shellStatText info.name
              (if info.flags % 2 = 1 then ascii "directory" else ascii "file") size flags)
          ∧ Shortest asciiDigit 10 size info.size ∧ Shortest asciiDigit 16 flags (info.flags % 2 ^ 32) := by
  have hnameFormat : ascii "path: %s\n" = ascii "path: " ++ [0x25, 0x73, 0x0a] := by decide +kernel
  have htypeFormat : ascii "type: %s\n" = ascii "type: " ++ [0x25, 0x73, 0x0a] := by decide +kernel
  have hsizeFormat : ascii "size: %u bytes\n" = ascii "size: " ++ 0x25 :: 0x75 :: ascii " bytes\n" := by
    decide +kernel
  have hflagsFormat : ascii "flags: 0x%x\n" = ascii "flags: 0x" ++ 0x25 :: 0x78 :: [0x0a] := by
    decide +kernel
  rw [shellPrintStat, if_neg hpath]
  cases hstat : vfsStat vfs path with
  | none => exact shellPrintPathError_eq (ascii "stat") hpath
  | some info =>
      have hsizeWord : (BitVec.ofNat 32 info.size).toNat = info.size := by
        rw [BitVec.toNat_ofNat, Nat.mod_eq_of_lt info.size_lt]
      obtain ⟨size, hsize, hdecimal⟩ := kputUnsigned_decimal info.size_lt
      obtain ⟨flags, hflags, hhexadecimal⟩ := @kputUnsigned_hexadecimal (info.flags % 2 ^ 32) (by omega)
      rw [← hsizeWord] at hsize
      rw [← BitVec.toNat_ofNat] at hflags
      refine ⟨size, flags, ?_, hdecimal, hhexadecimal⟩
      dsimp only
      rw [hnameFormat, htypeFormat, hsizeFormat, hflagsFormat, kprintf_string (by decide),
        kprintf_string (by decide), kprintf_number (by decide) (by decide) (kprintfConvert_decimal hsize),
        kprintf_number (by decide) (by decide) (kprintfConvert_hexadecimal hflags)]
      simp only [shellPrintAll, Option.map_some, shellStatText, List.append_assoc, List.append_nil]

/-- A regular file has the length of its contents. -/
theorem shellPrintStat_contents (hmounted : vfs.Mounted device) (hpath : path ≠ []) {bytes : List UInt8}
    (hcontents : vfs.contents device path = some bytes) :
    ∃ name size flags, shellPrintStat vfs path = some (shellStatText name (ascii "file") size flags)
      ∧ Shortest asciiDigit 10 size bytes.length := by
  obtain ⟨-, -, -, -, -, -, info, hstat, hregular, hsize⟩ :=
    @fileOpen_contents _ _ (fun _ => none) _ hmounted ⟨0, rfl⟩ bytes hcontents
  have hprint := shellPrintStat_eq vfs hpath
  rw [hstat] at hprint
  obtain ⟨size, flags, htext, hdecimal, -⟩ := hprint
  rw [if_neg (by omega)] at htext
  exact ⟨info.name, size, flags, htext, hsize ▸ hdecimal⟩

/-- The contents of a file, with a newline behind them unless there is one. -/
def shellCatText (bytes : List UInt8) : List UInt8 :=
  if bytes.getLast? = some 0x0a then bytes else bytes ++ [0x0a]

theorem shellCatFile_eq (hmounted : vfs.Mounted device) (hfree : ∃ handle, table handle = none)
    (hpath : path ≠ []) {bytes : List UInt8} (hcontents : vfs.contents device path = some bytes) :
    shellCatFile vfs table path = (some (shellCatText bytes), table) := by
  obtain ⟨handle, file, hopen, hhandle, hsize, hshows, -⟩ :=
    fileOpen_contents hmounted hfree hcontents
  rw [shellCatFile, if_neg hpath, hopen]
  dsimp only
  rw [shellCatLoop_eq hmounted _ none hshows (by dsimp only; omega), List.drop_zero, Option.or_none,
    fileClose_update hhandle, if_neg Bool.false_ne_true, shellCatText]
  split
  · rfl
  · rfl

theorem shellHexdumpFile_eq (hmounted : vfs.Mounted device) (hfree : ∃ handle, table handle = none)
    (hpath : path ≠ []) {bytes : List UInt8} (hcontents : vfs.contents device path = some bytes) :
    ∃ text, shellHexdumpFile vfs table path = (some text, table)
      ∧ Hexdump.read shellMarks text = some bytes := by
  obtain ⟨handle, file, hopen, hhandle, hsize, hshows, info, hstat, hregular, hinfo⟩ :=
    fileOpen_contents hmounted hfree hcontents
  obtain ⟨text, hloop, hdump⟩ :=
    shellHexdumpLoop_dump hmounted (bytes.length + 1) hshows (by dsimp only; omega)
  refine ⟨text, ?_, read_of_dump hdump⟩
  dsimp only at hloop
  rw [shellHexdumpFile, if_neg hpath, hstat, hopen]
  dsimp only
  rw [if_neg (by omega), hinfo, hloop]
  dsimp only
  rw [if_neg Bool.false_ne_true, fileClose_update hhandle]

end Files

/-- `cat` prints the file that a path names and nothing else, and an error for any other path. -/
theorem shell_cat_prints_contents (vfs : VfsState) (device : BlockDevice)
    (hmounted : vfs.Mounted device) (table : FileTable) (hfree : ∃ handle, table handle = none)
    (path : List UInt8) (hpath : path ≠ []) :
    shellCatFile vfs table path
      = (match vfs.contents device path with
          | some bytes => some (shellCatText bytes)
          | none => some (ascii "cat failed: " ++ path ++ [0x0a]), table) := by
  cases hcontents : vfs.contents device path with
  | none =>
      rw [shellCatFile, if_neg hpath, fileOpen_none hmounted hcontents]
      dsimp only
      rw [shellPrintPathError_eq _ hpath]
      rfl
  | some bytes => exact shellCatFile_eq hmounted hfree hpath hcontents

theorem shell_cat_prints_contents_two_blocks :
    shellCatFile twoBlockVfs (fun _ => none) [0x2f, 0x61]
      = (some [1, 2, 3, 4, 5, 6, 0x0a], fun _ => none) := by
  rw [shell_cat_prints_contents twoBlockVfs _ twoBlockVfs_mounted _ ⟨0, rfl⟩ _ (List.cons_ne_nil _ _)]
  rfl

/-- What `hexdump` prints of a file is read back as the file, offsets included. -/
theorem shell_hexdump_reads_back (vfs : VfsState) (device : BlockDevice)
    (hmounted : vfs.Mounted device) (table : FileTable) (hfree : ∃ handle, table handle = none)
    (path : List UInt8) (hpath : path ≠ []) :
    (shellHexdumpFile vfs table path).2 = table
      ∧ ∃ text, (shellHexdumpFile vfs table path).1 = some text
        ∧ match vfs.contents device path with
          | some bytes => Hexdump.read shellMarks text = some bytes
          | none => text = ascii "hexdump failed: " ++ path ++ [0x0a] := by
  cases hcontents : vfs.contents device path with
  | none =>
      have herror := shellPrintPathError_eq (ascii "hexdump") hpath
      rw [shellHexdumpFile, if_neg hpath, fileOpen_none hmounted hcontents]
      cases vfsStat vfs path with
      | none => exact ⟨rfl, _, herror, rfl⟩
      | some info =>
          dsimp only
          split
          · exact ⟨rfl, _, herror, rfl⟩
          · exact ⟨rfl, _, herror, rfl⟩
  | some bytes =>
      obtain ⟨text, htext, hread⟩ := shellHexdumpFile_eq hmounted hfree hpath hcontents
      rw [htext]
      exact ⟨rfl, text, rfl, hread⟩

theorem shell_hexdump_reads_back_two_blocks :
    ∃ text, (shellHexdumpFile twoBlockVfs (fun _ => none) [0x61]).1 = some text
      ∧ Hexdump.read shellMarks text = some [1, 2, 3, 4, 5, 6] := by
  obtain ⟨-, text, htext, hread⟩ := shell_hexdump_reads_back twoBlockVfs _ twoBlockVfs_mounted
    (fun _ => none) ⟨0, rfl⟩ [0x61] (List.cons_ne_nil _ _)
  exact ⟨text, htext, hread⟩

end DuckOs

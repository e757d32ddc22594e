import DuckOs.Kernel.UserImage
import DuckOs.Proof.Tinyfs

/-!
# The loader's reads

An open file stands for the bytes of the entry that its path names. Reads deliver these bytes, in the
order of the file, as long as the 32-bit start of the part does not wrap around.
-/

namespace DuckOs

open ByteStore

/-- A regular file on a mounted device. -/
structure VfsState.Stores (vfs : VfsState) (device : BlockDevice) (entry : TinyfsFile) : Prop where
  names : vfs.Names entry.name entry
  device_eq : vfs.tinyfs.device = some device
  usable : device.Usable

/-- A handle for the entry. -/
structure File.Of (entry : TinyfsFile) (file : File) : Prop where
  path_eq : file.path = entry.name
  size_eq : file.size = entry.size

section Reads

variable {vfs : VfsState} {device : BlockDevice} {entry : TinyfsFile} {file next : File}

theorem length_contents (device : BlockDevice) (entry : TinyfsFile) :
    (entry.contents device).length = entry.size := length_slice

theorem take_drop_contents (offset size : Nat) :
    ((entry.contents device).drop offset).take size
      = slice device.storage (entry.offset + offset) (min size (entry.size - offset)) := by
  rw [TinyfsFile.contents, drop_slice, take_slice]

theorem File.Of.setOffset (hof : file.Of entry) (offset : Nat) :
    ({ file with offset := offset } : File).Of entry := ⟨hof.path_eq, hof.size_eq⟩

/-- A read inside the file delivers the bytes from its offset on, or fails when they are not in the
device. -/
theorem VfsState.Stores.fileRead_eq (hstores : vfs.Stores device entry) (hof : file.Of entry)
    (hlow : entry.offset + file.offset < 2 ^ 32) (hlt : file.offset < entry.size) {size : Nat}
    (hsize : 0 < size) :
    fileRead vfs file size
      = if entry.offset + file.offset + min size (entry.size - file.offset) ≤ device.byteCount then
          some (((entry.contents device).drop file.offset).take size,
            { file with offset := file.offset + min size (entry.size - file.offset) })
        else none := by
  have hentry := entry.size_lt
  have hmore : ¬ file.size ≤ file.offset := by
    rw [hof.size_eq]
    omega
  have hpart := tinyfsReadFilePart_of_lt hstores.device_eq hstores.usable hstores.names.found hlt
    hlow (show 0 < min size (entry.size - file.offset) by omega)
  rw [Nat.min_assoc, Nat.min_self] at hpart
  have hvfs : vfsReadFilePart vfs file.path file.offset (min size (file.size - file.offset))
      = tinyfsReadFilePart vfs.tinyfs entry.name file.offset
          (min size (entry.size - file.offset)) := by
    rw [hof.path_eq, hof.size_eq, hstores.names.readFilePart_eq]
  rw [fileRead, if_neg hmore, hvfs, hpart]
  split
  · rw [take_drop_contents, Option.map_some, length_slice, Nat.mod_eq_of_lt (by omega)]
  · rfl

/-- At the end of the file nothing is read. -/
theorem File.Of.fileRead_end (hof : file.Of entry) (hend : entry.size ≤ file.offset) (size : Nat) :
    fileRead vfs file size = some ([], file) := by
  rw [fileRead, if_pos (by rwa [hof.size_eq])]

theorem VfsState.Stores.of_fileRead (hstores : vfs.Stores device entry) (hof : file.Of entry)
    (hlow : file.offset < entry.size → entry.offset + file.offset < 2 ^ 32) {size : Nat}
    (hsize : 0 < size) {bytes : List UInt8} (hread : fileRead vfs file size = some (bytes, next)) :
    bytes = ((entry.contents device).drop file.offset).take size ∧ next.Of entry
      ∧ next.offset = file.offset + bytes.length := by
  by_cases hlt : file.offset < entry.size
  · rw [hstores.fileRead_eq hof (hlow hlt) hlt hsize] at hread
    split at hread
    · cases hread
      refine ⟨rfl, hof.setOffset _, ?_⟩
      rw [take_drop_contents, length_slice]
    · cases hread
  · rw [hof.fileRead_end (Nat.le_of_not_lt hlt)] at hread
    cases hread
    refine ⟨?_, hof, rfl⟩
    rw [List.drop_eq_nil_of_le, List.take_nil]
    rw [length_contents]
    exact Nat.le_of_not_lt hlt

/-- `user_read_exact` delivers the bytes from the offset on, and all that were asked for. -/
theorem VfsState.Stores.of_userReadExact (hstores : vfs.Stores device entry) :
    ∀ (fuel remaining : Nat) (buffer : List UInt8) {file next : File} {bytes : List UInt8},
      file.Of entry →
      (0 < remaining → file.offset < entry.size → entry.offset + file.offset < 2 ^ 32) →
      userReadExact vfs fuel remaining buffer file = (some bytes, next) →
      bytes = buffer ++ ((entry.contents device).drop file.offset).take remaining
        ∧ file.offset + remaining ≤ max file.offset entry.size ∧ next.Of entry := by
  intro fuel
  induction fuel with
  | zero =>
      intro remaining buffer file next bytes hof _ hread
      rw [userReadExact, Prod.mk.injEq] at hread
      obtain ⟨hbytes, rfl⟩ := hread
      split at hbytes
      · rename_i hzero
        cases hbytes
        rw [hzero, List.take_zero, List.append_nil]
        exact ⟨rfl, by omega, hof⟩
      · cases hbytes
  | succ fuel ih =>
      intro remaining buffer file next bytes hof hlow hread
      rw [userReadExact] at hread
      split at hread
      · rename_i hzero
        cases hread
        rw [hzero, List.take_zero, List.append_nil]
        exact ⟨rfl, by omega, hof⟩
      rename_i hpos
      split at hread
      · cases hread
      rename_i chunk after hchunk
      split at hread
      · cases hread
      rename_i hsome
      obtain ⟨hbytes, hafter, hoffset⟩ := hstores.of_fileRead hof (hlow (Nat.pos_of_ne_zero hpos))
        (Nat.pos_of_ne_zero hpos) hchunk
      have hlength : chunk.length = min remaining (entry.size - file.offset) := by
        rw [hbytes, List.length_take, List.length_drop, length_contents]
      obtain ⟨hrest, hend, hnext⟩ := ih _ _ hafter (by omega) hread
      refine ⟨?_, ?_, hnext⟩
      · have hnothing : ((entry.contents device).drop after.offset).take (remaining - chunk.length)
            = [] := by
          rw [List.take_eq_nil_iff, List.drop_eq_nil_iff, length_contents]
          omega
        rw [hrest, hnothing, List.append_nil, hbytes]
      · omega

theorem VfsState.Stores.of_userReadExactAt (hstores : vfs.Stores device entry) (hof : file.Of entry)
    {offset size : Nat} (hlow : offset < entry.size → entry.offset + offset < 2 ^ 32)
    {bytes : List UInt8} (hread : userReadExactAt vfs file offset size = (some bytes, next)) :
    bytes = ((entry.contents device).drop offset).take size ∧ offset + size ≤ entry.size := by
  unfold userReadExactAt fileSeek at hread
  by_cases hbeyond : file.size < offset
  · rw [if_pos hbeyond] at hread
    cases hread
  · rw [if_neg hbeyond] at hread
    obtain ⟨hbytes, hend, -⟩ := hstores.of_userReadExact size size []
      (hof.setOffset offset) (fun _ => hlow) hread
    have hsize := hof.size_eq
    dsimp only at hbytes hend
    exact ⟨hbytes, by omega⟩

/-- Reads move the offset and nothing else. -/
theorem File.Of.fileRead (hof : file.Of entry) {size : Nat} {bytes : List UInt8}
    (hread : fileRead vfs file size = some (bytes, next)) : next.Of entry := by
  unfold DuckOs.fileRead at hread
  split at hread
  · cases hread
    exact hof
  · obtain ⟨part, -, heq⟩ := Option.map_eq_some_iff.mp hread
    cases heq
    exact hof.setOffset _

theorem File.Of.userReadExactAt (hof : file.Of entry) (offset size : Nat) :
    (userReadExactAt vfs file offset size).2.Of entry := by
  have hexact : ∀ (fuel remaining : Nat) (buffer : List UInt8) {file : File}, file.Of entry →
      (userReadExact vfs fuel remaining buffer file).2.Of entry := by
    intro fuel remaining buffer file hof
    fun_induction userReadExact with
    | case1 => exact hof
    | case2 => exact hof
    | case3 => exact hof
    | case4 _ _ _ _ _ _ hread => exact hof.fileRead hread
    | case5 _ _ _ _ _ _ _ hread _ ih => exact ih (hof.fileRead hread)
  unfold DuckOs.userReadExactAt fileSeek
  by_cases hbeyond : file.size < offset
  · rw [if_pos hbeyond]
    exact hof
  · rw [if_neg hbeyond]
    exact hexact size size [] (hof.setOffset offset)

/-- A header that lies in the file and in the device is read. -/
theorem VfsState.Stores.userReadExactAt_start (hstores : vfs.Stores device entry)
    (hof : file.Of entry) {size : Nat} (hpos : 0 < size) (hsize : size ≤ entry.size)
    (hinside : entry.offset + size ≤ device.byteCount) :
    (userReadExactAt vfs file 0 size).1 = some ((entry.contents device).take size) := by
  have hread := hstores.fileRead_eq (hof.setOffset 0) (by have := entry.offset_lt; exact this)
    (by exact Nat.lt_of_lt_of_le hpos hsize) hpos
  dsimp only at hread
  rw [Nat.add_zero, Nat.sub_zero, Nat.min_eq_left hsize, if_pos hinside, List.drop_zero] at hread
  obtain ⟨rounds, rfl⟩ := Nat.exists_eq_succ_of_ne_zero hpos.ne'
  have hlength : ((entry.contents device).take (rounds + 1)).length = rounds + 1 := by
    rw [List.length_take, length_contents]
    omega
  have hsome : (entry.contents device).take (rounds + 1) ≠ [] := by
    intro hnil
    rw [hnil] at hlength
    cases hlength
  have hdone : ∀ fuel buffer file, userReadExact vfs fuel 0 buffer file = (some buffer, file) := by
    intro fuel buffer file
    cases fuel with
    | zero => rw [userReadExact, if_pos rfl]
    | succ fuel => rw [userReadExact, if_pos rfl]
  unfold userReadExactAt fileSeek
  rw [if_neg (Nat.not_lt_zero _)]
  dsimp only
  rw [userReadExact, if_neg (Nat.succ_ne_zero _), hread]
  dsimp only
  rw [if_neg hsome, hlength, Nat.sub_self, hdone, List.nil_append]

end Reads

/-! ### Files at another offset -/

/-- The same file at another offset. -/
def File.Moved (origin file : File) : Prop := file = { origin with offset := file.offset }

section Moved

variable {vfs : VfsState} {origin file next : File}

theorem File.moved_refl (file : File) : file.Moved file := rfl

theorem File.Moved.setOffset (hmoved : origin.Moved file) (offset : Nat) :
    origin.Moved { file with offset := offset } := by
  rw [hmoved]
  rfl

theorem File.Moved.size_eq (hmoved : origin.Moved file) : file.size = origin.size := by
  rw [hmoved]

/-- Where a file is read does not depend on where it was read before. -/
theorem File.Moved.fileSeek_eq (hmoved : origin.Moved file) (offset : Nat) :
    DuckOs.fileSeek file offset = DuckOs.fileSeek origin offset := by
  rw [hmoved]
  rfl

theorem File.Moved.fileRead (hmoved : origin.Moved file) {size : Nat} {bytes : List UInt8}
    (hread : DuckOs.fileRead vfs file size = some (bytes, next)) : origin.Moved next := by
  unfold DuckOs.fileRead at hread
  split at hread
  · cases hread
    exact hmoved
  · obtain ⟨part, -, heq⟩ := Option.map_eq_some_iff.mp hread
    cases heq
    exact hmoved.setOffset _

theorem File.Moved.userReadExactAt (hmoved : origin.Moved file) (offset size : Nat) :
    origin.Moved (DuckOs.userReadExactAt vfs file offset size).2
      ∧ (DuckOs.userReadExactAt vfs file offset size).1
        = (DuckOs.userReadExactAt vfs origin offset size).1 := by
  have hexact : ∀ (fuel remaining : Nat) (buffer : List UInt8) {file : File}, origin.Moved file →
      origin.Moved (userReadExact vfs fuel remaining buffer file).2 := by
    intro fuel remaining buffer file hmoved
    fun_induction userReadExact with
    | case1 => exact hmoved
    | case2 => exact hmoved
    | case3 => exact hmoved
    | case4 _ _ _ _ _ _ hread => exact hmoved.fileRead hread
    | case5 _ _ _ _ _ _ _ hread _ ih => exact ih (hmoved.fileRead hread)
  unfold DuckOs.userReadExactAt
  rw [hmoved.fileSeek_eq]
  cases hseek : fileSeek origin offset with
  | none => exact ⟨hmoved, rfl⟩
  | some seeked =>
      have hseeked : origin.Moved seeked := by
        unfold fileSeek at hseek
        split at hseek
        · cases hseek
        · cases hseek
          rfl
      exact ⟨hexact size size [] hseeked, rfl⟩

theorem File.Moved.userReadProgramHeader (hmoved : origin.Moved file) (header : ElfHeader)
    (index : Nat) :
    origin.Moved (DuckOs.userReadProgramHeader vfs file header index).2
      ∧ (DuckOs.userReadProgramHeader vfs file header index).1
        = (DuckOs.userReadProgramHeader vfs origin header index).1 := by
  obtain ⟨hnext, hsame⟩ := @File.Moved.userReadExactAt vfs origin file hmoved
    ((header.phoff + index * header.phentsize) % 2 ^ 64 % 2 ^ 32) ElfProgramHeader.size
  unfold DuckOs.userReadProgramHeader
  dsimp only
  generalize DuckOs.userReadExactAt vfs file _ _ = here at hnext hsame
  generalize DuckOs.userReadExactAt vfs origin _ _ = there at hsame
  obtain ⟨bytes, next⟩ := here
  obtain ⟨bytes', next'⟩ := there
  obtain rfl : bytes = bytes' := hsame
  cases bytes with
  | none => exact ⟨hnext, rfl⟩
  | some bytes => exact ⟨hnext, rfl⟩

end Moved

/-- The numbers of a program header fit in 64 bits. -/
theorem userReadProgramHeader_words {vfs : VfsState} {file : File} {header : ElfHeader} {index : Nat}
    {program : ElfProgramHeader} (hread : (userReadProgramHeader vfs file header index).1 = some program) :
    program.offset < 2 ^ 64 ∧ program.vaddr < 2 ^ 64 ∧ program.filesz < 2 ^ 64
      ∧ program.memsz < 2 ^ 64 := by
  unfold userReadProgramHeader at hread
  dsimp only at hread
  split at hread
  · cases hread
  · rename_i bytes next _
    obtain rfl : ElfProgramHeader.ofBytes bytes = program := Option.some.inj hread
    have hoffset : (ElfProgramHeader.ofBytes bytes).offset < 256 ^ 8 := field_lt bytes 8 8
    have hvaddr : (ElfProgramHeader.ofBytes bytes).vaddr < 256 ^ 8 := field_lt bytes 16 8
    have hfilesz : (ElfProgramHeader.ofBytes bytes).filesz < 256 ^ 8 := field_lt bytes 32 8
    have hmemsz : (ElfProgramHeader.ofBytes bytes).memsz < 256 ^ 8 := field_lt bytes 40 8
    exact ⟨by omega, by omega, by omega, by omega⟩

/-! ### Program headers -/

/-- The table of program headers of an accepted file lies in it; no sum wraps around. -/
theorem elfHeader_table_le {bytes : List UInt8} {fileSize : Nat}
    (hvalid : userElfHeaderValid (.ofBytes bytes) fileSize = true) :
    (ElfHeader.ofBytes bytes).phentsize = ElfProgramHeader.size
      ∧ (ElfHeader.ofBytes bytes).phoff + (ElfHeader.ofBytes bytes).phnum * ElfProgramHeader.size
        ≤ fileSize := by
  have hoff : (ElfHeader.ofBytes bytes).phoff < 256 ^ 8 := field_lt bytes 32 8
  have hnum : (ElfHeader.ofBytes bytes).phnum < 256 ^ 2 := field_lt bytes 56 2
  unfold userElfHeaderValid at hvalid
  simp only [Bool.and_eq_true, decide_eq_true_eq] at hvalid
  obtain ⟨⟨⟨⟨-, hentsize⟩, -⟩, hstart⟩, hend⟩ := hvalid
  rw [hentsize] at hstart hend
  refine ⟨hentsize, ?_⟩
  simp only [ElfProgramHeader.size] at hstart hend ⊢
  omega

section Programs

variable {vfs : VfsState} {device : BlockDevice} {entry : TinyfsFile} {file : File}

theorem File.Of.userReadProgramHeader (hof : file.Of entry) (header : ElfHeader) (index : Nat) :
    (userReadProgramHeader vfs file header index).2.Of entry := by
  have hread := @File.Of.userReadExactAt vfs entry file hof
    ((header.phoff + index * header.phentsize) % 2 ^ 64 % 2 ^ 32) ElfProgramHeader.size
  unfold DuckOs.userReadProgramHeader
  dsimp only
  split
  · rename_i hresult
    rwa [hresult] at hread
  · rename_i hresult
    rwa [hresult] at hread

theorem VfsState.Stores.of_userReadProgramHeader (hstores : vfs.Stores device entry)
    (hof : file.Of entry)
    (hvalid : userElfHeaderValid (elfHeader (entry.contents device)) entry.size = true)
    {index : Nat} (hindex : index < (elfHeader (entry.contents device)).phnum)
    (hlow : entry.offset + elfProgramOffset (entry.contents device) index < 2 ^ 32)
    {program : ElfProgramHeader}
    (hread : (userReadProgramHeader vfs file (elfHeader (entry.contents device)) index).1
      = some program) :
    program = elfProgram (entry.contents device) index := by
  obtain ⟨hentsize, hend⟩ := elfHeader_table_le hvalid
  have hentry := entry.size_lt
  have hoffset : ((elfHeader (entry.contents device)).phoff
      + index * (elfHeader (entry.contents device)).phentsize) % 2 ^ 64 % 2 ^ 32
        = elfProgramOffset (entry.contents device) index := by
    unfold elfProgramOffset elfHeader
    unfold elfHeader at hindex
    rw [hentsize]
    simp only [ElfProgramHeader.size] at hend ⊢
    omega
  unfold userReadProgramHeader at hread
  dsimp only at hread
  rw [hoffset] at hread
  split at hread
  · cases hread
  · rename_i bytes next hbytes
    cases hread
    obtain ⟨rfl, -⟩ := hstores.of_userReadExactAt hof (fun _ => hlow) hbytes
    rfl

end Programs

end DuckOs

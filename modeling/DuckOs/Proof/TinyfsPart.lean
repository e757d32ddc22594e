import DuckOs.Proof.TinyfsImage

/-!
# Parts of files near the end of 4 GiB

`tinyfs_read_file` counts its position in 64 bits, `tinyfs_read_file_part` adds the offset of the file
and the offset in the file in 32 bits. An image that a tool has packed has no file there; a mounted one
may have.
-/

namespace DuckOs

open ByteStore

/-! ### Mounted devices -/

theorem BlockDevice.readLoop_blockSize_zero {device : BlockDevice} (hzero : device.blockSize = 0)
    (offset size : Nat) :
    ∀ (fuel copied : Nat) (dest : List UInt8), copied < size →
      device.readLoop offset size fuel copied dest = none := by
  intro fuel
  induction fuel with
  | zero =>
      intro copied dest hmore
      rw [BlockDevice.readLoop, if_pos hmore]
  | succ fuel ih =>
      intro copied dest hmore
      rw [BlockDevice.readLoop, if_pos hmore]
      dsimp only
      cases device.readBlocks ((offset + copied) / device.blockSize) 1 with
      | none => rfl
      | some block =>
          apply ih
          rw [hzero, Nat.zero_sub, Nat.zero_min, Nat.add_zero]
          exact hmore

/-- What `tinyfs_mount` has checked of the device. -/
theorem tinyfsMount_usable {device : BlockDevice} {state : TinyfsState}
    (hmount : tinyfsMount device = (true, state)) :
    device.Usable ∧ state.device = some device := by
  unfold tinyfsMount at hmount
  split at hmount
  · cases hmount
  rename_i hblockSize
  dsimp only at hmount
  split at hmount
  · cases hmount
  rename_i bytes hheader
  split at hmount
  · cases hmount
  split at hmount
  · cases hmount
  cases hmount
  refine ⟨⟨Nat.pos_of_ne_zero fun hzero => ?_, Nat.le_of_not_lt hblockSize⟩, rfl⟩
  have hnone := BlockDevice.readLoop_blockSize_zero hzero 0 TinyfsSuperblock.size
    TinyfsSuperblock.size 0 [] (by decide)
  rw [tinyfsReadBytes] at hheader
  dsimp only at hheader
  rw [hnone] at hheader
  cases hheader

/-! ### Parts and whole files -/

section Part

variable {device : BlockDevice} {state : TinyfsState} {path : List UInt8} {file : TinyfsFile}

/-- The bytes of the part are bytes of the device. -/
def PartInside (device : BlockDevice) (file : TinyfsFile) (offset size : Nat) : Prop :=
  ∀ index < min size (file.size - offset), file.offset + offset + index < device.byteCount

/-- What reading a part has to do: deliver the bytes of the device, which are the slice of what the whole
file delivers, and fail when they are not inside the device. -/
structure PartAgrees (device : BlockDevice) (state : TinyfsState) (path : List UInt8)
    (file : TinyfsFile) (offset size : Nat) : Prop where
  delivers : ∀ bytes, tinyfsReadFilePart state path offset size = some bytes →
    bytes = slice device.storage (file.offset + offset) bytes.length
  slices : ∀ bytes, tinyfsReadFilePart state path offset size = some bytes →
    ∀ maxSize whole, tinyfsReadFile state path maxSize = some whole →
      bytes = (whole.drop offset).take bytes.length
  fails : ¬ PartInside device file offset size → tinyfsReadFilePart state path offset size = none

/-- The start of the part does not wrap around, or nothing is read, or there is nothing to read where it
wraps to, or the same bytes are there. -/
def PartUnwrapped (device : BlockDevice) (file : TinyfsFile) (offset size : Nat) : Prop :=
  let start := file.offset + offset
  let count := min size (file.size - offset)
  start < 2 ^ 32 ∨ count = 0 ∨ device.byteCount < start - 2 ^ 32 + count
    ∨ (start + count ≤ device.byteCount
      ∧ slice device.storage (start - 2 ^ 32) count = slice device.storage start count)

theorem partInside_iff {offset size : Nat} (hcount : min size (file.size - offset) ≠ 0) :
    PartInside device file offset size
      ↔ file.offset + offset + min size (file.size - offset) ≤ device.byteCount := by
  constructor
  · intro hinside
    have hlast := hinside (min size (file.size - offset) - 1) (by omega)
    omega
  · intro hle index hindex
    omega

theorem tinyfsReadFile_eq (hdevice : state.device = some device) (husable : device.Usable)
    (hfind : tinyfsFind state path = some file) {maxSize : Nat} {whole : List UInt8}
    (hwhole : tinyfsReadFile state path maxSize = some whole) :
    whole = slice device.storage file.offset file.size := by
  unfold tinyfsReadFile at hwhole
  rw [hfind] at hwhole
  dsimp only at hwhole
  split at hwhole
  · cases hwhole
  rw [tinyfsReadBytes, hdevice] at hwhole
  dsimp only at hwhole
  by_cases hempty : file.size = 0
  · rw [hempty, BlockDevice.readLoop, if_neg (Nat.lt_irrefl 0)] at hwhole
    rw [hempty, slice_zero]
    exact (Option.some.inj hwhole).symm
  by_cases hinside : file.offset + file.size ≤ device.byteCount
  · rw [device.readLoop_eq husable hinside file.size 0 [] (Nat.zero_le _) (by omega)] at hwhole
    exact (Option.some.inj hwhole).symm
  · rw [device.readLoop_eq_none husable (by omega) file.size 0 [] (by omega)] at hwhole
    cases hwhole

theorem partAgrees_of_none {offset size : Nat}
    (hnone : tinyfsReadFilePart state path offset size = none) :
    PartAgrees device state path file offset size where
  delivers := fun bytes hbytes => by
    rw [hnone] at hbytes
    cases hbytes
  slices := fun bytes hbytes => by
    rw [hnone] at hbytes
    cases hbytes
  fails := fun _ => hnone

theorem partAgrees_of_nil {offset size : Nat} (hcount : min size (file.size - offset) = 0)
    (hnil : tinyfsReadFilePart state path offset size = some []) :
    PartAgrees device state path file offset size where
  delivers := fun bytes hbytes => by
    rw [hnil] at hbytes
    cases hbytes
    rfl
  slices := fun bytes hbytes maxSize whole _ => by
    rw [hnil] at hbytes
    cases hbytes
    rfl
  fails := fun houtside => absurd (fun index hindex => by omega) houtside

/-- A part that is delivered from `start` on has to be the range that is asked for. -/
theorem partAgrees_iff_of_some (hdevice : state.device = some device) (husable : device.Usable)
    (hfind : tinyfsFind state path = some file) {offset size start : Nat}
    (hcount : min size (file.size - offset) ≠ 0)
    (hsome : tinyfsReadFilePart state path offset size
      = some (slice device.storage start (min size (file.size - offset)))) :
    PartAgrees device state path file offset size
      ↔ file.offset + offset + min size (file.size - offset) ≤ device.byteCount
        ∧ slice device.storage start (min size (file.size - offset))
          = slice device.storage (file.offset + offset) (min size (file.size - offset)) := by
  rw [← partInside_iff hcount]
  constructor
  · intro hagrees
    have hbytes := hagrees.delivers _ hsome
    rw [length_slice] at hbytes
    refine ⟨by_contra fun houtside => ?_, hbytes⟩
    have hnone := hagrees.fails houtside
    rw [hsome] at hnone
    cases hnone
  · rintro ⟨hinside, hsame⟩
    refine ⟨?_, ?_, fun houtside => absurd hinside houtside⟩
    · intro bytes hbytes
      rw [hsome] at hbytes
      cases hbytes
      rw [length_slice]
      exact hsame
    · intro bytes hbytes maxSize whole hwhole
      rw [hsome] at hbytes
      cases hbytes
      rw [tinyfsReadFile_eq hdevice husable hfind hwhole, length_slice, hsame, drop_slice, take_slice,
        Nat.min_eq_left (Nat.min_le_right _ _)]

/-- In every mounted image, reading a part of a file is right exactly when the 32-bit sum of the offsets
does no harm. -/
theorem tinyfsReadFilePart_agrees_iff (hmount : tinyfsMount device = (true, state))
    (hfind : tinyfsFind state path = some file) {offset : Nat} (hoffset : offset ≤ file.size)
    (size : Nat) :
    PartAgrees device state path file offset size ↔ PartUnwrapped device file offset size := by
  obtain ⟨husable, hdevice⟩ := tinyfsMount_usable hmount
  have hfileOffset := file.offset_lt
  have hfileSize := file.size_lt
  unfold PartUnwrapped
  dsimp only
  by_cases hcount : min size (file.size - offset) = 0
  · exact iff_of_true (partAgrees_of_nil hcount (tinyfsReadFilePart_empty hfind hoffset hcount))
      (.inr (.inl hcount))
  have hpart := tinyfsReadFilePart_wrapped hdevice husable hfind (by omega : offset < file.size)
    (by omega : 0 < size)
  by_cases hlow : file.offset + offset < 2 ^ 32
  · refine iff_of_true ?_ (.inl hlow)
    rw [Nat.mod_eq_of_lt hlow] at hpart
    split at hpart
    · rename_i hinside
      rw [partAgrees_iff_of_some hdevice husable hfind hcount hpart]
      exact ⟨hinside, rfl⟩
    · exact partAgrees_of_none hpart
  have hwraps : (file.offset + offset) % 2 ^ 32 = file.offset + offset - 2 ^ 32 := by omega
  rw [hwraps] at hpart
  split at hpart
  · rename_i hinside
    rw [partAgrees_iff_of_some hdevice husable hfind hcount hpart]
    constructor
    · exact fun hsame => .inr (.inr (.inr hsame))
    · rintro (hstart | hempty | hbeyond | hsame)
      · exact absurd hstart hlow
      · exact absurd hempty hcount
      · exact absurd hinside (Nat.not_le.mpr hbeyond)
      · exact hsame
  · rename_i hbeyond
    exact iff_of_true (partAgrees_of_none hpart) (.inr (.inr (.inl (Nat.lt_of_not_le hbeyond))))

end Part

/-! ### A file at the end of 4 GiB -/

/-- A disk of four blocks with one file, 256 bytes before 4 GiB. -/
def farDevice : BlockDevice where
  blockSize := 512
  blockCount := 4
  storage := patch (fun _ => 0) 0
    (Mktinyfs.packSuperblock tinyfsMagic tinyfsVersion 1 20 512
      ++ Mktinyfs.packEntry [0x61] (2 ^ 32 - 256) 1024 0)
  writes := []

theorem farDevice_file :
    ∃ file, tinyfsFind (tinyfsMount farDevice).2 [0x61] = some file
      ∧ file.offset = 2 ^ 32 - 256 ∧ file.size = 1024 := by
  have hfields : (tinyfsFind (tinyfsMount farDevice).2 [0x61]).map
      (fun file => (file.offset, file.size)) = some (2 ^ 32 - 256, 1024) := by decide +kernel
  obtain ⟨file, hfind, hfile⟩ := Option.map_eq_some_iff.mp hfields
  exact ⟨file, hfind, (Prod.mk.inj hfile).1, (Prod.mk.inj hfile).2⟩

theorem farDevice_mounts : tinyfsMount farDevice = (true, (tinyfsMount farDevice).2) := by
  have hmount : (tinyfsMount farDevice).1 = true := by decide +kernel
  rw [← hmount]

theorem tinyfsReadFilePart_agrees_iff_farDevice :
    ∃ file, tinyfsFind (tinyfsMount farDevice).2 [0x61] = some file
      ∧ (PartAgrees farDevice (tinyfsMount farDevice).2 [0x61] file 255 4
        ↔ PartUnwrapped farDevice file 255 4) := by
  obtain ⟨file, hfind, hoffset, hsize⟩ := farDevice_file
  exact ⟨file, hfind, tinyfsReadFilePart_agrees_iff farDevice_mounts hfind (by omega) 4⟩

/-- From offset 256 on, the file would begin at 4 GiB; its first bytes are those of the superblock. -/
theorem tinyfsReadFilePart_wraps :
    (tinyfsReadFilePart (tinyfsMount farDevice).2 [0x61] 256 4 = some [0x54, 0x59, 0x46, 0x53])
      ∧ ¬ ∀ (device : BlockDevice) (state : TinyfsState), tinyfsMount device = (true, state) →
        ∀ (path : List UInt8) (file : TinyfsFile), tinyfsFind state path = some file →
          file.size < 2 ^ 31 → ∀ offset ≤ file.size, ∀ size,
            PartAgrees device state path file offset size := by
  have hread : tinyfsReadFilePart (tinyfsMount farDevice).2 [0x61] 256 4
      = some [0x54, 0x59, 0x46, 0x53] := by decide +kernel
  refine ⟨hread, fun hall => ?_⟩
  obtain ⟨file, hfind, hoffset, hsize⟩ := farDevice_file
  have hagrees := hall farDevice _ farDevice_mounts [0x61] file hfind (by omega) 256 (by omega) 4
  have houtside : ¬ PartInside farDevice file 256 4 := by
    intro hinside
    have hfirst := hinside 0 (by omega)
    rw [hoffset] at hfirst
    exact absurd hfirst (by decide)
  have hnone := hagrees.fails houtside
  rw [hread] at hnone
  cases hnone

end DuckOs

import DuckOs.Proof.Initramfs

/-!
# Parsing other images

The parser checks the length of a name or of a file, and then moves its pointer by the length rounded
up. Behind the end of the image the space that seems left is huge.
-/

namespace DuckOs

open ByteStore

section Bounds

variable {image : InitramfsImage}

/-- Where `linker.ld` places the kernel. -/
def kernelStart : Nat := 0x40080000

namespace InitramfsImage

/-- An image that is part of the kernel, in a memory with addresses of 64 bits. -/
structure Linked (image : InitramfsImage) : Prop where
  start_ge : kernelStart ≤ image.start
  start_le : image.start ≤ image.stop
  stop_lt : image.stop < 2 ^ 64
  wraps : ∀ address, image.memory (address + 2 ^ 64) = image.memory address

/-- The bytes at a pointer lie in the image. -/
def Contains (image : InitramfsImage) (pointer length : Nat) : Prop :=
  image.start ≤ pointer % 2 ^ 64 ∧ pointer % 2 ^ 64 + length ≤ image.stop

/-- The string at a pointer ends in the image. -/
def ContainsString (image : InitramfsImage) (pointer : Nat) : Prop :=
  ∃ length, image.Contains pointer (length + 1) ∧ image.memory (pointer + length) = 0

/-- The image holds what has been recorded and what has been read. -/
structure Holds (image : InitramfsImage) (files : List InitramfsFile) (reads : List (Nat × Nat)) :
    Prop where
  data : ∀ file ∈ files, image.Contains file.data file.size
  name : ∀ file ∈ files, image.ContainsString file.name
  reads : ∀ read ∈ reads, image.Contains read.1 read.2

/-- The layout of the entries from `cursor` on: an entry begins before the end of the image, its name is
terminated there, and the padding of the name does not reach beyond it. -/
def Padded (image : InitramfsImage) : (remaining cursor : Nat) → Prop
  | 0, _ => True
  | remaining + 1, cursor =>
      let entry := InitramfsEntryHeader.ofBytes
        (slice image.memory cursor InitramfsEntryHeader.size)
      let name := cursor + InitramfsEntryHeader.size
      let data := name + (entry.nameLength + 7) / 8 * 8
      cursor ≤ image.stop
        ∧ (∃ length, name + length < image.stop ∧ image.memory (name + length) = 0)
        ∧ data ≤ image.stop
        ∧ Padded image remaining (data + (entry.dataLength + 7) / 8 * 8)

/-- The layout of all entries. -/
def WellPadded (image : InitramfsImage) : Prop :=
  let header := InitramfsHeader.ofBytes (slice image.memory image.start InitramfsHeader.size)
  image.Padded header.fileCount (image.start + InitramfsHeader.size)

theorem left_of_le (hlinked : image.Linked) {cursor : Nat} (hcursor : cursor ≤ image.stop) :
    image.left cursor = image.stop - cursor := by
  have hstop := hlinked.stop_lt
  exact left_eq (by omega) (by omega)

theorem contains_of_le (hlinked : image.Linked) {pointer length : Nat}
    (hstart : image.start ≤ pointer) (hstop : pointer + length ≤ image.stop) :
    image.Contains pointer length := by
  have hlt := hlinked.stop_lt
  have hpointer : pointer % 2 ^ 64 = pointer := Nat.mod_eq_of_lt (by omega)
  rw [Contains, hpointer]
  exact ⟨hstart, hstop⟩

theorem not_contains_of_lt (hlinked : image.Linked) {pointer : Nat} (hbeyond : image.stop < pointer)
    (hnear : pointer ≤ image.stop + 7) (length : Nat) : ¬ image.Contains pointer length := by
  have hstart := hlinked.start_ge
  have hlt := hlinked.stop_lt
  rw [kernelStart] at hstart
  rintro ⟨hlow, hhigh⟩
  omega

theorem containsString_iff (hlinked : image.Linked) {pointer : Nat} (hstart : image.start ≤ pointer)
    (hstop : pointer ≤ image.stop) :
    image.ContainsString pointer
      ↔ ∃ length, pointer + length < image.stop ∧ image.memory (pointer + length) = 0 := by
  have hlt := hlinked.stop_lt
  have hpointer : pointer % 2 ^ 64 = pointer := Nat.mod_eq_of_lt (by omega)
  constructor
  · rintro ⟨length, ⟨-, hinside⟩, hzero⟩
    rw [hpointer] at hinside
    exact ⟨length, by omega, hzero⟩
  · rintro ⟨length, hinside, hzero⟩
    exact ⟨length, contains_of_le hlinked hstart (by omega), hzero⟩

theorem holds_nil : image.Holds [] [] where
  data := fun _ hmem => absurd hmem List.not_mem_nil
  name := fun _ hmem => absurd hmem List.not_mem_nil
  reads := fun _ hmem => absurd hmem List.not_mem_nil

theorem holds_read_iff {files : List InitramfsFile} {read : Nat × Nat} {reads : List (Nat × Nat)} :
    image.Holds files (read :: reads)
      ↔ image.Contains read.1 read.2 ∧ image.Holds files reads := by
  constructor
  · intro hholds
    exact ⟨hholds.reads read List.mem_cons_self, hholds.data, hholds.name,
      fun other hmem => hholds.reads other (List.mem_cons_of_mem _ hmem)⟩
  · rintro ⟨hread, hholds⟩
    exact ⟨hholds.data, hholds.name, List.forall_mem_cons.mpr ⟨hread, hholds.reads⟩⟩

theorem holds_file_iff {file : InitramfsFile} {files : List InitramfsFile}
    {reads : List (Nat × Nat)} :
    image.Holds (file :: files) reads
      ↔ image.ContainsString file.name ∧ image.Contains file.data file.size
        ∧ image.Holds files reads := by
  constructor
  · intro hholds
    exact ⟨hholds.name file List.mem_cons_self, hholds.data file List.mem_cons_self,
      fun other hmem => hholds.data other (List.mem_cons_of_mem _ hmem),
      fun other hmem => hholds.name other (List.mem_cons_of_mem _ hmem), hholds.reads⟩
  · rintro ⟨hname, hdata, hholds⟩
    exact ⟨List.forall_mem_cons.mpr ⟨hdata, hholds.data⟩,
      List.forall_mem_cons.mpr ⟨hname, hholds.name⟩, hholds.reads⟩

end InitramfsImage

/-- What has been recorded of the entries from `cursor` on is held by the image exactly when they are
laid out well. The pointer is at most the padding of one length behind the end. -/
theorem initramfsInitLoop_holds_iff (hlinked : image.Linked) (remaining : Nat) :
    ∀ (cursor : Nat) (files : List InitramfsFile), image.start ≤ cursor → cursor ≤ image.stop + 7 →
      initramfsInitLoop image remaining cursor = some files →
      (image.Holds files (initramfsInitLoopReads image remaining cursor)
        ↔ image.Padded remaining cursor) := by
  induction remaining with
  | zero =>
      intro cursor files _ _ hloop
      cases hloop
      exact iff_of_true image.holds_nil trivial
  | succ remaining ih =>
      intro cursor files hstart hnear hloop
      rw [initramfsInitLoop] at hloop
      rw [initramfsInitLoopReads, InitramfsImage.Padded]
      have hlow := hlinked.start_ge
      have hhigh := hlinked.stop_lt
      rw [kernelStart] at hlow
      dsimp only at hloop ⊢
      generalize InitramfsEntryHeader.ofBytes
        (slice image.memory cursor InitramfsEntryHeader.size) = entry at *
      split at hloop
      · cases hloop
      rename_i hheader
      rw [if_neg hheader]
      by_cases hbeyond : image.stop < cursor
      · refine iff_of_false (fun hholds => ?_) fun hpadded => absurd hpadded.1 (by omega)
        exact image.not_contains_of_lt hlinked hbeyond hnear _
          (hholds.reads _ List.mem_cons_self)
      have hleft := image.left_of_le hlinked (Nat.le_of_not_lt hbeyond)
      rw [hleft] at hheader
      have hsize : InitramfsEntryHeader.size = 16 := rfl
      generalize hname : cursor + InitramfsEntryHeader.size = name at *
      rw [image.left_of_le hlinked (by omega : name ≤ image.stop)] at hloop ⊢
      split at hloop
      · cases hloop
      rename_i hnameLength
      rw [if_neg hnameLength, initramfsAlignUp_eq (by omega)]
      rw [initramfsAlignUp_eq (by omega)] at hloop
      generalize hdata : name + (entry.nameLength + 7) / 8 * 8 = data at *
      split at hloop
      · cases hloop
      rename_i hdataLength
      obtain ⟨rest, hrest, rfl⟩ := Option.map_eq_some_iff.mp hloop
      rw [if_neg hdataLength, image.holds_read_iff, image.holds_file_iff,
        @InitramfsImage.containsString_iff image hlinked name (by omega) (by omega)]
      by_cases hpadding : image.stop < data
      · refine iff_of_false ?_ fun hpadded => absurd hpadded.2.2.1 (by omega)
        rintro ⟨-, -, hcontains, -⟩
        exact image.not_contains_of_lt hlinked hpadding (by omega) _ hcontains
      rw [image.left_of_le hlinked (Nat.le_of_not_lt hpadding)] at hdataLength
      rw [initramfsAlignUp_eq (by omega)] at hrest ⊢
      have hread : image.Contains cursor InitramfsEntryHeader.size :=
        image.contains_of_le hlinked hstart (by omega)
      have hfile : image.Contains data entry.dataLength :=
        image.contains_of_le hlinked (by omega) (by omega)
      rw [ih _ rest (by omega) (by omega) hrest]
      constructor
      · rintro ⟨-, hstring, -, hpadded⟩
        exact ⟨Nat.le_of_not_lt hbeyond, hstring, Nat.le_of_not_lt hpadding, hpadded⟩
      · rintro ⟨-, hstring, -, hpadded⟩
        exact ⟨hread, hstring, hfile, hpadded⟩

theorem length_initramfsInitLoop (remaining : Nat) :
    ∀ (cursor : Nat) (files : List InitramfsFile),
      initramfsInitLoop image remaining cursor = some files → files.length = remaining := by
  induction remaining with
  | zero =>
      intro cursor files hloop
      cases hloop
      rfl
  | succ remaining ih =>
      intro cursor files hloop
      rw [initramfsInitLoop] at hloop
      dsimp only at hloop
      split at hloop
      · cases hloop
      split at hloop
      · cases hloop
      split at hloop
      · cases hloop
      obtain ⟨rest, hrest, rfl⟩ := Option.map_eq_some_iff.mp hloop
      rw [List.length_cons, ih _ rest hrest]

/-- Whatever the image holds, if the parser accepts it, it stays inside exactly when no padding reaches
beyond the end and every name is terminated. -/
theorem initramfsInit_holds_iff (hlinked : image.Linked) {state : InitramfsState}
    (hinit : initramfsInit image .zero = some state) :
    image.Holds (state.files.take state.count) (initramfsInitReads image .zero)
      ↔ image.WellPadded := by
  have hready : ¬ InitramfsState.zero.ready = true := by decide
  have hleft := image.left_of_le hlinked hlinked.start_le
  rw [initramfsInit, if_neg hready] at hinit
  rw [initramfsInitReads, if_neg hready, InitramfsImage.WellPadded]
  dsimp only at hinit ⊢
  generalize InitramfsHeader.ofBytes (slice image.memory image.start InitramfsHeader.size) = header
    at *
  rw [hleft] at hinit ⊢
  split at hinit
  · cases hinit
  rename_i hsize
  split at hinit
  · cases hinit
  rename_i hmagic
  split at hinit
  · cases hinit
  rename_i hcount
  obtain ⟨files, hfiles, rfl⟩ := Option.map_eq_some_iff.mp hinit
  have htwelve : InitramfsHeader.size = 12 := rfl
  have hlength := length_initramfsInitLoop _ _ _ hfiles
  dsimp only
  rw [if_neg hsize, if_neg hmagic, if_neg hcount, image.holds_read_iff, image.holds_read_iff,
    ← hlength, List.take_length, hlength,
    initramfsInitLoop_holds_iff hlinked _ _ _ (by omega) (by omega) hfiles]
  have hread : image.Contains image.start 4 := image.contains_of_le hlinked le_rfl (by omega)
  have hread' : image.Contains (image.start + 4) 8 :=
    image.contains_of_le hlinked (by omega) (by omega)
  exact ⟨fun hholds => hholds.2.2, fun hpadded => ⟨hread, hread', hpadded⟩⟩

end Bounds

/-! ### A truncated image -/

/-- One entry with a name of one byte and a file of 1000 bytes, and nothing behind the name. -/
def truncatedBytes : List UInt8 := initramfsMagic ++ toLe 8 1 ++ (toLe 8 1 ++ toLe 8 1000) ++ [0x61]

def truncatedImage : InitramfsImage where
  memory := fun address => patch (fun _ => 0) 0x40090000 truncatedBytes (address % 2 ^ 64)
  start := 0x40090000
  stop := 0x40090000 + 29

theorem truncatedImage_linked : truncatedImage.Linked where
  start_ge := by decide
  start_le := by decide
  stop_lt := by decide
  wraps := fun address => by
    unfold truncatedImage
    dsimp only
    rw [Nat.add_mod_right]

theorem truncatedImage_init : ∃ state, initramfsInit truncatedImage .zero = some state := by
  have hsome : (initramfsInit truncatedImage .zero).isSome = true := by decide +kernel
  exact Option.isSome_iff_exists.mp hsome

theorem initramfsInit_holds_iff_truncatedImage :
    ∃ state, initramfsInit truncatedImage .zero = some state
      ∧ (truncatedImage.Holds (state.files.take state.count)
          (initramfsInitReads truncatedImage .zero)
        ↔ truncatedImage.WellPadded) := by
  obtain ⟨state, hinit⟩ := truncatedImage_init
  exact ⟨state, hinit, initramfsInit_holds_iff truncatedImage_linked hinit⟩

/-- The file that is recorded begins behind the end of the image. -/
theorem initramfsInit_outside :
    ¬ ∀ image : InitramfsImage, image.Linked →
      ∀ state, initramfsInit image .zero = some state →
        image.Holds (state.files.take state.count) (initramfsInitReads image .zero) := by
  intro hall
  obtain ⟨state, hinit⟩ := truncatedImage_init
  have hholds := hall truncatedImage truncatedImage_linked state hinit
  have hfiles : (initramfsInit truncatedImage .zero).map
      (fun state => (state.files.take state.count).map fun file => (file.data, file.size))
        = some [(0x40090000 + 36, 1000)] := by decide +kernel
  rw [hinit, Option.map_some, Option.some.injEq] at hfiles
  have hfile : (0x40090000 + 36, 1000)
      ∈ (state.files.take state.count).map fun file => (file.data, file.size) := by
    rw [hfiles]
    exact List.mem_cons_self
  obtain ⟨file, hmem, hfields⟩ := List.mem_map.mp hfile
  obtain ⟨hdata, hsize⟩ := Prod.mk.inj hfields
  have hcontains := hholds.data file hmem
  rw [hdata, hsize] at hcontains
  exact absurd hcontains.2 (by decide)

end DuckOs

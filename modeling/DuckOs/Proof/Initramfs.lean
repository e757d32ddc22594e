import DuckOs.Kernel.Initramfs

/-!
# Packing and parsing the initramfs

The parser's pointer is where the packer's image ended before each entry, so the files found are the
files packed.
-/

namespace DuckOs

open ByteStore

namespace Mkinitramfs

/-! ### The image -/

def packEntry (file : List UInt8 × List UInt8) : List UInt8 :=
  toLe 8 (file.1.length + 1) ++ toLe 8 file.2.length
    ++ (align (file.1 ++ [0]) ++ align file.2)

theorem packLoop_eq {inputs : List (List UInt8 × List UInt8)}
    (hnames : ∀ file ∈ inputs, 0x2f ∉ file.1 ∧ 0 ∉ file.1) (image : List UInt8) :
    packLoop inputs image = some (image ++ inputs.flatMap packEntry) := by
  induction inputs generalizing image with
  | nil => rw [packLoop, List.flatMap_nil, List.append_nil]
  | cons file rest ih =>
      obtain ⟨name, data⟩ := file
      obtain ⟨hslash, hnul⟩ := hnames _ List.mem_cons_self
      rw [packLoop, if_neg (not_or.mpr ⟨hslash, hnul⟩),
        ih fun other hmem => hnames other (List.mem_cons_of_mem _ hmem)]
      simp only [packEntry, List.flatMap_cons, List.append_assoc]

theorem main_eq {inputs : List (List UInt8 × List UInt8)} (hsome : inputs ≠ [])
    (hnames : ∀ file ∈ inputs, 0x2f ∉ file.1 ∧ 0 ∉ file.1) :
    main inputs
      = some (initramfsMagic ++ toLe 8 inputs.length ++ inputs.flatMap packEntry) := by
  rw [main, if_neg hsome, packLoop_eq hnames]

theorem length_align (data : List UInt8) :
    (align data).length = (data.length + 7) / 8 * 8 := by
  rw [align, List.length_append, List.length_replicate]
  omega

theorem length_packEntry (file : List UInt8 × List UInt8) :
    (packEntry file).length = 16 + ((file.1.length + 8) / 8 * 8 + (file.2.length + 7) / 8 * 8) := by
  simp only [packEntry, List.length_append, length_toLe, length_align, List.length_singleton,
    Nat.reduceAdd, Nat.add_assoc]

/-- The bytes of names and contents. -/
def totalSize (inputs : List (List UInt8 × List UInt8)) : Nat :=
  (inputs.map fun file => file.1.length + file.2.length).sum

theorem length_entries_le (inputs : List (List UInt8 × List UInt8)) :
    (inputs.flatMap packEntry).length ≤ totalSize inputs + 31 * inputs.length := by
  induction inputs with
  | nil => exact Nat.le_refl _
  | cons file rest ih =>
      have hentry := length_packEntry file
      rw [List.flatMap_cons, List.length_append, totalSize, List.map_cons, List.sum_cons,
        List.length_cons, ← totalSize]
      omega

end Mkinitramfs

/-! ### The parser -/

open Mkinitramfs

section Parse

variable {image : InitramfsImage}

theorem InitramfsImage.left_eq {cursor rest : Nat} (hstop : image.stop = cursor + rest)
    (hrest : rest < 2 ^ 64) : image.left cursor = rest := by
  rw [InitramfsImage.left, hstop]
  omega

theorem initramfsAlignUp_eq {value : Nat} (hvalue : value + 7 < 2 ^ 64) :
    initramfsAlignUp value = (value + 7) / 8 * 8 := by
  rw [initramfsAlignUp, Nat.mod_eq_of_lt hvalue]

theorem entryHeader_packed {nameLength dataLength : Nat} (hname : nameLength < 2 ^ 64)
    (hdata : dataLength < 2 ^ 64) :
    InitramfsEntryHeader.ofBytes (toLe 8 nameLength ++ toLe 8 dataLength)
      = ⟨nameLength, dataLength⟩ := by
  have hfirst : field (toLe 8 nameLength ++ toLe 8 dataLength) 0 8 = nameLength := by
    rw [field_append_left (by rw [length_toLe]), field_toLe hname]
  have hsecond : field (toLe 8 nameLength ++ toLe 8 dataLength) 8 8 = dataLength := by
    rw [field_append_right (by rw [length_toLe]), length_toLe, field_toLe hdata]
  rw [InitramfsEntryHeader.ofBytes, hfirst, hsecond]

theorem header_packed {count : Nat} (hcount : count < 2 ^ 64) :
    InitramfsHeader.ofBytes (initramfsMagic ++ toLe 8 count) = ⟨initramfsMagic, count⟩ := by
  have hfield : field (initramfsMagic ++ toLe 8 count) 4 8 = count := by
    rw [field_append_right (by decide)]
    exact field_toLe hcount
  rw [InitramfsHeader.ofBytes, hfield]
  rfl

/-- The file of a packed pair: its name with a terminator, and its contents. -/
structure Unpacks (image : InitramfsImage) (packed : List UInt8 × List UInt8)
    (file : InitramfsFile) : Prop where
  name_eq : slice image.memory file.name (packed.1.length + 1) = packed.1 ++ [0]
  size_eq : file.size = packed.2.length
  data_eq : initramfsRead image file = packed.2

theorem initramfsInitLoop_packed (inputs : List (List UInt8 × List UInt8)) :
    ∀ (cursor : Nat),
      slice image.memory cursor (inputs.flatMap packEntry).length = inputs.flatMap packEntry →
      image.stop = cursor + (inputs.flatMap packEntry).length →
      (inputs.flatMap packEntry).length < 2 ^ 64 →
      ∃ files, initramfsInitLoop image inputs.length cursor = some files
        ∧ List.Forall₂ (Unpacks image) inputs files := by
  induction inputs with
  | nil =>
      intro cursor _ _ _
      exact ⟨[], rfl, List.Forall₂.nil⟩
  | cons packed rest ih =>
      intro cursor hstored hstop hlength
      obtain ⟨name, contents⟩ := packed
      have hentry := length_packEntry (name, contents)
      rw [List.flatMap_cons, List.length_append] at hstop hlength
      rw [List.flatMap_cons] at hstored
      obtain ⟨hpacked, hrest⟩ := slice_eq_append_iff.mp hstored
      rw [packEntry] at hpacked
      obtain ⟨hheader, hbody⟩ := slice_eq_append_iff.mp hpacked
      obtain ⟨hname, hdata⟩ := slice_eq_append_iff.mp hbody
      have hsixteen : (toLe 8 (name.length + 1) ++ toLe 8 contents.length).length = 16 := by
        rw [List.length_append, length_toLe, length_toLe]
      dsimp only at hentry hheader hname hdata
      rw [hsixteen] at hheader hname hdata
      rw [length_align (name ++ [0]), List.length_append, List.length_singleton] at hdata
      -- The cursor of the parser behind the name and behind the entry.
      have hnameUp : initramfsAlignUp (name.length + 1) = (name.length + 1 + 7) / 8 * 8 :=
        initramfsAlignUp_eq (by omega)
      have hdataUp : initramfsAlignUp contents.length = (contents.length + 7) / 8 * 8 :=
        initramfsAlignUp_eq (by omega)
      have hnext : cursor + 16 + (name.length + 1 + 7) / 8 * 8 + (contents.length + 7) / 8 * 8
          = cursor + (packEntry (name, contents)).length := by omega
      obtain ⟨files, hloop, hfiles⟩ := ih _ hrest (by omega) (by omega)
      refine ⟨⟨cursor + 16, cursor + 16 + (name.length + 1 + 7) / 8 * 8, contents.length⟩ :: files,
        ?_, ?_⟩
      · have hleftEntry := @InitramfsImage.left_eq image cursor _ hstop (by omega)
        have hleftName := @InitramfsImage.left_eq image (cursor + 16)
          ((name.length + 1 + 7) / 8 * 8 + (contents.length + 7) / 8 * 8
            + (rest.flatMap packEntry).length) (by omega) (by omega)
        have hleftData := @InitramfsImage.left_eq image
          (cursor + 16 + (name.length + 1 + 7) / 8 * 8)
          ((contents.length + 7) / 8 * 8 + (rest.flatMap packEntry).length) (by omega) (by omega)
        rw [List.length_cons, initramfsInitLoop, InitramfsEntryHeader.size, hheader,
          entryHeader_packed (by omega) (by omega)]
        dsimp only
        rw [hleftEntry, hleftName, hnameUp, hleftData, hdataUp, hnext, hloop, if_neg (by omega),
          if_neg (by omega), if_neg (by omega)]
        rfl
      · refine List.Forall₂.cons ⟨?_, rfl, ?_⟩ hfiles
        · rw [align, slice_eq_append_iff, List.length_append, List.length_singleton] at hname
          exact hname.1
        · rw [align, slice_eq_append_iff] at hdata
          exact hdata.1

/-- The string at an address compares equal to exactly one name. -/
theorem nameIs_iff {address : Nat} {stored name : List UInt8}
    (hstored : slice image.memory address (stored.length + 1) = stored ++ [0])
    (hstoredNul : 0 ∉ stored) (hnul : 0 ∉ name) :
    image.nameIs address name = true ↔ stored = name := by
  have hscan : ∀ string : List UInt8, 0 ∉ string →
      slice image.memory address (string.length + 1) = string ++ [0] →
      ∀ more, CString.scan (slice image.memory address (string.length + 1 + more)) = string := by
    intro string hstring hslice more
    rw [slice_add, hslice, List.append_assoc]
    exact CString.scan_append_nul hstring
  rw [InitramfsImage.nameIs, decide_eq_true_eq]
  constructor
  · intro hname
    calc stored
        = CString.scan (slice image.memory address (stored.length + 1 + name.length)) :=
          (hscan stored hstoredNul hstored name.length).symm
      _ = CString.scan (slice image.memory address (name.length + 1 + stored.length)) := by
          rw [Nat.add_right_comm stored.length, Nat.add_right_comm name.length,
            Nat.add_comm name.length]
      _ = name := hscan name hnul hname stored.length
  · rintro rfl
    exact hstored

/-- The first file whose name compares equal is at the place of the first pair with that name. -/
theorem find?_of_unpacks {inputs : List (List UInt8 × List UInt8)} {files : List InitramfsFile}
    (hfiles : List.Forall₂ (Unpacks image) inputs files) (hnames : ∀ file ∈ inputs, 0 ∉ file.1)
    {name : List UInt8} (hnul : 0 ∉ name) :
    (files.find? fun file => image.nameIs file.name name)
      = (inputs.findIdx? fun packed => packed.1 = name).bind (files[·]?) := by
  induction hfiles with
  | nil => rfl
  | @cons packed file rest files hunpacks _ ih =>
      have hiff := nameIs_iff hunpacks.name_eq (hnames packed List.mem_cons_self) hnul
      rw [List.find?_cons, List.findIdx?_cons]
      by_cases hname : packed.1 = name
      · rw [hiff.mpr hname, decide_eq_true hname]
        rfl
      · rw [Bool.eq_false_iff.mpr (hiff.not.mpr hname), decide_eq_false hname,
          ih fun other hmem => hnames other (List.mem_cons_of_mem _ hmem)]
        simp only [Bool.false_eq_true, if_false, Option.bind_map]
        rfl

end Parse

/-- Whatever files are packed, the tool writes an image, and a kernel that holds it finds exactly
these files in their order. -/
theorem initramfs_round_trip {inputs : List (List UInt8 × List UInt8)} (hsome : inputs ≠ [])
    (hcount : inputs.length ≤ 16) (hnames : ∀ file ∈ inputs, 0x2f ∉ file.1 ∧ 0 ∉ file.1)
    (hsize : totalSize inputs < 2 ^ 63) :
    ∃ bytes, Mkinitramfs.main inputs = some bytes
      ∧ ∀ image : InitramfsImage, slice image.memory image.start bytes.length = bytes →
        image.stop = image.start + bytes.length →
        ∃ state, initramfsInit image .zero = some state
          ∧ initramfsFileCount state = inputs.length
          ∧ List.Forall₂ (Unpacks image) inputs state.files
          ∧ ∀ name, 0 ∉ name →
            initramfsFind image .zero name
              = some ((inputs.findIdx? fun packed => packed.1 = name).bind (state.files[·]?),
                state) := by
  refine ⟨_, main_eq hsome hnames, ?_⟩
  intro image hstored hstop
  have hlength := length_entries_le inputs
  rw [slice_eq_append_iff] at hstored
  obtain ⟨hheader, hentries⟩ := hstored
  have htwelve : (initramfsMagic ++ toLe 8 inputs.length).length = 12 := by
    rw [List.length_append, length_toLe]
    rfl
  rw [List.length_append, htwelve] at hstop
  rw [htwelve] at hheader hentries
  obtain ⟨files, hloop, hfiles⟩ := initramfsInitLoop_packed inputs (image.start + 12) hentries
    (by omega) (by omega)
  have hleft := @InitramfsImage.left_eq image image.start _ hstop (by omega)
  have hinit : initramfsInit image .zero = some ⟨files, inputs.length, true⟩ := by
    have hready : ¬ InitramfsState.zero.ready = true := by decide
    rw [initramfsInit, if_neg hready, hleft, InitramfsHeader.size, if_neg (by omega), hheader,
      header_packed (by omega)]
    dsimp only
    rw [if_neg (not_not.mpr rfl), initramfsMaxFiles, if_neg (by omega), hloop]
    rfl
  refine ⟨⟨files, inputs.length, true⟩, hinit, rfl, hfiles, ?_⟩
  intro name hnul
  rw [initramfsFind, hinit, Option.map_some]
  dsimp only
  rw [hfiles.length_eq, List.take_length,
    find?_of_unpacks hfiles (fun file hmem => (hnames file hmem).2) hnul]

/-- Two files of one name: the first is found. -/
def sameNames : List (List UInt8 × List UInt8) := [([0x61], [1, 2, 3]), ([0x61], []), ([0x62], [4])]

theorem initramfs_round_trip_sameNames :
    ∃ bytes, Mkinitramfs.main sameNames = some bytes
      ∧ ∃ file state, initramfsFind ⟨patch (fun _ => 0) 0x40080003 bytes, 0x40080003,
          0x40080003 + bytes.length⟩ .zero [0x61] = some (some file, state)
        ∧ initramfsRead ⟨patch (fun _ => 0) 0x40080003 bytes, 0x40080003,
          0x40080003 + bytes.length⟩ file = [1, 2, 3] := by
  obtain ⟨bytes, hmain, hparse⟩ := @initramfs_round_trip sameNames (by decide) (by decide)
    (by decide) (by decide)
  obtain ⟨state, -, -, hfiles, hfind⟩ := hparse ⟨patch (fun _ => 0) 0x40080003 bytes, 0x40080003,
    0x40080003 + bytes.length⟩ slice_patch_self rfl
  obtain ⟨first, rest, hfirst, -, hstate⟩ := List.forall₂_cons_left_iff.mp hfiles
  refine ⟨bytes, hmain, first, state, ?_, hfirst.data_eq⟩
  rw [hfind [0x61] (by decide), hstate]
  rfl

end DuckOs

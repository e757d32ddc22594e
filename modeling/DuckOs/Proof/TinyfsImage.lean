import DuckOs.Fs.TinyfsImage
import DuckOs.Proof.Tinyfs

/-!
# Packing and mounting

An image is the superblock, the entries, and the contents at the offsets that the entries name. The
mounted table has the packed names, and reading from the device gives the packed bytes.
-/

namespace DuckOs

open ByteStore

namespace Mktinyfs

/-! ### The image -/

/-- The entries and the data of the files, from an offset on. -/
def entryBytes : List (List UInt8 × List UInt8) → (offset : Nat) → List UInt8
  | [], _ => []
  | (name, contents) :: rest, offset =>
      packEntry name offset contents.length 0
        ++ entryBytes rest (alignUp (offset + contents.length) blockSize)

def dataBytes : List (List UInt8 × List UInt8) → (offset : Nat) → List UInt8
  | [], _ => []
  | (_, contents) :: rest, offset =>
      contents ++ List.replicate
          (alignUp (offset + contents.length) blockSize - (offset + contents.length)) 0
        ++ dataBytes rest (alignUp (offset + contents.length) blockSize)

theorem le_alignUp (value : Nat) : value ≤ alignUp value blockSize := by
  unfold alignUp blockSize
  omega

theorem buildLoop_eq (files : List (List UInt8 × List UInt8)) :
    ∀ (offset : Nat) (entries data : List UInt8),
      buildLoop files offset entries data
        = (entries ++ entryBytes files offset, data ++ dataBytes files offset) := by
  induction files with
  | nil =>
      intro offset entries data
      rw [buildLoop, entryBytes, dataBytes, List.append_nil, List.append_nil]
  | cons file rest ih =>
      intro offset entries data
      obtain ⟨name, contents⟩ := file
      have hnext := le_alignUp (offset + contents.length)
      rw [buildLoop, ih, entryBytes, dataBytes, Nat.add_sub_cancel' hnext]
      simp only [List.append_assoc]

theorem length_packEntry {name : List UInt8} (hname : name.length ≤ 63) (offset size flags : Nat) :
    (packEntry name offset size flags).length = TinyfsFile.entrySize := by
  simp only [packEntry, List.length_append, List.length_replicate, length_toLe, nameMax,
    TinyfsFile.entrySize]
  omega

theorem length_entryBytes (files : List (List UInt8 × List UInt8))
    (hnames : ∀ file ∈ files, file.1.length ≤ 63) :
    ∀ offset, (entryBytes files offset).length = files.length * 76 := by
  induction files with
  | nil => exact fun _ => rfl
  | cons file rest ih =>
      intro offset
      rw [entryBytes, List.length_append, length_packEntry (hnames file List.mem_cons_self),
        ih (fun other hmem => hnames other (List.mem_cons_of_mem _ hmem)), List.length_cons]
      simp only [TinyfsFile.entrySize]
      omega

theorem padImage_prefix (image : List UInt8) : image <+: padImage image := by
  unfold padImage
  dsimp only
  split
  · split
    · exact (List.prefix_append _ _).trans (List.prefix_append _ _)
    · exact List.prefix_append _ _
  · split
    · exact List.prefix_append _ _
    · exact List.prefix_refl _

/-- Where the parts of an image are. -/
structure Stored (storage : Store) (files : List (List UInt8 × List UInt8)) : Prop where
  superblock : slice storage 0 20
    = packSuperblock tinyfsMagic tinyfsVersion files.length 20 (dataOffset files.length)
  entries : slice storage 20 (entryBytes files (dataOffset files.length)).length
    = entryBytes files (dataOffset files.length)
  data : slice storage (dataOffset files.length) (dataBytes files (dataOffset files.length)).length
    = dataBytes files (dataOffset files.length)

theorem length_packSuperblock (magic version fileCount fileTableOffset dataOffset : Nat) :
    (packSuperblock magic version fileCount fileTableOffset dataOffset).length = 20 := by
  simp only [packSuperblock, List.length_append, length_toLe]

theorem buildImage_prefix (files : List (List UInt8 × List UInt8))
    (hnames : ∀ file ∈ files, file.1.length ≤ 63) :
    ∃ zeros : List UInt8,
      20 + files.length * 76 + zeros.length = dataOffset files.length
        ∧ packSuperblock tinyfsMagic tinyfsVersion files.length 20 (dataOffset files.length)
            ++ (entryBytes files (dataOffset files.length)
              ++ (zeros ++ dataBytes files (dataOffset files.length))) <+: buildImage files := by
  have hlength := length_entryBytes files hnames (dataOffset files.length)
  have hend : 20 + files.length * 76 ≤ dataOffset files.length := le_alignUp _
  refine ⟨List.replicate (dataOffset files.length - (20 + files.length * 76)) 0, ?_, ?_⟩
  · rw [List.length_replicate]
    omega
  · have himage : buildImage files = padImage
        (packSuperblock tinyfsMagic tinyfsVersion files.length 20 (dataOffset files.length)
          ++ (entryBytes files (dataOffset files.length)
            ++ (List.replicate (dataOffset files.length - (20 + files.length * 76)) 0
              ++ dataBytes files (dataOffset files.length)))) := by
      unfold buildImage
      dsimp only
      rw [buildLoop_eq, List.nil_append, List.nil_append, List.length_append,
        length_packSuperblock, hlength]
      simp only [List.append_assoc]
    rw [himage]
    exact padImage_prefix _

/-- On a device that holds the image, the parts are in their places and inside the image. -/
theorem stored_of_buildImage {storage : Store} {files : List (List UInt8 × List UInt8)}
    (hnames : ∀ file ∈ files, file.1.length ≤ 63)
    (himage : slice storage 0 (buildImage files).length = buildImage files) :
    Stored storage files
      ∧ dataOffset files.length + (dataBytes files (dataOffset files.length)).length
        ≤ (buildImage files).length
      ∧ 20 + files.length * 76 ≤ dataOffset files.length := by
  obtain ⟨zeros, hzeros, hstarts⟩ := buildImage_prefix files hnames
  have hlength := length_entryBytes files hnames (dataOffset files.length)
  have hle := hstarts.length_le
  have hparts := slice_eq_of_prefix hstarts himage
  rw [slice_eq_append_iff, slice_eq_append_iff, slice_eq_append_iff, length_packSuperblock,
    Nat.zero_add, hlength, hzeros] at hparts
  obtain ⟨hsuper, hentries, -, hdata⟩ := hparts
  simp only [List.length_append, length_packSuperblock, hlength] at hle
  refine ⟨⟨hsuper, hlength ▸ hentries, hdata⟩, by omega, by omega⟩

end Mktinyfs

/-! ### The table -/

section Mount

open Mktinyfs

variable {device : BlockDevice} {state : TinyfsState}

/-- The entry of a packed file: its name, and the place of its contents in the device. -/
structure Packs (device : BlockDevice) (packed : List UInt8 × List UInt8) (file : TinyfsFile) :
    Prop where
  name_eq : file.name = packed.1
  size_eq : file.size = packed.2.length
  contents_eq : slice device.storage file.offset file.size = packed.2
  inside : file.offset + file.size ≤ device.byteCount
  extent : file.offset + file.size < 2 ^ 31

theorem superblock_packed {magic version count tableOffset dataOffset : Nat}
    (hmagic : magic < 2 ^ 32) (hversion : version < 2 ^ 32) (hcount : count < 2 ^ 32)
    (htable : tableOffset < 2 ^ 32) (hoffset : dataOffset < 2 ^ 32) :
    TinyfsSuperblock.ofBytes (packSuperblock magic version count tableOffset dataOffset)
      = ⟨magic, version, count, tableOffset, dataOffset⟩ := by
  have hword : ∀ value < 2 ^ 32, field (toLe 4 value) 0 4 = value :=
    fun value hvalue => field_toLe (by omega)
  simp only [TinyfsSuperblock.ofBytes, packSuperblock, TinyfsSuperblock.mk.injEq]
  refine ⟨?_, ?_, ?_, ?_, ?_⟩ <;>
    simp (disch := simp) only [field_append_left, field_append_right, List.length_append,
      length_toLe, Nat.reduceAdd, Nat.reduceSub]
  exacts [hword _ hmagic, hword _ hversion, hword _ hcount, hword _ htable, hword _ hoffset]

theorem entry_packed {name : List UInt8} (hname : name.length ≤ 63) (hnul : 0 ∉ name)
    {offset size : Nat} (hoffset : offset < 2 ^ 32) (hsize : size < 2 ^ 32) :
    (TinyfsFile.ofBytes (packEntry name offset size 0)).name = name
      ∧ (TinyfsFile.ofBytes (packEntry name offset size 0)).offset = offset
      ∧ (TinyfsFile.ofBytes (packEntry name offset size 0)).size = size := by
  have hword : ∀ value < 2 ^ 32, field (toLe 4 value) 0 4 = value :=
    fun value hvalue => field_toLe (by omega)
  have hpadded : (name ++ List.replicate (nameMax - name.length) 0).length = 64 := by
    rw [List.length_append, List.length_replicate, nameMax]
    omega
  refine ⟨?_, ?_, ?_⟩
  · have hscanned : (packEntry name offset size 0).take 63 ++ [0]
        = name ++ 0 :: List.replicate (63 - name.length) 0 := by
      have hzeros : (nameMax - name.length) = 63 - name.length + 1 := by
        rw [nameMax]
        omega
      rw [packEntry, List.append_assoc, List.append_assoc, List.append_assoc, List.take_append,
        List.take_of_length_le hname, List.take_append_of_le_length
          (by rw [List.length_replicate, hzeros]; omega), List.take_replicate, hzeros,
        Nat.min_eq_left (by omega), List.append_assoc, ← List.replicate_succ,
        List.replicate_succ']
    rw [TinyfsFile.ofBytes, tinyfsNameMax, hscanned]
    exact CString.scan_append_nul hnul
  · simp only [TinyfsFile.ofBytes, packEntry]
    rw [field_append_left (by simp only [List.length_append, length_toLe] at hpadded ⊢; omega),
      field_append_left (by simp only [List.length_append, length_toLe] at hpadded ⊢; omega),
      field_append_right (by omega), hpadded]
    exact hword offset hoffset
  · simp only [TinyfsFile.ofBytes, packEntry]
    rw [field_append_left (by simp only [List.length_append, length_toLe] at hpadded ⊢; omega),
      field_append_right (by simp only [List.length_append, length_toLe] at hpadded ⊢; omega),
      List.length_append, hpadded, length_toLe]
    exact hword size hsize

theorem tinyfsReadBytes_eq (hdevice : state.device = some device) (husable : device.Usable)
    {offset size : Nat} (hinside : offset + size ≤ device.byteCount) :
    tinyfsReadBytes state offset size = some (slice device.storage offset size) := by
  rw [tinyfsReadBytes, hdevice]
  exact device.readLoop_eq husable hinside size 0 [] (Nat.zero_le _) le_rfl

theorem tinyfsMountLoop_stored (hdevice : state.device = some device) (husable : device.Usable)
    (files : List (List UInt8 × List UInt8)) :
    ∀ (entryOffset offset : Nat),
      (∀ file ∈ files, file.1.length ≤ 63 ∧ 0 ∉ file.1) →
      slice device.storage entryOffset (entryBytes files offset).length = entryBytes files offset →
      slice device.storage offset (dataBytes files offset).length = dataBytes files offset →
      entryOffset + files.length * 76 ≤ offset →
      offset + (dataBytes files offset).length ≤ device.byteCount →
      offset + (dataBytes files offset).length < 2 ^ 31 →
      ∃ table, tinyfsMountLoop state files.length entryOffset = some table
        ∧ List.Forall₂ (Packs device) files table := by
  induction files with
  | nil =>
      intro entryOffset offset _ _ _ _ _ _
      exact ⟨[], rfl, List.Forall₂.nil⟩
  | cons packed rest ih =>
      intro entryOffset offset hnames hentries hdata hbefore hinside hextent
      obtain ⟨name, contents⟩ := packed
      obtain ⟨hname, hnul⟩ := hnames _ List.mem_cons_self
      have hnext := le_alignUp (offset + contents.length)
      rw [entryBytes, slice_eq_append_iff, length_packEntry hname] at hentries
      rw [dataBytes, slice_eq_append_iff, slice_eq_append_iff, List.length_append,
        List.length_replicate, ← Nat.add_assoc, Nat.add_sub_cancel' hnext] at hdata
      rw [dataBytes, List.length_append, List.length_append, List.length_replicate] at hinside hextent
      rw [List.length_cons] at hbefore
      obtain ⟨hentry, hentries⟩ := hentries
      obtain ⟨⟨hcontents, -⟩, hdata⟩ := hdata
      have hsize : TinyfsFile.entrySize = 76 := rfl
      obtain ⟨table, hloop, htable⟩ := ih (entryOffset + TinyfsFile.entrySize) _
        (fun file hmem => hnames file (List.mem_cons_of_mem _ hmem)) hentries hdata
        (by omega) (by omega) (by omega)
      have hread : tinyfsReadBytes state entryOffset TinyfsFile.entrySize
          = some (packEntry name offset contents.length 0) := by
        rw [tinyfsReadBytes_eq hdevice husable (by omega), hentry]
      obtain ⟨hpacked, hoffset, hlength⟩ := entry_packed hname hnul
        (by omega : offset < 2 ^ 32) (by omega : contents.length < 2 ^ 32)
      refine ⟨TinyfsFile.ofBytes (packEntry name offset contents.length 0) :: table, ?_, ?_⟩
      · rw [List.length_cons, tinyfsMountLoop, hread]
        dsimp only
        rw [Nat.mod_eq_of_lt (by omega), hloop, Option.map_some]
      · refine List.Forall₂.cons ⟨hpacked, hlength, ?_, ?_, ?_⟩ htable
        · rw [hoffset, hlength]
          exact hcontents
        · rw [hoffset, hlength]
          omega
        · rw [hoffset, hlength]
          omega

/-- A path is found exactly when it was packed. -/
theorem find?_isSome_of_packs {files : List (List UInt8 × List UInt8)} {table : List TinyfsFile}
    (htable : List.Forall₂ (Packs device) files table) (path : List UInt8) :
    (table.find? fun file => file.name = path).isSome = true ↔ ∃ packed ∈ files, packed.1 = path := by
  induction htable with
  | nil => simp
  | @cons packed file rest table hpacks htable ih =>
      rw [List.find?_cons]
      by_cases hname : file.name = path
      · simp only [hname, decide_true, Option.isSome_some, true_iff]
        exact ⟨packed, List.mem_cons_self, hpacks.name_eq ▸ hname⟩
      · simp only [hname, decide_false, ih, List.mem_cons, exists_eq_or_imp, ← hpacks.name_eq,
          false_or]

theorem find?_of_packs {files : List (List UInt8 × List UInt8)} {table : List TinyfsFile}
    (htable : List.Forall₂ (Packs device) files table) (hdistinct : (files.map (·.1)).Nodup)
    {packed : List UInt8 × List UInt8} (hmem : packed ∈ files) :
    ∃ file, (table.find? fun file => file.name = packed.1) = some file ∧ Packs device packed file := by
  induction htable with
  | nil => cases hmem
  | @cons first file rest table hpacks htable ih =>
      rw [List.map_cons, List.nodup_cons] at hdistinct
      rw [List.find?_cons]
      rcases List.mem_cons.mp hmem with rfl | hmem
      · exact ⟨file, by rw [decide_eq_true hpacks.name_eq], hpacks⟩
      · have hname : file.name ≠ packed.1 := by
          rw [hpacks.name_eq]
          intro heq
          exact hdistinct.1 (heq ▸ List.mem_map_of_mem hmem)
        rw [decide_eq_false hname]
        exact ih hdistinct.2 hmem

/-- A device that holds an image mounts, with the packed files as its table. -/
theorem tinyfsMount_stored {files : List (List UInt8 × List UInt8)} (hcount : files.length ≤ 16)
    (hnames : ∀ file ∈ files, file.1.length ≤ 63 ∧ 0 ∉ file.1)
    (hsmall : (buildImage files).length < 2 ^ 31) (hblock : device.blockSize = 512)
    (hholds : (buildImage files).length ≤ device.byteCount)
    (himage : slice device.storage 0 (buildImage files).length = buildImage files) :
    ∃ table, tinyfsMount device = (true, ⟨some device, table, true⟩)
      ∧ List.Forall₂ (Packs device) files table := by
  obtain ⟨hstored, hend, hbefore⟩ :=
    stored_of_buildImage (fun file hmem => (hnames file hmem).1) himage
  have husable : device.Usable := ⟨by omega, by omega⟩
  obtain ⟨table, hloop, htable⟩ := @tinyfsMountLoop_stored device ⟨some device, [], false⟩ rfl
    husable files 20 (dataOffset files.length) hnames hstored.entries hstored.data hbefore
    (by omega) (by omega)
  have hread : tinyfsReadBytes ⟨some device, [], false⟩ 0 TinyfsSuperblock.size
      = some (packSuperblock tinyfsMagic tinyfsVersion files.length 20
          (dataOffset files.length)) := by
    have hsize : TinyfsSuperblock.size = 20 := rfl
    rw [@tinyfsReadBytes_eq device ⟨some device, [], false⟩ rfl husable _ _ (by omega),
      hsize, hstored.superblock]
  have hmagic : tinyfsMagic < 2 ^ 32 := by
    unfold tinyfsMagic
    omega
  have hversion : tinyfsVersion < 2 ^ 32 := by
    unfold tinyfsVersion
    omega
  have hheader := superblock_packed hmagic hversion (by omega : files.length < 2 ^ 32)
    (by omega : 20 < 2 ^ 32) (by omega : dataOffset files.length < 2 ^ 32)
  refine ⟨table, ?_, htable⟩
  unfold tinyfsMount
  have hfits : ¬ tinyfsIoBufferSize < device.blockSize := by
    unfold tinyfsIoBufferSize
    omega
  have hok : ¬ (tinyfsMagic ≠ tinyfsMagic ∨ tinyfsVersion ≠ tinyfsVersion
      ∨ tinyfsMaxFiles < files.length) := by
    unfold tinyfsMaxFiles
    omega
  simp only [if_neg hfits, hread, hheader, if_neg hok, hloop]

/-- Mounting an image gives back the packed files: their names, their bytes, and every part of
them. -/
theorem tinyfs_image_round_trip {files : List (List UInt8 × List UInt8)}
    (hcount : files.length ≤ 16) (hdistinct : (files.map (·.1)).Nodup)
    (hnames : ∀ file ∈ files, file.1.length ≤ 63 ∧ 0 ∉ file.1)
    (hsmall : (buildImage files).length < 2 ^ 31) (hblock : device.blockSize = 512)
    (hholds : (buildImage files).length ≤ device.byteCount)
    (himage : slice device.storage 0 (buildImage files).length = buildImage files) :
    (tinyfsMount device).1 = true
      ∧ (∀ path, (tinyfsFind (tinyfsMount device).2 path).isSome = true
          ↔ path ∈ files.map (·.1))
      ∧ ∀ name contents, (name, contents) ∈ files →
          contents.length < 2 ^ 31
            ∧ (∀ maxSize, contents.length ≤ maxSize →
                tinyfsReadFile (tinyfsMount device).2 name maxSize = some contents)
            ∧ ∀ offset size, offset ≤ contents.length →
                tinyfsReadFilePart (tinyfsMount device).2 name offset size
                  = some ((contents.drop offset).take size) := by
  have husable : device.Usable := ⟨by omega, by omega⟩
  obtain ⟨table, hmount, htable⟩ := tinyfsMount_stored hcount hnames hsmall hblock hholds himage
  rw [hmount]
  refine ⟨rfl, ?_, ?_⟩
  · intro path
    rw [List.mem_map]
    exact find?_isSome_of_packs htable path
  · intro name contents hmem
    obtain ⟨file, hfind, hpacks⟩ := find?_of_packs htable hdistinct hmem
    have hfound : tinyfsFind ⟨some device, table, true⟩ name = some file := hfind
    have hsize : file.size = contents.length := hpacks.size_eq
    have hcontents : slice device.storage file.offset file.size = contents := hpacks.contents_eq
    have hextent := hpacks.extent
    refine ⟨by omega, ?_, ?_⟩
    · intro maxSize hmax
      rw [tinyfsReadFile, hfound]
      dsimp only
      rw [if_neg (by omega), tinyfsReadBytes_eq rfl husable hpacks.inside, hcontents]
    · intro offset size hoffset
      rw [tinyfsReadFilePart_eq rfl husable hfound (by omega) hpacks.inside (by omega),
        ← hcontents, drop_slice, take_slice]

/-- A disk with an image at its start. -/
def imageDevice (blockCount : Nat) (files : List (List UInt8 × List UInt8)) : BlockDevice :=
  ⟨512, blockCount, patch (fun _ => 0) 0 (buildImage files), []⟩

theorem imageDevice_image (blockCount : Nat) (files : List (List UInt8 × List UInt8)) :
    slice (imageDevice blockCount files).storage 0 (buildImage files).length = buildImage files := by
  unfold imageDevice
  dsimp only
  exact slice_patch_self

def twoFiles : List (List UInt8 × List UInt8) := [([104, 105], [1, 2, 3]), ([97], [])]

theorem length_buildImage_twoFiles : (buildImage twoFiles).length = 4096 := by decide +kernel

theorem tinyfs_image_round_trip_twoFiles :
    (tinyfsMount (imageDevice 8 twoFiles)).1 = true
      ∧ (tinyfsFind (tinyfsMount (imageDevice 8 twoFiles)).2 [98]).isSome = false
      ∧ tinyfsReadFile (tinyfsMount (imageDevice 8 twoFiles)).2 [104, 105] 3 = some [1, 2, 3]
      ∧ tinyfsReadFilePart (tinyfsMount (imageDevice 8 twoFiles)).2 [104, 105] 1 9 = some [2, 3] := by
  have hlength := length_buildImage_twoFiles
  have hholds : (buildImage twoFiles).length ≤ (imageDevice 8 twoFiles).byteCount := by
    rw [hlength]
    decide
  obtain ⟨hmount, hfind, hread⟩ := @tinyfs_image_round_trip (imageDevice 8 twoFiles) twoFiles
    (by decide) (by decide) (by decide) (by omega) rfl hholds (imageDevice_image 8 twoFiles)
  obtain ⟨-, hwhole, hpart⟩ := hread [104, 105] [1, 2, 3] List.mem_cons_self
  refine ⟨hmount, ?_, hwhole 3 le_rfl, hpart 1 9 (by decide)⟩
  rw [Bool.eq_false_iff, ne_eq, hfind]
  decide

end Mount

end DuckOs

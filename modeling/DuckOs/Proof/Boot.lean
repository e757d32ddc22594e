import DuckOs.Fs.VfsList
import DuckOs.Kernel.Boot
import DuckOs.Proof.ShellFiles
import DuckOs.Proof.TinyfsImage

/-!
# From the packed files to the shell

What `mktinyfs.py` packs is what the shell prints once the kernel has mounted its root, be the image on `vda` or
in the kernel itself, and what the kernel prints of its configuration before.
-/

namespace DuckOs

open ByteStore Mktinyfs

/-- What `collect_files` finds in a directory, if there are not too many files. The names are relative paths. -/
structure Mktinyfs.Collected (files : List (List UInt8 × List UInt8)) : Prop where
  count_le : files.length ≤ tinyfsMaxFiles
  distinct : (files.map (·.1)).Nodup
  short : ∀ file ∈ files, file.1.length ≤ 63
  nulFree : ∀ file ∈ files, 0 ∉ file.1
  relative : ∀ file ∈ files, vfsSegments file.1 ≠ [] ∧ file.1 = vfsJoin (vfsSegments file.1)
    ∧ ¬ (vfsSegments file.1).any pathDotSegment

/-- A device that holds the image of the files from its start on. -/
structure BlockDevice.HoldsImage (device : BlockDevice) (files : List (List UInt8 × List UInt8)) :
    Prop where
  blockSize_eq : device.blockSize = 512
  length_le : (buildImage files).length ≤ device.byteCount
  length_lt : (buildImage files).length < 2 ^ 31
  image : slice device.storage 0 (buildImage files).length = buildImage files

/-- The files are on `vda`; or nothing is that mounts, and they are embedded. -/
inductive RootSource (vda : Option BlockDevice) (image : List UInt8)
    (files : List (List UInt8 × List UInt8)) : Prop where
  | disk (device : BlockDevice) : vda = some device → device.HoldsImage files →
      RootSource vda image files
  | embedded : (∀ device, vda = some device → (tinyfsMount device).1 = false) →
      image = buildImage files → (buildImage files).length ≤ ramdiskBlockCount * ramdiskBlockSize →
      RootSource vda image files

/-! ### Images -/

section Images

variable {device : BlockDevice} {files : List (List UInt8 × List UInt8)}

/-- An image consists of whole blocks. -/
theorem length_padImage (image : List UInt8) :
    (padImage image).length % 512 = 0 ∧ 0 < (padImage image).length := by
  unfold padImage blockSize minImageSize
  dsimp only
  by_cases haligned : image.length % 512 = 0
  · rw [if_neg (not_not.mpr haligned)]
    split
    · rw [List.length_append, List.length_replicate]
      omega
    · omega
  · rw [if_pos haligned]
    split
    · rw [List.length_append, List.length_replicate]
      omega
    · rw [List.length_append, List.length_replicate]
      omega

theorem length_buildImage (files : List (List UInt8 × List UInt8)) :
    (buildImage files).length % 512 = 0 ∧ 0 < (buildImage files).length := length_padImage _

theorem holdsImage_patch {blockCount : Nat} (storage : Store) (writes : List BlockWrite)
    (hlength : (buildImage files).length ≤ blockCount * 512)
    (hlt : (buildImage files).length < 2 ^ 31) :
    BlockDevice.HoldsImage ⟨512, blockCount, patch storage 0 (buildImage files), writes⟩ files where
  blockSize_eq := rfl
  length_le := hlength
  length_lt := hlt
  image := by
    dsimp only
    exact slice_patch_self

/-- The device with the embedded image. -/
theorem kernelLoadTinyfsImage_holds (hblock : device.blockSize = 512)
    (hlength : (buildImage files).length ≤ device.blockCount * 512)
    (hlt : (buildImage files).length < 2 ^ 31) :
    ∃ loaded, kernelLoadTinyfsImage device (buildImage files) = some loaded
      ∧ loaded.HoldsImage files := by
  obtain ⟨haligned, hpos⟩ := length_buildImage files
  have hvalid : device.rangeValid 0 ((buildImage files).length / 512) = true := by
    rw [BlockDevice.rangeValid, Bool.and_eq_true, bne_iff_ne, decide_eq_true_eq]
    omega
  obtain ⟨blockSize, blockCount, storage, writes⟩ := device
  obtain rfl : blockSize = 512 := hblock
  refine ⟨_, ?_, holdsImage_patch storage (writes ++ [(0, buildImage files)]) hlength hlt⟩
  rw [kernelLoadTinyfsImage, if_neg (by dsimp only; omega)]
  dsimp only at hlength ⊢
  rw [if_neg (by omega), BlockDevice.writeBlocks, if_pos hvalid, Nat.zero_mul]

/-! ### Flags -/

theorem flags_packEntry {name : List UInt8} (hname : name.length ≤ 63) (offset size : Nat) :
    (TinyfsFile.ofBytes (packEntry name offset size 0)).flags = 0 := by
  have hpadded : (name ++ List.replicate (nameMax - name.length) 0).length = 64 := by
    rw [List.length_append, List.length_replicate, nameMax]
    omega
  simp only [TinyfsFile.ofBytes, packEntry]
  rw [field_append_right (by simp only [List.length_append, length_toLe] at hpadded ⊢; omega),
    List.length_append, List.length_append, hpadded, length_toLe, length_toLe]
  exact field_toLe (by decide)

/-- The packer sets no flags. -/
theorem tinyfsMountLoop_flags {state : TinyfsState} (hdevice : state.device = some device)
    (husable : device.Usable) (files : List (List UInt8 × List UInt8)) :
    ∀ (entryOffset offset : Nat) (table : List TinyfsFile),
      (∀ file ∈ files, file.1.length ≤ 63) →
      slice device.storage entryOffset (entryBytes files offset).length = entryBytes files offset →
      entryOffset + files.length * 76 ≤ device.byteCount → entryOffset + files.length * 76 < 2 ^ 31 →
      tinyfsMountLoop state files.length entryOffset = some table →
      ∀ file ∈ table, file.flags = 0 := by
  induction files with
  | nil =>
      intro entryOffset offset table _ _ _ _ hloop
      cases hloop
      exact fun _ hfile => absurd hfile List.not_mem_nil
  | cons packed rest ih =>
      intro entryOffset offset table hnames hentries hinside hextent hloop
      obtain ⟨name, contents⟩ := packed
      have hname := hnames _ List.mem_cons_self
      have hsize : TinyfsFile.entrySize = 76 := rfl
      rw [entryBytes, slice_eq_append_iff, length_packEntry hname] at hentries
      rw [List.length_cons] at hinside hextent hloop
      have hread : tinyfsReadBytes state entryOffset TinyfsFile.entrySize
          = some (packEntry name offset contents.length 0) := by
        rw [tinyfsReadBytes_eq hdevice husable (by omega), hentries.1]
      rw [tinyfsMountLoop, hread] at hloop
      dsimp only at hloop
      rw [Nat.mod_eq_of_lt (by omega)] at hloop
      obtain ⟨others, hothers, rfl⟩ := Option.map_eq_some_iff.mp hloop
      intro file hfile
      rcases List.mem_cons.mp hfile with rfl | hmem
      · exact flags_packEntry hname _ _
      · exact ih (entryOffset + TinyfsFile.entrySize) _ others
          (fun other hother => hnames other (List.mem_cons_of_mem _ hother)) hentries.2
          (by omega) (by omega) hothers file hmem

/-- The table of a mounted file system is what the loop has read. -/
theorem tinyfsMount_table {table : List TinyfsFile}
    (hmount : tinyfsMount device = (true, ⟨some device, table, true⟩)) :
    ∃ bytes, tinyfsReadBytes ⟨some device, [], false⟩ 0 TinyfsSuperblock.size = some bytes
      ∧ tinyfsMountLoop ⟨some device, [], false⟩ (TinyfsSuperblock.ofBytes bytes).fileCount
        (TinyfsSuperblock.ofBytes bytes).fileTableOffset = some table := by
  unfold tinyfsMount at hmount
  split at hmount
  · cases hmount
  · dsimp only at hmount
    split at hmount
    · cases hmount
    · rename_i bytes hread
      split at hmount
      · cases hmount
      · split at hmount
        · cases hmount
        · rename_i files hloop
          cases hmount
          exact ⟨bytes, hread, hloop⟩

theorem BlockDevice.HoldsImage.mount (hfiles : Collected files) (hholds : device.HoldsImage files) :
    ∃ table, tinyfsMount device = (true, ⟨some device, table, true⟩)
      ∧ List.Forall₂ (Packs device) files table ∧ ∀ file ∈ table, file.flags = 0 := by
  have hcount : files.length ≤ 16 := hfiles.count_le
  obtain ⟨table, hmount, htable⟩ := tinyfsMount_stored hcount
    (fun file hmem => ⟨hfiles.short file hmem, hfiles.nulFree file hmem⟩) hholds.length_lt
    hholds.blockSize_eq hholds.length_le hholds.image
  refine ⟨table, hmount, htable, ?_⟩
  obtain ⟨hstored, hend, hbefore⟩ := stored_of_buildImage hfiles.short hholds.image
  have hlength := hholds.length_le
  have hlt := hholds.length_lt
  have hblock := hholds.blockSize_eq
  have husable : device.Usable := ⟨by omega, by omega⟩
  have hsize : TinyfsSuperblock.size = 20 := rfl
  obtain ⟨bytes, hread, hloop⟩ := tinyfsMount_table hmount
  rw [tinyfsReadBytes_eq rfl husable (by omega), hsize, hstored.superblock] at hread
  obtain rfl := Option.some.inj hread
  rw [superblock_packed (by decide) (by decide) (by omega) (by decide) (by omega)] at hloop
  exact tinyfsMountLoop_flags rfl husable files 20 _ table hfiles.short hstored.entries
    (by omega) (by omega) hloop

end Images

/-! ### The root -/

section Root

variable {vda : Option BlockDevice} {image : List UInt8} {files : List (List UInt8 × List UInt8)}
  {device : BlockDevice} {vfs : VfsState}

/-- A mounted file system with the packed files as its table. -/
structure VfsState.Serves (vfs : VfsState) (device : BlockDevice)
    (files : List (List UInt8 × List UInt8)) : Prop extends vfs.Mounted device where
  packs : List.Forall₂ (Packs device) files vfs.tinyfs.files
  flags_eq : ∀ file ∈ vfs.tinyfs.files, file.flags = 0

theorem mem_of_packs {table : List TinyfsFile} (htable : List.Forall₂ (Packs device) files table) :
    ∀ file ∈ table, ∃ packed ∈ files, Packs device packed file := by
  induction htable with
  | nil => exact fun _ hfile => absurd hfile List.not_mem_nil
  | @cons packed file rest table hpacks _ ih =>
      intro other hother
      rcases List.mem_cons.mp hother with rfl | hmem
      · exact ⟨packed, List.mem_cons_self, hpacks⟩
      · obtain ⟨found, hfound, hpacks⟩ := ih other hmem
        exact ⟨found, List.mem_cons_of_mem _ hfound, hpacks⟩

theorem BlockDevice.HoldsImage.serves (hfiles : Collected files) (hholds : device.HoldsImage files) :
    ∃ table, tinyfsMount device = (true, ⟨some device, table, true⟩)
      ∧ VfsState.Serves ⟨⟨some device, table, true⟩, true⟩ device files := by
  obtain ⟨table, hmount, htable, hflags⟩ := hholds.mount hfiles
  obtain ⟨-, hpos⟩ := length_buildImage files
  have hlength := hholds.length_le
  have hblock := hholds.blockSize_eq
  have hextent : ∀ file ∈ table, file.offset + file.size ≤ device.byteCount
      ∧ file.offset + file.size < 2 ^ 31 := by
    intro file hfile
    obtain ⟨packed, -, hpacks⟩ := mem_of_packs htable file hfile
    exact ⟨hpacks.inside, hpacks.extent⟩
  exact ⟨table, hmount, {
    ready := rfl
    tinyfs_ready := rfl
    device_eq := rfl
    usable := ⟨by omega, by omega⟩
    inside := fun file hfile => (hextent file hfile).1
    short := fun file hfile => (hextent file hfile).2
    packs := htable
    flags_eq := hflags }⟩

theorem names_of_packs {table : List TinyfsFile} (htable : List.Forall₂ (Packs device) files table) :
    table.map (·.name) = files.map (·.1) := by
  induction htable with
  | nil => rfl
  | cons hpacks _ ih => rw [List.map_cons, List.map_cons, hpacks.name_eq, ih]

/-- Collected files, none of which is a directory of another one, give a table as the listings take it. -/
theorem VfsState.Serves.packed (hfiles : Collected files)
    (hapart : ∀ file ∈ files, ∀ other ∈ files, ¬ file.1 ++ [pathSeparator] <+: other.1)
    (hserves : vfs.Serves device files) : vfs.Packed := by
  have hpacked : ∀ file ∈ vfs.tinyfs.files, ∃ contents, (file.name, contents) ∈ files := by
    intro file hfile
    obtain ⟨packed, hmem, hpacks⟩ := mem_of_packs hserves.packs file hfile
    exact ⟨packed.2, hpacks.name_eq ▸ hmem⟩
  exact {
    ready := hserves.ready
    tinyfs_ready := hserves.tinyfs_ready
    count_le := hserves.packs.length_eq ▸ hfiles.count_le
    canonical := by
      intro file hfile
      obtain ⟨contents, hmem⟩ := hpacked file hfile
      exact hfiles.relative _ hmem
    nulFree := by
      intro file hfile
      obtain ⟨contents, hmem⟩ := hpacked file hfile
      exact hfiles.nulFree _ hmem
    short := by
      intro file hfile
      obtain ⟨contents, hmem⟩ := hpacked file hfile
      exact Nat.lt_succ_of_le (hfiles.short _ hmem)
    distinct := by
      rw [names_of_packs hserves.packs]
      exact hfiles.distinct
    apart := by
      intro file hfile other hother
      obtain ⟨contents, hmem⟩ := hpacked file hfile
      obtain ⟨_, hsecond⟩ := hpacked other hother
      exact hapart _ hmem _ hsecond
    flags_eq := hserves.flags_eq }

/-- The kernel mounts the packed files. -/
theorem RootSource.serves (hfiles : Collected files) (hsource : RootSource vda image files) :
    ∃ vfs device, kernelMountRoot vda image = some vfs ∧ vfs.Serves device files := by
  cases hsource with
  | disk device hvda hholds =>
      obtain ⟨table, hmount, hserves⟩ := hholds.serves hfiles
      refine ⟨_, device, ?_, hserves⟩
      rw [kernelMountRoot, kernelMountRootTinyfs, hvda, Option.map_some, hmount]
      rfl
  | embedded hvda himage hlength =>
      rw [ramdiskBlockCount, ramdiskBlockSize] at hlength
      obtain ⟨device, hload, hholds⟩ :=
        @kernelLoadTinyfsImage_holds ramdiskDevice files rfl hlength (by omega)
      obtain ⟨table, hmount, hserves⟩ := hholds.serves hfiles
      refine ⟨_, device, ?_, hserves⟩
      have hfallback : kernelMountRootTinyfs vda ramdiskDevice image
          = some ⟨some device, table, true⟩ := by
        rw [kernelMountRootTinyfs, himage, hload]
        dsimp only
        rw [hmount]
        cases hdisk : vda with
        | none => rfl
        | some disk =>
            have hfailed := hvda disk hdisk
            rw [Option.map_some]
            generalize tinyfsMount disk = mounted at hfailed
            obtain ⟨success, tinyfs⟩ := mounted
            obtain rfl : success = false := hfailed
            rfl
      rw [kernelMountRoot, hfallback]
      rfl

/-- The root that the kernel mounts is one that the listings and the Files app can show. -/
theorem RootSource.packed (hfiles : Collected files)
    (hapart : ∀ file ∈ files, ∀ other ∈ files, ¬ file.1 ++ [pathSeparator] <+: other.1)
    (hsource : RootSource vda image files) :
    ∃ vfs, kernelMountRoot vda image = some vfs ∧ vfs.Packed := by
  obtain ⟨vfs, device, hmount, hserves⟩ := hsource.serves hfiles
  exact ⟨vfs, hmount, hserves.packed hfiles hapart⟩

/-- A path with the segments of a packed name names that file. -/
theorem VfsState.Serves.named (hfiles : Collected files) (hserves : vfs.Serves device files)
    {name contents path : List UInt8} (hmem : (name, contents) ∈ files)
    (hpath : vfsSegments path = vfsSegments name) :
    ∃ file, namedFile vfs.tinyfs.files path = some file ∧ Packs device (name, contents) file := by
  obtain ⟨hsegments, hname, hdots⟩ := hfiles.relative _ hmem
  obtain ⟨file, hfind, hpacks⟩ := find?_of_packs hserves.packs hfiles.distinct hmem
  have hshort := hfiles.short _ hmem
  dsimp only at hsegments hname hdots hshort hfind
  have hlength : (vfsJoin (vfsSegments name)).length < vfsPathMax := by
    rw [← hname, vfsPathMax]
    omega
  refine ⟨file, ?_, hpacks⟩
  rw [namedFile, hpath, if_neg (by rw [not_or, not_or]; exact ⟨hsegments, hdots, by omega⟩),
    ← hname, hfind, Option.filter_eq_some_iff]
  refine ⟨rfl, ?_⟩
  rw [hserves.flags_eq file (List.mem_of_find?_eq_some hfind)]
  rfl

theorem VfsState.Serves.contents_eq (hfiles : Collected files) (hserves : vfs.Serves device files)
    {name contents path : List UInt8} (hmem : (name, contents) ∈ files)
    (hpath : vfsSegments path = vfsSegments name) : vfs.contents device path = some contents := by
  obtain ⟨file, hnamed, hpacks⟩ := hserves.named hfiles hmem hpath
  rw [VfsState.contents, hnamed, Option.map_some, TinyfsFile.contents, hpacks.contents_eq]

/-- The whole file is read, if it fits the buffer. -/
theorem VfsState.Serves.readFile_eq (hfiles : Collected files) (hserves : vfs.Serves device files)
    {name contents path : List UInt8} (hmem : (name, contents) ∈ files)
    (hpath : vfsSegments path = vfsSegments name) (maxSize : Nat) :
    vfsReadFile vfs path maxSize = if maxSize < contents.length then none else some contents := by
  obtain ⟨file, hnamed, hpacks⟩ := hserves.named hfiles hmem hpath
  have hnames := namedFile_names hserves.ready hserves.tinyfs_ready hnamed
  have hregular : ¬ file.flags % 2 = 1 := by
    have heven := hnames.regular
    omega
  have hread := @tinyfsReadBytes_eq device vfs.tinyfs hserves.device_eq hserves.usable _ _ hpacks.inside
  rw [hpacks.contents_eq, hpacks.size_eq] at hread
  unfold vfsReadFile tinyfsReadFile
  simp only [hserves.ready, Bool.not_true, Bool.false_eq_true, ↓reduceIte, hnames.normalized false,
    hnames.name.stat_eq, hregular, hnames.found, hpacks.size_eq, hread]

/-- A text file of the configuration: nothing if it is empty or does not fit the buffer, else the string at its
start without the white space at the end. -/
def bootText (contents : List UInt8) (bufferSize : Nat) : Option (List UInt8) :=
  if contents = [] ∨ bufferSize ≤ contents.length then none
  else some (kernelTrimText (CString.scan contents))

theorem VfsState.Serves.readBootText_eq (hfiles : Collected files) (hserves : vfs.Serves device files)
    {name contents path : List UInt8} (hmem : (name, contents) ∈ files)
    (hpath : vfsSegments path = vfsSegments name) {bufferSize : Nat} (hsize : 2 ≤ bufferSize) :
    kernelReadBootText vfs path bufferSize = bootText contents bufferSize := by
  rw [kernelReadBootText, if_neg (by omega), hserves.readFile_eq hfiles hmem hpath, bootText]
  by_cases hlarge : bufferSize ≤ contents.length
  · rw [if_pos (by omega), if_pos (Or.inr hlarge)]
  · rw [if_neg (by omega)]
    cases contents with
    | nil => rw [if_pos (Or.inl rfl)]
    | cons byte bytes => rw [if_neg (by rw [not_or]; exact ⟨List.cons_ne_nil _ _, hlarge⟩)]

/-- A file that was not packed is not read, even where it is a directory. -/
theorem VfsState.Serves.readFile_missing (hserves : vfs.Serves device files) {name path : List UInt8}
    (hnormal : vfsNormalizePath path false = some name) (hmissing : ∀ file ∈ files, file.1 ≠ name)
    (maxSize : Nat) : vfsReadFile vfs path maxSize = none := by
  rw [vfsReadFile, hserves.ready, hnormal]
  dsimp only
  cases hstat : vfsStat vfs name with
  | none => rfl
  | some info =>
      by_cases hdirectory : info.flags % 2 = 1
      · exact if_pos hdirectory
      · obtain ⟨file, hnamed⟩ := namedFile_of_stat hserves.ready hserves.tinyfs_ready hstat hdirectory
        have hnames := namedFile_names hserves.ready hserves.tinyfs_ready hnamed
        have hname : file.name = name :=
          Option.some.inj ((hnames.normalized false).symm.trans (vfsNormalizePath_idem hnormal))
        obtain ⟨packed, hpacked, hpacks⟩ := mem_of_packs hserves.packs file (namedFile_mem hnamed)
        exact absurd (hpacks.name_eq.symm.trans hname) (hmissing packed hpacked)

/-- The text of a packed file, if there is one under the name. -/
def packedText (files : List (List UInt8 × List UInt8)) (name : List UInt8) : List UInt8 :=
  ((files.find? (·.1 = name)).bind fun file => bootText file.2 kernelBootConfigMax).getD []

theorem VfsState.Serves.bootText_packed (hfiles : Collected files) (hserves : vfs.Serves device files)
    {name path : List UInt8} (hnormal : vfsNormalizePath path false = some name)
    (hpath : vfsSegments path = vfsSegments name) :
    (kernelReadBootText vfs path kernelBootConfigMax).getD [] = packedText files name := by
  rw [packedText]
  cases hfind : files.find? (·.1 = name) with
  | none =>
      have hmissing : ∀ file ∈ files, file.1 ≠ name := by
        intro file hfile
        exact of_decide_eq_false (Bool.eq_false_iff.mpr (List.find?_eq_none.mp hfind file hfile))
      rw [kernelReadBootText, if_neg (by decide), hserves.readFile_missing hnormal hmissing]
      rfl
  | some file =>
      have hfound := List.find?_some hfind
      have hname : file.1 = name := of_decide_eq_true hfound
      have hmem : (name, file.2) ∈ files := hname ▸ List.mem_of_find?_eq_some hfind
      rw [hserves.readBootText_eq hfiles hmem hpath (by decide)]
      rfl

/-- The kernel prints the name of the host, `duck-os` if none is packed, and the message and the theme that are
packed. -/
theorem kernelPrintBootConfig_packed (hfiles : Collected files) (hserves : vfs.Serves device files) :
    kernelPrintBootConfig vfs
      = let hostname := packedText files (ascii "etc/hostname")
        let motd := packedText files (ascii "etc/motd")
        let theme := packedText files (ascii "etc/theme")
        ([ascii "hostname: " ++ (if hostname = [] then ascii "duck-os" else hostname) ++ [0x0a]]
          ++ (if motd = [] then [] else [ascii "motd: " ++ motd ++ [0x0a]])
          ++ (if theme = [] then [] else [ascii "[INFO] theme: " ++ theme ++ [0x0a]])).map some := by
  have hhostFormat : ascii "hostname: %s\n" = ascii "hostname: " ++ [0x25, 0x73, 0x0a] := by decide +kernel
  have hmotdFormat : ascii "motd: %s\n" = ascii "motd: " ++ [0x25, 0x73, 0x0a] := by decide +kernel
  have hthemeFormat : ascii "[INFO] theme: %s\n" = ascii "[INFO] theme: " ++ [0x25, 0x73, 0x0a] := by
    decide +kernel
  have hhostname := hserves.bootText_packed hfiles
    (show vfsNormalizePath (ascii "/etc/hostname") false = some (ascii "etc/hostname") by decide +kernel)
    (by decide +kernel)
  have hmotd := hserves.bootText_packed hfiles
    (show vfsNormalizePath (ascii "/etc/motd") false = some (ascii "etc/motd") by decide +kernel)
    (by decide +kernel)
  have htheme := hserves.bootText_packed hfiles
    (show vfsNormalizePath (ascii "/etc/theme") false = some (ascii "etc/theme") by decide +kernel)
    (by decide +kernel)
  simp only [kernelPrintBootConfig, hhostname, hmotd, htheme, hhostFormat, hmotdFormat, hthemeFormat]
  rw [kprintf_string (by decide), kprintf_string (by decide), kprintf_string (by decide)]
  split <;> split <;> split <;> rfl
end Root

end DuckOs

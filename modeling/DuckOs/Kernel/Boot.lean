import DuckOs.Fs.VfsBuffer
import DuckOs.Kernel.Klog
import DuckOs.Lib.CString
import DuckOs.Desktop.Window
import Mathlib.Data.List.DropRight

/-!
# Mounting the root

The part of `kernel_main` in `src/kernel/kernel.c` that finds the root file system, `src/drivers/ramdisk.c`,
and the configuration that is read from the root.
-/

namespace DuckOs

def ramdiskBlockSize : Nat := 512

def ramdiskBlockCount : Nat := 128

/-- `ramdisk0_device` after `ramdisk_init`. -/
def ramdiskDevice : BlockDevice := ⟨ramdiskBlockSize, ramdiskBlockCount, fun _ => 0, []⟩

/-- The device with the embedded image; `none` is the return value -1. -/
def kernelLoadTinyfsImage (device : BlockDevice) (image : List UInt8) : Option BlockDevice :=
  if image.length = 0 ∨ image.length % device.blockSize ≠ 0 then none
  else
    let blockCount := image.length / device.blockSize
    if device.blockCount < blockCount then none else device.writeBlocks 0 blockCount image

/-- `vda` is what `block_find_device` finds. `none` is the return value -1, which is a panic. -/
def kernelMountRootTinyfs (vda : Option BlockDevice) (ramdisk : BlockDevice) (image : List UInt8) :
    Option TinyfsState :=
  match vda.map tinyfsMount with
  | some (true, tinyfs) => some tinyfs
  | _ =>
      match kernelLoadTinyfsImage ramdisk image with
      | none => none
      | some ramdisk =>
          match tinyfsMount ramdisk with
          | (true, tinyfs) => some tinyfs
          | (false, _) => none

/-- `none` is the return value -1, which is a panic. -/
def vfsMountRoot (tinyfs : TinyfsState) : Option VfsState :=
  if tinyfs.ready ∧ tinyfs.device.isSome then some ⟨tinyfs, true⟩ else none

/-- The calls of `kernel_main`. -/
def kernelMountRoot (vda : Option BlockDevice) (image : List UInt8) : Option VfsState :=
  (kernelMountRootTinyfs vda ramdiskDevice image).bind vfsMountRoot

/-! ### The configuration -/

def kernelBootConfigMax : Nat := 128

/-- A newline, a carriage return, a blank or a tab. -/
def kernelTrimmed (ch : UInt8) : Bool := ch = 0x0a ∨ ch = 0x0d ∨ ch = 0x20 ∨ ch = 0x09

/-- `kernel_trim_text`. -/
def kernelTrimText (text : List UInt8) : List UInt8 := text.rdropWhile kernelTrimmed

/-- The string in the buffer; `none` is the return value -1. -/
def kernelReadBootText (vfs : VfsState) (path : List UInt8) (bufferSize : Nat) :
    Option (List UInt8) :=
  if bufferSize < 2 then none
  else
    match vfsReadFile vfs path (bufferSize - 1) with
    | none => none
    | some [] => none
    | some (byte :: bytes) => some (kernelTrimText (CString.scan (byte :: bytes)))

/-- `kernel_print_boot_config`. -/
def kernelPrintBootConfig (vfs : VfsState) : List (Option (List UInt8)) :=
  let text := fun path => (kernelReadBootText vfs (ascii path) kernelBootConfigMax).getD []
  let hostname := if text "/etc/hostname" = [] then ascii "duck-os" else text "/etc/hostname"
  [kprintf (ascii "hostname: %s\n") [.string (some hostname)]]
    ++ (if text "/etc/motd" = [] then []
      else [kprintf (ascii "motd: %s\n") [.string (some (text "/etc/motd"))]])
    ++ (if text "/etc/theme" = [] then []
      else [kprintf (ascii "[INFO] theme: %s\n") [.string (some (text "/etc/theme"))]])

end DuckOs

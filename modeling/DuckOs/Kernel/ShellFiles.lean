import DuckOs.Fs.LogfsRun
import DuckOs.Fs.VfsList
import DuckOs.Kernel.Shell

/-!
# Shell commands for files

The commands of `src/kernel/shell_core.c` that print files, directories and blocks. What a command prints is the
list of the characters that it gives to `console_putc`, through `kprintf` or by itself; `none` is a `kprintf`
that would write behind its buffer.
-/

namespace DuckOs

def shellFileBufferMax : Nat := 128

def shellHexdumpBytesPerLine : Nat := 16

/-- `shell_print_path_error`. -/
def shellPrintPathError (action path : List UInt8) : Option (List UInt8) :=
  if path = [] then kprintf (ascii "%s failed\n") [.string (some action)]
  else kprintf (ascii "%s failed: %s\n") [.string (some action), .string (some path)]

/-! ### Dumps -/

/-- `shell_print_hex_byte`. -/
def shellPrintHexByte (value : UInt8) : List UInt8 :=
  [(ascii "0123456789abcdef").getD ((value >>> 4) &&& 0x0f).toNat 0,
    (ascii "0123456789abcdef").getD (value &&& 0x0f).toNat 0]

def shellDumpGlyph (ch : UInt8) : UInt8 := if 32 ≤ ch ∧ ch ≤ 126 then ch else 0x2e

/-- `shell_dump_hex_line`. The offset is cast to `unsigned int`. -/
def shellDumpHexLine (offset : Nat) (buffer : List UInt8) : Option (List UInt8) :=
  (kprintf (ascii "%x:") [.int (BitVec.ofNat 32 offset)]).map fun start =>
    start ++ buffer.flatMap (fun byte => 0x20 :: shellPrintHexByte byte)
      ++ (List.replicate (shellHexdumpBytesPerLine - buffer.length) (ascii "   ")).flatten
      ++ ascii "  |" ++ buffer.map shellDumpGlyph ++ ascii "|\n"

/-- The loop of `shell_hexdump_file` over the lines of a buffer, and that of `shell_block_read`. -/
def shellDumpLines (offset : Nat) (buffer : List UInt8) :
    (fuel lineOffset : Nat) → Option (List UInt8)
  | 0, _ => some []
  | fuel + 1, lineOffset =>
      if lineOffset < buffer.length then
        let count := min (buffer.length - lineOffset) shellHexdumpBytesPerLine
        match shellDumpHexLine (offset + lineOffset) ((buffer.drop lineOffset).take count) with
        | none => none
        | some line =>
            (shellDumpLines offset buffer fuel (lineOffset + shellHexdumpBytesPerLine)).map
              fun rest => line ++ rest
      else some []

/-- The rest of `shell_block_read` behind its call of `read_blocks`. -/
def shellBlockDump (device : NamedDevice) (blockNumber : Nat) : Option (List UInt8) :=
  match device.device.readBlocks blockNumber 1 with
  | none =>
      kprintf (ascii "blkread failed: %s block %u\n")
        [.string (some device.name), .int (BitVec.ofNat 32 blockNumber)]
  | some buffer => shellDumpLines 0 buffer device.device.blockSize 0

/-! ### The root file system -/

/-- `shell_list_entry`. -/
def shellListEntry (entry : VfsFileInfo) : Option (List UInt8) :=
  if entry.flags % 2 = 1 then kprintf (ascii "%s/\n") [.string (some entry.name)]
  else kprintf (ascii "%s\n") [.string (some entry.name)]

/-- What is printed one after another. -/
def shellPrintAll : List (Option (List UInt8)) → Option (List UInt8)
  | [] => some []
  | none :: _ => none
  | some text :: rest => (shellPrintAll rest).map fun more => text ++ more

/-- `shell_list_files`. The callback never stops the list. -/
def shellListFiles (vfs : VfsState) (stale : Nat → ByteStore.Store) (path : List UInt8) :
    Option (List UInt8) :=
  let listPath := if path = [] then ascii "/" else path
  match vfsStat vfs listPath with
  | none => shellPrintPathError (ascii "ls") listPath
  | some info =>
      if info.flags % 2 = 0 then kprintf (ascii "%s\n") [.string (some info.name)]
      else
        match vfsListEntries vfs stale (fun _ => false) listPath with
        | none => shellPrintPathError (ascii "ls") listPath
        | some entries => shellPrintAll (entries.map shellListEntry)

/-- `shell_print_stat`. -/
def shellPrintStat (vfs : VfsState) (path : List UInt8) : Option (List UInt8) :=
  if path = [] then kprintf (ascii "usage: stat <path>\n") []
  else
    match vfsStat vfs path with
    | none => shellPrintPathError (ascii "stat") path
    | some info =>
        let type := if info.flags % 2 = 1 then ascii "directory" else ascii "file"
        shellPrintAll [
          kprintf (ascii "path: %s\n") [.string (some info.name)],
          kprintf (ascii "type: %s\n") [.string (some type)],
          kprintf (ascii "size: %u bytes\n") [.int (BitVec.ofNat 32 info.size)],
          kprintf (ascii "flags: 0x%x\n") [.int (BitVec.ofNat 32 info.flags)]]

/-- The loop of `shell_cat_file`: what is printed, whether a read fails, and `last_char`, which is there when
`any_read` is. Every round but the last moves the file forward. -/
def shellCatLoop (vfs : VfsState) : (fuel : Nat) → File → (lastChar : Option UInt8) →
    List UInt8 × Bool × Option UInt8
  | 0, _, lastChar => ([], false, lastChar)
  | fuel + 1, file, lastChar =>
      match fileRead vfs file shellFileBufferMax with
      | none => ([], true, lastChar)
      | some ([], _) => ([], false, lastChar)
      | some (byte :: bytes, file) =>
          let rest := shellCatLoop vfs fuel file (byte :: bytes).getLast?
          (byte :: bytes ++ rest.1, rest.2)

/-- `shell_cat_file`, with the table of open files that it leaves. -/
def shellCatFile (vfs : VfsState) (table : FileTable) (name : List UInt8) :
    Option (List UInt8) × FileTable :=
  if name = [] then (kprintf (ascii "usage: cat <path>\n") [], table)
  else
    match fileOpen vfs table name with
    | none => (shellPrintPathError (ascii "cat") name, table)
    | some (handle, file) =>
        let table := Function.update table handle (some file)
        let read := shellCatLoop vfs (file.size + 1) file none
        let table := fileClose table handle
        if read.2.1 then
          ((shellPrintPathError (ascii "cat") name).map fun error => read.1 ++ error, table)
        else if read.2.2 = some 0x0a then (some read.1, table)
        else (some (read.1 ++ [0x0a]), table)

/-- The loop of `shell_hexdump_file`, and whether a read fails. `size` is `info->size`; the structure that
`info` points to is filled again by every read, with the same file. -/
def shellHexdumpLoop (vfs : VfsState) (size : Nat) : (fuel : Nat) → File → (offset : Nat) →
    Option (List UInt8 × Bool)
  | 0, _, _ => some ([], false)
  | fuel + 1, file, offset =>
      if size ≤ offset then some ([], false)
      else
        match fileRead vfs file shellFileBufferMax with
        | none => some ([], true)
        | some ([], _) => some ([], false)
        | some (byte :: bytes, file) =>
            let buffer := byte :: bytes
            match shellDumpLines offset buffer buffer.length 0 with
            | none => none
            | some text =>
                (shellHexdumpLoop vfs size fuel file (offset + buffer.length)).map
                  fun rest => (text ++ rest.1, rest.2)

/-- `shell_hexdump_file`, with the table of open files that it leaves. -/
def shellHexdumpFile (vfs : VfsState) (table : FileTable) (path : List UInt8) :
    Option (List UInt8) × FileTable :=
  if path = [] then (kprintf (ascii "usage: hexdump <path>\n") [], table)
  else
    match vfsStat vfs path with
    | none => (shellPrintPathError (ascii "hexdump") path, table)
    | some info =>
        if info.flags % 2 = 1 then (shellPrintPathError (ascii "hexdump") path, table)
        else
          match fileOpen vfs table path with
          | none => (shellPrintPathError (ascii "hexdump") path, table)
          | some (handle, file) =>
              let table := Function.update table handle (some file)
              match shellHexdumpLoop vfs info.size (info.size + 1) file 0 with
              | none => (none, table)
              | some (text, failed) =>
                  let table := fileClose table handle
                  if failed then
                    ((shellPrintPathError (ascii "hexdump") path).map fun error => text ++ error, table)
                  else (some text, table)

/-! ### The log -/

/-- The string that begins at a pointer. Lines are far shorter than 4 GiB. -/
def cstring (bytes : List UInt8) : CString where
  bytes := CString.scan (bytes.take (2 ^ 32 - 1))
  nulFree := CString.zero_notMem_scan _
  representable :=
    calc
      (CString.scan (bytes.take (2 ^ 32 - 1))).length ≤ (bytes.take (2 ^ 32 - 1)).length :=
        (List.takeWhile_sublist _).length_le
      _ ≤ 2 ^ 32 - 1 := List.length_take_le _ _
      _ < 2 ^ 32 := by decide

/-- A round of the loop in `shell_log_list`. -/
def shellLogListLine : (file : Option LogfsFileInfo) → Option (List UInt8)
  | none => some []
  | some file => kprintf (ascii "%s\n") [.string (some file.name)]

/-- `shell_log_list`. -/
def shellLogList (state : LogfsState) : Option (List UInt8) :=
  if !state.ready then kprintf (ascii "logfs not mounted\n") []
  else
    shellPrintAll ((List.range (logfsFileCount state)).map fun index =>
      shellLogListLine (logfsGetFile state index))

/-- The loop of `shell_log_cat`, with `last_char`, and whether a read fails. -/
def shellLogCatLoop (state : LogfsState) (name : CString) (size : Nat) :
    (fuel offset : Nat) → (lastChar : UInt8) → List UInt8 × Bool × UInt8
  | 0, _, lastChar => ([], false, lastChar)
  | fuel + 1, offset, lastChar =>
      if size ≤ offset then ([], false, lastChar)
      else
        let read := logfsReadFilePart state name offset shellFileBufferMax
        if read.1 ≤ 0 then ([], true, lastChar)
        else
          let buffer := read.2.take read.1.toNat
          let rest := shellLogCatLoop state name size fuel ((offset + read.1.toNat) % 2 ^ 32)
            (buffer.getLastD 0)
          (buffer ++ rest.1, rest.2)

/-- `shell_log_cat`. -/
def shellLogCat (state : LogfsState) (name : List UInt8) : Option (List UInt8) :=
  if name = [] then kprintf (ascii "usage: logcat <file>\n") []
  else
    match logfsStat state (cstring name) with
    | none => kprintf (ascii "file not found: %s\n") [.string (some name)]
    | some file =>
        let read := shellLogCatLoop state (cstring name) file.size (file.size + 1) 0 0
        if read.2.1 then
          (kprintf (ascii "logcat failed: %s\n") [.string (some name)]).map fun error => read.1 ++ error
        else if file.size = 0 ∨ read.2.2 ≠ 0x0a then some (read.1 ++ [0x0a])
        else some read.1

/-- `shell_log_create`. -/
def shellLogCreate (state : LogfsState) (name : List UInt8) : Option (List UInt8) × LogfsState :=
  if name = [] then (kprintf (ascii "usage: logcreate <file>\n") [], state)
  else
    let created := logfsCreate state (cstring name)
    if created.1 ≠ 0 then
      (kprintf (ascii "logcreate failed: %s\n") [.string (some name)], created.2)
    else (some [], created.2)

/-- `shell_log_append` with the call that `shellLogAppend` leaves. -/
def shellLogAppendRun (state : LogfsState) (args : List UInt8) : Option (List UInt8) × LogfsState :=
  let result := shellLogAppend args
  match result.call with
  | some (.logfsAppend name text) =>
      let appended := logfsAppend state (cstring name) text
      if appended.1 ≠ 0 then
        (kprintf (ascii "logappend failed: %s\n") [.string (some name)], appended.2)
      else (some [], appended.2)
  | _ => (result.printed, state)

inductive ShellLogCommand where
  | logls
  | logcat (name : List UInt8)
  | logcreate (name : List UInt8)
  | logappend (args : List UInt8)

/-- What a command prints and the state that it leaves. -/
def shellLogCommand (state : LogfsState) : ShellLogCommand → Option (List UInt8) × LogfsState
  | .logls => (shellLogList state, state)
  | .logcat name => (shellLogCat state name, state)
  | .logcreate name => shellLogCreate state name
  | .logappend args => shellLogAppendRun state args

inductive ShellLogEvent where
  | command (command : ShellLogCommand)
  /-- The kernel starts again, and `kernel_mount_logfs` mounts the device. -/
  | restart

end DuckOs

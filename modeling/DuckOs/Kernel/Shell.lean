import DuckOs.Desktop.Window
import DuckOs.Fs.Logfs
import DuckOs.Kernel.Klog

/-!
# Shell commands with arguments

The commands of `src/kernel/shell_core.c` that split or parse their arguments. A command prints a message, or
it makes a call, which is left as a result. Strings are the bytes before the terminator.
-/

namespace DuckOs

/-- A `block_device_t` with its name. -/
structure NamedDevice where
  name : List UInt8
  device : BlockDevice

/-- What the commands find: the registered devices, and whether there is a framebuffer and a GPU. -/
structure ShellEnv where
  blockDevices : List NamedDevice
  graphics : Bool

/-- The call that a command is for. `readBlocks` is for a single block. -/
inductive ShellCall where
  | logfsAppend (name text : List UInt8)
  | readBlocks (device : NamedDevice) (startBlock : Nat)
  | gfxCursorMove (x y : Nat)
  | appFileBrowserOpen (selectedIndex : Nat)

/-- What is printed before the call. -/
structure ShellResult where
  printed : Option (List UInt8)
  call : Option ShellCall

def shellBlockDumpBytes : Nat := 512

def blockFindDevice (devices : List NamedDevice) (name : List UInt8) : Option NamedDevice :=
  devices.find? fun device => device.name = name

/-! ### Tokens and numbers -/

def shellSpace : UInt8 := 0x20

def shellSkipSpaces (text : List UInt8) : List UInt8 := text.dropWhile (· = shellSpace)

/-- The loop of `shell_read_token`: what the buffer holds of the token, and the text behind it. -/
def shellTokenLoop (bufferSize : Nat) : (text : List UInt8) → (length : Nat) → (buffer : List UInt8) →
    List UInt8 × List UInt8
  | [], _, buffer => (buffer, [])
  | letter :: rest, length, buffer =>
      if letter = shellSpace then (buffer, letter :: rest)
      else
        shellTokenLoop bufferSize rest (length + 1)
          (if length + 1 < bufferSize then buffer ++ [letter] else buffer)

def shellReadToken (text : List UInt8) (bufferSize : Nat) : List UInt8 × List UInt8 :=
  shellTokenLoop bufferSize (shellSkipSpaces text) 0 []

def shellParseLoop : (text : List UInt8) → (value : Nat) → Option Nat
  | [], value => some value
  | letter :: rest, value =>
      if letter < 0x30 ∨ 0x39 < letter then none
      else shellParseLoop rest ((value * 10 + (letter.toNat - 0x30)) % 2 ^ 64)

/-- `none` is the return value -1. -/
def shellParseUnsignedLong (text : List UInt8) : Option Nat :=
  if text = [] then none else shellParseLoop text 0

/-! ### Commands -/

def shellMessage (text : String) (args : List KprintfArg) : ShellResult :=
  ⟨kprintf (ascii text) args, none⟩

def shellLogAppend (args : List UInt8) : ShellResult :=
  let fileName := shellReadToken args logfsNameMax
  let text := shellSkipSpaces fileName.2
  if fileName.1 = [] ∨ text = [] then shellMessage "usage: logappend <file> <text>\n" []
  else ⟨some [], some (.logfsAppend fileName.1 text)⟩

def shellBlockRead (env : ShellEnv) (args : List UInt8) : ShellResult :=
  let deviceName := shellReadToken args 16
  let blockText := shellReadToken deviceName.2 16
  if deviceName.1 = [] ∨ blockText.1 = [] then shellMessage "usage: blkread <device> <block>\n" []
  else
    match blockFindDevice env.blockDevices deviceName.1 with
    | none => shellMessage "device not found: %s\n" [.string (some deviceName.1)]
    | some device =>
        match shellParseUnsignedLong blockText.1 with
        | none => shellMessage "invalid block: %s\n" [.string (some blockText.1)]
        | some blockNumber =>
            if shellBlockDumpBytes < device.device.blockSize then
              shellMessage "block too large: %u\n" [.int (BitVec.ofNat 32 device.device.blockSize)]
            else ⟨some [], some (.readBlocks device blockNumber)⟩

/-- The coordinates are cast to `unsigned int`. -/
def shellMoveCursor (env : ShellEnv) (args : List UInt8) : ShellResult :=
  let xText := shellReadToken args 16
  let yText := shellReadToken xText.2 16
  if xText.1 = [] ∨ yText.1 = [] then shellMessage "usage: cursor <x> <y>\n" []
  else
    match shellParseUnsignedLong xText.1, shellParseUnsignedLong yText.1 with
    | some x, some y =>
        if !env.graphics then shellMessage "graphics framebuffer unavailable\n" []
        else
          { shellMessage "cursor: %u %u\n" [.int (BitVec.ofNat 32 x), .int (BitVec.ofNat 32 y)] with
            call := some (.gfxCursorMove (x % 2 ^ 32) (y % 2 ^ 32)) }
    | _, _ => shellMessage "invalid cursor coordinates\n" []

/-- The index is cast to `unsigned int`, and it is 0 without an argument. -/
def shellRunGuiFiles (env : ShellEnv) (args : List UInt8) : ShellResult :=
  match (if args = [] then some 0 else shellParseUnsignedLong args) with
  | none => shellMessage "usage: gui files [index]\n" []
  | some selectedIndex =>
      if !env.graphics then shellMessage "graphics framebuffer unavailable\n" []
      else ⟨some [], some (.appFileBrowserOpen (selectedIndex % 2 ^ 32))⟩

inductive ShellCommand where
  | logappend
  | blkread
  | cursor
  | guiFiles

def shellRun (env : ShellEnv) (args : List UInt8) : ShellCommand → ShellResult
  | .logappend => shellLogAppend args
  | .blkread => shellBlockRead env args
  | .cursor => shellMoveCursor env args
  | .guiFiles => shellRunGuiFiles env args

end DuckOs

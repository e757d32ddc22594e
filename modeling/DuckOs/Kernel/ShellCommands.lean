import DuckOs.Kernel.Shell

/-!
# Which command a line is

`shell_run_command` of `src/kernel/shell_core.c`: the tests of a line one after another, with the function that each
of them calls. Strings are the bytes before the terminator.
-/

namespace DuckOs

/-- The functions that `shell_run_command` calls. -/
inductive ShellFunction where
  | printHelp
  | printVersion
  | printPwd
  | listFiles
  | printMem
  | printUptime
  | printTicks
  | printBlockDevices
  | blockRead
  | printFsinfo
  | printGpuinfo
  | clearGraphics
  | runGpuDemo
  | moveCursor
  | runGuiDemo
  | listApps
  | runDesktop
  | runGuiFiles
  | runGuiView
  | setConsoleMode
  | setInputMode
  | runGfxTest
  | logList
  | logCat
  | logCreate
  | logAppend
  | printLogfsinfo
  | printVirtio
  | printPci
  | printRng
  | panic
  | printStat
  | hexdumpFile
  | openDesktopFile
  | catFile
  | runElfFile
  | runUserFile
  deriving DecidableEq

def shellStartsWith : (text start : List UInt8) → Bool
  | _, [] => true
  | [], _ :: _ => false
  | letter :: text, first :: start => letter = first ∧ shellStartsWith text start

/-- The letter behind the command is the terminator or a blank. -/
def shellCommandMatches (line command : List UInt8) : Bool :=
  shellStartsWith line command
    ∧ ((line.drop command.length).head? = none ∨ (line.drop command.length).head? = some shellSpace)

/-- A test of `shell_run_command`, by `strcmp` or, where the command has arguments, by
`shell_command_matches`. -/
structure ShellTest where
  command : String
  hasArgs : Bool
  function : ShellFunction
  deriving DecidableEq

def ShellTest.matches (test : ShellTest) (line : List UInt8) : Bool :=
  if test.hasArgs then shellCommandMatches line (ascii test.command) else line = ascii test.command

/-- What is behind the command. -/
def ShellTest.args (test : ShellTest) (line : List UInt8) : List UInt8 :=
  if test.hasArgs then shellSkipSpaces (line.drop (ascii test.command).length) else []

/-- The tests behind the first one. One of them is for `ginfo` and `gpuinfo`. -/
def shellTests : List ShellTest := [
  ⟨"help", false, .printHelp⟩,
  ⟨"version", false, .printVersion⟩,
  ⟨"pwd", false, .printPwd⟩,
  ⟨"ls", true, .listFiles⟩,
  ⟨"mem", false, .printMem⟩,
  ⟨"uptime", false, .printUptime⟩,
  ⟨"ticks", false, .printTicks⟩,
  ⟨"blk", false, .printBlockDevices⟩,
  ⟨"blkread", true, .blockRead⟩,
  ⟨"fsinfo", false, .printFsinfo⟩,
  ⟨"ginfo", false, .printGpuinfo⟩,
  ⟨"gpuinfo", false, .printGpuinfo⟩,
  ⟨"gclear", false, .clearGraphics⟩,
  ⟨"gpudemo", false, .runGpuDemo⟩,
  ⟨"cursor", true, .moveCursor⟩,
  ⟨"gui demo", false, .runGuiDemo⟩,
  ⟨"apps", false, .listApps⟩,
  ⟨"desktop", true, .runDesktop⟩,
  ⟨"gui files", true, .runGuiFiles⟩,
  ⟨"gui view", true, .runGuiView⟩,
  ⟨"console", true, .setConsoleMode⟩,
  ⟨"input", true, .setInputMode⟩,
  ⟨"gtest", false, .runGfxTest⟩,
  ⟨"logls", false, .logList⟩,
  ⟨"logcat", true, .logCat⟩,
  ⟨"logcreate", true, .logCreate⟩,
  ⟨"logappend", true, .logAppend⟩,
  ⟨"logfsinfo", false, .printLogfsinfo⟩,
  ⟨"virtio", false, .printVirtio⟩,
  ⟨"pci", false, .printPci⟩,
  ⟨"rng", false, .printRng⟩,
  ⟨"panic", false, .panic⟩,
  ⟨"stat", true, .printStat⟩,
  ⟨"hexdump", true, .hexdumpFile⟩,
  ⟨"open", true, .openDesktopFile⟩,
  ⟨"cat", true, .catFile⟩,
  ⟨"runelf", true, .runElfFile⟩,
  ⟨"run", true, .runUserFile⟩]

/-- What a line is run as. `unknown` is the message for a command that is not there. -/
inductive ShellAction where
  | nothing
  | call (function : ShellFunction) (args : List UInt8)
  | unknown (line : List UInt8)
  deriving DecidableEq

def shellRunTests (tests : List ShellTest) (line : List UInt8) : ShellAction :=
  match tests.find? (·.matches line) with
  | some test => .call test.function (test.args line)
  | none => .unknown line

/-- `shell_run_command`. -/
def shellRunCommand (line : List UInt8) : ShellAction :=
  if line = [] then .nothing else shellRunTests shellTests line

end DuckOs

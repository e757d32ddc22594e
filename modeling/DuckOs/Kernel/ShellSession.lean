import DuckOs.Input.Queue
import DuckOs.Kernel.Console
import DuckOs.Kernel.ShellCommands
import DuckOs.Lib.CString

/-!
# Reading commands

`console_read_line` of `src/kernel/console.c` and the loop of `src/kernel/shell.c` around it. Events arrive while a
line is read, and the lines are executed.
-/

namespace DuckOs

def shellLineMax : Nat := 64

def shellPrompt : List UInt8 := ascii "duck-os@dev > "

/-- `buffer` and `length` of `console_read_line`. -/
structure LineReader where
  buffer : Nat → UInt8
  length : Nat

/-- What is printed for a character, whether it ends the line, and the reader behind it. -/
structure ReadChar where
  printed : List UInt8
  finished : Bool
  reader : LineReader

/-- A round of `console_read_line` behind `input_event_to_char`. -/
def consoleReadChar (maxLen : Nat) (reader : LineReader) (c : UInt8) : ReadChar :=
  if c = 0x0d ∨ c = 0x0a then
    ⟨[0x0a], true, { reader with buffer := Function.update reader.buffer reader.length 0 }⟩
  else if consoleIsBackspace c then
    if reader.length ≠ 0 then ⟨[0x08, 0x20, 0x08], false, { reader with length := reader.length - 1 }⟩
    else ⟨[], false, reader⟩
  else if reader.length + 1 < maxLen then
    ⟨[c], false, ⟨Function.update reader.buffer reader.length c, reader.length + 1⟩⟩
  else ⟨[], false, reader⟩

/-- What a command prints, and what it makes of the modifiers and modes of the input and of everything else. -/
structure ShellRan (σ : Type) where
  printed : List UInt8
  input : InputState
  world : σ

structure ShellSession (σ : Type) where
  queue : InputQueue
  input : InputState
  reader : LineReader
  world : σ

/-- A step of the loop, or what others do to the queue: an event that is polled, or one that a command takes. -/
inductive ShellStep where
  | queue (op : DropQueue.Op InputEvent)
  | read

/-- The character that is read, what is printed, and the line that is executed. -/
structure ShellOutput where
  character : Option UInt8
  printed : List UInt8
  executed : Option (List UInt8)
  deriving DecidableEq

def ShellOutput.none : ShellOutput := ⟨.none, [], .none⟩

section Session

variable {σ : Type} (execute : σ → InputState → ShellAction → ShellRan σ)

namespace ShellSession

/-- A line that has been read is executed; then comes the next prompt. -/
def runLine (session : ShellSession σ) : List UInt8 × List UInt8 × ShellSession σ :=
  let line := CString.scan ((List.range shellLineMax).map session.reader.buffer)
  let ran := execute session.world session.input (shellRunCommand line)
  (line, ran.printed ++ shellPrompt,
    { session with
      input := ran.input
      reader := { session.reader with length := 0 }
      world := ran.world })

/-- A character for `console_read_line`. -/
def readChar (session : ShellSession σ) (c : UInt8) : ShellOutput × ShellSession σ :=
  let read := consoleReadChar shellLineMax session.reader c
  if read.finished then
    let ran := runLine execute { session with reader := read.reader }
    (⟨some c, read.printed ++ ran.2.1, some ran.1⟩, ran.2.2)
  else (⟨some c, read.printed, none⟩, { session with reader := read.reader })

/-- A round of `console_read_line`. Without an event it polls again. -/
def read (session : ShellSession σ) : ShellOutput × ShellSession σ :=
  match inputPopEvent session.queue with
  | (none, queue) => (.none, { session with queue := queue })
  | (some event, queue) =>
      match inputEventToChar session.input event with
      | (none, input) => (.none, { session with queue := queue, input := input })
      | (some c, input) => readChar execute { session with queue := queue, input := input } c

def step (session : ShellSession σ) : ShellStep → ShellOutput × ShellSession σ
  | .queue op => (.none, { session with queue := (inputQueueStep session.queue op).2 })
  | .read => session.read execute

end ShellSession

end Session

end DuckOs

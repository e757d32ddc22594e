import Mathlib.Data.Nat.Notation

/-!
# Printing numbers

`src/kernel/klog.c`, and `block_print_unsigned` of `src/block/block_device.c`. What is printed is the list of
the characters that go to the console.
-/

namespace DuckOs

/-- `2 * sizeof(unsigned long)`. -/
def digitBufferSize : Nat := 16

/-- The first loop of `kput_unsigned`, with the character of a digit. A write behind the buffer is `none`.
Every round makes the value smaller. -/
def digitLoop (digitChar : Nat → UInt8) (base : Nat) :
    (fuel value : Nat) → (buffer : List UInt8) → (length : Nat) → Option (List UInt8 × Nat)
  | 0, value, buffer, length => if value = 0 then some (buffer, length) else none
  | fuel + 1, value, buffer, length =>
      if value = 0 then some (buffer, length)
      else if length < buffer.length then
        digitLoop digitChar base fuel (value / base) (buffer.set length (digitChar (value % base)))
          (length + 1)
      else none

/-- The second loop. -/
def emitLoop (buffer : List UInt8) : (length : Nat) → List UInt8
  | 0 => []
  | length + 1 => buffer.getD length 0 :: emitLoop buffer length

/-- What the buffer holds at first is not read. -/
def putDigits (digitChar : Nat → UInt8) (value base : Nat) : Option (List UInt8) :=
  if value = 0 then some [0x30]
  else
    (digitLoop digitChar base value value (List.replicate digitBufferSize 0) 0).map fun result =>
      emitLoop result.1 result.2

def blockPrintUnsigned (value : Nat) : Option (List UInt8) :=
  putDigits (fun digit => UInt8.ofNat (0x30 + digit)) value 10

def kputUnsigned (value base : Nat) : Option (List UInt8) :=
  putDigits (fun digit =>
    if digit < 10 then UInt8.ofNat (0x30 + digit) else UInt8.ofNat (0x61 + (digit - 10))) value base

def kputSigned (value : BitVec 32) : Option (List UInt8) :=
  if value.slt 0 then
    (kputUnsigned ((-(value + 1)).signExtend 64 + 1).toNat 10).map fun text => 0x2d :: text
  else kputUnsigned (value.signExtend 64).toNat 10

/-! ### Formats -/

/-- What `va_arg` finds; `int` stands for `unsigned int` as well, and `none` for a null pointer. -/
inductive KprintfArg where
  | int (value : BitVec 32)
  | string (text : Option (List UInt8))
  | pointer (value : BitVec 64)

/-- The `switch` of `kprintf`, with the arguments that are left. An argument that is missing or of another
type is `none`. -/
def kprintfConvert (conversion : UInt8) (args : List KprintfArg) :
    Option (List UInt8 × List KprintfArg) :=
  if conversion = 0x73 then
    match args with
    | .string text :: args => some (text.getD [0x28, 0x6e, 0x75, 0x6c, 0x6c, 0x29], args)
    | _ => none
  else if conversion = 0x63 then
    match args with
    | .int value :: args => some ([UInt8.ofNat value.toNat], args)
    | _ => none
  else if conversion = 0x64 then
    match args with
    | .int value :: args => (kputSigned value).map (·, args)
    | _ => none
  else if conversion = 0x75 then
    match args with
    | .int value :: args => (kputUnsigned value.toNat 10).map (·, args)
    | _ => none
  else if conversion = 0x78 then
    match args with
    | .int value :: args => (kputUnsigned value.toNat 16).map (·, args)
    | _ => none
  else if conversion = 0x70 then
    match args with
    | .pointer value :: args =>
        (kputUnsigned value.toNat 16).map fun text => (0x30 :: 0x78 :: text, args)
    | _ => none
  else if conversion = 0x25 then some ([0x25], args)
  else some ([0x25, conversion], args)

def kprintf : (format : List UInt8) → List KprintfArg → Option (List UInt8)
  | [], _ => some []
  | letter :: rest, args =>
      if letter ≠ 0x25 then (kprintf rest args).map fun text => letter :: text
      else
        match rest with
        | [] => some [0x25]
        | conversion :: rest =>
            match kprintfConvert conversion args with
            | none => none
            | some (text, args) => (kprintf rest args).map fun more => text ++ more

/-! ### Numbers -/

/-- A block count, and a number for each of the conversions of `kprintf`. -/
inductive NumberPrint where
  | blockCount (count : BitVec 64)
  | d (value : BitVec 32)
  | u (value : BitVec 32)
  | x (value : BitVec 32)
  | p (value : BitVec 64)

def NumberPrint.text : NumberPrint → Option (List UInt8)
  | .blockCount count => blockPrintUnsigned count.toNat
  | .d value => kprintf [0x25, 0x64] [.int value]
  | .u value => kprintf [0x25, 0x75] [.int value]
  | .x value => kprintf [0x25, 0x78] [.int value]
  | .p value => kprintf [0x25, 0x70] [.pointer value]

end DuckOs

import DuckOs.Fs.LogfsRun

/-!
# The append-only store LogFS is for

Files in the order of their creation, each a name and a byte string, and the number of log bytes
used so far. Nothing here mentions segments, ids or blocks: `AppendStore.step` says what each call a
client makes should answer.
-/

namespace DuckOs

structure StoredFile where
  name : List UInt8
  bytes : List UInt8
  deriving DecidableEq

namespace StoredFile

def info (file : StoredFile) : LogfsFileInfo := ⟨file.name, file.bytes.length⟩

/-- The file of the given name. -/
def lookup (files : List StoredFile) (name : List UInt8) : Option StoredFile :=
  files.find? fun file => file.name == name

/-- A part read: the slice of the file, clamped at its end. -/
def readPart (files : List StoredFile) (name : List UInt8) (offset size : Nat) :
    Int × List UInt8 :=
  match lookup files name with
  | none => (-1, [])
  | some file =>
      if file.bytes.length < offset then (-1, [])
      else
        let part := (file.bytes.drop offset).take size
        (part.length, part)

def read (files : List StoredFile) (name : List UInt8) (maxSize : Nat) : Int × List UInt8 :=
  match lookup files name with
  | none => (-1, [])
  | some file =>
      if maxSize < file.bytes.length then (-1, []) else (file.bytes.length, file.bytes)

end StoredFile

structure AppendStore where
  files : List StoredFile
  used : Nat
  deriving DecidableEq

namespace AppendStore

def empty : AppendStore := ⟨[], 0⟩

/-- A header of 32 bytes and the payload, rounded up to 8. -/
def recordLength (payload : Nat) : Nat := (32 + payload + 7) / 8 * 8

/-- The log of the 128 blocks of 512 bytes begins behind the first block. -/
def Fits (store : AppendStore) (payload : Nat) : Prop :=
  512 + store.used + recordLength payload ≤ 128 * 512

instance (store : AppendStore) (payload : Nat) : Decidable (store.Fits payload) :=
  inferInstanceAs (Decidable (_ ≤ _))

/-- Non-empty, below 32 bytes, without `/`. -/
def ValidName (name : List UInt8) : Prop := name ≠ [] ∧ name.length < 32 ∧ 0x2f ∉ name

instance (name : List UInt8) : Decidable (ValidName name) :=
  inferInstanceAs (Decidable (_ ∧ _ ∧ _))

def create (store : AppendStore) (name : List UInt8) : Int × AppendStore :=
  if ValidName name ∧ StoredFile.lookup store.files name = none ∧ store.files.length < 16
      ∧ store.Fits (name.length + 1) then
    (0, ⟨store.files ++ [⟨name, []⟩], store.used + recordLength (name.length + 1)⟩)
  else (-1, store)

def append (store : AppendStore) (name data : List UInt8) : Int × AppendStore :=
  if StoredFile.lookup store.files name ≠ none ∧ data ≠ [] ∧ data.length ≤ 480
      ∧ store.Fits data.length then
    (0, ⟨store.files.map fun file =>
          if file.name = name then { file with bytes := file.bytes ++ data } else file,
        store.used + recordLength data.length⟩)
  else (-1, store)

end AppendStore

/-! ### Answers -/

/-- What the call should answer. -/
def AppendStore.step (store : AppendStore) : LogfsOp → LogfsReply × AppendStore
  | .create name => (.status (store.create name.bytes).1, (store.create name.bytes).2)
  | .append name data =>
      (.status (store.append name.bytes data).1, (store.append name.bytes data).2)
  | .stat name => (.info ((StoredFile.lookup store.files name.bytes).map StoredFile.info), store)
  | .getFile index => (.info (store.files[index]?.map StoredFile.info), store)
  | .fileCount => (.count store.files.length, store)
  | .readFile name maxSize =>
      (.bytes (StoredFile.read store.files name.bytes maxSize).1
        (StoredFile.read store.files name.bytes maxSize).2, store)
  | .readFilePart name offset size =>
      (.bytes (StoredFile.readPart store.files name.bytes offset size).1
        (StoredFile.readPart store.files name.bytes offset size).2, store)
  | .mount => (.status 0, store)

end DuckOs

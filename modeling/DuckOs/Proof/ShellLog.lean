import DuckOs.Proof.LogfsRefinement
import DuckOs.Proof.Shell
import DuckOs.Proof.ShellFiles

/-!
# The log from the shell

The commands for the log print what they print over files that are lists of bytes, in sessions with any number
of commands and across starts of the kernel.
-/

namespace DuckOs

/-! ### What the commands are for -/

/-- A command over the store. The file name of `logappend` is shortened to the buffer of the command. -/
def AppendStore.shellCommand (store : AppendStore) :
    ShellLogCommand → Option (List UInt8) × AppendStore
  | .logls => (some (store.files.flatMap fun file => file.name ++ [0x0a]), store)
  | .logcat name =>
      if name = [] then (some (ascii "usage: logcat <file>\n"), store)
      else
        match StoredFile.lookup store.files name with
        | none => (some (ascii "file not found: " ++ name ++ [0x0a]), store)
        | some file => (some (shellCatText file.bytes), store)
  | .logcreate name =>
      if name = [] then (some (ascii "usage: logcreate <file>\n"), store)
      else
        let created := store.create name
        if created.1 = 0 then (some [], created.2)
        else (some (ascii "logcreate failed: " ++ name ++ [0x0a]), created.2)
  | .logappend args =>
      let fileName := shellReadToken args logfsNameMax
      let text := shellSkipSpaces fileName.2
      if fileName.1 = [] ∨ text = [] then (some (ascii "usage: logappend <file> <text>\n"), store)
      else
        let appended := store.append fileName.1 text
        if appended.1 = 0 then (some [], appended.2)
        else (some (ascii "logappend failed: " ++ fileName.1 ++ [0x0a]), appended.2)

namespace ShellLogCommand

/-- What is typed is a string that fits in memory. -/
def Typed : ShellLogCommand → Prop
  | .logls => True
  | .logcat text => 0 ∉ text ∧ text.length < 2 ^ 32
  | .logcreate text => 0 ∉ text ∧ text.length < 2 ^ 32
  | .logappend text => 0 ∉ text ∧ text.length < 2 ^ 32

instance : DecidablePred Typed := fun command => by
  cases command <;> unfold Typed <;> infer_instance

/-- The calls of a command that change the log. -/
def ops : ShellLogCommand → List LogfsOp
  | .logls => []
  | .logcat _ => []
  | .logcreate name => if name = [] then [] else [.create (cstring name)]
  | .logappend args =>
      let fileName := shellReadToken args logfsNameMax
      let text := shellSkipSpaces fileName.2
      if fileName.1 = [] ∨ text = [] then [] else [.append (cstring fileName.1) text]

end ShellLogCommand

namespace ShellLogEvent

def Typed : ShellLogEvent → Prop
  | .command entered => entered.Typed
  | .restart => True

instance : DecidablePred Typed := fun event => by
  cases event <;> unfold Typed <;> infer_instance

def ops : ShellLogEvent → List LogfsOp
  | .command entered => entered.ops
  | .restart => [.mount]

def isAppend : ShellLogEvent → Bool
  | .command (.logappend _) => true
  | _ => false

end ShellLogEvent

/-! ### Sizes -/

/-- The log holds the bytes of every file. -/
structure AppendStore.Bounded (store : AppendStore) : Prop where
  used_le : store.used ≤ 127 * 512
  bytes_le : ∀ file ∈ store.files, file.bytes.length ≤ store.used

namespace AppendStore.Bounded

variable {store : AppendStore}

theorem empty : AppendStore.empty.Bounded :=
  ⟨Nat.zero_le _, fun _ hfile => absurd hfile List.not_mem_nil⟩

theorem create (hbounded : store.Bounded) (name : List UInt8) : (store.create name).2.Bounded := by
  unfold AppendStore.create
  split
  · rename_i haccept
    have hfits := haccept.2.2.2
    unfold Fits at hfits
    refine ⟨by dsimp only; omega, fun file hfile => ?_⟩
    rcases List.mem_append.mp hfile with hold | hnew
    · have hle := hbounded.bytes_le file hold
      dsimp only
      omega
    · rw [List.mem_singleton.mp hnew]
      exact Nat.zero_le _
  · exact hbounded

theorem append (hbounded : store.Bounded) (name data : List UInt8) :
    (store.append name data).2.Bounded := by
  unfold AppendStore.append
  split
  · rename_i haccept
    have hfits := haccept.2.2.2
    have hrecord : data.length ≤ recordLength data.length := by
      unfold recordLength
      omega
    unfold Fits at hfits
    refine ⟨by dsimp only; omega, fun file hfile => ?_⟩
    obtain ⟨before, hbefore, rfl⟩ := List.mem_map.mp hfile
    have hle := hbounded.bytes_le before hbefore
    dsimp only
    split
    · rw [List.length_append]
      omega
    · omega
  · exact hbounded

theorem lookup_lt (hbounded : store.Bounded) {name : List UInt8} {file : StoredFile}
    (hlookup : StoredFile.lookup store.files name = some file) : file.bytes.length < 2 ^ 31 := by
  have hle := hbounded.bytes_le file (List.mem_of_find?_eq_some hlookup)
  have hused := hbounded.used_le
  omega

end AppendStore.Bounded

/-! ### Strings -/

section Strings

variable {text : List UInt8}

theorem bytes_cstring (hnul : 0 ∉ text) (hlength : text.length < 2 ^ 32) :
    (cstring text).bytes = text := by
  have hall : ∀ byte ∈ text, decide (byte ≠ 0) = true := by
    intro byte hmem
    rw [decide_eq_true_eq]
    rintro rfl
    exact hnul hmem
  change CString.scan (text.take (2 ^ 32 - 1)) = text
  rw [List.take_of_length_le (by omega), CString.scan, List.takeWhile_eq_self_iff]
  exact hall

theorem shellReadToken_subset (text : List UInt8) (bufferSize : Nat) :
    (shellReadToken text bufferSize).1.Sublist text := by
  rw [shellReadToken, shellTokenLoop_eq, List.nil_append]
  calc
    ((shellSkipSpaces text).takeWhile (· ≠ shellSpace)).take (bufferSize - 1 - 0)
      |>.Sublist ((shellSkipSpaces text).takeWhile (· ≠ shellSpace)) := List.take_sublist _ _
    _ |>.Sublist (shellSkipSpaces text) := List.takeWhile_sublist _
    _ |>.Sublist text := List.dropWhile_sublist _

theorem bytes_cstring_token (hnul : 0 ∉ text) (hlength : text.length < 2 ^ 32) (bufferSize : Nat) :
    (cstring (shellReadToken text bufferSize).1).bytes = (shellReadToken text bufferSize).1 := by
  have hpart := shellReadToken_subset text bufferSize
  exact bytes_cstring (fun hzero => hnul (hpart.subset hzero)) (hpart.length_le.trans_lt hlength)

end Strings

/-! ### Commands -/

section Commands

variable {rest : List LogfsOp} {state : LogfsState} {store : AppendStore} {name : List UInt8}

/-- A call that changes nothing answers as the store does. -/
theorem LogfsRelated.query (hrelated : LogfsRelated rest state store) (op : LogfsOp)
    (happend : op.isAppend = false) (hcreate : op.isCreate = false) :
    (logfsStep state op).1 = (store.step op).1 := by
  obtain ⟨device, files, replayed, next, hsim⟩ := hrelated
  refine (LogfsRelated.step op rest state store ⟨device, files, replayed, next, ?_⟩).1
  have happends := hsim.appends
  have hcreates := hsim.creates
  exact { hsim with
    appends := by rwa [List.countP_cons_of_neg (by rw [happend]; exact Bool.false_ne_true)]
    creates := by rwa [List.countP_cons_of_neg (by rw [hcreate]; exact Bool.false_ne_true)] }

theorem LogfsRelated.ready (hrelated : LogfsRelated rest state store) : state.ready = true := by
  obtain ⟨_, _, _, _, hsim⟩ := hrelated
  exact hsim.ready

theorem LogfsRelated.stat_eq (hrelated : LogfsRelated rest state store) (name : CString) :
    logfsStat state name = (StoredFile.lookup store.files name.bytes).map StoredFile.info :=
  LogfsReply.info.inj (hrelated.query (.stat name) rfl rfl)

theorem LogfsRelated.getFile_eq (hrelated : LogfsRelated rest state store) (index : Nat) :
    logfsGetFile state index = store.files[index]?.map StoredFile.info :=
  LogfsReply.info.inj (hrelated.query (.getFile index) rfl rfl)

theorem LogfsRelated.fileCount_eq (hrelated : LogfsRelated rest state store) :
    logfsFileCount state = store.files.length :=
  LogfsReply.count.inj (hrelated.query .fileCount rfl rfl)

theorem LogfsRelated.readFilePart_eq (hrelated : LogfsRelated rest state store) {name : CString}
    {file : StoredFile} (hlookup : StoredFile.lookup store.files name.bytes = some file)
    {offset : Nat} (hoffset : offset ≤ file.bytes.length) (size : Nat) :
    logfsReadFilePart state name offset size
      = ((((file.bytes.drop offset).take size).length : Int), (file.bytes.drop offset).take size) := by
  have hreply := hrelated.query (.readFilePart name offset size) rfl rfl
  simp only [logfsStep, AppendStore.step, StoredFile.readPart, hlookup, Nat.not_lt.mpr hoffset,
    if_false, LogfsReply.bytes.injEq] at hreply
  exact Prod.ext hreply.1 hreply.2

theorem getLastD_append {piece : List UInt8} (hpiece : piece ≠ []) (more : List UInt8)
    (first second : UInt8) :
    (piece ++ more).getLastD first = more.getLastD (piece.getLastD second) := by
  rw [List.getLastD_eq_getLast?, List.getLastD_eq_getLast?, List.getLastD_eq_getLast?,
    List.getLast?_append, List.getLast?_eq_some_getLast hpiece]
  cases more.getLast? with
  | none => rfl
  | some byte => rfl

/-- The rest of the file is printed, and its last byte is remembered. -/
theorem shellLogCatLoop_eq (hrelated : LogfsRelated rest state store) {name : CString}
    {file : StoredFile} (hlookup : StoredFile.lookup store.files name.bytes = some file)
    (hword : file.bytes.length < 2 ^ 31) :
    ∀ fuel offset lastChar, offset ≤ file.bytes.length → file.bytes.length - offset < fuel →
      shellLogCatLoop state name file.bytes.length fuel offset lastChar
        = (file.bytes.drop offset, false, (file.bytes.drop offset).getLastD lastChar) := by
  intro fuel
  induction fuel with
  | zero => exact fun _ _ _ hfuel => absurd hfuel (Nat.not_lt_zero _)
  | succ fuel ih =>
      intro offset lastChar hoffset hfuel
      rw [shellLogCatLoop]
      by_cases hend : file.bytes.length ≤ offset
      · rw [if_pos hend, List.drop_eq_nil_of_le hend]
        rfl
      · have hread := hrelated.readFilePart_eq hlookup hoffset shellFileBufferMax
        generalize hpiece : (file.bytes.drop offset).take shellFileBufferMax = piece at hread
        have hlength : piece.length = min 128 (file.bytes.length - offset) := by
          rw [← hpiece, List.length_take, List.length_drop]
          rfl
        have hparts : file.bytes.drop offset = piece ++ file.bytes.drop (offset + piece.length) := by
          rw [← List.drop_drop, ← hpiece]
          exact List.prefix_append_drop (List.take_prefix _ _)
        have hpos : ¬ ((piece.length : Int) ≤ 0) := by omega
        have hnext : (offset + piece.length) % 2 ^ 32 = offset + piece.length :=
          Nat.mod_eq_of_lt (by omega)
        rw [if_neg hend, hread]
        dsimp only
        rw [if_neg hpos, Int.toNat_natCast, List.take_length, hnext, ih _ _ (by omega) (by omega)]
        dsimp only
        rw [← hparts, hparts, getLastD_append (List.ne_nil_of_length_pos (by omega))]

theorem shellPrintAll_some (texts : List (List UInt8)) :
    shellPrintAll (texts.map some) = some texts.flatten := by
  induction texts with
  | nil => rfl
  | cons text rest ih => rw [List.map_cons, shellPrintAll, ih, Option.map_some, List.flatten_cons]

theorem shellLogList_eq (hrelated : LogfsRelated rest state store) :
    shellLogList state = some (store.files.flatMap fun file => file.name ++ [0x0a]) := by
  have hlines : (List.range (logfsFileCount state)).map (fun index => shellLogListLine (logfsGetFile state index))
      = (store.files.map fun file => file.name ++ [0x0a]).map some := by
    rw [hrelated.fileCount_eq, List.map_map]
    apply List.ext_getElem
    · rw [List.length_map, List.length_map, List.length_range]
    · intro index hindex hlast
      rw [List.length_map, List.length_range] at hindex
      rw [List.getElem_map, List.getElem_map, List.getElem_range, hrelated.getFile_eq,
        List.getElem?_eq_getElem hindex, Option.map_some]
      exact kprintf_string List.not_mem_nil _
  rw [shellLogList, hrelated.ready, if_neg (by decide), hlines, shellPrintAll_some, List.flatMap_def]

theorem shellLogCat_eq (hrelated : LogfsRelated rest state store) (hbounded : store.Bounded)
    (hnul : 0 ∉ name) (hlength : name.length < 2 ^ 32) :
    shellLogCat state name = (store.shellCommand (.logcat name)).1 := by
  rw [shellLogCat, AppendStore.shellCommand]
  by_cases hempty : name = []
  · rw [if_pos hempty, if_pos hempty]
    exact kprintf_plain (by decide)
  · have hstat := hrelated.stat_eq (cstring name)
    rw [bytes_cstring hnul hlength] at hstat
    rw [if_neg hempty, if_neg hempty, hstat]
    cases hlookup : StoredFile.lookup store.files name with
    | none => exact @kprintf_string (ascii "file not found: ") (by decide) name
    | some file =>
        have hloop := @shellLogCatLoop_eq _ _ _ hrelated (cstring name) file
          (by rw [bytes_cstring hnul hlength]; exact hlookup) (hbounded.lookup_lt hlookup)
          (file.bytes.length + 1) 0 0 (Nat.zero_le _) (by omega)
        rw [List.drop_zero] at hloop
        rw [Option.map_some]
        simp only [StoredFile.info, hloop, shellCatText]
        rw [if_neg Bool.false_ne_true, List.getLastD_eq_getLast?]
        cases hlast : file.bytes.getLast? with
        | none =>
            have hnil := List.getLast?_eq_none_iff.mp hlast
            rw [if_pos (Or.inl (by rw [hnil]; rfl)), if_neg (Option.some_ne_none _).symm]
        | some byte =>
            have hne : file.bytes.length ≠ 0 := by
              rw [Ne, List.length_eq_zero_iff]
              rintro hnil
              rw [hnil] at hlast
              cases hlast
            rw [Option.getD_some]
            by_cases hnewline : byte = 0x0a
            · rw [if_neg (not_or.mpr ⟨hne, not_not.mpr hnewline⟩), if_pos (congrArg some hnewline)]
            · rw [if_pos (Or.inr hnewline), if_neg (fun hsame => hnewline (Option.some.inj hsame))]

/-- Every command prints what it prints over the store, and the relation is kept. -/
theorem LogfsRelated.shellCommand (command : ShellLogCommand)
    (hrelated : LogfsRelated (command.ops ++ rest) state store) (hbounded : store.Bounded)
    (htyped : command.Typed) :
    (shellLogCommand state command).1 = (store.shellCommand command).1
      ∧ LogfsRelated rest (shellLogCommand state command).2 (store.shellCommand command).2
      ∧ (store.shellCommand command).2.Bounded := by
  cases command with
  | logls => exact ⟨shellLogList_eq hrelated, hrelated, hbounded⟩
  | logcat name =>
      have hsame : (store.shellCommand (.logcat name)).2 = store := by
        unfold AppendStore.shellCommand
        dsimp only
        split
        · rfl
        · split
          · rfl
          · rfl
      rw [hsame]
      exact ⟨shellLogCat_eq hrelated hbounded htyped.1 htyped.2, hrelated, hbounded⟩
  | logcreate name =>
      rw [shellLogCommand, shellLogCreate, AppendStore.shellCommand]
      rw [ShellLogCommand.ops] at hrelated
      by_cases hempty : name = []
      · rw [if_pos hempty] at hrelated ⊢
        rw [if_pos hempty]
        refine ⟨?_, hrelated, hbounded⟩
        dsimp only
        exact kprintf_plain (by decide)
      · rw [if_neg hempty, List.singleton_append] at hrelated
        obtain ⟨hcode, hnext⟩ := hrelated.step
        have hname := bytes_cstring htyped.1 htyped.2
        simp only [logfsStep, AppendStore.step, hname, LogfsReply.status.injEq] at hcode hnext
        rw [if_neg hempty, if_neg hempty]
        dsimp only
        rw [hcode]
        by_cases hfailed : (store.create name).1 = 0
        · rw [if_neg (not_not.mpr hfailed), if_pos hfailed]
          exact ⟨rfl, hnext, hbounded.create name⟩
        · rw [if_pos hfailed, if_neg hfailed]
          refine ⟨?_, hnext, hbounded.create name⟩
          dsimp only
          exact @kprintf_string (ascii "logcreate failed: ") (by decide) name
  | logappend args =>
      rw [shellLogCommand, shellLogAppendRun, shellLogAppend, AppendStore.shellCommand]
      rw [ShellLogCommand.ops] at hrelated
      dsimp only at hrelated ⊢
      have hname := bytes_cstring_token htyped.1 htyped.2 logfsNameMax
      generalize shellReadToken args logfsNameMax = fileName at hrelated hname ⊢
      by_cases husage : fileName.1 = [] ∨ shellSkipSpaces fileName.2 = []
      · rw [if_pos husage] at hrelated ⊢
        rw [if_pos husage]
        dsimp only [shellMessage]
        refine ⟨?_, hrelated, hbounded⟩
        exact kprintf_plain (by decide)
      · rw [if_neg husage, List.singleton_append] at hrelated
        obtain ⟨hcode, hnext⟩ := hrelated.step
        simp only [logfsStep, AppendStore.step, hname, LogfsReply.status.injEq] at hcode hnext
        rw [if_neg husage, if_neg husage]
        dsimp only
        rw [hcode]
        by_cases hfailed : (store.append fileName.1 (shellSkipSpaces fileName.2)).1 = 0
        · rw [if_neg (not_not.mpr hfailed), if_pos hfailed]
          exact ⟨rfl, hnext, hbounded.append _ _⟩
        · rw [if_pos hfailed, if_neg hfailed]
          refine ⟨?_, hnext, hbounded.append _ _⟩
          dsimp only
          exact @kprintf_string (ascii "logappend failed: ") (by decide) _

end Commands

/-! ### Sessions -/

end DuckOs

import DuckOs.Kernel.SyscallOutput
import DuckOs.Proof.MmuTables

/-!
# What a system call reveals

`x0` depends on the caller's registers alone, except for the tick count. What is sent to the console
depends on the pages of EL0 alone as long as the buffer touches no memory that is mapped for the
kernel alone: `syscall_handle` takes any address, since tasks of the kernel use it as well.
-/

namespace DuckOs

open TranslationTable Mmu

/-! ### Writing a buffer -/

section Write

variable {load other : Nat → Option UInt8}

theorem consoleWriteLen_congr : ∀ {length buffer : Nat},
    (∀ i, i < length → other ((buffer + i) % 2 ^ 64) = load ((buffer + i) % 2 ^ 64)) →
      consoleWriteLen other buffer length = consoleWriteLen load buffer length := by
  intro length
  induction length with
  | zero => exact fun _ => rfl
  | succ length ih =>
      intro buffer hsame
      have hrest : consoleWriteLen other (buffer + 1) length
          = consoleWriteLen load (buffer + 1) length := by
        apply ih
        intro i hi
        have hi' := hsame (i + 1) (Nat.add_lt_add_right hi 1)
        rwa [show buffer + (i + 1) = buffer + 1 + i by omega] at hi'
      have hfirst : other (buffer % 2 ^ 64) = load (buffer % 2 ^ 64) := hsame 0 (Nat.succ_pos length)
      rw [consoleWriteLen, consoleWriteLen, hfirst, hrest]

/-- Where the loop faults depends on the addresses that are mapped, not on what is there. -/
theorem consoleWriteLen_ends (hmapped : ∀ address, (other address).isSome = (load address).isSome) :
    ∀ (length buffer : Nat),
      (consoleWriteLen other buffer length).2 = (consoleWriteLen load buffer length).2 := by
  intro length
  induction length with
  | zero => exact fun _ => rfl
  | succ length ih =>
      intro buffer
      have hfirst := hmapped (buffer % 2 ^ 64)
      rw [consoleWriteLen, consoleWriteLen]
      cases hother : other (buffer % 2 ^ 64) with
      | none =>
          rw [hother, Option.isSome_none, eq_comm, Option.isSome_eq_false_iff,
            Option.isNone_iff_eq_none] at hfirst
          rw [hfirst]
      | some byte =>
          rw [hother, Option.isSome_some, eq_comm, Option.isSome_iff_exists] at hfirst
          obtain ⟨byte', hload⟩ := hfirst
          rw [hload]
          exact ih (buffer + 1)

/-- While the addresses are mapped, byte `i` of the buffer is sent as byte `i`. -/
theorem getElem?_consoleWriteLen : ∀ {length buffer i : Nat}, i < length →
    (∀ j ≤ i, (load ((buffer + j) % 2 ^ 64)).isSome) →
      (consoleWriteLen load buffer length).1[i]? = load ((buffer + i) % 2 ^ 64) := by
  intro length
  induction length with
  | zero => exact fun hi => absurd hi (Nat.not_lt_zero _)
  | succ length ih =>
      intro buffer i hi hmapped
      obtain ⟨byte, hbyte⟩ := Option.isSome_iff_exists.mp (hmapped 0 (Nat.zero_le i))
      rw [Nat.add_zero] at hbyte
      simp only [consoleWriteLen, hbyte]
      cases i with
      | zero => exact hbyte.symm
      | succ i =>
          have hrest := ih (Nat.lt_of_succ_lt_succ hi) fun j hj => by
            have hnext := hmapped (j + 1) (Nat.succ_le_succ hj)
            rwa [show buffer + (j + 1) = buffer + 1 + j by omega] at hnext
          rw [List.getElem?_cons_succ, hrest, show buffer + (i + 1) = buffer + 1 + i by omega]
end Write

/-! ### The system call -/

section Call

variable {image : KernelImage} {space : AddressSpace} {state other : KernelState} {frame : Nat}

theorem SameFrame.frameX (hframe : SameFrame state other frame) {i : Nat} (hi : i < 31) :
    frameX other frame i = frameX state frame i := by
  apply hframe
  simp only [TrapFrame.size]
  omega

theorem taskInit_words (state : KernelState) : (taskInit state).words = state.words := by
  rw [taskInit]
  split_ifs <;> rfl

theorem taskInit_console (state : KernelState) : (taskInit state).console = state.console := by
  rw [taskInit]
  split_ifs <;> rfl

theorem taskExit_x0 (state : KernelState) (frame : Nat) :
    (taskExitFromException state frame (frameX state frame 0)).2.words frame
      = frameX state frame 0 := by
  have hwords : (taskInit state).words frame = frameX state frame 0 := by
    rw [taskInit_words]
    rfl
  simp only [taskExitFromException]
  split_ifs
  · exact Function.update_self _ _ _
  · split <;> exact hwords

theorem taskExit_console (state : KernelState) (frame status : Nat) :
    (taskExitFromException state frame status).2.console = state.console := by
  rw [← taskInit_console state]
  simp only [taskExitFromException]
  split_ifs
  · rfl
  · split <;> rfl

/-- `x0` behind a call other than `SYS_GET_TICKS`. -/
theorem syscallHandle_x0 (hticks : frameX state frame 8 ≠ sysGetTicks) :
    (syscallHandle image state frame).2.words frame
      = if frameX state frame 8 = sysWriteConsole then
          if frameX state frame 0 = 0 then syscallError else frameX state frame 1
        else if frameX state frame 8 = sysExit then frameX state frame 0
        else syscallError := by
  rw [syscallHandle]
  split_ifs with hwrite hnull hexit hactive
  · exact Function.update_self _ _ _
  · exact Function.update_self _ _ _
  · have hkept : userExitFromException image state frame (frameX state frame 0)
        = (frame, ((({ state with userActive := false }).setWord frame
          (frameX state frame 0)).setWord (frame + TrapFrame.elrOffset)
          image.archUserResumeEl1).setWord (frame + TrapFrame.spsrOffset) state.userResumeSpsr) := by
      rw [userExitFromException, if_neg (by simpa [userExceptionActive] using hactive)]
    rw [hkept]
    simp [KernelState.setWord, TrapFrame.elrOffset, TrapFrame.spsrOffset]
  · exact taskExit_x0 state frame
  · exact Function.update_self _ _ _

theorem syscallHandle_console (image : KernelImage) (state : KernelState) (frame : Nat) :
    (syscallHandle image state frame).2.console
      = state.console ++ (if frameX state frame 8 = sysWriteConsole ∧ frameX state frame 0 ≠ 0 then
          [(frameX state frame 0, frameX state frame 1)] else []) := by
  by_cases hwrite : frameX state frame 8 = sysWriteConsole
  · by_cases hnull : frameX state frame 0 = 0 <;>
      simp [syscallHandle, hwrite, hnull, KernelState.setWord]
  · rw [if_neg fun h => hwrite h.1, List.append_nil, syscallHandle, if_neg hwrite]
    split_ifs with hticks hexit hactive
    · rfl
    · rw [userExitFromException]
      split_ifs <;> rfl
    · exact taskExit_console state frame _
    · rfl

theorem AddressSpace.load_isSome (space : AddressSpace) (state other : KernelState) (address : Nat) :
    (space.load other address).isSome = (space.load state address).isSome := by
  rw [AddressSpace.load, AddressSpace.load, Option.isSome_map, Option.isSome_map]

/-- A byte of a buffer that is not mapped for the kernel alone. -/
theorem AddressSpace.load_eq (hpages : space.SameUserPages state other) {buffer length i : Nat}
    (hrange : space.UserRange buffer length) (hi : i < length) :
    space.load other ((buffer + i) % 2 ^ 64) = space.load state ((buffer + i) % 2 ^ 64) := by
  rw [AddressSpace.load, AddressSpace.load]
  cases htranslate : space.translate ((buffer + i) % 2 ^ 64) with
  | none => rfl
  | some translation =>
      exact congrArg some (hpages _ translation htranslate (hrange i hi translation htranslate))

theorem syscallOutcome_write (hwrite : frameX state frame 8 = sysWriteConsole)
    (hbuffer : frameX state frame 0 ≠ 0) :
    syscallOutcome image space state frame
      = ⟨(consoleWriteLen (space.load state) (frameX state frame 0) (frameX state frame 1)).1,
        if (consoleWriteLen (space.load state) (frameX state frame 0) (frameX state frame 1)).2 then
          some (frameX state frame 1) else none⟩ := by
  have hticks : frameX state frame 8 ≠ sysGetTicks := by
    rw [hwrite]
    decide
  have hx0 := @syscallHandle_x0 image state frame hticks
  rw [if_pos hwrite, if_neg hbuffer] at hx0
  simp only [syscallOutcome, syscallHandle_console, if_pos (And.intro hwrite hbuffer),
    List.drop_left, hx0]

theorem syscallOutcome_quiet
    (hquiet : ¬ (frameX state frame 8 = sysWriteConsole ∧ frameX state frame 0 ≠ 0)) :
    syscallOutcome image space state frame
      = ⟨[], some ((syscallHandle image state frame).2.words frame)⟩ := by
  simp only [syscallOutcome, syscallHandle_console, if_neg hquiet, List.drop_left]

/-- The call delivers the same when the registers and the pages mapped for EL0 are the same. -/
theorem syscallOutcome_congr (hframe : SameFrame state other frame)
    (hpages : space.SameUserPages state other) :
    (frameX state frame 8 ≠ sysGetTicks →
        (syscallOutcome image space other frame).returned
          = (syscallOutcome image space state frame).returned)
      ∧ ((frameX state frame 8 = sysWriteConsole → frameX state frame 0 ≠ 0 →
          space.UserRange (frameX state frame 0) (frameX state frame 1)) →
        (syscallOutcome image space other frame).sent
          = (syscallOutcome image space state frame).sent) := by
  have hx : ∀ i, i < 31 → frameX other frame i = frameX state frame i := fun i hi => hframe.frameX hi
  by_cases hwrite : frameX state frame 8 = sysWriteConsole ∧ frameX state frame 0 ≠ 0
  · have hother : frameX other frame 8 = sysWriteConsole ∧ frameX other frame 0 ≠ 0 := by
      rwa [hx 8 (by decide), hx 0 (by decide)]
    rw [syscallOutcome_write hwrite.1 hwrite.2, syscallOutcome_write hother.1 hother.2,
      hx 0 (by decide), hx 1 (by decide)]
    refine ⟨fun _ => ?_, fun hrange => ?_⟩
    · rw [consoleWriteLen_ends (space.load_isSome state other)]
    · have hbytes := hrange hwrite.1 hwrite.2
      exact congrArg Prod.fst
        (consoleWriteLen_congr fun i hi => AddressSpace.load_eq hpages hbytes hi)
  · have hother : ¬ (frameX other frame 8 = sysWriteConsole ∧ frameX other frame 0 ≠ 0) := by
      rwa [hx 8 (by decide), hx 0 (by decide)]
    rw [syscallOutcome_quiet hwrite, syscallOutcome_quiet hother]
    refine ⟨fun hticks => ?_, fun _ => rfl⟩
    rw [syscallHandle_x0 hticks, syscallHandle_x0 (by rwa [hx 8 (by decide)]), hx 8 (by decide),
      hx 0 (by decide), hx 1 (by decide)]

end Call

/-- For two memories with the same trap frame that agree on the pages mapped for EL0: unless the call
asks for the tick count, `x0` is the same behind it, and unless it writes a buffer that touches memory
mapped for the kernel alone, so is what it sends to the console. A write sends what is there at every
address that is mapped, for whomever. -/
theorem syscall_reveals_user_pages (image : KernelImage) (space : AddressSpace)
    (state other : KernelState) (frame : Nat) (hframe : SameFrame state other frame)
    (hpages : space.SameUserPages state other) :
    (frameX state frame 8 ≠ sysGetTicks →
        (syscallOutcome image space other frame).returned
          = (syscallOutcome image space state frame).returned)
      ∧ ((frameX state frame 8 = sysWriteConsole → frameX state frame 0 ≠ 0 →
          space.UserRange (frameX state frame 0) (frameX state frame 1)) →
        (syscallOutcome image space other frame).sent
          = (syscallOutcome image space state frame).sent)
      ∧ (frameX state frame 8 = sysWriteConsole → frameX state frame 0 ≠ 0 → ∀ i < frameX state frame 1,
        (∀ j ≤ i, (space.load state ((frameX state frame 0 + j) % 2 ^ 64)).isSome) →
          (syscallOutcome image space state frame).sent[i]?
            = space.load state ((frameX state frame 0 + i) % 2 ^ 64)) := by
  obtain ⟨hreturned, hsent⟩ := syscallOutcome_congr hframe hpages
  refine ⟨hreturned, hsent, fun hwrite hbuffer i hi hmapped => ?_⟩
  rw [syscallOutcome_write hwrite hbuffer]
  exact getElem?_consoleWriteLen hi hmapped

/-- A board with 128 MiB of RAM, with the tables and the boot stack at the end of the kernel. -/
def qemuImage : KernelImage where
  ramSize := 0x8000000
  kernelStart := 0x40000000
  kernelEnd := 0x40210000
  ramSize_pos := by decide
  ramSize_dvd := by decide
  ramEnd_lt := by decide
  kernelStart_ge := platformGetRamBase_le_start
  kernelEnd_ge := by decide
  kernelEnd_le := by decide
  taskTrampoline := 0x40000100
  archUserResumeEl1 := 0x40000200
  kernelEnd_dvd := by decide
  bootStack_le := by decide

/-- A program of one page. -/
def onePageSpace : AddressSpace where
  layout := default
  memory := fun _ _ => 0
  calls := [{ Mmu.dataCall with attributes := .code }]

/-- The program asks to write one byte; its frame is on the boot stack. -/
def writeCall (buffer : Nat) : KernelState :=
  { KernelState.boot qemuImage fun address =>
      if address = 0x4020f000 then buffer
      else if address = 0x4020f008 then 1
      else if address = 0x4020f040 then sysWriteConsole
      else 0 with
    userActive := true }

theorem writeCall_sameFrame (buffer : Nat) :
    SameFrame (writeCall buffer) ((writeCall buffer).setWord 0x40100000 0x41) 0x4020f000 := by
  intro offset hoffset
  have hne : 0x4020f000 + offset ≠ 0x40100000 := by omega
  exact Function.update_of_ne hne _ _

theorem writeCall_samePages (buffer : Nat) :
    onePageSpace.SameUserPages (writeCall buffer)
      ((writeCall buffer).setWord 0x40100000 0x41) := by
  intro address translation htranslate hread
  rw [AddressSpace.translate, translate_run] at htranslate
  obtain ⟨call, hcall, -, haddress⟩ := call_of_view htranslate (.inl hread)
  have hphysical : call.physicalAddress = 0x40300000 := by
    rw [List.mem_singleton.mp hcall]
    rfl
  have hvalue : translation.address.toNat = 0x40300000 + (BitVec.ofNat 64 address).toNat % 2 ^ 12 := by
    have hbase : (0x40300000 : Word).toNat = 0x40300000 := rfl
    rw [haddress, hphysical, BitVec.toNat_add, toNat_and_lowBits (by decide), hbase]
    exact Nat.mod_eq_of_lt (by omega)
  have hne : translation.address.toNat / 8 * 8 ≠ 0x40100000 := by omega
  have hword : ((writeCall buffer).setWord 0x40100000 0x41).words (translation.address.toNat / 8 * 8)
      = (writeCall buffer).words (translation.address.toNat / 8 * 8) := Function.update_of_ne hne _ _
  rw [KernelState.byteAt, KernelState.byteAt, hword]

/-- The first byte of the program is the same whatever the kernel holds elsewhere. -/
theorem syscall_reveals_user_pages_own_byte :
    (syscallOutcome qemuImage onePageSpace ((writeCall 0x10000).setWord 0x40100000 0x41)
        0x4020f000).sent
      = (syscallOutcome qemuImage onePageSpace (writeCall 0x10000) 0x4020f000).sent := by
  refine (syscall_reveals_user_pages qemuImage onePageSpace (writeCall 0x10000) _ 0x4020f000
    (writeCall_sameFrame _) (writeCall_samePages _)).2.1 ?_
  intro _ _ i hi translation htranslate
  have hzero : i = 0 := Nat.lt_one_iff.mp hi
  have haddress : (frameX (writeCall 0x10000) 0x4020f000 0 + i) % 2 ^ 64 = 0x10000 := by
    rw [hzero]
    rfl
  have hview : onePageSpace.translate 0x10000
      = some ⟨0x40300000, userAccess .code⟩ := by
    rw [AddressSpace.translate, translate_run]
    decide
  rw [haddress, hview] at htranslate
  cases htranslate
  rfl

/-- A program sees a byte of kernel memory that none of its pages holds. -/
theorem syscall_reveals_kernel_byte :
    SameFrame (writeCall 0x40100000) ((writeCall 0x40100000).setWord 0x40100000 0x41) 0x4020f000
      ∧ onePageSpace.SameUserPages (writeCall 0x40100000)
        ((writeCall 0x40100000).setWord 0x40100000 0x41)
      ∧ (syscallOutcome qemuImage onePageSpace (writeCall 0x40100000) 0x4020f000).sent = [0]
      ∧ (syscallOutcome qemuImage onePageSpace
          ((writeCall 0x40100000).setWord 0x40100000 0x41) 0x4020f000).sent = [0x41] := by
  have hview : onePageSpace.translate 0x40100000 = some ⟨0x40100000, ramAccess⟩ := by
    rw [AddressSpace.translate, translate_run]
    decide
  have hsent : ∀ state, frameX state 0x4020f000 8 = sysWriteConsole →
      frameX state 0x4020f000 0 = 0x40100000 → frameX state 0x4020f000 1 = 1 →
        (syscallOutcome qemuImage onePageSpace state 0x4020f000).sent
          = [state.byteAt 0x40100000] := by
    intro state hnumber hbuffer hlength
    rw [syscallOutcome_write hnumber (by rw [hbuffer]; decide), hbuffer, hlength]
    simp only [consoleWriteLen, AddressSpace.load, show 0x40100000 % 2 ^ 64 = 0x40100000 from rfl,
      hview, Option.map_some]
    rfl
  refine ⟨writeCall_sameFrame _, writeCall_samePages _, ?_, ?_⟩
  · rw [hsent _ rfl rfl rfl]
    rfl
  · rw [hsent _ rfl rfl rfl]
    rfl

end DuckOs

import DuckOs.Proof.Heap

/-!
# What the heap promises

A run of `kmalloc` calls with any 64-bit sizes, on a heap that nothing has used yet. The end of a block
is checked against wrapping, its rounded size is not: a size in the last 15 below 2^64 rounds to 0.
-/

namespace DuckOs

/-- The least multiple of 16 from `size` on. -/
def roundUp16 (size : Nat) : Nat := (size + 15) / 16 * 16

/-- No address lies in both blocks. -/
def BlocksApart (block other : Nat × Nat) : Prop :=
  ∀ address, block.1 ≤ address → address < block.1 + block.2 →
    ¬ (other.1 ≤ address ∧ address < other.1 + other.2)

namespace MemoryRun

/-- A heap that no call has used, in a kernel whose first free address lies in RAM. -/
structure HeapUnused (platform : Platform) (run : MemoryRun) : Prop where
  heapStart_eq : run.memory.heapStart = 0
  blocks_eq : run.blocks = []
  firstFree_le : memoryLayoutFirstFreePhys platform run.memory ≤ memoryLayoutRamEnd platform

def kmallocStep (platform : Platform) (run : MemoryRun) (size : BitVec 64) : MemoryRun :=
  run.step platform (.kmalloc size.toNat)

/-- What the contract says of the blocks handed out so far. The limit is below 2^64, so that a block that
ends at it does not wrap. -/
structure BlocksOk (platform : Platform) (run : MemoryRun) : Prop where
  aligned : ∀ block ∈ run.blocks, 16 ∣ block.1
  inside : ∀ block ∈ run.blocks, run.memory.heapStart ≤ block.1
    ∧ block.1 + block.2 ≤ run.memory.heapLimit ∧ run.memory.heapLimit < 2 ^ 64
  apart : run.blocks.Pairwise BlocksApart
  used : kmallocUsed platform run.memory = (run.blocks.map fun block => roundUp16 block.2).sum

/-- A call that fails leaves the heap as it was, but for `kmalloc_init` before the first call. -/
def FailureKeeps (platform : Platform) (run : MemoryRun) (size : BitVec 64) : Prop :=
  (kmalloc platform run.memory size.toNat).1 = 0 →
    (kmalloc platform run.memory size.toNat).2 = kmallocInit platform run.memory

end MemoryRun

/-- The heap as the next call finds it, with the blocks handed out below its current end. -/
structure KmallocInv (platform : Platform) (run : MemoryRun) : Prop where
  start_ne : (kmallocInit platform run.memory).heapStart ≠ 0
  limit_eq : (kmallocInit platform run.memory).heapLimit = memoryLayoutRamEnd platform
  start_le : (kmallocInit platform run.memory).heapStart
    ≤ (kmallocInit platform run.memory).heapCurrent
  current_le : (kmallocInit platform run.memory).heapCurrent ≤ memoryLayoutRamEnd platform
  current_dvd : 16 ∣ (kmallocInit platform run.memory).heapCurrent
  unused : run.memory.heapStart = 0 → run.blocks = []
  aligned : ∀ block ∈ run.blocks, 16 ∣ block.1
  inside : ∀ block ∈ run.blocks, (kmallocInit platform run.memory).heapStart ≤ block.1
    ∧ block.1 + block.2 ≤ (kmallocInit platform run.memory).heapCurrent
  apart : run.blocks.Pairwise BlocksApart
  used : (kmallocInit platform run.memory).heapCurrent - (kmallocInit platform run.memory).heapStart
    = (run.blocks.map fun block => roundUp16 block.2).sum

section Contract

variable {platform : Platform} {run : MemoryRun}

theorem le_roundUp16 (size : Nat) : size ≤ roundUp16 size := by
  rw [roundUp16]
  omega

theorem alignUp16_of_le {size : Nat} (hsize : size ≤ 2 ^ 64 - 16) :
    alignUp16 size = roundUp16 size :=
  alignUp16_eq (by omega)

/-- The sum wraps to at most 14, which rounds down to 0. -/
theorem alignUp16_of_gt {size : Nat} (hsize : 2 ^ 64 - 16 < size) (hlt : size < 2 ^ 64) :
    alignUp16 size = 0 := by
  have hwrap : (size + 15) % 2 ^ 64 = size + 15 - 2 ^ 64 := by
    rw [Nat.mod_eq_sub_mod (by omega), Nat.mod_eq_of_lt (by omega)]
  rw [alignUp16, hwrap, Nat.div_eq_of_lt (by omega), Nat.zero_mul]

theorem kmallocInit_of_ne {memory : MemoryState} (hused : memory.heapStart ≠ 0) :
    kmallocInit platform memory = memory := by
  rw [kmallocInit, if_pos hused]

theorem MemoryRun.HeapUnused.inv (hunused : run.HeapUnused platform) : KmallocInv platform run := by
  have hlt := ramEnd_add_lt platform
  have hend := platform.ramSize_dvd
  have hfirst := hunused.firstFree_le
  have hpos : 0 < memoryLayoutFirstFreePhys platform run.memory := by
    rw [memoryLayoutFirstFreePhys]
    split
    · exact Nat.lt_of_lt_of_le (by decide) platform.kernelEnd_ge
    · omega
  have hram : 16 ∣ memoryLayoutRamEnd platform := by
    simp only [memoryLayoutRamEnd, platformGetRamBase, pmmPageSize] at hend ⊢
    omega
  have hstart := @alignUp16_eq (memoryLayoutFirstFreePhys platform run.memory) (by omega)
  have hinit : kmallocInit platform run.memory = { run.memory with
      heapStart := alignUp16 (memoryLayoutFirstFreePhys platform run.memory)
      heapCurrent := alignUp16 (memoryLayoutFirstFreePhys platform run.memory)
      heapLimit := memoryLayoutRamEnd platform } := by
    rw [kmallocInit, if_neg (not_not.mpr hunused.heapStart_eq)]
  generalize alignUp16 (memoryLayoutFirstFreePhys platform run.memory) = start at hstart hinit
  exact {
    start_ne := by rw [hinit]; simp only; omega
    limit_eq := by rw [hinit]
    start_le := by rw [hinit]
    current_le := by rw [hinit]; simp only; omega
    current_dvd := by rw [hinit]; simp only; omega
    unused := fun _ => hunused.blocks_eq
    aligned := by simp [hunused.blocks_eq]
    inside := by simp [hunused.blocks_eq]
    apart := by simp [hunused.blocks_eq]
    used := by rw [hinit, hunused.blocks_eq]; exact Nat.sub_self _ }

namespace KmallocInv

theorem blocksOk (hinv : KmallocInv platform run) : run.BlocksOk platform := by
  have hlt := ramEnd_add_lt platform
  refine ⟨hinv.aligned, ?_, hinv.apart, hinv.used⟩
  intro block hblock
  have hused : run.memory.heapStart ≠ 0 := by
    intro hunused
    rw [hinv.unused hunused] at hblock
    cases hblock
  have hinside := hinv.inside block hblock
  have hlimit := hinv.limit_eq
  have hcurrent := hinv.current_le
  rw [kmallocInit_of_ne hused] at hinside hlimit hcurrent
  exact ⟨hinside.1, by omega, by omega⟩

/-- Whether a call fits, when the rounded size is exact. -/
theorem kmalloc_cases (hinv : KmallocInv platform run) {size : Nat} (hsize : size ≤ 2 ^ 64 - 16) :
    ((kmallocInit platform run.memory).heapCurrent + roundUp16 size ≤ memoryLayoutRamEnd platform
        ∧ kmalloc platform run.memory size = ((kmallocInit platform run.memory).heapCurrent,
          { kmallocInit platform run.memory with
            heapCurrent := (kmallocInit platform run.memory).heapCurrent + roundUp16 size }))
      ∨ kmalloc platform run.memory size = (0, kmallocInit platform run.memory) := by
  have hlt := ramEnd_add_lt platform
  have hle := hinv.current_le
  have hround : roundUp16 size < 2 ^ 64 := by
    rw [roundUp16]
    omega
  simp only [kmalloc, hinv.limit_eq, alignUp16_of_le hsize]
  generalize (kmallocInit platform run.memory).heapCurrent = current at hle ⊢
  by_cases hwrap : current + roundUp16 size < 2 ^ 64
  · rw [Nat.mod_eq_of_lt hwrap]
    by_cases hfits : current + roundUp16 size ≤ memoryLayoutRamEnd platform
    · exact Or.inl ⟨hfits, by rw [if_neg (by omega)]⟩
    · exact Or.inr (by rw [if_pos (by omega)])
  · refine Or.inr ?_
    rw [Nat.mod_eq_sub_mod (by omega), Nat.mod_eq_of_lt (by omega), if_pos (by omega)]

/-- A size that rounds to 0 always fits, wherever the heap stands. -/
theorem kmalloc_of_gt (hinv : KmallocInv platform run) {size : Nat} (hsize : 2 ^ 64 - 16 < size)
    (hsizeLt : size < 2 ^ 64) :
    kmalloc platform run.memory size
      = ((kmallocInit platform run.memory).heapCurrent, kmallocInit platform run.memory) := by
  have hlt := ramEnd_add_lt platform
  have hle := hinv.current_le
  have hlimit := hinv.limit_eq
  simp only [kmalloc, alignUp16_of_gt hsize hsizeLt, Nat.add_zero]
  rw [Nat.mod_eq_of_lt (by omega), if_neg (by omega)]

theorem current_ne (hinv : KmallocInv platform run) :
    (kmallocInit platform run.memory).heapCurrent ≠ 0 := by
  have hstart := hinv.start_ne
  have hle := hinv.start_le
  omega

theorem failureKeeps (hinv : KmallocInv platform run) (size : BitVec 64) :
    run.FailureKeeps platform size := by
  intro hnull
  by_cases hsize : size.toNat ≤ 2 ^ 64 - 16
  · rcases hinv.kmalloc_cases hsize with ⟨-, hresult⟩ | hresult
    · rw [hresult] at hnull
      exact absurd hnull hinv.current_ne
    · rw [hresult]
  · rw [hinv.kmalloc_of_gt (Nat.lt_of_not_le hsize) size.isLt] at hnull
    exact absurd hnull hinv.current_ne

/-- A failed call starts the heap, if none has before. -/
theorem failed (hinv : KmallocInv platform run) :
    KmallocInv platform { run with memory := kmallocInit platform run.memory } := by
  have hinit := @kmallocInit_of_ne platform _ hinv.start_ne
  exact {
    start_ne := by rw [hinit]; exact hinv.start_ne
    limit_eq := by rw [hinit]; exact hinv.limit_eq
    start_le := by rw [hinit]; exact hinv.start_le
    current_le := by rw [hinit]; exact hinv.current_le
    current_dvd := by rw [hinit]; exact hinv.current_dvd
    unused := fun hunused => absurd hunused hinv.start_ne
    aligned := hinv.aligned
    inside := by rw [hinit]; exact hinv.inside
    apart := hinv.apart
    used := by rw [hinit]; exact hinv.used }

/-- A new block begins at the current end, above all others. -/
theorem placed (hinv : KmallocInv platform run) {size : Nat}
    (hfits : (kmallocInit platform run.memory).heapCurrent + roundUp16 size
      ≤ memoryLayoutRamEnd platform) :
    KmallocInv platform { run with
      memory := { kmallocInit platform run.memory with
        heapCurrent := (kmallocInit platform run.memory).heapCurrent + roundUp16 size }
      blocks := run.blocks ++ [((kmallocInit platform run.memory).heapCurrent, size)] } := by
  obtain ⟨hstart, hlimit, hstartLe, -, hdvd, -, haligned, hinside, hapart, hused⟩ := hinv
  have hsize := le_roundUp16 size
  have hround : 16 ∣ roundUp16 size := Nat.dvd_mul_left 16 _
  generalize kmallocInit platform run.memory = heap at *
  have hinit : kmallocInit platform { heap with
      heapCurrent := heap.heapCurrent + roundUp16 size } = { heap with
      heapCurrent := heap.heapCurrent + roundUp16 size } := kmallocInit_of_ne hstart
  exact {
    start_ne := by rw [hinit]; exact hstart
    limit_eq := by rw [hinit]; exact hlimit
    start_le := by rw [hinit]; exact hstartLe.trans (Nat.le_add_right _ _)
    current_le := by rw [hinit]; exact hfits
    current_dvd := by rw [hinit]; exact Nat.dvd_add hdvd hround
    unused := fun hunused => absurd hunused hstart
    aligned := by
      intro block hblock
      rcases List.mem_append.mp hblock with hold | hnew
      · exact haligned block hold
      · rw [List.mem_singleton.mp hnew]
        exact hdvd
    inside := by
      rw [hinit]
      intro block hblock
      rcases List.mem_append.mp hblock with hold | hnew
      · have hblockInside := hinside block hold
        exact ⟨hblockInside.1, hblockInside.2.trans (Nat.le_add_right _ _)⟩
      · rw [List.mem_singleton.mp hnew]
        exact ⟨hstartLe, Nat.add_le_add_left hsize _⟩
    apart := by
      refine List.pairwise_append.mpr ⟨hapart, List.pairwise_singleton _ _, ?_⟩
      intro block hblock other hother address hge hlt hnew
      rw [List.mem_singleton.mp hother] at hnew
      have hend := (hinside block hblock).2
      have hnewGe := hnew.1
      simp only at hnewGe
      omega
    used := by
      rw [hinit, List.map_append, List.sum_append, ← hused, List.map_singleton, List.sum_singleton]
      exact Nat.sub_add_comm hstartLe }

/-- A call with a size that rounds exactly. -/
theorem step (hinv : KmallocInv platform run) {size : BitVec 64}
    (hsize : size.toNat ≤ 2 ^ 64 - 16) : KmallocInv platform (run.kmallocStep platform size) := by
  simp only [MemoryRun.kmallocStep, MemoryRun.step]
  rcases hinv.kmalloc_cases hsize with ⟨hfits, hresult⟩ | hresult
  · rw [hresult, MemoryRun.addBlock, if_neg hinv.current_ne]
    exact hinv.placed hfits
  · rw [hresult, MemoryRun.addBlock, if_pos rfl]
    exact hinv.failed

/-- A block of a size that rounds to 0 ends behind the limit. -/
theorem le_of_blocksOk (hinv : KmallocInv platform run) {size : BitVec 64}
    (hok : (run.kmallocStep platform size).BlocksOk platform) : size.toNat ≤ 2 ^ 64 - 16 := by
  by_contra hsize
  have hgt : 2 ^ 64 - 16 < size.toNat := Nat.lt_of_not_le hsize
  simp only [MemoryRun.kmallocStep, MemoryRun.step] at hok
  rw [hinv.kmalloc_of_gt hgt size.isLt, MemoryRun.addBlock, if_neg hinv.current_ne] at hok
  have hinside := hok.inside ((kmallocInit platform run.memory).heapCurrent, size.toNat)
    (List.mem_append_right _ (List.mem_singleton.mpr rfl))
  have hlt := ramEnd_add_lt platform
  have hlimit := hinv.limit_eq
  have hne := hinv.current_ne
  have hdvd := hinv.current_dvd
  simp only at hinside
  omega

end KmallocInv

theorem everyStep_le_iff (next : MemoryRun → BitVec 64 → MemoryRun) (sizes : List (BitVec 64))
    (state : MemoryRun) :
    Machine.EveryStep next (fun _ size => size.toNat ≤ 2 ^ 64 - 16) state sizes
      ↔ ∀ size ∈ sizes, size.toNat ≤ 2 ^ 64 - 16 := by
  induction sizes generalizing state with
  | nil => simp [Machine.EveryStep]
  | cons size rest ih => rw [Machine.EveryStep, ih, List.forall_mem_cons]

end Contract

/-- On a heap that nothing has used, over any sequence of 64-bit sizes: at every state the blocks are
aligned, inside the heap, apart from each other and counted in full, and a call that fails keeps the heap,
if and only if no size is among the last 15. -/
theorem kmalloc_contract_iff (platform : Platform) (run : MemoryRun)
    (hunused : run.HeapUnused platform) (sizes : List (BitVec 64)) :
    (Machine.Throughout (MemoryRun.kmallocStep platform) (MemoryRun.BlocksOk platform) run sizes
        ∧ Machine.EveryStep (MemoryRun.kmallocStep platform) (MemoryRun.FailureKeeps platform) run
          sizes)
      ↔ ∀ size ∈ sizes, size.toNat ≤ 2 ^ 64 - 16 := by
  rw [← everyStep_le_iff (MemoryRun.kmallocStep platform) sizes run]
  have hinv := hunused.inv
  have hblocks := @Machine.throughout_iff_of_inv _ _ (MemoryRun.kmallocStep platform)
    (KmallocInv platform) (MemoryRun.BlocksOk platform) (fun _ size => size.toNat ≤ 2 ^ 64 - 16)
    (fun _ hinv => hinv.blocksOk) (fun _ _ hinv hsize => hinv.step hsize)
    (fun _ _ hinv hok => hinv.le_of_blocksOk hok) sizes _ hinv
  constructor
  · rintro ⟨hok, -⟩
    exact hblocks.mp hok
  · intro hsizes
    exact ⟨hblocks.mpr hsizes, hsizes.of_inv
      (fun _ size hinv hsize => ⟨hinv.failureKeeps size, hinv.step hsize⟩) hinv⟩

theorem smallPlatform_heapUnused : (MemoryRun.boot smallPlatform).HeapUnused smallPlatform :=
  ⟨by decide, rfl, by decide⟩

theorem kmalloc_contract_small :
    Machine.Throughout (MemoryRun.kmallocStep smallPlatform) (MemoryRun.BlocksOk smallPlatform)
        (.boot smallPlatform) [1, 24, 0x20000]
      ∧ Machine.EveryStep (MemoryRun.kmallocStep smallPlatform)
        (MemoryRun.FailureKeeps smallPlatform) (.boot smallPlatform) [1, 24, 0x20000] :=
  (kmalloc_contract_iff smallPlatform (.boot smallPlatform) smallPlatform_heapUnused
    [1, 24, 0x20000]).mpr (by simp)

/-- A request for 2^64 - 1 bytes gets a block, at the start of a heap of 56 KiB. -/
theorem kmalloc_places_huge :
    ¬ (Machine.Throughout (MemoryRun.kmallocStep smallPlatform) (MemoryRun.BlocksOk smallPlatform)
        (.boot smallPlatform) [0xffffffffffffffff]
      ∧ Machine.EveryStep (MemoryRun.kmallocStep smallPlatform)
        (MemoryRun.FailureKeeps smallPlatform) (.boot smallPlatform) [0xffffffffffffffff]) := by
  rintro ⟨⟨-, hok⟩, -⟩
  exact absurd (hok.inside (0x40002000, 0xffffffffffffffff) (by decide)) (by decide)

end DuckOs

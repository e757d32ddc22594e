import DuckOs.Drivers.VirtioDisk
import DuckOs.Proof.VirtioBlk

/-!
# The virtio block driver is a block device

A request passes through the queue in three steps of device and driver. When it is through, the buffer or the
disk has what `read_blocks` and `write_blocks` of a block device promise.
-/

namespace DuckOs

open ByteStore

/-! ### The request as the device finds it -/

section Header

variable {driver : VirtioBlkState}

theorem length_headerBytes (driver : VirtioBlkState) : driver.headerBytes.length = 16 := by
  simp [VirtioBlkState.headerBytes]

theorem field_headerBytes_type (htype : driver.headerType < 256 ^ 4) :
    field driver.headerBytes 0 4 = driver.headerType := by
  rw [VirtioBlkState.headerBytes, List.append_assoc, field_append_left (by simp), field_toLe htype]

theorem field_headerBytes_sector (hsector : driver.headerSector < 256 ^ 8) :
    field driver.headerBytes 8 8 = driver.headerSector := by
  rw [VirtioBlkState.headerBytes, field_append_right (by simp)]
  simpa using field_toLe hsector

end Header

/-- The descriptors of a request, from its head on. -/
theorem virtqChain_virtioBlkChain (driver : VirtioBlkState) (request : VirtioBlkRequest)
    {header data status : Nat} (hdata : header ≠ data) (hstatus : header ≠ status)
    (hboth : data ≠ status) (fuel : Nat) :
    virtqChain (virtioBlkChain driver request header data status) (fuel + 3) header
      = [⟨driver.headerAddr, 16, virtqDescFNext, data⟩,
        ⟨request.buffer, virtioBlkByteCount driver request % 2 ^ 32,
          if request.requestType = virtioBlkTIn then virtqDescFNext ||| virtqDescFWrite
          else virtqDescFNext, status⟩,
        ⟨driver.statusAddr, 1, virtqDescFWrite, 0⟩] := by
  unfold virtioBlkChain
  dsimp only
  generalize hflags : (if request.requestType = virtioBlkTIn then virtqDescFNext ||| virtqDescFWrite
    else virtqDescFNext) = flags
  have hnext : flags &&& virtqDescFNext ≠ 0 := by
    rw [← hflags]
    split
    · decide
    · decide
  have hfirst : virtqDescFNext &&& virtqDescFNext ≠ 0 := by decide
  have hlast : ¬ virtqDescFWrite &&& virtqDescFNext ≠ 0 := by decide
  rw [virtqChain, Function.update_of_ne hstatus, Function.update_of_ne hdata, Function.update_self,
    if_pos hfirst, virtqChain, Function.update_of_ne hboth, Function.update_self, if_pos hnext,
    virtqChain, Function.update_self, if_neg hlast]

/-! ### The execution of a request -/

/-- The flags of the descriptor of the data. -/
def BlockCall.dataFlags (call : BlockCall) : Nat :=
  if call.request.requestType = virtioBlkTIn then virtqDescFNext ||| virtqDescFWrite
  else virtqDescFNext

/-- The request of a call is the pending one. -/
structure VirtioDisk.Pending (state : VirtioDisk) (call : BlockCall) : Prop where
  chain_eq : ∃ data status, state.driver.queue.chain state.driver.headerDesc
    = [⟨state.driver.headerAddr, 16, virtqDescFNext, data⟩,
      ⟨call.buffer, call.count * virtioBlkBlockSize, call.dataFlags, status⟩,
      ⟨state.driver.statusAddr, 1, virtqDescFWrite, 0⟩]
  type_eq : state.driver.headerType = call.request.requestType
  sector_eq : state.driver.headerSector = call.request.startBlock
  sector_lt : call.request.startBlock < 256 ^ 8
  inside : call.request.startBlock + call.count ≤ state.capacity
  apart : call.buffer ≠ state.driver.headerAddr ∧ call.buffer ≠ state.driver.statusAddr

/-- Memory, disk and status when the request has been executed. -/
def VirtioDisk.served (state : VirtioDisk) : BlockCall → VirtioDisk
  | .read startBlock count buffer =>
      { state with
        driver := { state.driver with requestStatus := 0 }
        memory := patch state.memory buffer
          (slice state.disk (startBlock * virtioBlkBlockSize) (count * virtioBlkBlockSize)) }
  | .write startBlock count buffer _ =>
      { state with
        driver := { state.driver with requestStatus := 0 }
        disk := patch state.disk (startBlock * virtioBlkBlockSize)
          (slice state.memory buffer (count * virtioBlkBlockSize)) }

section Execute

variable {state : VirtioDisk} {call : BlockCall}

theorem VirtioDisk.dmaRead_header (state : VirtioDisk) :
    state.dmaRead state.driver.headerAddr 16 = state.driver.headerBytes := by
  rw [VirtioDisk.dmaRead, if_pos rfl, List.take_of_length_le]
  rw [length_headerBytes]

theorem VirtioDisk.dmaRead_memory {addr : Nat} (hother : addr ≠ state.driver.headerAddr) (len : Nat) :
    state.dmaRead addr len = slice state.memory addr len := by
  rw [VirtioDisk.dmaRead, if_neg hother]

theorem VirtioDisk.dmaWrite_memory {addr : Nat} (hother : addr ≠ state.driver.statusAddr)
    (bytes : List UInt8) :
    state.dmaWrite (addr, bytes) = { state with memory := patch state.memory addr bytes } := by
  rw [VirtioDisk.dmaWrite, if_neg hother]

theorem VirtioDisk.dmaWrite_status (bytes : List UInt8) :
    state.dmaWrite (state.driver.statusAddr, bytes)
      = { state with
          driver := { state.driver with
            requestStatus := (bytes.head?.map UInt8.toNat).getD state.driver.requestStatus } } := by
  rw [VirtioDisk.dmaWrite, if_pos rfl]

theorem BlockCall.requestType_lt (call : BlockCall) : call.request.requestType < 256 ^ 4 := by
  cases call with
  | read startBlock count buffer =>
      change (0 : Nat) < 256 ^ 4
      decide
  | write startBlock count buffer data =>
      change (1 : Nat) < 256 ^ 4
      decide

theorem VirtioDisk.Pending.fields (hpending : state.Pending call) (rest : List UInt8) :
    field (state.driver.headerBytes ++ rest) 0 4 = call.request.requestType
      ∧ field (state.driver.headerBytes ++ rest) 8 8 = call.request.startBlock := by
  have hlength := length_headerBytes state.driver
  constructor
  · rw [field_append_left (by omega),
      field_headerBytes_type (by rw [hpending.type_eq]; exact call.requestType_lt), hpending.type_eq]
  · rw [field_append_left (by omega),
      field_headerBytes_sector (by rw [hpending.sector_eq]; exact hpending.sector_lt),
      hpending.sector_eq]

/-- The writes to the status byte: nothing of the data, and then the status. -/
theorem VirtioDisk.foldl_dmaWrite_status {statusAddr : Nat} (hstatus : statusAddr = state.driver.statusAddr)
    (status : UInt8) :
    [(statusAddr, []), (statusAddr, [status])].foldl VirtioDisk.dmaWrite state
      = { state with driver := { state.driver with requestStatus := status.toNat } } := by
  rw [hstatus, List.foldl_cons, dmaWrite_status, List.foldl_cons]
  exact dmaWrite_status _

section Three

variable {head data tail : VirtqDesc} {index : Nat} {served : List UInt8 × UInt8 × Store}

/-- The three descriptors of a request to read. -/
theorem VirtioDisk.execute_fill (hchain : state.driver.queue.chain index = [head, data, tail])
    (hhead : head.writable = false) (hdata : data.writable = true) (htail : tail.writable = true)
    (hlen : tail.len = 1)
    (hserve : state.server.serve state.capacity state.disk (state.dmaRead head.addr head.len) (data.len + 1)
      = served) (hlength : served.1.length = data.len) :
    state.execute index = (data.len + 1,
      [(data.addr, served.1), (tail.addr, []), (tail.addr, [served.2.1])].foldl VirtioDisk.dmaWrite
        { state with disk := served.2.2 }) := by
  have hfilter : [head, data, tail].filter (·.writable) = [data, tail] := by
    rw [List.filter_cons_of_neg (by simp [hhead]), List.filter_cons_of_pos hdata,
      List.filter_cons_of_pos htail, List.filter_nil]
  have hgather : virtqGather state.dmaRead [head, data, tail] = state.dmaRead head.addr head.len := by
    rw [virtqGather_cons_readable hhead, virtqGather_cons_writable hdata,
      virtqGather_cons_writable htail, virtqGather_nil, List.append_nil]
  have hroom : virtqRoom [head, data, tail] = data.len + 1 := by
    rw [virtqRoom_cons_readable hhead, virtqRoom_cons_writable hdata, virtqRoom_cons_writable htail,
      virtqRoom_nil, hlen]
  have hscatter : virtqScatter [head, data, tail] served.1
      = [(data.addr, served.1), (tail.addr, [])] := by
    rw [virtqScatter_cons_readable hhead, virtqScatter_cons_writable hdata,
      virtqScatter_cons_writable htail, virtqScatter_nil, List.take_of_length_le (Nat.le_of_eq hlength),
      List.drop_of_length_le (Nat.le_of_eq hlength), List.take_nil]
  rw [VirtioDisk.execute, hchain]
  simp only [hfilter, hgather, hroom, hserve, hscatter, hlength, hlen, List.getLast?_cons_cons,
    List.getLast?_singleton, Option.map_some, Option.toList_some, Nat.add_sub_cancel,
    List.cons_append, List.nil_append]

/-- The three descriptors of a request to write. -/
theorem VirtioDisk.execute_take (hchain : state.driver.queue.chain index = [head, data, tail])
    (hhead : head.writable = false) (hdata : data.writable = false) (htail : tail.writable = true)
    (hlen : tail.len = 1)
    (hserve : state.server.serve state.capacity state.disk
      (state.dmaRead head.addr head.len ++ state.dmaRead data.addr data.len) 1 = served)
    (hnothing : served.1 = []) :
    state.execute index = (1,
      [(tail.addr, []), (tail.addr, [served.2.1])].foldl VirtioDisk.dmaWrite
        { state with disk := served.2.2 }) := by
  have hfilter : [head, data, tail].filter (·.writable) = [tail] := by
    rw [List.filter_cons_of_neg (by simp [hhead]), List.filter_cons_of_neg (by simp [hdata]),
      List.filter_cons_of_pos htail, List.filter_nil]
  have hgather : virtqGather state.dmaRead [head, data, tail]
      = state.dmaRead head.addr head.len ++ state.dmaRead data.addr data.len := by
    rw [virtqGather_cons_readable hhead, virtqGather_cons_readable hdata,
      virtqGather_cons_writable htail, virtqGather_nil, List.append_nil]
  have hroom : virtqRoom [head, data, tail] = 1 := by
    rw [virtqRoom_cons_readable hhead, virtqRoom_cons_readable hdata, virtqRoom_cons_writable htail,
      virtqRoom_nil, hlen]
  have hscatter : virtqScatter [head, data, tail] [] = [(tail.addr, [])] := by
    rw [virtqScatter_cons_readable hhead, virtqScatter_cons_readable hdata,
      virtqScatter_cons_writable htail, virtqScatter_nil, List.take_nil]
  rw [VirtioDisk.execute, hchain]
  simp only [hfilter, hgather, hroom, hserve, hscatter, hnothing, hlen, List.getLast?_singleton,
    Option.map_some, Option.toList_some, Nat.add_sub_cancel, List.cons_append, List.nil_append,
    List.length_nil, Nat.zero_add]

end Three

/-- The device does what the request asks for. -/
theorem VirtioDisk.Pending.execute_eq (hpending : state.Pending call) :
    ∃ len, 1 ≤ len ∧ state.execute state.driver.headerDesc = (len, state.served call) := by
  obtain ⟨data, status, hchain⟩ := hpending.chain_eq
  obtain ⟨hheader, hstatus⟩ := hpending.apart
  have hinside : call.request.startBlock * virtioBlkBlockSize + call.count * virtioBlkBlockSize
      ≤ state.capacity * virtioBlkBlockSize := by
    rw [← Nat.add_mul]
    exact Nat.mul_le_mul_right _ hpending.inside
  have hfirst : (VirtqDesc.mk state.driver.headerAddr 16 virtqDescFNext data).writable = false := by
    rw [VirtqDesc.writable_mk]
    decide
  have hlast : (VirtqDesc.mk state.driver.statusAddr 1 virtqDescFWrite 0).writable = true := by
    rw [VirtqDesc.writable_mk]
    decide
  cases call with
  | read startBlock count buffer =>
      have hmiddle : (VirtqDesc.mk buffer (count * virtioBlkBlockSize)
          (virtqDescFNext ||| virtqDescFWrite) status).writable = true := by
        rw [VirtqDesc.writable_mk]
        decide
      obtain ⟨htype, hsector⟩ := hpending.fields []
      rw [List.append_nil] at htype hsector
      have hserve := state.server.serve_read state.disk (length_headerBytes state.driver) htype hsector
        hinside
      rw [← state.dmaRead_header] at hserve
      refine ⟨count * virtioBlkBlockSize + 1, Nat.le_add_left 1 _,
        (VirtioDisk.execute_fill hchain hfirst hmiddle hlast rfl hserve length_slice).trans ?_⟩
      rw [List.foldl_cons, dmaWrite_memory hstatus, foldl_dmaWrite_status rfl]
      rfl
  | write startBlock count buffer bytes =>
      have hmiddle : (VirtqDesc.mk buffer (count * virtioBlkBlockSize) virtqDescFNext status).writable
          = false := by
        rw [VirtqDesc.writable_mk]
        decide
      change buffer ≠ state.driver.headerAddr at hheader
      obtain ⟨htype, hsector⟩ :=
        hpending.fields (slice state.memory buffer (count * virtioBlkBlockSize))
      have hserve := state.server.serve_write state.disk (length_headerBytes state.driver) htype hsector
        (by rw [length_slice]; exact hinside)
      rw [← state.dmaRead_header, ← dmaRead_memory hheader] at hserve
      refine ⟨1, Nat.le_refl 1,
        (VirtioDisk.execute_take hchain hfirst hmiddle hlast rfl hserve rfl).trans ?_⟩
      rw [foldl_dmaWrite_status rfl, dmaRead_memory hheader]
      rfl

end Execute

/-! ### The way of a request -/

section Submission

variable {driver : VirtioBlkState} {request : VirtioBlkRequest}

/-- A request that is refused changes nothing at all. -/
theorem virtioBlkSubmit_of_not_accepts (haccepts : virtioBlkAccepts driver request = false) :
    virtioBlkSubmit driver request = (false, driver) := by
  rw [virtioBlkSubmit, haccepts, Bool.not_false, if_pos rfl]

/-- While no request is pending there are descriptors for the next one. -/
theorem virtioBlkSubmit_of_accepts (hconserved : driver.Conserved) (hidle : driver.requestBusy = false)
    (haccepts : virtioBlkAccepts driver request = true) :
    VirtioBlkStarted driver request (virtioBlkSubmit driver request) := by
  have hperm : driver.queue.freeList.Perm (List.range virtioBlkQueueSize) := by
    rcases hconserved with ⟨-, hperm⟩ | ⟨hbusy, -⟩
    · exact hperm
    · exact nomatch hidle.symm.trans hbusy
  have hnodup : driver.queue.freeList.Nodup := hperm.nodup_iff.mpr List.nodup_range
  have hlength := hperm.length_eq
  obtain ⟨header, data, status, rest, hlist⟩ :
      ∃ header data status rest, driver.queue.freeList = header :: data :: status :: rest := by
    generalize driver.queue.freeList = free at hlength
    match free with
    | [] => exact nomatch hlength
    | [_] => exact nomatch hlength
    | [_, _] => exact nomatch hlength
    | header :: data :: status :: rest => exact ⟨header, data, status, rest, rfl⟩
  obtain ⟨hheader, hfirst⟩ := virtqueueAllocDesc_cons hlist hnodup
  have hrest := hfirst.freeList_eq.symm.trans hlist
  rw [List.cons.injEq] at hrest
  rw [hlist, ← hrest.2] at hnodup
  obtain ⟨hdata, hsecond⟩ := virtqueueAllocDesc_cons hrest.2 (List.nodup_cons.mp hnodup).2
  have hlast := hsecond.freeList_eq.symm.trans hrest.2
  rw [List.cons.injEq] at hlast
  rw [hsecond.freeList_eq] at hnodup
  obtain ⟨hstatus, hthird⟩ := virtqueueAllocDesc_cons hlast.2
    (List.nodup_cons.mp (List.nodup_cons.mp hnodup).2).2
  refine ⟨header, data, status, _, _, _, hidle, hfirst, hsecond, hthird, ?_⟩
  have hnotBusy : ¬ driver.requestBusy = true := by
    rw [hidle]
    exact Bool.false_ne_true
  rw [virtioBlkSubmit, haccepts, Bool.not_true, if_neg Bool.false_ne_true, if_neg hnotBusy]
  simp only [hheader, hdata, hstatus]

end Submission

namespace VirtioDisk

/-- Where the request of `origin` is, with the events that are still needed. -/
inductive Stage (origin : VirtioDisk) (call : BlockCall) : List VirtioDiskEvent → VirtioDisk → Prop where
  | submitted {device : VirtqDevice}
      (hinv : VirtioBlkInv origin.driver device ⟨[origin.driver.headerDesc], [], []⟩) :
      Stage origin call virtioDiskServed { origin with device := device }
  | held {device : VirtqDevice}
      (hinv : VirtioBlkInv origin.driver device ⟨[], [origin.driver.headerDesc], []⟩) :
      Stage origin call [.complete 0, .completeUsed] { origin with device := device }
  | completed {device : VirtqDevice} {queue : Virtqueue} {len : Nat} (hlen : 1 ≤ len)
      (hinv : VirtioBlkInv { origin.driver with queue := queue, requestStatus := 0 } device
        ⟨[], [], [⟨origin.driver.headerDesc, len⟩]⟩) :
      Stage origin call [.completeUsed]
        { origin.served call with
          device := device
          driver := { origin.driver with queue := queue, requestStatus := 0 } }
  | finished {device : VirtqDevice} {driver : VirtioBlkState} {len : Nat} (hlen : 1 ≤ len)
      (hinv : VirtioBlkInv driver device .empty)
      (hdriver : ∃ queue, driver = { origin.driver with
        queue := queue, requestStatus := 0, requestUsedLen := len, requestDone := true,
        requestBusy := false }) :
      Stage origin call [] { origin.served call with device := device, driver := driver }

section Quiet

variable {state : VirtioDisk} {fifos : VirtqFifos}

theorem next_consume_of_nil (hinv : VirtioBlkInv state.driver state.device fifos)
    (hempty : fifos.submitted = []) : state.next .consume = state := by
  rw [next, hinv.related.consume_nil hempty]

theorem next_complete_of_none (hinv : VirtioBlkInv state.driver state.device fifos) {position : Nat}
    (hnone : fifos.held[position]? = none) : state.next (.complete position) = state := by
  rw [next, complete, hinv.related.held_eq, hnone]

theorem next_completeUsed_of_nil (hinv : VirtioBlkInv state.driver state.device fifos)
    (hempty : fifos.completed = []) : state.next .completeUsed = state := by
  rcases hinv.completeUsed with ⟨-, hsame⟩ | ⟨elem, hcompleted, -⟩
  · rw [next, hsame]
  · rw [hcompleted.fifos_eq] at hempty
    exact absurd hempty (List.cons_ne_nil _ _)

end Quiet

section Stages

variable {origin state : VirtioDisk} {call : BlockCall} {needed : List VirtioDiskEvent}

theorem served_driver (call : BlockCall) :
    (origin.served call).driver = { origin.driver with requestStatus := 0 } := by
  cases call with
  | read startBlock count buffer => rfl
  | write startBlock count buffer data => rfl

theorem served_with_device (device : VirtqDevice) (call : BlockCall) :
    VirtioDisk.served { origin with device := device } call
      = { origin.served call with device := device } := by
  cases call with
  | read startBlock count buffer => rfl
  | write startBlock count buffer data => rfl

theorem Pending.with_device (hpending : origin.Pending call) (device : VirtqDevice) :
    VirtioDisk.Pending { origin with device := device } call :=
  ⟨hpending.chain_eq, hpending.type_eq, hpending.sector_eq, hpending.sector_lt, hpending.inside,
    hpending.apart⟩

theorem next_held (hpending : origin.Pending call) {device : VirtqDevice}
    (hinv : VirtioBlkInv origin.driver device ⟨[], [origin.driver.headerDesc], []⟩) :
    Stage origin call [.completeUsed] (VirtioDisk.next { origin with device := device } (.complete 0)) := by
  obtain ⟨len, hlen, hexecute⟩ := (hpending.with_device device).execute_eq
  have hheld : device.held[0]? = some origin.driver.headerDesc := by
    rw [hinv.related.held_eq]
    rfl
  have hfirst : [origin.driver.headerDesc][0]? = some origin.driver.headerDesc := rfl
  obtain ⟨-, -, -, hnext⟩ := hinv.complete hfirst 0 len
  have hcomplete : VirtioDisk.next { origin with device := device } (.complete 0)
      = { origin.served call with
          device := (device.complete origin.driver.queue 0 len).2.1
          driver := { origin.driver with
            queue := (device.complete origin.driver.queue 0 len).2.2, requestStatus := 0 } } := by
    rw [next, complete, hheld]
    dsimp only at hexecute ⊢
    rw [hexecute, served_with_device]
    simp only [served_driver]
  rw [hcomplete]
  exact .completed hlen hnext

/-- Each event takes the request one stage further, or does nothing. -/
theorem Stage.next (hpending : origin.Pending call) (hstage : Stage origin call needed state)
    (event : VirtioDiskEvent) :
    Stage origin call (Machine.await needed event) (state.next event) := by
  cases hstage with
  | submitted hinv =>
      cases event with
      | consume =>
          obtain ⟨-, hrelated⟩ := hinv.related.consume_cons virtioBlkQueueSize_lt rfl
          exact .held ⟨hrelated, hinv.conserved, (fun hidle => nomatch hinv.idle hidle),
            fun _ => rfl⟩
      | complete position =>
          rw [next_complete_of_none hinv rfl]
          exact .submitted hinv
      | completeUsed =>
          rw [next_completeUsed_of_nil hinv rfl]
          exact .submitted hinv
  | held hinv =>
      cases event with
      | consume =>
          rw [next_consume_of_nil hinv rfl]
          exact .held hinv
      | complete position =>
          cases position with
          | zero => exact next_held hpending hinv
          | succ position =>
              rw [next_complete_of_none hinv rfl]
              exact .held hinv
      | completeUsed =>
          rw [next_completeUsed_of_nil hinv rfl]
          exact .held hinv
  | completed hlen hinv =>
      cases event with
      | consume =>
          rw [next_consume_of_nil hinv rfl]
          exact .completed hlen hinv
      | complete position =>
          rw [next_complete_of_none hinv rfl]
          exact .completed hlen hinv
      | completeUsed =>
          rcases hinv.completeUsed with ⟨hempty, -⟩ | ⟨elem, hcompleted, hafter⟩
          · exact nomatch hempty
          · obtain ⟨queue, heq⟩ := hcompleted.after_eq
            refine .finished hlen hafter ⟨queue, ?_⟩
            have helem := hcompleted.fifos_eq
            rw [VirtqFifos.mk.injEq, List.cons.injEq] at helem
            rw [heq, ← helem.2.2.1]
  | finished hlen hinv hdriver =>
      cases event with
      | consume =>
          rw [next_consume_of_nil hinv rfl]
          exact .finished hlen hinv hdriver
      | complete position =>
          rw [next_complete_of_none hinv rfl]
          exact .finished hlen hinv hdriver
      | completeUsed =>
          rw [next_completeUsed_of_nil hinv rfl]
          exact .finished hlen hinv hdriver

theorem Stage.events (hpending : origin.Pending call) :
    ∀ {events : List VirtioDiskEvent} {needed : List VirtioDiskEvent} {state : VirtioDisk},
      Stage origin call needed state →
      Stage origin call (events.foldl Machine.await needed) (events.foldl VirtioDisk.next state) := by
  intro events
  induction events with
  | nil => exact fun hstage => hstage
  | cons event rest ih => exact fun hstage => ih (hstage.next hpending event)

theorem Stage.requestDone (hstage : Stage origin call needed state)
    (hbefore : origin.driver.requestDone = false) : state.driver.requestDone = needed.isEmpty := by
  cases hstage with
  | submitted hinv => exact hbefore
  | held hinv => exact hbefore
  | completed hlen hinv => exact hbefore
  | finished hlen hinv hdriver =>
      obtain ⟨queue, rfl⟩ := hdriver
      rfl

end Stages

end VirtioDisk

/-! ### Calls -/

namespace BlockCall

theorem request_buffer (call : BlockCall) : call.request.buffer = call.buffer := by
  cases call with
  | read startBlock count buffer => rfl
  | write startBlock count buffer data => rfl

theorem request_blockCount (call : BlockCall) : call.request.blockCount = call.count := by
  cases call with
  | read startBlock count buffer => rfl
  | write startBlock count buffer data => rfl

end BlockCall

/-- What no call changes. -/
def VirtioBlkState.config (driver : VirtioBlkState) : Bool × Nat × Nat × Nat × Nat :=
  (driver.available, driver.blockSize, driver.blockCount, driver.headerAddr, driver.statusAddr)

namespace VirtioDisk

/-- Between two calls the disk is that of the block device. -/
structure Implements (headerAddr statusAddr : Nat) (state : VirtioDisk) (device : BlockDevice) : Prop where
  inv : VirtioBlkInv state.driver state.device .empty
  config_eq : state.driver.config
    = (true, virtioBlkBlockSize, state.capacity, headerAddr, statusAddr)
  capacity_lt : state.capacity < 2 ^ 64
  blockSize_eq : device.blockSize = virtioBlkBlockSize
  blockCount_eq : device.blockCount = state.capacity
  storage_eq : device.storage = state.disk

section Call

variable {headerAddr statusAddr : Nat} {state : VirtioDisk} {device : BlockDevice} {call : BlockCall}

theorem Implements.requestBusy (himplements : state.Implements headerAddr statusAddr device) :
    state.driver.requestBusy = false := by
  rcases himplements.inv.conserved with ⟨hidle, -⟩ | ⟨hbusy, -⟩
  · exact hidle
  · exact nomatch himplements.inv.pending hbusy

theorem Implements.byteCount_eq (himplements : state.Implements headerAddr statusAddr device)
    (hfits : call.Fits headerAddr statusAddr) :
    virtioBlkByteCount state.driver call.request = call.count * virtioBlkBlockSize := by
  have hsize : state.driver.blockSize = virtioBlkBlockSize := by
    have hconfig := himplements.config_eq
    simp only [VirtioBlkState.config, Prod.mk.injEq] at hconfig
    exact hconfig.2.1
  have hlt := hfits.count_lt
  rw [virtioBlkByteCount, hsize, call.request_blockCount, Nat.mod_eq_of_lt (by omega)]

/-- The driver and the block device refuse the same requests. -/
theorem Implements.accepts_eq (himplements : state.Implements headerAddr statusAddr device)
    (hfits : call.Fits headerAddr statusAddr) :
    virtioBlkAccepts state.driver call.request
      = device.rangeValid call.request.startBlock call.count := by
  have hbytes := himplements.byteCount_eq hfits
  have hconfig := himplements.config_eq
  simp only [VirtioBlkState.config, Prod.mk.injEq] at hconfig
  obtain ⟨havailable, hsize, hcount, -⟩ := hconfig
  rw [Bool.eq_iff_iff, virtioBlkAccepts, decide_eq_true_eq, BlockDevice.rangeValid,
    Bool.and_eq_true, bne_iff_ne, decide_eq_true_eq, hbytes, havailable, hsize, hcount,
    call.request_buffer, call.request_blockCount, himplements.blockCount_eq,
    Nat.mul_div_cancel _ (by decide)]
  constructor
  · rintro ⟨-, hpositive, -, hstart, hend, -⟩
    exact ⟨hpositive, by omega⟩
  · rintro ⟨hpositive, hend⟩
    exact ⟨hfits.buffer_ne, hpositive, rfl, by omega, by omega, rfl⟩

/-- The submitted request is the one of the call. -/
theorem Implements.submitted (himplements : state.Implements headerAddr statusAddr device)
    (hfits : call.Fits headerAddr statusAddr)
    (hvalid : device.rangeValid call.request.startBlock call.count = true) :
    ∃ driver, virtioBlkSubmit state.driver call.request = (true, driver)
      ∧ VirtioDisk.Pending { state with driver := driver } call
      ∧ Stage { state with driver := driver } call virtioDiskServed { state with driver := driver }
      ∧ driver.requestDone = false ∧ driver.config = state.driver.config := by
  have haccepts := (himplements.accepts_eq hfits).trans hvalid
  obtain ⟨header, data, status, first, second, third, hidle, hfirst, hsecond, hthird, heq⟩ :=
    virtioBlkSubmit_of_accepts himplements.inv.conserved himplements.requestBusy haccepts
  have hinv : VirtioBlkInv
      (virtioBlkStart { state.driver with queue := third } call.request header data status) state.device
      ⟨[header], [], []⟩ :=
    himplements.inv.started hidle hfirst hsecond hthird
  have hbytes := himplements.byteCount_eq hfits
  have hconfig := himplements.config_eq
  simp only [VirtioBlkState.config, Prod.mk.injEq] at hconfig
  obtain ⟨-, -, -, hheaderAddr, hstatusAddr⟩ := hconfig
  rw [BlockDevice.rangeValid, Bool.and_eq_true, bne_iff_ne, decide_eq_true_eq,
    himplements.blockCount_eq] at hvalid
  obtain ⟨hpositive, hend⟩ := hvalid
  have hlt := hfits.count_lt
  have hnodup := himplements.inv.conserved.nodup
  rw [hfirst.freeList_eq, hsecond.freeList_eq, hthird.freeList_eq] at hnodup
  simp only [List.nodup_cons, List.mem_cons, not_or] at hnodup
  have happart := hfits.apart call.buffer (Nat.le_refl _)
    (Nat.lt_add_of_pos_right (Nat.mul_pos (Nat.pos_of_ne_zero hpositive) (by decide)))
  refine ⟨_, heq, ⟨⟨data, status, ?_⟩, rfl, rfl, ?_, hend, ?_⟩, .submitted hinv, rfl, rfl⟩
  · have hsize : third.size = virtioBlkQueueSize := by
      rw [(hfirst.rings.trans (hsecond.rings.trans hthird.rings)).size_eq,
        himplements.inv.related.size_eq]
    have hchain := virtqChain_virtioBlkChain { state.driver with queue := third } call.request
      hnodup.1.1 hnodup.1.2.1 hnodup.2.1.1 5
    have hbytes' : virtioBlkByteCount { state.driver with queue := third } call.request
        = call.count * virtioBlkBlockSize := hbytes
    rw [call.request_buffer, hbytes', Nat.mod_eq_of_lt hlt] at hchain
    change virtqChain _ third.size header = _
    rw [hsize]
    exact hchain
  · have hcapacity := himplements.capacity_lt
    have hpow : (256 : Nat) ^ 8 = 2 ^ 64 := by decide
    omega
  · change call.buffer ≠ state.driver.headerAddr ∧ call.buffer ≠ state.driver.statusAddr
    omega

theorem Implements.with_memory (himplements : state.Implements headerAddr statusAddr device)
    (memory : Store) :
    VirtioDisk.Implements headerAddr statusAddr { state with memory := memory } device :=
  ⟨himplements.inv, himplements.config_eq, himplements.capacity_lt, himplements.blockSize_eq,
    himplements.blockCount_eq, himplements.storage_eq⟩

/-- What happens to the call while it waits decides whether it returns. -/
theorem Implements.transfer_eq (himplements : state.Implements headerAddr statusAddr device)
    (hfits : call.Fits headerAddr statusAddr)
    (hvalid : device.rangeValid call.request.startBlock call.count = true)
    (events : List VirtioDiskEvent) :
    ∃ after driver origin, state.transfer call.request events
        = (if virtioDiskServed.Sublist events then some true else none, after)
      ∧ origin = { state with driver := driver } ∧ driver.config = state.driver.config
      ∧ Stage origin call (events.foldl Machine.await virtioDiskServed) after := by
  obtain ⟨driver, hsubmit, hpending, hstage, hdone, hconfig⟩ := himplements.submitted hfits hvalid
  have hafter : Stage { state with driver := driver } call
      (events.foldl Machine.await virtioDiskServed)
      (events.foldl VirtioDisk.next { state with driver := driver }) :=
    Stage.events hpending hstage
  refine ⟨_, driver, _, ?_, rfl, hconfig, hafter⟩
  have hiff : (events.foldl VirtioDisk.next { state with driver := driver }).driver.requestDone = true
      ↔ virtioDiskServed.Sublist events := by
    rw [hafter.requestDone hdone, List.isEmpty_iff, Machine.foldl_await_eq_nil_iff]
  rw [transfer, hsubmit]
  simp only [Bool.not_true, Bool.false_eq_true, ↓reduceIte]
  by_cases hserved : virtioDiskServed.Sublist events
  · rw [if_pos (hiff.mpr hserved), if_pos hserved]
    rw [Machine.foldl_await_eq_nil_iff.mpr hserved] at hafter
    generalize events.foldl VirtioDisk.next { state with driver := driver } = last at hafter ⊢
    cases hafter with
    | finished hlen hinv hdriver =>
        obtain ⟨queue, rfl⟩ := hdriver
        have hsuccess : virtioBlkSOk = 0 ∧ 1 ≤ _ := ⟨rfl, hlen⟩
        simp only [virtioBlkResult, hsuccess.1, ne_eq, not_true_eq_false, false_or, Nat.not_lt, hlen,
          decide_true]
  · rw [if_neg (mt hiff.mp hserved), if_neg hserved]

/-- `address` is not in the buffer of the call. -/
def Outside (call : BlockCall) (address : Nat) : Prop :=
  address < call.buffer ∨ call.buffer + call.count * virtioBlkBlockSize ≤ address

theorem length_given (hfits : call.Fits headerAddr statusAddr) :
    call.given.length ≤ call.count * virtioBlkBlockSize := by
  cases call with
  | read startBlock count buffer => exact Nat.zero_le _
  | write startBlock count buffer data => exact (hfits.given_length _ _ _ _ rfl).le

theorem patch_outside (call : BlockCall) {memory : Store} {data : List UInt8} {address : Nat}
    (hlength : data.length ≤ call.count * virtioBlkBlockSize) (houtside : Outside call address) :
    patch memory call.buffer data address = memory address := by
  rcases houtside with hbefore | hbehind
  · exact patch_of_lt hbefore
  · exact patch_of_le (by omega)

/-- What a call leaves behind, with the memory that it may not touch. -/
structure CallDone (headerAddr statusAddr : Nat) (state : VirtioDisk) (device : BlockDevice)
    (input : BlockCall × List VirtioDiskEvent) : Prop where
  output_eq : (state.call input).1 = (device.call input).1
  implements : (state.call input).2.Implements headerAddr statusAddr (device.call input).2
  memory_eq : ∀ address, Outside input.1 address →
    (state.call input).2.memory address = state.memory address

theorem Implements.call_refused (himplements : state.Implements headerAddr statusAddr device)
    (hfits : call.Fits headerAddr statusAddr)
    (hvalid : device.rangeValid call.request.startBlock call.count = false)
    (events : List VirtioDiskEvent) :
    state.CallDone headerAddr statusAddr device (call, events) := by
  have haccepts := (himplements.accepts_eq hfits).trans hvalid
  have hcall : state.call (call, events)
      = (some none, { state with memory := patch state.memory call.buffer call.given }) := by
    rw [VirtioDisk.call]
    dsimp only
    rw [transfer, virtioBlkSubmit_of_not_accepts haccepts]
    rfl
  have himage : device.call (call, events) = (some none, device) := by
    cases call with
    | read startBlock count buffer =>
        change device.rangeValid startBlock count = false at hvalid
        simp only [BlockDevice.call, BlockDevice.readBlocks, hvalid, Bool.false_eq_true, ↓reduceIte]
    | write startBlock count buffer data =>
        change device.rangeValid startBlock count = false at hvalid
        simp only [BlockDevice.call, BlockDevice.writeBlocks, hvalid, Bool.false_eq_true, ↓reduceIte]
  constructor
  · rw [hcall, himage]
  · rw [hcall, himage]
    exact himplements.with_memory _
  · intro address houtside
    rw [hcall]
    exact patch_outside call (length_given hfits) houtside

theorem Implements.call_served (himplements : state.Implements headerAddr statusAddr device)
    (hfits : call.Fits headerAddr statusAddr)
    (hvalid : device.rangeValid call.request.startBlock call.count = true)
    {events : List VirtioDiskEvent} (hserved : virtioDiskServed.Sublist events) :
    state.CallDone headerAddr statusAddr device (call, events) := by
  have hfilled := himplements.with_memory (patch state.memory call.buffer call.given)
  obtain ⟨after, driver, origin, htransfer, horigin, hconfig, hstage⟩ :=
    hfilled.transfer_eq hfits hvalid events
  rw [if_pos hserved] at htransfer
  rw [Machine.foldl_await_eq_nil_iff.mpr hserved] at hstage
  have hcall : state.call (call, events) = (some (some (call.taken after.memory)), after) := by
    rw [VirtioDisk.call]
    dsimp only
    rw [htransfer]
    rfl
  have hconfigAfter : after.driver.config = state.driver.config := by
    cases hstage with
    | finished hlen hinv hdriver =>
        obtain ⟨queue, rfl⟩ := hdriver
        rw [← hconfig, horigin]
        rfl
  have hinvAfter : VirtioBlkInv after.driver after.device .empty := by
    cases hstage with
    | finished hlen hinv hdriver => exact hinv
  have hserved : after.memory = (origin.served call).memory
      ∧ after.capacity = (origin.served call).capacity ∧ after.disk = (origin.served call).disk := by
    cases hstage with
    | finished hlen hinv hdriver => exact ⟨rfl, rfl, rfl⟩
  obtain ⟨hmemory, hcapacity, hdisk⟩ := hserved
  have himage : ∀ image : BlockDevice, image.blockSize = device.blockSize →
      image.blockCount = device.blockCount → image.storage = after.disk →
      after.capacity = state.capacity →
      after.Implements headerAddr statusAddr image := by
    intro image hsize hcount hstorage hsame
    refine ⟨hinvAfter, ?_, ?_, hsize.trans himplements.blockSize_eq, ?_, hstorage⟩
    · rw [hconfigAfter, himplements.config_eq, hsame]
    · rw [hsame]
      exact himplements.capacity_lt
    · rw [hcount, himplements.blockCount_eq, hsame]
  have hgiven := length_given hfits
  rw [horigin] at hmemory hcapacity hdisk
  cases call with
  | read startBlock count buffer =>
      change device.rangeValid startBlock count = true at hvalid
      change after.memory = patch (patch state.memory buffer [])
        buffer (slice state.disk (startBlock * virtioBlkBlockSize) (count * virtioBlkBlockSize)) at hmemory
      have hread : device.call (.read startBlock count buffer, events)
          = (some (some (slice state.disk (startBlock * virtioBlkBlockSize)
            (count * virtioBlkBlockSize))), device) := by
        rw [BlockDevice.call]
        dsimp only
        rw [BlockDevice.readBlocks, if_pos hvalid, himplements.blockSize_eq, himplements.storage_eq]
      refine ⟨?_, ?_, fun address houtside => ?_⟩
      · have htaken : slice after.memory buffer (count * virtioBlkBlockSize)
            = slice state.disk (startBlock * virtioBlkBlockSize) (count * virtioBlkBlockSize) := by
          have hself : slice (patch (patch state.memory buffer []) buffer (slice state.disk
              (startBlock * virtioBlkBlockSize) (count * virtioBlkBlockSize))) buffer
              (slice state.disk (startBlock * virtioBlkBlockSize) (count * virtioBlkBlockSize)).length
              = slice state.disk (startBlock * virtioBlkBlockSize) (count * virtioBlkBlockSize) :=
            slice_patch_self
          rwa [length_slice, ← hmemory] at hself
        rw [hcall, hread, BlockCall.taken, htaken]
      · rw [hcall, hread]
        exact himage device rfl rfl (himplements.storage_eq.trans hdisk.symm) hcapacity
      · rw [hcall, hmemory]
        exact (patch_outside (.read startBlock count buffer) length_slice.le houtside).trans
          (patch_outside (.read startBlock count buffer) hgiven houtside)
  | write startBlock count buffer data =>
      change device.rangeValid startBlock count = true at hvalid
      have hlength := hfits.given_length _ _ _ _ rfl
      have hfill : slice (patch state.memory buffer data) buffer (count * virtioBlkBlockSize) = data := by
        rw [← hlength]
        exact slice_patch_self
      change after.disk = patch state.disk (startBlock * virtioBlkBlockSize)
        (slice (patch state.memory buffer data) buffer (count * virtioBlkBlockSize)) at hdisk
      rw [hfill] at hdisk
      have hwrite : device.call (.write startBlock count buffer data, events)
          = (some (some []), { device with
            storage := after.disk
            writes := device.writes ++ [(startBlock, data)] }) := by
        rw [BlockDevice.call]
        dsimp only
        rw [BlockDevice.writeBlocks, if_pos hvalid, himplements.blockSize_eq, himplements.storage_eq,
          hdisk]
      refine ⟨?_, ?_, fun address houtside => ?_⟩
      · rw [hcall, hwrite]
        rfl
      · rw [hcall, hwrite]
        exact himage _ rfl rfl rfl hcapacity
      · rw [hcall, hmemory]
        exact patch_outside _ hgiven houtside

theorem Implements.callDone (himplements : state.Implements headerAddr statusAddr device)
    (hfits : call.Fits headerAddr statusAddr) {events : List VirtioDiskEvent}
    (hserved : virtioDiskServed.Sublist events) :
    state.CallDone headerAddr statusAddr device (call, events) := by
  cases hvalid : device.rangeValid call.request.startBlock call.count with
  | false => exact himplements.call_refused hfits hvalid events
  | true => exact himplements.call_served hfits hvalid hserved

/-- Between the calls of a run; those of `rest` are still to come. -/
structure RunRelated (headerAddr statusAddr : Nat) (calls : List (BlockCall × List VirtioDiskEvent))
    (memory : Store) (rest : List (BlockCall × List VirtioDiskEvent)) (state : VirtioDisk)
    (device : BlockDevice) : Prop where
  implements : state.Implements headerAddr statusAddr device
  fits : ∀ input ∈ rest, input.1.Fits headerAddr statusAddr
  served : ∀ input ∈ rest, virtioDiskServed.Sublist input.2
  subset : rest ⊆ calls
  memory_eq : ∀ address, (∀ input ∈ calls, Outside input.1 address) →
    state.memory address = memory address

theorem RunRelated.next {calls rest : List (BlockCall × List VirtioDiskEvent)} {memory : Store}
    {input : BlockCall × List VirtioDiskEvent}
    (hrelated : RunRelated headerAddr statusAddr calls memory (input :: rest) state device) :
    (state.call input).1 = (device.call input).1
      ∧ RunRelated headerAddr statusAddr calls memory rest (state.call input).2
        (device.call input).2 := by
  obtain ⟨himplements, hfits, hserved, hsubset, hmemory⟩ := hrelated
  rw [List.forall_mem_cons] at hfits hserved
  rw [List.cons_subset] at hsubset
  have hdone := himplements.callDone hfits.1 hserved.1
  refine ⟨hdone.output_eq, hdone.implements, hfits.2, hserved.2, hsubset.2, ?_⟩
  intro address houtside
  rw [hdone.memory_eq address (houtside input hsubset.1), hmemory address houtside]

end Call

end VirtioDisk

theorem virtioBlkInit_implements {page capacity headerAddr statusAddr : Nat} {driver : VirtioBlkState}
    (hinit : virtioBlkInit page capacity headerAddr statusAddr = some driver)
    (hcapacity : capacity < 2 ^ 64) (server : VirtioDiskServer) (memory disk : Store) :
    VirtioDisk.Implements headerAddr statusAddr ⟨server, driver, .reset, memory, capacity, disk⟩
      ⟨virtioBlkBlockSize, capacity, disk, []⟩ := by
  refine ⟨virtioBlkInit_inv hinit, ?_, hcapacity, rfl, rfl, rfl⟩
  unfold virtioBlkInit at hinit
  split at hinit
  · cases hinit
  split at hinit
  · cases hinit
  · cases hinit
    rfl

/-- With any device that carries out the requests for its blocks, and whatever driver and device do while the
calls wait, as long as each request is taken and completed and the driver then notices it: every sequence of transfers returns what `read_blocks` and
`write_blocks` of a block device with the blocks of the disk return, leaves the same blocks behind, and
touches no memory but the buffers of its calls. -/
theorem virtio_blk_implements_block_device (page capacity headerAddr statusAddr : Nat)
    (driver : VirtioBlkState) (hinit : virtioBlkInit page capacity headerAddr statusAddr = some driver)
    (hcapacity : capacity < 2 ^ 64) (server : VirtioDiskServer) (memory disk : Store)
    (calls : List (BlockCall × List VirtioDiskEvent))
    (hfits : ∀ input ∈ calls, input.1.Fits headerAddr statusAddr)
    (hserved : ∀ input ∈ calls, virtioDiskServed.Sublist input.2) :
    let state : VirtioDisk := ⟨server, driver, .reset, memory, capacity, disk⟩
    let device : BlockDevice := ⟨virtioBlkBlockSize, capacity, disk, []⟩
    (Machine.run VirtioDisk.call state calls).1 = (Machine.run BlockDevice.call device calls).1
      ∧ (Machine.run VirtioDisk.call state calls).2.disk
        = (Machine.run BlockDevice.call device calls).2.storage
      ∧ ∀ address, (∀ input ∈ calls, VirtioDisk.Outside input.1 address) →
        (Machine.run VirtioDisk.call state calls).2.memory address = memory address := by
  intro state device
  have hstart : VirtioDisk.RunRelated headerAddr statusAddr calls memory calls state device :=
    ⟨virtioBlkInit_implements hinit hcapacity server memory disk, hfits, hserved, List.Subset.refl _,
      fun _ _ => rfl⟩
  have hstep : ∀ input rest state device,
      VirtioDisk.RunRelated headerAddr statusAddr calls memory (input :: rest) state device →
        (state.call input).1 = (device.call input).1
          ∧ VirtioDisk.RunRelated headerAddr statusAddr calls memory rest (state.call input).2
            (device.call input).2 :=
    fun _ _ _ _ hrelated => hrelated.next
  obtain ⟨houtputs, hlast⟩ := Machine.run_simulation hstep hstart
  exact ⟨houtputs, hlast.implements.storage_eq.symm, hlast.memory_eq⟩

/-- A device that checks the blocks of its requests. -/
def checkedServe (capacity : Nat) (disk : Store) (request : List UInt8) (room : Nat) :
    List UInt8 × UInt8 × Store :=
  let start := field request 8 8 * virtioBlkBlockSize
  if field request 0 4 = virtioBlkTIn then
    if capacity * virtioBlkBlockSize < start + (room - 1) then ([], 1, disk)
    else (slice disk start (room - 1), 0, disk)
  else if field request 0 4 = virtioBlkTOut then
    if capacity * virtioBlkBlockSize < start + (request.drop 16).length then ([], 1, disk)
    else ([], 0, patch disk start (request.drop 16))
  else ([], 2, disk)

def checkedServer : VirtioDiskServer where
  serve := checkedServe
  serve_read := by
    intro capacity startBlock room disk request _ htype hsector hinside
    unfold checkedServe
    dsimp only
    rw [htype, hsector, if_pos rfl, Nat.add_sub_cancel, if_neg (Nat.not_lt.mpr hinside)]
  serve_write := by
    intro capacity startBlock disk header data hheader htype hsector hinside
    have hother : ¬ virtioBlkTOut = virtioBlkTIn := by decide
    have hdrop : (header ++ data).drop 16 = data := List.drop_left' hheader
    unfold checkedServe
    dsimp only
    rw [htype, hsector, if_neg hother, if_pos rfl, hdrop, if_neg (Nat.not_lt.mpr hinside)]

/-- A block is written and read back, and a block behind the last one is refused. -/
def blockCalls : List (BlockCall × List VirtioDiskEvent) :=
  [(.write 3 1 0x3000 (List.replicate 512 7), [.completeUsed, .consume, .complete 1, .complete 0,
      .completeUsed]),
    (.read 3 1 0x4000, [.consume, .completeUsed, .complete 0, .consume, .completeUsed]),
    (.read 8 1 0x4000, virtioDiskServed)]

theorem virtio_blk_implements_block_device_read_back :
    (Machine.run VirtioDisk.call ⟨checkedServer, smallVirtioBlk, .reset, fun _ => 0, 8, fun _ => 0⟩ blockCalls).1
      = [some (some []), some (some (List.replicate 512 7)), some none] := by
  have hfits : ∀ input ∈ blockCalls, input.1.Fits 0x100 0x200 := by
    intro input hmem
    simp only [blockCalls, List.mem_cons, List.not_mem_nil, or_false] at hmem
    obtain rfl | rfl | rfl := hmem
    · refine ⟨by decide, by decide, ?_, ?_⟩
      · rintro _ _ _ _ ⟨⟩
        exact List.length_replicate
      · intro address hfrom hto
        simp only [BlockCall.buffer] at hfrom
        omega
    · refine ⟨by decide, by decide, (fun _ _ _ _ heq => nomatch heq), ?_⟩
      intro address hfrom hto
      simp only [BlockCall.buffer] at hfrom
      omega
    · refine ⟨by decide, by decide, (fun _ _ _ _ heq => nomatch heq), ?_⟩
      intro address hfrom hto
      simp only [BlockCall.buffer] at hfrom
      omega
  have hrun := virtio_blk_implements_block_device 0x1000 8 0x100 0x200 smallVirtioBlk
    smallVirtioBlk_init (by decide) checkedServer (fun _ => 0) (fun _ => 0) blockCalls hfits (by decide)
  have hread : slice (patch (fun _ => 0) (3 * virtioBlkBlockSize) (List.replicate 512 7))
      (3 * virtioBlkBlockSize) (List.replicate 512 (7 : UInt8)).length = List.replicate 512 7 :=
    slice_patch_self
  rw [List.length_replicate] at hread
  rw [hrun.1]
  change [some (some []), some (some (slice (patch (fun _ => 0) (3 * virtioBlkBlockSize)
    (List.replicate 512 7)) (3 * virtioBlkBlockSize) 512)), some none] = _
  rw [hread]

end DuckOs

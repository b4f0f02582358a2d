import SakuraNetwork.Lib.Interleaving
import SakuraNetwork.ReceiveFraming

/-!
# Multi-block messages at the receiver

A multi-block message is sent as a list of part frames and a finish frame.  The
receiver sees of it the append buffer of its multiblock id and, if it is a
response, the entries of its blocker-id: `Incoming` is this part of the process,
and `Incoming.receive` what a frame does to it.  The frames of a message fill the
buffer with the payload, and the finish frame hands it on.

* `receive_outgoingFrames`: the frames of one message alone.
* `transfers_independent`: frames of one message do not touch what belongs to
  another one.
* `transfers_delivered`: every interleaving of many messages.
-/

namespace SakuraNetwork

open Lib

/-! ## One message -/

/-- What belongs to one message: its buffer, and the data held by the entries of
its blocker-id. -/
@[ext] structure Incoming where
  buffer : Option MultiblockBuffer := none
  waiting : List (Option Bytes) := []

namespace Incoming

/-- A complete message goes to the callback or to the blocked request. -/
def deliver
    (s : SessionRef)
    (multiblockId blockerId : UInt64)
    (data : Option Bytes)
    (x : Incoming) : Incoming × List Output :=
  if blockerId = 0 then (x, [.processRequestData s multiblockId data])
  else
    match x.waiting with
    | [] => (x, [])
    | _ :: rest => ({ x with waiting := data :: rest }, [.notifyOne blockerId])

/-- Part 0 creates the buffer; every part is appended. -/
def append
    (totalSize multiblockId : UInt64)
    (partId : UInt32)
    (data : Bytes)
    (x : Incoming) : Incoming :=
  { x with buffer :=
      (if partId = 0 then
        x.buffer.or (some
          { multiblockId := multiblockId, messageSize := totalSize, incomingData := some [] })
      else x.buffer).map (MultiblockIo.addData data) }

/-- What a frame of the message does. -/
def receive (s : SessionRef) (x : Incoming) : Body → Incoming × List Output
  | .multiStatic totalSize multiblockId _ partId data _ =>
      (x.append totalSize multiblockId partId data, [])
  | .multiFinish multiblockId blockerId =>
      ({ (x.deliver s multiblockId blockerId (x.buffer.getD {}).incomingData).1 with
          buffer := none },
        (x.deliver s multiblockId blockerId (x.buffer.getD {}).incomingData).2)
  | _ => (x, [])

end Incoming

/-- The part of a process that belongs to a message of a session. -/
def Process.incoming
    (p : Process)
    (s : SessionRef)
    (multiblockId blockerId : UInt64) : Incoming where
  buffer := (p.session s).incomingBuffer.find multiblockId
  waiting := MessageBlockerHandler.responses blockerId p.blockerList

/-- The content of the buffer after some parts. -/
def partialBuffer
    (cfg : Config)
    (multiblockId : UInt64)
    (data : Bytes)
    (parts : Nat) : Option MultiblockBuffer :=
  if parts = 0 then none
  else some
    { multiblockId := multiblockId
      messageSize := UInt64.ofNat data.length
      incomingData := some (data.take (cfg.maxSingleMessageSize * parts)) }

theorem partOffset_ofNat
    (cfg : Config)
    {k : Nat}
    (h : cfg.maxSingleMessageSize * k < 2 ^ 32) :
    MultiblockIo.partOffset cfg (UInt32.ofNat k) = cfg.maxSingleMessageSize * k := by
  have hmax := cfg.maxSingleMessageSize_lt
  rw [MultiblockIo.partOffset, UInt32.toNat_mul, UInt32.toNat_ofNat', UInt32.toNat_ofNat',
    ← Nat.mul_mod, Nat.mod_eq_of_lt h]

/-- A part extends the content by its block. -/
theorem append_partialBuffer
    (cfg : Config)
    (multiblockId : UInt64)
    (data : Bytes)
    (waiting : List (Option Bytes))
    {k : Nat}
    (hk : cfg.maxSingleMessageSize * k < data.length)
    (hlength : data.length ≤ 2 ^ 32) :
    Incoming.append (UInt64.ofNat data.length) multiblockId (UInt32.ofNat k)
        ((data.drop (MultiblockIo.partOffset cfg (UInt32.ofNat k))).take
          (MultiblockIo.currentMessageSize cfg (data.length - cfg.maxSingleMessageSize * k)))
        ⟨partialBuffer cfg multiblockId data k, waiting⟩ =
      ⟨partialBuffer cfg multiblockId data (k + 1), waiting⟩ := by
  have hpos := cfg.positive
  have hkle : k ≤ cfg.maxSingleMessageSize * k := Nat.le_mul_of_pos_left k hpos
  have hpart : UInt32.ofNat k = 0 ↔ k = 0 := by
    rw [← UInt32.toNat_inj, UInt32.toNat_ofNat']
    simp only [UInt32.toNat_zero]
    omega
  have hcontent : data.take (cfg.maxSingleMessageSize * k) ++
      (data.drop (cfg.maxSingleMessageSize * k)).take
        (MultiblockIo.currentMessageSize cfg (data.length - cfg.maxSingleMessageSize * k)) =
        data.take (cfg.maxSingleMessageSize * (k + 1)) := by
    rw [← List.take_add, Nat.mul_succ]
    unfold MultiblockIo.currentMessageSize
    split
    · rw [List.take_of_length_le (by omega), List.take_of_length_le (by omega)]
    · rfl
  rw [partOffset_ofNat cfg (by omega), Incoming.append]
  by_cases hzero : k = 0
  · subst hzero
    simpa [partialBuffer, MultiblockIo.addData] using hcontent
  · have hne : ¬ UInt32.ofNat k = 0 := fun h => hzero (hpart.mp h)
    simp [partialBuffer, hne, hzero, MultiblockIo.addData, hcontent]

/-- The number of parts when one more is sent. -/
theorem parts_succ
    (cfg : Config)
    {totalSize : Nat}
    (h : totalSize ≠ 0) :
    (totalSize + cfg.maxSingleMessageSize - 1) / cfg.maxSingleMessageSize =
      1 + (totalSize - MultiblockIo.currentMessageSize cfg totalSize +
        cfg.maxSingleMessageSize - 1) / cfg.maxSingleMessageSize := by
  have hpos := cfg.positive
  unfold MultiblockIo.currentMessageSize
  split
  · rename_i hle
    have hnone : (totalSize - totalSize + cfg.maxSingleMessageSize - 1) /
        cfg.maxSingleMessageSize = 0 :=
      Nat.div_eq_of_lt (by omega)
    rw [hnone]
    exact Nat.div_eq_of_lt_le (by omega) (by omega)
  · rename_i hlt
    have hshift : totalSize + cfg.maxSingleMessageSize - 1 =
        (totalSize - cfg.maxSingleMessageSize + cfg.maxSingleMessageSize - 1) +
          cfg.maxSingleMessageSize := by
      omega
    rw [hshift, Nat.add_div_right _ hpos]
    omega

/-- The parts that are left complete the content, and deliver nothing. -/
theorem receive_outgoingParts
    (cfg : Config)
    (s : SessionRef)
    (multiblockId : UInt64)
    (data : Bytes)
    (waiting : List (Option Bytes))
    (hlength : data.length ≤ 2 ^ 32)
    (totalSize k : Nat)
    (htotal : totalSize = data.length - cfg.maxSingleMessageSize * k) :
    runEvents (Incoming.receive s) ⟨partialBuffer cfg multiblockId data k, waiting⟩
        (MultiblockIo.outgoingParts cfg multiblockId data totalSize (UInt32.ofNat k)) =
      ⟨partialBuffer cfg multiblockId data
        (k + (totalSize + cfg.maxSingleMessageSize - 1) / cfg.maxSingleMessageSize), waiting⟩ ∧
    outputsOf (Incoming.receive s) ⟨partialBuffer cfg multiblockId data k, waiting⟩
        (MultiblockIo.outgoingParts cfg multiblockId data totalSize (UInt32.ofNat k)) = [] := by
  have hpos := cfg.positive
  induction totalSize using Nat.strong_induction_on generalizing k with
  | _ totalSize ih =>
      rw [MultiblockIo.outgoingParts]
      by_cases hzero : totalSize = 0
      · have hdiv : (totalSize + cfg.maxSingleMessageSize - 1) / cfg.maxSingleMessageSize = 0 :=
          Nat.div_eq_of_lt (by omega)
        rw [dif_pos hzero, hdiv]
        exact ⟨rfl, rfl⟩
      · have hcurrent := MultiblockIo.currentMessageSize_pos cfg hzero
        have hrest : totalSize - MultiblockIo.currentMessageSize cfg totalSize =
            data.length - cfg.maxSingleMessageSize * (k + 1) := by
          rw [Nat.mul_succ]
          unfold MultiblockIo.currentMessageSize
          split <;> omega
        have hcount := parts_succ cfg hzero
        have hstep := append_partialBuffer cfg multiblockId data waiting (k := k) (by omega) hlength
        rw [← htotal] at hstep
        have hnext : UInt32.ofNat k + 1 = UInt32.ofNat (k + 1) := by
          rw [UInt32.ofNat_add]
          rfl
        obtain ⟨hend, hout⟩ := ih (totalSize - MultiblockIo.currentMessageSize cfg totalSize)
          (by omega) (k + 1) hrest
        rw [dif_neg hzero, hcount, ← Nat.add_assoc]
        simp only [runEvents, outputsOf, Incoming.receive, hstep, hnext, hend, hout,
          List.append_nil, and_self]

/-- The buffer of a complete message. -/
theorem receive_all_parts
    (cfg : Config)
    (s : SessionRef)
    (multiblockId : UInt64)
    {data : Bytes}
    (waiting : List (Option Bytes))
    (hpos : 1 ≤ data.length)
    (hlength : data.length ≤ 2 ^ 32) :
    runEvents (Incoming.receive s) ⟨none, waiting⟩
        (MultiblockIo.outgoingParts cfg multiblockId data data.length 0) =
      ⟨some
        { multiblockId := multiblockId
          messageSize := UInt64.ofNat data.length
          incomingData := some data }, waiting⟩ ∧
    outputsOf (Incoming.receive s) ⟨none, waiting⟩
        (MultiblockIo.outgoingParts cfg multiblockId data data.length 0) = [] := by
  have hmax := cfg.positive
  obtain ⟨hend, hout⟩ := receive_outgoingParts cfg s multiblockId data waiting hlength data.length 0
    (by simp)
  have hstart : partialBuffer cfg multiblockId data 0 = none := rfl
  have hcounter : UInt32.ofNat 0 = 0 := rfl
  rw [hstart, hcounter] at hend hout
  refine ⟨?_, hout⟩
  rw [hend, Nat.zero_add]
  have hparts : (data.length + cfg.maxSingleMessageSize - 1) / cfg.maxSingleMessageSize ≠ 0 := by
    have := Nat.div_pos (a := data.length + cfg.maxSingleMessageSize - 1) (by omega) hmax
    omega
  have hall : data.length ≤ cfg.maxSingleMessageSize *
      ((data.length + cfg.maxSingleMessageSize - 1) / cfg.maxSingleMessageSize) := by
    have hdiv := Nat.div_add_mod (data.length + cfg.maxSingleMessageSize - 1)
      cfg.maxSingleMessageSize
    have hmod := Nat.mod_lt (data.length + cfg.maxSingleMessageSize - 1) hmax
    omega
  rw [partialBuffer, if_neg hparts, List.take_of_length_le hall]

/-- Alone, the frames of a message deliver its payload once and leave no buffer. -/
theorem receive_outgoingFrames
    (cfg : Config)
    (s : SessionRef)
    (multiblockId blockerId : UInt64)
    {data : Bytes}
    (waiting : List (Option Bytes))
    (hpos : 1 ≤ data.length)
    (hlength : data.length ≤ 2 ^ 32) :
    runEvents (Incoming.receive s) ⟨none, waiting⟩
        (MultiblockIo.outgoingFrames cfg multiblockId data blockerId) =
      (Incoming.deliver s multiblockId blockerId (some data) ⟨none, waiting⟩).1 ∧
    outputsOf (Incoming.receive s) ⟨none, waiting⟩
        (MultiblockIo.outgoingFrames cfg multiblockId data blockerId) =
      (Incoming.deliver s multiblockId blockerId (some data) ⟨none, waiting⟩).2 := by
  obtain ⟨hend, hout⟩ := receive_all_parts cfg s multiblockId waiting hpos hlength
  rw [MultiblockIo.outgoingFrames, runEvents_append, outputsOf_append, hend, hout]
  simp only [runEvents, outputsOf, Incoming.receive, Incoming.deliver]
  split
  · exact ⟨rfl, rfl⟩
  · split
    · exact ⟨rfl, rfl⟩
    · exact ⟨rfl, rfl⟩

/-! ## The frames in the process -/

section Frames

variable {s : SessionRef} {p : Process}

/-- A part in the process. -/
theorem incoming_multiStatic
    (hallocation : ∀ size, p.allocation size = true)
    (messageId : UInt32)
    (totalSize multiblockId : UInt64)
    (totalPartNumber partId : UInt32)
    (data : Bytes)
    (responseId : UInt64)
    (id blockerId : UInt64) :
    let o := (Body.handle s messageId
      (.multiStatic totalSize multiblockId totalPartNumber partId data responseId)).run p
    o.process.incoming s id blockerId =
        (if id = multiblockId then
          (p.incoming s id blockerId).append totalSize multiblockId partId data
        else p.incoming s id blockerId) ∧
      o.outputs = [] ∧
      o.process.allocation = p.allocation := by
  simp only [Body.handle]
  by_cases hpart : partId = 0
  · by_cases hid : id = multiblockId
    · subst hid
      cases hfind : (p.session s).incomingBuffer.find id with
      | none =>
          simp [hpart, hallocation, Process.incoming, Incoming.append, OrderedMap.find_modify,
            OrderedMap.find_emplace, hfind]
      | some buffer =>
          simp [hpart, hallocation, Process.incoming, Incoming.append, OrderedMap.find_modify,
            OrderedMap.find_emplace, hfind]
    · simp [hpart, hallocation, Process.incoming, OrderedMap.find_modify,
        OrderedMap.find_emplace, hid]
  · by_cases hid : id = multiblockId
    · subst hid
      simp [hpart, Process.incoming, Incoming.append, OrderedMap.find_modify]
    · simp [hpart, Process.incoming, OrderedMap.find_modify, hid]

/-- The finish frame in the process. -/
theorem incoming_multiFinish
    (messageId : UInt32)
    (multiblockId responseId : UInt64)
    (id blockerId : UInt64) :
    let o := (Body.handle s messageId (.multiFinish multiblockId responseId)).run p
    let data := ((p.incoming s multiblockId responseId).buffer.getD {}).incomingData
    let own := Incoming.deliver s multiblockId responseId data
      (p.incoming s multiblockId responseId)
    (o.process.incoming s id blockerId).buffer =
        (if id = multiblockId then none else (p.incoming s id blockerId).buffer) ∧
      (o.process.incoming s id blockerId).waiting =
        (if blockerId = responseId then own.1.waiting
        else (p.incoming s id blockerId).waiting) ∧
      o.outputs = own.2 ∧
      o.process.allocation = p.allocation := by
  simp only [Body.handle, Incoming.deliver]
  by_cases hzero : responseId = 0
  · simp only [hzero, bne_self_eq_false, Bool.false_eq_true, if_false, if_true]
    simp [Process.incoming, OrderedMap.find_remove]
    intro hblocker
    rw [hblocker]
  · have hany := MessageBlockerHandler.any_eq_responses responseId p.blockerList
    have hstore := MessageBlockerHandler.responses_storeResponse responseId blockerId
      ((p.incoming s multiblockId responseId).buffer.getD {}).incomingData p.blockerList
    simp only [Process.incoming] at hany hstore
    cases hwaiting : MessageBlockerHandler.responses responseId p.blockerList with
    | nil =>
        by_cases hblocker : blockerId = responseId
        · subst hblocker
          rw [hwaiting] at hstore hany
          simp [hzero, Act.run_bind, Process.incoming, OrderedMap.find_remove, hwaiting, hstore,
            hany]
        · rw [hwaiting] at hany
          simp [hzero, Act.run_bind, Process.incoming, OrderedMap.find_remove, hwaiting, hstore,
            hany, hblocker]
    | cons old rest =>
        by_cases hblocker : blockerId = responseId
        · subst hblocker
          rw [hwaiting] at hstore hany
          simp [hzero, Act.run_bind, Process.incoming, OrderedMap.find_remove, hwaiting, hstore,
            hany]
        · rw [hwaiting] at hany
          simp [hzero, Act.run_bind, Process.incoming, OrderedMap.find_remove, hwaiting, hstore,
            hany, hblocker]

end Frames

/-! ## Many messages -/

/-- A multi-block message that was sent. -/
structure Transfer (cfg : Config) where
  sender : Process
  session : SessionRef
  data : Bytes
  blockerId : UInt64
  sent : ((MultiblockIo.sendOutgoingData cfg session data blockerId).run sender).value ≠ 0
  nonempty : 1 ≤ data.length
  length_le : data.length ≤ 2 ^ 32

namespace Transfer

variable {cfg : Config}

/-- The multiblock id that `sendOutgoingData` chose and returned. -/
def id (t : Transfer cfg) : UInt64 :=
  ((MultiblockIo.sendOutgoingData cfg t.session t.data t.blockerId).run t.sender).value

/-- The frames that `sendOutgoingData` handed to the socket. -/
def bodies (t : Transfer cfg) : List Body :=
  ((MultiblockIo.sendOutgoingData cfg t.session t.data t.blockerId).run t.sender).outputs.filterMap
    (fun o =>
      match o with
      | .sent _ m => some m.body
      | _ => none)

theorem bodies_eq (t : Transfer cfg) :
    t.bodies = MultiblockIo.outgoingFrames cfg t.id t.data t.blockerId := by
  obtain ⟨messages, houtputs, hbodies⟩ := MultiblockIo.sendOutgoingData_outputs t.sent
  rw [bodies, houtputs, id, ← hbodies, List.filterMap_map]
  exact congrFun (List.filterMap_eq_map (f := Message.body)) messages

/-- The delivery of the payload: to the callback, or to the blocked request. -/
def delivery (s : SessionRef) (t : Transfer cfg) : Output :=
  if t.blockerId = 0 then .processRequestData s t.id (some t.data) else .notifyOne t.blockerId

end Transfer

/-- The arrival of a frame: what follows it in the receive buffer, and the memory
behind. -/
structure Arrival (cfg : Config) where
  frame : SentFrame cfg
  rest : Bytes
  beyond : Memory

namespace Arrival

variable {cfg : Config}

def body (a : Arrival cfg) : Body :=
  a.frame.message.body

/-- `processMessage` on the receive buffer that starts with the frame. -/
def step (s : SessionRef) (p : Process) (a : Arrival cfg) : Process × List Output :=
  (((processMessage cfg s ⟨a.frame.bytes ++ a.rest, a.beyond⟩).run p).process,
    ((processMessage cfg s ⟨a.frame.bytes ++ a.rest, a.beyond⟩).run p).outputs)

theorem step_eq (s : SessionRef) (p : Process) (a : Arrival cfg) :
    a.step s p =
      (((a.frame.message.handle s).run p).process, ((a.frame.message.handle s).run p).outputs) := by
  have hresult := processMessage_bytes a.frame.sendable s p a.frame.found a.rest a.beyond
  simp only [Outcome.result, Prod.mk.injEq] at hresult
  obtain ⟨_, hprocess, houtputs⟩ := hresult
  simp only [step, SentFrame.bytes, hprocess, houtputs]

end Arrival

/-- The frames of a message are parts of its id, and its finish frame. -/
theorem mem_outgoingParts
    {cfg : Config}
    {multiblockId : UInt64}
    {data : Bytes}
    {totalSize : Nat}
    {partCounter : UInt32}
    {b : Body}
    (h : b ∈ MultiblockIo.outgoingParts cfg multiblockId data totalSize partCounter) :
    ∃ total number partId part, b = .multiStatic total multiblockId number partId part 0 := by
  induction totalSize using Nat.strong_induction_on generalizing partCounter with
  | _ totalSize ih =>
      rw [MultiblockIo.outgoingParts] at h
      by_cases hzero : totalSize = 0
      · rw [dif_pos hzero] at h
        cases h
      · have hpos := MultiblockIo.currentMessageSize_pos cfg hzero
        rw [dif_neg hzero] at h
        rcases List.mem_cons.mp h with rfl | hrest
        · exact ⟨_, _, _, _, rfl⟩
        · exact ih _ (by omega) hrest

theorem mem_outgoingFrames
    {cfg : Config}
    {multiblockId blockerId : UInt64}
    {data : Bytes}
    {b : Body}
    (h : b ∈ MultiblockIo.outgoingFrames cfg multiblockId data blockerId) :
    (∃ total number partId part, b = .multiStatic total multiblockId number partId part 0) ∨
      b = .multiFinish multiblockId blockerId := by
  rcases List.mem_append.mp h with hpart | hfinish
  · exact Or.inl (mem_outgoingParts hpart)
  · exact Or.inr (List.mem_singleton.mp hfinish)

/-- What the arrival of a frame of a message does. -/
structure ActsOn
    {cfg : Config}
    (s : SessionRef)
    (p : Process)
    (t : Transfer cfg)
    (a : Arrival cfg) : Prop where
  allocation : (a.step s p).1.allocation = p.allocation
  incoming : (a.step s p).1.incoming s t.id t.blockerId =
    ((p.incoming s t.id t.blockerId).receive s a.body).1
  outputs : (a.step s p).2 = ((p.incoming s t.id t.blockerId).receive s a.body).2
  buffer : ∀ id, id ≠ t.id →
    ((a.step s p).1.session s).incomingBuffer.find id = (p.session s).incomingBuffer.find id
  waiting : ∀ blockerId, blockerId ≠ t.blockerId ∨ t.blockerId = 0 →
    MessageBlockerHandler.responses blockerId (a.step s p).1.blockerList =
      MessageBlockerHandler.responses blockerId p.blockerList

theorem arrival_actsOn
    {cfg : Config}
    {s : SessionRef}
    {p : Process}
    {t : Transfer cfg}
    {a : Arrival cfg}
    (hmem : a.body ∈ t.bodies)
    (hallocation : ∀ size, p.allocation size = true) :
    ActsOn s p t a := by
  rw [t.bodies_eq] at hmem
  have hhandle : a.frame.message.handle s = a.body.handle s a.frame.message.messageId := by
    refine Message.handle_of_not_reply ?_ s
    rcases mem_outgoingFrames hmem with ⟨total, number, partId, part, hstatic⟩ | hfinish
    · rw [← Message.isReply_multiStatic a.frame.message.sessionId a.frame.message.messageId
        total t.id number partId part 0, ← hstatic]
      rfl
    · rw [← Message.isReply_multiFinish a.frame.message.sessionId a.frame.message.messageId
        t.id t.blockerId, ← hfinish]
      rfl
  have hstep : a.step s p =
      (((a.body.handle s a.frame.message.messageId).run p).process,
        ((a.body.handle s a.frame.message.messageId).run p).outputs) := by
    rw [Arrival.step_eq, hhandle]
  rcases mem_outgoingFrames hmem with ⟨total, number, partId, part, hstatic⟩ | hfinish
  · have hact := incoming_multiStatic (s := s) hallocation a.frame.message.messageId total t.id
      number partId part 0
    rw [hstatic] at hstep
    refine ⟨?_, ?_, ?_, ?_, ?_⟩
    · rw [hstep]
      exact (hact t.id t.blockerId).2.2
    · rw [hstep, (hact t.id t.blockerId).1, if_pos rfl, hstatic]
      rfl
    · rw [hstep, hstatic]
      exact (hact t.id t.blockerId).2.1
    · intro id hne
      have hother := (hact id t.blockerId).1
      rw [if_neg hne] at hother
      rw [hstep]
      exact congrArg Incoming.buffer hother
    · intro blockerId _
      have hother := congrArg Incoming.waiting (hact t.id blockerId).1
      rw [if_pos rfl] at hother
      rw [hstep]
      exact hother
  · have hact := incoming_multiFinish (s := s) (p := p) a.frame.message.messageId t.id t.blockerId
    rw [hfinish] at hstep
    refine ⟨?_, ?_, ?_, ?_, ?_⟩
    · rw [hstep]
      exact (hact t.id t.blockerId).2.2.2
    · obtain ⟨hbuffer, hwaiting, _, _⟩ := hact t.id t.blockerId
      rw [if_pos rfl] at hbuffer hwaiting
      rw [hstep, hfinish]
      exact Incoming.ext hbuffer hwaiting
    · rw [hstep, hfinish]
      exact (hact t.id t.blockerId).2.2.1
    · intro id hne
      have hbuffer := (hact id t.blockerId).1
      rw [if_neg hne] at hbuffer
      rw [hstep]
      exact hbuffer
    · intro blockerId hblocker
      have hwaiting := (hact t.id blockerId).2.1
      rw [hstep]
      refine hwaiting.trans ?_
      rcases hblocker with hne | hzero
      · rw [if_neg hne]
        rfl
      · split
        · rename_i heq
          rw [Incoming.deliver, if_pos hzero, heq]
          rfl
        · rfl

/-- Messages that can be in transfer to a session at the same time: their ids are
distinct, and every response has a request of its own. -/
structure Concurrent {cfg : Config} (transfers : List (Transfer cfg)) : Prop where
  ids : (transfers.map Transfer.id).Nodup
  responses : ∀ t ∈ transfers, ∀ t' ∈ transfers, t.blockerId ≠ 0 →
    t.blockerId = t'.blockerId → t.id = t'.id

theorem Concurrent.id_ne
    {cfg : Config}
    {transfers : List (Transfer cfg)}
    (h : Concurrent transfers)
    {t t' : Transfer cfg}
    (ht : t ∈ transfers)
    (ht' : t' ∈ transfers)
    (hne : t' ≠ t) :
    t'.id ≠ t.id := by
  intro hid
  exact hne (List.inj_on_of_nodup_map h.ids ht' ht hid)

/-- Frames of different messages act on different parts of the process. -/
theorem transfers_independent
    {cfg : Config}
    (s : SessionRef)
    {transfers : List (Transfer cfg)}
    (hconcurrent : Concurrent transfers)
    {arrivals : Transfer cfg → List (Arrival cfg)}
    (harrivals : ∀ t ∈ transfers, (arrivals t).map Arrival.body = t.bodies) :
    Independent (Arrival.step s)
      (fun (t : Transfer cfg) p => p.incoming s t.id t.blockerId)
      (fun _ x (a : Arrival cfg) => x.receive s a.body)
      (fun p => ∀ size, p.allocation size = true)
      (transfers.map (fun t => (t, arrivals t))) := by
  have hacts : ∀ t ∈ transfers, ∀ a ∈ arrivals t, ∀ p : Process,
      (∀ size, p.allocation size = true) → ActsOn s p t a := by
    intro t ht a ha p hallocation
    refine arrival_actsOn ?_ hallocation
    rw [← harrivals t ht]
    exact List.mem_map_of_mem ha
  constructor
  · intro thread a p hthread ha hallocation
    obtain ⟨t, ht, rfl⟩ := List.mem_map.mp hthread
    rw [(hacts t ht a ha p hallocation).allocation]
    exact hallocation
  · intro thread a p hthread ha hallocation
    obtain ⟨t, ht, rfl⟩ := List.mem_map.mp hthread
    have hact := hacts t ht a ha p hallocation
    exact ⟨hact.incoming, hact.outputs⟩
  · intro thread thread' a p hthread hthread' hne ha hallocation
    obtain ⟨t, ht, rfl⟩ := List.mem_map.mp hthread
    obtain ⟨t', ht', rfl⟩ := List.mem_map.mp hthread'
    have hact := hacts t ht a ha p hallocation
    have hid := hconcurrent.id_ne ht ht' hne
    refine Incoming.ext (hact.buffer _ hid) (hact.waiting _ ?_)
    by_cases hzero : t.blockerId = 0
    · exact Or.inr hzero
    · refine Or.inl ?_
      intro hblocker
      exact hid (hconcurrent.responses t ht t' ht' hzero hblocker.symm).symm

/-- The delivery of a payload, to the callback or to the one waiting entry. -/
theorem Transfer.deliver_eq
    {cfg : Config}
    (s : SessionRef)
    (t : Transfer cfg)
    {waiting : List (Option Bytes)}
    (hwaiting : t.blockerId ≠ 0 → waiting = [none])
    (buffer : Option MultiblockBuffer) :
    Incoming.deliver s t.id t.blockerId (some t.data) ⟨buffer, waiting⟩ =
      (⟨buffer, if t.blockerId = 0 then waiting else [some t.data]⟩, [t.delivery s]) := by
  unfold Incoming.deliver Transfer.delivery
  by_cases hzero : t.blockerId = 0
  · simp only [hzero, if_true]
  · simp only [hzero, if_false, hwaiting hzero]

/-- All parts came before the finish frame. -/
theorem parts_of_finish
    {cfg : Config}
    {multiblockId blockerId : UInt64}
    {data : Bytes}
    {done todo : List Body}
    (h : done ++ .multiFinish multiblockId blockerId :: todo =
      MultiblockIo.outgoingFrames cfg multiblockId data blockerId) :
    done = MultiblockIo.outgoingParts cfg multiblockId data data.length 0 := by
  rcases List.append_eq_append_iff.mp h with ⟨rest, hparts, hrest⟩ | ⟨rest, hdone, hrest⟩
  · cases rest with
    | nil =>
        rw [hparts, List.append_nil]
    | cons b rest =>
        have hb : Body.multiFinish multiblockId blockerId = b := by
          injection hrest
        have hmem : b ∈ MultiblockIo.outgoingParts cfg multiblockId data data.length 0 := by
          rw [hparts]
          exact List.mem_append_right _ List.mem_cons_self
        obtain ⟨_, _, _, _, hstatic⟩ := mem_outgoingParts hmem
        rw [← hb] at hstatic
        cases hstatic
  · cases rest with
    | nil =>
        rw [hdone, List.append_nil]
    | cons b rest =>
        have hlength := congrArg List.length hrest
        simp at hlength

/-- A frame does not touch the buffer of another message, and a finish frame
delivers the payload of its message. -/
structure DeliversOwn
    {cfg : Config}
    (s : SessionRef)
    (transfers : List (Transfer cfg))
    (p : Process)
    (a : Arrival cfg) : Prop where
  own : ∃ t ∈ transfers, a.body ∈ t.bodies ∧
    ∀ id, id ≠ t.id →
      (((a.step s p).1.session s).incomingBuffer).find id =
        ((p.session s).incomingBuffer).find id
  finish : ∀ t ∈ transfers, a.body = .multiFinish t.id t.blockerId →
    (a.step s p).2 = [t.delivery s] ∧
      (t.blockerId ≠ 0 →
        MessageBlockerHandler.responses t.blockerId (a.step s p).1.blockerList = [some t.data])

/-- Concurrent multi-block messages do not mix.  In every interleaving of their
frames each message is delivered exactly once with its own payload, by its finish
frame; no frame changes what was collected for another message; and no buffer is
left at the end. -/
theorem transfers_delivered
    (cfg : Config)
    (s : SessionRef)
    (p : Process)
    (transfers : List (Transfer cfg))
    (hconcurrent : Concurrent transfers)
    (hempty : (p.session s).incomingBuffer = ∅)
    (hallocation : ∀ size, p.allocation size = true)
    (hwaiting : ∀ t ∈ transfers, t.blockerId ≠ 0 →
      MessageBlockerHandler.responses t.blockerId p.blockerList = [none])
    (arrivals : Transfer cfg → List (Arrival cfg))
    (harrivals : ∀ t ∈ transfers, (arrivals t).map Arrival.body = t.bodies)
    (arrived : List (Arrival cfg))
    (hinterleaving : Interleaving (transfers.map arrivals) arrived) :
    AllAlong (Arrival.step s) (DeliversOwn s transfers) p arrived ∧
    (outputsOf (Arrival.step s) p arrived).Perm (transfers.map (Transfer.delivery s)) ∧
    (∀ t ∈ transfers, t.blockerId ≠ 0 →
      MessageBlockerHandler.responses t.blockerId
        (runEvents (Arrival.step s) p arrived).blockerList = [some t.data]) ∧
    ((runEvents (Arrival.step s) p arrived).session s).incomingBuffer = ∅ := by
  have hindependent := transfers_independent s hconcurrent harrivals
  have hnodup : ((transfers.map (fun t => (t, arrivals t))).map Prod.fst).Nodup := by
    have hkeys : (transfers.map (fun t => (t, arrivals t))).map Prod.fst = transfers := by
      rw [List.map_map]
      exact List.map_id transfers
    rw [hkeys]
    exact List.Nodup.of_map _ hconcurrent.ids
  have hthreads : Interleaving ((transfers.map (fun t => (t, arrivals t))).map Prod.snd)
      arrived := by
    rw [List.map_map]
    exact hinterleaving
  have hstart : ∀ t : Transfer cfg, p.incoming s t.id t.blockerId =
      ⟨none, MessageBlockerHandler.responses t.blockerId p.blockerList⟩ := by
    intro t
    simp [Process.incoming, hempty]
  have halone : ∀ t ∈ transfers,
      runEvents (fun x (a : Arrival cfg) => Incoming.receive s x a.body)
          (p.incoming s t.id t.blockerId) (arrivals t) =
        ⟨none, if t.blockerId = 0 then MessageBlockerHandler.responses t.blockerId p.blockerList
          else [some t.data]⟩ ∧
      outputsOf (fun x (a : Arrival cfg) => Incoming.receive s x a.body)
          (p.incoming s t.id t.blockerId) (arrivals t) = [t.delivery s] := by
    intro t ht
    obtain ⟨hend, hout⟩ := receive_outgoingFrames cfg s t.id t.blockerId
      (MessageBlockerHandler.responses t.blockerId p.blockerList) t.nonempty t.length_le
    rw [runEvents_map, outputsOf_map, harrivals t ht, t.bodies_eq, hstart, hend, hout,
      t.deliver_eq s (hwaiting t ht)]
    exact ⟨rfl, rfl⟩
  have halong : AllAlong (Arrival.step s) (DeliversOwn s transfers) p arrived := by
    refine hindependent.allAlong hthreads hnodup hallocation ?_
    intro thread hthread done a todo hsplit q hq hview
    obtain ⟨t, ht, rfl⟩ := List.mem_map.mp hthread
    simp only at hsplit hview
    have hbodies : done.map Arrival.body ++ a.body :: todo.map Arrival.body = t.bodies := by
      rw [← harrivals t ht, hsplit, List.map_append, List.map_cons]
    have hmem : a.body ∈ t.bodies := by
      rw [← hbodies]
      exact List.mem_append_right _ List.mem_cons_self
    have hact := arrival_actsOn (s := s) hmem hq
    refine ⟨⟨t, ht, hmem, hact.buffer⟩, ?_⟩
    intro t' ht' hfinish
    have hsame : t' = t := by
      rw [t.bodies_eq] at hmem
      by_contra hne
      rcases mem_outgoingFrames hmem with ⟨_, _, _, _, hstatic⟩ | hown
      · rw [hfinish] at hstatic
        cases hstatic
      · rw [hfinish] at hown
        injection hown with hid
        exact hconcurrent.id_ne ht ht' hne hid
    subst hsame
    rw [hfinish, t'.bodies_eq] at hbodies
    rw [runEvents_map, parts_of_finish hbodies, hstart,
      (receive_all_parts cfg s t'.id _ t'.nonempty t'.length_le).1] at hview
    have hreceive : (q.incoming s t'.id t'.blockerId).receive s a.body =
        (⟨none, if t'.blockerId = 0 then
            MessageBlockerHandler.responses t'.blockerId p.blockerList
          else [some t'.data]⟩, [t'.delivery s]) := by
      rw [hview, hfinish]
      simp only [Incoming.receive, Option.getD_some]
      rw [t'.deliver_eq s (hwaiting t' ht')]
    refine ⟨?_, ?_⟩
    · rw [hact.outputs, hreceive]
    · intro hblocker
      have hafter := congrArg Incoming.waiting hact.incoming
      rw [hreceive] at hafter
      simpa [Process.incoming, hblocker] using hafter
  obtain ⟨_, hviews⟩ := hindependent.view_runEvents hthreads hnodup hallocation
  have hends : ∀ t ∈ transfers,
      (runEvents (Arrival.step s) p arrived).incoming s t.id t.blockerId =
        ⟨none, if t.blockerId = 0 then MessageBlockerHandler.responses t.blockerId p.blockerList
          else [some t.data]⟩ := by
    intro t ht
    exact (hviews _ (List.mem_map_of_mem ht)).trans (halone t ht).1
  refine ⟨halong, ?_, ?_, ?_⟩
  · refine (hindependent.outputs_perm hthreads hnodup hallocation).trans ?_
    have hdeliveries : (transfers.map (fun t => (t, arrivals t))).flatMap
        (fun thread => outputsOf (fun x (a : Arrival cfg) => Incoming.receive s x a.body)
          (p.incoming s thread.1.id thread.1.blockerId) thread.2) =
        transfers.map (Transfer.delivery s) := by
      rw [List.flatMap_map, List.map_eq_flatMap]
      refine List.flatMap_congr ?_
      intro t ht
      exact (halone t ht).2
    exact List.Perm.of_eq hdeliveries
  · intro t ht hblocker
    have hend := congrArg Incoming.waiting (hends t ht)
    simpa [Process.incoming, hblocker] using hend
  · refine OrderedMap.eq_empty_of_find _ ?_
    intro id
    by_cases hid : id ∈ transfers.map Transfer.id
    · obtain ⟨t, ht, rfl⟩ := List.mem_map.mp hid
      exact congrArg Incoming.buffer (hends t ht)
    · have hkept := halong.runEvents_eq (fun q => (q.session s).incomingBuffer.find id) ?_
      · rw [hkept, hempty]
        simp
      · intro q a hdelivers
        obtain ⟨t, ht, _, hother⟩ := hdelivers.own
        refine hother id ?_
        intro heq
        exact hid (heq ▸ List.mem_map_of_mem ht)

/-! ## Two messages at once -/

/-- One byte, sent as a request or as a response. -/
def oneByteTransfer (randCount : Nat) (byte : UInt8) (blockerId : UInt64) :
    Transfer Config.default where
  sender := { readyProcess with randCount := randCount }
  session := 0
  data := [byte]
  blockerId := blockerId
  sent := by
    have hvalue := MultiblockIo.sendOutgoingData_of_sends Config.default [byte] blockerId
      (s := 0) (p := { readyProcess with randCount := randCount }) (readyProcess_sends 0) rfl
    rw [hvalue]
    exact (readyProcess.randIds randCount).property
  nonempty := by simp
  length_le := by simp

theorem oneByteTransfer_id (randCount : Nat) (byte : UInt8) (blockerId : UInt64) :
    (oneByteTransfer randCount byte blockerId).id = readyProcess.randIds randCount :=
  MultiblockIo.sendOutgoingData_of_sends _ _ _ (readyProcess_sends 0) rfl

theorem oneByteTransfer_bodies (randCount : Nat) (byte : UInt8) (blockerId : UInt64) :
    (oneByteTransfer randCount byte blockerId).bodies =
      [.multiStatic 1 (readyProcess.randIds randCount) 1 0 [byte] 0,
        .multiFinish (readyProcess.randIds randCount) blockerId] := by
  rw [Transfer.bodies_eq, oneByteTransfer_id]
  rw [MultiblockIo.outgoingFrames, MultiblockIo.outgoingParts, MultiblockIo.outgoingParts]
  simp [oneByteTransfer, MultiblockIo.currentMessageSize, Config.default,
    MultiblockIo.partOffset]

/-- The arrival of a part or of a finish frame. -/
def partArrival (id : UInt64) (byte : UInt8) : Arrival Config.default where
  frame :=
    { found := fun _ => 0
      message := ⟨1, 1, .multiStatic 1 id 1 0 [byte] 0⟩
      sendable := by simp [Body.Sendable, Config.default] }
  rest := []
  beyond := fun _ => 0

def finishArrival (id blockerId : UInt64) : Arrival Config.default where
  frame :=
    { found := fun _ => 0
      message := ⟨1, 2, .multiFinish id blockerId⟩
      sendable := trivial }
  rest := []
  beyond := fun _ => 0

/-- A request and a response of one byte each, the frames of which alternate. -/
theorem transfers_delivered_alternating :
    let request := oneByteTransfer 2 10 0
    let response := oneByteTransfer 3 20 7
    let p : Process :=
      { readyProcess with
        blockerList := [{ session := 0, blockerId := 7, timer := 5 }] }
    let arrived := [partArrival 2 10, partArrival 3 20, finishArrival 2 0, finishArrival 3 7]
    AllAlong (Arrival.step 0) (DeliversOwn 0 [request, response]) p arrived ∧
    (outputsOf (Arrival.step 0) p arrived).Perm
      ([request, response].map (Transfer.delivery 0)) ∧
    (∀ t ∈ [request, response], t.blockerId ≠ 0 →
      MessageBlockerHandler.responses t.blockerId
        (runEvents (Arrival.step 0) p arrived).blockerList = [some t.data]) ∧
    ((runEvents (Arrival.step 0) p arrived).session 0).incomingBuffer = ∅ := by
  intro request response p arrived
  have hrequest : request.id = 2 := oneByteTransfer_id 2 10 0
  have hresponse : response.id = 3 := oneByteTransfer_id 3 20 7
  refine transfers_delivered Config.default 0 p [request, response] ?_ rfl (fun _ => rfl) ?_
    (fun t => if t.id = 2 then [partArrival 2 10, finishArrival 2 0]
      else [partArrival 3 20, finishArrival 3 7]) ?_ arrived ?_
  · constructor
    · simp [hrequest, hresponse]
    · intro t ht t' ht' hblocker hsame
      simp only [List.mem_cons, List.not_mem_nil, or_false] at ht ht'
      rcases ht with rfl | rfl
      · exact absurd rfl hblocker
      · rcases ht' with rfl | rfl
        · cases hsame
        · rfl
  · intro t ht hblocker
    simp only [List.mem_cons, List.not_mem_nil, or_false] at ht
    rcases ht with rfl | rfl
    · exact absurd rfl hblocker
    · rfl
  · intro t ht
    simp only [List.mem_cons, List.not_mem_nil, or_false] at ht
    rcases ht with rfl | rfl
    · rw [oneByteTransfer_bodies, if_pos hrequest]
      rfl
    · rw [oneByteTransfer_bodies, if_neg (by rw [hresponse]; decide)]
      rfl
  · simp only [List.map_cons, List.map_nil, hrequest, hresponse, if_true]
    rw [if_neg (by decide)]
    refine Interleaving.take_at [] _ _ _ _ ?_
    refine Interleaving.take_at [[finishArrival 2 0]] _ _ _ [] ?_
    refine Interleaving.take_at [] _ _ _ _ ?_
    refine Interleaving.take_at [[]] _ _ _ [] ?_
    exact .done (by simp)

end SakuraNetwork

import SakuraNetwork.RequestIsolation
import SakuraNetwork.Runs

/-!
# Complete multi-block messages

A part announces the total size and the number of parts of its message, and its own
place among them.  The receiver looks at the place only to see part 0: a buffer is
created for it, every part is appended to the buffer of its id, and the finish frame
hands on whatever there is.

* `assembled_eq`: the buffer of an id is made of the parts since its last finish frame.
* `delivered_complete_iff`: what is handed on is complete exactly when the parts came
  complete and in order.
* `receiving_other`: operations that may come in between.
-/

namespace SakuraNetwork

open Lib

/-! ## Parts and finish frames -/

/-- A part of a multi-block message. -/
structure Part where
  multiblockId : UInt64
  totalSize : UInt64
  totalPartNumber : UInt32
  partId : UInt32
  payload : Bytes

/-- A part, or a finish frame; a finish frame may answer a request. -/
inductive MultiFrame where
  | part (f : Part)
  | finish (multiblockId : UInt64) (response : Option UInt64)

/-- The part or the finish frame in a frame of the multi-block type. -/
def multiFrameOf (header : CommonMessageHeader) (rawMessage : Memory) : Option MultiFrame :=
  if header.subType = MultiblockDataSubType.static.code then
    some (.part
      { multiblockId := UInt64.ofNat (rawMessage.word 40 8)
        totalSize := UInt64.ofNat (rawMessage.word 32 8)
        totalPartNumber := UInt32.ofNat (rawMessage.word 48 4)
        partId := UInt32.ofNat (rawMessage.word 52 4)
        payload := rawMessage.slice 56 (UInt32.ofNat (rawMessage.word 28 4)).toNat })
  else if header.subType = MultiblockDataSubType.finish.code then
    some (.finish (UInt64.ofNat (rawMessage.word 32 8))
      (if rawMessage 7 &&& 0x8 ≠ 0 then some (UInt64.ofNat (rawMessage.word 40 8)) else none))
  else none

/-- The part or the finish frame at the front of a buffer. -/
def RingBuffer.multiFrame (buf : RingBuffer) : Option MultiFrame :=
  match buf.obtained with
  | .frame header rawMessage =>
      if header.type = MessageType.multiblockData.code then multiFrameOf header rawMessage
      else none
  | _ => none

/-- The buffers of a session after a part or a finish frame. -/
def MultiFrame.buffers
    (allocation : UInt64 → Bool)
    (buffers : OrderedMap UInt64 MultiblockBuffer) : MultiFrame → OrderedMap UInt64 MultiblockBuffer
  | .part f =>
      let created :=
        if f.partId = 0 ∧ allocation f.totalSize = true then
          buffers.emplace f.multiblockId
            { multiblockId := f.multiblockId
              messageSize := f.totalSize
              incomingData := some [] }
        else buffers
      created.modify f.multiblockId (MultiblockIo.addData f.payload)
  | .finish multiblockId _ => buffers.remove multiblockId

theorem RingBuffer.incomingBuffer_of_multiFrame
    {buf : RingBuffer}
    {f : MultiFrame}
    (h : buf.multiFrame = some f)
    (allocation : UInt64 → Bool)
    (x : Session) :
    buf.incomingBuffer allocation x = f.buffers allocation x.incomingBuffer := by
  unfold RingBuffer.multiFrame at h
  unfold RingBuffer.incomingBuffer
  cases hobtained : buf.obtained with
  | frame header rawMessage =>
      simp only [hobtained] at h
      by_cases htype : header.type = MessageType.multiblockData.code
      · rw [if_pos htype] at h
        simp only
        rw [buffersOf, if_pos htype]
        unfold multiFrameOf at h
        by_cases hstatic : header.subType = MultiblockDataSubType.static.code
        · rw [if_pos hstatic] at h
          rw [if_pos hstatic]
          cases h
          rfl
        · rw [if_neg hstatic] at h
          rw [if_neg hstatic]
          by_cases hfinish : header.subType = MultiblockDataSubType.finish.code
          · rw [if_pos hfinish] at h
            rw [if_pos hfinish]
            cases h
            rfl
          · rw [if_neg hfinish] at h
            cases h
      · rw [if_neg htype] at h
        cases h
  | _ =>
      simp only [hobtained] at h
      cases h

/-! ## The buffer of an id -/

/-- A part that was received, and whether a buffer of its total size could be
allocated then. -/
structure ReceivedPart extends Part where
  allocated : Bool

/-- The content of a buffer, if there is one, after a part. -/
def appendPart (content : Option Bytes) (r : ReceivedPart) : Option Bytes :=
  match content with
  | some data => some (data ++ r.payload)
  | none => if r.partId = 0 ∧ r.allocated = true then some r.payload else none

/-- The content of the buffer that the parts of an id leave. -/
def assembled (parts : List ReceivedPart) : Option Bytes :=
  parts.foldl appendPart none

theorem assembled_concat (parts : List ReceivedPart) (r : ReceivedPart) :
    assembled (parts ++ [r]) = appendPart (assembled parts) r := by
  rw [assembled, List.foldl_append]
  rfl

/-- Once there is a buffer, every part is appended. -/
theorem foldl_appendPart_some (parts : List ReceivedPart) (data : Bytes) :
    parts.foldl appendPart (some data) = some (data ++ parts.flatMap (fun r => r.payload)) := by
  induction parts generalizing data with
  | nil =>
      simp
  | cons r parts ih =>
      rw [List.foldl_cons, appendPart, ih, List.flatMap_cons, List.append_assoc]

/-- Without a part 0 there is no buffer. -/
theorem foldl_appendPart_none
    {parts : List ReceivedPart}
    (h : ∀ r ∈ parts, ¬ (r.partId = 0 ∧ r.allocated = true)) :
    parts.foldl appendPart none = none := by
  induction parts with
  | nil =>
      rfl
  | cons r parts ih =>
      have hr := h r List.mem_cons_self
      rw [List.foldl_cons, appendPart, if_neg hr]
      exact ih fun r' hr' => h r' (List.mem_cons_of_mem _ hr')

/-! ## Complete messages -/

/-- The parts came in the order of their places, each once, as many as the first one
announces. -/
def InOrder (first : ReceivedPart) (parts : List ReceivedPart) : Prop :=
  parts.map (fun r => r.partId.toNat) = List.range first.totalPartNumber.toNat

/-- The data are the payloads of parts 0 up to the announced number, each received
once and in this order, and have the announced size. -/
def Complete (parts : List ReceivedPart) (data : Option Bytes) : Prop :=
  ∃ first rest bytes, parts = first :: rest ∧ data = some bytes ∧ InOrder first parts ∧
    bytes = parts.flatMap (fun r => r.payload) ∧ bytes.length = first.totalSize.toNat

/-- The parts came in order, their payloads have the announced size together, and a
buffer could be allocated. -/
def ArrivedWhole (parts : List ReceivedPart) : Prop :=
  ∃ first rest, parts = first :: rest ∧ InOrder first parts ∧ first.allocated = true ∧
    (parts.flatMap (fun r => r.payload)).length = first.totalSize.toNat

/-- In order, part 0 comes first and does not come again. -/
theorem InOrder.part_zero
    {first : ReceivedPart}
    {rest : List ReceivedPart}
    (h : InOrder first (first :: rest)) :
    first.partId = 0 ∧ ∀ r ∈ rest, r.partId ≠ 0 := by
  unfold InOrder at h
  cases hcount : first.totalPartNumber.toNat with
  | zero =>
      rw [hcount] at h
      cases h
  | succ n =>
      rw [hcount, List.range_succ_eq_map, List.map_cons, List.cons.injEq] at h
      refine ⟨UInt32.toNat_inj.mp h.1, ?_⟩
      intro r hr hzero
      have hplace : r.partId.toNat ∈ rest.map (fun r => r.partId.toNat) :=
        List.mem_map_of_mem hr
      rw [h.2, hzero] at hplace
      obtain ⟨k, _, hk⟩ := List.mem_map.mp hplace
      exact absurd hk (Nat.succ_ne_zero k)

/-- What is assembled is complete exactly when the parts arrived whole. -/
theorem complete_assembled_iff (parts : List ReceivedPart) :
    Complete parts (assembled parts) ↔ ArrivedWhole parts := by
  constructor
  · rintro ⟨first, rest, bytes, rfl, hdata, horder, hbytes, hsize⟩
    obtain ⟨hfirst, hrest⟩ := horder.part_zero
    refine ⟨first, rest, rfl, horder, ?_, by rw [← hbytes, hsize]⟩
    by_contra hallocated
    have hnone : assembled (first :: rest) = none := by
      refine foldl_appendPart_none ?_
      intro r hr hzero
      rcases List.mem_cons.mp hr with rfl | hr
      · exact hallocated hzero.2
      · exact hrest r hr hzero.1
    rw [hnone] at hdata
    cases hdata
  · rintro ⟨first, rest, rfl, horder, hallocated, hsize⟩
    obtain ⟨hfirst, _⟩ := horder.part_zero
    refine ⟨first, rest, _, rfl, ?_, horder, rfl, hsize⟩
    rw [assembled, List.foldl_cons, appendPart, if_pos ⟨hfirst, hallocated⟩,
      foldl_appendPart_some]
    rfl

/-! ## A session that receives multi-block messages -/

/-- The parts of every id since its last finish frame, after a frame. -/
def MultiFrame.receivedAfter
    (allocation : UInt64 → Bool)
    (received : UInt64 → List ReceivedPart) : MultiFrame → UInt64 → List ReceivedPart
  | .part f =>
      Function.update received f.multiblockId
        (received f.multiblockId ++ [{ f with allocated := allocation f.totalSize }])
  | .finish multiblockId _ => Function.update received multiblockId []

/-- A process, and the parts a session of it received of every id since the last
finish frame of the id. -/
structure Receiving where
  process : Process
  received : UInt64 → List ReceivedPart := fun _ => []

inductive ReceivingEvent where
  /-- The session processes a part or a finish frame. -/
  | receive (buf : RingBuffer)
  /-- Anything else happens in the process; the buffers of the session stay. -/
  | other (q : Process)

/-- The parts and finish frames that a session receives, with anything in between. -/
def receiving (cfg : Config) (s : SessionRef) : TransitionSystem Receiving ReceivingEvent where
  init := fun c => (c.process.session s).incomingBuffer = ∅ ∧ ∀ id, c.received id = []
  step := fun c e =>
    match e with
    | .receive buf => buf.multiFrame.map fun f =>
        { process := ((processMessage cfg s buf).run c.process).process
          received := f.receivedAfter c.process.allocation c.received }
    | .other q => some { c with
        process := q.modifySession s fun x =>
          { x with incomingBuffer := (c.process.session s).incomingBuffer } }

/-- The buffers are what the parts since the last finish frames leave. -/
def Assembles (received : UInt64 → List ReceivedPart)
    (buffers : OrderedMap UInt64 MultiblockBuffer) : Prop :=
  ∀ id, (buffers.find id).map MultiblockBuffer.incomingData = (assembled (received id)).map some

/-- The data of the buffer of an id, or the null pointer. -/
theorem Assembles.incomingData
    {received : UInt64 → List ReceivedPart}
    {buffers : OrderedMap UInt64 MultiblockBuffer}
    (h : Assembles received buffers)
    (id : UInt64) :
    ((buffers.find id).getD {}).incomingData = assembled (received id) := by
  have hid := h id
  cases hfind : buffers.find id with
  | none =>
      rw [hfind] at hid
      cases hassembled : assembled (received id) with
      | none => rfl
      | some data =>
          rw [hassembled] at hid
          cases hid
  | some b =>
      rw [hfind] at hid
      cases hassembled : assembled (received id) with
      | none =>
          rw [hassembled] at hid
          cases hid
      | some data =>
          rw [hassembled] at hid
          exact Option.some.inj hid

theorem Assembles.part
    {received : UInt64 → List ReceivedPart}
    {buffers : OrderedMap UInt64 MultiblockBuffer}
    (h : Assembles received buffers)
    (allocation : UInt64 → Bool)
    (f : Part) :
    Assembles ((MultiFrame.part f).receivedAfter allocation received)
      ((MultiFrame.part f).buffers allocation buffers) := by
  intro id
  have hid := h f.multiblockId
  simp only [MultiFrame.receivedAfter, MultiFrame.buffers]
  rw [OrderedMap.find_modify]
  by_cases hsame : id = f.multiblockId
  · subst hsame
    rw [if_pos rfl, Function.update_self, assembled_concat]
    cases hfind : buffers.find f.multiblockId with
    | none =>
        rw [hfind] at hid
        have hnone : assembled (received f.multiblockId) = none := by
          cases hassembled : assembled (received f.multiblockId) with
          | none => rfl
          | some data =>
              rw [hassembled] at hid
              cases hid
        rw [hnone, appendPart]
        by_cases hcreate : f.partId = 0 ∧ allocation f.totalSize = true
        · rw [if_pos hcreate, if_pos hcreate, OrderedMap.find_emplace, if_pos ⟨rfl, hfind⟩]
          rfl
        · rw [if_neg hcreate, if_neg hcreate, hfind]
          rfl
    | some b =>
        rw [hfind] at hid
        cases hassembled : assembled (received f.multiblockId) with
        | none =>
            rw [hassembled] at hid
            cases hid
        | some data =>
            rw [hassembled] at hid
            have hdata : b.incomingData = some data := Option.some.inj hid
            have hkept : (if f.partId = 0 ∧ allocation f.totalSize = true then
                buffers.emplace f.multiblockId
                  { multiblockId := f.multiblockId
                    messageSize := f.totalSize
                    incomingData := some [] }
                else buffers).find f.multiblockId = some b := by
              split
              · rw [OrderedMap.find_emplace, if_neg (by simp [hfind]), hfind]
              · exact hfind
            rw [hkept]
            simp [MultiblockIo.addData, hdata, appendPart]
  · rw [if_neg hsame, Function.update_of_ne hsame, ← h id]
    split
    · rw [OrderedMap.find_emplace, if_neg fun hemplace => hsame hemplace.1]
    · rfl

theorem Assembles.finish
    {received : UInt64 → List ReceivedPart}
    {buffers : OrderedMap UInt64 MultiblockBuffer}
    (h : Assembles received buffers)
    (allocation : UInt64 → Bool)
    (multiblockId : UInt64)
    (response : Option UInt64) :
    Assembles ((MultiFrame.finish multiblockId response).receivedAfter allocation received)
      ((MultiFrame.finish multiblockId response).buffers allocation buffers) := by
  intro id
  simp only [MultiFrame.receivedAfter, MultiFrame.buffers]
  rw [OrderedMap.find_remove]
  by_cases hsame : id = multiblockId
  · subst hsame
    rw [if_pos rfl, Function.update_self]
    rfl
  · rw [if_neg hsame, Function.update_of_ne hsame, ← h id]

/-- In every run the buffers are what the parts leave. -/
theorem assembled_eq
    {cfg : Config}
    {s : SessionRef}
    {c : Receiving}
    (hrun : (receiving cfg s).Reachable c) :
    Assembles c.received (c.process.session s).incomingBuffer := by
  refine @TransitionSystem.Reaches.invariant _ _ _ _
    (fun c => Assembles c.received (c.process.session s).incomingBuffer) ?_ ?_ c hrun
  · rintro c ⟨hempty, hnone⟩ id
    rw [hempty, hnone id, OrderedMap.find_empty]
    rfl
  · intro c e c' hc _ hstep
    cases e with
    | receive buf =>
        obtain ⟨f, hframe, rfl⟩ := Option.map_eq_some_iff.mp hstep
        rw [(data_processMessage cfg s buf c.process).2,
          RingBuffer.incomingBuffer_of_multiFrame hframe]
        cases f with
        | part f => exact hc.part c.process.allocation f
        | finish multiblockId response =>
            exact hc.finish c.process.allocation multiblockId response
    | other q =>
        cases hstep
        simp only [Process.modifySession_same]
        exact hc

/-! ## What is handed on -/

/-- The data were handed to the request callback, or to a blocked request that was
woken. -/
def Outcome.HandsOn {α : Type} (o : Outcome α) (data : Option Bytes) : Prop :=
  (∃ s id, .processRequestData s id data ∈ o.outputs) ∨
    ∃ blockerId b, .notifyOne blockerId ∈ o.outputs ∧
      o.process.blockerList.find? (fun e => e.blockerId == blockerId) = some b ∧
        b.responseData = data

/-- Somebody takes the data: the application, or the request that waits for them. -/
def Process.Takes (p : Process) (response : Option UInt64) : Prop :=
  ∀ blockerId, response = some blockerId →
    p.blockerList.any (fun b => b.blockerId == blockerId) = true

/-- The first entry of the id has the data. -/
theorem find_storeResponse
    {blockerId : UInt64}
    {l : List MessageBlocker}
    (h : l.any (fun b => b.blockerId == blockerId) = true)
    (data : Option Bytes) :
    ∃ b, (MessageBlockerHandler.storeResponse blockerId data l).find?
      (fun e => e.blockerId == blockerId) = some b ∧ b.responseData = data := by
  induction l with
  | nil => cases h
  | cons e l ih =>
      by_cases he : (e.blockerId == blockerId) = true
      · refine ⟨{ e with responseData := data }, ?_, rfl⟩
        rw [MessageBlockerHandler.storeResponse, if_pos he]
        exact List.find?_cons_of_pos he
      · rw [List.any_cons, Bool.or_eq_true] at h
        obtain ⟨b, hb, hdata⟩ := ih (h.resolve_left he)
        refine ⟨b, ?_, hdata⟩
        rw [MessageBlockerHandler.storeResponse, if_neg he, List.find?_cons,
          Bool.eq_false_iff.mpr he]
        exact hb

/-- What is observed, and the blocked requests, when data are handed on. -/
def Process.handOn
    (p : Process)
    (s : SessionRef)
    (multiblockId : UInt64)
    (data : Option Bytes) : Option UInt64 → List Output × List MessageBlocker
  | none => ([.processRequestData s multiblockId data], p.blockerList)
  | some blockerId =>
      (if p.blockerList.any (fun b => b.blockerId == blockerId) then [.notifyOne blockerId] else [],
        MessageBlockerHandler.storeResponse blockerId data p.blockerList)

/-- A finish frame hands on the buffer of its id. -/
theorem processMessage_finish
    (cfg : Config)
    (s : SessionRef)
    {buf : RingBuffer}
    {multiblockId : UInt64}
    {response : Option UInt64}
    (h : buf.multiFrame = some (.finish multiblockId response))
    (p : Process) :
    (((processMessage cfg s buf).run p).outputs,
        ((processMessage cfg s buf).run p).process.blockerList) =
      p.handOn s multiblockId
        (((p.session s).incomingBuffer.find multiblockId).getD {}).incomingData response := by
  unfold RingBuffer.multiFrame at h
  cases hobtained : buf.obtained with
  | frame header rawMessage =>
      simp only [hobtained] at h
      obtain ⟨htype, hframe⟩ := Option.ite_none_right_eq_some.mp h
      unfold multiFrameOf at hframe
      by_cases hstatic : header.subType = MultiblockDataSubType.static.code
      · rw [if_pos hstatic] at hframe
        cases hframe
      · rw [if_neg hstatic] at hframe
        obtain ⟨hfinish, hframe⟩ := Option.ite_none_right_eq_some.mp hframe
        have hby : processByType s header rawMessage =
            some (processDataMultiFinish s rawMessage) := by
          rw [processByType, processMultiBlockDataType, if_neg hstatic, if_pos hfinish]
          simp [htype, MessageType.code]
        obtain ⟨hprocess, houtputs⟩ := processMessage_frame cfg s hobtained hby p
        have hsession : (p.withoutReplied buf).session = p.session := by
          unfold Process.withoutReplied
          split <;> rfl
        have hblockers : (p.withoutReplied buf).blockerList = p.blockerList := by
          unfold Process.withoutReplied
          split <;> rfl
        rw [hprocess, houtputs, processDataMultiFinish_process]
        simp only [Process.modifySession_blockerList, hsession, hblockers]
        injection hframe with hframe
        injection hframe with hid hresponse
        subst hid
        by_cases hflag : rawMessage 7 &&& 0x8 = 0
        · rw [if_neg (not_not_intro hflag)] at hresponse
          subst hresponse
          simp [processDataMultiFinish, hflag, hsession, Process.handOn]
        · rw [if_pos hflag] at hresponse
          subst hresponse
          simp [processDataMultiFinish, hflag, hsession, hblockers, Process.handOn]
  | _ =>
      simp only [hobtained] at h
      cases h

/-- What is handed on at the end of a message is the content of its buffer, if
somebody takes it. -/
theorem handsOn_iff
    {cfg : Config}
    {s : SessionRef}
    {buf : RingBuffer}
    {multiblockId : UInt64}
    {response : Option UInt64}
    (h : buf.multiFrame = some (.finish multiblockId response))
    (p : Process)
    (data : Option Bytes) :
    ((processMessage cfg s buf).run p).HandsOn data ↔
      p.Takes response ∧
        data = (((p.session s).incomingBuffer.find multiblockId).getD {}).incomingData := by
  have hhanded := processMessage_finish cfg s h p
  generalize (((p.session s).incomingBuffer.find multiblockId).getD {}).incomingData = content
    at hhanded ⊢
  have houtputs := congrArg Prod.fst hhanded
  have hblockers := congrArg Prod.snd hhanded
  unfold Outcome.HandsOn
  cases response with
  | none =>
      simp only [Process.handOn] at houtputs
      rw [houtputs]
      simp [Process.Takes]
  | some blockerId =>
      simp only [Process.handOn] at houtputs hblockers
      rw [houtputs, hblockers]
      by_cases htakes : p.blockerList.any (fun b => b.blockerId == blockerId) = true
      · obtain ⟨b, hfind, hdata⟩ := find_storeResponse htakes content
        have hready : p.Takes (some blockerId) := by
          rintro _ ⟨⟩
          exact htakes
        rw [if_pos htakes]
        constructor
        · rintro (⟨r, id, hmem⟩ | ⟨woken, b', hmem, hfind', rfl⟩)
          · cases List.mem_singleton.mp hmem
          · cases List.mem_singleton.mp hmem
            rw [hfind] at hfind'
            cases hfind'
            exact ⟨hready, hdata⟩
        · rintro ⟨_, rfl⟩
          exact Or.inr ⟨blockerId, b, List.mem_singleton.mpr rfl, hfind, hdata⟩
      · have hnobody : ¬ p.Takes (some blockerId) := fun htaken => htakes (htaken blockerId rfl)
        simp [htakes, hnobody]

/-- Whatever came before, what is handed on at the end of a message is complete
exactly when the parts since the last finish frame of its id arrived whole, or nobody
takes it. -/
theorem delivered_complete_iff
    {cfg : Config}
    {s : SessionRef}
    {c : Receiving}
    (hrun : (receiving cfg s).Reachable c)
    {buf : RingBuffer}
    {multiblockId : UInt64}
    {response : Option UInt64}
    (hframe : buf.multiFrame = some (.finish multiblockId response)) :
    (∀ data, ((processMessage cfg s buf).run c.process).HandsOn data →
        Complete (c.received multiblockId) data) ↔
      (c.process.Takes response → ArrivedWhole (c.received multiblockId)) := by
  have hcontent := (assembled_eq hrun).incomingData multiblockId
  rw [← complete_assembled_iff]
  constructor
  · intro hcomplete htakes
    exact hcomplete _ ((handsOn_iff hframe c.process _).mpr ⟨htakes, hcontent.symm⟩)
  · intro harrived data hhands
    obtain ⟨htakes, hdata⟩ := (handsOn_iff hframe c.process data).mp hhands
    rw [hdata, hcontent]
    exact harrived htakes

/-! ## Frames of the library -/

/-- The part or the finish frame a send function writes. -/
def Body.multiFrame : Body → Option MultiFrame
  | .multiStatic totalSize multiblockId totalPartNumber partId data _ =>
      some (.part ⟨multiblockId, totalSize, totalPartNumber, partId, data⟩)
  | .multiFinish multiblockId blockerId =>
      some (.finish multiblockId (if blockerId = 0 then none else some blockerId))
  | _ => none

/-- The receiver sees the part or the finish frame of the sender. -/
theorem multiFrame_bytes
    {cfg : Config}
    {m : Message}
    (hsize : m.body.Sendable cfg)
    (found : Memory)
    (rest : Bytes)
    (beyond : Memory) :
    (RingBuffer.mk (m.bytes found ++ rest) beyond).multiFrame = m.body.multiFrame := by
  have hholds := holds_of_bytes hsize found rest beyond
  have hobtained := (obtainsFrame_bytes hsize found rest beyond).obtained hholds.delimiter
  obtain ⟨sessionId, messageId, body⟩ := m
  rw [RingBuffer.multiFrame, hobtained]
  generalize (RingBuffer.mk ((Message.mk sessionId messageId body).bytes found ++ rest)
    beyond).memory = raw at hholds ⊢
  cases body with
  | multiStatic totalSize multiblockId totalPartNumber partId data blockerId =>
      obtain ⟨hid, htotal, hnumber, hpart, hpayload, hdata⟩ := fields_multiStatic hsize hholds
      simp [Message.commonHeader, Body.type, Body.subType, multiFrameOf, Body.multiFrame, hid,
        htotal, hnumber, hpart, hpayload, hdata]
  | multiFinish multiblockId blockerId =>
      obtain ⟨hid, hblocker, hflags⟩ := fields_multiFinish hholds
      by_cases hzero : blockerId = 0
      · subst hzero
        have hflag : raw 7 = 0 := hflags
        simp [Message.commonHeader, Body.type, Body.subType, multiFrameOf, Body.multiFrame, hid,
          hflag, MultiblockDataSubType.code]
      · have hflag : raw 7 = 8 := by
          rw [hflags, responseFlag_of_ne hzero]
          rfl
        simp [Message.commonHeader, Body.type, Body.subType, multiFrameOf, Body.multiFrame, hid,
          hblocker, hflag, hzero, MultiblockDataSubType.code]
  | _ =>
      simp [Message.commonHeader, Body.type, Body.multiFrame, MessageType.code]

/-! ## The other operations of the process -/

/-- The buffers of a session stay as they are. -/
def keepsBuffers (s : SessionRef) : Effect :=
  keeps s (fun _ => ()) (fun _ => True)

theorem keepsBuffers_data (s r : SessionRef) :
    AdmitsData (keepsBuffers s) r (r ≠ s) (fun _ => True) :=
  keeps_data fun _ _ _ _ => rfl

theorem keepsBuffers_timers (s : SessionRef) : AdmitsTimers (keepsBuffers s) := by
  constructor
  · intro p l
    exact ⟨rfl, by simp⟩
  · intro p l
    exact ⟨rfl, by simp⟩
  · intro p r
    exact (keepsBuffers_data s r).initState p
  · intro p r code text
    exact ⟨rfl, fun _ _ _ _ => trivial⟩
  · intro p id
    exact ⟨rfl, fun _ _ _ _ => trivial⟩

/-- The operation neither receives parts or finish frames on the session, nor creates,
closes or destroys it. -/
def Operation.SparesBuffers (s : SessionRef) (a : Operation) : Prop :=
  a.session ≠ some s ∨
    match a with
    | .receive _ buf => buf.obtained ≠ .falseProtocol ∧ buf.multiFrame = none
    | .stream .. | .normalMessage .. | .request .. | .response .. | .heartbeat _ => True
    | _ => False

/-- A frame without a part or a finish frame leaves the buffers. -/
theorem RingBuffer.incomingBuffer_of_none
    {buf : RingBuffer}
    (hprotocol : buf.obtained ≠ .falseProtocol)
    (h : buf.multiFrame = none)
    (allocation : UInt64 → Bool)
    (x : Session) :
    buf.incomingBuffer allocation x = x.incomingBuffer := by
  unfold RingBuffer.multiFrame at h
  unfold RingBuffer.incomingBuffer
  cases hobtained : buf.obtained with
  | falseProtocol => exact absurd hobtained hprotocol
  | frame header rawMessage =>
      simp only [hobtained] at h
      by_cases htype : header.type = MessageType.multiblockData.code
      · rw [if_pos htype] at h
        unfold multiFrameOf at h
        simp only
        rw [buffersOf, if_pos htype]
        by_cases hstatic : header.subType = MultiblockDataSubType.static.code
        · rw [if_pos hstatic] at h
          cases h
        · rw [if_neg hstatic] at h
          by_cases hfinish : header.subType = MultiblockDataSubType.finish.code
          · rw [if_pos hfinish] at h
            cases h
          · rw [if_neg hstatic, if_neg hfinish]
      · simp only
        rw [buffersOf, if_neg htype]
  | _ => rfl

theorem Operation.SparesBuffers.incomingBuffer
    {s : SessionRef}
    {a : Operation}
    (h : a.SparesBuffers s)
    (cfg : Config)
    (p : Process) :
    (((a.act cfg).run p).process.session s).incomingBuffer = (p.session s).incomingBuffer := by
  have hkept : (a.act cfg).Within (keepsBuffers s) →
      (((a.act cfg).run p).process.session s).incomingBuffer = (p.session s).incomingBuffer :=
    fun hwithin => (Prod.mk.inj (hwithin p).1).1
  have hblock : ∀ r id timeout,
      (MessageBlockerHandler.addBlocker id timeout r).Within (keepsBuffers s) :=
    fun _ _ _ q => (keepsBuffers_timers s).blockerList q _
  have hD := keepsBuffers_data s s
  by_cases hsession : a.session = some s
  · have hspares := h.resolve_left (not_not_intro hsession)
    have hsends : ∀ {α : Type} {x : Act α}, OnlySends s (Body.Carried cfg) x →
        (do let _ ← x : Act Unit).Within (keepsBuffers s) :=
      fun hx => (hx.within hD).bind fun _ => Act.Within.pure ()
    cases a with
    | receive r buf =>
        cases hsession
        have hdata := (data_processMessage cfg s buf p).2
        rw [RingBuffer.incomingBuffer_of_none hspares.1 hspares.2] at hdata
        exact hdata
    | stream r data replyExpected =>
        cases hsession
        exact hkept (hsends (onlySends_sendStreamData cfg s data replyExpected))
    | normalMessage r data =>
        cases hsession
        exact hkept (hsends (onlySends_sendNormalMessage cfg s data))
    | request r data timeout =>
        cases hsession
        exact hkept ((within_sendRequest cfg hD (fun id => hblock s id timeout) data).bind fun _ =>
          Act.Within.pure ())
    | response r data blockerId =>
        cases hsession
        exact hkept (hsends (onlySends_sendResponse cfg s data blockerId))
    | heartbeat r =>
        cases hsession
        exact hkept (hsends (onlySends_sendHeartbeat cfg s))
    | _ => exact hspares.elim
  · refine hkept (a.within_act cfg (fun r hr => ?_) (fun _ _ => keeps_session) (fun r hr q => ?_)
      (fun r id timeout _ => hblock r id timeout) (a.within_tables cfg (keepsBuffers_timers s)))
    · have hne : r ≠ s := fun heq => hsession (heq ▸ hr)
      exact { keepsBuffers_data s r with
        incomingBuffer := fun _ => (keepsBuffers_data s r).incomingBuffer hne }
    · have hne : r ≠ s := fun heq => hsession (heq ▸ hr)
      exact keeps_members q _ fun heq => absurd heq hne

/-- Such an operation is one of the other steps. -/
theorem receiving_other
    {s : SessionRef}
    {a : Operation}
    (h : a.SparesBuffers s)
    (cfg : Config)
    (st : System)
    (received : UInt64 → List ReceivedPart) :
    (receiving cfg s).step ⟨st.process, received⟩ (.other (st.after cfg a).process) =
      some ⟨(st.after cfg a).process, received⟩ := by
  have hbuffers := h.incomingBuffer cfg st.process
  refine congrArg some (congrArg (fun q => Receiving.mk q received) ?_)
  exact Process.modifySession_eq_self (by rw [← hbuffers]; rfl)

/-! ## A message of one part and one of two parts -/

/-- The one part of a message of one byte. -/
def onlyPart : Message :=
  ⟨1, 1, .multiStatic 1 9 1 0 [7] 0⟩

/-- The finish frame of the message, which is a request. -/
def onlyFinish : Message :=
  ⟨1, 2, .multiFinish 9 0⟩

theorem multiFrame_bufferOfMessage
    {m : Message}
    (hsize : m.body.Sendable Config.default) :
    (bufferOfMessage m).multiFrame = m.body.multiFrame := by
  unfold bufferOfMessage
  exact multiFrame_bytes hsize (fun _ => 0) [] (fun _ => 0)

theorem multiFrame_onlyPart :
    (bufferOfMessage onlyPart).multiFrame = some (.part ⟨9, 1, 1, 0, [7]⟩) := by
  have hsize : onlyPart.body.Sendable Config.default := by
    simp [onlyPart, Body.Sendable, Config.default]
  rw [multiFrame_bufferOfMessage hsize]
  rfl

theorem multiFrame_onlyFinish :
    (bufferOfMessage onlyFinish).multiFrame = some (.finish 9 none) := by
  have hsize : onlyFinish.body.Sendable Config.default := trivial
  rw [multiFrame_bufferOfMessage hsize]
  rfl

theorem reachable_readyProcess (s : SessionRef) :
    (receiving Config.default s).Reachable ⟨readyProcess, fun _ => []⟩ :=
  .init ⟨rfl, fun _ => rfl⟩

/-- The first part of a message of 1001 bytes. -/
def firstPart : Message :=
  ⟨1, 1, .multiStatic 1001 9 2 0 (List.replicate 1000 7) 0⟩

/-- The last part of the message. -/
def lastPart : Message :=
  ⟨1, 2, .multiStatic 1001 9 2 1 [8] 0⟩

theorem multiFrame_firstPart :
    (bufferOfMessage firstPart).multiFrame =
      some (.part ⟨9, 1001, 2, 0, List.replicate 1000 7⟩) := by
  have hsize : firstPart.body.Sendable Config.default := by
    simp [firstPart, Body.Sendable, Config.default, -List.reduceReplicate]
  rw [multiFrame_bufferOfMessage hsize]
  rfl

theorem multiFrame_lastPart :
    (bufferOfMessage lastPart).multiFrame = some (.part ⟨9, 1001, 2, 1, [8]⟩) := by
  have hsize : lastPart.body.Sendable Config.default := by
    simp [lastPart, Body.Sendable, Config.default]
  rw [multiFrame_bufferOfMessage hsize]
  rfl

/-- A ready session after a part. -/
def Receiving.receive (c : Receiving) (m : Message) (f : MultiFrame) : Receiving where
  process := ((processMessage Config.default 0 (bufferOfMessage m)).run c.process).process
  received := f.receivedAfter c.process.allocation c.received

/-- A ready session that received both parts. -/
def partsReceived : Receiving :=
  (Receiving.receive ⟨readyProcess, fun _ => []⟩ firstPart
    (.part ⟨9, 1001, 2, 0, List.replicate 1000 7⟩)).receive lastPart (.part ⟨9, 1001, 2, 1, [8]⟩)

theorem Receiving.step_receive
    {c : Receiving}
    {m : Message}
    {f : MultiFrame}
    (hframe : (bufferOfMessage m).multiFrame = some f) :
    (receiving Config.default 0).step c (.receive (bufferOfMessage m)) = some (c.receive m f) := by
  simp only [receiving, hframe]
  rfl

theorem reachable_partsReceived : (receiving Config.default 0).Reachable partsReceived :=
  ((reachable_readyProcess 0).step trivial (Receiving.step_receive multiFrame_firstPart)).step
    trivial (Receiving.step_receive multiFrame_lastPart)

/-- The message of two parts is handed on, and whole. -/
theorem delivered_complete_iff_parts :
    (∃ data, ((processMessage Config.default 0 (bufferOfMessage onlyFinish)).run
        partsReceived.process).HandsOn data) ∧
      ∀ data, ((processMessage Config.default 0 (bufferOfMessage onlyFinish)).run
        partsReceived.process).HandsOn data → Complete (partsReceived.received 9) data := by
  have hhands : ∃ data, ((processMessage Config.default 0 (bufferOfMessage onlyFinish)).run
      partsReceived.process).HandsOn data := by
    refine ⟨_, (handsOn_iff multiFrame_onlyFinish _ _).mpr ⟨?_, rfl⟩⟩
    intro blockerId hresponse
    cases hresponse
  have hwhole : ArrivedWhole (partsReceived.received 9) := by
    refine ⟨_, _, rfl, rfl, rfl, ?_⟩
    change (List.replicate 1000 (7 : UInt8) ++ ([8] ++ [])).length = _
    rw [List.length_append, List.length_replicate]
    rfl
  refine ⟨hhands, ?_⟩
  exact (delivered_complete_iff reachable_partsReceived multiFrame_onlyFinish).mpr fun _ => hwhole

/-- A finish frame without any part hands a null pointer to the application. -/
theorem not_delivered_complete :
    ¬ ∀ (c : Receiving), (receiving Config.default 0).Reachable c →
      ∀ (buf : RingBuffer) (multiblockId : UInt64) (response : Option UInt64),
        buf.multiFrame = some (.finish multiblockId response) →
        ∀ data, ((processMessage Config.default 0 buf).run c.process).HandsOn data →
          Complete (c.received multiblockId) data := by
  intro hall
  have hhands : ((processMessage Config.default 0 (bufferOfMessage onlyFinish)).run
      readyProcess).HandsOn none := by
    rw [handsOn_iff multiFrame_onlyFinish]
    refine ⟨?_, rfl⟩
    intro blockerId hresponse
    cases hresponse
  obtain ⟨first, rest, bytes, hparts, _⟩ := hall _ (reachable_readyProcess 0) _ _ _
    multiFrame_onlyFinish none hhands
  cases hparts

end SakuraNetwork

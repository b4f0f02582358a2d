import SakuraNetwork.Effects
import SakuraNetwork.SessionLifecycle
import SakuraNetwork.Lib.Unwinding

/-!
# Which frames release a blocked request

The list of blocked requests belongs to the process, and its entries are found
by their blocker-id alone.  A frame on one session can therefore release a
request that was sent over another one, if it is a response that carries the id
of that request; every other frame of a foreign session is without influence.

* `blockerList_processMessage`: what a frame does to the blocked requests.
* `incomingBuffer_processMessage`: what a frame does to the buffers of its
  session.
* `request_isolated`: the result of a request depends on the frames of its own
  session and on the responses with its id.
-/

namespace SakuraNetwork

open Lib

/-! ## What a frame does to the blocked requests and to the buffers -/

/-- A part of the process stays as it is, and only some outputs occur. -/
def Effect.preserving {α : Type} (view : Process → α) (quiet : Output → Prop) : Effect where
  rel := fun p outs p' => view p' = view p ∧ ∀ o ∈ outs, quiet o
  refl := fun _ => ⟨rfl, by simp⟩
  trans := fun h h' => by
    refine ⟨h'.1.trans h.1, ?_⟩
    intro o ho
    rcases List.mem_append.mp ho with ho | ho
    · exact h.2 o ho
    · exact h'.2 o ho

/-- The request a frame releases, and the data it gets. -/
def releaseOf
    (header : CommonMessageHeader)
    (rawMessage : Memory)
    (x : Session) : Option (UInt64 × Option Bytes) :=
  if rawMessage 7 &&& 0x8 ≠ 0 then
    if header.type = MessageType.singleblockData.code ∧
        header.subType = SingleblockDataSubType.data.code then
      some (UInt64.ofNat (rawMessage.word 40 8),
        some (rawMessage.slice 52 (UInt32.ofNat (rawMessage.word 28 4)).toNat))
    else if header.type = MessageType.multiblockData.code ∧
        header.subType = MultiblockDataSubType.finish.code then
      some (UInt64.ofNat (rawMessage.word 40 8),
        ((x.incomingBuffer.find (UInt64.ofNat (rawMessage.word 32 8))).getD {}).incomingData)
    else none
  else none

def RingBuffer.release (buf : RingBuffer) (x : Session) : Option (UInt64 × Option Bytes) :=
  match buf.obtained with
  | .frame header rawMessage => releaseOf header rawMessage x
  | _ => none

/-- The blocked requests after a release, if there is one. -/
def releasedList (l : List MessageBlocker) :
    Option (UInt64 × Option Bytes) → List MessageBlocker
  | none => l
  | some (id, data) => MessageBlockerHandler.storeResponse id data l

/-- The buffers of multi-block messages after a frame. -/
def buffersOf
    (header : CommonMessageHeader)
    (rawMessage : Memory)
    (allocation : UInt64 → Bool)
    (buffers : OrderedMap UInt64 MultiblockBuffer) : OrderedMap UInt64 MultiblockBuffer :=
  if header.type = MessageType.multiblockData.code then
    if header.subType = MultiblockDataSubType.static.code then
      let multiblockId := UInt64.ofNat (rawMessage.word 40 8)
      let totalSize := UInt64.ofNat (rawMessage.word 32 8)
      let data := rawMessage.slice 56 (UInt32.ofNat (rawMessage.word 28 4)).toNat
      let created :=
        if UInt32.ofNat (rawMessage.word 52 4) = 0 ∧ allocation totalSize = true then
          buffers.emplace multiblockId
            { multiblockId := multiblockId, messageSize := totalSize, incomingData := some [] }
        else buffers
      created.modify multiblockId (MultiblockIo.addData data)
    else if header.subType = MultiblockDataSubType.finish.code then
      buffers.remove (UInt64.ofNat (rawMessage.word 32 8))
    else buffers
  else buffers

def RingBuffer.incomingBuffer
    (buf : RingBuffer)
    (allocation : UInt64 → Bool)
    (x : Session) : OrderedMap UInt64 MultiblockBuffer :=
  match buf.obtained with
  | .falseProtocol =>
      if x.statemachine = .sessionReady then x.incomingBuffer.remove 0 else x.incomingBuffer
  | .frame header rawMessage => buffersOf header rawMessage allocation x.incomingBuffer
  | _ => x.incomingBuffer

/-- The buffers of a session, the allocator and a view of the blocked requests
stay as they are, and only requests with property `woken` are woken. -/
def keeps
    {β : Type}
    (s : SessionRef)
    (view : List MessageBlocker → β)
    (woken : UInt64 → Prop) : Effect :=
  Effect.preserving
    (fun p => ((p.session s).incomingBuffer, p.allocation, view p.blockerList))
    (fun o => ∀ id, o = .notifyOne id → woken id)

section Keeps

variable {β : Type} {s r : SessionRef} {view : List MessageBlocker → β} {woken : UInt64 → Prop}

theorem keeps_of_eq
    {p p' : Process}
    {outs : List Output}
    (hbuffer : (p'.session s).incomingBuffer = (p.session s).incomingBuffer)
    (hallocation : p'.allocation = p.allocation)
    (hblockers : p'.blockerList = p.blockerList)
    (houts : ∀ o ∈ outs, ∀ id, o ≠ .notifyOne id) :
    (keeps s view woken).rel p outs p' := by
  refine ⟨?_, fun o ho id hid => absurd hid (houts o ho id)⟩
  simp only [hbuffer, hallocation, hblockers]

theorem keeps_members
    (p : Process)
    (f : Session → Session)
    (hf : r = s → ∀ x, (f x).incomingBuffer = x.incomingBuffer) :
    (keeps s view woken).rel p [] (p.modifySession r f) := by
  refine keeps_of_eq ?_ rfl rfl (by simp)
  by_cases hs : s = r
  · subst hs
    rw [Process.modifySession_same]
    exact hf rfl _
  · rw [Process.modifySession_other _ _ hs]

/-- Frames on other sessions, or that do not change the buffers, and that release
only requests outside of the view. -/
theorem keeps_data
    (hview : ∀ id data l, woken id →
      view (MessageBlockerHandler.storeResponse id data l) = view l) :
    AdmitsData (keeps s view woken) r (r ≠ s) woken := by
  constructor
  · intro p p' outs hframe houts
    refine keeps_of_eq ?_ hframe.allocation hframe.blockerList ?_
    · by_cases hs : s = r
      · subst hs
        obtain ⟨k, c, hself⟩ := hframe.self
        rw [hself]
      · rw [hframe.other s hs]
    · intro o ho id
      obtain ⟨m, rfl, _⟩ := houts o ho
      exact Output.noConfusion
  · intro _ p l
    exact keeps_of_eq rfl rfl rfl (by simp)
  · intro hne p f
    exact keeps_members p _ fun h => absurd h hne
  · intro p
    exact keeps_members p _ fun _ _ => rfl
  · intro p data _
    exact keeps_of_eq rfl rfl rfl (by simp)
  · intro p id data _
    exact keeps_of_eq rfl rfl rfl (by simp)
  · intro p code text _
    exact keeps_of_eq rfl rfl rfl (by simp)
  · intro p id data hid
    refine ⟨?_, ?_⟩
    · simp only [hview id data _ hid]
    · intro o ho id' hid'
      split at ho
      · rw [List.mem_singleton.mp ho] at hid'
        cases hid'
        exact hid
      · cases ho

theorem keeps_session : AdmitsSession (keeps s view woken) r := by
  constructor
  · intro p c
    exact keeps_of_eq rfl rfl rfl (by simp)
  · intro p id
    exact keeps_of_eq rfl rfl rfl (by simp)
  · intro p id
    exact keeps_of_eq rfl rfl rfl (by simp)
  · intro p f hf _
    exact keeps_members p f fun _ => hf
  · intro p sessionId identifier
    exact keeps_of_eq rfl rfl rfl (by simp)
  · intro p identifier
    exact keeps_of_eq rfl rfl rfl (by simp)

end Keeps

/-- The entries of an id. -/
def entriesOf (id : UInt64) (l : List MessageBlocker) : List MessageBlocker :=
  l.filter (fun b => b.blockerId == id)

/-- A response for another id leaves the entries of an id as they are. -/
theorem entriesOf_storeResponse
    {blockerId id : UInt64}
    (hne : blockerId ≠ id)
    (data : Option Bytes)
    (l : List MessageBlocker) :
    entriesOf id (MessageBlockerHandler.storeResponse blockerId data l) = entriesOf id l := by
  unfold entriesOf
  induction l with
  | nil =>
      rfl
  | cons b l ih =>
      by_cases hb : b.blockerId = blockerId
      · have hid : ¬ blockerId = id := hne
        simp [MessageBlockerHandler.storeResponse, hb, hid]
      · simp [MessageBlockerHandler.storeResponse, hb, List.filter_cons, ih]

/-- A frame leaves alone every blocked request whose id it does not carry, and on
another session also the buffers. -/
theorem keeps_processMessage_other
    {s r : SessionRef}
    {id : UInt64}
    (hne : r ≠ s)
    (cfg : Config)
    (buf : RingBuffer)
    (hid : buf.blockerId ≠ some id) :
    (processMessage cfg r buf).Within (keeps s (entriesOf id) (fun woken => woken ≠ id)) := by
  refine within_processMessage (keeps_data fun _ data l h => entriesOf_storeResponse h data l)
    keeps_session hne trivial cfg buf ?_ fun _ _ => trivial
  rintro released hreleased rfl
  exact hid hreleased

/-! ## The exact effect of a frame on its own session -/

section Exact

variable (s : SessionRef) (header : CommonMessageHeader) (rawMessage : Memory) (p : Process)

@[simp] theorem sendReply_blockerList (messageId : UInt32) (body : Body) :
    ((sendReply s messageId body).run p).process.blockerList = p.blockerList :=
  ((OnlySends.sendReply (P := fun _ => True) trivial messageId).frame p).blockerList

/-- Single-block data that are a response are stored under their blocker-id. -/
theorem processSingleBlockDataType_blockerList :
    ((processSingleBlockDataType s header rawMessage).run p).process.blockerList =
      if header.subType = SingleblockDataSubType.data.code ∧ rawMessage 7 &&& 0x8 ≠ 0 then
        MessageBlockerHandler.storeResponse (UInt64.ofNat (rawMessage.word 40 8))
          (some (rawMessage.slice 52 (UInt32.ofNat (rawMessage.word 28 4)).toNat)) p.blockerList
      else p.blockerList := by
  by_cases hdata : header.subType = SingleblockDataSubType.data.code
  · by_cases hflag : rawMessage 7 &&& 0x8 = 0
    · by_cases hreply : rawMessage 7 &&& 0x1 = 0
      · simp [processSingleBlockDataType, processDataSingleBlock, hdata, hflag, hreply]
      · simp [processSingleBlockDataType, processDataSingleBlock, hdata, hflag, hreply,
          sendDataSingleBlockReply]
    · by_cases hreply : rawMessage 7 &&& 0x1 = 0
      · simp [processSingleBlockDataType, processDataSingleBlock, hdata, hflag, hreply]
      · simp [processSingleBlockDataType, processDataSingleBlock, hdata, hflag, hreply,
          sendDataSingleBlockReply]
  · simp [processSingleBlockDataType, hdata]

/-- Part 0 creates the buffer, every part is appended to it. -/
theorem processDataMultiblock_process :
    ((processDataMultiblock s rawMessage).run p).process =
      p.modifySession s (fun x =>
        let multiblockId := UInt64.ofNat (rawMessage.word 40 8)
        let totalSize := UInt64.ofNat (rawMessage.word 32 8)
        let data := rawMessage.slice 56 (UInt32.ofNat (rawMessage.word 28 4)).toNat
        let created :=
          if UInt32.ofNat (rawMessage.word 52 4) = 0 ∧ p.allocation totalSize = true then
            x.incomingBuffer.emplace multiblockId
              { multiblockId := multiblockId, messageSize := totalSize, incomingData := some [] }
          else x.incomingBuffer
        { x with incomingBuffer := created.modify multiblockId (MultiblockIo.addData data) }) := by
  have hwrite : ∀ (multiblockId : UInt64) (size : Nat) (q : Process),
      ((MultiblockIo.writeIntoIncomingBuffer s multiblockId
        (readBytes rawMessage 56 size)).run q).process =
      q.modifySession s (fun x => { x with
        incomingBuffer := x.incomingBuffer.modify multiblockId
          (MultiblockIo.addData (rawMessage.slice 56 size)) }) :=
    fun multiblockId size q =>
      MultiblockIo.writeIntoIncomingBuffer_process (fun _ => ⟨rfl, rfl⟩) s multiblockId q
  by_cases hpart : UInt32.ofNat (rawMessage.word 52 4) = 0
  · by_cases hallocation : p.allocation (UInt64.ofNat (rawMessage.word 32 8)) = true
    · simp [processDataMultiblock, hpart, hallocation, hwrite]
    · simp [processDataMultiblock, hpart, hallocation, hwrite]
  · simp [processDataMultiblock, hpart, hwrite]

/-- The finish frame hands the buffer on and removes it. -/
theorem processDataMultiFinish_process :
    ((processDataMultiFinish s rawMessage).run p).process =
      ({ p with
        blockerList :=
          if rawMessage 7 &&& 0x8 ≠ 0 then
            MessageBlockerHandler.storeResponse (UInt64.ofNat (rawMessage.word 40 8))
              (((p.session s).incomingBuffer.find
                (UInt64.ofNat (rawMessage.word 32 8))).getD {}).incomingData p.blockerList
          else p.blockerList } : Process).modifySession s (fun x => { x with
            incomingBuffer := x.incomingBuffer.remove (UInt64.ofNat (rawMessage.word 32 8)) }) := by
  by_cases hflag : rawMessage 7 &&& 0x8 = 0
  · simp [processDataMultiFinish, hflag]
  · simp [processDataMultiFinish, hflag]

end Exact

/-- What a frame does behind the delimiter check, up to the pending replies. -/
theorem processFrame_process
    (s : SessionRef)
    (header : CommonMessageHeader)
    (rawMessage : Memory)
    (p : Process) :
    ∃ replyList, ((processFrame s header rawMessage).run p).process =
      match processByType s header rawMessage with
      | none => { p with replyList := replyList }
      | some handler => (handler.run { p with replyList := replyList }).process := by
  unfold processFrame
  by_cases hreply : (header.flags &&& 0x2 != 0) = true
  · refine ⟨ReplyHandler.withoutMessage
      (ReplyHandler.completeMessageId header.sessionId header.messageId) p.replyList, ?_⟩
    rw [if_pos hreply]
    cases processByType s header rawMessage with
    | none =>
        simp
    | some handler =>
        simp
  · refine ⟨p.replyList, ?_⟩
    rw [if_neg hreply]
    cases processByType s header rawMessage with
    | none =>
        simp
    | some handler =>
        simp

/-- Frames of other types than data leave buffers and blocked requests alone. -/
theorem keeps_processFrame
    (s : SessionRef)
    {header : CommonMessageHeader}
    (rawMessage : Memory)
    (hsingle : header.type ≠ MessageType.singleblockData.code)
    (hmulti : header.type ≠ MessageType.multiblockData.code) :
    (processFrame s header rawMessage).Within (keeps s (fun l => l) (fun _ => False)) := by
  refine within_processFrame (keeps_data fun _ _ _ h => h.elim) header rawMessage
    (fun h => absurd h hmulti) (fun _ => trivial) (fun _ => ⟨keeps_session, trivial⟩) ?_
    fun _ _ => trivial
  rintro _ (⟨h, _⟩ | ⟨h, _⟩)
  · exact hsingle h
  · exact hmulti h

/-- Closing a ready session drops the buffer of the id 0. -/
theorem closeSession_data
    (s : SessionRef)
    (replyExpected : Bool)
    (p : Process) :
    ((closeSession s replyExpected).run p).process.blockerList = p.blockerList ∧
    (((closeSession s replyExpected).run p).process.session s).incomingBuffer =
      if (p.session s).statemachine = .sessionReady then (p.session s).incomingBuffer.remove 0
      else (p.session s).incomingBuffer := by
  have hdata : AdmitsData (keeps s (fun l => l) (fun _ => False)) s (s ≠ s) (fun _ => False) :=
    keeps_data fun _ _ _ h => h.elim
  have hstart : ∀ reply, (sendSessionCloseStart s reply).Within
      (keeps s (fun l => l) (fun _ => False)) := by
    intro reply
    exact (OnlySends.sendNew (P := Body.Plain) (by exact rfl)).within_plain hdata
  have hrest : (if replyExpected then sendSessionCloseStart s true
      else do
        let _ ← sendSessionCloseStart s false
        endSession s).Within (keeps s (fun l => l) (fun _ => False)) :=
    Act.Within.ite (fun _ => hstart true) fun _ =>
      (hstart false).bind fun _ => within_endSession keeps_session
  rw [closeSession, run_getSession_bind, SessionState.isInState_sessionReady]
  by_cases hstate : (p.session s).statemachine = .sessionReady
  · simp only [hstate, decide_true, if_true]
    rw [Act.run_bind, ReplyHandler.run_removeAllOfSession]
    simp only
    rw [Act.run_bind, MultiblockIo.run_removeMultiblockBuffer]
    have hview := (hrest (({ p with replyList := p.replyList.map (fun m =>
      if m.completeMessageId &&& 0xFFFFFFFF == (p.session s).sessionId.toUInt64 then
        { m with ignoreResult := true }
      else m) } : Process).modifySession s (fun x =>
        { x with incomingBuffer := x.incomingBuffer.remove 0 }))).1
    simp only [Prod.mk.injEq] at hview
    refine ⟨hview.2.2, ?_⟩
    rw [hview.1, Process.modifySession_same]
  · simp [hstate]

/-- The blocked requests and the buffers of the session after a frame that passed
the delimiter check. -/
theorem processFrame_data
    (s : SessionRef)
    (header : CommonMessageHeader)
    (rawMessage : Memory)
    (p : Process) :
    ((processFrame s header rawMessage).run p).process.blockerList =
      releasedList p.blockerList (releaseOf header rawMessage (p.session s)) ∧
    (((processFrame s header rawMessage).run p).process.session s).incomingBuffer =
      buffersOf header rawMessage p.allocation (p.session s).incomingBuffer := by
  obtain ⟨replyList, hprocess⟩ := processFrame_process s header rawMessage p
  by_cases hsingle : header.type = MessageType.singleblockData.code
  · have hmulti : ¬ header.type = MessageType.multiblockData.code := by
      rw [hsingle]
      decide
    have hby : processByType s header rawMessage =
        some (processSingleBlockDataType s header rawMessage) := by
      simp [processByType, hsingle, MessageType.code]
    have hbuffer : (processSingleBlockDataType s header rawMessage).Within
        (keeps s (fun _ => ()) (fun _ => True)) :=
      within_processSingleBlockDataType (keeps_data fun _ _ _ _ => rfl) header rawMessage
        (fun _ _ => trivial) (fun _ _ _ _ => trivial)
    have hview := (hbuffer { p with replyList := replyList }).1
    simp only [Prod.mk.injEq] at hview
    rw [hprocess, hby]
    simp only [processSingleBlockDataType_blockerList, hview.1, buffersOf, if_neg hmulti, and_true]
    unfold releaseOf
    by_cases hdata : header.subType = SingleblockDataSubType.data.code
    · by_cases hflag : rawMessage 7 &&& 0x8 ≠ 0
      · rw [if_pos ⟨hdata, hflag⟩, if_pos hflag, if_pos ⟨hsingle, hdata⟩]
        rfl
      · rw [if_neg fun h => hflag h.2, if_neg hflag]
        rfl
    · rw [if_neg fun h => hdata h.1]
      simp [hdata, hmulti, releasedList]
  · by_cases hmulti : header.type = MessageType.multiblockData.code
    · have hby : processByType s header rawMessage =
          some (processMultiBlockDataType s header rawMessage) := by
        simp [processByType, hmulti, MessageType.code]
      have hkind : ¬ (header.type = MessageType.singleblockData.code ∧
          header.subType = SingleblockDataSubType.data.code) := fun h => hsingle h.1
      rw [hprocess, hby]
      simp only
      by_cases hstatic : header.subType = MultiblockDataSubType.static.code
      · have hnot : ¬ (header.type = MessageType.multiblockData.code ∧
            header.subType = MultiblockDataSubType.finish.code) := by
          rw [hstatic]
          rintro ⟨_, h⟩
          revert h
          decide
        have hhandler : processMultiBlockDataType s header rawMessage =
            processDataMultiblock s rawMessage := if_pos hstatic
        have hrelease : releaseOf header rawMessage (p.session s) = none := by
          unfold releaseOf
          rw [if_neg hkind, if_neg hnot]
          split
          · rfl
          · rfl
        rw [hhandler, processDataMultiblock_process, hrelease, buffersOf, if_pos hmulti,
          if_pos hstatic, Process.modifySession_same]
        exact ⟨rfl, rfl⟩
      · by_cases hfinish : header.subType = MultiblockDataSubType.finish.code
        · have hhandler : processMultiBlockDataType s header rawMessage =
              processDataMultiFinish s rawMessage := (if_neg hstatic).trans (if_pos hfinish)
          have hkind' : header.type = MessageType.multiblockData.code ∧
              header.subType = MultiblockDataSubType.finish.code := ⟨hmulti, hfinish⟩
          rw [hhandler, processDataMultiFinish_process, buffersOf, if_pos hmulti, if_neg hstatic,
            if_pos hfinish, Process.modifySession_same, releaseOf, if_neg hkind, if_pos hkind']
          refine ⟨?_, rfl⟩
          simp only [Process.modifySession_blockerList]
          by_cases hflag : rawMessage 7 &&& 0x8 ≠ 0
          · rw [if_pos hflag, if_pos hflag]
            rfl
          · rw [if_neg hflag, if_neg hflag]
            rfl
        · have hhandler : processMultiBlockDataType s header rawMessage = pure () :=
            (if_neg hstatic).trans (if_neg hfinish)
          have hrelease : releaseOf header rawMessage (p.session s) = none := by
            have hnot : ¬ (header.type = MessageType.multiblockData.code ∧
                header.subType = MultiblockDataSubType.finish.code) := fun h => hfinish h.2
            unfold releaseOf
            rw [if_neg hkind, if_neg hnot]
            split
            · rfl
            · rfl
          rw [hhandler, hrelease, buffersOf, if_pos hmulti, if_neg hstatic, if_neg hfinish]
          exact ⟨rfl, rfl⟩
    · have hview := (keeps_processFrame s rawMessage hsingle hmulti p).1
      simp only [Prod.mk.injEq] at hview
      rw [hview.2.2, hview.1]
      simp [releaseOf, buffersOf, hsingle, hmulti, releasedList]

/-- The blocked requests and the buffers of the session after the front of the
receive buffer was processed. -/
theorem data_processMessage
    (cfg : Config)
    (s : SessionRef)
    (buf : RingBuffer)
    (p : Process) :
    ((processMessage cfg s buf).run p).process.blockerList =
      releasedList p.blockerList (buf.release (p.session s)) ∧
    (((processMessage cfg s buf).run p).process.session s).incomingBuffer =
      buf.incomingBuffer p.allocation (p.session s) := by
  have hresult := processMessage_result cfg s buf p
  have hdata : AdmitsData (keeps s (fun l => l) (fun _ => False)) s (s ≠ s) (fun _ => False) :=
    keeps_data fun _ _ _ h => h.elim
  have herror := (within_sendErrorMessage hdata cfg .falseVersion [] p).1
  simp only [Prod.mk.injEq] at herror
  unfold RingBuffer.release RingBuffer.incomingBuffer
  cases hobtained : buf.obtained with
  | nothing =>
      simp only [hobtained, Outcome.result, Prod.mk.injEq] at hresult
      rw [hresult.2.1]
      exact ⟨rfl, rfl⟩
  | falseProtocol =>
      simp only [hobtained, Outcome.result, Prod.mk.injEq] at hresult
      rw [hresult.2.1]
      exact closeSession_data s false p
  | falseVersion =>
      simp only [hobtained, Outcome.result, Prod.mk.injEq] at hresult
      rw [hresult.2.1]
      exact ⟨herror.2.2, herror.1⟩
  | falseDelimiter =>
      simp only [hobtained, Outcome.result, Prod.mk.injEq] at hresult
      rw [hresult.2.1]
      exact ⟨herror.2.2, herror.1⟩
  | frame header rawMessage =>
      simp only [hobtained] at hresult
      simp only [Outcome.result, Prod.mk.injEq] at hresult
      rw [hresult.2.1]
      exact processFrame_data s header rawMessage p

/-! ## Two runs -/

/-- What happens to the blocked requests of a process. -/
inductive RequestEvent where
  /-- A session processes the front of its receive buffer. -/
  | receive (s : SessionRef) (buf : RingBuffer)
  /-- `sendRequest` has sent its frames and adds its entry. -/
  | block (s : SessionRef) (id timeout : UInt64)
  /-- A woken thread takes its entry and returns. -/
  | wake (id : UInt64)
  | timer

/-- One event, and the buffer `sendRequest` returns for a request `id`, if it
returns. -/
def requestStep (cfg : Config) (id : UInt64) (p : Process) :
    RequestEvent → Process × List (Option Bytes)
  | .receive s buf => (((processMessage cfg s buf).run p).process, [])
  | .block s id' timeout =>
      (((MessageBlockerHandler.addBlocker id' timeout s).run p).process, [])
  | .wake id' =>
      (((MessageBlockerHandler.removeMessageFromList id').run p).process,
        if id' = id then [((MessageBlockerHandler.removeMessageFromList id').run p).value] else [])
  | .timer => ((MessageBlockerHandler.makeTimerStep.run p).process, [])

/-- What reaches a request. -/
inductive RequestView where
  /-- A frame on its own session. -/
  | frame (buf : RingBuffer)
  /-- A response with its id on another session, and the data it brings. -/
  | response (data : Option Bytes)
  | start
  | returned

/-- What an event is to a request over the session `s`.  Of the frames on other sessions
only the responses with its id reach it. -/
def RequestEvent.reaching
    (s : SessionRef)
    (id : UInt64)
    (p : Process) : RequestEvent → Option RequestView
  | .receive r buf =>
      if r = s then some (.frame buf)
      else
        match buf.release (p.session r) with
        | some (released, data) => if released = id then some (.response data) else none
        | none => none
  | .block _ id' _ => if id' = id then some .start else none
  | .wake id' => if id' = id then some .returned else none
  | .timer => none

/-- The ids of the requests are distinct, and the request does not reach its timeout. -/
def RequestEvent.Undisturbed
    (id : UInt64)
    (p : Process) : RequestEvent → Prop
  | .block _ id' _ => id' = id → MessageBlockerHandler.responses id p.blockerList = []
  | .timer => ∀ b ∈ p.blockerList, b.blockerId = id → b.timer ≠ 1
  | .receive _ _ | .wake _ => True

/-- What the result of a request over `s` can depend on is the same. -/
structure SameForRequest (s : SessionRef) (id : UInt64) (p q : Process) : Prop where
  state : (p.session s).statemachine = (q.session s).statemachine
  connects : (p.session s).socket.any Socket.initResult =
    (q.session s).socket.any Socket.initResult
  incomingBuffer : (p.session s).incomingBuffer = (q.session s).incomingBuffer
  allocation : p.allocation = q.allocation
  responses : MessageBlockerHandler.responses id p.blockerList =
    MessageBlockerHandler.responses id q.blockerList
  single : (MessageBlockerHandler.responses id q.blockerList).length ≤ 1

namespace RequestEvent

section Reaching

variable {s : SessionRef} {id : UInt64} {p : Process} {e : RequestEvent}

theorem eq_of_reaching_frame
    {buf : RingBuffer}
    (h : e.reaching s id p = some (.frame buf)) :
    e = .receive s buf := by
  cases e with
  | receive r buf' =>
      simp only [reaching] at h
      split at h
      · rename_i hr
        cases h
        rw [hr]
      · split at h
        · split at h
          · cases h
          · cases h
        · cases h
  | block r id' timeout =>
      simp [reaching] at h
  | wake id' =>
      simp [reaching] at h
  | timer =>
      cases h

theorem eq_of_reaching_response
    {data : Option Bytes}
    (h : e.reaching s id p = some (.response data)) :
    ∃ r buf, e = .receive r buf ∧ r ≠ s ∧ buf.release (p.session r) = some (id, data) := by
  cases e with
  | receive r buf =>
      simp only [reaching] at h
      split at h
      · cases h
      · rename_i hne
        refine ⟨r, buf, rfl, hne, ?_⟩
        split at h
        · rename_i released data' hrelease
          split at h
          · rename_i hid
            cases h
            rw [hrelease, hid]
          · cases h
        · cases h
  | block r id' timeout =>
      simp [reaching] at h
  | wake id' =>
      simp [reaching] at h
  | timer =>
      cases h

theorem eq_of_reaching_start (h : e.reaching s id p = some .start) :
    ∃ r timeout, e = .block r id timeout := by
  cases e with
  | receive r buf =>
      simp only [reaching] at h
      split at h
      · cases h
      · split at h
        · split at h
          · cases h
          · cases h
        · cases h
  | block r id' timeout =>
      have hid : id' = id := by simpa [reaching] using h
      exact ⟨r, timeout, by rw [hid]⟩
  | wake id' =>
      simp [reaching] at h
  | timer =>
      cases h

theorem eq_of_reaching_returned (h : e.reaching s id p = some .returned) :
    e = .wake id := by
  cases e with
  | receive r buf =>
      simp only [reaching] at h
      split at h
      · cases h
      · split at h
        · split at h
          · cases h
          · cases h
        · cases h
  | block r id' timeout =>
      simp [reaching] at h
  | wake id' =>
      have hid : id' = id := by simpa [reaching] using h
      rw [hid]
  | timer =>
      cases h

end Reaching

end RequestEvent

theorem eq_of_perm_of_length_le_one
    {α : Type}
    {l l' : List α}
    (h : l.Perm l')
    (hlength : l'.length ≤ 1) :
    l = l' := by
  cases l' with
  | nil =>
      exact h.eq_nil
  | cons a rest =>
      have hrest : rest = [] := List.length_eq_zero_iff.mp (by
        rw [List.length_cons] at hlength
        omega)
      subst hrest
      exact List.perm_singleton.mp h

/-- No frame changes the allocator. -/
theorem allocation_processMessage
    (cfg : Config)
    (s : SessionRef)
    (buf : RingBuffer)
    (p : Process) :
    ((processMessage cfg s buf).run p).process.allocation = p.allocation := by
  have hne : s ≠ s + 1 := (Nat.succ_ne_self s).symm
  have hkeeps : (processMessage cfg s buf).Within
      (keeps (s + 1) (fun _ => ()) (fun _ => True)) :=
    within_processMessage (keeps_data fun _ _ _ _ => rfl) keeps_session hne trivial cfg buf
      (fun _ _ => trivial) fun _ _ => trivial
  have hview := (hkeeps p).1
  simp only [Prod.mk.injEq] at hview
  exact hview.2.1

/-- The state after a session message depends on the state and the socket. -/
theorem Life.state_congr
    (s : SessionRef)
    {l l' : Life}
    (hstate : l.state = l'.state)
    (hconnects : l.connects = l'.connects)
    (buf : RingBuffer) :
    (buf.life s l).state = (buf.life s l').state ∧
      (buf.life s l).connects = (buf.life s l').connects := by
  have hstop : ∀ l l' : Life, l.state = l'.state → l.connects = l'.connects →
      l.stop.state = l'.stop.state ∧ l.stop.connects = l'.stop.connects := by
    intro l l' hstate hconnects
    by_cases hready : l'.state = .sessionReady
    · simp [Life.stop, hstate, hready, hconnects]
    · simp [Life.stop, hstate, hready, hconnects]
  have hready : ∀ (l l' : Life) (id id' : UInt32), l.state = l'.state →
      l.connects = l'.connects →
      (l.makeReady id).state = (l'.makeReady id').state ∧
        (l.makeReady id).connects = (l'.makeReady id').connects := by
    intro l l' id id' hstate hconnects
    by_cases hnotReady : l'.state = .sessionNotReady
    · simp [Life.makeReady, hstate, hnotReady, hconnects]
    · simp [Life.makeReady, hstate, hnotReady, hconnects]
  have hconnect : ∀ (l l' : Life) (id id' : UInt32), l.state = l'.state →
      l.connects = l'.connects →
      (l.connect id).state = (l'.connect id').state ∧
        (l.connect id).connects = (l'.connect id').connects := by
    intro l l' id id' hstate hconnects
    by_cases hcond : l'.state = .notConnected ∧ l'.connects = true
    · simp [Life.connect, hstate, hconnects, hcond]
    · simp [Life.connect, hstate, hconnects, hcond]
  unfold RingBuffer.life
  cases buf.obtained with
  | falseProtocol =>
      exact hstop _ _ hstate hconnects
  | _ =>
      cases buf.sessionFrame with
      | none =>
          exact ⟨hstate, hconnects⟩
      | some f =>
          cases f with
          | initStart clientSessionId sessionIdentifier =>
              simp only [SessionFrame.life]
              have h := hconnect (l.increase.add (completeSessionId clientSessionId
                  (l.sessionIdCounter + 1)) s) (l'.increase.add (completeSessionId clientSessionId
                  (l'.sessionIdCounter + 1)) s) (completeSessionId clientSessionId
                  (l.sessionIdCounter + 1)) (completeSessionId clientSessionId
                  (l'.sessionIdCounter + 1)) hstate hconnects
              exact hready _ _ _ _ h.1 h.2
          | initReply initialId completeId sessionIdentifier =>
              exact hready _ _ _ _ hstate hconnects
          | closeStart sessionId =>
              exact hstop _ _ hstate hconnects
          | closeReply sessionId =>
              exact ⟨rfl, hconnects⟩

theorem RingBuffer.release_congr
    {x y : Session}
    (hbuffer : x.incomingBuffer = y.incomingBuffer)
    (buf : RingBuffer) :
    buf.release x = buf.release y := by
  unfold RingBuffer.release releaseOf
  rw [hbuffer]

theorem RingBuffer.incomingBuffer_congr
    {x y : Session}
    (hstate : x.statemachine = y.statemachine)
    (hbuffer : x.incomingBuffer = y.incomingBuffer)
    (buf : RingBuffer)
    (allocation : UInt64 → Bool) :
    buf.incomingBuffer allocation x = buf.incomingBuffer allocation y := by
  unfold RingBuffer.incomingBuffer
  rw [hstate, hbuffer]

theorem responses_releasedList
    {id : UInt64}
    {l l' : List MessageBlocker}
    (h : MessageBlockerHandler.responses id l = MessageBlockerHandler.responses id l')
    (release : Option (UInt64 × Option Bytes)) :
    MessageBlockerHandler.responses id (releasedList l release) =
      MessageBlockerHandler.responses id (releasedList l' release) := by
  cases release with
  | none =>
      exact h
  | some released =>
      simp only [releasedList, MessageBlockerHandler.responses_storeResponse, h]

theorem length_responses_releasedList
    (id : UInt64)
    (l : List MessageBlocker)
    (release : Option (UInt64 × Option Bytes)) :
    (MessageBlockerHandler.responses id (releasedList l release)).length =
      (MessageBlockerHandler.responses id l).length := by
  cases release with
  | none =>
      rfl
  | some released =>
      simp only [releasedList, MessageBlockerHandler.responses_storeResponse]
      split
      · cases MessageBlockerHandler.responses id l with
        | nil =>
            rfl
        | cons data rest =>
            rfl
      · rfl

namespace SameForRequest

variable {s : SessionRef} {id : UInt64} {p q : Process}

/-- A change of other blocked requests only. -/
theorem of_blockerList
    (h : SameForRequest s id p q)
    {l : List MessageBlocker}
    (hl : (MessageBlockerHandler.responses id l).Perm
      (MessageBlockerHandler.responses id p.blockerList)) :
    SameForRequest s id { p with blockerList := l } q where
  state := h.state
  connects := h.connects
  incomingBuffer := h.incomingBuffer
  allocation := h.allocation
  responses := by
    have hsingle : (MessageBlockerHandler.responses id p.blockerList).length ≤ 1 := by
      rw [h.responses]
      exact h.single
    rw [eq_of_perm_of_length_le_one hl hsingle, h.responses]
  single := h.single

theorem symm (h : SameForRequest s id p q) : SameForRequest s id q p where
  state := h.state.symm
  connects := h.connects.symm
  incomingBuffer := h.incomingBuffer.symm
  allocation := h.allocation.symm
  responses := h.responses.symm
  single := by
    rw [h.responses]
    exact h.single

/-- A frame on another session does nothing but release the request. -/
theorem of_foreign_frame
    {r : SessionRef}
    (hne : r ≠ s)
    (cfg : Config)
    (buf : RingBuffer)
    (h : SameForRequest s id
      { p with blockerList := releasedList p.blockerList (buf.release (p.session r)) } q) :
    SameForRequest s id ((processMessage cfg r buf).run p).process q := by
  have hkeeps : (processMessage cfg r buf).Within (keeps s (fun _ => ()) (fun _ => True)) :=
    within_processMessage (keeps_data fun _ _ _ _ => rfl) keeps_session hne trivial cfg buf
      (fun _ _ => trivial) fun _ _ => trivial
  have hview := (hkeeps p).1
  simp only [Prod.mk.injEq] at hview
  have hforeign := within_processMessage (foreign_data s r) (foreign_session hne) trivial trivial
    cfg buf (fun _ _ => trivial) (fun _ _ => trivial) trivial p []
  constructor
  · exact hforeign.state.trans h.state
  · exact hforeign.connects.trans h.connects
  · rw [hview.1, ← h.incomingBuffer]
  · rw [hview.2.1, ← h.allocation]
  · rw [(data_processMessage cfg r buf p).1, ← h.responses]
  · exact h.single

/-- A frame on another session that is no response with the id. -/
theorem of_unseen_frame
    (h : SameForRequest s id p q)
    {r : SessionRef}
    (hne : r ≠ s)
    (cfg : Config)
    {buf : RingBuffer}
    (hrelease : ∀ released ∈ buf.release (p.session r), released.1 ≠ id) :
    SameForRequest s id ((processMessage cfg r buf).run p).process q := by
  refine of_foreign_frame hne cfg buf (h.of_blockerList ?_)
  cases hreleased : buf.release (p.session r) with
  | none =>
      exact List.Perm.refl _
  | some released =>
      have hid : id ≠ released.1 := (hrelease released hreleased).symm
      rw [releasedList, MessageBlockerHandler.responses_storeResponse, if_neg hid]

/-- Responses with the id on other sessions that bring the same data. -/
theorem of_response
    (h : SameForRequest s id p q)
    (cfg : Config)
    {r r' : SessionRef}
    (hne : r ≠ s)
    (hne' : r' ≠ s)
    {buf buf' : RingBuffer}
    {data : Option Bytes}
    (hrelease : buf.release (p.session r) = some (id, data))
    (hrelease' : buf'.release (q.session r') = some (id, data)) :
    SameForRequest s id ((processMessage cfg r buf).run p).process
      ((processMessage cfg r' buf').run q).process := by
  refine of_foreign_frame hne cfg buf (symm (of_foreign_frame hne' cfg buf' ?_))
  rw [hrelease, hrelease']
  constructor
  · exact h.state.symm
  · exact h.connects.symm
  · exact h.incomingBuffer.symm
  · exact h.allocation.symm
  · exact responses_releasedList h.responses.symm (some (id, data))
  · rw [length_responses_releasedList, h.responses]
    exact h.single

/-- The same frame on the session of the request. -/
theorem of_own_frame
    (h : SameForRequest s id p q)
    (cfg : Config)
    (buf : RingBuffer) :
    SameForRequest s id ((processMessage cfg s buf).run p).process
      ((processMessage cfg s buf).run q).process := by
  obtain ⟨hblockers, hbuffers⟩ := data_processMessage cfg s buf p
  obtain ⟨hblockers', hbuffers'⟩ := data_processMessage cfg s buf q
  have hlife := simulates_processMessage cfg s buf p []
  have hlife' := simulates_processMessage cfg s buf q []
  obtain ⟨hstate, hconnects⟩ :
      (buf.life s (p.life s [])).state = (buf.life s (q.life s [])).state ∧
        (buf.life s (p.life s [])).connects = (buf.life s (q.life s [])).connects :=
    Life.state_congr s h.state h.connects buf
  rw [← hlife, ← hlife'] at hstate hconnects
  constructor
  · exact hstate
  · exact hconnects
  · rw [hbuffers, hbuffers', h.allocation,
      RingBuffer.incomingBuffer_congr h.state h.incomingBuffer buf]
  · rw [allocation_processMessage, allocation_processMessage, h.allocation]
  · rw [hblockers, hblockers', RingBuffer.release_congr h.incomingBuffer buf]
    exact responses_releasedList h.responses _
  · rw [hblockers', length_responses_releasedList]
    exact h.single

/-- The request is started in both. -/
theorem of_block
    (h : SameForRequest s id p q)
    (hfresh : MessageBlockerHandler.responses id p.blockerList = [])
    (timeout timeout' : UInt64)
    (r r' : SessionRef) :
    SameForRequest s id ((MessageBlockerHandler.addBlocker id timeout r).run p).process
      ((MessageBlockerHandler.addBlocker id timeout' r').run q).process where
  state := h.state
  connects := h.connects
  incomingBuffer := h.incomingBuffer
  allocation := h.allocation
  responses := by
    simp [h.responses, MessageBlockerHandler.responses_cons]
  single := by
    rw [h.responses] at hfresh
    simp [hfresh, MessageBlockerHandler.responses_cons]

/-- The request returns in both, with the same buffer. -/
theorem of_wake (h : SameForRequest s id p q) :
    ((MessageBlockerHandler.removeMessageFromList id).run p).value =
        ((MessageBlockerHandler.removeMessageFromList id).run q).value ∧
      SameForRequest s id ((MessageBlockerHandler.removeMessageFromList id).run p).process
        ((MessageBlockerHandler.removeMessageFromList id).run q).process := by
  have hsingle : (MessageBlockerHandler.responses id p.blockerList).length ≤ 1 := by
    rw [h.responses]
    exact h.single
  refine ⟨?_, ?_⟩
  · rw [MessageBlockerHandler.removeMessageFromList_value_of_responses hsingle,
      MessageBlockerHandler.removeMessageFromList_value_of_responses h.single, h.responses]
  · rw [MessageBlockerHandler.removeMessageFromList_process,
      MessageBlockerHandler.removeMessageFromList_process]
    constructor
    · exact h.state
    · exact h.connects
    · exact h.incomingBuffer
    · exact h.allocation
    · simp only [MessageBlockerHandler.responses_withoutBlocker_self hsingle,
        MessageBlockerHandler.responses_withoutBlocker_self h.single]
    · simp only [MessageBlockerHandler.responses_withoutBlocker_self h.single, List.length_nil]
      omega

end SameForRequest

/-- A request depends on what reaches it. -/
theorem requestUnwinding (cfg : Config) (s : SessionRef) (id : UInt64) :
    Unwinding (requestStep cfg id) (fun p e => e.reaching s id p)
      (fun p e => e.Undisturbed id p) (SameForRequest s id) := by
  constructor
  · exact fun h => h.symm
  · intro p q e h hallowed hunseen
    cases e with
    | receive r buf =>
        simp only [RequestEvent.reaching] at hunseen
        split at hunseen
        · cases hunseen
        · rename_i hne
          refine ⟨rfl, h.of_unseen_frame hne cfg ?_⟩
          intro released hreleased hid
          rw [Option.mem_def] at hreleased
          simp only [hreleased, hid, if_true] at hunseen
          cases hunseen
    | block r id' timeout =>
        have hne : id' ≠ id := by simpa [RequestEvent.reaching] using hunseen
        refine ⟨rfl, h.of_blockerList ?_⟩
        rw [MessageBlockerHandler.responses_append, MessageBlockerHandler.responses_cons,
          if_neg hne, MessageBlockerHandler.responses_nil, List.append_nil]
    | wake id' =>
        have hne : id' ≠ id := by simpa [RequestEvent.reaching] using hunseen
        refine ⟨if_neg hne, ?_⟩
        simp only [requestStep, MessageBlockerHandler.removeMessageFromList_process]
        exact h.of_blockerList (MessageBlockerHandler.responses_withoutBlocker_other hne.symm _)
    | timer =>
        refine ⟨rfl, ?_⟩
        obtain ⟨l, hl⟩ := MessageBlockerHandler.makeTimerStepFrom_frame p.blockerList.length 0 p
        have hperm := MessageBlockerHandler.responses_makeTimerStep id p hallowed
        have hprocess : (MessageBlockerHandler.makeTimerStep.run p).process =
            { p with blockerList := l } := hl
        simp only [requestStep]
        rw [hprocess] at hperm ⊢
        exact h.of_blockerList hperm
  · intro p q e e' w h hallowed _ hseen hseen'
    cases w with
    | frame buf =>
        obtain rfl := RequestEvent.eq_of_reaching_frame hseen
        obtain rfl := RequestEvent.eq_of_reaching_frame hseen'
        exact ⟨rfl, h.of_own_frame cfg buf⟩
    | response data =>
        obtain ⟨r, buf, rfl, hne, hrelease⟩ := RequestEvent.eq_of_reaching_response hseen
        obtain ⟨r', buf', rfl, hne', hrelease'⟩ := RequestEvent.eq_of_reaching_response hseen'
        exact ⟨rfl, h.of_response cfg hne hne' hrelease hrelease'⟩
    | start =>
        obtain ⟨r, timeout, rfl⟩ := RequestEvent.eq_of_reaching_start hseen
        obtain ⟨r', timeout', rfl⟩ := RequestEvent.eq_of_reaching_start hseen'
        exact ⟨rfl, h.of_block (hallowed rfl) timeout timeout' r r'⟩
    | returned =>
        obtain rfl := RequestEvent.eq_of_reaching_returned hseen
        obtain rfl := RequestEvent.eq_of_reaching_returned hseen'
        obtain ⟨hvalue, hsame⟩ := h.of_wake
        refine ⟨?_, hsame⟩
        simp only [requestStep, if_true, hvalue]

/-- A frame leaves the blocked requests alone whose id it does not carry: it
neither stores data into them nor wakes them.  The result of a request therefore
depends on the frames received on its own session, and on the responses with its
id on other sessions and the data they bring: two runs in which the same reaches
the request return the same. -/
theorem request_isolated
    (cfg : Config)
    (s : SessionRef)
    (id : UInt64)
    {p : Process}
    {es es' : List RequestEvent}
    (hsingle : (MessageBlockerHandler.responses id p.blockerList).length ≤ 1)
    (hes : AllAlong (requestStep cfg id) (fun p e => e.Undisturbed id p) p es)
    (hes' : AllAlong (requestStep cfg id) (fun p e => e.Undisturbed id p) p es')
    (hsame : observedAlong (requestStep cfg id) (fun p e => e.reaching s id p) p es =
      observedAlong (requestStep cfg id) (fun p e => e.reaching s id p) p es') :
    (∀ (r : SessionRef) (buf : RingBuffer) (q : Process), buf.blockerId ≠ some id →
      entriesOf id ((processMessage cfg r buf).run q).process.blockerList =
          entriesOf id q.blockerList ∧
        .notifyOne id ∉ ((processMessage cfg r buf).run q).outputs) ∧
    outputsOf (requestStep cfg id) p es = outputsOf (requestStep cfg id) p es' := by
  refine ⟨?_, ?_⟩
  · intro r buf q hid
    have hkeeps := keeps_processMessage_other (Nat.succ_ne_self r).symm cfg buf hid q
    have hview := hkeeps.1
    simp only [Prod.mk.injEq] at hview
    refine ⟨hview.2.2, ?_⟩
    intro hmem
    exact hkeeps.2 _ hmem id rfl rfl
  · have hrefl : SameForRequest s id p p := ⟨rfl, rfl, rfl, rfl, rfl, hsingle⟩
    exact ((requestUnwinding cfg s id).two_runs hrefl hes hes' hsame).1

theorem release_bufferOfMessage_streamReply
    (sessionId messageId : UInt32)
    (x : Session) :
    (bufferOfMessage ⟨sessionId, messageId, .streamReply⟩).release x = none := by
  have hsize : Body.Sendable Config.default .streamReply := trivial
  have hobtained := (obtainsFrame_bytes (m := ⟨sessionId, messageId, .streamReply⟩) hsize
    (fun _ => 0) [] (fun _ => 0)).obtained
      (holds_of_bytes hsize (fun _ => 0) [] (fun _ => 0)).delimiter
  unfold RingBuffer.release bufferOfMessage
  rw [hobtained]
  simp [releaseOf, Message.commonHeader, Body.type, MessageType.code]

/-- A single-block response brings its payload. -/
theorem releaseOf_singleBlock
    {raw found : Memory}
    {sessionId messageId : UInt32}
    {multiblockId blockerId : UInt64}
    {data : Bytes}
    (hsize : Body.Sendable Config.default (.singleBlock multiblockId blockerId data))
    (hid : blockerId ≠ 0)
    (h : Holds raw found ⟨sessionId, messageId, .singleBlock multiblockId blockerId data⟩)
    (x : Session) :
    releaseOf (Message.mk sessionId messageId
        (.singleBlock multiblockId blockerId data)).commonHeader raw x =
      some (blockerId, some data) := by
  obtain ⟨hdata, hpayload, hblocker, _⟩ := fields_singleBlock hsize h
  have hflags : raw 7 = 0x9 := by
    rw [h.flags, Body.flags, responseFlag_of_ne hid]
    rfl
  have hflag : raw 7 &&& 0x8 ≠ 0 := by
    rw [hflags]
    decide
  have hkind : (Message.mk sessionId messageId
      (.singleBlock multiblockId blockerId data)).commonHeader.type =
        MessageType.singleblockData.code ∧
      (Message.mk sessionId messageId
        (.singleBlock multiblockId blockerId data)).commonHeader.subType =
        SingleblockDataSubType.data.code := ⟨rfl, rfl⟩
  unfold releaseOf
  rw [if_pos hflag, if_pos hkind, hpayload, hdata, hblocker]

theorem release_bufferOfMessage_singleBlock
    (sessionId messageId : UInt32)
    {multiblockId blockerId : UInt64}
    {data : Bytes}
    (hsize : Body.Sendable Config.default (.singleBlock multiblockId blockerId data))
    (hid : blockerId ≠ 0)
    (x : Session) :
    (bufferOfMessage ⟨sessionId, messageId, .singleBlock multiblockId blockerId data⟩).release x =
      some (blockerId, some data) := by
  have hholds := holds_of_bytes
    (m := ⟨sessionId, messageId, .singleBlock multiblockId blockerId data⟩) hsize
    (fun _ => 0) [] (fun _ => 0)
  have hobtained := (obtainsFrame_bytes
    (m := ⟨sessionId, messageId, .singleBlock multiblockId blockerId data⟩) hsize
    (fun _ => 0) [] (fun _ => 0)).obtained hholds.delimiter
  unfold RingBuffer.release bufferOfMessage
  rw [hobtained]
  exact releaseOf_singleBlock hsize hid hholds x

/-- A request with the id 7 over session 1, which is answered on session 0 after another
frame there and a timer step, and on session 2 at once. -/
theorem request_isolated_answered :
    (∀ (r : SessionRef) (buf : RingBuffer) (q : Process), buf.blockerId ≠ some 7 →
      entriesOf 7 ((processMessage Config.default r buf).run q).process.blockerList =
          entriesOf 7 q.blockerList ∧
        .notifyOne 7 ∉ ((processMessage Config.default r buf).run q).outputs) ∧
    outputsOf (requestStep Config.default 7) acceptedState.process
        [.block 1 7 10, .receive 0 (bufferOfMessage ⟨1, 1, .streamReply⟩), .timer,
          .receive 0 (bufferOfMessage ⟨1, 2, .singleBlock 5 7 [1]⟩), .wake 7] =
      outputsOf (requestStep Config.default 7) acceptedState.process
        [.block 1 7 10, .receive 2 (bufferOfMessage ⟨3, 1, .singleBlock 6 7 [1]⟩), .wake 7] := by
  have hdata : ∀ multiblockId blockerId : UInt64,
      Body.Sendable Config.default (.singleBlock multiblockId blockerId [1]) := by
    intro multiblockId blockerId
    simp [Body.Sendable, Config.default]
  refine request_isolated Config.default 1 7 (by decide) ?_ ?_ ?_
  · refine ⟨fun _ => rfl, trivial, ?_, trivial, trivial, trivial⟩
    have hsize : Body.Sendable Config.default .streamReply := trivial
    simp only [requestStep, RequestEvent.Undisturbed]
    rw [(processMessage_bufferOfMessage hsize _ _).1]
    intro b hb _
    have hlist : b ∈ [({ session := 1, blockerId := 7, timer := 10 } : MessageBlocker)] := hb
    rw [List.mem_singleton.mp hlist]
    decide
  · exact ⟨fun _ => rfl, trivial, trivial, trivial⟩
  · simp [observedAlong, RequestEvent.reaching, release_bufferOfMessage_streamReply,
      release_bufferOfMessage_singleBlock _ _ (hdata _ _)]

/-- A response received on session 0 with the id of a request over session 1 is
stored into that request. -/
theorem not_request_isolated :
    ¬ ∀ (r s : SessionRef) (buf : RingBuffer) (p : Process), r ≠ s →
      ∀ b ∈ p.blockerList, b.session = s →
        b ∈ ((processMessage Config.default r buf).run p).process.blockerList := by
  intro hall
  have hsize : Body.Sendable Config.default (.singleBlock 5 7 [1]) := by
    simp [Body.Sendable, Config.default]
  have hblocked := hall 0 1 (bufferOfMessage ⟨1, 1, .singleBlock 5 7 [1]⟩)
    { acceptedState.process with
      blockerList := [{ session := 1, blockerId := 7, timer := 10 }] }
    (by decide) { session := 1, blockerId := 7, timer := 10 } List.mem_cons_self rfl
  rw [(processMessage_bufferOfMessage hsize _ _).1] at hblocked
  have hreply : (Message.mk 1 1 (.singleBlock 5 7 [1])).isReply = false := by decide
  simp [Message.handle, hreply, Body.handle, sendDataSingleBlockReply,
    MessageBlockerHandler.storeResponse] at hblocked

end SakuraNetwork

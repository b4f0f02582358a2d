import SakuraNetwork.Handler.ReplyHandler

/-!
# Sending messages

`Session::sendMessage` and the send functions of the message types.  A message
that opens an exchange takes the next message id of the session; a reply takes
the message id of the message it answers.

* `run_sendMessage`: what a send does to the process and to the socket.
* `SendFrame`: what any number of sends leaves unchanged.
* `OnlySends`: the operations that do nothing but send.
-/

namespace SakuraNetwork

open Lib

/-- `Session::increaseMessageIdCounter`. -/
def increaseMessageIdCounter (s : SessionRef) : Act UInt32 := do
  modifySession s (fun x => { x with messageIdCounter := x.messageIdCounter + 1 })
  let x ← getSession s
  pure x.messageIdCounter

/-- `Session::getRandId`. -/
def getRandId : Act UInt64 := do
  let p ← Act.get
  Act.modify (fun p => { p with randCount := p.randCount + 1 })
  pure (p.randIds p.randCount)

namespace Socket

/-- The outcome of the next send. -/
def sendSucceeds (k : Socket) : Bool :=
  k.isOpen && k.sendResults k.sendCount

def countSend (k : Socket) : Socket :=
  { k with sendCount := k.sendCount + 1 }

end Socket

/-- `AbstractSocket::sendMessage` on the socket of the session. -/
def socketSendMessage (s : SessionRef) (k : Socket) (m : Message) : Act Bool := do
  modifySession s (fun x => { x with socket := some k.countSend })
  if k.sendSucceeds then
    Act.emit (.sent s m)
    pure true
  else pure false

/-- `Session::sendMessage`. -/
def sendMessage (s : SessionRef) (m : Message) : Act Bool := do
  let x ← getSession s
  match x.socket with
  | none => pure false
  | some k => do
      if m.replyRequired then
        ReplyHandler.addMessage m.body.type.code m.sessionId m.messageId s
      socketSendMessage s k m

/-- Send a message with the session id and a new message id. -/
def sendNew (s : SessionRef) (body : Body) : Act Bool := do
  let x ← getSession s
  let messageId ← increaseMessageIdCounter s
  sendMessage s { sessionId := x.sessionId, messageId := messageId, body := body }

/-- Send a message with the session id and a given message id. -/
def sendReply (s : SessionRef) (messageId : UInt32) (body : Body) : Act Bool := do
  let x ← getSession s
  sendMessage s { sessionId := x.sessionId, messageId := messageId, body := body }

/-! ## Session messages -/

/-- `send_Session_Init_Start`. -/
def sendSessionInitStart (s : SessionRef) (sessionIdentifier : Bytes) : Act Bool := do
  let x ← getSession s
  Act.touch (.write sessionIdentifier.length 64000)
  sendNew s (.sessionInitStart x.sessionId sessionIdentifier)

/-- `send_Session_Init_Reply`: the header carries the initial id of the client. -/
def sendSessionInitReply
    (s : SessionRef)
    (initialSessionId messageId completeSessionId : UInt32)
    (sessionIdentifier : Bytes) : Act Bool := do
  Act.touch (.write sessionIdentifier.length 64000)
  sendMessage s
    { sessionId := initialSessionId
      messageId := messageId
      body := .sessionInitReply initialSessionId completeSessionId sessionIdentifier }

/-- `send_Session_Close_Start`. -/
def sendSessionCloseStart (s : SessionRef) (replyExpected : Bool) : Act Bool :=
  sendNew s (.sessionCloseStart replyExpected)

/-- `send_Session_Close_Reply`. -/
def sendSessionCloseReply (s : SessionRef) (messageId : UInt32) : Act Bool :=
  sendReply s messageId .sessionCloseReply

/-! ## Heartbeats and errors -/

/-- `send_Heartbeat_Start`. -/
def sendHeartbeatStart (s : SessionRef) : Act Bool :=
  sendNew s .heartbeatStart

/-- `send_Heartbeat_Reply`. -/
def sendHeartbeatReply (s : SessionRef) (messageId : UInt32) : Act Bool :=
  sendReply s messageId .heartbeatReply

/-- `strncpy` into a field: the text up to its first null byte, then zeros. -/
def strncpy (src : Bytes) (n : Nat) : Bytes :=
  let text := (src.takeWhile (fun b => b != 0)).take n
  text ++ List.replicate (n - text.length) 0

@[simp] theorem strncpy_length (src : Bytes) (n : Nat) :
    (strncpy src n).length = n := by
  simp only [strncpy, List.length_append, List.length_take, List.length_replicate]
  omega

/-- The message subtype of an error code; other codes send nothing. -/
def ErrorCode.subType : ErrorCode → Option ErrorSubType
  | .falseVersion => some .falseVersion
  | .unknownSession => some .unknownSession
  | .invalidMessageSize => some .invalidMessage
  | _ => none

/-- `send_ErrorMessage`. -/
def sendErrorMessage
    (cfg : Config)
    (s : SessionRef)
    (errorCode : ErrorCode)
    (errorMessage : Bytes) : Act Bool :=
  match errorCode.subType with
  | some subType =>
      let messageSize :=
        if errorMessage.length > cfg.maxSingleMessageSize - 1 then cfg.maxSingleMessageSize - 1
        else errorMessage.length
      sendNew s (.error subType (strncpy errorMessage messageSize))
  | none => pure true

/-! ## Data messages -/

/-- `send_Data_Stream` with a data pointer. -/
def sendDataStream (s : SessionRef) (data : Bytes) (replyExpected : Bool) : Act Bool :=
  sendNew s (.stream replyExpected data)

/-- `send_Data_Stream_Reply`. -/
def sendDataStreamReply (s : SessionRef) (messageId : UInt32) : Act Bool :=
  sendReply s messageId .streamReply

/-- `send_Data_SingleBlock`. -/
def sendDataSingleBlock
    (s : SessionRef)
    (multiblockId : UInt64)
    (data : Bytes)
    (blockerId : UInt64 := 0) : Act Bool :=
  sendNew s (.singleBlock multiblockId blockerId data)

/-- `send_Data_SingleBlock_Reply`. -/
def sendDataSingleBlockReply (s : SessionRef) (messageId : UInt32) : Act Bool :=
  sendReply s messageId .singleBlockReply

/-- `send_Data_Multi_Static`. -/
def sendDataMultiStatic
    (s : SessionRef)
    (totalSize multiblockId : UInt64)
    (totalPartNumber partId : UInt32)
    (data : Bytes)
    (blockerId : UInt64 := 0) : Act Bool :=
  sendNew s (.multiStatic totalSize multiblockId totalPartNumber partId data blockerId)

/-- `send_Data_Multi_Finish`. -/
def sendDataMultiFinish (s : SessionRef) (multiblockId blockerId : UInt64) : Act Bool :=
  sendNew s (.multiFinish multiblockId blockerId)

/-! ## What a send does -/

@[simp] theorem run_increaseMessageIdCounter (s : SessionRef) (p : Process) :
    (increaseMessageIdCounter s).run p =
      { value := (p.session s).messageIdCounter + 1
        process := p.modifySession s
          (fun x => { x with messageIdCounter := x.messageIdCounter + 1 }) } := by
  simp [increaseMessageIdCounter]

@[simp] theorem run_increaseMessageIdCounter_bind
    {β : Type}
    (s : SessionRef)
    (f : UInt32 → Act β)
    (p : Process) :
    (increaseMessageIdCounter s >>= f).run p =
      (f ((p.session s).messageIdCounter + 1)).run
        (p.modifySession s (fun x => { x with messageIdCounter := x.messageIdCounter + 1 })) := by
  simp only [Act.run_bind, run_increaseMessageIdCounter, List.nil_append]

@[simp] theorem run_getRandId_bind
    {β : Type}
    (f : UInt64 → Act β)
    (p : Process) :
    (getRandId >>= f).run p =
      (f (p.randIds p.randCount)).run { p with randCount := p.randCount + 1 } := rfl

/-- The reply list after a message was recorded, if it expects a reply. -/
def Process.record (p : Process) (s : SessionRef) (m : Message) : Process :=
  if m.replyRequired then
    { p with replyList := p.replyList ++
      [{ completeMessageId := ReplyHandler.completeMessageId m.sessionId m.messageId
         messageType := m.body.type.code
         session := s }] }
  else p

@[simp] theorem Process.record_session (p : Process) (s r : SessionRef) (m : Message) :
    (p.record s m).session r = p.session r := by
  unfold Process.record
  split <;> rfl

@[simp] theorem Process.record_sessions (p : Process) (s : SessionRef) (m : Message) :
    (p.record s m).sessions = p.sessions := by
  unfold Process.record
  split <;> rfl

@[simp] theorem Process.record_blockerList (p : Process) (s : SessionRef) (m : Message) :
    (p.record s m).blockerList = p.blockerList := by
  unfold Process.record
  split <;> rfl

@[simp] theorem Process.record_sessionIdCounter (p : Process) (s : SessionRef) (m : Message) :
    (p.record s m).sessionIdCounter = p.sessionIdCounter := by
  unfold Process.record
  split <;> rfl

@[simp] theorem Process.record_allocation (p : Process) (s : SessionRef) (m : Message) :
    (p.record s m).allocation = p.allocation := by
  unfold Process.record
  split <;> rfl

/-- A send records the message if it expects a reply, and hands it to the
socket. -/
theorem run_sendMessage (s : SessionRef) (m : Message) (p : Process) :
    (sendMessage s m).run p =
      match (p.session s).socket with
      | none => { value := false, process := p }
      | some k =>
          { value := k.sendSucceeds
            process := (p.record s m).modifySession s
              (fun x => { x with socket := some k.countSend })
            outputs := if k.sendSucceeds then [.sent s m] else [] } := by
  unfold sendMessage
  rw [run_getSession_bind]
  cases hsocket : (p.session s).socket with
  | none =>
      rfl
  | some k =>
      by_cases hreply : m.replyRequired = true
      · by_cases hsend : k.sendSucceeds = true
        · simp [hreply, hsend, socketSendMessage, Act.run_bind, Process.record]
        · simp [hreply, hsend, socketSendMessage, Act.run_bind, Process.record]
      · by_cases hsend : k.sendSucceeds = true
        · simp [hreply, hsend, socketSendMessage, Act.run_bind, Process.record]
        · simp [hreply, hsend, socketSendMessage, Act.run_bind, Process.record]

/-- The message that the next `sendNew` hands to the socket. -/
def Process.nextMessage (p : Process) (s : SessionRef) (body : Body) : Message where
  sessionId := (p.session s).sessionId
  messageId := (p.session s).messageIdCounter + 1
  body := body

theorem run_sendNew (s : SessionRef) (body : Body) (p : Process) :
    (sendNew s body).run p =
      (sendMessage s (p.nextMessage s body)).run (p.modifySession s
        (fun x => { x with messageIdCounter := x.messageIdCounter + 1 })) := by
  rw [sendNew, run_getSession_bind, run_increaseMessageIdCounter_bind]
  rfl

theorem run_sendReply (s : SessionRef) (messageId : UInt32) (body : Body) (p : Process) :
    (sendReply s messageId body).run p =
      (sendMessage s
        { sessionId := (p.session s).sessionId, messageId := messageId, body := body }).run p := rfl

/-- The socket takes the next send of the session. -/
def Session.Accepts (x : Session) : Prop :=
  ∃ k, x.socket = some k ∧ k.sendSucceeds = true

/-- A send reports whether the socket took the message. -/
theorem sendNew_value_iff (s : SessionRef) (body : Body) (p : Process) :
    ((sendNew s body).run p).value = true ↔ (p.session s).Accepts := by
  rw [run_sendNew, run_sendMessage, Session.Accepts]
  simp only [Process.modifySession_same]
  cases (p.session s).socket with
  | none =>
      simp
  | some k =>
      simp

/-- A send hands its message to the socket, or nothing where it fails. -/
theorem sendNew_outputs (s : SessionRef) (body : Body) (p : Process) :
    ((sendNew s body).run p).outputs =
      if ((sendNew s body).run p).value then [.sent s (p.nextMessage s body)] else [] := by
  rw [run_sendNew, run_sendMessage]
  simp only [Process.modifySession_same]
  cases (p.session s).socket with
  | none =>
      rfl
  | some k =>
      rfl

/-- The socket of the session is open, and its sends succeed. -/
def Session.Sends (x : Session) : Prop :=
  ∃ k, x.socket = some k ∧ k.isOpen = true ∧ ∀ n, k.sendResults n = true

/-- Over a working socket every send succeeds, and the socket keeps working. -/
theorem sendMessage_of_sends
    {s : SessionRef}
    {p : Process}
    (h : (p.session s).Sends)
    (m : Message) :
    ((sendMessage s m).run p).value = true ∧
    ((sendMessage s m).run p).outputs = [.sent s m] ∧
    (((sendMessage s m).run p).process.session s).Sends := by
  obtain ⟨k, hsocket, hopen, hresults⟩ := h
  have hsend : k.sendSucceeds = true := by
    simp [Socket.sendSucceeds, hopen, hresults]
  rw [run_sendMessage, hsocket]
  simp only [hsend, if_true, Process.modifySession_same, true_and]
  exact ⟨k.countSend, rfl, hopen, hresults⟩

theorem sendNew_of_sends
    {s : SessionRef}
    {p : Process}
    (h : (p.session s).Sends)
    (body : Body) :
    ((sendNew s body).run p).value = true ∧
    ((sendNew s body).run p).outputs = [.sent s (p.nextMessage s body)] ∧
    (((sendNew s body).run p).process.session s).Sends := by
  rw [run_sendNew]
  refine sendMessage_of_sends ?_ _
  rw [Process.modifySession_same]
  exact h

/-- The list got further messages of the session, none of them ignored. -/
def RecordedFor (s : SessionRef) (l l' : List MessageTime) : Prop :=
  ∃ added, l' = l ++ added ∧ ∀ m ∈ added, m.session = s ∧ m.ignoreResult = false

theorem RecordedFor.refl (s : SessionRef) (l : List MessageTime) : RecordedFor s l l :=
  ⟨[], (List.append_nil l).symm, fun _ h => by cases h⟩

theorem RecordedFor.trans
    {s : SessionRef}
    {l l' l'' : List MessageTime}
    (h : RecordedFor s l l')
    (h' : RecordedFor s l' l'') :
    RecordedFor s l l'' := by
  obtain ⟨added, rfl, hadded⟩ := h
  obtain ⟨added', rfl, hadded'⟩ := h'
  refine ⟨added ++ added', List.append_assoc _ _ _, ?_⟩
  intro m hm
  rcases List.mem_append.mp hm with hleft | hright
  · exact hadded m hleft
  · exact hadded' m hright

theorem Process.recordedFor_record (p : Process) (s : SessionRef) (m : Message) :
    RecordedFor s p.replyList (p.record s m).replyList := by
  unfold Process.record
  split
  · refine ⟨_, rfl, ?_⟩
    intro e he
    rw [List.mem_singleton.mp he]
    exact ⟨rfl, rfl⟩
  · exact RecordedFor.refl s p.replyList

/-- What sends over a session leave unchanged: everything except the random ids,
and the socket and the message ids of the session; to the pending replies they
only add. -/
structure SendFrame (s : SessionRef) (p p' : Process) : Prop where
  other : ∀ r, r ≠ s → p'.session r = p.session r
  self : ∃ k c, p'.session s = { p.session s with socket := k, messageIdCounter := c }
  isOpen : (p'.session s).socket.map Socket.isOpen = (p.session s).socket.map Socket.isOpen
  initResult : (p'.session s).socket.map Socket.initResult =
    (p.session s).socket.map Socket.initResult
  sendResults : (p'.session s).socket.map Socket.sendResults =
    (p.session s).socket.map Socket.sendResults
  sessions : p'.sessions = p.sessions
  sessionIdCounter : p'.sessionIdCounter = p.sessionIdCounter
  blockerList : p'.blockerList = p.blockerList
  allocation : p'.allocation = p.allocation
  replyList : RecordedFor s p.replyList p'.replyList

theorem SendFrame.refl (s : SessionRef) (p : Process) : SendFrame s p p where
  other := fun _ _ => rfl
  self := ⟨_, _, rfl⟩
  isOpen := rfl
  initResult := rfl
  sendResults := rfl
  sessions := rfl
  sessionIdCounter := rfl
  blockerList := rfl
  allocation := rfl
  replyList := RecordedFor.refl s p.replyList

theorem SendFrame.trans
    {s : SessionRef}
    {p q r : Process}
    (h : SendFrame s p q)
    (h' : SendFrame s q r) :
    SendFrame s p r := by
  obtain ⟨k, c, hself⟩ := h.self
  obtain ⟨k', c', hself'⟩ := h'.self
  constructor
  · intro t ht
    rw [h'.other t ht, h.other t ht]
  · exact ⟨k', c', by rw [hself', hself]⟩
  · rw [h'.isOpen, h.isOpen]
  · rw [h'.initResult, h.initResult]
  · rw [h'.sendResults, h.sendResults]
  · rw [h'.sessions, h.sessions]
  · rw [h'.sessionIdCounter, h.sessionIdCounter]
  · rw [h'.blockerList, h.blockerList]
  · rw [h'.allocation, h.allocation]
  · exact h.replyList.trans h'.replyList

theorem SendFrame.any_isOpen
    {s : SessionRef}
    {p p' : Process}
    (h : SendFrame s p p') :
    (p'.session s).socket.any Socket.isOpen = (p.session s).socket.any Socket.isOpen := by
  have hany : ∀ k : Option Socket, k.any Socket.isOpen = (k.map Socket.isOpen).getD false := by
    intro k
    cases k <;> rfl
  rw [hany, hany, h.isOpen]

theorem SendFrame.sessionId
    {s : SessionRef}
    {p p' : Process}
    (h : SendFrame s p p') :
    (p'.session s).sessionId = (p.session s).sessionId := by
  obtain ⟨k, c, hself⟩ := h.self
  rw [hself]

/-- The message is sent under a session id: an init reply is addressed to the id of
the client. -/
def Message.SentUnder (m : Message) (sessionId : UInt32) : Prop :=
  m.sessionId = sessionId ∨ ∃ clientSessionId completeSessionId sessionIdentifier,
    m.body = .sessionInitReply clientSessionId completeSessionId sessionIdentifier

/-- An operation that does nothing but send messages with property `P` over a
session, under the id of the session; over a closed socket nothing is sent. -/
structure OnlySends {α : Type} (s : SessionRef) (P : Body → Prop) (x : Act α) : Prop where
  frame : ∀ p, SendFrame s p (x.run p).process
  outputs : ∀ p, ∀ o ∈ (x.run p).outputs,
    ∃ m, o = .sent s m ∧ P m.body ∧ m.SentUnder (p.session s).sessionId
  closed : ∀ p, (p.session s).socket.any Socket.isOpen = false → (x.run p).outputs = []

namespace OnlySends

variable {α β : Type} {s : SessionRef} {P : Body → Prop}

theorem mono
    {Q : Body → Prop}
    {x : Act α}
    (h : OnlySends s P x)
    (hPQ : ∀ b, P b → Q b) :
    OnlySends s Q x where
  frame := h.frame
  outputs := fun p o ho => by
    obtain ⟨m, rfl, hm, hunder⟩ := h.outputs p o ho
    exact ⟨m, rfl, hPQ _ hm, hunder⟩
  closed := h.closed

theorem pure (a : α) : OnlySends s P (pure a : Act α) where
  frame := fun p => SendFrame.refl s p
  outputs := fun _ _ h => by cases h
  closed := fun _ _ => rfl

theorem bind
    {x : Act α}
    {f : α → Act β}
    (hx : OnlySends s P x)
    (hf : ∀ a, OnlySends s P (f a)) :
    OnlySends s P (x >>= f) where
  frame := fun p => (hx.frame p).trans ((hf _).frame _)
  outputs := fun p o ho => by
    rcases List.mem_append.mp ho with h | h
    · exact hx.outputs p o h
    · rw [← (hx.frame p).sessionId]
      exact (hf _).outputs _ o h
  closed := fun p hclosed => by
    have hafter := hclosed
    rw [← (hx.frame p).any_isOpen] at hafter
    rw [Act.run_bind, hx.closed p hclosed, (hf _).closed _ hafter]
    rfl

theorem ite
    {c : Prop}
    [Decidable c]
    {x y : Act α}
    (hx : c → OnlySends s P x)
    (hy : ¬ c → OnlySends s P y) :
    OnlySends s P (if c then x else y) := by
  split
  · exact hx ‹_›
  · exact hy ‹_›

theorem getSession (r : SessionRef) : OnlySends s P (getSession r) where
  frame := fun p => SendFrame.refl s p
  outputs := fun _ _ h => by cases h
  closed := fun _ _ => rfl

theorem touch (a : Access) : OnlySends s P (Act.touch a) where
  frame := fun p => SendFrame.refl s p
  outputs := fun _ _ h => by cases h
  closed := fun _ _ => rfl

theorem getRandId : OnlySends s P getRandId where
  frame := fun _ =>
    ⟨fun _ _ => rfl, ⟨_, _, rfl⟩, rfl, rfl, rfl, rfl, rfl, rfl, rfl, RecordedFor.refl s _⟩
  outputs := fun _ _ h => by cases h
  closed := fun _ _ => rfl

theorem increaseMessageIdCounter : OnlySends s P (increaseMessageIdCounter s) := by
  constructor
  · intro p
    rw [run_increaseMessageIdCounter]
    constructor
    · intro r hr
      simp only [p.modifySession_other _ hr]
    · refine ⟨(p.session s).socket, (p.session s).messageIdCounter + 1, ?_⟩
      simp only [Process.modifySession_same]
    · simp
    · simp
    · simp
    · rfl
    · rfl
    · rfl
    · rfl
    · exact RecordedFor.refl s p.replyList
  · intro p o ho
    rw [run_increaseMessageIdCounter] at ho
    cases ho
  · intro p _
    rw [run_increaseMessageIdCounter]

theorem frame_sendMessage
    (m : Message)
    (p : Process) :
    SendFrame s p ((sendMessage s m).run p).process := by
  rw [run_sendMessage]
  cases hsocket : (p.session s).socket with
  | none =>
      exact SendFrame.refl s p
  | some k =>
      constructor
      · intro r hr
        simp only [Process.modifySession_other _ _ hr, Process.record_session]
      · refine ⟨some k.countSend, (p.session s).messageIdCounter, ?_⟩
        simp only [Process.modifySession_same, Process.record_session]
      · simp only [Process.modifySession_same, hsocket]
        rfl
      · simp only [Process.modifySession_same, hsocket]
        rfl
      · simp only [Process.modifySession_same, hsocket]
        rfl
      · simp
      · simp
      · simp
      · simp
      · exact p.recordedFor_record s m

theorem outputs_sendMessage
    {m : Message}
    {p : Process}
    {o : Output}
    (ho : o ∈ ((sendMessage s m).run p).outputs) :
    o = .sent s m := by
  rw [run_sendMessage] at ho
  cases hsocket : (p.session s).socket with
  | none =>
      rw [hsocket] at ho
      cases ho
  | some k =>
      rw [hsocket] at ho
      simp only at ho
      split at ho
      · exact List.mem_singleton.mp ho
      · cases ho

/-- A closed socket takes no message. -/
theorem closed_sendMessage
    (m : Message)
    {p : Process}
    (hclosed : (p.session s).socket.any Socket.isOpen = false) :
    ((sendMessage s m).run p).outputs = [] := by
  rw [run_sendMessage]
  cases hsocket : (p.session s).socket with
  | none =>
      rfl
  | some k =>
      have hopen : k.isOpen = false := by simpa [hsocket] using hclosed
      simp [Socket.sendSucceeds, hopen]

theorem sendNew
    {body : Body}
    (hbody : P body) :
    OnlySends s P (sendNew s body) where
  frame := fun p => by
    have hcount := (increaseMessageIdCounter (s := s) (P := P)).frame p
    rw [run_increaseMessageIdCounter] at hcount
    have hsend := frame_sendMessage (s := s) (p.nextMessage s body)
      (p.modifySession s (fun x => { x with messageIdCounter := x.messageIdCounter + 1 }))
    rw [run_sendNew]
    exact hcount.trans hsend
  outputs := fun p o ho => by
    rw [run_sendNew] at ho
    exact ⟨p.nextMessage s body, outputs_sendMessage ho, hbody, Or.inl rfl⟩
  closed := fun p hclosed => by
    rw [run_sendNew]
    refine closed_sendMessage _ ?_
    rw [Process.modifySession_same]
    exact hclosed

theorem sendReply
    {body : Body}
    (hbody : P body)
    (messageId : UInt32) :
    OnlySends s P (sendReply s messageId body) where
  frame := fun p => by
    rw [run_sendReply]
    exact frame_sendMessage _ p
  outputs := fun p o ho => by
    rw [run_sendReply] at ho
    exact ⟨_, outputs_sendMessage ho, hbody, Or.inl rfl⟩
  closed := fun p hclosed => by
    rw [run_sendReply]
    exact closed_sendMessage _ hclosed

theorem sendSessionInitReply
    {initialSessionId messageId completeSessionId : UInt32}
    {sessionIdentifier : Bytes}
    (hbody : P (.sessionInitReply initialSessionId completeSessionId sessionIdentifier)) :
    OnlySends s P
      (sendSessionInitReply s initialSessionId messageId completeSessionId sessionIdentifier) := by
  have hrun : ∀ p, ((SakuraNetwork.sendSessionInitReply s initialSessionId messageId
      completeSessionId sessionIdentifier).run p).result = ((SakuraNetwork.sendMessage s
        { sessionId := initialSessionId
          messageId := messageId
          body := .sessionInitReply initialSessionId completeSessionId sessionIdentifier }).run
            p).result := fun _ => rfl
  simp only [Outcome.result, Prod.mk.injEq] at hrun
  constructor
  · intro p
    rw [(hrun p).2.1]
    exact frame_sendMessage _ p
  · intro p o ho
    rw [(hrun p).2.2] at ho
    exact ⟨_, outputs_sendMessage ho, hbody, Or.inr ⟨_, _, _, rfl⟩⟩
  · intro p hclosed
    rw [(hrun p).2.2]
    exact closed_sendMessage _ hclosed

/-- The text of an error message is cut before the maximum. -/
theorem sendErrorMessage
    {cfg : Config}
    (hP : ∀ subType message, message.length ≤ cfg.maxSingleMessageSize - 1 →
      P (.error subType message))
    (errorCode : ErrorCode)
    (errorMessage : Bytes) :
    OnlySends s P (sendErrorMessage cfg s errorCode errorMessage) := by
  unfold SakuraNetwork.sendErrorMessage
  cases errorCode.subType with
  | none =>
      exact pure true
  | some subType =>
      refine sendNew (hP subType _ ?_)
      rw [strncpy_length]
      split <;> omega

end OnlySends

end SakuraNetwork

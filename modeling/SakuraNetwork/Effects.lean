import SakuraNetwork.Callbacks

/-!
# What the processing of a frame can do

An `Effect` relates the process before an operation, what can be observed of the
operation, and the process after it.  An effect that contains the primitive
steps of the handlers contains the processing of every frame, so a statement
about all frames needs one argument for each primitive step.

* `RingBuffer.obtained`: what `processMessage` finds at the front of the buffer.
* `processMessage_result`: what it does in each case.
* `within_processMessage`: the effects that contain it.
* `RingBuffer.blockerId`: the blocker-id of a response; only a response releases
  a blocked request, and only that of its blocker-id.
-/

namespace SakuraNetwork

open Lib

/-- What operations of some kind may do; doing nothing and doing one after the
other are of the kind. -/
structure Effect where
  rel : Process → List Output → Process → Prop
  refl : ∀ p, rel p [] p
  trans : ∀ {p q r : Process} {o o' : List Output}, rel p o q → rel q o' r → rel p (o ++ o') r

/-- The operation does nothing else, whatever the process. -/
def Act.Within {α : Type} (E : Effect) (x : Act α) : Prop :=
  ∀ p, E.rel p (x.run p).outputs (x.run p).process

namespace Act.Within

variable {α β : Type} {E : Effect}

theorem pure (a : α) : Act.Within E (pure a : Act α) :=
  fun p => E.refl p

theorem bind
    {x : Act α}
    {f : α → Act β}
    (hx : Act.Within E x)
    (hf : ∀ a, Act.Within E (f a)) :
    Act.Within E (x >>= f) :=
  fun p => E.trans (hx p) (hf _ _)

theorem ite
    {c : Prop}
    [Decidable c]
    {x y : Act α}
    (hx : c → Act.Within E x)
    (hy : ¬ c → Act.Within E y) :
    Act.Within E (if c then x else y) := by
  split
  · exact hx ‹_›
  · exact hy ‹_›

theorem getSession (s : SessionRef) : Act.Within E (getSession s) :=
  fun p => E.refl p

theorem touch (a : Access) : Act.Within E (Act.touch a) :=
  fun p => E.refl p

theorem get : Act.Within E Act.get :=
  fun p => E.refl p

/-- A read of the frame has no effect; the rest may use the value it has. -/
theorem readUInt8
    {rawMessage : Memory}
    {offset : Nat}
    {f : UInt8 → Act β}
    (hf : Act.Within E (f (rawMessage offset))) :
    Act.Within E (readUInt8 rawMessage offset >>= f) :=
  hf

theorem readUInt32
    {rawMessage : Memory}
    {offset : Nat}
    {f : UInt32 → Act β}
    (hf : Act.Within E (f (UInt32.ofNat (rawMessage.word offset 4)))) :
    Act.Within E (readUInt32 rawMessage offset >>= f) :=
  hf

theorem readUInt64
    {rawMessage : Memory}
    {offset : Nat}
    {f : UInt64 → Act β}
    (hf : Act.Within E (f (UInt64.ofNat (rawMessage.word offset 8)))) :
    Act.Within E (readUInt64 rawMessage offset >>= f) :=
  hf

theorem readBytes
    {rawMessage : Memory}
    {offset size : Nat}
    {f : Bytes → Act β}
    (hf : Act.Within E (f (rawMessage.slice offset size))) :
    Act.Within E (readBytes rawMessage offset size >>= f) :=
  hf

end Act.Within

/-! ## The primitive steps of the handlers -/

/-- The session whose application gets the data of a callback. -/
def Output.data : Output → Option SessionRef
  | .processStreamData s _ | .processRequestData s _ _ => some s
  | _ => none

/-- The session whose error callback is called. -/
def Output.error : Output → Option SessionRef
  | .processError s _ _ => some s
  | _ => none

/-- The steps of the handlers of data, heartbeat and error messages, and of every
reply: the buffers of multi-block messages are changed if `buffers` holds, and
blocked requests are released for ids with property `released`, pending replies are
removed or marked if `replies` holds, the application is called with data and errors
that have the property `called`, and messages of the handshake are sent if `opens`
holds. -/
structure AdmitsData
    (E : Effect)
    (s : SessionRef)
    (buffers : Prop)
    (released : UInt64 → Prop)
    (replies : Prop := True)
    (called : Output → Prop := fun _ => True)
    (opens : Prop := True) : Prop where
  sends : ∀ {p p' : Process} {outs : List Output}, SendFrame s p p' →
    (∀ o ∈ outs, ∃ m, o = .sent s m ∧ (m.body.opensSession = true → opens) ∧
      m.SentUnder (p.session s).sessionId) → E.rel p outs p'
  replyList : replies → ∀ (p : Process) (l : List MessageTime),
    E.rel p [] { p with replyList := l }
  incomingBuffer : buffers → ∀ (p : Process)
    (f : OrderedMap UInt64 MultiblockBuffer → OrderedMap UInt64 MultiblockBuffer),
    E.rel p [] (p.modifySession s (fun x => { x with incomingBuffer := f x.incomingBuffer }))
  initState : ∀ p : Process, E.rel p [] (p.setInitState s (-1))
  stream : ∀ (p : Process) (data : Bytes), called (.processStreamData s data) →
    E.rel p [.processStreamData s data] p
  request : ∀ (p : Process) (id : UInt64) (data : Option Bytes),
    called (.processRequestData s id data) → E.rel p [.processRequestData s id data] p
  error : ∀ (p : Process) (code : ErrorCode) (text : ErrorText),
    called (.processError s code text) → E.rel p [.processError s code text] p
  release : ∀ (p : Process) (id : UInt64) (data : Option Bytes), released id →
    E.rel p (if p.blockerList.any (fun b => b.blockerId == id) then [.notifyOne id] else [])
      { p with blockerList := MessageBlockerHandler.storeResponse id data p.blockerList }

/-- The further steps of the session messages.  A session that was released from its
wait for the handshake stays released. -/
structure AdmitsSession (E : Effect) (s : SessionRef) : Prop where
  sessionIdCounter : ∀ (p : Process) (c : UInt16), E.rel p [] { p with sessionIdCounter := c }
  registered : ∀ (p : Process) (id : UInt32),
    E.rel p [] { p with sessions := p.sessions.emplace id s }
  unregistered : ∀ (p : Process) (id : UInt32),
    E.rel p [] { p with sessions := p.sessions.remove id }
  members : ∀ (p : Process) (f : Session → Session),
    (∀ x, (f x).incomingBuffer = x.incomingBuffer) →
    (∀ x, x.initState ≠ 0 → (f x).initState ≠ 0) → E.rel p [] (p.modifySession s f)
  created : ∀ (p : Process) (sessionId : UInt32) (identifier : Bytes),
    E.rel p [.processCreateSession s sessionId identifier] p
  closed : ∀ (p : Process) (identifier : Bytes),
    E.rel p [.processCloseSession s identifier] p

/-- A weaker effect has the steps, too. -/
theorem AdmitsData.mono
    {E F : Effect}
    {s : SessionRef}
    {buffers : Prop}
    {released : UInt64 → Prop}
    {replies : Prop}
    {called : Output → Prop}
    {opens : Prop}
    (h : AdmitsData E s buffers released replies called opens)
    (hle : ∀ {p p' : Process} {outs : List Output}, E.rel p outs p' → F.rel p outs p') :
    AdmitsData F s buffers released replies called opens where
  sends := fun hframe houts => hle (h.sends hframe houts)
  replyList := fun hreplies p l => hle (h.replyList hreplies p l)
  incomingBuffer := fun hbuffers p f => hle (h.incomingBuffer hbuffers p f)
  initState := fun p => hle (h.initState p)
  stream := fun p data hcalled => hle (h.stream p data hcalled)
  request := fun p id data hcalled => hle (h.request p id data hcalled)
  error := fun p code text hcalled => hle (h.error p code text hcalled)
  release := fun p id data hid => hle (h.release p id data hid)

section DataHandlers

variable {E : Effect} {s : SessionRef} {buffers : Prop} {released : UInt64 → Prop}
  {replies : Prop} {called : Output → Prop} {opens : Prop}

theorem OnlySends.within
    {α : Type}
    {P : Body → Prop}
    {x : Act α}
    (h : OnlySends s P x)
    (hE : AdmitsData E s buffers released replies called opens)
    (hP : ∀ b, P b → b.opensSession = true → opens := by intro _ _ _; trivial) :
    x.Within E := by
  intro p
  refine hE.sends (h.frame p) ?_
  intro o ho
  obtain ⟨m, rfl, hbody, hunder⟩ := h.outputs p o ho
  exact ⟨m, rfl, hP _ hbody, hunder⟩

/-- A message that is not of the handshake is sent. -/
theorem OnlySends.within_plain
    {α : Type}
    {x : Act α}
    (h : OnlySends s Body.Plain x)
    (hE : AdmitsData E s buffers released replies called opens) :
    x.Within E :=
  h.within hE fun _ hplain hopens => absurd (hplain.symm.trans hopens) Bool.false_ne_true

theorem within_releaseMessage
    (hE : AdmitsData E s buffers released replies called opens)
    {id : UInt64}
    (hid : released id)
    (data : Option Bytes) :
    (MessageBlockerHandler.releaseMessage id data).Within E := by
  intro p
  rw [MessageBlockerHandler.releaseMessage_process, MessageBlockerHandler.releaseMessage_outputs]
  exact hE.release p id data hid

theorem within_removeMessage
    (hE : AdmitsData E s buffers released replies called opens)
    (hreplies : replies)
    (sessionId messageId : UInt32) :
    (ReplyHandler.removeMessage sessionId messageId).Within E := by
  intro p
  rw [ReplyHandler.removeMessage_process, ReplyHandler.removeMessage_outputs]
  exact hE.replyList hreplies p _

theorem within_createIncomingBuffer
    (hE : AdmitsData E s buffers released replies called opens)
    (hbuffers : buffers)
    (multiblockId size : UInt64) :
    (MultiblockIo.createIncomingBuffer s multiblockId size).Within E := by
  refine Act.Within.get.bind fun p => Act.Within.ite (fun _ => ?_) fun _ => Act.Within.pure false
  refine Act.Within.bind ?_ fun _ => Act.Within.pure true
  exact fun q => hE.incomingBuffer hbuffers q (fun b => b.emplace multiblockId _)

theorem within_writeIntoIncomingBuffer
    (hE : AdmitsData E s buffers released replies called opens)
    (hbuffers : buffers)
    (multiblockId : UInt64)
    (rawMessage : Memory)
    (offset size : Nat) :
    (MultiblockIo.writeIntoIncomingBuffer s multiblockId
      (readBytes rawMessage offset size)).Within E := by
  refine (Act.Within.getSession s).bind fun x => ?_
  cases x.incomingBuffer.find multiblockId with
  | none =>
      exact Act.Within.pure false
  | some _ =>
      refine Act.Within.readBytes (Act.Within.bind ?_ fun _ => Act.Within.pure true)
      exact fun q => hE.incomingBuffer hbuffers q (fun b => b.modify multiblockId _)

theorem within_removeMultiblockBuffer
    (hE : AdmitsData E s buffers released replies called opens)
    (hbuffers : buffers)
    (multiblockId : UInt64) :
    (MultiblockIo.removeMultiblockBuffer s multiblockId).Within E := by
  intro p
  rw [MultiblockIo.run_removeMultiblockBuffer]
  exact hE.incomingBuffer hbuffers p (fun b => b.remove multiblockId)

theorem within_getIncomingBuffer (multiblockId : UInt64) :
    (MultiblockIo.getIncomingBuffer s multiblockId).Within E := by
  intro p
  rw [MultiblockIo.run_getIncomingBuffer]
  exact E.refl p

theorem within_processStreamDataType
    (hE : AdmitsData E s buffers released replies called opens)
    (header : CommonMessageHeader)
    (rawMessage : Memory)
    (hcalled : header.subType = StreamDataSubType.static.code →
      ∀ data, called (.processStreamData s data)) :
    (processStreamDataType s header rawMessage).Within E := by
  refine Act.Within.ite (fun hstatic => ?_) fun _ => Act.Within.pure ()
  refine Act.Within.readUInt32 (Act.Within.readBytes (Act.Within.bind ?_ fun _ => ?_))
  · exact fun p => hE.stream p _ (hcalled hstatic _)
  · refine Act.Within.readUInt8 (Act.Within.ite (fun _ => ?_) fun _ => Act.Within.pure ())
    exact Act.Within.readUInt32
      (((OnlySends.sendReply (P := Body.Plain) (by exact rfl) _).within_plain hE).bind fun _ =>
        Act.Within.pure ())

/-- Single-block data release the request they name, if they are a response. -/
theorem within_processSingleBlockDataType
    (hE : AdmitsData E s buffers released replies called opens)
    (header : CommonMessageHeader)
    (rawMessage : Memory)
    (hreleased : header.subType = SingleblockDataSubType.data.code →
      rawMessage 7 &&& 0x8 ≠ 0 → released (UInt64.ofNat (rawMessage.word 40 8)))
    (hcalled : header.subType = SingleblockDataSubType.data.code → rawMessage 7 &&& 0x8 = 0 →
      ∀ id data, called (.processRequestData s id data)) :
    (processSingleBlockDataType s header rawMessage).Within E := by
  have hreply : (do
      if rawMessage 7 &&& 0x1 != 0 then
        let messageId ← readUInt32 rawMessage 20
        let _ ← sendDataSingleBlockReply s messageId : Act Unit).Within E := by
    refine Act.Within.ite (fun _ => ?_) fun _ => Act.Within.pure ()
    exact Act.Within.readUInt32
      (((OnlySends.sendReply (P := Body.Plain) (by exact rfl) _).within_plain hE).bind fun _ =>
        Act.Within.pure ())
  refine Act.Within.ite (fun hdata => ?_) fun _ => Act.Within.pure ()
  refine Act.Within.readUInt32 (Act.Within.readBytes (Act.Within.readUInt8 ?_))
  refine Act.Within.ite (fun hflag => ?_) fun hflag => ?_
  · refine Act.Within.readUInt64 (Act.Within.bind ?_ fun _ => hreply)
    exact within_releaseMessage hE (hreleased hdata (by simpa using hflag)) _
  · refine Act.Within.readUInt64 (Act.Within.bind ?_ fun _ => hreply)
    exact fun p => hE.request p _ _ (hcalled hdata (by simpa using hflag) _ _)

/-- A finish frame releases the request it names, if it ends a response. -/
theorem within_processMultiBlockDataType
    (hE : AdmitsData E s buffers released replies called opens)
    (hbuffers : buffers)
    (header : CommonMessageHeader)
    (rawMessage : Memory)
    (hreleased : header.subType = MultiblockDataSubType.finish.code →
      rawMessage 7 &&& 0x8 ≠ 0 → released (UInt64.ofNat (rawMessage.word 40 8)))
    (hcalled : header.subType = MultiblockDataSubType.finish.code → rawMessage 7 &&& 0x8 = 0 →
      ∀ id data, called (.processRequestData s id data)) :
    (processMultiBlockDataType s header rawMessage).Within E := by
  refine Act.Within.ite (fun _ => ?_) fun _ => Act.Within.ite (fun hfinish => ?_) fun _ =>
    Act.Within.pure ()
  · have hwrite : (do
        let multiblockId ← readUInt64 rawMessage 40
        let payloadSize ← readUInt32 rawMessage 28
        let _ ← MultiblockIo.writeIntoIncomingBuffer s multiblockId
          (readBytes rawMessage 56 payloadSize.toNat) : Act Unit).Within E :=
      Act.Within.readUInt64 (Act.Within.readUInt32
        ((within_writeIntoIncomingBuffer hE hbuffers _ _ _ _).bind fun _ => Act.Within.pure ()))
    refine Act.Within.readUInt32 (Act.Within.ite (fun _ => ?_) fun _ => hwrite)
    exact Act.Within.readUInt64 (Act.Within.readUInt64
      ((within_createIncomingBuffer hE hbuffers _ _).bind fun _ => hwrite))
  · refine Act.Within.readUInt64 ((within_getIncomingBuffer _).bind fun buffer =>
      Act.Within.readUInt8 ?_)
    have hremove : ∀ id, (do
        let _ ← MultiblockIo.removeMultiblockBuffer s id : Act Unit).Within E := by
      intro id
      exact (within_removeMultiblockBuffer hE hbuffers id).bind fun _ => Act.Within.pure ()
    refine Act.Within.ite (fun hflag => ?_) fun hflag => ?_
    · refine Act.Within.readUInt64 (Act.Within.bind ?_ fun _ => hremove _)
      exact within_releaseMessage hE (hreleased hfinish (by simpa using hflag)) _
    · refine Act.Within.bind ?_ fun _ => hremove _
      exact fun p => hE.request p _ _ (hcalled hfinish (by simpa using hflag) _ _)

theorem within_processHeartbeatType
    (hE : AdmitsData E s buffers released replies called opens)
    (header : CommonMessageHeader)
    (rawMessage : Memory) :
    (processHeartbeatType s header rawMessage).Within E := by
  refine Act.Within.ite (fun _ => ?_) fun _ => Act.Within.pure ()
  exact Act.Within.readUInt32
    (((OnlySends.sendReply (P := Body.Plain) (by exact rfl) _).within_plain hE).bind fun _ =>
      Act.Within.pure ())

/-- The subtypes of error messages that reach the application. -/
def CommonMessageHeader.ReportsError (header : CommonMessageHeader) : Prop :=
  header.subType = ErrorSubType.falseVersion.code ∨
    header.subType = ErrorSubType.unknownSession.code ∨
    header.subType = ErrorSubType.invalidMessage.code

theorem within_processErrorType
    (hE : AdmitsData E s buffers released replies called opens)
    (header : CommonMessageHeader)
    (rawMessage : Memory)
    (hcalled : header.ReportsError → ∀ code text, called (.processError s code text)) :
    (processErrorType s header rawMessage).Within E := by
  have herror : header.ReportsError → ∀ code, (processErrorMessage s code rawMessage).Within E := by
    intro hreports code
    exact Act.Within.readUInt64
      (Act.Within.readBytes (fun p => hE.error p _ _ (hcalled hreports _ _)))
  refine Act.Within.bind ?_ fun _ => ?_
  · exact fun p => hE.initState p
  exact Act.Within.ite (fun h => herror (Or.inl h) _) fun _ =>
    Act.Within.ite (fun h => herror (Or.inr (Or.inl h)) _) fun _ =>
      Act.Within.ite (fun h => herror (Or.inr (Or.inr h)) _) fun _ => Act.Within.pure ()

theorem within_sendErrorMessage
    (hE : AdmitsData E s buffers released replies called opens)
    (cfg : Config)
    (errorCode : ErrorCode)
    (errorMessage : Bytes) :
    (sendErrorMessage cfg s errorCode errorMessage).Within E :=
  (OnlySends.sendErrorMessage (P := Body.Plain) (fun _ _ _ => rfl) errorCode
    errorMessage).within_plain hE

end DataHandlers

section SessionHandlers

variable {E : Effect} {s : SessionRef} {buffers : Prop} {released : UInt64 → Prop}
  {replies : Prop} {called : Output → Prop} {opens : Prop}

theorem within_modifySession
    (hE : AdmitsSession E s)
    {f : Session → Session}
    (hf : ∀ x, (f x).incomingBuffer = x.incomingBuffer := by intro x; rfl)
    (hinit : ∀ x, x.initState ≠ 0 → (f x).initState ≠ 0 := by intro x h; first | exact h | simp) :
    (modifySession s f).Within E :=
  fun p => hE.members p f hf hinit

theorem within_goToNextState
    (hE : AdmitsSession E s)
    (t : SessionTransition)
    (required : Option SessionState) :
    (goToNextState s t required).Within E := by
  refine (Act.Within.getSession s).bind fun x => ?_
  cases x.statemachine.goToNextState t required with
  | none =>
      exact Act.Within.pure false
  | some next =>
      exact (within_modifySession hE).bind fun _ => Act.Within.pure true

theorem within_addSession
    (hE : AdmitsSession E s)
    (id : UInt32) :
    (SessionHandler.addSession id s).Within E :=
  (within_modifySession hE).bind fun _ p => hE.registered p id

theorem within_removeSession
    (hE : AdmitsSession E s)
    (id : UInt32) :
    (SessionHandler.removeSession id).Within E :=
  fun p => hE.unregistered p id

theorem within_disconnectSession (hE : AdmitsSession E s) : (disconnectSession s).Within E := by
  refine (within_goToNextState hE _ _).bind fun _ => Act.Within.ite (fun _ => ?_) fun _ =>
    Act.Within.pure false
  refine (Act.Within.getSession s).bind fun x => ?_
  cases x.socket with
  | none =>
      exact Act.Within.pure false
  | some k =>
      exact (within_modifySession hE).bind fun _ => Act.Within.pure _

theorem within_endSession (hE : AdmitsSession E s) : (endSession s).Within E := by
  refine (within_goToNextState hE _ _).bind fun _ => Act.Within.ite (fun _ => ?_) fun _ =>
    Act.Within.pure false
  refine (Act.Within.getSession s).bind fun x => Act.Within.bind ?_ fun _ =>
    (within_removeSession hE _).bind fun _ => within_disconnectSession hE
  exact fun p => hE.closed p _

theorem within_connectiSession
    (hE : AdmitsSession E s)
    (sessionId : UInt32) :
    (connectiSession s sessionId).Within E := by
  have hfail : (do
      modifySession s (fun x => { x with initState := -1 })
      pure false : Act Bool).Within E :=
    (within_modifySession hE).bind fun _ => Act.Within.pure false
  refine (Act.Within.getSession s).bind fun x => Act.Within.ite (fun _ => ?_) fun _ => hfail
  cases x.socket with
  | none =>
      exact Act.Within.pure false
  | some k =>
      refine Act.Within.ite (fun _ => ?_) fun _ => hfail
      refine (within_modifySession hE).bind fun _ =>
        (within_goToNextState hE _ _).bind fun _ => Act.Within.ite (fun _ => ?_) fun _ => hfail
      exact (within_modifySession hE).bind fun _ => Act.Within.pure true

theorem within_makeSessionReady
    (hE : AdmitsSession E s)
    (sessionId : UInt32)
    (sessionIdentifier : Bytes) :
    (makeSessionReady s sessionId sessionIdentifier).Within E := by
  refine (within_goToNextState hE _ _).bind fun _ => Act.Within.ite (fun _ => ?_) fun _ =>
    (within_modifySession hE).bind fun _ => Act.Within.pure false
  refine (within_modifySession hE).bind fun _ =>
    (within_modifySession hE).bind fun _ => Act.Within.bind ?_ fun _ =>
      (within_modifySession hE).bind fun _ => Act.Within.pure true
  exact fun p => hE.created p _ _

/-- A close sends, drops what is pending, and ends the session. -/
theorem within_closeSession_of_end
    (hD : AdmitsData E s buffers released replies called opens)
    (hbuffers : buffers)
    (hreplies : replies)
    (hend : (endSession s).Within E)
    (replyExpected : Bool) :
    (closeSession s replyExpected).Within E := by
  have hstart : ∀ reply, (sendSessionCloseStart s reply).Within E := by
    intro reply
    exact (OnlySends.sendNew (P := Body.Plain) (by exact rfl)).within_plain hD
  refine (Act.Within.getSession s).bind fun x => Act.Within.ite (fun _ => ?_) fun _ =>
    Act.Within.pure false
  refine Act.Within.bind (fun p => hD.replyList hreplies p _) fun _ =>
    (within_removeMultiblockBuffer hD hbuffers _).bind fun _ => Act.Within.ite (fun _ => hstart _)
      fun _ => (hstart _).bind fun _ => hend

theorem within_closeSession
    (hD : AdmitsData E s buffers released replies called opens)
    (hbuffers : buffers)
    (hreplies : replies)
    (hE : AdmitsSession E s)
    (replyExpected : Bool) :
    (closeSession s replyExpected).Within E :=
  within_closeSession_of_end hD hbuffers hreplies (within_endSession hE) replyExpected

theorem within_increaseSessionIdCounter (hE : AdmitsSession E s) :
    SessionHandler.increaseSessionIdCounter.Within E :=
  fun p => hE.sessionIdCounter p _

theorem within_startSession
    (hD : AdmitsData E s buffers released replies called opens)
    (hbuffers : buffers)
    (hreplies : replies)
    (hE : AdmitsSession E s)
    (sessionIdentifier : Bytes)
    (hopens : opens := by trivial) :
    (startSession s sessionIdentifier).Within E := by
  refine Act.Within.ite (fun _ => Act.Within.pure false) fun _ =>
    (within_increaseSessionIdCounter hE).bind fun _ => (within_connectiSession hE _).bind fun _ =>
      Act.Within.ite (fun _ => ?_) fun _ =>
        (within_closeSession hD hbuffers hreplies hE _).bind fun _ => Act.Within.pure false
  refine (within_addSession hE _).bind fun _ => Act.Within.bind ?_ fun _ => Act.Within.pure true
  refine (Act.Within.getSession s).bind fun _ => (Act.Within.touch _).bind fun _ => ?_
  exact (OnlySends.sendNew (P := fun _ => True) trivial).within hD fun _ _ _ => hopens

theorem within_processSessionType
    (hD : AdmitsData E s buffers released replies called opens)
    (hE : AdmitsSession E s)
    (hopens : opens)
    (header : CommonMessageHeader)
    (rawMessage : Memory) :
    (processSessionType s header rawMessage).Within E := by
  refine Act.Within.ite (fun _ => ?_) fun _ => Act.Within.ite (fun _ => ?_) fun _ =>
    Act.Within.ite (fun _ => ?_) fun _ => Act.Within.ite (fun _ => ?_) fun _ => Act.Within.pure ()
  · refine Act.Within.readUInt32 ((within_increaseSessionIdCounter hE).bind fun _ =>
      Act.Within.readUInt32 (Act.Within.readBytes ((within_addSession hE _).bind fun _ =>
        (within_connectiSession hE _).bind fun _ => (within_makeSessionReady hE _ _).bind fun _ =>
          Act.Within.readUInt32 (Act.Within.bind ?_ fun _ => Act.Within.pure ()))))
    exact (OnlySends.sendSessionInitReply (P := fun _ => True) trivial).within hD
      fun _ _ _ => hopens
  · exact Act.Within.readUInt32 (Act.Within.readUInt32 (Act.Within.readUInt32
      (Act.Within.readBytes ((within_removeSession hE _).bind fun _ =>
        (within_addSession hE _).bind fun _ => (within_makeSessionReady hE _ _).bind fun _ =>
          Act.Within.pure ()))))
  · refine Act.Within.readUInt32 (Act.Within.bind ?_ fun _ => Act.Within.readUInt32
      ((within_removeSession hE _).bind fun _ => (within_endSession hE).bind fun _ =>
        Act.Within.pure ()))
    exact (OnlySends.sendReply (P := Body.Plain) (by exact rfl) _).within_plain hD
  · exact Act.Within.readUInt32 ((within_removeSession hE _).bind fun _ =>
      (within_disconnectSession hE).bind fun _ => Act.Within.pure ())

theorem within_destroySession
    (hD : AdmitsData E s buffers released replies called opens)
    (hbuffers : buffers)
    (hreplies : replies)
    (hE : AdmitsSession E s)
    (hdestroyed : ∀ p : Process, E.rel p [] (p.modifySession s (fun x =>
      { x with socket := none, abort := true, incomingBuffer := ∅ }))) :
    (destroySession s).Within E := by
  refine (within_modifySession hE).bind fun _ => (Act.Within.getSession s).bind fun x =>
    (within_removeSession hE _).bind fun _ =>
      (within_closeSession hD hbuffers hreplies hE _).bind fun _ => ?_
  exact hdestroyed

theorem within_finishStart
    (hD : AdmitsData E s buffers released replies called opens)
    (hbuffers : buffers)
    (hreplies : replies)
    (hE : AdmitsSession E s)
    (hdestroyed : ∀ p : Process, E.rel p [] (p.modifySession s (fun x =>
      { x with socket := none, abort := true, incomingBuffer := ∅ }))) :
    (finishStart s).Within E := by
  refine (Act.Within.getSession s).bind fun x => Act.Within.ite (fun _ => ?_) fun _ =>
    Act.Within.pure true
  exact (within_closeSession hD hbuffers hreplies hE _).bind fun _ =>
    (within_destroySession hD hbuffers hreplies hE hdestroyed).bind fun _ => Act.Within.pure false

end SessionHandlers

/-! ## The timers -/

/-- The steps of the timers and of a woken thread. -/
structure AdmitsTimers (E : Effect) : Prop where
  replyList : ∀ (p : Process) (l : List MessageTime), E.rel p [] { p with replyList := l }
  blockerList : ∀ (p : Process) (l : List MessageBlocker), E.rel p [] { p with blockerList := l }
  initState : ∀ (p : Process) (s : SessionRef), E.rel p [] (p.setInitState s (-1))
  error : ∀ (p : Process) (s : SessionRef) (code : ErrorCode) (text : ErrorText),
    E.rel p [.processError s code text] p
  notify : ∀ (p : Process) (id : UInt64), E.rel p [.notifyOne id] p

theorem AdmitsTimers.mono
    {E F : Effect}
    (h : AdmitsTimers E)
    (hle : ∀ {p p' : Process} {outs : List Output}, E.rel p outs p' → F.rel p outs p') :
    AdmitsTimers F where
  replyList := fun p l => hle (h.replyList p l)
  blockerList := fun p l => hle (h.blockerList p l)
  initState := fun p s => hle (h.initState p s)
  error := fun p s code text => hle (h.error p s code text)
  notify := fun p id => hle (h.notify p id)

section Timers

variable {E : Effect}

theorem within_replyTimer (hE : AdmitsTimers E) : ReplyHandler.makeTimerStep.Within E := by
  intro p
  rcases ReplyHandler.makeTimerStep_cases p with
    ⟨_, hrun⟩ | ⟨_, _, _, _, rest, reported, _, _, _, _, _, _, hrun⟩
  · rw [hrun]
    exact hE.replyList p _
  · rw [hrun]
    cases reported.ignoreResult with
    | true =>
        exact hE.replyList p rest
    | false =>
        have hset := hE.initState { p with replyList := rest } reported.session
        exact E.trans (E.trans (hE.replyList p rest) hset) (hE.error _ _ _ _)

theorem within_wake
    (hE : AdmitsTimers E)
    (blockerId : UInt64) :
    (MessageBlockerHandler.removeMessageFromList blockerId).Within E := by
  refine Act.Within.get.bind fun p => ?_
  cases MessageBlockerHandler.takeBlocker blockerId p.blockerList with
  | none =>
      exact Act.Within.pure none
  | some found =>
      exact Act.Within.bind (fun q => hE.blockerList q found.2) fun _ => Act.Within.pure _

theorem within_release
    (hE : AdmitsTimers E)
    (blockerId : UInt64)
    (data : Option Bytes) :
    (MessageBlockerHandler.releaseMessage blockerId data).Within E := by
  refine Act.Within.get.bind fun p => Act.Within.ite (fun _ => ?_) fun _ => Act.Within.pure false
  refine Act.Within.bind (fun q => hE.blockerList q _) fun _ => Act.Within.bind ?_ fun _ =>
    Act.Within.pure true
  exact fun q => hE.notify q blockerId

theorem within_blockerTimer (hE : AdmitsTimers E) :
    MessageBlockerHandler.makeTimerStep.Within E := by
  have hloop : ∀ fuel i, (MessageBlockerHandler.makeTimerStepFrom fuel i).Within E := by
    intro fuel
    induction fuel with
    | zero =>
        exact fun _ => Act.Within.pure ()
    | succ fuel ih =>
        intro i
        refine Act.Within.get.bind fun p => ?_
        cases p.blockerList[i]? with
        | none =>
            exact Act.Within.pure ()
        | some b =>
            refine Act.Within.bind (fun q => hE.blockerList q _) fun _ =>
              Act.Within.ite (fun _ => ?_) fun _ => ih (i + 1)
            exact (within_wake hE _).bind fun _ => (within_release hE _ _).bind fun _ =>
              Act.Within.bind (fun q => hE.error q _ _ _) fun _ => ih (i + 1)
  exact Act.Within.get.bind fun p => hloop _ 0

end Timers

/-! ## The front of the receive buffer -/

/-- What `processMessage` finds at the front of the buffer. -/
inductive Obtained where
  | nothing
  | falseProtocol
  | falseVersion
  | falseDelimiter
  | frame (header : CommonMessageHeader) (rawMessage : Memory)

def RingBuffer.obtained (buf : RingBuffer) : Obtained :=
  match buf.getObject with
  | none => .nothing
  | some header =>
      if header.protocolIdentifier ≠ protocolIdentifier then .falseProtocol
      else if header.version ≠ 0x1 then .falseVersion
      else
        match buf.getDataPointer header.totalMessageSize.toNat with
        | none => .nothing
        | some rawMessage =>
            if delimiterOf header rawMessage ≠ messageDelimiter then .falseDelimiter
            else .frame header rawMessage

theorem ObtainsFrame.obtained
    {buf : RingBuffer}
    {header : CommonMessageHeader}
    (h : ObtainsFrame buf header)
    (hdelimiter : delimiterOf header buf.memory = messageDelimiter) :
    buf.obtained = .frame header buf.memory := by
  have hpointer : buf.getDataPointer header.totalMessageSize.toNat = some buf.memory := by
    simp [RingBuffer.getDataPointer, h.frame]
  simp [RingBuffer.obtained, h.object, h.protocol, h.version, hpointer, hdelimiter]

theorem processMessage_result
    (cfg : Config)
    (s : SessionRef)
    (buf : RingBuffer)
    (p : Process) :
    ((processMessage cfg s buf).run p).result =
      match buf.obtained with
      | .nothing => (.taken 0, p, [])
      | .falseProtocol =>
          (.taken 0, ((closeSession s).run p).process, ((closeSession s).run p).outputs)
      | .falseVersion =>
          (.taken 0, ((sendErrorMessage cfg s .falseVersion []).run p).process,
            ((sendErrorMessage cfg s .falseVersion []).run p).outputs)
      | .falseDelimiter =>
          (.assertFailed, ((sendErrorMessage cfg s .falseVersion []).run p).process,
            ((sendErrorMessage cfg s .falseVersion []).run p).outputs)
      | .frame header rawMessage => ((processFrame s header rawMessage).run p).result := by
  unfold processMessage RingBuffer.obtained
  cases buf.getObject with
  | none =>
      rfl
  | some header =>
      by_cases hprotocol : header.protocolIdentifier = protocolIdentifier
      · by_cases hversion : header.version = 0x1
        · cases hpointer : buf.getDataPointer header.totalMessageSize.toNat with
          | none =>
              simp [hprotocol, hversion, hpointer, Outcome.result]
          | some rawMessage =>
              by_cases hdelimiter : delimiterOf header rawMessage = messageDelimiter
              · rw [delimiterOf] at hdelimiter
                simp [hprotocol, hversion, hpointer, hdelimiter, delimiterOf, Outcome.result]
              · rw [delimiterOf] at hdelimiter
                simp [hprotocol, hversion, hpointer, hdelimiter, delimiterOf, Outcome.result]
        · simp [hprotocol, hversion, Outcome.result]
      · simp [hprotocol, Outcome.result]

/-- The handler of the frame calls the application with data. -/
def CommonMessageHeader.CallsData (header : CommonMessageHeader) (rawMessage : Memory) : Prop :=
  header.type = MessageType.streamData.code ∧ header.subType = StreamDataSubType.static.code ∨
    header.type = MessageType.singleblockData.code ∧
      header.subType = SingleblockDataSubType.data.code ∧ rawMessage 7 &&& 0x8 = 0 ∨
    header.type = MessageType.multiblockData.code ∧
      header.subType = MultiblockDataSubType.finish.code ∧ rawMessage 7 &&& 0x8 = 0

/-- The handler of the frame calls the application with an error. -/
def CommonMessageHeader.CallsError (header : CommonMessageHeader) : Prop :=
  header.type = MessageType.error.code ∧ header.ReportsError

/-- The handler of the frame may call the application of the session so. -/
def CommonMessageHeader.Calls
    (header : CommonMessageHeader)
    (rawMessage : Memory)
    (s : SessionRef)
    (o : Output) : Prop :=
  header.CallsData rawMessage ∧ o.data = some s ∨ header.CallsError ∧ o.error = some s

theorem within_processByType
    {E : Effect}
    {s : SessionRef}
    {buffers : Prop}
    {released : UInt64 → Prop}
    {replies : Prop}
    {called : Output → Prop}
    {opens : Prop}
    (hD : AdmitsData E s buffers released replies called opens)
    {header : CommonMessageHeader}
    {rawMessage : Memory}
    (hbuffers : header.type = MessageType.multiblockData.code → buffers)
    (hsession : header.type = MessageType.session.code → AdmitsSession E s ∧ opens)
    (hreleased : rawMessage 7 &&& 0x8 ≠ 0 →
      header.type = MessageType.singleblockData.code ∧
        header.subType = SingleblockDataSubType.data.code ∨
      header.type = MessageType.multiblockData.code ∧
        header.subType = MultiblockDataSubType.finish.code →
      released (UInt64.ofNat (rawMessage.word 40 8)))
    (hcalled : ∀ o, header.Calls rawMessage s o → called o)
    {handler : Act Unit}
    (hby : processByType s header rawMessage = some handler) :
    handler.Within E := by
  unfold processByType at hby
  split at hby
  · rename_i htype
    cases hby
    exact within_processStreamDataType hD _ _ fun hsub _ =>
      hcalled _ (Or.inl ⟨Or.inl ⟨htype, hsub⟩, rfl⟩)
  · split at hby
    · rename_i _ htype
      cases hby
      exact within_processSingleBlockDataType hD _ _
        (fun hsub hflag => hreleased hflag (Or.inl ⟨htype, hsub⟩))
        (fun hsub hflag _ _ => hcalled _ (Or.inl ⟨Or.inr (Or.inl ⟨htype, hsub, hflag⟩), rfl⟩))
    · split at hby
      · rename_i _ _ htype
        cases hby
        exact within_processMultiBlockDataType hD (hbuffers htype) _ _
          (fun hsub hflag => hreleased hflag (Or.inr ⟨htype, hsub⟩))
          (fun hsub hflag _ _ => hcalled _ (Or.inl ⟨Or.inr (Or.inr ⟨htype, hsub, hflag⟩), rfl⟩))
      · split at hby
        · rename_i _ _ _ htype
          cases hby
          exact within_processSessionType hD (hsession htype).1 (hsession htype).2 _ _
        · split at hby
          · cases hby
            exact within_processHeartbeatType hD _ _
          · split at hby
            · rename_i _ _ _ _ _ htype
              cases hby
              exact within_processErrorType hD _ _ fun hreports _ _ =>
                hcalled _ (Or.inr ⟨⟨htype, hreports⟩, rfl⟩)
            · cases hby

theorem within_processFrame
    {E : Effect}
    {s : SessionRef}
    {buffers : Prop}
    {released : UInt64 → Prop}
    {replies : Prop}
    {called : Output → Prop}
    {opens : Prop}
    (hD : AdmitsData E s buffers released replies called opens)
    (header : CommonMessageHeader)
    (rawMessage : Memory)
    (hbuffers : header.type = MessageType.multiblockData.code → buffers)
    (hreplies : header.flags &&& 0x2 ≠ 0 → replies)
    (hsession : header.type = MessageType.session.code → AdmitsSession E s ∧ opens)
    (hreleased : rawMessage 7 &&& 0x8 ≠ 0 →
      header.type = MessageType.singleblockData.code ∧
        header.subType = SingleblockDataSubType.data.code ∨
      header.type = MessageType.multiblockData.code ∧
        header.subType = MultiblockDataSubType.finish.code →
      released (UInt64.ofNat (rawMessage.word 40 8)))
    (hcalled : ∀ o, header.Calls rawMessage s o → called o) :
    (processFrame s header rawMessage).Within E := by
  have hremove : header.flags &&& 0x2 ≠ 0 →
      (ReplyHandler.removeMessage header.sessionId header.messageId).Within E :=
    fun hflag => within_removeMessage hD (hreplies hflag) _ _
  unfold processFrame
  cases hby : processByType s header rawMessage with
  | none =>
      refine Act.Within.ite (fun hflag => ?_) fun _ => Act.Within.pure _
      exact (hremove (by simpa using hflag)).bind fun _ => Act.Within.pure _
  | some handler =>
      have hhandler : handler.Within E :=
        within_processByType hD hbuffers hsession hreleased hcalled hby
      refine Act.Within.ite (fun hflag => ?_) fun _ => hhandler.bind fun _ => Act.Within.pure _
      exact (hremove (by simpa using hflag)).bind fun _ => hhandler.bind fun _ =>
        Act.Within.pure _

/-- The blocker-id in the frame at the front of the buffer, if it is a response:
single-block data or the end of a multi-block message, with the flag 0x8. -/
def RingBuffer.blockerId (buf : RingBuffer) : Option UInt64 :=
  match buf.obtained with
  | .frame header rawMessage =>
      if rawMessage 7 &&& 0x8 ≠ 0 ∧
          (header.type = MessageType.singleblockData.code ∧
              header.subType = SingleblockDataSubType.data.code ∨
            header.type = MessageType.multiblockData.code ∧
              header.subType = MultiblockDataSubType.finish.code) then
        some (UInt64.ofNat (rawMessage.word 40 8))
      else none
  | _ => none

/-- Processing the front of the buffer may call the application of the session so. -/
def RingBuffer.Calls (buf : RingBuffer) (s : SessionRef) (o : Output) : Prop :=
  match buf.obtained with
  | .frame header rawMessage => header.Calls rawMessage s o
  | _ => False

/-- Processing the front of any buffer stays within an effect that has the steps
of the handlers and allows the release of the request the frame names. -/
theorem within_processMessage
    {E : Effect}
    {s : SessionRef}
    {buffers : Prop}
    {released : UInt64 → Prop}
    {replies : Prop}
    {called : Output → Prop}
    {opens : Prop}
    (hD : AdmitsData E s buffers released replies called opens)
    (hE : AdmitsSession E s)
    (hbuffers : buffers)
    (hreplies : replies)
    (cfg : Config)
    (buf : RingBuffer)
    (hreleased : ∀ id, buf.blockerId = some id → released id)
    (hcalled : ∀ o, buf.Calls s o → called o)
    (hopens : opens := by trivial) :
    (processMessage cfg s buf).Within E := by
  intro p
  have hresult := processMessage_result cfg s buf p
  unfold RingBuffer.blockerId at hreleased
  unfold RingBuffer.Calls at hcalled
  cases hobtained : buf.obtained with
  | nothing =>
      rw [hobtained] at hresult
      obtain ⟨_, hprocess, houtputs⟩ := Prod.mk.inj hresult |>.imp id Prod.mk.inj
      rw [hprocess, houtputs]
      exact E.refl p
  | falseProtocol =>
      rw [hobtained] at hresult
      obtain ⟨_, hprocess, houtputs⟩ := Prod.mk.inj hresult |>.imp id Prod.mk.inj
      rw [hprocess, houtputs]
      exact within_closeSession hD hbuffers hreplies hE false p
  | falseVersion =>
      rw [hobtained] at hresult
      obtain ⟨_, hprocess, houtputs⟩ := Prod.mk.inj hresult |>.imp id Prod.mk.inj
      rw [hprocess, houtputs]
      exact within_sendErrorMessage hD cfg _ _ p
  | falseDelimiter =>
      rw [hobtained] at hresult
      obtain ⟨_, hprocess, houtputs⟩ := Prod.mk.inj hresult |>.imp id Prod.mk.inj
      rw [hprocess, houtputs]
      exact within_sendErrorMessage hD cfg _ _ p
  | frame header rawMessage =>
      rw [hobtained] at hresult hreleased hcalled
      obtain ⟨_, hprocess, houtputs⟩ := Prod.mk.inj hresult |>.imp id Prod.mk.inj
      rw [hprocess, houtputs]
      refine within_processFrame hD header rawMessage (fun _ => hbuffers) (fun _ => hreplies)
        (fun _ => ⟨hE, hopens⟩) ?_ hcalled p
      intro hflag hkind
      exact hreleased _ (if_pos ⟨hflag, hkind⟩)

end SakuraNetwork

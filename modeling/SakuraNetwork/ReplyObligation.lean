import SakuraNetwork.AwaitedReplies

/-!
# The obligation to reply

Whether a reply is due is written into the flags by the sender; whether one is sent is
decided by each handler.

* `answers_handle`, `silent_handle`: the messages that are answered, and the others.
* `silent_of_isReply`: a reply is never answered.
* `obliged_iff`: the two tables agree for every message but a close without reply.
-/

namespace SakuraNetwork

open Lib

/-! ## Frames that are sent -/

/-- The message of a frame handed to a socket. -/
def Output.frame : Output → Option (SessionRef × Message)
  | .sent s m => some (s, m)
  | _ => none

/-- The frames handed to the sockets. -/
def framesSent (outs : List Output) : List (SessionRef × Message) :=
  outs.filterMap Output.frame

@[simp] theorem framesSent_nil : framesSent [] = [] := rfl

@[simp] theorem framesSent_append (o o' : List Output) :
    framesSent (o ++ o') = framesSent o ++ framesSent o' := by
  simp [framesSent]

/-- Nothing is sent. -/
def silent : Effect where
  rel := fun _ o _ => framesSent o = []
  refl := fun _ => rfl
  trans := fun h h' => by
    rw [framesSent_append, h, h']
    rfl

/-- A socket that works keeps working. -/
def keepsSending (s : SessionRef) : Effect where
  rel := fun p _ p' => (p.session s).Sends → (p'.session s).Sends
  refl := fun _ h => h
  trans := fun h h' hsends => h' (h hsends)

theorem silent_session (s : SessionRef) : AdmitsSession silent s := by
  constructor
  · intro p c
    rfl
  · intro p id
    rfl
  · intro p id
    rfl
  · intro p f _ _
    rfl
  · intro p sessionId identifier
    rfl
  · intro p identifier
    rfl

theorem silent_releaseMessage (id : UInt64) (data : Option Bytes) :
    (MessageBlockerHandler.releaseMessage id data).Within silent := by
  intro p
  rw [MessageBlockerHandler.releaseMessage_outputs]
  change framesSent _ = []
  split <;> rfl

theorem keepsSending_addSession (s : SessionRef) (id : UInt32) :
    (SessionHandler.addSession id s).Within (keepsSending s) := by
  intro p hsends
  rw [SessionHandler.run_addSession]
  simp only [Process.modifySession_same]
  exact hsends

theorem keepsSending_connectiSession (s : SessionRef) (sessionId : UInt32) :
    (connectiSession s sessionId).Within (keepsSending s) := by
  intro p hsends
  rw [connectiSession_process]
  split
  · obtain ⟨k, hsocket, _, hresults⟩ := hsends
    rw [Process.connected, Process.modifySession_same]
    exact ⟨{ k with isOpen := true }, by simp [hsocket], rfl, hresults⟩
  · split
    · exact hsends
    · rw [Process.setInitState, Process.modifySession_same]
      exact hsends

theorem keepsSending_makeSessionReady
    (s : SessionRef)
    (sessionId : UInt32)
    (sessionIdentifier : Bytes) :
    (makeSessionReady s sessionId sessionIdentifier).Within (keepsSending s) := by
  intro p hsends
  rw [makeSessionReady_process]
  split
  · rw [Process.ready, Process.modifySession_same]
    exact hsends
  · rw [Process.setInitState, Process.modifySession_same]
    exact hsends

theorem keepsSending_releaseMessage (s : SessionRef) (id : UInt64) (data : Option Bytes) :
    (MessageBlockerHandler.releaseMessage id data).Within (keepsSending s) := by
  intro p hsends
  rw [MessageBlockerHandler.releaseMessage_process]
  exact hsends

/-! ## Answered messages -/

/-- Over a working socket exactly one frame is sent: a reply of the type and with the
message id. -/
def Act.Answers
    {α : Type}
    (s : SessionRef)
    (type : MessageType)
    (messageId : UInt32)
    (x : Act α) : Prop :=
  ∀ p : Process, (p.session s).Sends → ∃ r : Message,
    framesSent (x.run p).outputs = [(s, r)] ∧ r.isReply = true ∧ r.body.type = type ∧
      r.messageId = messageId

namespace Act.Answers

variable {α β : Type} {s : SessionRef} {type : MessageType} {messageId : UInt32}

theorem of_message
    {x : Act α}
    (m : Process → Message)
    (hx : ∀ p, (p.session s).Sends → (x.run p).outputs = [.sent s (m p)])
    (hm : ∀ p, (m p).isReply = true ∧ (m p).body.type = type ∧ (m p).messageId = messageId) :
    Act.Answers s type messageId x := by
  intro p hsends
  refine ⟨m p, ?_, hm p⟩
  rw [hx p hsends]
  rfl

theorem sendReply
    (body : Body)
    (hreply : body.flags &&& 0x2 ≠ 0) :
    Act.Answers s body.type messageId (sendReply s messageId body) := by
  refine of_message (fun p => ⟨(p.session s).sessionId, messageId, body⟩) ?_ ?_
  · intro p hsends
    rw [run_sendReply]
    exact (sendMessage_of_sends hsends _).2.1
  · exact fun p => ⟨by simpa [Message.isReply] using hreply, rfl, rfl⟩

/-- The answer comes last. -/
theorem after
    {x : Act α}
    {y : α → Act β}
    (hquiet : x.Within silent)
    (hkeeps : x.Within (keepsSending s))
    (hy : ∀ a, Act.Answers s type messageId (y a)) :
    Act.Answers s type messageId (x >>= y) := by
  intro p hsends
  obtain ⟨r, hframes, hr⟩ := hy (x.run p).value (x.run p).process (hkeeps p hsends)
  refine ⟨r, ?_, hr⟩
  have hnone : framesSent (x.run p).outputs = [] := hquiet p
  rw [Act.run_bind, framesSent_append, hnone, hframes]
  rfl

/-- The answer comes first. -/
theorem before
    {x : Act α}
    {y : α → Act β}
    (hx : Act.Answers s type messageId x)
    (hquiet : ∀ a, (y a).Within silent) :
    Act.Answers s type messageId (x >>= y) := by
  intro p hsends
  obtain ⟨r, hframes, hr⟩ := hx p hsends
  refine ⟨r, ?_, hr⟩
  have hnone : framesSent ((y (x.run p).value).run (x.run p).process).outputs = [] :=
    hquiet (x.run p).value (x.run p).process
  rw [Act.run_bind, framesSent_append, hnone, hframes]
  rfl

theorem ite
    {c : Prop}
    [Decidable c]
    {x y : Act α}
    (hx : c → Act.Answers s type messageId x)
    (hy : ¬ c → Act.Answers s type messageId y) :
    Act.Answers s type messageId (if c then x else y) := by
  split
  · exact hx ‹_›
  · exact hy ‹_›

end Act.Answers

/-- The messages whose handlers send a reply. -/
def Body.answered : Body → Bool
  | .sessionInitStart .. | .sessionCloseStart _ | .heartbeatStart | .singleBlock .. => true
  | .stream replyExpected _ => replyExpected
  | _ => false

/-- Each of these messages is answered once. -/
theorem answers_handle
    {b : Body}
    (h : b.answered = true)
    (s : SessionRef)
    (messageId : UInt32) :
    (b.handle s messageId).Answers s b.type messageId := by
  have hE := silent_session s
  have hreply : ∀ body : Body, body.flags &&& 0x2 ≠ 0 →
      (do let _ ← sendReply s messageId body : Act Unit).Answers s body.type messageId :=
    fun body hflags => (Act.Answers.sendReply body hflags).before fun _ => Act.Within.pure ()
  cases b with
  | sessionInitStart clientSessionId identifier =>
      have hanswer : ∀ id, (do
          let _ ← sendSessionInitReply s clientSessionId messageId id identifier :
            Act Unit).Answers s .session messageId := by
        intro id
        refine Act.Answers.before ?_ fun _ => Act.Within.pure ()
        exact Act.Answers.of_message
          (fun _ => ⟨clientSessionId, messageId, .sessionInitReply clientSessionId id identifier⟩)
          (fun p hsends => (sendMessage_of_sends hsends _).2.1)
          (fun _ => ⟨by simp [Message.isReply, Body.flags], rfl, rfl⟩)
      refine Act.Answers.after (within_increaseSessionIdCounter hE) (fun _ h => h) fun c => ?_
      refine Act.Answers.after (within_addSession hE _) (keepsSending_addSession s _) fun _ => ?_
      refine Act.Answers.after (within_connectiSession hE _) (keepsSending_connectiSession s _)
        fun _ => ?_
      exact Act.Answers.after (within_makeSessionReady hE _ _)
        (keepsSending_makeSessionReady s _ _) fun _ => hanswer _
  | sessionCloseStart replyExpected =>
      exact (Act.Answers.sendReply .sessionCloseReply (by decide)).before fun _ =>
        (within_removeSession hE _).bind fun _ => (within_endSession hE).bind fun _ =>
          Act.Within.pure ()
  | heartbeatStart =>
      exact hreply .heartbeatReply (by decide)
  | stream replyExpected data =>
      have hexpected : replyExpected = true := h
      subst hexpected
      refine Act.Answers.after (fun _ => rfl) (fun _ h => h) fun _ => ?_
      exact hreply .streamReply (by decide)
  | singleBlock multiblockId blockerId data =>
      have hanswer := hreply .singleBlockReply (by decide)
      refine Act.Answers.ite (fun _ => ?_) fun _ => ?_
      · exact Act.Answers.after (silent_releaseMessage _ _) (keepsSending_releaseMessage s _ _)
          fun _ => hanswer
      · exact Act.Answers.after (fun _ => rfl) (fun _ hsends => hsends) fun _ => hanswer
  | _ => cases h

/-! ## Messages that are not answered -/

/-- The handlers of the other messages send nothing. -/
theorem silent_handle
    {b : Body}
    (h : b.answered = false)
    (s : SessionRef)
    (messageId : UInt32) :
    (b.handle s messageId).Within silent := by
  have hE := silent_session s
  cases b with
  | sessionInitReply clientSessionId completeSessionId identifier =>
      refine (within_removeSession hE _).bind fun _ => (within_addSession hE _).bind fun _ => ?_
      exact (within_makeSessionReady hE _ _).bind fun _ => Act.Within.pure ()
  | sessionCloseReply =>
      exact (within_removeSession hE _).bind fun _ =>
        (within_disconnectSession hE).bind fun _ => Act.Within.pure ()
  | heartbeatReply => exact Act.Within.pure ()
  | streamReply => exact Act.Within.pure ()
  | singleBlockReply => exact Act.Within.pure ()
  | error subType message =>
      exact (within_modifySession hE).bind fun _ _ => rfl
  | stream replyExpected data =>
      have hexpected : replyExpected = false := h
      subst hexpected
      exact fun _ => rfl
  | multiStatic totalSize multiblockId totalPartNumber partId data blockerId =>
      have hwrite : (do
          let _ ← MultiblockIo.writeIntoIncomingBuffer s multiblockId (pure data) :
            Act Unit).Within silent := by
        refine Act.Within.bind ?_ fun _ => Act.Within.pure ()
        intro p
        rw [MultiblockIo.writeIntoIncomingBuffer_outputs (fun _ => rfl)]
        rfl
      refine Act.Within.ite (fun _ => Act.Within.bind ?_ fun _ => hwrite) fun _ => hwrite
      intro p
      rw [MultiblockIo.createIncomingBuffer_outputs]
      rfl
  | multiFinish multiblockId blockerId =>
      have hremove : (do
          let _ ← MultiblockIo.removeMultiblockBuffer s multiblockId : Act Unit).Within silent := by
        intro p
        rw [Act.run_bind, MultiblockIo.run_removeMultiblockBuffer]
        rfl
      refine (within_getIncomingBuffer multiblockId).bind fun _ => ?_
      refine Act.Within.ite (fun _ => ?_) fun _ => ?_
      · exact (silent_releaseMessage _ _).bind fun _ => hremove
      · exact Act.Within.bind (fun _ => rfl) fun _ => hremove
  | _ => cases h

theorem answered_of_isReply {m : Message} (h : m.isReply = true) : m.body.answered = false := by
  obtain ⟨sessionId, messageId, body⟩ := m
  have hone : (1 &&& 2 : UInt8) = 0 := by decide
  cases body with
  | sessionCloseStart replyExpected =>
      cases replyExpected <;> simp [Message.isReply, Body.flags, hone] at h
  | stream replyExpected data =>
      cases replyExpected <;> simp [Message.isReply, Body.flags, hone] at h
  | singleBlock multiblockId blockerId data =>
      rw [Message.isReply_singleBlock] at h
      cases h
  | sessionInitStart => simp [Message.isReply, Body.flags, hone] at h
  | heartbeatStart => simp [Message.isReply, Body.flags, hone] at h
  | _ => rfl

/-- A reply is never answered. -/
theorem silent_of_isReply
    {m : Message}
    (h : m.isReply = true)
    (s : SessionRef) :
    (m.handle s).Within silent := by
  refine Act.Within.ite (fun _ => Act.Within.bind ?_ fun _ => ?_) fun _ => ?_
  · intro p
    rw [ReplyHandler.removeMessage_outputs]
    rfl
  · exact silent_handle (answered_of_isReply h) s m.messageId
  · exact silent_handle (answered_of_isReply h) s m.messageId

/-! ## The flag of the sender -/

/-- The flag 0x1 is set for what is answered, except in a close. -/
theorem replyRequired_eq_answered
    {m : Message}
    (h : m.body ≠ .sessionCloseStart false) :
    m.replyRequired = m.body.answered := by
  obtain ⟨sessionId, messageId, body⟩ := m
  have hresponse : ∀ blockerId, Body.responseFlag blockerId &&& 0x1 = 0 ∧
      (0x1 ||| Body.responseFlag blockerId) &&& 0x1 = 1 := by
    intro blockerId
    unfold Body.responseFlag
    split <;> decide
  have hone : (1 &&& 1 : UInt8) = 1 := by decide
  have htwo : (2 &&& 1 : UInt8) = 0 := by decide
  cases body with
  | sessionCloseStart replyExpected =>
      cases replyExpected with
      | false => exact absurd rfl h
      | true => simp [Message.replyRequired, Body.flags, Body.answered, hone]
  | stream replyExpected data =>
      cases replyExpected <;> simp [Message.replyRequired, Body.flags, Body.answered, hone]
  | _ => simp [Message.replyRequired, Body.flags, Body.answered, hone, htwo, hresponse]

/-- The replies among the frames that are sent. -/
def repliesSent (outs : List Output) : List (SessionRef × Message) :=
  (framesSent outs).filter fun f => f.2.isReply

/-- A message whose sender requires a reply gets one, of its type and with its message
id, and another message gets none.  Nothing is sent for a reply, nor for what is sent
here. -/
structure Message.Obliged (m : Message) (s : SessionRef) (outs : List Output) : Prop where
  due : m.replyRequired = true → ∃ r : Message, repliesSent outs = [(s, r)] ∧
    r.body.type = m.body.type ∧ r.messageId = m.messageId
  spared : m.replyRequired = false → repliesSent outs = []
  last : m.isReply = true → framesSent outs = []
  ends : ∀ f ∈ framesSent outs, ∀ (s' : SessionRef) (p' : Process),
    framesSent ((f.2.handle s').run p').outputs = []

/-- What is sent for a message: the one reply, or nothing. -/
theorem framesSent_handle
    {s : SessionRef}
    {p : Process}
    (hsends : (p.session s).Sends)
    (m : Message) :
    (m.body.answered = true ∧ ∃ r : Message, r.isReply = true ∧
        r.body.type = m.body.type ∧ r.messageId = m.messageId ∧
        framesSent ((m.handle s).run p).outputs = [(s, r)]) ∨
      (m.body.answered = false ∧ framesSent ((m.handle s).run p).outputs = []) := by
  cases hanswered : m.body.answered with
  | true =>
      have hreply : m.isReply = false := by
        by_contra hreply
        rw [answered_of_isReply (by simpa using hreply)] at hanswered
        cases hanswered
      rw [Message.handle_of_not_reply hreply]
      obtain ⟨r, hframes, hr, htype, hid⟩ := answers_handle hanswered s m.messageId p hsends
      exact Or.inl ⟨rfl, r, hr, htype, hid, hframes⟩
  | false =>
      refine Or.inr ⟨rfl, ?_⟩
      cases hreply : m.isReply with
      | true => exact silent_of_isReply hreply s p
      | false =>
          rw [Message.handle_of_not_reply hreply]
          exact silent_handle hanswered s m.messageId p

theorem obliged_of_handle
    {m : Message}
    (h : m.body ≠ .sessionCloseStart false)
    {s : SessionRef}
    {p : Process}
    (hsends : (p.session s).Sends) :
    m.Obliged s ((m.handle s).run p).outputs := by
  have hrequired := replyRequired_eq_answered h
  rcases framesSent_handle hsends m with ⟨hanswered, r, hr, htype, hid, hframes⟩ |
    ⟨hanswered, hframes⟩
  · constructor
    · intro _
      exact ⟨r, by simp [repliesSent, hframes, hr], htype, hid⟩
    · intro hspared
      rw [hrequired, hanswered] at hspared
      cases hspared
    · intro hreply
      rw [answered_of_isReply hreply] at hanswered
      cases hanswered
    · intro f hf s' p'
      rw [hframes, List.mem_singleton] at hf
      subst hf
      exact silent_of_isReply hr s' p'
  · constructor
    · intro hdue
      rw [hrequired, hanswered] at hdue
      cases hdue
    · intro _
      rw [repliesSent, hframes]
      rfl
    · exact fun _ => hframes
    · intro f hf
      rw [hframes] at hf
      cases hf

/-- A close without reply is answered. -/
theorem not_obliged_closeStart
    {sessionId messageId : UInt32}
    {s : SessionRef}
    {p : Process}
    (hsends : (p.session s).Sends) :
    ¬ (Message.mk sessionId messageId (.sessionCloseStart false)).Obliged s
      (((Message.mk sessionId messageId (.sessionCloseStart false)).handle s).run p).outputs := by
  intro hobliged
  have hspared := hobliged.spared (by simp [Message.replyRequired, Body.flags])
  rcases framesSent_handle hsends ⟨sessionId, messageId, .sessionCloseStart false⟩ with
    ⟨_, r, hr, _, _, hframes⟩ | ⟨hanswered, _⟩
  · simp [repliesSent, hframes, hr] at hspared
  · cases hanswered

/-- A frame of the library is replied to as its sender asks, unless it is a close
without reply. -/
theorem obliged_iff
    (cfg : Config)
    {m : Message}
    (hsize : m.body.Sendable cfg)
    {s : SessionRef}
    {p : Process}
    (hsends : (p.session s).Sends)
    (found : Memory)
    (rest : Bytes)
    (beyond : Memory) :
    m.Obliged s ((processMessage cfg s ⟨m.bytes found ++ rest, beyond⟩).run p).outputs ↔
      m.body ≠ .sessionCloseStart false := by
  have hresult := processMessage_bytes hsize s p found rest beyond
  simp only [Outcome.result, Prod.mk.injEq] at hresult
  rw [hresult.2.2]
  constructor
  · rintro hobliged hclose
    obtain ⟨sessionId, messageId, body⟩ := m
    have hbody : body = .sessionCloseStart false := hclose
    subst hbody
    exact not_obliged_closeStart hsends hobliged
  · exact fun hclose => obliged_of_handle hclose hsends

/-- A heartbeat is replied to. -/
theorem obliged_iff_heartbeat :
    (Message.mk 5 7 .heartbeatStart).Obliged 0 ((processMessage Config.default 0
        ⟨(Message.mk 5 7 .heartbeatStart).bytes (fun _ => 0) ++ [], fun _ => 0⟩).run
          readyProcess).outputs ↔
      Body.heartbeatStart ≠ .sessionCloseStart false :=
  @obliged_iff Config.default (Message.mk 5 7 .heartbeatStart) trivial 0 readyProcess
    (readyProcess_sends 0) (fun _ => 0) [] (fun _ => 0)

/-- A close without reply is replied to. -/
theorem not_obliged :
    ¬ ∀ (m : Message) (p : Process) (s : SessionRef), m.body.Sendable Config.default →
      (p.session s).Sends → m.Obliged s ((processMessage Config.default s
        ⟨m.bytes (fun _ => 0), fun _ => 0⟩).run p).outputs := by
  intro hall
  have hobliged := hall ⟨5, 7, .sessionCloseStart false⟩ readyProcess 0 trivial
    (readyProcess_sends 0)
  have hsize : (Message.mk 5 7 (.sessionCloseStart false)).body.Sendable Config.default := trivial
  have hresult := processMessage_bytes hsize 0 readyProcess (fun _ => 0) [] (fun _ => 0)
  simp only [Outcome.result, Prod.mk.injEq, List.append_nil] at hresult
  rw [hresult.2.2] at hobliged
  exact not_obliged_closeStart (readyProcess_sends 0) hobliged

end SakuraNetwork

import SakuraNetwork.AwaitedReplies
import SakuraNetwork.Dialogue
import SakuraNetwork.PendingKeys

/-!
# Replies that are owed

A message that requires a reply is recorded under its key, and the reply takes it off the
list.  Until then the message is on its way to the other side or in its handler, or the
reply is on its way back: the two sides owe the reply.

* `Statement.answers`, `Statement.removes`: the statements that send a reply under a key,
  and those that take a message off the list.
* `Connection.owed`: the replies that the two sides have yet to send and to take.
* `RecordsSent`: what is recorded is handed to the socket, if it is open.
* `pending_statement`: what a statement takes off the list.
-/

namespace SakuraNetwork

open Lib

/-! ## Keys -/

/-- The key of a message in the list of awaited replies. -/
def Message.key (m : Message) : UInt64 :=
  ReplyHandler.completeMessageId m.sessionId m.messageId

/-- A reply to the message is awaited under the key. -/
def Message.awaits (k : UInt64) (m : Message) : Bool :=
  m.replyRequired && m.key == k

/-- The message is the reply to one that is awaited under the key. -/
def Message.repliesTo (k : UInt64) (m : Message) : Bool :=
  m.isReply && m.key == k

/-- An init start message is sent under the id it carries. -/
def Message.UnderOwnId (m : Message) : Prop :=
  ∀ clientSessionId sessionIdentifier,
    m.body = .sessionInitStart clientSessionId sessionIdentifier → m.sessionId = clientSessionId

/-- The statement sends the reply to a message that is awaited under the key. -/
def Statement.answers (k : UInt64) : Statement → Bool
  | .handle m => m.awaits k
  | .processSessionInitStart clientSessionId messageId _ =>
      ReplyHandler.completeMessageId clientSessionId messageId == k
  | .sendSessionInitReply initialSessionId messageId _ _ =>
      ReplyHandler.completeMessageId initialSessionId messageId == k
  | _ => false

/-- The statement takes a message under the key off the list. -/
def Statement.removes (k : UInt64) : Statement → Bool
  | .handle m => m.repliesTo k
  | .removeMessage sessionId messageId =>
      ReplyHandler.completeMessageId sessionId messageId == k
  | _ => false

theorem Message.underOwnId_of_plain
    {m : Message}
    (hplain : m.body.Plain) :
    m.UnderOwnId := by
  intro clientSessionId sessionIdentifier hbody
  rw [hbody] at hplain
  cases hplain

/-- A message is answered once, if it is awaited. -/
theorem countP_answers_statements
    {m : Message}
    (hid : m.UnderOwnId)
    (k : UInt64) :
    m.statements.countP (Statement.answers k) = if m.awaits k then 1 else 0 := by
  obtain ⟨sessionId, messageId, body⟩ := m
  cases body with
  | sessionInitStart clientSessionId sessionIdentifier =>
      have hsame : sessionId = clientSessionId := hid _ _ rfl
      subst hsame
      simp [Message.statements, Statement.answers, Message.awaits, Message.key,
        Message.replyRequired, Body.flags, List.countP_singleton]
  | sessionInitReply clientSessionId completeSessionId sessionIdentifier =>
      have hflags : (0x2 &&& 0x1 : UInt8) = 0 := by decide
      simp [Message.statements, Statement.answers, Message.awaits, Message.replyRequired,
        Body.flags, hflags]
  | _ => exact List.countP_singleton

/-- A reply is taken off the list once. -/
theorem countP_removes_statements
    (m : Message)
    (k : UInt64) :
    m.statements.countP (Statement.removes k) = if m.repliesTo k then 1 else 0 := by
  obtain ⟨sessionId, messageId, body⟩ := m
  cases body with
  | sessionInitStart clientSessionId sessionIdentifier =>
      have hflags : (0x1 &&& 0x2 : UInt8) = 0 := by decide
      simp [Message.statements, Statement.removes, Message.repliesTo, Message.isReply,
        Body.flags, hflags]
  | sessionInitReply clientSessionId completeSessionId sessionIdentifier =>
      simp [Message.statements, Statement.removes, Message.repliesTo, Message.isReply,
        Message.key, Body.flags, List.countP_cons]
  | _ => exact List.countP_singleton

/-- What is sent is answered as often as it is awaited. -/
theorem countP_answers_flatMap
    {sent : List Message}
    (hids : ∀ m ∈ sent, m.UnderOwnId)
    (k : UInt64) :
    (sent.flatMap Message.statements).countP (Statement.answers k) =
      sent.countP (Message.awaits k) := by
  induction sent with
  | nil =>
      rfl
  | cons m sent ih =>
      rw [List.flatMap_cons, List.countP_append, List.countP_cons,
        countP_answers_statements (hids m List.mem_cons_self),
        ih fun m' hm' => hids m' (List.mem_cons_of_mem m hm')]
      exact Nat.add_comm _ _

theorem countP_removes_flatMap
    (sent : List Message)
    (k : UInt64) :
    (sent.flatMap Message.statements).countP (Statement.removes k) =
      sent.countP (Message.repliesTo k) := by
  induction sent with
  | nil =>
      rfl
  | cons m sent ih =>
      rw [List.flatMap_cons, List.countP_append, List.countP_cons,
        countP_removes_statements m, ih]
      exact Nat.add_comm _ _

/-! ## What is owed -/

namespace Connection

section Owed

variable {σ : Type} (st : Connection σ) (x : Side) (k : UInt64)

/-- The statements that a side has yet to run, those of the messages on their way
included. -/
def todo : List Statement :=
  (st.party x).statements ++ (st.incoming x).flatMap Message.statements

/-- The replies under a key that the other side has yet to send, and those that this side
has yet to take. -/
def owed : Nat :=
  (st.todo x.other).countP (Statement.answers k) + (st.todo x).countP (Statement.removes k)

end Owed

variable {σ : Type} {st : Connection σ} {x : Side}

/-- A message that is taken is what its statements do. -/
theorem owed_take
    {m : Message}
    {rest : List Message}
    (hidle : (st.party x).statements = [])
    (hincoming : st.incoming x = m :: rest)
    (y : Side)
    (k : UInt64) :
    (st.take x m rest).owed y k = st.owed y k := by
  have hsame : ∀ z, (st.take x m rest).todo z = st.todo z := by
    intro z
    by_cases hz : z = x
    · subst hz
      simp [todo, take, hidle, hincoming]
    · simp [todo, take, hz]
  rw [owed, owed, hsame, hsame]

section Perform

variable [HasState σ] {answered : Option Message} {core : σ} {old next rest : List Statement}
  {ending : Nat} {sent : List Message}

theorem todo_perform_same :
    (st.perform x answered core (next ++ rest) ending sent).todo x =
      next ++ (rest ++ (st.incoming x).flatMap Message.statements) := by
  rw [todo, perform_party_same, perform_incoming_same, List.append_assoc]

theorem todo_perform_other :
    (st.perform x answered core (next ++ rest) ending sent).todo x.other =
      st.todo x.other ++ sent.flatMap Message.statements := by
  rw [todo, perform_party_other (Side.other_ne x), perform_incoming_other (Side.other_ne x),
    List.flatMap_append, todo, List.append_assoc]

section Balance

variable (hold : (st.party x).statements = old ++ rest) (k : UInt64)

include hold

omit [HasState σ] in
theorem todo_of_statements :
    st.todo x = old ++ (rest ++ (st.incoming x).flatMap Message.statements) := by
  rw [todo, hold, List.append_assoc]

/-- What the side that takes a step is owed afterwards. -/
theorem owed_perform_same (hids : ∀ m ∈ sent, m.UnderOwnId) :
    (st.perform x answered core (next ++ rest) ending sent).owed x k +
        old.countP (Statement.removes k) =
      st.owed x k + sent.countP (Message.awaits k) + next.countP (Statement.removes k) := by
  simp only [owed, todo_perform_same, todo_perform_other, todo_of_statements hold,
    List.countP_append, countP_answers_flatMap hids]
  omega

/-- What the other side is owed. -/
theorem owed_perform_other :
    (st.perform x answered core (next ++ rest) ending sent).owed x.other k +
        old.countP (Statement.answers k) =
      st.owed x.other k + sent.countP (Message.repliesTo k) +
        next.countP (Statement.answers k) := by
  simp only [owed, Side.other_other, todo_perform_same, todo_perform_other,
    todo_of_statements hold, List.countP_append, countP_removes_flatMap]
  omega

end Balance

/-- What was sent is owed. -/
theorem countP_awaits_le_owed
    (hids : ∀ m ∈ sent, m.UnderOwnId)
    (statements : List Statement)
    (k : UInt64) :
    sent.countP (Message.awaits k) ≤
      (st.perform x answered core statements ending sent).owed x k := by
  rw [owed, ← List.nil_append statements, todo_perform_other, List.countP_append,
    countP_answers_flatMap hids]
  omega

/-- The side that takes a step awaits no more than it is owed. -/
theorem le_owed_perform_same
    {k : UInt64}
    {awaited awaited' before : Nat}
    (hold : (st.party x).statements = old ++ rest)
    (hids : ∀ m ∈ sent, m.UnderOwnId)
    (hbefore : awaited ≤ before + st.owed x k)
    (hown : awaited' ≤
      awaited - old.countP (Statement.removes k) + sent.countP (Message.awaits k)) :
    awaited' ≤ before + (st.perform x answered core (next ++ rest) ending sent).owed x k := by
  have hbalance : (st.perform x answered core (next ++ rest) ending sent).owed x k +
      old.countP (Statement.removes k) = _ := owed_perform_same hold k hids
  have hsent : _ ≤ (st.perform x answered core (next ++ rest) ending sent).owed x k :=
    countP_awaits_le_owed hids (next ++ rest) k
  omega

/-- The other side is owed no less. -/
theorem owed_le_perform_other
    {k : UInt64}
    (hold : (st.party x).statements = old ++ rest)
    (hanswered : old.countP (Statement.answers k) ≤
      sent.countP (Message.repliesTo k) + next.countP (Statement.answers k)) :
    st.owed x.other k ≤
      (st.perform x answered core (next ++ rest) ending sent).owed x.other k := by
  have hbalance : (st.perform x answered core (next ++ rest) ending sent).owed x.other k +
      old.countP (Statement.answers k) = _ := owed_perform_other hold k
  omega

end Perform

end Connection

/-! ## What an operation records -/

/-- Where messages are only taken off the list, no more are awaited under a key. -/
theorem KeepsTags.pending_le
    {l l' : List MessageTime}
    (h : KeepsTags l l')
    (k : UInt64) :
    ReplyHandler.pending k l' ≤ ReplyHandler.pending k l := by
  have htags : ∀ l : List MessageTime,
      ReplyHandler.pending k l = (l.map MessageTime.tag).countP (fun t => t.2 == k) := by
    intro l
    rw [List.countP_map]
    rfl
  rw [htags, htags]
  exact h.countP_le _

/-- The operation records at most what it hands to the socket. -/
def RecordsSent {α : Type} (s : SessionRef) (p : Process) (x : Act α) : Prop :=
  ∀ k, ReplyHandler.pending k (x.run p).process.replyList ≤
    ReplyHandler.pending k p.replyList +
      (Connection.sentOver s (x.run p).outputs).countP (Message.awaits k)

namespace RecordsSent

variable {α : Type} {s : SessionRef} {p : Process} {x : Act α}

theorem of_keeps (h : (x.run p).process.replyList = p.replyList) : RecordsSent s p x := by
  intro k
  rw [h]
  exact Nat.le_add_right _ _

/-- What comes after it records nothing. -/
theorem then_keeps
    {β : Type}
    {f : α → Act β}
    (h : RecordsSent s p x)
    (hf : ∀ a, (f a).Within keepsReplies) :
    RecordsSent s p (x >>= f) := by
  intro k
  have hrest : ((x >>= f).run p).process.replyList = (x.run p).process.replyList :=
    hf (x.run p).value (x.run p).process
  rw [hrest, Act.run_bind, Connection.sentOver_append, List.countP_append]
  exact Nat.le_trans (h k) (Nat.add_le_add_left (Nat.le_add_right _ _) _)

/-- The value is not used. -/
theorem discard (h : RecordsSent s p x) : RecordsSent s p (do let _ ← x : Act Unit) :=
  h.then_keeps fun _ => Act.Within.pure ()

/-- What comes before it records nothing. -/
theorem after_keeps
    {β : Type}
    {f : α → Act β}
    (hx : x.Within keepsReplies)
    (hf : RecordsSent s (x.run p).process (f (x.run p).value)) :
    RecordsSent s p (x >>= f) := by
  intro k
  have hrest := hf k
  rw [hx p] at hrest
  rw [Act.run_bind, Connection.sentOver_append, List.countP_append]
  exact Nat.le_trans hrest (Nat.add_le_add_left (Nat.le_add_left _ _) _)

/-- Over an open socket a new message is handed to the socket. -/
theorem sendNew
    (hworks : (p.session s).Works)
    (hopen : (p.endpoint s).isOpen = true)
    (body : Body) :
    RecordsSent s p (sendNew s body) := by
  intro k
  obtain ⟨socket, hsocket, _, hresults⟩ := hworks
  have hsend : socket.sendSucceeds = true := by
    have hisOpen : socket.isOpen = true := by
      simpa [Process.endpoint, hsocket] using hopen
    simp [Socket.sendSucceeds, hisOpen, hresults]
  rw [run_sendNew, run_sendMessage]
  simp only [Process.modifySession_same, hsocket, hsend, if_true, Connection.sentOver_sent,
    List.countP_singleton]
  unfold Process.record
  by_cases hrequired : (p.nextMessage s body).replyRequired = true
  · rw [if_pos hrequired]
    simp only [Process.modifySession, ReplyHandler.pending_append]
    simp [ReplyHandler.pending, Message.awaits, Message.key, hrequired, List.countP_singleton]
  · rw [if_neg hrequired]
    exact Nat.le_add_right _ _

end RecordsSent

section Calls

variable {s : SessionRef} {p : Process} (hworks : (p.session s).Works)
  (hopen : (p.session s).statemachine = .sessionReady → (p.endpoint s).isOpen = true)

include hworks hopen

theorem recordsSent_sendStreamData
    (cfg : Config)
    (data : Bytes)
    (replyExpected : Bool) :
    RecordsSent s p (sendStreamData cfg s data replyExpected) := by
  unfold sendStreamData
  split
  · exact .of_keeps rfl
  · intro k
    rw [run_getSession_bind, SessionState.isInState_sessionReady]
    by_cases hready : (p.session s).statemachine = .sessionReady
    · simp only [hready, decide_true, if_true]
      exact RecordsSent.sendNew hworks (hopen hready) _ k
    · simp only [hready, decide_false]
      exact Nat.le_refl _

theorem recordsSent_sendNormalMessage (cfg : Config) (data : Bytes) :
    RecordsSent s p (sendNormalMessage cfg s data) := by
  intro k
  rw [sendNormalMessage, run_getSession_bind, SessionState.isInState_sessionReady]
  by_cases hready : (p.session s).statemachine = .sessionReady
  · simp only [hready, decide_true, if_true]
    split
    · rw [run_getRandId_bind]
      exact RecordsSent.sendNew (p := { p with randCount := p.randCount + 1 }) hworks
        (hopen hready) _ k
    · exact RecordsSent.of_keeps (((keeps_sendOutgoingData cfg s data 0).bind fun _ =>
        Act.Within.pure _) p) k
  · simp only [hready, decide_false]
    exact Nat.le_refl _

theorem recordsSent_sendRequestFrames (cfg : Config) (data : Bytes) :
    RecordsSent s p (sendRequestFrames cfg s data) := by
  intro k
  rw [sendRequestFrames, run_getSession_bind, SessionState.isInState_sessionReady]
  by_cases hready : (p.session s).statemachine = .sessionReady
  · simp only [hready, decide_true, if_true]
    split
    · rw [run_getRandId_bind]
      have hsent := RecordsSent.sendNew (p := { p with randCount := p.randCount + 1 }) hworks
        (hopen hready) (.singleBlock (p.randIds p.randCount) 0 data)
      exact hsent.then_keeps (fun _ => Act.Within.ite (fun _ => Act.Within.pure _)
        fun _ => Act.Within.pure _) k
    · exact RecordsSent.of_keeps (keeps_sendOutgoingData cfg s data 0 p) k
  · simp only [hready, decide_false]
    exact Nat.le_refl _

theorem recordsSent_sendResponse (cfg : Config) (data : Bytes) (blockerId : UInt64) :
    RecordsSent s p (sendResponse cfg s data blockerId) := by
  intro k
  rw [sendResponse, run_getSession_bind, SessionState.isInState_sessionReady]
  by_cases hready : (p.session s).statemachine = .sessionReady
  · simp only [hready, decide_true, if_true]
    split
    · rw [run_getRandId_bind]
      have hsent := RecordsSent.sendNew (p := { p with randCount := p.randCount + 1 }) hworks
        (hopen hready) (.singleBlock (p.randIds p.randCount) blockerId data)
      exact hsent.then_keeps (fun _ => Act.Within.pure _) k
    · exact RecordsSent.of_keeps (keeps_sendOutgoingData cfg s data blockerId p) k
  · simp only [hready, decide_false]
    exact Nat.le_refl _

theorem recordsSent_sendHeartbeat : RecordsSent s p (sendHeartbeat s) := by
  intro k
  rw [sendHeartbeat, run_getSession_bind]
  split
  · exact Nat.le_refl _
  · rw [SessionState.isInState_sessionReady]
    by_cases hready : (p.session s).statemachine = .sessionReady
    · simp only [hready, decide_true, if_true]
      exact RecordsSent.sendNew hworks (hopen hready) _ k
    · simp only [hready, decide_false]
      exact Nat.le_refl _

/-- A call records at most what it hands to the socket; the timers take messages off the
list. -/
theorem recordsSent_call (cfg : Config) (c : Call) :
    RecordsSent s p ((c.operation s).act cfg) := by
  cases c with
  | stream data replyExpected =>
      exact (recordsSent_sendStreamData hworks hopen cfg data replyExpected).discard
  | normalMessage data => exact (recordsSent_sendNormalMessage hworks hopen cfg data).discard
  | request data timeout =>
      have hframes := recordsSent_sendRequestFrames hworks hopen cfg data
      have hrequest : RecordsSent s p (sendRequest cfg s data timeout) :=
        hframes.then_keeps fun _ => Act.Within.ite (fun _ => Act.Within.pure _) fun _ _ => rfl
      exact hrequest.discard
  | response data blockerId =>
      exact (recordsSent_sendResponse hworks hopen cfg data blockerId).discard
  | heartbeat => exact (recordsSent_sendHeartbeat hworks hopen).discard
  | wake blockerId => exact .of_keeps (Operation.replyList_tables cfg rfl (by rintro ⟨⟩) p)
  | blockerTimer => exact .of_keeps (Operation.replyList_tables cfg rfl (by rintro ⟨⟩) p)
  | replyTimer =>
      exact fun k => Nat.le_trans ((KeepsTags.makeTimerStep p).pending_le k) (Nat.le_add_right _ _)

/-- A close marks the messages of the session, and records its own message. -/
theorem recordsSent_beginClose (replyExpected : Bool) :
    RecordsSent s p (beginClose s replyExpected) := by
  intro k
  rw [beginClose, run_getSession_bind, SessionState.isInState_sessionReady]
  by_cases hready : (p.session s).statemachine = .sessionReady
  · simp only [hready, decide_true, if_true, Act.run_bind,
      ReplyHandler.run_removeAllOfSession, MultiblockIo.run_removeMultiblockBuffer,
      List.nil_append]
    have hsent := RecordsSent.sendNew (s := s)
      (p := ({ p with replyList := ReplyHandler.ignoreAll (p.session s).sessionId p.replyList }
        : Process).modifySession s
          (fun x => { x with incomingBuffer := x.incomingBuffer.remove 0 }))
      (by simpa [Session.Works] using hworks)
      (by simpa [Process.endpoint] using hopen hready) (.sessionCloseStart replyExpected)
    have hmarked : ReplyHandler.pending k
        (ReplyHandler.ignoreAll (p.session s).sessionId p.replyList) =
          ReplyHandler.pending k p.replyList := ReplyHandler.pending_map_ignore k _ _
    rw [← hmarked]
    exact hsent.then_keeps (fun _ => Act.Within.pure true) k
  · simp only [hready, decide_false]
    exact Nat.le_refl _

end Calls

theorem recordsSent_sendSessionInitStart
    {s : SessionRef}
    {p : Process}
    (hworks : (p.session s).Works)
    (hopen : (p.endpoint s).isOpen = true)
    (sessionIdentifier : Bytes) :
    RecordsSent s p (sendSessionInitStart s sessionIdentifier) := by
  refine .after_keeps (Act.Within.getSession s) (.after_keeps (Act.Within.touch _) ?_)
  exact RecordsSent.sendNew hworks hopen _

/-- The start of the client records its init start message. -/
theorem recordsSent_startSession
    {s : SessionRef}
    {p : Process}
    {sessionIdentifier : Bytes}
    (hworks : (p.session s).Works)
    (hfresh : (p.endpoint s).state = .notConnected)
    (hlen : sessionIdentifier.length ≤ 64000) :
    RecordsSent s p (startSession s sessionIdentifier) := by
  have hS := keepsReplies_session s
  have hlong : ¬ sessionIdentifier.length > 64000 := Nat.not_lt.mpr hlen
  have hdrawn : Brings s p SessionHandler.increaseSessionIdCounter
      { p.endpoint s with sessionIdCounter := (p.endpoint s).sessionIdCounter + 1 } [] :=
    ⟨rfl, rfl, hworks⟩
  have hconnect := brings_connectiSession hdrawn.works (p.sessionIdCounter + 1).toUInt32
  rw [hdrawn.endpoint, if_pos hfresh] at hconnect
  have hadd := brings_addSession hconnect.works (p.sessionIdCounter + 1).toUInt32
  rw [hconnect.endpoint] at hadd
  have hsend := recordsSent_sendSessionInitStart hadd.works (by rw [hadd.endpoint]; rfl)
    sessionIdentifier
  have hconnected : ((connectiSession s (p.sessionIdCounter + 1).toUInt32).run
      (SessionHandler.increaseSessionIdCounter.run p).process).value = true := by
    have hconnectable : (p.session s).connectable = true := by
      obtain ⟨k, hsocket, hinit, _⟩ := hworks
      have hstate : (p.session s).statemachine = .notConnected := hfresh
      simp [Session.connectable, hsocket, hinit, hstate]
    rw [connectiSession_value]
    exact hconnectable
  unfold startSession
  rw [if_neg hlong]
  refine .after_keeps (within_increaseSessionIdCounter hS) ?_
  refine .after_keeps (within_connectiSession hS _) ?_
  have hrun : RecordsSent s ((connectiSession s (p.sessionIdCounter + 1).toUInt32).run
      (SessionHandler.increaseSessionIdCounter.run p).process).process (do
        SessionHandler.addSession (p.sessionIdCounter + 1).toUInt32 s
        let _ ← sendSessionInitStart s sessionIdentifier
        pure true) :=
    .after_keeps (within_addSession hS _) (hsend.then_keeps fun _ => Act.Within.pure true)
  change RecordsSent s _ (if ((connectiSession s (p.sessionIdCounter + 1).toUInt32).run
      (SessionHandler.increaseSessionIdCounter.run p).process).value then _ else _)
  rw [hconnected]
  exact hrun

/-! ## What a message takes off the list -/

/-- A handler records nothing. -/
theorem keeps_handle
    {b : Body}
    (hplain : b.Plain)
    (s : SessionRef)
    (messageId : UInt32) :
    (b.handle s messageId).Within keepsReplies := by
  have hS := keepsReplies_session s
  cases b with
  | sessionInitStart => cases hplain
  | sessionInitReply => cases hplain
  | sessionCloseStart replyExpected =>
      refine (keeps_sendReply .sessionCloseReply (by decide) s messageId).bind fun _ => ?_
      exact (within_removeSession hS 0).bind fun _ => (within_endSession hS).bind fun _ =>
        Act.Within.pure ()
  | sessionCloseReply =>
      exact (within_removeSession hS 0).bind fun _ => (within_disconnectSession hS).bind fun _ =>
        Act.Within.pure ()
  | heartbeatStart =>
      exact (keeps_sendReply .heartbeatReply (by decide) s messageId).bind fun _ =>
        Act.Within.pure ()
  | error subType message => exact Act.Within.bind (fun _ => rfl) fun _ => keeps_emit _
  | stream replyExpected data =>
      refine (keeps_emit _).bind fun _ => Act.Within.ite (fun _ => ?_) fun _ => Act.Within.pure ()
      exact (keeps_sendReply .streamReply (by decide) s messageId).bind fun _ => Act.Within.pure ()
  | singleBlock multiblockId blockerId data =>
      have hreply : (do
          let _ ← sendDataSingleBlockReply s messageId : Act Unit).Within keepsReplies :=
        (keeps_sendReply .singleBlockReply (by decide) s messageId).bind fun _ =>
          Act.Within.pure ()
      exact Act.Within.ite (fun _ => (keeps_releaseMessage _ _).bind fun _ => hreply) fun _ =>
        (keeps_emit _).bind fun _ => hreply
  | multiStatic totalSize multiblockId totalPartNumber partId data blockerId =>
      have hcreate : (MultiblockIo.createIncomingBuffer s multiblockId totalSize).Within
          keepsReplies := by
        intro p
        rw [MultiblockIo.createIncomingBuffer_process]
        split <;> rfl
      have hwrite : (do
          let _ ← MultiblockIo.writeIntoIncomingBuffer s multiblockId (pure data) :
            Act Unit).Within keepsReplies := by
        refine Act.Within.bind (fun p => ?_) fun _ => Act.Within.pure ()
        rw [MultiblockIo.writeIntoIncomingBuffer_pure_process]
        rfl
      exact Act.Within.ite (fun _ => hcreate.bind fun _ => hwrite) fun _ => hwrite
  | multiFinish multiblockId blockerId =>
      have hremove : (do
          let _ ← MultiblockIo.removeMultiblockBuffer s multiblockId : Act Unit).Within
            keepsReplies := by
        intro p
        rw [Act.run_bind, MultiblockIo.run_removeMultiblockBuffer]
        rfl
      refine (within_getIncomingBuffer multiblockId).bind fun _ => ?_
      exact Act.Within.ite (fun _ => (keeps_releaseMessage _ _).bind fun _ => hremove) fun _ =>
        (keeps_emit _).bind fun _ => hremove
  | _ => exact Act.Within.pure ()

/-- A message under a key is taken off the list once. -/
theorem pending_removeMessage
    (sessionId messageId : UInt32)
    (p : Process)
    (k : UInt64) :
    ReplyHandler.pending k
        ((ReplyHandler.removeMessage sessionId messageId).run p).process.replyList =
      ReplyHandler.pending k p.replyList -
        if ReplyHandler.completeMessageId sessionId messageId == k then 1 else 0 := by
  rw [ReplyHandler.removeMessage_process]
  simp only [ReplyHandler.pending_withoutMessage, beq_iff_eq]
  by_cases hk : k = ReplyHandler.completeMessageId sessionId messageId
  · simp [hk]
  · have hne : ¬ ReplyHandler.completeMessageId sessionId messageId = k := fun h => hk h.symm
    simp [hk, hne]

/-- A statement takes a message off the list, if it is there to do so. -/
theorem pending_statement
    {st : Statement}
    (hplain : ∀ m, st = .handle m → m.body.Plain)
    (s : SessionRef)
    (p : Process)
    (k : UInt64) :
    ReplyHandler.pending k ((st.run s).run p).process.replyList =
      ReplyHandler.pending k p.replyList - if st.removes k then 1 else 0 := by
  have hkept : ∀ {α : Type} {x : Act α}, x.Within keepsReplies →
      ReplyHandler.pending k (x.run p).process.replyList = ReplyHandler.pending k p.replyList := by
    intro α x hx
    exact congrArg (ReplyHandler.pending k) (hx p)
  have hS := keepsReplies_session s
  cases st with
  | handle m =>
      have hbody := keeps_handle (hplain m rfl) s m.messageId
      cases hreply : m.isReply with
      | true =>
          have hremoved := pending_removeMessage m.sessionId m.messageId p k
          simp only [Statement.removes, Message.repliesTo, hreply, Bool.true_and, Message.key]
          rw [← hremoved]
          simp only [Statement.run, Message.handle, hreply, if_true]
          exact congrArg (ReplyHandler.pending k) (hbody _)
      | false =>
          simp only [Statement.removes, Message.repliesTo, hreply, Bool.false_and]
          simp only [Statement.run, Message.handle_of_not_reply hreply]
          exact congrArg (ReplyHandler.pending k) (hbody p)
  | removeMessage sessionId messageId => exact pending_removeMessage sessionId messageId p k
  | connectiSession sessionId =>
      exact hkept ((within_connectiSession hS sessionId).bind fun _ => Act.Within.pure [])
  | makeSessionReady sessionId sessionIdentifier =>
      refine hkept ((within_goToNextState hS _ _).bind fun _ => ?_)
      exact Act.Within.ite (fun _ => Act.Within.pure _) fun _ => Act.Within.pure _
  | sendSessionInitReply initialSessionId messageId completeSessionId sessionIdentifier =>
      have hflags : (0x2 &&& 0x1 : UInt8) = 0 := by decide
      have hsend : (sendMessage s ⟨initialSessionId, messageId, .sessionInitReply initialSessionId
          completeSessionId sessionIdentifier⟩).Within keepsReplies := fun q =>
        replyList_sendMessage (by simp [Message.replyRequired, Body.flags, hflags]) q
      exact hkept (((Act.Within.touch _).bind fun _ => hsend).bind fun _ => Act.Within.pure [])
  | _ => rfl

end SakuraNetwork

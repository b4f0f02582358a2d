import SakuraNetwork.CloseAgreement
import SakuraNetwork.ConnectionAtRest

/-!
# What two honest peers can rely on

A client and a server on one connection, each running the code of the library, with the
threads of both sides between any two statements of the handshake.

* `peers_agree`: the ids and identifiers of two ready sessions, and the reply that ends
  the wait for the init start message.
* `replies_match`: a reply takes the message it answers off the list of its sender.
* `peers_part`: once nothing is left to do, both sessions are ready or none is.

Each of them fails in one window: the client is ready before it has its final id, and the
server is ready before its init reply message is sent.
-/

namespace SakuraNetwork

open Lib

/-! ## What a statement takes off the list -/

/-- A reply first takes the message it answers off the list. -/
theorem Message.statements_of_isReply
    {m : Message}
    (hreply : m.isReply = true) :
    ∃ statement rest, m.statements = statement :: rest ∧
      ∀ k, statement.removes k = (m.key == k) := by
  obtain ⟨sessionId, messageId, body⟩ := m
  cases body with
  | sessionInitStart clientSessionId sessionIdentifier =>
      have hflags : (0x1 &&& 0x2 : UInt8) = 0 := by decide
      simp [Message.isReply, Body.flags, hflags] at hreply
  | sessionInitReply clientSessionId completeSessionId sessionIdentifier =>
      exact ⟨_, _, rfl, fun k => rfl⟩
  | _ =>
      refine ⟨_, _, rfl, fun k => ?_⟩
      simp only [Statement.removes, Message.repliesTo, hreply, Bool.true_and]

section Steps

variable {cfg : Config} {sessionIdentifier : Bytes} {st st' : Connection Peer} {x : Side}

/-- What the next statement of a receive thread takes off the list. -/
theorem Connection.pending_of_statement
    (hsound : st.Sound)
    {statement : Statement}
    {rest : List Statement}
    (hstatements : (st.party x).statements = statement :: rest)
    (hstep : (connection cfg sessionIdentifier).step st (.statement x) = some st')
    (k : UInt64) :
    ReplyHandler.pending k (st'.replyList x) =
      ReplyHandler.pending k (st.replyList x) - if statement.removes k then 1 else 0 := by
  simp only [connection, Connection.step, hstatements, Option.some.injEq] at hstep
  subst hstep
  have hplain : ∀ m, statement = .handle m → m.body.Plain := fun m hm =>
    hsound.plain x m (by rw [hstatements, hm]; exact List.mem_cons_self)
  have hpending := pending_statement hplain (st.party x).core.session (st.party x).core.process k
  simpa only [Connection.replyList, Connection.run, Connection.perform_party_same] using hpending

end Steps

/-! ## The handshake -/

/-- The client records its init start message under the two ids of the message. -/
theorem startSession_records
    {s : SessionRef}
    {p : Process}
    {sessionIdentifier : Bytes}
    (hworks : (p.session s).Works)
    (hfresh : (p.session s).statemachine = .notConnected)
    (hlen : sessionIdentifier.length ≤ 64000) :
    ∃ m, Connection.sentOver s ((startSession s sessionIdentifier).run p).outputs = [m] ∧
      m.body.opensSession = true ∧
      ((startSession s sessionIdentifier).run p).process.replyList = p.replyList ++
        [{ completeMessageId := m.key
           messageType := MessageType.session.code
           session := s }] := by
  have hconnectable : (p.session s).connectable = true := by
    obtain ⟨socket, hsocket, hinit, _⟩ := hworks
    simp [Session.connectable, hsocket, hinit, hfresh]
  obtain ⟨messageId, hbrings⟩ := brings_startSession hworks hfresh hlen
  have hlist := replyList_start Config.default hlen hconnectable
  have hvalue := startSession_value s hlen p
  rw [hconnectable] at hvalue
  simp only [Operation.act, Act.run_bind, hvalue, Bool.true_or, if_true, Act.run_pure] at hlist
  refine ⟨_, hbrings.sent, rfl, ?_⟩
  -- what is recorded is what is sent, so it has the key of the message
  have hawaits := recordsSent_startSession hworks hfresh hlen
    (ReplyHandler.completeMessageId (p.sessionIdCounter + 1).toUInt32
      ((p.session s).messageIdCounter + 1))
  rw [hlist, hbrings.sent, ReplyHandler.pending_append] at hawaits
  rw [List.countP_singleton] at hawaits
  split at hawaits
  · rename_i hone
    rw [hlist, beq_iff_eq.mp (Bool.and_eq_true_iff.mp hone).2]
  · exact absurd hawaits (by simp [ReplyHandler.pending])

/-- The client awaits a reply to its init start message under the two ids of the message,
until its receive thread takes the message off the list. -/
structure Connection.AwaitsStart
    (cfg : Config)
    (sessionIdentifier : Bytes)
    (st : Connection Peer) : Prop where
  recorded : ∀ st', (connection cfg sessionIdentifier).step st .start = some st' →
    ∃ m, st'.log = [⟨.client, none, m⟩] ∧ m.body.opensSession = true ∧
      st'.replyList .client = st.replyList .client ++
        [{ completeMessageId := m.key
           messageType := MessageType.session.code
           session := (st.party .client).core.session }]
  removed : ∀ sessionId messageId rest st',
    (st.party .client).statements = .removeMessage sessionId messageId :: rest →
    (connection cfg sessionIdentifier).step st (.statement .client) = some st' →
      ∃ m, ⟨.client, none, m⟩ ∈ st.log ∧ m.body.opensSession = true ∧
        ∀ k, ReplyHandler.pending k (st'.replyList .client) =
          ReplyHandler.pending k (st.replyList .client) - if m.key == k then 1 else 0

section Handshake

variable {cfg : Config} {sessionIdentifier : Bytes} {st : Connection Peer}

/-- The message that the receive thread of the client takes off the list in the handshake. -/
theorem Handshake.removed_of_statements
    {ids : HandshakeIds}
    {b : Progress}
    {d : Dialogue}
    (hat : Handshake sessionIdentifier ids b d)
    {sessionId messageId : UInt32}
    {rest : List Statement}
    (hstatements : (d.party .client).statements = .removeMessage sessionId messageId :: rest) :
    ⟨.client, none, ids.initStart sessionIdentifier⟩ ∈ d.log ∧
      sessionId = ids.clientId ∧ messageId = ids.messageId := by
  cases hrunning : b.running .client with
  | none =>
      rcases hat.spare .client hrunning with hnone | ⟨m, hone, _⟩
      · rw [hnone] at hstatements
        cases hstatements
      · rw [hone] at hstatements
        cases hstatements
  | some statements =>
      rw [hat.running .client statements hrunning] at hstatements
      cases b with
      | accepting statements' =>
          cases hrunning
          have hlogged := hat.initStart_of_begun Progress.noConfusion
          have hclient := hat.client.1
          rw [hstatements] at hclient
          cases hclient
          exact ⟨hlogged, rfl, rfl⟩
      | _ => cases hrunning

theorem awaitsStart_of_reachable
    (hlen : sessionIdentifier.length ≤ 64000)
    (h : (connection cfg sessionIdentifier).Reachable st) :
    st.AwaitsStart cfg sessionIdentifier := by
  have hsound := sound_of_reaches hlen h
  obtain ⟨ids, b, hat⟩ := handshake_of_reaches hlen h
  constructor
  · intro st' hstep
    simp only [connection, Connection.step, Option.ite_none_right_eq_some,
      Option.some.injEq] at hstep
    obtain ⟨⟨hlog, hfresh⟩, rfl⟩ := hstep
    obtain ⟨m, hsent, hopens, hlist⟩ := startSession_records (hsound.works .client) hfresh hlen
    refine ⟨m, ?_, hopens, ?_⟩
    · simp only [Connection.run, Connection.perform, hlog, hsent]
      rfl
    · simpa only [Connection.replyList, Connection.run, Connection.perform_party_same] using hlist
  · intro sessionId messageId rest st' hstatements hstep
    obtain ⟨hlogged, rfl, rfl⟩ := hat.removed_of_statements hstatements
    exact ⟨_, hlogged, rfl, Connection.pending_of_statement hsound hstatements hstep⟩

/-- In every run both sides agree on the id and the identifier of their session, and the
client awaits the reply to its init start message under the ids of the message. -/
theorem peers_agree
    (hlen : sessionIdentifier.length ≤ 64000)
    (h : (connection cfg sessionIdentifier).Reachable st) :
    st.Agrees sessionIdentifier ∧ st.AwaitsStart cfg sessionIdentifier := by
  obtain ⟨ids, b, hat⟩ := handshake_of_reaches hlen h
  exact ⟨hat.agrees, awaitsStart_of_reachable hlen h⟩

end Handshake

/-- The server has answered, and the client has got the init reply message. -/
def answeredActions : List Action :=
  .start :: .receive .server :: List.replicate 9 (.statement .server) ++ [.receive .client]

/-- The client takes its init start message off the list, and both sides become ready under
one id. -/
theorem peers_agree_answered :
    ∃ st st' st'', (connection Config.default [7]).exec freshConnection answeredActions = some st ∧
      st.Agrees [7] ∧ st.AwaitsStart Config.default [7] ∧
      (connection Config.default [7]).step st (.statement .client) = some st' ∧
      (st.replyList .client).length = 1 ∧ (st'.replyList .client).length = 0 ∧
      (connection Config.default [7]).exec st' (List.replicate 7 (.statement .client)) =
        some st'' ∧
      (∀ x, (st''.session x).statemachine = .sessionReady) ∧ st''.Agrees [7] := by
  have hexec : ∃ st st' st'',
      (connection Config.default [7]).exec freshConnection answeredActions = some st ∧
      (connection Config.default [7]).step st (.statement .client) = some st' ∧
      (st.replyList .client).length = 1 ∧ (st'.replyList .client).length = 0 ∧
      (connection Config.default [7]).exec st' (List.replicate 7 (.statement .client)) =
        some st'' ∧
      ∀ x, (st''.session x).statemachine = .sessionReady :=
    ⟨_, _, _, rfl, rfl, rfl, rfl, rfl, fun x => by cases x <;> rfl⟩
  obtain ⟨st, st', st'', hst, hst', hone, hnone, hst'', hready⟩ := hexec
  have hreach : (connection Config.default [7]).Reachable st := .of_exec init_freshConnection hst
  obtain ⟨hagrees, hawaits⟩ := peers_agree (by decide) hreach
  refine ⟨st, st', st'', hst, hagrees, hawaits, hst', hone, hnone, hst'', hready, ?_⟩
  refine (peers_agree (by decide) (TransitionSystem.Reaches.of_exec (hreach.step trivial hst') ?_
    hst'')).1
  exact TransitionSystem.execAllowed_of_forall (fun _ _ _ => trivial) _

/-- Inside `makeSessionReady` the client is ready under the id it has drawn itself, while
the server is ready under the final one. -/
theorem not_peers_agree :
    ¬ ∀ st, (connection Config.default [7]).Reachable st →
      (∀ x, (st.session x).statemachine = .sessionReady) →
        (st.session .client).sessionId = (st.session .server).sessionId ∧
          (st.session .client).sessionIdentifier = [7] := by
  intro h
  have hexec : ∃ st,
      (connection Config.default [7]).exec freshConnection hurriedActions = some st ∧
      (∀ x, (st.session x).statemachine = .sessionReady) ∧
      (st.session .client).sessionId = 1 ∧ (st.session .server).sessionId = 65537 :=
    ⟨_, rfl, fun x => by cases x <;> rfl, rfl, rfl⟩
  obtain ⟨st, hst, hready, hclient, hserver⟩ := hexec
  have hsame := (h st (.of_exec init_freshConnection hst) hready).1
  rw [hclient, hserver] at hsame
  exact absurd hsame (by decide)

/-! ## Replies -/

/-- The reply to a message that requires one carries the key under which `sendMessage`
recorded the message, and takes it off the list. -/
structure Connection.RepliesMatch
    (cfg : Config)
    (sessionIdentifier : Bytes)
    (st : Connection Peer) : Prop where
  matching : ∀ e ∈ st.log, ∀ m, e.answered = some m → e.Matches m st.log
  recorded : ∀ x (m : Message), m.replyRequired = true → ∀ k,
    ReplyHandler.pending k ((sendMessage (st.party x).core.session m).run
      (st.party x).core.process).process.replyList =
        ReplyHandler.pending k (st.replyList x) + if m.key == k then 1 else 0
  removed : ∀ e ∈ st.log, ∀ m, e.answered = some m → m.replyRequired = true →
    (st.party e.sender.other).statements = e.message.statements →
      ∀ st', (connection cfg sessionIdentifier).step st (.statement e.sender.other) = some st' →
        ∀ k, ReplyHandler.pending k (st'.replyList e.sender.other) =
          ReplyHandler.pending k (st.replyList e.sender.other) - if m.key == k then 1 else 0

/-- `sendMessage` records what requires a reply, whether the socket takes it or not. -/
theorem pending_sendMessage
    {s : SessionRef}
    {p : Process}
    (hworks : (p.session s).Works)
    {m : Message}
    (hrequired : m.replyRequired = true)
    (k : UInt64) :
    ReplyHandler.pending k ((sendMessage s m).run p).process.replyList =
      ReplyHandler.pending k p.replyList + if m.key == k then 1 else 0 := by
  obtain ⟨socket, hsocket, _⟩ := hworks
  rw [run_sendMessage, hsocket]
  simp only [Process.record, if_pos hrequired, Process.modifySession, ReplyHandler.pending_append]
  simp [ReplyHandler.pending, Message.key, List.countP_singleton]

section Replies

variable {cfg : Config} {sessionIdentifier : Bytes} {st : Connection Peer}

/-- A reply under the key of its message has this key. -/
theorem Sent.Matches.key
    {e : Sent}
    {m : Message}
    {log : List Sent}
    (h : e.Matches m log)
    (hrequired : m.replyRequired = true) :
    e.message.key = m.key := by
  rw [Message.key, Message.key, h.sessionId hrequired, h.messageId]

/-- In every run in which a ready session sends what requires a reply only while the other
side holds its id, or behind the init reply message, every reply takes the message it
answers off the list. -/
theorem replies_match
    (hlen : sessionIdentifier.length ≤ 64000)
    (h : (connection cfg sessionIdentifier).Reaches
      (fun st a => Dialogue.Tuned cfg st.view a) st) :
    st.RepliesMatch cfg sessionIdentifier := by
  have hsound := sound_of_reaches hlen h.reachable
  obtain ⟨ids, b, _, hkeys⟩ := replyKeys_of_reaches hlen h
  refine ⟨hkeys.log, fun x m => pending_sendMessage (hsound.works x), ?_⟩
  intro e he m hanswered hrequired hstatements st' hstep k
  have hmatches := hkeys.log e he m hanswered
  obtain ⟨statement, rest, hfirst, hremoves⟩ := Message.statements_of_isReply hmatches.isReply
  rw [hfirst] at hstatements
  rw [Connection.pending_of_statement hsound hstatements hstep, hremoves, hmatches.key hrequired]

end Replies

/-- The client takes its heartbeat off the list when it gets the reply. -/
theorem replies_match_heartbeat :
    ∃ st st', (connection Config.default [7]).exec openedConnection
        [.call .client .heartbeat, .receive .server, .statement .server, .receive .client] =
          some st ∧
      st.RepliesMatch Config.default [7] ∧
      (connection Config.default [7]).step st (.statement .client) = some st' ∧
      (st.replyList .client).length = 1 ∧ (st'.replyList .client).length = 0 := by
  have hopened : (connection Config.default [7]).Reaches
      (fun st a => Dialogue.Tuned Config.default st.view a) openedConnection := by
    refine .of_exec (.init init_freshConnection)
      (TransitionSystem.execAllowed_of_forall ?_ _) exec_handshakeActions
    intro a ha _
    cases a with
    | call x c => simp [handshakeActions] at ha
    | close x replyExpected => simp [handshakeActions] at ha
    | _ => exact trivial
  have hexec : ∃ st st', (connection Config.default [7]).exec openedConnection
      [.call .client .heartbeat, .receive .server, .statement .server, .receive .client] =
        some st ∧
      (connection Config.default [7]).step st (.statement .client) = some st' ∧
      (st.replyList .client).length = 1 ∧ (st'.replyList .client).length = 0 :=
    ⟨_, _, rfl, rfl, rfl, rfl⟩
  obtain ⟨st, st', hst, hst', hone, hnone⟩ := hexec
  refine ⟨st, st', hst, replies_match (by decide) (hopened.of_exec ?_ hst), hst', hone, hnone⟩
  exact ⟨fun _ _ => Or.inl rfl, fun _ _ => ⟨trivial, fun _ _ => ⟨trivial, fun _ _ =>
    ⟨trivial, fun _ _ => trivial⟩⟩⟩⟩

/-- The server is ready and has run its create callback, but not sent its init reply message
yet, when its heartbeat thread is at it. -/
def earlyHeartbeatActions : List Action :=
  .start :: .receive .server :: List.replicate 8 (.statement .server) ++
    [.call .server .heartbeat, .receive .client, .statement .client]

/-- The client replies to the heartbeat under its provisional id. -/
theorem not_replies_match :
    ¬ ∀ st, (connection Config.default [7]).Reachable st →
      ∀ e ∈ st.log, ∀ m, e.answered = some m → m.replyRequired = true →
        e.message.key = m.key := by
  intro h
  have hexec : ∃ st,
      (connection Config.default [7]).exec freshConnection earlyHeartbeatActions = some st ∧
      ⟨.client, some ⟨65537, 1, .heartbeatStart⟩, ⟨1, 1, .heartbeatReply⟩⟩ ∈ st.log :=
    ⟨_, rfl, List.mem_of_getLast? rfl⟩
  obtain ⟨st, hst, hreply⟩ := hexec
  have hkey := h st (.of_exec init_freshConnection hst) _ hreply _ rfl rfl
  exact absurd hkey (by decide)

/-! ## Closing -/

/-- The init reply message is not sent after a close start message, and `startSession` does
not give the client up. -/
def Startup.Orderly (st : Startup) : StartupAction → Prop
  | .step a => Dialogue.Unhurried st.connection.view a
  | .finishStart => (st.connection.session .client).initState ≠ -1

section Closing

variable {cfg : Config} {sessionIdentifier : Bytes} {st : Startup}

theorem Startup.Orderly.unhurried
    {a : StartupAction}
    (h : st.Orderly a) :
    st.Unhurried a := by
  cases a with
  | step a => exact h
  | finishStart => exact trivial

/-- In an orderly run the client is not deleted. -/
theorem stage_of_orderly
    (h : (startup cfg sessionIdentifier).Reaches Startup.Orderly st) :
    st.stage ≠ .failed := by
  induction h with
  | init h =>
      rw [h.2]
      exact StartStage.noConfusion
  | @step st st' a hrun horderly hstep ih =>
      cases a with
      | step a =>
          simp only [startup] at hstep
          split at hstep
          · cases hstep
          · obtain ⟨c, _, rfl⟩ := Option.map_eq_some_iff.mp hstep
            exact ih
      | finishStart =>
          simp only [startup, if_neg horderly] at hstep
          split at hstep
          · cases hstep
            exact StartStage.noConfusion
          · cases hstep

/-- In every run in which the init reply message is not sent after a close start message,
and the client is not given up: once no frame is on its way and no handler is running, both
sides are ready or none is, and none is if one has closed. -/
theorem peers_part
    (hlen : sessionIdentifier.length ≤ 64000)
    (h : (startup cfg sessionIdentifier).Reaches Startup.Orderly st)
    (hquiet : st.connection.Quiet) :
    ((st.connection.session .client).statemachine = .sessionReady ↔
      (st.connection.session .server).statemachine = .sessionReady) ∧
    ∀ x, st.connection.HasClosed x →
      ∀ y, (st.connection.session y).statemachine ≠ .sessionReady := by
  have hunhurried := h.mono fun _ _ horderly => Startup.Orderly.unhurried horderly
  have hconnection := (startup_of_reaches hunhurried).1 (stage_of_orderly h)
  exact ready_iff_of_quiescent hlen hconnection fun x => (hquiet x).symm

/-- Before `startSession` ends, a run is one of the connection. -/
theorem exec_map_step
    (c : Connection Peer)
    (as : List Action) :
    (startup cfg sessionIdentifier).exec ⟨c, .waiting⟩ (as.map .step) =
      ((connection cfg sessionIdentifier).exec c as).map (fun c' => ⟨c', .waiting⟩) := by
  induction as generalizing c with
  | nil =>
      rfl
  | cons a as ih =>
      have hwaiting : ¬ (StartStage.waiting = .failed ∧ a.needsClient = true) :=
        fun h => StartStage.noConfusion h.1
      have hstep : (startup cfg sessionIdentifier).step ⟨c, .waiting⟩ (.step a) =
          ((connection cfg sessionIdentifier).step c a).map (fun c' => ⟨c', .waiting⟩) := by
        simp only [startup]
        exact if_neg hwaiting
      rw [List.map_cons, TransitionSystem.exec, TransitionSystem.exec, hstep]
      cases (connection cfg sessionIdentifier).step c a with
      | none => rfl
      | some c' => exact ih c'

end Closing

/-- The steps of the handshake are orderly. -/
theorem reaches_opened :
    (startup Config.default [7]).Reaches Startup.Orderly ⟨openedConnection, .waiting⟩ := by
  have hexec : (startup Config.default [7]).exec ⟨freshConnection, .waiting⟩
      (handshakeActions.map .step) = some ⟨openedConnection, .waiting⟩ := by
    rw [exec_map_step, exec_handshakeActions, Option.map_some]
  have hnone : ¬ openedConnection.HasClosed .server := by
    rintro ⟨e, he, _, hstarts⟩
    have hall : ∀ e ∈ openedConnection.log, e.message.body.startsClose = false := by decide
    rw [hall e he] at hstarts
    cases hstarts
  refine .of_exec (.init ⟨init_freshConnection, rfl⟩) ?_ hexec
  refine TransitionSystem.execAllowed_mono ?_ (unhurried_of_exec hexec hnone).2
  intro a ha st hunhurried
  obtain ⟨a, _, rfl⟩ := List.mem_map.mp ha
  exact hunhurried

/-- `startSession` of the client returns, and both sides close at once. -/
def partingActions : List StartupAction :=
  [.finishStart, .step (.close .client true), .step (.close .server false),
    .step (.endClose .server), .step (.receive .client), .step (.statement .client),
    .step (.receive .server), .step (.receive .server)]

/-- After both sides have closed none is ready. -/
theorem peers_part_closed :
    ∃ st, (startup Config.default [7]).exec ⟨openedConnection, .waiting⟩ partingActions =
        some st ∧
      (∀ x, st.connection.HasClosed x) ∧
      ((st.connection.session .client).statemachine = .sessionReady ↔
        (st.connection.session .server).statemachine = .sessionReady) ∧
      ∀ x, (st.connection.session x).statemachine ≠ .sessionReady := by
  have hexec : ∃ st, (startup Config.default [7]).exec ⟨openedConnection, .waiting⟩
      partingActions = some st ∧ st.connection.Quiet ∧
        ∀ x, ∃ e ∈ st.connection.log, e.sender = x ∧ e.message.body.startsClose = true :=
    ⟨_, rfl, fun x => by cases x <;> exact ⟨rfl, rfl⟩, fun x => by cases x <;> decide⟩
  obtain ⟨st, hst, hquiet, hclosed⟩ := hexec
  have horderly : (startup Config.default [7]).execAllowed Startup.Orderly
      ⟨openedConnection, .waiting⟩ partingActions := by
    have hreturned : (openedConnection.session .client).initState ≠ -1 := by decide
    refine ⟨hreturned, fun _ _ => TransitionSystem.execAllowed_of_forall ?_ _⟩
    -- the server has no statement to run
    intro a ha st
    simp only [List.mem_cons, List.not_mem_nil, or_false] at ha
    rcases ha with rfl | rfl | rfl | rfl | rfl | rfl | rfl <;> exact trivial
  obtain ⟨hagree, hnone⟩ := peers_part (by decide) (reaches_opened.of_exec horderly hst) hquiet
  exact ⟨st, hst, hclosed, hagree, hnone .client (hclosed .client)⟩

/-- The server closes with a reply from inside its create callback, before its init reply
message is sent. -/
def overtakenActions : List StartupAction :=
  .step .start :: .step (.receive .server) ::
    List.replicate 8 (.step (.statement .server)) ++
    [.step (.close .server true), .step (.statement .server), .step (.receive .client),
      .step (.statement .client), .step (.receive .client)] ++
    List.replicate 8 (.step (.statement .client)) ++
    [.finishStart, .step (.receive .server), .step (.statement .server)]

/-- The client gets the close start message before it is ready, replies to it, and becomes
ready with the init reply message; the server closes with the reply. -/
theorem not_peers_part :
    ¬ ∀ st, (startup Config.default [7]).Reachable st → st.connection.Quiet →
      ((st.connection.session .client).statemachine = .sessionReady ↔
        (st.connection.session .server).statemachine = .sessionReady) := by
  intro h
  have hexec : ∃ st, (startup Config.default [7]).exec ⟨freshConnection, .waiting⟩
      overtakenActions = some st ∧ st.connection.Quiet ∧
        (st.connection.session .client).statemachine = .sessionReady ∧
        (st.connection.session .server).statemachine = .notConnected :=
    ⟨_, rfl, fun x => by cases x <;> exact ⟨rfl, rfl⟩, rfl, rfl⟩
  obtain ⟨st, hst, hquiet, hclient, hserver⟩ := hexec
  have hready := (h st (.of_exec ⟨init_freshConnection, rfl⟩ hst) hquiet).mp hclient
  cases hserver.symm.trans hready

end SakuraNetwork

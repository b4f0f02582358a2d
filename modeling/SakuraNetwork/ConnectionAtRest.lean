import SakuraNetwork.Delivery
import SakuraNetwork.OwedReplies
import SakuraNetwork.ReplyAgreement
import SakuraNetwork.Settling

/-!
# A connection at rest

When the receive threads have nothing left to do, what was sent over open sockets has
arrived: nothing is awaited, and the callbacks have got everything that was handed over.

* `Connection.Listening`: both sockets are open.
* `Connection.Owes`: no side awaits more than it is owed.
* `answered_at_rest`: it holds along every run, and at rest nothing is awaited.
* `delivered_at_rest`: what was handed over has been delivered.
-/

namespace SakuraNetwork

open Lib

/-! ## Open sockets -/

/-- Both sockets are open; before the start the client has yet to open its own. -/
structure Connection.Listening (d : Connection SessionEndpoint) : Prop where
  server : (d.endpoint .server).isOpen = true
  client : d.log = [] ∨ (d.endpoint .client).isOpen = true

namespace Handshake

variable {sessionIdentifier : Bytes} {k : HandshakeIds} {b : Progress} {d d' : Dialogue}
  {x : Side}

/-- A step other than the start opens no socket. -/
theorem listening_of_step
    (h : Handshake sessionIdentifier k b d)
    {cfg : Config}
    {a : Action}
    (hstep : Dialogue.Step cfg sessionIdentifier d a d')
    (hlistening : d'.Listening) :
    d.Listening := by
  have hperform : ∀ {x : Side} {answered : Option Message} {core : SessionEndpoint}
      {statements : List Statement} {ending : Nat} {sent : List Message},
      (core.isOpen = true → (d.endpoint x).isOpen = true) →
      (d.perform x answered core statements ending sent).Listening → d.Listening := by
    intro x answered core statements ending sent hopen hlistening
    obtain ⟨hserver, hclient⟩ := hlistening
    rw [Connection.perform_log, List.append_eq_nil_iff] at hclient
    cases x with
    | client =>
        rw [Connection.endpoint, Connection.perform_party_same] at hclient
        rw [Connection.endpoint, Connection.perform_party_other (by decide)] at hserver
        exact ⟨hserver, hclient.imp And.left hopen⟩
    | server =>
        rw [Connection.endpoint, Connection.perform_party_same] at hserver
        rw [Connection.endpoint, Connection.perform_party_other (by decide)] at hclient
        exact ⟨hopen hserver, hclient.imp_left And.left⟩
  cases hstep with
  | start messageId hlog hfresh =>
      have hserver := hlistening.server
      rw [Connection.endpoint, Connection.perform_party_other (by decide)] at hserver
      exact ⟨hserver, Or.inl hlog⟩
  | take hidle hincoming hopen =>
      obtain ⟨hserver, hclient⟩ := hlistening
      rw [Connection.endpoint, Connection.take_core] at hserver hclient
      exact ⟨hserver, hclient⟩
  | drop => exact ⟨hlistening.server, hlistening.client⟩
  | handle hstatements hplain => exact hperform Body.isOpen_of_after hlistening
  | statement hstatements hother =>
      exact hperform (h.isOpen_of_after hstatements) hlistening
  | call hspeaks => exact hperform id hlistening
  | close messageId => exact hperform id hlistening
  | endClose hending =>
      exact hperform (Body.isOpen_of_after (b := .sessionCloseStart false)) hlistening

/-- A side whose receive thread has something to do has an open socket. -/
theorem isOpen_of_pending
    (h : Handshake sessionIdentifier k b d)
    (hkeys : ReplyKeys k b d)
    (hlistening : d.Listening)
    (hbusy : (d.party x).statements ≠ [] ∨ d.incoming x ≠ []) :
    (d.endpoint x).isOpen = true := by
  cases x with
  | server => exact hlistening.server
  | client =>
      refine hlistening.client.resolve_left fun hlog => ?_
      have hidle := h.idle_of_log hlog
      subst hidle
      have hnone : d.pending .client = [] := by
        refine List.eq_nil_iff_forall_not_mem.mpr fun m hm => ?_
        obtain ⟨e, he, _⟩ := hkeys.sent .client m hm
        rw [hlog] at he
        cases he
      rw [Connection.pending, List.append_eq_nil_iff] at hnone
      rcases hbusy with hstatements | hincoming
      · rcases h.spare .client rfl with hnil | ⟨m, hm, _⟩
        · exact hstatements hnil
        · rw [hm] at hnone
          cases hnone.1
      · exact hincoming hnone.2

end Handshake

/-! ## No side awaits more than it is owed -/

namespace Connection

/-- The messages that a side awaits replies for. -/
def replyList (st : Connection Peer) (x : Side) : List MessageTime :=
  (st.party x).core.process.replyList

/-- No side awaits other messages than those in `l`. -/
def AwaitsAtMost (l : Side → List MessageTime) (st : Connection Peer) : Prop :=
  ∀ x k, ReplyHandler.pending k (st.replyList x) ≤ ReplyHandler.pending k (l x)

/-- Besides the messages in `l`, each side awaits at most what it is owed. -/
def Owes (l : Side → List MessageTime) (st : Connection Peer) : Prop :=
  ∀ x k, ReplyHandler.pending k (st.replyList x) ≤ ReplyHandler.pending k (l x) + st.owed x k

variable {l : Side → List MessageTime} {st : Connection Peer} {x : Side}

theorem Owes.take
    (h : st.Owes l)
    {m : Message}
    {rest : List Message}
    (hidle : (st.party x).statements = [])
    (hincoming : st.incoming x = m :: rest) :
    (st.take x m rest).Owes l := by
  intro y k
  rw [owed_take hidle hincoming, replyList, take_core]
  exact h y k

/-- A step of one side: what is taken off its list was owed to it, what it records is sent,
and what it was to answer is answered or left to be answered. -/
theorem Owes.run
    (h : st.Owes l)
    {α : Type}
    {answered : Option Message}
    {a : SessionRef → Act α}
    {statements : α → List Statement}
    {ending : α → Nat}
    {old next rest : List Statement}
    {sent : List Message}
    (hold : (st.party x).statements = old ++ rest)
    (hnext : statements ((a (st.party x).core.session).run (st.party x).core.process).value =
      next ++ rest)
    (hsent : sentOver (st.party x).core.session
      ((a (st.party x).core.session).run (st.party x).core.process).outputs = sent)
    (hids : ∀ m ∈ sent, m.UnderOwnId)
    (hown : ∀ k, ReplyHandler.pending k
        ((a (st.party x).core.session).run (st.party x).core.process).process.replyList ≤
      ReplyHandler.pending k (st.replyList x) - old.countP (Statement.removes k) +
        sent.countP (Message.awaits k))
    (hanswered : ∀ k, old.countP (Statement.answers k) ≤
      sent.countP (Message.repliesTo k) + next.countP (Statement.answers k)) :
    (st.run x answered a statements ending).Owes l := by
  intro y k
  rw [Connection.run, hnext, hsent]
  rcases Side.eq_or_other x y with rfl | rfl
  · rw [replyList, perform_party_same]
    exact le_owed_perform_same hold hids (h y k) (hown k)
  · rw [replyList, perform_party_other (Side.other_ne x)]
    exact Nat.le_trans (h x.other k)
      (Nat.add_le_add_left (owed_le_perform_other hold (hanswered k)) _)

/-- What another thread sends is owed. -/
theorem Owes.speak
    (h : st.Owes l)
    {α : Type}
    {answered : Option Message}
    {a : SessionRef → Act α}
    {ending : α → Nat}
    {sent : List Message}
    (hsent : sentOver (st.party x).core.session
      ((a (st.party x).core.session).run (st.party x).core.process).outputs = sent)
    (hids : ∀ m ∈ sent, m.UnderOwnId)
    (hrecords : RecordsSent (st.party x).core.session (st.party x).core.process
      (a (st.party x).core.session)) :
    (st.run x answered a (fun _ => (st.party x).statements) ending).Owes l := by
  have hold : (st.party x).statements = [] ++ (st.party x).statements := rfl
  refine h.run hold hold hsent hids (fun k => ?_) fun k => Nat.zero_le _
  rw [← hsent]
  exact hrecords k

end Connection

/-- A message that requires a reply has one. -/
theorem Body.reply_of_required
    {b : Body}
    (hplain : b.Plain)
    (hrequired : b.flags &&& 0x1 ≠ 0) :
    ∃ b', b.reply = some b' := by
  have hnone : (0x0 &&& 0x1 : UInt8) = 0 := by decide
  have hreply : (0x2 &&& 0x1 : UInt8) = 0 := by decide
  cases b with
  | sessionInitStart => cases hplain
  | sessionInitReply => cases hplain
  | sessionCloseStart replyExpected => exact ⟨_, rfl⟩
  | heartbeatStart => exact ⟨_, rfl⟩
  | stream replyExpected data =>
      cases replyExpected with
      | true => exact ⟨_, rfl⟩
      | false => exact absurd hnone hrequired
  | singleBlock multiblockId blockerId data => exact ⟨_, rfl⟩
  | error subType message => exact absurd hnone hrequired
  | multiStatic totalSize multiblockId totalPartNumber partId data blockerId =>
      exact absurd (flags_multi blockerId) hrequired
  | multiFinish multiblockId blockerId => exact absurd (flags_multi blockerId) hrequired
  | _ => exact absurd hreply hrequired

section Steps

variable {cfg : Config} {sessionIdentifier : Bytes} {ids : HandshakeIds} {b : Progress}
  {l : Side → List MessageTime} {st st' : Connection Peer}

/-- What is to be answered by a statement is answered by it, or by the statements it goes
on with. -/
theorem countP_answers_after
    {statement : Statement}
    (hother : ∀ m, statement ≠ .handle m)
    (e : SessionEndpoint)
    (k : UInt64) :
    [statement].countP (Statement.answers k) ≤
      statement.sends.countP (Message.repliesTo k) +
        (statement.after e).2.countP (Statement.answers k) := by
  cases statement with
  | handle m => exact absurd rfl (hother m)
  | processSessionInitStart clientSessionId messageId identifier =>
      simp [Statement.after, Statement.answers, Statement.sends, List.countP_cons]
  | sendSessionInitReply initialSessionId messageId completeSessionId identifier =>
      simp [Statement.after, Statement.answers, Statement.sends, List.countP_cons,
        Message.repliesTo, Message.isReply, Message.key, Body.flags]
  | _ => exact Nat.zero_le _

/-- The reply to a message is sent under the key it is awaited under. -/
theorem ReplyKeys.countP_answers_handle
    {d : Dialogue}
    {x : Side}
    (h : ReplyKeys ids b d)
    {m : Message}
    {rest : List Statement}
    (hstatements : (d.party x).statements = .handle m :: rest)
    (hspare : b.running x = none)
    (hplain : m.body.Plain)
    (k : UInt64) :
    [Statement.handle m].countP (Statement.answers k) ≤
      (m.replies (d.endpoint x)).countP (Message.repliesTo k) := by
  cases hawaited : m.awaits k with
  | false =>
      simp [Statement.answers, hawaited]
  | true =>
      obtain ⟨hrequired, hkey⟩ : m.replyRequired = true ∧ m.key = k := by
        simpa [Message.awaits] using hawaited
      -- the receive thread gets to the message under the id it was sent under
      have hpending : d.pending x = m :: (rest.filterMap Statement.message ++ d.incoming x) := by
        rw [Connection.pending, hstatements]
        rfl
      have hinbox := h.inbox x
      rw [hpending, fits_cons, Progress.readingId_of_idle hspare] at hinbox
      have hid := hinbox.1 hplain hrequired
      obtain ⟨body, hbody⟩ := Body.reply_of_required hplain (by
        simpa [Message.replyRequired] using hrequired)
      have hreplies : m.replies (d.endpoint x) = [⟨m.sessionId, m.messageId, body⟩] := by
        rw [Message.replies, hbody, hid]
        rfl
      have hreply := (Message.mem_replies (hreplies ▸ List.mem_cons_self)).2.1
      have hanswers : (⟨m.sessionId, m.messageId, body⟩ : Message).repliesTo k = true := by
        rw [Message.repliesTo, hreply, ← hkey]
        exact beq_self_eq_true _
      rw [hreplies, List.countP_singleton, List.countP_singleton, if_pos hanswers]
      split
      · exact Nat.le_refl 1
      · exact Nat.zero_le 1

/-- A statement that a receive thread runs over an open socket. -/
theorem owes_statement
    (h : st.Owes l)
    (hsound : st.Sound)
    (hat : Handshake sessionIdentifier ids b st.view)
    (hkeys : ReplyKeys ids b st.view)
    (hlistening : st.view.Listening)
    {x : Side}
    {statement : Statement}
    {rest : List Statement}
    (hstatements : (st.party x).statements = statement :: rest) :
    (st.run x (st.party x).handling (fun s => statement.run s) (fun l => l ++ rest)
      (fun _ => (st.party x).ending)).Owes l := by
  have hisOpen : (st.view.endpoint x).isOpen = true := by
    refine hat.isOpen_of_pending hkeys hlistening (Or.inl ?_)
    change (st.party x).statements ≠ []
    rw [hstatements]
    exact List.cons_ne_nil _ _
  have hold : (st.party x).statements = [statement] ++ rest := hstatements
  have hplain : ∀ m, statement = .handle m → m.body.Plain := by
    rintro m rfl
    exact hsound.plain x m (by rw [hstatements]; exact List.mem_cons_self)
  have hown : ∀ sent : List Message, ∀ k, ReplyHandler.pending k
      ((statement.run (st.party x).core.session).run (st.party x).core.process).process.replyList ≤
      ReplyHandler.pending k (st.replyList x) - [statement].countP (Statement.removes k) +
        sent.countP (Message.awaits k) := by
    intro sent k
    rw [pending_statement hplain, List.countP_singleton]
    exact Nat.le_add_right _ _
  by_cases hhandle : ∃ m, statement = .handle m
  · obtain ⟨m, rfl⟩ := hhandle
    have hbrings : Brings _ _ ((Statement.handle m).run (st.party x).core.session) _ _ :=
      (brings_handle (hsound.works x) (hplain m rfl)).congr rfl (List.append_nil _)
    have hnext : (fun l => l ++ rest) (((Statement.handle m).run (st.party x).core.session).run
        (st.party x).core.process).value = [] ++ rest := rfl
    refine h.run hold hnext (hbrings.sent.trans (if_pos hisOpen)) ?_ (hown _) fun k => ?_
    · exact fun m' hm' => Message.underOwnId_of_plain (Message.mem_replies hm').1
    · have hspare := (hat.running_of_handle hstatements).1
      exact hkeys.countP_answers_handle hstatements hspare (hplain m rfl) k
  · have hother : ∀ m, statement ≠ .handle m := fun m h => hhandle ⟨m, h⟩
    obtain ⟨hbrings, hvalue⟩ := brings_statement (hsound.works x) hother
    have hnext : (fun l => l ++ rest) ((statement.run (st.party x).core.session).run
        (st.party x).core.process).value = (statement.after (st.view.endpoint x)).2 ++ rest :=
      congrArg (fun l => l ++ rest) hvalue
    refine h.run hold hnext (hbrings.sent.trans (if_pos hisOpen)) ?_ (hown _)
      (countP_answers_after hother _)
    intro m hm
    cases statement with
    | sendSessionInitReply initialSessionId messageId completeSessionId identifier =>
        rw [List.mem_singleton.mp hm]
        intro clientSessionId _ hbody
        cases hbody
    | _ => exact absurd hm List.not_mem_nil

/-- Over open sockets every step leaves each side with no more than it is owed. -/
theorem owes_step
    (h : st.view.Listening → st.Owes l)
    (hsound : st.Sound)
    (hlen : sessionIdentifier.length ≤ 64000)
    (hat : Handshake sessionIdentifier ids b st.view)
    (hkeys : ReplyKeys ids b st.view)
    {a : Action}
    (hstep : (connection cfg sessionIdentifier).step st a = some st')
    (hlistening' : st'.view.Listening) :
    st'.Owes l := by
  have hdialogue := (Connection.dialogue_step hsound hlen hstep).1
  have hlistening : st.view.Listening := hat.listening_of_step hdialogue hlistening'
  have howes := h hlistening
  have hopen : ∀ x, (st.session x).statemachine = .sessionReady →
      (st.view.endpoint x).isOpen = true := by
    intro x hready
    refine hat.isOpen x ?_
    intro hclosed
    cases hready.symm.trans hclosed
  cases a with
  | start =>
      simp only [connection, Connection.step, Option.ite_none_right_eq_some,
        Option.some.injEq] at hstep
      obtain ⟨⟨_, hfresh⟩, rfl⟩ := hstep
      obtain ⟨messageId, hbrings⟩ := brings_startSession (hsound.works .client) hfresh hlen
      refine howes.speak hbrings.sent ?_
        (recordsSent_startSession (hsound.works .client) hfresh hlen)
      intro m hm
      rw [List.mem_singleton.mp hm]
      intro clientSessionId identifier hbody
      cases hbody
      rfl
  | receive x =>
      simp only [connection, Connection.step] at hstep
      split at hstep
      · rename_i m rest hidle hincoming
        split at hstep
        · cases hstep
          exact howes.take hidle hincoming
        · rename_i hclosed
          refine absurd (hat.isOpen_of_pending hkeys hlistening (x := x) (Or.inr ?_)) hclosed
          change st.incoming x ≠ []
          rw [hincoming]
          exact List.cons_ne_nil _ _
      · cases hstep
  | statement x =>
      simp only [connection, Connection.step] at hstep
      split at hstep
      · cases hstep
      · rename_i statement rest hstatements
        cases hstep
        exact owes_statement howes hsound hat hkeys hlistening hstatements
  | call x c =>
      simp only [connection, Connection.step, Option.some.injEq] at hstep
      subst hstep
      obtain ⟨sent, hbrings, hspeaks⟩ := brings_call cfg (hsound.works x) c
      refine howes.speak hbrings.sent ?_ (recordsSent_call (hsound.works x) (hopen x) cfg c)
      exact fun m hm => Message.underOwnId_of_plain (hspeaks.spoken m hm).plain
  | close x replyExpected =>
      simp only [connection, Connection.step, Option.some.injEq] at hstep
      subst hstep
      obtain ⟨messageId, hbrings, hvalue⟩ := brings_beginClose (hsound.works x) replyExpected
      refine howes.speak hbrings.sent ?_
        (recordsSent_beginClose (hsound.works x) (hopen x) replyExpected)
      intro m hm
      split at hm
      · rw [List.mem_singleton.mp hm]
        exact Message.underOwnId_of_plain rfl
      · cases hm
  | endClose x =>
      simp only [connection, Connection.step, Option.ite_none_right_eq_some,
        Option.some.injEq] at hstep
      obtain ⟨hending, rfl⟩ := hstep
      refine howes.speak (brings_endSession (hsound.works x)).sent
        (fun m hm => absurd hm List.not_mem_nil) (.of_keeps ?_)
      exact within_endSession (keepsReplies_session _) _

end Steps

/-! ## Runs -/

/-- What holds of the replies along a run: they carry the keys they are awaited under, and
over open sockets no side awaits more than it is owed. -/
structure Connection.Answers
    (sessionIdentifier : Bytes)
    (l : Side → List MessageTime)
    (st : Connection Peer) : Prop where
  sound : st.Sound
  keyed : ∃ ids b, Handshake sessionIdentifier ids b st.view ∧ ReplyKeys ids b st.view
  owes : st.view.Listening → st.Owes l

section Runs

variable {cfg : Config} {sessionIdentifier : Bytes} {l : Side → List MessageTime}
  {st st' : Connection Peer}

theorem answers_of_initial
    (hinitial : st.Initial)
    (hstart : ∀ x, st.replyList x = l x) :
    st.Answers sessionIdentifier l := by
  refine ⟨Connection.sound_of_initial hinitial, ⟨⟨0, 0, 0⟩, .idle,
    Handshake.of_initial hinitial sessionIdentifier _, ReplyKeys.of_initial hinitial _⟩, ?_⟩
  intro _ x k
  rw [hstart x]
  exact Nat.le_add_right _ _

theorem answers_step
    (h : st.Answers sessionIdentifier l)
    (hlen : sessionIdentifier.length ≤ 64000)
    {a : Action}
    (htuned : Dialogue.Tuned cfg st.view a)
    (hstep : (connection cfg sessionIdentifier).step st a = some st') :
    st'.Answers sessionIdentifier l := by
  obtain ⟨ids, b, hat, hkeys⟩ := h.keyed
  obtain ⟨hdialogue, hsound⟩ := Connection.dialogue_step h.sound hlen hstep
  obtain ⟨ids', b', hmove, hat'⟩ := hat.step hdialogue
  exact ⟨hsound, ⟨ids', b', hat', hkeys.step hat hat' hmove htuned⟩,
    owes_step h.owes h.sound hlen hat hkeys hstep⟩

/-- The steps of the receive threads keep it. -/
theorem answers_of_exec
    (h : st.Answers sessionIdentifier l)
    (hlen : sessionIdentifier.length ≤ 64000)
    {as : List Action}
    (hreceivers : ∀ a ∈ as, a.ofReceiver = true)
    (hexec : (connection cfg sessionIdentifier).exec st as = some st') :
    st'.Answers sessionIdentifier l := by
  induction as generalizing st with
  | nil =>
      simp only [TransitionSystem.exec, Option.some.injEq] at hexec
      exact hexec ▸ h
  | cons a as ih =>
      obtain ⟨t, ht, hrest⟩ := Option.bind_eq_some_iff.mp hexec
      have htuned : Dialogue.Tuned cfg st.view a := by
        have hreceiver := hreceivers a List.mem_cons_self
        cases a with
        | receive x => exact trivial
        | statement x => exact trivial
        | _ => cases hreceiver
      exact ih (answers_step h hlen htuned ht)
        (fun a' ha' => hreceivers a' (List.mem_cons_of_mem a ha')) hrest

/-- At rest nothing is owed. -/
theorem Connection.Answers.at_rest
    (h : st.Answers sessionIdentifier l)
    (hquiet : st.Quiet)
    (hopen : ∀ x, (st.view.endpoint x).isOpen = true) :
    st.AwaitsAtMost l := by
  intro x k
  have htodo : ∀ y, st.todo y = [] := by
    intro y
    rw [Connection.todo, (hquiet y).1, (hquiet y).2]
    rfl
  have howed : st.owed x k = 0 := by
    rw [Connection.owed, htodo, htodo]
    rfl
  have hle := h.owes ⟨hopen .server, Or.inr (hopen .client)⟩ x k
  rwa [howed, Nat.add_zero] at hle

/-- Where what requires a reply is sent under an id that the other side holds when it gets
there, a connection at rest with open sockets awaits nothing that was sent over it.  From
every state that is reached, the receive threads can go on until it rests. -/
theorem answered_at_rest
    (hlen : sessionIdentifier.length ≤ 64000)
    (h : ((connection cfg sessionIdentifier).startingFrom
      (fun st => ∀ x, st.replyList x = l x)).Reaches
        (fun st a => Dialogue.Tuned cfg st.view a) st) :
    (st.Quiet → (∀ x, (st.view.endpoint x).isOpen = true) → st.AwaitsAtMost l) ∧
    ∃ as st', (connection cfg sessionIdentifier).exec st as = some st' ∧
      (∀ a ∈ as, a.ofReceiver = true) ∧ st'.Quiet ∧
      ((∀ x, (st'.view.endpoint x).isOpen = true) → st'.AwaitsAtMost l) := by
  have hanswers : st.Answers sessionIdentifier l := by
    induction h with
    | init hinit => exact answers_of_initial hinit.1 hinit.2
    | step _ htuned hstep ih => exact answers_step ih hlen htuned hstep
  refine ⟨hanswers.at_rest, ?_⟩
  obtain ⟨_, _, as, st', hexec, hreceivers, hquiet⟩ :=
    settles hlen h.of_startingFrom.reachable
  have hanswers' := answers_of_exec hanswers hlen hreceivers hexec
  exact ⟨as, st', hexec, hreceivers, hquiet, hanswers'.at_rest hquiet⟩

end Runs

/-- The client has got the reply to its heartbeat, and nothing is left to do. -/
theorem answered_at_rest_heartbeat :
    ∃ st, (connection Config.default [7]).exec openedConnection
        [.call .client .heartbeat, .receive .server, .statement .server, .receive .client,
          .statement .client] = some st ∧
      st.Quiet ∧ st.AwaitsAtMost (fun _ => []) ∧
      ∃ as st', (connection Config.default [7]).exec st as = some st' ∧
        (∀ a ∈ as, a.ofReceiver = true) ∧ st'.Quiet ∧
        ((∀ x, (st'.view.endpoint x).isOpen = true) → st'.AwaitsAtMost (fun _ => [])) := by
  have hopened : ((connection Config.default [7]).startingFrom
      (fun st => ∀ x, st.replyList x = [])).Reaches
        (fun st a => Dialogue.Tuned Config.default st.view a) openedConnection := by
    refine .of_exec (.init ⟨init_freshConnection, fun _ => rfl⟩)
      (TransitionSystem.execAllowed_of_forall ?_ _)
      ((TransitionSystem.exec_startingFrom _ _ _).trans exec_handshakeActions)
    intro a ha _
    cases a with
    | call x c => simp [handshakeActions] at ha
    | close x replyExpected => simp [handshakeActions] at ha
    | _ => exact trivial
  have hexec : ∃ st, (connection Config.default [7]).exec openedConnection
      [.call .client .heartbeat, .receive .server, .statement .server, .receive .client,
        .statement .client] = some st ∧ st.Quiet ∧
          ∀ x, (st.view.endpoint x).isOpen = true :=
    ⟨_, rfl, fun x => by cases x <;> exact ⟨rfl, rfl⟩, fun x => by cases x <;> rfl⟩
  obtain ⟨st, hst, hquiet, hopen⟩ := hexec
  have hreaches : ((connection Config.default [7]).startingFrom
      (fun st => ∀ x, st.replyList x = [])).Reaches
        (fun st a => Dialogue.Tuned Config.default st.view a) st := by
    refine hopened.of_exec ?_ ((TransitionSystem.exec_startingFrom _ _ _).trans hst)
    exact ⟨fun _ _ => Or.inl rfl, fun _ _ => ⟨trivial, fun _ _ => ⟨trivial, fun _ _ =>
      ⟨trivial, fun _ _ => ⟨trivial, fun _ _ => trivial⟩⟩⟩⟩⟩
  obtain ⟨hrest, hsettles⟩ := answered_at_rest (by decide) hreaches
  exact ⟨st, hst, hquiet, hrest hquiet hopen, hsettles⟩

/-! ## Delivery -/

/-- The receive threads hand nothing over. -/
theorem handedBy_of_receivers
    {cfg : Config}
    {sessionIdentifier : Bytes}
    {st st' : Connection Peer × List (Side × Event)}
    {as : List Action}
    (hexec : (exchange cfg sessionIdentifier).exec st as = some st')
    (hreceivers : ∀ a ∈ as, a.ofReceiver = true)
    (x : Side) :
    handedBy x st'.2 = handedBy x st.2 := by
  induction as generalizing st with
  | nil =>
      simp only [TransitionSystem.exec, Option.some.injEq] at hexec
      rw [hexec]
  | cons a as ih =>
      obtain ⟨t, ht, hrest⟩ := Option.bind_eq_some_iff.mp hexec
      rw [ih hrest fun a' ha' => hreceivers a' (List.mem_cons_of_mem a ha')]
      obtain ⟨next, _, rfl⟩ := Option.map_eq_some_iff.mp ht
      have hreports : st.1.reports cfg a = [] := by
        have hreceiver := hreceivers a List.mem_cons_self
        cases a with
        | call => cases hreceiver
        | _ => rfl
      have hnone : ((st.1.events cfg sessionIdentifier a).filterMap Event.operation) = [] := by
        rw [Connection.events, hreports, List.append_nil]
        exact operations_of_outputs _
      rw [handedBy, handedBy, eventsOf_append, List.filterMap_append]
      rcases Side.eq_or_other a.side x with rfl | hother
      · rw [eventsOf_same, hnone, List.append_nil]
      · rw [hother, eventsOf_other (Side.other_ne _), List.filterMap_nil, List.append_nil]

/-- The steps of the receive threads are permitted. -/
theorem Connection.permits_of_receiver
    {a : Action}
    (h : a.ofReceiver = true)
    (st : Connection Peer) :
    st.Permits a := by
  cases a with
  | receive x => exact ⟨trivial, by exact Nat.zero_le _⟩
  | statement x => exact ⟨trivial, by exact Nat.zero_le _⟩
  | _ => cases h

/-- In every run the receive threads can go on until the connection rests, and however they
do, every side with an open socket has then got all that the other side had handed over. -/
theorem delivered_at_rest
    {cfg : Config}
    {sessionIdentifier : Bytes}
    (hlen : sessionIdentifier.length ≤ 64000)
    {st : Connection Peer × List (Side × Event)}
    (h : (exchange cfg sessionIdentifier).Reaches (fun st a => st.1.Permits a) st) :
    (∀ as st', (exchange cfg sessionIdentifier).exec st as = some st' →
      (∀ a ∈ as, a.ofReceiver = true) → st'.1.Quiet →
        ∀ x, (st'.1.session x).socket.any Socket.isOpen = true →
          gotBy x st'.2 = (parcelsOf (handedBy x.other st.2)).filter Parcel.called) ∧
    ∃ as st', (exchange cfg sessionIdentifier).exec st as = some st' ∧
      (∀ a ∈ as, a.ofReceiver = true) ∧ st'.1.Quiet := by
  constructor
  · intro as st' hexec hreceivers hquiet x hopen
    have hreaches : (exchange cfg sessionIdentifier).Reaches (fun st a => st.1.Permits a) st' :=
      h.of_exec (TransitionSystem.execAllowed_of_forall
        (fun a ha st => Connection.permits_of_receiver (hreceivers a ha) st.1) st) hexec
    rw [(delivered_in_order hlen hreaches x).2.1 hopen (hquiet x).1 (hquiet x).2,
      handedBy_of_receivers hexec hreceivers]
  · obtain ⟨st, seen⟩ := st
    obtain ⟨_, _, as, st', hexec, hreceivers, hquiet⟩ :=
      settles hlen (reachable_of_exchange h.reachable)
    obtain ⟨seen', hseen⟩ := TransitionSystem.exists_exec_observed _
      ((TransitionSystem.exec_startingFrom Connection.Supplied _ _).trans hexec) seen
    exact ⟨as, (st', seen'), hseen, hreceivers, hquiet⟩

/-- The server has sent a stream message behind its init reply message: once the receive
threads have nothing left to do, the client has got it. -/
theorem delivered_at_rest_greeted :
    ∃ st, (exchange Config.default [7]).exec greeted [.call .server (.stream [6] false)] =
        some st ∧
      (∀ as st', (exchange Config.default [7]).exec st as = some st' →
        (∀ a ∈ as, a.ofReceiver = true) → st'.1.Quiet →
          (st'.1.session .client).socket.any Socket.isOpen = true →
            gotBy .client st'.2 = [.stream [6]]) ∧
      ∃ as st', (exchange Config.default [7]).exec st as = some st' ∧
        (∀ a ∈ as, a.ofReceiver = true) ∧ st'.1.Quiet := by
  have hexec : ∃ st, (exchange Config.default [7]).exec greeted
      [.call .server (.stream [6] false)] = some st ∧
        (parcelsOf (handedBy .server st.2)).filter Parcel.called = [.stream [6]] := ⟨_, rfl, rfl⟩
  obtain ⟨st, hst, hhanded⟩ := hexec
  have hreaches : (exchange Config.default [7]).Reaches (fun st a => st.1.Permits a) st :=
    reaches_greeted.of_exec (allowed_of_announced log_greeted (by decide)) hst
  obtain ⟨hgets, hsettles⟩ := delivered_at_rest (by decide) hreaches
  refine ⟨st, hst, fun as st' hexec' hreceivers hquiet hopen => ?_, hsettles⟩
  rw [hgets as st' hexec' hreceivers hquiet .client hopen]
  exact hhanded

end SakuraNetwork

import Mathlib.Algebra.GroupWithZero.Nat
import SakuraNetwork.HandshakeAgreement
import SakuraNetwork.Lib.Amortised

/-!
# A connection comes to rest

A reply is not answered, and a handler sends nothing but the reply.  What the receive
threads of both sides do is then bounded by what the other threads send, and a connection
on which nobody calls and no timer sends comes to rest.

* `Statement.work`, `Message.work`: the steps that a statement or a message causes on both
  sides, replies included.
* `Connection.work`: the steps that everything on its way causes.
* `Dialogue.Step.pays`: what a step does to it.
* `settles`: the bound along every run, and a rest from every state.
-/

namespace SakuraNetwork

open Lib

/-! ## Work -/

/-- The steps of the receive threads that a statement causes, with those of its reply. -/
def Statement.work : Statement → Nat
  | .handle m => if m.body.reply.isSome then 3 else 1
  | .processSessionInitStart .. => 18
  | .makeSessionReady .. => 5
  | .sendSessionInitReply .. => 10
  | _ => 1

/-- The steps of the statements together. -/
def workOf (statements : List Statement) : Nat :=
  (statements.map Statement.work).sum

/-- The steps that a message causes: it is taken, and its statements are run. -/
def Message.work (m : Message) : Nat :=
  1 + workOf m.statements

/-- The steps that the messages cause together. -/
def inboxWork (messages : List Message) : Nat :=
  (messages.map Message.work).sum

theorem workOf_append (l l' : List Statement) :
    workOf (l ++ l') = workOf l + workOf l' := by
  simp [workOf]

theorem workOf_cons (st : Statement) (l : List Statement) :
    workOf (st :: l) = st.work + workOf l := by
  simp [workOf]

theorem inboxWork_append (l l' : List Message) :
    inboxWork (l ++ l') = inboxWork l + inboxWork l' := by
  simp [inboxWork]

theorem inboxWork_cons (m : Message) (l : List Message) :
    inboxWork (m :: l) = m.work + inboxWork l := by
  simp [inboxWork]

/-- A reply is handled without a reply. -/
theorem Body.reply_reply
    {b b' : Body}
    (h : b.reply = some b') :
    b'.reply = none ∧ b'.Plain := by
  cases b with
  | sessionCloseStart replyExpected =>
      cases h
      exact ⟨rfl, rfl⟩
  | heartbeatStart =>
      cases h
      exact ⟨rfl, rfl⟩
  | stream replyExpected data =>
      cases replyExpected with
      | true =>
          cases h
          exact ⟨rfl, rfl⟩
      | false => cases h
  | singleBlock =>
      cases h
      exact ⟨rfl, rfl⟩
  | _ => cases h

/-- A message that is handled in one step pays for its reply. -/
theorem work_handle
    (m : Message)
    (e : SessionEndpoint) :
    1 + inboxWork (m.replies e) ≤ (Statement.handle m).work := by
  cases hreply : m.body.reply with
  | none =>
      simp [Message.replies, Statement.work, hreply, inboxWork]
  | some b =>
      obtain ⟨hnone, hplain⟩ := Body.reply_reply hreply
      have hstatements : (Message.mk e.sessionId m.messageId b).statements =
          [.handle ⟨e.sessionId, m.messageId, b⟩] := statements_of_plain hplain
      simp [Message.replies, hreply, inboxWork, Message.work, workOf, hstatements, Statement.work,
        hnone]

/-- A statement of the handshake pays for those it goes on with, and for the init reply. -/
theorem work_statement
    {st : Statement}
    (hother : ∀ m, st ≠ .handle m)
    (e : SessionEndpoint) :
    1 + workOf (st.after e).2 + inboxWork st.sends ≤ st.work := by
  cases st with
  | handle m => exact absurd rfl (hother m)
  | processSessionInitStart clientSessionId messageId sessionIdentifier =>
      exact Nat.le_refl 18
  | makeSessionReady sessionId sessionIdentifier =>
      by_cases hfirst : e.state = .sessionNotReady
      · simp only [Statement.after, hfirst, if_true]
        exact Nat.le_refl 5
      · simp only [Statement.after, hfirst, if_false]
        exact (by decide : 2 ≤ 5)
  | sendSessionInitReply initialSessionId messageId completeSessionId sessionIdentifier =>
      exact Nat.le_refl 10
  | _ => exact Nat.le_refl 1

namespace Connection

variable {σ : Type}

/-- The steps that a side has to take for what is on its way to it. -/
def sideWork (st : Connection σ) (x : Side) : Nat :=
  workOf (st.party x).statements + inboxWork (st.incoming x)

/-- The steps that the receive threads of both sides have to take. -/
def work (st : Connection σ) : Nat :=
  st.sideWork .client + st.sideWork .server

/-- The steps caused by everything that was sent by other threads than the receive
threads. -/
def asked (st : Connection σ) : Nat :=
  inboxWork ((st.log.filter (fun e => e.answered.isNone)).map Sent.message)

theorem work_eq (st : Connection σ) (x : Side) :
    st.work = st.sideWork x + st.sideWork x.other := by
  cases x with
  | client => rfl
  | server => exact Nat.add_comm _ _

theorem work_take
    {st : Connection σ}
    {x : Side}
    {m : Message}
    {rest : List Message}
    (hidle : (st.party x).statements = [])
    (hincoming : st.incoming x = m :: rest) :
    1 + (st.take x m rest).work = st.work := by
  have hother : (st.take x m rest).sideWork x.other = st.sideWork x.other := by
    simp [sideWork, take]
  have hown : 1 + (st.take x m rest).sideWork x = st.sideWork x := by
    simp only [sideWork, take, if_true, hidle, hincoming, inboxWork_cons, Message.work]
    change _ = 0 + _
    omega
  rw [work_eq _ x, work_eq st x, hother]
  omega

theorem work_drop
    {st : Connection σ}
    {x : Side}
    {m : Message}
    {rest : List Message}
    (hincoming : st.incoming x = m :: rest) :
    1 + (st.drop x rest).work ≤ st.work := by
  have hother : (st.drop x rest).sideWork x.other = st.sideWork x.other := by
    simp [sideWork, drop]
  have hown : 1 + (st.drop x rest).sideWork x ≤ st.sideWork x := by
    simp only [sideWork, drop, if_true, hincoming, inboxWork_cons, Message.work]
    omega
  rw [work_eq _ x, work_eq st x, hother]
  omega

variable [HasState σ] (st : Connection σ) (x : Side) (answered : Option Message) (core : σ)
  (statements : List Statement) (ending : Nat) (sent : List Message)

/-- The statements that are run are replaced, and what is sent is on its way. -/
theorem work_perform :
    (st.perform x answered core statements ending sent).work + workOf (st.party x).statements =
      st.work + workOf statements + inboxWork sent := by
  rw [work_eq _ x, work_eq st x]
  simp only [sideWork, perform_party_same, perform_incoming_same,
    perform_party_other (Side.other_ne x), perform_incoming_other (Side.other_ne x),
    inboxWork_append]
  omega

/-- What a handler sends is not asked for. -/
theorem asked_perform :
    (st.perform x answered core statements ending sent).asked =
      st.asked + if answered.isNone then inboxWork sent else 0 := by
  rw [asked, perform_log, List.filter_append, List.map_append, inboxWork_append, asked]
  cases answered with
  | none =>
      simp [List.filter_map, Function.comp_def]
  | some m =>
      simp [List.filter_map, Function.comp_def, inboxWork]

end Connection

/-! ## Steps -/

/-- The action is a step of a receive thread. -/
def Action.ofReceiver : Action → Bool
  | .receive _ | .statement _ => true
  | _ => false

/-- Messages that are sent over an open socket only. -/
theorem inboxWork_ite_le
    (c : Prop)
    [Decidable c]
    (sent : List Message) :
    inboxWork (if c then sent else []) ≤ inboxWork sent := by
  split
  · exact Nat.le_refl _
  · exact Nat.zero_le _

namespace Dialogue.Step

variable {cfg : Config} {sessionIdentifier : Bytes} {d d' : Dialogue} {a : Action}

/-- What the other threads send is asked for, and grows by as much as the work. -/
theorem pays_send
    {x : Side}
    {core : SessionEndpoint}
    {ending : Nat}
    {sent : List Message} :
    (d.perform x none core (d.party x).statements ending sent).work + d.asked =
      d.work + (d.perform x none core (d.party x).statements ending sent).asked := by
  have hwork := d.work_perform x none core (d.party x).statements ending sent
  rw [Connection.asked_perform]
  simp only [Option.isNone_none, if_true]
  omega

/-- A statement is paid for by its own work. -/
theorem pays_run
    {x : Side}
    {st : Statement}
    {rest : List Statement}
    (next : List Statement)
    {core : SessionEndpoint}
    {sent : List Message}
    (hstatements : (d.party x).statements = st :: rest)
    (hpaid : 1 + workOf next + inboxWork sent ≤ st.work) :
    1 + (d.perform x (d.party x).handling core (next ++ rest) (d.party x).ending sent).work ≤
      d.work := by
  have hwork := d.work_perform x (d.party x).handling core (next ++ rest) (d.party x).ending sent
  rw [hstatements, workOf_cons, workOf_append] at hwork
  omega

/-- What is asked for never falls. -/
theorem asked_le (h : Step cfg sessionIdentifier d a d') : d.asked ≤ d'.asked := by
  cases h with
  | take | drop => exact Nat.le_refl _
  | _ =>
      rw [Connection.asked_perform]
      exact Nat.le_add_right _ _

/-- A step of a receive thread takes one of the steps that are left. -/
theorem work_lt
    (h : Step cfg sessionIdentifier d a d')
    (hreceiver : a.ofReceiver = true) :
    1 + d'.work ≤ d.work := by
  cases h with
  | take hidle hincoming => exact Nat.le_of_eq (Connection.work_take hidle hincoming)
  | drop hidle hincoming => exact Connection.work_drop hincoming
  | @handle x m rest hstatements hplain =>
      refine pays_run [] hstatements ?_
      have hle := inboxWork_ite_le ((d.endpoint x).isOpen = true) (m.replies (d.endpoint x))
      have hpaid := work_handle m (d.endpoint x)
      change 1 + 0 + _ ≤ _
      omega
  | @statement x st rest hstatements hother =>
      refine pays_run _ hstatements ?_
      have hle := inboxWork_ite_le ((d.endpoint x).isOpen = true) st.sends
      have hpaid := work_statement hother (d.endpoint x)
      omega
  | _ => cases hreceiver

/-- A step of another thread adds the work of what it sends. -/
theorem work_of_other
    (h : Step cfg sessionIdentifier d a d')
    (hother : a.ofReceiver = false) :
    d'.work + d.asked = d.work + d'.asked := by
  cases h with
  | take | drop | handle | statement => cases hother
  | _ => exact pays_send

end Dialogue.Step

/-! ## Runs -/

namespace Connection

/-- No receive thread has anything to do. -/
def Quiet {σ : Type} (st : Connection σ) : Prop :=
  ∀ x, (st.party x).statements = [] ∧ st.incoming x = []

/-- Where no receive thread can take a step, nothing is on its way. -/
theorem quiet_of_none
    {cfg : Config}
    {sessionIdentifier : Bytes}
    {st : Connection Peer}
    (h : ∀ a : Action, a.ofReceiver = true → (connection cfg sessionIdentifier).step st a = none) :
    st.Quiet := by
  intro x
  have hstatement := h (.statement x) rfl
  have hreceive := h (.receive x) rfl
  simp only [connection, step] at hstatement hreceive
  cases hstatements : (st.party x).statements with
  | cons statement rest =>
      rw [hstatements] at hstatement
      cases hstatement
  | nil =>
      refine ⟨rfl, ?_⟩
      cases hincoming : st.incoming x with
      | nil =>
          rfl
      | cons m rest =>
          rw [hstatements, hincoming] at hreceive
          simp only at hreceive
          split at hreceive
          · cases hreceive
          · cases hreceive

end Connection

section Runs

variable {cfg : Config} {sessionIdentifier : Bytes} (hlen : sessionIdentifier.length ≤ 64000)

include hlen

/-- What the other threads send pays for the steps of the receive threads. -/
theorem pays_connection :
    (connection cfg sessionIdentifier).Pays Connection.Sound (fun _ _ => True)
      (fun _ a => if a.ofReceiver = true then 1 else 0)
      ((connection cfg sessionIdentifier).gained Connection.asked) Connection.work := by
  constructor
  · exact fun hsound _ hstep => (Connection.dialogue_step hsound hlen hstep).2
  · intro st a st' hsound _ hstep
    have hdialogue := (Connection.dialogue_step hsound hlen hstep).1
    have hle : st.asked ≤ st'.asked := hdialogue.asked_le
    rw [TransitionSystem.gained_of_step hstep]
    cases hreceiver : a.ofReceiver with
    | true =>
        have hlt : 1 + st'.work ≤ st.work := hdialogue.work_lt hreceiver
        simp only [if_true]
        omega
    | false =>
        have heq : st'.work + st.asked = st.work + st'.asked := hdialogue.work_of_other hreceiver
        simp only [Bool.false_eq_true, if_false]
        omega

/-- The steps of the receive threads alone only take work away. -/
theorem pays_receivers :
    (connection cfg sessionIdentifier).Pays Connection.Sound (fun _ a => a.ofReceiver = true)
      (fun _ _ => 1) (fun _ _ => 0) Connection.work := by
  constructor
  · exact fun hsound _ hstep => (Connection.dialogue_step hsound hlen hstep).2
  · intro st a st' hsound hreceiver hstep
    exact (Connection.dialogue_step hsound hlen hstep).1.work_lt hreceiver

/-- In every run the receive threads take at most the steps that what is on its way causes,
and what the other threads send meanwhile.  If no other thread sends, they take at most the
steps that are left, in whatever order, and they can go on until the connection rests.  The
callbacks are taken as set and as returning, and what the application calls inside of them
counts as a call of another thread. -/
theorem settles
    {st : Connection Peer}
    (h : (connection cfg sessionIdentifier).Reachable st) :
    (∀ as st', (connection cfg sessionIdentifier).exec st as = some st' →
      as.countP Action.ofReceiver + st'.work + st.asked ≤ st.work + st'.asked) ∧
    (∀ as st', (connection cfg sessionIdentifier).exec st as = some st' →
      (∀ a ∈ as, a.ofReceiver = true) → as.length + st'.work ≤ st.work) ∧
    ∃ as st', (connection cfg sessionIdentifier).exec st as = some st' ∧
      (∀ a ∈ as, a.ofReceiver = true) ∧ st'.Quiet := by
  have hsound := sound_of_reaches hlen h
  refine ⟨?_, ?_, ?_⟩
  · intro as st' hexec
    have hle := (pays_connection hlen).total_le hsound
      (TransitionSystem.execAllowed_of_forall (fun _ _ _ => trivial) st) hexec
    have hgained := TransitionSystem.total_gained Connection.asked Connection.Sound
      (fun hsound hstep => ⟨(Connection.dialogue_step hsound hlen hstep).2,
        (Connection.dialogue_step hsound hlen hstep).1.asked_le⟩) hsound hexec
    rw [TransitionSystem.total_countP hexec] at hle
    omega
  · intro as st' hexec hreceivers
    have hle := (pays_receivers hlen).total_le hsound
      (TransitionSystem.execAllowed_of_forall (fun a ha _ => hreceivers a ha) st) hexec
    rw [TransitionSystem.total_one hexec, TransitionSystem.total_zero] at hle
    omega
  · obtain ⟨as, st', hallowed, hexec, _, hend⟩ := (pays_receivers hlen).exists_exhausted hsound
    exact ⟨as, st', hexec, TransitionSystem.forall_of_execAllowed hallowed hexec,
      Connection.quiet_of_none hend⟩

end Runs

/-- The init start message alone is on its way, and the handshake comes to rest. -/
theorem settles_started :
    ∃ st, (connection Config.default [7]).exec freshConnection [.start] = some st ∧
      st.work = 19 ∧ st.asked = 19 ∧
      (∀ as st', (connection Config.default [7]).exec st as = some st' →
        as.countP Action.ofReceiver + st'.work + st.asked ≤ st.work + st'.asked) ∧
      (∀ as st', (connection Config.default [7]).exec st as = some st' →
        (∀ a ∈ as, a.ofReceiver = true) → as.length + st'.work ≤ st.work) ∧
      ∃ as st', (connection Config.default [7]).exec st as = some st' ∧
        (∀ a ∈ as, a.ofReceiver = true) ∧ st'.Quiet := by
  have hexec : ∃ st, (connection Config.default [7]).exec freshConnection [.start] = some st ∧
      st.work = 19 ∧ st.asked = 19 := ⟨_, rfl, rfl, rfl⟩
  obtain ⟨st, hst, hwork, hasked⟩ := hexec
  exact ⟨st, hst, hwork, hasked, settles (by decide) (.of_exec init_freshConnection hst)⟩

end SakuraNetwork

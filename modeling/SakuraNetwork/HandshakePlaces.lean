import SakuraNetwork.Dialogue

/-!
# The places of the handshake

The handshake passes from one side to the other: the init start message, the handler of
the server, the init reply message, the handler of the client.  At every moment it is at
one of these places, and what both sides know depends on the place.

* `Progress`, `Handshake`: the places, and the invariant.
* `Handshake.quiet`: a step in which the session of a side is at most closed, and whose
  messages are not of the handshake, does not move it.
-/

namespace SakuraNetwork

open Lib

/-- Where the handshake is. -/
inductive Progress where
  | idle
  /-- The init start message is on its way. -/
  | called
  /-- The handler of the server has these statements to run. -/
  | answering (rest : List Statement)
  /-- The init reply message is on its way. -/
  | answered
  /-- The socket of the server was closed before the init reply message. -/
  | unanswered
  /-- The handler of the client has these statements to run. -/
  | accepting (rest : List Statement)
  | accepted

/-- The ids of a handshake: the one the client draws, the id of its init start message,
and the one the server makes of it. -/
structure HandshakeIds where
  clientId : UInt32
  messageId : UInt32
  fullId : UInt32

namespace HandshakeIds

variable (k : HandshakeIds) (sessionIdentifier : Bytes)

/-- The init start message. -/
def initStart : Message :=
  ⟨k.clientId, k.messageId, .sessionInitStart k.clientId sessionIdentifier⟩

/-- The init reply message. -/
def initReply : Message :=
  ⟨k.clientId, k.messageId, .sessionInitReply k.clientId k.fullId sessionIdentifier⟩

/-- The last statement of the server. -/
def lastStatement : Statement :=
  .sendSessionInitReply k.clientId k.messageId k.fullId sessionIdentifier

end HandshakeIds

/-- The session was made ready; it may have been closed since. -/
def SessionEndpoint.Started (e : SessionEndpoint) : Prop :=
  e.state = .sessionReady ∨ e.state = .notConnected

section Places

variable (k : HandshakeIds) (sessionIdentifier : Bytes)

/-- The server holds the final id and identifier. -/
structure Settled (e : SessionEndpoint) : Prop where
  sessionId : e.sessionId = k.fullId
  sessionIdentifier : e.sessionIdentifier = sessionIdentifier

/-- The final id is made of the ids both processes have drawn. -/
def Made (e : SessionEndpoint) : Prop :=
  k.fullId = completeSessionId k.clientId e.sessionIdCounter

/-- The handler of the server: what it has to run, and what the session is by then. -/
inductive Answering : List Statement → SessionEndpoint → Bool → Prop
  | draw {e : SessionEndpoint} {w : Bool}
      (hstate : e.state = .notConnected)
      (hopen : e.isOpen = true) :
      Answering [.processSessionInitStart k.clientId k.messageId sessionIdentifier] e w
  | register {e : SessionEndpoint} {w : Bool}
      (hstate : e.state = .notConnected)
      (hopen : e.isOpen = true)
      (hmade : Made k e) :
      Answering [.addSession k.fullId, .connectiSession k.fullId,
        .makeSessionReady k.fullId sessionIdentifier, k.lastStatement sessionIdentifier] e w
  | connect {e : SessionEndpoint} {w : Bool}
      (hstate : e.state = .notConnected)
      (hopen : e.isOpen = true)
      (hmade : Made k e) :
      Answering [.connectiSession k.fullId, .makeSessionReady k.fullId sessionIdentifier,
        k.lastStatement sessionIdentifier] e w
  | ready {e : SessionEndpoint} {w : Bool}
      (hstate : e.state = .sessionNotReady)
      (hid : e.sessionId = k.fullId)
      (hmade : Made k e) :
      Answering [.makeSessionReady k.fullId sessionIdentifier, k.lastStatement sessionIdentifier]
        e w
  | assignId {e : SessionEndpoint}
      (hstate : e.Started)
      (hid : e.sessionId = k.fullId)
      (hmade : Made k e) :
      Answering [.assignSessionId k.fullId, .assignSessionIdentifier sessionIdentifier,
        .processCreateSession k.fullId sessionIdentifier, .assignInitState 1,
        k.lastStatement sessionIdentifier] e true
  | assignIdentifier {e : SessionEndpoint}
      (hstate : e.Started)
      (hid : e.sessionId = k.fullId)
      (hmade : Made k e) :
      Answering [.assignSessionIdentifier sessionIdentifier,
        .processCreateSession k.fullId sessionIdentifier, .assignInitState 1,
        k.lastStatement sessionIdentifier] e true
  | create {e : SessionEndpoint}
      (hstate : e.Started)
      (hsettled : Settled k sessionIdentifier e)
      (hmade : Made k e) :
      Answering [.processCreateSession k.fullId sessionIdentifier, .assignInitState 1,
        k.lastStatement sessionIdentifier] e true
  | release {e : SessionEndpoint}
      (hstate : e.Started)
      (hsettled : Settled k sessionIdentifier e)
      (hmade : Made k e) :
      Answering [.assignInitState 1, k.lastStatement sessionIdentifier] e true
  | reply {e : SessionEndpoint}
      (hstate : e.Started)
      (hsettled : Settled k sessionIdentifier e)
      (hmade : Made k e) :
      Answering [k.lastStatement sessionIdentifier] e true

/-- The handler of the client: what it has to run, and what the session is by then. -/
inductive Accepting : List Statement → SessionEndpoint → Prop
  | removeMessage {e : SessionEndpoint}
      (hstate : e.state = .sessionNotReady) :
      Accepting [.removeMessage k.clientId k.messageId, .removeSession k.clientId,
        .addSession k.fullId, .makeSessionReady k.fullId sessionIdentifier] e
  | removeSession {e : SessionEndpoint}
      (hstate : e.state = .sessionNotReady) :
      Accepting [.removeSession k.clientId, .addSession k.fullId,
        .makeSessionReady k.fullId sessionIdentifier] e
  | register {e : SessionEndpoint}
      (hstate : e.state = .sessionNotReady) :
      Accepting [.addSession k.fullId, .makeSessionReady k.fullId sessionIdentifier] e
  | ready {e : SessionEndpoint}
      (hstate : e.state = .sessionNotReady) :
      Accepting [.makeSessionReady k.fullId sessionIdentifier] e
  | assignId {e : SessionEndpoint}
      (hstate : e.Started) :
      Accepting [.assignSessionId k.fullId, .assignSessionIdentifier sessionIdentifier,
        .processCreateSession k.fullId sessionIdentifier, .assignInitState 1] e
  | assignIdentifier {e : SessionEndpoint}
      (hstate : e.Started)
      (hid : e.sessionId = k.fullId) :
      Accepting [.assignSessionIdentifier sessionIdentifier,
        .processCreateSession k.fullId sessionIdentifier, .assignInitState 1] e
  | create {e : SessionEndpoint}
      (hstate : e.Started)
      (hsettled : Settled k sessionIdentifier e) :
      Accepting [.processCreateSession k.fullId sessionIdentifier, .assignInitState 1] e
  | release {e : SessionEndpoint}
      (hstate : e.Started)
      (hsettled : Settled k sessionIdentifier e) :
      Accepting [.assignInitState 1] e

namespace Progress

/-- The statements of the handshake a receive thread has to run. -/
def running : Progress → Side → Option (List Statement)
  | answering rest, .server => some rest
  | accepting rest, .client => some rest
  | _, _ => none

/-- The client has yet to get the init reply message. -/
def early : Progress → Bool
  | accepting _ | accepted => false
  | _ => true

/-- The init reply message was sent. -/
def replied : Progress → Bool
  | answered | accepting _ | accepted => true
  | _ => false

/-- The messages of the handshake on their way to a side. -/
def opening : Progress → Side → List Message
  | called, .server => [k.initStart sessionIdentifier]
  | answered, .client => [k.initReply sessionIdentifier]
  | _, _ => []

/-- The messages of the handshake that were sent. -/
def opened : Progress → List Sent
  | idle => []
  | called | answering _ | unanswered => [⟨.client, none, k.initStart sessionIdentifier⟩]
  | answered | accepting _ | accepted =>
      [⟨.client, none, k.initStart sessionIdentifier⟩,
        ⟨.server, some (k.initStart sessionIdentifier), k.initReply sessionIdentifier⟩]

/-- The session of the client. -/
def ClientAt (e : SessionEndpoint) : Progress → Prop
  | idle => e.state = .notConnected
  | called | answering _ | answered | unanswered =>
      e.state = .sessionNotReady ∧ e.sessionId = k.clientId ∧
        k.clientId = e.sessionIdCounter.toUInt32
  | accepting rest =>
      Accepting k sessionIdentifier rest e ∧ k.clientId = e.sessionIdCounter.toUInt32
  | accepted =>
      e.Started ∧ Settled k sessionIdentifier e ∧
        k.clientId = e.sessionIdCounter.toUInt32

/-- The session of the server. -/
def ServerAt (e : SessionEndpoint) (wasReady : Bool) : Progress → Prop
  | idle | called => e.state = .notConnected ∧ e.isOpen = true
  | answering rest => Answering k sessionIdentifier rest e wasReady
  | unanswered =>
      wasReady = true ∧ e.state = .notConnected ∧ Settled k sessionIdentifier e ∧ Made k e
  | _ =>
      wasReady = true ∧ e.Started ∧ Settled k sessionIdentifier e ∧ Made k e

end Progress

end Places

/-- The server remembers that it has been ready. -/
theorem Progress.serverAt_wasReady
    {k : HandshakeIds}
    {sessionIdentifier : Bytes}
    {b : Progress}
    {e : SessionEndpoint}
    {w : Bool}
    (h : b.ServerAt k sessionIdentifier e w)
    (c : Bool) :
    b.ServerAt k sessionIdentifier e (w || c) := by
  have hkeeps : w = true → (w || c) = true := fun hw => by rw [hw, Bool.true_or]
  cases b with
  | idle => exact h
  | called => exact h
  | answering rest =>
      cases h with
      | draw hstate hopen => exact .draw hstate hopen
      | register hstate hopen hmade => exact .register hstate hopen hmade
      | connect hstate hopen hmade => exact .connect hstate hopen hmade
      | ready hstate hid hmade => exact .ready hstate hid hmade
      | assignId hstate hid hmade => exact .assignId hstate hid hmade
      | assignIdentifier hstate hid hmade => exact .assignIdentifier hstate hid hmade
      | create hstate hsettled hmade => exact .create hstate hsettled hmade
      | release hstate hsettled hmade => exact .release hstate hsettled hmade
      | reply hstate hsettled hmade => exact .reply hstate hsettled hmade
  | _ => exact ⟨hkeeps h.1, h.2⟩

/-- A receive thread that is not in the handshake handles at most one message. -/
def Spare (statements : List Statement) : Prop :=
  statements = [] ∨ ∃ m, statements = [.handle m] ∧ m.body.Plain

/-- The invariant of the handshake. -/
structure Handshake
    (sessionIdentifier : Bytes)
    (k : HandshakeIds)
    (b : Progress)
    (d : Dialogue) : Prop where
  opening : ∀ x, (d.pending x).filter (fun m => m.body.opensSession) =
    b.opening k sessionIdentifier x
  running : ∀ x rest, b.running x = some rest → (d.party x).statements = rest
  spare : ∀ x, b.running x = none → Spare (d.party x).statements
  opened : d.log.filter (fun e => e.message.body.opensSession) = b.opened k sessionIdentifier
  handling : ∀ rest, b = .answering rest →
    (d.party .server).handling = some (k.initStart sessionIdentifier)
  client : b.ClientAt k sessionIdentifier (d.endpoint .client)
  server : b.ServerAt k sessionIdentifier (d.endpoint .server) (d.party .server).wasReady
  isOpen : ∀ x, (d.endpoint x).state ≠ .notConnected → (d.endpoint x).isOpen = true
  replies : b.early = true → ∀ m ∈ d.pending .server,
    m.body.opensSession = true ∨ m.isReply = true
  closeReply : b.early = true → ∀ m ∈ d.pending .client, m.body ≠ .sessionCloseReply

/-! ## Steps that do not move the handshake -/

/-- A session at most goes from ready to closed. -/
structure SessionEndpoint.Quiet (e e' : SessionEndpoint) : Prop where
  sessionId : e'.sessionId = e.sessionId
  sessionIdentifier : e'.sessionIdentifier = e.sessionIdentifier
  sessionIdCounter : e'.sessionIdCounter = e.sessionIdCounter
  state : e'.state = e.state ∧ e'.isOpen = e.isOpen ∨
    e.state = .sessionReady ∧ e'.state = .notConnected

namespace SessionEndpoint

theorem Quiet.refl (e : SessionEndpoint) : e.Quiet e :=
  ⟨rfl, rfl, rfl, Or.inl ⟨rfl, rfl⟩⟩

theorem quiet_stop (e : SessionEndpoint) : e.Quiet e.stop := by
  refine ⟨e.stop_sessionId, e.stop_sessionIdentifier, e.stop_sessionIdCounter, ?_⟩
  unfold stop
  split
  · rename_i hready
    exact Or.inr ⟨hready, e.disconnect_state⟩
  · exact Or.inl ⟨rfl, rfl⟩

theorem quiet_disconnect
    {e : SessionEndpoint}
    (h : e.Started) :
    e.Quiet e.disconnect := by
  refine ⟨e.disconnect_sessionId, e.disconnect_sessionIdentifier,
    e.disconnect_sessionIdCounter, ?_⟩
  rcases h with hready | hclosed
  · exact Or.inr ⟨hready, e.disconnect_state⟩
  · exact Or.inl (by simp [disconnect, hclosed])

namespace Quiet

variable {e e' : SessionEndpoint} {k : HandshakeIds} {sessionIdentifier : Bytes}

theorem state_eq
    (h : e.Quiet e')
    {s : SessionState}
    (hstate : e.state = s)
    (hs : s ≠ .sessionReady) :
    e'.state = s := by
  rcases h.state with ⟨hsame, _⟩ | ⟨hready, _⟩
  · exact hsame.trans hstate
  · exact absurd (hstate.symm.trans hready) hs

theorem started
    (h : e.Quiet e')
    (hstarted : e.Started) :
    e'.Started := by
  rcases h.state with ⟨hsame, _⟩ | ⟨_, hclosed⟩
  · rw [Started, hsame]
    exact hstarted
  · exact Or.inr hclosed

theorem isOpen_eq
    (h : e.Quiet e')
    (hstate : e.state ≠ .sessionReady) :
    e'.isOpen = e.isOpen := by
  rcases h.state with ⟨_, hsame⟩ | ⟨hready, _⟩
  · exact hsame
  · exact absurd hready hstate

theorem settled
    (h : e.Quiet e')
    (hsettled : Settled k sessionIdentifier e) :
    Settled k sessionIdentifier e' :=
  ⟨h.sessionId.trans hsettled.sessionId, h.sessionIdentifier.trans hsettled.sessionIdentifier⟩

theorem made
    (h : e.Quiet e')
    (hmade : Made k e) :
    Made k e' := by
  rw [Made, h.sessionIdCounter]
  exact hmade

theorem answering
    {rest : List Statement}
    {w : Bool}
    (h : e.Quiet e')
    (hat : Answering k sessionIdentifier rest e w) :
    Answering k sessionIdentifier rest e' w := by
  have hsame : e.state = .notConnected → e'.isOpen = e.isOpen := fun hstate =>
    h.isOpen_eq (by rw [hstate]; exact SessionState.noConfusion)
  cases hat with
  | draw hstate hopen =>
      exact .draw (h.state_eq hstate SessionState.noConfusion) ((hsame hstate).trans hopen)
  | register hstate hopen hmade =>
      exact .register (h.state_eq hstate SessionState.noConfusion) ((hsame hstate).trans hopen)
        (h.made hmade)
  | connect hstate hopen hmade =>
      exact .connect (h.state_eq hstate SessionState.noConfusion) ((hsame hstate).trans hopen)
        (h.made hmade)
  | ready hstate hid hmade =>
      exact .ready (h.state_eq hstate SessionState.noConfusion) (h.sessionId.trans hid)
        (h.made hmade)
  | assignId hstate hid hmade =>
      exact .assignId (h.started hstate) (h.sessionId.trans hid) (h.made hmade)
  | assignIdentifier hstate hid hmade =>
      exact .assignIdentifier (h.started hstate) (h.sessionId.trans hid) (h.made hmade)
  | create hstate hsettled hmade =>
      exact .create (h.started hstate) (h.settled hsettled) (h.made hmade)
  | release hstate hsettled hmade =>
      exact .release (h.started hstate) (h.settled hsettled) (h.made hmade)
  | reply hstate hsettled hmade =>
      exact .reply (h.started hstate) (h.settled hsettled) (h.made hmade)

theorem accepting
    {rest : List Statement}
    (h : e.Quiet e')
    (hat : Accepting k sessionIdentifier rest e) :
    Accepting k sessionIdentifier rest e' := by
  cases hat with
  | removeMessage hstate => exact .removeMessage (h.state_eq hstate SessionState.noConfusion)
  | removeSession hstate => exact .removeSession (h.state_eq hstate SessionState.noConfusion)
  | register hstate => exact .register (h.state_eq hstate SessionState.noConfusion)
  | ready hstate => exact .ready (h.state_eq hstate SessionState.noConfusion)
  | assignId hstate => exact .assignId (h.started hstate)
  | assignIdentifier hstate hid =>
      exact .assignIdentifier (h.started hstate) (h.sessionId.trans hid)
  | create hstate hsettled => exact .create (h.started hstate) (h.settled hsettled)
  | release hstate hsettled => exact .release (h.started hstate) (h.settled hsettled)

theorem clientAt
    {b : Progress}
    (h : e.Quiet e')
    (hat : b.ClientAt k sessionIdentifier e) :
    b.ClientAt k sessionIdentifier e' := by
  have hcounter : e'.sessionIdCounter.toUInt32 = e.sessionIdCounter.toUInt32 := by
    rw [h.sessionIdCounter]
  cases b with
  | idle => exact h.state_eq hat SessionState.noConfusion
  | accepting rest => exact ⟨h.accepting hat.1, hat.2.trans hcounter.symm⟩
  | accepted =>
      exact ⟨h.started hat.1, h.settled hat.2.1, hat.2.2.trans hcounter.symm⟩
  | _ =>
      exact ⟨h.state_eq hat.1 SessionState.noConfusion, h.sessionId.trans hat.2.1,
        hat.2.2.trans hcounter.symm⟩

theorem serverAt
    {b : Progress}
    {w : Bool}
    (h : e.Quiet e')
    (hat : b.ServerAt k sessionIdentifier e w) :
    b.ServerAt k sessionIdentifier e' w := by
  have hkeeps : e.state = .notConnected ∧ e.isOpen = true →
      e'.state = .notConnected ∧ e'.isOpen = true := by
    rintro ⟨hstate, hopen⟩
    exact ⟨h.state_eq hstate SessionState.noConfusion,
      (h.isOpen_eq (by rw [hstate]; exact SessionState.noConfusion)).trans hopen⟩
  cases b with
  | idle => exact hkeeps hat
  | called => exact hkeeps hat
  | answering rest => exact h.answering hat
  | unanswered =>
      exact ⟨hat.1, h.state_eq hat.2.1 SessionState.noConfusion, h.settled hat.2.2.1,
        h.made hat.2.2.2⟩
  | _ => exact ⟨hat.1, h.started hat.2.1, h.settled hat.2.2.1, h.made hat.2.2.2⟩

end Quiet

end SessionEndpoint

/-- The messages of plain bodies are not of the handshake. -/
theorem filter_plain
    {l : List Message}
    (h : ∀ m ∈ l, m.body.Plain) :
    l.filter (fun m => m.body.opensSession) = [] := by
  refine List.filter_eq_nil_iff.mpr fun m hm => ?_
  rw [h m hm]
  exact Bool.false_ne_true

/-- What is sent for a message: a reply, and not of the handshake. -/
theorem Message.mem_replies
    {m m' : Message}
    {e : SessionEndpoint}
    (h : m' ∈ m.replies e) :
    m'.body.Plain ∧ m'.isReply = true ∧ m'.sessionId = e.sessionId ∧
      m'.messageId = m.messageId := by
  obtain ⟨body, hbody, rfl⟩ := List.mem_map.mp h
  have hreply := Option.mem_toList.mp hbody
  have hbodies : body.Plain ∧ (body.flags &&& 0x2 != 0) = true := by
    cases hm : m.body with
    | sessionCloseStart replyExpected =>
        rw [hm] at hreply
        cases hreply
        exact ⟨rfl, by decide⟩
    | heartbeatStart =>
        rw [hm] at hreply
        cases hreply
        exact ⟨rfl, by decide⟩
    | stream replyExpected data =>
        rw [hm] at hreply
        cases replyExpected with
        | true =>
            cases hreply
            exact ⟨rfl, by decide⟩
        | false => cases hreply
    | singleBlock multiblockId blockerId data =>
        rw [hm] at hreply
        cases hreply
        exact ⟨rfl, by decide⟩
    | _ =>
        rw [hm] at hreply
        cases hreply
  exact ⟨hbodies.1, hbodies.2, rfl, rfl⟩

/-- A reply is not replied to. -/
theorem Message.replies_of_isReply
    {m : Message}
    (h : m.isReply = true)
    (e : SessionEndpoint) :
    m.replies e = [] := by
  rw [Message.replies, Body.reply_of_unanswered (answered_of_isReply h)]
  rfl

/-- The statements of a spare thread: at most a message that is not of the handshake. -/
theorem Spare.filter_message
    {statements : List Statement}
    (h : Spare statements) :
    (statements.filterMap Statement.message).filter (fun m => m.body.opensSession) = [] := by
  rcases h with rfl | ⟨m, rfl, hplain⟩
  · rfl
  · exact filter_plain fun m' hm => by
      rw [show m' = m by simpa [Statement.message] using hm]
      exact hplain

namespace Handshake

variable {sessionIdentifier : Bytes} {k : HandshakeIds} {b : Progress} {d : Dialogue}

/-- A side whose session at most goes from ready to closed, and whose receive thread at
most ends a message, sends messages that are not of the handshake. -/
theorem quiet
    (h : Handshake sessionIdentifier k b d)
    {x : Side}
    {answered : Option Message}
    {e' : SessionEndpoint}
    {statements : List Statement}
    {ending : Nat}
    {sent : List Message}
    (hquiet : (d.endpoint x).Quiet e')
    (hstatements : statements = (d.party x).statements ∨
      b.running x = none ∧ statements = [])
    (hplain : ∀ m ∈ sent, m.body.Plain)
    (hreplies : b.early = true → x = .client → ∀ m ∈ sent, m.isReply = true)
    (hcloseReply : b.early = true → x = .server → ∀ m ∈ sent, m.body ≠ .sessionCloseReply) :
    Handshake sessionIdentifier k b (d.perform x answered e' statements ending sent) := by
  have hpending : ∀ m ∈ (d.perform x answered e' statements ending sent).pending x,
      m ∈ d.pending x := by
    intro m hm
    rw [Connection.pending_perform_same] at hm
    rcases hstatements with rfl | ⟨_, rfl⟩
    · exact hm
    · exact List.mem_append_right _ hm
  have hwasReady : ∀ y, (d.party y).wasReady = true →
      ((d.perform x answered e' statements ending sent).party y).wasReady = true :=
    fun y => Connection.wasReady_perform
  constructor
  · intro y
    by_cases hy : y = x
    · subst hy
      rw [← h.opening y, Connection.pending_perform_same, Connection.pending]
      rcases hstatements with rfl | ⟨hnone, rfl⟩
      · rfl
      · rw [List.filter_append, List.filter_append, (h.spare y hnone).filter_message]
        rfl
    · rw [Connection.pending_perform_other hy, List.filter_append, filter_plain hplain,
        List.append_nil]
      exact h.opening y
  · intro y rest hrunning
    by_cases hy : y = x
    · subst hy
      rw [Connection.perform_party_same]
      rcases hstatements with rfl | ⟨hnone, _⟩
      · exact h.running y rest hrunning
      · rw [hnone] at hrunning
        cases hrunning
    · rw [Connection.perform_party_other hy]
      exact h.running y rest hrunning
  · intro y hnone
    by_cases hy : y = x
    · subst hy
      rw [Connection.perform_party_same]
      rcases hstatements with rfl | ⟨_, rfl⟩
      · exact h.spare y hnone
      · exact Or.inl rfl
    · rw [Connection.perform_party_other hy]
      exact h.spare y hnone
  · rw [Connection.perform_log, List.filter_append, h.opened]
    have hnone : (sent.map (fun m => Sent.mk x answered m)).filter
        (fun e => e.message.body.opensSession) = [] := by
      refine List.filter_eq_nil_iff.mpr fun e he => ?_
      obtain ⟨m, hm, rfl⟩ := List.mem_map.mp he
      rw [hplain m hm]
      exact Bool.false_ne_true
    rw [hnone, List.append_nil]
  · intro rest hrest
    by_cases hx : Side.server = x
    · subst hx
      rw [Connection.perform_party_same]
      exact h.handling rest hrest
    · rw [Connection.perform_party_other hx]
      exact h.handling rest hrest
  · by_cases hx : Side.client = x
    · subst hx
      rw [Connection.endpoint, Connection.perform_party_same]
      exact hquiet.clientAt h.client
    · rw [Connection.endpoint, Connection.perform_party_other hx]
      exact h.client
  · by_cases hx : Side.server = x
    · subst hx
      rw [Connection.endpoint, Connection.perform_party_same]
      exact Progress.serverAt_wasReady (hquiet.serverAt h.server) _
    · rw [Connection.endpoint, Connection.perform_party_other hx]
      exact h.server
  · intro y hstate
    by_cases hy : y = x
    · subst hy
      rw [Connection.endpoint, Connection.perform_party_same] at hstate ⊢
      rcases hquiet.state with ⟨hsame, hopen⟩ | ⟨_, hclosed⟩
      · rw [hopen]
        exact h.isOpen y (by rw [← hsame]; exact hstate)
      · exact absurd hclosed hstate
    · rw [Connection.endpoint, Connection.perform_party_other hy] at hstate ⊢
      exact h.isOpen y hstate
  · intro hearly m hm
    by_cases hx : Side.server = x
    · subst hx
      exact h.replies hearly m (hpending m hm)
    · rw [Connection.pending_perform_other hx] at hm
      rcases List.mem_append.mp hm with hm | hm
      · exact h.replies hearly m hm
      · refine Or.inr (hreplies hearly ?_ m hm)
        cases x with
        | client => rfl
        | server => exact absurd rfl hx
  · intro hearly m hm
    by_cases hx : Side.client = x
    · subst hx
      exact h.closeReply hearly m (hpending m hm)
    · rw [Connection.pending_perform_other hx] at hm
      rcases List.mem_append.mp hm with hm | hm
      · exact h.closeReply hearly m hm
      · refine hcloseReply hearly ?_ m hm
        cases x with
        | client => exact absurd rfl hx
        | server => rfl

end Handshake

end SakuraNetwork

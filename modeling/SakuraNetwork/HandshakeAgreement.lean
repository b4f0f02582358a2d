import SakuraNetwork.HandshakeMoves

/-!
# Agreement of the handshake

A client and a server on one connection agree on the id and the identifier of their
session, whatever the other threads do between the statements of the handshake.

* `Connection.Agrees`: what they agree on.
* `handshake_of_reaches`: the invariant of the handshake holds along every run.
* `handshake_agreement`: both sides agree in every reachable state.
-/

namespace SakuraNetwork

open Lib

/-- What both sides agree on. -/
structure Connection.Agrees
    (sessionIdentifier : Bytes)
    (st : Connection Peer) : Prop where
  /-- The server is ready before the client. -/
  serverFirst : (st.session .client).statemachine = .sessionReady →
    (st.party .server).wasReady = true
  /-- The id is made of the counters of both processes. -/
  sessionId : (∀ x, (st.session x).statemachine = .sessionReady) →
    (st.session .server).sessionId =
      completeSessionId (st.party .client).core.process.sessionIdCounter.toUInt32
        (st.party .server).core.process.sessionIdCounter
  sessionIdentifier : (∀ x, (st.session x).statemachine = .sessionReady) →
    (st.session .server).sessionIdentifier = sessionIdentifier
  /-- The client agrees as soon as its receive thread has assigned its members. -/
  sameId : (∀ x, (st.session x).statemachine = .sessionReady) →
    (∀ id, .assignSessionId id ∉ (st.party .client).statements) →
      (st.session .client).sessionId = (st.session .server).sessionId
  sameIdentifier : (∀ x, (st.session x).statemachine = .sessionReady) →
    (∀ identifier, .assignSessionIdentifier identifier ∉ (st.party .client).statements) →
      (st.session .client).sessionIdentifier = (st.session .server).sessionIdentifier
  /-- The init reply message carries the ids of the init start message. -/
  initReply : ∀ e ∈ st.log, e.message.body.opensSession = true → e.sender = .server →
    ∃ m, e.answered = some m ∧ ⟨.client, none, m⟩ ∈ st.log ∧
      e.message.sessionId = m.sessionId ∧ e.message.messageId = m.messageId

namespace Handshake

variable {sessionIdentifier : Bytes} {k : HandshakeIds} {b : Progress} {d : Dialogue}

/-- The handshake of two new sessions has not begun. -/
theorem of_initial
    {st : Connection Peer}
    (h : st.Initial)
    (sessionIdentifier : Bytes)
    (k : HandshakeIds) :
    Handshake sessionIdentifier k .idle st.view := by
  have hpending : ∀ x, st.view.pending x = [] := by
    intro x
    rw [Connection.pending]
    change ((st.party x).statements.filterMap _) ++ st.incoming x = []
    rw [h.statements x, h.incoming x]
    rfl
  have hstate : ∀ x, (st.view.endpoint x).state = .notConnected := by
    intro x
    obtain ⟨socket, c, hsession, _⟩ := h.session x
    change (st.session x).statemachine = .notConnected
    rw [hsession]
    rfl
  constructor
  · intro x
    rw [hpending]
    rfl
  · rintro x rest ⟨⟩
  · exact fun x _ => Or.inl (h.statements x)
  · change st.log.filter _ = []
    rw [h.log]
    rfl
  · rintro rest ⟨⟩
  · exact hstate .client
  · refine ⟨hstate .server, ?_⟩
    obtain ⟨socket, c, hsession, _, _, hopen⟩ := h.session .server
    change (st.session .server).socket.any Socket.isOpen = true
    rw [hsession]
    exact hopen rfl
  · exact fun x hne => absurd (hstate x) hne
  · intro _ m hm
    rw [hpending] at hm
    cases hm
  · intro _ m hm
    rw [hpending] at hm
    cases hm

/-- The server has been ready, and is settled, once the client has got the init reply. -/
theorem server_of_late
    (h : Handshake sessionIdentifier k b d)
    (hlate : b.early = false) :
    (d.party .server).wasReady = true ∧ (d.endpoint .server).Started ∧
      Settled k sessionIdentifier (d.endpoint .server) ∧ Made k (d.endpoint .server) := by
  have hserver := h.server
  cases b with
  | accepting rest => exact hserver
  | accepted => exact hserver
  | _ => cases hlate

/-- A ready client has got the init reply, and drew its part of the id. -/
theorem late_of_ready
    (h : Handshake sessionIdentifier k b d)
    (hready : (d.endpoint .client).state = .sessionReady) :
    b.early = false ∧ k.clientId = (d.endpoint .client).sessionIdCounter.toUInt32 := by
  have hearly : b.early = false := by
    cases hearly : b.early with
    | false => rfl
    | true => exact absurd hready (h.client_not_ready hearly)
  have hclient := h.client
  cases b with
  | accepting rest => exact ⟨rfl, hclient.2⟩
  | accepted => exact ⟨rfl, hclient.2.2⟩
  | _ => cases hearly

/-- A ready client holds the id and the identifier its receive thread has assigned. -/
theorem client_of_ready
    (h : Handshake sessionIdentifier k b d)
    (hready : (d.endpoint .client).state = .sessionReady) :
    ((∀ id, .assignSessionId id ∉ (d.party .client).statements) →
      (d.endpoint .client).sessionId = k.fullId) ∧
    ((∀ identifier, .assignSessionIdentifier identifier ∉ (d.party .client).statements) →
      (d.endpoint .client).sessionIdentifier = sessionIdentifier) := by
  have hlate := (h.late_of_ready hready).1
  have hclient := h.client
  have hnotReady : (d.endpoint .client).state ≠ .sessionNotReady := by
    rw [hready]
    exact SessionState.noConfusion
  cases b with
  | accepting rest =>
      rw [h.running .client rest rfl]
      cases hclient.1 with
      | removeMessage hstate => exact absurd hstate hnotReady
      | removeSession hstate => exact absurd hstate hnotReady
      | register hstate => exact absurd hstate hnotReady
      | ready hstate => exact absurd hstate hnotReady
      | assignId =>
          exact ⟨fun hnone => absurd List.mem_cons_self (hnone _),
            fun hnone => absurd (List.mem_cons_of_mem _ List.mem_cons_self) (hnone _)⟩
      | assignIdentifier hstate hid =>
          exact ⟨fun _ => hid, fun hnone => absurd List.mem_cons_self (hnone _)⟩
      | create hstate hsettled =>
          exact ⟨fun _ => hsettled.sessionId, fun _ => hsettled.sessionIdentifier⟩
      | release hstate hsettled =>
          exact ⟨fun _ => hsettled.sessionId, fun _ => hsettled.sessionIdentifier⟩
  | accepted => exact ⟨fun _ => hclient.2.1.sessionId, fun _ => hclient.2.1.sessionIdentifier⟩
  | _ => cases hlate

/-- The only message of the handshake that the server sends is the init reply. -/
theorem replied_of_log
    (h : Handshake sessionIdentifier k b d)
    {e : Sent}
    (he : e ∈ d.log)
    (hopens : e.message.body.opensSession = true)
    (hsender : e.sender = .server) :
    b.replied = true ∧
      e = ⟨.server, some (k.initStart sessionIdentifier), k.initReply sessionIdentifier⟩ := by
  have hmem : e ∈ b.opened k sessionIdentifier := by
    rw [← h.opened, List.mem_filter]
    exact ⟨he, hopens⟩
  have hone : e ∉ [Sent.mk .client none (k.initStart sessionIdentifier)] := by
    intro hmem'
    rw [List.mem_singleton.mp hmem'] at hsender
    cases hsender
  have htwo : e ∈ [⟨.client, none, k.initStart sessionIdentifier⟩,
      ⟨.server, some (k.initStart sessionIdentifier), k.initReply sessionIdentifier⟩] →
        e = ⟨.server, some (k.initStart sessionIdentifier), k.initReply sessionIdentifier⟩ := by
    intro hmem'
    rcases List.mem_cons.mp hmem' with hcall | hreply
    · exact absurd (hcall ▸ List.mem_singleton.mpr rfl) hone
    · exact List.mem_singleton.mp hreply
  cases b with
  | idle => cases hmem
  | called => exact absurd hmem hone
  | answering rest => exact absurd hmem hone
  | unanswered => exact absurd hmem hone
  | answered => exact ⟨rfl, htwo hmem⟩
  | accepting rest => exact ⟨rfl, htwo hmem⟩
  | accepted => exact ⟨rfl, htwo hmem⟩

/-- A handshake that has begun has sent the init start message. -/
theorem initStart_of_begun
    (h : Handshake sessionIdentifier k b d)
    (hbegun : b ≠ .idle) :
    ⟨.client, none, k.initStart sessionIdentifier⟩ ∈ d.log := by
  have hmem : Sent.mk .client none (k.initStart sessionIdentifier) ∈
      b.opened k sessionIdentifier := by
    cases b with
    | idle => exact absurd rfl hbegun
    | _ => exact List.mem_cons_self
  rw [← h.opened] at hmem
  exact List.mem_of_mem_filter hmem

end Handshake

/-- The invariant of the handshake holds along every run. -/
theorem handshake_of_reaches
    {cfg : Config}
    {sessionIdentifier : Bytes}
    (hlen : sessionIdentifier.length ≤ 64000)
    {st : Connection Peer}
    (h : (connection cfg sessionIdentifier).Reachable st) :
    ∃ k b, Handshake sessionIdentifier k b st.view := by
  refine dialogue_invariant (fun _ _ => True) (fun d => ∃ k b, Handshake sessionIdentifier k b d)
    hlen ?_ ?_ h
  · exact fun st hinit => ⟨⟨0, 0, 0⟩, .idle, Handshake.of_initial hinit sessionIdentifier _⟩
  · rintro d a d' ⟨k, b, hat⟩ _ hstep
    obtain ⟨k', b', _, hat'⟩ := hat.step hstep
    exact ⟨k', b', hat'⟩

/-- Wherever the handshake is, both sides agree. -/
theorem Handshake.agrees
    {sessionIdentifier : Bytes}
    {k : HandshakeIds}
    {b : Progress}
    {st : Connection Peer}
    (hat : Handshake sessionIdentifier k b st.view) :
    st.Agrees sessionIdentifier := by
  have hserver : (∀ x, (st.session x).statemachine = .sessionReady) →
      Settled k sessionIdentifier (st.view.endpoint .server) ∧
        Made k (st.view.endpoint .server) := by
    intro hready
    exact (hat.server_of_late (hat.late_of_ready (hready .client)).1).2.2
  constructor
  · intro hready
    exact (hat.server_of_late (hat.late_of_ready hready).1).1
  · intro hready
    obtain ⟨hsettled, hmade⟩ := hserver hready
    have hid : (st.session .server).sessionId = k.fullId := hsettled.sessionId
    rw [hid, hmade, (hat.late_of_ready (hready .client)).2]
    rfl
  · intro hready
    exact (hserver hready).1.sessionIdentifier
  · intro hready hassigned
    have hid := (hat.client_of_ready (hready .client)).1 hassigned
    exact hid.trans (hserver hready).1.sessionId.symm
  · intro hready hassigned
    have hidentifier := (hat.client_of_ready (hready .client)).2 hassigned
    exact hidentifier.trans (hserver hready).1.sessionIdentifier.symm
  · intro e he hopens hsender
    obtain ⟨hreplied, rfl⟩ := hat.replied_of_log he hopens hsender
    have hbegun : b ≠ .idle := by
      rintro rfl
      cases hreplied
    exact ⟨_, rfl, hat.initStart_of_begun hbegun, rfl, rfl⟩

/-- In every run of a client and a server on one connection, whatever the other threads
do between the statements of the handshake, both sides agree. -/
theorem handshake_agreement
    {cfg : Config}
    {sessionIdentifier : Bytes}
    (hlen : sessionIdentifier.length ≤ 64000)
    {st : Connection Peer}
    (h : (connection cfg sessionIdentifier).Reachable st) :
    st.Agrees sessionIdentifier := by
  obtain ⟨k, b, hat⟩ := handshake_of_reaches hlen h
  exact hat.agrees

/-- The steps of a handshake that nothing interrupts. -/
def handshakeActions : List Action :=
  .start :: .receive .server :: List.replicate 9 (.statement .server) ++
    .receive .client :: List.replicate 8 (.statement .client)

/-- The connection behind it. -/
def openedConnection : Connection Peer :=
  ((connection Config.default [7]).exec freshConnection handshakeActions).getD freshConnection

theorem exec_handshakeActions :
    (connection Config.default [7]).exec freshConnection handshakeActions =
      some openedConnection :=
  rfl

/-- Both sides are ready, and agree. -/
theorem handshake_agreement_opened :
    (∀ x, (openedConnection.session x).statemachine = .sessionReady) ∧
      openedConnection.Agrees [7] := by
  refine ⟨fun x => by cases x <;> rfl, ?_⟩
  exact handshake_agreement (by decide)
    (.of_exec init_freshConnection exec_handshakeActions)

/-- The client has just become ready, and its heartbeat thread is faster than
`makeSessionReady`. -/
def hurriedActions : List Action :=
  .start :: .receive .server :: List.replicate 9 (.statement .server) ++
    .receive .client :: List.replicate 4 (.statement .client) ++ [.call .client .heartbeat]

/-- Inside `makeSessionReady` a ready session changes its id: the client is ready under the
id it has drawn itself, sends a heartbeat under it, and gets its final id while it is ready.
The create callback is called with the final one. -/
theorem not_identity_stable :
    ∃ st st' st'' st''' : Connection Peer,
      (connection Config.default [7]).exec freshConnection hurriedActions = some st ∧
      (st.session .client).statemachine = .sessionReady ∧
      (st.session .client).sessionId = 1 ∧ (st.session .client).sessionIdentifier = [] ∧
      st.log.getLast? = some ⟨.client, none, ⟨1, 2, .heartbeatStart⟩⟩ ∧
      (connection Config.default [7]).step st (.statement .client) = some st' ∧
      (connection Config.default [7]).step st' (.statement .client) = some st'' ∧
      (st''.session .client).statemachine = .sessionReady ∧
      (st''.session .client).sessionId = 65537 ∧
      (st''.session .client).sessionIdentifier = [7] ∧
      (st''.party .client).statements = [.processCreateSession 65537 [7], .assignInitState 1] ∧
      (connection Config.default [7]).step st'' (.statement .client) = some st''' := by
  exact ⟨_, _, _, _, rfl, rfl, rfl, rfl, rfl, rfl, rfl, rfl, rfl, rfl, rfl, rfl⟩

end SakuraNetwork

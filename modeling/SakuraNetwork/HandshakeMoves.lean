import SakuraNetwork.HandshakePlaces
import SakuraNetwork.Lib.Inbox

/-!
# How the handshake moves

Every step of the dialogue either moves the handshake to its next place or leaves it where
it is.

* `Answering.step`, `Accepting.step`: a statement of the server, and of the client.
* `Handshake.Move`: what a step does to the handshake.
* `Handshake.step`: every step of the dialogue is one of these, and keeps the invariant.
* `BehindHandshake`: messages that are read after the one of the handshake.
-/

namespace SakuraNetwork

open Lib

/-- A socket that is open where the session is connected stays so over a statement. -/
theorem Statement.isOpen_after
    {st : Statement}
    {e : SessionEndpoint}
    (h : e.state ≠ .notConnected → e.isOpen = true)
    (hstate : (st.after e).1.state ≠ .notConnected) :
    (st.after e).1.isOpen = true := by
  cases st with
  | connectiSession sessionId =>
      simp only [Statement.after] at hstate ⊢
      split at hstate
      · rename_i hfirst
        rw [if_pos hfirst]
        rfl
      · rename_i hfirst
        rw [if_neg hfirst]
        exact h hstate
  | makeSessionReady sessionId sessionIdentifier =>
      simp only [Statement.after] at hstate ⊢
      split at hstate
      · rename_i hfirst
        rw [if_pos hfirst]
        exact h (by rw [hfirst]; exact SessionState.noConfusion)
      · rename_i hfirst
        rw [if_neg hfirst]
        exact h hstate
  | _ => exact h hstate

/-- A statement of the server other than the last one: it sends nothing, and the handler
is one place further.  The first one makes the final id. -/
theorem Answering.step
    {k : HandshakeIds}
    {sessionIdentifier : Bytes}
    {st : Statement}
    {rest : List Statement}
    {e : SessionEndpoint}
    {w : Bool}
    (h : Answering k sessionIdentifier (st :: rest) e w)
    (hlast : st ≠ k.lastStatement sessionIdentifier) :
    st.sends = [] ∧ ∃ fullId : UInt32, Answering { k with fullId := fullId } sessionIdentifier
      ((st.after e).2 ++ rest) (st.after e).1 (w || (st.after e).1.state = .sessionReady) := by
  cases h with
  | draw hstate hopen =>
      exact ⟨rfl, completeSessionId k.clientId (e.sessionIdCounter + 1),
        .register hstate hopen rfl⟩
  | register hstate hopen hmade =>
      exact ⟨rfl, k.fullId, .connect hstate hopen hmade⟩
  | connect hstate hopen hmade =>
      refine ⟨rfl, k.fullId, ?_⟩
      simp only [Statement.after, hstate, if_true, List.nil_append]
      exact .ready rfl rfl hmade
  | ready hstate hid hmade =>
      refine ⟨rfl, k.fullId, ?_⟩
      simp only [Statement.after, hstate, if_true, decide_true, Bool.or_true]
      exact .assignId (Or.inl rfl) hid hmade
  | assignId hstate hid hmade =>
      exact ⟨rfl, k.fullId, .assignIdentifier hstate rfl hmade⟩
  | assignIdentifier hstate hid hmade =>
      exact ⟨rfl, k.fullId, .create hstate ⟨hid, rfl⟩ hmade⟩
  | create hstate hsettled hmade =>
      exact ⟨rfl, k.fullId, .release hstate hsettled hmade⟩
  | release hstate hsettled hmade =>
      exact ⟨rfl, k.fullId, .reply hstate hsettled hmade⟩
  | reply => exact absurd rfl hlast

/-- Before the last statement of the server the session was made ready. -/
theorem Answering.last
    {k : HandshakeIds}
    {sessionIdentifier : Bytes}
    {rest : List Statement}
    {e : SessionEndpoint}
    {w : Bool}
    (h : Answering k sessionIdentifier (k.lastStatement sessionIdentifier :: rest) e w) :
    rest = [] ∧ w = true ∧ e.Started ∧ Settled k sessionIdentifier e ∧ Made k e := by
  cases h with
  | reply hstate hsettled hmade => exact ⟨rfl, rfl, hstate, hsettled, hmade⟩

/-- A statement of the client sends nothing; the handler is one place further, or at its
end. -/
theorem Accepting.step
    {k : HandshakeIds}
    {sessionIdentifier : Bytes}
    {st : Statement}
    {rest : List Statement}
    {e : SessionEndpoint}
    (h : Accepting k sessionIdentifier (st :: rest) e) :
    st.sends = [] ∧ (st.after e).1.sessionIdCounter = e.sessionIdCounter ∧
      (Accepting k sessionIdentifier ((st.after e).2 ++ rest) (st.after e).1 ∨
        (st.after e).2 ++ rest = [] ∧ (st.after e).1.Started ∧
          Settled k sessionIdentifier (st.after e).1) := by
  cases h with
  | removeMessage hstate => exact ⟨rfl, rfl, Or.inl (.removeSession hstate)⟩
  | removeSession hstate => exact ⟨rfl, rfl, Or.inl (.register hstate)⟩
  | register hstate => exact ⟨rfl, rfl, Or.inl (.ready hstate)⟩
  | ready hstate =>
      simp only [Statement.after, hstate, if_true]
      exact ⟨rfl, trivial, Or.inl (.assignId (Or.inl rfl))⟩
  | assignId hstate => exact ⟨rfl, rfl, Or.inl (.assignIdentifier hstate rfl)⟩
  | assignIdentifier hstate hid => exact ⟨rfl, rfl, Or.inl (.create hstate ⟨hid, rfl⟩)⟩
  | create hstate hsettled => exact ⟨rfl, rfl, Or.inl (.release hstate hsettled)⟩
  | release hstate hsettled => exact ⟨rfl, rfl, Or.inr ⟨rfl, hstate, hsettled⟩⟩

/-- The statements of the handshake hold no message to handle. -/
theorem Answering.filterMap_message
    {k : HandshakeIds}
    {sessionIdentifier : Bytes}
    {rest : List Statement}
    {e : SessionEndpoint}
    {w : Bool}
    (h : Answering k sessionIdentifier rest e w) :
    rest.filterMap Statement.message = [] := by
  cases h <;> rfl

theorem Accepting.filterMap_message
    {k : HandshakeIds}
    {sessionIdentifier : Bytes}
    {rest : List Statement}
    {e : SessionEndpoint}
    (h : Accepting k sessionIdentifier rest e) :
    rest.filterMap Statement.message = [] := by
  cases h <;> rfl

namespace Handshake

variable {sessionIdentifier : Bytes} {k k' : HandshakeIds} {b b' : Progress} {d : Dialogue}

/-- One side runs a statement of the handshake: what the new place says about the
messages, the threads and the sessions is left to show. -/
theorem moved
    (h : Handshake sessionIdentifier k b d)
    {x : Side}
    {answered : Option Message}
    {e' : SessionEndpoint}
    {statements : List Statement}
    {sent : List Message}
    (hmessage : statements.filterMap Statement.message =
      (d.party x).statements.filterMap Statement.message)
    (hopening : b'.opening k' sessionIdentifier x = b.opening k sessionIdentifier x)
    (hsending : b'.opening k' sessionIdentifier x.other =
      b.opening k sessionIdentifier x.other ++ sent)
    (hopens : ∀ m ∈ sent, m.body.opensSession = true)
    (hrunning : ∀ rest, b'.running x = some rest → statements = rest)
    (hspare : b'.running x = none → Spare statements)
    (hother : b'.running x.other = b.running x.other)
    (hopened : b'.opened k' sessionIdentifier =
      b.opened k sessionIdentifier ++ sent.map (fun m => ⟨x, answered, m⟩))
    (hhandling : ∀ rest, b' = .answering rest →
      (d.party .server).handling = some (k'.initStart sessionIdentifier))
    (hclient : b'.ClientAt k' sessionIdentifier
      (if x = .client then e' else d.endpoint .client))
    (hserver : b'.ServerAt k' sessionIdentifier
      (if x = .server then e' else d.endpoint .server)
      ((d.party .server).wasReady || (x = .server ∧ e'.state = .sessionReady)))
    (hisOpen : e'.state ≠ .notConnected → e'.isOpen = true)
    (hearly : b'.early = true → b.early = true) :
    Handshake sessionIdentifier k' b'
      (d.perform x answered e' statements (d.party x).ending sent) := by
  have hpending : (d.perform x answered e' statements (d.party x).ending sent).pending x =
      d.pending x := by
    rw [Connection.pending_perform_same, hmessage]
    rfl
  have hfilter : sent.filter (fun m => m.body.opensSession) = sent :=
    List.filter_eq_self.mpr hopens
  have hmem : ∀ y m, m ∈ (d.perform x answered e' statements (d.party x).ending sent).pending y →
      m ∈ d.pending y ∨ m.body.opensSession = true := by
    intro y m hm
    by_cases hy : y = x
    · subst hy
      exact Or.inl (hpending ▸ hm)
    · rw [Connection.pending_perform_other hy] at hm
      exact (List.mem_append.mp hm).imp_right (hopens m)
  constructor
  · intro y
    by_cases hy : y = x
    · subst hy
      rw [hpending, h.opening, hopening]
    · rw [Connection.pending_perform_other hy, List.filter_append, h.opening, hfilter,
        Side.eq_other hy, hsending]
  · intro y rest hrun
    by_cases hy : y = x
    · subst hy
      rw [Connection.perform_party_same]
      exact hrunning rest hrun
    · rw [Connection.perform_party_other hy]
      rw [Side.eq_other hy, hother, ← Side.eq_other hy] at hrun
      exact h.running y rest hrun
  · intro y hnone
    by_cases hy : y = x
    · subst hy
      rw [Connection.perform_party_same]
      exact hspare hnone
    · rw [Connection.perform_party_other hy]
      rw [Side.eq_other hy, hother, ← Side.eq_other hy] at hnone
      exact h.spare y hnone
  · have hlog : (sent.map (fun m => Sent.mk x answered m)).filter
        (fun e => e.message.body.opensSession) = sent.map (fun m => ⟨x, answered, m⟩) := by
      refine List.filter_eq_self.mpr fun e he => ?_
      obtain ⟨m, hm, rfl⟩ := List.mem_map.mp he
      exact hopens m hm
    rw [Connection.perform_log, List.filter_append, h.opened, hlog, hopened]
  · intro rest hrest
    have hsame : ((d.perform x answered e' statements (d.party x).ending sent).party
        .server).handling = (d.party .server).handling := by
      by_cases hx : Side.server = x
      · subst hx
        rw [Connection.perform_party_same]
      · rw [Connection.perform_party_other hx]
    rw [hsame]
    exact hhandling rest hrest
  · cases x with
    | client =>
        rw [Connection.endpoint, Connection.perform_party_same]
        exact hclient
    | server =>
        rw [Connection.endpoint, Connection.perform_party_other (by decide)]
        exact hclient
  · cases x with
    | client =>
        rw [Connection.endpoint, Connection.perform_party_other (by decide)]
        simpa using hserver
    | server =>
        rw [Connection.endpoint, Connection.perform_party_same]
        simpa [HasState.state] using hserver
  · intro y hstate
    by_cases hy : y = x
    · subst hy
      rw [Connection.endpoint, Connection.perform_party_same] at hstate ⊢
      exact hisOpen hstate
    · rw [Connection.endpoint, Connection.perform_party_other hy] at hstate ⊢
      exact h.isOpen y hstate
  · intro hearly' m hm
    exact (hmem .server m hm).elim (h.replies (hearly hearly') m) Or.inl
  · intro hearly' m hm
    rcases hmem .client m hm with hold | hnew
    · exact h.closeReply (hearly hearly') m hold
    · intro hclose
      rw [hclose] at hnew
      cases hnew

/-- One side takes the message of the handshake that is on its way to it. -/
theorem taken
    (h : Handshake sessionIdentifier k b d)
    {x : Side}
    {m : Message}
    {rest : List Message}
    (hidle : (d.party x).statements = [])
    (hincoming : d.incoming x = m :: rest)
    (hopens : m.body.opensSession = true)
    (hmessage : m.statements.filterMap Statement.message = [])
    (hopening : b.opening k sessionIdentifier x = m :: b'.opening k sessionIdentifier x)
    (hsending : b'.opening k sessionIdentifier x.other = b.opening k sessionIdentifier x.other)
    (hrunning : b'.running x = some m.statements)
    (hother : b'.running x.other = b.running x.other)
    (hopened : b'.opened k sessionIdentifier = b.opened k sessionIdentifier)
    (hhandling : ∀ rest, b' = .answering rest →
      x = .server ∧ m = k.initStart sessionIdentifier)
    (hclient : b'.ClientAt k sessionIdentifier (d.endpoint .client))
    (hserver : b'.ServerAt k sessionIdentifier (d.endpoint .server)
      (d.party .server).wasReady)
    (hearly : b'.early = true → b.early = true) :
    Handshake sessionIdentifier k b' (d.take x m rest) := by
  have hpending : d.pending x = m :: (d.take x m rest).pending x := by
    simp only [Connection.pending, Connection.take, if_true, hidle, hincoming, hmessage]
    rfl
  have hpendingOther : ∀ y, y ≠ x → (d.take x m rest).pending y = d.pending y := by
    intro y hy
    simp only [Connection.pending, Connection.take, hy, if_false]
  have hmem : ∀ y m', m' ∈ (d.take x m rest).pending y → m' ∈ d.pending y := by
    intro y m' hm'
    by_cases hy : y = x
    · subst hy
      rw [hpending]
      exact List.mem_cons_of_mem m hm'
    · rw [← hpendingOther y hy]
      exact hm'
  have hendpoint : ∀ y, (d.take x m rest).endpoint y = d.endpoint y :=
    fun _ => Connection.take_core
  constructor
  · intro y
    by_cases hy : y = x
    · subst hy
      have hold := h.opening y
      rw [hpending, List.filter_cons, if_pos hopens, hopening] at hold
      exact (List.cons.inj hold).2
    · rw [hpendingOther y hy, h.opening, Side.eq_other hy, hsending]
  · intro y rest' hrun
    by_cases hy : y = x
    · subst hy
      rw [Connection.take_party_same]
      exact Option.some.inj (hrunning.symm.trans hrun)
    · rw [Connection.take_party_other hy]
      rw [Side.eq_other hy, hother, ← Side.eq_other hy] at hrun
      exact h.running y rest' hrun
  · intro y hnone
    by_cases hy : y = x
    · subst hy
      rw [hrunning] at hnone
      cases hnone
    · rw [Connection.take_party_other hy]
      rw [Side.eq_other hy, hother, ← Side.eq_other hy] at hnone
      exact h.spare y hnone
  · rw [Connection.take_log, h.opened, hopened]
  · intro rest' hrest'
    obtain ⟨rfl, rfl⟩ := hhandling rest' hrest'
    rw [Connection.take_party_same]
  · rw [hendpoint]
    exact hclient
  · rw [hendpoint, Connection.take_wasReady]
    exact hserver
  · intro y
    rw [hendpoint]
    exact h.isOpen y
  · intro hearly' m' hm'
    exact h.replies (hearly hearly') m' (hmem .server m' hm')
  · intro hearly' m' hm'
    exact h.closeReply (hearly hearly') m' (hmem .client m' hm')

/-! ## The steps of the dialogue -/

/-- What a step of the dialogue does to the handshake.  The last six do not move it. -/
inductive Move
    (cfg : Config)
    (sessionIdentifier : Bytes)
    (k : HandshakeIds)
    (b : Progress)
    (d : Dialogue) : Action → HandshakeIds → Progress → Dialogue → Prop
  | start {k' : HandshakeIds}
      (hidle : b = .idle)
      (hlog : d.log = []) :
      Move cfg sessionIdentifier k b d .start k' .called
        (d.perform .client none
          { (d.endpoint .client).connect ((d.endpoint .client).sessionIdCounter + 1).toUInt32 with
            sessionIdCounter := (d.endpoint .client).sessionIdCounter + 1 }
          (d.party .client).statements (d.party .client).ending
          [k'.initStart sessionIdentifier])
  | takeStart {rest : List Message}
      (hcalled : b = .called)
      (hidle : (d.party .server).statements = [])
      (hincoming : d.incoming .server = k.initStart sessionIdentifier :: rest) :
      Move cfg sessionIdentifier k b d (.receive .server) k
        (.answering (k.initStart sessionIdentifier).statements)
        (d.take .server (k.initStart sessionIdentifier) rest)
  | answer {st : Statement} {rest : List Statement} {fullId : UInt32}
      (hanswering : b = .answering (st :: rest)) :
      Move cfg sessionIdentifier k b d (.statement .server) { k with fullId := fullId }
        (.answering ((st.after (d.endpoint .server)).2 ++ rest))
        (d.perform .server (d.party .server).handling (st.after (d.endpoint .server)).1
          ((st.after (d.endpoint .server)).2 ++ rest) (d.party .server).ending [])
  | reply
      (hanswering : b = .answering [k.lastStatement sessionIdentifier])
      (hopen : (d.endpoint .server).isOpen = true) :
      Move cfg sessionIdentifier k b d (.statement .server) k .answered
        (d.perform .server (some (k.initStart sessionIdentifier)) (d.endpoint .server) []
          (d.party .server).ending [k.initReply sessionIdentifier])
  | silence
      (hanswering : b = .answering [k.lastStatement sessionIdentifier])
      (hclosed : (d.endpoint .server).isOpen = false) :
      Move cfg sessionIdentifier k b d (.statement .server) k .unanswered
        (d.perform .server (some (k.initStart sessionIdentifier)) (d.endpoint .server) []
          (d.party .server).ending [])
  | takeReply {rest : List Message}
      (hanswered : b = .answered)
      (hidle : (d.party .client).statements = [])
      (hincoming : d.incoming .client = k.initReply sessionIdentifier :: rest) :
      Move cfg sessionIdentifier k b d (.receive .client) k
        (.accepting (k.initReply sessionIdentifier).statements)
        (d.take .client (k.initReply sessionIdentifier) rest)
  | accept {st : Statement} {rest : List Statement} {b' : Progress}
      (haccepting : b = .accepting (st :: rest))
      (hnext : b' = .accepting ((st.after (d.endpoint .client)).2 ++ rest) ∨
        b' = .accepted ∧ (st.after (d.endpoint .client)).2 ++ rest = []) :
      Move cfg sessionIdentifier k b d (.statement .client) k b'
        (d.perform .client (d.party .client).handling (st.after (d.endpoint .client)).1
          ((st.after (d.endpoint .client)).2 ++ rest) (d.party .client).ending [])
  | take {x : Side} {m : Message} {rest : List Message}
      (hidle : (d.party x).statements = [])
      (hincoming : d.incoming x = m :: rest)
      (hplain : m.body.Plain) :
      Move cfg sessionIdentifier k b d (.receive x) k b (d.take x m rest)
  | drop {x : Side} {m : Message} {rest : List Message}
      (hidle : (d.party x).statements = [])
      (hincoming : d.incoming x = m :: rest)
      (hplain : m.body.Plain)
      (hclosed : (d.endpoint x).isOpen = false) :
      Move cfg sessionIdentifier k b d (.receive x) k b (d.drop x rest)
  | handle {x : Side} {m : Message}
      (hstatements : (d.party x).statements = [.handle m])
      (hspare : b.running x = none)
      (hplain : m.body.Plain) :
      Move cfg sessionIdentifier k b d (.statement x) k b
        (d.perform x (d.party x).handling (m.body.after (d.endpoint x)) []
          (d.party x).ending
          (if (d.endpoint x).isOpen then m.replies (d.endpoint x) else []))
  | call {x : Side} {c : Call} {sent : List Message}
      (hspeaks : c.Speaks cfg (d.endpoint x) sent) :
      Move cfg sessionIdentifier k b d (.call x c) k b
        (d.perform x none (d.endpoint x) (d.party x).statements (d.party x).ending sent)
  | close {x : Side} {replyExpected : Bool}
      (messageId : UInt32) :
      Move cfg sessionIdentifier k b d (.close x replyExpected) k b
        (d.perform x none (d.endpoint x) (d.party x).statements
          ((d.party x).ending +
            if (d.endpoint x).state = .sessionReady ∧ replyExpected = false then 1 else 0)
          (if (d.endpoint x).state = .sessionReady ∧ (d.endpoint x).isOpen = true then
            [⟨(d.endpoint x).sessionId, messageId, .sessionCloseStart replyExpected⟩]
          else []))
  | endClose {x : Side}
      (hending : 0 < (d.party x).ending) :
      Move cfg sessionIdentifier k b d (.endClose x) k b
        (d.perform x none (d.endpoint x).stop (d.party x).statements ((d.party x).ending - 1) [])

variable {cfg : Config} {x : Side}

/-- A message of the handshake at the front of a queue is the one on its way. -/
theorem opening_of_incoming
    (h : Handshake sessionIdentifier k b d)
    {m : Message}
    {rest : List Message}
    (hincoming : d.incoming x = m :: rest)
    (hopens : m.body.opensSession = true) :
    b = .called ∧ x = .server ∧ m = k.initStart sessionIdentifier ∨
      b = .answered ∧ x = .client ∧ m = k.initReply sessionIdentifier := by
  have hmem : m ∈ b.opening k sessionIdentifier x := by
    rw [← h.opening x, List.mem_filter]
    refine ⟨?_, hopens⟩
    rw [Connection.pending, hincoming]
    exact List.mem_append_right _ List.mem_cons_self
  cases b with
  | called =>
      cases x with
      | client => cases hmem
      | server => exact Or.inl ⟨rfl, rfl, List.mem_singleton.mp hmem⟩
  | answered =>
      cases x with
      | client => exact Or.inr ⟨rfl, rfl, List.mem_singleton.mp hmem⟩
      | server => cases hmem
  | _ => cases hmem

/-- The init reply message is on its way to the client. -/
theorem initReply_mem_pending
    (h : Handshake sessionIdentifier k .answered d) :
    k.initReply sessionIdentifier ∈ d.pending .client := by
  have hmem : k.initReply sessionIdentifier ∈
      (d.pending .client).filter (fun m => m.body.opensSession) := by
    rw [h.opening]
    exact List.mem_singleton.mpr rfl
  exact List.mem_of_mem_filter hmem

/-- A thread with nothing to run is not in the handshake. -/
theorem running_of_idle
    (h : Handshake sessionIdentifier k b d)
    (hidle : (d.party x).statements = []) :
    b.running x = none := by
  cases hrunning : b.running x with
  | none => rfl
  | some rest =>
      have hrest := h.running x rest hrunning
      rw [hidle] at hrest
      subst hrest
      cases b with
      | answering rest =>
          cases x with
          | client => cases hrunning
          | server =>
              cases hrunning
              cases h.server
      | accepting rest =>
          cases x with
          | client =>
              cases hrunning
              cases h.client.1
          | server => cases hrunning
      | _ => cases hrunning

/-- A thread that runs a statement of the handshake is at this place of it. -/
theorem running_of_statement
    (h : Handshake sessionIdentifier k b d)
    {st : Statement}
    {rest : List Statement}
    (hstatements : (d.party x).statements = st :: rest)
    (hother : ∀ m, st ≠ .handle m) :
    b = .answering (st :: rest) ∧ x = .server ∨ b = .accepting (st :: rest) ∧ x = .client := by
  cases hrunning : b.running x with
  | none =>
      rcases h.spare x hrunning with hnil | ⟨m, hm, _⟩
      · rw [hnil] at hstatements
        cases hstatements
      · rw [hm] at hstatements
        cases hstatements
        exact absurd rfl (hother m)
  | some rest' =>
      have hrest := h.running x rest' hrunning
      rw [hstatements] at hrest
      subst hrest
      cases b with
      | answering rest'' =>
          cases x with
          | client => cases hrunning
          | server =>
              cases hrunning
              exact Or.inl ⟨rfl, rfl⟩
      | accepting rest'' =>
          cases x with
          | client =>
              cases hrunning
              exact Or.inr ⟨rfl, rfl⟩
          | server => cases hrunning
      | _ => cases hrunning

/-- A thread that handles a message in one step is not in the handshake. -/
theorem running_of_handle
    (h : Handshake sessionIdentifier k b d)
    {m : Message}
    {rest : List Statement}
    (hstatements : (d.party x).statements = .handle m :: rest) :
    b.running x = none ∧ rest = [] := by
  cases hrunning : b.running x with
  | none =>
      rcases h.spare x hrunning with hnil | ⟨m', hm', _⟩
      · rw [hnil] at hstatements
        cases hstatements
      · rw [hm'] at hstatements
        cases hstatements
        exact ⟨rfl, rfl⟩
  | some rest' =>
      have hrest := h.running x rest' hrunning
      rw [hstatements] at hrest
      subst hrest
      cases b with
      | answering rest'' =>
          cases x with
          | client => cases hrunning
          | server =>
              cases hrunning
              cases h.server
      | accepting rest'' =>
          cases x with
          | client =>
              cases hrunning
              cases h.client.1
          | server => cases hrunning
      | _ => cases hrunning

/-- The handshake begins where nothing was sent. -/
theorem idle_of_log
    (h : Handshake sessionIdentifier k b d)
    (hlog : d.log = []) :
    b = .idle := by
  have hopened := h.opened
  rw [hlog, List.filter_nil] at hopened
  cases b with
  | idle => rfl
  | _ => cases hopened

theorem start
    (h : Handshake sessionIdentifier k .idle d)
    (messageId : UInt32) :
    let e := d.endpoint .client
    let k' : HandshakeIds := ⟨(e.sessionIdCounter + 1).toUInt32, messageId, k.fullId⟩
    Handshake sessionIdentifier k' .called
      (d.perform .client none
        { e.connect (e.sessionIdCounter + 1).toUInt32 with
          sessionIdCounter := e.sessionIdCounter + 1 }
        (d.party .client).statements (d.party .client).ending
        [k'.initStart sessionIdentifier]) := by
  intro e k'
  refine h.moved rfl rfl rfl ?_ ?_ (fun _ => h.spare .client rfl) rfl rfl ?_ ?_ ?_ ?_ ?_
  · intro m hm
    rw [List.mem_singleton.mp hm]
    rfl
  · rintro rest ⟨⟩
  · rintro rest ⟨⟩
  · exact ⟨rfl, rfl, rfl⟩
  · exact h.server
  · exact fun _ => rfl
  · exact fun _ => rfl

/-- A message that is not of the handshake is taken, and left to be handled. -/
theorem take_plain
    (h : Handshake sessionIdentifier k b d)
    {m : Message}
    {rest : List Message}
    (hidle : (d.party x).statements = [])
    (hincoming : d.incoming x = m :: rest)
    (hplain : m.body.Plain) :
    Handshake sessionIdentifier k b (d.take x m rest) := by
  have hrunning := h.running_of_idle hidle
  have hpending : ∀ y, (d.take x m rest).pending y = d.pending y :=
    fun y => Connection.pending_take hidle hincoming hplain
  have hendpoint : ∀ y, (d.take x m rest).endpoint y = d.endpoint y :=
    fun _ => Connection.take_core
  constructor
  · intro y
    rw [hpending, h.opening]
  · intro y rest' hrun
    by_cases hy : y = x
    · subst hy
      rw [hrunning] at hrun
      cases hrun
    · rw [Connection.take_party_other hy]
      exact h.running y rest' hrun
  · intro y hnone
    by_cases hy : y = x
    · subst hy
      rw [Connection.take_party_same]
      exact Or.inr ⟨m, statements_of_plain hplain, hplain⟩
    · rw [Connection.take_party_other hy]
      exact h.spare y hnone
  · exact h.opened
  · intro rest' hrest'
    by_cases hx : Side.server = x
    · subst hx
      subst hrest'
      cases hrunning
    · rw [Connection.take_party_other hx]
      exact h.handling rest' hrest'
  · rw [hendpoint]
    exact h.client
  · rw [hendpoint, Connection.take_wasReady]
    exact h.server
  · intro y
    rw [hendpoint]
    exact h.isOpen y
  · intro hearly m' hm'
    exact h.replies hearly m' (hpending .server ▸ hm')
  · intro hearly m' hm'
    exact h.closeReply hearly m' (hpending .client ▸ hm')

/-- A message that is not of the handshake is dropped. -/
theorem drop_plain
    (h : Handshake sessionIdentifier k b d)
    {m : Message}
    {rest : List Message}
    (hincoming : d.incoming x = m :: rest)
    (hplain : m.body.Plain) :
    Handshake sessionIdentifier k b (d.drop x rest) := by
  have hmem : ∀ y m', m' ∈ (d.drop x rest).pending y → m' ∈ d.pending y := by
    intro y m' hm'
    rcases List.mem_append.mp hm' with hm' | hm'
    · exact List.mem_append_left _ hm'
    · refine List.mem_append_right _ ?_
      by_cases hy : y = x
      · subst hy
        rw [Connection.drop_incoming_same] at hm'
        rw [hincoming]
        exact List.mem_cons_of_mem m hm'
      · rw [Connection.drop_incoming_other hy] at hm'
        exact hm'
  refine ⟨?_, h.running, h.spare, h.opened, h.handling, h.client, h.server, h.isOpen, ?_, ?_⟩
  · intro y
    have hold := h.opening y
    rw [Connection.pending, List.filter_append] at hold ⊢
    by_cases hy : y = x
    · subst hy
      rw [Connection.drop_incoming_same]
      rw [hincoming, List.filter_cons, if_neg (by rw [hplain]; exact Bool.false_ne_true)] at hold
      exact hold
    · rw [Connection.drop_incoming_other hy]
      exact hold
  · intro hearly m' hm'
    exact h.replies hearly m' (hmem .server m' hm')
  · intro hearly m' hm'
    exact h.closeReply hearly m' (hmem .client m' hm')

/-- The server runs a statement before its last one. -/
theorem answer
    {st : Statement}
    {rest : List Statement}
    (h : Handshake sessionIdentifier k (.answering (st :: rest)) d)
    {fullId : UInt32}
    (hat : Answering { k with fullId := fullId } sessionIdentifier
      ((st.after (d.endpoint .server)).2 ++ rest) (st.after (d.endpoint .server)).1
      ((d.party .server).wasReady ||
        (st.after (d.endpoint .server)).1.state = .sessionReady)) :
    Handshake sessionIdentifier { k with fullId := fullId }
      (.answering ((st.after (d.endpoint .server)).2 ++ rest))
      (d.perform .server (d.party .server).handling (st.after (d.endpoint .server)).1
        ((st.after (d.endpoint .server)).2 ++ rest) (d.party .server).ending []) := by
  have hold : Answering k sessionIdentifier (st :: rest) (d.endpoint .server)
      (d.party .server).wasReady := h.server
  refine h.moved ?_ rfl rfl ?_ ?_ ?_ rfl rfl ?_ h.client ?_ ?_ (fun _ => rfl)
  · rw [hat.filterMap_message, h.running .server _ rfl, hold.filterMap_message]
  · exact fun m hm => absurd hm List.not_mem_nil
  · exact fun rest' hrest' => Option.some.inj hrest'
  · rintro ⟨⟩
  · exact fun _ _ => h.handling _ rfl
  · simpa [Progress.ServerAt] using hat
  · exact Statement.isOpen_after (h.isOpen .server)

/-- The server runs its last statement. -/
theorem answered
    (h : Handshake sessionIdentifier k (.answering [k.lastStatement sessionIdentifier]) d) :
    let e := d.endpoint .server
    Handshake sessionIdentifier k (if e.isOpen then .answered else .unanswered)
      (d.perform .server (some (k.initStart sessionIdentifier)) e [] (d.party .server).ending
        (if e.isOpen then [k.initReply sessionIdentifier] else [])) := by
  intro e
  have hat : Answering k sessionIdentifier [k.lastStatement sessionIdentifier] e
      (d.party .server).wasReady := h.server
  obtain ⟨_, hwas, hstarted, hsettled, hmade⟩ := hat.last
  have hwas' : ((d.party .server).wasReady ||
      decide (Side.server = .server ∧ e.state = .sessionReady)) = true := by
    rw [hwas, Bool.true_or]
  have hmessage : ([] : List Statement).filterMap Statement.message =
      (d.party .server).statements.filterMap Statement.message := by
    rw [h.running .server _ rfl, hat.filterMap_message]
    rfl
  cases hopen : e.isOpen with
  | true =>
      refine h.moved hmessage rfl rfl ?_ ?_ (fun _ => Or.inl rfl) rfl rfl ?_ h.client
        ⟨hwas', hstarted, hsettled, hmade⟩ (h.isOpen .server) (fun _ => rfl)
      · intro m hm
        rw [List.mem_singleton.mp hm]
        rfl
      · rintro rest ⟨⟩
      · rintro rest ⟨⟩
  | false =>
      have hclosed : e.state = .notConnected := by
        by_contra hstate
        exact Bool.false_ne_true (hopen.symm.trans (h.isOpen .server hstate))
      refine h.moved hmessage rfl rfl ?_ ?_ (fun _ => Or.inl rfl) rfl rfl ?_ h.client
        ⟨hwas', hclosed, hsettled, hmade⟩ (h.isOpen .server) (fun _ => rfl)
      · exact fun m hm => absurd hm List.not_mem_nil
      · rintro rest ⟨⟩
      · rintro rest ⟨⟩

/-- The client runs a statement. -/
theorem accept
    {st : Statement}
    {rest : List Statement}
    (h : Handshake sessionIdentifier k (.accepting (st :: rest)) d) :
    let e' := (st.after (d.endpoint .client)).1
    let rest' := (st.after (d.endpoint .client)).2 ++ rest
    ∃ b', (b' = .accepting rest' ∨ b' = .accepted ∧ rest' = []) ∧
      Handshake sessionIdentifier k b'
        (d.perform .client (d.party .client).handling e' rest' (d.party .client).ending []) := by
  intro e' rest'
  have hold : Accepting k sessionIdentifier (st :: rest) (d.endpoint .client) := h.client.1
  obtain ⟨_, hcounter, hnext⟩ := hold.step
  have hmade : k.clientId = e'.sessionIdCounter.toUInt32 := by
    rw [hcounter]
    exact h.client.2
  have hmessage : rest'.filterMap Statement.message = [] →
      rest'.filterMap Statement.message =
        (d.party .client).statements.filterMap Statement.message := by
    intro hnone
    rw [hnone, h.running .client _ rfl, hold.filterMap_message]
  have hserver : ∀ b' : Progress, b' = .accepting rest' ∨ b' = .accepted →
      b'.ServerAt k sessionIdentifier (d.endpoint .server)
        ((d.party .server).wasReady ||
          decide (Side.client = .server ∧ e'.state = .sessionReady)) := by
    intro b' hb'
    have hat := Progress.serverAt_wasReady h.server
      (decide (Side.client = .server ∧ e'.state = .sessionReady))
    rcases hb' with rfl | rfl
    · exact hat
    · exact hat
  rcases hnext with hat | ⟨hnil, hstarted, hsettled⟩
  · refine ⟨.accepting rest', Or.inl rfl, ?_⟩
    refine h.moved (hmessage hat.filterMap_message) rfl rfl ?_ ?_ ?_ rfl rfl ?_ ⟨hat, hmade⟩
      (hserver _ (Or.inl rfl)) (Statement.isOpen_after (h.isOpen .client)) (fun hne => hne)
    · exact fun m hm => absurd hm List.not_mem_nil
    · exact fun rest'' hrest'' => Option.some.inj hrest''
    · rintro ⟨⟩
    · rintro rest'' ⟨⟩
  · refine ⟨.accepted, Or.inr ⟨rfl, hnil⟩, ?_⟩
    refine h.moved (hmessage (by rw [show rest' = [] from hnil]; rfl)) rfl rfl ?_ ?_ ?_ rfl rfl ?_
      ⟨hstarted, hsettled, hmade⟩ (hserver _ (Or.inr rfl))
      (Statement.isOpen_after (h.isOpen .client)) (fun hne => hne)
    · exact fun m hm => absurd hm List.not_mem_nil
    · rintro rest'' ⟨⟩
    · exact fun _ => Or.inl hnil
    · rintro rest'' ⟨⟩

/-- The client is not ready before it gets the init reply message. -/
theorem client_not_ready
    (h : Handshake sessionIdentifier k b d)
    (hearly : b.early = true) :
    (d.endpoint .client).state ≠ .sessionReady := by
  intro hready
  have hclient := h.client
  cases b with
  | idle => exact absurd (hready.symm.trans hclient) SessionState.noConfusion
  | accepting rest => cases hearly
  | accepted => cases hearly
  | _ => exact absurd (hready.symm.trans hclient.1) SessionState.noConfusion

/-- A close reply message finds a session that was made ready, or one that is not
connected. -/
theorem quiet_closeReply
    (h : Handshake sessionIdentifier k b d)
    {m : Message}
    (hspare : b.running x = none)
    (hpending : m ∈ d.pending x)
    (hbody : m.body = .sessionCloseReply) :
    (d.endpoint x).Quiet (d.endpoint x).disconnect := by
  refine SessionEndpoint.quiet_disconnect ?_
  cases x with
  | client =>
      have hclient := h.client
      cases b with
      | accepting rest => cases hspare
      | accepted => exact hclient.1
      | _ => exact absurd hbody (h.closeReply rfl m hpending)
  | server =>
      have hserver := h.server
      cases b with
      | idle => exact Or.inr hserver.1
      | called => exact Or.inr hserver.1
      | answering rest => cases hspare
      | unanswered => exact Or.inr hserver.2.1
      | _ => exact hserver.2.1

theorem takeStart
    (h : Handshake sessionIdentifier k .called d)
    {rest : List Message}
    (hidle : (d.party .server).statements = [])
    (hincoming : d.incoming .server = k.initStart sessionIdentifier :: rest) :
    Handshake sessionIdentifier k (.answering (k.initStart sessionIdentifier).statements)
      (d.take .server (k.initStart sessionIdentifier) rest) := by
  refine h.taken hidle hincoming rfl rfl rfl rfl rfl rfl rfl ?_ h.client ?_ (fun _ => rfl)
  · exact fun _ _ => ⟨rfl, rfl⟩
  · exact .draw h.server.1 h.server.2

theorem takeReply
    (h : Handshake sessionIdentifier k .answered d)
    {rest : List Message}
    (hidle : (d.party .client).statements = [])
    (hincoming : d.incoming .client = k.initReply sessionIdentifier :: rest) :
    Handshake sessionIdentifier k (.accepting (k.initReply sessionIdentifier).statements)
      (d.take .client (k.initReply sessionIdentifier) rest) := by
  refine h.taken hidle hincoming rfl rfl rfl rfl rfl rfl rfl ?_ ?_ h.server (fun _ => rfl)
  · rintro _ ⟨⟩
  · exact ⟨.removeMessage h.client.1, h.client.2.2⟩

/-- The last statement of the server sends the init reply message over an open socket. -/
theorem last_statement
    {rest : List Statement}
    (h : Handshake sessionIdentifier k
      (.answering (k.lastStatement sessionIdentifier :: rest)) d) :
    let st := k.lastStatement sessionIdentifier
    let d' := d.perform .server (d.party .server).handling (st.after (d.endpoint .server)).1
      ((st.after (d.endpoint .server)).2 ++ rest) (d.party .server).ending
      (if (d.endpoint .server).isOpen then st.sends else [])
    ∃ k' b',
      Move cfg sessionIdentifier k (.answering (st :: rest)) d (.statement .server) k' b' d' ∧
        Handshake sessionIdentifier k' b' d' := by
  intro st d'
  have hat : Answering k sessionIdentifier (st :: rest) (d.endpoint .server)
      (d.party .server).wasReady := h.server
  obtain ⟨rfl, _⟩ := hat.last
  have hnext := h.answered
  have hd' : d' = d.perform .server (some (k.initStart sessionIdentifier)) (d.endpoint .server) []
      (d.party .server).ending
      (if (d.endpoint .server).isOpen then [k.initReply sessionIdentifier] else []) := by
    simp only [d', h.handling _ rfl]
    rfl
  rw [hd']
  cases hopen : (d.endpoint .server).isOpen with
  | true =>
      simp only [hopen, if_true] at hnext
      exact ⟨k, .answered, .reply rfl hopen, hnext⟩
  | false =>
      simp only [hopen, Bool.false_eq_true, if_false] at hnext
      exact ⟨k, .unanswered, .silence rfl hopen, hnext⟩

/-- A message that is handled in one step at most closes the session. -/
theorem quiet_after
    (h : Handshake sessionIdentifier k b d)
    {m : Message}
    (hspare : b.running x = none)
    (hpending : m ∈ d.pending x) :
    (d.endpoint x).Quiet (m.body.after (d.endpoint x)) := by
  cases hbody : m.body with
  | sessionCloseStart replyExpected => exact SessionEndpoint.quiet_stop _
  | sessionCloseReply => exact h.quiet_closeReply hspare hpending hbody
  | _ => exact SessionEndpoint.Quiet.refl _

/-- A message that is not of the handshake is handled. -/
theorem handle
    (h : Handshake sessionIdentifier k b d)
    {m : Message}
    (hstatements : (d.party x).statements = [.handle m])
    (hspare : b.running x = none)
    (hplain : m.body.Plain) :
    Handshake sessionIdentifier k b
      (d.perform x (d.party x).handling (m.body.after (d.endpoint x)) [] (d.party x).ending
        (if (d.endpoint x).isOpen then m.replies (d.endpoint x) else [])) := by
  have hpending : m ∈ d.pending x := by
    rw [Connection.pending, hstatements]
    exact List.mem_append_left _ List.mem_cons_self
  have hsent : ∀ m' ∈ (if (d.endpoint x).isOpen then m.replies (d.endpoint x) else []),
      m' ∈ m.replies (d.endpoint x) := by
    intro m' hm'
    split at hm'
    · exact hm'
    · cases hm'
  refine h.quiet (h.quiet_after hspare hpending) (Or.inr ⟨hspare, rfl⟩) ?_ ?_ ?_
  · exact fun m' hm' => (Message.mem_replies (hsent m' hm')).1
  · exact fun _ _ m' hm' => (Message.mem_replies (hsent m' hm')).2.1
  · intro hearly hx m' hm'
    subst hx
    rcases h.replies hearly m hpending with hopens | hreply
    · rw [hplain] at hopens
      cases hopens
    · have hnone := hsent m' hm'
      rw [Message.replies_of_isReply hreply] at hnone
      cases hnone

/-- The operations of the other threads send messages that are not of the handshake, and
the client sends none before it gets the init reply message. -/
theorem call
    (h : Handshake sessionIdentifier k b d)
    {c : Call}
    {sent : List Message}
    (hspeaks : c.Speaks cfg (d.endpoint x) sent) :
    Handshake sessionIdentifier k b
      (d.perform x none (d.endpoint x) (d.party x).statements (d.party x).ending sent) := by
  refine h.quiet (SessionEndpoint.Quiet.refl _) (Or.inl rfl)
    (fun m hm => (hspeaks.spoken m hm).plain) ?_ ?_
  · intro hearly hx m hm
    subst hx
    exact absurd (hspeaks.ready (List.ne_nil_of_mem hm)).1 (h.client_not_ready hearly)
  · intro _ _ m hm hclose
    exact (hspeaks.spoken m hm).type (by rw [hclose]; rfl)

/-- A close start message is sent by a ready session. -/
theorem close
    (h : Handshake sessionIdentifier k b d)
    (messageId : UInt32)
    (replyExpected : Bool)
    (ending : Nat) :
    Handshake sessionIdentifier k b
      (d.perform x none (d.endpoint x) (d.party x).statements ending
        (if (d.endpoint x).state = .sessionReady ∧ (d.endpoint x).isOpen = true then
          [⟨(d.endpoint x).sessionId, messageId, .sessionCloseStart replyExpected⟩]
        else [])) := by
  have hsent : ∀ m ∈ (if (d.endpoint x).state = .sessionReady ∧ (d.endpoint x).isOpen = true then
      [Message.mk (d.endpoint x).sessionId messageId (.sessionCloseStart replyExpected)]
      else []), (d.endpoint x).state = .sessionReady ∧
        m.body = .sessionCloseStart replyExpected := by
    intro m hm
    split at hm
    · rename_i hready
      rw [List.mem_singleton.mp hm]
      exact ⟨hready.1, rfl⟩
    · cases hm
  refine h.quiet (SessionEndpoint.Quiet.refl _) (Or.inl rfl) ?_ ?_ ?_
  · intro m hm
    rw [(hsent m hm).2]
    rfl
  · intro hearly hx m hm
    subst hx
    exact absurd (hsent m hm).1 (h.client_not_ready hearly)
  · intro _ _ m hm hclose
    rw [(hsent m hm).2] at hclose
    cases hclose

/-- What the steps of the dialogue do to the handshake. -/
theorem step
    (h : Handshake sessionIdentifier k b d)
    {a : Action}
    {d' : Dialogue}
    (hstep : Dialogue.Step cfg sessionIdentifier d a d') :
    ∃ k' b', Move cfg sessionIdentifier k b d a k' b' d' ∧
      Handshake sessionIdentifier k' b' d' := by
  cases hstep with
  | start messageId hlog hfresh =>
      have hidle := h.idle_of_log hlog
      subst hidle
      exact ⟨_, _, .start rfl hlog, h.start messageId⟩
  | @take x m rest hidle hincoming hopen =>
      cases hopens : m.body.opensSession with
      | false => exact ⟨k, b, .take hidle hincoming hopens, h.take_plain hidle hincoming hopens⟩
      | true =>
          rcases h.opening_of_incoming hincoming hopens with
            ⟨rfl, rfl, rfl⟩ | ⟨rfl, rfl, rfl⟩
          · exact ⟨k, _, .takeStart rfl hidle hincoming, h.takeStart hidle hincoming⟩
          · exact ⟨k, _, .takeReply rfl hidle hincoming, h.takeReply hidle hincoming⟩
  | @drop x m rest hidle hincoming hclosed =>
      cases hopens : m.body.opensSession with
      | false =>
          exact ⟨k, b, .drop hidle hincoming hopens hclosed, h.drop_plain hincoming hopens⟩
      | true =>
          -- the message of the handshake finds an open socket
          have hopen : (d.endpoint x).isOpen = true := by
            rcases h.opening_of_incoming hincoming hopens with
              ⟨rfl, rfl, rfl⟩ | ⟨rfl, rfl, rfl⟩
            · exact h.server.2
            · refine h.isOpen .client ?_
              rw [h.client.1]
              exact SessionState.noConfusion
          rw [hopen] at hclosed
          cases hclosed
  | @handle x m rest hstatements hplain =>
      obtain ⟨hspare, rfl⟩ := h.running_of_handle hstatements
      exact ⟨k, b, .handle hstatements hspare hplain, h.handle hstatements hspare hplain⟩
  | @statement x st rest hstatements hother =>
      rcases h.running_of_statement hstatements hother with ⟨rfl, rfl⟩ | ⟨rfl, rfl⟩
      · by_cases hlast : st = k.lastStatement sessionIdentifier
        · subst hlast
          exact h.last_statement
        · have hat : Answering k sessionIdentifier (st :: rest) (d.endpoint .server)
              (d.party .server).wasReady := h.server
          obtain ⟨hsends, fullId, hnext⟩ := hat.step hlast
          rw [hsends, ite_self]
          exact ⟨_, _, .answer rfl, h.answer hnext⟩
      · have hat : Accepting k sessionIdentifier (st :: rest) (d.endpoint .client) := h.client.1
        obtain ⟨b', hb', hnext⟩ := h.accept
        rw [hat.step.1, ite_self]
        exact ⟨k, b', .accept rfl hb', hnext⟩
  | call hspeaks => exact ⟨k, b, .call hspeaks, h.call hspeaks⟩
  | close messageId => exact ⟨k, b, .close messageId, h.close messageId _ _⟩
  | endClose hending =>
      refine ⟨k, b, .endClose hending, ?_⟩
      exact h.quiet (SessionEndpoint.quiet_stop _) (Or.inl rfl)
        (fun m hm => absurd hm List.not_mem_nil) (fun _ _ m hm => absurd hm List.not_mem_nil)
        (fun _ _ m hm => absurd hm List.not_mem_nil)

end Handshake

/-! ## Messages behind the handshake -/

/-- Before every message of this kind stands one of the handshake. -/
def BehindHandshake (late : Body → Bool) (inbox : List Message) : Prop :=
  Behind (fun m => m.body.opensSession = true) (fun m => late m.body = true) inbox

section BehindHandshake

variable {late : Body → Bool} {inbox sent : List Message}

/-- What is added is read behind the message of the handshake, where there is one. -/
theorem behind_append
    (h : BehindHandshake late inbox)
    (hsent : (∀ m ∈ sent, late m.body = false) ∨ ∃ m ∈ inbox, m.body.opensSession = true) :
    BehindHandshake late (inbox ++ sent) := by
  refine Behind.append h (hsent.symm.imp_right fun hnone m hm => ?_)
  rw [hnone m hm]
  exact Bool.false_ne_true

/-- The first message is of another kind, unless it is of the handshake. -/
theorem behind_cons
    {m : Message}
    (h : BehindHandshake late (m :: inbox))
    (hplain : m.body.Plain) :
    late m.body = false ∧ BehindHandshake late inbox := by
  have hopens : ¬ m.body.opensSession = true := by
    rw [hplain]
    exact Bool.false_ne_true
  obtain ⟨hnot, hrest⟩ := Behind.of_cons h hopens
  exact ⟨(Bool.not_eq_true _).mp hnot, hrest⟩

end BehindHandshake

end SakuraNetwork

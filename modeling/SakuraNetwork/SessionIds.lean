import SakuraNetwork.Handshakes

/-!
# The ids of the sessions of a process

A client draws an id for a new session, the server draws another one, and the
complete id is made of both.  Any number of processes run the library and are
connected in any way; each draws its ids from one counter, for the sessions it
starts and for those it accepts.

* `Network`: processes, and the handshake messages between their sessions.
* `Ledger`: which id was drawn for which session, and where it occurs.
* `ids_distinct`: an id that is registered is not in use.
-/

namespace SakuraNetwork

open Lib

/-! ## Networks -/

/-- A session object of a process. -/
@[ext] structure Endpoint where
  process : Nat
  session : SessionRef
deriving DecidableEq

/-- Which session objects are connected: each client, made by `startSession`, with the
server that is made for its connection.  Both may belong to one process. -/
structure Wiring where
  peer : Endpoint → Endpoint
  isServer : Endpoint → Bool
  peer_peer : ∀ e, peer (peer e) = e
  isServer_peer : ∀ e, isServer (peer e) = !isServer e

/-- Processes, and the handshake messages on their way to a session. -/
structure Network where
  system : Nat → System
  incoming : Endpoint → List Message := fun _ => []

/-- A step of a network. -/
inductive NetworkAction where
  /-- The first handshake message on its way is processed; `rest` is received behind it. -/
  | deliver (e : Endpoint) (found : Memory) (rest : Bytes) (beyond : Memory)
  /-- Any other operation of a process. -/
  | perform (i : Nat) (a : Operation)

namespace Network

/-- The operations that are possible at any time.  Of what the peers send, only the
handshake messages decide the ids: every other frame may be received at any time. -/
def admits (w : Wiring) (i : Nat) : Operation → Bool
  | .accept s => w.isServer ⟨i, s⟩
  | .start s _ => !w.isServer ⟨i, s⟩
  | .receive _ buf =>
      match buf.sessionFrame with
      | some (.initStart ..) | some (.initReply ..) => false
      | _ => true
  | _ => true

/-- The process that makes the step, and its operation. -/
def operation (w : Wiring) (n : Network) : NetworkAction → Option (Nat × Operation)
  | .deliver e found rest beyond =>
      (n.incoming e).head?.map fun m =>
        (e.process, .receive e.session ⟨m.bytes found ++ rest, beyond⟩)
  | .perform i a => if admits w i a then some (i, a) else none

/-- The messages that are not processed by the step. -/
def left (n : Network) : NetworkAction → Endpoint → List Message
  | .deliver e _ _ _, e' => if e' = e then (n.incoming e').tail else n.incoming e'
  | .perform _ _, e' => n.incoming e'

/-- The state after an operation of a process: its handshake messages are on their way. -/
def next (cfg : Config) (w : Wiring) (n : Network) (action : NetworkAction) (i : Nat)
    (a : Operation) : Network where
  system := fun j => if j = i then (n.system i).after cfg a else n.system j
  incoming := fun e => n.left action e ++
    if (w.peer e).process = i then
      handshakes (w.peer e).session ((a.act cfg).run (n.system i).process).outputs
    else []

/-- Every process can draw another id without the 2^15-th one. -/
def DrawsFew (n : Network) : Prop :=
  ∀ i, (n.system i).process.sessionIdCounter.toNat + 1 < 2 ^ 15

end Network

/-- The runs of a network of processes. -/
def network (cfg : Config) (w : Wiring) : TransitionSystem Network NetworkAction where
  init := fun n =>
    (∀ i, (library cfg).init (n.system i) ∧ (n.system i).process.sessionIdCounter = 0) ∧
      ∀ e, n.incoming e = []
  step := fun n action =>
    match n.operation w action with
    | some (i, a) =>
        if a.enabled (n.system i) then some (n.next cfg w action i a) else none
    | none => none

/-- A step of a network is a possible operation of one process. -/
theorem network_step_cases
    {cfg : Config}
    {w : Wiring}
    {n n' : Network}
    {action : NetworkAction}
    (h : (network cfg w).step n action = some n') :
    ∃ i a, n.operation w action = some (i, a) ∧ a.enabled (n.system i) = true ∧
      n' = n.next cfg w action i a := by
  simp only [network] at h
  cases hop : n.operation w action with
  | none =>
      rw [hop] at h
      cases h
  | some op =>
      obtain ⟨i, a⟩ := op
      rw [hop] at h
      simp only [Option.ite_none_right_eq_some, Option.some.injEq] at h
      exact ⟨i, a, rfl, h.1, h.2.symm⟩

/-! ## The ledger of drawn ids -/

/-- The session is registered under an id in its process. -/
def Network.Registered (n : Network) (e : Endpoint) (id : UInt32) : Prop :=
  (n.system e.process).process.sessions.find id = some e.session

/-- A client and its server: their handshake messages are on their way one after the
other, and carry the ids that were drawn for the two. -/
structure Link (w : Wiring) (n : Network) (drawn : Endpoint → Nat) (e : Endpoint) : Prop where
  starts : ∀ m ∈ n.incoming (w.peer e), ∃ clientSessionId sessionIdentifier,
    m.body = .sessionInitStart clientSessionId sessionIdentifier ∧
      sessionIdentifier.length ≤ 64000 ∧ clientSessionId.toNat = drawn e
  replies : ∀ m ∈ n.incoming e, ∃ initialId completeSessionId sessionIdentifier,
    m.body = .sessionInitReply initialId completeSessionId sessionIdentifier ∧
      sessionIdentifier.length ≤ 64000 ∧
        completeSessionId.toNat = drawn e + 65536 * drawn (w.peer e)
  first : drawn (w.peer e) ≠ 0 → drawn e ≠ 0
  startOnce : (n.incoming (w.peer e)).length ≤ 1
  replyOnce : (n.incoming e).length ≤ 1
  started : n.incoming (w.peer e) ≠ [] → drawn e ≠ 0 ∧ drawn (w.peer e) = 0
  answered : n.incoming e ≠ [] → drawn e ≠ 0 ∧ drawn (w.peer e) ≠ 0
  client : ∀ id, n.Registered e id → drawn e ≠ 0 ∧ id.toNat % 65536 = drawn e
  provisional : ∀ id, n.Registered e id →
    id.toNat < 65536 ∨ n.incoming e = [] ∧ drawn (w.peer e) ≠ 0
  server : ∀ id, n.Registered (w.peer e) id →
    drawn (w.peer e) ≠ 0 ∧ id.toNat / 65536 = drawn (w.peer e)

/-- The ids that were drawn for the sessions, 0 where none was drawn. -/
structure Ledger (w : Wiring) (n : Network) (drawn : Endpoint → Nat) : Prop where
  link : ∀ e, w.isServer e = false → Link w n drawn e
  bounded : ∀ e, drawn e ≤ (n.system e.process).process.sessionIdCounter.toNat
  distinct : ∀ e e', e.process = e'.process → drawn e = drawn e' → drawn e ≠ 0 → e = e'
  fresh : ∀ e, (n.system e.process).stage e.session = .fresh → drawn e = 0

/-- What is registered less, is linked as before. -/
theorem Link.congr
    {w : Wiring}
    {n n' : Network}
    {drawn drawn' : Endpoint → Nat}
    {e : Endpoint}
    (h : Link w n drawn e)
    (hincoming : n'.incoming e = n.incoming e)
    (hincoming' : n'.incoming (w.peer e) = n.incoming (w.peer e))
    (hdrawn : drawn' e = drawn e)
    (hdrawn' : drawn' (w.peer e) = drawn (w.peer e))
    (hregistered : ∀ id, n'.Registered e id → n.Registered e id)
    (hregistered' : ∀ id, n'.Registered (w.peer e) id → n.Registered (w.peer e) id) :
    Link w n' drawn' e := by
  constructor
  · rw [hincoming', hdrawn]
    exact h.starts
  · rw [hincoming, hdrawn, hdrawn']
    exact h.replies
  · rw [hdrawn, hdrawn']
    exact h.first
  · rw [hincoming']
    exact h.startOnce
  · rw [hincoming]
    exact h.replyOnce
  · rw [hincoming', hdrawn, hdrawn']
    exact h.started
  · rw [hincoming, hdrawn, hdrawn']
    exact h.answered
  · intro id hid
    rw [hdrawn]
    exact h.client id (hregistered id hid)
  · intro id hid
    rw [hincoming, hdrawn']
    exact h.provisional id (hregistered id hid)
  · intro id hid
    rw [hdrawn']
    exact h.server id (hregistered' id hid)

section Next

variable {cfg : Config} {w : Wiring} {n : Network} {action : NetworkAction} {i : Nat}
  {a : Operation}

theorem Network.system_next_same :
    (n.next cfg w action i a).system i = (n.system i).after cfg a :=
  if_pos rfl

theorem Network.system_next_other
    {j : Nat}
    (h : j ≠ i) :
    (n.next cfg w action i a).system j = n.system j :=
  if_neg h

/-- A session is registered after a step if it was before, or if the step enters it. -/
theorem Network.registered_next
    {e : Endpoint}
    {id : UInt32}
    (h : (n.next cfg w action i a).Registered e id) :
    n.Registered e id ∨ e.process = i ∧ a.session = some e.session ∧
      a.entryId (n.system i).process = some id := by
  unfold Network.Registered at h ⊢
  by_cases hi : e.process = i
  · rw [hi, system_next_same] at h
    rcases Operation.find_act cfg h with hbefore | hentered
    · rw [hi]
      exact Or.inl hbefore
    · exact Or.inr ⟨hi, hentered⟩
  · rw [system_next_other hi] at h
    exact Or.inl h

/-- The messages on their way to other sessions stay the same, if those are of other
sessions than the one that makes the step. -/
theorem Network.incoming_next
    {e : Endpoint}
    (hleft : n.left action e = n.incoming e)
    (hsends : (w.peer e).process = i →
      handshakes (w.peer e).session ((a.act cfg).run (n.system i).process).outputs = []) :
    (n.next cfg w action i a).incoming e = n.incoming e := by
  simp only [Network.next, hleft]
  split
  · rename_i hi
    rw [hsends hi, List.append_nil]
  · exact List.append_nil _

/-- A session that does not exist after a step did not exist before. -/
theorem Network.fresh_next
    (henabled : a.enabled (n.system i) = true)
    {e : Endpoint}
    (h : ((n.next cfg w action i a).system e.process).stage e.session = .fresh) :
    (n.system e.process).stage e.session = .fresh := by
  by_cases hi : e.process = i
  · rw [hi, system_next_same] at h
    rw [hi]
    by_cases hsession : a.session = some e.session
    · rw [System.stage_after_self cfg _ hsession] at h
      exact (Operation.life_of_fresh henabled hsession h).1
    · rwa [System.stage_after_other cfg _ hsession] at h
  · rwa [system_next_other hi] at h

/-- The counter of a process never decreases, and a drawn id is a new one. -/
theorem Network.sessionIdCounter_next
    (hfew : n.DrawsFew)
    (j : Nat) :
    ((n.next cfg w action i a).system j).process.sessionIdCounter.toNat =
      (n.system j).process.sessionIdCounter.toNat + if j = i ∧ a.draws = true then 1 else 0 := by
  have hcounter := a.sessionIdCounter_act cfg (n.system i).process
  have hroom := hfew i
  by_cases hj : j = i
  · subst hj
    rw [system_next_same]
    have hafter : ((n.system j).after cfg a).process.sessionIdCounter = _ := hcounter
    rw [hafter]
    cases a.draws with
    | true =>
        have hone : (1 : UInt16).toNat = 1 := rfl
        simp only [cond_true, and_self, if_true, UInt16.toNat_add, hone]
        omega
    | false =>
        simp
  · rw [system_next_other hj]
    simp [hj]

/-- A step changes the stage of its own session only. -/
theorem Network.stage_next_other
    {e : Endpoint}
    (h : a.session ≠ some e.session) :
    ((n.next cfg w action i a).system e.process).stage e.session =
      (n.system e.process).stage e.session := by
  by_cases hi : e.process = i
  · rw [hi, system_next_same, System.stage_after_other cfg _ h]
  · rw [system_next_other hi]

/-- The link of sessions that have no part in a step. -/
theorem Link.other
    {drawn drawn' : Endpoint → Nat}
    {e : Endpoint}
    (h : Link w n drawn e)
    (hself : ¬ (e.process = i ∧ a.session = some e.session))
    (hpeer : ¬ ((w.peer e).process = i ∧ a.session = some (w.peer e).session))
    (hleft : n.left action e = n.incoming e)
    (hleft' : n.left action (w.peer e) = n.incoming (w.peer e))
    (hdrawn : drawn' e = drawn e)
    (hdrawn' : drawn' (w.peer e) = drawn (w.peer e)) :
    Link w (n.next cfg w action i a) drawn' e := by
  refine h.congr ?_ ?_ hdrawn hdrawn' ?_ ?_
  · exact Network.incoming_next hleft fun hi => handshakes_other cfg fun hs => hpeer ⟨hi, hs⟩
  · refine Network.incoming_next hleft' fun hi => ?_
    rw [w.peer_peer] at hi ⊢
    exact handshakes_other cfg fun hs => hself ⟨hi, hs⟩
  · intro id hid
    rcases Network.registered_next hid with hbefore | ⟨hi, hs, _⟩
    · exact hbefore
    · exact absurd ⟨hi, hs⟩ hself
  · intro id hid
    rcases Network.registered_next hid with hbefore | ⟨hi, hs, _⟩
    · exact hbefore
    · exact absurd ⟨hi, hs⟩ hpeer

/-- The counter of a process does not decrease. -/
theorem Ledger.bounded_next
    {drawn : Endpoint → Nat}
    (h : Ledger w n drawn)
    (hfew : n.DrawsFew)
    (e : Endpoint) :
    drawn e ≤ ((n.next cfg w action i a).system e.process).process.sessionIdCounter.toNat := by
  rw [Network.sessionIdCounter_next hfew]
  exact Nat.le_add_right_of_le (h.bounded e)

/-- A step that processes no handshake message and enters no session. -/
theorem Ledger.quiet
    {drawn : Endpoint → Nat}
    (h : Ledger w n drawn)
    (hfew : n.DrawsFew)
    (henabled : a.enabled (n.system i) = true)
    (hleft : ∀ e, n.left action e = n.incoming e)
    (hentry : a.entryId (n.system i).process = none) :
    Ledger w (n.next cfg w action i a) drawn := by
  have hsent : ∀ r, handshakes r ((a.act cfg).run (n.system i).process).outputs = [] :=
    fun r => handshakes_act cfg (fun _ => hentry) r
  have hregistered : ∀ e id, (n.next cfg w action i a).Registered e id → n.Registered e id := by
    intro e id hid
    rcases Network.registered_next hid with hbefore | ⟨_, _, hentered⟩
    · exact hbefore
    · rw [hentry] at hentered
      cases hentered
  constructor
  · intro e he
    exact (h.link e he).congr (Network.incoming_next (hleft e) fun _ => hsent _)
      (Network.incoming_next (hleft _) fun _ => hsent _) rfl rfl (hregistered e) (hregistered _)
  · exact fun e => h.bounded_next hfew e
  · exact h.distinct
  · intro e hfresh
    exact h.fresh e (Network.fresh_next henabled hfresh)

/-- An id is drawn for a session that had none. -/
theorem Ledger.draw
    {drawn : Endpoint → Nat}
    (h : Ledger w n drawn)
    (hfew : n.DrawsFew)
    (henabled : a.enabled (n.system i) = true)
    {s : SessionRef}
    (hdraws : a.draws = true)
    (hexists : ((n.next cfg w action i a).system i).stage s ≠ .fresh)
    (hlink : ∀ e, w.isServer e = false → Link w (n.next cfg w action i a)
      (Function.update drawn ⟨i, s⟩ ((n.system i).process.sessionIdCounter.toNat + 1)) e) :
    Ledger w (n.next cfg w action i a)
      (Function.update drawn ⟨i, s⟩ ((n.system i).process.sessionIdCounter.toNat + 1)) := by
  have hnew : ∀ e, e.process = i →
      drawn e ≠ (n.system i).process.sessionIdCounter.toNat + 1 := by
    rintro e rfl
    have hle := h.bounded e
    omega
  constructor
  · exact hlink
  · intro e
    by_cases he : e = ⟨i, s⟩
    · subst he
      rw [Function.update_self, Network.sessionIdCounter_next hfew, if_pos ⟨rfl, hdraws⟩]
    · rw [Function.update_of_ne he]
      exact h.bounded_next hfew e
  · intro e e' hprocess heq hzero
    by_cases he : e = ⟨i, s⟩
    · by_cases he' : e' = ⟨i, s⟩
      · exact he.trans he'.symm
      · rw [he, Function.update_self, Function.update_of_ne he'] at heq
        rw [he] at hprocess
        exact absurd heq.symm (hnew e' hprocess.symm)
    · by_cases he' : e' = ⟨i, s⟩
      · rw [he', Function.update_self, Function.update_of_ne he] at heq
        rw [he'] at hprocess
        exact absurd heq (hnew e hprocess)
      · rw [Function.update_of_ne he] at heq hzero
        rw [Function.update_of_ne he'] at heq
        exact h.distinct e e' hprocess heq hzero
  · intro e hfresh
    by_cases he : e = ⟨i, s⟩
    · subst he
      exact absurd hfresh hexists
    · rw [Function.update_of_ne he]
      exact h.fresh e (Network.fresh_next henabled hfresh)

/-- Sessions without an id have no messages on their way and are not registered. -/
theorem Link.of_not_drawn
    {drawn : Endpoint → Nat}
    {e : Endpoint}
    (h : Link w n drawn e)
    (hdrawn : drawn e = 0) :
    n.incoming (w.peer e) = [] ∧ n.incoming e = [] ∧ drawn (w.peer e) = 0 ∧
      ∀ id, ¬ n.Registered e id := by
  refine ⟨?_, ?_, ?_, ?_⟩
  · by_contra hne
    exact (h.started hne).1 hdrawn
  · by_contra hne
    exact (h.answered hne).1 hdrawn
  · by_contra hne
    exact h.first hne hdrawn
  · intro id hid
    exact (h.client id hid).1 hdrawn

/-- A client and its server are different sessions. -/
theorem Wiring.peer_ne (w : Wiring) (e : Endpoint) : w.peer e ≠ e := by
  intro heq
  have hroles := w.isServer_peer e
  rw [heq] at hroles
  cases hserver : w.isServer e with
  | true =>
      rw [hserver] at hroles
      cases hroles
  | false =>
      rw [hserver] at hroles
      cases hroles

/-- The messages to a session after its peer made a step. -/
theorem Network.incoming_next_peer
    {e : Endpoint}
    (hi : (w.peer e).process = i) :
    (n.next cfg w action i a).incoming e = n.left action e ++
      handshakes (w.peer e).session ((a.act cfg).run (n.system i).process).outputs := by
  simp only [Network.next, hi, if_true]

/-- A session sends nothing to itself. -/
theorem Network.incoming_next_self
    {e : Endpoint}
    (hi : e.process = i)
    (hsession : a.session = some e.session) :
    (n.next cfg w action i a).incoming e = n.left action e := by
  simp only [Network.next]
  split
  · rename_i hpeer
    rw [handshakes_other, List.append_nil]
    intro hs
    rw [hsession, Option.some.injEq] at hs
    exact w.peer_ne e (Endpoint.ext (hpeer.trans hi.symm) hs.symm)
  · exact List.append_nil _

/-- A client starts: its id is drawn, and its init start message is on its way. -/
theorem Link.start
    {drawn : Endpoint → Nat}
    {e : Endpoint}
    (h : Link w n drawn e)
    {sessionIdentifier : Bytes}
    {newId : Nat}
    (hid : ((n.system e.process).process.sessionIdCounter + 1).toUInt32.toNat = newId)
    (hzero : newId ≠ 0)
    (hsmall : newId < 65536)
    (hnone : drawn e = 0)
    (hlong : sessionIdentifier.length ≤ 64000)
    (hconnectable : ((n.system e.process).process.session e.session).connectable = true)
    (hleft : ∀ e', n.left action e' = n.incoming e') :
    Link w (n.next cfg w action e.process (.start e.session sessionIdentifier))
      (Function.update drawn e newId) e := by
  obtain ⟨hpeer, hself, hfirst, hregistered⟩ := h.of_not_drawn hnone
  have hincoming : (n.next cfg w action e.process
      (.start e.session sessionIdentifier)).incoming e = [] := by
    rw [Network.incoming_next_self rfl rfl, hleft e]
    exact hself
  have hsent : (n.next cfg w action e.process
      (.start e.session sessionIdentifier)).incoming (w.peer e) =
        handshakes e.session (((Operation.start e.session sessionIdentifier).act cfg).run
          (n.system e.process).process).outputs := by
    rw [Network.incoming_next_peer (by rw [w.peer_peer]), w.peer_peer, hleft, hpeer,
      List.nil_append]
  rw [handshakes_start cfg hlong hconnectable] at hsent
  have hentered : ∀ id, (n.next cfg w action e.process
      (.start e.session sessionIdentifier)).Registered e id → id.toNat = newId := by
    intro id hreg
    rcases Network.registered_next hreg with hbefore | ⟨_, _, hentry⟩
    · exact absurd hbefore (hregistered id)
    · rw [Operation.entryId, if_pos ⟨hlong, hconnectable⟩] at hentry
      rw [← Option.some.inj hentry]
      exact hid
  have hne := w.peer_ne e
  constructor
  · intro m hm
    rw [hsent] at hm
    split at hm
    · rw [List.mem_singleton.mp hm, Function.update_self]
      exact ⟨_, _, rfl, hlong, hid⟩
    · cases hm
  · intro m hm
    rw [hincoming] at hm
    cases hm
  · intro _
    rw [Function.update_self]
    exact hzero
  · rw [hsent]
    split <;> simp
  · rw [hincoming]
    exact Nat.zero_le 1
  · intro _
    rw [Function.update_self, Function.update_of_ne hne]
    exact ⟨hzero, hfirst⟩
  · intro hnil
    exact absurd hincoming hnil
  · intro id hreg
    rw [Function.update_self, hentered id hreg]
    exact ⟨hzero, Nat.mod_eq_of_lt hsmall⟩
  · intro id hreg
    rw [hentered id hreg]
    exact Or.inl hsmall
  · intro id hreg
    rw [Function.update_of_ne hne]
    rcases Network.registered_next hreg with hbefore | ⟨hi, hs, _⟩
    · exact h.server id hbefore
    · exact absurd (Endpoint.ext hi (Option.some.inj hs).symm) hne

/-- The link of a client that has no part in a step. -/
theorem Link.unmoved
    {drawn : Endpoint → Nat}
    {e : Endpoint}
    (h : Link w n drawn e)
    {s : SessionRef}
    (hsession : a.session = some s)
    (hself : e ≠ ⟨i, s⟩)
    (hpeer : w.peer e ≠ ⟨i, s⟩)
    (hleft : ∀ e', e' ≠ ⟨i, s⟩ → n.left action e' = n.incoming e')
    (newId : Nat) :
    Link w (n.next cfg w action i a) (Function.update drawn ⟨i, s⟩ newId) e := by
  refine h.other ?_ ?_ (hleft e hself) (hleft _ hpeer) (Function.update_of_ne hself _ _)
    (Function.update_of_ne hpeer _ _)
  · rintro ⟨hi, hs⟩
    exact hself (Endpoint.ext hi (Option.some.inj (hs.symm.trans hsession)))
  · rintro ⟨hi, hs⟩
    exact hpeer (Endpoint.ext hi (Option.some.inj (hs.symm.trans hsession)))

theorem Ledger.start
    {drawn : Endpoint → Nat}
    (h : Ledger w n drawn)
    (hfew : n.DrawsFew)
    {s : SessionRef}
    {sessionIdentifier : Bytes}
    (hclient : w.isServer ⟨i, s⟩ = false)
    (henabled : (Operation.start s sessionIdentifier).enabled (n.system i) = true)
    (hlong : sessionIdentifier.length ≤ 64000)
    (hconnectable : ((n.system i).process.session s).connectable = true)
    (hleft : ∀ e, n.left action e = n.incoming e) :
    Ledger w (n.next cfg w action i (.start s sessionIdentifier))
      (Function.update drawn ⟨i, s⟩ ((n.system i).process.sessionIdCounter.toNat + 1)) := by
  have hroom := hfew i
  have hdraws : (Operation.start s sessionIdentifier).draws = true := decide_eq_true hlong
  have hid : ((n.system i).process.sessionIdCounter + 1).toUInt32.toNat =
      (n.system i).process.sessionIdCounter.toNat + 1 := by
    have hone : (1 : UInt16).toNat = 1 := rfl
    rw [UInt16.toNat_toUInt32, UInt16.toNat_add, hone]
    omega
  have hnone : drawn ⟨i, s⟩ = 0 := h.fresh ⟨i, s⟩ (of_decide_eq_true henabled)
  refine h.draw hfew henabled hdraws ?_ ?_
  · rw [Network.system_next_same, System.stage_after_self cfg _ rfl]
    simp [Operation.nextStage, hconnectable, Nat.not_lt.mpr hlong]
  · intro e he
    by_cases hes : e = ⟨i, s⟩
    · subst hes
      exact (h.link _ he).start hid (by omega) (by omega) hnone hlong hconnectable hleft
    · refine (h.link e he).unmoved rfl hes ?_ (fun e' _ => hleft e') _
      intro heq
      have hroles := w.isServer_peer e
      rw [heq, hclient, he] at hroles
      cases hroles

/-- A server answers: its id is drawn, and its init reply message is on its way. -/
theorem Link.answer
    {drawn : Endpoint → Nat}
    {e : Endpoint}
    (h : Link w n drawn e)
    {buf : RingBuffer}
    {m : Message}
    {clientSessionId : UInt32}
    {sessionIdentifier : Bytes}
    {newId : Nat}
    (hid : ((n.system (w.peer e).process).process.sessionIdCounter + 1).toNat = newId)
    (hzero : newId ≠ 0)
    (hsmall : drawn e < 65536)
    (hincoming : n.incoming (w.peer e) = [m])
    (hframe : buf.sessionFrame = some (.initStart clientSessionId sessionIdentifier))
    (hlong : sessionIdentifier.length ≤ 64000)
    (hclient : clientSessionId.toNat = drawn e)
    (hleft : n.left action e = n.incoming e)
    (hleft' : n.left action (w.peer e) = []) :
    Link w (n.next cfg w action (w.peer e).process (.receive (w.peer e).session buf))
      (Function.update drawn (w.peer e) newId) e := by
  obtain ⟨hstarted, hnone⟩ := h.started (by rw [hincoming]; exact List.cons_ne_nil m [])
  have hempty : n.incoming e = [] := by
    by_contra hne
    exact (h.answered hne).2 hnone
  have hne := w.peer_ne e
  have hcomplete : (completeSessionId clientSessionId
      ((n.system (w.peer e).process).process.sessionIdCounter + 1)).toNat =
        drawn e + 65536 * newId := by
    rw [toNat_completeSessionId (by omega), hid, hclient]
  have hself : (n.next cfg w action (w.peer e).process
      (.receive (w.peer e).session buf)).incoming (w.peer e) = [] := by
    rw [Network.incoming_next_self rfl rfl, hleft']
  obtain ⟨messageId, hsent⟩ := handshakes_receive (s := (w.peer e).session) cfg hframe
    (n.system (w.peer e).process).process (w.peer e).session
  have hreply : (n.next cfg w action (w.peer e).process
      (.receive (w.peer e).session buf)).incoming e = _ :=
    Network.incoming_next_peer rfl
  rw [hleft, hempty, List.nil_append, hsent] at hreply
  constructor
  · intro m' hm'
    rw [hself] at hm'
    cases hm'
  · intro m' hm'
    rw [hreply] at hm'
    split at hm'
    · rw [List.mem_singleton.mp hm', Function.update_self, Function.update_of_ne hne.symm]
      exact ⟨_, _, _, rfl, hlong, hcomplete⟩
    · cases hm'
  · intro _
    rw [Function.update_of_ne hne.symm]
    exact hstarted
  · rw [hself]
    exact Nat.zero_le 1
  · rw [hreply]
    split <;> simp
  · intro hnil
    exact absurd hself hnil
  · intro _
    rw [Function.update_self, Function.update_of_ne hne.symm]
    exact ⟨hstarted, hzero⟩
  · intro id hreg
    rw [Function.update_of_ne hne.symm]
    rcases Network.registered_next hreg with hbefore | ⟨hi, hs, _⟩
    · exact h.client id hbefore
    · exact absurd (Endpoint.ext hi (Option.some.inj hs).symm) hne.symm
  · intro id hreg
    rcases Network.registered_next hreg with hbefore | ⟨hi, hs, _⟩
    · rcases h.provisional id hbefore with hsmall' | ⟨_, hdrawn⟩
      · exact Or.inl hsmall'
      · exact absurd hnone hdrawn
    · exact absurd (Endpoint.ext hi (Option.some.inj hs).symm) hne.symm
  · intro id hreg
    rw [Function.update_self]
    rcases Network.registered_next hreg with hbefore | ⟨_, _, hentry⟩
    · exact absurd hnone (h.server id hbefore).1
    · simp only [Operation.entryId, hframe, Option.some.injEq] at hentry
      rw [← hentry, hcomplete]
      refine ⟨hzero, ?_⟩
      omega

/-- A client completes its id. -/
theorem Link.complete
    {drawn : Endpoint → Nat}
    {e : Endpoint}
    (h : Link w n drawn e)
    {buf : RingBuffer}
    {m : Message}
    {initialId fullId : UInt32}
    {sessionIdentifier : Bytes}
    (hsmall : drawn e < 65536)
    (hincoming : n.incoming e = [m])
    (hframe : buf.sessionFrame = some (.initReply initialId fullId sessionIdentifier))
    (hfull : fullId.toNat = drawn e + 65536 * drawn (w.peer e))
    (hleft : n.left action e = [])
    (hleft' : n.left action (w.peer e) = n.incoming (w.peer e)) :
    Link w (n.next cfg w action e.process (.receive e.session buf)) drawn e := by
  obtain ⟨hstarted, hanswered⟩ := h.answered (by rw [hincoming]; exact List.cons_ne_nil m [])
  have hne := w.peer_ne e
  have hself : (n.next cfg w action e.process (.receive e.session buf)).incoming e = [] := by
    rw [Network.incoming_next_self rfl rfl, hleft]
  have hdraws : (Operation.receive e.session buf).draws = false := by
    simp [Operation.draws, hframe]
  have hpeer : (n.next cfg w action e.process (.receive e.session buf)).incoming (w.peer e) =
      n.incoming (w.peer e) := by
    refine Network.incoming_next hleft' fun _ => handshakes_act cfg (fun hd => ?_) _
    rw [hdraws] at hd
    cases hd
  constructor
  · rw [hpeer]
    exact h.starts
  · intro m' hm'
    rw [hself] at hm'
    cases hm'
  · exact h.first
  · rw [hpeer]
    exact h.startOnce
  · rw [hself]
    exact Nat.zero_le 1
  · rw [hpeer]
    exact h.started
  · intro hnil
    exact absurd hself hnil
  · intro id hreg
    rcases Network.registered_next hreg with hbefore | ⟨_, _, hentry⟩
    · exact h.client id hbefore
    · simp only [Operation.entryId, hframe, Option.some.injEq] at hentry
      rw [← hentry, hfull]
      refine ⟨hstarted, ?_⟩
      omega
  · intro id _
    exact Or.inr ⟨hself, hanswered⟩
  · intro id hreg
    rcases Network.registered_next hreg with hbefore | ⟨hi, hs, _⟩
    · exact h.server id hbefore
    · exact absurd (Endpoint.ext hi (Option.some.inj hs).symm) hne

end Next

/-- The ids that are drawn fit the halves of a complete id. -/
theorem Ledger.drawn_lt
    {w : Wiring}
    {n : Network}
    {drawn : Endpoint → Nat}
    (h : Ledger w n drawn)
    (hfew : n.DrawsFew)
    (e : Endpoint) :
    drawn e < 2 ^ 15 := by
  have hroom := hfew e.process
  have hle := h.bounded e
  omega

/-- The step of a network: it is none of the handshake, a client starts, a server answers,
or a client completes its id. -/
inductive NetworkAction.Kind (w : Wiring) (n : Network) (action : NetworkAction) :
    Nat → Operation → Prop
  | quiet {i : Nat} {a : Operation}
      (hleft : ∀ e, n.left action e = n.incoming e)
      (hentry : a.entryId (n.system i).process = none) :
      Kind w n action i a
  | start {e : Endpoint} {sessionIdentifier : Bytes}
      (hclient : w.isServer e = false)
      (hlong : sessionIdentifier.length ≤ 64000)
      (hconnectable : ((n.system e.process).process.session e.session).connectable = true)
      (hleft : ∀ e', n.left action e' = n.incoming e') :
      Kind w n action e.process (.start e.session sessionIdentifier)
  | answer {e : Endpoint} {buf : RingBuffer} {m : Message} {clientSessionId : UInt32}
      {sessionIdentifier : Bytes}
      (hserver : w.isServer e = true)
      (hincoming : n.incoming e = [m])
      (hbody : m.body = .sessionInitStart clientSessionId sessionIdentifier)
      (hframe : buf.sessionFrame = some (.initStart clientSessionId sessionIdentifier))
      (hleft : n.left action e = [])
      (hother : ∀ e', e' ≠ e → n.left action e' = n.incoming e') :
      Kind w n action e.process (.receive e.session buf)
  | complete {e : Endpoint} {buf : RingBuffer} {m : Message} {initialId fullId : UInt32}
      {sessionIdentifier : Bytes}
      (hclient : w.isServer e = false)
      (hincoming : n.incoming e = [m])
      (hbody : m.body = .sessionInitReply initialId fullId sessionIdentifier)
      (hframe : buf.sessionFrame = some (.initReply initialId fullId sessionIdentifier))
      (hleft : n.left action e = [])
      (hother : ∀ e', e' ≠ e → n.left action e' = n.incoming e') :
      Kind w n action e.process (.receive e.session buf)

/-- A list with an element and at most one is a singleton. -/
theorem eq_singleton_of_length {α : Type} {l : List α} {x : α} {rest : List α}
    (h : l = x :: rest)
    (hlength : l.length ≤ 1) :
    l = [x] := by
  subst h
  simpa using hlength

section Deliver

variable {w : Wiring} {n : Network} {drawn : Endpoint → Nat}

theorem Network.left_deliver_self
    {e : Endpoint}
    {m : Message}
    (h : n.incoming e = [m])
    (found : Memory)
    (rest : Bytes)
    (beyond : Memory) :
    n.left (.deliver e found rest beyond) e = [] := by
  simp [Network.left, h]

theorem Network.left_deliver_other
    {e e' : Endpoint}
    (h : e' ≠ e)
    (found : Memory)
    (rest : Bytes)
    (beyond : Memory) :
    n.left (.deliver e found rest beyond) e' = n.incoming e' :=
  if_neg h

/-- A handshake message is processed by a server that answers, or by a client that
completes its id. -/
theorem Ledger.kind_deliver
    (h : Ledger w n drawn)
    {e : Endpoint}
    {m : Message}
    (hhead : (n.incoming e).head? = some m)
    (found : Memory)
    (rest : Bytes)
    (beyond : Memory) :
    NetworkAction.Kind w n (.deliver e found rest beyond) e.process
      (.receive e.session ⟨m.bytes found ++ rest, beyond⟩) := by
  obtain ⟨tail, htail⟩ := List.head?_eq_some_iff.mp hhead
  have hmem : m ∈ n.incoming e := by
    rw [htail]
    exact List.mem_cons_self
  cases hrole : w.isServer e with
  | true =>
      have hclient : w.isServer (w.peer e) = false := by
        rw [w.isServer_peer, hrole]
        rfl
      have hlink := h.link _ hclient
      have hstarts := hlink.starts
      have honce := hlink.startOnce
      rw [w.peer_peer] at hstarts honce
      obtain ⟨clientSessionId, sessionIdentifier, hbody, hlong, _⟩ := hstarts m hmem
      have hsize : m.body.Sendable Config.default := by
        rw [hbody]
        exact hlong
      have hincoming := eq_singleton_of_length htail honce
      refine .answer hrole hincoming hbody ?_ (Network.left_deliver_self hincoming _ _ _)
        fun e' he' => Network.left_deliver_other he' _ _ _
      rw [sessionFrame_bytes hsize, hbody]
      rfl
  | false =>
      have hlink := h.link _ hrole
      obtain ⟨initialId, fullId, sessionIdentifier, hbody, hlong, _⟩ := hlink.replies m hmem
      have hsize : m.body.Sendable Config.default := by
        rw [hbody]
        exact hlong
      have hincoming := eq_singleton_of_length htail hlink.replyOnce
      refine .complete hrole hincoming hbody ?_ (Network.left_deliver_self hincoming _ _ _)
        fun e' he' => Network.left_deliver_other he' _ _ _
      rw [sessionFrame_bytes hsize, hbody]
      rfl

/-- Any other operation is a start of a client, or none of the handshake. -/
theorem Network.kind_perform
    {i : Nat}
    {a : Operation}
    (hadmits : Network.admits w i a = true) :
    NetworkAction.Kind w n (.perform i a) i a := by
  cases hentry : a.entryId (n.system i).process with
  | none =>
      exact .quiet (fun _ => rfl) hentry
  | some id =>
      cases a with
      | start s sessionIdentifier =>
          simp only [Operation.entryId, Option.ite_none_right_eq_some] at hentry
          have hclient : w.isServer ⟨i, s⟩ = false := by
            simpa [Network.admits] using hadmits
          exact .start (e := ⟨i, s⟩) hclient hentry.1.1 hentry.1.2 fun _ => rfl
      | receive s buf =>
          simp only [Operation.entryId] at hentry
          simp only [Network.admits] at hadmits
          cases hframe : buf.sessionFrame with
          | none =>
              rw [hframe] at hentry
              cases hentry
          | some f =>
              rw [hframe] at hentry hadmits
              cases f with
              | initStart clientSessionId sessionIdentifier =>
                  cases hadmits
              | initReply initialId fullId sessionIdentifier =>
                  cases hadmits
              | closeStart sessionId =>
                  cases hentry
              | closeReply sessionId =>
                  cases hentry
      | _ =>
          cases hentry

theorem Ledger.kind
    (h : Ledger w n drawn)
    {action : NetworkAction}
    {i : Nat}
    {a : Operation}
    (hop : n.operation w action = some (i, a)) :
    NetworkAction.Kind w n action i a := by
  cases action with
  | deliver e found rest beyond =>
      simp only [Network.operation, Option.map_eq_some_iff, Prod.mk.injEq] at hop
      obtain ⟨m, hhead, rfl, rfl⟩ := hop
      exact h.kind_deliver hhead found rest beyond
  | perform j b =>
      simp only [Network.operation, Option.ite_none_right_eq_some, Option.some.injEq,
        Prod.mk.injEq] at hop
      obtain ⟨hadmits, rfl, rfl⟩ := hop
      exact Network.kind_perform hadmits

/-- A session with messages on their way and no part in the handshake of another one. -/
theorem Wiring.peer_ne_of_role
    (w : Wiring)
    {e e' : Endpoint}
    (h : w.isServer e = w.isServer e') :
    w.peer e ≠ e' := by
  intro heq
  have hroles := w.isServer_peer e
  rw [heq, h] at hroles
  cases hserver : w.isServer e' with
  | true =>
      rw [hserver] at hroles
      cases hroles
  | false =>
      rw [hserver] at hroles
      cases hroles

/-- Every step keeps the ledger. -/
theorem Ledger.step
    {cfg : Config}
    (h : Ledger w n drawn)
    (hfew : n.DrawsFew)
    {action : NetworkAction}
    {n' : Network}
    (hstep : (network cfg w).step n action = some n') :
    ∃ drawn', Ledger w n' drawn' := by
  obtain ⟨i, a, hop, henabled, rfl⟩ := network_step_cases hstep
  cases h.kind hop with
  | quiet hleft hentry =>
      exact ⟨_, h.quiet hfew henabled hleft hentry⟩
  | start hclient hlong hconnectable hleft =>
      exact ⟨_, h.start hfew hclient henabled hlong hconnectable hleft⟩
  | @answer e buf m clientSessionId sessionIdentifier hserver hincoming hbody hframe hleft hother =>
      obtain ⟨d, rfl⟩ : ∃ d, e = w.peer d := ⟨w.peer e, (w.peer_peer e).symm⟩
      have hclient : w.isServer d = false := by
        simpa [w.isServer_peer] using hserver
      have hlink := h.link d hclient
      have hroom := hfew (w.peer d).process
      have hsmall := h.drawn_lt hfew d
      have hmem : m ∈ n.incoming (w.peer d) := by
        rw [hincoming]
        exact List.mem_singleton.mpr rfl
      obtain ⟨id, identifier, hstart, hlong, hid⟩ := hlink.starts m hmem
      rw [hbody] at hstart
      cases hstart
      have hnewId : ((n.system (w.peer d).process).process.sessionIdCounter + 1).toNat =
          (n.system (w.peer d).process).process.sessionIdCounter.toNat + 1 := by
        have hone : (1 : UInt16).toNat = 1 := rfl
        rw [UInt16.toNat_add, hone]
        omega
      refine ⟨_, h.draw (s := (w.peer d).session) hfew henabled
        (by simp [Operation.draws, hframe]) ?_ ?_⟩
      · rw [Network.system_next_same, System.stage_after_self cfg _ rfl]
        intro hfresh
        have hexists : ((n.system (w.peer d).process).stage (w.peer d).session).Exists :=
          of_decide_eq_true henabled
        have hstage : (n.system (w.peer d).process).stage (w.peer d).session = .fresh := hfresh
        rw [hstage] at hexists
        rcases hexists with hstarting | halive
        · cases hstarting
        · cases halive
      · intro e he
        by_cases hed : e = d
        · subst hed
          exact hlink.answer hnewId (by omega) (by omega) hincoming hframe hlong hid
            (hother e (w.peer_ne e).symm) hleft
        · refine (h.link e he).unmoved rfl ?_ ?_ hother _
          · rintro rfl
            rw [he] at hserver
            cases hserver
          · intro heq
            have hsame := congrArg w.peer heq
            rw [w.peer_peer] at hsame
            exact hed (hsame.trans (w.peer_peer d))
  | @complete e buf m initialId fullId sessionIdentifier hclient hincoming hbody hframe hleft
      hother =>
      have hlink := h.link e hclient
      have hsmall := h.drawn_lt hfew e
      have hmem : m ∈ n.incoming e := by
        rw [hincoming]
        exact List.mem_singleton.mpr rfl
      obtain ⟨initial, full, identifier, hreply, _, hfull⟩ := hlink.replies m hmem
      rw [hbody] at hreply
      cases hreply
      refine ⟨drawn, ?_, fun e' => h.bounded_next hfew e', h.distinct, ?_⟩
      · intro e' he'
        by_cases hee : e' = e
        · subst hee
          exact hlink.complete (by omega) hincoming hframe hfull hleft
            (hother _ (w.peer_ne e'))
        · have hpeer := w.peer_ne_of_role (he'.trans hclient.symm)
          refine (h.link e' he').other ?_ ?_ (hother e' hee) (hother _ hpeer) rfl rfl
          · rintro ⟨hi, hs⟩
            exact hee (Endpoint.ext hi (Option.some.inj hs).symm)
          · rintro ⟨hi, hs⟩
            exact hpeer (Endpoint.ext hi (Option.some.inj hs).symm)
      · intro e' hfresh
        exact h.fresh e' (Network.fresh_next henabled hfresh)

end Deliver

/-- Nothing is drawn at the start. -/
theorem ledger_of_init
    {cfg : Config}
    {w : Wiring}
    {n : Network}
    (h : (network cfg w).init n) :
    Ledger w n (fun _ => 0) := by
  obtain ⟨hsystems, hincoming⟩ := h
  have hnone : ∀ e id, ¬ n.Registered e id := by
    intro e id hreg
    have hempty := (hsystems e.process).1.1
    unfold Network.Registered at hreg
    rw [hempty, OrderedMap.find_empty] at hreg
    cases hreg
  constructor
  · intro e _
    constructor
    · intro m hm
      rw [hincoming] at hm
      cases hm
    · intro m hm
      rw [hincoming] at hm
      cases hm
    · exact id
    · rw [hincoming]
      exact Nat.zero_le 1
    · rw [hincoming]
      exact Nat.zero_le 1
    · intro hne
      exact absurd (hincoming _) hne
    · intro hne
      exact absurd (hincoming _) hne
    · intro id hreg
      exact absurd hreg (hnone e id)
    · intro id hreg
      exact absurd hreg (hnone e id)
    · intro id hreg
      exact absurd hreg (hnone _ id)
  · exact fun _ => Nat.zero_le _
  · intro e e' _ _ hzero
    exact absurd rfl hzero
  · exact fun _ _ => rfl

/-! ## Unused ids -/

/-- The step enters no id that is registered for a session of the other role: the process
is not at the same time a client and a server of sessions with the same two halves. -/
def NetworkAction.KeepsApart (w : Wiring) (n : Network) (action : NetworkAction) : Prop :=
  ∀ i a s id, n.operation w action = some (i, a) → a.session = some s →
    a.entryId (n.system i).process = some id →
      ∀ r, n.Registered ⟨i, r⟩ id → w.isServer ⟨i, r⟩ = w.isServer ⟨i, s⟩

/-- The id a step enters is not in use, if it keeps the roles apart. -/
theorem Ledger.unused
    {w : Wiring}
    {n : Network}
    {drawn : Endpoint → Nat}
    (h : Ledger w n drawn)
    (hfew : n.DrawsFew)
    {action : NetworkAction}
    (hapart : action.KeepsApart w n)
    {i : Nat}
    {a : Operation}
    (hop : n.operation w action = some (i, a))
    {s : SessionRef}
    (hsession : a.session = some s)
    {id : UInt32}
    (hentry : a.entryId (n.system i).process = some id) :
    (n.system i).process.sessions.find id = none := by
  rw [Option.eq_none_iff_forall_ne_some]
  intro r hfind
  have hroom := hfew i
  have hrole := hapart i a s id hop hsession hentry r hfind
  have hregistered : n.Registered ⟨i, r⟩ id := hfind
  have hone : (1 : UInt16).toNat = 1 := rfl
  cases h.kind hop with
  | quiet hleft hnone =>
      rw [hnone] at hentry
      cases hentry
  | @start e sessionIdentifier hclient hlong hconnectable hleft =>
      cases hsession
      rw [Operation.entryId, if_pos ⟨hlong, hconnectable⟩, Option.some.injEq] at hentry
      have hlink := h.link ⟨e.process, r⟩ (hrole.trans hclient)
      have hbound := h.bounded ⟨e.process, r⟩
      obtain ⟨_, hmod⟩ := hlink.client id hregistered
      rw [← hentry, UInt16.toNat_toUInt32, UInt16.toNat_add, hone] at hmod
      simp only at hbound
      omega
  | @answer e buf m clientSessionId sessionIdentifier hserver hincoming hbody hframe hleft hother =>
      cases hsession
      simp only [Operation.entryId, hframe, Option.some.injEq] at hentry
      have hclient : w.isServer (w.peer e) = false := by
        rw [w.isServer_peer, hserver]
        rfl
      have hstarts := (h.link _ hclient).starts
      rw [w.peer_peer, hincoming] at hstarts
      obtain ⟨id', _, hstart, _, hid'⟩ := hstarts m (List.mem_singleton.mpr rfl)
      rw [hbody] at hstart
      cases hstart
      have hsmall := h.drawn_lt hfew (w.peer e)
      have hpeer : w.isServer (w.peer ⟨e.process, r⟩) = false := by
        rw [w.isServer_peer, hrole.trans hserver]
        rfl
      have hlink := (h.link _ hpeer).server id
      rw [w.peer_peer] at hlink
      have hdiv := (hlink hregistered).2
      have hbound := h.bounded ⟨e.process, r⟩
      rw [← hentry, toNat_completeSessionId (by omega), UInt16.toNat_add, hone] at hdiv
      simp only at hbound
      omega
  | @complete e buf m initialId fullId sessionIdentifier hclient hincoming hbody hframe hleft
      hother =>
      cases hsession
      simp only [Operation.entryId, hframe, Option.some.injEq] at hentry
      have hlink := h.link e hclient
      have hmem : m ∈ n.incoming e := by
        rw [hincoming]
        exact List.mem_singleton.mpr rfl
      obtain ⟨initial, full, identifier, hreply, _, hfull⟩ := hlink.replies m hmem
      rw [hbody] at hreply
      cases hreply
      subst hentry
      have hne : n.incoming e ≠ [] := List.ne_nil_of_mem hmem
      obtain ⟨hdrawn, hanswered⟩ := hlink.answered hne
      have hsmall := h.drawn_lt hfew e
      obtain ⟨_, hmod⟩ := (h.link ⟨e.process, r⟩ (hrole.trans hclient)).client _ hregistered
      have hsame : e = ⟨e.process, r⟩ := by
        refine h.distinct e ⟨e.process, r⟩ rfl ?_ hdrawn
        omega
      rw [← hsame] at hregistered
      rcases hlink.provisional _ hregistered with hlow | ⟨hempty, _⟩
      · omega
      · exact hne hempty

/-- In every run of a network in which every process draws fewer than 2^15 ids and the
steps keep the roles apart, a step that enters a session finds its id unused, and stores
the session. -/
theorem ids_distinct
    {cfg : Config}
    {w : Wiring}
    {n n' : Network}
    {action : NetworkAction}
    (hrun : (network cfg w).Reaches (fun n action => n.DrawsFew ∧ action.KeepsApart w n) n)
    (hfew : n.DrawsFew)
    (hapart : action.KeepsApart w n)
    (hstep : (network cfg w).step n action = some n')
    {i : Nat}
    {a : Operation}
    (hop : n.operation w action = some (i, a))
    {s : SessionRef}
    (hsession : a.session = some s)
    {id : UInt32}
    (hentry : a.entryId (n.system i).process = some id) :
    (n.system i).process.sessions.find id = none ∧
      (n'.system i).process.sessions.find id = some s := by
  have hledger : ∃ drawn, Ledger w n drawn := by
    refine @TransitionSystem.Reaches.invariant _ _ _ _ (fun n => ∃ drawn, Ledger w n drawn) ?_ ?_
      n hrun
    · exact fun n hinit => ⟨_, ledger_of_init hinit⟩
    · rintro n action n' ⟨drawn, hledger⟩ ⟨hfew, _⟩ hstep
      exact hledger.step hfew hstep
  obtain ⟨drawn, hledger⟩ := hledger
  have hunused := hledger.unused hfew hapart hop hsession hentry
  refine ⟨hunused, ?_⟩
  obtain ⟨j, b, hop', _, rfl⟩ := network_step_cases hstep
  rw [hop] at hop'
  cases hop'
  rw [Network.system_next_same]
  exact Operation.find_act_entryId cfg hsession hentry hunused

/-! ## Two sessions of one process -/

/-- The other number of a pair of an even number and the next one. -/
def partner (k : Nat) : Nat :=
  if k % 2 = 0 then k + 1 else k - 1

theorem partner_partner (k : Nat) : partner (partner k) = k := by
  unfold partner
  split <;> split <;> omega

theorem partner_odd (k : Nat) : (partner k % 2 == 1) = !(k % 2 == 1) := by
  rcases Nat.mod_two_eq_zero_or_one k with heven | hodd
  · have hpartner : partner k % 2 = 1 := by
      unfold partner
      rw [if_pos heven]
      omega
    rw [hpartner, heven]
    rfl
  · have hpartner : partner k % 2 = 0 := by
      unfold partner
      rw [if_neg (by omega)]
      omega
    rw [hpartner, hodd]
    rfl

/-- Processes that hold both ends of their sessions: every even session object is a
client of the next one. -/
def pairedWiring : Wiring where
  peer := fun e => ⟨e.process, partner e.session⟩
  isServer := fun e => e.session % 2 == 1
  peer_peer := fun e => Endpoint.ext rfl (partner_partner e.session)
  isServer_peer := fun e => partner_odd e.session

/-- Processes before their first operation. -/
def initialNetwork : Network where
  system := fun _ => initialSystem

theorem init_initialNetwork (cfg : Config) (w : Wiring) : (network cfg w).init initialNetwork :=
  ⟨fun _ => ⟨init_initialSystem cfg, rfl⟩, fun _ => rfl⟩

theorem initialNetwork_drawsFew : initialNetwork.DrawsFew := by
  intro i
  have hzero : (initialNetwork.system i).process.sessionIdCounter.toNat + 1 = 1 := rfl
  omega

theorem network_step
    {cfg : Config}
    {w : Wiring}
    {n : Network}
    {action : NetworkAction}
    {i : Nat}
    {a : Operation}
    (hop : n.operation w action = some (i, a))
    (henabled : a.enabled (n.system i) = true) :
    (network cfg w).step n action = some (n.next cfg w action i a) := by
  simp only [network, hop]
  exact if_pos henabled

theorem Network.operation_deliver
    {w : Wiring}
    {n : Network}
    {e : Endpoint}
    {m : Message}
    (h : n.incoming e = [m])
    (found : Memory)
    (rest : Bytes)
    (beyond : Memory) :
    n.operation w (.deliver e found rest beyond) =
      some (e.process, .receive e.session ⟨m.bytes found ++ rest, beyond⟩) := by
  simp [Network.operation, h]

/-- A server over a working socket enters its session, and its answer is on its way. -/
theorem Network.answered
    {cfg : Config}
    {w : Wiring}
    {n : Network}
    {e : Endpoint}
    {m : Message}
    {clientSessionId : UInt32}
    {k : Socket}
    (hbody : m.body = .sessionInitStart clientSessionId [])
    (hstate : ((n.system (w.peer e).process).process.session
      (w.peer e).session).statemachine = .notConnected)
    (hsocket : ((n.system (w.peer e).process).process.session (w.peer e).session).socket = some k)
    (hinit : k.initResult = true)
    (hsends : ∀ c, k.sendResults c = true)
    (hunused : (n.system (w.peer e).process).process.sessions.find (completeSessionId
      clientSessionId ((n.system (w.peer e).process).process.sessionIdCounter + 1)) = none)
    (hempty : n.incoming e = [])
    (found : Memory)
    (rest : Bytes)
    (beyond : Memory) :
    let fullId := completeSessionId clientSessionId
      ((n.system (w.peer e).process).process.sessionIdCounter + 1)
    let n' := n.next cfg w (.deliver (w.peer e) found rest beyond) (w.peer e).process
      (.receive (w.peer e).session ⟨m.bytes found ++ rest, beyond⟩)
    (n'.system (w.peer e).process).process.sessions.find fullId = some (w.peer e).session ∧
      ∃ messageId, n'.incoming e =
        [⟨clientSessionId, messageId, .sessionInitReply clientSessionId fullId []⟩] := by
  have hsize : m.body.Sendable Config.default := by
    rw [hbody]
    exact Nat.zero_le _
  have hframe : (RingBuffer.mk (m.bytes found ++ rest) beyond).sessionFrame =
      some (.initStart clientSessionId []) := by
    rw [sessionFrame_bytes hsize, hbody]
    rfl
  have hsame : ((n.system (w.peer e).process).process.withoutReplied
      ⟨m.bytes found ++ rest, beyond⟩).session = (n.system (w.peer e).process).process.session := by
    unfold Process.withoutReplied
    split <;> rfl
  constructor
  · rw [Network.system_next_same]
    refine Operation.find_act_entryId cfg rfl ?_ hunused
    simp [Operation.entryId, hframe]
  · obtain ⟨messageId, hsent⟩ := handshakes_receive (s := (w.peer e).session) cfg hframe
      (n.system (w.peer e).process).process (w.peer e).session
    refine ⟨messageId, ?_⟩
    rw [Network.incoming_next_peer rfl, Network.left_deliver_other (w.peer_ne e).symm, hempty,
      List.nil_append, hsent]
    refine if_pos ⟨rfl, Process.opened_sends ?_ ?_ hinit hsends _ _⟩
    · rw [hsame]
      exact hstate
    · rw [hsame]
      exact hsocket

/-- A process holds both ends of a session: the client started, and the server was
accepted. -/
def connectedNetwork : Network :=
  (initialNetwork.next Config.default pairedWiring (.perform 0 (.start 0 [])) 0
    (.start 0 [])).next Config.default pairedWiring (.perform 0 (.accept 1)) 0 (.accept 1)

theorem reaches_connectedNetwork :
    (network Config.default pairedWiring).Reaches
      (fun n action => n.DrawsFew ∧ action.KeepsApart pairedWiring n) connectedNetwork := by
  have hstarted : (initialNetwork.next Config.default pairedWiring (.perform 0 (.start 0 [])) 0
      (.start 0 [])).DrawsFew := by
    intro i
    rw [Network.sessionIdCounter_next initialNetwork_drawsFew]
    have hzero : (initialNetwork.system i).process.sessionIdCounter.toNat = 0 := rfl
    rw [hzero]
    split <;> omega
  have hempty : (NetworkAction.perform 0 (.start 0 [])).KeepsApart pairedWiring
      initialNetwork := by
    intro i a s id _ _ _ r hregistered
    cases hregistered
  have haccepts : (NetworkAction.perform 0 (.accept 1)).KeepsApart pairedWiring
      (initialNetwork.next Config.default pairedWiring (.perform 0 (.start 0 [])) 0
        (.start 0 [])) := by
    intro i a s id hop _ hentry
    cases hop
    cases hentry
  exact .step (.step (.init (init_initialNetwork _ _)) ⟨initialNetwork_drawsFew, hempty⟩
    (network_step (a := .start 0 []) rfl rfl)) ⟨hstarted, haccepts⟩
      (network_step (a := .accept 1) rfl rfl)

theorem connectedNetwork_counter (i : Nat) :
    (connectedNetwork.system i).process.sessionIdCounter.toNat ≤ 1 := by
  by_cases hi : i = 0
  · subst hi
    exact Nat.le_refl 1
  · rw [connectedNetwork, Network.system_next_other hi, Network.system_next_other hi]
    exact Nat.zero_le 1

theorem Network.drawsFew_next
    {cfg : Config}
    {w : Wiring}
    {n : Network}
    {action : NetworkAction}
    {i : Nat}
    {a : Operation}
    (hfew : n.DrawsFew)
    (hcounter : ∀ i, (n.system i).process.sessionIdCounter.toNat ≤ 1) :
    (n.next cfg w action i a).DrawsFew := by
  intro j
  have hle := hcounter j
  rw [Network.sessionIdCounter_next hfew]
  split <;> omega

/-- A reply on its way is processed by a client that exists. -/
theorem Network.completes
    {cfg : Config}
    {w : Wiring}
    {n : Network}
    {e : Endpoint}
    {m : Message}
    {initialId fullId : UInt32}
    (hincoming : n.incoming e = [m])
    (hbody : m.body = .sessionInitReply initialId fullId [])
    (hexists : ((n.system e.process).stage e.session).Exists) :
    ∃ n' action a, (network cfg w).step n action = some n' ∧
      n.operation w action = some (e.process, a) ∧ a.session = some e.session ∧
        a.entryId (n.system e.process).process = some fullId := by
  have hsize : m.body.Sendable Config.default := by
    rw [hbody]
    exact Nat.zero_le _
  have hop := Network.operation_deliver (w := w) hincoming (fun _ => 0) [] (fun _ => 0)
  refine ⟨_, _, _, network_step hop (decide_eq_true hexists), hop, rfl, ?_⟩
  have hframe : (RingBuffer.mk (m.bytes (fun _ => 0) ++ []) (fun _ => 0)).sessionFrame =
      some (.initReply initialId fullId []) := by
    rw [sessionFrame_bytes hsize, hbody]
    rfl
  simp only [Operation.entryId, hframe]

theorem Operation.entryId_of_initStart
    {buf : RingBuffer}
    {clientSessionId : UInt32}
    {sessionIdentifier : Bytes}
    (h : buf.sessionFrame = some (.initStart clientSessionId sessionIdentifier))
    (s : SessionRef)
    (p : Process) :
    (Operation.receive s buf).entryId p =
      some (completeSessionId clientSessionId (p.sessionIdCounter + 1)) := by
  simp only [Operation.entryId, h]

/-- The client session 0 is registered under the id 1; the init start message of this client
enters the server session 1 under the complete id 131073, which nobody has. -/
theorem ids_distinct_answered :
    (connectedNetwork.system 0).process.sessions.find 1 = some 0 ∧
      ∃ n', (network Config.default pairedWiring).step connectedNetwork
          (.deliver ⟨0, 1⟩ (fun _ => 0) [] (fun _ => 0)) = some n' ∧
        (connectedNetwork.system 0).process.sessions.find 131073 = none ∧
          (n'.system 0).process.sessions.find 131073 = some 1 := by
  have hfew : connectedNetwork.DrawsFew := by
    intro i
    have hle := connectedNetwork_counter i
    omega
  have hincoming : connectedNetwork.incoming ⟨0, 1⟩ = [⟨1, 1, .sessionInitStart 1 []⟩] := rfl
  have hop := Network.operation_deliver (w := pairedWiring) hincoming (fun _ => 0) [] (fun _ => 0)
  have hsize : (Body.sessionInitStart 1 []).Sendable Config.default := Nat.zero_le _
  have hframe := sessionFrame_bytes (m := ⟨1, 1, .sessionInitStart 1 []⟩) hsize (fun _ => 0) []
    (fun _ => 0)
  have hentry : (Operation.receive 1 ⟨Message.bytes (fun _ => 0)
      ⟨1, 1, .sessionInitStart 1 []⟩ ++ [], fun _ => 0⟩).entryId
        (connectedNetwork.system 0).process = some 131073 :=
    Operation.entryId_of_initStart hframe 1 _
  have hapart : (NetworkAction.deliver ⟨0, 1⟩ (fun _ => 0) [] (fun _ => 0)).KeepsApart
      pairedWiring connectedNetwork := by
    intro i a s id hop' _ hentry' r hregistered
    rw [hop] at hop'
    cases hop'
    rw [hentry] at hentry'
    cases hentry'
    cases hregistered
  exact ⟨rfl, _, network_step hop rfl, ids_distinct reaches_connectedNetwork hfew hapart
    (network_step hop rfl) hop rfl hentry⟩

/-- Both ends of a session in one process have the same complete id: when the client
completes its id, the server has it. -/
theorem not_ids_distinct :
    ¬ ∀ w n n' action i a s id,
      (network Config.default w).Reaches (fun n _ => n.DrawsFew) n → n.DrawsFew →
      (network Config.default w).step n action = some n' →
      n.operation w action = some (i, a) → a.session = some s →
      a.entryId (n.system i).process = some id →
      (n.system i).process.sessions.find id = none ∧
        (n'.system i).process.sessions.find id = some s := by
  intro hall
  have hfew : connectedNetwork.DrawsFew := by
    intro i
    have hle := connectedNetwork_counter i
    omega
  have hincoming : connectedNetwork.incoming ⟨0, 1⟩ = [⟨1, 1, .sessionInitStart 1 []⟩] := rfl
  obtain ⟨hserver, messageId, hreply⟩ := @Network.answered Config.default
    pairedWiring connectedNetwork ⟨0, 0⟩ ⟨1, 1, .sessionInitStart 1 []⟩ 1 workingSocket
    rfl rfl rfl rfl (fun _ => rfl) rfl rfl (fun _ => 0) [] (fun _ => 0)
  have hpeer : pairedWiring.peer ⟨0, 0⟩ = ⟨0, 1⟩ := rfl
  rw [hpeer] at hserver hreply
  have hop := Network.operation_deliver (w := pairedWiring) hincoming (fun _ => 0) [] (fun _ => 0)
  have hreach := TransitionSystem.Reaches.step
    (reaches_connectedNetwork.mono fun _ _ hallowed => hallowed.1) hfew (network_step hop rfl)
  have hexists := @Network.stage_next_other Config.default pairedWiring connectedNetwork
    (.deliver ⟨0, 1⟩ (fun _ => 0) [] (fun _ => 0)) 0
    (.receive 1 ⟨Message.bytes (fun _ => 0) ⟨1, 1, .sessionInitStart 1 []⟩ ++ [], fun _ => 0⟩)
    ⟨0, 0⟩ (fun h => by cases h)
  obtain ⟨n', action, a, hstep, hop', hsession, hentry⟩ := @Network.completes Config.default
    pairedWiring _ _ _ _ _ hreply rfl (Or.inl hexists)
  have hfew' := @Network.drawsFew_next Config.default pairedWiring connectedNetwork
    (.deliver ⟨0, 1⟩ (fun _ => 0) [] (fun _ => 0)) 0
    (.receive 1 ⟨Message.bytes (fun _ => 0) ⟨1, 1, .sessionInitStart 1 []⟩ ++ [], fun _ => 0⟩)
    hfew connectedNetwork_counter
  obtain ⟨hunused, _⟩ := hall _ _ _ _ _ _ _ _ hreach hfew' hstep hop' hsession hentry
  rw [hunused] at hserver
  cases hserver

end SakuraNetwork

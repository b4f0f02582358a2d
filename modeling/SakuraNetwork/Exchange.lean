import SakuraNetwork.HandshakeAgreement
import SakuraNetwork.HeardMessages
import SakuraNetwork.Lib.Observation
import SakuraNetwork.ParcelSending
import SakuraNetwork.RequestOrigins

/-!
# What the applications see

The calls of the applications, what they report, and what the callbacks get, in the order
of a run.  One step of a connection, seen from the applications.

* `Event`, `exchange`: the runs with what both applications see of them.
* `delivers_step`: what a step does to the parcels of the other side.
* `Ships`, `Call.ships`: what a step sends is the parcels that are reported.
-/

namespace SakuraNetwork

open Lib

/-! ## What the applications see -/

/-- What the application of a side does and gets. -/
inductive Event where
  /-- A call reported success; a message got this id. -/
  | handed (id : UInt64) (op : SendOperation)
  /-- The create callback got the session under this identifier. -/
  | created (sessionIdentifier : Bytes)
  | got (parcel : Parcel)
  /-- The call that waits for a response returned it. -/
  | returned (blockerId : UInt64) (data : Bytes)

def Event.operation : Event → Option (UInt64 × SendOperation)
  | .handed id op => some (id, op)
  | _ => none

def Event.parcel : Event → Option Parcel
  | .got parcel => some parcel
  | _ => none

/-- What the application gets in a callback. -/
def Output.event : Output → Option Event
  | .processCreateSession _ _ identifier => some (.created identifier)
  | .processStreamData _ data => some (.got (.stream data))
  | .processRequestData _ id data => some (.got (.message id data))
  | _ => none

/-- A callback hands nothing over, and gets its parcel. -/
theorem Output.operation_of_event
    {o : Output}
    {e : Event}
    (h : o.event = some e) :
    e.operation = none := by
  cases o with
  | processCreateSession =>
      cases h
      rfl
  | processStreamData =>
      cases h
      rfl
  | processRequestData =>
      cases h
      rfl
  | _ => cases h

theorem Output.parcel_of_event (o : Output) : o.event.bind Event.parcel = o.parcel := by
  cases o with
  | _ => rfl

/-- What the caller learns from a call. -/
def Call.reports (cfg : Config) (s : SessionRef) (p : Process) (c : Call) : List Event :=
  match c.sendOperation with
  | some op =>
      if ((op.report cfg s).run p).value then [.handed (p.randIds p.randCount) op] else []
  | none =>
      match c with
      | .wake blockerId =>
          (((MessageBlockerHandler.removeMessageFromList blockerId).run p).value.map
            (Event.returned blockerId)).toList
      | _ => []

theorem Call.reports_of_sendOperation
    {cfg : Config}
    {s : SessionRef}
    {p : Process}
    {c : Call}
    {op : SendOperation}
    (h : c.sendOperation = some op) :
    c.reports cfg s p =
      if ((op.report cfg s).run p).value then [.handed (p.randIds p.randCount) op] else [] := by
  unfold Call.reports
  rw [h]

/-- A call reports what it handed over, or a response that its entry held. -/
theorem Call.mem_reports
    {cfg : Config}
    {s : SessionRef}
    {p : Process}
    {c : Call}
    {e : Event}
    (h : e ∈ c.reports cfg s p) :
    (∃ id op, c.sendOperation = some op ∧ e = .handed id op) ∨
      ∃ id data, p.Answered id data ∧ e = .returned id data := by
  unfold Call.reports at h
  cases hop : c.sendOperation with
  | some op =>
      simp only [hop] at h
      split at h
      · exact Or.inl ⟨_, op, rfl, List.mem_singleton.mp h⟩
      · cases h
  | none =>
      simp only [hop] at h
      cases c with
      | wake blockerId =>
          obtain ⟨data, hvalue, rfl⟩ := Option.map_eq_some_iff.mp (Option.mem_toList.mp h)
          exact Or.inr ⟨blockerId, data,
            MessageBlockerHandler.answered_of_removeMessageFromList hvalue, rfl⟩
      | _ => cases h

/-- The side that takes a step. -/
def Action.side : Action → Side
  | .start => .client
  | .receive x | .statement x | .call x _ | .close x _ | .endClose x => x

namespace Connection

variable (cfg : Config) (sessionIdentifier : Bytes) (st : Connection Peer)

/-- The process of a side. -/
def process (x : Side) : Process :=
  (st.party x).core.process

/-- The session object of a side. -/
def ref (x : Side) : SessionRef :=
  (st.party x).core.session

/-- The operation a side runs in a step. -/
def operation (a : Action) : Act Unit :=
  let s := st.ref a.side
  match a with
  | .start => do
      let _ ← startSession s sessionIdentifier
  | .receive _ => pure ()
  | .statement x =>
      match (st.party x).statements with
      | [] => pure ()
      | statement :: _ => do
          let _ ← statement.run s
  | .call _ c => (c.operation s).act cfg
  | .close _ replyExpected => do
      let _ ← beginClose s replyExpected
  | .endClose _ => do
      let _ ← endSession s

/-- What the caller learns from a step. -/
def reports : Action → List Event
  | .call x c => c.reports cfg (st.ref x) (st.process x)
  | _ => []

/-- What the application of the side that takes a step sees of it. -/
def events (a : Action) : List Event :=
  ((st.operation cfg sessionIdentifier a).run (st.process a.side)).outputs.filterMap
      Output.event ++ st.reports cfg a

/-- Data buffers can be allocated, and no call is blocked. -/
structure Supplied : Prop where
  allocation : ∀ x size, (st.process x).allocation size = true
  unblocked : ∀ x, (st.process x).blockerList = []

end Connection

/-- The runs of a connection, with what both applications see. -/
def exchange
    (cfg : Config)
    (sessionIdentifier : Bytes) :
    TransitionSystem (Connection Peer × List (Side × Event)) Action :=
  ((connection cfg sessionIdentifier).startingFrom Connection.Supplied).observed
    (fun st a => (st.events cfg sessionIdentifier a).map (fun e => (a.side, e)))

/-- What the application of a side has seen. -/
def eventsOf (x : Side) (events : List (Side × Event)) : List Event :=
  (events.filter (fun e => e.1 = x)).map Prod.snd

/-- The calls of a side that reported success. -/
def handedBy (x : Side) (events : List (Side × Event)) : List (UInt64 × SendOperation) :=
  (eventsOf x events).filterMap Event.operation

/-- The parcels of these calls. -/
def parcelsOf (handed : List (UInt64 × SendOperation)) : List Parcel :=
  handed.map (fun h => h.2.parcel h.1)

/-- What the callbacks of a side got. -/
def gotBy (x : Side) (events : List (Side × Event)) : List Parcel :=
  (eventsOf x events).filterMap Event.parcel

/-- The number of bytes that a step hands over. -/
def Action.size : Action → Nat
  | .call _ c => (c.sendOperation.map (fun op => op.data.length)).getD 0
  | _ => 0

/-- No call hands over more than a multi-block message holds. -/
def Action.Sized (a : Action) : Prop :=
  a.size ≤ 2 ^ 32

instance : DecidablePred Action.Sized :=
  fun a => inferInstanceAs (Decidable (a.size ≤ 2 ^ 32))

/-- What both applications see does not change the run. -/
theorem reachable_of_exchange
    {cfg : Config}
    {sessionIdentifier : Bytes}
    {st : Connection Peer}
    {seen : List (Side × Event)}
    (h : (exchange cfg sessionIdentifier).Reachable (st, seen)) :
    (connection cfg sessionIdentifier).Reachable st := by
  have hobserved : ((connection cfg sessionIdentifier).startingFrom Connection.Supplied).Reaches
      (fun _ _ => True) st :=
    TransitionSystem.Reaches.of_observed (fun _ _ => True) h
  exact hobserved.of_startingFrom

theorem Action.Sized.length_le
    {x : Side}
    {c : Call}
    (h : (Action.call x c).Sized)
    {op : SendOperation}
    (hop : c.sendOperation = some op) :
    op.data.length ≤ 2 ^ 32 := by
  rw [Action.Sized, Action.size, hop] at h
  exact h

theorem eventsOf_append (x : Side) (events events' : List (Side × Event)) :
    eventsOf x (events ++ events') = eventsOf x events ++ eventsOf x events' := by
  simp [eventsOf]

theorem eventsOf_same (x : Side) (events : List Event) :
    eventsOf x (events.map (fun e => (x, e))) = events := by
  rw [eventsOf, List.filter_eq_self.mpr, List.map_map]
  · exact List.map_id events
  · intro e he
    obtain ⟨e', _, rfl⟩ := List.mem_map.mp he
    exact decide_eq_true rfl

theorem eventsOf_other {x y : Side} (h : y ≠ x) (events : List Event) :
    eventsOf y (events.map (fun e => (x, e))) = [] := by
  rw [eventsOf, List.filter_eq_nil_iff.mpr, List.map_nil]
  intro e he
  obtain ⟨e', _, rfl⟩ := List.mem_map.mp he
  simpa using h.symm

/-! ## One step -/

section Step

variable {cfg : Config} {sessionIdentifier : Bytes} {st st' : Connection Peer} {a : Action}

/-- A step runs the operation in the process of its side. -/
theorem process_step
    (hstep : (connection cfg sessionIdentifier).step st a = some st') :
    st'.process a.side =
        ((st.operation cfg sessionIdentifier a).run (st.process a.side)).process ∧
      (∀ y, y ≠ a.side → st'.process y = st.process y) ∧
      ∀ y, st'.ref y = st.ref y := by
  have hrun : ∀ {α : Type} {x : Side} {answered : Option Message} {f : SessionRef → Act α}
      {statements : α → List Statement} {ending : α → Nat},
      (st.run x answered f statements ending).process x =
          ((f (st.ref x)).run (st.process x)).process ∧
        (∀ y, y ≠ x → (st.run x answered f statements ending).process y = st.process y) ∧
        ∀ y, (st.run x answered f statements ending).ref y = st.ref y := by
    intro α x answered f statements ending
    refine ⟨?_, fun y hy => ?_, fun y => ?_⟩
    · rw [Connection.process, Connection.run, Connection.perform_party_same]
      rfl
    · rw [Connection.process, Connection.run, Connection.perform_party_other hy]
      rfl
    · rcases Side.eq_or_other x y with rfl | rfl
      · rw [Connection.ref, Connection.run, Connection.perform_party_same]
        rfl
      · rw [Connection.ref, Connection.run, Connection.perform_party_other (Side.other_ne x)]
        rfl
  cases a with
  | start =>
      simp only [connection, Connection.step, Option.ite_none_right_eq_some,
        Option.some.injEq] at hstep
      obtain ⟨_, rfl⟩ := hstep
      exact hrun
  | receive x =>
      simp only [connection, Connection.step] at hstep
      split at hstep
      · split at hstep
        · cases hstep
          refine ⟨?_, fun y _ => ?_, fun y => ?_⟩
          · rw [Connection.process, Connection.take_core]
            rfl
          · rw [Connection.process, Connection.take_core]
            rfl
          · rw [Connection.ref, Connection.take_core]
            rfl
        · cases hstep
          exact ⟨rfl, fun _ _ => rfl, fun _ => rfl⟩
      · cases hstep
  | statement x =>
      simp only [connection, Connection.step] at hstep
      split at hstep
      · cases hstep
      · rename_i statement rest hstatements
        cases hstep
        refine ⟨hrun.1.trans ?_, hrun.2⟩
        simp only [Connection.operation, Action.side, hstatements]
        rfl
  | call x c =>
      simp only [connection, Connection.step, Option.some.injEq] at hstep
      subst hstep
      exact hrun
  | close x replyExpected =>
      simp only [connection, Connection.step, Option.some.injEq] at hstep
      subst hstep
      exact hrun
  | endClose x =>
      simp only [connection, Connection.step, Option.ite_none_right_eq_some,
        Option.some.injEq] at hstep
      obtain ⟨_, rfl⟩ := hstep
      exact hrun

/-- What a side does to the parcels of the other side in a step. -/
theorem delivers_step
    (hsound : st.Sound)
    (hallocation : ∀ size, (st.process a.side).allocation size = true)
    (haddressed : ∀ m ∈ a.handled st.view a.side, m.body.Addressed) :
    Delivers (st.ref a.side) (st.process a.side) (st.operation cfg sessionIdentifier a)
      (runEvents Body.unpack
        ((st.process a.side).collected (st.ref a.side))
        ((a.handled st.view a.side).map Message.body))
      (outputsOf Body.unpack
        ((st.process a.side).collected (st.ref a.side))
        ((a.handled st.view a.side).map Message.body)) := by
  have hnothing : Delivers (st.ref a.side) (st.process a.side) (pure () : Act Unit)
      ((st.process a.side).collected (st.ref a.side)) [] :=
    ⟨rfl, rfl, fun _ _ h => Or.inl h, rfl⟩
  cases a with
  | start => exact (delivers_startSession sessionIdentifier).discard
  | receive x => exact hnothing
  | statement x =>
      have hhandled : (Action.statement x).handled st.view x =
          ((st.party x).statements.take 1).filterMap Statement.message := if_pos rfl
      simp only [Action.side, Connection.operation, hhandled] at haddressed hnothing ⊢
      cases hstatements : (st.party x).statements with
      | nil => exact hnothing
      | cons statement rest =>
          rw [hstatements] at haddressed
          by_cases hhandle : ∃ m, statement = .handle m
          · obtain ⟨m, rfl⟩ := hhandle
            have hplain : m.body.Plain := hsound.plain x m (by rw [hstatements]; simp)
            have hhandler := delivers_handle (s := st.ref x) hallocation hplain
              (haddressed m List.mem_cons_self)
            have hparcels : outputsOf Body.unpack
                ((st.process x).collected (st.ref x)) [m.body] =
                  (m.body.unpack ((st.process x).collected (st.ref x))).2 :=
              List.append_nil _
            change Delivers _ _ _ _ (outputsOf _ _ [m.body])
            rw [hparcels]
            exact (hhandler.congr rfl (List.append_nil _) : Delivers _ _
              ((Statement.handle m).run (st.ref x)) _ _).discard
          · have hother : ∀ m, statement ≠ .handle m := fun m hm => hhandle ⟨m, hm⟩
            have hnone : ((statement :: rest).take 1).filterMap Statement.message = [] := by
              cases statement with
              | handle m => exact absurd rfl (hother m)
              | _ => rfl
            rw [hnone]
            exact (delivers_statement hother).discard
  | call x c => exact delivers_operation cfg (st.ref x) (st.process x) c
  | close x replyExpected => exact (delivers_beginClose replyExpected).discard
  | endClose x => exact delivers_endSession.discard

/-- Only a request that is reported blocks. -/
theorem blocked_step
    (hsound : st.Sound)
    {id : UInt64}
    (h : ((st.operation cfg sessionIdentifier a).run (st.process a.side)).process.Blocked id) :
    (st.process a.side).Blocked id ∨
      ∃ data timeout, .handed id (.request data timeout) ∈ st.events cfg sessionIdentifier a := by
  have hkept : ∀ {α : Type} {x : Act α}, x.Within keepsBlockers →
      ((do let _ ← x : Act Unit).run (st.process a.side)).process.Blocked id →
        (st.process a.side).Blocked id := by
    intro α x hx hblocked
    exact (keepsBlocked_of_keepsBlockers hx).blocked hblocked
  cases a with
  | start =>
      exact Or.inl (hkept (within_startSession (keepsBlockers_data _) trivial trivial
        (keepsBlockers_session _) _) h)
  | receive x => exact Or.inl h
  | statement x =>
      simp only [Action.side, Connection.operation] at h
      cases hstatements : (st.party x).statements with
      | nil =>
          rw [hstatements] at h
          exact Or.inl h
      | cons statement rest =>
          rw [hstatements] at h
          by_cases hhandle : ∃ m, statement = .handle m
          · obtain ⟨m, rfl⟩ := hhandle
            exact Or.inl (blocked_handle (hsound.plain x m (by rw [hstatements]; simp)) h)
          · refine Or.inl (hkept (within_statement (keepsBlockers_data _)
              (keepsBlockers_session _) (fun q i => rfl) fun m hm => hhandle ⟨m, hm⟩) h)
  | call x c =>
      rcases blocked_operation cfg h with hold | ⟨data, timeout, hop, hvalue, hid⟩
      · exact Or.inl hold
      · refine Or.inr ⟨data, timeout, List.mem_append_right _ ?_⟩
        have hreports : st.reports cfg (.call x c) =
            if (((SendOperation.request data timeout).report cfg (st.ref x)).run
              (st.process x)).value then [.handed id (.request data timeout)] else [] := by
          rw [hid]
          exact Call.reports_of_sendOperation hop
        rw [hreports]
        split
        · exact List.mem_singleton.mpr rfl
        · rename_i hfailed
          exact absurd hvalue hfailed
  | close x replyExpected => exact Or.inl (hkept (keepsBlockers_beginClose replyExpected) h)
  | endClose x => exact Or.inl (hkept (within_endSession (keepsBlockers_session _)) h)

end Step

/-! ## What is sent -/

/-- A reply is no part of a parcel. -/
theorem Body.carries_of_reply
    {b body : Body}
    (h : b.reply = some body) :
    body.carries = false := by
  cases b with
  | sessionCloseStart replyExpected =>
      cases h
      rfl
  | heartbeatStart =>
      cases h
      rfl
  | stream replyExpected data =>
      cases replyExpected with
      | true =>
          cases h
          rfl
      | false => cases h
  | singleBlock multiblockId blockerId data =>
      cases h
      rfl
  | _ => cases h

/-- Only calls send parts of parcels. -/
theorem spoken_step
    {cfg : Config}
    {sessionIdentifier : Bytes}
    {d d' : Dialogue}
    {a : Action}
    (hstep : Dialogue.Step cfg sessionIdentifier d a d') :
    (∀ y, y ≠ a.side → d'.spoken y = d.spoken y) ∧
      ((∀ x c, a ≠ .call x c) → ∃ more : List Message,
        d'.spoken a.side = d.spoken a.side ++ more ∧ ∀ m ∈ more, m.body.carries = false) := by
  have hperform : ∀ {x : Side} {answered : Option Message} {e' : SessionEndpoint}
      {statements : List Statement} {ending : Nat} {sent : List Message},
      (∀ m ∈ sent, m.body.carries = false) →
      (∀ y, y ≠ x → (d.perform x answered e' statements ending sent).spoken y = d.spoken y) ∧
        ((∀ x c, a ≠ .call x c) → ∃ more : List Message,
          (d.perform x answered e' statements ending sent).spoken x = d.spoken x ++ more ∧
            ∀ m ∈ more, m.body.carries = false) := by
    intro x answered e' statements ending sent hsent
    exact ⟨fun y hy => Connection.spoken_perform_other hy, fun _ => ⟨plainOf sent,
      Connection.spoken_perform_same, fun m hm => hsent m (List.mem_of_mem_filter hm)⟩⟩
  have hif : ∀ {c : Prop} [Decidable c] {l : List Message},
      (∀ m ∈ l, m.body.carries = false) → ∀ m ∈ (if c then l else []),
        m.body.carries = false := by
    intro c _ l hl m hm
    split at hm
    · exact hl m hm
    · cases hm
  have hone : ∀ {sessionId messageId : UInt32} {body : Body}, body.carries = false →
      ∀ m ∈ [Message.mk sessionId messageId body], m.body.carries = false := by
    intro sessionId messageId body hbody m hm
    rw [List.mem_singleton.mp hm]
    exact hbody
  have hquiet : ∀ {x : Side}, (∀ y, y ≠ x → d.spoken y = d.spoken y) ∧
      ((∀ x c, a ≠ .call x c) → ∃ more : List Message, d.spoken x = d.spoken x ++ more ∧
        ∀ m ∈ more, m.body.carries = false) := by
    intro x
    exact ⟨fun _ _ => rfl, fun _ => ⟨[], (List.append_nil _).symm,
      fun m hm => absurd hm List.not_mem_nil⟩⟩
  cases hstep with
  | start messageId hlog hfresh => exact hperform (hone (by exact rfl))
  | take hidle hincoming hopen => exact hquiet
  | drop hidle hincoming hclosed => exact hquiet
  | @handle x m rest hstatements hplain =>
      refine hperform (hif fun m' hm' => ?_)
      obtain ⟨body, hbody, rfl⟩ := List.mem_map.mp hm'
      exact Body.carries_of_reply (Option.mem_toList.mp hbody)
  | @statement x st rest hstatements hother =>
      refine hperform (hif fun m hm => ?_)
      cases st with
      | sendSessionInitReply => exact hone (by exact rfl) m hm
      | _ => cases hm
  | call hspeaks =>
      exact ⟨fun y hy => Connection.spoken_perform_other hy, fun h => absurd rfl (h _ _)⟩
  | close messageId => exact hperform (hif (hone (by exact rfl)))
  | endClose hending => exact hperform fun m hm => absurd hm List.not_mem_nil

/-- The frames of a call are of its parcel, and have an id. -/
theorem SendOperation.addressed_frames
    (cfg : Config)
    {op : SendOperation}
    {id : UInt64}
    (hid : id ≠ 0)
    {b : Body}
    (hb : b ∈ op.frames cfg id) :
    b.Plain ∧ b.Addressed := by
  have hmultiblock : ∀ {data : Bytes} {blockerId : UInt64},
      b ∈ MultiblockIo.outgoingFrames cfg id data blockerId → b.Plain ∧ b.Addressed := by
    intro data blockerId hframe
    rcases List.mem_append.mp hframe with hpart | hfinish
    · obtain ⟨total, number, partId, part, rfl⟩ := mem_outgoingParts hpart
      exact ⟨rfl, hid⟩
    · rw [List.mem_singleton.mp hfinish]
      exact ⟨rfl, hid⟩
  have hsingle : ∀ {blockerId : UInt64} {data : Bytes},
      b ∈ [Body.singleBlock id blockerId data] → b.Plain ∧ b.Addressed := by
    intro blockerId data hblock
    rw [List.mem_singleton.mp hblock]
    exact ⟨rfl, trivial⟩
  cases op with
  | stream data replyExpected =>
      rw [List.mem_singleton.mp hb]
      exact ⟨rfl, trivial⟩
  | normalMessage data =>
      rw [frames] at hb
      split at hb
      · exact hsingle hb
      · exact hmultiblock hb
  | request data timeout =>
      rw [frames] at hb
      split at hb
      · exact hsingle hb
      · exact hmultiblock hb
  | response data blockerId =>
      rw [frames] at hb
      split at hb
      · exact hsingle hb
      · exact hmultiblock hb

/-- What a side sends in a step: the parcels that are reported, and nothing half. -/
structure Ships (messages : List Message) (reports : List Event) : Prop where
  nothing : collectedAfter (messages.map Message.body) = fun _ => none
  parcels : parcelsIn (messages.map Message.body) =
    parcelsOf (reports.filterMap Event.operation)
  addressed : ∀ m ∈ messages, m.body.Addressed

/-- Messages that belong to no parcel, where nothing is reported. -/
theorem Ships.of_not_carries
    {messages : List Message}
    {reports : List Event}
    (h : ∀ m ∈ messages, m.body.carries = false)
    (hreports : reports.filterMap Event.operation = []) :
    Ships messages reports := by
  have hbodies : ∀ b ∈ messages.map Message.body, b.carries = false := by
    intro b hb
    obtain ⟨m, hm, rfl⟩ := List.mem_map.mp hb
    exact h m hm
  obtain ⟨hnothing, hparcels⟩ := parcelsIn_of_not_carries hbodies
  refine ⟨hnothing, ?_, fun m hm => ?_⟩
  · rw [hparcels, hreports]
    rfl
  · have hcarries := h m hm
    cases hbody : m.body with
    | multiStatic =>
        rw [hbody] at hcarries
        cases hcarries
    | multiFinish =>
        rw [hbody] at hcarries
        cases hcarries
    | _ => trivial

/-- What is sent in two steps. -/
theorem Ships.append
    {messages messages' : List Message}
    {reports reports' : List Event}
    (h : Ships messages reports)
    (h' : Ships messages' reports') :
    Ships (messages ++ messages') (reports ++ reports') := by
  obtain ⟨hnothing, hparcels⟩ := parcelsIn_append h.nothing (messages'.map Message.body)
  constructor
  · rw [List.map_append, hnothing]
    exact h'.nothing
  · rw [List.map_append, hparcels, h.parcels, h'.parcels, List.filterMap_append, parcelsOf,
      parcelsOf, parcelsOf, List.map_append]
  · intro m hm
    exact (List.mem_append.mp hm).elim (h.addressed m) (h'.addressed m)

/-- The other calls send no part of a parcel. -/
theorem Call.not_carries
    {cfg : Config}
    {s : SessionRef}
    {p : Process}
    (c : Call)
    (hop : c.sendOperation = none)
    {m : Message}
    (hm : m ∈ Connection.sentOver s (((c.operation s).act cfg).run p).outputs) :
    m.body.carries = false := by
  have hsilent : ∀ {x : Act Unit}, x.Within silent →
      m ∉ Connection.sentOver s (x.run p).outputs := by
    intro x hx hmem
    rw [Connection.sentOver_of_silent (hx p)] at hmem
    cases hmem
  cases c with
  | heartbeat =>
      have hsends : OnlySends s (fun b => b.carries = false) (sendHeartbeat s) := by
        refine (OnlySends.getSession s).bind fun x => ?_
        cases x.socket with
        | none => exact OnlySends.pure false
        | some k =>
            exact OnlySends.ite (fun _ => OnlySends.sendNew (by exact rfl)) fun _ =>
              OnlySends.pure false
      have hrun := hsends.bind (f := fun _ => (pure () : Act Unit)) fun _ => OnlySends.pure ()
      obtain ⟨m', hsame, hcarries, _⟩ := hrun.outputs p _ (Connection.mem_sentOver hm)
      cases hsame
      exact hcarries
  | wake blockerId =>
      exact absurd hm (hsilent ((within_wake silent_timers blockerId).bind fun _ =>
        Act.Within.pure ()))
  | replyTimer => exact absurd hm (hsilent (within_replyTimer silent_timers))
  | blockerTimer => exact absurd hm (hsilent (within_blockerTimer silent_timers))
  | _ => cases hop

/-- A call ships its parcel and reports it, or neither. -/
theorem Call.ships
    (cfg : Config)
    {s : SessionRef}
    {p : Process}
    (hworks : (p.session s).Works)
    (hopen : (p.session s).statemachine = .sessionReady →
      (p.session s).socket.any Socket.isOpen = true)
    {c : Call}
    (hsized : ∀ op, c.sendOperation = some op → op.data.length ≤ 2 ^ 32) :
    Ships (plainOf (Connection.sentOver s (((c.operation s).act cfg).run p).outputs))
      (c.reports cfg s p) := by
  cases hop : c.sendOperation with
  | some op =>
      rw [(run_sendOperation cfg s hop p).2, Call.reports_of_sendOperation hop]
      have hid : (p.randIds p.randCount).val ≠ 0 := (p.randIds p.randCount).property
      rcases op.report_cases cfg hworks hopen with ⟨hvalue, hbodies⟩ | ⟨hvalue, hbodies⟩
      · have hframes : ∀ m ∈ Connection.sentOver s ((op.report cfg s).run p).outputs,
            m.body.Plain ∧ m.body.Addressed := by
          intro m hm
          refine op.addressed_frames cfg hid ?_
          rw [← hbodies]
          exact List.mem_map_of_mem hm
        have hplain : plainOf (Connection.sentOver s ((op.report cfg s).run p).outputs) =
            Connection.sentOver s ((op.report cfg s).run p).outputs := by
          refine List.filter_eq_self.mpr fun m hm => ?_
          rw [(hframes m hm).1]
          rfl
        obtain ⟨hnothing, hparcels⟩ := op.unpack_frames cfg (hsized op hop)
          (p.randIds p.randCount)
        rw [hplain, hvalue, if_pos rfl]
        constructor
        · rw [hbodies]
          exact hnothing
        · rw [hbodies]
          exact hparcels
        · exact fun m hm => (hframes m hm).2
      · rw [List.map_eq_nil_iff.mp hbodies, hvalue]
        exact .of_not_carries (fun m hm => absurd hm List.not_mem_nil) rfl
  | none =>
      have hreports : (c.reports cfg s p).filterMap Event.operation = [] := by
        refine List.filterMap_eq_nil_iff.mpr fun e he => ?_
        rcases Call.mem_reports he with ⟨_, op, hsome, _⟩ | ⟨id, data, _, rfl⟩
        · cases hop.symm.trans hsome
        · rfl
      exact .of_not_carries (fun m hm => c.not_carries hop (List.mem_of_mem_filter hm)) hreports

end SakuraNetwork

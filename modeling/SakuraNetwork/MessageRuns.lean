import SakuraNetwork.Delivery
import Mathlib.Algebra.GroupWithZero.Nat

/-!
# A message without steps in between

A receive thread that takes a message and runs its statements while no other thread takes
a step does what `processMessage` does with the frame of the message.

* `Connection.Completed`: one side has taken its steps.
* `reaches_statements`, `reaches_message`: the runs of the connection that do this.
* `sendable_of_incoming`: what is on its way has a frame.
-/

namespace SakuraNetwork

open Lib

/-! ## The statements of a thread -/

/-- The steps that a statement takes with everything it goes on with, at most. -/
def Statement.weight : Statement → Nat
  | .processSessionInitStart .. => 10
  | .makeSessionReady .. => 6
  | _ => 1

/-- The statements that follow take fewer steps. -/
theorem Statement.weight_run
    (s : SessionRef)
    (st : Statement)
    (p : Process) :
    (((st.run s).run p).value.map Statement.weight).sum < st.weight := by
  cases st with
  | processSessionInitStart clientSessionId messageId sessionIdentifier =>
      exact Nat.lt_succ_self 9
  | makeSessionReady sessionId sessionIdentifier =>
      rw [Statement.run, Act.run_bind]
      cases ((goToNextState s .startSession (some .sessionNotReady)).run p).value with
      | false => exact (by decide : 1 < 6)
      | true => exact (by decide : 4 < 6)
  | _ => exact Nat.zero_lt_one

theorem Statement.completeAll_append
    (s : SessionRef)
    (l l' : List Statement)
    (p : Process) :
    (completeAll s (l ++ l')).run p =
      (do
        completeAll s l
        completeAll s l' : Act Unit).run p := by
  induction l generalizing p with
  | nil => simp [completeAll, Act.run_bind]
  | cons st l ih =>
      rw [List.cons_append, completeAll, completeAll, Act.run_bind, ih]
      simp only [Act.run_bind, List.append_assoc]

/-- The next statement is run, then what it goes on with and the rest. -/
theorem Statement.completeAll_cons
    (s : SessionRef)
    (st : Statement)
    (rest : List Statement)
    (p : Process) :
    let o := (st.run s).run p
    let o' := (completeAll s (o.value ++ rest)).run o.process
    ((completeAll s (st :: rest)).run p).process = o'.process ∧
      ((completeAll s (st :: rest)).run p).outputs = o.outputs ++ o'.outputs := by
  intro o o'
  have hone := complete_run s st p
  simp only [Outcome.result, Act.run_bind, Prod.mk.injEq, true_and] at hone
  obtain ⟨hprocess, houtputs⟩ := hone
  have happend : o' = (do
      completeAll s o.value
      completeAll s rest : Act Unit).run o.process := completeAll_append s o.value rest o.process
  rw [happend, completeAll, Act.run_bind, Act.run_bind]
  constructor
  · change ((completeAll s rest).run ((st.complete s).run p).process).process = _
    rw [← hprocess]
  · change ((st.complete s).run p).outputs ++
      ((completeAll s rest).run ((st.complete s).run p).process).outputs = _
    rw [← hprocess, ← houtputs, List.append_assoc]

/-! ## The runs of a thread -/

/-- One side has taken steps that led to this process and had these outputs. -/
structure Connection.Completed
    (st : Connection Peer)
    (x : Side)
    (process : Process)
    (outputs : List Output)
    (ending : Nat)
    (st' : Connection Peer) : Prop where
  core : (st'.party x).core = { (st.party x).core with process := process }
  ending : (st'.party x).ending = ending
  party : ∀ y, y ≠ x → st'.party y = st.party y
  incoming : st'.incoming x = st.incoming x
  sent : st'.incoming x.other = st.incoming x.other ++ Connection.sentOver (st.ref x) outputs
  log : st'.log = [] ↔ st.log = [] ∧ Connection.sentOver (st.ref x) outputs = []

namespace Connection

variable {cfg : Config} {sessionIdentifier : Bytes} {st : Connection Peer} {x : Side}

/-- A side has run an operation. -/
theorem completed_run
    {α : Type}
    (answered : Option Message)
    (f : SessionRef → Act α)
    (statements : α → List Statement)
    (ending : α → Nat) :
    st.Completed x ((f (st.ref x)).run (st.process x)).process
      ((f (st.ref x)).run (st.process x)).outputs
      (ending ((f (st.ref x)).run (st.process x)).value)
      (st.run x answered f statements ending) := by
  constructor
  · rw [run, perform_party_same]
    rfl
  · rw [run, perform_party_same]
    rfl
  · intro y hy
    rw [run, perform_party_other hy]
  · rw [run, perform_incoming_same]
  · rw [run, perform_incoming_other (Side.other_ne x)]
    rfl
  · rw [run, perform_log, List.append_eq_nil_iff, List.map_eq_nil_iff]
    rfl

/-- No steps. -/
theorem Completed.refl : st.Completed x (st.process x) [] (st.party x).ending st :=
  ⟨rfl, rfl, fun _ _ => rfl, rfl, (List.append_nil _).symm,
    ⟨fun hlog => ⟨hlog, rfl⟩, fun hlog => hlog.1⟩⟩

/-- More steps. -/
theorem Completed.trans
    {process process' : Process}
    {outputs outputs' : List Output}
    {ending ending' : Nat}
    {st' st'' : Connection Peer}
    (h : st.Completed x process outputs ending st')
    (h' : st'.Completed x process' outputs' ending' st'') :
    st.Completed x process' (outputs ++ outputs') ending' st'' := by
  have href : st'.ref x = st.ref x := by
    rw [ref, h.core]
    rfl
  constructor
  · rw [h'.core, h.core]
  · exact h'.ending
  · intro y hy
    rw [h'.party y hy, h.party y hy]
  · rw [h'.incoming, h.incoming]
  · rw [h'.sent, h.sent, href, sentOver_append, List.append_assoc]
  · rw [h'.log, h.log, href, sentOver_append, List.append_eq_nil_iff, and_assoc]

end Connection

/-- What a side gets in callbacks. -/
def gotFrom (x : Side) (outputs : List Output) : List (Side × Event) :=
  (outputs.filterMap Output.event).map (fun e => (x, e))

theorem gotFrom_append (x : Side) (outputs outputs' : List Output) :
    gotFrom x (outputs ++ outputs') = gotFrom x outputs ++ gotFrom x outputs' := by
  rw [gotFrom, List.filterMap_append, List.map_append]
  rfl

/-- The thread of a side runs its statements. -/
theorem reaches_statements
    {cfg : Config}
    {sessionIdentifier : Bytes}
    {st : Connection Peer}
    {seen : List (Side × Event)}
    (h : (exchange cfg sessionIdentifier).Reaches (fun st a => st.1.Permits a)
      (st, seen))
    (x : Side) :
    let o := (Statement.completeAll (st.ref x) (st.party x).statements).run (st.process x)
    ∃ st', (exchange cfg sessionIdentifier).Reaches (fun st a => st.1.Permits a)
        (st', seen ++ gotFrom x o.outputs) ∧
      (st'.party x).statements = [] ∧
      st.Completed x o.process o.outputs (st.party x).ending st' := by
  generalize hweight : ((st.party x).statements.map Statement.weight).sum = n
  induction n using Nat.strong_induction_on generalizing st seen with
  | _ n ih =>
      intro o
      cases hstatements : (st.party x).statements with
      | nil =>
          have hnothing : o = { value := (), process := st.process x } := by
            change (Statement.completeAll (st.ref x) (st.party x).statements).run _ = _
            rw [hstatements]
            rfl
          rw [hnothing]
          refine ⟨st, ?_, hstatements, .refl⟩
          rw [show gotFrom x ([] : List Output) = [] from rfl, List.append_nil]
          exact h
      | cons statement rest =>
          let o' := (statement.run (st.ref x)).run (st.process x)
          let next := st.run x (st.party x).handling (fun s => statement.run s)
            (fun l => l ++ rest) (fun _ => (st.party x).ending)
          have hevents : (st.events cfg sessionIdentifier (.statement x)).map (fun e => (x, e)) =
              gotFrom x o'.outputs := by
            have houtputs : ((st.operation cfg sessionIdentifier (.statement x)).run
                (st.process x)).outputs = o'.outputs := by
              simp only [Connection.operation, hstatements]
              exact List.append_nil _
            rw [Connection.events, show (Action.statement x).side = x from rfl, houtputs]
            exact congrArg (List.map (fun e => (x, e))) (List.append_nil _)
          have hstep : (exchange cfg sessionIdentifier).step (st, seen) (.statement x) =
              some (next, seen ++ gotFrom x o'.outputs) := by
            rw [← hevents]
            simp only [exchange, TransitionSystem.observed, TransitionSystem.startingFrom,
              connection, Connection.step, hstatements, Option.map_some]
            rfl
          have hfirst : st.Completed x o'.process o'.outputs (st.party x).ending next :=
            Connection.completed_run _ (fun s => statement.run s) _
              (fun _ => (st.party x).ending)
          have href : next.ref x = st.ref x := by
            rw [Connection.ref, hfirst.core]
            rfl
          have hprocess : next.process x = o'.process := by
            rw [Connection.process, hfirst.core]
          have hrest : (next.party x).statements = o'.value ++ rest := by
            change (Connection.party (Connection.perform _ _ _ _ _ _ _) x).statements = _
            rw [Connection.perform_party_same]
            rfl
          have hless : ((next.party x).statements.map Statement.weight).sum < n := by
            rw [hrest, ← hweight, hstatements, List.map_append, List.sum_append, List.map_cons,
              List.sum_cons]
            exact Nat.add_lt_add_right (statement.weight_run (st.ref x) (st.process x)) _
          obtain ⟨st', hreaches, hidle, hcompleted⟩ := ih _ hless
            (.step h ⟨by exact trivial, by exact Nat.zero_le _⟩ hstep) rfl
          rw [href, hprocess, hrest] at hreaches hcompleted
          rw [hfirst.ending] at hcompleted
          obtain ⟨hlast, houtputs⟩ :=
            Statement.completeAll_cons (st.ref x) statement rest (st.process x)
          have ho : o = (Statement.completeAll (st.ref x) (statement :: rest)).run
              (st.process x) := by
            change (Statement.completeAll (st.ref x) (st.party x).statements).run _ = _
            rw [hstatements]
          rw [ho, hlast, houtputs, gotFrom_append, ← List.append_assoc]
          exact ⟨st', hreaches, hidle, hfirst.trans hcompleted⟩

/-- The thread of a side takes the next message and runs its statements. -/
theorem reaches_message
    {cfg : Config}
    {sessionIdentifier : Bytes}
    {st : Connection Peer}
    {seen : List (Side × Event)}
    (h : (exchange cfg sessionIdentifier).Reaches (fun st a => st.1.Permits a)
      (st, seen))
    {x : Side}
    {m : Message}
    {rest : List Message}
    (hidle : (st.party x).statements = [])
    (hincoming : st.incoming x = m :: rest)
    (hopen : (st.session x).socket.any Socket.isOpen = true) :
    let o := (m.handle (st.ref x)).run (st.process x)
    ∃ st', (exchange cfg sessionIdentifier).Reaches (fun st a => st.1.Permits a)
        (st', seen ++ gotFrom x o.outputs) ∧
      (st'.party x).statements = [] ∧
      (st.take x m rest).Completed x o.process o.outputs (st.party x).ending st' := by
  intro o
  have hstep : (exchange cfg sessionIdentifier).step (st, seen) (.receive x) =
      some (st.take x m rest, seen) := by
    have hnothing : (st.events cfg sessionIdentifier (.receive x)).map
        (fun e => ((Action.receive x).side, e)) = [] := rfl
    simp only [exchange, TransitionSystem.observed, TransitionSystem.startingFrom, connection,
      Connection.step, hidle, hincoming, hopen, if_true, Option.map_some, hnothing,
      List.append_nil]
  obtain ⟨st', hreaches, hdone, hcompleted⟩ := reaches_statements
    (.step h ⟨by exact trivial, by exact Nat.zero_le _⟩ hstep) x
  have href : (st.take x m rest).ref x = st.ref x := by
    rw [Connection.ref, Connection.take_core]
    rfl
  have hprocess : (st.take x m rest).process x = st.process x := by
    rw [Connection.process, Connection.take_core]
    rfl
  have hstatements : ((st.take x m rest).party x).statements = m.statements := by
    rw [Connection.take_party_same]
  have hresult := complete_statements (st.ref x) m (st.process x)
  simp only [Outcome.result, Prod.mk.injEq, true_and] at hresult
  rw [href, hprocess, hstatements, hresult.1, hresult.2, Connection.take_ending] at hcompleted
  rw [href, hprocess, hstatements, hresult.2] at hreaches
  exact ⟨st', hreaches, hdone, hcompleted⟩

/-! ## Frames for what is sent -/

/-- A reply has a frame. -/
theorem Body.sendable_of_reply
    {cfg : Config}
    {b body : Body}
    (h : b.reply = some body) :
    body.Sendable cfg := by
  cases b with
  | sessionCloseStart replyExpected =>
      cases h
      trivial
  | heartbeatStart =>
      cases h
      trivial
  | stream replyExpected data =>
      cases replyExpected with
      | true =>
          cases h
          trivial
      | false => cases h
  | singleBlock multiblockId blockerId data =>
      cases h
      trivial
  | _ => cases h

/-- The messages of the handshake carry the identifier of the client. -/
theorem Handshake.sendable
    {cfg : Config}
    {sessionIdentifier : Bytes}
    {k : HandshakeIds}
    {b : Progress}
    {d : Dialogue}
    (h : Handshake sessionIdentifier k b d)
    (hlen : sessionIdentifier.length ≤ 64000)
    {x : Side}
    {m : Message}
    (hm : m ∈ d.incoming x)
    (hopens : m.body.opensSession = true) :
    m.body.Sendable cfg := by
  have hmem : m ∈ b.opening k sessionIdentifier x := by
    rw [← h.opening x, List.mem_filter]
    exact ⟨List.mem_append_right _ hm, hopens⟩
  cases b with
  | called =>
      cases x with
      | client => cases hmem
      | server =>
          rw [List.mem_singleton.mp hmem]
          exact hlen
  | answered =>
      cases x with
      | client =>
          rw [List.mem_singleton.mp hmem]
          exact hlen
      | server => cases hmem
  | _ => cases hmem

/-- The other messages that a step sends have a frame. -/
theorem sendable_step
    {cfg : Config}
    {sessionIdentifier : Bytes}
    {d d' : Dialogue}
    {a : Action}
    (hstep : Dialogue.Step cfg sessionIdentifier d a d')
    {x : Side}
    {m : Message}
    (hm : m ∈ d'.incoming x)
    (hplain : m.body.Plain) :
    m ∈ d.incoming x ∨ m.body.Sendable cfg := by
  have hperform : ∀ {y : Side} {answered : Option Message} {e' : SessionEndpoint}
      {statements : List Statement} {ending : Nat} {sent : List Message},
      (∀ m' ∈ sent, m'.body.Plain → m'.body.Sendable cfg) →
        m ∈ (d.perform y answered e' statements ending sent).incoming x →
          m ∈ d.incoming x ∨ m.body.Sendable cfg := by
    intro y answered e' statements ending sent hsent hmem
    rcases Side.eq_or_other y x with rfl | rfl
    · rw [Connection.perform_incoming_same] at hmem
      exact Or.inl hmem
    · rw [Connection.perform_incoming_other (Side.other_ne y)] at hmem
      rcases List.mem_append.mp hmem with hold | hnew
      · exact Or.inl hold
      · exact Or.inr (hsent m hnew hplain)
  have hif : ∀ {c : Prop} [Decidable c] {l : List Message},
      (∀ m' ∈ l, m'.body.Plain → m'.body.Sendable cfg) →
        ∀ m' ∈ (if c then l else []), m'.body.Plain → m'.body.Sendable cfg := by
    intro c _ l hl m' hm'
    split at hm'
    · exact hl m' hm'
    · cases hm'
  cases hstep with
  | start messageId hlog hfresh =>
      refine hperform (fun m' hm' hplain' => ?_) hm
      rw [List.mem_singleton.mp hm'] at hplain'
      cases hplain'
  | @take y m' rest hidle hincoming hopen =>
      refine Or.inl ?_
      rcases Side.eq_or_other y x with rfl | rfl
      · rw [hincoming]
        simp only [Connection.take, if_true] at hm
        exact List.mem_cons_of_mem _ hm
      · simpa [Connection.take] using hm
  | @drop y m' rest hidle hincoming hclosed =>
      refine Or.inl ?_
      rcases Side.eq_or_other y x with rfl | rfl
      · rw [hincoming]
        rw [Connection.drop_incoming_same] at hm
        exact List.mem_cons_of_mem _ hm
      · rw [Connection.drop_incoming_other (Side.other_ne y)] at hm
        exact hm
  | @handle y m' rest hstatements _ =>
      refine hperform (hif fun m'' hm'' _ => ?_) hm
      obtain ⟨body, hbody, rfl⟩ := List.mem_map.mp hm''
      exact Body.sendable_of_reply (Option.mem_toList.mp hbody)
  | @statement y st rest hstatements hother =>
      refine hperform (hif fun m' hm' hplain' => ?_) hm
      cases st with
      | sendSessionInitReply =>
          rw [List.mem_singleton.mp hm'] at hplain'
          cases hplain'
      | _ => cases hm'
  | call hspeaks => exact hperform (fun m' hm' _ => (hspeaks.spoken m' hm').sendable) hm
  | close messageId =>
      refine hperform (hif fun m' hm' _ => ?_) hm
      rw [List.mem_singleton.mp hm']
      trivial
  | endClose hending => exact hperform (fun m' hm' _ => absurd hm' List.not_mem_nil) hm

/-- Every message on its way has a frame. -/
theorem sendable_of_incoming
    {cfg : Config}
    {sessionIdentifier : Bytes}
    (hlen : sessionIdentifier.length ≤ 64000)
    {st : Connection Peer}
    (h : (connection cfg sessionIdentifier).Reachable st)
    {x : Side}
    {m : Message}
    (hm : m ∈ st.incoming x) :
    m.body.Sendable cfg := by
  cases hopens : m.body.opensSession with
  | true =>
      obtain ⟨k, b, hat⟩ := handshake_of_reaches hlen h
      exact hat.sendable hlen hm hopens
  | false =>
      refine dialogue_invariant (fun _ _ => True)
        (fun d => ∀ x, ∀ m ∈ d.incoming x, m.body.Plain → m.body.Sendable cfg) hlen ?_ ?_ h x m hm
        hopens
      · intro st hinit x m hm
        change m ∈ st.incoming x at hm
        rw [hinit.incoming x] at hm
        cases hm
      · intro d a d' hd _ hstep x m hm hplain
        rcases sendable_step hstep hm hplain with hold | hnew
        · exact hd x m hold hplain
        · exact hnew

end SakuraNetwork

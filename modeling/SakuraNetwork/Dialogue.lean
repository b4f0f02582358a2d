import SakuraNetwork.Endpoints

/-!
# The dialogue of a client and a server

What is left of a connection if the processes are replaced by the endpoints of their
sessions.  Its steps say what each side can do to the other; the connection refines them.

* `Dialogue.Step`: the steps, with the messages that are sent.
* `dialogue_step`: a step of a connection is a step of its dialogue.
* `dialogue_invariant`: a property that the dialogue keeps holds along every run.
-/

namespace SakuraNetwork

open Lib

/-- A connection of which only the endpoints are left. -/
abbrev Dialogue :=
  Connection SessionEndpoint

namespace Dialogue

/-- The steps of a dialogue on which the client starts a session. -/
inductive Step (cfg : Config) (sessionIdentifier : Bytes) : Dialogue → Action → Dialogue → Prop
  | start {d : Dialogue}
      (messageId : UInt32)
      (hlog : d.log = [])
      (hfresh : (d.endpoint .client).state = .notConnected) :
      Step cfg sessionIdentifier d .start
        (d.perform .client none
          { (d.endpoint .client).connect ((d.endpoint .client).sessionIdCounter + 1).toUInt32 with
            sessionIdCounter := (d.endpoint .client).sessionIdCounter + 1 }
          (d.party .client).statements
          (d.party .client).ending
          [⟨((d.endpoint .client).sessionIdCounter + 1).toUInt32, messageId,
            .sessionInitStart ((d.endpoint .client).sessionIdCounter + 1).toUInt32
              sessionIdentifier⟩])
  | take {d : Dialogue} {x : Side} {m : Message} {rest : List Message}
      (hidle : (d.party x).statements = [])
      (hincoming : d.incoming x = m :: rest)
      (hopen : (d.endpoint x).isOpen = true) :
      Step cfg sessionIdentifier d (.receive x) (d.take x m rest)
  | drop {d : Dialogue} {x : Side} {m : Message} {rest : List Message}
      (hidle : (d.party x).statements = [])
      (hincoming : d.incoming x = m :: rest)
      (hclosed : (d.endpoint x).isOpen = false) :
      Step cfg sessionIdentifier d (.receive x) (d.drop x rest)
  | handle {d : Dialogue} {x : Side} {m : Message} {rest : List Statement}
      (hstatements : (d.party x).statements = .handle m :: rest)
      (hplain : m.body.Plain) :
      Step cfg sessionIdentifier d (.statement x)
        (d.perform x (d.party x).handling (m.body.after (d.endpoint x)) rest (d.party x).ending
          (if (d.endpoint x).isOpen then m.replies (d.endpoint x) else []))
  | statement {d : Dialogue} {x : Side} {st : Statement} {rest : List Statement}
      (hstatements : (d.party x).statements = st :: rest)
      (hother : ∀ m, st ≠ .handle m) :
      Step cfg sessionIdentifier d (.statement x)
        (d.perform x (d.party x).handling (st.after (d.endpoint x)).1
          ((st.after (d.endpoint x)).2 ++ rest) (d.party x).ending
          (if (d.endpoint x).isOpen then st.sends else []))
  | call {d : Dialogue} {x : Side} {c : Call} {sent : List Message}
      (hspeaks : c.Speaks cfg (d.endpoint x) sent) :
      Step cfg sessionIdentifier d (.call x c)
        (d.perform x none (d.endpoint x) (d.party x).statements (d.party x).ending sent)
  | close {d : Dialogue} {x : Side} {replyExpected : Bool}
      (messageId : UInt32) :
      Step cfg sessionIdentifier d (.close x replyExpected)
        (d.perform x none (d.endpoint x) (d.party x).statements
          ((d.party x).ending +
            if (d.endpoint x).state = .sessionReady ∧ replyExpected = false then 1 else 0)
          (if (d.endpoint x).state = .sessionReady ∧ (d.endpoint x).isOpen = true then
            [⟨(d.endpoint x).sessionId, messageId, .sessionCloseStart replyExpected⟩]
          else []))
  | endClose {d : Dialogue} {x : Side}
      (hending : 0 < (d.party x).ending) :
      Step cfg sessionIdentifier d (.endClose x)
        (d.perform x none (d.endpoint x).stop (d.party x).statements ((d.party x).ending - 1) [])

end Dialogue

/-- Both sockets work, and the messages that are handled in one step are not of the
handshake. -/
structure Connection.Sound (st : Connection Peer) : Prop where
  works : ∀ x, (st.session x).Works
  plain : ∀ x m, .handle m ∈ (st.party x).statements → m.body.Plain

/-- The message of a statement that handles a message in one step. -/
def Statement.message : Statement → Option Message
  | .handle m => some m
  | _ => none

/-- A message that is handled in one step is not of the handshake. -/
theorem plain_of_statements
    {m m' : Message}
    (h : .handle m' ∈ m.statements) :
    m'.body.Plain := by
  obtain ⟨sessionId, messageId, body⟩ := m
  cases body with
  | sessionInitStart clientSessionId sessionIdentifier =>
      simp [Message.statements] at h
  | sessionInitReply clientSessionId completeSessionId sessionIdentifier =>
      simp [Message.statements] at h
  | _ =>
      simp only [Message.statements, List.mem_singleton, Statement.handle.injEq] at h
      subst h
      rfl

theorem statements_of_plain
    {m : Message}
    (hplain : m.body.Plain) :
    m.statements = [.handle m] := by
  obtain ⟨sessionId, messageId, body⟩ := m
  cases body with
  | sessionInitStart => cases hplain
  | sessionInitReply => cases hplain
  | _ => rfl

/-- A statement of the handshake goes on with statements of the handshake. -/
theorem not_handle_after
    {st : Statement}
    {e : SessionEndpoint}
    {m : Message} :
    .handle m ∉ (st.after e).2 := by
  cases st with
  | makeSessionReady sessionId sessionIdentifier =>
      simp only [Statement.after]
      split <;> simp
  | _ =>
      simp [Statement.after]

namespace Connection

variable {cfg : Config} {sessionIdentifier : Bytes} {st st' : Connection Peer}

/-- An operation of one side, seen from the dialogue. -/
theorem view_run
    {α : Type}
    {x : Side}
    {answered : Option Message}
    {a : SessionRef → Act α}
    {statements : α → List Statement}
    {ending : α → Nat}
    {e : SessionEndpoint}
    {sent : List Message}
    {value : α}
    (hbrings : Brings (st.party x).core.session (st.party x).core.process
      (a (st.party x).core.session) e sent)
    (hvalue : ((a (st.party x).core.session).run (st.party x).core.process).value = value) :
    (st.run x answered a statements ending).view =
      st.view.perform x answered e (statements value) (ending value) sent := by
  rw [run, view_perform, hbrings.endpoint, hbrings.sent, hvalue]

/-- An operation of one side keeps the sockets working. -/
theorem sound_run
    {α : Type}
    {x : Side}
    {answered : Option Message}
    {a : SessionRef → Act α}
    {statements : α → List Statement}
    {ending : α → Nat}
    {e : SessionEndpoint}
    {sent : List Message}
    (hsound : st.Sound)
    (hbrings : Brings (st.party x).core.session (st.party x).core.process
      (a (st.party x).core.session) e sent)
    (hplain : ∀ m, .handle m ∈ statements ((a (st.party x).core.session).run
      (st.party x).core.process).value → m.body.Plain) :
    (st.run x answered a statements ending).Sound := by
  constructor
  · intro y
    by_cases hy : y = x
    · subst hy
      simp only [session, run, perform, if_true]
      exact hbrings.works
    · simp only [session, run, perform, hy, if_false]
      exact hsound.works y
  · intro y m hm
    by_cases hy : y = x
    · subst hy
      simp only [run, perform, if_true] at hm
      exact hplain m hm
    · simp only [run, perform, hy, if_false] at hm
      exact hsound.plain y m hm

theorem sound_take
    {x : Side}
    {m : Message}
    {rest : List Message}
    (hsound : st.Sound) :
    (st.take x m rest).Sound := by
  constructor
  · intro y
    by_cases hy : y = x
    · subst hy
      simp only [session, take, if_true]
      exact hsound.works y
    · simp only [session, take, hy, if_false]
      exact hsound.works y
  · intro y m' hm
    by_cases hy : y = x
    · subst hy
      simp only [take, if_true] at hm
      exact plain_of_statements hm
    · simp only [take, hy, if_false] at hm
      exact hsound.plain y m' hm

theorem sound_of_initial (h : st.Initial) : st.Sound := by
  constructor
  · intro x
    obtain ⟨k, c, hsession, hinit, hresults, _⟩ := h.session x
    rw [hsession]
    exact ⟨k, rfl, hinit, hresults⟩
  · intro x m hm
    rw [h.statements x] at hm
    cases hm

/-- A step of the connection only adds to what was sent. -/
theorem log_prefix_of_step
    {a : Action}
    (hstep : Connection.step cfg sessionIdentifier st a = some st') :
    st.log <+: st'.log := by
  cases a with
  | start =>
      simp only [Connection.step] at hstep
      split at hstep
      · cases hstep
        exact List.prefix_append _ _
      · cases hstep
  | receive x =>
      simp only [Connection.step] at hstep
      split at hstep
      · split at hstep
        · cases hstep
          exact List.prefix_refl _
        · cases hstep
          exact List.prefix_refl _
      · cases hstep
  | statement x =>
      simp only [Connection.step] at hstep
      split at hstep
      · cases hstep
      · cases hstep
        exact List.prefix_append _ _
  | call x c =>
      cases hstep
      exact List.prefix_append _ _
  | close x replyExpected =>
      cases hstep
      exact List.prefix_append _ _
  | endClose x =>
      simp only [Connection.step] at hstep
      split at hstep
      · cases hstep
        exact List.prefix_append _ _
      · cases hstep

/-- A step of a connection is a step of its dialogue. -/
theorem dialogue_step
    (hsound : st.Sound)
    (hlen : sessionIdentifier.length ≤ 64000)
    {a : Action}
    (hstep : (connection cfg sessionIdentifier).step st a = some st') :
    Dialogue.Step cfg sessionIdentifier st.view a st'.view ∧ st'.Sound := by
  have hworks := fun x => hsound.works x
  cases a with
  | start =>
      simp only [connection, step, Option.ite_none_right_eq_some, Option.some.injEq] at hstep
      obtain ⟨⟨hlog, hfresh⟩, rfl⟩ := hstep
      obtain ⟨messageId, hbrings⟩ := brings_startSession (hworks .client) hfresh hlen
      refine ⟨?_, sound_run hsound hbrings fun m hm => hsound.plain .client m hm⟩
      rw [view_run hbrings rfl]
      exact .start messageId hlog hfresh
  | receive x =>
      simp only [connection, step] at hstep
      split at hstep
      · rename_i m rest hidle hincoming
        split at hstep
        · rename_i hopen
          cases hstep
          rw [view_take]
          exact ⟨.take hidle hincoming hopen, sound_take hsound⟩
        · rename_i hopen
          cases hstep
          exact ⟨.drop hidle hincoming ((Bool.not_eq_true _).mp hopen), hsound.works, hsound.plain⟩
      · cases hstep
  | statement x =>
      simp only [connection, step] at hstep
      split at hstep
      · cases hstep
      · rename_i statement rest hstatements
        cases hstep
        have hrest : ∀ m, .handle m ∈ rest → m.body.Plain := fun m hm =>
          hsound.plain x m (by rw [hstatements]; exact List.mem_cons_of_mem _ hm)
        by_cases hhandle : ∃ m, statement = .handle m
        · obtain ⟨m, rfl⟩ := hhandle
          have hplain : m.body.Plain := hsound.plain x m (by rw [hstatements]; simp)
          have hbrings : Brings _ _ ((Statement.handle m).run (st.party x).core.session) _ _ :=
            (brings_handle (hworks x) hplain).congr rfl (List.append_nil _)
          refine ⟨?_, sound_run hsound hbrings hrest⟩
          rw [view_run hbrings rfl]
          exact .handle hstatements hplain
        · have hother : ∀ m, statement ≠ .handle m := fun m h => hhandle ⟨m, h⟩
          obtain ⟨hbrings, hvalue⟩ := brings_statement (hworks x) hother
          refine ⟨?_, sound_run hsound hbrings fun m hm => ?_⟩
          · rw [view_run hbrings hvalue]
            exact .statement hstatements hother
          · rw [hvalue] at hm
            rcases List.mem_append.mp hm with hm | hm
            · exact absurd hm not_handle_after
            · exact hrest m hm
  | call x c =>
      simp only [connection, step, Option.some.injEq] at hstep
      subst hstep
      obtain ⟨sent, hbrings, hspeaks⟩ := brings_call cfg (hworks x) c
      refine ⟨?_, sound_run hsound hbrings fun m hm => hsound.plain x m hm⟩
      rw [view_run hbrings rfl]
      exact .call hspeaks
  | close x replyExpected =>
      simp only [connection, step, Option.some.injEq] at hstep
      subst hstep
      obtain ⟨messageId, hbrings, hvalue⟩ := brings_beginClose (hworks x) replyExpected
      refine ⟨?_, sound_run hsound hbrings fun m hm => hsound.plain x m hm⟩
      have hending : (if (decide ((st.view.endpoint x).state = .sessionReady) &&
          !replyExpected) = true then 1 else 0) =
            if (st.view.endpoint x).state = .sessionReady ∧ replyExpected = false then 1
            else 0 := by
        simp
      rw [view_run hbrings hvalue]
      exact hending ▸ .close messageId
  | endClose x =>
      simp only [connection, step, Option.ite_none_right_eq_some, Option.some.injEq] at hstep
      obtain ⟨hending, rfl⟩ := hstep
      have hbrings := brings_endSession (hworks x)
      refine ⟨?_, sound_run hsound hbrings fun m hm => hsound.plain x m hm⟩
      rw [view_run hbrings rfl]
      exact .endClose hending

end Connection

/-- The sockets work along every run. -/
theorem sound_of_reaches
    {cfg : Config}
    {sessionIdentifier : Bytes}
    {allowed : Connection Peer → Action → Prop}
    (hlen : sessionIdentifier.length ≤ 64000)
    {st : Connection Peer}
    (h : (connection cfg sessionIdentifier).Reaches allowed st) :
    st.Sound := by
  induction h with
  | init hinitial => exact Connection.sound_of_initial hinitial
  | step _ _ hstep ih => exact (Connection.dialogue_step ih hlen hstep).2

/-- A property that the steps of the dialogue keep holds along every run. -/
theorem dialogue_invariant
    {cfg : Config}
    {sessionIdentifier : Bytes}
    (allowed : Dialogue → Action → Prop)
    (Inv : Dialogue → Prop)
    (hlen : sessionIdentifier.length ≤ 64000)
    (hinit : ∀ st : Connection Peer, st.Initial → Inv st.view)
    (hstep : ∀ d a d', Inv d → allowed d a → Dialogue.Step cfg sessionIdentifier d a d' → Inv d')
    {st : Connection Peer}
    (h : (connection cfg sessionIdentifier).Reaches (fun st a => allowed st.view a) st) :
    Inv st.view := by
  induction h with
  | init hinitial => exact hinit _ hinitial
  | step hrun hallowed hstep' ih =>
      obtain ⟨hdialogue, _⟩ := Connection.dialogue_step (sound_of_reaches hlen hrun) hlen hstep'
      exact hstep _ _ _ ih hallowed hdialogue

/-! ## The parts of a state after a step -/

namespace Connection

variable {σ : Type} {st : Connection σ} {x y : Side}

/-- The messages a receive thread has yet to handle in one step, beginning with the one
it took. -/
def pending (st : Connection σ) (x : Side) : List Message :=
  (st.party x).statements.filterMap Statement.message ++ st.incoming x

@[simp] theorem take_party_same {m : Message} {rest : List Message} :
    (st.take x m rest).party x =
      { st.party x with handling := some m, statements := m.statements } := by
  simp [take]

theorem take_party_other {m : Message} {rest : List Message} (h : y ≠ x) :
    (st.take x m rest).party y = st.party y := by
  simp [take, h]

/-- Taking a message changes neither the session of a side nor its closes. -/
theorem take_core {m : Message} {rest : List Message} :
    ((st.take x m rest).party y).core = (st.party y).core := by
  by_cases h : y = x
  · simp [take, h]
  · simp [take, h]

theorem take_wasReady {m : Message} {rest : List Message} :
    ((st.take x m rest).party y).wasReady = (st.party y).wasReady := by
  by_cases h : y = x
  · simp [take, h]
  · simp [take, h]

theorem take_ending {m : Message} {rest : List Message} :
    ((st.take x m rest).party y).ending = (st.party y).ending := by
  by_cases h : y = x
  · simp [take, h]
  · simp [take, h]

@[simp] theorem take_log {m : Message} {rest : List Message} :
    (st.take x m rest).log = st.log := rfl

@[simp] theorem drop_incoming_same {rest : List Message} :
    (st.drop x rest).incoming x = rest := by
  simp [drop]

theorem drop_incoming_other {rest : List Message} (h : y ≠ x) :
    (st.drop x rest).incoming y = st.incoming y := by
  simp [drop, h]

theorem pending_drop
    {m : Message}
    {rest : List Message}
    (hidle : (st.party x).statements = [])
    (hincoming : st.incoming x = m :: rest) :
    st.pending x = m :: (st.drop x rest).pending x := by
  have hparty : ((st.drop x rest).party x).statements = [] := hidle
  rw [pending, pending, drop_incoming_same, hincoming, hidle, hparty]
  rfl

theorem pending_drop_other
    {rest : List Message}
    (h : y ≠ x) :
    (st.drop x rest).pending y = st.pending y := by
  rw [pending, drop_incoming_other h]
  rfl

/-- Taking a message that is handled in one step leaves it to be handled. -/
theorem pending_take
    {m : Message}
    {rest : List Message}
    (hidle : (st.party x).statements = [])
    (hincoming : st.incoming x = m :: rest)
    (hplain : m.body.Plain) :
    (st.take x m rest).pending y = st.pending y := by
  have hstatements : m.statements = [.handle m] := statements_of_plain hplain
  by_cases hy : y = x
  · subst hy
    simp only [pending, take, if_true, hstatements, hidle, hincoming]
    rfl
  · simp only [pending, take, hy, if_false]

variable [HasState σ] {answered : Option Message} {core : σ} {statements : List Statement}
  {ending : Nat} {sent : List Message}

@[simp] theorem perform_party_same :
    (st.perform x answered core statements ending sent).party x =
      { core := core
        handling := (st.party x).handling
        statements := statements
        ending := ending
        wasReady := (st.party x).wasReady || HasState.state core = .sessionReady } := by
  simp [perform]

theorem perform_party_other (h : y ≠ x) :
    (st.perform x answered core statements ending sent).party y = st.party y := by
  simp [perform, h]

@[simp] theorem perform_incoming_same :
    (st.perform x answered core statements ending sent).incoming x = st.incoming x := by
  simp [perform, (Side.other_ne x).symm]

theorem perform_incoming_other (h : y ≠ x) :
    (st.perform x answered core statements ending sent).incoming y = st.incoming y ++ sent := by
  simp [perform, Side.eq_other h]

@[simp] theorem perform_log :
    (st.perform x answered core statements ending sent).log =
      st.log ++ sent.map (fun m => ⟨x, answered, m⟩) := rfl

@[simp] theorem pending_perform_same :
    (st.perform x answered core statements ending sent).pending x =
      statements.filterMap Statement.message ++ st.incoming x := by
  rw [pending, perform_party_same, perform_incoming_same]

theorem pending_perform_other (h : y ≠ x) :
    (st.perform x answered core statements ending sent).pending y = st.pending y ++ sent := by
  rw [pending, perform_party_other h, perform_incoming_other h, ← List.append_assoc]
  rfl

/-- A party keeps the fact that it has been ready. -/
theorem wasReady_perform
    (h : (st.party y).wasReady = true) :
    ((st.perform x answered core statements ending sent).party y).wasReady = true := by
  by_cases hy : y = x
  · subst hy
    simp [h]
  · rw [perform_party_other hy]
    exact h

end Connection

end SakuraNetwork

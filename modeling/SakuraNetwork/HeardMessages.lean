import SakuraNetwork.HandshakeMoves
import SakuraNetwork.Lib.Channel

/-!
# The messages each side has handled

The messages of one side that are not of the handshake reach the handlers of the other side
in the order they were sent.  None is lost while the socket of the receiver is open; the
frames that arrive at a closed socket are dropped.

* `Connection.spoken`: what a side has sent.
* `Heard`: what the other side has handled of it.
* `Heard.step`: a step of the dialogue.
-/

namespace SakuraNetwork

open Lib

/-- The messages that are not of the handshake. -/
def plainOf (messages : List Message) : List Message :=
  messages.filter (fun m => !m.body.opensSession)

@[simp] theorem plainOf_nil : plainOf [] = [] := rfl

@[simp] theorem plainOf_append (messages messages' : List Message) :
    plainOf (messages ++ messages') = plainOf messages ++ plainOf messages' :=
  List.filter_append messages messages'

theorem plainOf_cons_of_plain
    {m : Message}
    (h : m.body.Plain)
    (messages : List Message) :
    plainOf (m :: messages) = m :: plainOf messages :=
  List.filter_cons_of_pos (by rw [h]; rfl)

theorem plainOf_cons_of_opens
    {m : Message}
    (h : m.body.opensSession = true)
    (messages : List Message) :
    plainOf (m :: messages) = plainOf messages :=
  List.filter_cons_of_neg (by rw [h]; exact Bool.false_ne_true)

namespace Connection

variable {σ : Type}

/-- What a side has sent besides the messages of the handshake. -/
def spoken (st : Connection σ) (x : Side) : List Message :=
  plainOf ((st.log.filter (fun e => e.sender = x)).map Sent.message)

variable [HasState σ] {st : Connection σ} {x y : Side} {answered : Option Message} {core : σ}
  {statements : List Statement} {ending : Nat} {sent : List Message}

theorem spoken_perform_same :
    (st.perform x answered core statements ending sent).spoken x =
      st.spoken x ++ plainOf sent := by
  have hown : (sent.map (fun m => Sent.mk x answered m)).filter (fun e => e.sender = x) =
      sent.map (fun m => Sent.mk x answered m) := by
    refine List.filter_eq_self.mpr fun e he => ?_
    obtain ⟨m, _, rfl⟩ := List.mem_map.mp he
    exact decide_eq_true rfl
  rw [spoken, perform_log, List.filter_append, List.map_append, plainOf_append, hown,
    List.map_map]
  exact congrArg (fun l => st.spoken x ++ plainOf l) (List.map_id sent)

theorem spoken_perform_other (h : y ≠ x) :
    (st.perform x answered core statements ending sent).spoken y = st.spoken y := by
  have hnone : (sent.map (fun m => Sent.mk x answered m)).filter (fun e => e.sender = y) =
      [] := by
    refine List.filter_eq_nil_iff.mpr fun e he => ?_
    obtain ⟨m, _, rfl⟩ := List.mem_map.mp he
    simpa using h.symm
  rw [spoken, perform_log, List.filter_append, hnone, List.append_nil]
  rfl

end Connection

/-- What a step takes from the hands of a receive thread. -/
def Action.handled (d : Dialogue) (y : Side) : Action → List Message
  | .statement x =>
      if x = y then ((d.party y).statements.take 1).filterMap Statement.message else []
  | _ => []

/-- What a side has handled of the messages of the other one: they were sent, and come in
order. -/
structure Heard (d : Dialogue) (y : Side) (handled : List Message) : Prop where
  channel : Channel (d.spoken y.other)
    (handled ++ (d.party y).statements.filterMap Statement.message) (plainOf (d.incoming y))
    ((d.endpoint y).isOpen = true)
  plain : ∀ m, .handle m ∈ (d.party y).statements → m.body.Plain

namespace Heard

variable {d : Dialogue} {y : Side} {handled : List Message}

/-- The other side takes a step. -/
theorem of_other
    (h : Heard d y handled)
    {answered : Option Message}
    {e' : SessionEndpoint}
    {statements : List Statement}
    {ending : Nat}
    {sent : List Message} :
    Heard (d.perform y.other answered e' statements ending sent) y handled := by
  have hne : y ≠ y.other := (Side.other_ne y).symm
  constructor
  · rw [Connection.endpoint, Connection.perform_party_other hne, Connection.spoken_perform_same,
      Connection.perform_incoming_other hne, plainOf_append]
    exact h.channel.send (plainOf sent)
  · rw [Connection.perform_party_other hne]
    exact h.plain

/-- The side itself takes a step; it opens its socket only before anything was sent. -/
theorem of_own
    (h : Heard d y handled)
    {answered : Option Message}
    {e' : SessionEndpoint}
    {statements : List Statement}
    {ending : Nat}
    {sent now : List Message}
    (hnow : now ++ statements.filterMap Statement.message =
      (d.party y).statements.filterMap Statement.message)
    (hplain : ∀ m, .handle m ∈ statements → m.body.Plain)
    (hopen : e'.isOpen = true → (d.endpoint y).isOpen = true ∨ d.spoken y.other = []) :
    Heard (d.perform y answered e' statements ending sent) y (handled ++ now) := by
  constructor
  · rw [Connection.endpoint, Connection.perform_party_same, Connection.perform_incoming_same,
      Connection.spoken_perform_other (Side.other_ne y), List.append_assoc, hnow]
    by_cases hnothing : d.spoken y.other = []
    · exact h.channel.of_nothing_sent hnothing
    · exact h.channel.weaken fun he => (hopen he).resolve_right hnothing
  · rw [Connection.perform_party_same]
    exact hplain

/-- The receive thread takes a message. -/
theorem of_take
    (h : Heard d y handled)
    {x : Side}
    {m : Message}
    {rest : List Message}
    (hidle : (d.party x).statements = [])
    (hincoming : d.incoming x = m :: rest)
    (hopen : (d.endpoint x).isOpen = true) :
    Heard (d.take x m rest) y handled := by
  by_cases hy : y = x
  · subst hy
    have hchannel := h.channel
    rw [hidle, hincoming] at hchannel
    constructor
    · simp only [Connection.endpoint, Connection.take, if_true]
      by_cases hplain : m.body.Plain
      · rw [plainOf_cons_of_plain hplain] at hchannel
        rw [statements_of_plain hplain]
        rw [List.filterMap_nil, List.append_nil] at hchannel
        exact hchannel.receive hopen
      · have hopens : m.body.opensSession = true := by
          simpa [Body.Plain] using hplain
        rw [plainOf_cons_of_opens hopens] at hchannel
        have hnone : m.statements.filterMap Statement.message = [] := by
          obtain ⟨sessionId, messageId, body⟩ := m
          cases body with
          | sessionInitStart => rfl
          | sessionInitReply => rfl
          | _ => cases hopens
        rw [hnone]
        exact hchannel
    · intro m' hm'
      simp only [Connection.take, if_true] at hm'
      exact plain_of_statements hm'
  · constructor
    · simp only [Connection.endpoint, Connection.take, hy, if_false]
      exact h.channel
    · simp only [Connection.take, hy, if_false]
      exact h.plain

/-- A frame arrives at a closed socket. -/
theorem of_drop
    (h : Heard d y handled)
    {x : Side}
    {m : Message}
    {rest : List Message}
    (hincoming : d.incoming x = m :: rest)
    (hclosed : (d.endpoint x).isOpen = false) :
    Heard (d.drop x rest) y handled := by
  refine ⟨?_, h.plain⟩
  by_cases hy : y = x
  · subst hy
    have hlost : ¬ (d.endpoint y).isOpen = true := by
      rw [hclosed]
      exact Bool.false_ne_true
    have hchannel := h.channel
    rw [hincoming] at hchannel
    rw [Connection.drop_incoming_same]
    by_cases hplain : m.body.Plain
    · rw [plainOf_cons_of_plain hplain] at hchannel
      exact hchannel.drop hlost
    · rw [plainOf_cons_of_opens (by simpa [Body.Plain] using hplain)] at hchannel
      exact hchannel
  · rw [Connection.drop_incoming_other hy]
    exact h.channel

end Heard

/-! ## The step -/

/-- The handlers do not open a socket. -/
theorem Body.isOpen_of_after
    {b : Body}
    {e : SessionEndpoint}
    (h : (b.after e).isOpen = true) :
    e.isOpen = true := by
  have hdisconnect : e.disconnect.isOpen = true → e.isOpen = true := by
    unfold SessionEndpoint.disconnect
    split
    · exact id
    · exact fun hclosed => absurd hclosed Bool.false_ne_true
  have hstop : e.stop.isOpen = true → e.isOpen = true := by
    unfold SessionEndpoint.stop
    split
    · exact hdisconnect
    · exact id
  cases b with
  | sessionCloseStart => exact hstop h
  | sessionCloseReply => exact hdisconnect h
  | _ => exact h

/-- Only the handler of the server connects, and its socket is open by then. -/
theorem Handshake.isOpen_of_connect
    {sessionIdentifier : Bytes}
    {k : HandshakeIds}
    {b : Progress}
    {d : Dialogue}
    (h : Handshake sessionIdentifier k b d)
    {x : Side}
    {sessionId : UInt32}
    {rest : List Statement}
    (hstatements : (d.party x).statements = .connectiSession sessionId :: rest) :
    (d.endpoint x).isOpen = true := by
  cases hrunning : b.running x with
  | none =>
      rcases h.spare x hrunning with hnone | ⟨m, hone, _⟩
      · rw [hstatements] at hnone
        cases hnone
      · rw [hstatements] at hone
        cases hone
  | some running =>
      have hsame := (h.running x running hrunning).symm.trans hstatements
      subst hsame
      have hclient := h.client
      have hserver := h.server
      cases x with
      | client =>
          cases b with
          | accepting rest' =>
              cases hrunning
              cases hclient.1
          | _ => cases hrunning
      | server =>
          cases b with
          | answering rest' =>
              cases hrunning
              cases hserver with
              | connect _ hopen _ => exact hopen
          | _ => cases hrunning

/-- A statement of the handshake does not open a closed socket. -/
theorem Handshake.isOpen_of_after
    {sessionIdentifier : Bytes}
    {k : HandshakeIds}
    {b : Progress}
    {d : Dialogue}
    (h : Handshake sessionIdentifier k b d)
    {x : Side}
    {st : Statement}
    {rest : List Statement}
    (hstatements : (d.party x).statements = st :: rest)
    (hopen : (st.after (d.endpoint x)).1.isOpen = true) :
    (d.endpoint x).isOpen = true := by
  cases st with
  | connectiSession sessionId => exact h.isOpen_of_connect hstatements
  | makeSessionReady sessionId identifier =>
      simp only [Statement.after] at hopen
      split at hopen
      · exact hopen
      · exact hopen
  | _ => exact hopen

theorem filterMap_message_after
    {st : Statement}
    {e : SessionEndpoint}
    (hother : ∀ m, st ≠ .handle m)
    (rest : List Statement) :
    ((st.after e).2 ++ rest).filterMap Statement.message =
      (st :: rest).filterMap Statement.message := by
  have hnone : ∀ {st' : Statement}, (∀ m, st' ≠ .handle m) → st'.message = none := by
    intro st' hst'
    cases st' with
    | handle m => exact absurd rfl (hst' m)
    | _ => rfl
  have hafter : (st.after e).2.filterMap Statement.message = [] := by
    refine List.filterMap_eq_nil_iff.mpr fun st' hst' => hnone fun m hm => ?_
    rw [hm] at hst'
    exact not_handle_after hst'
  rw [List.filterMap_append, hafter, List.filterMap_cons_none (hnone hother), List.nil_append]

/-- A step of the dialogue: what its receive thread handles was handled. -/
theorem Heard.step
    {cfg : Config}
    {sessionIdentifier : Bytes}
    {k : HandshakeIds}
    {b : Progress}
    {d d' : Dialogue}
    {a : Action}
    {y : Side}
    {handled : List Message}
    (h : Heard d y handled)
    (hat : Handshake sessionIdentifier k b d)
    (hstep : Dialogue.Step cfg sessionIdentifier d a d') :
    Heard d' y (handled ++ a.handled d y) := by
  have hkept : ∀ {x : Side} {answered : Option Message} {e' : SessionEndpoint} {ending : Nat}
      {sent : List Message}, (e'.isOpen = true → (d.endpoint x).isOpen = true) →
        Heard (d.perform x answered e' (d.party x).statements ending sent) y (handled ++ []) := by
    intro x answered e' ending sent hopen
    rcases Side.eq_or_other y x with rfl | rfl
    · exact h.of_own rfl h.plain fun he => Or.inl (hopen he)
    · rw [List.append_nil]
      exact h.of_other
  cases hstep with
  | start messageId hlog hfresh =>
      rcases Side.eq_or_other y .client with hclient | hserver
      · subst hclient
        refine h.of_own rfl h.plain fun _ => Or.inr ?_
        rw [Connection.spoken, hlog]
        rfl
      · rw [hserver]
        change Heard _ y (handled ++ [])
        rw [List.append_nil]
        exact h.of_other
  | take hidle hincoming hopen =>
      change Heard _ y (handled ++ [])
      rw [List.append_nil]
      exact h.of_take hidle hincoming hopen
  | drop hidle hincoming hclosed =>
      change Heard _ y (handled ++ [])
      rw [List.append_nil]
      exact h.of_drop hincoming hclosed
  | @handle x m rest hstatements hplain =>
      rcases Side.eq_or_other y x with rfl | rfl
      · have hhandled : (Action.statement x).handled d x = [m] := by
          rw [Action.handled, if_pos rfl, hstatements]
          rfl
        rw [hhandled]
        refine h.of_own ?_ (fun m' hm' => ?_) fun he => Or.inl (Body.isOpen_of_after he)
        · rw [hstatements]
          rfl
        · exact h.plain m' (by rw [hstatements]; exact List.mem_cons_of_mem _ hm')
      · rw [Action.handled, if_neg (Side.other_ne y), List.append_nil]
        exact h.of_other
  | @statement x st rest hstatements hother =>
      rcases Side.eq_or_other y x with rfl | rfl
      · have hhandled : (Action.statement x).handled d x = [] := by
          rw [Action.handled, if_pos rfl, hstatements]
          cases st with
          | handle m => exact absurd rfl (hother m)
          | _ => rfl
        rw [hhandled]
        refine h.of_own ?_ (fun m' hm' => ?_) fun he => Or.inl (hat.isOpen_of_after hstatements he)
        · rw [hstatements]
          exact filterMap_message_after hother rest
        · rcases List.mem_append.mp hm' with hafter | hrest
          · exact absurd hafter not_handle_after
          · exact h.plain m' (by rw [hstatements]; exact List.mem_cons_of_mem _ hrest)
      · rw [Action.handled, if_neg (Side.other_ne y), List.append_nil]
        exact h.of_other
  | call hspeaks => exact hkept id
  | close messageId => exact hkept id
  | endClose hending =>
      exact hkept fun he => Body.isOpen_of_after (b := .sessionCloseStart false) he

end SakuraNetwork

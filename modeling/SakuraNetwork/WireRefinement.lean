import SakuraNetwork.Wire

/-!
# The bytes of a connection

The wire does what the connection does: in whatever portions the bytes arrive, a run of the
wire is a run of the connection in which the applications see the same.

* `Carries`: the bytes of a side are the frames of the messages on their way to it.
* `wire_simulates`: every step of the wire is matched by steps of the connection.
* `wire_refines`, `delivered_over_bytes`: what holds of the runs.
-/

namespace SakuraNetwork

open Lib

/-- A wire carries the messages of a connection. -/
structure Carries (cfg : Config) (w : Wire) (st : Connection Peer) : Prop where
  core : ∀ x, (st.party x).core = (w.line x).peer
  ending : ∀ x, (st.party x).ending = (w.line x).ending
  log : st.log = [] ↔ (w.line .client).sent = 0 ∧ (w.line .server).sent = 0
  frames : ∀ x, ∃ frames : List (SentFrame cfg),
    frames.map SentFrame.message = st.incoming x ∧
      (w.line x).unread ++ w.transit x = (frames.map SentFrame.bytes).flatten

/-- Messages that can be sent have frames. -/
theorem frames_of_sendable
    (cfg : Config)
    (found : Nat → Memory)
    {messages : List Message}
    (h : ∀ m ∈ messages, m.body.Sendable cfg)
    (n : Nat) :
    ∃ frames : List (SentFrame cfg), frames.map SentFrame.message = messages ∧
      (frames.map SentFrame.bytes).flatten = bytesOf found n messages := by
  induction messages generalizing n with
  | nil => exact ⟨[], rfl, rfl⟩
  | cons m messages ih =>
      obtain ⟨frames, hmessages, hbytes⟩ := ih (fun m' hm' => h m' (List.mem_cons_of_mem m hm'))
        (n + 1)
      refine ⟨⟨found n, m, h m List.mem_cons_self⟩ :: frames, ?_, ?_⟩
      · rw [List.map_cons, hmessages]
      · rw [List.map_cons, List.flatten_cons, hbytes]
        rfl

namespace Wire

variable {w : Wire} {memories : Memories} {x y : Side} {α : Type} {f : SessionRef → Act α}
  {ending : α → Nat}

@[simp] theorem run_line_same :
    (w.run memories x f ending).line x =
      { w.line x with
        peer := { (w.line x).peer with
          process := ((f (w.line x).peer.session).run (w.line x).peer.process).process }
        ending := ending ((f (w.line x).peer.session).run (w.line x).peer.process).value
        sent := (w.line x).sent + (Connection.sentOver (w.line x).peer.session
          ((f (w.line x).peer.session).run (w.line x).peer.process).outputs).length } :=
  if_pos rfl

theorem run_line_other (h : y ≠ x) : (w.run memories x f ending).line y = w.line y :=
  if_neg h

@[simp] theorem run_transit_same : (w.run memories x f ending).transit x = w.transit x :=
  if_neg (Side.other_ne x).symm

@[simp] theorem run_transit_other :
    (w.run memories x f ending).transit x.other = w.transit x.other ++
      bytesOf (memories.found x) (w.line x).sent (Connection.sentOver (w.line x).peer.session
        ((f (w.line x).peer.session).run (w.line x).peer.process).outputs) :=
  if_pos rfl

/-- Only the bytes have moved. -/
def SameLines (w w' : Wire) : Prop :=
  ∀ y, (w'.line y).peer = (w.line y).peer ∧ (w'.line y).ending = (w.line y).ending ∧
    (w'.line y).sent = (w.line y).sent

theorem sameLines_take (n : Nat) : w.SameLines (w.take x n) := by
  intro y
  by_cases hy : y = x
  · subst hy
    simp only [take, if_true, and_self]
  · simp only [take, hy, if_false, and_self]

theorem sameLines_arrive (n : Nat) : w.SameLines (w.arrive x n) := by
  intro y
  by_cases hy : y = x
  · subst hy
    simp only [arrive, if_true, and_self]
  · simp only [arrive, hy, if_false, and_self]

end Wire

namespace Carries

variable {cfg : Config} {w : Wire} {st st' : Connection Peer} {memories : Memories} {x : Side}

/-- A side runs an operation. -/
theorem run
    {α : Type}
    {f : SessionRef → Act α}
    {ending : α → Nat}
    (h : Carries cfg w st)
    (hcompleted : st.Completed x ((f (w.line x).peer.session).run (w.line x).peer.process).process
      ((f (w.line x).peer.session).run (w.line x).peer.process).outputs
      (ending ((f (w.line x).peer.session).run (w.line x).peer.process).value) st')
    (hsendable : ∀ m ∈ st'.incoming x.other, m.body.Sendable cfg) :
    Carries cfg (w.run memories x f ending) st' := by
  have href : st.ref x = (w.line x).peer.session := congrArg Peer.session (h.core x)
  constructor
  · intro y
    by_cases hy : y = x
    · subst hy
      rw [hcompleted.core, h.core y, Wire.run_line_same]
    · rw [hcompleted.party y hy, h.core y, Wire.run_line_other hy]
  · intro y
    by_cases hy : y = x
    · subst hy
      rw [hcompleted.ending, Wire.run_line_same]
    · rw [hcompleted.party y hy, h.ending y, Wire.run_line_other hy]
  · rw [hcompleted.log, h.log, href]
    cases x with
    | client =>
        rw [Wire.run_line_same, Wire.run_line_other (by decide)]
        simp only [Nat.add_eq_zero_iff, List.length_eq_zero_iff]
        exact and_right_comm
    | server =>
        rw [Wire.run_line_same, Wire.run_line_other (by decide)]
        simp only [Nat.add_eq_zero_iff, List.length_eq_zero_iff]
        exact and_assoc
  · intro y
    obtain ⟨frames, hmessages, hbytes⟩ := h.frames y
    rcases Side.eq_or_other x y with rfl | rfl
    · refine ⟨frames, ?_, ?_⟩
      · rw [hcompleted.incoming]
        exact hmessages
      · rw [Wire.run_line_same, Wire.run_transit_same]
        exact hbytes
    · have hsent := hcompleted.sent
      rw [href] at hsent
      obtain ⟨more, hmore, hmoreBytes⟩ := frames_of_sendable cfg (memories.found x)
        (fun m hm => hsendable m (by rw [hsent]; exact List.mem_append_right _ hm))
        (w.line x).sent
      refine ⟨frames ++ more, ?_, ?_⟩
      · rw [List.map_append, hmessages, hmore, hsent]
      · rw [Wire.run_line_other (Side.other_ne x), Wire.run_transit_other, List.map_append,
          List.flatten_append, ← hbytes, hmoreBytes, List.append_assoc]

/-- Only bytes have moved, and messages were taken. -/
theorem of_sameLines
    {w' : Wire}
    (h : Carries cfg w st)
    (hlines : w.SameLines w')
    (hcore : ∀ y, (st'.party y).core = (st.party y).core)
    (hending : ∀ y, (st'.party y).ending = (st.party y).ending)
    (hlog : st'.log = st.log)
    (hframes : ∀ y, ∃ frames : List (SentFrame cfg),
      frames.map SentFrame.message = st'.incoming y ∧
        (w'.line y).unread ++ w'.transit y = (frames.map SentFrame.bytes).flatten) :
    Carries cfg w' st' := by
  constructor
  · intro y
    rw [hcore y, h.core y, (hlines y).1]
  · intro y
    rw [hending y, h.ending y, (hlines y).2.1]
  · rw [hlog, h.log, (hlines .client).2.2, (hlines .server).2.2]
  · exact hframes

/-- The next frame is taken from the receive buffer. -/
theorem take
    {f : SentFrame cfg}
    {frames : List (SentFrame cfg)}
    {unread : Bytes}
    (h : Carries cfg w st)
    (hunread : (w.line x).unread = f.bytes ++ unread)
    (hbytes : unread ++ w.transit x = (frames.map SentFrame.bytes).flatten) :
    Carries cfg (w.take x f.bytes.length)
      (st.take x f.message (frames.map SentFrame.message)) := by
  refine h.of_sameLines (Wire.sameLines_take _) (fun _ => Connection.take_core)
    (fun _ => Connection.take_ending) Connection.take_log fun y => ?_
  by_cases hy : y = x
  · subst hy
    refine ⟨frames, ?_, ?_⟩
    · simp only [Connection.take, if_true]
    · simp only [Wire.take, if_true, hunread, List.drop_left]
      exact hbytes
  · obtain ⟨frames', hmessages, hbytes'⟩ := h.frames y
    refine ⟨frames', ?_, ?_⟩
    · simp only [Connection.take, hy, if_false]
      exact hmessages
    · simp only [Wire.take, hy, if_false]
      exact hbytes'

/-- Nothing is taken from the receive buffer. -/
theorem take_nothing (h : Carries cfg w st) : Carries cfg (w.take x 0) st := by
  refine h.of_sameLines (Wire.sameLines_take 0) (fun _ => rfl) (fun _ => rfl) rfl fun y => ?_
  obtain ⟨frames, hmessages, hbytes⟩ := h.frames y
  refine ⟨frames, hmessages, ?_⟩
  by_cases hy : y = x
  · subst hy
    simp only [Wire.take, if_true, List.drop_zero]
    exact hbytes
  · simp only [Wire.take, hy, if_false]
    exact hbytes

/-- Bytes arrive. -/
theorem arrive
    (h : Carries cfg w st)
    (n : Nat) :
    Carries cfg (w.arrive x n) st := by
  refine h.of_sameLines (Wire.sameLines_arrive n) (fun _ => rfl) (fun _ => rfl) rfl fun y => ?_
  obtain ⟨frames, hmessages, hbytes⟩ := h.frames y
  refine ⟨frames, hmessages, ?_⟩
  by_cases hy : y = x
  · subst hy
    simp only [Wire.arrive, if_true]
    rw [List.append_assoc, List.take_append_drop]
    exact hbytes
  · simp only [Wire.arrive, hy, if_false]
    exact hbytes

end Carries

/-! ## The calls of `processMessage` -/

/-- What `processMessage` does at the front of the buffer: with a complete frame what its
message does, and otherwise nothing. -/
theorem processMessage_front
    {cfg : Config}
    (s : SessionRef)
    (p : Process)
    {frames : List (SentFrame cfg)}
    {unread transit : Bytes}
    (hbytes : unread ++ transit = (frames.map SentFrame.bytes).flatten)
    (beyond : Memory) :
    ((processMessage cfg s ⟨unread, beyond⟩).run p).result = (.taken 0, p, []) ∨
      ∃ f rest more, frames = f :: rest ∧ unread = f.bytes ++ more ∧
        more ++ transit = (rest.map SentFrame.bytes).flatten ∧
          ((processMessage cfg s ⟨unread, beyond⟩).run p).result =
            (.taken f.bytes.length, ((f.message.handle s).run p).process,
              ((f.message.handle s).run p).outputs) := by
  cases frames with
  | nil =>
      obtain ⟨rfl, _⟩ := List.append_eq_nil_iff.mp hbytes
      refine Or.inl ?_
      simp [processMessage, RingBuffer.getObject, CommonMessageHeader.size, Outcome.result]
  | cons f rest =>
      rw [List.map_cons, List.flatten_cons] at hbytes
      have hcomplete : ∀ more, unread = f.bytes ++ more →
          ((processMessage cfg s ⟨unread, beyond⟩).run p).result =
            (.taken f.bytes.length, ((f.message.handle s).run p).process,
              ((f.message.handle s).run p).outputs) := by
        intro more hunread
        rw [hunread]
        exact processMessage_bytes f.sendable s p f.found more beyond
      rcases List.append_eq_append_iff.mp hbytes with ⟨missing, hmissing, htransit⟩ |
        ⟨more, hunread, hrest⟩
      · by_cases hnothing : missing = []
        · subst hnothing
          have hunread : unread = f.bytes ++ [] := by
            rw [hmissing, List.append_nil, List.append_nil]
          exact Or.inr ⟨f, rest, [], rfl, hunread, htransit, hcomplete [] hunread⟩
        · exact Or.inl (processMessage_incomplete f.sendable s p f.found hmissing.symm hnothing
            beyond)
      · exact Or.inr ⟨f, rest, more, rfl, hunread, hrest.symm, hcomplete more hunread⟩

/-! ## The steps of the wire -/

section Steps

variable {cfg : Config} {sessionIdentifier : Bytes} {memories : Memories} {w : Wire}
  {st : Connection Peer} {seen : List (Side × Event)}

/-- The applications see the same of the same operation. -/
theorem events_of_carries
    (hcarries : Carries cfg w st)
    {a : Action}
    {a' : WireAction}
    (hside : a'.side = a.side)
    (hoperation : w.operation cfg sessionIdentifier memories a' =
      st.operation cfg sessionIdentifier a)
    (hreports : w.reports cfg a' = st.reports cfg a) :
    w.events cfg sessionIdentifier memories a' =
      (st.events cfg sessionIdentifier a).map (fun e => (a.side, e)) := by
  have hprocess : st.process a.side = (w.line a.side).peer.process :=
    congrArg Peer.process (hcarries.core a.side)
  rw [Wire.events, Connection.events, hside, hoperation, hreports, hprocess, List.map_append]
  rfl

/-- A step in which a side runs an operation. -/
theorem carries_of_run
    {α : Type}
    {x : Side}
    {a : Action}
    {a' : WireAction}
    {f : SessionRef → Act α}
    {ending : α → Nat}
    (hlen : sessionIdentifier.length ≤ 64000)
    (h : (exchange cfg sessionIdentifier).Reaches (fun st a => st.1.Permits a)
      (st, seen))
    (hcarries : Carries cfg w st)
    (hidle : ∀ y, (st.party y).statements = [])
    (hsized : a.Sized)
    (hstep : (connection cfg sessionIdentifier).step st a =
      some (st.run x none f (fun _ => (st.party x).statements) ending))
    (hevents : w.events cfg sessionIdentifier memories a' =
      (st.events cfg sessionIdentifier a).map (fun e => (a.side, e))) :
    ∃ st', (exchange cfg sessionIdentifier).Reaches (fun st a => st.1.Permits a)
        (st', seen ++ w.events cfg sessionIdentifier memories a') ∧
      Carries cfg (w.run memories x f ending) st' ∧ ∀ y, (st'.party y).statements = [] := by
  have hreaches : (exchange cfg sessionIdentifier).Reaches (fun st a => st.1.Permits a)
      (st.run x none f (fun _ => (st.party x).statements) ending,
        seen ++ w.events cfg sessionIdentifier memories a') := by
    obtain ⟨k, b, hat⟩ := handshake_of_reaches hlen (reachable_of_exchange h.reachable)
    refine .step h ⟨hat.announced_of_idle (hidle .server) a, hsized⟩ ?_
    change ((connection cfg sessionIdentifier).step st a).map _ = _
    rw [hstep, hevents]
    rfl
  have hcompleted : st.Completed x _ _ _ _ :=
    Connection.completed_run none f (fun _ => (st.party x).statements) ending
  have href : st.ref x = (w.line x).peer.session := congrArg Peer.session (hcarries.core x)
  have hprocess : st.process x = (w.line x).peer.process := congrArg Peer.process (hcarries.core x)
  rw [href, hprocess] at hcompleted
  refine ⟨_, hreaches, ?_, ?_⟩
  · exact hcarries.run hcompleted fun m hm =>
      sendable_of_incoming hlen (reachable_of_exchange hreaches.reachable) hm
  · intro y
    by_cases hy : y = x
    · subst hy
      rw [Connection.run, Connection.perform_party_same]
      exact hidle y
    · rw [hcompleted.party y hy]
      exact hidle y

/-- A call of `processMessage` takes the next message, or nothing. -/
theorem carries_of_process
    {x : Side}
    (hlen : sessionIdentifier.length ≤ 64000)
    (h : (exchange cfg sessionIdentifier).Reaches (fun st a => st.1.Permits a)
      (st, seen))
    (hcarries : Carries cfg w st)
    (hidle : ∀ y, (st.party y).statements = [])
    (hopen : (w.session x).socket.any Socket.isOpen = true) :
    ∃ st', (exchange cfg sessionIdentifier).Reaches (fun st a => st.1.Permits a)
        (st', seen ++ w.events cfg sessionIdentifier memories (.process x)) ∧
      Carries cfg ((w.take x (w.taken cfg memories x)).run memories x
        (fun s => processMessage cfg s (w.buffer memories x)) (fun _ => (w.line x).ending)) st' ∧
      ∀ y, (st'.party y).statements = [] := by
  have href : st.ref x = (w.line x).peer.session := congrArg Peer.session (hcarries.core x)
  have hprocess : st.process x = (w.line x).peer.process := congrArg Peer.process (hcarries.core x)
  obtain ⟨frames, hmessages, hbytes⟩ := hcarries.frames x
  let o := (processMessage cfg (w.line x).peer.session (w.buffer memories x)).run
    (w.line x).peer.process
  have hevents : w.events cfg sessionIdentifier memories (.process x) = gotFrom x o.outputs := by
    change gotFrom x (o.outputs ++ []) ++ [] = gotFrom x o.outputs
    rw [List.append_nil, List.append_nil]
  have hpeer : ∀ n, ((w.take x n).line x).peer = (w.line x).peer := fun n =>
    (Wire.sameLines_take n x).1
  rcases processMessage_front (w.line x).peer.session (w.line x).peer.process hbytes
    (memories.beyond x (w.line x).calls) with hfront | ⟨f, rest, more, rfl, hunread, hrest, hfront⟩
  · -- the next frame is not complete
    have hafter : o.process = (w.line x).peer.process := congrArg (fun r => r.2.1) hfront
    have houtputs : o.outputs = [] := congrArg (fun r => r.2.2) hfront
    rw [Wire.taken_of_value (congrArg Prod.fst hfront), hevents, houtputs]
    refine ⟨st, ?_, ?_, hidle⟩
    · rw [show gotFrom x ([] : List Output) = [] from rfl, List.append_nil]
      exact h
    · refine hcarries.take_nothing.run ?_ fun m hm =>
        sendable_of_incoming hlen (reachable_of_exchange h.reachable) hm
      rw [hpeer 0]
      change st.Completed x o.process o.outputs (w.line x).ending st
      rw [hafter, houtputs, ← hprocess, ← hcarries.ending]
      exact .refl
  · -- the next frame is complete
    have hafter : o.process = ((f.message.handle (w.line x).peer.session).run
      (w.line x).peer.process).process := congrArg (fun r => r.2.1) hfront
    have houtputs : o.outputs = ((f.message.handle (w.line x).peer.session).run
      (w.line x).peer.process).outputs := congrArg (fun r => r.2.2) hfront
    have hsession : st.session x = w.session x := by
      rw [Connection.session, hcarries.core x]
      rfl
    have hincoming : st.incoming x = f.message :: rest.map SentFrame.message := hmessages.symm
    obtain ⟨st', hreaches, hdone, hcompleted⟩ := reaches_message h (hidle x) hincoming
      (by rw [hsession]; exact hopen)
    rw [href, hprocess, ← houtputs] at hreaches hcompleted
    rw [← hafter] at hcompleted
    rw [Wire.taken_of_value (congrArg Prod.fst hfront), hevents]
    refine ⟨st', hreaches, ?_, fun y => ?_⟩
    · refine (hcarries.take hunread hrest).run ?_ fun m hm =>
        sendable_of_incoming hlen (reachable_of_exchange hreaches.reachable) hm
      rw [hpeer]
      change (st.take x f.message (rest.map SentFrame.message)).Completed x o.process o.outputs
        (w.line x).ending st'
      rw [← hcarries.ending]
      exact hcompleted
    · by_cases hy : y = x
      · subst hy
        exact hdone
      · rw [hcompleted.party y hy, Connection.take_party_other hy]
        exact hidle y

variable (memories) in
/-- Every step of the wire is matched by steps of the connection. -/
theorem wire_simulates
    (hlen : sessionIdentifier.length ≤ 64000) :
    TransitionSystem.Simulates (wire cfg sessionIdentifier memories)
      ((connection cfg sessionIdentifier).startingFrom Connection.Supplied)
      (Wire.events cfg sessionIdentifier memories)
      (fun st a => (st.events cfg sessionIdentifier a).map (fun e => (a.side, e)))
      (fun _ a => a.Sized) Connection.Permits
      (fun w st => Carries cfg w st ∧ ∀ y, (st.party y).statements = []) := by
  constructor
  · rintro w ⟨st, hinitial, hsupplied, rfl⟩
    refine ⟨st, ⟨hinitial, hsupplied⟩, ⟨fun _ => rfl, hinitial.ending, ?_, fun x => ?_⟩,
      hinitial.statements⟩
    · rw [hinitial.log]
      exact ⟨fun _ => ⟨rfl, rfl⟩, fun _ => rfl⟩
    · refine ⟨[], ?_, rfl⟩
      rw [hinitial.incoming x]
      rfl
  · rintro w st seen a w' h ⟨hcarries, hidle⟩ hsized hstep
    have href : ∀ x, st.ref x = (w.line x).peer.session :=
      fun x => congrArg Peer.session (hcarries.core x)
    have hprocess : ∀ x, st.process x = (w.line x).peer.process :=
      fun x => congrArg Peer.process (hcarries.core x)
    have hsession : ∀ x, st.session x = w.session x := by
      intro x
      rw [Connection.session, hcarries.core x]
      rfl
    have hending := hcarries.ending
    cases a with
    | start =>
        simp only [wire, Wire.step, Option.ite_none_right_eq_some, Option.some.injEq] at hstep
        obtain ⟨⟨hlog, hfresh⟩, rfl⟩ := hstep
        refine carries_of_run (a := .start) hlen h hcarries hidle (by exact Nat.zero_le _) ?_ ?_
        · simp only [connection, Connection.step]
          rw [if_pos ⟨hcarries.log.mpr hlog, by rw [hsession]; exact hfresh⟩, hending]
        · refine events_of_carries hcarries rfl ?_ rfl
          simp only [Wire.operation, Connection.operation, Action.side, WireAction.side, href]
    | arrive x n =>
        cases hstep
        have hnone : w.events cfg sessionIdentifier memories (.arrive x n) = [] := rfl
        rw [hnone, List.append_nil]
        exact ⟨st, h, hcarries.arrive n, hidle⟩
    | process x =>
        simp only [wire, Wire.step, Option.ite_none_right_eq_some, Option.some.injEq] at hstep
        obtain ⟨hopen, rfl⟩ := hstep
        exact carries_of_process hlen h hcarries hidle hopen
    | call x c =>
        cases hstep
        refine carries_of_run hlen h hcarries hidle hsized ?_ ?_
        · rw [← hending]
          rfl
        · refine events_of_carries hcarries rfl ?_ ?_
          · simp only [Wire.operation, Connection.operation, Action.side, WireAction.side, href]
          · simp only [Wire.reports, Connection.reports, href, hprocess]
    | close x replyExpected =>
        cases hstep
        refine carries_of_run (a := .close x replyExpected) hlen h hcarries hidle
          (by exact Nat.zero_le _) ?_ ?_
        · rw [← hending]
          rfl
        · refine events_of_carries hcarries rfl ?_ rfl
          simp only [Wire.operation, Connection.operation, Action.side, WireAction.side, href]
    | endClose x =>
        simp only [wire, Wire.step, Option.ite_none_right_eq_some, Option.some.injEq] at hstep
        obtain ⟨hpending, rfl⟩ := hstep
        refine carries_of_run (a := .endClose x) hlen h hcarries hidle (by exact Nat.zero_le _)
          ?_ ?_
        · simp only [connection, Connection.step, hending, hpending, if_true]
        · refine events_of_carries hcarries rfl ?_ rfl
          simp only [Wire.operation, Connection.operation, Action.side, WireAction.side, href]

end Steps

/-! ## A run -/

namespace Wire

variable {cfg : Config} {sessionIdentifier : Bytes} {memories : Memories} {w : Wire} {x : Side}

/-- All bytes on their way to a side arrive, and are handled as this message. -/
def handled (w : Wire) (memories : Memories) (x : Side) (m : Message) : Wire :=
  ((w.arrive x (w.transit x).length).take x ((w.line x).unread ++ w.transit x).length).run
    memories x (fun s => m.handle s) (fun _ => (w.line x).ending)

/-- A portion of the bytes on their way to a side arrives, and is no frame. -/
def portion (w : Wire) (memories : Memories) (x : Side) (n : Nat) : Wire :=
  ((w.arrive x n).take x 0).run memories x (fun _ => (pure () : Act Unit))
    (fun _ => (w.line x).ending)

theorem run_congr
    {α β : Type}
    {f : SessionRef → Act α}
    {g : SessionRef → Act β}
    (hprocess : ((f (w.line x).peer.session).run (w.line x).peer.process).process =
      ((g (w.line x).peer.session).run (w.line x).peer.process).process)
    (houtputs : ((f (w.line x).peer.session).run (w.line x).peer.process).outputs =
      ((g (w.line x).peer.session).run (w.line x).peer.process).outputs)
    (ending : Nat) :
    w.run memories x f (fun _ => ending) = w.run memories x g (fun _ => ending) := by
  rw [run, run]
  simp only [hprocess, houtputs]

/-- The receive thread is called for the bytes that have arrived, and what `processMessage`
takes of them and does with them is this. -/
theorem reaches_processed
    {α : Type}
    {seen : List (Side × Event)}
    {n taken : Nat}
    {g : SessionRef → Act α}
    (h : (wireExchange cfg sessionIdentifier memories).Reaches (fun _ a => a.Sized) (w, seen))
    (hopen : (w.session x).socket.any Socket.isOpen = true)
    (hresult : ((processMessage cfg (w.line x).peer.session
        ((w.arrive x n).buffer memories x)).run (w.line x).peer.process).result =
      (.taken taken, ((g (w.line x).peer.session).run (w.line x).peer.process).process,
        ((g (w.line x).peer.session).run (w.line x).peer.process).outputs)) :
    (wireExchange cfg sessionIdentifier memories).Reaches (fun _ a => a.Sized)
      (((w.arrive x n).take x taken).run memories x g (fun _ => (w.line x).ending),
        seen ++ gotFrom x
          ((g (w.line x).peer.session).run (w.line x).peer.process).outputs) := by
  let arrived := w.arrive x n
  have hpeer : (arrived.line x).peer = (w.line x).peer := (sameLines_arrive n x).1
  have hending : (arrived.line x).ending = (w.line x).ending := (sameLines_arrive n x).2.1
  have harrived : (wireExchange cfg sessionIdentifier memories).Reaches (fun _ a => a.Sized)
      (arrived, seen ++ []) := .step h (a := .arrive x n) trivial rfl
  rw [List.append_nil] at harrived
  have htaken : arrived.taken cfg memories x = taken := by
    refine taken_of_value ?_
    rw [hpeer]
    exact congrArg Prod.fst hresult
  have hpeer' : ((arrived.take x taken).line x).peer = (w.line x).peer := by
    rw [(sameLines_take taken x).1, hpeer]
  have hrun : (arrived.take x taken).run memories x
      (fun s => processMessage cfg s (arrived.buffer memories x))
        (fun _ => (arrived.line x).ending) =
      (arrived.take x taken).run memories x g (fun _ => (w.line x).ending) := by
    rw [hending]
    refine run_congr ?_ ?_ _
    · rw [hpeer']
      exact congrArg (fun r => r.2.1) hresult
    · rw [hpeer']
      exact congrArg (fun r => r.2.2) hresult
  have hsession : arrived.session x = w.session x := by
    rw [session, hpeer]
    rfl
  have hstep : Wire.step cfg sessionIdentifier memories arrived (.process x) =
      some ((arrived.take x taken).run memories x g (fun _ => (w.line x).ending)) := by
    rw [Wire.step, hsession, if_pos hopen, htaken, hrun]
  have hevents : arrived.events cfg sessionIdentifier memories (.process x) = gotFrom x
      ((g (w.line x).peer.session).run (w.line x).peer.process).outputs := by
    change gotFrom x (((processMessage cfg (arrived.line x).peer.session
      (arrived.buffer memories x)).run (arrived.line x).peer.process).outputs ++ []) ++ [] = _
    rw [List.append_nil, List.append_nil, hpeer]
    exact congrArg (fun r => gotFrom x r.2.2) hresult
  rw [← hevents]
  refine .step harrived (a := .process x) trivial ?_
  change (Wire.step cfg sessionIdentifier memories arrived (.process x)).map _ = _
  rw [hstep]
  rfl

theorem buffer_arrive (n : Nat) :
    (w.arrive x n).buffer memories x =
      ⟨(w.line x).unread ++ (w.transit x).take n, memories.beyond x (w.line x).calls⟩ := by
  simp only [buffer, arrive, if_true]

/-- The rest of a frame arrives. -/
theorem reaches_handled
    {seen : List (Side × Event)}
    (h : (wireExchange cfg sessionIdentifier memories).Reaches (fun _ a => a.Sized) (w, seen))
    (f : SentFrame cfg)
    (hbytes : (w.line x).unread ++ w.transit x = f.bytes)
    (hopen : (w.session x).socket.any Socket.isOpen = true) :
    (wireExchange cfg sessionIdentifier memories).Reaches (fun _ a => a.Sized)
      (w.handled memories x f.message, seen ++ gotFrom x
        ((f.message.handle (w.line x).peer.session).run (w.line x).peer.process).outputs) := by
  have hfront := processMessage_bytes f.sendable (w.line x).peer.session (w.line x).peer.process
    f.found [] (memories.beyond x (w.line x).calls)
  rw [List.append_nil] at hfront
  refine reaches_processed h hopen ?_
  rw [buffer_arrive, List.take_length, hbytes]
  exact hfront

/-- The first bytes of a frame arrive. -/
theorem reaches_portion
    {seen : List (Side × Event)}
    (h : (wireExchange cfg sessionIdentifier memories).Reaches (fun _ a => a.Sized) (w, seen))
    (f : SentFrame cfg)
    {n : Nat}
    (hbytes : (w.line x).unread ++ w.transit x = f.bytes)
    (hn : n < (w.transit x).length)
    (hopen : (w.session x).socket.any Socket.isOpen = true) :
    (wireExchange cfg sessionIdentifier memories).Reaches (fun _ a => a.Sized)
      (w.portion memories x n, seen) := by
  have hmissing : (w.transit x).drop n ≠ [] := by
    rw [Ne, List.drop_eq_nil_iff]
    exact Nat.not_le_of_lt hn
  have hsplit : ((w.line x).unread ++ (w.transit x).take n) ++ (w.transit x).drop n =
      f.message.bytes f.found := by
    rw [List.append_assoc, List.take_append_drop]
    exact hbytes
  have hfront := processMessage_incomplete f.sendable (w.line x).peer.session
    (w.line x).peer.process f.found hsplit hmissing (memories.beyond x (w.line x).calls)
  rw [← buffer_arrive] at hfront
  have hreaches := reaches_processed (g := fun _ => (pure () : Act Unit)) h hopen hfront
  have hnothing : seen ++ gotFrom x ([] : List Output) = seen := List.append_nil seen
  rw [← hnothing]
  exact hreaches

@[simp] theorem handled_unread {m : Message} :
    ((w.handled memories x m).line x).unread = [] := by
  rw [handled, run_line_same]
  simp [take, arrive]

@[simp] theorem handled_transit {m : Message} :
    (w.handled memories x m).transit x = [] := by
  rw [handled, run_transit_same]
  simp [take, arrive]

@[simp] theorem portion_unread {n : Nat} :
    ((w.portion memories x n).line x).unread = (w.line x).unread ++ (w.transit x).take n := by
  rw [portion, run_line_same]
  simp [take, arrive]

@[simp] theorem portion_transit {n : Nat} :
    (w.portion memories x n).transit x = (w.transit x).drop n := by
  rw [portion, run_transit_same]
  simp [take, arrive]

/-- The bytes have only moved. -/
theorem portion_bytes {n : Nat} :
    ((w.portion memories x n).line x).unread ++ (w.portion memories x n).transit x =
      (w.line x).unread ++ w.transit x := by
  rw [portion_unread, portion_transit, List.append_assoc, List.take_append_drop]

/-- A message that is not answered. -/
theorem handled_transit_other
    {m : Message}
    (hsent : Connection.sentOver (w.line x).peer.session
      ((m.handle (w.line x).peer.session).run (w.line x).peer.process).outputs = []) :
    (w.handled memories x m).transit x.other = w.transit x.other := by
  have hpeer : (((w.arrive x (w.transit x).length).take x
      ((w.line x).unread ++ w.transit x).length).line x).peer = (w.line x).peer := by
    rw [(sameLines_take _ x).1, (sameLines_arrive _ x).1]
  rw [handled, run_transit_other, hpeer, hsent, bytesOf, List.append_nil]
  simp [take, arrive]

/-- One message is sent. -/
theorem transit_run_one
    {α : Type}
    {f : SessionRef → Act α}
    {ending : α → Nat}
    {m : Message}
    (htransit : w.transit x.other = [])
    (hsent : Connection.sentOver (w.line x).peer.session
      ((f (w.line x).peer.session).run (w.line x).peer.process).outputs = [m]) :
    (w.run memories x f ending).transit x.other =
      m.bytes (memories.found x (w.line x).sent) := by
  rw [run_transit_other, htransit, hsent]
  exact List.append_nil _

end Wire

/-- Frames are assembled over zeros, and zeros lie behind the unread bytes. -/
def clearMemories : Memories where
  found := fun _ _ _ => 0
  beyond := fun _ _ _ => 0

/-- The init start message of the client. -/
def initStartFrame : SentFrame Config.default where
  found := fun _ => 0
  message := ⟨1, 1, .sessionInitStart 1 [7]⟩
  sendable := Nat.le_of_ble_eq_true rfl

/-- The init reply message of the server. -/
def initReplyFrame : SentFrame Config.default where
  found := fun _ => 0
  message := ⟨1, 1, .sessionInitReply 1 65537 [7]⟩
  sendable := Nat.le_of_ble_eq_true rfl

/-- A stream message of the client. -/
def streamedFrame : SentFrame Config.default where
  found := fun _ => 0
  message := ⟨65537, 2, .stream false [1, 2]⟩
  sendable := Nat.le_of_ble_eq_true rfl

/-- The client has sent its init start message. -/
def startedWire : Wire :=
  (Wire.ofConnection freshConnection).run clearMemories .client (fun s => startSession s [7])
    (fun _ => 0)

/-- The init start message of the client was handled. -/
def answeredWire : Wire :=
  startedWire.handled clearMemories .server initStartFrame.message

/-- The init reply message of the server was handled. -/
def openedWire : Wire :=
  answeredWire.handled clearMemories .client initReplyFrame.message

/-- The client has sent a stream message. -/
def streamedWire : Wire :=
  openedWire.run clearMemories .client
    (fun s => (Call.operation s (.stream [1, 2] false)).act Config.default) (fun _ => 0)

theorem reaches_startedWire :
    (wireExchange Config.default [7] clearMemories).Reaches (fun _ a => a.Sized)
      (startedWire, []) := by
  have hinit : (wireExchange Config.default [7] clearMemories).init
      (.ofConnection freshConnection, []) :=
    ⟨⟨freshConnection, init_freshConnection, ⟨fun _ _ => rfl, fun _ => rfl⟩, rfl⟩, rfl⟩
  exact .step (.init hinit) (a := .start) trivial rfl

theorem reaches_answeredWire :
    (wireExchange Config.default [7] clearMemories).Reaches (fun _ a => a.Sized)
      (answeredWire, [(.server, .created [7])]) := by
  have hsent : startedWire.transit .server = initStartFrame.bytes := by
    rw [startedWire]
    exact Wire.transit_run_one (x := .client) rfl rfl
  have hunread : (startedWire.line .server).unread = [] := rfl
  have hbytes : (startedWire.line .server).unread ++ startedWire.transit .server =
      initStartFrame.bytes := by
    rw [hunread, hsent, List.nil_append]
  exact Wire.reaches_handled reaches_startedWire initStartFrame hbytes rfl

theorem reaches_openedWire :
    (wireExchange Config.default [7] clearMemories).Reaches (fun _ a => a.Sized)
      (openedWire, [(.server, .created [7]), (.client, .created [7])]) := by
  have hsent : answeredWire.transit .client = initReplyFrame.bytes := by
    rw [answeredWire, Wire.handled]
    exact Wire.transit_run_one (x := .server) rfl rfl
  have hunread : (answeredWire.line .client).unread = [] := rfl
  have hbytes : (answeredWire.line .client).unread ++ answeredWire.transit .client =
      initReplyFrame.bytes := by
    rw [hunread, hsent, List.nil_append]
  exact Wire.reaches_handled reaches_answeredWire initReplyFrame hbytes rfl

/-- The header of the stream message has arrived in part, and in full without the rest. -/
def headerWire : Wire :=
  streamedWire.portion clearMemories .server 20

def partWire : Wire :=
  headerWire.portion clearMemories .server 20

/-- What the applications see of a stream message. -/
def streamEvents : List (Side × Event) :=
  [(.server, .created [7]), (.client, .created [7]),
    (.client, .handed 1 (.stream [1, 2] false)), (.server, .got (.stream [1, 2]))]

/-- The stream message of the client was handled. -/
def deliveredWire : Wire × List (Side × Event) :=
  (partWire.handled clearMemories .server streamedFrame.message, streamEvents)

theorem bytes_streamedWire :
    (streamedWire.line .server).unread ++ streamedWire.transit .server = streamedFrame.bytes := by
  have hnothing : openedWire.transit .server = [] := by
    have hsame : openedWire.transit .server = answeredWire.transit .server :=
      Wire.handled_transit_other (x := .client) rfl
    rw [hsame, answeredWire, Wire.handled_transit]
  have hsent : streamedWire.transit .server = streamedFrame.bytes := by
    rw [streamedWire]
    exact Wire.transit_run_one (x := .client) hnothing rfl
  have hunread : (streamedWire.line .server).unread = [] := by
    change (answeredWire.line .server).unread = []
    exact Wire.handled_unread
  rw [hunread, hsent, List.nil_append]

theorem reaches_deliveredWire :
    (wireExchange Config.default [7] clearMemories).Reaches (fun _ a => a.Sized)
      deliveredWire := by
  have hstreamed : (wireExchange Config.default [7] clearMemories).Reaches (fun _ a => a.Sized)
      (streamedWire, [(.server, .created [7]), (.client, .created [7]),
        (.client, .handed 1 (.stream [1, 2] false))]) :=
    .step reaches_openedWire (a := .call .client (.stream [1, 2] false)) (by decide) rfl
  have hlength : 40 < streamedFrame.bytes.length := by
    rw [SentFrame.bytes, Message.bytes_length streamedFrame.sendable]
    decide
  have hheaderBytes : (headerWire.line .server).unread ++ headerWire.transit .server =
      streamedFrame.bytes := Wire.portion_bytes.trans bytes_streamedWire
  have hpartBytes : (partWire.line .server).unread ++ partWire.transit .server =
      streamedFrame.bytes := Wire.portion_bytes.trans hheaderBytes
  have hunread : (streamedWire.line .server).unread = [] := by
    change (answeredWire.line .server).unread = []
    exact Wire.handled_unread
  have htransit : 40 < (streamedWire.transit .server).length := by
    rwa [← bytes_streamedWire, hunread, List.nil_append] at hlength
  have hrest : 20 < (headerWire.transit .server).length := by
    rw [headerWire, Wire.portion_transit, List.length_drop]
    omega
  have hheader := Wire.reaches_portion (n := 20) hstreamed streamedFrame bytes_streamedWire
    (Nat.lt_of_le_of_lt (by decide) htransit) rfl
  have hpart := Wire.reaches_portion (n := 20) hheader streamedFrame hheaderBytes hrest rfl
  exact Wire.reaches_handled hpart streamedFrame hpartBytes rfl

/-! ## The runs of the wire -/

/-- A run of the wire is a run of the connection in which the applications see the same, and
the server announces its data. -/
theorem wire_permits
    {cfg : Config}
    {sessionIdentifier : Bytes}
    {memories : Memories}
    (hlen : sessionIdentifier.length ≤ 64000)
    {w : Wire × List (Side × Event)}
    (h : (wireExchange cfg sessionIdentifier memories).Reaches (fun _ a => a.Sized) w) :
    ∃ st, (exchange cfg sessionIdentifier).Reaches (fun st a => st.1.Permits a) (st, w.2) ∧
      Carries cfg w.1 st ∧ ∀ x, (st.party x).statements = [] :=
  (wire_simulates memories hlen).reaches h

/-- A run of the wire is a run of the connection in which the applications see the same. -/
theorem wire_refines
    {cfg : Config}
    {sessionIdentifier : Bytes}
    {memories : Memories}
    (hlen : sessionIdentifier.length ≤ 64000)
    {w : Wire × List (Side × Event)}
    (h : (wireExchange cfg sessionIdentifier memories).Reaches (fun _ a => a.Sized) w) :
    ∃ st, (exchange cfg sessionIdentifier).Reaches (fun _ a => a.Sized) (st, w.2) ∧
      Carries cfg w.1 st ∧ ∀ x, (st.party x).statements = [] := by
  obtain ⟨st, hreaches, hcarries⟩ := wire_permits hlen h
  exact ⟨st, hreaches.mono fun _ _ hallowed => hallowed.2, hcarries⟩

/-- The connection behind the bytes of a stream message that arrives in three portions. -/
theorem wire_refines_stream :
    deliveredWire.2 = streamEvents ∧
      ∃ st, (exchange Config.default [7]).Reaches (fun _ a => a.Sized) (st, deliveredWire.2) ∧
        Carries Config.default deliveredWire.1 st ∧ ∀ x, (st.party x).statements = [] :=
  ⟨rfl, wire_refines (by decide) reaches_deliveredWire⟩

/-- However the bytes arrive, the callbacks of a side get what the other side handed over, in
order and behind the create callback, and all of it if no byte is left; and a request returns
its response. -/
theorem delivered_over_bytes
    {cfg : Config}
    {sessionIdentifier : Bytes}
    {memories : Memories}
    (hlen : sessionIdentifier.length ≤ 64000)
    {w : Wire × List (Side × Event)}
    (h : (wireExchange cfg sessionIdentifier memories).Reaches (fun _ a => a.Sized) w)
    (x : Side) :
    gotBy x w.2 <+: (parcelsOf (handedBy x.other w.2)).filter Parcel.called ∧
      ((w.1.session x).socket.any Socket.isOpen = true → (w.1.line x).unread = [] →
        w.1.transit x = [] →
          gotBy x w.2 = (parcelsOf (handedBy x.other w.2)).filter Parcel.called) ∧
      CreatedFirst sessionIdentifier (eventsOf x w.2) ∧
      ∀ id data, .returned id data ∈ eventsOf x w.2 →
        (∃ request timeout, (id, .request request timeout) ∈ handedBy x w.2) ∧
          ∃ id', (id', .response data id) ∈ handedBy x.other w.2 := by
  obtain ⟨st, hreaches, hcarries, hidle⟩ := wire_permits hlen h
  obtain ⟨hbegins, hall, hcreated⟩ := delivered_in_order hlen hreaches x
  refine ⟨hbegins, fun hopen hunread htransit => ?_, hcreated, fun id data hreturned =>
    returned_responses hlen (hreaches.mono fun _ _ hallowed => hallowed.2) hreturned⟩
  have hsession : st.session x = w.1.session x := by
    rw [Connection.session, hcarries.core x]
    rfl
  refine hall (by rw [hsession]; exact hopen) (hidle x) ?_
  -- no bytes are left, so no frame is
  obtain ⟨frames, hmessages, hbytes⟩ := hcarries.frames x
  rw [hunread, htransit] at hbytes
  cases frames with
  | nil => exact hmessages.symm
  | cons f rest =>
      have hnil : f.bytes = [] := (List.append_eq_nil_iff.mp hbytes.symm).1
      exact absurd hnil ((receiver_decodes cfg 0 fun _ _ => 0).nonempty f)

/-- Over the bytes the callback of the server got the stream message, behind the create
callback. -/
theorem delivered_over_bytes_stream :
    eventsOf .server deliveredWire.2 = [.created [7], .got (.stream [1, 2])] ∧
      CreatedFirst [7] (eventsOf .server deliveredWire.2) ∧
      gotBy .server deliveredWire.2 =
        (parcelsOf (handedBy .client deliveredWire.2)).filter Parcel.called := by
  obtain ⟨_, hall, hcreated, _⟩ :=
    delivered_over_bytes (by decide) reaches_deliveredWire .server
  exact ⟨rfl, hcreated, hall rfl Wire.handled_unread Wire.handled_transit⟩

end SakuraNetwork

import SakuraNetwork.Runs

/-!
# The identity of a ready session

The id and the identifier of a session are written when it connects and when it
becomes ready.  Frames of the peer reach both places, in any order and any number
of times.  While the session is ready neither is reached: its id and identifier
stay what the create callback announced.

* `Identified`: what an operation may do to the identity of a session.
* `Operation.identified`: every operation does only that.
* `identity_stable`: the identity along the runs of a process.
-/

namespace SakuraNetwork

open Lib

/-- The ids and identifiers in the create callbacks for the session. -/
def announced (s : SessionRef) (outs : List Output) : List (UInt32 × Bytes) :=
  outs.filterMap (fun o =>
    match o with
    | .processCreateSession r sessionId identifier =>
        if r = s then some (sessionId, identifier) else none
    | _ => none)

@[simp] theorem announced_nil (s : SessionRef) : announced s [] = [] := rfl

@[simp] theorem announced_append (s : SessionRef) (outs outs' : List Output) :
    announced s (outs ++ outs') = announced s outs ++ announced s outs' :=
  List.filterMap_append

/-- The id and the identifier of the session. -/
def Process.identity (p : Process) (s : SessionRef) : UInt32 × Bytes :=
  ((p.session s).sessionId, (p.session s).sessionIdentifier)

/-- The session is in `SESSION_READY`. -/
def Process.Ready (p : Process) (s : SessionRef) : Prop :=
  (p.session s).statemachine = .sessionReady

instance (p : Process) (s : SessionRef) : Decidable (p.Ready s) :=
  inferInstanceAs (Decidable ((p.session s).statemachine = .sessionReady))

/-- What an operation may do to the identity of a session: the create callback
announces the identity of a session that becomes ready, and nothing else; a ready
session keeps its identity, and sends under its id. -/
structure Identified (s : SessionRef) (p : Process) (outs : List Output) (p' : Process) : Prop where
  announced : announced s outs = if ¬ p.Ready s ∧ p'.Ready s then [p'.identity s] else []
  identity : p.Ready s → p'.identity s = p.identity s
  sent : p.Ready s → ∀ m, .sent s m ∈ outs → m.SentUnder (p.session s).sessionId

/-! ## Operations that do not make a session ready -/

/-- The session does not become ready and keeps its identity. -/
def settled (s : SessionRef) : Effect where
  rel := fun p outs p' =>
    (p'.Ready s → p.Ready s) ∧ p'.identity s = p.identity s ∧ announced s outs = [] ∧
      ∀ m, .sent s m ∈ outs → m.SentUnder (p.session s).sessionId
  refl := fun p => ⟨id, rfl, rfl, fun m hm => by cases hm⟩
  trans := by
    rintro p q r o o' ⟨hready, hidentity, hnone, hsent⟩ ⟨hready', hidentity', hnone', hsent'⟩
    have hid : (q.session s).sessionId = (p.session s).sessionId := congrArg Prod.fst hidentity
    refine ⟨fun h => hready (hready' h), hidentity'.trans hidentity, ?_, ?_⟩
    · rw [announced_append, hnone, hnone']
      rfl
    · intro m hm
      rcases List.mem_append.mp hm with h | h
      · exact hsent m h
      · rw [← hid]
        exact hsent' m h

/-- The session stays ready or does not become it; its identity may change while it is
not ready. -/
def unmoved (s : SessionRef) : Effect where
  rel := fun p outs p' =>
    (p'.Ready s ↔ p.Ready s) ∧ (p.Ready s → p'.identity s = p.identity s) ∧
      announced s outs = [] ∧
      (p.Ready s → ∀ m, .sent s m ∈ outs → m.SentUnder (p.session s).sessionId)
  refl := fun p => ⟨Iff.rfl, fun _ => rfl, rfl, fun _ m hm => by cases hm⟩
  trans := by
    rintro p q r o o' ⟨hready, hidentity, hnone, hsent⟩ ⟨hready', hidentity', hnone', hsent'⟩
    refine ⟨hready'.trans hready, fun h => ?_, ?_, fun h m hm => ?_⟩
    · exact (hidentity' (hready.mpr h)).trans (hidentity h)
    · rw [announced_append, hnone, hnone']
      rfl
    · have hid : (q.session s).sessionId = (p.session s).sessionId :=
        congrArg Prod.fst (hidentity h)
      rcases List.mem_append.mp hm with hin | hin
      · exact hsent h m hin
      · rw [← hid]
        exact hsent' (hready.mpr h) m hin

/-- The session keeps its state and its identity. -/
def steady (s : SessionRef) : Effect where
  rel := fun p outs p' => (settled s).rel p outs p' ∧ (p.Ready s → p'.Ready s)
  refl := fun p => ⟨(settled s).refl p, id⟩
  trans := fun h h' => ⟨(settled s).trans h.1 h'.1, fun hready => h'.2 (h.2 hready)⟩

theorem settled_of_steady
    {α : Type}
    {s : SessionRef}
    {x : Act α}
    (h : x.Within (steady s)) :
    x.Within (settled s) :=
  fun p => (h p).1

theorem unmoved_of_steady
    {α : Type}
    {s : SessionRef}
    {x : Act α}
    (h : x.Within (steady s)) :
    x.Within (unmoved s) := by
  intro p
  obtain ⟨⟨hready, hidentity, hnone, hsent⟩, hback⟩ := h p
  exact ⟨⟨hready, hback⟩, fun _ => hidentity, hnone, fun _ => hsent⟩

/-- Changes of other members of the session, and of other parts of the process, are
steady. -/
theorem steady_rel
    {s : SessionRef}
    {p p' : Process}
    {outs : List Output}
    (hstate : (p'.session s).statemachine = (p.session s).statemachine)
    (hidentity : p'.identity s = p.identity s)
    (hnone : announced s outs = [])
    (hsent : ∀ m, .sent s m ∈ outs → m.SentUnder (p.session s).sessionId) :
    (steady s).rel p outs p' := by
  have hready : p'.Ready s ↔ p.Ready s := by
    rw [Process.Ready, hstate]
    exact Iff.rfl
  exact ⟨⟨hready.mp, hidentity, hnone, hsent⟩, hready.mpr⟩

theorem steady_modifySession
    {s r : SessionRef}
    {f : Session → Session}
    (hf : r = s → ∀ x, (f x).statemachine = x.statemachine ∧ (f x).sessionId = x.sessionId ∧
      (f x).sessionIdentifier = x.sessionIdentifier)
    (p : Process) :
    (steady s).rel p [] (p.modifySession r f) := by
  by_cases hs : r = s
  · obtain ⟨hstate, hid, hidentifier⟩ := hf hs (p.session r)
    subst hs
    refine steady_rel ?_ ?_ rfl (fun m hm => by cases hm)
    · rw [Process.modifySession_same, hstate]
    · rw [Process.identity, Process.modifySession_same, hid, hidentifier]
      rfl
  · have hother := p.modifySession_other f (Ne.symm hs)
    refine steady_rel ?_ ?_ rfl (fun m hm => by cases hm)
    · rw [hother]
    · rw [Process.identity, hother]
      rfl

theorem steady_members
    {s r : SessionRef}
    {f : Session → Session}
    (hf : ∀ x, (f x).statemachine = x.statemachine ∧ (f x).sessionId = x.sessionId ∧
      (f x).sessionIdentifier = x.sessionIdentifier) :
    (modifySession r f).Within (steady s) :=
  fun p => steady_modifySession (fun _ => hf) p

theorem steady_data (s r : SessionRef) : AdmitsData (steady s) r True (fun _ => True) := by
  have hmembers : ∀ (p : Process) (f : Session → Session),
      (∀ x, (f x).statemachine = x.statemachine ∧ (f x).sessionId = x.sessionId ∧
        (f x).sessionIdentifier = x.sessionIdentifier) →
      (steady s).rel p [] (p.modifySession r f) :=
    fun p f hf => steady_modifySession (fun _ => hf) p
  constructor
  · intro p p' outs hframe houts
    have hsession : (p'.session s).statemachine = (p.session s).statemachine ∧
        p'.identity s = p.identity s := by
      by_cases hs : s = r
      · subst hs
        obtain ⟨k, c, hself⟩ := hframe.self
        simp only [Process.identity, hself, and_self]
      · simp only [Process.identity, hframe.other s hs, and_self]
    refine steady_rel hsession.1 hsession.2 ?_ ?_
    · refine List.filterMap_eq_nil_iff.mpr ?_
      intro o ho
      obtain ⟨m, rfl, _⟩ := houts o ho
      rfl
    · intro m hm
      obtain ⟨m', heq, _, hunder⟩ := houts _ hm
      cases heq
      exact hunder
  · intro _ p l
    exact steady_rel rfl rfl rfl (fun m hm => by cases hm)
  · intro _ p f
    exact hmembers p _ fun _ => ⟨rfl, rfl, rfl⟩
  · intro p
    exact hmembers p _ fun _ => ⟨rfl, rfl, rfl⟩
  · intro p data _
    exact steady_rel rfl rfl rfl (fun m hm => by simp at hm)
  · intro p id data _
    exact steady_rel rfl rfl rfl (fun m hm => by simp at hm)
  · intro p code text _
    exact steady_rel rfl rfl rfl (fun m hm => by simp at hm)
  · intro p id data _
    refine steady_rel rfl rfl ?_ fun m hm => ?_
    · split <;> rfl
    · split at hm <;> simp at hm

theorem steady_timers (s : SessionRef) : AdmitsTimers (steady s) := by
  constructor
  · intro p l
    exact steady_rel rfl rfl rfl (fun m hm => by cases hm)
  · intro p l
    exact steady_rel rfl rfl rfl (fun m hm => by cases hm)
  · intro p r
    exact (steady_data s r).initState p
  · intro p r code text
    exact (steady_data s r).error p code text trivial
  · intro p id
    exact steady_rel rfl rfl rfl (fun m hm => by simp at hm)

/-- Session operations of another session are steady. -/
theorem steady_session {s r : SessionRef} (hne : r ≠ s) : AdmitsSession (steady s) r := by
  constructor
  · intro p c
    exact steady_rel rfl rfl rfl (fun m hm => by cases hm)
  · intro p id
    exact steady_rel rfl rfl rfl (fun m hm => by cases hm)
  · intro p id
    exact steady_rel rfl rfl rfl (fun m hm => by cases hm)
  · intro p f _ _
    exact steady_modifySession (fun h => absurd h hne) p
  · intro p sessionId identifier
    exact steady_rel rfl rfl (by simp [announced, hne]) (fun m hm => by simp at hm)
  · intro p identifier
    exact steady_rel rfl rfl rfl (fun m hm => by simp at hm)

/-! ## Closing and connecting -/

theorem settled_endSession (s : SessionRef) : (endSession s).Within (settled s) := by
  intro p
  rw [endSession_process, endSession_outputs]
  split
  · rename_i hstate
    refine ⟨fun _ => hstate, ?_, rfl, fun m hm => by simp at hm⟩
    simp [Process.identity, Process.stopped, Process.goTo, Process.closeSocket]
  · exact (settled s).refl p

theorem settled_disconnectSession (s : SessionRef) : (disconnectSession s).Within (settled s) := by
  intro p
  rw [disconnectSession_process, disconnectSession_outputs]
  split
  · exact (settled s).refl p
  · refine ⟨fun hready => ?_, ?_, rfl, fun m hm => by cases hm⟩
    · simp [Process.Ready, Process.goTo, Process.closeSocket] at hready
    · simp [Process.identity, Process.goTo, Process.closeSocket]

theorem steady_removeSession (s : SessionRef) (id : UInt32) :
    (SessionHandler.removeSession id).Within (steady s) := by
  intro p
  rw [SessionHandler.run_removeSession]
  exact steady_rel rfl rfl rfl (fun m hm => by cases hm)

theorem steady_addSession (s : SessionRef) (id : UInt32) :
    (SessionHandler.addSession id s).Within (steady s) := by
  intro p
  rw [SessionHandler.run_addSession]
  have hcallbacks : (steady s).rel p [] (p.modifySession s
      (fun x => { x with handlerCallbacks := true })) :=
    steady_modifySession (by intro _ x; exact ⟨rfl, rfl, rfl⟩) p
  exact (steady s).trans hcallbacks (steady_rel rfl rfl rfl (fun m hm => by cases hm))

theorem settled_closeSession (s : SessionRef) (replyExpected : Bool) :
    (closeSession s replyExpected).Within (settled s) :=
  within_closeSession_of_end ((steady_data s s).mono And.left) trivial trivial
    (settled_endSession s) replyExpected

theorem settled_destroySession (s : SessionRef) : (destroySession s).Within (settled s) := by
  have hinit : (modifySession s (fun x => { x with initState := -1 })).Within (settled s) :=
    settled_of_steady (steady_members (by intro x; exact ⟨rfl, rfl, rfl⟩))
  refine hinit.bind fun _ => (Act.Within.getSession s).bind fun x =>
    (settled_of_steady (steady_removeSession s _)).bind fun _ =>
      (settled_closeSession s false).bind fun _ => settled_of_steady ?_
  exact steady_members (by intro x; exact ⟨rfl, rfl, rfl⟩)

theorem settled_finishStart (s : SessionRef) : (finishStart s).Within (settled s) := by
  refine (Act.Within.getSession s).bind fun x => Act.Within.ite (fun _ => ?_) fun _ =>
    Act.Within.pure true
  exact (settled_closeSession s false).bind fun _ => (settled_destroySession s).bind fun _ =>
    Act.Within.pure false

/-- A session that is connected was not ready, and does not become it. -/
theorem unmoved_connectiSession (s : SessionRef) (sessionId : UInt32) :
    (connectiSession s sessionId).Within (unmoved s) := by
  intro p
  rw [connectiSession_process, connectiSession_outputs]
  have hnone : ∀ m : Message, .sent s m ∈ ([] : List Output) →
      m.SentUnder (p.session s).sessionId := fun m hm => by cases hm
  split
  · rename_i hconnectable
    have hstate : (p.session s).statemachine = .notConnected := by
      simp only [Session.connectable, Bool.and_eq_true, decide_eq_true_eq] at hconnectable
      exact hconnectable.1
    have hbefore : ¬ p.Ready s := by
      rw [Process.Ready, hstate]
      exact SessionState.noConfusion
    have hafter : ¬ (p.connected s sessionId).Ready s := by
      simp [Process.Ready, Process.connected]
    exact ⟨iff_of_false hafter hbefore, fun h => absurd h hbefore, rfl, fun _ => hnone⟩
  · split
    · exact (unmoved s).refl p
    · have hsteady : (steady s).rel p [] (p.setInitState s (-1)) :=
        steady_modifySession (by intro _ x; exact ⟨rfl, rfl, rfl⟩) p
      obtain ⟨⟨hready, hidentity, _, _⟩, hback⟩ := hsteady
      exact ⟨⟨hready, hback⟩, fun _ => hidentity, rfl, fun _ => hnone⟩

/-! ## Becoming ready -/

/-- The operation does to the identity of the session what it may do. -/
def Act.Identifies {α : Type} (s : SessionRef) (x : Act α) : Prop :=
  ∀ p, Identified s p (x.run p).outputs (x.run p).process

namespace Act.Identifies

variable {α β : Type} {s : SessionRef}

theorem of_settled {x : Act α} (h : x.Within (settled s)) : Act.Identifies s x := by
  intro p
  obtain ⟨hready, hidentity, hnone, hsent⟩ := h p
  constructor
  · have hno : ¬ (¬ p.Ready s ∧ ((x.run p).process).Ready s) :=
      fun hboth => hboth.1 (hready hboth.2)
    rw [if_neg hno]
    exact hnone
  · exact fun _ => hidentity
  · exact fun _ => hsent

/-- What comes before may change the identity of a session that is not ready. -/
theorem bind_unmoved
    {x : Act α}
    {y : α → Act β}
    (hx : x.Within (unmoved s))
    (hy : ∀ a, Act.Identifies s (y a)) :
    Act.Identifies s (x >>= y) := by
  intro p
  obtain ⟨hready, hidentity, hnone, hsent⟩ := hx p
  have hrest := hy (x.run p).value (x.run p).process
  rw [Act.run_bind]
  constructor
  · rw [announced_append, hnone, hrest.announced]
    simp only [hready, List.nil_append]
  · intro hp
    exact (hrest.identity (hready.mpr hp)).trans (hidentity hp)
  · intro hp m hm
    have hid : (((x.run p).process).session s).sessionId = (p.session s).sessionId :=
      congrArg Prod.fst (hidentity hp)
    rcases List.mem_append.mp hm with hin | hin
    · exact hsent hp m hin
    · rw [← hid]
      exact hrest.sent (hready.mpr hp) m hin

/-- What comes after keeps the identity of a session that became ready. -/
theorem bind_steady
    {x : Act α}
    {y : α → Act β}
    (hx : Act.Identifies s x)
    (hy : ∀ a, (y a).Within (steady s)) :
    Act.Identifies s (x >>= y) := by
  intro p
  have hfirst := hx p
  obtain ⟨⟨hready, hidentity, hnone, hsent⟩, hback⟩ := hy (x.run p).value (x.run p).process
  have hiff : (((y (x.run p).value).run (x.run p).process).process).Ready s ↔
      ((x.run p).process).Ready s := ⟨hready, hback⟩
  rw [Act.run_bind]
  constructor
  · rw [announced_append, hnone, hfirst.announced, hidentity]
    simp only [hiff, List.append_nil]
  · intro hp
    exact hidentity.trans (hfirst.identity hp)
  · intro hp m hm
    have hid : (((x.run p).process).session s).sessionId = (p.session s).sessionId :=
      congrArg Prod.fst (hfirst.identity hp)
    rcases List.mem_append.mp hm with hin | hin
    · exact hfirst.sent hp m hin
    · rw [← hid]
      exact hsent m hin

theorem bind_assoc
    {γ : Type}
    {x : Act α}
    {y : α → Act β}
    {z : β → Act γ}
    (h : Act.Identifies s (x >>= fun a => y a >>= z)) :
    Act.Identifies s ((x >>= y) >>= z) := by
  intro p
  have hp := h p
  simp only [Act.run_bind] at hp ⊢
  rw [List.append_assoc]
  exact hp

end Act.Identifies

/-- The create callback gets the id and the identifier that the session keeps. -/
theorem identifies_makeSessionReady
    (s : SessionRef)
    (sessionId : UInt32)
    (sessionIdentifier : Bytes) :
    (makeSessionReady s sessionId sessionIdentifier).Identifies s := by
  intro p
  rw [makeSessionReady_process, makeSessionReady_outputs]
  by_cases hstate : (p.session s).statemachine = .sessionNotReady
  · have hbefore : ¬ p.Ready s := by
      rw [Process.Ready, hstate]
      exact SessionState.noConfusion
    have hafter : (p.ready s sessionId sessionIdentifier).Ready s := by
      simp [Process.Ready, Process.ready]
    rw [if_pos hstate, if_pos hstate]
    refine ⟨?_, fun h => absurd h hbefore, fun h => absurd h hbefore⟩
    rw [if_pos ⟨hbefore, hafter⟩]
    simp [announced, Process.identity, Process.ready]
  · rw [if_neg hstate, if_neg hstate]
    have hsteady : (modifySession s (fun x => { x with initState := -1 })).Within (steady s) :=
      steady_members (by intro x; exact ⟨rfl, rfl, rfl⟩)
    exact Act.Identifies.of_settled (settled_of_steady hsteady) p

/-- A session message either settles its session or makes it ready. -/
theorem identifies_handle
    (s : SessionRef)
    (messageId : UInt32)
    (f : SessionFrame) :
    (f.handle s messageId).Identifies s := by
  have hD := steady_data s s
  have hsend : ∀ {α : Type} {x : Act α}, OnlySends s (fun _ => True) x → x.Within (steady s) :=
    fun hx => hx.within hD
  cases f with
  | initStart clientSessionId sessionIdentifier =>
      have hcount : SessionHandler.increaseSessionIdCounter.Within (unmoved s) :=
        unmoved_of_steady fun q => steady_rel rfl rfl rfl (fun m hm => by cases hm)
      have hadd : ∀ id, (SessionHandler.addSession id s).Within (unmoved s) :=
        fun id => unmoved_of_steady (steady_addSession s id)
      refine Act.Identifies.bind_unmoved hcount fun _ => Act.Identifies.bind_unmoved (hadd _)
        fun _ => Act.Identifies.bind_unmoved (unmoved_connectiSession s _) fun _ => ?_
      refine Act.Identifies.bind_steady (identifies_makeSessionReady s _ _) fun _ => ?_
      exact (hsend (OnlySends.sendSessionInitReply trivial)).bind fun _ => Act.Within.pure ()
  | initReply initialId completeSessionId sessionIdentifier =>
      refine Act.Identifies.bind_unmoved (unmoved_of_steady (steady_removeSession s initialId))
        fun _ => Act.Identifies.bind_unmoved
          (unmoved_of_steady (steady_addSession s completeSessionId)) fun _ => ?_
      exact Act.Identifies.bind_steady (identifies_makeSessionReady s _ _) fun _ =>
        Act.Within.pure ()
  | closeStart sessionId =>
      refine Act.Identifies.of_settled ?_
      exact (settled_of_steady (hsend (OnlySends.sendReply trivial _))).bind fun _ =>
        (settled_of_steady (steady_removeSession s sessionId)).bind fun _ =>
          (settled_endSession s).bind fun _ => Act.Within.pure ()
  | closeReply sessionId =>
      refine Act.Identifies.of_settled ?_
      exact (settled_of_steady (steady_removeSession s sessionId)).bind fun _ =>
        (settled_disconnectSession s).bind fun _ => Act.Within.pure ()

theorem identifies_processMessage
    (cfg : Config)
    (s : SessionRef)
    (buf : RingBuffer) :
    (processMessage cfg s buf).Identifies s := by
  cases hframe : buf.sessionFrame with
  | none =>
      refine Act.Identifies.of_settled ?_
      exact within_processMessage_of_none ((steady_data s s).mono And.left) trivial trivial
        (settled_closeSession s false) cfg hframe (fun _ _ => trivial) fun _ _ => trivial
  | some f =>
      obtain ⟨messageId, hrun⟩ := processMessage_sessionFrame cfg s hframe
      have hremoved : (Act.modify (fun p => p.withoutReplied buf)).Within (unmoved s) := by
        refine unmoved_of_steady fun p => ?_
        simp only [Act.run_modify, Process.withoutReplied]
        split
        · exact (steady s).refl p
        · exact steady_rel rfl rfl rfl (fun m hm => by cases hm)
      intro p
      rw [(hrun p).1, (hrun p).2]
      exact Act.Identifies.bind_unmoved hremoved (fun _ => identifies_handle s messageId f) p

/-- A session that is started waits for its handshake, or is destroyed. -/
theorem identifies_start
    (cfg : Config)
    (s : SessionRef)
    (sessionIdentifier : Bytes) :
    ((Operation.start s sessionIdentifier).act cfg).Identifies s := by
  have hcount : SessionHandler.increaseSessionIdCounter.Within (unmoved s) :=
    unmoved_of_steady fun q => steady_rel rfl rfl rfl (fun m hm => by cases hm)
  have hend : ∀ connected, (if connected || decide (sessionIdentifier.length > 64000) then pure ()
      else destroySession s : Act Unit).Within (settled s) :=
    fun connected => Act.Within.ite (fun _ => Act.Within.pure ()) fun _ => settled_destroySession s
  have hsend : (sendSessionInitStart s sessionIdentifier).Within (settled s) := by
    refine (Act.Within.getSession s).bind fun _ => (Act.Within.touch _).bind fun _ => ?_
    exact settled_of_steady ((OnlySends.sendNew (P := fun _ => True) trivial).within
      (steady_data s s))
  have hafter : ∀ (newId : UInt32) (connected : Bool), (if connected then do
        SessionHandler.addSession newId s
        let _ ← sendSessionInitStart s sessionIdentifier
        pure true
      else do
        let _ ← closeSession s
        pure false : Act Bool).Within (settled s) := by
    intro newId connected
    refine Act.Within.ite (fun _ => ?_) fun _ => ?_
    · exact (settled_of_steady (steady_addSession s newId)).bind fun _ => hsend.bind fun _ =>
        Act.Within.pure true
    · exact (settled_closeSession s false).bind fun _ => Act.Within.pure false
  simp only [Operation.act, startSession]
  split
  · exact Act.Identifies.of_settled ((Act.Within.pure false).bind hend)
  · refine Act.Identifies.bind_assoc (Act.Identifies.bind_unmoved hcount fun newId => ?_)
    refine Act.Identifies.bind_assoc
      (Act.Identifies.bind_unmoved (unmoved_connectiSession s _) fun connected => ?_)
    exact Act.Identifies.of_settled ((hafter _ connected).bind hend)

/-- Every operation does to the identity of every session what it may do. -/
theorem Operation.identifies
    (cfg : Config)
    (a : Operation)
    (s : SessionRef) :
    (a.act cfg).Identifies s := by
  by_cases hsession : a.session = some s
  · have hD := steady_data s s
    have hsends : ∀ {α : Type} {x : Act α}, OnlySends s (Body.Carried cfg) x →
        (do let _ ← x : Act Unit).Identifies s := by
      intro α x hx
      exact Act.Identifies.of_settled (settled_of_steady
        ((hx.within hD).bind fun _ => Act.Within.pure ()))
    cases a with
    | accept r =>
        exact Act.Identifies.of_settled (Act.Within.pure ())
    | start r sessionIdentifier =>
        cases hsession
        exact identifies_start cfg s sessionIdentifier
    | finishStart r =>
        cases hsession
        exact Act.Identifies.of_settled ((settled_finishStart s).bind fun _ => Act.Within.pure ())
    | receive r buf =>
        cases hsession
        exact (identifies_processMessage cfg s buf).bind_steady fun _ => Act.Within.pure ()
    | close r replyExpected =>
        cases hsession
        exact Act.Identifies.of_settled
          ((settled_closeSession s replyExpected).bind fun _ => Act.Within.pure ())
    | destroy r =>
        cases hsession
        exact Act.Identifies.of_settled (settled_destroySession s)
    | stream r data replyExpected =>
        cases hsession
        exact hsends (onlySends_sendStreamData cfg s data replyExpected)
    | normalMessage r data =>
        cases hsession
        exact hsends (onlySends_sendNormalMessage cfg s data)
    | request r data timeout =>
        cases hsession
        have hrequest : (sendRequest cfg s data timeout).Within _ := within_sendRequest cfg hD
          (fun _ q => (steady_timers s).blockerList q _) data
        exact Act.Identifies.of_settled (settled_of_steady
          (hrequest.bind fun _ => Act.Within.pure ()))
    | response r data blockerId =>
        cases hsession
        exact hsends (onlySends_sendResponse cfg s data blockerId)
    | heartbeat r =>
        cases hsession
        exact hsends (onlySends_sendHeartbeat cfg s)
    | wake blockerId =>
        cases hsession
    | replyTimer =>
        cases hsession
    | blockerTimer =>
        cases hsession
  · have hne : ∀ r, a.session = some r → r ≠ s := by
      rintro r hr rfl
      exact hsession hr
    refine Act.Identifies.of_settled (settled_of_steady ?_)
    exact a.within_act cfg (fun r _ => steady_data s r) (fun r hr => steady_session (hne r hr))
      (fun r hr p => steady_modifySession (fun h => absurd h (hne r hr)) p)
      (fun _ _ _ _ q => (steady_timers s).blockerList q _)
      (a.within_tables cfg (steady_timers s))

/-! ## Runs -/

/-- A run during which the session stays ready. -/
inductive ReadyThroughout (cfg : Config) (s : SessionRef) : System → System → Prop
  | here {st : System} (h : st.process.Ready s) : ReadyThroughout cfg s st st
  | next {st st' st'' : System} {a : Operation}
      (hrun : ReadyThroughout cfg s st st')
      (hstep : (library cfg).step st' a = some st'')
      (hready : st''.process.Ready s) :
      ReadyThroughout cfg s st st''

theorem ReadyThroughout.ready
    {cfg : Config}
    {s : SessionRef}
    {st st' : System}
    (h : ReadyThroughout cfg s st st') :
    st'.process.Ready s := by
  cases h with
  | here hready =>
      exact hready
  | next _ _ hready =>
      exact hready

/-- While a session stays ready its identity is the same, and nothing is announced. -/
theorem ReadyThroughout.identity
    {cfg : Config}
    {s : SessionRef}
    {st st' : System}
    (h : ReadyThroughout cfg s st st') :
    st'.process.identity s = st.process.identity s ∧
      ∃ outs, st'.log = st.log ++ outs ∧ announced s outs = [] := by
  induction h with
  | here hready =>
      exact ⟨rfl, [], (List.append_nil _).symm, rfl⟩
  | @next st' st'' a hrun hstep hready ih =>
      obtain ⟨hidentity, outs, hlog, hnone⟩ := ih
      obtain ⟨_, rfl⟩ := library_step_cases hstep
      have hop := a.identifies cfg s st'.process
      have hbefore := hrun.ready
      refine ⟨(hop.identity hbefore).trans hidentity,
        outs ++ ((a.act cfg).run st'.process).outputs, ?_, ?_⟩
      · simp only [System.after, hlog, List.append_assoc]
      · rw [announced_append, hnone, hop.announced, if_neg fun h => h.1 hbefore]
        rfl

/-- In every step, whatever came before: the create callback of a session is called once
when the session enters `SESSION_READY` and never else, with the id and the identifier
that the session keeps until it leaves; and what the session sends while it is ready,
in the step that leaves as well, carries that id. -/
theorem identity_stable
    {cfg : Config}
    {st st' : System}
    {a : Operation}
    (hstep : (library cfg).step st a = some st')
    (s : SessionRef) :
    ∃ outs, st'.log = st.log ++ outs ∧
      announced s outs =
        (if ¬ st.process.Ready s ∧ st'.process.Ready s then [st'.process.identity s] else []) ∧
      (∀ st'', ReadyThroughout cfg s st' st'' →
        st''.process.identity s = st'.process.identity s ∧
          ∃ later, st''.log = st'.log ++ later ∧ announced s later = []) ∧
      (st.process.Ready s →
        st'.process.identity s = st.process.identity s ∧
          ∀ m, .sent s m ∈ outs → m.SentUnder (st.process.session s).sessionId) := by
  obtain ⟨_, rfl⟩ := library_step_cases hstep
  have hop := a.identifies cfg s st.process
  refine ⟨((a.act cfg).run st.process).outputs, rfl, hop.announced, ?_, ?_⟩
  · exact fun st'' h => h.identity
  · exact fun hready => ⟨hop.identity hready, hop.sent hready⟩

/-- The init start message of a client. -/
theorem identity_stable_opened :
    ∃ outs, openedSystem.log = acceptedSystem.log ++ outs ∧
      announced 0 outs =
        (if ¬ acceptedSystem.process.Ready 0 ∧ openedSystem.process.Ready 0 then
          [openedSystem.process.identity 0] else []) ∧
      (∀ st'', ReadyThroughout Config.default 0 openedSystem st'' →
        st''.process.identity 0 = openedSystem.process.identity 0 ∧
          ∃ later, st''.log = openedSystem.log ++ later ∧ announced 0 later = []) ∧
      (acceptedSystem.process.Ready 0 →
        openedSystem.process.identity 0 = acceptedSystem.process.identity 0 ∧
          ∀ m, .sent 0 m ∈ outs →
            m.SentUnder (acceptedSystem.process.session 0).sessionId) :=
  identity_stable step_openedSystem 0

end SakuraNetwork

import SakuraNetwork.PendingReplies

/-!
# What the handshake draws, registers and sends

A session id is drawn by a start and by the answer to an init start message.  Only
these operations send messages of the handshake.

* `Operation.entryId`: the id under which an operation enters its session.
* `handshakes_act`, `handshakes_start`, `handshakes_initStart`: the messages of the
  handshake an operation sends.
* `Operation.sessionIdCounter_act`, `Operation.find_act`, `Operation.find_act_entryId`:
  what an operation does to the counter and to the registry.
-/

namespace SakuraNetwork

open Lib

/-! ## The messages of the handshake -/

/-- The handshake message that is handed to the socket of a session. -/
def Output.handshake (r : SessionRef) : Output → Option Message
  | .sent s m => if s = r ∧ m.body.opensSession = true then some m else none
  | _ => none

/-- The handshake messages a session sends. -/
def handshakes (r : SessionRef) (outs : List Output) : List Message :=
  outs.filterMap (Output.handshake r)

@[simp] theorem handshakes_nil (r : SessionRef) : handshakes r [] = [] := rfl

@[simp] theorem handshakes_append (r : SessionRef) (outs outs' : List Output) :
    handshakes r (outs ++ outs') = handshakes r outs ++ handshakes r outs' :=
  List.filterMap_append

theorem handshakes_eq_nil
    {r : SessionRef}
    {outs : List Output}
    (h : ∀ o ∈ outs, o.handshake r = none) :
    handshakes r outs = [] :=
  List.filterMap_eq_nil_iff.mpr h

/-- No handshake message is sent. -/
def noHandshake : Effect where
  rel := fun _ outs _ => ∀ r, handshakes r outs = []
  refl := fun _ _ => rfl
  trans := fun h h' r => by rw [handshakes_append, h r, h' r, List.append_nil]

theorem noHandshake_rel
    {p p' : Process}
    {outs : List Output}
    (h : ∀ o ∈ outs, ∀ r, o.handshake r = none) :
    noHandshake.rel p outs p' :=
  fun r => handshakes_eq_nil fun o ho => h o ho r

theorem noHandshake_emit
    {p p' : Process}
    {o : Output}
    (h : ∀ r, o.handshake r = none) :
    noHandshake.rel p [o] p' := by
  refine noHandshake_rel fun o' ho' => ?_
  rw [List.mem_singleton.mp ho']
  exact h

theorem noHandshake_data (s : SessionRef) :
    AdmitsData noHandshake s True (fun _ => True) True (fun _ => True) False := by
  constructor
  · intro p p' outs _ houts
    refine noHandshake_rel fun o ho r => ?_
    obtain ⟨m, rfl, hplain, _⟩ := houts o ho
    simp only [Output.handshake]
    exact if_neg fun h => hplain h.2
  · intro _ p l r
    rfl
  · intro _ p f r
    rfl
  · intro p r
    rfl
  · intro p data _
    exact noHandshake_emit fun r => rfl
  · intro p id data _
    exact noHandshake_emit fun r => rfl
  · intro p code text _
    exact noHandshake_emit fun r => rfl
  · intro p id data _
    refine noHandshake_rel fun o ho r => ?_
    split at ho
    · rw [List.mem_singleton.mp ho]
      rfl
    · cases ho

theorem noHandshake_session (s : SessionRef) : AdmitsSession noHandshake s := by
  constructor
  · intro p c r
    rfl
  · intro p id r
    rfl
  · intro p id r
    rfl
  · intro p f _ _ r
    rfl
  · intro p sessionId identifier
    exact noHandshake_emit fun r => rfl
  · intro p identifier
    exact noHandshake_emit fun r => rfl

theorem noHandshake_timers : AdmitsTimers noHandshake := by
  constructor
  · intro p l r
    rfl
  · intro p l r
    rfl
  · intro p s r
    rfl
  · intro p s code text
    exact noHandshake_emit fun r => rfl
  · intro p id
    exact noHandshake_emit fun r => rfl

/-- The id under which an operation enters its session in the registry. -/
def Operation.entryId (p : Process) : Operation → Option UInt32
  | .start s sessionIdentifier =>
      if sessionIdentifier.length ≤ 64000 ∧ (p.session s).connectable = true then
        some (p.sessionIdCounter + 1).toUInt32
      else none
  | .receive _ buf =>
      match buf.sessionFrame with
      | some (.initStart clientSessionId _) =>
          some (completeSessionId clientSessionId (p.sessionIdCounter + 1))
      | some (.initReply _ completeSessionId _) => some completeSessionId
      | _ => none
  | _ => none

/-- The operation draws a session id. -/
def Operation.draws : Operation → Bool
  | .start _ sessionIdentifier => sessionIdentifier.length ≤ 64000
  | .receive _ buf =>
      match buf.sessionFrame with
      | some (.initStart ..) => true
      | _ => false
  | _ => false

/-- The outputs of a send over a socket. -/
theorem handshakes_sendMessage
    {m : Message}
    (h : m.body.opensSession = true)
    (s r : SessionRef)
    (p : Process) :
    handshakes r ((sendMessage s m).run p).outputs =
      if s = r ∧ (p.session s).socket.any Socket.sendSucceeds = true then [m] else [] := by
  rw [run_sendMessage]
  cases (p.session s).socket with
  | none =>
      simp
  | some k =>
      cases hsend : k.sendSucceeds with
      | true =>
          by_cases hr : s = r
          · simp [handshakes, Output.handshake, hsend, hr, h]
          · simp [handshakes, Output.handshake, hsend, hr]
      | false =>
          simp [hsend]

theorem noHandshake_closeSession (s : SessionRef) (replyExpected : Bool) :
    (closeSession s replyExpected).Within noHandshake :=
  within_closeSession (noHandshake_data s) trivial trivial (noHandshake_session s) replyExpected

theorem noHandshake_destroySession (s : SessionRef) : (destroySession s).Within noHandshake :=
  within_destroySession (noHandshake_data s) trivial trivial (noHandshake_session s)
    fun _ _ => rfl

/-- The answer to an init start message is the only handler's message of the handshake. -/
theorem noHandshake_handle
    (s : SessionRef)
    (messageId : UInt32)
    {f : SessionFrame}
    (h : ∀ clientSessionId sessionIdentifier, f ≠ .initStart clientSessionId sessionIdentifier) :
    (f.handle s messageId).Within noHandshake := by
  have hE := noHandshake_session s
  cases f with
  | initStart clientSessionId sessionIdentifier =>
      exact absurd rfl (h clientSessionId sessionIdentifier)
  | initReply initialId fullSessionId sessionIdentifier =>
      exact (within_removeSession hE _).bind fun _ => (within_addSession hE _).bind fun _ =>
        (within_makeSessionReady hE _ _).bind fun _ => Act.Within.pure ()
  | closeStart sessionId =>
      exact ((OnlySends.sendReply (P := Body.Plain) (by exact rfl) _).within_plain
        (noHandshake_data s)).bind fun _ => (within_removeSession hE _).bind fun _ =>
          (within_endSession hE).bind fun _ => Act.Within.pure ()
  | closeReply sessionId =>
      exact (within_removeSession hE _).bind fun _ =>
        (within_disconnectSession hE).bind fun _ => Act.Within.pure ()

/-- A received frame that is no init start message. -/
theorem noHandshake_processMessage
    (cfg : Config)
    (s : SessionRef)
    {buf : RingBuffer}
    (h : (Operation.receive s buf).draws = false) :
    (processMessage cfg s buf).Within noHandshake := by
  cases hframe : buf.sessionFrame with
  | none =>
      exact within_processMessage_of_none (noHandshake_data s) trivial trivial
        (noHandshake_closeSession s false) cfg hframe (fun _ _ => trivial) fun _ _ => trivial
  | some f =>
      obtain ⟨messageId, hrun⟩ := processMessage_sessionFrame cfg s hframe
      intro p
      rw [(hrun p).2]
      refine noHandshake_handle s messageId ?_ (p.withoutReplied buf)
      rintro clientSessionId sessionIdentifier rfl
      simp [Operation.draws, hframe] at h

/-- A start that cannot connect sends nothing of the handshake. -/
theorem noHandshake_start
    (cfg : Config)
    {s : SessionRef}
    {sessionIdentifier : Bytes}
    {p : Process}
    (h : (Operation.start s sessionIdentifier).entryId p = none)
    (r : SessionRef) :
    handshakes r (((Operation.start s sessionIdentifier).act cfg).run p).outputs = [] := by
  by_cases hlong : sessionIdentifier.length > 64000
  · simp [Operation.act, startSession, hlong]
  · have hconnectable : (p.session s).connectable = false := by
      simpa [Operation.entryId, Nat.le_of_not_lt hlong] using h
    rw [(start_run cfg s (Nat.le_of_not_lt hlong) p).2]
    simp only [hconnectable, Bool.false_eq_true, if_false]
    exact ((noHandshake_closeSession s false).bind fun _ => noHandshake_destroySession s) _ r

/-- Only a session that draws an id and is entered sends a handshake message. -/
theorem handshakes_act
    (cfg : Config)
    {a : Operation}
    {p : Process}
    (h : a.draws = true → a.entryId p = none)
    (r : SessionRef) :
    handshakes r ((a.act cfg).run p).outputs = [] := by
  have hsends : ∀ {α : Type} {x : Act α} (s : SessionRef), OnlySends s (Body.Carried cfg) x →
      handshakes r ((do let _ ← x : Act Unit).run p).outputs = [] := by
    intro α x s hx
    exact (((hx.mono fun _ hb => hb.2).within_plain (noHandshake_data s)).bind
      fun _ => Act.Within.pure ()) p r
  have htables : a.session = none → handshakes r ((a.act cfg).run p).outputs = [] :=
    fun hnone => a.within_tables cfg noHandshake_timers hnone p r
  cases a with
  | accept s =>
      rfl
  | start s sessionIdentifier =>
      by_cases hdraws : (Operation.start s sessionIdentifier).draws = true
      · exact noHandshake_start cfg (h hdraws) r
      · have hlong : ¬ sessionIdentifier.length ≤ 64000 := by
          simpa [Operation.draws] using hdraws
        exact noHandshake_start cfg (if_neg fun hand => hlong hand.1) r
  | finishStart s =>
      exact ((within_finishStart (noHandshake_data s) trivial trivial (noHandshake_session s)
        fun _ _ => rfl).bind fun _ => Act.Within.pure ()) p r
  | receive s buf =>
      cases hdraws : (Operation.receive s buf).draws with
      | true =>
          have hnone := h hdraws
          simp only [Operation.draws] at hdraws
          simp only [Operation.entryId] at hnone
          split at hdraws
          · rename_i hframe
            simp [hframe] at hnone
          · cases hdraws
      | false =>
          exact ((noHandshake_processMessage cfg s hdraws).bind fun _ => Act.Within.pure ()) p r
  | close s replyExpected =>
      exact ((noHandshake_closeSession s replyExpected).bind fun _ => Act.Within.pure ()) p r
  | destroy s =>
      exact noHandshake_destroySession s p r
  | stream s data replyExpected =>
      exact hsends s (onlySends_sendStreamData cfg s data replyExpected)
  | normalMessage s data =>
      exact hsends s (onlySends_sendNormalMessage cfg s data)
  | request s data timeout =>
      have hrequest : (sendRequestFrames cfg s data).Within noHandshake :=
        ((onlySends_sendRequestFrames cfg s data).mono fun _ hb => hb.2).within_plain
          (noHandshake_data s)
      refine Act.Within.bind (hrequest.bind fun id => Act.Within.ite
        (fun _ => Act.Within.pure none) fun _ => ?_) (fun _ => Act.Within.pure ()) p r
      exact Act.Within.bind (fun q => noHandshake_timers.blockerList q _)
        fun _ => Act.Within.pure _
  | response s data blockerId =>
      exact hsends s (onlySends_sendResponse cfg s data blockerId)
  | heartbeat s =>
      exact hsends s (onlySends_sendHeartbeat cfg s)
  | _ =>
      exact htables rfl

theorem run_sendSessionInitStart
    (s : SessionRef)
    (sessionIdentifier : Bytes)
    (p : Process) :
    ((sendSessionInitStart s sessionIdentifier).run p).outputs =
      ((sendMessage s (p.nextMessage s (.sessionInitStart (p.session s).sessionId
        sessionIdentifier))).run (p.modifySession s
          (fun x => { x with messageIdCounter := x.messageIdCounter + 1 }))).outputs := by
  rw [sendSessionInitStart, run_getSession_bind, Act.run_touch_bind, run_sendNew]

/-- A session that connects sends its init start message, if the send succeeds. -/
theorem handshakes_start
    (cfg : Config)
    {s : SessionRef}
    {sessionIdentifier : Bytes}
    (hlong : sessionIdentifier.length ≤ 64000)
    {p : Process}
    (hconnectable : (p.session s).connectable = true)
    (r : SessionRef) :
    let newId := (p.sessionIdCounter + 1).toUInt32
    handshakes r (((Operation.start s sessionIdentifier).act cfg).run p).outputs =
      if s = r ∧ ((p.connected s newId).session s).socket.any Socket.sendSucceeds = true then
        [⟨newId, (p.session s).messageIdCounter + 1, .sessionInitStart newId sessionIdentifier⟩]
      else [] := by
  have hprocess := connectiSession_process s (p.sessionIdCounter + 1).toUInt32
    { p with sessionIdCounter := p.sessionIdCounter + 1 }
  rw [(start_run cfg s hlong p).2]
  simp only [hconnectable, if_true] at hprocess ⊢
  rw [hprocess, Act.run_bind, SessionHandler.run_addSession, Act.run_bind,
    run_sendSessionInitStart]
  simp only [Act.run_pure, List.nil_append, List.append_nil]
  rw [handshakes_sendMessage rfl]
  simp [Process.connected, Process.nextMessage]

/-- The process of a server when it answers an init start message. -/
def Process.opened
    (p : Process)
    (s : SessionRef)
    (sessionId : UInt32)
    (sessionIdentifier : Bytes) : Process :=
  ((do
    let _ ← SessionHandler.increaseSessionIdCounter
    SessionHandler.addSession sessionId s
    let _ ← connectiSession s sessionId
    makeSessionReady s sessionId sessionIdentifier : Act Bool).run p).process

/-- An init start message is answered with the complete id, if the send succeeds. -/
theorem handshakes_initStart
    (s r : SessionRef)
    (clientSessionId messageId : UInt32)
    (sessionIdentifier : Bytes)
    (p : Process) :
    let sessionId := completeSessionId clientSessionId (p.sessionIdCounter + 1)
    handshakes r (((SessionFrame.initStart clientSessionId sessionIdentifier).handle s
        messageId).run p).outputs =
      if s = r ∧ ((p.opened s sessionId sessionIdentifier).session s).socket.any
          Socket.sendSucceeds = true then
        [⟨clientSessionId, messageId,
          .sessionInitReply clientSessionId sessionId sessionIdentifier⟩]
      else [] := by
  have hready : ∀ q, handshakes r ((makeSessionReady s
      (completeSessionId clientSessionId (p.sessionIdCounter + 1)) sessionIdentifier).run
        q).outputs = [] :=
    fun q => within_makeSessionReady (noHandshake_session s) _ _ q r
  simp only [SessionFrame.handle, Act.run_bind, SessionHandler.run_increaseSessionIdCounter,
    handshakes_append, SessionHandler.run_addSession, connectiSession_outputs, hready,
    sendSessionInitReply, Act.run_touch, Act.run_pure, List.nil_append, List.append_nil]
  rw [handshakes_sendMessage rfl]
  rfl

/-- Over a socket that connects and sends, the answer is sent. -/
theorem Process.opened_sends
    {p : Process}
    {s : SessionRef}
    {k : Socket}
    (hstate : (p.session s).statemachine = .notConnected)
    (hsocket : (p.session s).socket = some k)
    (hinit : k.initResult = true)
    (hsends : ∀ n, k.sendResults n = true)
    (sessionId : UInt32)
    (sessionIdentifier : Bytes) :
    ((p.opened s sessionId sessionIdentifier).session s).socket.any Socket.sendSucceeds = true := by
  have hconnectable : ((({ p with sessionIdCounter := p.sessionIdCounter + 1 } :
      Process).modifySession s (fun x => { x with handlerCallbacks := true })).session
        s).connectable = true := by
    simp [Session.connectable, hstate, hsocket, hinit]
  simp only [Process.opened, Act.run_bind, SessionHandler.run_increaseSessionIdCounter,
    SessionHandler.run_addSession]
  rw [makeSessionReady_process, connectiSession_process, if_pos hconnectable]
  simp [Process.connected, Process.ready, hsocket, Socket.sendSucceeds, hsends]

/-! ## Drawn and registered ids -/

namespace Life

theorem find_of_find_stop
    {l : Life}
    {id : UInt32}
    {r : SessionRef}
    (h : l.stop.sessions.find id = some r) :
    l.sessions.find id = some r := by
  unfold stop at h
  split at h
  · exact OrderedMap.find_of_find_remove h
  · exact h

theorem find_of_find_destroy
    {l : Life}
    {id : UInt32}
    {r : SessionRef}
    (h : l.destroy.sessions.find id = some r) :
    l.sessions.find id = some r :=
  OrderedMap.find_of_find_remove (find_of_find_stop h)

theorem sessionIdCounter_stop (l : Life) : l.stop.sessionIdCounter = l.sessionIdCounter := by
  unfold stop
  split <;> rfl

theorem sessionIdCounter_destroy (l : Life) : l.destroy.sessionIdCounter = l.sessionIdCounter :=
  sessionIdCounter_stop _

theorem sessionIdCounter_connect (sessionId : UInt32) (l : Life) :
    (l.connect sessionId).sessionIdCounter = l.sessionIdCounter := by
  unfold connect
  split <;> rfl

theorem sessionIdCounter_makeReady (sessionId : UInt32) (l : Life) :
    (l.makeReady sessionId).sessionIdCounter = l.sessionIdCounter := by
  unfold makeReady
  split <;> rfl

/-- What is found after a session was entered. -/
theorem find_add
    {l : Life}
    {id id' : UInt32}
    {s r : SessionRef}
    (h : (l.add id s).sessions.find id' = some r) :
    l.sessions.find id' = some r ∨ r = s ∧ id' = id := by
  simp only [add, OrderedMap.find_emplace] at h
  split at h
  · rename_i hid
    cases h
    exact Or.inr ⟨rfl, hid.1⟩
  · exact Or.inl h

/-- A session is entered under an id that is not in use. -/
theorem find_add_self
    {l : Life}
    {id : UInt32}
    (h : l.sessions.find id = none)
    (s : SessionRef) :
    (l.add id s).sessions.find id = some s := by
  simp [add, OrderedMap.find_emplace, h]

end Life

/-- The step of the life of a session that processes the front of its buffer, by the
session message in it. -/
theorem RingBuffer.life_cases (s : SessionRef) (buf : RingBuffer) (l : Life) :
    buf.sessionFrame = none ∧ (buf.life s l = l ∨ buf.life s l = l.stop) ∨
      ∃ f, buf.sessionFrame = some f ∧ buf.life s l = f.life s l := by
  unfold RingBuffer.life
  cases hframe : buf.sessionFrame with
  | none =>
      refine Or.inl ⟨rfl, ?_⟩
      cases buf.obtained with
      | falseProtocol =>
          exact Or.inr rfl
      | _ =>
          exact Or.inl rfl
  | some f =>
      refine Or.inr ⟨f, rfl, ?_⟩
      cases hobtained : buf.obtained with
      | frame header rawMessage =>
          rfl
      | _ =>
          simp [RingBuffer.sessionFrame, hobtained] at hframe

/-- An operation that draws an id increases the counter. -/
theorem Operation.sessionIdCounter_life
    {a : Operation}
    {s : SessionRef}
    (h : a.session = some s)
    (p : Process)
    (l : Life) :
    (a.life p s l).sessionIdCounter =
      bif a.draws then l.sessionIdCounter + 1 else l.sessionIdCounter := by
  cases a with
  | start r sessionIdentifier =>
      simp only [life, draws]
      by_cases hlong : sessionIdentifier.length > 64000
      · rw [if_pos hlong, decide_eq_false (by omega)]
        rfl
      · have hstart : (l.start s).sessionIdCounter = l.sessionIdCounter + 1 := by
          unfold Life.start
          split
          · exact Life.sessionIdCounter_connect _ _
          · exact Life.sessionIdCounter_stop _
        rw [if_neg hlong, decide_eq_true (Nat.le_of_not_lt hlong)]
        split
        · exact hstart
        · exact (Life.sessionIdCounter_destroy _).trans hstart
  | finishStart r =>
      simp only [life, draws]
      split
      · exact (Life.sessionIdCounter_destroy _).trans (Life.sessionIdCounter_stop l)
      · rfl
  | receive r buf =>
      simp only [life, draws]
      rcases buf.life_cases s l with ⟨hframe, hlife | hlife⟩ | ⟨f, hframe, hlife⟩
      · rw [hlife, hframe]
        rfl
      · rw [hlife, hframe]
        exact Life.sessionIdCounter_stop l
      · rw [hlife, hframe]
        cases f with
        | initStart clientSessionId sessionIdentifier =>
            exact (Life.sessionIdCounter_makeReady _ _).trans (Life.sessionIdCounter_connect _ _)
        | initReply initialId fullSessionId sessionIdentifier =>
            exact Life.sessionIdCounter_makeReady _ _
        | closeStart sessionId =>
            exact Life.sessionIdCounter_stop _
        | closeReply sessionId =>
            rfl
  | close r replyExpected =>
      cases replyExpected with
      | true =>
          rfl
      | false =>
          exact Life.sessionIdCounter_stop l
  | destroy r =>
      exact Life.sessionIdCounter_destroy l
  | _ =>
      rfl

/-- What is registered after an operation was registered before, or is the session of
the operation under the id it enters. -/
theorem Operation.find_life
    {a : Operation}
    {s : SessionRef}
    (h : a.session = some s)
    {p : Process}
    {log : List Output}
    {id : UInt32}
    {r : SessionRef}
    (hfind : (a.life p s (p.life s log)).sessions.find id = some r) :
    p.sessions.find id = some r ∨ r = s ∧ a.entryId p = some id := by
  cases a with
  | start t sessionIdentifier =>
      cases h
      simp only [life] at hfind
      by_cases hlong : sessionIdentifier.length > 64000
      · rw [if_pos hlong] at hfind
        exact Or.inl hfind
      · rw [if_neg hlong] at hfind
        by_cases hconnectable : (p.session s).connectable = true
        · rw [if_pos hconnectable, Life.start, if_pos ((p.connectable_iff s log).mp hconnectable)]
            at hfind
          rcases Life.find_add hfind with hbefore | ⟨hr, hid⟩
          · rw [Life.sessions_connect] at hbefore
            exact Or.inl hbefore
          · refine Or.inr ⟨hr, ?_⟩
            rw [hid]
            exact if_pos ⟨Nat.le_of_not_lt hlong, hconnectable⟩
        · rw [if_neg hconnectable, Life.start,
            if_neg ((p.connectable_iff s log).not.mp hconnectable)] at hfind
          exact Or.inl (Life.find_of_find_stop (Life.find_of_find_destroy hfind))
  | finishStart t =>
      simp only [life] at hfind
      split at hfind
      · exact Or.inl (Life.find_of_find_stop (Life.find_of_find_destroy hfind))
      · exact Or.inl hfind
  | receive t buf =>
      simp only [life] at hfind
      simp only [entryId]
      rcases buf.life_cases s (p.life s log) with ⟨_, hlife | hlife⟩ | ⟨f, hframe, hlife⟩
      · rw [hlife] at hfind
        exact Or.inl hfind
      · rw [hlife] at hfind
        exact Or.inl (Life.find_of_find_stop hfind)
      · rw [hlife] at hfind
        rw [hframe]
        cases f with
        | initStart clientSessionId sessionIdentifier =>
            simp only [SessionFrame.life, Life.sessions_makeReady, Life.sessions_connect] at hfind
            rcases Life.find_add hfind with hbefore | ⟨hr, hid⟩
            · exact Or.inl hbefore
            · exact Or.inr ⟨hr, congrArg some hid.symm⟩
        | initReply initialId fullSessionId sessionIdentifier =>
            simp only [SessionFrame.life, Life.sessions_makeReady] at hfind
            rcases Life.find_add hfind with hbefore | ⟨hr, hid⟩
            · exact Or.inl (OrderedMap.find_of_find_remove hbefore)
            · exact Or.inr ⟨hr, congrArg some hid.symm⟩
        | closeStart sessionId =>
            exact Or.inl (OrderedMap.find_of_find_remove (Life.find_of_find_stop hfind))
        | closeReply sessionId =>
            exact Or.inl (OrderedMap.find_of_find_remove hfind)
  | close t replyExpected =>
      cases replyExpected with
      | true =>
          exact Or.inl hfind
      | false =>
          exact Or.inl (Life.find_of_find_stop hfind)
  | destroy t =>
      exact Or.inl (Life.find_of_find_destroy hfind)
  | _ =>
      exact Or.inl hfind

/-- An operation that enters its session under an unused id stores it. -/
theorem Operation.find_entryId
    {a : Operation}
    {s : SessionRef}
    (h : a.session = some s)
    {p : Process}
    (log : List Output)
    {id : UInt32}
    (hentry : a.entryId p = some id)
    (hunused : p.sessions.find id = none) :
    (a.life p s (p.life s log)).sessions.find id = some s := by
  cases a with
  | start t sessionIdentifier =>
      cases h
      simp only [entryId, Option.ite_none_right_eq_some, Option.some.injEq] at hentry
      obtain ⟨⟨hlong, hconnectable⟩, rfl⟩ := hentry
      simp only [life]
      rw [if_neg (by omega), if_pos hconnectable, Life.start,
        if_pos ((p.connectable_iff s log).mp hconnectable)]
      refine Life.find_add_self ?_ s
      rw [Life.sessions_connect]
      exact hunused
  | receive t buf =>
      simp only [entryId] at hentry
      simp only [life]
      rcases buf.life_cases s (p.life s log) with ⟨hframe, _⟩ | ⟨f, hframe, hlife⟩
      · rw [hframe] at hentry
        cases hentry
      · rw [hlife]
        rw [hframe] at hentry
        cases f with
        | initStart clientSessionId sessionIdentifier =>
            cases hentry
            simp only [SessionFrame.life, Life.sessions_makeReady, Life.sessions_connect]
            exact Life.find_add_self hunused s
        | initReply initialId fullSessionId sessionIdentifier =>
            cases hentry
            simp only [SessionFrame.life, Life.sessions_makeReady]
            refine Life.find_add_self ?_ s
            rw [Life.remove, OrderedMap.find_remove]
            split
            · rfl
            · exact hunused
        | closeStart sessionId =>
            cases hentry
        | closeReply sessionId =>
            cases hentry
  | _ =>
      cases hentry

section Process

variable (cfg : Config) (a : Operation) (p : Process)

theorem Operation.sessionIdCounter_act :
    ((a.act cfg).run p).process.sessionIdCounter =
      bif a.draws then p.sessionIdCounter + 1 else p.sessionIdCounter := by
  cases hsession : a.session with
  | none =>
      have hquiet := congrArg Life.sessionIdCounter (a.quiet_act cfg hsession 0 p [])
      have hdraws : a.draws = false := by
        cases a with
        | start s sessionIdentifier =>
            cases hsession
        | receive s buf =>
            cases hsession
        | _ =>
            rfl
      rw [hdraws]
      exact hquiet
  | some s =>
      have hlife := congrArg Life.sessionIdCounter (a.life_act cfg hsession p [])
      rw [a.sessionIdCounter_life hsession] at hlife
      exact hlife

variable {a p} {id : UInt32}

theorem Operation.find_act
    {r : SessionRef}
    (hfind : ((a.act cfg).run p).process.sessions.find id = some r) :
    p.sessions.find id = some r ∨ a.session = some r ∧ a.entryId p = some id := by
  cases hsession : a.session with
  | none =>
      have hquiet : ((a.act cfg).run p).process.sessions = p.sessions :=
        congrArg Life.sessions (a.quiet_act cfg hsession 0 p [])
      rw [hquiet] at hfind
      exact Or.inl hfind
  | some s =>
      have hlife : ((a.act cfg).run p).process.sessions = (a.life p s (p.life s [])).sessions :=
        congrArg Life.sessions (a.life_act cfg hsession p [])
      rw [hlife] at hfind
      rcases Operation.find_life hsession hfind with hbefore | ⟨rfl, hentry⟩
      · exact Or.inl hbefore
      · exact Or.inr ⟨rfl, hentry⟩

theorem Operation.find_act_entryId
    {s : SessionRef}
    (hsession : a.session = some s)
    (hentry : a.entryId p = some id)
    (hunused : p.sessions.find id = none) :
    ((a.act cfg).run p).process.sessions.find id = some s := by
  have hlife : ((a.act cfg).run p).process.sessions = (a.life p s (p.life s [])).sessions :=
    congrArg Life.sessions (a.life_act cfg hsession p [])
  rw [hlife]
  exact Operation.find_entryId hsession [] hentry hunused

end Process

/-- The halves of a complete id are the ids that were drawn. -/
theorem toNat_completeSessionId
    {clientSessionId : UInt32}
    (h : clientSessionId.toNat < 65536)
    (serverSessionId : UInt16) :
    (completeSessionId clientSessionId serverSessionId).toNat =
      clientSessionId.toNat + 65536 * serverSessionId.toNat := by
  have hserver := serverSessionId.toNat_lt
  simp only [completeSessionId, UInt32.toNat_add, UInt32.toNat_mul, UInt16.toNat_toUInt32,
    UInt32.reduceToNat]
  omega

/-- An operation sends no handshake message, starts a session that connects, or answers
an init start message. -/
theorem Operation.opening_cases (a : Operation) (p : Process) :
    (a.draws = true → a.entryId p = none) ∨
      (∃ s sessionIdentifier, a = .start s sessionIdentifier ∧
        sessionIdentifier.length ≤ 64000 ∧ (p.session s).connectable = true) ∨
      ∃ s buf clientSessionId sessionIdentifier, a = .receive s buf ∧
        buf.sessionFrame = some (.initStart clientSessionId sessionIdentifier) := by
  cases a with
  | start s sessionIdentifier =>
      by_cases hentry : (Operation.start s sessionIdentifier).entryId p = none
      · exact Or.inl fun _ => hentry
      · simp only [entryId, ite_eq_right_iff, reduceCtorEq, imp_false, not_not] at hentry
        exact Or.inr (Or.inl ⟨s, sessionIdentifier, rfl, hentry⟩)
  | receive s buf =>
      cases hdraws : (Operation.receive s buf).draws with
      | false =>
          exact Or.inl fun h => absurd h Bool.false_ne_true
      | true =>
          simp only [draws] at hdraws
          split at hdraws
          · exact Or.inr (Or.inr ⟨s, buf, _, _, rfl, ‹_›⟩)
          · cases hdraws
  | _ =>
      exact Or.inl fun _ => rfl

@[simp] theorem Process.sessionIdCounter_withoutReplied (p : Process) (buf : RingBuffer) :
    (p.withoutReplied buf).sessionIdCounter = p.sessionIdCounter := by
  unfold Process.withoutReplied
  split <;> rfl

/-- A received init start message is answered with the complete id, if the send
succeeds. -/
theorem handshakes_receive
    (cfg : Config)
    {s : SessionRef}
    {buf : RingBuffer}
    {clientSessionId : UInt32}
    {sessionIdentifier : Bytes}
    (h : buf.sessionFrame = some (.initStart clientSessionId sessionIdentifier))
    (p : Process)
    (r : SessionRef) :
    let sessionId := completeSessionId clientSessionId (p.sessionIdCounter + 1)
    ∃ messageId, handshakes r (((Operation.receive s buf).act cfg).run p).outputs =
      if s = r ∧ (((p.withoutReplied buf).opened s sessionId sessionIdentifier).session
          s).socket.any Socket.sendSucceeds = true then
        [⟨clientSessionId, messageId,
          .sessionInitReply clientSessionId sessionId sessionIdentifier⟩]
      else [] := by
  obtain ⟨messageId, hrun⟩ := processMessage_sessionFrame cfg s h
  have houtputs : (((Operation.receive s buf).act cfg).run p).outputs =
      (((SessionFrame.initStart clientSessionId sessionIdentifier).handle s messageId).run
        (p.withoutReplied buf)).outputs := by
    rw [← (hrun p).2]
    exact List.append_nil _
  have hsent := handshakes_initStart s r clientSessionId messageId sessionIdentifier
    (p.withoutReplied buf)
  rw [Process.sessionIdCounter_withoutReplied] at hsent
  exact ⟨messageId, by rw [houtputs, hsent]⟩

/-- An operation sends handshake messages for its own session only. -/
theorem handshakes_other
    (cfg : Config)
    {a : Operation}
    {p : Process}
    {r : SessionRef}
    (h : a.session ≠ some r) :
    handshakes r ((a.act cfg).run p).outputs = [] := by
  rcases a.opening_cases p with hplain | ⟨s, sessionIdentifier, rfl, hlong, hconnectable⟩ |
    ⟨s, buf, clientSessionId, sessionIdentifier, rfl, hframe⟩
  · exact handshakes_act cfg hplain r
  · rw [handshakes_start cfg hlong hconnectable r]
    exact if_neg fun hand => h (congrArg some hand.1)
  · obtain ⟨messageId, hsent⟩ := handshakes_receive (s := s) cfg hframe p r
    rw [hsent]
    exact if_neg fun hand => h (congrArg some hand.1)

end SakuraNetwork

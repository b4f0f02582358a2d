import SakuraNetwork.ReceiveFraming
import SakuraNetwork.SessionLifecycle

/-!
# The runs of a process

A process creates session objects, by accepting connections and by
`startSession`, uses them from the application, from the threads of their
sockets and from the timer threads, and destroys them.  The operations come in
any order, and frames carry any bytes.

* `Operation.act`: what each operation does.
* `Operation.life_act`: its step in the life of the session it works on.
* `Operation.foreign_act`: what it does to the life of other sessions.
* `library_step_cases`: what a step of a run is.
-/

namespace SakuraNetwork

open Lib

/-! ## Received frames -/

/-- The key of the message a received reply answers. -/
def RingBuffer.replied (buf : RingBuffer) : Option UInt64 :=
  match buf.obtained with
  | .frame header _ =>
      if header.flags &&& 0x2 != 0 then
        some (ReplyHandler.completeMessageId header.sessionId header.messageId)
      else none
  | _ => none

/-- The process after the message that is answered was removed. -/
def Process.withoutReplied (p : Process) (buf : RingBuffer) : Process :=
  match buf.replied with
  | none => p
  | some id => { p with replyList := ReplyHandler.withoutMessage id p.replyList }

/-- A frame of a known type is processed by the handler of its type. -/
theorem processMessage_frame
    (cfg : Config)
    (s : SessionRef)
    {buf : RingBuffer}
    {header : CommonMessageHeader}
    {rawMessage : Memory}
    {handler : Act Unit}
    (hobtained : buf.obtained = .frame header rawMessage)
    (hby : processByType s header rawMessage = some handler)
    (p : Process) :
    ((processMessage cfg s buf).run p).process = (handler.run (p.withoutReplied buf)).process ∧
      ((processMessage cfg s buf).run p).outputs =
        (handler.run (p.withoutReplied buf)).outputs := by
  have hresult := processMessage_result cfg s buf p
  simp only [hobtained, Outcome.result, Prod.mk.injEq] at hresult
  rw [hresult.2.1, hresult.2.2]
  unfold processFrame Process.withoutReplied RingBuffer.replied
  rw [hby, hobtained]
  by_cases hreply : (header.flags &&& 0x2 != 0) = true
  · simp [hreply, Act.run_bind]
  · simp [hreply, Act.run_bind]

/-- A frame of an unknown type only removes the message it answers. -/
theorem processMessage_unknown
    (cfg : Config)
    (s : SessionRef)
    {buf : RingBuffer}
    {header : CommonMessageHeader}
    {rawMessage : Memory}
    (hobtained : buf.obtained = .frame header rawMessage)
    (hby : processByType s header rawMessage = none)
    (p : Process) :
    ((processMessage cfg s buf).run p).process = p.withoutReplied buf := by
  have hresult := processMessage_result cfg s buf p
  simp only [hobtained, Outcome.result, Prod.mk.injEq] at hresult
  rw [hresult.2.1]
  unfold processFrame Process.withoutReplied RingBuffer.replied
  rw [hby, hobtained]
  by_cases hreply : (header.flags &&& 0x2 != 0) = true
  · simp [hreply, Act.run_bind]
  · simp [hreply]

/-- A session message is processed by its handler. -/
theorem processMessage_sessionFrame
    (cfg : Config)
    (s : SessionRef)
    {buf : RingBuffer}
    {f : SessionFrame}
    (h : buf.sessionFrame = some f) :
    ∃ messageId, ∀ p,
      ((processMessage cfg s buf).run p).process =
          ((f.handle s messageId).run (p.withoutReplied buf)).process ∧
        ((processMessage cfg s buf).run p).outputs =
          ((f.handle s messageId).run (p.withoutReplied buf)).outputs := by
  unfold RingBuffer.sessionFrame at h
  cases hobtained : buf.obtained with
  | frame header rawMessage =>
      rw [hobtained] at h
      simp only [Option.ite_none_right_eq_some] at h
      obtain ⟨htype, hframe⟩ := h
      refine ⟨UInt32.ofNat (rawMessage.word 20 4), fun p => ?_⟩
      have hby : processByType s header rawMessage =
          some (processSessionType s header rawMessage) := by
        simp [processByType, htype, MessageType.code]
      have hhandler := processSessionType_result s header rawMessage (p.withoutReplied buf)
      rw [hframe] at hhandler
      simp only [Outcome.result, Prod.mk.injEq] at hhandler
      rw [← hhandler.2.1, ← hhandler.2.2]
      exact processMessage_frame cfg s hobtained hby p
  | _ =>
      rw [hobtained] at h
      cases h

/-- Where no session message is processed, no steps of session messages are needed. -/
theorem within_processMessage_of_none
    {E : Effect}
    {s : SessionRef}
    {buffers : Prop}
    {released : UInt64 → Prop}
    {replies : Prop}
    {called : Output → Prop}
    {opens : Prop}
    (hD : AdmitsData E s buffers released replies called opens)
    (hbuffers : buffers)
    (hreplies : replies)
    (hclose : (closeSession s).Within E)
    (cfg : Config)
    {buf : RingBuffer}
    (h : buf.sessionFrame = none)
    (hreleased : ∀ id, buf.blockerId = some id → released id)
    (hcalled : ∀ o, buf.Calls s o → called o) :
    (processMessage cfg s buf).Within E := by
  intro p
  have hresult := processMessage_result cfg s buf p
  unfold RingBuffer.sessionFrame at h
  unfold RingBuffer.blockerId at hreleased
  unfold RingBuffer.Calls at hcalled
  have herror := within_sendErrorMessage hD cfg .falseVersion [] p
  cases hobtained : buf.obtained with
  | nothing =>
      simp only [hobtained, Outcome.result, Prod.mk.injEq] at hresult
      rw [hresult.2.1, hresult.2.2]
      exact E.refl p
  | falseProtocol =>
      simp only [hobtained, Outcome.result, Prod.mk.injEq] at hresult
      rw [hresult.2.1, hresult.2.2]
      exact hclose p
  | falseVersion =>
      simp only [hobtained, Outcome.result, Prod.mk.injEq] at hresult
      rw [hresult.2.1, hresult.2.2]
      exact herror
  | falseDelimiter =>
      simp only [hobtained, Outcome.result, Prod.mk.injEq] at hresult
      rw [hresult.2.1, hresult.2.2]
      exact herror
  | frame header rawMessage =>
      rw [hobtained] at hreleased hcalled h
      simp only [hobtained, Outcome.result, Prod.mk.injEq] at hresult
      rw [hresult.2.1, hresult.2.2]
      by_cases htype : header.type = MessageType.session.code
      · have hframe : sessionFrameOf header rawMessage = none := by
          simpa [htype] using h
        have hby : processByType s header rawMessage =
            some (processSessionType s header rawMessage) := by
          simp [processByType, htype, MessageType.code]
        have hhandler : (processSessionType s header rawMessage).Within E := by
          intro q
          have hnone := processSessionType_result s header rawMessage q
          rw [hframe] at hnone
          simp only [Outcome.result, Prod.mk.injEq] at hnone
          rw [hnone.2.1, hnone.2.2]
          exact E.refl q
        unfold processFrame
        rw [hby]
        exact Act.Within.ite
          (fun _ => (within_removeMessage hD hreplies _ _).bind fun _ =>
            hhandler.bind fun _ => Act.Within.pure _)
          (fun _ => hhandler.bind fun _ => Act.Within.pure _) p
      · refine within_processFrame hD header rawMessage (fun _ => hbuffers) (fun _ => hreplies)
          (fun hsession => absurd hsession htype) ?_ hcalled p
        intro hflag hkind
        exact hreleased _ (if_pos ⟨hflag, hkind⟩)

/-- The stages of a session object. -/
inductive Stage where
  | fresh
  /-- `startSession` waits for the handshake. -/
  | starting
  | alive
  | destroyed
deriving DecidableEq

/-- The session object exists. -/
def Stage.Exists (stage : Stage) : Prop :=
  stage = .starting ∨ stage = .alive

instance (stage : Stage) : Decidable stage.Exists :=
  inferInstanceAs (Decidable (stage = .starting ∨ stage = .alive))

/-- The operations of a process. -/
inductive Operation where
  /-- `processConnection_Callback`: a server got a connection. -/
  | accept (s : SessionRef)
  | start (s : SessionRef) (sessionIdentifier : Bytes)
  | finishStart (s : SessionRef)
  | receive (s : SessionRef) (buf : RingBuffer)
  | close (s : SessionRef) (replyExpected : Bool)
  | destroy (s : SessionRef)
  | stream (s : SessionRef) (data : Bytes) (replyExpected : Bool)
  | normalMessage (s : SessionRef) (data : Bytes)
  | request (s : SessionRef) (data : Bytes) (timeout : UInt64)
  | response (s : SessionRef) (data : Bytes) (blockerId : UInt64)
  | heartbeat (s : SessionRef)
  /-- A blocked request goes on after its wait. -/
  | wake (blockerId : UInt64)
  | replyTimer
  | blockerTimer

namespace Operation

/-- What an operation does. -/
def act (cfg : Config) : Operation → Act Unit
  | .accept _ => pure ()
  | .start s sessionIdentifier => do
      let connected ← startSession s sessionIdentifier
      if connected || decide (sessionIdentifier.length > 64000) then pure ()
      else destroySession s
  | .finishStart s => do
      let _ ← SakuraNetwork.finishStart s
  | .receive s buf => do
      let _ ← processMessage cfg s buf
  | .close s replyExpected => do
      let _ ← closeSession s replyExpected
  | .destroy s => destroySession s
  | .stream s data replyExpected => do
      let _ ← sendStreamData cfg s data replyExpected
  | .normalMessage s data => do
      let _ ← sendNormalMessage cfg s data
  | .request s data timeout => do
      let _ ← sendRequest cfg s data timeout
  | .response s data blockerId => do
      let _ ← sendResponse cfg s data blockerId
  | .heartbeat s => do
      let _ ← sendHeartbeat s
  | .wake blockerId => do
      let _ ← MessageBlockerHandler.removeMessageFromList blockerId
  | .replyTimer => ReplyHandler.makeTimerStep
  | .blockerTimer => MessageBlockerHandler.makeTimerStep

/-- The session an operation works on; the timers and a woken thread work on the
tables. -/
def session : Operation → Option SessionRef
  | .accept s | .start s _ | .finishStart s | .receive s _ | .close s _ | .destroy s
  | .stream s _ _ | .normalMessage s _ | .request s _ _ | .response s _ _ | .heartbeat s => some s
  | .wake _ | .replyTimer | .blockerTimer => none

end Operation

/-- A process, the stages of its session objects, and everything observed so
far. -/
structure System where
  process : Process
  stage : SessionRef → Stage := fun _ => .fresh
  log : List Output := []

namespace Operation

/-- Whether an operation is possible.  A session object is created once; the loop
of `startSession` ends when `m_initState` is set; the owner of a session does not
destroy it before `startSession` returned it. -/
def enabled (st : System) : Operation → Bool
  | .accept s | .start s _ => st.stage s = .fresh
  | .finishStart s => st.stage s = .starting && (st.process.session s).initState != 0
  | .destroy s => st.stage s = .alive
  | .receive s _ | .close s _ | .stream s _ _ | .normalMessage s _ | .request s _ _
  | .response s _ _ | .heartbeat s => (st.stage s).Exists
  | .wake _ | .replyTimer | .blockerTimer => true

/-- The stage of the session an operation works on, afterwards. -/
def nextStage (p : Process) (stage : Stage) : Operation → Stage
  | .accept _ => .alive
  | .start s sessionIdentifier =>
      if sessionIdentifier.length > 64000 then .fresh
      else if (p.session s).connectable then .starting
      else .destroyed
  | .finishStart s => if (p.session s).initState = -1 then .destroyed else .alive
  | .destroy _ => .destroyed
  | _ => stage

end Operation

/-- The state after an operation. -/
def System.after (cfg : Config) (st : System) (a : Operation) : System where
  process := ((a.act cfg).run st.process).process
  stage := fun s =>
    if a.session = some s then a.nextStage st.process (st.stage s) else st.stage s
  log := st.log ++ ((a.act cfg).run st.process).outputs

/-- The runs of a process, from its start with empty tables. -/
def library (cfg : Config) : TransitionSystem System Operation where
  init := fun st =>
    st.process.sessions = ∅ ∧ st.process.replyList = [] ∧ st.process.blockerList = [] ∧
      (∀ s, ∃ k, st.process.session s = Session.create k) ∧
      (∀ s, st.stage s = .fresh) ∧ st.log = []
  step := fun st a => if a.enabled st then some (st.after cfg a) else none

/-- A step of a run is a possible operation. -/
theorem library_step_cases
    {cfg : Config}
    {st st' : System}
    {a : Operation}
    (h : (library cfg).step st a = some st') :
    a.enabled st = true ∧ st' = st.after cfg a := by
  simp only [library, Option.ite_none_right_eq_some, Option.some.injEq] at h
  exact ⟨h.1, h.2.symm⟩

theorem library_step
    {cfg : Config}
    {st : System}
    {a : Operation}
    (h : a.enabled st = true) :
    (library cfg).step st a = some (st.after cfg a) :=
  if_pos h

/-! ## The life of a session in a run -/

/-- The destructor unregisters and stops the session, and gives up its socket. -/
def Life.destroy (l : Life) : Life :=
  { (l.remove l.sessionId).stop with connects := false }

/-- What follows may use the session id that is read. -/
theorem Simulates.getSession
    {β : Type}
    {s : SessionRef}
    {y : Session → Act β}
    {g : UInt32 → Life → Life}
    (hy : ∀ x, Simulates s (y x) (g x.sessionId)) :
    Simulates s (getSession s >>= y) (fun l => g l.sessionId l) :=
  fun p log => hy (p.session s) p log

theorem simulates_destroySession (s : SessionRef) :
    Simulates s (destroySession s) Life.destroy := by
  have hinit : Simulates s (modifySession s (fun x => { x with initState := -1 })) id := by
    intro p log
    simp [Process.life]
  have hgone : Simulates s (modifySession s (fun x =>
      { x with socket := none, abort := true, incomingBuffer := ∅ }))
      (fun l => { l with connects := false }) := by
    intro p log
    simp [Process.life]
  have hclose : ∀ id', Simulates s (do
      let _ ← SessionHandler.removeSession id'
      let _ ← closeSession s
      modifySession s (fun x => { x with socket := none, abort := true, incomingBuffer := ∅ }))
      (fun l => { (l.remove id').stop with connects := false }) := by
    intro id'
    exact (Simulates.removeSession _).bind fun _ => (simulates_closeSession s false).bind fun _ =>
      hgone
  refine hinit.bind fun _ => ?_
  exact Simulates.getSession
    (g := fun id' l => { (l.remove id').stop with connects := false }) fun x => hclose x.sessionId

theorem foreign_modifySession
    {s r : SessionRef}
    (hne : r ≠ s)
    (f : Session → Session)
    (p : Process) :
    (foreign s).rel p [] (p.modifySession r f) := by
  have hother := p.modifySession_other f hne.symm
  intro log
  rw [List.append_nil]
  refine ⟨?_, ?_, ?_, rfl, rfl, id⟩
  · simp only [Process.life, hother]
  · simp only [Process.life, hother]
  · simp only [Process.life, hother]

theorem quiet_timers (s : SessionRef) : AdmitsTimers (quiet s) := by
  constructor
  · intro p l
    exact Process.life_congr rfl rfl rfl rfl rfl (by simp)
  · intro p l
    exact Process.life_congr rfl rfl rfl rfl rfl (by simp)
  · intro p r
    exact (quiet_data s r).initState p
  · intro p r code text
    exact (quiet_data s r).error p code text trivial
  · intro p id
    refine Process.life_congr rfl rfl rfl rfl rfl ?_
    intro o ho
    rw [List.mem_singleton.mp ho]
    exact ⟨rfl, rfl⟩

theorem Process.connectable_iff (p : Process) (s : SessionRef) (log : List Output) :
    (p.session s).connectable = true ↔
      (p.life s log).state = .notConnected ∧ (p.life s log).connects = true := by
  simp [Session.connectable, Process.life]

/-- The step of the life of the session an operation works on. -/
def Operation.life (p : Process) (s : SessionRef) : Operation → Life → Life
  | .start _ sessionIdentifier =>
      if sessionIdentifier.length > 64000 then id
      else if (p.session s).connectable then Life.start s
      else fun l => (l.start s).destroy
  | .finishStart _ =>
      if (p.session s).initState = -1 then fun l => l.stop.destroy
      else id
  | .receive _ buf => buf.life s
  | .close _ replyExpected => if replyExpected then id else Life.stop
  | .destroy _ => Life.destroy
  | _ => id

/-- The value of `startSession` is whether the session was connected. -/
theorem startSession_value
    (s : SessionRef)
    {sessionIdentifier : Bytes}
    (h : sessionIdentifier.length ≤ 64000)
    (p : Process) :
    ((startSession s sessionIdentifier).run p).value = (p.session s).connectable := by
  have hlong : ¬ sessionIdentifier.length > 64000 := by omega
  have hvalue := connectiSession_value s (p.sessionIdCounter + 1).toUInt32
    { p with sessionIdCounter := p.sessionIdCounter + 1 }
  rw [startSession, if_neg hlong, Act.run_bind, SessionHandler.run_increaseSessionIdCounter,
    Act.run_bind, hvalue]
  cases (p.session s).connectable with
  | true =>
      simp
  | false =>
      simp

/-- A request sends its frames and adds a blocked request. -/
theorem within_sendRequest
    {E : Effect}
    {s : SessionRef}
    {buffers : Prop}
    {released : UInt64 → Prop}
    {replies : Prop}
    {called : Output → Prop}
    (cfg : Config)
    (hD : AdmitsData E s buffers released replies called)
    {timeout : UInt64}
    (hblock : ∀ id, (MessageBlockerHandler.addBlocker id timeout s).Within E)
    (data : Bytes) :
    (sendRequest cfg s data timeout).Within E :=
  Act.Within.bind ((onlySends_sendRequestFrames cfg s data).within hD) fun id =>
    Act.Within.ite (fun _ => Act.Within.pure none) fun _ => (hblock id).bind fun _ =>
      Act.Within.pure (some id)

/-- Timers and woken threads work on the tables. -/
theorem Operation.within_tables
    {E : Effect}
    (cfg : Config)
    {a : Operation}
    (hT : AdmitsTimers E)
    (h : a.session = none) :
    (a.act cfg).Within E := by
  cases a with
  | wake blockerId =>
      exact (within_wake hT blockerId).bind fun _ => Act.Within.pure ()
  | replyTimer =>
      exact within_replyTimer hT
  | blockerTimer =>
      exact within_blockerTimer hT
  | _ =>
      cases h

/-- An operation takes the life of the session it works on one step. -/
theorem Operation.life_act
    (cfg : Config)
    {a : Operation}
    {s : SessionRef}
    (h : a.session = some s)
    (p : Process)
    (log : List Output) :
    ((a.act cfg).run p).process.life s (log ++ ((a.act cfg).run p).outputs) =
      a.life p s (p.life s log) := by
  have hsends : ∀ {α : Type} {x : Act α}, OnlySends s (Body.Carried cfg) x →
      Simulates s (do let _ ← x) id := by
    intro α x hx
    exact ((hx.within (quiet_data s s)).simulates).bind fun _ => Simulates.pure ()
  cases a with
  | accept r =>
      simp [act, life]
  | start r sessionIdentifier =>
      cases h
      by_cases hlong : sessionIdentifier.length > 64000
      · simp [act, life, startSession, hlong]
      · have hvalue := startSession_value s (Nat.le_of_not_lt hlong) p
        have hstart := simulates_startSession s sessionIdentifier p log
        simp only [if_neg hlong] at hstart
        simp only [act, life, Act.run_bind, hvalue, hlong, decide_false, Bool.or_false]
        cases hconnectable : (p.session s).connectable with
        | true =>
            simpa using hstart
        | false =>
            simp only [Bool.false_eq_true, if_false]
            rw [← List.append_assoc, simulates_destroySession, hstart]
  | finishStart r =>
      cases h
      simp only [act, life, SakuraNetwork.finishStart]
      by_cases hfailed : (p.session s).initState = -1
      · have hend := ((simulates_closeSession s false).bind fun _ =>
          (simulates_destroySession s).bind fun _ => Simulates.pure false) p log
        simpa [hfailed] using hend
      · simp [hfailed]
  | receive r buf =>
      cases h
      exact ((simulates_processMessage cfg s buf).bind fun _ => Simulates.pure ()) p log
  | close r replyExpected =>
      cases h
      exact ((simulates_closeSession s replyExpected).bind fun _ => Simulates.pure ()) p log
  | destroy r =>
      cases h
      exact simulates_destroySession s p log
  | stream r data replyExpected =>
      cases h
      exact hsends (onlySends_sendStreamData cfg s data replyExpected) p log
  | normalMessage r data =>
      cases h
      exact hsends (onlySends_sendNormalMessage cfg s data) p log
  | request r data timeout =>
      cases h
      have hrequest : (sendRequest cfg s data timeout).Within _ := within_sendRequest cfg
        (quiet_data s s) (fun _ q => (quiet_timers s).blockerList q _) data
      exact (hrequest.simulates.bind fun _ => Simulates.pure ()) p log
  | response r data blockerId =>
      cases h
      exact hsends (onlySends_sendResponse cfg s data blockerId) p log
  | heartbeat r =>
      cases h
      exact hsends (onlySends_sendHeartbeat cfg s) p log
  | wake blockerId =>
      cases h
  | replyTimer =>
      cases h
  | blockerTimer =>
      cases h

/-- A session object that is not created by the operation has no part in it. -/
theorem Operation.life_of_fresh
    {st : System}
    {a : Operation}
    {s : SessionRef}
    (henabled : a.enabled st = true)
    (h : a.session = some s)
    (hnext : a.nextStage st.process (st.stage s) = .fresh) :
    st.stage s = .fresh ∧ a.life st.process s = id := by
  have hexists : st.stage s = .fresh → (st.stage s).Exists → False := by
    rintro hfresh (hstarting | halive)
    · rw [hfresh] at hstarting
      cases hstarting
    · rw [hfresh] at halive
      cases halive
  cases a with
  | start r sessionIdentifier =>
      cases h
      refine ⟨of_decide_eq_true henabled, ?_⟩
      simp only [nextStage] at hnext
      split at hnext
      · rename_i hlong
        exact if_pos hlong
      · split at hnext
        · cases hnext
        · cases hnext
  | accept r =>
      cases hnext
  | destroy r =>
      cases hnext
  | finishStart r =>
      simp only [nextStage] at hnext
      split at hnext
      · cases hnext
      · cases hnext
  | wake blockerId =>
      cases h
  | replyTimer =>
      cases h
  | blockerTimer =>
      cases h
  | _ =>
      cases h
      exact absurd (of_decide_eq_true henabled) (hexists hnext)

/-- An effect that has the steps of all handlers and of the tables contains the
operations. -/
theorem Operation.within_act
    {E : Effect}
    (cfg : Config)
    {a : Operation}
    (hD : ∀ r, a.session = some r → AdmitsData E r True (fun _ => True))
    (hE : ∀ r, a.session = some r → AdmitsSession E r)
    (hdestroyed : ∀ r, a.session = some r → ∀ p : Process, E.rel p [] (p.modifySession r
      (fun x => { x with socket := none, abort := true, incomingBuffer := ∅ })))
    (hblock : ∀ r id timeout, a.session = some r →
      (MessageBlockerHandler.addBlocker id timeout r).Within E)
    (htables : a.session = none → (a.act cfg).Within E) :
    (a.act cfg).Within E := by
  have hsends : ∀ {α : Type} {x : Act α} (r : SessionRef), a.session = some r →
      OnlySends r (Body.Carried cfg) x → (do let _ ← x : Act Unit).Within E := by
    intro α x r hr hx
    exact (hx.within (hD r hr)).bind fun _ => Act.Within.pure ()
  cases a with
  | accept r =>
      exact Act.Within.pure ()
  | start r sessionIdentifier =>
      refine Act.Within.bind (within_startSession (hD r rfl) trivial trivial (hE r rfl) _)
        fun _ => Act.Within.ite (fun _ => Act.Within.pure ()) fun _ => ?_
      exact within_destroySession (hD r rfl) trivial trivial (hE r rfl) (hdestroyed r rfl)
  | finishStart r =>
      exact (within_finishStart (hD r rfl) trivial trivial (hE r rfl) (hdestroyed r rfl)).bind
        fun _ => Act.Within.pure ()
  | receive r buf =>
      exact (within_processMessage (hD r rfl) (hE r rfl) trivial trivial cfg buf
        (fun _ _ => trivial) fun _ _ => trivial).bind fun _ => Act.Within.pure ()
  | close r replyExpected =>
      exact (within_closeSession (hD r rfl) trivial trivial (hE r rfl) _).bind
        fun _ => Act.Within.pure ()
  | destroy r =>
      exact within_destroySession (hD r rfl) trivial trivial (hE r rfl) (hdestroyed r rfl)
  | stream r data replyExpected =>
      exact hsends r rfl (onlySends_sendStreamData cfg r data replyExpected)
  | normalMessage r data =>
      exact hsends r rfl (onlySends_sendNormalMessage cfg r data)
  | request r data timeout =>
      exact (within_sendRequest cfg (hD r rfl) (fun id => hblock r id timeout rfl) data).bind
        fun _ => Act.Within.pure ()
  | response r data blockerId =>
      exact hsends r rfl (onlySends_sendResponse cfg r data blockerId)
  | heartbeat r =>
      exact hsends r rfl (onlySends_sendHeartbeat cfg r)
  | _ =>
      exact htables rfl

/-- An operation does to the life of other sessions what a foreign operation may
do. -/
theorem Operation.foreign_act
    (cfg : Config)
    {a : Operation}
    {s : SessionRef}
    (h : a.session ≠ some s) :
    (a.act cfg).Within (foreign s) := by
  have hne : ∀ r, a.session = some r → r ≠ s := by
    rintro r hr rfl
    exact h hr
  have hT : AdmitsTimers (foreign s) := (quiet_timers s).mono foreign_of_quiet
  exact a.within_act cfg (fun r _ => foreign_data s r) (fun r hr => foreign_session (hne r hr))
    (fun r hr => foreign_modifySession (hne r hr) _)
    (fun _ _ _ _ q => hT.blockerList q _) (a.within_tables cfg hT)

/-- Operations on the tables leave the life of every session as it is. -/
theorem Operation.quiet_act
    (cfg : Config)
    {a : Operation}
    (h : a.session = none)
    (s : SessionRef) :
    (a.act cfg).Within (quiet s) :=
  a.within_tables cfg (quiet_timers s) h

/-- An operation changes the stage of its own session only. -/
theorem System.stage_after_other
    (cfg : Config)
    (st : System)
    {a : Operation}
    {s : SessionRef}
    (h : a.session ≠ some s) :
    (st.after cfg a).stage s = st.stage s :=
  if_neg h

theorem System.stage_after_self
    (cfg : Config)
    (st : System)
    {a : Operation}
    {s : SessionRef}
    (h : a.session = some s) :
    (st.after cfg a).stage s = a.nextStage st.process (st.stage s) :=
  if_pos h

theorem System.life_after
    (cfg : Config)
    (st : System)
    {a : Operation}
    {s : SessionRef}
    (h : a.session = some s) :
    (st.after cfg a).process.life s (st.after cfg a).log =
      a.life st.process s (st.process.life s st.log) :=
  a.life_act cfg h st.process st.log

/-- A received message takes the life of its session the step of its frame. -/
theorem System.life_after_receive
    (st : System)
    (s : SessionRef)
    {m : Message}
    (hsize : m.body.Sendable Config.default) :
    (st.after Config.default (.receive s (bufferOfMessage m))).process.life s
        (st.after Config.default (.receive s (bufferOfMessage m))).log =
      match m.body.sessionFrame with
      | none => st.process.life s st.log
      | some f => f.life s (st.process.life s st.log) := by
  rw [System.life_after Config.default st rfl]
  exact life_bufferOfMessage hsize s _

theorem System.sessions_after_receive
    (st : System)
    (s : SessionRef)
    {m : Message}
    (hsize : m.body.Sendable Config.default)
    {f : SessionFrame}
    (hframe : m.body.sessionFrame = some f) :
    (st.after Config.default (.receive s (bufferOfMessage m))).process.sessions =
      (f.life s (st.process.life s st.log)).sessions := by
  have hlife := System.life_after_receive st s hsize
  rw [hframe] at hlife
  exact congrArg Life.sessions hlife

/-! ## A run of a server -/

/-- Sockets that connect, close and send. -/
def workingSocket : Socket where
  isOpen := false
  initResult := true
  closeResult := true
  sendResults := fun _ => true

/-- A process before its first operation. -/
def initialSystem : System where
  process := Process.created (fun _ => some workingSocket)

theorem init_initialSystem (cfg : Config) : (library cfg).init initialSystem :=
  ⟨rfl, rfl, rfl, fun _ => ⟨_, rfl⟩, fun _ => rfl, rfl⟩

/-- A server session was accepted. -/
def acceptedSystem : System :=
  initialSystem.after Config.default (.accept 0)

theorem step_acceptedSystem :
    (library Config.default).step initialSystem (.accept 0) = some acceptedSystem :=
  rfl

/-- The server session received the init start message of a client with the id 1. -/
def openedSystem : System :=
  acceptedSystem.after Config.default
    (.receive 0 (bufferOfMessage ⟨1, 1, .sessionInitStart 1 []⟩))

theorem step_openedSystem :
    (library Config.default).step acceptedSystem
        (.receive 0 (bufferOfMessage ⟨1, 1, .sessionInitStart 1 []⟩)) =
      some openedSystem :=
  library_step rfl

theorem openedSystem_only
    {s : SessionRef}
    (h : openedSystem.stage s ≠ .fresh) :
    s = 0 := by
  by_contra hne
  have hother : ∀ a : Operation, a.session = some 0 → a.session ≠ some s := by
    rintro a ha hs
    exact hne (Option.some.inj (hs.symm.trans ha))
  rw [openedSystem, System.stage_after_other _ _ (hother _ rfl), acceptedSystem,
    System.stage_after_other _ _ (hother _ rfl)] at h
  exact h rfl

theorem life_openedSystem :
    openedSystem.process.life 0 openedSystem.log =
      { state := .sessionReady
        sessionId := 65537
        connects := true
        sessions := OrderedMap.emplace ∅ 65537 0
        sessionIdCounter := 1
        created := 1
        closed := 0 } := by
  have hsize : Body.Sendable Config.default (.sessionInitStart 1 []) := by
    simp [Body.Sendable]
  have hid : completeSessionId 1 1 = 65537 := by decide
  rw [openedSystem, System.life_after_receive _ _ hsize]
  simp [Body.sessionFrame, SessionFrame.life, Process.life, acceptedSystem, initialSystem,
    System.after, Operation.act, Process.created, Session.create, workingSocket, Life.increase,
    Life.add, Life.connect, Life.makeReady, hid]

end SakuraNetwork

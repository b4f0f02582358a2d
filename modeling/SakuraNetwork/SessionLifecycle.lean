import SakuraNetwork.Effects
import SakuraNetwork.FrameDecoding
import SakuraNetwork.Lib.TransitionSystem

/-!
# The life of a session

A session becomes ready once and is closed once: the create and the close
callback are meant to be balanced, and a session that was ready leaves the
registry.  The life of a session is a small abstract machine over the members
that decide it.  Every operation simulates a step of it.

* `simulates_processMessage`: the step of a received frame.
* `SessionFrame.balanced_iff`: the frames that keep the callbacks balanced.
* `callbacks_balanced`: along every run whose steps do so, they are balanced.
-/

namespace SakuraNetwork

open Lib

/-- The output is a create callback for the session. -/
def Output.creates (s : SessionRef) : Output → Bool
  | .processCreateSession r _ _ => r == s
  | _ => false

/-- The output is a close callback for the session. -/
def Output.closes (s : SessionRef) : Output → Bool
  | .processCloseSession r _ => r == s
  | _ => false

/-- What decides the life of a session, and how often its callbacks were called. -/
@[ext] structure Life where
  state : SessionState
  sessionId : UInt32
  /-- The socket of the session connects. -/
  connects : Bool
  sessions : OrderedMap UInt32 SessionRef
  sessionIdCounter : UInt16
  created : Nat
  closed : Nat

/-- The life of a session in a process that has produced `log`. -/
def Process.life (p : Process) (s : SessionRef) (log : List Output) : Life where
  state := (p.session s).statemachine
  sessionId := (p.session s).sessionId
  connects := (p.session s).socket.any Socket.initResult
  sessions := p.sessions
  sessionIdCounter := p.sessionIdCounter
  created := log.countP (Output.creates s)
  closed := log.countP (Output.closes s)

namespace Life

/-- The registry has the session under some id. -/
def Registered (s : SessionRef) (l : Life) : Prop :=
  ∃ id, l.sessions.find id = some s

/-- The session was ready before and is not any more. -/
def Left (l : Life) : Prop :=
  l.state ≠ .sessionReady ∧ 0 < l.created

/-- The callbacks are balanced, and a session that left is not registered. -/
structure Balanced (s : SessionRef) (l : Life) : Prop where
  callbacks : l.created = l.closed + if l.state = .sessionReady then 1 else 0
  unregistered : l.Left → ¬ l.Registered s

/-! ## Steps -/

def add (id : UInt32) (s : SessionRef) (l : Life) : Life :=
  { l with sessions := l.sessions.emplace id s }

def remove (id : UInt32) (l : Life) : Life :=
  { l with sessions := l.sessions.remove id }

def connect (sessionId : UInt32) (l : Life) : Life :=
  if l.state = .notConnected ∧ l.connects = true then
    { l with state := .sessionNotReady, sessionId := sessionId }
  else l

def makeReady (sessionId : UInt32) (l : Life) : Life :=
  if l.state = .sessionNotReady then
    { l with state := .sessionReady, sessionId := sessionId, created := l.created + 1 }
  else l

def disconnect (l : Life) : Life :=
  { l with state := .notConnected }

def stop (l : Life) : Life :=
  if l.state = .sessionReady then
    { l with
      state := .notConnected
      sessions := l.sessions.remove l.sessionId
      closed := l.closed + 1 }
  else l

def increase (l : Life) : Life :=
  { l with sessionIdCounter := l.sessionIdCounter + 1 }

end Life

/-! ## Simulation -/

/-- The operation changes the life of the session by `f`. -/
def Simulates {α : Type} (s : SessionRef) (x : Act α) (f : Life → Life) : Prop :=
  ∀ p log, (x.run p).process.life s (log ++ (x.run p).outputs) = f (p.life s log)

namespace Simulates

variable {α β : Type} {s : SessionRef}

theorem bind
    {x : Act α}
    {y : α → Act β}
    {f g : Life → Life}
    (hx : Simulates s x f)
    (hy : ∀ a, Simulates s (y a) g) :
    Simulates s (x >>= y) (fun l => g (f l)) := by
  intro p log
  rw [Act.run_bind]
  simp only
  rw [← List.append_assoc, hy, hx]

theorem pure (a : α) : Simulates s (pure a : Act α) id := by
  intro p log
  simp

/-- Only what an operation does counts, not what it reads. -/
theorem congr
    {x y : Act α}
    {f : Life → Life}
    (hxy : ∀ p, (x.run p).result = (y.run p).result)
    (hy : Simulates s y f) :
    Simulates s x f := by
  intro p log
  have h := hxy p
  simp only [Outcome.result, Prod.mk.injEq] at h
  rw [h.2.1, h.2.2]
  exact hy p log

theorem increaseSessionIdCounter
    {y : UInt16 → Act β}
    {g : UInt16 → Life → Life}
    (hy : ∀ c, Simulates s (y c) (g c)) :
    Simulates s (SessionHandler.increaseSessionIdCounter >>= y)
      (fun l => g (l.sessionIdCounter + 1) l.increase) := by
  intro p log
  rw [Act.run_bind, SessionHandler.run_increaseSessionIdCounter]
  simp only [List.nil_append]
  rw [hy]
  rfl

theorem addSession (id : UInt32) :
    Simulates s (SessionHandler.addSession id s) (Life.add id s) := by
  intro p log
  simp [SessionHandler.run_addSession, Process.life, Life.add]

theorem removeSession (id : UInt32) :
    Simulates s (SessionHandler.removeSession id) (Life.remove id) := by
  intro p log
  simp [Process.life, Life.remove]

theorem connectiSession (sessionId : UInt32) :
    Simulates s (connectiSession s sessionId) (Life.connect sessionId) := by
  intro p log
  rw [connectiSession_process, connectiSession_outputs, List.append_nil]
  by_cases hconnectable : (p.session s).connectable = true
  · have hand := hconnectable
    simp only [Session.connectable, Bool.and_eq_true, decide_eq_true_eq] at hand
    simp only [hconnectable, if_true, Life.connect, Process.life, hand, and_self]
    ext1 <;> simp [Process.connected, Option.any_map, hand]
  · have hand := hconnectable
    simp only [Session.connectable, Bool.and_eq_true, decide_eq_true_eq] at hand
    have hstep : Life.connect sessionId (p.life s log) = p.life s log := if_neg hand
    rw [if_neg hconnectable, hstep]
    split
    · rfl
    · ext1 <;> simp [Process.life, Process.setInitState]

theorem makeSessionReady (sessionId : UInt32) (sessionIdentifier : Bytes) :
    Simulates s (makeSessionReady s sessionId sessionIdentifier) (Life.makeReady sessionId) := by
  intro p log
  rw [makeSessionReady_process, makeSessionReady_outputs]
  by_cases hstate : (p.session s).statemachine = .sessionNotReady
  · simp only [hstate, if_true, Life.makeReady, Process.life]
    ext1 <;> simp [Process.ready, Output.creates, Output.closes]
  · simp only [hstate, if_false, Life.makeReady, Process.life]
    ext1 <;> simp [Process.setInitState]

theorem disconnectSession : Simulates s (disconnectSession s) Life.disconnect := by
  intro p log
  rw [disconnectSession_process, disconnectSession_outputs]
  by_cases hstate : (p.session s).statemachine = .notConnected
  · simp only [hstate, if_true, Life.disconnect, Process.life, List.append_nil]
  · simp only [hstate, if_false, Life.disconnect, Process.life]
    ext1 <;> simp [Process.goTo, Process.closeSocket, Option.any_map]

theorem endSession : Simulates s (endSession s) Life.stop := by
  intro p log
  rw [endSession_process, endSession_outputs]
  by_cases hstate : (p.session s).statemachine = .sessionReady
  · simp only [hstate, if_true, Life.stop, Process.life]
    ext1 <;> simp [Process.stopped, Process.goTo, Process.closeSocket, Option.any_map,
      Output.creates, Output.closes]
  · simp only [hstate, if_false, Life.stop, Process.life, List.append_nil]

end Simulates

/-! ## Operations that do not touch the life of a session -/

/-- The life of the session stays as it is. -/
def quiet (s : SessionRef) : Effect where
  rel := fun p outs p' => ∀ log, p'.life s (log ++ outs) = p.life s log
  refl := fun p log => by rw [List.append_nil]
  trans := fun h h' log => by rw [← List.append_assoc, h', h]

theorem Act.Within.simulates
    {α : Type}
    {s : SessionRef}
    {x : Act α}
    (h : x.Within (quiet s)) :
    Simulates s x id :=
  h

/-- The life depends on a few members of the session, on the registry and on the
callbacks. -/
theorem Process.life_congr
    {p p' : Process}
    {s : SessionRef}
    {outs : List Output}
    (hstate : (p'.session s).statemachine = (p.session s).statemachine)
    (hid : (p'.session s).sessionId = (p.session s).sessionId)
    (hconnects : (p'.session s).socket.any Socket.initResult =
      (p.session s).socket.any Socket.initResult)
    (hsessions : p'.sessions = p.sessions)
    (hcounter : p'.sessionIdCounter = p.sessionIdCounter)
    (houts : ∀ o ∈ outs, o.creates s = false ∧ o.closes s = false)
    (log : List Output) :
    p'.life s (log ++ outs) = p.life s log := by
  have hcreates : outs.countP (Output.creates s) = 0 := by
    rw [List.countP_eq_zero]
    intro o ho
    simp [(houts o ho).1]
  have hcloses : outs.countP (Output.closes s) = 0 := by
    rw [List.countP_eq_zero]
    intro o ho
    simp [(houts o ho).2]
  simp [Process.life, hstate, hid, hconnects, hsessions, hcounter, hcreates, hcloses]

theorem any_initResult_eq
    {k k' : Option Socket}
    (h : k'.map Socket.initResult = k.map Socket.initResult) :
    k'.any Socket.initResult = k.any Socket.initResult := by
  cases k with
  | none =>
      cases k' with
      | none =>
          rfl
      | some k' =>
          simp at h
  | some k =>
      cases k' with
      | none =>
          simp at h
      | some k' =>
          simpa using h

/-- Data, heartbeats and errors, on any session, are quiet. -/
theorem quiet_data (s r : SessionRef) : AdmitsData (quiet s) r True (fun _ => True) := by
  have hmembers : ∀ (p : Process) (f : Session → Session),
      (∀ x, (f x).statemachine = x.statemachine ∧ (f x).sessionId = x.sessionId ∧
        (f x).socket = x.socket) → (quiet s).rel p [] (p.modifySession r f) := by
    intro p f hf
    have hsession : ((p.modifySession r f).session s).statemachine = (p.session s).statemachine ∧
        ((p.modifySession r f).session s).sessionId = (p.session s).sessionId ∧
        ((p.modifySession r f).session s).socket = (p.session s).socket := by
      by_cases hs : s = r
      · subst hs
        rw [Process.modifySession_same]
        exact hf _
      · rw [Process.modifySession_other _ _ hs]
        exact ⟨rfl, rfl, rfl⟩
    exact Process.life_congr hsession.1 hsession.2.1 (by rw [hsession.2.2]) rfl rfl (by simp)
  have hemit : ∀ (p : Process) (o : Output), o.creates s = false → o.closes s = false →
      (quiet s).rel p [o] p := by
    intro p o hcreates hcloses
    refine Process.life_congr rfl rfl rfl rfl rfl ?_
    intro o' ho'
    rw [List.mem_singleton.mp ho']
    exact ⟨hcreates, hcloses⟩
  constructor
  · intro p p' outs hframe houts
    have hsession : (p'.session s).statemachine = (p.session s).statemachine ∧
        (p'.session s).sessionId = (p.session s).sessionId ∧
        (p'.session s).socket.any Socket.initResult =
          (p.session s).socket.any Socket.initResult := by
      by_cases hs : s = r
      · subst hs
        obtain ⟨k, c, hself⟩ := hframe.self
        refine ⟨by rw [hself], by rw [hself], any_initResult_eq hframe.initResult⟩
      · rw [hframe.other s hs]
        exact ⟨rfl, rfl, rfl⟩
    refine Process.life_congr hsession.1 hsession.2.1 hsession.2.2 hframe.sessions
      hframe.sessionIdCounter ?_
    intro o ho
    obtain ⟨m, rfl, _⟩ := houts o ho
    exact ⟨rfl, rfl⟩
  · intro _ p l
    exact Process.life_congr rfl rfl rfl rfl rfl (by simp)
  · intro _ p f
    exact hmembers p _ fun _ => ⟨rfl, rfl, rfl⟩
  · intro p
    exact hmembers p _ fun _ => ⟨rfl, rfl, rfl⟩
  · intro p data _
    exact hemit p _ rfl rfl
  · intro p id data _
    exact hemit p _ rfl rfl
  · intro p code text _
    exact hemit p _ rfl rfl
  · intro p id data _
    refine Process.life_congr rfl rfl rfl rfl rfl ?_
    intro o ho
    split at ho
    · rw [List.mem_singleton.mp ho]
      exact ⟨rfl, rfl⟩
    · cases ho

/-- What the operations of another session do to the life of a session: they may
unregister it, and they use up session ids. -/
structure Life.Foreign (s : SessionRef) (l l' : Life) : Prop where
  state : l'.state = l.state
  sessionId : l'.sessionId = l.sessionId
  connects : l'.connects = l.connects
  created : l'.created = l.created
  closed : l'.closed = l.closed
  registered : l'.Registered s → l.Registered s

def foreign (s : SessionRef) : Effect where
  rel := fun p outs p' => ∀ log, (p.life s log).Foreign s (p'.life s (log ++ outs))
  refl := fun p log => by
    rw [List.append_nil]
    exact ⟨rfl, rfl, rfl, rfl, rfl, id⟩
  trans := fun {p q r o o'} h h' log => by
    have hfirst := h log
    have hsecond := h' (log ++ o)
    rw [← List.append_assoc]
    exact ⟨hsecond.state.trans hfirst.state, hsecond.sessionId.trans hfirst.sessionId,
      hsecond.connects.trans hfirst.connects, hsecond.created.trans hfirst.created,
      hsecond.closed.trans hfirst.closed, fun hr => hfirst.registered (hsecond.registered hr)⟩

theorem foreign_of_quiet
    {s : SessionRef}
    {p p' : Process}
    {outs : List Output}
    (h : (quiet s).rel p outs p') :
    (foreign s).rel p outs p' := by
  intro log
  rw [h log]
  exact ⟨rfl, rfl, rfl, rfl, rfl, id⟩

theorem foreign_data (s r : SessionRef) : AdmitsData (foreign s) r True (fun _ => True) :=
  (quiet_data s r).mono foreign_of_quiet

theorem foreign_session {s r : SessionRef} (hne : r ≠ s) : AdmitsSession (foreign s) r := by
  constructor
  · intro p c log
    rw [List.append_nil]
    exact ⟨rfl, rfl, rfl, rfl, rfl, id⟩
  · intro p id log
    rw [List.append_nil]
    refine ⟨rfl, rfl, rfl, rfl, rfl, ?_⟩
    rintro ⟨j, hj⟩
    change OrderedMap.find (p.sessions.emplace id r) j = some s at hj
    rw [OrderedMap.find_emplace] at hj
    split at hj
    · exact absurd (Option.some.inj hj) hne
    · exact ⟨j, hj⟩
  · intro p id log
    rw [List.append_nil]
    refine ⟨rfl, rfl, rfl, rfl, rfl, ?_⟩
    rintro ⟨j, hj⟩
    change OrderedMap.find (p.sessions.remove id) j = some s at hj
    rw [OrderedMap.find_remove] at hj
    split at hj
    · cases hj
    · exact ⟨j, hj⟩
  · intro p f _ _ log
    have hother := p.modifySession_other f hne.symm
    rw [List.append_nil]
    refine ⟨?_, ?_, ?_, rfl, rfl, id⟩
    · simp only [Process.life, hother]
    · simp only [Process.life, hother]
    · simp only [Process.life, hother]
  · intro p sessionId identifier
    refine foreign_of_quiet (Process.life_congr rfl rfl rfl rfl rfl ?_)
    intro o ho
    rw [List.mem_singleton.mp ho]
    exact ⟨by simp [Output.creates, hne], rfl⟩
  · intro p identifier
    refine foreign_of_quiet (Process.life_congr rfl rfl rfl rfl rfl ?_)
    intro o ho
    rw [List.mem_singleton.mp ho]
    exact ⟨rfl, by simp [Output.closes, hne]⟩

/-! ## Session messages -/

/-- What a session message carries. -/
inductive SessionFrame where
  | initStart (clientSessionId : UInt32) (sessionIdentifier : Bytes)
  | initReply (initialId completeSessionId : UInt32) (sessionIdentifier : Bytes)
  | closeStart (sessionId : UInt32)
  | closeReply (sessionId : UInt32)
deriving DecidableEq

/-- What the handler of a session message does. -/
def SessionFrame.handle (s : SessionRef) (messageId : UInt32) : SessionFrame → Act Unit
  | .initStart clientSessionId sessionIdentifier => do
      let serverSessionId ← SessionHandler.increaseSessionIdCounter
      let sessionId := completeSessionId clientSessionId serverSessionId
      SessionHandler.addSession sessionId s
      let _ ← connectiSession s sessionId
      let _ ← makeSessionReady s sessionId sessionIdentifier
      let _ ← sendSessionInitReply s clientSessionId messageId sessionId sessionIdentifier
  | .initReply initialId completeSessionId sessionIdentifier => do
      let _ ← SessionHandler.removeSession initialId
      SessionHandler.addSession completeSessionId s
      let _ ← makeSessionReady s completeSessionId sessionIdentifier
  | .closeStart sessionId => do
      let _ ← sendSessionCloseReply s messageId
      let _ ← SessionHandler.removeSession sessionId
      let _ ← endSession s
  | .closeReply sessionId => do
      let _ ← SessionHandler.removeSession sessionId
      let _ ← disconnectSession s

/-- The step of the life of a session that receives a session message. -/
def SessionFrame.life (s : SessionRef) : SessionFrame → Life → Life
  | .initStart clientSessionId _ => fun l =>
      let sessionId := completeSessionId clientSessionId (l.sessionIdCounter + 1)
      ((l.increase.add sessionId s).connect sessionId).makeReady sessionId
  | .initReply initialId completeSessionId _ => fun l =>
      ((l.remove initialId).add completeSessionId s).makeReady completeSessionId
  | .closeStart sessionId => fun l => (l.remove sessionId).stop
  | .closeReply sessionId => fun l => (l.remove sessionId).disconnect

theorem simulates_handle (s : SessionRef) (messageId : UInt32) (f : SessionFrame) :
    Simulates s (f.handle s messageId) (f.life s) := by
  have hsend : ∀ {α : Type} {x : Act α}, OnlySends s (fun _ => True) x → Simulates s x id := by
    intro α x hx
    exact (hx.within (quiet_data s s)).simulates
  cases f with
  | initStart clientSessionId sessionIdentifier =>
      refine Simulates.increaseSessionIdCounter (g := fun c l =>
        ((l.add (completeSessionId clientSessionId c) s).connect
          (completeSessionId clientSessionId c)).makeReady (completeSessionId clientSessionId c))
        fun c => ?_
      exact (Simulates.addSession _).bind fun _ => (Simulates.connectiSession _).bind fun _ =>
        (Simulates.makeSessionReady _ _).bind fun _ =>
          (hsend (OnlySends.sendSessionInitReply trivial)).bind fun _ => Simulates.pure ()
  | initReply initialId completeSessionId sessionIdentifier =>
      exact (Simulates.removeSession _).bind fun _ => (Simulates.addSession _).bind fun _ =>
        (Simulates.makeSessionReady _ _).bind fun _ => Simulates.pure ()
  | closeStart sessionId =>
      exact (hsend (OnlySends.sendReply trivial _)).bind fun _ =>
        (Simulates.removeSession _).bind fun _ => Simulates.endSession.bind fun _ =>
          Simulates.pure ()
  | closeReply sessionId =>
      exact (Simulates.removeSession _).bind fun _ => Simulates.disconnectSession.bind fun _ =>
        Simulates.pure ()

/-- The session message in a frame of the session type. -/
def sessionFrameOf (header : CommonMessageHeader) (rawMessage : Memory) : Option SessionFrame :=
  if header.subType = SessionSubType.initStart.code then
    some (.initStart (UInt32.ofNat (rawMessage.word 32 4))
      (rawMessage.slice 36 (UInt32.ofNat (rawMessage.word 64036 4)).toNat))
  else if header.subType = SessionSubType.initReply.code then
    some (.initReply (UInt32.ofNat (rawMessage.word 32 4)) (UInt32.ofNat (rawMessage.word 36 4))
      (rawMessage.slice 40 (UInt32.ofNat (rawMessage.word 64040 4)).toNat))
  else if header.subType = SessionSubType.closeStart.code then
    some (.closeStart (UInt32.ofNat (rawMessage.word 32 4)))
  else if header.subType = SessionSubType.closeReply.code then
    some (.closeReply (UInt32.ofNat (rawMessage.word 32 4)))
  else none

theorem processSessionType_result
    (s : SessionRef)
    (header : CommonMessageHeader)
    (rawMessage : Memory)
    (p : Process) :
    ((processSessionType s header rawMessage).run p).result =
      match sessionFrameOf header rawMessage with
      | none => ((), p, [])
      | some f => ((f.handle s (UInt32.ofNat (rawMessage.word 20 4))).run p).result := by
  unfold processSessionType sessionFrameOf
  split
  · simp [processSessionInitStart, SessionFrame.handle, Outcome.result]
  · split
    · simp [processSessionInitReply, SessionFrame.handle, Outcome.result]
    · split
      · simp [processSessionCloseStart, SessionFrame.handle, Outcome.result]
      · split
        · simp [processSessionCloseReply, SessionFrame.handle, Outcome.result]
        · rfl

/-- The session message at the front of a buffer. -/
def RingBuffer.sessionFrame (buf : RingBuffer) : Option SessionFrame :=
  match buf.obtained with
  | .frame header rawMessage =>
      if header.type = MessageType.session.code then sessionFrameOf header rawMessage
      else none
  | _ => none

/-- The session message a send function writes: the session id of a close
message is never filled in. -/
def Body.sessionFrame : Body → Option SessionFrame
  | .sessionInitStart clientSessionId identifier => some (.initStart clientSessionId identifier)
  | .sessionInitReply clientSessionId completeSessionId identifier =>
      some (.initReply clientSessionId completeSessionId identifier)
  | .sessionCloseStart _ => some (.closeStart 0)
  | .sessionCloseReply => some (.closeReply 0)
  | _ => none

/-- The receiver sees the session message of the sender. -/
theorem sessionFrame_bytes
    {cfg : Config}
    {m : Message}
    (hsize : m.body.Sendable cfg)
    (found : Memory)
    (rest : Bytes)
    (beyond : Memory) :
    (RingBuffer.mk (m.bytes found ++ rest) beyond).sessionFrame = m.body.sessionFrame := by
  have hholds := holds_of_bytes hsize found rest beyond
  have hobtained := (obtainsFrame_bytes hsize found rest beyond).obtained hholds.delimiter
  obtain ⟨sessionId, messageId, body⟩ := m
  rw [RingBuffer.sessionFrame, hobtained]
  cases body with
  | sessionInitStart clientSessionId identifier =>
      obtain ⟨hclient, hsizeField, hidentifier⟩ := fields_initStart hsize hholds
      simp [Message.commonHeader, Body.type, Body.subType, sessionFrameOf, Body.sessionFrame,
        hclient, hsizeField, hidentifier]
  | sessionInitReply clientSessionId fullSessionId identifier =>
      obtain ⟨hclient, hcomplete, hsizeField, hidentifier⟩ := fields_initReply hsize hholds
      simp [Message.commonHeader, Body.type, Body.subType, sessionFrameOf, Body.sessionFrame,
        SessionSubType.code, hclient, hcomplete, hsizeField, hidentifier]
  | sessionCloseStart replyExpected =>
      have hid := word_close (Or.inl ⟨replyExpected, rfl⟩) hholds
      simp [Message.commonHeader, Body.type, Body.subType, sessionFrameOf, Body.sessionFrame,
        SessionSubType.code, hid]
  | sessionCloseReply =>
      have hid := word_close (Or.inr rfl) hholds
      simp [Message.commonHeader, Body.type, Body.subType, sessionFrameOf, Body.sessionFrame,
        SessionSubType.code, hid]
  | _ =>
      simp [Message.commonHeader, Body.type, Body.sessionFrame, MessageType.code]

/-- The step of the life of a session that processes the front of its buffer. -/
def RingBuffer.life (s : SessionRef) (buf : RingBuffer) : Life → Life :=
  match buf.obtained, buf.sessionFrame with
  | .falseProtocol, _ => Life.stop
  | _, some f => f.life s
  | _, none => id

theorem simulates_closeSession (s : SessionRef) (replyExpected : Bool) :
    Simulates s (closeSession s replyExpected) (if replyExpected then id else Life.stop) := by
  have hstart : ∀ reply, Simulates s (sendSessionCloseStart s reply) id := by
    intro reply
    exact ((OnlySends.sendNew (P := fun _ => True) trivial).within (quiet_data s s)).simulates
  have hremoveAll : ∀ id', Simulates s (ReplyHandler.removeAllOfSession id') id :=
    fun _ p => (quiet_data s s).replyList trivial p _
  have hbuffer : Simulates s (MultiblockIo.removeMultiblockBuffer s 0) id :=
    within_removeMultiblockBuffer (quiet_data s s) trivial 0
  intro p log
  rw [closeSession, run_getSession_bind, SessionState.isInState_sessionReady]
  by_cases hstate : (p.session s).statemachine = .sessionReady
  · simp only [hstate, decide_true, if_true]
    cases replyExpected with
    | true =>
        exact (hremoveAll _).bind (fun _ => hbuffer.bind fun _ => hstart true) p log
    | false =>
        exact (hremoveAll _).bind (fun _ => hbuffer.bind fun _ =>
          (hstart false).bind fun _ => Simulates.endSession) p log
  · have hstop : Life.stop (p.life s log) = p.life s log := if_neg hstate
    cases replyExpected with
    | true =>
        simp [hstate]
    | false =>
        simp [hstate, hstop]

theorem simulates_processFrame_session
    (s : SessionRef)
    (header : CommonMessageHeader)
    (rawMessage : Memory)
    (htype : header.type = MessageType.session.code) :
    Simulates s (processFrame s header rawMessage)
      (match sessionFrameOf header rawMessage with
        | none => id
        | some f => f.life s) := by
  have hby : processByType s header rawMessage = some (processSessionType s header rawMessage) := by
    simp [processByType, htype, MessageType.code]
  have hhandler : Simulates s (processSessionType s header rawMessage)
      (match sessionFrameOf header rawMessage with
        | none => id
        | some f => f.life s) := by
    have hresult := processSessionType_result s header rawMessage
    cases hframe : sessionFrameOf header rawMessage with
    | none =>
        rw [hframe] at hresult
        exact Simulates.congr (y := pure ()) hresult (Simulates.pure ())
    | some f =>
        rw [hframe] at hresult
        exact Simulates.congr hresult (simulates_handle s _ f)
  have hremove := (within_removeMessage (quiet_data s s) trivial header.sessionId
    header.messageId).simulates
  unfold processFrame
  rw [hby]
  by_cases hreply : (header.flags &&& 0x2 != 0) = true
  · rw [if_pos hreply]
    exact hremove.bind fun _ => hhandler.bind fun _ => Simulates.pure _
  · rw [if_neg hreply]
    exact hhandler.bind fun _ => Simulates.pure _

/-- A received frame takes the life of its session one step. -/
theorem simulates_processMessage
    (cfg : Config)
    (s : SessionRef)
    (buf : RingBuffer) :
    Simulates s (processMessage cfg s buf) (buf.life s) := by
  have hresult := processMessage_result cfg s buf
  intro p log
  have hp := hresult p
  unfold RingBuffer.life RingBuffer.sessionFrame
  have herror := ((within_sendErrorMessage (quiet_data s s) cfg .falseVersion []).simulates) p log
  cases hobtained : buf.obtained with
  | nothing =>
      simp only [hobtained, Outcome.result, Prod.mk.injEq] at hp
      simp [hp.2.1, hp.2.2]
  | falseProtocol =>
      simp only [hobtained, Outcome.result, Prod.mk.injEq] at hp
      rw [hp.2.1, hp.2.2]
      exact simulates_closeSession s false p log
  | falseVersion =>
      simp only [hobtained, Outcome.result, Prod.mk.injEq] at hp
      rw [hp.2.1, hp.2.2]
      exact herror
  | falseDelimiter =>
      simp only [hobtained, Outcome.result, Prod.mk.injEq] at hp
      rw [hp.2.1, hp.2.2]
      exact herror
  | frame header rawMessage =>
      simp only [hobtained] at hp
      simp only [Outcome.result, Prod.mk.injEq] at hp
      rw [hp.2.1, hp.2.2]
      by_cases hsession : header.type = MessageType.session.code
      · have hsimulates := simulates_processFrame_session s header rawMessage hsession p log
        simp only [hsession, if_true]
        cases hframe : sessionFrameOf header rawMessage with
        | none =>
            rw [hframe] at hsimulates
            exact hsimulates
        | some f =>
            rw [hframe] at hsimulates
            exact hsimulates
      · simp only [hsession, if_false]
        exact within_processFrame (quiet_data s s) header rawMessage (fun _ => trivial)
          (fun _ => trivial)
          (fun h => absurd h hsession) (fun _ _ => trivial) (fun _ _ => trivial) p log

/-- The new session object is connected and registered, if its socket connects. -/
def Life.start (s : SessionRef) (l : Life) : Life :=
  let newId := (l.sessionIdCounter + 1).toUInt32
  if l.state = .notConnected ∧ l.connects = true then (l.increase.connect newId).add newId s
  else l.increase.stop

theorem simulates_startSession
    (s : SessionRef)
    (sessionIdentifier : Bytes) :
    Simulates s (startSession s sessionIdentifier)
      (if sessionIdentifier.length > 64000 then id else Life.start s) := by
  unfold startSession
  by_cases hlong : sessionIdentifier.length > 64000
  · simp only [hlong, if_true]
    exact Simulates.pure false
  · simp only [hlong, if_false]
    have hsend : Simulates s (sendSessionInitStart s sessionIdentifier) id := by
      refine Act.Within.simulates ((Act.Within.getSession s).bind fun _ =>
        (Act.Within.touch _).bind fun _ => ?_)
      exact (OnlySends.sendNew (P := fun _ => True) trivial).within (quiet_data s s)
    refine Simulates.increaseSessionIdCounter (g := fun c l =>
      if l.state = .notConnected ∧ l.connects = true then (l.connect c.toUInt32).add c.toUInt32 s
      else l.stop) fun c p log => ?_
    have hconnect := Simulates.connectiSession (s := s) c.toUInt32 p log
    have hvalue := connectiSession_value s c.toUInt32 p
    rw [Act.run_bind]
    simp only [connectiSession_outputs, List.append_nil, List.nil_append] at hconnect ⊢
    by_cases hconnectable : (p.session s).connectable = true
    · have hand := hconnectable
      simp only [Session.connectable, Bool.and_eq_true, decide_eq_true_eq] at hand
      have hcond : (p.life s log).state = .notConnected ∧ (p.life s log).connects = true := hand
      rw [hvalue, hconnectable, if_pos rfl, if_pos hcond, ← hconnect]
      exact (Simulates.addSession _).bind (fun _ => hsend.bind fun _ => Simulates.pure true) _ log
    · have hcond : ¬ ((p.life s log).state = .notConnected ∧ (p.life s log).connects = true) := by
        intro h
        have hstate : (p.session s).statemachine = .notConnected := h.1
        have hconnects : (p.session s).socket.any Socket.initResult = true := h.2
        exact hconnectable (by simp [Session.connectable, hstate, hconnects])
      have hsame : (p.life s log).connect c.toUInt32 = p.life s log := if_neg hcond
      rw [hvalue, if_neg hconnectable, if_neg hcond, ← hsame, ← hconnect]
      exact (simulates_closeSession s false).bind (fun _ => Simulates.pure false) _ log

/-! ## Steps that keep the callbacks balanced -/

/-- The session is ready under no other id than its own. -/
def Life.StopsClean (s : SessionRef) (l : Life) : Prop :=
  l.state = .sessionReady → ∀ id, l.sessions.find id = some s → id = l.sessionId

/-- A session message keeps the callbacks of a session balanced. -/
def SessionFrame.KeepsBalance (s : SessionRef) (l : Life) : SessionFrame → Prop
  | .initStart clientSessionId _ =>
      -- the session becomes ready or stays it, was never ready, or is not registered
      l.state = .notConnected ∧ l.connects = true ∨ l.state = .sessionNotReady ∨
        l.state = .sessionReady ∨ l.created = 0 ∨
        (l.sessions.find (completeSessionId clientSessionId (l.sessionIdCounter + 1))).isSome
  | .initReply initialId completeSessionId _ =>
      l.state = .sessionNotReady ∨ l.state = .sessionReady ∨ l.created = 0 ∨
        ((l.sessions.remove initialId).find completeSessionId).isSome
  | .closeStart sessionId =>
      l.state = .sessionReady → ∀ id, l.sessions.find id = some s →
        id = sessionId ∨ id = l.sessionId
  | .closeReply _ => l.state ≠ .sessionReady

namespace Life

variable {s : SessionRef} {l : Life}

theorem registered_add_iff (id : UInt32) :
    (l.add id s).Registered s ↔ l.Registered s ∨ l.sessions.find id = none := by
  constructor
  · rintro ⟨j, hj⟩
    simp only [add, OrderedMap.find_emplace] at hj
    split at hj
    · rename_i h
      exact Or.inr h.2
    · exact Or.inl ⟨j, hj⟩
  · rintro (⟨j, hj⟩ | hnone)
    · refine ⟨j, ?_⟩
      have hne : ¬ (j = id ∧ l.sessions.find id = none) := by
        rintro ⟨rfl, hnone⟩
        rw [hnone] at hj
        cases hj
      simp only [add, OrderedMap.find_emplace, if_neg hne, hj]
    · exact ⟨id, by simp only [add, OrderedMap.find_emplace, hnone, and_self, if_true]⟩

theorem registered_of_remove {id : UInt32} (h : (l.remove id).Registered s) : l.Registered s := by
  obtain ⟨j, hj⟩ := h
  simp only [remove, OrderedMap.find_remove] at hj
  split at hj
  · cases hj
  · exact ⟨j, hj⟩

theorem balanced_of_ready
    (hstate : l.state = .sessionReady)
    (hcallbacks : l.created = l.closed + 1) :
    l.Balanced s where
  callbacks := by rw [if_pos hstate, hcallbacks]
  unregistered := fun hleft => absurd hstate hleft.1

theorem balanced_iff_of_not_ready (hstate : l.state ≠ .sessionReady) :
    l.Balanced s ↔ l.created = l.closed ∧ (l.created = 0 ∨ ¬ l.Registered s) := by
  constructor
  · rintro ⟨hcallbacks, hunregistered⟩
    rw [if_neg hstate] at hcallbacks
    refine ⟨hcallbacks, ?_⟩
    rcases Nat.eq_zero_or_pos l.created with hzero | hpos
    · exact Or.inl hzero
    · exact Or.inr (hunregistered ⟨hstate, hpos⟩)
  · rintro ⟨hcallbacks, hgone⟩
    constructor
    · rw [if_neg hstate, hcallbacks]
      rfl
    · rintro ⟨_, hpos⟩
      rcases hgone with hzero | hgone
      · omega
      · exact hgone

/-- A balanced session that is not ready stays balanced when its registration
under an id is refused, or when it was never ready. -/
theorem balanced_add_iff
    (h : l.Balanced s)
    (hstate : l.state ≠ .sessionReady)
    (id : UInt32) :
    (l.add id s).Balanced s ↔ l.created = 0 ∨ (l.sessions.find id).isSome := by
  obtain ⟨hcallbacks, hgone⟩ := (balanced_iff_of_not_ready hstate).mp h
  rw [balanced_iff_of_not_ready (show (l.add id s).state ≠ _ from hstate), registered_add_iff]
  constructor
  · rintro ⟨_, hzero | hnot⟩
    · exact Or.inl hzero
    · refine Or.inr (Option.isSome_iff_ne_none.mpr ?_)
      intro hnone
      exact hnot (Or.inr hnone)
  · intro hcond
    refine ⟨hcallbacks, ?_⟩
    rcases hcond with hzero | hsome
    · exact Or.inl hzero
    · rcases hgone with hzero | hgone
      · exact Or.inl hzero
      · refine Or.inr ?_
        rintro (hregistered | hnone)
        · exact hgone hregistered
        · rw [hnone] at hsome
          cases hsome

theorem balanced_remove
    (h : l.Balanced s)
    (id : UInt32) :
    (l.remove id).Balanced s where
  callbacks := h.callbacks
  unregistered := fun hleft hregistered => h.unregistered hleft (registered_of_remove hregistered)

/-- Stopping a balanced session keeps it balanced when it is registered under its
own id only. -/
theorem balanced_stop_iff (h : l.Balanced s) : l.stop.Balanced s ↔ l.StopsClean s := by
  by_cases hstate : l.state = .sessionReady
  · have hcallbacks := h.callbacks
    rw [if_pos hstate] at hcallbacks
    rw [stop, if_pos hstate]
    constructor
    · rintro ⟨_, hunregistered⟩ _ id hid
      by_contra hne
      refine hunregistered ⟨by simp, by simp only; omega⟩ ⟨id, ?_⟩
      simp only [OrderedMap.find_remove, if_neg hne, hid]
    · intro hclean
      constructor
      · simp only [reduceCtorEq, if_false]
        omega
      · rintro _ ⟨id, hid⟩
        simp only [OrderedMap.find_remove] at hid
        split at hid
        · cases hid
        · rename_i hne
          exact hne (hclean hstate id hid)
  · rw [stop, if_neg hstate]
    constructor
    · intro _ hready
      exact absurd hready hstate
    · intro _
      exact h

end Life

/-- Received in a balanced state, a session message keeps the callbacks balanced
exactly under its condition. -/
theorem SessionFrame.balanced_iff
    {s : SessionRef}
    {l : Life}
    (h : l.Balanced s)
    (f : SessionFrame) :
    (f.life s l).Balanced s ↔ f.KeepsBalance s l := by
  have hcallbacks := h.callbacks
  cases f with
  | initStart clientSessionId sessionIdentifier =>
      simp only [life, KeepsBalance]
      by_cases hready : l.state = .sessionReady
      · rw [if_pos hready] at hcallbacks
        have hlife : ((l.increase.add (completeSessionId clientSessionId (l.sessionIdCounter + 1))
            s).connect (completeSessionId clientSessionId (l.sessionIdCounter + 1))).makeReady
              (completeSessionId clientSessionId (l.sessionIdCounter + 1)) =
            l.increase.add (completeSessionId clientSessionId (l.sessionIdCounter + 1)) s := by
          simp [Life.makeReady, Life.connect, Life.add, Life.increase, hready]
        rw [hlife]
        simp only [hready, true_or, or_true, iff_true]
        exact Life.balanced_of_ready hready hcallbacks
      · rw [if_neg hready] at hcallbacks
        by_cases hmakes : l.state = .notConnected ∧ l.connects = true ∨ l.state = .sessionNotReady
        · have hcond : l.state = .notConnected ∧ l.connects = true ∨ l.state = .sessionNotReady ∨
              l.state = .sessionReady ∨ l.created = 0 ∨
              (l.sessions.find (completeSessionId clientSessionId
                (l.sessionIdCounter + 1))).isSome := by
            rcases hmakes with hconnects | hnotReady
            · exact Or.inl hconnects
            · exact Or.inr (Or.inl hnotReady)
          simp only [hcond, iff_true]
          rcases hmakes with ⟨hstate, hconnects⟩ | hstate
          · refine Life.balanced_of_ready ?_ ?_
            · simp [Life.makeReady, Life.connect, Life.add, Life.increase, hstate, hconnects]
            · simp [Life.makeReady, Life.connect, Life.add, Life.increase, hstate, hconnects,
                hcallbacks]
          · refine Life.balanced_of_ready ?_ ?_
            · simp [Life.makeReady, Life.connect, Life.add, Life.increase, hstate]
            · simp [Life.makeReady, Life.connect, Life.add, Life.increase, hstate, hcallbacks]
        · obtain ⟨hconnects, hnotReady⟩ := not_or.mp hmakes
          have hlife : ((l.increase.add (completeSessionId clientSessionId
              (l.sessionIdCounter + 1)) s).connect (completeSessionId clientSessionId
                (l.sessionIdCounter + 1))).makeReady
                (completeSessionId clientSessionId (l.sessionIdCounter + 1)) =
              l.increase.add (completeSessionId clientSessionId (l.sessionIdCounter + 1)) s := by
            simp [Life.makeReady, Life.connect, Life.add, Life.increase, hconnects, hnotReady]
          rw [hlife]
          simp only [hconnects, hnotReady, hready, false_or]
          exact Life.balanced_add_iff (l := l.increase) ⟨h.callbacks, h.unregistered⟩ hready _
  | initReply initialId completeId sessionIdentifier =>
      simp only [life, KeepsBalance]
      by_cases hready : l.state = .sessionReady
      · rw [if_pos hready] at hcallbacks
        have hlife : ((l.remove initialId).add completeId s).makeReady completeId =
            (l.remove initialId).add completeId s := by
          simp [Life.makeReady, Life.add, Life.remove, hready]
        rw [hlife]
        simp only [hready, true_or, or_true, iff_true]
        exact Life.balanced_of_ready hready hcallbacks
      · rw [if_neg hready] at hcallbacks
        by_cases hnotReady : l.state = .sessionNotReady
        · simp only [hnotReady, true_or, iff_true]
          refine Life.balanced_of_ready ?_ ?_
          · simp [Life.makeReady, Life.add, Life.remove, hnotReady]
          · simp [Life.makeReady, Life.add, Life.remove, hnotReady, hcallbacks]
        · have hlife : ((l.remove initialId).add completeId s).makeReady completeId =
              (l.remove initialId).add completeId s := by
            simp [Life.makeReady, Life.add, Life.remove, hnotReady]
          rw [hlife]
          simp only [hnotReady, hready, false_or]
          exact Life.balanced_add_iff (Life.balanced_remove h initialId) hready _
  | closeStart sessionId =>
      simp only [life, KeepsBalance]
      rw [Life.balanced_stop_iff (Life.balanced_remove h sessionId)]
      refine forall_congr' fun _ => forall_congr' fun id => ?_
      by_cases hid : id = sessionId
      · simp [Life.remove, OrderedMap.find_remove, hid]
      · simp [Life.remove, OrderedMap.find_remove, hid]
  | closeReply sessionId =>
      simp only [life, KeepsBalance]
      by_cases hready : l.state = .sessionReady
      · rw [if_pos hready] at hcallbacks
        simp only [hready, ne_eq, not_true_eq_false, iff_false]
        intro hbalanced
        have hafter := hbalanced.callbacks
        simp [Life.disconnect, Life.remove] at hafter
        omega
      · rw [if_neg hready] at hcallbacks
        simp only [ne_eq, hready, not_false_eq_true, iff_true]
        have hremoved := (Life.balanced_iff_of_not_ready (l := l.remove sessionId) hready).mp
          (Life.balanced_remove h sessionId)
        refine (Life.balanced_iff_of_not_ready ?_).mpr hremoved
        simp [Life.disconnect]

/-- Processing the front of a buffer keeps the callbacks of a session balanced: a
foreign protocol closes the session. -/
def RingBuffer.KeepsBalance (s : SessionRef) (l : Life) (buf : RingBuffer) : Prop :=
  match buf.obtained, buf.sessionFrame with
  | .falseProtocol, _ => l.StopsClean s
  | _, some f => f.KeepsBalance s l
  | _, none => True

theorem RingBuffer.balanced_iff
    {s : SessionRef}
    {l : Life}
    (h : l.Balanced s)
    (buf : RingBuffer) :
    (buf.life s l).Balanced s ↔ buf.KeepsBalance s l := by
  unfold RingBuffer.life RingBuffer.KeepsBalance
  cases buf.obtained with
  | falseProtocol =>
      exact Life.balanced_stop_iff h
  | _ =>
      cases buf.sessionFrame with
      | none =>
          exact iff_of_true h trivial
      | some f =>
          exact SessionFrame.balanced_iff h f

/-! ## Runs -/

/-- A process, the session objects in use, and everything observed so far. -/
structure Lifecycle where
  process : Process
  objects : List SessionRef := []
  log : List Output := []

namespace Lifecycle

def life (st : Lifecycle) (s : SessionRef) : Life :=
  st.process.life s st.log

/-- The state after an operation. -/
def after {α : Type} (st : Lifecycle) (x : Act α) : Lifecycle :=
  { st with
    process := (x.run st.process).process
    log := st.log ++ (x.run st.process).outputs }

theorem life_after
    {α : Type}
    {s : SessionRef}
    {x : Act α}
    {f : Life → Life}
    (h : Simulates s x f)
    (st : Lifecycle) :
    (st.after x).life s = f (st.life s) :=
  h st.process st.log

end Lifecycle

/-- The operations in the life of a session. -/
inductive LifecycleAction where
  /-- `processConnection_Callback`: a server got a connection. -/
  | accept (s : SessionRef)
  | start (s : SessionRef) (sessionIdentifier : Bytes)
  | receive (s : SessionRef) (buf : RingBuffer)
  | close (s : SessionRef) (replyExpected : Bool)

/-- A process with any number of sessions, whose operations come in any order.  A
session object is created once, by a connection or by `startSession`. -/
def lifecycle (cfg : Config) : TransitionSystem Lifecycle LifecycleAction where
  init := fun st =>
    st.process.sessions = ∅ ∧ (∀ s, ∃ k, st.process.session s = Session.create k) ∧
      st.objects = [] ∧ st.log = []
  step := fun st a =>
    match a with
    | .accept s =>
        if s ∈ st.objects then none else some { st with objects := s :: st.objects }
    | .start s sessionIdentifier =>
        if s ∈ st.objects then none
        else some { st.after (startSession s sessionIdentifier) with objects := s :: st.objects }
    | .receive s buf =>
        if s ∈ st.objects then some (st.after (processMessage cfg s buf)) else none
    | .close s replyExpected =>
        if s ∈ st.objects then some (st.after (closeSession s replyExpected)) else none

theorem lifecycle_receive
    (cfg : Config)
    {st : Lifecycle}
    {s : SessionRef}
    (h : s ∈ st.objects)
    (buf : RingBuffer) :
    (lifecycle cfg).step st (.receive s buf) = some (st.after (processMessage cfg s buf)) :=
  if_pos h

theorem lifecycle_close
    (cfg : Config)
    {st : Lifecycle}
    {s : SessionRef}
    (h : s ∈ st.objects)
    (replyExpected : Bool) :
    (lifecycle cfg).step st (.close s replyExpected) =
      some (st.after (closeSession s replyExpected)) :=
  if_pos h

/-- The condition under which an operation keeps the callbacks balanced. -/
def LifecycleAction.KeepsBalance (st : Lifecycle) : LifecycleAction → Prop
  | .accept _ | .start _ _ => True
  | .receive s buf => buf.KeepsBalance s (st.life s)
  | .close s replyExpected => replyExpected = false → (st.life s).StopsClean s

theorem LifecycleAction.keepsBalance_receive_iff
    (st : Lifecycle)
    (s : SessionRef)
    (buf : RingBuffer) :
    (LifecycleAction.receive s buf).KeepsBalance st ↔ buf.KeepsBalance s (st.life s) :=
  Iff.rfl

/-- Every session is balanced; a session object that does not exist yet has no
history. -/
structure LifecycleInvariant (st : Lifecycle) : Prop where
  balanced : ∀ s, (st.life s).Balanced s
  fresh : ∀ s, s ∉ st.objects →
    (st.life s).state = .notConnected ∧ (st.life s).created = 0 ∧ ¬ (st.life s).Registered s

/-- Operations of other sessions keep the balance. -/
theorem Life.Foreign.balanced
    {s : SessionRef}
    {l l' : Life}
    (h : Life.Foreign s l l')
    (hbalanced : l.Balanced s) :
    l'.Balanced s where
  callbacks := by rw [h.created, h.closed, h.state, hbalanced.callbacks]
  unregistered := by
    rintro ⟨hstate, hpos⟩ hregistered
    rw [h.state] at hstate
    rw [h.created] at hpos
    exact hbalanced.unregistered ⟨hstate, hpos⟩ (h.registered hregistered)

/-- An operation of one session keeps the invariant if it keeps this session
balanced. -/
theorem LifecycleInvariant.after
    {α : Type}
    {st : Lifecycle}
    {x : Act α}
    {r : SessionRef}
    {f : Life → Life}
    {objects : List SessionRef}
    (h : LifecycleInvariant st)
    (hsimulates : Simulates r x f)
    (hforeign : ∀ s, r ≠ s → x.Within (foreign s))
    (hobjects : r ∈ objects ∧ ∀ s, s ∈ st.objects → s ∈ objects)
    (hbalanced : (f (st.life r)).Balanced r) :
    LifecycleInvariant { st.after x with objects := objects } := by
  have hself : ({ st.after x with objects := objects } : Lifecycle).life r = f (st.life r) :=
    Lifecycle.life_after hsimulates st
  have hother : ∀ s, r ≠ s → (st.life s).Foreign s
      (({ st.after x with objects := objects } : Lifecycle).life s) := by
    intro s hs
    exact hforeign s hs st.process st.log
  constructor
  · intro s
    by_cases hs : r = s
    · subst hs
      rw [hself]
      exact hbalanced
    · exact (hother s hs).balanced (h.balanced s)
  · intro s hnot
    have hs : r ≠ s := by
      rintro rfl
      exact hnot hobjects.1
    obtain ⟨hstate, hcreated, hregistered⟩ := h.fresh s fun hin => hnot (hobjects.2 s hin)
    have hf := hother s hs
    refine ⟨by rw [hf.state, hstate], by rw [hf.created, hcreated], ?_⟩
    intro hr
    exact hregistered (hf.registered hr)

/-- The first operation of a session object leaves it balanced. -/
theorem Life.balanced_start
    {s : SessionRef}
    {l : Life}
    (h : l.Balanced s)
    (hstate : l.state = .notConnected)
    (hcreated : l.created = 0) :
    (l.start s).Balanced s := by
  have hready : l.state ≠ .sessionReady := by
    rw [hstate]
    exact SessionState.noConfusion
  have hclosed := (balanced_iff_of_not_ready hready).mp h
  unfold Life.start
  split
  · rename_i hcond
    refine (balanced_iff_of_not_ready ?_).mpr ⟨?_, Or.inl ?_⟩
    · simp [add, connect, increase, hcond]
    · simp [add, connect, increase, hcond, hclosed.1]
    · simp [add, connect, increase, hcond, hcreated]
  · have hstop : l.increase.stop = l.increase := if_neg hready
    rw [hstop]
    exact ⟨h.callbacks, h.unregistered⟩

theorem lifecycleInvariant_of_init
    {cfg : Config}
    {st : Lifecycle}
    (h : (lifecycle cfg).init st) :
    LifecycleInvariant st := by
  obtain ⟨hsessions, hcreated, hobjects, hlog⟩ := h
  have hlife : ∀ s, (st.life s).state = .notConnected ∧ (st.life s).created = 0 ∧
      (st.life s).closed = 0 ∧ ¬ (st.life s).Registered s := by
    intro s
    obtain ⟨k, hk⟩ := hcreated s
    refine ⟨?_, ?_, ?_, ?_⟩
    · simp [Lifecycle.life, Process.life, hk, Session.create]
    · simp [Lifecycle.life, Process.life, hlog]
    · simp [Lifecycle.life, Process.life, hlog]
    · rintro ⟨id, hid⟩
      simp only [Lifecycle.life, Process.life, hsessions, OrderedMap.find_empty] at hid
      cases hid
  constructor
  · intro s
    obtain ⟨hstate, hcreated, hclosed, hregistered⟩ := hlife s
    refine (Life.balanced_iff_of_not_ready ?_).mpr ⟨?_, Or.inl hcreated⟩
    · rw [hstate]
      exact SessionState.noConfusion
    · rw [hcreated, hclosed]
  · intro s _
    obtain ⟨hstate, hcreated, _, hregistered⟩ := hlife s
    exact ⟨hstate, hcreated, hregistered⟩

/-- Every operation keeps the invariant, under its condition. -/
theorem lifecycleInvariant_step
    {cfg : Config}
    {st st' : Lifecycle}
    {a : LifecycleAction}
    (h : LifecycleInvariant st)
    (ha : a.KeepsBalance st)
    (hstep : (lifecycle cfg).step st a = some st') :
    LifecycleInvariant st' := by
  cases a with
  | accept s =>
      simp only [lifecycle, Option.ite_none_left_eq_some, Option.some.injEq] at hstep
      obtain ⟨_, rfl⟩ := hstep
      refine ⟨h.balanced, ?_⟩
      intro r hr
      exact h.fresh r fun hin => hr (List.mem_cons_of_mem _ hin)
  | start s sessionIdentifier =>
      simp only [lifecycle, Option.ite_none_left_eq_some, Option.some.injEq] at hstep
      obtain ⟨hnew, rfl⟩ := hstep
      obtain ⟨hstate, hcreated, _⟩ := h.fresh s hnew
      refine h.after (simulates_startSession s sessionIdentifier) ?_ ?_ ?_
      · intro r hr
        exact within_startSession (foreign_data r s) trivial trivial (foreign_session hr) _
      · exact ⟨List.mem_cons_self, fun r hr => List.mem_cons_of_mem _ hr⟩
      · split
        · exact h.balanced s
        · exact Life.balanced_start (h.balanced s) hstate hcreated
  | receive s buf =>
      simp only [lifecycle, Option.ite_none_right_eq_some, Option.some.injEq] at hstep
      obtain ⟨hin, rfl⟩ := hstep
      refine h.after (simulates_processMessage cfg s buf) ?_ ⟨hin, fun r hr => hr⟩ ?_
      · intro r hr
        exact within_processMessage (foreign_data r s) (foreign_session hr) trivial trivial
          cfg buf (fun _ _ => trivial) fun _ _ => trivial
      · exact (RingBuffer.balanced_iff (h.balanced s) buf).mpr ha
  | close s replyExpected =>
      simp only [lifecycle, Option.ite_none_right_eq_some, Option.some.injEq] at hstep
      obtain ⟨hin, rfl⟩ := hstep
      refine LifecycleInvariant.after (x := closeSession s replyExpected) h
        (simulates_closeSession s replyExpected) ?_ ⟨hin, fun r hr => hr⟩ ?_
      · intro r hr
        exact within_closeSession (foreign_data r s) trivial trivial (foreign_session hr) _
      · cases replyExpected with
        | true =>
            exact h.balanced s
        | false =>
            exact (Life.balanced_stop_iff (h.balanced s)).mpr (ha rfl)

/-- In every run whose operations keep the balance, every session has one create
callback more than close callbacks while it is ready, and as many otherwise; a
session that was ready and is not any more is registered under no id. -/
theorem callbacks_balanced
    {cfg : Config}
    {st : Lifecycle}
    (h : (lifecycle cfg).Reaches (fun st a => a.KeepsBalance st) st)
    (s : SessionRef) :
    st.log.countP (Output.creates s) =
        st.log.countP (Output.closes s) +
          (if (st.process.session s).statemachine = .sessionReady then 1 else 0) ∧
    ((st.process.session s).statemachine ≠ .sessionReady →
      0 < st.log.countP (Output.creates s) →
      ∀ id, st.process.sessions.find id ≠ some s) := by
  have hinv : LifecycleInvariant st := by
    refine h.invariant (fun _ => lifecycleInvariant_of_init) ?_
    intro st a st' hst ha hstep
    exact lifecycleInvariant_step hst ha hstep
  have hbalanced := hinv.balanced s
  refine ⟨hbalanced.callbacks, ?_⟩
  intro hstate hpos id hid
  exact hbalanced.unregistered ⟨hstate, hpos⟩ ⟨id, hid⟩

/-- A process in which one server session gets a connection. -/
def acceptedState : Lifecycle where
  process := Process.created (fun _ => some
    { isOpen := false, initResult := true, closeResult := true, sendResults := fun _ => true })
  objects := [0]

theorem reaches_acceptedState
    (cfg : Config)
    {allowed : Lifecycle → LifecycleAction → Prop}
    (hallowed : ∀ st, allowed st (.accept 0)) :
    (lifecycle cfg).Reaches allowed acceptedState := by
  have hinit : (lifecycle cfg).init { acceptedState with objects := [] } :=
    ⟨rfl, fun _ => ⟨_, rfl⟩, rfl, rfl⟩
  exact .step (.init hinit) (hallowed _) (a := .accept 0) rfl

/-- The buffer that holds exactly one message; its bytes are never looked at. -/
@[irreducible] def bufferOfMessage (m : Message) : RingBuffer where
  unread := m.bytes (fun _ => 0) ++ []
  beyond := fun _ => 0

theorem processMessage_bufferOfMessage
    {m : Message}
    (hsize : m.body.Sendable Config.default)
    (s : SessionRef)
    (p : Process) :
    ((processMessage Config.default s (bufferOfMessage m)).run p).process =
        ((m.handle s).run p).process ∧
      ((processMessage Config.default s (bufferOfMessage m)).run p).outputs =
        ((m.handle s).run p).outputs := by
  have hresult := processMessage_bytes hsize s p (fun _ => 0) [] (fun _ => 0)
  simp only [Outcome.result, Prod.mk.injEq] at hresult
  unfold bufferOfMessage
  exact hresult.2

theorem sessionFrame_bufferOfMessage
    {m : Message}
    (hsize : m.body.Sendable Config.default) :
    (bufferOfMessage m).sessionFrame = m.body.sessionFrame := by
  unfold bufferOfMessage
  exact sessionFrame_bytes hsize (fun _ => 0) [] (fun _ => 0)

theorem life_bufferOfMessage
    {m : Message}
    (hsize : m.body.Sendable Config.default)
    (s : SessionRef)
    (l : Life) :
    (bufferOfMessage m).life s l =
      match m.body.sessionFrame with
      | none => l
      | some f => f.life s l := by
  have hframe := sessionFrame_bytes hsize (fun _ => 0) [] (fun _ => 0)
  have hholds := holds_of_bytes hsize (fun _ => 0) [] (fun _ => 0)
  have hobtained :=
    (obtainsFrame_bytes hsize (fun _ => 0) [] (fun _ => 0)).obtained hholds.delimiter
  unfold RingBuffer.life bufferOfMessage
  rw [hframe, hobtained]
  cases m.body.sessionFrame with
  | none =>
      rfl
  | some f =>
      rfl

/-- The session after the init start message of a client with the id 1. -/
def openedState : Lifecycle :=
  acceptedState.after
    (processMessage Config.default 0 (bufferOfMessage ⟨1, 1, .sessionInitStart 1 []⟩))

theorem life_openedState :
    openedState.life 0 =
      { state := .sessionReady
        sessionId := 65537
        connects := true
        sessions := OrderedMap.emplace ∅ 65537 0
        sessionIdCounter := 1
        created := 1
        closed := 0 } := by
  have hsize : Body.Sendable Config.default (.sessionInitStart 1 []) := by
    simp [Body.Sendable]
  have hid : completeSessionId 1 1 = 65537 := by decide
  rw [openedState, Lifecycle.life_after (simulates_processMessage _ 0 _),
    life_bufferOfMessage hsize]
  simp [Body.sessionFrame, SessionFrame.life, Lifecycle.life, Process.life, acceptedState,
    Process.created, Session.create, Life.increase, Life.add, Life.connect, Life.makeReady, hid]

theorem reaches_openedState :
    (lifecycle Config.default).Reaches (fun st a => a.KeepsBalance st) openedState := by
  have hsize : Body.Sendable Config.default (.sessionInitStart 1 []) := by
    simp [Body.Sendable]
  have hfresh : (acceptedState.life 0).Balanced 0 := by
    refine (Life.balanced_iff_of_not_ready ?_).mpr ⟨rfl, Or.inl rfl⟩
    exact SessionState.noConfusion
  have hkeeps : (bufferOfMessage ⟨1, 1, .sessionInitStart 1 []⟩).KeepsBalance 0
      (acceptedState.life 0) := by
    rw [← RingBuffer.balanced_iff hfresh, life_bufferOfMessage hsize]
    refine (SessionFrame.balanced_iff hfresh _).mpr ?_
    exact Or.inl ⟨rfl, rfl⟩
  exact .step (a := .receive 0 (bufferOfMessage ⟨1, 1, .sessionInitStart 1 []⟩))
    (reaches_acceptedState _ fun _ => trivial)
    ((LifecycleAction.keepsBalance_receive_iff _ _ _).mpr hkeeps)
    (lifecycle_receive _ (List.mem_singleton.mpr rfl) _)

theorem callbacks_balanced_closed :
    (openedState.after (closeSession 0 false)).log.countP (Output.creates 0) =
      (openedState.after (closeSession 0 false)).log.countP (Output.closes 0) +
        (if ((openedState.after (closeSession 0 false)).process.session 0).statemachine =
          .sessionReady then 1 else 0) ∧
    (((openedState.after (closeSession 0 false)).process.session 0).statemachine ≠
        .sessionReady →
      0 < (openedState.after (closeSession 0 false)).log.countP (Output.creates 0) →
      ∀ id, (openedState.after (closeSession 0 false)).process.sessions.find id ≠ some 0) := by
  refine callbacks_balanced (.step reaches_openedState ?_
    (lifecycle_close _ (List.mem_singleton.mpr rfl) false)) 0
  intro _ _ id hid
  rw [life_openedState] at hid ⊢
  rw [OrderedMap.find_emplace] at hid
  by_contra hne
  simp [hne] at hid

/-- A session that is closed with an expected reply: the create callback was
called, the close callback is not, and the session is not ready any more. -/
theorem not_callbacks_balanced :
    ¬ ∀ st, (lifecycle Config.default).Reachable st → ∀ s,
      st.log.countP (Output.creates s) =
          st.log.countP (Output.closes s) +
            (if (st.process.session s).statemachine = .sessionReady then 1 else 0) ∧
      ((st.process.session s).statemachine ≠ .sessionReady →
        0 < st.log.countP (Output.creates s) →
        ∀ id, st.process.sessions.find id ≠ some s) := by
  intro hall
  have hsize : Body.Sendable Config.default .sessionCloseReply := trivial
  have hclosing : (lifecycle Config.default).Reachable (openedState.after (closeSession 0 true)) :=
    .step reaches_openedState.reachable trivial
      (lifecycle_close _ (List.mem_singleton.mpr rfl) true)
  have hclosed : (lifecycle Config.default).Reachable
      ((openedState.after (closeSession 0 true)).after
        (processMessage Config.default 0 (bufferOfMessage ⟨65537, 1, .sessionCloseReply⟩))) :=
    .step hclosing trivial (lifecycle_receive _ (List.mem_singleton.mpr rfl) _)
  have hlife : ((openedState.after (closeSession 0 true)).after
      (processMessage Config.default 0 (bufferOfMessage ⟨65537, 1, .sessionCloseReply⟩))).life 0 =
      ((openedState.life 0).remove 0).disconnect := by
    rw [Lifecycle.life_after (simulates_processMessage _ 0 _), life_bufferOfMessage hsize,
      Lifecycle.life_after (simulates_closeSession 0 true)]
    rfl
  have hcallbacks : ∀ st, (lifecycle Config.default).Reachable st →
      (st.life 0).created = (st.life 0).closed +
        if (st.life 0).state = .sessionReady then 1 else 0 :=
    fun st hst => (hall st hst 0).1
  have hbalance := hcallbacks _ hclosed
  rw [hlife, life_openedState] at hbalance
  simp [Life.disconnect, Life.remove] at hbalance

end SakuraNetwork

import SakuraNetwork.Connection

/-!
# What the other side can see of a session

The handshake and the close messages depend on few members of a session: its state, its
id and identifier, whether its socket is open, and the counter its process draws session
ids from.  `Connection.view` forgets the rest.  Every step of a connection is one of the
steps of `Dialogue`, in which the frames are given by these members.

* `Brings`: the endpoint an operation leads to, and the messages it sends.
* `Message.replies`, `Body.after`: what a side makes of a message that is not of the
  handshake.
* `dialogue_step`: every step of a connection is a step of its dialogue.
-/

namespace SakuraNetwork

open Lib

/-- The members of a session that the other side can see. -/
@[ext] structure SessionEndpoint where
  state : SessionState
  sessionId : UInt32
  sessionIdentifier : Bytes
  isOpen : Bool
  sessionIdCounter : UInt16
deriving DecidableEq

instance : HasState SessionEndpoint where
  state := SessionEndpoint.state

/-- The endpoint of a session. -/
def Process.endpoint (p : Process) (s : SessionRef) : SessionEndpoint where
  state := (p.session s).statemachine
  sessionId := (p.session s).sessionId
  sessionIdentifier := (p.session s).sessionIdentifier
  isOpen := (p.session s).socket.any Socket.isOpen
  sessionIdCounter := p.sessionIdCounter

/-- The socket can be connected, and no send over it fails while it is open. -/
def Session.Works (x : Session) : Prop :=
  ∃ k, x.socket = some k ∧ k.initResult = true ∧ ∀ n, k.sendResults n = true

namespace Connection

/-- What is left of the processes are the endpoints. -/
def view (st : Connection Peer) : Connection SessionEndpoint where
  party := fun x =>
    { core := (st.party x).core.process.endpoint (st.party x).core.session
      handling := (st.party x).handling
      statements := (st.party x).statements
      ending := (st.party x).ending
      wasReady := (st.party x).wasReady }
  incoming := st.incoming
  log := st.log

/-- The endpoint of a side. -/
abbrev endpoint (d : Connection SessionEndpoint) (x : Side) : SessionEndpoint :=
  (d.party x).core

theorem view_perform
    (st : Connection Peer)
    (x : Side)
    (answered : Option Message)
    (process : Process)
    (statements : List Statement)
    (ending : Nat)
    (sent : List Message) :
    (st.perform x answered { (st.party x).core with process := process } statements ending
        sent).view =
      st.view.perform x answered (process.endpoint (st.party x).core.session) statements ending
        sent := by
  simp only [view, perform, Connection.mk.injEq, and_true]
  funext y
  by_cases hy : y = x
  · simp only [hy, if_true]
    rfl
  · simp only [hy, if_false]

theorem view_take
    (st : Connection Peer)
    (x : Side)
    (m : Message)
    (rest : List Message) :
    (st.take x m rest).view = st.view.take x m rest := by
  simp only [view, take, Connection.mk.injEq, and_true]
  funext y
  by_cases hy : y = x
  · simp only [hy, if_true]
  · simp only [hy, if_false]

@[simp] theorem sentOver_nil (s : SessionRef) : sentOver s [] = [] := rfl

@[simp] theorem sentOver_append (s : SessionRef) (outs outs' : List Output) :
    sentOver s (outs ++ outs') = sentOver s outs ++ sentOver s outs' := by
  simp [sentOver]

@[simp] theorem sentOver_sent (s : SessionRef) (m : Message) :
    sentOver s [.sent s m] = [m] := by
  simp [sentOver, framesSent, Output.frame]

theorem sentOver_of_silent
    {outs : List Output}
    (h : framesSent outs = [])
    (s : SessionRef) :
    sentOver s outs = [] := by
  rw [sentOver, h]
  rfl

/-- A message that was handed to the socket is among the outputs. -/
theorem mem_sentOver
    {s : SessionRef}
    {outs : List Output}
    {m : Message}
    (h : m ∈ sentOver s outs) :
    .sent s m ∈ outs := by
  obtain ⟨⟨r, m'⟩, hf, hsame⟩ := List.mem_filterMap.mp h
  obtain ⟨o, ho, hframe⟩ := List.mem_filterMap.mp hf
  simp only [Option.ite_none_right_eq_some, Option.some.injEq] at hsame
  obtain ⟨rfl, rfl⟩ := hsame
  cases o with
  | sent r' m'' =>
      simp only [Output.frame, Option.some.injEq, Prod.mk.injEq] at hframe
      obtain ⟨rfl, rfl⟩ := hframe
      exact ho
  | _ => cases hframe

end Connection

/-! ## Operations that keep the endpoint -/

theorem SendFrame.endpoint
    {s : SessionRef}
    {p p' : Process}
    (h : SendFrame s p p') :
    p'.endpoint s = p.endpoint s := by
  obtain ⟨k, c, hself⟩ := h.self
  ext : 1
  · simp [Process.endpoint, hself]
  · simp [Process.endpoint, hself]
  · simp [Process.endpoint, hself]
  · exact h.any_isOpen
  · exact h.sessionIdCounter

theorem SendFrame.works
    {s : SessionRef}
    {p p' : Process}
    (h : SendFrame s p p')
    (hworks : (p.session s).Works) :
    (p'.session s).Works := by
  obtain ⟨k, hsocket, hinit, hresults⟩ := hworks
  have hinit' := h.initResult
  have hresults' := h.sendResults
  rw [hsocket] at hinit' hresults'
  cases hsocket' : (p'.session s).socket with
  | none =>
      rw [hsocket'] at hinit'
      cases hinit'
  | some k' =>
      rw [hsocket', Option.map_some, Option.map_some, Option.some.injEq] at hinit' hresults'
      exact ⟨k', hsocket', hinit'.trans hinit, fun n => by rw [hresults']; exact hresults n⟩

/-- The endpoint of the session stays as it is, and its socket keeps working. -/
def stays (s : SessionRef) : Effect where
  rel := fun p _ p' =>
    p'.endpoint s = p.endpoint s ∧ ((p.session s).Works → (p'.session s).Works)
  refl := fun _ => ⟨rfl, id⟩
  trans := fun h h' => ⟨h'.1.trans h.1, fun hworks => h'.2 (h.2 hworks)⟩

/-- Members the other side does not see are assigned to. -/
theorem stays_members
    {s : SessionRef}
    {p : Process}
    {outs : List Output}
    {f : Session → Session}
    (hstate : (f (p.session s)).statemachine = (p.session s).statemachine)
    (hid : (f (p.session s)).sessionId = (p.session s).sessionId)
    (hidentifier : (f (p.session s)).sessionIdentifier = (p.session s).sessionIdentifier)
    (hsocket : (f (p.session s)).socket = (p.session s).socket) :
    (stays s).rel p outs (p.modifySession s f) := by
  constructor
  · simp only [Process.endpoint, Process.modifySession_same, hstate, hid, hidentifier, hsocket,
      Process.modifySession_sessionIdCounter]
  · simp only [Session.Works, Process.modifySession_same, hsocket]
    exact id

theorem stays_data (s : SessionRef) :
    AdmitsData (stays s) s True (fun _ => True) := by
  constructor
  · intro p p' outs hframe _
    exact ⟨hframe.endpoint, hframe.works⟩
  · intro _ p l
    exact ⟨rfl, id⟩
  · intro _ p f
    exact stays_members rfl rfl rfl rfl
  · intro p
    exact stays_members rfl rfl rfl rfl
  · intro p data _
    exact ⟨rfl, id⟩
  · intro p id data _
    exact ⟨rfl, fun h => h⟩
  · intro p code text _
    exact ⟨rfl, id⟩
  · intro p id data _
    exact ⟨rfl, fun h => h⟩

/-- The timers and a woken thread work on the tables. -/
theorem stays_timers (s : SessionRef) : AdmitsTimers (stays s) := by
  constructor
  · intro p l
    exact ⟨rfl, id⟩
  · intro p l
    exact ⟨rfl, id⟩
  · intro p r
    by_cases hr : r = s
    · subst hr
      exact stays_members rfl rfl rfl rfl
    · have hother : (p.setInitState r (-1)).session s = p.session s := by
        exact p.modifySession_other _ (Ne.symm hr)
      constructor
      · simp only [Process.endpoint, hother]
        simp [Process.setInitState]
      · rw [hother]
        exact id
  · intro p r code text
    exact ⟨rfl, id⟩
  · intro p blockerId
    exact ⟨rfl, id⟩

theorem silent_timers : AdmitsTimers silent := by
  constructor
  · exact fun _ _ => rfl
  · exact fun _ _ => rfl
  · exact fun _ _ => rfl
  · exact fun _ _ _ _ => rfl
  · exact fun _ _ => rfl

/-! ## What an operation brings about -/

/-- Where the socket of the session works, the operation leads to an endpoint and hands
messages to the socket, which keeps working. -/
structure Brings
    {α : Type}
    (s : SessionRef)
    (p : Process)
    (x : Act α)
    (next : SessionEndpoint)
    (sent : List Message) : Prop where
  endpoint : (x.run p).process.endpoint s = next
  sent : Connection.sentOver s (x.run p).outputs = sent
  works : ((x.run p).process.session s).Works

namespace Brings

variable {α β : Type} {s : SessionRef} {p : Process}

theorem pure
    (hworks : (p.session s).Works)
    (a : α) :
    Brings s p (pure a : Act α) (p.endpoint s) [] :=
  ⟨rfl, rfl, hworks⟩

theorem bind
    {x : Act α}
    {f : α → Act β}
    {e e' : SessionEndpoint}
    {sent sent' : List Message}
    (hx : Brings s p x e sent)
    (hf : Brings s (x.run p).process (f (x.run p).value) e' sent') :
    Brings s p (x >>= f) e' (sent ++ sent') := by
  constructor
  · exact hf.endpoint
  · rw [Act.run_bind, Connection.sentOver_append, hx.sent, hf.sent]
  · exact hf.works

/-- The value is not used. -/
theorem discard
    {x : Act α}
    {e : SessionEndpoint}
    {sent : List Message}
    (hx : Brings s p x e sent) :
    Brings s p (do let _ ← x : Act Unit) e sent := by
  constructor
  · exact hx.endpoint
  · rw [Act.run_bind, Connection.sentOver_append, hx.sent]
    exact List.append_nil _
  · exact hx.works

/-- An operation that does the same. -/
theorem congr
    {x : Act α}
    {y : Act β}
    {e : SessionEndpoint}
    {sent : List Message}
    (hx : Brings s p x e sent)
    (hprocess : (y.run p).process = (x.run p).process)
    (houtputs : (y.run p).outputs = (x.run p).outputs) :
    Brings s p y e sent := by
  constructor
  · rw [hprocess]
    exact hx.endpoint
  · rw [houtputs]
    exact hx.sent
  · rw [hprocess]
    exact hx.works

/-- The endpoint stays as it is, and nothing is sent. -/
theorem of_stays
    {x : Act α}
    (hstays : x.Within (stays s))
    (hsilent : x.Within silent)
    (hworks : (p.session s).Works) :
    Brings s p x (p.endpoint s) [] :=
  ⟨(hstays p).1, Connection.sentOver_of_silent (hsilent p) s, (hstays p).2 hworks⟩

/-- Members of the session are assigned to. -/
theorem modifySession
    {f : Session → Session}
    {e : SessionEndpoint}
    (hworks : (p.session s).Works)
    (hsocket : (f (p.session s)).socket = (p.session s).socket)
    (hnext : (p.modifySession s f).endpoint s = e) :
    Brings s p (modifySession s f) e [] := by
  refine ⟨hnext, rfl, ?_⟩
  rw [run_modifySession, Process.modifySession_same, Session.Works, hsocket]
  exact hworks

/-- Nothing is sent, whether the socket is open or not. -/
theorem none
    {x : Act α}
    {e : SessionEndpoint}
    (hx : Brings s p x e [])
    (c : Prop)
    [Decidable c] :
    Brings s p x e (if c then [] else []) := by
  split
  · exact hx
  · exact hx

/-- A message is sent if the socket is open. -/
theorem sendMessage
    (hworks : (p.session s).Works)
    (m : Message) :
    Brings s p (sendMessage s m) (p.endpoint s) (if (p.endpoint s).isOpen then [m] else []) := by
  have hframe := OnlySends.frame_sendMessage (s := s) m p
  refine ⟨hframe.endpoint, ?_, hframe.works hworks⟩
  obtain ⟨k, hsocket, _, hresults⟩ := hworks
  have hopen : (p.endpoint s).isOpen = k.isOpen := by
    simp [Process.endpoint, hsocket]
  rw [run_sendMessage, hsocket, hopen]
  cases hk : k.isOpen with
  | true =>
      have hsend : k.sendSucceeds = true := by
        simp [Socket.sendSucceeds, hk, hresults]
      simp [hsend]
  | false =>
      have hsend : k.sendSucceeds = false := by
        simp [Socket.sendSucceeds, hk]
      simp [hsend]

theorem sendReply
    (hworks : (p.session s).Works)
    (messageId : UInt32)
    (body : Body) :
    Brings s p (sendReply s messageId body) (p.endpoint s)
      (if (p.endpoint s).isOpen then [⟨(p.endpoint s).sessionId, messageId, body⟩] else []) := by
  have hsend := sendMessage hworks ⟨(p.session s).sessionId, messageId, body⟩
  exact ⟨hsend.endpoint, hsend.sent, hsend.works⟩

theorem sendNew
    (hworks : (p.session s).Works)
    (body : Body) :
    ∃ messageId, Brings s p (sendNew s body) (p.endpoint s)
      (if (p.endpoint s).isOpen then [⟨(p.endpoint s).sessionId, messageId, body⟩] else []) := by
  have hcount : (stays s).rel p [] (p.modifySession s
      (fun x => { x with messageIdCounter := x.messageIdCounter + 1 })) :=
    stays_members rfl rfl rfl rfl
  have hsend := sendMessage (hcount.2 hworks) (p.nextMessage s body)
  rw [hcount.1] at hsend
  refine ⟨(p.session s).messageIdCounter + 1, ?_⟩
  constructor
  · rw [run_sendNew]
    exact hsend.endpoint
  · rw [run_sendNew]
    exact hsend.sent
  · rw [run_sendNew]
    exact hsend.works

end Brings

/-! ## Closing -/

namespace SessionEndpoint

/-- `disconnectSession`. -/
def disconnect (e : SessionEndpoint) : SessionEndpoint :=
  if e.state = .notConnected then e else { e with state := .notConnected, isOpen := false }

/-- `endSession`. -/
def stop (e : SessionEndpoint) : SessionEndpoint :=
  if e.state = .sessionReady then e.disconnect else e

@[simp] theorem disconnect_sessionId (e : SessionEndpoint) :
    e.disconnect.sessionId = e.sessionId := by
  unfold disconnect
  split <;> rfl

@[simp] theorem disconnect_sessionIdentifier (e : SessionEndpoint) :
    e.disconnect.sessionIdentifier = e.sessionIdentifier := by
  unfold disconnect
  split <;> rfl

@[simp] theorem disconnect_sessionIdCounter (e : SessionEndpoint) :
    e.disconnect.sessionIdCounter = e.sessionIdCounter := by
  unfold disconnect
  split <;> rfl

@[simp] theorem disconnect_state (e : SessionEndpoint) : e.disconnect.state = .notConnected := by
  unfold disconnect
  split
  · assumption
  · rfl

@[simp] theorem stop_sessionId (e : SessionEndpoint) : e.stop.sessionId = e.sessionId := by
  unfold stop
  split <;> simp

@[simp] theorem stop_sessionIdentifier (e : SessionEndpoint) :
    e.stop.sessionIdentifier = e.sessionIdentifier := by
  unfold stop
  split <;> simp

@[simp] theorem stop_sessionIdCounter (e : SessionEndpoint) :
    e.stop.sessionIdCounter = e.sessionIdCounter := by
  unfold stop
  split <;> simp

end SessionEndpoint

theorem brings_disconnectSession
    {s : SessionRef}
    {p : Process}
    (hworks : (p.session s).Works) :
    Brings s p (disconnectSession s) (p.endpoint s).disconnect [] := by
  have hstate : (p.endpoint s).state = (p.session s).statemachine := rfl
  constructor
  · rw [disconnectSession_process, SessionEndpoint.disconnect, hstate]
    split
    · rfl
    · simp only [Process.endpoint, Process.goTo, Process.closeSocket,
        Process.modifySession_modifySession, Process.modifySession_same,
        Process.modifySession_sessionIdCounter, SessionEndpoint.mk.injEq, true_and, and_true]
      cases (p.session s).socket <;> rfl
  · rw [disconnectSession_outputs]
    rfl
  · rw [disconnectSession_process]
    split
    · exact hworks
    · obtain ⟨k, hsocket, hinit, hresults⟩ := hworks
      refine ⟨{ k with isOpen := false }, ?_, hinit, hresults⟩
      simp [Process.goTo, Process.closeSocket, hsocket]

theorem brings_endSession
    {s : SessionRef}
    {p : Process}
    (hworks : (p.session s).Works) :
    Brings s p (endSession s) (p.endpoint s).stop [] := by
  have hstate : (p.endpoint s).state = (p.session s).statemachine := rfl
  have hdisconnect := brings_disconnectSession hworks
  constructor
  · rw [endSession_process, SessionEndpoint.stop, hstate]
    split
    · rename_i hready
      have hne : (p.session s).statemachine ≠ .notConnected := by
        rw [hready]
        exact SessionState.noConfusion
      rw [← hdisconnect.endpoint, disconnectSession_process, if_neg hne]
      rfl
    · rfl
  · rw [endSession_outputs]
    split <;> rfl
  · rw [endSession_process]
    split
    · rename_i hready
      have hne : (p.session s).statemachine ≠ .notConnected := by
        rw [hready]
        exact SessionState.noConfusion
      have hafter := hdisconnect.works
      rw [disconnectSession_process, if_neg hne] at hafter
      exact hafter
    · exact hworks

/-- A ready session sends a close start message; another does nothing. -/
theorem brings_beginClose
    {s : SessionRef}
    {p : Process}
    (hworks : (p.session s).Works)
    (replyExpected : Bool) :
    ∃ messageId, Brings s p (beginClose s replyExpected) (p.endpoint s)
        (if (p.endpoint s).state = .sessionReady ∧ (p.endpoint s).isOpen = true then
          [⟨(p.endpoint s).sessionId, messageId, .sessionCloseStart replyExpected⟩]
        else []) ∧
      ((beginClose s replyExpected).run p).value =
        decide ((p.endpoint s).state = .sessionReady) := by
  have hstate : (p.endpoint s).state = (p.session s).statemachine := rfl
  by_cases hready : (p.session s).statemachine = .sessionReady
  · -- the pending replies are marked, the buffers are given up, and the message is sent
    have hmarked : Brings s p (ReplyHandler.removeAllOfSession (p.session s).sessionId)
        (p.endpoint s) [] := ⟨rfl, rfl, hworks⟩
    have hbuffers : Brings s
        ((ReplyHandler.removeAllOfSession (p.session s).sessionId).run p).process
        (MultiblockIo.removeMultiblockBuffer s 0) (p.endpoint s) [] :=
      Brings.of_stays (within_removeMultiblockBuffer (stays_data s) trivial 0)
        (fun q => by rw [MultiblockIo.run_removeMultiblockBuffer]; rfl) hmarked.works
    obtain ⟨messageId, hsend⟩ := Brings.sendNew hbuffers.works (.sessionCloseStart replyExpected)
    rw [hbuffers.endpoint] at hsend
    have hpure := Brings.pure hsend.works true
    rw [hsend.endpoint] at hpure
    have hlast := Brings.bind (f := fun _ => (pure true : Act Bool)) hsend hpure
    have hmiddle := Brings.bind (f := fun _ => sendNew s (.sessionCloseStart replyExpected) >>=
      fun _ => pure true) hbuffers hlast
    have hall := Brings.bind (f := fun _ => MultiblockIo.removeMultiblockBuffer s 0 >>=
      fun _ => sendNew s (.sessionCloseStart replyExpected) >>= fun _ => pure true)
        hmarked hmiddle
    refine ⟨messageId, ?_, ?_⟩
    · have hsent : (if (p.endpoint s).state = .sessionReady ∧ (p.endpoint s).isOpen = true then
            [Message.mk (p.endpoint s).sessionId messageId (.sessionCloseStart replyExpected)]
          else []) = [] ++ ([] ++ ((if (p.endpoint s).isOpen then
            [Message.mk (p.endpoint s).sessionId messageId (.sessionCloseStart replyExpected)]
          else []) ++ [])) := by
        simp [hstate, hready]
      have hrun : (beginClose s replyExpected).run p =
          (ReplyHandler.removeAllOfSession (p.session s).sessionId >>= fun _ =>
            MultiblockIo.removeMultiblockBuffer s 0 >>= fun _ =>
              sendNew s (.sessionCloseStart replyExpected) >>= fun _ => pure true).run p := by
        rw [beginClose, run_getSession_bind, SessionState.isInState_sessionReady, hready]
        rfl
      rw [hsent]
      exact hall.congr (by rw [hrun]) (by rw [hrun])
    · rw [beginClose, run_getSession_bind, SessionState.isInState_sessionReady, hready, hstate,
        hready]
      rfl
  · refine ⟨0, ⟨?_, ?_, ?_⟩, ?_⟩
    all_goals simp [beginClose, hready, hstate, hworks]

/-! ## The start of the client -/

/-- The endpoint of a session that was connected under an id. -/
def SessionEndpoint.connect (e : SessionEndpoint) (sessionId : UInt32) : SessionEndpoint :=
  { e with state := .sessionNotReady, sessionId := sessionId, isOpen := true }

theorem brings_connectiSession
    {s : SessionRef}
    {p : Process}
    (hworks : (p.session s).Works)
    (sessionId : UInt32) :
    Brings s p (connectiSession s sessionId)
      (if (p.endpoint s).state = .notConnected then (p.endpoint s).connect sessionId
        else p.endpoint s) [] := by
  have hstate : (p.endpoint s).state = (p.session s).statemachine := rfl
  have hworks' := hworks
  obtain ⟨k, hsocket, hinit, hresults⟩ := hworks
  have hconnectable : (p.session s).connectable =
      decide ((p.session s).statemachine = .notConnected) := by
    simp [Session.connectable, hsocket, hinit]
  have hnone : ¬ ((p.session s).statemachine = .notConnected ∧ (p.session s).socket = none) := by
    simp [hsocket]
  have hkeeps : (stays s).rel p [] (p.setInitState s (-1)) := stays_members rfl rfl rfl rfl
  by_cases hfirst : (p.session s).statemachine = .notConnected
  · rw [hstate, if_pos hfirst]
    constructor
    · rw [connectiSession_process, hconnectable, if_pos (by simpa using hfirst)]
      simp [Process.endpoint, Process.connected, SessionEndpoint.connect, hsocket]
    · rw [connectiSession_outputs]
      rfl
    · rw [connectiSession_process, hconnectable, if_pos (by simpa using hfirst)]
      exact ⟨{ k with isOpen := true }, by simp [Process.connected, hsocket], hinit, hresults⟩
  · rw [hstate, if_neg hfirst]
    constructor
    · rw [connectiSession_process, hconnectable, if_neg (by simpa using hfirst), if_neg hnone]
      exact hkeeps.1
    · rw [connectiSession_outputs]
      rfl
    · rw [connectiSession_process, hconnectable, if_neg (by simpa using hfirst), if_neg hnone]
      exact hkeeps.2 hworks'

theorem brings_addSession
    {s : SessionRef}
    {p : Process}
    (hworks : (p.session s).Works)
    (sessionId : UInt32) :
    Brings s p (SessionHandler.addSession sessionId s) (p.endpoint s) [] := by
  have hmembers : (stays s).rel p [] (p.modifySession s
      (fun x => { x with handlerCallbacks := true })) := stays_members rfl rfl rfl rfl
  constructor
  · rw [SessionHandler.run_addSession, ← hmembers.1]
    rfl
  · rfl
  · rw [SessionHandler.run_addSession]
    exact hmembers.2 hworks

theorem brings_sendSessionInitStart
    {s : SessionRef}
    {p : Process}
    (hworks : (p.session s).Works)
    (sessionIdentifier : Bytes) :
    ∃ messageId, Brings s p (sendSessionInitStart s sessionIdentifier) (p.endpoint s)
      (if (p.endpoint s).isOpen then
        [⟨(p.endpoint s).sessionId, messageId,
          .sessionInitStart (p.endpoint s).sessionId sessionIdentifier⟩]
      else []) := by
  obtain ⟨messageId, hsend⟩ := Brings.sendNew hworks
    (.sessionInitStart (p.session s).sessionId sessionIdentifier)
  exact ⟨messageId, hsend.congr rfl rfl⟩

/-- A new session connects under the next id of its process and sends its init start
message. -/
theorem brings_startSession
    {s : SessionRef}
    {p : Process}
    {sessionIdentifier : Bytes}
    (hworks : (p.session s).Works)
    (hfresh : (p.endpoint s).state = .notConnected)
    (hlen : sessionIdentifier.length ≤ 64000) :
    let newId := ((p.endpoint s).sessionIdCounter + 1).toUInt32
    ∃ messageId, Brings s p (startSession s sessionIdentifier)
      { (p.endpoint s).connect newId with
        sessionIdCounter := (p.endpoint s).sessionIdCounter + 1 }
      [⟨newId, messageId, .sessionInitStart newId sessionIdentifier⟩] := by
  intro newId
  have hstate : (p.endpoint s).state = (p.session s).statemachine := rfl
  have hconnectable : (p.session s).connectable = true := by
    obtain ⟨k, hsocket, hinit, _⟩ := hworks
    rw [hstate] at hfresh
    simp [Session.connectable, hsocket, hinit, hfresh]
  -- the id is drawn, and the session is connected and registered under it
  have hdrawn : Brings s p SessionHandler.increaseSessionIdCounter
      { p.endpoint s with sessionIdCounter := (p.endpoint s).sessionIdCounter + 1 } [] :=
    ⟨rfl, rfl, hworks⟩
  have hconnect := brings_connectiSession hdrawn.works newId
  rw [hdrawn.endpoint, if_pos hfresh] at hconnect
  have hadd := brings_addSession hconnect.works newId
  rw [hconnect.endpoint] at hadd
  have hsend := brings_sendSessionInitStart hadd.works sessionIdentifier
  rw [hadd.endpoint] at hsend
  obtain ⟨messageId, hsend⟩ := hsend
  have hall := hdrawn.bind (f := fun _ => connectiSession s newId >>= fun _ =>
    SessionHandler.addSession newId s >>= fun _ => sendSessionInitStart s sessionIdentifier)
      (hconnect.bind (f := fun _ => SessionHandler.addSession newId s >>= fun _ =>
        sendSessionInitStart s sessionIdentifier)
          (hadd.bind (f := fun _ => sendSessionInitStart s sessionIdentifier) hsend))
  have hlong : ¬ sessionIdentifier.length > 64000 := Nat.not_lt.mpr hlen
  have hvalue := connectiSession_value s (p.sessionIdCounter + 1).toUInt32
    { p with sessionIdCounter := p.sessionIdCounter + 1 }
  rw [hconnectable] at hvalue
  refine ⟨messageId, hall.congr ?_ ?_⟩
  · simp only [startSession, hlong, if_false, Act.run_bind,
      SessionHandler.run_increaseSessionIdCounter]
    rw [hvalue]
    rfl
  · simp only [startSession, hlong, if_false, Act.run_bind,
      SessionHandler.run_increaseSessionIdCounter]
    rw [hvalue, if_pos rfl]
    simp only [Act.run_bind, Act.run_pure, List.append_nil]
    rfl

/-! ## The statements of the handshake -/

/-- What a statement other than `handle` makes of an endpoint, and what it goes on with. -/
def Statement.after (e : SessionEndpoint) : Statement → SessionEndpoint × List Statement
  | .processSessionInitStart clientSessionId messageId sessionIdentifier =>
      let sessionId := completeSessionId clientSessionId (e.sessionIdCounter + 1)
      ({ e with sessionIdCounter := e.sessionIdCounter + 1 },
        [.addSession sessionId, .connectiSession sessionId,
          .makeSessionReady sessionId sessionIdentifier,
          .sendSessionInitReply clientSessionId messageId sessionId sessionIdentifier])
  | .connectiSession sessionId =>
      (if e.state = .notConnected then e.connect sessionId else e, [])
  | .makeSessionReady sessionId sessionIdentifier =>
      if e.state = .sessionNotReady then
        ({ e with state := .sessionReady },
          [.assignSessionId sessionId, .assignSessionIdentifier sessionIdentifier,
            .processCreateSession sessionId sessionIdentifier, .assignInitState 1])
      else (e, [.assignInitState (-1)])
  | .assignSessionId sessionId => ({ e with sessionId := sessionId }, [])
  | .assignSessionIdentifier sessionIdentifier =>
      ({ e with sessionIdentifier := sessionIdentifier }, [])
  | _ => (e, [])

/-- The messages a statement other than `handle` hands to an open socket. -/
def Statement.sends : Statement → List Message
  | .sendSessionInitReply initialSessionId messageId completeSessionId sessionIdentifier =>
      [⟨initialSessionId, messageId,
        .sessionInitReply initialSessionId completeSessionId sessionIdentifier⟩]
  | _ => []

theorem brings_makeSessionReady
    {s : SessionRef}
    {p : Process}
    (hworks : (p.session s).Works)
    (sessionId : UInt32)
    (sessionIdentifier : Bytes) :
    let st := Statement.makeSessionReady sessionId sessionIdentifier
    Brings s p (st.run s) (st.after (p.endpoint s)).1 [] ∧
      ((st.run s).run p).value = (st.after (p.endpoint s)).2 := by
  have hstate : (p.endpoint s).state = (p.session s).statemachine := rfl
  simp only [Statement.run, Statement.after, hstate]
  by_cases hfirst : (p.session s).statemachine = .sessionNotReady
  · rw [if_pos hfirst]
    refine ⟨?_, ?_⟩
    · have hgo : Brings s p (modifySession s (fun x => { x with statemachine := .sessionReady }))
          { p.endpoint s with state := .sessionReady } [] :=
        Brings.modifySession hworks rfl (by simp [Process.endpoint])
      refine hgo.congr ?_ ?_
      · rw [run_goToNextState_bind, SessionState.goToNextState_startSession, if_pos hfirst]
        rfl
      · rw [run_goToNextState_bind, SessionState.goToNextState_startSession, if_pos hfirst]
        rfl
    · rw [run_goToNextState_bind, SessionState.goToNextState_startSession, if_pos hfirst]
      rfl
  · rw [if_neg hfirst]
    refine ⟨?_, ?_⟩
    · refine (Brings.pure hworks ()).congr ?_ ?_
      · rw [run_goToNextState_bind, SessionState.goToNextState_startSession, if_neg hfirst]
        rfl
      · rw [run_goToNextState_bind, SessionState.goToNextState_startSession, if_neg hfirst]
        rfl
    · rw [run_goToNextState_bind, SessionState.goToNextState_startSession, if_neg hfirst]
      rfl

theorem brings_statement
    {s : SessionRef}
    {p : Process}
    (hworks : (p.session s).Works)
    {st : Statement}
    (h : ∀ m, st ≠ .handle m) :
    Brings s p (st.run s) (st.after (p.endpoint s)).1
        (if (p.endpoint s).isOpen then st.sends else []) ∧
      ((st.run s).run p).value = (st.after (p.endpoint s)).2 := by
  cases st with
  | handle m => exact absurd rfl (h m)
  | removeMessage sessionId messageId =>
      have hremove : Brings s p (ReplyHandler.removeMessage sessionId messageId)
          (p.endpoint s) [] :=
        Brings.of_stays (within_removeMessage (stays_data s) trivial sessionId messageId)
          (fun q => by rw [ReplyHandler.removeMessage_outputs]; rfl) hworks
      refine ⟨Brings.none ?_ _, rfl⟩
      exact hremove.congr rfl (List.append_nil _)
  | processSessionInitStart clientSessionId messageId sessionIdentifier =>
      exact ⟨Brings.none ⟨rfl, rfl, hworks⟩ _, rfl⟩
  | addSession sessionId =>
      refine ⟨Brings.none ?_ _, rfl⟩
      exact (brings_addSession hworks sessionId).congr rfl rfl
  | removeSession sessionId =>
      exact ⟨Brings.none ⟨rfl, rfl, hworks⟩ _, rfl⟩
  | connectiSession sessionId =>
      refine ⟨Brings.none ?_ _, rfl⟩
      exact (brings_connectiSession hworks sessionId).congr rfl (List.append_nil _)
  | makeSessionReady sessionId sessionIdentifier =>
      obtain ⟨hready, hvalue⟩ := brings_makeSessionReady hworks sessionId sessionIdentifier
      exact ⟨hready.none _, hvalue⟩
  | assignSessionId sessionId =>
      have hassign : Brings s p (modifySession s (fun x => { x with sessionId := sessionId }))
          { p.endpoint s with sessionId := sessionId } [] :=
        Brings.modifySession hworks rfl (by simp [Process.endpoint])
      refine ⟨Brings.none ?_ _, rfl⟩
      exact hassign.congr rfl rfl
  | assignSessionIdentifier sessionIdentifier =>
      have hassign : Brings s p
          (modifySession s (fun x => { x with sessionIdentifier := sessionIdentifier }))
          { p.endpoint s with sessionIdentifier := sessionIdentifier } [] :=
        Brings.modifySession hworks rfl (by simp [Process.endpoint])
      refine ⟨Brings.none ?_ _, rfl⟩
      exact hassign.congr rfl rfl
  | processCreateSession sessionId sessionIdentifier =>
      exact ⟨Brings.none ⟨rfl, rfl, hworks⟩ _, rfl⟩
  | assignInitState initState =>
      have hassign : Brings s p (modifySession s (fun x => { x with initState := initState }))
          (p.endpoint s) [] :=
        Brings.modifySession hworks rfl (by simp [Process.endpoint])
      refine ⟨Brings.none ?_ _, rfl⟩
      exact hassign.congr rfl rfl
  | sendSessionInitReply initialSessionId messageId completeSessionId sessionIdentifier =>
      refine ⟨?_, rfl⟩
      exact (Brings.sendMessage hworks _).congr rfl (List.append_nil _)

/-! ## The other messages -/

/-- The reply to a message that is not of the handshake. -/
def Body.reply : Body → Option Body
  | .sessionCloseStart _ => some .sessionCloseReply
  | .heartbeatStart => some .heartbeatReply
  | .stream replyExpected _ => if replyExpected then some .streamReply else none
  | .singleBlock .. => some .singleBlockReply
  | _ => none

/-- The endpoint after a message that is not of the handshake. -/
def Body.after (e : SessionEndpoint) : Body → SessionEndpoint
  | .sessionCloseStart _ => e.stop
  | .sessionCloseReply => e.disconnect
  | _ => e

@[simp] theorem Body.after_sessionId (b : Body) (e : SessionEndpoint) :
    (b.after e).sessionId = e.sessionId := by
  cases b with
  | sessionCloseStart replyExpected => exact e.stop_sessionId
  | sessionCloseReply => exact e.disconnect_sessionId
  | _ => rfl

/-- What an endpoint replies over an open socket: under its own id, and with the message
id it got. -/
def Message.replies (m : Message) (e : SessionEndpoint) : List Message :=
  m.body.reply.toList.map (fun body => ⟨e.sessionId, m.messageId, body⟩)

/-- The handlers of data and errors keep the endpoint. -/
theorem stays_unanswered
    {b : Body}
    (hplain : b.Plain)
    (hclose : b ≠ .sessionCloseReply)
    (hanswered : b.answered = false)
    (s : SessionRef)
    (messageId : UInt32) :
    (b.handle s messageId).Within (stays s) := by
  have hD := stays_data s
  cases b with
  | sessionInitReply => cases hplain
  | sessionCloseReply => exact absurd rfl hclose
  | heartbeatReply => exact Act.Within.pure ()
  | streamReply => exact Act.Within.pure ()
  | singleBlockReply => exact Act.Within.pure ()
  | error subType message =>
      exact Act.Within.bind (fun p => hD.initState p) fun _ p => hD.error p _ _ trivial
  | stream replyExpected data =>
      have hexpected : replyExpected = false := hanswered
      subst hexpected
      exact Act.Within.bind (fun p => hD.stream p data trivial) fun _ => Act.Within.pure ()
  | multiStatic totalSize multiblockId totalPartNumber partId data blockerId =>
      have hwrite : (do
          let _ ← MultiblockIo.writeIntoIncomingBuffer s multiblockId (pure data) :
            Act Unit).Within (stays s) := by
        refine Act.Within.bind (fun p => ?_) fun _ => Act.Within.pure ()
        rw [MultiblockIo.writeIntoIncomingBuffer_pure_process]
        exact stays_members rfl rfl rfl rfl
      refine Act.Within.ite (fun _ => Act.Within.bind ?_ fun _ => hwrite) fun _ => hwrite
      exact within_createIncomingBuffer hD trivial multiblockId totalSize
  | multiFinish multiblockId blockerId =>
      have hremove : (do
          let _ ← MultiblockIo.removeMultiblockBuffer s multiblockId : Act Unit).Within
            (stays s) :=
        (within_removeMultiblockBuffer hD trivial multiblockId).bind fun _ => Act.Within.pure ()
      refine (within_getIncomingBuffer multiblockId).bind fun _ => ?_
      refine Act.Within.ite (fun _ => ?_) fun _ => ?_
      · exact (within_releaseMessage hD trivial _).bind fun _ => hremove
      · exact Act.Within.bind (fun p => hD.request p _ _ trivial) fun _ => hremove
  | _ => cases hanswered

theorem Body.reply_of_unanswered {b : Body} (h : b.answered = false) : b.reply = none := by
  cases b with
  | stream replyExpected data =>
      have hexpected : replyExpected = false := h
      subst hexpected
      rfl
  | sessionInitStart => rfl
  | sessionInitReply => rfl
  | sessionCloseStart => cases h
  | heartbeatStart => cases h
  | singleBlock => cases h
  | _ => rfl

theorem Body.after_of_unanswered
    {b : Body}
    (h : b.answered = false)
    (hclose : b ≠ .sessionCloseReply)
    (e : SessionEndpoint) :
    b.after e = e := by
  cases b with
  | sessionCloseStart => cases h
  | sessionCloseReply => exact absurd rfl hclose
  | _ => rfl

/-- What is done before the reply neither changes the endpoint nor sends. -/
theorem Brings.then_reply
    {α : Type}
    {s : SessionRef}
    {p : Process}
    {x : Act α}
    {body : Body}
    {messageId : UInt32}
    (hworks : (p.session s).Works)
    (hstays : x.Within (stays s))
    (hsilent : x.Within silent) :
    Brings s p (do
        let _ ← x
        let _ ← SakuraNetwork.sendReply s messageId body : Act Unit) (p.endpoint s)
      (if (p.endpoint s).isOpen then [⟨(p.endpoint s).sessionId, messageId, body⟩] else []) := by
  have hx := Brings.of_stays hstays hsilent hworks
  have hreply := (Brings.sendReply hx.works messageId body).discard
  rw [hx.endpoint] at hreply
  exact hx.bind (f := fun _ => do
    let _ ← SakuraNetwork.sendReply s messageId body) hreply

theorem brings_closeStart
    {s : SessionRef}
    {p : Process}
    (hworks : (p.session s).Works)
    (replyExpected : Bool)
    (messageId : UInt32) :
    Brings s p ((Body.sessionCloseStart replyExpected).handle s messageId) (p.endpoint s).stop
      (if (p.endpoint s).isOpen then
        [⟨(p.endpoint s).sessionId, messageId, .sessionCloseReply⟩]
      else []) := by
  have hreply := Brings.sendReply hworks messageId .sessionCloseReply
  have hremove : Brings s ((sendReply s messageId .sessionCloseReply).run p).process
      (SessionHandler.removeSession 0) (p.endpoint s) [] :=
    ⟨hreply.endpoint, rfl, hreply.works⟩
  have hend := brings_endSession hremove.works
  rw [hremove.endpoint] at hend
  have hlast := hremove.bind (f := fun _ => do
    let _ ← endSession s) hend.discard
  have hall := hreply.bind (f := fun _ => do
    let _ ← SessionHandler.removeSession 0
    let _ ← endSession s) hlast
  rw [List.append_nil, List.append_nil] at hall
  exact hall

/-- A message that is not of the handshake is replied to over an open socket, and a close
message changes the state. -/
theorem brings_body
    {s : SessionRef}
    {p : Process}
    (hworks : (p.session s).Works)
    {b : Body}
    (hplain : b.Plain)
    (messageId : UInt32) :
    Brings s p (b.handle s messageId) (b.after (p.endpoint s))
      (if (p.endpoint s).isOpen then
        b.reply.toList.map (fun body => ⟨(p.endpoint s).sessionId, messageId, body⟩)
      else []) := by
  by_cases hclose : b = .sessionCloseReply
  · subst hclose
    refine Brings.none ?_ _
    have hremove : Brings s p (SessionHandler.removeSession 0) (p.endpoint s) [] :=
      ⟨rfl, rfl, hworks⟩
    have hdisconnect := brings_disconnectSession hremove.works
    rw [hremove.endpoint] at hdisconnect
    exact hremove.bind (f := fun _ => do
      let _ ← disconnectSession s) hdisconnect.discard
  · cases hanswered : b.answered with
    | false =>
        rw [Body.reply_of_unanswered hanswered, Body.after_of_unanswered hanswered hclose]
        exact (Brings.of_stays (stays_unanswered hplain hclose hanswered s messageId)
          (silent_handle hanswered s messageId) hworks).none _
    | true =>
        have hD := stays_data s
        cases b with
        | sessionInitStart => cases hplain
        | sessionCloseStart replyExpected =>
            exact brings_closeStart hworks replyExpected messageId
        | heartbeatStart =>
            exact (Brings.sendReply hworks messageId .heartbeatReply).discard
        | stream replyExpected data =>
            have hexpected : replyExpected = true := hanswered
            subst hexpected
            exact Brings.then_reply hworks (fun q => hD.stream q data trivial) fun _ => rfl
        | singleBlock multiblockId blockerId data =>
            by_cases hresponse : (blockerId != 0) = true
            · have hbody : (Body.singleBlock multiblockId blockerId data).handle s messageId = (do
                  let _ ← MessageBlockerHandler.releaseMessage blockerId (some data)
                  let _ ← sendDataSingleBlockReply s messageId : Act Unit) := by
                simp [Body.handle, hresponse]
              rw [hbody]
              exact Brings.then_reply hworks (within_releaseMessage hD trivial _)
                (silent_releaseMessage _ _)
            · have hbody : (Body.singleBlock multiblockId blockerId data).handle s messageId = (do
                  Act.emit (.processRequestData s multiblockId (some data))
                  let _ ← sendDataSingleBlockReply s messageId : Act Unit) := by
                simp [Body.handle, hresponse]
              rw [hbody]
              exact Brings.then_reply hworks (fun q => hD.request q _ _ trivial) fun _ => rfl
        | _ => cases hanswered

/-- A reply removes its pending entry first. -/
theorem brings_handle
    {s : SessionRef}
    {p : Process}
    (hworks : (p.session s).Works)
    {m : Message}
    (hplain : m.body.Plain) :
    Brings s p (m.handle s) (m.body.after (p.endpoint s))
      (if (p.endpoint s).isOpen then m.replies (p.endpoint s) else []) := by
  by_cases hreply : m.isReply = true
  · have hremove : Brings s p (do
        let _ ← ReplyHandler.removeMessage m.sessionId m.messageId : Act Unit)
          (p.endpoint s) [] :=
      (Brings.of_stays (within_removeMessage (stays_data s) trivial m.sessionId m.messageId)
        (fun q => by rw [ReplyHandler.removeMessage_outputs]; rfl) hworks).discard
    have hbody := brings_body hremove.works hplain m.messageId
    rw [hremove.endpoint] at hbody
    have hall := hremove.bind (f := fun _ => m.body.handle s m.messageId) hbody
    refine hall.congr ?_ ?_
    · rw [Message.handle, hreply]
      rfl
    · rw [Message.handle, hreply]
      simp
  · rw [Message.handle_of_not_reply (by simpa using hreply)]
    exact brings_body hworks hplain m.messageId

/-! ## Calls -/

/-- What a call sends requires a reply. -/
def Call.flagged (cfg : Config) : Call → Prop
  | .stream _ replyExpected => replyExpected = true
  | .normalMessage data | .request data _ => data.length ≤ cfg.maxSingleMessageSize
  | .response data _ => data.length < cfg.maxSingleMessageSize
  | .heartbeat => True
  | .wake _ | .replyTimer | .blockerTimer => False

/-- The messages a call may send: under the id of the session, over an open socket, and
only where the session is ready. -/
structure Call.Speaks
    (cfg : Config)
    (c : Call)
    (e : SessionEndpoint)
    (sent : List Message) : Prop where
  sessionId : ∀ m ∈ sent, m.sessionId = e.sessionId
  spoken : ∀ m ∈ sent, m.body.Spoken cfg (c.flagged cfg)
  ready : sent ≠ [] → e.state = .sessionReady ∧ e.isOpen = true

theorem Call.Speaks.nothing
    {cfg : Config}
    {c : Call}
    {e : SessionEndpoint} :
    c.Speaks cfg e [] := by
  constructor
  · exact fun m hm => absurd hm List.not_mem_nil
  · exact fun m hm => absurd hm List.not_mem_nil
  · exact fun h => absurd rfl h

theorem speaks_of_onlySends
    {α : Type}
    {cfg : Config}
    {c : Call}
    {s : SessionRef}
    {p : Process}
    {x : Act α}
    (hworks : (p.session s).Works)
    (hx : OnlySends s (Body.Spoken cfg (c.flagged cfg)) x)
    (hready : (p.session s).statemachine ≠ .sessionReady → (x.run p).outputs = []) :
    Brings s p x (p.endpoint s) (Connection.sentOver s (x.run p).outputs) ∧
      c.Speaks cfg (p.endpoint s) (Connection.sentOver s (x.run p).outputs) := by
  refine ⟨⟨(hx.frame p).endpoint, rfl, (hx.frame p).works hworks⟩, ?_⟩
  have hsent : ∀ m ∈ Connection.sentOver s (x.run p).outputs,
      m.sessionId = (p.endpoint s).sessionId ∧ m.body.Spoken cfg (c.flagged cfg) := by
    intro m hm
    obtain ⟨m', hsame, hspoken, hunder⟩ := hx.outputs p _ (Connection.mem_sentOver hm)
    simp only [Output.sent.injEq, true_and] at hsame
    subst hsame
    refine ⟨?_, hspoken⟩
    rcases hunder with hid | ⟨_, _, _, hbody⟩
    · exact hid
    · rw [hbody] at hspoken
      exact absurd rfl hspoken.type
  constructor
  · exact fun m hm => (hsent m hm).1
  · exact fun m hm => (hsent m hm).2
  · intro hne
    refine ⟨?_, ?_⟩
    · by_contra hstate
      exact hne (by rw [hready hstate]; rfl)
    · by_contra hopen
      exact hne (by rw [hx.closed p (by simpa [Process.endpoint] using hopen)]; rfl)

/-- A call that throws its value away. -/
theorem speaks_discard
    {α : Type}
    {cfg : Config}
    {c : Call}
    {s : SessionRef}
    {p : Process}
    {x : Act α}
    (hworks : (p.session s).Works)
    (hx : OnlySends s (Body.Spoken cfg (c.flagged cfg)) x)
    (hready : (p.session s).statemachine ≠ .sessionReady → (x.run p).outputs = []) :
    ∃ sent, Brings s p (do let _ ← x : Act Unit) (p.endpoint s) sent ∧
      c.Speaks cfg (p.endpoint s) sent := by
  obtain ⟨hbrings, hspeaks⟩ := speaks_of_onlySends hworks hx hready
  exact ⟨_, hbrings.discard, hspeaks⟩

theorem brings_call
    (cfg : Config)
    {s : SessionRef}
    {p : Process}
    (hworks : (p.session s).Works)
    (c : Call) :
    ∃ sent, Brings s p ((c.operation s).act cfg) (p.endpoint s) sent ∧
      c.Speaks cfg (p.endpoint s) sent := by
  cases c with
  | stream data replyExpected =>
      refine speaks_discard hworks (spoken_sendStreamData cfg s data replyExpected) fun hstate => ?_
      rw [sendStreamData]
      split
      · rfl
      · simp [hstate]
  | normalMessage data =>
      refine speaks_discard hworks (spoken_sendNormalMessage cfg s data) fun hstate => ?_
      simp [sendNormalMessage, hstate]
  | request data timeout =>
      have hnone : (p.session s).statemachine ≠ .sessionReady →
          ((sendRequestFrames cfg s data).run p).outputs = [] := by
        intro hstate
        simp [sendRequestFrames, hstate]
      obtain ⟨hframes, hspeaks⟩ := speaks_of_onlySends (c := .request data timeout) hworks
        (spoken_sendRequestFrames cfg s data) hnone
      refine ⟨_, ?_, hspeaks⟩
      -- the entry of the blocked thread concerns nobody else
      have hrest : ∀ id : UInt64, Brings s ((sendRequestFrames cfg s data).run p).process
          (if id == 0 then pure none else do
            MessageBlockerHandler.addBlocker id timeout s
            pure (some id) : Act (Option UInt64)) (p.endpoint s) [] := by
        intro id
        split
        · exact ⟨hframes.endpoint, rfl, hframes.works⟩
        · exact ⟨hframes.endpoint, rfl, hframes.works⟩
      have hall := (hframes.bind (f := fun id => if id == 0 then pure none else do
        MessageBlockerHandler.addBlocker id timeout s
        pure (some id)) (hrest _)).discard
      rw [List.append_nil] at hall
      exact hall
  | response data blockerId =>
      refine speaks_discard hworks (spoken_sendResponse cfg s data blockerId) fun hstate => ?_
      simp [sendResponse, hstate]
  | heartbeat =>
      refine speaks_discard hworks (spoken_sendHeartbeat cfg s) fun hstate => ?_
      rw [sendHeartbeat, run_getSession_bind]
      split
      · rfl
      · simp [hstate]
  | wake blockerId =>
      have hwake := Brings.of_stays (within_wake (stays_timers s) blockerId)
        (within_wake silent_timers blockerId) hworks
      exact ⟨[], hwake.discard, .nothing⟩
  | replyTimer =>
      exact ⟨[], Brings.of_stays (within_replyTimer (stays_timers s))
        (within_replyTimer silent_timers) hworks, .nothing⟩
  | blockerTimer =>
      exact ⟨[], Brings.of_stays (within_blockerTimer (stays_timers s))
        (within_blockerTimer silent_timers) hworks, .nothing⟩

end SakuraNetwork

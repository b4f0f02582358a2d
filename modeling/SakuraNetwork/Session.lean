import SakuraNetwork.Handler.MessageBlockerHandler
import SakuraNetwork.Handler.SessionHandler
import SakuraNetwork.MultiblockIo

/-!
# The operations of a session

The calls of the application and the state changes of a session.  A request is
given up to the point where its thread begins to wait; what the thread does
after it was woken is `MessageBlockerHandler.removeMessageFromList`.
-/

namespace SakuraNetwork

open Lib

/-! ## Sending data -/

/-- `Session::sendStreamData`. -/
def sendStreamData
    (cfg : Config)
    (s : SessionRef)
    (data : Bytes)
    (replyExpected : Bool := false) : Act Bool := do
  if data.length > cfg.maxSingleMessageSize then pure false
  else do
    let x ← getSession s
    if x.statemachine.isInState .sessionReady then sendDataStream s data replyExpected
    else pure false

/-- `Session::sendNormalMessage`. -/
def sendNormalMessage (cfg : Config) (s : SessionRef) (data : Bytes) : Act Bool := do
  let x ← getSession s
  if x.statemachine.isInState .sessionReady then
    if data.length ≤ cfg.maxSingleMessageSize then do
      let id ← getRandId
      sendDataSingleBlock s id data
    else do
      let id ← MultiblockIo.sendOutgoingData cfg s data
      pure (id != 0)
  else pure false

/-- The frames of `Session::sendRequest`: the id of the request, or 0 where the
call returns `nullptr` at once. -/
def sendRequestFrames (cfg : Config) (s : SessionRef) (data : Bytes) : Act UInt64 := do
  let x ← getSession s
  if x.statemachine.isInState .sessionReady then
    if data.length ≤ cfg.maxSingleMessageSize then do
      let id ← getRandId
      let ok ← sendDataSingleBlock s id data
      if ok then pure id else pure 0
    else MultiblockIo.sendOutgoingData cfg s data
  else pure 0

/-- `Session::sendRequest` until its thread waits: the id it waits for, or
`none` where it returns `nullptr` without waiting. -/
def sendRequest
    (cfg : Config)
    (s : SessionRef)
    (data : Bytes)
    (timeout : UInt64) : Act (Option UInt64) := do
  let id ← sendRequestFrames cfg s data
  if id == 0 then pure none
  else do
    MessageBlockerHandler.addBlocker id timeout s
    pure (some id)

/-- `Session::sendResponse`. -/
def sendResponse
    (cfg : Config)
    (s : SessionRef)
    (data : Bytes)
    (blockerId : UInt64) : Act UInt64 := do
  let x ← getSession s
  if x.statemachine.isInState .sessionReady then
    if data.length < cfg.maxSingleMessageSize then do
      let singleblockId ← getRandId
      let _ ← sendDataSingleBlock s singleblockId data blockerId
      pure singleblockId
    else MultiblockIo.sendOutgoingData cfg s data blockerId
  else pure 0

/-- `Session::sendHeartbeat`. -/
def sendHeartbeat (s : SessionRef) : Act Bool := do
  let x ← getSession s
  match x.socket with
  | none => pure false
  | some _ =>
      if x.statemachine.isInState .sessionReady then sendHeartbeatStart s
      else pure false

/-! ## The life of a session -/

/-- `m_statemachine.goToNextState`: take the transition, if it fires. -/
def goToNextState
    (s : SessionRef)
    (t : SessionTransition)
    (required : Option SessionState := none) : Act Bool := do
  let x ← getSession s
  match x.statemachine.goToNextState t required with
  | none => pure false
  | some next => do
      modifySession s (fun x => { x with statemachine := next })
      pure true

/-- `AbstractSocket::closeSocket`. -/
def closeSocket (s : SessionRef) (k : Socket) : Act Bool := do
  modifySession s (fun x => { x with socket := some { k with isOpen := false } })
  pure k.closeResult

/-- `Session::disconnectSession`. -/
def disconnectSession (s : SessionRef) : Act Bool := do
  let moved ← goToNextState s .disconnect
  if moved then
    let x ← getSession s
    match x.socket with
    | none => pure false
    | some k => closeSocket s k
  else pure false

/-- `Session::endSession`. -/
def endSession (s : SessionRef) : Act Bool := do
  let moved ← goToNextState s .stopSession
  if moved then
    let x ← getSession s
    Act.emit (.processCloseSession s x.sessionIdentifier)
    let _ ← SessionHandler.removeSession x.sessionId
    disconnectSession s
  else pure false

/-- `Session::closeSession`. -/
def closeSession (s : SessionRef) (replyExpected : Bool := false) : Act Bool := do
  let x ← getSession s
  if x.statemachine.isInState .sessionReady then
    ReplyHandler.removeAllOfSession x.sessionId
    let _ ← MultiblockIo.removeMultiblockBuffer s 0
    if replyExpected then sendSessionCloseStart s true
    else do
      let _ ← sendSessionCloseStart s false
      endSession s
  else pure false

/-- `Session::connectiSession`. -/
def connectiSession (s : SessionRef) (sessionId : UInt32) : Act Bool := do
  let x ← getSession s
  if x.statemachine.isInState .notConnected then
    match x.socket with
    | none => pure false
    | some k =>
        if k.initResult then do
          modifySession s (fun x => { x with socket := some { k with isOpen := true } })
          let moved ← goToNextState s .connect
          if moved then
            modifySession s (fun x => { x with sessionId := sessionId })
            pure true
          else
            modifySession s (fun x => { x with initState := -1 })
            pure false
        else do
          modifySession s (fun x => { x with initState := -1 })
          pure false
  else do
    modifySession s (fun x => { x with initState := -1 })
    pure false

/-- `Session::makeSessionReady`. -/
def makeSessionReady
    (s : SessionRef)
    (sessionId : UInt32)
    (sessionIdentifier : Bytes) : Act Bool := do
  let moved ← goToNextState s .startSession (some .sessionNotReady)
  if moved then
    modifySession s (fun x => { x with sessionId := sessionId })
    modifySession s (fun x => { x with sessionIdentifier := sessionIdentifier })
    Act.emit (.processCreateSession s sessionId sessionIdentifier)
    modifySession s (fun x => { x with initState := 1 })
    pure true
  else do
    modifySession s (fun x => { x with initState := -1 })
    pure false

/-- `SessionController::startSession` for the new session object `s`, until its
loop that waits for the handshake. -/
def startSession (s : SessionRef) (sessionIdentifier : Bytes) : Act Bool := do
  if sessionIdentifier.length > 64000 then pure false
  else do
    let newId ← SessionHandler.increaseSessionIdCounter
    let connected ← connectiSession s newId.toUInt32
    if connected then do
      SessionHandler.addSession newId.toUInt32 s
      let _ ← sendSessionInitStart s sessionIdentifier
      pure true
    else do
      let _ ← closeSession s
      pure false

/-- `Session::~Session`: the session is unregistered and closed, and its socket
and its incoming buffers are given up. -/
def destroySession (s : SessionRef) : Act Unit := do
  modifySession s (fun x => { x with initState := -1 })
  let x ← getSession s
  let _ ← SessionHandler.removeSession x.sessionId
  let _ ← closeSession s
  modifySession s (fun x => { x with socket := none, abort := true, incomingBuffer := ∅ })

/-- The end of `SessionController::startSession`, after the loop that waits for
the handshake: `true` where the session is returned. -/
def finishStart (s : SessionRef) : Act Bool := do
  let x ← getSession s
  if x.initState = -1 then do
    let _ ← closeSession s
    destroySession s
    pure false
  else pure true

/-! ## State changes in closed form -/

/-- Go to a given state of the machine. -/
def Process.goTo (p : Process) (s : SessionRef) (next : SessionState) : Process :=
  p.modifySession s (fun x => { x with statemachine := next })

theorem run_goToNextState_bind
    {β : Type}
    (s : SessionRef)
    (t : SessionTransition)
    (required : Option SessionState)
    (f : Bool → Act β)
    (p : Process) :
    (goToNextState s t required >>= f).run p =
      match (p.session s).statemachine.goToNextState t required with
      | none => (f false).run p
      | some next => (f true).run (p.goTo s next) := by
  rw [Act.run_bind, goToNextState, run_getSession_bind]
  cases (p.session s).statemachine.goToNextState t required with
  | none =>
      rfl
  | some next =>
      rfl

/-- The socket of the session, if it has one, is closed. -/
def Process.closeSocket (p : Process) (s : SessionRef) : Process :=
  p.modifySession s (fun x =>
    { x with socket := x.socket.map (fun k => { k with isOpen := false }) })

@[simp] theorem disconnectSession_process (s : SessionRef) (p : Process) :
    ((disconnectSession s).run p).process =
      if (p.session s).statemachine = .notConnected then p
      else (p.goTo s .notConnected).closeSocket s := by
  rw [disconnectSession, run_goToNextState_bind, SessionState.goToNextState_disconnect]
  by_cases hstate : (p.session s).statemachine = .notConnected
  · simp [hstate]
  · simp only [hstate, if_false, if_true, run_getSession_bind]
    cases hsocket : (p.session s).socket with
    | none =>
        simp only [Process.goTo, Process.closeSocket, Process.modifySession_same, hsocket,
          Process.modifySession_modifySession, Act.run_pure]
        exact Process.modifySession_congr (by simp [hsocket])
    | some k =>
        simp only [Process.goTo, Process.closeSocket, closeSocket, Process.modifySession_same,
          hsocket, Process.modifySession_modifySession, run_modifySession_bind, Act.run_pure]
        exact Process.modifySession_congr (by simp [hsocket])

@[simp] theorem disconnectSession_outputs (s : SessionRef) (p : Process) :
    ((disconnectSession s).run p).outputs = [] := by
  simp only [disconnectSession, run_goToNextState_bind]
  split
  · rfl
  · simp only [if_true, run_getSession_bind]
    split <;> simp [closeSocket]

/-- The process after the session was stopped, unregistered and disconnected. -/
def Process.stopped (p : Process) (s : SessionRef) : Process :=
  { (p.goTo s .notConnected).closeSocket s with
    sessions := p.sessions.remove (p.session s).sessionId }

@[simp] theorem endSession_process (s : SessionRef) (p : Process) :
    ((endSession s).run p).process =
      if (p.session s).statemachine = .sessionReady then p.stopped s else p := by
  rw [endSession, run_goToNextState_bind, SessionState.goToNextState_stopSession]
  by_cases hstate : (p.session s).statemachine = .sessionReady
  · simp only [hstate, Process.stopped, Process.goTo, Process.closeSocket, if_true,
      Act.run_bind, SessionHandler.run_removeSession, disconnectSession_process,
      Process.modifySession_modifySession]
    simp only [Process.modifySession]
    simp
    funext r
    by_cases hr : r = s
    · simp [hr]
    · simp [hr]
  · simp [hstate]

@[simp] theorem endSession_outputs (s : SessionRef) (p : Process) :
    ((endSession s).run p).outputs =
      if (p.session s).statemachine = .sessionReady then
        [.processCloseSession s (p.session s).sessionIdentifier]
      else [] := by
  rw [endSession, run_goToNextState_bind, SessionState.goToNextState_stopSession]
  by_cases hstate : (p.session s).statemachine = .sessionReady
  · simp [hstate, Process.goTo]
  · simp [hstate]

/-- The session is connected under an id and waits for its handshake. -/
def Process.connected (p : Process) (s : SessionRef) (sessionId : UInt32) : Process :=
  p.modifySession s (fun x =>
    { x with
      socket := x.socket.map (fun k => { k with isOpen := true })
      statemachine := .sessionNotReady
      sessionId := sessionId })

/-- The waiting `startSession` is released with a result. -/
def Process.setInitState (p : Process) (s : SessionRef) (initState : Int) : Process :=
  p.modifySession s (fun x => { x with initState := initState })

/-- A session can be connected: it is not, and its socket connects. -/
def Session.connectable (x : Session) : Bool :=
  x.statemachine = .notConnected && x.socket.any Socket.initResult

theorem connectiSession_process (s : SessionRef) (sessionId : UInt32) (p : Process) :
    ((connectiSession s sessionId).run p).process =
      if (p.session s).connectable then p.connected s sessionId
      else if (p.session s).statemachine = .notConnected ∧ (p.session s).socket = none then p
      else p.setInitState s (-1) := by
  rw [connectiSession, run_getSession_bind]
  by_cases hstate : (p.session s).statemachine = .notConnected
  · cases hsocket : (p.session s).socket with
    | none =>
        simp [hstate, Session.connectable, hsocket]
    | some k =>
        have hconnectable : (p.session s).connectable = k.initResult := by
          simp [Session.connectable, hstate, hsocket]
        by_cases hinit : k.initResult = true
        · simp [hstate, hconnectable, hinit, run_goToNextState_bind, Process.connected,
            Process.goTo]
          exact Process.modifySession_congr (by simp [hsocket, hinit])
        · simp [hstate, hconnectable, hinit, Process.setInitState]
  · have hconnectable : (p.session s).connectable = false := by
      simp [Session.connectable, hstate]
    simp [hstate, hconnectable, Process.setInitState]

theorem connectiSession_value (s : SessionRef) (sessionId : UInt32) (p : Process) :
    ((connectiSession s sessionId).run p).value = (p.session s).connectable := by
  rw [connectiSession, run_getSession_bind]
  by_cases hstate : (p.session s).statemachine = .notConnected
  · cases hsocket : (p.session s).socket with
    | none =>
        simp [hstate, Session.connectable, hsocket]
    | some k =>
        by_cases hinit : k.initResult = true
        · simp [hstate, Session.connectable, hsocket, hinit, run_goToNextState_bind]
        · simp [hstate, Session.connectable, hsocket, hinit]
  · simp [hstate, Session.connectable]

@[simp] theorem connectiSession_outputs (s : SessionRef) (sessionId : UInt32) (p : Process) :
    ((connectiSession s sessionId).run p).outputs = [] := by
  simp only [connectiSession, run_getSession_bind, Act.run_ite]
  split
  · split
    · rfl
    · simp only [Act.run_ite]
      split
      · simp only [run_modifySession_bind, run_goToNextState_bind]
        split <;> simp
      · simp
  · simp

/-- The session is ready under its final id and identifier. -/
def Process.ready
    (p : Process)
    (s : SessionRef)
    (sessionId : UInt32)
    (sessionIdentifier : Bytes) : Process :=
  p.modifySession s (fun x =>
    { x with
      statemachine := .sessionReady
      sessionId := sessionId
      sessionIdentifier := sessionIdentifier
      initState := 1 })

theorem makeSessionReady_process
    (s : SessionRef)
    (sessionId : UInt32)
    (sessionIdentifier : Bytes)
    (p : Process) :
    ((makeSessionReady s sessionId sessionIdentifier).run p).process =
      if (p.session s).statemachine = .sessionNotReady then
        p.ready s sessionId sessionIdentifier
      else p.setInitState s (-1) := by
  rw [makeSessionReady, run_goToNextState_bind, SessionState.goToNextState_startSession]
  by_cases hstate : (p.session s).statemachine = .sessionNotReady
  · simp [hstate, Process.ready, Process.goTo]
  · simp [hstate, Process.setInitState]

theorem makeSessionReady_outputs
    (s : SessionRef)
    (sessionId : UInt32)
    (sessionIdentifier : Bytes)
    (p : Process) :
    ((makeSessionReady s sessionId sessionIdentifier).run p).outputs =
      if (p.session s).statemachine = .sessionNotReady then
        [.processCreateSession s sessionId sessionIdentifier]
      else [] := by
  rw [makeSessionReady, run_goToNextState_bind, SessionState.goToNextState_startSession]
  by_cases hstate : (p.session s).statemachine = .sessionNotReady
  · simp [hstate]
  · simp [hstate]

/-- A process whose sessions are ready, each over a working socket. -/
def readyProcess : Process where
  session := fun _ =>
    { statemachine := .sessionReady
      socket := some
        { isOpen := true, initResult := true, closeResult := true, sendResults := fun _ => true } }
  allocation := fun _ => true
  randIds := (Process.created (fun _ => none)).randIds

theorem readyProcess_sends (s : SessionRef) : (readyProcess.session s).Sends :=
  ⟨_, rfl, rfl, fun _ => rfl⟩

end SakuraNetwork

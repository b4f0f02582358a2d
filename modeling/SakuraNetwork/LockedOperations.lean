import SakuraNetwork.Callbacks
import SakuraNetwork.Lib.SpinLock

/-!
# The operations with their locks

The functions of the library once more, each with the spin locks it takes and releases,
the callbacks during which the application may call the library again, and the places
where it waits.  What lies between two of these is done in one step.

* `Locked.SpinLock`: the locks of the process-wide tables.
* `Locked.Invocation`: what a thread may begin.
* `Locked.system`: the threads of a process.
-/

namespace SakuraNetwork

open Lib

namespace Locked

/-- The locks of `m_sessions`, `m_servers` and of the two lists. -/
inductive SpinLock where
  | sessionMap
  | serverMap
  | replyList
  | blockerList
deriving DecidableEq

instance : Fintype SpinLock where
  elems := {.sessionMap, .serverMap, .replyList, .blockerList}
  complete := by
    intro l
    cases l <;> decide

/-- Places of the code. -/
inductive Place where
  /-- `SessionController::closeServer` could not close the server. -/
  | serverNotClosed
  /-- `MessageBlockerHandler::blockMessage` is called. -/
  | blockMessage
deriving DecidableEq

/-- A server: the outcome of its calls. -/
structure Server where
  initResult : Bool
  closeResults : Nat → Bool
  closeCount : Nat := 0

namespace Server

/-- The outcome of the next `closeServer`. -/
def closes (server : Server) : Bool :=
  server.closeResults server.closeCount

def countClose (server : Server) : Server :=
  { server with closeCount := server.closeCount + 1 }

end Server

/-- A process, its servers, and everything observed so far. -/
structure Shared where
  process : Process
  /-- `SessionHandler::m_servers`. -/
  servers : OrderedMap UInt32 Server := ∅
  serverIdCounter : UInt32 := 0
  log : List Output := []

/-- The state after an operation that takes no lock. -/
def Shared.after {α : Type} (g : Shared) (x : Act α) : Shared :=
  { g with
    process := (x.run g.process).process
    log := g.log ++ (x.run g.process).outputs }

end Locked

/-- An operation with its locks. -/
abbrev Locked := Code Locked.SpinLock Locked.Shared Locked.Place

namespace Locked

/-- A step without locks. -/
def lift {α : Type} (x : Act α) : Locked α :=
  .act (fun g => g.after x) fun g => .pure (x.run g.process).value

instance : MonadLift Act Locked where
  monadLift := lift

/-- A callback: the application is called. -/
def callback (o : Output) : Locked Unit := do
  Act.emit o
  .call (.pure ())

def getShared : Locked Shared :=
  .act (fun g => g) .pure

def modifyShared (f : Shared → Shared) : Locked Unit :=
  .act f fun _ => .pure ()

def visit (place : Place) : Locked Unit :=
  Code.visit place (.pure ())

def await (test : Shared → Bool) : Locked Unit :=
  Code.await test (.pure ())

/-! ## `ReplyHandler` -/

/-- `ReplyHandler::addMessage`. -/
def addMessage
    (messageType : UInt8)
    (sessionId messageId : UInt32)
    (s : SessionRef) : Locked Unit := do
  Code.acquire .replyList
  ReplyHandler.addMessage messageType sessionId messageId s
  Code.release .replyList

/-- `ReplyHandler::removeMessage`. -/
def removeMessage (sessionId messageId : UInt32) : Locked Bool := do
  Code.acquire .replyList
  let result ← ReplyHandler.removeMessage sessionId messageId
  Code.release .replyList
  pure result

/-- `ReplyHandler::removeAllOfSession`. -/
def removeAllOfSession (sessionId : UInt32) : Locked Unit := do
  Code.acquire .replyList
  ReplyHandler.removeAllOfSession sessionId
  Code.release .replyList

/-- The body of a timeout, between `spinUnlock` and `spinLock`.  What `temp` points to is
read together with the removal; the code reads it after the lock of the list is released
again. -/
def handleReplyTimeout (i : Nat) (temp : MessageTime) : Locked Unit := do
  -- `removeMessage`, and what `temp` points to afterwards
  Code.acquire .replyList
  let p ← Act.get
  let _ ← ReplyHandler.removeCompleteMessage temp.completeMessageId
  Code.release .replyList
  match ReplyHandler.placeAfterRemoval temp.completeMessageId p.replyList i with
  | none => pure ()
  | some temp =>
      if temp.ignoreResult then pure ()
      else do
        modifySession temp.session (fun x => { x with initState := -1 })
        callback (.processError temp.session .messageTimeout (ReplyHandler.timeoutText temp))

/-- The loop of `ReplyHandler::makeTimerStep`: the lock is released for the first
timeout, and taken again before the `break`. -/
def replyTimerStepFrom : Nat → Nat → Locked Unit
  | 0, _ => pure ()
  | fuel + 1, i => do
      let p ← Act.get
      match p.replyList[i]? with
      | none => pure ()
      | some m =>
          let temp := { m with timer := m.timer + 1 }
          Act.modify (fun p => { p with replyList := p.replyList.set i temp })
          if temp.timer ≥ ReplyHandler.timeoutValue then do
            Code.release .replyList
            handleReplyTimeout i temp
            Code.acquire .replyList
          else replyTimerStepFrom fuel (i + 1)

/-- `ReplyHandler::makeTimerStep`. -/
def replyTimerStep : Locked Unit := do
  Code.acquire .replyList
  let p ← Act.get
  replyTimerStepFrom p.replyList.length 0
  Code.release .replyList

/-! ## `MessageBlockerHandler` -/

/-- `MessageBlockerHandler::blockMessage`; a waiting thread may wake at any time. -/
def blockMessage (blockerId blockerTimeout : UInt64) (s : SessionRef) :
    Locked (Option Bytes) := do
  visit .blockMessage
  Code.acquire .blockerList
  MessageBlockerHandler.addBlocker blockerId blockerTimeout s
  Code.release .blockerList
  await fun _ => true
  Code.acquire .blockerList
  let result ← MessageBlockerHandler.removeMessageFromList blockerId
  Code.release .blockerList
  pure result

/-- `MessageBlockerHandler::releaseMessage`. -/
def releaseMessage (blockerId : UInt64) (data : Option Bytes) : Locked Bool := do
  Code.acquire .blockerList
  let result ← MessageBlockerHandler.releaseMessage blockerId data
  Code.release .blockerList
  pure result

/-- The loop of `MessageBlockerHandler::makeTimerStep`: the error callback is called
inside of it. -/
def blockerTimerStepFrom : Nat → Nat → Locked Unit
  | 0, _ => pure ()
  | fuel + 1, i => do
      let p ← Act.get
      match p.blockerList[i]? with
      | none => pure ()
      | some b => do
          let temp := { b with timer := b.timer - 1 }
          Act.modify (fun p => { p with blockerList := p.blockerList.set i temp })
          if temp.timer == 0 then
            let _ ← MessageBlockerHandler.removeMessageFromList temp.blockerId
            let _ ← MessageBlockerHandler.releaseMessage temp.blockerId none
            callback (.processError temp.session .messageTimeout
              (MessageBlockerHandler.timeoutText temp.blockerId))
          blockerTimerStepFrom fuel (i + 1)

/-- `MessageBlockerHandler::makeTimerStep`. -/
def blockerTimerStep : Locked Unit := do
  Code.acquire .blockerList
  let p ← Act.get
  blockerTimerStepFrom p.blockerList.length 0
  Code.release .blockerList

/-! ## `SessionHandler` -/

/-- `SessionHandler::addSession`. -/
def addSession (id : UInt32) (s : SessionRef) : Locked Unit := do
  modifySession s (fun x => { x with handlerCallbacks := true })
  Code.acquire .sessionMap
  Act.modify (fun p => { p with sessions := p.sessions.emplace id s })
  Code.release .sessionMap

/-- `SessionHandler::removeSession`. -/
def removeSession (id : UInt32) : Locked (Option SessionRef) := do
  Code.acquire .sessionMap
  let ret ← SessionHandler.removeSession id
  Code.release .sessionMap
  pure ret

/-! ## Sending -/

/-- `Session::sendMessage`. -/
def sendMessage (s : SessionRef) (m : Message) : Locked Bool := do
  let x ← getSession s
  match x.socket with
  | none => pure false
  | some k => do
      if m.replyRequired then
        addMessage m.body.type.code m.sessionId m.messageId s
      socketSendMessage s k m

/-- Send a message with the session id and a new message id. -/
def sendNew (s : SessionRef) (body : Body) : Locked Bool := do
  let x ← getSession s
  let messageId ← increaseMessageIdCounter s
  sendMessage s { sessionId := x.sessionId, messageId := messageId, body := body }

/-- Send a message with the session id and a given message id. -/
def sendReply (s : SessionRef) (messageId : UInt32) (body : Body) : Locked Bool := do
  let x ← getSession s
  sendMessage s { sessionId := x.sessionId, messageId := messageId, body := body }

/-- `send_Session_Init_Start`. -/
def sendSessionInitStart (s : SessionRef) (sessionIdentifier : Bytes) : Locked Bool := do
  let x ← getSession s
  Act.touch (.write sessionIdentifier.length 64000)
  sendNew s (.sessionInitStart x.sessionId sessionIdentifier)

/-- `send_Session_Init_Reply`. -/
def sendSessionInitReply
    (s : SessionRef)
    (initialSessionId messageId completeSessionId : UInt32)
    (sessionIdentifier : Bytes) : Locked Bool := do
  Act.touch (.write sessionIdentifier.length 64000)
  sendMessage s
    { sessionId := initialSessionId
      messageId := messageId
      body := .sessionInitReply initialSessionId completeSessionId sessionIdentifier }

/-- `send_ErrorMessage`. -/
def sendErrorMessage
    (cfg : Config)
    (s : SessionRef)
    (errorCode : ErrorCode)
    (errorMessage : Bytes) : Locked Bool :=
  match errorCode.subType with
  | some subType =>
      let messageSize :=
        if errorMessage.length > cfg.maxSingleMessageSize - 1 then cfg.maxSingleMessageSize - 1
        else errorMessage.length
      sendNew s (.error subType (strncpy errorMessage messageSize))
  | none => pure true

/-- The loop of `MultiblockIO::sendOutgoingData`. -/
def sendParts
    (cfg : Config)
    (s : SessionRef)
    (multiblockId : UInt64)
    (data : Bytes)
    (totalSize : Nat)
    (partCounter : UInt32) : Locked Bool :=
  if h : totalSize = 0 then pure true
  else do
    let x ← getSession s
    if x.abort then pure true
    else do
      let ok ← sendNew s (.multiStatic
        (UInt64.ofNat data.length)
        multiblockId
        (UInt32.ofNat (data.length / cfg.maxSingleMessageSize) + 1)
        partCounter
        ((data.drop (MultiblockIo.partOffset cfg partCounter)).take
          (MultiblockIo.currentMessageSize cfg totalSize))
        0)
      if ok then
        sendParts cfg s multiblockId data
          (totalSize - MultiblockIo.currentMessageSize cfg totalSize) (partCounter + 1)
      else pure false
termination_by totalSize
decreasing_by
  have := MultiblockIo.currentMessageSize_pos cfg h
  omega

/-- `MultiblockIO::sendOutgoingData`. -/
def sendOutgoingData
    (cfg : Config)
    (s : SessionRef)
    (data : Bytes)
    (blockerId : UInt64 := 0) : Locked UInt64 := do
  let newMultiblockId ← getRandId
  let ok ← sendParts cfg s newMultiblockId data data.length 0
  if ok then
    let x ← getSession s
    if x.abort then pure 0
    else do
      let ok ← sendNew s (.multiFinish newMultiblockId blockerId)
      if ok then pure newMultiblockId else pure 0
  else pure 0

/-! ## `Session` -/

/-- `Session::sendStreamData`. -/
def sendStreamData
    (cfg : Config)
    (s : SessionRef)
    (data : Bytes)
    (replyExpected : Bool) : Locked Bool := do
  if data.length > cfg.maxSingleMessageSize then pure false
  else do
    let x ← getSession s
    if x.statemachine.isInState .sessionReady then sendNew s (.stream replyExpected data)
    else pure false

/-- `Session::sendNormalMessage`. -/
def sendNormalMessage (cfg : Config) (s : SessionRef) (data : Bytes) : Locked Bool := do
  let x ← getSession s
  if x.statemachine.isInState .sessionReady then
    if data.length ≤ cfg.maxSingleMessageSize then do
      let id ← getRandId
      sendNew s (.singleBlock id 0 data)
    else do
      let id ← sendOutgoingData cfg s data
      pure (id != 0)
  else pure false

/-- The frames of `Session::sendRequest`. -/
def sendRequestFrames (cfg : Config) (s : SessionRef) (data : Bytes) : Locked UInt64 := do
  let x ← getSession s
  if x.statemachine.isInState .sessionReady then
    if data.length ≤ cfg.maxSingleMessageSize then do
      let id ← getRandId
      let ok ← sendNew s (.singleBlock id 0 data)
      if ok then pure id else pure 0
    else sendOutgoingData cfg s data
  else pure 0

/-- `Session::sendRequest`. -/
def sendRequest
    (cfg : Config)
    (s : SessionRef)
    (data : Bytes)
    (timeout : UInt64) : Locked (Option Bytes) := do
  let id ← sendRequestFrames cfg s data
  if id == 0 then pure none
  else blockMessage id timeout s

/-- `Session::sendResponse`. -/
def sendResponse
    (cfg : Config)
    (s : SessionRef)
    (data : Bytes)
    (blockerId : UInt64) : Locked UInt64 := do
  let x ← getSession s
  if x.statemachine.isInState .sessionReady then
    if data.length < cfg.maxSingleMessageSize then do
      let singleblockId ← getRandId
      let _ ← sendNew s (.singleBlock singleblockId blockerId data)
      pure singleblockId
    else sendOutgoingData cfg s data blockerId
  else pure 0

/-- `Session::sendHeartbeat`. -/
def sendHeartbeat (s : SessionRef) : Locked Bool := do
  let x ← getSession s
  match x.socket with
  | none => pure false
  | some _ =>
      if x.statemachine.isInState .sessionReady then sendNew s .heartbeatStart
      else pure false

/-- `Session::endSession`. -/
def endSession (s : SessionRef) : Locked Bool := do
  let moved ← goToNextState s .stopSession
  if moved then
    let x ← getSession s
    callback (.processCloseSession s x.sessionIdentifier)
    let _ ← removeSession x.sessionId
    disconnectSession s
  else pure false

/-- `Session::closeSession`. -/
def closeSession (s : SessionRef) (replyExpected : Bool := false) : Locked Bool := do
  let x ← getSession s
  if x.statemachine.isInState .sessionReady then
    removeAllOfSession x.sessionId
    let _ ← MultiblockIo.removeMultiblockBuffer s 0
    if replyExpected then sendNew s (.sessionCloseStart true)
    else do
      let _ ← sendNew s (.sessionCloseStart false)
      endSession s
  else pure false

/-- `Session::makeSessionReady`. -/
def makeSessionReady
    (s : SessionRef)
    (sessionId : UInt32)
    (sessionIdentifier : Bytes) : Locked Bool := do
  let moved ← goToNextState s .startSession (some .sessionNotReady)
  if moved then
    modifySession s (fun x => { x with sessionId := sessionId })
    modifySession s (fun x => { x with sessionIdentifier := sessionIdentifier })
    callback (.processCreateSession s sessionId sessionIdentifier)
    modifySession s (fun x => { x with initState := 1 })
    pure true
  else do
    modifySession s (fun x => { x with initState := -1 })
    pure false

/-- `Session::~Session`. -/
def destroySession (s : SessionRef) : Locked Unit := do
  modifySession s (fun x => { x with initState := -1 })
  let x ← getSession s
  let _ ← removeSession x.sessionId
  let _ ← closeSession s
  modifySession s (fun x => { x with socket := none, abort := true, incomingBuffer := ∅ })

/-- `SessionHandler::sendHeartBeats`, the sessions of the loop. -/
def heartBeats : List SessionRef → Locked Unit
  | [] => pure ()
  | s :: rest => do
      let _ ← sendHeartbeat s
      heartBeats rest

/-- `SessionHandler::sendHeartBeats`. -/
def sendHeartBeats : Locked Unit := do
  Code.acquire .sessionMap
  let p ← Act.get
  heartBeats (p.sessions.entries.map fun e => e.2)
  Code.release .sessionMap

/-! ## `SessionController` -/

/-- A new server is added, if it can be initialised. -/
def addServer (server : Server) : Locked UInt32 := do
  if server.initResult then
    modifyShared (fun g => { g with serverIdCounter := g.serverIdCounter + 1 })
    Code.acquire .serverMap
    modifyShared (fun g => { g with servers := g.servers.emplace g.serverIdCounter server })
    Code.release .serverMap
    let g ← getShared
    pure g.serverIdCounter
  else pure 0

/-- `SessionController::addUnixDomainServer`. -/
def addUnixDomainServer (server : Server) : Locked UInt32 :=
  addServer server

/-- `SessionController::addTcpServer`. -/
def addTcpServer (server : Server) : Locked UInt32 :=
  addServer server

/-- `SessionController::addTlsTcpServer`. -/
def addTlsTcpServer (server : Server) : Locked UInt32 :=
  addServer server

/-- `SessionController::closeServer` behind the search: the early return keeps the
lock. -/
def closeFound (id : UInt32) : Option Server → Locked Bool
  | some server => do
      modifyShared (fun g => { g with servers := g.servers.modify id Server.countClose })
      if server.closes then do
        modifyShared (fun g => { g with servers := g.servers.remove id })
        Code.release .serverMap
        pure true
      else do
        visit .serverNotClosed
        pure false
  | none => do
      Code.release .serverMap
      pure false

/-- `SessionController::closeServer`. -/
def closeServer (id : UInt32) : Locked Bool := do
  Code.acquire .serverMap
  let g ← getShared
  closeFound id (g.servers.find id)

/-- The loop of `cloesAllServers`; the results are not used. -/
def closeServers : List UInt32 → Locked Unit
  | [] => pure ()
  | id :: rest => do
      modifyShared (fun g => { g with servers := g.servers.modify id Server.countClose })
      closeServers rest

/-- `SessionController::cloesAllServers`. -/
def cloesAllServers : Locked Unit := do
  Code.acquire .serverMap
  let g ← getShared
  closeServers g.servers.keys
  Code.release .serverMap

/-- `SessionController::startSession`: `true` where the session is returned. -/
def startSession (s : SessionRef) (sessionIdentifier : Bytes) : Locked Bool := do
  if sessionIdentifier.length > 64000 then pure false
  else do
    let newId ← SessionHandler.increaseSessionIdCounter
    let connected ← connectiSession s newId.toUInt32
    if connected then do
      addSession newId.toUInt32 s
      let _ ← sendSessionInitStart s sessionIdentifier
      await fun g => (g.process.session s).initState != 0
      let x ← getSession s
      if x.initState = -1 then do
        let _ ← closeSession s
        destroySession s
        pure false
      else pure true
    else do
      let _ ← closeSession s
      destroySession s
      pure false

/-! ## Received messages -/

/-- `process_Data_Stream`. -/
def processDataStream (s : SessionRef) (rawMessage : Memory) : Locked Unit := do
  let payloadSize ← readUInt32 rawMessage 28
  let payload ← readBytes rawMessage 32 payloadSize.toNat
  callback (.processStreamData s payload)
  let flags ← readUInt8 rawMessage 7
  if flags &&& 0x1 != 0 then
    let messageId ← readUInt32 rawMessage 20
    let _ ← sendReply s messageId .streamReply

/-- `process_Data_SingleBlock`. -/
def processDataSingleBlock (s : SessionRef) (rawMessage : Memory) : Locked Unit := do
  let payloadSize ← readUInt32 rawMessage 28
  let payload ← readBytes rawMessage 52 payloadSize.toNat
  let flags ← readUInt8 rawMessage 7
  if flags &&& 0x8 != 0 then do
    let blockerId ← readUInt64 rawMessage 40
    let _ ← releaseMessage blockerId (some payload)
  else do
    let multiblockId ← readUInt64 rawMessage 32
    callback (.processRequestData s multiblockId (some payload))
  if flags &&& 0x1 != 0 then
    let messageId ← readUInt32 rawMessage 20
    let _ ← sendReply s messageId .singleBlockReply

/-- `process_Data_Multi_Finish`. -/
def processDataMultiFinish (s : SessionRef) (rawMessage : Memory) : Locked Unit := do
  let multiblockId ← readUInt64 rawMessage 32
  let buffer ← MultiblockIo.getIncomingBuffer s multiblockId
  let flags ← readUInt8 rawMessage 7
  if flags &&& 0x8 != 0 then do
    let blockerId ← readUInt64 rawMessage 40
    let _ ← releaseMessage blockerId buffer.incomingData
  else
    callback (.processRequestData s multiblockId buffer.incomingData)
  let _ ← MultiblockIo.removeMultiblockBuffer s multiblockId

/-- `process_Stream_Data_Type`. -/
def processStreamDataType
    (s : SessionRef)
    (header : CommonMessageHeader)
    (rawMessage : Memory) : Locked Unit :=
  if header.subType = StreamDataSubType.static.code then processDataStream s rawMessage
  else pure ()

/-- `process_SingleBlock_Data_Type`. -/
def processSingleBlockDataType
    (s : SessionRef)
    (header : CommonMessageHeader)
    (rawMessage : Memory) : Locked Unit :=
  if header.subType = SingleblockDataSubType.data.code then processDataSingleBlock s rawMessage
  else pure ()

/-- `process_MultiBlock_Data_Type`. -/
def processMultiBlockDataType
    (s : SessionRef)
    (header : CommonMessageHeader)
    (rawMessage : Memory) : Locked Unit :=
  if header.subType = MultiblockDataSubType.static.code then do
    processDataMultiblock s rawMessage
  else if header.subType = MultiblockDataSubType.finish.code then
    processDataMultiFinish s rawMessage
  else pure ()

/-- `process_Session_Init_Start`. -/
def processSessionInitStart (s : SessionRef) (rawMessage : Memory) : Locked Unit := do
  let clientSessionId ← readUInt32 rawMessage 32
  let serverSessionId ← SessionHandler.increaseSessionIdCounter
  let sessionId := completeSessionId clientSessionId serverSessionId
  let sessionIdentifierSize ← readUInt32 rawMessage 64036
  let sessionIdentifier ← readBytes rawMessage 36 sessionIdentifierSize.toNat
  addSession sessionId s
  let _ ← connectiSession s sessionId
  let _ ← makeSessionReady s sessionId sessionIdentifier
  let messageId ← readUInt32 rawMessage 20
  let _ ← sendSessionInitReply s clientSessionId messageId sessionId sessionIdentifier

/-- `process_Session_Init_Reply`. -/
def processSessionInitReply (s : SessionRef) (rawMessage : Memory) : Locked Unit := do
  let completeSessionId ← readUInt32 rawMessage 36
  let initialId ← readUInt32 rawMessage 32
  let sessionIdentifierSize ← readUInt32 rawMessage 64040
  let sessionIdentifier ← readBytes rawMessage 40 sessionIdentifierSize.toNat
  let _ ← removeSession initialId
  addSession completeSessionId s
  let _ ← makeSessionReady s completeSessionId sessionIdentifier

/-- `process_Session_Close_Start`. -/
def processSessionCloseStart (s : SessionRef) (rawMessage : Memory) : Locked Unit := do
  let messageId ← readUInt32 rawMessage 20
  let _ ← sendReply s messageId .sessionCloseReply
  let sessionId ← readUInt32 rawMessage 32
  let _ ← removeSession sessionId
  let _ ← endSession s

/-- `process_Session_Close_Reply`. -/
def processSessionCloseReply (s : SessionRef) (rawMessage : Memory) : Locked Unit := do
  let sessionId ← readUInt32 rawMessage 32
  let _ ← removeSession sessionId
  let _ ← disconnectSession s

/-- `process_Session_Type`. -/
def processSessionType
    (s : SessionRef)
    (header : CommonMessageHeader)
    (rawMessage : Memory) : Locked Unit :=
  if header.subType = SessionSubType.initStart.code then processSessionInitStart s rawMessage
  else if header.subType = SessionSubType.initReply.code then processSessionInitReply s rawMessage
  else if header.subType = SessionSubType.closeStart.code then processSessionCloseStart s rawMessage
  else if header.subType = SessionSubType.closeReply.code then processSessionCloseReply s rawMessage
  else pure ()

/-- `process_Heartbeat_Type`. -/
def processHeartbeatType
    (s : SessionRef)
    (header : CommonMessageHeader)
    (rawMessage : Memory) : Locked Unit :=
  if header.subType = HeartbeatSubType.start.code then do
    let messageId ← readUInt32 rawMessage 20
    let _ ← sendReply s messageId .heartbeatReply
  else pure ()

/-- The branch of `process_Error_Type` for one error code. -/
def processErrorMessage
    (s : SessionRef)
    (errorCode : ErrorCode)
    (rawMessage : Memory) : Locked Unit := do
  let messageSize ← readUInt64 rawMessage 32
  let message ← readBytes rawMessage 40 messageSize.toNat
  callback (.processError s errorCode (.received message))

/-- `process_Error_Type`. -/
def processErrorType
    (s : SessionRef)
    (header : CommonMessageHeader)
    (rawMessage : Memory) : Locked Unit := do
  modifySession s (fun x => { x with initState := -1 })
  if header.subType = ErrorSubType.falseVersion.code then
    processErrorMessage s .falseVersion rawMessage
  else if header.subType = ErrorSubType.unknownSession.code then
    processErrorMessage s .unknownSession rawMessage
  else if header.subType = ErrorSubType.invalidMessage.code then
    processErrorMessage s .invalidMessageSize rawMessage
  else pure ()

/-- The handler for the type of a message, or `none` for an unknown type. -/
def processByType
    (s : SessionRef)
    (header : CommonMessageHeader)
    (rawMessage : Memory) : Option (Locked Unit) :=
  if header.type = MessageType.streamData.code then
    some (processStreamDataType s header rawMessage)
  else if header.type = MessageType.singleblockData.code then
    some (processSingleBlockDataType s header rawMessage)
  else if header.type = MessageType.multiblockData.code then
    some (processMultiBlockDataType s header rawMessage)
  else if header.type = MessageType.session.code then
    some (processSessionType s header rawMessage)
  else if header.type = MessageType.heartbeat.code then
    some (processHeartbeatType s header rawMessage)
  else if header.type = MessageType.error.code then
    some (processErrorType s header rawMessage)
  else none

/-- The part of `processMessage` behind the delimiter check. -/
def processFrame
    (s : SessionRef)
    (header : CommonMessageHeader)
    (rawMessage : Memory) : Locked Processed := do
  if header.flags &&& 0x2 != 0 then
    let _ ← removeMessage header.sessionId header.messageId
  match processByType s header rawMessage with
  | none => pure (.taken 0)
  | some handler => do
      handler
      pure (.taken header.totalMessageSize.toNat)

/-- `processMessage`. -/
def processMessage (cfg : Config) (s : SessionRef) (recvBuffer : RingBuffer) :
    Locked Processed :=
  match recvBuffer.getObject with
  | none => pure (.taken 0)
  | some header =>
      if header.protocolIdentifier != protocolIdentifier then do
        let _ ← closeSession s
        pure (.taken 0)
      else if header.version != 0x1 then do
        let _ ← sendErrorMessage cfg s .falseVersion []
        pure (.taken 0)
      else
        match recvBuffer.getDataPointer header.totalMessageSize.toNat with
        | none => pure (.taken 0)
        | some rawMessage => do
            let delimiter ← readUInt32 rawMessage (endPosition header.totalMessageSize)
            if delimiter != messageDelimiter then do
              let _ ← sendErrorMessage cfg s .falseVersion []
              pure .assertFailed
            else processFrame s header rawMessage

/-! ## The threads of a process -/

/-- What a thread may begin: the application calls a controller or a session, a socket
received a message, or a timer thread makes its round.  The destructors of the controller
and of the handlers, and the `clearList` that one of them calls, are not among them. -/
inductive Invocation where
  | addUnixDomainServer (server : Server)
  | addTcpServer (server : Server)
  | addTlsTcpServer (server : Server)
  | closeServer (id : UInt32)
  | cloesAllServers
  | startSession (s : SessionRef) (sessionIdentifier : Bytes)
  | sendStreamData (s : SessionRef) (data : Bytes) (replyExpected : Bool)
  | sendNormalMessage (s : SessionRef) (data : Bytes)
  | sendRequest (s : SessionRef) (data : Bytes) (timeout : UInt64)
  | sendResponse (s : SessionRef) (data : Bytes) (blockerId : UInt64)
  | sendHeartbeat (s : SessionRef)
  | closeSession (s : SessionRef) (replyExpected : Bool)
  | deleteSession (s : SessionRef)
  | processMessage (s : SessionRef) (recvBuffer : RingBuffer)
  | replyTimerStep
  | sendHeartBeats
  | blockerTimerStep

namespace Invocation

/-- The code of an invocation. -/
def code (cfg : Config) : Invocation → Locked Unit
  | .addUnixDomainServer server => do
      let _ ← Locked.addUnixDomainServer server
  | .addTcpServer server => do
      let _ ← Locked.addTcpServer server
  | .addTlsTcpServer server => do
      let _ ← Locked.addTlsTcpServer server
  | .closeServer id => do
      let _ ← Locked.closeServer id
  | .cloesAllServers => Locked.cloesAllServers
  | .startSession s sessionIdentifier => do
      let _ ← Locked.startSession s sessionIdentifier
  | .sendStreamData s data replyExpected => do
      let _ ← Locked.sendStreamData cfg s data replyExpected
  | .sendNormalMessage s data => do
      let _ ← Locked.sendNormalMessage cfg s data
  | .sendRequest s data timeout => do
      let _ ← Locked.sendRequest cfg s data timeout
  | .sendResponse s data blockerId => do
      let _ ← Locked.sendResponse cfg s data blockerId
  | .sendHeartbeat s => do
      let _ ← Locked.sendHeartbeat s
  | .closeSession s replyExpected => do
      let _ ← Locked.closeSession s replyExpected
  | .deleteSession s => Locked.destroySession s
  | .processMessage s recvBuffer => do
      let _ ← Locked.processMessage cfg s recvBuffer
  | .replyTimerStep => Locked.replyTimerStep
  | .sendHeartBeats => Locked.sendHeartBeats
  | .blockerTimerStep => Locked.blockerTimerStep

/-- The invocations of an application; it may make them also in its callbacks. -/
def callable : Invocation → Bool
  | .processMessage _ _ | .replyTimerStep | .sendHeartBeats | .blockerTimerStep => false
  | _ => true

end Invocation

/-- The threads of a process, from its start with empty tables. -/
def system (cfg : Config) : LockSystem SpinLock Shared Place Invocation where
  init := fun g =>
    g.process.sessions = ∅ ∧ g.process.replyList = [] ∧ g.process.blockerList = [] ∧
      (∀ s, ∃ k, g.process.session s = Session.create k) ∧
      g.servers = ∅ ∧ g.serverIdCounter = 0 ∧ g.log = []
  code := Invocation.code cfg
  callable := Invocation.callable

end Locked

end SakuraNetwork

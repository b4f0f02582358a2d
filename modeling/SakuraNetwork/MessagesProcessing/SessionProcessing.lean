import SakuraNetwork.Session

/-!
# Processing of session, heartbeat and error messages

The handlers read the received frame through a pointer to it.  Every read is
recorded with its offset and size, also where it lies outside of the frame: the
memory behind a frame has some content, and the handlers do not check.
-/

namespace SakuraNetwork

open Lib

/-! ## Reads of a received frame -/

def readUInt8 (rawMessage : Memory) (offset : Nat) : Act UInt8 := do
  Act.touch (.read offset 1)
  pure (rawMessage offset)

def readUInt32 (rawMessage : Memory) (offset : Nat) : Act UInt32 := do
  Act.touch (.read offset 4)
  pure (UInt32.ofNat (rawMessage.word offset 4))

def readUInt64 (rawMessage : Memory) (offset : Nat) : Act UInt64 := do
  Act.touch (.read offset 8)
  pure (UInt64.ofNat (rawMessage.word offset 8))

def readBytes (rawMessage : Memory) (offset size : Nat) : Act Bytes := do
  Act.touch (.read offset size)
  pure (rawMessage.slice offset size)

/-! ## Session messages -/

/-- `clientSessionId + (serverSessionId * 0x10000)`. -/
def completeSessionId (clientSessionId : UInt32) (serverSessionId : UInt16) : UInt32 :=
  clientSessionId + serverSessionId.toUInt32 * 0x10000

/-- `process_Session_Init_Start`. -/
def processSessionInitStart (s : SessionRef) (rawMessage : Memory) : Act Unit := do
  let clientSessionId ← readUInt32 rawMessage 32
  let serverSessionId ← SessionHandler.increaseSessionIdCounter
  let sessionId := completeSessionId clientSessionId serverSessionId
  let sessionIdentifierSize ← readUInt32 rawMessage 64036
  let sessionIdentifier ← readBytes rawMessage 36 sessionIdentifierSize.toNat
  SessionHandler.addSession sessionId s
  let _ ← connectiSession s sessionId
  let _ ← makeSessionReady s sessionId sessionIdentifier
  let messageId ← readUInt32 rawMessage 20
  let _ ← sendSessionInitReply s clientSessionId messageId sessionId sessionIdentifier

/-- `process_Session_Init_Reply`. -/
def processSessionInitReply (s : SessionRef) (rawMessage : Memory) : Act Unit := do
  let completeSessionId ← readUInt32 rawMessage 36
  let initialId ← readUInt32 rawMessage 32
  let sessionIdentifierSize ← readUInt32 rawMessage 64040
  let sessionIdentifier ← readBytes rawMessage 40 sessionIdentifierSize.toNat
  let _ ← SessionHandler.removeSession initialId
  SessionHandler.addSession completeSessionId s
  let _ ← makeSessionReady s completeSessionId sessionIdentifier

/-- `process_Session_Close_Start`. -/
def processSessionCloseStart (s : SessionRef) (rawMessage : Memory) : Act Unit := do
  let messageId ← readUInt32 rawMessage 20
  let _ ← sendSessionCloseReply s messageId
  let sessionId ← readUInt32 rawMessage 32
  let _ ← SessionHandler.removeSession sessionId
  let _ ← endSession s

/-- `process_Session_Close_Reply`. -/
def processSessionCloseReply (s : SessionRef) (rawMessage : Memory) : Act Unit := do
  let sessionId ← readUInt32 rawMessage 32
  let _ ← SessionHandler.removeSession sessionId
  let _ ← disconnectSession s

/-- `process_Session_Type`. -/
def processSessionType
    (s : SessionRef)
    (header : CommonMessageHeader)
    (rawMessage : Memory) : Act Unit :=
  if header.subType = SessionSubType.initStart.code then processSessionInitStart s rawMessage
  else if header.subType = SessionSubType.initReply.code then processSessionInitReply s rawMessage
  else if header.subType = SessionSubType.closeStart.code then processSessionCloseStart s rawMessage
  else if header.subType = SessionSubType.closeReply.code then processSessionCloseReply s rawMessage
  else pure ()

/-! ## Heartbeats -/

/-- `process_Heartbeat_Start`. -/
def processHeartbeatStart (s : SessionRef) (rawMessage : Memory) : Act Unit := do
  let messageId ← readUInt32 rawMessage 20
  let _ ← sendHeartbeatReply s messageId

/-- `process_Heartbeat_Type`; a reply needs no processing of its own. -/
def processHeartbeatType
    (s : SessionRef)
    (header : CommonMessageHeader)
    (rawMessage : Memory) : Act Unit :=
  if header.subType = HeartbeatSubType.start.code then processHeartbeatStart s rawMessage
  else pure ()

/-! ## Errors -/

/-- The branch of `process_Error_Type` for one error code. -/
def processErrorMessage
    (s : SessionRef)
    (errorCode : ErrorCode)
    (rawMessage : Memory) : Act Unit := do
  let messageSize ← readUInt64 rawMessage 32
  let message ← readBytes rawMessage 40 messageSize.toNat
  Act.emit (.processError s errorCode (.received message))

/-- `process_Error_Type`. -/
def processErrorType
    (s : SessionRef)
    (header : CommonMessageHeader)
    (rawMessage : Memory) : Act Unit := do
  modifySession s (fun x => { x with initState := -1 })
  if header.subType = ErrorSubType.falseVersion.code then
    processErrorMessage s .falseVersion rawMessage
  else if header.subType = ErrorSubType.unknownSession.code then
    processErrorMessage s .unknownSession rawMessage
  else if header.subType = ErrorSubType.invalidMessage.code then
    processErrorMessage s .invalidMessageSize rawMessage
  else pure ()

@[simp] theorem run_readUInt8_bind
    {β : Type}
    (rawMessage : Memory)
    (offset : Nat)
    (f : UInt8 → Act β)
    (p : Process) :
    (readUInt8 rawMessage offset >>= f).run p =
      { (f (rawMessage offset)).run p with
        accesses := .read offset 1 :: ((f (rawMessage offset)).run p).accesses } := rfl

@[simp] theorem run_readUInt32_bind
    {β : Type}
    (rawMessage : Memory)
    (offset : Nat)
    (f : UInt32 → Act β)
    (p : Process) :
    (readUInt32 rawMessage offset >>= f).run p =
      { (f (UInt32.ofNat (rawMessage.word offset 4))).run p with
        accesses := .read offset 4 ::
          ((f (UInt32.ofNat (rawMessage.word offset 4))).run p).accesses } := rfl

@[simp] theorem run_readUInt64_bind
    {β : Type}
    (rawMessage : Memory)
    (offset : Nat)
    (f : UInt64 → Act β)
    (p : Process) :
    (readUInt64 rawMessage offset >>= f).run p =
      { (f (UInt64.ofNat (rawMessage.word offset 8))).run p with
        accesses := .read offset 8 ::
          ((f (UInt64.ofNat (rawMessage.word offset 8))).run p).accesses } := rfl

@[simp] theorem run_readBytes_bind
    {β : Type}
    (rawMessage : Memory)
    (offset size : Nat)
    (f : Bytes → Act β)
    (p : Process) :
    (readBytes rawMessage offset size >>= f).run p =
      { (f (rawMessage.slice offset size)).run p with
        accesses := .read offset size ::
          ((f (rawMessage.slice offset size)).run p).accesses } := rfl

end SakuraNetwork

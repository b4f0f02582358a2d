import SakuraNetwork.Lib.ByteMemory

/-!
# The messages of the session protocol

Every message starts with the common header of 32 bytes and ends with the
common footer of 8 bytes.  The structs are packed, so the layout is the list
of the fields:

* common header: `protocolIdentifier` 0, `version` 4, `type` 5, `subType` 6,
  `flags` 7, `additionalValues` 8, `sessionId` 16, `messageId` 20,
  `totalMessageSize` 24, `payloadSize` 28;
* session init start: `clientSessionId` 32, `sessionIdentifier[64000]` 36,
  `sessionIdentifierSize` 64036, footer 64040;
* session init reply: `clientSessionId` 32, `completeSessionId` 36,
  `sessionIdentifier[64000]` 40, `sessionIdentifierSize` 64040, padding 64044,
  footer 64048;
* session close start and reply: `sessionId` 32, padding 36, footer 40;
* error messages: `messageSize` 32, `message[1048576]` 40, footer 1048616;
* single-block header: `multiblockId` 32, `blockerId` 40, padding 48;
* multi-block header: `totalSize` 32, `multiblockId` 40, `totalPartNumber` 48,
  `partId` 52;
* multi-block finish: `multiblockId` 32, `blockerId` 40, footer 48.

A `Message` is what a send function fills in; `Message.image` is the memory of
the object or buffer it is assembled in, over the memory found there, and
`Message.bytes` is what is handed to the socket.
-/

namespace SakuraNetwork

open Lib

/-- `PROTOCOL_IDENTIFIER`. -/
def protocolIdentifier : UInt32 := 0x6e79616e

/-- `MESSAGE_DELIMITER`. -/
def messageDelimiter : UInt32 := 0x70617375

/-- `MESSAGE_CACHE_SIZE`. -/
def messageCacheSize : Nat := 1024 * 1024

/-- Bytes that bring a size to the next multiple of 8. -/
def fillUp (size : Nat) : Nat := (8 - size % 8) % 8

/-- The build-time setting `MAX_SINGLE_MESSAGE_SIZE`: it is positive, and the
largest message built from it fits the message buffer of the send functions. -/
structure Config where
  maxSingleMessageSize : Nat
  positive : 0 < maxSingleMessageSize
  fits : 56 + maxSingleMessageSize + fillUp maxSingleMessageSize + 8 ≤ messageCacheSize

/-- The default `MAX_SINGLE_MESSAGE_SIZE` of 128 KiB. -/
def Config.default : Config where
  maxSingleMessageSize := 128 * 1024
  positive := by decide
  fits := by decide

/-- `enum types`. -/
inductive MessageType where
  | undefined
  | session
  | heartbeat
  | error
  | streamData
  | singleblockData
  | multiblockData
deriving DecidableEq

/-- The wire value of a message type. -/
def MessageType.code : MessageType → UInt8
  | .undefined => 0
  | .session => 1
  | .heartbeat => 2
  | .error => 3
  | .streamData => 4
  | .singleblockData => 5
  | .multiblockData => 6

/-- `enum session_subTypes`. -/
inductive SessionSubType where
  | initStart
  | initReply
  | closeStart
  | closeReply
deriving DecidableEq

def SessionSubType.code : SessionSubType → UInt8
  | .initStart => 1
  | .initReply => 2
  | .closeStart => 3
  | .closeReply => 4

/-- `enum heartbeat_subTypes`. -/
inductive HeartbeatSubType where
  | start
  | reply
deriving DecidableEq

def HeartbeatSubType.code : HeartbeatSubType → UInt8
  | .start => 1
  | .reply => 2

/-- `enum error_subTypes`. -/
inductive ErrorSubType where
  | falseVersion
  | unknownSession
  | invalidMessage
deriving DecidableEq

def ErrorSubType.code : ErrorSubType → UInt8
  | .falseVersion => 1
  | .unknownSession => 2
  | .invalidMessage => 3

/-- `enum stream_data_subTypes`. -/
inductive StreamDataSubType where
  | static
  | reply
deriving DecidableEq

def StreamDataSubType.code : StreamDataSubType → UInt8
  | .static => 1
  | .reply => 2

/-- `enum singleblock_data_subTypes`. -/
inductive SingleblockDataSubType where
  | data
  | reply
deriving DecidableEq

def SingleblockDataSubType.code : SingleblockDataSubType → UInt8
  | .data => 1
  | .reply => 2

/-- `enum multiblock_data_subTypes`. -/
inductive MultiblockDataSubType where
  | static
  | finish
deriving DecidableEq

def MultiblockDataSubType.code : MultiblockDataSubType → UInt8
  | .static => 1
  | .finish => 2

/-- `enum errorCodes` of a session. -/
inductive ErrorCode where
  | undefinedError
  | falseVersion
  | unknownSession
  | invalidMessageSize
  | messageTimeout
  | multiblockFailed
deriving DecidableEq

/-! ## Header and footer -/

/-- `CommonMessageHeader`. -/
structure CommonMessageHeader where
  protocolIdentifier : UInt32 := SakuraNetwork.protocolIdentifier
  version : UInt8 := 0x1
  type : UInt8 := 0
  subType : UInt8 := 0
  flags : UInt8 := 0
  additionalValues : UInt64 := 0
  sessionId : UInt32 := 0
  messageId : UInt32 := 0
  totalMessageSize : UInt32 := 0
  payloadSize : UInt32 := 0
deriving DecidableEq

namespace CommonMessageHeader

/-- `sizeof(CommonMessageHeader)`. -/
def size : Nat := 32

/-- The header as it lies in memory. -/
def bytes (h : CommonMessageHeader) : Bytes :=
  toLE 4 h.protocolIdentifier.toNat ++ [h.version, h.type, h.subType, h.flags] ++
    toLE 8 h.additionalValues.toNat ++ toLE 4 h.sessionId.toNat ++
    toLE 4 h.messageId.toNat ++ toLE 4 h.totalMessageSize.toNat ++
    toLE 4 h.payloadSize.toNat

@[simp] theorem bytes_length (h : CommonMessageHeader) : h.bytes.length = 32 := by
  simp [bytes]

/-- The header seen through a pointer to memory. -/
def ofMemory (m : Memory) : CommonMessageHeader where
  protocolIdentifier := UInt32.ofNat (m.word 0 4)
  version := m 4
  type := m 5
  subType := m 6
  flags := m 7
  additionalValues := UInt64.ofNat (m.word 8 8)
  sessionId := UInt32.ofNat (m.word 16 4)
  messageId := UInt32.ofNat (m.word 20 4)
  totalMessageSize := UInt32.ofNat (m.word 24 4)
  payloadSize := UInt32.ofNat (m.word 28 4)

end CommonMessageHeader

/-- `CommonMessageFooter` as it lies in memory. -/
def footerBytes : Bytes :=
  toLE 4 0 ++ toLE 4 messageDelimiter.toNat

@[simp] theorem footerBytes_length : footerBytes.length = 8 := rfl

/-! ## Messages -/

/-- What a send function puts into a message besides the two ids of the common
header. -/
inductive Body where
  | sessionInitStart (clientSessionId : UInt32) (sessionIdentifier : Bytes)
  | sessionInitReply (clientSessionId completeSessionId : UInt32) (sessionIdentifier : Bytes)
  | sessionCloseStart (replyExpected : Bool)
  | sessionCloseReply
  | heartbeatStart
  | heartbeatReply
  | error (subType : ErrorSubType) (message : Bytes)
  | stream (replyExpected : Bool) (data : Bytes)
  | streamReply
  | singleBlock (multiblockId blockerId : UInt64) (data : Bytes)
  | singleBlockReply
  | multiStatic (totalSize multiblockId : UInt64) (totalPartNumber partId : UInt32)
      (data : Bytes) (blockerId : UInt64)
  | multiFinish (multiblockId blockerId : UInt64)
deriving DecidableEq

namespace Body

/-- The messages of the handshake, which carry the ids of a new session. -/
def opensSession : Body → Bool
  | sessionInitStart .. | sessionInitReply .. => true
  | _ => false

/-- Not a message of the handshake. -/
def Plain (b : Body) : Prop :=
  b.opensSession = false

/-- The message type a message constructor writes. -/
def type : Body → MessageType
  | sessionInitStart .. | sessionInitReply .. | sessionCloseStart .. | sessionCloseReply => .session
  | heartbeatStart | heartbeatReply => .heartbeat
  | error .. => .error
  | stream .. | streamReply => .streamData
  | singleBlock .. | singleBlockReply => .singleblockData
  | multiStatic .. | multiFinish .. => .multiblockData

/-- The subtype a message constructor writes. -/
def subType : Body → UInt8
  | sessionInitStart .. => SessionSubType.initStart.code
  | sessionInitReply .. => SessionSubType.initReply.code
  | sessionCloseStart .. => SessionSubType.closeStart.code
  | sessionCloseReply => SessionSubType.closeReply.code
  | heartbeatStart => HeartbeatSubType.start.code
  | heartbeatReply => HeartbeatSubType.reply.code
  | error subType _ => subType.code
  | stream .. => StreamDataSubType.static.code
  | streamReply => StreamDataSubType.reply.code
  | singleBlock .. => SingleblockDataSubType.data.code
  | singleBlockReply => SingleblockDataSubType.reply.code
  | multiStatic .. => MultiblockDataSubType.static.code
  | multiFinish .. => MultiblockDataSubType.finish.code

/-- The flag 0x8 of a message with a blocker-id. -/
def responseFlag (blockerId : UInt64) : UInt8 :=
  if blockerId != 0 then 0x8 else 0x0

/-- The flags: 0x1 reply required, 0x2 is reply, 0x8 is response. -/
def flags : Body → UInt8
  | sessionInitStart .. => 0x1
  | sessionInitReply .. => 0x2
  | sessionCloseStart replyExpected => if replyExpected then 0x1 else 0x0
  | sessionCloseReply => 0x2
  | heartbeatStart => 0x1
  | heartbeatReply => 0x2
  | error .. => 0x0
  | stream replyExpected _ => if replyExpected then 0x1 else 0x0
  | streamReply => 0x2
  | singleBlock _ blockerId _ => 0x1 ||| responseFlag blockerId
  | singleBlockReply => 0x2
  | multiStatic _ _ _ _ _ blockerId => 0x0 ||| responseFlag blockerId
  | multiFinish _ blockerId => 0x0 ||| responseFlag blockerId

/-- The payload size as the send functions receive it. -/
def payloadSize : Body → UInt32
  | stream _ data => UInt32.ofNat data.length
  | singleBlock _ _ data => UInt32.ofNat data.length
  | multiStatic _ _ _ _ data _ => UInt32.ofNat data.length
  | _ => 0

/-- `totalMessageSize` of a data message: header, payload brought to a multiple
of 8, footer. -/
def paddedMessageSize (headerSize : Nat) (size : UInt32) : UInt32 :=
  UInt32.ofNat headerSize + size + (8 - size % 8) % 8 + 8

/-- `totalMessageSize`: the struct size, or the size computed for the payload. -/
def totalMessageSize : Body → UInt32
  | sessionInitStart .. => 64048
  | sessionInitReply .. => 64056
  | sessionCloseStart .. | sessionCloseReply => 48
  | heartbeatStart | heartbeatReply => 40
  | error .. => 1048624
  | stream _ data => paddedMessageSize 32 (UInt32.ofNat data.length)
  | streamReply => 40
  | singleBlock _ _ data => paddedMessageSize 52 (UInt32.ofNat data.length)
  | singleBlockReply => 40
  | multiStatic _ _ _ _ data _ => paddedMessageSize 56 (UInt32.ofNat data.length)
  | multiFinish .. => 56

end Body

/-- A message: the ids of its header and what the send function filled in. -/
structure Message where
  sessionId : UInt32
  messageId : UInt32
  body : Body
deriving DecidableEq

namespace Message

/-- The common header of a message. -/
def commonHeader (m : Message) : CommonMessageHeader where
  type := m.body.type.code
  subType := m.body.subType
  flags := m.body.flags
  sessionId := m.sessionId
  messageId := m.messageId
  totalMessageSize := m.body.totalMessageSize
  payloadSize := m.body.payloadSize

/-- The memory a message is assembled in, over the memory found there.  The
explicit paddings, the unused rest of the fixed arrays and the bytes between
payload and footer are not written. -/
def image (found : Memory) (m : Message) : Memory :=
  let start := found.store 0 m.commonHeader.bytes
  match m.body with
  | .sessionInitStart clientSessionId identifier =>
      (((start.store 64040 footerBytes).store 32 (toLE 4 clientSessionId.toNat)).store 64036
        (toLE 4 (UInt32.ofNat identifier.length).toNat)).store 36 identifier
  | .sessionInitReply clientSessionId completeSessionId identifier =>
      ((((start.store 64048 footerBytes).store 36 (toLE 4 completeSessionId.toNat)).store 32
        (toLE 4 clientSessionId.toNat)).store 64040
        (toLE 4 (UInt32.ofNat identifier.length).toNat)).store 40 identifier
  | .sessionCloseStart _ | .sessionCloseReply =>
      (start.store 32 (toLE 4 0)).store 40 footerBytes
  | .heartbeatStart | .heartbeatReply | .streamReply | .singleBlockReply =>
      start.store 32 footerBytes
  | .error _ message =>
      ((start.store 1048616 footerBytes).store 32
        (toLE 8 (UInt64.ofNat message.length).toNat)).store 40 message
  | .stream _ data =>
      (start.store 32 data).store (m.body.totalMessageSize.toNat - 8) footerBytes
  | .singleBlock multiblockId blockerId data =>
      (((start.store 32 (toLE 8 multiblockId.toNat)).store 40 (toLE 8 blockerId.toNat)).store 52
        data).store (m.body.totalMessageSize.toNat - 8) footerBytes
  | .multiStatic totalSize multiblockId totalPartNumber partId data _ =>
      (((((start.store 32 (toLE 8 totalSize.toNat)).store 40 (toLE 8 multiblockId.toNat)).store 48
        (toLE 4 totalPartNumber.toNat)).store 52 (toLE 4 partId.toNat)).store 56
        data).store (m.body.totalMessageSize.toNat - 8) footerBytes
  | .multiFinish multiblockId blockerId =>
      ((start.store 32 (toLE 8 multiblockId.toNat)).store 40 (toLE 8 blockerId.toNat)).store 48
        footerBytes

/-- The bytes handed to the socket. -/
def bytes (found : Memory) (m : Message) : Bytes :=
  (m.image found).slice 0 m.body.totalMessageSize.toNat

/-- `flags & 0x1`: the message expects a reply. -/
def replyRequired (m : Message) : Bool :=
  m.body.flags &&& 0x1 != 0

/-- `flags & 0x2`: the message is a reply. -/
def isReply (m : Message) : Bool :=
  m.body.flags &&& 0x2 != 0

end Message

end SakuraNetwork

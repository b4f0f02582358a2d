import SakuraNetwork.MessagesProcessing.DataProcessing

/-!
# `processMessage`: from the receive buffer to the handlers

The receive buffer gives a pointer to its first unread bytes, if there are
enough of them.  What lies in memory behind the unread bytes is arbitrary.
-/

namespace SakuraNetwork

open Lib

/-- The unread bytes of the receive buffer, and the memory behind them. -/
structure RingBuffer where
  unread : Bytes
  beyond : Memory

namespace RingBuffer

/-- The memory from the first unread byte on. -/
def memory (buf : RingBuffer) : Memory :=
  buf.beyond.store 0 buf.unread

/-- `getObject_RingBuffer<CommonMessageHeader>`. -/
def getObject (buf : RingBuffer) : Option CommonMessageHeader :=
  if CommonMessageHeader.size ≤ buf.unread.length then
    some (CommonMessageHeader.ofMemory buf.memory)
  else none

/-- `getDataPointer_RingBuffer`. -/
def getDataPointer (buf : RingBuffer) (size : Nat) : Option Memory :=
  if size ≤ buf.unread.length then some buf.memory else none

end RingBuffer

/-- How `processMessage` ends: it returns the number of bytes taken from the
buffer, or an assertion fails. -/
inductive Processed where
  | taken (bytes : Nat)
  | assertFailed
deriving DecidableEq

/-- The offset of the delimiter: `(totalMessageSize / 4) - 1` words. -/
def endPosition (totalMessageSize : UInt32) : Nat :=
  4 * (totalMessageSize / 4 - 1).toNat

/-- The handler for the type of a message, or `none` for an unknown type. -/
def processByType
    (s : SessionRef)
    (header : CommonMessageHeader)
    (rawMessage : Memory) : Option (Act Unit) :=
  if header.type = MessageType.streamData.code then
    some (processStreamDataType s header rawMessage)
  else if header.type = MessageType.singleblockData.code then
    some (processSingleBlockDataType s header rawMessage)
  else if header.type = MessageType.multiblockData.code then
    some (processMultiBlockDataType s header rawMessage)
  else if header.type = MessageType.session.code then
    some (processSessionType s header rawMessage)
  else if header.type = MessageType.heartbeat.code then
    some (processHeartbeatType s header rawMessage)
  else if header.type = MessageType.error.code then
    some (processErrorType s header rawMessage)
  else none

/-- The part of `processMessage` behind the delimiter check. -/
def processFrame
    (s : SessionRef)
    (header : CommonMessageHeader)
    (rawMessage : Memory) : Act Processed := do
  if header.flags &&& 0x2 != 0 then
    let _ ← ReplyHandler.removeMessage header.sessionId header.messageId
  match processByType s header rawMessage with
  | none => pure (.taken 0)
  | some handler => do
      handler
      pure (.taken header.totalMessageSize.toNat)

/-- `processMessage`. -/
def processMessage (cfg : Config) (s : SessionRef) (recvBuffer : RingBuffer) : Act Processed :=
  match recvBuffer.getObject with
  | none => pure (.taken 0)
  | some header =>
      if header.protocolIdentifier != protocolIdentifier then do
        let _ ← closeSession s
        pure (.taken 0)
      else if header.version != 0x1 then do
        let _ ← sendErrorMessage cfg s .falseVersion []
        pure (.taken 0)
      else
        match recvBuffer.getDataPointer header.totalMessageSize.toNat with
        | none => pure (.taken 0)
        | some rawMessage => do
            let delimiter ← readUInt32 rawMessage (endPosition header.totalMessageSize)
            if delimiter != messageDelimiter then do
              let _ ← sendErrorMessage cfg s .falseVersion []
              pure .assertFailed
            else processFrame s header rawMessage

/-! ## Obtaining a frame -/

/-- The header at the front of a frame. -/
abbrev headerOf (rawMessage : Memory) : CommonMessageHeader :=
  CommonMessageHeader.ofMemory rawMessage

/-- The word at the place of the delimiter. -/
def delimiterOf (header : CommonMessageHeader) (rawMessage : Memory) : UInt32 :=
  UInt32.ofNat (rawMessage.word (endPosition header.totalMessageSize) 4)

/-- `processMessage` gets as far as a frame of the announced size. -/
structure ObtainsFrame (buf : RingBuffer) (header : CommonMessageHeader) : Prop where
  object : buf.getObject = some header
  protocol : header.protocolIdentifier = protocolIdentifier
  version : header.version = 0x1
  frame : header.totalMessageSize.toNat ≤ buf.unread.length

namespace ObtainsFrame

variable {buf : RingBuffer} {header : CommonMessageHeader}

theorem header_eq
    (h : ObtainsFrame buf header) :
    header = headerOf buf.memory := by
  have hget := h.object
  unfold RingBuffer.getObject at hget
  split at hget
  · exact (Option.some.inj hget).symm
  · cases hget

/-- A frame with the right delimiter is given to its handler. -/
theorem run_processMessage
    (h : ObtainsFrame buf header)
    (cfg : Config)
    (s : SessionRef)
    (p : Process)
    (hdelimiter : delimiterOf header buf.memory = messageDelimiter) :
    (processMessage cfg s buf).run p =
      { (processFrame s header buf.memory).run p with
        accesses := .read (endPosition header.totalMessageSize) 4 ::
          ((processFrame s header buf.memory).run p).accesses } := by
  have hpointer : buf.getDataPointer header.totalMessageSize.toNat = some buf.memory := by
    simp [RingBuffer.getDataPointer, h.frame]
  rw [delimiterOf] at hdelimiter
  simp [processMessage, h.object, h.protocol, h.version, hpointer, hdelimiter]

/-- A frame with a wrong delimiter is answered by an error message, and the
assertion fails. -/
theorem run_processMessage_mismatch
    (h : ObtainsFrame buf header)
    (cfg : Config)
    (s : SessionRef)
    (p : Process)
    (hdelimiter : delimiterOf header buf.memory ≠ messageDelimiter) :
    (processMessage cfg s buf).run p =
      { value := .assertFailed
        process := ((sendErrorMessage cfg s .falseVersion []).run p).process
        outputs := ((sendErrorMessage cfg s .falseVersion []).run p).outputs
        accesses := .read (endPosition header.totalMessageSize) 4 ::
          ((sendErrorMessage cfg s .falseVersion []).run p).accesses } := by
  have hpointer : buf.getDataPointer header.totalMessageSize.toNat = some buf.memory := by
    simp [RingBuffer.getDataPointer, h.frame]
  rw [delimiterOf] at hdelimiter
  simp [processMessage, h.object, h.protocol, h.version, hpointer, hdelimiter]

end ObtainsFrame

end SakuraNetwork

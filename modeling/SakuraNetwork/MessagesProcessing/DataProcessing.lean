import SakuraNetwork.MessagesProcessing.SessionProcessing

/-!
# Processing of stream, single-block and multi-block messages
-/

namespace SakuraNetwork

open Lib

/-! ## Stream messages -/

/-- `process_Data_Stream`: the callback gets a pointer behind the header and the
payload size. -/
def processDataStream (s : SessionRef) (rawMessage : Memory) : Act Unit := do
  let payloadSize ← readUInt32 rawMessage 28
  let payload ← readBytes rawMessage 32 payloadSize.toNat
  Act.emit (.processStreamData s payload)
  let flags ← readUInt8 rawMessage 7
  if flags &&& 0x1 != 0 then
    let messageId ← readUInt32 rawMessage 20
    let _ ← sendDataStreamReply s messageId

/-- `process_Stream_Data_Type`; a reply needs no processing of its own. -/
def processStreamDataType
    (s : SessionRef)
    (header : CommonMessageHeader)
    (rawMessage : Memory) : Act Unit :=
  if header.subType = StreamDataSubType.static.code then processDataStream s rawMessage
  else pure ()

/-! ## Single-block messages -/

/-- `process_Data_SingleBlock`: a response is handed to the blocked request, other
data to the callback. -/
def processDataSingleBlock (s : SessionRef) (rawMessage : Memory) : Act Unit := do
  let payloadSize ← readUInt32 rawMessage 28
  let payload ← readBytes rawMessage 52 payloadSize.toNat
  let flags ← readUInt8 rawMessage 7
  if flags &&& 0x8 != 0 then do
    let blockerId ← readUInt64 rawMessage 40
    let _ ← MessageBlockerHandler.releaseMessage blockerId (some payload)
  else do
    let multiblockId ← readUInt64 rawMessage 32
    Act.emit (.processRequestData s multiblockId (some payload))
  if flags &&& 0x1 != 0 then
    let messageId ← readUInt32 rawMessage 20
    let _ ← sendDataSingleBlockReply s messageId

/-- `process_SingleBlock_Data_Type`; a reply needs no processing of its own. -/
def processSingleBlockDataType
    (s : SessionRef)
    (header : CommonMessageHeader)
    (rawMessage : Memory) : Act Unit :=
  if header.subType = SingleblockDataSubType.data.code then processDataSingleBlock s rawMessage
  else pure ()

/-! ## Multi-block messages -/

/-- `process_Data_Multiblock`: part 0 creates the buffer, every part is appended. -/
def processDataMultiblock (s : SessionRef) (rawMessage : Memory) : Act Unit := do
  let partId ← readUInt32 rawMessage 52
  if partId = 0 then
    let multiblockId ← readUInt64 rawMessage 40
    let totalSize ← readUInt64 rawMessage 32
    let _ ← MultiblockIo.createIncomingBuffer s multiblockId totalSize
  let multiblockId ← readUInt64 rawMessage 40
  let payloadSize ← readUInt32 rawMessage 28
  let _ ← MultiblockIo.writeIntoIncomingBuffer s multiblockId
    (readBytes rawMessage 56 payloadSize.toNat)

/-- `process_Data_Multi_Finish`: the buffer, or the null pointer where there is
none, is handed on, and removed from the map. -/
def processDataMultiFinish (s : SessionRef) (rawMessage : Memory) : Act Unit := do
  let multiblockId ← readUInt64 rawMessage 32
  let buffer ← MultiblockIo.getIncomingBuffer s multiblockId
  let flags ← readUInt8 rawMessage 7
  if flags &&& 0x8 != 0 then do
    let blockerId ← readUInt64 rawMessage 40
    let _ ← MessageBlockerHandler.releaseMessage blockerId buffer.incomingData
  else
    Act.emit (.processRequestData s multiblockId buffer.incomingData)
  let _ ← MultiblockIo.removeMultiblockBuffer s multiblockId

/-- `process_MultiBlock_Data_Type`. -/
def processMultiBlockDataType
    (s : SessionRef)
    (header : CommonMessageHeader)
    (rawMessage : Memory) : Act Unit :=
  if header.subType = MultiblockDataSubType.static.code then processDataMultiblock s rawMessage
  else if header.subType = MultiblockDataSubType.finish.code then
    processDataMultiFinish s rawMessage
  else pure ()

end SakuraNetwork

import SakuraNetwork.Callbacks

/-!
# What the receiver makes of a frame of the library

`Message.handle` says what a received message does, in terms of what the sender
put into it.  A frame is encoded by storing the fields of its struct over
whatever the memory held before; the handlers read the fields back at the same
offsets, and `processMessage` on the encoded frame does what `Message.handle`
says.

* `Message.headerOf_image`, `Message.delimiterOf_image`: the common header and the
  delimiter of an encoded frame.
* `processMessage_bytes`: the handler of the frame gets the values of the sender,
  and exactly the bytes of the frame are taken.
* `processMessage_incomplete`: a beginning of a frame has no effect.
-/

namespace SakuraNetwork

open Lib

/-- What the send functions guarantee about the sizes of a message: identifiers
fit the fixed field, data fit one block, error texts leave a byte free. -/
def Body.Sendable (cfg : Config) : Body → Prop
  | .sessionInitStart _ identifier => identifier.length ≤ 64000
  | .sessionInitReply _ _ identifier => identifier.length ≤ 64000
  | .error _ message => message.length ≤ cfg.maxSingleMessageSize - 1
  | .stream _ data => data.length ≤ cfg.maxSingleMessageSize
  | .singleBlock _ _ data => data.length ≤ cfg.maxSingleMessageSize
  | .multiStatic _ _ _ _ data _ => data.length ≤ cfg.maxSingleMessageSize
  | _ => True

/-! ## The meaning of a message -/

/-- The error code a message subtype stands for. -/
def ErrorSubType.errorCode : ErrorSubType → ErrorCode
  | .falseVersion => .falseVersion
  | .unknownSession => .unknownSession
  | .invalidMessage => .invalidMessageSize

/-- What a received message does, besides removing a pending message. -/
def Body.handle (s : SessionRef) (messageId : UInt32) : Body → Act Unit
  | .sessionInitStart clientSessionId identifier => do
      let serverSessionId ← SessionHandler.increaseSessionIdCounter
      let sessionId := completeSessionId clientSessionId serverSessionId
      SessionHandler.addSession sessionId s
      let _ ← connectiSession s sessionId
      let _ ← makeSessionReady s sessionId identifier
      let _ ← sendSessionInitReply s clientSessionId messageId sessionId identifier
  | .sessionInitReply clientSessionId completeSessionId identifier => do
      let _ ← SessionHandler.removeSession clientSessionId
      SessionHandler.addSession completeSessionId s
      let _ ← makeSessionReady s completeSessionId identifier
  | .sessionCloseStart _ => do
      let _ ← sendSessionCloseReply s messageId
      let _ ← SessionHandler.removeSession 0
      let _ ← endSession s
  | .sessionCloseReply => do
      let _ ← SessionHandler.removeSession 0
      let _ ← disconnectSession s
  | .heartbeatStart => do
      let _ ← sendHeartbeatReply s messageId
  | .heartbeatReply => pure ()
  | .error subType message => do
      modifySession s (fun x => { x with initState := -1 })
      Act.emit (.processError s subType.errorCode (.received message))
  | .stream replyExpected data => do
      Act.emit (.processStreamData s data)
      if replyExpected then
        let _ ← sendDataStreamReply s messageId
  | .streamReply => pure ()
  | .singleBlock multiblockId blockerId data => do
      if blockerId != 0 then
        let _ ← MessageBlockerHandler.releaseMessage blockerId (some data)
      else
        Act.emit (.processRequestData s multiblockId (some data))
      let _ ← sendDataSingleBlockReply s messageId
  | .singleBlockReply => pure ()
  | .multiStatic totalSize multiblockId _ partId data _ => do
      if partId = 0 then
        let _ ← MultiblockIo.createIncomingBuffer s multiblockId totalSize
      let _ ← MultiblockIo.writeIntoIncomingBuffer s multiblockId (pure data)
  | .multiFinish multiblockId blockerId => do
      let buffer ← MultiblockIo.getIncomingBuffer s multiblockId
      if blockerId != 0 then
        let _ ← MessageBlockerHandler.releaseMessage blockerId buffer.incomingData
      else
        Act.emit (.processRequestData s multiblockId buffer.incomingData)
      let _ ← MultiblockIo.removeMultiblockBuffer s multiblockId

/-- What a received message does. -/
def Message.handle (s : SessionRef) (m : Message) : Act Unit := do
  if m.isReply then
    let _ ← ReplyHandler.removeMessage m.sessionId m.messageId
  m.body.handle s m.messageId

/-- Only a reply touches the pending messages. -/
theorem Message.handle_of_not_reply
    {m : Message}
    (h : m.isReply = false)
    (s : SessionRef) :
    m.handle s = m.body.handle s m.messageId := by
  rw [Message.handle, h]
  rfl

/-- Data messages are not replies, whether or not they carry a blocker-id. -/
theorem Body.responseFlag_and_two (blockerId : UInt64) :
    Body.responseFlag blockerId &&& 0x2 = 0 := by
  unfold Body.responseFlag
  split <;> rfl

theorem Message.isReply_multiFinish
    (sessionId messageId : UInt32)
    (multiblockId blockerId : UInt64) :
    (Message.mk sessionId messageId (.multiFinish multiblockId blockerId)).isReply = false := by
  have hflag := Body.responseFlag_and_two blockerId
  simp [Message.isReply, Body.flags, hflag]

theorem Message.isReply_multiStatic
    (sessionId messageId : UInt32)
    (totalSize multiblockId : UInt64)
    (totalPartNumber partId : UInt32)
    (data : Bytes)
    (blockerId : UInt64) :
    (Message.mk sessionId messageId
      (.multiStatic totalSize multiblockId totalPartNumber partId data blockerId)).isReply =
        false := by
  have hflag := Body.responseFlag_and_two blockerId
  simp [Message.isReply, Body.flags, hflag]

theorem Message.isReply_singleBlock
    (sessionId messageId : UInt32)
    (multiblockId blockerId : UInt64)
    (data : Bytes) :
    (Message.mk sessionId messageId (.singleBlock multiblockId blockerId data)).isReply =
      false := by
  have hflag : (1 ||| Body.responseFlag blockerId) &&& 0x2 = 0 := by
    unfold Body.responseFlag
    split <;> rfl
  simp [Message.isReply, Body.flags, hflag]

/-! ## Sizes -/

theorem Config.maxSingleMessageSize_lt (cfg : Config) :
    cfg.maxSingleMessageSize < 1048576 := by
  have h := cfg.fits
  simp only [messageCacheSize] at h
  omega

/-- The total size of a data message: header, padded payload and footer. -/
theorem Body.toNat_paddedMessageSize
    {headerSize size : Nat}
    (hheader : headerSize ≤ 56)
    (hsize : size < 1048576) :
    (Body.paddedMessageSize headerSize (UInt32.ofNat size)).toNat =
      headerSize + size + fillUp size + 8 := by
  have hmod : (UInt32.ofNat size).toNat = size := by
    rw [UInt32.toNat_ofNat', Nat.mod_eq_of_lt (by omega)]
  have hfill : (8 - UInt32.ofNat size % 8 : UInt32).toNat = 8 - size % 8 := by
    rw [UInt32.toNat_sub, UInt32.toNat_mod, hmod]
    have : (8 : UInt32).toNat = 8 := rfl
    rw [this]
    omega
  simp only [Body.paddedMessageSize, UInt32.toNat_add, UInt32.toNat_mod, hfill, hmod,
    UInt32.toNat_ofNat', fillUp]
  have : (8 : UInt32).toNat = 8 := rfl
  rw [this]
  omega

/-- The number of bytes of a message. -/
def Body.frameSize : Body → Nat
  | .sessionInitStart .. => 64048
  | .sessionInitReply .. => 64056
  | .sessionCloseStart .. | .sessionCloseReply => 48
  | .heartbeatStart | .heartbeatReply | .streamReply | .singleBlockReply => 40
  | .error .. => 1048624
  | .stream _ data => 32 + data.length + fillUp data.length + 8
  | .singleBlock _ _ data => 52 + data.length + fillUp data.length + 8
  | .multiStatic _ _ _ _ data _ => 56 + data.length + fillUp data.length + 8
  | .multiFinish .. => 56

theorem fillUp_mod (size : Nat) : (size + fillUp size) % 8 = 0 := by
  unfold fillUp
  omega

theorem Body.frameSize_ge (b : Body) : 40 ≤ b.frameSize := by
  unfold Body.frameSize
  split <;> omega

theorem Body.frameSize_mod (b : Body) : b.frameSize % 4 = 0 := by
  unfold Body.frameSize
  split
  · rfl
  · rfl
  · rfl
  · rfl
  · rfl
  · rfl
  · rfl
  · rfl
  · rfl
  · rename_i data
    have h := fillUp_mod data.length
    omega
  · rename_i data
    have h := fillUp_mod data.length
    omega
  · rename_i data _
    have h := fillUp_mod data.length
    omega
  · rfl

/-- The total size in the header is the number of bytes of the message. -/
theorem Body.Sendable.toNat_totalMessageSize
    {cfg : Config}
    {b : Body}
    (h : b.Sendable cfg) :
    b.totalMessageSize.toNat = b.frameSize := by
  have hmax := cfg.maxSingleMessageSize_lt
  cases b with
  | stream replyExpected data =>
      have hdata : data.length ≤ cfg.maxSingleMessageSize := h
      exact Body.toNat_paddedMessageSize (by omega) (by omega)
  | singleBlock multiblockId blockerId data =>
      have hdata : data.length ≤ cfg.maxSingleMessageSize := h
      exact Body.toNat_paddedMessageSize (by omega) (by omega)
  | multiStatic totalSize multiblockId totalPartNumber partId data blockerId =>
      have hdata : data.length ≤ cfg.maxSingleMessageSize := h
      exact Body.toNat_paddedMessageSize (by omega) (by omega)
  | _ => rfl

theorem Message.bytes_length
    {cfg : Config}
    {m : Message}
    (h : m.body.Sendable cfg)
    (found : Memory) :
    (m.bytes found).length = m.body.frameSize := by
  rw [Message.bytes, Memory.slice_length, h.toNat_totalMessageSize]

/-! ## Reading the common header -/

/-- The header is determined by the first 32 bytes. -/
theorem headerOf_congr
    {raw raw' : Memory}
    (h : ∀ i, i < 32 → raw i = raw' i) :
    headerOf raw = headerOf raw' := by
  have hword : ∀ o w, o + w ≤ 32 → raw.word o w = raw'.word o w := by
    intro o w how
    rw [Memory.word, Memory.word]
    congr 1
    exact Memory.slice_congr (fun i hi => h (o + i) (by omega))
  simp only [CommonMessageHeader.ofMemory, hword 0 4 (by omega), hword 8 8 (by omega),
    hword 16 4 (by omega), hword 20 4 (by omega), hword 24 4 (by omega), hword 28 4 (by omega),
    h 4 (by omega), h 5 (by omega), h 6 (by omega), h 7 (by omega)]

/-- A stored header is read back. -/
theorem headerOf_store (found : Memory) (h : CommonMessageHeader) :
    headerOf (found.store 0 h.bytes) = h := by
  have hword : ∀ o w n, (h.bytes.drop o).take w = toLE w n → o + w ≤ 32 → n < 256 ^ w →
      (found.store 0 h.bytes).word o w = n := by
    intro o w n hbytes how hn
    rw [Memory.word, Memory.slice_store_inside _ _ _ (by omega) (by simpa using how),
      Nat.sub_zero, hbytes, ofLE_toLE hn]
  have hbyte : ∀ i, i < 32 → (found.store 0 h.bytes) i = h.bytes.getD i 0 := by
    intro i hi
    simp [Memory.store, hi]
  have hprotocol := hword 0 4 h.protocolIdentifier.toNat (by simp [CommonMessageHeader.bytes, toLE])
    (by omega) h.protocolIdentifier.toNat_lt
  have hadditional := hword 8 8 h.additionalValues.toNat (by simp [CommonMessageHeader.bytes, toLE])
    (by omega) h.additionalValues.toNat_lt
  have hsession := hword 16 4 h.sessionId.toNat (by simp [CommonMessageHeader.bytes, toLE])
    (by omega) h.sessionId.toNat_lt
  have hmessage := hword 20 4 h.messageId.toNat (by simp [CommonMessageHeader.bytes, toLE])
    (by omega) h.messageId.toNat_lt
  have htotal := hword 24 4 h.totalMessageSize.toNat (by simp [CommonMessageHeader.bytes, toLE])
    (by omega) h.totalMessageSize.toNat_lt
  have hpayload := hword 28 4 h.payloadSize.toNat (by simp [CommonMessageHeader.bytes, toLE])
    (by omega) h.payloadSize.toNat_lt
  have hversion : h.bytes.getD 4 0 = h.version := by simp [CommonMessageHeader.bytes, toLE]
  have htype : h.bytes.getD 5 0 = h.type := by simp [CommonMessageHeader.bytes, toLE]
  have hsubType : h.bytes.getD 6 0 = h.subType := by simp [CommonMessageHeader.bytes, toLE]
  have hflags : h.bytes.getD 7 0 = h.flags := by simp [CommonMessageHeader.bytes, toLE]
  simp only [CommonMessageHeader.ofMemory, hprotocol, hadditional, hsession, hmessage, htotal,
    hpayload, hbyte 4 (by omega), hbyte 5 (by omega), hbyte 6 (by omega), hbyte 7 (by omega),
    hversion, htype, hsubType, hflags, UInt32.ofNat_toNat, UInt64.ofNat_toNat]

namespace Message

/-- Nothing is written over the common header of a message. -/
theorem headerOf_image
    {cfg : Config}
    {m : Message}
    (h : m.body.Sendable cfg)
    (found : Memory) :
    headerOf (m.image found) = m.commonHeader := by
  have htotal := h.toNat_totalMessageSize
  have hge := m.body.frameSize_ge
  rw [← headerOf_store found m.commonHeader]
  refine headerOf_congr ?_
  intro i hi
  obtain ⟨sessionId, messageId, body⟩ := m
  cases body <;> dsimp only at htotal hge <;>
    simp (disch := omega) only [image, Memory.store_apply_of_lt]

/-- The footer is the last thing in the frame. -/
theorem slice_image_footer
    {cfg : Config}
    {m : Message}
    (h : m.body.Sendable cfg)
    (found : Memory) :
    (m.image found).slice (m.body.frameSize - 8) 8 = footerBytes := by
  have htotal := h.toNat_totalMessageSize
  have hsame : ∀ (mem : Memory) (off : Nat),
      (mem.store off footerBytes).slice off 8 = footerBytes :=
    fun mem off => Memory.slice_store_same mem off footerBytes
  obtain ⟨sessionId, messageId, body⟩ := m
  cases body with
  | sessionInitStart clientSessionId identifier =>
      have hlen : identifier.length ≤ 64000 := h
      simp only [image, Body.frameSize]
      rw [Memory.slice_store_after _ _ _ (by omega), Memory.slice_store_after _ _ _ (by simp),
        Memory.slice_store_after _ _ _ (by simp), hsame]
  | sessionInitReply clientSessionId completeSessionId identifier =>
      have hlen : identifier.length ≤ 64000 := h
      simp only [image, Body.frameSize]
      rw [Memory.slice_store_after _ _ _ (by omega), Memory.slice_store_after _ _ _ (by simp),
        Memory.slice_store_after _ _ _ (by simp), Memory.slice_store_after _ _ _ (by simp), hsame]
  | error subType message =>
      have hlen : message.length ≤ cfg.maxSingleMessageSize - 1 := h
      have hmax := cfg.maxSingleMessageSize_lt
      simp only [image, Body.frameSize]
      rw [Memory.slice_store_after _ _ _ (by omega), Memory.slice_store_after _ _ _ (by simp),
        hsame]
  | stream replyExpected data =>
      simp only [image, htotal, hsame]
  | singleBlock multiblockId blockerId data =>
      simp only [image, htotal, hsame]
  | multiStatic totalSize multiblockId totalPartNumber partId data blockerId =>
      simp only [image, htotal, hsame]
  | _ => exact hsame _ _

/-- The delimiter is found at the place where the receiver looks for it. -/
theorem delimiterOf_image
    {cfg : Config}
    {m : Message}
    (h : m.body.Sendable cfg)
    (found : Memory) :
    endPosition m.body.totalMessageSize + 4 = m.body.frameSize ∧
      delimiterOf m.commonHeader (m.image found) = messageDelimiter := by
  have htotal := h.toNat_totalMessageSize
  have hge := m.body.frameSize_ge
  have hmod := m.body.frameSize_mod
  have hend : endPosition m.body.totalMessageSize = m.body.frameSize - 8 + 4 := by
    have hlt := m.body.totalMessageSize.toNat_lt
    simp only [endPosition, UInt32.toNat_sub, UInt32.toNat_div, UInt32.reduceToNat, htotal]
    omega
  refine ⟨by omega, ?_⟩
  have hfooter := slice_image_footer h found
  have hsplit := Memory.slice_add (m.image found) (m.body.frameSize - 8) 4 4
  rw [hfooter] at hsplit
  have hword : (m.image found).slice (m.body.frameSize - 8 + 4) 4 =
      toLE 4 messageDelimiter.toNat := by
    have hdrop := congrArg (List.drop 4) hsplit
    rw [List.drop_left' (by simp)] at hdrop
    exact hdrop.symm
  have htotalHeader : m.commonHeader.totalMessageSize = m.body.totalMessageSize := rfl
  rw [delimiterOf, htotalHeader, hend, Memory.word, hword, ofLE_toLE messageDelimiter.toNat_lt,
    UInt32.ofNat_toNat]

end Message

/-! ## The handlers on a frame of the library -/

/-- The memory `raw` starts with the frame of a message. -/
structure Holds (raw : Memory) (found : Memory) (m : Message) : Prop where
  slice : ∀ o len, o + len ≤ m.body.frameSize → raw.slice o len = (m.image found).slice o len
  header : headerOf raw = m.commonHeader
  delimiter : delimiterOf m.commonHeader raw = messageDelimiter

namespace Holds

variable {cfg : Config} {raw found : Memory} {m : Message}

theorem word
    (h : Holds raw found m)
    {o w : Nat}
    (hle : o + w ≤ m.body.frameSize) :
    raw.word o w = (m.image found).word o w := by
  rw [Memory.word, Memory.word, h.slice o w hle]

theorem flags (h : Holds raw found m) : raw 7 = m.body.flags :=
  congrArg CommonMessageHeader.flags h.header

theorem messageId (h : Holds raw found m) : UInt32.ofNat (raw.word 20 4) = m.messageId :=
  congrArg CommonMessageHeader.messageId h.header

theorem payloadSize (h : Holds raw found m) :
    UInt32.ofNat (raw.word 28 4) = m.body.payloadSize :=
  congrArg CommonMessageHeader.payloadSize h.header

end Holds

@[simp] theorem request_and_response : (0x1 : UInt8) &&& 0x8 = 0x0 := rfl

@[simp] theorem both_and_response : (0x9 : UInt8) &&& 0x8 = 0x8 := rfl

@[simp] theorem both_and_request : (0x9 : UInt8) &&& 0x1 = 0x1 := rfl

theorem responseFlag_of_ne {blockerId : UInt64} (h : blockerId ≠ 0) :
    Body.responseFlag blockerId = 0x8 := by
  simp [Body.responseFlag, h]

section Handlers

variable {cfg : Config} {raw found : Memory} {sessionId messageId : UInt32}
variable (s : SessionRef) (p : Process)

theorem processDataStream_result
    {replyExpected : Bool}
    {data : Bytes}
    (hsize : Body.Sendable cfg (.stream replyExpected data))
    (h : Holds raw found ⟨sessionId, messageId, .stream replyExpected data⟩) :
    ((processDataStream s raw).run p).result =
      (((Body.stream replyExpected data).handle s messageId).run p).result := by
  have hlen : data.length ≤ cfg.maxSingleMessageSize := hsize
  have hmax := cfg.maxSingleMessageSize_lt
  have hdata : raw.slice 32 data.length = data := by
    rw [h.slice 32 data.length (by simp only [Body.frameSize]; omega)]
    have htotal := hsize.toNat_totalMessageSize
    simp only [Body.frameSize] at htotal
    simp only [Message.image]
    rw [Memory.slice_store_before _ _ _ (by omega), Memory.slice_store_same]
  have hpayload : (UInt32.ofNat (raw.word 28 4)).toNat = data.length := by
    rw [h.payloadSize]
    exact Nat.mod_eq_of_lt (by omega)
  have hflags : raw 7 = if replyExpected then 0x1 else 0x0 := h.flags
  have hmessageId : UInt32.ofNat (raw.word 20 4) = messageId := h.messageId
  cases replyExpected with
  | false =>
      simp [processDataStream, Body.handle, Outcome.result, hpayload, hdata, hflags]
  | true =>
      simp [processDataStream, Body.handle, Outcome.result, hpayload, hdata, hflags, hmessageId]

/-- The fields of single-block data. -/
theorem fields_singleBlock
    {multiblockId blockerId : UInt64}
    {data : Bytes}
    (hsize : Body.Sendable cfg (.singleBlock multiblockId blockerId data))
    (h : Holds raw found ⟨sessionId, messageId, .singleBlock multiblockId blockerId data⟩) :
    raw.slice 52 data.length = data ∧ (UInt32.ofNat (raw.word 28 4)).toNat = data.length ∧
      UInt64.ofNat (raw.word 40 8) = blockerId ∧ UInt64.ofNat (raw.word 32 8) = multiblockId := by
  have hlen : data.length ≤ cfg.maxSingleMessageSize := hsize
  have hmax := cfg.maxSingleMessageSize_lt
  have htotal := hsize.toNat_totalMessageSize
  simp only [Body.frameSize] at htotal
  have hdata : raw.slice 52 data.length = data := by
    rw [h.slice 52 data.length (by simp only [Body.frameSize]; omega)]
    simp only [Message.image]
    rw [Memory.slice_store_before _ _ _ (by omega), Memory.slice_store_same]
  have hpayload : (UInt32.ofNat (raw.word 28 4)).toNat = data.length := by
    rw [h.payloadSize]
    exact Nat.mod_eq_of_lt (by omega)
  have hblocker : UInt64.ofNat (raw.word 40 8) = blockerId := by
    rw [h.word (by simp only [Body.frameSize]; omega)]
    simp only [Message.image]
    rw [Memory.word_store_before _ _ _ (by omega), Memory.word_store_before _ _ _ (by omega),
      Memory.word_store_same _ _ _ _ blockerId.toNat_lt, UInt64.ofNat_toNat]
  have hmultiblock : UInt64.ofNat (raw.word 32 8) = multiblockId := by
    rw [h.word (by simp only [Body.frameSize]; omega)]
    simp only [Message.image]
    rw [Memory.word_store_before _ _ _ (by omega), Memory.word_store_before _ _ _ (by omega),
      Memory.word_store_before _ _ _ (by omega),
      Memory.word_store_same _ _ _ _ multiblockId.toNat_lt, UInt64.ofNat_toNat]
  exact ⟨hdata, hpayload, hblocker, hmultiblock⟩

theorem processDataSingleBlock_result
    {multiblockId blockerId : UInt64}
    {data : Bytes}
    (hsize : Body.Sendable cfg (.singleBlock multiblockId blockerId data))
    (h : Holds raw found ⟨sessionId, messageId, .singleBlock multiblockId blockerId data⟩) :
    ((processDataSingleBlock s raw).run p).result =
      (((Body.singleBlock multiblockId blockerId data).handle s messageId).run p).result := by
  obtain ⟨hdata, hpayload, hblocker, hmultiblock⟩ := fields_singleBlock hsize h
  have hflags : raw 7 = 0x1 ||| Body.responseFlag blockerId := h.flags
  have hmessageId : UInt32.ofNat (raw.word 20 4) = messageId := h.messageId
  by_cases hid : blockerId = 0
  · have hflag : raw 7 = 0x1 := by rw [hflags, hid]; rfl
    simp [processDataSingleBlock, Body.handle, Outcome.result, hpayload, hdata, hflag, hmessageId,
      hmultiblock, hid]
  · have hflag : raw 7 = 0x9 := by rw [hflags, responseFlag_of_ne hid]; rfl
    simp [processDataSingleBlock, Body.handle, Outcome.result, hpayload, hdata, hflag, hmessageId,
      hblocker, hid]

/-- The fields of a part. -/
theorem fields_multiStatic
    {totalSize multiblockId blockerId : UInt64}
    {totalPartNumber partId : UInt32}
    {data : Bytes}
    (hsize : Body.Sendable cfg
      (.multiStatic totalSize multiblockId totalPartNumber partId data blockerId))
    (h : Holds raw found
      ⟨sessionId, messageId,
        .multiStatic totalSize multiblockId totalPartNumber partId data blockerId⟩) :
    UInt64.ofNat (raw.word 40 8) = multiblockId ∧ UInt64.ofNat (raw.word 32 8) = totalSize ∧
      UInt32.ofNat (raw.word 48 4) = totalPartNumber ∧ UInt32.ofNat (raw.word 52 4) = partId ∧
      (UInt32.ofNat (raw.word 28 4)).toNat = data.length ∧ raw.slice 56 data.length = data := by
  have hlen : data.length ≤ cfg.maxSingleMessageSize := hsize
  have hmax := cfg.maxSingleMessageSize_lt
  have htotal := hsize.toNat_totalMessageSize
  simp only [Body.frameSize] at htotal
  refine ⟨?_, ?_, ?_, ?_, ?_, ?_⟩
  · rw [h.word (by simp only [Body.frameSize]; omega)]
    simp only [Message.image]
    rw [Memory.word_store_before _ _ _ (by omega), Memory.word_store_before _ _ _ (by omega),
      Memory.word_store_before _ _ _ (by omega), Memory.word_store_before _ _ _ (by omega),
      Memory.word_store_same _ _ _ _ multiblockId.toNat_lt, UInt64.ofNat_toNat]
  · rw [h.word (by simp only [Body.frameSize]; omega)]
    simp only [Message.image]
    rw [Memory.word_store_before _ _ _ (by omega), Memory.word_store_before _ _ _ (by omega),
      Memory.word_store_before _ _ _ (by omega), Memory.word_store_before _ _ _ (by omega),
      Memory.word_store_before _ _ _ (by omega),
      Memory.word_store_same _ _ _ _ totalSize.toNat_lt, UInt64.ofNat_toNat]
  · rw [h.word (by simp only [Body.frameSize]; omega)]
    simp only [Message.image]
    rw [Memory.word_store_before _ _ _ (by omega), Memory.word_store_before _ _ _ (by omega),
      Memory.word_store_before _ _ _ (by omega),
      Memory.word_store_same _ _ _ _ totalPartNumber.toNat_lt, UInt32.ofNat_toNat]
  · rw [h.word (by simp only [Body.frameSize]; omega)]
    simp only [Message.image]
    rw [Memory.word_store_before _ _ _ (by omega), Memory.word_store_before _ _ _ (by omega),
      Memory.word_store_same _ _ _ _ partId.toNat_lt, UInt32.ofNat_toNat]
  · rw [h.payloadSize]
    exact Nat.mod_eq_of_lt (by omega)
  · rw [h.slice 56 data.length (by simp only [Body.frameSize]; omega)]
    simp only [Message.image]
    rw [Memory.slice_store_before _ _ _ (by omega), Memory.slice_store_same]

theorem processDataMultiblock_result
    {totalSize multiblockId blockerId : UInt64}
    {totalPartNumber partId : UInt32}
    {data : Bytes}
    (hsize : Body.Sendable cfg
      (.multiStatic totalSize multiblockId totalPartNumber partId data blockerId))
    (h : Holds raw found
      ⟨sessionId, messageId,
        .multiStatic totalSize multiblockId totalPartNumber partId data blockerId⟩) :
    ((processDataMultiblock s raw).run p).result =
      (((Body.multiStatic totalSize multiblockId totalPartNumber partId data blockerId).handle
        s messageId).run p).result := by
  obtain ⟨hmultiblock, htotalSize, -, hpart, hpayload, hdata⟩ := fields_multiStatic hsize h
  have hwrite : ∀ q : Process,
      ((MultiblockIo.writeIntoIncomingBuffer s multiblockId (readBytes raw 56 data.length)).run
        q).result =
      ((MultiblockIo.writeIntoIncomingBuffer s multiblockId (pure data)).run q).result := by
    intro q
    simp only [MultiblockIo.writeIntoIncomingBuffer, run_getSession_bind]
    cases (q.session s).incomingBuffer.find multiblockId with
    | none =>
        rfl
    | some buffer =>
        simp [Outcome.result, hdata]
  simp only [Outcome.result, Prod.mk.injEq] at hwrite
  by_cases hzero : partId = 0
  · simp [processDataMultiblock, Body.handle, Outcome.result, hpayload, hpart, hmultiblock,
      htotalSize, hzero, hwrite]
  · simp [processDataMultiblock, Body.handle, Outcome.result, hpayload, hpart, hmultiblock, hzero,
      hwrite]

/-- The fields of a finish frame. -/
theorem fields_multiFinish
    {multiblockId blockerId : UInt64}
    (h : Holds raw found ⟨sessionId, messageId, .multiFinish multiblockId blockerId⟩) :
    UInt64.ofNat (raw.word 32 8) = multiblockId ∧ UInt64.ofNat (raw.word 40 8) = blockerId ∧
      raw 7 = 0x0 ||| Body.responseFlag blockerId := by
  refine ⟨?_, ?_, h.flags⟩
  · rw [h.word (by simp only [Body.frameSize]; omega)]
    simp only [Message.image]
    rw [Memory.word_store_before _ _ _ (by omega), Memory.word_store_before _ _ _ (by omega),
      Memory.word_store_same _ _ _ _ multiblockId.toNat_lt, UInt64.ofNat_toNat]
  · rw [h.word (by simp only [Body.frameSize]; omega)]
    simp only [Message.image]
    rw [Memory.word_store_before _ _ _ (by omega),
      Memory.word_store_same _ _ _ _ blockerId.toNat_lt, UInt64.ofNat_toNat]

theorem processDataMultiFinish_result
    {multiblockId blockerId : UInt64}
    (h : Holds raw found ⟨sessionId, messageId, .multiFinish multiblockId blockerId⟩) :
    ((processDataMultiFinish s raw).run p).result =
      (((Body.multiFinish multiblockId blockerId).handle s messageId).run p).result := by
  obtain ⟨hmultiblock, hblocker, hflags⟩ := fields_multiFinish h
  by_cases hid : blockerId = 0
  · have hflag : raw 7 = 0x0 := by rw [hflags, hid]; rfl
    simp [processDataMultiFinish, Body.handle, Outcome.result, hflag, hmultiblock, hid]
  · have hflag : raw 7 = 0x8 := by rw [hflags, responseFlag_of_ne hid]; rfl
    simp [processDataMultiFinish, Body.handle, Outcome.result, hflag, hmultiblock, hblocker, hid]

/-- The fields of an init start message. -/
theorem fields_initStart
    {clientSessionId : UInt32}
    {identifier : Bytes}
    (hsize : Body.Sendable cfg (.sessionInitStart clientSessionId identifier))
    (h : Holds raw found ⟨sessionId, messageId, .sessionInitStart clientSessionId identifier⟩) :
    UInt32.ofNat (raw.word 32 4) = clientSessionId ∧
    (UInt32.ofNat (raw.word 64036 4)).toNat = identifier.length ∧
    raw.slice 36 identifier.length = identifier := by
  have hlen : identifier.length ≤ 64000 := hsize
  refine ⟨?_, ?_, ?_⟩
  · rw [h.word (by simp only [Body.frameSize]; omega)]
    simp only [Message.image]
    rw [Memory.word_store_before _ _ _ (by omega), Memory.word_store_before _ _ _ (by omega),
      Memory.word_store_same _ _ _ _ clientSessionId.toNat_lt, UInt32.ofNat_toNat]
  · rw [h.word (by simp only [Body.frameSize]; omega)]
    simp only [Message.image]
    rw [Memory.word_store_after _ _ _ (by omega),
      Memory.word_store_same _ _ _ _ (UInt32.toNat_lt _), UInt32.ofNat_toNat]
    exact Nat.mod_eq_of_lt (by omega)
  · rw [h.slice _ _ (by simp only [Body.frameSize]; omega)]
    simp only [Message.image]
    rw [Memory.slice_store_same]

theorem processSessionInitStart_result
    {clientSessionId : UInt32}
    {identifier : Bytes}
    (hsize : Body.Sendable cfg (.sessionInitStart clientSessionId identifier))
    (h : Holds raw found ⟨sessionId, messageId, .sessionInitStart clientSessionId identifier⟩) :
    ((processSessionInitStart s raw).run p).result =
      (((Body.sessionInitStart clientSessionId identifier).handle s messageId).run p).result := by
  obtain ⟨hclient, hsizeField, hidentifier⟩ := fields_initStart hsize h
  have hmessageId : UInt32.ofNat (raw.word 20 4) = messageId := h.messageId
  simp [processSessionInitStart, Body.handle, Outcome.result, hsizeField, hidentifier, hclient,
    hmessageId]

/-- The fields of an init reply message. -/
theorem fields_initReply
    {clientSessionId fullSessionId : UInt32}
    {identifier : Bytes}
    (hsize : Body.Sendable cfg (.sessionInitReply clientSessionId fullSessionId identifier))
    (h : Holds raw found
      ⟨sessionId, messageId, .sessionInitReply clientSessionId fullSessionId identifier⟩) :
    UInt32.ofNat (raw.word 32 4) = clientSessionId ∧
    UInt32.ofNat (raw.word 36 4) = fullSessionId ∧
    (UInt32.ofNat (raw.word 64040 4)).toNat = identifier.length ∧
    raw.slice 40 identifier.length = identifier := by
  have hlen : identifier.length ≤ 64000 := hsize
  refine ⟨?_, ?_, ?_, ?_⟩
  · rw [h.word (by simp only [Body.frameSize]; omega)]
    simp only [Message.image]
    rw [Memory.word_store_before _ _ _ (by omega), Memory.word_store_before _ _ _ (by omega),
      Memory.word_store_same _ _ _ _ clientSessionId.toNat_lt, UInt32.ofNat_toNat]
  · rw [h.word (by simp only [Body.frameSize]; omega)]
    simp only [Message.image]
    rw [Memory.word_store_before _ _ _ (by omega), Memory.word_store_before _ _ _ (by omega),
      Memory.word_store_after _ _ _ (by simp),
      Memory.word_store_same _ _ _ _ fullSessionId.toNat_lt, UInt32.ofNat_toNat]
  · rw [h.word (by simp only [Body.frameSize]; omega)]
    simp only [Message.image]
    rw [Memory.word_store_after _ _ _ (by omega),
      Memory.word_store_same _ _ _ _ (UInt32.toNat_lt _), UInt32.ofNat_toNat]
    exact Nat.mod_eq_of_lt (by omega)
  · rw [h.slice _ _ (by simp only [Body.frameSize]; omega)]
    simp only [Message.image]
    rw [Memory.slice_store_same]

theorem processSessionInitReply_result
    {clientSessionId fullSessionId : UInt32}
    {identifier : Bytes}
    (hsize : Body.Sendable cfg (.sessionInitReply clientSessionId fullSessionId identifier))
    (h : Holds raw found
      ⟨sessionId, messageId, .sessionInitReply clientSessionId fullSessionId identifier⟩) :
    ((processSessionInitReply s raw).run p).result =
      (((Body.sessionInitReply clientSessionId fullSessionId identifier).handle
        s messageId).run p).result := by
  obtain ⟨hclient, hcomplete, hsizeField, hidentifier⟩ := fields_initReply hsize h
  simp [processSessionInitReply, Body.handle, Outcome.result, hsizeField, hidentifier, hclient,
    hcomplete]

/-- The session id of a close message is never filled in. -/
theorem word_close
    {body : Body}
    (hbody : (∃ replyExpected, body = .sessionCloseStart replyExpected) ∨
      body = .sessionCloseReply)
    (h : Holds raw found ⟨sessionId, messageId, body⟩) :
    UInt32.ofNat (raw.word 32 4) = 0 := by
  have hword : ∀ mem : Memory,
      ((mem.store 32 (toLE 4 0)).store 40 footerBytes).word 32 4 = 0 := by
    intro mem
    rw [Memory.word_store_before _ _ _ (by omega), Memory.word_store_same _ _ _ _ (by omega)]
  rcases hbody with ⟨replyExpected, rfl⟩ | rfl
  · rw [h.word (by simp only [Body.frameSize]; omega)]
    simp only [Message.image, hword]
    rfl
  · rw [h.word (by simp only [Body.frameSize]; omega)]
    simp only [Message.image, hword]
    rfl

theorem processErrorType_result
    {subType : ErrorSubType}
    {message : Bytes}
    (hsize : Body.Sendable cfg (.error subType message))
    (h : Holds raw found ⟨sessionId, messageId, .error subType message⟩) :
    ((processErrorType s (headerOf raw) raw).run p).result =
      (((Body.error subType message).handle s messageId).run p).result := by
  have hlen : message.length ≤ cfg.maxSingleMessageSize - 1 := hsize
  have hmax := cfg.maxSingleMessageSize_lt
  have hsizeField : (UInt64.ofNat (raw.word 32 8)).toNat = message.length := by
    rw [h.word (by simp only [Body.frameSize]; omega)]
    simp only [Message.image]
    rw [Memory.word_store_before _ _ _ (by omega),
      Memory.word_store_same _ _ _ _ (UInt64.toNat_lt _), UInt64.ofNat_toNat]
    exact Nat.mod_eq_of_lt (by omega)
  have hmessage : raw.slice 40 message.length = message := by
    rw [h.slice _ _ (by simp only [Body.frameSize]; omega)]
    simp only [Message.image]
    rw [Memory.slice_store_same]
  have hsub : (headerOf raw).subType = subType.code :=
    congrArg CommonMessageHeader.subType h.header
  cases subType <;>
    simp [processErrorType, processErrorMessage, Body.handle, Outcome.result, hsizeField, hmessage,
      hsub, ErrorSubType.code, ErrorSubType.errorCode]

theorem processSessionClose_result
    {body : Body}
    (hbody : (∃ replyExpected, body = .sessionCloseStart replyExpected) ∨
      body = .sessionCloseReply)
    (h : Holds raw found ⟨sessionId, messageId, body⟩) :
    ((processSessionType s (headerOf raw) raw).run p).result =
      ((body.handle s messageId).run p).result := by
  have hfield := word_close hbody h
  have hmessageId : UInt32.ofNat (raw.word 20 4) = messageId := h.messageId
  have hsub : (headerOf raw).subType = body.subType :=
    congrArg CommonMessageHeader.subType h.header
  rcases hbody with ⟨replyExpected, rfl⟩ | rfl
  · simp [processSessionType, processSessionCloseStart, Body.handle, Outcome.result, hfield,
      hmessageId, hsub, Body.subType, SessionSubType.code]
  · simp [processSessionType, processSessionCloseReply, Body.handle, Outcome.result, hfield, hsub,
      Body.subType, SessionSubType.code]

/-- The type and the subtype of a message select its handler, and the handler does
what the message means. -/
theorem processByType_result
    {m : Message}
    (hsize : m.body.Sendable cfg)
    (h : Holds raw found m) :
    ∃ handler,
      processByType s m.commonHeader raw = some handler ∧
      ∀ p, (handler.run p).result = ((m.body.handle s m.messageId).run p).result := by
  obtain ⟨sessionId, messageId, body⟩ := m
  have hheader := h.header
  cases body with
  | sessionInitStart clientSessionId identifier =>
      exact ⟨_, rfl, fun p => processSessionInitStart_result s p hsize h⟩
  | sessionInitReply clientSessionId fullSessionId identifier =>
      exact ⟨_, rfl, fun p => processSessionInitReply_result s p hsize h⟩
  | sessionCloseStart replyExpected =>
      refine ⟨_, rfl, fun p => ?_⟩
      rw [← hheader]
      exact processSessionClose_result s p (.inl ⟨replyExpected, rfl⟩) h
  | sessionCloseReply =>
      refine ⟨_, rfl, fun p => ?_⟩
      rw [← hheader]
      exact processSessionClose_result s p (.inr rfl) h
  | heartbeatStart =>
      refine ⟨_, rfl, fun p => ?_⟩
      have hmessageId : UInt32.ofNat (raw.word 20 4) = messageId := h.messageId
      simp [processHeartbeatType, processHeartbeatStart, Message.commonHeader, Body.subType,
        Body.handle, Outcome.result, hmessageId]
  | heartbeatReply =>
      exact ⟨_, rfl, fun p => rfl⟩
  | error subType message =>
      refine ⟨_, rfl, fun p => ?_⟩
      rw [← hheader]
      exact processErrorType_result s p hsize h
  | stream replyExpected data =>
      exact ⟨_, rfl, fun p => processDataStream_result s p hsize h⟩
  | streamReply =>
      exact ⟨_, rfl, fun p => rfl⟩
  | singleBlock multiblockId blockerId data =>
      exact ⟨_, rfl, fun p => processDataSingleBlock_result s p hsize h⟩
  | singleBlockReply =>
      exact ⟨_, rfl, fun p => rfl⟩
  | multiStatic totalSize multiblockId totalPartNumber partId data blockerId =>
      exact ⟨_, rfl, fun p => processDataMultiblock_result s p hsize h⟩
  | multiFinish multiblockId blockerId =>
      exact ⟨_, rfl, fun p => processDataMultiFinish_result s p h⟩

/-- Behind the delimiter check, a frame does what its message means. -/
theorem processFrame_result
    {m : Message}
    (hsize : m.body.Sendable cfg)
    (h : Holds raw found m) :
    ((processFrame s m.commonHeader raw).run p).result =
      (.taken m.body.totalMessageSize.toNat, ((m.handle s).run p).process,
        ((m.handle s).run p).outputs) := by
  obtain ⟨handler, hhandler, hresult⟩ := processByType_result s hsize h
  simp only [Outcome.result, Prod.mk.injEq] at hresult
  have htotal : m.commonHeader.totalMessageSize = m.body.totalMessageSize := rfl
  have hflags : m.commonHeader.flags = m.body.flags := rfl
  have hsession : m.commonHeader.sessionId = m.sessionId := rfl
  have hmessage : m.commonHeader.messageId = m.messageId := rfl
  simp only [processFrame, Message.handle, Message.isReply, hhandler, htotal, hflags, hsession,
    hmessage, Outcome.result]
  by_cases hreply : m.body.flags &&& 0x2 = 0
  · simp [hreply, hresult]
  · simp [hreply, hresult]

end Handlers

/-! ## The receive path on a frame of the library -/

section ReceivePath

variable {cfg : Config} {m : Message}

/-- The memory of a buffer that starts with a frame. -/
theorem holds_of_bytes
    (hsize : m.body.Sendable cfg)
    (found : Memory)
    (rest : Bytes)
    (beyond : Memory) :
    Holds (RingBuffer.mk (m.bytes found ++ rest) beyond).memory found m := by
  have htotal := hsize.toNat_totalMessageSize
  have hge := m.body.frameSize_ge
  obtain ⟨hend, hdelimiter⟩ := Message.delimiterOf_image hsize found
  have hslice : ∀ o len, o + len ≤ m.body.frameSize →
      (RingBuffer.mk (m.bytes found ++ rest) beyond).memory.slice o len =
        (m.image found).slice o len := by
    intro o len hle
    rw [RingBuffer.memory, Message.bytes]
    exact Memory.slice_store_slice_append _ _ _ (by omega)
  refine ⟨hslice, ?_, ?_⟩
  · rw [← Message.headerOf_image hsize found]
    refine headerOf_congr ?_
    intro i hi
    have hone := hslice i 1 (by omega)
    simpa [Memory.slice] using hone
  · have htotalHeader : m.commonHeader.totalMessageSize = m.body.totalMessageSize := rfl
    rw [delimiterOf, htotalHeader, Memory.word, hslice _ _ (by omega)]
    exact hdelimiter

theorem obtainsFrame_bytes
    (hsize : m.body.Sendable cfg)
    (found : Memory)
    (rest : Bytes)
    (beyond : Memory) :
    ObtainsFrame ⟨m.bytes found ++ rest, beyond⟩ m.commonHeader := by
  have hholds := holds_of_bytes hsize found rest beyond
  have hlength := Message.bytes_length hsize found
  have htotal := hsize.toNat_totalMessageSize
  have hge := m.body.frameSize_ge
  refine ⟨?_, rfl, rfl, ?_⟩
  · rw [RingBuffer.getObject, if_pos]
    · exact congrArg some hholds.header
    · simp only [List.length_append, hlength, CommonMessageHeader.size]
      omega
  · simp only [List.length_append, hlength]
    have htotalHeader : m.commonHeader.totalMessageSize = m.body.totalMessageSize := rfl
    rw [htotalHeader, htotal]
    omega

/-- From a buffer that starts with a frame of the library exactly this frame is
taken, and its handler does what the message means. -/
theorem processMessage_bytes
    (hsize : m.body.Sendable cfg)
    (s : SessionRef)
    (p : Process)
    (found : Memory)
    (rest : Bytes)
    (beyond : Memory) :
    ((processMessage cfg s ⟨m.bytes found ++ rest, beyond⟩).run p).result =
      (.taken (m.bytes found).length, ((m.handle s).run p).process,
        ((m.handle s).run p).outputs) := by
  have hholds := holds_of_bytes hsize found rest beyond
  have hlength := Message.bytes_length hsize found
  have htotal := hsize.toNat_totalMessageSize
  have hobtains := obtainsFrame_bytes hsize found rest beyond
  rw [hobtains.run_processMessage cfg s p hholds.delimiter, hlength, ← htotal]
  exact processFrame_result s p hsize hholds

/-- A proper beginning of a frame takes nothing and has no effect. -/
theorem processMessage_incomplete
    (hsize : m.body.Sendable cfg)
    (s : SessionRef)
    (p : Process)
    (found : Memory)
    {part rest : Bytes}
    (hpart : part ++ rest = m.bytes found)
    (hrest : rest ≠ [])
    (beyond : Memory) :
    ((processMessage cfg s ⟨part, beyond⟩).run p).result = (.taken 0, p, []) := by
  have hlength := Message.bytes_length hsize found
  have htotal := hsize.toNat_totalMessageSize
  have hpartLength := congrArg List.length hpart
  rw [List.length_append, hlength] at hpartLength
  have hrestPos : 0 < rest.length := List.length_pos_iff.mpr hrest
  by_cases hheader : CommonMessageHeader.size ≤ part.length
  · -- the header is complete, but not the frame
    have hsame : headerOf (RingBuffer.mk part beyond).memory = m.commonHeader := by
      rw [← (holds_of_bytes hsize found [] beyond).header, ← hpart]
      refine headerOf_congr ?_
      intro i hi
      have hin : i < part.length := by
        simp only [CommonMessageHeader.size] at hheader
        omega
      have hin' : i < (part ++ rest).length := by
        rw [List.length_append]
        omega
      have hcond : 0 ≤ i ∧ i < 0 + part.length := by omega
      have hcond' : 0 ≤ i ∧ i < 0 + (part ++ rest).length := by omega
      simp only [RingBuffer.memory, Memory.store, if_pos hcond, Nat.sub_zero, List.append_nil]
      rw [if_pos hcond', List.getD_append _ _ _ _ hin]
    have hobject : (RingBuffer.mk part beyond).getObject = some m.commonHeader := by
      rw [RingBuffer.getObject, if_pos hheader]
      exact congrArg some hsame
    have hpointer : (RingBuffer.mk part beyond).getDataPointer
        m.commonHeader.totalMessageSize.toNat = none := by
      have htotalHeader : m.commonHeader.totalMessageSize = m.body.totalMessageSize := rfl
      rw [RingBuffer.getDataPointer, if_neg]
      rw [htotalHeader, htotal]
      simp only
      omega
    have hprotocol : m.commonHeader.protocolIdentifier = protocolIdentifier := rfl
    have hversion : m.commonHeader.version = 0x1 := rfl
    simp [processMessage, hobject, hpointer, hprotocol, hversion, Outcome.result]
  · simp [processMessage, RingBuffer.getObject, hheader, Outcome.result]

end ReceivePath

end SakuraNetwork

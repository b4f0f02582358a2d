import SakuraNetwork.UninitialisedBytes
import SakuraNetwork.MemoryBounds

/-!
# The two encoders of stream messages

One version of `send_Data_Stream` copies the payload into a message buffer on the
stack.  The other one builds the frame around a payload that already lies in a
`DataBuffer`: it computes the payload size from the used size of the buffer and
writes header and footer in place.

* `sendDataStreamCopy_refines`: the copying encoder sends the bytes of the message.
* `run_sendDataStreamBuffer`: the in-place encoder builds the same message, over the
  content of the buffer.
* `streamFrame`: header, payload, padding and footer; `handsOver_sendDataStream`: the send
  hands it over, and records what awaits a reply.
* `encoders_agree`: both send the same frame but for the padding, and the in-place
  one stays inside its buffer and off the payload.
-/

namespace SakuraNetwork

open Lib

/-- The parts of a `DataBuffer` that the encoder uses; `capacity` is the number of
allocated bytes. -/
structure DataBuffer where
  data : Memory
  capacity : Nat
  usedBufferSize : UInt64

/-- What a send gives back: its result, and the bytes that the socket got. -/
structure Handed where
  result : Bool
  bytes : Option Bytes

/-- `Session::sendMessage` with a header and a pointer to the complete frame. -/
def sendRawMessage
    (s : SessionRef)
    (header : CommonMessageHeader)
    (data : Memory)
    (size : UInt32) : Act Handed := do
  let x ← getSession s
  match x.socket with
  | none => pure ⟨false, none⟩
  | some k => do
      if header.flags &&& 0x1 != 0 then
        ReplyHandler.addMessage header.type header.sessionId header.messageId s
      modifySession s (fun x => { x with socket := some k.countSend })
      pure ⟨k.sendSucceeds, some (data.slice 0 size.toNat)⟩

/-- `Data_Stream_Header` as both encoders fill it. -/
def streamHeader
    (sessionId messageId totalMessageSize payloadSize : UInt32)
    (replyExpected : Bool) : CommonMessageHeader where
  type := MessageType.streamData.code
  subType := StreamDataSubType.static.code
  flags := if replyExpected then 0x1 else 0x0
  sessionId := sessionId
  messageId := messageId
  totalMessageSize := totalMessageSize
  payloadSize := payloadSize

/-- `send_Data_Stream` with a `DataBuffer`: header and footer are written into the
buffer, which is handed to the socket. -/
def sendDataStreamBuffer
    (s : SessionRef)
    (buf : DataBuffer)
    (replyExpected : Bool) : Act (Handed × DataBuffer) :=
  if buf.usedBufferSize < 8 + 32 then pure (⟨false, none⟩, buf)
  else do
    -- the subtraction is in 64 bits, after the used size was cut to 32
    let size := (buf.usedBufferSize.toUInt32.toUInt64 - 8 - 32).toUInt32
    let totalMessageSize := Body.paddedMessageSize 32 size
    let x ← getSession s
    let messageId ← increaseMessageIdCounter s
    let header := streamHeader x.sessionId messageId totalMessageSize size replyExpected
    let footerOffset := (totalMessageSize.toUInt64 - 8).toNat
    Act.touch (.write 32 buf.capacity)
    Act.touch (.write (footerOffset + 8) buf.capacity)
    let data := (buf.data.store 0 header.bytes).store footerOffset footerBytes
    let handed ← sendRawMessage s header data totalMessageSize
    pure (handed, { buf with data := data })

/-- `send_Data_Stream` with a data pointer: the frame is put together in a message
buffer on the stack, in which `found` is the content from before. -/
def sendDataStreamCopy
    (s : SessionRef)
    (found : Memory)
    (payload : Bytes)
    (replyExpected : Bool) : Act Handed := do
  let size := UInt32.ofNat payload.length
  let totalMessageSize := Body.paddedMessageSize 32 size
  let x ← getSession s
  let messageId ← increaseMessageIdCounter s
  let header := streamHeader x.sessionId messageId totalMessageSize size replyExpected
  let footerOffset := (totalMessageSize.toUInt64 - 8).toNat
  let data := ((found.store 0 header.bytes).store 32 payload).store footerOffset footerBytes
  sendRawMessage s header data totalMessageSize

/-! ## The frames that are built -/

/-- A send of a message with its header and bytes does what the send of the message
does, and hands over the bytes. -/
theorem run_sendRawMessage
    (s : SessionRef)
    (m : Message)
    (data : Memory)
    (size : UInt32)
    (p : Process) :
    (sendRawMessage s m.commonHeader data size).run p =
      { value :=
          { result := ((sendMessage s m).run p).value
            bytes := (p.session s).socket.map fun _ => data.slice 0 size.toNat }
        process := ((sendMessage s m).run p).process } := by
  rw [sendRawMessage, run_getSession_bind, run_sendMessage]
  cases (p.session s).socket with
  | none =>
      rfl
  | some k =>
      have hflag : (m.commonHeader.flags &&& 0x1 != 0) = m.replyRequired := rfl
      rw [hflag]
      by_cases hreply : m.replyRequired = true
      · simp [hreply, Act.run_bind, Process.record, Message.commonHeader]
      · simp [hreply, Act.run_bind, Process.record]

/-- The stream message that a session sends next. -/
def Process.nextStream
    (p : Process)
    (s : SessionRef)
    (payload : Bytes)
    (replyExpected : Bool) : Message :=
  p.nextMessage s (.stream replyExpected payload)

section Encoders

variable {cfg : Config} {payload : Bytes}

theorem toNat_streamSize
    (hmax : payload.length ≤ cfg.maxSingleMessageSize) :
    (Body.paddedMessageSize 32 (UInt32.ofNat payload.length)).toNat =
      32 + payload.length + fillUp payload.length + 8 := by
  have hlt := cfg.maxSingleMessageSize_lt
  exact Body.toNat_paddedMessageSize (by omega) (by omega)

/-- The footer lies behind header, payload and padding. -/
theorem toNat_footerOffset
    (hmax : payload.length ≤ cfg.maxSingleMessageSize) :
    ((Body.paddedMessageSize 32 (UInt32.ofNat payload.length)).toUInt64 - 8).toNat =
      (Body.paddedMessageSize 32 (UInt32.ofNat payload.length)).toNat - 8 := by
  have htotal := toNat_streamSize hmax
  have hwide : (Body.paddedMessageSize 32 (UInt32.ofNat payload.length)).toUInt64.toNat =
      (Body.paddedMessageSize 32 (UInt32.ofNat payload.length)).toNat := UInt32.toNat_toUInt64 _
  have height : (8 : UInt64).toNat = 8 := rfl
  have hle : (8 : UInt64) ≤
      (Body.paddedMessageSize 32 (UInt32.ofNat payload.length)).toUInt64 := by
    rw [UInt64.le_iff_toNat_le, hwide, height]
    omega
  rw [UInt64.toNat_sub_of_le _ _ hle, hwide, height]

/-- The in-place encoder recovers the payload size from the used size. -/
theorem recoveredSize
    (hmax : payload.length ≤ cfg.maxSingleMessageSize)
    {usedBufferSize : UInt64}
    (hused : usedBufferSize.toNat = 40 + payload.length) :
    (usedBufferSize.toUInt32.toUInt64 - 8 - 32).toUInt32 = UInt32.ofNat payload.length := by
  have hlt := cfg.maxSingleMessageSize_lt
  have hcut : usedBufferSize.toUInt32.toUInt64 = usedBufferSize := by
    rw [← UInt64.toNat_inj, UInt32.toNat_toUInt64, UInt64.toNat_toUInt32]
    omega
  have hsize : (usedBufferSize - 8 - 32).toNat = payload.length := by
    have height : (8 : UInt64).toNat = 8 := rfl
    have hthirty : (32 : UInt64).toNat = 32 := rfl
    rw [UInt64.toNat_sub, UInt64.toNat_sub, height, hthirty]
    omega
  rw [hcut, ← UInt32.toNat_inj, UInt64.toNat_toUInt32, hsize, UInt32.toNat_ofNat']

/-- The copying encoder sends the message: the same result and process, and the bytes
of the message over what lay on the stack. -/
theorem sendDataStreamCopy_refines
    (hmax : payload.length ≤ cfg.maxSingleMessageSize)
    (s : SessionRef)
    (found : Memory)
    (replyExpected : Bool)
    (p : Process) :
    (sendDataStreamCopy s found payload replyExpected).run p =
      { value :=
          { result := ((sendDataStream s payload replyExpected).run p).value
            bytes := (p.session s).socket.map fun _ =>
              (p.nextStream s payload replyExpected).bytes found }
        process := ((sendDataStream s payload replyExpected).run p).process } := by
  have hheader : streamHeader (p.session s).sessionId ((p.session s).messageIdCounter + 1)
      (Body.paddedMessageSize 32 (UInt32.ofNat payload.length)) (UInt32.ofNat payload.length)
      replyExpected = (p.nextStream s payload replyExpected).commonHeader := rfl
  rw [sendDataStreamCopy, run_getSession_bind, run_increaseMessageIdCounter_bind]
  simp only
  rw [hheader, run_sendRawMessage, toNat_footerOffset hmax, sendDataStream, run_sendNew,
    Process.modifySession_same]
  rfl

/-- The in-place encoder sends the same message, over the content of the buffer. -/
theorem run_sendDataStreamBuffer
    (hmax : payload.length ≤ cfg.maxSingleMessageSize)
    (s : SessionRef)
    {buf : DataBuffer}
    (hpayload : buf.data.slice 32 payload.length = payload)
    (hused : buf.usedBufferSize.toNat = 40 + payload.length)
    (replyExpected : Bool)
    (p : Process) :
    (sendDataStreamBuffer s buf replyExpected).run p =
      { value :=
          ({ result := ((sendDataStream s payload replyExpected).run p).value
             bytes := (p.session s).socket.map fun _ =>
               (p.nextStream s payload replyExpected).bytes buf.data },
            { buf with data := (p.nextStream s payload replyExpected).image buf.data })
        process := ((sendDataStream s payload replyExpected).run p).process
        accesses :=
          [.write 32 buf.capacity,
            .write ((Body.paddedMessageSize 32 (UInt32.ofNat payload.length)).toNat - 8 + 8)
              buf.capacity] } := by
  have hlarge : ¬ buf.usedBufferSize < 8 + 32 := by
    rw [UInt64.lt_iff_toNat_lt, hused]
    have hforty : (8 + 32 : UInt64).toNat = 40 := rfl
    omega
  have hheader : streamHeader (p.session s).sessionId ((p.session s).messageIdCounter + 1)
      (Body.paddedMessageSize 32 (UInt32.ofNat payload.length)) (UInt32.ofNat payload.length)
      replyExpected = (p.nextStream s payload replyExpected).commonHeader := rfl
  -- the payload lies where the copying encoder puts it
  have hthere : (buf.data.store 0 (p.nextStream s payload replyExpected).commonHeader.bytes).store
      32 payload = buf.data.store 0 (p.nextStream s payload replyExpected).commonHeader.bytes := by
    have hbehind : 0 + (p.nextStream s payload replyExpected).commonHeader.bytes.length ≤ 32 := by
      rw [CommonMessageHeader.bytes_length]
    have hslice : (buf.data.store 0
        (p.nextStream s payload replyExpected).commonHeader.bytes).slice 32 payload.length =
          payload :=
      (Memory.slice_store_after buf.data 0 _ hbehind).trans hpayload
    generalize buf.data.store 0 (p.nextStream s payload replyExpected).commonHeader.bytes = start
      at hslice ⊢
    calc start.store 32 payload
        = start.store 32 (start.slice 32 payload.length) := by rw [hslice]
      _ = start := Memory.store_slice_self start 32 payload.length
  have himage : (p.nextStream s payload replyExpected).image buf.data =
      (buf.data.store 0 (p.nextStream s payload replyExpected).commonHeader.bytes).store
        ((Body.paddedMessageSize 32 (UInt32.ofNat payload.length)).toNat - 8) footerBytes := by
    rw [← hthere]
    rfl
  rw [sendDataStreamBuffer, if_neg hlarge, run_getSession_bind,
    run_increaseMessageIdCounter_bind]
  simp only [recoveredSize hmax hused, hheader, toNat_footerOffset hmax, Act.run_touch_bind]
  rw [← himage, Act.run_bind, run_sendRawMessage, sendDataStream, run_sendNew,
    Process.modifySession_same]
  rfl

/-- The frame of the stream message that a session sends next. -/
def streamFrame (x : Session) (payload : Bytes) (replyExpected : Bool) (padding : Bytes) : Bytes :=
  (streamHeader x.sessionId (x.messageIdCounter + 1)
    (Body.paddedMessageSize 32 (UInt32.ofNat payload.length)) (UInt32.ofNat payload.length)
    replyExpected).bytes ++ payload ++ padding ++ footerBytes

theorem length_streamFrame
    (hmax : payload.length ≤ cfg.maxSingleMessageSize)
    (x : Session)
    (replyExpected : Bool)
    {padding : Bytes}
    (hpadding : padding.length = fillUp payload.length) :
    (streamFrame x payload replyExpected padding).length =
      (Body.paddedMessageSize 32 (UInt32.ofNat payload.length)).toNat := by
  rw [toNat_streamSize hmax, streamFrame, List.length_append, List.length_append,
    List.length_append, CommonMessageHeader.bytes_length, hpadding, footerBytes_length]

/-- The payload is where it was after the frame was built. -/
theorem slice_image_stream
    (hmax : payload.length ≤ cfg.maxSingleMessageSize)
    (s : SessionRef)
    (replyExpected : Bool)
    (p : Process)
    (found : Memory) :
    ((p.nextStream s payload replyExpected).image found).slice 32 payload.length = payload := by
  have htotal := toNat_streamSize hmax
  have hbefore : 32 + payload.length ≤
      (Body.paddedMessageSize 32 (UInt32.ofNat payload.length)).toNat - 8 := by
    omega
  exact (Memory.slice_store_before _ _ footerBytes hbefore).trans
    (Memory.slice_store_same _ 32 payload)

/-- The bytes of the stream message are header, payload, what lies in the padding, and
footer. -/
theorem bytes_nextStream
    (hmax : payload.length ≤ cfg.maxSingleMessageSize)
    (s : SessionRef)
    (replyExpected : Bool)
    (p : Process)
    (found : Memory) :
    (p.nextStream s payload replyExpected).bytes found =
      streamFrame (p.session s) payload replyExpected
        (found.slice (32 + payload.length) (fillUp payload.length)) := by
  have htotal := toNat_streamSize hmax
  have hend : (Body.paddedMessageSize 32 (UInt32.ofNat payload.length)).toNat - 8 =
      32 + payload.length + fillUp payload.length := by
    omega
  have himage : (p.nextStream s payload replyExpected).image found =
      ((found.store 0 (p.nextStream s payload replyExpected).commonHeader.bytes).store 32
        payload).store (32 + payload.length + fillUp payload.length) footerBytes := by
    rw [← hend]
    rfl
  have hlength : (p.nextStream s payload replyExpected).commonHeader.bytes.length = 32 :=
    CommonMessageHeader.bytes_length _
  have hheader : ((p.nextStream s payload replyExpected).image found).slice 0 32 =
      (p.nextStream s payload replyExpected).commonHeader.bytes := by
    rw [himage, Memory.slice_store_before _ _ _ (by omega),
      Memory.slice_store_before _ _ _ (by omega)]
    have hsame := Memory.slice_store_same found 0
      (p.nextStream s payload replyExpected).commonHeader.bytes
    rwa [hlength] at hsame
  have hpadding : ((p.nextStream s payload replyExpected).image found).slice
      (32 + payload.length) (fillUp payload.length) =
        found.slice (32 + payload.length) (fillUp payload.length) := by
    rw [himage, Memory.slice_store_before _ _ _ (by omega),
      Memory.slice_store_after _ _ _ (by omega), Memory.slice_store_after _ _ _ (by omega)]
  have hfooter : ((p.nextStream s payload replyExpected).image found).slice
      (32 + payload.length + fillUp payload.length) 8 = footerBytes := by
    rw [himage]
    exact Memory.slice_store_same _ _ footerBytes
  have hbytes : (p.nextStream s payload replyExpected).bytes found =
      ((p.nextStream s payload replyExpected).image found).slice 0
        (Body.paddedMessageSize 32 (UInt32.ofNat payload.length)).toNat := rfl
  rw [hbytes, htotal, Memory.slice_add, Memory.slice_add, Memory.slice_add]
  simp only [Nat.zero_add]
  rw [hheader, slice_image_stream hmax, hpadding, hfooter]
  rfl

/-- Two frames with a payload of this size are the same outside of the padding between
payload and footer. -/
def SameFrame (payloadSize : Nat) : Option Bytes → Option Bytes → Prop
  | none, none => True
  | some a, some b =>
      a.length = b.length ∧
        ∀ i, i < a.length → ¬ (32 + payloadSize ≤ i ∧ i + 8 < a.length) → a.getD i 0 = b.getD i 0
  | _, _ => False

/-- The places of a stream message that are written: header, payload and footer. -/
theorem covers_stream_iff
    (hmax : payload.length ≤ cfg.maxSingleMessageSize)
    (s : SessionRef)
    (replyExpected : Bool)
    (p : Process)
    (i : Nat) :
    Memory.Covers (p.nextStream s payload replyExpected).writes i ↔
      i < 32 + payload.length ∨
        32 + payload.length + fillUp payload.length ≤ i ∧
          i < 32 + payload.length + fillUp payload.length + 8 := by
  have htotal := toNat_streamSize hmax
  have hwrites : (p.nextStream s payload replyExpected).writes =
      [(0, (p.nextStream s payload replyExpected).commonHeader.bytes), (32, payload),
        ((Body.paddedMessageSize 32 (UInt32.ofNat payload.length)).toNat - 8, footerBytes)] := rfl
  rw [hwrites]
  simp only [Memory.covers_cons, Memory.covers_nil, CommonMessageHeader.bytes_length,
    footerBytes_length, htotal, or_false]
  omega

/-- The bytes of a stream message are determined but for the padding. -/
theorem sameFrame_bytes
    (hmax : payload.length ≤ cfg.maxSingleMessageSize)
    (s : SessionRef)
    (replyExpected : Bool)
    (p : Process)
    (found found' : Memory) :
    SameFrame payload.length
      (some ((p.nextStream s payload replyExpected).bytes found))
      (some ((p.nextStream s payload replyExpected).bytes found')) := by
  have htotal := toNat_streamSize hmax
  refine ⟨by rw [Message.bytes, Message.bytes, Memory.slice_length, Memory.slice_length], ?_⟩
  intro i hi hpadding
  rw [Message.bytes, Memory.slice_length] at hi hpadding
  have hsize : (p.nextStream s payload replyExpected).body.totalMessageSize.toNat =
      32 + payload.length + fillUp payload.length + 8 := htotal
  have hcovers : Memory.Covers (p.nextStream s payload replyExpected).writes i := by
    rw [hsize] at hi hpadding
    rw [covers_stream_iff hmax]
    omega
  rw [Message.bytes, Message.bytes, Memory.slice_getD _ _ _ _ hi, Memory.slice_getD _ _ _ _ hi,
    Nat.zero_add, Message.image_eq, Message.image_eq]
  exact Memory.storeAll_of_covers hcovers found found'

end Encoders

/-- What the send of the stream message hands to the socket `k`, and what it leaves. -/
structure HandsOver
    (p : Process)
    (s : SessionRef)
    (payload : Bytes)
    (replyExpected : Bool)
    (k : Socket)
    (handed : Handed)
    (p' : Process) : Prop where
  result : handed.result = k.sendSucceeds
  bytes : ∃ padding, padding.length = fillUp payload.length ∧
    handed.bytes = some (streamFrame (p.session s) payload replyExpected padding)
  replyList : p'.replyList = p.replyList ++
    if replyExpected then
      [{ completeMessageId := ReplyHandler.completeMessageId (p.session s).sessionId
           ((p.session s).messageIdCounter + 1)
         messageType := MessageType.streamData.code
         session := s }]
    else []
  session : p'.session s = { p.session s with
    messageIdCounter := (p.session s).messageIdCounter + 1
    socket := some k.countSend }

/-- Over a socket the frame is handed over, and a message that expects a reply is
recorded. -/
theorem handsOver_sendDataStream
    {cfg : Config}
    {payload : Bytes}
    (hmax : payload.length ≤ cfg.maxSingleMessageSize)
    (s : SessionRef)
    (p : Process)
    (replyExpected : Bool)
    {k : Socket}
    (hsocket : (p.session s).socket = some k)
    (found : Memory) :
    HandsOver p s payload replyExpected k
      { result := ((sendDataStream s payload replyExpected).run p).value
        bytes := (p.session s).socket.map fun _ =>
          (p.nextStream s payload replyExpected).bytes found }
      ((sendDataStream s payload replyExpected).run p).process := by
  have hrun : (sendDataStream s payload replyExpected).run p = _ := run_sendNew s _ p
  rw [run_sendMessage, Process.modifySession_same] at hrun
  simp only [hsocket] at hrun
  rw [hrun]
  constructor
  · rfl
  · refine ⟨found.slice (32 + payload.length) (fillUp payload.length),
      Memory.slice_length _ _ _, ?_⟩
    simp only [hsocket, Option.map_some, bytes_nextStream hmax]
  · have hrequired : (p.nextMessage s (.stream replyExpected payload)).replyRequired =
        replyExpected := by
      cases replyExpected with
      | true => exact show (0x1 &&& 0x1 != 0 : Bool) = true by decide
      | false => exact show (0x0 &&& 0x1 != 0 : Bool) = false by decide
    simp only [Process.modifySession_replyList, Process.record, hrequired]
    cases replyExpected with
    | true => rfl
    | false => exact (List.append_nil _).symm
  · simp

/-- For a payload at offset 32 of a buffer whose used size is that of header, payload
and footer, both encoders report the same and leave the same process, with the same
pending entry, and hand over the same frame but for the padding; the in-place encoder
keeps the payload and writes nothing beyond the capacity of the buffer.  Over a socket
both hand over the frame with header, payload and footer, which has the total size that
the header announces, and record a message that expects a reply. -/
theorem encoders_agree
    (cfg : Config)
    (s : SessionRef)
    (p : Process)
    (replyExpected : Bool)
    (found : Memory)
    (buf : DataBuffer)
    (payload : Bytes)
    (hmax : payload.length ≤ cfg.maxSingleMessageSize)
    (hpayload : buf.data.slice 32 payload.length = payload)
    (hused : buf.usedBufferSize.toNat = 40 + payload.length)
    (haligned : 8 ∣ buf.capacity)
    (hcapacity : buf.usedBufferSize.toNat ≤ buf.capacity) :
    let inPlace := (sendDataStreamBuffer s buf replyExpected).run p
    let copied := (sendDataStreamCopy s found payload replyExpected).run p
    (inPlace.value.1.result = copied.value.result ∧
      SameFrame payload.length inPlace.value.1.bytes copied.value.bytes ∧
      inPlace.process = copied.process ∧
      inPlace.value.2.data.slice 32 payload.length = payload ∧
      (∀ i, buf.capacity ≤ i → inPlace.value.2.data i = buf.data i) ∧
      AllInBounds buf.capacity inPlace.accesses) ∧
    ∀ k, (p.session s).socket = some k →
      HandsOver p s payload replyExpected k inPlace.value.1 inPlace.process ∧
      HandsOver p s payload replyExpected k copied.value copied.process ∧
      ∀ frame ∈ inPlace.value.1.bytes,
        frame.length = (Body.paddedMessageSize 32 (UInt32.ofNat payload.length)).toNat := by
  have htotal := toNat_streamSize hmax
  have hend : 32 + payload.length + fillUp payload.length + 8 ≤ buf.capacity := by
    obtain ⟨blocks, hblocks⟩ := haligned
    rw [fillUp]
    omega
  rw [run_sendDataStreamBuffer hmax s hpayload hused replyExpected p,
    sendDataStreamCopy_refines hmax s found replyExpected p]
  refine ⟨⟨rfl, ?_, rfl, slice_image_stream hmax s replyExpected p buf.data, ?_, ?_⟩, ?_⟩
  · cases (p.session s).socket with
    | none =>
        exact trivial
    | some k =>
        exact sameFrame_bytes hmax s replyExpected p buf.data found
  · intro i hi
    have hoff : ¬ Memory.Covers (p.nextStream s payload replyExpected).writes i := by
      rw [covers_stream_iff hmax]
      omega
    simp only
    rw [Message.image_eq]
    exact Memory.storeAll_of_not_covers hoff buf.data
  · simp only [allInBounds_write, allInBounds_nil, and_true]
    omega
  · intro k hsocket
    have hinPlace := handsOver_sendDataStream hmax s p replyExpected hsocket buf.data
    refine ⟨hinPlace, handsOver_sendDataStream hmax s p replyExpected hsocket found, ?_⟩
    intro frame hframe
    obtain ⟨padding, hpadding, hbytes⟩ := hinPlace.bytes
    rw [hbytes] at hframe
    obtain rfl := Option.some.inj hframe
    exact length_streamFrame hmax (p.session s) replyExpected hpadding

/-- A buffer of 48 bytes with a payload of 3 bytes: the footer lies at its end. -/
def threeByteBuffer : DataBuffer where
  data := Memory.store (fun _ => 0) 32 [1, 2, 3]
  capacity := 48
  usedBufferSize := 43

theorem encoders_agree_threeByteBuffer :
    let inPlace := (sendDataStreamBuffer 0 threeByteBuffer true).run readyProcess
    let copied := (sendDataStreamCopy 0 (fun _ => 0xFF) [1, 2, 3] true).run readyProcess
    (inPlace.value.1.result = copied.value.result ∧
      SameFrame 3 inPlace.value.1.bytes copied.value.bytes ∧
      inPlace.process = copied.process ∧
      inPlace.value.2.data.slice 32 3 = [1, 2, 3] ∧
      (∀ i, 48 ≤ i → inPlace.value.2.data i = threeByteBuffer.data i) ∧
      AllInBounds 48 inPlace.accesses) ∧
    ∀ k, (readyProcess.session 0).socket = some k →
      HandsOver readyProcess 0 [1, 2, 3] true k inPlace.value.1 inPlace.process ∧
      HandsOver readyProcess 0 [1, 2, 3] true k copied.value copied.process ∧
      ∀ frame ∈ inPlace.value.1.bytes, frame.length = (Body.paddedMessageSize 32 3).toNat :=
  encoders_agree Config.default 0 readyProcess true (fun _ => 0xFF) threeByteBuffer [1, 2, 3]
    (by decide) rfl rfl (by decide) (by decide)

end SakuraNetwork

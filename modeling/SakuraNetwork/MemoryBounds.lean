import SakuraNetwork.Callbacks

/-!
# Which frames are read inside their bounds

The receive path checks one length, the total message size of the header.  The
handlers use the other lengths of the frame, and the fixed offsets of their
message type, without comparing them with it.  `FrameFits` is the condition on
the frame under which every read stays inside of the frame and every copy inside
of its field.

* `processByType_inBounds_iff`: the condition on the handler of a frame.
* `delimiter_inBounds_iff`: the delimiter is read inside the frame exactly when
  the frame has at least one word.
* `processMessage_inBounds_iff`: both together, for the whole receive path.
-/

namespace SakuraNetwork

open Lib

/-- A read stays inside a frame of `total` bytes, a copy inside its field. -/
def Access.InBounds (total : Nat) : Access → Prop
  | .read offset size => size = 0 ∨ offset + size ≤ total
  | .write size capacity => size ≤ capacity

instance (total : Nat) : DecidablePred (Access.InBounds total)
  | .read offset size => inferInstanceAs (Decidable (size = 0 ∨ offset + size ≤ total))
  | .write size capacity => inferInstanceAs (Decidable (size ≤ capacity))

/-- All accesses of an operation are in bounds. -/
def AllInBounds (total : Nat) (accesses : List Access) : Prop :=
  ∀ a ∈ accesses, a.InBounds total

instance (total : Nat) (accesses : List Access) : Decidable (AllInBounds total accesses) :=
  inferInstanceAs (Decidable (∀ a ∈ accesses, a.InBounds total))

@[simp] theorem allInBounds_nil (total : Nat) : AllInBounds total [] := by
  intro a ha
  cases ha

@[simp] theorem allInBounds_read
    (total offset size : Nat)
    (accesses : List Access) :
    AllInBounds total (.read offset size :: accesses) ↔
      (size = 0 ∨ offset + size ≤ total) ∧ AllInBounds total accesses := by
  simp [AllInBounds, Access.InBounds]

@[simp] theorem allInBounds_write
    (total size capacity : Nat)
    (accesses : List Access) :
    AllInBounds total (.write size capacity :: accesses) ↔
      size ≤ capacity ∧ AllInBounds total accesses := by
  simp [AllInBounds, Access.InBounds]

@[simp] theorem allInBounds_append
    (total : Nat)
    (accesses accesses' : List Access) :
    AllInBounds total (accesses ++ accesses') ↔
      AllInBounds total accesses ∧ AllInBounds total accesses' := by
  simp only [AllInBounds, List.mem_append, or_imp, forall_and]

/-! ## Operations that touch no frame -/

section WithoutAccess

variable (s : SessionRef) (p : Process)

@[simp] theorem sendMessage_accesses (m : Message) :
    ((sendMessage s m).run p).accesses = [] := by
  rw [run_sendMessage]
  split <;> rfl

@[simp] theorem sendReply_accesses (messageId : UInt32) (body : Body) :
    ((sendReply s messageId body).run p).accesses = [] := by
  simp [sendReply]

@[simp] theorem sendNew_accesses (body : Body) :
    ((sendNew s body).run p).accesses = [] := by
  simp [sendNew]

@[simp] theorem sendErrorMessage_accesses
    (cfg : Config)
    (errorCode : ErrorCode)
    (errorMessage : Bytes) :
    ((sendErrorMessage cfg s errorCode errorMessage).run p).accesses = [] := by
  unfold sendErrorMessage
  split <;> simp

@[simp] theorem goToNextState_accesses
    (t : SessionTransition)
    (required : Option SessionState) :
    ((goToNextState s t required).run p).accesses = [] := by
  simp only [goToNextState, run_getSession_bind]
  split <;> simp

@[simp] theorem disconnectSession_accesses :
    ((disconnectSession s).run p).accesses = [] := by
  simp only [disconnectSession, run_goToNextState_bind]
  split
  · simp
  · simp only [if_true, run_getSession_bind]
    split <;> simp [closeSocket]

@[simp] theorem endSession_accesses :
    ((endSession s).run p).accesses = [] := by
  simp only [endSession, run_goToNextState_bind]
  split
  · simp
  · simp [Act.run_bind]

@[simp] theorem connectiSession_accesses (sessionId : UInt32) :
    ((connectiSession s sessionId).run p).accesses = [] := by
  simp only [connectiSession, run_getSession_bind, Act.run_ite]
  split
  · split
    · simp
    · simp only [Act.run_ite]
      split
      · simp only [run_modifySession_bind, run_goToNextState_bind]
        split <;> simp
      · simp
  · simp

@[simp] theorem makeSessionReady_accesses
    (sessionId : UInt32)
    (sessionIdentifier : Bytes) :
    ((makeSessionReady s sessionId sessionIdentifier).run p).accesses = [] := by
  simp only [makeSessionReady, run_goToNextState_bind]
  split <;> simp

end WithoutAccess

/-! ## The lengths a frame may have -/

/-- The frame fits the handler of its type and subtype.  `header` is the header
at the front of `rawMessage`. -/
@[mk_iff] structure HandlerFits
    (p : Process)
    (s : SessionRef)
    (header : CommonMessageHeader)
    (rawMessage : Memory) : Prop where
  stream : header.type = MessageType.streamData.code →
    header.subType = StreamDataSubType.static.code →
    32 + header.payloadSize.toNat ≤ header.totalMessageSize.toNat
  singleBlock : header.type = MessageType.singleblockData.code →
    header.subType = SingleblockDataSubType.data.code →
    40 ≤ header.totalMessageSize.toNat ∧
    (header.flags &&& 0x8 ≠ 0 → 48 ≤ header.totalMessageSize.toNat) ∧
    (header.payloadSize.toNat ≠ 0 →
      52 + header.payloadSize.toNat ≤ header.totalMessageSize.toNat)
  multiStatic : header.type = MessageType.multiblockData.code →
    header.subType = MultiblockDataSubType.static.code →
    56 ≤ header.totalMessageSize.toNat ∧
    (((p.session s).incomingBuffer.find (UInt64.ofNat (rawMessage.word 40 8))).isSome = true ∨
      UInt32.ofNat (rawMessage.word 52 4) = 0 ∧
        p.allocation (UInt64.ofNat (rawMessage.word 32 8)) = true →
      56 + header.payloadSize.toNat ≤ header.totalMessageSize.toNat)
  multiFinish : header.type = MessageType.multiblockData.code →
    header.subType = MultiblockDataSubType.finish.code →
    40 ≤ header.totalMessageSize.toNat ∧
    (header.flags &&& 0x8 ≠ 0 → 48 ≤ header.totalMessageSize.toNat)
  sessionInitStart : header.type = MessageType.session.code →
    header.subType = SessionSubType.initStart.code →
    64040 ≤ header.totalMessageSize.toNat ∧ rawMessage.word 64036 4 ≤ 64000
  sessionInitReply : header.type = MessageType.session.code →
    header.subType = SessionSubType.initReply.code →
    64044 ≤ header.totalMessageSize.toNat ∧
    40 + rawMessage.word 64040 4 ≤ header.totalMessageSize.toNat
  sessionClose : header.type = MessageType.session.code →
    header.subType = SessionSubType.closeStart.code ∨
      header.subType = SessionSubType.closeReply.code →
    36 ≤ header.totalMessageSize.toNat
  heartbeat : header.type = MessageType.heartbeat.code →
    header.subType = HeartbeatSubType.start.code →
    24 ≤ header.totalMessageSize.toNat
  error : header.type = MessageType.error.code →
    header.subType = ErrorSubType.falseVersion.code ∨
      header.subType = ErrorSubType.unknownSession.code ∨
      header.subType = ErrorSubType.invalidMessage.code →
    40 + rawMessage.word 32 8 ≤ header.totalMessageSize.toNat

/-- The frame has at least one word, and if its delimiter is right, it fits its
handler. -/
structure FrameFits
    (p : Process)
    (s : SessionRef)
    (header : CommonMessageHeader)
    (rawMessage : Memory) : Prop where
  delimiter : 4 ≤ header.totalMessageSize.toNat
  handler : delimiterOf header rawMessage = messageDelimiter →
    HandlerFits p s header rawMessage

/-! ## The handlers -/

section Handlers

variable (s : SessionRef) (rawMessage : Memory) (p : Process) (total : Nat)

@[simp] theorem word_mod (m : Memory) (offset : Nat) :
    m.word offset 4 % 4294967296 = m.word offset 4 :=
  Nat.mod_eq_of_lt (m.word_lt offset 4)

@[simp] theorem longWord_mod (m : Memory) (offset : Nat) :
    m.word offset 8 % 18446744073709551616 = m.word offset 8 :=
  Nat.mod_eq_of_lt (m.word_lt offset 8)

theorem processDataStream_inBounds_iff :
    AllInBounds total ((processDataStream s rawMessage).run p).accesses ↔
      32 + rawMessage.word 28 4 ≤ total := by
  by_cases hflag : rawMessage 7 &&& 0x1 = 0
  · simp [processDataStream, hflag]
    omega
  · simp [processDataStream, hflag, sendDataStreamReply]
    omega

theorem processDataSingleBlock_inBounds_iff :
    AllInBounds total ((processDataSingleBlock s rawMessage).run p).accesses ↔
      40 ≤ total ∧
      (rawMessage 7 &&& 0x8 ≠ 0 → 48 ≤ total) ∧
      (rawMessage.word 28 4 ≠ 0 → 52 + rawMessage.word 28 4 ≤ total) := by
  by_cases hresponse : rawMessage 7 &&& 0x8 = 0
  · by_cases hflag : rawMessage 7 &&& 0x1 = 0
    · simp [processDataSingleBlock, hresponse, hflag]
      omega
    · simp [processDataSingleBlock, hresponse, hflag, sendDataSingleBlockReply]
      omega
  · by_cases hflag : rawMessage 7 &&& 0x1 = 0
    · simp [processDataSingleBlock, hresponse, hflag]
      omega
    · simp [processDataSingleBlock, hresponse, hflag, sendDataSingleBlockReply]
      omega

/-- The payload of a part is read when its buffer exists after the creation. -/
theorem processDataMultiblock_inBounds_iff :
    AllInBounds total ((processDataMultiblock s rawMessage).run p).accesses ↔
      56 ≤ total ∧
      (((p.session s).incomingBuffer.find (UInt64.ofNat (rawMessage.word 40 8))).isSome = true ∨
        UInt32.ofNat (rawMessage.word 52 4) = 0 ∧
          p.allocation (UInt64.ofNat (rawMessage.word 32 8)) = true →
        56 + rawMessage.word 28 4 ≤ total) := by
  have hwrite : ∀ (q : Process) (id : UInt64),
      AllInBounds total ((MultiblockIo.writeIntoIncomingBuffer s id
        (readBytes rawMessage 56 (rawMessage.word 28 4))).run q).accesses ↔
      (((q.session s).incomingBuffer.find id).isSome = true →
        rawMessage.word 28 4 = 0 ∨ 56 + rawMessage.word 28 4 ≤ total) := by
    intro q id
    cases hfind : (q.session s).incomingBuffer.find id with
    | none =>
        simp [MultiblockIo.writeIntoIncomingBuffer, hfind]
    | some buffer =>
        simp [MultiblockIo.writeIntoIncomingBuffer, hfind]
  have hcreated : ∀ (m : OrderedMap UInt64 MultiblockBuffer) (id : UInt64) (b : MultiblockBuffer),
      ((m.emplace id b).find id).isSome = true := by
    intro m id b
    rw [OrderedMap.find_emplace]
    cases hfind : m.find id with
    | none =>
        simp
    | some b' =>
        simp
  by_cases hpart : UInt32.ofNat (rawMessage.word 52 4) = 0
  · by_cases halloc : p.allocation (UInt64.ofNat (rawMessage.word 32 8)) = true
    · simp [processDataMultiblock, MultiblockIo.createIncomingBuffer, hpart, halloc, hwrite,
        hcreated]
      omega
    · cases hfound : ((p.session s).incomingBuffer.find
          (UInt64.ofNat (rawMessage.word 40 8))).isSome with
      | false =>
          simp [processDataMultiblock, MultiblockIo.createIncomingBuffer, hpart, halloc, hwrite,
            hfound]
          omega
      | true =>
          simp [processDataMultiblock, MultiblockIo.createIncomingBuffer, hpart, halloc, hwrite,
            hfound]
          omega
  · cases hfound : ((p.session s).incomingBuffer.find
        (UInt64.ofNat (rawMessage.word 40 8))).isSome with
    | false =>
        simp [processDataMultiblock, hpart, hwrite, hfound]
        omega
    | true =>
        simp [processDataMultiblock, hpart, hwrite, hfound]
        omega

theorem processDataMultiFinish_inBounds_iff :
    AllInBounds total ((processDataMultiFinish s rawMessage).run p).accesses ↔
      40 ≤ total ∧ (rawMessage 7 &&& 0x8 ≠ 0 → 48 ≤ total) := by
  by_cases hresponse : rawMessage 7 &&& 0x8 = 0
  · simp [processDataMultiFinish, hresponse]
    omega
  · simp [processDataMultiFinish, hresponse]
    omega

theorem processSessionInitStart_inBounds_iff :
    AllInBounds total ((processSessionInitStart s rawMessage).run p).accesses ↔
      64040 ≤ total ∧ rawMessage.word 64036 4 ≤ 64000 := by
  simp [processSessionInitStart, sendSessionInitReply]
  omega

theorem processSessionInitReply_inBounds_iff :
    AllInBounds total ((processSessionInitReply s rawMessage).run p).accesses ↔
      64044 ≤ total ∧ 40 + rawMessage.word 64040 4 ≤ total := by
  simp [processSessionInitReply]
  omega

theorem processSessionCloseStart_inBounds_iff :
    AllInBounds total ((processSessionCloseStart s rawMessage).run p).accesses ↔
      36 ≤ total := by
  simp [processSessionCloseStart, sendSessionCloseReply]
  omega

theorem processSessionCloseReply_inBounds_iff :
    AllInBounds total ((processSessionCloseReply s rawMessage).run p).accesses ↔
      36 ≤ total := by
  simp [processSessionCloseReply]

theorem processHeartbeatStart_inBounds_iff :
    AllInBounds total ((processHeartbeatStart s rawMessage).run p).accesses ↔
      24 ≤ total := by
  simp [processHeartbeatStart, sendHeartbeatReply]

theorem processErrorMessage_inBounds_iff (errorCode : ErrorCode) :
    AllInBounds total ((processErrorMessage s errorCode rawMessage).run p).accesses ↔
      40 + rawMessage.word 32 8 ≤ total := by
  simp [processErrorMessage]
  omega

end Handlers

/-! ## The receive path -/

section ReceivePath

variable (s : SessionRef) (rawMessage : Memory) (p : Process)

theorem headerOf_payloadSize :
    (headerOf rawMessage).payloadSize.toNat = rawMessage.word 28 4 := by
  simp [CommonMessageHeader.ofMemory]

theorem headerOf_flags : (headerOf rawMessage).flags = rawMessage 7 := rfl

theorem processStreamDataType_inBounds_iff (total : Nat) :
    AllInBounds total ((processStreamDataType s (headerOf rawMessage) rawMessage).run p).accesses ↔
      ((headerOf rawMessage).subType = StreamDataSubType.static.code →
        32 + (headerOf rawMessage).payloadSize.toNat ≤ total) := by
  rw [headerOf_payloadSize]
  by_cases hsub : (headerOf rawMessage).subType = StreamDataSubType.static.code
  · simp [processStreamDataType, hsub, processDataStream_inBounds_iff]
  · simp [processStreamDataType, hsub]

theorem processSingleBlockDataType_inBounds_iff (total : Nat) :
    AllInBounds total
        ((processSingleBlockDataType s (headerOf rawMessage) rawMessage).run p).accesses ↔
      ((headerOf rawMessage).subType = SingleblockDataSubType.data.code →
        40 ≤ total ∧
        ((headerOf rawMessage).flags &&& 0x8 ≠ 0 → 48 ≤ total) ∧
        ((headerOf rawMessage).payloadSize.toNat ≠ 0 →
          52 + (headerOf rawMessage).payloadSize.toNat ≤ total)) := by
  rw [headerOf_payloadSize, headerOf_flags]
  by_cases hsub : (headerOf rawMessage).subType = SingleblockDataSubType.data.code
  · simp [processSingleBlockDataType, hsub, processDataSingleBlock_inBounds_iff]
  · simp [processSingleBlockDataType, hsub]

theorem processMultiBlockDataType_inBounds_iff (total : Nat) :
    AllInBounds total
        ((processMultiBlockDataType s (headerOf rawMessage) rawMessage).run p).accesses ↔
      ((headerOf rawMessage).subType = MultiblockDataSubType.static.code →
        56 ≤ total ∧
        (((p.session s).incomingBuffer.find
            (UInt64.ofNat (rawMessage.word 40 8))).isSome = true ∨
          UInt32.ofNat (rawMessage.word 52 4) = 0 ∧
            p.allocation (UInt64.ofNat (rawMessage.word 32 8)) = true →
          56 + (headerOf rawMessage).payloadSize.toNat ≤ total)) ∧
      ((headerOf rawMessage).subType = MultiblockDataSubType.finish.code →
        40 ≤ total ∧ ((headerOf rawMessage).flags &&& 0x8 ≠ 0 → 48 ≤ total)) := by
  rw [headerOf_payloadSize, headerOf_flags]
  by_cases hstatic : (headerOf rawMessage).subType = 1
  · simp [processMultiBlockDataType, MultiblockDataSubType.code, hstatic,
      processDataMultiblock_inBounds_iff]
  · by_cases hfinish : (headerOf rawMessage).subType = 2
    · simp [processMultiBlockDataType, MultiblockDataSubType.code, hfinish,
        processDataMultiFinish_inBounds_iff]
    · simp [processMultiBlockDataType, MultiblockDataSubType.code, hstatic, hfinish]

theorem processSessionType_inBounds_iff (total : Nat) :
    AllInBounds total ((processSessionType s (headerOf rawMessage) rawMessage).run p).accesses ↔
      ((headerOf rawMessage).subType = SessionSubType.initStart.code →
        64040 ≤ total ∧ rawMessage.word 64036 4 ≤ 64000) ∧
      ((headerOf rawMessage).subType = SessionSubType.initReply.code →
        64044 ≤ total ∧ 40 + rawMessage.word 64040 4 ≤ total) ∧
      ((headerOf rawMessage).subType = SessionSubType.closeStart.code ∨
        (headerOf rawMessage).subType = SessionSubType.closeReply.code → 36 ≤ total) := by
  by_cases hinitStart : (headerOf rawMessage).subType = 1
  · simp [processSessionType, SessionSubType.code, hinitStart,
      processSessionInitStart_inBounds_iff]
  · by_cases hinitReply : (headerOf rawMessage).subType = 2
    · simp [processSessionType, SessionSubType.code, hinitReply,
        processSessionInitReply_inBounds_iff]
    · by_cases hcloseStart : (headerOf rawMessage).subType = 3
      · simp [processSessionType, SessionSubType.code, hcloseStart,
          processSessionCloseStart_inBounds_iff]
      · by_cases hcloseReply : (headerOf rawMessage).subType = 4
        · simp [processSessionType, SessionSubType.code, hcloseReply,
            processSessionCloseReply_inBounds_iff]
        · simp [processSessionType, SessionSubType.code, hinitStart, hinitReply, hcloseStart,
            hcloseReply]

theorem processHeartbeatType_inBounds_iff (total : Nat) :
    AllInBounds total ((processHeartbeatType s (headerOf rawMessage) rawMessage).run p).accesses ↔
      ((headerOf rawMessage).subType = HeartbeatSubType.start.code → 24 ≤ total) := by
  by_cases hsub : (headerOf rawMessage).subType = HeartbeatSubType.start.code
  · simp [processHeartbeatType, hsub, processHeartbeatStart_inBounds_iff]
  · simp [processHeartbeatType, hsub]

theorem processErrorType_inBounds_iff (total : Nat) :
    AllInBounds total ((processErrorType s (headerOf rawMessage) rawMessage).run p).accesses ↔
      ((headerOf rawMessage).subType = ErrorSubType.falseVersion.code ∨
        (headerOf rawMessage).subType = ErrorSubType.unknownSession.code ∨
        (headerOf rawMessage).subType = ErrorSubType.invalidMessage.code →
        40 + rawMessage.word 32 8 ≤ total) := by
  by_cases hversion : (headerOf rawMessage).subType = 1
  · simp [processErrorType, ErrorSubType.code, hversion, processErrorMessage_inBounds_iff]
  · by_cases hsession : (headerOf rawMessage).subType = 2
    · simp [processErrorType, ErrorSubType.code, hsession, processErrorMessage_inBounds_iff]
    · by_cases hmessage : (headerOf rawMessage).subType = 3
      · simp [processErrorType, ErrorSubType.code, hmessage, processErrorMessage_inBounds_iff]
      · simp [processErrorType, ErrorSubType.code, hversion, hsession, hmessage]

/-- The handler that the type selects stays in bounds exactly when the frame fits
it. -/
theorem processByType_inBounds_iff :
    (∀ handler, processByType s (headerOf rawMessage) rawMessage = some handler →
      AllInBounds (headerOf rawMessage).totalMessageSize.toNat (handler.run p).accesses) ↔
    HandlerFits p s (headerOf rawMessage) rawMessage := by
  rw [handlerFits_iff]
  by_cases hstream : (headerOf rawMessage).type = 4
  · simp [hstream, processByType, MessageType.code, processStreamDataType_inBounds_iff]
  · by_cases hsingle : (headerOf rawMessage).type = 5
    · simp [hsingle, processByType, MessageType.code, processSingleBlockDataType_inBounds_iff]
    · by_cases hmulti : (headerOf rawMessage).type = 6
      · simp [hmulti, processByType, MessageType.code, processMultiBlockDataType_inBounds_iff]
      · by_cases hsession : (headerOf rawMessage).type = 1
        · simp [hsession, processByType, MessageType.code, processSessionType_inBounds_iff]
        · by_cases hheartbeat : (headerOf rawMessage).type = 2
          · simp [hheartbeat, processByType, MessageType.code, processHeartbeatType_inBounds_iff]
          · by_cases herror : (headerOf rawMessage).type = 3
            · simp [herror, processByType, MessageType.code, processErrorType_inBounds_iff]
            · simp [hstream, hsingle, hmulti, hsession, hheartbeat, herror, processByType,
                MessageType.code]

end ReceivePath

/-- The delimiter is read inside the frame exactly when there is a word in it. -/
theorem delimiter_inBounds_iff (totalMessageSize : UInt32) :
    endPosition totalMessageSize + 4 ≤ totalMessageSize.toNat ↔
      4 ≤ totalMessageSize.toNat := by
  have hlt := totalMessageSize.toNat_lt
  simp only [endPosition, UInt32.toNat_sub, UInt32.toNat_div, UInt32.reduceToNat]
  omega

/-- Behind the delimiter check a frame is read in bounds exactly when it fits its
handler. -/
theorem processFrame_inBounds_iff
    (s : SessionRef)
    (rawMessage : Memory)
    (p : Process) :
    AllInBounds (headerOf rawMessage).totalMessageSize.toNat
        ((processFrame s (headerOf rawMessage) rawMessage).run p).accesses ↔
      HandlerFits p s (headerOf rawMessage) rawMessage := by
  have hsame : ∀ q : Process, q.session = p.session → q.allocation = p.allocation →
      (HandlerFits q s (headerOf rawMessage) rawMessage ↔
        HandlerFits p s (headerOf rawMessage) rawMessage) := by
    intro q hsession hallocation
    rw [handlerFits_iff, handlerFits_iff, hsession, hallocation]
  cases hhandler : processByType s (headerOf rawMessage) rawMessage with
  | none =>
      have hfits : HandlerFits p s (headerOf rawMessage) rawMessage := by
        rw [← processByType_inBounds_iff]
        intro handler hsome
        rw [hhandler] at hsome
        cases hsome
      by_cases hreply : (headerOf rawMessage).flags &&& 0x2 = 0
      · simp [processFrame, hhandler, hreply, hfits]
      · simp [processFrame, hhandler, hreply, hfits]
  | some handler =>
      have hiff := fun q : Process => processByType_inBounds_iff s rawMessage q
      simp only [hhandler, Option.some.injEq, forall_eq'] at hiff
      by_cases hreply : (headerOf rawMessage).flags &&& 0x2 = 0
      · simp [processFrame, hhandler, hreply, hiff]
      · simp [processFrame, hhandler, hreply, hiff, hsame]

/-- The receive path reads inside the frame and copies inside the fields exactly
when the lengths of the frame fit. -/
theorem processMessage_inBounds_iff
    (cfg : Config)
    (s : SessionRef)
    (p : Process)
    (buf : RingBuffer)
    (header : CommonMessageHeader)
    (h : ObtainsFrame buf header) :
    AllInBounds header.totalMessageSize.toNat
        ((processMessage cfg s buf).run p).accesses ↔
      FrameFits p s header buf.memory := by
  have hend : endPosition header.totalMessageSize + 4 ≤ header.totalMessageSize.toNat ↔
      4 ≤ header.totalMessageSize.toNat := delimiter_inBounds_iff _
  have hframe := processFrame_inBounds_iff s buf.memory p
  rw [← h.header_eq] at hframe
  by_cases hdelimiter : delimiterOf header buf.memory = messageDelimiter
  · rw [h.run_processMessage cfg s p hdelimiter, allInBounds_read, hframe, hend]
    constructor
    · rintro ⟨hdel, hfits⟩
      exact ⟨by simpa using hdel, fun _ => hfits⟩
    · rintro ⟨hdel, hfits⟩
      exact ⟨.inr hdel, hfits hdelimiter⟩
  · rw [h.run_processMessage_mismatch cfg s p hdelimiter, allInBounds_read, hend]
    constructor
    · rintro ⟨hdel, _⟩
      exact ⟨by simpa using hdel, fun hmatch => absurd hmatch hdelimiter⟩
    · rintro ⟨hdel, _⟩
      exact ⟨.inr hdel, by simp⟩

/-- A receive buffer with one frame. -/
def bufferOf (header : CommonMessageHeader) (rest : Bytes) : RingBuffer where
  unread := header.bytes ++ rest ++ footerBytes
  beyond := fun _ => 0

theorem processMessage_inBounds_iff_heartbeat :
    AllInBounds 40 ((processMessage .default 0
        (bufferOf { type := 2, subType := 1, totalMessageSize := 40 } [])).run
          (.created (fun _ => none))).accesses ↔
      FrameFits (.created (fun _ => none)) 0
        { type := 2, subType := 1, totalMessageSize := 40 }
        (bufferOf { type := 2, subType := 1, totalMessageSize := 40 } []).memory :=
  processMessage_inBounds_iff .default 0 (.created (fun _ => none))
    (bufferOf { type := 2, subType := 1, totalMessageSize := 40 } [])
    { type := 2, subType := 1, totalMessageSize := 40 }
    ⟨by decide, by decide, by decide, by decide⟩

/-- A stream frame of 40 bytes that announces a payload of 1000 bytes is read far
behind its end. -/
theorem not_processMessage_inBounds :
    ¬ ∀ (cfg : Config) (s : SessionRef) (p : Process) (buf : RingBuffer)
        (header : CommonMessageHeader),
      ObtainsFrame buf header →
      AllInBounds header.totalMessageSize.toNat
        ((processMessage cfg s buf).run p).accesses := by
  intro h
  have hbounds := h .default 0 (.created (fun _ => none))
    (bufferOf { type := 4, subType := 1, totalMessageSize := 40, payloadSize := 1000 } [])
    { type := 4, subType := 1, totalMessageSize := 40, payloadSize := 1000 }
    ⟨by decide, by decide, by decide, by decide⟩
  have hread : Access.read 32 1000 ∈
      ((processMessage .default 0
        (bufferOf { type := 4, subType := 1, totalMessageSize := 40, payloadSize := 1000 } [])).run
          (.created (fun _ => none))).accesses := by
    decide
  exact absurd (hbounds _ hread) (by decide)

end SakuraNetwork

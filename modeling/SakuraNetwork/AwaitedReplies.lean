import SakuraNetwork.PendingReplies

/-!
# The message a received reply clears

A frame with the flag 0x2 removes the first pending message of the key made of the
session id and the message id in its header.  Neither the session it arrived on nor
its type is looked at.

* `replyList_reply`: what such a frame leaves of the list.
* `clears_awaited_iff`: it clears the message it answers exactly when the first
  message of its key was sent over its session with its type.
-/

namespace SakuraNetwork

open Lib

/-! ## What a reply leaves -/

/-- A message that requires no reply is sent without a record. -/
theorem keeps_sendReply
    (body : Body)
    (h : body.flags &&& 0x1 = 0)
    (s : SessionRef)
    (messageId : UInt32) :
    (sendReply s messageId body).Within keepsReplies := by
  intro p
  rw [run_sendReply]
  exact replyList_sendMessage (by simp [Message.replyRequired, h]) p

theorem keeps_emit (o : Output) : (Act.emit o).Within keepsReplies :=
  fun _ => rfl

theorem keeps_releaseMessage (id : UInt64) (data : Option Bytes) :
    (MessageBlockerHandler.releaseMessage id data).Within keepsReplies := by
  intro p
  rw [MessageBlockerHandler.releaseMessage_process]
  rfl

theorem keeps_processStreamDataType
    (s : SessionRef)
    (header : CommonMessageHeader)
    (rawMessage : Memory) :
    (processStreamDataType s header rawMessage).Within keepsReplies := by
  refine Act.Within.ite (fun _ => ?_) fun _ => Act.Within.pure ()
  refine Act.Within.readUInt32 (Act.Within.readBytes ((keeps_emit _).bind fun _ => ?_))
  refine Act.Within.readUInt8 (Act.Within.ite (fun _ => ?_) fun _ => Act.Within.pure ())
  exact Act.Within.readUInt32
    ((keeps_sendReply .streamReply (by decide) s _).bind fun _ => Act.Within.pure ())

theorem keeps_processSingleBlockDataType
    (s : SessionRef)
    (header : CommonMessageHeader)
    (rawMessage : Memory) :
    (processSingleBlockDataType s header rawMessage).Within keepsReplies := by
  have hreply : (do
      if rawMessage 7 &&& 0x1 != 0 then
        let messageId ← readUInt32 rawMessage 20
        let _ ← sendDataSingleBlockReply s messageId : Act Unit).Within keepsReplies := by
    refine Act.Within.ite (fun _ => ?_) fun _ => Act.Within.pure ()
    exact Act.Within.readUInt32
      ((keeps_sendReply .singleBlockReply (by decide) s _).bind fun _ =>
        Act.Within.pure ())
  refine Act.Within.ite (fun _ => ?_) fun _ => Act.Within.pure ()
  refine Act.Within.readUInt32 (Act.Within.readBytes (Act.Within.readUInt8 ?_))
  refine Act.Within.ite (fun _ => ?_) fun _ => ?_
  · exact Act.Within.readUInt64 ((keeps_releaseMessage _ _).bind fun _ => hreply)
  · exact Act.Within.readUInt64 ((keeps_emit _).bind fun _ => hreply)

theorem keeps_processMultiBlockDataType
    (s : SessionRef)
    (header : CommonMessageHeader)
    (rawMessage : Memory) :
    (processMultiBlockDataType s header rawMessage).Within keepsReplies := by
  refine Act.Within.ite (fun _ => ?_) fun _ => Act.Within.ite (fun _ => ?_) fun _ =>
    Act.Within.pure ()
  · have hcreate : ∀ id size,
        (MultiblockIo.createIncomingBuffer s id size).Within keepsReplies := by
      intro id size p
      rw [MultiblockIo.createIncomingBuffer_process]
      split <;> rfl
    have hwrite : (do
        let multiblockId ← readUInt64 rawMessage 40
        let payloadSize ← readUInt32 rawMessage 28
        let _ ← MultiblockIo.writeIntoIncomingBuffer s multiblockId
          (readBytes rawMessage 56 payloadSize.toNat) : Act Unit).Within keepsReplies := by
      refine Act.Within.readUInt64 (Act.Within.readUInt32 (Act.Within.bind ?_ fun _ =>
        Act.Within.pure ()))
      intro p
      rw [MultiblockIo.writeIntoIncomingBuffer_process (fun _ => ⟨rfl, rfl⟩)]
      rfl
    refine Act.Within.readUInt32 (Act.Within.ite (fun _ => ?_) fun _ => hwrite)
    exact Act.Within.readUInt64 (Act.Within.readUInt64 ((hcreate _ _).bind fun _ => hwrite))
  · have hremove : ∀ id, (do
        let _ ← MultiblockIo.removeMultiblockBuffer s id : Act Unit).Within keepsReplies := by
      intro id p
      rw [Act.run_bind, MultiblockIo.run_removeMultiblockBuffer]
      rfl
    refine Act.Within.readUInt64 (Act.Within.bind (within_getIncomingBuffer _) fun _ => ?_)
    refine Act.Within.readUInt8 (Act.Within.ite (fun _ => ?_) fun _ => ?_)
    · exact Act.Within.readUInt64 ((keeps_releaseMessage _ _).bind fun _ => hremove _)
    · exact (keeps_emit _).bind fun _ => hremove _

theorem keeps_processHeartbeatType
    (s : SessionRef)
    (header : CommonMessageHeader)
    (rawMessage : Memory) :
    (processHeartbeatType s header rawMessage).Within keepsReplies := by
  refine Act.Within.ite (fun _ => ?_) fun _ => Act.Within.pure ()
  exact Act.Within.readUInt32
    ((keeps_sendReply .heartbeatReply (by decide) s _).bind fun _ => Act.Within.pure ())

theorem keeps_processErrorType
    (s : SessionRef)
    (header : CommonMessageHeader)
    (rawMessage : Memory) :
    (processErrorType s header rawMessage).Within keepsReplies := by
  have hmessage : ∀ code, (processErrorMessage s code rawMessage).Within keepsReplies :=
    fun code => Act.Within.readUInt64 (Act.Within.readBytes (keeps_emit _))
  refine Act.Within.bind (fun _ => rfl) fun _ => ?_
  exact Act.Within.ite (fun _ => hmessage _) fun _ => Act.Within.ite (fun _ => hmessage _) fun _ =>
    Act.Within.ite (fun _ => hmessage _) fun _ => Act.Within.pure ()

theorem keeps_processSessionType
    (s : SessionRef)
    (header : CommonMessageHeader)
    (rawMessage : Memory) :
    (processSessionType s header rawMessage).Within keepsReplies := by
  intro p
  have hresult := processSessionType_result s header rawMessage p
  cases hframe : sessionFrameOf header rawMessage with
  | none =>
      simp only [hframe, Outcome.result, Prod.mk.injEq] at hresult
      rw [hresult.2.1, hresult.2.2]
      exact keepsReplies.refl p
  | some f =>
      simp only [hframe, Outcome.result, Prod.mk.injEq] at hresult
      rw [hresult.2.1, hresult.2.2]
      exact f.replyList_handle s _ p

/-- No handler records a message: what it sends is a reply. -/
theorem keeps_processByType
    {s : SessionRef}
    {header : CommonMessageHeader}
    {rawMessage : Memory}
    {handler : Act Unit}
    (hby : processByType s header rawMessage = some handler) :
    handler.Within keepsReplies := by
  unfold processByType at hby
  split at hby
  · cases hby
    exact keeps_processStreamDataType s header rawMessage
  · split at hby
    · cases hby
      exact keeps_processSingleBlockDataType s header rawMessage
    · split at hby
      · cases hby
        exact keeps_processMultiBlockDataType s header rawMessage
      · split at hby
        · cases hby
          exact keeps_processSessionType s header rawMessage
        · split at hby
          · cases hby
            exact keeps_processHeartbeatType s header rawMessage
          · split at hby
            · cases hby
              exact keeps_processErrorType s header rawMessage
            · cases hby

/-- A frame only removes the message of its key, if it is marked as a reply. -/
theorem replyList_frame
    (cfg : Config)
    (s : SessionRef)
    {buf : RingBuffer}
    {header : CommonMessageHeader}
    {rawMessage : Memory}
    (hobtained : buf.obtained = .frame header rawMessage)
    (p : Process) :
    ((processMessage cfg s buf).run p).process.replyList = (p.withoutReplied buf).replyList := by
  cases hby : processByType s header rawMessage with
  | none =>
      rw [processMessage_unknown cfg s hobtained hby p]
  | some handler =>
      rw [(processMessage_frame cfg s hobtained hby p).1]
      exact keeps_processByType hby (p.withoutReplied buf)

/-- The list after a frame with the flag 0x2. -/
theorem replyList_reply
    (cfg : Config)
    (s : SessionRef)
    {buf : RingBuffer}
    {header : CommonMessageHeader}
    {rawMessage : Memory}
    (hobtained : buf.obtained = .frame header rawMessage)
    (hreply : header.flags &&& 0x2 ≠ 0)
    (p : Process) :
    ((processMessage cfg s buf).run p).process.replyList =
      ReplyHandler.withoutMessage
        (ReplyHandler.completeMessageId header.sessionId header.messageId) p.replyList := by
  have hreplied : buf.replied =
      some (ReplyHandler.completeMessageId header.sessionId header.messageId) := by
    simp [RingBuffer.replied, hobtained, hreply]
  rw [replyList_frame cfg s hobtained, Process.withoutReplied, hreplied]

/-! ## The awaited reply -/

/-- The pending message is the one the frame answers: it was sent over the session,
with the message id and the type of the frame. -/
def MessageTime.AnsweredBy
    (m : MessageTime)
    (s : SessionRef)
    (header : CommonMessageHeader) : Prop :=
  m.session = s ∧ m.completeMessageId.toNat / 2 ^ 32 = header.messageId.toNat ∧
    m.messageType = header.type

/-- At most one pending message is removed, and only one that the frame answers. -/
def ClearsAwaited
    (s : SessionRef)
    (header : CommonMessageHeader)
    (before after : List MessageTime) : Prop :=
  ∃ removed : List MessageTime,
    before.Perm (removed ++ after) ∧ removed.length ≤ 1 ∧ ∀ m ∈ removed, m.AnsweredBy s header

/-- A frame with the flag 0x2 clears only the message it answers exactly when the
first pending message of its key, if there is one, was sent over the session it is
received on, with its type. -/
theorem clears_awaited_iff
    (cfg : Config)
    (s : SessionRef)
    {buf : RingBuffer}
    {header : CommonMessageHeader}
    {rawMessage : Memory}
    (hobtained : buf.obtained = .frame header rawMessage)
    (hreply : header.flags &&& 0x2 ≠ 0)
    (p : Process) :
    ClearsAwaited s header p.replyList ((processMessage cfg s buf).run p).process.replyList ↔
      ∀ m, p.replyList.find? (fun m => m.completeMessageId ==
        ReplyHandler.completeMessageId header.sessionId header.messageId) = some m →
          m.session = s ∧ m.messageType = header.type := by
  rw [replyList_reply cfg s hobtained hreply, ReplyHandler.withoutMessage]
  cases htake : ReplyHandler.removeMessageFromList
      (ReplyHandler.completeMessageId header.sessionId header.messageId) p.replyList with
  | none =>
      have hnone := (takeFirst_eq_none_iff _ _).mp htake
      rw [withoutFirst_of_none htake]
      constructor
      · intro _ m hfind
        have hkey := hnone m (List.mem_of_find?_eq_some hfind)
        have hsome := List.find?_some hfind
        rw [hkey] at hsome
        cases hsome
      · intro _
        exact ⟨[], List.Perm.refl _, Nat.zero_le _, fun m hm => absurd hm List.not_mem_nil⟩
  | some found =>
      obtain ⟨first, rest⟩ := found
      have hfind := find_of_takeFirst htake
      have hperm := takeFirst_perm htake
      have hkey : first.completeMessageId.toNat / 2 ^ 32 = header.messageId.toNat := by
        have hid : first.completeMessageId =
            ReplyHandler.completeMessageId header.sessionId header.messageId := by
          simpa using takeFirst_pred htake
        have hlt := header.sessionId.toNat_lt
        rw [hid, ReplyHandler.completeMessageId_toNat]
        omega
      rw [hfind, withoutFirst_of_some htake]
      constructor
      · rintro ⟨removed, hremoved, _, hanswered⟩ m hm
        obtain rfl := Option.some.inj hm
        have hsingle : ([first] ++ rest).Perm (removed ++ rest) := hperm.symm.trans hremoved
        have hmem : first ∈ removed :=
          ((List.perm_append_right_iff rest).mp hsingle).mem_iff.mp List.mem_cons_self
        obtain ⟨hs, _, htype⟩ := hanswered first hmem
        exact ⟨hs, htype⟩
      · intro h
        obtain ⟨hs, htype⟩ := h first rfl
        refine ⟨[first], hperm, Nat.le_refl 1, ?_⟩
        intro m hm
        rw [List.mem_singleton.mp hm]
        exact ⟨hs, hkey, htype⟩

/-- A heartbeat reply for message 7 of the session with id 2. -/
def strayReply : Message where
  sessionId := 2
  messageId := 7
  body := .heartbeatReply

/-- The receive buffer with the reply. -/
def strayBuffer : RingBuffer where
  unread := strayReply.bytes (fun _ => 0) ++ []
  beyond := fun _ => 0

theorem strayBuffer_obtained :
    strayBuffer.obtained = .frame strayReply.commonHeader strayBuffer.memory := by
  have hsize : strayReply.body.Sendable Config.default := trivial
  exact (obtainsFrame_bytes hsize _ [] _).obtained (holds_of_bytes hsize _ [] _).delimiter

/-- A process in which the session `s` awaits the reply to message 7 under the id 2. -/
def awaitingHeartbeat (s : SessionRef) : Process :=
  { Process.created (fun _ => none) with
    replyList := [{ completeMessageId := ReplyHandler.completeMessageId 2 7
                    messageType := MessageType.heartbeat.code
                    session := s }] }

/-- The reply arrives on the session that awaits it. -/
theorem clears_awaited_iff_stray :
    ClearsAwaited 1 strayReply.commonHeader (awaitingHeartbeat 1).replyList
        ((processMessage Config.default 1 strayBuffer).run
          (awaitingHeartbeat 1)).process.replyList ↔
      ∀ m, (awaitingHeartbeat 1).replyList.find? (fun m => m.completeMessageId ==
        ReplyHandler.completeMessageId strayReply.commonHeader.sessionId
          strayReply.commonHeader.messageId) = some m →
            m.session = 1 ∧ m.messageType = strayReply.commonHeader.type :=
  clears_awaited_iff Config.default 1 strayBuffer_obtained (by decide) (awaitingHeartbeat 1)

/-- The reply arrives on session 0 and clears the message of session 1. -/
theorem not_clears_awaited :
    ¬ ∀ (cfg : Config) (s : SessionRef) (buf : RingBuffer) (header : CommonMessageHeader)
      (rawMessage : Memory), buf.obtained = .frame header rawMessage → header.flags &&& 0x2 ≠ 0 →
        ∀ p : Process, ClearsAwaited s header p.replyList
          ((processMessage cfg s buf).run p).process.replyList := by
  intro h
  obtain ⟨removed, hperm, _, hanswered⟩ := h Config.default 0 strayBuffer strayReply.commonHeader
    strayBuffer.memory strayBuffer_obtained (by decide) (awaitingHeartbeat 1)
  rw [replyList_reply Config.default 0 strayBuffer_obtained (by decide)] at hperm
  have hempty : ReplyHandler.withoutMessage (ReplyHandler.completeMessageId
      strayReply.commonHeader.sessionId strayReply.commonHeader.messageId)
        (awaitingHeartbeat 1).replyList = [] := by
    decide
  rw [hempty, List.append_nil] at hperm
  obtain ⟨m, hm⟩ := List.exists_mem_of_length_pos
    (l := removed) (by rw [← hperm.length_eq]; decide)
  have hsession : m.session = 1 := by
    have hin := hperm.mem_iff.mpr hm
    rw [List.mem_singleton.mp hin]
  have hzero := (hanswered m hm).1
  rw [hsession] at hzero
  exact absurd hzero (by decide)

end SakuraNetwork

import SakuraNetwork.AwaitedReplies
import SakuraNetwork.ReplyTimers

/-!
# The keys of the pending messages

A pending message is found by the key `(messageId << 32) + sessionId`.  If no id is
used by two sessions and no message counter comes around, all keys in the list are
different, before and after a session changed from its provisional to its complete
id, and every removal takes exactly the message it is meant for.

* `Operation.files_act`: an operation records at most one message, under the id of
  its session and the message id it drew.
* `Keying`: the runs, with the ids of the sessions and the message ids they drew.
* `exactKeys_of_reaches`: what holds of the list in every state of such a run.
-/

namespace SakuraNetwork

open Lib

/-! ## What an operation records -/

/-- The session has an id that it uses. -/
def Process.Connected (p : Process) (s : SessionRef) : Prop :=
  (p.session s).statemachine ≠ .notConnected

/-- Of the list `base` is left, and at most one message of the session was recorded,
under the id of the session and the message id that was drawn for it. -/
def Files (s : SessionRef) (base : List MessageTime) (p p' : Process) : Prop :=
  p'.replyList = base ∨
    p'.Connected s ∧ (p'.session s).messageIdCounter = (p.session s).messageIdCounter + 1 ∧
      ∃ messageType, p'.replyList = base ++
        [{ completeMessageId := ReplyHandler.completeMessageId (p'.session s).sessionId
            (p'.session s).messageIdCounter
           messageType := messageType
           session := s }]

theorem files_of_eq
    {s : SessionRef}
    {base : List MessageTime}
    {p p' : Process}
    (h : p'.replyList = base) :
    Files s base p p' :=
  Or.inl h

/-- A new message is recorded or not. -/
theorem files_sendNew
    {s : SessionRef}
    {p : Process}
    (hconnected : p.Connected s)
    (body : Body) :
    Files s p.replyList p ((sendNew s body).run p).process := by
  rw [run_sendNew, run_sendMessage]
  simp only [Process.modifySession_same]
  cases (p.session s).socket with
  | none =>
      exact files_of_eq rfl
  | some k =>
      by_cases hreply : (p.nextMessage s body).replyRequired = true
      · unfold Process.record
        rw [if_pos hreply]
        refine Or.inr ⟨?_, ?_, body.type.code, ?_⟩
        · simpa [Process.Connected, Process.modifySession] using hconnected
        · simp [Process.modifySession]
        · simp [Process.modifySession, Process.nextMessage]
      · unfold Process.record
        rw [if_neg hreply]
        exact files_of_eq rfl

/-- The parts and the finish frame of a message in several blocks require no reply. -/
theorem flags_multi (blockerId : UInt64) :
    (0x0 ||| Body.responseFlag blockerId) &&& 0x1 = 0 := by
  unfold Body.responseFlag
  split
  · decide
  · decide

theorem keeps_sendNew
    {body : Body}
    (h : body.flags &&& 0x1 = 0)
    (s : SessionRef) :
    (sendNew s body).Within keepsReplies := by
  intro p
  rw [run_sendNew]
  exact replyList_sendMessage (by simp [Message.replyRequired, Process.nextMessage, h]) _

theorem keeps_sendDataMultiStatic
    (s : SessionRef)
    (totalSize multiblockId : UInt64)
    (totalPartNumber partId : UInt32)
    (data : Bytes) :
    (sendDataMultiStatic s totalSize multiblockId totalPartNumber partId data).Within
      keepsReplies :=
  @keeps_sendNew (.multiStatic totalSize multiblockId totalPartNumber partId data 0)
    (flags_multi 0) s

theorem keeps_sendDataMultiFinish (s : SessionRef) (multiblockId blockerId : UInt64) :
    (sendDataMultiFinish s multiblockId blockerId).Within keepsReplies :=
  @keeps_sendNew (.multiFinish multiblockId blockerId) (flags_multi blockerId) s

theorem keeps_sendParts
    (cfg : Config)
    (s : SessionRef)
    (multiblockId : UInt64)
    (data : Bytes)
    (totalSize : Nat)
    (partCounter : UInt32) :
    (MultiblockIo.sendParts cfg s multiblockId data totalSize partCounter).Within
      keepsReplies := by
  induction totalSize using Nat.strong_induction_on generalizing partCounter with
  | _ totalSize ih =>
      rw [MultiblockIo.sendParts]
      split
      · exact Act.Within.pure true
      · rename_i hzero
        have hpos := MultiblockIo.currentMessageSize_pos cfg hzero
        exact (Act.Within.getSession s).bind fun x =>
          Act.Within.ite (fun _ => Act.Within.pure true) fun _ =>
            (keeps_sendDataMultiStatic s _ _ _ _ _).bind fun ok =>
              Act.Within.ite (fun _ => ih _ (by omega) _) fun _ => Act.Within.pure false

theorem keeps_sendOutgoingData
    (cfg : Config)
    (s : SessionRef)
    (data : Bytes)
    (blockerId : UInt64) :
    (MultiblockIo.sendOutgoingData cfg s data blockerId).Within keepsReplies := by
  have hrand : getRandId.Within keepsReplies := fun p => rfl
  exact hrand.bind fun id => (keeps_sendParts cfg s id data _ _).bind fun ok =>
    Act.Within.ite
      (fun _ => (Act.Within.getSession s).bind fun x =>
        Act.Within.ite (fun _ => Act.Within.pure 0) fun _ =>
          (keeps_sendDataMultiFinish s _ _).bind fun ok =>
            Act.Within.ite (fun _ => Act.Within.pure id) fun _ => Act.Within.pure 0)
      fun _ => Act.Within.pure 0

section Operations

variable {s : SessionRef} {p : Process}

theorem connected_of_ready (h : (p.session s).statemachine = .sessionReady) :
    p.Connected s := by
  rw [Process.Connected, h]
  exact SessionState.noConfusion

theorem files_sendStreamData
    (cfg : Config)
    (data : Bytes)
    (replyExpected : Bool) :
    Files s p.replyList p ((sendStreamData cfg s data replyExpected).run p).process := by
  unfold sendStreamData
  split
  · exact files_of_eq rfl
  · rw [run_getSession_bind, SessionState.isInState_sessionReady]
    by_cases hready : (p.session s).statemachine = .sessionReady
    · simp only [hready, decide_true, if_true]
      exact files_sendNew (connected_of_ready hready) _
    · simp only [hready, decide_false]
      exact files_of_eq rfl

theorem files_sendNormalMessage (cfg : Config) (data : Bytes) :
    Files s p.replyList p ((sendNormalMessage cfg s data).run p).process := by
  rw [sendNormalMessage, run_getSession_bind, SessionState.isInState_sessionReady]
  by_cases hready : (p.session s).statemachine = .sessionReady
  · simp only [hready, decide_true, if_true]
    split
    · rw [run_getRandId_bind]
      exact files_sendNew (p := { p with randCount := p.randCount + 1 })
        (connected_of_ready hready) _
    · exact files_of_eq (((keeps_sendOutgoingData cfg s data 0).bind fun _ =>
        Act.Within.pure _) p)
  · simp only [hready, decide_false]
    exact files_of_eq rfl

theorem files_sendRequestFrames (cfg : Config) (data : Bytes) :
    Files s p.replyList p ((sendRequestFrames cfg s data).run p).process := by
  rw [sendRequestFrames, run_getSession_bind, SessionState.isInState_sessionReady]
  by_cases hready : (p.session s).statemachine = .sessionReady
  · simp only [hready, decide_true, if_true]
    split
    · rw [run_getRandId_bind, Act.run_bind]
      have hsent := files_sendNew (p := { p with randCount := p.randCount + 1 })
        (connected_of_ready hready) (.singleBlock (p.randIds p.randCount) 0 data)
      simp only
      split
      · exact hsent
      · exact hsent
    · exact files_of_eq (keeps_sendOutgoingData cfg s data 0 p)
  · simp only [hready, decide_false]
    exact files_of_eq rfl

theorem files_sendRequest (cfg : Config) (data : Bytes) (timeout : UInt64) :
    Files s p.replyList p ((sendRequest cfg s data timeout).run p).process := by
  have hsent := files_sendRequestFrames (s := s) (p := p) cfg data
  rw [sendRequest, Act.run_bind]
  simp only
  split
  · exact hsent
  · exact hsent

theorem files_sendResponse (cfg : Config) (data : Bytes) (blockerId : UInt64) :
    Files s p.replyList p ((sendResponse cfg s data blockerId).run p).process := by
  rw [sendResponse, run_getSession_bind, SessionState.isInState_sessionReady]
  by_cases hready : (p.session s).statemachine = .sessionReady
  · simp only [hready, decide_true, if_true]
    split
    · rw [run_getRandId_bind, Act.run_bind]
      exact files_sendNew (p := { p with randCount := p.randCount + 1 })
        (connected_of_ready hready) _
    · exact files_of_eq (keeps_sendOutgoingData cfg s data blockerId p)
  · simp only [hready, decide_false]
    exact files_of_eq rfl

theorem files_sendHeartbeat :
    Files s p.replyList p ((sendHeartbeat s).run p).process := by
  rw [sendHeartbeat, run_getSession_bind]
  split
  · exact files_of_eq rfl
  · rw [SessionState.isInState_sessionReady]
    by_cases hready : (p.session s).statemachine = .sessionReady
    · simp only [hready, decide_true, if_true]
      exact files_sendNew (connected_of_ready hready) _
    · simp only [hready, decide_false]
      exact files_of_eq rfl

/-- A close marks the messages of the session, and records one if it expects a reply. -/
theorem files_closeSession (replyExpected : Bool) :
    Files s (p.repliesClosed s) p ((closeSession s replyExpected).run p).process := by
  cases replyExpected with
  | false =>
      exact files_of_eq (replyList_closeSession s p)
  | true =>
      unfold Process.repliesClosed
      rw [closeSession, run_getSession_bind, SessionState.isInState_sessionReady]
      by_cases hready : p.Ready s
      · have hstate : (p.session s).statemachine = .sessionReady := hready
        simp only [hstate, decide_true, if_true, if_pos hready, Act.run_bind,
          ReplyHandler.run_removeAllOfSession, MultiblockIo.run_removeMultiblockBuffer]
        have hsent := files_sendNew (s := s)
          (p := ({ p with
            replyList := ReplyHandler.ignoreAll (p.session s).sessionId p.replyList }
              : Process).modifySession s
                (fun x => { x with incomingBuffer := x.incomingBuffer.remove 0 }))
          (by simpa [Process.Connected] using connected_of_ready hstate) (.sessionCloseStart true)
        unfold Files at hsent ⊢
        simp only [Process.modifySession_same] at hsent
        exact hsent
      · have hstate : ¬ (p.session s).statemachine = .sessionReady := hready
        simp only [hstate, decide_false, if_neg hready]
        exact files_of_eq rfl

/-- A start records its first message under the id that was drawn for the session. -/
theorem files_start (cfg : Config) (sessionIdentifier : Bytes) :
    Files s ((Operation.start s sessionIdentifier).repliesBase p s) p
      (((Operation.start s sessionIdentifier).act cfg).run p).process := by
  simp only [Operation.repliesBase]
  by_cases hlong : sessionIdentifier.length > 64000
  · simp only [Operation.act, startSession, hlong, true_or, if_true]
    exact files_of_eq rfl
  · by_cases hconnectable : (p.session s).connectable = true
    · have hprocess := connectiSession_process s (p.sessionIdCounter + 1).toUInt32
        { p with sessionIdCounter := p.sessionIdCounter + 1 }
      obtain ⟨k, hk⟩ : ∃ k, (p.session s).socket = some k := by
        cases hsocket : (p.session s).socket with
        | none =>
            simp [Session.connectable, hsocket] at hconnectable
        | some k =>
            exact ⟨k, rfl⟩
      rw [(start_run cfg s (Nat.le_of_not_lt hlong) p).1]
      simp only [hconnectable, or_true, if_true] at hprocess ⊢
      rw [hprocess]
      refine Or.inr ⟨?_, ?_, MessageType.session.code, ?_⟩
      · simp [Process.Connected, Act.run_bind, sendSessionInitStart, run_sendNew, run_sendMessage,
          Process.connected, hk]
      · simp [Act.run_bind, sendSessionInitStart, run_sendNew, run_sendMessage,
          Process.connected, hk]
      · simp [Act.run_bind, sendSessionInitStart, run_sendNew, run_sendMessage, Process.connected,
          hk, Process.record, Message.replyRequired, Body.flags, Process.nextMessage, Body.type]
    · have hnot : (p.session s).connectable = false := by
        simpa using hconnectable
      simp only [hlong, hconnectable, or_self, Bool.false_eq_true, if_false]
      exact files_of_eq (replyList_start_failed cfg (Nat.le_of_not_lt hlong) hnot)

theorem files_finishStart :
    Files s (if (p.session s).initState = -1 then p.repliesClosed s else p.replyList) p
      ((finishStart s).run p).process := by
  by_cases hfailed : (p.session s).initState = -1
  · rw [finishStart_process hfailed]
    simp only [hfailed, if_true]
    exact files_of_eq (replyList_close_destroy s p)
  · rw [finishStart, run_getSession_bind]
    simp only [hfailed, if_false]
    exact files_of_eq rfl

theorem keeps_sendErrorMessage (cfg : Config) (code : ErrorCode) (message : Bytes) :
    (sendErrorMessage cfg s code message).Within keepsReplies := by
  unfold sendErrorMessage
  cases code.subType with
  | none =>
      exact Act.Within.pure true
  | some subType =>
      exact @keeps_sendNew (.error subType _) (by simp [Body.flags]) s

/-- Nothing is recorded for a received frame. -/
theorem files_processMessage (cfg : Config) (buf : RingBuffer) :
    Files s (buf.repliesBase s p) p ((processMessage cfg s buf).run p).process := by
  have hresult := processMessage_result cfg s buf p
  have hnone : buf.replied = none → p.withoutReplied buf = p := by
    intro h
    rw [Process.withoutReplied, h]
  refine files_of_eq ?_
  unfold RingBuffer.repliesBase
  cases hobtained : buf.obtained with
  | nothing =>
      simp only [hobtained, Outcome.result, Prod.mk.injEq] at hresult
      simp only [hresult.2.1, hnone (by simp [RingBuffer.replied, hobtained])]
  | falseProtocol =>
      simp only [hobtained, Outcome.result, Prod.mk.injEq] at hresult
      rw [hresult.2.1]
      exact replyList_closeSession s p
  | falseVersion =>
      simp only [hobtained, Outcome.result, Prod.mk.injEq] at hresult
      simp only [hresult.2.1, hnone (by simp [RingBuffer.replied, hobtained])]
      exact keeps_sendErrorMessage cfg _ _ p
  | falseDelimiter =>
      simp only [hobtained, Outcome.result, Prod.mk.injEq] at hresult
      simp only [hresult.2.1, hnone (by simp [RingBuffer.replied, hobtained])]
      exact keeps_sendErrorMessage cfg _ _ p
  | frame header rawMessage =>
      exact replyList_frame cfg s hobtained p

/-- An operation on a session records at most one message, under the id the session
has and the message id it drew. -/
theorem Operation.files_act
    (cfg : Config)
    {a : Operation}
    (h : a.session = some s) :
    Files s (a.repliesBase p s) p ((a.act cfg).run p).process := by
  cases a with
  | accept r =>
      exact files_of_eq rfl
  | start r sessionIdentifier =>
      cases h
      exact files_start cfg sessionIdentifier
  | finishStart r =>
      cases h
      exact files_finishStart
  | receive r buf =>
      cases h
      exact files_processMessage cfg buf
  | close r replyExpected =>
      cases h
      exact files_closeSession replyExpected
  | destroy r =>
      cases h
      exact files_of_eq (replyList_destroySession s p)
  | stream r data replyExpected =>
      cases h
      exact files_sendStreamData cfg data replyExpected
  | normalMessage r data =>
      cases h
      exact files_sendNormalMessage cfg data
  | request r data timeout =>
      cases h
      exact files_sendRequest cfg data timeout
  | response r data blockerId =>
      cases h
      exact files_sendResponse cfg data blockerId
  | heartbeat r =>
      cases h
      exact files_sendHeartbeat
  | wake blockerId =>
      cases h
  | replyTimer =>
      cases h
  | blockerTimer =>
      cases h

end Operations

/-! ## What an operation leaves -/

/-- The session and the key of a pending message. -/
def MessageTime.tag (m : MessageTime) : SessionRef × UInt64 :=
  (m.session, m.completeMessageId)

/-- Messages are removed, or get another timer or mark, but none is added. -/
def KeepsTags (l l' : List MessageTime) : Prop :=
  (l'.map MessageTime.tag).Subperm (l.map MessageTime.tag)

namespace KeepsTags

theorem refl (l : List MessageTime) : KeepsTags l l :=
  List.Subperm.refl _

theorem of_map
    {f : MessageTime → MessageTime}
    (h : ∀ m, (f m).tag = m.tag)
    (l : List MessageTime) :
    KeepsTags l (l.map f) := by
  unfold KeepsTags
  rw [List.map_map]
  have hsame : MessageTime.tag ∘ f = MessageTime.tag := funext h
  rw [hsame]

theorem of_take
    {id : UInt64}
    {l rest : List MessageTime}
    {m : MessageTime}
    (h : ReplyHandler.removeMessageFromList id l = some (m, rest)) :
    KeepsTags l rest := by
  have hperm := ((takeFirst_perm h).map MessageTime.tag).symm.subperm
  exact (List.sublist_cons_self _ _).subperm.trans hperm

theorem withoutMessage (id : UInt64) (l : List MessageTime) :
    KeepsTags l (ReplyHandler.withoutMessage id l) := by
  obtain ⟨l', hperm, hsub⟩ := withoutFirst_subperm (fun m => m.completeMessageId == id) l
  exact (hperm.map MessageTime.tag).symm.subperm.trans (hsub.map MessageTime.tag).subperm

theorem repliesClosed (p : Process) (s : SessionRef) :
    KeepsTags p.replyList (p.repliesClosed s) := by
  unfold Process.repliesClosed
  split
  · refine of_map ?_ _
    intro m
    split <;> rfl
  · exact refl _

theorem withoutReplied (p : Process) (buf : RingBuffer) :
    KeepsTags p.replyList (p.withoutReplied buf).replyList := by
  unfold Process.withoutReplied
  cases buf.replied with
  | none =>
      exact refl _
  | some id =>
      exact withoutMessage id _

theorem repliesBase (a : Operation) (p : Process) (s : SessionRef) :
    KeepsTags p.replyList (a.repliesBase p s) := by
  cases a with
  | start r sessionIdentifier =>
      simp only [Operation.repliesBase]
      split
      · exact refl _
      · exact repliesClosed p s
  | finishStart r =>
      simp only [Operation.repliesBase]
      split
      · exact repliesClosed p s
      · exact refl _
  | receive r buf =>
      simp only [Operation.repliesBase, RingBuffer.repliesBase]
      split
      · exact repliesClosed p s
      · exact withoutReplied p buf
  | close r replyExpected =>
      exact repliesClosed p s
  | destroy r =>
      exact repliesClosed p s
  | _ =>
      exact refl _

theorem makeTimerStep (p : Process) :
    KeepsTags p.replyList (ReplyHandler.makeTimerStep.run p).process.replyList := by
  rcases ReplyHandler.replyList_makeTimerStep p with
    ⟨_, hlist⟩ | ⟨pre, m, post, removed, hsplit, _, _, htake⟩
  · rw [hlist]
    exact of_map (f := ReplyHandler.tick) (fun m => rfl) _
  · have hticked : (pre.map ReplyHandler.tick ++ ReplyHandler.tick m :: post).map
        MessageTime.tag = p.replyList.map MessageTime.tag := by
      have hpre : (pre.map ReplyHandler.tick).map MessageTime.tag =
          pre.map MessageTime.tag := by
        rw [List.map_map]
        rfl
      rw [hsplit, List.map_append, hpre, List.map_append]
      rfl
    have hrest := of_take htake
    unfold KeepsTags at hrest ⊢
    rw [← hticked]
    exact hrest

end KeepsTags

/-- After an operation the list holds old messages, and at most one new one. -/
theorem Operation.tags_act (cfg : Config) (a : Operation) (p : Process) :
    KeepsTags p.replyList ((a.act cfg).run p).process.replyList ∨
      ∃ s base, KeepsTags p.replyList base ∧ Files s base p ((a.act cfg).run p).process := by
  cases hsession : a.session with
  | some s =>
      exact Or.inr ⟨s, a.repliesBase p s, KeepsTags.repliesBase a p s, files_act cfg hsession⟩
  | none =>
      by_cases ha : a = .replyTimer
      · subst ha
        exact Or.inl (KeepsTags.makeTimerStep p)
      · refine Or.inl ?_
        rw [replyList_tables cfg hsession ha p]
        exact KeepsTags.refl _

/-! ## Runs -/

/-- A process, the ids each session had after an operation while it was connected, and
how far its message counter went, which is at most the number of message ids it drew. -/
structure Keying where
  system : System
  ids : SessionRef → List UInt32 := fun _ => []
  drawn : SessionRef → Nat := fun _ => 0

namespace Keying

/-- The ids and counters after an operation. -/
def next (g : Keying) (st : System) : Keying where
  system := st
  ids := fun s =>
    if (st.process.session s).statemachine = .notConnected then g.ids s
    else g.ids s ++ [(st.process.session s).sessionId]
  drawn := fun s => g.drawn s + ((st.process.session s).messageIdCounter -
    (g.system.process.session s).messageIdCounter).toNat

/-- No id was used by two sessions, and no session drew `2 ^ 32` message ids. -/
def Apart (g : Keying) : Prop :=
  (∀ s s' id, id ∈ g.ids s → id ∈ g.ids s' → s = s') ∧ ∀ s, g.drawn s < 2 ^ 32

end Keying

/-- The runs of a process from its start, with the ids that are used. -/
def keying (cfg : Config) : TransitionSystem Keying Operation where
  init := fun g => (library cfg).init g.system ∧ (∀ s, g.ids s = []) ∧ ∀ s, g.drawn s = 0
  step := fun g a => ((library cfg).step g.system a).map g.next

/-- After the operation no id was used by two sessions, and no counter came around. -/
def StaysApart (cfg : Config) (g : Keying) (a : Operation) : Prop :=
  ∀ g', (keying cfg).step g a = some g' → g'.Apart

/-- Every message is in the list under an id of its session and a message id that the
session drew, and under its own key. -/
structure Keyed (g : Keying) : Prop where
  counted : ∀ s, (g.system.process.session s).messageIdCounter.toNat = g.drawn s
  filed : ∀ m ∈ g.system.process.replyList, ∃ id ∈ g.ids m.session, ∃ messageId : UInt32,
    messageId.toNat ≤ g.drawn m.session ∧
      m.completeMessageId = ReplyHandler.completeMessageId id messageId
  unique : (g.system.process.replyList.map MessageTime.completeMessageId).Nodup

theorem keyed_of_init
    {cfg : Config}
    {g : Keying}
    (h : (keying cfg).init g) :
    Keyed g := by
  obtain ⟨⟨_, hlist, _, hcreated, _⟩, _, hdrawn⟩ := h
  constructor
  · intro s
    obtain ⟨k, hk⟩ := hcreated s
    rw [hk, hdrawn s]
    rfl
  · intro m hm
    rw [hlist] at hm
    cases hm
  · rw [hlist]
    exact List.nodup_nil

theorem Keying.drawn_le_next (g : Keying) (st : System) (s : SessionRef) :
    g.drawn s ≤ (g.next st).drawn s :=
  Nat.le_add_right _ _

theorem Keying.mem_ids_next
    {g : Keying}
    {s : SessionRef}
    {id : UInt32}
    (h : id ∈ g.ids s)
    (st : System) :
    id ∈ (g.next st).ids s := by
  simp only [Keying.next]
  split
  · exact h
  · exact List.mem_append_left _ h

/-- The id of a connected session is one of its ids. -/
theorem Keying.sessionId_mem_next
    (g : Keying)
    {st : System}
    {s : SessionRef}
    (h : st.process.Connected s) :
    (st.process.session s).sessionId ∈ (g.next st).ids s := by
  simp only [Keying.next]
  rw [if_neg h]
  exact List.mem_append_right _ (List.mem_singleton.mpr rfl)

/-- The counter of a session that stays below its range is what was drawn. -/
theorem Keyed.counted_next
    {g : Keying}
    (h : Keyed g)
    {st : System}
    {s : SessionRef}
    (hbelow : (g.next st).drawn s < 2 ^ 32) :
    (st.process.session s).messageIdCounter.toNat = (g.next st).drawn s := by
  have hcounted := h.counted s
  simp only [Keying.next] at hbelow ⊢
  have hold := (g.system.process.session s).messageIdCounter.toNat_lt
  have hnew := (st.process.session s).messageIdCounter.toNat_lt
  rw [UInt32.toNat_sub] at hbelow ⊢
  omega

/-- The messages that are left are still under ids of their sessions. -/
theorem Keyed.filed_next
    {g : Keying}
    (h : Keyed g)
    (st : System)
    {l : List MessageTime}
    (hkeeps : KeepsTags g.system.process.replyList l) :
    ∀ m ∈ l, ∃ id ∈ (g.next st).ids m.session, ∃ messageId : UInt32,
      messageId.toNat ≤ (g.next st).drawn m.session ∧ id ∈ g.ids m.session ∧
        messageId.toNat ≤ g.drawn m.session ∧
          m.completeMessageId = ReplyHandler.completeMessageId id messageId := by
  intro m hm
  obtain ⟨m', hm', htag⟩ := List.mem_map.mp
    (hkeeps.subset (List.mem_map.mpr ⟨m, hm, rfl⟩))
  have hsession : m'.session = m.session := congrArg Prod.fst htag
  have hkey : m'.completeMessageId = m.completeMessageId := congrArg Prod.snd htag
  obtain ⟨id, hid, messageId, hle, hfiled⟩ := h.filed m' hm'
  rw [hsession] at hid hle
  exact ⟨id, Keying.mem_ids_next hid st, messageId, Nat.le_trans hle (g.drawn_le_next st _), hid,
    hle, hkey.symm.trans hfiled⟩

theorem Keyed.unique_next
    {g : Keying}
    (h : Keyed g)
    {l : List MessageTime}
    (hkeeps : KeepsTags g.system.process.replyList l) :
    (l.map MessageTime.completeMessageId).Nodup := by
  obtain ⟨kept, hperm, hsublist⟩ := hkeeps
  have hkeys := hsublist.map Prod.snd
  rw [List.map_map] at hkeys
  have hnodup := hkeys.nodup h.unique
  have hnew := (hperm.map Prod.snd).nodup_iff.mp hnodup
  rw [List.map_map] at hnew
  exact hnew

/-- One operation keeps the keys unique. -/
theorem keyed_step
    {cfg : Config}
    {g g' : Keying}
    {a : Operation}
    (h : Keyed g)
    (happart : StaysApart cfg g a)
    (hstep : (keying cfg).step g a = some g') :
    Keyed g' := by
  obtain ⟨hids, hdrawn⟩ := happart g' hstep
  obtain ⟨st, hst, rfl⟩ := Option.map_eq_some_iff.mp hstep
  obtain ⟨_, rfl⟩ := library_step_cases hst
  generalize hnext : g.system.after cfg a = st at hids hdrawn ⊢
  have hlist : st.process = ((a.act cfg).run g.system.process).process := by
    rw [← hnext]
    rfl
  have hkept : ∀ l, KeepsTags g.system.process.replyList l →
      st.process.replyList = l → Keyed (g.next st) := by
    intro l hkeeps hl
    refine ⟨fun s => h.counted_next (hdrawn s), ?_, ?_⟩
    · intro m hm
      obtain ⟨id, hid, messageId, hle, _, _, hkey⟩ := h.filed_next st hkeeps m (hl ▸ hm)
      exact ⟨id, hid, messageId, hle, hkey⟩
    · have hunique := h.unique_next hkeeps
      rw [← hl] at hunique
      exact hunique
  have htags := a.tags_act cfg g.system.process
  rw [← hlist] at htags
  rcases htags with hkeeps | ⟨s, base, hkeeps, hbase | ⟨hconnected, hcounter, type, hadded⟩⟩
  · exact hkept _ hkeeps rfl
  · exact hkept base hkeeps hbase
  · have hmem := g.sessionId_mem_next hconnected
    have hcounted := h.counted_next (hdrawn s)
    have hmore : g.drawn s < (g.next st).drawn s := by
      simp only [Keying.next]
      rw [hcounter]
      have hone : (g.system.process.session s).messageIdCounter + 1 -
          (g.system.process.session s).messageIdCounter = 1 := by
        rw [UInt32.add_comm, UInt32.add_sub_cancel]
      rw [hone]
      exact Nat.lt_succ_self _
    refine ⟨fun s => h.counted_next (hdrawn s), ?_, ?_⟩
    · intro m hm
      have hin : m ∈ st.process.replyList := hm
      rw [hadded] at hin
      rcases List.mem_append.mp hin with hold | hnew
      · obtain ⟨id, hid, messageId, hle, _, _, hkey⟩ := h.filed_next st hkeeps m hold
        exact ⟨id, hid, messageId, hle, hkey⟩
      · rw [List.mem_singleton.mp hnew]
        exact ⟨_, hmem, _, Nat.le_of_eq hcounted, rfl⟩
    · have hin : (g.next st).system.process.replyList = base ++ _ := hadded
      rw [hin, List.map_append, List.nodup_append]
      refine ⟨h.unique_next hkeeps, List.nodup_singleton _, ?_⟩
      intro key hold key' hnew hsame
      obtain ⟨m, hm, rfl⟩ := List.mem_map.mp hold
      rw [List.map_cons, List.map_nil, List.mem_singleton] at hnew
      obtain ⟨id, hid, messageId, _, _, hle, hkey⟩ := h.filed_next st hkeeps m hm
      rw [hsame, hnew] at hkey
      obtain ⟨rfl, rfl⟩ := ReplyHandler.completeMessageId_inj hkey
      have hsession := hids _ _ _ hmem hid
      rw [← hsession] at hle
      omega

theorem keyed_of_reaches
    {cfg : Config}
    {g : Keying}
    (hrun : (keying cfg).Reaches (StaysApart cfg) g) :
    Keyed g := by
  refine hrun.invariant ?_ ?_
  · intro g h
    exact keyed_of_init h
  · intro g a g' h happart hstep
    exact keyed_step h happart hstep

/-! ## Exact removal -/

/-- The entry was added for this session id and message id. -/
def MessageTime.AddedWith (m : MessageTime) (sessionId messageId : UInt32) : Prop :=
  m.completeMessageId = ReplyHandler.completeMessageId sessionId messageId

/-- The entry was added for this session id. -/
def MessageTime.AddedUnder (m : MessageTime) (sessionId : UInt32) : Prop :=
  ∃ messageId, m.AddedWith sessionId messageId

/-- All keys are different, a removal takes the one entry that was added with its two
ids, a close marks the entries of its session id, and the order of removals only
changes the order of the list. -/
structure ExactKeys (p : Process) : Prop where
  unique : (p.replyList.map MessageTime.completeMessageId).Nodup
  added : ∀ m ∈ p.replyList, ∃! ids : UInt32 × UInt32, m.AddedWith ids.1 ids.2
  removed_iff : ∀ sessionId messageId,
    ((ReplyHandler.removeMessage sessionId messageId).run p).value = true ↔
      ∃ m ∈ p.replyList, m.AddedWith sessionId messageId
  removed : ∀ sessionId messageId, ∀ m ∈ p.replyList, m.AddedWith sessionId messageId →
    ∃ l, p.replyList.Perm (m :: l) ∧
      ((ReplyHandler.removeMessage sessionId messageId).run p).process =
        { p with replyList := l }
  missed : ∀ sessionId messageId, (∀ m ∈ p.replyList, ¬ m.AddedWith sessionId messageId) →
    ((ReplyHandler.removeMessage sessionId messageId).run p).process = p
  marked : ∀ sessionId, ∃ l,
    List.Forall₂ (fun m m' => (m.AddedUnder sessionId → m' = { m with ignoreResult := true }) ∧
      (¬ m.AddedUnder sessionId → m' = m)) p.replyList l ∧
      ((ReplyHandler.removeAllOfSession sessionId).run p).process = { p with replyList := l }
  commute : ∀ sessionId messageId sessionId' messageId',
    (sessionId, messageId) ≠ (sessionId', messageId') →
      ∃ l l', l.Perm l' ∧
        ((do
          let _ ← ReplyHandler.removeMessage sessionId messageId
          ReplyHandler.removeMessage sessionId' messageId' : Act Bool).run p).process =
            { p with replyList := l } ∧
        ((do
          let _ ← ReplyHandler.removeMessage sessionId' messageId'
          ReplyHandler.removeMessage sessionId messageId : Act Bool).run p).process =
            { p with replyList := l' } ∧
        ((do
          let _ ← ReplyHandler.removeMessage sessionId messageId
          ReplyHandler.removeMessage sessionId' messageId' : Act Bool).run p).value =
            ((ReplyHandler.removeMessage sessionId' messageId').run p).value

/-- A removal succeeds if there is an entry of its key. -/
theorem ReplyHandler.removeMessage_value (sessionId messageId : UInt32) (p : Process) :
    ((ReplyHandler.removeMessage sessionId messageId).run p).value = true ↔
      0 < ReplyHandler.pending (ReplyHandler.completeMessageId sessionId messageId)
        p.replyList := by
  rw [ReplyHandler.removeMessage, ReplyHandler.removeCompleteMessage, Act.run_get_bind,
    ReplyHandler.pending, List.countP_pos_iff]
  cases htake : ReplyHandler.removeMessageFromList
      (ReplyHandler.completeMessageId sessionId messageId) p.replyList with
  | none =>
      have hnone := (takeFirst_eq_none_iff _ _).mp htake
      constructor
      · intro h
        cases h
      · rintro ⟨m, hm, hkey⟩
        rw [hnone m hm] at hkey
        cases hkey
  | some found =>
      obtain ⟨m, rest⟩ := found
      constructor
      · intro _
        have hkey := takeFirst_pred (p := fun e : MessageTime => e.completeMessageId ==
          ReplyHandler.completeMessageId sessionId messageId) htake
        exact ⟨m, List.mem_of_find?_eq_some (find_of_takeFirst htake), hkey⟩
      · intro _
        rfl

theorem ReplyHandler.pending_pos_iff
    {sessionId messageId : UInt32}
    {l : List MessageTime} :
    0 < ReplyHandler.pending (ReplyHandler.completeMessageId sessionId messageId) l ↔
      ∃ m ∈ l, m.AddedWith sessionId messageId := by
  rw [ReplyHandler.pending, List.countP_pos_iff]
  simp only [beq_iff_eq, MessageTime.AddedWith]

/-- The lower half of the key is the session id. -/
theorem MessageTime.AddedWith.addedUnder_iff
    {m : MessageTime}
    {id messageId : UInt32}
    (h : m.AddedWith id messageId)
    (sessionId : UInt32) :
    m.AddedUnder sessionId ↔ m.completeMessageId &&& 0xFFFFFFFF = sessionId.toUInt64 := by
  constructor
  · rintro ⟨messageId', h'⟩
    rw [h']
    exact ReplyHandler.completeMessageId_and sessionId messageId'
  · intro hmasked
    rw [h, ReplyHandler.completeMessageId_and] at hmasked
    have hid : id = sessionId := by
      have hnat := congrArg UInt64.toNat hmasked
      rw [UInt32.toNat_toUInt64, UInt32.toNat_toUInt64] at hnat
      exact UInt32.toNat_inj.mp hnat
    exact ⟨messageId, hid ▸ h⟩

section UniqueKeys

variable {p : Process} {sessionId messageId : UInt32}

/-- The one entry of the key is removed, and the other entries stay as they are. -/
theorem ReplyHandler.removeMessage_of_added
    (hunique : (p.replyList.map MessageTime.completeMessageId).Nodup)
    {m : MessageTime}
    (hm : m ∈ p.replyList)
    (hadded : m.AddedWith sessionId messageId) :
    ∃ l, p.replyList.Perm (m :: l) ∧
      ((ReplyHandler.removeMessage sessionId messageId).run p).process =
        { p with replyList := l } := by
  have hkey : m.completeMessageId = ReplyHandler.completeMessageId sessionId messageId := hadded
  obtain ⟨rest, htake⟩ := takeFirst_unique
    (p := fun e => e.completeMessageId == ReplyHandler.completeMessageId sessionId messageId)
    hm (beq_iff_eq.mpr hkey) fun e he hsame =>
      List.inj_on_of_nodup_map hunique he hm ((beq_iff_eq.mp hsame).trans hkey.symm)
  refine ⟨rest, takeFirst_perm htake, ?_⟩
  rw [ReplyHandler.removeMessage_process, ReplyHandler.withoutMessage,
    withoutFirst_of_some htake]

theorem ReplyHandler.removeMessage_of_none
    (hnone : ∀ m ∈ p.replyList, ¬ m.AddedWith sessionId messageId) :
    ((ReplyHandler.removeMessage sessionId messageId).run p).process = p := by
  have htake := (takeFirst_eq_none_iff (fun e : MessageTime => e.completeMessageId ==
    ReplyHandler.completeMessageId sessionId messageId) p.replyList).mpr fun e he =>
      beq_eq_false_iff_ne.mpr (hnone e he)
  rw [ReplyHandler.removeMessage_process, ReplyHandler.withoutMessage,
    withoutFirst_of_none htake]

/-- The entries that were added under the session id are marked, and no others. -/
theorem ReplyHandler.forall_ignoreAll
    {l : List MessageTime}
    (hadded : ∀ m ∈ l, ∃ id messageId, m.AddedWith id messageId)
    (sessionId : UInt32) :
    List.Forall₂ (fun m m' => (m.AddedUnder sessionId → m' = { m with ignoreResult := true }) ∧
      (¬ m.AddedUnder sessionId → m' = m)) l (ReplyHandler.ignoreAll sessionId l) := by
  rw [ReplyHandler.ignoreAll, List.forall₂_map_right_iff, List.forall₂_same]
  intro m hm
  obtain ⟨id, messageId, hkey⟩ := hadded m hm
  have hunder := hkey.addedUnder_iff sessionId
  constructor
  · intro hmarked
    rw [if_pos (beq_iff_eq.mpr (hunder.mp hmarked))]
  · intro hother
    rw [if_neg]
    intro hmasked
    exact hother (hunder.mpr (beq_iff_eq.mp hmasked))

/-- A removal under another key finds its entry as before. -/
theorem ReplyHandler.removeMessage_value_after
    {sessionId' messageId' : UInt32}
    (hne : (sessionId, messageId) ≠ (sessionId', messageId')) :
    ((do
      let _ ← ReplyHandler.removeMessage sessionId messageId
      ReplyHandler.removeMessage sessionId' messageId' : Act Bool).run p).value =
        ((ReplyHandler.removeMessage sessionId' messageId').run p).value := by
  have hkeys : ReplyHandler.completeMessageId sessionId' messageId' ≠
      ReplyHandler.completeMessageId sessionId messageId := by
    intro hsame
    obtain ⟨rfl, rfl⟩ := ReplyHandler.completeMessageId_inj hsame
    exact hne rfl
  rw [Act.run_bind, Bool.eq_iff_iff]
  simp only [ReplyHandler.removeMessage_value, ReplyHandler.removeMessage_process,
    ReplyHandler.pending_withoutMessage, if_neg hkeys]

/-- What two removals leave. -/
theorem ReplyHandler.removeMessage_twice (sessionId' messageId' : UInt32) :
    ((do
      let _ ← ReplyHandler.removeMessage sessionId messageId
      ReplyHandler.removeMessage sessionId' messageId' : Act Bool).run p).process =
        { p with
          replyList := ReplyHandler.withoutMessage
            (ReplyHandler.completeMessageId sessionId' messageId')
            (ReplyHandler.withoutMessage
              (ReplyHandler.completeMessageId sessionId messageId) p.replyList) } := by
  rw [Act.run_bind]
  simp only [ReplyHandler.removeMessage_process]

end UniqueKeys

/-- Entries with different keys, each under two ids, are exact. -/
theorem exactKeys_of_unique
    {p : Process}
    (hunique : (p.replyList.map MessageTime.completeMessageId).Nodup)
    (hadded : ∀ m ∈ p.replyList, ∃ id messageId, m.AddedWith id messageId) :
    ExactKeys p := by
  constructor
  · exact hunique
  · intro m hm
    obtain ⟨id, messageId, hkey⟩ := hadded m hm
    refine ⟨(id, messageId), hkey, ?_⟩
    rintro ⟨id', messageId'⟩ hkey'
    obtain ⟨rfl, rfl⟩ := ReplyHandler.completeMessageId_inj (hkey'.symm.trans hkey)
    rfl
  · intro sessionId messageId
    rw [ReplyHandler.removeMessage_value, ReplyHandler.pending_pos_iff]
  · intro sessionId messageId m hm hkey
    exact ReplyHandler.removeMessage_of_added hunique hm hkey
  · intro sessionId messageId hnone
    exact ReplyHandler.removeMessage_of_none hnone
  · intro sessionId
    exact ⟨ReplyHandler.ignoreAll sessionId p.replyList,
      ReplyHandler.forall_ignoreAll hadded sessionId, rfl⟩
  · intro sessionId messageId sessionId' messageId' hne
    have hcomm := withoutFirst_comm hunique
      (ReplyHandler.completeMessageId sessionId messageId)
      (ReplyHandler.completeMessageId sessionId' messageId')
    exact ⟨_, _, hcomm, ReplyHandler.removeMessage_twice sessionId' messageId',
      ReplyHandler.removeMessage_twice sessionId messageId,
      ReplyHandler.removeMessage_value_after hne⟩

/-- As long as no id is used by two sessions and no message counter comes around, the
keys are unique, and every removal is exact. -/
theorem exactKeys_of_reaches
    {cfg : Config}
    {g : Keying}
    (hrun : (keying cfg).Reaches (StaysApart cfg) g) :
    ExactKeys g.system.process := by
  have hkeyed := keyed_of_reaches hrun
  refine exactKeys_of_unique hkeyed.unique ?_
  intro m hm
  obtain ⟨id, _, messageId, _, hkey⟩ := hkeyed.filed m hm
  exact ⟨id, messageId, hkey⟩

/-- A process before its first operation. -/
def unkeyed : Keying where
  system := initialSystem

/-- A session was started, and its first message awaits its reply. -/
def keyed : Keying :=
  unkeyed.next (initialSystem.after Config.default (.start 0 []))

/-- A second session was started, and its first message awaits its reply. -/
def twiceKeyed : Keying :=
  keyed.next (keyed.system.after Config.default (.start 1 []))

/-- A session that draws no message id. -/
theorem Keying.drawn_next
    {g : Keying}
    {st : System}
    {s : SessionRef}
    (h : (st.process.session s).messageIdCounter =
      (g.system.process.session s).messageIdCounter) :
    (g.next st).drawn s = g.drawn s := by
  simp only [Keying.next]
  rw [h, UInt32.sub_self]
  rfl

/-- Every id has an owner. -/
theorem Keying.apart_of_owner
    {g : Keying}
    (owner : UInt32 → SessionRef)
    (hids : ∀ s, ∀ id ∈ g.ids s, s = owner id)
    (hdrawn : ∀ s, g.drawn s < 2 ^ 32) :
    g.Apart :=
  ⟨fun s s' id hid hid' => (hids s id hid).trans (hids s' id hid').symm, hdrawn⟩

theorem keyed_apart : keyed.Apart := by
  refine Keying.apart_of_owner (fun _ => 0) ?_ ?_
  · intro s id hid
    cases s with
    | zero => rfl
    | succ s => cases hid
  · intro s
    cases s with
    | zero =>
        have hfirst : keyed.drawn 0 = 1 := rfl
        rw [hfirst]
        decide
    | succ s =>
        have hother : keyed.drawn (s + 1) = 0 := Keying.drawn_next rfl
        rw [hother]
        decide

theorem twiceKeyed_apart : twiceKeyed.Apart := by
  refine Keying.apart_of_owner (fun id => if id = 1 then 0 else 1) ?_ ?_
  · intro s id hid
    match s with
    | 0 =>
        have hids : twiceKeyed.ids 0 = [1, 1] := rfl
        rw [hids] at hid
        obtain rfl : id = 1 := by simpa using hid
        rfl
    | 1 =>
        have hids : twiceKeyed.ids 1 = [2] := rfl
        rw [hids] at hid
        rw [List.mem_singleton.mp hid]
        rfl
    | s + 2 => cases hid
  · intro s
    match s with
    | 0 =>
        have hfirst : twiceKeyed.drawn 0 = 1 := rfl
        rw [hfirst]
        decide
    | 1 =>
        have hsecond : twiceKeyed.drawn 1 = 1 := rfl
        rw [hsecond]
        decide
    | s + 2 =>
        have hother : twiceKeyed.drawn (s + 2) = 0 :=
          (Keying.drawn_next rfl).trans (Keying.drawn_next rfl)
        rw [hother]
        decide

theorem reaches_twiceKeyed :
    (keying Config.default).Reaches (StaysApart Config.default) twiceKeyed := by
  have hfirst : (keying Config.default).step unkeyed (.start 0 []) = some keyed := rfl
  have hsecond : (keying Config.default).step keyed (.start 1 []) = some twiceKeyed := rfl
  have hkeyed : (keying Config.default).Reaches (StaysApart Config.default) keyed := by
    refine .step (.init ⟨init_initialSystem Config.default, fun _ => rfl, fun _ => rfl⟩) ?_ hfirst
    intro g' hg'
    rw [hfirst, Option.some.injEq] at hg'
    rw [← hg']
    exact keyed_apart
  refine hkeyed.step ?_ hsecond
  intro g' hg'
  rw [hsecond, Option.some.injEq] at hg'
  rw [← hg']
  exact twiceKeyed_apart

/-- The first messages of two sessions. -/
theorem exactKeys_of_reaches_twice :
    twiceKeyed.system.process.replyList.length = 2 ∧ ExactKeys twiceKeyed.system.process :=
  ⟨rfl, exactKeys_of_reaches reaches_twiceKeyed⟩

end SakuraNetwork

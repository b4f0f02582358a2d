import SakuraNetwork.Registry
import SakuraNetwork.SessionIdentity

/-!
# The pending replies along a run

Every operation on a session removes at most the message that a received reply
answers, marks the messages of the session when it closes it, and records messages
of its own session.  Messages of other sessions are neither added nor changed, as
long as their ids differ.

* `Operation.repliesBase`: what an operation leaves of the list.
* `Operation.replyList_act`: what it adds to that.
-/

namespace SakuraNetwork

open Lib

/-- The list after `removeAllOfSession`. -/
def ReplyHandler.ignoreAll (sessionId : UInt32) (l : List MessageTime) : List MessageTime :=
  l.map (fun m =>
    if m.completeMessageId &&& 0xFFFFFFFF == sessionId.toUInt64 then { m with ignoreResult := true }
    else m)

/-- The list after a close of the session, before anything is sent. -/
def Process.repliesClosed (p : Process) (s : SessionRef) : List MessageTime :=
  if p.Ready s then ReplyHandler.ignoreAll (p.session s).sessionId p.replyList
  else p.replyList

/-- What the front of a buffer leaves of the list. -/
def RingBuffer.repliesBase (buf : RingBuffer) (s : SessionRef) (p : Process) : List MessageTime :=
  match buf.obtained with
  | .falseProtocol => p.repliesClosed s
  | _ => (p.withoutReplied buf).replyList

/-- What an operation on a session leaves of the list. -/
def Operation.repliesBase (p : Process) (s : SessionRef) : Operation → List MessageTime
  | .start _ sessionIdentifier =>
      if sessionIdentifier.length > 64000 ∨ (p.session s).connectable then p.replyList
      else p.repliesClosed s
  | .finishStart _ => if (p.session s).initState = -1 then p.repliesClosed s else p.replyList
  | .receive _ buf => buf.repliesBase s p
  | .close _ _ | .destroy _ => p.repliesClosed s
  | _ => p.replyList

/-! ## Operations that close a session -/

/-- A message that requires no reply is not recorded. -/
theorem replyList_sendMessage
    {s : SessionRef}
    {m : Message}
    (h : m.replyRequired = false)
    (p : Process) :
    ((sendMessage s m).run p).process.replyList = p.replyList := by
  rw [run_sendMessage]
  cases (p.session s).socket with
  | none =>
      rfl
  | some k =>
      simp [Process.record, h]

/-- The list stays as it is. -/
def keepsReplies : Effect where
  rel := fun p _ p' => p'.replyList = p.replyList
  refl := fun _ => rfl
  trans := fun h h' => h'.trans h

theorem keepsReplies_session (s : SessionRef) : AdmitsSession keepsReplies s := by
  constructor
  · intro p c
    rfl
  · intro p id
    rfl
  · intro p id
    rfl
  · intro p f _ _
    rfl
  · intro p sessionId identifier
    rfl
  · intro p identifier
    rfl

/-- A close that expects no reply records nothing. -/
theorem replyList_closeSession (s : SessionRef) (p : Process) :
    ((closeSession s).run p).process.replyList = p.repliesClosed s := by
  have hstart : ∀ q, ((sendSessionCloseStart s false).run q).process.replyList = q.replyList := by
    intro q
    rw [sendSessionCloseStart, run_sendNew]
    exact replyList_sendMessage (by simp [Message.replyRequired, Body.flags, Process.nextMessage]) _
  have hrest : ∀ q, ((do
      let _ ← MultiblockIo.removeMultiblockBuffer s 0
      let _ ← sendSessionCloseStart s false
      endSession s : Act Bool).run q).process.replyList = q.replyList := by
    intro q
    have hbuffer : (MultiblockIo.removeMultiblockBuffer s 0).Within keepsReplies := by
      intro r
      rw [MultiblockIo.run_removeMultiblockBuffer]
      rfl
    exact (hbuffer.bind fun _ => Act.Within.bind hstart fun _ =>
      within_endSession (keepsReplies_session s)) q
  unfold Process.repliesClosed
  rw [closeSession, run_getSession_bind, SessionState.isInState_sessionReady]
  by_cases hready : p.Ready s
  · have hstate : (p.session s).statemachine = .sessionReady := hready
    simp only [hstate, decide_true, if_true, Bool.false_eq_true, if_false, if_pos hready]
    exact hrest { p with replyList := ReplyHandler.ignoreAll (p.session s).sessionId p.replyList }
  · have hstate : ¬ (p.session s).statemachine = .sessionReady := hready
    simp [hstate, if_neg hready]

/-- What is left after a close depends on the list, the state and the id. -/
theorem Process.repliesClosed_congr
    {p p' : Process}
    {s : SessionRef}
    (hlist : p'.replyList = p.replyList)
    (hstate : (p'.session s).statemachine = (p.session s).statemachine)
    (hid : (p'.session s).sessionId = (p.session s).sessionId) :
    p'.repliesClosed s = p.repliesClosed s := by
  have hready : p'.Ready s ↔ p.Ready s := by
    unfold Process.Ready
    rw [hstate]
  unfold Process.repliesClosed
  rw [hlist, hid]
  exact if_congr hready rfl rfl

/-- A destroyed session is closed before its members are given up. -/
theorem replyList_destroySession (s : SessionRef) (p : Process) :
    ((destroySession s).run p).process.replyList = p.repliesClosed s := by
  have hbase : (({ p.setInitState s (-1) with
      sessions := p.sessions.remove (p.session s).sessionId } : Process).repliesClosed s) =
      p.repliesClosed s := by
    refine Process.repliesClosed_congr rfl ?_ ?_
    · simp [Process.setInitState]
    · simp [Process.setInitState]
  rw [← hbase, ← replyList_closeSession]
  simp [destroySession, Process.setInitState, Act.run_bind]

/-- A closed session is not ready. -/
theorem not_ready_closeSession (s : SessionRef) (p : Process) :
    ¬ ((closeSession s).run p).process.Ready s := by
  intro hready
  have hlife := congrArg Life.state (simulates_closeSession s false p [])
  have hstate : (((closeSession s).run p).process.session s).statemachine =
      (p.life s []).stop.state := hlife
  rw [Process.Ready, hstate] at hready
  unfold Life.stop at hready
  split at hready
  · cases hready
  · rename_i hnot
    exact hnot hready

/-- The second close of a session changes nothing. -/
theorem replyList_close_destroy (s : SessionRef) (p : Process) :
    ((do
      let _ ← closeSession s
      destroySession s : Act Unit).run p).process.replyList = p.repliesClosed s := by
  have hsame : ((closeSession s).run p).process.repliesClosed s =
      ((closeSession s).run p).process.replyList := if_neg (not_ready_closeSession s p)
  rw [Act.run_bind]
  simp only
  rw [replyList_destroySession, hsame, replyList_closeSession]

/-! ## Operations that only record messages -/

/-- Only messages of the session are recorded, and none is removed or marked. -/
def appends (s : SessionRef) : Effect where
  rel := fun p _ p' => RecordedFor s p.replyList p'.replyList
  refl := fun p => RecordedFor.refl s p.replyList
  trans := fun h h' => h.trans h'

theorem appends_data (s : SessionRef) :
    AdmitsData (appends s) s True (fun _ => True) False := by
  constructor
  · intro p p' outs hframe _
    exact hframe.replyList
  · intro h
    exact h.elim
  · intro _ p f
    exact RecordedFor.refl s _
  · intro p
    exact RecordedFor.refl s _
  · intro p data _
    exact RecordedFor.refl s _
  · intro p id data _
    exact RecordedFor.refl s _
  · intro p code text _
    exact RecordedFor.refl s _
  · intro p id data _
    exact RecordedFor.refl s _

theorem appends_session (s : SessionRef) : AdmitsSession (appends s) s := by
  constructor
  · intro p c
    exact RecordedFor.refl s _
  · intro p id
    exact RecordedFor.refl s _
  · intro p id
    exact RecordedFor.refl s _
  · intro p f _ _
    exact RecordedFor.refl s _
  · intro p sessionId identifier
    exact RecordedFor.refl s _
  · intro p identifier
    exact RecordedFor.refl s _

/-! ## Operations that remove or mark messages -/

/-- The operation leaves `base` of the list, and records messages of the session. -/
def Act.Records
    {α : Type}
    (s : SessionRef)
    (base : Process → List MessageTime)
    (x : Act α) : Prop :=
  ∀ p, RecordedFor s (base p) (x.run p).process.replyList

namespace Act.Records

variable {α β : Type} {s : SessionRef} {base : Process → List MessageTime}

/-- What comes after only records messages. -/
theorem bind
    {x : Act α}
    {y : α → Act β}
    (hx : Act.Records s base x)
    (hy : ∀ a, (y a).Within (appends s)) :
    Act.Records s base (x >>= y) :=
  fun p => (hx p).trans (hy (x.run p).value (x.run p).process)

/-- What comes before does not change what is left. -/
theorem after
    {x : Act α}
    {y : α → Act β}
    (hx : ∀ p, base (x.run p).process = base p)
    (hy : ∀ a, Act.Records s base (y a)) :
    Act.Records s base (x >>= y) := by
  intro p
  have hrest := hy (x.run p).value (x.run p).process
  rw [hx p] at hrest
  exact hrest

end Act.Records

theorem records_closeSession (s : SessionRef) (replyExpected : Bool) :
    (closeSession s replyExpected).Records s (fun p => p.repliesClosed s) := by
  have hD := appends_data s
  have hstart : ∀ reply, (sendSessionCloseStart s reply).Within (appends s) := by
    intro reply
    exact (OnlySends.sendNew (P := fun _ => True) trivial).within hD
  have hrest : (do
      let _ ← MultiblockIo.removeMultiblockBuffer s 0
      if replyExpected then sendSessionCloseStart s true
      else do
        let _ ← sendSessionCloseStart s false
        endSession s : Act Bool).Within (appends s) :=
    (within_removeMultiblockBuffer hD trivial 0).bind fun _ => Act.Within.ite (fun _ => hstart true)
      fun _ => (hstart false).bind fun _ => within_endSession (appends_session s)
  intro p
  unfold Process.repliesClosed
  rw [closeSession, run_getSession_bind, SessionState.isInState_sessionReady]
  by_cases hready : p.Ready s
  · have hstate : (p.session s).statemachine = .sessionReady := hready
    simp only [hstate, decide_true, if_true, if_pos hready]
    exact hrest { p with replyList := ReplyHandler.ignoreAll (p.session s).sessionId p.replyList }
  · have hstate : ¬ (p.session s).statemachine = .sessionReady := hready
    simp only [hstate, decide_false, if_neg hready]
    exact RecordedFor.refl s p.replyList

/-- A start that cannot connect closes and destroys the session. -/
theorem start_run
    (cfg : Config)
    (s : SessionRef)
    {sessionIdentifier : Bytes}
    (h : sessionIdentifier.length ≤ 64000)
    (p : Process) :
    let newId := (p.sessionIdCounter + 1).toUInt32
    let q := ((connectiSession s newId).run
      { p with sessionIdCounter := p.sessionIdCounter + 1 }).process
    let rest : Act Unit :=
      if (p.session s).connectable then do
        SessionHandler.addSession newId s
        let _ ← sendSessionInitStart s sessionIdentifier
      else do
        let _ ← closeSession s
        destroySession s
    (((Operation.start s sessionIdentifier).act cfg).run p).process = (rest.run q).process ∧
      (((Operation.start s sessionIdentifier).act cfg).run p).outputs = (rest.run q).outputs := by
  have hlong : ¬ sessionIdentifier.length > 64000 := by omega
  have hvalue := connectiSession_value s (p.sessionIdCounter + 1).toUInt32
    { p with sessionIdCounter := p.sessionIdCounter + 1 }
  have hstart := startSession_value s h p
  simp only [Operation.act, Act.run_bind, hstart, hlong, decide_false, Bool.or_false]
  simp only [startSession, hlong, if_false, Act.run_bind,
    SessionHandler.run_increaseSessionIdCounter, hvalue]
  cases (p.session s).connectable with
  | true =>
      simp
  | false =>
      simp

/-- A start that cannot connect marks the messages of the session, as a close does. -/
theorem replyList_start_failed
    (cfg : Config)
    {s : SessionRef}
    {sessionIdentifier : Bytes}
    (hlong : sessionIdentifier.length ≤ 64000)
    {p : Process}
    (hconnectable : (p.session s).connectable = false) :
    (((Operation.start s sessionIdentifier).act cfg).run p).process.replyList =
      p.repliesClosed s := by
  have hprocess := connectiSession_process s (p.sessionIdCounter + 1).toUInt32
    { p with sessionIdCounter := p.sessionIdCounter + 1 }
  rw [(start_run cfg s hlong p).1]
  simp only [hconnectable, Bool.false_eq_true, if_false] at hprocess ⊢
  rw [replyList_close_destroy, hprocess]
  split
  · rfl
  · refine Process.repliesClosed_congr rfl ?_ ?_
    · simp [Process.setInitState]
    · simp [Process.setInitState]

theorem records_start
    (cfg : Config)
    (s : SessionRef)
    (sessionIdentifier : Bytes) :
    ((Operation.start s sessionIdentifier).act cfg).Records s
      (fun p => (Operation.start s sessionIdentifier).repliesBase p s) := by
  intro p
  simp only [Operation.repliesBase]
  by_cases hlong : sessionIdentifier.length > 64000
  · simp only [Operation.act, startSession, hlong, true_or, if_true]
    exact RecordedFor.refl s _
  · by_cases hconnectable : (p.session s).connectable = true
    · have hprocess := connectiSession_process s (p.sessionIdCounter + 1).toUInt32
        { p with sessionIdCounter := p.sessionIdCounter + 1 }
      rw [(start_run cfg s (Nat.le_of_not_lt hlong) p).1]
      have hsend : (sendSessionInitStart s sessionIdentifier).Within (appends s) := by
        refine (Act.Within.getSession s).bind fun _ => (Act.Within.touch _).bind fun _ => ?_
        exact (OnlySends.sendNew (P := fun _ => True) trivial).within (appends_data s)
      have hrest := ((within_addSession (appends_session s)
        (p.sessionIdCounter + 1).toUInt32).bind fun _ => hsend.bind fun _ => Act.Within.pure ())
          (({ p with sessionIdCounter := p.sessionIdCounter + 1 } : Process).connected s
            (p.sessionIdCounter + 1).toUInt32)
      simp only [hconnectable, or_true, if_true] at hprocess ⊢
      rw [hprocess]
      exact hrest
    · have hnot : (p.session s).connectable = false := by
        simpa using hconnectable
      rw [replyList_start_failed cfg (Nat.le_of_not_lt hlong) hnot]
      simp only [hlong, hconnectable, or_self, Bool.false_eq_true, if_false]
      exact RecordedFor.refl s _

/-- A failed start closes and destroys the session. -/
theorem finishStart_process
    {s : SessionRef}
    {p : Process}
    (h : (p.session s).initState = -1) :
    ((finishStart s).run p).process =
      ((do
        let _ ← closeSession s
        destroySession s : Act Unit).run p).process := by
  rw [finishStart, run_getSession_bind]
  simp only [h, if_true]
  rfl

theorem records_finishStart (s : SessionRef) :
    (finishStart s).Records s
      (fun p => if (p.session s).initState = -1 then p.repliesClosed s else p.replyList) := by
  intro p
  by_cases hfailed : (p.session s).initState = -1
  · rw [finishStart_process hfailed, replyList_close_destroy]
    simp only [hfailed, if_true]
    exact RecordedFor.refl s _
  · rw [finishStart, run_getSession_bind]
    simp only [hfailed, if_false]
    exact RecordedFor.refl s _

/-- A frame removes the message it answers, and its handler only records messages. -/
theorem records_processMessage
    (cfg : Config)
    (s : SessionRef)
    (buf : RingBuffer) :
    (processMessage cfg s buf).Records s (fun p => buf.repliesBase s p) := by
  have hD := appends_data s
  intro p
  have hresult := processMessage_result cfg s buf p
  unfold RingBuffer.repliesBase
  have herror := within_sendErrorMessage hD cfg .falseVersion [] p
  have hnone : buf.replied = none → p.withoutReplied buf = p := by
    intro h
    rw [Process.withoutReplied, h]
  cases hobtained : buf.obtained with
  | nothing =>
      simp only [hobtained, Outcome.result, Prod.mk.injEq] at hresult
      simp only [hresult.2.1, hnone (by simp [RingBuffer.replied, hobtained])]
      exact RecordedFor.refl s _
  | falseProtocol =>
      simp only [hobtained, Outcome.result, Prod.mk.injEq] at hresult
      rw [hresult.2.1]
      exact records_closeSession s false p
  | falseVersion =>
      simp only [hobtained, Outcome.result, Prod.mk.injEq] at hresult
      simp only [hresult.2.1, hnone (by simp [RingBuffer.replied, hobtained])]
      exact herror
  | falseDelimiter =>
      simp only [hobtained, Outcome.result, Prod.mk.injEq] at hresult
      simp only [hresult.2.1, hnone (by simp [RingBuffer.replied, hobtained])]
      exact herror
  | frame header rawMessage =>
      cases hby : processByType s header rawMessage with
      | none =>
          rw [processMessage_unknown cfg s hobtained hby p]
          exact RecordedFor.refl s _
      | some handler =>
          rw [(processMessage_frame cfg s hobtained hby p).1]
          exact within_processByType hD (fun _ => trivial) (fun _ => ⟨appends_session s, trivial⟩)
            (fun _ _ => trivial) (fun _ _ => trivial) hby (p.withoutReplied buf)

/-- An operation on a session leaves its part of the list, and records messages of the
session. -/
theorem Operation.replyList_act
    (cfg : Config)
    {a : Operation}
    {s : SessionRef}
    (h : a.session = some s)
    (p : Process) :
    RecordedFor s (a.repliesBase p s) ((a.act cfg).run p).process.replyList := by
  have hD := appends_data s
  have hsends : ∀ {α : Type} {x : Act α}, OnlySends s (Body.Carried cfg) x →
      (do let _ ← x : Act Unit).Within (appends s) := by
    intro α x hx
    exact (hx.within hD).bind fun _ => Act.Within.pure ()
  cases a with
  | accept r =>
      exact RecordedFor.refl s _
  | start r sessionIdentifier =>
      cases h
      exact records_start cfg s sessionIdentifier p
  | finishStart r =>
      cases h
      exact (records_finishStart s).bind (fun _ => Act.Within.pure ()) p
  | receive r buf =>
      cases h
      exact (records_processMessage cfg s buf).bind (fun _ => Act.Within.pure ()) p
  | close r replyExpected =>
      cases h
      exact (records_closeSession s replyExpected).bind (fun _ => Act.Within.pure ()) p
  | destroy r =>
      cases h
      rw [act, replyList_destroySession]
      exact RecordedFor.refl s _
  | stream r data replyExpected =>
      cases h
      exact hsends (onlySends_sendStreamData cfg s data replyExpected) p
  | normalMessage r data =>
      cases h
      exact hsends (onlySends_sendNormalMessage cfg s data) p
  | request r data timeout =>
      cases h
      have hblock : ∀ id, (MessageBlockerHandler.addBlocker id timeout s).Within (appends s) :=
        fun id q => RecordedFor.refl s _
      have hrequest : (sendRequest cfg s data timeout).Within (appends s) :=
        ((onlySends_sendRequestFrames cfg s data).within hD).bind fun id =>
          Act.Within.ite (fun _ => Act.Within.pure none) fun _ => (hblock id).bind fun _ =>
            Act.Within.pure (some id)
      exact (hrequest.bind fun _ => Act.Within.pure ()) p
  | response r data blockerId =>
      cases h
      exact hsends (onlySends_sendResponse cfg s data blockerId) p
  | heartbeat r =>
      cases h
      exact hsends (onlySends_sendHeartbeat cfg s) p
  | wake blockerId =>
      cases h
  | replyTimer =>
      cases h
  | blockerTimer =>
      cases h

/-! ## Messages that await a reply -/

/-- A message of the session is recorded under the key, and its timeout is reported. -/
def Process.Awaits (p : Process) (s : SessionRef) (key : UInt64) : Prop :=
  ∃ m ∈ p.replyList, m.session = s ∧ m.completeMessageId = key ∧ m.ignoreResult = false

theorem Process.mem_of_mem_withoutReplied
    {p : Process}
    {buf : RingBuffer}
    {m : MessageTime}
    (h : m ∈ (p.withoutReplied buf).replyList) :
    m ∈ p.replyList := by
  unfold Process.withoutReplied at h
  cases hreplied : buf.replied with
  | none =>
      rw [hreplied] at h
      exact h
  | some id =>
      rw [hreplied] at h
      exact mem_of_mem_withoutFirst h

/-- The entries that a close leaves are the old ones; some are marked. -/
theorem ReplyHandler.mem_ignoreAll
    {sessionId : UInt32}
    {l : List MessageTime}
    {m : MessageTime} :
    m ∈ ReplyHandler.ignoreAll sessionId l ↔
      ∃ m' ∈ l, m = if m'.completeMessageId &&& 0xFFFFFFFF == sessionId.toUInt64 then
        { m' with ignoreResult := true } else m' := by
  unfold ReplyHandler.ignoreAll
  rw [List.mem_map]
  constructor
  · rintro ⟨m', hm', rfl⟩
    exact ⟨m', hm', rfl⟩
  · rintro ⟨m', hm', rfl⟩
    exact ⟨m', hm', rfl⟩

/-- What an operation leaves of the list are old entries, some of them marked. -/
theorem Operation.exists_of_mem_repliesBase
    {a : Operation}
    {s : SessionRef}
    {p : Process}
    {m : MessageTime}
    (h : m ∈ a.repliesBase p s) :
    ∃ m' ∈ p.replyList, m'.session = m.session ∧ m'.completeMessageId = m.completeMessageId ∧
      (m.ignoreResult = false → m' = m) := by
  have hsame : m ∈ p.replyList → ∃ m' ∈ p.replyList, m'.session = m.session ∧
      m'.completeMessageId = m.completeMessageId ∧ (m.ignoreResult = false → m' = m) :=
    fun hm => ⟨m, hm, rfl, rfl, fun _ => rfl⟩
  have hclosed : m ∈ p.repliesClosed s → ∃ m' ∈ p.replyList, m'.session = m.session ∧
      m'.completeMessageId = m.completeMessageId ∧ (m.ignoreResult = false → m' = m) := by
    intro hm
    unfold Process.repliesClosed at hm
    split at hm
    · obtain ⟨m', hm', rfl⟩ := ReplyHandler.mem_ignoreAll.mp hm
      refine ⟨m', hm', ?_, ?_, ?_⟩
      · split <;> rfl
      · split <;> rfl
      · split
        · intro hignored
          cases hignored
        · exact fun _ => rfl
    · exact hsame hm
  cases a with
  | start r sessionIdentifier =>
      simp only [repliesBase] at h
      split at h
      · exact hsame h
      · exact hclosed h
  | finishStart r =>
      simp only [repliesBase] at h
      split at h
      · exact hclosed h
      · exact hsame h
  | receive r buf =>
      simp only [repliesBase, RingBuffer.repliesBase] at h
      split at h
      · exact hclosed h
      · exact hsame (Process.mem_of_mem_withoutReplied h)
  | close r replyExpected =>
      exact hclosed h
  | destroy r =>
      exact hclosed h
  | _ =>
      exact hsame h

/-- The entries that the timer has passed are old ones with another timer. -/
theorem ReplyHandler.exists_of_mem_ticked
    {pre post : List MessageTime}
    {e m : MessageTime}
    (h : m ∈ pre.map ReplyHandler.tick ++ ReplyHandler.tick e :: post) :
    ∃ m' ∈ pre ++ e :: post, m'.session = m.session ∧
      m'.completeMessageId = m.completeMessageId ∧ m'.ignoreResult = m.ignoreResult := by
  rcases List.mem_append.mp h with hpre | hpost
  · obtain ⟨m', hm', rfl⟩ := List.mem_map.mp hpre
    exact ⟨m', List.mem_append_left _ hm', rfl, rfl, rfl⟩
  · rcases List.mem_cons.mp hpost with rfl | hpost
    · exact ⟨e, List.mem_append_right _ List.mem_cons_self, rfl, rfl, rfl⟩
    · exact ⟨m, List.mem_append_right _ (List.mem_cons_of_mem _ hpost), rfl, rfl, rfl⟩

/-- What a timer step leaves of the list are old entries with another timer. -/
theorem ReplyHandler.exists_of_mem_makeTimerStep
    {p : Process}
    {m : MessageTime}
    (h : m ∈ (ReplyHandler.makeTimerStep.run p).process.replyList) :
    ∃ m' ∈ p.replyList, m'.session = m.session ∧ m'.completeMessageId = m.completeMessageId ∧
      m'.ignoreResult = m.ignoreResult := by
  rcases ReplyHandler.makeTimerStep_cases p with
    ⟨_, hrun⟩ | ⟨pre, e, post, removed, rest, reported, hsplit, _, _, htake, _, _, hrun⟩
  · rw [hrun] at h
    obtain ⟨m', hm', rfl⟩ := List.mem_map.mp h
    exact ⟨m', hm', rfl, rfl, rfl⟩
  · have hrest : m ∈ rest := by
      rw [hrun] at h
      split at h
      · exact h
      · exact h
    rw [hsplit]
    exact ReplyHandler.exists_of_mem_ticked
      ((takeFirst_perm htake).mem_iff.mpr (List.mem_cons_of_mem _ hrest))

/-- Woken threads and the timer of the requests leave the list as it is. -/
theorem Operation.replyList_tables
    (cfg : Config)
    {a : Operation}
    (h : a.session = none)
    (ha : a ≠ .replyTimer)
    (p : Process) :
    ((a.act cfg).run p).process.replyList = p.replyList := by
  cases a with
  | wake blockerId =>
      simp only [act, MessageBlockerHandler.removeMessageFromList, Act.run_bind, Act.run_get]
      cases MessageBlockerHandler.takeBlocker blockerId p.blockerList with
      | none =>
          rfl
      | some found =>
          rfl
  | replyTimer =>
      exact absurd rfl ha
  | blockerTimer =>
      obtain ⟨l, hl⟩ := MessageBlockerHandler.makeTimerStepFrom_frame p.blockerList.length 0 p
      simp only [act, MessageBlockerHandler.makeTimerStep, Act.run_get_bind, hl]
  | _ =>
      cases h

/-- Every message in the list was there before, or is of the session of the
operation. -/
theorem Operation.exists_of_mem_replyList
    (cfg : Config)
    (a : Operation)
    (p : Process)
    {m : MessageTime}
    (h : m ∈ ((a.act cfg).run p).process.replyList) :
    (∃ m' ∈ p.replyList, m'.session = m.session ∧ m'.completeMessageId = m.completeMessageId ∧
      (m.ignoreResult = false → m'.ignoreResult = false)) ∨ a.session = some m.session := by
  cases hsession : a.session with
  | some s =>
      obtain ⟨added, hlist, hadded⟩ := a.replyList_act cfg hsession p
      rw [hlist] at h
      rcases List.mem_append.mp h with hold | hnew
      · obtain ⟨m', hm', hs, hkey, hsame⟩ := Operation.exists_of_mem_repliesBase hold
        refine Or.inl ⟨m', hm', hs, hkey, fun hignored => ?_⟩
        rw [hsame hignored]
        exact hignored
      · rw [(hadded m hnew).1]
        exact Or.inr rfl
  | none =>
      refine Or.inl ?_
      by_cases hreply : a = .replyTimer
      · subst hreply
        obtain ⟨m', hm', hs, hkey, hsame⟩ := ReplyHandler.exists_of_mem_makeTimerStep h
        exact ⟨m', hm', hs, hkey, fun hignored => hsame.trans hignored⟩
      · rw [a.replyList_tables cfg hsession hreply p] at h
        exact ⟨m, h, rfl, rfl, id⟩

/-- A message that is awaited was awaited before, or the operation recorded it. -/
theorem Operation.awaits_of_act
    (cfg : Config)
    (a : Operation)
    {p : Process}
    {s : SessionRef}
    {key : UInt64}
    (h : ((a.act cfg).run p).process.Awaits s key) :
    p.Awaits s key ∨ a.session = some s := by
  obtain ⟨m, hm, rfl, hkey, hignored⟩ := h
  rcases a.exists_of_mem_replyList cfg p hm with ⟨m', hm', hs, hkey', hopen⟩ | hsession
  · exact Or.inl ⟨m', hm', hs, hkey'.trans hkey, hopen hignored⟩
  · exact Or.inr hsession

/-- A timer step calls an error callback and sets `m_initState` only for an awaited
message. -/
theorem ReplyHandler.awaits_of_makeTimerStep
    {p : Process}
    {s : SessionRef}
    (h : (∃ code text, .processError s code text ∈ (ReplyHandler.makeTimerStep.run p).outputs) ∨
      ((ReplyHandler.makeTimerStep.run p).process.session s).initState ≠
        (p.session s).initState) :
    ∃ m : MessageTime, m.session = s ∧ p.Awaits s m.completeMessageId ∧
      (ReplyHandler.makeTimerStep.run p).outputs =
        [.processError s .messageTimeout (ReplyHandler.timeoutText m)] := by
  rcases ReplyHandler.makeTimerStep_cases p with
    ⟨_, hrun⟩ | ⟨pre, e, post, removed, rest, reported, hsplit, _, _, _, hreported, _, hrun⟩
  · rw [hrun] at h
    rcases h with ⟨code, text, hmem⟩ | hset
    · cases hmem
    · exact absurd rfl hset
  · cases hignored : reported.ignoreResult with
    | true =>
        simp only [hignored, if_true] at hrun
        rw [hrun] at h
        rcases h with ⟨code, text, hmem⟩ | hset
        · cases hmem
        · exact absurd rfl hset
    | false =>
        simp only [hignored, Bool.false_eq_true, if_false] at hrun
        have hsession : reported.session = s := by
          rw [hrun] at h
          rcases h with ⟨code, text, hmem⟩ | hset
          · exact (Output.processError.inj (List.mem_singleton.mp hmem)).1.symm
          · by_contra hne
            exact hset (by rw [Process.modifySession_other _ _ (Ne.symm hne)])
        obtain ⟨m', hm', hs, hkey, hopen⟩ := ReplyHandler.exists_of_mem_ticked hreported
        refine ⟨reported, hsession, ⟨m', ?_, hs.trans hsession, hkey, hopen.trans hignored⟩, ?_⟩
        · rw [hsplit]
          exact hm'
        · rw [hrun, hsession]

/-- The handlers of session messages record nothing: what they send is a reply. -/
theorem SessionFrame.replyList_handle
    (f : SessionFrame)
    (s : SessionRef)
    (messageId : UInt32)
    (p : Process) :
    ((f.handle s messageId).run p).process.replyList = p.replyList := by
  have hE := keepsReplies_session s
  have hflags : (0x2 : UInt8) &&& 0x1 = 0 := by
    decide
  have hall : (f.handle s messageId).Within keepsReplies := by
    cases f with
    | initStart clientSessionId sessionIdentifier =>
        have hreply : ∀ id, (sendSessionInitReply s clientSessionId messageId id
            sessionIdentifier).Within keepsReplies :=
          fun id q => replyList_sendMessage (by simp [Message.replyRequired, Body.flags, hflags]) q
        exact (within_increaseSessionIdCounter hE).bind fun _ => (within_addSession hE _).bind
          fun _ => (within_connectiSession hE _).bind fun _ => (within_makeSessionReady hE _ _).bind
            fun _ => (hreply _).bind fun _ => Act.Within.pure ()
    | initReply initialId completeSessionId sessionIdentifier =>
        exact (within_removeSession hE _).bind fun _ => (within_addSession hE _).bind fun _ =>
          (within_makeSessionReady hE _ _).bind fun _ => Act.Within.pure ()
    | closeStart sessionId =>
        have hreply : (sendSessionCloseReply s messageId).Within keepsReplies := by
          intro q
          rw [sendSessionCloseReply, run_sendReply]
          exact replyList_sendMessage (by simp [Message.replyRequired, Body.flags, hflags]) q
        exact hreply.bind fun _ => (within_removeSession hE _).bind fun _ =>
          (within_endSession hE).bind fun _ => Act.Within.pure ()
    | closeReply sessionId =>
        exact (within_removeSession hE _).bind fun _ => (within_disconnectSession hE).bind fun _ =>
          Act.Within.pure ()
  exact hall p

/-- What an operation that closes a session leaves of the list. -/
def Operation.repliesLeft (p : Process) (s : SessionRef) : Operation → List MessageTime
  | .receive _ buf => buf.repliesBase s p
  | _ => p.repliesClosed s

/-- An operation that takes a session out of `SESSION_READY` records nothing. -/
theorem Operation.replyList_closing
    (cfg : Config)
    {a : Operation}
    {s : SessionRef}
    (h : a.session = some s)
    {p : Process}
    (hready : p.Ready s)
    (hleft : ¬ ((a.act cfg).run p).process.Ready s) :
    ((a.act cfg).run p).process.replyList = a.repliesLeft p s := by
  have hstate : (((a.act cfg).run p).process.session s).statemachine =
      (a.life p s (p.life s [])).state := congrArg Life.state (a.life_act cfg h p [])
  have hbefore : (p.life s []).state = .sessionReady := hready
  have hstays : (a.life p s (p.life s [])).state ≠ .sessionReady := by
    intro hafter
    exact hleft (hstate.trans hafter)
  cases a with
  | start r sessionIdentifier =>
      cases h
      have hconnectable : (p.session s).connectable = false := by
        have hp : (p.session s).statemachine = .sessionReady := hready
        simp [Session.connectable, hp]
      by_cases hlong : sessionIdentifier.length > 64000
      · simp only [life, hlong, if_true] at hstays
        exact absurd hbefore hstays
      · exact replyList_start_failed cfg (Nat.le_of_not_lt hlong) hconnectable
  | finishStart r =>
      cases h
      by_cases hfailed : (p.session s).initState = -1
      · have hlist := replyList_close_destroy s p
        rw [← finishStart_process hfailed] at hlist
        exact hlist
      · simp only [life, hfailed, if_false] at hstays
        exact absurd hbefore hstays
  | receive r buf =>
      cases h
      have hact : (((receive s buf).act cfg).run p).process =
          ((processMessage cfg s buf).run p).process := rfl
      simp only [life, RingBuffer.life] at hstays
      simp only [repliesLeft, RingBuffer.repliesBase]
      cases hobtained : buf.obtained with
      | falseProtocol =>
          have hresult := processMessage_result cfg s buf p
          simp only [hobtained, Outcome.result, Prod.mk.injEq] at hresult
          rw [hact, hresult.2.1]
          exact replyList_closeSession s p
      | _ =>
          cases hframe : buf.sessionFrame with
          | none =>
              simp only [hobtained, hframe] at hstays
              exact absurd hbefore hstays
          | some f =>
              simp only [hobtained, hframe] at hstays
              obtain ⟨messageId, hrun⟩ := processMessage_sessionFrame cfg s hframe
              rw [hact, (hrun p).1]
              exact f.replyList_handle s messageId (p.withoutReplied buf)
  | close r replyExpected =>
      cases h
      cases replyExpected with
      | true =>
          exact absurd hbefore hstays
      | false =>
          exact replyList_closeSession s p
  | destroy r =>
      cases h
      exact replyList_destroySession s p
  | _ =>
      exact absurd hbefore hstays

/-! ## Messages between two library sides -/

/-- The low half of a key is the session id. -/
theorem ReplyHandler.completeMessageId_and (sessionId messageId : UInt32) :
    ReplyHandler.completeMessageId sessionId messageId &&& 0xFFFFFFFF = sessionId.toUInt64 := by
  refine UInt64.toNat_inj.mp ?_
  have hlt := sessionId.toNat_lt
  have hmask : (0xFFFFFFFF : UInt64).toNat = 2 ^ 32 - 1 := by
    decide
  rw [UInt64.toNat_and, ReplyHandler.completeMessageId_toNat, hmask, Nat.and_two_pow_sub_one_eq_mod,
    UInt32.toNat_toUInt64]
  omega

/-- The members of a session are read off its life. -/
theorem Process.members_of_life
    {p : Process}
    {s : SessionRef}
    {log : List Output}
    {l : Life}
    (h : p.life s log = l) :
    (p.session s).statemachine = l.state ∧ (p.session s).sessionId = l.sessionId ∧
      (p.session s).socket.any Socket.initResult = l.connects := by
  subst h
  exact ⟨rfl, rfl, rfl⟩

theorem sessions_of_life
    {p : Process}
    {s : SessionRef}
    {log : List Output}
    {l : Life}
    (h : p.life s log = l) :
    p.sessions = l.sessions :=
  congrArg Life.sessions h

/-- The body of a session message is handled as its frame. -/
theorem Body.handle_sessionFrame
    {body : Body}
    {f : SessionFrame}
    (h : body.sessionFrame = some f)
    (s : SessionRef)
    (messageId : UInt32) :
    body.handle s messageId = f.handle s messageId := by
  cases body with
  | sessionInitStart clientSessionId identifier =>
      cases h
      rfl
  | sessionInitReply clientSessionId completeSessionId identifier =>
      cases h
      rfl
  | sessionCloseStart replyExpected =>
      cases h
      rfl
  | sessionCloseReply =>
      cases h
      rfl
  | _ =>
      cases h

theorem System.process_after_receive
    (cfg : Config)
    (st : System)
    (s : SessionRef)
    (buf : RingBuffer) :
    (st.after cfg (.receive s buf)).process = ((processMessage cfg s buf).run st.process).process :=
  rfl

/-- A session message that is no reply leaves the list as it is. -/
theorem System.replyList_after_receive
    (st : System)
    (s : SessionRef)
    {m : Message}
    (hsize : m.body.Sendable Config.default)
    {f : SessionFrame}
    (hframe : m.body.sessionFrame = some f)
    (hreply : m.isReply = false) :
    (st.after Config.default (.receive s (bufferOfMessage m))).process.replyList =
      st.process.replyList := by
  rw [System.process_after_receive, (processMessage_bufferOfMessage hsize s _).1,
    Message.handle_of_not_reply hreply, Body.handle_sessionFrame hframe]
  exact f.replyList_handle s m.messageId st.process

/-- A heartbeat of a ready session is recorded. -/
theorem System.replyList_after_heartbeat
    (cfg : Config)
    (st : System)
    {s : SessionRef}
    (hready : st.process.Ready s)
    (hsocket : (st.process.session s).socket ≠ none) :
    (st.after cfg (.heartbeat s)).process.replyList = st.process.replyList ++
      [{ completeMessageId := ReplyHandler.completeMessageId (st.process.session s).sessionId
          ((st.process.session s).messageIdCounter + 1)
         messageType := MessageType.heartbeat.code
         session := s }] := by
  have hstate : (st.process.session s).statemachine = .sessionReady := hready
  cases hk : (st.process.session s).socket with
  | none =>
      exact absurd hk hsocket
  | some k =>
      have hsend : ((sendHeartbeat s).run st.process).process.replyList =
          ((sendHeartbeatStart s).run st.process).process.replyList := by
        simp [sendHeartbeat, hk, hstate]
      have hact : (st.after cfg (.heartbeat s)).process.replyList =
          ((sendHeartbeat s).run st.process).process.replyList := rfl
      rw [hact, hsend, sendHeartbeatStart, run_sendNew, run_sendMessage]
      simp [hk, Process.record, Message.replyRequired, Body.flags, Process.nextMessage, Body.type]

/-- A start that connects records its init start message. -/
theorem replyList_start
    (cfg : Config)
    {s : SessionRef}
    {sessionIdentifier : Bytes}
    (hlong : sessionIdentifier.length ≤ 64000)
    {p : Process}
    (hconnectable : (p.session s).connectable = true) :
    (((Operation.start s sessionIdentifier).act cfg).run p).process.replyList =
      p.replyList ++
        [{ completeMessageId := ReplyHandler.completeMessageId (p.sessionIdCounter + 1).toUInt32
            ((p.session s).messageIdCounter + 1)
           messageType := MessageType.session.code
           session := s }] := by
  have hprocess := connectiSession_process s (p.sessionIdCounter + 1).toUInt32
    { p with sessionIdCounter := p.sessionIdCounter + 1 }
  obtain ⟨k, hk⟩ : ∃ k, (p.session s).socket = some k := by
    cases hsocket : (p.session s).socket with
    | none =>
        simp [Session.connectable, hsocket] at hconnectable
    | some k =>
        exact ⟨k, rfl⟩
  rw [(start_run cfg s hlong p).1]
  simp only [hconnectable, if_true] at hprocess ⊢
  rw [hprocess]
  simp [Act.run_bind, sendSessionInitStart, run_sendNew, run_sendMessage, Process.connected, hk,
    Process.record, Message.replyRequired, Body.flags, Process.nextMessage, Body.type]

/-- An error message releases the session that waits for its handshake. -/
theorem System.process_after_error
    (st : System)
    (s : SessionRef)
    {sessionId messageId : UInt32}
    {subType : ErrorSubType}
    {message : Bytes}
    (hsize : (Body.error subType message).Sendable Config.default) :
    (st.after Config.default
        (.receive s (bufferOfMessage ⟨sessionId, messageId, .error subType message⟩))).process =
      st.process.setInitState s (-1) := by
  have hreply : (Message.mk sessionId messageId (.error subType message)).isReply = false := by
    simp [Message.isReply, Body.flags]
  rw [System.process_after_receive, (processMessage_bufferOfMessage hsize s _).1,
    Message.handle_of_not_reply hreply]
  rfl

/-! ## The timer and a single message -/

namespace ReplyHandler

/-- The only message does not time out yet. -/
theorem makeTimerStep_single
    {p : Process}
    {m : MessageTime}
    (hlist : p.replyList = [m])
    (hm : ¬ TimesOut m) :
    (makeTimerStep.run p).process.replyList = [tick m] := by
  rcases makeTimerStep_cases p with
    ⟨_, hrun⟩ | ⟨pre, e, post, _, _, _, hsplit, _, hout, _⟩
  · rw [hrun, hlist]
    rfl
  · rw [hlist] at hsplit
    have he : e ∈ [m] := hsplit ▸ List.mem_append_right _ List.mem_cons_self
    rw [List.mem_singleton.mp he] at hout
    exact absurd hout hm

/-- The only message times out, and this is reported. -/
theorem makeTimerStep_single_out
    {p : Process}
    {m : MessageTime}
    (hlist : p.replyList = [m])
    (hm : TimesOut m)
    (hopen : m.ignoreResult = false) :
    (makeTimerStep.run p).outputs =
      [.processError m.session .messageTimeout (timeoutText (tick m))] := by
  rcases makeTimerStep_cases p with
    ⟨hnone, _⟩ | ⟨pre, e, post, _, _, reported, hsplit, _, _, _, hreported, _, hrun⟩
  · exact absurd hm (hnone m (hlist ▸ List.mem_singleton.mpr rfl))
  · have hshape : pre = [] ∧ e = m ∧ post = [] := by
      rw [hlist] at hsplit
      cases pre with
      | nil =>
          rw [List.nil_append, List.cons.injEq] at hsplit
          exact ⟨rfl, hsplit.1.symm, hsplit.2.symm⟩
      | cons x pre =>
          simp at hsplit
    obtain ⟨rfl, rfl, rfl⟩ := hshape
    have heq : reported = tick e := by
      simpa using hreported
    rw [hrun, heq]
    simp [tick, hopen]

end ReplyHandler

end SakuraNetwork

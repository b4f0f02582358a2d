import SakuraNetwork.PendingReplies

/-!
# Timeouts of a closed session

`closeSession` marks the pending messages of a session, so that the timer does not
report them any more; a close message of the peer does not.  The marked messages are
found by the session id in their key.

* `Operation.Neutralises`: when a close leaves no message whose timeout is reported.
* `neutralises_iff`: it is exactly then.
* `silent_after_close`: what the timer reports afterwards was sent after the close.
-/

namespace SakuraNetwork

open Lib

/-- The messages that the session awaits are found by its id. -/
def Process.AwaitsById (p : Process) (s : SessionRef) : Prop :=
  ∀ key, p.Awaits s key → key &&& 0xFFFFFFFF = (p.session s).sessionId.toUInt64

/-- A closing operation leaves no message of the session whose timeout is reported. -/
def Operation.Neutralises (p : Process) (s : SessionRef) : Operation → Prop
  | .receive _ buf =>
      match buf.obtained with
      | .falseProtocol => p.AwaitsById s
      -- a close message of the peer marks nothing
      | _ => ∀ key, ¬ (p.withoutReplied buf).Awaits s key
  | _ => p.AwaitsById s

/-- A close leaves the messages that are not found by the id. -/
theorem awaits_repliesClosed_iff
    {p q : Process}
    {s : SessionRef}
    (hready : p.Ready s)
    (hlist : q.replyList = p.repliesClosed s)
    (key : UInt64) :
    q.Awaits s key ↔ p.Awaits s key ∧ key &&& 0xFFFFFFFF ≠ (p.session s).sessionId.toUInt64 := by
  unfold Process.Awaits
  rw [hlist, Process.repliesClosed, if_pos hready]
  constructor
  · rintro ⟨m, hm, hs, hkey, hopen⟩
    obtain ⟨m', hm', rfl⟩ := ReplyHandler.mem_ignoreAll.mp hm
    split at hs
    · rename_i hid
      rw [if_pos hid] at hopen
      cases hopen
    · rename_i hid
      rw [if_neg hid] at hkey hopen
      refine ⟨⟨m', hm', hs, hkey, hopen⟩, ?_⟩
      rw [← hkey]
      simpa using hid
  · rintro ⟨⟨m, hm, hs, hkey, hopen⟩, hne⟩
    have hid : ¬ (m.completeMessageId &&& 0xFFFFFFFF == (p.session s).sessionId.toUInt64) =
        true := by
      rw [hkey]
      simpa using hne
    exact ⟨m, ReplyHandler.mem_ignoreAll.mpr ⟨m, hm, (if_neg hid).symm⟩, hs, hkey, hopen⟩

theorem awaitsById_iff
    {p q : Process}
    {s : SessionRef}
    (hready : p.Ready s)
    (hlist : q.replyList = p.repliesClosed s) :
    (∀ key, ¬ q.Awaits s key) ↔ p.AwaitsById s := by
  constructor
  · intro hnone key hkey
    by_contra hne
    exact hnone key ((awaits_repliesClosed_iff hready hlist key).mpr ⟨hkey, hne⟩)
  · intro hid key hkey
    obtain ⟨hbefore, hne⟩ := (awaits_repliesClosed_iff hready hlist key).mp hkey
    exact hne (hid key hbefore)

/-- After a close no message of the session is awaited exactly if the operation
neutralises them. -/
theorem neutralises_iff
    (cfg : Config)
    {a : Operation}
    {s : SessionRef}
    (h : a.session = some s)
    {p : Process}
    (hready : p.Ready s)
    (hleft : ¬ ((a.act cfg).run p).process.Ready s) :
    (∀ key, ¬ ((a.act cfg).run p).process.Awaits s key) ↔ a.Neutralises p s := by
  have hlist := a.replyList_closing cfg h hready hleft
  have hclosed : (∀ q : Process, q.replyList = p.repliesClosed s →
      ((∀ key, ¬ q.Awaits s key) ↔ p.AwaitsById s)) := fun q => awaitsById_iff hready
  cases a with
  | receive r buf =>
      simp only [Operation.repliesLeft, RingBuffer.repliesBase] at hlist
      simp only [Operation.Neutralises]
      cases hobtained : buf.obtained with
      | falseProtocol =>
          rw [hobtained] at hlist
          exact hclosed _ hlist
      | _ =>
          rw [hobtained] at hlist
          unfold Process.Awaits
          rw [hlist]
  | _ =>
      exact hclosed _ hlist

/-! ## Runs after a close -/

/-- Among the operations that were done from `st` on, one on the session recorded a
message under the key. -/
def RecordedSince
    (cfg : Config)
    (s : SessionRef)
    (key : UInt64)
    (st : System)
    (as : List Operation) : Prop :=
  ∃ pre b post st' st'',
    as = pre ++ b :: post ∧
    (library cfg).exec st pre = some st' ∧
    (library cfg).step st' b = some st'' ∧
    b.session = some s ∧
    ¬ st'.process.Awaits s key ∧
    st''.process.Awaits s key

theorem RecordedSince.cons
    {cfg : Config}
    {s : SessionRef}
    {key : UInt64}
    {st st' : System}
    {a : Operation}
    {as : List Operation}
    (hstep : (library cfg).step st a = some st')
    (h : RecordedSince cfg s key st' as) :
    RecordedSince cfg s key st (a :: as) := by
  obtain ⟨pre, b, post, t, t', rfl, hexec, hrest⟩ := h
  refine ⟨a :: pre, b, post, t, t', rfl, ?_, hrest⟩
  rw [TransitionSystem.exec, hstep]
  exact hexec

/-- What is awaited after a run was awaited before it, or recorded in it. -/
theorem awaits_of_exec
    {cfg : Config}
    {s : SessionRef}
    {key : UInt64}
    {st st' : System}
    {as : List Operation}
    (hexec : (library cfg).exec st as = some st')
    (h : st'.process.Awaits s key) :
    st.process.Awaits s key ∨ RecordedSince cfg s key st as := by
  induction as generalizing st with
  | nil =>
      simp only [TransitionSystem.exec, Option.some.injEq] at hexec
      rw [hexec]
      exact Or.inl h
  | cons a as ih =>
      obtain ⟨t, hstep, hrest⟩ := Option.bind_eq_some_iff.mp hexec
      rcases ih hrest with hawaits | hrecorded
      · obtain ⟨_, rfl⟩ := library_step_cases hstep
        by_cases hbefore : st.process.Awaits s key
        · exact Or.inl hbefore
        · rcases a.awaits_of_act cfg hawaits with hold | hsession
          · exact Or.inl hold
          · exact Or.inr ⟨[], a, as, st, _, rfl, rfl, hstep, hsession, hbefore, hawaits⟩
      · exact Or.inr (hrecorded.cons hstep)

/-- In every run from `st` on, a timer step of the reply handler calls the error
callback of the session, or sets its `m_initState`, only for a message that was recorded
since `st`. -/
def SilentSince (cfg : Config) (s : SessionRef) (st : System) : Prop :=
  ∀ as st', (library cfg).exec st as = some st' →
    ((∃ code text, .processError s code text ∈
        (ReplyHandler.makeTimerStep.run st'.process).outputs) ∨
      ((ReplyHandler.makeTimerStep.run st'.process).process.session s).initState ≠
        (st'.process.session s).initState) →
    ∃ m : MessageTime, m.session = s ∧ RecordedSince cfg s m.completeMessageId st as ∧
      (ReplyHandler.makeTimerStep.run st'.process).outputs =
        [.processError s .messageTimeout (ReplyHandler.timeoutText m)]

theorem silentSince_of_not_awaits
    {cfg : Config}
    {s : SessionRef}
    {st : System}
    (h : ∀ key, ¬ st.process.Awaits s key) :
    SilentSince cfg s st := by
  intro as st' hexec hreport
  obtain ⟨m, hs, hawaits, houtputs⟩ := ReplyHandler.awaits_of_makeTimerStep hreport
  rcases awaits_of_exec hexec hawaits with hold | hrecorded
  · exact absurd hold (h m.completeMessageId)
  · exact ⟨m, hs, hrecorded, houtputs⟩

/-- The operation takes the session out of `SESSION_READY`. -/
structure Closes
    (cfg : Config)
    (s : SessionRef)
    (st : System)
    (a : Operation)
    (st' : System) : Prop where
  step : (library cfg).step st a = some st'
  session : a.session = some s
  ready : st.process.Ready s
  left : ¬ st'.process.Ready s

/-- After a close that neutralises the messages of the session, the timer is silent
about them, whatever happens later.  The close is one step: what another thread sends
while `closeSession` runs counts as sent after it. -/
theorem silent_after_close
    {cfg : Config}
    {s : SessionRef}
    {st st' : System}
    {a : Operation}
    (hcloses : Closes cfg s st a st')
    (hneutralises : a.Neutralises st.process s) :
    SilentSince cfg s st' := by
  obtain ⟨hstep, hsession, hready, hleft⟩ := hcloses
  obtain ⟨_, rfl⟩ := library_step_cases hstep
  exact silentSince_of_not_awaits ((neutralises_iff cfg hsession hready hleft).mpr hneutralises)

theorem not_ready_after_close
    (cfg : Config)
    (st : System)
    (s : SessionRef) :
    ¬ (st.after cfg (.close s false)).process.Ready s :=
  not_ready_closeSession s st.process

/-- A message that is still awaited is reported without being sent again. -/
theorem not_silentSince_of_single
    {cfg : Config}
    {st : System}
    {m : MessageTime}
    (hlist : st.process.replyList = [m])
    (hopen : m.ignoreResult = false)
    (hnot : ¬ ReplyHandler.TimesOut m)
    (hout : ReplyHandler.TimesOut (ReplyHandler.tick m)) :
    ¬ SilentSince cfg m.session st := by
  intro hsilent
  have hstep : (library cfg).step st .replyTimer = some (st.after cfg .replyTimer) :=
    library_step rfl
  have hexec : (library cfg).exec st [.replyTimer] = some (st.after cfg .replyTimer) := by
    simp [TransitionSystem.exec, hstep]
  have hnext : (st.after cfg .replyTimer).process.replyList = [ReplyHandler.tick m] :=
    ReplyHandler.makeTimerStep_single hlist hnot
  have houtputs := ReplyHandler.makeTimerStep_single_out hnext hout hopen
  have hreport := hsilent _ _ hexec (Or.inl ⟨_, _, houtputs ▸ List.mem_singleton.mpr rfl⟩)
  obtain ⟨_, _, ⟨pre, b, post, _, _, hsplit, _, _, hsession, _⟩, _⟩ := hreport
  have hb : b ∈ [Operation.replyTimer] := hsplit ▸ List.mem_append_right _ List.mem_cons_self
  rw [List.mem_singleton.mp hb] at hsession
  cases hsession

/-! ## A session with a pending heartbeat -/

/-- The server session sent a heartbeat. -/
def heartbeatSystem : System :=
  openedSystem.after Config.default (.heartbeat 0)

/-- The entry of the heartbeat. -/
def heartbeatEntry : MessageTime where
  completeMessageId :=
    ReplyHandler.completeMessageId 65537 ((openedSystem.process.session 0).messageIdCounter + 1)
  messageType := MessageType.heartbeat.code
  session := 0

theorem replyList_openedSystem : openedSystem.process.replyList = [] := by
  have hsize : Body.Sendable Config.default (.sessionInitStart 1 []) := by
    simp [Body.Sendable]
  have hreply : (Message.mk 1 1 (.sessionInitStart 1 [])).isReply = false := by
    decide
  rw [openedSystem, System.replyList_after_receive _ _ hsize rfl hreply]
  rfl

theorem replyList_heartbeatSystem : heartbeatSystem.process.replyList = [heartbeatEntry] := by
  obtain ⟨hready, hid, hconnects⟩ := Process.members_of_life life_openedSystem
  have hsocket : (openedSystem.process.session 0).socket ≠ none := by
    intro hnone
    rw [hnone] at hconnects
    cases hconnects
  rw [heartbeatSystem, System.replyList_after_heartbeat _ _ hready hsocket,
    replyList_openedSystem, hid]
  rfl

theorem life_heartbeatSystem :
    heartbeatSystem.process.life 0 heartbeatSystem.log =
      openedSystem.process.life 0 openedSystem.log :=
  System.life_after Config.default openedSystem rfl

theorem reachable_heartbeatSystem : (library Config.default).Reachable heartbeatSystem := by
  have henabled : (Operation.heartbeat 0).enabled openedSystem = true := rfl
  exact .step openedSystem_keepsRegistry.reachable trivial (library_step henabled)

/-- The session closes itself while the heartbeat is pending. -/
theorem silent_after_close_heartbeat :
    SilentSince Config.default 0 (heartbeatSystem.after Config.default (.close 0 false)) := by
  obtain ⟨hready, hid, _⟩ := Process.members_of_life
    (life_heartbeatSystem.trans life_openedSystem)
  have henabled : (Operation.close 0 false).enabled heartbeatSystem = true := rfl
  have hneutralises : (Operation.close 0 false).Neutralises heartbeatSystem.process 0 := by
    rintro key ⟨m, hm, _, rfl, _⟩
    rw [replyList_heartbeatSystem, List.mem_singleton] at hm
    rw [hm, hid]
    exact ReplyHandler.completeMessageId_and 65537 _
  exact silent_after_close
    ⟨library_step henabled, rfl, hready, not_ready_after_close _ _ 0⟩
    hneutralises

/-- The peer closes the session while the heartbeat is pending: its timeout is reported
two timer steps later. -/
theorem not_silent_after_close :
    ¬ ∀ st, (library Config.default).Reachable st → ∀ (s : SessionRef) (a : Operation)
      (st' : System), Closes Config.default s st a st' → SilentSince Config.default s st' := by
  intro hall
  have hsize : Body.Sendable Config.default (.sessionCloseStart false) := by
    simp [Body.Sendable]
  have hreply : (Message.mk 65537 1 (.sessionCloseStart false)).isReply = false := by
    decide
  have henabled : (Operation.receive 0
      (bufferOfMessage ⟨65537, 1, .sessionCloseStart false⟩)).enabled heartbeatSystem = true := rfl
  obtain ⟨hready, _⟩ := Process.members_of_life (life_heartbeatSystem.trans life_openedSystem)
  have hlist := System.replyList_after_receive heartbeatSystem 0
    (m := ⟨65537, 1, .sessionCloseStart false⟩) hsize rfl hreply
  have hlife := System.life_after_receive heartbeatSystem 0
    (m := ⟨65537, 1, .sessionCloseStart false⟩) hsize
  rw [replyList_heartbeatSystem] at hlist
  rw [life_heartbeatSystem, life_openedSystem] at hlife
  obtain ⟨hleft, _⟩ := Process.members_of_life hlife
  refine not_silentSince_of_single hlist rfl (by decide) (by decide)
    (hall _ reachable_heartbeatSystem 0 _ _ ⟨library_step henabled, rfl, hready, ?_⟩)
  intro hstill
  exact SessionState.noConfusion (hstill.symm.trans hleft)

end SakuraNetwork

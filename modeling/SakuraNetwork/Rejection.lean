import SakuraNetwork.Effects

/-!
# Rejected input

`processMessage` refuses a foreign protocol, a wrong version, a wrong delimiter
and an unknown type.  It takes no byte of what it refuses, so the same bytes are
at the front of the buffer at the next call.  The connection gets rid of them
only if it is closed.

* `processMessage_rejected`: what is returned for rejected input.
* `rejected_harmless_iff`: when the receiver is not jammed by it.
-/

namespace SakuraNetwork

open Lib

/-- The frame at the front of the buffer is refused. -/
def RingBuffer.Rejected (buf : RingBuffer) : Prop :=
  match buf.obtained with
  | .nothing => False
  | .falseProtocol | .falseVersion | .falseDelimiter => True
  | .frame header _ => ∀ type : MessageType, type ≠ .undefined → header.type ≠ type.code

/-- The session is not connected, and its socket, if it has one, is closed. -/
def Session.Closed (x : Session) : Prop :=
  x.statemachine = .notConnected ∧ ∀ k, x.socket = some k → k.isOpen = false

/-- The receiver gets past the input: it takes some of it, or the session is
closed; and no assertion fails. -/
def Outcome.Harmless (s : SessionRef) (o : Outcome Processed) : Prop :=
  (∃ n, o.value = .taken n ∧ 0 < n) ∨
    (o.value ≠ .assertFailed ∧ (o.process.session s).Closed)

theorem Session.closed_iff (x : Session) :
    x.Closed ↔ x.statemachine = .notConnected ∧ x.socket.any Socket.isOpen = false := by
  unfold Session.Closed
  cases x.socket with
  | none =>
      simp
  | some k =>
      simp

/-- Sends do not open or close a session. -/
theorem SendFrame.closed_iff
    {s : SessionRef}
    {p p' : Process}
    (h : SendFrame s p p') :
    (p'.session s).Closed ↔ (p.session s).Closed := by
  have hstate : (p'.session s).statemachine = (p.session s).statemachine := by
    obtain ⟨k, c, hself⟩ := h.self
    rw [hself]
  rw [Session.closed_iff, Session.closed_iff, hstate, h.any_isOpen]

/-- A close without reply closes a ready session, and no other. -/
theorem closeSession_closed_iff (s : SessionRef) (p : Process) :
    (((closeSession s).run p).process.session s).Closed ↔
      (p.session s).statemachine = .sessionReady ∨ (p.session s).Closed := by
  rw [closeSession, run_getSession_bind, SessionState.isInState_sessionReady]
  by_cases hstate : (p.session s).statemachine = .sessionReady
  · simp only [hstate, decide_true, if_true, true_or, iff_true, Bool.false_eq_true, if_false]
    rw [Act.run_bind, Act.run_bind, Act.run_bind]
    simp only [endSession_process]
    have honly : OnlySends s (fun _ => True) (sendSessionCloseStart s false) :=
      OnlySends.sendNew trivial
    have hsend := honly.frame
        (((MultiblockIo.removeMultiblockBuffer s 0).run
          ((ReplyHandler.removeAllOfSession (p.session s).sessionId).run p).process).process)
    have hready : (((sendSessionCloseStart s false).run
        (((MultiblockIo.removeMultiblockBuffer s 0).run
          ((ReplyHandler.removeAllOfSession (p.session s).sessionId).run
            p).process).process)).process.session s).statemachine = .sessionReady := by
      obtain ⟨k, c, hself⟩ := hsend.self
      rw [hself]
      simp [hstate]
    rw [if_pos hready]
    refine ⟨?_, ?_⟩
    · simp [Process.stopped, Process.goTo, Process.closeSocket]
    · intro k hk
      simp only [Process.stopped, Process.goTo, Process.closeSocket,
        Process.modifySession_modifySession, Process.modifySession_same,
        Option.map_eq_some_iff] at hk
      obtain ⟨k', _, rfl⟩ := hk
      rfl
  · simp [hstate]

/-- No handler is there for the type of a rejected frame. -/
theorem processByType_eq_none
    {header : CommonMessageHeader}
    (h : ∀ type : MessageType, type ≠ .undefined → header.type ≠ type.code)
    (s : SessionRef)
    (rawMessage : Memory) :
    processByType s header rawMessage = none := by
  unfold processByType
  rw [if_neg (h _ MessageType.noConfusion), if_neg (h _ MessageType.noConfusion),
    if_neg (h _ MessageType.noConfusion), if_neg (h _ MessageType.noConfusion),
    if_neg (h _ MessageType.noConfusion), if_neg (h _ MessageType.noConfusion)]

/-- Of rejected input no byte is taken.  A wrong delimiter fails an assertion; a
foreign protocol closes a ready session; nothing else closes the session. -/
theorem processMessage_rejected
    (cfg : Config)
    (s : SessionRef)
    (p : Process)
    {buf : RingBuffer}
    (h : buf.Rejected) :
    let o := (processMessage cfg s buf).run p
    (o.value = match buf.obtained with
      | .falseDelimiter => .assertFailed
      | _ => .taken 0) ∧
      ((o.process.session s).Closed ↔
        buf.obtained = .falseProtocol ∧ (p.session s).statemachine = .sessionReady ∨
          (p.session s).Closed) := by
  have hresult := processMessage_result cfg s buf p
  have honly : OnlySends s (fun _ => True) (sendErrorMessage cfg s .falseVersion []) :=
    OnlySends.sendErrorMessage (fun _ _ _ => trivial) .falseVersion []
  have herror := (honly.frame p).closed_iff
  unfold RingBuffer.Rejected at h
  intro o
  cases hobtained : buf.obtained with
  | nothing =>
      rw [hobtained] at h
      exact absurd h id
  | falseProtocol =>
      simp only [hobtained, Outcome.result, Prod.mk.injEq] at hresult
      have hclosed := closeSession_closed_iff s p
      rw [← hresult.2.1] at hclosed
      exact ⟨hresult.1, by simpa using hclosed⟩
  | falseVersion =>
      simp only [hobtained, Outcome.result, Prod.mk.injEq] at hresult
      rw [← hresult.2.1] at herror
      exact ⟨hresult.1, by simpa using herror⟩
  | falseDelimiter =>
      simp only [hobtained, Outcome.result, Prod.mk.injEq] at hresult
      rw [← hresult.2.1] at herror
      exact ⟨hresult.1, by simpa using herror⟩
  | frame header rawMessage =>
      simp only [hobtained] at hresult h
      have hby := processByType_eq_none h s rawMessage
      simp only [processFrame, hby, Outcome.result, Prod.mk.injEq] at hresult
      by_cases hreply : (header.flags &&& 0x2 != 0) = true
      · simp only [hreply, if_true] at hresult
        refine ⟨hresult.1, ?_⟩
        simp [o, hresult.2.1]
      · simp only [hreply] at hresult
        refine ⟨hresult.1, ?_⟩
        simp [o, hresult.2.1]

/-- The receiver gets past rejected input exactly if it was a foreign protocol on a
ready session, or if the session was closed already and the delimiter is not what
is wrong. -/
theorem rejected_harmless_iff
    (cfg : Config)
    (s : SessionRef)
    (p : Process)
    (buf : RingBuffer)
    (h : buf.Rejected) :
    ((processMessage cfg s buf).run p).Harmless s ↔
      buf.obtained = .falseProtocol ∧ (p.session s).statemachine = .sessionReady ∨
        buf.obtained ≠ .falseDelimiter ∧ (p.session s).Closed := by
  obtain ⟨hvalue, hclosed⟩ := processMessage_rejected cfg s p h
  unfold Outcome.Harmless
  rw [hclosed, hvalue]
  cases buf.obtained with
  | falseDelimiter =>
      simp
  | _ =>
      simp

/-- A header with the version 2. -/
def falseVersionBuffer : RingBuffer where
  unread := ({ version := 2 } : CommonMessageHeader).bytes
  beyond := fun _ => 0

theorem obtained_falseVersionBuffer : falseVersionBuffer.obtained = .falseVersion := by
  rfl

theorem falseVersionBuffer_rejected : falseVersionBuffer.Rejected := by
  rw [RingBuffer.Rejected, obtained_falseVersionBuffer]
  trivial

/-- The version 2 on a ready session. -/
theorem rejected_harmless_iff_falseVersion :
    ((processMessage Config.default 0 falseVersionBuffer).run readyProcess).Harmless 0 ↔
      falseVersionBuffer.obtained = .falseProtocol ∧
          (readyProcess.session 0).statemachine = .sessionReady ∨
        falseVersionBuffer.obtained ≠ .falseDelimiter ∧ (readyProcess.session 0).Closed :=
  rejected_harmless_iff Config.default 0 readyProcess falseVersionBuffer falseVersionBuffer_rejected

/-- A wrong version jams a ready session: its bytes stay in front of everything
that follows. -/
theorem not_rejected_harmless :
    ¬ ∀ (s : SessionRef) (p : Process) (buf : RingBuffer), buf.Rejected →
      ((processMessage Config.default s buf).run p).Harmless s := by
  intro hall
  have hharmless := hall 0 readyProcess falseVersionBuffer falseVersionBuffer_rejected
  obtain ⟨hvalue, hclosed⟩ := processMessage_rejected Config.default 0 readyProcess
    falseVersionBuffer_rejected
  unfold Outcome.Harmless at hharmless
  rw [hclosed, hvalue, obtained_falseVersionBuffer] at hharmless
  rcases hharmless with ⟨n, htaken, hpos⟩ | ⟨_, hprotocol | hbefore⟩
  · cases htaken
    exact absurd hpos (Nat.lt_irrefl 0)
  · cases hprotocol.1
  · cases hbefore.1

end SakuraNetwork

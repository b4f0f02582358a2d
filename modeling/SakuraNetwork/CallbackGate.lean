import SakuraNetwork.SessionIdentity

/-!
# The callbacks of the application

Dispatch is by the type of a frame alone: no handler looks at the state of its
session.  A frame that carries data or an error reaches the callback pointers of the
session in whatever state it arrives.

* `processMessage_calls`: the callbacks a frame calls.
* `RingBuffer.gate`: what a frame does to the state in which the next one arrives.
* `callbacks_gated_iff`: when a sequence of frames calls only callbacks of a ready
  session, and error callbacks that are set.
-/

namespace SakuraNetwork

open Lib

/-- The front of the buffer is a frame whose handler calls the application with data. -/
def RingBuffer.CallsData (buf : RingBuffer) : Prop :=
  match buf.obtained with
  | .frame header rawMessage => header.CallsData rawMessage
  | _ => False

/-- The front of the buffer is a frame whose handler calls the error callback. -/
def RingBuffer.CallsError (buf : RingBuffer) : Prop :=
  match buf.obtained with
  | .frame header _ => header.CallsError
  | _ => False

/-- The callbacks of the outputs are allowed in a process: data for a ready session, and
errors where the error callback is set. -/
def CalledRight (p : Process) (outs : List Output) : Prop :=
  ∀ o ∈ outs, (∀ r, o.data = some r → p.Ready r) ∧
    ∀ r, o.error = some r → (p.session r).handlerCallbacks = true

theorem RingBuffer.calls_iff (buf : RingBuffer) (s : SessionRef) (o : Output) :
    buf.Calls s o ↔ buf.CallsData ∧ o.data = some s ∨ buf.CallsError ∧ o.error = some s := by
  unfold RingBuffer.Calls RingBuffer.CallsData RingBuffer.CallsError
  cases buf.obtained with
  | frame header rawMessage =>
      exact Iff.rfl
  | _ =>
      simp

theorem Output.error_of_data {o : Output} {s : SessionRef} (h : o.data = some s) :
    o.error = none := by
  cases o with
  | processError r code text =>
      cases h
  | _ =>
      rfl

/-! ## The callbacks of a frame -/

/-- The application is called only as the front of the buffer says. -/
def calling (buf : RingBuffer) (s : SessionRef) : Effect where
  rel := fun _ outs _ => ∀ o ∈ outs, o.data ≠ none ∨ o.error ≠ none → buf.Calls s o
  refl := fun _ o ho => by cases ho
  trans := by
    intro p q r o o' h h' out hout
    rcases List.mem_append.mp hout with hleft | hright
    · exact h out hleft
    · exact h' out hright

theorem calling_nil (buf : RingBuffer) (s : SessionRef) (p p' : Process) :
    (calling buf s).rel p [] p' :=
  fun o ho => by cases ho

theorem calling_single
    {buf : RingBuffer}
    {s : SessionRef}
    {o : Output}
    (h : o.data ≠ none ∨ o.error ≠ none → buf.Calls s o)
    (p p' : Process) :
    (calling buf s).rel p [o] p' := by
  intro out hout
  rw [List.mem_singleton.mp hout]
  exact h

theorem calling_data (buf : RingBuffer) (s : SessionRef) :
    AdmitsData (calling buf s) s True (fun _ => True) True (fun o => buf.Calls s o) := by
  constructor
  · intro p p' outs _ houts o ho hcalled
    obtain ⟨m, rfl, _⟩ := houts o ho
    rcases hcalled with h | h
    · exact absurd rfl h
    · exact absurd rfl h
  · intro _ p l
    exact calling_nil buf s _ _
  · intro _ p f
    exact calling_nil buf s _ _
  · intro p
    exact calling_nil buf s _ _
  · intro p data h
    exact calling_single (fun _ => h) p p
  · intro p id data h
    exact calling_single (fun _ => h) p p
  · intro p code text h
    exact calling_single (fun _ => h) p p
  · intro p id data _
    split
    · exact calling_single (fun h => by simp [Output.data, Output.error] at h) _ _
    · exact calling_nil buf s _ _

theorem calling_session (buf : RingBuffer) (s : SessionRef) : AdmitsSession (calling buf s) s := by
  constructor
  · intro p c
    exact calling_nil buf s _ _
  · intro p id
    exact calling_nil buf s _ _
  · intro p id
    exact calling_nil buf s _ _
  · intro p f _ _
    exact calling_nil buf s _ _
  · intro p sessionId identifier
    exact calling_single (fun h => by simp [Output.data, Output.error] at h) _ _
  · intro p identifier
    exact calling_single (fun h => by simp [Output.data, Output.error] at h) _ _

/-- A frame with data calls a data callback of its session. -/
theorem exists_data
    (cfg : Config)
    (s : SessionRef)
    {buf : RingBuffer}
    (h : buf.CallsData)
    (p : Process) :
    ∃ o ∈ ((processMessage cfg s buf).run p).outputs, o.data = some s := by
  unfold RingBuffer.CallsData at h
  cases hobtained : buf.obtained with
  | frame header rawMessage =>
      rw [hobtained] at h
      rcases h with ⟨htype, hsub⟩ | ⟨htype, hsub, hflag⟩ | ⟨htype, hsub, hflag⟩
      · have hby : processByType s header rawMessage =
            some (processStreamDataType s header rawMessage) := by
          simp [processByType, htype]
        rw [(processMessage_frame cfg s hobtained hby p).2]
        simp only [processStreamDataType, hsub, if_true, processDataStream, run_readUInt32_bind,
          run_readBytes_bind, Act.run_emit_bind]
        exact ⟨_, List.mem_cons_self, rfl⟩
      · have hby : processByType s header rawMessage =
            some (processSingleBlockDataType s header rawMessage) := by
          simp [processByType, htype, MessageType.code]
        have hno : (rawMessage 7 &&& 0x8 != 0) = false := by
          simp [hflag]
        rw [(processMessage_frame cfg s hobtained hby p).2]
        simp only [processSingleBlockDataType, hsub, if_true, processDataSingleBlock,
          run_readUInt32_bind, run_readBytes_bind, run_readUInt8_bind, hno, Bool.false_eq_true,
          if_false, run_readUInt64_bind, Act.run_emit_bind]
        exact ⟨_, List.mem_cons_self, rfl⟩
      · have hby : processByType s header rawMessage =
            some (processMultiBlockDataType s header rawMessage) := by
          simp [processByType, htype, MessageType.code]
        have hno : (rawMessage 7 &&& 0x8 != 0) = false := by
          simp [hflag]
        have hstatic : ¬ MultiblockDataSubType.finish.code = MultiblockDataSubType.static.code := by
          decide
        rw [(processMessage_frame cfg s hobtained hby p).2]
        simp only [processMultiBlockDataType, hsub, hstatic, if_true, if_false,
          processDataMultiFinish, run_readUInt64_bind]
        rw [Act.run_bind, MultiblockIo.run_getIncomingBuffer]
        simp only [run_readUInt8_bind, hno, Bool.false_eq_true, if_false, Act.run_emit_bind,
          List.nil_append]
        exact ⟨_, List.mem_cons_self, rfl⟩
  | _ =>
      rw [hobtained] at h
      exact h.elim

/-- An error frame calls the error callback of its session. -/
theorem exists_error
    (cfg : Config)
    (s : SessionRef)
    {buf : RingBuffer}
    (h : buf.CallsError)
    (p : Process) :
    ∃ o ∈ ((processMessage cfg s buf).run p).outputs, o.error = some s := by
  unfold RingBuffer.CallsError at h
  cases hobtained : buf.obtained with
  | frame header rawMessage =>
      rw [hobtained] at h
      obtain ⟨htype, hreports⟩ := h
      have hby : processByType s header rawMessage =
          some (processErrorType s header rawMessage) := by
        simp [processByType, htype, MessageType.code]
      have hmessage : ∀ code, ∀ q, ∃ o ∈ ((processErrorMessage s code rawMessage).run q).outputs,
          o.error = some s := by
        intro code q
        exact ⟨_, List.mem_singleton.mpr rfl, rfl⟩
      rw [(processMessage_frame cfg s hobtained hby p).2]
      simp only [processErrorType, run_modifySession_bind]
      split
      · exact hmessage _ _
      · split
        · exact hmessage _ _
        · split
          · exact hmessage _ _
          · rename_i hfirst hsecond hthird
            exact absurd hreports (by simp [CommonMessageHeader.ReportsError, *])
  | _ =>
      rw [hobtained] at h
      exact h.elim

/-- The callbacks of a frame are allowed exactly if the session is ready when it
carries data, and the error callback is set when it carries an error. -/
theorem calledRight_iff
    (cfg : Config)
    (s : SessionRef)
    (buf : RingBuffer)
    (p : Process) :
    CalledRight p ((processMessage cfg s buf).run p).outputs ↔
      (buf.CallsData → p.Ready s) ∧
        (buf.CallsError → (p.session s).handlerCallbacks = true) := by
  constructor
  · intro hright
    constructor
    · intro hdata
      obtain ⟨o, ho, hs⟩ := exists_data cfg s hdata p
      exact (hright o ho).1 s hs
    · intro herror
      obtain ⟨o, ho, hs⟩ := exists_error cfg s herror p
      exact (hright o ho).2 s hs
  · rintro ⟨hdata, herror⟩ o ho
    have hcalls := within_processMessage (calling_data buf s) (calling_session buf s) trivial
      trivial
      cfg buf (fun _ _ => trivial) (fun _ h => h) trivial p o ho
    rw [RingBuffer.calls_iff] at hcalls
    constructor
    · intro r hr
      rcases hcalls (Or.inl (by simp [hr])) with ⟨hcallsData, hs⟩ | ⟨_, hs⟩
      · rw [hr] at hs
        cases hs
        exact hdata hcallsData
      · rw [Output.error_of_data hr] at hs
        cases hs
    · intro r hr
      rcases hcalls (Or.inr (by simp [hr])) with ⟨_, hs⟩ | ⟨hcallsError, hs⟩
      · rw [Output.error_of_data hs] at hr
        cases hr
      · rw [hr] at hs
        cases hs
        exact herror hcallsError

/-! ## The state in which frames arrive -/

/-- What decides whether a frame may call a callback: the life of the session, and
whether `addSession` has set its callbacks. -/
structure Gate where
  life : Life
  handlerCallbacks : Bool

def Process.gate (p : Process) (s : SessionRef) (log : List Output) : Gate where
  life := p.life s log
  handlerCallbacks := (p.session s).handlerCallbacks

/-- An init message sets the callbacks of its session. -/
def SessionFrame.registers : SessionFrame → Bool
  | .initStart _ _ | .initReply _ _ _ => true
  | .closeStart _ | .closeReply _ => false

/-- The state in which the next frame arrives. -/
def RingBuffer.gate (s : SessionRef) (buf : RingBuffer) (g : Gate) : Gate where
  life := buf.life s g.life
  handlerCallbacks := g.handlerCallbacks || buf.sessionFrame.any SessionFrame.registers

/-- The callbacks of the session stay set or unset. -/
def keepsCallbacks (s : SessionRef) : Effect where
  rel := fun p _ p' => (p'.session s).handlerCallbacks = (p.session s).handlerCallbacks
  refl := fun _ => rfl
  trans := fun h h' => h'.trans h

theorem keepsCallbacks_data (s : SessionRef) :
    AdmitsData (keepsCallbacks s) s True (fun _ => True) := by
  constructor
  · intro p p' outs hframe _
    obtain ⟨k, c, hself⟩ := hframe.self
    simp only [keepsCallbacks, hself]
  · intro _ p l
    rfl
  · intro _ p f
    simp [keepsCallbacks]
  · intro p
    simp [keepsCallbacks, Process.setInitState]
  · intro p data _
    rfl
  · intro p id data _
    rfl
  · intro p code text _
    rfl
  · intro p id data _
    rfl

theorem keepsCallbacks_endSession (s : SessionRef) :
    (endSession s).Within (keepsCallbacks s) := by
  intro p
  rw [endSession_process]
  split
  · simp [keepsCallbacks, Process.stopped, Process.goTo, Process.closeSocket]
  · rfl

theorem keepsCallbacks_disconnectSession (s : SessionRef) :
    (disconnectSession s).Within (keepsCallbacks s) := by
  intro p
  rw [disconnectSession_process]
  split
  · rfl
  · simp [keepsCallbacks, Process.goTo, Process.closeSocket]

theorem keepsCallbacks_connectiSession (s : SessionRef) (sessionId : UInt32) :
    (connectiSession s sessionId).Within (keepsCallbacks s) := by
  intro p
  rw [connectiSession_process]
  split
  · simp [keepsCallbacks, Process.connected]
  · split
    · rfl
    · simp [keepsCallbacks, Process.setInitState]

theorem keepsCallbacks_makeSessionReady
    (s : SessionRef)
    (sessionId : UInt32)
    (sessionIdentifier : Bytes) :
    (makeSessionReady s sessionId sessionIdentifier).Within (keepsCallbacks s) := by
  intro p
  rw [makeSessionReady_process]
  split
  · simp [keepsCallbacks, Process.ready]
  · simp [keepsCallbacks, Process.setInitState]

/-- After the operation the callbacks of the session are set. -/
def Act.SetsCallbacks {α : Type} (s : SessionRef) (x : Act α) : Prop :=
  ∀ p, ((x.run p).process.session s).handlerCallbacks = true

theorem Act.SetsCallbacks.after
    {α β : Type}
    {s : SessionRef}
    (x : Act α)
    {y : α → Act β}
    (hy : ∀ a, Act.SetsCallbacks s (y a)) :
    Act.SetsCallbacks s (x >>= y) :=
  fun p => hy (x.run p).value (x.run p).process

theorem Act.SetsCallbacks.bind
    {α β : Type}
    {s : SessionRef}
    {x : Act α}
    {y : α → Act β}
    (hx : Act.SetsCallbacks s x)
    (hy : ∀ a, (y a).Within (keepsCallbacks s)) :
    Act.SetsCallbacks s (x >>= y) :=
  fun p => (hy (x.run p).value (x.run p).process).trans (hx p)

/-- A session message sets the callbacks of its session, or leaves them. -/
theorem handlerCallbacks_handle
    (s : SessionRef)
    (messageId : UInt32)
    (f : SessionFrame)
    (p : Process) :
    (((f.handle s messageId).run p).process.session s).handlerCallbacks =
      ((p.session s).handlerCallbacks || f.registers) := by
  have hremove : ∀ id, (SessionHandler.removeSession id).Within (keepsCallbacks s) :=
    fun id q => rfl
  have hsend : ∀ {α : Type} {x : Act α}, OnlySends s (fun _ => True) x →
      x.Within (keepsCallbacks s) := fun hx => hx.within (keepsCallbacks_data s)
  have hadd : ∀ id, (SessionHandler.addSession id s).SetsCallbacks s := by
    intro id q
    simp
  cases f with
  | initStart clientSessionId sessionIdentifier =>
      rw [SessionFrame.registers, Bool.or_true]
      refine Act.SetsCallbacks.after _ (fun c => (hadd _).bind fun _ => ?_) p
      exact (keepsCallbacks_connectiSession s _).bind fun _ =>
        (keepsCallbacks_makeSessionReady s _ sessionIdentifier).bind fun _ =>
          (hsend (OnlySends.sendSessionInitReply trivial)).bind fun _ => Act.Within.pure ()
  | initReply initialId completeSessionId sessionIdentifier =>
      rw [SessionFrame.registers, Bool.or_true]
      refine Act.SetsCallbacks.after _ (fun _ => (hadd _).bind fun _ => ?_) p
      exact (keepsCallbacks_makeSessionReady s _ _).bind fun _ => Act.Within.pure ()
  | closeStart sessionId =>
      rw [SessionFrame.registers, Bool.or_false]
      exact ((hsend (OnlySends.sendReply trivial _)).bind fun _ => (hremove sessionId).bind fun _ =>
        (keepsCallbacks_endSession s).bind fun _ => Act.Within.pure ()) p
  | closeReply sessionId =>
      rw [SessionFrame.registers, Bool.or_false]
      exact ((hremove sessionId).bind fun _ =>
        (keepsCallbacks_disconnectSession s).bind fun _ => Act.Within.pure ()) p

/-- The process after a frame is in the state the frame leads to. -/
theorem gate_processMessage
    (cfg : Config)
    (s : SessionRef)
    (buf : RingBuffer)
    (p : Process)
    (log : List Output) :
    ((processMessage cfg s buf).run p).process.gate s
        (log ++ ((processMessage cfg s buf).run p).outputs) =
      buf.gate s (p.gate s log) := by
  have hlife := simulates_processMessage cfg s buf p log
  have hcallbacks : (((processMessage cfg s buf).run p).process.session s).handlerCallbacks =
      ((p.session s).handlerCallbacks || buf.sessionFrame.any SessionFrame.registers) := by
    cases hframe : buf.sessionFrame with
    | none =>
        have hkeeps := within_processMessage_of_none (keepsCallbacks_data s) trivial trivial
          (within_closeSession_of_end (keepsCallbacks_data s) trivial trivial
            (keepsCallbacks_endSession s) false) cfg hframe (fun _ _ => trivial)
            (fun _ _ => trivial) p
        simpa [keepsCallbacks] using hkeeps
    | some f =>
        obtain ⟨messageId, hrun⟩ := processMessage_sessionFrame cfg s hframe
        have hremoved : (p.withoutReplied buf).session s = p.session s := by
          unfold Process.withoutReplied
          split <;> rfl
        rw [(hrun p).1, handlerCallbacks_handle, hremoved]
        rfl
  simp only [Process.gate, RingBuffer.gate, hlife, hcallbacks]

/-- Every frame of a sequence calls only callbacks that are allowed where it arrives. -/
def Gated (cfg : Config) (s : SessionRef) : Process → List RingBuffer → Prop
  | _, [] => True
  | p, buf :: frames =>
      CalledRight p ((processMessage cfg s buf).run p).outputs ∧
        Gated cfg s ((processMessage cfg s buf).run p).process frames

/-- Frames with data arrive on a ready session, and error frames on a session whose
callbacks are set. -/
def ArriveRight (s : SessionRef) : Gate → List RingBuffer → Prop
  | _, [] => True
  | g, buf :: frames =>
      (buf.CallsData → g.life.state = .sessionReady) ∧
        (buf.CallsError → g.handlerCallbacks = true) ∧ ArriveRight s (buf.gate s g) frames

/-- A sequence of frames calls data callbacks of a ready session and error callbacks that
are set, and no others, exactly if its frames with data arrive on a ready session and
its error frames on a session whose callbacks are set. -/
theorem callbacks_gated_iff
    (cfg : Config)
    (s : SessionRef)
    (p : Process)
    (log : List Output)
    (frames : List RingBuffer) :
    Gated cfg s p frames ↔ ArriveRight s (p.gate s log) frames := by
  induction frames generalizing p log with
  | nil =>
      exact Iff.rfl
  | cons buf frames ih =>
      have hrest := ih ((processMessage cfg s buf).run p).process
        (log ++ ((processMessage cfg s buf).run p).outputs)
      rw [gate_processMessage] at hrest
      rw [Gated, ArriveRight, calledRight_iff, hrest, and_assoc]
      exact Iff.rfl

/-- A stream message that is the first frame on an accepted session calls a pointer that
was never assigned. -/
theorem not_callbacks_gated :
    ¬ ∀ frames, Gated Config.default 0 acceptedSystem.process frames := by
  intro hall
  have hsize : Body.Sendable Config.default (.stream false []) := by
    simp [Body.Sendable]
  have hgated := hall [bufferOfMessage ⟨0, 1, .stream false []⟩]
  have hright := hgated.1
  rw [(processMessage_bufferOfMessage hsize 0 _).2, Message.handle_of_not_reply rfl] at hright
  have hready := (hright (.processStreamData 0 []) List.mem_cons_self).1 0 rfl
  cases hready

end SakuraNetwork

import SakuraNetwork.DestroyedSessions

/-!
# Sessions that wait for their handshake

`startSession` waits until `m_initState` is set.  Against a silent server only the
timeout of the init start message ends the wait, so the list of pending replies must
not lose that message while the session waits.

* `Operation.initState_act`: a session that was released stays released.
* `Operation.KeepsStarts`: the steps that do not lose the message of a waiting session.
* `saved_of_act`: such a step keeps the message or releases the session.
* `starts_never_orphaned`: so it is along every run of such steps.
-/

namespace SakuraNetwork

open Lib

/-- The loop of `startSession` waits for the handshake of the session. -/
def System.Waits (st : System) (s : SessionRef) : Prop :=
  st.stage s = .starting ∧ (st.process.session s).initState = 0

/-- A waiting session is released when the message times out. -/
def System.Saves (st : System) (m : MessageTime) : Prop :=
  st.Waits m.session ∧ m.ignoreResult = false

/-! ## Released sessions -/

/-- A session that was released stays released. -/
def keepsReleased (s : SessionRef) : Effect where
  rel := fun p _ p' => (p.session s).initState ≠ 0 → (p'.session s).initState ≠ 0
  refl := fun _ => id
  trans := fun h h' hp => h' (h hp)

theorem keepsReleased_modifySession
    {s r : SessionRef}
    {f : Session → Session}
    (hf : ∀ x, x.initState ≠ 0 → (f x).initState ≠ 0)
    (p : Process) :
    (keepsReleased s).rel p [] (p.modifySession r f) := by
  intro hbefore
  by_cases hs : s = r
  · subst hs
    rw [Process.modifySession_same]
    exact hf _ hbefore
  · rw [Process.modifySession_other _ _ hs]
    exact hbefore

theorem keepsReleased_data (s r : SessionRef) :
    AdmitsData (keepsReleased s) r True (fun _ => True) := by
  constructor
  · intro p p' outs hframe _ hbefore
    by_cases hs : s = r
    · subst hs
      obtain ⟨k, c, hself⟩ := hframe.self
      rw [hself]
      exact hbefore
    · rw [hframe.other s hs]
      exact hbefore
  · intro _ p l
    exact id
  · intro _ p f
    exact keepsReleased_modifySession (by intro x h; exact h) p
  · intro p
    exact keepsReleased_modifySession (by simp) p
  · intro p data _
    exact id
  · intro p id data _ h
    exact h
  · intro p code text _
    exact id
  · intro p id data _ h
    exact h

theorem keepsReleased_session (s r : SessionRef) : AdmitsSession (keepsReleased s) r := by
  constructor
  · intro p c
    exact id
  · intro p id h
    exact h
  · intro p id h
    exact h
  · intro p f _ hf
    exact keepsReleased_modifySession hf p
  · intro p sessionId identifier
    exact id
  · intro p identifier
    exact id

theorem keepsReleased_timers (s : SessionRef) : AdmitsTimers (keepsReleased s) := by
  constructor
  · intro p l
    exact id
  · intro p l
    exact id
  · intro p r
    exact keepsReleased_modifySession (by simp) p
  · intro p r code text
    exact id
  · intro p id h
    exact h

/-- No operation makes a released session wait again. -/
theorem Operation.initState_act
    (cfg : Config)
    (a : Operation)
    {p : Process}
    {s : SessionRef}
    (h : (((a.act cfg).run p).process.session s).initState = 0) :
    (p.session s).initState = 0 := by
  have hwithin := a.within_act cfg (fun r _ => keepsReleased_data s r)
    (fun r _ => keepsReleased_session s r)
    (fun r _ q => keepsReleased_modifySession (by intro x hx; exact hx) q)
    (fun _ _ _ _ q => (keepsReleased_timers s).blockerList q _)
    (a.within_tables cfg (keepsReleased_timers s)) p
  by_contra hne
  exact hwithin hne h

/-- The frame ends the wait of the session it is received on: an init reply or an error
message. -/
def RingBuffer.AnswersStart (buf : RingBuffer) : Prop :=
  (∃ initialId completeSessionId sessionIdentifier,
      buf.sessionFrame = some (.initReply initialId completeSessionId sessionIdentifier)) ∨
    ∃ header rawMessage, buf.obtained = .frame header rawMessage ∧
      header.type = MessageType.error.code

theorem initState_makeSessionReady
    (s : SessionRef)
    (sessionId : UInt32)
    (sessionIdentifier : Bytes)
    (p : Process) :
    (((makeSessionReady s sessionId sessionIdentifier).run p).process.session s).initState ≠ 0 := by
  rw [makeSessionReady_process]
  split
  · simp [Process.ready]
  · simp [Process.setInitState]

theorem initState_processErrorType
    (s : SessionRef)
    (header : CommonMessageHeader)
    (rawMessage : Memory)
    (p : Process) :
    (((processErrorType s header rawMessage).run p).process.session s).initState ≠ 0 := by
  have herror : ∀ code, (processErrorMessage s code rawMessage).Within (keepsReleased s) :=
    fun code => Act.Within.readUInt64 (Act.Within.readBytes fun q => id)
  have hrest : (if header.subType = ErrorSubType.falseVersion.code then
        processErrorMessage s .falseVersion rawMessage
      else if header.subType = ErrorSubType.unknownSession.code then
        processErrorMessage s .unknownSession rawMessage
      else if header.subType = ErrorSubType.invalidMessage.code then
        processErrorMessage s .invalidMessageSize rawMessage
      else pure () : Act Unit).Within (keepsReleased s) :=
    Act.Within.ite (fun _ => herror _) fun _ => Act.Within.ite (fun _ => herror _) fun _ =>
      Act.Within.ite (fun _ => herror _) fun _ => Act.Within.pure ()
  rw [processErrorType, run_modifySession_bind]
  exact hrest _ (by simp)

/-- After a frame that answers the start, the session does not wait. -/
theorem initState_of_answersStart
    (cfg : Config)
    (s : SessionRef)
    {buf : RingBuffer}
    (h : buf.AnswersStart)
    (p : Process) :
    (((processMessage cfg s buf).run p).process.session s).initState ≠ 0 := by
  rcases h with ⟨initialId, completeSessionId, sessionIdentifier, hframe⟩ |
    ⟨header, rawMessage, hobtained, htype⟩
  · obtain ⟨messageId, hrun⟩ := processMessage_sessionFrame cfg s hframe
    rw [(hrun p).1]
    simp only [SessionFrame.handle, Act.run_bind, Act.run_pure]
    exact initState_makeSessionReady s completeSessionId sessionIdentifier _
  · have hby : processByType s header rawMessage = some (processErrorType s header rawMessage) := by
      simp [processByType, htype, MessageType.code]
    rw [(processMessage_frame cfg s hobtained hby p).1]
    exact initState_processErrorType s header rawMessage _

/-! ## Steps that do not lose the message of a waiting session -/

/-- If the session is ready, its id is not in the key of a message that a waiting
session needs. -/
def System.ClosesOwn (st : System) (r : SessionRef) : Prop :=
  st.process.Ready r → ∀ m ∈ st.process.replyList, st.Saves m →
    m.completeMessageId &&& 0xFFFFFFFF ≠ (st.process.session r).sessionId.toUInt64

/-- The first message that is recorded under a key. -/
def ReplyHandler.first (key : UInt64) (l : List MessageTime) : Option MessageTime :=
  l.find? (fun m => m.completeMessageId == key)

/-- A step does not lose the message that a waiting session needs. -/
def Operation.KeepsStarts (st : System) : Operation → Prop
  | .receive r buf =>
      match buf.obtained with
      | .falseProtocol => st.ClosesOwn r
      -- only the answer of the start removes its message
      | _ => ∀ key m, buf.replied = some key →
          ReplyHandler.first key st.process.replyList = some m → st.Saves m →
          m.session = r ∧ buf.AnswersStart
  | .start r _ | .finishStart r | .close r _ | .destroy r => st.ClosesOwn r
  -- the message that is removed at a timeout is the last one in the list
  | .replyTimer => ∀ pre m post e, st.process.replyList = pre ++ m :: post →
      (∀ e' ∈ pre, ¬ ReplyHandler.TimesOut e') → ReplyHandler.TimesOut m →
      ReplyHandler.first m.completeMessageId st.process.replyList = some e → st.Saves e →
      post = []
  | _ => True

theorem mem_repliesClosed_of_closesOwn
    {st : System}
    {r : SessionRef}
    (h : st.ClosesOwn r)
    {m : MessageTime}
    (hm : m ∈ st.process.replyList)
    (hsaves : st.Saves m) :
    m ∈ st.process.repliesClosed r := by
  unfold Process.repliesClosed
  split
  · rename_i hready
    have hne := h hready m hm hsaves
    exact ReplyHandler.mem_ignoreAll.mpr ⟨m, hm, by simp [hne]⟩
  · exact hm

/-- A received frame leaves the message, or answers the start. -/
theorem mem_withoutReplied
    {st : System}
    {r : SessionRef}
    {buf : RingBuffer}
    (h : ∀ key m, buf.replied = some key →
      ReplyHandler.first key st.process.replyList = some m → st.Saves m →
      m.session = r ∧ buf.AnswersStart)
    {m : MessageTime}
    (hm : m ∈ st.process.replyList)
    (hsaves : st.Saves m) :
    m ∈ (st.process.withoutReplied buf).replyList ∨ m.session = r ∧ buf.AnswersStart := by
  unfold Process.withoutReplied
  cases hreplied : buf.replied with
  | none =>
      exact Or.inl hm
  | some key =>
      simp only [ReplyHandler.withoutMessage]
      cases htake : ReplyHandler.removeMessageFromList key st.process.replyList with
      | none =>
          rw [withoutFirst_of_none htake]
          exact Or.inl hm
      | some found =>
          obtain ⟨removed, rest⟩ := found
          rw [withoutFirst_of_some htake]
          rcases List.mem_cons.mp ((takeFirst_perm htake).mem_iff.mp hm) with rfl | hrest
          · exact Or.inr (h key m hreplied (find_of_takeFirst htake) hsaves)
          · exact Or.inl hrest

/-- The first message under a key is the same when timers have moved on. -/
theorem ReplyHandler.first_of_ticked
    {pre post : List MessageTime}
    {m removed : MessageTime}
    {key : UInt64}
    (h : first key (pre.map tick ++ tick m :: post) = some removed) :
    ∃ e, first key (pre ++ m :: post) = some e ∧ (removed = e ∨ removed = tick e) := by
  have hcomp : (fun e : MessageTime => e.completeMessageId == key) ∘ tick =
      fun e => e.completeMessageId == key := rfl
  unfold first at h ⊢
  rw [List.find?_append, List.find?_map, hcomp] at h
  rw [List.find?_append]
  cases hpre : pre.find? (fun e => e.completeMessageId == key) with
  | some e =>
      rw [hpre] at h
      exact ⟨e, rfl, Or.inr (Option.some.inj h).symm⟩
  | none =>
      rw [hpre] at h
      have hkey : (tick m).completeMessageId = m.completeMessageId := rfl
      simp only [Option.map_none, Option.none_or, List.find?_cons, hkey] at h ⊢
      split at h
      · exact ⟨m, by simp, Or.inr (Option.some.inj h).symm⟩
      · exact ⟨removed, by simp [h], Or.inl rfl⟩

/-- An entry is still there when timers have moved on. -/
theorem ReplyHandler.exists_ticked_of_mem
    {pre post : List MessageTime}
    {e m : MessageTime}
    (h : m ∈ pre ++ e :: post) :
    ∃ m' ∈ pre.map tick ++ tick e :: post, m'.session = m.session ∧
      m'.completeMessageId = m.completeMessageId ∧ m'.ignoreResult = m.ignoreResult := by
  rcases List.mem_append.mp h with hpre | hpost
  · exact ⟨tick m, List.mem_append_left _ (List.mem_map_of_mem hpre), rfl, rfl, rfl⟩
  · rcases List.mem_cons.mp hpost with rfl | hpost
    · exact ⟨tick m, List.mem_append_right _ List.mem_cons_self, rfl, rfl, rfl⟩
    · exact ⟨m, List.mem_append_right _ (List.mem_cons_of_mem _ hpost), rfl, rfl, rfl⟩

/-- A timer step leaves the message, or releases the session. -/
theorem saved_of_makeTimerStep
    {st : System}
    (h : Operation.replyTimer.KeepsStarts st)
    {m : MessageTime}
    (hm : m ∈ st.process.replyList)
    (hsaves : st.Saves m) :
    ((ReplyHandler.makeTimerStep.run st.process).process.session m.session).initState = -1 ∨
      (ReplyHandler.makeTimerStep.run st.process).process.Awaits m.session
        m.completeMessageId := by
  rcases ReplyHandler.makeTimerStep_cases st.process with
    ⟨_, hrun⟩ | ⟨pre, e, post, removed, rest, reported, hsplit, hpre, hout, htake, _, hlast, hrun⟩
  · rw [hrun]
    exact Or.inr ⟨ReplyHandler.tick m, List.mem_map_of_mem hm, rfl, rfl, hsaves.2⟩
  · obtain ⟨m', hm', hs, hkey, hignored⟩ := ReplyHandler.exists_ticked_of_mem (hsplit ▸ hm)
    have hrest : (ReplyHandler.makeTimerStep.run st.process).process.replyList = rest := by
      rw [hrun]
      split
      · rfl
      · rfl
    rcases List.mem_cons.mp ((takeFirst_perm htake).mem_iff.mp hm') with rfl | hin
    · obtain ⟨e', hfirst, heq⟩ := ReplyHandler.first_of_ticked (find_of_takeFirst htake)
      have hsaves' : st.Saves e' := by
        rcases heq with rfl | rfl
        · exact ⟨hs ▸ hsaves.1, hignored.trans hsaves.2⟩
        · exact ⟨(hs : e'.session = m.session) ▸ hsaves.1, hignored.trans hsaves.2⟩
      have hpost := h pre e post e' hsplit hpre hout (by rw [hsplit]; exact hfirst) hsaves'
      have hlength := (takeFirst_perm htake).length_eq
      rw [hpost] at hlength
      simp only [List.length_append, List.length_map, List.length_cons, List.length_nil]
        at hlength
      have hreported := hlast (by omega)
      have hopen : reported.ignoreResult = false := by
        rw [hreported]
        exact hignored.trans hsaves.2
      refine Or.inl ?_
      rw [hrun, ← hs, ← hreported]
      simp [hopen]
    · refine Or.inr ⟨m', ?_, hs, hkey, hignored.trans hsaves.2⟩
      rw [hrest]
      exact hin

/-- The message is left by the operation, or the frame answers the start. -/
theorem mem_repliesBase
    {st : System}
    {a : Operation}
    {r : SessionRef}
    (hsession : a.session = some r)
    (h : a.KeepsStarts st)
    {m : MessageTime}
    (hm : m ∈ st.process.replyList)
    (hsaves : st.Saves m) :
    m ∈ a.repliesBase st.process r ∨
      ∃ buf, a = .receive r buf ∧ m.session = r ∧ buf.AnswersStart := by
  cases a with
  | start _ sessionIdentifier =>
      cases hsession
      simp only [Operation.repliesBase]
      split
      · exact Or.inl hm
      · exact Or.inl (mem_repliesClosed_of_closesOwn h hm hsaves)
  | finishStart _ =>
      cases hsession
      simp only [Operation.repliesBase]
      split
      · exact Or.inl (mem_repliesClosed_of_closesOwn h hm hsaves)
      · exact Or.inl hm
  | receive _ buf =>
      cases hsession
      simp only [Operation.KeepsStarts] at h
      simp only [Operation.repliesBase, RingBuffer.repliesBase]
      cases hobtained : buf.obtained with
      | falseProtocol =>
          rw [hobtained] at h
          exact Or.inl (mem_repliesClosed_of_closesOwn h hm hsaves)
      | _ =>
          rw [hobtained] at h
          rcases mem_withoutReplied h hm hsaves with hleft | ⟨hs, hanswers⟩
          · exact Or.inl hleft
          · exact Or.inr ⟨buf, rfl, hs, hanswers⟩
  | close _ replyExpected =>
      cases hsession
      exact Or.inl (mem_repliesClosed_of_closesOwn h hm hsaves)
  | destroy _ =>
      cases hsession
      exact Or.inl (mem_repliesClosed_of_closesOwn h hm hsaves)
  | _ =>
      exact Or.inl hm

/-- The step keeps the message of a waiting session, or releases the session. -/
theorem saved_of_act
    (cfg : Config)
    {st : System}
    {a : Operation}
    (h : a.KeepsStarts st)
    {m : MessageTime}
    (hm : m ∈ st.process.replyList)
    (hsaves : st.Saves m) :
    (((a.act cfg).run st.process).process.session m.session).initState ≠ 0 ∨
      ((a.act cfg).run st.process).process.Awaits m.session m.completeMessageId := by
  cases hsession : a.session with
  | some r =>
      obtain ⟨added, hlist, _⟩ := a.replyList_act cfg hsession st.process
      rcases mem_repliesBase hsession h hm hsaves with hleft | ⟨buf, rfl, rfl, hanswers⟩
      · refine Or.inr ⟨m, ?_, rfl, rfl, hsaves.2⟩
        rw [hlist]
        exact List.mem_append_left _ hleft
      · exact Or.inl (initState_of_answersStart cfg _ hanswers st.process)
  | none =>
      by_cases htimer : a = .replyTimer
      · subst htimer
        rcases saved_of_makeTimerStep h hm hsaves with hreleased | hawaits
        · refine Or.inl ?_
          rw [Operation.act, hreleased]
          decide
        · exact Or.inr hawaits
      · refine Or.inr ⟨m, ?_, rfl, rfl, hsaves.2⟩
        rw [a.replyList_tables cfg hsession htimer]
        exact hm

/-- A session waits after a step if it connected or waited before. -/
theorem waits_before
    {cfg : Config}
    {st : System}
    {a : Operation}
    {s : SessionRef}
    (h : (st.after cfg a).Waits s) :
    st.Waits s ∨ ∃ sessionIdentifier : Bytes, a = .start s sessionIdentifier ∧
      sessionIdentifier.length ≤ 64000 ∧ (st.process.session s).connectable = true := by
  obtain ⟨hstage, hinit⟩ := h
  have hbefore : (st.process.session s).initState = 0 := a.initState_act cfg hinit
  by_cases hsession : a.session = some s
  · rw [System.stage_after_self cfg st hsession] at hstage
    cases a with
    | accept r =>
        cases hstage
    | start r sessionIdentifier =>
        cases hsession
        simp only [Operation.nextStage] at hstage
        split at hstage
        · cases hstage
        · split at hstage
          · exact Or.inr ⟨sessionIdentifier, rfl, Nat.le_of_not_lt ‹_›, ‹_›⟩
          · cases hstage
    | finishStart r =>
        simp only [Operation.nextStage] at hstage
        split at hstage
        · cases hstage
        · cases hstage
    | destroy r =>
        cases hstage
    | _ =>
        exact Or.inl ⟨hstage, hbefore⟩
  · rw [System.stage_after_other cfg st hsession] at hstage
    exact Or.inl ⟨hstage, hbefore⟩

/-- Every waiting session has a message in the list that releases it. -/
def StartsKept (st : System) : Prop :=
  ∀ s, st.Waits s → ∃ key, st.process.Awaits s key

theorem startsKept_step
    {cfg : Config}
    {st st' : System}
    {a : Operation}
    (hinv : StartsKept st)
    (hkeeps : a.KeepsStarts st)
    (hstep : (library cfg).step st a = some st') :
    StartsKept st' := by
  obtain ⟨_, rfl⟩ := library_step_cases hstep
  intro s hwaits
  rcases waits_before hwaits with hbefore | ⟨sessionIdentifier, rfl, hlong, hconnectable⟩
  · obtain ⟨key, m, hm, rfl, rfl, hignored⟩ := hinv s hbefore
    rcases saved_of_act cfg hkeeps hm ⟨hbefore, hignored⟩ with hreleased | hawaits
    · exact absurd hwaits.2 hreleased
    · exact ⟨m.completeMessageId, hawaits⟩
  · have hlist := replyList_start cfg hlong hconnectable
    have hlast : ∀ m : MessageTime, m ∈ st.process.replyList ++ [m] :=
      fun m => List.mem_append_right _ (List.mem_singleton.mpr rfl)
    unfold Process.Awaits System.after
    rw [hlist]
    exact ⟨_, _, hlast _, rfl, rfl, rfl⟩

/-! ## Runs of a client with the frames that arrive -/

/-- A process, and the frames of each session that arrived and are not processed. -/
structure Client where
  system : System
  incoming : SessionRef → List RingBuffer := fun _ => []

/-- What happens at a client: a frame of a peer arrives, the first frame of a session
is processed, or any other operation is performed. -/
inductive ClientAction where
  | arrive (s : SessionRef) (buf : RingBuffer)
  | process (s : SessionRef)
  | perform (a : Operation)

/-- The operation of the process. -/
def Client.operation (c : Client) : ClientAction → Option Operation
  | .arrive _ _ => none
  | .process s => (c.incoming s).head?.map (Operation.receive s)
  | .perform (.receive _ _) => none
  | .perform a => some a

/-- The frames that are left afterwards. -/
def Client.left (c : Client) : ClientAction → SessionRef → List RingBuffer
  | .arrive s buf => fun r => if r = s then c.incoming s ++ [buf] else c.incoming r
  | .process s => fun r => if r = s then (c.incoming s).tail else c.incoming r
  | .perform _ => c.incoming

/-- The runs of a client.  Peers may send anything and fall silent at any time. -/
def client (cfg : Config) : TransitionSystem Client ClientAction where
  init := fun c => (library cfg).init c.system ∧ ∀ s, c.incoming s = []
  step := fun c a =>
    match a, c.operation a with
    | .arrive _ _, _ => some { c with incoming := c.left a }
    | _, none => none
    | _, some op => ((library cfg).step c.system op).map fun st =>
        { system := st, incoming := c.left a }

/-- The step does not lose the message of a waiting session. -/
def ClientAction.KeepsStarts (c : Client) (a : ClientAction) : Prop :=
  ∀ op, c.operation a = some op → op.KeepsStarts c.system

/-- The start of a waiting session is not orphaned: its answer arrived, or a message is
pending whose timeout releases the session. -/
def Client.Served (c : Client) (s : SessionRef) : Prop :=
  (∃ buf ∈ c.incoming s, buf.AnswersStart) ∨
    ∃ m ∈ c.system.process.replyList, m.session = s ∧ m.ignoreResult = false

/-- The timer does not take the message of a waiting session without releasing it. -/
def Client.TimerReleases (c : Client) (s : SessionRef) : Prop :=
  ∀ key, c.system.process.Awaits s key →
    (ReplyHandler.makeTimerStep.run c.system.process).process.Awaits s key ∨
      ((ReplyHandler.makeTimerStep.run c.system.process).process.session s).initState = -1

theorem client_step_cases
    {cfg : Config}
    {c c' : Client}
    {a : ClientAction}
    (h : (client cfg).step c a = some c') :
    c'.system = c.system ∨
      ∃ op, c.operation a = some op ∧ (library cfg).step c.system op = some c'.system := by
  simp only [client] at h
  cases a with
  | arrive s buf =>
      simp only [Option.some.injEq] at h
      subst h
      exact Or.inl rfl
  | process s =>
      cases hop : c.operation (.process s) with
      | none =>
          rw [hop] at h
          cases h
      | some op =>
          rw [hop] at h
          obtain ⟨st, hstep, rfl⟩ := Option.map_eq_some_iff.mp h
          exact Or.inr ⟨op, rfl, hstep⟩
  | perform b =>
      cases hop : c.operation (.perform b) with
      | none =>
          rw [hop] at h
          cases h
      | some op =>
          rw [hop] at h
          obtain ⟨st, hstep, rfl⟩ := Option.map_eq_some_iff.mp h
          exact Or.inr ⟨op, rfl, hstep⟩

/-- In every run whose steps lose no message of a waiting session, no start is
orphaned, and a timer step that meets the condition releases the session whose message
it takes.  A timer step is one step of the run: between its removal of the message and
its release of the session nothing else happens. -/
theorem starts_never_orphaned
    {cfg : Config}
    {c : Client}
    (hrun : (client cfg).Reaches (fun c a => a.KeepsStarts c) c)
    {s : SessionRef}
    (hwaits : c.system.Waits s) :
    c.Served s ∧ (Operation.replyTimer.KeepsStarts c.system → c.TimerReleases s) := by
  have hinv : StartsKept c.system := by
    refine @TransitionSystem.Reaches.invariant _ _ _ _ (fun c => StartsKept c.system) ?_ ?_
      c hrun
    · rintro c ⟨⟨_, _, _, _, hfresh, _⟩, _⟩ s ⟨hstage, _⟩
      rw [hfresh s] at hstage
      cases hstage
    · intro c a c' hkept hkeeps hstep
      rcases client_step_cases hstep with hsame | ⟨op, hop, hop'⟩
      · rw [hsame]
        exact hkept
      · exact startsKept_step hkept (hkeeps op hop) hop'
  constructor
  · obtain ⟨_, m, hm, hs, _, hignored⟩ := hinv s hwaits
    exact Or.inr ⟨m, hm, hs, hignored⟩
  · rintro htimer key ⟨m, hm, rfl, rfl, hignored⟩
    rcases saved_of_makeTimerStep htimer hm ⟨hwaits, hignored⟩ with hreleased | hawaits
    · exact Or.inr hreleased
    · exact Or.inl hawaits

theorem client_perform
    {cfg : Config}
    {c : Client}
    {a : Operation}
    {st : System}
    (hop : c.operation (.perform a) = some a)
    (hstep : (library cfg).step c.system a = some st) :
    (client cfg).step c (.perform a) = some { system := st, incoming := c.incoming } := by
  simp [client, hop, hstep, Client.left]

theorem client_process
    {cfg : Config}
    {c : Client}
    {s : SessionRef}
    {buf : RingBuffer}
    {rest : List RingBuffer}
    {st : System}
    (hfront : c.incoming s = buf :: rest)
    (hstep : (library cfg).step c.system (.receive s buf) = some st) :
    (client cfg).step c (.process s) =
      some { system := st, incoming := c.left (.process s) } := by
  simp [client, Client.operation, hfront, hstep]

theorem reachable_initialSystem {allowed : Client → ClientAction → Prop} :
    (client Config.default).Reaches allowed { system := initialSystem } :=
  .init ⟨init_initialSystem _, fun _ => rfl⟩

/-- If no message times out, a timer step loses none. -/
theorem keepsStarts_replyTimer_of_none
    {st : System}
    (h : ∀ m ∈ st.process.replyList, ¬ ReplyHandler.TimesOut m) :
    Operation.replyTimer.KeepsStarts st := by
  intro pre m post e hsplit _ hm _ _
  exact absurd hm (h m (hsplit ▸ List.mem_append_right _ List.mem_cons_self))

/-- If only the last message can time out, a timer step loses none. -/
theorem keepsStarts_replyTimer_of_last
    {st : System}
    {pre : List MessageTime}
    {m : MessageTime}
    (hlist : st.process.replyList = pre ++ [m])
    (h : ∀ e ∈ pre, ¬ ReplyHandler.TimesOut e) :
    Operation.replyTimer.KeepsStarts st := by
  intro pre' m' post e hsplit _ hm' _ _
  rcases List.eq_nil_or_concat post with rfl | ⟨post', z, rfl⟩
  · rfl
  · have hfront : pre' ++ m' :: post' ++ [z] = pre ++ [m] := by
      rw [← hlist, hsplit]
      simp
    obtain ⟨rfl, _⟩ := List.append_inj' hfront rfl
    exact absurd hm' (h m' (List.mem_append_right _ List.mem_cons_self))

/-! ## Three starts, of which one is answered -/

/-- Two sessions of a client wait. -/
def twoStarts : System :=
  startingSystem.after Config.default (.start 1 [])

/-- The timers of both messages made a step. -/
def tickedStarts : System :=
  twoStarts.after Config.default .replyTimer

/-- A third session of the client waits. -/
def threeStarts : System :=
  tickedStarts.after Config.default (.start 2 [])

/-- The init reply for the first session. -/
def startReply : Message where
  sessionId := 1
  messageId := 1
  body := .sessionInitReply 1 65537 []

theorem sendable_startReply : startReply.body.Sendable Config.default := by
  simp [startReply, Body.Sendable]

/-- The first session got its init reply. -/
def answeredStart : System :=
  threeStarts.after Config.default (.receive 0 (bufferOfMessage startReply))

theorem answersStart_startReply : (bufferOfMessage startReply).AnswersStart :=
  Or.inl ⟨1, 65537, [], sessionFrame_bufferOfMessage sendable_startReply⟩

/-- The reply arrived for the session that waits. -/
def arrivedReply : Client where
  system := threeStarts
  incoming := fun r => if r = 0 then [bufferOfMessage startReply] else []

/-- The message of the first session is removed by exchange with the last. -/
theorem replyList_answeredStart :
    answeredStart.process.replyList =
      [⟨ReplyHandler.completeMessageId 3 1, 0, MessageType.session.code, 2, false⟩] ++
        [⟨ReplyHandler.completeMessageId 2 1, 1, MessageType.session.code, 1, false⟩] := by
  rw [answeredStart, System.process_after_receive,
    (processMessage_bufferOfMessage sendable_startReply 0 _).1]
  rfl

theorem waits_answeredStart : answeredStart.Waits 1 := by
  refine ⟨rfl, ?_⟩
  rw [answeredStart, System.process_after_receive,
    (processMessage_bufferOfMessage sendable_startReply 0 _).1]
  rfl

theorem obtained_bufferOfMessage
    {m : Message}
    (hsize : m.body.Sendable Config.default) :
    ∃ rawMessage, (bufferOfMessage m).obtained = .frame m.commonHeader rawMessage := by
  have hholds := holds_of_bytes hsize (fun _ => 0) [] (fun _ => 0)
  unfold bufferOfMessage
  exact ⟨_, (obtainsFrame_bytes hsize (fun _ => 0) [] (fun _ => 0)).obtained hholds.delimiter⟩

/-- A received message loses none if the one that it answers is its own. -/
theorem keepsStarts_receive
    {st : System}
    {r : SessionRef}
    {m : Message}
    (hsize : m.body.Sendable Config.default)
    (h : ∀ e, ReplyHandler.first (ReplyHandler.completeMessageId m.sessionId m.messageId)
      st.process.replyList = some e → e.session = r ∧ (bufferOfMessage m).AnswersStart) :
    (Operation.receive r (bufferOfMessage m)).KeepsStarts st := by
  obtain ⟨rawMessage, hobtained⟩ := obtained_bufferOfMessage hsize
  simp only [Operation.KeepsStarts, hobtained]
  intro key e hreplied hfirst _
  simp only [RingBuffer.replied, hobtained, Option.ite_none_right_eq_some, Option.some.injEq]
    at hreplied
  rw [← hreplied.2] at hfirst
  exact h e hfirst

/-- The reply removes no other message than the one of its session. -/
theorem keepsStarts_reply :
    (ClientAction.process 0).KeepsStarts arrivedReply := by
  have hfirst : ReplyHandler.first (ReplyHandler.completeMessageId 1 1)
      threeStarts.process.replyList =
        some ⟨ReplyHandler.completeMessageId 1 1, 1, MessageType.session.code, 0, false⟩ := rfl
  intro op hop
  cases hop
  refine keepsStarts_receive sendable_startReply ?_
  intro e he
  obtain rfl := Option.some.inj (hfirst.symm.trans he)
  exact ⟨rfl, answersStart_startReply⟩

theorem keepsStarts_start
    {c : Client}
    {s : SessionRef}
    (h : ¬ c.system.process.Ready s) :
    (ClientAction.perform (.start s [])).KeepsStarts c := by
  intro op hop
  cases hop
  exact fun hready => absurd hready h

/-- Three sessions start, the timer makes a step in between, and the first session is
answered: the message of the second one is the last of the list and times out next, and
the timer step releases its session. -/
theorem starts_never_orphaned_answered :
    ({ system := answeredStart } : Client).Served 1 ∧
      ({ system := answeredStart } : Client).TimerReleases 1 := by
  have hfirst := (reachable_initialSystem).step (keepsStarts_start (by decide))
    (client_perform rfl step_startingSystem)
  have htwo : (client Config.default).Reaches (fun c a => a.KeepsStarts c)
      { system := twoStarts } :=
    hfirst.step (keepsStarts_start (by decide)) (client_perform rfl (library_step rfl))
  have hticked : (client Config.default).Reaches (fun c a => a.KeepsStarts c)
      { system := tickedStarts } := by
    refine htwo.step (a := .perform .replyTimer) ?_ (client_perform rfl (library_step rfl))
    intro op hop
    cases hop
    exact keepsStarts_replyTimer_of_none (by decide)
  have hthree : (client Config.default).Reaches (fun c a => a.KeepsStarts c)
      { system := threeStarts } :=
    hticked.step (keepsStarts_start (by decide)) (client_perform rfl (library_step rfl))
  have harrived : (client Config.default).Reaches (fun c a => a.KeepsStarts c) arrivedReply :=
    hthree.step (a := .arrive 0 (bufferOfMessage startReply)) (fun _ hop => nomatch hop) rfl
  have hanswered : (client Config.default).Reaches (fun c a => a.KeepsStarts c)
      { system := answeredStart } := by
    refine harrived.step (a := .process 0) keepsStarts_reply ?_
    have hleft : arrivedReply.left (.process 0) = fun _ => [] := by
      funext r
      by_cases hr : r = 0
      · simp [Client.left, arrivedReply, hr]
      · simp [Client.left, arrivedReply, hr]
    have hstep : (library Config.default).step threeStarts
        (.receive 0 (bufferOfMessage startReply)) = some answeredStart := library_step rfl
    rw [← hleft]
    exact client_process rfl hstep
  obtain ⟨hserved, hreleases⟩ := starts_never_orphaned hanswered waits_answeredStart
  exact ⟨hserved, hreleases (keepsStarts_replyTimer_of_last replyList_answeredStart (by decide))⟩

/-! ## Two starts against silent servers -/

/-- At a timeout before the end of the list, the last entry is reported instead. -/
theorem ReplyHandler.makeTimerStep_pair
    {p : Process}
    {a b : MessageTime}
    (hlist : p.replyList = [a, b])
    (hout : TimesOut a)
    (hopen : b.ignoreResult = false) :
    (makeTimerStep.run p).process =
      ({ p with replyList := [b] } : Process).modifySession b.session
        (fun x => { x with initState := -1 }) := by
  have htimer : timeoutValue ≤ a.timer + 1 := hout
  have htake : removeMessageFromList a.completeMessageId
      [{ a with timer := a.timer + 1 }, b] = some ({ a with timer := a.timer + 1 }, [b]) := by
    simp [removeMessageFromList, takeFirst, List.findIdx?_cons, swapRemove]
  simp [makeTimerStep, hlist, makeTimerStepFrom, htimer, handleTimeout, removeCompleteMessage,
    placeAfterRemoval, htake, hopen, Act.run_bind]

/-- The first of two messages times out: its session goes on waiting, and nothing in
the list releases it. -/
theorem orphaned_after_timeout
    {cfg : Config}
    {st : System}
    {a b : MessageTime}
    (hlist : st.process.replyList = [a, b])
    (hout : ReplyHandler.TimesOut a)
    (hopen : b.ignoreResult = false)
    (hne : b.session ≠ a.session)
    (hwaits : st.Waits a.session) :
    (st.after cfg .replyTimer).Waits a.session ∧
      ∀ m ∈ (st.after cfg .replyTimer).process.replyList, m.session ≠ a.session := by
  have hprocess : (st.after cfg .replyTimer).process = _ :=
    ReplyHandler.makeTimerStep_pair hlist hout hopen
  refine ⟨⟨hwaits.1, ?_⟩, ?_⟩
  · rw [hprocess, Process.modifySession_other _ _ hne.symm]
    exact hwaits.2
  · intro m hm
    rw [hprocess] at hm
    rw [List.mem_singleton.mp hm]
    exact hne

theorem not_starts_never_orphaned :
    ¬ ∀ c, (client Config.default).Reachable c → ∀ s, c.system.Waits s → c.Served s := by
  intro hall
  have hfirst : (client Config.default).Reachable { system := startingSystem } :=
    .step reachable_initialSystem trivial (client_perform rfl step_startingSystem)
  have hstarts : (client Config.default).Reachable { system := twoStarts } :=
    .step hfirst trivial (client_perform rfl (library_step rfl))
  have hticked : (client Config.default).Reachable { system := tickedStarts } :=
    .step hstarts trivial (client_perform rfl (library_step rfl))
  have hlost : (client Config.default).Reachable
      { system := tickedStarts.after Config.default .replyTimer } :=
    .step hticked trivial (client_perform rfl (library_step rfl))
  obtain ⟨a, b, hlist, ha, hb, hs, hs'⟩ : ∃ a b : MessageTime,
      tickedStarts.process.replyList = [a, b] ∧ ReplyHandler.TimesOut a ∧
        b.ignoreResult = false ∧ a.session = 0 ∧ b.session = 1 := by
    refine ⟨_, _, rfl, ?_, ?_, ?_, ?_⟩
    · decide
    · rfl
    · rfl
    · rfl
  have hwaits : tickedStarts.Waits a.session := by
    rw [hs]
    exact ⟨rfl, rfl⟩
  obtain ⟨hstill, hnone⟩ := orphaned_after_timeout hlist ha hb
    (by rw [hs, hs']; decide) hwaits
  rcases hall _ hlost a.session hstill with ⟨buf, hbuf, _⟩ | ⟨m, hm, hsession, _⟩
  · cases hbuf
  · exact hnone m hm hsession

end SakuraNetwork

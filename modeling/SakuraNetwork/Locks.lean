import SakuraNetwork.LockedOperations
import SakuraNetwork.Runs

/-!
# Balanced locks

Every function of the library releases the locks it took, and takes none that its
thread holds, but for two places: `closeServer` returns with the lock of the servers
where a server cannot be closed, and the error callback of a request that timed out is
called with the lock of the blocked requests.

* `Does`: a function with its locks keeps the discipline, and does what the function
  without locks does.
* `disciplined`: all invocations keep the discipline.
* `solo_code`: alone, an invocation is the operation of a run.
* `locks_balanced`: the locks are balanced in every run that avoids the two places.
-/

namespace SakuraNetwork

open Lib

namespace Locked

/-! ## One function -/

/-- Started with the locks `held`, the code `c` keeps to the discipline and ends with
the locks `held'`.  Alone it does what `x` does. -/
structure Does
    {α : Type}
    (calls : Finset SpinLock)
    (places : Place → Finset SpinLock)
    (allowed : Place → Prop)
    (held held' : Finset SpinLock)
    (c : Locked α)
    (x : Act α) : Prop where
  runs : c.Runs calls places allowed (fun _ last => last = held') held
  alone : ∀ g, c.solo g = ((x.run g.process).value, g.after x)

theorem Shared.after_bind {α β : Type} (g : Shared) (x : Act α) (f : α → Act β) :
    g.after (x >>= f) = (g.after x).after (f (x.run g.process).value) := by
  simp [Shared.after, Act.run_bind]

section Rules

variable {α β : Type} {calls held held' held'' : Finset SpinLock}
  {places : Place → Finset SpinLock} {allowed : Place → Prop}

theorem does_pure (a : α) : Does calls places allowed held held (pure a) (pure a) := by
  constructor
  · exact rfl
  · intro g
    simp [Shared.after]

theorem does_lift (x : Act α) : Does calls places allowed held held (lift x) x := by
  constructor
  · exact fun _ => rfl
  · exact fun _ => rfl

theorem Does.bind
    {c : Locked α}
    {x : Act α}
    {k : α → Locked β}
    {f : α → Act β}
    (hx : Does calls places allowed held held' c x)
    (hf : ∀ a, Does calls places allowed held' held'' (k a) (f a)) :
    Does calls places allowed held held'' (c >>= k) (x >>= f) := by
  constructor
  · refine Code.runs_bind (hx.runs.mono ?_)
    rintro a last rfl
    exact (hf a).runs
  · intro g
    rw [Code.solo_bind, hx.alone g, Shared.after_bind]
    exact (hf _).alone _

theorem Does.ite
    {p : Prop}
    [Decidable p]
    {c c' : Locked α}
    {x x' : Act α}
    (hc : p → Does calls places allowed held held' c x)
    (hc' : ¬ p → Does calls places allowed held held' c' x') :
    Does calls places allowed held held' (if p then c else c') (if p then x else x') := by
  split
  · exact hc ‹_›
  · exact hc' ‹_›

/-- Only the result of the function counts. -/
theorem Does.congr
    {c : Locked α}
    {x y : Act α}
    (h : Does calls places allowed held held' c x)
    (hresult : ∀ p, (x.run p).result = (y.run p).result) :
    Does calls places allowed held held' c y := by
  refine ⟨h.runs, ?_⟩
  intro g
  have hsame := hresult g.process
  simp only [Outcome.result, Prod.mk.injEq] at hsame
  obtain ⟨hvalue, hprocess, houtputs⟩ := hsame
  rw [h.alone g, Shared.after, Shared.after, hvalue, hprocess, houtputs]

/-- A free lock is taken. -/
theorem Does.acquire
    {l : SpinLock}
    (hfree : l ∉ held)
    {c : Locked α}
    {x : Act α}
    (h : Does calls places allowed (insert l held) held' c x) :
    Does calls places allowed held held' (do Code.acquire l; c) x :=
  ⟨⟨hfree, h.runs⟩, h.alone⟩

/-- The lock is released again. -/
theorem Does.release
    {l : SpinLock}
    (hfree : l ∉ held)
    {c : Locked α}
    {x : Act α}
    (h : Does calls places allowed held held' c x) :
    Does calls places allowed (insert l held) held' (do Code.release l; c) x := by
  refine ⟨⟨Finset.mem_insert_self l held, ?_⟩, h.alone⟩
  rw [Finset.erase_insert hfree]
  exact h.runs

/-- The last instruction takes the lock. -/
theorem Does.then_acquire
    {l : SpinLock}
    (hfree : l ∉ held')
    {c : Locked Unit}
    {x : Act Unit}
    (h : Does calls places allowed held held' c x) :
    Does calls places allowed held (insert l held') (do c; Code.acquire l) x := by
  constructor
  · refine Code.runs_bind (h.runs.mono ?_)
    rintro a last rfl
    exact ⟨hfree, rfl⟩
  · intro g
    rw [Code.solo_bind, h.alone g]
    rfl

/-- The last instruction releases the lock. -/
theorem Does.then_release
    {l : SpinLock}
    (hfree : l ∉ held')
    {c : Locked Unit}
    {x : Act Unit}
    (h : Does calls places allowed held (insert l held') c x) :
    Does calls places allowed held held' (do c; Code.release l) x := by
  constructor
  · refine Code.runs_bind (h.runs.mono ?_)
    rintro a last rfl
    exact ⟨Finset.mem_insert_self l held', Finset.erase_insert hfree⟩
  · intro g
    rw [Code.solo_bind, h.alone g]
    rfl

theorem does_callback (hcalls : held = calls) (o : Output) :
    Does calls places allowed held held (callback o) (Act.emit o) := by
  constructor
  · exact fun _ => ⟨hcalls, rfl⟩
  · exact fun _ => rfl

theorem Does.await
    (test : Shared → Bool)
    {c : Locked α}
    {x : Act α}
    (h : Does calls places allowed held held' c x) :
    Does calls places allowed held held' (do await test; c) x :=
  ⟨h.runs, h.alone⟩

/-- A step under a free lock. -/
theorem does_section
    {l : SpinLock}
    (hfree : l ∉ held)
    (x : Act α) :
    Does calls places allowed held held
      (do
        Code.acquire l
        let a ← lift x
        Code.release l
        pure a) x := by
  constructor
  · exact ⟨hfree, fun _ => ⟨Finset.mem_insert_self l held, Finset.erase_insert hfree⟩⟩
  · exact fun _ => rfl

/-- A step under a free lock without a result. -/
theorem does_section_unit
    {l : SpinLock}
    (hfree : l ∉ held)
    (x : Act Unit) :
    Does calls places allowed held held
      (do
        Code.acquire l
        lift x
        Code.release l) x := by
  constructor
  · exact ⟨hfree, fun _ => ⟨Finset.mem_insert_self l held, Finset.erase_insert hfree⟩⟩
  · exact fun _ => rfl

end Rules

/-! ## Functions that only need the lock of the replies -/

section Replies

variable {calls held : Finset SpinLock} {places : Place → Finset SpinLock} {allowed : Place → Prop}
  (hreply : .replyList ∉ held)

include hreply

theorem does_addMessage
    (messageType : UInt8)
    (sessionId messageId : UInt32)
    (s : SessionRef) :
    Does calls places allowed held held (addMessage messageType sessionId messageId s)
      (ReplyHandler.addMessage messageType sessionId messageId s) :=
  does_section_unit hreply _

theorem does_removeMessage (sessionId messageId : UInt32) :
    Does calls places allowed held held (removeMessage sessionId messageId)
      (ReplyHandler.removeMessage sessionId messageId) :=
  does_section hreply _

theorem does_removeAllOfSession (sessionId : UInt32) :
    Does calls places allowed held held (removeAllOfSession sessionId)
      (ReplyHandler.removeAllOfSession sessionId) :=
  does_section_unit hreply _

theorem does_sendMessage (s : SessionRef) (m : Message) :
    Does calls places allowed held held (sendMessage s m) (SakuraNetwork.sendMessage s m) := by
  refine (does_lift (getSession s)).bind fun x => ?_
  cases x.socket with
  | none =>
      exact does_pure false
  | some k =>
      refine Does.ite (fun _ => ?_) fun _ => ?_
      · exact (does_addMessage hreply _ _ _ _).bind fun _ => does_lift _
      · exact (does_pure ()).bind fun _ => does_lift _

theorem does_sendNew (s : SessionRef) (body : Body) :
    Does calls places allowed held held (sendNew s body) (SakuraNetwork.sendNew s body) :=
  Does.bind (does_lift _) fun _ => Does.bind (does_lift _) fun _ => does_sendMessage hreply s _

theorem does_sendReply (s : SessionRef) (messageId : UInt32) (body : Body) :
    Does calls places allowed held held (sendReply s messageId body)
      (SakuraNetwork.sendReply s messageId body) :=
  Does.bind (does_lift _) fun _ => does_sendMessage hreply s _

theorem does_sendSessionInitStart (s : SessionRef) (sessionIdentifier : Bytes) :
    Does calls places allowed held held (sendSessionInitStart s sessionIdentifier)
      (SakuraNetwork.sendSessionInitStart s sessionIdentifier) :=
  Does.bind (does_lift _) fun _ => Does.bind (does_lift _) fun _ => does_sendNew hreply s _

theorem does_sendSessionInitReply
    (s : SessionRef)
    (initialSessionId messageId completeSessionId : UInt32)
    (sessionIdentifier : Bytes) :
    Does calls places allowed held held
      (sendSessionInitReply s initialSessionId messageId completeSessionId sessionIdentifier)
      (SakuraNetwork.sendSessionInitReply s initialSessionId messageId completeSessionId
        sessionIdentifier) :=
  Does.bind (does_lift _) fun _ => does_sendMessage hreply s _

theorem does_sendErrorMessage
    (cfg : Config)
    (s : SessionRef)
    (errorCode : ErrorCode)
    (errorMessage : Bytes) :
    Does calls places allowed held held (sendErrorMessage cfg s errorCode errorMessage)
      (SakuraNetwork.sendErrorMessage cfg s errorCode errorMessage) := by
  unfold sendErrorMessage SakuraNetwork.sendErrorMessage
  cases errorCode.subType with
  | none =>
      exact does_pure true
  | some subType =>
      exact does_sendNew hreply s _

theorem does_sendParts
    (cfg : Config)
    (s : SessionRef)
    (multiblockId : UInt64)
    (data : Bytes)
    (totalSize : Nat)
    (partCounter : UInt32) :
    Does calls places allowed held held (sendParts cfg s multiblockId data totalSize partCounter)
      (MultiblockIo.sendParts cfg s multiblockId data totalSize partCounter) := by
  induction totalSize using Nat.strong_induction_on generalizing partCounter with
  | _ totalSize ih =>
      rw [sendParts, MultiblockIo.sendParts]
      split
      · exact does_pure true
      · rename_i hzero
        have hpos := MultiblockIo.currentMessageSize_pos cfg hzero
        refine (does_lift (getSession s)).bind fun x => Does.ite (fun _ => does_pure true) fun _ =>
          (does_sendNew hreply s _).bind fun ok => Does.ite (fun _ => ?_) fun _ => does_pure false
        exact ih _ (by omega) _

theorem does_sendOutgoingData
    (cfg : Config)
    (s : SessionRef)
    (data : Bytes)
    (blockerId : UInt64) :
    Does calls places allowed held held (sendOutgoingData cfg s data blockerId)
      (MultiblockIo.sendOutgoingData cfg s data blockerId) := by
  refine (does_lift getRandId).bind fun id => (does_sendParts hreply cfg s id data _ _).bind
    fun ok => Does.ite (fun _ => ?_) fun _ => does_pure 0
  refine (does_lift (getSession s)).bind fun x => Does.ite (fun _ => does_pure 0) fun _ => ?_
  exact (does_sendNew hreply s _).bind fun ok => Does.ite (fun _ => does_pure id) fun _ =>
    does_pure 0

theorem does_sendStreamData
    (cfg : Config)
    (s : SessionRef)
    (data : Bytes)
    (replyExpected : Bool) :
    Does calls places allowed held held (sendStreamData cfg s data replyExpected)
      (SakuraNetwork.sendStreamData cfg s data replyExpected) :=
  Does.ite (fun _ => does_pure false) fun _ => (does_lift (getSession s)).bind fun _ =>
    Does.ite (fun _ => does_sendNew hreply s _) fun _ => does_pure false

theorem does_sendNormalMessage (cfg : Config) (s : SessionRef) (data : Bytes) :
    Does calls places allowed held held (sendNormalMessage cfg s data)
      (SakuraNetwork.sendNormalMessage cfg s data) := by
  refine (does_lift (getSession s)).bind fun x => Does.ite (fun _ => ?_) fun _ => does_pure false
  refine Does.ite (fun _ => ?_) fun _ => ?_
  · exact (does_lift getRandId).bind fun _ => does_sendNew hreply s _
  · exact (does_sendOutgoingData hreply cfg s data 0).bind fun _ => does_pure _

theorem does_sendRequestFrames (cfg : Config) (s : SessionRef) (data : Bytes) :
    Does calls places allowed held held (sendRequestFrames cfg s data)
      (SakuraNetwork.sendRequestFrames cfg s data) := by
  refine (does_lift (getSession s)).bind fun x => Does.ite (fun _ => ?_) fun _ => does_pure 0
  refine Does.ite (fun _ => ?_) fun _ => does_sendOutgoingData hreply cfg s data 0
  exact (does_lift getRandId).bind fun id => (does_sendNew hreply s _).bind fun ok =>
    Does.ite (fun _ => does_pure id) fun _ => does_pure 0

theorem does_sendResponse
    (cfg : Config)
    (s : SessionRef)
    (data : Bytes)
    (blockerId : UInt64) :
    Does calls places allowed held held (sendResponse cfg s data blockerId)
      (SakuraNetwork.sendResponse cfg s data blockerId) := by
  refine (does_lift (getSession s)).bind fun x => Does.ite (fun _ => ?_) fun _ => does_pure 0
  refine Does.ite (fun _ => ?_) fun _ => does_sendOutgoingData hreply cfg s data blockerId
  exact (does_lift getRandId).bind fun id => (does_sendNew hreply s _).bind fun _ => does_pure id

theorem does_sendHeartbeat (s : SessionRef) :
    Does calls places allowed held held (sendHeartbeat s) (SakuraNetwork.sendHeartbeat s) := by
  refine (does_lift (getSession s)).bind fun x => ?_
  cases x.socket with
  | none =>
      exact does_pure false
  | some k =>
      exact Does.ite (fun _ => does_sendNew hreply s _) fun _ => does_pure false

end Replies

/-! ## Functions that call the application -/

section Sessions

variable {calls held : Finset SpinLock} {places : Place → Finset SpinLock} {allowed : Place → Prop}
  (hreply : .replyList ∉ held) (hsession : .sessionMap ∉ held) (hcalls : held = calls)

include hsession in
theorem does_addSession (id : UInt32) (s : SessionRef) :
    Does calls places allowed held held (addSession id s) (SessionHandler.addSession id s) :=
  Does.bind (does_lift _) fun _ => does_section_unit hsession _

include hsession in
theorem does_removeSession (id : UInt32) :
    Does calls places allowed held held (removeSession id) (SessionHandler.removeSession id) :=
  does_section hsession _

include hsession hcalls

theorem does_endSession (s : SessionRef) :
    Does calls places allowed held held (endSession s) (SakuraNetwork.endSession s) := by
  refine (does_lift (goToNextState s .stopSession)).bind fun moved =>
    Does.ite (fun _ => ?_) fun _ => does_pure false
  refine (does_lift (getSession s)).bind fun x => (does_callback hcalls _).bind fun _ => ?_
  exact (does_removeSession hsession x.sessionId).bind fun _ => does_lift _

omit hsession in
theorem does_makeSessionReady
    (s : SessionRef)
    (sessionId : UInt32)
    (sessionIdentifier : Bytes) :
    Does calls places allowed held held (makeSessionReady s sessionId sessionIdentifier)
      (SakuraNetwork.makeSessionReady s sessionId sessionIdentifier) := by
  refine (does_lift (goToNextState s .startSession (some .sessionNotReady))).bind fun moved =>
    Does.ite (fun _ => ?_) fun _ => Does.bind (does_lift _) fun _ => does_pure false
  refine Does.bind (does_lift _) fun _ => Does.bind (does_lift _) fun _ => ?_
  exact (does_callback hcalls _).bind fun _ => Does.bind (does_lift _) fun _ => does_pure true

include hreply

theorem does_closeSession (s : SessionRef) (replyExpected : Bool) :
    Does calls places allowed held held (closeSession s replyExpected)
      (SakuraNetwork.closeSession s replyExpected) := by
  refine (does_lift (getSession s)).bind fun x => Does.ite (fun _ => ?_) fun _ => does_pure false
  refine (does_removeAllOfSession hreply x.sessionId).bind fun _ => ?_
  refine Does.bind (does_lift _) fun _ => ?_
  refine Does.ite (fun _ => does_sendNew hreply s _) fun _ => ?_
  exact (does_sendNew hreply s _).bind fun _ => does_endSession hsession hcalls s

theorem does_destroySession (s : SessionRef) :
    Does calls places allowed held held (destroySession s) (SakuraNetwork.destroySession s) := by
  refine Does.bind (does_lift _) fun _ => (does_lift (getSession s)).bind fun x => ?_
  refine (does_removeSession hsession x.sessionId).bind fun _ => ?_
  exact (does_closeSession hreply hsession hcalls s false).bind fun _ => does_lift _

/-- A start waits for the handshake, and closes and destroys a session that failed. -/
theorem does_startSession (s : SessionRef) (sessionIdentifier : Bytes) :
    Does calls places allowed held held (startSession s sessionIdentifier) (do
      let connected ← SakuraNetwork.startSession s sessionIdentifier
      if connected then finishStart s
      else if sessionIdentifier.length > 64000 then pure false
      else do
        SakuraNetwork.destroySession s
        pure false) := by
  unfold startSession SakuraNetwork.startSession
  by_cases hlong : sessionIdentifier.length > 64000
  · rw [if_pos hlong, if_pos hlong]
    refine (does_pure false).congr ?_
    intro p
    simp [Act.run_bind, hlong]
  · rw [if_neg hlong, if_neg hlong]
    have hclosed : ∀ value : Bool, Does calls places allowed held held
        (do
          let _ ← closeSession s
          destroySession s
          pure value)
        (do
          let _ ← SakuraNetwork.closeSession s
          SakuraNetwork.destroySession s
          pure value) :=
      fun value => (does_closeSession hreply hsession hcalls s false).bind fun _ =>
        (does_destroySession hreply hsession hcalls s).bind fun _ => does_pure value
    have hfinish : Does calls places allowed held held
        (do
          let x ← lift (getSession s)
          if x.initState = -1 then do
            let _ ← closeSession s
            destroySession s
            pure false
          else pure true) (finishStart s) :=
      (does_lift (getSession s)).bind fun x => Does.ite (fun _ => hclosed false) fun _ =>
        does_pure true
    have hstart : Does calls places allowed held held _ _ :=
      (does_lift SessionHandler.increaseSessionIdCounter).bind fun newId =>
        (does_lift (connectiSession s newId.toUInt32)).bind fun connected =>
          Does.ite (p := connected = true)
            (fun _ => (does_addSession hsession newId.toUInt32 s).bind fun _ =>
              (does_sendSessionInitStart hreply s sessionIdentifier).bind fun _ =>
                Does.await (fun g => (g.process.session s).initState != 0) hfinish)
            fun _ => hclosed false
    refine hstart.congr ?_
    intro p
    rw [Outcome.result, Outcome.result]
    simp only [Act.run_bind, if_neg hlong]
    split
    · simp [Act.run_bind]
    · simp [Act.run_bind]

end Sessions

/-! ## The timers and the blocked requests -/

section Timers

variable {calls held : Finset SpinLock} {places : Place → Finset SpinLock} {allowed : Place → Prop}

theorem does_handleReplyTimeout
    (hreply : .replyList ∉ held)
    (hcalls : held = calls)
    (i : Nat)
    (temp : MessageTime) :
    Does calls places allowed held held (handleReplyTimeout i temp)
      (ReplyHandler.handleTimeout i temp) := by
  refine Does.acquire hreply ((does_lift Act.get).bind fun p => Does.bind (does_lift _) fun _ => ?_)
  refine Does.release hreply ?_
  cases ReplyHandler.placeAfterRemoval temp.completeMessageId p.replyList i with
  | none =>
      exact does_pure ()
  | some temp =>
      exact Does.ite (fun _ => does_pure ()) fun _ =>
        Does.bind (does_lift _) fun _ => does_callback hcalls _

/-- The lock is released while the application is called, and taken again. -/
theorem does_replyTimerStepFrom
    (hreply : .replyList ∉ held)
    (hcalls : held = calls)
    (fuel i : Nat) :
    Does calls places allowed (insert .replyList held) (insert .replyList held)
      (replyTimerStepFrom fuel i) (ReplyHandler.makeTimerStepFrom fuel i) := by
  induction fuel generalizing i with
  | zero =>
      exact does_pure ()
  | succ fuel ih =>
      refine (does_lift Act.get).bind fun p => ?_
      cases p.replyList[i]? with
      | none =>
          exact does_pure ()
      | some m =>
          refine Does.bind (does_lift _) fun _ => Does.ite (fun _ => ?_) fun _ => ih (i + 1)
          exact Does.release hreply
            (Does.then_acquire hreply (does_handleReplyTimeout hreply hcalls _ _))

theorem does_replyTimerStep
    (hreply : .replyList ∉ held)
    (hcalls : held = calls) :
    Does calls places allowed held held replyTimerStep ReplyHandler.makeTimerStep :=
  Does.acquire hreply ((does_lift Act.get).bind fun _ =>
    Does.then_release hreply (does_replyTimerStepFrom hreply hcalls _ 0))

/-- The application is called while the lock is held. -/
theorem does_blockerTimerStepFrom
    (hcalls : insert .blockerList held = calls)
    (fuel i : Nat) :
    Does calls places allowed (insert .blockerList held) (insert .blockerList held)
      (blockerTimerStepFrom fuel i) (MessageBlockerHandler.makeTimerStepFrom fuel i) := by
  induction fuel generalizing i with
  | zero =>
      exact does_pure ()
  | succ fuel ih =>
      refine (does_lift Act.get).bind fun p => ?_
      cases p.blockerList[i]? with
      | none =>
          exact does_pure ()
      | some b =>
          refine Does.bind (does_lift _) fun _ => Does.ite (fun _ => ?_) fun _ => ?_
          · refine Does.bind (does_lift _) fun _ => Does.bind (does_lift _) fun _ => ?_
            exact (does_callback hcalls _).bind fun _ => ih (i + 1)
          · exact (does_pure ()).bind fun _ => ih (i + 1)

theorem does_blockerTimerStep
    (hblocker : .blockerList ∉ held)
    (hcalls : insert .blockerList held = calls) :
    Does calls places allowed held held blockerTimerStep MessageBlockerHandler.makeTimerStep :=
  Does.acquire hblocker ((does_lift Act.get).bind fun _ =>
    Does.then_release hblocker (does_blockerTimerStepFrom hcalls _ 0))

theorem does_releaseMessage
    (hblocker : .blockerList ∉ held)
    (blockerId : UInt64)
    (data : Option Bytes) :
    Does calls places allowed held held (releaseMessage blockerId data)
      (MessageBlockerHandler.releaseMessage blockerId data) :=
  does_section hblocker _

/-- The lock of the blocked requests is free where `blockMessage` may be called. -/
theorem does_blockMessage
    (hplace : held = places .blockMessage)
    (hblocker : allowed .blockMessage → .blockerList ∉ held)
    (blockerId blockerTimeout : UInt64)
    (s : SessionRef) :
    Does calls places allowed held held (blockMessage blockerId blockerTimeout s) (do
      MessageBlockerHandler.addBlocker blockerId blockerTimeout s
      MessageBlockerHandler.removeMessageFromList blockerId) := by
  have hrest : ∀ held : Finset SpinLock, .blockerList ∉ held →
      Does calls places allowed held held
        (do
          Code.acquire .blockerList
          lift (MessageBlockerHandler.addBlocker blockerId blockerTimeout s)
          Code.release .blockerList
          await fun _ => true
          Code.acquire .blockerList
          let result ← lift (MessageBlockerHandler.removeMessageFromList blockerId)
          Code.release .blockerList
          pure result)
        (do
          MessageBlockerHandler.addBlocker blockerId blockerTimeout s
          MessageBlockerHandler.removeMessageFromList blockerId) :=
    fun held hfree => Does.acquire hfree (Does.bind (does_lift _) fun _ =>
      Does.release hfree (Does.await _ (does_section hfree _)))
  constructor
  · exact ⟨hplace, fun hallowed => (hrest held (hblocker hallowed)).runs⟩
  · exact (hrest ∅ (Finset.notMem_empty _)).alone

/-- A request sends its frames and waits. -/
theorem does_sendRequest
    (hreply : .replyList ∉ held)
    (hplace : held = places .blockMessage)
    (hblocker : allowed .blockMessage → .blockerList ∉ held)
    (cfg : Config)
    (s : SessionRef)
    (data : Bytes)
    (timeout : UInt64) :
    Does calls places allowed held held (sendRequest cfg s data timeout) (do
      let id ← SakuraNetwork.sendRequest cfg s data timeout
      match id with
      | none => pure none
      | some id => MessageBlockerHandler.removeMessageFromList id) := by
  have hrequest : Does calls places allowed held held (sendRequest cfg s data timeout) _ :=
    (does_sendRequestFrames hreply cfg s data).bind fun id =>
      Does.ite (p := (id == 0) = true) (fun _ => does_pure none) fun _ =>
        does_blockMessage hplace hblocker id timeout s
  refine hrequest.congr ?_
  intro p
  rw [Outcome.result, Outcome.result]
  unfold SakuraNetwork.sendRequest
  simp only [Act.run_bind]
  split
  · simp
  · simp [Act.run_bind]

end Timers

/-! ## Received messages -/

section Handlers

variable {calls held : Finset SpinLock} {places : Place → Finset SpinLock} {allowed : Place → Prop}
  (hreply : .replyList ∉ held) (hsession : .sessionMap ∉ held)
  (hblocker : .blockerList ∉ held) (hcalls : held = calls)

include hreply hcalls

theorem does_processDataStream (s : SessionRef) (rawMessage : Memory) :
    Does calls places allowed held held (processDataStream s rawMessage)
      (SakuraNetwork.processDataStream s rawMessage) := by
  refine Does.bind (does_lift _) fun payloadSize => Does.bind (does_lift _) fun payload => ?_
  refine (does_callback hcalls _).bind fun _ => Does.bind (does_lift _) fun flags => ?_
  refine Does.ite (fun _ => ?_) fun _ => does_pure ()
  exact Does.bind (does_lift _) fun _ => (does_sendReply hreply s _ _).bind fun _ => does_pure ()

include hblocker

theorem does_processDataSingleBlock (s : SessionRef) (rawMessage : Memory) :
    Does calls places allowed held held (processDataSingleBlock s rawMessage)
      (SakuraNetwork.processDataSingleBlock s rawMessage) := by
  refine Does.bind (does_lift _) fun payloadSize => Does.bind (does_lift _) fun payload =>
    Does.bind (does_lift _) fun flags => ?_
  have hanswer : Does calls places allowed held held
      (do
        if flags &&& 0x1 != 0 then
          let messageId ← lift (readUInt32 rawMessage 20)
          let _ ← sendReply s messageId .singleBlockReply)
      (do
        if flags &&& 0x1 != 0 then
          let messageId ← readUInt32 rawMessage 20
          let _ ← sendDataSingleBlockReply s messageId) :=
    Does.ite (fun _ => Does.bind (does_lift _) fun _ => (does_sendReply hreply s _ _).bind fun _ =>
      does_pure ()) fun _ => does_pure ()
  refine Does.ite (fun _ => ?_) fun _ => ?_
  · exact Does.bind (does_lift _) fun _ => (does_releaseMessage hblocker _ _).bind fun _ => hanswer
  · exact Does.bind (does_lift _) fun _ => (does_callback hcalls _).bind fun _ => hanswer

omit hreply in
theorem does_processDataMultiFinish (s : SessionRef) (rawMessage : Memory) :
    Does calls places allowed held held (processDataMultiFinish s rawMessage)
      (SakuraNetwork.processDataMultiFinish s rawMessage) := by
  refine Does.bind (does_lift _) fun multiblockId => Does.bind (does_lift _) fun buffer =>
    Does.bind (does_lift _) fun flags => ?_
  have hremove : Does calls places allowed held held
      (do
        let _ ← lift (MultiblockIo.removeMultiblockBuffer s multiblockId))
      (do
        let _ ← MultiblockIo.removeMultiblockBuffer s multiblockId) :=
    Does.bind (does_lift _) fun _ => does_pure ()
  refine Does.ite (fun _ => ?_) fun _ => ?_
  · exact Does.bind (does_lift _) fun _ => (does_releaseMessage hblocker _ _).bind fun _ => hremove
  · exact (does_callback hcalls _).bind fun _ => hremove

omit hblocker

include hsession

theorem does_processSessionInitStart (s : SessionRef) (rawMessage : Memory) :
    Does calls places allowed held held (processSessionInitStart s rawMessage)
      (SakuraNetwork.processSessionInitStart s rawMessage) := by
  refine Does.bind (does_lift _) fun clientSessionId => ?_
  refine Does.bind (does_lift _) fun serverSessionId => ?_
  refine Does.bind (does_lift _) fun size => Does.bind (does_lift _) fun identifier => ?_
  refine (does_addSession hsession _ s).bind fun _ => Does.bind (does_lift _) fun _ => ?_
  refine (does_makeSessionReady hcalls s _ _).bind fun _ => Does.bind (does_lift _) fun _ => ?_
  exact (does_sendSessionInitReply hreply s _ _ _ _).bind fun _ => does_pure ()

omit hreply in
theorem does_processSessionInitReply (s : SessionRef) (rawMessage : Memory) :
    Does calls places allowed held held (processSessionInitReply s rawMessage)
      (SakuraNetwork.processSessionInitReply s rawMessage) := by
  refine Does.bind (does_lift _) fun completeSessionId => ?_
  refine Does.bind (does_lift _) fun initialId => ?_
  refine Does.bind (does_lift _) fun size => Does.bind (does_lift _) fun identifier => ?_
  refine (does_removeSession hsession _).bind fun _ => (does_addSession hsession _ s).bind
    fun _ => ?_
  exact (does_makeSessionReady hcalls s _ _).bind fun _ => does_pure ()

theorem does_processSessionCloseStart (s : SessionRef) (rawMessage : Memory) :
    Does calls places allowed held held (processSessionCloseStart s rawMessage)
      (SakuraNetwork.processSessionCloseStart s rawMessage) := by
  refine Does.bind (does_lift _) fun messageId => (does_sendReply hreply s _ _).bind fun _ => ?_
  refine Does.bind (does_lift _) fun sessionId => (does_removeSession hsession _).bind fun _ => ?_
  exact (does_endSession hsession hcalls s).bind fun _ => does_pure ()

omit hreply hcalls in
theorem does_processSessionCloseReply (s : SessionRef) (rawMessage : Memory) :
    Does calls places allowed held held (processSessionCloseReply s rawMessage)
      (SakuraNetwork.processSessionCloseReply s rawMessage) := by
  refine Does.bind (does_lift _) fun sessionId => (does_removeSession hsession _).bind fun _ => ?_
  exact Does.bind (does_lift _) fun _ => does_pure ()

theorem does_processSessionType
    (s : SessionRef)
    (header : CommonMessageHeader)
    (rawMessage : Memory) :
    Does calls places allowed held held (processSessionType s header rawMessage)
      (SakuraNetwork.processSessionType s header rawMessage) :=
  Does.ite (fun _ => does_processSessionInitStart hreply hsession hcalls s rawMessage) fun _ =>
    Does.ite (fun _ => does_processSessionInitReply hsession hcalls s rawMessage) fun _ =>
      Does.ite (fun _ => does_processSessionCloseStart hreply hsession hcalls s rawMessage)
        fun _ => Does.ite (fun _ => does_processSessionCloseReply hsession s rawMessage)
          fun _ => does_pure ()

omit hsession hcalls in
theorem does_processHeartbeatType
    (s : SessionRef)
    (header : CommonMessageHeader)
    (rawMessage : Memory) :
    Does calls places allowed held held (processHeartbeatType s header rawMessage)
      (SakuraNetwork.processHeartbeatType s header rawMessage) :=
  Does.ite (fun _ => Does.bind (does_lift _) fun _ => (does_sendReply hreply s _ _).bind fun _ =>
    does_pure ()) fun _ => does_pure ()

omit hreply hsession in
theorem does_processErrorType
    (s : SessionRef)
    (header : CommonMessageHeader)
    (rawMessage : Memory) :
    Does calls places allowed held held (processErrorType s header rawMessage)
      (SakuraNetwork.processErrorType s header rawMessage) := by
  have hmessage : ∀ code, Does calls places allowed held held
      (processErrorMessage s code rawMessage)
      (SakuraNetwork.processErrorMessage s code rawMessage) :=
    fun code => Does.bind (does_lift _) fun _ => Does.bind (does_lift _) fun _ =>
      does_callback hcalls _
  exact Does.bind (does_lift _) fun _ => Does.ite (fun _ => hmessage _) fun _ =>
    Does.ite (fun _ => hmessage _) fun _ => Does.ite (fun _ => hmessage _) fun _ => does_pure ()

include hblocker

omit hsession hblocker in
theorem does_processStreamDataType
    (s : SessionRef)
    (header : CommonMessageHeader)
    (rawMessage : Memory) :
    Does calls places allowed held held (processStreamDataType s header rawMessage)
      (SakuraNetwork.processStreamDataType s header rawMessage) :=
  Does.ite (fun _ => does_processDataStream hreply hcalls s rawMessage) fun _ => does_pure ()

omit hsession in
theorem does_processSingleBlockDataType
    (s : SessionRef)
    (header : CommonMessageHeader)
    (rawMessage : Memory) :
    Does calls places allowed held held (processSingleBlockDataType s header rawMessage)
      (SakuraNetwork.processSingleBlockDataType s header rawMessage) :=
  Does.ite (fun _ => does_processDataSingleBlock hreply hblocker hcalls s rawMessage) fun _ =>
    does_pure ()

omit hreply hsession in
theorem does_processMultiBlockDataType
    (s : SessionRef)
    (header : CommonMessageHeader)
    (rawMessage : Memory) :
    Does calls places allowed held held (processMultiBlockDataType s header rawMessage)
      (SakuraNetwork.processMultiBlockDataType s header rawMessage) :=
  Does.ite (fun _ => does_lift _) fun _ =>
    Does.ite (fun _ => does_processDataMultiFinish hblocker hcalls s rawMessage) fun _ =>
      does_pure ()

/-- Every type has a handler with locks for its handler without. -/
theorem does_processByType
    (s : SessionRef)
    (header : CommonMessageHeader)
    (rawMessage : Memory) :
    Option.Rel (Does calls places allowed held held) (processByType s header rawMessage)
      (SakuraNetwork.processByType s header rawMessage) := by
  have hite : ∀ {p : Prop} [Decidable p] {c : Locked Unit} {x : Act Unit}
      {c' : Option (Locked Unit)} {x' : Option (Act Unit)},
      Does calls places allowed held held c x →
      Option.Rel (Does calls places allowed held held) c' x' →
      Option.Rel (Does calls places allowed held held) (if p then some c else c')
        (if p then some x else x') := by
    intro p _ c x c' x' hc hc'
    split
    · exact .some hc
    · exact hc'
  refine hite ?_ (hite ?_ (hite ?_ (hite ?_ (hite ?_ (hite ?_ .none)))))
  · exact does_processStreamDataType hreply hcalls s header rawMessage
  · exact does_processSingleBlockDataType hreply hblocker hcalls s header rawMessage
  · exact does_processMultiBlockDataType hblocker hcalls s header rawMessage
  · exact does_processSessionType hreply hsession hcalls s header rawMessage
  · exact does_processHeartbeatType hreply s header rawMessage
  · exact does_processErrorType hcalls s header rawMessage

/-- A frame removes the message it answers before it is handled. -/
theorem does_processFrame
    (s : SessionRef)
    (header : CommonMessageHeader)
    (rawMessage : Memory) :
    Does calls places allowed held held (processFrame s header rawMessage)
      (SakuraNetwork.processFrame s header rawMessage) := by
  have hby : Option.Rel (Does calls places allowed held held) (processByType s header rawMessage)
      (SakuraNetwork.processByType s header rawMessage) :=
    does_processByType hreply hsession hblocker hcalls s header rawMessage
  unfold processFrame SakuraNetwork.processFrame
  generalize processByType s header rawMessage = handler at hby ⊢
  generalize SakuraNetwork.processByType s header rawMessage = handler' at hby ⊢
  cases hby with
  | none =>
      exact Does.ite (fun _ => (does_removeMessage hreply _ _).bind fun _ => does_pure _) fun _ =>
        does_pure _
  | some hhandler =>
      exact Does.ite (fun _ => (does_removeMessage hreply _ _).bind fun _ =>
        hhandler.bind fun _ => does_pure _) fun _ => hhandler.bind fun _ => does_pure _

theorem does_processMessage (cfg : Config) (s : SessionRef) (recvBuffer : RingBuffer) :
    Does calls places allowed held held (processMessage cfg s recvBuffer)
      (SakuraNetwork.processMessage cfg s recvBuffer) := by
  unfold processMessage SakuraNetwork.processMessage
  cases recvBuffer.getObject with
  | none =>
      exact does_pure _
  | some header =>
      refine Does.ite (fun _ => ?_) fun _ => Does.ite (fun _ => ?_) fun _ => ?_
      · exact (does_closeSession hreply hsession hcalls s false).bind fun _ => does_pure _
      · exact (does_sendErrorMessage hreply cfg s _ _).bind fun _ => does_pure _
      · cases recvBuffer.getDataPointer header.totalMessageSize.toNat with
        | none =>
            exact does_pure _
        | some rawMessage =>
            refine Does.bind (does_lift _) fun delimiter => Does.ite (fun _ => ?_) fun _ => ?_
            · exact (does_sendErrorMessage hreply cfg s _ _).bind fun _ => does_pure _
            · exact does_processFrame hreply hsession hblocker hcalls s header rawMessage

end Handlers

/-! ## The servers and the heartbeats -/

/-- The code ends with the locks it was started with. -/
def Keeps
    {α : Type}
    (calls : Finset SpinLock)
    (places : Place → Finset SpinLock)
    (allowed : Place → Prop)
    (held : Finset SpinLock)
    (c : Locked α) : Prop :=
  c.Runs calls places allowed (fun _ last => last = held) held

section Servers

variable {calls held : Finset SpinLock} {places : Place → Finset SpinLock} {allowed : Place → Prop}

theorem Does.discard
    {α : Type}
    {c : Locked α}
    {x : Act α}
    (h : Does calls places allowed held held c x) :
    Does calls places allowed held held (do let _ ← c) (do let _ ← x) :=
  h.bind fun _ => does_pure ()

theorem keeps_heartBeats (hreply : .replyList ∉ held) (l : List SessionRef) :
    Keeps calls places allowed held (heartBeats l) := by
  induction l with
  | nil =>
      exact rfl
  | cons s rest ih =>
      refine Code.runs_bind ((does_sendHeartbeat hreply s).runs.mono ?_)
      rintro a last rfl
      exact ih

/-- The heartbeats are sent while the lock of the sessions is held. -/
theorem keeps_sendHeartBeats
    (hreply : .replyList ∉ held)
    (hsession : .sessionMap ∉ held) :
    Keeps calls places allowed held sendHeartBeats := by
  have hin : SpinLock.replyList ∉ insert SpinLock.sessionMap held := by
    simp [hreply]
  have hbeats : ∀ l, Code.Runs calls places allowed (fun _ last => last = held)
      (do
        heartBeats l
        Code.release .sessionMap : Locked Unit) (insert .sessionMap held) := by
    intro l
    refine Code.runs_bind (Code.Runs.mono ?_ (keeps_heartBeats hin l))
    rintro a last rfl
    exact ⟨Finset.mem_insert_self _ _, Finset.erase_insert hsession⟩
  exact ⟨hsession, fun g => hbeats _⟩

theorem keeps_addServer (hserver : .serverMap ∉ held) (server : Server) :
    Keeps calls places allowed held (addServer server) := by
  unfold Keeps addServer
  split
  · exact fun _ => ⟨hserver, fun _ => ⟨Finset.mem_insert_self _ _, fun _ =>
      Finset.erase_insert hserver⟩⟩
  · exact rfl

/-- A server that cannot be closed is the one way to keep the lock. -/
theorem keeps_closeServer
    (hserver : .serverMap ∉ held)
    (hplace : insert .serverMap held = places .serverNotClosed)
    (hnot : ¬ allowed .serverNotClosed)
    (id : UInt32) :
    Keeps calls places allowed held (closeServer id) := by
  have hfound : ∀ found, Code.Runs calls places allowed (fun _ last => last = held)
      (closeFound id found) (insert .serverMap held) := by
    intro found
    cases found with
    | none =>
        exact ⟨Finset.mem_insert_self _ _, Finset.erase_insert hserver⟩
    | some server =>
        cases hcloses : server.closes with
        | true =>
            simp only [closeFound, hcloses, if_true]
            exact fun _ _ => ⟨Finset.mem_insert_self _ _, Finset.erase_insert hserver⟩
        | false =>
            simp only [closeFound, hcloses, Bool.false_eq_true, if_false]
            exact fun _ => ⟨hplace, fun hallowed => absurd hallowed hnot⟩
  exact ⟨hserver, fun g => hfound _⟩

theorem keeps_closeServers (l : List UInt32) :
    Keeps calls places allowed held (closeServers l) := by
  induction l with
  | nil =>
      exact rfl
  | cons id rest ih =>
      exact fun _ => ih

theorem keeps_cloesAllServers (hserver : .serverMap ∉ held) :
    Keeps calls places allowed held cloesAllServers := by
  have hclosed : ∀ l, Code.Runs calls places allowed (fun _ last => last = held)
      (do
        closeServers l
        Code.release .serverMap : Locked Unit) (insert .serverMap held) := by
    intro l
    refine Code.runs_bind (Code.Runs.mono ?_ (keeps_closeServers l))
    rintro a last rfl
    exact ⟨Finset.mem_insert_self _ _, Finset.erase_insert hserver⟩
  exact ⟨hserver, fun g => hclosed _⟩

end Servers

/-! ## All invocations -/

/-- The locks an invocation holds while it calls the application. -/
def Invocation.calls : Invocation → Finset SpinLock
  | .blockerTimerStep => {.blockerList}
  | _ => ∅

/-- The locks a thread took before it gets to a place. -/
def Place.locks : Place → Finset SpinLock
  | .serverNotClosed => {.serverMap}
  | .blockMessage => ∅

/-- Where a place may be visited, inside of invocations that have called the
application: no server fails to close, and no callback of a request that timed out
sends a request. -/
def Place.allowed : Place → List Invocation → Prop
  | .serverNotClosed, _ => False
  | .blockMessage, inside => .blockerTimerStep ∉ inside

/-- Only the lock of the blocked requests is ever held in a callback. -/
theorem mem_locksInside {l : SpinLock} {inside : List Invocation} :
    l ∈ locksInside Invocation.calls inside ↔
      l = .blockerList ∧ .blockerTimerStep ∈ inside := by
  induction inside with
  | nil =>
      simp [locksInside]
  | cons op inside ih =>
      rw [locksInside, Finset.mem_union, ih]
      cases op with
      | blockerTimerStep =>
          simp only [Invocation.calls, Finset.mem_singleton, List.mem_cons, true_or, and_true,
            or_iff_left_iff_imp]
          exact fun h => h.1
      | _ =>
          simp [Invocation.calls]

theorem disciplined (cfg : Config) :
    (system cfg).Disciplined Invocation.calls Place.locks Place.allowed := by
  intro op inside hop
  have hreply : .replyList ∉ locksInside Invocation.calls inside := by
    simp [mem_locksInside]
  have hsession : .sessionMap ∉ locksInside Invocation.calls inside := by
    simp [mem_locksInside]
  have hserver : .serverMap ∉ locksInside Invocation.calls inside := by
    simp [mem_locksInside]
  have hblocker : Place.allowed .blockMessage inside →
      .blockerList ∉ locksInside Invocation.calls inside := by
    intro hallowed hin
    exact hallowed (mem_locksInside.mp hin).2
  have hcalls : locksInside Invocation.calls inside =
      ∅ ∪ locksInside Invocation.calls inside :=
    (Finset.empty_union _).symm
  -- only the application begins something inside of another invocation
  have hoff : op.callable = false → inside = [] := by
    intro hnot
    rcases hop with hnil | hcallable
    · exact hnil
    · exact absurd (hcallable.symm.trans hnot) (by decide)
  cases op with
  | addUnixDomainServer server =>
      exact Code.runs_bind (keeps_addServer hserver server)
  | addTcpServer server =>
      exact Code.runs_bind (keeps_addServer hserver server)
  | addTlsTcpServer server =>
      exact Code.runs_bind (keeps_addServer hserver server)
  | closeServer id =>
      exact Code.runs_bind (keeps_closeServer hserver (Finset.insert_eq _ _) (fun h => h) id)
  | cloesAllServers =>
      exact keeps_cloesAllServers hserver
  | startSession s sessionIdentifier =>
      exact (does_startSession hreply hsession hcalls s sessionIdentifier).discard.runs
  | sendStreamData s data replyExpected =>
      exact (does_sendStreamData hreply cfg s data replyExpected).discard.runs
  | sendNormalMessage s data =>
      exact (does_sendNormalMessage hreply cfg s data).discard.runs
  | sendRequest s data timeout =>
      exact (does_sendRequest hreply hcalls hblocker cfg s data timeout).discard.runs
  | sendResponse s data blockerId =>
      exact (does_sendResponse hreply cfg s data blockerId).discard.runs
  | sendHeartbeat s =>
      exact (does_sendHeartbeat hreply s).discard.runs
  | closeSession s replyExpected =>
      exact (does_closeSession hreply hsession hcalls s replyExpected).discard.runs
  | deleteSession s =>
      exact (does_destroySession hreply hsession hcalls s).runs
  | processMessage s recvBuffer =>
      have hnil := hoff rfl
      subst hnil
      exact (does_processMessage hreply hsession (Finset.notMem_empty _) hcalls cfg s
        recvBuffer).discard.runs
  | replyTimerStep =>
      exact (does_replyTimerStep hreply hcalls).runs
  | sendHeartBeats =>
      exact keeps_sendHeartBeats hreply hsession
  | blockerTimerStep =>
      have hnil := hoff rfl
      subst hnil
      exact (does_blockerTimerStep (Finset.notMem_empty _) rfl).runs

/-- The operation of a run that an invocation is, where it neither waits nor is about
servers. -/
def Invocation.operation : Invocation → Option Operation
  | .sendStreamData s data replyExpected => some (.stream s data replyExpected)
  | .sendNormalMessage s data => some (.normalMessage s data)
  | .sendResponse s data blockerId => some (.response s data blockerId)
  | .sendHeartbeat s => some (.heartbeat s)
  | .closeSession s replyExpected => some (.close s replyExpected)
  | .deleteSession s => some (.destroy s)
  | .processMessage s recvBuffer => some (.receive s recvBuffer)
  | .replyTimerStep => some .replyTimer
  | .blockerTimerStep => some .blockerTimer
  | _ => none

/-- Alone, an invocation does what its operation does in one step. -/
theorem solo_code
    (cfg : Config)
    {op : Invocation}
    {a : Operation}
    (h : op.operation = some a)
    (g : Shared) :
    (op.code cfg).solo g = ((), g.after (a.act cfg)) := by
  have hfree : ∀ l : SpinLock, l ∉ (∅ : Finset SpinLock) := Finset.notMem_empty
  let calls : Finset SpinLock := ∅
  let places : Place → Finset SpinLock := fun _ => ∅
  let allowed : Place → Prop := fun _ => True
  have halone : ∀ {c : Locked Unit} {x : Act Unit}, Does calls places allowed ∅ ∅ c x →
      c.solo g = ((), g.after x) := fun hdoes => hdoes.alone g
  cases op with
  | sendStreamData s data replyExpected =>
      cases h
      exact halone (does_sendStreamData (hfree _) cfg s data replyExpected).discard
  | sendNormalMessage s data =>
      cases h
      exact halone (does_sendNormalMessage (hfree _) cfg s data).discard
  | sendResponse s data blockerId =>
      cases h
      exact halone (does_sendResponse (hfree _) cfg s data blockerId).discard
  | sendHeartbeat s =>
      cases h
      exact halone (does_sendHeartbeat (hfree _) s).discard
  | closeSession s replyExpected =>
      cases h
      exact halone (does_closeSession (hfree _) (hfree _) rfl s replyExpected).discard
  | deleteSession s =>
      cases h
      exact halone (does_destroySession (hfree _) (hfree _) rfl s)
  | processMessage s recvBuffer =>
      cases h
      exact halone (does_processMessage (hfree _) (hfree _) (hfree _) rfl cfg s
        recvBuffer).discard
  | replyTimerStep =>
      cases h
      exact halone (does_replyTimerStep (hfree _) rfl)
  | blockerTimerStep =>
      cases h
      have hdoes : Does (insert .blockerList ∅) places allowed ∅ ∅ blockerTimerStep
          MessageBlockerHandler.makeTimerStep :=
        does_blockerTimerStep (hfree _) rfl
      exact hdoes.alone g
  | _ =>
      cases h

/-- In every run of any threads in which every server that is closed by its id closes,
and no error callback of a request that timed out sends a request, all locks are
balanced, and none is taken by a thread that holds it. -/
theorem locks_balanced
    {cfg : Config}
    {st : Threads SpinLock Shared Place Invocation}
    (hrun : (threads (system cfg)).Reaches (Visits Place.allowed) st) :
    st.Balanced :=
  balanced_of_reaches (disciplined cfg) hrun

/-- Behind a server that is not closed its lock is never released, and a request that is
sent in the callback of another's timeout waits for the lock of its own thread. -/
theorem not_balanced_of_visit
    {cfg : Config}
    {st st' : Threads SpinLock Shared Place Invocation}
    (hrun : (threads (system cfg)).Reaches (Visits Place.allowed) st)
    {t : Nat}
    {f : Frame SpinLock Shared Place Invocation}
    {below : List (Frame SpinLock Shared Place Invocation)}
    (hstack : st.stack t = f :: below)
    (hcode : f.code = .visit .serverNotClosed (.pure ()) ∨
      ∃ rest, f.code = .visit .blockMessage (.lock .blockerList rest) ∧
        .blockerTimerStep ∈ below.map Frame.op)
    (hstep : (threads (system cfg)).step st (.step t) = some st') :
    ¬ st'.Balanced := by
  intro hbalanced
  simp only [threads, hstack, Threads.exec] at hstep
  rcases hcode with hcode | ⟨rest, hcode, hinside⟩
  · obtain ⟨hentry, hheld⟩ := heldBy_of_visit (disciplined cfg) hrun hstack hcode
    rw [hcode] at hstep
    cases hstep
    have hend := hbalanced.released t { f with code := .pure () } below (by simp) rfl
    rw [Threads.heldBy_setStack, hheld] at hend
    have hserver : SpinLock.serverMap ∈ f.entry := by
      rw [← hend]
      exact Finset.mem_union_left _ (Finset.mem_singleton_self _)
    rw [hentry] at hserver
    exact absurd (mem_locksInside.mp hserver).1 (by decide)
  · obtain ⟨hentry, hheld⟩ := heldBy_of_visit (disciplined cfg) hrun hstack hcode
    rw [hcode] at hstep
    cases hstep
    have hblocker : SpinLock.blockerList ∈ st.heldBy t := by
      rw [hheld, hentry]
      exact Finset.mem_union_right _ (mem_locksInside.mpr ⟨rfl, hinside⟩)
    exact hbalanced.taken t { f with code := .lock .blockerList rest } below .blockerList rest
      (by simp) rfl (Threads.mem_heldBy.mp hblocker)

/-- A process without sessions and servers. -/
def idle : Threads SpinLock Shared Place Invocation where
  shared := { process := Process.created fun _ => none }

theorem init_idle (cfg : Config) : (threads (system cfg)).init idle :=
  ⟨⟨rfl, rfl, rfl, fun _ => ⟨_, rfl⟩, rfl, rfl, rfl⟩, rfl, rfl⟩

/-- A server that is never closed. -/
def stuckServer : Server where
  initResult := true
  closeResults := fun _ => false

/-- A thread has taken the lock of the servers. -/
theorem locks_balanced_closing :
    ∃ st, (threads (system Config.default)).exec idle [.start 0 (.closeServer 1), .step 0] =
        some st ∧
      st.holder .serverMap = some 0 ∧ st.Balanced := by
  have hbegun : (threads (system Config.default)).Reaches (Visits Place.allowed)
      (idle.push 0 (.closeServer 1) (Invocation.code Config.default (.closeServer 1))) :=
    .step (a := .start 0 (.closeServer 1)) (.init (init_idle _)) trivial rfl
  have hvisits : Visits Place.allowed
      (idle.push 0 (.closeServer 1) (Invocation.code Config.default (.closeServer 1)))
        (.step 0) := by
    intro f below v rest hstack hcode
    obtain ⟨rfl, _⟩ := List.cons.inj hstack
    cases hcode
  exact ⟨_, rfl, rfl, locks_balanced (hbegun.step hvisits rfl)⟩

/-- A server is added, and then it is not closed. -/
def closingMoves : List (Move Invocation) :=
  .start 0 (.addTcpServer stuckServer) :: List.replicate 6 (.step 0) ++
    .start 0 (.closeServer 1) :: List.replicate 5 (.step 0)

theorem exec_closingMoves :
    ∃ st, (threads (system Config.default)).exec idle closingMoves = some st ∧
      st.stack 0 = [] ∧ st.holder .serverMap = some 0 :=
  ⟨_, rfl, rfl, rfl⟩

/-- The lock of the servers is held by a thread that has returned. -/
theorem not_locks_balanced :
    ¬ ∀ (cfg : Config) (st : Threads SpinLock Shared Place Invocation),
      (threads (system cfg)).Reachable st → st.Balanced := by
  intro h
  obtain ⟨st, hexec, hstack, hholder⟩ := exec_closingMoves
  have hbalanced := h Config.default st (.of_exec (init_idle Config.default) hexec)
  have hheld : SpinLock.serverMap ∈ st.heldBy 0 := Threads.mem_heldBy.mpr hholder
  rw [hbalanced.idle 0 hstack] at hheld
  exact absurd hheld (Finset.notMem_empty _)

end Locked

end SakuraNetwork

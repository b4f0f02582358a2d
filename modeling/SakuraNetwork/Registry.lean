import SakuraNetwork.Runs

/-!
# The registry of sessions

`SessionHandler::m_sessions` maps ids to session objects.  Every operation removes
some ids, which it takes from a frame or from its session, and enters at most its
own session.

* `Operation.removedIds`: the ids an operation passes to `removeSession`.
* `others_kept_iff`: when the entries of other sessions stay.
* `registry_consistent`: entries and session ids agree along every run whose
  operations keep them so.
-/

namespace SakuraNetwork

open Lib

/-- The ids are removed, and nothing is entered but the session itself. -/
def Removes
    (s : SessionRef)
    (ids : List UInt32)
    (m m' : OrderedMap UInt32 SessionRef) : Prop :=
  ∀ id r, r ≠ s → (m'.find id = some r ↔ id ∉ ids ∧ m.find id = some r)

/-- The entries that map to other sessions are the same. -/
def KeepsOthers
    (s : SessionRef)
    (m m' : OrderedMap UInt32 SessionRef) : Prop :=
  ∀ id r, r ≠ s → (m'.find id = some r ↔ m.find id = some r)

namespace Removes

variable {s : SessionRef} {m m' m'' : OrderedMap UInt32 SessionRef} {ids ids' : List UInt32}

theorem refl (s : SessionRef) (m : OrderedMap UInt32 SessionRef) : Removes s [] m m := by
  intro id r _
  simp

theorem trans
    (h : Removes s ids m m')
    (h' : Removes s ids' m' m'') :
    Removes s (ids ++ ids') m m'' := by
  intro id r hr
  rw [h' id r hr, h id r hr, List.mem_append, not_or]
  constructor
  · rintro ⟨hid', hid, hfind⟩
    exact ⟨⟨hid, hid'⟩, hfind⟩
  · rintro ⟨⟨hid, hid'⟩, hfind⟩
    exact ⟨hid', hid, hfind⟩

theorem remove (s : SessionRef) (m : OrderedMap UInt32 SessionRef) (id : UInt32) :
    Removes s [id] m (m.remove id) := by
  intro j r _
  rw [OrderedMap.find_remove, List.mem_singleton]
  split
  · simp_all
  · simp_all

theorem emplace (s : SessionRef) (m : OrderedMap UInt32 SessionRef) (id : UInt32) :
    Removes s [] m (m.emplace id s) := by
  intro j r hr
  rw [OrderedMap.find_emplace]
  split
  · rename_i h
    obtain ⟨rfl, hnone⟩ := h
    rw [hnone]
    constructor
    · intro hs
      exact absurd (Option.some.inj hs).symm hr
    · rintro ⟨_, hfind⟩
      cases hfind
  · simp

theorem congr
    (h : Removes s ids m m')
    (hids : ∀ id, id ∈ ids ↔ id ∈ ids') :
    Removes s ids' m m' := by
  intro id r hr
  rw [← hids id]
  exact h id r hr

/-- The entries of other sessions stay exactly if none of the removed ids is
theirs. -/
theorem keepsOthers_iff (h : Removes s ids m m') :
    KeepsOthers s m m' ↔ ∀ id ∈ ids, ∀ r, m.find id = some r → r = s := by
  constructor
  · intro hkeeps id hid r hfind
    by_contra hr
    have hafter := (hkeeps id r hr).mpr hfind
    exact ((h id r hr).mp hafter).1 hid
  · intro hown id r hr
    rw [h id r hr]
    constructor
    · exact And.right
    · intro hfind
      exact ⟨fun hid => hr (hown id hid r hfind), hfind⟩

end Removes

/-! ## The ids an operation removes -/

/-- `endSession` on a ready session removes the id of the session. -/
def Life.stopIds (l : Life) : List UInt32 :=
  if l.state = .sessionReady then [l.sessionId] else []

/-- The ids a session message removes. -/
def SessionFrame.removedIds (l : Life) : SessionFrame → List UInt32
  | .initStart _ _ => []
  | .initReply initialId _ _ => [initialId]
  | .closeStart sessionId => sessionId :: l.stopIds
  | .closeReply sessionId => [sessionId]

/-- The ids that the processing of the front of a buffer removes. -/
def RingBuffer.removedIds (l : Life) (buf : RingBuffer) : List UInt32 :=
  match buf.obtained, buf.sessionFrame with
  | .falseProtocol, _ => l.stopIds
  | _, some f => f.removedIds l
  | _, none => []

/-- The ids an operation on a session removes: those in the fields of the frame,
and the id of the session where it is closed or destroyed. -/
def Operation.removedIds (p : Process) (s : SessionRef) : Operation → List UInt32
  | .start _ sessionIdentifier =>
      if sessionIdentifier.length > 64000 ∨ (p.session s).connectable then []
      else [(p.session s).sessionId]
  | .finishStart _ => if (p.session s).initState = -1 then [(p.session s).sessionId] else []
  | .receive _ buf => buf.removedIds (p.life s [])
  | .close _ replyExpected => if replyExpected then [] else (p.life s []).stopIds
  | .destroy _ => [(p.session s).sessionId]
  | _ => []

theorem Life.removes_stop (s : SessionRef) (l : Life) :
    Removes s l.stopIds l.sessions l.stop.sessions := by
  unfold Life.stop Life.stopIds
  split
  · exact Removes.remove s _ _
  · exact Removes.refl s _

theorem Life.sessions_connect (sessionId : UInt32) (l : Life) :
    (l.connect sessionId).sessions = l.sessions := by
  unfold Life.connect
  split <;> rfl

theorem Life.sessions_makeReady (sessionId : UInt32) (l : Life) :
    (l.makeReady sessionId).sessions = l.sessions := by
  unfold Life.makeReady
  split <;> rfl

theorem SessionFrame.removes (s : SessionRef) (l : Life) (f : SessionFrame) :
    Removes s (f.removedIds l) l.sessions (f.life s l).sessions := by
  cases f with
  | initStart clientSessionId sessionIdentifier =>
      simp only [removedIds, life, Life.sessions_makeReady, Life.sessions_connect]
      exact Removes.emplace s _ _
  | initReply initialId completeSessionId sessionIdentifier =>
      simp only [removedIds, life, Life.sessions_makeReady]
      exact (Removes.remove s _ initialId).trans (Removes.emplace s _ _)
  | closeStart sessionId =>
      exact (Removes.remove s _ sessionId).trans (Life.removes_stop s (l.remove sessionId))
  | closeReply sessionId =>
      exact Removes.remove s _ sessionId

theorem RingBuffer.removes (s : SessionRef) (l : Life) (buf : RingBuffer) :
    Removes s (buf.removedIds l) l.sessions (buf.life s l).sessions := by
  unfold RingBuffer.removedIds RingBuffer.life
  cases buf.obtained with
  | falseProtocol =>
      exact Life.removes_stop s l
  | _ =>
      cases buf.sessionFrame with
      | none =>
          exact Removes.refl s _
      | some f =>
          exact f.removes s l

/-- The destructor removes the id of the session, twice if the session is ready. -/
theorem Life.removes_destroy (s : SessionRef) (l : Life) :
    Removes s [l.sessionId] l.sessions l.destroy.sessions := by
  have hremoved := (Removes.remove s l.sessions l.sessionId).trans
    (Life.removes_stop s (l.remove l.sessionId))
  refine hremoved.congr fun id => ?_
  unfold stopIds remove
  by_cases hstate : l.state = .sessionReady
  · simp [hstate]
  · simp [hstate]

/-- A session that is stopped and destroyed is removed under its id. -/
theorem Life.removes_stop_destroy (s : SessionRef) (l : Life) :
    Removes s [l.sessionId] l.sessions l.stop.destroy.sessions := by
  have hremoved := (Life.removes_stop s l).trans (Life.removes_destroy s l.stop)
  refine hremoved.congr fun id => ?_
  unfold stopIds stop
  by_cases hstate : l.state = .sessionReady
  · simp [hstate]
  · simp [hstate]

/-- An operation removes its ids from the registry and enters nothing but its
session. -/
theorem Operation.removes
    (cfg : Config)
    {a : Operation}
    {s : SessionRef}
    (h : a.session = some s)
    (p : Process) :
    Removes s (a.removedIds p s) p.sessions ((a.act cfg).run p).process.sessions := by
  have hlife := a.life_act cfg h p []
  have hsessions : ((a.act cfg).run p).process.sessions = (a.life p s (p.life s [])).sessions :=
    congrArg Life.sessions hlife
  rw [hsessions]
  cases a with
  | start r sessionIdentifier =>
      simp only [removedIds, life]
      by_cases hlong : sessionIdentifier.length > 64000
      · simp only [hlong, true_or, if_true]
        exact Removes.refl s _
      · by_cases hconnectable : (p.session s).connectable = true
        · have hcond := (p.connectable_iff s []).mp hconnectable
          simp only [hlong, hconnectable, or_true, if_true, if_false, Life.start, if_pos hcond,
            Life.add, Life.sessions_connect]
          exact Removes.emplace s _ _
        · have hcond := (p.connectable_iff s []).not.mp hconnectable
          have hstart : (p.life s []).start s = (p.life s []).increase.stop := if_neg hcond
          rw [if_neg (not_or.mpr ⟨hlong, hconnectable⟩), if_neg hlong, if_neg hconnectable, hstart]
          exact Life.removes_stop_destroy s (p.life s []).increase
  | finishStart r =>
      simp only [removedIds, life]
      by_cases hfailed : (p.session s).initState = -1
      · simp only [hfailed, if_true]
        exact Life.removes_stop_destroy s (p.life s [])
      · simp only [hfailed, if_false]
        exact Removes.refl s _
  | receive r buf =>
      exact buf.removes s (p.life s [])
  | close r replyExpected =>
      cases replyExpected with
      | true =>
          exact Removes.refl s _
      | false =>
          exact Life.removes_stop s (p.life s [])
  | destroy r =>
      exact Life.removes_destroy s (p.life s [])
  | _ =>
      exact Removes.refl s _

/-- An operation on a session keeps the entries of all other sessions exactly if
none of the ids that it removes is registered for another session. -/
theorem others_kept_iff
    (cfg : Config)
    {a : Operation}
    {s : SessionRef}
    (h : a.session = some s)
    (p : Process) :
    KeepsOthers s p.sessions ((a.act cfg).run p).process.sessions ↔
      ∀ id ∈ a.removedIds p s, ∀ r, p.sessions.find id = some r → r = s :=
  (a.removes cfg h p).keepsOthers_iff

/-- Session 0 waits for its handshake, and session 1 is registered under the id 1. -/
def registeredProcess : Process :=
  { Process.created (fun _ => none) with sessions := OrderedMap.emplace ∅ 1 1 }

theorem find_registeredProcess (id : UInt32) :
    registeredProcess.sessions.find id = if id = 1 then some 1 else none := by
  simp [registeredProcess, OrderedMap.find_emplace]

/-- A session that never connected is destroyed. -/
theorem others_kept_iff_destroy :
    KeepsOthers 0 registeredProcess.sessions
        (((Operation.destroy 0).act Config.default).run registeredProcess).process.sessions ↔
      ∀ id ∈ (Operation.destroy 0).removedIds registeredProcess 0,
        ∀ r, registeredProcess.sessions.find id = some r → r = 0 :=
  others_kept_iff Config.default rfl registeredProcess

/-- A session message that is received changes the registry as its frame does. -/
theorem sessions_bufferOfMessage
    {m : Message}
    (hsize : m.body.Sendable Config.default)
    {f : SessionFrame}
    (hframe : m.body.sessionFrame = some f)
    (s : SessionRef)
    (p : Process) :
    ((processMessage Config.default s (bufferOfMessage m)).run p).process.sessions =
      (f.life s (p.life s [])).sessions := by
  have hlife := simulates_processMessage Config.default s (bufferOfMessage m) p []
  rw [life_bufferOfMessage hsize, hframe] at hlife
  exact congrArg Life.sessions hlife

/-- An init reply with the id of another session unregisters that session. -/
theorem not_others_kept :
    ¬ ∀ (p : Process) (s : SessionRef) (buf : RingBuffer),
      KeepsOthers s p.sessions ((processMessage Config.default s buf).run p).process.sessions := by
  intro hall
  have hsize : Body.Sendable Config.default (.sessionInitReply 1 2 []) := by
    simp [Body.Sendable]
  have hkept := hall registeredProcess 0 (bufferOfMessage ⟨1, 1, .sessionInitReply 1 2 []⟩)
  rw [sessions_bufferOfMessage hsize rfl] at hkept
  have hone := (hkept 1 1 (by decide)).mpr (by simp [find_registeredProcess])
  simp [SessionFrame.life, Life.sessions_makeReady, Life.add, Life.remove, Process.life,
    OrderedMap.find_emplace, OrderedMap.find_remove] at hone

/-! ## The registry and the ids of the sessions -/

/-- The session is registered under no id but its own, and if it is ready it is
registered. -/
structure Life.Recorded (s : SessionRef) (l : Life) : Prop where
  own : ∀ id, l.sessions.find id = some s → l.sessionId = id
  ready : l.state = .sessionReady → l.sessions.find l.sessionId = some s

/-- The session becomes ready when it receives an init start message. -/
def Life.Opens (l : Life) : Prop :=
  l.state = .notConnected ∧ l.connects = true ∨ l.state = .sessionNotReady

instance (l : Life) : Decidable l.Opens :=
  inferInstanceAs (Decidable (l.state = .notConnected ∧ l.connects = true ∨
    l.state = .sessionNotReady))

/-- A session message keeps the record of its session right. -/
def SessionFrame.KeepsRecord (s : SessionRef) (l : Life) : SessionFrame → Prop
  | .initStart clientSessionId _ =>
      let sessionId := completeSessionId clientSessionId (l.sessionIdCounter + 1)
      -- the session moves to the new id, or the new id is not entered
      if l.Opens then
        (∀ r, l.sessions.find sessionId = some r → r = s) ∧
          (l.sessions.find l.sessionId = some s → l.sessionId = sessionId)
      else l.sessions.find sessionId = none → l.sessionId = sessionId
  | .initReply initialId completeSessionId _ =>
      if l.state = .sessionNotReady then
        (∀ r, l.sessions.find completeSessionId = some r → r = s ∨ completeSessionId = initialId) ∧
          (l.sessions.find l.sessionId = some s →
            l.sessionId = initialId ∨ l.sessionId = completeSessionId)
      else
        (l.state = .sessionReady → l.sessionId = initialId → l.sessionId = completeSessionId) ∧
          ((l.remove initialId).sessions.find completeSessionId = none →
            l.sessionId = completeSessionId)
  | .closeStart _ | .closeReply _ => True

/-- The entries of a session after it was entered under an id. -/
theorem entries_emplace_iff
    (s : SessionRef)
    (m : OrderedMap UInt32 SessionRef)
    (id : UInt32)
    (P : UInt32 → Prop) :
    (∀ j, (m.emplace id s).find j = some s → P j) ↔
      (m.find id = none → P id) ∧ ∀ j, m.find j = some s → P j := by
  constructor
  · intro h
    refine ⟨fun hnone => h id ?_, fun j hj => h j ?_⟩
    · simp [OrderedMap.find_emplace, hnone]
    · rw [OrderedMap.find_emplace]
      split
      · rfl
      · exact hj
  · rintro ⟨hnew, hold⟩ j hj
    rw [OrderedMap.find_emplace] at hj
    split at hj
    · rename_i hcond
      obtain ⟨rfl, hnone⟩ := hcond
      exact hnew hnone
    · exact hold j hj

theorem entries_remove_iff
    (s : SessionRef)
    (m : OrderedMap UInt32 SessionRef)
    (id : UInt32)
    (P : UInt32 → Prop) :
    (∀ j, (m.remove id).find j = some s → P j) ↔ ∀ j, m.find j = some s → j ≠ id → P j := by
  constructor
  · intro h j hj hne
    exact h j (by rw [OrderedMap.find_remove, if_neg hne]; exact hj)
  · intro h j hj
    rw [OrderedMap.find_remove] at hj
    split at hj
    · cases hj
    · rename_i hne
      exact h j hj hne

/-- The session is found under an id it was entered under, if no other session
is. -/
theorem find_emplace_self_iff
    (s : SessionRef)
    (m : OrderedMap UInt32 SessionRef)
    (id : UInt32) :
    (m.emplace id s).find id = some s ↔ ∀ r, m.find id = some r → r = s := by
  rw [OrderedMap.find_emplace]
  cases hfind : m.find id with
  | none =>
      simp
  | some r =>
      simp

/-- What holds of the only entry of a recorded session holds of all of them. -/
theorem Life.Recorded.entries_iff
    {s : SessionRef}
    {l : Life}
    (h : l.Recorded s)
    (P : UInt32 → Prop) :
    (∀ j, l.sessions.find j = some s → P j) ↔
      (l.sessions.find l.sessionId = some s → P l.sessionId) := by
  constructor
  · exact fun hall => hall l.sessionId
  · intro hone j hj
    have hid := h.own j hj
    subst hid
    exact hone hj

/-- A session that is not ready may lose entries. -/
theorem Life.Recorded.leave
    {s : SessionRef}
    {l l' : Life}
    (h : l.Recorded s)
    (hid : l'.sessionId = l.sessionId)
    (hsub : ∀ id, l'.sessions.find id = some s → l.sessions.find id = some s)
    (hstate : l'.state ≠ .sessionReady) :
    l'.Recorded s where
  own := by
    intro id hfind
    rw [hid]
    exact h.own id (hsub id hfind)
  ready := fun hready => absurd hready hstate

/-- A session may lose entries when it is stopped. -/
theorem Life.Recorded.leave_stop
    {s : SessionRef}
    {l l' : Life}
    (h : l.Recorded s)
    (hid : l'.sessionId = l.sessionId)
    (hsub : ∀ id, l'.sessions.find id = some s → l.sessions.find id = some s) :
    l'.stop.Recorded s := by
  by_cases hready : l'.state = .sessionReady
  · have hstop : l'.stop =
        { l' with
          state := .notConnected
          sessions := l'.sessions.remove l'.sessionId
          closed := l'.closed + 1 } := if_pos hready
    rw [hstop]
    exact h.leave hid (fun id hfind => hsub id (OrderedMap.find_of_find_remove hfind))
      SessionState.noConfusion
  · have hstop : l'.stop = l' := if_neg hready
    rw [hstop]
    exact h.leave hid hsub hready

theorem Life.Opens.makeReady_connect
    {l : Life}
    (h : l.Opens)
    (sessionId : UInt32) :
    (l.connect sessionId).makeReady sessionId =
      { l with state := .sessionReady, sessionId := sessionId, created := l.created + 1 } := by
  rcases h with hnew | hwaiting
  · simp [connect, makeReady, hnew]
  · simp [connect, makeReady, hwaiting]

theorem Life.makeReady_connect_of_not_opens
    {l : Life}
    (h : ¬ l.Opens)
    (sessionId : UInt32) :
    (l.connect sessionId).makeReady sessionId = l := by
  have hboth := not_or.mp h
  have hconnect : l.connect sessionId = l := if_neg hboth.1
  rw [hconnect]
  exact if_neg hboth.2

/-- The condition on session messages is the exact one. -/
theorem SessionFrame.recorded_iff
    {s : SessionRef}
    {l : Life}
    (h : l.Recorded s)
    (f : SessionFrame) :
    (f.life s l).Recorded s ↔ f.KeepsRecord s l := by
  have hrecorded : ∀ l' : Life, l'.Recorded s ↔
      (∀ id, l'.sessions.find id = some s → l'.sessionId = id) ∧
        (l'.state = .sessionReady → l'.sessions.find l'.sessionId = some s) :=
    fun l' => ⟨fun hl => ⟨hl.own, hl.ready⟩, fun hl => ⟨hl.1, hl.2⟩⟩
  rw [hrecorded]
  cases f with
  | initStart clientSessionId sessionIdentifier =>
      simp only [life, KeepsRecord]
      generalize completeSessionId clientSessionId (l.sessionIdCounter + 1) = sessionId
      by_cases hopens : l.Opens
      · have hlater : (l.increase.add sessionId s).Opens := hopens
        rw [if_pos hopens, hlater.makeReady_connect]
        simp only [Life.add, Life.increase, entries_emplace_iff, h.entries_iff,
          find_emplace_self_iff, forall_const]
        constructor
        · rintro ⟨⟨_, hold⟩, hfound⟩
          exact ⟨hfound, fun hin => (hold hin).symm⟩
        · rintro ⟨hfound, hold⟩
          exact ⟨⟨fun _ => trivial, fun hin => (hold hin).symm⟩, hfound⟩
      · have hlater : ¬ (l.increase.add sessionId s).Opens := hopens
        rw [if_neg hopens, Life.makeReady_connect_of_not_opens hlater]
        simp only [Life.add, Life.increase, entries_emplace_iff, h.entries_iff, implies_true,
          and_true]
        constructor
        · rintro ⟨hnew, _⟩
          exact hnew
        · intro hnew
          refine ⟨hnew, fun hready => ?_⟩
          have hfind := h.ready hready
          simp [OrderedMap.find_emplace, hfind]
  | initReply initialId fullSessionId sessionIdentifier =>
      simp only [life, KeepsRecord, Life.makeReady]
      by_cases hwaiting : l.state = .sessionNotReady
      · have hlater : ((l.remove initialId).add fullSessionId s).state = .sessionNotReady :=
          hwaiting
        rw [if_pos hwaiting, if_pos hlater]
        simp only [Life.add, Life.remove, forall_const]
        rw [entries_emplace_iff, entries_remove_iff, find_emplace_self_iff,
          h.entries_iff (fun j => j ≠ initialId → fullSessionId = j)]
        have htaken : (∀ r, (l.sessions.remove initialId).find fullSessionId = some r → r = s) ↔
            ∀ r, l.sessions.find fullSessionId = some r → r = s ∨ fullSessionId = initialId := by
          rw [OrderedMap.find_remove]
          split
          · simp [*]
          · simp [*]
        rw [htaken]
        constructor
        · rintro ⟨⟨_, hold⟩, hfound⟩
          refine ⟨hfound, fun hin => ?_⟩
          by_contra hneither
          obtain ⟨hinitial, hfull⟩ := not_or.mp hneither
          exact hfull (hold hin hinitial).symm
        · rintro ⟨hfound, hold⟩
          refine ⟨⟨fun _ => rfl, fun hin hinitial => ?_⟩, hfound⟩
          exact ((hold hin).resolve_left hinitial).symm
      · have hlater : ¬ ((l.remove initialId).add fullSessionId s).state = .sessionNotReady :=
          hwaiting
        rw [if_neg hwaiting, if_neg hlater]
        simp only [Life.add, Life.remove]
        rw [entries_emplace_iff, entries_remove_iff]
        constructor
        · rintro ⟨⟨hnew, _⟩, hfound⟩
          refine ⟨fun hready hinitial => ?_, hnew⟩
          have hfind := hfound hready
          rw [OrderedMap.find_emplace] at hfind
          split at hfind
          · rename_i hcond
            exact hcond.1
          · rw [OrderedMap.find_remove, if_pos hinitial] at hfind
            cases hfind
        · rintro ⟨hready, hnew⟩
          refine ⟨⟨hnew, fun j hj _ => h.own j hj⟩, fun hstate => ?_⟩
          rw [OrderedMap.find_emplace]
          split
          · rfl
          · rename_i hcond
            have hinitial : l.sessionId ≠ initialId := by
              intro hinitial
              have hfull := hready hstate hinitial
              refine hcond ⟨hfull, ?_⟩
              rw [OrderedMap.find_remove, if_pos (hfull.symm.trans hinitial)]
            rw [OrderedMap.find_remove, if_neg hinitial]
            exact h.ready hstate
  | closeStart sessionId =>
      rw [← hrecorded]
      exact iff_of_true (h.leave_stop (l := l) rfl
        fun _ => OrderedMap.find_of_find_remove) trivial
  | closeReply sessionId =>
      rw [← hrecorded]
      exact iff_of_true (h.leave rfl (fun _ => OrderedMap.find_of_find_remove)
        SessionState.noConfusion) trivial

/-- The front of a buffer keeps the record of its session right. -/
def RingBuffer.KeepsRecord (s : SessionRef) (l : Life) (buf : RingBuffer) : Prop :=
  match buf.sessionFrame with
  | none => True
  | some f => f.KeepsRecord s l

/-- Buffers without a complete frame have no session message. -/
theorem RingBuffer.recorded
    {s : SessionRef}
    {l : Life}
    (h : l.Recorded s)
    {buf : RingBuffer}
    (hkeeps : buf.KeepsRecord s l) :
    (buf.life s l).Recorded s := by
  unfold RingBuffer.life
  unfold RingBuffer.KeepsRecord at hkeeps
  cases buf.obtained with
  | falseProtocol =>
      have hstop : l.stop.Recorded s := h.leave_stop rfl fun _ => id
      exact hstop
  | _ =>
      cases hframe : buf.sessionFrame with
      | none =>
          exact h
      | some f =>
          rw [hframe] at hkeeps
          exact (f.recorded_iff h).mpr hkeeps

/-! ## Runs -/

/-- The condition under which an operation keeps the registry right: it removes
the id of no other session that is ready, and a frame keeps the record of its own
session. -/
def Operation.KeepsRegistry (p : Process) (a : Operation) : Prop :=
  (∀ s, a.session = some s → ∀ r, r ≠ s → (p.session r).statemachine = .sessionReady →
    (p.session r).sessionId ∉ a.removedIds p s) ∧
  ∀ s buf, a = .receive s buf → buf.KeepsRecord s (p.life s [])

/-- Every session is recorded; a session object that does not exist yet is not
registered. -/
structure RegistryInvariant (st : System) : Prop where
  recorded : ∀ s, (st.process.life s []).Recorded s
  fresh : ∀ s, st.stage s = .fresh →
    (st.process.session s).statemachine = .notConnected ∧
      ∀ id, st.process.sessions.find id ≠ some s

theorem registryInvariant_of_init
    {cfg : Config}
    {st : System}
    (h : (library cfg).init st) :
    RegistryInvariant st := by
  obtain ⟨hsessions, _, _, hcreated, _, _⟩ := h
  have hnone : ∀ id, st.process.sessions.find id = none := by
    intro id
    rw [hsessions, OrderedMap.find_empty]
  have hstate : ∀ s, (st.process.session s).statemachine = .notConnected := by
    intro s
    obtain ⟨k, hk⟩ := hcreated s
    rw [hk]
    rfl
  constructor
  · intro s
    constructor
    · intro id hfind
      exact absurd ((hnone id).symm.trans hfind) (Option.some_ne_none s).symm
    · intro hready
      exact absurd ((hstate s).symm.trans hready) SessionState.noConfusion
  · intro s _
    refine ⟨hstate s, fun id hfind => ?_⟩
    exact absurd ((hnone id).symm.trans hfind) (Option.some_ne_none s).symm

/-- The first operation of a session object leaves it recorded. -/
theorem Life.Recorded.start
    {s : SessionRef}
    {l : Life}
    (h : l.Recorded s)
    (hstate : l.state = .notConnected)
    (hfresh : ∀ id, l.sessions.find id ≠ some s) :
    (l.start s).Recorded s := by
  unfold Life.start
  split
  · rename_i hcond
    constructor
    · intro id hfind
      simp only [add, sessions_connect, increase] at hfind
      rw [OrderedMap.find_emplace] at hfind
      split at hfind
      · rename_i hid
        simp [add, connect, increase, hcond, hid.1]
      · exact absurd hfind (hfresh id)
    · simp [add, connect, increase, hcond]
  · have hstop : l.increase.stop = l.increase := by
      refine if_neg ?_
      simp [increase, hstate]
    rw [hstop]
    exact ⟨h.own, h.ready⟩

theorem Life.Recorded.destroy
    {s : SessionRef}
    {l l' : Life}
    (h : l.Recorded s)
    (hid : l'.sessionId = l.sessionId)
    (hsub : ∀ id, l'.sessions.find id = some s → l.sessions.find id = some s) :
    l'.destroy.Recorded s := by
  have hstop : (l'.remove l'.sessionId).stop.Recorded s :=
    h.leave_stop hid fun id hfind => hsub id (OrderedMap.find_of_find_remove hfind)
  exact ⟨hstop.own, hstop.ready⟩

/-- An operation leaves its own session recorded. -/
theorem Operation.recorded
    {st : System}
    {a : Operation}
    {s : SessionRef}
    (hinv : RegistryInvariant st)
    (henabled : a.enabled st = true)
    (hkeeps : a.KeepsRegistry st.process)
    (h : a.session = some s) :
    (a.life st.process s (st.process.life s [])).Recorded s := by
  have hrecorded := hinv.recorded s
  have hstop : (st.process.life s []).stop.Recorded s := hrecorded.leave_stop rfl fun _ => id
  cases a with
  | start r sessionIdentifier =>
      cases h
      obtain ⟨hstate, hfresh⟩ := hinv.fresh s (of_decide_eq_true henabled)
      have hstart : ((st.process.life s []).start s).Recorded s := hrecorded.start hstate hfresh
      simp only [life]
      split
      · exact hrecorded
      · split
        · exact hstart
        · exact hstart.destroy rfl fun _ => id
  | finishStart r =>
      cases h
      simp only [life]
      split
      · exact hstop.destroy rfl fun _ => id
      · exact hrecorded
  | receive r buf =>
      cases h
      exact RingBuffer.recorded hrecorded (hkeeps.2 s buf rfl)
  | close r replyExpected =>
      cases replyExpected with
      | true =>
          exact hrecorded
      | false =>
          exact hstop
  | destroy r =>
      exact hrecorded.destroy rfl fun _ => id
  | _ =>
      exact hrecorded

/-- An operation leaves other sessions recorded, if it does not remove their id while
they are ready. -/
theorem Operation.recorded_other
    (cfg : Config)
    {p : Process}
    {a : Operation}
    {s r : SessionRef}
    (hrecorded : (p.life r []).Recorded r)
    (h : a.session = some s)
    (hne : r ≠ s)
    (hkeeps : (p.session r).statemachine = .sessionReady →
      (p.session r).sessionId ∉ a.removedIds p s) :
    (((a.act cfg).run p).process.life r []).Recorded r := by
  have hforeign := a.foreign_act cfg (s := r) (by rw [h]; simpa using hne.symm) p []
  have hremoves := a.removes cfg h p
  constructor
  · intro id hfind
    have hbefore := ((hremoves id r hne).mp hfind).2
    exact hforeign.sessionId.trans (hrecorded.own id hbefore)
  · intro hready
    have hbefore : (p.life r []).state = .sessionReady := hforeign.state.symm.trans hready
    have hid : (((a.act cfg).run p).process.life r []).sessionId = (p.session r).sessionId :=
      hforeign.sessionId
    rw [hid]
    exact (hremoves _ r hne).mpr ⟨hkeeps hbefore, hrecorded.ready hbefore⟩

/-- Every operation keeps the invariant, under its condition. -/
theorem registryInvariant_step
    {cfg : Config}
    {st st' : System}
    {a : Operation}
    (hinv : RegistryInvariant st)
    (hkeeps : a.KeepsRegistry st.process)
    (hstep : (library cfg).step st a = some st') :
    RegistryInvariant st' := by
  obtain ⟨henabled, rfl⟩ := library_step_cases hstep
  cases hsession : a.session with
  | none =>
      have hquiet : ∀ r, (st.after cfg a).process.life r ([] ++ _) = st.process.life r [] :=
        fun r => a.quiet_act cfg hsession r st.process []
      have hstage : ∀ r, (st.after cfg a).stage r = st.stage r := by
        intro r
        exact System.stage_after_other cfg st (by simp [hsession])
      constructor
      · intro r
        have hrecorded := hinv.recorded r
        rw [← hquiet r] at hrecorded
        exact ⟨hrecorded.own, hrecorded.ready⟩
      · intro r hfresh
        obtain ⟨hstate, hfind⟩ := hinv.fresh r ((hstage r).symm.trans hfresh)
        refine ⟨(congrArg Life.state (hquiet r)).trans hstate, fun id => ?_⟩
        have hsessions : (st.after cfg a).process.sessions = st.process.sessions :=
          congrArg Life.sessions (hquiet r)
        rw [hsessions]
        exact hfind id
  | some s =>
      have hlife := a.life_act cfg hsession st.process []
      constructor
      · intro r
        by_cases hr : r = s
        · subst hr
          have hrecorded := a.recorded hinv henabled hkeeps hsession
          rw [← hlife] at hrecorded
          exact ⟨hrecorded.own, hrecorded.ready⟩
        · exact a.recorded_other cfg (hinv.recorded r) hsession hr (hkeeps.1 s hsession r hr)
      · intro r hfresh
        by_cases hr : r = s
        · subst hr
          have hnext : a.nextStage st.process (st.stage r) = .fresh := by
            rw [← System.stage_after_self cfg st hsession]
            exact hfresh
          obtain ⟨hbefore, hsame⟩ := a.life_of_fresh henabled hsession hnext
          obtain ⟨hstate, hfind⟩ := hinv.fresh r hbefore
          rw [hsame] at hlife
          refine ⟨(congrArg Life.state hlife).trans hstate, fun id => ?_⟩
          have hsessions : (st.after cfg a).process.sessions = st.process.sessions :=
            congrArg Life.sessions hlife
          rw [hsessions]
          exact hfind id
        · have hstage : (st.after cfg a).stage r = st.stage r :=
            System.stage_after_other cfg st (by simp [hsession, Ne.symm hr])
          obtain ⟨hstate, hfind⟩ := hinv.fresh r (hstage.symm.trans hfresh)
          have hforeign := a.foreign_act cfg (s := r) (by rw [hsession]; simpa using Ne.symm hr)
            st.process []
          refine ⟨hforeign.state.trans hstate, fun id hin => ?_⟩
          exact hfind id ((a.removes cfg hsession st.process id r hr).mp hin).2

/-- In every run whose operations keep the registry right, every entry has the id of
its session, no session is entered twice, and every ready session is registered under
its id. -/
theorem registry_consistent
    {cfg : Config}
    {st : System}
    (h : (library cfg).Reaches (fun st a => a.KeepsRegistry st.process) st) :
    (∀ id s, st.process.sessions.find id = some s → (st.process.session s).sessionId = id) ∧
      (∀ id id' s, st.process.sessions.find id = some s → st.process.sessions.find id' = some s →
        id = id') ∧
      ∀ s, (st.process.session s).statemachine = .sessionReady →
        st.process.sessions.find (st.process.session s).sessionId = some s := by
  have hinv : RegistryInvariant st := by
    refine h.invariant (fun _ => registryInvariant_of_init) ?_
    intro st a st' hst hkeeps hstep
    exact registryInvariant_step hst hkeeps hstep
  refine ⟨?_, ?_, ?_⟩
  · intro id s hfind
    exact (hinv.recorded s).own id hfind
  · intro id id' s hfind hfind'
    have hid := (hinv.recorded s).own id hfind
    have hid' := (hinv.recorded s).own id' hfind'
    exact hid.symm.trans hid'
  · intro s hready
    exact (hinv.recorded s).ready hready

theorem openedSystem_keepsRegistry :
    (library Config.default).Reaches (fun st a => a.KeepsRegistry st.process) openedSystem := by
  have hsize : Body.Sendable Config.default (.sessionInitStart 1 []) := by
    simp [Body.Sendable]
  have haccept : (Operation.accept 0).KeepsRegistry initialSystem.process := by
    refine ⟨?_, ?_⟩
    · intro s _ r _ hready
      cases hready
    · intro s buf heq
      cases heq
  have hreceive : (Operation.receive 0
      (bufferOfMessage ⟨1, 1, .sessionInitStart 1 []⟩)).KeepsRegistry acceptedSystem.process := by
    refine ⟨?_, ?_⟩
    · intro s _ r _ hready
      cases hready
    · intro s buf heq
      cases heq
      rw [RingBuffer.KeepsRecord, sessionFrame_bufferOfMessage hsize]
      simp [Body.sessionFrame, SessionFrame.KeepsRecord, Life.Opens, Process.life, acceptedSystem,
        initialSystem, System.after, Operation.act, Process.created, Session.create, workingSocket]
  exact .step (.step (.init (init_initialSystem _)) haccept step_acceptedSystem) hreceive
    step_openedSystem

/-- A server session that became ready. -/
theorem registry_consistent_opened :
    (∀ id s, openedSystem.process.sessions.find id = some s →
        (openedSystem.process.session s).sessionId = id) ∧
      (∀ id id' s, openedSystem.process.sessions.find id = some s →
        openedSystem.process.sessions.find id' = some s → id = id') ∧
      ∀ s, (openedSystem.process.session s).statemachine = .sessionReady →
        openedSystem.process.sessions.find (openedSystem.process.session s).sessionId = some s :=
  registry_consistent openedSystem_keepsRegistry

/-- A second init start message enters the session under a second id; with a single
session in the process, no two sessions have the same id. -/
theorem not_registry_consistent :
    ¬ ∀ st, (library Config.default).Reachable st → (∀ s, st.stage s ≠ .fresh → s = 0) →
      (∀ id s, st.process.sessions.find id = some s → (st.process.session s).sessionId = id) ∧
        (∀ id id' s, st.process.sessions.find id = some s →
          st.process.sessions.find id' = some s → id = id') ∧
        ∀ s, (st.process.session s).statemachine = .sessionReady →
          st.process.sessions.find (st.process.session s).sessionId = some s := by
  intro hall
  have hsize : Body.Sendable Config.default (.sessionInitStart 1 []) := by
    simp [Body.Sendable]
  have hid : completeSessionId 1 2 = 131073 := by decide
  have henabled : (Operation.receive 0
      (bufferOfMessage ⟨1, 2, .sessionInitStart 1 []⟩)).enabled openedSystem = true := rfl
  have hreach := TransitionSystem.Reaches.step openedSystem_keepsRegistry.reachable trivial
    (library_step henabled)
  have honly : ∀ s, (openedSystem.after Config.default
      (.receive 0 (bufferOfMessage ⟨1, 2, .sessionInitStart 1 []⟩))).stage s ≠ .fresh → s = 0 := by
    intro s hs
    by_cases hself : s = 0
    · exact hself
    · rw [System.stage_after_other] at hs
      · exact openedSystem_only hs
      · exact fun heq => hself (Option.some.inj heq).symm
  obtain ⟨_, hunique, _⟩ := hall _ hreach honly
  have hfirst := hunique 65537 131073 0
  rw [System.sessions_after_receive openedSystem 0 hsize rfl, life_openedSystem] at hfirst
  simp [SessionFrame.life, Life.sessions_makeReady, Life.sessions_connect, Life.add, Life.increase,
    hid, OrderedMap.find_emplace] at hfirst

end SakuraNetwork

import SakuraNetwork.ClosedSessions

/-!
# References to destroyed sessions

The registry, the list of pending replies and the list of blocked requests hold
pointers to session objects.  The destructor removes one entry of the registry, and
closes the session if it is still ready; it removes nothing from the two lists.

* `Process.Refers`: some table holds a pointer to the session.
* `refers_destroys_iff`: what the destruction of a session leaves.
* `no_dangling`: no table refers to a destroyed session, along the runs that destroy
  only sessions whose messages are answered and whose requests are over.
-/

namespace SakuraNetwork

open Lib

/-- A table holds a pointer to the session. -/
def Process.Refers (p : Process) (s : SessionRef) : Prop :=
  (∃ id, p.sessions.find id = some s) ∨ (∃ m ∈ p.replyList, m.session = s) ∨
    ∃ b ∈ p.blockerList, b.session = s

/-- A table holds a pointer to the session, apart from the registry under the id of
the session. -/
def Process.RefersElse (p : Process) (s : SessionRef) : Prop :=
  (∃ id, id ≠ (p.session s).sessionId ∧ p.sessions.find id = some s) ∨
    (∃ m ∈ p.replyList, m.session = s) ∨ ∃ b ∈ p.blockerList, b.session = s

/-! ## The list of blocked requests -/

namespace MessageBlockerHandler

theorem exists_of_mem_storeResponse
    {id : UInt64}
    {data : Option Bytes}
    {l : List MessageBlocker}
    {b : MessageBlocker}
    (h : b ∈ storeResponse id data l) :
    ∃ b' ∈ l, b'.session = b.session := by
  induction l with
  | nil =>
      cases h
  | cons b' bs ih =>
      rw [storeResponse] at h
      split at h
      · rcases List.mem_cons.mp h with rfl | hbs
        · exact ⟨b', List.mem_cons_self, rfl⟩
        · exact ⟨b, List.mem_cons_of_mem _ hbs, rfl⟩
      · rcases List.mem_cons.mp h with rfl | hbs
        · exact ⟨b, List.mem_cons_self, rfl⟩
        · obtain ⟨b'', hb'', hs⟩ := ih hbs
          exact ⟨b'', List.mem_cons_of_mem _ hb'', hs⟩

/-- A timer step leaves entries of the same sessions. -/
theorem exists_of_mem_makeTimerStepFrom
    (fuel i : Nat)
    {p : Process}
    {b : MessageBlocker}
    (h : b ∈ ((makeTimerStepFrom fuel i).run p).process.blockerList) :
    ∃ b' ∈ p.blockerList, b'.session = b.session := by
  induction fuel generalizing i p with
  | zero =>
      exact ⟨b, h, rfl⟩
  | succ fuel ih =>
      rw [makeTimerStepFrom_process] at h
      cases hi : p.blockerList[i]? with
      | none =>
          rw [hi] at h
          exact ⟨b, h, rfl⟩
      | some e =>
          rw [hi] at h
          obtain ⟨b', hb', hs⟩ := ih (i + 1) h
          have hset : ∀ x ∈ p.blockerList.set i { e with timer := e.timer - 1 },
              ∃ x' ∈ p.blockerList, x'.session = x.session := by
            intro x hx
            rcases List.mem_or_eq_of_mem_set hx with hold | rfl
            · exact ⟨x, hold, rfl⟩
            · exact ⟨e, List.mem_of_getElem? hi, rfl⟩
          simp only [expire] at hb'
          split at hb'
          · obtain ⟨b'', hb'', hs'⟩ := exists_of_mem_storeResponse hb'
            obtain ⟨x, hx, hs''⟩ := hset b'' (mem_of_mem_withoutFirst hb'')
            exact ⟨x, hx, hs''.trans (hs'.trans hs)⟩
          · obtain ⟨x, hx, hs'⟩ := hset b' hb'
            exact ⟨x, hx, hs'.trans hs⟩

end MessageBlockerHandler

/-- Blocked requests are only added for sessions with property `P`. -/
def blocks (P : SessionRef → Prop) : Effect where
  rel := fun p _ p' => ∀ b ∈ p'.blockerList, P b.session ∨ ∃ b' ∈ p.blockerList,
    b'.session = b.session
  refl := fun p b hb => Or.inr ⟨b, hb, rfl⟩
  trans := by
    intro p q r o o' h h' b hb
    rcases h' b hb with hP | ⟨b', hb', hs⟩
    · exact Or.inl hP
    · rw [← hs]
      exact h b' hb'

theorem blocks_of_eq
    {P : SessionRef → Prop}
    {p p' : Process}
    (outs : List Output)
    (h : p'.blockerList = p.blockerList) :
    (blocks P).rel p outs p' := by
  intro b hb
  rw [h] at hb
  exact Or.inr ⟨b, hb, rfl⟩

theorem blocks_data (P : SessionRef → Prop) (s : SessionRef) :
    AdmitsData (blocks P) s True (fun _ => True) := by
  constructor
  · intro p p' outs hframe _
    exact blocks_of_eq outs hframe.blockerList
  · intro _ p l
    exact blocks_of_eq _ rfl
  · intro _ p f
    exact blocks_of_eq _ rfl
  · intro p
    exact blocks_of_eq _ rfl
  · intro p data _
    exact blocks_of_eq _ rfl
  · intro p id data _
    exact blocks_of_eq _ rfl
  · intro p code text _
    exact blocks_of_eq _ rfl
  · intro p id data _ b hb
    exact Or.inr (MessageBlockerHandler.exists_of_mem_storeResponse hb)

theorem blocks_session (P : SessionRef → Prop) (s : SessionRef) : AdmitsSession (blocks P) s := by
  constructor
  · intro p c
    exact blocks_of_eq _ rfl
  · intro p id
    exact blocks_of_eq _ rfl
  · intro p id
    exact blocks_of_eq _ rfl
  · intro p f _ _
    exact blocks_of_eq _ rfl
  · intro p sessionId identifier
    exact blocks_of_eq _ rfl
  · intro p identifier
    exact blocks_of_eq _ rfl

theorem blocks_tables
    (cfg : Config)
    (P : SessionRef → Prop)
    {a : Operation}
    (h : a.session = none) :
    (a.act cfg).Within (blocks P) := by
  intro p b hb
  cases a with
  | wake blockerId =>
      have hact : (((Operation.wake blockerId).act cfg).run p).process =
          ((MessageBlockerHandler.removeMessageFromList blockerId).run p).process := rfl
      rw [hact, MessageBlockerHandler.removeMessageFromList_process] at hb
      exact Or.inr ⟨b, mem_of_mem_withoutFirst hb, rfl⟩
  | replyTimer =>
      have hlist : (ReplyHandler.makeTimerStep.run p).process.blockerList = p.blockerList := by
        rcases ReplyHandler.makeTimerStep_cases p with
          ⟨_, hrun⟩ | ⟨_, _, _, _, _, _, _, _, _, _, _, _, hrun⟩
        · rw [hrun]
        · rw [hrun]
          split
          · rfl
          · rfl
      exact blocks_of_eq [] hlist b hb
  | blockerTimer =>
      exact Or.inr (MessageBlockerHandler.exists_of_mem_makeTimerStepFrom _ _ hb)
  | _ =>
      cases h

/-- Every table entry was there before, or is of the session of the operation. -/
theorem Operation.refers_of_act
    (cfg : Config)
    (a : Operation)
    {p : Process}
    {r : SessionRef}
    (h : ((a.act cfg).run p).process.Refers r) :
    p.Refers r ∨ a.session = some r := by
  by_cases hsession : a.session = some r
  · exact Or.inr hsession
  · refine Or.inl ?_
    rcases h with ⟨id, hfind⟩ | ⟨m, hm, hs⟩ | ⟨b, hb, hs⟩
    · exact Or.inl ((a.foreign_act cfg hsession p []).registered ⟨id, hfind⟩)
    · rcases a.exists_of_mem_replyList cfg p hm with ⟨m', hm', hs', _⟩ | hself
      · exact Or.inr (Or.inl ⟨m', hm', hs'.trans hs⟩)
      · exact absurd (hself.trans (congrArg some hs)) hsession
    · have hblocks : (a.act cfg).Within (blocks (fun s => a.session = some s)) :=
        a.within_act cfg (fun s _ => blocks_data _ s) (fun s _ => blocks_session _ s)
          (fun s _ p => blocks_of_eq _ rfl)
          (fun s id timeout hs p b hb => by
            rcases List.mem_append.mp hb with hold | hnew
            · exact Or.inr ⟨b, hold, rfl⟩
            · rw [List.mem_singleton.mp hnew]
              exact Or.inl hs)
          (blocks_tables cfg _)
      rcases hblocks p b hb with hself | ⟨b', hb', hs'⟩
      · exact absurd (hself.trans (congrArg some hs)) hsession
      · exact Or.inr (Or.inr ⟨b', hb', hs'.trans hs⟩)

/-! ## The destruction of a session -/

/-- The operation destroys the session: its owner deletes it, or its start failed. -/
def Operation.Destroys (p : Process) (s : SessionRef) (a : Operation) : Prop :=
  a = .destroy s ∨ (a = .finishStart s ∧ (p.session s).initState = -1) ∨
    ∃ sessionIdentifier : Bytes, a = .start s sessionIdentifier ∧
      sessionIdentifier.length ≤ 64000 ∧ (p.session s).connectable = false

/-- The id that is removed is gone, other entries stay. -/
theorem Life.find_stop_destroy (l : Life) (id : UInt32) :
    l.stop.destroy.sessions.find id = if id = l.sessionId then none else l.sessions.find id := by
  by_cases hstate : l.state = .sessionReady
  · simp only [stop, destroy, remove, hstate, if_true, reduceCtorEq, if_false,
      OrderedMap.find_remove]
    split
    · rfl
    · rfl
  · simp only [stop, destroy, remove, hstate, if_false, OrderedMap.find_remove]

theorem Life.find_destroy (l : Life) (id : UInt32) :
    l.destroy.sessions.find id = if id = l.sessionId then none else l.sessions.find id := by
  by_cases hstate : l.state = .sessionReady
  · simp only [stop, destroy, remove, hstate, if_true, OrderedMap.find_remove]
    split
    · rfl
    · rfl
  · simp only [stop, destroy, remove, hstate, if_false, OrderedMap.find_remove]

/-- The registry after the destruction of a session. -/
theorem Operation.find_of_destroys
    (cfg : Config)
    {a : Operation}
    {p : Process}
    {s : SessionRef}
    (h : a.Destroys p s)
    (id : UInt32) :
    ((a.act cfg).run p).process.sessions.find id =
      if id = (p.session s).sessionId then none else p.sessions.find id := by
  rcases h with rfl | ⟨rfl, hfailed⟩ | ⟨sessionIdentifier, rfl, hlong, hconnectable⟩
  · have hlife := congrArg Life.sessions ((Operation.destroy s).life_act cfg rfl p [])
    exact (congrArg (fun m => m.find id) hlife).trans (Life.find_destroy (p.life s []) id)
  · have hlife := congrArg Life.sessions ((Operation.finishStart s).life_act cfg rfl p [])
    simp only [Operation.life, hfailed, if_true] at hlife
    exact (congrArg (fun m => m.find id) hlife).trans (Life.find_stop_destroy (p.life s []) id)
  · have hlife := congrArg Life.sessions
      ((Operation.start s sessionIdentifier).life_act cfg rfl p [])
    have hnot : ¬ sessionIdentifier.length > 64000 := by omega
    have hcond : ¬ ((p.life s []).state = .notConnected ∧ (p.life s []).connects = true) := by
      rw [← p.connectable_iff s [], hconnectable]
      exact Bool.false_ne_true
    have hstart : (p.life s []).start s = (p.life s []).increase.stop := if_neg hcond
    simp only [Operation.life, hnot, hconnectable, Bool.false_eq_true, if_false, hstart] at hlife
    exact (congrArg (fun m => m.find id) hlife).trans
      (Life.find_stop_destroy (p.life s []).increase id)

/-- The list of pending replies keeps the entries of a destroyed session. -/
theorem Operation.replyList_of_destroys
    (cfg : Config)
    {a : Operation}
    {p : Process}
    {s : SessionRef}
    (h : a.Destroys p s) :
    ((a.act cfg).run p).process.replyList = p.repliesClosed s := by
  rcases h with rfl | ⟨rfl, hfailed⟩ | ⟨sessionIdentifier, rfl, hlong, hconnectable⟩
  · exact replyList_destroySession s p
  · have hlist := replyList_close_destroy s p
    rw [← finishStart_process hfailed] at hlist
    exact hlist
  · exact replyList_start_failed cfg hlong hconnectable

/-- The blocked requests stay as they are. -/
def keepsBlockers : Effect where
  rel := fun p _ p' => p'.blockerList = p.blockerList
  refl := fun _ => rfl
  trans := fun h h' => h'.trans h

theorem keepsBlockers_data (s : SessionRef) :
    AdmitsData keepsBlockers s True (fun _ => False) := by
  constructor
  · intro p p' outs hframe _
    exact hframe.blockerList
  · intro _ p l
    rfl
  · intro _ p f
    rfl
  · intro p
    rfl
  · intro p data _
    rfl
  · intro p id data _
    rfl
  · intro p code text _
    rfl
  · intro p id data hreleased
    exact hreleased.elim

theorem keepsBlockers_session (s : SessionRef) : AdmitsSession keepsBlockers s := by
  constructor
  · intro p c
    rfl
  · intro p id
    rfl
  · intro p id
    rfl
  · intro p f _ _
    rfl
  · intro p sessionId identifier
    rfl
  · intro p identifier
    rfl

theorem Operation.blockerList_of_destroys
    (cfg : Config)
    {a : Operation}
    {p : Process}
    {s : SessionRef}
    (h : a.Destroys p s) :
    ((a.act cfg).run p).process.blockerList = p.blockerList := by
  have hD := keepsBlockers_data s
  have hE := keepsBlockers_session s
  have hgone : ∀ q : Process, keepsBlockers.rel q [] (q.modifySession s (fun x =>
      { x with socket := none, abort := true, incomingBuffer := ∅ })) := fun q => rfl
  have hdestroy := within_destroySession hD trivial trivial hE hgone
  rcases h with rfl | ⟨rfl, _⟩ | ⟨sessionIdentifier, rfl, _⟩
  · exact hdestroy p
  · exact ((within_finishStart hD trivial trivial hE hgone).bind fun _ => Act.Within.pure ()) p
  · exact ((within_startSession hD trivial trivial hE sessionIdentifier).bind fun _ =>
      Act.Within.ite (fun _ => Act.Within.pure ()) fun _ => hdestroy) p

/-- A close leaves entries of the same sessions. -/
theorem exists_mem_repliesClosed_iff
    (p : Process)
    (s r : SessionRef) :
    (∃ m ∈ p.repliesClosed s, m.session = r) ↔ ∃ m ∈ p.replyList, m.session = r := by
  unfold Process.repliesClosed
  split
  · constructor
    · rintro ⟨m, hm, hs⟩
      obtain ⟨m', hm', rfl⟩ := ReplyHandler.mem_ignoreAll.mp hm
      refine ⟨m', hm', ?_⟩
      rw [← hs]
      split
      · rfl
      · rfl
    · rintro ⟨m, hm, hs⟩
      refine ⟨_, ReplyHandler.mem_ignoreAll.mpr ⟨m, hm, rfl⟩, ?_⟩
      split
      · exact hs
      · exact hs
  · exact Iff.rfl

/-- After the destruction of a session a table refers to it exactly if, before, one
did apart from the entry under the id of the session. -/
theorem refers_destroys_iff
    (cfg : Config)
    {a : Operation}
    {p : Process}
    {s : SessionRef}
    (h : a.Destroys p s) :
    ((a.act cfg).run p).process.Refers s ↔ p.RefersElse s := by
  have hsessions : (∃ id, ((a.act cfg).run p).process.sessions.find id = some s) ↔
      ∃ id, id ≠ (p.session s).sessionId ∧ p.sessions.find id = some s := by
    constructor
    · rintro ⟨id, hfind⟩
      rw [a.find_of_destroys cfg h] at hfind
      split at hfind
      · cases hfind
      · exact ⟨id, ‹_›, hfind⟩
    · rintro ⟨id, hne, hfind⟩
      refine ⟨id, ?_⟩
      rw [a.find_of_destroys cfg h, if_neg hne]
      exact hfind
  unfold Process.Refers Process.RefersElse
  rw [hsessions, a.replyList_of_destroys cfg h, a.blockerList_of_destroys cfg h,
    exists_mem_repliesClosed_iff]

/-! ## Runs -/

/-- A session that is destroyed is referred to by no table but the registry, under its
id.  A session whose start could not connect is always destroyed so. -/
def Operation.DestroysClean (p : Process) : Operation → Prop
  | .destroy s => ¬ p.RefersElse s
  | .finishStart s => (p.session s).initState = -1 → ¬ p.RefersElse s
  | _ => True

/-- Every session that a table refers to exists. -/
def TablesAlive (st : System) : Prop :=
  ∀ s, st.process.Refers s → (st.stage s).Exists

theorem refers_of_refersElse
    {p : Process}
    {s : SessionRef}
    (h : p.RefersElse s) :
    p.Refers s := by
  rcases h with ⟨id, _, hfind⟩ | hrest
  · exact Or.inl ⟨id, hfind⟩
  · exact Or.inr hrest

/-- After an operation on a session that tables still refer to, the session exists. -/
theorem exists_of_refers_after
    {cfg : Config}
    {st : System}
    {a : Operation}
    {s : SessionRef}
    (hinv : TablesAlive st)
    (hclean : a.DestroysClean st.process)
    (henabled : a.enabled st = true)
    (hsession : a.session = some s)
    (hrefers : (st.after cfg a).process.Refers s) :
    (a.nextStage st.process (st.stage s)).Exists := by
  have hfresh : st.stage s = .fresh → ¬ st.process.Refers s := by
    intro hstage hbefore
    have hexists := hinv s hbefore
    rw [hstage] at hexists
    exact absurd hexists (by decide)
  have hdestroys : a.Destroys st.process s → st.process.RefersElse s :=
    fun h => (refers_destroys_iff cfg h).mp hrefers
  cases a with
  | accept r =>
      exact Or.inr rfl
  | start r sessionIdentifier =>
      cases hsession
      have hstage : st.stage s = .fresh := of_decide_eq_true henabled
      by_cases hlong : sessionIdentifier.length > 64000
      · have hsame : (st.after cfg (.start s sessionIdentifier)).process = st.process := by
          simp [System.after, Operation.act, startSession, hlong]
        rw [hsame] at hrefers
        exact absurd hrefers (hfresh hstage)
      · by_cases hconnectable : (st.process.session s).connectable = true
        · simp only [Operation.nextStage, hlong, hconnectable, if_true, if_false]
          exact Or.inl rfl
        · have helse := hdestroys (Or.inr (Or.inr ⟨sessionIdentifier, rfl, Nat.le_of_not_lt hlong,
            by simpa using hconnectable⟩))
          exact absurd (refers_of_refersElse helse) (hfresh hstage)
  | finishStart r =>
      cases hsession
      by_cases hfailed : (st.process.session s).initState = -1
      · exact absurd (hdestroys (Or.inr (Or.inl ⟨rfl, hfailed⟩))) (hclean hfailed)
      · simp only [Operation.nextStage, hfailed, if_false]
        exact Or.inr rfl
  | destroy r =>
      cases hsession
      exact absurd (hdestroys (Or.inl rfl)) hclean
  | wake blockerId =>
      cases hsession
  | replyTimer =>
      cases hsession
  | blockerTimer =>
      cases hsession
  | _ =>
      cases hsession
      exact of_decide_eq_true henabled

theorem tablesAlive_step
    {cfg : Config}
    {st st' : System}
    {a : Operation}
    (hinv : TablesAlive st)
    (hclean : a.DestroysClean st.process)
    (hstep : (library cfg).step st a = some st') :
    TablesAlive st' := by
  obtain ⟨henabled, rfl⟩ := library_step_cases hstep
  intro r hrefers
  by_cases hsession : a.session = some r
  · rw [System.stage_after_self cfg st hsession]
    exact exists_of_refers_after hinv hclean henabled hsession hrefers
  · rw [System.stage_after_other cfg st hsession]
    rcases a.refers_of_act cfg hrefers with hbefore | hself
    · exact hinv r hbefore
    · exact absurd hself hsession

/-- In every run whose destructions are clean, no table refers to a destroyed session. -/
theorem no_dangling
    {cfg : Config}
    {st : System}
    (hrun : (library cfg).Reaches (fun st a => a.DestroysClean st.process) st) :
    ∀ s, st.process.Refers s → st.stage s ≠ .destroyed := by
  have hinv : TablesAlive st := by
    refine hrun.invariant ?_ fun st a st' hinv hclean hstep => tablesAlive_step hinv hclean hstep
    rintro st ⟨hsessions, hreplies, hblockers, _⟩ s hrefers
    rcases hrefers with ⟨id, hfind⟩ | ⟨m, hm, _⟩ | ⟨b, hb, _⟩
    · rw [hsessions, OrderedMap.find_empty] at hfind
      cases hfind
    · rw [hreplies] at hm
      cases hm
    · rw [hblockers] at hb
      cases hb
  intro s hrefers hdestroyed
  have hexists := hinv s hrefers
  rw [hdestroyed] at hexists
  exact absurd hexists (by decide)

/-- A received frame blocks no request. -/
theorem System.blockerList_after_receive
    {cfg : Config}
    {st : System}
    {s : SessionRef}
    {buf : RingBuffer}
    (h : st.process.blockerList = []) :
    (st.after cfg (.receive s buf)).process.blockerList = [] := by
  have hwithin := within_processMessage (blocks_data (fun _ => False) s)
    (blocks_session (fun _ => False) s) trivial trivial cfg buf (fun _ _ => trivial)
    (fun _ _ => trivial)
  rw [System.process_after_receive]
  refine List.eq_nil_iff_forall_not_mem.mpr fun b hb => ?_
  rcases hwithin st.process b hb with hfalse | ⟨b', hb', _⟩
  · exact hfalse
  · rw [h] at hb'
    cases hb'

/-- The ready session is only registered. -/
theorem not_refersElse_openedSystem : ¬ openedSystem.process.RefersElse 0 := by
  obtain ⟨_, hid, _⟩ := Process.members_of_life life_openedSystem
  have hsessions : openedSystem.process.sessions = OrderedMap.emplace ∅ 65537 0 :=
    sessions_of_life life_openedSystem
  have hblockers : openedSystem.process.blockerList = [] :=
    System.blockerList_after_receive rfl
  rintro (⟨id, hne, hfind⟩ | ⟨m, hm, _⟩ | ⟨b, hb, _⟩)
  · rw [hid] at hne
    simp [hsessions, OrderedMap.find_emplace, hne] at hfind
  · rw [replyList_openedSystem] at hm
    cases hm
  · rw [hblockers] at hb
    cases hb

/-- The owner deletes a ready session that awaits nothing. -/
theorem no_dangling_deleted :
    ¬ ((openedSystem.after Config.default (.destroy 0)).process.Refers 0 ∧
      (openedSystem.after Config.default (.destroy 0)).stage 0 = .destroyed) := by
  have henabled : (Operation.destroy 0).enabled openedSystem = true := rfl
  have haccept : (Operation.accept 0).DestroysClean initialSystem.process := trivial
  have hreceive : (Operation.receive 0
      (bufferOfMessage ⟨1, 1, .sessionInitStart 1 []⟩)).DestroysClean acceptedSystem.process :=
    trivial
  have hdestroy : (Operation.destroy 0).DestroysClean openedSystem.process :=
    not_refersElse_openedSystem
  have hopened : (library Config.default).Reaches (fun st a => a.DestroysClean st.process)
      openedSystem :=
    .step (.step (.init (init_initialSystem _)) haccept step_acceptedSystem) hreceive
      step_openedSystem
  rintro ⟨hrefers, hdestroyed⟩
  exact no_dangling (.step hopened hdestroy (library_step henabled)) 0 hrefers hdestroyed

/-- A start that is refused while its init start message is pending leaves a reference
behind. -/
theorem refers_of_refused
    {cfg : Config}
    {st : System}
    {s : SessionRef}
    (hstage : st.stage s = .starting)
    (hrefused : (st.process.session s).initState = -1)
    (hpending : ∃ m ∈ st.process.replyList, m.session = s) :
    (library cfg).step st (.finishStart s) = some (st.after cfg (.finishStart s)) ∧
      (st.after cfg (.finishStart s)).process.Refers s ∧
      (st.after cfg (.finishStart s)).stage s = .destroyed := by
  have henabled : (Operation.finishStart s).enabled st = true := by
    simp [Operation.enabled, hstage, hrefused]
  refine ⟨library_step henabled, ?_, ?_⟩
  · exact (refers_destroys_iff cfg (Or.inr (Or.inl ⟨rfl, hrefused⟩))).mpr
      (Or.inr (Or.inl hpending))
  · rw [System.stage_after_self cfg st rfl]
    simp [Operation.nextStage, hrefused]

/-- A client waits for its handshake. -/
def startingSystem : System :=
  initialSystem.after Config.default (.start 0 [])

theorem step_startingSystem :
    (library Config.default).step initialSystem (.start 0 []) = some startingSystem :=
  rfl

/-- The server refuses the session. -/
def refusedSystem : System :=
  startingSystem.after Config.default
    (.receive 0 (bufferOfMessage ⟨1, 1, .error .unknownSession []⟩))

theorem not_no_dangling :
    ¬ ∀ st, (library Config.default).Reachable st →
      ∀ s, st.process.Refers s → st.stage s ≠ .destroyed := by
  intro hall
  have hsize : (Body.error .unknownSession []).Sendable Config.default := by
    simp [Body.Sendable]
  have hconnectable : (initialSystem.process.session 0).connectable = true := by
    decide
  have hstarting : startingSystem.stage 0 = .starting := by
    rw [startingSystem, System.stage_after_self _ _ rfl]
    simp [Operation.nextStage, hconnectable]
  have hlist : startingSystem.process.replyList = initialSystem.process.replyList ++ _ :=
    replyList_start Config.default (Nat.zero_le _) hconnectable
  have hprocess : refusedSystem.process = startingSystem.process.setInitState 0 (-1) :=
    System.process_after_error startingSystem 0 hsize
  have hstage : refusedSystem.stage 0 = .starting :=
    (System.stage_after_self _ _ rfl).trans hstarting
  have henabled : (Operation.receive 0
      (bufferOfMessage ⟨1, 1, .error .unknownSession []⟩)).enabled startingSystem = true := by
    simp [Operation.enabled, hstarting, Stage.Exists]
  have hrefused : (library Config.default).Reachable refusedSystem :=
    .step (.step (.init (init_initialSystem _)) trivial step_startingSystem) trivial
      (library_step henabled)
  have hpending : ∃ m ∈ refusedSystem.process.replyList, m.session = 0 := by
    rw [hprocess, Process.setInitState, Process.modifySession_replyList, hlist]
    exact ⟨_, List.mem_append_right _ (List.mem_singleton.mpr rfl), rfl⟩
  have hinit : (refusedSystem.process.session 0).initState = -1 := by
    simp [hprocess, Process.setInitState]
  obtain ⟨hstep, hrefers, hdestroyed⟩ :=
    refers_of_refused hstage hinit hpending
  exact hall _ (.step hrefused trivial hstep) 0 hrefers hdestroyed

end SakuraNetwork

import SakuraNetwork.Handler.MessageBlockerHandler
import SakuraNetwork.Lib.TransitionSystem

/-!
# The timers of blocked requests

`MessageBlockerHandler::makeTimerStep` decrements a timer before it compares it with
zero, and it goes on behind the place to which the last entry was moved.

* `countDown`: the list a step leaves, one entry after the other.
* `countDown_of_none`: a step in which no entry expires counts every entry down once.
* `Calendar`: the requests with the step they were registered at, instead of a timer.
* `onCalendar_of_reaches`: as long as every entry has more than one step left at each
  step, the list is the calendar.
-/

namespace SakuraNetwork

open Lib

namespace MessageBlockerHandler

/-! ## One step -/

/-- The entry with its timer decremented. -/
def down (b : MessageBlocker) : MessageBlocker :=
  { b with timer := b.timer - 1 }

/-- What the loop leaves of the entries it has not come to.  The entry that is moved
into a gap is passed over. -/
def countDown : List MessageBlocker → List MessageBlocker
  | [] => []
  | b :: post =>
      if b.timer = 1 then
        match post.getLast? with
        | none => []
        | some z => z :: countDown post.dropLast
      else down b :: countDown post
termination_by l => l.length
decreasing_by
  · simp only [List.length_dropLast, List.length_cons]
    omega
  · exact Nat.lt_succ_self _

theorem countDown_of_expired
    {b : MessageBlocker}
    (hb : b.timer = 1)
    (post : List MessageBlocker)
    (z : MessageBlocker) :
    countDown (b :: (post ++ [z])) = z :: countDown post := by
  rw [countDown, if_pos hb, List.getLast?_concat]
  simp

theorem countDown_of_last
    {b : MessageBlocker}
    (hb : b.timer = 1) :
    countDown [b] = [] := by
  rw [countDown, if_pos hb]
  rfl

theorem countDown_of_running
    {b : MessageBlocker}
    (hb : b.timer ≠ 1)
    (post : List MessageBlocker) :
    countDown (b :: post) = down b :: countDown post := by
  rw [countDown, if_neg hb]

/-- The entries, one at its last step in front, or one that goes on, by the length of
the list. -/
theorem countDown_induction
    {motive : List MessageBlocker → Prop}
    (nil : motive [])
    (last : ∀ b, b.timer = 1 → motive [b])
    (expired : ∀ b post z, b.timer = 1 → motive post → motive (b :: (post ++ [z])))
    (running : ∀ b post, b.timer ≠ 1 → motive post → motive (b :: post))
    (l : List MessageBlocker) :
    motive l := by
  induction hn : l.length using Nat.strong_induction_on generalizing l with
  | _ n ih =>
      cases l with
      | nil =>
          exact nil
      | cons b post =>
          rw [List.length_cons] at hn
          by_cases hb : b.timer = 1
          · rcases List.eq_nil_or_concat post with rfl | ⟨post', z, rfl⟩
            · exact last b hb
            · rw [List.concat_eq_append, List.length_append, List.length_singleton] at hn
              rw [List.concat_eq_append]
              exact expired b post' z hb (ih post'.length (by omega) post' rfl)
          · exact running b post hb (ih post.length (by omega) post rfl)

theorem sub_one_eq_zero_iff (t : UInt64) :
    t - 1 = 0 ↔ t = 1 := by
  constructor
  · intro h
    rw [← UInt64.sub_add_cancel t 1, h]
    rfl
  · rintro rfl
    rfl

/-- The entry that expires is taken out of the list, and nobody is left to notify. -/
theorem withoutBlocker_of_unique
    {pre post : List MessageBlocker}
    {b : MessageBlocker}
    (hids : ((pre ++ b :: post).map MessageBlocker.blockerId).Nodup) :
    withoutBlocker b.blockerId (pre ++ down b :: post) =
        swapRemove (pre ++ down b :: post) pre.length ∧
      (swapRemove (pre ++ down b :: post) pre.length).any
        (fun e => e.blockerId == b.blockerId) = false := by
  rw [List.map_append, List.map_cons, List.nodup_append, List.nodup_cons] at hids
  obtain ⟨_, ⟨hpost, _⟩, hpre⟩ := hids
  have hbefore : ∀ e ∈ pre, (e.blockerId == b.blockerId) = false := by
    intro e he
    simpa using hpre _ (List.mem_map.mpr ⟨e, he, rfl⟩) _ List.mem_cons_self
  have htake : takeBlocker b.blockerId (pre ++ down b :: post) =
      some (down b, swapRemove (pre ++ down b :: post) pre.length) :=
    takeFirst_of_split (by simp [down]) hbefore
  have hperm := takeFirst_perm htake
  refine ⟨withoutFirst_of_some htake, ?_⟩
  rw [List.any_eq_false]
  intro e he hid
  have hrest : (pre ++ post).Perm (swapRemove (pre ++ down b :: post) pre.length) :=
    (List.perm_middle.symm.trans hperm).cons_inv
  rcases List.mem_append.mp (hrest.mem_iff.mpr he) with he | he
  · rw [hbefore e he] at hid
    cases hid
  · exact hpost (List.mem_map.mpr ⟨e, he, by simpa using hid⟩)

theorem expire_of_unique
    {pre post : List MessageBlocker}
    {b : MessageBlocker}
    (hb : b.timer = 1)
    (hids : ((pre ++ b :: post).map MessageBlocker.blockerId).Nodup) :
    expire b (pre ++ down b :: post) = swapRemove (pre ++ down b :: post) pre.length := by
  obtain ⟨hwithout, hany⟩ := withoutBlocker_of_unique hids
  rw [expire, if_pos ((sub_one_eq_zero_iff _).mpr hb), hwithout]
  exact storeResponse_of_not_any none hany

/-- The loop ends at the end of the list. -/
theorem makeTimerStepFrom_end
    {p : Process}
    {i : Nat}
    (h : p.blockerList.length ≤ i)
    (fuel : Nat) :
    ((makeTimerStepFrom fuel i).run p).process = p := by
  cases fuel with
  | zero =>
      rfl
  | succ fuel =>
      rw [makeTimerStepFrom_process, List.getElem?_eq_none h]

/-- One round of the loop. -/
theorem makeTimerStepFrom_round
    (done post : List MessageBlocker)
    (b : MessageBlocker)
    (fuel : Nat)
    (p : Process) :
    ((makeTimerStepFrom (fuel + 1) done.length).run
        { p with blockerList := done ++ b :: post }).process =
      ((makeTimerStepFrom fuel (done.length + 1)).run
        { p with blockerList := expire b (done ++ down b :: post) }).process := by
  have hlookup : (done ++ b :: post)[done.length]? = some b := by
    simp
  have hset : (done ++ b :: post).set done.length { b with timer := b.timer - 1 } =
      done ++ down b :: post := by
    simp [down]
  rw [makeTimerStepFrom_process]
  simp only [hlookup, hset]

/-- The last entry has moved to the place of one that expired. -/
theorem nodup_moved
    {done post : List MessageBlocker}
    {b z : MessageBlocker}
    (hids : ((done ++ b :: (post ++ [z])).map MessageBlocker.blockerId).Nodup) :
    ((done ++ [z] ++ post).map MessageBlocker.blockerId).Nodup := by
  have hperm : (done ++ b :: (post ++ [z])).Perm (b :: (done ++ [z] ++ post)) := by
    refine List.perm_middle.trans (List.Perm.cons b ?_)
    rw [List.append_assoc]
    exact (List.perm_append_singleton z post).append_left done
  have hnodup := (hperm.map MessageBlocker.blockerId).nodup_iff.mp hids
  rw [List.map_cons] at hnodup
  exact (List.nodup_cons.mp hnodup).2

/-- The loop counts down the entries it has not come to. -/
theorem makeTimerStepFrom_countDown
    (todo done : List MessageBlocker)
    (fuel : Nat)
    (hfuel : todo.length ≤ fuel)
    (p : Process)
    (hids : ((done ++ todo).map MessageBlocker.blockerId).Nodup) :
    ((makeTimerStepFrom fuel done.length).run { p with blockerList := done ++ todo }).process =
      { p with blockerList := done ++ countDown todo } := by
  induction todo using countDown_induction generalizing done fuel with
  | nil =>
      rw [makeTimerStepFrom_end (by simp)]
      simp [countDown]
  | last b hb =>
      cases fuel with
      | zero =>
          simp at hfuel
      | succ fuel =>
          rw [makeTimerStepFrom_round, expire_of_unique hb hids, swapRemove_concat_last,
            makeTimerStepFrom_end (by simp), countDown_of_last hb, List.append_nil]
  | expired b post z hb ih =>
      cases fuel with
      | zero =>
          simp at hfuel
      | succ fuel =>
          have hmoved : ((done ++ [z] ++ post).map MessageBlocker.blockerId).Nodup :=
            nodup_moved hids
          have hnext := ih (done ++ [z]) fuel (by simp at hfuel; omega) hmoved
          rw [makeTimerStepFrom_round, expire_of_unique hb hids, swapRemove_concat_inner,
            countDown_of_expired hb]
          simpa using hnext
  | running b post hb ih =>
      cases fuel with
      | zero =>
          simp at hfuel
      | succ fuel =>
          have hsame : ((done ++ [down b] ++ post).map MessageBlocker.blockerId).Nodup := by
            simpa [down] using hids
          have hnext := ih (done ++ [down b]) fuel (by simpa using hfuel) hsame
          have hexpire : expire b (done ++ down b :: post) = done ++ down b :: post := by
            rw [expire, if_neg (fun h => hb ((sub_one_eq_zero_iff _).mp h))]
          rw [makeTimerStepFrom_round, hexpire, countDown_of_running hb]
          simpa using hnext

/-- The list after a step. -/
theorem blockerList_makeTimerStep
    {p : Process}
    (hids : (p.blockerList.map MessageBlocker.blockerId).Nodup) :
    (makeTimerStep.run p).process = { p with blockerList := countDown p.blockerList } :=
  makeTimerStepFrom_countDown p.blockerList [] p.blockerList.length (Nat.le_refl _) p hids

/-! ## Exact steps -/

/-- The entries that have more than one step left, with one step less. -/
def nextStep (l : List MessageBlocker) : List MessageBlocker :=
  (l.filter (fun b => decide (1 < b.timer))).map down

theorem nextStep_of_running
    {l : List MessageBlocker}
    (h : ∀ b ∈ l, 1 < b.timer) :
    nextStep l = l.map down := by
  rw [nextStep, List.filter_eq_self.mpr]
  intro b hb
  exact decide_eq_true (h b hb)

/-- A step in which no entry expires counts every entry down once, in the order of the
list. -/
theorem countDown_of_none
    {l : List MessageBlocker}
    (h : ∀ b ∈ l, b.timer ≠ 1) :
    countDown l = l.map down := by
  induction l with
  | nil =>
      rw [countDown, List.map_nil]
  | cons b l ih =>
      rw [countDown_of_running (h b List.mem_cons_self), List.map_cons,
        ih (fun e he => h e (List.mem_cons_of_mem _ he))]

theorem ne_one_of_one_lt
    {t : UInt64}
    (h : 1 < t) :
    t ≠ 1 := by
  rintro rfl
  exact absurd h (by decide)

/-- Where no entry expires, a step is exact only if every entry has more than one step
left. -/
theorem one_lt_of_exact
    {l : List MessageBlocker}
    (hnone : ∀ b ∈ l, b.timer ≠ 1)
    (hexact : (countDown l).Perm (nextStep l)) :
    ∀ b ∈ l, 1 < b.timer := by
  have hlength := hexact.length_eq
  rw [countDown_of_none hnone, nextStep, List.length_map, List.length_map] at hlength
  intro b hb
  exact of_decide_eq_true (List.length_filter_eq_length_iff.mp hlength.symm b hb)

/-- An entry that is not at its last step is still in the list. -/
theorem exists_mem_countDown
    {l : List MessageBlocker}
    {b : MessageBlocker}
    (hb : b ∈ l)
    (hne : b.timer ≠ 1) :
    ∃ e ∈ countDown l, e.blockerId = b.blockerId := by
  induction l using countDown_induction with
  | nil =>
      cases hb
  | last e he =>
      rw [List.mem_singleton.mp hb] at hne
      exact absurd he hne
  | expired e post z he ih =>
      rw [countDown_of_expired he]
      rcases List.mem_cons.mp hb with rfl | hb
      · exact absurd he hne
      · rcases List.mem_append.mp hb with hb | hb
        · obtain ⟨k, hk, hid⟩ := ih hb
          exact ⟨k, List.mem_cons_of_mem _ hk, hid⟩
        · exact ⟨z, List.mem_cons_self, by rw [List.mem_singleton.mp hb]⟩
  | running e post he ih =>
      rw [countDown_of_running he]
      rcases List.mem_cons.mp hb with rfl | hb
      · exact ⟨down b, List.mem_cons_self, rfl⟩
      · obtain ⟨k, hk, hid⟩ := ih hb
        exact ⟨k, List.mem_cons_of_mem _ hk, hid⟩

/-! ## The calendar -/

/-- A blocked request, with the number of the last step before it was registered. -/
structure Registered where
  session : SessionRef
  blockerId : UInt64
  blockerTimeout : UInt64
  registeredAt : Nat

/-- The request is timed out by the `max(timeout, 1)`-th step. -/
def Registered.steps (r : Registered) : Nat :=
  max r.blockerTimeout.toNat 1

/-- The entry of the request after `now` steps, without a response. -/
def Registered.entry (now : Nat) (r : Registered) : MessageBlocker where
  session := r.session
  blockerId := r.blockerId
  timer := r.blockerTimeout - UInt64.ofNat (now - r.registeredAt)

/-- The blocked requests, and the number of steps made so far. -/
structure Calendar where
  now : Nat := 0
  registered : List Registered := []

/-- The operations on the list. -/
inductive Call where
  | addBlocker (blockerId blockerTimeout : UInt64) (session : SessionRef)
  | releaseMessage (blockerId : UInt64) (data : Option Bytes)
  | removeMessageFromList (blockerId : UInt64)
  | makeTimerStep

/-- The process after a call. -/
def Call.apply (p : Process) : Call → Process
  | .addBlocker blockerId blockerTimeout s =>
      ((MessageBlockerHandler.addBlocker blockerId blockerTimeout s).run p).process
  | .releaseMessage blockerId data =>
      ((MessageBlockerHandler.releaseMessage blockerId data).run p).process
  | .removeMessageFromList blockerId =>
      ((MessageBlockerHandler.removeMessageFromList blockerId).run p).process
  | .makeTimerStep => (MessageBlockerHandler.makeTimerStep.run p).process

/-- The calendar after a call: a response leaves it alone, and a step ends the requests
whose time it is. -/
def Call.advance (σ : Calendar) : Call → Calendar
  | .addBlocker blockerId blockerTimeout s =>
      { σ with registered := σ.registered ++
        [{ session := s
           blockerId := blockerId
           blockerTimeout := blockerTimeout
           registeredAt := σ.now }] }
  | .releaseMessage _ _ => σ
  | .removeMessageFromList blockerId =>
      { σ with
        registered := withoutFirst (fun r => r.blockerId == blockerId) σ.registered }
  | .makeTimerStep =>
      { now := σ.now + 1
        registered := σ.registered.filter
          (fun r => decide (σ.now + 1 < r.registeredAt + r.steps)) }

/-- The process and the calendar of its requests. -/
structure Timed where
  process : Process
  calendar : Calendar

/-- Any sequence of calls on an empty list. -/
def timers : TransitionSystem Timed Call where
  init := fun σ => σ.process.blockerList = [] ∧ σ.calendar = {}
  step := fun σ call => some {
    process := call.apply σ.process
    calendar := call.advance σ.calendar }

/-- A new request has a new id, and at a timer step every entry has more than one step
left. -/
def Call.Exact (p : Process) : Call → Prop
  | .addBlocker blockerId _ _ => ∀ b ∈ p.blockerList, b.blockerId ≠ blockerId
  | .makeTimerStep => ∀ b ∈ p.blockerList, 1 < b.timer
  | _ => True

/-- The entry without its response. -/
def forgetResponse (b : MessageBlocker) : MessageBlocker :=
  { b with responseData := none }

/-- The list holds the requests of the calendar, and each waits for less than the steps
it has. -/
structure OnCalendar (σ : Timed) : Prop where
  list : σ.process.blockerList.map forgetResponse =
    σ.calendar.registered.map (Registered.entry σ.calendar.now)
  distinct : (σ.process.blockerList.map MessageBlocker.blockerId).Nodup
  registered : ∀ r ∈ σ.calendar.registered, r.registeredAt ≤ σ.calendar.now
  waiting : ∀ r ∈ σ.calendar.registered, σ.calendar.now < r.registeredAt + r.steps

theorem map_forgetResponse_storeResponse
    (blockerId : UInt64)
    (data : Option Bytes)
    (l : List MessageBlocker) :
    (storeResponse blockerId data l).map forgetResponse = l.map forgetResponse := by
  induction l with
  | nil =>
      rfl
  | cons b l ih =>
      by_cases hb : b.blockerId = blockerId
      · simp [storeResponse, hb, forgetResponse]
      · simp [storeResponse, hb, ih]

/-- Responses do not matter to a step. -/
theorem map_forgetResponse_nextStep (l : List MessageBlocker) :
    (nextStep l).map forgetResponse = nextStep (l.map forgetResponse) := by
  induction l with
  | nil =>
      rfl
  | cons b l ih =>
      by_cases hb : 1 < b.timer
      · simpa [nextStep, hb, forgetResponse, down] using ih
      · simpa [nextStep, hb, forgetResponse] using ih

theorem map_blockerId_forgetResponse (l : List MessageBlocker) :
    (l.map forgetResponse).map MessageBlocker.blockerId = l.map MessageBlocker.blockerId := by
  rw [List.map_map]
  rfl

/-- The timer of a registered request, before its time. -/
theorem timer_entry
    {now : Nat}
    {r : Registered}
    (hregistered : r.registeredAt ≤ now)
    (hwaiting : now < r.registeredAt + r.steps) :
    (r.entry now).timer.toNat = r.blockerTimeout.toNat - (now - r.registeredAt) := by
  have hlt := r.blockerTimeout.toNat_lt
  rw [Registered.steps] at hwaiting
  simp only [Registered.entry, UInt64.toNat_sub, UInt64.toNat_ofNat']
  rw [Nat.mod_eq_of_lt (by omega : now - r.registeredAt < 2 ^ 64)]
  omega

/-- A step that finds no timer at zero counts down the requests of the calendar. -/
theorem nextStep_entries
    {now : Nat}
    {registered : List Registered}
    (hregistered : ∀ r ∈ registered, r.registeredAt ≤ now)
    (hwaiting : ∀ r ∈ registered, now < r.registeredAt + r.steps)
    (hzero : ∀ r ∈ registered, (r.entry now).timer ≠ 0) :
    nextStep (registered.map (Registered.entry now)) =
      (registered.filter (fun r => decide (now + 1 < r.registeredAt + r.steps))).map
        (Registered.entry (now + 1)) := by
  induction registered with
  | nil =>
      rfl
  | cons r registered ih =>
      have hrest := ih (fun k hk => hregistered k (List.mem_cons_of_mem _ hk))
        (fun k hk => hwaiting k (List.mem_cons_of_mem _ hk))
        (fun k hk => hzero k (List.mem_cons_of_mem _ hk))
      have hr := hregistered r List.mem_cons_self
      have hw := hwaiting r List.mem_cons_self
      have hz := hzero r List.mem_cons_self
      have htimer := timer_entry hr hw
      have hpos : (r.entry now).timer.toNat ≠ 0 := fun h => hz (UInt64.toNat_inj.mp h)
      have hone : (1 : UInt64).toNat = 1 := rfl
      have hlimit : 1 < (r.entry now).timer ↔ now + 1 < r.registeredAt + r.steps := by
        rw [UInt64.lt_iff_toNat_lt]
        rw [Registered.steps] at hw ⊢
        omega
      have hdown : down (r.entry now) = r.entry (now + 1) := by
        have hnext : UInt64.ofNat (now + 1 - r.registeredAt) =
            UInt64.ofNat (now - r.registeredAt) + 1 := by
          rw [Nat.succ_sub hr, Nat.succ_eq_add_one, UInt64.ofNat_add]
          rfl
        simp only [down, Registered.entry, hnext, MessageBlocker.mk.injEq, true_and, and_true]
        grind
      simp only [nextStep, List.map_cons, List.filter_cons] at hrest ⊢
      by_cases hlt : now + 1 < r.registeredAt + r.steps
      · simp only [hlimit.mpr hlt, hlt, decide_true, if_true, List.map_cons, hrest, hdown]
      · have hnot : ¬ 1 < (r.entry now).timer := fun h => hlt (hlimit.mp h)
        simp only [hnot, hlt, decide_false, Bool.false_eq_true, if_false, hrest]

/-- The entries that have more than one step left are those of the calendar. -/
theorem timer_ne_zero_of_onCalendar
    {σ : Timed}
    (h : OnCalendar σ)
    (hexact : ∀ b ∈ σ.process.blockerList, 1 < b.timer)
    {r : Registered}
    (hr : r ∈ σ.calendar.registered) :
    (r.entry σ.calendar.now).timer ≠ 0 := by
  have hmem : r.entry σ.calendar.now ∈ σ.process.blockerList.map forgetResponse := by
    rw [h.list]
    exact List.mem_map.mpr ⟨r, hr, rfl⟩
  obtain ⟨b, hb, hentry⟩ := List.mem_map.mp hmem
  rw [← hentry]
  intro h0
  have hlt := hexact b hb
  have htimer : b.timer = 0 := h0
  rw [htimer] at hlt
  exact absurd hlt (by decide)

/-- Every call keeps to the calendar, under its condition. -/
theorem OnCalendar.call
    {σ : Timed}
    (h : OnCalendar σ)
    (call : Call)
    (hexact : call.Exact σ.process) :
    OnCalendar { process := call.apply σ.process, calendar := call.advance σ.calendar } := by
  have hzero := fun hexact r hr => timer_ne_zero_of_onCalendar (r := r) h hexact hr
  obtain ⟨hlist, hdistinct, hregistered, hwaiting⟩ := h
  cases call with
  | addBlocker blockerId blockerTimeout s =>
      refine ⟨?_, ?_, ?_, ?_⟩
      · simp [Call.apply, Call.advance, hlist, Registered.entry, forgetResponse]
      · simp only [Call.apply, run_addBlocker, List.map_append, List.map_cons, List.map_nil]
        refine List.nodup_append.mpr ⟨hdistinct, List.nodup_singleton _, ?_⟩
        intro id hid id' hid' heq
        obtain ⟨b, hb, rfl⟩ := List.mem_map.mp hid
        exact hexact b hb (heq.trans (List.mem_singleton.mp hid'))
      · intro r hr
        rcases List.mem_append.mp hr with hr | hr
        · exact hregistered r hr
        · rw [List.mem_singleton.mp hr]
          exact Nat.le_refl _
      · intro r hr
        rcases List.mem_append.mp hr with hr | hr
        · exact hwaiting r hr
        · rw [List.mem_singleton.mp hr]
          exact Nat.lt_add_of_pos_right (Nat.lt_of_lt_of_le Nat.zero_lt_one (Nat.le_max_right _ _))
  | releaseMessage blockerId data =>
      have hsame := map_forgetResponse_storeResponse blockerId data σ.process.blockerList
      refine ⟨?_, ?_, hregistered, hwaiting⟩
      · simp only [Call.apply, Call.advance, releaseMessage_process, hsame, hlist]
      · simp only [Call.apply, releaseMessage_process]
        rw [← map_blockerId_forgetResponse, hsame, map_blockerId_forgetResponse]
        exact hdistinct
  | removeMessageFromList blockerId =>
      refine ⟨?_, ?_, ?_, ?_⟩
      · simp only [Call.apply, Call.advance, removeMessageFromList_process, withoutBlocker]
        have hforget := withoutFirst_map forgetResponse (fun b => b.blockerId == blockerId)
          σ.process.blockerList
        rw [hlist, withoutFirst_map] at hforget
        exact hforget.symm
      · simp only [Call.apply, removeMessageFromList_process]
        exact nodup_withoutFirst hdistinct _
      · intro r hr
        exact hregistered r (mem_of_mem_withoutFirst hr)
      · intro r hr
        exact hwaiting r (mem_of_mem_withoutFirst hr)
  | makeTimerStep =>
      have hrun := congrArg Process.blockerList (blockerList_makeTimerStep hdistinct)
      have hnone := countDown_of_none (fun b hb => ne_one_of_one_lt (hexact b hb))
      have hnext := hrun.trans (hnone.trans (nextStep_of_running hexact).symm)
      refine ⟨?_, ?_, ?_, ?_⟩
      · simp only [Call.apply, Call.advance, hnext, map_forgetResponse_nextStep, hlist]
        exact nextStep_entries hregistered hwaiting (hzero hexact)
      · simp only [Call.apply, hnext, nextStep, List.map_map]
        exact hdistinct.sublist (List.filter_sublist.map MessageBlocker.blockerId)
      · intro r hr
        exact Nat.le_succ_of_le (hregistered r (List.mem_filter.mp hr).1)
      · intro r hr
        exact of_decide_eq_true (List.mem_filter.mp hr).2

theorem onCalendar_of_reaches
    {σ : Timed}
    (h : timers.Reaches (fun σ call => call.Exact σ.process) σ) :
    OnCalendar σ := by
  refine h.invariant ?_ ?_
  · rintro σ ⟨hlist, hcalendar⟩
    refine ⟨?_, ?_, ?_, ?_⟩
    · rw [hlist, hcalendar]
      rfl
    · rw [hlist]
      exact List.nodup_nil
    · rw [hcalendar]
      simp
    · rw [hcalendar]
      simp
  · intro σ call σ' hon hexact hstep
    cases hstep
    exact hon.call call hexact

end MessageBlockerHandler

end SakuraNetwork

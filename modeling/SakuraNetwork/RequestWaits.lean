import SakuraNetwork.RequestTimers

/-!
# The wait of a request

`sendRequest` sends its last frame, appends its entry to the list, waits on the
condition variable of the entry, and removes the entry when it goes on.  The wait has no
predicate, and each of these is a step of its own between which responses are processed
and timers are counted down.

* `requests`: any number of requests with their own ids, in any order of the steps.
* `Waits`: what holds in the runs whose responses meet a waiting request.
* `no_response_lost`: there a request returns its response, or it timed out.
-/

namespace SakuraNetwork

open Lib

namespace MessageBlockerHandler

/-! ## A timer step -/

/-- Each entry that is left was there; it was counted down, or passed over. -/
theorem of_mem_countDown
    {l : List MessageBlocker}
    {e : MessageBlocker}
    (he : e ∈ countDown l) :
    ∃ b ∈ l, e = b ∨ e = down b := by
  induction l using countDown_induction with
  | nil =>
      rw [countDown] at he
      cases he
  | last b hb =>
      rw [countDown_of_last hb] at he
      cases he
  | expired b post z hb ih =>
      rw [countDown_of_expired hb] at he
      rcases List.mem_cons.mp he with rfl | he
      · exact ⟨e, by simp, Or.inl rfl⟩
      · obtain ⟨b', hb', hcases⟩ := ih he
        exact ⟨b', by simp [hb'], hcases⟩
  | running b post hb ih =>
      rw [countDown_of_running hb] at he
      rcases List.mem_cons.mp he with rfl | he
      · exact ⟨b, List.mem_cons_self, Or.inr rfl⟩
      · obtain ⟨b', hb', hcases⟩ := ih he
        exact ⟨b', List.mem_cons_of_mem _ hb', hcases⟩

theorem subperm_countDown (l : List MessageBlocker) :
    ((countDown l).map MessageBlocker.blockerId).Subperm (l.map MessageBlocker.blockerId) := by
  induction l using countDown_induction with
  | nil =>
      rw [countDown]
  | last b hb =>
      rw [countDown_of_last hb]
      exact List.nil_subperm
  | expired b post z hb ih =>
      rw [countDown_of_expired hb, List.map_cons, List.map_cons, List.map_append]
      refine List.Subperm.cons_right _ (List.Subperm.trans ((List.subperm_cons _).mpr ih) ?_)
      exact (List.perm_append_singleton _ _).symm.subperm
  | running b post hb ih =>
      rw [countDown_of_running hb]
      exact (List.subperm_cons _).mpr ih

theorem nodup_countDown
    {l : List MessageBlocker}
    (hids : (l.map MessageBlocker.blockerId).Nodup) :
    ((countDown l).map MessageBlocker.blockerId).Nodup := by
  obtain ⟨l', hperm, hsublist⟩ := subperm_countDown l
  exact hperm.nodup_iff.mp (hids.sublist hsublist)

/-- Nothing is notified behind the end of the list. -/
theorem outputs_makeTimerStepFrom_end
    {p : Process}
    {i : Nat}
    (h : p.blockerList.length ≤ i)
    (fuel : Nat) :
    ((makeTimerStepFrom fuel i).run p).outputs = [] := by
  cases fuel with
  | zero =>
      rfl
  | succ fuel =>
      rw [makeTimerStepFrom, Act.run_get_bind, List.getElem?_eq_none h]
      rfl

/-- Where the ids are distinct, a round of the loop notifies nobody. -/
theorem outputs_makeTimerStepFrom_round
    {done post : List MessageBlocker}
    {b : MessageBlocker}
    (hids : ((done ++ b :: post).map MessageBlocker.blockerId).Nodup)
    (fuel : Nat)
    (p : Process)
    (id : UInt64)
    (h : .notifyOne id ∈ ((makeTimerStepFrom (fuel + 1) done.length).run
      { p with blockerList := done ++ b :: post }).outputs) :
    .notifyOne id ∈ ((makeTimerStepFrom fuel (done.length + 1)).run
      { p with blockerList := expire b (done ++ down b :: post) }).outputs := by
  have hlookup : (done ++ b :: post)[done.length]? = some b := by
    simp
  have hset : (done ++ b :: post).set done.length { b with timer := b.timer - 1 } =
      done ++ down b :: post := by
    simp [down]
  obtain ⟨hwithout, hany⟩ := withoutBlocker_of_unique hids
  rw [makeTimerStepFrom, Act.run_get_bind] at h
  simp only [hlookup, Act.run_modify_bind, hset] at h
  by_cases hb : b.timer - 1 = 0
  · simp only [hb, BEq.rfl, if_true] at h
    have hstored := storeResponse_of_not_any none hany
    rw [expire, if_pos hb, hwithout, hstored]
    simpa [Act.run_bind, hwithout, hany, hstored] using h
  · rw [expire, if_neg hb]
    simpa [hb] using h

theorem not_notified_makeTimerStepFrom
    (todo done : List MessageBlocker)
    (fuel : Nat)
    (hfuel : todo.length ≤ fuel)
    (p : Process)
    (hids : ((done ++ todo).map MessageBlocker.blockerId).Nodup)
    (id : UInt64) :
    .notifyOne id ∉ ((makeTimerStepFrom fuel done.length).run
      { p with blockerList := done ++ todo }).outputs := by
  induction todo using countDown_induction generalizing done fuel with
  | nil =>
      rw [outputs_makeTimerStepFrom_end (by simp)]
      exact List.not_mem_nil
  | last b hb =>
      cases fuel with
      | zero =>
          simp at hfuel
      | succ fuel =>
          intro h
          have hround := outputs_makeTimerStepFrom_round hids fuel p id h
          rw [expire_of_unique hb hids, swapRemove_concat_last,
            outputs_makeTimerStepFrom_end (by simp)] at hround
          exact List.not_mem_nil hround
  | expired b post z hb ih =>
      cases fuel with
      | zero =>
          simp at hfuel
      | succ fuel =>
          have hmoved : ((done ++ [z] ++ post).map MessageBlocker.blockerId).Nodup :=
            nodup_moved hids
          have hnext := ih (done ++ [z]) fuel (by simp at hfuel; omega) hmoved
          intro h
          have hround := outputs_makeTimerStepFrom_round hids fuel p id h
          rw [expire_of_unique hb hids, swapRemove_concat_inner] at hround
          exact hnext (by simpa using hround)
  | running b post hb ih =>
      cases fuel with
      | zero =>
          simp at hfuel
      | succ fuel =>
          have hsame : ((done ++ [down b] ++ post).map MessageBlocker.blockerId).Nodup := by
            simpa [down] using hids
          have hnext := ih (done ++ [down b]) fuel (by simpa using hfuel) hsame
          have hexpire : expire b (done ++ down b :: post) = done ++ down b :: post := by
            rw [expire, if_neg (fun h => hb ((sub_one_eq_zero_iff _).mp h))]
          intro h
          have hround := outputs_makeTimerStepFrom_round hids fuel p id h
          rw [hexpire] at hround
          exact hnext (by simpa using hround)

/-- A timer step wakes nobody: an entry that expires is gone before it is looked for. -/
theorem not_notified_makeTimerStep
    {p : Process}
    (hids : (p.blockerList.map MessageBlocker.blockerId).Nodup)
    (id : UInt64) :
    .notifyOne id ∉ (makeTimerStep.run p).outputs :=
  not_notified_makeTimerStepFrom p.blockerList [] p.blockerList.length (Nat.le_refl _) p hids id

/-! ## The entries after an operation -/

theorem map_blockerId_storeResponse
    (blockerId : UInt64)
    (data : Option Bytes)
    (l : List MessageBlocker) :
    (storeResponse blockerId data l).map MessageBlocker.blockerId =
      l.map MessageBlocker.blockerId := by
  rw [← map_blockerId_forgetResponse, map_forgetResponse_storeResponse,
    map_blockerId_forgetResponse]

/-- The response is stored in the entry of its id. -/
theorem of_mem_storeResponse
    {blockerId : UInt64}
    {data : Option Bytes}
    {l : List MessageBlocker}
    (hids : (l.map MessageBlocker.blockerId).Nodup)
    {e : MessageBlocker}
    (he : e ∈ storeResponse blockerId data l) :
    (e ∈ l ∧ e.blockerId ≠ blockerId) ∨
      ∃ b ∈ l, b.blockerId = blockerId ∧ e = { b with responseData := data } := by
  induction l with
  | nil => cases he
  | cons b l ih =>
      rw [List.map_cons, List.nodup_cons] at hids
      by_cases hb : b.blockerId = blockerId
      · rw [storeResponse, if_pos (by simpa using hb)] at he
        rcases List.mem_cons.mp he with rfl | he
        · exact Or.inr ⟨b, List.mem_cons_self, hb, rfl⟩
        · refine Or.inl ⟨List.mem_cons_of_mem _ he, fun hid => hids.1 ?_⟩
          exact List.mem_map.mpr ⟨e, he, hid.trans hb.symm⟩
      · simp only [storeResponse, beq_iff_eq, hb, if_false] at he
        rcases List.mem_cons.mp he with rfl | he
        · exact Or.inl ⟨List.mem_cons_self, hb⟩
        · rcases ih hids.2 he with ⟨hmem, hne⟩ | ⟨b', hb', hid, hdata⟩
          · exact Or.inl ⟨List.mem_cons_of_mem _ hmem, hne⟩
          · exact Or.inr ⟨b', List.mem_cons_of_mem _ hb', hid, hdata⟩

theorem mem_storeResponse_of_ne
    {blockerId : UInt64}
    {e : MessageBlocker}
    (hne : e.blockerId ≠ blockerId)
    (data : Option Bytes)
    (l : List MessageBlocker) :
    e ∈ storeResponse blockerId data l ↔ e ∈ l := by
  induction l with
  | nil => rfl
  | cons b l ih =>
      by_cases hb : b.blockerId = blockerId
      · rw [storeResponse, if_pos (by simpa using hb), List.mem_cons, List.mem_cons]
        have hnew : e ≠ { b with responseData := data } := fun heq => hne (heq ▸ hb)
        have hold : e ≠ b := fun heq => hne (heq ▸ hb)
        simp only [hnew, hold]
      · rw [storeResponse, if_neg (by simpa using hb), List.mem_cons, List.mem_cons, ih]

/-- The entry of an id is removed, and its data returned. -/
theorem removeMessageFromList_of_mem
    {p : Process}
    (hids : (p.blockerList.map MessageBlocker.blockerId).Nodup)
    {b : MessageBlocker}
    (hb : b ∈ p.blockerList) :
    ((removeMessageFromList b.blockerId).run p).value = b.responseData ∧
      p.blockerList.Perm (b :: withoutBlocker b.blockerId p.blockerList) := by
  rw [removeMessageFromList_value]
  cases htake : takeBlocker b.blockerId p.blockerList with
  | none =>
      have hnone := (takeFirst_eq_none_iff _ _).mp htake b hb
      simp at hnone
  | some found =>
      obtain ⟨b', rest⟩ := found
      have hperm := takeFirst_perm htake
      have hid : b'.blockerId = b.blockerId := by
        simpa using takeFirst_pred htake
      have hsame : b' = b :=
        List.inj_on_of_nodup_map hids (hperm.mem_iff.mpr List.mem_cons_self) hb hid
      subst hsame
      refine ⟨rfl, ?_⟩
      rw [withoutBlocker, withoutFirst_of_some htake]
      exact hperm

/-- Without an entry of the id nothing is removed. -/
theorem removeMessageFromList_of_not_mem
    {blockerId : UInt64}
    {p : Process}
    (h : ∀ b ∈ p.blockerList, b.blockerId ≠ blockerId) :
    ((removeMessageFromList blockerId).run p).value = none ∧
      withoutBlocker blockerId p.blockerList = p.blockerList := by
  have htake : takeBlocker blockerId p.blockerList = none := by
    rw [takeBlocker, takeFirst_eq_none_iff]
    simpa using h
  rw [removeMessageFromList_value, withoutBlocker, htake, withoutFirst_of_none htake]
  exact ⟨rfl, rfl⟩

end MessageBlockerHandler

/-! ## The steps of requests -/

/-- Where the thread of a request is. -/
inductive RequestStage where
  | idle
  /-- The last frame of the request was sent. -/
  | sent (s : SessionRef)
  /-- The entry is in the list. -/
  | registered
  /-- The thread waits on the condition variable of the entry. -/
  | waiting
  /-- The thread was woken, or woke up by itself. -/
  | woken
  | returned (result : Option Bytes)
deriving DecidableEq

/-- A request: its thread, the timer steps since it was registered, and the data of the
first response with its id that was processed, which a multi-block response without a
buffer does not have. -/
structure Request where
  stage : RequestStage := .idle
  timeout : UInt64 := 0
  age : Nat := 0
  response : Option (Option Bytes) := none
  /-- The response was processed before the timeout. -/
  inTime : Bool := false

namespace Request

/-- The timeout of the request has elapsed. -/
def Elapsed (r : Request) : Prop :=
  r.timeout.toNat ≤ r.age

/-- A waiting thread goes on when it is notified; otherwise the notification is lost. -/
def notified (r : Request) : Request :=
  match r.stage with
  | .waiting => { r with stage := .woken }
  | _ => r

def answered (data : Option Bytes) (r : Request) : Request :=
  match r.response with
  | none => { r with response := some data, inTime := decide (r.age < r.timeout.toNat) }
  | some _ => r

/-- A timer step passed. -/
def aged (r : Request) : Request :=
  match r.stage with
  | .idle | .sent _ => r
  | _ => { r with age := r.age + 1 }

end Request

/-- A process with its requests; a request is named by its id. -/
structure Requests where
  process : Process
  request : UInt64 → Request := fun _ => {}

/-- The requests after the notifications. -/
def wakeNotified (outs : List Output) (request : UInt64 → Request) : UInt64 → Request :=
  fun id => if .notifyOne id ∈ outs then (request id).notified else request id

inductive RequestStep where
  /-- The last frame of the request is sent. -/
  | send (s : SessionRef) (id timeout : UInt64)
  | append (id : UInt64)
  | wait (id : UInt64)
  | wakeSpuriously (id : UInt64)
  /-- The woken thread removes its entry and returns. -/
  | remove (id : UInt64)
  /-- The receiver thread processes a response; `process_Data_Multi_Finish` without a
  buffer has no data to store. -/
  | release (id : UInt64) (data : Option Bytes)
  | makeTimerStep

open MessageBlockerHandler in
/-- Any number of requests with distinct ids; the steps come in any order. -/
def requests : TransitionSystem Requests RequestStep where
  init := fun σ => σ.process.blockerList = [] ∧ ∀ id, σ.request id = {}
  step := fun σ a =>
    match a with
    | .send s id timeout =>
        match (σ.request id).stage with
        | .idle => some { σ with
            request := Function.update σ.request id { stage := .sent s, timeout := timeout } }
        | _ => none
    | .append id =>
        match (σ.request id).stage with
        | .sent s => some {
            process := ((addBlocker id (σ.request id).timeout s).run σ.process).process
            request := Function.update σ.request id { σ.request id with stage := .registered } }
        | _ => none
    | .wait id =>
        match (σ.request id).stage with
        | .registered => some { σ with
            request := Function.update σ.request id { σ.request id with stage := .waiting } }
        | _ => none
    | .wakeSpuriously id =>
        match (σ.request id).stage with
        | .waiting => some { σ with
            request := Function.update σ.request id { σ.request id with stage := .woken } }
        | _ => none
    | .remove id =>
        match (σ.request id).stage with
        | .woken => some {
            process := ((removeMessageFromList id).run σ.process).process
            request := Function.update σ.request id { σ.request id with
              stage := .returned ((removeMessageFromList id).run σ.process).value } }
        | _ => none
    | .release id data =>
        match (σ.request id).stage with
        | .idle => none
        | _ => some {
            process := ((releaseMessage id data).run σ.process).process
            request := wakeNotified ((releaseMessage id data).run σ.process).outputs
              (Function.update σ.request id ((σ.request id).answered data)) }
    | .makeTimerStep => some {
        process := (makeTimerStep.run σ.process).process
        request := wakeNotified (makeTimerStep.run σ.process).outputs
          fun id => (σ.request id).aged }

/-- There is an entry of the request. -/
def Requests.Present (σ : Requests) (id : UInt64) : Prop :=
  ∃ b ∈ σ.process.blockerList, b.blockerId = id

/-- A response comes when its request waits and is registered, or when it neither waits
nor is registered any more, and it carries data for a request that waits; a thread wakes
up by itself only after its timeout; no entry with a response is at the last step of its
timer. -/
def RequestStep.Orderly (σ : Requests) : RequestStep → Prop
  | .release id data =>
      (∀ s, (σ.request id).stage ≠ .sent s) ∧ (σ.request id).stage ≠ .registered ∧
        (σ.Present id ↔ (σ.request id).stage = .waiting) ∧
        ((σ.request id).stage = .waiting → data ≠ none)
  | .wakeSpuriously id => (σ.request id).Elapsed
  | .makeTimerStep => ∀ b ∈ σ.process.blockerList, b.timer = 1 → b.responseData = none
  | _ => True

/-- A response that was processed in time is what the request returns; nothing is
returned only after the timeout; a request whose response was processed does not wait. -/
structure Request.NotLost (r : Request) : Prop where
  returned : ∀ result data, r.stage = .returned result → r.response = some data →
    r.inTime = true → result = data
  timedOut : r.stage = .returned none → r.Elapsed
  awake : r.response ≠ none → r.stage ≠ .waiting

/-! ## The invariant -/

/-- What an entry holds of its request. -/
structure Request.Holds (r : Request) (b : MessageBlocker) : Prop where
  stage : r.stage = .registered ∨ r.stage = .waiting ∨ r.stage = .woken
  response : r.response = b.responseData.map some
  timer : r.timeout.toNat ≤ b.timer.toNat + r.age

/-- What holds at each stage, with or without an entry. -/
def Request.Sound (r : Request) (present : Prop) : Prop :=
  (r.inTime = true → r.response ≠ none) ∧
    match r.stage with
    | .idle | .sent _ => r.response = none
    | .registered | .waiting => r.response = none ∧ (¬ present → r.Elapsed)
    | .woken =>
        (r.response = none → r.Elapsed) ∧ (¬ present → r.Elapsed ∧ r.inTime = false)
    | .returned result =>
        (∀ data, result = some data → r.response = some (some data)) ∧
          (result = none → r.Elapsed ∧ r.inTime = false)

structure Waits (σ : Requests) : Prop where
  distinct : (σ.process.blockerList.map MessageBlocker.blockerId).Nodup
  entry : ∀ b ∈ σ.process.blockerList, (σ.request b.blockerId).Holds b
  request : ∀ id, (σ.request id).Sound (σ.Present id)

theorem Request.Sound.notLost
    {r : Request}
    {present : Prop}
    (h : r.Sound present) :
    r.NotLost := by
  obtain ⟨hinTime, hstage⟩ := h
  constructor
  · intro result data hresult hresponse htime
    rw [hresult] at hstage
    cases result with
    | none =>
        rw [(hstage.2 rfl).2] at htime
        cases htime
    | some data' =>
        rw [hstage.1 data' rfl] at hresponse
        exact Option.some.inj hresponse
  · intro hresult
    rw [hresult] at hstage
    exact (hstage.2 rfl).1
  · intro hresponse hwaiting
    rw [hwaiting] at hstage
    exact hresponse hstage.1

/-- After a timer step an entry that is gone was gone before, or it expired without a
response. -/
theorem Request.Sound.aged
    {r : Request}
    {present present' : Prop}
    (h : r.Sound present)
    (hgone : ¬ present' → ¬ present ∨ r.timeout.toNat ≤ r.age + 1 ∧ r.response = none) :
    r.aged.Sound present' := by
  obtain ⟨htime, hstage⟩ := h
  have hlate : r.response = none → r.inTime = false := by
    intro hnone
    by_contra hinTime
    exact htime (by simpa using hinTime) hnone
  have hlater : r.Elapsed → r.timeout.toNat ≤ r.age + 1 := Nat.le_succ_of_le
  obtain ⟨stage, timeout, age, response, inTime⟩ := r
  cases stage with
  | idle => exact ⟨htime, hstage⟩
  | sent s => exact ⟨htime, hstage⟩
  | registered =>
      refine ⟨htime, hstage.1, fun hnot => ?_⟩
      rcases hgone hnot with habsent | hexpired
      · exact hlater (hstage.2 habsent)
      · exact hexpired.1
  | waiting =>
      refine ⟨htime, hstage.1, fun hnot => ?_⟩
      rcases hgone hnot with habsent | hexpired
      · exact hlater (hstage.2 habsent)
      · exact hexpired.1
  | woken =>
      refine ⟨htime, fun hnone => hlater (hstage.1 hnone), fun hnot => ?_⟩
      rcases hgone hnot with habsent | hexpired
      · exact ⟨hlater (hstage.2 habsent).1, (hstage.2 habsent).2⟩
      · exact ⟨hexpired.1, hlate hexpired.2⟩
  | returned result =>
      exact ⟨htime, hstage.1, fun hnone => ⟨hlater (hstage.2 hnone).1, (hstage.2 hnone).2⟩⟩

/-! ## The steps keep the invariant -/

section Steps

variable {σ : Requests} {id : UInt64}

/-- Only the request of one id and its entry change. -/
theorem Waits.change
    (h : Waits σ)
    {process : Process}
    {r : Request}
    (hdistinct : (process.blockerList.map MessageBlocker.blockerId).Nodup)
    (hothers : ∀ b : MessageBlocker, b.blockerId ≠ id →
      (b ∈ process.blockerList ↔ b ∈ σ.process.blockerList))
    (hentry : ∀ b ∈ process.blockerList, b.blockerId = id → r.Holds b)
    (hsound : r.Sound (∃ b ∈ process.blockerList, b.blockerId = id)) :
    Waits ⟨process, Function.update σ.request id r⟩ := by
  refine ⟨hdistinct, ?_, ?_⟩
  · intro b hb
    by_cases hid : b.blockerId = id
    · simp only [hid, Function.update_self]
      exact hentry b hb hid
    · simp only [Function.update_of_ne hid]
      exact h.entry b ((hothers b hid).mp hb)
  · intro id'
    by_cases hid : id' = id
    · subst hid
      simp only [Function.update_self]
      exact hsound
    · have hpresent : (∃ b ∈ process.blockerList, b.blockerId = id') ↔ σ.Present id' := by
        constructor
        · rintro ⟨b, hb, rfl⟩
          exact ⟨b, (hothers b hid).mp hb, rfl⟩
        · rintro ⟨b, hb, rfl⟩
          exact ⟨b, (hothers b hid).mpr hb, rfl⟩
      simp only [Function.update_of_ne hid, Requests.Present, propext hpresent]
      exact h.request id'

/-- The thread takes a step, and the list stays as it is. -/
theorem Waits.update
    (h : Waits σ)
    {r : Request}
    (hentry : ∀ b ∈ σ.process.blockerList, b.blockerId = id → r.Holds b)
    (hsound : r.Sound (σ.Present id)) :
    Waits { σ with request := Function.update σ.request id r } :=
  h.change h.distinct (fun _ _ => Iff.rfl) hentry hsound

/-- Before it is registered and after it returned, a request has no entry. -/
theorem Waits.absent
    (h : Waits σ)
    (hregistered : (σ.request id).stage ≠ .registered)
    (hwaiting : (σ.request id).stage ≠ .waiting)
    (hwoken : (σ.request id).stage ≠ .woken) :
    ¬ σ.Present id := by
  rintro ⟨b, hb, rfl⟩
  rcases (h.entry b hb).stage with hstage | hstage | hstage
  · exact hregistered hstage
  · exact hwaiting hstage
  · exact hwoken hstage

theorem Waits.send
    (h : Waits σ)
    (hidle : (σ.request id).stage = .idle)
    (s : SessionRef)
    (timeout : UInt64) :
    Waits { σ with
      request := Function.update σ.request id { stage := .sent s, timeout := timeout } } := by
  have habsent : ¬ σ.Present id :=
    h.absent (by simp [hidle]) (by simp [hidle]) (by simp [hidle])
  refine h.update (fun b hb hid => absurd ⟨b, hb, hid⟩ habsent) ?_
  exact ⟨fun htime => absurd htime Bool.false_ne_true, rfl⟩

theorem Waits.append
    (h : Waits σ)
    {s : SessionRef}
    (hsent : (σ.request id).stage = .sent s) :
    Waits {
      process :=
        ((MessageBlockerHandler.addBlocker id (σ.request id).timeout s).run σ.process).process
      request := Function.update σ.request id { σ.request id with stage := .registered } } := by
  have habsent : ¬ σ.Present id :=
    h.absent (by simp [hsent]) (by simp [hsent]) (by simp [hsent])
  have hrequest := h.request id
  obtain ⟨htime, hstage⟩ := hrequest
  rw [hsent] at hstage
  have hlist : ((MessageBlockerHandler.addBlocker id (σ.request id).timeout s).run
      σ.process).process.blockerList = σ.process.blockerList ++
        [{ session := s, blockerId := id, timer := (σ.request id).timeout }] := rfl
  refine h.change ?_ ?_ ?_ ?_
  · simp only [hlist, List.map_append, List.map_cons, List.map_nil]
    refine List.nodup_append.mpr ⟨h.distinct, List.nodup_singleton _, ?_⟩
    intro id' hid' new hnew heq
    obtain ⟨b, hb, rfl⟩ := List.mem_map.mp hid'
    exact habsent ⟨b, hb, heq.trans (List.mem_singleton.mp hnew)⟩
  · intro b hid
    simp only [hlist, List.mem_append, List.mem_singleton]
    constructor
    · rintro (hb | rfl)
      · exact hb
      · exact absurd rfl hid
    · exact Or.inl
  · intro b hb hid
    simp only [hlist, List.mem_append, List.mem_singleton] at hb
    rcases hb with hb | rfl
    · exact absurd ⟨b, hb, hid⟩ habsent
    · exact ⟨Or.inl rfl, hstage, Nat.le_add_right _ _⟩
  · refine ⟨htime, hstage, fun hnone => absurd ?_ hnone⟩
    exact ⟨{ session := s, blockerId := id, timer := (σ.request id).timeout },
      by simp, rfl⟩

theorem Waits.wait
    (h : Waits σ)
    (hregistered : (σ.request id).stage = .registered) :
    Waits { σ with
      request := Function.update σ.request id { σ.request id with stage := .waiting } } := by
  obtain ⟨htime, hstage⟩ := h.request id
  rw [hregistered] at hstage
  refine h.update ?_ ⟨htime, hstage⟩
  rintro b hb rfl
  obtain ⟨_, hresponse, htimer⟩ := h.entry b hb
  exact ⟨Or.inr (Or.inl rfl), hresponse, htimer⟩

theorem Waits.wakeSpuriously
    (h : Waits σ)
    (hwaiting : (σ.request id).stage = .waiting)
    (helapsed : (σ.request id).Elapsed) :
    Waits { σ with
      request := Function.update σ.request id { σ.request id with stage := .woken } } := by
  obtain ⟨htime, hstage⟩ := h.request id
  rw [hwaiting] at hstage
  refine h.update ?_ ⟨htime, fun _ => helapsed, fun _ => ⟨helapsed, ?_⟩⟩
  · rintro b hb rfl
    obtain ⟨_, hresponse, htimer⟩ := h.entry b hb
    exact ⟨Or.inr (Or.inr rfl), hresponse, htimer⟩
  · by_contra hinTime
    exact htime (by simpa using hinTime) hstage.1

theorem Waits.remove
    (h : Waits σ)
    (hwoken : (σ.request id).stage = .woken) :
    Waits {
      process := ((MessageBlockerHandler.removeMessageFromList id).run σ.process).process
      request := Function.update σ.request id { σ.request id with
        stage := .returned
          ((MessageBlockerHandler.removeMessageFromList id).run σ.process).value } } := by
  obtain ⟨htime, hstage⟩ := h.request id
  rw [hwoken] at hstage
  obtain ⟨helapsed, habsent⟩ := hstage
  rw [MessageBlockerHandler.removeMessageFromList_process]
  by_cases hpresent : σ.Present id
  · obtain ⟨b, hb, rfl⟩ := hpresent
    obtain ⟨hvalue, hperm⟩ := MessageBlockerHandler.removeMessageFromList_of_mem h.distinct hb
    have hids := hperm.map MessageBlocker.blockerId
    rw [List.map_cons] at hids
    obtain ⟨hgone, hdistinct⟩ := List.nodup_cons.mp (hids.nodup_iff.mp h.distinct)
    have hnone : ∀ e ∈ MessageBlockerHandler.withoutBlocker b.blockerId σ.process.blockerList,
        e.blockerId ≠ b.blockerId :=
      fun e he hid => hgone (List.mem_map.mpr ⟨e, he, hid⟩)
    have hresponse := (h.entry b hb).response
    refine h.change hdistinct ?_ (fun e he hid => absurd hid (hnone e he)) ⟨htime, ?_, ?_⟩
    · intro e hid
      rw [hperm.mem_iff, List.mem_cons]
      constructor
      · exact Or.inr
      · rintro (rfl | he)
        · exact absurd rfl hid
        · exact he
    · intro data hdata
      rw [hvalue] at hdata
      rw [hresponse, hdata]
      rfl
    · intro hdata
      rw [hvalue] at hdata
      rw [hdata] at hresponse
      refine ⟨helapsed hresponse, ?_⟩
      by_contra hinTime
      exact htime (by simpa using hinTime) hresponse
  · have hnone : ∀ b ∈ σ.process.blockerList, b.blockerId ≠ id :=
      fun b hb hid => hpresent ⟨b, hb, hid⟩
    obtain ⟨hvalue, hlist⟩ := MessageBlockerHandler.removeMessageFromList_of_not_mem hnone
    rw [hvalue, hlist]
    refine h.update (fun b hb hid => absurd hid (hnone b hb)) ⟨htime, ?_, ?_⟩
    · intro data hdata
      cases hdata
    · exact fun _ => habsent hpresent

/-- Nobody else is notified by a response. -/
theorem wakeNotified_update
    (request : UInt64 → Request)
    (r : Request)
    {outs : List Output}
    (houts : ∀ id', .notifyOne id' ∈ outs → id' = id) :
    wakeNotified outs (Function.update request id r) =
      Function.update request id (if .notifyOne id ∈ outs then r.notified else r) := by
  funext id'
  unfold wakeNotified
  by_cases hid : id' = id
  · subst hid
    simp only [Function.update_self]
  · have hother : .notifyOne id' ∉ outs := fun hmem => hid (houts id' hmem)
    simp only [Function.update_of_ne hid, if_neg hother]

theorem Waits.release
    (h : Waits σ)
    (hsent : ∀ s, (σ.request id).stage ≠ .sent s)
    (hidle : (σ.request id).stage ≠ .idle)
    (hregistered : (σ.request id).stage ≠ .registered)
    (hpresent : σ.Present id ↔ (σ.request id).stage = .waiting)
    {data : Option Bytes}
    (hdata : (σ.request id).stage = .waiting → data ≠ none) :
    Waits {
      process := ((MessageBlockerHandler.releaseMessage id data).run σ.process).process
      request := wakeNotified
        ((MessageBlockerHandler.releaseMessage id data).run σ.process).outputs
        (Function.update σ.request id ((σ.request id).answered data)) } := by
  obtain ⟨htime, hstage⟩ := h.request id
  rw [MessageBlockerHandler.releaseMessage_process, MessageBlockerHandler.releaseMessage_outputs]
  by_cases hwaiting : (σ.request id).stage = .waiting
  · obtain ⟨b, hb, hid⟩ := hpresent.mpr hwaiting
    have hany : σ.process.blockerList.any (fun e => e.blockerId == id) = true :=
      List.any_eq_true.mpr ⟨b, hb, by simpa using hid⟩
    rw [hwaiting] at hstage
    rw [if_pos hany, wakeNotified_update _ _ (by simp), if_pos (by simp)]
    have hanswered : ((σ.request id).answered data).notified =
        { σ.request id with
          stage := .woken
          response := some data
          inTime := decide ((σ.request id).age < (σ.request id).timeout.toNat) } := by
      simp [Request.answered, Request.notified, hstage.1, hwaiting]
    rw [hanswered]
    refine h.change ?_ ?_ ?_ ⟨by simp, by simp, ?_⟩
    · simp only [MessageBlockerHandler.map_blockerId_storeResponse]
      exact h.distinct
    · intro e hne
      exact MessageBlockerHandler.mem_storeResponse_of_ne hne _ _
    · intro e he heq
      rcases MessageBlockerHandler.of_mem_storeResponse h.distinct he with
        ⟨_, hne⟩ | ⟨k, hk, hkid, rfl⟩
      · exact absurd heq hne
      · have htimer := (h.entry k hk).timer
        rw [hkid] at htimer
        obtain ⟨bytes, rfl⟩ := Option.ne_none_iff_exists'.mp (hdata hwaiting)
        exact ⟨Or.inr (Or.inr rfl), rfl, htimer⟩
    · intro hgone
      refine absurd ?_ hgone
      have hids := MessageBlockerHandler.map_blockerId_storeResponse id data
        σ.process.blockerList
      have hmem : id ∈ (MessageBlockerHandler.storeResponse id data
          σ.process.blockerList).map MessageBlocker.blockerId := by
        rw [hids]
        exact List.mem_map.mpr ⟨b, hb, hid⟩
      exact List.mem_map.mp hmem
  · have habsent : ¬ σ.Present id := fun hmem => hwaiting (hpresent.mp hmem)
    have hnone : ∀ b ∈ σ.process.blockerList, b.blockerId ≠ id :=
      fun b hb hid => habsent ⟨b, hb, hid⟩
    have hany : σ.process.blockerList.any (fun e => e.blockerId == id) = false :=
      List.any_eq_false.mpr fun b hb => by simpa using hnone b hb
    rw [MessageBlockerHandler.storeResponse_of_not_any _ hany, if_neg (by simp [hany]),
      wakeNotified_update _ _ (by simp), if_neg List.not_mem_nil]
    refine h.update (fun b hb hid => absurd hid (hnone b hb)) ?_
    cases hresponse : (σ.request id).response with
    | some first =>
        have hsame : (σ.request id).answered data = σ.request id := by
          rw [Request.answered, hresponse]
        rw [hsame]
        exact h.request id
    | none =>
        have helapsed : (σ.request id).Elapsed := by
          cases hwhere : (σ.request id).stage with
          | idle => exact absurd hwhere hidle
          | sent s => exact absurd hwhere (hsent s)
          | registered => exact absurd hwhere hregistered
          | waiting => exact absurd hwhere hwaiting
          | woken =>
              rw [hwhere] at hstage
              exact hstage.1 hresponse
          | returned result =>
              rw [hwhere] at hstage
              cases result with
              | none => exact (hstage.2 rfl).1
              | some data' =>
                  have hdata := hstage.1 data' rfl
                  rw [hresponse] at hdata
                  cases hdata
        have hlate : decide ((σ.request id).age < (σ.request id).timeout.toNat) = false :=
          decide_eq_false (Nat.not_lt.mpr helapsed)
        have hanswered : (σ.request id).answered data =
            { σ.request id with response := some data, inTime := false } := by
          simp only [Request.answered, hresponse, hlate]
        rw [hanswered]
        refine ⟨by simp, ?_⟩
        cases hwhere : (σ.request id).stage with
        | idle => exact absurd hwhere hidle
        | sent s => exact absurd hwhere (hsent s)
        | registered => exact absurd hwhere hregistered
        | waiting => exact absurd hwhere hwaiting
        | woken => exact ⟨fun _ => helapsed, fun _ => ⟨helapsed, rfl⟩⟩
        | returned result =>
            rw [hwhere] at hstage
            refine ⟨?_, fun _ => ⟨helapsed, rfl⟩⟩
            intro data' hdata
            have hfirst := hstage.1 data' hdata
            rw [hresponse] at hfirst
            cases hfirst

theorem Waits.makeTimerStep
    (h : Waits σ)
    (hquiet : ∀ b ∈ σ.process.blockerList, b.timer = 1 → b.responseData = none) :
    Waits {
      process := (MessageBlockerHandler.makeTimerStep.run σ.process).process
      request := wakeNotified (MessageBlockerHandler.makeTimerStep.run σ.process).outputs
        fun id => (σ.request id).aged } := by
  have hnobody : wakeNotified (MessageBlockerHandler.makeTimerStep.run σ.process).outputs
      (fun id => (σ.request id).aged) = fun id => (σ.request id).aged := by
    funext id
    exact if_neg (MessageBlockerHandler.not_notified_makeTimerStep h.distinct id)
  rw [hnobody, MessageBlockerHandler.blockerList_makeTimerStep h.distinct]
  refine ⟨MessageBlockerHandler.nodup_countDown h.distinct, ?_, ?_⟩
  · intro e he
    obtain ⟨b, hb, hcases⟩ := MessageBlockerHandler.of_mem_countDown he
    obtain ⟨hstage, hresponse, htimer⟩ := h.entry b hb
    have haged : (σ.request b.blockerId).aged =
        { σ.request b.blockerId with age := (σ.request b.blockerId).age + 1 } := by
      rcases hstage with hstage | hstage | hstage
      · simp [Request.aged, hstage]
      · simp [Request.aged, hstage]
      · simp [Request.aged, hstage]
    rcases hcases with rfl | rfl
    · simp only [haged]
      exact ⟨hstage, hresponse, Nat.le_succ_of_le htimer⟩
    · have hid : (MessageBlockerHandler.down b).blockerId = b.blockerId := rfl
      simp only [hid, haged]
      refine ⟨hstage, hresponse, ?_⟩
      have hlt := b.timer.toNat_lt
      have hone : (1 : UInt64).toNat = 1 := rfl
      have htimeout := (σ.request b.blockerId).timeout.toNat_lt
      simp only [MessageBlockerHandler.down, UInt64.toNat_sub, hone]
      omega
  · intro id
    refine (h.request id).aged ?_
    intro hnot
    by_cases hpresent : σ.Present id
    · obtain ⟨b, hb, rfl⟩ := hpresent
      have hone : b.timer = 1 := by
        by_contra hne
        exact hnot (MessageBlockerHandler.exists_mem_countDown hb hne)
      obtain ⟨_, hresponse, htimer⟩ := h.entry b hb
      rw [hone, Nat.add_comm] at htimer
      rw [hquiet b hb hone] at hresponse
      exact Or.inr ⟨htimer, hresponse⟩
    · exact Or.inl hpresent

end Steps

/-- Every orderly step keeps the invariant. -/
theorem Waits.step
    {σ σ' : Requests}
    {a : RequestStep}
    (h : Waits σ)
    (horderly : a.Orderly σ)
    (hstep : requests.step σ a = some σ') :
    Waits σ' := by
  cases a with
  | send s id timeout =>
      simp only [requests] at hstep
      split at hstep
      · rename_i hidle
        cases hstep
        exact h.send hidle s timeout
      · cases hstep
  | append id =>
      simp only [requests] at hstep
      split at hstep
      · rename_i s hsent
        cases hstep
        exact h.append hsent
      · cases hstep
  | wait id =>
      simp only [requests] at hstep
      split at hstep
      · rename_i hregistered
        cases hstep
        exact h.wait hregistered
      · cases hstep
  | wakeSpuriously id =>
      simp only [requests] at hstep
      split at hstep
      · rename_i hwaiting
        cases hstep
        exact h.wakeSpuriously hwaiting horderly
      · cases hstep
  | remove id =>
      simp only [requests] at hstep
      split at hstep
      · rename_i hwoken
        cases hstep
        exact h.remove hwoken
      · cases hstep
  | release id data =>
      simp only [requests] at hstep
      split at hstep
      · cases hstep
      · rename_i hidle
        cases hstep
        obtain ⟨hsent, hregistered, hpresent, hdata⟩ := horderly
        exact h.release hsent hidle hregistered hpresent hdata
  | makeTimerStep =>
      cases hstep
      exact h.makeTimerStep horderly

/-- In every run of orderly steps no response is lost. -/
theorem no_response_lost
    {σ : Requests}
    (hrun : requests.Reaches (fun σ a => a.Orderly σ) σ)
    (id : UInt64) :
    (σ.request id).NotLost := by
  have hwaits : Waits σ := by
    refine hrun.invariant ?_ fun σ a σ' h horderly hstep => h.step horderly hstep
    rintro σ ⟨hlist, hrequest⟩
    refine ⟨?_, ?_, ?_⟩
    · rw [hlist]
      exact List.nodup_nil
    · rw [hlist]
      intro b hb
      cases hb
    · intro id
      rw [hrequest id]
      exact ⟨fun htime => absurd htime Bool.false_ne_true, rfl⟩
  exact (hwaits.request id).notLost

/-- Before any request. -/
def noRequests : Requests where
  process := Process.created (fun _ => none)

theorem noRequests_init : requests.init noRequests :=
  ⟨rfl, fun _ => rfl⟩

/-- A request is answered while it waits. -/
def answeredWaiting : List RequestStep :=
  [.send 0 9 10, .append 9, .wait 9, .makeTimerStep, .release 9 (some [5]), .remove 9]

/-- The response to the request 9 is processed before its entry is in the list. -/
def answeredEarly : List RequestStep :=
  [.send 0 9 10, .release 9 (some [5]), .append 9, .wait 9]

theorem execAllowed_answeredWaiting :
    requests.execAllowed (fun σ a => a.Orderly σ) noRequests answeredWaiting := by
  refine ⟨trivial, fun σ₁ h₁ => ?_⟩
  obtain rfl := Option.some.inj h₁
  refine ⟨trivial, fun σ₂ h₂ => ?_⟩
  obtain rfl := Option.some.inj h₂
  refine ⟨trivial, fun σ₃ h₃ => ?_⟩
  obtain rfl := Option.some.inj h₃
  refine ⟨?_, fun σ₄ h₄ => ?_⟩
  · intro b hb _
    obtain rfl := List.mem_singleton.mp hb
    rfl
  obtain rfl := Option.some.inj h₄
  refine ⟨⟨?_, ?_, ?_, ?_⟩, fun σ₅ h₅ => ?_⟩
  · intro s h
    cases h
  · intro h
    cases h
  · exact ⟨fun _ => rfl, fun _ => ⟨_, List.mem_singleton.mpr rfl, rfl⟩⟩
  · intro _
    exact Option.some_ne_none _
  obtain rfl := Option.some.inj h₅
  exact ⟨trivial, fun _ _ => trivial⟩

theorem no_response_lost_answeredWaiting :
    ∃ σ, requests.exec noRequests answeredWaiting = some σ ∧
      (σ.request 9).stage = .returned (some [5]) ∧ (σ.request 9).NotLost := by
  refine ⟨_, rfl, rfl, no_response_lost ?_ 9⟩
  exact (TransitionSystem.Reaches.init noRequests_init).of_exec execAllowed_answeredWaiting rfl

/-- A request waits although its response was processed. -/
theorem response_lost :
    ¬ ∀ σ, requests.Reachable σ → ∀ id, (σ.request id).NotLost := by
  intro h
  obtain ⟨σ, hexec, hwaiting, hresponse⟩ : ∃ σ,
      requests.exec noRequests answeredEarly = some σ ∧
        (σ.request 9).stage = .waiting ∧ (σ.request 9).response = some (some [5]) :=
    ⟨_, rfl, rfl, rfl⟩
  have hreached := TransitionSystem.Reachable.of_exec noRequests_init hexec
  exact (h σ hreached 9).awake (by simp [hresponse]) hwaiting

end SakuraNetwork

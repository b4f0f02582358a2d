import SakuraNetwork.RequestWaits

/-!
# Requests that are served

Every response comes while its request waits, and no entry is at the last step of its timer
when the timer steps.  Then a request has its entry until it returns, and it does not return
without a response.

* `RequestStep.Serves`: the steps of such a run.
* `Served`, `Served.step`: what holds in it.
* `thread_step`: what the other steps leave unchanged.
-/

namespace SakuraNetwork

open Lib

/-- A request that is registered has its entry, and one that was woken has a response. -/
def Request.Served (r : Request) (present : Prop) : Prop :=
  match r.stage with
  | .idle | .sent _ => True
  | .registered | .waiting => present
  | .woken => present ∧ r.response ≠ none
  | .returned result => result ≠ none

theorem Request.Served.mono
    {r : Request}
    {present present' : Prop}
    (h : r.Served present)
    (hpresent : present → present') :
    r.Served present' := by
  unfold Request.Served at h ⊢
  cases hstage : r.stage with
  | idle => trivial
  | sent s => trivial
  | registered =>
      rw [hstage] at h
      exact hpresent h
  | waiting =>
      rw [hstage] at h
      exact hpresent h
  | woken =>
      rw [hstage] at h
      exact ⟨hpresent h.1, h.2⟩
  | returned result =>
      rw [hstage] at h
      exact h

/-- The age of a request is not looked at. -/
theorem Request.Served.aged
    {r : Request}
    {present : Prop}
    (h : r.Served present) :
    r.aged.Served present := by
  obtain ⟨stage, timeout, age, response, inTime⟩ := r
  cases stage with
  | idle => exact h
  | sent s => exact h
  | registered => exact h
  | waiting => exact h
  | woken => exact h
  | returned result => exact h

/-- A response with data comes while its request waits, a thread goes on only when it is
notified, and no entry is at the last step of its timer. -/
def RequestStep.Serves (σ : Requests) : RequestStep → Prop
  | .release id data => (σ.request id).stage = .waiting ∧ data ≠ none
  | .wakeSpuriously _ => False
  | .makeTimerStep => ∀ b ∈ σ.process.blockerList, b.timer ≠ 1
  | _ => True

structure Served (σ : Requests) : Prop where
  waits : Waits σ
  request : ∀ id, (σ.request id).Served (σ.Present id)

namespace Served

variable {σ σ' : Requests} {id : UInt64}

theorem present_of_waiting
    (h : Served σ)
    (hwaiting : (σ.request id).stage = .waiting) :
    σ.Present id := by
  have hserved := h.request id
  rw [Request.Served, hwaiting] at hserved
  exact hserved

/-- Such a step is an orderly one. -/
theorem orderly
    (h : Served σ)
    {a : RequestStep}
    (ha : a.Serves σ) :
    a.Orderly σ := by
  cases a with
  | release id data =>
      obtain ⟨hwaiting, hdata⟩ := ha
      refine ⟨fun s => by simp [hwaiting], by simp [hwaiting], ?_, fun _ => hdata⟩
      exact iff_of_true (h.present_of_waiting hwaiting) hwaiting
  | wakeSpuriously id => exact ha.elim
  | makeTimerStep => exact fun b hb hone => absurd hone (ha b hb)
  | send => trivial
  | append => trivial
  | wait => trivial
  | remove => trivial

/-- Nothing is said about the rest of the process. -/
theorem congr
    (h : Served σ)
    {process : Process}
    (hlist : process.blockerList = σ.process.blockerList) :
    Served ⟨process, σ.request⟩ := by
  have hpresent : ∀ id, (Requests.mk process σ.request).Present id = σ.Present id := by
    intro id
    rw [Requests.Present, Requests.Present, hlist]
  refine ⟨⟨?_, ?_, ?_⟩, ?_⟩
  · rw [hlist]
    exact h.waits.distinct
  · rw [hlist]
    exact h.waits.entry
  · intro id
    rw [hpresent]
    exact h.waits.request id
  · intro id
    rw [hpresent]
    exact h.request id

/-- Only one request changes, and the others keep their entries. -/
theorem change
    (h : Served σ)
    {process : Process}
    {r : Request}
    (hwaits : Waits ⟨process, Function.update σ.request id r⟩)
    (hothers : ∀ b ∈ σ.process.blockerList, b.blockerId ≠ id → b ∈ process.blockerList)
    (hserved : r.Served (∃ b ∈ process.blockerList, b.blockerId = id)) :
    Served ⟨process, Function.update σ.request id r⟩ := by
  refine ⟨hwaits, fun id' => ?_⟩
  by_cases hid : id' = id
  · subst hid
    simp only [Function.update_self]
    exact hserved
  · simp only [Function.update_of_ne hid]
    refine (h.request id').mono ?_
    rintro ⟨b, hb, rfl⟩
    exact ⟨b, hothers b hb hid, rfl⟩

/-- Where nothing expires, an entry is counted down. -/
theorem present_makeTimerStep
    (h : Served σ)
    (hquiet : ∀ b ∈ σ.process.blockerList, b.timer ≠ 1)
    (hpresent : σ.Present id) :
    ∃ b ∈ (MessageBlockerHandler.makeTimerStep.run σ.process).process.blockerList,
      b.blockerId = id := by
  obtain ⟨b, hb, rfl⟩ := hpresent
  rw [MessageBlockerHandler.blockerList_makeTimerStep h.waits.distinct]
  exact MessageBlockerHandler.exists_mem_countDown hb (hquiet b hb)

/-- A response is stored in the entry of the request that waits, and wakes its thread. -/
theorem release
    (h : Served σ)
    (hwaiting : (σ.request id).stage = .waiting)
    (data : Option Bytes) :
    ∃ r : Request, r.response = some data ∧ r.stage = .woken ∧
      wakeNotified ((MessageBlockerHandler.releaseMessage id data).run σ.process).outputs
          (Function.update σ.request id ((σ.request id).answered data)) =
        Function.update σ.request id r := by
  obtain ⟨b, hb, hid⟩ := h.present_of_waiting hwaiting
  have hany : σ.process.blockerList.any (fun e => e.blockerId == id) = true :=
    List.any_eq_true.mpr ⟨b, hb, by simpa using hid⟩
  have hsound := (h.waits.request id).2
  rw [hwaiting] at hsound
  refine ⟨((σ.request id).answered data).notified, ?_, ?_, ?_⟩
  · simp [Request.answered, Request.notified, hsound.1, hwaiting]
  · simp [Request.answered, Request.notified, hsound.1, hwaiting]
  · rw [MessageBlockerHandler.releaseMessage_outputs, if_pos hany,
      wakeNotified_update _ _ (by simp), if_pos (by simp)]

theorem step
    (h : Served σ)
    {a : RequestStep}
    (ha : a.Serves σ)
    (hstep : requests.step σ a = some σ') :
    Served σ' := by
  have hwaits : Waits σ' := h.waits.step (h.orderly ha) hstep
  cases a with
  | send s id timeout =>
      simp only [requests] at hstep
      split at hstep
      · cases hstep
        exact h.change hwaits (fun _ hb _ => hb) trivial
      · cases hstep
  | append id =>
      simp only [requests] at hstep
      split at hstep
      · rename_i s hsent
        cases hstep
        refine h.change hwaits (fun b hb _ => List.mem_append_left _ hb) ?_
        exact ⟨_, List.mem_append_right _ (List.mem_singleton.mpr rfl), rfl⟩
      · cases hstep
  | wait id =>
      simp only [requests] at hstep
      split at hstep
      · rename_i hregistered
        cases hstep
        have hserved := h.request id
        rw [Request.Served, hregistered] at hserved
        exact h.change hwaits (fun _ hb _ => hb) hserved
      · cases hstep
  | wakeSpuriously id => exact ha.elim
  | remove id =>
      simp only [requests] at hstep
      split at hstep
      · rename_i hwoken
        cases hstep
        have hserved := h.request id
        rw [Request.Served, hwoken] at hserved
        obtain ⟨⟨b, hb, rfl⟩, hresponse⟩ := hserved
        obtain ⟨hvalue, hperm⟩ :=
          MessageBlockerHandler.removeMessageFromList_of_mem h.waits.distinct hb
        refine h.change hwaits (fun e he hne => ?_) ?_
        · rw [MessageBlockerHandler.removeMessageFromList_process]
          rcases List.mem_cons.mp (hperm.mem_iff.mp he) with rfl | hrest
          · exact absurd rfl hne
          · exact hrest
        · rw [hvalue]
          intro hnone
          rw [(h.waits.entry b hb).response, hnone] at hresponse
          exact hresponse rfl
      · cases hstep
  | release id data =>
      simp only [requests] at hstep
      split at hstep
      · cases hstep
      · cases hstep
        obtain ⟨r, hresponse, hwoken, hrequest⟩ := h.release ha.1 data
        simp only [hrequest] at hwaits ⊢
        have hkept : ∀ id', (∃ b ∈ σ.process.blockerList, b.blockerId = id') →
            ∃ b ∈ MessageBlockerHandler.storeResponse id data σ.process.blockerList,
              b.blockerId = id' := by
          intro id' hpresent
          refine List.mem_map.mp ?_
          rw [MessageBlockerHandler.map_blockerId_storeResponse]
          exact List.mem_map.mpr hpresent
        refine h.change hwaits ?_ ?_
        · intro b hb hne
          rw [MessageBlockerHandler.releaseMessage_process]
          exact (MessageBlockerHandler.mem_storeResponse_of_ne hne data _).mpr hb
        · rw [Request.Served, hwoken, MessageBlockerHandler.releaseMessage_process]
          exact ⟨hkept id (h.present_of_waiting ha.1), by simp [hresponse]⟩
  | makeTimerStep =>
      cases hstep
      refine ⟨hwaits, fun id => ?_⟩
      have hnobody : wakeNotified (MessageBlockerHandler.makeTimerStep.run σ.process).outputs
          (fun id => (σ.request id).aged) = fun id => (σ.request id).aged := by
        funext id
        exact if_neg (MessageBlockerHandler.not_notified_makeTimerStep h.waits.distinct id)
      have hserved := (h.request id).mono (h.present_makeTimerStep ha)
      simp only [hnobody]
      exact hserved.aged

/-- The receive thread processed a response, and did nothing else with the list. -/
theorem answered
    (h : Served σ)
    (hwaiting : (σ.request id).stage = .waiting)
    {bytes : Bytes}
    {process : Process}
    (hlist : process.blockerList =
      MessageBlockerHandler.storeResponse id (some bytes) σ.process.blockerList) :
    ∃ r : Request, r.response = some (some bytes) ∧
      wakeNotified
          ((MessageBlockerHandler.releaseMessage id (some bytes)).run σ.process).outputs
          (Function.update σ.request id ((σ.request id).answered (some bytes))) =
        Function.update σ.request id r ∧
      Served ⟨process, Function.update σ.request id r⟩ := by
  obtain ⟨r, hresponse, _, hrequest⟩ := h.release hwaiting (some bytes)
  have hstep : requests.step σ (.release id (some bytes)) = some
      ⟨((MessageBlockerHandler.releaseMessage id (some bytes)).run σ.process).process,
        Function.update σ.request id r⟩ := by
    simp only [requests, hwaiting]
    rw [hrequest]
  have hserves : (RequestStep.release id (some bytes)).Serves σ :=
    ⟨hwaiting, Option.some_ne_none bytes⟩
  refine ⟨r, hresponse, hrequest, (h.step hserves hstep).congr ?_⟩
  rw [hlist, MessageBlockerHandler.releaseMessage_process]

/-- What a request that returned has got. -/
theorem returned
    (h : Served σ)
    {result : Option Bytes}
    (hreturned : (σ.request id).stage = .returned result) :
    ∃ data, result = some data ∧ (σ.request id).response = some (some data) := by
  have hserved := h.request id
  rw [Request.Served, hreturned] at hserved
  obtain ⟨data, rfl⟩ := Option.ne_none_iff_exists'.mp hserved
  have hsound := (h.waits.request id).2
  rw [hreturned] at hsound
  exact ⟨data, rfl, hsound.1 data rfl⟩

/-- A request that waits has no response. -/
theorem response_of_waiting
    (h : Served σ)
    (hwaiting : (σ.request id).stage = .waiting) :
    (σ.request id).response = none := by
  have hsound := (h.waits.request id).2
  rw [hwaiting] at hsound
  exact hsound.1

end Served

/-! ## The steps of the threads -/

/-- A step of one request that keeps its response. -/
theorem thread_change
    {request : UInt64 → Request}
    {id : UInt64}
    {r : Request}
    (hresponse : r.response = (request id).response)
    {P : UInt64 → Prop}
    (hstage : (request id).stage ≠ .idle ∨ P id)
    (id' : UInt64) :
    (Function.update request id r id').response = (request id').response ∧
      ((Function.update request id r id').stage ≠ .idle → (request id').stage ≠ .idle ∨ P id') := by
  by_cases hid : id' = id
  · subst hid
    rw [Function.update_self]
    exact ⟨hresponse, fun _ => hstage⟩
  · rw [Function.update_of_ne hid]
    exact ⟨rfl, Or.inl⟩

/-- A step that brings no response changes only the list of the process; no request gets a
response, and only the one that is sent is no longer idle. -/
theorem thread_step
    {σ σ' : Requests}
    {a : RequestStep}
    (hwaits : Waits σ)
    (hthread : ∀ id data, a ≠ .release id data)
    (hstep : requests.step σ a = some σ') :
    (∃ l, σ'.process = { σ.process with blockerList := l }) ∧
      ∀ id, (σ'.request id).response = (σ.request id).response ∧
        ((σ'.request id).stage ≠ .idle →
          (σ.request id).stage ≠ .idle ∨ ∃ s timeout, a = .send s id timeout) := by
  cases a with
  | send s id timeout =>
      simp only [requests] at hstep
      split at hstep
      · rename_i hidle
        cases hstep
        have hsound := (hwaits.request id).2
        rw [hidle] at hsound
        exact ⟨⟨_, rfl⟩, thread_change hsound.symm (Or.inr ⟨s, timeout, rfl⟩)⟩
      · cases hstep
  | append id =>
      simp only [requests] at hstep
      split at hstep
      · rename_i s hsent
        cases hstep
        have hbusy : (σ.request id).stage ≠ .idle := by simp [hsent]
        exact ⟨⟨_, rfl⟩, thread_change (by rfl) (Or.inl hbusy)⟩
      · cases hstep
  | wait id =>
      simp only [requests] at hstep
      split at hstep
      · rename_i hregistered
        cases hstep
        have hbusy : (σ.request id).stage ≠ .idle := by simp [hregistered]
        exact ⟨⟨_, rfl⟩, thread_change (by rfl) (Or.inl hbusy)⟩
      · cases hstep
  | wakeSpuriously id =>
      simp only [requests] at hstep
      split at hstep
      · rename_i hwaiting
        cases hstep
        have hbusy : (σ.request id).stage ≠ .idle := by simp [hwaiting]
        exact ⟨⟨_, rfl⟩, thread_change (by rfl) (Or.inl hbusy)⟩
      · cases hstep
  | remove id =>
      simp only [requests] at hstep
      split at hstep
      · rename_i hwoken
        cases hstep
        have hbusy : (σ.request id).stage ≠ .idle := by simp [hwoken]
        have hprocess := MessageBlockerHandler.removeMessageFromList_process id σ.process
        exact ⟨⟨_, hprocess⟩, thread_change (by rfl) (Or.inl hbusy)⟩
      · cases hstep
  | release id data => exact absurd rfl (hthread id data)
  | makeTimerStep =>
      cases hstep
      have hnobody : wakeNotified (MessageBlockerHandler.makeTimerStep.run σ.process).outputs
          (fun id => (σ.request id).aged) = fun id => (σ.request id).aged := by
        funext id
        exact if_neg (MessageBlockerHandler.not_notified_makeTimerStep hwaits.distinct id)
      simp only [hnobody]
      refine ⟨⟨_, MessageBlockerHandler.blockerList_makeTimerStep hwaits.distinct⟩, fun id => ?_⟩
      obtain ⟨stage, timeout, age, response, inTime⟩ := σ.request id
      cases stage with
      | idle => exact ⟨rfl, fun hidle => absurd rfl hidle⟩
      | sent s => exact ⟨rfl, Or.inl⟩
      | _ => exact ⟨rfl, fun _ => Or.inl (by simp)⟩

end SakuraNetwork

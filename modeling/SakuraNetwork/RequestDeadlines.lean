import SakuraNetwork.Lib.Countdown
import SakuraNetwork.RequestWaits

/-!
# How long a request is blocked

A timer step that removes an entry moves the last one into the gap and passes it over.  A
request may then stay in the list for more steps than its timeout, but only for one more
for each other request.

* `Listed`: the requests in the list are begun, and their ids are different.
* `exists_of_mem_timerStep`: what a timer step does to each entry that is left.
* `blocked_at_most`: in every run the timer steps that find a request in the list are at
  most its timeout, the other requests, and those that are registered meanwhile.
-/

namespace SakuraNetwork

open Lib

namespace MessageBlockerHandler

/-- The timer steps until the entry is removed; a timer at zero wraps around. -/
def stepsLeft (b : MessageBlocker) : Nat :=
  (b.timer - 1).toNat + 1

theorem stepsLeft_down
    {b : MessageBlocker}
    (hb : b.timer ≠ 1) :
    stepsLeft (down b) < stepsLeft b := by
  have hne : (b.timer - 1).toNat ≠ 0 := by
    intro hzero
    exact hb ((sub_one_eq_zero_iff _).mp (UInt64.toNat_inj.mp hzero))
  have hone : (1 : UInt64).toNat = 1 := rfl
  have hlt := (b.timer - 1).toNat_lt
  have hdown : (b.timer - 1 - 1).toNat + 1 = (b.timer - 1).toNat := by
    rw [UInt64.toNat_sub, hone]
    omega
  simp only [stepsLeft, down]
  omega

theorem length_countDown_le (l : List MessageBlocker) :
    (countDown l).length ≤ l.length := by
  have h := (subperm_countDown l).length_le
  rw [List.length_map, List.length_map] at h
  exact h

/-- Each entry that is left was in the list, and it is one step closer to its end, or the
list is shorter. -/
theorem exists_of_mem_countDown
    {l : List MessageBlocker}
    {b' : MessageBlocker}
    (hb' : b' ∈ countDown l) :
    ∃ b ∈ l, b.blockerId = b'.blockerId ∧
      stepsLeft b' + (countDown l).length < stepsLeft b + l.length := by
  induction l using countDown_induction with
  | nil =>
      rw [countDown] at hb'
      cases hb'
  | last b hb =>
      rw [countDown_of_last hb] at hb'
      cases hb'
  | expired b post z hb ih =>
      have hle := length_countDown_le post
      rw [countDown_of_expired hb] at hb' ⊢
      simp only [List.length_cons, List.length_append, List.length_nil]
      rcases List.mem_cons.mp hb' with rfl | hb'
      · exact ⟨b', by simp, rfl, by omega⟩
      · obtain ⟨e, he, hid, hlt⟩ := ih hb'
        exact ⟨e, by simp [he], hid, by omega⟩
  | running b post hb ih =>
      have hle := length_countDown_le post
      rw [countDown_of_running hb] at hb' ⊢
      simp only [List.length_cons]
      rcases List.mem_cons.mp hb' with rfl | hb'
      · have hlt := stepsLeft_down hb
        exact ⟨b, List.mem_cons_self, rfl, by omega⟩
      · obtain ⟨e, he, hid, hlt⟩ := ih hb'
        exact ⟨e, List.mem_cons_of_mem b he, hid, by omega⟩

/-- Each entry that is left was there, with the same id and timer. -/
structure Leaves (l l' : List MessageBlocker) : Prop where
  entry : ∀ b' ∈ l', ∃ b ∈ l, b.blockerId = b'.blockerId ∧ b.timer = b'.timer
  length : l'.length ≤ l.length
  distinct : (l.map MessageBlocker.blockerId).Nodup → (l'.map MessageBlocker.blockerId).Nodup

namespace Leaves

theorem refl (l : List MessageBlocker) : Leaves l l :=
  ⟨fun b hb => ⟨b, hb, rfl, rfl⟩, Nat.le_refl _, id⟩

theorem withoutBlocker (blockerId : UInt64) (l : List MessageBlocker) :
    Leaves l (withoutBlocker blockerId l) := by
  refine ⟨fun b hb => ⟨b, mem_of_mem_withoutFirst hb, rfl, rfl⟩, ?_, ?_⟩
  · exact (withoutFirst_subperm _ l).length_le
  · exact fun hids => nodup_withoutFirst hids _

theorem storeResponse
    (blockerId : UInt64)
    (data : Option Bytes)
    (l : List MessageBlocker) :
    Leaves l (storeResponse blockerId data l) := by
  have hforget := map_forgetResponse_storeResponse blockerId data l
  refine ⟨?_, ?_, ?_⟩
  · intro b' hb'
    have hmem : forgetResponse b' ∈ l.map forgetResponse := by
      rw [← hforget]
      exact List.mem_map.mpr ⟨b', hb', rfl⟩
    obtain ⟨b, hb, hsame⟩ := List.mem_map.mp hmem
    have hid := congrArg MessageBlocker.blockerId hsame
    have htimer := congrArg MessageBlocker.timer hsame
    exact ⟨b, hb, hid, htimer⟩
  · have hlength := congrArg List.length hforget
    rw [List.length_map, List.length_map] at hlength
    exact Nat.le_of_eq hlength
  · rw [map_blockerId_storeResponse]
    exact id

end Leaves

end MessageBlockerHandler

/-! ## The steps of requests -/

open MessageBlockerHandler

/-- The request was registered. -/
def Request.Begun (r : Request) : Prop :=
  r.stage ≠ .idle ∧ ∀ s, r.stage ≠ .sent s

theorem Request.Begun.notified
    {r : Request}
    (h : r.Begun) :
    r.notified.Begun := by
  unfold Request.notified
  split
  · exact ⟨RequestStage.noConfusion, fun _ => RequestStage.noConfusion⟩
  · exact h

theorem Request.Begun.answered
    {r : Request}
    (h : r.Begun)
    (data : Option Bytes) :
    (r.answered data).Begun := by
  unfold Request.answered
  split
  · exact h
  · exact h

theorem Request.Begun.aged
    {r : Request}
    (h : r.Begun) :
    r.aged.Begun := by
  unfold Request.aged
  split
  · exact h
  · exact h
  · exact h

/-- The step is one of the timer. -/
def RequestStep.isTimerStep : RequestStep → Bool
  | .makeTimerStep => true
  | _ => false

/-- The step registers a request. -/
def RequestStep.appends : RequestStep → Bool
  | .append _ => true
  | _ => false

section Steps

variable {σ σ' : Requests} {a : RequestStep}

/-- A request stays begun. -/
theorem Request.Begun.step
    {id : UInt64}
    (h : (σ.request id).Begun)
    (hstep : requests.step σ a = some σ') :
    (σ'.request id).Begun := by
  have hupdate : ∀ (i : UInt64) (r : Request), (i = id → r.Begun) →
      (Function.update σ.request i r id).Begun := by
    intro i r hr
    by_cases hid : id = i
    · rw [hid, Function.update_self]
      exact hr hid.symm
    · rw [Function.update_of_ne hid]
      exact h
  have hwoken : ∀ (outs : List Output) (request : UInt64 → Request), (request id).Begun →
      (wakeNotified outs request id).Begun := by
    intro outs request hrequest
    unfold wakeNotified
    split
    · exact hrequest.notified
    · exact hrequest
  cases a with
  | send s i timeout =>
      simp only [requests] at hstep
      split at hstep
      · rename_i hidle
        cases hstep
        exact hupdate i _ fun hid => absurd (hid ▸ hidle) h.1
      · cases hstep
  | append i =>
      simp only [requests] at hstep
      split at hstep
      · cases hstep
        exact hupdate i _ fun _ => ⟨RequestStage.noConfusion, fun _ => RequestStage.noConfusion⟩
      · cases hstep
  | wait i =>
      simp only [requests] at hstep
      split at hstep
      · cases hstep
        exact hupdate i _ fun _ => ⟨RequestStage.noConfusion, fun _ => RequestStage.noConfusion⟩
      · cases hstep
  | wakeSpuriously i =>
      simp only [requests] at hstep
      split at hstep
      · cases hstep
        exact hupdate i _ fun _ => ⟨RequestStage.noConfusion, fun _ => RequestStage.noConfusion⟩
      · cases hstep
  | remove i =>
      simp only [requests] at hstep
      split at hstep
      · cases hstep
        exact hupdate i _ fun _ => ⟨RequestStage.noConfusion, fun _ => RequestStage.noConfusion⟩
      · cases hstep
  | release i data =>
      simp only [requests] at hstep
      split at hstep
      · cases hstep
      · cases hstep
        refine hwoken _ _ (hupdate i _ fun hid => ?_)
        subst hid
        exact h.answered data
  | makeTimerStep =>
      cases hstep
      exact hwoken _ _ h.aged

/-- What a step that is not one of the timer leaves of the list and adds to it. -/
theorem leaves_step
    (hother : a.isTimerStep = false)
    (hstep : requests.step σ a = some σ') :
    ∃ base new, σ'.process.blockerList = base ++ new ∧
      new.length = (if a.appends = true then 1 else 0) ∧
      Leaves σ.process.blockerList base ∧
      ∀ b ∈ new, ¬ (σ.request b.blockerId).Begun ∧ (σ'.request b.blockerId).Begun := by
  cases a with
  | send s i timeout =>
      simp only [requests] at hstep
      split at hstep
      · cases hstep
        exact ⟨_, [], (List.append_nil _).symm, rfl, .refl _, by simp⟩
      · cases hstep
  | append i =>
      simp only [requests] at hstep
      split at hstep
      · rename_i s hsent
        cases hstep
        refine ⟨σ.process.blockerList, _, rfl, rfl, .refl _, ?_⟩
        intro b hb
        rw [List.mem_singleton.mp hb]
        simp only [Function.update_self]
        exact ⟨fun hbegun => hbegun.2 s hsent,
          RequestStage.noConfusion, fun _ => RequestStage.noConfusion⟩
      · cases hstep
  | wait i =>
      simp only [requests] at hstep
      split at hstep
      · cases hstep
        exact ⟨_, [], (List.append_nil _).symm, rfl, .refl _, by simp⟩
      · cases hstep
  | wakeSpuriously i =>
      simp only [requests] at hstep
      split at hstep
      · cases hstep
        exact ⟨_, [], (List.append_nil _).symm, rfl, .refl _, by simp⟩
      · cases hstep
  | remove i =>
      simp only [requests] at hstep
      split at hstep
      · cases hstep
        refine ⟨withoutBlocker i σ.process.blockerList, [], ?_, rfl, .withoutBlocker i _, by simp⟩
        rw [removeMessageFromList_process, List.append_nil]
      · cases hstep
  | release i data =>
      simp only [requests] at hstep
      split at hstep
      · cases hstep
      · cases hstep
        refine ⟨storeResponse i data σ.process.blockerList, [], ?_, rfl,
          .storeResponse i _ _, by simp⟩
        rw [releaseMessage_process, List.append_nil]
  | makeTimerStep => cases hother

end Steps

/-- The entries have different ids, their requests are begun, and so is the request `id`. -/
structure Listed (id : UInt64) (σ : Requests) : Prop where
  distinct : (σ.process.blockerList.map MessageBlocker.blockerId).Nodup
  entry : ∀ b ∈ σ.process.blockerList, (σ.request b.blockerId).Begun
  begun : (σ.request id).Begun

/-- The ids stay different, and the requests in the list begun. -/
theorem listed_step
    {σ σ' : Requests}
    {a : RequestStep}
    (hdistinct : (σ.process.blockerList.map MessageBlocker.blockerId).Nodup)
    (hentry : ∀ b ∈ σ.process.blockerList, (σ.request b.blockerId).Begun)
    (hstep : requests.step σ a = some σ') :
    (σ'.process.blockerList.map MessageBlocker.blockerId).Nodup ∧
      ∀ b ∈ σ'.process.blockerList, (σ'.request b.blockerId).Begun := by
  cases hticks : a.isTimerStep with
  | true =>
      cases a with
      | makeTimerStep =>
          have hlist : σ'.process.blockerList = countDown σ.process.blockerList := by
            cases hstep
            exact congrArg Process.blockerList (blockerList_makeTimerStep hdistinct)
          rw [hlist]
          refine ⟨nodup_countDown hdistinct, fun b hb => ?_⟩
          obtain ⟨e, he, hid, _⟩ := exists_of_mem_countDown hb
          rw [← hid]
          exact (hentry e he).step hstep
      | _ => cases hticks
  | false =>
      obtain ⟨base, new, hlist, hlength, hleaves, hnew⟩ := leaves_step hticks hstep
      have hbase : ∀ b ∈ base, (σ.request b.blockerId).Begun := by
        intro b hb
        obtain ⟨e, he, hid, _⟩ := hleaves.entry b hb
        rw [← hid]
        exact hentry e he
      rw [hlist]
      constructor
      · rw [List.map_append, List.nodup_append]
        refine ⟨hleaves.distinct hdistinct, ?_, ?_⟩
        · have hle : (new.map MessageBlocker.blockerId).length ≤ 1 := by
            rw [List.length_map, hlength]
            split
            · exact Nat.le_refl 1
            · exact Nat.zero_le 1
          exact List.nodup_iff_count_le_one.mpr fun i => Nat.le_trans List.count_le_length hle
        · intro i hi j hj hsame
          obtain ⟨b, hb, rfl⟩ := List.mem_map.mp hi
          obtain ⟨e, he, rfl⟩ := List.mem_map.mp hj
          exact (hnew e he).1 (hsame ▸ hbase b hb)
      · intro b hb
        rcases List.mem_append.mp hb with hb | hb
        · exact (hbase b hb).step hstep
        · exact (hnew b hb).2

/-- Every step counts the blocked requests down, or adds to them. -/
theorem countsDown_requests (id : UInt64) :
    requests.CountsDown (Listed id) (fun _ _ => True) (fun σ => σ.process.blockerList)
      MessageBlocker.blockerId stepsLeft RequestStep.isTimerStep
      (fun _ a => if a.appends = true then 1 else 0) id := by
  constructor
  · intro σ a σ' h _ hstep
    obtain ⟨hdistinct, hentry⟩ := listed_step h.distinct h.entry hstep
    exact ⟨hdistinct, hentry, h.begun.step hstep⟩
  · exact fun h => h.distinct
  · exact fun _ b _ => Nat.succ_pos _
  · intro σ a σ' h hstep hticks
    cases a with
    | makeTimerStep =>
        have hlist : σ'.process.blockerList = countDown σ.process.blockerList := by
          cases hstep
          exact congrArg Process.blockerList (blockerList_makeTimerStep h.distinct)
        rw [hlist]
        exact fun b hb => exists_of_mem_countDown hb
    | _ => cases hticks
  · intro σ a σ' h _ hstep hticks
    obtain ⟨base, new, hlist, hlength, hleaves, hnew⟩ := leaves_step hticks hstep
    refine ⟨base, new, hlist, Nat.le_of_eq hlength, ?_, ?_⟩
    · intro b hb hid
      exact (hnew b hb).1 (hid ▸ h.begun)
    · intro b' hb'
      obtain ⟨b, hb, hid, htimer⟩ := hleaves.entry b' hb'
      refine ⟨b, hb, hid, ?_⟩
      have hle := hleaves.length
      simp only [stepsLeft, htimer]
      omega

theorem listed_of_reaches
    {σ : Requests}
    (hrun : requests.Reachable σ)
    {b : MessageBlocker}
    (hb : b ∈ σ.process.blockerList) :
    Listed b.blockerId σ := by
  have hlisted : (σ.process.blockerList.map MessageBlocker.blockerId).Nodup ∧
      ∀ b ∈ σ.process.blockerList, (σ.request b.blockerId).Begun := by
    clear hb
    induction hrun with
    | init h =>
        rw [h.1]
        exact ⟨List.nodup_nil, fun b hb => absurd hb List.not_mem_nil⟩
    | step _ _ hstep ih => exact listed_step ih.1 ih.2 hstep
  exact ⟨hlisted.1, hlisted.2, hlisted.2 b hb⟩

/-- In every run, with any order of the steps, a request is found in the list by at most as
many timer steps as its timer has left, as there are other requests in the list, and as are
registered meanwhile.  A step at which an entry expires goes on with what the entry held; the
code reads the entry that it has deleted there, see `BlockerMemory`. -/
theorem blocked_at_most
    {σ σ' : Requests}
    (hrun : requests.Reachable σ)
    {b : MessageBlocker}
    (hb : b ∈ σ.process.blockerList)
    {as : List RequestStep}
    (hexec : requests.exec σ as = some σ') :
    requests.total (fun σ a =>
        if a.isTimerStep = true ∧
            b.blockerId ∈ σ.process.blockerList.map MessageBlocker.blockerId
          then 1 else 0) σ as ≤
      stepsLeft b + (σ.process.blockerList.length - 1) + as.countP RequestStep.appends := by
  have hle := (countsDown_requests b.blockerId).waited_le (listed_of_reaches hrun hb) hb
    (TransitionSystem.execAllowed_of_forall (fun _ _ _ => trivial) σ) hexec
  rw [TransitionSystem.total_countP hexec] at hle
  exact hle

/-- The second of two requests is passed over when the first one expires, and stays for
one step more than its timeout. -/
theorem blocked_at_most_second :
    ∃ σ σ', requests.exec noRequests [.send 0 9 1, .append 9, .send 0 10 5, .append 10] =
        some σ ∧
      requests.exec σ (List.replicate 6 .makeTimerStep) = some σ' ∧
      σ'.process.blockerList = [] ∧
      requests.total (fun σ a =>
          if a.isTimerStep = true ∧
              10 ∈ σ.process.blockerList.map MessageBlocker.blockerId
            then 1 else 0) σ (List.replicate 6 .makeTimerStep) ≤
        stepsLeft ⟨0, 10, 5, none⟩ + (σ.process.blockerList.length - 1) +
          (List.replicate 6 RequestStep.makeTimerStep).countP RequestStep.appends := by
  refine ⟨_, _, rfl, rfl, rfl, ?_⟩
  refine @blocked_at_most _ _ ?_ ⟨0, 10, 5, none⟩ (by decide) (List.replicate 6 .makeTimerStep) rfl
  exact TransitionSystem.Reachable.of_exec noRequests_init (show requests.exec noRequests
    [.send 0 9 1, .append 9, .send 0 10 5, .append 10] = some _ from rfl)

end SakuraNetwork

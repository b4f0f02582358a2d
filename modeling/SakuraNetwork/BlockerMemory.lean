import SakuraNetwork.RequestTimers

/-!
# The entries of blocked requests in memory

`m_messageList` holds pointers to the entries.  This model of the handler keeps the
pointers apart from the entries behind them and records every access: the fields that
are read and written, the condition variables that are notified, the entries that are
deleted and the timeouts that are reported.  A deleted entry keeps what it held.

* `erase_makeTimerStep`: without the pointers it is the handler on values.
* `makeTimerStep_split`: the accesses of the first timeout.
* `timeout_releases_iff`: a timeout releases its waiting thread in no list.
* `requests_timed_out`: a step counts every entry down once exactly when none expires.
-/

namespace SakuraNetwork

open Lib

/-- A pointer to an entry. -/
abbrev BlockerRef := Nat

/-- What the handler does to the entries, and the error callback. -/
inductive BlockerEvent where
  | read (b : BlockerRef)
  | write (b : BlockerRef)
  | notifyOne (b : BlockerRef)
  | delete (b : BlockerRef)
  | processError (session : SessionRef) (text : ErrorText)
deriving DecidableEq

/-- The vector of pointers and the entries they point to. -/
structure BlockerMemory where
  messageList : List BlockerRef
  entry : BlockerRef → MessageBlocker

namespace BlockerMemory

/-- Assign to members of an entry. -/
def assign (m : BlockerMemory) (r : BlockerRef) (f : MessageBlocker → MessageBlocker) :
    BlockerMemory :=
  { m with entry := fun k => if k = r then f (m.entry r) else m.entry k }

@[simp] theorem assign_same (m : BlockerMemory) (r : BlockerRef)
    (f : MessageBlocker → MessageBlocker) :
    (m.assign r f).entry r = f (m.entry r) := by
  simp [assign]

theorem assign_other (m : BlockerMemory) {r k : BlockerRef} (f : MessageBlocker → MessageBlocker)
    (h : k ≠ r) :
    (m.assign r f).entry k = m.entry k := by
  simp [assign, h]

@[simp] theorem assign_messageList (m : BlockerMemory) (r : BlockerRef)
    (f : MessageBlocker → MessageBlocker) :
    (m.assign r f).messageList = m.messageList := rfl

/-- The entries a search for the id reads. -/
def searched (m : BlockerMemory) (blockerId : UInt64) : List BlockerEvent :=
  (m.messageList.take
    (m.messageList.findIdx (fun r => (m.entry r).blockerId == blockerId) + 1)).map .read

/-- `MessageBlockerHandler::removeMessageFromList`. -/
def removeMessageFromList (m : BlockerMemory) (blockerId : UInt64) :
    Option Bytes × BlockerMemory × List BlockerEvent :=
  match takeFirst (fun r => (m.entry r).blockerId == blockerId) m.messageList with
  | none => (none, m, m.searched blockerId)
  | some (tempItem, rest) =>
      ((m.entry tempItem).responseData,
        { m.assign tempItem (fun b => { b with responseData := none }) with messageList := rest },
        m.searched blockerId ++ [.read tempItem, .write tempItem, .delete tempItem])

/-- `MessageBlockerHandler::releaseMessageInList`. -/
def releaseMessageInList (m : BlockerMemory) (blockerId : UInt64) (data : Option Bytes) :
    Bool × BlockerMemory × List BlockerEvent :=
  match m.messageList.find? (fun r => (m.entry r).blockerId == blockerId) with
  | none => (false, m, m.searched blockerId)
  | some tempItem =>
      (true, m.assign tempItem (fun b => { b with responseData := data }),
        m.searched blockerId ++ [.write tempItem, .notifyOne tempItem])

/-- The body of the timeout of the entry. -/
def handleTimeout (m : BlockerMemory) (temp : BlockerRef) : BlockerMemory × List BlockerEvent :=
  let removed := m.removeMessageFromList (m.entry temp).blockerId
  let released :=
    removed.2.1.releaseMessageInList (removed.2.1.entry temp).blockerId none
  let b := released.2.1.entry temp
  (released.2.1,
    [.read temp] ++ removed.2.2 ++ [.read temp] ++ released.2.2 ++
      [.read temp, .read temp, .read temp,
        .processError b.session (MessageBlockerHandler.timeoutText b.blockerId)])

/-- The loop of `makeTimerStep` from index `i` on. -/
def makeTimerStepFrom : Nat → Nat → BlockerMemory → BlockerMemory × List BlockerEvent
  | 0, _, m => (m, [])
  | fuel + 1, i, m =>
      match m.messageList[i]? with
      | none => (m, [])
      | some temp =>
          let counted := m.assign temp MessageBlockerHandler.down
          if (counted.entry temp).timer = 0 then
            let timedOut := counted.handleTimeout temp
            let next := makeTimerStepFrom fuel (i + 1) timedOut.1
            (next.1, [.read temp, .write temp, .read temp] ++ timedOut.2 ++ next.2)
          else
            let next := makeTimerStepFrom fuel (i + 1) counted
            (next.1, [.read temp, .write temp, .read temp] ++ next.2)

/-- `MessageBlockerHandler::makeTimerStep`. -/
def makeTimerStep (m : BlockerMemory) : BlockerMemory × List BlockerEvent :=
  makeTimerStepFrom m.messageList.length 0 m

/-! ## The list of values -/

/-- The values the pointers point to. -/
def erase (m : BlockerMemory) : List MessageBlocker :=
  m.messageList.map m.entry

theorem map_assign
    (m : BlockerMemory)
    {r : BlockerRef}
    (f : MessageBlocker → MessageBlocker)
    {l : List BlockerRef}
    (h : r ∉ l) :
    l.map (m.assign r f).entry = l.map m.entry := by
  refine List.map_congr_left ?_
  intro k hk
  exact assign_other m f (fun heq => h (heq ▸ hk))

theorem erase_assign
    {m : BlockerMemory}
    {i : Nat}
    {r : BlockerRef}
    (hnodup : m.messageList.Nodup)
    (hi : m.messageList[i]? = some r)
    (f : MessageBlocker → MessageBlocker) :
    (m.assign r f).erase = m.erase.set i (f (m.entry r)) := by
  unfold erase
  rw [assign_messageList]
  generalize m.messageList = l at hnodup hi
  induction l generalizing i with
  | nil =>
      rfl
  | cons k l ih =>
      rw [List.nodup_cons] at hnodup
      cases i with
      | zero =>
          have hk : k = r := by simpa using hi
          subst hk
          rw [List.map_cons, List.map_cons, List.set_cons_zero, assign_same,
            map_assign m f hnodup.1]
      | succ i =>
          have hi' : l[i]? = some r := by simpa using hi
          have hne : k ≠ r := by
            rintro rfl
            exact hnodup.1 (List.mem_of_getElem? hi')
          rw [List.map_cons, List.map_cons, List.set_cons_succ, assign_other m f hne,
            ih hnodup.2 hi']

/-- Removing an entry removes its value. -/
theorem erase_removeMessageFromList
    {m : BlockerMemory}
    (hnodup : m.messageList.Nodup)
    (blockerId : UInt64) :
    (m.removeMessageFromList blockerId).2.1.erase =
        MessageBlockerHandler.withoutBlocker blockerId m.erase ∧
      (m.removeMessageFromList blockerId).2.1.messageList.Nodup := by
  have hvalues : takeFirst (fun b => b.blockerId == blockerId) m.erase = _ :=
    takeFirst_map m.entry (fun b => b.blockerId == blockerId) m.messageList
  unfold removeMessageFromList MessageBlockerHandler.withoutBlocker withoutFirst
  rw [hvalues]
  cases htake : takeFirst (fun r => (m.entry r).blockerId == blockerId) m.messageList with
  | none =>
      exact ⟨rfl, hnodup⟩
  | some found =>
      obtain ⟨tempItem, rest⟩ := found
      have hrest := (takeFirst_perm htake).nodup_iff.mp hnodup
      rw [List.nodup_cons] at hrest
      refine ⟨?_, hrest.2⟩
      change rest.map (m.assign tempItem (fun b => { b with responseData := none })).entry =
        rest.map m.entry
      exact map_assign m _ hrest.1

/-- A response is stored in the value of the entry. -/
theorem erase_releaseMessageInList
    {m : BlockerMemory}
    (hnodup : m.messageList.Nodup)
    (blockerId : UInt64)
    (data : Option Bytes) :
    (m.releaseMessageInList blockerId data).2.1.erase =
        MessageBlockerHandler.storeResponse blockerId data m.erase ∧
      (m.releaseMessageInList blockerId data).2.1.messageList = m.messageList := by
  unfold releaseMessageInList
  cases hfind : m.messageList.find? (fun r => (m.entry r).blockerId == blockerId) with
  | none =>
      have hnone := List.find?_eq_none.mp hfind
      refine ⟨?_, rfl⟩
      rw [MessageBlockerHandler.storeResponse_of_not_any]
      rw [List.any_eq_false]
      intro b hb
      obtain ⟨r, hr, rfl⟩ := List.mem_map.mp hb
      exact hnone r hr
  | some tempItem =>
      obtain ⟨hid, pre, post, hsplit, hpre⟩ := List.find?_eq_some_iff_append.mp hfind
      refine ⟨?_, rfl⟩
      have hi : m.messageList[pre.length]? = some tempItem := by
        rw [hsplit]
        simp
      rw [erase_assign hnodup hi]
      unfold erase
      rw [hsplit, List.map_append, List.map_cons, MessageBlockerHandler.storeResponse_eq]
      · simp
      · intro b hb
        obtain ⟨r, hr, rfl⟩ := List.mem_map.mp hb
        simpa using hpre r hr
      · exact hid

theorem blockerId_removeMessageFromList
    (m : BlockerMemory)
    (blockerId : UInt64)
    (r : BlockerRef) :
    ((m.removeMessageFromList blockerId).2.1.entry r).blockerId = (m.entry r).blockerId := by
  unfold removeMessageFromList
  cases takeFirst (fun r => (m.entry r).blockerId == blockerId) m.messageList with
  | none =>
      rfl
  | some found =>
      by_cases hr : r = found.1
      · simp [assign, hr]
      · simp [assign, hr]

theorem erase_handleTimeout
    {m : BlockerMemory}
    (hnodup : m.messageList.Nodup)
    (temp : BlockerRef) :
    (m.handleTimeout temp).1.erase =
        MessageBlockerHandler.storeResponse (m.entry temp).blockerId none
          (MessageBlockerHandler.withoutBlocker (m.entry temp).blockerId m.erase) ∧
      (m.handleTimeout temp).1.messageList.Nodup := by
  obtain ⟨hremoved, hrest⟩ := erase_removeMessageFromList hnodup (m.entry temp).blockerId
  obtain ⟨hreleased, hsame⟩ := erase_releaseMessageInList hrest (m.entry temp).blockerId none
  unfold handleTimeout
  simp only [blockerId_removeMessageFromList]
  exact ⟨by rw [hreleased, hremoved], by rw [hsame]; exact hrest⟩

/-- Without the pointers the loop is the loop on values. -/
theorem erase_makeTimerStepFrom
    (fuel i : Nat)
    {m : BlockerMemory}
    (hnodup : m.messageList.Nodup)
    (p : Process) :
    ((MessageBlockerHandler.makeTimerStepFrom fuel i).run
        { p with blockerList := m.erase }).process =
      { p with blockerList := (makeTimerStepFrom fuel i m).1.erase } := by
  induction fuel generalizing i m with
  | zero =>
      rfl
  | succ fuel ih =>
      have hlookup : m.erase[i]? = (m.messageList[i]?).map m.entry := by
        rw [erase, List.getElem?_map]
      rw [MessageBlockerHandler.makeTimerStepFrom_process, makeTimerStepFrom]
      simp only [hlookup]
      cases hi : m.messageList[i]? with
      | none =>
          rfl
      | some temp =>
          have hcounted := erase_assign hnodup hi MessageBlockerHandler.down
          have hkept : (m.assign temp MessageBlockerHandler.down).messageList.Nodup := hnodup
          simp only [Option.map_some, assign_same, MessageBlockerHandler.expire]
          change ((MessageBlockerHandler.makeTimerStepFrom fuel (i + 1)).run { p with
            blockerList := if (MessageBlockerHandler.down (m.entry temp)).timer = 0 then
              MessageBlockerHandler.storeResponse (m.entry temp).blockerId none
                (MessageBlockerHandler.withoutBlocker (m.entry temp).blockerId
                  (m.erase.set i (MessageBlockerHandler.down (m.entry temp))))
              else m.erase.set i (MessageBlockerHandler.down (m.entry temp)) }).process = _
          rw [← hcounted]
          by_cases hzero : (MessageBlockerHandler.down (m.entry temp)).timer = 0
          · obtain ⟨htimedOut, hrest⟩ := erase_handleTimeout hkept temp
            rw [assign_same] at htimedOut
            rw [if_pos hzero, if_pos hzero, ← ih (i + 1) hrest, htimedOut]
            rfl
          · rw [if_neg hzero, if_neg hzero, ← ih (i + 1) hkept]

/-- Without the pointers a step is the step on values. -/
theorem erase_makeTimerStep
    {m : BlockerMemory}
    (hnodup : m.messageList.Nodup)
    {p : Process}
    (hlist : p.blockerList = m.erase) :
    (MessageBlockerHandler.makeTimerStep.run p).process.blockerList =
      (makeTimerStep m).1.erase := by
  have hlength : p.blockerList.length = m.messageList.length := by
    rw [hlist, erase, List.length_map]
  have hrun := erase_makeTimerStepFrom m.messageList.length 0 hnodup p
  rw [← hlist] at hrun
  rw [MessageBlockerHandler.makeTimerStep, Act.run_get_bind, hlength]
  exact congrArg Process.blockerList hrun

/-! ## The accesses of a timeout -/

theorem timer_removeMessageFromList
    (m : BlockerMemory)
    (blockerId : UInt64) :
    (∀ r, ((m.removeMessageFromList blockerId).2.1.entry r).timer = (m.entry r).timer) ∧
      ∀ r ∈ (m.removeMessageFromList blockerId).2.1.messageList, r ∈ m.messageList := by
  unfold removeMessageFromList
  cases htake : takeFirst (fun r => (m.entry r).blockerId == blockerId) m.messageList with
  | none =>
      exact ⟨fun _ => rfl, fun _ h => h⟩
  | some found =>
      refine ⟨?_, ?_⟩
      · intro r
        by_cases hr : r = found.1
        · simp [assign, hr]
        · simp [assign, hr]
      · intro r hr
        exact (takeFirst_perm htake).mem_iff.mpr (List.mem_cons_of_mem _ hr)

theorem timer_releaseMessageInList
    (m : BlockerMemory)
    (blockerId : UInt64)
    (data : Option Bytes) :
    (∀ r, ((m.releaseMessageInList blockerId data).2.1.entry r).timer = (m.entry r).timer) ∧
      (m.releaseMessageInList blockerId data).2.1.messageList = m.messageList := by
  unfold releaseMessageInList
  cases m.messageList.find? (fun r => (m.entry r).blockerId == blockerId) with
  | none =>
      exact ⟨fun _ => rfl, rfl⟩
  | some tempItem =>
      refine ⟨?_, rfl⟩
      intro r
      by_cases hr : r = tempItem
      · simp [assign, hr]
      · simp [assign, hr]

/-- A timeout changes no timer, and the list only loses entries. -/
theorem timer_handleTimeout
    (m : BlockerMemory)
    (temp : BlockerRef) :
    (∀ r, ((m.handleTimeout temp).1.entry r).timer = (m.entry r).timer) ∧
      ∀ r ∈ (m.handleTimeout temp).1.messageList, r ∈ m.messageList := by
  obtain ⟨htimers, hrest⟩ := timer_removeMessageFromList m (m.entry temp).blockerId
  obtain ⟨htimers', hsame⟩ := timer_releaseMessageInList
    (m.removeMessageFromList (m.entry temp).blockerId).2.1
    ((m.removeMessageFromList (m.entry temp).blockerId).2.1.entry temp).blockerId none
  unfold handleTimeout
  refine ⟨?_, ?_⟩
  · intro r
    exact (htimers' r).trans (htimers r)
  · intro r hr
    simp only [hsame] at hr
    exact hrest r hr

/-- The loop leaves the timers of entries that are not in the list. -/
theorem timer_makeTimerStepFrom
    (fuel i : Nat)
    {m : BlockerMemory}
    {r : BlockerRef}
    (hr : r ∉ m.messageList) :
    ((makeTimerStepFrom fuel i m).1.entry r).timer = (m.entry r).timer := by
  induction fuel generalizing i m with
  | zero =>
      rfl
  | succ fuel ih =>
      rw [makeTimerStepFrom]
      cases hi : m.messageList[i]? with
      | none =>
          rfl
      | some temp =>
          have hne : r ≠ temp := by
            rintro rfl
            exact hr (List.mem_of_getElem? hi)
          have hcounted := assign_other m MessageBlockerHandler.down hne
          simp only
          split
          · obtain ⟨htimers, hrest⟩ :=
              timer_handleTimeout (m.assign temp MessageBlockerHandler.down) temp
            simp only
            rw [ih (i + 1) (fun h => hr (hrest r h)), htimers, hcounted]
          · have hkept : r ∉ (m.assign temp MessageBlockerHandler.down).messageList := hr
            simp only
            rw [ih (i + 1) hkept, hcounted]

/-- An entry is read after it was deleted. -/
def ReadsDeleted (events : List BlockerEvent) (b : BlockerRef) : Prop :=
  ∃ before after, events = before ++ .delete b :: after ∧ .read b ∈ after

theorem ReadsDeleted.append
    {events : List BlockerEvent}
    {b : BlockerRef}
    (h : ReadsDeleted events b)
    (first last : List BlockerEvent) :
    ReadsDeleted (first ++ events ++ last) b := by
  obtain ⟨before, after, rfl, hread⟩ := h
  refine ⟨first ++ before, after ++ last, ?_, List.mem_append_left _ hread⟩
  simp

/-- With distinct ids a timeout removes and deletes its own entry, and goes on to read
it. -/
theorem handleTimeout_accesses
    {m : BlockerMemory}
    (hids : (m.messageList.map (fun r => (m.entry r).blockerId)).Nodup)
    {temp : BlockerRef}
    (htemp : temp ∈ m.messageList) :
    ReadsDeleted (m.handleTimeout temp).2 temp ∧
      temp ∉ (m.handleTimeout temp).1.messageList := by
  cases htake : takeFirst (fun r => (m.entry r).blockerId == (m.entry temp).blockerId)
      m.messageList with
  | none =>
      have hnone := (takeFirst_eq_none_iff _ _).mp htake temp htemp
      simp at hnone
  | some found =>
      obtain ⟨tempItem, rest⟩ := found
      have hperm := takeFirst_perm htake
      have hitem : tempItem ∈ m.messageList := hperm.mem_iff.mpr List.mem_cons_self
      have hsame : tempItem = temp := by
        have hid := takeFirst_pred htake
        exact List.inj_on_of_nodup_map hids hitem htemp (by simpa using hid)
      subst hsame
      have hrest := (hperm.nodup_iff.mp hids.of_map)
      rw [List.nodup_cons] at hrest
      refine ⟨?_, ?_⟩
      · have hremoved : (m.removeMessageFromList (m.entry tempItem).blockerId).2.2 =
            m.searched (m.entry tempItem).blockerId ++
              [.read tempItem, .write tempItem, .delete tempItem] := by
          rw [removeMessageFromList, htake]
        unfold handleTimeout
        simp only [hremoved]
        generalize BlockerMemory.releaseMessageInList _ _ none = released
        refine ⟨[.read tempItem] ++ m.searched (m.entry tempItem).blockerId ++
          [.read tempItem, .write tempItem], [.read tempItem] ++ (released.2.2 ++
            [.read tempItem, .read tempItem, .read tempItem,
              .processError (released.2.1.entry tempItem).session
              (MessageBlockerHandler.timeoutText (released.2.1.entry tempItem).blockerId)]), ?_, ?_⟩
        · simp only [List.append_assoc, List.cons_append, List.nil_append]
        · exact List.mem_append_left _ (List.mem_singleton.mpr rfl)
      · unfold handleTimeout
        have hlist : (m.removeMessageFromList (m.entry tempItem).blockerId).2.1.messageList =
            rest := by
          rw [removeMessageFromList, htake]
        simp only [(timer_releaseMessageInList _ _ _).2, hlist]
        exact hrest.1

theorem blockerId_assign_down
    (m : BlockerMemory)
    (temp r : BlockerRef) :
    ((m.assign temp MessageBlockerHandler.down).entry r).blockerId = (m.entry r).blockerId := by
  by_cases hr : r = temp
  · simp [assign, hr, MessageBlockerHandler.down]
  · simp [assign, hr]

/-- The loop comes to the first entry at its last step, which it deletes and reads. -/
theorem makeTimerStepFrom_accesses
    (pre done post : List BlockerRef)
    {temp : BlockerRef}
    (fuel : Nat)
    (hfuel : pre.length < fuel)
    {m : BlockerMemory}
    (hlist : m.messageList = done ++ pre ++ temp :: post)
    (hids : (m.messageList.map (fun r => (m.entry r).blockerId)).Nodup)
    (hpre : ∀ r ∈ pre, (m.entry r).timer ≠ 1)
    (htemp : (m.entry temp).timer = 1) :
    ReadsDeleted (makeTimerStepFrom fuel done.length m).2 temp ∧
      ((makeTimerStepFrom fuel done.length m).1.entry temp).timer = 0 := by
  induction pre generalizing done fuel m with
  | nil =>
      cases fuel with
      | zero =>
          simp at hfuel
      | succ fuel =>
          have hlookup : m.messageList[done.length]? = some temp := by
            rw [hlist]
            simp
          have hmem : temp ∈ m.messageList := List.mem_of_getElem? hlookup
          have hzero : ((m.assign temp MessageBlockerHandler.down).entry temp).timer = 0 := by
            simp [MessageBlockerHandler.down, htemp]
          have hkept : ((m.assign temp MessageBlockerHandler.down).messageList.map
              (fun r => ((m.assign temp MessageBlockerHandler.down).entry r).blockerId)).Nodup := by
            simpa only [assign_messageList, blockerId_assign_down] using hids
          obtain ⟨hdeleted, hgone⟩ := handleTimeout_accesses hkept hmem
          obtain ⟨htimers, _⟩ := timer_handleTimeout (m.assign temp MessageBlockerHandler.down) temp
          rw [makeTimerStepFrom]
          simp only [hlookup, if_pos hzero]
          refine ⟨hdeleted.append _ _, ?_⟩
          rw [timer_makeTimerStepFrom fuel _ hgone, htimers, hzero]
  | cons r pre ih =>
      cases fuel with
      | zero =>
          simp at hfuel
      | succ fuel =>
          have hlookup : m.messageList[done.length]? = some r := by
            rw [hlist]
            simp
          have hrefs : (done ++ r :: pre ++ temp :: post).Nodup := by
            rw [← hlist]
            exact hids.of_map
          have hother : ∀ k ∈ pre ++ [temp], k ≠ r := by
            rintro k hk rfl
            rw [List.append_assoc, List.nodup_append, List.cons_append, List.nodup_cons] at hrefs
            refine hrefs.2.1.1 ?_
            rcases List.mem_append.mp hk with hk | hk
            · exact List.mem_append_left _ hk
            · rw [List.mem_singleton.mp hk]
              simp
          have hrunning : ¬ ((m.assign r MessageBlockerHandler.down).entry r).timer = 0 := by
            rw [assign_same]
            intro hzero
            exact hpre r List.mem_cons_self
              ((MessageBlockerHandler.sub_one_eq_zero_iff _).mp hzero)
          have hkept : ((m.assign r MessageBlockerHandler.down).messageList.map
              (fun k => ((m.assign r MessageBlockerHandler.down).entry k).blockerId)).Nodup := by
            simpa only [assign_messageList, blockerId_assign_down] using hids
          have hnext := ih (done ++ [r]) fuel (by simpa using hfuel)
            (m := m.assign r MessageBlockerHandler.down) (by simp [hlist]) hkept
            (by
              intro k hk
              rw [assign_other m _ (hother k (List.mem_append_left _ hk))]
              exact hpre k (List.mem_cons_of_mem _ hk))
            (by
              rw [assign_other m _ (hother temp (by simp))]
              exact htemp)
          rw [List.length_append, List.length_singleton] at hnext
          obtain ⟨hdeleted, hzero⟩ := hnext
          rw [makeTimerStepFrom]
          simp only [hlookup, if_neg hrunning]
          refine ⟨?_, hzero⟩
          have hevents := hdeleted.append [.read r, .write r, .read r] []
          rwa [List.append_nil] at hevents

/-! ## Released threads -/

/-- The timer of the entry reaches zero in the step. -/
def ReachesZero (m : BlockerMemory) (b : BlockerRef) : Prop :=
  b ∈ m.messageList ∧ (m.entry b).timer = 1 ∧ ((makeTimerStep m).1.entry b).timer = 0

/-- The waiting thread of the entry is notified before the entry is deleted and then
finds no data, the timeout is reported once, and a deleted entry is not read. -/
structure Released (m : BlockerMemory) (b : BlockerRef) : Prop where
  notified : ∃ before after, (makeTimerStep m).2 = before ++ .notifyOne b :: after ∧
    .delete b ∉ before ∧ .delete b ∈ after
  only : ∀ k, .notifyOne k ∈ (makeTimerStep m).2 → m.ReachesZero k
  returns : ((makeTimerStep m).1.removeMessageFromList (m.entry b).blockerId).1 = none
  reported : (makeTimerStep m).2.count (.processError (m.entry b).session
    (MessageBlockerHandler.timeoutText (m.entry b).blockerId)) = 1
  unread : ¬ ReadsDeleted (makeTimerStep m).2 b

/-- The first entry at its last step is deleted and read. -/
theorem exists_readsDeleted
    {m : BlockerMemory}
    (hids : (m.messageList.map (fun r => (m.entry r).blockerId)).Nodup)
    {b : BlockerRef}
    (hb : b ∈ m.messageList)
    (hone : (m.entry b).timer = 1) :
    ∃ temp, m.ReachesZero temp ∧ ReadsDeleted (makeTimerStep m).2 temp := by
  have hfound : (m.messageList.find? (fun r => decide ((m.entry r).timer = 1))).isSome := by
    rw [List.find?_isSome]
    exact ⟨b, hb, by simpa using hone⟩
  obtain ⟨temp, hfind⟩ := Option.isSome_iff_exists.mp hfound
  obtain ⟨htemp, pre, post, hsplit, hpre⟩ := List.find?_eq_some_iff_append.mp hfind
  obtain ⟨hdeleted, hzero⟩ := makeTimerStepFrom_accesses pre [] post m.messageList.length
    (by rw [hsplit]; simp) (by simpa using hsplit) hids
    (fun r hr => by simpa using hpre r hr) (by simpa using htemp)
  exact ⟨temp, ⟨List.mem_of_find?_eq_some hfind, by simpa using htemp, hzero⟩, hdeleted⟩

/-- A timeout releases its waiting thread exactly when there is no timeout. -/
theorem timeout_releases_iff
    (m : BlockerMemory)
    (hids : (m.messageList.map (fun r => (m.entry r).blockerId)).Nodup) :
    (∀ b, m.ReachesZero b → m.Released b) ↔ ∀ b ∈ m.messageList, (m.entry b).timer ≠ 1 := by
  constructor
  · intro h b hb hone
    obtain ⟨temp, hreaches, hdeleted⟩ := exists_readsDeleted hids hb hone
    exact (h temp hreaches).unread hdeleted
  · rintro h b ⟨hb, hone, _⟩
    exact absurd hone (h b hb)

/-- Three requests; none of them is at its last step. -/
def threeRunning : BlockerMemory where
  messageList := [2, 0, 1]
  entry := fun r => ⟨r, 9 + UInt64.ofNat r, 2 + 3 * UInt64.ofNat r, none⟩

theorem timeout_releases_iff_running :
    (∀ b, threeRunning.ReachesZero b → threeRunning.Released b) ↔
      ∀ b ∈ threeRunning.messageList, (threeRunning.entry b).timer ≠ 1 :=
  timeout_releases_iff threeRunning (by decide)

/-- One request with one step left: nobody is notified. -/
theorem not_timeout_releases :
    ¬ ∀ m : BlockerMemory, (m.messageList.map (fun r => (m.entry r).blockerId)).Nodup →
      ∀ b, m.ReachesZero b → m.Released b := by
  intro h
  have hreleased := h ⟨[0], fun _ => ⟨0, 9, 1, none⟩⟩ (by decide) 0
    ⟨List.mem_singleton.mpr rfl, rfl, rfl⟩
  obtain ⟨before, after, hevents, _⟩ := hreleased.notified
  have hrun : (makeTimerStep ⟨[0], fun _ => ⟨0, 9, 1, none⟩⟩).2 =
      [.read 0, .write 0, .read 0, .read 0, .read 0, .read 0, .write 0, .delete 0, .read 0,
        .read 0, .read 0, .read 0, .processError 0 (MessageBlockerHandler.timeoutText 9)] := rfl
  have hmem : BlockerEvent.notifyOne 0 ∈ (makeTimerStep ⟨[0], fun _ => ⟨0, 9, 1, none⟩⟩).2 := by
    rw [hevents]
    simp
  rw [hrun] at hmem
  simp at hmem

/-! ## Exact steps -/

/-- A loop that comes to no entry at its last step deletes nothing. -/
theorem not_delete_makeTimerStepFrom
    (fuel i : Nat)
    {m : BlockerMemory}
    (hnodup : m.messageList.Nodup)
    (hnone : ∀ r ∈ m.messageList.drop i, (m.entry r).timer ≠ 1)
    (b : BlockerRef) :
    .delete b ∉ (makeTimerStepFrom fuel i m).2 := by
  induction fuel generalizing i m with
  | zero =>
      exact List.not_mem_nil
  | succ fuel ih =>
      rw [makeTimerStepFrom]
      cases hi : m.messageList[i]? with
      | none =>
          exact List.not_mem_nil
      | some temp =>
          obtain ⟨hlt, htemp⟩ := List.getElem?_eq_some_iff.mp hi
          have hdrop : m.messageList.drop i = temp :: m.messageList.drop (i + 1) := by
            rw [List.drop_eq_getElem_cons hlt, htemp]
          have hrest : (temp :: m.messageList.drop (i + 1)).Nodup := by
            rw [← hdrop]
            exact hnodup.sublist (List.drop_sublist i _)
          have hrunning : ¬ ((m.assign temp MessageBlockerHandler.down).entry temp).timer = 0 := by
            rw [assign_same]
            intro hzero
            exact hnone temp (by rw [hdrop]; exact List.mem_cons_self)
              ((MessageBlockerHandler.sub_one_eq_zero_iff _).mp hzero)
          have hnext := ih (i + 1) (m := m.assign temp MessageBlockerHandler.down) hnodup
            (by
              intro r hr
              have hne : r ≠ temp := by
                rintro rfl
                exact (List.nodup_cons.mp hrest).1 hr
              rw [assign_other m _ hne]
              exact hnone r (by rw [hdrop]; exact List.mem_cons_of_mem _ hr))
          simp only [if_neg hrunning]
          intro hmem
          rcases List.mem_append.mp hmem with hmem | hmem
          · simp at hmem
          · exact hnext hmem

/-- A step reads no entry it deleted, counts down every entry once, and removes those at
their last step. -/
def ExactStep (m : BlockerMemory) : Prop :=
  (∀ b, ¬ ReadsDeleted (makeTimerStep m).2 b) ∧
    (makeTimerStep m).1.erase.Perm (MessageBlockerHandler.nextStep m.erase)

theorem exactStep_iff
    {m : BlockerMemory}
    (hids : (m.messageList.map (fun r => (m.entry r).blockerId)).Nodup) :
    ExactStep m ↔ ∀ b ∈ m.messageList, 1 < (m.entry b).timer := by
  have hvalues : (m.erase.map MessageBlocker.blockerId).Nodup := by
    rw [erase, List.map_map]
    exact hids
  have hstep : (makeTimerStep m).1.erase = MessageBlockerHandler.countDown m.erase := by
    have hlist : (MessageBlockerHandler.makeTimerStep.run
        { Process.created (fun _ => none) with blockerList := m.erase }).process.blockerList =
        (makeTimerStep m).1.erase :=
      erase_makeTimerStep hids.of_map rfl
    rw [← hlist, MessageBlockerHandler.blockerList_makeTimerStep hvalues]
  unfold ExactStep
  rw [hstep]
  constructor
  · rintro ⟨hunread, hexact⟩ b hb
    have hnone : ∀ e ∈ m.erase, e.timer ≠ 1 := by
      intro e he hone
      obtain ⟨r, hr, rfl⟩ := List.mem_map.mp he
      obtain ⟨temp, _, hdeleted⟩ := exists_readsDeleted hids hr hone
      exact hunread temp hdeleted
    exact MessageBlockerHandler.one_lt_of_exact hnone hexact (m.entry b)
      (List.mem_map.mpr ⟨b, hb, rfl⟩)
  · intro h
    have hrunning : ∀ e ∈ m.erase, 1 < e.timer := by
      intro e he
      obtain ⟨r, hr, rfl⟩ := List.mem_map.mp he
      exact h r hr
    refine ⟨?_, ?_⟩
    · rintro b ⟨before, after, hevents, _⟩
      refine not_delete_makeTimerStepFrom m.messageList.length 0 hids.of_map ?_ b ?_
      · intro r hr
        exact MessageBlockerHandler.ne_one_of_one_lt (h r (List.mem_of_mem_drop hr))
      · have hmem : .delete b ∈ (makeTimerStep m).2 := by
          rw [hevents]
          simp
        exact hmem
    · rw [MessageBlockerHandler.countDown_of_none
        (fun e he => MessageBlockerHandler.ne_one_of_one_lt (hrunning e he)),
        MessageBlockerHandler.nextStep_of_running hrunning]

/-- A step counts down every request once, removes those at their last step and reads no
deleted entry exactly when every entry has more than one step left.  Along every run of
such steps the list is the calendar: a request without response waits for less than
`max(timeout, 1)` steps. -/
theorem requests_timed_out
    (m : BlockerMemory)
    (hids : (m.messageList.map (fun r => (m.entry r).blockerId)).Nodup) :
    (ExactStep m ↔ ∀ b ∈ m.messageList, 1 < (m.entry b).timer) ∧
      ∀ σ, MessageBlockerHandler.timers.Reaches (fun σ call => call.Exact σ.process) σ →
        MessageBlockerHandler.OnCalendar σ :=
  ⟨exactStep_iff hids, fun _ h => MessageBlockerHandler.onCalendar_of_reaches h⟩

/-- Before any request. -/
def noCalls : MessageBlockerHandler.Timed where
  process := Process.created (fun _ => none)
  calendar := {}

theorem noCalls_init : MessageBlockerHandler.timers.init noCalls :=
  ⟨rfl, rfl⟩

/-- Two requests with the timeouts 5 and 3; the second one is registered after a step,
and the first one gets its response. -/
def twoRequests : List MessageBlockerHandler.Call :=
  [.addBlocker 9 5 0, .makeTimerStep, .addBlocker 10 3 1, .makeTimerStep,
    .releaseMessage 9 (some [7]), .makeTimerStep]

theorem execAllowed_twoRequests :
    MessageBlockerHandler.timers.execAllowed (fun σ call => call.Exact σ.process) noCalls
      twoRequests := by
  refine ⟨?_, fun σ₁ h₁ => ?_⟩
  · intro b hb
    cases hb
  obtain rfl := Option.some.inj h₁
  refine ⟨show ∀ b ∈ [MessageBlocker.mk 0 9 5 none], 1 < b.timer by decide,
    fun σ₂ h₂ => ?_⟩
  obtain rfl := Option.some.inj h₂
  refine ⟨show ∀ b ∈ [MessageBlocker.mk 0 9 4 none], b.blockerId ≠ 10 by decide,
    fun σ₃ h₃ => ?_⟩
  obtain rfl := Option.some.inj h₃
  refine ⟨show ∀ b ∈ [MessageBlocker.mk 0 9 4 none, .mk 1 10 3 none], 1 < b.timer by decide,
    fun σ₄ h₄ => ?_⟩
  obtain rfl := Option.some.inj h₄
  refine ⟨trivial, fun σ₅ h₅ => ?_⟩
  obtain rfl := Option.some.inj h₅
  exact ⟨show ∀ b ∈ [MessageBlocker.mk 0 9 3 (some [7]), .mk 1 10 2 none], 1 < b.timer by decide,
    fun _ _ => trivial⟩

theorem requests_timed_out_running :
    (ExactStep threeRunning ↔
        ∀ b ∈ threeRunning.messageList, 1 < (threeRunning.entry b).timer) ∧
      ∃ σ, MessageBlockerHandler.timers.exec noCalls twoRequests = some σ ∧
        σ.process.blockerList = [⟨0, 9, 2, some [7]⟩, ⟨1, 10, 1, none⟩] ∧
        MessageBlockerHandler.OnCalendar σ := by
  obtain ⟨hexact, hcalendar⟩ := requests_timed_out threeRunning (by decide)
  refine ⟨hexact, _, rfl, rfl, hcalendar _ ?_⟩
  exact (TransitionSystem.Reaches.init noCalls_init).of_exec execAllowed_twoRequests rfl

/-- The second of two requests is passed over when the first one expires, and the entry
of the first one is read after it was deleted. -/
theorem not_requests_timed_out :
    ¬ ∀ m : BlockerMemory, (m.messageList.map (fun r => (m.entry r).blockerId)).Nodup →
      ExactStep m := by
  intro h
  obtain ⟨_, hperm⟩ := h ⟨[0, 1], fun r => if r = 0 then ⟨0, 9, 1, none⟩ else ⟨0, 10, 5, none⟩⟩
    (by decide)
  have hmem : (⟨0, 10, 5, none⟩ : MessageBlocker) ∈
      MessageBlockerHandler.nextStep [⟨0, 9, 1, none⟩, ⟨0, 10, 5, none⟩] :=
    hperm.mem_iff.mp List.mem_cons_self
  exact absurd hmem (by decide)

end BlockerMemory

end SakuraNetwork

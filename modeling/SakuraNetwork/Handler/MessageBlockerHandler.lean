import SakuraNetwork.Process

/-!
# `MessageBlockerHandler`: blocked requests

A request registers an entry and waits.  A response with its blocker-id stores
the data in the first entry of that id and notifies it; the woken thread removes
the first entry of its id and returns the data it finds there.  The timer thread
removes an entry whose timer reaches zero.
-/

namespace SakuraNetwork

open Lib

namespace MessageBlockerHandler

/-- The first half of `blockMessage`: the new entry is added to the list.  Its
thread waits from then on. -/
def addBlocker (blockerId blockerTimeout : UInt64) (s : SessionRef) : Act Unit :=
  Act.modify (fun p =>
    { p with blockerList := p.blockerList ++
      [{ session := s, blockerId := blockerId, timer := blockerTimeout }] })

/-- The list after the first entry of the id got the data. -/
def storeResponse (blockerId : UInt64) (data : Option Bytes) :
    List MessageBlocker → List MessageBlocker
  | [] => []
  | b :: bs =>
      if b.blockerId == blockerId then { b with responseData := data } :: bs
      else b :: storeResponse blockerId data bs

/-- `MessageBlockerHandler::releaseMessageInList`, also `releaseMessage`. -/
def releaseMessage (blockerId : UInt64) (data : Option Bytes) : Act Bool := do
  let p ← Act.get
  if p.blockerList.any (fun b => b.blockerId == blockerId) then
    Act.modify (fun p => { p with blockerList := storeResponse blockerId data p.blockerList })
    Act.emit (.notifyOne blockerId)
    pure true
  else pure false

/-- `MessageBlockerHandler::removeMessageFromList`: the first entry of the id is
swapped with the last one and popped. -/
def takeBlocker (blockerId : UInt64) (l : List MessageBlocker) :
    Option (MessageBlocker × List MessageBlocker) :=
  takeFirst (fun b => b.blockerId == blockerId) l

/-- The list after `removeMessageFromList`. -/
def withoutBlocker (blockerId : UInt64) (l : List MessageBlocker) : List MessageBlocker :=
  withoutFirst (fun b => b.blockerId == blockerId) l

/-- The second half of `blockMessage`, after the wait: the entry is removed and
its data returned. -/
def removeMessageFromList (blockerId : UInt64) : Act (Option Bytes) := do
  let p ← Act.get
  match takeBlocker blockerId p.blockerList with
  | none => pure none
  | some (b, rest) =>
      Act.modify (fun p => { p with blockerList := rest })
      pure b.responseData

/-- `"TIMEOUT of request: " + std::to_string(blockerId)`. -/
def timeoutText (blockerId : UInt64) : ErrorText :=
  .text ("TIMEOUT of request: " ++ toString blockerId.toNat)

/-- The loop of `makeTimerStep` from index `i` on.  The removal moves the last
entry to index `i`, and the loop goes on with `i + 1`. -/
def makeTimerStepFrom : Nat → Nat → Act Unit
  | 0, _ => pure ()
  | fuel + 1, i => do
      let p ← Act.get
      match p.blockerList[i]? with
      | none => pure ()
      | some b =>
          let temp := { b with timer := b.timer - 1 }
          Act.modify (fun p => { p with blockerList := p.blockerList.set i temp })
          if temp.timer == 0 then
            let _ ← removeMessageFromList temp.blockerId
            let _ ← releaseMessage temp.blockerId none
            Act.emit (.processError temp.session .messageTimeout (timeoutText temp.blockerId))
          makeTimerStepFrom fuel (i + 1)

/-- `MessageBlockerHandler::makeTimerStep`. -/
def makeTimerStep : Act Unit := do
  let p ← Act.get
  makeTimerStepFrom p.blockerList.length 0

/-- The data stored for an id goes to its first entry. -/
theorem storeResponse_eq (blockerId : UInt64) (data : Option Bytes)
    (pre post : List MessageBlocker) (b : MessageBlocker)
    (hpre : ∀ e ∈ pre, (e.blockerId == blockerId) = false)
    (hb : (b.blockerId == blockerId) = true) :
    storeResponse blockerId data (pre ++ b :: post) =
      pre ++ { b with responseData := data } :: post := by
  induction pre with
  | nil =>
      simp [storeResponse, hb]
  | cons e pre ih =>
      have he := hpre e List.mem_cons_self
      simp only [List.cons_append, storeResponse, he]
      rw [ih (fun e' he' => hpre e' (List.mem_cons_of_mem _ he'))]
      rfl

/-- Without an entry of the id nothing is stored. -/
theorem storeResponse_of_not_any {blockerId : UInt64} {l : List MessageBlocker}
    (data : Option Bytes)
    (h : l.any (fun b => b.blockerId == blockerId) = false) :
    storeResponse blockerId data l = l := by
  induction l with
  | nil =>
      rfl
  | cons b bs ih =>
      rw [List.any_cons, Bool.or_eq_false_iff] at h
      simp only [storeResponse, h.1, ih h.2]
      rfl

@[simp] theorem run_addBlocker (blockerId blockerTimeout : UInt64) (s : SessionRef)
    (p : Process) :
    (addBlocker blockerId blockerTimeout s).run p =
      { value := ()
        process := { p with blockerList := p.blockerList ++
          [{ session := s, blockerId := blockerId, timer := blockerTimeout }] } } := rfl

@[simp] theorem releaseMessage_process (blockerId : UInt64) (data : Option Bytes)
    (p : Process) :
    ((releaseMessage blockerId data).run p).process =
      { p with blockerList := storeResponse blockerId data p.blockerList } := by
  unfold releaseMessage
  simp only [Act.run_get_bind, Act.run_ite]
  split
  · rfl
  · rename_i h
    rw [storeResponse_of_not_any data (by simpa using h)]
    rfl

@[simp] theorem releaseMessage_outputs (blockerId : UInt64) (data : Option Bytes)
    (p : Process) :
    ((releaseMessage blockerId data).run p).outputs =
      if p.blockerList.any (fun b => b.blockerId == blockerId) then [.notifyOne blockerId]
      else [] := by
  unfold releaseMessage
  simp only [Act.run_get_bind, Act.run_ite]
  split <;> simp

@[simp] theorem releaseMessage_accesses (blockerId : UInt64) (data : Option Bytes)
    (p : Process) :
    ((releaseMessage blockerId data).run p).accesses = [] := by
  unfold releaseMessage
  simp only [Act.run_get_bind, Act.run_ite]
  split <;> simp

@[simp] theorem removeMessageFromList_process (blockerId : UInt64) (p : Process) :
    ((removeMessageFromList blockerId).run p).process =
      { p with blockerList := withoutBlocker blockerId p.blockerList } := by
  unfold removeMessageFromList withoutBlocker
  simp only [Act.run_get_bind]
  split
  · rename_i h
    rw [withoutFirst_of_none h]
    rfl
  · rename_i h
    rw [withoutFirst_of_some h]
    rfl

@[simp] theorem removeMessageFromList_value (blockerId : UInt64) (p : Process) :
    ((removeMessageFromList blockerId).run p).value =
      (takeBlocker blockerId p.blockerList).bind (fun found => found.1.responseData) := by
  unfold removeMessageFromList
  simp only [Act.run_get_bind]
  split
  · rename_i h
    simp [h]
  · rename_i h
    simp [h]

@[simp] theorem removeMessageFromList_outputs (blockerId : UInt64) (p : Process) :
    ((removeMessageFromList blockerId).run p).outputs = [] := by
  unfold removeMessageFromList
  simp only [Act.run_get_bind]
  split <;> simp

/-! ## The entries of one id -/

/-- The data held by the entries of an id, in the order of the list. -/
def responses (blockerId : UInt64) (l : List MessageBlocker) : List (Option Bytes) :=
  (l.filter (fun b => b.blockerId == blockerId)).map MessageBlocker.responseData

@[simp] theorem responses_nil (blockerId : UInt64) : responses blockerId [] = [] := rfl

theorem responses_cons (blockerId : UInt64) (b : MessageBlocker) (l : List MessageBlocker) :
    responses blockerId (b :: l) =
      if b.blockerId = blockerId then b.responseData :: responses blockerId l
      else responses blockerId l := by
  by_cases hb : b.blockerId = blockerId
  · simp [responses, hb]
  · simp [responses, hb]

@[simp] theorem responses_append (blockerId : UInt64) (l l' : List MessageBlocker) :
    responses blockerId (l ++ l') = responses blockerId l ++ responses blockerId l' := by
  simp [responses]

theorem responses_perm
    {l l' : List MessageBlocker}
    (h : l.Perm l')
    (blockerId : UInt64) :
    (responses blockerId l).Perm (responses blockerId l') :=
  (h.filter _).map _

theorem any_eq_responses (blockerId : UInt64) (l : List MessageBlocker) :
    l.any (fun b => b.blockerId == blockerId) = !(responses blockerId l).isEmpty := by
  induction l with
  | nil =>
      rfl
  | cons b l ih =>
      rw [List.any_cons, ih, responses_cons]
      by_cases hb : b.blockerId = blockerId
      · simp [hb]
      · simp [hb]

/-- A response goes to the first entry of its id. -/
theorem responses_storeResponse
    (blockerId id : UInt64)
    (data : Option Bytes)
    (l : List MessageBlocker) :
    responses id (storeResponse blockerId data l) =
      if id = blockerId then
        match responses id l with
        | [] => []
        | _ :: rest => data :: rest
      else responses id l := by
  induction l with
  | nil =>
      simp [storeResponse]
  | cons b l ih =>
      by_cases hb : b.blockerId = blockerId
      · by_cases hid : id = blockerId
        · simp [storeResponse, responses_cons, hb, hid]
        · have hne : ¬ blockerId = id := fun h => hid h.symm
          simp [storeResponse, responses_cons, hb, hid, hne]
      · by_cases hid : id = blockerId
        · subst hid
          simp only [if_true] at ih
          simp [storeResponse, responses_cons, hb, ih]
        · simp only [hid, if_false] at ih
          by_cases hbid : b.blockerId = id
          · simp [storeResponse, responses_cons, hbid, hid, ih]
          · simp [storeResponse, responses_cons, hb, hbid, hid, ih]

/-- What is taken for an id is the data of its first entry. -/
theorem takeBlocker_eq_none_iff (blockerId : UInt64) (l : List MessageBlocker) :
    takeBlocker blockerId l = none ↔ responses blockerId l = [] := by
  rw [takeBlocker, takeFirst_eq_none_iff, responses, List.map_eq_nil_iff, List.filter_eq_nil_iff]
  simp

/-- The entry of an id that has one entry is taken; the others stay. -/
theorem takeBlocker_of_responses
    {blockerId : UInt64}
    {l : List MessageBlocker}
    {data : Option Bytes}
    (h : responses blockerId l = [data]) :
    ∃ b rest, takeBlocker blockerId l = some (b, rest) ∧ b.responseData = data ∧
      l.Perm (b :: rest) ∧ b.blockerId = blockerId := by
  cases htake : takeBlocker blockerId l with
  | none =>
      rw [takeBlocker_eq_none_iff, h] at htake
      cases htake
  | some found =>
      obtain ⟨b, rest⟩ := found
      have hperm := takeFirst_perm htake
      have hid : b.blockerId = blockerId := by
        simpa using takeFirst_pred htake
      refine ⟨b, rest, rfl, ?_, hperm, hid⟩
      have hresponses := responses_perm hperm blockerId
      rw [h, responses_cons, if_pos hid] at hresponses
      have hmem : b.responseData ∈ [data] := hresponses.mem_iff.mpr List.mem_cons_self
      exact List.mem_singleton.mp hmem

/-- Removing an entry takes one of its id and none of another id. -/
theorem responses_withoutBlocker_other
    {blockerId id : UInt64}
    (hne : id ≠ blockerId)
    (l : List MessageBlocker) :
    (responses id (withoutBlocker blockerId l)).Perm (responses id l) := by
  unfold withoutBlocker withoutFirst
  cases htake : takeFirst (fun b : MessageBlocker => b.blockerId == blockerId) l with
  | none =>
      exact List.Perm.refl _
  | some found =>
      obtain ⟨b, rest⟩ := found
      have hid : b.blockerId = blockerId := by
        simpa using takeFirst_pred htake
      have hresponses := responses_perm (takeFirst_perm htake) id
      rw [responses_cons, if_neg (by rw [hid]; exact hne.symm)] at hresponses
      exact hresponses.symm

theorem responses_withoutBlocker_self
    {blockerId : UInt64}
    {l : List MessageBlocker}
    (h : (responses blockerId l).length ≤ 1) :
    responses blockerId (withoutBlocker blockerId l) = [] := by
  unfold withoutBlocker withoutFirst
  cases htake : takeFirst (fun b : MessageBlocker => b.blockerId == blockerId) l with
  | none =>
      exact (takeBlocker_eq_none_iff _ _).mp htake
  | some found =>
      obtain ⟨b, rest⟩ := found
      have hid : b.blockerId = blockerId := by
        simpa using takeFirst_pred htake
      have hlength := (responses_perm (takeFirst_perm htake) blockerId).length_eq
      rw [responses_cons, if_pos hid, List.length_cons] at hlength
      have hzero : (responses blockerId rest).length = 0 := by omega
      exact List.length_eq_zero_iff.mp hzero

/-- The woken thread returns the data of the one entry of its id. -/
theorem removeMessageFromList_value_of_responses
    {blockerId : UInt64}
    {p : Process}
    (h : (responses blockerId p.blockerList).length ≤ 1) :
    ((removeMessageFromList blockerId).run p).value =
      (responses blockerId p.blockerList).head?.join := by
  rw [removeMessageFromList_value]
  cases hresponses : responses blockerId p.blockerList with
  | nil =>
      rw [(takeBlocker_eq_none_iff _ _).mpr hresponses]
      rfl
  | cons data rest =>
      rw [hresponses, List.length_cons] at h
      have hrest : rest = [] := List.length_eq_zero_iff.mp (by omega)
      rw [hrest] at hresponses
      obtain ⟨b, rest, htake, hdata, _, _⟩ := takeBlocker_of_responses hresponses
      simp [htake, hdata]

/-! ## The timer -/

theorem responses_set
    {l : List MessageBlocker}
    {i : Nat}
    {b b' : MessageBlocker}
    (hi : l[i]? = some b)
    (hid : b'.blockerId = b.blockerId)
    (hdata : b'.responseData = b.responseData)
    (id : UInt64) :
    responses id (l.set i b') = responses id l := by
  induction l generalizing i with
  | nil =>
      rfl
  | cons e l ih =>
      cases i with
      | zero =>
          have he : e = b := by simpa using hi
          subst he
          simp only [List.set_cons_zero, responses_cons, hid, hdata]
      | succ i =>
          have hi' : l[i]? = some b := by simpa using hi
          simp only [List.set_cons_succ, responses_cons, ih hi']

/-- A stored response changes only an entry of its id. -/
theorem mem_drop_of_mem_drop_storeResponse
    {blockerId : UInt64}
    {data : Option Bytes}
    {l : List MessageBlocker}
    {n : Nat}
    {b : MessageBlocker}
    (hne : b.blockerId ≠ blockerId)
    (hb : b ∈ (storeResponse blockerId data l).drop n) :
    b ∈ l.drop n := by
  induction l generalizing n with
  | nil =>
      exact hb
  | cons e l ih =>
      by_cases he : e.blockerId = blockerId
      · cases n with
        | zero =>
            simp only [storeResponse, he, beq_self_eq_true, if_true, List.drop_zero,
              List.mem_cons] at hb ⊢
            rcases hb with rfl | hb
            · exact absurd rfl hne
            · exact Or.inr hb
        | succ n =>
            simpa [storeResponse, he] using hb
      · cases n with
        | zero =>
            simp only [storeResponse, beq_iff_eq, he, if_false, List.drop_zero,
              List.mem_cons] at hb ⊢
            rcases hb with rfl | hb
            · exact Or.inl rfl
            · exact Or.inr (by simpa using ih (n := 0) (by simpa using hb))
        | succ n =>
            simp only [storeResponse, beq_iff_eq, he, if_false, List.drop_succ_cons] at hb ⊢
            exact ih hb

/-- The timer step for one entry. -/
def expire (b : MessageBlocker) (l : List MessageBlocker) : List MessageBlocker :=
  if b.timer - 1 = 0 then storeResponse b.blockerId none (withoutBlocker b.blockerId l)
  else l

theorem makeTimerStepFrom_process
    (fuel i : Nat)
    (p : Process) :
    ((makeTimerStepFrom (fuel + 1) i).run p).process =
      match p.blockerList[i]? with
      | none => p
      | some b =>
          ((makeTimerStepFrom fuel (i + 1)).run
            { p with blockerList :=
                expire b (p.blockerList.set i { b with timer := b.timer - 1 }) }).process := by
  rw [makeTimerStepFrom, Act.run_get_bind]
  cases p.blockerList[i]? with
  | none =>
      rfl
  | some b =>
      by_cases htimer : b.timer - 1 = 0
      · simp [htimer, expire, Act.run_bind]
      · simp [htimer, expire]

/-- The timer changes nothing but the list. -/
theorem makeTimerStepFrom_frame (fuel i : Nat) (p : Process) :
    ∃ l, ((makeTimerStepFrom fuel i).run p).process = { p with blockerList := l } := by
  induction fuel generalizing i p with
  | zero =>
      exact ⟨p.blockerList, rfl⟩
  | succ fuel ih =>
      rw [makeTimerStepFrom_process]
      cases p.blockerList[i]? with
      | none =>
          exact ⟨p.blockerList, rfl⟩
      | some b =>
          obtain ⟨l, hl⟩ := ih (i + 1)
            { p with blockerList :=
                expire b (p.blockerList.set i { b with timer := b.timer - 1 }) }
          exact ⟨l, hl⟩

/-- The timer keeps the entries of an id that are not at their last step. -/
theorem responses_makeTimerStepFrom
    (id : UInt64)
    (fuel i : Nat)
    (p : Process)
    (h : ∀ b ∈ p.blockerList.drop i, b.blockerId = id → b.timer ≠ 1) :
    (responses id ((makeTimerStepFrom fuel i).run p).process.blockerList).Perm
      (responses id p.blockerList) := by
  induction fuel generalizing i p with
  | zero =>
      exact List.Perm.refl _
  | succ fuel ih =>
      rw [makeTimerStepFrom_process]
      cases hi : p.blockerList[i]? with
      | none =>
          exact List.Perm.refl _
      | some b =>
          obtain ⟨hlt, hb⟩ := List.getElem?_eq_some_iff.mp hi
          have hdrop : p.blockerList.drop i = b :: p.blockerList.drop (i + 1) := by
            rw [List.drop_eq_getElem_cons hlt, hb]
          have hset : responses id
              (p.blockerList.set i { b with timer := b.timer - 1 }) =
                responses id p.blockerList := by
            refine responses_set hi ?_ ?_ id
            · rfl
            · rfl
          have hafter : (p.blockerList.set i { b with timer := b.timer - 1 }).drop (i + 1) =
              p.blockerList.drop (i + 1) :=
            List.drop_set_of_lt (Nat.lt_succ_self i)
          by_cases hexpires : b.timer - 1 = 0
          · have hne : b.blockerId ≠ id := by
              intro hid
              have htimer := h b (by rw [hdrop]; exact List.mem_cons_self) hid
              have hone : b.timer = 1 := by
                rw [← UInt64.sub_add_cancel b.timer 1, hexpires]
                rfl
              exact htimer hone
            simp only [expire, hexpires, if_true]
            refine (ih (i + 1) _ ?_).trans ?_
            · intro e he hid
              refine h e ?_ hid
              have hne' : e.blockerId ≠ b.blockerId := by
                rw [hid]
                exact hne.symm
              have hmem := mem_drop_of_mem_drop_storeResponse hne' he
              rw [hdrop]
              refine List.mem_cons_of_mem _ ?_
              rw [← hafter, hexpires]
              unfold withoutBlocker withoutFirst at hmem
              split at hmem
              · exact hmem
              · rename_i htake
                refine mem_drop_of_takeFirst htake (by rw [List.length_set]; exact hlt) ?_ hmem
                simp
            · simp only
              rw [responses_storeResponse, if_neg hne.symm]
              refine (responses_withoutBlocker_other hne.symm _).trans ?_
              rw [hexpires] at hset
              rw [hset]
          · simp only [expire, hexpires, if_false]
            refine (ih (i + 1) _ ?_).trans (by rw [hset])
            intro e he hid
            refine h e ?_ hid
            rw [hdrop]
            refine List.mem_cons_of_mem _ ?_
            rw [← hafter]
            exact he

/-- A timer step keeps the entries of an id that are not at their last step. -/
theorem responses_makeTimerStep
    (id : UInt64)
    (p : Process)
    (h : ∀ b ∈ p.blockerList, b.blockerId = id → b.timer ≠ 1) :
    (responses id (makeTimerStep.run p).process.blockerList).Perm
      (responses id p.blockerList) :=
  responses_makeTimerStepFrom id _ 0 p (by simpa using h)

end MessageBlockerHandler

end SakuraNetwork

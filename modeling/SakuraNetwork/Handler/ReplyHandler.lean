import SakuraNetwork.Process

/-!
# `ReplyHandler`: messages that await a reply

Every message sent with flag 0x1 is recorded under a key made of its message id
and its session id.  The reply that carries the same two ids removes it.

* `completeMessageId_inj`: the key determines both ids.
* `pending_withoutMessage`: a removal takes one entry of the key, and no other.
* `makeTimerStep_cases`: a timer step removes at most one entry; the entry it
  reports need not be the one it removed.
-/

namespace SakuraNetwork

open Lib

namespace ReplyHandler

/-- The key `(messageId << 32) + sessionId`. -/
def completeMessageId (sessionId messageId : UInt32) : UInt64 :=
  (messageId.toUInt64 <<< 32) + sessionId.toUInt64

theorem completeMessageId_toNat (sessionId messageId : UInt32) :
    (completeMessageId sessionId messageId).toNat =
      messageId.toNat * 4294967296 + sessionId.toNat := by
  have hs := sessionId.toNat_lt
  have hm := messageId.toNat_lt
  simp only [completeMessageId, UInt64.toNat_add, UInt64.toNat_shiftLeft,
    UInt32.toNat_toUInt64, Nat.shiftLeft_eq, UInt64.toNat_ofNat]
  have hexp : 32 % 2 ^ 64 % 64 = 32 := by decide
  rw [hexp]
  omega

/-- The key determines the session id and the message id. -/
theorem completeMessageId_inj {sessionId sessionId' messageId messageId' : UInt32}
    (h : completeMessageId sessionId messageId = completeMessageId sessionId' messageId') :
    sessionId = sessionId' ∧ messageId = messageId' := by
  have hnat := congrArg UInt64.toNat h
  rw [completeMessageId_toNat, completeMessageId_toNat] at hnat
  have hs := sessionId.toNat_lt
  have hs' := sessionId'.toNat_lt
  constructor
  · exact UInt32.toNat_inj.mp (by omega)
  · exact UInt32.toNat_inj.mp (by omega)

/-- `ReplyHandler::addMessage`. -/
def addMessage (messageType : UInt8) (sessionId messageId : UInt32) (s : SessionRef) : Act Unit :=
  Act.modify (fun p =>
    { p with replyList := p.replyList ++
      [{ completeMessageId := completeMessageId sessionId messageId
         messageType := messageType
         session := s }] })

/-- `ReplyHandler::removeMessageFromList`: the first entry of the key is swapped
with the last one and popped. -/
def removeMessageFromList (id : UInt64) (l : List MessageTime) :
    Option (MessageTime × List MessageTime) :=
  takeFirst (fun m => m.completeMessageId == id) l

/-- `ReplyHandler::removeMessage` with a complete id. -/
def removeCompleteMessage (id : UInt64) : Act Bool := do
  let p ← Act.get
  match removeMessageFromList id p.replyList with
  | none => pure false
  | some (_, rest) =>
      Act.modify (fun p => { p with replyList := rest })
      pure true

/-- `ReplyHandler::removeMessage`. -/
def removeMessage (sessionId messageId : UInt32) : Act Bool :=
  removeCompleteMessage (completeMessageId sessionId messageId)

/-- `ReplyHandler::removeAllOfSession`: the entries stay, their timeouts are
ignored. -/
def removeAllOfSession (sessionId : UInt32) : Act Unit :=
  Act.modify (fun p =>
    { p with replyList := p.replyList.map (fun m =>
      if m.completeMessageId &&& 0xFFFFFFFF == sessionId.toUInt64 then
        { m with ignoreResult := true }
      else m) })

/-- The list without the first entry of a key, if there is one. -/
def withoutMessage (id : UInt64) (l : List MessageTime) : List MessageTime :=
  withoutFirst (fun m => m.completeMessageId == id) l

/-! ## The timer -/

/-- `m_timeoutValue`. -/
def timeoutValue : Nat := 2

/-- What a pointer to place `i` of the vector reads after the removal: behind the
elements that are left, the last place still holds the removed entry, which was
swapped there before it was popped. -/
def placeAfterRemoval (id : UInt64) (l : List MessageTime) (i : Nat) : Option MessageTime :=
  match removeMessageFromList id l with
  | none => l[i]?
  | some (m, rest) => if i < rest.length then rest[i]? else some m

/-- `"TIMEOUT of message: " + completeMessageId + " with type: " + messageType`. -/
def timeoutText (m : MessageTime) : ErrorText :=
  .text ("TIMEOUT of message: " ++ toString m.completeMessageId.toNat ++ " with type: " ++
    toString m.messageType.toNat)

/-- The body of the timeout: `temp` points to place `i` before and after the
removal. -/
def handleTimeout (i : Nat) (temp : MessageTime) : Act Unit := do
  let p ← Act.get
  let _ ← removeCompleteMessage temp.completeMessageId
  match placeAfterRemoval temp.completeMessageId p.replyList i with
  | none => pure ()
  | some temp =>
      if temp.ignoreResult then pure ()
      else do
        modifySession temp.session (fun x => { x with initState := -1 })
        Act.emit (.processError temp.session .messageTimeout (timeoutText temp))

/-- The loop of `makeTimerStep` from index `i` on, up to the first timeout. -/
def makeTimerStepFrom : Nat → Nat → Act Unit
  | 0, _ => pure ()
  | fuel + 1, i => do
      let p ← Act.get
      match p.replyList[i]? with
      | none => pure ()
      | some m =>
          let temp := { m with timer := m.timer + 1 }
          Act.modify (fun p => { p with replyList := p.replyList.set i temp })
          if temp.timer ≥ timeoutValue then handleTimeout i temp
          else makeTimerStepFrom fuel (i + 1)

/-- `ReplyHandler::makeTimerStep`. -/
def makeTimerStep : Act Unit := do
  let p ← Act.get
  makeTimerStepFrom p.replyList.length 0

@[simp] theorem run_addMessage (messageType : UInt8) (sessionId messageId : UInt32)
    (s : SessionRef) (p : Process) :
    (addMessage messageType sessionId messageId s).run p =
      { value := ()
        process := { p with replyList := p.replyList ++
          [{ completeMessageId := completeMessageId sessionId messageId
             messageType := messageType
             session := s }] } } := rfl

@[simp] theorem removeMessage_process (sessionId messageId : UInt32) (p : Process) :
    ((removeMessage sessionId messageId).run p).process =
      { p with
        replyList := withoutMessage (completeMessageId sessionId messageId) p.replyList } := by
  unfold removeMessage removeCompleteMessage withoutMessage
  simp only [Act.run_get_bind]
  split
  · rename_i h
    rw [withoutFirst_of_none h]
    rfl
  · rename_i h
    rw [withoutFirst_of_some h]
    rfl

@[simp] theorem removeMessage_outputs (sessionId messageId : UInt32) (p : Process) :
    ((removeMessage sessionId messageId).run p).outputs = [] := by
  unfold removeMessage removeCompleteMessage
  simp only [Act.run_get_bind]
  split <;> simp

@[simp] theorem removeMessage_accesses (sessionId messageId : UInt32) (p : Process) :
    ((removeMessage sessionId messageId).run p).accesses = [] := by
  unfold removeMessage removeCompleteMessage
  simp only [Act.run_get_bind]
  split <;> simp

@[simp] theorem run_removeAllOfSession (sessionId : UInt32) (p : Process) :
    (removeAllOfSession sessionId).run p =
      { value := ()
        process := { p with replyList := p.replyList.map (fun m =>
          if m.completeMessageId &&& 0xFFFFFFFF == sessionId.toUInt64 then
            { m with ignoreResult := true }
          else m) } } := rfl

/-- How many messages are recorded under a key. -/
def pending (id : UInt64) (l : List MessageTime) : Nat :=
  l.countP (fun m => m.completeMessageId == id)

@[simp] theorem pending_append (id : UInt64) (l l' : List MessageTime) :
    pending id (l ++ l') = pending id l + pending id l' := by
  simp [pending]

/-- A removal under a key takes one of its entries and no entry of another key. -/
theorem pending_withoutMessage (id id' : UInt64) (l : List MessageTime) :
    pending id' (withoutMessage id l) =
      if id' = id then pending id l - 1 else pending id' l := by
  unfold withoutMessage withoutFirst
  cases htake : takeFirst (fun m : MessageTime => m.completeMessageId == id) l with
  | none =>
      have hnone := (takeFirst_eq_none_iff _ _).mp htake
      by_cases hid : id' = id
      · subst id'
        have hzero : pending id l = 0 := by
          rw [pending, List.countP_eq_zero]
          intro m hm
          simp [hnone m hm]
        simp [hzero]
      · simp [hid]
  | some found =>
      obtain ⟨m, rest⟩ := found
      have hm : m.completeMessageId = id := by
        simpa using takeFirst_pred htake
      have hperm := (takeFirst_perm htake).countP_eq
        (fun m : MessageTime => m.completeMessageId == id')
      simp only [pending, List.countP_cons, hm] at hperm ⊢
      by_cases hid : id' = id
      · subst id'
        simp [hperm]
      · have hne : ¬ id = id' := fun h => hid h.symm
        simp [hid, hperm, hne]

/-- Marking the entries of a session keeps their keys. -/
theorem pending_map_ignore (id : UInt64) (c : MessageTime → Bool) (l : List MessageTime) :
    pending id (l.map (fun m => if c m then { m with ignoreResult := true } else m)) =
      pending id l := by
  rw [pending, List.countP_map, pending]
  refine List.countP_congr ?_
  intro m _
  simp only [Function.comp]
  split <;> rfl

/-! ## The timer step -/

/-- One more step of the timer of an entry. -/
def tick (m : MessageTime) : MessageTime :=
  { m with timer := m.timer + 1 }

/-- The entry times out in this step. -/
def TimesOut (m : MessageTime) : Prop :=
  timeoutValue ≤ m.timer + 1

instance (m : MessageTime) : Decidable (TimesOut m) :=
  inferInstanceAs (Decidable (timeoutValue ≤ m.timer + 1))

/-- The loop passes entries that do not time out, and stops at the first that
does. -/
theorem makeTimerStepFrom_cases
    (done todo : List MessageTime)
    (fuel : Nat)
    (hfuel : todo.length ≤ fuel)
    (p : Process) :
    ((∀ m ∈ todo, ¬ TimesOut m) ∧
      (makeTimerStepFrom fuel done.length).run { p with replyList := done ++ todo } =
        { value := (), process := { p with replyList := done ++ todo.map tick } }) ∨
    ∃ pre m post,
      todo = pre ++ m :: post ∧
      (∀ e ∈ pre, ¬ TimesOut e) ∧
      TimesOut m ∧
      (makeTimerStepFrom fuel done.length).run { p with replyList := done ++ todo } =
        (handleTimeout (done ++ pre).length (tick m)).run
          { p with replyList := done ++ (pre.map tick ++ tick m :: post) } := by
  induction todo generalizing done fuel with
  | nil =>
      refine Or.inl ⟨by simp, ?_⟩
      cases fuel with
      | zero =>
          rfl
      | succ fuel =>
          simp [makeTimerStepFrom]
  | cons m todo ih =>
      cases fuel with
      | zero =>
          simp at hfuel
      | succ fuel =>
          have hlookup : (done ++ m :: todo)[done.length]? = some m := by
            simp
          have hset : (done ++ m :: todo).set done.length (tick m) = done ++ tick m :: todo := by
            simp
          have hrun : (makeTimerStepFrom (fuel + 1) done.length).run
                { p with replyList := done ++ m :: todo } =
              (if TimesOut m then handleTimeout done.length (tick m)
                else makeTimerStepFrom fuel (done.length + 1)).run
                  { p with replyList := done ++ tick m :: todo } := by
            simp only [makeTimerStepFrom, Act.run_get_bind, hlookup, Act.run_modify_bind]
            exact congrArg (fun l => (if TimesOut m then handleTimeout done.length (tick m)
              else makeTimerStepFrom fuel (done.length + 1)).run { p with replyList := l }) hset
          by_cases hm : TimesOut m
          · refine Or.inr ⟨[], m, todo, rfl, by simp, hm, ?_⟩
            rw [hrun, if_pos hm, List.append_nil]
            rfl
          · rw [if_neg hm] at hrun
            have hnext := ih (done ++ [tick m]) fuel (by simpa using hfuel)
            simp only [List.length_append, List.length_singleton, List.append_assoc,
              List.singleton_append] at hnext
            rcases hnext with ⟨hnone, hend⟩ | ⟨pre, e, post, rfl, hpre, he, hend⟩
            · refine Or.inl ⟨?_, ?_⟩
              · intro e he
                rcases List.mem_cons.mp he with rfl | he
                · exact hm
                · exact hnone e he
              · rw [hrun, hend]
                rfl
            · refine Or.inr ⟨m :: pre, e, post, rfl, ?_, he, ?_⟩
              · intro e' he'
                rcases List.mem_cons.mp he' with rfl | he'
                · exact hm
                · exact hpre e' he'
              · rw [hrun, hend]
                simp only [List.length_append, List.length_cons, List.map_cons, List.cons_append]

/-- A timeout removes the first entry of the key, and reports the entry that is
found at its place afterwards. -/
theorem handleTimeout_cases
    {l : List MessageTime}
    {i : Nat}
    {temp : MessageTime}
    (hi : l[i]? = some temp)
    (p : Process) :
    ∃ removed rest reported,
      removeMessageFromList temp.completeMessageId l = some (removed, rest) ∧
      reported ∈ l ∧
      (i = rest.length → reported = removed) ∧
      (handleTimeout i temp).run { p with replyList := l } =
        if reported.ignoreResult then { value := (), process := { p with replyList := rest } }
        else
          { value := ()
            process := ({ p with replyList := rest } : Process).modifySession reported.session
              (fun x => { x with initState := -1 })
            outputs :=
              [.processError reported.session .messageTimeout (timeoutText reported)] } := by
  have hmem : temp ∈ l := List.mem_of_getElem? hi
  cases htake : removeMessageFromList temp.completeMessageId l with
  | none =>
      have hnone := (takeFirst_eq_none_iff _ _).mp htake temp hmem
      simp at hnone
  | some found =>
      obtain ⟨removed, rest⟩ := found
      have hperm := takeFirst_perm htake
      have hlength := hperm.length_eq
      obtain ⟨hlt, _⟩ := List.getElem?_eq_some_iff.mp hi
      rw [List.length_cons] at hlength
      have hplace : ∃ reported, placeAfterRemoval temp.completeMessageId l i = some reported ∧
          reported ∈ l ∧ (i = rest.length → reported = removed) := by
        rw [placeAfterRemoval, htake]
        by_cases hin : i < rest.length
        · refine ⟨rest[i], ?_, ?_, fun h => absurd h (Nat.ne_of_lt hin)⟩
          · simp [hin]
          · exact hperm.mem_iff.mpr (List.mem_cons_of_mem _ (List.getElem_mem hin))
        · refine ⟨removed, ?_, hperm.mem_iff.mpr List.mem_cons_self, fun _ => rfl⟩
          simp [hin]
      obtain ⟨reported, hreported, hin, hlast⟩ := hplace
      refine ⟨removed, rest, reported, rfl, hin, hlast, ?_⟩
      have hremove : (removeCompleteMessage temp.completeMessageId).run { p with replyList := l } =
          { value := true, process := { p with replyList := rest } } := by
        simp [removeCompleteMessage, htake]
      rw [handleTimeout, Act.run_get_bind, Act.run_bind, hremove]
      simp only [hreported]
      cases reported.ignoreResult with
      | true =>
          rfl
      | false =>
          rfl

/-- A timer step makes one step of some timers, and at the first timeout it
removes one entry and reports one. -/
theorem makeTimerStep_cases (p : Process) :
    ((∀ m ∈ p.replyList, ¬ TimesOut m) ∧
      makeTimerStep.run p =
        { value := (), process := { p with replyList := p.replyList.map tick } }) ∨
    ∃ pre m post removed rest reported,
      p.replyList = pre ++ m :: post ∧
      (∀ e ∈ pre, ¬ TimesOut e) ∧
      TimesOut m ∧
      removeMessageFromList m.completeMessageId (pre.map tick ++ tick m :: post) =
        some (removed, rest) ∧
      reported ∈ pre.map tick ++ tick m :: post ∧
      (pre.length = rest.length → reported = removed) ∧
      makeTimerStep.run p =
        if reported.ignoreResult then { value := (), process := { p with replyList := rest } }
        else
          { value := ()
            process := ({ p with replyList := rest } : Process).modifySession reported.session
              (fun x => { x with initState := -1 })
            outputs :=
              [.processError reported.session .messageTimeout (timeoutText reported)] } := by
  rcases makeTimerStepFrom_cases [] p.replyList p.replyList.length (Nat.le_refl _) p with
    ⟨hnone, hrun⟩ | ⟨pre, m, post, hsplit, hpre, hm, hrun⟩
  · exact Or.inl ⟨hnone, hrun⟩
  · have hi : (pre.map tick ++ tick m :: post)[pre.length]? = some (tick m) := by
      simp
    obtain ⟨removed, rest, reported, htake, hin, hlast, hend⟩ := handleTimeout_cases hi p
    refine Or.inr ⟨pre, m, post, removed, rest, reported, hsplit, hpre, hm, htake, hin, hlast, ?_⟩
    exact hrun.trans hend

end ReplyHandler

end SakuraNetwork

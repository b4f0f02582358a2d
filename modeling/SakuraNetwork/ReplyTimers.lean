import SakuraNetwork.Handler.ReplyHandler
import SakuraNetwork.Lib.TransitionSystem
import Mathlib.Data.List.TakeWhile

/-!
# The timers of the messages that await a reply

`ReplyHandler::makeTimerStep` stops at the first entry that times out, removes it by
exchanging it with the last entry, and reports whatever stands at its place
afterwards.

* `makeTimerStep_of_split`: the entry that is removed and the entry that is reported.
* `timeout_named_iff`: the reported entry is the removed one exactly when that was
  the last of the list, or neither is reported.
* `Schedule`: the messages with the step they were recorded at, instead of a timer.
* `timers_independent`: as long as only last entries time out, the list is the
  schedule.
-/

namespace SakuraNetwork

open Lib

namespace ReplyHandler

/-! ## One step -/

/-- The list from its first entry that times out on. -/
def timedOut (l : List MessageTime) : List MessageTime :=
  l.dropWhile (fun m => !decide (TimesOut m))

theorem timedOut_of_none
    {l : List MessageTime}
    (h : ∀ m ∈ l, ¬ TimesOut m) :
    timedOut l = [] := by
  rw [timedOut, List.dropWhile_eq_nil_iff]
  intro m hm
  simp [h m hm]

theorem timedOut_of_split
    {pre post : List MessageTime}
    {m : MessageTime}
    (hpre : ∀ e ∈ pre, ¬ TimesOut e)
    (hm : TimesOut m) :
    timedOut (pre ++ m :: post) = m :: post := by
  have hdone : ∀ e ∈ pre, (!decide (TimesOut e)) = true := by
    intro e he
    simp [hpre e he]
  rw [timedOut, List.dropWhile_append_of_pos hdone, List.dropWhile_cons_of_neg]
  simp [hm]

/-- The report of a timeout, unless the entry is marked. -/
def reportTimeout (temp : MessageTime) : Act Unit :=
  if temp.ignoreResult then pure ()
  else do
    modifySession temp.session (fun x => { x with initState := -1 })
    Act.emit (.processError temp.session .messageTimeout (timeoutText temp))

/-- The place of the removed entry holds the one that was the last, or still the
removed one when nothing stood behind it. -/
theorem placeAfterRemoval_of_split
    {pre post : List MessageTime}
    {m : MessageTime}
    (hkey : ∀ e ∈ pre, e.completeMessageId ≠ m.completeMessageId) :
    placeAfterRemoval m.completeMessageId (pre ++ m :: post) pre.length =
      some (post.getLast?.getD m) := by
  have htake : removeMessageFromList m.completeMessageId (pre ++ m :: post) =
      some (m, swapRemove (pre ++ m :: post) pre.length) := by
    refine takeFirst_of_split (by simp) ?_
    intro e he
    simpa using hkey e he
  rw [placeAfterRemoval, htake]
  rcases List.eq_nil_or_concat post with rfl | ⟨post', z, rfl⟩
  · rw [swapRemove_concat_last]
    simp
  · rw [List.concat_eq_append, swapRemove_concat_inner]
    simp

/-- The first entry that times out is removed, and the one that takes its place is
reported. -/
theorem makeTimerStep_of_split
    {p : Process}
    {pre post : List MessageTime}
    {m : MessageTime}
    (hsplit : p.replyList = pre ++ m :: post)
    (hpre : ∀ e ∈ pre, ¬ TimesOut e)
    (hm : TimesOut m)
    (hkey : ∀ e ∈ pre, e.completeMessageId ≠ m.completeMessageId) :
    makeTimerStep.run p =
      (reportTimeout (post.getLast?.getD (tick m))).run
        { p with replyList := swapRemove (pre.map tick ++ tick m :: post) pre.length } := by
  have hkeys : ∀ e ∈ pre.map tick, e.completeMessageId ≠ (tick m).completeMessageId := by
    intro e he
    obtain ⟨e', he', rfl⟩ := List.mem_map.mp he
    exact hkey e' he'
  rcases makeTimerStepFrom_cases [] p.replyList p.replyList.length (Nat.le_refl _) p with
    ⟨hnone, _⟩ | ⟨pre', m', post', hsplit', hpre', hm', hrun⟩
  · exact absurd hm (hnone m (by rw [hsplit]; simp))
  · have htimed : timedOut (pre ++ m :: post) = m :: post := timedOut_of_split hpre hm
    rw [← hsplit, hsplit', timedOut_of_split hpre' hm'] at htimed
    obtain ⟨rfl, rfl⟩ := List.cons.inj htimed
    have hsame : pre' = pre := List.append_cancel_right (hsplit'.symm.trans hsplit)
    subst hsame
    have hplace : placeAfterRemoval (tick m').completeMessageId
        (pre'.map tick ++ tick m' :: post') (pre'.map tick).length =
          some (post'.getLast?.getD (tick m')) := placeAfterRemoval_of_split hkeys
    rw [List.length_map] at hplace
    have htake : removeMessageFromList (tick m').completeMessageId
        (pre'.map tick ++ tick m' :: post') =
          some (tick m', swapRemove (pre'.map tick ++ tick m' :: post') pre'.length) := by
      rw [← List.length_map tick]
      exact takeFirst_of_split (by simp) (fun e he => by simpa using hkeys e he)
    refine hrun.trans ?_
    simp only [List.nil_append]
    generalize hl : pre'.map tick ++ tick m' :: post' = l at hplace htake ⊢
    have hremove : (removeCompleteMessage (tick m').completeMessageId).run
        { p with replyList := l } =
          { value := true, process := { p with replyList := swapRemove l pre'.length } } := by
      simp [removeCompleteMessage, htake]
    rw [handleTimeout, Act.run_get_bind, Act.run_bind, hremove]
    simp only [hplace]
    rfl

/-! ## The report names the removed entry -/

/-- Whether the step removes the entry because its timer reached the limit. -/
def Expired (p : Process) (e : MessageTime) : Prop :=
  e ∈ p.replyList ∧ TimesOut e ∧
    ∀ m ∈ (makeTimerStep.run p).process.replyList, m.completeMessageId ≠ e.completeMessageId

/-- What a timeout of the entry has to do: its own session is told its own id and
type, and is no longer waited for, unless the entry is marked. -/
def TimeoutNames (p : Process) (e : MessageTime) : Prop :=
  (makeTimerStep.run p).outputs =
      (if e.ignoreResult then []
        else [.processError e.session .messageTimeout (timeoutText e)]) ∧
    (makeTimerStep.run p).process.session =
      (if e.ignoreResult then p
        else p.modifySession e.session (fun x => { x with initState := -1 })).session

/-- The first entry that times out is the last one of the list, or it and the last
one are both marked. -/
def NamesRemoved (l : List MessageTime) : Prop :=
  match timedOut l with
  | [] => True
  | m :: post =>
      post = [] ∨ (m.ignoreResult = true ∧ (post.getLast?.getD m).ignoreResult = true)

/-- The text names the id. -/
theorem timeoutText_inj
    {m m' : MessageTime}
    (h : timeoutText m = timeoutText m') :
    m.completeMessageId = m'.completeMessageId := by
  have hdigits : ∀ (n : Nat) (rest : List Char),
      ((toString n).toList ++ ' ' :: rest).takeWhile Char.isDigit = (toString n).toList := by
    intro n rest
    rw [List.takeWhile_append_of_pos, List.takeWhile_cons_of_neg (by decide), List.append_nil]
    intro c hc
    refine Nat.isDigit_of_mem_toDigits (b := 10) (n := n) (by decide) (by decide) ?_
    simpa using hc
  have hsplit : ∀ n k : Nat, (toString n).toList ++ (" with type: ".toList ++ (toString k).toList) =
      (toString n).toList ++ ' ' :: ("with type: ".toList ++ (toString k).toList) := by
    intro n k
    rfl
  have htext := congrArg String.toList (ErrorText.text.inj h)
  simp only [String.toList_append, List.append_assoc] at htext
  have hrest := List.append_cancel_left htext
  rw [hsplit, hsplit] at hrest
  have hprefix := congrArg (List.takeWhile Char.isDigit) hrest
  rw [hdigits, hdigits] at hprefix
  have hnat := congrArg (fun digits => Nat.ofDigitChars 10 digits 0) hprefix
  simp only [Nat.toString_eq_repr, Nat.toList_repr, Nat.ofDigitChars_ten_toDigits] at hnat
  exact UInt64.toNat_inj.mp hnat

/-- One more step of the timer does not change what is reported. -/
@[simp] theorem reportTimeout_tick (m : MessageTime) :
    reportTimeout (tick m) = reportTimeout m := rfl

theorem run_reportTimeout (m : MessageTime) (p : Process) :
    (reportTimeout m).run p =
      { value := ()
        process := if m.ignoreResult then p
          else p.modifySession m.session (fun x => { x with initState := -1 })
        outputs := if m.ignoreResult then []
          else [.processError m.session .messageTimeout (timeoutText m)] } := by
  unfold reportTimeout
  cases m.ignoreResult with
  | true =>
      rfl
  | false =>
      rfl

theorem replyList_reportTimeout (m : MessageTime) (p : Process) :
    ((reportTimeout m).run p).process.replyList = p.replyList := by
  rw [run_reportTimeout]
  simp only
  split <;> rfl

/-- The keys in the list after the removal are those of the other entries. -/
theorem expired_of_split
    {p : Process}
    {pre post : List MessageTime}
    {m : MessageTime}
    (hkeys : (p.replyList.map MessageTime.completeMessageId).Nodup)
    (hsplit : p.replyList = pre ++ m :: post)
    (hrest : (makeTimerStep.run p).process.replyList =
      swapRemove (pre.map tick ++ tick m :: post) pre.length)
    (hm : TimesOut m)
    (e : MessageTime) :
    Expired p e ↔ e = m := by
  have hperm := cons_swapRemove_perm (pre.map tick) post (tick m)
  rw [List.length_map, ← hrest] at hperm
  have hids := hperm.map MessageTime.completeMessageId
  have htick : (pre.map tick).map MessageTime.completeMessageId =
      pre.map MessageTime.completeMessageId := by
    rw [List.map_map]
    rfl
  rw [List.map_append, htick, List.map_cons, List.map_cons] at hids
  have hids' : (p.replyList.map MessageTime.completeMessageId).Perm
      (m.completeMessageId ::
        (makeTimerStep.run p).process.replyList.map MessageTime.completeMessageId) := by
    rw [hsplit, List.map_append, List.map_cons]
    exact hids
  constructor
  · rintro ⟨he, _, hgone⟩
    have hid := hids'.mem_iff.mp (List.mem_map.mpr ⟨e, he, rfl⟩)
    rcases List.mem_cons.mp hid with hid | hid
    · have hmem : m ∈ p.replyList := by
        rw [hsplit]
        simp
      exact List.inj_on_of_nodup_map hkeys he hmem hid
    · obtain ⟨k, hk, hkid⟩ := List.mem_map.mp hid
      exact absurd hkid (hgone k hk)
  · rintro rfl
    refine ⟨by rw [hsplit]; simp, hm, ?_⟩
    intro k hk hkid
    have hnodup := hids'.nodup_iff.mp hkeys
    exact (List.nodup_cons.mp hnodup).1 (List.mem_map.mpr ⟨k, hk, hkid⟩)

/-- A timeout step names every entry it removes exactly when the first entry that
times out is the last of the list, or it and the last one are marked.  The call of
`makeTimerStep` is one step: no other thread records or removes an entry between its
search and its report. -/
theorem timeout_named_iff
    (p : Process)
    (hkeys : (p.replyList.map MessageTime.completeMessageId).Nodup) :
    (∀ e, Expired p e → TimeoutNames p e) ↔ NamesRemoved p.replyList := by
  rcases makeTimerStepFrom_cases [] p.replyList p.replyList.length (Nat.le_refl _) p with
    ⟨hnone, _⟩ | ⟨pre, m, post, hsplit, hpre, hm, _⟩
  · constructor
    · intro _
      rw [NamesRemoved, timedOut_of_none hnone]
      trivial
    · rintro _ e ⟨he, htimer, _⟩
      exact absurd htimer (hnone e he)
  · have hkey : ∀ e ∈ pre, e.completeMessageId ≠ m.completeMessageId := by
      intro e he hid
      rw [hsplit, List.map_append, List.map_cons, List.nodup_append] at hkeys
      exact hkeys.2.2 _ (List.mem_map.mpr ⟨e, he, rfl⟩) _ List.mem_cons_self hid
    have hrun := makeTimerStep_of_split hsplit hpre hm hkey
    have hrest : (makeTimerStep.run p).process.replyList =
        swapRemove (pre.map tick ++ tick m :: post) pre.length := by
      rw [hrun, replyList_reportTimeout]
    have hexpired := expired_of_split hkeys hsplit hrest hm
    have hall : (∀ e, Expired p e → TimeoutNames p e) ↔ TimeoutNames p m := by
      constructor
      · intro h
        exact h m ((hexpired m).mpr rfl)
      · intro h e he
        rw [(hexpired e).mp he]
        exact h
    rw [hall, NamesRemoved, hsplit, timedOut_of_split hpre hm, TimeoutNames]
    rcases List.eq_nil_or_concat post with rfl | ⟨post', z, rfl⟩
    · rw [List.getLast?_nil, Option.getD_none, reportTimeout_tick, run_reportTimeout] at hrun
      rw [hrun]
      simp only [true_or, iff_true]
      by_cases hmark : m.ignoreResult = true
      · simp only [if_pos hmark]
        exact ⟨trivial, trivial⟩
      · simp only [if_neg hmark]
        exact ⟨trivial, rfl⟩
    · have hne : z.completeMessageId ≠ m.completeMessageId := by
        intro hid
        rw [hsplit, List.map_append, List.map_cons, List.nodup_append, List.nodup_cons] at hkeys
        exact hkeys.2.1.1 (List.mem_map.mpr ⟨z, by simp, hid⟩)
      rw [List.concat_eq_append, List.getLast?_concat, Option.getD_some, run_reportTimeout] at hrun
      rw [hrun]
      simp only [List.concat_eq_append, List.getLast?_concat, Option.getD_some,
        List.append_eq_nil_iff, List.cons_ne_nil, and_false, false_or]
      cases hmark : m.ignoreResult with
      | true =>
          cases hlast : z.ignoreResult with
          | true =>
              simp
          | false =>
              simp
      | false =>
          cases hlast : z.ignoreResult with
          | true =>
              simp
          | false =>
              simp only [Bool.false_eq_true, if_false, false_and, iff_false, not_and]
              intro hreport
              have htext := (List.cons.inj hreport).1
              injection htext with _ _ htext
              exact absurd (timeoutText_inj htext) hne

/-- A process without a socket whose list is given. -/
def Process.awaiting (l : List MessageTime) : Process :=
  { Process.created (fun _ => none) with replyList := l }

/-- Three sessions wait for a reply; the last one has waited longest. -/
def Process.awaitingThree : Process :=
  Process.awaiting [⟨5, 0, 3, 0, false⟩, ⟨6, 0, 3, 1, false⟩, ⟨7, 1, 3, 2, false⟩]

/-- The last of three entries times out, and is named. -/
theorem timeout_named_iff_last :
    Expired Process.awaitingThree ⟨7, 1, 3, 2, false⟩ ∧
      ∀ e, Expired Process.awaitingThree e → TimeoutNames Process.awaitingThree e := by
  have hrest : (makeTimerStep.run Process.awaitingThree).process.replyList =
      [⟨5, 1, 3, 0, false⟩, ⟨6, 1, 3, 1, false⟩] := rfl
  have hexpired : Expired Process.awaitingThree ⟨7, 1, 3, 2, false⟩ := by
    refine ⟨by decide, by decide, fun m hm => ?_⟩
    rw [hrest] at hm
    revert m
    decide
  have hlast : NamesRemoved Process.awaitingThree.replyList := Or.inl rfl
  exact ⟨hexpired, (timeout_named_iff Process.awaitingThree (by decide)).mpr hlast⟩

/-- The first of two entries times out, and the session of the second is told. -/
theorem not_timeout_named :
    ¬ ∀ p : Process, (p.replyList.map MessageTime.completeMessageId).Nodup →
      ∀ e, Expired p e → TimeoutNames p e := by
  intro h
  let first : MessageTime := { completeMessageId := 5, timer := 1, messageType := 3, session := 0 }
  let second : MessageTime := { completeMessageId := 6, messageType := 3, session := 1 }
  have hrest : (makeTimerStep.run (Process.awaiting [first, second])).process.replyList =
      [second] := rfl
  have hexpired : Expired (Process.awaiting [first, second]) first := by
    refine ⟨List.mem_cons_self, Nat.le_refl 2, ?_⟩
    intro m hm
    rw [hrest] at hm
    rw [List.mem_singleton.mp hm]
    decide
  have hnames := (h (Process.awaiting [first, second]) (by decide) first hexpired).1
  have houtputs : (makeTimerStep.run (Process.awaiting [first, second])).outputs =
      [.processError 1 .messageTimeout (timeoutText second)] := rfl
  rw [houtputs] at hnames
  have hreport := (List.cons.inj hnames).1
  injection hreport with hsession
  exact absurd hsession (by decide)

/-! ## The list after a step -/

/-- Every timer is at the next step, and the entries at the limit are gone. -/
def nextStep (l : List MessageTime) : List MessageTime :=
  (l.map tick).filter (fun m => decide (m.timer < timeoutValue))

/-- Only the last entry times out, and no entry before it has its key. -/
def OnlyLastTimesOut (l : List MessageTime) : Prop :=
  ∀ pre m, l = pre ++ [m] →
    (∀ e ∈ pre, ¬ TimesOut e) ∧
      (TimesOut m → ∀ e ∈ pre, e.completeMessageId ≠ m.completeMessageId)

theorem nextStep_of_none
    {l : List MessageTime}
    (h : ∀ m ∈ l, ¬ TimesOut m) :
    nextStep l = l.map tick := by
  refine List.filter_eq_self.mpr ?_
  intro e he
  obtain ⟨m, hm, rfl⟩ := List.mem_map.mp he
  exact decide_eq_true (Nat.not_le.mp (h m hm))

theorem nextStep_of_split
    {pre post : List MessageTime}
    {m : MessageTime}
    (hpre : ∀ e ∈ pre, ¬ TimesOut e)
    (hm : TimesOut m) :
    nextStep (pre ++ m :: post) = pre.map tick ++ nextStep post := by
  have hgone : ¬ (tick m).timer < timeoutValue := Nat.not_lt.mpr hm
  rw [nextStep, List.map_append, List.map_cons, List.filter_append,
    List.filter_cons_of_neg (by simpa using hgone)]
  exact congrArg (fun l => l ++ nextStep post) (nextStep_of_none hpre)

theorem below_of_mem_nextStep
    {l : List MessageTime}
    {m : MessageTime}
    (h : m ∈ nextStep l) :
    m.timer < timeoutValue := by
  simpa using (List.mem_filter.mp h).2

/-- No entry of a list can stay as it is. -/
theorem eq_nil_of_perm_nextStep
    {l : List MessageTime}
    (h : l.Perm (nextStep l)) :
    l = [] := by
  have hlength := h.length_eq
  have hall : nextStep l = l.map tick := by
    refine List.filter_eq_self.mpr (List.length_filter_eq_length_iff.mp ?_)
    rw [List.length_map]
    exact hlength.symm
  rw [hall] at h
  have hsum := (h.map MessageTime.timer).sum_nat
  have hticked : ∀ k : List MessageTime,
      ((k.map tick).map MessageTime.timer).sum = (k.map MessageTime.timer).sum + k.length := by
    intro k
    induction k with
    | nil =>
        rfl
    | cons m k ih =>
        simp only [List.map_cons, List.sum_cons, List.length_cons, ih, tick]
        omega
  rw [hticked] at hsum
  exact List.length_eq_zero_iff.mp (by omega)

/-- A step moves every timer, or removes the first entry of one key. -/
theorem replyList_makeTimerStep (p : Process) :
    ((∀ m ∈ p.replyList, ¬ TimesOut m) ∧
      (makeTimerStep.run p).process.replyList = p.replyList.map tick) ∨
    ∃ pre m post removed,
      p.replyList = pre ++ m :: post ∧
      (∀ e ∈ pre, ¬ TimesOut e) ∧
      TimesOut m ∧
      removeMessageFromList m.completeMessageId (pre.map tick ++ tick m :: post) =
        some (removed, (makeTimerStep.run p).process.replyList) := by
  rcases makeTimerStep_cases p with
    ⟨hnone, hrun⟩ | ⟨pre, m, post, removed, rest, reported, hsplit, hpre, hm, htake, _, _, hrun⟩
  · exact Or.inl ⟨hnone, by rw [hrun]⟩
  · refine Or.inr ⟨pre, m, post, removed, hsplit, hpre, hm, ?_⟩
    rw [hrun, htake]
    split <;> rfl

/-- Where only the last entry times out, a step is exact, in the order of the list. -/
theorem replyList_makeTimerStep_of_last
    {p : Process}
    (h : OnlyLastTimesOut p.replyList) :
    (makeTimerStep.run p).process.replyList = nextStep p.replyList := by
  rcases replyList_makeTimerStep p with
    ⟨hnone, hrest⟩ | ⟨pre, m, post, removed, hsplit, hpre, hm, htake⟩
  · rw [hrest, nextStep_of_none hnone]
  · rcases List.eq_nil_or_concat post with rfl | ⟨post', z, rfl⟩
    · have hkey := (h pre m hsplit).2 hm
      have hfirst : takeFirst (fun e : MessageTime => e.completeMessageId == m.completeMessageId)
          (pre.map tick ++ [tick m]) =
            some (tick m, swapRemove (pre.map tick ++ [tick m]) (pre.map tick).length) := by
        refine takeFirst_of_split (by simp [tick]) ?_
        intro e he
        obtain ⟨k, hk, rfl⟩ := List.mem_map.mp he
        simpa [tick] using hkey k hk
      rw [removeMessageFromList, hfirst, swapRemove_concat_last] at htake
      have hrest := (Prod.mk.inj (Option.some.inj htake)).2
      rw [← hrest, hsplit, nextStep_of_split hpre hm]
      exact (List.append_nil _).symm
    · have hearlier := (h (pre ++ m :: post') z (by simp [hsplit])).1 m (by simp)
      exact absurd hm hearlier

/-- A step moves every timer by one and removes the entries at the limit exactly
when only the last entry times out. -/
theorem step_exact_iff (p : Process) :
    ((makeTimerStep.run p).process.replyList).Perm (nextStep p.replyList) ↔
      OnlyLastTimesOut p.replyList := by
  constructor
  · intro hexact
    rcases replyList_makeTimerStep p with
      ⟨hnone, _⟩ | ⟨pre, m, post, removed, hsplit, hpre, hm, htake⟩
    · intro pre m hsplit
      rw [hsplit] at hnone
      exact ⟨fun e he => hnone e (by simp [he]), fun hm => absurd hm (hnone m (by simp))⟩
    · have hperm := takeFirst_perm htake
      have hnot : tick m ∉ (makeTimerStep.run p).process.replyList := by
        intro hin
        have hbelow := below_of_mem_nextStep (hexact.mem_iff.mp hin)
        exact absurd hbelow (Nat.not_lt.mpr hm)
      have hremoved : tick m = removed := by
        have hold : tick m ∈ pre.map tick ++ tick m :: post := by simp
        rcases List.mem_cons.mp (hperm.mem_iff.mp hold) with heq | hin
        · exact heq
        · exact absurd hin hnot
      have hkey : ∀ e ∈ pre, e.completeMessageId ≠ m.completeMessageId := by
        intro e he hid
        have hfind := find_of_takeFirst htake
        rw [List.find?_append] at hfind
        cases hfirst : (pre.map tick).find?
            (fun k => k.completeMessageId == m.completeMessageId) with
        | none =>
            have hnone := List.find?_eq_none.mp hfirst (tick e) (List.mem_map.mpr ⟨e, he, rfl⟩)
            simp [tick, hid] at hnone
        | some k =>
            rw [hfirst, Option.some_or, Option.some.injEq, ← hremoved] at hfind
            obtain ⟨k', hk', hk⟩ := List.mem_map.mp (List.mem_of_find?_eq_some hfirst)
            have hlimit : (tick k').timer = (tick m).timer := by
              rw [hk, hfind]
            have hm' : timeoutValue ≤ (tick m).timer := hm
            rw [← hlimit] at hm'
            exact hpre k' hk' hm'
      have hpost : post = [] := by
        refine eq_nil_of_perm_nextStep ?_
        rw [hsplit, nextStep_of_split hpre hm] at hexact
        rw [← hremoved] at hperm
        have hrest := (List.perm_middle.symm.trans hperm).cons_inv
        exact (List.perm_append_left_iff _).mp (hrest.trans hexact)
      subst hpost
      intro pre' m' hsplit'
      rw [hsplit] at hsplit'
      obtain ⟨rfl, hlast⟩ := List.append_inj' hsplit' rfl
      cases hlast
      exact ⟨hpre, fun _ => hkey⟩
  · intro h
    rw [replyList_makeTimerStep_of_last h]

/-! ## The schedule -/

/-- A message that awaits a reply, with the number of the last step before it was
recorded. -/
structure Awaited where
  completeMessageId : UInt64
  messageType : UInt8
  session : SessionRef
  ignoreResult : Bool := false
  recordedAt : Nat

/-- The entry of the message after `now` steps. -/
def Awaited.entry (now : Nat) (e : Awaited) : MessageTime where
  completeMessageId := e.completeMessageId
  timer := now - e.recordedAt
  messageType := e.messageType
  session := e.session
  ignoreResult := e.ignoreResult

/-- The messages that await a reply, and the number of steps made so far. -/
structure Schedule where
  now : Nat := 0
  awaited : List Awaited := []

/-- The operations on the list. -/
inductive Call where
  | addMessage (messageType : UInt8) (sessionId messageId : UInt32) (session : SessionRef)
  | removeMessage (sessionId messageId : UInt32)
  | removeAllOfSession (sessionId : UInt32)
  | makeTimerStep

/-- The process after a call. -/
def Call.apply (p : Process) : Call → Process
  | .addMessage messageType sessionId messageId s =>
      ((ReplyHandler.addMessage messageType sessionId messageId s).run p).process
  | .removeMessage sessionId messageId =>
      ((ReplyHandler.removeMessage sessionId messageId).run p).process
  | .removeAllOfSession sessionId => ((ReplyHandler.removeAllOfSession sessionId).run p).process
  | .makeTimerStep => (ReplyHandler.makeTimerStep.run p).process

/-- The schedule after a call: a step only counts, and ends the waiting of the
messages for which it is the second. -/
def Call.advance (σ : Schedule) : Call → Schedule
  | .addMessage messageType sessionId messageId s =>
      { σ with awaited := σ.awaited ++
        [{ completeMessageId := completeMessageId sessionId messageId
           messageType := messageType
           session := s
           recordedAt := σ.now }] }
  | .removeMessage sessionId messageId =>
      { σ with
        awaited := withoutFirst
          (fun e => e.completeMessageId == completeMessageId sessionId messageId) σ.awaited }
  | .removeAllOfSession sessionId =>
      { σ with awaited := σ.awaited.map (fun e =>
        if e.completeMessageId &&& 0xFFFFFFFF == sessionId.toUInt64 then
          { e with ignoreResult := true }
        else e) }
  | .makeTimerStep =>
      { now := σ.now + 1
        awaited := σ.awaited.filter (fun e => decide (σ.now + 1 - e.recordedAt < timeoutValue)) }

/-- The process and the schedule of its messages. -/
structure Timed where
  process : Process
  schedule : Schedule

/-- Any sequence of calls on an empty list. -/
def timers : TransitionSystem Timed Call where
  init := fun σ => σ.process.replyList = [] ∧ σ.schedule = {}
  step := fun σ call => some {
    process := call.apply σ.process
    schedule := call.advance σ.schedule }

/-- The list holds the messages of the schedule, each with the number of steps since
it was recorded, which is less than two. -/
structure OnSchedule (σ : Timed) : Prop where
  list : σ.process.replyList = σ.schedule.awaited.map (Awaited.entry σ.schedule.now)
  recorded : ∀ e ∈ σ.schedule.awaited, e.recordedAt ≤ σ.schedule.now
  waiting : ∀ e ∈ σ.schedule.awaited, σ.schedule.now < e.recordedAt + timeoutValue

/-- A step moves the timers of the messages that have been recorded. -/
theorem nextStep_entries
    {now : Nat}
    {awaited : List Awaited}
    (h : ∀ e ∈ awaited, e.recordedAt ≤ now) :
    nextStep (awaited.map (Awaited.entry now)) =
      (awaited.filter (fun e => decide (now + 1 - e.recordedAt < timeoutValue))).map
        (Awaited.entry (now + 1)) := by
  induction awaited with
  | nil =>
      rfl
  | cons e awaited ih =>
      have hrest := ih (fun k hk => h k (List.mem_cons_of_mem _ hk))
      have hrecorded := h e List.mem_cons_self
      have htick : tick (e.entry now) = e.entry (now + 1) := by
        simp only [tick, Awaited.entry, MessageTime.mk.injEq, true_and, and_true]
        omega
      simp only [nextStep, List.map_cons, List.filter_cons, htick] at hrest ⊢
      by_cases hlimit : now + 1 - e.recordedAt < timeoutValue
      · have hentry : (e.entry (now + 1)).timer < timeoutValue := hlimit
        simp only [hlimit, hentry, decide_true, if_true, List.map_cons, hrest]
      · have hentry : ¬ (e.entry (now + 1)).timer < timeoutValue := hlimit
        simp only [hlimit, hentry, decide_false, Bool.false_eq_true, if_false, hrest]

/-- Every call keeps to the schedule, a step when only the last entry times out. -/
theorem OnSchedule.call
    {σ : Timed}
    (h : OnSchedule σ)
    (call : Call)
    (hlast : call = .makeTimerStep → OnlyLastTimesOut σ.process.replyList) :
    OnSchedule { process := call.apply σ.process, schedule := call.advance σ.schedule } := by
  obtain ⟨hlist, hrecorded, hwaiting⟩ := h
  cases call with
  | addMessage messageType sessionId messageId s =>
      refine ⟨?_, ?_, ?_⟩
      · simp [Call.apply, Call.advance, hlist, Awaited.entry]
      · intro e he
        rcases List.mem_append.mp he with he | he
        · exact hrecorded e he
        · rw [List.mem_singleton.mp he]
          exact Nat.le_refl _
      · intro e he
        rcases List.mem_append.mp he with he | he
        · exact hwaiting e he
        · rw [List.mem_singleton.mp he]
          exact Nat.lt_add_of_pos_right (by decide)
  | removeMessage sessionId messageId =>
      refine ⟨?_, ?_, ?_⟩
      · simp only [Call.apply, Call.advance, removeMessage_process, hlist, withoutMessage]
        exact withoutFirst_map (Awaited.entry σ.schedule.now)
          (fun m => m.completeMessageId == completeMessageId sessionId messageId) _
      · intro e he
        exact hrecorded e (mem_of_mem_withoutFirst he)
      · intro e he
        exact hwaiting e (mem_of_mem_withoutFirst he)
  | removeAllOfSession sessionId =>
      refine ⟨?_, ?_, ?_⟩
      · simp only [Call.apply, Call.advance, run_removeAllOfSession, hlist, List.map_map]
        refine List.map_congr_left ?_
        intro e _
        by_cases hid : e.completeMessageId &&& 0xFFFFFFFF = sessionId.toUInt64
        · simp [Awaited.entry, hid]
        · simp [Awaited.entry, hid]
      · intro e he
        obtain ⟨k, hk, rfl⟩ := List.mem_map.mp he
        have := hrecorded k hk
        split <;> exact this
      · intro e he
        obtain ⟨k, hk, rfl⟩ := List.mem_map.mp he
        have := hwaiting k hk
        split <;> exact this
  | makeTimerStep =>
      refine ⟨?_, ?_, ?_⟩
      · refine (replyList_makeTimerStep_of_last (hlast rfl)).trans ?_
        rw [hlist]
        exact nextStep_entries hrecorded
      · intro e he
        exact Nat.le_succ_of_le (hrecorded e (List.mem_filter.mp he).1)
      · intro e he
        have hlimit := of_decide_eq_true (List.mem_filter.mp he).2
        simp only [Call.advance] at hlimit ⊢
        omega

/-- As long as only last entries time out, the list is the schedule. -/
theorem onSchedule_of_reaches
    {σ : Timed}
    (h : timers.Reaches
      (fun σ call => call = .makeTimerStep → OnlyLastTimesOut σ.process.replyList) σ) :
    OnSchedule σ := by
  refine h.invariant ?_ ?_
  · rintro σ ⟨hlist, hschedule⟩
    refine ⟨?_, ?_, ?_⟩
    · rw [hlist, hschedule]
      rfl
    · rw [hschedule]
      simp
    · rw [hschedule]
      simp
  · intro σ call σ' hon hlast hstep
    cases hstep
    exact hon.call call hlast

/-- Along every run whose timer steps find only the last entry timing out, the timer
of each entry counts the steps since it was recorded, and an entry is gone at the
second.  The next step is exact precisely when it too finds only the last entry
timing out. -/
theorem timers_independent
    {σ : Timed}
    (h : timers.Reaches
      (fun σ call => call = .makeTimerStep → OnlyLastTimesOut σ.process.replyList) σ) :
    OnSchedule σ ∧
      (((makeTimerStep.run σ.process).process.replyList).Perm (nextStep σ.process.replyList) ↔
        OnlyLastTimesOut σ.process.replyList) :=
  ⟨onSchedule_of_reaches h, step_exact_iff σ.process⟩

/-- The state of an empty list. -/
def Timed.start : Timed where
  process := Process.awaiting []
  schedule := {}

theorem onlyLastTimesOut_concat
    (pre : List MessageTime)
    (m : MessageTime)
    (hpre : ∀ e ∈ pre, ¬ TimesOut e)
    (hkey : ∀ e ∈ pre, e.completeMessageId ≠ m.completeMessageId) :
    OnlyLastTimesOut (pre ++ [m]) := by
  intro pre' e hsplit
  obtain ⟨rfl, hlast⟩ := List.append_inj' hsplit rfl
  obtain rfl := (List.cons.inj hlast).1
  exact ⟨hpre, fun _ => hkey⟩

/-- Two messages are recorded, a third between the two steps, and the first is
answered: its removal puts the third before the second, which times out last. -/
theorem timers_independent_exchanged :
    ∃ σ, timers.exec Timed.start
        [.addMessage 3 1 6 0, .addMessage 3 1 7 0, .makeTimerStep, .addMessage 3 1 8 0,
          .removeMessage 1 6, .makeTimerStep] = some σ ∧
      σ.process.replyList = [⟨completeMessageId 1 8, 1, 3, 0, false⟩] ∧
      OnSchedule σ ∧
      (((makeTimerStep.run σ.process).process.replyList).Perm (nextStep σ.process.replyList) ↔
        OnlyLastTimesOut σ.process.replyList) := by
  have hadded : timers.Reaches
      (fun σ call => call = .makeTimerStep → OnlyLastTimesOut σ.process.replyList)
      { process := (Call.addMessage 3 1 6 0).apply (Process.awaiting [])
        schedule := (Call.addMessage 3 1 6 0).advance {} } :=
    .step (s := Timed.start) (a := .addMessage 3 1 6 0) (.init ⟨rfl, rfl⟩)
      (fun h => nomatch h) rfl
  have hboth := hadded.step (a := .addMessage 3 1 7 0) (fun h => nomatch h) rfl
  have hfirst := hboth.step (a := .makeTimerStep)
    (fun _ => onlyLastTimesOut_concat [⟨completeMessageId 1 6, 0, 3, 0, false⟩]
      ⟨completeMessageId 1 7, 0, 3, 0, false⟩ (by decide) (by decide)) rfl
  have hthird := hfirst.step (a := .addMessage 3 1 8 0) (fun h => nomatch h) rfl
  have hanswered := hthird.step (a := .removeMessage 1 6) (fun h => nomatch h) rfl
  have hsecond := hanswered.step (a := .makeTimerStep)
    (fun _ => onlyLastTimesOut_concat [⟨completeMessageId 1 8, 0, 3, 0, false⟩]
      ⟨completeMessageId 1 7, 1, 3, 0, false⟩ (by decide) (by decide)) rfl
  exact ⟨_, rfl, rfl, timers_independent hsecond⟩

/-- Two messages that nobody answers: after two steps one is still in the list. -/
theorem not_timers_independent :
    ¬ ∀ σ, timers.Reachable σ → OnSchedule σ := by
  intro h
  obtain ⟨hlist, _, _⟩ := h _ (TransitionSystem.Reachable.of_exec (S := timers)
    (s := Timed.start) ⟨rfl, rfl⟩ (show timers.exec Timed.start
      [.addMessage 3 1 7 0, .addMessage 3 1 8 0, .makeTimerStep, .makeTimerStep] = some _ from rfl))
  have hlength := congrArg List.length hlist
  exact absurd hlength (by decide)

end ReplyHandler

end SakuraNetwork

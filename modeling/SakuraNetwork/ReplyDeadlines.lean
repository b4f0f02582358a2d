import SakuraNetwork.Lib.Countdown
import SakuraNetwork.PendingKeys

/-!
# How long a message is awaited

The timer gives up at most one message in a step, and the entries behind it stay as they
are.  A message may then wait for longer than its own two steps, but only by one step for
each other message in the list.

* `Leaves`: what an operation that is not a timer step leaves of the list.
* `exists_of_mem_makeTimerStep`: what a timer step does to each entry that is left.
* `awaited_at_most`: along every run of a process, the timer steps that find a message in
  the list are at most its own, the other messages, and those recorded meanwhile.
-/

namespace SakuraNetwork

open Lib

namespace ReplyHandler

/-! ## The list -/

/-- The timer steps until the entry is at the limit. -/
def stepsLeft (m : MessageTime) : Nat :=
  timeoutValue - m.timer

/-- Each entry that is left was there, with the same key and timer. -/
structure Leaves (l l' : List MessageTime) : Prop where
  entry : ∀ m' ∈ l', ∃ m ∈ l, m.completeMessageId = m'.completeMessageId ∧ m.timer = m'.timer
  length : l'.length ≤ l.length

namespace Leaves

theorem refl (l : List MessageTime) : Leaves l l :=
  ⟨fun m hm => ⟨m, hm, rfl, rfl⟩, Nat.le_refl _⟩

theorem withoutMessage (id : UInt64) (l : List MessageTime) :
    Leaves l (withoutMessage id l) := by
  have hsub := withoutFirst_subperm (fun m : MessageTime => m.completeMessageId == id) l
  exact ⟨fun m hm => ⟨m, mem_of_mem_withoutFirst hm, rfl, rfl⟩, hsub.length_le⟩

/-- The marks do not matter. -/
theorem repliesClosed (p : Process) (s : SessionRef) :
    Leaves p.replyList (p.repliesClosed s) := by
  unfold Process.repliesClosed
  split
  · constructor
    · intro m' hm'
      obtain ⟨m, hm, rfl⟩ := List.mem_map.mp hm'
      refine ⟨m, hm, ?_⟩
      split <;> exact ⟨rfl, rfl⟩
    · exact Nat.le_of_eq (List.length_map _)
  · exact refl _

theorem withoutReplied (p : Process) (buf : RingBuffer) :
    Leaves p.replyList (p.withoutReplied buf).replyList := by
  unfold Process.withoutReplied
  cases buf.replied with
  | none =>
      exact refl _
  | some id =>
      exact withoutMessage id _

theorem repliesBase (a : Operation) (p : Process) (s : SessionRef) :
    Leaves p.replyList (a.repliesBase p s) := by
  cases a with
  | start r sessionIdentifier =>
      rw [Operation.repliesBase]
      split
      · exact refl _
      · exact repliesClosed p s
  | finishStart r =>
      rw [Operation.repliesBase]
      split
      · exact repliesClosed p s
      · exact refl _
  | receive r buf =>
      rw [Operation.repliesBase, RingBuffer.repliesBase]
      split
      · exact repliesClosed p s
      · exact withoutReplied p buf
  | close r replyExpected =>
      exact repliesClosed p s
  | destroy r =>
      exact repliesClosed p s
  | _ =>
      exact refl _

end Leaves

section TimerStep

variable {p : Process} (hkeys : (p.replyList.map MessageTime.completeMessageId).Nodup)

include hkeys

/-- With unique keys a timer step moves every timer, or it removes the first entry that
times out, and the timers behind it stand still. -/
theorem replyList_timerStep :
    ((∀ m ∈ p.replyList, ¬ TimesOut m) ∧
      (makeTimerStep.run p).process.replyList = p.replyList.map tick) ∨
    ∃ pre m post, p.replyList = pre ++ m :: post ∧ (∀ e ∈ pre, ¬ TimesOut e) ∧
      (pre.map tick ++ post).Perm (makeTimerStep.run p).process.replyList := by
  rcases replyList_makeTimerStep p with
    hnone | ⟨pre, m, post, removed, hsplit, hpre, hm, _⟩
  · exact Or.inl hnone
  · refine Or.inr ⟨pre, m, post, hsplit, hpre, ?_⟩
    have hkey : ∀ e ∈ pre, e.completeMessageId ≠ m.completeMessageId := by
      intro e he hid
      rw [hsplit, List.map_append, List.map_cons, List.nodup_append] at hkeys
      exact hkeys.2.2 _ (List.mem_map.mpr ⟨e, he, rfl⟩) _ List.mem_cons_self hid
    rw [makeTimerStep_of_split hsplit hpre hm hkey, replyList_reportTimeout]
    have hperm := cons_swapRemove_perm (pre.map tick) post (tick m)
    rw [List.length_map] at hperm
    exact (List.perm_middle.symm.trans hperm).cons_inv

/-- Each entry that a timer step leaves was in the list, and it is one step closer to the
limit, or the list is shorter. -/
theorem exists_of_mem_timerStep
    {m' : MessageTime}
    (hm' : m' ∈ (makeTimerStep.run p).process.replyList) :
    ∃ m ∈ p.replyList, m.completeMessageId = m'.completeMessageId ∧
      stepsLeft m' + (makeTimerStep.run p).process.replyList.length <
        stepsLeft m + p.replyList.length := by
  rcases replyList_timerStep hkeys with ⟨hnone, hlist⟩ | ⟨pre, m, post, hsplit, _, hperm⟩
  · rw [hlist] at hm' ⊢
    obtain ⟨e, he, rfl⟩ := List.mem_map.mp hm'
    have hbelow := hnone e he
    refine ⟨e, he, rfl, ?_⟩
    rw [List.length_map]
    simp only [TimesOut, stepsLeft, tick] at hbelow ⊢
    omega
  · have hlength := hperm.length_eq
    rw [List.length_append, List.length_map] at hlength
    have hshorter : (makeTimerStep.run p).process.replyList.length < p.replyList.length := by
      rw [hsplit, List.length_append, List.length_cons]
      omega
    rcases List.mem_append.mp (hperm.mem_iff.mpr hm') with hin | hin
    · obtain ⟨e, he, rfl⟩ := List.mem_map.mp hin
      refine ⟨e, by rw [hsplit]; exact List.mem_append_left _ he, rfl, ?_⟩
      simp only [stepsLeft, tick]
      omega
    · refine ⟨m', ?_, rfl, by omega⟩
      rw [hsplit]
      exact List.mem_append_right _ (List.mem_cons_of_mem _ hin)

/-- No entry that a timer step leaves is at the limit. -/
theorem timer_lt_timerStep
    (hbelow : ∀ m ∈ p.replyList, m.timer < timeoutValue)
    {m' : MessageTime}
    (hm' : m' ∈ (makeTimerStep.run p).process.replyList) :
    m'.timer < timeoutValue := by
  rcases replyList_timerStep hkeys with ⟨hnone, hlist⟩ | ⟨pre, m, post, hsplit, hpre, hperm⟩
  · rw [hlist] at hm'
    obtain ⟨e, he, rfl⟩ := List.mem_map.mp hm'
    exact Nat.not_le.mp (hnone e he)
  · rcases List.mem_append.mp (hperm.mem_iff.mpr hm') with hin | hin
    · obtain ⟨e, he, rfl⟩ := List.mem_map.mp hin
      exact Nat.not_le.mp (hpre e he)
    · refine hbelow m' ?_
      rw [hsplit]
      exact List.mem_append_right _ (List.mem_cons_of_mem _ hin)

end TimerStep

end ReplyHandler

/-! ## Runs -/

/-- The messages that an operation records. -/
def Operation.newlyAwaited (cfg : Config) (a : Operation) (p : Process) : Nat :=
  match a.session with
  | none => 0
  | some s =>
      ((a.act cfg).run p).process.replyList.length - (a.repliesBase p s).length

/-- The operation is a step of the reply timer. -/
def Operation.isReplyTimer : Operation → Bool
  | .replyTimer => true
  | _ => false

/-- The messages are under their own keys and below the limit, and the key `k` belongs to
a message id that was drawn. -/
structure AwaitsKey (k : UInt64) (g : Keying) : Prop where
  keyed : Keyed g
  below : ∀ m ∈ g.system.process.replyList, m.timer < ReplyHandler.timeoutValue
  drawn : ∃ s, ∃ id ∈ g.ids s, ∃ messageId : UInt32,
    messageId.toNat ≤ g.drawn s ∧ k = ReplyHandler.completeMessageId id messageId

/-- What an operation that is not a timer step leaves of the list and adds to it. -/
theorem Operation.leaves_act
    (cfg : Config)
    {a : Operation}
    (hother : a.isReplyTimer = false)
    (p : Process) :
    ∃ base new, ((a.act cfg).run p).process.replyList = base ++ new ∧
      new.length = a.newlyAwaited cfg p ∧ ReplyHandler.Leaves p.replyList base ∧
      ∀ m ∈ new, m.timer = 0 ∧ ∃ s, ((a.act cfg).run p).process.Connected s ∧
        (((a.act cfg).run p).process.session s).messageIdCounter =
          (p.session s).messageIdCounter + 1 ∧
        m.completeMessageId = ReplyHandler.completeMessageId
          (((a.act cfg).run p).process.session s).sessionId
          (((a.act cfg).run p).process.session s).messageIdCounter := by
  unfold newlyAwaited
  cases hsession : a.session with
  | none =>
      refine ⟨p.replyList, [], ?_, rfl, .refl _, by simp⟩
      have hne : a ≠ .replyTimer := by
        rintro rfl
        cases hother
      rw [a.replyList_tables cfg hsession hne p, List.append_nil]
  | some s =>
      rcases a.files_act cfg (p := p) hsession with hbase | ⟨hconnected, hcounter, type, hadded⟩
      · refine ⟨a.repliesBase p s, [], ?_, ?_, .repliesBase a p s, by simp⟩
        · rw [hbase, List.append_nil]
        · simp [hbase]
      · refine ⟨a.repliesBase p s, _, hadded, ?_, .repliesBase a p s, ?_⟩
        · simp [hadded]
        · intro m hm
          rw [List.mem_singleton.mp hm]
          exact ⟨rfl, s, hconnected, hcounter, rfl⟩

section Runs

variable {cfg : Config} {g g' : Keying} {a : Operation} {k : UInt64}

/-- The process after a step of a run. -/
theorem eq_next_of_step (hstep : (keying cfg).step g a = some g') :
    g' = g.next (g.system.after cfg a) := by
  obtain ⟨st, hst, rfl⟩ := Option.map_eq_some_iff.mp hstep
  rw [(library_step_cases hst).2]

/-- No operation leaves a message at the limit. -/
theorem timer_lt_act
    (hkeys : (g.system.process.replyList.map MessageTime.completeMessageId).Nodup)
    (hbelow : ∀ m ∈ g.system.process.replyList, m.timer < ReplyHandler.timeoutValue)
    (hstep : (keying cfg).step g a = some g') :
    ∀ m ∈ g'.system.process.replyList, m.timer < ReplyHandler.timeoutValue := by
  intro m hm
  rw [eq_next_of_step hstep] at hm
  change m ∈ ((a.act cfg).run g.system.process).process.replyList at hm
  cases hticks : a.isReplyTimer with
  | true =>
      cases a with
      | replyTimer => exact ReplyHandler.timer_lt_timerStep hkeys hbelow hm
      | _ => cases hticks
  | false =>
      obtain ⟨base, new, hlist, _, hleaves, hnew⟩ :=
        Operation.leaves_act cfg hticks g.system.process
      rw [hlist] at hm
      rcases List.mem_append.mp hm with hm | hm
      · obtain ⟨e, he, _, htimer⟩ := hleaves.entry m hm
        rw [← htimer]
        exact hbelow e he
      · rw [(hnew m hm).1]
        exact Nat.zero_lt_two

/-- A message that an operation records has another key than one recorded before. -/
theorem AwaitsKey.ne_of_recorded
    (h : AwaitsKey k g)
    {st : System}
    (happart : (g.next st).Apart)
    {s : SessionRef}
    (hconnected : st.process.Connected s)
    (hcounter : (st.process.session s).messageIdCounter =
      (g.system.process.session s).messageIdCounter + 1) :
    ReplyHandler.completeMessageId (st.process.session s).sessionId
      (st.process.session s).messageIdCounter ≠ k := by
  intro hsame
  obtain ⟨s', id, hid, messageId, hle, hkey⟩ := h.drawn
  rw [hkey] at hsame
  obtain ⟨hsessionId, hmessageId⟩ := ReplyHandler.completeMessageId_inj hsame
  have hmem := g.sessionId_mem_next hconnected
  rw [hsessionId] at hmem
  have hsession := happart.1 s s' id hmem (Keying.mem_ids_next hid st)
  rw [← hsession] at hle
  have hcounted := h.keyed.counted_next (happart.2 s)
  have hone : (g.system.process.session s).messageIdCounter + 1 -
      (g.system.process.session s).messageIdCounter = 1 := by
    rw [UInt32.add_comm, UInt32.add_sub_cancel]
  have hmore : g.drawn s < (g.next st).drawn s := by
    simp only [Keying.next]
    rw [hcounter, hone]
    exact Nat.lt_succ_self _
  rw [hmessageId] at hcounted
  omega

/-- Every operation of a run counts the awaited messages down, or adds to them. -/
theorem countsDown_keying (k : UInt64) :
    (keying cfg).CountsDown (AwaitsKey k) (StaysApart cfg) (fun g => g.system.process.replyList)
      MessageTime.completeMessageId ReplyHandler.stepsLeft Operation.isReplyTimer
      (fun g a => a.newlyAwaited cfg g.system.process) k := by
  constructor
  · intro g a g' h happart hstep
    refine ⟨keyed_step h.keyed happart hstep, timer_lt_act h.keyed.unique h.below hstep, ?_⟩
    obtain ⟨s, id, hid, messageId, hle, hkey⟩ := h.drawn
    rw [eq_next_of_step hstep]
    exact ⟨s, id, Keying.mem_ids_next hid _, messageId,
      Nat.le_trans hle (g.drawn_le_next _ s), hkey⟩
  · exact fun h => h.keyed.unique
  · exact fun h m hm => Nat.sub_pos_of_lt (h.below m hm)
  · intro g a g' h hstep hticks
    rw [eq_next_of_step hstep]
    cases a with
    | replyTimer => exact fun m' hm' => ReplyHandler.exists_of_mem_timerStep h.keyed.unique hm'
    | _ => cases hticks
  · intro g a g' h happart hstep hticks
    have happart' := happart g' hstep
    rw [eq_next_of_step hstep] at happart' ⊢
    obtain ⟨base, new, hlist, hlength, hleaves, hnew⟩ :=
      Operation.leaves_act cfg hticks g.system.process
    refine ⟨base, new, hlist, Nat.le_of_eq hlength, ?_, ?_⟩
    · intro m hm
      obtain ⟨_, s, hconnected, hcounter, hkey⟩ := hnew m hm
      rw [hkey]
      exact h.ne_of_recorded happart' hconnected hcounter
    · intro m' hm'
      obtain ⟨m, hm, hkey, htimer⟩ := hleaves.entry m' hm'
      refine ⟨m, hm, hkey, ?_⟩
      have hle := hleaves.length
      simp only [ReplyHandler.stepsLeft, htimer]
      omega

/-- In a run no message is at the limit. -/
theorem timer_lt_of_reaches (hrun : (keying cfg).Reaches (StaysApart cfg) g) :
    ∀ m ∈ g.system.process.replyList, m.timer < ReplyHandler.timeoutValue := by
  induction hrun with
  | init h =>
      rw [h.1.2.1]
      intro m hm
      cases hm
  | step hrun _ hstep ih =>
      exact timer_lt_act (keyed_of_reaches hrun).unique ih hstep

theorem awaitsKey_of_reaches
    (hrun : (keying cfg).Reaches (StaysApart cfg) g)
    {m : MessageTime}
    (hm : m ∈ g.system.process.replyList) :
    AwaitsKey m.completeMessageId g := by
  have hkeyed := keyed_of_reaches hrun
  obtain ⟨id, hid, messageId, hle, hkey⟩ := hkeyed.filed m hm
  exact ⟨hkeyed, timer_lt_of_reaches hrun, m.session, id, hid, messageId, hle, hkey⟩

/-- Along every run in which no id is used by two sessions and no message counter comes
around, a message is found by at most as many steps of the reply timer as it has left, as
there are other messages in the list, and as are recorded meanwhile. -/
theorem awaited_at_most
    (hrun : (keying cfg).Reaches (StaysApart cfg) g)
    {m : MessageTime}
    (hm : m ∈ g.system.process.replyList)
    {as : List Operation}
    (happart : (keying cfg).execAllowed (StaysApart cfg) g as)
    (hexec : (keying cfg).exec g as = some g') :
    (keying cfg).total (fun g a =>
        if a.isReplyTimer = true ∧
            m.completeMessageId ∈ g.system.process.replyList.map MessageTime.completeMessageId
          then 1 else 0) g as ≤
      ReplyHandler.stepsLeft m + (g.system.process.replyList.length - 1) +
        (keying cfg).total (fun g a => a.newlyAwaited cfg g.system.process) g as :=
  (countsDown_keying m.completeMessageId).waited_le (awaitsKey_of_reaches hrun hm) hm happart hexec

/-- An operation that draws no message id, and after which no session has a new id. -/
theorem Keying.Apart.next
    (h : g.Apart)
    {st : System}
    (hsame : ∀ s, (st.process.session s).messageIdCounter =
      (g.system.process.session s).messageIdCounter ∧
        (st.process.Connected s → (st.process.session s).sessionId ∈ g.ids s)) :
    (g.next st).Apart := by
  have hids : ∀ s id, id ∈ (g.next st).ids s → id ∈ g.ids s := by
    intro s id hid
    simp only [Keying.next] at hid
    split at hid
    · exact hid
    · rename_i hconnected
      rcases List.mem_append.mp hid with hid | hid
      · exact hid
      · rw [List.mem_singleton.mp hid]
        exact (hsame s).2 hconnected
  constructor
  · exact fun s s' id hid hid' => h.1 s s' id (hids s id hid) (hids s' id hid')
  · intro s
    rw [Keying.drawn_next (hsame s).1]
    exact h.2 s

/-- A step of the reply timer changes nothing of a session but what its start waits for. -/
theorem session_of_replyTimer (p : Process) (s : SessionRef) :
    ∃ k, (ReplyHandler.makeTimerStep.run p).process.session s =
      { p.session s with initState := k } := by
  rcases ReplyHandler.makeTimerStep_cases p with
    ⟨_, hrun⟩ | ⟨_, _, _, _, rest, reported, _, _, _, _, _, _, hrun⟩
  · exact ⟨_, by rw [hrun]⟩
  · by_cases hs : s = reported.session
    · subst hs
      refine ⟨if reported.ignoreResult then (p.session reported.session).initState else -1, ?_⟩
      rw [hrun]
      split
      · rfl
      · rw [Process.modifySession_same]
    · refine ⟨(p.session s).initState, ?_⟩
      rw [hrun]
      split
      · rfl
      · rw [Process.modifySession_other _ _ hs]

/-- The reply timer draws no message id and gives no session an id. -/
theorem execAllowed_replyTimer
    (n : Nat)
    (h : g.Apart)
    (hids : ∀ s, g.system.process.Connected s →
      (g.system.process.session s).sessionId ∈ g.ids s) :
    (keying cfg).execAllowed (StaysApart cfg) g (List.replicate n .replyTimer) := by
  induction n generalizing g with
  | zero =>
      trivial
  | succ n ih =>
      have hnext : (g.next (g.system.after cfg .replyTimer)).Apart := by
        refine h.next fun s => ?_
        obtain ⟨k, hsession⟩ := session_of_replyTimer g.system.process s
        have hafter : (g.system.after cfg .replyTimer).process.session s =
            { g.system.process.session s with initState := k } := hsession
        unfold Process.Connected at hids ⊢
        rw [hafter]
        exact ⟨rfl, hids s⟩
      constructor
      · intro g' hg'
        rw [eq_next_of_step hg']
        exact hnext
      · intro g' hg'
        rw [eq_next_of_step hg']
        exact ih hnext fun s => Keying.sessionId_mem_next g

end Runs

/-- The first messages of two sessions, in three steps of the timer: the second step
takes one of them, and the third the other. -/
theorem awaited_at_most_twice :
    ∃ m g', m ∈ twiceKeyed.system.process.replyList ∧
      (keying Config.default).exec twiceKeyed [.replyTimer, .replyTimer, .replyTimer] = some g' ∧
      g'.system.process.replyList = [] ∧
      (keying Config.default).total (fun g a =>
          if a.isReplyTimer = true ∧
              m.completeMessageId ∈ g.system.process.replyList.map MessageTime.completeMessageId
            then 1 else 0) twiceKeyed [.replyTimer, .replyTimer, .replyTimer] ≤
        ReplyHandler.stepsLeft m + (twiceKeyed.system.process.replyList.length - 1) +
          (keying Config.default).total
            (fun g a => a.newlyAwaited Config.default g.system.process) twiceKeyed
              [.replyTimer, .replyTimer, .replyTimer] := by
  refine ⟨_, _, List.mem_cons_of_mem _ List.mem_cons_self, rfl, rfl, ?_⟩
  exact awaited_at_most reaches_twiceKeyed (List.mem_cons_of_mem _ List.mem_cons_self)
    (execAllowed_replyTimer 3 twiceKeyed_apart fun s => Keying.sessionId_mem_next keyed) rfl

end SakuraNetwork

import SakuraNetwork.Lib.TransitionSystem
import Mathlib.Data.Finset.Basic
import Mathlib.Data.Fintype.Basic
import Mathlib.Logic.Function.Basic

/-!
# Threads that share spin locks

A program takes and releases locks by hand, reads and changes a shared state, and calls
an application, which may start further operations on the same thread before it
returns.  The threads are interleaved at every instruction.  Taking a held lock blocks,
also for the thread that holds it.

* `Code`: the programs, as a monad.
* `threads`: their runs, with a stack of unfinished operations for each thread.
* `Code.Runs`: a lock discipline, checked along the syntax of a program.
* `balanced_of_reaches`: disciplined operations release what they took, and take no lock
  their thread holds, in any interleaving.
* `heldBy_of_visit`: the locks at a marked place.
-/

namespace SakuraNetwork
namespace Lib

/-- A program over locks `L` and a shared state `σ`.  Its places `ν` are marks, for the
conditions on a run. -/
inductive Code (L σ ν α : Type) : Type
  | pure (a : α)
  | lock (l : L) (rest : Code L σ ν α)
  | unlock (l : L) (rest : Code L σ ν α)
  /-- Change the shared state, and go on with what was read of it. -/
  | act (next : σ → σ) (rest : σ → Code L σ ν α)
  /-- Wait until the test holds. -/
  | await (test : σ → Bool) (rest : Code L σ ν α)
  /-- Call the application. -/
  | call (rest : Code L σ ν α)
  | visit (v : ν) (rest : Code L σ ν α)

namespace Code

variable {L σ ν α β : Type}

/-- Run a program, and go on with its result. -/
def bind : Code L σ ν α → (α → Code L σ ν β) → Code L σ ν β
  | .pure a, k => k a
  | .lock l rest, k => .lock l (rest.bind k)
  | .unlock l rest, k => .unlock l (rest.bind k)
  | .act next rest, k => .act next (fun s => (rest s).bind k)
  | .await test rest, k => .await test (rest.bind k)
  | .call rest, k => .call (rest.bind k)
  | .visit v rest, k => .visit v (rest.bind k)

instance : Monad (Code L σ ν) where
  pure := Code.pure
  bind := Code.bind

/-- Take a lock. -/
def acquire (l : L) : Code L σ ν Unit :=
  .lock l (.pure ())

/-- Release a lock. -/
def release (l : L) : Code L σ ν Unit :=
  .unlock l (.pure ())

/-- What the program does when no other thread runs and the application does nothing. -/
def solo : Code L σ ν α → σ → α × σ
  | .pure a, s => (a, s)
  | .lock _ rest, s => rest.solo s
  | .unlock _ rest, s => rest.solo s
  | .act next rest, s => (rest s).solo (next s)
  | .await _ rest, s => rest.solo s
  | .call rest, s => rest.solo s
  | .visit _ rest, s => rest.solo s

@[simp] theorem solo_pure (a : α) (s : σ) :
    (Pure.pure a : Code L σ ν α).solo s = (a, s) := rfl

theorem solo_bind (x : Code L σ ν α) (k : α → Code L σ ν β) (s : σ) :
    (x >>= k).solo s = (k (x.solo s).1).solo (x.solo s).2 := by
  change (x.bind k).solo s = _
  induction x generalizing s with
  | pure a =>
      rfl
  | lock l rest ih =>
      exact ih s
  | unlock l rest ih =>
      exact ih s
  | act next rest ih =>
      exact ih s (next s)
  | await test rest ih =>
      exact ih s
  | call rest ih =>
      exact ih s
  | visit v rest ih =>
      exact ih s

/-! ## The discipline -/

section Discipline

variable [DecidableEq L]

/-- Started while the locks `held` are held, the program takes no lock that is held,
releases no lock that is free, holds the locks `calls` whenever it calls the
application and the locks `places v` at a place `v`, and ends with a result and locks
for which `Q` holds.  Only the allowed places are followed. -/
def Runs
    (calls : Finset L)
    (places : ν → Finset L)
    (allowed : ν → Prop)
    (Q : α → Finset L → Prop) : Code L σ ν α → Finset L → Prop
  | .pure a, held => Q a held
  | .lock l rest, held => l ∉ held ∧ rest.Runs calls places allowed Q (insert l held)
  | .unlock l rest, held => l ∈ held ∧ rest.Runs calls places allowed Q (held.erase l)
  | .act _ rest, held => ∀ s, (rest s).Runs calls places allowed Q held
  | .await _ rest, held => rest.Runs calls places allowed Q held
  | .call rest, held => held = calls ∧ rest.Runs calls places allowed Q held
  | .visit v rest, held =>
      held = places v ∧ (allowed v → rest.Runs calls places allowed Q held)

variable {calls : Finset L} {places : ν → Finset L} {allowed : ν → Prop}

/-- The sequence rule. -/
theorem runs_bind
    {Q : β → Finset L → Prop}
    {x : Code L σ ν α}
    {k : α → Code L σ ν β}
    {held : Finset L}
    (h : x.Runs calls places allowed
      (fun a held' => (k a).Runs calls places allowed Q held') held) :
    (x >>= k).Runs calls places allowed Q held := by
  change (x.bind k).Runs calls places allowed Q held
  induction x generalizing held with
  | pure a =>
      exact h
  | lock l rest ih =>
      exact ⟨h.1, ih h.2⟩
  | unlock l rest ih =>
      exact ⟨h.1, ih h.2⟩
  | act next rest ih =>
      exact fun s => ih s (h s)
  | await test rest ih =>
      exact ih h
  | call rest ih =>
      exact ⟨h.1, ih h.2⟩
  | visit v rest ih =>
      exact ⟨h.1, fun hv => ih (h.2 hv)⟩

/-- The rule of consequence. -/
theorem Runs.mono
    {Q Q' : α → Finset L → Prop}
    (hle : ∀ a held, Q a held → Q' a held)
    {x : Code L σ ν α}
    {held : Finset L}
    (h : x.Runs calls places allowed Q held) :
    x.Runs calls places allowed Q' held := by
  induction x generalizing held with
  | pure a =>
      exact hle a held h
  | lock l rest ih =>
      exact ⟨h.1, ih h.2⟩
  | unlock l rest ih =>
      exact ⟨h.1, ih h.2⟩
  | act next rest ih =>
      exact fun s => ih s (h s)
  | await test rest ih =>
      exact ih h
  | call rest ih =>
      exact ⟨h.1, ih h.2⟩
  | visit v rest ih =>
      exact ⟨h.1, fun hv => ih (h.2 hv)⟩

end Discipline

end Code

/-! ## Threads -/

/-- The operations of a program, and those the application may start when it is
called. -/
structure LockSystem (L σ ν Op : Type) where
  init : σ → Prop
  code : Op → Code L σ ν Unit
  callable : Op → Bool

/-- An operation that has begun, the locks its thread held then, and what is left of
it. -/
structure Frame (L σ ν Op : Type) where
  op : Op
  entry : Finset L
  code : Code L σ ν Unit

/-- The shared state, the holders of the locks, and the operations each thread has
begun, the last one first. -/
structure Threads (L σ ν Op : Type) where
  shared : σ
  holder : L → Option Nat := fun _ => none
  stack : Nat → List (Frame L σ ν Op) := fun _ => []

/-- A thread begins an operation, or makes a step. -/
inductive Move (Op : Type) where
  | start (t : Nat) (op : Op)
  | step (t : Nat)

section Threads

variable {L σ ν Op : Type} [DecidableEq L] [Fintype L]

namespace Threads

/-- The locks a thread holds. -/
def heldBy (st : Threads L σ ν Op) (t : Nat) : Finset L :=
  Finset.univ.filter fun l => st.holder l = some t

/-- The thread goes on with another stack. -/
def setStack (st : Threads L σ ν Op) (t : Nat) (fs : List (Frame L σ ν Op)) :
    Threads L σ ν Op :=
  { st with stack := Function.update st.stack t fs }

/-- The lock gets another holder. -/
def setHolder (st : Threads L σ ν Op) (l : L) (t : Option Nat) : Threads L σ ν Op :=
  { st with holder := Function.update st.holder l t }

/-- A thread begins an operation. -/
def push (st : Threads L σ ν Op) (t : Nat) (op : Op) (code : Code L σ ν Unit) :
    Threads L σ ν Op :=
  st.setStack t ({ op := op, entry := st.heldBy t, code := code } :: st.stack t)

/-- One instruction of the operation `f`, which was begun by thread `t` on top of
`below`. -/
def exec (st : Threads L σ ν Op) (t : Nat) (f : Frame L σ ν Op)
    (below : List (Frame L σ ν Op)) : Option (Threads L σ ν Op) :=
  match f.code with
  | .pure _ => some (st.setStack t below)
  | .lock l rest =>
      if st.holder l = none then
        some ((st.setHolder l (some t)).setStack t ({ f with code := rest } :: below))
      else none
  | .unlock l rest =>
      some ((st.setHolder l none).setStack t ({ f with code := rest } :: below))
  | .act next rest =>
      some (({ st with shared := next st.shared } : Threads L σ ν Op).setStack t
        ({ f with code := rest st.shared } :: below))
  | .await test rest =>
      if test st.shared then some (st.setStack t ({ f with code := rest } :: below))
      else none
  | .call rest => some (st.setStack t ({ f with code := rest } :: below))
  | .visit _ rest => some (st.setStack t ({ f with code := rest } :: below))

end Threads

/-- The runs of any number of threads. -/
def threads (S : LockSystem L σ ν Op) : TransitionSystem (Threads L σ ν Op) (Move Op) where
  init := fun st => S.init st.shared ∧ st.holder = (fun _ => none) ∧ st.stack = fun _ => []
  step := fun st move =>
    match move with
    | .start t op =>
        match st.stack t with
        | [] => some (st.push t op (S.code op))
        | f :: _ =>
            match f.code with
            | .call _ => if S.callable op then some (st.push t op (S.code op)) else none
            | _ => none
    | .step t =>
        match st.stack t with
        | [] => none
        | f :: below => st.exec t f below

/-- No thread is about to take a lock it holds or to release one it does not hold, an
operation that ends holds what it held when it began, and a thread without operations
holds nothing. -/
structure Threads.Balanced (st : Threads L σ ν Op) : Prop where
  taken : ∀ t f below l rest, st.stack t = f :: below → f.code = .lock l rest →
    st.holder l ≠ some t
  owned : ∀ t f below l rest, st.stack t = f :: below → f.code = .unlock l rest →
    st.holder l = some t
  released : ∀ t f below, st.stack t = f :: below → f.code = .pure () →
    st.heldBy t = f.entry
  idle : ∀ t, st.stack t = [] → st.heldBy t = ∅

/-- Where a step visits a place, it is allowed inside of the operations that have called
the application. -/
def Visits (allowed : ν → List Op → Prop) (st : Threads L σ ν Op) : Move Op → Prop
  | .start _ _ => True
  | .step t => ∀ f below v rest, st.stack t = f :: below → f.code = .visit v rest →
      allowed v (below.map Frame.op)

/-! ## Disciplined operations -/

/-- The locks that are held inside of operations that have called the application. -/
def locksInside (calls : Op → Finset L) : List Op → Finset L
  | [] => ∅
  | op :: ops => calls op ∪ locksInside calls ops

/-- Every operation keeps to the discipline, on its own and, if the application may
start it, inside of any others.  At a place it holds the locks of the place besides
those it was begun with. -/
def LockSystem.Disciplined
    (S : LockSystem L σ ν Op)
    (calls : Op → Finset L)
    (places : ν → Finset L)
    (allowed : ν → List Op → Prop) : Prop :=
  ∀ op ops, (ops = [] ∨ S.callable op = true) →
    (S.code op).Runs (locksInside calls (op :: ops))
      (fun v => places v ∪ locksInside calls ops) (fun v => allowed v ops)
      (fun _ held => held = locksInside calls ops) (locksInside calls ops)

/-- What is left of every operation of a thread keeps to the discipline. -/
def StackRuns
    (calls : Op → Finset L)
    (places : ν → Finset L)
    (allowed : ν → List Op → Prop) : List (Frame L σ ν Op) → Finset L → Prop
  | [], held => held = ∅
  | f :: below, held =>
      f.entry = locksInside calls (below.map Frame.op) ∧
        f.code.Runs (locksInside calls (f.op :: below.map Frame.op))
          (fun v => places v ∪ f.entry) (fun v => allowed v (below.map Frame.op))
          (fun _ held' => held' = f.entry) held ∧
        StackRuns calls places allowed below f.entry

/-- Every thread keeps to the discipline. -/
def ThreadsRun
    (calls : Op → Finset L)
    (places : ν → Finset L)
    (allowed : ν → List Op → Prop)
    (st : Threads L σ ν Op) : Prop :=
  ∀ t, StackRuns calls places allowed (st.stack t) (st.heldBy t)

namespace Threads

variable {st : Threads L σ ν Op} {t : Nat}

omit [DecidableEq L] in
theorem mem_heldBy {l : L} : l ∈ st.heldBy t ↔ st.holder l = some t := by
  simp [heldBy]

omit [DecidableEq L] in
@[simp] theorem heldBy_setStack (fs : List (Frame L σ ν Op)) (r : Nat) :
    (st.setStack t fs).heldBy r = st.heldBy r := rfl

omit [DecidableEq L] [Fintype L] in
@[simp] theorem stack_setStack_same (fs : List (Frame L σ ν Op)) :
    (st.setStack t fs).stack t = fs := by
  simp [setStack]

omit [DecidableEq L] [Fintype L] in
theorem stack_setStack_other {r : Nat} (fs : List (Frame L σ ν Op)) (h : r ≠ t) :
    (st.setStack t fs).stack r = st.stack r := by
  simp [setStack, Function.update_of_ne h]

omit [Fintype L] in
@[simp] theorem holder_setHolder_same (l : L) (holder : Option Nat) :
    (st.setHolder l holder).holder l = holder := by
  simp [setHolder]

omit [Fintype L] in
theorem holder_setHolder_other {l l' : L} (holder : Option Nat) (h : l' ≠ l) :
    (st.setHolder l holder).holder l' = st.holder l' := by
  simp [setHolder, Function.update_of_ne h]

/-- Taking a free lock adds it to what the thread holds, and to nothing else. -/
theorem heldBy_take {l : L} (hfree : st.holder l = none) (r : Nat) :
    (st.setHolder l (some t)).heldBy r =
      if r = t then insert l (st.heldBy r) else st.heldBy r := by
  ext l'
  rw [mem_heldBy]
  by_cases hl : l' = l
  · subst hl
    rw [holder_setHolder_same]
    by_cases hr : r = t
    · simp [hr]
    · have hne : ¬ t = r := fun h => hr h.symm
      simp [hr, hne, mem_heldBy, hfree]
  · rw [holder_setHolder_other _ hl]
    by_cases hr : r = t
    · simp [hr, hl, mem_heldBy]
    · simp [hr, mem_heldBy]

/-- Releasing a held lock takes it from what the thread holds, and from nothing else. -/
theorem heldBy_free {l : L} (hheld : st.holder l = some t) (r : Nat) :
    (st.setHolder l none).heldBy r =
      if r = t then (st.heldBy r).erase l else st.heldBy r := by
  ext l'
  rw [mem_heldBy]
  by_cases hl : l' = l
  · subst hl
    rw [holder_setHolder_same]
    by_cases hr : r = t
    · simp [hr]
    · have hne : ¬ t = r := fun h => hr h.symm
      simp [hr, hne, mem_heldBy, hheld]
  · rw [holder_setHolder_other _ hl]
    by_cases hr : r = t
    · simp [hr, hl, mem_heldBy]
    · simp [hr, mem_heldBy]

end Threads

variable {S : LockSystem L σ ν Op} {calls : Op → Finset L} {places : ν → Finset L}
  {allowed : ν → List Op → Prop} {st st' : Threads L σ ν Op}

/-- Where every thread keeps to the discipline, the locks are balanced. -/
theorem ThreadsRun.balanced (h : ThreadsRun calls places allowed st) : st.Balanced := by
  constructor
  · intro t f below l rest hstack hcode hholder
    have ht := h t
    rw [hstack] at ht
    obtain ⟨_, hruns, _⟩ := ht
    rw [hcode] at hruns
    exact hruns.1 (Threads.mem_heldBy.mpr hholder)
  · intro t f below l rest hstack hcode
    have ht := h t
    rw [hstack] at ht
    obtain ⟨_, hruns, _⟩ := ht
    rw [hcode] at hruns
    exact Threads.mem_heldBy.mp hruns.1
  · intro t f below hstack hcode
    have ht := h t
    rw [hstack] at ht
    obtain ⟨_, hruns, _⟩ := ht
    rw [hcode] at hruns
    exact hruns
  · intro t hstack
    have ht := h t
    rw [hstack] at ht
    exact ht

/-- A step that changes one stack and no holders. -/
theorem ThreadsRun.setStack
    (h : ThreadsRun calls places allowed st)
    {t : Nat}
    {fs : List (Frame L σ ν Op)}
    (hfs : StackRuns calls places allowed fs (st.heldBy t)) :
    ThreadsRun calls places allowed (st.setStack t fs) := by
  intro r
  by_cases hr : r = t
  · subst hr
    rw [Threads.stack_setStack_same, Threads.heldBy_setStack]
    exact hfs
  · rw [Threads.stack_setStack_other fs hr, Threads.heldBy_setStack]
    exact h r

/-- A thread begins a disciplined operation. -/
theorem ThreadsRun.push
    (h : ThreadsRun calls places allowed st)
    (hS : S.Disciplined calls places allowed)
    {t : Nat}
    {op : Op}
    (hop : (st.stack t).map Frame.op = [] ∨ S.callable op = true)
    (hheld : st.heldBy t = locksInside calls ((st.stack t).map Frame.op)) :
    ThreadsRun calls places allowed (st.push t op (S.code op)) := by
  refine h.setStack ⟨hheld, ?_, h t⟩
  have hcode := hS op ((st.stack t).map Frame.op) hop
  rw [← hheld] at hcode
  exact hcode

/-- One instruction keeps every thread to the discipline. -/
theorem ThreadsRun.exec
    (h : ThreadsRun calls places allowed st)
    {t : Nat}
    {f : Frame L σ ν Op}
    {below : List (Frame L σ ν Op)}
    (hstack : st.stack t = f :: below)
    (hvisits : ∀ v rest, f.code = .visit v rest → allowed v (below.map Frame.op))
    (hstep : st.exec t f below = some st') :
    ThreadsRun calls places allowed st' := by
  have ht := h t
  rw [hstack] at ht
  obtain ⟨hentry, hruns, hbelow⟩ := ht
  unfold Threads.exec at hstep
  generalize hcode : f.code = code at hstep hruns hvisits
  cases code with
  | pure a =>
      cases hstep
      have hsame : st.heldBy t = f.entry := hruns
      rw [← hsame] at hbelow
      exact h.setStack hbelow
  | lock l rest =>
      by_cases hfree : st.holder l = none
      · simp only [hfree, if_true, Option.some.injEq] at hstep
        subst hstep
        have hheld := st.heldBy_take (t := t) hfree
        intro r
        rw [Threads.heldBy_setStack, hheld r]
        by_cases hr : r = t
        · subst hr
          rw [Threads.stack_setStack_same, if_pos rfl]
          exact ⟨hentry, hruns.2, hbelow⟩
        · rw [Threads.stack_setStack_other _ hr, if_neg hr]
          exact h r
      · simp only [hfree, if_false] at hstep
        cases hstep
  | unlock l rest =>
      cases hstep
      have hheld := st.heldBy_free (Threads.mem_heldBy.mp hruns.1)
      intro r
      rw [Threads.heldBy_setStack, hheld r]
      by_cases hr : r = t
      · subst hr
        rw [Threads.stack_setStack_same, if_pos rfl]
        exact ⟨hentry, hruns.2, hbelow⟩
      · rw [Threads.stack_setStack_other _ hr, if_neg hr]
        exact h r
  | act next rest =>
      cases hstep
      have hshared : ThreadsRun calls places allowed { st with shared := next st.shared } := h
      exact hshared.setStack ⟨hentry, hruns st.shared, hbelow⟩
  | await test rest =>
      by_cases htest : test st.shared = true
      · simp only [htest, if_true, Option.some.injEq] at hstep
        subst hstep
        exact h.setStack ⟨hentry, hruns, hbelow⟩
      · simp only [htest] at hstep
        cases hstep
  | call rest =>
      cases hstep
      exact h.setStack ⟨hentry, hruns.2, hbelow⟩
  | visit v rest =>
      cases hstep
      exact h.setStack ⟨hentry, hruns.2 (hvisits v rest rfl), hbelow⟩

/-- One move keeps every thread to the discipline. -/
theorem ThreadsRun.step
    (h : ThreadsRun calls places allowed st)
    (hS : S.Disciplined calls places allowed)
    {move : Move Op}
    (hvisits : Visits allowed st move)
    (hstep : (threads S).step st move = some st') :
    ThreadsRun calls places allowed st' := by
  cases move with
  | start t op =>
      have ht := h t
      cases hstack : st.stack t with
      | nil =>
          simp only [threads, hstack, Option.some.injEq] at hstep
          subst hstep
          rw [hstack] at ht
          exact h.push hS (Or.inl (by rw [hstack]; rfl)) (by rw [hstack]; exact ht)
      | cons f below =>
          rw [hstack] at ht
          obtain ⟨_, hruns, _⟩ := ht
          simp only [threads, hstack] at hstep
          split at hstep
          · rename_i rest hcode
            rw [hcode] at hruns
            split at hstep
            · rename_i hcallable
              cases hstep
              exact h.push hS (Or.inr hcallable) (by rw [hstack]; exact hruns.1)
            · cases hstep
          · cases hstep
  | step t =>
      cases hstack : st.stack t with
      | nil =>
          simp only [threads, hstack] at hstep
          cases hstep
      | cons f below =>
          simp only [threads, hstack] at hstep
          exact h.exec hstack (fun v rest hcode => hvisits f below v rest hstack hcode) hstep

theorem threadsRun_of_reaches
    (hS : S.Disciplined calls places allowed)
    (hrun : (threads S).Reaches (Visits allowed) st) :
    ThreadsRun calls places allowed st := by
  refine hrun.invariant ?_ ?_
  · rintro st ⟨_, hholder, hstack⟩ t
    rw [hstack]
    have hnone : st.heldBy t = ∅ := by
      simp [Threads.heldBy, hholder]
    exact hnone
  · intro st move st' h hvisits hstep
    exact h.step hS hvisits hstep

/-- In every run of disciplined operations that visits allowed places only, the locks
are balanced. -/
theorem balanced_of_reaches
    (hS : S.Disciplined calls places allowed)
    (hrun : (threads S).Reaches (Visits allowed) st) :
    st.Balanced :=
  (threadsRun_of_reaches hS hrun).balanced

/-- What a thread holds at a place, whether it is allowed there or not. -/
theorem heldBy_of_visit
    (hS : S.Disciplined calls places allowed)
    (hrun : (threads S).Reaches (Visits allowed) st)
    {t : Nat}
    {f : Frame L σ ν Op}
    {below : List (Frame L σ ν Op)}
    {v : ν}
    {rest : Code L σ ν Unit}
    (hstack : st.stack t = f :: below)
    (hcode : f.code = .visit v rest) :
    f.entry = locksInside calls (below.map Frame.op) ∧ st.heldBy t = places v ∪ f.entry := by
  have ht := threadsRun_of_reaches hS hrun t
  rw [hstack] at ht
  obtain ⟨hentry, hruns, _⟩ := ht
  rw [hcode] at hruns
  exact ⟨hentry, hruns.1⟩

end Threads

end Lib
end SakuraNetwork

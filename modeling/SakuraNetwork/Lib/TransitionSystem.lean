import Mathlib.Logic.Basic
import Mathlib.Tactic.Common

/-!
# Runs of a transition system

A system has initial states and a partial step function.  `Reaches allowed`
are the states of the runs all of whose steps satisfy a condition on the
action and the state before it; with no condition these are all reachable
states.

* `Reaches.invariant`: a predicate that holds at the start and is kept by
  every allowed step holds along the run.
* `Reaches.of_exec`: the state after an executed list of actions is reached.
* `Reaches.mono`: fewer restrictions reach more states.
-/

namespace SakuraNetwork
namespace Lib

universe u v

/-- A transition system over states `σ` with actions `α`. -/
structure TransitionSystem (σ : Type u) (α : Type v) where
  init : σ → Prop
  step : σ → α → Option σ

namespace TransitionSystem

variable {σ : Type u} {α : Type v}

/-- The states of the runs whose steps are all allowed. -/
inductive Reaches (S : TransitionSystem σ α) (allowed : σ → α → Prop) : σ → Prop
  | init {s : σ} (h : S.init s) : Reaches S allowed s
  | step {s s' : σ} {a : α}
      (hrun : Reaches S allowed s)
      (hallowed : allowed s a)
      (hstep : S.step s a = some s') :
      Reaches S allowed s'

/-- The states of all runs. -/
def Reachable (S : TransitionSystem σ α) : σ → Prop :=
  S.Reaches (fun _ _ => True)

variable {S : TransitionSystem σ α} {allowed : σ → α → Prop}

/-- The induction rule for runs: one obligation for the start, one for a step. -/
theorem Reaches.invariant {Inv : σ → Prop}
    (hinit : ∀ s, S.init s → Inv s)
    (hstep : ∀ s a s', Inv s → allowed s a → S.step s a = some s' → Inv s')
    {s : σ} (h : S.Reaches allowed s) : Inv s := by
  induction h with
  | init h =>
      exact hinit _ h
  | step _ hallowed hs ih =>
      exact hstep _ _ _ ih hallowed hs

/-- A run with a stronger condition is a run with a weaker one. -/
theorem Reaches.mono {allowed' : σ → α → Prop}
    (hle : ∀ s a, allowed s a → allowed' s a)
    {s : σ} (h : S.Reaches allowed s) : S.Reaches allowed' s := by
  induction h with
  | init h =>
      exact .init h
  | step _ hallowed hs ih =>
      exact .step ih (hle _ _ hallowed) hs

/-- Every state of a conditioned run is reachable. -/
theorem Reaches.reachable {s : σ} (h : S.Reaches allowed s) : S.Reachable s :=
  h.mono (fun _ _ _ => trivial)

/-- Execution of a list of actions. -/
def exec (S : TransitionSystem σ α) (s : σ) : List α → Option σ
  | [] => some s
  | a :: as => (S.step s a).bind (fun s' => S.exec s' as)

/-- Every action of an execution is allowed where it is taken. -/
def execAllowed (S : TransitionSystem σ α) (allowed : σ → α → Prop) (s : σ) :
    List α → Prop
  | [] => True
  | a :: as => allowed s a ∧ ∀ s', S.step s a = some s' → S.execAllowed allowed s' as

/-- Whether an execution is allowed can be computed. -/
instance decidableExecAllowed (S : TransitionSystem σ α) (allowed : σ → α → Prop)
    [∀ s a, Decidable (allowed s a)] (s : σ) :
    (as : List α) → Decidable (S.execAllowed allowed s as)
  | [] => .isTrue trivial
  | a :: as =>
      have : Decidable (∀ s', S.step s a = some s' → S.execAllowed allowed s' as) :=
        match S.step s a with
        | none => .isTrue fun _ h => nomatch h
        | some t =>
            have := decidableExecAllowed S allowed t as
            decidable_of_iff (S.execAllowed allowed t as)
              ⟨fun h _ ht => Option.some.inj ht ▸ h, fun h => h t rfl⟩
      inferInstanceAs (Decidable (allowed s a ∧ ∀ s', S.step s a = some s' → _))

/-- Actions that are allowed everywhere are allowed along an execution. -/
theorem execAllowed_of_forall {as : List α}
    (h : ∀ a ∈ as, ∀ s, allowed s a)
    (s : σ) : S.execAllowed allowed s as := by
  induction as generalizing s with
  | nil =>
      exact trivial
  | cons a as ih =>
      exact ⟨h a List.mem_cons_self s,
        fun s' _ => ih (fun a' ha' => h a' (List.mem_cons_of_mem a ha')) s'⟩

/-- A weaker condition holds along the execution too. -/
theorem execAllowed_mono {allowed' : σ → α → Prop} {as : List α}
    (hle : ∀ a ∈ as, ∀ s, allowed s a → allowed' s a)
    {s : σ}
    (h : S.execAllowed allowed s as) : S.execAllowed allowed' s as := by
  induction as generalizing s with
  | nil =>
      exact trivial
  | cons a as ih =>
      exact ⟨hle a List.mem_cons_self s h.1,
        fun s' hs => ih (fun a' ha' => hle a' (List.mem_cons_of_mem a ha')) (h.2 s' hs)⟩

/-- Executing allowed actions from a reached state reaches the final state. -/
theorem Reaches.of_exec {s s' : σ} {as : List α}
    (hrun : S.Reaches allowed s)
    (hallowed : S.execAllowed allowed s as)
    (hexec : S.exec s as = some s') :
    S.Reaches allowed s' := by
  induction as generalizing s with
  | nil =>
      simp only [exec, Option.some.injEq] at hexec
      exact hexec ▸ hrun
  | cons a as ih =>
      obtain ⟨t, ht, hrest⟩ := Option.bind_eq_some_iff.mp hexec
      exact ih (.step hrun hallowed.1 ht) (hallowed.2 t ht) hrest

theorem Reachable.of_exec {s s' : σ} {as : List α}
    (hinit : S.init s)
    (hexec : S.exec s as = some s') :
    S.Reachable s' := by
  refine Reaches.of_exec (.init hinit) ?_ hexec
  clear hexec hinit
  induction as generalizing s with
  | nil =>
      exact trivial
  | cons a as ih =>
      exact ⟨trivial, fun t _ => ih⟩

end TransitionSystem

end Lib
end SakuraNetwork

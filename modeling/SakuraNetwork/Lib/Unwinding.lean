import Mathlib.Data.List.Basic
import Mathlib.Tactic.Common

/-!
# Two runs that look the same

A deterministic system takes events and gives outputs.  An observer sees something of
each event, or nothing of it.  If an event of which nothing is seen outputs nothing and
leaves a relation between states intact, and events that look the same act on related
states alike, then two runs that look the same have the same outputs.

* `observedAlong`: what is seen of a run.
* `Unwinding.catch_up`: the unseen events before one that is seen.
* `Unwinding.two_runs`: two runs that look the same.
-/

namespace SakuraNetwork
namespace Lib

universe u v w x

variable {σ : Type u} {ε : Type v} {ο : Type w} {ω : Type x}

/-- The state after a list of events. -/
def runEvents (step : σ → ε → σ × List ο) (s : σ) : List ε → σ
  | [] => s
  | e :: es => runEvents step (step s e).1 es

/-- The outputs of a list of events. -/
def outputsOf (step : σ → ε → σ × List ο) (s : σ) : List ε → List ο
  | [] => []
  | e :: es => (step s e).2 ++ outputsOf step (step s e).1 es

theorem runEvents_append
    (step : σ → ε → σ × List ο)
    (s : σ)
    (es es' : List ε) :
    runEvents step s (es ++ es') = runEvents step (runEvents step s es) es' := by
  induction es generalizing s with
  | nil =>
      rfl
  | cons e es ih =>
      exact ih (step s e).1

theorem outputsOf_append
    (step : σ → ε → σ × List ο)
    (s : σ)
    (es es' : List ε) :
    outputsOf step s (es ++ es') =
      outputsOf step s es ++ outputsOf step (runEvents step s es) es' := by
  induction es generalizing s with
  | nil =>
      rfl
  | cons e es ih =>
      rw [List.cons_append, outputsOf, outputsOf, ih, List.append_assoc]
      rfl

/-- Every event satisfies a condition in the state it finds. -/
def AllAlong (step : σ → ε → σ × List ο) (allowed : σ → ε → Prop) (s : σ) : List ε → Prop
  | [] => True
  | e :: es => allowed s e ∧ AllAlong step allowed (step s e).1 es

theorem runEvents_map
    {ε' : Type v}
    (step : σ → ε → σ × List ο)
    (f : ε' → ε)
    (s : σ)
    (es : List ε') :
    runEvents (fun s e => step s (f e)) s es = runEvents step s (es.map f) := by
  induction es generalizing s with
  | nil =>
      rfl
  | cons e es ih =>
      exact ih (step s (f e)).1

theorem outputsOf_map
    {ε' : Type v}
    (step : σ → ε → σ × List ο)
    (f : ε' → ε)
    (s : σ)
    (es : List ε') :
    outputsOf (fun s e => step s (f e)) s es = outputsOf step s (es.map f) := by
  induction es generalizing s with
  | nil =>
      rfl
  | cons e es ih =>
      exact congrArg ((step s (f e)).2 ++ ·) (ih (step s (f e)).1)

/-- What every event keeps is the same at the end. -/
theorem AllAlong.runEvents_eq
    {τ : Type*}
    {step : σ → ε → σ × List ο}
    {allowed : σ → ε → Prop}
    {s : σ}
    {es : List ε}
    (h : AllAlong step allowed s es)
    (f : σ → τ)
    (hf : ∀ s e, allowed s e → f (step s e).1 = f s) :
    f (runEvents step s es) = f s := by
  induction es generalizing s with
  | nil =>
      rfl
  | cons e es ih =>
      exact (ih h.2).trans (hf s e h.1)

/-- What an observer sees of the events; it depends on the state each event finds. -/
def observedAlong (step : σ → ε → σ × List ο) (observe : σ → ε → Option ω) (s : σ) :
    List ε → List ω
  | [] => []
  | e :: es => (observe s e).toList ++ observedAlong step observe (step s e).1 es

/-- What an observer sees of related states: an event that is not seen outputs nothing
and keeps the relation, and events that look the same act on related states alike. -/
structure Unwinding
    (step : σ → ε → σ × List ο)
    (observe : σ → ε → Option ω)
    (allowed : σ → ε → Prop)
    (rel : σ → σ → Prop) : Prop where
  symm : ∀ {s t}, rel s t → rel t s
  unseen : ∀ {s t e}, rel s t → allowed s e → observe s e = none →
    (step s e).2 = [] ∧ rel (step s e).1 t
  seen : ∀ {s t e e' w}, rel s t → allowed s e → allowed t e' →
    observe s e = some w → observe t e' = some w →
    (step s e).2 = (step t e').2 ∧ rel (step s e).1 (step t e').1

namespace Unwinding

variable {step : σ → ε → σ × List ο} {observe : σ → ε → Option ω} {allowed : σ → ε → Prop}
  {rel : σ → σ → Prop}

/-- A run of which nothing is seen has no outputs. -/
theorem unseen_run
    (h : Unwinding step observe allowed rel)
    {s t : σ}
    (hrel : rel s t)
    {es : List ε}
    (hallowed : AllAlong step allowed s es)
    (hseen : observedAlong step observe s es = []) :
    outputsOf step s es = [] ∧ rel (runEvents step s es) t := by
  induction es generalizing s with
  | nil =>
      exact ⟨rfl, hrel⟩
  | cons e es ih =>
      obtain ⟨he, hes⟩ := hallowed
      obtain ⟨hnone, hrest⟩ := List.append_eq_nil_iff.mp hseen
      obtain ⟨hout, hnext⟩ := h.unseen hrel he (Option.toList_eq_nil_iff.mp hnone)
      obtain ⟨houts, hend⟩ := ih hnext hes hrest
      refine ⟨?_, hend⟩
      rw [outputsOf, hout, houts, List.append_nil]

/-- A run catches up with an event that is seen: before it comes the event that looks
the same, the other run does nothing that is seen. -/
theorem catch_up
    (h : Unwinding step observe allowed rel)
    {s t : σ}
    (hrel : rel s t)
    {e : ε}
    {w : ω}
    (he : allowed s e)
    (hobserve : observe s e = some w)
    {es' : List ε}
    (hallowed : AllAlong step allowed t es')
    {ws : List ω}
    (hseen : observedAlong step observe t es' = w :: ws) :
    ∃ t' rest, AllAlong step allowed t' rest ∧ observedAlong step observe t' rest = ws ∧
      outputsOf step t es' = (step s e).2 ++ outputsOf step t' rest ∧
      runEvents step t es' = runEvents step t' rest ∧ rel (step s e).1 t' := by
  induction es' generalizing t with
  | nil =>
      cases hseen
  | cons e' es' ih =>
      obtain ⟨he', hes'⟩ := hallowed
      rw [observedAlong] at hseen
      cases hobserve' : observe t e' with
      | none =>
          rw [hobserve', Option.toList_none, List.nil_append] at hseen
          obtain ⟨hout, hnext⟩ := h.unseen (h.symm hrel) he' hobserve'
          obtain ⟨t', rest, hrest, hws, houts, hend, hrel'⟩ := ih (h.symm hnext) hes' hseen
          refine ⟨t', rest, hrest, hws, ?_, hend, hrel'⟩
          rw [outputsOf, hout, List.nil_append, houts]
      | some w' =>
          rw [hobserve', Option.toList_some, List.singleton_append, List.cons.injEq] at hseen
          obtain ⟨rfl, hws⟩ := hseen
          obtain ⟨hout, hnext⟩ := h.seen hrel he he' hobserve hobserve'
          refine ⟨(step t e').1, es', hes', hws, ?_, rfl, hnext⟩
          rw [outputsOf, hout]

/-- Two runs from related states that look the same have the same outputs. -/
theorem two_runs
    (h : Unwinding step observe allowed rel)
    {s t : σ}
    (hrel : rel s t)
    {es es' : List ε}
    (hallowed : AllAlong step allowed s es)
    (hallowed' : AllAlong step allowed t es')
    (hsame : observedAlong step observe s es = observedAlong step observe t es') :
    outputsOf step s es = outputsOf step t es' ∧
      rel (runEvents step s es) (runEvents step t es') := by
  induction es generalizing s t es' with
  | nil =>
      obtain ⟨houts, hend⟩ := h.unseen_run (h.symm hrel) hallowed' hsame.symm
      exact ⟨houts.symm, h.symm hend⟩
  | cons e es ih =>
      obtain ⟨he, hes⟩ := hallowed
      rw [observedAlong] at hsame
      cases hobserve : observe s e with
      | none =>
          rw [hobserve, Option.toList_none, List.nil_append] at hsame
          obtain ⟨hout, hnext⟩ := h.unseen hrel he hobserve
          obtain ⟨houts, hend⟩ := ih hnext hes hallowed' hsame
          refine ⟨?_, hend⟩
          rw [outputsOf, hout, List.nil_append, houts]
      | some w =>
          rw [hobserve, Option.toList_some, List.singleton_append] at hsame
          obtain ⟨t', rest, hrest, hws, houts', hend', hnext⟩ :=
            h.catch_up hrel he hobserve hallowed' hsame.symm
          obtain ⟨houts, hend⟩ := ih hnext hes hrest hws.symm
          rw [houts', hend', outputsOf, houts]
          exact ⟨rfl, hend⟩

end Unwinding

end Lib
end SakuraNetwork

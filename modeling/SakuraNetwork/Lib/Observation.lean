import SakuraNetwork.Lib.TransitionSystem

/-!
# Observed runs

A run together with what was observed of its steps, in order.  To observe a run does not
change it.

* `observed`: the system with its observations.
* `Reaches.observed_invariant`: what holds of the state and of all observations so far.
-/

namespace SakuraNetwork
namespace Lib
namespace TransitionSystem

universe u v w

variable {σ : Type u} {α : Type v} {ω : Type w}

/-- The runs that begin in some of the initial states. -/
def startingFrom (S : TransitionSystem σ α) (P : σ → Prop) : TransitionSystem σ α where
  init := fun s => S.init s ∧ P s
  step := S.step

/-- The runs of a system, with what was observed of the steps. -/
def observed
    (S : TransitionSystem σ α)
    (observe : σ → α → List ω) : TransitionSystem (σ × List ω) α where
  init := fun s => S.init s.1 ∧ s.2 = []
  step := fun s a => (S.step s.1 a).map (fun next => (next, s.2 ++ observe s.1 a))

variable {S : TransitionSystem σ α} {allowed : σ → α → Prop}

theorem Reaches.of_startingFrom
    {P : σ → Prop}
    {s : σ}
    (h : (S.startingFrom P).Reaches allowed s) :
    S.Reaches allowed s := by
  induction h with
  | init h =>
      exact .init h.1
  | step _ hallowed hs ih =>
      exact .step ih hallowed hs

/-- From a given state the system takes the same steps. -/
theorem exec_startingFrom
    (P : σ → Prop)
    (s : σ)
    (as : List α) :
    (S.startingFrom P).exec s as = S.exec s as := by
  induction as generalizing s with
  | nil =>
      rfl
  | cons a as ih =>
      simp only [exec, ih]
      rfl

/-- To observe a run does not change it. -/
theorem Reaches.of_observed
    (allowed : σ → α → Prop)
    {observe : σ → α → List ω}
    {s : σ × List ω}
    (h : (S.observed observe).Reaches (fun s a => allowed s.1 a) s) :
    S.Reaches allowed s.1 := by
  induction h with
  | init h =>
      exact .init h.1
  | @step s t a _ hallowed hs ih =>
      obtain ⟨next, hnext, rfl⟩ := Option.map_eq_some_iff.mp hs
      exact .step ih hallowed hnext

/-- An execution can be observed. -/
theorem exists_exec_observed
    (observe : σ → α → List ω)
    {s s' : σ}
    {as : List α}
    (hexec : S.exec s as = some s')
    (seen : List ω) :
    ∃ seen', (S.observed observe).exec (s, seen) as = some (s', seen') := by
  induction as generalizing s seen with
  | nil =>
      simp only [exec, Option.some.injEq] at hexec
      exact ⟨seen, by rw [exec, hexec]⟩
  | cons a as ih =>
      obtain ⟨t, ht, hrest⟩ := Option.bind_eq_some_iff.mp hexec
      obtain ⟨seen', hseen⟩ := ih hrest (seen ++ observe s a)
      have hfirst : (S.observed observe).step (s, seen) a = some (t, seen ++ observe s a) := by
        simp only [observed, ht, Option.map_some]
      refine ⟨seen', ?_⟩
      rw [exec, hfirst]
      exact hseen

/-- The rule for observed runs: one obligation for the start, one for a step and what is
observed of it. -/
theorem Reaches.observed_invariant
    (allowed : σ → α → Prop)
    {observe : σ → α → List ω}
    {Inv : σ → List ω → Prop}
    (hinit : ∀ s, S.init s → Inv s [])
    (hstep : ∀ s seen a s', S.Reaches allowed s → Inv s seen → allowed s a →
      S.step s a = some s' → Inv s' (seen ++ observe s a))
    {s : σ × List ω}
    (h : (S.observed observe).Reaches (fun s a => allowed s.1 a) s) :
    Inv s.1 s.2 := by
  induction h with
  | init h =>
      rw [h.2]
      exact hinit _ h.1
  | @step s t a hrun hallowed hs ih =>
      obtain ⟨next, hnext, rfl⟩ := Option.map_eq_some_iff.mp hs
      exact hstep _ _ _ _ (hrun.of_observed allowed) ih hallowed hnext

end TransitionSystem
end Lib
end SakuraNetwork

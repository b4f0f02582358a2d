import SakuraNetwork.Lib.Observation

/-!
# Simulation

One system simulates another one, if every step of the concrete system is matched by any
number of steps of the abstract one, in which the same is observed.

* `Simulates`: the obligations for the start and for a step.
* `Simulates.reaches`: every run of the concrete system is one of the abstract system, with
  the same observations.
-/

namespace SakuraNetwork
namespace Lib
namespace TransitionSystem

universe u v w x y

variable {σ : Type u} {α : Type v} {τ : Type w} {β : Type x} {ω : Type y}

/-- The relation is kept, and what is observed of a concrete step is observed of the
abstract steps that match it. -/
structure Simulates
    (C : TransitionSystem σ α)
    (A : TransitionSystem τ β)
    (observe : σ → α → List ω)
    (observe' : τ → β → List ω)
    (allowed : σ → α → Prop)
    (allowed' : τ → β → Prop)
    (R : σ → τ → Prop) : Prop where
  init : ∀ s, C.init s → ∃ t, A.init t ∧ R s t
  step : ∀ {s t seen a s'},
    (A.observed observe').Reaches (fun t b => allowed' t.1 b) (t, seen) → R s t → allowed s a →
      C.step s a = some s' → ∃ t',
        (A.observed observe').Reaches (fun t b => allowed' t.1 b) (t', seen ++ observe s a) ∧
          R s' t'

/-- The rule for simulations. -/
theorem Simulates.reaches
    {C : TransitionSystem σ α}
    {A : TransitionSystem τ β}
    {observe : σ → α → List ω}
    {observe' : τ → β → List ω}
    {allowed : σ → α → Prop}
    {allowed' : τ → β → Prop}
    {R : σ → τ → Prop}
    (h : Simulates C A observe observe' allowed allowed' R)
    {s : σ × List ω}
    (hrun : (C.observed observe).Reaches (fun s a => allowed s.1 a) s) :
    ∃ t, (A.observed observe').Reaches (fun t b => allowed' t.1 b) (t, s.2) ∧ R s.1 t := by
  induction hrun with
  | @init s hinit =>
      obtain ⟨t, ht, hR⟩ := h.init s.1 hinit.1
      rw [hinit.2]
      exact ⟨t, .init ⟨ht, rfl⟩, hR⟩
  | @step s s' a _ hallowed hs ih =>
      obtain ⟨t, ht, hR⟩ := ih
      obtain ⟨next, hnext, rfl⟩ := Option.map_eq_some_iff.mp hs
      exact h.step ht hR hallowed hnext

end TransitionSystem
end Lib
end SakuraNetwork

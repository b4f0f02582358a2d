import SakuraNetwork.Lib.TransitionSystem

/-!
# Amortised bounds on runs

A potential pays for what the steps of a run cost.  A step may cost more than it brings in,
as long as the potential falls by the difference.

* `total`: what the steps of an execution add up to.
* `Pays.total_le`: along an execution, the costs are at most the potential at its start
  and what the steps bring in.
* `Pays.exists_exhausted`: steps that only cost come to an end, in any order.
-/

namespace SakuraNetwork
namespace Lib
namespace TransitionSystem

universe u v

variable {σ : Type u} {α : Type v}

/-- What the steps of an execution add up to. -/
def total (S : TransitionSystem σ α) (f : σ → α → Nat) (s : σ) : List α → Nat
  | [] => 0
  | a :: as =>
      match S.step s a with
      | none => 0
      | some s' => f s a + S.total f s' as

/-- The invariant is kept, and the potential pays for the cost of a step that exceeds what
it brings in. -/
structure Pays
    (S : TransitionSystem σ α)
    (Inv : σ → Prop)
    (allowed : σ → α → Prop)
    (cost income : σ → α → Nat)
    (potential : σ → Nat) : Prop where
  keeps : ∀ {s a s'}, Inv s → allowed s a → S.step s a = some s' → Inv s'
  pays : ∀ {s a s'}, Inv s → allowed s a → S.step s a = some s' →
    cost s a + potential s' ≤ potential s + income s a

variable {S : TransitionSystem σ α} {Inv : σ → Prop} {allowed : σ → α → Prop}
  {cost income : σ → α → Nat} {potential : σ → Nat}

theorem total_cons
    {f : σ → α → Nat}
    {s s' : σ}
    {a : α}
    (hstep : S.step s a = some s')
    (as : List α) :
    S.total f s (a :: as) = f s a + S.total f s' as := by
  simp only [total, hstep]

/-- Where every step costs the same, its executions are counted. -/
theorem total_countP
    {p : α → Bool}
    {s s' : σ}
    {as : List α}
    (hexec : S.exec s as = some s') :
    S.total (fun _ a => if p a then 1 else 0) s as = as.countP p := by
  induction as generalizing s with
  | nil =>
      rfl
  | cons a as ih =>
      obtain ⟨t, ht, hrest⟩ := Option.bind_eq_some_iff.mp hexec
      rw [total_cons ht, ih hrest, List.countP_cons, Nat.add_comm]

/-- Where every step costs one, its executions are as long as they cost. -/
theorem total_one
    {s s' : σ}
    {as : List α}
    (hexec : S.exec s as = some s') :
    S.total (fun _ _ => 1) s as = as.length := by
  have hcount := total_countP (p := fun _ => true) hexec
  rw [List.countP_true] at hcount
  exact hcount

theorem total_zero (s : σ) (as : List α) :
    S.total (fun _ _ => 0) s as = 0 := by
  induction as generalizing s with
  | nil =>
      rfl
  | cons a as ih =>
      rw [total]
      split
      · rfl
      · rw [ih]

/-- Actions that are allowed wherever they are taken. -/
theorem forall_of_execAllowed
    {allowed : α → Prop}
    {s s' : σ}
    {as : List α}
    (hallowed : S.execAllowed (fun _ a => allowed a) s as)
    (hexec : S.exec s as = some s') :
    ∀ a ∈ as, allowed a := by
  induction as generalizing s with
  | nil =>
      exact fun a ha => absurd ha List.not_mem_nil
  | cons a as ih =>
      obtain ⟨t, ht, hrest⟩ := Option.bind_eq_some_iff.mp hexec
      intro b hb
      rcases List.mem_cons.mp hb with rfl | hb
      · exact hallowed.1
      · exact ih (hallowed.2 t ht) hrest b hb

/-- What a step adds to a quantity that does not fall. -/
def gained (S : TransitionSystem σ α) (f : σ → Nat) (s : σ) (a : α) : Nat :=
  match S.step s a with
  | none => 0
  | some s' => f s' - f s

theorem gained_of_step
    {f : σ → Nat}
    {s s' : σ}
    {a : α}
    (hstep : S.step s a = some s') :
    S.gained f s a = f s' - f s := by
  simp only [gained, hstep]

/-- Along an execution the gains add up to what the quantity has grown. -/
theorem total_gained
    (f : σ → Nat)
    (Inv : σ → Prop)
    (hmono : ∀ {s a s'}, Inv s → S.step s a = some s' → Inv s' ∧ f s ≤ f s')
    {s s' : σ}
    {as : List α}
    (hinv : Inv s)
    (hexec : S.exec s as = some s') :
    S.total (S.gained f) s as + f s = f s' := by
  induction as generalizing s with
  | nil =>
      simp only [exec, Option.some.injEq] at hexec
      rw [hexec]
      exact Nat.zero_add _
  | cons a as ih =>
      obtain ⟨t, ht, hrest⟩ := Option.bind_eq_some_iff.mp hexec
      obtain ⟨hinv', hle⟩ := hmono hinv ht
      have htail := ih hinv' hrest
      rw [total_cons ht, gained_of_step ht]
      omega

namespace Pays

/-- The rule for the costs of an execution. -/
theorem total_le
    (h : S.Pays Inv allowed cost income potential)
    {s s' : σ}
    {as : List α}
    (hinv : Inv s)
    (hallowed : S.execAllowed allowed s as)
    (hexec : S.exec s as = some s') :
    S.total cost s as + potential s' ≤ potential s + S.total income s as := by
  induction as generalizing s with
  | nil =>
      simp only [exec, Option.some.injEq] at hexec
      subst hexec
      exact Nat.le_of_eq (Nat.add_comm _ _)
  | cons a as ih =>
      obtain ⟨t, ht, hrest⟩ := Option.bind_eq_some_iff.mp hexec
      have hpays := h.pays hinv hallowed.1 ht
      have htail := ih (h.keeps hinv hallowed.1 ht) (hallowed.2 t ht) hrest
      rw [total_cons ht, total_cons ht]
      omega

/-- Steps that cost and bring nothing in come to an end, whichever of them are taken. -/
theorem exists_exhausted
    (h : S.Pays Inv allowed (fun _ _ => 1) (fun _ _ => 0) potential)
    {s : σ}
    (hinv : Inv s) :
    ∃ as s', S.execAllowed allowed s as ∧ S.exec s as = some s' ∧ Inv s' ∧
      ∀ a, allowed s' a → S.step s' a = none := by
  induction hn : potential s using Nat.strongRecOn generalizing s with
  | _ n ih =>
      by_cases hmore : ∃ a t, allowed s a ∧ S.step s a = some t
      · obtain ⟨a, t, hallowed, ht⟩ := hmore
        have hpays := h.pays hinv hallowed ht
        obtain ⟨as, s', hrest, hexec, hinv', hend⟩ :=
          ih (potential t) (by omega) (h.keeps hinv hallowed ht) rfl
        refine ⟨a :: as, s', ⟨hallowed, ?_⟩, ?_, hinv', hend⟩
        · intro t' ht'
          rw [ht, Option.some.injEq] at ht'
          exact ht' ▸ hrest
        · rw [exec, ht]
          exact hexec
      · refine ⟨[], s, trivial, rfl, hinv, ?_⟩
        intro a hallowed
        cases ht : S.step s a with
        | none =>
            rfl
        | some t =>
            exact absurd ⟨a, t, hallowed, ht⟩ hmore

end Pays

end TransitionSystem
end Lib
end SakuraNetwork

import SakuraNetwork.Lib.Unwinding

/-!
# Interleavings of independent threads

Every thread is a list of events; an interleaving takes one event after the
other from the front of some thread.  When the events of a thread act only on
what the thread sees of the state, and no event changes what another thread
sees, then at the end every thread sees what it would see alone, and the outputs
are those of the threads alone, in some order.

* `Independent.view_runEvents`: what a thread sees at the end.
* `Independent.outputs_perm`: the outputs of the whole run.
* `Independent.allAlong`: what holds when a thread reaches one of its events.
-/

namespace SakuraNetwork
namespace Lib

universe u v w x y

/-- `es` takes its events from the fronts of the lists, until all are empty. -/
inductive Interleaving {ε : Type v} : List (List ε) → List ε → Prop
  | done {threads : List (List ε)} (h : ∀ l ∈ threads, l = []) : Interleaving threads []
  | take {pre post : List (List ε)} {l es : List ε} {e : ε}
      (h : Interleaving (pre ++ l :: post) es) :
      Interleaving (pre ++ (e :: l) :: post) (e :: es)

theorem Interleaving.take_at
    {ε : Type v}
    (pre : List (List ε))
    (e : ε)
    (l es : List ε)
    (post : List (List ε))
    (h : Interleaving (pre ++ l :: post) es) :
    Interleaving (pre ++ (e :: l) :: post) (e :: es) :=
  .take h

variable {σ : Type u} {ε : Type v} {ο : Type w} {κ : Type x} {τ : Type y}

/-- The threads act on their own views of the states that satisfy `good`. -/
structure Independent
    (step : σ → ε → σ × List ο)
    (view : κ → σ → τ)
    (act : κ → τ → ε → τ × List ο)
    (good : σ → Prop)
    (threads : List (κ × List ε)) : Prop where
  keeps : ∀ {t e s}, t ∈ threads → e ∈ t.2 → good s → good (step s e).1
  own : ∀ {t e s}, t ∈ threads → e ∈ t.2 → good s →
    view t.1 (step s e).1 = (act t.1 (view t.1 s) e).1 ∧
      (step s e).2 = (act t.1 (view t.1 s) e).2
  other : ∀ {t t' e s}, t ∈ threads → t' ∈ threads → t'.1 ≠ t.1 → e ∈ t.2 → good s →
    view t'.1 (step s e).1 = view t'.1 s

namespace Independent

variable {step : σ → ε → σ × List ο} {view : κ → σ → τ} {act : κ → τ → ε → τ × List ο}
  {good : σ → Prop}

/-- The threads after the first event of one of them. -/
theorem tail
    {pre post : List (κ × List ε)}
    {k : κ}
    {e : ε}
    {l : List ε}
    (h : Independent step view act good (pre ++ (k, e :: l) :: post)) :
    Independent step view act good (pre ++ (k, l) :: post) := by
  have hfind : ∀ {t : κ × List ε}, t ∈ pre ++ (k, l) :: post →
      ∃ t' ∈ pre ++ (k, e :: l) :: post, t'.1 = t.1 ∧ ∀ a ∈ t.2, a ∈ t'.2 := by
    intro t ht
    rcases List.mem_append.mp ht with hpre | htail
    · exact ⟨t, List.mem_append_left _ hpre, rfl, fun a ha => ha⟩
    · rcases List.mem_cons.mp htail with rfl | hpost
      · exact ⟨(k, e :: l), List.mem_append_right _ List.mem_cons_self, rfl,
          fun a ha => List.mem_cons_of_mem _ ha⟩
      · exact ⟨t, List.mem_append_right _ (List.mem_cons_of_mem _ hpost), rfl, fun a ha => ha⟩
  constructor
  · intro t a s ht ha hs
    obtain ⟨t', ht', _, hsub⟩ := hfind ht
    exact h.keeps ht' (hsub a ha) hs
  · intro t a s ht ha hs
    obtain ⟨t', ht', hk, hsub⟩ := hfind ht
    rw [← hk]
    exact h.own ht' (hsub a ha) hs
  · intro t r a s ht hr hne ha hs
    obtain ⟨t', ht', hk, hsub⟩ := hfind ht
    obtain ⟨r', hr', hkr, _⟩ := hfind hr
    rw [← hkr]
    refine h.other ht' hr' ?_ (hsub a ha) hs
    rw [hk, hkr]
    exact hne

/-- An interleaving ends, or it takes the first event of a thread, the key of
which no other thread has. -/
theorem interleaving_cases
    {threads : List (κ × List ε)}
    {es : List ε}
    (hes : Interleaving (threads.map Prod.snd) es)
    (hnodup : (threads.map Prod.fst).Nodup) :
    (es = [] ∧ ∀ t ∈ threads, t.2 = []) ∨
    ∃ pre k e l post es',
      threads = pre ++ (k, e :: l) :: post ∧
      es = e :: es' ∧
      Interleaving ((pre ++ (k, l) :: post).map Prod.snd) es' ∧
      ((pre ++ (k, l) :: post).map Prod.fst).Nodup ∧
      (∀ t ∈ pre, t.1 ≠ k) ∧
      (∀ t ∈ post, t.1 ≠ k) := by
  generalize hlists : threads.map Prod.snd = lists at hes
  cases hes with
  | done h =>
      refine Or.inl ⟨rfl, ?_⟩
      intro t ht
      exact h t.2 (hlists ▸ List.mem_map_of_mem ht)
  | take h =>
      rename_i lpre lpost l es e
      obtain ⟨pre, rest, rfl, hpre, hrest⟩ := List.map_eq_append_iff.mp hlists
      obtain ⟨t, post, rfl, ht, hpost⟩ := List.map_eq_cons_iff.mp hrest
      obtain ⟨k, tl⟩ := t
      simp only at ht
      subst ht
      refine Or.inr ⟨pre, k, e, l, post, es, rfl, rfl, ?_, ?_, ?_, ?_⟩
      · simpa [hpre, hpost] using h
      · simpa using hnodup
      · intro t ht htk
        simp only [List.map_append, List.map_cons, List.nodup_append, List.nodup_cons] at hnodup
        exact hnodup.2.2 t.1 (List.mem_map_of_mem ht) k List.mem_cons_self htk
      · intro t ht htk
        simp only [List.map_append, List.map_cons, List.nodup_append, List.nodup_cons] at hnodup
        exact hnodup.2.1.1 (htk ▸ List.mem_map_of_mem ht)

/-- What holds of a thread's event in every state that looks to the thread as if
it had run alone so far holds along every interleaving. -/
theorem allAlong
    {threads : List (κ × List ε)}
    {s : σ}
    {es : List ε}
    {P : σ → ε → Prop}
    (h : Independent step view act good threads)
    (hes : Interleaving (threads.map Prod.snd) es)
    (hnodup : (threads.map Prod.fst).Nodup)
    (hs : good s)
    (hP : ∀ t ∈ threads, ∀ done e todo, t.2 = done ++ e :: todo →
      ∀ s', good s' → view t.1 s' = runEvents (act t.1) (view t.1 s) done → P s' e) :
    AllAlong step P s es := by
  induction es generalizing threads s with
  | nil =>
      exact trivial
  | cons e es ih =>
      rcases interleaving_cases hes hnodup with ⟨hnil, _⟩ | hcons
      · cases hnil
      · obtain ⟨pre, k, a, l, post, es', rfl, heq, hes', hnodup', hpre, hpost⟩ := hcons
        cases heq
        have hmem : (k, e :: l) ∈ pre ++ (k, e :: l) :: post :=
          List.mem_append_right _ List.mem_cons_self
        have hfirst : e ∈ (k, e :: l).2 := List.mem_cons_self
        have hother : ∀ t ∈ pre ++ (k, e :: l) :: post, t.1 ≠ k →
            view t.1 (step s e).1 = view t.1 s :=
          fun t ht hne => h.other hmem ht hne hfirst hs
        refine ⟨hP _ hmem [] e l rfl s hs rfl, ?_⟩
        refine ih h.tail hes' hnodup' (h.keeps hmem hfirst hs) ?_
        intro t ht done a todo hsplit s' hs' hview
        rcases List.mem_append.mp ht with htpre | httail
        · have hthreads := List.mem_append_left ((k, e :: l) :: post) htpre
          rw [hother t hthreads (hpre t htpre)] at hview
          exact hP t hthreads done a todo hsplit s' hs' hview
        · rcases List.mem_cons.mp httail with rfl | htpost
          · refine hP _ hmem (e :: done) a todo (congrArg (e :: ·) hsplit) s' hs' ?_
            rw [hview, (h.own hmem hfirst hs).1]
            rfl
          · have hthreads : t ∈ pre ++ (k, e :: l) :: post :=
              List.mem_append_right _ (List.mem_cons_of_mem _ htpost)
            rw [hother t hthreads (hpost t htpost)] at hview
            exact hP t hthreads done a todo hsplit s' hs' hview

/-- At the end every thread sees what it sees after its own events. -/
theorem view_runEvents
    {threads : List (κ × List ε)}
    {s : σ}
    {es : List ε}
    (h : Independent step view act good threads)
    (hes : Interleaving (threads.map Prod.snd) es)
    (hnodup : (threads.map Prod.fst).Nodup)
    (hs : good s) :
    good (runEvents step s es) ∧
      ∀ t ∈ threads,
        view t.1 (runEvents step s es) = runEvents (act t.1) (view t.1 s) t.2 := by
  induction es generalizing threads s with
  | nil =>
      refine ⟨hs, ?_⟩
      intro t ht
      rcases interleaving_cases hes hnodup with ⟨_, hempty⟩ | hcons
      · rw [hempty t ht]
        rfl
      · obtain ⟨_, _, _, _, _, _, _, heq, _⟩ := hcons
        cases heq
  | cons e es ih =>
      rcases interleaving_cases hes hnodup with ⟨hnil, _⟩ | hcons
      · cases hnil
      · obtain ⟨pre, k, a, l, post, es', rfl, heq, hes', hnodup', hpre, hpost⟩ := hcons
        cases heq
        have hmem : (k, e :: l) ∈ pre ++ (k, e :: l) :: post :=
          List.mem_append_right _ List.mem_cons_self
        have hfirst : e ∈ (k, e :: l).2 := List.mem_cons_self
        obtain ⟨hgood, hviews⟩ := ih h.tail hes' hnodup' (h.keeps hmem hfirst hs)
        refine ⟨hgood, ?_⟩
        intro t ht
        rcases List.mem_append.mp ht with htpre | httail
        · rw [runEvents, hviews t (List.mem_append_left _ htpre),
            h.other hmem ht (hpre t htpre) hfirst hs]
        · rcases List.mem_cons.mp httail with rfl | htpost
          · have hk := hviews (k, l) (List.mem_append_right _ List.mem_cons_self)
            simp only [runEvents] at hk ⊢
            rw [hk, (h.own hmem hfirst hs).1]
          · rw [runEvents,
              hviews t (List.mem_append_right _ (List.mem_cons_of_mem _ htpost)),
              h.other hmem ht (hpost t htpost) hfirst hs]

/-- The outputs are those of the threads alone, in some order. -/
theorem outputs_perm
    {threads : List (κ × List ε)}
    {s : σ}
    {es : List ε}
    (h : Independent step view act good threads)
    (hes : Interleaving (threads.map Prod.snd) es)
    (hnodup : (threads.map Prod.fst).Nodup)
    (hs : good s) :
    (outputsOf step s es).Perm
      (threads.flatMap (fun t => outputsOf (act t.1) (view t.1 s) t.2)) := by
  induction es generalizing threads s with
  | nil =>
      rcases interleaving_cases hes hnodup with ⟨_, hempty⟩ | hcons
      · have hnone : threads.flatMap (fun t => outputsOf (act t.1) (view t.1 s) t.2) = [] := by
          rw [List.flatMap_eq_nil_iff]
          intro t ht
          rw [hempty t ht]
          rfl
        rw [hnone]
        exact List.Perm.refl _
      · obtain ⟨_, _, _, _, _, _, _, heq, _⟩ := hcons
        cases heq
  | cons e es ih =>
      rcases interleaving_cases hes hnodup with ⟨hnil, _⟩ | hcons
      · cases hnil
      · obtain ⟨pre, k, a, l, post, es', rfl, heq, hes', hnodup', hpre, hpost⟩ := hcons
        cases heq
        have hmem : (k, e :: l) ∈ pre ++ (k, e :: l) :: post :=
          List.mem_append_right _ List.mem_cons_self
        have hfirst : e ∈ (k, e :: l).2 := List.mem_cons_self
        obtain ⟨hview, hout⟩ := h.own hmem hfirst hs
        have hrest := ih h.tail hes' hnodup' (h.keeps hmem hfirst hs)
        have hsame : ∀ part : List (κ × List ε),
            (∀ t ∈ part, t ∈ pre ++ (k, e :: l) :: post ∧ t.1 ≠ k) →
            part.flatMap (fun t => outputsOf (act t.1) (view t.1 (step s e).1) t.2) =
              part.flatMap (fun t => outputsOf (act t.1) (view t.1 s) t.2) := by
          intro part hpart
          refine List.flatMap_congr ?_
          intro t ht
          rw [h.other hmem (hpart t ht).1 (hpart t ht).2 hfirst hs]
        have hpreSame := hsame pre fun t ht => ⟨List.mem_append_left _ ht, hpre t ht⟩
        have hpostSame := hsame post fun t ht =>
          ⟨List.mem_append_right _ (List.mem_cons_of_mem _ ht), hpost t ht⟩
        simp only [List.flatMap_append, List.flatMap_cons, outputsOf] at hrest ⊢
        rw [hpreSame, hpostSame, hview] at hrest
        rw [hout]
        refine (List.Perm.append_left _ hrest).trans ?_
        rw [← List.append_assoc, ← List.append_assoc, ← List.append_assoc, ← List.append_assoc]
        refine List.Perm.append_right _ ?_
        rw [List.append_assoc, List.append_assoc]
        refine (List.perm_append_comm_assoc _ _ _).trans ?_
        exact List.Perm.refl _

end Independent

end Lib
end SakuraNetwork

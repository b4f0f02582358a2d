import Mathlib.Tactic.Common

/-!
# Reading an inbox

A receiver reads the messages of its inbox in order, and each of them may change the
state in which the next one is read.

* `Fits`: every message is good for the state in which it is read.
* `fits_append`: what is added at the end is read last.
* `foldl_of_inert`: messages that change no state can be left out.
* `Behind`: some messages are only read when one of another kind was read.
-/

namespace SakuraNetwork
namespace Lib

universe u v

section Inbox

variable {κ : Type u} {μ : Type v} (next : κ → μ → κ) (good : κ → μ → Prop)

/-- Every message is good for the state in which it is read. -/
def Fits : κ → List μ → Prop
  | _, [] => True
  | s, m :: inbox => good s m ∧ Fits (next s m) inbox

@[simp] theorem fits_nil (s : κ) : Fits next good s [] :=
  trivial

@[simp] theorem fits_cons
    (s : κ)
    (m : μ)
    (inbox : List μ) :
    Fits next good s (m :: inbox) ↔ good s m ∧ Fits next good (next s m) inbox :=
  Iff.rfl

theorem fits_append
    (s : κ)
    (inbox more : List μ) :
    Fits next good s (inbox ++ more) ↔
      Fits next good s inbox ∧ Fits next good (inbox.foldl next s) more := by
  induction inbox generalizing s with
  | nil =>
      simp
  | cons m inbox ih =>
      rw [List.cons_append, fits_cons, fits_cons, ih, List.foldl_cons, and_assoc]

variable {next good}

/-- Messages that are good for every state fit. -/
theorem fits_of_forall
    {inbox : List μ}
    (h : ∀ m ∈ inbox, ∀ s, good s m)
    (s : κ) :
    Fits next good s inbox := by
  induction inbox generalizing s with
  | nil =>
      exact trivial
  | cons m inbox ih =>
      exact ⟨h m List.mem_cons_self s, ih (fun m' hm' => h m' (List.mem_cons_of_mem m hm')) _⟩

/-- Only the messages that may change the state count for the state at the end. -/
theorem foldl_of_inert
    {changes : μ → Bool}
    (h : ∀ s m, changes m = false → next s m = s)
    (inbox : List μ)
    (s : κ) :
    inbox.foldl next s = (inbox.filter changes).foldl next s := by
  induction inbox generalizing s with
  | nil =>
      rfl
  | cons m inbox ih =>
      rw [List.foldl_cons, ih, List.filter_cons]
      split
      · rw [List.foldl_cons]
      · rename_i hinert
        rw [h s m ((Bool.not_eq_true _).mp hinert)]

end Inbox

section Behind

variable {μ : Type v} {opens late : μ → Prop} {inbox more : List μ} {m : μ}

/-- Before every message that is late stands one that opens. -/
def Behind (opens late : μ → Prop) (inbox : List μ) : Prop :=
  ∀ before m after, inbox = before ++ m :: after → late m → ∃ o ∈ before, opens o

/-- Where no message is late, there is nothing to show. -/
theorem behind_of_forall (h : ∀ m ∈ inbox, ¬ late m) : Behind opens late inbox := by
  intro before m after hsplit hlate
  refine absurd hlate (h m ?_)
  rw [hsplit]
  exact List.mem_append_right before List.mem_cons_self

/-- What is added is not late, or the inbox has been opened. -/
theorem Behind.append
    (h : Behind opens late inbox)
    (hmore : (∃ o ∈ inbox, opens o) ∨ ∀ m ∈ more, ¬ late m) :
    Behind opens late (inbox ++ more) := by
  intro before m after hsplit hlate
  rcases List.append_eq_append_iff.mp hsplit with ⟨between, rfl, hmid⟩ | ⟨between, hmid, hrest⟩
  · -- the message is one of those added
    rcases hmore with ⟨o, ho, hopens⟩ | hnone
    · exact ⟨o, List.mem_append_left between ho, hopens⟩
    · refine absurd hlate (hnone m ?_)
      rw [hmid]
      exact List.mem_append_right between List.mem_cons_self
  · cases between with
    | nil =>
        rw [List.append_nil] at hmid
        rw [List.nil_append] at hrest
        rcases hmore with ⟨o, ho, hopens⟩ | hnone
        · exact ⟨o, hmid ▸ ho, hopens⟩
        · exact absurd hlate (hnone m (hrest ▸ List.mem_cons_self))
    | cons m' between =>
        rw [List.cons_append] at hrest
        obtain ⟨rfl, -⟩ := List.cons.inj hrest
        exact h before m between hmid hlate

/-- The first message is not late, unless it opens. -/
theorem Behind.of_cons
    (h : Behind opens late (m :: inbox))
    (hm : ¬ opens m) :
    ¬ late m ∧ Behind opens late inbox := by
  constructor
  · intro hlate
    obtain ⟨o, ho, _⟩ := h [] m inbox rfl hlate
    cases ho
  · intro before m' after hsplit hlate
    obtain ⟨o, ho, hopens⟩ := h (m :: before) m' after (by rw [hsplit]; rfl) hlate
    rcases List.mem_cons.mp ho with rfl | ho
    · exact absurd hopens hm
    · exact ⟨o, ho, hopens⟩

end Behind

end Lib
end SakuraNetwork

import Mathlib.Data.List.Basic
import Mathlib.Tactic.Common

/-!
# First-in-first-out channels

A channel hands over what was sent in the order it was sent.  While it is reliable nothing
is lost; afterwards what is in flight may be dropped, and what arrived stays a beginning of
what was sent.

* `Channel`: what was sent, what was received, and what is in flight.
* `Channel.send`, `Channel.receive`, `Channel.drop`: the steps of a channel.
* `Channel.received_eq`: a reliable channel with nothing in flight has handed over all.
-/

namespace SakuraNetwork
namespace Lib

universe u

/-- The state of a channel. -/
structure Channel
    {μ : Type u}
    (sent received flying : List μ)
    (reliable : Prop) : Prop where
  begins : received <+: sent
  ends : flying <:+ sent
  all : reliable → received ++ flying = sent

namespace Channel

variable {μ : Type u} {sent received flying : List μ} {reliable reliable' : Prop}

theorem nil : Channel ([] : List μ) [] [] reliable :=
  ⟨List.prefix_refl [], List.suffix_refl [], fun _ => rfl⟩

/-- What is sent flies behind everything else. -/
theorem send
    (h : Channel sent received flying reliable)
    (more : List μ) :
    Channel (sent ++ more) received (flying ++ more) reliable := by
  refine ⟨h.begins.trans (List.prefix_append sent more), ?_, ?_⟩
  · obtain ⟨before, hbefore⟩ := h.ends
    exact ⟨before, by rw [← List.append_assoc, hbefore]⟩
  · intro hreliable
    rw [← List.append_assoc, h.all hreliable]

/-- The next in flight is received. -/
theorem receive
    {m : μ}
    (h : Channel sent received (m :: flying) reliable)
    (hreliable : reliable) :
    Channel sent (received ++ [m]) flying reliable := by
  have hall : (received ++ [m]) ++ flying = sent := by
    rw [List.append_assoc]
    exact h.all hreliable
  exact ⟨⟨flying, hall⟩, (List.suffix_cons m flying).trans h.ends, fun _ => hall⟩

/-- An unreliable channel loses the next in flight. -/
theorem drop
    {m : μ}
    (h : Channel sent received (m :: flying) reliable)
    (hlost : ¬ reliable) :
    Channel sent received flying reliable :=
  ⟨h.begins, (List.suffix_cons m flying).trans h.ends, fun hreliable => absurd hreliable hlost⟩

/-- A channel may become unreliable at any time. -/
theorem weaken
    (h : Channel sent received flying reliable)
    (himp : reliable' → reliable) :
    Channel sent received flying reliable' :=
  ⟨h.begins, h.ends, fun hreliable => h.all (himp hreliable)⟩

/-- A channel over which nothing was sent may become reliable. -/
theorem of_nothing_sent
    (h : Channel sent received flying reliable)
    (hsent : sent = []) :
    Channel sent received flying reliable' := by
  subst hsent
  rw [List.prefix_nil.mp h.begins, List.suffix_nil.mp h.ends]
  exact nil

theorem received_eq
    (h : Channel sent received [] reliable)
    (hreliable : reliable) :
    received = sent := by
  rw [← h.all hreliable, List.append_nil]

end Channel

end Lib
end SakuraNetwork

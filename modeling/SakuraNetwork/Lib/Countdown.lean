import SakuraNetwork.Lib.Amortised
import Mathlib.Data.List.Perm.Basic
import Mathlib.Data.List.Nodup

/-!
# Entries that wait in one list

Entries with unique keys wait in a list.  A timer step brings each of them closer to its
end, or passes it over because another entry was removed.  An entry then waits for its own
steps, and for one more step for every other entry.

* `due`: the steps an entry may wait for.
* `CountsDown`: what the timer steps and the other steps do to the list.
* `CountsDown.waited_le`: along every run, the timer steps that find an entry are at most
  its own steps, the other entries, and those that were added meanwhile.
-/

namespace SakuraNetwork
namespace Lib

universe u v w x

section Due

variable {ε : Type u} {κ : Type v} [DecidableEq κ] (key : ε → κ) (rest : ε → Nat)

/-- The steps the entry of a key may wait for: its own, and one for every other entry. -/
def due (k : κ) (l : List ε) : Nat :=
  match l.find? (fun e => key e == k) with
  | none => 0
  | some e => rest e + (l.length - 1)

variable {key rest} {k : κ} {l l' : List ε}

variable (rest) in
theorem due_of_mem
    (hnodup : (l.map key).Nodup)
    {e : ε}
    (he : e ∈ l) :
    due key rest (key e) l = rest e + (l.length - 1) := by
  have hsome : l.find? (fun e' => key e' == key e) = some e := by
    cases hfind : l.find? (fun e' => key e' == key e) with
    | none =>
        have hnot := List.find?_eq_none.mp hfind e he
        exact absurd (beq_self_eq_true (key e)) hnot
    | some e' =>
        have hkey := List.find?_some hfind
        have hsame := List.inj_on_of_nodup_map hnodup (List.mem_of_find?_eq_some hfind) he
          (beq_iff_eq.mp hkey)
        rw [hsame]
  rw [due, hsome]

/-- The entry of a key, or there is none. -/
theorem due_cases (key : ε → κ) (rest : ε → Nat) (k : κ) (l : List ε) :
    (k ∉ l.map key ∧ due key rest k l = 0) ∨
      ∃ e ∈ l, key e = k ∧ due key rest k l = rest e + (l.length - 1) := by
  cases hfind : l.find? (fun e => key e == k) with
  | none =>
      refine Or.inl ⟨?_, by rw [due, hfind]⟩
      intro hmem
      obtain ⟨e, he, hkey⟩ := List.mem_map.mp hmem
      exact List.find?_eq_none.mp hfind e he (beq_iff_eq.mpr hkey)
  | some e =>
      refine Or.inr ⟨e, List.mem_of_find?_eq_some hfind, ?_, by rw [due, hfind]⟩
      exact beq_iff_eq.mp (List.find?_some (p := fun e => key e == k) hfind)

/-- Where every entry that is left waits for no more than before, all entries counted, so
does the entry of a key. -/
theorem due_le
    (hnodup : (l.map key).Nodup)
    (h : ∀ e' ∈ l', ∃ e ∈ l, key e = key e' ∧ rest e' + l'.length ≤ rest e + l.length) :
    due key rest k l' ≤ due key rest k l := by
  rcases due_cases key rest k l' with ⟨_, hzero⟩ | ⟨e', he', rfl, hdue⟩
  · rw [hzero]
    exact Nat.zero_le _
  · obtain ⟨e, he, hkey, hle⟩ := h e' he'
    have hold := due_of_mem rest hnodup he
    have hpos := List.length_pos_of_mem he
    have hpos' := List.length_pos_of_mem he'
    rw [hkey] at hold
    omega

/-- A timer step that finds the entry of a key. -/
theorem due_lt
    (hnodup : (l.map key).Nodup)
    (hrest : ∀ e ∈ l, 0 < rest e)
    (h : ∀ e' ∈ l', ∃ e ∈ l, key e = key e' ∧ rest e' + l'.length < rest e + l.length)
    (hk : k ∈ l.map key) :
    due key rest k l' < due key rest k l := by
  obtain ⟨e, he, rfl⟩ := List.mem_map.mp hk
  have hold := due_of_mem rest hnodup he
  have hpos := hrest e he
  rcases due_cases key rest (key e) l' with ⟨_, hzero⟩ | ⟨e', he', hkey', hdue⟩
  · omega
  · obtain ⟨e₀, he₀, hkey, hlt⟩ := h e' he'
    have hsame := List.inj_on_of_nodup_map hnodup he₀ he (hkey.trans hkey')
    subst hsame
    have hlength := List.length_pos_of_mem he
    have hlength' := List.length_pos_of_mem he'
    omega

variable (rest) in
/-- Each entry of another key that is added is one more to wait for. -/
theorem due_append_le
    (l : List ε)
    {new : List ε}
    (hnew : ∀ e ∈ new, key e ≠ k) :
    due key rest k (l ++ new) ≤ due key rest k l + new.length := by
  have hnone : new.find? (fun e => key e == k) = none := by
    rw [List.find?_eq_none]
    intro e he hkey
    exact hnew e he (beq_iff_eq.mp hkey)
  have hfind : (l ++ new).find? (fun e => key e == k) = l.find? (fun e => key e == k) := by
    rw [List.find?_append, hnone, Option.or_none]
  rw [due, due, hfind, List.length_append]
  split
  · exact Nat.zero_le _
  · omega

end Due

namespace TransitionSystem

variable {σ : Type u} {α : Type v} {ε : Type w} {κ : Type x} [DecidableEq κ]

/-- The states hold entries with unique keys.  A timer step brings each entry that is left
closer to its end, all entries counted; another step leaves them as they are, and adds
entries of other keys than `k`. -/
structure CountsDown
    (S : TransitionSystem σ α)
    (Inv : σ → Prop)
    (allowed : σ → α → Prop)
    (list : σ → List ε)
    (key : ε → κ)
    (rest : ε → Nat)
    (ticks : α → Bool)
    (added : σ → α → Nat)
    (k : κ) : Prop where
  keeps : ∀ {s a s'}, Inv s → allowed s a → S.step s a = some s' → Inv s'
  nodup : ∀ {s}, Inv s → ((list s).map key).Nodup
  rest_pos : ∀ {s}, Inv s → ∀ e ∈ list s, 0 < rest e
  tick : ∀ {s a s'}, Inv s → S.step s a = some s' → ticks a = true →
    ∀ e' ∈ list s', ∃ e ∈ list s, key e = key e' ∧
      rest e' + (list s').length < rest e + (list s).length
  other : ∀ {s a s'}, Inv s → allowed s a → S.step s a = some s' → ticks a = false →
    ∃ base new, list s' = base ++ new ∧ new.length ≤ added s a ∧ (∀ e ∈ new, key e ≠ k) ∧
      ∀ e' ∈ base, ∃ e ∈ list s, key e = key e' ∧
        rest e' + base.length ≤ rest e + (list s).length

variable {S : TransitionSystem σ α} {Inv : σ → Prop} {allowed : σ → α → Prop}
  {list : σ → List ε} {key : ε → κ} {rest : ε → Nat} {ticks : α → Bool}
  {added : σ → α → Nat} {k : κ}

/-- The timer steps that find an entry of the key. -/
def waited (list : σ → List ε) (key : ε → κ) (ticks : α → Bool) (k : κ) (s : σ) (a : α) : Nat :=
  if ticks a = true ∧ k ∈ (list s).map key then 1 else 0

/-- What is due pays for the timer steps, and the entries that are added bring it in. -/
theorem CountsDown.pays
    (h : S.CountsDown Inv allowed list key rest ticks added k) :
    S.Pays Inv allowed (waited list key ticks k) added (fun s => due key rest k (list s)) := by
  refine ⟨h.keeps, ?_⟩
  intro s a s' hinv hallowed hstep
  have hnodup := h.nodup hinv
  cases hticks : ticks a with
  | true =>
      have htick := h.tick hinv hstep hticks
      have hle : due key rest k (list s') ≤ due key rest k (list s) := by
        refine due_le hnodup fun e' he' => ?_
        obtain ⟨e, he, hkey, hlt⟩ := htick e' he'
        exact ⟨e, he, hkey, Nat.le_of_lt hlt⟩
      rw [waited]
      split
      · rename_i hfound
        have hlt := due_lt hnodup (h.rest_pos hinv) htick hfound.2
        omega
      · omega
  | false =>
      obtain ⟨base, new, hlist, hlength, hnew, hbase⟩ := h.other hinv hallowed hstep hticks
      have hle : due key rest k base ≤ due key rest k (list s) := due_le hnodup hbase
      have happend := due_append_le rest base hnew
      rw [waited, hticks, hlist]
      simp only [Bool.false_eq_true, false_and, if_false]
      omega

/-- An entry is found by at most as many timer steps as it has left, as there are other
entries, and as there are entries added. -/
theorem CountsDown.waited_le
    {e : ε}
    (h : S.CountsDown Inv allowed list key rest ticks added (key e))
    {s s' : σ}
    {as : List α}
    (hinv : Inv s)
    (he : e ∈ list s)
    (hallowed : S.execAllowed allowed s as)
    (hexec : S.exec s as = some s') :
    S.total (waited list key ticks (key e)) s as ≤
      rest e + ((list s).length - 1) + S.total added s as := by
  have hle := h.pays.total_le hinv hallowed hexec
  rw [due_of_mem rest (h.nodup hinv) he] at hle
  exact Nat.le_trans (Nat.le_add_right _ _) hle

end TransitionSystem

end Lib
end SakuraNetwork

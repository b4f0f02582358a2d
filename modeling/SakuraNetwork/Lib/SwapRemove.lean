import Mathlib.Data.List.Perm.Basic
import Mathlib.Data.List.Nodup
import Mathlib.Tactic.Common

/-!
# Removal from a vector by swapping with the last element

The constant-time removal from an unordered vector: the element is exchanged
with the last one and the vector is shortened by one.  The order of the
remaining elements changes, their multiset does not.

* `cons_swapRemove_perm`: the removed element and the rest are the old list.
* `takeFirst`: removal of the first element with a property.
* `withoutFirst_perm_filter`, `withoutFirst_comm`: removals by unique keys.
-/

namespace SakuraNetwork
namespace Lib

universe u v

variable {α : Type u}

/-- The vector after its element at `i` was swapped with the last and popped. -/
def swapRemove (l : List α) (i : Nat) : List α :=
  match l.getLast? with
  | none => []
  | some z => (l.set i z).dropLast

@[simp] theorem swapRemove_nil (i : Nat) :
    swapRemove ([] : List α) i = [] := rfl

/-- Removal at the end leaves what stands before it. -/
theorem swapRemove_concat_last (init : List α) (z : α) :
    swapRemove (init ++ [z]) init.length = init := by
  simp [swapRemove]

/-- Removal before the end moves the last element into the gap. -/
theorem swapRemove_concat_inner (pre post : List α) (x z : α) :
    swapRemove (pre ++ x :: (post ++ [z])) pre.length =
      pre ++ z :: post := by
  have hlast : (pre ++ x :: (post ++ [z])).getLast? = some z := by
    simp [List.getLast?_append, List.getLast?_cons]
  have hset : (pre ++ x :: (post ++ [z])).set pre.length z =
      (pre ++ z :: post) ++ [z] := by
    simp
  rw [swapRemove, hlast]
  simp only
  rw [hset, List.dropLast_concat]

/-- The removed element and the remaining ones are the old list, up to the
order. -/
theorem cons_swapRemove_perm (pre post : List α) (x : α) :
    (pre ++ x :: post).Perm
      (x :: swapRemove (pre ++ x :: post) pre.length) := by
  rcases List.eq_nil_or_concat post with rfl | ⟨post', z, rfl⟩
  · rw [swapRemove_concat_last]
    exact List.perm_append_singleton x pre
  · rw [List.concat_eq_append, swapRemove_concat_inner]
    have hz : (pre ++ z :: post').Perm (pre ++ (post' ++ [z])) :=
      List.Perm.append_left pre (List.perm_append_singleton z post').symm
    exact List.perm_middle.trans (hz.symm.cons x)

/-- The first element with property `p`, and the vector without it. -/
def takeFirst (p : α → Bool) (l : List α) : Option (α × List α) :=
  match l.findIdx? p with
  | none => none
  | some i => (l[i]?).map (fun x => (x, swapRemove l i))

/-- Nothing is taken exactly when no element has the property. -/
theorem takeFirst_eq_none_iff (p : α → Bool) (l : List α) :
    takeFirst p l = none ↔ ∀ x ∈ l, p x = false := by
  unfold takeFirst
  cases hidx : l.findIdx? p with
  | none =>
      simpa using hidx
  | some i =>
      obtain ⟨hlt, hp, _⟩ := List.findIdx?_eq_some_iff_getElem.mp hidx
      simp only [List.getElem?_eq_getElem hlt, Option.map_some]
      constructor
      · intro h
        cases h
      · intro h
        have := h l[i] (List.getElem_mem hlt)
        rw [hp] at this
        cases this

/-- The taken element stands behind elements without the property. -/
theorem takeFirst_eq_some {p : α → Bool} {l rest : List α} {x : α}
    (h : takeFirst p l = some (x, rest)) :
    ∃ pre post,
      l = pre ++ x :: post ∧
      p x = true ∧
      (∀ y ∈ pre, p y = false) ∧
      rest = swapRemove l pre.length := by
  unfold takeFirst at h
  cases hidx : l.findIdx? p with
  | none =>
      rw [hidx] at h
      cases h
  | some i =>
      rw [hidx] at h
      obtain ⟨hlt, hp, hbefore⟩ := List.findIdx?_eq_some_iff_getElem.mp hidx
      simp only [List.getElem?_eq_getElem hlt, Option.map_some,
        Option.some.injEq, Prod.mk.injEq] at h
      obtain ⟨rfl, rfl⟩ := h
      have hlen : (l.take i).length = i := by
        rw [List.length_take]
        omega
      refine ⟨l.take i, l.drop (i + 1), ?_, hp, ?_, by rw [hlen]⟩
      · rw [← List.drop_eq_getElem_cons hlt, List.take_append_drop]
      · intro y hy
        obtain ⟨j, hj, rfl⟩ := List.mem_iff_getElem.mp hy
        have hji : j < i := by
          rw [List.length_take] at hj
          omega
        rw [List.getElem_take]
        simpa using hbefore j hji

/-- The first element with the property is taken. -/
theorem takeFirst_of_split {p : α → Bool} {pre post : List α} {x : α}
    (hp : p x = true)
    (hpre : ∀ y ∈ pre, p y = false) :
    takeFirst p (pre ++ x :: post) =
      some (x, swapRemove (pre ++ x :: post) pre.length) := by
  have hidx : (pre ++ x :: post).findIdx? p = some pre.length := by
    rw [List.findIdx?_append, List.findIdx?_eq_none_iff.mpr hpre]
    simp [List.findIdx?_cons, hp]
  rw [takeFirst, hidx]
  simp

/-- The vector loses exactly the taken element. -/
theorem takeFirst_perm {p : α → Bool} {l rest : List α} {x : α}
    (h : takeFirst p l = some (x, rest)) :
    l.Perm (x :: rest) := by
  obtain ⟨pre, post, rfl, _, _, rfl⟩ := takeFirst_eq_some h
  exact cons_swapRemove_perm pre post x

theorem takeFirst_pred {p : α → Bool} {l rest : List α} {x : α}
    (h : takeFirst p l = some (x, rest)) : p x = true := by
  obtain ⟨_, _, _, hp, _, _⟩ := takeFirst_eq_some h
  exact hp

/-- What is taken is the first element with the property. -/
theorem find_of_takeFirst {p : α → Bool} {l rest : List α} {x : α}
    (h : takeFirst p l = some (x, rest)) : l.find? p = some x := by
  obtain ⟨pre, post, rfl, hp, hpre, _⟩ := takeFirst_eq_some h
  refine List.find?_eq_some_iff_append.mpr ⟨hp, pre, post, rfl, ?_⟩
  intro y hy
  simp [hpre y hy]

/-- A removal before position `n` moves nothing new behind `n`. -/
theorem mem_drop_of_mem_drop_swapRemove {l : List α} {i n : Nat} {y : α}
    (hi : i < n)
    (hy : y ∈ (swapRemove l i).drop n) :
    y ∈ l.drop n := by
  unfold swapRemove at hy
  split at hy
  · simp at hy
  · rename_i z _
    rw [← List.drop_set_of_lt (a := z) (l := l) hi]
    obtain ⟨k, hk, rfl⟩ := List.mem_iff_getElem.mp hy
    rw [List.length_drop, List.length_dropLast] at hk
    rw [List.getElem_drop, List.getElem_dropLast, ← List.getElem_drop]
    · exact List.getElem_mem _
    · rw [List.length_drop]
      omega

/-- Behind an element with the property, a removal of the first such element
leaves only what stood there. -/
theorem mem_drop_of_takeFirst {p : α → Bool} {l rest : List α} {x y : α} {i : Nat}
    (h : takeFirst p l = some (x, rest))
    (hi : i < l.length)
    (hp : p l[i] = true)
    (hy : y ∈ rest.drop (i + 1)) :
    y ∈ l.drop (i + 1) := by
  obtain ⟨pre, post, rfl, _, hpre, rfl⟩ := takeFirst_eq_some h
  refine mem_drop_of_mem_drop_swapRemove ?_ hy
  by_contra hlt
  have hin : i < pre.length := by omega
  rw [List.getElem_append_left hin, hpre _ (List.getElem_mem hin)] at hp
  cases hp

/-- Where at most one element has the property, it is the one that is taken. -/
theorem takeFirst_unique {p : α → Bool} {l : List α} {x : α}
    (hx : x ∈ l) (hp : p x = true)
    (huniq : ∀ y ∈ l, p y = true → y = x) :
    ∃ rest, takeFirst p l = some (x, rest) := by
  cases h : takeFirst p l with
  | none =>
      rw [takeFirst_eq_none_iff] at h
      rw [h x hx] at hp
      cases hp
  | some found =>
      obtain ⟨y, rest⟩ := found
      have hy : y ∈ l := (takeFirst_perm h).mem_iff.mpr List.mem_cons_self
      have hyx : y = x := huniq y hy (takeFirst_pred h)
      exact ⟨rest, by rw [hyx]⟩

theorem swapRemove_map {β : Type u} (f : α → β) (l : List α) (i : Nat) :
    swapRemove (l.map f) i = (swapRemove l i).map f := by
  unfold swapRemove
  rw [List.getLast?_map]
  cases l.getLast? with
  | none =>
      rfl
  | some z =>
      simp only [Option.map_some]
      rw [← List.map_set, List.map_dropLast]

/-- A removal from the images removes the image. -/
theorem takeFirst_map {β : Type u} (f : α → β) (p : β → Bool) (l : List α) :
    takeFirst p (l.map f) =
      (takeFirst (fun x => p (f x)) l).map (fun found => (f found.1, found.2.map f)) := by
  unfold takeFirst
  rw [List.findIdx?_map]
  change (match l.findIdx? (fun x => p (f x)) with
    | none => none
    | some i => ((l.map f)[i]?).map (fun x => (x, swapRemove (l.map f) i))) = _
  cases l.findIdx? (fun x => p (f x)) with
  | none =>
      rfl
  | some i =>
      simp only [List.getElem?_map, swapRemove_map, Option.map_map]
      rfl

/-- The vector without its first element with the property, if there is one. -/
def withoutFirst (p : α → Bool) (l : List α) : List α :=
  match takeFirst p l with
  | none => l
  | some (_, rest) => rest

theorem withoutFirst_of_none
    {p : α → Bool}
    {l : List α}
    (h : takeFirst p l = none) :
    withoutFirst p l = l := by
  rw [withoutFirst, h]

theorem withoutFirst_of_some
    {p : α → Bool}
    {l rest : List α}
    {x : α}
    (h : takeFirst p l = some (x, rest)) :
    withoutFirst p l = rest := by
  rw [withoutFirst, h]

theorem withoutFirst_map {β : Type u} (f : α → β) (p : β → Bool) (l : List α) :
    withoutFirst p (l.map f) = (withoutFirst (fun x => p (f x)) l).map f := by
  rw [withoutFirst, withoutFirst, takeFirst_map]
  cases takeFirst (fun x => p (f x)) l with
  | none =>
      rfl
  | some found =>
      rfl

theorem mem_of_mem_withoutFirst {p : α → Bool} {l : List α} {x : α}
    (h : x ∈ withoutFirst p l) :
    x ∈ l := by
  unfold withoutFirst at h
  cases htake : takeFirst p l with
  | none =>
      rwa [htake] at h
  | some found =>
      rw [htake] at h
      exact (takeFirst_perm htake).mem_iff.mpr (List.mem_cons_of_mem _ h)

/-- What is left is the list but for at most one element. -/
theorem withoutFirst_subperm (p : α → Bool) (l : List α) :
    (withoutFirst p l).Subperm l := by
  unfold withoutFirst
  cases htake : takeFirst p l with
  | none =>
      exact List.Subperm.refl l
  | some found =>
      exact ((List.sublist_cons_self found.1 found.2).subperm).trans
        (takeFirst_perm htake).symm.subperm

section Keys

variable {κ : Type v} [DecidableEq κ] {key : α → κ} {l : List α}

/-- With unique keys the one element of the key is removed, whatever its place. -/
theorem withoutFirst_perm_filter (hnodup : (l.map key).Nodup) (k : κ) :
    (withoutFirst (fun x => key x == k) l).Perm (l.filter (fun x => !(key x == k))) := by
  unfold withoutFirst
  cases htake : takeFirst (fun x => key x == k) l with
  | none =>
      have hall : l.filter (fun x => !(key x == k)) = l := by
        rw [List.filter_eq_self]
        intro x hx
        rw [(takeFirst_eq_none_iff _ l).mp htake x hx]
        rfl
      rw [hall]
  | some found =>
      obtain ⟨x, rest⟩ := found
      have hperm := takeFirst_perm htake
      have hkey : (key x == k) = true := takeFirst_pred (p := fun x => key x == k) htake
      have hrest : ∀ y ∈ rest, (key y == k) = false := by
        intro y hy
        have hunique := (hperm.map key).nodup_iff.mp hnodup
        rw [List.map_cons, List.nodup_cons] at hunique
        rw [beq_eq_false_iff_ne]
        intro hsame
        rw [← beq_iff_eq.mp hkey] at hsame
        exact hunique.1 (List.mem_map.mpr ⟨y, hy, hsame⟩)
      have hfilter : (x :: rest).filter (fun y => !(key y == k)) = rest := by
        rw [List.filter_cons_of_neg (by simp [hkey]), List.filter_eq_self]
        intro y hy
        rw [hrest y hy]
        rfl
      have hleft := hperm.filter (fun y => !(key y == k))
      rw [hfilter] at hleft
      exact hleft.symm

omit [DecidableEq κ] in
theorem nodup_withoutFirst (hnodup : (l.map key).Nodup) (p : α → Bool) :
    ((withoutFirst p l).map key).Nodup := by
  obtain ⟨kept, hperm, hsublist⟩ := withoutFirst_subperm p l
  exact (hperm.map key).nodup_iff.mp ((hsublist.map key).nodup hnodup)

/-- With unique keys, removals of two keys commute up to the order. -/
theorem withoutFirst_comm (hnodup : (l.map key).Nodup) (k k' : κ) :
    (withoutFirst (fun x => key x == k') (withoutFirst (fun x => key x == k) l)).Perm
      (withoutFirst (fun x => key x == k) (withoutFirst (fun x => key x == k') l)) := by
  have htwice : ∀ j j', (withoutFirst (fun x => key x == j')
      (withoutFirst (fun x => key x == j) l)).Perm
        ((l.filter (fun x => !(key x == j))).filter (fun x => !(key x == j'))) :=
    fun j j' => (withoutFirst_perm_filter (nodup_withoutFirst hnodup _) j').trans
      ((withoutFirst_perm_filter hnodup j).filter _)
  refine (htwice k k').trans (List.Perm.trans ?_ (htwice k' k).symm)
  rw [List.filter_filter, List.filter_filter]
  have hsame : (fun x => !(key x == k') && !(key x == k)) =
      (fun x => !(key x == k) && !(key x == k')) := by
    funext x
    exact Bool.and_comm _ _
  rw [hsame]

end Keys

end Lib
end SakuraNetwork

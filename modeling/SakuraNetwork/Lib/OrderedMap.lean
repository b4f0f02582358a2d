import Mathlib.Data.List.AList

/-!
# Finite maps with the operations of `std::map`

The map is Mathlib's association list with distinct keys.  Only the operations
differ: `emplace` keeps an element that is already present, `modify` changes
the value behind an iterator, `remove` erases by key.  Each of them is
described by what `find` returns afterwards.
-/

namespace SakuraNetwork
namespace Lib

universe u v

/-- A finite map from `κ` to `ν` with distinct keys. -/
abbrev OrderedMap (κ : Type u) (ν : Type v) := AList (fun _ : κ => ν)

namespace OrderedMap

variable {κ : Type u} {ν : Type v} [DecidableEq κ]

/-- `std::map::find`. -/
def find (m : OrderedMap κ ν) (k : κ) : Option ν :=
  m.lookup k

/-- `std::map::insert`: an element that is already present is kept. -/
def emplace (m : OrderedMap κ ν) (k : κ) (x : ν) : OrderedMap κ ν :=
  if (m.find k).isSome then m else AList.insert k x m

/-- Change of the value behind the iterator of `k`, if there is one. -/
def modify (m : OrderedMap κ ν) (k : κ) (f : ν → ν) : OrderedMap κ ν :=
  match m.find k with
  | some x => AList.insert k (f x) m
  | none => m

/-- `std::map::erase` by key. -/
def remove (m : OrderedMap κ ν) (k : κ) : OrderedMap κ ν :=
  m.erase k

@[simp] theorem find_empty (k : κ) :
    find (∅ : OrderedMap κ ν) k = none := by
  simp [find]

/-- What is found after an insertion. -/
theorem find_emplace (m : OrderedMap κ ν) (k j : κ) (x : ν) :
    (m.emplace k x).find j =
      if j = k ∧ m.find k = none then some x else m.find j := by
  unfold emplace
  cases hk : m.find k with
  | some y =>
      simp
  | none =>
      by_cases hj : j = k
      · subst j
        simp [find]
      · simp [find, hj]

/-- What is found after the value of `k` was changed. -/
theorem find_modify (m : OrderedMap κ ν) (k j : κ) (f : ν → ν) :
    (m.modify k f).find j =
      if j = k then (m.find k).map f else m.find j := by
  unfold modify
  cases hk : m.find k with
  | some x =>
      by_cases hj : j = k
      · subst j
        simp [find]
      · simp [find, hj]
  | none =>
      by_cases hj : j = k
      · subst j
        simp [hk]
      · simp [hj]

/-- What is found after `k` was erased. -/
theorem find_remove (m : OrderedMap κ ν) (k j : κ) :
    (m.remove k).find j = if j = k then none else m.find j := by
  by_cases hj : j = k
  · subst j
    simp [find, remove]
  · simp [find, remove, hj]

/-- What is found after an erasure was there before. -/
theorem find_of_find_remove {m : OrderedMap κ ν} {k j : κ} {x : ν}
    (h : (m.remove k).find j = some x) :
    m.find j = some x := by
  rw [find_remove] at h
  split at h
  · cases h
  · exact h

/-- A map without any findable key is empty. -/
theorem eq_empty_of_find (m : OrderedMap κ ν)
    (h : ∀ k, m.find k = none) : m = ∅ := by
  apply AList.ext
  rw [AList.empty_entries]
  cases hentries : m.entries with
  | nil =>
      rfl
  | cons e rest =>
      have hmem : e.1 ∈ m := by
        rw [AList.mem_keys, AList.keys, hentries]
        exact List.mem_cons_self
      have hnone := h e.1
      rw [find, AList.lookup_eq_none] at hnone
      exact absurd hmem hnone

end OrderedMap

end Lib
end SakuraNetwork

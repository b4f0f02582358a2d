import Mathlib.Data.List.Nodup
import Mathlib.Tactic.Common

/-!
# Custody of numbered resources

Resources are numbered in the order in which they are created.  A list names what is
held, once for each holder.  What is neither held nor was given up on purpose is
dropped: nobody can reach it any more.

* `Accounts.change`, `Accounts.create`: a step that moves resources between holders, and
  one that creates a resource.
* `Accounts.count_eq_one`: where nothing was dropped, each resource has one holder.
* `Accounts.nothing_dropped`: a resource of every number with one holder each.
-/

namespace SakuraNetwork
namespace Lib

/-- Each of the first `n` resources is either held once or was dropped once. -/
def Accounts (held dropped : List Nat) (n : Nat) : Prop :=
  (held ++ dropped).Perm (List.range n)

namespace Accounts

variable {held held' dropped lost : List Nat} {n r : Nat}

theorem empty : Accounts [] [] 0 :=
  List.Perm.refl _

/-- Resources move to other holders, and some are dropped. -/
theorem change
    (h : Accounts held dropped n)
    (hmoved : (held' ++ lost).Perm held) :
    Accounts held' (lost ++ dropped) n := by
  unfold Accounts
  rw [← List.append_assoc]
  exact (hmoved.append_right dropped).trans h

/-- A resource is created, too. -/
theorem create
    (h : Accounts held dropped n)
    (hmoved : (held' ++ lost).Perm (n :: held)) :
    Accounts held' (lost ++ dropped) (n + 1) := by
  unfold Accounts
  rw [← List.append_assoc, List.range_succ]
  have hnew : (n :: held ++ dropped).Perm (List.range n ++ [n]) := by
    rw [List.cons_append]
    exact (h.cons n).trans (List.perm_append_singleton n (List.range n)).symm
  exact (hmoved.append_right dropped).trans hnew

/-- No resource has two holders. -/
theorem nodup (h : Accounts held dropped n) : held.Nodup :=
  (List.nodup_append.mp (h.nodup_iff.mpr List.nodup_range)).1

/-- Only what was created is held. -/
theorem lt
    (h : Accounts held dropped n)
    (hr : r ∈ held) :
    r < n :=
  List.mem_range.mp (h.mem_iff.mp (List.mem_append_left dropped hr))

theorem count_eq_one
    (h : Accounts held [] n)
    (hr : r < n) :
    held.count r = 1 := by
  have hmem : r ∈ held ++ [] := h.mem_iff.mpr (List.mem_range.mpr hr)
  rw [List.append_nil] at hmem
  rw [h.nodup.count, if_pos hmem]

theorem nothing_dropped
    (h : Accounts held dropped n)
    (hone : ∀ r < n, held.count r = 1) :
    dropped = [] := by
  refine List.eq_nil_iff_forall_not_mem.mpr ?_
  intro r hr
  have hlt : r < n := List.mem_range.mp (h.mem_iff.mp (List.mem_append_right held hr))
  have htotal := List.nodup_iff_count_le_one.mp (h.nodup_iff.mpr List.nodup_range) r
  have hdropped := List.count_pos_iff.mpr hr
  have hheld := hone r hlt
  rw [List.count_append] at htotal
  omega

end Accounts

end Lib
end SakuraNetwork

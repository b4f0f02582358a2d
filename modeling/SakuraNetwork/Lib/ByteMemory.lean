import Mathlib.Algebra.Group.Nat.Defs
import Mathlib.Data.Nat.Basic
import Mathlib.Data.List.GetD
import Mathlib.Tactic.Common

/-!
# Byte memory with little-endian words

A memory is a total function from byte offsets to bytes.  A program that
assembles a message in a local buffer is a sequence of `store`s over the
memory it finds; a program that decodes one is a sequence of `slice`s and
`word`s.  The lemmas say what a read sees after a store: the stored bytes at
the stored place, the old bytes at every disjoint place.

* `ofLE_toLE`: the little-endian bytes of a number denote the number.
* `slice_store_same`, `slice_store_before`, `slice_store_after`: one read over
  one store.
* `word_store_same`: a stored word is read back.
* `slice_storeAll_iff`: a read is independent of the old memory exactly where
  something was stored.
* `slice_store_slice_append`: a memory image copied to the front of another
  memory is read there as in its own memory.
-/

namespace SakuraNetwork
namespace Lib

/-- A finite sequence of bytes. -/
abbrev Bytes := List UInt8

/-- The `width` little-endian bytes of a number. -/
def toLE : Nat → Nat → Bytes
  | 0, _ => []
  | width + 1, n => UInt8.ofNat n :: toLE width (n / 256)

/-- The number denoted by little-endian bytes. -/
def ofLE : Bytes → Nat
  | [] => 0
  | b :: bs => b.toNat + 256 * ofLE bs

@[simp] theorem toLE_length (width n : Nat) :
    (toLE width n).length = width := by
  induction width generalizing n with
  | zero =>
      rfl
  | succ width ih =>
      simp [toLE, ih]

/-- Decoding the bytes of a number gives it back modulo the word size. -/
theorem ofLE_toLE_mod (width n : Nat) :
    ofLE (toLE width n) = n % 256 ^ width := by
  induction width generalizing n with
  | zero =>
      simp [toLE, ofLE, Nat.mod_one]
  | succ width ih =>
      have hbyte : (UInt8.ofNat n).toNat = n % 256 := by
        simp [UInt8.toNat_ofNat']
      simp only [toLE, ofLE, hbyte, ih]
      rw [Nat.pow_succ, Nat.mul_comm (256 ^ width) 256, Nat.mod_mul]

/-- A number that fits its word is denoted by its bytes. -/
theorem ofLE_toLE {width n : Nat}
    (hfits : n < 256 ^ width) :
    ofLE (toLE width n) = n := by
  rw [ofLE_toLE_mod, Nat.mod_eq_of_lt hfits]

/-- The number denoted by some bytes fits a word of that many bytes. -/
theorem ofLE_lt (bs : Bytes) : ofLE bs < 256 ^ bs.length := by
  induction bs with
  | nil =>
      simp [ofLE]
  | cons b bs ih =>
      have hb : b.toNat < 256 := b.toNat_lt
      have hstep : 256 ^ (b :: bs).length = 256 * 256 ^ bs.length := by
        rw [List.length_cons, Nat.pow_succ, Nat.mul_comm]
      simp only [ofLE]
      omega

/-- A memory: one byte at every offset. -/
abbrev Memory := Nat → UInt8

namespace Memory

/-- `memcpy` of `bs` to offset `off`. -/
def store (m : Memory) (off : Nat) (bs : Bytes) : Memory :=
  fun i => if off ≤ i ∧ i < off + bs.length then bs.getD (i - off) 0 else m i

/-- The `len` bytes from offset `off` on. -/
def slice (m : Memory) (off len : Nat) : Bytes :=
  (List.range len).map (fun i => m (off + i))

/-- The little-endian word of `width` bytes at offset `off`. -/
def word (m : Memory) (off width : Nat) : Nat :=
  ofLE (m.slice off width)

@[simp] theorem slice_length (m : Memory) (off len : Nat) :
    (m.slice off len).length = len := by
  simp [slice]

@[simp] theorem slice_zero (m : Memory) (off : Nat) :
    m.slice off 0 = [] := rfl

theorem slice_getD (m : Memory) (off len i : Nat) (hi : i < len) :
    (m.slice off len).getD i 0 = m (off + i) := by
  have hlen : i < (m.slice off len).length := by simpa using hi
  rw [List.getD_eq_getElem _ _ hlen]
  simp [slice]

/-- Two reads of one place agree when the memories agree there. -/
theorem slice_congr {m m' : Memory} {off off' len : Nat}
    (h : ∀ i, i < len → m (off + i) = m' (off' + i)) :
    m.slice off len = m'.slice off' len := by
  refine List.map_congr_left ?_
  intro i hi
  exact h i (List.mem_range.mp hi)

/-- A read of adjacent places is the concatenation of the two reads. -/
theorem slice_add (m : Memory) (off a b : Nat) :
    m.slice off (a + b) = m.slice off a ++ m.slice (off + a) b := by
  unfold slice
  rw [List.range_add, List.map_append, List.map_map]
  congr 1
  refine List.map_congr_left ?_
  intro i _
  simp [Nat.add_assoc]

theorem store_apply_of_lt (m : Memory) (off : Nat) (bs : Bytes) {i : Nat} (h : i < off) :
    m.store off bs i = m i := by
  have hcond : ¬ (off ≤ i ∧ i < off + bs.length) := by omega
  simp only [store, if_neg hcond]

/-- A read of exactly the stored place gives the stored bytes. -/
@[simp] theorem slice_store_same (m : Memory) (off : Nat) (bs : Bytes) :
    (m.store off bs).slice off bs.length = bs := by
  refine List.ext_getElem (by simp) ?_
  intro i hi hi'
  have hcond : off ≤ off + i ∧ off + i < off + bs.length := by omega
  simp [slice, store, hi']

/-- A read inside the stored place gives the corresponding stored bytes. -/
theorem slice_store_inside (m : Memory) (off : Nat) (bs : Bytes) {o len : Nat}
    (hlo : off ≤ o) (hhi : o + len ≤ off + bs.length) :
    (m.store off bs).slice o len = (bs.drop (o - off)).take len := by
  refine List.ext_getElem (by simp; omega) ?_
  intro i hi hi'
  have hlen : i < len := by simpa using hi
  have hcond : off ≤ o + i ∧ o + i < off + bs.length := by omega
  have hidx : o + i - off = o - off + i := by omega
  have hin : o - off + i < bs.length := by omega
  simp [slice, store, hcond, hidx, hin]

/-- A read before the stored place sees the old memory. -/
theorem slice_store_before (m : Memory) (off : Nat) (bs : Bytes) {o len : Nat}
    (h : o + len ≤ off) :
    (m.store off bs).slice o len = m.slice o len := by
  refine slice_congr ?_
  intro i hi
  have hcond : ¬ (off ≤ o + i ∧ o + i < off + bs.length) := by omega
  simp only [store, if_neg hcond]

/-- A read after the stored place sees the old memory. -/
theorem slice_store_after (m : Memory) (off : Nat) (bs : Bytes) {o len : Nat}
    (h : off + bs.length ≤ o) :
    (m.store off bs).slice o len = m.slice o len := by
  refine slice_congr ?_
  intro i hi
  have hcond : ¬ (off ≤ o + i ∧ o + i < off + bs.length) := by omega
  simp only [store, if_neg hcond]

/-- Storing what is there changes nothing. -/
@[simp] theorem store_slice_self (m : Memory) (off len : Nat) :
    m.store off (m.slice off len) = m := by
  funext i
  rw [store, slice_length]
  by_cases hi : off ≤ i ∧ i < off + len
  · rw [if_pos hi, slice_getD m off len (i - off) (by omega)]
    rw [Nat.add_sub_cancel' hi.1]
  · rw [if_neg hi]

/-- A stored word is read back. -/
theorem word_store_same (m : Memory) (off width n : Nat)
    (hfits : n < 256 ^ width) :
    (m.store off (toLE width n)).word off width = n := by
  have hread := slice_store_same m off (toLE width n)
  rw [toLE_length] at hread
  rw [word, hread, ofLE_toLE hfits]

theorem word_store_before (m : Memory) (off : Nat) (bs : Bytes) {o width : Nat}
    (h : o + width ≤ off) :
    (m.store off bs).word o width = m.word o width := by
  rw [word, word, slice_store_before m off bs h]

theorem word_store_after (m : Memory) (off : Nat) (bs : Bytes) {o width : Nat}
    (h : off + bs.length ≤ o) :
    (m.store off bs).word o width = m.word o width := by
  rw [word, word, slice_store_after m off bs h]

theorem word_lt (m : Memory) (off width : Nat) :
    m.word off width < 256 ^ width := by
  have h := ofLE_lt (m.slice off width)
  rwa [slice_length] at h

/-- A memory image at the front of another memory is read there as in its own
memory. -/
theorem slice_store_slice_append (m img : Memory) (rest : Bytes) {size o len : Nat}
    (h : o + len ≤ size) :
    (m.store 0 (img.slice 0 size ++ rest)).slice o len = img.slice o len := by
  refine slice_congr ?_
  intro i hi
  have hin : o + i < size := by omega
  have hcond : 0 ≤ o + i ∧ o + i < 0 + (img.slice 0 size ++ rest).length := by
    simp
    omega
  simp only [store, if_pos hcond, Nat.sub_zero]
  rw [List.getD_append _ _ _ _ (by simpa using hin), slice_getD _ _ _ _ hin, Nat.zero_add]

/-! ## Several stores -/

/-- One store after the other. -/
def storeAll (m : Memory) : List (Nat × Bytes) → Memory
  | [] => m
  | (off, bs) :: rest => (m.store off bs).storeAll rest

/-- The offset lies in the place of one of the stores. -/
def Covers (writes : List (Nat × Bytes)) (i : Nat) : Prop :=
  ∃ w ∈ writes, w.1 ≤ i ∧ i < w.1 + w.2.length

@[simp] theorem covers_nil (i : Nat) : Covers [] i ↔ False := by
  simp [Covers]

@[simp] theorem covers_cons (off : Nat) (bs : Bytes) (writes : List (Nat × Bytes)) (i : Nat) :
    Covers ((off, bs) :: writes) i ↔ (off ≤ i ∧ i < off + bs.length) ∨ Covers writes i := by
  simp [Covers]

/-- Where nothing is stored, the old byte stays. -/
theorem storeAll_of_not_covers
    {writes : List (Nat × Bytes)}
    {i : Nat}
    (h : ¬ Covers writes i)
    (m : Memory) :
    m.storeAll writes i = m i := by
  induction writes generalizing m with
  | nil =>
      rfl
  | cons w writes ih =>
      obtain ⟨off, bs⟩ := w
      rw [covers_cons, not_or] at h
      rw [storeAll, ih h.2, store, if_neg h.1]

/-- Where something is stored, the old bytes do not matter. -/
theorem storeAll_of_covers
    {writes : List (Nat × Bytes)}
    {i : Nat}
    (h : Covers writes i)
    (m m' : Memory) :
    m.storeAll writes i = m'.storeAll writes i := by
  induction writes generalizing m m' with
  | nil =>
      rw [covers_nil] at h
      cases h
  | cons w writes ih =>
      obtain ⟨off, bs⟩ := w
      by_cases hrest : Covers writes i
      · exact ih hrest _ _
      · rw [covers_cons, or_iff_left hrest] at h
        rw [storeAll, storeAll, storeAll_of_not_covers hrest, storeAll_of_not_covers hrest, store,
          store, if_pos h, if_pos h]

/-- A read from the front does not depend on the old memory exactly when all of it was
stored. -/
theorem slice_storeAll_iff (writes : List (Nat × Bytes)) (len : Nat) :
    (∀ m m' : Memory, (m.storeAll writes).slice 0 len = (m'.storeAll writes).slice 0 len) ↔
      ∀ i, i < len → Covers writes i := by
  constructor
  · intro h i hi
    by_contra hnot
    have hbytes := congrArg (fun bs : Bytes => bs.getD i 0) (h (fun _ => 0) (fun _ => 1))
    simp only [slice_getD _ _ _ _ hi, Nat.zero_add, storeAll_of_not_covers hnot] at hbytes
    exact absurd hbytes (by decide)
  · intro h m m'
    refine slice_congr ?_
    intro i hi
    rw [Nat.zero_add]
    exact storeAll_of_covers (h i hi) m m'

end Memory

end Lib
end SakuraNetwork

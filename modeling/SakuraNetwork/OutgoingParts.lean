import Mathlib.Algebra.GroupWithZero.Nat
import SakuraNetwork.Session

/-!
# The parts of an outgoing multi-block message

`MultiblockIO::sendOutgoingData` computes offset, part id and number of parts in 32
bits from a size of 64 bits, for any value `M` of `MAX_SINGLE_MESSAGE_SIZE`.

* `outgoingParts_eq`: the part frames are the slices the loop computes.
* `slices_eq`: the slices in closed form.
* `slices_exact_iff`: nothing wraps exactly when the last offset and the number of
  parts are below `2 ^ 32`.
* `announced_iff`: the announced number of parts is the number of parts exactly when
  `M` does not divide the size.
-/

namespace SakuraNetwork

open Lib

namespace MultiblockIo

/-! ## The slices of the loop -/

/-- What one round of the loop sends: the part id, and where the part begins and how
long it is. -/
structure Slice where
  partId : UInt32
  offset : Nat
  size : Nat
deriving DecidableEq

/-- The rounds of the loop of `sendOutgoingData` when `totalSize` bytes are left; the
offset is a product of 32-bit values. -/
def slices {M : Nat} (hM : 0 < M) (totalSize : Nat) (partCounter : UInt32) : List Slice :=
  if h : totalSize = 0 then []
  else
    let currentMessageSize := if totalSize ≤ M then totalSize else M
    { partId := partCounter
      offset := (UInt32.ofNat M * partCounter).toNat
      size := currentMessageSize } ::
    slices hM (totalSize - currentMessageSize) (partCounter + 1)
termination_by totalSize
decreasing_by
  split <;> omega

/-- `totalPartNumber`, computed once from the size. -/
def totalPartNumber (M size : Nat) : UInt32 :=
  UInt32.ofNat (size / M) + 1

/-- The part frame of a slice. -/
def Slice.frame (M : Nat) (multiblockId : UInt64) (data : Bytes) (slice : Slice) : Body :=
  .multiStatic (UInt64.ofNat data.length) multiblockId (totalPartNumber M data.length)
    slice.partId ((data.drop slice.offset).take slice.size) 0

/-- The part frames are those of the slices. -/
theorem outgoingParts_eq
    (cfg : Config)
    (multiblockId : UInt64)
    (data : Bytes)
    (totalSize : Nat)
    (partCounter : UInt32) :
    outgoingParts cfg multiblockId data totalSize partCounter =
      (slices cfg.positive totalSize partCounter).map
        (Slice.frame cfg.maxSingleMessageSize multiblockId data) := by
  induction totalSize using Nat.strong_induction_on generalizing partCounter with
  | _ totalSize ih =>
      rw [outgoingParts, slices]
      by_cases hzero : totalSize = 0
      · simp [hzero]
      · have hpos := currentMessageSize_pos cfg hzero
        rw [dif_neg hzero, dif_neg hzero, List.map_cons]
        refine congrArg₂ List.cons rfl ?_
        exact ih _ (by omega) _

/-- The number of parts of at most `M` bytes. -/
def partCount (M size : Nat) : Nat :=
  (size + (M - 1)) / M

theorem partCount_zero {M : Nat} (hM : 0 < M) : partCount M 0 = 0 := by
  rw [partCount, Nat.zero_add]
  exact Nat.div_eq_of_lt (by omega)

/-- One part is taken off a size. -/
theorem partCount_of_ne_zero
    {M size : Nat}
    (hM : 0 < M)
    (hsize : size ≠ 0) :
    partCount M size = partCount M (size - (if size ≤ M then size else M)) + 1 := by
  split
  · rename_i hle
    rw [Nat.sub_self, partCount_zero hM, partCount]
    refine Nat.div_eq_of_lt_le ?_ ?_
    · omega
    · omega
  · rename_i hlt
    rw [partCount, partCount, ← Nat.add_div_right _ hM]
    congr 1
    omega

theorem partCount_eq
    {M size : Nat}
    (hM : 0 < M)
    (hsize : size ≠ 0) :
    partCount M size = (size - 1) / M + 1 := by
  rw [partCount, ← Nat.add_div_right _ hM]
  congr 1
  omega

/-- The slices in closed form. -/
theorem slices_eq
    {M : Nat}
    (hM : 0 < M)
    (totalSize : Nat)
    (partCounter : UInt32) :
    slices hM totalSize partCounter =
      (List.range (partCount M totalSize)).map (fun k =>
        { partId := partCounter + UInt32.ofNat k
          offset := (UInt32.ofNat M * (partCounter + UInt32.ofNat k)).toNat
          size := min M (totalSize - k * M) }) := by
  induction totalSize using Nat.strong_induction_on generalizing partCounter with
  | _ totalSize ih =>
      rw [slices]
      by_cases hzero : totalSize = 0
      · rw [dif_pos hzero, hzero, partCount_zero hM]
        rfl
      · have hsmaller : totalSize - (if totalSize ≤ M then totalSize else M) < totalSize := by
          split <;> omega
        rw [dif_neg hzero, partCount_of_ne_zero hM hzero, List.range_succ_eq_map, List.map_cons,
          List.map_map]
        simp only
        refine congrArg₂ List.cons ?_ ?_
        · have hfirst : partCounter + UInt32.ofNat 0 = partCounter := UInt32.add_zero partCounter
          rw [hfirst, Nat.zero_mul, Nat.sub_zero]
          simp only [Slice.mk.injEq, true_and]
          split <;> omega
        · rw [ih _ hsmaller]
          refine List.map_congr_left ?_
          intro k hk
          have hcounter :
              partCounter + 1 + UInt32.ofNat k = partCounter + UInt32.ofNat (k + 1) := by
            rw [UInt32.ofNat_add, UInt32.add_assoc, UInt32.add_comm 1]
            rfl
          simp only [Function.comp, Nat.succ_eq_add_one, hcounter, Slice.mk.injEq, true_and]
          rw [Nat.succ_mul]
          split
          · rename_i hle
            rw [Nat.sub_self, Nat.zero_sub]
            have : totalSize - (k * M + M) = 0 := by omega
            rw [this]
          · congr 1
            omega

theorem length_slices
    {M : Nat}
    (hM : 0 < M)
    (totalSize : Nat)
    (partCounter : UInt32) :
    (slices hM totalSize partCounter).length = partCount M totalSize := by
  rw [slices_eq, List.length_map, List.length_range]

/-- The slices have the size of what is left. -/
theorem sum_slices
    {M : Nat}
    (hM : 0 < M)
    (totalSize : Nat)
    (partCounter : UInt32) :
    ((slices hM totalSize partCounter).map Slice.size).sum = totalSize := by
  induction totalSize using Nat.strong_induction_on generalizing partCounter with
  | _ totalSize ih =>
      rw [slices]
      by_cases hzero : totalSize = 0
      · rw [dif_pos hzero, hzero]
        rfl
      · rw [dif_neg hzero]
        simp only [List.map_cons, List.sum_cons]
        rw [ih _ (by split <;> omega)]
        split <;> omega

/-- No slice is empty or bigger than a block. -/
theorem size_of_mem_slices
    {M : Nat}
    (hM : 0 < M)
    {totalSize : Nat}
    {partCounter : UInt32}
    {slice : Slice}
    (h : slice ∈ slices hM totalSize partCounter) :
    0 < slice.size ∧ slice.size ≤ M := by
  induction totalSize using Nat.strong_induction_on generalizing partCounter with
  | _ totalSize ih =>
      rw [slices] at h
      by_cases hzero : totalSize = 0
      · rw [dif_pos hzero] at h
        cases h
      · rw [dif_neg hzero] at h
        simp only [List.mem_cons] at h
        rcases h with rfl | h
        · simp only
          split <;> omega
        · exact ih _ (by split <;> omega) h

/-- What a call sends are the frames of the slices and the finish frame, in this order:
all of them if it returns the id of the message, and the first of them if it stops. -/
theorem sendOutgoingData_slices
    (cfg : Config)
    (s : SessionRef)
    (data : Bytes)
    (blockerId : UInt64)
    (p : Process) :
    let o := (sendOutgoingData cfg s data blockerId).run p
    let frames := (slices cfg.positive data.length 0).map (Slice.frame cfg.maxSingleMessageSize
      (p.randIds p.randCount) data) ++ [.multiFinish (p.randIds p.randCount) blockerId]
    ∃ messages : List Message, o.outputs = messages.map (Output.sent s) ∧
      (o.value = p.randIds p.randCount ∧ messages.map Message.body = frames ∨
        o.value = 0 ∧ messages.map Message.body <+: frames ∧ messages.length < frames.length) := by
  have hcases := sendOutgoingData_cases cfg s data blockerId p
  rw [outgoingFrames, outgoingParts_eq] at hcases
  rcases hcases with ⟨hvalue, messages, houtputs, hbodies⟩ |
    ⟨hvalue, messages, houtputs, hprefix, hless⟩
  · exact ⟨messages, houtputs, Or.inl ⟨hvalue, hbodies⟩⟩
  · exact ⟨messages, houtputs, Or.inr ⟨hvalue, hprefix, hless⟩⟩

/-! ## Wrapping -/

/-- Every part is read at its place in exact arithmetic, the part ids and the number of
parts do not wrap, and all bytes are sent once. -/
structure SlicesExactly {M : Nat} (hM : 0 < M) (size : Nat) : Prop where
  ranges : (slices hM size 0).map (fun slice => (slice.offset, slice.offset + slice.size)) =
    (List.range (partCount M size)).map (fun k => (k * M, min ((k + 1) * M) size))
  partIds : (slices hM size 0).map (fun slice => slice.partId.toNat) =
    List.range (partCount M size)
  number : (totalPartNumber M size).toNat = size / M + 1
  total : ((slices hM size 0).map Slice.size).sum = size

theorem toNat_totalPartNumber (M size : Nat) :
    (totalPartNumber M size).toNat = (size / M + 1) % 4294967296 := by
  rw [totalPartNumber, UInt32.toNat_add, UInt32.toNat_ofNat']
  have hone : (1 : UInt32).toNat = 1 := rfl
  rw [hone]
  omega

/-- The offset of a part, where neither factor has wrapped. -/
theorem toNat_offset
    {M k : Nat}
    (hM : M < 2 ^ 31)
    (hk : k < 2 ^ 32) :
    (UInt32.ofNat M * (0 + UInt32.ofNat k)).toNat = (k * M) % 4294967296 := by
  rw [UInt32.zero_add, UInt32.toNat_mul, UInt32.toNat_ofNat', UInt32.toNat_ofNat',
    Nat.mod_eq_of_lt (by omega : M < 2 ^ 32), Nat.mod_eq_of_lt hk, Nat.mul_comm]

/-- Nothing wraps exactly when the last offset and the number of parts are below
`2 ^ 32`. -/
theorem slicesExactly_iff
    {M size : Nat}
    (hM : 0 < M)
    (hint : M < 2 ^ 31)
    (hadmitted : M ≤ size) :
    SlicesExactly hM size ↔ (size - 1) / M * M < 2 ^ 32 ∧ size / M + 1 < 2 ^ 32 := by
  have hcount : partCount M size = (size - 1) / M + 1 := partCount_eq hM (by omega)
  constructor
  · intro h
    have hnumber := h.number
    rw [toNat_totalPartNumber] at hnumber
    have hlast := congrArg (fun l => l[(size - 1) / M]?) h.ranges
    rw [slices_eq] at hlast
    simp only [List.getElem?_map, List.getElem?_range, hcount, Nat.lt_succ_self,
      Option.map_some, Option.some.injEq, Prod.mk.injEq] at hlast
    refine ⟨?_, ?_⟩
    · rw [← hlast.1]
      exact UInt32.toNat_lt _
    · rw [← hnumber]
      exact Nat.mod_lt _ (by decide)
  · rintro ⟨hoffset, hnumber⟩
    have hsmall : ∀ k ∈ List.range (partCount M size),
        k * M < 2 ^ 32 ∧ k * M < size ∧ k < 2 ^ 32 := by
      intro k hk
      rw [List.mem_range, hcount] at hk
      have hle : k * M ≤ (size - 1) / M * M := Nat.mul_le_mul_right M (by omega)
      have hdiv : (size - 1) / M * M ≤ size - 1 := Nat.div_mul_le_self _ _
      have hself : k ≤ k * M := Nat.le_mul_of_pos_right k hM
      refine ⟨?_, ?_, ?_⟩ <;> omega
    refine ⟨?_, ?_, ?_, sum_slices hM size 0⟩
    · rw [slices_eq, List.map_map]
      refine List.map_congr_left ?_
      intro k hk
      obtain ⟨hlt, hin, hcounter⟩ := hsmall k hk
      simp only [Function.comp, toNat_offset hint hcounter, Prod.mk.injEq]
      have hbelow : k * M < 4294967296 := by omega
      rw [Nat.mod_eq_of_lt hbelow, Nat.succ_mul]
      refine ⟨rfl, ?_⟩
      omega
    · rw [slices_eq, List.map_map]
      refine (List.map_congr_left ?_).trans (List.map_id _)
      intro k hk
      obtain ⟨_, _, hcounter⟩ := hsmall k hk
      simp only [Function.comp, UInt32.zero_add, UInt32.toNat_ofNat', id]
      exact Nat.mod_eq_of_lt hcounter
    · rw [toNat_totalPartNumber]
      exact Nat.mod_eq_of_lt hnumber

/-- The slicing of a message of at least `M` bytes wraps nothing exactly when its last
offset and its number of parts are below `2 ^ 32`; and what is sent are these slices in
their order, all of them unless the call stops early and returns 0. -/
theorem slicing_exact
    (M : Nat)
    (hM : 0 < M)
    (hint : M < 2 ^ 31)
    (size : Nat)
    (hadmitted : M ≤ size)
    (_ : size < 2 ^ 64) :
    (SlicesExactly hM size ↔ (size - 1) / M * M < 2 ^ 32 ∧ size / M + 1 < 2 ^ 32) ∧
    ∀ cfg s data blockerId p, ∃ messages : List Message,
      let o := (sendOutgoingData cfg s data blockerId).run p
      let frames := (slices cfg.positive data.length 0).map (Slice.frame cfg.maxSingleMessageSize
        (p.randIds p.randCount) data) ++ [.multiFinish (p.randIds p.randCount) blockerId]
      o.outputs = messages.map (Output.sent s) ∧
        (o.value = p.randIds p.randCount ∧ messages.map Message.body = frames ∨
          o.value = 0 ∧ messages.map Message.body <+: frames ∧
            messages.length < frames.length) :=
  ⟨slicesExactly_iff hM hint hadmitted, sendOutgoingData_slices⟩

/-- A message of one block and one byte. -/
theorem slicing_exact_two :
    SlicesExactly (M := 131072) (by decide) 131073 ↔
      (131073 - 1) / 131072 * 131072 < 2 ^ 32 ∧ 131073 / 131072 + 1 < 2 ^ 32 :=
  (slicing_exact 131072 (by decide) (by decide) 131073 (by decide) (by decide)).1

/-- Behind `2 ^ 32` bytes the payload is sent again from its beginning. -/
theorem not_slicing_exact :
    ¬ ∀ M (hM : 0 < M), M < 2 ^ 31 → ∀ size, M ≤ size → size < 2 ^ 64 → SlicesExactly hM size := by
  intro h
  have hexact := h 131072 (by decide) (by decide) 4294967297 (by decide) (by decide)
  have hcondition := (slicesExactly_iff (by decide) (by decide) (by decide)).mp hexact
  exact absurd hcondition.1 (by decide)

/-! ## The announced number of parts -/

/-- The parts are numbered from zero, none is empty or bigger than a block, they have
the announced size, and there are as many as announced. -/
structure Announced {M : Nat} (hM : 0 < M) (size : Nat) : Prop where
  partIds : (slices hM size 0).map (fun slice => slice.partId.toNat) =
    List.range (slices hM size 0).length
  sizes : ∀ slice ∈ slices hM size 0, 0 < slice.size ∧ slice.size ≤ M
  total : ((slices hM size 0).map Slice.size).sum = (UInt64.ofNat size).toNat
  number : (totalPartNumber M size).toNat = (slices hM size 0).length

theorem announced_iff
    {M size : Nat}
    (hM : 0 < M)
    (hadmitted : M ≤ size)
    (hsize : size < 2 ^ 32) :
    Announced hM size ↔ ¬ M ∣ size := by
  have hcount : partCount M size = (size - 1) / M + 1 := partCount_eq hM (by omega)
  constructor
  · rintro h ⟨q, hq⟩
    have hnumber := h.number
    rw [length_slices, toNat_totalPartNumber, hcount] at hnumber
    have hpos : 0 < q := by
      rcases Nat.eq_zero_or_pos q with rfl | hpos
      · omega
      · exact hpos
    have hexact : size / M = q := by
      rw [hq]
      exact Nat.mul_div_cancel_left q hM
    have hle : q ≤ size := by
      rw [hq]
      exact Nat.le_mul_of_pos_left q hM
    have hlast : (size - 1) / M = q - 1 := by
      have hprod : (q - 1 + 1) * M = size := by
        rw [Nat.sub_add_cancel hpos, hq, Nat.mul_comm]
      rw [Nat.succ_mul] at hprod
      refine Nat.div_eq_of_lt_le ?_ ?_
      · omega
      · rw [Nat.succ_mul]
        omega
    rw [hexact, hlast] at hnumber
    omega
  · intro hnot
    have hrest : size % M ≠ 0 := fun h => hnot (Nat.dvd_of_mod_eq_zero h)
    have hmod := Nat.div_add_mod' size M
    have hlt := Nat.mod_lt size hM
    have hlast : (size - 1) / M = size / M := by
      refine Nat.div_eq_of_lt_le ?_ ?_
      · omega
      · rw [Nat.succ_mul]
        omega
    have hmany : M ≠ 1 := by
      rintro rfl
      exact hnot (Nat.one_dvd size)
    have hhalf : size / M ≤ size / 2 := Nat.div_le_div_left (by omega) (by decide)
    refine ⟨?_, fun slice h => size_of_mem_slices hM h, ?_, ?_⟩
    · rw [length_slices, slices_eq, List.map_map]
      refine (List.map_congr_left ?_).trans (List.map_id _)
      intro k hk
      rw [List.mem_range, hcount, hlast] at hk
      simp only [Function.comp, UInt32.zero_add, UInt32.toNat_ofNat', id]
      exact Nat.mod_eq_of_lt (by omega)
    · rw [sum_slices, UInt64.toNat_ofNat', Nat.mod_eq_of_lt (by omega)]
    · rw [length_slices, toNat_totalPartNumber, hcount, hlast]
      exact Nat.mod_eq_of_lt (by omega)

/-- The announced number of parts is the number of parts sent exactly when `M` does not
divide the size; and what is sent is these parts. -/
theorem part_number_announced
    (M : Nat)
    (hM : 0 < M)
    (size : Nat)
    (hadmitted : M ≤ size)
    (hsize : size < 2 ^ 32) :
    (Announced hM size ↔ ¬ M ∣ size) ∧
    ∀ cfg s data blockerId p, (p.session s).Sends → (p.session s).abort = false →
      ∃ messages : List Message,
        ((sendOutgoingData cfg s data blockerId).run p).outputs = messages.map (Output.sent s) ∧
          messages.map Message.body =
            (slices cfg.positive data.length 0).map (Slice.frame cfg.maxSingleMessageSize
              (p.randIds p.randCount) data) ++
            [.multiFinish (p.randIds p.randCount) blockerId] := by
  refine ⟨announced_iff hM hadmitted hsize, ?_⟩
  intro cfg s data blockerId p hsends habort
  have hvalue := sendOutgoingData_of_sends cfg data blockerId hsends habort
  obtain ⟨messages, houtputs, ⟨_, hbodies⟩ | ⟨hzero, _⟩⟩ :=
    sendOutgoingData_slices cfg s data blockerId p
  · exact ⟨messages, houtputs, hbodies⟩
  · rw [hvalue] at hzero
    exact absurd hzero (p.randIds p.randCount).property

/-- A message of one block and one byte. -/
theorem part_number_announced_two :
    Announced (M := 131072) (by decide) 131073 ↔ ¬ 131072 ∣ 131073 :=
  (part_number_announced 131072 (by decide) 131073 (by decide) (by decide)).1

/-- A response of exactly one block is one part, and two are announced. -/
theorem not_part_number_announced :
    ¬ ∀ M (hM : 0 < M), ∀ size, M ≤ size → size < 2 ^ 32 → Announced hM size := by
  intro h
  have hannounced := h 131072 (by decide) 131072 (by decide) (by decide)
  exact (announced_iff (by decide) (by decide) (by decide)).mp hannounced (Nat.dvd_refl _)

end MultiblockIo

end SakuraNetwork

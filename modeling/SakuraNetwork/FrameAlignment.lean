import SakuraNetwork.ReceiveFraming

/-!
# Frames on multiples of 8

Every encoder brings the payload to a multiple of 8, and the start-up checks that
the sizes of the message structs are multiples of 8.  The check leaves out the
header of a single-block message, whose packed size is 52, so that its frames
have a size of 4 modulo 8.

* `frameSize_mod_eight`: the size of every message modulo 8.
* `offset_mod_eight`: where a frame starts, by the frames before it.
* `frames_aligned_iff`: a stream is aligned exactly if it has no single-block
  message.
-/

namespace SakuraNetwork

open Lib

/-- The messages of `send_Data_SingleBlock`. -/
def Body.isSingleBlock : Body → Bool
  | .singleBlock .. => true
  | _ => false

/-- Only the frame of a single-block message misses a multiple of 8, by half of it. -/
theorem frameSize_mod_eight (b : Body) :
    b.frameSize % 8 = if b.isSingleBlock then 4 else 0 := by
  cases b with
  | stream replyExpected data =>
      have hfill := fillUp_mod data.length
      simp only [Body.frameSize, Body.isSingleBlock, Bool.false_eq_true, if_false]
      omega
  | singleBlock multiblockId blockerId data =>
      have hfill := fillUp_mod data.length
      simp only [Body.frameSize, Body.isSingleBlock, if_true]
      omega
  | multiStatic totalSize multiblockId totalPartNumber partId data blockerId =>
      have hfill := fillUp_mod data.length
      simp only [Body.frameSize, Body.isSingleBlock, Bool.false_eq_true, if_false]
      omega
  | _ =>
      -- the size of a struct
      simp only [Body.frameSize, Body.isSingleBlock, Bool.false_eq_true, if_false]

namespace SentFrame

variable {cfg : Config}

/-- The offset behind some frames of the stream. -/
def offset (frames : List (SentFrame cfg)) : Nat :=
  (frames.map SentFrame.bytes).flatten.length

theorem totalMessageSize_mod_eight (f : SentFrame cfg) :
    f.message.body.totalMessageSize.toNat % 8 = if f.message.body.isSingleBlock then 4 else 0 := by
  rw [f.sendable.toNat_totalMessageSize]
  exact frameSize_mod_eight f.message.body

@[simp] theorem offset_nil : offset ([] : List (SentFrame cfg)) = 0 :=
  rfl

@[simp] theorem offset_cons (f : SentFrame cfg) (frames : List (SentFrame cfg)) :
    offset (f :: frames) = f.message.body.frameSize + offset frames := by
  simp only [offset, List.map_cons, List.flatten_cons, List.length_append, SentFrame.bytes,
    Message.bytes_length f.sendable]

end SentFrame

/-- The single-block messages before an offset put it off by 4 each. -/
theorem offset_mod_eight
    {cfg : Config}
    (frames : List (SentFrame cfg)) :
    SentFrame.offset frames % 8 =
      4 * frames.countP (fun f => f.message.body.isSingleBlock) % 8 := by
  induction frames with
  | nil =>
      rfl
  | cons f frames ih =>
      have hsize := frameSize_mod_eight f.message.body
      rw [SentFrame.offset_cons, List.countP_cons]
      split at hsize
      · rename_i hsingle
        rw [if_pos hsingle]
        omega
      · rename_i hsingle
        rw [if_neg hsingle]
        omega

/-- Every size in a stream of frames, and every place where a frame starts, is a
multiple of 8 exactly if no frame is a single-block message. -/
theorem frames_aligned_iff
    (cfg : Config)
    (frames : List (SentFrame cfg)) :
    ((∀ f ∈ frames, 8 ∣ f.message.body.totalMessageSize.toNat) ∧
      ∀ before f after, frames = before ++ f :: after → 8 ∣ SentFrame.offset before) ↔
      ∀ f ∈ frames, f.message.body.isSingleBlock = false := by
  constructor
  · intro haligned f hf
    have hsize := f.totalMessageSize_mod_eight
    have hdvd := Nat.mod_eq_zero_of_dvd (haligned.1 f hf)
    cases hsingle : f.message.body.isSingleBlock with
    | false =>
        rfl
    | true =>
        rw [hsingle, if_pos rfl] at hsize
        omega
  · intro hnone
    refine ⟨fun f hf => ?_, fun before f after hframes => ?_⟩
    · have hsize := f.totalMessageSize_mod_eight
      rw [hnone f hf] at hsize
      exact Nat.dvd_of_mod_eq_zero hsize
    · have hcount : before.countP (fun f => f.message.body.isSingleBlock) = 0 := by
        rw [List.countP_eq_zero]
        intro g hg
        have hmem : g ∈ frames := by
          rw [hframes]
          exact List.mem_append_left _ hg
        rw [hnone g hmem]
        exact Bool.false_ne_true
      have hoffset := offset_mod_eight before
      rw [hcount] at hoffset
      exact Nat.dvd_of_mod_eq_zero hoffset

/-- The answer without data that `sendResponse` puts into one block. -/
def emptyBlock : SentFrame Config.default where
  found := fun _ => 0
  message := { sessionId := 1, messageId := 1, body := .singleBlock 1 1 [] }
  sendable := Nat.zero_le _

/-- The frame of an empty block has 60 bytes, and the frame behind it starts there. -/
theorem emptyBlock_not_aligned :
    ¬ ∀ (cfg : Config) (frames : List (SentFrame cfg)),
      (∀ f ∈ frames, 8 ∣ f.message.body.totalMessageSize.toNat) ∧
        ∀ before f after, frames = before ++ f :: after → 8 ∣ SentFrame.offset before := by
  intro h
  have hsize := (h Config.default [emptyBlock]).1 emptyBlock (List.mem_singleton.mpr rfl)
  have hsixty : emptyBlock.message.body.totalMessageSize.toNat = 60 := by decide
  rw [hsixty] at hsize
  exact absurd hsize (by decide)

end SakuraNetwork

import SakuraNetwork.FrameDecoding

/-!
# Bytes of a frame that nobody wrote

A frame is built in a local object or in a buffer on the stack.  What the send
function does not write keeps what was found there, and is sent.

* `Message.image_eq`: the stores of a message, as a list.
* `Body.FullyWritten`: the messages all of whose bytes are written.
* `bytes_determined_iff`: the bytes of a frame are determined by the message exactly
  for these messages.
-/

namespace SakuraNetwork

open Lib

/-- The places of the frame that are written, in the order of the stores. -/
def Message.writes (m : Message) : List (Nat × Bytes) :=
  (0, m.commonHeader.bytes) ::
  match m.body with
  | .sessionInitStart clientSessionId identifier =>
      [(64040, footerBytes), (32, toLE 4 clientSessionId.toNat),
        (64036, toLE 4 (UInt32.ofNat identifier.length).toNat), (36, identifier)]
  | .sessionInitReply clientSessionId completeSessionId identifier =>
      [(64048, footerBytes), (36, toLE 4 completeSessionId.toNat),
        (32, toLE 4 clientSessionId.toNat),
        (64040, toLE 4 (UInt32.ofNat identifier.length).toNat), (40, identifier)]
  | .sessionCloseStart _ | .sessionCloseReply => [(32, toLE 4 0), (40, footerBytes)]
  | .heartbeatStart | .heartbeatReply | .streamReply | .singleBlockReply => [(32, footerBytes)]
  | .error _ message =>
      [(1048616, footerBytes), (32, toLE 8 (UInt64.ofNat message.length).toNat), (40, message)]
  | .stream _ data => [(32, data), (m.body.totalMessageSize.toNat - 8, footerBytes)]
  | .singleBlock multiblockId blockerId data =>
      [(32, toLE 8 multiblockId.toNat), (40, toLE 8 blockerId.toNat), (52, data),
        (m.body.totalMessageSize.toNat - 8, footerBytes)]
  | .multiStatic totalSize multiblockId totalPartNumber partId data _ =>
      [(32, toLE 8 totalSize.toNat), (40, toLE 8 multiblockId.toNat),
        (48, toLE 4 totalPartNumber.toNat), (52, toLE 4 partId.toNat), (56, data),
        (m.body.totalMessageSize.toNat - 8, footerBytes)]
  | .multiFinish multiblockId blockerId =>
      [(32, toLE 8 multiblockId.toNat), (40, toLE 8 blockerId.toNat), (48, footerBytes)]

/-- The image of a message is made by its stores. -/
theorem Message.image_eq (m : Message) (found : Memory) :
    m.image found = found.storeAll m.writes := by
  obtain ⟨sessionId, messageId, body⟩ := m
  cases body <;> rfl

/-- The messages without padding, unused array elements or fill bytes. -/
def Body.FullyWritten : Body → Prop
  | .sessionInitStart _ identifier => identifier.length = 64000
  | .stream _ data => 8 ∣ data.length
  | .multiStatic _ _ _ _ data _ => 8 ∣ data.length
  | .heartbeatStart | .heartbeatReply | .streamReply | .singleBlockReply => True
  | .multiFinish .. => True
  | .sessionInitReply .. | .sessionCloseStart .. | .sessionCloseReply => False
  | .error .. | .singleBlock .. => False

/-- All places of a frame are written exactly for the messages without gaps. -/
theorem covers_iff
    {cfg : Config}
    {m : Message}
    (h : m.body.Sendable cfg) :
    (∀ i, i < m.body.frameSize → Memory.Covers m.writes i) ↔ m.body.FullyWritten := by
  have htotal := h.toNat_totalMessageSize
  have hmax := cfg.maxSingleMessageSize_lt
  obtain ⟨sessionId, messageId, body⟩ := m
  cases body with
  | sessionInitStart clientSessionId identifier =>
      have hlen : identifier.length ≤ 64000 := h
      simp only [Message.writes, Memory.covers_cons, Memory.covers_nil, or_false, toLE_length,
        footerBytes_length, CommonMessageHeader.bytes_length, Body.frameSize, Body.FullyWritten]
      constructor
      · intro hall
        have hgap := hall (36 + identifier.length)
        omega
      · intro hfull i hi
        omega
  | sessionInitReply clientSessionId completeSessionId identifier =>
      have hlen : identifier.length ≤ 64000 := h
      simp only [Message.writes, Memory.covers_cons, Memory.covers_nil, or_false, toLE_length,
        footerBytes_length, CommonMessageHeader.bytes_length, Body.frameSize, Body.FullyWritten,
        iff_false]
      intro hall
      have hgap := hall 64044
      omega
  | sessionCloseStart replyExpected =>
      simp only [Message.writes, Memory.covers_cons, Memory.covers_nil, or_false, toLE_length,
        footerBytes_length, CommonMessageHeader.bytes_length, Body.frameSize, Body.FullyWritten,
        iff_false]
      intro hall
      have hgap := hall 36
      omega
  | sessionCloseReply =>
      simp only [Message.writes, Memory.covers_cons, Memory.covers_nil, or_false, toLE_length,
        footerBytes_length, CommonMessageHeader.bytes_length, Body.frameSize, Body.FullyWritten,
        iff_false]
      intro hall
      have hgap := hall 36
      omega
  | error subType message =>
      have hlen : message.length ≤ cfg.maxSingleMessageSize - 1 := h
      simp only [Message.writes, Memory.covers_cons, Memory.covers_nil, or_false, toLE_length,
        footerBytes_length, CommonMessageHeader.bytes_length, Body.frameSize, Body.FullyWritten,
        iff_false]
      intro hall
      have hgap := hall (40 + message.length)
      omega
  | stream replyExpected data =>
      have hlen : data.length ≤ cfg.maxSingleMessageSize := h
      simp only [Message.writes, Memory.covers_cons, Memory.covers_nil, or_false,
        footerBytes_length, CommonMessageHeader.bytes_length, htotal, Body.frameSize, fillUp,
        Body.FullyWritten, Nat.dvd_iff_mod_eq_zero]
      constructor
      · intro hall
        have hgap := hall (32 + data.length)
        omega
      · intro hfull i hi
        omega
  | singleBlock multiblockId blockerId data =>
      have hlen : data.length ≤ cfg.maxSingleMessageSize := h
      simp only [Message.writes, Memory.covers_cons, Memory.covers_nil, or_false, toLE_length,
        footerBytes_length, CommonMessageHeader.bytes_length, htotal, Body.frameSize,
        Body.FullyWritten, iff_false]
      intro hall
      have hgap := hall 48
      omega
  | multiStatic totalSize multiblockId totalPartNumber partId data blockerId =>
      have hlen : data.length ≤ cfg.maxSingleMessageSize := h
      simp only [Message.writes, Memory.covers_cons, Memory.covers_nil, or_false, toLE_length,
        footerBytes_length, CommonMessageHeader.bytes_length, htotal, Body.frameSize, fillUp,
        Body.FullyWritten, Nat.dvd_iff_mod_eq_zero]
      constructor
      · intro hall
        have hgap := hall (56 + data.length)
        omega
      · intro hfull i hi
        omega
  | _ =>
      simp only [Message.writes, Memory.covers_cons, Memory.covers_nil, or_false, toLE_length,
        footerBytes_length, CommonMessageHeader.bytes_length, Body.frameSize, Body.FullyWritten,
        iff_true]
      intro i hi
      omega

/-- The bytes handed to the socket are determined by the message exactly when the
message has no gaps. -/
theorem bytes_determined_iff
    {cfg : Config}
    {m : Message}
    (h : m.body.Sendable cfg) :
    (∀ found found' : Memory, m.bytes found = m.bytes found') ↔ m.body.FullyWritten := by
  rw [← covers_iff h, ← Memory.slice_storeAll_iff, ← h.toNat_totalMessageSize]
  simp only [Message.bytes, Message.image_eq]

/-- Eight bytes of stream data are padded by nothing. -/
theorem bytes_determined_iff_stream :
    (Body.stream true [1, 2, 3, 4, 5, 6, 7, 8]).FullyWritten ∧
      ∀ found found' : Memory,
        (Message.mk 1 7 (.stream true [1, 2, 3, 4, 5, 6, 7, 8])).bytes found =
          (Message.mk 1 7 (.stream true [1, 2, 3, 4, 5, 6, 7, 8])).bytes found' := by
  have hsize : (Body.stream true [1, 2, 3, 4, 5, 6, 7, 8]).Sendable Config.default := by
    simp [Body.Sendable, Config.default]
  have hwritten : (Body.stream true [1, 2, 3, 4, 5, 6, 7, 8]).FullyWritten :=
    ⟨1, rfl⟩
  exact ⟨hwritten, (bytes_determined_iff hsize).mpr hwritten⟩

/-- A close reply carries four bytes of the stack. -/
theorem not_bytes_determined :
    ¬ ∀ (cfg : Config) (m : Message), m.body.Sendable cfg →
      ∀ found found' : Memory, m.bytes found = m.bytes found' := by
  intro h
  have hbytes := h Config.default (Message.mk 1 7 .sessionCloseReply) trivial
    (fun _ => 0) (fun _ => 1)
  exact absurd hbytes (by decide)

end SakuraNetwork

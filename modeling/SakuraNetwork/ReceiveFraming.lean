import SakuraNetwork.FrameDecoding
import SakuraNetwork.Lib.Framing

/-!
# The receive loop

The socket thread appends what it received to the ring buffer and calls
`processMessage` until it takes nothing.  For a stream of frames of the library
the result does not depend on how the stream arrives: the messages are handled
once each, in order, with the values of the sender.

* `receiver_decodes`: `processMessage` is a receiver of such frames.
* `receive_frames`: the whole stream and every beginning of it, for every way of
  cutting it.
* `sendable_of_sent`: the frames of the send functions are of this kind.
-/

namespace SakuraNetwork

open Lib

/-- The receive thread between two calls of `processMessage`. -/
structure ReceiveState where
  process : Process
  outputs : List Output := []
  calls : Nat := 0

/-- One call of `processMessage`; `beyond` is the memory behind the unread bytes
at each call. -/
def receiver (cfg : Config) (s : SessionRef) (beyond : Nat → Memory) :
    Receiver ReceiveState UInt8 :=
  fun state unread =>
    let o := (processMessage cfg s ⟨unread, beyond state.calls⟩).run state.process
    (match o.value with
      | .taken n => n
      | .assertFailed => 0,
     { process := o.process
       outputs := state.outputs ++ o.outputs
       calls := state.calls + 1 })

/-- A frame of the library: the message, and the memory it was assembled over. -/
structure SentFrame (cfg : Config) where
  found : Memory
  message : Message
  sendable : message.body.Sendable cfg

namespace SentFrame

def bytes {cfg : Config} (f : SentFrame cfg) : Bytes :=
  f.message.bytes f.found

/-- The process and its outputs after a message was handled. -/
def handled
    {cfg : Config}
    (s : SessionRef)
    (v : Process × List Output)
    (f : SentFrame cfg) : Process × List Output :=
  (((f.message.handle s).run v.1).process, v.2 ++ ((f.message.handle s).run v.1).outputs)

end SentFrame

/-- What can be observed of the receive thread. -/
def ReceiveState.view (state : ReceiveState) : Process × List Output :=
  (state.process, state.outputs)

/-- `processMessage` takes the frames of the library. -/
theorem receiver_decodes
    (cfg : Config)
    (s : SessionRef)
    (beyond : Nat → Memory) :
    Decodes (receiver cfg s beyond) ReceiveState.view SentFrame.bytes
      (@SentFrame.handled cfg s) := by
  constructor
  · intro f hnil
    have hlength := Message.bytes_length f.sendable f.found
    have hge := f.message.body.frameSize_ge
    have hzero : (f.message.bytes f.found).length = 0 := by
      rw [show f.message.bytes f.found = [] from hnil]
      rfl
    omega
  · intro state f rest
    have hresult := processMessage_bytes f.sendable s state.process f.found rest
      (beyond state.calls)
    simp only [Outcome.result, Prod.mk.injEq] at hresult
    obtain ⟨hvalue, hprocess, houtputs⟩ := hresult
    simp only [receiver, SentFrame.bytes, SentFrame.handled, ReceiveState.view, hvalue, hprocess,
      houtputs, and_self]
  · intro state f rest part hpart hrest
    have hresult := processMessage_incomplete f.sendable s state.process f.found hpart hrest
      (beyond state.calls)
    simp only [Outcome.result, Prod.mk.injEq] at hresult
    obtain ⟨hvalue, hprocess, houtputs⟩ := hresult
    simp only [receiver, ReceiveState.view, hvalue, hprocess, houtputs, List.append_nil, and_self]
  · intro state
    simp [receiver, ReceiveState.view, processMessage, RingBuffer.getObject,
      CommonMessageHeader.size]

/-- Framing does not depend on the chunks.  When all chunks of a stream of frames
have arrived, exactly these frames were taken, once each and in order, every one
was handled with the values of its sender, and the buffer is empty.  At every
moment before, the complete frames have been handled, and the beginning of the
next one had no effect and stays in the buffer. -/
theorem receive_frames
    (cfg : Config)
    (s : SessionRef)
    (p : Process)
    (beyond : Nat → Memory)
    (frames : List (SentFrame cfg)) :
    (∀ chunks : List Bytes, chunks.flatten = (frames.map SentFrame.bytes).flatten →
      let r := (receiver cfg s beyond).receive { process := p } [] chunks
      r.taken = frames.map SentFrame.bytes ∧
      (r.state.process, r.state.outputs) = frames.foldl (SentFrame.handled s) (p, []) ∧
      r.buffer = []) ∧
    (∀ (chunks : List Bytes) (missing : Bytes),
      chunks.flatten ++ missing = (frames.map SentFrame.bytes).flatten →
      let r := (receiver cfg s beyond).receive { process := p } [] chunks
      ∃ done todo,
        frames = done ++ todo ∧
        r.taken = done.map SentFrame.bytes ∧
        (r.state.process, r.state.outputs) = done.foldl (SentFrame.handled s) (p, []) ∧
        r.buffer ++ missing = (todo.map SentFrame.bytes).flatten ∧
        Incomplete SentFrame.bytes todo r.buffer) ∧
    (∀ f ∈ frames, ∀ (rest : Bytes) (memory : Memory),
      headerOf (RingBuffer.mk (f.bytes ++ rest) memory).memory = f.message.commonHeader) := by
  have hdecodes := receiver_decodes cfg s beyond
  refine ⟨?_, ?_, ?_⟩
  · intro chunks hchunks
    exact hdecodes.receive_all chunks frames { process := p } hchunks
  · intro chunks missing hmissing
    refine hdecodes.receive chunks frames { process := p } [] missing (by simpa using hmissing) ?_
    cases frames with
    | nil =>
        rfl
    | cons f frames =>
        exact ⟨f.bytes, hdecodes.nonempty f, rfl⟩
  · intro f _ rest memory
    exact (holds_of_bytes f.sendable f.found rest memory).header

/-! ## The frames of the send functions -/

/-- The calls of the application and the timers that send messages. -/
inductive SendCall where
  | initStart (sessionIdentifier : Bytes)
  | closeStart (replyExpected : Bool)
  | heartbeat
  | error (errorCode : ErrorCode) (errorMessage : Bytes)
  | stream (data : Bytes) (replyExpected : Bool)
  | normalMessage (data : Bytes)
  | request (data : Bytes)
  | response (data : Bytes) (blockerId : UInt64)

/-- The operation of a call; `startSession` refuses long identifiers. -/
def SendCall.run (cfg : Config) (s : SessionRef) : SendCall → Act Unit
  | .initStart sessionIdentifier =>
      if sessionIdentifier.length > 64000 then pure ()
      else do
        let _ ← sendSessionInitStart s sessionIdentifier
  | .closeStart replyExpected => do
      let _ ← sendSessionCloseStart s replyExpected
  | .heartbeat => do
      let _ ← sendHeartbeat s
  | .error errorCode errorMessage => do
      let _ ← sendErrorMessage cfg s errorCode errorMessage
  | .stream data replyExpected => do
      let _ ← sendStreamData cfg s data replyExpected
  | .normalMessage data => do
      let _ ← sendNormalMessage cfg s data
  | .request data => do
      let _ ← sendRequestFrames cfg s data
  | .response data blockerId => do
      let _ ← sendResponse cfg s data blockerId

/-- The messages of data and heartbeats. -/
def Body.Carried (cfg : Config) (b : Body) : Prop :=
  b.Sendable cfg ∧ b.Plain

/-- A message an application or the heartbeat thread starts an exchange with; it requires
a reply only where `flagged` holds. -/
structure Body.Spoken (cfg : Config) (flagged : Prop) (b : Body) : Prop where
  sendable : b.Sendable cfg
  type : b.type ≠ .session
  not_reply : b.flags &&& 0x2 = 0
  required : b.flags &&& 0x1 ≠ 0 → flagged

namespace Body.Spoken

variable {cfg : Config} {flagged : Prop}

theorem plain {b : Body} (h : b.Spoken cfg flagged) : b.Plain := by
  cases b with
  | sessionInitStart => exact absurd rfl h.type
  | sessionInitReply => exact absurd rfl h.type
  | _ => rfl

theorem carried {b : Body} (h : b.Spoken cfg flagged) : b.Carried cfg :=
  ⟨h.sendable, h.plain⟩

theorem stream
    {replyExpected : Bool}
    {data : Bytes}
    (hlen : data.length ≤ cfg.maxSingleMessageSize)
    (hflagged : replyExpected = true → flagged) :
    (Body.stream replyExpected data).Spoken cfg flagged := by
  refine ⟨hlen, MessageType.noConfusion, ?_, ?_⟩
  · have hnone : (0x1 &&& 0x2 : UInt8) = 0 := by decide
    cases replyExpected <;> simp [Body.flags, hnone]
  · cases replyExpected with
    | false => simp [Body.flags]
    | true => exact fun _ => hflagged rfl

theorem heartbeatStart (hflagged : flagged) : Body.heartbeatStart.Spoken cfg flagged :=
  ⟨trivial, MessageType.noConfusion, by decide, fun _ => hflagged⟩

theorem singleBlock
    {multiblockId blockerId : UInt64}
    {data : Bytes}
    (hlen : data.length ≤ cfg.maxSingleMessageSize)
    (hflagged : flagged) :
    (Body.singleBlock multiblockId blockerId data).Spoken cfg flagged := by
  have hflags : (0x1 ||| responseFlag blockerId) &&& 0x2 = 0 := by
    unfold Body.responseFlag
    split <;> decide
  exact ⟨hlen, MessageType.noConfusion, hflags, fun _ => hflagged⟩

theorem multiStatic
    {totalSize multiblockId blockerId : UInt64}
    {totalPartNumber partId : UInt32}
    {data : Bytes}
    (hlen : data.length ≤ cfg.maxSingleMessageSize) :
    (Body.multiStatic totalSize multiblockId totalPartNumber partId data blockerId).Spoken cfg
      flagged := by
  have hflags : (0x0 ||| responseFlag blockerId) &&& 0x2 = 0 ∧
      (0x0 ||| responseFlag blockerId) &&& 0x1 = 0 := by
    unfold Body.responseFlag
    split <;> decide
  exact ⟨hlen, MessageType.noConfusion, hflags.1, fun h => absurd hflags.2 h⟩

theorem multiFinish (multiblockId blockerId : UInt64) :
    (Body.multiFinish multiblockId blockerId).Spoken cfg flagged := by
  have hflags : (0x0 ||| responseFlag blockerId) &&& 0x2 = 0 ∧
      (0x0 ||| responseFlag blockerId) &&& 0x1 = 0 := by
    unfold Body.responseFlag
    split <;> decide
  exact ⟨trivial, MessageType.noConfusion, hflags.1, fun h => absurd hflags.2 h⟩

end Body.Spoken

/-- The parts of a multi-block message require no reply. -/
theorem spoken_sendOutgoingData
    (cfg : Config)
    (s : SessionRef)
    (flagged : Prop)
    (data : Bytes)
    (blockerId : UInt64) :
    OnlySends s (Body.Spoken cfg flagged)
      (MultiblockIo.sendOutgoingData cfg s data blockerId) :=
  MultiblockIo.onlySends_sendOutgoingData cfg (fun _ _ _ hpart => Body.Spoken.multiStatic hpart)
    (fun _ => Body.Spoken.multiFinish _ _)

theorem spoken_sendStreamData
    (cfg : Config)
    (s : SessionRef)
    (data : Bytes)
    (replyExpected : Bool) :
    OnlySends s (Body.Spoken cfg (replyExpected = true))
      (sendStreamData cfg s data replyExpected) := by
  refine OnlySends.ite (fun _ => OnlySends.pure false) fun hlen => ?_
  refine (OnlySends.getSession s).bind fun x =>
    OnlySends.ite (fun _ => OnlySends.sendNew ?_) fun _ => OnlySends.pure false
  exact Body.Spoken.stream (Nat.le_of_not_lt hlen) id

/-- Only a message of one block requires a reply. -/
theorem spoken_sendNormalMessage
    (cfg : Config)
    (s : SessionRef)
    (data : Bytes) :
    OnlySends s (Body.Spoken cfg (data.length ≤ cfg.maxSingleMessageSize))
      (sendNormalMessage cfg s data) := by
  refine (OnlySends.getSession s).bind fun x =>
    OnlySends.ite (fun _ => ?_) fun _ => OnlySends.pure false
  refine OnlySends.ite (fun hlen => ?_) fun _ =>
    (spoken_sendOutgoingData cfg s _ data 0).bind fun _ => OnlySends.pure _
  exact OnlySends.getRandId.bind fun id =>
    OnlySends.sendNew (Body.Spoken.singleBlock hlen hlen)

theorem spoken_sendRequestFrames
    (cfg : Config)
    (s : SessionRef)
    (data : Bytes) :
    OnlySends s (Body.Spoken cfg (data.length ≤ cfg.maxSingleMessageSize))
      (sendRequestFrames cfg s data) := by
  refine (OnlySends.getSession s).bind fun x =>
    OnlySends.ite (fun _ => ?_) fun _ => OnlySends.pure 0
  refine OnlySends.ite (fun hlen => ?_) fun _ => spoken_sendOutgoingData cfg s _ data 0
  exact OnlySends.getRandId.bind fun id =>
    (OnlySends.sendNew (Body.Spoken.singleBlock hlen hlen)).bind fun ok =>
      OnlySends.ite (fun _ => OnlySends.pure id) fun _ => OnlySends.pure 0

/-- A response of the maximum size is sent in parts. -/
theorem spoken_sendResponse
    (cfg : Config)
    (s : SessionRef)
    (data : Bytes)
    (blockerId : UInt64) :
    OnlySends s (Body.Spoken cfg (data.length < cfg.maxSingleMessageSize))
      (sendResponse cfg s data blockerId) := by
  refine (OnlySends.getSession s).bind fun x =>
    OnlySends.ite (fun _ => ?_) fun _ => OnlySends.pure 0
  refine OnlySends.ite (fun hlen => ?_) fun _ => spoken_sendOutgoingData cfg s _ data blockerId
  exact OnlySends.getRandId.bind fun id =>
    (OnlySends.sendNew (Body.Spoken.singleBlock (Nat.le_of_lt hlen) hlen)).bind fun _ =>
      OnlySends.pure id

theorem spoken_sendHeartbeat
    (cfg : Config)
    (s : SessionRef) :
    OnlySends s (Body.Spoken cfg True) (sendHeartbeat s) := by
  refine (OnlySends.getSession s).bind fun x => ?_
  cases x.socket with
  | none =>
      exact OnlySends.pure false
  | some k =>
      exact OnlySends.ite (fun _ => OnlySends.sendNew (Body.Spoken.heartbeatStart trivial))
        fun _ => OnlySends.pure false

theorem onlySends_sendOutgoingData
    (cfg : Config)
    (s : SessionRef)
    (data : Bytes)
    (blockerId : UInt64) :
    OnlySends s (Body.Carried cfg) (MultiblockIo.sendOutgoingData cfg s data blockerId) :=
  (spoken_sendOutgoingData cfg s True data blockerId).mono fun _ h => h.carried

theorem onlySends_sendStreamData
    (cfg : Config)
    (s : SessionRef)
    (data : Bytes)
    (replyExpected : Bool) :
    OnlySends s (Body.Carried cfg) (sendStreamData cfg s data replyExpected) :=
  (spoken_sendStreamData cfg s data replyExpected).mono fun _ h => h.carried

theorem onlySends_sendNormalMessage
    (cfg : Config)
    (s : SessionRef)
    (data : Bytes) :
    OnlySends s (Body.Carried cfg) (sendNormalMessage cfg s data) :=
  (spoken_sendNormalMessage cfg s data).mono fun _ h => h.carried

theorem onlySends_sendRequestFrames
    (cfg : Config)
    (s : SessionRef)
    (data : Bytes) :
    OnlySends s (Body.Carried cfg) (sendRequestFrames cfg s data) :=
  (spoken_sendRequestFrames cfg s data).mono fun _ h => h.carried

theorem onlySends_sendResponse
    (cfg : Config)
    (s : SessionRef)
    (data : Bytes)
    (blockerId : UInt64) :
    OnlySends s (Body.Carried cfg) (sendResponse cfg s data blockerId) :=
  (spoken_sendResponse cfg s data blockerId).mono fun _ h => h.carried

theorem onlySends_sendHeartbeat
    (cfg : Config)
    (s : SessionRef) :
    OnlySends s (Body.Carried cfg) (sendHeartbeat s) :=
  (spoken_sendHeartbeat cfg s).mono fun _ h => h.carried

/-- Every frame a call sends is one the receiver decodes. -/
theorem sendable_of_sent
    (cfg : Config)
    (s : SessionRef)
    (call : SendCall) :
    OnlySends s (Body.Sendable cfg) (call.run cfg s) := by
  have hcarried : ∀ {α : Type} {x : Act α}, OnlySends s (Body.Carried cfg) x →
      OnlySends s (Body.Sendable cfg) (do let _ ← x) := by
    intro α x hx
    exact (hx.mono fun _ h => h.1).bind fun _ => OnlySends.pure ()
  cases call with
  | initStart sessionIdentifier =>
      refine OnlySends.ite (fun _ => OnlySends.pure ()) fun hlen => ?_
      refine OnlySends.bind ?_ fun _ => OnlySends.pure ()
      refine (OnlySends.getSession s).bind fun x => (OnlySends.touch _).bind fun _ => ?_
      refine OnlySends.sendNew ?_
      show sessionIdentifier.length ≤ 64000
      omega
  | closeStart replyExpected =>
      exact (OnlySends.sendNew trivial).bind fun _ => OnlySends.pure ()
  | heartbeat =>
      exact hcarried (onlySends_sendHeartbeat cfg s)
  | error errorCode errorMessage =>
      exact (OnlySends.sendErrorMessage (fun _ _ h => h) errorCode errorMessage).bind fun _ =>
        OnlySends.pure ()
  | stream data replyExpected =>
      exact hcarried (onlySends_sendStreamData cfg s data replyExpected)
  | normalMessage data =>
      exact hcarried (onlySends_sendNormalMessage cfg s data)
  | request data =>
      exact hcarried (onlySends_sendRequestFrames cfg s data)
  | response data blockerId =>
      exact hcarried (onlySends_sendResponse cfg s data blockerId)

end SakuraNetwork

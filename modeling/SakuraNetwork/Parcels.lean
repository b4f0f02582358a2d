import SakuraNetwork.DestroyedSessions
import SakuraNetwork.Endpoints
import SakuraNetwork.SendResults
import SakuraNetwork.Transfers

/-!
# What the applications exchange

An application hands a parcel to a session, which sends it in one message or in parts.  The
other side collects the parts, and hands the parcel on: to a callback, or to the blocked
request it answers.

* `Parcel`, `SendOperation.parcel`: what is handed over in a call.
* `Body.unpack`: what the receiver makes of a message.
* `unpack_frames`: the messages of a call are its parcel.
* `delivers_handle`: the handlers do what `Body.unpack` says; `idles` for everything else.
-/

namespace SakuraNetwork

open Lib

/-- What one application hands to the other one.  A message comes with the id under which
it can be answered, and a response with the id of the message it answers. -/
inductive Parcel where
  | stream (data : Bytes)
  | message (id : UInt64) (data : Option Bytes)
  | response (blockerId : UInt64) (data : Option Bytes)
deriving DecidableEq

namespace Parcel

/-- Single-block and multi-block data answer the request they name. -/
def ofBlock (id blockerId : UInt64) (data : Option Bytes) : Parcel :=
  if blockerId = 0 then .message id data else .response blockerId data

/-- The parcel goes to a callback, not to a blocked request. -/
def called : Parcel → Bool
  | .response .. => false
  | _ => true

end Parcel

namespace SendOperation

def data : SendOperation → Bytes
  | .stream data _ | .normalMessage data | .request data _ | .response data _ => data

/-- The parcel of a call whose messages got this id. -/
def parcel (id : UInt64) : SendOperation → Parcel
  | .stream data _ => .stream data
  | .normalMessage data | .request data _ => .message id (some data)
  | .response data blockerId => .ofBlock id blockerId (some data)

end SendOperation

/-- The parcel a callback gets. -/
def Output.parcel : Output → Option Parcel
  | .processStreamData _ data => some (.stream data)
  | .processRequestData _ id data => some (.message id data)
  | _ => none

/-! ## Messages and parcels -/

/-- The messages that are collected, by their ids. -/
abbrev Collected :=
  UInt64 → Option MultiblockBuffer

/-- What a message adds to the collected ones, and the parcels it completes. -/
def Body.unpack (buffers : Collected) : Body → Collected × List Parcel
  | .stream _ data => (buffers, [.stream data])
  | .singleBlock multiblockId blockerId data =>
      (buffers, [.ofBlock multiblockId blockerId (some data)])
  | .multiStatic totalSize multiblockId _ partId data _ =>
      (Function.update buffers multiblockId
        (Incoming.append totalSize multiblockId partId data ⟨buffers multiblockId, []⟩).buffer, [])
  | .multiFinish multiblockId blockerId =>
      (Function.update buffers multiblockId none,
        [.ofBlock multiblockId blockerId ((buffers multiblockId).getD {}).incomingData])
  | _ => (buffers, [])

/-- The message belongs to a parcel. -/
def Body.carries : Body → Bool
  | .stream .. | .singleBlock .. | .multiStatic .. | .multiFinish .. => true
  | _ => false

theorem Body.unpack_of_not_carries
    {b : Body}
    (h : b.carries = false)
    (buffers : Collected) :
    b.unpack buffers = (buffers, []) := by
  cases b with
  | stream => cases h
  | singleBlock => cases h
  | multiStatic => cases h
  | multiFinish => cases h
  | _ => rfl

/-- What was collected after some messages. -/
def collectedAfter (bodies : List Body) : Collected :=
  runEvents Body.unpack (fun _ => none) bodies

/-- The parcels in some messages. -/
def parcelsIn (bodies : List Body) : List Parcel :=
  outputsOf Body.unpack (fun _ => none) bodies

theorem collectedAfter_concat (bodies : List Body) (b : Body) :
    collectedAfter (bodies ++ [b]) = (b.unpack (collectedAfter bodies)).1 :=
  runEvents_append _ _ bodies [b]

/-- More messages hold more parcels. -/
theorem parcelsIn_begins
    {bodies bodies' : List Body}
    (h : bodies <+: bodies') :
    parcelsIn bodies <+: parcelsIn bodies' := by
  obtain ⟨rest, rfl⟩ := h
  rw [parcelsIn, parcelsIn, outputsOf_append]
  exact List.prefix_append _ _

/-- Where nothing is half collected, the parcels of what follows come next. -/
theorem parcelsIn_append
    {bodies : List Body}
    (h : collectedAfter bodies = fun _ => none)
    (bodies' : List Body) :
    collectedAfter (bodies ++ bodies') = collectedAfter bodies' ∧
      parcelsIn (bodies ++ bodies') = parcelsIn bodies ++ parcelsIn bodies' := by
  constructor
  · rw [collectedAfter, runEvents_append]
    exact congrArg (fun buffers => runEvents _ buffers bodies') h
  · rw [parcelsIn, outputsOf_append]
    exact congrArg (fun buffers => parcelsIn bodies ++ outputsOf _ buffers bodies') h

/-- Other messages change nothing that is collected, and hold no parcels. -/
theorem runs_of_not_carries
    {bodies : List Body}
    (h : ∀ b ∈ bodies, b.carries = false)
    (buffers : Collected) :
    runEvents Body.unpack buffers bodies = buffers ∧
      outputsOf Body.unpack buffers bodies = [] := by
  induction bodies with
  | nil => exact ⟨rfl, rfl⟩
  | cons b bodies ih =>
      obtain ⟨hcollected, hparcels⟩ := ih fun b' hb' => h b' (List.mem_cons_of_mem b hb')
      have hnone := Body.unpack_of_not_carries (h b List.mem_cons_self) buffers
      constructor
      · rw [runEvents, hnone]
        exact hcollected
      · rw [outputsOf, hnone]
        exact hparcels

theorem parcelsIn_of_not_carries
    {bodies : List Body}
    (h : ∀ b ∈ bodies, b.carries = false) :
    collectedAfter bodies = (fun _ => none) ∧ parcelsIn bodies = [] :=
  runs_of_not_carries h _

/-! ## The messages of a call -/

/-- Parts of one message are collected under its id. -/
theorem unpack_parts
    (multiblockId : UInt64)
    (s : SessionRef)
    (parts : List Body)
    (h : ∀ b ∈ parts, ∃ total number partId part,
      b = .multiStatic total multiblockId number partId part 0)
    (buffers : Collected) :
    runEvents Body.unpack buffers parts =
        Function.update buffers multiblockId
          (runEvents (Incoming.receive s) ⟨buffers multiblockId, []⟩ parts).buffer ∧
      outputsOf Body.unpack buffers parts = [] := by
  induction parts generalizing buffers with
  | nil => exact ⟨(Function.update_eq_self multiblockId buffers).symm, rfl⟩
  | cons b parts ih =>
      obtain ⟨total, number, partId, part, rfl⟩ := h b List.mem_cons_self
      obtain ⟨hcollected, hparcels⟩ := ih (fun b' hb' => h b' (List.mem_cons_of_mem _ hb'))
        (Function.update buffers multiblockId
          (Incoming.append total multiblockId partId part ⟨buffers multiblockId, []⟩).buffer)
      rw [Function.update_idem, Function.update_self] at hcollected
      exact ⟨hcollected, hparcels⟩

/-- The frames of a multi-block message. -/
theorem unpack_outgoingFrames
    (cfg : Config)
    (multiblockId blockerId : UInt64)
    {data : Bytes}
    (hpos : 1 ≤ data.length)
    (hlength : data.length ≤ 2 ^ 32) :
    collectedAfter (MultiblockIo.outgoingFrames cfg multiblockId data blockerId) =
        (fun _ => none) ∧
      parcelsIn (MultiblockIo.outgoingFrames cfg multiblockId data blockerId) =
        [.ofBlock multiblockId blockerId (some data)] := by
  obtain ⟨hcollected, hparcels⟩ := unpack_parts multiblockId 0
    (MultiblockIo.outgoingParts cfg multiblockId data data.length 0)
    (fun b hb => mem_outgoingParts hb) (fun _ => none)
  rw [(receive_all_parts cfg 0 multiblockId [] hpos hlength).1] at hcollected
  -- the finish frame takes what is collected
  have hfinish : ∀ buffer : Option MultiblockBuffer,
      (Body.multiFinish multiblockId blockerId).unpack
          (Function.update (fun _ => none) multiblockId buffer) =
        (fun _ => none, [.ofBlock multiblockId blockerId (buffer.getD {}).incomingData]) := by
    intro buffer
    rw [Body.unpack, Function.update_self, Function.update_idem]
    exact congrArg (fun buffers => (buffers, _))
      (Function.update_eq_self multiblockId (fun _ => none))
  rw [MultiblockIo.outgoingFrames]
  constructor
  · rw [collectedAfter, runEvents_append, hcollected]
    exact congrArg Prod.fst (hfinish _)
  · rw [parcelsIn, outputsOf_append, hparcels, hcollected]
    exact congrArg (fun o : Collected × List Parcel => [] ++ (o.2 ++ [])) (hfinish _)

/-- The frames of a call carry its parcel, and leave nothing behind. -/
theorem SendOperation.unpack_frames
    (cfg : Config)
    {op : SendOperation}
    (hlength : op.data.length ≤ 2 ^ 32)
    (id : UInt64) :
    collectedAfter (op.frames cfg id) = (fun _ => none) ∧
      parcelsIn (op.frames cfg id) = [op.parcel id] := by
  have hpositive := cfg.positive
  have hmessage : ∀ data : Bytes, data.length ≤ 2 ^ 32 →
      collectedAfter (if data.length ≤ cfg.maxSingleMessageSize then [.singleBlock id 0 data]
        else MultiblockIo.outgoingFrames cfg id data 0) = (fun _ => none) ∧
      parcelsIn (if data.length ≤ cfg.maxSingleMessageSize then [.singleBlock id 0 data]
        else MultiblockIo.outgoingFrames cfg id data 0) = [.message id (some data)] := by
    intro data hdata
    split
    · exact ⟨rfl, rfl⟩
    · exact unpack_outgoingFrames cfg id 0 (by omega) hdata
  cases op with
  | stream data replyExpected => exact ⟨rfl, rfl⟩
  | normalMessage data => exact hmessage data hlength
  | request data timeout => exact hmessage data hlength
  | response data blockerId =>
      rw [SendOperation.frames]
      split
      · exact ⟨rfl, rfl⟩
      · exact unpack_outgoingFrames cfg id blockerId (by omega) hlength

end SakuraNetwork

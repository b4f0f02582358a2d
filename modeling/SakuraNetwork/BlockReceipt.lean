import SakuraNetwork.Lanes
import SakuraNetwork.RequestOrigins

/-!
# Blocks in the process that receives them

* `collected_handle`: a message changes what is collected for its own session, as
  `Body.unpack` says.
* `Body.released`: the blocked request that a message answers.
* `released_handle`, `unreleased_handle`: only such a message changes the list of blocked
  requests, and wakes a thread.
-/

namespace SakuraNetwork

open Lib

/-! ## What is collected -/

/-- What is collected for the other sessions stays. -/
def keepsOthers (s : SessionRef) : Effect :=
  Effect.preserving (fun p r => if r = s then fun _ => none else p.collected r) (fun _ => True)

section Others

variable {s : SessionRef} {p p' : Process}

theorem keepsOthers_rel
    (outs : List Output)
    (h : ∀ r, r ≠ s → p'.session r = p.session r) :
    (keepsOthers s).rel p outs p' := by
  refine ⟨funext fun r => ?_, fun _ _ => trivial⟩
  by_cases hr : r = s
  · simp only [hr, if_true]
  · simp only [hr, if_false]
    funext id
    simp only [Process.collected, h r hr]

theorem keepsOthers_members
    (f : Session → Session) :
    (keepsOthers s).rel p [] (p.modifySession s f) :=
  keepsOthers_rel [] fun _ hr => p.modifySession_other f hr

theorem keepsOthers_data : AdmitsData (keepsOthers s) s True (fun _ => True) := by
  constructor
  · intro p p' outs hframe _
    exact keepsOthers_rel outs hframe.other
  · intro _ p l
    exact keepsOthers_rel [] fun _ _ => rfl
  · intro _ p f
    exact keepsOthers_members _
  · intro p
    exact keepsOthers_members _
  · intro p data _
    exact keepsOthers_rel _ fun _ _ => rfl
  · intro p id data _
    exact keepsOthers_rel _ fun _ _ => rfl
  · intro p code text _
    exact keepsOthers_rel _ fun _ _ => rfl
  · intro p id data _
    exact keepsOthers_rel _ fun _ _ => rfl

theorem keepsOthers_session : AdmitsSession (keepsOthers s) s := by
  constructor
  · intro p c
    exact keepsOthers_rel [] fun _ _ => rfl
  · intro p id
    exact keepsOthers_rel [] fun _ _ => rfl
  · intro p id
    exact keepsOthers_rel [] fun _ _ => rfl
  · intro p f _ _
    exact keepsOthers_members _
  · intro p sessionId identifier
    exact keepsOthers_rel _ fun _ _ => rfl
  · intro p identifier
    exact keepsOthers_rel _ fun _ _ => rfl

end Others

/-- The handler of a message stays within what all its steps admit. -/
theorem within_handle
    {E : Effect}
    {s : SessionRef}
    (hD : AdmitsData E s True (fun _ => True))
    (hE : AdmitsSession E s)
    {m : Message}
    (hplain : m.body.Plain) :
    (m.handle s).Within E := by
  have hbody : (m.body.handle s m.messageId).Within E := by
    cases hcarries : m.body.carries with
    | true => exact within_carries hD hcarries m.messageId
    | false => exact within_not_carries hD hE (fun _ _ => trivial) hplain hcarries m.messageId
  refine Act.Within.ite (fun _ => ?_) fun _ => hbody
  exact (within_removeMessage hD trivial _ _).bind fun _ => hbody

theorem Body.addressed_of_blockId
    {b : Body}
    (h : ∀ id, b.blockId = some id → id ≠ 0) :
    b.Addressed := by
  cases b with
  | multiStatic totalSize multiblockId => exact h multiblockId rfl
  | multiFinish multiblockId => exact h multiblockId rfl
  | _ => exact trivial

/-- A message changes what is collected for its own session. -/
theorem collected_handle
    {s : SessionRef}
    {p : Process}
    (hallocation : ∀ size, p.allocation size = true)
    {m : Message}
    (hplain : m.body.Plain)
    (haddressed : m.body.Addressed) :
    ((m.handle s).run p).process.collected =
      Function.update p.collected s (m.body.unpack (p.collected s)).1 := by
  funext r
  by_cases hr : r = s
  · subst hr
    rw [Function.update_self]
    exact (delivers_handle hallocation hplain haddressed).collected
  · have hothers : (keepsOthers s).rel p ((m.handle s).run p).outputs
        ((m.handle s).run p).process := within_handle keepsOthers_data keepsOthers_session hplain p
    have hsame := congrFun hothers.1 r
    simp only [hr, if_false] at hsame
    rw [Function.update_of_ne hr]
    exact hsame

/-! ## Blocked requests -/

/-- The blocked request that a message answers. -/
def Body.released : Body → Option UInt64
  | .singleBlock _ blockerId _ | .multiFinish _ blockerId =>
      if blockerId = 0 then none else some blockerId
  | _ => none

/-- What answers no request holds no response. -/
theorem Body.unpack_of_not_released
    {b : Body}
    (h : b.released = none)
    (buffers : Collected)
    (id : UInt64)
    (data : Option Bytes) :
    .response id data ∉ (b.unpack buffers).2 := by
  have hblock : ∀ {multiblockId blockerId : UInt64} {bytes : Option Bytes},
      (if blockerId = 0 then none else some blockerId) = none →
        .response id data ∉ [Parcel.ofBlock multiblockId blockerId bytes] := by
    intro multiblockId blockerId bytes hnone hmem
    have hzero : blockerId = 0 := by
      by_contra hne
      simp [hne] at hnone
    rw [Parcel.ofBlock, if_pos hzero] at hmem
    cases List.mem_singleton.mp hmem
  cases b with
  | singleBlock => exact hblock h
  | multiFinish => exact hblock h
  | stream => exact fun hmem => Parcel.noConfusion (List.mem_singleton.mp hmem)
  | _ => exact List.not_mem_nil

/-- What answers a request ends a message. -/
theorem Body.blockId_of_released
    {b : Body}
    {id : UInt64}
    (h : b.released = some id) :
    ∃ m, b.blockId = some m := by
  cases b with
  | singleBlock multiblockId => exact ⟨multiblockId, rfl⟩
  | multiFinish multiblockId => exact ⟨multiblockId, rfl⟩
  | _ => cases h

/-- The list of blocked requests stays, and no thread is woken. -/
def wakesNobody : Effect :=
  Effect.preserving Process.blockerList (fun o => ∀ id, o ≠ .notifyOne id)

section Unreleased

variable {s : SessionRef} {p : Process}

theorem wakesNobody_rel
    {p' : Process}
    {outs : List Output}
    (h : p'.blockerList = p.blockerList)
    (houts : ∀ o ∈ outs, ∀ id, o ≠ .notifyOne id) :
    wakesNobody.rel p outs p' :=
  ⟨h, houts⟩

theorem wakesNobody_output
    {o : Output}
    (ho : ∀ id, o ≠ .notifyOne id) :
    wakesNobody.rel p [o] p :=
  ⟨rfl, fun _ hmem => List.mem_singleton.mp hmem ▸ ho⟩

theorem wakesNobody_data : AdmitsData wakesNobody s True (fun _ => False) := by
  have hnone : ∀ o ∈ ([] : List Output), ∀ id, o ≠ .notifyOne id :=
    fun o ho => absurd ho List.not_mem_nil
  constructor
  · intro p p' outs hframe houts
    refine wakesNobody_rel hframe.blockerList fun o ho id => ?_
    obtain ⟨m, rfl, _⟩ := houts o ho
    exact Output.noConfusion
  · intro _ p l
    exact wakesNobody_rel rfl hnone
  · intro _ p f
    exact wakesNobody_rel rfl hnone
  · intro p
    exact wakesNobody_rel rfl hnone
  · intro p data _
    exact wakesNobody_output fun _ => Output.noConfusion
  · intro p id data _
    exact wakesNobody_output fun _ => Output.noConfusion
  · intro p code text _
    exact wakesNobody_output fun _ => Output.noConfusion
  · intro p id data hreleased
    exact hreleased.elim

theorem wakesNobody_session : AdmitsSession wakesNobody s := by
  have hnone : ∀ o ∈ ([] : List Output), ∀ id, o ≠ .notifyOne id :=
    fun o ho => absurd ho List.not_mem_nil
  constructor
  · intro p c
    exact wakesNobody_rel rfl hnone
  · intro p id
    exact wakesNobody_rel rfl hnone
  · intro p id
    exact wakesNobody_rel rfl hnone
  · intro p f _ _
    exact wakesNobody_rel rfl hnone
  · intro p sessionId identifier
    exact wakesNobody_output fun _ => Output.noConfusion
  · intro p identifier
    exact wakesNobody_output fun _ => Output.noConfusion

theorem wakesNobody_reply
    {body : Body}
    (hbody : body.Plain)
    (messageId : UInt32) :
    (do let _ ← sendReply s messageId body : Act Unit).Within wakesNobody :=
  ((OnlySends.sendReply (P := Body.Plain) hbody _).within_plain wakesNobody_data).bind fun _ =>
    Act.Within.pure ()

/-- The handler of a message that answers no request wakes nobody. -/
theorem wakesNobody_body
    {b : Body}
    (hplain : b.Plain)
    (hnone : b.released = none)
    (messageId : UInt32) :
    (b.handle s messageId).Within wakesNobody := by
  have hD : AdmitsData wakesNobody s True (fun _ => False) := wakesNobody_data
  cases b with
  | singleBlock multiblockId blockerId data =>
      have hzero : blockerId = 0 := by
        by_contra hne
        simp [Body.released, hne] at hnone
      have hbody : (Body.singleBlock multiblockId blockerId data).handle s messageId = (do
          Act.emit (.processRequestData s multiblockId (some data))
          let _ ← sendDataSingleBlockReply s messageId : Act Unit) := by
        simp [Body.handle, hzero]
      rw [hbody]
      exact Act.Within.bind (fun p => hD.request p _ _ trivial) fun _ =>
        wakesNobody_reply (by exact rfl) messageId
  | multiFinish multiblockId blockerId =>
      have hzero : blockerId = 0 := by
        by_contra hne
        simp [Body.released, hne] at hnone
      have hbody : (Body.multiFinish multiblockId blockerId).handle s messageId = (do
          let buffer ← MultiblockIo.getIncomingBuffer s multiblockId
          Act.emit (.processRequestData s multiblockId buffer.incomingData)
          let _ ← MultiblockIo.removeMultiblockBuffer s multiblockId : Act Unit) := by
        simp [Body.handle, hzero]
      rw [hbody]
      refine (within_getIncomingBuffer multiblockId).bind fun _ => ?_
      refine Act.Within.bind (fun p => hD.request p _ _ trivial) fun _ => ?_
      exact (within_removeMultiblockBuffer hD trivial multiblockId).bind fun _ => Act.Within.pure ()
  | stream replyExpected data =>
      exact Act.Within.bind (fun p => hD.stream p data trivial) fun _ =>
        Act.Within.ite (fun _ => wakesNobody_reply (by exact rfl) messageId) fun _ =>
          Act.Within.pure ()
  | multiStatic totalSize multiblockId totalPartNumber partId data blockerId =>
      have hwrite : (do
          let _ ← MultiblockIo.writeIntoIncomingBuffer s multiblockId (pure data) :
            Act Unit).Within wakesNobody := by
        refine Act.Within.bind (fun p => ?_) fun _ => Act.Within.pure ()
        rw [MultiblockIo.writeIntoIncomingBuffer_pure_process,
          MultiblockIo.writeIntoIncomingBuffer_pure_outputs]
        exact hD.incomingBuffer trivial p
          (fun b => b.modify multiblockId (MultiblockIo.addData data))
      refine Act.Within.ite (fun _ => ?_) fun _ => hwrite
      exact (within_createIncomingBuffer hD trivial multiblockId totalSize).bind fun _ => hwrite
  | _ => exact within_not_carries hD wakesNobody_session (fun _ _ => trivial) hplain rfl messageId

/-- A message that answers no request leaves the list of blocked requests, and wakes no
thread. -/
theorem unreleased_handle
    {m : Message}
    (hplain : m.body.Plain)
    (hnone : m.body.released = none) :
    ((m.handle s).run p).process.blockerList = p.blockerList ∧
      ∀ id, .notifyOne id ∉ ((m.handle s).run p).outputs := by
  have hwithin : (m.handle s).Within wakesNobody := by
    have hbody := wakesNobody_body (s := s) hplain hnone m.messageId
    refine Act.Within.ite (fun _ => ?_) fun _ => hbody
    exact (within_removeMessage (wakesNobody_data (s := s)) trivial _ _).bind fun _ => hbody
  exact ⟨(hwithin p).1, fun id hmem => (hwithin p).2 _ hmem id rfl⟩

end Unreleased

/-- A message that answers a request stores its parcel in the entry, and notifies the
thread that waits for it. -/
theorem released_handle
    {s : SessionRef}
    {p : Process}
    {m : Message}
    (haddressed : m.body.Addressed)
    {id : UInt64}
    (hreleased : m.body.released = some id) :
    ∃ data, (m.body.unpack (p.collected s)).2 = [.response id data] ∧
      ((m.handle s).run p).process.blockerList =
        MessageBlockerHandler.storeResponse id data p.blockerList ∧
      ∀ id', .notifyOne id' ∈ ((m.handle s).run p).outputs ↔
        .notifyOne id' ∈ ((MessageBlockerHandler.releaseMessage id data).run p).outputs := by
  obtain ⟨sessionId, messageId, body⟩ := m
  cases body with
  | singleBlock multiblockId blockerId data =>
      have hne : blockerId ≠ 0 := by
        rintro rfl
        simp [Body.released] at hreleased
      have hid : blockerId = id := by
        simpa [Body.released, hne] using hreleased
      subst hid
      have hhandle : (Message.mk sessionId messageId (.singleBlock multiblockId blockerId
          data)).handle s = (do
            let _ ← MessageBlockerHandler.releaseMessage blockerId (some data)
            let _ ← sendDataSingleBlockReply s messageId : Act Unit) := by
        rw [Message.handle_of_not_reply (Message.isReply_singleBlock ..)]
        simp [Body.handle, hne]
      have hbody : Body.singleBlockReply.Plain := rfl
      have hreply := wakesNobody_reply (s := s) hbody messageId
        ((MessageBlockerHandler.releaseMessage blockerId (some data)).run p).process
      refine ⟨some data, by rw [Body.unpack, Parcel.ofBlock, if_neg hne], ?_, fun id' => ?_⟩
      · rw [hhandle]
        refine hreply.1.trans ?_
        rw [MessageBlockerHandler.releaseMessage_process]
      · rw [hhandle, Act.run_bind, List.mem_append]
        exact or_iff_left fun hmem => hreply.2 _ hmem id' rfl
  | multiFinish multiblockId blockerId =>
      have hne : blockerId ≠ 0 := by
        rintro rfl
        simp [Body.released] at hreleased
      have hid : blockerId = id := by
        simpa [Body.released, hne] using hreleased
      subst hid
      have hown : p.collected s multiblockId = (p.session s).incomingBuffer.find multiblockId :=
        if_neg haddressed
      have hhandle : (Message.mk sessionId messageId (.multiFinish multiblockId
          blockerId)).handle s = (do
            let buffer ← MultiblockIo.getIncomingBuffer s multiblockId
            let _ ← MessageBlockerHandler.releaseMessage blockerId buffer.incomingData
            let _ ← MultiblockIo.removeMultiblockBuffer s multiblockId : Act Unit) := by
        rw [Message.handle_of_not_reply (Message.isReply_multiFinish ..)]
        simp [Body.handle, hne]
      refine ⟨((p.collected s multiblockId).getD {}).incomingData, ?_, ?_, fun id' => ?_⟩
      · rw [Body.unpack, Parcel.ofBlock, if_neg hne]
      · rw [hhandle, hown]
        simp [Act.run_bind]
      · rw [hhandle, hown]
        simp [Act.run_bind]
  | _ => cases hreleased

end SakuraNetwork

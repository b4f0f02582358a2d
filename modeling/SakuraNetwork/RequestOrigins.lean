import SakuraNetwork.ParcelReceipt
import SakuraNetwork.RequestWaits

/-!
# Which calls block

Only a request blocks its caller, under the id its messages got.  The handlers store
responses and the timers drop entries, but neither adds one.

* `Process.Blocked`: a call is blocked under an id.
* `blocked_handle`, `blocked_operation`: the steps of a side.
-/

namespace SakuraNetwork

open Lib

/-- A call is blocked under this id. -/
def Process.Blocked (p : Process) (id : UInt64) : Prop :=
  id ∈ p.blockerList.map MessageBlocker.blockerId

/-- A response is stored for a blocked call. -/
theorem Process.Answered.blocked
    {p : Process}
    {id : UInt64}
    {data : Bytes}
    (h : p.Answered id data) :
    p.Blocked id := by
  obtain ⟨b, hb, _⟩ := List.mem_map.mp h
  obtain ⟨hmem, hid⟩ := List.mem_filter.mp hb
  exact List.mem_map.mpr ⟨b, hmem, by simpa using hid⟩

/-- Blocked calls stay blocked, and no call blocks. -/
def keepsBlocked : Effect where
  rel := fun p _ p' =>
    p'.blockerList.map MessageBlocker.blockerId = p.blockerList.map MessageBlocker.blockerId
  refl := fun _ => rfl
  trans := fun h h' => h'.trans h

theorem keepsBlocked_data (s : SessionRef) : AdmitsData keepsBlocked s True (fun _ => True) := by
  constructor
  · intro p p' outs hframe _
    exact congrArg (List.map MessageBlocker.blockerId) hframe.blockerList
  · intro _ p l
    rfl
  · intro _ p f
    rfl
  · intro p
    rfl
  · intro p data _
    rfl
  · intro p id data _
    rfl
  · intro p code text _
    rfl
  · intro p id data _
    exact MessageBlockerHandler.map_blockerId_storeResponse id data p.blockerList

theorem keepsBlocked_of_keepsBlockers
    {α : Type}
    {x : Act α}
    (h : x.Within keepsBlockers) :
    x.Within keepsBlocked :=
  fun p => congrArg (List.map MessageBlocker.blockerId) (h p)

theorem Act.Within.blocked
    {α : Type}
    {x : Act α}
    (h : x.Within keepsBlocked)
    {p : Process}
    {id : UInt64}
    (hblocked : (x.run p).process.Blocked id) :
    p.Blocked id := by
  rw [Process.Blocked, h p] at hblocked
  exact hblocked

/-- The handlers of the messages that belong to a parcel. -/
theorem within_carries
    {E : Effect}
    {s : SessionRef}
    {replies : Prop}
    {opens : Prop}
    (hD : AdmitsData E s True (fun _ => True) replies (fun _ => True) opens)
    {b : Body}
    (hcarries : b.carries = true)
    (messageId : UInt32) :
    (b.handle s messageId).Within E := by
  have hreply : ∀ {body : Body}, body.Plain →
      (do let _ ← sendReply s messageId body : Act Unit).Within E := fun hbody =>
    ((OnlySends.sendReply (P := Body.Plain) hbody _).within_plain hD).bind fun _ =>
      Act.Within.pure ()
  cases b with
  | stream replyExpected data =>
      exact Act.Within.bind (fun p => hD.stream p data trivial) fun _ =>
        Act.Within.ite (fun _ => hreply rfl) fun _ => Act.Within.pure ()
  | singleBlock multiblockId blockerId data =>
      refine Act.Within.ite (fun _ => ?_) fun _ => ?_
      · exact (within_releaseMessage hD trivial _).bind fun _ => hreply rfl
      · exact Act.Within.bind (fun p => hD.request p _ _ trivial) fun _ => hreply rfl
  | multiStatic totalSize multiblockId totalPartNumber partId data blockerId =>
      have hwrite : (do
          let _ ← MultiblockIo.writeIntoIncomingBuffer s multiblockId (pure data) : Act Unit).Within
            E := by
        refine Act.Within.bind ?_ fun _ => Act.Within.pure ()
        refine (Act.Within.getSession s).bind fun x => ?_
        cases x.incomingBuffer.find multiblockId with
        | none => exact Act.Within.pure false
        | some _ =>
            refine (Act.Within.pure data).bind fun part => Act.Within.bind ?_ fun _ =>
              Act.Within.pure true
            exact fun q => hD.incomingBuffer trivial q (fun b => b.modify multiblockId _)
      refine Act.Within.ite (fun _ => ?_) fun _ => hwrite
      exact (within_createIncomingBuffer hD trivial multiblockId totalSize).bind fun _ => hwrite
  | multiFinish multiblockId blockerId =>
      have hremove := (within_removeMultiblockBuffer hD trivial multiblockId).bind
        (f := fun _ => (pure () : Act Unit)) fun _ => Act.Within.pure ()
      refine (within_getIncomingBuffer multiblockId).bind fun buffer =>
        Act.Within.ite (fun _ => ?_) fun _ => ?_
      · exact (within_releaseMessage hD trivial _).bind fun _ => hremove
      · exact Act.Within.bind (fun p => hD.request p _ _ trivial) fun _ => hremove
  | _ => cases hcarries

/-- The handlers block no call. -/
theorem blocked_handle
    {s : SessionRef}
    {p : Process}
    {m : Message}
    (hplain : m.body.Plain)
    {id : UInt64}
    (h : ((m.handle s).run p).process.Blocked id) :
    p.Blocked id := by
  have hbody : (m.body.handle s m.messageId).Within keepsBlocked := by
    cases hcarries : m.body.carries with
    | true => exact within_carries (keepsBlocked_data s) hcarries m.messageId
    | false =>
        exact keepsBlocked_of_keepsBlockers (within_not_carries (keepsBlockers_data s)
          (keepsBlockers_session s) (fun _ _ => trivial) hplain hcarries m.messageId)
  refine Act.Within.blocked (x := m.handle s) ?_ h
  refine Act.Within.ite (fun _ => ?_) fun _ => hbody
  exact (within_removeMessage (keepsBlocked_data s) trivial _ _).bind fun _ => hbody

namespace MessageBlockerHandler

variable {id blockerId : UInt64} {l : List MessageBlocker}

theorem mem_ids_withoutBlocker
    (h : id ∈ (withoutBlocker blockerId l).map MessageBlocker.blockerId) :
    id ∈ l.map MessageBlocker.blockerId := by
  obtain ⟨b, hb, hid⟩ := List.mem_map.mp h
  exact List.mem_map.mpr ⟨b, mem_of_mem_withoutFirst hb, hid⟩

theorem mem_ids_expire
    {b : MessageBlocker}
    (h : id ∈ (expire b l).map MessageBlocker.blockerId) :
    id ∈ l.map MessageBlocker.blockerId := by
  unfold expire at h
  split at h
  · rw [map_blockerId_storeResponse] at h
    exact mem_ids_withoutBlocker h
  · exact h

/-- The timer blocks no call. -/
theorem blocked_makeTimerStep
    {p : Process}
    (h : (makeTimerStep.run p).process.Blocked id) :
    p.Blocked id := by
  by_contra hnot
  refine makeTimerStepFrom_keeps (P := fun l => id ∉ l.map MessageBlocker.blockerId) ?_ ?_ _ 0
    hnot h
  · intro l i b hb hl hmem
    obtain ⟨b', hb', hid⟩ := List.mem_map.mp hmem
    rcases List.mem_or_eq_of_mem_set hb' with hold | rfl
    · exact hl (List.mem_map.mpr ⟨b', hold, hid⟩)
    · exact hl (List.mem_map.mpr ⟨b, List.mem_of_getElem? hb, hid⟩)
  · exact fun hl hexpired => hl (mem_ids_expire hexpired)

theorem blocked_removeMessageFromList
    {p : Process}
    (h : ((removeMessageFromList blockerId).run p).process.Blocked id) :
    p.Blocked id := by
  rw [Process.Blocked, removeMessageFromList_process] at h
  exact mem_ids_withoutBlocker h

end MessageBlockerHandler

/-- Of the calls, only a request that succeeds blocks. -/
theorem blocked_operation
    (cfg : Config)
    {s : SessionRef}
    {p : Process}
    {c : Call}
    {id : UInt64}
    (h : (((c.operation s).act cfg).run p).process.Blocked id) :
    p.Blocked id ∨ ∃ data timeout, c.sendOperation = some (.request data timeout) ∧
      (((SendOperation.request data timeout).report cfg s).run p).value = true ∧
        id = p.randIds p.randCount := by
  cases hop : c.sendOperation with
  | some op =>
      rw [Process.Blocked, (run_sendOperation cfg s hop p).1, SendOperation.blockerList_report op,
        List.map_append] at h
      rcases List.mem_append.mp h with hold | hnew
      · exact Or.inl hold
      · split at hnew
        · rename_i hvalue
          cases op with
          | request data timeout =>
              exact Or.inr ⟨data, timeout, rfl, hvalue, List.mem_singleton.mp hnew⟩
          | _ => cases hnew
        · cases hnew
  | none =>
      refine Or.inl ?_
      cases c with
      | heartbeat =>
          have hsends := (onlySends_sendHeartbeat cfg s).within (keepsBlocked_data s)
          exact (hsends.bind fun _ => Act.Within.pure ()).blocked h
      | wake blockerId => exact MessageBlockerHandler.blocked_removeMessageFromList h
      | replyTimer =>
          change id ∈ (ReplyHandler.makeTimerStep.run p).process.blockerList.map _ at h
          rw [ReplyHandler.blockerList_makeTimerStep p] at h
          exact h
      | blockerTimer => exact MessageBlockerHandler.blocked_makeTimerStep h
      | _ => cases hop

end SakuraNetwork

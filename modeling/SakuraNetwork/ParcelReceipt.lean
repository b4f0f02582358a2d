import SakuraNetwork.Parcels
import SakuraNetwork.RequestIsolation

/-!
# Parcels in the process

What an operation of one side does to the parcels of the other side.  Only the handlers of
data collect and deliver; `Body.unpack` says what.  All other operations are idle: they
keep the buffers and call nobody with data.

* `Delivers`: the collected messages after an operation, and the parcels it delivers.
* `delivers_handle`: the handler of a message.
* `idles`, `delivers_of_idle`: the other operations.
-/

namespace SakuraNetwork

open Lib

/-- The collected messages of a session; the id of a message is not 0. -/
def Process.collected (p : Process) (s : SessionRef) : Collected :=
  fun id => if id = 0 then none else (p.session s).incomingBuffer.find id

/-- The buffer of one message was changed. -/
theorem collected_eq_update
    {s : SessionRef}
    {p p' : Process}
    {multiblockId : UInt64}
    {buffer : Option MultiblockBuffer}
    (hid : multiblockId ≠ 0)
    (h : ∀ id, (p'.session s).incomingBuffer.find id =
      if id = multiblockId then buffer else (p.session s).incomingBuffer.find id) :
    p'.collected s = Function.update (p.collected s) multiblockId buffer := by
  funext id
  by_cases hzero : id = 0
  · subst hzero
    rw [Function.update_of_ne hid.symm, Process.collected, Process.collected, if_pos rfl,
      if_pos rfl]
  · rw [Process.collected, if_neg hzero, h id]
    by_cases hsame : id = multiblockId
    · subst hsame
      rw [if_pos rfl, Function.update_self]
    · rw [if_neg hsame, Function.update_of_ne hsame, Process.collected, if_neg hzero]

/-- The parts of a message have an id. -/
def Body.Addressed : Body → Prop
  | .multiStatic _ multiblockId .. => multiblockId ≠ 0
  | .multiFinish multiblockId _ => multiblockId ≠ 0
  | _ => True

/-- A blocked request holds these data as its response. -/
def Process.Answered (p : Process) (id : UInt64) (data : Bytes) : Prop :=
  some data ∈ MessageBlockerHandler.responses id p.blockerList

/-- An operation leads to these collected messages, calls the application with the parcels
that are not responses, and answers blocked requests with those that are. -/
structure Delivers
    {α : Type}
    (s : SessionRef)
    (p : Process)
    (x : Act α)
    (buffers : Collected)
    (parcels : List Parcel) : Prop where
  collected : (x.run p).process.collected s = buffers
  called : (x.run p).outputs.filterMap Output.parcel = parcels.filter Parcel.called
  answers : ∀ id data, (x.run p).process.Answered id data →
    p.Answered id data ∨ .response id (some data) ∈ parcels
  allocation : (x.run p).process.allocation = p.allocation

namespace Delivers

variable {α β : Type} {s : SessionRef} {p : Process}

theorem bind
    {x : Act α}
    {f : α → Act β}
    {buffers buffers' : Collected}
    {parcels parcels' : List Parcel}
    (hx : Delivers s p x buffers parcels)
    (hf : Delivers s (x.run p).process (f (x.run p).value) buffers' parcels') :
    Delivers s p (x >>= f) buffers' (parcels ++ parcels') := by
  constructor
  · exact hf.collected
  · rw [Act.run_bind, List.filterMap_append, List.filter_append, hx.called, hf.called]
  · intro id data hanswered
    rcases hf.answers id data hanswered with hbefore | hnow
    · rcases hx.answers id data hbefore with hold | hfirst
      · exact Or.inl hold
      · exact Or.inr (List.mem_append_left _ hfirst)
    · exact Or.inr (List.mem_append_right _ hnow)
  · exact hf.allocation.trans hx.allocation

/-- An operation that does the same. -/
theorem congr
    {x : Act α}
    {y : Act β}
    {buffers : Collected}
    {parcels : List Parcel}
    (hx : Delivers s p x buffers parcels)
    (hprocess : (y.run p).process = (x.run p).process)
    (houtputs : (y.run p).outputs = (x.run p).outputs) :
    Delivers s p y buffers parcels := by
  constructor
  · rw [hprocess]
    exact hx.collected
  · rw [houtputs]
    exact hx.called
  · rw [hprocess]
    exact hx.answers
  · rw [hprocess]
    exact hx.allocation

/-- The value is not used. -/
theorem discard
    {x : Act α}
    {buffers : Collected}
    {parcels : List Parcel}
    (hx : Delivers s p x buffers parcels) :
    Delivers s p (do let _ ← x : Act Unit) buffers parcels :=
  hx.congr rfl (List.append_nil _)

end Delivers

/-! ## Idle operations -/

/-- The collected messages stay, and the application is not called with data. -/
def idles (s : SessionRef) : Effect :=
  Effect.preserving (fun p => (p.collected s, p.allocation)) (fun o => o.parcel = none)

section Idles

variable {s : SessionRef}

theorem idles_members
    {p : Process}
    {r : SessionRef}
    {f : Session → Session}
    (hf : ∀ x, (f x).incomingBuffer = x.incomingBuffer) :
    (idles s).rel p [] (p.modifySession r f) := by
  refine ⟨?_, fun o ho => absurd ho List.not_mem_nil⟩
  refine Prod.ext (funext fun id => ?_) rfl
  by_cases hr : s = r
  · subst hr
    simp only [Process.collected, Process.modifySession_same, hf]
  · simp only [Process.collected, p.modifySession_other f hr]

theorem idles_output
    {p : Process}
    {o : Output}
    (ho : o.parcel = none) :
    (idles s).rel p [o] p := by
  refine ⟨rfl, fun o' ho' => ?_⟩
  rw [List.mem_singleton.mp ho']
  exact ho

theorem idles_sends
    {p p' : Process}
    {outs : List Output}
    (hframe : SendFrame s p p')
    (houts : ∀ o ∈ outs, ∃ m, o = .sent s m) :
    (idles s).rel p outs p' := by
  obtain ⟨k, c, hself⟩ := hframe.self
  constructor
  · refine Prod.ext (funext fun id => ?_) hframe.allocation
    simp only [Process.collected, hself]
  · intro o ho
    obtain ⟨m, rfl⟩ := houts o ho
    rfl

theorem idles_data :
    AdmitsData (idles s) s False (fun _ => True) True (fun o => o.parcel = none) := by
  constructor
  · intro p p' outs hframe houts
    exact idles_sends hframe fun o ho => (houts o ho).imp fun _ h => h.1
  · intro _ p l
    exact (idles s).refl p
  · exact fun h => h.elim
  · intro p
    exact idles_members fun _ => rfl
  · intro p data hcalled
    exact idles_output hcalled
  · intro p id data hcalled
    exact idles_output hcalled
  · intro p code text hcalled
    exact idles_output hcalled
  · intro p id data _
    refine ⟨rfl, fun o ho => ?_⟩
    split at ho
    · rw [List.mem_singleton.mp ho]
      rfl
    · cases ho

theorem idles_session : AdmitsSession (idles s) s := by
  constructor
  · intro p c
    exact (idles s).refl p
  · intro p id
    exact (idles s).refl p
  · intro p id
    exact (idles s).refl p
  · intro p f hf _
    exact idles_members hf
  · intro p sessionId identifier
    exact idles_output rfl
  · intro p identifier
    exact idles_output rfl

theorem idles_timers : AdmitsTimers (idles s) := by
  constructor
  · intro p l
    exact (idles s).refl p
  · intro p l
    exact (idles s).refl p
  · intro p r
    exact idles_members fun _ => rfl
  · intro p r code text
    exact idles_output rfl
  · intro p id
    exact idles_output rfl

/-- The buffer that `closeSession` removes is the one of no message. -/
theorem idles_removeMultiblockBuffer :
    (MultiblockIo.removeMultiblockBuffer s 0).Within (idles s) := by
  intro p
  rw [MultiblockIo.run_removeMultiblockBuffer]
  refine ⟨Prod.ext (funext fun id => ?_) rfl, fun o ho => absurd ho List.not_mem_nil⟩
  by_cases hid : id = 0
  · simp only [Process.collected, hid, if_true]
  · simp [Process.collected, hid, OrderedMap.find_remove]

theorem idles_beginClose (replyExpected : Bool) :
    (beginClose s replyExpected).Within (idles s) := by
  refine (Act.Within.getSession s).bind fun x => Act.Within.ite (fun _ => ?_) fun _ =>
    Act.Within.pure false
  refine Act.Within.bind (fun p => (idles_data (s := s)).replyList trivial p _) fun _ =>
    idles_removeMultiblockBuffer.bind fun _ => Act.Within.bind ?_ fun _ => Act.Within.pure true
  exact (OnlySends.sendNew (P := Body.Plain) (by exact rfl)).within_plain idles_data

theorem idles_closeSession (replyExpected : Bool) :
    (closeSession s replyExpected).Within (idles s) := by
  have hstart : ∀ reply, (sendSessionCloseStart s reply).Within (idles s) := fun reply =>
    (OnlySends.sendNew (P := Body.Plain) (by exact rfl)).within_plain idles_data
  refine (Act.Within.getSession s).bind fun x => Act.Within.ite (fun _ => ?_) fun _ =>
    Act.Within.pure false
  refine Act.Within.bind (fun p => (idles_data (s := s)).replyList trivial p _) fun _ =>
    idles_removeMultiblockBuffer.bind fun _ => Act.Within.ite (fun _ => hstart _) fun _ => ?_
  exact (hstart _).bind fun _ => within_endSession idles_session

theorem idles_startSession (sessionIdentifier : Bytes) :
    (startSession s sessionIdentifier).Within (idles s) := by
  refine Act.Within.ite (fun _ => Act.Within.pure false) fun _ =>
    (within_increaseSessionIdCounter idles_session).bind fun _ =>
      (within_connectiSession idles_session _).bind fun _ => Act.Within.ite (fun _ => ?_) fun _ =>
        (idles_closeSession false).bind fun _ => Act.Within.pure false
  refine (within_addSession idles_session _).bind fun _ => Act.Within.bind ?_ fun _ =>
    Act.Within.pure true
  refine (Act.Within.getSession s).bind fun _ => (Act.Within.touch _).bind fun _ => ?_
  exact (OnlySends.sendNew (P := fun _ => True) trivial).within idles_data

end Idles

/-- An idle operation that keeps the blocked requests delivers nothing. -/
theorem delivers_of_idle
    {α : Type}
    {s : SessionRef}
    {p : Process}
    {x : Act α}
    (hidle : x.Within (idles s))
    (hanswers : ∀ id data, (x.run p).process.Answered id data → p.Answered id data) :
    Delivers s p x (p.collected s) [] := by
  obtain ⟨hview, hquiet⟩ := hidle p
  constructor
  · exact congrArg Prod.fst hview
  · exact List.filterMap_eq_nil_iff.mpr hquiet
  · exact fun id data h => Or.inl (hanswers id data h)
  · exact congrArg Prod.snd hview

theorem delivers_of_keepsBlockers
    {α : Type}
    {s : SessionRef}
    {p : Process}
    {x : Act α}
    (hidle : x.Within (idles s))
    (hblockers : x.Within keepsBlockers) :
    Delivers s p x (p.collected s) [] := by
  refine delivers_of_idle hidle fun id data h => ?_
  rw [Process.Answered, hblockers p] at h
  exact h

/-! ## Blocked requests -/

namespace MessageBlockerHandler

variable {id blockerId : UInt64} {l : List MessageBlocker}

/-- A response is stored for its request only. -/
theorem mem_responses_storeResponse
    {data : Option Bytes}
    {answer : Bytes}
    (h : some answer ∈ responses id (storeResponse blockerId data l)) :
    some answer ∈ responses id l ∨ id = blockerId ∧ data = some answer := by
  rw [responses_storeResponse] at h
  split at h
  · rename_i hid
    cases hl : responses id l with
    | nil =>
        rw [hl] at h
        cases h
    | cons old rest =>
        rw [hl] at h
        rcases List.mem_cons.mp h with hdata | hrest
        · exact Or.inr ⟨hid, hdata.symm⟩
        · exact Or.inl (List.mem_cons_of_mem old hrest)
  · exact Or.inl h

theorem mem_responses_withoutBlocker
    {answer : Option Bytes}
    (h : answer ∈ responses id (withoutBlocker blockerId l)) :
    answer ∈ responses id l := by
  obtain ⟨b, hb, hdata⟩ := List.mem_map.mp h
  obtain ⟨hmem, hid⟩ := List.mem_filter.mp hb
  exact List.mem_map.mpr
    ⟨b, List.mem_filter.mpr ⟨mem_of_mem_withoutFirst hmem, hid⟩, hdata⟩

/-- A request that timed out gets no data. -/
theorem mem_responses_expire
    {b : MessageBlocker}
    {answer : Bytes}
    (h : some answer ∈ responses id (expire b l)) :
    some answer ∈ responses id l := by
  unfold expire at h
  split at h
  · rcases mem_responses_storeResponse h with hrest | ⟨_, hnone⟩
    · exact mem_responses_withoutBlocker hrest
    · cases hnone
  · exact h

/-- What counting an entry down and expiring one keep, the timer keeps. -/
theorem makeTimerStepFrom_keeps
    {P : List MessageBlocker → Prop}
    (hset : ∀ {l : List MessageBlocker} {i : Nat} {b : MessageBlocker}, l[i]? = some b → P l →
      P (l.set i { b with timer := b.timer - 1 }))
    (hexpire : ∀ {b : MessageBlocker} {l : List MessageBlocker}, P l → P (expire b l))
    (fuel i : Nat)
    {p : Process}
    (h : P p.blockerList) :
    P ((makeTimerStepFrom fuel i).run p).process.blockerList := by
  induction fuel generalizing i p with
  | zero => exact h
  | succ fuel ih =>
      rw [makeTimerStepFrom_process]
      cases hb : p.blockerList[i]? with
      | none => exact h
      | some b => exact ih (i + 1) (hexpire (hset hb h))

/-- The timer answers nobody. -/
theorem answered_makeTimerStep
    {p : Process}
    {answer : Bytes}
    (h : (makeTimerStep.run p).process.Answered id answer) :
    p.Answered id answer := by
  by_contra hnot
  refine makeTimerStepFrom_keeps (P := fun l => some answer ∉ responses id l) ?_ ?_ _ 0 hnot h
  · intro l i b hb hl
    rw [responses_set (b := b) hb (by rfl) (by rfl) id]
    exact hl
  · exact fun hl hexpired => hl (mem_responses_expire hexpired)

/-- A woken request returns what its entry holds. -/
theorem answered_of_removeMessageFromList
    {p : Process}
    {answer : Bytes}
    (h : ((removeMessageFromList id).run p).value = some answer) :
    p.Answered id answer := by
  rw [removeMessageFromList_value] at h
  cases htake : takeBlocker id p.blockerList with
  | none =>
      rw [htake] at h
      cases h
  | some found =>
      rw [htake] at h
      have hid : found.1.blockerId = id := by
        simpa using takeFirst_pred htake
      have hperm := responses_perm (takeFirst_perm htake) id
      rw [responses_cons, if_pos hid] at hperm
      exact hperm.mem_iff.mpr (by rw [← h]; exact List.mem_cons_self)

theorem answered_removeMessageFromList
    {p : Process}
    {answer : Bytes}
    (h : ((removeMessageFromList blockerId).run p).process.Answered id answer) :
    p.Answered id answer := by
  rw [Process.Answered, removeMessageFromList_process] at h
  exact mem_responses_withoutBlocker h

end MessageBlockerHandler

/-! ## The handlers -/

/-- The handlers of messages that belong to no parcel. -/
theorem within_not_carries
    {E : Effect}
    {s : SessionRef}
    {buffers : Prop}
    {released : UInt64 → Prop}
    {replies : Prop}
    {called : Output → Prop}
    {opens : Prop}
    (hD : AdmitsData E s buffers released replies called opens)
    (hE : AdmitsSession E s)
    (herror : ∀ code text, called (.processError s code text))
    {b : Body}
    (hplain : b.Plain)
    (hcarries : b.carries = false)
    (messageId : UInt32) :
    (b.handle s messageId).Within E := by
  have hreply : ∀ {body : Body}, body.Plain →
      (do let _ ← sendReply s messageId body : Act Unit).Within E := fun hbody =>
    ((OnlySends.sendReply (P := Body.Plain) hbody _).within_plain hD).bind fun _ =>
      Act.Within.pure ()
  cases b with
  | sessionInitStart => cases hplain
  | sessionInitReply => cases hplain
  | sessionCloseStart replyExpected =>
      refine Act.Within.bind ?_ fun _ => (within_removeSession hE 0).bind fun _ =>
        (within_endSession hE).bind fun _ => Act.Within.pure ()
      exact (OnlySends.sendReply (P := Body.Plain) (by exact rfl) _).within_plain hD
  | sessionCloseReply =>
      exact (within_removeSession hE 0).bind fun _ => (within_disconnectSession hE).bind fun _ =>
        Act.Within.pure ()
  | heartbeatStart => exact hreply rfl
  | error subType message =>
      exact Act.Within.bind (fun p => hD.initState p) fun _ p => hD.error p _ _ (herror _ _)
  | heartbeatReply => exact Act.Within.pure ()
  | streamReply => exact Act.Within.pure ()
  | singleBlockReply => exact Act.Within.pure ()
  | _ => cases hcarries

section Handlers

variable {s : SessionRef} {p : Process}

/-- A reply delivers nothing. -/
theorem delivers_reply
    {body : Body}
    (hbody : body.Plain)
    (messageId : UInt32) :
    Delivers s p (do let _ ← sendReply s messageId body : Act Unit) (p.collected s) [] := by
  have hsends : OnlySends s Body.Plain (sendReply s messageId body) :=
    OnlySends.sendReply hbody messageId
  exact (delivers_of_keepsBlockers (hsends.within_plain idles_data)
    (hsends.within_plain (keepsBlockers_data s))).discard

/-- The application is called with a parcel. -/
theorem delivers_call
    {o : Output}
    {parcel : Parcel}
    (ho : o.parcel = some parcel)
    (hcalled : parcel.called = true) :
    Delivers s p (Act.emit o) (p.collected s) [parcel] := by
  constructor
  · rfl
  · rw [Act.run_emit, List.filterMap_cons_some ho, List.filter_cons_of_pos hcalled]
    rfl
  · exact fun id data h => Or.inl h
  · rfl

/-- A response is stored for the blocked request. -/
theorem delivers_release
    (blockerId : UInt64)
    (data : Option Bytes) :
    Delivers s p (MessageBlockerHandler.releaseMessage blockerId data) (p.collected s)
      [.response blockerId data] := by
  constructor
  · rw [MessageBlockerHandler.releaseMessage_process]
    rfl
  · rw [MessageBlockerHandler.releaseMessage_outputs]
    split <;> rfl
  · intro id answer h
    rw [Process.Answered, MessageBlockerHandler.releaseMessage_process] at h
    rcases MessageBlockerHandler.mem_responses_storeResponse h with hold | ⟨rfl, rfl⟩
    · exact Or.inl hold
    · exact Or.inr List.mem_cons_self
  · rw [MessageBlockerHandler.releaseMessage_process]

theorem delivers_stream
    (replyExpected : Bool)
    (data : Bytes)
    (messageId : UInt32) :
    Delivers s p ((Body.stream replyExpected data).handle s messageId) (p.collected s)
      [.stream data] := by
  have hcall : Delivers s p (Act.emit (.processStreamData s data)) (p.collected s)
      [.stream data] := delivers_call rfl rfl
  cases replyExpected with
  | true =>
      exact hcall.bind (f := fun _ => do
        let _ ← sendDataStreamReply s messageId) (delivers_reply (by exact rfl) messageId)
  | false =>
      exact hcall.congr rfl rfl

theorem delivers_singleBlock
    (multiblockId blockerId : UInt64)
    (data : Bytes)
    (messageId : UInt32) :
    Delivers s p ((Body.singleBlock multiblockId blockerId data).handle s messageId)
      (p.collected s) [.ofBlock multiblockId blockerId (some data)] := by
  by_cases hblocker : blockerId = 0
  · have hbody : (Body.singleBlock multiblockId blockerId data).handle s messageId = (do
        Act.emit (.processRequestData s multiblockId (some data))
        let _ ← sendDataSingleBlockReply s messageId : Act Unit) := by
      simp [Body.handle, hblocker]
    have hcall : Delivers s p (Act.emit (.processRequestData s multiblockId (some data)))
        (p.collected s) [.message multiblockId (some data)] := delivers_call rfl rfl
    rw [hbody, Parcel.ofBlock, if_pos hblocker]
    exact hcall.bind (f := fun _ => do
      let _ ← sendDataSingleBlockReply s messageId) (delivers_reply (by exact rfl) messageId)
  · have hbody : (Body.singleBlock multiblockId blockerId data).handle s messageId = (do
        let _ ← MessageBlockerHandler.releaseMessage blockerId (some data)
        let _ ← sendDataSingleBlockReply s messageId : Act Unit) := by
      simp [Body.handle, hblocker]
    have hrelease := delivers_release (s := s) (p := p) blockerId (some data)
    have hreply : Delivers s
        ((MessageBlockerHandler.releaseMessage blockerId (some data)).run p).process
        (do let _ ← sendDataSingleBlockReply s messageId : Act Unit) _ [] :=
      delivers_reply (by exact rfl) messageId
    rw [hrelease.collected] at hreply
    rw [hbody, Parcel.ofBlock, if_neg hblocker]
    exact hrelease.bind (f := fun _ => do
      let _ ← sendDataSingleBlockReply s messageId) hreply

/-- A part is collected. -/
theorem delivers_multiStatic
    (hallocation : ∀ size, p.allocation size = true)
    {totalSize multiblockId blockerId : UInt64}
    {totalPartNumber partId : UInt32}
    {data : Bytes}
    (hid : multiblockId ≠ 0)
    (messageId : UInt32) :
    let b := Body.multiStatic totalSize multiblockId totalPartNumber partId data blockerId
    Delivers s p (b.handle s messageId) (b.unpack (p.collected s)).1 [] := by
  intro b
  have hpart := fun id responseId => incoming_multiStatic (s := s) hallocation messageId totalSize
    multiblockId totalPartNumber partId data blockerId id responseId
  have hown : p.collected s multiblockId = (p.session s).incomingBuffer.find multiblockId :=
    if_neg hid
  constructor
  · refine collected_eq_update hid fun id => (congrArg Incoming.buffer (hpart id 0).1).trans ?_
    split
    · rename_i hsame
      subst hsame
      rw [hown]
      rfl
    · rfl
  · rw [(hpart 0 0).2.1]
    rfl
  · intro id answer h
    have hwaiting := congrArg Incoming.waiting (hpart 0 id).1
    refine Or.inl ?_
    have hsame : MessageBlockerHandler.responses id
        ((b.handle s messageId).run p).process.blockerList =
          MessageBlockerHandler.responses id p.blockerList := by
      refine hwaiting.trans ?_
      split <;> rfl
    rw [Process.Answered, hsame] at h
    exact h
  · exact (hpart 0 0).2.2

/-- The finish frame delivers what was collected. -/
theorem delivers_multiFinish
    {multiblockId blockerId : UInt64}
    (hid : multiblockId ≠ 0)
    (messageId : UInt32) :
    let b := Body.multiFinish multiblockId blockerId
    Delivers s p (b.handle s messageId) (b.unpack (p.collected s)).1
      (b.unpack (p.collected s)).2 := by
  intro b
  have hfinish := fun id responseId => incoming_multiFinish (s := s) (p := p) messageId
    multiblockId blockerId id responseId
  have hown : p.collected s multiblockId = (p.session s).incomingBuffer.find multiblockId :=
    if_neg hid
  have hparcels : (b.unpack (p.collected s)).2 = [.ofBlock multiblockId blockerId
      ((p.incoming s multiblockId blockerId).buffer.getD {}).incomingData] := by
    change [Parcel.ofBlock multiblockId blockerId
      ((p.collected s multiblockId).getD {}).incomingData] = _
    rw [hown]
    rfl
  constructor
  · exact collected_eq_update hid fun id => (hfinish id 0).1
  · rw [(hfinish 0 0).2.2.1, hparcels, Incoming.deliver, Parcel.ofBlock]
    by_cases hblocker : blockerId = 0
    · rw [if_pos hblocker, if_pos hblocker]
      rfl
    · rw [if_neg hblocker, if_neg hblocker]
      split <;> rfl
  · intro id answer h
    have hwaiting := (hfinish 0 id).2.1
    rw [Process.Answered, show MessageBlockerHandler.responses id
      ((b.handle s messageId).run p).process.blockerList = _ from hwaiting] at h
    split at h
    · rename_i hsame
      subst hsame
      rw [hparcels, Parcel.ofBlock]
      rw [Incoming.deliver] at h
      split at h
      · exact Or.inl h
      · rename_i hblocker
        rw [if_neg hblocker]
        split at h
        · exact Or.inl h
        · rename_i old rest hold
          rcases List.mem_cons.mp h with hdata | hrest
          · rw [hdata]
            exact Or.inr List.mem_cons_self
          · refine Or.inl ?_
            change some answer ∈ (p.incoming s multiblockId id).waiting
            rw [hold]
            exact List.mem_cons_of_mem old hrest
    · exact Or.inl h
  · exact (hfinish 0 0).2.2.2

/-- The handler of a message does what `Body.unpack` says. -/
theorem delivers_body
    (hallocation : ∀ size, p.allocation size = true)
    {b : Body}
    (hplain : b.Plain)
    (haddressed : b.Addressed)
    (messageId : UInt32) :
    Delivers s p (b.handle s messageId) (b.unpack (p.collected s)).1
      (b.unpack (p.collected s)).2 := by
  by_cases hcarries : b.carries = false
  · rw [Body.unpack_of_not_carries hcarries]
    exact delivers_of_keepsBlockers
      (within_not_carries idles_data idles_session (fun _ _ => rfl) hplain hcarries messageId)
      (within_not_carries (keepsBlockers_data s) (keepsBlockers_session s) (fun _ _ => trivial)
        hplain hcarries messageId)
  · cases b with
    | stream replyExpected data => exact delivers_stream replyExpected data messageId
    | singleBlock multiblockId blockerId data =>
        exact delivers_singleBlock multiblockId blockerId data messageId
    | multiStatic => exact delivers_multiStatic hallocation haddressed messageId
    | multiFinish => exact delivers_multiFinish haddressed messageId
    | _ => exact absurd rfl hcarries

/-- A reply removes its pending entry first. -/
theorem delivers_handle
    (hallocation : ∀ size, p.allocation size = true)
    {m : Message}
    (hplain : m.body.Plain)
    (haddressed : m.body.Addressed) :
    Delivers s p (m.handle s) (m.body.unpack (p.collected s)).1
      (m.body.unpack (p.collected s)).2 := by
  by_cases hreply : m.isReply = true
  · have hremove : Delivers s p (do
        let _ ← ReplyHandler.removeMessage m.sessionId m.messageId : Act Unit)
          (p.collected s) [] :=
      (delivers_of_keepsBlockers (within_removeMessage idles_data trivial m.sessionId m.messageId)
        (within_removeMessage (keepsBlockers_data s) trivial m.sessionId m.messageId)).discard
    have hbody := delivers_body (s := s) (by rw [hremove.allocation]; exact hallocation) hplain
      haddressed m.messageId
    rw [hremove.collected] at hbody
    have hall := hremove.bind (f := fun _ => m.body.handle s m.messageId) hbody
    refine hall.congr ?_ ?_
    · rw [Message.handle, hreply]
      rfl
    · rw [Message.handle, hreply]
      simp
  · rw [Message.handle_of_not_reply (by simpa using hreply)]
    exact delivers_body hallocation hplain haddressed m.messageId

/-! ## The other steps of a side -/

theorem within_statement
    {E : Effect}
    {buffers : Prop}
    {released : UInt64 → Prop}
    {called : Output → Prop}
    (hD : AdmitsData E s buffers released True called)
    (hE : AdmitsSession E s)
    (hinit : ∀ (q : Process) (i : Int), E.rel q [] (q.setInitState s i))
    {st : Statement}
    (hother : ∀ m, st ≠ .handle m) :
    (st.run s).Within E := by
  cases st with
  | handle m => exact absurd rfl (hother m)
  | removeMessage sessionId messageId =>
      exact (within_removeMessage hD trivial sessionId messageId).bind fun _ => Act.Within.pure _
  | processSessionInitStart clientSessionId messageId sessionIdentifier =>
      exact (within_increaseSessionIdCounter hE).bind fun _ => Act.Within.pure _
  | addSession sessionId => exact (within_addSession hE sessionId).bind fun _ => Act.Within.pure _
  | removeSession sessionId =>
      exact (within_removeSession hE sessionId).bind fun _ => Act.Within.pure _
  | connectiSession sessionId =>
      exact (within_connectiSession hE sessionId).bind fun _ => Act.Within.pure _
  | makeSessionReady sessionId sessionIdentifier =>
      exact (within_goToNextState hE _ _).bind fun _ =>
        Act.Within.ite (fun _ => Act.Within.pure _) fun _ => Act.Within.pure _
  | assignSessionId sessionId =>
      exact (within_modifySession hE).bind fun _ => Act.Within.pure _
  | assignSessionIdentifier sessionIdentifier =>
      exact (within_modifySession hE).bind fun _ => Act.Within.pure _
  | processCreateSession sessionId sessionIdentifier =>
      exact Act.Within.bind (fun p => hE.created p _ _) fun _ => Act.Within.pure _
  | assignInitState initState =>
      exact Act.Within.bind (fun p => hinit p initState) fun _ => Act.Within.pure _
  | sendSessionInitReply initialSessionId messageId completeSessionId sessionIdentifier =>
      refine Act.Within.bind ?_ fun _ => Act.Within.pure _
      exact (OnlySends.sendSessionInitReply (P := fun _ => True) trivial).within hD

/-- A statement of the handshake delivers nothing. -/
theorem delivers_statement
    {st : Statement}
    (hother : ∀ m, st ≠ .handle m) :
    Delivers s p (st.run s) (p.collected s) [] := by
  refine delivers_of_keepsBlockers (within_statement idles_data idles_session ?_ hother)
    (within_statement (keepsBlockers_data s) (keepsBlockers_session s) ?_ hother)
  · exact fun q i => idles_members fun _ => rfl
  · exact fun q i => rfl

theorem delivers_startSession (sessionIdentifier : Bytes) :
    Delivers s p (startSession s sessionIdentifier) (p.collected s) [] :=
  delivers_of_keepsBlockers (idles_startSession sessionIdentifier)
    (within_startSession (keepsBlockers_data s) trivial trivial (keepsBlockers_session s) _)

theorem delivers_endSession : Delivers s p (endSession s) (p.collected s) [] :=
  delivers_of_keepsBlockers (within_endSession idles_session)
    (within_endSession (keepsBlockers_session s))

theorem keepsBlockers_beginClose (replyExpected : Bool) :
    (beginClose s replyExpected).Within keepsBlockers := by
  have hD := keepsBlockers_data s
  refine (Act.Within.getSession s).bind fun x => Act.Within.ite (fun _ => ?_) fun _ =>
    Act.Within.pure false
  refine Act.Within.bind (fun p => hD.replyList trivial p _) fun _ =>
    (within_removeMultiblockBuffer hD trivial 0).bind fun _ => Act.Within.bind ?_ fun _ =>
      Act.Within.pure true
  exact (OnlySends.sendNew (P := Body.Plain) (by exact rfl)).within_plain hD

theorem delivers_beginClose (replyExpected : Bool) :
    Delivers s p (beginClose s replyExpected) (p.collected s) [] :=
  delivers_of_keepsBlockers (idles_beginClose replyExpected)
    (keepsBlockers_beginClose replyExpected)

end Handlers

/-! ## Calls -/

/-- The calls that hand over a parcel. -/
def Call.sendOperation : Call → Option SendOperation
  | .stream data replyExpected => some (.stream data replyExpected)
  | .normalMessage data => some (.normalMessage data)
  | .request data timeout => some (.request data timeout)
  | .response data blockerId => some (.response data blockerId)
  | _ => none

theorem run_sendOperation
    (cfg : Config)
    (s : SessionRef)
    {c : Call}
    {op : SendOperation}
    (h : c.sendOperation = some op)
    (p : Process) :
    (((c.operation s).act cfg).run p).process = ((op.report cfg s).run p).process ∧
      (((c.operation s).act cfg).run p).outputs = ((op.report cfg s).run p).outputs := by
  cases c with
  | stream data replyExpected =>
      cases h
      exact ⟨rfl, List.append_nil _⟩
  | normalMessage data =>
      cases h
      exact ⟨rfl, List.append_nil _⟩
  | request data timeout =>
      cases h
      exact ⟨rfl, rfl⟩
  | response data blockerId =>
      cases h
      exact ⟨rfl, rfl⟩
  | _ => cases h

/-- An operation that sends data is idle, and what waits then has no response yet. -/
theorem delivers_report
    (cfg : Config)
    (s : SessionRef)
    (p : Process)
    (op : SendOperation) :
    Delivers s p (op.report cfg s) (p.collected s) [] := by
  have hcarried : ∀ {α : Type} {x : Act α}, OnlySends s (Body.Carried cfg) x →
      x.Within (idles s) := fun hx => hx.within idles_data
  have hidle : (op.report cfg s).Within (idles s) := by
    cases op with
    | stream data replyExpected => exact hcarried (onlySends_sendStreamData cfg s data _)
    | normalMessage data => exact hcarried (onlySends_sendNormalMessage cfg s data)
    | request data timeout =>
        refine (within_sendRequest cfg idles_data (fun id q => ?_) data).bind fun _ =>
          Act.Within.pure _
        exact idles_timers.blockerList q _
    | response data blockerId =>
        exact (hcarried (onlySends_sendResponse cfg s data blockerId)).bind fun _ =>
          Act.Within.pure _
  refine delivers_of_idle hidle fun id data hanswered => ?_
  rw [Process.Answered, SendOperation.blockerList_report op,
    MessageBlockerHandler.responses_append] at hanswered
  rcases List.mem_append.mp hanswered with hold | hnew
  · exact hold
  · -- the new entry has no data
    exfalso
    obtain ⟨b, hb, hdata⟩ := List.mem_map.mp hnew
    have hwaits := List.mem_of_mem_filter hb
    split at hwaits
    · cases op with
      | request data' timeout =>
          rw [List.mem_singleton.mp hwaits] at hdata
          cases hdata
      | _ => cases hwaits
    · cases hwaits

theorem ReplyHandler.blockerList_makeTimerStep (p : Process) :
    (ReplyHandler.makeTimerStep.run p).process.blockerList = p.blockerList := by
  rcases ReplyHandler.makeTimerStep_cases p with
    ⟨_, hrun⟩ | ⟨_, _, _, _, rest, reported, _, _, _, _, _, _, hrun⟩
  · rw [hrun]
  · rw [hrun]
    split <;> rfl

/-- A call delivers nothing to the side that calls. -/
theorem delivers_operation
    (cfg : Config)
    (s : SessionRef)
    (p : Process)
    (c : Call) :
    Delivers s p ((c.operation s).act cfg) (p.collected s) [] := by
  cases hop : c.sendOperation with
  | some op =>
      obtain ⟨hprocess, houtputs⟩ := run_sendOperation cfg s hop p
      exact (delivers_report cfg s p op).congr hprocess houtputs
  | none =>
      cases c with
      | heartbeat =>
          have hsends := onlySends_sendHeartbeat cfg s
          exact (delivers_of_keepsBlockers (hsends.within idles_data)
            (hsends.within (keepsBlockers_data s))).discard
      | wake blockerId =>
          exact (delivers_of_idle (within_wake idles_timers blockerId) fun id data h =>
            MessageBlockerHandler.answered_removeMessageFromList h).discard
      | replyTimer =>
          refine delivers_of_idle (within_replyTimer idles_timers) fun id data h => ?_
          change some data ∈ MessageBlockerHandler.responses id
            (ReplyHandler.makeTimerStep.run p).process.blockerList at h
          rw [ReplyHandler.blockerList_makeTimerStep p] at h
          exact h
      | blockerTimer =>
          exact delivers_of_idle (within_blockerTimer idles_timers) fun id data h =>
            MessageBlockerHandler.answered_makeTimerStep h
      | _ => cases hop

end SakuraNetwork

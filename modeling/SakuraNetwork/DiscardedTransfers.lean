import SakuraNetwork.BufferContents

/-!
# Unfinished transfers when a session is closed

`closeSession` is to close the session inclusive its multi-block messages, but asks
for the removal of one buffer, with the id 0, and a received close-start removes
none.  What was received in part stays in the map and can still be finished.

* `incomingBuffer_closing`: the buffers after a session was closed.
* `find_incomingBuffer_afterAll`: a transfer that was discarded stays so.
* `discarded_iff`: when closing discards every unfinished transfer.
-/

namespace SakuraNetwork

open Lib

/-- How a session is closed: by its own `closeSession`, in either mode, or by a
received close-start. -/
inductive Closing where
  | own (replyExpected : Bool)
  | received (buf : RingBuffer) (sessionId : UInt32)
      (h : buf.sessionFrame = some (.closeStart sessionId))

namespace Closing

def operation (s : SessionRef) : Closing → Operation
  | .own replyExpected => .close s replyExpected
  | .received buf _ _ => .receive s buf

/-- The buffers that are removed by closing. -/
def Removes (multiblockId : UInt64) : Closing → Prop
  | .own _ => multiblockId = 0
  | .received .. => False

end Closing

/-- The process after an operation was carried out, and after several. -/
def Process.afterAll (cfg : Config) (p : Process) (ops : List Operation) : Process :=
  ops.foldl (fun q a => ((a.act cfg).run q).process) p

/-- A session message is no part and no finish frame. -/
theorem multiFrame_of_sessionFrame
    {buf : RingBuffer}
    {f : SessionFrame}
    (h : buf.sessionFrame = some f) :
    buf.obtained ≠ .falseProtocol ∧ buf.multiFrame = none := by
  unfold RingBuffer.sessionFrame at h
  cases hobtained : buf.obtained with
  | frame header rawMessage =>
      simp only [hobtained] at h
      obtain ⟨htype, _⟩ := Option.ite_none_right_eq_some.mp h
      refine ⟨Obtained.noConfusion, ?_⟩
      rw [RingBuffer.multiFrame, hobtained]
      exact if_neg (by rw [htype]; decide)
  | _ =>
      simp only [hobtained] at h
      cases h

/-- Closing a ready session drops at most the buffer of the id 0. -/
theorem incomingBuffer_closing
    (cfg : Config)
    (s : SessionRef)
    (p : Process)
    (hready : (p.session s).statemachine = .sessionReady)
    (c : Closing) :
    ((p.afterAll cfg [c.operation s]).session s).incomingBuffer =
      match c with
      | .own _ => (p.session s).incomingBuffer.remove 0
      | .received .. => (p.session s).incomingBuffer := by
  cases c with
  | own replyExpected =>
      have hdata := (closeSession_data s replyExpected p).2
      rw [if_pos hready] at hdata
      exact hdata
  | received buf sessionId h =>
      obtain ⟨hprotocol, hnone⟩ := multiFrame_of_sessionFrame h
      have hdata := (data_processMessage cfg s buf p).2
      rw [RingBuffer.incomingBuffer_of_none hprotocol hnone] at hdata
      exact hdata

/-! ## Transfers after the close -/

/-- The operation begins a transfer of the id on the session. -/
def Operation.Begins (s : SessionRef) (multiblockId : UInt64) : Operation → Prop
  | .receive r buf =>
      r = s ∧ ∃ f, buf.multiFrame = some (.part f) ∧ f.multiblockId = multiblockId ∧ f.partId = 0
  | _ => False

/-- A part that begins nothing leaves an id without a buffer. -/
theorem MultiFrame.find_buffers_of_none
    {buffers : OrderedMap UInt64 MultiblockBuffer}
    {multiblockId : UInt64}
    (hnone : buffers.find multiblockId = none)
    (allocation : UInt64 → Bool)
    {f : MultiFrame}
    (hbegins : ∀ g, f = .part g → g.multiblockId = multiblockId → g.partId ≠ 0) :
    (f.buffers allocation buffers).find multiblockId = none := by
  cases f with
  | part g =>
      simp only [MultiFrame.buffers]
      rw [OrderedMap.find_modify]
      by_cases hid : multiblockId = g.multiblockId
      · subst hid
        have hpart : ¬ (g.partId = 0 ∧ allocation g.totalSize = true) :=
          fun h => hbegins g rfl rfl h.1
        rw [if_pos rfl, if_neg hpart, hnone]
        rfl
      · rw [if_neg hid]
        split
        · rw [OrderedMap.find_emplace, if_neg fun h => hid h.1]
          exact hnone
        · exact hnone
  | finish id response =>
      simp only [MultiFrame.buffers]
      rw [OrderedMap.find_remove]
      split
      · rfl
      · exact hnone

/-- Only the first part of a transfer creates a buffer. -/
theorem find_incomingBuffer_act
    (cfg : Config)
    (s : SessionRef)
    (p : Process)
    {multiblockId : UInt64}
    (hnone : (p.session s).incomingBuffer.find multiblockId = none)
    {a : Operation}
    (hbegins : ¬ a.Begins s multiblockId) :
    (((a.act cfg).run p).process.session s).incomingBuffer.find multiblockId = none := by
  have hremoved : ∀ id, ((p.session s).incomingBuffer.remove id).find multiblockId = none := by
    intro id
    rw [OrderedMap.find_remove, hnone, ite_self]
  by_cases hspares : a.SparesBuffers s
  · rw [hspares.incomingBuffer cfg p]
    exact hnone
  · obtain ⟨hsession, hkind⟩ := not_or.mp hspares
    rw [not_not] at hsession
    cases a with
    | accept r =>
        cases hsession
        exact hnone
    | start r sessionIdentifier =>
        cases hsession
        by_cases hstarts : sessionIdentifier.length > 64000 ∨ (p.session s).connectable = true
        · rw [incomingBuffer_start_of_starts cfg s p hstarts]
          exact hnone
        · rw [incomingBuffer_start_of_not_starts cfg s p hstarts]
          exact OrderedMap.find_empty _
    | finishStart r =>
        cases hsession
        by_cases hfailed : (p.session s).initState = -1
        · rw [incomingBuffer_finishStart_of_failed cfg s p hfailed]
          exact OrderedMap.find_empty _
        · rw [finishStart_of_not_failed cfg s p hfailed]
          exact hnone
    | receive r buf =>
        cases hsession
        have hdata := (data_processMessage cfg s buf p).2
        change (((processMessage cfg s buf).run p).process.session s).incomingBuffer.find _ = none
        rw [hdata]
        cases hframe : buf.multiFrame with
        | none =>
            by_cases hprotocol : buf.obtained = .falseProtocol
            · rw [RingBuffer.incomingBuffer, hprotocol]
              simp only
              split
              · exact hremoved 0
              · exact hnone
            · rw [RingBuffer.incomingBuffer_of_none hprotocol hframe]
              exact hnone
        | some f =>
            rw [RingBuffer.incomingBuffer_of_multiFrame hframe]
            refine MultiFrame.find_buffers_of_none hnone p.allocation ?_
            rintro g rfl hid hpart
            exact hbegins ⟨rfl, g, hframe, hid, hpart⟩
    | close r replyExpected =>
        cases hsession
        have hdata := (closeSession_data s replyExpected p).2
        change (((closeSession s replyExpected).run p).process.session s).incomingBuffer.find _ =
          none
        rw [hdata]
        split
        · exact hremoved 0
        · exact hnone
    | destroy r =>
        cases hsession
        change (((destroySession s).run p).process.session s).incomingBuffer.find _ = none
        rw [incomingBuffer_destroySession s p]
        exact OrderedMap.find_empty _
    | wake blockerId => cases hsession
    | replyTimer => cases hsession
    | blockerTimer => cases hsession
    | _ => exact absurd trivial hkind

/-- Where a transfer has no buffer, it has none until it begins again. -/
theorem find_incomingBuffer_afterAll
    (cfg : Config)
    (s : SessionRef)
    {multiblockId : UInt64}
    (ops : List Operation)
    (hbegins : ∀ a ∈ ops, ¬ a.Begins s multiblockId)
    (p : Process)
    (hnone : (p.session s).incomingBuffer.find multiblockId = none) :
    ((p.afterAll cfg ops).session s).incomingBuffer.find multiblockId = none := by
  induction ops generalizing p with
  | nil =>
      exact hnone
  | cons a ops ih =>
      have hfirst := find_incomingBuffer_act cfg s p hnone (hbegins a List.mem_cons_self)
      exact ih (fun b hb => hbegins b (List.mem_cons_of_mem _ hb)) _ hfirst

/-- Closing discards the unfinished transfers: the map is empty, and whatever happens
later, the finish frame of a transfer that did not begin again hands on no data. -/
structure Discarded (cfg : Config) (s : SessionRef) (p : Process) (c : Closing) : Prop where
  empty : ((p.afterAll cfg [c.operation s]).session s).incomingBuffer = ∅
  silent : ∀ (later : List Operation) (buf : RingBuffer) (multiblockId : UInt64)
    (response : Option UInt64) (data : Bytes),
    (∀ a ∈ later, ¬ a.Begins s multiblockId) →
    buf.multiFrame = some (.finish multiblockId response) →
    ¬ ((processMessage cfg s buf).run
      (p.afterAll cfg (c.operation s :: later))).HandsOn (some data)

/-- Closing a ready session discards its unfinished transfers exactly if it removes
the buffer of each: `closeSession` if there is none but one with the id 0, a received
close-start if there is none at all. -/
theorem discarded_iff
    (cfg : Config)
    (s : SessionRef)
    (p : Process)
    (hready : (p.session s).statemachine = .sessionReady)
    (c : Closing) :
    Discarded cfg s p c ↔
      ∀ multiblockId, (p.session s).incomingBuffer.find multiblockId ≠ none →
        c.Removes multiblockId := by
  have hbuffers := incomingBuffer_closing cfg s p hready c
  constructor
  · intro h multiblockId hsome
    rw [h.empty] at hbuffers
    have hfind := congrArg (fun m : OrderedMap UInt64 MultiblockBuffer => m.find multiblockId)
      hbuffers
    simp only [OrderedMap.find_empty] at hfind
    cases c with
    | own replyExpected =>
        rw [OrderedMap.find_remove] at hfind
        by_contra hremoves
        have hid : multiblockId ≠ 0 := hremoves
        rw [if_neg hid] at hfind
        exact hsome hfind.symm
    | received buf sessionId hframe =>
        exact hsome hfind.symm
  · intro h
    have hempty : ((p.afterAll cfg [c.operation s]).session s).incomingBuffer = ∅ := by
      refine OrderedMap.eq_empty_of_find _ fun id => ?_
      rw [hbuffers]
      cases c with
      | own replyExpected =>
          simp only
          rw [OrderedMap.find_remove]
          split
          · rfl
          · rename_i hid
            by_contra hsome
            exact hid (h id hsome)
      | received buf sessionId hframe =>
          by_contra hsome
          exact h id hsome
    refine ⟨hempty, ?_⟩
    intro later buf multiblockId response data hbegins hframe hhands
    have hnone : ((p.afterAll cfg [c.operation s]).session s).incomingBuffer.find multiblockId =
        none := by
      rw [hempty]
      exact OrderedMap.find_empty _
    have hlater := find_incomingBuffer_afterAll cfg s later hbegins _ hnone
    have hdata := ((handsOn_iff hframe _ (some data)).mp hhands).2
    change some data = _ at hdata
    rw [show p.afterAll cfg (c.operation s :: later) =
      (p.afterAll cfg [c.operation s]).afterAll cfg later from rfl, hlater] at hdata
    cases hdata

/-- A ready session with a transfer that has the id 0. -/
def zeroBegun : Process :=
  readyProcess.modifySession 0 fun x =>
    { x with
      incomingBuffer := x.incomingBuffer.emplace 0
        { multiblockId := 0, messageSize := 2, incomingData := some [7] } }

/-- The transfer is discarded by `closeSession`, but not by a received close start message. -/
theorem discarded_iff_zeroBegun :
    Discarded Config.default 0 zeroBegun (.own true) ∧
      ∃ buf h, buf = bufferOfMessage ⟨1, 3, .sessionCloseStart true⟩ ∧
        ¬ Discarded Config.default 0 zeroBegun (.received buf 0 h) := by
  have hfind : ∀ id, (zeroBegun.session 0).incomingBuffer.find id =
      if id = 0 then some { multiblockId := 0, messageSize := 2, incomingData := some [7] }
      else none := by
    intro id
    have hempty : (readyProcess.session 0).incomingBuffer.find id = none :=
      OrderedMap.find_empty _
    have hempty' : (readyProcess.session 0).incomingBuffer.find 0 = none :=
      OrderedMap.find_empty _
    rw [zeroBegun, Process.modifySession_same]
    simp only
    rw [OrderedMap.find_emplace, hempty, hempty']
    simp
  have hframe : (bufferOfMessage ⟨1, 3, .sessionCloseStart true⟩).sessionFrame =
      some (.closeStart 0) := sessionFrame_bufferOfMessage trivial
  constructor
  · refine (discarded_iff Config.default 0 zeroBegun rfl (.own true)).mpr fun id hsome => ?_
    rw [hfind] at hsome
    by_contra hid
    exact hsome (if_neg hid)
  · refine ⟨_, hframe, rfl, fun hdiscarded => ?_⟩
    refine (discarded_iff Config.default 0 zeroBegun rfl (.received _ 0 hframe)).mp hdiscarded 0 ?_
    rw [hfind, if_pos rfl]
    exact Option.some_ne_none _

/-- A ready session that received the first part of a transfer with the id 9. -/
def transferBegun : Process :=
  readyProcess.modifySession 0 fun x =>
    { x with
      incomingBuffer := x.incomingBuffer.emplace 9
        { multiblockId := 9, messageSize := 2, incomingData := some [7] } }

/-- After `closeSession` returned, a finish frame hands on what was received of the
transfer before. -/
theorem not_discarded_transferBegun :
    ¬ ∀ (cfg : Config) (s : SessionRef) (p : Process) (c : Closing),
      (p.session s).statemachine = .sessionReady → Discarded cfg s p c := by
  intro hall
  have hdiscarded := hall Config.default 0 transferBegun (.own true) rfl
  have hnobegin : ∀ a ∈ ([] : List Operation), ¬ a.Begins 0 9 := by
    intro a ha
    cases ha
  refine hdiscarded.silent [] (bufferOfMessage onlyFinish) 9 none [7] hnobegin
    multiFrame_onlyFinish ?_
  rw [handsOn_iff multiFrame_onlyFinish]
  have htakes : ((transferBegun.afterAll Config.default
      [(Closing.own true).operation 0])).Takes none := by
    intro blockerId hresponse
    cases hresponse
  refine ⟨htakes, ?_⟩
  rw [incomingBuffer_closing Config.default 0 transferBegun rfl (.own true)]
  have hbefore : (transferBegun.session 0).incomingBuffer.find 9 =
      some { multiblockId := 9, messageSize := 2, incomingData := some [7] } := by
    rw [transferBegun, Process.modifySession_same]
    simp only
    rw [OrderedMap.find_emplace]
    rfl
  have hnine : (9 : UInt64) ≠ 0 := by decide
  simp only
  rw [OrderedMap.find_remove, if_neg hnine, hbefore]
  rfl

end SakuraNetwork

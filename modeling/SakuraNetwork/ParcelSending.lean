import SakuraNetwork.ParcelReceipt

/-!
# The messages of a parcel are sent together

A ready session of a connection has an open socket, over which no send fails.  A call sends
all messages of its parcel and reports success, or it sends none and reports failure.

* `report_cases`: the two outcomes of a call.
-/

namespace SakuraNetwork

open Lib

theorem Connection.sentOver_map (s : SessionRef) (messages : List Message) :
    Connection.sentOver s (messages.map (Output.sent s)) = messages := by
  induction messages with
  | nil => rfl
  | cons m messages ih =>
      rw [List.map_cons, ← List.singleton_append, Connection.sentOver_append,
        Connection.sentOver_sent, ih]
      rfl

section Sending

variable {cfg : Config} {s : SessionRef} {p : Process}

/-- A multi-block message fails over a working socket only if it is aborted before its
first part. -/
theorem MultiblockIo.sendOutgoingData_silent
    (hsends : (p.session s).Sends)
    {data : Bytes}
    {blockerId : UInt64}
    (hfailed : ((sendOutgoingData cfg s data blockerId).run p).value = 0) :
    ((sendOutgoingData cfg s data blockerId).run p).outputs = [] := by
  cases habort : (p.session s).abort with
  | false =>
      have hvalue := sendOutgoingData_of_sends cfg data blockerId hsends habort
      exact absurd (hvalue.symm.trans hfailed) (p.randIds p.randCount).property
  | true =>
      rw [sendOutgoingData, run_getRandId_bind]
      have hparts : (sendParts cfg s (p.randIds p.randCount) data data.length 0).run
          { p with randCount := p.randCount + 1 } =
            { value := true, process := { p with randCount := p.randCount + 1 } } := by
        rw [sendParts]
        split
        · rfl
        · simp only [run_getSession_bind, habort, if_true]
          rfl
      rw [Act.run_bind, hparts]
      simp only [if_true, run_getSession_bind, habort, Act.run_pure, List.append_nil]

namespace SendOperation

/-- A session that is not ready sends nothing. -/
theorem outputs_report_of_not_ready
    (hready : (p.session s).statemachine ≠ .sessionReady)
    (op : SendOperation) :
    ((op.report cfg s).run p).outputs = [] := by
  cases op with
  | stream data replyExpected =>
      rw [report, sendStreamData]
      split
      · rfl
      · simp [hready]
  | normalMessage data => simp [report, sendNormalMessage, hready]
  | request data timeout =>
      rw [(report_request cfg s p data timeout).2.1]
      simp [sendRequestFrames, hready]
  | response data blockerId =>
      rw [(report_response cfg s p data blockerId).2.1]
      simp [sendResponse, hready]

theorem outputs_report_of_not_fits
    {op : SendOperation}
    (hfits : ¬ op.Fits cfg) :
    ((op.report cfg s).run p).outputs = [] := by
  cases op with
  | stream data replyExpected =>
      have hsize : data.length > cfg.maxSingleMessageSize := Nat.lt_of_not_le hfits
      rw [report, sendStreamData, if_pos hsize]
      rfl
  | _ => exact absurd trivial hfits

/-- Over a working socket a call of a ready session that fails has sent nothing. -/
theorem outputs_report_of_failed
    (hready : (p.session s).statemachine = .sessionReady)
    (hsends : (p.session s).Sends)
    {op : SendOperation}
    (hfits : op.Fits cfg)
    (hfailed : ((op.report cfg s).run p).value = false) :
    ((op.report cfg s).run p).outputs = [] := by
  have hblock : ∀ (q : Process) (body : Body), q.session = p.session →
      ((sendNew s body).run q).value = true := by
    intro q body hq
    exact (sendNew_of_sends (by rw [hq]; exact hsends) body).1
  have hone := hblock { p with randCount := p.randCount + 1 }
  cases op with
  | stream data replyExpected =>
      have hsize : ¬ data.length > cfg.maxSingleMessageSize := Nat.not_lt.mpr hfits
      rw [report, sendStreamData, if_neg hsize, run_getSession_bind, isInState_of_ready hready,
        if_pos rfl] at hfailed
      exact absurd (hfailed.symm.trans (hblock p (.stream replyExpected data) rfl))
        Bool.false_ne_true
  | normalMessage data =>
      rw [report, sendNormalMessage, run_getSession_bind, isInState_of_ready hready,
        if_pos rfl] at hfailed ⊢
      by_cases hsize : data.length ≤ cfg.maxSingleMessageSize
      · rw [if_pos hsize, run_getRandId_bind] at hfailed
        exact absurd (hfailed.symm.trans (hone (.singleBlock _ 0 data) rfl)) Bool.false_ne_true
      · rw [if_neg hsize, Act.run_bind] at hfailed ⊢
        simp only [Act.run_pure, bne_eq_false_iff_eq] at hfailed
        simp only [Act.run_pure, List.append_nil]
        exact MultiblockIo.sendOutgoingData_silent hsends hfailed
  | request data timeout =>
      obtain ⟨hvalue, houtputs, _⟩ := report_request cfg s p data timeout
      rw [hvalue, bne_eq_false_iff_eq] at hfailed
      rw [houtputs]
      rw [sendRequestFrames, run_getSession_bind, isInState_of_ready hready,
        if_pos rfl] at hfailed ⊢
      by_cases hsize : data.length ≤ cfg.maxSingleMessageSize
      · rw [if_pos hsize, run_getRandId_bind, Act.run_bind] at hfailed
        rw [show sendDataSingleBlock s (p.randIds p.randCount) data =
          sendNew s (.singleBlock (p.randIds p.randCount) 0 data) from rfl,
          hone _ rfl] at hfailed
        exact absurd hfailed (p.randIds p.randCount).property
      · rw [if_neg hsize] at hfailed ⊢
        exact MultiblockIo.sendOutgoingData_silent hsends hfailed
  | response data blockerId =>
      obtain ⟨hvalue, houtputs, _⟩ := report_response cfg s p data blockerId
      rw [hvalue, bne_eq_false_iff_eq] at hfailed
      rw [houtputs]
      by_cases hsize : data.length < cfg.maxSingleMessageSize
      · rw [(sendResponse_single hready hsize blockerId).1] at hfailed
        exact absurd hfailed (p.randIds p.randCount).property
      · rw [sendResponse_multi hready hsize] at hfailed ⊢
        exact MultiblockIo.sendOutgoingData_silent hsends hfailed

variable (cfg) in
/-- The bodies that were sent, and whether the call succeeded. -/
theorem report_cases
    (hworks : (p.session s).Works)
    (hopen : (p.session s).statemachine = .sessionReady →
      (p.session s).socket.any Socket.isOpen = true)
    (op : SendOperation) :
    let o := (op.report cfg s).run p
    let bodies := (Connection.sentOver s o.outputs).map Message.body
    o.value = true ∧ bodies = op.frames cfg (p.randIds p.randCount) ∨
      o.value = false ∧ bodies = [] := by
  intro o bodies
  have hnothing : o.outputs = [] → bodies = [] := by
    intro houtputs
    change (Connection.sentOver s o.outputs).map Message.body = []
    rw [houtputs]
    rfl
  by_cases hready : (p.session s).statemachine = .sessionReady
  · have hsends : (p.session s).Sends := by
      obtain ⟨k, hsocket, _, hresults⟩ := hworks
      have hk := hopen hready
      rw [hsocket] at hk
      exact ⟨k, hsocket, hk, hresults⟩
    have hnot : ¬ op.Overlooks cfg (p.session s) := by
      intro hoverlooks
      cases op with
      | response data blockerId =>
          obtain ⟨k, hsocket, hk, hresults⟩ := hsends
          exact hoverlooks.2.2 ⟨k, hsocket, by simp [Socket.sendSucceeds, hk, hresults]⟩
      | _ => exact hoverlooks
    cases hvalue : o.value with
    | true =>
        obtain ⟨_, _, messages, houtputs, hbodies⟩ :=
          ((reports_exactly_iff cfg s p op).mpr hnot).success.mp hvalue
        refine Or.inl ⟨rfl, ?_⟩
        change (Connection.sentOver s o.outputs).map Message.body = _
        rw [houtputs, Connection.sentOver_map]
        exact hbodies
    | false =>
        by_cases hfits : op.Fits cfg
        · exact Or.inr ⟨rfl, hnothing (outputs_report_of_failed hready hsends hfits hvalue)⟩
        · exact Or.inr ⟨rfl, hnothing (outputs_report_of_not_fits hfits)⟩
  · exact Or.inr ⟨report_of_not_ready cfg hready op,
      hnothing (outputs_report_of_not_ready hready op)⟩

end SendOperation

end Sending

end SakuraNetwork

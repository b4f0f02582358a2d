import SakuraNetwork.ReceiveFraming

/-!
# What the send operations report

`sendStreamData` and `sendNormalMessage` return a flag, `sendResponse` an id or 0,
and `sendRequest` waits or returns `nullptr`.  Each is to report success exactly if
the session is ready and every frame of the message was sent.  `sendResponse` drops
the result of its single-block message.

* `run_ready`, `run_not_ready`: an operation sends its data in one frame or as a
  multi-block message.
* `reports_exactly_iff`: an operation reports exactly the failures unless it is a
  response in one block that the socket refuses.
-/

namespace SakuraNetwork

open Lib

/-- The operations of a session that send data. -/
inductive SendOperation where
  | stream (data : Bytes) (replyExpected : Bool)
  | normalMessage (data : Bytes)
  | request (data : Bytes) (timeout : UInt64)
  | response (data : Bytes) (blockerId : UInt64)

namespace SendOperation

/-- The operation, with its return value as success or failure: the flag, waiting
for the response or not, and an id other than 0. -/
def report (cfg : Config) (s : SessionRef) : SendOperation → Act Bool
  | .stream data replyExpected => sendStreamData cfg s data replyExpected
  | .normalMessage data => sendNormalMessage cfg s data
  | .request data timeout => do
      let waiting ← sendRequest cfg s data timeout
      pure waiting.isSome
  | .response data blockerId => do
      let id ← sendResponse cfg s data blockerId
      pure (id != 0)

/-- A stream has to fit one message. -/
def Fits (cfg : Config) : SendOperation → Prop
  | .stream data _ => data.length ≤ cfg.maxSingleMessageSize
  | _ => True

/-- The frames of the message with an id. -/
def frames (cfg : Config) (id : UInt64) : SendOperation → List Body
  | .stream data replyExpected => [.stream replyExpected data]
  | .normalMessage data | .request data _ =>
      if data.length ≤ cfg.maxSingleMessageSize then [.singleBlock id 0 data]
      else MultiblockIo.outgoingFrames cfg id data 0
  | .response data blockerId =>
      if data.length < cfg.maxSingleMessageSize then [.singleBlock id blockerId data]
      else MultiblockIo.outgoingFrames cfg id data blockerId

/-- The entry of the thread that waits for a response. -/
def waits (s : SessionRef) (id : UInt64) : SendOperation → List MessageBlocker
  | .request _ timeout => [{ session := s, blockerId := id, timer := timeout }]
  | _ => []

/-- A response in one block that the socket of a ready session refuses. -/
def Overlooks (cfg : Config) (x : Session) : SendOperation → Prop
  | .response data _ =>
      x.statemachine = .sessionReady ∧ data.length < cfg.maxSingleMessageSize ∧ ¬ x.Accepts
  | _ => False

end SendOperation

/-- The operation reports success exactly if the session was ready and all frames of
the message were sent, and waits exactly then. -/
structure ReportsExactly
    (cfg : Config)
    (s : SessionRef)
    (p : Process)
    (op : SendOperation) : Prop where
  success : ((op.report cfg s).run p).value = true ↔
    (p.session s).statemachine = .sessionReady ∧ op.Fits cfg ∧
      ∃ messages : List Message,
        ((op.report cfg s).run p).outputs = messages.map (Output.sent s) ∧
          messages.map Message.body = op.frames cfg (p.randIds p.randCount)
  waiting : ((op.report cfg s).run p).process.blockerList =
    p.blockerList ++
      if ((op.report cfg s).run p).value then op.waits s (p.randIds p.randCount) else []

/-- What was sent by an operation: all frames with success, or not all of them. -/
def SentOrFailed
    (s : SessionRef)
    (frames : List Body)
    (success : Bool)
    (outputs : List Output) : Prop :=
  (success = true ∧ ∃ messages : List Message,
      outputs = messages.map (Output.sent s) ∧ messages.map Message.body = frames) ∨
    success = false ∧ outputs.length < frames.length

/-- Success is exactly that all frames were sent. -/
theorem SentOrFailed.success_iff
    {s : SessionRef}
    {frames : List Body}
    {success : Bool}
    {outputs : List Output}
    (h : SentOrFailed s frames success outputs) :
    success = true ↔ ∃ messages : List Message,
      outputs = messages.map (Output.sent s) ∧ messages.map Message.body = frames := by
  rcases h with ⟨hsuccess, hsent⟩ | ⟨hfailed, hless⟩
  · exact ⟨fun _ => hsent, fun _ => hsuccess⟩
  · constructor
    · intro hsuccess
      rw [hfailed] at hsuccess
      cases hsuccess
    · rintro ⟨messages, houtputs, hbodies⟩
      rw [houtputs, ← hbodies, List.length_map, List.length_map] at hless
      exact absurd hless (Nat.lt_irrefl _)

/-- One frame is sent, or none. -/
theorem sentOrFailed_sendNew (s : SessionRef) (body : Body) (p : Process) :
    SentOrFailed s [body] ((sendNew s body).run p).value ((sendNew s body).run p).outputs := by
  have houtputs := sendNew_outputs s body p
  cases hvalue : ((sendNew s body).run p).value with
  | true =>
      rw [hvalue, if_pos rfl] at houtputs
      exact Or.inl ⟨rfl, [p.nextMessage s body], houtputs, rfl⟩
  | false =>
      rw [hvalue] at houtputs
      rw [houtputs]
      exact Or.inr ⟨rfl, Nat.zero_lt_one⟩

/-- The id of a multi-block message is not 0 exactly where its frames were sent. -/
theorem sentOrFailed_sendOutgoingData
    (cfg : Config)
    (s : SessionRef)
    (data : Bytes)
    (blockerId : UInt64)
    (p : Process) :
    SentOrFailed s (MultiblockIo.outgoingFrames cfg (p.randIds p.randCount) data blockerId)
      (((MultiblockIo.sendOutgoingData cfg s data blockerId).run p).value != 0)
      ((MultiblockIo.sendOutgoingData cfg s data blockerId).run p).outputs := by
  rcases MultiblockIo.sendOutgoingData_cases cfg s data blockerId p with
    ⟨hvalue, hsent⟩ | ⟨hvalue, messages, houtputs, _, hless⟩
  · refine Or.inl ⟨?_, hsent⟩
    rw [hvalue]
    simpa using (p.randIds p.randCount).property
  · refine Or.inr ⟨?_, ?_⟩
    · rw [hvalue]
      rfl
    · rw [houtputs, List.length_map]
      exact hless

/-! ## The operations on a ready session -/

section Ready

variable {cfg : Config} {s : SessionRef} {p : Process}

theorem isInState_of_ready (hready : (p.session s).statemachine = .sessionReady) :
    (p.session s).statemachine.isInState .sessionReady = true := by
  rw [SessionState.isInState_sessionReady, hready]
  rfl

theorem sentOrFailed_sendStreamData
    (hready : (p.session s).statemachine = .sessionReady)
    {data : Bytes}
    (hfits : data.length ≤ cfg.maxSingleMessageSize)
    (replyExpected : Bool) :
    SentOrFailed s [.stream replyExpected data]
      ((sendStreamData cfg s data replyExpected).run p).value
      ((sendStreamData cfg s data replyExpected).run p).outputs := by
  have hsize : ¬ data.length > cfg.maxSingleMessageSize := by omega
  rw [sendStreamData, if_neg hsize, run_getSession_bind, isInState_of_ready hready, if_pos rfl]
  exact sentOrFailed_sendNew s (.stream replyExpected data) p

theorem sentOrFailed_sendNormalMessage
    (hready : (p.session s).statemachine = .sessionReady)
    (data : Bytes) :
    SentOrFailed s ((SendOperation.normalMessage data).frames cfg (p.randIds p.randCount))
      ((sendNormalMessage cfg s data).run p).value
      ((sendNormalMessage cfg s data).run p).outputs := by
  rw [sendNormalMessage, run_getSession_bind, isInState_of_ready hready, if_pos rfl,
    SendOperation.frames]
  by_cases hsize : data.length ≤ cfg.maxSingleMessageSize
  · rw [if_pos hsize, if_pos hsize, run_getRandId_bind]
    exact sentOrFailed_sendNew s (.singleBlock _ 0 data) _
  · rw [if_neg hsize, if_neg hsize, Act.run_bind]
    simp only [Act.run_pure, List.append_nil]
    exact sentOrFailed_sendOutgoingData cfg s data 0 p

/-- The id of a request is the next random id, or 0 where a frame was not sent. -/
theorem sendRequestFrames_cases
    (cfg : Config)
    (hready : (p.session s).statemachine = .sessionReady)
    (data : Bytes)
    (timeout : UInt64) :
    (((sendRequestFrames cfg s data).run p).value = p.randIds p.randCount ∨
        ((sendRequestFrames cfg s data).run p).value = 0) ∧
      SentOrFailed s ((SendOperation.request data timeout).frames cfg (p.randIds p.randCount))
        (((sendRequestFrames cfg s data).run p).value != 0)
        ((sendRequestFrames cfg s data).run p).outputs := by
  rw [sendRequestFrames, run_getSession_bind, isInState_of_ready hready, if_pos rfl,
    SendOperation.frames]
  by_cases hsize : data.length ≤ cfg.maxSingleMessageSize
  · rw [if_pos hsize, if_pos hsize, run_getRandId_bind, Act.run_bind]
    have hid : ((p.randIds p.randCount : UInt64) != 0) = true := by
      simpa using (p.randIds p.randCount).property
    have hblock := sentOrFailed_sendNew s (.singleBlock (p.randIds p.randCount) 0 data)
      { p with randCount := p.randCount + 1 }
    rw [show sendDataSingleBlock s (p.randIds p.randCount) data =
      sendNew s (.singleBlock (p.randIds p.randCount) 0 data) from rfl]
    cases hvalue : ((sendNew s (.singleBlock (p.randIds p.randCount) 0 data)).run
        { p with randCount := p.randCount + 1 }).value with
    | true =>
        rw [hvalue] at hblock
        simp only [if_true, Act.run_pure, List.append_nil, hid]
        exact ⟨Or.inl trivial, hblock⟩
    | false =>
        rw [hvalue] at hblock
        simp only [Bool.false_eq_true, if_false, Act.run_pure, List.append_nil]
        exact ⟨Or.inr trivial, hblock⟩
  · rw [if_neg hsize, if_neg hsize]
    refine ⟨?_, sentOrFailed_sendOutgoingData cfg s data 0 p⟩
    rcases MultiblockIo.sendOutgoingData_cases cfg s data 0 p with ⟨hvalue, _⟩ | ⟨hvalue, _⟩
    · exact Or.inl hvalue
    · exact Or.inr hvalue

/-- A response in one block is reported as sent, whatever the socket did. -/
theorem sendResponse_single
    (hready : (p.session s).statemachine = .sessionReady)
    {data : Bytes}
    (hsize : data.length < cfg.maxSingleMessageSize)
    (blockerId : UInt64) :
    ((sendResponse cfg s data blockerId).run p).value = p.randIds p.randCount ∧
      ((sendResponse cfg s data blockerId).run p).outputs =
        ((sendNew s (.singleBlock (p.randIds p.randCount) blockerId data)).run
          { p with randCount := p.randCount + 1 }).outputs := by
  rw [sendResponse, run_getSession_bind, isInState_of_ready hready, if_pos rfl, if_pos hsize,
    run_getRandId_bind, Act.run_bind]
  simp only [Act.run_pure, List.append_nil]
  exact ⟨trivial, rfl⟩

theorem sendResponse_multi
    (hready : (p.session s).statemachine = .sessionReady)
    {data : Bytes}
    (hsize : ¬ data.length < cfg.maxSingleMessageSize)
    (blockerId : UInt64) :
    (sendResponse cfg s data blockerId).run p =
      (MultiblockIo.sendOutgoingData cfg s data blockerId).run p := by
  rw [sendResponse, run_getSession_bind, isInState_of_ready hready, if_pos rfl, if_neg hsize]

end Ready

/-! ## What is reported -/

namespace SendOperation

variable {cfg : Config} {s : SessionRef} {p : Process}

/-- The value that is reported, and what was sent. -/
theorem report_request
    (cfg : Config)
    (s : SessionRef)
    (p : Process)
    (data : Bytes)
    (timeout : UInt64) :
    (((request data timeout).report cfg s).run p).value =
        (((sendRequestFrames cfg s data).run p).value != 0) ∧
      (((request data timeout).report cfg s).run p).outputs =
        ((sendRequestFrames cfg s data).run p).outputs ∧
      (((request data timeout).report cfg s).run p).process.blockerList =
        p.blockerList ++
          if ((sendRequestFrames cfg s data).run p).value != 0 then
            [{ session := s
               blockerId := ((sendRequestFrames cfg s data).run p).value
               timer := timeout }]
          else [] := by
  have hframes := ((onlySends_sendRequestFrames cfg s data).frame p).blockerList
  rw [report, Act.run_bind, sendRequest, Act.run_bind]
  by_cases hid : ((sendRequestFrames cfg s data).run p).value = 0
  · simp [hid, hframes]
  · simp [hid, hframes, Act.run_bind]

theorem report_response
    (cfg : Config)
    (s : SessionRef)
    (p : Process)
    (data : Bytes)
    (blockerId : UInt64) :
    (((response data blockerId).report cfg s).run p).value =
        (((sendResponse cfg s data blockerId).run p).value != 0) ∧
      (((response data blockerId).report cfg s).run p).outputs =
        ((sendResponse cfg s data blockerId).run p).outputs ∧
      (((response data blockerId).report cfg s).run p).process.blockerList = p.blockerList := by
  have hframes := ((onlySends_sendResponse cfg s data blockerId).frame p).blockerList
  rw [report, Act.run_bind]
  simp only [Act.run_pure, List.append_nil]
  exact ⟨trivial, trivial, hframes⟩

/-- A session that is not ready sends nothing, and reports it. -/
theorem report_of_not_ready
    (cfg : Config)
    (hready : (p.session s).statemachine ≠ .sessionReady)
    (op : SendOperation) :
    ((op.report cfg s).run p).value = false := by
  have hstate : (p.session s).statemachine.isInState .sessionReady = false := by
    rw [SessionState.isInState_sessionReady]
    exact decide_eq_false hready
  cases op with
  | stream data replyExpected =>
      rw [report, sendStreamData]
      split
      · rfl
      · rw [run_getSession_bind, hstate]
        rfl
  | normalMessage data =>
      rw [report, sendNormalMessage, run_getSession_bind, hstate]
      rfl
  | request data timeout =>
      rw [(report_request cfg s p data timeout).1, sendRequestFrames, run_getSession_bind, hstate]
      rfl
  | response data blockerId =>
      rw [(report_response cfg s p data blockerId).1, sendResponse, run_getSession_bind, hstate]
      rfl

/-- A stream that is too long is not sent. -/
theorem report_of_not_fits
    {op : SendOperation}
    (hfits : ¬ op.Fits cfg) :
    ((op.report cfg s).run p).value = false := by
  cases op with
  | stream data replyExpected =>
      have hsize : data.length > cfg.maxSingleMessageSize := Nat.lt_of_not_le hfits
      rw [report, sendStreamData, if_pos hsize]
      rfl
  | _ => exact absurd trivial hfits

/-- Only a request waits, for the id of its message. -/
theorem blockerList_report (op : SendOperation) :
    ((op.report cfg s).run p).process.blockerList =
      p.blockerList ++
        if ((op.report cfg s).run p).value then op.waits s (p.randIds p.randCount) else [] := by
  cases op with
  | stream data replyExpected =>
      simp only [waits, ite_self, List.append_nil]
      exact ((onlySends_sendStreamData cfg s data replyExpected).frame p).blockerList
  | normalMessage data =>
      simp only [waits, ite_self, List.append_nil]
      exact ((onlySends_sendNormalMessage cfg s data).frame p).blockerList
  | response data blockerId =>
      simp only [waits, ite_self, List.append_nil]
      exact (report_response cfg s p data blockerId).2.2
  | request data timeout =>
      obtain ⟨hvalue, _, hblockers⟩ := report_request cfg s p data timeout
      rw [hblockers, hvalue, waits]
      by_cases hready : (p.session s).statemachine = .sessionReady
      · rcases (sendRequestFrames_cases cfg hready data timeout).1 with hid | hid
        · rw [hid]
        · rw [hid]
          rfl
      · have hfailed := report_of_not_ready cfg hready (.request data timeout)
        rw [hvalue] at hfailed
        rw [hfailed]
        rfl

/-- On a ready session success is that all frames were sent, but for a response in one
block that is refused. -/
theorem sentOrFailed_report
    (hready : (p.session s).statemachine = .sessionReady)
    {op : SendOperation}
    (hfits : op.Fits cfg)
    (hnot : ¬ op.Overlooks cfg (p.session s)) :
    SentOrFailed s (op.frames cfg (p.randIds p.randCount))
      ((op.report cfg s).run p).value ((op.report cfg s).run p).outputs := by
  cases op with
  | stream data replyExpected =>
      exact sentOrFailed_sendStreamData hready hfits replyExpected
  | normalMessage data =>
      exact sentOrFailed_sendNormalMessage hready data
  | request data timeout =>
      obtain ⟨hvalue, houtputs, _⟩ := report_request cfg s p data timeout
      rw [hvalue, houtputs]
      exact (sendRequestFrames_cases cfg hready data timeout).2
  | response data blockerId =>
      obtain ⟨hvalue, houtputs, _⟩ := report_response cfg s p data blockerId
      rw [hvalue, houtputs, frames]
      by_cases hsize : data.length < cfg.maxSingleMessageSize
      · obtain ⟨hid, hblock⟩ := sendResponse_single hready hsize blockerId
        have haccepts : (p.session s).Accepts := by
          by_contra hrefused
          exact hnot ⟨hready, hsize, hrefused⟩
        have hsent := sentOrFailed_sendNew s
          (.singleBlock (p.randIds p.randCount) blockerId data)
          { p with randCount := p.randCount + 1 }
        have htaken : ((sendNew s (.singleBlock (p.randIds p.randCount) blockerId data)).run
            { p with randCount := p.randCount + 1 }).value = true :=
          (sendNew_value_iff s _ _).mpr haccepts
        rw [htaken] at hsent
        have hnonzero : ((p.randIds p.randCount : UInt64) != 0) = true := by
          simpa using (p.randIds p.randCount).property
        rw [if_pos hsize, hid, hblock, hnonzero]
        exact hsent
      · rw [if_neg hsize, sendResponse_multi hready hsize]
        exact sentOrFailed_sendOutgoingData cfg s data blockerId p

end SendOperation

/-- A response in one block that is refused is reported as sent, and nothing is sent. -/
theorem not_reportsExactly_of_refused
    {cfg : Config}
    {s : SessionRef}
    {p : Process}
    {data : Bytes}
    {blockerId : UInt64}
    (h : (SendOperation.response data blockerId).Overlooks cfg (p.session s)) :
    ¬ ReportsExactly cfg s p (.response data blockerId) := by
  intro hreports
  obtain ⟨hready, hsize, hrefused⟩ := h
  obtain ⟨hvalue, houtputs, _⟩ :=
    SendOperation.report_response cfg s p data blockerId
  obtain ⟨hid, hblock⟩ := sendResponse_single hready hsize blockerId
  have hfailed : ((sendNew s (.singleBlock (p.randIds p.randCount) blockerId data)).run
      { p with randCount := p.randCount + 1 }).value = false := by
    rw [← Bool.not_eq_true, sendNew_value_iff]
    exact hrefused
  have hnothing : (((SendOperation.response data blockerId).report cfg s).run p).outputs = [] := by
    rw [houtputs, hblock, sendNew_outputs, hfailed]
    rfl
  have hsuccess : (((SendOperation.response data blockerId).report cfg s).run p).value = true := by
    rw [hvalue, hid]
    simpa using (p.randIds p.randCount).property
  obtain ⟨_, _, messages, hsent, hframes⟩ := hreports.success.mp hsuccess
  rw [hnothing] at hsent
  rw [SendOperation.frames, if_pos hsize, List.map_eq_nil_iff.mp hsent.symm] at hframes
  cases hframes

/-- An operation reports exactly the failures, unless it is a response in one block
that the socket of the ready session refuses: that is reported as sent. -/
theorem reports_exactly_iff
    (cfg : Config)
    (s : SessionRef)
    (p : Process)
    (op : SendOperation) :
    ReportsExactly cfg s p op ↔ ¬ op.Overlooks cfg (p.session s) := by
  constructor
  · intro h hoverlooks
    cases op with
    | response data blockerId =>
        exact not_reportsExactly_of_refused hoverlooks h
    | _ => exact hoverlooks
  · intro hnot
    refine ⟨?_, SendOperation.blockerList_report op⟩
    by_cases hready : (p.session s).statemachine = .sessionReady
    · by_cases hfits : op.Fits cfg
      · have hsent := SendOperation.sentOrFailed_report hready hfits hnot
        rw [hsent.success_iff]
        exact ⟨fun h => ⟨hready, hfits, h⟩, fun h => h.2.2⟩
      · rw [SendOperation.report_of_not_fits hfits]
        exact ⟨fun h => Bool.noConfusion h, fun h => absurd h.2.1 hfits⟩
    · rw [SendOperation.report_of_not_ready cfg hready op]
      exact ⟨fun h => Bool.noConfusion h, fun h => absurd h.1 hready⟩

/-- A ready session whose socket refuses every send. -/
def refusingProcess : Process :=
  readyProcess.modifySession 0 fun x =>
    { x with socket := x.socket.map fun k => { k with sendResults := fun _ => false } }

/-- A response without data is reported as sent over a socket that sends nothing. -/
theorem not_reports_exactly :
    ¬ ∀ (cfg : Config) (s : SessionRef) (p : Process) (op : SendOperation),
      ReportsExactly cfg s p op := by
  intro hall
  have hoverlooks : (SendOperation.response [] 1).Overlooks Config.default
      (refusingProcess.session 0) := by
    refine ⟨rfl, Config.default.positive, ?_⟩
    rintro ⟨k, hsocket, hsends⟩
    cases hsocket
    cases hsends
  exact not_reportsExactly_of_refused hoverlooks (hall Config.default 0 refusingProcess _)

end SakuraNetwork

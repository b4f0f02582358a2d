import SakuraNetwork.BlockReceipt
import SakuraNetwork.ServedRequests

/-!
# Requests and their responses

A process sends any number of requests over its sessions.  The application of the other
process answers each of them once, with the id that its request callback got.  The frames
of different messages come in any order, and so do the answers and the steps of the threads
that wait.

* `pairing`: both processes, what is on its way between them, and the threads.
* `Paired`, `Paired.step`: what holds in the runs in which no answered request times out.
* `requests_paired`: there every request returns what was passed to `sendResponse` for it.
-/

namespace SakuraNetwork

open Lib

/-- The two ways between the processes: of the requests, and of the responses. -/
inductive Way where
  | there
  | back
deriving DecidableEq

/-- The call of a request callback with this id. -/
def Parcel.isMessage (id : UInt64) : Parcel → Bool
  | .message id' _ => id' == id
  | _ => false

/-- The bodies of the frames that an operation handed to the socket. -/
def framesIn (outs : List Output) : List Body :=
  outs.filterMap fun o =>
    match o with
    | .sent _ m => some m.body
    | _ => none

/-- The requests after the receiver got some parcels: a response is recorded for its
request. -/
def recordResponse (request : UInt64 → Request) : List Parcel → UInt64 → Request
  | [.response id data] => Function.update request id ((request id).answered data)
  | _ => request

/-- A process that sends requests, and one that answers them.  Both ends of a connection
have the same name. -/
structure Pairing (cfg : Config) where
  /-- The process that sends requests, and the threads that wait. -/
  requests : Requests
  /-- The process that answers. -/
  peer : Process
  there : Lane cfg := {}
  back : Lane cfg := {}
  /-- The calls of the callbacks of the peer. -/
  calls : List (SessionRef × Parcel) := []
  /-- What the application of the peer passed to `sendResponse`, by the ids. -/
  replied : UInt64 → Option Bytes := fun _ => none

namespace Pairing

variable {cfg : Config}

/-- The calls of the request callback with an id. -/
def callsOf (st : Pairing cfg) (id : UInt64) : List (SessionRef × Parcel) :=
  st.calls.filter (fun c => c.2.isMessage id)

def lane (st : Pairing cfg) : Way → Lane cfg
  | .there => st.there
  | .back => st.back

def setLane (st : Pairing cfg) (l : Lane cfg) : Way → Pairing cfg
  | .there => { st with there := l }
  | .back => { st with back := l }

end Pairing

inductive PairingStep (cfg : Config) where
  /-- An application calls `sendRequest`, which cuts its data into frames.  A call that is
  refused returns at once, and is no request. -/
  | ask (s : SessionRef) (data : Bytes) (timeout : UInt64)
  /-- The application of the peer calls `sendResponse` for a call of its callback. -/
  | answer (id : UInt64) (data : Bytes)
  /-- The socket takes the next frame of a message. -/
  | emit (way : Way) (id : UInt64) (f : SentFrame cfg)
  /-- The socket takes a frame that belongs to no request and no response: a reply of a
  handler, a heartbeat, a stream. -/
  | other (way : Way) (s : SessionRef) (f : SentFrame cfg)
  /-- The receive thread of a session processes the next frame. -/
  | receive (way : Way) (s : SessionRef) (rest : Bytes) (beyond : Memory)
  /-- The last frame of a request is sent. -/
  | sent (id : UInt64)
  /-- A thread that waits takes a step, or the timer does. -/
  | thread (a : RequestStep)

/-- The step of `requests` belongs to a thread that waits, or to the timer. -/
def RequestStep.ofThread : RequestStep → Bool
  | .append _ | .wait _ | .remove _ | .makeTimerStep => true
  | _ => false

/-- Any number of requests and responses at the same time. -/
def pairing (cfg : Config) : TransitionSystem (Pairing cfg) (PairingStep cfg) where
  init := fun st =>
    requests.init st.requests ∧ st.there = {} ∧ st.back = {} ∧ st.calls = [] ∧
      (∀ id, st.replied id = none) ∧
      ∀ p, p = st.peer ∨ p = st.requests.process →
        (∀ size, p.allocation size = true) ∧ ∀ s, (p.session s).incomingBuffer = ∅
  step := fun st a =>
    match a with
    | .ask s data timeout =>
        let o := (sendRequestFrames cfg s data).run st.requests.process
        if o.value = 0 then none
        else some { st with
          requests := { st.requests with process := o.process }
          there := st.there.post o.value ⟨s, .request data timeout, framesIn o.outputs⟩ }
    | .answer id data =>
        match st.callsOf id, st.replied id with
        | (s, _) :: _, none =>
            let o := (sendResponse cfg s data id).run st.peer
            if o.value = 0 then none
            else some { st with
              peer := o.process
              back := st.back.post o.value ⟨s, .response data id, framesIn o.outputs⟩
              replied := Function.update st.replied id (some data) }
        | _, _ => none
    | .emit way id f =>
        match (st.lane way).posted id with
        | some ⟨s, op, b :: rest⟩ =>
            if f.message.body = b then
              some (st.setLane (((st.lane way).post id ⟨s, op, rest⟩).send s f) way)
            else none
        | _ => none
    | .other way s f => some (st.setLane ((st.lane way).send s f) way)
    | .receive .there s rest beyond =>
        match st.there.line s with
        | [] => none
        | f :: _ =>
            let o := Arrival.step s st.peer ⟨f, rest, beyond⟩
            some { st with
              peer := o.1
              there := st.there.pop s
              calls := st.calls ++ (o.2.filterMap Output.parcel).map (Prod.mk s) }
    | .receive .back s rest beyond =>
        match st.back.line s with
        | [] => none
        | f :: _ =>
            let p := st.requests.process
            let o := Arrival.step s p ⟨f, rest, beyond⟩
            some { st with
              requests :=
                { process := o.1
                  request := wakeNotified o.2 (recordResponse st.requests.request
                    (f.message.body.unpack (p.collected s)).2) }
              back := st.back.pop s }
    | .sent id =>
        match st.there.posted id with
        | some ⟨s, .request _ timeout, []⟩ =>
            (requests.step st.requests (.send s id timeout)).map fun r =>
              { st with requests := r }
        | _ => none
    | .thread a =>
        if a.ofThread then
          (requests.step st.requests a).map fun r => { st with requests := r }
        else none

/-- What is assumed of a run: data of at most 2^32 bytes, ids that were not drawn before, a
socket that does not refuse a response, other frames that are neither blocks nor of the
handshake, a peer whose session is ready, so that its callbacks are set; a response is
processed while its request waits, and no request without a response times out. -/
def PairingStep.Assumed {cfg : Config} (st : Pairing cfg) : PairingStep cfg → Prop
  | .ask _ data _ =>
      data.length ≤ 2 ^ 32 ∧
        st.there.posted (st.requests.process.randIds st.requests.process.randCount) = none
  | .answer id data =>
      data.length ≤ 2 ^ 32 ∧
        st.back.posted (st.peer.randIds st.peer.randCount) = none ∧
        ∀ c ∈ st.callsOf id,
          ¬ (SendOperation.response data id).Overlooks cfg (st.peer.session c.1)
  | .other _ _ f => f.message.body.Plain ∧ f.message.body.blockId = none
  | .receive .there s _ _ => (st.peer.session s).statemachine = .sessionReady
  | .receive .back s _ _ =>
      ∀ f ∈ (st.back.line s).head?, ∀ id, f.message.body.released = some id →
        (st.requests.request id).stage = .waiting
  | .thread .makeTimerStep =>
      ∀ b ∈ st.requests.process.blockerList, b.timer = 1 → b.responseData ≠ none
  | _ => True

/-- No entry with a response is at the last step of its timer. -/
def PairingStep.Punctual {cfg : Config} (st : Pairing cfg) : PairingStep cfg → Prop
  | .thread .makeTimerStep =>
      ∀ b ∈ st.requests.process.blockerList, b.timer = 1 → b.responseData = none
  | _ => True

instance {cfg : Config} (st : Pairing cfg) (a : PairingStep cfg) : Decidable (a.Assumed st) :=
  match a with
  | .ask .. => instDecidableAnd
  | .answer id data =>
      have (x : Session) : Decidable ((SendOperation.response data id).Overlooks cfg x) :=
        decidable_of_iff (x.statemachine = .sessionReady ∧
          data.length < cfg.maxSingleMessageSize ∧ ¬ x.socket.any Socket.sendSucceeds = true) (by
            rw [SendOperation.Overlooks, Session.Accepts, Option.any_eq_true])
      instDecidableAnd
  | .other _ _ f => inferInstanceAs (Decidable (_ = false ∧ f.message.body.blockId = none))
  | .receive .there .. => inferInstanceAs (Decidable (_ = SessionState.sessionReady))
  | .receive .back s _ _ =>
      decidable_of_iff ((st.back.line s).head?.all (fun f => f.message.body.released.all
        (fun id => (st.requests.request id).stage = .waiting)) = true) (by
          simp only [PairingStep.Assumed, Option.all_eq_true, decide_eq_true_eq, Option.mem_def])
  | .thread .makeTimerStep => inferInstanceAs (Decidable (∀ b ∈ _, _))
  | .emit .. | .sent _ => .isTrue trivial
  | .thread (.send ..) | .thread (.append _) | .thread (.wait _) | .thread (.wakeSpuriously _)
  | .thread (.remove _) | .thread (.release ..) => .isTrue trivial

instance {cfg : Config} (st : Pairing cfg) (a : PairingStep cfg) : Decidable (a.Punctual st) :=
  match a with
  | .thread .makeTimerStep => inferInstanceAs (Decidable (∀ b ∈ _, _))
  | .ask .. | .answer .. | .emit .. | .other .. | .receive .. | .sent _ => .isTrue trivial
  | .thread (.send ..) | .thread (.append _) | .thread (.wait _) | .thread (.wakeSpuriously _)
  | .thread (.remove _) | .thread (.release ..) => .isTrue trivial

/-- Nothing is left to do, apart from waiting. -/
structure Pairing.Finished {cfg : Config} (st : Pairing cfg) : Prop where
  lines : ∀ way s, (st.lane way).line s = []
  unsent : ∀ way id q, (st.lane way).posted id = some q → q.unsent = []
  answered : ∀ id, st.callsOf id ≠ [] → st.replied id ≠ none
  threads : ∀ id, st.there.posted id ≠ none → (st.requests.request id).stage = .waiting ∨
    ∃ result, (st.requests.request id).stage = .returned result

/-- The request callback of the peer gets every request once, as soon as its frames have
arrived, with its data; a request returns what was passed to `sendResponse` for it, and none
is left over. -/
structure Pairing.ExactlyPaired {cfg : Config} (st : Pairing cfg) : Prop where
  called : ∀ id q, st.there.posted id = some q →
    st.callsOf id =
      if st.there.remaining id q = [] then
        [(q.session, .message id (some q.operation.data))]
      else []
  uncalled : ∀ id, st.there.posted id = none → st.callsOf id = []
  returned : ∀ id result, (st.requests.request id).stage = .returned result →
    ∃ data, st.replied id = some data ∧ result = some data
  finished : st.Finished → ∀ id q, st.there.posted id = some q →
    st.callsOf id = [(q.session, .message id (some q.operation.data))] ∧
      ∃ data, st.replied id = some data ∧ (st.requests.request id).stage = .returned (some data)

/-! ## The frames of a call -/

theorem framesIn_sent (s : SessionRef) (messages : List Message) :
    framesIn (messages.map (Output.sent s)) = messages.map Message.body := by
  rw [framesIn, List.filterMap_map]
  exact congrFun (List.filterMap_eq_map (f := Message.body)) messages

theorem SentOrFailed.framesIn_eq
    {s : SessionRef}
    {frames : List Body}
    {success : Bool}
    {outputs : List Output}
    (h : SentOrFailed s frames success outputs)
    (hsuccess : success = true) :
    framesIn outputs = frames := by
  obtain ⟨messages, rfl, rfl⟩ := h.success_iff.mp hsuccess
  exact framesIn_sent s messages

/-- A request that got an id cut its data into frames. -/
theorem sendRequestFrames_of_value
    {cfg : Config}
    {s : SessionRef}
    {p : Process}
    {data : Bytes}
    (hvalue : ((sendRequestFrames cfg s data).run p).value ≠ 0)
    (timeout : UInt64) :
    ((sendRequestFrames cfg s data).run p).value = p.randIds p.randCount ∧
      framesIn ((sendRequestFrames cfg s data).run p).outputs =
        (SendOperation.request data timeout).frames cfg (p.randIds p.randCount) := by
  have hready : (p.session s).statemachine = .sessionReady := by
    by_contra hnot
    have hfailed := SendOperation.report_of_not_ready cfg hnot (.request data timeout)
    rw [(SendOperation.report_request cfg s p data timeout).1] at hfailed
    exact hvalue (by simpa using hfailed)
  obtain ⟨hid, hsent⟩ := sendRequestFrames_cases cfg hready data timeout
  exact ⟨hid.resolve_right hvalue, hsent.framesIn_eq (by simpa using hvalue)⟩

/-- So did a response that the socket did not refuse. -/
theorem sendResponse_of_value
    {cfg : Config}
    {s : SessionRef}
    {p : Process}
    {data : Bytes}
    {blockerId : UInt64}
    (hvalue : ((sendResponse cfg s data blockerId).run p).value ≠ 0)
    (hnot : ¬ (SendOperation.response data blockerId).Overlooks cfg (p.session s)) :
    ((sendResponse cfg s data blockerId).run p).value = p.randIds p.randCount ∧
      framesIn ((sendResponse cfg s data blockerId).run p).outputs =
        (SendOperation.response data blockerId).frames cfg (p.randIds p.randCount) := by
  obtain ⟨hreport, houtputs, _⟩ := SendOperation.report_response cfg s p data blockerId
  have hready : (p.session s).statemachine = .sessionReady := by
    by_contra hnotReady
    have hfailed := SendOperation.report_of_not_ready cfg hnotReady (.response data blockerId)
    rw [hreport] at hfailed
    exact hvalue (by simpa using hfailed)
  have hfits : (SendOperation.response data blockerId).Fits cfg := trivial
  have hsent := SendOperation.sentOrFailed_report hready hfits hnot
  rw [hreport, houtputs] at hsent
  refine ⟨?_, hsent.framesIn_eq (by simpa using hvalue)⟩
  by_cases hsize : data.length < cfg.maxSingleMessageSize
  · exact (sendResponse_single hready hsize blockerId).1
  · rw [sendResponse_multi hready hsize] at hvalue ⊢
    rcases MultiblockIo.sendOutgoingData_cases cfg s data blockerId p with ⟨hid, _⟩ | ⟨hid, _⟩
    · exact hid
    · exact absurd hid hvalue

/-- Sending changes nothing that is collected. -/
theorem SendFrame.collected
    {s : SessionRef}
    {p p' : Process}
    (h : SendFrame s p p')
    (r : SessionRef) :
    p'.collected r = p.collected r := by
  funext id
  by_cases hr : r = s
  · subst hr
    obtain ⟨k, c, hself⟩ := h.self
    simp only [Process.collected, hself]
  · simp only [Process.collected, h.other r hr]

/-! ## The frames that arrive -/

/-- The frames on the way name messages that have an id. -/
theorem Lane.Carries.addressed
    {cfg : Config}
    {l : Lane cfg}
    {collected : SessionRef → Collected}
    (h : l.Carries collected)
    {s : SessionRef}
    {f : SentFrame cfg}
    (hmem : f ∈ l.line s) :
    f.message.body.Addressed := by
  refine Body.addressed_of_blockId fun id hid => ?_
  obtain ⟨q, hq, _⟩ := (h.frame s f hmem).2 id hid
  exact (h.valid id q hq).1

/-- What a frame is handed on as comes from the message that it belongs to. -/
theorem Lane.Carries.of_mem_unpack
    {cfg : Config}
    {l : Lane cfg}
    {collected : SessionRef → Collected}
    (h : l.Carries collected)
    {s : SessionRef}
    {f : SentFrame cfg}
    {line : List (SentFrame cfg)}
    (hline : l.line s = f :: line)
    {id : UInt64}
    (hblock : f.message.body.blockId = some id)
    {x : Parcel}
    (hx : x ∈ (f.message.body.unpack (collected s)).2) :
    ∃ q, l.posted id = some q ∧ x = q.operation.parcel id := by
  have harrived := (h.take hline).2 id
  rw [if_pos hblock] at harrived
  have hmem : (s, x) ∈ (l.pop s).arrived id := by
    rw [harrived]
    exact List.mem_append_right _ (List.mem_map_of_mem hx)
  obtain ⟨q, hq, hsame⟩ := Lane.of_mem_arrived hmem
  exact ⟨q, hq, (Prod.mk.inj hsame).2⟩

/-- The calls with an id, among those that a frame of one message leads to. -/
theorem filter_isMessage
    {block : Option UInt64}
    {parcels : List Parcel}
    (h : ∀ x ∈ parcels,
      block = none ∧ (∃ data, x = .stream data) ∨ ∃ id data, block = some id ∧ x = .message id data)
    (s : SessionRef)
    (id : UInt64) :
    ((parcels.filter Parcel.called).map (Prod.mk s)).filter (fun c => c.2.isMessage id) =
      if block = some id then parcels.map (Prod.mk s) else [] := by
  have hcalled : parcels.filter Parcel.called = parcels := by
    refine List.filter_eq_self.mpr fun x hx => ?_
    rcases h x hx with ⟨_, data, rfl⟩ | ⟨id', data, _, rfl⟩
    · rfl
    · rfl
  rw [hcalled]
  by_cases hblock : block = some id
  · rw [if_pos hblock]
    refine List.filter_eq_self.mpr fun c hc => ?_
    obtain ⟨x, hx, rfl⟩ := List.mem_map.mp hc
    rcases h x hx with ⟨hnone, _⟩ | ⟨id', data, hid, rfl⟩
    · cases hblock.symm.trans hnone
    · cases hblock.symm.trans hid
      exact beq_self_eq_true id
  · rw [if_neg hblock]
    refine List.filter_eq_nil_iff.mpr fun c hc => ?_
    obtain ⟨x, hx, rfl⟩ := List.mem_map.mp hc
    rcases h x hx with ⟨_, data, rfl⟩ | ⟨id', data, hid, rfl⟩
    · exact Bool.false_ne_true
    · intro hsame
      exact hblock (hid.trans (congrArg some (eq_of_beq hsame)))

theorem recordResponse_of_not_mem
    {request : UInt64 → Request}
    {parcels : List Parcel}
    (h : ∀ id data, .response id data ∉ parcels) :
    recordResponse request parcels = request := by
  unfold recordResponse
  split
  · exact absurd (List.mem_singleton.mpr rfl) (h _ _)
  · rfl

/-! ## The invariant -/

/-- The frames are carried both ways, the calls of the peer are what arrived, and a request
has a response exactly when one arrived, with the data that was passed to
`sendResponse`. -/
structure Paired {cfg : Config} (st : Pairing cfg) : Prop where
  served : Served st.requests
  there : st.there.Carries st.peer.collected
  back : st.back.Carries st.requests.process.collected
  allocation : ∀ p, p = st.peer ∨ p = st.requests.process → ∀ size, p.allocation size = true
  calls : ∀ id, st.callsOf id = st.there.arrived id
  asked : ∀ id op, st.there.operationOf id = some op → ∃ data timeout, op = .request data timeout
  answered : ∀ id op, st.back.operationOf id = some op → ∃ blockerId data,
    op = .response data blockerId ∧ blockerId ≠ 0 ∧ st.replied blockerId = some data
  replied : ∀ id data, st.replied id = some data →
    ∃ m, st.back.operationOf m = some (.response data id)
  sent : ∀ id, (st.requests.request id).stage ≠ .idle → st.there.Sent id
  response : ∀ id data, (st.requests.request id).response = some data →
    ∃ bytes, data = some bytes ∧ st.replied id = some bytes
  delivered : ∀ id m s data, (s, .response id data) ∈ st.back.arrived m →
    (st.requests.request id).response ≠ none

namespace Paired

variable {cfg : Config} {st st' : Pairing cfg}

theorem init
    (h : (pairing cfg).init st) :
    Paired st := by
  obtain ⟨⟨hlist, hrequest⟩, hthere, hback, hcalls, hreplied, hprocess⟩ := h
  have hcarries : ∀ p, p = st.peer ∨ p = st.requests.process →
      ({} : Lane cfg).Carries p.collected := by
    intro p hp
    refine ⟨fun _ _ hnone => ?_, fun _ _ hnone => ?_, fun id _ s => ?_, fun _ _ hnone => ?_⟩
    · cases hnone
    · cases hnone
    · rw [Process.collected, (hprocess p hp).2 s]
      exact ite_self _
    · cases hnone
  constructor
  · refine ⟨⟨?_, ?_, ?_⟩, ?_⟩
    · rw [hlist]
      exact List.nodup_nil
    · rw [hlist]
      intro b hb
      cases hb
    · intro id
      rw [hrequest id]
      exact ⟨fun htime => absurd htime Bool.false_ne_true, rfl⟩
    · intro id
      rw [hrequest id]
      trivial
  · rw [hthere]
    exact hcarries _ (Or.inl rfl)
  · rw [hback]
    exact hcarries _ (Or.inr rfl)
  · exact fun p hp => (hprocess p hp).1
  · intro id
    rw [Pairing.callsOf, hcalls, hthere]
    rfl
  · intro id op hop
    rw [hthere] at hop
    cases hop
  · intro id op hop
    rw [hback] at hop
    cases hop
  · intro id data hdata
    rw [hreplied id] at hdata
    cases hdata
  · intro id hstage
    rw [hrequest id] at hstage
    exact absurd rfl hstage
  · intro id data hdata
    rw [hrequest id] at hdata
    cases hdata
  · intro id m s data harrived
    rw [hback] at harrived
    cases harrived

/-- What was posted there is a request. -/
theorem request_of_posted
    (h : Paired st)
    {id : UInt64}
    {q : Posting}
    (hposted : st.there.posted id = some q) :
    q.operation.parcel id = .message id (some q.operation.data) := by
  obtain ⟨data, timeout, hop⟩ := h.asked id q.operation (by rw [Lane.operationOf, hposted]; rfl)
  rw [hop]
  rfl

/-- What was posted back is the response that was passed to `sendResponse`. -/
theorem response_of_posted
    (h : Paired st)
    {m : UInt64}
    {q : Posting}
    (hposted : st.back.posted m = some q) :
    ∃ id data, id ≠ 0 ∧ st.replied id = some data ∧
      q.operation.parcel m = .response id (some data) := by
  obtain ⟨id, data, hop, hid, hreplied⟩ :=
    h.answered m q.operation (by rw [Lane.operationOf, hposted]; rfl)
  refine ⟨id, data, hid, hreplied, ?_⟩
  rw [hop, SendOperation.parcel, Parcel.ofBlock, if_neg hid]

/-- An application calls `sendRequest`. -/
theorem ask
    (h : Paired st)
    {s : SessionRef}
    {data : Bytes}
    {timeout : UInt64}
    (hassumed : (PairingStep.ask s data timeout).Assumed st)
    (hstep : (pairing cfg).step st (.ask s data timeout) = some st') :
    Paired st' := by
  obtain ⟨hlength, hfresh⟩ := hassumed
  simp only [pairing] at hstep
  split at hstep
  · cases hstep
  · rename_i hvalue
    cases hstep
    obtain ⟨hid, hframes⟩ := sendRequestFrames_of_value hvalue timeout
    have hsends := (onlySends_sendRequestFrames cfg s data).frame st.requests.process
    have hunsent : ¬ st.there.Sent (st.requests.process.randIds st.requests.process.randCount) := by
      rintro ⟨q, hq, _⟩
      cases hq.symm.trans hfresh
    rw [hid, hframes]
    obtain ⟨hcarries, harrived⟩ := h.there.post
      (q := ⟨s, .request data timeout, (SendOperation.request data timeout).frames cfg _⟩) hfresh
      (st.requests.process.randIds st.requests.process.randCount).property trivial hlength rfl
    refine ⟨h.served.congr hsends.blockerList, hcarries, h.back.congr hsends.collected, ?_, ?_, ?_,
      h.answered, h.replied, ?_, h.response, h.delivered⟩
    · rintro p (rfl | rfl)
      · exact h.allocation _ (Or.inl rfl)
      · simp only [hsends.allocation]
        exact h.allocation _ (Or.inr rfl)
    · exact fun id => (h.calls id).trans (harrived id).symm
    · intro id op hop
      simp only [Lane.operationOf_post] at hop
      by_cases hsame : id = st.requests.process.randIds st.requests.process.randCount
      · subst hsame
        rw [Function.update_self] at hop
        exact ⟨data, timeout, (Option.some.inj hop).symm⟩
      · rw [Function.update_of_ne hsame] at hop
        exact h.asked id op hop
    · exact fun id hstage => (h.sent id hstage).post hunsent _

/-- The application of the peer calls `sendResponse`. -/
theorem answer
    (h : Paired st)
    {id : UInt64}
    {data : Bytes}
    (hassumed : (PairingStep.answer id data).Assumed st)
    (hstep : (pairing cfg).step st (.answer id data) = some st') :
    Paired st' := by
  obtain ⟨hlength, hfresh, haccepts⟩ := hassumed
  simp only [pairing] at hstep
  split at hstep
  · rename_i s x rest hcalls hnone
    split at hstep
    · cases hstep
    · rename_i hvalue
      cases hstep
      have hcall : (s, x) ∈ st.callsOf id := by
        rw [hcalls]
        exact List.mem_cons_self
      obtain ⟨hdrawn, hframes⟩ := sendResponse_of_value hvalue (haccepts (s, x) hcall)
      have hsends := (onlySends_sendResponse cfg s data id).frame st.peer
      have hid : id ≠ 0 := by
        rw [h.calls id] at hcall
        obtain ⟨q, hq, _⟩ := Lane.of_mem_arrived hcall
        exact (h.there.valid id q hq).1
      rw [hdrawn, hframes]
      obtain ⟨hcarries, harrived⟩ := h.back.post
        (q := ⟨s, .response data id, (SendOperation.response data id).frames cfg _⟩) hfresh
        (st.peer.randIds st.peer.randCount).property trivial hlength rfl
      have hkept : ∀ {id' bytes}, st.replied id' = some bytes →
          Function.update st.replied id (some data) id' = some bytes := by
        intro id' bytes hreplied
        have hne : id' ≠ id := by
          rintro rfl
          cases hreplied.symm.trans hnone
        rw [Function.update_of_ne hne]
        exact hreplied
      refine ⟨h.served, h.there.congr hsends.collected, hcarries, ?_, h.calls, h.asked, ?_, ?_,
        h.sent, ?_, ?_⟩
      · rintro p (rfl | rfl)
        · simp only [hsends.allocation]
          exact h.allocation _ (Or.inl rfl)
        · exact h.allocation _ (Or.inr rfl)
      · intro m op hop
        simp only [Lane.operationOf_post] at hop
        by_cases hsame : m = st.peer.randIds st.peer.randCount
        · subst hsame
          rw [Function.update_self] at hop
          exact ⟨id, data, (Option.some.inj hop).symm, hid, Function.update_self ..⟩
        · rw [Function.update_of_ne hsame] at hop
          obtain ⟨id', bytes, hop', hid', hreplied⟩ := h.answered m op hop
          exact ⟨id', bytes, hop', hid', hkept hreplied⟩
      · intro id' bytes hreplied
        simp only [Lane.operationOf_post] at hreplied ⊢
        by_cases hsame : id' = id
        · subst hsame
          rw [Function.update_self] at hreplied
          cases hreplied
          exact ⟨_, Function.update_self ..⟩
        · rw [Function.update_of_ne hsame] at hreplied
          obtain ⟨m, hop⟩ := h.replied id' bytes hreplied
          refine ⟨m, ?_⟩
          have hne : m ≠ st.peer.randIds st.peer.randCount := by
            rintro rfl
            rw [Lane.operationOf, hfresh] at hop
            cases hop
          rw [Function.update_of_ne hne]
          exact hop
      · intro id' first hresponse
        obtain ⟨bytes, hbytes, hreplied⟩ := h.response id' first hresponse
        exact ⟨bytes, hbytes, hkept hreplied⟩
      · intro id' m r first hmem
        exact h.delivered id' m r first (harrived m ▸ hmem)
  · cases hstep

/-- A frame is sent one way. -/
theorem setLane
    (h : Paired st)
    (way : Way)
    {l : Lane cfg}
    (hlane : ∀ collected, (st.lane way).Carries collected →
      l.Carries collected ∧ ∀ id, l.arrived id = (st.lane way).arrived id)
    (hoperation : l.operationOf = (st.lane way).operationOf)
    (hsent : ∀ id, (st.lane way).Sent id → l.Sent id) :
    Paired (st.setLane l way) := by
  cases way with
  | there =>
      obtain ⟨hcarries, harrived⟩ := hlane _ h.there
      refine ⟨h.served, hcarries, h.back, h.allocation, ?_, ?_, h.answered, h.replied, ?_,
        h.response, h.delivered⟩
      · exact fun id => (h.calls id).trans (harrived id).symm
      · exact fun id op hop => h.asked id op (hoperation ▸ hop)
      · exact fun id hstage => hsent id (h.sent id hstage)
  | back =>
      obtain ⟨hcarries, harrived⟩ := hlane _ h.back
      refine ⟨h.served, h.there, hcarries, h.allocation, h.calls, h.asked, ?_, ?_, h.sent,
        h.response, ?_⟩
      · exact fun m op hop => h.answered m op (hoperation ▸ hop)
      · intro id data hreplied
        obtain ⟨m, hop⟩ := h.replied id data hreplied
        exact ⟨m, hoperation ▸ hop⟩
      · exact fun id m s data hmem => h.delivered id m s data (harrived m ▸ hmem)

/-- The socket takes the next frame of a message. -/
theorem emit
    (h : Paired st)
    {way : Way}
    {id : UInt64}
    {f : SentFrame cfg}
    (hstep : (pairing cfg).step st (.emit way id f) = some st') :
    Paired st' := by
  simp only [pairing] at hstep
  split at hstep
  · rename_i s op b rest hposted
    split at hstep
    · rename_i hbody
      cases hstep
      subst hbody
      have hnot : ¬ (st.lane way).Sent id := by
        rintro ⟨q, hq, hunsent⟩
        cases hq.symm.trans hposted
        cases hunsent
      refine h.setLane way ?_ ?_ ?_
      · exact fun collected hcarries => hcarries.emit hposted rfl
      · exact Lane.operationOf_emit hposted rest
      · exact fun id' hsent => hsent.post hnot _
    · cases hstep
  · cases hstep

/-- The socket takes another frame. -/
theorem other
    (h : Paired st)
    {way : Way}
    {s : SessionRef}
    {f : SentFrame cfg}
    (hassumed : (PairingStep.other way s f).Assumed st)
    (hstep : (pairing cfg).step st (.other way s f) = some st') :
    Paired st' := by
  obtain ⟨hplain, hnone⟩ := hassumed
  cases hstep
  refine h.setLane way ?_ rfl fun _ hsent => hsent
  exact fun collected hcarries => hcarries.send s hplain hnone

/-- A thread takes a step, or the timer does. -/
theorem threads
    (h : Paired st)
    {a : RequestStep}
    {requests' : Requests}
    (hserves : a.Serves st.requests)
    (hthread : ∀ id data, a ≠ .release id data)
    (hsend : ∀ s id timeout, a = .send s id timeout → st.there.Sent id)
    (hstep : requests.step st.requests a = some requests') :
    Paired { st with requests := requests' } := by
  obtain ⟨⟨l, hprocess⟩, hrequest⟩ := thread_step h.served.waits hthread hstep
  refine ⟨h.served.step hserves hstep, h.there, ?_, ?_, h.calls, h.asked, h.answered, h.replied,
    ?_, ?_, ?_⟩
  · simp only [hprocess]
    exact h.back
  · rintro p (rfl | rfl)
    · exact h.allocation _ (Or.inl rfl)
    · simp only [hprocess]
      exact h.allocation _ (Or.inr rfl)
  · intro id hstage
    rcases (hrequest id).2 hstage with hbefore | ⟨s, timeout, ha⟩
    · exact h.sent id hbefore
    · exact hsend s id timeout ha
  · intro id data hresponse
    exact h.response id data ((hrequest id).1 ▸ hresponse)
  · intro id m s data hmem
    rw [(hrequest id).1]
    exact h.delivered id m s data hmem

/-- The peer gets a frame. -/
theorem receive_there
    (h : Paired st)
    {s : SessionRef}
    {rest : Bytes}
    {beyond : Memory}
    (hstep : (pairing cfg).step st (.receive .there s rest beyond) = some st') :
    Paired st' := by
  simp only [pairing] at hstep
  split at hstep
  · cases hstep
  · rename_i f line hline
    cases hstep
    have hmem : f ∈ st.there.line s := by
      rw [hline]
      exact List.mem_cons_self
    have hplain := (h.there.frame s f hmem).1
    have hallocation := h.allocation st.peer (Or.inl rfl)
    have hdelivers := delivers_handle (s := s) hallocation hplain (h.there.addressed hmem)
    have hcollected := collected_handle (s := s) hallocation hplain (h.there.addressed hmem)
    obtain ⟨hcarries, harrived⟩ := h.there.take hline
    rw [Arrival.step_eq]
    refine ⟨h.served, ?_, h.back, ?_, ?_, h.asked, h.answered, h.replied, h.sent, h.response,
      h.delivered⟩
    · simp only [hcollected]
      exact hcarries
    · rintro p (rfl | rfl)
      · simp only [hdelivers.allocation]
        exact hallocation
      · exact h.allocation _ (Or.inr rfl)
    · intro id
      rw [harrived id, ← h.calls id]
      simp only [Pairing.callsOf, List.filter_append, hdelivers.called]
      congr 1
      refine filter_isMessage (fun x hx => ?_) s id
      cases hblock : f.message.body.blockId with
      | none => exact Or.inl ⟨rfl, (Body.unpack_of_blockId_none hblock _).2 x hx⟩
      | some id' =>
          obtain ⟨q, hq, rfl⟩ := h.there.of_mem_unpack hline hblock hx
          exact Or.inr ⟨id', _, rfl, h.request_of_posted hq⟩

/-- The process that sends requests gets a frame. -/
theorem receive_back
    (h : Paired st)
    {s : SessionRef}
    {rest : Bytes}
    {beyond : Memory}
    (hassumed : (PairingStep.receive .back s rest beyond : PairingStep cfg).Assumed st)
    (hstep : (pairing cfg).step st (.receive .back s rest beyond) = some st') :
    Paired st' := by
  simp only [pairing] at hstep
  split at hstep
  · cases hstep
  · rename_i f line hline
    cases hstep
    have hmem : f ∈ st.back.line s := by
      rw [hline]
      exact List.mem_cons_self
    have hplain := (h.back.frame s f hmem).1
    have hallocation := h.allocation st.requests.process (Or.inr rfl)
    have hdelivers := delivers_handle (s := s) hallocation hplain (h.back.addressed hmem)
    have hcollected := collected_handle (s := s) hallocation hplain (h.back.addressed hmem)
    obtain ⟨hcarries, harrived⟩ := h.back.take hline
    have hkept : ∀ p, p = st.peer ∨
        p = ((f.message.handle s).run st.requests.process).process →
          ∀ size, p.allocation size = true := by
      rintro p (rfl | rfl)
      · exact h.allocation _ (Or.inl rfl)
      · rw [hdelivers.allocation]
        exact hallocation
    rw [Arrival.step_eq]
    cases hreleased : f.message.body.released with
    | none =>
        obtain ⟨hlist, hnobody⟩ := unreleased_handle (s := s) (p := st.requests.process) hplain
          hreleased
        have hnoResponse := f.message.body.unpack_of_not_released hreleased
          (st.requests.process.collected s)
        have hrequest : wakeNotified ((f.message.handle s).run st.requests.process).outputs
            (recordResponse st.requests.request
              (f.message.body.unpack (st.requests.process.collected s)).2) =
            st.requests.request := by
          rw [recordResponse_of_not_mem hnoResponse]
          funext id
          exact if_neg (hnobody id)
        simp only [hrequest]
        refine ⟨h.served.congr hlist, h.there, ?_, hkept, h.calls, h.asked, h.answered, h.replied,
          h.sent, h.response, ?_⟩
        · simp only [hcollected]
          exact hcarries
        · intro id m r data hmem'
          simp only [harrived m] at hmem'
          rcases List.mem_append.mp hmem' with hold | hnew
          · exact h.delivered id m r data hold
          · split at hnew
            · obtain ⟨x, hx, hsame⟩ := List.mem_map.mp hnew
              cases hsame
              exact absurd hx (hnoResponse id data)
            · cases hnew
    | some id =>
        obtain ⟨data, hparcels, hlist, hnotified⟩ := released_handle (p := st.requests.process)
          (h.back.addressed hmem) hreleased
        have hwaiting : (st.requests.request id).stage = .waiting := by
          refine hassumed f ?_ id hreleased
          rw [hline]
          rfl
        -- the frame is the last one of a response, so it carries what was replied
        obtain ⟨m, hblock⟩ := Body.blockId_of_released hreleased
        obtain ⟨q, hq, hparcel⟩ := h.back.of_mem_unpack hline hblock (x := .response id data)
          (hparcels ▸ List.mem_singleton.mpr rfl)
        obtain ⟨id', bytes, _, hreplied, hparcel'⟩ := h.response_of_posted hq
        cases hparcel.trans hparcel'
        obtain ⟨r, hresponse, hrequest, hserved⟩ := h.served.answered hwaiting hlist
        have hrecorded : wakeNotified ((f.message.handle s).run st.requests.process).outputs
            (recordResponse st.requests.request
              (f.message.body.unpack (st.requests.process.collected s)).2) =
            Function.update st.requests.request id r := by
          rw [hparcels, ← hrequest, recordResponse]
          funext id'
          simp only [wakeNotified, hnotified]
        simp only [hrecorded]
        refine ⟨hserved, h.there, ?_, hkept, h.calls, h.asked, h.answered, h.replied, ?_, ?_, ?_⟩
        · simp only [hcollected]
          exact hcarries
        · intro id' hstage
          by_cases hid : id' = id
          · subst hid
            exact h.sent id' (by simp [hwaiting])
          · simp only [Function.update_of_ne hid] at hstage
            exact h.sent id' hstage
        · intro id' first hfirst
          by_cases hid : id' = id
          · subst hid
            simp only [Function.update_self, hresponse] at hfirst
            exact ⟨bytes, (Option.some.inj hfirst).symm, hreplied⟩
          · simp only [Function.update_of_ne hid] at hfirst
            exact h.response id' first hfirst
        · intro id' m' r' first hmem'
          by_cases hid : id' = id
          · subst hid
            simp [Function.update_self, hresponse]
          · simp only [Function.update_of_ne hid]
            simp only [harrived m', hparcels] at hmem'
            rcases List.mem_append.mp hmem' with hold | hnew
            · exact h.delivered id' m' r' first hold
            · split at hnew
              · cases List.mem_singleton.mp hnew
                exact absurd rfl hid
              · cases hnew

/-- The last frame of a request is sent. -/
theorem of_sent
    (h : Paired st)
    {id : UInt64}
    (hstep : (pairing cfg).step st (.sent id) = some st') :
    Paired st' := by
  simp only [pairing] at hstep
  split at hstep
  · rename_i s data timeout hposted
    obtain ⟨requests', hrequests, rfl⟩ := Option.map_eq_some_iff.mp hstep
    refine h.threads (a := .send s id timeout) trivial (fun _ _ => nofun) ?_ hrequests
    intro s' id' timeout' hsame
    cases hsame
    exact ⟨_, hposted, rfl⟩
  · cases hstep

/-- A thread that waits takes a step. -/
theorem thread
    (h : Paired st)
    {a : RequestStep}
    (hassumed : (PairingStep.thread a : PairingStep cfg).Assumed st)
    (hpunctual : (PairingStep.thread a : PairingStep cfg).Punctual st)
    (hstep : (pairing cfg).step st (.thread a) = some st') :
    Paired st' := by
  simp only [pairing] at hstep
  split at hstep
  · rename_i hthread
    obtain ⟨requests', hrequests, rfl⟩ := Option.map_eq_some_iff.mp hstep
    cases a with
    | append id =>
        exact h.threads (a := .append id) trivial (fun _ _ => nofun) (fun _ _ _ => nofun) hrequests
    | wait id =>
        exact h.threads (a := .wait id) trivial (fun _ _ => nofun) (fun _ _ _ => nofun) hrequests
    | remove id =>
        exact h.threads (a := .remove id) trivial (fun _ _ => nofun) (fun _ _ _ => nofun) hrequests
    | makeTimerStep =>
        -- an entry at the last step of its timer would have a response, and have none
        have hquiet : RequestStep.makeTimerStep.Serves st.requests :=
          fun b hb hone => hassumed b hb hone (hpunctual b hb hone)
        exact h.threads hquiet (fun _ _ => nofun) (fun _ _ _ => nofun) hrequests
    | send => exact absurd hthread Bool.false_ne_true
    | wakeSpuriously => exact absurd hthread Bool.false_ne_true
    | release => exact absurd hthread Bool.false_ne_true
  · cases hstep

/-- Every step in which no answered request times out keeps the invariant. -/
theorem step
    (h : Paired st)
    {a : PairingStep cfg}
    (hallowed : a.Assumed st ∧ a.Punctual st)
    (hstep : (pairing cfg).step st a = some st') :
    Paired st' := by
  cases a with
  | ask s data timeout => exact h.ask hallowed.1 hstep
  | answer id data => exact h.answer hallowed.1 hstep
  | emit way id f => exact h.emit hstep
  | other way s f => exact h.other hallowed.1 hstep
  | receive way s rest beyond =>
      cases way with
      | there => exact h.receive_there hstep
      | back => exact h.receive_back hallowed.1 hstep
  | sent id => exact h.of_sent hstep
  | thread a => exact h.thread hallowed.1 hallowed.2 hstep

/-- The invariant says what is to be proved. -/
theorem exactlyPaired
    (h : Paired st) :
    st.ExactlyPaired := by
  have hreturned : ∀ id result, (st.requests.request id).stage = .returned result →
      ∃ data, st.replied id = some data ∧ result = some data := by
    intro id result hstage
    obtain ⟨data, rfl, hresponse⟩ := h.served.returned hstage
    obtain ⟨bytes, hbytes, hreplied⟩ := h.response id _ hresponse
    exact ⟨bytes, hreplied, hbytes⟩
  refine ⟨?_, ?_, hreturned, ?_⟩
  · intro id q hposted
    rw [h.calls id, Lane.arrived_of_posted hposted, h.request_of_posted hposted]
  · intro id hposted
    rw [h.calls id, Lane.arrived_of_not_posted hposted]
  · intro hfinished id q hposted
    -- nothing is on its way, so everything that was posted has arrived
    have harrived : ∀ (way : Way) {id : UInt64} {q : Posting},
        (st.lane way).posted id = some q →
          (st.lane way).arrived id = [(q.session, q.operation.parcel id)] := by
      intro way id q hq
      rw [Lane.arrived_of_posted hq, Lane.remaining, Lane.inFlight, hfinished.lines way q.session,
        hfinished.unsent way id q hq]
      rfl
    have hcalled : st.callsOf id = [(q.session, .message id (some q.operation.data))] := by
      rw [h.calls id, ← h.request_of_posted hposted]
      exact harrived .there hposted
    refine ⟨hcalled, ?_⟩
    rcases hfinished.threads id (by simp [hposted]) with hwaiting | ⟨result, hstage⟩
    · obtain ⟨data, hreplied⟩ := Option.ne_none_iff_exists'.mp
        (hfinished.answered id (by simp [hcalled]))
      obtain ⟨m, hop⟩ := h.replied id data hreplied
      obtain ⟨q', hq', hop'⟩ := Option.map_eq_some_iff.mp hop
      obtain ⟨id', data', hid', _, hparcel⟩ := h.response_of_posted hq'
      have hsame : id' = id := by
        rw [hop', SendOperation.parcel, Parcel.ofBlock] at hparcel
        split at hparcel
        · cases hparcel
        · cases hparcel
          rfl
      subst hsame
      refine absurd (h.served.response_of_waiting hwaiting) (h.delivered id' m q'.session
        (some data') ?_)
      have hlist := harrived .back hq'
      rw [hparcel] at hlist
      exact hlist ▸ List.mem_singleton.mpr rfl
    · obtain ⟨data, hreplied, rfl⟩ := hreturned id result hstage
      exact ⟨data, hreplied, hstage⟩

end Paired

/-- In every run in which no answered request times out, the callback of the peer gets each
request once, and each request returns what was passed to `sendResponse` for it. -/
theorem requests_paired
    {cfg : Config}
    {st : Pairing cfg}
    (hrun : (pairing cfg).Reaches (fun st a => a.Assumed st ∧ a.Punctual st) st) :
    st.ExactlyPaired :=
  (hrun.invariant (fun _ h => Paired.init h)
    fun _ _ _ h hallowed hstep => h.step hallowed hstep).exactlyPaired

/-! ## Runs -/

/-- One byte is sent in a message. -/
def byteConfig : Config where
  maxSingleMessageSize := 1
  positive := by decide
  fits := by decide

/-- The requests have the ids 1, 2 and so on, and the responses too. -/
def readyPairing : Pairing byteConfig where
  requests := { process := { readyProcess with randCount := 1 } }
  peer := { readyProcess with randCount := 1 }

theorem readyPairing_init : (pairing byteConfig).init readyPairing := by
  refine ⟨⟨rfl, fun _ => rfl⟩, rfl, rfl, rfl, fun _ => rfl, ?_⟩
  rintro p (rfl | rfl)
  · exact ⟨fun _ => rfl, fun _ => rfl⟩
  · exact ⟨fun _ => rfl, fun _ => rfl⟩

/-- A frame as the socket takes it. -/
def byteFrame (body : Body) (h : body.Sendable byteConfig) : SentFrame byteConfig where
  found := fun _ => 0
  message := ⟨0, 0, body⟩
  sendable := h

/-- The frame is processed as soon as it is all that the receive buffer holds. -/
def PairingStep.arrive (way : Way) : PairingStep byteConfig :=
  .receive way 0 [] (fun _ => 0)

/-- A request in one block and one in two parts, sent and answered at the same time: the
second one is answered first, in one block, and the first one in a part. -/
def twoRequests : List (PairingStep byteConfig) :=
  [.ask 0 [7] 5, .ask 0 [8, 9] 6,
    .emit .there 2 (byteFrame (.multiStatic 2 2 3 0 [8] 0) (Nat.le_refl 1)),
    .emit .there 1 (byteFrame (.singleBlock 1 0 [7]) (Nat.le_refl 1)),
    .emit .there 2 (byteFrame (.multiStatic 2 2 3 1 [9] 0) (Nat.le_refl 1)),
    .emit .there 2 (byteFrame (.multiFinish 2 0) trivial),
    .sent 1, .sent 2, .thread (.append 2), .thread (.append 1),
    .arrive .there, .arrive .there, .arrive .there, .arrive .there,
    .thread (.wait 1), .thread (.wait 2),
    .answer 2 [], .answer 1 [4],
    .emit .back 2 (byteFrame (.multiStatic 1 2 2 0 [4] 0) (Nat.le_refl 1)),
    .emit .back 1 (byteFrame (.singleBlock 1 2 []) (Nat.zero_le 1)),
    .thread .makeTimerStep,
    .emit .back 2 (byteFrame (.multiFinish 2 1) trivial),
    .arrive .back, .arrive .back, .arrive .back,
    .thread (.remove 1), .thread (.remove 2)]

theorem requests_paired_twoRequests :
    ∃ st, (pairing byteConfig).exec readyPairing twoRequests = some st ∧
      (st.requests.request 1).stage = .returned (some [4]) ∧
      (st.requests.request 2).stage = .returned (some []) ∧
      st.ExactlyPaired := by
  have hallowed : (pairing byteConfig).execAllowed (fun st a => a.Assumed st ∧ a.Punctual st)
      readyPairing twoRequests := by
    decide +kernel
  have hresults : ((pairing byteConfig).exec readyPairing twoRequests).map
      (fun st => ((st.requests.request 1).stage, (st.requests.request 2).stage)) =
      some (.returned (some [4]), .returned (some [])) := by
    decide +kernel
  obtain ⟨st, hexec, hstages⟩ := Option.map_eq_some_iff.mp hresults
  obtain ⟨hfirst, hsecond⟩ := Prod.mk.inj hstages
  exact ⟨st, hexec, hfirst, hsecond,
    requests_paired ((TransitionSystem.Reaches.init readyPairing_init).of_exec hallowed hexec)⟩

/-- A request is answered at the last step of its timer, and the timer steps before the
thread that was woken goes on. -/
def answeredLast : List (PairingStep byteConfig) :=
  [.ask 0 [7] 2,
    .emit .there 1 (byteFrame (.singleBlock 1 0 [7]) (Nat.le_refl 1)),
    .sent 1, .thread (.append 1), .thread (.wait 1),
    .arrive .there, .answer 1 [4],
    .emit .back 1 (byteFrame (.multiStatic 1 1 2 0 [4] 0) (Nat.le_refl 1)),
    .emit .back 1 (byteFrame (.multiFinish 1 1) trivial),
    .thread .makeTimerStep, .arrive .back, .arrive .back, .thread .makeTimerStep,
    .thread (.remove 1)]

/-- A response that was processed in time is not what the request returns. -/
theorem not_requests_paired :
    ¬ ∀ (cfg : Config) (st : Pairing cfg),
      (pairing cfg).Reaches (fun st a => a.Assumed st) st → st.ExactlyPaired := by
  intro h
  have hallowed : (pairing byteConfig).execAllowed (fun st a => a.Assumed st) readyPairing
      answeredLast := by
    decide +kernel
  have hresult : ((pairing byteConfig).exec readyPairing answeredLast).map
      (fun st => (st.requests.request 1).stage) = some (.returned none) := by
    decide +kernel
  obtain ⟨st, hexec, hstage⟩ := Option.map_eq_some_iff.mp hresult
  have hreached := (TransitionSystem.Reaches.init readyPairing_init).of_exec hallowed hexec
  obtain ⟨data, _, hnone⟩ := (h byteConfig st hreached).returned 1 none hstage
  cases hnone

end SakuraNetwork

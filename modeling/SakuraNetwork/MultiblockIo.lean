import SakuraNetwork.MessagesProcessing.Sending

/-!
# `MultiblockIO`: messages in several blocks

A message that is too big for one block is sent as a list of part frames and a
finish frame.  The receiver keeps an append buffer for every multiblock id.

* `outgoingParts`: the part frames, as the sending loop computes them.
* `sendOutgoingData_cases`: a message whose id is returned was sent as these
  frames and the finish frame, in this order; of any other a frame is missing.
* `sendOutgoingData_of_sends`: over a working socket every message is sent.
-/

namespace SakuraNetwork

open Lib

namespace MultiblockIo

/-! ## Outgoing messages -/

/-- The offset `MAX_SINGLE_MESSAGE_SIZE * partCounter`, a product of 32-bit
values. -/
def partOffset (cfg : Config) (partCounter : UInt32) : Nat :=
  (UInt32.ofNat cfg.maxSingleMessageSize * partCounter).toNat

/-- The size of the next part when `totalSize` bytes are left. -/
def currentMessageSize (cfg : Config) (totalSize : Nat) : Nat :=
  if totalSize ≤ cfg.maxSingleMessageSize then totalSize else cfg.maxSingleMessageSize

theorem currentMessageSize_pos
    (cfg : Config)
    {totalSize : Nat}
    (h : totalSize ≠ 0) :
    0 < currentMessageSize cfg totalSize := by
  have hpos := cfg.positive
  unfold currentMessageSize
  split <;> omega

/-- The loop of `sendOutgoingData`; `none` for the early return after a failed
send. -/
def sendParts
    (cfg : Config)
    (s : SessionRef)
    (multiblockId : UInt64)
    (data : Bytes)
    (totalSize : Nat)
    (partCounter : UInt32) : Act Bool :=
  if h : totalSize = 0 then pure true
  else do
    let x ← getSession s
    if x.abort then pure true
    else do
      let ok ← sendDataMultiStatic s
        (UInt64.ofNat data.length)
        multiblockId
        (UInt32.ofNat (data.length / cfg.maxSingleMessageSize) + 1)
        partCounter
        ((data.drop (partOffset cfg partCounter)).take (currentMessageSize cfg totalSize))
      if ok then
        sendParts cfg s multiblockId data (totalSize - currentMessageSize cfg totalSize)
          (partCounter + 1)
      else pure false
termination_by totalSize
decreasing_by
  have := currentMessageSize_pos cfg h
  omega

/-- `MultiblockIO::sendOutgoingData`. -/
def sendOutgoingData
    (cfg : Config)
    (s : SessionRef)
    (data : Bytes)
    (blockerId : UInt64 := 0) : Act UInt64 := do
  let newMultiblockId ← getRandId
  let ok ← sendParts cfg s newMultiblockId data data.length 0
  if ok then
    let x ← getSession s
    if x.abort then pure 0
    else do
      let ok ← sendDataMultiFinish s newMultiblockId blockerId
      if ok then pure newMultiblockId else pure 0
  else pure 0

/-- The part frames the loop sends when `totalSize` bytes are left. -/
def outgoingParts
    (cfg : Config)
    (multiblockId : UInt64)
    (data : Bytes)
    (totalSize : Nat)
    (partCounter : UInt32) : List Body :=
  if h : totalSize = 0 then []
  else
    .multiStatic
      (UInt64.ofNat data.length)
      multiblockId
      (UInt32.ofNat (data.length / cfg.maxSingleMessageSize) + 1)
      partCounter
      ((data.drop (partOffset cfg partCounter)).take (currentMessageSize cfg totalSize))
      0 ::
    outgoingParts cfg multiblockId data (totalSize - currentMessageSize cfg totalSize)
      (partCounter + 1)
termination_by totalSize
decreasing_by
  have := currentMessageSize_pos cfg h
  omega

/-- All frames of a multi-block message. -/
def outgoingFrames
    (cfg : Config)
    (multiblockId : UInt64)
    (data : Bytes)
    (blockerId : UInt64) : List Body :=
  outgoingParts cfg multiblockId data data.length 0 ++ [.multiFinish multiblockId blockerId]

/-- Every part has at most the maximum size. -/
theorem onlySends_sendParts
    {P : Body → Prop}
    {s : SessionRef}
    {multiblockId : UInt64}
    {data : Bytes}
    (cfg : Config)
    (hP : ∀ partId part, part.length ≤ cfg.maxSingleMessageSize →
      P (.multiStatic (UInt64.ofNat data.length) multiblockId
        (UInt32.ofNat (data.length / cfg.maxSingleMessageSize) + 1) partId part 0))
    (totalSize : Nat)
    (partCounter : UInt32) :
    OnlySends s P (sendParts cfg s multiblockId data totalSize partCounter) := by
  induction totalSize using Nat.strong_induction_on generalizing partCounter with
  | _ totalSize ih =>
      rw [sendParts]
      split
      · exact OnlySends.pure true
      · rename_i hzero
        have hpos := currentMessageSize_pos cfg hzero
        refine (OnlySends.getSession s).bind fun x => OnlySends.ite (fun _ => OnlySends.pure true)
          fun _ => (OnlySends.sendNew (hP _ _ ?_)).bind fun ok =>
            OnlySends.ite (fun _ => ih _ (by omega) _) fun _ => OnlySends.pure false
        rw [List.length_take]
        unfold currentMessageSize
        split <;> omega

theorem onlySends_sendOutgoingData
    {P : Body → Prop}
    {s : SessionRef}
    {data : Bytes}
    {blockerId : UInt64}
    (cfg : Config)
    (hpart : ∀ multiblockId partId part, part.length ≤ cfg.maxSingleMessageSize →
      P (.multiStatic (UInt64.ofNat data.length) multiblockId
        (UInt32.ofNat (data.length / cfg.maxSingleMessageSize) + 1) partId part 0))
    (hfinish : ∀ multiblockId, P (.multiFinish multiblockId blockerId)) :
    OnlySends s P (sendOutgoingData cfg s data blockerId) :=
  OnlySends.getRandId.bind fun id =>
    (onlySends_sendParts cfg (hpart id) _ _).bind fun _ =>
      OnlySends.ite
        (fun _ => (OnlySends.getSession s).bind fun _ =>
          OnlySends.ite (fun _ => OnlySends.pure 0) fun _ =>
            (OnlySends.sendNew (hfinish id)).bind fun _ =>
              OnlySends.ite (fun _ => OnlySends.pure id) fun _ => OnlySends.pure 0)
        fun _ => OnlySends.pure 0

/-- Sends do not abort the sending loop. -/
theorem abort_of_frame
    {s : SessionRef}
    {p p' : Process}
    (h : SendFrame s p p') :
    (p'.session s).abort = (p.session s).abort := by
  obtain ⟨k, c, hself⟩ := h.self
  rw [hself]

/-- A loop that ends without a failed send has sent the part frames; a loop that stops
has sent the first of them, and not all. -/
theorem sendParts_cases
    (cfg : Config)
    (s : SessionRef)
    (multiblockId : UInt64)
    (data : Bytes)
    (totalSize : Nat)
    (partCounter : UInt32)
    (p : Process)
    (habort : (p.session s).abort = false) :
    let o := (sendParts cfg s multiblockId data totalSize partCounter).run p
    let parts := outgoingParts cfg multiblockId data totalSize partCounter
    (o.value = true ∧ ∃ messages : List Message,
        o.outputs = messages.map (Output.sent s) ∧ messages.map Message.body = parts) ∨
      o.value = false ∧ ∃ messages : List Message,
        o.outputs = messages.map (Output.sent s) ∧ messages.map Message.body <+: parts ∧
          messages.length < parts.length := by
  induction totalSize using Nat.strong_induction_on generalizing partCounter p with
  | _ totalSize ih =>
      rw [sendParts, outgoingParts]
      by_cases hzero : totalSize = 0
      · simp only [dif_pos hzero]
        exact Or.inl ⟨rfl, [], rfl, rfl⟩
      · have hpos := currentMessageSize_pos cfg hzero
        simp only [dif_neg hzero, run_getSession_bind, habort, Bool.false_eq_true, if_false]
        generalize (data.drop (partOffset cfg partCounter)).take
          (currentMessageSize cfg totalSize) = part
        have hstatic : sendDataMultiStatic s (UInt64.ofNat data.length) multiblockId
            (UInt32.ofNat (data.length / cfg.maxSingleMessageSize) + 1) partCounter part =
              sendNew s (.multiStatic (UInt64.ofNat data.length) multiblockId
                (UInt32.ofNat (data.length / cfg.maxSingleMessageSize) + 1) partCounter part 0) :=
          rfl
        rw [hstatic]
        generalize Body.multiStatic (UInt64.ofNat data.length) multiblockId
          (UInt32.ofNat (data.length / cfg.maxSingleMessageSize) + 1) partCounter part 0 = body
        have honly : OnlySends s (fun _ => True) (sendNew s body) := OnlySends.sendNew trivial
        have hframe := honly.frame p
        rw [Act.run_bind]
        simp only [sendNew_outputs s body p]
        cases ((sendNew s body).run p).value with
        | false =>
            exact Or.inr ⟨rfl, [], rfl, List.nil_prefix, Nat.succ_pos _⟩
        | true =>
            simp only [if_true]
            have hshorter : totalSize - currentMessageSize cfg totalSize < totalSize := by
              omega
            rcases ih _ hshorter (partCounter + 1) _ ((abort_of_frame hframe).trans habort) with
              ⟨hvalue, messages, houtputs, hbodies⟩ |
              ⟨hvalue, messages, houtputs, hprefix, hless⟩
            · refine Or.inl ⟨hvalue, p.nextMessage s body :: messages, ?_, ?_⟩
              · rw [houtputs]
                rfl
              · rw [List.map_cons, hbodies]
                rfl
            · refine Or.inr ⟨hvalue, p.nextMessage s body :: messages, ?_, ?_, ?_⟩
              · rw [houtputs]
                rfl
              · exact List.cons_prefix_cons.mpr ⟨rfl, hprefix⟩
              · exact Nat.succ_lt_succ hless

/-- A message whose id is returned was sent: its parts, and the finish frame.  Of any
other the first frames were sent, and not all. -/
theorem sendOutgoingData_cases
    (cfg : Config)
    (s : SessionRef)
    (data : Bytes)
    (blockerId : UInt64)
    (p : Process) :
    let o := (sendOutgoingData cfg s data blockerId).run p
    let frames := outgoingFrames cfg (p.randIds p.randCount) data blockerId
    (o.value = p.randIds p.randCount ∧ ∃ messages : List Message,
        o.outputs = messages.map (Output.sent s) ∧ messages.map Message.body = frames) ∨
      o.value = 0 ∧ ∃ messages : List Message,
        o.outputs = messages.map (Output.sent s) ∧ messages.map Message.body <+: frames ∧
          messages.length < frames.length := by
  rw [sendOutgoingData, run_getRandId_bind, outgoingFrames]
  generalize (p.randIds p.randCount).val = newId
  generalize hq : ({ p with randCount := p.randCount + 1 } : Process) = q
  simp only [List.length_append, List.length_cons, List.length_nil]
  cases habort : (q.session s).abort with
  | true =>
      -- the loop sends nothing, and the check behind it fails
      have hparts : (sendParts cfg s newId data data.length 0).run q =
          { value := true, process := q } := by
        rw [sendParts]
        split
        · rfl
        · simp only [run_getSession_bind, habort, if_true]
          rfl
      rw [Act.run_bind, hparts]
      simp only [if_true, run_getSession_bind, habort, Act.run_pure, List.append_nil]
      exact Or.inr ⟨trivial, [], rfl, List.nil_prefix, Nat.succ_pos _⟩
  | false =>
      have honly : OnlySends s (fun _ => True) (sendParts cfg s newId data data.length 0) :=
        onlySends_sendParts cfg (fun _ _ _ => trivial) _ _
      have hstill := (abort_of_frame (honly.frame q)).trans habort
      rw [Act.run_bind]
      simp only
      rcases sendParts_cases cfg s newId data data.length 0 q habort with
        ⟨hvalue, messages, houtputs, hbodies⟩ | ⟨hvalue, messages, houtputs, hprefix, hless⟩
      · simp only [hvalue, if_true, run_getSession_bind, hstill, Bool.false_eq_true, if_false]
        generalize ((sendParts cfg s newId data data.length 0).run q).process = r
        have hout := sendNew_outputs s (.multiFinish newId blockerId) r
        rw [show sendNew s _ = sendDataMultiFinish s newId blockerId from rfl] at hout
        rw [Act.run_bind]
        simp only [hout, houtputs]
        cases ((sendDataMultiFinish s newId blockerId).run r).value with
        | true =>
            refine Or.inl ⟨rfl, messages ++ [r.nextMessage s (.multiFinish newId blockerId)],
              ?_, ?_⟩
            · rw [List.map_append]
              rfl
            · rw [List.map_append, hbodies]
              rfl
        | false =>
            refine Or.inr ⟨rfl, messages, ?_, ?_, ?_⟩
            · exact List.append_nil _
            · rw [hbodies]
              exact List.prefix_append _ _
            · rw [← hbodies, List.length_map]
              exact Nat.lt_succ_self _
      · simp only [hvalue, Bool.false_eq_true, if_false, Act.run_pure, List.append_nil]
        refine Or.inr ⟨trivial, messages, houtputs, ?_, ?_⟩
        · exact hprefix.trans (List.prefix_append _ _)
        · exact Nat.lt_succ_of_lt hless

/-- A message whose id is returned was sent as its frames. -/
theorem sendOutgoingData_outputs
    {cfg : Config}
    {s : SessionRef}
    {data : Bytes}
    {blockerId : UInt64}
    {p : Process}
    (h : ((sendOutgoingData cfg s data blockerId).run p).value ≠ 0) :
    ∃ messages : List Message,
      ((sendOutgoingData cfg s data blockerId).run p).outputs = messages.map (Output.sent s) ∧
        messages.map Message.body =
          outgoingFrames cfg ((sendOutgoingData cfg s data blockerId).run p).value data
            blockerId := by
  rcases sendOutgoingData_cases cfg s data blockerId p with ⟨hvalue, hsent⟩ | ⟨hvalue, _⟩
  · rw [hvalue]
    exact hsent
  · exact absurd hvalue h

/-- Over a working socket the loop does not stop early. -/
theorem sendParts_of_sends
    (cfg : Config)
    {s : SessionRef}
    (multiblockId : UInt64)
    (data : Bytes)
    (totalSize : Nat)
    (partCounter : UInt32)
    {p : Process}
    (hsends : (p.session s).Sends) :
    ((sendParts cfg s multiblockId data totalSize partCounter).run p).value = true ∧
      (((sendParts cfg s multiblockId data totalSize partCounter).run p).process.session
        s).Sends := by
  induction totalSize using Nat.strong_induction_on generalizing partCounter p with
  | _ totalSize ih =>
      rw [sendParts]
      by_cases hzero : totalSize = 0
      · simpa [hzero] using hsends
      · have hpos := currentMessageSize_pos cfg hzero
        simp only [dif_neg hzero, run_getSession_bind]
        by_cases habort : (p.session s).abort = true
        · simpa [habort] using hsends
        · rw [if_neg habort, Act.run_bind]
          generalize (data.drop (partOffset cfg partCounter)).take
            (currentMessageSize cfg totalSize) = part
          obtain ⟨hvalue, _, hnext⟩ := sendNew_of_sends hsends
            (.multiStatic (UInt64.ofNat data.length) multiblockId
              (UInt32.ofNat (data.length / cfg.maxSingleMessageSize) + 1) partCounter part 0)
          have hstatic : sendDataMultiStatic s (UInt64.ofNat data.length) multiblockId
              (UInt32.ofNat (data.length / cfg.maxSingleMessageSize) + 1) partCounter part =
                sendNew s (.multiStatic (UInt64.ofNat data.length) multiblockId
                  (UInt32.ofNat (data.length / cfg.maxSingleMessageSize) + 1) partCounter part 0) :=
            rfl
          rw [hstatic, hvalue]
          simp only [if_true]
          exact ih _ (by omega) _ hnext

/-- Over a working socket every message is sent. -/
theorem sendOutgoingData_of_sends
    (cfg : Config)
    {s : SessionRef}
    (data : Bytes)
    (blockerId : UInt64)
    {p : Process}
    (hsends : (p.session s).Sends)
    (habort : (p.session s).abort = false) :
    ((sendOutgoingData cfg s data blockerId).run p).value = p.randIds p.randCount := by
  rw [sendOutgoingData, run_getRandId_bind]
  generalize (p.randIds p.randCount).val = newId
  obtain ⟨hparts, hnext⟩ := sendParts_of_sends cfg newId data data.length 0
    (p := { p with randCount := p.randCount + 1 }) hsends
  have honly : OnlySends s (fun _ => True) (sendParts cfg s newId data data.length 0) :=
    onlySends_sendParts cfg (fun _ _ _ => trivial) _ _
  have hframe := honly.frame { p with randCount := p.randCount + 1 }
  have hstill := (abort_of_frame hframe).trans habort
  obtain ⟨hfinish, _, _⟩ := sendNew_of_sends hnext (.multiFinish newId blockerId)
  rw [Act.run_bind]
  simp only [hparts, if_true, run_getSession_bind, hstill, Bool.false_eq_true, if_false]
  rw [Act.run_bind]
  have hsend : sendDataMultiFinish s newId blockerId = sendNew s (.multiFinish newId blockerId) :=
    rfl
  rw [hsend]
  simp only [hfinish, if_true, Act.run_pure]

/-! ## Incoming messages -/

/-- `MultiblockIO::createIncomingBuffer`. -/
def createIncomingBuffer (s : SessionRef) (multiblockId size : UInt64) : Act Bool := do
  let p ← Act.get
  if p.allocation size then
    let newMultiblockMessage : MultiblockBuffer :=
      { multiblockId := multiblockId, messageSize := size, incomingData := some [] }
    modifySession s (fun x =>
      { x with incomingBuffer := x.incomingBuffer.emplace multiblockId newMultiblockMessage })
    pure true
  else pure false

/-- `MultiblockIO::getIncomingBuffer`. -/
def getIncomingBuffer (s : SessionRef) (multiblockId : UInt64) : Act MultiblockBuffer := do
  let x ← getSession s
  match x.incomingBuffer.find multiblockId with
  | some buffer => pure buffer
  | none => pure {}

/-- The buffer after `addData_DataBuffer`. -/
def addData (data : Bytes) (b : MultiblockBuffer) : MultiblockBuffer :=
  { b with incomingData := b.incomingData.map (fun d => d ++ data) }

/-- `MultiblockIO::writeIntoIncomingBuffer`; the data are read only when the
buffer exists. -/
def writeIntoIncomingBuffer
    (s : SessionRef)
    (multiblockId : UInt64)
    (readData : Act Bytes) : Act Bool := do
  let x ← getSession s
  match x.incomingBuffer.find multiblockId with
  | none => pure false
  | some _ => do
      let data ← readData
      modifySession s (fun x =>
        { x with incomingBuffer := x.incomingBuffer.modify multiblockId (addData data) })
      pure true

/-- `MultiblockIO::removeMultiblockBuffer`. -/
def removeMultiblockBuffer (s : SessionRef) (multiblockId : UInt64) : Act Bool := do
  let x ← getSession s
  modifySession s (fun x => { x with incomingBuffer := x.incomingBuffer.remove multiblockId })
  pure (x.incomingBuffer.find multiblockId).isSome

@[simp] theorem run_removeMultiblockBuffer
    (s : SessionRef)
    (multiblockId : UInt64)
    (p : Process) :
    (removeMultiblockBuffer s multiblockId).run p =
      { value := ((p.session s).incomingBuffer.find multiblockId).isSome
        process := p.modifySession s
          (fun x => { x with incomingBuffer := x.incomingBuffer.remove multiblockId }) } := by
  simp [removeMultiblockBuffer]

@[simp] theorem run_getIncomingBuffer
    (s : SessionRef)
    (multiblockId : UInt64)
    (p : Process) :
    (getIncomingBuffer s multiblockId).run p =
      { value := ((p.session s).incomingBuffer.find multiblockId).getD {}
        process := p } := by
  rw [getIncomingBuffer, run_getSession_bind]
  cases (p.session s).incomingBuffer.find multiblockId with
  | none =>
      rfl
  | some buffer =>
      rfl

@[simp] theorem createIncomingBuffer_process
    (s : SessionRef)
    (multiblockId size : UInt64)
    (p : Process) :
    ((createIncomingBuffer s multiblockId size).run p).process =
      if p.allocation size = true then
        p.modifySession s (fun x => { x with
          incomingBuffer := x.incomingBuffer.emplace multiblockId
            { multiblockId := multiblockId, messageSize := size, incomingData := some [] } })
      else p := by
  rw [createIncomingBuffer, Act.run_get_bind]
  by_cases hallocation : p.allocation size = true
  · simp [hallocation]
  · simp [hallocation]

@[simp] theorem createIncomingBuffer_outputs
    (s : SessionRef)
    (multiblockId size : UInt64)
    (p : Process) :
    ((createIncomingBuffer s multiblockId size).run p).outputs = [] := by
  rw [createIncomingBuffer, Act.run_get_bind, Act.run_ite]
  split <;> rfl

/-- The data that are read are appended to the buffer, if there is one. -/
theorem writeIntoIncomingBuffer_process
    {readData : Act Bytes}
    {data : Bytes}
    (hread : ∀ p, (readData.run p).value = data ∧ (readData.run p).process = p)
    (s : SessionRef)
    (multiblockId : UInt64)
    (p : Process) :
    ((writeIntoIncomingBuffer s multiblockId readData).run p).process =
      p.modifySession s (fun x => { x with
        incomingBuffer := x.incomingBuffer.modify multiblockId (addData data) }) := by
  obtain ⟨hvalue, hprocess⟩ := hread p
  rw [writeIntoIncomingBuffer, run_getSession_bind]
  cases hfind : (p.session s).incomingBuffer.find multiblockId with
  | none =>
      symm
      refine Process.modifySession_eq_self ?_
      simp [OrderedMap.modify, hfind]
  | some buffer =>
      simp [Act.run_bind, hvalue, hprocess]

theorem writeIntoIncomingBuffer_outputs
    {readData : Act Bytes}
    (hread : ∀ p, (readData.run p).outputs = [])
    (s : SessionRef)
    (multiblockId : UInt64)
    (p : Process) :
    ((writeIntoIncomingBuffer s multiblockId readData).run p).outputs = [] := by
  rw [writeIntoIncomingBuffer, run_getSession_bind]
  cases (p.session s).incomingBuffer.find multiblockId with
  | none =>
      rfl
  | some buffer =>
      simp [Act.run_bind, hread]

@[simp] theorem writeIntoIncomingBuffer_pure_process
    (s : SessionRef)
    (multiblockId : UInt64)
    (data : Bytes)
    (p : Process) :
    ((writeIntoIncomingBuffer s multiblockId (pure data)).run p).process =
      p.modifySession s (fun x => { x with
        incomingBuffer := x.incomingBuffer.modify multiblockId (addData data) }) :=
  writeIntoIncomingBuffer_process (fun _ => ⟨rfl, rfl⟩) s multiblockId p

@[simp] theorem writeIntoIncomingBuffer_pure_outputs
    (s : SessionRef)
    (multiblockId : UInt64)
    (data : Bytes)
    (p : Process) :
    ((writeIntoIncomingBuffer s multiblockId (pure data)).run p).outputs = [] :=
  writeIntoIncomingBuffer_outputs (fun _ => rfl) s multiblockId p

end MultiblockIo

end SakuraNetwork

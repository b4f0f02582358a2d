import SakuraNetwork.CompleteTransfers
import SakuraNetwork.Lib.Custody

/-!
# The owners of received buffers

A received message is put into a `DataBuffer`, and a pointer to it moves from the map of
its session to a blocked request or to the application.  This model keeps the pointers
apart from the contents: it numbers the buffers as they are allocated, and says who
holds each of them, and which were deleted.

* `BufferMemory.operate`: the operations of the process on the pointers.
* `loses_operate`: the buffers that become unreachable in an operation.
* `one_owner`: without them, each buffer has one owner or was deleted.
-/

namespace SakuraNetwork

open Lib

/-- A pointer to a `DataBuffer`. -/
abbrev BufferRef := Nat

/-- An element of `m_incomingBuffer` of a session. -/
structure IncomingBuffer where
  session : SessionRef
  multiblockId : UInt64
  messageSize : UInt64
  incomingData : BufferRef
deriving DecidableEq

/-- `MessageBlockerHandler::MessageBlocker`, with the pointer to its response. -/
structure BlockedRequest where
  session : SessionRef
  blockerId : UInt64
  timer : UInt64
  responseData : Option BufferRef := none
deriving DecidableEq

/-! ## Blocked requests -/

namespace BlockedRequest

/-- The list after the first entry of the id got the pointer. -/
def storeResponse (blockerId : UInt64) (data : Option BufferRef) :
    List BlockedRequest → List BlockedRequest
  | [] => []
  | b :: bs =>
      if b.blockerId == blockerId then { b with responseData := data } :: bs
      else b :: storeResponse blockerId data bs

/-- The list after `removeMessageFromList`. -/
def withoutBlocker (blockerId : UInt64) (l : List BlockedRequest) : List BlockedRequest :=
  withoutFirst (fun b => b.blockerId == blockerId) l

/-- `temp->timer -= 1`. -/
def down (b : BlockedRequest) : BlockedRequest :=
  { b with timer := b.timer - 1 }

/-- The timer step for one entry. -/
def expire (b : BlockedRequest) (l : List BlockedRequest) : List BlockedRequest :=
  if b.timer - 1 = 0 then storeResponse b.blockerId none (withoutBlocker b.blockerId l)
  else l

/-- The loop of `makeTimerStep` from index `i` on. -/
def timerStepFrom : Nat → Nat → List BlockedRequest → List BlockedRequest
  | 0, _, l => l
  | fuel + 1, i, l =>
      match l[i]? with
      | none => l
      | some b => timerStepFrom fuel (i + 1) (expire b (l.set i b.down))

/-- The first entry of an id. -/
def find (blockerId : UInt64) (l : List BlockedRequest) : Option BlockedRequest :=
  l.find? (fun b => b.blockerId == blockerId)

/-- The pointers in the entries. -/
def held (l : List BlockedRequest) : List BufferRef :=
  l.filterMap responseData

/-- The pointer in the first entry of an id. -/
def responseOf (blockerId : UInt64) (l : List BlockedRequest) : List BufferRef :=
  ((find blockerId l).bind responseData).toList

theorem held_cons (b : BlockedRequest) (l : List BlockedRequest) :
    held (b :: l) = b.responseData.toList ++ held l := by
  unfold held
  cases h : b.responseData with
  | none => rw [List.filterMap_cons_none h, Option.toList_none, List.nil_append]
  | some r => rw [List.filterMap_cons_some h, Option.toList_some, List.singleton_append]

theorem held_set
    {l : List BlockedRequest}
    {i : Nat}
    {b : BlockedRequest}
    (h : l[i]? = some b) :
    held (l.set i b.down) = held l := by
  induction l generalizing i with
  | nil => rfl
  | cons e l ih =>
      cases i with
      | zero =>
          obtain rfl : e = b := by simpa using h
          rw [List.set_cons_zero, held_cons, held_cons]
          rfl
      | succ i => rw [List.set_cons_succ, held_cons, held_cons, ih (by simpa using h)]

/-- The first entry of the id gives its pointer for the new one. -/
theorem held_storeResponse
    {blockerId : UInt64}
    {l : List BlockedRequest}
    {b : BlockedRequest}
    (h : find blockerId l = some b)
    (data : Option BufferRef) :
    (held (storeResponse blockerId data l) ++ b.responseData.toList).Perm
      (held l ++ data.toList) := by
  unfold find at h
  induction l with
  | nil => cases h
  | cons e l ih =>
      by_cases he : e.blockerId = blockerId
      · rw [List.find?_cons_of_pos (by simpa using he)] at h
        cases h
        rw [storeResponse, if_pos (by simpa using he), held_cons, held_cons]
        refine List.perm_iff_count.mpr fun r => ?_
        simp only [List.count_append]
        omega
      · rw [List.find?_cons_of_neg (by simpa using he)] at h
        rw [storeResponse, if_neg (by simpa using he), held_cons, held_cons, List.append_assoc,
          List.append_assoc]
        exact (ih h).append_left _

theorem storeResponse_of_find
    {blockerId : UInt64}
    {l : List BlockedRequest}
    (h : find blockerId l = none)
    (data : Option BufferRef) :
    storeResponse blockerId data l = l := by
  unfold find at h
  induction l with
  | nil => rfl
  | cons e l ih =>
      by_cases he : e.blockerId = blockerId
      · rw [List.find?_cons_of_pos (by simpa using he)] at h
        cases h
      · rw [List.find?_cons_of_neg (by simpa using he)] at h
        rw [storeResponse, if_neg (by simpa using he), ih h]

/-- A null pointer takes the place of what was stored. -/
theorem held_storeResponse_none (blockerId : UInt64) (l : List BlockedRequest) :
    (held (storeResponse blockerId none l) ++ responseOf blockerId l).Perm (held l) := by
  unfold responseOf
  cases h : find blockerId l with
  | none =>
      rw [storeResponse_of_find h, Option.bind_none, Option.toList_none, List.append_nil]
  | some b =>
      have hperm := held_storeResponse h none
      rw [Option.toList_none, List.append_nil] at hperm
      exact hperm

theorem held_withoutBlocker (blockerId : UInt64) (l : List BlockedRequest) :
    (held (withoutBlocker blockerId l) ++ responseOf blockerId l).Perm (held l) := by
  unfold responseOf find withoutBlocker withoutFirst
  cases h : takeFirst (fun b => b.blockerId == blockerId) l with
  | none =>
      have hnone : l.find? (fun b => b.blockerId == blockerId) = none := by
        rw [List.find?_eq_none]
        intro b hb
        simp [(takeFirst_eq_none_iff _ _).mp h b hb]
      rw [hnone, Option.bind_none, Option.toList_none, List.append_nil]
  | some found =>
      obtain ⟨b, rest⟩ := found
      rw [find_of_takeFirst h, Option.bind_some]
      have hperm := (takeFirst_perm h).filterMap responseData
      refine List.Perm.trans List.perm_append_comm (List.Perm.trans ?_ hperm.symm)
      rw [← held_cons]
      exact List.Perm.refl _

/-- The first entry of the id holds no response yet; a null pointer may also find no
entry. -/
def Takes (blockerId : UInt64) (data : Option BufferRef) (l : List BlockedRequest) : Prop :=
  match find blockerId l with
  | none => data = none
  | some b => b.responseData = none

theorem toList_eq_nil_iff (data : Option BufferRef) : data.toList = [] ↔ data = none := by
  cases data with
  | none => simp
  | some r => simp

/-- A pointer that nobody takes is lost, or the one it takes the place of. -/
theorem count_storeResponse
    (blockerId : UInt64)
    (data : Option BufferRef)
    (l : List BlockedRequest) :
    ∃ lost, (∀ r, (held (storeResponse blockerId data l)).count r + lost.count r =
      (held l).count r + data.toList.count r) ∧ (lost = [] ↔ Takes blockerId data l) := by
  unfold Takes
  cases h : find blockerId l with
  | none =>
      refine ⟨data.toList, fun r => ?_, toList_eq_nil_iff data⟩
      rw [storeResponse_of_find h]
  | some b =>
      refine ⟨b.responseData.toList, fun r => ?_, toList_eq_nil_iff b.responseData⟩
      have hcount := (held_storeResponse h data).count_eq r
      rw [List.count_append, List.count_append] at hcount
      exact hcount

/-- No entry from index `i` on is at the last step of its timer while an entry of its id
holds a response. -/
def Quiet (i : Nat) (l : List BlockedRequest) : Prop :=
  ∀ b ∈ l.drop i, b.timer = 1 → ∀ e ∈ l, e.blockerId = b.blockerId → e.responseData = none

theorem responseOf_eq_nil
    {blockerId : UInt64}
    {l : List BlockedRequest}
    (h : ∀ e ∈ l, e.blockerId = blockerId → e.responseData = none) :
    responseOf blockerId l = [] := by
  unfold responseOf
  cases hfind : find blockerId l with
  | none => rfl
  | some b =>
      have hid : b.blockerId = blockerId := by simpa using List.find?_some hfind
      rw [Option.bind_some, h b (List.mem_of_find?_eq_some hfind) hid]
      rfl

/-- An entry behind a stored null pointer has an id and a timer from before. -/
theorem of_mem_drop_storeResponse_none
    {blockerId : UInt64}
    {l : List BlockedRequest}
    {n : Nat}
    {b : BlockedRequest}
    (hb : b ∈ (storeResponse blockerId none l).drop n) :
    ∃ e ∈ l.drop n, e.blockerId = b.blockerId ∧ e.timer = b.timer ∧
      (e.responseData = none → b.responseData = none) := by
  induction l generalizing n with
  | nil => simp [storeResponse] at hb
  | cons e l ih =>
      by_cases he : e.blockerId = blockerId
      · rw [storeResponse, if_pos (by simpa using he)] at hb
        cases n with
        | zero =>
            rcases List.mem_cons.mp hb with rfl | hb
            · exact ⟨e, List.mem_cons_self, rfl, rfl, fun _ => rfl⟩
            · exact ⟨b, List.mem_cons_of_mem _ hb, rfl, rfl, id⟩
        | succ n => exact ⟨b, hb, rfl, rfl, id⟩
      · rw [storeResponse, if_neg (by simpa using he)] at hb
        cases n with
        | zero =>
            rcases List.mem_cons.mp hb with rfl | hb
            · exact ⟨b, List.mem_cons_self, rfl, rfl, id⟩
            · obtain ⟨e', he', hcases⟩ := ih (n := 0) hb
              exact ⟨e', List.mem_cons_of_mem _ he', hcases⟩
        | succ n => exact ih (n := n) hb

/-- A round of the loop leaves the entries behind it, and stores only null pointers. -/
theorem Quiet.expire
    {i : Nat}
    {l : List BlockedRequest}
    {b : BlockedRequest}
    (h : Quiet i l)
    (hi : l[i]? = some b) :
    Quiet (i + 1) (expire b (l.set i b.down)) := by
  obtain ⟨hlt, hb⟩ := List.getElem?_eq_some_iff.mp hi
  have hafter : (l.set i b.down).drop (i + 1) = l.drop (i + 1) :=
    List.drop_set_of_lt (Nat.lt_succ_self i)
  have hset : Quiet (i + 1) (l.set i b.down) := by
    intro k hk hone e he hid
    rw [hafter] at hk
    have hbehind : k ∈ l.drop i := by
      rw [List.drop_eq_getElem_cons hlt]
      exact List.mem_cons_of_mem _ hk
    rcases List.mem_or_eq_of_mem_set he with he | rfl
    · exact h k hbehind hone e he hid
    · exact h k hbehind hone b (hb ▸ List.getElem_mem hlt) hid
  unfold BlockedRequest.expire
  by_cases hexpires : b.timer - 1 = 0
  · rw [if_pos hexpires]
    have hbehind : ∀ k ∈ (withoutBlocker b.blockerId (l.set i b.down)).drop (i + 1),
        k ∈ (l.set i b.down).drop (i + 1) := by
      intro k hk
      unfold withoutBlocker withoutFirst at hk
      cases htake : takeFirst (fun e => e.blockerId == b.blockerId) (l.set i b.down) with
      | none =>
          rw [htake] at hk
          exact hk
      | some found =>
          rw [htake] at hk
          exact mem_drop_of_takeFirst htake (by simpa using hlt) (by simp [down]) hk
    intro k hk hone e he hid
    obtain ⟨k', hk', hkid, hktimer, _⟩ := of_mem_drop_storeResponse_none hk
    obtain ⟨e', he', heid, _, hnone⟩ := of_mem_drop_storeResponse_none (n := 0) he
    refine hnone (hset k' (hbehind k' hk') (hktimer.trans hone) e' ?_ ?_)
    · exact mem_of_mem_withoutFirst he'
    · exact heid.trans (hid.trans hkid.symm)
  · rw [if_neg hexpires]
    exact hset

theorem timerStepFrom_of_some
    {i : Nat}
    {l : List BlockedRequest}
    {b : BlockedRequest}
    (hi : l[i]? = some b)
    (fuel : Nat) :
    timerStepFrom (fuel + 1) i l = timerStepFrom fuel (i + 1) (expire b (l.set i b.down)) := by
  rw [timerStepFrom, hi]

theorem timerStepFrom_of_none
    {i : Nat}
    {l : List BlockedRequest}
    (hi : l[i]? = none)
    (fuel : Nat) :
    timerStepFrom (fuel + 1) i l = l := by
  rw [timerStepFrom, hi]

/-- The timer loses the pointers of the entries it removes or overwrites. -/
theorem held_timerStepFrom
    (fuel i : Nat)
    (l : List BlockedRequest) :
    ∃ lost, (held (timerStepFrom fuel i l) ++ lost).Perm (held l) ∧ (Quiet i l → lost = []) := by
  induction fuel generalizing i l with
  | zero => exact ⟨[], by rw [List.append_nil, timerStepFrom], fun _ => rfl⟩
  | succ fuel ih =>
      cases hi : l[i]? with
      | none => exact ⟨[], by rw [List.append_nil, timerStepFrom_of_none hi], fun _ => rfl⟩
      | some b =>
          obtain ⟨hlt, hb⟩ := List.getElem?_eq_some_iff.mp hi
          rw [timerStepFrom_of_some hi]
          obtain ⟨later, hlater, hnone⟩ := ih (i + 1) (expire b (l.set i b.down))
          by_cases hexpires : b.timer - 1 = 0
          · have hremoved := held_withoutBlocker b.blockerId (l.set i b.down)
            have hcleared := held_storeResponse_none b.blockerId
              (withoutBlocker b.blockerId (l.set i b.down))
            have hround : expire b (l.set i b.down) = storeResponse b.blockerId none
                (withoutBlocker b.blockerId (l.set i b.down)) := if_pos hexpires
            refine ⟨later ++ responseOf b.blockerId
              (withoutBlocker b.blockerId (l.set i b.down)) ++
                responseOf b.blockerId (l.set i b.down), ?_, ?_⟩
            · rw [held_set hi] at hremoved
              rw [hround] at hlater ⊢
              refine List.perm_iff_count.mpr fun r => ?_
              have h1 := hlater.count_eq r
              have h2 := hcleared.count_eq r
              have h3 := hremoved.count_eq r
              simp only [List.count_append] at h1 h2 h3 ⊢
              omega
            · intro hquiet
              have hone : b.timer = 1 := by
                rw [← UInt64.sub_add_cancel b.timer 1, hexpires]
                rfl
              have hfree : ∀ e ∈ l.set i b.down, e.blockerId = b.blockerId →
                  e.responseData = none := by
                intro e he hid
                have hbehind : b ∈ l.drop i := by
                  rw [List.drop_eq_getElem_cons hlt, hb]
                  exact List.mem_cons_self
                rcases List.mem_or_eq_of_mem_set he with he | rfl
                · exact hquiet b hbehind hone e he hid
                · exact hquiet b hbehind hone b (List.mem_of_mem_drop hbehind) rfl
              have hrest : responseOf b.blockerId
                  (withoutBlocker b.blockerId (l.set i b.down)) = [] :=
                responseOf_eq_nil fun e he hid => hfree e (mem_of_mem_withoutFirst he) hid
              rw [hnone (hquiet.expire hi), responseOf_eq_nil hfree, hrest]
              rfl
          · have hround : expire b (l.set i b.down) = l.set i b.down := if_neg hexpires
            refine ⟨later, ?_, fun hquiet => hnone (hquiet.expire hi)⟩
            have hset := held_set hi
            rw [hround] at hlater ⊢
            rw [← hset]
            exact hlater

end BlockedRequest

/-! ## The buffers of a process -/

/-- The buffers that were allocated for received data, and who holds them. -/
structure BufferMemory where
  allocated : Nat := 0
  content : BufferRef → Bytes := fun _ => []
  /-- The elements of `m_incomingBuffer` of all sessions. -/
  incoming : List IncomingBuffer := []
  blockers : List BlockedRequest := []
  /-- The results of `sendRequest` and the arguments of the request callback. -/
  application : List BufferRef := []
  deleted : List BufferRef := []

namespace BufferMemory

/-- Every holder of a buffer, and every deletion. -/
def holders (m : BufferMemory) : List BufferRef :=
  m.incoming.map IncomingBuffer.incomingData ++ BlockedRequest.held m.blockers ++
    m.application ++ m.deleted

/-- Each buffer has exactly one holder, or it was deleted, once. -/
def OneOwner (m : BufferMemory) : Prop :=
  ∀ r < m.allocated, m.holders.count r = 1

/-- `new DataBuffer`, with the data it gets; the pointer is the number of the buffer. -/
def allocate (m : BufferMemory) (data : Bytes) : BufferMemory :=
  { m with
    allocated := m.allocated + 1
    content := Function.update m.content m.allocated data }

/-- The element of a multiblock id in the map of a session. -/
def find (m : BufferMemory) (s : SessionRef) (multiblockId : UInt64) : Option IncomingBuffer :=
  m.incoming.find? (fun e => e.session == s && e.multiblockId == multiblockId)

/-- `MultiblockIO::createIncomingBuffer`; `insert` keeps an element that is there. -/
def createIncomingBuffer
    (m : BufferMemory)
    (allocation : UInt64 → Bool)
    (s : SessionRef)
    (multiblockId size : UInt64) : BufferMemory :=
  let created := m.allocate []
  if allocation size then
    match m.find s multiblockId with
    | some _ => created
    | none => { created with
        incoming := m.incoming ++
          [{ session := s
             multiblockId := multiblockId
             messageSize := size
             incomingData := m.allocated }] }
  else { created with deleted := m.allocated :: m.deleted }

/-- `MultiblockIO::getIncomingBuffer`: the pointer in the element that is found. -/
def getIncomingBuffer (m : BufferMemory) (s : SessionRef) (multiblockId : UInt64) :
    Option BufferRef :=
  (m.find s multiblockId).map IncomingBuffer.incomingData

/-- `MultiblockIO::writeIntoIncomingBuffer`. -/
def writeIntoIncomingBuffer
    (m : BufferMemory)
    (s : SessionRef)
    (multiblockId : UInt64)
    (data : Bytes) : BufferMemory :=
  match m.getIncomingBuffer s multiblockId with
  | none => m
  | some r => { m with content := Function.update m.content r (m.content r ++ data) }

/-- `MultiblockIO::removeMultiblockBuffer`: the buffer is not deleted. -/
def removeMultiblockBuffer (m : BufferMemory) (s : SessionRef) (multiblockId : UInt64) :
    BufferMemory :=
  { m with incoming :=
      m.incoming.eraseP (fun e => e.session == s && e.multiblockId == multiblockId) }

/-- `MessageBlockerHandler::releaseMessage`. -/
def releaseMessage (m : BufferMemory) (blockerId : UInt64) (data : Option BufferRef) :
    BufferMemory :=
  { m with blockers := BlockedRequest.storeResponse blockerId data m.blockers }

/-- The application gets a pointer, or a null pointer. -/
def handOver (m : BufferMemory) (data : Option BufferRef) : BufferMemory :=
  { m with application := data.toList ++ m.application }

/-- The entry of a request is added to the list. -/
def addBlocker (m : BufferMemory) (blockerId timeout : UInt64) (s : SessionRef) :
    BufferMemory :=
  { m with blockers := m.blockers ++ [{ session := s, blockerId := blockerId, timer := timeout }] }

/-- A woken thread removes its entry and returns the pointer it finds there. -/
def removeMessageFromList (m : BufferMemory) (blockerId : UInt64) : BufferMemory :=
  { m with blockers := BlockedRequest.withoutBlocker blockerId m.blockers }.handOver
    ((BlockedRequest.find blockerId m.blockers).bind BlockedRequest.responseData)

/-- `MessageBlockerHandler::makeTimerStep`. -/
def makeTimerStep (m : BufferMemory) : BufferMemory :=
  { m with blockers := BlockedRequest.timerStepFrom m.blockers.length 0 m.blockers }

/-- `process_Data_SingleBlock`. -/
def processDataSingleBlock (m : BufferMemory) (rawMessage : Memory) : BufferMemory :=
  let buffer := m.allocated
  let received :=
    m.allocate (rawMessage.slice 52 (UInt32.ofNat (rawMessage.word 28 4)).toNat)
  if rawMessage 7 &&& 0x8 ≠ 0 then
    received.releaseMessage (UInt64.ofNat (rawMessage.word 40 8)) (some buffer)
  else received.handOver (some buffer)

/-- `process_Data_Multiblock`. -/
def processDataMultiblock
    (m : BufferMemory)
    (allocation : UInt64 → Bool)
    (s : SessionRef)
    (f : Part) : BufferMemory :=
  let created :=
    if f.partId = 0 then m.createIncomingBuffer allocation s f.multiblockId f.totalSize else m
  created.writeIntoIncomingBuffer s f.multiblockId f.payload

/-- `process_Data_Multi_Finish`. -/
def processDataMultiFinish
    (m : BufferMemory)
    (s : SessionRef)
    (multiblockId : UInt64)
    (response : Option UInt64) : BufferMemory :=
  let buffer := m.getIncomingBuffer s multiblockId
  let handed :=
    match response with
    | some blockerId => m.releaseMessage blockerId buffer
    | none => m.handOver buffer
  handed.removeMultiblockBuffer s multiblockId

/-- `Session::closeSession`: the buffer of the id 0 is removed from the map. -/
def closeSession (m : BufferMemory) (x : Session) (s : SessionRef) : BufferMemory :=
  if x.statemachine = .sessionReady then m.removeMultiblockBuffer s 0 else m

/-- `Session::~Session`: the session is closed, and its `MultiblockIO` deletes the
buffers in its map. -/
def destroySession (m : BufferMemory) (x : Session) (s : SessionRef) : BufferMemory :=
  let closed := m.closeSession x s
  { closed with
    incoming := closed.incoming.filter (fun e => e.session != s)
    deleted :=
      (closed.incoming.filter (fun e => e.session == s)).map IncomingBuffer.incomingData ++
        closed.deleted }

/-- The message at the front of a receive buffer is processed. -/
def processMessage (m : BufferMemory) (p : Process) (s : SessionRef) (buf : RingBuffer) :
    BufferMemory :=
  match buf.obtained with
  | .falseProtocol => m.closeSession (p.session s) s
  | .frame header rawMessage =>
      if header.type = MessageType.singleblockData.code ∧
          header.subType = SingleblockDataSubType.data.code then
        m.processDataSingleBlock rawMessage
      else
        match buf.multiFrame with
        | some (.part f) => m.processDataMultiblock p.allocation s f
        | some (.finish multiblockId response) =>
            m.processDataMultiFinish s multiblockId response
        | none => m
  | _ => m

/-- What an operation of the process does to the buffers.  A session that is given up by
`startSession` is closed before it is destroyed. -/
def operate (m : BufferMemory) (cfg : Config) (p : Process) : Operation → BufferMemory
  | .start s sessionIdentifier =>
      if sessionIdentifier.length > 64000 ∨ (p.session s).connectable then m
      else
        (m.closeSession (p.session s) s).destroySession
          (((startSession s sessionIdentifier).run p).process.session s) s
  | .finishStart s =>
      if (p.session s).initState = -1 then
        (m.closeSession (p.session s) s).destroySession
          (((SakuraNetwork.closeSession s).run p).process.session s) s
      else m
  | .receive s buf => m.processMessage p s buf
  | .close s _ => m.closeSession (p.session s) s
  | .destroy s => m.destroySession (p.session s) s
  | .request s data timeout =>
      match ((sendRequest cfg s data timeout).run p).value with
      | some id => m.addBlocker id timeout s
      | none => m
  | .wake blockerId => m.removeMessageFromList blockerId
  | .blockerTimer => m.makeTimerStep
  | _ => m

/-! ## Lost buffers -/

/-- The step loses the buffers `lost`: nobody holds them any more, and they were not
deleted. -/
def Loses (m m' : BufferMemory) (lost : List BufferRef) : Prop :=
  ∀ dropped, Accounts m.holders dropped m.allocated →
    Accounts m'.holders (lost ++ dropped) m'.allocated

theorem Loses.refl (m : BufferMemory) : Loses m m [] :=
  fun _ h => h

theorem Loses.trans
    {m m' m'' : BufferMemory}
    {lost lost' : List BufferRef}
    (h : Loses m m' lost)
    (h' : Loses m' m'' lost') :
    Loses m m'' (lost' ++ lost) := by
  intro dropped haccounts
  rw [List.append_assoc]
  exact h' _ (h _ haccounts)

/-- Buffers go from holder to holder. -/
theorem Loses.of_count
    {m m' : BufferMemory}
    {lost : List BufferRef}
    (hallocated : m'.allocated = m.allocated)
    (hcount : ∀ r, m'.holders.count r + lost.count r = m.holders.count r) :
    Loses m m' lost := by
  intro dropped h
  rw [hallocated]
  refine h.change (List.perm_iff_count.mpr fun r => ?_)
  rw [List.count_append]
  exact hcount r

/-- A buffer is allocated, too. -/
theorem Loses.of_count_allocate
    {m m' : BufferMemory}
    {lost : List BufferRef}
    (hallocated : m'.allocated = m.allocated + 1)
    (hcount : ∀ r, m'.holders.count r + lost.count r = [m.allocated].count r + m.holders.count r) :
    Loses m m' lost := by
  intro dropped h
  rw [hallocated]
  refine h.create (List.perm_iff_count.mpr fun r => ?_)
  rw [List.count_append, ← List.singleton_append, List.count_append]
  exact hcount r

theorem count_holders (m : BufferMemory) (r : BufferRef) :
    m.holders.count r = (m.incoming.map IncomingBuffer.incomingData).count r +
      (BlockedRequest.held m.blockers).count r + m.application.count r + m.deleted.count r := by
  unfold holders
  rw [List.count_append, List.count_append, List.count_append]

/-- The first element with a property can be put in front. -/
theorem perm_eraseP
    {l : List IncomingBuffer}
    {q : IncomingBuffer → Bool}
    {e : IncomingBuffer}
    (h : l.find? q = some e) :
    l.Perm (e :: l.eraseP q) := by
  induction l with
  | nil => cases h
  | cons b l ih =>
      by_cases hb : q b = true
      · rw [List.find?_cons_of_pos hb] at h
        cases h
        rw [List.eraseP_cons_of_pos hb]
      · rw [List.find?_cons_of_neg hb] at h
        rw [List.eraseP_cons_of_neg hb]
        exact ((ih h).cons b).trans (List.Perm.swap e b _)

theorem eraseP_of_find
    {l : List IncomingBuffer}
    {q : IncomingBuffer → Bool}
    (h : l.find? q = none) :
    l.eraseP q = l := by
  refine List.eraseP_of_forall_not ?_
  simpa using h

/-- The map loses the pointer of the element that is erased. -/
theorem count_removeMultiblockBuffer
    (m : BufferMemory)
    (s : SessionRef)
    (multiblockId : UInt64)
    (r : BufferRef) :
    (m.removeMultiblockBuffer s multiblockId).holders.count r +
      (m.getIncomingBuffer s multiblockId).toList.count r = m.holders.count r := by
  rw [count_holders, count_holders, removeMultiblockBuffer, getIncomingBuffer]
  cases hfind : m.find s multiblockId with
  | none =>
      rw [eraseP_of_find hfind, Option.map_none, Option.toList_none, List.count_nil]
      simp only
      omega
  | some e =>
      have hperm := ((perm_eraseP hfind).map IncomingBuffer.incomingData).count_eq r
      rw [List.map_cons, ← List.singleton_append, List.count_append] at hperm
      rw [Option.map_some, Option.toList_some]
      simp only at hperm ⊢
      omega

theorem loses_removeMultiblockBuffer
    (m : BufferMemory)
    (s : SessionRef)
    (multiblockId : UInt64) :
    Loses m (m.removeMultiblockBuffer s multiblockId)
      (m.getIncomingBuffer s multiblockId).toList :=
  .of_count rfl (m.count_removeMultiblockBuffer s multiblockId)

/-- The buffer of a first part whose id has a buffer already is lost. -/
theorem loses_createIncomingBuffer
    (m : BufferMemory)
    (allocation : UInt64 → Bool)
    (s : SessionRef)
    (multiblockId size : UInt64) :
    ∃ lost, Loses m (m.createIncomingBuffer allocation s multiblockId size) lost ∧
      (lost = [] ↔ (allocation size = true → m.find s multiblockId = none)) := by
  unfold createIncomingBuffer
  by_cases hallocation : allocation size = true
  · rw [if_pos hallocation]
    cases hfind : m.find s multiblockId with
    | some e =>
        refine ⟨[m.allocated], .of_count_allocate rfl fun r => ?_, by simp [hallocation]⟩
        rw [count_holders, count_holders]
        simp only [allocate]
        omega
    | none =>
        refine ⟨[], .of_count_allocate rfl fun r => ?_, by simp⟩
        rw [count_holders, count_holders, List.map_append, List.count_append, List.count_nil]
        simp only [allocate, List.map_cons, List.map_nil]
        omega
  · rw [if_neg hallocation]
    refine ⟨[], .of_count_allocate rfl fun r => ?_, by simp [hallocation]⟩
    rw [count_holders, count_holders, ← List.singleton_append, List.count_append, List.count_nil]
    simp only [allocate]
    omega

theorem loses_writeIntoIncomingBuffer
    (m : BufferMemory)
    (s : SessionRef)
    (multiblockId : UInt64)
    (data : Bytes) :
    Loses m (m.writeIntoIncomingBuffer s multiblockId data) [] := by
  unfold writeIntoIncomingBuffer
  cases m.getIncomingBuffer s multiblockId with
  | none => exact .refl m
  | some r => exact .refl m

theorem loses_processDataSingleBlock (m : BufferMemory) (rawMessage : Memory) :
    ∃ lost, Loses m (m.processDataSingleBlock rawMessage) lost ∧
      (lost = [] ↔ (rawMessage 7 &&& 0x8 ≠ 0 → BlockedRequest.Takes
        (UInt64.ofNat (rawMessage.word 40 8)) (some m.allocated) m.blockers)) := by
  unfold processDataSingleBlock
  by_cases hflag : rawMessage 7 &&& 0x8 = 0
  · refine ⟨[], .of_count_allocate ?_ fun r => ?_, by simp [hflag]⟩
    · rw [if_neg (not_not_intro hflag)]
      rfl
    · rw [if_neg (not_not_intro hflag), count_holders, count_holders]
      simp only [handOver, allocate, Option.toList_some, List.count_append, List.count_nil]
      omega
  · obtain ⟨lost, hcount, hnone⟩ := BlockedRequest.count_storeResponse
      (UInt64.ofNat (rawMessage.word 40 8)) (some m.allocated) m.blockers
    refine ⟨lost, .of_count_allocate ?_ fun r => ?_, ?_⟩
    · rw [if_pos hflag]
      rfl
    · have hstored := hcount r
      rw [Option.toList_some] at hstored
      rw [if_pos hflag, count_holders, count_holders]
      simp only [releaseMessage, allocate]
      omega
    · exact hnone.trans ⟨fun h _ => h, fun h => h hflag⟩

theorem loses_processDataMultiblock
    (m : BufferMemory)
    (allocation : UInt64 → Bool)
    (s : SessionRef)
    (f : Part) :
    ∃ lost, Loses m (m.processDataMultiblock allocation s f) lost ∧
      (lost = [] ↔ (f.partId = 0 → allocation f.totalSize = true →
        m.find s f.multiblockId = none)) := by
  by_cases hfirst : f.partId = 0
  · obtain ⟨lost, hloses, hnone⟩ := m.loses_createIncomingBuffer allocation s
      f.multiblockId f.totalSize
    refine ⟨[] ++ lost, ?_, hnone.trans ⟨fun h _ => h, fun h => h hfirst⟩⟩
    simp only [processDataMultiblock, if_pos hfirst]
    exact hloses.trans (loses_writeIntoIncomingBuffer _ _ _ _)
  · refine ⟨[], ?_, by simp [hfirst]⟩
    simp only [processDataMultiblock, if_neg hfirst]
    exact loses_writeIntoIncomingBuffer _ _ _ _

theorem loses_processDataMultiFinish
    (m : BufferMemory)
    (s : SessionRef)
    (multiblockId : UInt64)
    (response : Option UInt64) :
    ∃ lost, Loses m (m.processDataMultiFinish s multiblockId response) lost ∧
      (lost = [] ↔ ∀ blockerId, response = some blockerId →
        BlockedRequest.Takes blockerId (m.getIncomingBuffer s multiblockId) m.blockers) := by
  have hremoved := m.count_removeMultiblockBuffer s multiblockId
  cases response with
  | none =>
      refine ⟨[], .of_count rfl fun r => ?_, by simp⟩
      have hcount := hremoved r
      rw [count_holders, count_holders] at hcount
      rw [count_holders, count_holders]
      simp only [processDataMultiFinish, removeMultiblockBuffer, handOver, List.count_append,
        List.count_nil] at hcount ⊢
      omega
  | some blockerId =>
      obtain ⟨lost, hstored, hnone⟩ := BlockedRequest.count_storeResponse blockerId
        (m.getIncomingBuffer s multiblockId) m.blockers
      refine ⟨lost, .of_count rfl fun r => ?_, ?_⟩
      · have hcount := hremoved r
        have hstored := hstored r
        rw [count_holders, count_holders] at hcount
        rw [count_holders, count_holders]
        simp only [processDataMultiFinish, removeMultiblockBuffer, releaseMessage] at hcount ⊢
        omega
      · refine hnone.trans ⟨?_, fun h => h blockerId rfl⟩
        rintro h _ ⟨⟩
        exact h

theorem find_eq_none_iff (m : BufferMemory) (s : SessionRef) (multiblockId : UInt64) :
    (m.getIncomingBuffer s multiblockId).toList = [] ↔ m.find s multiblockId = none := by
  unfold getIncomingBuffer
  cases m.find s multiblockId with
  | none => simp
  | some e => simp

theorem loses_closeSession (m : BufferMemory) (x : Session) (s : SessionRef) :
    ∃ lost, Loses m (m.closeSession x s) lost ∧
      (lost = [] ↔ (x.statemachine = .sessionReady → m.find s 0 = none)) := by
  unfold closeSession
  by_cases hstate : x.statemachine = .sessionReady
  · rw [if_pos hstate]
    refine ⟨_, m.loses_removeMultiblockBuffer s 0, ?_⟩
    rw [find_eq_none_iff]
    exact ⟨fun h _ => h, fun h => h hstate⟩
  · rw [if_neg hstate]
    exact ⟨[], .refl m, by simp [hstate]⟩

/-- The destructor deletes what is left in the map. -/
theorem loses_deleteIncoming (m : BufferMemory) (s : SessionRef) :
    Loses m
      { m with
        incoming := m.incoming.filter (fun e => e.session != s)
        deleted := (m.incoming.filter (fun e => e.session == s)).map IncomingBuffer.incomingData ++
          m.deleted } [] := by
  refine .of_count rfl fun r => ?_
  have hperm := ((List.filter_append_perm (fun e : IncomingBuffer => e.session == s)
    m.incoming).map IncomingBuffer.incomingData).count_eq r
  rw [List.map_append, List.count_append] at hperm
  have hnot : (fun e : IncomingBuffer => e.session != s) =
      fun e : IncomingBuffer => !(e.session == s) := rfl
  rw [count_holders, count_holders, List.count_append, List.count_nil, hnot]
  simp only
  omega

theorem loses_destroySession (m : BufferMemory) (x : Session) (s : SessionRef) :
    ∃ lost, Loses m (m.destroySession x s) lost ∧
      (lost = [] ↔ (x.statemachine = .sessionReady → m.find s 0 = none)) := by
  obtain ⟨lost, hloses, hnone⟩ := m.loses_closeSession x s
  exact ⟨[] ++ lost, hloses.trans ((m.closeSession x s).loses_deleteIncoming s), hnone⟩

theorem loses_removeMessageFromList (m : BufferMemory) (blockerId : UInt64) :
    Loses m (m.removeMessageFromList blockerId) [] := by
  refine .of_count rfl fun r => ?_
  have hcount := (BlockedRequest.held_withoutBlocker blockerId m.blockers).count_eq r
  rw [List.count_append, BlockedRequest.responseOf] at hcount
  rw [count_holders, count_holders, List.count_nil]
  simp only [removeMessageFromList, handOver, List.count_append]
  omega

theorem loses_addBlocker (m : BufferMemory) (blockerId timeout : UInt64) (s : SessionRef) :
    Loses m (m.addBlocker blockerId timeout s) [] := by
  refine .of_count rfl fun r => ?_
  have hheld : BlockedRequest.held (m.addBlocker blockerId timeout s).blockers =
      BlockedRequest.held m.blockers := by
    simp [addBlocker, BlockedRequest.held]
  rw [count_holders, count_holders, hheld, List.count_nil]
  simp only [addBlocker]
  omega

theorem loses_makeTimerStep (m : BufferMemory) :
    ∃ lost, Loses m m.makeTimerStep lost ∧ (BlockedRequest.Quiet 0 m.blockers → lost = []) := by
  obtain ⟨lost, hperm, hnone⟩ := BlockedRequest.held_timerStepFrom m.blockers.length 0 m.blockers
  refine ⟨lost, .of_count rfl fun r => ?_, hnone⟩
  have hcount := hperm.count_eq r
  rw [List.count_append] at hcount
  rw [count_holders, count_holders]
  simp only [makeTimerStep]
  omega

/-! ## The operations of the process -/

/-- No buffer is lost when the message at the front of the buffer is processed: a first
part finds no buffer of its id, a response an entry without a response, and a session
that is closed has no buffer of the id 0. -/
def Accepts (m : BufferMemory) (p : Process) (s : SessionRef) (buf : RingBuffer) : Prop :=
  match buf.obtained with
  | .falseProtocol => (p.session s).statemachine = .sessionReady → m.find s 0 = none
  | .frame header rawMessage =>
      if header.type = MessageType.singleblockData.code ∧
          header.subType = SingleblockDataSubType.data.code then
        rawMessage 7 &&& 0x8 ≠ 0 → BlockedRequest.Takes
          (UInt64.ofNat (rawMessage.word 40 8)) (some m.allocated) m.blockers
      else
        match buf.multiFrame with
        | some (.part f) => f.partId = 0 → p.allocation f.totalSize = true →
            m.find s f.multiblockId = none
        | some (.finish multiblockId response) => ∀ blockerId, response = some blockerId →
            BlockedRequest.Takes blockerId (m.getIncomingBuffer s multiblockId) m.blockers
        | none => True
  | _ => True

/-- An operation loses no buffer: besides what holds for a message, a ready session that
is closed or destroyed has no buffer of the id 0, and no entry holds a response whose id
expires. -/
def Keeps (m : BufferMemory) (p : Process) : Operation → Prop
  | .receive s buf => m.Accepts p s buf
  | .start s _ | .finishStart s | .close s _ | .destroy s =>
      (p.session s).statemachine = .sessionReady → m.find s 0 = none
  | .blockerTimer => BlockedRequest.Quiet 0 m.blockers
  | _ => True

/-- A message loses a buffer exactly when it is not accepted. -/
theorem loses_processMessage
    (m : BufferMemory)
    (p : Process)
    (s : SessionRef)
    (buf : RingBuffer) :
    ∃ lost, Loses m (m.processMessage p s buf) lost ∧ (lost = [] ↔ m.Accepts p s buf) := by
  unfold processMessage Accepts
  cases buf.obtained with
  | falseProtocol => exact m.loses_closeSession (p.session s) s
  | frame header rawMessage =>
      simp only
      split
      · exact m.loses_processDataSingleBlock rawMessage
      · split
        · exact m.loses_processDataMultiblock _ _ _
        · exact m.loses_processDataMultiFinish _ _ _
        · exact ⟨[], .refl m, by simp⟩
  | _ => exact ⟨[], .refl m, by simp⟩

/-- Only a ready session is closed by `closeSession`. -/
theorem closeSession_of_not_ready
    {s : SessionRef}
    {p : Process}
    (h : (p.session s).statemachine ≠ .sessionReady)
    (replyExpected : Bool) :
    ((SakuraNetwork.closeSession s replyExpected).run p).process = p := by
  rw [SakuraNetwork.closeSession, run_getSession_bind, SessionState.isInState_sessionReady,
    if_neg (by simpa using h)]
  rfl

/-- Nor does `startSession` make a session ready. -/
theorem statemachine_startSession
    {s : SessionRef}
    {p : Process}
    (h : (p.session s).statemachine ≠ .sessionReady)
    (sessionIdentifier : Bytes) :
    (((startSession s sessionIdentifier).run p).process.session s).statemachine ≠
      .sessionReady := by
  have hlife := congrArg Life.state (simulates_startSession s sessionIdentifier p [])
  change (((startSession s sessionIdentifier).run p).process.session s).statemachine = _ at hlife
  rw [hlife]
  have hbefore : (p.life s []).state ≠ .sessionReady := h
  by_cases hlong : sessionIdentifier.length > 64000
  · rw [if_pos hlong]
    exact hbefore
  · rw [if_neg hlong]
    unfold Life.start
    split
    · rename_i hcond
      simp [Life.add, Life.connect, Life.increase, hcond]
    · have hstop : (p.life s []).increase.stop = (p.life s []).increase := if_neg hbefore
      rw [hstop]
      exact hbefore

/-- A session that is given up is closed, and destroyed in a state that is not ready
where it was not before. -/
theorem loses_giveUp
    (m : BufferMemory)
    {x x' : Session}
    (hstate : x.statemachine ≠ .sessionReady → x'.statemachine ≠ .sessionReady)
    (s : SessionRef) :
    ∃ lost, Loses m ((m.closeSession x s).destroySession x' s) lost ∧
      ((x.statemachine = .sessionReady → m.find s 0 = none) → lost = []) := by
  obtain ⟨closed, hclosed, hnone⟩ := m.loses_closeSession x s
  obtain ⟨lost, hloses, hnone'⟩ := (m.closeSession x s).loses_destroySession x' s
  refine ⟨lost ++ closed, hclosed.trans hloses, fun h => ?_⟩
  have hsame : m.find s 0 = none → m.closeSession x s = m := by
    intro hfind
    unfold closeSession
    split
    · unfold removeMultiblockBuffer
      rw [eraseP_of_find hfind]
    · rfl
  have hfree : x'.statemachine = .sessionReady → (m.closeSession x s).find s 0 = none := by
    intro hready
    have hfind : m.find s 0 = none := h (not_imp_not.mp hstate hready)
    rw [hsame hfind]
    exact hfind
  rw [hnone.mpr h, hnone'.mpr hfree]
  rfl

/-- Where each buffer has one owner, the processing of a message keeps it so exactly when
the message is accepted. -/
theorem oneOwner_processMessage_iff
    {m : BufferMemory}
    (h : Accounts m.holders [] m.allocated)
    (p : Process)
    (s : SessionRef)
    (buf : RingBuffer) :
    (m.processMessage p s buf).OneOwner ↔ m.Accepts p s buf := by
  obtain ⟨lost, hloses, hnone⟩ := m.loses_processMessage p s buf
  have haccounts := hloses [] h
  rw [List.append_nil] at haccounts
  rw [← hnone]
  constructor
  · exact haccounts.nothing_dropped
  · rintro rfl r hr
    exact haccounts.count_eq_one hr

/-- What an operation loses, and when it loses nothing. -/
theorem loses_operate
    (m : BufferMemory)
    (cfg : Config)
    (p : Process)
    (a : Operation) :
    ∃ lost, Loses m (m.operate cfg p a) lost ∧ (m.Keeps p a → lost = []) := by
  cases a with
  | start s sessionIdentifier =>
      simp only [operate, Keeps]
      split
      · exact ⟨[], .refl m, fun _ => rfl⟩
      · exact m.loses_giveUp (fun h => statemachine_startSession h sessionIdentifier) s
  | finishStart s =>
      simp only [operate, Keeps]
      split
      · refine m.loses_giveUp (fun h => ?_) s
        rw [closeSession_of_not_ready h]
        exact h
      · exact ⟨[], .refl m, fun _ => rfl⟩
  | receive s buf =>
      obtain ⟨lost, hloses, hnone⟩ := m.loses_processMessage p s buf
      exact ⟨lost, hloses, hnone.mpr⟩
  | close s replyExpected =>
      obtain ⟨lost, hloses, hnone⟩ := m.loses_closeSession (p.session s) s
      exact ⟨lost, hloses, hnone.mpr⟩
  | destroy s =>
      obtain ⟨lost, hloses, hnone⟩ := m.loses_destroySession (p.session s) s
      exact ⟨lost, hloses, hnone.mpr⟩
  | request s data timeout =>
      simp only [operate]
      split
      · exact ⟨[], m.loses_addBlocker _ _ _, fun _ => rfl⟩
      · exact ⟨[], .refl m, fun _ => rfl⟩
  | wake blockerId => exact ⟨[], m.loses_removeMessageFromList blockerId, fun _ => rfl⟩
  | blockerTimer => exact m.loses_makeTimerStep
  | _ => exact ⟨[], .refl m, fun _ => rfl⟩

end BufferMemory

/-! ## The runs of a process with its buffers -/

/-- A process, and the buffers of its received data. -/
structure ProcessMemory where
  system : System
  memory : BufferMemory := {}

inductive MemoryStep where
  | operation (a : Operation)
  /-- The application deletes a buffer it got. -/
  | delete (r : BufferRef)

/-- The runs of a process, in which the application also deletes its buffers. -/
def processMemory (cfg : Config) : TransitionSystem ProcessMemory MemoryStep where
  init := fun st => (library cfg).init st.system ∧ st.memory = {}
  step := fun st a =>
    match a with
    | .operation a =>
        if a.enabled st.system then
          some ⟨st.system.after cfg a, st.memory.operate cfg st.system.process a⟩
        else none
    | .delete r =>
        if r ∈ st.memory.application then
          some { st with memory := { st.memory with
            application := st.memory.application.erase r
            deleted := r :: st.memory.deleted } }
        else none

/-- No buffer is lost in the step. -/
def MemoryStep.Keeps (st : ProcessMemory) : MemoryStep → Prop
  | .operation a => st.memory.Keeps st.system.process a
  | .delete _ => True

/-- What a step loses, and when it loses nothing. -/
theorem loses_step
    {cfg : Config}
    {st st' : ProcessMemory}
    {a : MemoryStep}
    (hstep : (processMemory cfg).step st a = some st') :
    ∃ lost, st.memory.Loses st'.memory lost ∧ (a.Keeps st → lost = []) := by
  cases a with
  | operation a =>
      obtain ⟨_, hst⟩ := Option.ite_none_right_eq_some.mp hstep
      cases hst
      exact st.memory.loses_operate cfg st.system.process a
  | delete r =>
      obtain ⟨hr, hst⟩ := Option.ite_none_right_eq_some.mp hstep
      cases hst
      refine ⟨[], .of_count rfl fun k => ?_, fun _ => rfl⟩
      have hperm := (List.perm_cons_erase hr).count_eq k
      rw [← List.singleton_append, List.count_append] at hperm
      rw [BufferMemory.count_holders, BufferMemory.count_holders, List.count_nil,
        ← List.singleton_append, List.count_append]
      simp only
      omega

theorem accounts_init
    {cfg : Config}
    {st : ProcessMemory}
    (h : (processMemory cfg).init st) :
    Accounts st.memory.holders [] st.memory.allocated := by
  rw [h.2]
  exact Accounts.empty

/-- In every run a buffer has at most one holder, and only allocated buffers have one. -/
theorem holders_nodup
    {cfg : Config}
    {st : ProcessMemory}
    (h : (processMemory cfg).Reachable st) :
    st.memory.holders.Nodup ∧ ∀ r ∈ st.memory.holders, r < st.memory.allocated := by
  have haccounts : ∃ dropped, Accounts st.memory.holders dropped st.memory.allocated := by
    induction h with
    | init hinit => exact ⟨[], accounts_init hinit⟩
    | step _ _ hstep ih =>
        obtain ⟨dropped, haccounts⟩ := ih
        obtain ⟨lost, hloses, _⟩ := loses_step hstep
        exact ⟨lost ++ dropped, hloses dropped haccounts⟩
  obtain ⟨dropped, haccounts⟩ := haccounts
  exact ⟨haccounts.nodup, fun r hr => haccounts.lt hr⟩

theorem accounts_of_keeps
    {cfg : Config}
    {st : ProcessMemory}
    (hrun : (processMemory cfg).Reaches (fun st a => a.Keeps st) st) :
    Accounts st.memory.holders [] st.memory.allocated := by
  refine hrun.invariant (fun st hinit => accounts_init hinit) ?_
  intro st a st' haccounts hkeeps hstep
  obtain ⟨lost, hloses, hnone⟩ := loses_step hstep
  have hsame := hloses [] haccounts
  rw [hnone hkeeps] at hsame
  exact hsame

/-- In every run whose steps lose no buffer, each buffer has exactly one holder or was
deleted. -/
theorem one_owner
    {cfg : Config}
    {st : ProcessMemory}
    (hrun : (processMemory cfg).Reaches (fun st a => a.Keeps st) st) :
    st.memory.OneOwner :=
  fun _ hr => (accounts_of_keeps hrun).count_eq_one hr

/-! ## A first part, and a repeated one -/

theorem type_of_multiFrame
    {buf : RingBuffer}
    {f : MultiFrame}
    (h : buf.multiFrame = some f) :
    ∃ header rawMessage, buf.obtained = .frame header rawMessage ∧
      ¬ (header.type = MessageType.singleblockData.code ∧
        header.subType = SingleblockDataSubType.data.code) := by
  unfold RingBuffer.multiFrame at h
  cases hobtained : buf.obtained with
  | frame header rawMessage =>
      rw [hobtained] at h
      obtain ⟨htype, _⟩ := Option.ite_none_right_eq_some.mp h
      refine ⟨header, rawMessage, rfl, ?_⟩
      rw [htype]
      rintro ⟨hsingle, _⟩
      revert hsingle
      decide
  | _ =>
      rw [hobtained] at h
      cases h

theorem BufferMemory.accepts_of_part
    {buf : RingBuffer}
    {f : Part}
    (h : buf.multiFrame = some (.part f))
    (m : BufferMemory)
    (p : Process)
    (s : SessionRef) :
    m.processMessage p s buf = m.processDataMultiblock p.allocation s f ∧
      (m.Accepts p s buf ↔ (f.partId = 0 → p.allocation f.totalSize = true →
        m.find s f.multiblockId = none)) := by
  obtain ⟨header, rawMessage, hobtained, htype⟩ := type_of_multiFrame h
  unfold BufferMemory.processMessage BufferMemory.Accepts
  rw [hobtained]
  simp only [if_neg htype, h, and_self]

/-- A process that accepts a connection. -/
def listening : ProcessMemory where
  system := { process := Process.created (fun _ => none) }

theorem listening_init (cfg : Config) : (processMemory cfg).init listening :=
  ⟨⟨rfl, rfl, rfl, fun _ => ⟨none, rfl⟩, fun _ => rfl, rfl⟩, rfl⟩

/-- A connection was accepted. -/
def acceptedMemory : ProcessMemory where
  system := listening.system.after Config.default (.accept 0)

/-- The part of a message was received. -/
def partMemory : ProcessMemory where
  system := acceptedMemory.system.after Config.default (.receive 0 (bufferOfMessage onlyPart))
  memory := acceptedMemory.memory.operate Config.default acceptedMemory.system.process
    (.receive 0 (bufferOfMessage onlyPart))

theorem memory_partMemory :
    partMemory.memory.incoming = [⟨0, 9, 1, 0⟩] ∧ partMemory.memory.allocated = 1 := by
  have hpart := acceptedMemory.memory.accepts_of_part multiFrame_onlyPart
    acceptedMemory.system.process 0
  have hmemory : partMemory.memory =
      acceptedMemory.memory.processMessage acceptedMemory.system.process 0
        (bufferOfMessage onlyPart) := rfl
  rw [hmemory, hpart.1]
  exact ⟨rfl, rfl⟩

theorem accepts_firstPart :
    acceptedMemory.memory.Accepts acceptedMemory.system.process 0 (bufferOfMessage onlyPart) := by
  rw [(acceptedMemory.memory.accepts_of_part multiFrame_onlyPart _ 0).2]
  intro _ _
  rfl

/-- The part is received in a run that loses no buffer. -/
theorem reaches_partMemory :
    (processMemory Config.default).Reaches (fun st a => a.Keeps st) partMemory := by
  have haccepted : (processMemory Config.default).Reaches (fun st a => a.Keeps st)
      acceptedMemory :=
    .step (.init (listening_init Config.default)) (a := .operation (.accept 0)) trivial rfl
  exact .step haccepted (a := .operation (.receive 0 (bufferOfMessage onlyPart)))
    accepts_firstPart rfl

theorem one_owner_partMemory : partMemory.memory.OneOwner :=
  one_owner reaches_partMemory

/-- The buffer of a repeated first part is lost. -/
theorem not_one_owner :
    ¬ ∀ st, (processMemory Config.default).Reachable st → st.memory.OneOwner := by
  intro h
  have hagain : (processMemory Config.default).Reachable
      ⟨partMemory.system.after Config.default (.receive 0 (bufferOfMessage onlyPart)),
        partMemory.memory.operate Config.default partMemory.system.process
          (.receive 0 (bufferOfMessage onlyPart))⟩ :=
    .step reaches_partMemory.reachable (a := .operation (.receive 0 (bufferOfMessage onlyPart)))
      trivial rfl
  have hone := (BufferMemory.oneOwner_processMessage_iff (accounts_of_keeps reaches_partMemory)
    partMemory.system.process 0 (bufferOfMessage onlyPart)).mp (h _ hagain)
  rw [(partMemory.memory.accepts_of_part multiFrame_onlyPart _ 0).2] at hone
  have hallocation : partMemory.system.process.allocation = fun _ => true :=
    allocation_processMessage _ _ _ _
  have hfind := hone rfl (by rw [hallocation])
  unfold BufferMemory.find at hfind
  rw [memory_partMemory.1] at hfind
  cases hfind

end SakuraNetwork

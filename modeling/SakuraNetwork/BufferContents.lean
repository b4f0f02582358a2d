import SakuraNetwork.BufferOwnership

/-!
# The contents of received buffers

With the content of each buffer in place of its pointer, the buffers of a process are
what the maps of its sessions and its blocked requests hold.

* `BufferMemory.Represents`: the buffers are those of a process.
* `represents_of_reachable`: they are in every state of every run.
-/

namespace SakuraNetwork

open Lib

/-- The element with the content of its buffer. -/
def IncomingBuffer.buffer (content : BufferRef → Bytes) (e : IncomingBuffer) :
    MultiblockBuffer where
  multiblockId := e.multiblockId
  messageSize := e.messageSize
  incomingData := some (content e.incomingData)

namespace BlockedRequest

/-- The entry with the content of its response. -/
def entry (content : BufferRef → Bytes) (b : BlockedRequest) : MessageBlocker where
  session := b.session
  blockerId := b.blockerId
  timer := b.timer
  responseData := b.responseData.map content

variable (content : BufferRef → Bytes)

theorem map_storeResponse
    (blockerId : UInt64)
    (data : Option BufferRef)
    (l : List BlockedRequest) :
    (storeResponse blockerId data l).map (entry content) =
      MessageBlockerHandler.storeResponse blockerId (data.map content)
        (l.map (entry content)) := by
  induction l with
  | nil => rfl
  | cons b l ih =>
      rw [storeResponse, List.map_cons, MessageBlockerHandler.storeResponse]
      by_cases hb : (b.blockerId == blockerId) = true
      · have hsame : ((b.entry content).blockerId == blockerId) = true := hb
        rw [if_pos hb, if_pos hsame]
        rfl
      · have hsame : ¬ ((b.entry content).blockerId == blockerId) = true := hb
        rw [if_neg hb, if_neg hsame, List.map_cons, ih]

theorem map_withoutBlocker
    (blockerId : UInt64)
    (l : List BlockedRequest) :
    (withoutBlocker blockerId l).map (entry content) =
      MessageBlockerHandler.withoutBlocker blockerId (l.map (entry content)) := by
  exact (withoutFirst_map (entry content) (fun b => b.blockerId == blockerId) l).symm

theorem map_expire
    (b : BlockedRequest)
    (l : List BlockedRequest) :
    (expire b l).map (entry content) =
      MessageBlockerHandler.expire (b.entry content) (l.map (entry content)) := by
  unfold expire MessageBlockerHandler.expire
  by_cases hexpires : b.timer - 1 = 0
  · have hsame : (b.entry content).timer - 1 = 0 := hexpires
    rw [if_pos hexpires, if_pos hsame, map_storeResponse, map_withoutBlocker]
    rfl
  · have hsame : ¬ (b.entry content).timer - 1 = 0 := hexpires
    rw [if_neg hexpires, if_neg hsame]

/-- The loop over the pointers is the loop over the values. -/
theorem map_timerStepFrom
    (fuel i : Nat)
    (l : List BlockedRequest)
    (p : Process) :
    (timerStepFrom fuel i l).map (entry content) =
      ((MessageBlockerHandler.makeTimerStepFrom fuel i).run
        { p with blockerList := l.map (entry content) }).process.blockerList := by
  induction fuel generalizing i l with
  | zero => rfl
  | succ fuel ih =>
      rw [MessageBlockerHandler.makeTimerStepFrom_process]
      simp only [List.getElem?_map]
      cases hi : l[i]? with
      | none =>
          rw [timerStepFrom_of_none hi]
          rfl
      | some b =>
          rw [timerStepFrom_of_some hi, ih, map_expire, List.map_set]
          rfl

/-- Only the contents of the buffers that are held matter. -/
theorem map_entry_congr
    {content content' : BufferRef → Bytes}
    {l : List BlockedRequest}
    (h : ∀ r ∈ held l, content' r = content r) :
    l.map (entry content') = l.map (entry content) := by
  refine List.map_congr_left fun b hb => ?_
  have hdata : b.responseData.map content' = b.responseData.map content := by
    cases hr : b.responseData with
    | none => rfl
    | some r =>
        have hheld : r ∈ held l := List.mem_filterMap.mpr ⟨b, hb, hr⟩
        rw [Option.map_some, Option.map_some, h r hheld]
  unfold entry
  rw [hdata]

end BlockedRequest

namespace BufferMemory

/-! ## What the buffers stand for -/

/-- The blocked requests with the contents of their responses. -/
def entries (m : BufferMemory) : List MessageBlocker :=
  m.blockers.map (BlockedRequest.entry m.content)

/-- The map of a session with the contents of its buffers. -/
def buffers (m : BufferMemory) (s : SessionRef) (multiblockId : UInt64) :
    Option MultiblockBuffer :=
  (m.find s multiblockId).map (IncomingBuffer.buffer m.content)

/-- The elements of the maps have distinct keys. -/
def Distinct (m : BufferMemory) : Prop :=
  (m.incoming.map (fun e => (e.session, e.multiblockId))).Nodup

/-- The buffers are those of the process. -/
structure Represents (m : BufferMemory) (p : Process) : Prop where
  incoming : ∀ s multiblockId,
    (p.session s).incomingBuffer.find multiblockId = m.buffers s multiblockId
  blockerList : p.blockerList = m.entries
  distinct : m.Distinct

/-- Only the contents of the buffers with a holder matter. -/
theorem buffers_congr
    {m m' : BufferMemory}
    (hincoming : m'.incoming = m.incoming)
    (hcontent : ∀ r ∈ m.incoming.map IncomingBuffer.incomingData, m'.content r = m.content r)
    (s : SessionRef)
    (multiblockId : UInt64) :
    m'.buffers s multiblockId = m.buffers s multiblockId := by
  unfold buffers find
  rw [hincoming]
  cases hfind : m.incoming.find? (fun e => e.session == s && e.multiblockId == multiblockId) with
  | none => rfl
  | some e =>
      have hmem := hcontent _ (List.mem_map_of_mem (List.mem_of_find?_eq_some hfind))
      rw [Option.map_some, Option.map_some, IncomingBuffer.buffer, IncomingBuffer.buffer, hmem]

theorem entries_congr
    {m m' : BufferMemory}
    (hblockers : m'.blockers = m.blockers)
    (hcontent : ∀ r ∈ BlockedRequest.held m.blockers, m'.content r = m.content r) :
    m'.entries = m.entries := by
  unfold entries
  rw [hblockers]
  exact BlockedRequest.map_entry_congr hcontent

/-- Some buffers may have been lost; the others have one holder each. -/
def Accounted (m : BufferMemory) : Prop :=
  ∃ dropped, Accounts m.holders dropped m.allocated

theorem Accounted.of_loses
    {m m' : BufferMemory}
    {lost : List BufferRef}
    (h : m.Accounted)
    (hloses : Loses m m' lost) :
    m'.Accounted := by
  obtain ⟨dropped, haccounts⟩ := h
  exact ⟨lost ++ dropped, hloses dropped haccounts⟩

/-- The next buffer has no holder. -/
theorem Accounted.ne_allocated
    {m : BufferMemory}
    (h : m.Accounted)
    {r : BufferRef}
    (hr : r ∈ m.holders) :
    r ≠ m.allocated := by
  obtain ⟨dropped, haccounts⟩ := h
  exact Nat.ne_of_lt (haccounts.lt hr)

theorem Accounted.nodup
    {m : BufferMemory}
    (h : m.Accounted) :
    m.holders.Nodup := by
  obtain ⟨dropped, haccounts⟩ := h
  exact haccounts.nodup

/-- The elements of the maps have buffers of their own. -/
theorem Accounted.eq_of_incomingData
    {m : BufferMemory}
    (h : m.Accounted)
    {e e' : IncomingBuffer}
    (he : e ∈ m.incoming)
    (he' : e' ∈ m.incoming)
    (hsame : e.incomingData = e'.incomingData) :
    e = e' := by
  have hnodup := h.nodup
  unfold holders at hnodup
  rw [List.append_assoc, List.append_assoc] at hnodup
  exact List.inj_on_of_nodup_map (List.nodup_append.mp hnodup).1 he he' hsame

/-- No blocked request has the buffer of an element of a map. -/
theorem Accounted.ne_incomingData
    {m : BufferMemory}
    (h : m.Accounted)
    {e : IncomingBuffer}
    (he : e ∈ m.incoming)
    {r : BufferRef}
    (hr : r ∈ BlockedRequest.held m.blockers) :
    r ≠ e.incomingData := by
  have hnodup := h.nodup
  unfold holders at hnodup
  rw [List.append_assoc, List.append_assoc] at hnodup
  have hapart := (List.nodup_append.mp hnodup).2.2
  exact (hapart _ (List.mem_map_of_mem he) _ (List.mem_append_left _ hr)).symm

theorem find_key
    {m : BufferMemory}
    {s : SessionRef}
    {multiblockId : UInt64}
    {e : IncomingBuffer}
    (h : m.find s multiblockId = some e) :
    e ∈ m.incoming ∧ e.session = s ∧ e.multiblockId = multiblockId := by
  have hkey := List.find?_some h
  simp only [Bool.and_eq_true, beq_iff_eq] at hkey
  exact ⟨List.mem_of_find?_eq_some h, hkey⟩

theorem incoming_subset_holders
    {m : BufferMemory}
    {r : BufferRef}
    (hr : r ∈ m.incoming.map IncomingBuffer.incomingData) :
    r ∈ m.holders := by
  unfold holders
  simp only [List.mem_append]
  exact Or.inl (Or.inl (Or.inl hr))

theorem held_subset_holders
    {m : BufferMemory}
    {r : BufferRef}
    (hr : r ∈ BlockedRequest.held m.blockers) :
    r ∈ m.holders := by
  unfold holders
  simp only [List.mem_append]
  exact Or.inl (Or.inl (Or.inr hr))

/-! ## The operations on the buffers -/

/-- A new buffer changes no other one. -/
theorem content_allocate
    {m : BufferMemory}
    (h : m.Accounted)
    (data : Bytes)
    {r : BufferRef}
    (hr : r ∈ m.holders) :
    (m.allocate data).content r = m.content r :=
  Function.update_of_ne (h.ne_allocated hr) _ _

theorem find_append
    {m : BufferMemory}
    {s : SessionRef}
    {multiblockId : UInt64}
    (hfind : m.find s multiblockId = none)
    {e : IncomingBuffer}
    (hs : e.session = s)
    (hid : e.multiblockId = multiblockId)
    (r : SessionRef)
    (id : UInt64) :
    (m.incoming ++ [e]).find? (fun e => e.session == r && e.multiblockId == id) =
      if r = s ∧ id = multiblockId then some e else m.find r id := by
  rw [List.find?_append]
  by_cases hkey : r = s ∧ id = multiblockId
  · obtain ⟨rfl, rfl⟩ := hkey
    rw [if_pos ⟨rfl, rfl⟩]
    unfold find at hfind
    rw [hfind, Option.none_or, List.find?_singleton, hs, hid]
    simp
  · have hnot : (e.session == r && e.multiblockId == id) = false := by
      rw [hs, hid]
      by_contra htrue
      simp only [Bool.not_eq_false, Bool.and_eq_true, beq_iff_eq] at htrue
      exact hkey ⟨htrue.1.symm, htrue.2.symm⟩
    rw [if_neg hkey, List.find?_singleton, hnot]
    simp [find]

theorem buffers_createIncomingBuffer
    {m : BufferMemory}
    (h : m.Accounted)
    (allocation : UInt64 → Bool)
    (s : SessionRef)
    (multiblockId size : UInt64)
    (r : SessionRef)
    (id : UInt64) :
    (m.createIncomingBuffer allocation s multiblockId size).buffers r id =
      if (r = s ∧ id = multiblockId) ∧ allocation size = true ∧ m.buffers s multiblockId = none then
        some { multiblockId := multiblockId, messageSize := size, incomingData := some [] }
      else m.buffers r id := by
  have hkept : ∀ r ∈ m.incoming.map IncomingBuffer.incomingData,
      (m.allocate []).content r = m.content r :=
    fun r hr => content_allocate h [] (incoming_subset_holders hr)
  unfold createIncomingBuffer
  by_cases hallocation : allocation size = true
  · rw [if_pos hallocation]
    cases hfind : m.find s multiblockId with
    | some e =>
        have hsome : ¬ m.buffers s multiblockId = none := by simp [buffers, hfind]
        rw [if_neg fun hcond => hsome hcond.2.2]
        exact @buffers_congr m (m.allocate []) rfl hkept r id
    | none =>
        have hnone : m.buffers s multiblockId = none := by simp [buffers, hfind]
        by_cases hkey : r = s ∧ id = multiblockId
        · rw [if_pos ⟨hkey, hallocation, hnone⟩, buffers, find, find_append hfind rfl rfl,
            if_pos hkey]
          simp [IncomingBuffer.buffer, allocate]
        · rw [if_neg fun hcond => hkey hcond.1, buffers, find, find_append hfind rfl rfl,
            if_neg hkey]
          exact @buffers_congr m (m.allocate []) rfl hkept r id
  · rw [if_neg hallocation, if_neg fun hcond => hallocation hcond.2.1]
    exact @buffers_congr m (m.allocate []) rfl hkept r id

theorem entries_createIncomingBuffer
    {m : BufferMemory}
    (h : m.Accounted)
    (allocation : UInt64 → Bool)
    (s : SessionRef)
    (multiblockId size : UInt64) :
    (m.createIncomingBuffer allocation s multiblockId size).entries = m.entries := by
  have hkept : ∀ r ∈ BlockedRequest.held m.blockers,
      (m.allocate []).content r = m.content r :=
    fun r hr => content_allocate h [] (held_subset_holders hr)
  unfold createIncomingBuffer
  by_cases hallocation : allocation size = true
  · rw [if_pos hallocation]
    cases m.find s multiblockId with
    | some e => exact entries_congr rfl hkept
    | none => exact entries_congr rfl hkept
  · rw [if_neg hallocation]
    exact entries_congr rfl hkept

theorem distinct_createIncomingBuffer
    {m : BufferMemory}
    (h : m.Distinct)
    (allocation : UInt64 → Bool)
    (s : SessionRef)
    (multiblockId size : UInt64) :
    (m.createIncomingBuffer allocation s multiblockId size).Distinct := by
  unfold createIncomingBuffer
  by_cases hallocation : allocation size = true
  · rw [if_pos hallocation]
    cases hfind : m.find s multiblockId with
    | some e => exact h
    | none =>
        unfold Distinct
        rw [List.map_append, List.nodup_append]
        refine ⟨h, List.nodup_singleton _, ?_⟩
        intro key hkey new hnew heq
        obtain ⟨e, he, rfl⟩ := List.mem_map.mp hkey
        rw [List.map_cons, List.map_nil, List.mem_singleton] at hnew
        rw [hnew] at heq
        have hnone := List.find?_eq_none.mp hfind e he
        simp only [Prod.mk.injEq] at heq
        simp [heq.1, heq.2] at hnone
  · rw [if_neg hallocation]
    exact h

/-- Data are appended to the buffer that is found, and to no other. -/
theorem buffers_writeIntoIncomingBuffer
    {m : BufferMemory}
    (h : m.Accounted)
    (s : SessionRef)
    (multiblockId : UInt64)
    (data : Bytes)
    (r : SessionRef)
    (id : UInt64) :
    (m.writeIntoIncomingBuffer s multiblockId data).buffers r id =
      if r = s ∧ id = multiblockId then
        (m.buffers s multiblockId).map (MultiblockIo.addData data)
      else m.buffers r id := by
  unfold writeIntoIncomingBuffer getIncomingBuffer
  cases hfind : m.find s multiblockId with
  | none =>
      have hnone : m.buffers s multiblockId = none := by simp [buffers, hfind]
      rw [Option.map_none, hnone, Option.map_none]
      by_cases hkey : r = s ∧ id = multiblockId
      · rw [if_pos hkey, hkey.1, hkey.2, hnone]
      · rw [if_neg hkey]
  | some e =>
      rw [Option.map_some]
      simp only
      by_cases hkey : r = s ∧ id = multiblockId
      · obtain ⟨rfl, rfl⟩ := hkey
        rw [if_pos ⟨rfl, rfl⟩]
        unfold buffers find at *
        simp only [hfind, Option.map_some, IncomingBuffer.buffer, MultiblockIo.addData,
          Function.update_self]
      · rw [if_neg hkey]
        obtain ⟨he, hs, hid⟩ := find_key hfind
        unfold buffers
        cases hfind' : m.find r id with
        | none =>
            unfold find at hfind' ⊢
            simp only [hfind']
            rfl
        | some e' =>
            obtain ⟨he', hs', hid'⟩ := find_key hfind'
            have hne : e'.incomingData ≠ e.incomingData := by
              intro hsame
              obtain rfl := h.eq_of_incomingData he' he hsame
              exact hkey ⟨hs'.symm.trans hs, hid'.symm.trans hid⟩
            unfold find at hfind' ⊢
            simp only [hfind', Option.map_some, IncomingBuffer.buffer,
              Function.update_of_ne hne]

theorem entries_writeIntoIncomingBuffer
    {m : BufferMemory}
    (h : m.Accounted)
    (s : SessionRef)
    (multiblockId : UInt64)
    (data : Bytes) :
    (m.writeIntoIncomingBuffer s multiblockId data).entries = m.entries := by
  unfold writeIntoIncomingBuffer getIncomingBuffer
  cases hfind : m.find s multiblockId with
  | none => rfl
  | some e =>
      refine @entries_congr m _ rfl fun r hr => ?_
      exact Function.update_of_ne (h.ne_incomingData (find_key hfind).1 hr) _ _

theorem incoming_writeIntoIncomingBuffer
    (m : BufferMemory)
    (s : SessionRef)
    (multiblockId : UInt64)
    (data : Bytes) :
    (m.writeIntoIncomingBuffer s multiblockId data).incoming = m.incoming := by
  unfold writeIntoIncomingBuffer
  cases m.getIncomingBuffer s multiblockId with
  | none => rfl
  | some r => rfl

/-- The element of the key is gone, the others are found as before. -/
theorem find_eraseP
    {l : List IncomingBuffer}
    (h : (l.map (fun e => (e.session, e.multiblockId))).Nodup)
    (s r : SessionRef)
    (multiblockId id : UInt64) :
    (l.eraseP (fun e => e.session == s && e.multiblockId == multiblockId)).find?
        (fun e => e.session == r && e.multiblockId == id) =
      if r = s ∧ id = multiblockId then none
      else l.find? (fun e => e.session == r && e.multiblockId == id) := by
  induction l with
  | nil => simp
  | cons e l ih =>
      rw [List.map_cons, List.nodup_cons] at h
      have ih := ih h.2
      by_cases he : e.session = s ∧ e.multiblockId = multiblockId
      · obtain ⟨rfl, rfl⟩ := he
        rw [List.eraseP_cons_of_pos (by simp)]
        by_cases hkey : r = e.session ∧ id = e.multiblockId
        · obtain ⟨rfl, rfl⟩ := hkey
          rw [if_pos ⟨rfl, rfl⟩, List.find?_eq_none]
          intro b hb hsame
          simp only [Bool.and_eq_true, beq_iff_eq] at hsame
          exact h.1 (List.mem_map.mpr ⟨b, hb, by rw [hsame.1, hsame.2]⟩)
        · rw [if_neg hkey, List.find?_cons_of_neg]
          simp only [Bool.and_eq_true, beq_iff_eq]
          exact fun hsame => hkey ⟨hsame.1.symm, hsame.2.symm⟩
      · rw [List.eraseP_cons_of_neg (by simpa using he)]
        by_cases hfound : e.session = r ∧ e.multiblockId = id
        · have hkey : ¬ (r = s ∧ id = multiblockId) := by
            rw [← hfound.1, ← hfound.2]
            exact he
          rw [if_neg hkey, List.find?_cons_of_pos (by simpa using hfound),
            List.find?_cons_of_pos (by simpa using hfound)]
        · rw [List.find?_cons_of_neg (by simpa using hfound),
            List.find?_cons_of_neg (by simpa using hfound), ih]

theorem buffers_removeMultiblockBuffer
    {m : BufferMemory}
    (h : m.Distinct)
    (s : SessionRef)
    (multiblockId : UInt64)
    (r : SessionRef)
    (id : UInt64) :
    (m.removeMultiblockBuffer s multiblockId).buffers r id =
      if r = s ∧ id = multiblockId then none else m.buffers r id := by
  unfold buffers find removeMultiblockBuffer
  simp only [find_eraseP h]
  split
  · rfl
  · rfl

theorem distinct_removeMultiblockBuffer
    {m : BufferMemory}
    (h : m.Distinct)
    (s : SessionRef)
    (multiblockId : UInt64) :
    (m.removeMultiblockBuffer s multiblockId).Distinct :=
  h.sublist (List.eraseP_sublist.map _)

/-! ## The operations on a process -/

section Steps

variable {m : BufferMemory} {p p' : Process} {s : SessionRef}

/-- An operation on one session, which may also change the blocked requests. -/
theorem Represents.change
    {m' : BufferMemory}
    (h : m.Represents p)
    (hself : ∀ id, (p'.session s).incomingBuffer.find id = m'.buffers s id)
    (hothers : ∀ r, r ≠ s → (p'.session r).incomingBuffer = (p.session r).incomingBuffer ∧
      ∀ id, m'.buffers r id = m.buffers r id)
    (hblockers : p'.blockerList = m'.entries)
    (hdistinct : m'.Distinct) :
    m'.Represents p' := by
  refine ⟨?_, hblockers, hdistinct⟩
  intro r id
  by_cases hr : r = s
  · rw [hr]
    exact hself id
  · obtain ⟨hbuffer, hsame⟩ := hothers r hr
    rw [hbuffer, hsame id]
    exact h.incoming r id

theorem buffers_processDataSingleBlock
    (h : m.Accounted)
    (rawMessage : Memory)
    (r : SessionRef)
    (id : UInt64) :
    (m.processDataSingleBlock rawMessage).buffers r id = m.buffers r id := by
  have hkept : ∀ k ∈ m.incoming.map IncomingBuffer.incomingData,
      (m.allocate (rawMessage.slice 52 (UInt32.ofNat (rawMessage.word 28 4)).toNat)).content k =
        m.content k :=
    fun k hk => content_allocate h _ (incoming_subset_holders hk)
  unfold processDataSingleBlock
  by_cases hflag : rawMessage 7 &&& 0x8 = 0
  · rw [if_neg (not_not_intro hflag)]
    exact @buffers_congr m (m.allocate _) rfl hkept r id
  · rw [if_pos hflag]
    exact @buffers_congr m (m.allocate _) rfl hkept r id

theorem entries_processDataSingleBlock
    (h : m.Accounted)
    (rawMessage : Memory) :
    (m.processDataSingleBlock rawMessage).entries =
      if rawMessage 7 &&& 0x8 ≠ 0 then
        MessageBlockerHandler.storeResponse (UInt64.ofNat (rawMessage.word 40 8))
          (some (rawMessage.slice 52 (UInt32.ofNat (rawMessage.word 28 4)).toNat)) m.entries
      else m.entries := by
  have hkept : ∀ k ∈ BlockedRequest.held m.blockers,
      (m.allocate (rawMessage.slice 52 (UInt32.ofNat (rawMessage.word 28 4)).toNat)).content k =
        m.content k :=
    fun k hk => content_allocate h _ (held_subset_holders hk)
  have hsame := @entries_congr m (m.allocate _) rfl hkept
  unfold processDataSingleBlock
  by_cases hflag : rawMessage 7 &&& 0x8 = 0
  · rw [if_neg (not_not_intro hflag), if_neg (not_not_intro hflag)]
    exact hsame
  · rw [if_pos hflag, if_pos hflag, ← hsame]
    unfold entries releaseMessage
    rw [BlockedRequest.map_storeResponse, Option.map_some]
    simp only [allocate, Function.update_self]

theorem distinct_processDataSingleBlock
    (h : m.Distinct)
    (rawMessage : Memory) :
    (m.processDataSingleBlock rawMessage).Distinct := by
  unfold processDataSingleBlock
  by_cases hflag : rawMessage 7 &&& 0x8 = 0
  · rw [if_neg (not_not_intro hflag)]
    exact h
  · rw [if_pos hflag]
    exact h

/-- A part does to the buffers what it does to the map of the session. -/
theorem buffers_processDataMultiblock
    (h : m.Accounted)
    (allocation : UInt64 → Bool)
    (s : SessionRef)
    (f : Part)
    {incoming : OrderedMap UInt64 MultiblockBuffer}
    (hincoming : ∀ id, incoming.find id = m.buffers s id)
    (id : UInt64) :
    ((MultiFrame.part f).buffers allocation incoming).find id =
      (m.processDataMultiblock allocation s f).buffers s id := by
  obtain ⟨lost, hloses, _⟩ := m.loses_createIncomingBuffer allocation s f.multiblockId f.totalSize
  have hcreated := h.of_loses hloses
  unfold MultiFrame.buffers processDataMultiblock
  simp only
  rw [OrderedMap.find_modify]
  by_cases hfirst : f.partId = 0
  · rw [if_pos hfirst, buffers_writeIntoIncomingBuffer hcreated]
    simp only [hfirst, true_and]
    by_cases hallocation : allocation f.totalSize = true
    · simp only [hallocation, if_true, OrderedMap.find_emplace,
        buffers_createIncomingBuffer h, hincoming, true_and]
    · simp only [hallocation, Bool.false_eq_true, if_false, false_and, and_false,
        buffers_createIncomingBuffer h, hincoming, true_and]
  · rw [if_neg hfirst, buffers_writeIntoIncomingBuffer h]
    simp only [hfirst, false_and, if_false, hincoming, true_and]

theorem buffers_processDataMultiblock_other
    (h : m.Accounted)
    (allocation : UInt64 → Bool)
    {s r : SessionRef}
    (hr : r ≠ s)
    (f : Part)
    (id : UInt64) :
    (m.processDataMultiblock allocation s f).buffers r id = m.buffers r id := by
  obtain ⟨lost, hloses, _⟩ := m.loses_createIncomingBuffer allocation s f.multiblockId f.totalSize
  have hcreated := h.of_loses hloses
  unfold processDataMultiblock
  simp only
  by_cases hfirst : f.partId = 0
  · rw [if_pos hfirst, buffers_writeIntoIncomingBuffer hcreated, if_neg fun hkey => hr hkey.1,
      buffers_createIncomingBuffer h, if_neg fun hkey => hr hkey.1.1]
  · rw [if_neg hfirst, buffers_writeIntoIncomingBuffer h, if_neg fun hkey => hr hkey.1]

theorem entries_processDataMultiblock
    (h : m.Accounted)
    (allocation : UInt64 → Bool)
    (s : SessionRef)
    (f : Part) :
    (m.processDataMultiblock allocation s f).entries = m.entries := by
  obtain ⟨lost, hloses, _⟩ := m.loses_createIncomingBuffer allocation s f.multiblockId f.totalSize
  have hcreated := h.of_loses hloses
  unfold processDataMultiblock
  simp only
  by_cases hfirst : f.partId = 0
  · rw [if_pos hfirst, entries_writeIntoIncomingBuffer hcreated, entries_createIncomingBuffer h]
  · rw [if_neg hfirst, entries_writeIntoIncomingBuffer h]

theorem distinct_processDataMultiblock
    (h : m.Distinct)
    (allocation : UInt64 → Bool)
    (s : SessionRef)
    (f : Part) :
    (m.processDataMultiblock allocation s f).Distinct := by
  unfold processDataMultiblock Distinct
  simp only [incoming_writeIntoIncomingBuffer]
  by_cases hfirst : f.partId = 0
  · rw [if_pos hfirst]
    exact distinct_createIncomingBuffer h allocation s f.multiblockId f.totalSize
  · rw [if_neg hfirst]
    exact h

/-- The content behind the pointer that is handed on. -/
theorem map_getIncomingBuffer
    (m : BufferMemory)
    (s : SessionRef)
    (multiblockId : UInt64) :
    (m.getIncomingBuffer s multiblockId).map m.content =
      ((m.buffers s multiblockId).getD {}).incomingData := by
  unfold getIncomingBuffer buffers
  cases m.find s multiblockId with
  | none => rfl
  | some e => rfl

theorem buffers_processDataMultiFinish
    (h : m.Distinct)
    (s : SessionRef)
    (multiblockId : UInt64)
    (response : Option UInt64)
    (r : SessionRef)
    (id : UInt64) :
    (m.processDataMultiFinish s multiblockId response).buffers r id =
      if r = s ∧ id = multiblockId then none else m.buffers r id := by
  cases response with
  | none => exact buffers_removeMultiblockBuffer h s multiblockId r id
  | some blockerId => exact buffers_removeMultiblockBuffer h s multiblockId r id

theorem entries_processDataMultiFinish
    (m : BufferMemory)
    (s : SessionRef)
    (multiblockId blockerId : UInt64) :
    (m.processDataMultiFinish s multiblockId none).entries = m.entries ∧
      (m.processDataMultiFinish s multiblockId (some blockerId)).entries =
        MessageBlockerHandler.storeResponse blockerId
          ((m.buffers s multiblockId).getD {}).incomingData m.entries := by
  refine ⟨rfl, ?_⟩
  rw [← map_getIncomingBuffer]
  exact BlockedRequest.map_storeResponse m.content blockerId _ m.blockers

theorem distinct_processDataMultiFinish
    (h : m.Distinct)
    (s : SessionRef)
    (multiblockId : UInt64)
    (response : Option UInt64) :
    (m.processDataMultiFinish s multiblockId response).Distinct := by
  cases response with
  | none => exact distinct_removeMultiblockBuffer h s multiblockId
  | some blockerId => exact distinct_removeMultiblockBuffer h s multiblockId

theorem buffers_closeSession
    (h : m.Distinct)
    (x : Session)
    (s r : SessionRef)
    (id : UInt64) :
    (m.closeSession x s).buffers r id =
      if x.statemachine = .sessionReady ∧ r = s ∧ id = 0 then none else m.buffers r id := by
  unfold closeSession
  by_cases hstate : x.statemachine = .sessionReady
  · simp only [hstate, if_true, true_and]
    exact buffers_removeMultiblockBuffer h s 0 r id
  · simp only [hstate, if_false, false_and]

theorem entries_closeSession (m : BufferMemory) (x : Session) (s : SessionRef) :
    (m.closeSession x s).entries = m.entries := by
  unfold closeSession
  split
  · rfl
  · rfl

theorem distinct_closeSession
    (h : m.Distinct)
    (x : Session)
    (s : SessionRef) :
    (m.closeSession x s).Distinct := by
  unfold closeSession
  split
  · exact distinct_removeMultiblockBuffer h s 0
  · exact h

/-- A destroyed session has no buffers. -/
theorem buffers_destroySession
    (h : m.Distinct)
    (x : Session)
    (s r : SessionRef)
    (id : UInt64) :
    (m.destroySession x s).buffers r id = if r = s then none else m.buffers r id := by
  have hclosed := buffers_closeSession h x s r id
  unfold buffers find at hclosed ⊢
  unfold destroySession
  simp only [List.find?_filter]
  by_cases hr : r = s
  · rw [if_pos hr, Option.map_eq_none_iff, List.find?_eq_none]
    intro e _ hkey
    simp [hr] at hkey
    exact hkey.1 hkey.2.1
  · rw [if_neg fun hcond => hr hcond.2.1] at hclosed
    rw [if_neg hr, ← hclosed]
    congr 2
    funext e
    by_cases he : e.session = r
    · simp [he, hr, beq_eq_decide]
    · simp [he]

theorem entries_destroySession (m : BufferMemory) (x : Session) (s : SessionRef) :
    (m.destroySession x s).entries = m.entries :=
  m.entries_closeSession x s

theorem distinct_destroySession
    (h : m.Distinct)
    (x : Session)
    (s : SessionRef) :
    (m.destroySession x s).Distinct :=
  (distinct_closeSession h x s).sublist (List.filter_sublist.map _)

end Steps

end BufferMemory

/-! ## The processing of a message -/

/-- A part answers nobody. -/
theorem RingBuffer.release_of_part
    {buf : RingBuffer}
    {f : Part}
    (h : buf.multiFrame = some (.part f))
    (x : Session) :
    buf.release x = none := by
  unfold RingBuffer.multiFrame at h
  unfold RingBuffer.release releaseOf
  cases hobtained : buf.obtained with
  | frame header rawMessage =>
      rw [hobtained] at h
      obtain ⟨htype, hframe⟩ := Option.ite_none_right_eq_some.mp h
      have hstatic : header.subType = MultiblockDataSubType.static.code := by
        unfold multiFrameOf at hframe
        by_contra hnot
        rw [if_neg hnot] at hframe
        split at hframe
        · cases hframe
        · cases hframe
      have hsingle : ¬ (header.type = MessageType.singleblockData.code ∧
          header.subType = SingleblockDataSubType.data.code) := by
        rw [htype]
        rintro ⟨hsingle, _⟩
        revert hsingle
        decide
      have hfinish : ¬ (header.type = MessageType.multiblockData.code ∧
          header.subType = MultiblockDataSubType.finish.code) := by
        rw [hstatic]
        rintro ⟨_, hfinish⟩
        revert hfinish
        decide
      simp only
      rw [if_neg hsingle, if_neg hfinish, ite_self]
  | _ => rfl

/-- Nor does a frame that is neither data nor a part of it. -/
theorem RingBuffer.release_of_none
    {buf : RingBuffer}
    {header : CommonMessageHeader}
    {rawMessage : Memory}
    (hobtained : buf.obtained = .frame header rawMessage)
    (hsingle : ¬ (header.type = MessageType.singleblockData.code ∧
      header.subType = SingleblockDataSubType.data.code))
    (h : buf.multiFrame = none)
    (x : Session) :
    buf.release x = none := by
  unfold RingBuffer.multiFrame at h
  rw [hobtained] at h
  simp only at h
  unfold RingBuffer.release releaseOf
  rw [hobtained]
  have hfinish : ¬ (header.type = MessageType.multiblockData.code ∧
      header.subType = MultiblockDataSubType.finish.code) := by
    rintro ⟨htype, hfinish⟩
    have hstatic : ¬ header.subType = MultiblockDataSubType.static.code := by
      rw [hfinish]
      decide
    rw [if_pos htype, multiFrameOf, if_neg hstatic, if_pos hfinish] at h
    cases h
  simp only
  rw [if_neg hsingle, if_neg hfinish, ite_self]

namespace BufferMemory

variable {m : BufferMemory} {p : Process}

/-- A message does to the buffers what it does to the process. -/
theorem Represents.processMessage
    (h : m.Represents p)
    (haccounted : m.Accounted)
    (cfg : Config)
    (s : SessionRef)
    (buf : RingBuffer) :
    (m.processMessage p s buf).Represents
      ((SakuraNetwork.processMessage cfg s buf).run p).process := by
  obtain ⟨hblockers, hincoming⟩ := data_processMessage cfg s buf p
  have hothers : ∀ r, r ≠ s →
      (((SakuraNetwork.processMessage cfg s buf).run p).process.session r).incomingBuffer =
        (p.session r).incomingBuffer := by
    intro r hr
    have hspares : (Operation.receive s buf).SparesBuffers r :=
      Or.inl fun heq => hr (Option.some.inj heq).symm
    exact hspares.incomingBuffer cfg p
  unfold BufferMemory.processMessage
  cases hobtained : buf.obtained with
  | falseProtocol =>
      have hrelease : buf.release (p.session s) = none := by
        unfold RingBuffer.release
        rw [hobtained]
      rw [hrelease] at hblockers
      unfold RingBuffer.incomingBuffer at hincoming
      rw [hobtained] at hincoming
      simp only at hincoming ⊢
      refine h.change (s := s) ?_ ?_ ?_ (distinct_closeSession h.distinct _ s)
      · intro id
        rw [hincoming, buffers_closeSession h.distinct]
        by_cases hstate : (p.session s).statemachine = .sessionReady
        · simp only [hstate, if_true, OrderedMap.find_remove, true_and, h.incoming]
        · simp only [hstate, if_false, false_and, h.incoming]
      · intro r hr
        refine ⟨hothers r hr, fun id => ?_⟩
        rw [buffers_closeSession h.distinct, if_neg fun hcond => hr hcond.2.1]
      · rw [hblockers, entries_closeSession]
        exact h.blockerList
  | frame header rawMessage =>
      simp only
      by_cases hsingle : header.type = MessageType.singleblockData.code ∧
          header.subType = SingleblockDataSubType.data.code
      · rw [if_pos hsingle]
        have hmulti : ¬ header.type = MessageType.multiblockData.code := by
          rw [hsingle.1]
          decide
        unfold RingBuffer.release releaseOf at hblockers
        unfold RingBuffer.incomingBuffer buffersOf at hincoming
        rw [hobtained] at hblockers hincoming
        simp only [if_pos hsingle, if_neg hmulti] at hblockers hincoming
        refine h.change (s := s) ?_ ?_ ?_ (distinct_processDataSingleBlock h.distinct rawMessage)
        · intro id
          rw [hincoming, buffers_processDataSingleBlock haccounted]
          exact h.incoming s id
        · intro r hr
          exact ⟨hothers r hr, fun id => buffers_processDataSingleBlock haccounted rawMessage r id⟩
        · rw [hblockers, entries_processDataSingleBlock haccounted, ← h.blockerList]
          by_cases hflag : rawMessage 7 &&& 0x8 ≠ 0
          · rw [if_pos hflag, if_pos hflag]
            rfl
          · rw [if_neg hflag, if_neg hflag]
            rfl
      · rw [if_neg hsingle]
        cases hframe : buf.multiFrame with
        | none =>
            have hprotocol : buf.obtained ≠ .falseProtocol := by
              rw [hobtained]
              exact Obtained.noConfusion
            rw [RingBuffer.release_of_none hobtained hsingle hframe] at hblockers
            rw [RingBuffer.incomingBuffer_of_none hprotocol hframe] at hincoming
            refine h.change (s := s) (fun id => ?_) (fun r hr => ⟨hothers r hr, fun _ => rfl⟩) ?_
              h.distinct
            · rw [hincoming]
              exact h.incoming s id
            · rw [hblockers]
              exact h.blockerList
        | some f =>
            rw [RingBuffer.incomingBuffer_of_multiFrame hframe] at hincoming
            cases f with
            | part f =>
                rw [RingBuffer.release_of_part hframe] at hblockers
                refine h.change (s := s) ?_ ?_ ?_
                  (distinct_processDataMultiblock h.distinct p.allocation s f)
                · intro id
                  rw [hincoming]
                  exact buffers_processDataMultiblock haccounted p.allocation s f (h.incoming s) id
                · intro r hr
                  exact ⟨hothers r hr,
                    buffers_processDataMultiblock_other haccounted p.allocation hr f⟩
                · rw [hblockers, entries_processDataMultiblock haccounted]
                  exact h.blockerList
            | finish multiblockId response =>
                have hhanded := congrArg Prod.snd (processMessage_finish cfg s hframe p)
                simp only at hhanded
                refine h.change (s := s) ?_ ?_ ?_
                  (distinct_processDataMultiFinish h.distinct s multiblockId response)
                · intro id
                  rw [hincoming, buffers_processDataMultiFinish h.distinct]
                  simp only [MultiFrame.buffers, OrderedMap.find_remove, true_and, h.incoming]
                · intro r hr
                  refine ⟨hothers r hr, fun id => ?_⟩
                  rw [buffers_processDataMultiFinish h.distinct, if_neg fun hkey => hr hkey.1]
                · rw [hhanded, h.incoming]
                  cases response with
                  | none =>
                      rw [(m.entries_processDataMultiFinish s multiblockId 0).1]
                      exact h.blockerList
                  | some blockerId =>
                      rw [(m.entries_processDataMultiFinish s multiblockId blockerId).2,
                        ← h.blockerList]
                      rfl
  | _ =>
      unfold RingBuffer.release at hblockers
      unfold RingBuffer.incomingBuffer at hincoming
      rw [hobtained] at hblockers hincoming
      refine h.change (s := s) (fun id => ?_) (fun r hr => ⟨hothers r hr, fun _ => rfl⟩) ?_
        h.distinct
      · rw [hincoming]
        exact h.incoming s id
      · rw [hblockers]
        exact h.blockerList

end BufferMemory

/-! ## The other operations of the process -/

section Operations

variable (cfg : Config) (s : SessionRef) (p : Process)

/-- A session that is started keeps its buffers. -/
theorem incomingBuffer_startSession
    {sessionIdentifier : Bytes}
    (hlong : ¬ sessionIdentifier.length > 64000)
    (hconnectable : (p.session s).connectable = true) :
    (((startSession s sessionIdentifier).run p).process.session s).incomingBuffer =
      (p.session s).incomingBuffer := by
  have hdata : AdmitsData (keeps s (fun l => l) (fun _ => False)) s (s ≠ s) (fun _ => False) :=
    keeps_data fun _ _ _ h => h.elim
  have hsend : (sendSessionInitStart s sessionIdentifier).Within
      (keeps s (fun l => l) (fun _ => False)) :=
    (Act.Within.getSession s).bind fun _ => (Act.Within.touch _).bind fun _ =>
      (OnlySends.sendNew (P := fun _ => True) trivial).within hdata
  have hrest : ∀ id, (do
      SessionHandler.addSession id s
      let _ ← sendSessionInitStart s sessionIdentifier
      pure true : Act Bool).Within (keeps s (fun l => l) (fun _ => False)) :=
    fun id => (within_addSession keeps_session id).bind fun _ => hsend.bind fun _ =>
      Act.Within.pure true
  have hvalue := connectiSession_value s (p.sessionIdCounter + 1).toUInt32
    { p with sessionIdCounter := p.sessionIdCounter + 1 }
  have hconnect : (connectiSession s (p.sessionIdCounter + 1).toUInt32).Within
      (keeps s (fun l => l) (fun _ => False)) := within_connectiSession keeps_session _
  have hconnected := (hconnect { p with sessionIdCounter := p.sessionIdCounter + 1 }).1
  rw [startSession, if_neg hlong, Act.run_bind, SessionHandler.run_increaseSessionIdCounter,
    Act.run_bind, hvalue, hconnectable]
  simp only [if_true]
  exact (Prod.mk.inj ((hrest _ _).1.trans hconnected)).1

/-- A destroyed session has no buffers. -/
theorem incomingBuffer_destroySession :
    (((destroySession s).run p).process.session s).incomingBuffer = ∅ := by
  unfold destroySession
  rw [run_modifySession_bind, run_getSession_bind, Act.run_bind, Act.run_bind]
  simp only [run_modifySession, Process.modifySession_same]

theorem act_start (sessionIdentifier : Bytes) :
    (((Operation.start s sessionIdentifier).act cfg).run p).process =
      if ((startSession s sessionIdentifier).run p).value ||
          decide (sessionIdentifier.length > 64000) then
        ((startSession s sessionIdentifier).run p).process
      else ((destroySession s).run ((startSession s sessionIdentifier).run p).process).process := by
  rw [Operation.act, Act.run_bind]
  simp only
  split
  · rfl
  · rfl

theorem incomingBuffer_start_of_starts
    {sessionIdentifier : Bytes}
    (h : sessionIdentifier.length > 64000 ∨ (p.session s).connectable = true) :
    ((((Operation.start s sessionIdentifier).act cfg).run p).process.session s).incomingBuffer =
      (p.session s).incomingBuffer := by
  rw [act_start]
  by_cases hlong : sessionIdentifier.length > 64000
  · rw [if_pos (by simp [hlong]), startSession, if_pos hlong]
    rfl
  · have hconnectable := h.resolve_left hlong
    have hvalue := startSession_value s (Nat.le_of_not_lt hlong) p
    rw [hvalue, hconnectable, Bool.true_or, if_pos rfl]
    exact incomingBuffer_startSession s p hlong hconnectable

theorem incomingBuffer_start_of_not_starts
    {sessionIdentifier : Bytes}
    (h : ¬ (sessionIdentifier.length > 64000 ∨ (p.session s).connectable = true)) :
    ((((Operation.start s sessionIdentifier).act cfg).run p).process.session s).incomingBuffer =
      ∅ := by
  obtain ⟨hlong, hconnectable⟩ := not_or.mp h
  have hvalue := startSession_value s (Nat.le_of_not_lt hlong) p
  rw [act_start, hvalue, if_neg (by simp [hlong, hconnectable])]
  exact incomingBuffer_destroySession s _

theorem incomingBuffer_finishStart_of_failed
    (h : (p.session s).initState = -1) :
    ((((Operation.finishStart s).act cfg).run p).process.session s).incomingBuffer = ∅ := by
  rw [Operation.act, finishStart, Act.run_bind, run_getSession_bind, if_pos h, Act.run_bind,
    Act.run_bind]
  exact incomingBuffer_destroySession s _

theorem finishStart_of_not_failed
    (h : (p.session s).initState ≠ -1) :
    (((Operation.finishStart s).act cfg).run p).process = p := by
  rw [Operation.act, finishStart, Act.run_bind, run_getSession_bind, if_neg h]
  rfl

/-- The blocked requests and the allocator, whatever the buffers. -/
def keepsEntries (s : SessionRef) : Effect :=
  keeps (s + 1) (fun l => l) (fun _ => False)

theorem keepsEntries_data :
    AdmitsData (keepsEntries s) s True (fun _ => False) :=
  { keeps_data (r := s) fun _ _ _ h => h.elim with
    incomingBuffer := fun _ => (keeps_data fun _ _ _ h => h.elim).incomingBuffer
      (Nat.succ_ne_self s).symm }

theorem keepsEntries_destroyed (p : Process) :
    (keepsEntries s).rel p [] (p.modifySession s
      (fun x => { x with socket := none, abort := true, incomingBuffer := ∅ })) :=
  keeps_members p _ fun h => absurd h (Nat.succ_ne_self s).symm

/-- Of the operations on a session only messages and requests change the entries. -/
theorem Operation.blockerList_act
    (a : Operation)
    (hreceive : ∀ s buf, a ≠ .receive s buf)
    (hrequest : ∀ s data timeout, a ≠ .request s data timeout)
    (hwake : ∀ blockerId, a ≠ .wake blockerId)
    (htimer : a ≠ .blockerTimer) :
    ((a.act cfg).run p).process.blockerList = p.blockerList := by
  have hkept : ∀ r, (a.act cfg).Within (keepsEntries r) →
      ((a.act cfg).run p).process.blockerList = p.blockerList :=
    fun r hwithin => (Prod.mk.inj (Prod.mk.inj (hwithin p).1).2).2
  have hsends : ∀ {α : Type} {x : Act α} (r : SessionRef), OnlySends r (Body.Carried cfg) x →
      (do let _ ← x : Act Unit).Within (keepsEntries r) :=
    fun r hx => (hx.within (keepsEntries_data r)).bind fun _ => Act.Within.pure ()
  cases a with
  | accept r => rfl
  | start r sessionIdentifier =>
      refine hkept r (Act.Within.bind
        (within_startSession (keepsEntries_data r) trivial trivial keeps_session _)
          fun _ => Act.Within.ite (fun _ => Act.Within.pure ()) fun _ => ?_)
      exact within_destroySession (keepsEntries_data r) trivial trivial keeps_session
        (keepsEntries_destroyed r)
  | finishStart r =>
      exact hkept r ((within_finishStart (keepsEntries_data r) trivial trivial keeps_session
        (keepsEntries_destroyed r)).bind fun _ => Act.Within.pure ())
  | receive r buf => exact absurd rfl (hreceive r buf)
  | close r replyExpected =>
      exact hkept r ((within_closeSession (keepsEntries_data r) trivial trivial keeps_session
        replyExpected).bind fun _ => Act.Within.pure ())
  | destroy r =>
      exact hkept r (within_destroySession (keepsEntries_data r) trivial trivial keeps_session
        (keepsEntries_destroyed r))
  | stream r data replyExpected =>
      exact hkept r (hsends r (onlySends_sendStreamData cfg r data replyExpected))
  | normalMessage r data => exact hkept r (hsends r (onlySends_sendNormalMessage cfg r data))
  | request r data timeout => exact absurd rfl (hrequest r data timeout)
  | response r data blockerId =>
      exact hkept r (hsends r (onlySends_sendResponse cfg r data blockerId))
  | heartbeat r => exact hkept r (hsends r (onlySends_sendHeartbeat cfg r))
  | wake blockerId => exact absurd rfl (hwake blockerId)
  | replyTimer =>
      change (ReplyHandler.makeTimerStep.run p).process.blockerList = p.blockerList
      rcases ReplyHandler.makeTimerStep_cases p with
        ⟨_, hrun⟩ | ⟨_, _, _, _, _, reported, _, _, _, _, _, _, hrun⟩
      · rw [hrun]
      · rw [hrun]
        cases reported.ignoreResult with
        | true => rfl
        | false => rfl
  | blockerTimer => exact absurd rfl htimer

/-- A request adds its entry, if its frames were sent. -/
theorem blockerList_sendRequest
    (data : Bytes)
    (timeout : UInt64) :
    ((sendRequest cfg s data timeout).run p).process.blockerList =
      p.blockerList ++ (((sendRequest cfg s data timeout).run p).value.map fun id =>
        ({ session := s, blockerId := id, timer := timeout } : MessageBlocker)).toList := by
  have hframes := ((onlySends_sendRequestFrames cfg s data).frame p).blockerList
  rw [sendRequest, Act.run_bind]
  by_cases hid : ((sendRequestFrames cfg s data).run p).value = 0
  · simp [hid, hframes]
  · simp [hid, hframes, Act.run_bind]

end Operations

namespace BufferMemory

variable {m : BufferMemory} {p : Process}

/-- A session that is given up has no buffers any more. -/
theorem Represents.giveUp
    (h : m.Represents p)
    (x x' : Session)
    (s : SessionRef)
    {p' : Process}
    (hself : (p'.session s).incomingBuffer = ∅)
    (hothers : ∀ r, r ≠ s → (p'.session r).incomingBuffer = (p.session r).incomingBuffer)
    (hblockers : p'.blockerList = p.blockerList) :
    ((m.closeSession x s).destroySession x' s).Represents p' := by
  have hclosed := distinct_closeSession h.distinct x s
  refine h.change (s := s) ?_ ?_ ?_ (distinct_destroySession hclosed x' s)
  · intro id
    rw [hself, OrderedMap.find_empty, buffers_destroySession hclosed, if_pos rfl]
  · intro r hr
    refine ⟨hothers r hr, fun id => ?_⟩
    rw [buffers_destroySession hclosed, if_neg hr, buffers_closeSession h.distinct,
      if_neg fun hcond => hr hcond.2.1]
  · rw [hblockers, entries_destroySession, entries_closeSession]
    exact h.blockerList

/-- An operation does to the buffers what it does to the process. -/
theorem Represents.operate
    (h : m.Represents p)
    (haccounted : m.Accounted)
    (cfg : Config)
    (a : Operation) :
    (m.operate cfg p a).Represents ((a.act cfg).run p).process := by
  have hothers : ∀ s, a.session = some s → ∀ r, r ≠ s →
      (((a.act cfg).run p).process.session r).incomingBuffer = (p.session r).incomingBuffer := by
    intro s hs r hr
    have hspares : a.SparesBuffers r := Or.inl fun heq => hr (Option.some.inj (heq.symm.trans hs))
    exact hspares.incomingBuffer cfg p
  have hspared : (∀ r, a.SparesBuffers r) →
      ((a.act cfg).run p).process.blockerList = p.blockerList →
        m.Represents ((a.act cfg).run p).process := by
    intro hspares hblockers
    refine ⟨fun r id => ?_, hblockers.trans h.blockerList, h.distinct⟩
    rw [(hspares r).incomingBuffer cfg p]
    exact h.incoming r id
  cases a with
  | accept s => exact h
  | start s sessionIdentifier =>
      have hblockers := Operation.blockerList_act cfg p (.start s sessionIdentifier) (by simp)
        (by simp) (by simp) (by simp)
      simp only [BufferMemory.operate]
      by_cases hstarts : sessionIdentifier.length > 64000 ∨ (p.session s).connectable = true
      · rw [if_pos hstarts]
        refine h.change (s := s) ?_ (fun r hr => ⟨hothers s rfl r hr, fun _ => rfl⟩)
          (hblockers.trans h.blockerList) h.distinct
        intro id
        rw [incomingBuffer_start_of_starts cfg s p hstarts]
        exact h.incoming s id
      · rw [if_neg hstarts]
        exact h.giveUp _ _ s (incomingBuffer_start_of_not_starts cfg s p hstarts)
          (hothers s rfl) hblockers
  | finishStart s =>
      have hblockers := Operation.blockerList_act cfg p (.finishStart s) (by simp) (by simp)
        (by simp) (by simp)
      simp only [BufferMemory.operate]
      by_cases hfailed : (p.session s).initState = -1
      · rw [if_pos hfailed]
        exact h.giveUp _ _ s (incomingBuffer_finishStart_of_failed cfg s p hfailed)
          (hothers s rfl) hblockers
      · rw [if_neg hfailed, finishStart_of_not_failed cfg s p hfailed]
        exact h
  | receive s buf => exact h.processMessage haccounted cfg s buf
  | close s replyExpected =>
      obtain ⟨hblockers, hincoming⟩ := closeSession_data s replyExpected p
      refine h.change (s := s) ?_ ?_ ?_ (distinct_closeSession h.distinct _ s)
      · intro id
        change (((SakuraNetwork.closeSession s replyExpected).run p).process.session
          s).incomingBuffer.find id = _
        simp only [BufferMemory.operate]
        rw [hincoming, buffers_closeSession h.distinct]
        by_cases hstate : (p.session s).statemachine = .sessionReady
        · simp only [hstate, if_true, OrderedMap.find_remove, true_and, h.incoming]
        · simp only [hstate, if_false, false_and, h.incoming]
      · intro r hr
        refine ⟨hothers s rfl r hr, fun id => ?_⟩
        simp only [BufferMemory.operate]
        rw [buffers_closeSession h.distinct, if_neg fun hcond => hr hcond.2.1]
      · refine hblockers.trans (h.blockerList.trans ?_)
        exact (m.entries_closeSession _ s).symm
  | destroy s =>
      have hblockers := Operation.blockerList_act cfg p (.destroy s) (by simp) (by simp)
        (by simp) (by simp)
      refine h.change (s := s) ?_ ?_ ?_ (distinct_destroySession h.distinct _ s)
      · intro id
        have hempty : ((((Operation.destroy s).act cfg).run p).process.session s).incomingBuffer =
            ∅ := incomingBuffer_destroySession s p
        simp only [BufferMemory.operate]
        rw [hempty, OrderedMap.find_empty, buffers_destroySession h.distinct, if_pos rfl]
      · intro r hr
        refine ⟨hothers s rfl r hr, fun id => ?_⟩
        simp only [BufferMemory.operate]
        rw [buffers_destroySession h.distinct, if_neg hr]
      · exact hblockers.trans (h.blockerList.trans (m.entries_destroySession _ s).symm)
  | stream s data replyExpected =>
      refine hspared (fun r => Or.inr trivial) ?_
      exact Operation.blockerList_act cfg p _ (by simp) (by simp) (by simp) (by simp)
  | normalMessage s data =>
      refine hspared (fun r => Or.inr trivial) ?_
      exact Operation.blockerList_act cfg p _ (by simp) (by simp) (by simp) (by simp)
  | request s data timeout =>
      have hblockers := blockerList_sendRequest cfg s p data timeout
      have hspares : ∀ r, (Operation.request s data timeout).SparesBuffers r :=
        fun r => Or.inr trivial
      have hincoming : ∀ r id, ((((Operation.request s data timeout).act cfg).run
          p).process.session r).incomingBuffer.find id = m.buffers r id := by
        intro r id
        rw [(hspares r).incomingBuffer cfg p]
        exact h.incoming r id
      simp only [BufferMemory.operate]
      cases hvalue : ((sendRequest cfg s data timeout).run p).value with
      | none =>
          rw [hvalue, Option.map_none, Option.toList_none, List.append_nil] at hblockers
          exact ⟨hincoming, hblockers.trans h.blockerList, h.distinct⟩
      | some id =>
          rw [hvalue, Option.map_some, Option.toList_some, h.blockerList] at hblockers
          refine ⟨hincoming, hblockers.trans ?_, h.distinct⟩
          simp [entries, addBlocker, BlockedRequest.entry]
  | response s data blockerId =>
      refine hspared (fun r => Or.inr trivial) ?_
      exact Operation.blockerList_act cfg p _ (by simp) (by simp) (by simp) (by simp)
  | heartbeat s =>
      refine hspared (fun r => Or.inr trivial) ?_
      exact Operation.blockerList_act cfg p _ (by simp) (by simp) (by simp) (by simp)
  | wake blockerId =>
      have hspares : ∀ r, (Operation.wake blockerId).SparesBuffers r :=
        fun r => Or.inl (by simp [Operation.session])
      have hblockers : (((Operation.wake blockerId).act cfg).run p).process.blockerList =
          MessageBlockerHandler.withoutBlocker blockerId p.blockerList := by
        have hprocess := MessageBlockerHandler.removeMessageFromList_process blockerId p
        exact congrArg Process.blockerList hprocess
      refine ⟨fun r id => ?_, ?_, h.distinct⟩
      · rw [(hspares r).incomingBuffer cfg p]
        exact h.incoming r id
      · rw [hblockers, h.blockerList]
        exact (BlockedRequest.map_withoutBlocker m.content blockerId m.blockers).symm
  | replyTimer =>
      refine hspared (fun r => Or.inl (by simp [Operation.session])) ?_
      exact Operation.blockerList_act cfg p _ (by simp) (by simp) (by simp) (by simp)
  | blockerTimer =>
      have hspares : ∀ r, Operation.blockerTimer.SparesBuffers r :=
        fun r => Or.inl (by simp [Operation.session])
      refine ⟨fun r id => ?_, ?_, h.distinct⟩
      · rw [(hspares r).incomingBuffer cfg p]
        exact h.incoming r id
      · have hmap := BlockedRequest.map_timerStepFrom m.content m.blockers.length 0 m.blockers p
        have hsame : ({ p with blockerList := m.blockers.map (BlockedRequest.entry m.content) } :
            Process) = p := by
          have hlist := h.blockerList
          unfold entries at hlist
          rw [← hlist]
        rw [hsame] at hmap
        have hlength : p.blockerList.length = m.blockers.length := by
          rw [h.blockerList, entries, List.length_map]
        change (MessageBlockerHandler.makeTimerStep.run p).process.blockerList = _
        rw [MessageBlockerHandler.makeTimerStep, Act.run_get_bind, hlength]
        exact hmap.symm

end BufferMemory

/-- In every run the buffers hold what the sessions and the blocked requests hold. -/
theorem represents_of_reachable
    {cfg : Config}
    {st : ProcessMemory}
    (h : (processMemory cfg).Reachable st) :
    st.memory.Represents st.system.process := by
  have hboth : st.memory.Accounted ∧ st.memory.Represents st.system.process := by
    induction h with
    | init hinit =>
        refine ⟨⟨[], accounts_init hinit⟩, ?_⟩
        obtain ⟨⟨_, _, hblockers, hsessions, _, _⟩, hmemory⟩ := hinit
        rw [hmemory]
        refine ⟨fun s id => ?_, hblockers, List.nodup_nil⟩
        obtain ⟨k, hsession⟩ := hsessions s
        rw [hsession]
        exact OrderedMap.find_empty id
    | @step st st' a _ _ hstep ih =>
        obtain ⟨haccounted, hrepresents⟩ := ih
        obtain ⟨lost, hloses, _⟩ := loses_step hstep
        refine ⟨haccounted.of_loses hloses, ?_⟩
        cases a with
        | operation a =>
            obtain ⟨_, hst⟩ := Option.ite_none_right_eq_some.mp hstep
            cases hst
            exact hrepresents.operate haccounted cfg a
        | delete r =>
            obtain ⟨_, hst⟩ := Option.ite_none_right_eq_some.mp hstep
            cases hst
            exact ⟨hrepresents.incoming, hrepresents.blockerList, hrepresents.distinct⟩
  exact hboth.2

end SakuraNetwork

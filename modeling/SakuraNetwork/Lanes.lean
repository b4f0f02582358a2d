import SakuraNetwork.Parcels

/-!
# Messages in blocks on one way

Several messages are sent over the connections of a process at the same time.  The frames
of each of them stay in order; between them there are frames of other messages.

* `Posting`, `Lane`: the messages by their ids, and the frames on their way.
* `SendOperation.unpack_step`: what the receiver makes of the next frame of a message.
* `Lane.Carries`: what was sent is what was collected, what is on its way, and what is left
  to send.
* `Carries.take`: the last frame of a message, and no other one, hands it on.
-/

namespace SakuraNetwork

open Lib

/-! ## The frames of one message -/

/-- The message that a block belongs to. -/
def Body.blockId : Body → Option UInt64
  | .singleBlock multiblockId .. => some multiblockId
  | .multiStatic _ multiblockId .. => some multiblockId
  | .multiFinish multiblockId _ => some multiblockId
  | _ => none

/-- The operation sends its data in blocks. -/
def SendOperation.InBlocks : SendOperation → Prop
  | .stream .. => False
  | _ => True

/-- The frames of a message are parts, and one that ends it. -/
theorem SendOperation.frames_eq
    (cfg : Config)
    {op : SendOperation}
    (hblocks : op.InBlocks)
    (id : UInt64) :
    ∃ parts last, op.frames cfg id = parts ++ [last] ∧ last.blockId = some id ∧
      ∀ b ∈ parts, ∃ total number partId part, b = .multiStatic total id number partId part 0 := by
  have hsingle : ∀ blockerId data, ∃ parts last,
      [Body.singleBlock id blockerId data] = parts ++ [last] ∧ last.blockId = some id ∧
        ∀ b ∈ parts, ∃ total number partId part,
          b = .multiStatic total id number partId part 0 :=
    fun blockerId data => ⟨[], _, rfl, rfl, fun b hb => absurd hb List.not_mem_nil⟩
  have hmulti : ∀ blockerId data, ∃ parts last,
      MultiblockIo.outgoingFrames cfg id data blockerId = parts ++ [last] ∧
        last.blockId = some id ∧ ∀ b ∈ parts, ∃ total number partId part,
          b = .multiStatic total id number partId part 0 :=
    fun blockerId data => ⟨_, _, rfl, rfl, fun b hb => mem_outgoingParts hb⟩
  cases op with
  | stream data replyExpected => exact hblocks.elim
  | normalMessage data =>
      rw [SendOperation.frames]
      split
      · exact hsingle 0 data
      · exact hmulti 0 data
  | request data timeout =>
      rw [SendOperation.frames]
      split
      · exact hsingle 0 data
      · exact hmulti 0 data
  | response data blockerId =>
      rw [SendOperation.frames]
      split
      · exact hsingle blockerId data
      · exact hmulti blockerId data

/-- The frames of a message belong to it. -/
theorem SendOperation.mem_frames
    {cfg : Config}
    {op : SendOperation}
    (hblocks : op.InBlocks)
    {id : UInt64}
    {b : Body}
    (hb : b ∈ op.frames cfg id) :
    b.blockId = some id ∧ b.Plain := by
  have hbelongs : b.blockId = some id := by
    obtain ⟨parts, last, hsplit, hlast, hparts⟩ := op.frames_eq cfg hblocks id
    rw [hsplit] at hb
    rcases List.mem_append.mp hb with hpart | hend
    · obtain ⟨total, number, partId, part, rfl⟩ := hparts b hpart
      rfl
    · rw [List.mem_singleton.mp hend]
      exact hlast
  refine ⟨hbelongs, ?_⟩
  cases b with
  | sessionInitStart => cases hbelongs
  | sessionInitReply => cases hbelongs
  | _ => rfl

/-- Blocks of one message leave the others alone, and look only at what was collected of
their own. -/
theorem Body.unpack_local
    {b : Body}
    {id : UInt64}
    (h : b.blockId = some id)
    {buffers buffers' : Collected}
    (hown : buffers id = buffers' id) :
    (b.unpack buffers).1 id = (b.unpack buffers').1 id ∧
      (b.unpack buffers).2 = (b.unpack buffers').2 ∧
      ∀ id', id' ≠ id → (b.unpack buffers).1 id' = buffers id' := by
  cases b with
  | singleBlock multiblockId blockerId data =>
      cases h
      exact ⟨hown, rfl, fun _ _ => rfl⟩
  | multiStatic totalSize multiblockId totalPartNumber partId data blockerId =>
      cases h
      simp only [Body.unpack, Function.update_self, hown, true_and]
      exact fun id' hne => Function.update_of_ne hne _ _
  | multiFinish multiblockId blockerId =>
      cases h
      simp only [Body.unpack, Function.update_self, hown, true_and]
      exact fun id' hne => Function.update_of_ne hne _ _
  | _ => cases h

/-- What belongs to no message is no part and no response. -/
theorem Body.unpack_of_blockId_none
    {b : Body}
    (h : b.blockId = none)
    (buffers : Collected) :
    (b.unpack buffers).1 = buffers ∧ ∀ q ∈ (b.unpack buffers).2, ∃ data, q = .stream data := by
  cases b with
  | singleBlock => cases h
  | multiStatic => cases h
  | multiFinish => cases h
  | stream replyExpected data => exact ⟨rfl, fun q hq => ⟨data, List.mem_singleton.mp hq⟩⟩
  | _ => exact ⟨rfl, fun q hq => absurd hq List.not_mem_nil⟩

/-- The next frame of a message: all but the last one are collected, and the last one hands
the message on. -/
theorem SendOperation.unpack_step
    (cfg : Config)
    {op : SendOperation}
    (hblocks : op.InBlocks)
    (hlength : op.data.length ≤ 2 ^ 32)
    {id : UInt64}
    {taken rest : List Body}
    {b : Body}
    (hframes : taken ++ b :: rest = op.frames cfg id)
    {buffers : Collected}
    (hbuffers : buffers id = collectedAfter taken id) :
    b.blockId = some id ∧
      (b.unpack buffers).1 id = collectedAfter (taken ++ [b]) id ∧
      (b.unpack buffers).2 = if rest = [] then [op.parcel id] else [] := by
  obtain ⟨parts, last, hsplit, hlast, hparts⟩ := op.frames_eq cfg hblocks id
  obtain ⟨hcollected, hparcels⟩ := op.unpack_frames cfg hlength id
  have hafter := collectedAfter_concat taken b
  rcases List.eq_nil_or_concat rest with rfl | ⟨rest', z, rfl⟩
  · have hinit : taken = parts ∧ b = last := by
      have hsame := hframes.trans hsplit
      exact ⟨List.append_inj_left' hsame rfl, by simpa using List.append_inj_right' hsame rfl⟩
    obtain ⟨rfl, rfl⟩ := hinit
    obtain ⟨hown, hsame, _⟩ := Body.unpack_local hlast hbuffers
    refine ⟨hlast, hown.trans (congrFun hafter.symm id), ?_⟩
    -- the parts hold no parcel, so the last frame holds the one of the message
    have hnone := (unpack_parts id 0 taken hparts (fun _ => none)).2
    rw [parcelsIn, hsplit, outputsOf_append, hnone] at hparcels
    rw [hsame, if_pos rfl]
    exact (List.append_nil _).symm.trans hparcels
  · have hmem : b ∈ parts := by
      have hsame : (taken ++ b :: rest') ++ [z] = parts ++ [last] := by
        rw [← hsplit, ← hframes, List.append_assoc, List.concat_eq_append]
        rfl
      rw [← List.append_inj_left' hsame rfl]
      exact List.mem_append_right _ List.mem_cons_self
    obtain ⟨total, number, partId, part, rfl⟩ := hparts b hmem
    obtain ⟨hown, hsame, _⟩ := Body.unpack_local (b := .multiStatic total id number partId part 0)
      rfl hbuffers
    refine ⟨rfl, hown.trans (congrFun hafter.symm id), ?_⟩
    rw [if_neg (by simp)]
    rfl

/-! ## Many messages -/

/-- A message that is sent over a session, and the frames that are not sent yet. -/
structure Posting where
  session : SessionRef
  operation : SendOperation
  unsent : List Body

/-- One way between two processes: the messages by their ids, and the frames on their way
over the connection of each session. -/
structure Lane (cfg : Config) where
  posted : UInt64 → Option Posting := fun _ => none
  line : SessionRef → List (SentFrame cfg) := fun _ => []

namespace Lane

variable {cfg : Config} (l : Lane cfg)

/-- The message is handed over, under its id. -/
def post (id : UInt64) (q : Posting) : Lane cfg :=
  { l with posted := Function.update l.posted id (some q) }

/-- The socket takes a frame. -/
def send (s : SessionRef) (f : SentFrame cfg) : Lane cfg :=
  { l with line := Function.update l.line s (l.line s ++ [f]) }

/-- The receiver takes the first frame. -/
def pop (s : SessionRef) : Lane cfg :=
  { l with line := Function.update l.line s (l.line s).tail }

/-- The frames of a message on their way. -/
def inFlight (id : UInt64) (s : SessionRef) : List Body :=
  ((l.line s).map (fun f => f.message.body)).filter (fun b => b.blockId = some id)

/-- The frames of a message that the receiver has yet to get. -/
def remaining (id : UInt64) (q : Posting) : List Body :=
  l.inFlight id q.session ++ q.unsent

/-- What the receiver has been handed of the messages with an id. -/
def arrived (id : UInt64) : List (SessionRef × Parcel) :=
  match l.posted id with
  | none => []
  | some q => if (l.remaining id q).isEmpty then [(q.session, q.operation.parcel id)] else []

/-- The operation that sends the message with an id. -/
def operationOf (id : UInt64) : Option SendOperation :=
  (l.posted id).map Posting.operation

/-- All frames of a message are sent. -/
def Sent (id : UInt64) : Prop :=
  ∃ q, l.posted id = some q ∧ q.unsent = []

/-- The receiver collected the frames that were sent and are not on their way. -/
structure Carries (collected : SessionRef → Collected) : Prop where
  valid : ∀ id q, l.posted id = some q →
    id ≠ 0 ∧ q.operation.InBlocks ∧ q.operation.data.length ≤ 2 ^ 32
  message : ∀ id q, l.posted id = some q → ∃ taken,
    taken ++ l.remaining id q = q.operation.frames cfg id ∧
      collected q.session id = collectedAfter taken id
  unposted : ∀ id, l.posted id = none → ∀ s, collected s id = none
  frame : ∀ s, ∀ f ∈ l.line s, f.message.body.Plain ∧
    ∀ id, f.message.body.blockId = some id → ∃ q, l.posted id = some q ∧ q.session = s

variable {l} {collected : SessionRef → Collected}

theorem arrived_of_posted
    {id : UInt64}
    {q : Posting}
    (h : l.posted id = some q) :
    l.arrived id = if l.remaining id q = [] then [(q.session, q.operation.parcel id)] else [] := by
  simp only [arrived, h, List.isEmpty_iff]

theorem arrived_of_not_posted
    {id : UInt64}
    (h : l.posted id = none) :
    l.arrived id = [] := by
  simp only [arrived, h]

/-- What arrived is the parcel of a message. -/
theorem of_mem_arrived
    {id : UInt64}
    {x : SessionRef × Parcel}
    (h : x ∈ l.arrived id) :
    ∃ q, l.posted id = some q ∧ x = (q.session, q.operation.parcel id) := by
  cases hposted : l.posted id with
  | none =>
      rw [arrived_of_not_posted hposted] at h
      cases h
  | some q =>
      rw [arrived_of_posted hposted] at h
      split at h
      · exact ⟨q, rfl, List.mem_singleton.mp h⟩
      · cases h

theorem operationOf_post
    (id : UInt64)
    (q : Posting) :
    (l.post id q).operationOf = Function.update l.operationOf id (some q.operation) := by
  funext id'
  by_cases hsame : id' = id
  · subst hsame
    simp [operationOf, post]
  · simp [operationOf, post, hsame]

theorem operationOf_emit
    {id : UInt64}
    {q : Posting}
    (hposted : l.posted id = some q)
    (rest : List Body) :
    (l.post id { q with unsent := rest }).operationOf = l.operationOf := by
  rw [operationOf_post]
  refine Function.update_eq_self_iff.mpr ?_
  rw [operationOf, hposted]
  rfl

/-- A message that is sent stays sent. -/
theorem Sent.post
    {id id' : UInt64}
    (h : l.Sent id')
    (hnot : ¬ l.Sent id)
    (q : Posting) :
    (l.post id q).Sent id' := by
  have hne : id' ≠ id := by
    rintro rfl
    exact hnot h
  obtain ⟨q', hq', hunsent⟩ := h
  exact ⟨q', (Function.update_of_ne hne ..).trans hq', hunsent⟩

theorem mem_line_send
    {s r : SessionRef}
    {f f' : SentFrame cfg}
    (h : f' ∈ (l.send s f).line r) :
    f' ∈ l.line r ∨ r = s ∧ f' = f := by
  simp only [send] at h
  by_cases hr : r = s
  · subst hr
    rw [Function.update_self] at h
    exact (List.mem_append.mp h).imp_right fun hnew => ⟨rfl, List.mem_singleton.mp hnew⟩
  · rw [Function.update_of_ne hr] at h
    exact Or.inl h

theorem mem_line_pop
    {s r : SessionRef}
    {f : SentFrame cfg}
    (h : f ∈ (l.pop s).line r) :
    f ∈ l.line r := by
  simp only [pop] at h
  by_cases hr : r = s
  · subst hr
    rw [Function.update_self] at h
    exact List.mem_of_mem_tail h
  · rw [Function.update_of_ne hr] at h
    exact h

theorem inFlight_send
    (id : UInt64)
    (s : SessionRef)
    (f : SentFrame cfg)
    (r : SessionRef) :
    (l.send s f).inFlight id r = l.inFlight id r ++
      if r = s ∧ f.message.body.blockId = some id then [f.message.body] else [] := by
  by_cases hr : r = s
  · subst hr
    by_cases hid : f.message.body.blockId = some id
    · simp [inFlight, send, hid]
    · simp [inFlight, send, hid]
  · simp [inFlight, send, hr]

theorem inFlight_pop
    {s : SessionRef}
    {f : SentFrame cfg}
    {rest : List (SentFrame cfg)}
    (hline : l.line s = f :: rest)
    (id : UInt64)
    (r : SessionRef) :
    l.inFlight id r = (if r = s ∧ f.message.body.blockId = some id then [f.message.body] else []) ++
      (l.pop s).inFlight id r := by
  by_cases hr : r = s
  · subst hr
    by_cases hid : f.message.body.blockId = some id
    · simp [inFlight, pop, hline, hid]
    · simp [inFlight, pop, hline, hid]
  · simp [inFlight, pop, hr]

/-- A message is handed over under a new id. -/
theorem Carries.post
    (h : l.Carries collected)
    {id : UInt64}
    {q : Posting}
    (hfresh : l.posted id = none)
    (hid : id ≠ 0)
    (hblocks : q.operation.InBlocks)
    (hlength : q.operation.data.length ≤ 2 ^ 32)
    (hunsent : q.unsent = q.operation.frames cfg id) :
    (l.post id q).Carries collected ∧
      ∀ id', (l.post id q).arrived id' = l.arrived id' := by
  have hnone : ∀ r, l.inFlight id r = [] := by
    intro r
    refine List.filter_eq_nil_iff.mpr fun b hb hsome => ?_
    obtain ⟨f, hf, rfl⟩ := List.mem_map.mp hb
    obtain ⟨q', hq', _⟩ := (h.frame r f hf).2 id (by simpa using hsome)
    rw [hfresh] at hq'
    cases hq'
  have hown : (l.post id q).posted id = some q := Function.update_self ..
  have hother : ∀ {id'}, id' ≠ id → (l.post id q).posted id' = l.posted id' :=
    fun hne => Function.update_of_ne hne ..
  have hremaining : (l.post id q).remaining id q = q.operation.frames cfg id := by
    change l.inFlight id q.session ++ q.unsent = _
    rw [hnone, hunsent, List.nil_append]
  refine ⟨⟨?_, ?_, ?_, ?_⟩, ?_⟩
  · intro id' q' hq'
    by_cases hsame : id' = id
    · subst hsame
      cases hown.symm.trans hq'
      exact ⟨hid, hblocks, hlength⟩
    · exact h.valid id' q' ((hother hsame).symm.trans hq')
  · intro id' q' hq'
    by_cases hsame : id' = id
    · subst hsame
      cases hown.symm.trans hq'
      exact ⟨[], hremaining, h.unposted id' hfresh _⟩
    · exact h.message id' q' ((hother hsame).symm.trans hq')
  · intro id' hnone' s
    by_cases hsame : id' = id
    · subst hsame
      cases hown.symm.trans hnone'
    · exact h.unposted id' ((hother hsame).symm.trans hnone') s
  · intro s f hf
    obtain ⟨hplain, hposted⟩ := h.frame s f hf
    refine ⟨hplain, fun id' hid' => ?_⟩
    obtain ⟨q', hq', hs⟩ := hposted id' hid'
    have hne : id' ≠ id := by
      rintro rfl
      rw [hfresh] at hq'
      cases hq'
    exact ⟨q', (hother hne).trans hq', hs⟩
  · intro id'
    by_cases hsame : id' = id
    · subst hsame
      obtain ⟨parts, last, hsplit, _⟩ := q.operation.frames_eq cfg hblocks id'
      rw [arrived_of_posted hown, arrived_of_not_posted hfresh, hremaining, hsplit]
      exact if_neg (by simp)
    · simp only [arrived, hother hsame]
      rfl

/-- A frame that belongs to no message is sent. -/
theorem Carries.send
    (h : l.Carries collected)
    (s : SessionRef)
    {f : SentFrame cfg}
    (hplain : f.message.body.Plain)
    (hnone : f.message.body.blockId = none) :
    (l.send s f).Carries collected ∧ ∀ id, (l.send s f).arrived id = l.arrived id := by
  have hflight : ∀ id r, (l.send s f).inFlight id r = l.inFlight id r := by
    intro id r
    rw [inFlight_send, if_neg (by simp [hnone]), List.append_nil]
  have hremaining : ∀ id q, (l.send s f).remaining id q = l.remaining id q := by
    intro id q
    rw [remaining, hflight]
    rfl
  refine ⟨⟨h.valid, ?_, h.unposted, ?_⟩, ?_⟩
  · intro id q hq
    rw [hremaining]
    exact h.message id q hq
  · intro r f' hf'
    rcases mem_line_send hf' with hold | ⟨_, rfl⟩
    · exact h.frame r f' hold
    · refine ⟨hplain, fun id hid => ?_⟩
      rw [hnone] at hid
      cases hid
  · intro id
    simp only [arrived, hremaining]
    rfl

/-- The next frame of a message is sent. -/
theorem Carries.emit
    (h : l.Carries collected)
    {id : UInt64}
    {q : Posting}
    {f : SentFrame cfg}
    {rest : List Body}
    (hposted : l.posted id = some q)
    (hunsent : q.unsent = f.message.body :: rest) :
    ((l.post id { q with unsent := rest }).send q.session f).Carries collected ∧
      ∀ id', ((l.post id { q with unsent := rest }).send q.session f).arrived id' =
        l.arrived id' := by
  obtain ⟨hid, hblocks, hlength⟩ := h.valid id q hposted
  obtain ⟨taken, htaken, hcollected⟩ := h.message id q hposted
  have hbelongs : f.message.body.blockId = some id ∧ f.message.body.Plain := by
    have hmem : f.message.body ∈ q.operation.frames cfg id := by
      rw [← htaken, remaining, hunsent]
      simp
    exact SendOperation.mem_frames hblocks hmem
  generalize hl' : (l.post id { q with unsent := rest }).send q.session f = l'
  have hown : l'.posted id = some { q with unsent := rest } := by
    rw [← hl']
    exact Function.update_self ..
  have hother : ∀ {id'}, id' ≠ id → l'.posted id' = l.posted id' := by
    intro id' hne
    rw [← hl']
    exact Function.update_of_ne hne ..
  have hsame : l'.remaining id { q with unsent := rest } = l.remaining id q := by
    rw [← hl', remaining, inFlight_send, if_pos ⟨rfl, hbelongs.1⟩, remaining, hunsent,
      List.append_assoc]
    rfl
  have hrest : ∀ {id'}, id' ≠ id → ∀ q', l'.remaining id' q' = l.remaining id' q' := by
    intro id' hne q'
    have hnot : ¬ (q'.session = q.session ∧ f.message.body.blockId = some id') := by
      rintro ⟨_, hid'⟩
      exact hne (Option.some.inj (hid'.symm.trans hbelongs.1))
    rw [← hl', remaining, inFlight_send, if_neg hnot, List.append_nil]
    rfl
  refine ⟨⟨?_, ?_, ?_, ?_⟩, ?_⟩
  · intro id' q' hq'
    by_cases hne : id' = id
    · subst hne
      cases hown.symm.trans hq'
      exact ⟨hid, hblocks, hlength⟩
    · exact h.valid id' q' ((hother hne).symm.trans hq')
  · intro id' q' hq'
    by_cases hne : id' = id
    · subst hne
      cases hown.symm.trans hq'
      rw [hsame]
      exact ⟨taken, htaken, hcollected⟩
    · rw [hrest hne]
      exact h.message id' q' ((hother hne).symm.trans hq')
  · intro id' hnone s
    by_cases hne : id' = id
    · subst hne
      cases hown.symm.trans hnone
    · exact h.unposted id' ((hother hne).symm.trans hnone) s
  · intro r f' hf'
    have hkept : ∀ id' q', l.posted id' = some q' →
        ∃ q'', l'.posted id' = some q'' ∧ q''.session = q'.session := by
      intro id' q' hq'
      by_cases hne : id' = id
      · subst hne
        cases hposted.symm.trans hq'
        exact ⟨_, hown, rfl⟩
      · exact ⟨q', (hother hne).trans hq', rfl⟩
    rw [← hl'] at hf'
    rcases mem_line_send hf' with hold | ⟨rfl, rfl⟩
    · obtain ⟨hplain, hframe⟩ := h.frame r f' hold
      refine ⟨hplain, fun id' hid' => ?_⟩
      obtain ⟨q', hq', hs⟩ := hframe id' hid'
      obtain ⟨q'', hq'', hs'⟩ := hkept id' q' hq'
      exact ⟨q'', hq'', hs'.trans hs⟩
    · refine ⟨hbelongs.2, fun id' hid' => ?_⟩
      cases Option.some.inj (hid'.symm.trans hbelongs.1)
      exact ⟨_, hown, rfl⟩
  · intro id'
    by_cases hne : id' = id
    · subst hne
      rw [arrived_of_posted hown, arrived_of_posted hposted, hsame]
    · simp only [arrived, hother hne, hrest hne]

/-- The receiver takes a frame: it is handed what the frame completes, which is a message
if the frame was the last one of it. -/
theorem Carries.take
    (h : l.Carries collected)
    {s : SessionRef}
    {f : SentFrame cfg}
    {rest : List (SentFrame cfg)}
    (hline : l.line s = f :: rest) :
    (l.pop s).Carries
        (Function.update collected s (f.message.body.unpack (collected s)).1) ∧
      ∀ id, (l.pop s).arrived id = l.arrived id ++
        if f.message.body.blockId = some id then
          (f.message.body.unpack (collected s)).2.map (Prod.mk s)
        else [] := by
  have hmem : f ∈ l.line s := by
    rw [hline]
    exact List.mem_cons_self
  have hframe := (h.frame s f hmem).2
  -- what is collected of a message that the frame does not belong to stays
  have hother : ∀ {id}, f.message.body.blockId ≠ some id → ∀ r,
      Function.update collected s (f.message.body.unpack (collected s)).1 r id =
        collected r id := by
    intro id hne r
    by_cases hr : r = s
    · subst hr
      rw [Function.update_self]
      cases hblock : f.message.body.blockId with
      | none => rw [(Body.unpack_of_blockId_none hblock _).1]
      | some id' =>
          refine (Body.unpack_local hblock rfl).2.2 id ?_
          rintro rfl
          exact hne hblock
    · rw [Function.update_of_ne hr]
  have hrest : ∀ {id}, f.message.body.blockId ≠ some id → ∀ q,
      l.remaining id q = (l.pop s).remaining id q := by
    intro id hne q
    rw [remaining, inFlight_pop hline, if_neg fun hboth => hne hboth.2]
    rfl
  -- the next frame of a message
  have hnext : ∀ {id q}, f.message.body.blockId = some id → l.posted id = some q →
      q.session = s ∧ l.remaining id q = f.message.body :: (l.pop s).remaining id q ∧
      ∃ taken, taken ++ (l.pop s).remaining id q = q.operation.frames cfg id ∧
        (f.message.body.unpack (collected s)).1 id = collectedAfter taken id ∧
        (f.message.body.unpack (collected s)).2 =
          if (l.pop s).remaining id q = [] then [q.operation.parcel id] else [] := by
    intro id q hblock hq
    obtain ⟨q', hq', hs⟩ := hframe id hblock
    cases hq.symm.trans hq'
    obtain ⟨_, hblocks, hlength⟩ := h.valid id q hq
    obtain ⟨taken, htaken, hcollected⟩ := h.message id q hq
    have hremaining : l.remaining id q = f.message.body :: (l.pop s).remaining id q := by
      rw [remaining, inFlight_pop hline, if_pos ⟨hs, hblock⟩]
      rfl
    rw [hremaining] at htaken
    rw [hs] at hcollected
    obtain ⟨_, hnew, hparcels⟩ := q.operation.unpack_step cfg hblocks hlength htaken hcollected
    refine ⟨hs, hremaining, taken ++ [f.message.body], ?_, hnew, hparcels⟩
    rw [List.append_assoc]
    exact htaken
  refine ⟨⟨h.valid, ?_, ?_, ?_⟩, ?_⟩
  · intro id q hq
    by_cases hblock : f.message.body.blockId = some id
    · obtain ⟨hs, _, taken, htaken, hnew, _⟩ := hnext hblock hq
      refine ⟨taken, htaken, ?_⟩
      rw [hs, Function.update_self]
      exact hnew
    · obtain ⟨taken, htaken, hcollected⟩ := h.message id q hq
      rw [hrest hblock] at htaken
      exact ⟨taken, htaken, (hother hblock _).trans hcollected⟩
  · intro id hnone r
    have hblock : f.message.body.blockId ≠ some id := by
      intro hblock
      obtain ⟨q, hq, _⟩ := hframe id hblock
      exact absurd (hnone.symm.trans hq) (by simp)
    exact (hother hblock r).trans (h.unposted id hnone r)
  · exact fun r f' hf' => h.frame r f' (mem_line_pop hf')
  · intro id
    by_cases hblock : f.message.body.blockId = some id
    · obtain ⟨q, hq, _⟩ := hframe id hblock
      obtain ⟨hs, hremaining, taken, _, _, hparcels⟩ := hnext hblock hq
      have hq' : (l.pop s).posted id = some q := hq
      rw [arrived_of_posted hq, arrived_of_posted hq', hremaining, if_neg (List.cons_ne_nil _ _),
        if_pos hblock, hparcels, hs]
      split <;> rfl
    · rw [if_neg hblock, List.append_nil]
      simp only [arrived, hrest hblock]
      rfl

/-- The receiver does something else. -/
theorem Carries.congr
    {collected' : SessionRef → Collected}
    (h : l.Carries collected)
    (hsame : ∀ s, collected' s = collected s) :
    l.Carries collected' :=
  (funext hsame : collected' = collected) ▸ h

end Lane

end SakuraNetwork

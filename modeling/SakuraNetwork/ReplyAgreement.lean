import SakuraNetwork.HandshakeAgreement
import SakuraNetwork.Lib.Inbox

/-!
# Replies under the key they are awaited under

A message that requires a reply is recorded under the id its sender holds, and its reply
carries the id the other side holds when it gets to the message.  Both sides change their
id during the handshake, at different moments.

* `Dialogue.Tuned`: where a reply is required, both sides hold one id, or the init reply
  message is sent before.
* `ReplyKeys`: every message on its way meets the id it was sent under.
* `reply_agreement`: in such runs every reply carries the key of the message it answers.
-/

namespace SakuraNetwork

open Lib

/-! ## Ids of messages on their way -/

/-- The id a side holds after a message: the init reply message carries a new one. -/
def Message.idAfter (id : UInt32) (m : Message) : UInt32 :=
  match m.body with
  | .sessionInitReply _ completeSessionId _ => completeSessionId
  | _ => id

/-- A message that requires a reply is read under its own id.  The reply to a message of
the handshake does not carry the id of the session. -/
def Message.ReadUnder (id : UInt32) (m : Message) : Prop :=
  m.body.Plain → m.replyRequired = true → m.sessionId = id

/-- The id a side holds when its receive thread gets to the next message. -/
def Progress.readingId (k : HandshakeIds) (b : Progress) (d : Dialogue) (x : Side) : UInt32 :=
  match b, x with
  | .answering _, .server => k.fullId
  | .accepting _, .client => k.fullId
  | _, _ => (d.endpoint x).sessionId

/-- A reply under the key of the message it answers, which the other side has sent. -/
structure Sent.Matches (e : Sent) (m : Message) (log : List Sent) : Prop where
  isReply : e.message.isReply = true
  sessionId : m.replyRequired = true → e.message.sessionId = m.sessionId
  messageId : e.message.messageId = m.messageId
  sent : ∃ e' ∈ log, e'.sender = e.sender.other ∧ e'.message = m

/-- Every message on its way meets the id it was sent under, and every reply that was
sent carries the key of its message. -/
structure ReplyKeys (k : HandshakeIds) (b : Progress) (d : Dialogue) : Prop where
  inbox : ∀ x, Fits Message.idAfter Message.ReadUnder (b.readingId k d x) (d.pending x)
  handling : ∀ x m, .handle m ∈ (d.party x).statements → (d.party x).handling = some m
  sent : ∀ x, ∀ m ∈ d.pending x, ∃ e ∈ d.log, e.sender = x.other ∧ e.message = m
  log : ∀ e ∈ d.log, ∀ m, e.answered = some m → e.Matches m d.log

theorem Message.idAfter_of_plain
    {m : Message}
    (hplain : m.body.Plain)
    (id : UInt32) :
    m.idAfter id = id := by
  obtain ⟨sessionId, messageId, body⟩ := m
  cases body with
  | sessionInitReply => cases hplain
  | _ => rfl

theorem Message.readUnder_of_opens
    {m : Message}
    (hopens : m.body.opensSession = true)
    (id : UInt32) :
    m.ReadUnder id := by
  intro hplain
  rw [hplain] at hopens
  cases hopens

/-- A reply requires no reply. -/
theorem Message.readUnder_of_isReply
    {m : Message}
    (hreply : m.isReply = true)
    (id : UInt32) :
    m.ReadUnder id := by
  intro _ hrequired
  have hanswered := answered_of_isReply hreply
  have hclose : m.body ≠ .sessionCloseStart false := by
    intro hbody
    rw [hbody] at hanswered
    cases hanswered
  rw [replyRequired_eq_answered hclose, hanswered] at hrequired
  cases hrequired

theorem Progress.readingId_of_idle
    {k : HandshakeIds}
    {b : Progress}
    {d : Dialogue}
    {x : Side}
    (h : b.running x = none) :
    b.readingId k d x = (d.endpoint x).sessionId := by
  cases b with
  | answering rest =>
      cases x with
      | client => rfl
      | server => cases h
  | accepting rest =>
      cases x with
      | client => cases h
      | server => rfl
  | _ => rfl

theorem Progress.readingId_congr
    {k : HandshakeIds}
    {b : Progress}
    {d d' : Dialogue}
    {x : Side}
    (h : (d'.endpoint x).sessionId = (d.endpoint x).sessionId) :
    b.readingId k d' x = b.readingId k d x := by
  cases b with
  | answering rest =>
      cases x with
      | client => exact h
      | server => rfl
  | accepting rest =>
      cases x with
      | client => rfl
      | server => exact h
  | _ => exact h

/-! ## What the places say about ids -/

namespace Handshake

variable {sessionIdentifier : Bytes} {k : HandshakeIds} {b : Progress} {d : Dialogue}

/-- Before the client gets the init reply, nothing on its way to the server requires a
reply under the id of the session. -/
theorem fits_server_early
    (h : Handshake sessionIdentifier k b d)
    (hearly : b.early = true)
    (id : UInt32) :
    Fits Message.idAfter Message.ReadUnder id (d.pending .server) := by
  refine fits_of_forall (fun m hm id' => ?_) id
  rcases h.replies hearly m hm with hopens | hreply
  · exact Message.readUnder_of_opens hopens id'
  · exact Message.readUnder_of_isReply hreply id'

/-- A ready server holds the final id. -/
theorem serverId_of_ready
    (h : Handshake sessionIdentifier k b d)
    (hready : (d.endpoint .server).state = .sessionReady) :
    (d.endpoint .server).sessionId = k.fullId := by
  have hserver := h.server
  have hother : ∀ s, (d.endpoint .server).state = s → s ≠ .sessionReady → False :=
    fun s hs hne => hne (hs.symm.trans hready)
  cases b with
  | idle => exact (hother _ hserver.1 SessionState.noConfusion).elim
  | called => exact (hother _ hserver.1 SessionState.noConfusion).elim
  | unanswered => exact hserver.2.2.1.sessionId
  | answering rest =>
      have hat : Answering k sessionIdentifier rest (d.endpoint .server)
          (d.party .server).wasReady := hserver
      generalize (d.party .server).wasReady = w at hat
      cases hat with
      | draw hstate => exact (hother _ hstate SessionState.noConfusion).elim
      | register hstate => exact (hother _ hstate SessionState.noConfusion).elim
      | connect hstate => exact (hother _ hstate SessionState.noConfusion).elim
      | ready hstate => exact (hother _ hstate SessionState.noConfusion).elim
      | assignId _ hid => exact hid
      | assignIdentifier _ hid => exact hid
      | create _ hsettled => exact hsettled.sessionId
      | release _ hsettled => exact hsettled.sessionId
      | reply _ hsettled => exact hsettled.sessionId
  | _ => exact hserver.2.2.1.sessionId

/-- The id a side will hold behind everything on its way to it. -/
theorem foldl_idAfter
    (h : Handshake sessionIdentifier k b d)
    (x : Side)
    (id : UInt32) :
    (d.pending x).foldl Message.idAfter id =
      (b.opening k sessionIdentifier x).foldl Message.idAfter id := by
  rw [foldl_of_inert (fun id m hplain => Message.idAfter_of_plain hplain id), h.opening]

/-- The client holds the final id once the init reply was sent and everything before it
was read. -/
theorem finalId_client
    (h : Handshake sessionIdentifier k b d)
    (hreplied : b.replied = true) :
    (d.pending .client).foldl Message.idAfter (b.readingId k d .client) = k.fullId := by
  rw [h.foldl_idAfter]
  cases b with
  | answered => rfl
  | accepting rest => rfl
  | accepted => exact h.client.2.1.sessionId
  | _ => cases hreplied

/-- Before the init reply is sent the client keeps its id. -/
theorem finalId_client_of_unreplied
    (h : Handshake sessionIdentifier k b d)
    (hreplied : b.replied = false) :
    (d.pending .client).foldl Message.idAfter (b.readingId k d .client) =
      (d.endpoint .client).sessionId := by
  rw [h.foldl_idAfter]
  cases b with
  | answered => cases hreplied
  | accepting rest => cases hreplied
  | _ => rfl

theorem finalId_server
    (h : Handshake sessionIdentifier k b d)
    (hlate : b.early = false) :
    (d.pending .server).foldl Message.idAfter (b.readingId k d .server) =
      (d.endpoint .server).sessionId := by
  rw [h.foldl_idAfter]
  cases b with
  | accepting rest => rfl
  | accepted => rfl
  | _ => cases hlate

end Handshake

/-! ## The condition -/

/-- Both sides hold one id, or the server has sent its init reply message. -/
def Dialogue.Shared (d : Dialogue) (x : Side) : Prop :=
  (d.endpoint x).sessionId = (d.endpoint x.other).sessionId ∨
    x = .server ∧ ∃ e ∈ d.log, e.sender = .server ∧ e.message.body.opensSession = true

/-- Where a ready session sends what requires a reply, it does so under an id that the
other side holds, or will hold when it gets there. -/
def Dialogue.Tuned (cfg : Config) (d : Dialogue) : Action → Prop
  | .call x c => (d.endpoint x).state = .sessionReady → c.flagged cfg → d.Shared x
  | .close x replyExpected =>
      (d.endpoint x).state = .sessionReady → replyExpected = true → d.Shared x
  | _ => True

/-- What is sent under a shared id meets it. -/
theorem Handshake.finalId_of_shared
    {sessionIdentifier : Bytes}
    {k : HandshakeIds}
    {b : Progress}
    {d : Dialogue}
    {x : Side}
    (h : Handshake sessionIdentifier k b d)
    (hready : (d.endpoint x).state = .sessionReady)
    (hshared : d.Shared x) :
    (d.pending x.other).foldl Message.idAfter (b.readingId k d x.other) =
      (d.endpoint x).sessionId := by
  cases x with
  | client =>
      have hlate := (h.late_of_ready hready).1
      rcases hshared with hsame | ⟨hserver, _⟩
      · exact (h.finalId_server hlate).trans hsame.symm
      · cases hserver
  | server =>
      have hid := h.serverId_of_ready hready
      cases hreplied : b.replied with
      | true => exact (h.finalId_client hreplied).trans hid.symm
      | false =>
          rcases hshared with hsame | ⟨_, e, he, hsender, hopens⟩
          · exact (h.finalId_client_of_unreplied hreplied).trans hsame.symm
          · rw [(h.replied_of_log he hopens hsender).1] at hreplied
            cases hreplied

/-! ## Steps -/

namespace ReplyKeys

variable {sessionIdentifier : Bytes} {k k' : HandshakeIds} {b b' : Progress} {d : Dialogue}
  {x : Side}

/-- A side performs a step; what is on its way is left to show. -/
theorem of_perform
    (h : ReplyKeys k b d)
    {answered : Option Message}
    {e' : SessionEndpoint}
    {statements : List Statement}
    {ending : Nat}
    {sent : List Message}
    (hstatements : ∀ m, .handle m ∈ statements → .handle m ∈ (d.party x).statements)
    (hinbox : ∀ y, Fits Message.idAfter Message.ReadUnder
      (b'.readingId k' (d.perform x answered e' statements ending sent) y)
      ((d.perform x answered e' statements ending sent).pending y))
    (hmatches : ∀ m ∈ sent, ∀ m', answered = some m' → Sent.Matches ⟨x, answered, m⟩ m' d.log) :
    ReplyKeys k' b' (d.perform x answered e' statements ending sent) := by
  have hmessage : ∀ {l : List Statement} {m : Message},
      m ∈ l.filterMap Statement.message → .handle m ∈ l := by
    intro l m hm
    obtain ⟨st, hst, hsome⟩ := List.mem_filterMap.mp hm
    cases st with
    | handle m' =>
        cases hsome
        exact hst
    | _ => cases hsome
  have hpending : ∀ m ∈ (d.perform x answered e' statements ending sent).pending x,
      m ∈ d.pending x := by
    intro m hm
    rw [Connection.pending_perform_same] at hm
    rcases List.mem_append.mp hm with hm | hm
    · refine List.mem_append_left _ (List.mem_filterMap.mpr ⟨.handle m, ?_, rfl⟩)
      exact hstatements m (hmessage hm)
    · exact List.mem_append_right _ hm
  have hlog : ∀ e ∈ d.log, e ∈ (d.perform x answered e' statements ending sent).log := by
    intro e he
    rw [Connection.perform_log]
    exact List.mem_append_left _ he
  constructor
  · exact hinbox
  · intro y m hm
    by_cases hy : y = x
    · subst hy
      rw [Connection.perform_party_same] at hm ⊢
      exact h.handling y m (hstatements m hm)
    · rw [Connection.perform_party_other hy] at hm ⊢
      exact h.handling y m hm
  · intro y m hm
    by_cases hy : y = x
    · subst hy
      obtain ⟨e, he, hsender, hsame⟩ := h.sent y m (hpending m hm)
      exact ⟨e, hlog e he, hsender, hsame⟩
    · rw [Connection.pending_perform_other hy] at hm
      rcases List.mem_append.mp hm with hm | hm
      · obtain ⟨e, he, hsender, hsame⟩ := h.sent y m hm
        exact ⟨e, hlog e he, hsender, hsame⟩
      · refine ⟨⟨x, answered, m⟩, ?_, ?_, rfl⟩
        · rw [Connection.perform_log]
          exact List.mem_append_right _ (List.mem_map.mpr ⟨m, hm, rfl⟩)
        · rw [Side.eq_other hy, Side.other_other]
  · intro e he m hanswered
    have hgrow : e.Matches m d.log →
        e.Matches m (d.perform x answered e' statements ending sent).log := by
      rintro ⟨hreply, hid, hmessageId, e₀, he₀, hsent⟩
      exact ⟨hreply, hid, hmessageId, e₀, hlog e₀ he₀, hsent⟩
    rw [Connection.perform_log] at he
    rcases List.mem_append.mp he with he | he
    · exact hgrow (h.log e he m hanswered)
    · obtain ⟨m', hm', rfl⟩ := List.mem_map.mp he
      exact hgrow (hmatches m' hm' m hanswered)

/-- A side takes a message. -/
theorem of_take
    (h : ReplyKeys k b d)
    {m : Message}
    {rest : List Message}
    (hidle : (d.party x).statements = [])
    (hincoming : d.incoming x = m :: rest)
    (hinbox : ∀ y, Fits Message.idAfter Message.ReadUnder
      (b'.readingId k (d.take x m rest) y) ((d.take x m rest).pending y)) :
    ReplyKeys k b' (d.take x m rest) := by
  have hhandle : ∀ m', .handle m' ∈ m.statements → m' = m := by
    intro m' hm'
    cases hopens : m.body.opensSession with
    | false =>
        rw [statements_of_plain hopens] at hm'
        simpa using hm'
    | true =>
        have hplain := plain_of_statements hm'
        obtain ⟨sessionId, messageId, body⟩ := m
        cases body with
        | sessionInitStart => simp [Message.statements] at hm'
        | sessionInitReply => simp [Message.statements] at hm'
        | _ => cases hopens
  have hpending : ∀ y m', m' ∈ (d.take x m rest).pending y → m' ∈ d.pending y := by
    intro y m' hm'
    by_cases hy : y = x
    · subst hy
      rw [Connection.pending, hidle, hincoming]
      rcases List.mem_append.mp hm' with hm' | hm'
      · obtain ⟨st, hst, hsome⟩ := List.mem_filterMap.mp hm'
        rw [Connection.take_party_same] at hst
        cases st with
        | handle m'' =>
            cases hsome
            rw [hhandle m' hst]
            exact List.mem_cons_self
        | _ => cases hsome
      · refine List.mem_cons_of_mem m ?_
        simpa [Connection.take] using hm'
    · simpa [Connection.pending, Connection.take, hy] using hm'
  refine ⟨hinbox, ?_, ?_, h.log⟩
  · intro y m' hm'
    by_cases hy : y = x
    · subst hy
      rw [Connection.take_party_same] at hm' ⊢
      rw [hhandle m' hm']
    · rw [Connection.take_party_other hy] at hm' ⊢
      exact h.handling y m' hm'
  · intro y m' hm'
    exact h.sent y m' (hpending y m' hm')

/-- The messages on their way after a step that does not move the handshake. -/
theorem inbox_of_quiet
    (h : ReplyKeys k b d)
    {answered : Option Message}
    {e' : SessionEndpoint}
    {statements : List Statement}
    {ending : Nat}
    {sent : List Message}
    (hid : e'.sessionId = (d.endpoint x).sessionId)
    (hown : Fits Message.idAfter Message.ReadUnder (b.readingId k d x)
      (statements.filterMap Statement.message ++ d.incoming x))
    (hsent : ∀ m ∈ sent, m.body.Plain ∧ m.ReadUnder
      ((d.pending x.other).foldl Message.idAfter (b.readingId k d x.other)))
    (y : Side) :
    Fits Message.idAfter Message.ReadUnder
      (b.readingId k (d.perform x answered e' statements ending sent) y)
      ((d.perform x answered e' statements ending sent).pending y) := by
  have hendpoint : ((d.perform x answered e' statements ending sent).endpoint y).sessionId =
      (d.endpoint y).sessionId := by
    by_cases hy : y = x
    · subst hy
      rw [Connection.endpoint, Connection.perform_party_same]
      exact hid
    · rw [Connection.endpoint, Connection.perform_party_other hy]
  rw [Progress.readingId_congr hendpoint]
  by_cases hy : y = x
  · subst hy
    rw [Connection.pending_perform_same]
    exact hown
  · rw [Connection.pending_perform_other hy, fits_append, Side.eq_other hy]
    refine ⟨h.inbox x.other, ?_⟩
    generalize (d.pending x.other).foldl Message.idAfter (b.readingId k d x.other) = id at hsent
    clear hendpoint
    induction sent with
    | nil => exact trivial
    | cons m sent ih =>
        obtain ⟨hplain, hread⟩ := hsent m List.mem_cons_self
        rw [fits_cons, Message.idAfter_of_plain hplain]
        exact ⟨hread, ih fun m' hm' => hsent m' (List.mem_cons_of_mem m hm')⟩

/-- The inboxes after a step of the handshake: the one of the server holds nothing that
requires a reply before the client gets the init reply. -/
theorem inbox_of_client
    (h : Handshake sessionIdentifier k b d)
    (hclient : Fits Message.idAfter Message.ReadUnder (b.readingId k d .client)
      (d.pending .client))
    (hserver : b.early = false → Fits Message.idAfter Message.ReadUnder
      (b.readingId k d .server) (d.pending .server))
    (y : Side) :
    Fits Message.idAfter Message.ReadUnder (b.readingId k d y) (d.pending y) := by
  cases y with
  | client => exact hclient
  | server =>
      cases hearly : b.early with
      | true => exact h.fits_server_early hearly _
      | false => exact hserver hearly

/-- A message that is not of the handshake is handled under the id it was sent under. -/
theorem handle
    (h : ReplyKeys k b d)
    {m : Message}
    (hstatements : (d.party x).statements = [.handle m])
    (hspare : b.running x = none)
    (hplain : m.body.Plain) :
    ReplyKeys k b
      (d.perform x (d.party x).handling (m.body.after (d.endpoint x)) [] (d.party x).ending
        (if (d.endpoint x).isOpen then m.replies (d.endpoint x) else [])) := by
  have hsent : ∀ m' ∈ (if (d.endpoint x).isOpen then m.replies (d.endpoint x) else []),
      m' ∈ m.replies (d.endpoint x) := by
    intro m' hm'
    split at hm'
    · exact hm'
    · cases hm'
  have hpending : d.pending x = m :: d.incoming x := by
    rw [Connection.pending, hstatements]
    rfl
  have hinbox := h.inbox x
  rw [hpending, fits_cons, Progress.readingId_of_idle hspare,
    Message.idAfter_of_plain hplain] at hinbox
  refine h.of_perform (fun m' hm' => absurd hm' List.not_mem_nil) ?_ ?_
  · refine h.inbox_of_quiet (Body.after_sessionId m.body _) ?_ ?_
    · rw [Progress.readingId_of_idle hspare]
      exact hinbox.2
    · intro m' hm'
      obtain ⟨hplain', hreply, _⟩ := Message.mem_replies (hsent m' hm')
      exact ⟨hplain', Message.readUnder_of_isReply hreply _⟩
  · intro m' hm' m'' hhandling
    have hsame : m = m'' := by
      rw [h.handling x m (by rw [hstatements]; exact List.mem_cons_self)] at hhandling
      exact Option.some.inj hhandling
    subst hsame
    obtain ⟨_, hreply, hid, hmessageId⟩ := Message.mem_replies (hsent m' hm')
    refine ⟨hreply, ?_, hmessageId, ?_⟩
    · intro hrequired
      rw [hid, hinbox.1 hplain hrequired]
    · refine h.sent x m ?_
      rw [hpending]
      exact List.mem_cons_self

/-- What is sent by the other threads meets the id it is sent under. -/
theorem speak
    (h : ReplyKeys k b d)
    (hat : Handshake sessionIdentifier k b d)
    {ending : Nat}
    {sent : List Message}
    (hplain : ∀ m ∈ sent, m.body.Plain)
    (hsessionId : ∀ m ∈ sent, m.sessionId = (d.endpoint x).sessionId)
    (hready : sent ≠ [] → (d.endpoint x).state = .sessionReady)
    (hshared : (∃ m ∈ sent, m.replyRequired = true) → d.Shared x) :
    ReplyKeys k b (d.perform x none (d.endpoint x) (d.party x).statements ending sent) := by
  refine h.of_perform (fun m hm => hm) ?_ (by rintro m hm m' ⟨⟩)
  refine h.inbox_of_quiet rfl (h.inbox x) ?_
  intro m hm
  refine ⟨hplain m hm, fun _ hrequired => ?_⟩
  rw [hat.finalId_of_shared (hready (List.ne_nil_of_mem hm)) (hshared ⟨m, hm, hrequired⟩)]
  exact hsessionId m hm

/-- The statements of the handshake hold no message to handle. -/
theorem not_handle_of_filterMap
    {statements : List Statement}
    (h : statements.filterMap Statement.message = [])
    {m : Message} :
    .handle m ∉ statements := by
  intro hm
  have hmem : m ∈ statements.filterMap Statement.message :=
    List.mem_filterMap.mpr ⟨.handle m, hm, rfl⟩
  rw [h] at hmem
  cases hmem

theorem step
    (h : ReplyKeys k b d)
    (hat : Handshake sessionIdentifier k b d)
    {cfg : Config}
    {a : Action}
    {d' : Dialogue}
    (hat' : Handshake sessionIdentifier k' b' d')
    (hmove : Handshake.Move cfg sessionIdentifier k b d a k' b' d')
    (htuned : d.Tuned cfg a) :
    ReplyKeys k' b' d' := by
  cases hmove with
  | start hidle hlog =>
      subst hidle
      have hnone : d.pending .client = [] := by
        refine List.eq_nil_iff_forall_not_mem.mpr fun m hm => ?_
        obtain ⟨e, he, _⟩ := h.sent .client m hm
        rw [hlog] at he
        cases he
      refine h.of_perform (fun m hm => hm) ?_ (by rintro m hm m' ⟨⟩)
      refine inbox_of_client hat' ?_ (by rintro ⟨⟩)
      rw [Connection.pending_perform_same]
      change Fits _ _ _ (d.pending .client)
      rw [hnone]
      exact trivial
  | takeStart hcalled hidle hincoming =>
      subst hcalled
      refine h.of_take hidle hincoming (inbox_of_client hat' ?_ (by rintro ⟨⟩))
      exact h.inbox .client
  | @answer st rest fullId hanswering =>
      subst hanswering
      have hnext : Answering { k with fullId := fullId } sessionIdentifier
          ((st.after (d.endpoint .server)).2 ++ rest) _ _ := hat'.server
      refine h.of_perform (fun m hm => ?_) ?_ (fun m hm => absurd hm List.not_mem_nil)
      · exact absurd hm (not_handle_of_filterMap hnext.filterMap_message)
      · refine inbox_of_client hat' ?_ (by rintro ⟨⟩)
        rw [Connection.pending_perform_other (by decide), List.append_nil]
        exact h.inbox .client
  | reply hanswering hopen =>
      subst hanswering
      refine h.of_perform (fun m hm => absurd hm List.not_mem_nil) ?_ ?_
      · refine inbox_of_client hat' ?_ (by rintro ⟨⟩)
        rw [Connection.pending_perform_other (by decide), fits_append]
        exact ⟨h.inbox .client, Message.readUnder_of_opens rfl _, trivial⟩
      · intro m hm m' hsame
        cases hsame
        rw [List.mem_singleton.mp hm]
        have hreply : (k.initReply sessionIdentifier).isReply = true := by
          simp [Message.isReply, HandshakeIds.initReply, Body.flags]
        exact ⟨hreply, fun _ => rfl, rfl, _, hat.initStart_of_begun Progress.noConfusion, rfl, rfl⟩
  | silence hanswering hclosed =>
      subst hanswering
      refine h.of_perform (fun m hm => absurd hm List.not_mem_nil) ?_
        (fun m hm => absurd hm List.not_mem_nil)
      refine inbox_of_client hat' ?_ (by rintro ⟨⟩)
      rw [Connection.pending_perform_other (by decide), List.append_nil]
      exact h.inbox .client
  | @takeReply rest hanswered hidle hincoming =>
      subst hanswered
      have hinbox := h.inbox .client
      have hpending : d.pending .client = k.initReply sessionIdentifier ::
          (d.take .client (k.initReply sessionIdentifier) rest).pending .client := by
        rw [Connection.pending, hidle, hincoming]
        rfl
      rw [hpending, fits_cons] at hinbox
      refine h.of_take hidle hincoming (inbox_of_client hat' hinbox.2 fun _ => ?_)
      exact h.inbox .server
  | @accept st rest b' haccepting hnext =>
      subst haccepting
      have hold : Accepting k sessionIdentifier (st :: rest) (d.endpoint .client) := hat.client.1
      have hmessage : ((st.after (d.endpoint .client)).2 ++ rest).filterMap Statement.message =
          [] := by
        rcases hnext with rfl | ⟨_, hnil⟩
        · exact Accepting.filterMap_message hat'.client.1
        · rw [hnil]
          rfl
      refine h.of_perform (fun m hm => absurd hm (not_handle_of_filterMap hmessage)) ?_
        (fun m hm => absurd hm List.not_mem_nil)
      have hinbox := h.inbox .client
      rw [Connection.pending, hat.running .client _ rfl, hold.filterMap_message] at hinbox
      refine inbox_of_client hat' ?_ fun _ => ?_
      · rw [Connection.pending_perform_same, hmessage]
        rcases hnext with rfl | ⟨rfl, _⟩
        · exact hinbox
        · have hid : Progress.accepted.readingId k (d.perform .client (d.party .client).handling
              (st.after (d.endpoint .client)).1 ((st.after (d.endpoint .client)).2 ++ rest)
              (d.party .client).ending []) .client = k.fullId := hat'.client.2.1.sessionId
          rw [hid]
          exact hinbox
      · rw [Connection.pending_perform_other (by decide), List.append_nil]
        have hsame : b'.readingId k (d.perform .client (d.party .client).handling
            (st.after (d.endpoint .client)).1 ((st.after (d.endpoint .client)).2 ++ rest)
            (d.party .client).ending []) .server = (d.endpoint .server).sessionId := by
          rcases hnext with rfl | ⟨rfl, _⟩
          · rfl
          · rfl
        rw [hsame]
        exact h.inbox .server
  | @take x m rest hidle hincoming hplain =>
      refine h.of_take hidle hincoming fun y => ?_
      have hid : ((d.take x m rest).endpoint y).sessionId = (d.endpoint y).sessionId := by
        rw [Connection.endpoint, Connection.take_core]
      rw [Progress.readingId_congr hid, Connection.pending_take hidle hincoming hplain]
      exact h.inbox y
  | @drop x m rest hidle hincoming hplain hclosed =>
      have hpending := Connection.pending_drop hidle hincoming
      have hother : ∀ y, y ≠ x → (d.drop x rest).pending y = d.pending y :=
        fun y hy => Connection.pending_drop_other hy
      refine ⟨fun y => ?_, h.handling, fun y m' hm' => ?_, h.log⟩
      · change Fits _ _ (b.readingId k d y) _
        by_cases hy : y = x
        · subst hy
          have hinbox := h.inbox y
          rw [hpending, fits_cons, Message.idAfter_of_plain hplain] at hinbox
          exact hinbox.2
        · rw [hother y hy]
          exact h.inbox y
      · refine h.sent y m' ?_
        by_cases hy : y = x
        · subst hy
          rw [hpending]
          exact List.mem_cons_of_mem m hm'
        · rw [← hother y hy]
          exact hm'
  | handle hstatements hspare hplain => exact h.handle hstatements hspare hplain
  | @call x c sent hspeaks =>
      refine h.speak hat (fun m hm => (hspeaks.spoken m hm).plain) hspeaks.sessionId
        (fun hne => (hspeaks.ready hne).1) ?_
      rintro ⟨m, hm, hrequired⟩
      have hflag : m.body.flags &&& 0x1 ≠ 0 := by
        simpa [Message.replyRequired] using hrequired
      exact htuned (hspeaks.ready (List.ne_nil_of_mem hm)).1 ((hspeaks.spoken m hm).required hflag)
  | @close x replyExpected messageId =>
      have hsent : ∀ m ∈ (if (d.endpoint x).state = .sessionReady ∧
          (d.endpoint x).isOpen = true then
            [Message.mk (d.endpoint x).sessionId messageId (.sessionCloseStart replyExpected)]
          else []), (d.endpoint x).state = .sessionReady ∧
            m = ⟨(d.endpoint x).sessionId, messageId, .sessionCloseStart replyExpected⟩ := by
        intro m hm
        split at hm
        · rename_i hready
          exact ⟨hready.1, List.mem_singleton.mp hm⟩
        · cases hm
      refine h.speak hat (fun m hm => ?_) (fun m hm => ?_) (fun hne => ?_) ?_
      · rw [(hsent m hm).2]
        rfl
      · rw [(hsent m hm).2]
      · obtain ⟨m, hm⟩ := List.exists_mem_of_ne_nil _ hne
        exact (hsent m hm).1
      · rintro ⟨m, hm, hrequired⟩
        obtain ⟨hready, hm'⟩ := hsent m hm
        refine htuned hready ?_
        cases replyExpected with
        | true => rfl
        | false =>
            simp [hm', Message.replyRequired, Body.flags] at hrequired
  | endClose hending =>
      refine h.of_perform (fun m hm => hm) ?_ (fun m hm => absurd hm List.not_mem_nil)
      refine h.inbox_of_quiet (SessionEndpoint.stop_sessionId _) (h.inbox _) ?_
      exact fun m hm => absurd hm List.not_mem_nil

end ReplyKeys

/-- Before the start nothing is on its way. -/
theorem ReplyKeys.of_initial
    {st : Connection Peer}
    (h : st.Initial)
    (k : HandshakeIds) :
    ReplyKeys k .idle st.view := by
  have hpending : ∀ x, st.view.pending x = [] := by
    intro x
    change ((st.party x).statements.filterMap _) ++ st.incoming x = []
    rw [h.statements x, h.incoming x]
    rfl
  constructor
  · intro x
    rw [hpending]
    exact trivial
  · intro x m hm
    change _ ∈ (st.party x).statements at hm
    rw [h.statements x] at hm
    cases hm
  · intro x m hm
    rw [hpending] at hm
    cases hm
  · intro e he
    change e ∈ st.log at he
    rw [h.log] at he
    cases he

/-- The invariant holds along every run in which what requires a reply is sent under a
shared id. -/
theorem replyKeys_of_reaches
    {cfg : Config}
    {sessionIdentifier : Bytes}
    (hlen : sessionIdentifier.length ≤ 64000)
    {st : Connection Peer}
    (h : (connection cfg sessionIdentifier).Reaches (fun st a => Dialogue.Tuned cfg st.view a) st) :
    ∃ k b, Handshake sessionIdentifier k b st.view ∧ ReplyKeys k b st.view := by
  refine dialogue_invariant (Dialogue.Tuned cfg)
    (fun d => ∃ k b, Handshake sessionIdentifier k b d ∧ ReplyKeys k b d) hlen ?_ ?_ h
  · intro st hinit
    exact ⟨⟨0, 0, 0⟩, .idle, Handshake.of_initial hinit sessionIdentifier _,
      ReplyKeys.of_initial hinit _⟩
  · rintro d a d' ⟨k, b, hat, hkeys⟩ htuned hstep
    obtain ⟨k', b', hmove, hat'⟩ := hat.step hstep
    exact ⟨k', b', hat', hkeys.step hat hat' hmove htuned⟩

/-- In every run in which what requires a reply is sent under an id that the other side
holds when it gets there, every reply carries the key under which the message it answers
is awaited. -/
theorem reply_agreement
    {cfg : Config}
    {sessionIdentifier : Bytes}
    (hlen : sessionIdentifier.length ≤ 64000)
    {st : Connection Peer}
    (h : (connection cfg sessionIdentifier).Reaches (fun st a => Dialogue.Tuned cfg st.view a) st) :
    ∀ e ∈ st.log, ∀ m, e.answered = some m → e.Matches m st.log := by
  obtain ⟨k, b, _, hkeys⟩ := replyKeys_of_reaches hlen h
  exact hkeys.log

/-- The client sends a heartbeat, and the server replies under its key. -/
theorem reply_agreement_heartbeat :
    ∃ st, (connection Config.default [7]).exec openedConnection
        [.call .client .heartbeat, .receive .server, .statement .server] = some st ∧
      st.log.length = 4 ∧ ∀ e ∈ st.log, ∀ m, e.answered = some m → e.Matches m st.log := by
  have hopened : (connection Config.default [7]).Reaches
      (fun st a => Dialogue.Tuned Config.default st.view a) openedConnection := by
    refine .of_exec (.init init_freshConnection)
      (TransitionSystem.execAllowed_of_forall ?_ _) exec_handshakeActions
    intro a ha _
    cases a with
    | call x c => simp [handshakeActions] at ha
    | close x replyExpected => simp [handshakeActions] at ha
    | _ => exact trivial
  have hexec : ∃ st, (connection Config.default [7]).exec openedConnection
      [.call .client .heartbeat, .receive .server, .statement .server] = some st ∧
        st.log.length = 4 := ⟨_, rfl, rfl⟩
  obtain ⟨st, hst, hlog⟩ := hexec
  refine ⟨st, hst, hlog, ?_⟩
  refine reply_agreement (by decide) (hopened.of_exec ?_ hst)
  exact ⟨fun _ _ => Or.inl rfl, fun _ _ => ⟨trivial, fun _ _ => ⟨trivial, fun _ _ => trivial⟩⟩⟩

end SakuraNetwork

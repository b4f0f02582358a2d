import SakuraNetwork.Exchange

/-!
# Sessions the applications know

An application learns of a session in its create callback, in which it sets the other
callbacks of the session.  On the server a session is ready before the init reply message is
sent, so that its data can reach a client that does not know the session yet.  Otherwise data
only reach an application that does.

* `Connection.Announced`: the server hands over no data before its init reply message.
* `Foretold`: the invariant of the messages on their way to the client.
* `CreatedFirst`, `Introduced`: no data callback before the create callback.
-/

namespace SakuraNetwork

open Lib

/-- The server hands over no data while it is ready and its init reply message is not sent. -/
def Connection.Announced
    {σ : Type}
    [HasState σ]
    (st : Connection σ) : Action → Prop
  | .call .server c => c.sendOperation.isSome = true →
      HasState.state (st.party .server).core = .sessionReady →
        ∃ e ∈ st.log, e.sender = .server ∧ e.message.body.opensSession = true
  | _ => True

/-- The calls that are looked at: the server announces its data, and no call hands over more
than a multi-block message holds. -/
def Connection.Permits (st : Connection Peer) (a : Action) : Prop :=
  st.Announced a ∧ a.Sized

/-- Behind the init reply message the server may call what it likes. -/
theorem Connection.announced_of_log
    {σ : Type}
    [HasState σ]
    {st : Connection σ}
    (h : ∃ e ∈ st.log, e.sender = .server ∧ e.message.body.opensSession = true)
    (a : Action) :
    st.Announced a := by
  cases a with
  | call x c =>
      cases x with
      | client => exact trivial
      | server => exact fun _ _ => h
  | _ => exact trivial

/-- The same where the server has handled all messages it has taken. -/
theorem Handshake.announced_of_idle
    {sessionIdentifier : Bytes}
    {k : HandshakeIds}
    {b : Progress}
    {d : Dialogue}
    (hat : Handshake sessionIdentifier k b d)
    (hidle : (d.party .server).statements = [])
    (a : Action) :
    d.Announced a := by
  cases a with
  | call x c =>
      cases x with
      | client => exact trivial
      | server =>
          intro _ hstate
          have hready : (d.endpoint .server).state = .sessionReady := hstate
          have hreply : ⟨.server, some (k.initStart sessionIdentifier),
              k.initReply sessionIdentifier⟩ ∈ b.opened k sessionIdentifier →
                ∃ e ∈ d.log, e.sender = .server ∧ e.message.body.opensSession = true := by
            intro hmem
            rw [← hat.opened] at hmem
            exact ⟨_, List.mem_of_mem_filter hmem, rfl, rfl⟩
          have hserver := hat.server
          cases b with
          | idle => cases hready.symm.trans hserver.1
          | called => cases hready.symm.trans hserver.1
          | unanswered => cases hready.symm.trans hserver.2.1
          | answering rest => cases hat.running_of_idle hidle
          | _ => exact hreply (List.mem_cons_of_mem _ List.mem_cons_self)
  | _ => exact trivial

/-- The other calls of the server send no part of a parcel. -/
def Dialogue.Spares (d : Dialogue) (a : Action) (d' : Dialogue) : Prop :=
  ∀ c, a = .call .server c → c.sendOperation = none →
    ∃ more : List Message, d'.incoming .client = d.incoming .client ++ more ∧
      ∀ m ∈ more, m.body.carries = false

/-- The data on their way to the client stand behind the init reply message, and a client
that was started and is not closing or ready any more has been ready. -/
structure Foretold (b : Progress) (d : Dialogue) : Prop where
  behind : b.early = true → BehindHandshake Body.carries (d.pending .client)
  wasReady : b ≠ .idle → (d.endpoint .client).Started → (d.party .client).wasReady = true

/-! ## The messages on their way to the client -/

theorem SessionEndpoint.Quiet.started_before
    {e e' : SessionEndpoint}
    (h : e.Quiet e')
    (hstarted : e'.Started) :
    e.Started := by
  rcases h.state with ⟨hsame, _⟩ | ⟨hready, _⟩
  · rw [SessionEndpoint.Started, ← hsame]
    exact hstarted
  · exact Or.inl hready

/-- A session is ready after a statement only if the statement makes it ready, or it was. -/
theorem Statement.started_after
    {st : Statement}
    {e : SessionEndpoint}
    (h : (st.after e).1.Started) :
    (st.after e).1.state = .sessionReady ∨ e.Started := by
  cases st with
  | connectiSession sessionId =>
      simp only [Statement.after] at h ⊢
      split at h
      · rename_i hfirst
        exact Or.inr (Or.inr hfirst)
      · exact Or.inr h
  | makeSessionReady sessionId sessionIdentifier =>
      simp only [Statement.after] at h ⊢
      split
      · exact Or.inl rfl
      · rename_i hfirst
        rw [if_neg hfirst] at h
        exact Or.inr h
  | _ => exact Or.inr h

namespace Foretold

variable {cfg : Config} {sessionIdentifier : Bytes} {k k' : HandshakeIds} {b b' : Progress}
  {d d' : Dialogue} {a : Action}

theorem of_initial
    {st : Connection Peer}
    (h : st.Initial) :
    Foretold .idle st.view := by
  constructor
  · intro _
    refine behind_of_forall fun m hm => ?_
    change m ∈ (st.party .client).statements.filterMap _ ++ st.incoming .client at hm
    rw [h.statements, h.incoming] at hm
    cases hm
  · exact fun hidle => absurd rfl hidle

/-- One side takes a step in which the handshake stays where it is. -/
theorem of_perform
    (h : Foretold b d)
    {x : Side}
    {answered : Option Message}
    {e' : SessionEndpoint}
    {statements : List Statement}
    {ending : Nat}
    {sent : List Message}
    (hbegun : x = .server → b' ≠ .idle → b ≠ .idle)
    (hearly : b'.early = true → b.early = true)
    (hown : x = .client → b.early = true →
      BehindHandshake Body.carries (statements.filterMap Statement.message ++ d.incoming .client))
    (hsent : x = .server → b.early = true → (∀ m ∈ sent, m.body.carries = false) ∨
      ∃ m ∈ d.pending .client, m.body.opensSession = true)
    (hstarted : x = .client → b' ≠ .idle → e'.Started →
      e'.state = .sessionReady ∨ b ≠ .idle ∧ (d.endpoint .client).Started) :
    Foretold b' (d.perform x answered e' statements ending sent) := by
  constructor
  · intro hearly'
    cases x with
    | client =>
        rw [Connection.pending_perform_same]
        exact hown rfl (hearly hearly')
    | server =>
        rw [Connection.pending_perform_other (by decide)]
        exact behind_append (h.behind (hearly hearly')) (hsent rfl (hearly hearly'))
  · intro hbegun' hstate
    cases x with
    | client =>
        rw [Connection.endpoint, Connection.perform_party_same] at hstate
        rw [Connection.perform_party_same, Bool.or_eq_true]
        rcases hstarted rfl hbegun' hstate with hready | ⟨hbefore, hold⟩
        · exact Or.inr (decide_eq_true hready)
        · exact Or.inl (h.wasReady hbefore hold)
    | server =>
        rw [Connection.endpoint, Connection.perform_party_other (by decide)] at hstate
        rw [Connection.perform_party_other (by decide)]
        exact h.wasReady (hbegun rfl hbegun') hstate

/-- The receive thread of a side takes the next message, or drops it. -/
theorem of_taken
    (h : Foretold b d)
    (hbegun : b' ≠ .idle → b ≠ .idle)
    (hbehind : b'.early = true → BehindHandshake Body.carries (d'.pending .client))
    (hendpoint : d'.endpoint .client = d.endpoint .client)
    (hwas : (d'.party .client).wasReady = (d.party .client).wasReady) :
    Foretold b' d' := by
  refine ⟨hbehind, fun hbegun' hstate => ?_⟩
  rw [hendpoint] at hstate
  rw [hwas]
  exact h.wasReady (hbegun hbegun') hstate

/-- Every step of the dialogue keeps the order of the messages. -/
theorem step
    (h : Foretold b d)
    (hat : Handshake sessionIdentifier k b d)
    (hmove : Handshake.Move cfg sessionIdentifier k b d a k' b' d')
    (hannounced : d.Announced a)
    (hspares : d.Spares a d') :
    Foretold b' d' := by
  have hsame : b ≠ .idle → b ≠ .idle := fun hb => hb
  cases hmove with
  | start hidle hlog =>
      subst hidle
      refine h.of_perform (by rintro ⟨⟩) (fun _ => rfl) (fun _ => h.behind) (by rintro ⟨⟩) ?_
      rintro _ _ (hready | hclosed)
      · cases hready
      · cases hclosed
  | takeStart hcalled hidle hincoming =>
      subst hcalled
      refine h.of_taken (fun _ => Progress.noConfusion) (fun _ => ?_) Connection.take_core
        Connection.take_wasReady
      have hpending := h.behind rfl
      rw [Connection.pending] at hpending ⊢
      rw [Connection.take_party_other (by decide)]
      exact hpending
  | answer hanswering =>
      subst hanswering
      exact h.of_perform (fun _ _ => Progress.noConfusion) (fun _ => rfl) (by rintro ⟨⟩)
        (fun _ _ => Or.inl fun m hm => absurd hm List.not_mem_nil) (by rintro ⟨⟩)
  | reply hanswering hopen =>
      subst hanswering
      refine h.of_perform (fun _ _ => Progress.noConfusion) (fun _ => rfl) (by rintro ⟨⟩)
        (fun _ _ => Or.inl fun m hm => ?_) (by rintro ⟨⟩)
      rw [List.mem_singleton.mp hm]
      rfl
  | silence hanswering hclosed =>
      subst hanswering
      exact h.of_perform (fun _ _ => Progress.noConfusion) (fun _ => rfl) (by rintro ⟨⟩)
        (fun _ _ => Or.inl fun m hm => absurd hm List.not_mem_nil) (by rintro ⟨⟩)
  | takeReply hanswered hidle hincoming =>
      subst hanswered
      exact h.of_taken (fun _ => Progress.noConfusion) (by rintro ⟨⟩) Connection.take_core
        Connection.take_wasReady
  | @accept st rest _ haccepting hnext =>
      subst haccepting
      have hlate : b'.early = true → False := by
        rcases hnext with rfl | ⟨rfl, _⟩
        · rintro ⟨⟩
        · rintro ⟨⟩
      refine h.of_perform (by rintro ⟨⟩) (fun hearly => (hlate hearly).elim) (by rintro _ ⟨⟩)
        (by rintro ⟨⟩) fun _ _ hstarted => ?_
      exact (Statement.started_after hstarted).imp_right fun hold =>
        ⟨Progress.noConfusion, hold⟩
  | @take x m rest hidle hincoming hplain =>
      refine h.of_taken hsame (fun hearly => ?_) Connection.take_core Connection.take_wasReady
      rw [Connection.pending_take hidle hincoming hplain]
      exact h.behind hearly
  | @drop x m rest hidle hincoming hplain hclosed =>
      refine h.of_taken hsame (fun hearly => ?_) rfl rfl
      have hbehind := h.behind hearly
      cases x with
      | client =>
          rw [Connection.pending_drop hidle hincoming] at hbehind
          exact (behind_cons hbehind hplain).2
      | server =>
          rw [Connection.pending_drop_other (by decide)]
          exact hbehind
  | @handle x m hstatements hspare hplain =>
      have hquiet : (d.endpoint x).Quiet (m.body.after (d.endpoint x)) := by
        refine hat.quiet_after hspare ?_
        rw [Connection.pending, hstatements]
        exact List.mem_append_left _ List.mem_cons_self
      refine h.of_perform (fun _ => hsame) (fun hearly => hearly) ?_ (fun _ _ => Or.inl ?_) ?_
      · rintro rfl hearly
        have hbehind := h.behind hearly
        rw [Connection.pending, hstatements] at hbehind
        exact (behind_cons hbehind hplain).2
      · intro m' hm'
        split at hm'
        · obtain ⟨body, hbody, rfl⟩ := List.mem_map.mp hm'
          exact Body.carries_of_reply (Option.mem_toList.mp hbody)
        · cases hm'
      · rintro rfl hbegun hstarted
        exact Or.inr ⟨hbegun, hquiet.started_before hstarted⟩
  | @call x c sent hspeaks =>
      refine h.of_perform (fun _ => hsame) (fun hearly => hearly) ?_ ?_ ?_
      · rintro rfl hearly
        exact h.behind hearly
      · rintro rfl hearly
        cases hop : c.sendOperation with
        | none =>
            obtain ⟨more, hmore, hcarries⟩ := hspares c rfl hop
            rw [Connection.perform_incoming_other (by decide)] at hmore
            rw [List.append_cancel_left hmore]
            exact Or.inl hcarries
        | some op =>
            by_cases hsent : sent = []
            · rw [hsent]
              exact Or.inl fun m hm => absurd hm List.not_mem_nil
            · -- the init reply message was sent, and the client has yet to take it
              obtain ⟨e, he, hsender, hopens⟩ :=
                hannounced (by rw [hop]; rfl) (hspeaks.ready hsent).1
              have hopened : e ∈ b.opened k sessionIdentifier := by
                rw [← hat.opened]
                exact List.mem_filter.mpr ⟨he, hopens⟩
              have hclient : ∀ {m : Message}, e ≠ ⟨.client, none, m⟩ := by
                rintro m rfl
                cases hsender
              cases b with
              | idle => cases hopened
              | answered => exact Or.inr ⟨_, hat.initReply_mem_pending, rfl⟩
              | accepting rest => cases hearly
              | accepted => cases hearly
              | _ => exact absurd (List.mem_singleton.mp hopened) hclient
      · rintro rfl hbegun hstarted
        exact Or.inr ⟨hbegun, hstarted⟩
  | @close x replyExpected messageId =>
      refine h.of_perform (fun _ => hsame) (fun hearly => hearly) ?_ (fun _ _ => Or.inl ?_) ?_
      · rintro rfl hearly
        exact h.behind hearly
      · intro m hm
        split at hm
        · rw [List.mem_singleton.mp hm]
          rfl
        · cases hm
      · rintro rfl hbegun hstarted
        exact Or.inr ⟨hbegun, hstarted⟩
  | @endClose x hending =>
      refine h.of_perform (fun _ => hsame) (fun hearly => hearly) ?_
        (fun _ _ => Or.inl fun m hm => absurd hm List.not_mem_nil) ?_
      · rintro rfl hearly
        exact h.behind hearly
      · rintro rfl hbegun hstarted
        exact Or.inr ⟨hbegun, (SessionEndpoint.quiet_stop _).started_before hstarted⟩

/-- Data are no reply. -/
theorem not_isReply_of_carries
    {m : Message}
    (h : m.body.carries = true) :
    m.isReply = false := by
  obtain ⟨sessionId, messageId, body⟩ := m
  have hflag : (1 &&& 2 : UInt8) = 0 := by decide
  cases body with
  | stream replyExpected data =>
      cases replyExpected <;> simp [Message.isReply, Body.flags, hflag]
  | singleBlock => exact Message.isReply_singleBlock _ _ _ _ _
  | multiStatic => exact Message.isReply_multiStatic _ _ _ _ _ _ _ _
  | multiFinish => exact Message.isReply_multiFinish _ _ _ _
  | _ => cases h

/-- A side that handles data has been ready, and does nothing else. -/
theorem wasReady_of_carries
    (h : Foretold b d)
    (hat : Handshake sessionIdentifier k b d)
    {x : Side}
    {m : Message}
    {rest : List Statement}
    (hstatements : (d.party x).statements = .handle m :: rest)
    (hcarries : m.body.carries = true) :
    (d.party x).wasReady = true ∧ Spare (d.party x).statements := by
  obtain ⟨hspare, rfl⟩ := hat.running_of_handle hstatements
  refine ⟨?_, hat.spare x hspare⟩
  have hplain : m.body.Plain := by
    rcases hat.spare x hspare with hnil | ⟨m', hm', hplain⟩
    · rw [hnil] at hstatements
      cases hstatements
    · rw [hm'] at hstatements
      cases hstatements
      exact hplain
  have hpending : d.pending x = m :: d.incoming x := by
    rw [Connection.pending, hstatements]
    rfl
  cases x with
  | client =>
      have hnot : b.early = true → False := by
        intro hearly
        have hbehind := h.behind hearly
        rw [hpending] at hbehind
        rw [(behind_cons hbehind hplain).1] at hcarries
        cases hcarries
      cases b with
      | accepting rest => cases hspare
      | accepted => exact h.wasReady Progress.noConfusion hat.client.1
      | _ => exact (hnot rfl).elim
  | server =>
      have hnot : b.early = true → False := by
        intro hearly
        rcases hat.replies hearly m (hpending ▸ List.mem_cons_self) with hopens | hreply
        · rw [hplain] at hopens
          cases hopens
        · rw [not_isReply_of_carries hcarries] at hreply
          cases hreply
      have hserver := hat.server
      cases b with
      | accepting rest => exact hserver.1
      | accepted => exact hserver.1
      | _ => exact (hnot rfl).elim

end Foretold

/-! ## The create callback -/

/-- The receive thread of a side has yet to call the create callback. -/
def Dialogue.Creates (sessionIdentifier : Bytes) (d : Dialogue) (x : Side) : Prop :=
  ∃ id, .processCreateSession id sessionIdentifier ∈ (d.party x).statements

/-- The receive thread of a side calls the create callback next. -/
def Dialogue.CreatesNow (sessionIdentifier : Bytes) (d : Dialogue) (x : Side) : Prop :=
  ∃ id rest, (d.party x).statements = .processCreateSession id sessionIdentifier :: rest

/-- A thread that is not in the handshake does not call it. -/
theorem Spare.not_creates
    {sessionIdentifier : Bytes}
    {d : Dialogue}
    {x : Side}
    (h : Spare (d.party x).statements) :
    ¬ d.Creates sessionIdentifier x := by
  rintro ⟨id, hid⟩
  rcases h with hnil | ⟨m, hm, _⟩
  · rw [hnil] at hid
    cases hid
  · rw [hm] at hid
    cases List.mem_singleton.mp hid

/-- What a step means for a side that has been ready: it has yet to call the create
callback, or it had not, or it calls it. -/
def Dialogue.CreateStep
    (sessionIdentifier : Bytes)
    (d : Dialogue)
    (a : Action)
    (d' : Dialogue)
    (x : Side) : Prop :=
  d'.Creates sessionIdentifier x ∨
    ((d.party x).wasReady = true ∧ ¬ d.Creates sessionIdentifier x) ∨
      a = .statement x ∧ d.CreatesNow sessionIdentifier x

section Create

variable {cfg : Config} {sessionIdentifier : Bytes} {k k' : HandshakeIds} {b b' : Progress}
  {d d' : Dialogue} {a : Action}

/-- A statement of the server leaves the create callback to be called, or calls it, or was
none of those before it. -/
theorem Answering.creates
    {st : Statement}
    {rest : List Statement}
    {e : SessionEndpoint}
    {w : Bool}
    (h : Answering k sessionIdentifier (st :: rest) e w)
    (hwas : (w || decide ((st.after e).1.state = .sessionReady)) = true) :
    (∃ id, .processCreateSession id sessionIdentifier ∈ (st.after e).2 ++ rest) ∨
      (w = true ∧ ∀ id, .processCreateSession id sessionIdentifier ∉ st :: rest) ∨
        ∃ id, st = .processCreateSession id sessionIdentifier := by
  have hnot : e.state ≠ .sessionReady → (w || decide (e.state = .sessionReady)) = true →
      w = true := by
    intro hstate hor
    rwa [decide_eq_false hstate, Bool.or_false] at hor
  cases h with
  | draw hstate hopen =>
      refine Or.inr (Or.inl ⟨hnot (by rw [hstate]; exact SessionState.noConfusion) hwas, ?_⟩)
      simp
  | register hstate hopen hmade =>
      refine Or.inr (Or.inl ⟨hnot (by rw [hstate]; exact SessionState.noConfusion) hwas, ?_⟩)
      simp [HandshakeIds.lastStatement]
  | connect hstate hopen hmade =>
      refine Or.inr (Or.inl ⟨?_, ?_⟩)
      · simpa [Statement.after, hstate, SessionEndpoint.connect] using hwas
      · simp [HandshakeIds.lastStatement]
  | ready hstate hid hmade =>
      refine Or.inl ⟨k.fullId, ?_⟩
      simp [Statement.after, hstate]
  | assignId hstate hid hmade => exact Or.inl ⟨k.fullId, by simp⟩
  | assignIdentifier hstate hid hmade => exact Or.inl ⟨k.fullId, by simp⟩
  | create hstate hsettled hmade => exact Or.inr (Or.inr ⟨k.fullId, rfl⟩)
  | release hstate hsettled hmade =>
      refine Or.inr (Or.inl ⟨rfl, ?_⟩)
      simp [HandshakeIds.lastStatement]
  | reply hstate hsettled hmade =>
      refine Or.inr (Or.inl ⟨rfl, ?_⟩)
      simp [HandshakeIds.lastStatement]

/-- The same of the client, which has been ready where its session is. -/
theorem Accepting.creates
    {st : Statement}
    {rest : List Statement}
    {e : SessionEndpoint}
    {w : Bool}
    (h : Accepting k sessionIdentifier (st :: rest) e)
    (hready : e.Started → w = true)
    (hwas : (w || decide ((st.after e).1.state = .sessionReady)) = true) :
    (∃ id, .processCreateSession id sessionIdentifier ∈ (st.after e).2 ++ rest) ∨
      (w = true ∧ ∀ id, .processCreateSession id sessionIdentifier ∉ st :: rest) ∨
        ∃ id, st = .processCreateSession id sessionIdentifier := by
  have hnot : e.state = .sessionNotReady → (w || decide (e.state = .sessionReady)) = true →
      w = true := by
    intro hstate hor
    rwa [hstate, decide_eq_false SessionState.noConfusion, Bool.or_false] at hor
  cases h with
  | removeMessage hstate => exact Or.inr (Or.inl ⟨hnot hstate hwas, by simp⟩)
  | removeSession hstate => exact Or.inr (Or.inl ⟨hnot hstate hwas, by simp⟩)
  | register hstate => exact Or.inr (Or.inl ⟨hnot hstate hwas, by simp⟩)
  | ready hstate =>
      refine Or.inl ⟨k.fullId, ?_⟩
      simp [Statement.after, hstate]
  | assignId hstate => exact Or.inl ⟨k.fullId, by simp⟩
  | assignIdentifier hstate hid => exact Or.inl ⟨k.fullId, by simp⟩
  | create hstate hsettled => exact Or.inr (Or.inr ⟨k.fullId, rfl⟩)
  | release hstate hsettled => exact Or.inr (Or.inl ⟨hready hstate, by simp⟩)

/-- A ready side has been ready. -/
theorem Foretold.wasReady_of_ready
    (h : Foretold b d)
    (hat : Handshake sessionIdentifier k b d)
    {x : Side}
    (hready : (d.endpoint x).state = .sessionReady) :
    (d.party x).wasReady = true := by
  cases x with
  | client =>
      refine h.wasReady ?_ (Or.inl hready)
      rintro rfl
      cases hready.symm.trans hat.client
  | server =>
      have hserver := hat.server
      cases b with
      | idle => cases hready.symm.trans hserver.1
      | called => cases hready.symm.trans hserver.1
      | answering rest =>
          change Answering k sessionIdentifier rest _ _ at hserver
          generalize (d.party .server).wasReady = w at hserver ⊢
          cases hserver with
          | draw hstate => cases hready.symm.trans hstate
          | register hstate => cases hready.symm.trans hstate
          | connect hstate => cases hready.symm.trans hstate
          | ready hstate => cases hready.symm.trans hstate
          | _ => rfl
      | _ => exact hserver.1

/-- A session that is at most closed does not become ready. -/
theorem Foretold.wasReady_of_perform
    (h : Foretold b d)
    (hat : Handshake sessionIdentifier k b d)
    {x : Side}
    {answered : Option Message}
    {e' : SessionEndpoint}
    {statements : List Statement}
    {ending : Nat}
    {sent : List Message}
    (hquiet : (d.endpoint x).Quiet e')
    (hwas : ((d.perform x answered e' statements ending sent).party x).wasReady = true) :
    (d.party x).wasReady = true := by
  rw [Connection.perform_party_same, Bool.or_eq_true] at hwas
  refine hwas.elim (fun hbefore => hbefore) fun hready => h.wasReady_of_ready hat ?_
  have hstate : e'.state = .sessionReady := of_decide_eq_true hready
  rcases hquiet.state with ⟨hsame, _⟩ | ⟨hbefore, _⟩
  · exact hsame.symm.trans hstate
  · exact hbefore

section Step

variable {x : Side}

/-- The thread of the side has run nothing. -/
theorem createStep_of_statements
    (hwas : (d.party x).wasReady = true)
    (hstatements : (d'.party x).statements = (d.party x).statements) :
    d.CreateStep sessionIdentifier a d' x := by
  by_cases hcreates : d.Creates sessionIdentifier x
  · obtain ⟨id, hid⟩ := hcreates
    exact Or.inl ⟨id, hstatements ▸ hid⟩
  · exact Or.inr (Or.inl ⟨hwas, hcreates⟩)

/-- The side has taken no step. -/
theorem createStep_of_party
    (hwas : (d'.party x).wasReady = true)
    (hparty : d'.party x = d.party x) :
    d.CreateStep sessionIdentifier a d' x :=
  createStep_of_statements (hparty ▸ hwas) (congrArg Party.statements hparty)

/-- The thread of the side is not in the handshake. -/
theorem createStep_of_spare
    (hwas : (d.party x).wasReady = true)
    (hspare : Spare (d.party x).statements) :
    d.CreateStep sessionIdentifier a d' x :=
  Or.inr (Or.inl ⟨hwas, hspare.not_creates⟩)

/-- The receive thread of a side takes a message. -/
theorem createStep_of_take
    {y : Side}
    {m : Message}
    {rest : List Message}
    (hwas : ((d.take y m rest).party x).wasReady = true)
    (hidle : (d.party y).statements = []) :
    d.CreateStep sessionIdentifier a (d.take y m rest) x := by
  by_cases hx : x = y
  · subst hx
    rw [Connection.take_wasReady] at hwas
    exact createStep_of_spare hwas (Or.inl hidle)
  · exact createStep_of_party hwas (Connection.take_party_other hx)

/-- The server runs its last statement. -/
theorem createStep_of_last
    (hat : Handshake sessionIdentifier k (.answering [k.lastStatement sessionIdentifier]) d)
    {answered : Option Message}
    {e' : SessionEndpoint}
    {ending : Nat}
    {sent : List Message}
    (hwas : ((d.perform .server answered e' [] ending sent).party x).wasReady = true) :
    d.CreateStep sessionIdentifier a (d.perform .server answered e' [] ending sent) x := by
  cases x with
  | client => exact createStep_of_party hwas (Connection.perform_party_other (by decide))
  | server =>
      have hserver : Answering k sessionIdentifier [k.lastStatement sessionIdentifier]
          (d.endpoint .server) (d.party .server).wasReady := hat.server
      refine Or.inr (Or.inl ⟨hserver.last.2.1, ?_⟩)
      rintro ⟨id, hid⟩
      rw [hat.running .server _ rfl] at hid
      cases List.mem_singleton.mp hid

/-- Another thread of a side takes a step in which its session is at most closed. -/
theorem createStep_of_quiet
    (h : Foretold b d)
    (hat : Handshake sessionIdentifier k b d)
    {y : Side}
    {answered : Option Message}
    {e' : SessionEndpoint}
    {ending : Nat}
    {sent : List Message}
    (hquiet : (d.endpoint y).Quiet e')
    (hwas : ((d.perform y answered e' (d.party y).statements ending sent).party x).wasReady =
      true) :
    d.CreateStep sessionIdentifier a
      (d.perform y answered e' (d.party y).statements ending sent) x := by
  by_cases hx : x = y
  · subst hx
    refine createStep_of_statements (h.wasReady_of_perform hat hquiet hwas) ?_
    rw [Connection.perform_party_same]
  · exact createStep_of_party hwas (Connection.perform_party_other hx)

end Step

/-- Every step is one of these for a side that has been ready. -/
theorem Foretold.creates
    (h : Foretold b d)
    (hat : Handshake sessionIdentifier k b d)
    (hmove : Handshake.Move cfg sessionIdentifier k b d a k' b' d')
    {x : Side}
    (hwas : (d'.party x).wasReady = true) :
    d.CreateStep sessionIdentifier a d' x := by
  have hperformed : ∀ {y : Side} {answered : Option Message} {e' : SessionEndpoint}
      {statements : List Statement} {ending : Nat} {sent : List Message},
      ((d.perform y answered e' statements ending sent).party y).wasReady = true →
        ((d.party y).wasReady || decide (e'.state = .sessionReady)) = true := by
    intro y answered e' statements ending sent hready
    rw [Connection.perform_party_same] at hready
    exact hready
  cases hmove with
  | start hidle hlog =>
      cases x with
      | client =>
          refine createStep_of_statements ?_ (by rw [Connection.perform_party_same])
          have hbefore := hperformed hwas
          rwa [decide_eq_false SessionState.noConfusion, Bool.or_false] at hbefore
      | server => exact createStep_of_party hwas (Connection.perform_party_other (by decide))
  | takeStart hcalled hidle hincoming => exact createStep_of_take hwas hidle
  | @answer st rest fullId hanswering =>
      subst hanswering
      cases x with
      | client => exact createStep_of_party hwas (Connection.perform_party_other (by decide))
      | server =>
          have hserver : Answering k sessionIdentifier (st :: rest) (d.endpoint .server)
              (d.party .server).wasReady := hat.server
          have hrunning := hat.running .server _ rfl
          rw [Dialogue.CreateStep, Dialogue.Creates, Dialogue.Creates, Dialogue.CreatesNow,
            hrunning, Connection.perform_party_same]
          refine (hserver.creates (hperformed hwas)).imp_right (Or.imp ?_ ?_)
          · rintro ⟨hbefore, hnone⟩
            exact ⟨hbefore, fun ⟨id, hid⟩ => hnone id hid⟩
          · rintro ⟨id, rfl⟩
            exact ⟨rfl, id, rest, rfl⟩
  | reply hanswering hopen =>
      subst hanswering
      exact createStep_of_last hat hwas
  | silence hanswering hclosed =>
      subst hanswering
      exact createStep_of_last hat hwas
  | takeReply hanswered hidle hincoming => exact createStep_of_take hwas hidle
  | @accept st rest _ haccepting hnext =>
      subst haccepting
      cases x with
      | server => exact createStep_of_party hwas (Connection.perform_party_other (by decide))
      | client =>
          have hclient : Accepting k sessionIdentifier (st :: rest) (d.endpoint .client) :=
            hat.client.1
          have hrunning := hat.running .client _ rfl
          rw [Dialogue.CreateStep, Dialogue.Creates, Dialogue.Creates, Dialogue.CreatesNow,
            hrunning, Connection.perform_party_same]
          refine (hclient.creates (h.wasReady Progress.noConfusion) (hperformed hwas)).imp_right
            (Or.imp ?_ ?_)
          · rintro ⟨hbefore, hnone⟩
            exact ⟨hbefore, fun ⟨id, hid⟩ => hnone id hid⟩
          · rintro ⟨id, rfl⟩
            exact ⟨rfl, id, rest, rfl⟩
  | take hidle hincoming hplain => exact createStep_of_take hwas hidle
  | drop hidle hincoming hplain hclosed => exact createStep_of_party hwas rfl
  | @handle y m hstatements hspare hplain =>
      by_cases hx : x = y
      · subst hx
        have hquiet : (d.endpoint x).Quiet (m.body.after (d.endpoint x)) := by
          refine hat.quiet_after hspare ?_
          rw [Connection.pending, hstatements]
          exact List.mem_append_left _ List.mem_cons_self
        exact createStep_of_spare (h.wasReady_of_perform hat hquiet hwas)
          (Or.inr ⟨m, hstatements, hplain⟩)
      · exact createStep_of_party hwas (Connection.perform_party_other hx)
  | call hspeaks => exact createStep_of_quiet h hat (SessionEndpoint.Quiet.refl _) hwas
  | close messageId => exact createStep_of_quiet h hat (SessionEndpoint.Quiet.refl _) hwas
  | endClose hending => exact createStep_of_quiet h hat (SessionEndpoint.quiet_stop _) hwas

end Create

/-! ## What the applications get -/

/-- The create callback was called before a callback got data. -/
def CreatedFirst (sessionIdentifier : Bytes) (events : List Event) : Prop :=
  Behind (fun e => e = .created sessionIdentifier) (fun e => ∃ parcel, e = .got parcel) events

/-- What the applications know of their sessions. -/
structure Introduced
    (sessionIdentifier : Bytes)
    (st : Connection Peer)
    (events : List (Side × Event)) : Prop where
  created : ∀ x, (st.party x).wasReady = true →
    .created sessionIdentifier ∈ eventsOf x events ∨
      Dialogue.Creates sessionIdentifier st.view x
  first : ∀ x, CreatedFirst sessionIdentifier (eventsOf x events)

theorem Connection.incoming_run_server
    {α : Type}
    (st : Connection Peer)
    (answered : Option Message)
    (f : SessionRef → Act α)
    (statements : α → List Statement)
    (ending : α → Nat) :
    (st.run .server answered f statements ending).incoming .client =
      st.incoming .client ++ Connection.sentOver (st.party .server).core.session
        ((f (st.party .server).core.session).run (st.party .server).core.process).outputs :=
  rfl

/-- The other calls of the server send no part of a parcel. -/
theorem spares_step
    {cfg : Config}
    {sessionIdentifier : Bytes}
    {st st' : Connection Peer}
    {a : Action}
    (hstep : (connection cfg sessionIdentifier).step st a = some st') :
    Dialogue.Spares st.view a st'.view := by
  rintro c rfl hop
  simp only [connection, Connection.step, Option.some.injEq] at hstep
  subst hstep
  have hincoming := Connection.incoming_run_server st none
    (fun s => (c.operation s).act cfg) (fun _ => (st.party .server).statements)
    (fun _ => (st.party .server).ending)
  exact ⟨_, hincoming, fun m hm => c.not_carries hop hm⟩

/-- A message that is handled is the next statement of the thread. -/
theorem statements_of_handled
    {d : Dialogue}
    {a : Action}
    {m : Message}
    (h : m ∈ a.handled d a.side) :
    ∃ rest, (d.party a.side).statements = .handle m :: rest := by
  cases a with
  | statement x =>
      rw [Action.handled, Action.side, if_pos rfl] at h
      rw [Action.side]
      cases hstatements : (d.party x).statements with
      | nil =>
          rw [hstatements] at h
          cases h
      | cons st rest =>
          rw [hstatements] at h
          obtain ⟨st', hst, hm⟩ := List.mem_filterMap.mp h
          obtain rfl := List.mem_singleton.mp hst
          cases st' with
          | handle m' =>
              cases hm
              exact ⟨rest, rfl⟩
          | _ => cases hm
  | _ => cases h

namespace Introduced

variable {cfg : Config} {sessionIdentifier : Bytes} {st st' : Connection Peer} {a : Action}
  {events : List (Side × Event)}

theorem of_initial (h : st.Initial) : Introduced sessionIdentifier st [] := by
  constructor
  · intro x hwas
    rw [h.wasReady x] at hwas
    cases hwas
  · exact fun x => behind_of_forall fun e he => absurd he List.not_mem_nil

/-- The create callback is called. -/
theorem created_of_events
    {x : Side}
    (hnow : Dialogue.CreatesNow sessionIdentifier st.view x) :
    .created sessionIdentifier ∈ st.events cfg sessionIdentifier (.statement x) := by
  obtain ⟨id, rest, hstatements⟩ := hnow
  have hthread : (st.party x).statements =
      .processCreateSession id sessionIdentifier :: rest := hstatements
  refine List.mem_append_left _ (List.mem_filterMap.mpr
    ⟨.processCreateSession (st.ref x) id sessionIdentifier, ?_, rfl⟩)
  simp [Connection.operation, Action.side, hthread, Statement.run, Act.run_bind]

/-- Every step keeps what the applications know, if data are only handled behind the
handshake. -/
theorem step
    {k k' : HandshakeIds}
    {b b' : Progress}
    (h : Introduced sessionIdentifier st events)
    (hforetold : Foretold b st.view)
    (hat : Handshake sessionIdentifier k b st.view)
    (hmove : Handshake.Move cfg sessionIdentifier k b st.view a k' b' st'.view)
    (hgot : ∀ parcel, .got parcel ∈ st.events cfg sessionIdentifier a →
      ∃ m ∈ a.handled st.view a.side, m.body.carries = true) :
    Introduced sessionIdentifier st'
      (events ++ (st.events cfg sessionIdentifier a).map (fun e => (a.side, e))) := by
  constructor
  · intro x hwas
    rw [eventsOf_append]
    rcases hforetold.creates hat hmove (x := x) hwas with hcreates | ⟨hbefore, hnone⟩ | ⟨rfl, hnow⟩
    · exact Or.inr hcreates
    · exact Or.inl (List.mem_append_left _ ((h.created x hbefore).resolve_right hnone))
    · rw [show (Action.statement x).side = x from rfl, eventsOf_same]
      exact Or.inl (List.mem_append_right _ (created_of_events hnow))
  · intro x
    rw [eventsOf_append]
    by_cases hx : x = a.side
    · subst hx
      rw [eventsOf_same]
      refine Behind.append (h.first a.side) ?_
      by_cases hdata : ∃ parcel, .got parcel ∈ st.events cfg sessionIdentifier a
      · obtain ⟨parcel, hparcel⟩ := hdata
        obtain ⟨m, hm, hcarries⟩ := hgot parcel hparcel
        obtain ⟨rest, hstatements⟩ := statements_of_handled hm
        obtain ⟨hwas, hspare⟩ := hforetold.wasReady_of_carries hat hstatements hcarries
        refine Or.inl ⟨_, (h.created a.side hwas).resolve_right ?_, rfl⟩
        exact hspare.not_creates
      · refine Or.inr ?_
        rintro e he ⟨parcel, rfl⟩
        exact hdata ⟨parcel, he⟩
    · rw [eventsOf_other hx, List.append_nil]
      exact h.first x

end Introduced

end SakuraNetwork

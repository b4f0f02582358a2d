import SakuraNetwork.HandshakeAgreement

/-!
# Agreement of the close

A side leaves the ready state after it has sent a close start message, or when it gets a
message that closes the session.  The other side hears of it, unless the close start
message overtook the init reply message.

* `Dialogue.Unhurried`: the init reply message is not sent after a close start message.
* `Parted`: a side that has closed is known to the other side, or a message tells it.
* `ready_iff_of_quiescent`: once nothing is left to do, both sides are ready or none is.
* `startup`, `close_agreement`: the same with the end of `startSession`, which deletes a
  client whose start failed.
-/

namespace SakuraNetwork

open Lib

/-! ## Messages that close -/

def Body.startsClose : Body → Bool
  | .sessionCloseStart _ => true
  | _ => false

/-- The message takes a ready session out of its state. -/
def Body.Parts (b : Body) : Prop :=
  b.startsClose = true ∨ b = .sessionCloseReply

/-- The side has sent a close start message. -/
def Connection.HasClosed
    {σ : Type}
    (st : Connection σ)
    (x : Side) : Prop :=
  ∃ e ∈ st.log, e.sender = x ∧ e.message.body.startsClose = true

/-- The init reply message is not sent after a close start message. -/
def Dialogue.Unhurried (d : Dialogue) : Action → Prop
  | .statement .server => ∀ st rest, (d.party .server).statements = st :: rest →
      st.sends ≠ [] → (d.endpoint .server).isOpen = true → ¬ d.HasClosed .server
  | _ => True

/-- What a side that has closed has told the other side. -/
structure Parted (d : Dialogue) : Prop where
  informed : ∀ x, d.HasClosed x →
    (d.endpoint x.other).state = .notConnected ∨
      ∃ m ∈ d.pending x.other, m.body.startsClose = true
  confirmed : ∀ x, (∃ m ∈ d.pending x, m.body = .sessionCloseReply) →
    (d.endpoint x.other).state = .notConnected
  leaving : ∀ x, (d.endpoint x).state = .notConnected →
    (d.endpoint x.other).state = .notConnected ∨ ∃ m ∈ d.pending x.other, m.body.Parts

/-- The invariant of closing. -/
structure Farewell (b : Progress) (d : Dialogue) : Prop where
  parted : b.replied = true → Parted d
  behind : b = .answered → BehindHandshake Body.startsClose (d.pending .client)
  ending : ∀ x, 0 < (d.party x).ending → d.HasClosed x
  asked : ∀ x, (∃ m ∈ d.pending x, m.body = .sessionCloseReply) → d.HasClosed x
  sent : ∀ x, (∃ m ∈ d.pending x, m.body.startsClose = true) → d.HasClosed x.other
  clientSilent : b.early = true → ¬ d.HasClosed .client
  shut : (d.party .server).wasReady = true → (d.endpoint .server).state = .notConnected →
    (d.endpoint .server).isOpen = false

/-! ## What closing messages do -/

theorem Body.after_of_closed
    {b : Body}
    {e : SessionEndpoint}
    (h : e.state = .notConnected) :
    b.after e = e := by
  cases b with
  | sessionCloseStart replyExpected => simp [Body.after, SessionEndpoint.stop, h]
  | sessionCloseReply => simp [Body.after, SessionEndpoint.disconnect, h]
  | _ => rfl

theorem SessionEndpoint.isOpen_disconnect
    {e : SessionEndpoint}
    (h : e.state ≠ .notConnected) :
    e.disconnect.isOpen = false := by
  rw [SessionEndpoint.disconnect, if_neg h]

theorem SessionEndpoint.isOpen_stop
    {e : SessionEndpoint}
    (h : e.state ≠ .notConnected)
    (hstate : e.stop.state = .notConnected) :
    e.stop.isOpen = false := by
  rw [SessionEndpoint.stop] at hstate ⊢
  split at hstate
  · rename_i hready
    rw [if_pos hready]
    exact SessionEndpoint.isOpen_disconnect h
  · exact absurd hstate h

/-- Where a message closes the session, it closes the socket. -/
theorem Body.isOpen_after
    {b : Body}
    {e : SessionEndpoint}
    (h : e.state ≠ .notConnected)
    (hstate : (b.after e).state = .notConnected) :
    (b.after e).isOpen = false := by
  cases b with
  | sessionCloseStart replyExpected => exact SessionEndpoint.isOpen_stop h hstate
  | sessionCloseReply => exact SessionEndpoint.isOpen_disconnect h
  | _ => exact absurd hstate h

theorem SessionEndpoint.stop_state
    {e : SessionEndpoint}
    (h : e.Started) :
    e.stop.state = .notConnected := by
  rw [SessionEndpoint.stop]
  split
  · exact e.disconnect_state
  · rename_i hready
    exact h.resolve_left hready

theorem Body.after_state_of_startsClose
    {b : Body}
    {e : SessionEndpoint}
    (hstarts : b.startsClose = true)
    (h : e.Started) :
    (b.after e).state = .notConnected := by
  cases b with
  | sessionCloseStart replyExpected => exact SessionEndpoint.stop_state h
  | _ => cases hstarts

theorem Body.after_of_not_parts
    {b : Body}
    (h : ¬ b.Parts)
    (e : SessionEndpoint) :
    b.after e = e := by
  cases b with
  | sessionCloseStart replyExpected => exact absurd (Or.inl rfl) h
  | sessionCloseReply => exact absurd (Or.inr rfl) h
  | _ => rfl

theorem Message.startsClose_of_isReply
    {m : Message}
    (h : m.isReply = true) :
    m.body.startsClose = false := by
  obtain ⟨sessionId, messageId, body⟩ := m
  cases body with
  | sessionCloseStart replyExpected =>
      have hanswered := answered_of_isReply h
      cases hanswered
  | _ => rfl

/-- A close start message is replied to. -/
theorem Message.replies_of_startsClose
    {m : Message}
    (h : m.body.startsClose = true)
    (e : SessionEndpoint) :
    ∃ m' ∈ m.replies e, m'.body = .sessionCloseReply := by
  obtain ⟨sessionId, messageId, body⟩ := m
  cases body with
  | sessionCloseStart replyExpected =>
      exact ⟨⟨e.sessionId, messageId, .sessionCloseReply⟩, List.mem_singleton.mpr rfl, rfl⟩
  | _ => cases h

/-- Only a close start message gets a close reply message. -/
theorem Message.startsClose_of_replies
    {m m' : Message}
    {e : SessionEndpoint}
    (h : m' ∈ m.replies e)
    (hclose : m'.body = .sessionCloseReply) :
    m.body.startsClose = true := by
  obtain ⟨sessionId, messageId, body⟩ := m
  obtain ⟨reply, hreply, rfl⟩ := List.mem_map.mp h
  have hsome := Option.mem_toList.mp hreply
  cases hclose
  cases body with
  | sessionCloseStart replyExpected => rfl
  | stream replyExpected data => cases replyExpected <;> cases hsome
  | _ => cases hsome

section Perform

variable {d : Dialogue} {x : Side} {answered : Option Message} {e' : SessionEndpoint}
  {statements : List Statement} {ending : Nat} {sent : List Message}

theorem hasClosed_perform {y : Side} :
    (d.perform x answered e' statements ending sent).HasClosed y ↔
      d.HasClosed y ∨ y = x ∧ ∃ m ∈ sent, m.body.startsClose = true := by
  constructor
  · rintro ⟨e, he, hsender, hcloses⟩
    rw [Connection.perform_log] at he
    rcases List.mem_append.mp he with he | he
    · exact Or.inl ⟨e, he, hsender, hcloses⟩
    · obtain ⟨m, hm, rfl⟩ := List.mem_map.mp he
      exact Or.inr ⟨hsender.symm, m, hm, hcloses⟩
  · rintro (⟨e, he, hsender, hcloses⟩ | ⟨rfl, m, hm, hcloses⟩)
    · refine ⟨e, ?_, hsender, hcloses⟩
      rw [Connection.perform_log]
      exact List.mem_append_left _ he
    · refine ⟨⟨y, answered, m⟩, ?_, rfl, hcloses⟩
      rw [Connection.perform_log]
      exact List.mem_append_right _ (List.mem_map.mpr ⟨m, hm, rfl⟩)

theorem endpoint_perform_same :
    (d.perform x answered e' statements ending sent).endpoint x = e' := by
  rw [Connection.endpoint, Connection.perform_party_same]

theorem endpoint_perform_other {y : Side} (h : y ≠ x) :
    (d.perform x answered e' statements ending sent).endpoint y = d.endpoint y := by
  rw [Connection.endpoint, Connection.perform_party_other h]

/-- What the other side gets from a step. -/
theorem mem_pending_perform_other {m : Message} :
    m ∈ (d.perform x answered e' statements ending sent).pending x.other ↔
      m ∈ d.pending x.other ∨ m ∈ sent := by
  rw [Connection.pending_perform_other (Side.other_ne x), List.mem_append]

/-- A step keeps what the sides have told each other if a side that closes tells it, and a
message that closes is only lost where the side is closed by then. -/
theorem Parted.of_perform
    (h : Parted d)
    (hstay : (d.endpoint x).state = .notConnected → e'.state = .notConnected)
    (hown : ∀ m ∈ statements.filterMap Statement.message ++ d.incoming x, m ∈ d.pending x)
    (hread : (∀ m ∈ d.pending x, m.body.Parts →
      m ∈ statements.filterMap Statement.message ++ d.incoming x) ∨ e'.state = .notConnected)
    (hconfirm : ∀ m ∈ sent, m.body = .sessionCloseReply → e'.state = .notConnected)
    (hleave : e'.state = .notConnected → (d.endpoint x).state = .notConnected ∨
      (d.endpoint x.other).state = .notConnected ∨
        ∃ m, (m ∈ d.pending x.other ∨ m ∈ sent) ∧ m.body.Parts) :
    Parted (d.perform x answered e' statements ending sent) := by
  constructor
  · intro z hclosed
    rcases Side.eq_or_other x z with rfl | rfl
    · rw [endpoint_perform_other (Side.other_ne z)]
      rcases hasClosed_perform.mp hclosed with hclosed | ⟨_, m, hm, hstarts⟩
      · refine (h.informed z hclosed).imp_right ?_
        rintro ⟨m, hm, hstarts⟩
        exact ⟨m, mem_pending_perform_other.mpr (Or.inl hm), hstarts⟩
      · exact Or.inr ⟨m, mem_pending_perform_other.mpr (Or.inr hm), hstarts⟩
    · rw [Side.other_other, endpoint_perform_same, Connection.pending_perform_same]
      rcases hasClosed_perform.mp hclosed with hclosed | ⟨hsame, _⟩
      · rcases h.informed x.other hclosed with hstate | ⟨m, hm, hstarts⟩
        · rw [Side.other_other] at hstate
          exact Or.inl (hstay hstate)
        · rw [Side.other_other] at hm
          exact hread.symm.imp_right fun hkept => ⟨m, hkept m hm (Or.inl hstarts), hstarts⟩
      · exact absurd hsame (Side.other_ne x)
  · rintro z ⟨m, hm, hreply⟩
    rcases Side.eq_or_other x z with rfl | rfl
    · rw [endpoint_perform_other (Side.other_ne z)]
      rw [Connection.pending_perform_same] at hm
      exact h.confirmed z ⟨m, hown m hm, hreply⟩
    · rw [Side.other_other, endpoint_perform_same]
      rcases mem_pending_perform_other.mp hm with hm | hm
      · have hstate := h.confirmed x.other ⟨m, hm, hreply⟩
        rw [Side.other_other] at hstate
        exact hstay hstate
      · exact hconfirm m hm hreply
  · intro z hstate
    rcases Side.eq_or_other x z with rfl | rfl
    · rw [endpoint_perform_same] at hstate
      rw [endpoint_perform_other (Side.other_ne z)]
      have htold : ∀ m, m ∈ d.pending z.other ∨ m ∈ sent → m.body.Parts →
          ∃ m ∈ (d.perform z answered e' statements ending sent).pending z.other,
            m.body.Parts :=
        fun m hm hparts => ⟨m, mem_pending_perform_other.mpr hm, hparts⟩
      rcases hleave hstate with hbefore | hother | ⟨m, hm, hparts⟩
      · refine (h.leaving z hbefore).imp_right ?_
        rintro ⟨m, hm, hparts⟩
        exact htold m (Or.inl hm) hparts
      · exact Or.inl hother
      · exact Or.inr (htold m hm hparts)
    · rw [endpoint_perform_other (Side.other_ne x)] at hstate
      rw [Side.other_other, endpoint_perform_same, Connection.pending_perform_same]
      rcases h.leaving x.other hstate with hbefore | ⟨m, hm, hparts⟩
      · rw [Side.other_other] at hbefore
        exact Or.inl (hstay hbefore)
      · rw [Side.other_other] at hm
        exact hread.symm.imp_right fun hkept => ⟨m, hkept m hm hparts, hparts⟩

/-- The other facts about closing after a step. -/
theorem Farewell.of_perform
    {b b' : Progress}
    (h : Farewell b d)
    (hown : ∀ m ∈ statements.filterMap Statement.message ++ d.incoming x, m ∈ d.pending x)
    (hparted : b'.replied = true → Parted (d.perform x answered e' statements ending sent))
    (hbehind : b' = .answered →
      BehindHandshake Body.startsClose
        ((d.perform x answered e' statements ending sent).pending .client))
    (hending : 0 < ending → d.HasClosed x ∨ ∃ m ∈ sent, m.body.startsClose = true)
    (hreply : ∀ m ∈ sent, m.body = .sessionCloseReply → d.HasClosed x.other)
    (hsilent : b'.early = true → b.early = true ∧
      (x = .client → ∀ m ∈ sent, m.body.startsClose = false))
    (hshut : x = .server → (d.party .server).wasReady = true ∨ e'.state = .sessionReady →
      e'.state = .notConnected → e'.isOpen = false) :
    Farewell b' (d.perform x answered e' statements ending sent) := by
  constructor
  · exact hparted
  · exact hbehind
  · intro z hpositive
    rw [hasClosed_perform]
    rcases Side.eq_or_other x z with rfl | rfl
    · rw [Connection.perform_party_same] at hpositive
      exact (hending hpositive).imp_right fun hsent => ⟨rfl, hsent⟩
    · rw [Connection.perform_party_other (Side.other_ne x)] at hpositive
      exact Or.inl (h.ending _ hpositive)
  · rintro z ⟨m, hm, hclose⟩
    rw [hasClosed_perform]
    rcases Side.eq_or_other x z with rfl | rfl
    · rw [Connection.pending_perform_same] at hm
      exact Or.inl (h.asked z ⟨m, hown m hm, hclose⟩)
    · rcases mem_pending_perform_other.mp hm with hm | hm
      · exact Or.inl (h.asked _ ⟨m, hm, hclose⟩)
      · exact Or.inl (hreply m hm hclose)
  · rintro z ⟨m, hm, hstarts⟩
    rw [hasClosed_perform]
    rcases Side.eq_or_other x z with rfl | rfl
    · rw [Connection.pending_perform_same] at hm
      exact Or.inl (h.sent z ⟨m, hown m hm, hstarts⟩)
    · rcases mem_pending_perform_other.mp hm with hm | hm
      · exact Or.inl (h.sent _ ⟨m, hm, hstarts⟩)
      · exact Or.inr ⟨Side.other_other x, m, hm, hstarts⟩
  · intro hearly hclosed
    obtain ⟨hbefore, hnone⟩ := hsilent hearly
    rcases hasClosed_perform.mp hclosed with hclosed | ⟨rfl, m, hm, hstarts⟩
    · exact h.clientSilent hbefore hclosed
    · rw [hnone rfl m hm] at hstarts
      cases hstarts
  · intro hwas hstate
    cases x with
    | client =>
        rw [endpoint_perform_other (by decide)] at hstate ⊢
        rw [Connection.perform_party_other (by decide)] at hwas
        exact h.shut hwas hstate
    | server =>
        rw [endpoint_perform_same] at hstate ⊢
        rw [Connection.perform_party_same] at hwas
        exact hshut rfl (by simpa [HasState.state] using hwas) hstate

/-- A step whose messages do not close the session, and in which it is not closed. -/
theorem Farewell.calm
    {b b' : Progress}
    (h : Farewell b d)
    (hown : ∀ m ∈ statements.filterMap Statement.message ++ d.incoming x, m ∈ d.pending x)
    (hread : ∀ m ∈ d.pending x, m.body.Parts →
      m ∈ statements.filterMap Statement.message ++ d.incoming x)
    (hparts : ∀ m ∈ sent, ¬ m.body.Parts)
    (hreplied : b'.replied = true → b.replied = true ∧
      (e'.state = .notConnected ↔ (d.endpoint x).state = .notConnected))
    (hbehind : b' = .answered →
      BehindHandshake Body.startsClose
        ((d.perform x answered e' statements ending sent).pending .client))
    (hending : 0 < ending → 0 < (d.party x).ending)
    (hearly : b'.early = true → b.early = true)
    (hshut : x = .server → (d.party .server).wasReady = true ∨ e'.state = .sessionReady →
      e'.state = .notConnected → e'.isOpen = false) :
    Farewell b' (d.perform x answered e' statements ending sent) := by
  refine h.of_perform hown ?_ hbehind ?_ ?_ ?_ hshut
  · intro hreplied'
    obtain ⟨hbefore, hstate⟩ := hreplied hreplied'
    refine (h.parted hbefore).of_perform hstate.mpr hown (Or.inl hread) ?_ ?_
    · exact fun m hm hclose => absurd (Or.inr hclose) (hparts m hm)
    · exact fun hclosed => Or.inl (hstate.mp hclosed)
  · exact fun hpositive => Or.inl (h.ending x (hending hpositive))
  · exact fun m hm hclose => absurd (Or.inr hclose) (hparts m hm)
  · refine fun hearly' => ⟨hearly hearly', fun _ m hm => ?_⟩
    cases hstarts : m.body.startsClose with
    | false => rfl
    | true => exact absurd (Or.inl hstarts) (hparts m hm)

end Perform

/-! ## Steps -/

/-- A message of the handshake that is taken does not close the session. -/
theorem mem_pending_take
    {d : Dialogue}
    {x y : Side}
    {m m' : Message}
    {rest : List Message}
    (hidle : (d.party x).statements = [])
    (hincoming : d.incoming x = m :: rest)
    (hmessage : m.statements.filterMap Statement.message = [])
    (hne : m' ≠ m) :
    m' ∈ (d.take x m rest).pending y ↔ m' ∈ d.pending y := by
  by_cases hy : y = x
  · subst hy
    simp [Connection.pending, Connection.take, hidle, hincoming, hmessage, hne]
  · simp [Connection.pending, Connection.take, hy]

/-- A statement of the client neither closes the session nor opens a closed one. -/
theorem Accepting.closed_after
    {k : HandshakeIds}
    {sessionIdentifier : Bytes}
    {st : Statement}
    {rest : List Statement}
    {e : SessionEndpoint}
    (h : Accepting k sessionIdentifier (st :: rest) e) :
    (st.after e).1.state = .notConnected ↔ e.state = .notConnected := by
  cases h with
  | ready hstate => simp [Statement.after, hstate]
  | _ => exact Iff.rfl

namespace Farewell

variable {sessionIdentifier : Bytes} {k k' : HandshakeIds} {b b' : Progress} {d : Dialogue}
  {x : Side}

/-- A side takes a message that does not close the session, or one that it will handle. -/
theorem of_take
    (h : Farewell b d)
    {m : Message}
    {rest : List Message}
    (hmem : ∀ y m', m'.body.Parts → (m' ∈ (d.take x m rest).pending y ↔ m' ∈ d.pending y))
    (hreplied : b'.replied = b.replied)
    (hbehind : b' = .answered →
      BehindHandshake Body.startsClose ((d.take x m rest).pending .client))
    (hearly : b'.early = true → b.early = true) :
    Farewell b' (d.take x m rest) := by
  have hendpoint : ∀ y, (d.take x m rest).endpoint y = d.endpoint y :=
    fun _ => Connection.take_core
  have hparts : ∀ y {P : Body → Prop}, (∀ body, P body → body.Parts) →
      ((∃ m' ∈ (d.take x m rest).pending y, P m'.body) ↔ ∃ m' ∈ d.pending y, P m'.body) := by
    intro y P hP
    constructor
    · rintro ⟨m', hm', hp⟩
      exact ⟨m', (hmem y m' (hP _ hp)).mp hm', hp⟩
    · rintro ⟨m', hm', hp⟩
      exact ⟨m', (hmem y m' (hP _ hp)).mpr hm', hp⟩
  have hstarts := fun y => hparts y (P := fun body => body.startsClose = true)
    (fun _ hp => Or.inl hp)
  have hreply := fun y => hparts y (P := fun body => body = .sessionCloseReply)
    (fun _ hp => Or.inr hp)
  have hany := fun y => hparts y (P := Body.Parts) (fun _ hp => hp)
  constructor
  · intro hb
    have hold := h.parted (hreplied ▸ hb)
    constructor
    · intro y hclosed
      rw [hendpoint, hstarts]
      exact hold.informed y hclosed
    · intro y hclose
      rw [hendpoint]
      exact hold.confirmed y ((hreply y).mp hclose)
    · intro y hstate
      rw [hendpoint] at hstate
      rw [hendpoint, hany]
      exact hold.leaving y hstate
  · exact hbehind
  · intro y hpositive
    rw [Connection.take_ending] at hpositive
    exact h.ending y hpositive
  · exact fun y hclose => h.asked y ((hreply y).mp hclose)
  · exact fun y hclose => h.sent y ((hstarts y).mp hclose)
  · exact fun hb => h.clientSilent (hearly hb)
  · intro hwas hstate
    rw [Connection.take_wasReady] at hwas
    rw [hendpoint] at hstate ⊢
    exact h.shut hwas hstate

/-- A side whose socket is closed drops a message. -/
theorem drop
    (h : Farewell b d)
    (hat : Handshake sessionIdentifier k b d)
    {m : Message}
    {rest : List Message}
    (hidle : (d.party x).statements = [])
    (hincoming : d.incoming x = m :: rest)
    (hplain : m.body.Plain)
    (hclosed : (d.endpoint x).isOpen = false) :
    Farewell b (d.drop x rest) := by
  have hstate : (d.endpoint x).state = .notConnected := by
    by_contra hne
    rw [hat.isOpen x hne] at hclosed
    cases hclosed
  have hpending := Connection.pending_drop hidle hincoming
  have hother : (d.drop x rest).pending x.other = d.pending x.other :=
    Connection.pending_drop_other (Side.other_ne x)
  have hmem : ∀ y m', m' ∈ (d.drop x rest).pending y → m' ∈ d.pending y := by
    intro y m' hm'
    rcases Side.eq_or_other x y with rfl | rfl
    · rw [hpending]
      exact List.mem_cons_of_mem m hm'
    · rw [← hother]
      exact hm'
  constructor
  · intro hreplied
    have hold := h.parted hreplied
    constructor
    · intro y hsent
      rcases Side.eq_or_other x y with rfl | rfl
      · rw [hother]
        exact hold.informed y hsent
      · rw [Side.other_other]
        exact Or.inl hstate
    · rintro y ⟨m', hm', hclose⟩
      exact hold.confirmed y ⟨m', hmem y m' hm', hclose⟩
    · intro y hleft
      rcases Side.eq_or_other x y with rfl | rfl
      · rw [hother]
        exact hold.leaving y hleft
      · rw [Side.other_other]
        exact Or.inl hstate
  · intro hanswered
    have hbehind := h.behind hanswered
    cases x with
    | client =>
        rw [hpending] at hbehind
        exact (behind_cons hbehind hplain).2
    | server =>
        have hsame : (d.drop .server rest).pending .client = d.pending .client := hother
        rw [hsame]
        exact hbehind
  · exact h.ending
  · rintro y ⟨m', hm', hclose⟩
    exact h.asked y ⟨m', hmem y m' hm', hclose⟩
  · rintro y ⟨m', hm', hstarts⟩
    exact h.sent y ⟨m', hmem y m' hm', hstarts⟩
  · exact h.clientSilent
  · exact h.shut

/-- A closed session stays closed over a message that is handled in one step. -/
theorem shut_after
    (h : Farewell b d)
    (body : Body)
    (hwas : (d.party .server).wasReady = true ∨
      (body.after (d.endpoint .server)).state = .sessionReady)
    (hstate : (body.after (d.endpoint .server)).state = .notConnected) :
    (body.after (d.endpoint .server)).isOpen = false := by
  by_cases hbefore : (d.endpoint .server).state = .notConnected
  · rw [Body.after_of_closed hbefore] at hwas ⊢
    refine h.shut (hwas.resolve_right fun hready => ?_) hbefore
    rw [hbefore] at hready
    cases hready
  · exact Body.isOpen_after hbefore hstate

/-- A close start message that is handled after the init reply was sent finds a session
that was made ready. -/
theorem started_of_startsClose
    (h : Farewell b d)
    (hat : Handshake sessionIdentifier k b d)
    {m : Message}
    (hpending : d.pending x = m :: d.incoming x)
    (hspare : b.running x = none)
    (hplain : m.body.Plain)
    (hreplied : b.replied = true)
    (hstarts : m.body.startsClose = true) :
    (d.endpoint x).Started := by
  cases x with
  | client =>
      cases b with
      | answered =>
          have hbehind := h.behind rfl
          rw [hpending] at hbehind
          rw [(behind_cons hbehind hplain).1] at hstarts
          cases hstarts
      | accepting rest => cases hspare
      | accepted => exact hat.client.1
      | _ => cases hreplied
  | server =>
      have hserver := hat.server
      cases b with
      | answered => exact hserver.2.1
      | accepting rest => exact hserver.2.1
      | accepted => exact hserver.2.1
      | _ => cases hreplied

/-- A message that is not of the handshake is handled. -/
theorem handle
    (h : Farewell b d)
    (hat : Handshake sessionIdentifier k b d)
    {m : Message}
    (hstatements : (d.party x).statements = [.handle m])
    (hspare : b.running x = none)
    (hplain : m.body.Plain) :
    Farewell b
      (d.perform x (d.party x).handling (m.body.after (d.endpoint x)) [] (d.party x).ending
        (if (d.endpoint x).isOpen then m.replies (d.endpoint x) else [])) := by
  have hpending : d.pending x = m :: d.incoming x := by
    rw [Connection.pending, hstatements]
    rfl
  have hmem : m ∈ d.pending x := by
    rw [hpending]
    exact List.mem_cons_self
  have hown : ∀ m' ∈ ([] : List Statement).filterMap Statement.message ++ d.incoming x,
      m' ∈ d.pending x := by
    intro m' hm'
    rw [hpending]
    exact List.mem_cons_of_mem m hm'
  have hsent : ∀ m' ∈ (if (d.endpoint x).isOpen then m.replies (d.endpoint x) else []),
      m' ∈ m.replies (d.endpoint x) := by
    intro m' hm'
    split at hm'
    · exact hm'
    · cases hm'
  have hnoStart : ∀ m' ∈ (if (d.endpoint x).isOpen then m.replies (d.endpoint x) else []),
      m'.body.startsClose = false :=
    fun m' hm' => Message.startsClose_of_isReply (Message.mem_replies (hsent m' hm')).2.1
  have hbehind : b = .answered → BehindHandshake Body.startsClose ((d.perform x
      (d.party x).handling (m.body.after (d.endpoint x)) [] (d.party x).ending
      (if (d.endpoint x).isOpen then m.replies (d.endpoint x) else [])).pending .client) := by
    intro hanswered
    have hold := h.behind hanswered
    cases x with
    | client =>
        rw [Connection.pending_perform_same]
        rw [hpending] at hold
        exact (behind_cons hold hplain).2
    | server =>
        rw [Connection.pending_perform_other (by decide)]
        exact behind_append hold (Or.inl hnoStart)
  have hshut : x = .server → (d.party .server).wasReady = true ∨
      (m.body.after (d.endpoint x)).state = .sessionReady →
        (m.body.after (d.endpoint x)).state = .notConnected →
          (m.body.after (d.endpoint x)).isOpen = false := by
    rintro rfl hwas hstate
    exact h.shut_after m.body hwas hstate
  by_cases hparts : m.body.Parts
  · refine h.of_perform hown ?_ hbehind (fun hpositive => Or.inl (h.ending x hpositive)) ?_
      (fun hearly => ⟨hearly, fun _ => hnoStart⟩) hshut
    · intro hreplied
      have hnc : (m.body.after (d.endpoint x)).state = .notConnected := by
        rcases hparts with hstarts | hclose
        · exact Body.after_state_of_startsClose hstarts
            (h.started_of_startsClose hat hpending hspare hplain hreplied hstarts)
        · rw [hclose]
          exact SessionEndpoint.disconnect_state _
      refine (h.parted hreplied).of_perform (fun _ => hnc) hown (Or.inr hnc) (fun _ _ _ => hnc) ?_
      intro _
      rcases hparts with hstarts | hclose
      · -- the close reply message tells the other side, unless this one is closed already
        cases hopen : (d.endpoint x).isOpen with
        | false =>
            refine Or.inl ?_
            by_contra hne
            rw [hat.isOpen x hne] at hopen
            cases hopen
        | true =>
            obtain ⟨m', hm', hclose⟩ := Message.replies_of_startsClose hstarts (d.endpoint x)
            rw [if_pos rfl]
            exact Or.inr (Or.inr ⟨m', Or.inr hm', Or.inr hclose⟩)
      · exact Or.inr (Or.inl ((h.parted hreplied).confirmed x ⟨m, hmem, hclose⟩))
    · intro m' hm' hclose
      exact h.sent x ⟨m, hmem, Message.startsClose_of_replies (hsent m' hm') hclose⟩
  · have hafter : m.body.after (d.endpoint x) = d.endpoint x := Body.after_of_not_parts hparts _
    refine h.calm hown ?_ ?_ ?_ hbehind (fun hpositive => hpositive) (fun hearly => hearly) hshut
    · intro m' hm' hparts'
      rw [hpending] at hm'
      rcases List.mem_cons.mp hm' with rfl | hm'
      · exact absurd hparts' hparts
      · exact hm'
    · rintro m' hm' (hstarts | hclose)
      · rw [hnoStart m' hm'] at hstarts
        cases hstarts
      · exact hparts (Or.inl (Message.startsClose_of_replies (hsent m' hm') hclose))
    · intro hreplied
      rw [hafter]
      exact ⟨hreplied, Iff.rfl⟩

/-- An operation of another thread that neither closes the session nor sends a close
message. -/
theorem speak
    (h : Farewell b d)
    {answered : Option Message}
    {sent : List Message}
    (hparts : ∀ m ∈ sent, ¬ m.body.Parts) :
    Farewell b
      (d.perform x answered (d.endpoint x) (d.party x).statements (d.party x).ending sent) := by
  have hnoStart : ∀ m ∈ sent, m.body.startsClose = false := by
    intro m hm
    cases hstarts : m.body.startsClose with
    | false => rfl
    | true => exact absurd (Or.inl hstarts) (hparts m hm)
  refine h.calm (fun m hm => hm) (fun m hm _ => hm) hparts (fun hreplied => ⟨hreplied, Iff.rfl⟩)
    ?_ (fun hpositive => hpositive) (fun hearly => hearly) ?_
  · intro hanswered
    have hold := h.behind hanswered
    cases x with
    | client =>
        rw [Connection.pending_perform_same]
        exact hold
    | server =>
        rw [Connection.pending_perform_other (by decide)]
        exact behind_append hold (Or.inl hnoStart)
  · rintro rfl hwas hstate
    refine h.shut (hwas.resolve_right fun hready => ?_) hstate
    rw [hstate] at hready
    cases hready

/-- `closeSession` sends a close start message. -/
theorem close
    (h : Farewell b d)
    (hat : Handshake sessionIdentifier k b d)
    (messageId : UInt32)
    (replyExpected : Bool) :
    Farewell b
      (d.perform x none (d.endpoint x) (d.party x).statements
        ((d.party x).ending +
          if (d.endpoint x).state = .sessionReady ∧ replyExpected = false then 1 else 0)
        (if (d.endpoint x).state = .sessionReady ∧ (d.endpoint x).isOpen = true then
          [⟨(d.endpoint x).sessionId, messageId, .sessionCloseStart replyExpected⟩]
        else [])) := by
  by_cases hready : (d.endpoint x).state = .sessionReady
  · have hne : (d.endpoint x).state ≠ .notConnected := by
      rw [hready]
      exact SessionState.noConfusion
    have hnc : (d.endpoint x).state = .notConnected → False := hne
    have hboth : (d.endpoint x).state = .sessionReady ∧ (d.endpoint x).isOpen = true :=
      ⟨hready, hat.isOpen x hne⟩
    rw [if_pos hboth]
    refine h.of_perform (fun m hm => hm) ?_ ?_ ?_ ?_ ?_ ?_
    · intro hreplied
      refine (h.parted hreplied).of_perform (fun hstate => hstate) (fun m hm => hm)
        (Or.inl fun m hm _ => hm) ?_ (fun hstate => Or.inl hstate)
      intro m hm hclose
      rw [List.mem_singleton.mp hm] at hclose
      cases hclose
    · intro hanswered
      have hold := h.behind hanswered
      cases x with
      | client =>
          rw [Connection.pending_perform_same]
          exact hold
      | server =>
          rw [Connection.pending_perform_other (by decide)]
          subst hanswered
          exact behind_append hold (Or.inr ⟨_, hat.initReply_mem_pending, rfl⟩)
    · exact fun _ => Or.inr ⟨_, List.mem_singleton.mpr rfl, rfl⟩
    · intro m hm hclose
      rw [List.mem_singleton.mp hm] at hclose
      cases hclose
    · refine fun hearly => ⟨hearly, fun hx => ?_⟩
      subst hx
      exact absurd hready (hat.client_not_ready hearly)
    · exact fun _ _ hstate => (hnc hstate).elim
  · rw [if_neg fun hboth => hready hboth.1, if_neg fun hboth => hready hboth.1]
    exact h.speak fun m hm => absurd hm List.not_mem_nil

/-- A close without reply goes on with `endSession`. -/
theorem endClose
    (h : Farewell b d)
    (hending : 0 < (d.party x).ending) :
    Farewell b
      (d.perform x none (d.endpoint x).stop (d.party x).statements ((d.party x).ending - 1)
        []) := by
  have hstay : (d.endpoint x).state = .notConnected → (d.endpoint x).stop = d.endpoint x :=
    fun hstate => Body.after_of_closed (b := .sessionCloseStart false) hstate
  refine h.of_perform (fun m hm => hm) ?_ ?_ ?_ (fun m hm => absurd hm List.not_mem_nil)
    (fun hearly => ⟨hearly, fun _ m hm => absurd hm List.not_mem_nil⟩) ?_
  · intro hreplied
    refine (h.parted hreplied).of_perform ?_ (fun m hm => hm) (Or.inl fun m hm _ => hm)
      (fun m hm => absurd hm List.not_mem_nil) ?_
    · intro hstate
      rw [hstay hstate]
      exact hstate
    · intro _
      -- the side has sent a close start message, which the other one gets or has got
      refine Or.inr (((h.parted hreplied).informed x (h.ending x hending)).imp_right ?_)
      rintro ⟨m, hm, hstarts⟩
      exact ⟨m, Or.inl hm, Or.inl hstarts⟩
  · intro hanswered
    have hold := h.behind hanswered
    cases x with
    | client =>
        rw [Connection.pending_perform_same]
        exact hold
    | server =>
        rw [Connection.pending_perform_other (by decide), List.append_nil]
        exact hold
  · exact fun _ => Or.inl (h.ending x hending)
  · rintro rfl hwas hstate
    exact h.shut_after (.sessionCloseStart false) hwas hstate

/-- The init reply message is sent where no side has closed. -/
theorem reply
    (h : Farewell b d)
    {answered : Option Message}
    (hat' : Handshake sessionIdentifier k .answered
      (d.perform .server answered (d.endpoint .server) [] (d.party .server).ending
        [k.initReply sessionIdentifier]))
    (hpending : d.pending .server = d.incoming .server)
    (hearly : b.early = true)
    (hopen : (d.endpoint .server).isOpen = true)
    (hunhurried : ¬ d.HasClosed .server) :
    Farewell .answered
      (d.perform .server answered (d.endpoint .server) [] (d.party .server).ending
        [k.initReply sessionIdentifier]) := by
  have hnone : ∀ x, ¬ d.HasClosed x := by
    intro x
    cases x with
    | client => exact h.clientSilent hearly
    | server => exact hunhurried
  have hwas : (d.party .server).wasReady = true ∨ (d.endpoint .server).state = .sessionReady := by
    have hready := hat'.server.1
    rw [Connection.perform_party_same] at hready
    simpa [HasState.state] using hready
  refine h.of_perform ?_ ?_ ?_ (fun hpositive => Or.inl (h.ending _ hpositive)) ?_ ?_ ?_
  · intro m hm
    rw [hpending]
    exact hm
  · intro _
    constructor
    · intro x hclosed
      rcases hasClosed_perform.mp hclosed with hbefore | ⟨_, m, hm, hstarts⟩
      · exact absurd hbefore (hnone x)
      · rw [List.mem_singleton.mp hm] at hstarts
        cases hstarts
    · rintro x ⟨m, hm, hclose⟩
      cases x with
      | client => exact absurd hclose (hat'.closeReply rfl m hm)
      | server =>
          rw [Connection.pending_perform_same] at hm
          refine absurd (h.asked .server ⟨m, ?_, hclose⟩) hunhurried
          rw [hpending]
          exact hm
    · intro x hstate
      cases x with
      | client => exact absurd (hat'.client.1.symm.trans hstate) SessionState.noConfusion
      | server =>
          rw [endpoint_perform_same] at hstate
          have hshut := h.shut (hwas.resolve_right fun hready => by
            rw [hstate] at hready
            cases hready) hstate
          rw [hopen] at hshut
          cases hshut
  · intro _
    rw [Connection.pending_perform_other (by decide)]
    refine behind_append (behind_of_forall fun m hm hstarts => ?_) (Or.inl ?_)
    · exact hunhurried (h.sent .client ⟨m, hm, hstarts⟩)
    · intro m hm
      rw [List.mem_singleton.mp hm]
      rfl
  · intro m hm hclose
    rw [List.mem_singleton.mp hm] at hclose
    cases hclose
  · exact fun _ => ⟨hearly, by rintro ⟨⟩⟩
  · exact fun _ hwas' hstate => h.shut (hwas'.resolve_right fun hready => by
      rw [hstate] at hready
      cases hready) hstate

/-- A statement of the handshake keeps a closed socket closed, unless it connects it. -/
theorem shut_statement
    (h : Farewell b d)
    (st : Statement)
    (hwas : (d.party .server).wasReady = true ∨
      (st.after (d.endpoint .server)).1.state = .sessionReady)
    (hstate : (st.after (d.endpoint .server)).1.state = .notConnected) :
    (st.after (d.endpoint .server)).1.isOpen = false := by
  have hbefore : (d.party .server).wasReady = true := by
    refine hwas.resolve_right fun hready => ?_
    rw [hstate] at hready
    cases hready
  cases st with
  | connectiSession sessionId =>
      simp only [Statement.after] at hstate ⊢
      split at hstate
      · cases hstate
      · rename_i hconnected
        exact absurd hstate hconnected
  | makeSessionReady sessionId sessionIdentifier =>
      simp only [Statement.after] at hstate ⊢
      split at hstate
      · cases hstate
      · rename_i hnot
        rw [if_neg hnot]
        exact h.shut hbefore hstate
  | _ => exact h.shut hbefore hstate

theorem step
    (h : Farewell b d)
    (hat : Handshake sessionIdentifier k b d)
    {cfg : Config}
    {a : Action}
    {d' : Dialogue}
    (hat' : Handshake sessionIdentifier k' b' d')
    (hmove : Handshake.Move cfg sessionIdentifier k b d a k' b' d')
    (hunhurried : d.Unhurried a) :
    Farewell b' d' := by
  have hnothing : ∀ m ∈ ([] : List Message), ¬ m.body.Parts :=
    fun m hm => absurd hm List.not_mem_nil
  cases hmove with
  | start hidle hlog =>
      subst hidle
      refine h.calm (fun m hm => hm) (fun m hm _ => hm) ?_ (by rintro ⟨⟩)
        (by rintro ⟨⟩) (fun hpositive => hpositive) (fun hearly => hearly)
        (by rintro ⟨⟩)
      rintro m hm hparts
      rw [List.mem_singleton.mp hm] at hparts
      rcases hparts with hstarts | hclose
      · cases hstarts
      · cases hclose
  | takeStart hcalled hidle hincoming =>
      subst hcalled
      refine h.of_take ?_ rfl (by rintro ⟨⟩) (fun hearly => hearly)
      exact fun y m' hparts => mem_pending_take hidle hincoming rfl (by
        rintro rfl
        rcases hparts with hstarts | hclose
        · cases hstarts
        · cases hclose)
  | @answer st rest fullId hanswering =>
      subst hanswering
      have hold : Answering k sessionIdentifier (st :: rest) (d.endpoint .server) _ := hat.server
      have hpending : d.pending .server = d.incoming .server := by
        rw [Connection.pending, hat.running .server _ rfl, hold.filterMap_message, List.nil_append]
      have hnext : Answering { k with fullId := fullId } sessionIdentifier
          ((st.after (d.endpoint .server)).2 ++ rest) _ _ := hat'.server
      have hown : ((st.after (d.endpoint .server)).2 ++ rest).filterMap Statement.message ++
          d.incoming .server = d.pending .server := by
        rw [hnext.filterMap_message, hpending, List.nil_append]
      refine h.calm ?_ ?_ hnothing (by rintro ⟨⟩)
        (by rintro ⟨⟩) (fun hpositive => hpositive) (fun hearly => hearly)
        (fun _ hwas hstate => h.shut_statement st hwas hstate)
      · rw [hown]
        exact fun m hm => hm
      · rw [hown]
        exact fun m hm _ => hm
  | reply hanswering hopen =>
      subst hanswering
      have hold : Answering k sessionIdentifier [k.lastStatement sessionIdentifier]
          (d.endpoint .server) _ := hat.server
      have hstatements := hat.running .server _ rfl
      have hpending : d.pending .server = d.incoming .server := by
        rw [Connection.pending, hstatements, hold.filterMap_message, List.nil_append]
      exact h.reply hat' hpending rfl hopen
        (hunhurried _ _ hstatements (List.cons_ne_nil _ _) hopen)
  | silence hanswering hclosed =>
      subst hanswering
      have hold : Answering k sessionIdentifier [k.lastStatement sessionIdentifier]
          (d.endpoint .server) _ := hat.server
      have hpending : d.pending .server = d.incoming .server := by
        rw [Connection.pending, hat.running .server _ rfl, hold.filterMap_message, List.nil_append]
      refine h.calm ?_ ?_ hnothing (by rintro ⟨⟩)
        (by rintro ⟨⟩) (fun hpositive => hpositive) (fun hearly => hearly)
        (fun _ _ _ => hclosed)
      · rw [hpending]
        exact fun m hm => hm
      · rw [hpending]
        exact fun m hm _ => hm
  | takeReply hanswered hidle hincoming =>
      subst hanswered
      refine h.of_take ?_ rfl (by rintro ⟨⟩) (by rintro ⟨⟩)
      exact fun y m' hparts => mem_pending_take hidle hincoming rfl (by
        rintro rfl
        rcases hparts with hstarts | hclose
        · cases hstarts
        · cases hclose)
  | @accept st rest b' haccepting hnext =>
      subst haccepting
      have hold : Accepting k sessionIdentifier (st :: rest) (d.endpoint .client) := hat.client.1
      have hpending : d.pending .client = d.incoming .client := by
        rw [Connection.pending, hat.running .client _ rfl, hold.filterMap_message, List.nil_append]
      have hmessage : ((st.after (d.endpoint .client)).2 ++ rest).filterMap Statement.message =
          [] := by
        rcases hnext with rfl | ⟨_, hnil⟩
        · exact Accepting.filterMap_message hat'.client.1
        · rw [hnil]
          rfl
      have hown : ((st.after (d.endpoint .client)).2 ++ rest).filterMap Statement.message ++
          d.incoming .client = d.pending .client := by
        rw [hmessage, hpending, List.nil_append]
      refine h.calm ?_ ?_ hnothing (fun _ => ⟨rfl, hold.closed_after⟩) ?_
        (fun hpositive => hpositive) ?_ (by rintro ⟨⟩)
      · rw [hown]
        exact fun m hm => hm
      · rw [hown]
        exact fun m hm _ => hm
      · rintro rfl
        rcases hnext with hb | ⟨hb, _⟩
        · cases hb
        · cases hb
      · rcases hnext with rfl | ⟨rfl, _⟩
        · exact fun hearly => hearly
        · exact fun hearly => hearly
  | @take x m rest hidle hincoming hplain =>
      have hpending : ∀ y, (d.take x m rest).pending y = d.pending y :=
        fun y => Connection.pending_take hidle hincoming hplain
      refine h.of_take (fun y m' _ => by rw [hpending]) rfl ?_ (fun hearly => hearly)
      rw [hpending]
      exact h.behind
  | drop hidle hincoming hplain hclosed => exact h.drop hat hidle hincoming hplain hclosed
  | handle hstatements hspare hplain => exact h.handle hat hstatements hspare hplain
  | call hspeaks =>
      refine h.speak fun m hm hparts => ?_
      have htype := (hspeaks.spoken m hm).type
      rcases hparts with hstarts | hclose
      · cases hbody : m.body with
        | sessionCloseStart replyExpected => exact htype (by rw [hbody]; rfl)
        | _ =>
            rw [hbody] at hstarts
            cases hstarts
      · exact htype (by rw [hclose]; rfl)
  | close messageId => exact h.close hat messageId _
  | endClose hending => exact h.endClose hending

end Farewell

/-- Before the start nothing is closed. -/
theorem Farewell.of_initial
    {st : Connection Peer}
    (h : st.Initial) :
    Farewell .idle st.view := by
  have hpending : ∀ x, st.view.pending x = [] := by
    intro x
    change ((st.party x).statements.filterMap _) ++ st.incoming x = []
    rw [h.statements x, h.incoming x]
    rfl
  constructor
  · rintro ⟨⟩
  · rintro ⟨⟩
  · intro x hpositive
    change 0 < (st.party x).ending at hpositive
    rw [h.ending x] at hpositive
    cases hpositive
  · rintro x ⟨m, hm, _⟩
    rw [hpending] at hm
    cases hm
  · rintro x ⟨m, hm, _⟩
    rw [hpending] at hm
    cases hm
  · rintro _ ⟨e, he, _⟩
    change e ∈ st.log at he
    rw [h.log] at he
    cases he
  · intro hwas
    change (st.party .server).wasReady = true at hwas
    rw [h.wasReady .server] at hwas
    cases hwas

/-- Where nothing is left to do, a ready side has finished the handshake. -/
theorem Handshake.accepted_of_quiescent
    {sessionIdentifier : Bytes}
    {k : HandshakeIds}
    {b : Progress}
    {d : Dialogue}
    (hat : Handshake sessionIdentifier k b d)
    (hidle : ∀ y, (d.party y).statements = [])
    (hpending : ∀ y, d.pending y = [])
    {x : Side}
    (hready : (d.endpoint x).state = .sessionReady) :
    b = .accepted := by
  have hrunning : ∀ y, b.running y = none := fun y => hat.running_of_idle (hidle y)
  have hnone : b.opening k sessionIdentifier .client = [] := by
    rw [← hat.opening, hpending]
    rfl
  cases x with
  | client =>
      have hlate := (hat.late_of_ready hready).1
      cases b with
      | accepted => rfl
      | accepting rest => cases hrunning .client
      | _ => cases hlate
  | server =>
      have hserver := hat.server
      have hother : ∀ s, (d.endpoint .server).state = s → s ≠ .sessionReady → False :=
        fun s hs hne => hne (hs.symm.trans hready)
      cases b with
      | accepted => rfl
      | idle => exact (hother _ hserver.1 SessionState.noConfusion).elim
      | called => exact (hother _ hserver.1 SessionState.noConfusion).elim
      | answering rest => cases hrunning .server
      | unanswered => exact (hother _ hserver.2.1 SessionState.noConfusion).elim
      | answered => cases hnone
      | accepting rest => cases hrunning .client

/-- A side that is ready where nothing is left to do has a ready other side, and neither
has closed. -/
theorem Farewell.ready_of_quiescent
    {sessionIdentifier : Bytes}
    {k : HandshakeIds}
    {b : Progress}
    {d : Dialogue}
    (h : Farewell b d)
    (hat : Handshake sessionIdentifier k b d)
    (hidle : ∀ y, (d.party y).statements = [])
    (hpending : ∀ y, d.pending y = [])
    {x : Side}
    (hready : (d.endpoint x).state = .sessionReady) :
    (d.endpoint x.other).state = .sessionReady ∧ ∀ y, ¬ d.HasClosed y := by
  obtain rfl := hat.accepted_of_quiescent hidle hpending hready
  have hnone : ∀ {y : Side} {m : Message}, m ∉ d.pending y := by
    intro y m hm
    rw [hpending] at hm
    cases hm
  have hstarted : (d.endpoint x.other).Started := by
    cases x with
    | client => exact hat.server.2.1
    | server => exact hat.client.1
  have hother : (d.endpoint x.other).state = .sessionReady := by
    refine hstarted.resolve_right fun hclosed => ?_
    rcases (h.parted rfl).leaving x.other hclosed with hleft | ⟨m, hm, _⟩
    · rw [Side.other_other, hready] at hleft
      cases hleft
    · exact hnone hm
  refine ⟨hother, fun y hclosed => ?_⟩
  rcases (h.parted rfl).informed y hclosed with hleft | ⟨m, hm, _⟩
  · rcases Side.eq_or_other x y with rfl | rfl
    · rw [hother] at hleft
      cases hleft
    · rw [Side.other_other, hready] at hleft
      cases hleft
  · exact hnone hm

/-- The invariant of closing holds along every run in which the init reply message is not
sent after a close start message. -/
theorem farewell_of_reaches
    {cfg : Config}
    {sessionIdentifier : Bytes}
    (hlen : sessionIdentifier.length ≤ 64000)
    {st : Connection Peer}
    (h : (connection cfg sessionIdentifier).Reaches
      (fun st a => Dialogue.Unhurried st.view a) st) :
    ∃ k b, Handshake sessionIdentifier k b st.view ∧ Farewell b st.view := by
  refine dialogue_invariant Dialogue.Unhurried
    (fun d => ∃ k b, Handshake sessionIdentifier k b d ∧ Farewell b d) hlen ?_ ?_ h
  · intro st hinit
    exact ⟨⟨0, 0, 0⟩, .idle, Handshake.of_initial hinit sessionIdentifier _,
      Farewell.of_initial hinit⟩
  · rintro d a d' ⟨k, b, hat, hfarewell⟩ hunhurried hstep
    obtain ⟨k', b', hmove, hat'⟩ := hat.step hstep
    exact ⟨k', b', hat', hfarewell.step hat hat' hmove hunhurried⟩

/-- In every run in which the init reply message is not sent after a close start message,
both sides are ready or none is once nothing is left to do, and none is if one has
closed. -/
theorem ready_iff_of_quiescent
    {cfg : Config}
    {sessionIdentifier : Bytes}
    (hlen : sessionIdentifier.length ≤ 64000)
    {st : Connection Peer}
    (h : (connection cfg sessionIdentifier).Reaches (fun st a => Dialogue.Unhurried st.view a) st)
    (hquiescent : ∀ x, st.incoming x = [] ∧ (st.party x).statements = []) :
    ((st.session .client).statemachine = .sessionReady ↔
      (st.session .server).statemachine = .sessionReady) ∧
    ∀ x, st.HasClosed x → ∀ y, (st.session y).statemachine ≠ .sessionReady := by
  obtain ⟨k, b, hat, hfarewell⟩ := farewell_of_reaches hlen h
  have hidle : ∀ y, (st.view.party y).statements = [] := fun y => (hquiescent y).2
  have hpending : ∀ y, st.view.pending y = [] := by
    intro y
    change (st.party y).statements.filterMap Statement.message ++ st.incoming y = []
    rw [(hquiescent y).1, (hquiescent y).2]
    rfl
  have hready := fun {x : Side} => hfarewell.ready_of_quiescent hat hidle hpending (x := x)
  refine ⟨⟨fun h => (hready (x := .client) h).1, fun h => (hready (x := .server) h).1⟩, ?_⟩
  exact fun x hclosed y h => (hready h).2 x hclosed

/-! ## The start of the client -/

/-- Where `startSession` of the client is: it waits until `m_initState` is set, it has
returned the session, or it has closed and deleted it. -/
inductive StartStage where
  | waiting
  | returned
  | failed
deriving DecidableEq

/-- A connection, and how far the start of its client is. -/
structure Startup where
  connection : Connection Peer
  stage : StartStage := .waiting

/-- The steps of the connection, and the end of `startSession`. -/
inductive StartupAction where
  | step (a : Action)
  | finishStart

/-- The step needs the session object of the client; a frame for a deleted one is dropped
by its socket. -/
def Action.needsClient : Action → Bool
  | .start => true
  | .receive _ => false
  | .statement x | .call x _ | .close x _ | .endClose x => x = .client

/-- A connection whose client is deleted if `startSession` finds `m_initState` at `-1`;
the threads inside the session end with it. -/
def startup
    (cfg : Config)
    (sessionIdentifier : Bytes) : TransitionSystem Startup StartupAction where
  init := fun st => st.connection.Initial ∧ st.stage = .waiting
  step := fun st a =>
    match a with
    | .step a =>
        if st.stage = .failed ∧ a.needsClient = true then none
        else (Connection.step cfg sessionIdentifier st.connection a).map fun c =>
          { st with connection := c }
    | .finishStart =>
        if st.stage = .waiting ∧ (st.connection.session .client).initState ≠ 0 then
          if (st.connection.session .client).initState = -1 then
            some
              { connection := st.connection.run .client none
                  (fun s => (Operation.finishStart s).act cfg) (fun _ => []) (fun _ => 0)
                stage := .failed }
          else some { st with stage := .returned }
        else none

/-- The init reply message is not sent after a close start message. -/
def Startup.Unhurried (st : Startup) : StartupAction → Prop
  | .step a => Dialogue.Unhurried st.connection.view a
  | .finishStart => True

/-- A session that is given up is not ready. -/
theorem finishStart_not_ready
    (cfg : Config)
    {s : SessionRef}
    {p : Process}
    (h : (p.session s).initState = -1) :
    ((((Operation.finishStart s).act cfg).run p).process.session s).statemachine ≠
      .sessionReady := by
  have hlife := congrArg Life.state ((Operation.finishStart s).life_act cfg rfl p [])
  have hstop : ∀ l : Life, l.stop.state ≠ .sessionReady := by
    intro l
    by_cases hready : l.state = .sessionReady
    · simp [Life.stop, hready]
    · simp [Life.stop, hready]
  rw [Operation.life, if_pos h] at hlife
  intro hready
  exact hstop _ (hlife.symm.trans hready)

/-- A step that does not need the client leaves its session alone. -/
theorem session_client_of_step
    {cfg : Config}
    {sessionIdentifier : Bytes}
    {st st' : Connection Peer}
    {a : Action}
    (hspare : a.needsClient = false)
    (hstep : Connection.step cfg sessionIdentifier st a = some st') :
    st'.session .client = st.session .client := by
  have hrun : ∀ {α : Type} (x : Side) (answered : Option Message) (act : SessionRef → Act α)
      (statements : α → List Statement) (ending : α → Nat), x ≠ .client →
        (st.run x answered act statements ending).session .client = st.session .client := by
    intro α x answered act statements ending hx
    rw [Connection.session, Connection.run, Connection.perform_party_other (Ne.symm hx)]
    rfl
  cases a with
  | start => cases hspare
  | receive x =>
      simp only [Connection.step] at hstep
      split at hstep
      · split at hstep
        · cases hstep
          cases x with
          | client => rfl
          | server => rfl
        · cases hstep
          rfl
      · cases hstep
  | statement x =>
      simp only [Connection.step] at hstep
      split at hstep
      · cases hstep
      · cases hstep
        exact hrun x _ _ _ _ (by simpa [Action.needsClient] using hspare)
  | call x c =>
      cases hstep
      exact hrun x _ _ _ _ (by simpa [Action.needsClient] using hspare)
  | close x replyExpected =>
      cases hstep
      exact hrun x _ _ _ _ (by simpa [Action.needsClient] using hspare)
  | endClose x =>
      simp only [Connection.step] at hstep
      split at hstep
      · cases hstep
        exact hrun x _ _ _ _ (by simpa [Action.needsClient] using hspare)
      · cases hstep

/-- As long as the client is not given up, the run is one of the connection; and a client
that is given up is not ready. -/
theorem startup_of_reaches
    {cfg : Config}
    {sessionIdentifier : Bytes}
    {st : Startup}
    (h : (startup cfg sessionIdentifier).Reaches Startup.Unhurried st) :
    (st.stage ≠ .failed → (connection cfg sessionIdentifier).Reaches
      (fun st a => Dialogue.Unhurried st.view a) st.connection) ∧
    (st.stage = .failed → (st.connection.session .client).statemachine ≠ .sessionReady) := by
  induction h with
  | init h =>
      refine ⟨fun _ => .init h.1, fun hfailed => ?_⟩
      rw [h.2] at hfailed
      cases hfailed
  | @step st st' a hrun hallowed hstep ih =>
      obtain ⟨hconnection, hgone⟩ := ih
      cases a with
      | step a =>
          simp only [startup] at hstep
          split at hstep
          · cases hstep
          · rename_i hpossible
            obtain ⟨c, hc, rfl⟩ := Option.map_eq_some_iff.mp hstep
            refine ⟨fun hstage => .step (hconnection hstage) hallowed hc, fun hfailed => ?_⟩
            have hspare : a.needsClient = false := by
              simpa [show st.stage = .failed from hfailed] using hpossible
            rw [show c.session .client = st.connection.session .client from
              session_client_of_step hspare hc]
            exact hgone hfailed
      | finishStart =>
          simp only [startup] at hstep
          split at hstep
          · rename_i hwaiting
            split at hstep
            · rename_i hgiven
              cases hstep
              refine ⟨fun hstage => absurd rfl hstage, fun _ => ?_⟩
              simp only [Connection.session, Connection.run, Connection.perform_party_same]
              exact finishStart_not_ready cfg hgiven
            · cases hstep
              refine ⟨fun _ => hconnection ?_, fun hfailed => ?_⟩
              · rw [hwaiting.1]
                exact StartStage.noConfusion
              · cases hfailed
          · cases hstep

theorem log_prefix_of_startup
    {cfg : Config}
    {sessionIdentifier : Bytes}
    {st st' : Startup}
    {a : StartupAction}
    (hstep : (startup cfg sessionIdentifier).step st a = some st') :
    st.connection.log <+: st'.connection.log := by
  cases a with
  | step a =>
      simp only [startup] at hstep
      split at hstep
      · cases hstep
      · obtain ⟨c, hc, rfl⟩ := Option.map_eq_some_iff.mp hstep
        exact Connection.log_prefix_of_step hc
  | finishStart =>
      simp only [startup] at hstep
      split at hstep
      · split at hstep
        · cases hstep
          exact List.prefix_append _ _
        · cases hstep
          exact List.prefix_refl _
      · cases hstep

/-- Where the server has sent no close start message, none overtook its init reply
message. -/
theorem unhurried_of_exec
    {cfg : Config}
    {sessionIdentifier : Bytes}
    {st st' : Startup}
    {as : List StartupAction}
    (hexec : (startup cfg sessionIdentifier).exec st as = some st')
    (hnone : ¬ st'.connection.HasClosed .server) :
    st.connection.log <+: st'.connection.log ∧
      (startup cfg sessionIdentifier).execAllowed Startup.Unhurried st as := by
  induction as generalizing st with
  | nil =>
      obtain rfl := Option.some.inj hexec
      exact ⟨List.prefix_refl _, trivial⟩
  | cons a as ih =>
      obtain ⟨st₁, hstep, hrest⟩ := Option.bind_eq_some_iff.mp hexec
      obtain ⟨hlog, hallowed⟩ := ih hrest
      have hbefore := (log_prefix_of_startup hstep).trans hlog
      refine ⟨hbefore, ?_, fun st₂ hstep' => ?_⟩
      · have hquiet : ¬ st.connection.view.HasClosed .server := by
          rintro ⟨e, he, hsender, hstarts⟩
          exact hnone ⟨e, hbefore.subset he, hsender, hstarts⟩
        cases a with
        | step a =>
            cases a with
            | statement x =>
                cases x with
                | client => exact trivial
                | server => exact fun _ _ _ _ _ => hquiet
            | _ => exact trivial
        | finishStart => exact trivial
      · obtain rfl := Option.some.inj (hstep.symm.trans hstep')
        exact hallowed

end SakuraNetwork

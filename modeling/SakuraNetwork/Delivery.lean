import SakuraNetwork.CreatedSessions

/-!
# Delivery between the applications

What the application of one side hands over in a call that reports success reaches the
application of the other side: in order, once, and unchanged, whatever else the sessions
do.  Nothing else reaches it, nothing before the session itself, and while its socket is open
nothing is lost.

* `Learnt`, `Corresponds`: the invariant.
* `delivered_in_order`: the callbacks of one side, and the calls of the other one.
* `returned_responses`: a request returns what the other side responded to it.
-/

namespace SakuraNetwork

open Lib

/-! ## One step -/

section Step

variable {cfg : Config} {sessionIdentifier : Bytes} {st st' : Connection Peer} {a : Action}

/-- The callbacks of a step hand over nothing. -/
theorem operations_of_outputs (outs : List Output) :
    (outs.filterMap Output.event).filterMap Event.operation = [] := by
  refine List.filterMap_eq_nil_iff.mpr fun e he => ?_
  obtain ⟨o, _, hevent⟩ := List.mem_filterMap.mp he
  exact Output.operation_of_event hevent

/-- The callbacks of a step are the outputs of its operation. -/
theorem parcels_of_events :
    (st.events cfg sessionIdentifier a).filterMap Event.parcel =
      ((st.operation cfg sessionIdentifier a).run (st.process a.side)).outputs.filterMap
        Output.parcel := by
  have hgot : ∀ outs : List Output,
      (outs.filterMap Output.event).filterMap Event.parcel = outs.filterMap Output.parcel := by
    intro outs
    rw [List.filterMap_filterMap]
    exact List.filterMap_congr fun o _ => o.parcel_of_event
  have hreports : (st.reports cfg a).filterMap Event.parcel = [] := by
    cases a with
    | call x c =>
        refine List.filterMap_eq_nil_iff.mpr fun e he => ?_
        rcases Call.mem_reports he with ⟨_, op, _, rfl⟩ | ⟨id, data, _, rfl⟩
        · rfl
        · rfl
    | _ => rfl
  rw [Connection.events, List.filterMap_append, hgot, hreports, List.append_nil]

/-- A callback gets data in the step that handles the last message of them. -/
theorem handled_of_got
    (hsound : st.Sound)
    (hallocation : ∀ size, (st.process a.side).allocation size = true)
    (haddressed : ∀ m ∈ a.handled st.view a.side, m.body.Addressed)
    {parcel : Parcel}
    (h : .got parcel ∈ st.events cfg sessionIdentifier a) :
    ∃ m ∈ a.handled st.view a.side, m.body.carries = true := by
  by_contra hnone
  have hbodies : ∀ b ∈ (a.handled st.view a.side).map Message.body, b.carries = false := by
    intro b hb
    obtain ⟨m, hm, rfl⟩ := List.mem_map.mp hb
    exact (Bool.not_eq_true _).mp fun hcarries => hnone ⟨m, hm, hcarries⟩
  have hparcel : parcel ∈ (st.events cfg sessionIdentifier a).filterMap Event.parcel :=
    List.mem_filterMap.mpr ⟨_, h, rfl⟩
  rw [parcels_of_events, (delivers_step hsound hallocation haddressed).called,
    (runs_of_not_carries hbodies _).2] at hparcel
  cases hparcel

/-- Only a woken request returns a response, and it held it before. -/
theorem answered_of_events
    {id : UInt64}
    {data : Bytes}
    (h : .returned id data ∈ st.events cfg sessionIdentifier a) :
    (st.process a.side).Answered id data := by
  rcases List.mem_append.mp h with hgot | hreports
  · obtain ⟨o, _, hevent⟩ := List.mem_filterMap.mp hgot
    cases o with
    | _ => cases hevent
  · cases a with
    | call x c =>
        rcases Call.mem_reports hreports with ⟨_, op, _, hsame⟩ | ⟨id', data', hanswered, hsame⟩
        · cases hsame
        · cases hsame
          exact hanswered
    | _ => cases hreports

/-- What a side sends in a step is what it reports. -/
theorem ships_step
    (hsound : st.Sound)
    (hopen : ∀ x, (st.session x).statemachine = .sessionReady →
      (st.session x).socket.any Socket.isOpen = true)
    (hsized : a.Sized)
    (hlen : sessionIdentifier.length ≤ 64000)
    (hstep : (connection cfg sessionIdentifier).step st a = some st') :
    (∀ y, y ≠ a.side → st'.spoken y = st.spoken y) ∧
      ∃ more, st'.spoken a.side = st.spoken a.side ++ more ∧
        Ships more (st.events cfg sessionIdentifier a) := by
  have hdialogue := (Connection.dialogue_step hsound hlen hstep).1
  obtain ⟨hother, hown⟩ := spoken_step hdialogue
  refine ⟨hother, ?_⟩
  by_cases hcall : ∃ x c, a = .call x c
  · obtain ⟨x, c, rfl⟩ := hcall
    simp only [connection, Connection.step, Option.some.injEq] at hstep
    subst hstep
    refine ⟨_, Connection.spoken_perform_same, ?_⟩
    have hships := c.ships cfg (hsound.works x) (hopen x) fun op hop => hsized.length_le hop
    have hgot : Ships [] (((st.operation cfg sessionIdentifier (.call x c)).run
        (st.process x)).outputs.filterMap Output.event) :=
      .of_not_carries (fun m hm => absurd hm List.not_mem_nil) (operations_of_outputs _)
    exact hgot.append hships
  · have hnot : ∀ x c, a ≠ .call x c := fun x c h => hcall ⟨x, c, h⟩
    obtain ⟨more, hmore, hcarries⟩ := hown hnot
    refine ⟨more, hmore, .of_not_carries hcarries ?_⟩
    rw [Connection.events, List.filterMap_append, operations_of_outputs]
    cases a with
    | call x c => exact absurd rfl (hnot x c)
    | _ => rfl

end Step

/-! ## The invariant -/

/-- What a side has handled, and what its application has got of it. -/
structure Learnt
    (st : Connection Peer)
    (x : Side)
    (events : List (Side × Event))
    (handled : List Message) : Prop where
  heard : Heard st.view x handled
  collected : (st.process x).collected (st.ref x) = collectedAfter (handled.map Message.body)
  got : gotBy x events = (parcelsIn (handled.map Message.body)).filter Parcel.called
  answers : ∀ id data, (st.process x).Answered id data →
    .response id (some data) ∈ parcelsIn (handled.map Message.body)
  blocked : ∀ id, (st.process x).Blocked id →
    ∃ data timeout, .handed id (.request data timeout) ∈ eventsOf x events
  returned : ∀ id data, .returned id data ∈ eventsOf x events →
    .response id (some data) ∈ parcelsIn (handled.map Message.body) ∧
      ∃ request timeout, .handed id (.request request timeout) ∈ eventsOf x events

/-- The applications and the connection between them. -/
structure Corresponds (st : Connection Peer) (events : List (Side × Event)) : Prop where
  allocation : ∀ x size, (st.process x).allocation size = true
  ships : ∀ x, Ships (st.spoken x) (eventsOf x events)
  learnt : ∀ x, ∃ handled, Learnt st x events handled

namespace Learnt

variable {cfg : Config} {sessionIdentifier : Bytes} {st st' : Connection Peer} {a : Action}
  {x : Side} {events : List (Side × Event)} {handled : List Message}

/-- What was handled was sent. -/
theorem begins (h : Learnt st x events handled) : handled <+: st.spoken x.other :=
  (List.prefix_append _ _).trans h.heard.channel.begins

/-- The other side takes a step. -/
theorem of_other
    (h : Learnt st x events handled)
    (hx : x ≠ a.side)
    (hheard : Heard st'.view x (handled ++ a.handled st.view x))
    (hstep : (connection cfg sessionIdentifier).step st a = some st') :
    Learnt st' x (events ++ (st.events cfg sessionIdentifier a).map (fun e => (a.side, e)))
      handled := by
  obtain ⟨_, hprocess, href⟩ := process_step hstep
  have hnothing : a.handled st.view x = [] := by
    cases a with
    | statement y => exact if_neg hx.symm
    | _ => rfl
  have hevents : eventsOf x (events ++
      (st.events cfg sessionIdentifier a).map (fun e => (a.side, e))) = eventsOf x events := by
    rw [eventsOf_append, eventsOf_other hx, List.append_nil]
  rw [hnothing, List.append_nil] at hheard
  constructor
  · exact hheard
  · rw [hprocess x hx, href x]
    exact h.collected
  · rw [gotBy, hevents]
    exact h.got
  · rw [hprocess x hx]
    exact h.answers
  · rw [hprocess x hx, hevents]
    exact h.blocked
  · rw [hevents]
    exact h.returned

/-- The side itself takes a step. -/
theorem of_own
    (h : Learnt st a.side events handled)
    (hsound : st.Sound)
    (hheard : Heard st'.view a.side (handled ++ a.handled st.view a.side))
    (hstep : (connection cfg sessionIdentifier).step st a = some st')
    (hdelivers : Delivers (st.ref a.side) (st.process a.side)
      (st.operation cfg sessionIdentifier a)
      (runEvents Body.unpack
        ((st.process a.side).collected (st.ref a.side))
        ((a.handled st.view a.side).map Message.body))
      (outputsOf Body.unpack
        ((st.process a.side).collected (st.ref a.side))
        ((a.handled st.view a.side).map Message.body))) :
    Learnt st' a.side
      (events ++ (st.events cfg sessionIdentifier a).map (fun e => (a.side, e)))
      (handled ++ a.handled st.view a.side) := by
  obtain ⟨hprocess, _, href⟩ := process_step hstep
  rw [h.collected] at hdelivers
  have hparcels : parcelsIn ((handled ++ a.handled st.view a.side).map Message.body) =
      parcelsIn (handled.map Message.body) ++
        outputsOf Body.unpack
          (collectedAfter (handled.map Message.body))
          ((a.handled st.view a.side).map Message.body) := by
    rw [List.map_append, parcelsIn, outputsOf_append]
    rfl
  have hevents : eventsOf a.side (events ++
      (st.events cfg sessionIdentifier a).map (fun e => (a.side, e))) =
        eventsOf a.side events ++ st.events cfg sessionIdentifier a := by
    rw [eventsOf_append, eventsOf_same]
  have hbefore : ∀ {id : UInt64},
      (∃ data timeout, .handed id (.request data timeout) ∈ eventsOf a.side events) →
        ∃ data timeout, .handed id (.request data timeout) ∈
          eventsOf a.side events ++ st.events cfg sessionIdentifier a := by
    rintro id ⟨data, timeout, hhanded⟩
    exact ⟨data, timeout, List.mem_append_left _ hhanded⟩
  constructor
  · exact hheard
  · rw [hprocess, href, hdelivers.collected, List.map_append]
    exact (runEvents_append Body.unpack _ _ _).symm
  · have hgot : (eventsOf a.side events).filterMap Event.parcel =
        (parcelsIn (handled.map Message.body)).filter Parcel.called := h.got
    rw [gotBy, hevents, List.filterMap_append, hgot, parcels_of_events, hdelivers.called,
      hparcels, List.filter_append]
  · intro id data hanswered
    rw [hprocess] at hanswered
    rw [hparcels]
    rcases hdelivers.answers id data hanswered with hold | hnew
    · exact List.mem_append_left _ (h.answers id data hold)
    · exact List.mem_append_right _ hnew
  · intro id hblocked
    rw [hprocess] at hblocked
    rw [hevents]
    rcases blocked_step hsound hblocked with hold | ⟨data, timeout, hnew⟩
    · exact hbefore (h.blocked id hold)
    · exact ⟨data, timeout, List.mem_append_right _ hnew⟩
  · intro id data hreturned
    rw [hevents] at hreturned ⊢
    rw [hparcels]
    rcases List.mem_append.mp hreturned with hold | hnew
    · obtain ⟨hresponse, hrequest⟩ := h.returned id data hold
      exact ⟨List.mem_append_left _ hresponse, hbefore hrequest⟩
    · have hanswered := answered_of_events hnew
      exact ⟨List.mem_append_left _ (h.answers id data hanswered),
        hbefore (h.blocked id hanswered.blocked)⟩

end Learnt

namespace Corresponds

variable {cfg : Config} {sessionIdentifier : Bytes} {st st' : Connection Peer} {a : Action}
  {events : List (Side × Event)}

/-- Nothing was sent yet. -/
theorem of_initial
    (h : st.Initial)
    (hsupplied : st.Supplied) :
    Corresponds st [] := by
  have hspoken : ∀ x, st.spoken x = [] := by
    intro x
    rw [Connection.spoken, h.log]
    rfl
  constructor
  · exact hsupplied.allocation
  · intro x
    rw [hspoken x]
    exact .of_not_carries (fun m hm => absurd hm List.not_mem_nil) rfl
  · intro x
    refine ⟨[], ⟨?_, ?_⟩, ?_, rfl, ?_, ?_, ?_⟩
    · change Channel (st.spoken x.other) ([] ++ (st.party x).statements.filterMap _)
        (plainOf (st.incoming x)) _
      rw [hspoken, h.statements x, h.incoming x]
      exact .nil
    · intro m hm
      change .handle m ∈ (st.party x).statements at hm
      rw [h.statements x] at hm
      cases hm
    · obtain ⟨k, c, hsession, _⟩ := h.session x
      have hbuffers : (st.session x).incomingBuffer = (Session.create (some k)).incomingBuffer := by
        rw [hsession]
      funext id
      change (if id = 0 then none else (st.session x).incomingBuffer.find id) = none
      rw [hbuffers]
      split
      · rfl
      · rfl
    · intro id data hanswered
      rw [Process.Answered, hsupplied.unblocked x] at hanswered
      cases hanswered
    · intro id hblocked
      rw [Process.Blocked, hsupplied.unblocked x] at hblocked
      cases hblocked
    · exact fun id data hreturned => absurd hreturned List.not_mem_nil

/-- A message that is handled was sent, so it has an id. -/
theorem addressed
    {k : HandshakeIds}
    {b : Progress}
    (h : Corresponds st events)
    (hat : Handshake sessionIdentifier k b st.view)
    (hdialogue : Dialogue.Step cfg sessionIdentifier st.view a st'.view)
    {m : Message}
    (hm : m ∈ a.handled st.view a.side) :
    m.body.Addressed := by
  obtain ⟨handled, hlearnt⟩ := h.learnt a.side
  have hheard := hlearnt.heard.step hat hdialogue
  have hbegins : handled ++ a.handled st.view a.side <+: st'.spoken a.side.other :=
    (List.prefix_append _ _).trans hheard.channel.begins
  have hquiet : st'.spoken a.side.other = st.spoken a.side.other :=
    (spoken_step hdialogue).1 _ (Side.other_ne _)
  rw [hquiet] at hbegins
  exact (h.ships a.side.other).addressed m (hbegins.subset (List.mem_append_right _ hm))

/-- Every step keeps the correspondence. -/
theorem step
    {k : HandshakeIds}
    {b : Progress}
    (h : Corresponds st events)
    (hsound : st.Sound)
    (hat : Handshake sessionIdentifier k b st.view)
    (hsized : a.Sized)
    (hlen : sessionIdentifier.length ≤ 64000)
    (hstep : (connection cfg sessionIdentifier).step st a = some st') :
    Corresponds st'
      (events ++ (st.events cfg sessionIdentifier a).map (fun e => (a.side, e))) := by
  have hdialogue := (Connection.dialogue_step hsound hlen hstep).1
  have hopen : ∀ x, (st.session x).statemachine = .sessionReady →
      (st.session x).socket.any Socket.isOpen = true := by
    intro x hready
    refine hat.isOpen x fun hclosed => ?_
    cases hready.symm.trans hclosed
  obtain ⟨hquiet, more, hmore, hmoreShips⟩ := ships_step hsound hopen hsized hlen hstep
  obtain ⟨hprocess, hothers, _⟩ := process_step hstep
  have hships : ∀ x, Ships (st'.spoken x)
      (eventsOf x (events ++ (st.events cfg sessionIdentifier a).map (fun e => (a.side, e)))) := by
    intro x
    rw [eventsOf_append]
    by_cases hx : x = a.side
    · subst hx
      rw [eventsOf_same, hmore]
      exact (h.ships a.side).append hmoreShips
    · rw [eventsOf_other hx, List.append_nil, hquiet x hx]
      exact h.ships x
  have haddressed : ∀ m ∈ a.handled st.view a.side, m.body.Addressed :=
    fun m hm => h.addressed hat hdialogue hm
  constructor
  · intro x size
    by_cases hx : x = a.side
    · subst hx
      rw [hprocess, (delivers_step hsound (h.allocation a.side) haddressed).allocation]
      exact h.allocation a.side size
    · rw [hothers x hx]
      exact h.allocation x size
  · exact hships
  · intro x
    obtain ⟨handled, hlearnt⟩ := h.learnt x
    have hheard := hlearnt.heard.step hat hdialogue
    by_cases hx : x = a.side
    · subst hx
      exact ⟨_, hlearnt.of_own hsound hheard hstep
        (delivers_step hsound (h.allocation a.side) haddressed)⟩
    · exact ⟨_, hlearnt.of_other hx hheard hstep⟩

end Corresponds

/-! ## Delivery -/

/-- The applications and the connection correspond along every run. -/
theorem corresponds_of_reaches
    {cfg : Config}
    {sessionIdentifier : Bytes}
    (hlen : sessionIdentifier.length ≤ 64000)
    {st : Connection Peer × List (Side × Event)}
    (h : (exchange cfg sessionIdentifier).Reaches (fun _ a => a.Sized) st) :
    Corresponds st.1 st.2 := by
  refine TransitionSystem.Reaches.observed_invariant (fun _ (a : Action) => a.Sized) ?_ ?_ h
  · exact fun s hs => .of_initial hs.1 hs.2
  · intro s seen a s' hrun hcorresponds hsized hstep
    have hconnection := hrun.of_startingFrom
    obtain ⟨k, b, hat⟩ := handshake_of_reaches hlen hconnection.reachable
    exact hcorresponds.step (sound_of_reaches hlen hconnection) hat hsized hlen hstep

/-- Where the server announces its data, the applications know their sessions along every
run. -/
theorem introduced_of_reaches
    {cfg : Config}
    {sessionIdentifier : Bytes}
    (hlen : sessionIdentifier.length ≤ 64000)
    {st : Connection Peer × List (Side × Event)}
    (h : (exchange cfg sessionIdentifier).Reaches (fun st a => st.1.Permits a) st) :
    Introduced sessionIdentifier st.1 st.2 := by
  let Inv : Connection Peer → List (Side × Event) → Prop := fun st events =>
    Corresponds st events ∧ Introduced sessionIdentifier st events ∧
      ∃ k b, Handshake sessionIdentifier k b st.view ∧ Foretold b st.view
  have hinv : Inv st.1 st.2 := by
    refine TransitionSystem.Reaches.observed_invariant Connection.Permits ?_ ?_ h
    · intro s hs
      exact ⟨.of_initial hs.1 hs.2, .of_initial hs.1, ⟨0, 0, 0⟩, .idle,
        Handshake.of_initial hs.1 sessionIdentifier _, .of_initial hs.1⟩
    · rintro s seen a s' hrun ⟨hcorresponds, hintroduced, k, b, hat, hforetold⟩
        ⟨hannounced, hsized⟩ hstep
      have hsound := sound_of_reaches hlen hrun.of_startingFrom
      have hdialogue := (Connection.dialogue_step hsound hlen hstep).1
      obtain ⟨k', b', hmove, hat'⟩ := hat.step hdialogue
      refine ⟨hcorresponds.step hsound hat hsized hlen hstep, ?_, k', b', hat',
        hforetold.step hat hmove hannounced (spares_step hstep)⟩
      refine hintroduced.step hforetold hat hmove fun parcel hparcel => ?_
      exact handled_of_got hsound (hcorresponds.allocation a.side)
        (fun m hm => hcorresponds.addressed hat hdialogue hm) hparcel
  exact hinv.2.1

/-- In every run of a client and a server on one connection, in which the server hands nothing
over between its ready state and its init reply message, the callbacks of a side get what the
other side handed over: in order, once and unchanged, and none of it before the create
callback.  If the socket of the side is open and nothing is on its way to it, they have got
all of it. -/
theorem delivered_in_order
    {cfg : Config}
    {sessionIdentifier : Bytes}
    (hlen : sessionIdentifier.length ≤ 64000)
    {st : Connection Peer × List (Side × Event)}
    (h : (exchange cfg sessionIdentifier).Reaches (fun st a => st.1.Permits a) st)
    (x : Side) :
    gotBy x st.2 <+: (parcelsOf (handedBy x.other st.2)).filter Parcel.called ∧
      ((st.1.session x).socket.any Socket.isOpen = true → (st.1.party x).statements = [] →
        st.1.incoming x = [] →
          gotBy x st.2 =
            (parcelsOf (handedBy x.other st.2)).filter Parcel.called) ∧
      CreatedFirst sessionIdentifier (eventsOf x st.2) := by
  have hcorresponds := corresponds_of_reaches hlen (h.mono fun _ _ hallowed => hallowed.2)
  obtain ⟨handled, hlearnt⟩ := hcorresponds.learnt x
  have hparcels : parcelsIn ((st.1.spoken x.other).map Message.body) =
      parcelsOf (handedBy x.other st.2) :=
    (hcorresponds.ships x.other).parcels
  rw [hlearnt.got, ← hparcels]
  refine ⟨?_, ?_, (introduced_of_reaches hlen h).first x⟩
  · exact (parcelsIn_begins (hlearnt.begins.map Message.body)).filter _
  · intro hopen hidle hincoming
    have hchannel := hlearnt.heard.channel
    change Channel (st.1.spoken x.other) (handled ++ (st.1.party x).statements.filterMap _)
      (plainOf (st.1.incoming x)) _ at hchannel
    rw [hidle, hincoming, List.filterMap_nil, List.append_nil] at hchannel
    rw [hchannel.received_eq hopen]

/-- Behind the init reply message all calls are allowed that hand over enough little. -/
theorem allowed_of_announced
    {cfg : Config}
    {sessionIdentifier : Bytes}
    {st : Connection Peer × List (Side × Event)}
    {as : List Action}
    (h : ∃ e ∈ st.1.log, e.sender = .server ∧ e.message.body.opensSession = true)
    (hsized : ∀ a ∈ as, a.Sized) :
    (exchange cfg sessionIdentifier).execAllowed (fun st a => st.1.Permits a)
      st as := by
  induction as generalizing st with
  | nil => exact trivial
  | cons a as ih =>
      refine ⟨⟨Connection.announced_of_log h a, hsized a List.mem_cons_self⟩,
        fun st' hstep => ih ?_ fun a' ha' => hsized a' (List.mem_cons_of_mem a ha')⟩
      obtain ⟨next, hnext, rfl⟩ := Option.map_eq_some_iff.mp hstep
      obtain ⟨e, he, hreply⟩ := h
      exact ⟨e, (Connection.log_prefix_of_step hnext).subset he, hreply⟩

/-- The server has sent its init reply message. -/
def greetingActions : List Action :=
  .start :: .receive .server :: List.replicate 9 (.statement .server)

/-- The server sends a stream message before the client has taken the init reply message.
The client sends a stream message and a request, and gets its response. -/
def talkingActions : List Action :=
  [.call .server (.stream [6] false), .receive .client] ++
    List.replicate 8 (.statement .client) ++
    [.call .client (.stream [1, 2] false), .call .client (.request [3] 10),
      .receive .client, .statement .client,
      .receive .server, .statement .server, .receive .server, .statement .server,
      .call .server (.response [4, 5] 1),
      .receive .client, .statement .client, .receive .client, .statement .client,
      .receive .server, .statement .server, .call .client (.wake 1)]

/-- The connection behind the init reply message, and behind all of it, and what the
applications saw. -/
def greeted : Connection Peer × List (Side × Event) :=
  ((exchange Config.default [7]).exec (freshConnection, []) greetingActions).getD
    (freshConnection, [])

def exchanged : Connection Peer × List (Side × Event) :=
  ((exchange Config.default [7]).exec greeted talkingActions).getD (freshConnection, [])

theorem exec_greetingActions :
    (exchange Config.default [7]).exec (freshConnection, []) greetingActions = some greeted :=
  rfl

theorem exec_talkingActions :
    (exchange Config.default [7]).exec greeted talkingActions = some exchanged :=
  rfl

theorem log_greeted :
    ∃ e ∈ greeted.1.log, e.sender = .server ∧ e.message.body.opensSession = true := by
  have hany : greeted.1.log.any
      (fun e => e.sender = .server && e.message.body.opensSession) = true := rfl
  simpa using hany

theorem reaches_greeted :
    (exchange Config.default [7]).Reaches (fun st a => st.1.Permits a) greeted := by
  have hinit : (exchange Config.default [7]).init (freshConnection, []) :=
    ⟨⟨init_freshConnection, fun _ _ => rfl, fun _ => rfl⟩, rfl⟩
  have hgreeting : ∀ a ∈ greetingActions, ∀ st : Connection Peer × List (Side × Event),
      st.1.Permits a := by
    intro a ha st
    cases a with
    | call x c => simp [greetingActions] at ha
    | _ => exact ⟨trivial, by exact Nat.zero_le _⟩
  exact .of_exec (.init hinit)
    (TransitionSystem.execAllowed_of_forall hgreeting _) exec_greetingActions

theorem reaches_exchanged :
    (exchange Config.default [7]).Reaches (fun st a => st.1.Permits a) exchanged :=
  reaches_greeted.of_exec (allowed_of_announced log_greeted (by decide)) exec_talkingActions

/-- The callbacks of both sides got the stream messages and the request, and not before the
create callback. -/
theorem delivered_in_order_exchanged :
    eventsOf .client exchanged.2 =
        [.created [7], .handed 1 (.stream [1, 2] false), .handed 1 (.request [3] 10),
          .got (.stream [6]), .returned 1 [4, 5]] ∧
      CreatedFirst [7] (eventsOf .client exchanged.2) ∧
      gotBy .client exchanged.2 =
        (parcelsOf (handedBy .server exchanged.2)).filter Parcel.called ∧
      gotBy .server exchanged.2 = [.stream [1, 2], .message 1 (some [3])] ∧
      gotBy .server exchanged.2 =
        (parcelsOf (handedBy .client exchanged.2)).filter Parcel.called := by
  have hlen : ([7] : Bytes).length ≤ 64000 := by decide
  obtain ⟨_, hclient, hcreated⟩ := delivered_in_order hlen reaches_exchanged .client
  obtain ⟨_, hserver, _⟩ := delivered_in_order hlen reaches_exchanged .server
  exact ⟨rfl, hcreated, hclient rfl rfl rfl, rfl, hserver rfl rfl rfl⟩

/-- A response is returned only to the side that handed over the request, and it is what
the other side handed over as the response to it. -/
theorem returned_responses
    {cfg : Config}
    {sessionIdentifier : Bytes}
    (hlen : sessionIdentifier.length ≤ 64000)
    {st : Connection Peer × List (Side × Event)}
    (h : (exchange cfg sessionIdentifier).Reaches (fun _ a => a.Sized) st)
    {x : Side}
    {id : UInt64}
    {data : Bytes}
    (hreturned : .returned id data ∈ eventsOf x st.2) :
    (∃ request timeout, (id, .request request timeout) ∈ handedBy x st.2) ∧
      ∃ id', (id', .response data id) ∈ handedBy x.other st.2 := by
  have hcorresponds := corresponds_of_reaches hlen h
  obtain ⟨handled, hlearnt⟩ := hcorresponds.learnt x
  obtain ⟨hmem, request, timeout, hrequest⟩ := hlearnt.returned id data hreturned
  refine ⟨⟨request, timeout, List.mem_filterMap.mpr ⟨_, hrequest, rfl⟩⟩, ?_⟩
  have hsent := (parcelsIn_begins (hlearnt.begins.map Message.body)).subset hmem
  rw [(hcorresponds.ships x.other).parcels] at hsent
  obtain ⟨⟨id', op⟩, hop, hparcel⟩ := List.mem_map.mp hsent
  cases op with
  | stream => cases hparcel
  | normalMessage => cases hparcel
  | request => cases hparcel
  | response data' blockerId =>
      rw [SendOperation.parcel, Parcel.ofBlock] at hparcel
      split at hparcel
      · cases hparcel
      · cases hparcel
        exact ⟨id', hop⟩

/-- The request of the client got its response. -/
theorem returned_responses_exchanged :
    .returned 1 [4, 5] ∈ eventsOf .client exchanged.2 ∧
      (∃ request timeout, (1, .request request timeout) ∈ handedBy .client exchanged.2) ∧
        ∃ id', (id', .response [4, 5] 1) ∈ handedBy .server exchanged.2 := by
  have hlast : (eventsOf .client exchanged.2).getLast? = some (.returned 1 [4, 5]) := rfl
  have hreturned := List.mem_of_getLast? hlast
  exact ⟨hreturned, returned_responses (by decide)
    (reaches_exchanged.mono fun _ _ hallowed => hallowed.2) hreturned⟩

end SakuraNetwork

import SakuraNetwork.ReplyObligation

/-!
# A client and a server on one connection

The session of a client and the session of a server, each in its process, and the frames
on their way between them.  The receive thread of a side takes one frame at a time and
runs the statements of its handler; between any two of them the other threads of the
process and the other side take their steps.

* `Statement.run`, `Message.statements`: the handlers of the handshake, one statement at a
  time; `complete_statements`: together they are what the message does.
* `beginClose`, `closeSession_process`: a close, and what follows its close start message.
* `Connection`, `connection`: the state of both sides, and its runs.
-/

namespace SakuraNetwork

open Lib

/-! ## The handlers as threads -/

/-- What a receive thread does without a step of another thread in between.  The
statements of the handshake are steps of their own; every other message is handled in
one step. -/
inductive Statement where
  | handle (m : Message)
  | removeMessage (sessionId messageId : UInt32)
  | processSessionInitStart (clientSessionId messageId : UInt32) (sessionIdentifier : Bytes)
  | addSession (sessionId : UInt32)
  | removeSession (sessionId : UInt32)
  | connectiSession (sessionId : UInt32)
  | makeSessionReady (sessionId : UInt32) (sessionIdentifier : Bytes)
  | assignSessionId (sessionId : UInt32)
  | assignSessionIdentifier (sessionIdentifier : Bytes)
  | processCreateSession (sessionId : UInt32) (sessionIdentifier : Bytes)
  | assignInitState (initState : Int)
  | sendSessionInitReply (initialSessionId messageId completeSessionId : UInt32)
      (sessionIdentifier : Bytes)
deriving DecidableEq

/-- One statement, and the statements it goes on with. -/
def Statement.run (s : SessionRef) : Statement → Act (List Statement)
  | .handle m => do
      m.handle s
      pure []
  | .removeMessage sessionId messageId => do
      let _ ← ReplyHandler.removeMessage sessionId messageId
      pure []
  | .processSessionInitStart clientSessionId messageId sessionIdentifier => do
      let serverSessionId ← SessionHandler.increaseSessionIdCounter
      let sessionId := completeSessionId clientSessionId serverSessionId
      pure [.addSession sessionId, .connectiSession sessionId,
        .makeSessionReady sessionId sessionIdentifier,
        .sendSessionInitReply clientSessionId messageId sessionId sessionIdentifier]
  | .addSession sessionId => do
      SessionHandler.addSession sessionId s
      pure []
  | .removeSession sessionId => do
      let _ ← SessionHandler.removeSession sessionId
      pure []
  | .connectiSession sessionId => do
      let _ ← SakuraNetwork.connectiSession s sessionId
      pure []
  | .makeSessionReady sessionId sessionIdentifier => do
      let moved ← goToNextState s .startSession (some .sessionNotReady)
      if moved then
        pure [.assignSessionId sessionId, .assignSessionIdentifier sessionIdentifier,
          .processCreateSession sessionId sessionIdentifier, .assignInitState 1]
      else pure [.assignInitState (-1)]
  | .assignSessionId sessionId => do
      modifySession s (fun x => { x with sessionId := sessionId })
      pure []
  | .assignSessionIdentifier sessionIdentifier => do
      modifySession s (fun x => { x with sessionIdentifier := sessionIdentifier })
      pure []
  | .processCreateSession sessionId sessionIdentifier => do
      Act.emit (.processCreateSession s sessionId sessionIdentifier)
      pure []
  | .assignInitState initState => do
      modifySession s (fun x => { x with initState := initState })
      pure []
  | .sendSessionInitReply initialSessionId messageId completeSessionId sessionIdentifier => do
      let _ ← SakuraNetwork.sendSessionInitReply s initialSessionId messageId completeSessionId
        sessionIdentifier
      pure []

/-- A statement with everything it goes on with, without a step of another thread. -/
def Statement.complete (s : SessionRef) : Statement → Act Unit
  | .processSessionInitStart clientSessionId messageId sessionIdentifier =>
      (Body.sessionInitStart clientSessionId sessionIdentifier).handle s messageId
  | .makeSessionReady sessionId sessionIdentifier => do
      let _ ← SakuraNetwork.makeSessionReady s sessionId sessionIdentifier
  | st => do
      let _ ← st.run s

/-- The statements of a handler, one after the other. -/
def Statement.completeAll (s : SessionRef) : List Statement → Act Unit
  | [] => pure ()
  | st :: rest => do
      st.complete s
      completeAll s rest

/-- The statements of the receive thread for a message. -/
def Message.statements (m : Message) : List Statement :=
  match m.body with
  | .sessionInitStart clientSessionId sessionIdentifier =>
      [.processSessionInitStart clientSessionId m.messageId sessionIdentifier]
  | .sessionInitReply clientSessionId completeSessionId sessionIdentifier =>
      [.removeMessage m.sessionId m.messageId, .removeSession clientSessionId,
        .addSession completeSessionId, .makeSessionReady completeSessionId sessionIdentifier]
  | _ => [.handle m]

/-- A statement goes on with what completes it. -/
theorem complete_run
    (s : SessionRef)
    (st : Statement)
    (p : Process) :
    (((do
      let rest ← st.run s
      Statement.completeAll s rest : Act Unit).run p).result) = ((st.complete s).run p).result := by
  cases st with
  | processSessionInitStart clientSessionId messageId sessionIdentifier =>
      simp [Statement.run, Statement.complete, Statement.completeAll, Body.handle, Act.run_bind,
        Outcome.result]
  | makeSessionReady sessionId sessionIdentifier =>
      simp only [Statement.run, Statement.complete, makeSessionReady, Act.run_bind,
        Outcome.result]
      cases ((goToNextState s .startSession (some .sessionNotReady)).run p).value with
      | false =>
          simp [Statement.completeAll, Statement.complete, Statement.run]
      | true =>
          simp [Statement.completeAll, Statement.complete, Statement.run, Act.run_bind]
  | _ =>
      simp [Statement.run, Statement.complete, Statement.completeAll, Outcome.result]

/-- The statements of a message are what the message does. -/
theorem complete_statements
    (s : SessionRef)
    (m : Message)
    (p : Process) :
    ((Statement.completeAll s m.statements).run p).result = ((m.handle s).run p).result := by
  obtain ⟨sessionId, messageId, body⟩ := m
  cases body with
  | sessionInitStart clientSessionId sessionIdentifier =>
      have hflags : (0x1 &&& 0x2 : UInt8) = 0 := by decide
      have hreply : (Message.mk sessionId messageId
          (.sessionInitStart clientSessionId sessionIdentifier)).isReply = false := by
        simp [Message.isReply, Body.flags, hflags]
      rw [Message.handle_of_not_reply hreply]
      simp [Message.statements, Statement.completeAll, Statement.complete, Outcome.result]
  | sessionInitReply clientSessionId completeSessionId sessionIdentifier =>
      have hreply : (Message.mk sessionId messageId
          (.sessionInitReply clientSessionId completeSessionId sessionIdentifier)).isReply =
            true := by
        simp [Message.isReply, Body.flags]
      simp [Message.statements, Statement.completeAll, Statement.complete, Statement.run,
        Message.handle, hreply, Body.handle, Act.run_bind, Outcome.result]
  | _ =>
      simp [Message.statements, Statement.completeAll, Statement.complete, Statement.run,
        Outcome.result]

/-! ## Closing -/

/-- `Session::closeSession` until its close start message is sent: `true` where the
session was ready. -/
def beginClose (s : SessionRef) (replyExpected : Bool) : Act Bool := do
  let x ← getSession s
  if x.statemachine.isInState .sessionReady then
    ReplyHandler.removeAllOfSession x.sessionId
    let _ ← MultiblockIo.removeMultiblockBuffer s 0
    let _ ← sendSessionCloseStart s replyExpected
    pure true
  else pure false

/-- A close without reply goes on with `endSession`. -/
theorem closeSession_run
    (s : SessionRef)
    (replyExpected : Bool)
    (p : Process) :
    (((do
      let _ ← closeSession s replyExpected : Act Unit).run p).result) =
      ((do
        let begun ← beginClose s replyExpected
        if begun && !replyExpected then
          let _ ← endSession s : Act Unit).run p).result := by
  rw [closeSession, beginClose]
  by_cases hstate : (p.session s).statemachine = .sessionReady
  · cases replyExpected with
    | true =>
        simp [hstate, Act.run_bind, Outcome.result]
    | false =>
        simp [hstate, Act.run_bind, Outcome.result]
  · simp [hstate, Act.run_bind, Outcome.result]

/-! ## The two sides -/

/-- The two sides of a connection. -/
inductive Side where
  | client
  | server
deriving DecidableEq

def Side.other : Side → Side
  | .client => .server
  | .server => .client

@[simp] theorem Side.other_ne (x : Side) : x.other ≠ x := by
  cases x <;> decide

@[simp] theorem Side.other_other (x : Side) : x.other.other = x := by
  cases x <;> rfl

theorem Side.eq_other {x y : Side} (h : y ≠ x) : y = x.other := by
  cases x with
  | client =>
      cases y with
      | client => exact absurd rfl h
      | server => rfl
  | server =>
      cases y with
      | client => rfl
      | server => exact absurd rfl h

/-- A process, and its session on the connection. -/
structure Peer where
  process : Process
  session : SessionRef

theorem Side.eq_or_other (x y : Side) : y = x ∨ y = x.other := by
  by_cases h : y = x
  · exact Or.inl h
  · exact Or.inr (Side.eq_other h)

/-- A side has a session in some state. -/
class HasState (σ : Type) where
  state : σ → SessionState

instance : HasState Peer where
  state p := (p.process.session p.session).statemachine

/-- One side: the message its receive thread took last, the statements this thread has
yet to run, the threads inside a close without reply that have yet to call `endSession`,
and whether the session has been ready. -/
structure Party (σ : Type) where
  core : σ
  handling : Option Message := none
  statements : List Statement := []
  ending : Nat := 0
  wasReady : Bool := false

/-- A frame handed to the socket of a side, and the message whose handler sent it. -/
structure Sent where
  sender : Side
  answered : Option Message
  message : Message
deriving DecidableEq

/-- Both sides, the frames on their way to each, and everything that was sent. -/
structure Connection (σ : Type) where
  party : Side → Party σ
  incoming : Side → List Message
  log : List Sent

/-- One side has taken a step in which it handed these messages to its socket. -/
def Connection.perform
    {σ : Type}
    [HasState σ]
    (st : Connection σ)
    (x : Side)
    (answered : Option Message)
    (core : σ)
    (statements : List Statement)
    (ending : Nat)
    (sent : List Message) : Connection σ where
  party := fun y =>
    if y = x then
      { core := core
        handling := (st.party x).handling
        statements := statements
        ending := ending
        wasReady := (st.party x).wasReady || HasState.state core = .sessionReady }
    else st.party y
  incoming := fun y => if y = x.other then st.incoming y ++ sent else st.incoming y
  log := st.log ++ sent.map (fun m => ⟨x, answered, m⟩)

/-- The receive thread takes the next frame. -/
def Connection.take
    {σ : Type}
    (st : Connection σ)
    (x : Side)
    (m : Message)
    (rest : List Message) : Connection σ where
  party := fun y =>
    if y = x then { st.party x with handling := some m, statements := m.statements }
    else st.party y
  incoming := fun y => if y = x then rest else st.incoming y
  log := st.log

/-- A frame arrives at a closed socket. -/
def Connection.drop
    {σ : Type}
    (st : Connection σ)
    (x : Side)
    (rest : List Message) : Connection σ where
  party := st.party
  incoming := fun y => if y = x then rest else st.incoming y
  log := st.log

/-! ## Runs -/

/-- What the application, the heartbeat thread and the timer threads do at any time. -/
inductive Call where
  | stream (data : Bytes) (replyExpected : Bool)
  | normalMessage (data : Bytes)
  | request (data : Bytes) (timeout : UInt64)
  | response (data : Bytes) (blockerId : UInt64)
  | heartbeat
  | wake (blockerId : UInt64)
  | replyTimer
  | blockerTimer

/-- The operation of the process, on the session of the connection if it works on one. -/
def Call.operation (s : SessionRef) : Call → Operation
  | .stream data replyExpected => .stream s data replyExpected
  | .normalMessage data => .normalMessage s data
  | .request data timeout => .request s data timeout
  | .response data blockerId => .response s data blockerId
  | .heartbeat => .heartbeat s
  | .wake blockerId => .wake blockerId
  | .replyTimer => .replyTimer
  | .blockerTimer => .blockerTimer

/-- The steps of a connection. -/
inductive Action where
  /-- The client calls `startSession`. -/
  | start
  | receive (x : Side)
  /-- The receive thread runs its next statement. -/
  | statement (x : Side)
  | call (x : Side) (c : Call)
  | close (x : Side) (replyExpected : Bool)
  /-- A thread inside a close without reply calls `endSession`. -/
  | endClose (x : Side)

namespace Connection

/-- The messages handed to the socket of a session. -/
def sentOver (s : SessionRef) (outs : List Output) : List Message :=
  (framesSent outs).filterMap (fun f => if f.1 = s then some f.2 else none)

/-- A thread of a side runs an operation of its session. -/
def run
    {α : Type}
    (st : Connection Peer)
    (x : Side)
    (answered : Option Message)
    (a : SessionRef → Act α)
    (statements : α → List Statement)
    (ending : α → Nat) : Connection Peer :=
  let peer := (st.party x).core
  let o := (a peer.session).run peer.process
  st.perform x answered { peer with process := o.process } (statements o.value) (ending o.value)
    (sentOver peer.session o.outputs)

/-- The session of a side. -/
def session (st : Connection Peer) (x : Side) : Session :=
  (st.party x).core.process.session (st.party x).core.session

/-- Before the client starts: two new sessions on sockets that work, and the socket of
the server is connected.  The message ids, the session ids and the tables of the
processes are arbitrary. -/
structure Initial (st : Connection Peer) : Prop where
  session : ∀ x, ∃ (k : Socket) (c : UInt32),
    st.session x = { Session.create (some k) with messageIdCounter := c } ∧
      k.initResult = true ∧ (∀ n, k.sendResults n = true) ∧ (x = .server → k.isOpen = true)
  handling : ∀ x, (st.party x).handling = none
  statements : ∀ x, (st.party x).statements = []
  ending : ∀ x, (st.party x).ending = 0
  wasReady : ∀ x, (st.party x).wasReady = false
  incoming : ∀ x, st.incoming x = []
  log : st.log = []

/-- A step of the connection; the client starts its new session once. -/
def step
    (cfg : Config)
    (sessionIdentifier : Bytes)
    (st : Connection Peer) : Action → Option (Connection Peer)
  | .start =>
      if st.log = [] ∧ (st.session .client).statemachine = .notConnected then
        some (st.run .client none (fun s => startSession s sessionIdentifier)
          (fun _ => (st.party .client).statements) (fun _ => (st.party .client).ending))
      else none
  | .receive x =>
      match (st.party x).statements, st.incoming x with
      | [], m :: rest =>
          if (st.session x).socket.any Socket.isOpen then some (st.take x m rest)
          else some (st.drop x rest)
      | _, _ => none
  | .statement x =>
      match (st.party x).statements with
      | [] => none
      | statement :: rest =>
          some (st.run x (st.party x).handling (fun s => statement.run s) (fun l => l ++ rest)
            (fun _ => (st.party x).ending))
  | .call x c =>
      some (st.run x none (fun s => (c.operation s).act cfg) (fun _ => (st.party x).statements)
        (fun _ => (st.party x).ending))
  | .close x replyExpected =>
      some (st.run x none (fun s => beginClose s replyExpected)
        (fun _ => (st.party x).statements)
        (fun begun => (st.party x).ending + if begun && !replyExpected then 1 else 0))
  | .endClose x =>
      if 0 < (st.party x).ending then
        some (st.run x none endSession (fun _ => (st.party x).statements)
          (fun _ => (st.party x).ending - 1))
      else none

end Connection

/-- The runs of a connection on which the client starts a session. -/
def connection
    (cfg : Config)
    (sessionIdentifier : Bytes) : TransitionSystem (Connection Peer) Action where
  init := Connection.Initial
  step := Connection.step cfg sessionIdentifier

/-- Two processes before the start, on sockets that work. -/
def freshConnection : Connection Peer where
  party := fun x =>
    { core :=
        { process :=
            { session := fun _ => Session.create
                (some ⟨decide (x = .server), true, true, fun _ => true, 0⟩)
              allocation := fun _ => true
              randIds := fun _ => ⟨1, by decide⟩ }
          session := 0 } }
  incoming := fun _ => []
  log := []

theorem init_freshConnection : freshConnection.Initial := by
  constructor
  · exact fun x => ⟨_, _, rfl, rfl, fun _ => rfl, fun hx => by rw [hx]; rfl⟩
  · exact fun _ => rfl
  · exact fun _ => rfl
  · exact fun _ => rfl
  · exact fun _ => rfl
  · exact fun _ => rfl
  · exact rfl

end SakuraNetwork

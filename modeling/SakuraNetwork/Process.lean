import SakuraNetwork.Lib.OrderedMap
import SakuraNetwork.Lib.SwapRemove
import SakuraNetwork.MessageDefinitions
import SakuraNetwork.SessionStatemachine

/-!
# The state of a process and its operations

A process holds its session objects and the three process-wide tables: the
registry of sessions, the list of messages that await a reply and the list of
blocked requests.  An operation of the library is an `Act`: it returns a value,
changes the process, and leaves behind what can be observed of it, the frames
handed to sockets, the callbacks invoked, the threads notified, and the places
of a received frame it reads.

What lies outside the repository enters as data of the state: the outcome of
every socket call, of every allocation and of every draw of a random id.
-/

namespace SakuraNetwork

open Lib

/-- A pointer to a session object. -/
abbrev SessionRef := Nat

/-- A socket: whether it is open, and the outcome of its calls. -/
structure Socket where
  isOpen : Bool
  initResult : Bool
  closeResult : Bool
  sendResults : Nat → Bool
  sendCount : Nat := 0

/-- `MultiblockIO::MultiblockBuffer`; `incomingData` is the content of the data
buffer, or `none` for the null pointer. -/
structure MultiblockBuffer where
  multiblockId : UInt64 := 0
  messageSize : UInt64 := 0
  incomingData : Option Bytes := none
deriving DecidableEq

/-- The members of a `Session` and of its `MultiblockIO`. -/
structure Session where
  statemachine : SessionState := .notConnected
  socket : Option Socket := none
  incomingBuffer : OrderedMap UInt64 MultiblockBuffer := ∅
  /-- `MultiblockIO::m_abort`, set by the destructor. -/
  abort : Bool := false
  sessionId : UInt32 := 0
  sessionIdentifier : Bytes := []
  initState : Int := 0
  messageIdCounter : UInt32 := 0
  /-- The create, close and error callbacks were set by `addSession`. -/
  handlerCallbacks : Bool := false

/-- `Session::Session`: a session on a socket, in the first state of its machine. -/
def Session.create (socket : Option Socket) : Session where
  socket := socket

/-- `ReplyHandler::MessageTime`; the timer counts whole steps. -/
structure MessageTime where
  completeMessageId : UInt64
  timer : Nat := 0
  messageType : UInt8
  session : SessionRef
  ignoreResult : Bool := false
deriving DecidableEq

/-- `MessageBlockerHandler::MessageBlocker`. -/
structure MessageBlocker where
  session : SessionRef
  blockerId : UInt64
  timer : UInt64
  responseData : Option Bytes := none
deriving DecidableEq

/-- The text handed to an error callback: written by this side, or received. -/
inductive ErrorText where
  | text (s : String)
  | received (bytes : Bytes)
deriving DecidableEq

/-- What an operation does besides changing the process. -/
inductive Output where
  | sent (session : SessionRef) (message : Message)
  | processCreateSession (session : SessionRef) (sessionId : UInt32) (identifier : Bytes)
  | processCloseSession (session : SessionRef) (identifier : Bytes)
  | processStreamData (session : SessionRef) (data : Bytes)
  | processRequestData (session : SessionRef) (id : UInt64) (data : Option Bytes)
  | processError (session : SessionRef) (code : ErrorCode) (text : ErrorText)
  | notifyOne (blockerId : UInt64)
deriving DecidableEq

/-- An access to a received frame or to a fixed-size field of a reply. -/
inductive Access where
  | read (offset size : Nat)
  | write (size capacity : Nat)
deriving DecidableEq

/-- A process that uses the library. -/
structure Process where
  session : SessionRef → Session
  /-- `SessionHandler::m_sessions`. -/
  sessions : OrderedMap UInt32 SessionRef := ∅
  sessionIdCounter : UInt16 := 0
  /-- `ReplyHandler::m_messageList`. -/
  replyList : List MessageTime := []
  /-- `MessageBlockerHandler::m_messageList`. -/
  blockerList : List MessageBlocker := []
  /-- Whether a data buffer for so many bytes can be allocated. -/
  allocation : UInt64 → Bool
  /-- The values of the successive calls of `getRandId`, which never returns 0. -/
  randIds : Nat → {id : UInt64 // id ≠ 0}
  randCount : Nat := 0

/-- A process whose sessions were just created, with empty tables. -/
def Process.created (sockets : SessionRef → Option Socket) : Process where
  session := fun s => Session.create (sockets s)
  allocation := fun _ => true
  randIds := fun n => ⟨if UInt64.ofNat n = 0 then 1 else UInt64.ofNat n, by split <;> simp_all⟩

/-- The result of an operation. -/
structure Outcome (α : Type) where
  value : α
  process : Process
  outputs : List Output := []
  accesses : List Access := []

/-- What an operation does, apart from the places of the frame it touches. -/
def Outcome.result {α : Type} (o : Outcome α) : α × Process × List Output :=
  (o.value, o.process, o.outputs)

/-- An operation of the library. -/
structure Act (α : Type) where
  run : Process → Outcome α

namespace Act

variable {α β : Type}

instance : Monad Act where
  pure a := ⟨fun p => { value := a, process := p }⟩
  bind x f := ⟨fun p =>
    { value := ((f (x.run p).value).run (x.run p).process).value
      process := ((f (x.run p).value).run (x.run p).process).process
      outputs := (x.run p).outputs ++ ((f (x.run p).value).run (x.run p).process).outputs
      accesses := (x.run p).accesses ++ ((f (x.run p).value).run (x.run p).process).accesses }⟩

@[simp] theorem run_pure (a : α) (p : Process) :
    (pure a : Act α).run p = { value := a, process := p } := rfl

@[simp low] theorem run_bind (x : Act α) (f : α → Act β) (p : Process) :
    (x >>= f).run p =
      { value := ((f (x.run p).value).run (x.run p).process).value
        process := ((f (x.run p).value).run (x.run p).process).process
        outputs := (x.run p).outputs ++ ((f (x.run p).value).run (x.run p).process).outputs
        accesses := (x.run p).accesses ++
          ((f (x.run p).value).run (x.run p).process).accesses } := rfl

@[simp] theorem run_map (f : α → β) (x : Act α) (p : Process) :
    (f <$> x).run p =
      { value := f (x.run p).value
        process := (x.run p).process
        outputs := (x.run p).outputs ++ []
        accesses := (x.run p).accesses ++ [] } := rfl

@[simp] theorem run_ite (c : Prop) [Decidable c] (x y : Act α) (p : Process) :
    (if c then x else y).run p = if c then x.run p else y.run p := by
  split <;> rfl

/-- The current process. -/
def get : Act Process := ⟨fun p => { value := p, process := p }⟩

/-- Change the process. -/
def modify (f : Process → Process) : Act Unit := ⟨fun p => { value := (), process := f p }⟩

/-- Do something observable. -/
def emit (o : Output) : Act Unit := ⟨fun p => { value := (), process := p, outputs := [o] }⟩

/-- Touch a received frame or a field of a reply. -/
def touch (a : Access) : Act Unit := ⟨fun p => { value := (), process := p, accesses := [a] }⟩

@[simp] theorem run_get (p : Process) :
    get.run p = { value := p, process := p } := rfl

@[simp] theorem run_modify (f : Process → Process) (p : Process) :
    (modify f).run p = { value := (), process := f p } := rfl

@[simp] theorem run_emit (o : Output) (p : Process) :
    (emit o).run p = { value := (), process := p, outputs := [o] } := rfl

@[simp] theorem run_touch (a : Access) (p : Process) :
    (touch a).run p = { value := (), process := p, accesses := [a] } := rfl

@[simp] theorem run_get_bind (f : Process → Act β) (p : Process) :
    (get >>= f).run p = (f p).run p := rfl

@[simp] theorem run_modify_bind (g : Process → Process) (f : Unit → Act β) (p : Process) :
    (modify g >>= f).run p = (f ()).run (g p) := rfl

@[simp] theorem run_emit_bind (o : Output) (f : Unit → Act β) (p : Process) :
    (emit o >>= f).run p =
      { (f ()).run p with outputs := o :: ((f ()).run p).outputs } := rfl

@[simp] theorem run_touch_bind (a : Access) (f : Unit → Act β) (p : Process) :
    (touch a >>= f).run p =
      { (f ()).run p with accesses := a :: ((f ()).run p).accesses } := rfl

@[simp] theorem run_pure_bind (a : α) (f : α → Act β) (p : Process) :
    (pure a >>= f).run p = (f a).run p := rfl

end Act

namespace Process

/-- Change one session object. -/
def modifySession (p : Process) (s : SessionRef) (f : Session → Session) : Process :=
  { p with session := fun r => if r = s then f (p.session s) else p.session r }

@[simp] theorem modifySession_same (p : Process) (s : SessionRef) (f : Session → Session) :
    (p.modifySession s f).session s = f (p.session s) := by
  simp [modifySession]

/-- Other session objects stay as they are. -/
theorem modifySession_other (p : Process) {s r : SessionRef} (f : Session → Session)
    (h : r ≠ s) :
    (p.modifySession s f).session r = p.session r := by
  simp [modifySession, h]

/-- Only the value at the members the session has matters. -/
theorem modifySession_congr
    {p : Process}
    {s : SessionRef}
    {f g : Session → Session}
    (h : f (p.session s) = g (p.session s)) :
    p.modifySession s f = p.modifySession s g := by
  simp only [modifySession, h]

theorem modifySession_eq_self
    {p : Process}
    {s : SessionRef}
    {f : Session → Session}
    (h : f (p.session s) = p.session s) :
    p.modifySession s f = p := by
  have hfun : (fun r => if r = s then f (p.session s) else p.session r) = p.session := by
    funext r
    by_cases hr : r = s
    · simp [hr, h]
    · simp [hr]
  simp only [modifySession, hfun]

@[simp] theorem modifySession_modifySession
    (p : Process)
    (s : SessionRef)
    (f g : Session → Session) :
    (p.modifySession s f).modifySession s g = p.modifySession s (fun x => g (f x)) := by
  simp only [modifySession, if_true]
  congr 1
  funext r
  by_cases hr : r = s
  · simp [hr]
  · simp [hr]

@[simp] theorem modifySession_sessions (p : Process) (s : SessionRef) (f : Session → Session) :
    (p.modifySession s f).sessions = p.sessions := rfl

@[simp] theorem modifySession_sessionIdCounter (p : Process) (s : SessionRef)
    (f : Session → Session) :
    (p.modifySession s f).sessionIdCounter = p.sessionIdCounter := rfl

@[simp] theorem modifySession_replyList (p : Process) (s : SessionRef) (f : Session → Session) :
    (p.modifySession s f).replyList = p.replyList := rfl

@[simp] theorem modifySession_blockerList (p : Process) (s : SessionRef) (f : Session → Session) :
    (p.modifySession s f).blockerList = p.blockerList := rfl

@[simp] theorem modifySession_allocation (p : Process) (s : SessionRef) (f : Session → Session) :
    (p.modifySession s f).allocation = p.allocation := rfl

end Process

/-- The members of a session. -/
def getSession (s : SessionRef) : Act Session := do
  let p ← Act.get
  pure (p.session s)

/-- Assign to members of a session. -/
def modifySession (s : SessionRef) (f : Session → Session) : Act Unit :=
  Act.modify (fun p => p.modifySession s f)

@[simp] theorem run_getSession (s : SessionRef) (p : Process) :
    (getSession s).run p = { value := p.session s, process := p } := rfl

@[simp] theorem run_getSession_bind {β : Type} (s : SessionRef) (f : Session → Act β)
    (p : Process) :
    (getSession s >>= f).run p = (f (p.session s)).run p := rfl

@[simp] theorem run_modifySession_bind {β : Type} (s : SessionRef) (g : Session → Session)
    (f : Unit → Act β) (p : Process) :
    (modifySession s g >>= f).run p = (f ()).run (p.modifySession s g) := rfl

@[simp] theorem run_modifySession (s : SessionRef) (f : Session → Session) (p : Process) :
    (modifySession s f).run p = { value := (), process := p.modifySession s f } := rfl

end SakuraNetwork

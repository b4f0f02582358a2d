import SakuraNetwork.MessageRuns
import SakuraNetwork.ReceiveFraming
import SakuraNetwork.Lib.Simulation

/-!
# A connection as bytes

The connection of a client and a server as the sockets see it.  A message is handed to the
socket as the bytes of its frame.  The bytes arrive in any portions, are appended to the
receive buffer, and `processMessage` takes from the front of the buffer what it can use.

* `Line`, `Wire`, `wire`: the state of both sides, and its runs.
* `bytesOf`: the frames of some messages.
* `wireExchange`: the runs with what the applications see of them.
-/

namespace SakuraNetwork

open Lib

/-- One side: its process and session, the threads that have yet to call `endSession`, the
unread bytes of its receive buffer, the calls of `processMessage`, and the number of frames it
has handed to its socket. -/
structure Line where
  peer : Peer
  ending : Nat := 0
  unread : Bytes := []
  calls : Nat := 0
  sent : Nat := 0

/-- Both sides, and the bytes on their way to each. -/
structure Wire where
  line : Side → Line
  transit : Side → Bytes

/-- The memory that each frame is assembled over, and the memory behind the unread bytes in
each call of `processMessage`. -/
structure Memories where
  found : Side → Nat → Memory
  beyond : Side → Nat → Memory

/-- The bytes of some messages, from the frame with this number on. -/
def bytesOf (found : Nat → Memory) (n : Nat) : List Message → Bytes
  | [] => []
  | m :: rest => m.bytes (found n) ++ bytesOf found (n + 1) rest

/-- The steps of a wire. -/
inductive WireAction where
  | start
  /-- This number of bytes arrives. -/
  | arrive (x : Side) (n : Nat)
  /-- The receive thread calls `processMessage`. -/
  | process (x : Side)
  | call (x : Side) (c : Call)
  | close (x : Side) (replyExpected : Bool)
  | endClose (x : Side)

def WireAction.side : WireAction → Side
  | .start => .client
  | .arrive x _ | .process x | .call x _ | .close x _ | .endClose x => x

/-- No call hands over more than a multi-block message holds. -/
def WireAction.Sized : WireAction → Prop
  | .call x c => (Action.call x c).Sized
  | _ => True

instance : DecidablePred WireAction.Sized := by
  intro a
  cases a with
  | call x c => exact inferInstanceAs (Decidable (Action.call x c).Sized)
  | _ => exact inferInstanceAs (Decidable True)

namespace Wire

/-- A thread of a side runs an operation of its session. -/
def run
    {α : Type}
    (w : Wire)
    (memories : Memories)
    (x : Side)
    (f : SessionRef → Act α)
    (ending : α → Nat) : Wire :=
  let line := w.line x
  let o := (f line.peer.session).run line.peer.process
  let messages := Connection.sentOver line.peer.session o.outputs
  { line := fun y =>
      if y = x then
        { line with
          peer := { line.peer with process := o.process }
          ending := ending o.value
          sent := line.sent + messages.length }
      else w.line y
    transit := fun y =>
      if y = x.other then w.transit y ++ bytesOf (memories.found x) line.sent messages
      else w.transit y }

/-- The session of a side. -/
def session (w : Wire) (x : Side) : Session :=
  (w.line x).peer.process.session (w.line x).peer.session

/-- The receive buffer of a side. -/
def buffer (w : Wire) (memories : Memories) (x : Side) : RingBuffer :=
  ⟨(w.line x).unread, memories.beyond x (w.line x).calls⟩

/-- The bytes that `processMessage` takes. -/
def taken (cfg : Config) (w : Wire) (memories : Memories) (x : Side) : Nat :=
  match ((processMessage cfg (w.line x).peer.session (w.buffer memories x)).run
      (w.line x).peer.process).value with
  | .taken n => n
  | .assertFailed => 0

theorem taken_of_value
    {cfg : Config}
    {w : Wire}
    {memories : Memories}
    {x : Side}
    {n : Nat}
    (h : ((processMessage cfg (w.line x).peer.session (w.buffer memories x)).run
      (w.line x).peer.process).value = .taken n) :
    w.taken cfg memories x = n := by
  rw [taken, h]

/-- Bytes are taken from the receive buffer. -/
def take (w : Wire) (x : Side) (n : Nat) : Wire :=
  { w with
    line := fun y =>
      if y = x then
        { w.line x with unread := (w.line x).unread.drop n, calls := (w.line x).calls + 1 }
      else w.line y }

/-- Bytes arrive in the receive buffer. -/
def arrive (w : Wire) (x : Side) (n : Nat) : Wire where
  line := fun y =>
    if y = x then { w.line x with unread := (w.line x).unread ++ (w.transit x).take n }
    else w.line y
  transit := fun y => if y = x then (w.transit x).drop n else w.transit y

/-- A step of the wire; the client starts its new session once, and a receive thread runs
while its socket is open. -/
def step
    (cfg : Config)
    (sessionIdentifier : Bytes)
    (memories : Memories)
    (w : Wire) : WireAction → Option Wire
  | .start =>
      if ((w.line .client).sent = 0 ∧ (w.line .server).sent = 0) ∧
          (w.session .client).statemachine = .notConnected then
        some (w.run memories .client (fun s => startSession s sessionIdentifier)
          (fun _ => (w.line .client).ending))
      else none
  | .arrive x n => some (w.arrive x n)
  | .process x =>
      if (w.session x).socket.any Socket.isOpen then
        some ((w.take x (w.taken cfg memories x)).run memories x
          (fun s => processMessage cfg s (w.buffer memories x)) (fun _ => (w.line x).ending))
      else none
  | .call x c =>
      some (w.run memories x (fun s => (c.operation s).act cfg) (fun _ => (w.line x).ending))
  | .close x replyExpected =>
      some (w.run memories x (fun s => beginClose s replyExpected)
        (fun begun => (w.line x).ending + if begun && !replyExpected then 1 else 0))
  | .endClose x =>
      if 0 < (w.line x).ending then
        some (w.run memories x endSession (fun _ => (w.line x).ending - 1))
      else none

/-- The operation a side runs in a step. -/
def operation
    (cfg : Config)
    (sessionIdentifier : Bytes)
    (memories : Memories)
    (w : Wire)
    (a : WireAction) : Act Unit :=
  let s := (w.line a.side).peer.session
  match a with
  | .start => do
      let _ ← startSession s sessionIdentifier
  | .arrive _ _ => pure ()
  | .process x => do
      let _ ← processMessage cfg s (w.buffer memories x)
  | .call _ c => (c.operation s).act cfg
  | .close _ replyExpected => do
      let _ ← beginClose s replyExpected
  | .endClose _ => do
      let _ ← endSession s

/-- What the caller learns from a step. -/
def reports (cfg : Config) (w : Wire) : WireAction → List Event
  | .call x c => c.reports cfg (w.line x).peer.session (w.line x).peer.process
  | _ => []

/-- What the applications see of a step. -/
def events
    (cfg : Config)
    (sessionIdentifier : Bytes)
    (memories : Memories)
    (w : Wire)
    (a : WireAction) : List (Side × Event) :=
  gotFrom a.side ((w.operation cfg sessionIdentifier memories a).run
    (w.line a.side).peer.process).outputs ++
      (w.reports cfg a).map (fun e => (a.side, e))

/-- The wire of a connection on which nothing was sent. -/
def ofConnection (st : Connection Peer) : Wire where
  line := fun x => { peer := (st.party x).core }
  transit := fun _ => []

end Wire

/-- The runs of a wire on which the client starts a session. -/
def wire
    (cfg : Config)
    (sessionIdentifier : Bytes)
    (memories : Memories) : TransitionSystem Wire WireAction where
  init := fun w => ∃ st : Connection Peer, st.Initial ∧ st.Supplied ∧ w = .ofConnection st
  step := Wire.step cfg sessionIdentifier memories

/-- The runs of a wire, with what both applications see. -/
def wireExchange
    (cfg : Config)
    (sessionIdentifier : Bytes)
    (memories : Memories) : TransitionSystem (Wire × List (Side × Event)) WireAction :=
  (wire cfg sessionIdentifier memories).observed (Wire.events cfg sessionIdentifier memories)

end SakuraNetwork

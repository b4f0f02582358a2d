import SakuraNetwork.Lib.Statemachine

/-!
# The state machine of a session

`initStatemachine` builds the machine from the states, the hierarchy and the
transitions the session registers.  The session uses four of its queries; each
is given as a function of the current state.
-/

namespace SakuraNetwork

open Lib

/-- The states of `enum statemachineItems`. -/
inductive SessionState where
  | notConnected
  | connected
  | sessionNotReady
  | sessionReady
deriving DecidableEq

/-- The transition labels of `enum statemachineItems`. -/
inductive SessionTransition where
  | connect
  | disconnect
  | startSession
  | stopSession
deriving DecidableEq

/-- `Session::initStatemachine`; every step is asserted to succeed. -/
def initStatemachine : Option (Statemachine SessionState SessionTransition) := do
  let m ← Statemachine.createNewState {} .notConnected
  let m ← m.createNewState .connected
  let m ← m.createNewState .sessionNotReady
  let m ← m.createNewState .sessionReady
  let m ← m.addChildState .connected .sessionNotReady
  let m ← m.addChildState .connected .sessionReady
  let m ← m.setInitialChildState .connected .sessionNotReady
  let m ← m.addTransition .notConnected .connect .connected
  let m ← m.addTransition .connected .disconnect .notConnected
  let m ← m.addTransition .sessionNotReady .startSession .sessionReady
  m.addTransition .sessionReady .stopSession .sessionNotReady

/-- No assertion of `initStatemachine` fails. -/
theorem initStatemachine_isSome : initStatemachine.isSome = true := by
  decide

/-- The machine of every session. -/
def sessionStatemachine : Statemachine SessionState SessionTransition :=
  initStatemachine.get initStatemachine_isSome

namespace SessionState

/-- `m_statemachine.isInState`. -/
def isInState (current s : SessionState) : Bool :=
  sessionStatemachine.isInState current s

/-- `m_statemachine.goToNextState`. -/
def goToNextState (current : SessionState) (t : SessionTransition)
    (required : Option SessionState := none) : Option SessionState :=
  sessionStatemachine.goToNextState current t required

@[simp] theorem isInState_sessionReady (s : SessionState) :
    s.isInState .sessionReady = decide (s = .sessionReady) := by
  cases s <;> decide

@[simp] theorem isInState_notConnected (s : SessionState) :
    s.isInState .notConnected = decide (s = .notConnected) := by
  cases s <;> decide

/-- Connecting enters the initial child of the connected state. -/
@[simp] theorem goToNextState_connect (s : SessionState) :
    s.goToNextState .connect =
      if s = .notConnected then some .sessionNotReady else none := by
  cases s <;> decide

/-- Disconnecting is a transition of the parent of both session states. -/
@[simp] theorem goToNextState_disconnect (s : SessionState) :
    s.goToNextState .disconnect =
      if s = .notConnected then none else some .notConnected := by
  cases s <;> decide

@[simp] theorem goToNextState_startSession (s : SessionState) :
    s.goToNextState .startSession (some .sessionNotReady) =
      if s = .sessionNotReady then some .sessionReady else none := by
  cases s <;> decide

@[simp] theorem goToNextState_stopSession (s : SessionState) :
    s.goToNextState .stopSession =
      if s = .sessionReady then some .sessionNotReady else none := by
  cases s <;> decide

end SessionState

end SakuraNetwork

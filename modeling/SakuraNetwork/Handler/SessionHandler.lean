import SakuraNetwork.Process

/-!
# `SessionHandler`: the registry of sessions
-/

namespace SakuraNetwork

open Lib

namespace SessionHandler

/-- `SessionHandler::addSession`: the callbacks of the handler are set, and the
session is inserted unless the id is taken. -/
def addSession (id : UInt32) (s : SessionRef) : Act Unit := do
  modifySession s (fun x => { x with handlerCallbacks := true })
  Act.modify (fun p => { p with sessions := p.sessions.emplace id s })

/-- `SessionHandler::removeSession`. -/
def removeSession (id : UInt32) : Act (Option SessionRef) := do
  let p ← Act.get
  Act.modify (fun p => { p with sessions := p.sessions.remove id })
  pure (p.sessions.find id)

/-- `SessionHandler::increaseSessionIdCounter`. -/
def increaseSessionIdCounter : Act UInt16 := do
  Act.modify (fun p => { p with sessionIdCounter := p.sessionIdCounter + 1 })
  let p ← Act.get
  pure p.sessionIdCounter

@[simp] theorem run_addSession (id : UInt32) (s : SessionRef) (p : Process) :
    (addSession id s).run p =
      { value := ()
        process := { p.modifySession s (fun x => { x with handlerCallbacks := true }) with
          sessions := p.sessions.emplace id s } } := rfl

@[simp] theorem run_removeSession (id : UInt32) (p : Process) :
    (removeSession id).run p =
      { value := p.sessions.find id
        process := { p with sessions := p.sessions.remove id } } := rfl

@[simp] theorem run_increaseSessionIdCounter (p : Process) :
    increaseSessionIdCounter.run p =
      { value := p.sessionIdCounter + 1
        process := { p with sessionIdCounter := p.sessionIdCounter + 1 } } := rfl

end SessionHandler

end SakuraNetwork

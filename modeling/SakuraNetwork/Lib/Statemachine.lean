import Mathlib.Data.List.Basic
import Mathlib.Tactic.Common

/-!
# Hierarchical state machines

A machine is built up by adding states, parent-child pairs, the initial child
of a parent and labelled transitions.  The machine is always in one state; it
is also in every parent of that state.  A transition of the current state or
of one of its parents fires, the innermost first, and ends in the initial
descendant of its target.  A transition can be restricted to a state the
machine must be in.
-/

namespace SakuraNetwork
namespace Lib

universe u v

/-- The states, the hierarchy and the transitions of a machine. -/
structure Statemachine (S : Type u) (T : Type v) where
  states : List S := []
  children : List (S × S) := []
  initialChildren : List (S × S) := []
  transitions : List (S × T × S) := []

namespace Statemachine

variable {S : Type u} {T : Type v} [DecidableEq S] [DecidableEq T]

/-- Add a state, which must be new. -/
def createNewState (m : Statemachine S T) (s : S) : Option (Statemachine S T) :=
  if s ∈ m.states then none
  else some { m with states := m.states ++ [s] }

/-- Make `child` a child of `parent`; both must exist. -/
def addChildState (m : Statemachine S T) (parent child : S) :
    Option (Statemachine S T) :=
  if parent ∈ m.states ∧ child ∈ m.states then
    some { m with children := m.children ++ [(parent, child)] }
  else none

/-- Choose the child that is entered together with `parent`. -/
def setInitialChildState (m : Statemachine S T) (parent child : S) :
    Option (Statemachine S T) :=
  if (parent, child) ∈ m.children then
    some { m with initialChildren := m.initialChildren ++ [(parent, child)] }
  else none

/-- Add a transition; each state has at most one for every label. -/
def addTransition (m : Statemachine S T) (s : S) (t : T) (next : S) :
    Option (Statemachine S T) :=
  if s ∈ m.states ∧ next ∈ m.states ∧ ∀ e ∈ m.transitions, ¬ (e.1 = s ∧ e.2.1 = t) then
    some { m with transitions := m.transitions ++ [(s, t, next)] }
  else none

/-- The parent of a state. -/
def parent (m : Statemachine S T) (s : S) : Option S :=
  (m.children.find? (fun e => e.2 = s)).map Prod.fst

/-- The state and at most `depth` of its parents, innermost first. -/
def ancestors (m : Statemachine S T) : Nat → S → List S
  | 0, s => [s]
  | depth + 1, s =>
      match m.parent s with
      | none => [s]
      | some p => s :: m.ancestors depth p

/-- The state that is active after `s` was entered. -/
def enter (m : Statemachine S T) : Nat → S → S
  | 0, s => s
  | depth + 1, s =>
      match m.initialChildren.find? (fun e => e.1 = s) with
      | none => s
      | some e => m.enter depth e.2

/-- The target of the transition `t` of exactly the state `s`. -/
def target (m : Statemachine S T) (t : T) (s : S) : Option S :=
  (m.transitions.find? (fun e => e.1 = s ∧ e.2.1 = t)).map (fun e => e.2.2)

/-- The machine is in a state when that is the current one or a parent of it. -/
def isInState (m : Statemachine S T) (current s : S) : Bool :=
  decide (s ∈ m.ancestors m.states.length current)

/-- The next state for label `t`, if a transition of the current state or of
one of its parents fires and the required state, if any, is active. -/
def goToNextState (m : Statemachine S T) (current : S) (t : T)
    (required : Option S := none) : Option S :=
  if required.all (m.isInState current) then
    ((m.ancestors m.states.length current).findSome? (m.target t)).map
      (m.enter m.states.length)
  else none

end Statemachine

end Lib
end SakuraNetwork

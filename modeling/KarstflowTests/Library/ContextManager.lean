import Mathlib.Logic.Basic

/-!
# Context managers

`within` is a `with` statement: it enters, runs the body, and exits however the
body ends.  A manager whose enter raises does not get to its exit.
-/

namespace KarstflowTests.Library

universe u v w

/-- An enter that may raise after it has changed the state, and an exit that
does not suppress exceptions. -/
structure ContextManager (State : Type u) (Error : Type v)
    (Value : Type w) where
  enter : State → Except Error Value × State
  exit : State → State

namespace ContextManager

variable {State : Type u} {Error : Type v} {Value : Type w}

/-- How the statement ends, and the state after it. -/
def within (manager : ContextManager State Error Value)
    (body : Value → State → Except Error Unit × State) (state : State) :
    Except Error Unit × State :=
  match manager.enter state with
  | (.error error, entered) => (.error error, entered)
  | (.ok value, entered) =>
      let (ending, left) := body value entered
      (ending, manager.exit left)

variable {manager : ContextManager State Error Value}
variable {body : Value → State → Except Error Unit × State}
variable {state entered : State}

theorem within_of_error {error : Error}
    (raises : manager.enter state = (.error error, entered)) :
    manager.within body state = (.error error, entered) := by
  rw [within, raises]

theorem within_of_ok {value : Value}
    (enters : manager.enter state = (.ok value, entered)) :
    manager.within body state =
      ((body value entered).1, manager.exit (body value entered).2) := by
  rw [within, enters]

end ContextManager

end KarstflowTests.Library

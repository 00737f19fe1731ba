import Templating.Error

/-!
# Actions and loops

Whatever reads a source or writes a target is an action on a state that may
fail; the state a failed action leaves behind counts too. A loop runs an action
turn by turn until one of them stops it. Every loop of this library has a bound
on its turns, counted in bytes that are left to read; since a turn that goes on
consumes some of them, the bound is never reached.
-/

namespace Templating

/-- An action that can only fail on a stream, where anything may fail. -/
instance {σ : Type} : MonadLift (EStateM IoError σ) (EStateM Error σ) where
  monadLift action := EStateM.adaptExcept Error.io action

/-- A failed expression is a failed action. -/
instance {σ : Type} : MonadLift (Except ExpressionError) (EStateM Error σ) where
  monadLift
    | .ok a => pure a
    | .error e => throw (.expression e)

/-- How a turn of a loop ends. -/
inductive Turn (α β : Type) where
  | again (next : α)
  | stop (result : β)

/-- Turns from `start` on until one stops, but at most `bound` of them; `spent`
is the result when none of these does. -/
def loop {ε σ α β : Type} (body : α → EStateM ε σ (Turn α β)) (spent : α → β) :
    Nat → α → EStateM ε σ β
  | 0, start => pure (spent start)
  | bound + 1, start => do
    match ← body start with
    | .again next => loop body spent bound next
    | .stop result => pure result

end Templating

import Templating.Configuration
import Templating.Dispatch
import Templating.Target.Memory

/-!
# Processing

A `Processor` is a valid configuration with variables, to which its macros have
added theirs. It runs any number of times, each time from a source to a target.

* `Processor.run`: copies what is no token and lets the operations handle the
  rest. The longest token at a place is the one that counts.
* `Processor.processBytes`: the same on bytes in memory.
-/

namespace Templating

structure Processor where
  configuration : Configuration
  bindings : Variables
  converter : Converter

/-- How far a run has come. -/
structure RunState where
  operations : List Operation
  /-- How many bytes behind the cursor are still to be written. -/
  pending : Nat
  /-- How many bytes have been written since the last flush. -/
  unflushed : Nat
  /-- Whether any token has matched. -/
  modified : Bool

/-- What stays the same during a run. -/
structure RunPlan where
  context : Context
  dispatch : Dispatch
  flushThreshold : Nat

namespace RunPlan

variable {τ : Type} [Target τ]

/-- Writes what is pending. -/
def writePending (r : RunState) : EStateM Error (Session τ) RunState := do
  let written ← Session.writeBehind r.pending
  pure { r with pending := 0, unflushed := r.unflushed + written }

/-- Whether a longer token than what is in the window may begin at the cursor. -/
def needsMore (p : RunPlan) (w : Window) : Bool := !w.exhausted && !w.holds p.dispatch.longest

/-- Whether no token can begin at the cursor or after it. -/
def isOver (p : RunPlan) (w : Window) : Bool :=
  p.dispatch.isEmpty || (w.exhausted && !w.holds p.dispatch.shortest)

def flushIfDue (p : RunPlan) (r : RunState) : EStateM Error (Session τ) RunState := do
  if p.flushThreshold ≤ r.unflushed then
    Session.flush
    pure { r with unflushed := 0 }
  else pure r

/-- Lets the owner of a token of so many bytes handle it. -/
def handleMatch (p : RunPlan) (r : RunState) (handler : Handler) (length : Nat) :
    EStateM Error (Session τ) RunState := do
  let r ← writePending r
  Session.onWindow (modify (·.step length))
  match r.operations[handler.operation]? with
  | none => pure { r with modified := true }
  | some operation =>
    let (operation, written) ← operation.handle p.context handler.token
    pure {
      operations := r.operations.set handler.operation operation
      pending := 0
      unflushed := r.unflushed + written
      modified := true }

/-- Handles what is at the cursor: a token, or a byte that is copied. -/
def consume (p : RunPlan) (r : RunState) : EStateM Error (Session τ) RunState := do
  let s ← get
  match p.dispatch.match? s.window.ahead.bytes with
  | some (handler, length) => p.handleMatch r handler length
  | none =>
    let count := if p.isOver s.window then s.window.ahead.length else 1
    Session.onWindow (modify (·.step count))
    pure { r with pending := r.pending + count }

/-- Reads more where a token may go on beyond the window. Without any byte left the
run is over. -/
def lookAhead (p : RunPlan) (r : RunState) : EStateM Error (Session τ) (RunState × Bool) := do
  let s ← get
  if p.needsMore s.window then
    let r ← writePending r
    let more ← Session.onWindow Window.refillAhead
    pure (r, more)
  else pure (r, true)

/-- One turn of a run. -/
def turn (p : RunPlan) (r : RunState) : EStateM Error (Session τ) (Turn RunState RunState) := do
  let (r, more) ← p.lookAhead r
  if !more then pure (.stop r)
  else
    let s ← get
    if s.window.ahead.isEmpty then
      let r ← writePending r
      if ← Session.onWindow Window.renew then pure (.again r) else pure (.stop r)
    else
      let r ← p.consume r
      let r ← p.flushIfDue r
      pure (.again r)

def finish (operations : List Operation) : Except Error Unit := operations.forM Operation.finish

def raise {α : Type} : Except Error α → EStateM Error (Session τ) α
  | .ok a => pure a
  | .error e => throw e

/-- The start of a run: what lies behind the cursor, a byte-order mark, is still to be
written. -/
def start (operations : List Operation) (w : Window) : RunState where
  operations := operations
  pending := w.position
  unflushed := 0
  modified := false

/-- **A run**, from the window at the start of a source to the end of the source.
The result tells whether any token has matched. -/
def drive (p : RunPlan) (operations : List Operation) : EStateM Error (Session τ) Bool := do
  let s ← get
  let r ← loop p.turn id (2 * s.window.remaining + 2) (start operations s.window)
  raise (finish r.operations)
  Session.flush
  pure r.modified

end RunPlan

namespace Processor

/-- Layers the variables of all macros, in the order of the operations. -/
def layerMacros (ambient : Ambient) (c : Converter) :
    List OperationSettings → Variables → Except Error Variables
  | [], v => pure v
  | .macros ms :: rest, v => do
    let v ← Macro.layer ms ambient c v
    layerMacros ambient c rest v
  | _ :: rest, v => layerMacros ambient c rest v

/-- **The processor of a configuration**, if that is valid and its macros can be
computed. -/
def make (configuration : Configuration) (v : Variables) (c : Converter) (ambient : Ambient) :
    Except Error Processor :=
  match configuration.validate with
  | .error e => throw (.config e)
  | .ok () => do
    let bindings ← layerMacros ambient c configuration.operations v
    pure ⟨configuration, bindings, c⟩

/-- The operations of a run in the encoding of its stream. -/
def materialize (p : Processor) (g : Glossary) : Except ConfigError (List Operation) := do
  let operations ← p.configuration.operations.mapM (·.materialize g p.converter)
  pure (operations.filterMap id)

variable {τ : Type} [Target τ]

/-- **Processes a source into a target.** Gives whether any token has matched, or what
went wrong, and the target as it is then. -/
def run (p : Processor) (source : Source) (target : τ) : Except Error Bool × τ :=
  match Session.enter p.configuration.bufferSize source p.bindings
      p.configuration.variableFormat target with
  | .error e => (throw (.io e), target)
  | .ok (session, context) =>
    match p.materialize context.glossary with
    | .error e => (throw (.config e), target)
    | .ok operations =>
      let dispatch := Dispatch.ofSets (operations.map Operation.tokens)
      let plan : RunPlan := ⟨context, dispatch, p.configuration.flushThreshold⟩
      let reserved := { session with window := session.window.reserve dispatch.longest }
      match (plan.drive operations).run reserved with
      | .ok modified s => (pure modified, s.target)
      | .error e s => (throw e, s.target)

/-- The output for an input in memory, and whether any token has matched. -/
def processBytes (p : Processor) (input : Bytes) : Except Error (Bytes × Bool) :=
  match p.run (.ofBytes input) (Memory.ofBytes []) with
  | (.ok modified, target) => pure (target.toBytes, modified)
  | (.error e, _) => throw e

/-- The same for text. -/
def processText (p : Processor) (input : String) : Except Error (String × Bool) := do
  let (output, modified) ← p.processBytes (Encoding.utf8.encode input)
  pure (Encoding.utf8.decode output, modified)

end Processor

end Templating

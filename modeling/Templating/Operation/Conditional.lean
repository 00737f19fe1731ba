import Templating.Condition
import Templating.Operation.Replacement

/-!
# Conditional blocks

A block is `if`, any number of `elseif` and perhaps `else` branches, and `endif`.
The first branch whose condition holds is taken, and all others are skipped, the
blocks inside them included. Conditions are evaluated in the order of the
document, and none after the branch that is taken.

* `Conditional.dispatch` handles a marker. After a branch that is not taken it
  goes on with the marker that ends this branch.
-/

namespace Templating

structure ConditionalSettings where
  ifTokens : List String
  elseIfTokens : List String
  elseTokens : List String
  endIfTokens : List String
  wholeLine : Bool
  trim : Bool
  evaluator : String
  /-- What else ends a condition, and goes away with it. -/
  terminators : List String
  /-- Whether an unbalanced template is an error. -/
  strict : Bool
  deriving DecidableEq

namespace ConditionalSettings

/-- The marker tokens, each with its marker. -/
def markers (s : ConditionalSettings) : List (Marker × String) :=
  s.ifTokens.map (.opening, ·) ++ s.elseIfTokens.map (.alternative, ·) ++
    s.elseTokens.map (.fallback, ·) ++ s.endIfTokens.map (.closing, ·)

def validate (s : ConditionalSettings) : Except ConfigError Unit := do
  if s.ifTokens.isEmpty then throw (.missingToken .conditionals .opening)
  if s.endIfTokens.isEmpty then throw (.missingToken .conditionals .closing)
  requireNonEmpty .conditionals (s.markers.map (·.2) ++ s.terminators)
  let _ ← Dialect.ofName s.evaluator
  pure ()

end ConditionalSettings

structure Conditional where
  markers : List (Marker × Bytes)
  /-- The same tokens, by which skipping finds them. -/
  scan : TokenTable
  evaluator : Evaluator
  whitespace : WhitespacePolicy
  strict : Bool
  /-- For every open block, the innermost first, whether a branch was taken. -/
  blocks : List Bool

namespace Conditional

def make (s : ConditionalSettings) (g : Glossary) (c : Converter) :
    Except ConfigError Conditional := do
  let dialect ← Dialect.ofName s.evaluator
  let markers := s.markers.map fun (marker, text) => (marker, g.encoding.encode text)
  pure {
    markers := markers
    scan := .ofList (markers.map (·.2))
    evaluator := .make dialect g c s.terminators
    whitespace := .ofFlags s.wholeLine s.trim
    strict := s.strict
    blocks := [] }

def tokens (c : Conditional) : List Bytes := c.markers.map (·.2)

def marker? (c : Conditional) (token : Nat) : Option Marker := c.markers[token]?.map (·.1)

/-- What skipping looks for. -/
inductive Sought where
  /-- The end of a branch: any marker but `if`. -/
  | branch
  /-- The end of the block. -/
  | block

def Sought.meets : Sought → Marker → Bool
  | branch, marker => marker != .opening
  | block, marker => marker == .closing

/-- One marker in what is skipped, so many blocks deep. -/
def skipTurn (c : Conditional) (sought : Sought) (depth : Nat) :
    EStateM IoError Window (Turn Nat (Option Marker)) := do
  match ← Window.seekUntil c.scan true with
  | none => pure (.stop none)
  | some token =>
    match c.marker? token, depth with
    | none, _ => pure (.again depth)
    | some .opening, _ => pure (.again (depth + 1))
    | some .closing, outer + 1 => pure (.again outer)
    | some marker, 0 => if sought.meets marker then pure (.stop (some marker)) else pure (.again 0)
    | some _, _ + 1 => pure (.again depth)

/-- **Skips to a marker of the current block**, and past it. -/
def skip (c : Conditional) (sought : Sought) : EStateM IoError Window (Option Marker) := do
  let w ← get
  loop (c.skipTurn sought) (fun _ => none) (w.remaining + 1) 0

/-- The end of the input inside of blocks. -/
def unterminated (c : Conditional) (blocks : List Bool) : Except Imbalance (List Bool) :=
  if c.strict then throw (.unclosed blocks.length) else pure []

/-- Marks a branch of the innermost block as taken. -/
def take : List Bool → List Bool
  | [] => []
  | _ :: outer => true :: outer

variable {τ : Type} [Target τ]

def raise {α : Type} : Except Imbalance α → EStateM Error (Session τ) α
  | .ok a => pure a
  | .error cause => throw (.unbalanced cause)

/-- Goes on after a branch that is not taken. -/
def resume (c : Conditional) (sought : Sought) (blocks : List Bool) :
    EStateM Error (Session τ) (Turn (Marker × List Bool) (List Bool)) := do
  match ← Session.onWindow (c.skip sought) with
  | some marker => pure (.again (marker, blocks))
  | none =>
    let closed ← raise (c.unterminated blocks)
    pure (.stop closed)

/-- Reads the condition of a branch, and takes the branch if it holds. -/
def decideBranch (c : Conditional) (ctx : Context) (blocks : List Bool) :
    EStateM Error (Session τ) (Turn (Marker × List Bool) (List Bool)) := do
  let holds ← Session.scan c.evaluator.evaluate
  c.whitespace.after ctx
  if holds then pure (.stop (take blocks)) else c.resume .branch blocks

/-- A marker outside of any block. -/
def orphan (c : Conditional) (ctx : Context) (marker : Marker) (blocks : List Bool) :
    EStateM Error (Session τ) (Turn (Marker × List Bool) (List Bool)) := do
  if c.strict then throw (.unbalanced (.orphan marker))
  else
    c.whitespace.after ctx
    pure (.stop blocks)

/-- Handles one marker. -/
def turn (c : Conditional) (ctx : Context) :
    Marker × List Bool → EStateM Error (Session τ) (Turn (Marker × List Bool) (List Bool))
  | (marker, blocks) => do
    c.whitespace.before ctx
    match marker, blocks with
    | .opening, _ => c.decideBranch ctx (false :: blocks)
    | marker, [] => c.orphan ctx marker blocks
    | .alternative, true :: _ => c.resume .block blocks
    | .alternative, false :: _ => c.decideBranch ctx blocks
    | .fallback, true :: _ => c.resume .block blocks
    | .fallback, false :: outer =>
      c.whitespace.after ctx
      pure (.stop (true :: outer))
    | .closing, _ :: outer =>
      c.whitespace.after ctx
      pure (.stop outer)

/-- **Handles a marker**, and those that follow it up to a branch that is taken or
the end of the block. Gives the blocks that are open then. -/
def dispatch (c : Conditional) (ctx : Context) (marker : Marker) :
    EStateM Error (Session τ) (List Bool) := do
  let s ← get
  loop (c.turn ctx) (·.2) (s.window.remaining + 1) (marker, c.blocks)

/-- Handles a marker by its token, and gives the operation with its new blocks. -/
def handle (c : Conditional) (ctx : Context) (token : Nat) :
    EStateM Error (Session τ) Conditional := do
  match c.marker? token with
  | none => pure c
  | some marker =>
    let blocks ← c.dispatch ctx marker
    pure { c with blocks := blocks }

/-- The end of the input. -/
def finish (c : Conditional) : Except Imbalance Unit :=
  if c.blocks.isEmpty then pure () else (c.unterminated c.blocks).map fun _ => ()

end Conditional

end Templating

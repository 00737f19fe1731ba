import Templating.Operation.Replacement

/-!
# Regions

A region lies between a start and an end marker, which always go away. What is
inside stays if the region is included, and is skipped if it is not; regions
nest. Where both markers are the same, each opens a region or closes it in turn.
-/

namespace Templating

structure RegionSettings where
  start : String
  stop : String
  included : Bool
  wholeLine : Bool
  trim : Bool
  deriving DecidableEq

def RegionSettings.validate (s : RegionSettings) : Except ConfigError Unit :=
  requireNonEmpty .region [s.start, s.stop]

structure Region where
  tokens : List Bytes
  markers : TokenTable
  /-- Whether both markers are the same. -/
  toggle : Bool
  included : Bool
  whitespace : WhitespacePolicy
  /-- The number of included regions that are open. -/
  depth : Nat

namespace Region

def make (s : RegionSettings) (g : Glossary) : Region :=
  let toggle := s.start == s.stop
  let tokens := (if toggle then [s.start] else [s.start, s.stop]).map g.encoding.encode
  ⟨tokens, .ofList tokens, toggle, s.included, .ofFlags s.wholeLine s.trim, 0⟩

/-- Whether a marker opens a region. -/
def opens (r : Region) (token : Nat) : Bool := if r.toggle then r.depth == 0 else token == 0

/-- One marker inside of a region that is skipped, at a depth. -/
def skipTurn (r : Region) (depth : Nat) : EStateM IoError Window (Turn Nat Unit) := do
  match ← Window.seekUntil r.markers true with
  | none => pure (.stop ())
  | some token =>
    if token = 0 ∧ !r.toggle then pure (.again (depth + 1))
    else if depth = 0 then pure (.stop ())
    else pure (.again (depth - 1))

/-- Moves past the end marker of the region that has just been opened. -/
def skip (r : Region) : EStateM IoError Window Unit := do
  let w ← get
  loop r.skipTurn (fun _ => ()) (w.remaining + 1) 0

variable {τ : Type} [Target τ]

/-- Handles a marker, and gives the region with its new depth. -/
def handle (r : Region) (ctx : Context) (token : Nat) : EStateM Error (Session τ) Region := do
  r.whitespace.before ctx
  let depth ←
    if r.opens token then
      if r.included then pure (r.depth + 1)
      else do
        Session.onWindow r.skip
        pure r.depth
    else pure (r.depth - 1)
  r.whitespace.after ctx
  pure { r with depth := depth }

end Region

end Templating

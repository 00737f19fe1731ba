import Templating.Glossary
import Templating.Target
import Templating.Window

/-!
# The session of a run

A session joins the window over the source with the target. Operations act on
it: forwards on the source, and backwards on what has been written.
-/

namespace Templating

structure Session (τ : Type) where
  window : Window
  target : τ

/-- What stays the same during a run: its glossary, and the offset in the output
below which nothing is ever cut. -/
structure Context where
  glossary : Glossary
  floor : Nat

namespace Session

variable {τ α : Type}

/-- **The session at the start of a source**, after its byte-order mark, and what is
known of the run then. -/
def enter (capacity : Nat) (source : Source) (v : Variables) (format : String) (target : τ) :
    Except IoError (Session τ × Context) := do
  let (window, encoding, mark) ← Window.enter capacity source
  pure (⟨window, target⟩, ⟨.make encoding v format, mark⟩)

/-- An action on the window alone that may fail in any way. -/
def scan (action : EStateM Error Window α) : EStateM Error (Session τ) α := fun ⟨window, target⟩ =>
  match action window with
  | .ok a w => .ok a ⟨w, target⟩
  | .error e w => .error e ⟨w, target⟩

/-- An action on the window alone. -/
def onWindow (action : EStateM IoError Window α) : EStateM Error (Session τ) α :=
  scan (liftM action)

/-- An action on the target alone. -/
def onTarget (action : EStateM IoError τ α) : EStateM Error (Session τ) α :=
  fun ⟨window, target⟩ =>
    match action target with
    | .ok a t => .ok a ⟨window, t⟩
    | .error e t => .error (.io e) ⟨window, t⟩

variable [Target τ]

/-- Writes bytes, and gives their number. -/
def write (bytes : Bytes) : EStateM Error (Session τ) Nat := do
  onTarget (Target.write bytes)
  pure bytes.length

/-- Writes the bytes between two places of the window, and gives their number. -/
def writeSlice (start stop : Nat) : EStateM Error (Session τ) Nat := do
  let s ← get
  if stop ≤ start then pure 0 else write (s.window.slice start stop)

/-- Writes the `count` bytes behind the cursor, and gives their number. -/
def writeBehind (count : Nat) : EStateM Error (Session τ) Nat := do
  let s ← get
  if count = 0 then pure 0 else write (s.window.behind.take count).reverse

def flush : EStateM Error (Session τ) Unit := onTarget Target.flush

/-- Cuts the output back to the last token of a table. -/
def cutBackTo (ctx : Context) (table : TokenTable) (consume : Bool) :
    EStateM Error (Session τ) Unit :=
  onTarget (Target.cutBackTo table ctx.glossary.encoding.unitWidth ctx.floor consume)

/-- Cuts the tokens of a table that the output ends with. -/
def cutTrailing (ctx : Context) (table : TokenTable) : EStateM Error (Session τ) Unit :=
  onTarget (Target.cutTrailing table ctx.glossary.encoding.unitWidth ctx.floor)

end Session

end Templating

import Templating.Whitespace

/-!
# Replacements and expansions

Two operations that put a text in the place of a token: a fixed text, or the
value of a variable in the place of its formatted name.
-/

namespace Templating

/-- No token of an operation may be empty. -/
def requireNonEmpty (operation : OperationKind) (tokens : List String) : Except ConfigError Unit :=
  if tokens.any String.isEmpty then throw (.emptyToken operation) else pure ()

structure ReplacementSettings where
  token : String
  replacement : String
  deriving DecidableEq

def ReplacementSettings.validate (s : ReplacementSettings) : Except ConfigError Unit :=
  requireNonEmpty .replacements [s.token]

structure Replacement where
  token : Bytes
  text : Bytes

namespace Replacement

def make (s : ReplacementSettings) (g : Glossary) : Replacement :=
  ⟨g.encoding.encode s.token, g.encoding.encode s.replacement⟩

variable {τ : Type} [Target τ]

/-- Writes the text, and gives its length. -/
def handle (r : Replacement) : EStateM Error (Session τ) Nat := Session.write r.text

end Replacement

/-- What a variable expands to. -/
def expansionText (g : Glossary) (v : Value) : Bytes := g.encoding.encode v.text

variable {τ : Type} [Target τ]

/-- Writes the value of the variable in a slot, and gives its length; null writes nothing. -/
def expandVariable (g : Glossary) (slot : Nat) : EStateM Error (Session τ) Nat :=
  let v := g.resolve slot
  if v.isNull then pure 0 else Session.write (expansionText g v)

end Templating

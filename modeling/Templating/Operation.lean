import Templating.Macros
import Templating.Operation.Conditional
import Templating.Operation.Region

/-!
# Operations

An operation is configured by its settings, and is made anew for every run in
the encoding of the stream. It names the tokens it wants to see and handles their
matches.

* `OperationSettings.materialize`: the operation of settings. Macros are none;
  they have only set variables.
* `Operation.handle`: the cursor stands after the token, and all before it has
  been written.
-/

namespace Templating

inductive OperationSettings where
  | conditionals (s : ConditionalSettings)
  | replacements (s : ReplacementSettings)
  | region (s : RegionSettings)
  | variableExpansion
  | macros (ms : List Macro)
  deriving BEq

inductive Operation where
  | conditional (c : Conditional)
  | replacement (r : Replacement)
  | region (r : Region)
  | expansion (names : List Bytes)

namespace OperationSettings

def kind : OperationSettings → OperationKind
  | conditionals _ => .conditionals
  | replacements _ => .replacements
  | region _ => .region
  | variableExpansion => .variableExpansion
  | macros _ => .macros

def validate : OperationSettings → Except ConfigError Unit
  | conditionals s => s.validate
  | replacements s => s.validate
  | region s => s.validate
  | variableExpansion => pure ()
  | macros ms => ms.forM Macro.validate

def materialize (s : OperationSettings) (g : Glossary) (c : Converter) :
    Except ConfigError (Option Operation) :=
  match s with
  | conditionals s => (Conditional.make s g c).map fun c => some (.conditional c)
  | replacements s => pure (some (.replacement (.make s g)))
  | region s => pure (some (.region (.make s g)))
  | variableExpansion => pure (some (.expansion (g.slots.map (·.formatted))))
  | macros _ => pure none

end OperationSettings

namespace Operation

/-- The tokens of an operation, numbered in this order. -/
def tokens : Operation → List Bytes
  | conditional c => c.tokens
  | replacement r => [r.token]
  | region r => r.tokens
  | expansion names => names

variable {τ : Type} [Target τ]

/-- **Handles a match of a token.** Gives the operation as it is then, and the
number of bytes written. -/
def handle (ctx : Context) (token : Nat) :
    Operation → EStateM Error (Session τ) (Operation × Nat)
  | conditional c => do
    let c ← c.handle ctx token
    pure (conditional c, 0)
  | region r => do
    let r ← r.handle ctx token
    pure (region r, 0)
  | replacement r => do
    let written ← r.handle
    pure (replacement r, written)
  | expansion names => do
    let written ← expandVariable ctx.glossary token
    pure (expansion names, written)

/-- The end of the input. -/
def finish : Operation → Except Error Unit
  | conditional c =>
    match c.finish with
    | .ok () => pure ()
    | .error cause => throw (.unbalanced cause)
  | _ => pure ()

end Operation

end Templating

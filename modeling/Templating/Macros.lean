import Templating.Condition
import Templating.Date.Format
import Templating.Guid
import Templating.Pattern.Substitution

/-!
# Macros

A macro computes a variable before anything is processed. Macros run in order,
each with the results of those before it, which form a scope over the caller's
variables.

* `Macro.compute`: the value of one macro.
* `Macro.layer`: the scope of a list of macros.
-/

namespace Templating

/-- A replacement of all matches of a pattern. -/
structure PatternStep where
  pattern : String
  replacement : String
  deriving BEq

/-- A value with the condition under which it is chosen. -/
structure SwitchCase where
  condition : Option String
  value : Value
  deriving BEq

inductive Macro.Definition where
  | constant (value : Value)
  | evaluate (condition evaluator : String)
  | substitute (source : String) (steps : List PatternStep)
  | casing (source : String) (toLower : Bool)
  | switch (evaluator : String) (cases : List SwitchCase)
  | guid (format : Char)
  | now (format : String) (utc : Bool)
  deriving BEq

structure Macro where
  variableName : String
  definition : Macro.Definition
  deriving BEq

/-- What macros take from their surroundings: the time, and a fresh guid for each. -/
structure Ambient where
  now : Instant
  guid : Nat → Guid

namespace Macro

def readPattern (text : String) : Except ConfigError NamedPattern :=
  match Pattern.read? text with
  | some p => pure p
  | none => throw (.invalidPattern text)

def readGuidFormat (letter : Char) : Except ConfigError GuidFormat :=
  match GuidFormat.ofLetter? letter with
  | some f => pure f
  | none => throw (.invalidFormat .guid (String.singleton letter))

def readDateFormat (format : String) : Except ConfigError (List DateItem) :=
  match DateFormat.read? format with
  | some items => pure items
  | none => throw (.invalidFormat .date format)

def validate (m : Macro) : Except ConfigError Unit :=
  match m.definition with
  | .constant _ | .casing .. => pure ()
  | .evaluate _ evaluator | .switch evaluator _ => (Dialect.ofName evaluator).map fun _ => ()
  | .substitute _ steps => steps.forM fun s => (readPattern s.pattern).map fun _ => ()
  | .guid format => (readGuidFormat format).map fun _ => ()
  | .now format _ => (readDateFormat format).map fun _ => ()

def configured {α : Type} : Except ConfigError α → Except Error α
  | .ok a => pure a
  | .error e => throw (.config e)

def converted {α : Type} : Except ExpressionError α → Except Error α
  | .ok a => pure a
  | .error e => throw (.expression e)

/-- The text of a variable. -/
def sourceText (v : Variables) (c : Converter) (name : String) : Except Error String :=
  converted (c.toText (v.value name))

/-- A text after the replacements, in order. -/
def substituteAll (text : String) (steps : List PatternStep) : Except ConfigError String :=
  steps.foldlM (fun text s => do
    let p ← readPattern s.pattern
    pure (p.replaceAll s.replacement text)) text

/-- The value of the first case whose condition holds, null without one. -/
def select (d : Dialect) (v : Variables) (c : Converter) : List SwitchCase → Except Error Value
  | [] => pure .null
  | case :: cases =>
    match case.condition with
    | none => pure case.value
    | some condition => do
      if ← d.holds condition v c then pure case.value else select d v c cases

def renderNow (i : Instant) (format : String) (utc : Bool) : Except ConfigError String := do
  let items ← readDateFormat format
  match DateFormat.render? utc i items with
  | some text => pure text
  | none => throw (.invalidFormat .date format)

/-- **The value of a macro**, the `index`-th of its list, among variables. -/
def compute (m : Macro) (ambient : Ambient) (index : Nat) (v : Variables) (c : Converter) :
    Except Error Value :=
  match m.definition with
  | .constant value => pure value
  | .evaluate condition evaluator => do
    let d ← configured (Dialect.ofName evaluator)
    let holds ← d.holds condition v c
    pure (.bool holds)
  | .substitute source steps => do
    let text ← sourceText v c source
    let result ← configured (substituteAll text steps)
    pure (.string result)
  | .casing source toLower => do
    let text ← sourceText v c source
    pure (.string (if toLower then Case.lower text else Case.upper text))
  | .switch evaluator cases => do
    let d ← configured (Dialect.ofName evaluator)
    select d v c cases
  | .guid format => do
    let f ← configured (readGuidFormat format)
    pure (.string ((ambient.guid index).text f))
  | .now format utc => do
    let text ← configured (renderNow ambient.now format utc)
    pure (.string text)

/-- Computes macros, numbered from `index` on, into the innermost scope. -/
def computeAll (ambient : Ambient) (c : Converter) :
    Nat → List Macro → Variables → Except Error Variables
  | _, [], v => pure v
  | index, m :: ms, v => do
    let value ← m.compute ambient index v c
    computeAll ambient c (index + 1) ms (v.set m.variableName value)

/-- **The variables with the results of macros** in a scope over them. -/
def layer (ms : List Macro) (ambient : Ambient) (c : Converter) (v : Variables) :
    Except Error Variables :=
  computeAll ambient c 0 ms v.child

end Macro

end Templating

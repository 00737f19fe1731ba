import Templating.Configuration
import Templating.Json

/-!
# Writing configurations

`Configuration.toJson` writes a configuration as a tree of data with every field,
defaults included.
-/

namespace Templating

namespace Json

def ofTexts (texts : List String) : Json := array (texts.map string)

def ofSize (size : Nat) : Json := int size

end Json

def Value.toJson : Value → Json
  | null => .null
  | bool b => .bool b
  | int i => .int i.toInt
  | float x => .float x
  | string s => .string s

def PatternStep.toJson (s : PatternStep) : Json :=
  .object [("regex", .string s.pattern), ("replacement", .string s.replacement)]

def SwitchCase.toJson (case : SwitchCase) : Json :=
  .object [
    ("condition", (case.condition.map Json.string).getD .null),
    ("value", case.value.toJson)]

namespace Macro

/-- The kind of a macro and the fields that are its own. -/
def Definition.toFields : Definition → String × List (String × Json)
  | constant value => ("constant", [("value", value.toJson)])
  | evaluate condition evaluator =>
    ("evaluate", [("condition", .string condition), ("evaluator", .string evaluator)])
  | substitute source steps =>
    ("regex", [("source", .string source), ("steps", .array (steps.map (·.toJson)))])
  | casing source toLower => ("casing", [("source", .string source), ("toLower", .bool toLower)])
  | switch evaluator cases =>
    ("switch", [("evaluator", .string evaluator), ("cases", .array (cases.map (·.toJson)))])
  | guid format => ("guid", [("format", .string (.singleton format))])
  | now format utc => ("now", [("format", .string format), ("utc", .bool utc)])

def toJson (m : Macro) : Json :=
  let (kind, fields) := m.definition.toFields
  .object (("type", .string kind) :: ("variableName", .string m.variableName) :: fields)

end Macro

/-- The fields of an operation apart from its kind. -/
def OperationSettings.toFields : OperationSettings → List (String × Json)
  | conditionals s => [
    ("if", .ofTexts s.ifTokens),
    ("elseif", .ofTexts s.elseIfTokens),
    ("else", .ofTexts s.elseTokens),
    ("endif", .ofTexts s.endIfTokens),
    ("wholeLine", .bool s.wholeLine),
    ("trim", .bool s.trim),
    ("evaluator", .string s.evaluator),
    ("terminators", .ofTexts s.terminators),
    ("strict", .bool s.strict)]
  | replacements s => [("original", .string s.token), ("replacement", .string s.replacement)]
  | region s => [
    ("start", .string s.start),
    ("end", .string s.stop),
    ("include", .bool s.included),
    ("wholeLine", .bool s.wholeLine),
    ("trim", .bool s.trim)]
  | variableExpansion => []
  | macros ms => [("macros", .array (ms.map (·.toJson)))]

def OperationSettings.toJson (s : OperationSettings) : Json :=
  .object (("type", .string s.kind.name) :: s.toFields)

/-- **The object that describes a configuration.** -/
def Configuration.toJson (c : Configuration) : Json :=
  .object [
    ("variableFormat", .string c.variableFormat),
    ("operations", .array (c.operations.map (·.toJson))),
    ("bufferSize", .ofSize c.bufferSize),
    ("flushThreshold", .ofSize c.flushThreshold)]

end Templating

import Templating.Configuration
import Templating.Json.Record

/-!
# Reading configurations

`Configuration.ofJson?` reads a configuration from a tree of data. Fields that are
left out have their defaults, fields that nothing knows are passed over, and a
field of another type makes the whole unreadable. A configuration that can be read
need not be valid.
-/

namespace Templating

open Json

/-- A scalar; an integer beyond 64 bits with a sign is a float. -/
def Value.ofJson? : Json → Option Value
  | .null => some .null
  | .bool b => some (.bool b)
  | .int i => some (((int64? i).map .int).getD (.float (.ofInt i)))
  | .float x => some (.float x)
  | .string s => some (.string s)
  | .array _ | .object _ => none

namespace PatternStep

def fieldNames : List String := ["regex", "replacement"]

def ofJson? (j : Json) : Option PatternStep := do
  let fields ← j.fields? fieldNames
  pure {
    pattern := ← required fields "regex" text?
    replacement := ← required fields "replacement" text? }

end PatternStep

namespace SwitchCase

def fieldNames : List String := ["condition", "value"]

/-- A condition, which may be null for none. -/
def condition? : Json → Option (Option String)
  | .null => some none
  | j => (text? j).map some

def ofJson? (j : Json) : Option SwitchCase := do
  let fields ← j.fields? fieldNames
  pure {
    condition := ← optional fields "condition" none condition?
    value := ← required fields "value" Value.ofJson? }

end SwitchCase

namespace Macro

def kinds : List String := ["constant", "evaluate", "regex", "casing", "switch", "guid", "now"]

/-- The fields of each kind of macro, in order. -/
def fieldNames : String → List String
  | "constant" => ["variableName", "value"]
  | "evaluate" => ["variableName", "condition", "evaluator"]
  | "regex" => ["variableName", "source", "steps"]
  | "casing" => ["variableName", "source", "toLower"]
  | "switch" => ["variableName", "evaluator", "cases"]
  | "guid" => ["variableName", "format"]
  | "now" => ["variableName", "format", "utc"]
  | _ => []

def defaultDateFormat : String := "%Y-%m-%dT%H:%M:%S%:z"

def Definition.ofFields? (kind : String) (fields : List (String × Json)) : Option Definition := do
  match kind with
  | "constant" => pure (.constant (← required fields "value" Value.ofJson?))
  | "evaluate" =>
    pure (.evaluate (← required fields "condition" text?)
      (← optional fields "evaluator" Dialect.defaultName text?))
  | "regex" =>
    pure (.substitute (← required fields "source" text?)
      (← required fields "steps" (list? PatternStep.ofJson?)))
  | "casing" =>
    pure (.casing (← required fields "source" text?) (← optional fields "toLower" false flag?))
  | "switch" =>
    pure (.switch (← optional fields "evaluator" Dialect.defaultName text?)
      (← required fields "cases" (list? SwitchCase.ofJson?)))
  | "guid" => pure (.guid (← optional fields "format" 'D' character?))
  | "now" =>
    pure (.now (← optional fields "format" defaultDateFormat text?)
      (← optional fields "utc" false flag?))
  | _ => none

def ofJson? (style : TagStyle) (j : Json) : Option Macro := do
  let (tag, content) ← j.tagged?
  let kind ← kind? style kinds tag
  let fields ← content.fields? (fieldNames kind)
  pure {
    variableName := ← required fields "variableName" text?
    definition := ← Definition.ofFields? kind fields }

end Macro

namespace ConditionalSettings

def fieldNames : List String :=
  ["if", "elseif", "else", "endif", "wholeLine", "trim", "evaluator", "terminators", "strict"]

def ofJson? (j : Json) : Option ConditionalSettings := do
  let fields ← j.fields? fieldNames
  pure {
    ifTokens := ← required fields "if" (list? text?)
    elseIfTokens := ← optional fields "elseif" [] (list? text?)
    elseTokens := ← optional fields "else" [] (list? text?)
    endIfTokens := ← required fields "endif" (list? text?)
    wholeLine := ← optional fields "wholeLine" false flag?
    trim := ← optional fields "trim" false flag?
    evaluator := ← optional fields "evaluator" Dialect.defaultName text?
    terminators := ← optional fields "terminators" [] (list? text?)
    strict := ← optional fields "strict" false flag? }

end ConditionalSettings

namespace ReplacementSettings

def fieldNames : List String := ["original", "replacement"]

def ofJson? (j : Json) : Option ReplacementSettings := do
  let fields ← j.fields? fieldNames
  pure {
    token := ← required fields "original" text?
    replacement := ← optional fields "replacement" "" text? }

end ReplacementSettings

namespace RegionSettings

def fieldNames : List String := ["start", "end", "include", "wholeLine", "trim"]

def ofJson? (j : Json) : Option RegionSettings := do
  let fields ← j.fields? fieldNames
  pure {
    start := ← required fields "start" text?
    stop := ← required fields "end" text?
    included := ← optional fields "include" false flag?
    wholeLine := ← optional fields "wholeLine" false flag?
    trim := ← optional fields "trim" false flag? }

end RegionSettings

namespace OperationSettings

def kinds : List String :=
  ["conditionals", "replacements", "region", "variable-expansion", "macros"]

/-- An expansion has no fields: an object may have any, a list no further item. -/
def expansion? (j : Json) : Option OperationSettings :=
  (j.fields? []).map fun _ => variableExpansion

def macros? (j : Json) : Option OperationSettings := do
  let fields ← j.fields? ["macros"]
  pure (macros (← required fields "macros" (list? (Macro.ofJson? .byNameOrPlace))))

def ofJson? (j : Json) : Option OperationSettings := do
  let (tag, content) ← j.tagged?
  match ← kind? .byName kinds tag with
  | "conditionals" => (ConditionalSettings.ofJson? content).map conditionals
  | "replacements" => (ReplacementSettings.ofJson? content).map replacements
  | "region" => (RegionSettings.ofJson? content).map region
  | "variable-expansion" => expansion? content
  | "macros" => macros? content
  | _ => none

end OperationSettings

namespace Configuration

/-- **The configuration that an object describes.** -/
def ofJson? : Json → Option Configuration
  | .object fields => do
    pure {
      variableFormat := ← optional fields "variableFormat" defaultFormat text?
      operations := ← optional fields "operations" [] (list? OperationSettings.ofJson?)
      bufferSize := ← optional fields "bufferSize" defaultSize size?
      flushThreshold := ← optional fields "flushThreshold" defaultSize size? }
  | _ => none

end Configuration

end Templating

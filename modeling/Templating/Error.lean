import Templating.Number.Numeral

/-!
# What can go wrong

Causes of failure, from the narrow to the wide: `IoError` of a source or a
target, `ConfigError` of a configuration, `ExpressionError` of a condition, and
`Error`, which a run returns. `message` words each of them.
-/

namespace Templating

inductive OperationKind where
  | conditionals | replacements | region | variableExpansion | macros
  deriving DecidableEq

def OperationKind.name : OperationKind → String
  | conditionals => "conditionals"
  | replacements => "replacements"
  | region => "region"
  | variableExpansion => "variable-expansion"
  | macros => "macros"

/-- The markers of conditional blocks. -/
inductive Marker where
  | opening | alternative | fallback | closing
  deriving DecidableEq

/-- A marker as a configuration names it. -/
def Marker.role : Marker → String
  | opening => "if"
  | alternative => "elseif"
  | fallback => "else"
  | closing => "endif"

/-- A marker as a message about an unbalanced block names it. -/
def Marker.title : Marker → String
  | opening => "If"
  | alternative => "ElseIf"
  | fallback => "Else"
  | closing => "EndIf"

/-- The target type of a conversion. -/
inductive TypeTag where
  | bool | int | float | string
  deriving DecidableEq

def TypeTag.name : TypeTag → String
  | bool => "bool"
  | int => "int"
  | float => "float"
  | string => "string"

inductive IoError where
  /-- The source or the target refused. -/
  | failed
  /-- Less was written than was to be read back. -/
  | endOfData
  deriving DecidableEq

inductive SizeSetting where
  | bufferSize | flushThreshold
  deriving DecidableEq

def SizeSetting.name : SizeSetting → String
  | bufferSize => "bufferSize"
  | flushThreshold => "flushThreshold"

inductive FormatKind where
  | guid | date
  deriving DecidableEq

def FormatKind.name : FormatKind → String
  | guid => "guid"
  | date => "date"

inductive ConfigError where
  | emptyToken (operation : OperationKind)
  | unknownEvaluator (name : String)
  | invalidPattern (pattern : String)
  | variableFormat (format : String)
  | zeroSize (setting : SizeSetting)
  | missingToken (operation : OperationKind) (marker : Marker)
  | invalidFormat (kind : FormatKind) (format : String)
  deriving DecidableEq

/-- A text between double quotes. -/
def quoted (s : String) : String := "\"" ++ s ++ "\""

def ConfigError.message : ConfigError → String
  | emptyToken operation => operation.name ++ " registers an empty token"
  | unknownEvaluator name => "unknown evaluator " ++ quoted name
  | invalidPattern pattern => "invalid regex " ++ quoted pattern
  | variableFormat format =>
    "variable format " ++ quoted format ++ " must contain the \x7b0\x7d placeholder"
  | zeroSize setting => setting.name ++ " must be greater than zero"
  | missingToken operation marker =>
    operation.name ++ " needs at least one " ++ marker.role ++ " token"
  | invalidFormat kind format => "invalid " ++ kind.name ++ " format " ++ quoted format

inductive SyntaxCause where
  | unterminatedQuote
  | expectedOperator
  | expectedOperand
  | unexpectedOperand
  | unbalancedParenthesis
  | unclosedParenthesis
  | unbalancedGroup
  | unclosedGroup
  | missingLastOperand
  | missingOperand
  deriving DecidableEq

def SyntaxCause.message : SyntaxCause → String
  | unterminatedQuote => "unterminated quoted literal"
  | expectedOperator => "expected an operator"
  | expectedOperand => "expected an operand"
  | unexpectedOperand => "unexpected operand"
  | unbalancedParenthesis => "unbalanced parenthesis"
  | unclosedParenthesis => "unclosed parenthesis"
  | unbalancedGroup => "unbalanced group"
  | unclosedGroup => "unclosed group"
  | missingLastOperand => "expression ends without an operand"
  | missingOperand => "missing operand"

inductive ArithmeticCause where
  | additionOverflow
  | subtractionOverflow
  | multiplicationOverflow
  | divisionOverflow
  | remainderOverflow
  | negationOverflow
  | divisionByZero
  /-- A conversion of the caller's own gave up. -/
  | custom (reason : String)
  deriving DecidableEq

def ArithmeticCause.message : ArithmeticCause → String
  | additionOverflow => "addition overflow"
  | subtractionOverflow => "subtraction overflow"
  | multiplicationOverflow => "multiplication overflow"
  | divisionOverflow => "division overflow"
  | remainderOverflow => "remainder overflow"
  | negationOverflow => "negation overflow"
  | divisionByZero => "division by zero"
  | custom reason => reason

inductive ExpressionError where
  | conversion (value : String) (target : TypeTag)
  | malformed (cause : SyntaxCause) (near : String)
  | missingConverter (target : TypeTag)
  | arithmetic (cause : ArithmeticCause)
  deriving DecidableEq

namespace ExpressionError

/-- A message quotes at most this many characters of a condition. -/
def contextLength : Nat := 32

/-- A syntax error that quotes the end of the text where it was met. -/
def syntaxAt (cause : SyntaxCause) (near : String) : ExpressionError :=
  let cs := near.toList
  malformed cause (String.ofList (cs.drop (cs.length - contextLength)))

def message : ExpressionError → String
  | conversion value target => "cannot convert " ++ value ++ " to " ++ target.name
  | malformed cause near => cause.message ++ " near " ++ quoted near
  | missingConverter target => "no converter registered for " ++ target.name
  | arithmetic cause => "arithmetic error: " ++ cause.message

end ExpressionError

/-- How the blocks of a template fail to be balanced. -/
inductive Imbalance where
  /-- Blocks that the input leaves open. -/
  | unclosed (blocks : Nat)
  /-- A marker outside of any block. -/
  | orphan (marker : Marker)
  deriving DecidableEq

def Imbalance.message : Imbalance → String
  | unclosed blocks =>
    String.ofList (Numeral.digits blocks) ++ " block(s) still open at end of input"
  | orphan marker => marker.title ++ " without a matching if"

inductive Error where
  | io (cause : IoError)
  | config (cause : ConfigError)
  | expression (cause : ExpressionError)
  | unbalanced (cause : Imbalance)
  deriving DecidableEq

def IoError.message : IoError → String
  | failed => "the stream failed"
  | endOfData => "read past the end of the written output"

def Error.message : Error → String
  | io cause => cause.message
  | config cause => "configuration error: " ++ cause.message
  | expression cause => "expression evaluation failed: " ++ cause.message
  | unbalanced cause => "unbalanced conditional: " ++ cause.message

end Templating

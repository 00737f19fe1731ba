import Templating.Number.Numeral
import Templating.Number.Decimal

/-!
# Scalar values

Variables, the literals of a condition and the results of evaluating one are
all a `Value`.

* `Value.ofLiteral` infers the value of a bare word of a condition.
* `Value.text` is the text a value expands to.
-/

namespace Templating

inductive Value where
  | null
  | bool (b : Bool)
  | int (i : Int64)
  | float (x : Float)
  | string (s : String)
  deriving BEq

namespace Value

instance : Inhabited Value := ⟨null⟩

/-- The name of a value's variant, as error messages give it. -/
def kind : Value → String
  | null => "null"
  | bool _ => "bool"
  | int _ => "int"
  | float _ => "float"
  | string _ => "string"

def isNull : Value → Bool
  | null => true
  | _ => false

def isString : Value → Bool
  | string _ => true
  | _ => false

/-- Null and the values that integer arithmetic reads as integers. -/
def isIntegral : Value → Bool
  | null | bool _ | int _ => true
  | _ => false

def string? : Value → Option String
  | string s => some s
  | _ => none

/-- The text a value expands to; null expands to nothing. -/
def text : Value → String
  | null => ""
  | bool true => "true"
  | bool false => "false"
  | int i => Numeral.text i
  | float x => Decimal.text x
  | string s => s

/-- The text between two double quotes, if a word is written so. -/
def quotedText? (word : List Char) : Option (List Char) :=
  match word with
  | '"' :: rest => if rest.getLast? = some '"' then some rest.dropLast else none
  | _ => none

/-- **The value of a bare word.** A quoted word is a string; `true`, `false` and
`null` are recognised in any case; `0x` opens a hexadecimal integer; a word with
a point is a float and any other an integer; what cannot be read is null. -/
def ofLiteral (word : String) : Value :=
  let cs := word.toList
  match quotedText? cs with
  | some inner => string (String.ofList inner)
  | none =>
    let folded := cs.map Char.toLower
    if folded = "true".toList then bool true
    else if folded = "false".toList then bool false
    else if folded = "null".toList then null
    else
      match Numeral.hexDigits? cs with
      | some digits => ((Numeral.read? 16 digits).map int).getD null
      | none =>
        if cs.contains '.' then ((Decimal.read? cs).map float).getD null
        else ((Numeral.read? 10 cs).map int).getD null

end Value

end Templating

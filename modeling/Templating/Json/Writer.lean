import Templating.Json
import Templating.Number.Decimal

/-!
# Writing trees of data

`Json.write` writes a tree without blanks and with the entries of objects as they
stand.
-/

namespace Templating.Json

def hexDigit (n : Nat) : Char := if n < 10 then Char.ofNat (48 + n) else Char.ofNat (87 + n)

/-- A character inside of quotes. -/
def escape (c : Char) : List Char :=
  match c with
  | '"' => ['\\', '"']
  | '\\' => ['\\', '\\']
  | '\x08' => ['\\', 'b']
  | '\x0c' => ['\\', 'f']
  | '\n' => ['\\', 'n']
  | '\r' => ['\\', 'r']
  | '\t' => ['\\', 't']
  | c =>
    if c.toNat < 32 then
      ['\\', 'u', '0', '0', hexDigit (c.toNat / 16), hexDigit (c.toNat % 16)]
    else [c]

def writeText (s : String) : List Char := '"' :: s.toList.flatMap escape ++ ['"']

def writeInt (i : Int) : List Char :=
  if i < 0 then '-' :: Numeral.digits i.natAbs else Numeral.digits i.natAbs

/-- A number that is written with a point, so that it reads back as no integer; what
is no number is null. -/
def writeFloat (x : Float) : List Char :=
  match Binary.ofFloat x with
  | .finite .. =>
    let cs := (Decimal.text x).toList
    if cs.contains '.' then cs else cs ++ ['.', '0']
  | _ => "null".toList

mutual

def writeValue : Json → List Char
  | null => "null".toList
  | bool true => "true".toList
  | bool false => "false".toList
  | int i => writeInt i
  | float x => writeFloat x
  | string s => writeText s
  | array items => '[' :: writeItems items ++ [']']
  | object entries => '\x7b' :: writeEntries entries ++ ['\x7d']

def writeItems : List Json → List Char
  | [] => []
  | [item] => writeValue item
  | item :: rest => writeValue item ++ ',' :: writeItems rest

def writeEntries : List (String × Json) → List Char
  | [] => []
  | [(key, value)] => writeText key ++ ':' :: writeValue value
  | (key, value) :: rest => writeText key ++ ':' :: writeValue value ++ ',' :: writeEntries rest

end

/-- **The text of a tree.** -/
def write (j : Json) : String := String.ofList (writeValue j)

end Templating.Json

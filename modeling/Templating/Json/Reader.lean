import Templating.Json
import Templating.Number.Decimal

/-!
# Reading trees of data

`Json.read?` reads a whole text in JSON. A number without point and exponent is an
integer if it fits 64 bits, with or without a sign; negative zero is none. Of two
entries with one key the later counts.
-/

namespace Templating.Json

def skipBlanks (cs : List Char) : List Char :=
  cs.dropWhile fun c => c = ' ' || c = '\t' || c = '\n' || c = '\r'

/-- The number of a numeral. -/
def number? (numeral : List Char) : Option Json :=
  match Numeral.integer? 10 numeral with
  | some i =>
    if i = 0 ∧ numeral.head? = some '-' then (Decimal.read? numeral).map float
    else if -signedBound ≤ i ∧ i < unsignedBound then some (int i)
    else (Decimal.read? numeral).map float
  | none => (Decimal.read? numeral).map float

def isNumeral (c : Char) : Bool :=
  c.isDigit || c = '-' || c = '+' || c = '.' || c = 'e' || c = 'E'

/-- Four hexadecimal digits. -/
def unit? (cs : List Char) : Option (Nat × List Char) :=
  let digits := cs.take 4
  if digits.length = 4 then (Numeral.natural? 16 digits).map (·, cs.drop 4) else none

/-- The character of an escape, after its backslash and letter `u`. -/
def escapedUnit? (cs : List Char) : Option (Char × List Char) :=
  (unit? cs).map fun (high, rest) =>
    if 0xD800 ≤ high ∧ high < 0xDC00 then
      match rest with
      | '\\' :: 'u' :: more =>
        match unit? more with
        | some (low, after) =>
          if 0xDC00 ≤ low ∧ low < 0xE000 then
            (Char.ofNat (0x10000 + (high - 0xD800) * 0x400 + (low - 0xDC00)), after)
          else ('\uFFFD', rest)
        | none => ('\uFFFD', rest)
      | _ => ('\uFFFD', rest)
    else ((if high.isValidChar then Char.ofNat high else '\uFFFD'), rest)

/-- The character that a letter stands for after a backslash. -/
def escaped? : Char → Option Char
  | '"' => some '"'
  | '\\' => some '\\'
  | '/' => some '/'
  | 'b' => some '\x08'
  | 'f' => some '\x0c'
  | 'n' => some '\n'
  | 'r' => some '\r'
  | 't' => some '\t'
  | _ => none

/-- The characters of a text up to its closing quote, after those read before. -/
def readText? : Nat → List Char → List Char → Option (String × List Char)
  | 0, _, _ | _, _, [] => none
  | _ + 1, before, '"' :: rest => some (String.ofList before.reverse, rest)
  | fuel + 1, before, '\\' :: 'u' :: rest =>
    (escapedUnit? rest).bind fun (c, after) => readText? fuel (c :: before) after
  | fuel + 1, before, '\\' :: c :: rest =>
    (escaped? c).bind fun c => readText? fuel (c :: before) rest
  | fuel + 1, before, c :: rest => readText? fuel (c :: before) rest

/-- Skips blanks and one character. -/
def skip? (c : Char) (cs : List Char) : Option (List Char) :=
  match skipBlanks cs with
  | d :: rest => if d = c then some rest else none
  | [] => none

def word? (word : String) (cs : List Char) : Option (List Char) :=
  if word.toList.isPrefixOf cs then some (cs.drop word.length) else none

mutual

/-- A value at the start of a text, and what follows it. -/
def readValue? : Nat → List Char → Option (Json × List Char)
  | 0, _ => none
  | fuel + 1, cs =>
    match skipBlanks cs with
    | '"' :: rest => (readText? (fuel + 1) [] rest).map fun (s, after) => (string s, after)
    | '[' :: rest =>
      match skip? ']' rest with
      | some after => some (array [], after)
      | none => readItems? fuel [] rest
    | '\x7b' :: rest =>
      match skip? '\x7d' rest with
      | some after => some (object [], after)
      | none => readEntries? fuel [] rest
    | 't' :: rest => (word? "rue" rest).map (bool true, ·)
    | 'f' :: rest => (word? "alse" rest).map (bool false, ·)
    | 'n' :: rest => (word? "ull" rest).map (null, ·)
    | start =>
      (number? (start.takeWhile isNumeral)).map (·, start.dropWhile isNumeral)

/-- The items of a list after those read before, the last one first. -/
def readItems? : Nat → List Json → List Char → Option (Json × List Char)
  | 0, _, _ => none
  | fuel + 1, before, cs =>
    (readValue? fuel cs).bind fun (item, rest) =>
      match skipBlanks rest with
      | ',' :: more => readItems? fuel (item :: before) more
      | ']' :: after => some (array (item :: before).reverse, after)
      | _ => none

/-- The entries of an object after those read before. -/
def readEntries? : Nat → List (String × Json) → List Char → Option (Json × List Char)
  | 0, _, _ => none
  | fuel + 1, before, cs =>
    match skip? '"' cs with
    | none => none
    | some inner =>
      (readText? (fuel + 1) [] inner).bind fun (key, rest) =>
        (skip? ':' rest).bind fun rest =>
          (readValue? fuel rest).bind fun (value, rest) =>
            match skipBlanks rest with
            | ',' :: more => readEntries? fuel (put key value before) more
            | '\x7d' :: after => some (object (put key value before), after)
            | _ => none

end

/-- **The value that a text writes.** -/
def read? (text : String) : Option Json :=
  let cs := text.toList
  match readValue? (2 * cs.length + 2) cs with
  | some (value, rest) => if (skipBlanks rest).isEmpty then some value else none
  | none => none

end Templating.Json

import Templating.Error
import Templating.Text.Blank
import Templating.Value

/-!
# Conversions

A `Converter` holds one conversion for each target type. Operators ask it for
the type they work on, so a caller may replace a conversion, or leave it out.

* `Converter.standard`: the conversions used unless the caller brings others.
* `Converter.toBool` and its kin: the converted value in the type asked for.
-/

namespace Templating

abbrev Conversion := Value → Except ExpressionError Value

structure Converter where
  bool : Option Conversion
  int : Option Conversion
  float : Option Conversion
  string : Option Conversion

namespace Conversion

/-- The bare text of a string, as a failed conversion quotes it. -/
def refuse (s : String) (target : TypeTag) : Except ExpressionError Value :=
  throw (.conversion (quoted s) target)

def toBool : Conversion
  | .null => pure (.bool false)
  | .bool b => pure (.bool b)
  | .int i => pure (.bool (i != 0))
  | .float x => pure (.bool (x != 0.0))
  | .string s =>
    let cs := Blank.trim s.toList
    let folded := cs.map Char.toLower
    if folded = "true".toList then pure (.bool true)
    else if folded = "false".toList then pure (.bool false)
    else refuse (String.ofList cs) .bool

/-- The integer that the characters of a string write, in radix ten or with a
mark in radix sixteen. -/
def readInt? (cs : List Char) : Option Int64 :=
  match Numeral.hexDigits? cs with
  | some digits => Numeral.read? 16 digits
  | none => Numeral.read? 10 cs

def toInt : Conversion
  | .null => pure (.int 0)
  | .bool b => pure (.int (if b then 1 else 0))
  | .int i => pure (.int i)
  | .float x =>
    match (Binary.ofFloat x).round?.bind int64? with
    | some i => pure (.int i)
    | none => throw (.conversion (Decimal.text x) .int)
  | .string s =>
    let cs := Blank.trim s.toList
    match readInt? cs with
    | some i => pure (.int i)
    | none => refuse (String.ofList cs) .int

def toFloat : Conversion
  | .null => pure (.float 0.0)
  | .bool b => pure (.float (if b then 1.0 else 0.0))
  | .int i => pure (.float (Float.ofInt i.toInt))
  | .float x => pure (.float x)
  | .string s =>
    match Decimal.read? (Blank.trim s.toList) with
    | some x => pure (.float x)
    | none => refuse s .float

def toText : Conversion := fun v => pure (.string v.text)

end Conversion

namespace Converter

def empty : Converter := ⟨none, none, none, none⟩

def standard : Converter :=
  ⟨some Conversion.toBool, some Conversion.toInt, some Conversion.toFloat, some Conversion.toText⟩

def find? (c : Converter) : TypeTag → Option Conversion
  | .bool => c.bool
  | .int => c.int
  | .float => c.float
  | .string => c.string

def convert (c : Converter) (v : Value) (target : TypeTag) : Except ExpressionError Value :=
  match c.find? target with
  | some conversion => conversion v
  | none => throw (.missingConverter target)

def toBool (c : Converter) (v : Value) : Except ExpressionError Bool := do
  match ← c.convert v .bool with
  | .bool b => pure b
  | other => throw (.conversion other.kind .bool)

def toInt64 (c : Converter) (v : Value) : Except ExpressionError Int64 := do
  match ← c.convert v .int with
  | .int i => pure i
  | other => throw (.conversion other.kind .int)

/-- A 32-bit integer, which is what the amount of a shift must be. -/
def toInt32 (c : Converter) (v : Value) : Except ExpressionError Int32 := do
  let wide ← c.toInt64 v
  if -0x80000000 ≤ wide.toInt ∧ wide.toInt < 0x80000000 then pure (Int32.ofInt wide.toInt)
  else throw (.conversion (Numeral.text wide) .int)

def toFloat (c : Converter) (v : Value) : Except ExpressionError Float := do
  match ← c.convert v .float with
  | .float x => pure x
  | other => throw (.conversion other.kind .float)

def toText (c : Converter) (v : Value) : Except ExpressionError String := do
  match ← c.convert v .string with
  | .string s => pure s
  | other => throw (.conversion other.kind .string)

end Converter

end Templating

import Templating.Conversion
import Templating.Text.Case

/-!
# Operators

The meaning of the operators of a condition. Both operands are values already,
so `and` and `or` convert both and report a failure of either, the left one
first.

* `Value.agrees`: equality, without regard to case on strings and by value on
  numbers.
* `BinaryOperator.apply` and `UnaryOperator.apply`: the value of an operator.
-/

namespace Templating

inductive BinaryOperator where
  | or | xor | and
  | bitwiseOr | bitwiseAnd
  | equalTo | notEqualTo
  | lessThan | lessThanOrEqualTo | greaterThan | greaterThanOrEqualTo
  | leftShift | rightShift
  | add | subtract | multiply | divide | remainder
  deriving DecidableEq

inductive UnaryOperator where
  | not | negate
  deriving DecidableEq

def Value.agrees : Value → Value → Bool
  | .null, .null => true
  | .bool a, .bool b => a == b
  | .int a, .int b => a == b
  | .float a, .float b => a == b
  | .string a, .string b => Case.lower a == Case.lower b
  | .int a, .float b | .float b, .int a => Float.ofInt a.toInt == b
  | _, _ => false

namespace BinaryOperator

/-- Both operands as truth values. -/
def logical (f : Bool → Bool → Bool) (c : Converter) (left right : Value) :
    Except ExpressionError Value := do
  let a ← c.toBool left
  let b ← c.toBool right
  pure (.bool (f a b))

/-- Both operands as numbers. A number that is not comparable satisfies no order. -/
def ordering (f : Float → Float → Bool) (c : Converter) (left right : Value) :
    Except ExpressionError Value := do
  let x ← c.toFloat left
  let y ← c.toFloat right
  pure (.bool (f x y))

/-- Both operands as words of 64 bits. -/
def bitwise (f : Int64 → Int64 → Int64) (c : Converter) (left right : Value) :
    Except ExpressionError Value := do
  let a ← c.toInt64 left
  let b ← c.toInt64 right
  pure (.int (f a b))

/-- A shift, by an amount modulo the width of a word. The amount is converted first. -/
def shift (f : Int64 → Int64 → Int64) (c : Converter) (left right : Value) :
    Except ExpressionError Value := do
  let amount ← c.toInt32 right
  let a ← c.toInt64 left
  pure (.int (f a (Int64.ofInt amount.toInt)))

/-- Integer arithmetic on two integral operands, which may overflow, and
floating point arithmetic otherwise. -/
def arithmetic (integral : Int64 → Int64 → Option Int64) (floating : Float → Float → Float)
    (failure : ArithmeticCause) (c : Converter) (left right : Value) :
    Except ExpressionError Value := do
  if left.isIntegral && right.isIntegral then
    let a ← c.toInt64 left
    let b ← c.toInt64 right
    match integral a b with
    | some i => pure (.int i)
    | none => throw (.arithmetic failure)
  else
    let x ← c.toFloat left
    let y ← c.toFloat right
    pure (.float (floating x y))

/-- An integral divisor must not be zero. -/
def checkDivisor (c : Converter) (left right : Value) : Except ExpressionError Unit := do
  if left.isIntegral && right.isIntegral then
    let b ← c.toInt64 right
    if b = 0 then throw (.arithmetic .divisionByZero)

def checkedQuotient (a b : Int64) : Option Int64 :=
  if b = 0 then none else int64? (a.toInt.tdiv b.toInt)

/-- The remainder of a quotient that fits 64 bits. -/
def checkedRemainder (a b : Int64) : Option Int64 :=
  (checkedQuotient a b).bind fun _ => int64? (a.toInt.tmod b.toInt)

/-- A sum, or both texts one after the other when either operand is a string. -/
def sum (c : Converter) (left right : Value) : Except ExpressionError Value := do
  if left.isString || right.isString then
    let a ← c.toText left
    let b ← c.toText right
    pure (.string (a ++ b))
  else
    arithmetic (fun a b => int64? (a.toInt + b.toInt)) (· + ·) .additionOverflow c left right

/-- **The value of a binary operator.** -/
def apply : BinaryOperator → Converter → Value → Value → Except ExpressionError Value
  | and => logical (· && ·)
  | or => logical (· || ·)
  | xor => logical (· ^^ ·)
  | equalTo => fun _ left right => pure (.bool (left.agrees right))
  | notEqualTo => fun _ left right => pure (.bool (!left.agrees right))
  | lessThan => ordering fun x y => x < y
  | lessThanOrEqualTo => ordering fun x y => x ≤ y
  | greaterThan => ordering fun x y => y < x
  | greaterThanOrEqualTo => ordering fun x y => y ≤ x
  | bitwiseAnd => bitwise (· &&& ·)
  | bitwiseOr => bitwise (· ||| ·)
  | leftShift => shift (· <<< ·)
  | rightShift => shift (· >>> ·)
  | add => sum
  | subtract =>
    arithmetic (fun a b => int64? (a.toInt - b.toInt)) (· - ·) .subtractionOverflow
  | multiply =>
    arithmetic (fun a b => int64? (a.toInt * b.toInt)) (· * ·) .multiplicationOverflow
  | divide => fun c left right => do
    checkDivisor c left right
    arithmetic checkedQuotient (· / ·) .divisionOverflow c left right
  | remainder => fun c left right => do
    checkDivisor c left right
    arithmetic checkedRemainder Binary.remainder .remainderOverflow c left right

end BinaryOperator

/-- **The value of a unary operator.** -/
def UnaryOperator.apply : UnaryOperator → Converter → Value → Except ExpressionError Value
  | not, c, v => do
    let b ← c.toBool v
    pure (.bool !b)
  | negate, _, .float x => pure (.float (-x))
  | negate, c, v => do
    let i ← c.toInt64 v
    match int64? (-i.toInt) with
    | some n => pure (.int n)
    | none => throw (.arithmetic .negationOverflow)

end Templating

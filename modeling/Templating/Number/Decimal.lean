import Templating.Number.Binary
import Templating.Number.Numeral

/-!
# Decimal text of doubles

* `Decimal.shortest`: the fewest digits that read back as the same double, and
  of those the nearest.
* `Decimal.text`: these digits written with a point and never an exponent.
* `Decimal.read?`: the double nearest to a numeral.
-/

namespace Templating

/-- The number `digits * 10 ^ exponent`. -/
structure Decimal where
  digits : Nat
  exponent : Int

namespace Decimal

/-- The reals that round to a double, in units of a common denominator: those
strictly between `low` and `high`, and these two as well if `closed`. -/
structure Interval where
  low : Nat
  high : Nat
  closed : Bool

def Interval.mem (i : Interval) (n : Nat) : Bool :=
  (i.low < n && n < i.high) || (i.closed && (n == i.low || n == i.high))

/-- The number of decimal digits of the integer part of `n / d`, zero below one. -/
def places (n d : Nat) : Nat :=
  if n / d = 0 then 0 else (Numeral.digits (n / d)).length

/-- For `n / d` below one, how many zeros follow the point. -/
def leadingZeros (d : Nat) : Nat → Nat → Nat
  | 0, _ => 0
  | fuel + 1, n => if d ≤ 10 * n then 0 else 1 + leadingZeros d fuel (10 * n)

/-- The position of the first digit of `n / d`: the `e` with `10 ^ e ≤ n / d < 10 ^ (e + 1)`. -/
def order (n d : Nat) : Int :=
  match places n d with
  | 0 => -1 - leadingZeros d 400 n
  | k + 1 => k

/-- The grid point with `count` digits that reads back, if one of the two
neighbours of `value / unit` does; of two the nearer, of equally near the upper. -/
def onGrid? (i : Interval) (value unit : Nat) (e : Int) (count : Nat) : Option Decimal :=
  let p := e - (count - 1 : Nat)
  -- scale everything by `10 ^ (-p)` when the grid is finer than one
  let up := Nat.pow 10 (-p).toNat
  let step := unit * Nat.pow 10 p.toNat
  let v := value * up
  let lower := v / step
  let inside := fun n => Interval.mem ⟨i.low * up, i.high * up, i.closed⟩ (n * step)
  let nearLower := decide (v - lower * step < (lower + 1) * step - v)
  match inside lower, inside (lower + 1) with
  | true, true => some ⟨if nearLower then lower else lower + 1, p⟩
  | true, false => some ⟨lower, p⟩
  | false, true => some ⟨lower + 1, p⟩
  | false, false => none

/-- Without a last zero. -/
def trim (x : Decimal) : Decimal :=
  if x.digits % 10 = 0 ∧ x.digits ≠ 0 then ⟨x.digits / 10, x.exponent + 1⟩ else x

/-- **The shortest decimal of `m * 2 ^ q`**, for a positive significand: seventeen
digits always suffice. -/
def shortest (m : Nat) (q : Int) : Decimal :=
  -- in units of a quarter of the last place
  let scale := Nat.pow 2 (q - 2).toNat
  let unit := Nat.pow 2 (2 - q).toNat
  let value := 4 * m * scale
  let below := if m = Binary.fractionBound ∧ -1074 < q then 1 else 2
  let i : Interval := ⟨(4 * m - below) * scale, (4 * m + 2) * scale, m % 2 = 0⟩
  let e := order value unit
  match (List.range 17).findSome? fun k => onGrid? i value unit e (k + 1) with
  | some x => trim x
  | none => ⟨0, 0⟩

/-- A decimal with a point where one is needed, never an exponent. -/
def positional (x : Decimal) : List Char :=
  let ds := Numeral.digits x.digits
  if 0 ≤ x.exponent then ds ++ List.replicate x.exponent.toNat '0'
  else
    let fraction := (-x.exponent).toNat
    let padded := List.replicate (fraction + 1 - ds.length) '0' ++ ds
    let whole := padded.length - fraction
    padded.take whole ++ '.' :: padded.drop whole

/-- **The text of a double**: shortest digits, a sign also for a negative zero. -/
def text (x : Float) : String :=
  match Binary.ofFloat x with
  | .nan => "NaN"
  | .infinite negative => if negative then "-inf" else "inf"
  | .finite negative m q =>
    let ds := if m = 0 then ['0'] else positional (shortest m q)
    String.ofList (if negative then '-' :: ds else ds)

/-- The double nearest to `digits * 10 ^ exponent`. Digits between `2 ^ k` and
`2 ^ (k + 1)` are at least `10 ^ (3 * k / 10)` and below `10 ^ (k / 3 + 1)`, which tells
the numbers that are out of reach. -/
def toFloat (x : Decimal) : Float :=
  if x.digits = 0 then 0.0
  else if 400 < x.exponent + (3 * x.digits.log2 / 10 : Nat) then 1.0 / 0.0
  else if x.exponent + (x.digits.log2 / 3 + 1 : Nat) < -400 then 0.0
  else Float.ofScientific x.digits (x.exponent < 0) x.exponent.natAbs

/-- The exponent part of a numeral: nothing, or a mark and a signed integer. -/
def exponent? : List Char → Option Int
  | [] => some 0
  | c :: cs => if c = 'e' ∨ c = 'E' then Numeral.integer? 10 cs else none

/-- A numeral without sign: digits, a point and digits, an exponent, with at
least one digit before the exponent. -/
def unsigned? (cs : List Char) : Option Decimal :=
  let whole := cs.takeWhile Char.isDigit
  let rest := cs.dropWhile Char.isDigit
  let (fraction, tail) := match rest with
    | '.' :: more => (more.takeWhile Char.isDigit, more.dropWhile Char.isDigit)
    | _ => ([], rest)
  match Numeral.natural? 10 (whole ++ fraction), exponent? tail with
  | some n, some e => some ⟨n, e - fraction.length⟩
  | _, _ => none

def magnitude? (cs : List Char) : Option Float :=
  let folded := cs.map Char.toLower
  if folded = "inf".toList ∨ folded = "infinity".toList then some (1.0 / 0.0)
  else if folded = "nan".toList then some (0.0 / 0.0)
  else (unsigned? cs).map toFloat

/-- **Reading a double**: an optional sign, then a numeral, `inf`, `infinity` or
`nan` in any case. -/
def read? : List Char → Option Float
  | '-' :: cs => (magnitude? cs).map fun x => -x
  | '+' :: cs => magnitude? cs
  | cs => magnitude? cs

end Decimal

end Templating

/-!
# Doubles as integers times powers of two

`Binary.ofFloat` takes a double apart exactly. What the rest of the library
needs beyond the four operations is then integer arithmetic: rounding to an
integer (`Binary.round?`) and the remainder of a division (`Binary.remainder`).
-/

namespace Templating

/-- A double as sign, significand and a power of two. -/
inductive Binary where
  | nan
  | infinite (negative : Bool)
  | finite (negative : Bool) (significand : Nat) (exponent : Int)

namespace Binary

/-- One more than the greatest fraction of a double, which has 52 bits. -/
def fractionBound : Nat := 0x10000000000000

def ofFloat (x : Float) : Binary :=
  let bits := x.toBits.toNat
  let negative := decide (2048 * fractionBound ≤ bits)
  let field : Nat := bits / fractionBound % 2048
  let fraction : Nat := bits % fractionBound
  if field = 2047 then (if fraction = 0 then .infinite negative else .nan)
  else if field = 0 then .finite negative fraction (-1074)
  else .finite negative (fractionBound + fraction) ((field : Int) - 1075)

/-- `n / d` to the nearest integer, a half to the even neighbour. -/
def nearestQuotient (n d : Nat) : Nat :=
  let q := n / d
  let r := n % d
  if 2 * r < d then q
  else if d < 2 * r then q + 1
  else if q % 2 = 0 then q else q + 1

/-- The nearest integer of a finite double, a half to the even neighbour. -/
def round? : Binary → Option Int
  | .finite negative m q =>
    let n := if 0 ≤ q then m * Nat.pow 2 q.toNat else nearestQuotient m (Nat.pow 2 (-q).toNat)
    some (if negative then -(n : Int) else n)
  | _ => none

/-- The double `2 ^ q`, for the exponents a double has. -/
def powerOfTwo (q : Int) : Float :=
  if -1022 ≤ q then Float.ofBits (UInt64.ofNat ((q + 1023).toNat * fractionBound))
  else Float.ofBits (UInt64.ofNat (Nat.pow 2 (q + 1074).toNat))

/-- **The remainder of `x` by `y`**, exact and with the sign of `x`. -/
def remainder (x y : Float) : Float :=
  match ofFloat x, ofFloat y with
  | .finite negative m p, .finite _ n q =>
    if n = 0 then 0.0 / 0.0
    else
      let e := min p q
      let r := m * Nat.pow 2 (p - e).toNat % (n * Nat.pow 2 (q - e).toNat)
      let magnitude := Float.ofNat r * powerOfTwo e
      if negative then -magnitude else magnitude
  | .finite .., .infinite _ => x
  | _, _ => 0.0 / 0.0

end Binary

end Templating

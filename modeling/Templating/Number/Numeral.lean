/-!
# Numerals

The text of 64-bit integers: the decimal digits of a number, and reading an
optional sign and digits of a radix back, refusing what does not fit 64 bits.
-/

namespace Templating

/-- One more than the greatest integer of 64 bits with a sign. -/
def signedBound : Int := 0x8000000000000000

/-- One more than the greatest integer of 64 bits without a sign. -/
def unsignedBound : Nat := 0x10000000000000000

/-- The 64-bit integer of value `i`, if there is one. -/
def int64? (i : Int) : Option Int64 :=
  if -signedBound ≤ i ∧ i < signedBound then some (Int64.ofInt i) else none

theorem toInt_of_int64? {i : Int} {n : Int64} (h : int64? i = some n) : n.toInt = i := by
  unfold int64? at h
  split at h
  · next hi => cases h; exact Int64.toInt_ofInt_of_le hi.1 hi.2
  · cases h

namespace Numeral

def digit (d : Nat) : Char := Char.ofNat (48 + d)

/-- The decimal digits of `n`, most significant first, without leading zeros. -/
def digits (n : Nat) : List Char :=
  if n < 10 then [digit n] else digits (n / 10) ++ [digit (n % 10)]
termination_by n

def text (i : Int64) : String :=
  let n := i.toInt
  String.ofList (if n < 0 then '-' :: digits n.natAbs else digits n.natAbs)

/-- The worth of a character as a digit of radix ten or sixteen. -/
def digitValue? (radix : Nat) (c : Char) : Option Nat :=
  let n := c.toNat
  let worth :=
    if 48 ≤ n ∧ n ≤ 57 then n - 48
    else if 97 ≤ n ∧ n ≤ 102 then n - 87
    else if 65 ≤ n ∧ n ≤ 70 then n - 55
    else radix
  if worth < radix then some worth else none

/-- The number that digits write after those worth `worth`. -/
def accumulate? (radix worth : Nat) : List Char → Option Nat
  | [] => some worth
  | c :: cs => (digitValue? radix c).bind fun d => accumulate? radix (radix * worth + d) cs

theorem accumulate?_append (radix worth : Nat) (cs ds : List Char) :
    accumulate? radix worth (cs ++ ds) =
      (accumulate? radix worth cs).bind fun w => accumulate? radix w ds := by
  induction cs generalizing worth with
  | nil => rfl
  | cons c cs ih => cases h : digitValue? radix c <;> simp [accumulate?, h, ih]

/-- Digits before others are worth a power of the radix each. -/
theorem accumulate?_eq_map (radix worth : Nat) (cs : List Char) :
    accumulate? radix worth cs =
      (accumulate? radix 0 cs).map (Nat.pow radix cs.length * worth + ·) := by
  induction cs generalizing worth with
  | nil => simp [accumulate?]
  | cons c cs ih =>
    cases h : digitValue? radix c with
    | none => simp [accumulate?, h]
    | some d =>
      simp only [accumulate?, h, Option.bind_some, Nat.mul_zero, Nat.zero_add]
      rw [ih, ih d, Option.map_map]
      congr 1
      funext w
      simp only [Function.comp_apply, List.length_cons, Nat.pow_eq, Nat.pow_succ, Nat.mul_add]
      rw [Nat.mul_assoc, Nat.add_assoc]

/-- The same, a thousand digits at a time: these are small numbers, and long ones are
only multiplied once for each thousand. -/
def accumulateBlocks? (radix worth : Nat) : (blocks : Nat) → List Char → Option Nat
  | 0, cs => accumulate? radix worth cs
  | blocks + 1, cs =>
    let block := cs.take 1000
    match accumulate? radix 0 block with
    | some w =>
      accumulateBlocks? radix (Nat.pow radix block.length * worth + w) blocks (cs.drop 1000)
    | none => none

theorem accumulateBlocks?_eq (radix worth blocks : Nat) (cs : List Char) :
    accumulateBlocks? radix worth blocks cs = accumulate? radix worth cs := by
  induction blocks generalizing worth cs with
  | zero => rfl
  | succ blocks ih =>
    conv => rhs; rw [← List.take_append_drop 1000 cs, accumulate?_append, accumulate?_eq_map]
    cases h : accumulate? radix 0 (cs.take 1000) <;> simp [accumulateBlocks?, h, ih]

/-- At least one digit, and nothing but digits. -/
def natural? (radix : Nat) : List Char → Option Nat
  | [] => none
  | cs => accumulateBlocks? radix 0 (cs.length / 1000) cs

theorem natural?_cons (radix : Nat) (c : Char) (cs : List Char) :
    natural? radix (c :: cs) = accumulate? radix 0 (c :: cs) :=
  accumulateBlocks?_eq _ _ _ _

/-- An integer with at most one sign. -/
def integer? (radix : Nat) : List Char → Option Int
  | '-' :: cs => (natural? radix cs).map fun n => -n
  | '+' :: cs => (natural? radix cs).map fun n => n
  | cs => (natural? radix cs).map fun n => n

/-- **Reading a numeral**: one optional sign and digits, in the range of 64 bits. -/
def read? (radix : Nat) (cs : List Char) : Option Int64 :=
  (integer? radix cs).bind int64?

/-- What follows the mark `0x` of a hexadecimal numeral. -/
def hexDigits? : List Char → Option (List Char)
  | '0' :: 'x' :: cs => some cs
  | '0' :: 'X' :: cs => some cs
  | _ => none

end Numeral

end Templating

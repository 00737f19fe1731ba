import Mathlib.Algebra.Order.Ring.Int
import Templating.Operator

/-!
# Exact integer arithmetic

Null, truth values and integers are integral operands: they are read as integers, and what is
computed of them is an integer of 64 bits or an error, and never a number that has been cut to fit.

* `Value.integer?`: the integer that an integral operand is read as.
* `IsExact`: a result that is a given integer, or an arithmetic error where 64 bits do not hold it.
* `fits_tdiv_iff`: the one quotient that 64 bits do not hold.
* `toInt_shiftLeft`, `toInt_shiftRight`: shifts as arithmetic, for every amount.
* `computes_exactly`: **what the operators give on integral operands.**
-/

namespace Templating

/-! ### Integers of 64 bits -/

/-- An integer that 64 bits hold. -/
def Fits (i : Int) : Prop := -signedBound ≤ i ∧ i < signedBound

instance (i : Int) : Decidable (Fits i) := inferInstanceAs (Decidable (_ ∧ _))

variable {a b i : Int} {n m : Int64}

theorem fits_toInt (n : Int64) : Fits n.toInt := ⟨n.le_toInt, n.toInt_lt⟩

theorem int64?_of_fits (h : Fits i) : ∃ n, int64? i = some n ∧ n.toInt = i := by
  have hsome : int64? i = some (Int64.ofInt i) := if_pos h
  exact ⟨_, hsome, toInt_of_int64? hsome⟩

theorem int64?_of_not_fits (h : ¬ Fits i) : int64? i = none := if_neg h

/-- **The one quotient that 64 bits do not hold.** -/
theorem fits_tdiv_iff (ha : Fits a) (hb : b ≠ 0) :
    Fits (a.tdiv b) ↔ ¬ (a = -signedBound ∧ b = -1) := by
  have habs : (a.tdiv b).natAbs = a.natAbs / b.natAbs := Int.natAbs_tdiv a b
  unfold Fits signedBound at *
  constructor
  · rintro h ⟨rfl, rfl⟩
    revert h
    decide
  · intro h
    by_cases hone : b.natAbs = 1
    · -- a divisor of one changes the sign at most
      rcases Int.natAbs_eq_iff.1 hone with rfl | rfl
      · simpa using ha
      · rw [Int.tdiv_neg, Int.natCast_one, Int.tdiv_one]
        omega
    · -- any other one halves the absolute value at least
      have hhalf : a.natAbs / b.natAbs ≤ a.natAbs / 2 :=
        Nat.div_le_div_left (by omega) (by decide)
      omega

/-- The opposite of an integer fits, but for the least one. -/
theorem fits_neg_iff (ha : Fits a) : Fits (-a) ↔ a ≠ -signedBound := by
  unfold Fits signedBound at *
  omega

/-- A remainder is smaller than what is divided by. -/
theorem natAbs_tmod_lt (hb : b ≠ 0) (a : Int) : (a.tmod b).natAbs < b.natAbs := by
  rw [Int.natAbs_tmod]
  exact Nat.mod_lt _ (Int.natAbs_pos.2 hb)

theorem fits_tmod (hb : Fits b) (hne : b ≠ 0) (a : Int) : Fits (a.tmod b) := by
  have hlt := natAbs_tmod_lt hne a
  unfold Fits signedBound at *
  omega

theorem tmod_nonpos (b : Int) (ha : a ≤ 0) : a.tmod b ≤ 0 := by
  have hnonneg := Int.tmod_nonneg b (Int.neg_nonneg_of_nonpos ha)
  rw [Int.neg_tmod] at hnonneg
  omega

/-! ### Shifts -/

/-- The amount of a shift counts modulo the width of a word, also where it is negative. -/
theorem toNat_smod_width (m : Int64) : (m.toBitVec.smod 64).toNat = (m.toInt % 64).toNat := by
  have hmod : (m.toBitVec.smod 64).toInt = m.toInt % 64 := by
    rw [BitVec.toInt_smod]
    exact Int.fmod_eq_emod_of_nonneg _ (by decide)
  have hrange := Int.emod_nonneg m.toInt (show (64 : Int) ≠ 0 by decide)
  have hlt := (m.toBitVec.smod 64).isLt
  rw [← hmod] at hrange ⊢
  rw [BitVec.toInt_eq_toNat_cond] at hrange ⊢
  split at hrange <;> omega

/-- **A shift to the left multiplies**, and keeps the last 64 bits. -/
theorem toInt_shiftLeft (n m : Int64) :
    (n <<< m).toInt = (n.toInt * 2 ^ (m.toInt % 64).toNat).bmod 0x10000000000000000 := by
  rw [← Int64.toInt_toBitVec, Int64.toBitVec_shiftLeft, BitVec.shiftLeft_eq',
    BitVec.toInt_shiftLeft, toNat_smod_width, ← Int64.toInt_toBitVec n,
    BitVec.toInt_eq_toNat_bmod, Nat.shiftLeft_eq]
  simp only [Nat.reducePow, Int.bmod_mul_bmod, Int.natCast_mul, Int.natCast_pow, Int.cast_ofNat_Int]

/-- **A shift to the right divides**, down to the next integer. -/
theorem toInt_shiftRight (n m : Int64) :
    (n >>> m).toInt = n.toInt.fdiv (2 ^ (m.toInt % 64).toNat) := by
  rw [← Int64.toInt_toBitVec, Int64.toBitVec_shiftRight, BitVec.toInt_sshiftRight',
    toNat_smod_width, Int64.toInt_toBitVec, Int.shiftRight_eq_div_pow,
    Int.fdiv_eq_ediv_of_nonneg _ (Int.pow_nonneg (by decide))]
  simp only [Int.natCast_pow, Int.cast_ofNat_Int]

/-- An amount that 32 bits hold. -/
def FitsAmount (i : Int) : Prop := -0x80000000 ≤ i ∧ i < 0x80000000

instance (i : Int) : Decidable (FitsAmount i) := inferInstanceAs (Decidable (_ ∧ _))

/-! ### Operands -/

/-- The integer that an integral operand is read as: zero for null, zero or one for a truth
value. -/
def Value.integer? : Value → Option Int
  | null => some 0
  | bool b => some (if b then 1 else 0)
  | int n => some n.toInt
  | float _ | string _ => none

/-- An operand that is read as an integer. -/
structure Value.Reads (v : Value) (n : Int64) : Prop where
  isIntegral : v.isIntegral = true
  isString : v.isString = false
  toInt64 : Converter.standard.toInt64 v = .ok n

theorem Value.reads_of_integer? {v : Value} (h : v.integer? = some i) :
    ∃ n, v.Reads n ∧ n.toInt = i := by
  cases v with
  | null => exact ⟨0, ⟨rfl, rfl, rfl⟩, Option.some.inj h⟩
  | bool b =>
    refine ⟨if b then 1 else 0, ⟨rfl, rfl, rfl⟩, ?_⟩
    rw [← Option.some.inj h]
    cases b <;> rfl
  | int n => exact ⟨n, ⟨rfl, rfl, rfl⟩, Option.some.inj h⟩
  | float _ | string _ => cases h

/-! ### Results -/

/-- A result that is an arithmetic error. -/
def IsArithmeticError (result : Except ExpressionError Value) : Prop :=
  ∃ cause, result = .error (.arithmetic cause)

theorem not_isArithmeticError_ok (v : Value) : ¬ IsArithmeticError (.ok v) := by
  rintro ⟨cause, ⟨⟩⟩

/-- **An exact result**: a given integer, or an arithmetic error where 64 bits do not hold it. -/
def IsExact (i : Int) (result : Except ExpressionError Value) : Prop :=
  if Fits i then ∃ n, result = .ok (.int n) ∧ n.toInt = i else IsArithmeticError result

/-- What becomes of an integer that may not fit. -/
def ofInt64? (cause : ArithmeticCause) : Option Int64 → Except ExpressionError Value
  | some n => .ok (.int n)
  | none => .error (.arithmetic cause)

/-- An exact result fails only where it has to. -/
theorem IsExact.isArithmeticError_iff {result : Except ExpressionError Value}
    (h : IsExact i result) : IsArithmeticError result ↔ ¬ Fits i := by
  unfold IsExact at h
  split at h
  · rename_i hfits
    obtain ⟨n, rfl, -⟩ := h
    exact iff_of_false (not_isArithmeticError_ok _) (not_not.2 hfits)
  · rename_i hfits
    exact iff_of_true h hfits

theorem isExact_int64? (cause : ArithmeticCause) (i : Int) :
    IsExact i (ofInt64? cause (int64? i)) := by
  unfold IsExact
  split
  · rename_i h
    obtain ⟨n, hsome, hn⟩ := int64?_of_fits h
    exact ⟨n, by rw [hsome]; rfl, hn⟩
  · rename_i h
    exact ⟨cause, by rw [int64?_of_not_fits h]; rfl⟩

namespace BinaryOperator

variable {left right : Value} (hn : left.Reads n) (hm : right.Reads m)

include hn hm

/-- Both operands are integral, so nothing is converted to a double. -/
theorem arithmetic_eq (integral : Int64 → Int64 → Option Int64)
    (floating : Float → Float → Float) (failure : ArithmeticCause) :
    arithmetic integral floating failure .standard left right =
      ofInt64? failure (integral n m) := by
  simp only [arithmetic, hn.isIntegral, hm.isIntegral, hn.toInt64, hm.toInt64, Bool.and_self,
    if_true]
  show (match integral n m with
    | some i => pure (.int i)
    | none => throw (.arithmetic failure) : Except ExpressionError Value) = _
  cases integral n m <;> rfl

theorem add_eq : add.apply .standard left right =
    ofInt64? .additionOverflow (int64? (n.toInt + m.toInt)) := by
  simp only [apply, sum, hn.isString, hm.isString, Bool.or_self, Bool.false_eq_true, if_false]
  exact arithmetic_eq hn hm ..

theorem subtract_eq : subtract.apply .standard left right =
    ofInt64? .subtractionOverflow (int64? (n.toInt - m.toInt)) :=
  arithmetic_eq hn hm ..

theorem multiply_eq : multiply.apply .standard left right =
    ofInt64? .multiplicationOverflow (int64? (n.toInt * m.toInt)) :=
  arithmetic_eq hn hm ..

theorem checkDivisor_eq : checkDivisor .standard left right =
    if m = 0 then .error (.arithmetic .divisionByZero) else .ok () := by
  simp only [checkDivisor, hn.isIntegral, hm.isIntegral, hm.toInt64, Bool.and_self, if_true]
  rfl

/-- A division by zero is refused before anything is divided. -/
theorem checked_eq (integral : Int64 → Int64 → Option Int64) (floating : Float → Float → Float)
    (failure : ArithmeticCause) : (do
      checkDivisor .standard left right
      arithmetic integral floating failure .standard left right) =
    if m = 0 then .error (.arithmetic .divisionByZero) else ofInt64? failure (integral n m) := by
  rw [checkDivisor_eq hn hm, arithmetic_eq hn hm]
  split <;> rfl

/-- The amount of a shift is converted first, and has to fit 32 bits. -/
theorem shift_eq (f : Int64 → Int64 → Int64) : shift f .standard left right =
    if FitsAmount m.toInt then .ok (.int (f n m))
    else .error (.conversion (Numeral.text m) .int) := by
  have hamount : Converter.standard.toInt32 right =
      if FitsAmount m.toInt then .ok (Int32.ofInt m.toInt)
      else .error (.conversion (Numeral.text m) .int) := by
    unfold Converter.toInt32
    rw [hm.toInt64]
    rfl
  by_cases h : FitsAmount m.toInt
  · rw [shift, hamount, hn.toInt64, if_pos h, if_pos h]
    show Except.ok (Value.int (f n (Int64.ofInt (Int32.ofInt m.toInt).toInt))) = _
    rw [Int32.toInt_ofInt_of_le h.1 h.2, Int64.ofInt_toInt]
  · rw [shift, hamount, if_neg h, if_neg h]
    rfl

end BinaryOperator

theorem UnaryOperator.negate_eq {v : Value} (hv : v.Reads n) :
    negate.apply .standard v = ofInt64? .negationOverflow (int64? (-n.toInt)) := by
  have hconverted : negate.apply .standard v = (do
      let i ← Converter.standard.toInt64 v
      match int64? (-i.toInt) with
      | some n => pure (.int n)
      | none => throw (.arithmetic .negationOverflow)) := by
    cases v with
    | float x => cases hv.isIntegral
    | null | bool | int | string => rfl
  rw [hconverted, hv.toInt64]
  show (match int64? (-n.toInt) with
    | some i => pure (.int i)
    | none => throw (.arithmetic .negationOverflow) : Except ExpressionError Value) = _
  cases int64? (-n.toInt) <;> rfl

/-! ### Divisions -/

/-- A division that gives nothing: by zero, or the one whose quotient 64 bits do not hold. -/
def Undivided (a b : Int) : Prop := b = 0 ∨ a = -signedBound ∧ b = -1

theorem eq_zero_iff (m : Int64) : m = 0 ↔ m.toInt = 0 := by
  rw [← Int64.toInt_inj]
  rfl

/-- **Quotient and remainder of two integers** that have one. -/
theorem checked_of_divided (h : ¬ Undivided n.toInt m.toInt) : m ≠ 0 ∧ ∃ q r : Int64,
    BinaryOperator.checkedQuotient n m = some q ∧ BinaryOperator.checkedRemainder n m = some r ∧
      q.toInt = n.toInt.tdiv m.toInt ∧ r.toInt = n.toInt.tmod m.toInt := by
  obtain ⟨hb, hbound⟩ := not_or.1 h
  have hm : m ≠ 0 := fun heq => hb ((eq_zero_iff m).1 heq)
  obtain ⟨q, hq, hquotient⟩ := int64?_of_fits ((fits_tdiv_iff (fits_toInt n) hb).2 hbound)
  obtain ⟨r, hr, hremainder⟩ := int64?_of_fits (fits_tmod (fits_toInt m) hb n.toInt)
  have hchecked : BinaryOperator.checkedQuotient n m = some q := by
    rw [BinaryOperator.checkedQuotient, if_neg hm, hq]
  refine ⟨hm, q, r, hchecked, ?_, hquotient, hremainder⟩
  rw [BinaryOperator.checkedRemainder, hchecked, Option.bind_some, hr]

theorem checked_of_undivided (h : Undivided n.toInt m.toInt) (hm : m ≠ 0) :
    BinaryOperator.checkedQuotient n m = none ∧ BinaryOperator.checkedRemainder n m = none := by
  have hb : m.toInt ≠ 0 := fun heq => hm ((eq_zero_iff m).2 heq)
  have hfits : ¬ Fits (n.toInt.tdiv m.toInt) := fun hfits =>
    (fits_tdiv_iff (fits_toInt n) hb).1 hfits (h.resolve_left hb)
  have hchecked : BinaryOperator.checkedQuotient n m = none := by
    rw [BinaryOperator.checkedQuotient, if_neg hm, int64?_of_not_fits hfits]
  refine ⟨hchecked, ?_⟩
  rw [BinaryOperator.checkedRemainder, hchecked, Option.bind_none]

section

variable {left right : Value} (hn : left.Reads n) (hm : right.Reads m)

include hn hm

/-- A division that has a quotient gives it, cut toward zero, and the remainder. -/
theorem divides_of_divided (h : ¬ Undivided n.toInt m.toInt) : ∃ q r : Int64,
    BinaryOperator.divide.apply .standard left right = .ok (.int q) ∧
    BinaryOperator.remainder.apply .standard left right = .ok (.int r) ∧
    q.toInt = n.toInt.tdiv m.toInt ∧ r.toInt = n.toInt.tmod m.toInt := by
  obtain ⟨hzero, q, r, hquotient, hremainder, hq, hr⟩ := checked_of_divided h
  refine ⟨q, r, ?_, ?_, hq, hr⟩
  · refine (BinaryOperator.checked_eq hn hm _ _ _).trans ?_
    rw [if_neg hzero, hquotient]
    rfl
  · refine (BinaryOperator.checked_eq hn hm _ _ _).trans ?_
    rw [if_neg hzero, hremainder]
    rfl

/-- Any other division fails, and so does its remainder. -/
theorem fails_of_undivided (h : Undivided n.toInt m.toInt) :
    IsArithmeticError (BinaryOperator.divide.apply .standard left right) ∧
      IsArithmeticError (BinaryOperator.remainder.apply .standard left right) := by
  have hfails : ∀ integral floating failure, (m ≠ 0 → integral n m = none) →
      IsArithmeticError (do
        BinaryOperator.checkDivisor .standard left right
        BinaryOperator.arithmetic integral floating failure .standard left right) := by
    intro integral floating failure hnone
    rw [BinaryOperator.checked_eq hn hm]
    split
    · exact ⟨_, rfl⟩
    · rename_i hzero
      rw [hnone hzero]
      exact ⟨_, rfl⟩
  exact ⟨hfails _ _ _ fun hzero => (checked_of_undivided h hzero).1,
    hfails _ _ _ fun hzero => (checked_of_undivided h hzero).2⟩

end

/-! ### All operators -/

/-- **What the operators give** on operands that are read as `a` and `b`. -/
structure ComputesExactly (left right : Value) (a b : Int) : Prop where
  add : IsExact (a + b) (BinaryOperator.add.apply .standard left right)
  subtract : IsExact (a - b) (BinaryOperator.subtract.apply .standard left right)
  multiply : IsExact (a * b) (BinaryOperator.multiply.apply .standard left right)
  negate : IsExact (-a) (UnaryOperator.negate.apply .standard left)
  negate_fails : IsArithmeticError (UnaryOperator.negate.apply .standard left) ↔ a = -signedBound
  divide_fails : IsArithmeticError (BinaryOperator.divide.apply .standard left right) ↔
    Undivided a b
  remainder_fails : IsArithmeticError (BinaryOperator.remainder.apply .standard left right) ↔
    Undivided a b
  /-- A quotient is cut toward zero, and a remainder has the sign of what is divided. -/
  divides : ¬ Undivided a b → ∃ q r : Int64,
    BinaryOperator.divide.apply .standard left right = .ok (.int q) ∧
    BinaryOperator.remainder.apply .standard left right = .ok (.int r) ∧
    q.toInt = a.tdiv b ∧ r.toInt = a.tmod b ∧ a = q.toInt * b + r.toInt ∧ |r.toInt| < |b| ∧
    (0 ≤ a → 0 ≤ r.toInt) ∧ (a ≤ 0 → r.toInt ≤ 0)
  /-- The amount of a shift counts modulo 64, and is never negative then. -/
  shifts : FitsAmount b → ∃ l r : Int64,
    BinaryOperator.leftShift.apply .standard left right = .ok (.int l) ∧
    BinaryOperator.rightShift.apply .standard left right = .ok (.int r) ∧
    0 ≤ b % 64 ∧ b % 64 < 64 ∧ l.toInt = (a * 2 ^ (b % 64).toNat).bmod 0x10000000000000000 ∧
    r.toInt = a.fdiv (2 ^ (b % 64).toNat)
  shift_fails : ¬ FitsAmount b → ∃ text,
    BinaryOperator.leftShift.apply .standard left right = .error (.conversion text .int) ∧
    BinaryOperator.rightShift.apply .standard left right = .error (.conversion text .int)

/-- **Integers are computed exactly.** For all operands that are null, truth values or integers,
and the conversions that are used unless the caller brings others: sums, differences, products and
negations are exact or fail, quotients and remainders are those of truncated division, and shifts
multiply and divide by powers of two. -/
theorem computes_exactly {left right : Value} (ha : left.integer? = some a)
    (hb : right.integer? = some b) : ComputesExactly left right a b := by
  obtain ⟨n, hn, rfl⟩ := Value.reads_of_integer? ha
  obtain ⟨m, hm, rfl⟩ := Value.reads_of_integer? hb
  have hnegate : IsExact (-n.toInt) (UnaryOperator.negate.apply .standard left) :=
    UnaryOperator.negate_eq hn ▸ isExact_int64? _ _
  have hdivided (h : ¬ Undivided n.toInt m.toInt) := divides_of_divided hn hm h
  have hundivided (h : Undivided n.toInt m.toInt) := fails_of_undivided hn hm h
  have hsubtract : IsExact (n.toInt - m.toInt)
      (BinaryOperator.subtract.apply .standard left right) :=
    BinaryOperator.subtract_eq hn hm ▸ isExact_int64? _ _
  have hmultiply : IsExact (n.toInt * m.toInt)
      (BinaryOperator.multiply.apply .standard left right) :=
    BinaryOperator.multiply_eq hn hm ▸ isExact_int64? _ _
  refine ⟨BinaryOperator.add_eq hn hm ▸ isExact_int64? _ _, hsubtract, hmultiply, hnegate, ?_, ?_,
    ?_, ?_, ?_, ?_⟩
  · rw [hnegate.isArithmeticError_iff, fits_neg_iff (fits_toInt n), not_not]
  · refine ⟨fun h => ?_, fun h => (hundivided h).1⟩
    by_contra hnot
    obtain ⟨q, r, hok, -⟩ := hdivided hnot
    exact not_isArithmeticError_ok _ (hok ▸ h)
  · refine ⟨fun h => ?_, fun h => (hundivided h).2⟩
    by_contra hnot
    obtain ⟨q, r, -, hok, -⟩ := hdivided hnot
    exact not_isArithmeticError_ok _ (hok ▸ h)
  · intro h
    obtain ⟨q, r, hquotient, hremainder, hq, hr⟩ := hdivided h
    have hb : m.toInt ≠ 0 := fun hzero => h (.inl hzero)
    refine ⟨q, r, hquotient, hremainder, hq, hr, ?_, ?_, ?_, ?_⟩
    · rw [hq, hr, Int.mul_comm]
      exact (Int.mul_tdiv_add_tmod ..).symm
    · rw [hr, Int.abs_eq_natAbs, Int.abs_eq_natAbs]
      exact Int.ofNat_lt.2 (natAbs_tmod_lt hb _)
    · rw [hr]
      exact Int.tmod_nonneg _
    · rw [hr]
      exact tmod_nonpos _
  · intro h
    refine ⟨_, _, (BinaryOperator.shift_eq hn hm _).trans (if_pos h),
      (BinaryOperator.shift_eq hn hm _).trans (if_pos h), Int.emod_nonneg _ (by decide),
      Int.emod_lt_of_pos _ (by decide), toInt_shiftLeft n m, toInt_shiftRight n m⟩
  · intro h
    exact ⟨_, (BinaryOperator.shift_eq hn hm _).trans (if_neg h),
      (BinaryOperator.shift_eq hn hm _).trans (if_neg h)⟩

/-- The one quotient that overflows, and a shift by a negative amount. -/
theorem computes_exactly_least :
    (Value.int (-0x8000000000000000)).integer? = some (-0x8000000000000000) ∧
    (Value.int (-1)).integer? = some (-1) ∧
    ComputesExactly (.int (-0x8000000000000000)) (.int (-1)) (-0x8000000000000000) (-1) := by
  have ha : (Value.int (-0x8000000000000000)).integer? = some (-0x8000000000000000) := rfl
  have hb : (Value.int (-1)).integer? = some (-1) := rfl
  exact ⟨ha, hb, computes_exactly ha hb⟩

end Templating

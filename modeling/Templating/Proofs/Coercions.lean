import Mathlib.Data.List.TakeWhile
import Templating.Operator
import Templating.Proofs.Validity

/-!
# Operands as integers and as doubles

The bitwise operators and the shifts take their operands as integers, the orders and most of the
arithmetic as doubles. A text is read anew for either, and only integers know the mark `0x`.

* `Decimal.exists_read?`: a decimal integer of a text is a double as well.
* `Value.IsMarked`: a text that begins with the mark of a hexadecimal numeral.
* `operands_taken_alike`: **what is accepted as an integer is accepted as a double, unless it is
  marked**, and then it never is.
-/

namespace Templating

variable {c : Char} {cs : List Char} {d n worth : Nat} {i : Int64} {v : Value}

/-! ### Decimal integers are doubles -/

namespace Numeral

theorem isDigit_of_digitValue? (h : digitValue? 10 c = some d) : c.isDigit = true := by
  have hworth : 48 ≤ c.toNat ∧ c.toNat ≤ 57 := by
    unfold digitValue? at h
    grind
  simpa [Char.isDigit, UInt32.le_iff_toNat_le] using hworth

theorem isDigit_of_accumulate? (h : accumulate? 10 worth cs = some n) :
    ∀ c ∈ cs, c.isDigit = true := by
  induction cs generalizing worth with
  | nil => simp
  | cons c cs ih =>
    obtain ⟨d, hd, hcs⟩ := Option.bind_eq_some_iff.1 h
    exact List.forall_mem_cons.2 ⟨isDigit_of_digitValue? hd, ih hcs⟩

theorem isDigit_of_natural? (h : natural? 10 cs = some n) : ∀ c ∈ cs, c.isDigit = true := by
  cases cs with
  | nil => cases h
  | cons c cs => exact isDigit_of_accumulate? (natural?_cons 10 c cs ▸ h)

theorem exists_natural? {radix : Nat} {f : Int → Int} {j : Int}
    (h : ((do let m ← natural? radix cs; pure (m : Int)).map f) = some j) :
    ∃ m, natural? radix cs = some m := by
  obtain ⟨_, hm, -⟩ := Option.map_eq_some_iff.1 h
  obtain ⟨m, hm, -⟩ := Option.bind_eq_some_iff.1 hm
  exact ⟨m, hm⟩

end Numeral

namespace Decimal

/-- Digits alone are a numeral of a double, without point and exponent. -/
theorem unsigned?_of_natural? (h : Numeral.natural? 10 cs = some n) :
    unsigned? cs = some ⟨n, 0⟩ := by
  have hdigits := Numeral.isDigit_of_natural? h
  have hwhole : cs.takeWhile Char.isDigit = cs := List.takeWhile_eq_self_iff.2 hdigits
  have hrest : cs.dropWhile Char.isDigit = [] := List.dropWhile_eq_nil_iff.2 hdigits
  simp [unsigned?, hwhole, hrest, h, exponent?]

theorem exists_magnitude? (h : Numeral.natural? 10 cs = some n) : ∃ x, magnitude? cs = some x := by
  simp only [magnitude?, unsigned?_of_natural? h]
  split_ifs
  · exact ⟨_, rfl⟩
  · exact ⟨_, rfl⟩
  · exact ⟨_, rfl⟩

/-- **An integer in decimal digits is a double as well.** -/
theorem exists_read? (h : Numeral.read? 10 cs = some i) : ∃ x, read? cs = some x := by
  obtain ⟨j, hj, -⟩ := Option.bind_eq_some_iff.1 h
  unfold Numeral.integer? at hj
  split at hj
  · obtain ⟨n, hn⟩ := Numeral.exists_natural? hj
    obtain ⟨x, hx⟩ := exists_magnitude? hn
    exact ⟨-x, by rw [read?, hx, Option.map_some]⟩
  · obtain ⟨n, hn⟩ := Numeral.exists_natural? hj
    exact exists_magnitude? hn
  · next hminus hplus =>
    obtain ⟨n, hn⟩ := Numeral.exists_natural? hj
    rw [read?.eq_3 cs hminus hplus]
    exact exists_magnitude? hn

/-- The mark ends the digits, and begins no exponent. -/
theorem read?_of_hexDigits? {digits : List Char} (h : Numeral.hexDigits? cs = some digits) :
    read? cs = none := by
  unfold Numeral.hexDigits? at h
  split at h
  · simp [read?, magnitude?, unsigned?, exponent?]
  · simp [read?, magnitude?, unsigned?, exponent?]
  · cases h

end Decimal

/-! ### Values -/

/-- The integer of a value, where the standard conversions know one. -/
abbrev Value.asInteger (v : Value) : Except ExpressionError Int64 := Converter.standard.toInt64 v

/-- The double of a value, where the standard conversions know one. -/
abbrev Value.asDouble (v : Value) : Except ExpressionError Float := Converter.standard.toFloat v

/-- A text that begins with the mark of a hexadecimal numeral, but for blanks. -/
def Value.IsMarked : Value → Prop
  | .string s => (Numeral.hexDigits? (Blank.trim s.toList)).isSome = true
  | _ => False

instance : DecidablePred Value.IsMarked := fun v => by
  unfold Value.IsMarked
  cases v <;> infer_instance

namespace Value

theorem asInteger_string {s : String} : asInteger (.string s) =
    match Conversion.readInt? (Blank.trim s.toList) with
    | some i => .ok i
    | none => .error (.conversion (quoted (String.ofList (Blank.trim s.toList))) .int) := by
  have hconvert : Converter.standard.convert (.string s) .int =
      match Conversion.readInt? (Blank.trim s.toList) with
      | some i => pure (.int i)
      | none => Conversion.refuse (String.ofList (Blank.trim s.toList)) .int := rfl
  rw [asInteger, Converter.toInt64, hconvert]
  cases Conversion.readInt? (Blank.trim s.toList) <;> rfl

theorem asDouble_string {s : String} : asDouble (.string s) =
    match Decimal.read? (Blank.trim s.toList) with
    | some x => .ok x
    | none => .error (.conversion (quoted s) .float) := by
  have hconvert : Converter.standard.convert (.string s) .float =
      match Decimal.read? (Blank.trim s.toList) with
      | some x => pure (.float x)
      | none => Conversion.refuse s .float := rfl
  rw [asDouble, Converter.toFloat, hconvert]
  cases Decimal.read? (Blank.trim s.toList) <;> rfl

/-- **A marked text is no double**, whatever follows the mark. -/
theorem asDouble_of_isMarked {s : String} (h : IsMarked (.string s)) :
    asDouble (.string s) = .error (.conversion (quoted s) .float) := by
  obtain ⟨digits, hdigits⟩ := Option.isSome_iff_exists.1 h
  rw [asDouble_string, Decimal.read?_of_hexDigits? hdigits]

/-- **An integer is a double**, unless it is marked. -/
theorem exists_asDouble (h : v.asInteger = .ok i) (hv : ¬ v.IsMarked) :
    ∃ x, v.asDouble = .ok x := by
  cases v with
  | null | bool | int | float => exact ⟨_, rfl⟩
  | string s =>
    have hmark : Numeral.hexDigits? (Blank.trim s.toList) = none := by
      simpa [IsMarked] using hv
    rw [asInteger_string, Conversion.readInt?, hmark] at h
    cases hread : Numeral.read? 10 (Blank.trim s.toList) with
    | none => simp [hread] at h
    | some n =>
      obtain ⟨x, hx⟩ := Decimal.exists_read? hread
      exact ⟨x, by rw [asDouble_string, hx]⟩

theorem asDouble_iff (h : v.asInteger = .ok i) : (∃ x, v.asDouble = .ok x) ↔ ¬ v.IsMarked := by
  refine ⟨?_, exists_asDouble h⟩
  rintro ⟨x, hx⟩ hmarked
  cases v with
  | string s =>
    rw [asDouble_of_isMarked hmarked] at hx
    cases hx
  | null | bool | int | float => exact hmarked

end Value

/-! ### Operators -/

namespace BinaryOperator

variable {o : BinaryOperator} {a b r : Value}

/-- The operators on words, and the shifts. -/
def TakesIntegers : BinaryOperator → Prop
  | bitwiseAnd | bitwiseOr | leftShift | rightShift => True
  | _ => False

/-- The orders, and arithmetic where it is not on integers; a sum with a text is a text. -/
def TakesDoubles (o : BinaryOperator) (a b : Value) : Prop :=
  match o with
  | lessThan | lessThanOrEqualTo | greaterThan | greaterThanOrEqualTo => True
  | subtract | multiply | divide | remainder => (a.isIntegral && b.isIntegral) = false
  | add => (a.isIntegral && b.isIntegral) = false ∧ (a.isString || b.isString) = false
  | _ => False

theorem exists_toInt64 {c : Converter} {m : Int32} (h : c.toInt32 v = .ok m) :
    ∃ i, c.toInt64 v = .ok i := by
  obtain ⟨i, hi, -⟩ := bind_eq_ok.1 h
  exact ⟨i, hi⟩

theorem asInteger_of_bitwise {f : Int64 → Int64 → Int64} (h : bitwise f .standard a b = .ok r) :
    (∃ i, a.asInteger = .ok i) ∧ ∃ i, b.asInteger = .ok i := by
  obtain ⟨i, hi, h⟩ := bind_eq_ok.1 h
  obtain ⟨j, hj, -⟩ := bind_eq_ok.1 h
  exact ⟨⟨i, hi⟩, j, hj⟩

theorem asInteger_of_shift {f : Int64 → Int64 → Int64} (h : shift f .standard a b = .ok r) :
    (∃ i, a.asInteger = .ok i) ∧ ∃ i, b.asInteger = .ok i := by
  obtain ⟨m, hm, h⟩ := bind_eq_ok.1 h
  obtain ⟨i, hi, -⟩ := bind_eq_ok.1 h
  exact ⟨⟨i, hi⟩, exists_toInt64 hm⟩

/-- The operands of an operator on words are integers. -/
theorem TakesIntegers.asInteger (ho : o.TakesIntegers) (h : o.apply .standard a b = .ok r) :
    (∃ i, a.asInteger = .ok i) ∧ ∃ i, b.asInteger = .ok i := by
  cases o with
  | bitwiseAnd | bitwiseOr => exact asInteger_of_bitwise h
  | leftShift | rightShift => exact asInteger_of_shift h
  | _ => exact ho.elim

theorem both_ok_iff {f : Float → Float → Value} :
    (∃ r, (do let x ← a.asDouble; let y ← b.asDouble; pure (f x y)) = .ok r) ↔
      (∃ x, a.asDouble = .ok x) ∧ ∃ y, b.asDouble = .ok y := by
  constructor
  · rintro ⟨r, h⟩
    obtain ⟨x, hx, h⟩ := bind_eq_ok.1 h
    obtain ⟨y, hy, -⟩ := bind_eq_ok.1 h
    exact ⟨⟨x, hx⟩, y, hy⟩
  · rintro ⟨⟨x, hx⟩, y, hy⟩
    exact ⟨_, bind_eq_ok.2 ⟨x, hx, bind_eq_ok.2 ⟨y, hy, rfl⟩⟩⟩

theorem arithmetic_ok_iff {integral : Int64 → Int64 → Option Int64}
    {floating : Float → Float → Float} {failure : ArithmeticCause}
    (h : (a.isIntegral && b.isIntegral) = false) :
    (∃ r, arithmetic integral floating failure .standard a b = .ok r) ↔
      (∃ x, a.asDouble = .ok x) ∧ ∃ y, b.asDouble = .ok y := by
  have harithmetic : arithmetic integral floating failure .standard a b =
      (do let x ← a.asDouble; let y ← b.asDouble; pure (.float (floating x y))) := by
    simp [arithmetic, h]
  rw [harithmetic]
  exact both_ok_iff

/-- No divisor is checked where the operands are not integral. -/
theorem checkDivisor_of_not_integral {c : Converter} (h : (a.isIntegral && b.isIntegral) = false) :
    checkDivisor c a b = .ok () := by
  simp [checkDivisor, h, pure, Except.pure]

/-- An operator on doubles fails on nothing but an operand that is none. -/
theorem TakesDoubles.ok_iff (ho : o.TakesDoubles a b) :
    (∃ r, o.apply .standard a b = .ok r) ↔
      (∃ x, a.asDouble = .ok x) ∧ ∃ y, b.asDouble = .ok y := by
  cases o with
  | lessThan | lessThanOrEqualTo | greaterThan | greaterThanOrEqualTo => exact both_ok_iff
  | subtract | multiply => exact arithmetic_ok_iff ho
  | divide | remainder =>
    have hcheck := checkDivisor_of_not_integral (c := .standard) ho
    simp only [apply, hcheck]
    exact arithmetic_ok_iff ho
  | add =>
    simp only [apply, sum, ho.2]
    exact arithmetic_ok_iff ho.1
  | _ => exact ho.elim

end BinaryOperator

/-- An operand that some operator on words accepts, on either side. -/
def Value.IsIntegerOperand (v : Value) : Prop :=
  ∃ o : BinaryOperator, o.TakesIntegers ∧
    ∃ w r, o.apply .standard v w = .ok r ∨ o.apply .standard w v = .ok r

theorem Value.IsIntegerOperand.exists_asInteger (h : v.IsIntegerOperand) :
    ∃ i, v.asInteger = .ok i := by
  obtain ⟨o, ho, w, r, h | h⟩ := h
  · exact (ho.asInteger h).1
  · exact (ho.asInteger h).2

/-- A marked text is an integer, and no double. -/
theorem not_taken_alike_marked :
    ¬ ∀ (v : Value) (i : Int64), v.asInteger = .ok i → ∃ x, v.asDouble = .ok x := by
  intro h
  obtain ⟨x, hx⟩ := h (.string "0x10") 16 (by rw [Value.asInteger_string]; decide)
  rw [Value.asDouble_of_isMarked (by decide)] at hx
  cases hx

/-- **Operands are taken alike, but for marked texts.** A value with an integer has a double exactly
if it is not marked, and a marked text is refused by its name. So operands that operators on words
accept are accepted by any operator on doubles exactly if neither is marked. -/
theorem operands_taken_alike (v : Value) :
    (∀ i : Int64, v.asInteger = .ok i → ((∃ x, v.asDouble = .ok x) ↔ ¬ v.IsMarked)) ∧
    (∀ s : String, v = .string s → v.IsMarked →
      v.asDouble = .error (.conversion (quoted s) .float)) ∧
    ∀ (o : BinaryOperator) (w : Value), v.IsIntegerOperand → w.IsIntegerOperand →
      o.TakesDoubles v w →
      ((∃ r, o.apply .standard v w = .ok r) ↔ ¬ v.IsMarked ∧ ¬ w.IsMarked) := by
  refine ⟨fun i => Value.asDouble_iff, ?_, fun o w hv hw ho => ?_⟩
  · rintro s rfl hmarked
    exact Value.asDouble_of_isMarked hmarked
  · obtain ⟨i, hi⟩ := hv.exists_asInteger
    obtain ⟨j, hj⟩ := hw.exists_asInteger
    rw [ho.ok_iff, Value.asDouble_iff hi, Value.asDouble_iff hj]

theorem operands_taken_alike_blanks :
    (∃ x, Value.asDouble (.string " 12 ") = .ok x) ∧
      Value.asDouble (.string " 0xC ") = .error (.conversion (quoted " 0xC ") .float) ∧
      (∃ r, BinaryOperator.lessThan.apply .standard (.string " 12 ") (.int 13) = .ok r) ∧
      ¬ ∃ r, BinaryOperator.lessThan.apply .standard (.string " 0xC ") (.int 13) = .ok r := by
  have hplain : (Value.string " 12 ").IsIntegerOperand :=
    ⟨.bitwiseOr, trivial, .int 0, .int 12, .inl rfl⟩
  have hmarked : (Value.string " 0xC ").IsIntegerOperand :=
    ⟨.bitwiseOr, trivial, .int 0, .int 12, .inl rfl⟩
  have hint : (Value.int 13).IsIntegerOperand := ⟨.leftShift, trivial, .int 0, .int 13, .inl rfl⟩
  obtain ⟨htaken, -, hplaced⟩ := operands_taken_alike (.string " 12 ")
  obtain ⟨-, hrefused, hmisplaced⟩ := operands_taken_alike (.string " 0xC ")
  refine ⟨(htaken 12 rfl).2 (by decide), hrefused _ rfl (by decide),
    (hplaced .lessThan _ hplain hint trivial).2 (by decide), ?_⟩
  rw [hmisplaced .lessThan _ hmarked hint trivial]
  decide

end Templating

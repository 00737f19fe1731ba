import Mathlib.Algebra.Order.Ring.Int
import Mathlib.Data.Nat.Log
import Templating.Number.Binary

/-!
# Integers as doubles

A double has 53 significant bits, so the integers that need more of them become the nearest
integer that does not.

* `Binary.nearest`: the integer of the double that an integer becomes.
* `Binary.nearest_mono`: order is kept, but not strictly.
* `IsWhole`: an unpacked double as the integer that it is.
* `isWhole_ofInt`: **an integer becomes the nearest double.**
* `ofInt_lt_iff`, `ofInt_le_iff`: doubles of integers are ordered as those nearest ones.
-/

namespace Templating

open Float.Model Float.Model.UnpackedFloat

namespace Binary

variable {c d m n q : Nat}

/-! ### Nearest quotients -/

theorem le_nearestQuotient (hd : 0 < d) (h : q * d ≤ n) : q ≤ nearestQuotient n d := by
  have hq : q ≤ n / d := (Nat.le_div_iff_mul_le hd).2 h
  unfold nearestQuotient
  grind

theorem nearestQuotient_mul (hd : 0 < d) (q : Nat) : nearestQuotient (q * d) d = q := by
  unfold nearestQuotient
  rw [Nat.mul_div_cancel q hd, Nat.mul_mod_left]
  exact if_pos (by omega)

theorem nearestQuotient_le (hd : 0 < d) (h : n ≤ q * d) : nearestQuotient n d ≤ q := by
  rcases Nat.eq_or_lt_of_le h with rfl | hlt
  · exact (nearestQuotient_mul hd q).le
  · have hq : n / d < q := (Nat.div_lt_iff_lt_mul hd).2 hlt
    unfold nearestQuotient
    grind

theorem nearestQuotient_mono (hd : 0 < d) (h : m ≤ n) :
    nearestQuotient m d ≤ nearestQuotient n d := by
  rcases Nat.eq_or_lt_of_le (Nat.div_le_div_right (c := d) h) with heq | hlt
  · -- the quotient is the same, so the remainder decides
    have hm := Nat.div_add_mod m d
    have hn := Nat.div_add_mod n d
    rw [heq] at hm
    unfold nearestQuotient
    rw [heq]
    grind
  · have hupper : nearestQuotient m d ≤ n / d := by
      refine nearestQuotient_le hd ?_
      have := (Nat.div_lt_iff_lt_mul hd).1 hlt
      omega
    exact hupper.trans (le_nearestQuotient hd (Nat.div_mul_le_self n d))

theorem nearestQuotient_scale (hc : 0 < c) (n d : Nat) :
    nearestQuotient (n * c) (d * c) = nearestQuotient n d := by
  have hbelow (r : Nat) : 2 * (r * c) < d * c ↔ 2 * r < d := by
    rw [← Nat.mul_assoc, Nat.mul_lt_mul_right hc]
  have habove (r : Nat) : d * c < 2 * (r * c) ↔ d < 2 * r := by
    rw [← Nat.mul_assoc, Nat.mul_lt_mul_right hc]
  unfold nearestQuotient
  simp only [Nat.mul_div_mul_right n d hc, Nat.mul_mod_mul_right, hbelow, habove]

/-! ### The nearest double -/

/-- A natural number rounded to 53 significant bits, a half to the even neighbour. -/
def nearestNat (n : Nat) : Nat :=
  nearestQuotient n (2 ^ (n.log2 - 52)) * 2 ^ (n.log2 - 52)

theorem nearestNat_of_lt (h : n < 2 ^ 53) : nearestNat n = n := by
  have hlog : n.log2 - 52 = 0 := by
    rcases Nat.eq_zero_or_pos n with rfl | hpos
    · rfl
    · have := (Nat.log2_lt hpos.ne').2 h
      omega
  unfold nearestNat
  rw [hlog, pow_zero, Nat.mul_one]
  simpa using nearestQuotient_mul Nat.one_pos n

/-- A number is rounded to one with the same greatest bit, or to the next power of two. -/
theorem nearestNat_binade (hn : n ≠ 0) :
    2 ^ n.log2 ≤ nearestNat n ∧ nearestNat n ≤ 2 ^ (n.log2 + 1) := by
  have hpow : 2 ^ n.log2 = 2 ^ (n.log2 - (n.log2 - 52)) * 2 ^ (n.log2 - 52) := by
    rw [← pow_add, Nat.sub_add_cancel (Nat.sub_le _ _)]
  have hpos : 0 < 2 ^ (n.log2 - 52) := Nat.two_pow_pos _
  unfold nearestNat
  constructor
  · rw [hpow]
    exact Nat.mul_le_mul_right _ (le_nearestQuotient hpos (hpow ▸ Nat.log2_self_le hn))
  · have hlt := Nat.lt_log2_self (n := n)
    rw [pow_succ, hpow, Nat.mul_right_comm] at hlt ⊢
    exact Nat.mul_le_mul_right _ (nearestQuotient_le hpos hlt.le)

theorem nearestNat_mono (h : m ≤ n) : nearestNat m ≤ nearestNat n := by
  rcases Nat.eq_zero_or_pos m with rfl | hm
  · exact (nearestNat_of_lt (by decide)).trans_le (Nat.zero_le _)
  have hlog : m.log2 ≤ n.log2 :=
    (Nat.le_log2 (by omega)).2 ((Nat.log2_self_le hm.ne').trans h)
  rcases Nat.eq_or_lt_of_le hlog with heq | hlt
  · -- both are rounded to multiples of one power of two
    unfold nearestNat
    rw [heq]
    exact Nat.mul_le_mul_right _ (nearestQuotient_mono (Nat.two_pow_pos _) h)
  · calc nearestNat m ≤ 2 ^ (m.log2 + 1) := (nearestNat_binade hm.ne').2
      _ ≤ 2 ^ n.log2 := Nat.pow_le_pow_right (by decide) hlt
      _ ≤ nearestNat n := (nearestNat_binade (by omega)).1

/-- **The nearest double** of an integer, as an integer. -/
def nearest (i : Int) : Int :=
  if 0 ≤ i then nearestNat i.natAbs else -(nearestNat i.natAbs)

theorem nearest_mono {a b : Int} (h : a ≤ b) : nearest a ≤ nearest b := by
  unfold nearest
  split <;> split
  · exact Int.ofNat_le.2 (nearestNat_mono (by omega))
  · omega
  · omega
  · have := nearestNat_mono (show b.natAbs ≤ a.natAbs by omega)
    omega

/-- Integers of 53 bits are doubles. -/
theorem nearest_eq {i : Int} (h : i.natAbs ≤ 2 ^ 53) : nearest i = i := by
  have hnat : nearestNat i.natAbs = i.natAbs := by
    rcases Nat.eq_or_lt_of_le h with heq | hlt
    · rw [heq]
      decide
    · exact nearestNat_of_lt hlt
  unfold nearest
  rw [hnat]
  split <;> omega

end Binary

/-! ### Rounding of unpacked doubles -/

variable {M k : Nat} {e : Int}

/-- What a shift to the right leaves: the quotient, the bit after it and whether any further bit is
set. -/
theorem shiftRight_eq (M k : Nat) :
    (⟨M, false, false⟩ : ExtendedMantissa) >>> (k + 1) =
      ⟨M / 2 ^ (k + 1), M / 2 ^ k % 2 != 0, M % 2 ^ k != 0⟩ := by
  induction k with
  | zero => simp [HShiftRight.hShiftRight, Nat.repeat, ExtendedMantissa.shiftRightOne, Nat.mod_one]
  | succ k ih =>
    show ((⟨M, false, false⟩ : ExtendedMantissa) >>> (k + 1)).shiftRightOne = _
    rw [ih, ExtendedMantissa.shiftRightOne]
    congr 1
    · rw [Nat.div_div_eq_div_mul, ← pow_succ]
    · have hsplit : M % 2 ^ (k + 1) = M % 2 ^ k + 2 ^ k * (M / 2 ^ k % 2) := Nat.mod_pow_succ
      have hpos : 0 < 2 ^ k := Nat.two_pow_pos k
      rw [hsplit, Bool.eq_iff_iff]
      simp
      grind

/-- **The two bits after a quotient round it to the nearest integer.** -/
theorem roundedMantissa_shiftRight (M k : Nat) :
    ((⟨M, false, false⟩ : ExtendedMantissa) >>> k).roundedMantissa =
      Binary.nearestQuotient M (2 ^ k) := by
  cases k with
  | zero =>
    show M = _
    simpa using (Binary.nearestQuotient_mul Nat.one_pos M).symm
  | succ k =>
    have hsplit : M % 2 ^ (k + 1) = M % 2 ^ k + 2 ^ k * (M / 2 ^ k % 2) := Nat.mod_pow_succ
    have hlt : M % 2 ^ k < 2 ^ k := Nat.mod_lt _ (Nat.two_pow_pos k)
    have hdouble : 2 ^ (k + 1) = 2 * 2 ^ k := by rw [pow_succ, Nat.mul_comm]
    rw [shiftRight_eq]
    unfold Binary.nearestQuotient ExtendedMantissa.roundedMantissa
    generalize M / 2 ^ (k + 1) = q
    rcases Nat.mod_two_eq_zero_or_one (M / 2 ^ k) with hbit | hbit
    · -- less than a half is left
      rw [hsplit, hdouble, hbit, Nat.mul_zero, Nat.add_zero, if_pos (by omega)]
      cases hsticky : M % 2 ^ k != 0 <;> rfl
    · rw [hsplit, hdouble, hbit, Nat.mul_one, if_neg (by omega)]
      rcases Nat.eq_zero_or_pos (M % 2 ^ k) with hzero | hpos
      · -- the half itself
        rw [hzero, if_neg (by omega)]
        show q + q % 2 = _
        split <;> omega
      · rw [if_pos (by omega), show (M % 2 ^ k != 0) = true by simpa using hpos.ne']
        rfl

theorem shiftToTargetExponent_eq (hlog : M.log2 = 52 + k) (he : -1074 ≤ e + k) :
    shiftToTargetExponent .binary64 M e .exact =
      ((⟨M, false, false⟩ : ExtendedMantissa) >>> k, e + k) := by
  have htarget : Format.binary64.targetExponent (totalExponent M e) = e + k := by
    unfold Format.targetExponent totalExponent
    rw [hlog]
    show max (((52 + k : Nat) : Int) + 1 + e - 53) (-1074) = e + k
    omega
  have hamount : (e + k - e).toNat = k := by omega
  unfold shiftToTargetExponent shiftToExponent
  simp only [htarget, hamount]
  rfl

/-- A mantissa is shifted, rounded and shifted again. -/
theorem roundWithAccuracy_eq (s : Sign) {e₁ e₂ : Int} {first second : ExtendedMantissa} {r : Nat}
    (hfirst : shiftToTargetExponent .binary64 M e .exact = (first, e₁))
    (hround : first.roundedMantissa = r)
    (hsecond : shiftToTargetExponent .binary64 r e₁ .exact = (second, e₂))
    (hpos : 0 < second.mantissa) :
    roundWithAccuracy .binary64 s M e .exact = .finite s second.mantissa e₂ hpos := by
  subst hround
  unfold roundWithAccuracy
  rw [hfirst]
  dsimp only
  rw [hsecond]
  exact dif_neg hpos.ne'

/-- **An unpacked double is an integer** of 64 bits, with all the 53 bits that it has. -/
inductive IsWhole : UnpackedFloat → Int → Prop where
  | zero (s : Sign) : IsWhole (.zero s) 0
  | finite (s : Sign) (m k n : Nat) (hm : 0 < m) : 2 ^ 52 ≤ m → m < 2 ^ 53 → n ≤ 2 ^ 63 →
    n * 2 ^ 52 = m * 2 ^ k → IsWhole (.finite s m (k - 52) hm) (s.apply n)

/-- **Rounding gives the nearest integer of 53 bits**, as a double. -/
theorem isWhole_roundWithAccuracy (s : Sign) {j n : Nat} (hlog : M.log2 = 52 + k)
    (he : e + k = (j : Int) - 52) (hbound : n ≤ 2 ^ 63)
    (hn : n * 2 ^ 52 = Binary.nearestQuotient M (2 ^ k) * 2 ^ j) :
    IsWhole (roundWithAccuracy .binary64 s M e .exact) (s.apply n) := by
  have hzero : M ≠ 0 := by
    rintro rfl
    rw [Nat.log2_zero] at hlog
    omega
  have hpos : 0 < 2 ^ k := Nat.two_pow_pos k
  have hlower : 2 ^ 52 ≤ Binary.nearestQuotient M (2 ^ k) := by
    refine Binary.le_nearestQuotient hpos ?_
    rw [← pow_add, ← hlog]
    exact Nat.log2_self_le hzero
  have hupper : Binary.nearestQuotient M (2 ^ k) ≤ 2 ^ 53 := by
    refine Binary.nearestQuotient_le hpos ?_
    rw [← pow_add, show 53 + k = M.log2 + 1 by omega]
    exact Nat.lt_log2_self.le
  have hfirst := shiftToTargetExponent_eq hlog (show -1074 ≤ e + k by omega)
  have hround := roundedMantissa_shiftRight M k
  generalize Binary.nearestQuotient M (2 ^ k) = r at *
  rcases Nat.eq_or_lt_of_le hupper with rfl | hlt
  · -- one bit too many, which is shifted out
    have hsecond := shiftToTargetExponent_eq (k := 1) (show (2 ^ 53).log2 = 53 by decide)
      (show -1074 ≤ e + k + (1 : Nat) by omega)
    rw [roundWithAccuracy_eq s hfirst hround hsecond (by decide),
      show e + k + (1 : Nat) = ((j + 1 : Nat) : Int) - 52 by omega]
    refine .finite s (2 ^ 52) (j + 1) n _ le_rfl (by decide) hbound ?_
    rw [hn, pow_succ 2 j, Nat.mul_comm _ 2, ← Nat.mul_assoc, ← pow_succ]
  · have hsecond := shiftToTargetExponent_eq (k := 0)
      ((Nat.log2_eq_iff (by omega)).2 ⟨hlower, hlt⟩) (show -1074 ≤ e + k + (0 : Nat) by omega)
    rw [roundWithAccuracy_eq s hfirst hround hsecond (show 0 < r by omega), Nat.cast_zero,
      Int.add_zero, he]
    exact .finite s r j n _ hlower hlt hbound hn

/-! ### Packing -/

/-- A packed double has the sign that it was packed with. -/
theorem sign_packComponents {f : Format} (s : Sign) (e : BitVec f.exponentBits)
    (m : BitVec f.mantissaBitsWithoutImplicit) :
    Sign.ofBitVec (unpackSign (packComponents f s e m)) = s := by
  have hsign : unpackSign (packComponents f s e m) = s.toBitVec := by
    ext i hi
    obtain rfl : i = 0 := by omega
    show ((s.toBitVec ++ e ++ m).extractLsb (f.mantissaBitsWithoutImplicit + f.exponentBits)
      (f.mantissaBitsWithoutImplicit + f.exponentBits)).getLsbD 0 = _
    simp +arith [BitVec.extractLsb, BitVec.getElem_append]
  rw [hsign]
  cases s <;> rfl

/-- **Packing loses nothing** of a double that is an integer. -/
theorem IsWhole.unpack_pack {x : UnpackedFloat} {i : Int} (h : IsWhole x i) :
    (Float.Model.pack x).unpack = x := by
  cases h with
  | zero s => cases s <;> rfl
  | finite s m k n hm hlower hupper hbound hn =>
    have hlog : m.log2 = 52 := (Nat.log2_eq_iff (by omega)).2 ⟨hlower, hupper⟩
    have hk : k ≤ 63 := by
      by_contra hlt
      have hpow : 2 ^ 64 ≤ 2 ^ k := Nat.pow_le_pow_right (by decide) (by omega)
      have := Nat.mul_le_mul hlower hpow
      omega
    have hbiased : ((k : Int) - 52 + 1023 + 52).toNat = k + 1023 := by omega
    have hpack : UnpackedFloat.pack .binary64 (.finite s m (k - 52) hm) =
        packComponents .binary64 s (BitVec.ofNat 11 (k + 1023)) (BitVec.ofNat 52 m) := by
      unfold UnpackedFloat.pack
      simp only [hlog]
      show (if 2 ^ 11 ≤ ((k : Int) - 52 + 1023 + 52).toNat + 1 then _ else
        packComponents .binary64 s (BitVec.ofNat 11 ((k : Int) - 52 + 1023 + 52).toNat) _) = _
      rw [hbiased]
      exact if_neg (by omega)
    have hexponent : (BitVec.ofNat 11 (k + 1023)).toNat = k + 1023 := by
      rw [BitVec.toNat_ofNat, Nat.mod_eq_of_lt (by omega)]
    have hmantissa : (1#1 ++ BitVec.ofNat 52 m).toNat = m := by
      rw [BitVec.toNat_append, ← Nat.shiftLeft_add_eq_or_of_lt (BitVec.isLt _), BitVec.toNat_ofNat]
      show 2 ^ 52 + m % 2 ^ 52 = m
      omega
    have hfinite : BitVec.ofNat 11 (k + 1023) ≠ -1#11 := by
      intro heq
      have := congrArg BitVec.toNat heq
      rw [hexponent, show (-1#11).toNat = 2047 from rfl] at this
      omega
    have hnormal : BitVec.ofNat 11 (k + 1023) ≠ 0#11 := by
      intro heq
      have := congrArg BitVec.toNat heq
      rw [hexponent, show (0#11).toNat = 0 from rfl] at this
      omega
    have hunbiased : ((k + 1023 : Nat) : Int) - (Format.binary64.exponentBias + (52 : Nat)) =
        k - 52 := by
      rw [show Format.binary64.exponentBias = 1023 by decide]
      omega
    show UnpackedFloat.unpack .binary64 (UnpackedFloat.pack .binary64 (.finite s m (k - 52) hm)) = _
    rw [hpack]
    unfold UnpackedFloat.unpack
    dsimp only
    rw [unpackExponent_packComponents, if_neg hfinite, if_neg hnormal,
      UnpackedFloat.finite.injEq, unpackMantissa_packComponents, hexponent]
    exact ⟨sign_packComponents s _ _, hmantissa, hunbiased⟩

/-! ### Integers as doubles -/

theorem IsWhole.neg {x : UnpackedFloat} {i : Int} (h : IsWhole x i) : IsWhole x.neg (-i) := by
  cases h with
  | zero s => exact .zero (-s)
  | finite s m k n hm hlower hupper hbound hn =>
    have hsign : -s.apply n = (-s).apply n := by
      cases s with
      | negative => exact Int.neg_neg _
      | positive => rfl
    rw [hsign]
    exact .finite (-s) m k n hm hlower hupper hbound hn

/-- The double one, which conversions multiply by. -/
theorem unpack_one : (Float.ofBits 0x3FF0000000000000).toModel.unpack =
    .finite .positive (2 ^ 52) (-52) (by decide) := by
  rfl

theorem log2_mul_two_pow (hM : M ≠ 0) (k : Nat) : (M * 2 ^ k).log2 = M.log2 + k := by
  have hpos : M * 2 ^ k ≠ 0 := Nat.mul_ne_zero hM (Nat.two_pow_pos k).ne'
  refine (Nat.log2_eq_iff hpos).2 ⟨?_, ?_⟩
  · rw [pow_add]
    exact Nat.mul_le_mul_right _ (Nat.log2_self_le hM)
  · rw [Nat.add_right_comm, pow_add]
    exact Nat.mul_lt_mul_of_pos_right Nat.lt_log2_self (Nat.two_pow_pos k)

/-- **Multiplication by one changes nothing.** -/
theorem IsWhole.mul_one {x : UnpackedFloat} {i : Int} (h : IsWhole x i) :
    IsWhole (x.mul .binary64 (.finite .positive (2 ^ 52) (-52) (by decide))) i := by
  cases h with
  | zero s => exact .zero _
  | finite s m k n hm hlower hupper hbound hn =>
    have hsign : s * .positive = s := by cases s <;> rfl
    show IsWhole (roundWithAccuracy .binary64 (s * .positive) (m * 2 ^ 52) (k - 52 + -52) .exact) _
    rw [hsign]
    have hlog : m.log2 = 52 := (Nat.log2_eq_iff (by omega)).2 ⟨hlower, hupper⟩
    refine isWhole_roundWithAccuracy (k := 52) (j := k) s ?_ (by omega) hbound ?_
    · rw [log2_mul_two_pow hm.ne', hlog]
    · rw [Binary.nearestQuotient_mul (Nat.two_pow_pos 52), hn]

/-- Numbers of at most 53 bits are exact. -/
theorem isWhole_ofNat {n : Nat} (h : n < 2 ^ 53) : IsWhole (UnpackedFloat.ofNat .binary64 n) n := by
  rcases Nat.eq_zero_or_pos n with rfl | hpos
  · exact .zero .positive
  have hlog : n.log2 < 53 := (Nat.log2_lt hpos.ne').2 h
  have hround : UnpackedFloat.ofNat .binary64 n = roundWithAccuracy .binary64 .positive
      (n * 2 ^ (52 - n.log2)) (n.log2 - 52) .exact := by
    have hcompare : compare (n : Int) 0 = .gt := Int.compare_eq_gt.2 (by omega)
    have htarget : Format.binary64.targetExponent (totalExponent n 0) = n.log2 - 52 := by
      show max ((n.log2 : Int) + 1 + 0 - 53) (-1074) = n.log2 - 52
      omega
    have hamount : (0 - ((n.log2 : Int) - 52)).toNat = 52 - n.log2 := by omega
    have hexponent : (0 : Int) - ((52 - n.log2 : Nat) : Int) = n.log2 - 52 := by omega
    unfold UnpackedFloat.ofNat UnpackedFloat.ofInt UnpackedFloat.normalize UnpackedFloat.round
      decreaseExponent
    simp only [hcompare, Int.toNat_natCast, htarget, hamount, hexponent, Nat.shiftLeft_eq]
  rw [hround]
  refine isWhole_roundWithAccuracy (k := 0) (j := n.log2) .positive ?_ ?_ (by omega) ?_
  · rw [log2_mul_two_pow hpos.ne']
    omega
  · omega
  · have hone := Binary.nearestQuotient_mul Nat.one_pos (n * 2 ^ (52 - n.log2))
    rw [Nat.mul_one] at hone
    rw [pow_zero, hone, Nat.mul_assoc, ← pow_add, Nat.sub_add_cancel (by omega)]

/-- Any other number is rounded once. -/
theorem isWhole_ofScientific {n : Nat} (h : 2 ^ 53 ≤ n) (hbound : n ≤ 2 ^ 63) :
    IsWhole (UnpackedFloat.ofScientific .binary64 n 0) (Binary.nearestNat n) := by
  have hlog : 53 ≤ n.log2 := (Nat.le_log2 (by omega)).2 h
  have hround : UnpackedFloat.ofScientific .binary64 n 0 = roundWithAccuracy .binary64 .positive
      (n * 2 ^ 53) (-53) .exact := by
    have hshift : n <<< 53 * 10 ^ (0 : Int).toNat = n * 2 ^ 53 := by
      rw [Nat.shiftLeft_eq]
      exact Nat.mul_one _
    have hsmall : ¬ (0 : Int) < -(2 ^ 11 + n.log2) := by omega
    unfold UnpackedFloat.ofScientific
    rw [dif_neg (by omega), if_neg (by decide), if_neg hsmall, if_pos (by decide)]
    show roundWithAccuracy .binary64 .positive (n <<< 53 * 10 ^ (0 : Int).toNat) (-53) .exact = _
    rw [hshift]
  rw [hround]
  refine isWhole_roundWithAccuracy (k := n.log2 + 1) (j := n.log2) .positive ?_ ?_ ?_ ?_
  · rw [log2_mul_two_pow (by omega)]
    omega
  · omega
  · exact (Binary.nearestNat_mono hbound).trans (by decide)
  · have hsplit : 2 ^ (n.log2 + 1) = 2 ^ (n.log2 - 52) * 2 ^ 53 := by
      rw [← pow_add]
      congr 1
      omega
    rw [hsplit, Binary.nearestQuotient_scale (Nat.two_pow_pos 53), Binary.nearestNat,
      Nat.mul_assoc, ← pow_add, Nat.sub_add_cancel (by omega)]

theorem isWhole_natural {n : Nat} (hbound : n ≤ 2 ^ 63) :
    IsWhole (Float.ofNat n).toModel.unpack (Binary.nearestNat n) := by
  by_cases h : n < 2 ^ 53
  · have hfast : Float.ofNat n = n.toUInt64.toFloat * Float.ofBits 0x3FF0000000000000 :=
      dif_pos ⟨h, by decide⟩
    have hword : n.toUInt64.toNat = n := Nat.mod_eq_of_lt (by omega)
    have hinteger : IsWhole n.toUInt64.toFloat.toModel.unpack n := by
      show IsWhole (Float.Model.pack (UnpackedFloat.ofNat .binary64 n.toUInt64.toNat)).unpack n
      rw [hword, (isWhole_ofNat h).unpack_pack]
      exact isWhole_ofNat h
    have hproduct := unpack_one ▸ hinteger.mul_one
    rw [hfast, Binary.nearestNat_of_lt h]
    show IsWhole (Float.Model.pack _).unpack _
    rw [hproduct.unpack_pack]
    exact hproduct
  · have hslow : Float.ofNat n = Float.ofModel (Float.Model.ofScientific n 0) :=
      dif_neg fun hlt => h hlt.1
    have hrounded := isWhole_ofScientific (Nat.not_lt.1 h) hbound
    rw [hslow]
    show IsWhole (Float.Model.pack (UnpackedFloat.ofScientific .binary64 n 0)).unpack _
    rw [hrounded.unpack_pack]
    exact hrounded

/-- **An integer becomes the nearest double.** -/
theorem isWhole_ofInt {i : Int} (h : i.natAbs ≤ 2 ^ 63) :
    IsWhole (Float.ofInt i).toModel.unpack (Binary.nearest i) := by
  unfold Binary.nearest
  cases i with
  | ofNat n => exact isWhole_natural h
  | negSucc n =>
    have hneg : IsWhole (Float.ofNat (n + 1)).toModel.unpack.neg (-Binary.nearestNat (n + 1)) :=
      (isWhole_natural h).neg
    show IsWhole (Float.Model.pack (Float.ofNat (n + 1)).toModel.unpack.neg).unpack _
    rw [hneg.unpack_pack]
    exact hneg

/-! ### Order -/

section

variable {m₁ m₂ k₁ k₂ n₁ n₂ : Nat} (h₁ : n₁ * 2 ^ 52 = m₁ * 2 ^ k₁) (h₂ : n₂ * 2 ^ 52 = m₂ * 2 ^ k₂)

include h₁ h₂

theorem lt_of_exponent_lt (hupper : m₁ < 2 ^ 53) (hlower : 2 ^ 52 ≤ m₂) (hlt : k₁ < k₂) :
    n₁ < n₂ := by
  have hscaled : n₁ * 2 ^ 52 < n₂ * 2 ^ 52 :=
    calc n₁ * 2 ^ 52 = m₁ * 2 ^ k₁ := h₁
      _ < 2 ^ 53 * 2 ^ k₁ := Nat.mul_lt_mul_of_pos_right hupper (Nat.two_pow_pos k₁)
      _ = 2 ^ 52 * 2 ^ (k₁ + 1) := by rw [← pow_add, ← pow_add, Nat.add_comm k₁, ← Nat.add_assoc]
      _ ≤ m₂ * 2 ^ k₂ := Nat.mul_le_mul hlower (Nat.pow_le_pow_right (by decide) hlt)
      _ = n₂ * 2 ^ 52 := h₂.symm
  exact Nat.lt_of_mul_lt_mul_right hscaled

theorem lt_of_mantissa_lt (heq : k₁ = k₂) (hlt : m₁ < m₂) : n₁ < n₂ := by
  subst heq
  have hscaled := Nat.mul_lt_mul_of_pos_right hlt (Nat.two_pow_pos k₁)
  rw [← h₁, ← h₂] at hscaled
  exact Nat.lt_of_mul_lt_mul_right hscaled

/-- Doubles with all their bits are compared by exponents first, and then by mantissas. -/
theorem compare_exponents (hm₁ : 2 ^ 52 ≤ m₁ ∧ m₁ < 2 ^ 53) (hm₂ : 2 ^ 52 ≤ m₂ ∧ m₂ < 2 ^ 53) :
    (compare ((k₁ : Int) - 52) (k₂ - 52)).then (compare m₁ m₂) = compare (n₁ : Int) n₂ := by
  rcases Nat.lt_trichotomy k₁ k₂ with hlt | heq | hgt
  · have hn := lt_of_exponent_lt h₁ h₂ hm₁.2 hm₂.1 hlt
    rw [Int.compare_eq_lt.2 (show (k₁ : Int) - 52 < k₂ - 52 by omega),
      Int.compare_eq_lt.2 (Int.ofNat_lt.2 hn)]
    rfl
  · rw [Int.compare_eq_eq.2 (show (k₁ : Int) - 52 = k₂ - 52 by omega), Ordering.eq_then]
    rcases Nat.lt_trichotomy m₁ m₂ with hlt | hm | hgt
    · have hn := lt_of_mantissa_lt h₁ h₂ heq hlt
      rw [Nat.compare_eq_lt.2 hlt, Int.compare_eq_lt.2 (Int.ofNat_lt.2 hn)]
    · have hn : n₁ = n₂ := Nat.eq_of_mul_eq_mul_right (Nat.two_pow_pos 52) (by rw [h₁, h₂, heq, hm])
      rw [Nat.compare_eq_eq.2 hm, Int.compare_eq_eq.2 (congrArg _ hn)]
    · have hn := lt_of_mantissa_lt h₂ h₁ heq.symm hgt
      rw [Nat.compare_eq_gt.2 hgt, Int.compare_eq_gt.2 (Int.ofNat_lt.2 hn)]
  · have hn := lt_of_exponent_lt h₂ h₁ hm₂.2 hm₁.1 hgt
    rw [Int.compare_eq_gt.2 (show (k₂ : Int) - 52 < k₁ - 52 by omega),
      Int.compare_eq_gt.2 (Int.ofNat_lt.2 hn)]
    rfl

end

theorem pos_of_mantissa_pos {m k n : Nat} (h : n * 2 ^ 52 = m * 2 ^ k) (hm : 0 < m) : 0 < n := by
  have hpos := Nat.mul_pos hm (Nat.two_pow_pos k)
  rw [← h] at hpos
  exact Nat.pos_of_mul_pos_right hpos

/-- **Doubles are compared as the integers that they are.** -/
theorem IsWhole.compare_eq {x y : UnpackedFloat} {a b : Int} (hx : IsWhole x a) (hy : IsWhole y b) :
    x.compare y = some (compare a b) := by
  cases hx with
  | zero s =>
    cases hy with
    | zero t => rfl
    | finite t m k n hm _ _ _ hn =>
      have hpos := pos_of_mantissa_pos hn hm
      cases t with
      | negative => exact congrArg some (Int.compare_eq_gt.2 (show -(n : Int) < 0 by omega)).symm
      | positive => exact congrArg some (Int.compare_eq_lt.2 (show 0 < (n : Int) by omega)).symm
  | finite s m₁ k₁ n₁ hm₁ hlower₁ hupper₁ _ h₁ =>
    have hpos₁ := pos_of_mantissa_pos h₁ hm₁
    cases hy with
    | zero t =>
      cases s with
      | negative => exact congrArg some (Int.compare_eq_lt.2 (show -(n₁ : Int) < 0 by omega)).symm
      | positive => exact congrArg some (Int.compare_eq_gt.2 (show 0 < (n₁ : Int) by omega)).symm
    | finite t m₂ k₂ n₂ hm₂ hlower₂ hupper₂ _ h₂ =>
      have hpos₂ := pos_of_mantissa_pos h₂ hm₂
      have hcompare := compare_exponents h₁ h₂ ⟨hlower₁, hupper₁⟩ ⟨hlower₂, hupper₂⟩
      cases s <;> cases t
      · -- of two negative doubles, the one with the greater magnitude is less
        have hswap : (compare (n₁ : Int) n₂).swap = compare (-(n₁ : Int)) (-(n₂ : Int)) := by
          rw [Int.compare_swap, Int.compare_eq_ite_lt, Int.compare_eq_ite_lt]
          simp only [Int.neg_lt_neg_iff]
        exact congrArg some ((congrArg Ordering.swap hcompare).trans hswap)
      · exact congrArg some (Int.compare_eq_lt.2 (show -(n₁ : Int) < n₂ by omega)).symm
      · exact congrArg some (Int.compare_eq_gt.2 (show -(n₂ : Int) < n₁ by omega)).symm
      · exact congrArg some hcompare

variable {a b : Int} (ha : a.natAbs ≤ 2 ^ 63) (hb : b.natAbs ≤ 2 ^ 63)

include ha hb

theorem ofInt_lt_iff : Float.ofInt a < Float.ofInt b ↔ Binary.nearest a < Binary.nearest b := by
  have hcompare := (isWhole_ofInt ha).compare_eq (isWhole_ofInt hb)
  show decide ((Float.ofInt a).toModel < (Float.ofInt b).toModel) = true ↔ _
  rw [decide_eq_true_iff]
  show ((Float.ofInt a).toModel.unpack.compare (Float.ofInt b).toModel.unpack == some .lt) = true ↔
    Binary.nearest a < Binary.nearest b
  rw [hcompare, beq_iff_eq, Option.some_inj, Int.compare_eq_lt]

theorem ofInt_le_iff : Float.ofInt a ≤ Float.ofInt b ↔ Binary.nearest a ≤ Binary.nearest b := by
  have hcompare := (isWhole_ofInt ha).compare_eq (isWhole_ofInt hb)
  show decide ((Float.ofInt a).toModel ≤ (Float.ofInt b).toModel) = true ↔ _
  rw [decide_eq_true_iff]
  show ((Float.ofInt a).toModel.unpack.compare (Float.ofInt b).toModel.unpack).any (·.isLE) = true ↔
    Binary.nearest a ≤ Binary.nearest b
  rw [hcompare, Option.any_some, Int.isLE_compare]

end Templating

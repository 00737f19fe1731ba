import Templating.Operator
import Templating.Proofs.Doubles

/-!
# The order of integers

Equality compares integers, and the orders compare doubles. Two integers that become one double are
told apart by the former only.

* `Holds`: a comparison of two integers that gives true.
* `IsConsistent`: the comparisons tell the order of two integers.
* `compares_as_doubles`: **they do for all integers that are equal or become different doubles**,
  and for no others.
-/

namespace Templating

namespace BinaryOperator

variable {a b : Int64}

/-- A comparison of two integers gives true. -/
def Holds (o : BinaryOperator) (a b : Int64) : Prop :=
  o.apply .standard (.int a) (.int b) = .ok (.bool true)

theorem holds_iff {o : BinaryOperator} {p : Prop} [Decidable p]
    (h : o.apply .standard (.int a) (.int b) = .ok (.bool (decide p))) : Holds o a b ↔ p := by
  unfold Holds
  rw [h, Except.ok.injEq, Value.bool.injEq, decide_eq_true_iff]

theorem holds_equalTo : Holds equalTo a b ↔ a = b :=
  holds_iff rfl

theorem natAbs_toInt_le (n : Int64) : n.toInt.natAbs ≤ 2 ^ 63 := by
  have hlower := n.le_toInt
  have hupper := n.toInt_lt
  omega

theorem holds_lessThan :
    Holds lessThan a b ↔ Binary.nearest a.toInt < Binary.nearest b.toInt :=
  (holds_iff rfl).trans (ofInt_lt_iff (natAbs_toInt_le a) (natAbs_toInt_le b))

theorem holds_lessThanOrEqualTo :
    Holds lessThanOrEqualTo a b ↔ Binary.nearest a.toInt ≤ Binary.nearest b.toInt :=
  (holds_iff rfl).trans (ofInt_le_iff (natAbs_toInt_le a) (natAbs_toInt_le b))

theorem holds_greaterThan :
    Holds greaterThan a b ↔ Binary.nearest b.toInt < Binary.nearest a.toInt :=
  (holds_iff rfl).trans (ofInt_lt_iff (natAbs_toInt_le b) (natAbs_toInt_le a))

theorem holds_greaterThanOrEqualTo :
    Holds greaterThanOrEqualTo a b ↔ Binary.nearest b.toInt ≤ Binary.nearest a.toInt :=
  (holds_iff rfl).trans (ofInt_le_iff (natAbs_toInt_le b) (natAbs_toInt_le a))

/-- **The comparisons tell the order of two integers.** -/
structure IsConsistent (a b : Int64) : Prop where
  /-- The first is less, equal or greater, and no two of these. -/
  one : Holds lessThan a b ∧ ¬ Holds equalTo a b ∧ ¬ Holds greaterThan a b ∨
    ¬ Holds lessThan a b ∧ Holds equalTo a b ∧ ¬ Holds greaterThan a b ∨
    ¬ Holds lessThan a b ∧ ¬ Holds equalTo a b ∧ Holds greaterThan a b
  lessThanOrEqualTo : Holds lessThanOrEqualTo a b ↔ Holds lessThan a b ∨ Holds equalTo a b
  greaterThanOrEqualTo : Holds greaterThanOrEqualTo a b ↔ Holds greaterThan a b ∨ Holds equalTo a b
  lessThan : Holds lessThan a b ↔ a.toInt < b.toInt

/-- Neighbours that become one double: neither is less, and they are not equal either. -/
theorem not_isConsistent_neighbours : ¬ IsConsistent 9007199254740992 9007199254740993 := by
  intro h
  have hless : lessThan.apply .standard (.int 9007199254740992) (.int 9007199254740993) =
      .ok (.bool false) := rfl
  have hholds := h.lessThan.2 (by decide)
  unfold Holds at hholds
  rw [hless] at hholds
  cases hholds

/-- Rounding keeps the order of integers that it does not make equal. -/
theorem nearest_lt_iff {i j : Int} (h : i = j ∨ Binary.nearest i ≠ Binary.nearest j) :
    Binary.nearest i < Binary.nearest j ↔ i < j := by
  constructor
  · intro hlt
    by_contra hle
    have := Binary.nearest_mono (Int.not_lt.1 hle)
    omega
  · intro hlt
    have := Binary.nearest_mono hlt.le
    have := h.resolve_left hlt.ne
    omega

theorem isConsistent_of_nearest (h : a = b ∨ Binary.nearest a.toInt ≠ Binary.nearest b.toInt) :
    IsConsistent a b := by
  rw [← Int64.toInt_inj] at h
  have hless := nearest_lt_iff h
  have hgreater := nearest_lt_iff (h.imp Eq.symm Ne.symm)
  constructor
  all_goals simp only [holds_lessThan, holds_equalTo, holds_greaterThan, holds_lessThanOrEqualTo,
    holds_greaterThanOrEqualTo, ← Int64.toInt_inj]
  all_goals omega

/-- **What the comparisons make of two integers.** -/
structure ComparesAsDoubles (a b : Int64) : Prop where
  decides : ∀ o ∈ [lessThan, lessThanOrEqualTo, equalTo, greaterThanOrEqualTo, greaterThan],
    ∃ r, o.apply .standard (.int a) (.int b) = .ok (.bool r)
  isConsistent_iff :
    IsConsistent a b ↔ a = b ∨ Binary.nearest a.toInt ≠ Binary.nearest b.toInt
  /-- Different integers that become one double. -/
  alike : a ≠ b → Binary.nearest a.toInt = Binary.nearest b.toInt →
    ¬ Holds lessThan a b ∧ ¬ Holds equalTo a b ∧ ¬ Holds greaterThan a b ∧
    Holds lessThanOrEqualTo a b ∧ Holds greaterThanOrEqualTo a b
  /-- Integers that doubles hold exactly. -/
  exact : a.toInt.natAbs ≤ 2 ^ 53 → b.toInt.natAbs ≤ 2 ^ 53 → IsConsistent a b

/-- **Integers are ordered as doubles, and equal as integers.** -/
theorem compares_as_doubles (a b : Int64) : ComparesAsDoubles a b := by
  have halike (hne : a ≠ b) (heq : Binary.nearest a.toInt = Binary.nearest b.toInt) :
      ¬ Holds lessThan a b ∧ ¬ Holds equalTo a b ∧ ¬ Holds greaterThan a b ∧
      Holds lessThanOrEqualTo a b ∧ Holds greaterThanOrEqualTo a b := by
    rw [holds_lessThan, holds_equalTo, holds_greaterThan, holds_lessThanOrEqualTo,
      holds_greaterThanOrEqualTo]
    exact ⟨by omega, hne, by omega, by omega, by omega⟩
  refine ⟨?_, ?_, halike, ?_⟩
  · intro o ho
    simp only [List.mem_cons, List.not_mem_nil, or_false] at ho
    rcases ho with rfl | rfl | rfl | rfl | rfl <;> exact ⟨_, rfl⟩
  · refine ⟨fun h => ?_, isConsistent_of_nearest⟩
    by_contra hnot
    obtain ⟨hne, heq⟩ := not_or.1 hnot
    obtain ⟨hless, hequal, hgreater, -⟩ := halike hne (not_not.1 heq)
    have hone := h.one
    tauto
  · intro ha hb
    refine isConsistent_of_nearest ?_
    rw [Binary.nearest_eq ha, Binary.nearest_eq hb, ← Int64.toInt_inj]
    exact em _

end BinaryOperator

end Templating

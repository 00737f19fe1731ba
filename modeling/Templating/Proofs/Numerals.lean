import Mathlib.Data.List.TakeWhile
import Templating.Conversion
import Templating.Proofs.Integers

/-!
# Numerals are read alike

Integers are written in decimal digits with a minus sign, or in hexadecimal digits behind a mark.
The literals of a condition and the conversion of strings read them by different ways.

* `Denotes`: the integer that a numeral writes, by the worth of its digits.
* `Numeral.denotes_text`: the text of an integer is a numeral of it.
* `Denotes.readInt?_eq`: what a numeral is read as, where its integer fits 64 bits.
* `numerals_read_alike`: **every numeral is read as its integer by both, or refused by both.**
-/

namespace Templating

variable {radix d n : Nat} {i : Int} {c : Char} {cs : List Char}

/-! ### What numerals write -/

/-- A digit of value `d`, in either case. -/
def IsDigit (radix : Nat) (c : Char) (d : Nat) : Prop :=
  d < radix ∧
    ("0123456789abcdef".toList[d]? = some c ∨ "0123456789ABCDEF".toList[d]? = some c)

/-- Digits that write `n`: each digit makes those before it worth `radix` times as much. -/
inductive Writes (radix : Nat) : List Char → Nat → Prop where
  | digit (c : Char) (d : Nat) : IsDigit radix c d → Writes radix [c] d
  | append (cs : List Char) (n : Nat) (c : Char) (d : Nat) :
    Writes radix cs n → IsDigit radix c d → Writes radix (cs ++ [c]) (radix * n + d)

/-- **The integer of a numeral**: decimal digits behind at most a minus sign, or hexadecimal
digits behind their mark. -/
inductive Denotes : List Char → Int → Prop where
  | decimal (cs : List Char) (n : Nat) : Writes 10 cs n → Denotes cs n
  | negative (cs : List Char) (n : Nat) : Writes 10 cs n → Denotes ('-' :: cs) (-n)
  | hexadecimal (mark : Char) (cs : List Char) (n : Nat) :
    mark = 'x' ∨ mark = 'X' → Writes 16 cs n → Denotes ('0' :: mark :: cs) n

/-! ### Digits -/

theorem digitValue?_of_hexadecimal {worth : Nat} (h : Numeral.digitValue? 16 c = some worth)
    (hradix : worth < radix) : Numeral.digitValue? radix c = some worth := by
  unfold Numeral.digitValue? at *
  grind

theorem digitValue?_hexadecimal : ∀ d < 16, ∀ c,
    "0123456789abcdef".toList[d]? = some c ∨ "0123456789ABCDEF".toList[d]? = some c →
      Numeral.digitValue? 16 c = some d := by
  intro d hd c h
  have hall : ∀ d < 16, ("0123456789abcdef".toList[d]?.bind (Numeral.digitValue? 16)) = some d ∧
      ("0123456789ABCDEF".toList[d]?.bind (Numeral.digitValue? 16)) = some d := by decide
  rcases h with h | h
  · simpa only [h, Option.bind_some] using (hall d hd).1
  · simpa only [h, Option.bind_some] using (hall d hd).2

theorem IsDigit.digitValue?_eq (h : IsDigit radix c d) (hle : radix ≤ 16) :
    Numeral.digitValue? radix c = some d :=
  digitValue?_of_hexadecimal (digitValue?_hexadecimal d (by have := h.1; omega) c h.2) h.1

/-- The characters that numerals are made of. -/
def numeralChars : List Char := "-0123456789abcdefABCDEFxX".toList

theorem IsDigit.mem_numeralChars (h : IsDigit radix c d) : c ∈ numeralChars := by
  have hlower : "0123456789abcdef".toList ⊆ numeralChars := by decide
  have hupper : "0123456789ABCDEF".toList ⊆ numeralChars := by decide
  exact h.2.elim (fun h => hlower (List.mem_of_getElem? h)) fun h =>
    hupper (List.mem_of_getElem? h)

/-- A decimal digit is among the characters that a numeral begins with. -/
theorem IsDigit.mem_decimal (h : IsDigit 10 c d) : c ∈ "0123456789".toList := by
  obtain ⟨hd, hc⟩ := h
  have hall : ∀ d < 10, "0123456789abcdef".toList[d]? = "0123456789".toList[d]? ∧
      "0123456789ABCDEF".toList[d]? = "0123456789".toList[d]? := by decide
  rw [(hall d hd).1, (hall d hd).2, or_self] at hc
  exact List.mem_of_getElem? hc

namespace Writes

theorem ne_nil (h : Writes radix cs n) : cs ≠ [] := by
  cases h <;> simp

theorem forall_isDigit (h : Writes radix cs n) : ∀ c ∈ cs, ∃ d, IsDigit radix c d := by
  induction h with
  | digit c d hc => simpa using ⟨d, hc⟩
  | append cs n c d _ hc ih =>
    intro e he
    rcases List.mem_append.1 he with he | he
    · exact ih e he
    · rw [List.mem_singleton.1 he]
      exact ⟨d, hc⟩

/-- **Digits are read as the number that they write.** -/
theorem natural?_eq (h : Writes radix cs n) (hle : radix ≤ 16) :
    Numeral.natural? radix cs = some n := by
  have haccumulate : Numeral.accumulate? radix 0 cs = some n := by
    induction h with
    | digit c d hc => simp [Numeral.accumulate?, hc.digitValue?_eq hle]
    | append cs n c d _ hc ih =>
      rw [Numeral.accumulate?_append, ih]
      simp [Numeral.accumulate?, hc.digitValue?_eq hle]
  obtain ⟨c, rest, rfl⟩ := List.exists_cons_of_ne_nil h.ne_nil
  rw [Numeral.natural?_cons, haccumulate]

/-- Digits alone have no sign. -/
theorem integer?_eq (h : Writes radix cs n) (hle : radix ≤ 16) :
    Numeral.integer? radix cs = some (n : Int) := by
  have hsign : ∀ c ∈ cs, (Numeral.digitValue? radix c).isSome := fun c hc => by
    obtain ⟨d, hd⟩ := h.forall_isDigit c hc
    rw [hd.digitValue?_eq hle, Option.isSome_some]
  unfold Numeral.integer?
  split
  · simpa [Numeral.digitValue?] using hsign '-' (by simp)
  · simpa [Numeral.digitValue?] using hsign '+' (by simp)
  · rw [h.natural?_eq hle]
    rfl

end Writes

theorem Numeral.read?_eq (h : integer? radix cs = some i) : read? radix cs = int64? i := by
  rw [read?, h, Option.bind_some]

/-! ### The text of an integer -/

theorem isDigit_digit (h : d < 10) : IsDigit 10 (Numeral.digit d) d := by
  have hall : ∀ d < 10, "0123456789abcdef".toList[d]? = some (Numeral.digit d) := by decide
  exact ⟨h, .inl (hall d h)⟩

theorem Numeral.writes_digits (n : Nat) : Writes 10 (digits n) n := by
  induction n using digits.induct with
  | case1 n h =>
    rw [digits, if_pos h]
    exact .digit _ _ (isDigit_digit h)
  | case2 n h ih =>
    rw [digits, if_neg h]
    have hn := Writes.append _ _ _ _ ih (isDigit_digit (Nat.mod_lt n (show 0 < 10 by decide)))
    rwa [Nat.div_add_mod] at hn

theorem Numeral.denotes_text (n : Int64) : Denotes (text n).toList n.toInt := by
  unfold text
  rw [String.toList_ofList]
  split
  · rename_i h
    have hn := Denotes.negative _ _ (writes_digits n.toInt.natAbs)
    rwa [show (-(n.toInt.natAbs : Int)) = n.toInt by omega] at hn
  · rename_i h
    have hn := Denotes.decimal _ _ (writes_digits n.toInt.natAbs)
    rwa [show (n.toInt.natAbs : Int) = n.toInt by omega] at hn

/-! ### Reading -/

/-- A word that only a numeral can be: no string, no name of a value, no double. -/
structure IsPlain (cs : List Char) : Prop where
  head : ∃ c rest, cs = c :: rest ∧ c ∈ "-0123456789".toList
  chars : ∀ c ∈ cs, c ∈ numeralChars

theorem Denotes.isPlain (h : Denotes cs i) : IsPlain cs := by
  have hchars {radix n} {cs : List Char} (hcs : Writes radix cs n) : ∀ c ∈ cs, c ∈ numeralChars :=
    fun c hc => (hcs.forall_isDigit c hc).elim fun _ => IsDigit.mem_numeralChars
  cases h with
  | decimal cs n hcs =>
    obtain ⟨c, rest, rfl⟩ := List.exists_cons_of_ne_nil hcs.ne_nil
    obtain ⟨d, hd⟩ := hcs.forall_isDigit c List.mem_cons_self
    exact ⟨⟨c, rest, rfl, List.mem_cons_of_mem '-' hd.mem_decimal⟩, hchars hcs⟩
  | negative cs n hcs =>
    exact ⟨⟨_, _, rfl, by decide⟩, List.forall_mem_cons.2 ⟨by decide, hchars hcs⟩⟩
  | hexadecimal mark cs n hmark hcs =>
    have hmark : mark ∈ numeralChars := by
      rcases hmark with rfl | rfl <;> decide
    exact ⟨⟨_, _, rfl, by decide⟩,
      List.forall_mem_cons.2 ⟨by decide, List.forall_mem_cons.2 ⟨hmark, hchars hcs⟩⟩⟩

/-- **A numeral is read as its integer**, if 64 bits hold it. -/
theorem Denotes.readInt?_eq (h : Denotes cs i) : Conversion.readInt? cs = int64? i := by
  unfold Conversion.readInt?
  cases h with
  | decimal cs n hcs =>
    have hdecimal := fun c hc => (hcs.forall_isDigit c hc).elim fun _ => IsDigit.mem_decimal
    have hmark : Numeral.hexDigits? cs = none := by
      unfold Numeral.hexDigits?
      split
      · exact absurd (hdecimal 'x' (by simp)) (by decide)
      · exact absurd (hdecimal 'X' (by simp)) (by decide)
      · rfl
    rw [hmark]
    exact Numeral.read?_eq (hcs.integer?_eq (by decide))
  | negative cs n hcs =>
    have hinteger : Numeral.integer? 10 ('-' :: cs) = some (-n : Int) := by
      rw [Numeral.integer?, hcs.natural?_eq (by decide)]
      rfl
    rw [show Numeral.hexDigits? ('-' :: cs) = none from rfl]
    exact Numeral.read?_eq hinteger
  | hexadecimal mark cs n hmark hcs =>
    have hdigits : Numeral.hexDigits? ('0' :: mark :: cs) = some cs := by
      rcases hmark with rfl | rfl <;> rfl
    rw [hdigits]
    exact Numeral.read?_eq (hcs.integer?_eq (by decide))

theorem IsPlain.ofLiteral_eq (h : IsPlain cs) : Value.ofLiteral (String.ofList cs) =
    ((Conversion.readInt? cs).map Value.int).getD .null := by
  obtain ⟨⟨c, rest, rfl, hc⟩, hchars⟩ := h
  have hquoted : Value.quotedText? (c :: rest) = none := by
    unfold Value.quotedText?
    split
    · rename_i heq
      rw [(List.cons.inj heq).1] at hc
      exact absurd hc (by decide)
    · rfl
  have hnamed : ∀ name ∈ ["true", "false", "null"],
      ¬ (c :: rest).map Char.toLower = name.toList := by
    have hall : "-0123456789".toList.all (fun c => ["true", "false", "null"].all
        (fun name => some c.toLower != name.toList.head?)) = true := by decide
    intro name hname heq
    have hhead := List.all_eq_true.1 (List.all_eq_true.1 hall c hc) name hname
    exact bne_iff_ne.1 hhead (congrArg List.head? heq)
  have hpoint : (c :: rest).contains '.' = false := by
    rw [← Bool.not_eq_true, List.contains_iff_mem]
    exact fun hmem => absurd (hchars '.' hmem) (by decide)
  unfold Value.ofLiteral Conversion.readInt?
  rw [String.toList_ofList]
  simp only [hquoted, hpoint, if_neg (hnamed "true" (by decide)),
    if_neg (hnamed "false" (by decide)), if_neg (hnamed "null" (by decide))]
  cases Numeral.hexDigits? (c :: rest) <;> rfl

theorem IsPlain.trim_eq (h : IsPlain cs) : Blank.trim cs = cs := by
  have hblank : ∀ c ∈ cs, ¬ Blank.isBlank c = true := by
    have hall : numeralChars.all (fun c => !Blank.isBlank c) = true := by decide
    intro c hc
    rw [Bool.not_eq_true, ← Bool.not_eq_true']
    exact List.all_eq_true.1 hall c (h.chars c hc)
  have hdrop : cs.dropWhile Blank.isBlank = cs :=
    List.dropWhile_eq_self_iff.2 fun hl => hblank _ (List.getElem_mem hl)
  have hreverse : cs.reverse.dropWhile Blank.isBlank = cs.reverse :=
    List.dropWhile_eq_self_iff.2 fun hl => hblank _ (List.mem_reverse.1 (List.getElem_mem hl))
  rw [Blank.trim, hdrop, hreverse, List.reverse_reverse]

theorem IsPlain.toInt64_eq (h : IsPlain cs) :
    Converter.standard.toInt64 (.string (String.ofList cs)) =
      match Conversion.readInt? cs with
      | some n => .ok n
      | none => .error (.conversion (quoted (String.ofList cs)) .int) := by
  have hconvert : Converter.standard.convert (.string (String.ofList cs)) .int =
      match Conversion.readInt? cs with
      | some n => .ok (.int n)
      | none => .error (.conversion (quoted (String.ofList cs)) .int) := by
    show Conversion.toInt (.string (String.ofList cs)) = _
    simp only [Conversion.toInt, String.toList_ofList, h.trim_eq]
    cases Conversion.readInt? cs <;> rfl
  rw [Converter.toInt64, hconvert]
  cases Conversion.readInt? cs <;> rfl

/-- Both readers read a word as `n`. -/
def IsReadAs (word : String) (n : Int64) : Prop :=
  Value.ofLiteral word = .int n ∧ Converter.standard.toInt64 (.string word) = .ok n

/-- Both readers refuse a word: one with null, the other with an error that quotes the word. -/
def IsRefused (word : String) : Prop :=
  Value.ofLiteral word = .null ∧
    Converter.standard.toInt64 (.string word) = .error (.conversion (quoted word) .int)

theorem Denotes.isReadAs (h : Denotes cs i) {n : Int64} (hn : n.toInt = i) :
    IsReadAs (String.ofList cs) n := by
  have hread : Conversion.readInt? cs = some n := by
    obtain ⟨m, hm, heq⟩ := int64?_of_fits (hn ▸ fits_toInt n)
    rw [h.readInt?_eq, hm, Int64.toInt_inj.1 (heq.trans hn.symm)]
  unfold IsReadAs
  rw [h.isPlain.ofLiteral_eq, h.isPlain.toInt64_eq, hread]
  exact ⟨rfl, rfl⟩

theorem Denotes.isRefused (h : Denotes cs i) (hi : ¬ Fits i) : IsRefused (String.ofList cs) := by
  unfold IsRefused
  rw [h.isPlain.ofLiteral_eq, h.isPlain.toInt64_eq, h.readInt?_eq, int64?_of_not_fits hi]
  exact ⟨rfl, rfl⟩

/-- **Numerals are read alike.** The text of every integer of 64 bits is a numeral and is read back
by both readers, as is every other numeral of it; and a numeral of an integer that 64 bits do not
hold is refused by both. -/
theorem numerals_read_alike :
    (∀ n : Int64, Denotes (Value.int n).text.toList n.toInt ∧ IsReadAs (Value.int n).text n) ∧
    ∀ (cs : List Char) (i : Int), Denotes cs i →
      (∀ n : Int64, n.toInt = i → IsReadAs (String.ofList cs) n) ∧
      (¬ Fits i → IsRefused (String.ofList cs)) := by
  refine ⟨fun n => ?_, fun cs i h => ⟨fun n hn => h.isReadAs hn, h.isRefused⟩⟩
  have htext : Denotes (Value.int n).text.toList n.toInt := Numeral.denotes_text n
  have hread := htext.isReadAs rfl
  rw [String.ofList_toList] at hread
  exact ⟨htext, hread⟩

end Templating

import Templating.Proofs.Transcription

/-!
# What a cut leaves

Before a marker a policy cuts some of the output off. How much it keeps is told by the text
that has been written behind the byte-order mark, and of two texts one behind the other the
cut goes into the first one only where it keeps nothing of the second.

* `WhitespacePolicy.residue`: what a policy leaves of a text.
* `WhitespacePolicy.residue_append`: of two texts.
* `WhitespacePolicy.spares_iff`: where a cut leaves alone what stood there earlier.
* `WhitespacePolicy.before_apply`: what is left of an output in memory.
-/

namespace Templating

/-! ## Tokens told by one unit -/

namespace TokenTable

/-- Whether a token ends a text can be told from its last unit. -/
def ToldByUnit (t : TokenTable) (unit : Nat) : Prop := ∀ reversed : Bytes,
  t.matchReversed? (reversed.take unit) = none ↔ t.matchReversed? reversed = none

variable {t : TokenTable} {unit : Nat}

/-- So it is where every token ends with one that is no longer than a unit. -/
theorem toldByUnit_of_suffix
    (h : ∀ x ∈ t.entries, ∃ y ∈ t.entries, y.2 <:+ x.2 ∧ y.2.length ≤ unit) :
    t.ToldByUnit unit := by
  intro reversed
  rw [matchReversed?_eq_none, matchReversed?_eq_none]
  constructor
  · intro hnone x hx hp
    obtain ⟨y, hy, hsuffix, hlen⟩ := h x hx
    refine hnone y hy (List.prefix_take_iff.2 ⟨(List.reverse_prefix.2 hsuffix).trans hp, ?_⟩)
    rwa [List.length_reverse]
  · intro hnone x hx hp
    exact hnone x hx (hp.trans (List.take_prefix _ _))

/-- Behind at least one unit of a text it does not matter what the text follows. -/
theorem ToldByUnit.matchReversed?_append (h : t.ToldByUnit unit) {reversed : Bytes}
    (hlen : unit ≤ reversed.length) (more : Bytes) :
    t.matchReversed? (reversed ++ more) = none ↔ t.matchReversed? reversed = none := by
  rw [← h (reversed ++ more), List.take_append_of_le_length hlen, h reversed]

end TokenTable

namespace Glossary

variable (e : Encoding) (v : Variables) (format : String)

theorem toldByUnit_lineEndings : (make e v format).lineEndings.ToldByUnit e.unitWidth := by
  refine TokenTable.toldByUnit_of_suffix ?_
  rw [lineEndings_eq]
  cases e <;> decide

theorem toldByUnit_blanks : (make e v format).blanks.ToldByUnit e.unitWidth :=
  TokenTable.toldByUnit_of_suffix fun x hx =>
    ⟨x, hx, List.suffix_rfl, (length_blanks e v format x hx).le⟩

end Glossary

/-! ## The last end of a token -/

namespace Target

variable {t : TokenTable} {unit : Nat}

/-- How much of a text lies before the last end of a token. -/
def keptBack (t : TokenTable) (unit : Nat) (text : Bytes) : Nat :=
  (lastEnd? t unit text.reverse text.length text.length).elim 0 (·.1)

theorem keptBack_nil : keptBack t unit [] = 0 := rfl

/-- A text that ends with a token, at a whole number of units, is kept as it is. -/
theorem keptBack_of_end {text : Bytes} {b : UInt8} (hunit : unit ∣ (text ++ [b]).length)
    (hm : t.matchReversed? (text ++ [b]).reverse ≠ none) :
    keptBack t unit (text ++ [b]) = (text ++ [b]).length := by
  obtain ⟨length, hlength⟩ := Option.ne_none_iff_exists'.1 hm
  rw [keptBack, lastEnd?_concat, if_pos hunit, hlength]
  rfl

/-- Elsewhere its last byte goes. -/
theorem keptBack_of_not_end {text : Bytes} {b : UInt8}
    (h : unit ∣ (text ++ [b]).length → t.matchReversed? (text ++ [b]).reverse = none) :
    keptBack t unit (text ++ [b]) = keptBack t unit text := by
  have hnone : (if unit ∣ (text ++ [b]).length then t.matchReversed? (text ++ [b]).reverse
      else none) = none := by
    rw [ite_eq_right_iff]
    exact h
  rw [keptBack, lastEnd?_concat, hnone]
  rfl

theorem keptBack_cases (t : TokenTable) (unit : Nat) (text : Bytes) (b : UInt8) :
    (unit ∣ (text ++ [b]).length ∧ t.matchReversed? (text ++ [b]).reverse ≠ none) ∨
      (unit ∣ (text ++ [b]).length → t.matchReversed? (text ++ [b]).reverse = none) := by
  by_cases hunit : unit ∣ (text ++ [b]).length
  · by_cases hm : t.matchReversed? (text ++ [b]).reverse = none
    · exact Or.inr fun _ => hm
    · exact Or.inl ⟨hunit, hm⟩
  · exact Or.inr fun h => absurd h hunit

theorem keptBack_le (text : Bytes) : keptBack t unit text ≤ text.length := by
  induction text using List.reverseRecOn with
  | nil => exact Nat.zero_le _
  | append_singleton text b ih =>
    rcases keptBack_cases t unit text b with ⟨hunit, hm⟩ | h
    · exact (keptBack_of_end hunit hm).le
    · rw [keptBack_of_not_end h, List.length_append]
      exact Nat.le_add_right_of_le ih

theorem dvd_keptBack (text : Bytes) : unit ∣ keptBack t unit text := by
  induction text using List.reverseRecOn with
  | nil => exact Nat.dvd_zero _
  | append_singleton text b ih =>
    rcases keptBack_cases t unit text b with ⟨hunit, hm⟩ | h
    · rwa [keptBack_of_end hunit hm]
    · rwa [keptBack_of_not_end h]

/-- A text that has been cut is kept as it is. -/
theorem keptBack_take (text : Bytes) :
    keptBack t unit (text.take (keptBack t unit text)) = keptBack t unit text := by
  induction text using List.reverseRecOn with
  | nil => rfl
  | append_singleton text b ih =>
    rcases keptBack_cases t unit text b with ⟨hunit, hm⟩ | h
    · rw [keptBack_of_end hunit hm, List.take_length, keptBack_of_end hunit hm]
    · rw [keptBack_of_not_end h, List.take_append_of_le_length (keptBack_le text)]
      exact ih

/-- Behind a whole number of units the last end is looked for in the second text first. -/
theorem keptBack_append (ht : t.ToldByUnit unit) {first : Bytes} (hunit : unit ∣ first.length)
    (second : Bytes) : keptBack t unit (first ++ second) =
      if keptBack t unit second = 0 then keptBack t unit first
      else first.length + keptBack t unit second := by
  induction second using List.reverseRecOn with
  | nil => rw [List.append_nil, keptBack_nil, if_pos rfl]
  | append_singleton second b ih =>
    have hlen : (first ++ second ++ [b]).length = first.length + (second ++ [b]).length := by
      simp only [List.length_append, Nat.add_assoc]
    have hdvd : unit ∣ (first ++ second ++ [b]).length ↔ unit ∣ (second ++ [b]).length := by
      rw [hlen]
      exact Nat.dvd_add_right hunit
    have hpos : 0 < (second ++ [b]).length := by simp
    -- the unit that tells lies in the second text
    have hmatch : unit ∣ (second ++ [b]).length →
        (t.matchReversed? (first ++ second ++ [b]).reverse = none ↔
          t.matchReversed? (second ++ [b]).reverse = none) := by
      intro hb
      have hwide : unit ≤ (second ++ [b]).reverse.length := by
        rw [List.length_reverse]
        exact Nat.le_of_dvd hpos hb
      have happend := ht.matchReversed?_append hwide first.reverse
      rwa [← List.reverse_append, ← List.append_assoc] at happend
    rw [← List.append_assoc]
    rcases keptBack_cases t unit second b with ⟨hb, hm⟩ | h
    · rw [keptBack_of_end hb hm, keptBack_of_end (hdvd.2 hb) (mt (hmatch hb).1 hm),
        if_neg (Nat.ne_of_gt hpos), hlen]
    · rw [keptBack_of_not_end h,
        keptBack_of_not_end fun hb => (hmatch (hdvd.1 hb)).2 (h (hdvd.1 hb)), ih]

/-! ## The tokens at the end -/

/-- How much of a text lies before the tokens that it ends with, if it is made of whole units. -/
def keptTrailing (t : TokenTable) (unit : Nat) (text : Bytes) : Nat :=
  if unit ∣ text.length then (strip t text.length text.reverse).length else text.length

theorem keptTrailing_le (text : Bytes) : keptTrailing t unit text ≤ text.length := by
  rw [keptTrailing]
  split
  · have hle := (strip_suffix t text.length text.reverse).length_le
    rwa [List.length_reverse] at hle
  · exact le_rfl

theorem dvd_strip (h : ∀ x ∈ t.entries, x.2.length = unit) (n : Nat) : ∀ reversed : Bytes,
    unit ∣ reversed.length → unit ∣ (strip t n reversed).length := by
  induction n with
  | zero => exact fun _ hdvd => hdvd
  | succ n ih =>
    intro reversed hdvd
    cases hm : t.matchReversed? reversed with
    | none => rwa [strip_of_none hm]
    | some length =>
      obtain ⟨⟨x, hx, -, rfl⟩, -⟩ := TokenTable.matchReversed?_eq_some.1 hm
      rw [strip_of_match hm]
      refine ih _ ?_
      rw [List.length_drop, h x hx]
      exact Nat.dvd_sub hdvd (Nat.dvd_refl _)

theorem dvd_keptTrailing (h : ∀ x ∈ t.entries, x.2.length = unit) {text : Bytes}
    (hunit : unit ∣ text.length) : unit ∣ keptTrailing t unit text := by
  rw [keptTrailing, if_pos hunit]
  exact dvd_strip h _ _ (by rwa [List.length_reverse])

/-- What is left of a text without the tokens at its end. -/
theorem reverse_take_keptTrailing {text : Bytes} (hunit : unit ∣ text.length) :
    (text.take (keptTrailing t unit text)).reverse = strip t text.length text.reverse := by
  have hdrop := List.suffix_iff_eq_drop.1 (strip_suffix t text.length text.reverse)
  rw [List.length_reverse] at hdrop
  rw [List.reverse_take, keptTrailing, if_pos hunit]
  exact hdrop.symm

theorem keptTrailing_take (ht : t.Measured) (h : ∀ x ∈ t.entries, x.2.length = unit)
    (text : Bytes) :
    keptTrailing t unit (text.take (keptTrailing t unit text)) = keptTrailing t unit text := by
  have hlen : (text.take (keptTrailing t unit text)).length = keptTrailing t unit text :=
    List.length_take_of_le (keptTrailing_le text)
  by_cases hunit : unit ∣ text.length
  · -- nothing is left to be stripped off
    have hstuck := strip_stuck ht text.length text.reverse (List.length_reverse).le
    rw [← reverse_take_keptTrailing hunit] at hstuck
    have hdvd : unit ∣ (text.take (keptTrailing t unit text)).length := by
      rw [hlen]
      exact dvd_keptTrailing h hunit
    conv_lhs => rw [keptTrailing, if_pos hdvd, strip_of_none hstuck, List.length_reverse, hlen]
  · have hall : keptTrailing t unit text = text.length := by rw [keptTrailing, if_neg hunit]
    rw [hall, List.take_length, hall]

/-- Behind a whole number of units the tokens at the end are those of the second text first. -/
theorem keptTrailing_append (ht : t.Measured) (h : ∀ x ∈ t.entries, x.2.length = unit)
    (htold : t.ToldByUnit unit) {first : Bytes} (hunit : unit ∣ first.length) (second : Bytes) :
    keptTrailing t unit (first ++ second) =
      if keptTrailing t unit second = 0 then keptTrailing t unit first
      else first.length + keptTrailing t unit second := by
  have hdvd : unit ∣ (first ++ second).length ↔ unit ∣ second.length := by
    rw [List.length_append]
    exact Nat.dvd_add_right hunit
  by_cases hsecond : unit ∣ second.length
  · have hlen : (second.reverse ++ first.reverse).length ≤ (first ++ second).length := by
      rw [← List.reverse_append, List.length_reverse]
    have hwindow := strip_window ht (TokenTable.decisive_of_length h) second.length
      (first ++ second).length second.length _ hlen
    have hdvdStrip := dvd_strip h second.length second.reverse (by rwa [List.length_reverse])
    have hstuck := strip_stuck ht second.length second.reverse (List.length_reverse).le
    have hreverse : second.reverse.length = second.length := List.length_reverse
    rw [List.take_left' hreverse, List.drop_left' hreverse] at hwindow
    rw [keptTrailing, if_pos (hdvd.2 hsecond), List.reverse_append, hwindow, keptTrailing,
      if_pos hsecond]
    generalize strip t second.length second.reverse = stripped at hdvdStrip hstuck ⊢
    by_cases hnil : stripped = []
    · subst hnil
      rw [if_pos List.length_nil, List.nil_append, keptTrailing, if_pos hunit]
      congr 1
      refine strip_enough ht _ _ _ ?_ (List.length_reverse).le
      rw [List.length_reverse, List.length_append]
      exact Nat.le_add_right _ _
    · have hpos := List.length_pos_iff.2 hnil
      have hmatch := (htold.matchReversed?_append (Nat.le_of_dvd hpos hdvdStrip)
        first.reverse).2 hstuck
      rw [strip_of_none hmatch, if_neg (Nat.ne_of_gt hpos), List.length_append,
        List.length_reverse, Nat.add_comm]
  · have hne : second.length ≠ 0 := fun hzero => hsecond (hzero ▸ Nat.dvd_zero _)
    rw [keptTrailing, if_neg (mt hdvd.1 hsecond), keptTrailing, if_neg hsecond, if_neg hne,
      List.length_append]

end Target

/-! ## Policies -/

/-- A glossary as it is made for a run. -/
def Glossary.Made (g : Glossary) : Prop := ∃ e v format, g = .make e v format

namespace WhitespacePolicy

/-- How many bytes of a text a policy keeps before a marker: those up to the last line ending,
or those before the blanks at the end, or all. -/
def kept (policy : WhitespacePolicy) (g : Glossary) (text : Bytes) : Nat :=
  match policy with
  | keep => text.length
  | wholeLine => Target.keptBack g.lineEndings g.encoding.unitWidth text
  | trim => Target.keptTrailing g.blanks g.encoding.unitWidth text

/-- **What a policy leaves of a text** before a marker. -/
def residue (policy : WhitespacePolicy) (g : Glossary) (text : Bytes) : Bytes :=
  text.take (policy.kept g text)

variable {policy : WhitespacePolicy} {g : Glossary}

theorem kept_le (policy : WhitespacePolicy) (g : Glossary) (text : Bytes) :
    policy.kept g text ≤ text.length := by
  cases policy with
  | keep => exact le_rfl
  | wholeLine => exact Target.keptBack_le text
  | trim => exact Target.keptTrailing_le text

theorem length_residue (policy : WhitespacePolicy) (g : Glossary) (text : Bytes) :
    (policy.residue g text).length = policy.kept g text :=
  List.length_take_of_le (policy.kept_le g text)

theorem residue_prefix (policy : WhitespacePolicy) (g : Glossary) (text : Bytes) :
    policy.residue g text <+: text :=
  List.take_prefix _ _

theorem residue_keep (g : Glossary) (text : Bytes) : keep.residue g text = text :=
  List.take_length

theorem dvd_residue (hg : g.Made) {text : Bytes} (hunit : g.encoding.unitWidth ∣ text.length) :
    g.encoding.unitWidth ∣ (policy.residue g text).length := by
  rw [length_residue]
  obtain ⟨e, v, format, rfl⟩ := hg
  cases policy with
  | keep => exact hunit
  | wholeLine => exact Target.dvd_keptBack text
  | trim => exact Target.dvd_keptTrailing (Glossary.length_blanks e v format) hunit

/-- What a policy has left it leaves again. -/
theorem residue_residue (hg : g.Made) (text : Bytes) :
    policy.residue g (policy.residue g text) = policy.residue g text := by
  have hkept : policy.kept g (policy.residue g text) = policy.kept g text := by
    obtain ⟨e, v, format, rfl⟩ := hg
    cases policy with
    | keep => exact length_residue keep _ text
    | wholeLine => exact Target.keptBack_take text
    | trim =>
      exact Target.keptTrailing_take (Glossary.spells_blanks e v format).measured
        (Glossary.length_blanks e v format) text
  rw [residue, hkept, ← length_residue, List.take_length]

/-- **Of two texts one behind the other**, the first one a whole number of units long, a policy
cuts the first one only if it leaves nothing of the second. -/
theorem residue_append (hg : g.Made) {first : Bytes} (hunit : g.encoding.unitWidth ∣ first.length)
    (second : Bytes) : policy.residue g (first ++ second) =
      if policy.residue g second = [] then policy.residue g first
      else first ++ policy.residue g second := by
  have hkept : policy.kept g (first ++ second) =
      if policy.kept g second = 0 then policy.kept g first
      else first.length + policy.kept g second := by
    obtain ⟨e, v, format, rfl⟩ := hg
    cases policy with
    | keep =>
      show (first ++ second).length =
        if second.length = 0 then first.length else first.length + second.length
      rw [List.length_append]
      split <;> omega
    | wholeLine =>
      exact Target.keptBack_append (Glossary.toldByUnit_lineEndings e v format) hunit _
    | trim =>
      exact Target.keptTrailing_append (Glossary.spells_blanks e v format).measured
        (Glossary.length_blanks e v format) (Glossary.toldByUnit_blanks e v format) hunit _
  have hnil : policy.residue g second = [] ↔ policy.kept g second = 0 := by
    rw [← length_residue, List.length_eq_zero_iff]
  rw [residue, hkept]
  by_cases hzero : policy.kept g second = 0
  · rw [if_pos hzero, if_pos (hnil.2 hzero),
      List.take_append_of_le_length (policy.kept_le g first)]
    rfl
  · rw [if_neg hzero, if_neg (mt hnil.1 hzero), List.take_length_add_append]
    rfl

/-! ### What stood there earlier -/

/-- **A cut spares what stood earlier**, before the text that it is made for. -/
def Spares (policy : WhitespacePolicy) (g : Glossary) (earlier text : Bytes) : Prop :=
  policy.residue g (earlier ++ text) = earlier ++ policy.residue g text

instance (g : Glossary) (earlier text : Bytes) : Decidable (policy.Spares g earlier text) :=
  inferInstanceAs (Decidable (_ = _))

theorem spares_keep (g : Glossary) (earlier text : Bytes) : keep.Spares g earlier text := by
  rw [Spares, residue_keep, residue_keep]

/-- Whole units are spared where some of the text is left, or where they would be left
themselves: by a policy for lines if they end with a line, and by one for blanks if they end
with none. -/
theorem spares_iff (hg : g.Made) {earlier : Bytes} (hunit : g.encoding.unitWidth ∣ earlier.length)
    (text : Bytes) : policy.Spares g earlier text ↔
      policy.residue g text ≠ [] ∨ policy.residue g earlier = earlier := by
  rw [Spares, residue_append hg hunit]
  by_cases hnil : policy.residue g text = []
  · rw [if_pos hnil, hnil, List.append_nil]
    exact (or_iff_right fun hne => hne rfl).symm
  · rw [if_neg hnil]
    exact iff_of_true rfl (Or.inl hnil)

/-! ### Outputs -/

variable {ctx : Context}

/-- **What is left of an output in memory** before a marker: all that lies below the floor, and
the residue of the text above it. -/
theorem before_apply (hg : ctx.glossary.Made) (policy : WhitespacePolicy) (w : Window)
    {below : Bytes} (hbelow : below.length = ctx.floor) (text : Bytes) :
    policy.before ctx (⟨w, .ofBytes (below ++ text)⟩ : Session Memory) =
      .ok () ⟨w, .ofBytes (below ++ policy.residue ctx.glossary text)⟩ := by
  obtain ⟨e, v, format, hg⟩ := hg
  obtain ⟨g, floor⟩ := ctx
  obtain rfl : g = .make e v format := hg
  obtain rfl : below.length = floor := hbelow
  have hfloor : below.length ≤ (below ++ text).length := by simp
  have hunitWidth : (Glossary.make e v format).encoding.unitWidth = e.unitWidth := rfl
  have hlen : (below ++ text).length - below.length = text.length := by
    rw [List.length_append, Nat.add_sub_cancel_left]
  have hreversed : Target.reversedTo (below ++ text) below.length (below ++ text).length =
      text.reverse := by
    rw [Target.reversedTo, List.take_length, List.drop_left]
  cases policy with
  | keep =>
    rw [residue_keep]
    rfl
  | wholeLine =>
    have hcut := Target.cutBackTo_apply e.unitWidth below.length
      (Glossary.spells_lineEndings e v format).measured (.ofBytes (below ++ text)) false
    simp only [Memory.toBytes_ofBytes, hreversed, hlen, Bool.false_eq_true, if_false] at hcut
    simp only [before, Session.cutBackTo, Session.onTarget_apply, hunitWidth, hcut]
    rw [residue, ← List.take_length_add_append, kept, Target.keptBack, hunitWidth]
    cases Target.lastEnd? (Glossary.make e v format).lineEndings e.unitWidth text.reverse
      text.length text.length <;> rfl
  | trim =>
    simp only [before, Session.cutTrailing, Session.onTarget_apply, hunitWidth]
    by_cases hunit : e.unitWidth ∣ text.length
    · have hcut := Target.cutTrailing_apply (Glossary.spells_blanks e v format).measured
        (Glossary.decisive_blanks e v format) (.ofBytes (below ++ text)) hfloor (hlen ▸ hunit)
      simp only [Memory.toBytes_ofBytes, hreversed, hlen] at hcut
      rw [hcut, residue, ← List.take_length_add_append, kept, Target.keptTrailing, hunitWidth,
        if_pos hunit]
    · -- a text that is not made of whole units is left alone
      have hmod : text.length % e.unitWidth ≠ 0 := mt Nat.dvd_of_mod_eq_zero hunit
      have hcut : (Target.cutTrailing (Glossary.make e v format).blanks e.unitWidth below.length :
          EStateM IoError Memory Unit) (.ofBytes (below ++ text)) =
            .ok () (.ofBytes (below ++ text)) := by
        simp only [Target.cutTrailing, bind_apply, Memory.size_apply, Memory.toBytes_ofBytes,
          if_apply, pure_apply, hlen, hmod, ne_eq, not_false_eq_true, or_true, if_true]
      rw [hcut, residue, kept, Target.keptTrailing, hunitWidth, if_neg hunit, List.take_length]

end WhitespacePolicy

end Templating

import Templating.Proofs.Cutting
import Templating.Proofs.Occurrence

/-!
# Tokens at the end of encoded texts

What is cut off an output does not depend on its encoding: looking back stops at whole code
units only, and there a token ends with a character.

* `Target.cutBackTo_text`, `Target.cutTrailing_text`: an output is cut at the same character in
  all encodings.
-/

namespace Templating

namespace TokenTable

/-- A table with the given tokens in an encoding. -/
structure Spells (t : TokenTable) (e : Encoding) (tokens : List String) : Prop where
  entries : t.entries.map (·.2) = tokens.map e.encode
  measured : t.Measured

variable {t : TokenTable} {e : Encoding} {tokens : List String} {cs : List Char}

theorem Spells.matchReversed?_eq (h : t.Spells e tokens) (reversed : Bytes) :
    t.matchReversed? reversed = (tokens.filterMap fun s =>
      if (e.encode s).reverse.isPrefixOf reversed then some (e.encode s).length
      else none).max? := by
  have hmap := congrArg (List.filterMap fun bytes : Bytes =>
    if bytes.reverse.isPrefixOf reversed then some bytes.length else none) h.entries
  rw [List.filterMap_map, List.filterMap_map] at hmap
  exact congrArg List.max? hmap

/-- The token that a text ends with, in all encodings. -/
theorem matchReversed?_text (tokens : List String) (cs : List Char) :
    ∃ word : Option (List Char), (∀ ks ∈ word, ks <:+ cs) ∧
      ∀ (e : Encoding) (t : TokenTable), t.Spells e tokens →
        t.matchReversed? (e.text cs).reverse = word.map fun ks => (e.text ks).length := by
  have hiff : ∀ (e : Encoding) (s : String),
      (e.encode s).reverse.isPrefixOf (e.text cs).reverse = true ↔ s.toList <:+ cs := by
    intro e s
    rw [List.isPrefixOf_iff_prefix, List.reverse_prefix, Encoding.encode_eq_text,
      Encoding.text_suffix_iff]
  cases hmax : (tokens.filterMap fun s =>
      if s.toList.isSuffixOf cs then some s.toList.length else none).max? with
  | none =>
    refine ⟨none, by simp, fun e t ht => ?_⟩
    rw [List.max?_eq_none_iff, List.filterMap_eq_nil_iff] at hmax
    rw [ht.matchReversed?_eq, Option.map_none, List.max?_eq_none_iff, List.filterMap_eq_nil_iff]
    intro s hs
    have hno := hmax s hs
    rw [ite_eq_right_iff, List.isSuffixOf_iff_suffix] at hno
    rw [if_neg]
    intro hp
    cases hno ((hiff e s).1 hp)
  | some n =>
    simp only [List.max?_eq_some_iff, List.mem_filterMap, Option.ite_none_right_eq_some,
      Option.some.injEq, List.isSuffixOf_iff_suffix] at hmax
    obtain ⟨⟨s, hs, hsuffix, rfl⟩, hle⟩ := hmax
    refine ⟨some s.toList, by simpa using hsuffix, fun e t ht => ?_⟩
    rw [ht.matchReversed?_eq, Option.map_some]
    simp only [List.max?_eq_some_iff, List.mem_filterMap, Option.ite_none_right_eq_some,
      Option.some.injEq, hiff]
    refine ⟨⟨s, hs, hsuffix, rfl⟩, ?_⟩
    -- of two ends of one text the one with fewer characters is an end of the other
    rintro _ ⟨s', hs', hsuffix', rfl⟩
    have hchars := hle _ ⟨s', hs', hsuffix', rfl⟩
    rw [Encoding.encode_eq_text]
    exact (e.text_suffix_iff.2 (List.suffix_of_suffix_length_le hsuffix' hsuffix hchars)).length_le

/-- Inside the last character no token ends, at a whole number of units. -/
theorem Spells.matchReversed?_inside (h : t.Spells e tokens) {c : Char} {part : Bytes}
    (hne : part ≠ []) (hpart : part <+: e.text [c]) (hall : part ≠ e.text [c])
    (hunit : e.unitWidth ∣ (e.text cs ++ part).length) :
    t.matchReversed? (e.text cs ++ part).reverse = none := by
  refine matchReversed?_eq_none.2 fun x hx hp => ?_
  obtain ⟨s, -, hs⟩ := List.mem_map.1 (h.entries ▸ List.mem_map_of_mem hx)
  have hks : s.toList ≠ [] := by
    intro hnil
    rw [Encoding.encode_eq_text, hnil] at hs
    exact (h.measured x hx).1 hs.symm
  -- a token that ends here would end a character
  have hprefix : e.text cs ++ part <+: e.text (cs ++ [c]) := by
    rw [Encoding.text_append]
    exact (List.prefix_append_right_inj _).2 hpart
  have hsuffix : e.text s.toList <:+ (e.text (cs ++ [c])).take (e.text cs ++ part).length := by
    rw [← List.prefix_iff_eq_take.1 hprefix, ← Encoding.encode_eq_text, hs]
    exact List.reverse_prefix.1 hp
  obtain ⟨pre, hpre, hlen⟩ := Encoding.boundary_end hks hunit hprefix.length_le hsuffix
  have hpos := List.length_pos_iff.2 hne
  rcases List.prefix_concat_iff.1 hpre with rfl | hpre
  · refine hall (hpart.eq_of_length ?_)
    rw [Encoding.text_append, List.length_append, List.length_append] at hlen
    omega
  · have hle := (e.text_prefix_iff.2 hpre).length_le
    rw [List.length_append] at hlen
    omega

/-- Where all tokens have one length, a token that ends a text is the longest one there. -/
theorem decisive_of_length {n : Nat} (h : ∀ x ∈ t.entries, x.2.length = n) : Target.Decisive t := by
  intro reversed k length hm
  obtain ⟨⟨x, hx, hp, rfl⟩, -⟩ := matchReversed?_eq_some.1 hm
  refine matchReversed?_eq_some.2 ⟨⟨x, hx, hp.trans (List.take_prefix _ _), rfl⟩, fun y hy _ => ?_⟩
  rw [h x hx, h y hy]

end TokenTable

namespace Target

variable {t : TokenTable} {unit : Nat}

/-- The end of a token is looked for at the last byte first. -/
theorem lastEnd?_concat (bytes : Bytes) (b : UInt8) :
    lastEnd? t unit (bytes ++ [b]).reverse (bytes ++ [b]).length (bytes ++ [b]).length =
      match (if unit ∣ (bytes ++ [b]).length then t.matchReversed? (bytes ++ [b]).reverse
        else none) with
      | some length => some ((bytes ++ [b]).length, length)
      | none => lastEnd? t unit bytes.reverse bytes.length bytes.length := by
  have hlen : (bytes ++ [b]).length = bytes.length + 1 := List.length_append
  have hreverse : (bytes ++ [b]).reverse = b :: bytes.reverse := List.reverse_append
  rw [hlen, hreverse, lastEnd?]
  by_cases hdvd : unit ∣ bytes.length + 1
  · rw [if_pos hdvd, if_pos (Nat.mod_eq_zero_of_dvd hdvd)]
    rfl
  · rw [if_neg hdvd, if_neg (mt Nat.dvd_of_mod_eq_zero hdvd)]
    rfl

/-- Bytes at whose ends no token ends are passed. -/
theorem lastEnd?_append {bytes : Bytes} (more : Bytes)
    (h : ∀ part, part ≠ [] → part <+: more → unit ∣ (bytes ++ part).length →
      t.matchReversed? (bytes ++ part).reverse = none) :
    lastEnd? t unit (bytes ++ more).reverse (bytes ++ more).length (bytes ++ more).length =
      lastEnd? t unit bytes.reverse bytes.length bytes.length := by
  induction more using List.reverseRecOn with
  | nil => rw [List.append_nil]
  | append_singleton more b ih =>
    have hnone : (if unit ∣ (bytes ++ (more ++ [b])).length
        then t.matchReversed? (bytes ++ (more ++ [b])).reverse else none) = none := by
      split
      · rename_i hdvd
        exact h (more ++ [b]) (by simp) List.prefix_rfl hdvd
      · rfl
    rw [← List.append_assoc] at hnone ⊢
    rw [lastEnd?_concat, hnone]
    exact ih fun part hne hpart => h part hne (hpart.trans (List.prefix_append _ _))

/-- **The last end of a token** is after the same character in all encodings. -/
theorem lastEnd?_text (tokens : List String) (cs : List Char) :
    ∃ kept, kept <+: cs ∧ ∀ (e : Encoding) (t : TokenTable), t.Spells e tokens →
      (lastEnd? t e.unitWidth (e.text cs).reverse (e.text cs).length (e.text cs).length).elim 0
        (·.1) = (e.text kept).length := by
  induction cs using List.reverseRecOn with
  | nil => exact ⟨[], List.prefix_rfl, fun e t _ => rfl⟩
  | append_singleton cs c ih =>
    obtain ⟨word, hword, hmatch⟩ := TokenTable.matchReversed?_text tokens (cs ++ [c])
    cases word with
    | some ks =>
      refine ⟨cs ++ [c], List.prefix_rfl, fun e t ht => ?_⟩
      have hunit := e.unitWidth_dvd_text (cs ++ [c])
      have hm := hmatch e t ht
      obtain ⟨bytes, b, hbytes⟩ : ∃ bytes b, e.text (cs ++ [c]) = bytes ++ [b] :=
        (List.eq_nil_or_concat' (e.text (cs ++ [c]))).resolve_left
          (Encoding.text_eq_nil.not.2 (by simp))
      rw [hbytes] at hm hunit ⊢
      rw [lastEnd?_concat, if_pos hunit, hm]
      rfl
    | none =>
      -- nothing ends with the last character or inside of it
      obtain ⟨kept, hkept, hlast⟩ := ih
      refine ⟨kept, hkept.trans (List.prefix_append _ _), fun e t ht => ?_⟩
      rw [← hlast e t ht, Encoding.text_append, lastEnd?_append]
      intro part hne hpart hunit
      by_cases hall : part = e.text [c]
      · rw [hall, ← Encoding.text_append]
        exact hmatch e t ht
      · exact ht.matchReversed?_inside hne hpart hall hunit

/-- What is left of a text without the tokens at its end. -/
theorem strip_text (tokens : List String) (n : Nat) : ∀ cs : List Char, cs.length ≤ n →
    ∃ kept, kept <+: cs ∧ ∀ (e : Encoding) (t : TokenTable) (count : Nat), t.Spells e tokens →
      (e.text cs).length ≤ count → strip t count (e.text cs).reverse = (e.text kept).reverse := by
  induction n with
  | zero =>
    intro cs hcs
    obtain rfl : cs = [] := List.length_eq_zero_iff.1 (Nat.le_zero.1 hcs)
    refine ⟨[], List.prefix_rfl, fun e t count ht _ => strip_of_none ?_⟩
    exact strip_stuck ht.measured 0 _ le_rfl
  | succ n ih =>
    intro cs hcs
    obtain ⟨word, hword, hmatch⟩ := TokenTable.matchReversed?_text tokens cs
    cases word with
    | none => exact ⟨cs, List.prefix_rfl, fun e t count ht _ => strip_of_none (hmatch e t ht)⟩
    | some ks =>
      obtain ⟨rest, rfl⟩ := hword ks rfl
      cases ks with
      | nil =>
        -- no table has an empty token
        refine ⟨rest ++ [], List.prefix_rfl, fun e t count ht _ => ?_⟩
        exact absurd (ht.measured.pos_of_match (hmatch e t ht)) (Nat.lt_irrefl _)
      | cons k ks =>
        obtain ⟨kept, hkept, hstrip⟩ := ih rest (by
          rw [List.length_append, List.length_cons] at hcs
          omega)
        refine ⟨kept, hkept.trans (List.prefix_append _ _), fun e t count ht hcount => ?_⟩
        have hm : t.matchReversed? _ = some (e.text (k :: ks)).length := hmatch e t ht
        have hpos := ht.measured.pos_of_match hm
        rw [Encoding.text_append, List.length_append] at hcount
        obtain ⟨count, rfl⟩ : ∃ k, count = k + 1 := ⟨count - 1, by omega⟩
        rw [strip_of_match hm, Encoding.text_append, List.reverse_append, ← List.length_reverse,
          List.drop_left]
        exact hstrip e t count ht (by omega)

/-! ## Outputs -/

theorem reversedTo_append (mark body : Bytes) :
    reversedTo (mark ++ body) mark.length (mark.length + body.length) = body.reverse := by
  rw [reversedTo_above, List.take_length]

theorem take_output (e : Encoding) (mark : Bytes) {kept cs : List Char} (h : kept <+: cs) :
    (mark ++ e.text cs).take (mark.length + (e.text kept).length) = mark ++ e.text kept := by
  obtain ⟨rest, rfl⟩ := h
  rw [Encoding.text_append, ← List.append_assoc, ← List.length_append, List.take_left]

/-- **An output is cut back to the same character in all encodings.** -/
theorem cutBackTo_text (tokens : List String) (cs : List Char) :
    ∃ kept, ∀ (e : Encoding) (t : TokenTable) (mark : Bytes), t.Spells e tokens →
      (cutBackTo t e.unitWidth mark.length false : EStateM IoError Memory Unit)
          (.ofBytes (mark ++ e.text cs)) = .ok () (.ofBytes (mark ++ e.text kept)) := by
  obtain ⟨kept, hkept, hlast⟩ := lastEnd?_text tokens cs
  refine ⟨kept, fun e t mark ht => ?_⟩
  have hcut := cutBackTo_apply e.unitWidth mark.length ht.measured
    (.ofBytes (mark ++ e.text cs)) false
  simp only [Memory.toBytes_ofBytes, List.length_append, reversedTo_append, Nat.add_sub_cancel_left,
    Bool.false_eq_true, if_false] at hcut
  rw [hcut, ← take_output e mark hkept, ← hlast e t ht]
  cases lastEnd? t e.unitWidth (e.text cs).reverse (e.text cs).length (e.text cs).length <;> rfl

/-- **The tokens at the end of an output are the same characters in all encodings.** -/
theorem cutTrailing_text (tokens : List String) (cs : List Char) :
    ∃ kept, ∀ (e : Encoding) (t : TokenTable) (mark : Bytes), t.Spells e tokens → Decisive t →
      (cutTrailing t e.unitWidth mark.length : EStateM IoError Memory Unit)
          (.ofBytes (mark ++ e.text cs)) = .ok () (.ofBytes (mark ++ e.text kept)) := by
  obtain ⟨kept, hkept, hstrip⟩ := strip_text tokens cs.length cs le_rfl
  refine ⟨kept, fun e t mark ht hd => ?_⟩
  have hunit : e.unitWidth ∣ (mark ++ e.text cs).length - mark.length := by
    rw [List.length_append, Nat.add_sub_cancel_left]
    exact e.unitWidth_dvd_text cs
  have hcut := cutTrailing_apply ht.measured hd (.ofBytes (mark ++ e.text cs)) (by simp) hunit
  simp only [Memory.toBytes_ofBytes, List.length_append, reversedTo_append,
    Nat.add_sub_cancel_left, hstrip e t _ ht le_rfl, List.length_reverse] at hcut
  rw [hcut, take_output e mark hkept]

end Target

end Templating

import Templating.Proofs.Units

/-!
# Matching in encoded texts

Tokens are encoded once and then looked for as bytes. This is right because encoding goes along
with concatenation and can be undone, and because an encoded text stands in another one, a whole
number of units after its start, only where it stands in the text.

* `StandsAt`: where bytes stand in other bytes.
* `Encoding.standsAt_text`: the places of an encoded text at whole units.
* `Encoding.encode_matches`: **encoding and matching on bytes**, for every encoding and all texts.
-/

namespace Templating

/-- Bytes stand in a text at an offset. -/
def StandsAt (token text : Bytes) (offset : Nat) : Prop :=
  ∃ before after, text = before ++ token ++ after ∧ before.length = offset

theorem standsAt_iff {token text : Bytes} (hne : token ≠ []) {offset : Nat} :
    StandsAt token text offset ↔ token <+: text.drop offset := by
  constructor
  · rintro ⟨before, after, rfl, rfl⟩
    rw [List.append_assoc, List.drop_left]
    exact List.prefix_append _ _
  · rintro ⟨after, hafter⟩
    have hle : offset ≤ text.length := by
      by_contra hlt
      rw [List.drop_of_length_le (by omega)] at hafter
      exact hne (List.append_eq_nil_iff.1 hafter).1
    refine ⟨text.take offset, after, ?_, List.length_take_of_le hle⟩
    rw [List.append_assoc, hafter, List.take_append_drop]

namespace Encoding

/-- **The places of an encoded text at whole units** are those of the text itself, counted by the
bytes of what comes before it. -/
theorem standsAt_text {e : Encoding} {ks cs : List Char} (hks : ks ≠ []) {offset : Nat} :
    e.unitWidth ∣ offset ∧ StandsAt (e.text ks) (e.text cs) offset ↔
      ∃ pre post, cs = pre ++ ks ++ post ∧ (e.text pre).length = offset := by
  constructor
  · rintro ⟨hdvd, hstands⟩
    obtain ⟨pre, post, rfl, rfl, rest, rfl⟩ :=
      boundary hks hdvd ((standsAt_iff (text_eq_nil.not.2 hks)).1 hstands)
    exact ⟨pre, rest, (List.append_assoc ..).symm, rfl⟩
  · rintro ⟨pre, post, rfl, rfl⟩
    refine ⟨e.unitWidth_dvd_text pre, e.text pre, e.text post, ?_, rfl⟩
    rw [text_append, text_append]

/-- The same for strings. -/
theorem standsAt_encode {e : Encoding} {s t : String} (ht : t ≠ "") {offset : Nat} :
    e.unitWidth ∣ offset ∧ StandsAt (e.encode t) (e.encode s) offset ↔
      ∃ p rest, s = p ++ t ++ rest ∧ (e.encode p).length = offset := by
  have hne : t.toList ≠ [] := String.toList_eq_nil_iff.not.2 ht
  rw [encode_eq_text, encode_eq_text, standsAt_text hne]
  constructor
  · rintro ⟨pre, post, hs, hlength⟩
    refine ⟨String.ofList pre, String.ofList post, ?_, ?_⟩
    · rw [← String.toList_inj, hs, String.toList_append, String.toList_append,
        String.toList_ofList, String.toList_ofList]
    · rw [encode_eq_text, String.toList_ofList, hlength]
  · rintro ⟨p, rest, rfl, hlength⟩
    exact ⟨p.toList, rest.toList, by rw [String.toList_append, String.toList_append], hlength⟩

/-- **Encoding and matching on bytes.** In every encoding, decoding gives an encoded text back,
texts are encoded piece by piece and into whole units, and a text that is not empty stands in
another one, a whole number of units after its start, exactly at the encoded lengths of the
prefixes that it follows. In UTF-8 this is so for every offset. -/
theorem encode_matches (e : Encoding) (s t : String) :
    e.decode (e.encode s) = s ∧
    e.encode (s ++ t) = e.encode s ++ e.encode t ∧
    e.unitWidth ∣ (e.encode s).length ∧
    (t ≠ "" → ∀ offset, e.unitWidth ∣ offset ∧ StandsAt (e.encode t) (e.encode s) offset ↔
      ∃ p rest, s = p ++ t ++ rest ∧ (e.encode p).length = offset) ∧
    (t ≠ "" → ∀ offset, StandsAt (utf8.encode t) (utf8.encode s) offset ↔
      ∃ p rest, s = p ++ t ++ rest ∧ (utf8.encode p).length = offset) := by
  refine ⟨?_, ?_, e.unitWidth_dvd_text s.toList, fun ht offset => standsAt_encode ht,
    fun ht offset => ?_⟩
  · rw [encode_eq_text, decode_text, String.ofList_toList]
  · rw [encode_eq_text, String.toList_append, text_append]
    rfl
  · -- every offset is a whole number of bytes
    rw [← standsAt_encode ht]
    exact (and_iff_right (Nat.one_dvd offset)).symm

/-- In UTF-16, where a character of two units is found behind itself and a character of one. -/
theorem encode_matches_surrogates : "🎉" ≠ "" ∧ 2 ∣ 6 ∧
    StandsAt (utf16le.encode "🎉") (utf16le.encode "🎉a🎉") 6 := by
  have hne : "🎉" ≠ "" := by decide
  have hplaces := (encode_matches utf16le "🎉a🎉" "🎉").2.2.2.1 hne 6
  exact ⟨hne, hplaces.2 ⟨"🎉a", "", by decide, by decide⟩⟩

end Encoding

end Templating

import Templating.Proofs.Units
import Templating.Proofs.Window

/-!
# Tokens in encoded texts

Tokens are looked for byte by byte. What a table answers before a character does not
depend on the encoding (`TokenTable.match?_text`), but a search also looks between
characters, and between the units of a character. It finds nothing there if the tokens
stand at whole units only, which is what `Encoding.Aligned` asks for.

* `Encoding.Aligned`: no token stands off the units of a text.
* `TokenTable.search_text`: then a search ends at one place in all encodings.
* `TokenTable.dropTokens_text`: a passage over tokens always does.
-/

namespace Templating

theorem toList_eq_nil {t : String} : t.toList = [] ↔ t = "" := String.toList_eq_nil_iff

namespace Encoding

/-- **Tokens at whole units.** Wherever one of the tokens stands in the bytes of a text, it
begins a whole number of code units after their start. -/
def Aligned (e : Encoding) (tokens : List String) (cs : List Char) : Prop :=
  ∀ t ∈ tokens, t ≠ "" → ∀ p, e.encode t <+: (e.text cs).drop p → e.unitWidth ∣ p

variable {e : Encoding} {tokens : List String} {cs : List Char}

/-- No token begins at the end of a text or after it. -/
theorem aligned_iff : e.Aligned tokens cs ↔ ∀ t ∈ tokens, t ≠ "" → ∀ p < (e.text cs).length,
    e.encode t <+: (e.text cs).drop p → e.unitWidth ∣ p := by
  refine ⟨fun h t ht hne p _ => h t ht hne p, fun h t ht hne p hp => ?_⟩
  refine h t ht hne p (lt_of_not_ge fun hge => hne ?_) hp
  rw [List.drop_of_length_le hge, List.prefix_nil, encode_eq_text, text_eq_nil] at hp
  exact toList_eq_nil.1 hp

instance : Decidable (e.Aligned tokens cs) := decidable_of_iff' _ aligned_iff

/-- In UTF-8 every byte is a unit. -/
theorem aligned_utf8 (tokens : List String) (cs : List Char) : utf8.Aligned tokens cs :=
  fun _ _ _ _ _ => Nat.one_dvd _

theorem Aligned.mono (h : e.Aligned tokens cs) {some : List String} (hsub : some ⊆ tokens) :
    e.Aligned some cs := fun t ht => h t (hsub ht)

theorem Aligned.suffix (h : e.Aligned tokens cs) {ds : List Char} (hds : ds <:+ cs) :
    e.Aligned tokens ds := by
  obtain ⟨pre, rfl⟩ := hds
  intro t ht hne p hp
  have hdrop : (e.text (pre ++ ds)).drop ((e.text pre).length + p) = (e.text ds).drop p := by
    rw [text_append, List.drop_length_add_append]
  have hdvd := h t ht hne ((e.text pre).length + p) (hdrop ▸ hp)
  exact (Nat.dvd_add_right (e.unitWidth_dvd_text pre)).1 hdvd

/-- After the first byte of a character no token begins before the next character. -/
theorem Aligned.not_prefix {c : Char} (h : e.Aligned tokens (c :: cs)) {t : String}
    (ht : t ∈ tokens) (hne : t ≠ "") {skipped inside : Bytes} (hskipped : skipped ≠ [])
    (hinside : inside ≠ []) (hsplit : e.encodeChar c = skipped ++ inside) :
    ¬ e.encode t <+: inside ++ e.text cs := by
  intro hp
  have hdrop : (e.text (c :: cs)).drop skipped.length = inside ++ e.text cs := by
    rw [text_cons, hsplit, List.append_assoc, List.drop_left]
  have hks : t.toList ≠ [] := fun hnil => hne (toList_eq_nil.1 hnil)
  rw [← hdrop] at hp
  obtain ⟨pre, post, hcs, hlen, -⟩ := boundary hks (h t ht hne _ hp) hp
  -- the token begins after the first character or at it, but not inside of it
  cases pre with
  | nil =>
    rw [text_nil, List.length_nil, List.length_eq_zero_iff] at hlen
    exact hskipped hlen
  | cons d pre =>
    obtain ⟨rfl, -⟩ := List.cons.inj (hcs.trans (List.cons_append ..))
    have hpos := List.length_pos_iff.2 hinside
    rw [text_cons, List.length_append, hsplit, List.length_append] at hlen
    omega

end Encoding

/-! ## Matches -/

/-- **The token that a text begins with**, by its characters: the longest one, with its
number. -/
def wordAt? (tokens : List String) (cs : List Char) : Option (List Char × Nat) :=
  longestMatch? (tokens.map String.toList).zipIdx cs

theorem wordAt?_spec {tokens : List String} {cs ks : List Char} {index : Nat}
    (h : wordAt? tokens cs = some (ks, index)) : ks ≠ [] ∧ ks <+: cs :=
  ⟨(longestMatch?_spec h).2.1, (longestMatch?_spec h).2.2.1⟩

/-- The longest match in a text is that of its characters. -/
theorem longestMatch?_text {β : Type} (e : Encoding) (entries : List (List Char × β))
    (cs : List Char) :
    longestMatch? (entries.map fun x => (e.text x.1, x.2)) (e.text cs) =
      (longestMatch? entries cs).map fun x => (e.text x.1, x.2) := by
  refine longestMatch?_map e.text (fun _ _ => not_congr Encoding.text_eq_nil)
    (fun _ _ => e.text_prefix_iff) fun k k' hk hk' => ?_
  constructor
  · intro hle
    exact (e.text_prefix_iff.1 (List.prefix_of_prefix_length_le (e.text_prefix_iff.2 hk)
      (e.text_prefix_iff.2 hk') hle)).length_le
  · intro hle
    exact (e.text_prefix_iff.2 (List.prefix_of_prefix_length_le hk hk' hle)).length_le

namespace TokenTable

/-- The table of some tokens in an encoding. -/
def words (e : Encoding) (tokens : List String) : TokenTable := ofList (tokens.map e.encode)

variable (tokens : List String)

theorem lawful_words (e : Encoding) : (words e tokens).Lawful := lawful_ofList _

/-- **Before a character** a table answers alike in all encodings. -/
theorem match?_text (e : Encoding) (cs : List Char) :
    (words e tokens).match? (e.text cs) =
      (wordAt? tokens cs).map fun k => (k.2, (e.text k.1).length) := by
  have hentries : (tokens.map e.encode).zipIdx =
      ((tokens.map String.toList).zipIdx).map fun x => (e.text x.1, x.2) := by
    rw [List.zipIdx_map, List.zipIdx_map, List.map_map]
    rfl
  rw [words, match?_ofList, hentries, longestMatch?_text, Option.map_map]
  rfl

/-- Where no token begins a table answers nothing. -/
theorem match?_eq_none {e : Encoding} {bytes : Bytes}
    (h : ∀ t ∈ tokens, t ≠ "" → ¬ e.encode t <+: bytes) : (words e tokens).match? bytes = none := by
  rw [words, match?_ofList, longestMatch?_eq_none.2, Option.map_none]
  intro x hx hne
  obtain ⟨t, ht, htoken⟩ := List.mem_map.1 (List.fst_mem_of_mem_zipIdx hx)
  rw [← htoken] at hne ⊢
  refine h t ht ?_
  rintro rfl
  exact hne rfl

variable {tokens}

/-- What a table finds at a unit of the first character it finds at the beginning. -/
theorem match?_units {e : Encoding} {c : Char} {u : Nat} {us : List Nat}
    (hsuffix : u :: us <:+ e.units c) (cs : List Char) {found : Nat × Nat}
    (hfound : (words e tokens).match? (e.unitBytes u ++ (us.flatMap e.unitBytes ++ e.text cs)) =
      some found) : (words e tokens).match? (e.text (c :: cs)) = some found := by
  rw [← List.append_assoc, ← List.flatMap_cons] at hfound
  by_cases hall : u :: us = e.units c
  · rwa [hall, ← Encoding.encodeChar_eq_units, ← Encoding.text_cons] at hfound
  · rw [match?_eq_none] at hfound
    · cases hfound
    · intro t _ hne
      exact Encoding.not_prefix_inside (List.cons_ne_nil _ _) hsuffix hall
        (fun hnil => hne (toList_eq_nil.1 hnil)) _

/-- A search passes bytes at which no token begins. -/
theorem find_append {t : TokenTable} {rest : Bytes} : ∀ {skipped : Bytes},
    (∀ inside, inside ≠ [] → inside <:+ skipped → t.match? (inside ++ rest) = none) →
      t.find (skipped ++ rest) = t.find rest
  | [], _ => rfl
  | b :: skipped, h => by
    have hfirst : t.match? (b :: (skipped ++ rest)) = none :=
      h (b :: skipped) (List.cons_ne_nil _ _) List.suffix_rfl
    rw [List.cons_append, find_of_no_match hfirst]
    exact find_append fun inside hne hsuffix => h inside hne (hsuffix.trans (List.suffix_cons _ _))

/-- A character at which no token begins is passed as a whole. -/
theorem find_cons {e : Encoding} {c : Char} {cs : List Char} (h : e.Aligned tokens (c :: cs))
    (hnone : wordAt? tokens (c :: cs) = none) :
    (words e tokens).find (e.text (c :: cs)) = (words e tokens).find (e.text cs) := by
  refine find_append fun inside hne hsuffix => ?_
  obtain ⟨skipped, hsplit⟩ := hsuffix
  by_cases hskipped : skipped = []
  · have hfirst := match?_text tokens e (c :: cs)
    rw [hnone] at hfirst
    rw [hskipped, List.nil_append] at hsplit
    rw [hsplit]
    exact hfirst
  · exact match?_eq_none tokens fun t ht ht' => h.not_prefix ht ht' hskipped hne hsplit.symm

/-- **A search ends at one place in all encodings** in which the tokens stand at whole units. -/
theorem search_text (tokens : List String) (cs : List Char) :
    ∃ (found : Option Nat) (ds : List Char), ds <:+ cs ∧
      ∀ e : Encoding, e.Aligned tokens cs →
        ((words e tokens).find (e.text cs)).1.map (·.1) = found ∧
          (words e tokens).remainder true (e.text cs) = e.text ds := by
  induction cs with
  | nil => exact ⟨none, [], List.suffix_rfl, fun _ _ => ⟨rfl, rfl⟩⟩
  | cons c cs ih =>
    cases hword : wordAt? tokens (c :: cs) with
    | none =>
      -- all encodings pass the character, each byte by byte
      obtain ⟨found, ds, hds, hsearch⟩ := ih
      refine ⟨found, ds, hds.trans (List.suffix_cons _ _), fun e h => ?_⟩
      rw [remainder, find_cons h hword]
      exact hsearch e (h.suffix (List.suffix_cons _ _))
    | some word =>
      obtain ⟨ks, index⟩ := word
      obtain ⟨hne, post, hpost⟩ := wordAt?_spec hword
      refine ⟨some index, post, ⟨ks, hpost⟩, fun e _ => ?_⟩
      have hmatch := match?_text tokens e (c :: cs)
      rw [hword, Option.map_some] at hmatch
      rw [remainder, find_of_match (lawful_words tokens e) hmatch]
      refine ⟨rfl, ?_⟩
      simp only [if_true]
      rw [← hpost, Encoding.text_append, List.drop_left]

/-- **A passage over tokens ends at one place in all encodings.** -/
theorem dropTokens_text (tokens : List String) (n : Nat) :
    ∀ cs : List Char, cs.length ≤ n → ∃ ds, ds <:+ cs ∧
      ∀ (e : Encoding) (count : Nat), (e.text cs).length ≤ count →
        (words e tokens).dropTokens count (e.text cs) = e.text ds := by
  induction n with
  | zero =>
    intro cs hcs
    obtain rfl : cs = [] := List.length_eq_zero_iff.1 (Nat.le_zero.1 hcs)
    refine ⟨[], List.suffix_rfl, fun e count _ => ?_⟩
    cases count with
    | zero => rfl
    | succ count =>
      rw [dropTokens, Encoding.text_nil, (lawful_words tokens e).match?_nil]
  | succ n ih =>
    intro cs hcs
    cases hword : wordAt? tokens cs with
    | none =>
      refine ⟨cs, List.suffix_rfl, fun e count _ => ?_⟩
      cases count with
      | zero => rfl
      | succ count => rw [dropTokens, match?_text, hword, Option.map_none]
    | some word =>
      obtain ⟨ks, index⟩ := word
      obtain ⟨hne, post, rfl⟩ := wordAt?_spec hword
      have hpos := List.length_pos_iff.2 hne
      obtain ⟨ds, hds, hdrop⟩ := ih post (by rw [List.length_append] at hcs; omega)
      refine ⟨ds, hds.trans (List.suffix_append _ _), fun e count hcount => ?_⟩
      have hshort := e.length_text_lt hne post
      obtain ⟨count, rfl⟩ : ∃ k, count = k + 1 := ⟨count - 1, by omega⟩
      rw [dropTokens, match?_text, hword, Option.map_some]
      simp only
      rw [Encoding.text_append, List.drop_left]
      exact hdrop e count (by omega)

end TokenTable

end Templating

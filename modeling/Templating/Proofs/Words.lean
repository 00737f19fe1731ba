import Templating.Condition
import Templating.Proofs.Lexing

/-!
# Symbols, names and bare words

Which token a condition goes on with, in either dialect, where the names of the variables are
words. A symbol is found unless the next character makes a longer one; a name is found as far as
the word goes; and a bare word is read as one literal unless a whole name stands at its
beginning.

* `Dialect.wordAt?_symbol`, `Dialect.wordAt?_name`: the token at a symbol and at a name.
* `Dialect.bare_of_lexemes`: what is known of a word that is read as one literal.
* `Dialect.reads_bare`: such a word is read so wherever it stands.
-/

namespace Templating

open Lexicon (isWordUnit wordBegins Reads Progress)

theorem Variables.nodup_freshKeys (seen keys : List String) :
    (freshKeys seen keys).Nodup ∧ ∀ key ∈ freshKeys seen keys, key ∉ seen := by
  induction keys generalizing seen with
  | nil => exact ⟨List.nodup_nil, fun _ h => absurd h List.not_mem_nil⟩
  | cons key keys ih =>
    unfold freshKeys
    split
    · exact ih seen
    · rename_i hkey
      obtain ⟨hnodup, hfresh⟩ := ih (key :: seen)
      refine ⟨List.nodup_cons.2 ⟨fun hmem => hfresh key hmem List.mem_cons_self, hnodup⟩, ?_⟩
      intro other hother
      rcases List.mem_cons.1 hother with rfl | hother
      · exact hkey
      · exact fun hseen => hfresh other hother (List.mem_cons_of_mem _ hseen)

/-- Every visible name is listed once. -/
theorem Variables.nodup_keys (v : Variables) : v.keys.Nodup := (nodup_freshKeys [] _).1

/-! ## Tokens at the beginning of a text -/

theorem mem_zipIdx_words {tokens : List String} {ks : List Char} {i : Nat} :
    (ks, i) ∈ (tokens.map String.toList).zipIdx ↔ ∃ t, tokens[i]? = some t ∧ t.toList = ks := by
  rw [List.mk_mem_zipIdx_iff_getElem?, List.getElem?_map, Option.map_eq_some_iff]

/-- **The token at the beginning of a text**, if no longer one and no other number of it is
there. -/
theorem wordAt?_eq {tokens : List String} {t : String} {cs : List Char} {i : Nat}
    (ht : tokens[i]? = some t) (hne : t ≠ "") (hpre : t.toList <+: cs)
    (hmax : ∀ t' ∈ tokens, t'.toList <+: cs → t'.toList.length ≤ t.toList.length)
    (honly : ∀ j, tokens[j]? = some t → j = i) : wordAt? tokens cs = some (t.toList, i) := by
  have hmem : (t.toList, i) ∈ (tokens.map String.toList).zipIdx := mem_zipIdx_words.2 ⟨t, ht, rfl⟩
  have hne' : t.toList ≠ [] := fun hnil => hne (toList_eq_nil.1 hnil)
  unfold wordAt?
  cases hm : longestMatch? (tokens.map String.toList).zipIdx cs with
  | none => exact absurd hpre (longestMatch?_eq_none.1 hm _ hmem hne')
  | some found =>
    obtain ⟨ks, j⟩ := found
    obtain ⟨hmem', -, hpre', hmax'⟩ := longestMatch?_spec hm
    obtain ⟨t', ht', rfl⟩ := mem_zipIdx_words.1 hmem'
    have hlen : t'.toList.length ≤ t.toList.length := hmax t' (List.mem_of_getElem? ht') hpre'
    have hlen' : t.toList.length ≤ t'.toList.length := hmax' _ hmem hne' hpre
    have hsame : t'.toList = t.toList :=
      (List.prefix_of_prefix_length_le hpre' hpre hlen).eq_of_length (Nat.le_antisymm hlen hlen')
    obtain rfl := String.toList_injective hsame
    rw [honly j ht']

theorem wordAt?_getElem? {tokens : List String} {cs ks : List Char} {i : Nat}
    (h : wordAt? tokens cs = some (ks, i)) : ∃ t, tokens[i]? = some t ∧ t.toList = ks :=
  mem_zipIdx_words.1 (longestMatch?_spec h).1

theorem Lexicon.Progress.mem_close {p : Progress} {lexeme : Lexeme} (e : Encoding)
    (h : lexeme ∈ p.lexemes) : lexeme ∈ (p.close e).lexemes := by
  unfold close
  split
  · exact h
  · exact List.mem_cons_of_mem _ h

/-! ## Words -/

-- By the list: there is also an instance that tries every character there is.
instance decidableForallMemChars (cs : List Char) (p : Char → Prop) [DecidablePred p] :
    Decidable (∀ c ∈ cs, p c) :=
  List.decidableBAll p cs

/-- A name made of letters, digits and `_`, and of what is not ASCII. -/
def IsWord (name : String) : Prop := name ≠ "" ∧ ∀ c ∈ name.toList, isWordUnit c.toNat = true

instance (name : String) : Decidable (IsWord name) :=
  inferInstanceAs (Decidable (name ≠ "" ∧ ∀ c ∈ name.toList, isWordUnit c.toNat = true))

/-- An ASCII letter or digit, `_` or `.`. -/
def isBareChar (c : Char) : Bool := c.isAlphanum || c == '_' || c == '.'

/-- What no symbol begins with: the characters of words, and `.`. -/
def isSolid (c : Char) : Bool := isWordUnit c.toNat || c == '.'

theorem isSolid_of_bare {c : Char} (h : isBareChar c = true) : isSolid c = true := by
  unfold isBareChar at h
  unfold isSolid isWordUnit
  rw [Char.ofNat_toNat]
  rcases Bool.or_eq_true_iff.1 h with h | h
  · rcases Bool.or_eq_true_iff.1 h with h | h <;> simp [h]
  · simp [h]

theorem wordBegins_append {cs post : List Char} (h : wordBegins post = false) :
    wordBegins (cs ++ post) = wordBegins cs := by
  cases cs with
  | nil => exact h
  | cons c cs => rfl

/-- A word that a text begins with does not go beyond the end of a word in it. -/
theorem prefix_of_wordBegins {ks cs post : List Char} (hks : ∀ c ∈ ks, isWordUnit c.toNat = true)
    (hpre : ks <+: cs ++ post) (hpost : wordBegins post = false) : ks <+: cs := by
  rcases Nat.le_total ks.length cs.length with hle | hle
  · exact List.prefix_of_prefix_length_le hpre (List.prefix_append _ _) hle
  · obtain ⟨more, rfl⟩ := List.prefix_of_prefix_length_le (List.prefix_append cs post) hpre hle
    cases more with
    | nil => rw [List.append_nil]
    | cons c more =>
      -- the word would go on with the first character after that end
      obtain ⟨rest, hrest⟩ := (List.prefix_append_right_inj cs).1 hpre
      have hc : isWordUnit c.toNat = true := hks c (by simp)
      rw [← hrest] at hpost
      have hcontra : isWordUnit c.toNat = false := hpost
      rw [hc] at hcontra
      cases hcontra

namespace Dialect

variable {d : Dialect} {v : Variables}

/-! ## The lexicon of a dialect -/

/-- The lexicon for a condition that is a text of its own. -/
def lexicon (d : Dialect) (v : Variables) : Lexicon :=
  d.vocabulary.lexicon (.make .utf8 v (String.ofList placeholder)) []

/-- **The lexemes of a condition** that is a text of its own. -/
def lexemes (d : Dialect) (condition : String) (v : Variables) : Except Error (List Lexeme) :=
  match (d.lexicon v).tokenize.run (Slice.ofBytes (Encoding.utf8.encode condition)) with
  | .ok lexemes _ => pure lexemes
  | .error e _ => throw e

/-- The tokens of conditions: the symbols, and then the names of the variables. -/
def tokens (d : Dialect) (v : Variables) : List String :=
  d.vocabulary.symbols.map (·.text) ++ v.keys

/-- The number of a symbol by its text. -/
def number (d : Dialect) (text : String) : Nat := (d.vocabulary.symbols.map (·.text)).idxOf text

/-- The characters with which a longer symbol goes on after a text. -/
def extenders (d : Dialect) (text : String) : List Char :=
  d.vocabulary.symbols.filterMap fun s =>
    if text.toList <+: s.text.toList then (s.text.toList.drop text.toList.length).head? else none

theorem table_lexicon : (d.lexicon v).table = .words .utf8 (d.tokens v) := by
  have htable := Evaluator.table_lexicon d v (String.ofList placeholder) .standard [] .utf8
  rw [List.append_nil] at htable
  exact htable

theorem roles_lexicon : (d.lexicon v).roles = d.vocabulary.symbols.map (·.use.role) := by
  simp [lexicon, Vocabulary.lexicon, Lexicon.make]

theorem classify_symbol {i : Nat} {s : Symbol} (h : d.vocabulary.symbols[i]? = some s) :
    (d.lexicon v).classify i = .symbol i s.use.role := by
  have hrole : (d.lexicon v).roles[i]? = some s.use.role := by
    rw [roles_lexicon, List.getElem?_map, h, Option.map_some]
  simp only [Lexicon.classify, hrole]

theorem classify_name {i : Nat} (h : i < v.keys.length) :
    (d.lexicon v).classify (d.vocabulary.symbols.length + i) = .reference i := by
  have hnames : (d.lexicon v).names = v.keys := Glossary.names_slots .utf8 v _
  have hlength : (d.lexicon v).roles.length = d.vocabulary.symbols.length := by
    rw [roles_lexicon, List.length_map]
  have hrole : (d.lexicon v).roles[d.vocabulary.symbols.length + i]? = none := by
    rw [List.getElem?_eq_none_iff, hlength]
    exact Nat.le_add_right _ _
  simp only [Lexicon.classify, hrole, hlength, hnames, Nat.add_lt_add_iff_left, h, if_true,
    Nat.add_sub_cancel_left]

theorem tokens_symbol {i : Nat} {s : Symbol} (h : d.vocabulary.symbols[i]? = some s) :
    (d.tokens v)[i]? = some s.text := by
  have hlt : i < (d.vocabulary.symbols.map (·.text)).length := by
    rw [List.length_map]
    exact (List.getElem?_eq_some_iff.1 h).1
  rw [tokens, List.getElem?_append_left hlt, List.getElem?_map, h, Option.map_some]

/-- A token is a symbol or a name. -/
theorem tokens_cases {i : Nat} {t : String} (h : (d.tokens v)[i]? = some t) :
    (∃ s, d.vocabulary.symbols[i]? = some s ∧ s.text = t) ∨
      ∃ j, i = d.vocabulary.symbols.length + j ∧ v.keys[j]? = some t := by
  unfold tokens at h
  rw [List.getElem?_append, List.length_map] at h
  split at h
  · left
    rwa [List.getElem?_map, Option.map_eq_some_iff] at h
  · right
    exact ⟨i - d.vocabulary.symbols.length, by omega, h⟩

theorem tokens_name (i : Nat) : (d.tokens v)[d.vocabulary.symbols.length + i]? = v.keys[i]? := by
  rw [tokens, List.getElem?_append_right (by rw [List.length_map]; exact Nat.le_add_right _ _),
    List.length_map, Nat.add_sub_cancel_left]

theorem mem_tokens {t : String} (h : t ∈ d.tokens v) :
    (∃ s ∈ d.vocabulary.symbols, s.text = t) ∨ t ∈ v.keys := by
  rcases List.mem_append.1 h with h | h
  · exact .inl (List.mem_map.1 h)
  · exact .inr h

/-- **No symbol is empty** or begins with a character of a word. -/
theorem head_symbol {s : Symbol} (hs : s ∈ d.vocabulary.symbols) :
    ∃ c cs, s.text.toList = c :: cs ∧ isSolid c = false := by
  have hhead : ∀ s ∈ d.vocabulary.symbols, (s.text.toList.head?).any fun c => !isSolid c := by
    cases d <;> decide
  have hs' := hhead s hs
  cases htext : s.text.toList with
  | nil =>
    rw [htext] at hs'
    cases hs'
  | cons c cs =>
    rw [htext] at hs'
    exact ⟨c, cs, rfl, by simpa using hs'⟩

theorem nodup_symbols : (d.vocabulary.symbols.map (·.text)).Nodup := by cases d <;> decide

section

variable (hv : ∀ name ∈ v.keys, IsWord name)

include hv

/-- A name that a text begins with begins with a character of a word. -/
theorem head_name {name : String} (hname : name ∈ v.keys) {cs : List Char}
    (hpre : name.toList <+: cs) : ∃ c cs', cs = c :: cs' ∧ isSolid c = true := by
  obtain ⟨hne, hchars⟩ := hv name hname
  cases htext : name.toList with
  | nil => exact absurd (toList_eq_nil.1 htext) hne
  | cons c ks =>
    obtain ⟨rest, rfl⟩ := hpre
    refine ⟨c, ks ++ rest, by rw [htext]; rfl, ?_⟩
    unfold isSolid
    rw [hchars c (by rw [htext]; exact List.mem_cons_self), Bool.true_or]

/-- A text that begins with a symbol does not begin with a name. -/
theorem not_name_of_symbol {s : Symbol} (hs : s ∈ d.vocabulary.symbols) {name : String}
    (hname : name ∈ v.keys) (post : List Char) : ¬ name.toList <+: s.text.toList ++ post := by
  intro hpre
  obtain ⟨c, cs, htext, hc⟩ := head_symbol hs
  obtain ⟨c', cs', heq, hc'⟩ := head_name hv hname hpre
  rw [htext, List.cons_append, List.cons.injEq] at heq
  rw [← heq.1, hc] at hc'
  cases hc'

/-- **A symbol is found** where the next character makes no longer one of it. -/
theorem wordAt?_symbol {s : Symbol} (hs : s ∈ d.vocabulary.symbols) (post : List Char)
    (hpost : ∀ c ∈ post.head?, c ∉ d.extenders s.text) :
    wordAt? (d.tokens v) (s.text.toList ++ post) = some (s.text.toList, d.number s.text) ∧
      ∃ s', d.vocabulary.symbols[d.number s.text]? = some s' ∧ s'.text = s.text := by
  have hmem : s.text ∈ d.vocabulary.symbols.map (·.text) := List.mem_map_of_mem hs
  have hat : (d.vocabulary.symbols.map (·.text))[d.number s.text]? = some s.text := by
    rw [number, List.getElem?_eq_getElem (List.idxOf_lt_length_of_mem hmem), List.getElem_idxOf]
  have hlt : d.number s.text < (d.vocabulary.symbols.map (·.text)).length :=
    List.idxOf_lt_length_of_mem hmem
  refine ⟨wordAt?_eq ?_ ?_ (List.prefix_append _ _) ?_ ?_, ?_⟩
  · rw [tokens, List.getElem?_append_left hlt]
    exact hat
  · intro hempty
    obtain ⟨c, cs, htext, -⟩ := head_symbol hs
    rw [hempty] at htext
    cases htext
  · intro t ht hpre
    rcases mem_tokens ht with ⟨s', hs', rfl⟩ | hname
    · by_contra hlonger
      -- a longer symbol would go on with the next character
      obtain ⟨more, hmore⟩ := List.prefix_of_prefix_length_le
        (List.prefix_append s.text.toList post) hpre (by omega)
      cases more with
      | nil =>
        rw [← hmore, List.append_nil] at hlonger
        exact hlonger le_rfl
      | cons c more =>
        obtain ⟨rest, hrest⟩ := hpre
        rw [← hmore, List.append_assoc, List.append_cancel_left_eq] at hrest
        refine hpost c (by rw [← hrest]; rfl) (List.mem_filterMap.2 ⟨s', hs', ?_⟩)
        rw [if_pos ⟨_, hmore⟩, ← hmore, List.drop_left]
        rfl
    · exact absurd hpre (not_name_of_symbol hv hs hname post)
  · intro j hj
    rcases tokens_cases hj with ⟨s', hs', htext⟩ | ⟨k, -, hk⟩
    · have hj' : (d.vocabulary.symbols.map (·.text))[j]? = some s.text := by
        rw [List.getElem?_map, hs', Option.map_some, htext]
      obtain ⟨hjlt, hjtext⟩ := List.getElem?_eq_some_iff.1 hj'
      rw [number, ← hjtext, nodup_symbols.idxOf_getElem]
    · exact absurd (List.prefix_append _ [])
        (not_name_of_symbol hv hs (List.mem_of_getElem? hk) [])
  · rw [List.getElem?_map, Option.map_eq_some_iff] at hat
    exact hat

/-- **A name is found** as far as the word goes. -/
theorem wordAt?_name {name : String} (hname : name ∈ v.keys) {post : List Char}
    (hpost : wordBegins post = false) : wordAt? (d.tokens v) (name.toList ++ post) =
      some (name.toList, d.vocabulary.symbols.length + v.keys.idxOf name) := by
  have hlt := List.idxOf_lt_length_of_mem hname
  refine wordAt?_eq ?_ (hv name hname).1 (List.prefix_append _ _) ?_ ?_
  · rw [tokens_name, List.getElem?_eq_getElem hlt, List.getElem_idxOf]
  · intro t ht hpre
    rcases mem_tokens ht with ⟨s, hs, rfl⟩ | ht
    · obtain ⟨rest, hrest⟩ := hpre
      exact absurd (hrest ▸ List.prefix_append _ _) (not_name_of_symbol hv hs hname rest)
    · exact (prefix_of_wordBegins (hv t ht).2 hpre hpost).length_le
  · intro j hj
    rcases tokens_cases hj with ⟨s, hs, rfl⟩ | ⟨k, rfl, hk⟩
    · have hself := not_name_of_symbol hv (List.mem_of_getElem? hs) hname []
      rw [List.append_nil] at hself
      exact absurd (List.prefix_refl _) hself
    · obtain ⟨hklt, hkname⟩ := List.getElem?_eq_some_iff.1 hk
      rw [← hkname, v.nodup_keys.idxOf_getElem]

/-! ## Bare words -/

/-- **In a bare word** the same tokens are found as in the word alone. -/
theorem wordAt?_append {w post : List Char} (hw : ∀ c ∈ w, isBareChar c = true) (hne : w ≠ [])
    (hpost : wordBegins post = false) :
    wordAt? (d.tokens v) (w ++ post) = wordAt? (d.tokens v) w := by
  obtain ⟨c, w, rfl⟩ := List.exists_cons_of_ne_nil hne
  have hsolid := isSolid_of_bare (hw c List.mem_cons_self)
  -- no symbol begins with a character of a bare word
  have hsymbol : ∀ s ∈ d.vocabulary.symbols, ∀ cs, ¬ s.text.toList <+: c :: cs := by
    intro s hs cs hpre
    obtain ⟨c', cs', htext, hc'⟩ := head_symbol hs
    rw [htext, List.cons_prefix_cons] at hpre
    rw [hpre.1, hsolid] at hc'
    cases hc'
  refine longestMatch?_congr fun e he _ => ?_
  obtain ⟨t, ht, htext⟩ := List.mem_map.1 (List.fst_mem_of_mem_zipIdx he)
  rw [← htext]
  rcases mem_tokens ht with ⟨s, hs, rfl⟩ | hname
  · exact iff_of_false (hsymbol s hs _) (hsymbol s hs _)
  · exact ⟨fun hpre => prefix_of_wordBegins (hv t hname).2 hpre hpost,
      fun hpre => hpre.trans (List.prefix_append _ _)⟩

omit hv in
/-- What is found in a bare word is a name. -/
theorem classify_bare {w ks : List Char} {i : Nat} (hw : ∀ c ∈ w, isBareChar c = true)
    (h : wordAt? (d.tokens v) w = some (ks, i)) : ∃ name ∈ v.keys, name.toList = ks ∧
      ∃ slot, (d.lexicon v).classify i = .reference slot := by
  obtain ⟨t, ht, rfl⟩ := wordAt?_getElem? h
  obtain ⟨hne, rest, rfl⟩ := wordAt?_spec h
  rcases tokens_cases ht with ⟨s, hs, rfl⟩ | ⟨j, rfl, hj⟩
  · obtain ⟨c, cs, htext, hc⟩ := head_symbol (List.mem_of_getElem? hs)
    have hmem : c ∈ s.text.toList ++ rest := by
      rw [htext]
      exact List.mem_cons_self
    rw [isSolid_of_bare (hw c hmem)] at hc
    cases hc
  · exact ⟨t, List.mem_of_getElem? hj, rfl, j, classify_name (List.getElem?_eq_some_iff.1 hj).1⟩

omit hv in
/-- A name in a bare word is a reference where a whole word begins and ends, and else text. -/
theorem stepped?_bare {w ks : List Char} {i : Nat} (hw : ∀ c ∈ w, isBareChar c = true)
    (h : wordAt? (d.tokens v) w = some (ks, i)) (p : Progress) (post : List Char) :
    ∃ slot, (d.lexicon v).stepped? p i ks post =
      if p.literal.isEmpty && !wordBegins post then some (p.push (.reference slot))
      else some (p.extend (Encoding.utf8.text ks)) := by
  obtain ⟨-, -, -, slot, hslot⟩ := classify_bare hw h
  refine ⟨slot, ?_⟩
  simp only [Lexicon.stepped?, hslot]
  rfl

/-- **After its beginning a bare word is text**, with all names in it. -/
theorem reads_on {post : List Char} (hpost : wordBegins post = false) {p' : Progress} (n : Nat) :
    ∀ (w : List Char) (p : Progress), w.length ≤ n → (∀ c ∈ w, isBareChar c = true) →
      p.literal ≠ [] →
      (d.lexicon v).Reads (d.tokens v) (p.extend (Encoding.utf8.text w)) post p' →
      (d.lexicon v).Reads (d.tokens v) p (w ++ post) p' := by
  induction n with
  | zero =>
    intro w p hn _ _ hrest
    obtain rfl := List.length_eq_zero_iff.1 (Nat.le_zero.1 hn)
    exact hrest
  | succ n ih =>
    intro w p hn hw hliteral hrest
    cases w with
    | nil => exact hrest
    | cons c w =>
      have hkept : ∀ bytes, (p.extend bytes).literal ≠ [] := fun bytes hnil =>
        hliteral (List.append_eq_nil_iff.1 hnil).2
      have hword := wordAt?_append (d := d) hv hw (List.cons_ne_nil c w) hpost
      cases hm : wordAt? (d.tokens v) (c :: w) with
      | none =>
        rw [hm] at hword
        refine .char hword (ih w _ (Nat.le_of_succ_le_succ hn)
          (fun c' hc' => hw c' (List.mem_cons_of_mem c hc')) (hkept _) ?_)
        rw [Encoding.text_cons, ← Progress.extend_append] at hrest
        exact hrest
      | some found =>
        obtain ⟨ks, i⟩ := found
        obtain ⟨hne, more, hmore⟩ := wordAt?_spec hm
        obtain ⟨slot, hstepped⟩ := stepped?_bare hw hm p (more ++ post)
        have hpos := List.length_pos_iff.2 hne
        have hlength : ks.length + more.length = (c :: w).length := by
          rw [← hmore, List.length_append]
        have hliteral' : p.literal.isEmpty = false := List.isEmpty_eq_false_iff.2 hliteral
        rw [hliteral', Bool.false_and, if_neg Bool.false_ne_true] at hstepped
        rw [hm, ← hmore, List.append_assoc] at hword
        rw [← hmore, List.append_assoc]
        refine .token hword hstepped (ih more _ (by omega) ?_ (hkept _) ?_)
        · exact fun c' hc' => hw c' (hmore ▸ List.mem_append_right ks hc')
        · rw [← hmore, Encoding.text_append, ← Progress.extend_append] at hrest
          exact hrest

omit hv in
/-- A bare word can be read, whatever has been read before. -/
theorem exists_reads_bare (n : Nat) : ∀ (w : List Char) (p : Progress), w.length ≤ n →
    (∀ c ∈ w, isBareChar c = true) → ∃ p', (d.lexicon v).Reads (d.tokens v) p w p' ∧
      p.lexemes <:+ p'.lexemes := by
  induction n with
  | zero =>
    intro w p hn _
    obtain rfl := List.length_eq_zero_iff.1 (Nat.le_zero.1 hn)
    exact ⟨p, .done, List.suffix_refl _⟩
  | succ n ih =>
    intro w p hn hw
    cases w with
    | nil => exact ⟨p, .done, List.suffix_refl _⟩
    | cons c w =>
      cases hm : wordAt? (d.tokens v) (c :: w) with
      | none =>
        obtain ⟨p', hreads, hkept⟩ := ih w (p.extend (Encoding.utf8.encodeChar c))
          (Nat.le_of_succ_le_succ hn) fun c' hc' => hw c' (List.mem_cons_of_mem c hc')
        exact ⟨p', .char hm hreads, hkept⟩
      | some found =>
        obtain ⟨ks, i⟩ := found
        obtain ⟨hne, more, hmore⟩ := wordAt?_spec hm
        obtain ⟨slot, hstepped⟩ := stepped?_bare hw hm p more
        have hpos := List.length_pos_iff.2 hne
        have hlength : ks.length + more.length = (c :: w).length := by
          rw [← hmore, List.length_append]
        have hmore' : ∀ c' ∈ more, isBareChar c' = true := fun c' hc' =>
          hw c' (hmore ▸ List.mem_append_right ks hc')
        rw [← hmore] at hm ⊢
        split at hstepped
        · obtain ⟨p', hreads, hkept⟩ := ih more (p.push (.reference slot)) (by omega) hmore'
          exact ⟨p', .token hm hstepped hreads, (List.suffix_cons _ _).trans hkept⟩
        · obtain ⟨p', hreads, hkept⟩ := ih more (p.extend (Encoding.utf8.text ks)) (by omega) hmore'
          exact ⟨p', .token hm hstepped hreads, hkept⟩

/-- **A bare word**: no visible name stands at its beginning as a whole word. -/
def Bare (v : Variables) (w : List Char) : Prop :=
  w ≠ [] ∧ ∀ name ∈ v.keys, name.toList <+: w → wordBegins (w.drop name.toList.length) = true

/-- **A word that is read as one literal**, in either dialect, is a bare word. -/
theorem bare_of_lexemes {w : String} (hw : ∀ c ∈ w.toList, isBareChar c = true)
    (h : d.lexemes w v = .ok [.literal w]) : Bare v w.toList := by
  -- what the word is read as, by its characters
  have hread : ∀ p', (d.lexicon v).Reads (d.tokens v) Progress.start w.toList p' →
      (p'.close .utf8).lexemes.reverse = [.literal w] := by
    intro p' hreads
    obtain ⟨s', htokenize⟩ := hreads.tokenize_eq table_lexicon
    unfold lexemes EStateM.run at h
    have hrun : (d.lexicon v).tokenize (Slice.ofBytes (Encoding.utf8.encode w)) =
        .ok (p'.close .utf8).lexemes.reverse s' := htokenize
    rw [hrun] at h
    exact Except.ok.inj h
  constructor
  · intro hnil
    rw [hnil] at hread
    cases hread _ .done
  · intro name hname hpre
    by_contra hends
    rw [Bool.not_eq_true] at hends
    have hne : name.toList ≠ [] := fun hnil => (hv name hname).1 (toList_eq_nil.1 hnil)
    obtain ⟨i, hi⟩ := List.mem_iff_getElem?.1 hname
    cases hm : wordAt? (d.tokens v) w.toList with
    | none =>
      refine longestMatch?_eq_none.1 hm (name.toList, d.vocabulary.symbols.length + i) ?_ hne hpre
      exact mem_zipIdx_words.2 ⟨name, (tokens_name i).trans hi, rfl⟩
    | some found =>
      obtain ⟨ks, j⟩ := found
      obtain ⟨-, more, hmore⟩ := wordAt?_spec hm
      obtain ⟨slot, hstepped⟩ := stepped?_bare hw hm Progress.start more
      -- the longest name ends where the word ends
      have hmore' : wordBegins more = false := by
        have hlong : name.toList.length ≤ ks.length := (longestMatch?_spec hm).2.2.2
          (name.toList, d.vocabulary.symbols.length + i) (mem_zipIdx_words.2 ⟨name, by
            rw [tokens_name, hi], rfl⟩) hne hpre
        obtain ⟨x, rfl⟩ := List.prefix_of_prefix_length_le hpre ⟨more, hmore⟩ hlong
        rw [← hmore, List.append_assoc, List.drop_left] at hends
        cases x with
        | nil => exact hends
        | cons c x =>
          obtain ⟨name', hname', htext, -⟩ := classify_bare hw hm
          have hc : isWordUnit c.toNat = true := (hv name' hname').2 c (by simp [htext])
          have hcontra : isWordUnit c.toNat = false := hends
          rw [hc] at hcontra
          cases hcontra
      have hempty : Progress.start.literal.isEmpty = true := rfl
      rw [hempty, hmore', Bool.true_and, Bool.not_false, if_pos rfl] at hstepped
      obtain ⟨p', hreads, more', hkept⟩ := exists_reads_bare (d := d) (v := v) more.length more
        (Progress.start.push (.reference slot)) le_rfl
        fun c hc => hw c (hmore ▸ List.mem_append_right ks hc)
      rw [← hmore] at hm hread
      have hlexemes := hread p' (.token hm hstepped hreads)
      have hmem : Lexeme.reference slot ∈ p'.lexemes :=
        hkept ▸ List.mem_append_right _ (by simp [Progress.push])
      have hclosed := List.mem_reverse.2 (Progress.mem_close .utf8 hmem)
      rw [hlexemes] at hclosed
      cases List.mem_singleton.1 hclosed

/-- **A bare word is read as one literal** wherever it stands, unless a word goes on after it. -/
theorem reads_bare {w post : List Char} (hw : ∀ c ∈ w, isBareChar c = true) (h : Bare v w)
    (hpost : wordBegins post = false) {p p' : Progress}
    (hrest : (d.lexicon v).Reads (d.tokens v) (p.extend (Encoding.utf8.text w)) post p') :
    (d.lexicon v).Reads (d.tokens v) p (w ++ post) p' := by
  obtain ⟨c, w, rfl⟩ := List.exists_cons_of_ne_nil h.1
  have hword := wordAt?_append (d := d) hv hw (List.cons_ne_nil c w) hpost
  cases hm : wordAt? (d.tokens v) (c :: w) with
  | none =>
    rw [hm] at hword
    refine .char hword (reads_on hv hpost w.length w _ le_rfl
      (fun c' hc' => hw c' (List.mem_cons_of_mem c hc')) ?_ ?_)
    · exact fun hnil => Encoding.utf8.encodeChar_ne_nil c
        (List.reverse_eq_nil_iff.1 (List.append_eq_nil_iff.1 hnil).1)
    · rw [Encoding.text_cons, ← Progress.extend_append] at hrest
      exact hrest
  | some found =>
    obtain ⟨ks, i⟩ := found
    obtain ⟨hne, more, hmore⟩ := wordAt?_spec hm
    obtain ⟨name, hname, rfl, -⟩ := classify_bare hw hm
    obtain ⟨slot, hstepped⟩ := stepped?_bare hw hm p (more ++ post)
    -- the name at the beginning is no whole word
    have hgoes : wordBegins (more ++ post) = true := by
      rw [wordBegins_append hpost]
      have hdrop := h.2 name hname ⟨more, hmore⟩
      rwa [← hmore, List.drop_left] at hdrop
    rw [hgoes, Bool.not_true, Bool.and_false, if_neg Bool.false_ne_true] at hstepped
    rw [hm, ← hmore, List.append_assoc] at hword
    rw [← hmore, List.append_assoc]
    refine .token hword hstepped (reads_on hv hpost more.length more _ le_rfl ?_ ?_ ?_)
    · exact fun c' hc' => hw c' (hmore ▸ List.mem_append_right _ hc')
    · exact fun hnil => hne (Encoding.text_eq_nil.1
        (List.reverse_eq_nil_iff.1 (List.append_eq_nil_iff.1 hnil).1))
    · rw [← hmore, Encoding.text_append, ← Progress.extend_append] at hrest
      exact hrest

end

end Dialect

end Templating

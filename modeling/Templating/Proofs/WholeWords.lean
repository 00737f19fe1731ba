import Templating.Proofs.Splitting
import Templating.Proofs.Words

/-!
# References are whole words

Where the names of the variables are words and no other token has a character of a word in it, a
word of a condition lies in one piece. It is the name of a variable if it is one as a whole and no
literal goes on into it, and else it is literal text, whatever other names it begins or ends with.

* `Lexicon.Worded`: such tokens, told apart from one another by their characters.
* `Lexicon.Passes.whole`: the pieces of whole characters are whole characters.
* `Lexicon.Passes.undivided`: a word lies in one piece.
* `Lexicon.tokenize_whole_words`: **which words of a condition are references.**
-/

namespace Templating

/-! ## Whole characters in bytes -/

namespace Encoding

variable {e : Encoding} {ks ds : List Char} {junk : Bytes}

/-- What is left behind the first characters of a text, where more follows than was behind it. -/
theorem exists_of_text_append {after : Bytes} (h : e.text ks ++ after = e.text ds ++ junk)
    (hle : junk.length ≤ after.length) : ∃ ds', ds = ks ++ ds' ∧ after = e.text ds' ++ junk := by
  have hlength := congrArg List.length h
  rw [List.length_append, List.length_append] at hlength
  have hpre : e.text ks <+: e.text ds :=
    List.prefix_of_prefix_length_le ⟨after, h⟩ (List.prefix_append _ _) (by omega)
  obtain ⟨ds', rfl⟩ := e.text_prefix_iff.1 hpre
  rw [text_append, List.append_assoc, List.append_cancel_left_eq] at h
  exact ⟨ds', rfl, h⟩

/-- Whole units of a text are characters, where a text stands behind them. -/
theorem exists_text_before {front back : Bytes} (h : front ++ back = e.text ds ++ junk)
    (hle : junk.length ≤ back.length) (hdvd : e.unitWidth ∣ front.length) (hks : ks ≠ [])
    (hback : e.text ks <+: back) : ∃ pre, front = e.text pre := by
  have hlength := congrArg List.length h
  rw [List.length_append, List.length_append] at hlength
  have hfront : front.length ≤ (e.text ds).length := by omega
  have hdrop := congrArg (List.drop front.length) h
  rw [List.drop_left, List.drop_append_of_le_length hfront] at hdrop
  obtain ⟨pre, post, rfl, hpre⟩ := boundary_before hks hdvd hfront (hdrop ▸ hback)
  have htake := congrArg (List.take front.length) h
  rw [List.take_left, List.take_append_of_le_length hfront, hpre, text_append,
    List.take_left] at htake
  exact ⟨pre, htake⟩

end Encoding

namespace Lexicon

open Encoding (exists_of_text_append exists_text_before)

variable {names : List String} {tokens : List (Bytes × TokenClass)} {e : Encoding}

theorem wordNext_text_append (e : Encoding) {ks : List Char} (hks : ks ≠ []) (rest : Bytes) :
    wordNext e (e.text ks ++ rest) = wordBegins ks := by
  obtain ⟨k, ks, rfl⟩ := List.exists_cons_of_ne_nil hks
  exact wordNext_char e k ks rest

/-- No word begins in bytes where none begins in a text, nor behind it. -/
theorem wordNext_append {cs : List Char} (h : wordBegins cs = false) {rest : Bytes}
    (hrest : wordNext e rest = false) : wordNext e (e.text cs ++ rest) = false := by
  by_cases hcs : cs = []
  · subst hcs
    exact hrest
  · rw [wordNext_text_append e hcs, h]

theorem wordBegins_of_word {cs : List Char} (h : ∀ c ∈ cs, isWordUnit c.toNat = true)
    (hne : cs ≠ []) : wordBegins cs = true := by
  obtain ⟨c, cs, rfl⟩ := List.exists_cons_of_ne_nil hne
  exact h c List.mem_cons_self

theorem wordBegins_of_not_word {cs : List Char} (h : ∀ c ∈ cs, isWordUnit c.toNat = false) :
    wordBegins cs = false := by
  cases cs with
  | nil => rfl
  | cons c cs => exact h c List.mem_cons_self

theorem wordBegins_append_of_ne_nil {cs : List Char} (h : cs ≠ []) (ds : List Char) :
    wordBegins (cs ++ ds) = wordBegins cs := by
  obtain ⟨c, cs, rfl⟩ := List.exists_cons_of_ne_nil h
  rfl

/-- Whether a text ends with a word is seen at its last characters. -/
theorem wordBegins_reverse_append (cs : List Char) {ds : List Char} (h : ds ≠ []) :
    wordBegins (cs ++ ds).reverse = wordBegins ds.reverse := by
  rw [List.reverse_append]
  exact wordBegins_append_of_ne_nil (List.reverse_eq_nil_iff.not.2 h) _

theorem wordBegins_reverse_of_word {cs : List Char} (h : ∀ c ∈ cs, isWordUnit c.toNat = true)
    (hne : cs ≠ []) : wordBegins cs.reverse = true :=
  wordBegins_of_word (fun c hc => h c (List.mem_reverse.1 hc)) (List.reverse_eq_nil_iff.not.2 hne)

/-- A word that bytes begin with does not go beyond the end of a word in them. -/
theorem prefix_of_wordNext {ks run : List Char} {rest : Bytes}
    (hks : ∀ c ∈ ks, isWordUnit c.toNat = true) (hpre : e.text ks <+: e.text run ++ rest)
    (hrest : wordNext e rest = false) : ks <+: run := by
  have hrun : e.text run <+: e.text run ++ rest := List.prefix_append _ _
  rcases Nat.le_total (e.text ks).length (e.text run).length with hle | hle
  · exact e.text_prefix_iff.1 (List.prefix_of_prefix_length_le hpre hrun hle)
  · obtain ⟨more, rfl⟩ := e.text_prefix_iff.1 (List.prefix_of_prefix_length_le hrun hpre hle)
    by_cases hmore : more = []
    · rw [hmore, List.append_nil]
    · -- the word would go on with the first character behind that end
      rw [Encoding.text_append, List.prefix_append_right_inj] at hpre
      obtain ⟨tail, rfl⟩ := hpre
      have hword := wordBegins_of_word (fun c hc => hks c (List.mem_append_right run hc)) hmore
      rw [wordNext_text_append e hmore, hword] at hrest
      cases hrest

theorem wordBegins_of_wordNext {cs : List Char} {rest : Bytes}
    (h : wordNext e (e.text cs ++ rest) = false) : wordBegins cs = false := by
  by_cases hcs : cs = []
  · subst hcs
    rfl
  · rwa [wordNext_text_append e hcs] at h

/-- **A word lies before a place or behind it**, if no word goes on there. -/
theorem word_of_append {pre run post ks ds : List Char} (hne : run ≠ [])
    (hrun : ∀ c ∈ run, isWordUnit c.toNat = true)
    (hedge : wordBegins ks.reverse = false ∨ wordBegins ds = false)
    (h : pre ++ (run ++ post) = ks ++ ds) :
    (∃ right, ks = pre ++ (run ++ right) ∧ post = right ++ ds) ∨
      ∃ pre', pre = ks ++ pre' ∧ ds = pre' ++ (run ++ post) := by
  rcases List.append_eq_append_iff.1 h with ⟨front, rfl, hfront⟩ | ⟨pre', rfl, rfl⟩
  · rcases List.append_eq_append_iff.1 hfront with ⟨back, rfl, rfl⟩ | ⟨back, rfl, rfl⟩
    · exact .inl ⟨back, rfl, rfl⟩
    · by_cases hfront : front = []
      · subst hfront
        exact .inr ⟨[], by simp, rfl⟩
      by_cases hback : back = []
      · subst hback
        exact .inl ⟨[], by simp, rfl⟩
      -- the word would go on at the place
      have hends : wordBegins (pre ++ front).reverse = true := by
        rw [wordBegins_reverse_append pre hfront]
        exact wordBegins_reverse_of_word (fun c hc => hrun c (List.mem_append_left _ hc)) hfront
      have hbegins : wordBegins (back ++ post) = true := by
        rw [wordBegins_append_of_ne_nil hback]
        exact wordBegins_of_word (fun c hc => hrun c (List.mem_append_right _ hc)) hback
      rcases hedge with hedge | hedge
      · rw [hends] at hedge
        cases hedge
      · rw [hbegins] at hedge
        cases hedge
  · exact .inr ⟨pre', rfl, rfl⟩

/-! ## Tokens -/

/-- **Tokens that are told apart by their characters**: the names are words, and each belongs to
one variable, and nothing else has a character of a word in it. -/
structure Worded (names : List String) (tokens : List (Bytes × TokenClass)) (e : Encoding) :
    Prop where
  words : ∀ name ∈ names, IsWord name
  nodup : names.Nodup
  reference : ∀ token slot, (token, .reference slot) ∈ tokens ↔
    ∃ name, names[slot]? = some name ∧ e.encode name = token
  other : ∀ token cls, (token, cls) ∈ tokens → (∀ slot, cls ≠ .reference slot) →
    ∃ ks, e.text ks = token ∧ ∀ k ∈ ks, isWordUnit k.toNat = false

theorem worded_entries {symbols : List (String × Role)} {v : Variables} {terminators : List String}
    (hv : ∀ name ∈ v.keys, IsWord name)
    (hsymbols : ∀ s ∈ symbols, ∀ c ∈ s.1.toList, isWordUnit c.toNat = false)
    (hterminators : ∀ t ∈ terminators, ∀ c ∈ t.toList, isWordUnit c.toNat = false)
    (e : Encoding) (format : String) :
    Worded v.keys (entries symbols (.make e v format) terminators) e := by
  have hslots : (Glossary.make e v format).slots = v.keys.map (Glossary.slot e v format) := rfl
  refine ⟨hv, v.nodup_keys, fun token slot => ?_, fun token cls h hcls => ?_⟩
  · simp only [entries, hslots, List.mem_append, List.mem_map, Prod.exists, Prod.mk.injEq,
      List.mk_mem_zipIdx_iff_getElem?, reduceCtorEq, and_false, exists_false, or_false, false_or,
      TokenClass.reference.injEq, List.getElem?_map, Option.map_eq_some_iff]
    constructor
    · rintro ⟨_, _, ⟨name, hname, rfl⟩, rfl, rfl⟩
      exact ⟨name, hname, rfl⟩
    · rintro ⟨name, hname, rfl⟩
      exact ⟨_, slot, ⟨name, hname, rfl⟩, rfl, rfl⟩
  · rcases List.mem_append.1 h with h | h
    · rcases List.mem_append.1 h with h | h
      · obtain ⟨⟨s, i⟩, hs, heq⟩ := List.mem_map.1 h
        exact ⟨s.1.toList, (Prod.mk.inj heq).1, hsymbols s (List.fst_mem_of_mem_zipIdx hs)⟩
      · obtain ⟨⟨s, i⟩, -, heq⟩ := List.mem_map.1 h
        exact absurd (Prod.mk.inj heq).2.symm (hcls i)
    · obtain ⟨t, ht, heq⟩ := List.mem_map.1 h
      exact ⟨t.toList, (Prod.mk.inj heq).1, hterminators t ht⟩

namespace Worded

variable (hw : Worded names tokens e) {bytes token : Bytes} {cls : TokenClass} {slot : Nat}

include hw

/-- A name belongs to one variable. -/
theorem slot_unique {name : String} {i j : Nat} (hi : names[i]? = some name)
    (hj : names[j]? = some name) : i = j :=
  (List.getElem?_inj (List.getElem?_eq_some_iff.1 hi).1 hw.nodup).1 (hi.trans hj.symm)

theorem match_name (h : longestMatch? tokens bytes = some (token, .reference slot)) :
    ∃ name, names[slot]? = some name ∧ e.text name.toList = token :=
  (hw.reference token slot).1 (longestMatch?_spec h).1

theorem match_other (h : longestMatch? tokens bytes = some (token, cls))
    (hcls : ∀ slot, cls ≠ .reference slot) :
    ∃ ks, ks ≠ [] ∧ e.text ks = token ∧ ∀ k ∈ ks, isWordUnit k.toNat = false := by
  obtain ⟨ks, rfl, hks⟩ := hw.other token cls (longestMatch?_spec h).1 hcls
  exact ⟨ks, fun hnil => (longestMatch?_spec h).2.1 (Encoding.text_eq_nil.2 hnil), rfl, hks⟩

/-- Every token is whole characters. -/
theorem match_text (h : longestMatch? tokens bytes = some (token, cls)) :
    ∃ ks, ks ≠ [] ∧ e.text ks = token := by
  cases cls with
  | reference slot =>
    obtain ⟨name, -, rfl⟩ := hw.match_name h
    exact ⟨name.toList, Encoding.text_eq_nil.not.1 (longestMatch?_spec h).2.1, rfl⟩
  | symbol index role =>
    obtain ⟨ks, hne, htoken, -⟩ := hw.match_other h nofun
    exact ⟨ks, hne, htoken⟩
  | terminator =>
    obtain ⟨ks, hne, htoken, -⟩ := hw.match_other h nofun
    exact ⟨ks, hne, htoken⟩

/-- No word begins where a token stands that is no name. -/
theorem wordNext_of_other (h : longestMatch? tokens bytes = some (token, cls))
    (hcls : ∀ slot, cls ≠ .reference slot) : wordNext e bytes = false := by
  obtain ⟨ks, hne, rfl, hks⟩ := hw.match_other h hcls
  obtain ⟨rest, rfl⟩ := (longestMatch?_spec h).2.2.1
  rw [wordNext_text_append e hne, wordBegins_of_not_word hks]

/-- Where a word begins no other token stands than a name. -/
theorem reference_of_wordNext (h : longestMatch? tokens bytes = some (token, cls))
    (hnext : wordNext e bytes = true) : ∃ slot, cls = .reference slot := by
  by_contra hno
  rw [hw.wordNext_of_other h fun slot hcls => hno ⟨slot, hcls⟩] at hnext
  cases hnext

theorem wordNext_of_ended (h : Ended tokens bytes) : wordNext e bytes = false := by
  rcases h with rfl | ⟨token, cls, hmatch, hcls⟩
  · exact wordNext_nil e
  · exact hw.wordNext_of_other hmatch hcls

/-- **A name is found as a whole**, and as one of its variable. -/
theorem match_word {run : List Char} {i : Nat} (hname : names[i]? = some (String.ofList run))
    {rest : Bytes} (hrest : wordNext e rest = false) :
    longestMatch? tokens (e.text run ++ rest) = some (e.text run, .reference i) := by
  have hmem : (e.text run, .reference i) ∈ tokens :=
    (hw.reference _ i).2 ⟨_, hname, by rw [Encoding.encode_eq_text, String.toList_ofList]⟩
  obtain ⟨hne, hrun⟩ := hw.words _ (List.mem_of_getElem? hname)
  rw [String.toList_ofList] at hrun
  have hne' : run ≠ [] := fun hnil => hne (by rw [hnil])
  have htext : e.text run ≠ [] := Encoding.text_eq_nil.not.2 hne'
  have hpre : e.text run <+: e.text run ++ rest := List.prefix_append _ _
  cases hmatch : longestMatch? tokens (e.text run ++ rest) with
  | none => exact absurd hpre (longestMatch?_eq_none.1 hmatch _ hmem htext)
  | some found =>
    obtain ⟨token, cls⟩ := found
    obtain ⟨slot, rfl⟩ := hw.reference_of_wordNext hmatch
      (by rw [wordNext_text_append e hne', wordBegins_of_word hrun hne'])
    obtain ⟨-, -, htoken, hmax⟩ := longestMatch?_spec hmatch
    obtain ⟨name, hslot, rfl⟩ := hw.match_name hmatch
    -- a longer name would go on with a word
    have hword := (hw.words name (List.mem_of_getElem? hslot)).2
    have hshort := e.text_prefix_iff.2 (prefix_of_wordNext hword htoken hrest)
    have hsame : name.toList = run :=
      e.text_injective (hshort.eq_of_length_le (hmax _ hmem htext hpre))
    rw [← hsame, String.ofList_toList] at hname
    rw [hsame, hw.slot_unique hname hslot]

end Worded

/-! ## Pieces of whole characters -/

theorem length_of_take {unit rest : Bytes} (htake : (unit ++ rest).take e.unitWidth = unit)
    (hrest : rest ≠ []) : unit.length = e.unitWidth := by
  have hlength := congrArg List.length htake
  have hpos := List.length_pos_iff.2 hrest
  rw [List.length_take, List.length_append] at hlength
  omega

section

variable (hw : Worded names tokens e)

include hw

/-- Bytes that are read as they stand are whole units, if more comes behind them. -/
theorem Stretch.aligned {begun : Bool} {bytes after : Bytes}
    (h : Stretch tokens e after begun bytes) (hafter : after ≠ []) :
    e.unitWidth ∣ bytes.length := by
  induction h with
  | nil => exact Nat.dvd_zero _
  | unit _ _ htake _ ih =>
    rw [List.length_append, length_of_take htake (List.append_ne_nil_of_right_ne_nil _ hafter)]
    exact Nat.dvd_add (Nat.dvd_refl _) ih
  | word hmatch _ _ ih =>
    obtain ⟨ks, -, rfl⟩ := hw.match_text hmatch
    rw [List.length_append]
    exact Nat.dvd_add (e.unitWidth_dvd_text ks) ih

end

theorem Inside.aligned {quote : Nat} {text after : Bytes} (h : Inside tokens e quote after text)
    (hafter : after ≠ []) : e.unitWidth ∣ text.length := by
  induction h with
  | nil => exact Nat.dvd_zero _
  | unit _ _ _ htake _ ih =>
    rw [List.length_append, length_of_take htake (List.append_ne_nil_of_right_ne_nil _ hafter)]
    exact Nat.dvd_add (Nat.dvd_refl _) ih

section

variable (hw : Worded names tokens e) {piece : Piece} {after junk : Bytes} {ks ds : List Char}

include hw

/-- A piece among whole characters is whole characters. -/
theorem Piece.Stands.exists_text (h : piece.Stands tokens e after)
    (heq : piece.bytes ++ after = e.text ds ++ junk) (hle : junk.length ≤ after.length) :
    ∃ ks, piece.bytes = e.text ks := by
  cases piece with
  | operator index token =>
    obtain ⟨ks, -, htoken⟩ := hw.match_text h
    exact ⟨ks, htoken.symm⟩
  | separator index token =>
    obtain ⟨ks, -, htoken⟩ := hw.match_text h
    exact ⟨ks, htoken.symm⟩
  | name slot key =>
    obtain ⟨ks, -, htoken⟩ := hw.match_text h.1
    exact ⟨ks, htoken.symm⟩
  | quoted index quote text =>
    obtain ⟨hopen, hinside, -⟩ := h
    obtain ⟨ks, hks, rfl⟩ := hw.match_text hopen
    have hquote : e.text ks ≠ [] := Encoding.text_eq_nil.not.2 hks
    -- the text stands before the quote that closes it
    have hrest : e.text ks ++ (text ++ (e.text ks ++ after)) = e.text ds ++ junk := by
      rw [← heq, Piece.bytes, List.append_assoc, List.append_assoc]
    obtain ⟨ds', -, htext⟩ := exists_of_text_append hrest (by
      simp only [List.length_append]
      omega)
    obtain ⟨ts, rfl⟩ := exists_text_before htext (by rw [List.length_append]; omega)
      (hinside.aligned (List.append_ne_nil_of_left_ne_nil hquote _)) hks (List.prefix_append _ _)
    exact ⟨ks ++ (ts ++ ks), by rw [Piece.bytes, Encoding.text_append, Encoding.text_append]⟩
  | literal bytes =>
    obtain ⟨-, hstretch, hended⟩ := h
    rcases hended with rfl | ⟨token, cls, hmatch, -⟩
    · obtain rfl := List.length_eq_zero_iff.1 (Nat.le_zero.1 hle)
      rw [List.append_nil, List.append_nil] at heq
      exact ⟨ds, heq⟩
    · obtain ⟨ks, hks, rfl⟩ := hw.match_text hmatch
      obtain ⟨-, hne, hpre, -⟩ := longestMatch?_spec hmatch
      have hafter : after ≠ [] := fun hnil => hne (List.prefix_nil.1 (hnil ▸ hpre))
      exact exists_text_before heq hle (hstretch.aligned hw hafter) hks hpre

/-- Behind a piece of whole characters more of them follow. -/
theorem Piece.Stands.whole (h : piece.Stands tokens e after)
    (heq : piece.bytes ++ after = e.text ds ++ junk) (hle : junk.length ≤ after.length) :
    ∃ ks ds', ds = ks ++ ds' ∧ piece.bytes = e.text ks ∧ after = e.text ds' ++ junk := by
  obtain ⟨ks, hks⟩ := h.exists_text hw heq hle
  obtain ⟨ds', rfl, hafter⟩ := exists_of_text_append (hks ▸ heq) hle
  exact ⟨ks, ds', rfl, hks, hafter⟩

/-- A text that ends with a token that is no name does not end with a word. -/
theorem Worded.opens_of_suffix {bytes token : Bytes} {cls : TokenClass}
    (h : longestMatch? tokens bytes = some (token, cls)) (hcls : ∀ slot, cls ≠ .reference slot)
    (hsuffix : token <:+ e.text ks) : wordBegins ks.reverse = false := by
  obtain ⟨ts, hne, rfl, hts⟩ := hw.match_other h hcls
  obtain ⟨pre, rfl⟩ := e.text_suffix_iff.1 hsuffix
  rw [wordBegins_reverse_append pre hne]
  exact wordBegins_of_not_word fun k hk => hts k (List.mem_reverse.1 hk)

/-- **No word goes on from a piece into what follows it.** -/
theorem Piece.Stands.edge (h : piece.Stands tokens e after) (hks : piece.bytes = e.text ks) :
    wordBegins ks.reverse = false ∨ wordNext e after = false := by
  cases piece with
  | operator index token => exact .inl (hw.opens_of_suffix h nofun (hks ▸ List.suffix_rfl))
  | separator index token => exact .inl (hw.opens_of_suffix h nofun (hks ▸ List.suffix_rfl))
  | name slot key => exact .inr h.2
  | quoted index quote text =>
    refine .inl (hw.opens_of_suffix h.1 nofun (hks ▸ ?_))
    exact (List.suffix_append text quote).trans (List.suffix_append quote _)
  | literal bytes => exact .inr (hw.wordNext_of_ended h.2.2)

end

/-- **The piece in which a part of a text lies**, at its place before all that follows it. -/
def LiesIn (tokens : List (Bytes × TokenClass)) (e : Encoding) (pieces : List Piece)
    (rest : Bytes) (pre run post : List Char) (piece : Piece) : Prop :=
  ∃ before after left right behind, pieces = before ++ piece :: after ∧ post = right ++ behind ∧
    before.flatMap Piece.bytes ++ e.text left = e.text pre ∧
    piece.bytes = e.text (left ++ (run ++ right)) ∧ piece.Stands tokens e (e.text behind ++ rest)

theorem LiesIn.cons {pieces : List Piece} {rest : Bytes} {pre run post ks : List Char}
    {piece other : Piece} (h : LiesIn tokens e pieces rest pre run post other)
    (hks : piece.bytes = e.text ks) :
    LiesIn tokens e (piece :: pieces) rest (ks ++ pre) run post other := by
  obtain ⟨before, after, left, right, behind, rfl, hpost, hpre, hbytes, hstands⟩ := h
  refine ⟨piece :: before, after, left, right, behind, rfl, hpost, ?_, hbytes, hstands⟩
  rw [List.flatMap_cons, List.append_assoc, hpre, hks, ← Encoding.text_append]

section

variable (hw : Worded names tokens e) {bytes rest junk : Bytes} {pieces : List Piece}

/-- What pieces leave is no more than there was. -/
theorem Passes.length_le (h : Passes tokens e bytes pieces rest) : rest.length ≤ bytes.length := by
  rw [h.eq_append, List.length_append]
  exact Nat.le_add_left _ _

include hw

/-- **The pieces of whole characters** are whole characters. -/
theorem Passes.whole (h : Passes tokens e bytes pieces rest) (hle : junk.length ≤ rest.length) :
    ∀ {ds : List Char}, bytes = e.text ds ++ junk → ∃ cs ds', ds = cs ++ ds' ∧
      pieces.flatMap Piece.bytes = e.text cs ∧ rest = e.text ds' ++ junk := by
  induction h with
  | nil => exact fun h => ⟨[], _, rfl, rfl, h⟩
  | cons hpiece hpasses ih =>
    intro ds heq
    obtain ⟨ks, ds', rfl, hks, hafter⟩ := hpiece.whole hw heq (hle.trans hpasses.length_le)
    obtain ⟨cs, ds'', rfl, hcs, hrest⟩ := ih hle hafter
    refine ⟨ks ++ cs, ds'', (List.append_assoc ..).symm, ?_, hrest⟩
    rw [List.flatMap_cons, hks, hcs, Encoding.text_append]

/-- No word goes on from some pieces into what follows them. -/
theorem Passes.edge (h : Passes tokens e bytes pieces rest) : ∀ {cs : List Char},
    bytes = e.text cs ++ rest → wordBegins cs.reverse = false ∨ wordNext e rest = false := by
  induction h with
  | nil =>
    intro cs heq
    obtain rfl := Encoding.text_eq_nil.1 (List.append_left_eq_self.1 heq.symm)
    exact .inl rfl
  | cons hpiece hpasses ih =>
    intro cs heq
    obtain ⟨ks, ds, rfl, hks, hafter⟩ := hpiece.whole hw heq hpasses.length_le
    by_cases hds : ds = []
    · subst hds
      rw [List.append_nil]
      rw [hafter] at hpiece
      exact hpiece.edge hw hks
    · rw [wordBegins_reverse_append ks hds]
      exact ih hafter

/-- **A word lies in one piece.** -/
theorem Passes.undivided {run : List Char} (hne : run ≠ [])
    (hrun : ∀ c ∈ run, isWordUnit c.toNat = true) (h : Passes tokens e bytes pieces rest) :
    ∀ {pre post : List Char}, bytes = e.text (pre ++ (run ++ post)) ++ rest →
      ∃ piece, LiesIn tokens e pieces rest pre run post piece := by
  induction h with
  | nil =>
    intro pre post heq
    have hnil := Encoding.text_eq_nil.1 (List.append_left_eq_self.1 heq.symm)
    exact absurd (List.append_eq_nil_iff.1 (List.append_eq_nil_iff.1 hnil).2).1 hne
  | @cons piece after rest pieces hpiece hpasses ih =>
    intro pre post heq
    obtain ⟨ks, ds, hsplit, hks, rfl⟩ := hpiece.whole hw heq hpasses.length_le
    have hedge : wordBegins ks.reverse = false ∨ wordBegins ds = false :=
      (hpiece.edge hw hks).imp_right wordBegins_of_wordNext
    rcases word_of_append hne hrun hedge hsplit with ⟨right, rfl, rfl⟩ | ⟨pre', rfl, rfl⟩
    · exact ⟨piece, [], pieces, pre, right, ds, rfl, rfl, rfl, hks, hpiece⟩
    · obtain ⟨other, hother⟩ := ih rfl
      exact ⟨other, hother.cons hks⟩

end

/-! ## Words -/

/-- **A word as a whole**: characters of words, and none right before them or right behind. -/
structure MaximalRun (cs pre run post : List Char) : Prop where
  eq_append : cs = pre ++ (run ++ post)
  ne_nil : run ≠ []
  word : ∀ c ∈ run, isWordUnit c.toNat = true
  opens : wordBegins pre.reverse = false
  closes : wordBegins post = false

/-- A word around a whole word is no longer. -/
theorem MaximalRun.whole {cs pre run left right behind : List Char}
    (h : MaximalRun cs pre run (right ++ behind)) (hleft : left <:+ pre)
    (hword : ∀ c ∈ left ++ (run ++ right), isWordUnit c.toNat = true) : left = [] ∧ right = [] := by
  obtain ⟨pre, rfl⟩ := hleft
  constructor
  · by_contra hne
    have hopens := h.opens
    rw [wordBegins_reverse_append pre hne,
      wordBegins_reverse_of_word (fun c hc => hword c (List.mem_append_left _ hc)) hne] at hopens
    cases hopens
  · by_contra hne
    have hcloses := h.closes
    rw [wordBegins_append_of_ne_nil hne,
      wordBegins_of_word (fun c hc => hword c (by simp [hc])) hne] at hcloses
    cases hcloses

/-- Behind some bytes, others that lie in one piece. -/
def Covers (pieces : List Piece) (front bytes : Bytes) (piece : Piece) : Prop :=
  ∃ before after left right, pieces = before ++ piece :: after ∧
    before.flatMap Piece.bytes ++ left = front ∧ piece.bytes = left ++ (bytes ++ right)

/-- What comes right before a place is literal text. -/
def LiteralBefore (pieces : List Piece) (front : Bytes) : Prop :=
  ∃ front' bytes literal, front' ++ bytes = front ∧ bytes ≠ [] ∧
    Covers pieces front' bytes (.literal literal)

/-- **Pieces that take words as a whole.** A word outside of quotes is a reference exactly if it is
the name of the variable and no literal text comes right before it, and each other one lies in one
literal. And no name is found but as a whole word. -/
structure TakesWords (names : List String) (e : Encoding) (cs : List Char) (pieces : List Piece) :
    Prop where
  reference : ∀ pre run post, MaximalRun cs pre run post →
    (∀ index quote text, ¬ Covers pieces (e.text pre) (e.text run) (.quoted index quote text)) →
    ∀ i, Covers pieces (e.text pre) (e.text run) (.name i (e.text run)) ↔
      names[i]? = some (String.ofList run) ∧ ¬ LiteralBefore pieces (e.text pre)
  literal : ∀ pre run post, MaximalRun cs pre run post →
    (∀ index quote text, ¬ Covers pieces (e.text pre) (e.text run) (.quoted index quote text)) →
    (∀ i, ¬ Covers pieces (e.text pre) (e.text run) (.name i (e.text run))) →
    ∃ left right, Covers pieces (e.text pre) (e.text run)
      (.literal (e.text (left ++ (run ++ right))))
  name : ∀ before i key after, pieces = before ++ .name i key :: after → ∃ pre run post,
    MaximalRun cs pre run post ∧ before.flatMap Piece.bytes = e.text pre ∧ key = e.text run ∧
      names[i]? = some (String.ofList run)

/-- Before a name there is no literal. -/
theorem Passes.not_literalBefore {bytes rest key : Bytes} {before after : List Piece} {i : Nat}
    (h : Passes tokens e bytes (before ++ .name i key :: after) rest) :
    ¬ LiteralBefore (before ++ .name i key :: after) (before.flatMap Piece.bytes) := by
  rintro ⟨-, part, literal, hfront, hpart, before', after', left, right, hsplit, rfl, hbytes⟩
  rcases List.append_eq_append_iff.1 hsplit with ⟨between, rfl, -⟩ | ⟨between, rfl, hbetween⟩
  · -- behind the name there is nothing before it
    rw [List.flatMap_append, List.append_assoc, List.append_assoc,
      List.append_right_eq_self] at hfront
    exact hpart (List.append_eq_nil_iff.1 (List.append_eq_nil_iff.1 hfront).2).2
  cases between with
  | nil => cases hbetween
  | cons piece between =>
    obtain ⟨rfl, rfl⟩ := List.cons_eq_cons.1 hbetween
    rw [List.append_assoc] at h
    obtain ⟨middle, -, hpasses⟩ := h.of_append
    obtain ⟨behind, hended, hpasses⟩ : ∃ behind, Ended tokens behind ∧
        Passes tokens e behind (between ++ .name i key :: after) rest := by
      cases hpasses with
      | cons hpiece hpasses => exact ⟨_, hpiece.2.2, hpasses⟩
    -- the literal goes up to the name
    rw [List.flatMap_append, List.flatMap_cons, List.append_assoc, List.append_cancel_left_eq,
      hbytes, List.append_assoc, List.append_assoc, List.append_cancel_left_eq,
      List.self_eq_append_right, List.append_eq_nil_iff] at hfront
    cases between with
    | nil =>
      cases hpasses with
      | cons hname _ => exact not_ended_of_reference hname.1 hended
    | cons piece between =>
      cases hpasses with
      | cons hpiece _ =>
        rw [List.flatMap_cons, List.append_eq_nil_iff] at hfront
        exact hpiece.bytes_ne_nil hfront.2.1

section

variable (hw : Worded names tokens e) {ds : List Char} {rest : Bytes} {pieces : List Piece}

include hw

/-- **A name is found as a whole word only.** -/
theorem Passes.name_word {before after : List Piece} {i : Nat} {key : Bytes}
    (h : Passes tokens e (e.text ds ++ rest) (before ++ .name i key :: after) rest) :
    ∃ pre run post, MaximalRun ds pre run post ∧ before.flatMap Piece.bytes = e.text pre ∧
      key = e.text run ∧ names[i]? = some (String.ofList run) := by
  obtain ⟨middle, hbefore, hmiddle⟩ := h.of_append
  obtain ⟨pre, ds, rfl, hpre, rfl⟩ := hbefore.whole hw hmiddle.length_le rfl
  obtain ⟨behind, heq, hname, hafter⟩ : ∃ behind, key ++ behind = e.text ds ++ rest ∧
      (Piece.name i key).Stands tokens e behind ∧ Passes tokens e behind after rest := by
    generalize hbytes : e.text ds ++ rest = bytes at hmiddle
    cases hmiddle with
    | cons hname hafter => exact ⟨_, rfl, hname, hafter⟩
  obtain ⟨run, post, rfl, rfl, rfl⟩ := hname.whole hw heq hafter.length_le
  obtain ⟨name, hslot, htext⟩ := hw.match_name hname.1
  obtain rfl := e.text_injective htext
  obtain ⟨hne, hword⟩ := hw.words name (List.mem_of_getElem? hslot)
  have hrun : name.toList ≠ [] := fun hnil => hne (toList_eq_nil.1 hnil)
  refine ⟨pre, name.toList, post, ⟨rfl, hrun, hword, ?_, wordBegins_of_wordNext hname.2⟩, hpre, rfl,
    by rw [hslot, String.ofList_toList]⟩
  -- a word that came before would go on with the name
  refine (hbefore.edge hw ?_).resolve_right fun hnext => ?_
  · rw [Encoding.text_append, List.append_assoc]
  · rw [← heq, wordNext_text_append e hrun, wordBegins_of_word hword hrun] at hnext
    cases hnext

/-- No literal begins with a name that is a whole word. -/
theorem Piece.Stands.not_name {run right : List Char} {after : Bytes}
    (h : (Piece.literal (e.text (run ++ right))).Stands tokens e after)
    (hnext : wordNext e (e.text right ++ after) = false) (i : Nat) :
    names[i]? ≠ some (String.ofList run) := by
  intro hname
  have hmatch := hw.match_word hname hnext
  obtain ⟨hne, hstretch, -⟩ := h
  generalize hbytes : e.text (run ++ right) = bytes at hne hstretch
  rw [Encoding.text_append] at hbytes
  cases hstretch with
  | nil => exact hne rfl
  | unit hnone _ _ _ =>
    rw [← List.append_assoc, hbytes, List.append_assoc, hnone] at hmatch
    cases hmatch
  | word hfound hpart _ =>
    rw [← List.append_assoc, hbytes, List.append_assoc, hfound] at hmatch
    cases hmatch
    rw [List.append_cancel_left_eq] at hbytes
    rcases hpart with hpart | hpart
    · cases hpart
    · rw [← hbytes, hnext] at hpart
      cases hpart

/-- **What becomes of a word**, by the piece in which it lies. -/
theorem LiesIn.word_cases {pre run post : List Char} {piece : Piece}
    (h : LiesIn tokens e pieces rest pre run post piece) (hrun : MaximalRun ds pre run post)
    (hended : Ended tokens rest) :
    (∃ i, names[i]? = some (String.ofList run) ∧
        Covers pieces (e.text pre) (e.text run) (.name i (e.text run))) ∨
      (∃ index quote text, Covers pieces (e.text pre) (e.text run) (.quoted index quote text)) ∨
      ∃ left right, Covers pieces (e.text pre) (e.text run)
          (.literal (e.text (left ++ (run ++ right)))) ∧
        (LiteralBefore pieces (e.text pre) ∨ ∀ i : Nat, names[i]? ≠ some (String.ofList run)) := by
  obtain ⟨before, after, left, right, behind, rfl, rfl, hpre, hbytes, hstands⟩ := h
  have hcovers : ∀ piece', piece' = piece →
      Covers (before ++ piece :: after) (e.text pre) (e.text run) piece' := by
    rintro piece' rfl
    refine ⟨before, after, e.text left, e.text right, rfl, hpre, ?_⟩
    rw [hbytes, Encoding.text_append, Encoding.text_append]
  -- a token that is no name has no character of a word in it
  have hother : ∀ bytes index role,
      longestMatch? tokens bytes ≠ some (piece.bytes, .symbol index role) := by
    intro bytes index role hmatch
    obtain ⟨ks, -, htext, hks⟩ := hw.match_other hmatch nofun
    rw [hbytes] at htext
    obtain rfl := e.text_injective htext
    obtain ⟨c, run, rfl⟩ := List.exists_cons_of_ne_nil hrun.ne_nil
    have hword := hrun.word c List.mem_cons_self
    rw [hks c (by simp)] at hword
    cases hword
  cases piece with
  | operator index token => exact absurd hstands (hother _ _ _)
  | separator index token => exact absurd hstands (hother _ _ _)
  | name i key =>
    obtain ⟨name, hslot, htext⟩ := hw.match_name hstands.1
    have hname : name.toList = left ++ (run ++ right) := e.text_injective (htext.trans hbytes)
    obtain ⟨rfl, rfl⟩ := hrun.whole (e.text_suffix_iff.1 ⟨_, hpre⟩)
      (hname ▸ (hw.words name (List.mem_of_getElem? hslot)).2)
    rw [List.nil_append, List.append_nil] at hname hbytes
    have hkey : key = e.text run := hbytes
    refine .inl ⟨i, by rw [hslot, ← hname, String.ofList_toList], ?_⟩
    exact hcovers _ (by rw [hkey])
  | quoted index quote text => exact .inr (.inl ⟨index, quote, text, hcovers _ rfl⟩)
  | literal bytes =>
    have hliteral : bytes = e.text (left ++ (run ++ right)) := hbytes
    subst hliteral
    refine .inr (.inr ⟨left, right, hcovers _ rfl, ?_⟩)
    by_cases hleft : left = []
    · subst hleft
      rw [List.nil_append] at hstands
      refine .inr (hstands.not_name hw ?_)
      rw [← List.append_assoc, ← Encoding.text_append]
      exact wordNext_append hrun.closes (hw.wordNext_of_ended hended)
    · refine .inl ⟨_, e.text left, _, hpre, Encoding.text_eq_nil.not.2 hleft, before, after, [],
        e.text (run ++ right), rfl, List.append_nil _, ?_⟩
      rw [hbytes, Encoding.text_append, List.nil_append]

/-- **Pieces take words as a whole.** -/
theorem Passes.takesWords (h : Passes tokens e (e.text ds ++ rest) pieces rest)
    (hended : Ended tokens rest) : TakesWords names e ds pieces where
  reference pre run post hrun hquoted i := by
    obtain ⟨piece, hlies⟩ := h.undivided hw hrun.ne_nil hrun.word (by rw [hrun.eq_append])
    constructor
    · rintro ⟨before, after, left, right, rfl, hfront, hkey⟩
      -- the name is all of its piece
      have hlength := congrArg List.length hkey
      simp only [Piece.bytes, List.length_append] at hlength
      obtain rfl := List.length_eq_zero_iff.1 (show left.length = 0 by omega)
      rw [List.append_nil] at hfront
      obtain ⟨-, run', -, -, -, htext, hname⟩ := h.name_word hw
      obtain rfl := e.text_injective htext
      exact ⟨hname, hfront ▸ h.not_literalBefore⟩
    · rintro ⟨hname, hliteral⟩
      obtain ⟨j, hj, hcovers⟩ | ⟨_, _, _, hcovers⟩ | ⟨_, _, -, hbefore | hno⟩ :=
        hlies.word_cases hw hrun hended
      · rwa [hw.slot_unique hj hname] at hcovers
      · exact absurd hcovers (hquoted _ _ _)
      · exact absurd hbefore hliteral
      · exact absurd hname (hno i)
  literal pre run post hrun hquoted hno := by
    obtain ⟨piece, hlies⟩ := h.undivided hw hrun.ne_nil hrun.word (by rw [hrun.eq_append])
    obtain ⟨i, -, hcovers⟩ | ⟨_, _, _, hcovers⟩ | ⟨left, right, hcovers, -⟩ :=
      hlies.word_cases hw hrun hended
    · exact absurd hcovers (hno i)
    · exact absurd hcovers (hquoted _ _ _)
    · exact ⟨left, right, hcovers⟩
  name before i key after hsplit := by
    subst hsplit
    exact h.name_word hw

end

/-- A word of a text does not go on into characters of no word behind it. -/
theorem maximalRun_append {ds ks pre run post : List Char}
    (hks : ∀ k ∈ ks, isWordUnit k.toNat = false) : MaximalRun (ds ++ ks) pre run post ↔
      ∃ post', post = post' ++ ks ∧ MaximalRun ds pre run post' := by
  have hbegins := wordBegins_of_not_word hks
  constructor
  · rintro ⟨heq, hne, hword, hopens, hcloses⟩
    rcases word_of_append hne hword (.inr hbegins) heq.symm with
      ⟨post', rfl, rfl⟩ | ⟨pre', rfl, rfl⟩
    · exact ⟨post', rfl, rfl, hne, hword, hopens, by rwa [wordBegins_append hbegins] at hcloses⟩
    · obtain ⟨c, run, rfl⟩ := List.exists_cons_of_ne_nil hne
      have hc := hword c List.mem_cons_self
      rw [hks c (by simp)] at hc
      cases hc
  · rintro ⟨post', rfl, rfl, hne, hword, hopens, hcloses⟩
    refine ⟨by simp only [List.append_assoc], hne, hword, hopens, ?_⟩
    rwa [wordBegins_append hbegins]

theorem TakesWords.append {ds ks : List Char} {pieces : List Piece}
    (h : TakesWords names e ds pieces) (hks : ∀ k ∈ ks, isWordUnit k.toNat = false) :
    TakesWords names e (ds ++ ks) pieces where
  reference pre run post hrun := by
    obtain ⟨post', -, hrun'⟩ := (maximalRun_append hks).1 hrun
    exact h.reference pre run post' hrun'
  literal pre run post hrun := by
    obtain ⟨post', -, hrun'⟩ := (maximalRun_append hks).1 hrun
    exact h.literal pre run post' hrun'
  name before i key after hsplit := by
    obtain ⟨pre, run, post, hrun, hname⟩ := h.name before i key after hsplit
    exact ⟨pre, run, post ++ ks, (maximalRun_append hks).2 ⟨post, rfl, hrun⟩, hname⟩

theorem Ends.ended {terminator rest : Bytes} (h : Ends tokens terminator rest) :
    Ended tokens (terminator ++ rest) := by
  cases h with
  | input => exact .inl rfl
  | line hline =>
    obtain ⟨token, index, hmatch⟩ := hline
    exact .inr ⟨token, _, hmatch, nofun⟩
  | terminator hmatch => exact .inr ⟨terminator, _, hmatch, nofun⟩

theorem Worded.exists_terminator (hw : Worded names tokens e) {terminator rest : Bytes}
    (h : Ends tokens terminator rest) :
    ∃ ks, terminator = e.text ks ∧ ∀ k ∈ ks, isWordUnit k.toNat = false := by
  cases h with
  | input => exact ⟨[], rfl, nofun⟩
  | line _ => exact ⟨[], rfl, nofun⟩
  | terminator hmatch =>
    obtain ⟨ks, -, htext, hks⟩ := hw.match_other hmatch nofun
    exact ⟨ks, htext.symm, hks⟩

/-- **References are whole words.** Names of variables that are words, symbols and terminators with
no character of a word, and bytes that begin with whole characters, so many that lexing goes no
further: where it succeeds, it has come past characters that are pieces and a terminator, it gives
the lexemes of these pieces, and they take the words among these characters as a whole. -/
theorem tokenize_whole_words {σ : Type} [Scanner σ] {At : σ → Bytes → Prop}
    (hs : Scanner.Shows At) {symbols : List (String × Role)} {v : Variables}
    {terminators : List String} (hv : ∀ name ∈ v.keys, IsWord name)
    (hsymbols : ∀ s ∈ symbols, ∀ c ∈ s.1.toList, isWordUnit c.toNat = false)
    (hterminators : ∀ t ∈ terminators, ∀ c ∈ t.toList, isWordUnit c.toNat = false)
    (e : Encoding) (format : String) {all : List Char} {junk : Bytes} {s s' : σ}
    (hat : At s (e.text all ++ junk)) {lexemes : List Lexeme}
    (h : (make symbols (.make e v format) terminators).tokenize s = .ok lexemes s')
    (hwhole : junk.length ≤ Scanner.remaining s') :
    ∃ pieces terminator cs post, all = cs ++ post ∧ At s' (e.text post ++ junk) ∧
      e.text cs = pieces.flatMap Piece.bytes ++ terminator ∧
      Passes (entries symbols (.make e v format) terminators) e (e.text all ++ junk) pieces
        (terminator ++ (e.text post ++ junk)) ∧
      Ends (entries symbols (.make e v format) terminators) terminator (e.text post ++ junk) ∧
      lexemes = pieces.filterMap (Piece.lexeme? e) ∧ TakesWords v.keys e cs pieces := by
  have hw := worded_entries hv hsymbols hterminators e format
  obtain ⟨pieces, terminator, rest, hpasses, hends, hlexemes, hrest⟩ :=
    of_tokenize_ok hs (answers_make symbols _ terminators) (distinct_entries symbols _ terminators)
      hat h
  have he : (make symbols (.make e v format) terminators).encoding = e := rfl
  rw [he] at hpasses hlexemes
  rw [hs.remaining _ _ hrest] at hwhole
  obtain ⟨ds, ds', rfl, hds, hbehind⟩ := hpasses.whole hw
    (by rw [List.length_append]; omega) rfl
  obtain ⟨ks, rfl, hks⟩ := hw.exists_terminator hends
  obtain ⟨post, rfl, rfl⟩ := exists_of_text_append hbehind hwhole
  refine ⟨pieces, e.text ks, ds ++ ks, post, (List.append_assoc ..).symm, hrest, ?_, hpasses, hends,
    hlexemes, ?_⟩
  · rw [Encoding.text_append, hds]
  · refine TakesWords.append (Passes.takesWords hw ?_ hends.ended) hks
    rwa [Encoding.text_append, List.append_assoc, ← hbehind] at hpasses

/-- The condition `ab==xab abé` and its terminator, with variables `ab`, `a` and `b`: the words
`xab` and `abé` are literals, although one ends with a name and the other one begins with it. -/
theorem tokenize_whole_words_longer :
    let symbols := [("==", Role.operator), (" ", .separator), ("\n", .lineEnd), ("\"", .quote)]
    let v := ((Variables.empty.set "ab" (.bool true)).set "a" (.bool true)).set "b" (.bool true)
    let g := Glossary.make .utf16le v ""
    let source := Encoding.utf16le.encode "ab==xab abé-->\n"
    (∀ name ∈ v.keys, IsWord name) ∧
      (make symbols g ["-->"]).tokenize.run' (Slice.ofBytes source) =
        some [.reference 0, .symbol 0, .literal "xab", .literal "abé"] ∧
      ∃ pieces terminator cs post, "ab==xab abé-->\n".toList = cs ++ post ∧
        Passes (entries symbols g ["-->"]) .utf16le source pieces
          (terminator ++ Encoding.utf16le.text post) ∧
        pieces.filterMap (Piece.lexeme? .utf16le) =
          [.reference 0, .symbol 0, .literal "xab", .literal "abé"] ∧
        TakesWords v.keys .utf16le cs pieces := by
  intro symbols v g source
  have hread : (make symbols g ["-->"]).tokenize.run' (Slice.ofBytes source) =
      some [.reference 0, .symbol 0, .literal "xab", .literal "abé"] := by
    decide +kernel
  refine ⟨by decide, hread, ?_⟩
  unfold EStateM.run' EStateM.run at hread
  cases hresult : (make symbols g ["-->"]).tokenize (Slice.ofBytes source) with
  | error error s =>
    rw [hresult] at hread
    cases hread
  | ok lexemes s =>
    rw [hresult] at hread
    have hat : (Slice.ofBytes source).At
        (Encoding.utf16le.text "ab==xab abé-->\n".toList ++ []) := (List.append_nil _).symm
    obtain ⟨pieces, terminator, cs, post, hcs, -, -, hpasses, -, hlexemes, hwords⟩ :=
      tokenize_whole_words Slice.shows (by decide) (by decide) (by decide) .utf16le "" hat hresult
        (Nat.zero_le _)
    rw [List.append_nil, List.append_nil] at hpasses
    exact ⟨pieces, terminator, cs, post, hcs, hpasses,
      hlexemes.symm.trans (Option.some.inj hread), hwords⟩

end Lexicon

end Templating

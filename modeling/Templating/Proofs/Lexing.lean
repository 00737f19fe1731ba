import Templating.Proofs.Reading

/-!
# The lexemes of a text

What a lexicon makes of a text that is known by its characters, from its beginning to its end.
A derivation of `Lexicon.Reads` goes through the text token by token, and quoted text by quoted
text; the turns of the lexicon do the same unit by unit.

* `Lexicon.gives_readQuoted`: a quoted text is read up to its closing quote.
* `Lexicon.Reads.loop_eq`: the turns end where the derivation ends.
* `Lexicon.Reads.tokenize_eq`: so it tells the lexemes of the text.
-/

namespace Templating

theorem Slice.shows : Scanner.Shows Slice.At where
  peekToken _ rest := gives_peekToken _ rest
  peekByte offset rest := gives_peekByte offset rest
  advance count rest := gives_advance count rest
  remaining := by
    rintro s _ rfl
    exact s.rest.length_eq

namespace Lexicon

variable {σ : Type} [Scanner σ] {At : σ → Bytes → Prop} {lex : Lexicon} {tokens : List String}

open Scanner (Shows)

/-! ## Quoted texts -/

/-- **A quoted text**: no character of it ends it, and then it is closed. -/
structure Quotes (lex : Lexicon) (tokens : List String) (quote : Nat) (q close post : List Char) :
    Prop where
  inside : ∀ c cs, c :: cs <:+ q →
    quotedEnd? lex.roles tokens quote (c :: cs ++ (close ++ post)) = none
  closed : quotedEnd? lex.roles tokens quote (close ++ post) = some (true, post)

section

variable (hs : Shows At) (htable : lex.table = .words lex.encoding tokens)

include hs htable

theorem loop_quoted {quote : Nat} {close post : List Char} : ∀ {q : List Char},
    lex.Quotes tokens quote q close post → ∀ (read : List Char) (b : Nat) (s : σ),
      (lex.encoding.text (q ++ (close ++ post))).length < b →
      At s (lex.encoding.text (q ++ (close ++ post))) → ∃ s', At s' (lex.encoding.text post) ∧
        loop (lex.quotedTurn quote) (·, false) b (lex.encoding.text read).reverse s =
          .ok ((lex.encoding.text (read ++ q)).reverse, true) s' := by
  intro q
  induction q with
  | nil =>
    intro h read b s hb hs'
    obtain ⟨b, rfl⟩ : ∃ k, b = k + 1 := ⟨b - 1, by omega⟩
    obtain ⟨s₁, hturn, hs₁⟩ := gives_quotedTurn_stop hs htable h.closed _ s hs'
    refine ⟨s₁, hs₁, ?_⟩
    rw [loop_succ, hturn, List.append_nil]
  | cons c q ih =>
    intro h read b s hb hs'
    have hrest : lex.Quotes tokens quote q close post :=
      ⟨fun d ds hds => h.inside d ds (hds.trans (List.suffix_cons c q)), h.closed⟩
    obtain ⟨b₁, s₁, hb₁, hs₁, hloop⟩ := loop_char (·, false) readOn lex.encoding readOn_nil
      readOn_append (gives_quotedTurn_again hs htable (h.inside c q List.suffix_rfl)) hb
      (lex.encoding.text read).reverse hs'
    obtain ⟨s₂, hs₂, hend⟩ := ih hrest (read ++ [c]) b₁ s₁ hb₁ hs₁
    refine ⟨s₂, hs₂, ?_⟩
    rw [hloop, readOn_encodeChar, hend, List.append_assoc, List.singleton_append]

/-- **A quoted text is read** up to its closing quote, and past it. -/
theorem gives_readQuoted {quote : Nat} {q close post : List Char}
    (h : lex.Quotes tokens quote q close post) :
    Gives (At · (lex.encoding.text (q ++ (close ++ post)))) (lex.readQuoted quote)
      (String.ofList q) (At · (lex.encoding.text post)) := by
  intro s hs'
  obtain ⟨s', hpost, hloop⟩ := loop_quoted hs htable h [] _ s (Nat.lt_succ_self _) hs'
  rw [Encoding.text_nil, List.reverse_nil, ← hs.loop_apply _ _ _ hs'] at hloop
  refine ⟨s', ?_, hpost⟩
  rw [readQuoted, bind_apply, hloop]
  simp only [List.nil_append, List.reverse_reverse, Encoding.decode_text]
  rfl

end

/-! ## Conditions -/

/-- **How a text is read** from some progress on: by characters at which no token begins, by
tokens that lead on and by quoted texts, to its end. -/
inductive Reads (lex : Lexicon) (tokens : List String) : Progress → List Char → Progress → Prop
  | done {p : Progress} : Reads lex tokens p [] p
  | char {p p' : Progress} {c : Char} {cs : List Char} (h : wordAt? tokens (c :: cs) = none)
      (hrest : Reads lex tokens (p.extend (lex.encoding.encodeChar c)) cs p') :
      Reads lex tokens p (c :: cs) p'
  | token {p next p' : Progress} {ks post : List Char} {index : Nat}
      (h : wordAt? tokens (ks ++ post) = some (ks, index))
      (hnext : lex.stepped? p index ks post = some next) (hrest : Reads lex tokens next post p') :
      Reads lex tokens p (ks ++ post) p'
  | quoted {p p' : Progress} {ks q close post : List Char} {index quote : Nat}
      (h : wordAt? tokens (ks ++ (q ++ (close ++ post))) = some (ks, index))
      (hclass : lex.classify index = .symbol quote .quote)
      (hquotes : lex.Quotes tokens quote q close post)
      (hrest : Reads lex tokens ((p.close lex.encoding).push (.quoted (String.ofList q))) post p') :
      Reads lex tokens p (ks ++ (q ++ (close ++ post))) p'

namespace Reads

variable {p p' : Progress} {cs : List Char}

/-- **The turns follow a derivation** to its end. -/
theorem loop_eq (hs : Shows At) (htable : lex.table = .words lex.encoding tokens)
    (h : lex.Reads tokens p cs p') : ∀ (b : Nat) (s : σ), (lex.encoding.text cs).length < b →
      At s (lex.encoding.text cs) → ∃ s', loop lex.turn id b p s = .ok p' s' := by
  induction h with
  | @done p =>
    intro b s hb hs'
    obtain ⟨b, rfl⟩ : ∃ k, b = k + 1 := ⟨b - 1, by omega⟩
    obtain ⟨s₁, hturn, -⟩ := gives_turn_nil hs htable p s hs'
    refine ⟨s₁, ?_⟩
    rw [loop_succ, hturn]
  | @char p p' c cs h _ ih =>
    intro b s hb hs'
    obtain ⟨b₁, s₁, hb₁, hs₁, hloop⟩ := loop_char id (fun bytes p => p.extend bytes) lex.encoding
      Progress.extend_nil Progress.extend_append (gives_turn_unit hs htable h) hb p hs'
    rw [hloop]
    exact ih b₁ s₁ hb₁ hs₁
  | @token p next p' ks post index h hnext _ ih =>
    intro b s hb hs'
    have hshort := lex.encoding.length_text_lt (wordAt?_spec h).1 post
    obtain ⟨b, rfl⟩ : ∃ k, b = k + 1 := ⟨b - 1, by omega⟩
    obtain ⟨s₁, hturn, hs₁⟩ := gives_turn_again hs htable h rfl hnext s hs'
    rw [loop_succ, hturn]
    exact ih b s₁ (by omega) hs₁
  | @quoted p p' ks q close post index quote h hclass hquotes _ ih =>
    intro b s hb hs'
    have hshort := lex.encoding.length_text_lt (wordAt?_spec h).1 (q ++ (close ++ post))
    have hpost : post <:+ q ++ (close ++ post) :=
      (List.suffix_append close post).trans (List.suffix_append q _)
    have hle := (lex.encoding.text_suffix_iff.2 hpost).length_le
    obtain ⟨b, rfl⟩ : ∃ k, b = k + 1 := ⟨b - 1, by omega⟩
    obtain ⟨s₁, hs₁, hturn⟩ := turn_quote hs htable h rfl hclass hs' p
    obtain ⟨s₂, hread, hs₂⟩ := gives_readQuoted hs htable hquotes s₁ hs₁
    rw [loop_succ, hturn, bind_apply, hread]
    exact ih b s₂ (by omega) hs₂

/-- **The lexemes of a text** are those of its derivation. -/
theorem tokenize_eq (htable : lex.table = .words lex.encoding tokens)
    (h : lex.Reads tokens Progress.start cs p') : ∃ s' : Slice,
      lex.tokenize (Slice.ofBytes (lex.encoding.text cs)) =
        .ok (p'.close lex.encoding).lexemes.reverse s' := by
  obtain ⟨s', hloop⟩ := h.loop_eq Slice.shows htable _ (Slice.ofBytes (lex.encoding.text cs))
    (Nat.lt_succ_self _) rfl
  refine ⟨s', ?_⟩
  have hread : (Scanner.loop lex.turn id Progress.start : EStateM Error Slice Progress)
      (Slice.ofBytes (lex.encoding.text cs)) = .ok p' s' := hloop
  rw [tokenize, bind_apply, hread]
  rfl

end Reads

end Lexicon

end Templating

import Templating.Proofs.Scanning

/-!
# Reading conditions in any encoding

The tokens and the characters of a condition are the same in all encodings, and so are its
lexemes, although the turns that read them are not.

* `Lexicon.simulates_tokenize_text`: the lexemes of a condition do not depend on the encoding.
* `Evaluator.simulates_evaluate_text`: nor does what is decided.
-/

namespace Templating

namespace Lexicon

variable {σ τ : Type} [Scanner σ] [Scanner τ] {At : σ → Bytes → Prop} {At' : τ → Bytes → Prop}
  {lex lex' : Lexicon} {tokens : List String}

open Scanner (Shows Level)

/-! ## Conditions -/

/-- Whether a text goes on with a word. -/
def wordBegins : List Char → Bool
  | [] => false
  | c :: _ => isWordUnit c.toNat

/-- Whether bytes begin with a code unit of a word. -/
def wordNext (e : Encoding) (bytes : Bytes) : Bool :=
  ((e.codeUnit? bytes).map isWordUnit).getD false

theorem wordNext_nil (e : Encoding) : wordNext e [] = false := by cases e <;> rfl

/-- Whether a character belongs to a word is seen at its first unit. -/
theorem wordNext_char (e : Encoding) (c : Char) (cs : List Char) (rest : Bytes) :
    wordNext e (e.text (c :: cs) ++ rest) = isWordUnit c.toNat := by
  obtain ⟨u, hu, -, hvalue⟩ := e.codeUnit?_text c cs rest
  rw [wordNext, hu]
  rcases hvalue with rfl | ⟨hu, hc⟩
  · rfl
  · simp [isWordUnit, hu, hc]

/-- Whether a word goes on is seen at the first unit. -/
theorem wordNext_text (e : Encoding) (cs : List Char) : wordNext e (e.text cs) = wordBegins cs := by
  cases cs with
  | nil => exact wordNext_nil e
  | cons c cs =>
    have hchar := wordNext_char e c cs []
    rwa [List.append_nil] at hchar

namespace Progress

variable {e : Encoding} {p : Progress}

theorem close_of_nil (h : p.literal = []) : p.close e = p := by
  rw [close, h]
  rfl

theorem literal_close (p : Progress) : (p.close e).literal = [] := by
  unfold close
  split
  · rename_i hempty
    exact List.isEmpty_iff.1 hempty
  · rfl

theorem close_push (h : p.literal = []) (lexeme : Lexeme) :
    (p.push lexeme).close e = ⟨lexeme :: p.lexemes, []⟩ :=
  (close_of_nil (p := p.push lexeme) h).trans (congrArg (Progress.mk _) h)

end Progress

/-- Progress with the same lexemes and the same literal, in two encodings. -/
def Progress.Alike (e e' : Encoding) (p p' : Progress) : Prop :=
  p.lexemes = p'.lexemes ∧
    ∃ lit : List Char, p.literal = (e.text lit).reverse ∧ p'.literal = (e'.text lit).reverse

namespace Progress.Alike

variable {e e' : Encoding} {p p' : Progress}

theorem start : Progress.Alike e e' Progress.start Progress.start := ⟨rfl, [], rfl, rfl⟩

theorem isEmpty_eq (h : Progress.Alike e e' p p') : p.literal.isEmpty = p'.literal.isEmpty := by
  obtain ⟨-, lit, hlit, hlit'⟩ := h
  rw [hlit, hlit', Bool.eq_iff_iff, List.isEmpty_iff, List.isEmpty_iff, List.reverse_eq_nil_iff,
    List.reverse_eq_nil_iff, Encoding.text_eq_nil, Encoding.text_eq_nil]

theorem extend (h : Progress.Alike e e' p p') (ks : List Char) :
    Progress.Alike e e' (p.extend (e.text ks)) (p'.extend (e'.text ks)) := by
  obtain ⟨hlexemes, lit, hlit, hlit'⟩ := h
  refine ⟨hlexemes, lit ++ ks, ?_, ?_⟩
  · rw [← readOn_text, ← hlit]
    rfl
  · rw [← readOn_text, ← hlit']
    rfl

theorem push (h : Progress.Alike e e' p p') (lexeme : Lexeme) :
    Progress.Alike e e' (p.push lexeme) (p'.push lexeme) :=
  ⟨congrArg (lexeme :: ·) h.1, h.2⟩

theorem close (h : Progress.Alike e e' p p') : Progress.Alike e e' (p.close e) (p'.close e') := by
  have hempty := h.isEmpty_eq
  obtain ⟨hlexemes, lit, hlit, hlit'⟩ := h
  unfold Progress.close
  rw [hempty]
  split
  · exact ⟨hlexemes, lit, hlit, hlit'⟩
  · refine ⟨?_, [], rfl, rfl⟩
    simp only [hlit, hlit', List.reverse_reverse, Encoding.decode_text, hlexemes]

end Progress.Alike

theorem Progress.extend_nil (p : Progress) : p.extend [] = p := rfl

theorem Progress.extend_append (p : Progress) (x y : Bytes) :
    (p.extend x).extend y = p.extend (x ++ y) := by
  simp only [Progress.extend, List.reverse_append, List.append_assoc]

/-- What a token makes of the progress, unless it ends the condition or opens a quote. -/
def stepped? (lex : Lexicon) (p : Progress) (index : Nat) (ks post : List Char) :
    Option Progress :=
  match lex.classify index with
  | .reference slot =>
    if p.literal.isEmpty && !wordBegins post then some (p.push (.reference slot))
    else some (p.extend (lex.encoding.text ks))
  | .symbol _ .separator => some (p.close lex.encoding)
  | .symbol symbol .operator => some ((p.close lex.encoding).push (.symbol symbol))
  | _ => none

/-- What is left by a token that ends the condition. -/
def endAt? (lex : Lexicon) (index : Nat) (ks cs : List Char) : Option (List Char) :=
  match lex.classify index with
  | .terminator => some (cs.drop ks.length)
  | .symbol _ .lineEnd => some cs
  | _ => none

theorem endAt?_suffix {index : Nat} {ks cs ds : List Char}
    (h : lex.endAt? index ks cs = some ds) : ds <:+ cs := by
  unfold endAt? at h
  split at h
  · cases h
    exact List.drop_suffix _ _
  · cases h
    exact List.suffix_rfl
  · cases h

/-- A token that neither ends the condition nor leads on by itself is a quote. -/
theorem classify_quote {index : Nat} {ks cs post : List Char} {p : Progress}
    (hend : lex.endAt? index ks cs = none) (hnext : lex.stepped? p index ks post = none) :
    ∃ quote, lex.classify index = .symbol quote .quote := by
  unfold endAt? at hend
  unfold stepped? at hnext
  cases hclass : lex.classify index with
  | terminator => rw [hclass] at hend; cases hend
  | reference slot => rw [hclass] at hnext; simp only at hnext; split at hnext <;> cases hnext
  | symbol symbol role =>
    rw [hclass] at hend hnext
    cases role with
    | lineEnd => cases hend
    | quote => exact ⟨symbol, rfl⟩
    | separator => cases hnext
    | operator => cases hnext

theorem match?_word (htable : lex.table = .words lex.encoding tokens) {cs ks : List Char}
    {index : Nat}
    (hword : wordAt? tokens cs = some (ks, index)) :
    lex.table.match? (lex.encoding.text cs) = some (index, (lex.encoding.text ks).length) := by
  rw [htable, TokenTable.match?_text, hword, Option.map_some]

section

variable (lex) (hs : Shows At)

include hs

theorem gives_advance_text (ks post : List Char) :
    Gives (At · (lex.encoding.text (ks ++ post)))
      (Scanner.advance (lex.encoding.text ks).length : EStateM Error σ Unit) ()
      (At · (lex.encoding.text post)) := by
  rw [Encoding.text_append]
  exact hs.advance_front _ _

/-- A name is a whole word where no literal is open and no word goes on behind it. -/
theorem gives_wholeWord (p : Progress) (key rest : Bytes) :
    Gives (At · (key ++ rest)) (lex.wholeWord p key.length)
      (p.literal.isEmpty && !wordNext lex.encoding rest) (At · (key ++ rest)) := by
  unfold wholeWord
  cases p.literal.isEmpty with
  | false => exact Gives.pure fun _ => id
  | true =>
    have hpeek := hs.peekBytes lex.encoding.unitWidth key.length (key ++ rest)
    rw [List.drop_left] at hpeek
    refine Gives.bind (hpeek.bind (Gives.pure fun _ => id)) ?_
    rw [Encoding.codeUnit?_take]
    exact Gives.pure fun _ => id

end

section

variable (hs : Shows At) (htable : lex.table = .words lex.encoding tokens)

include hs htable

theorem gives_turn_nil (p : Progress) :
    Gives (At · (lex.encoding.text [])) (lex.turn p) (.stop p) (At · (lex.encoding.text [])) := by
  have hlawful : lex.table.Lawful := htable ▸ TokenTable.lawful_words _ _
  refine (hs.peekToken hlawful _).bind ?_
  rw [Encoding.text_nil, hlawful.match?_nil]
  exact (hs.take_nil lex.encoding.unitWidth).bind (Gives.pure fun _ => id)

/-- Where no token begins a condition goes on with a character. -/
theorem gives_turn_unit {c : Char} {cs : List Char} (hnone : wordAt? tokens (c :: cs) = none)
    (p : Progress) (u : Nat) (us : List Nat) (hsuffix : u :: us <:+ lex.encoding.units c) :
    Gives (At · (lex.encoding.unitBytes u ++
        (us.flatMap lex.encoding.unitBytes ++ lex.encoding.text cs))) (lex.turn p)
      (.again (p.extend (lex.encoding.unitBytes u)))
      (At · (us.flatMap lex.encoding.unitBytes ++ lex.encoding.text cs)) := by
  have hlawful : lex.table.Lawful := htable ▸ TokenTable.lawful_words _ _
  refine (hs.peekToken hlawful _).bind ?_
  cases hfound : lex.table.match? (lex.encoding.unitBytes u ++
      (us.flatMap lex.encoding.unitBytes ++ lex.encoding.text cs)) with
  | some found =>
    -- a token before a later unit would be one before the character
    rw [htable] at hfound
    have hfirst := TokenTable.match?_units hsuffix cs hfound
    rw [TokenTable.match?_text, hnone] at hfirst
    cases hfirst
  | none =>
    refine (hs.takeUnit lex.encoding u _).bind ?_
    rw [lex.encoding.isEmpty_unitBytes]
    exact Gives.pure fun _ => id

/-- A token that goes on with the condition. -/
theorem gives_turn_again {cs ks post : List Char} {index : Nat}
    (hword : wordAt? tokens cs = some (ks, index)) (hcs : ks ++ post = cs) {p next : Progress}
    (hnext : lex.stepped? p index ks post = some next) :
    Gives (At · (lex.encoding.text cs)) (lex.turn p) (.again next)
      (At · (lex.encoding.text post)) := by
  have hlawful : lex.table.Lawful := htable ▸ TokenTable.lawful_words _ _
  subst hcs
  refine (hs.peekToken hlawful _).bind ?_
  rw [match?_word htable hword]
  unfold stepped? at hnext
  have hadvance := lex.gives_advance_text hs ks post
  simp only
  cases hclass : lex.classify index with
  | terminator => rw [hclass] at hnext; cases hnext
  | reference slot =>
    rw [hclass] at hnext
    have hgives := lex.gives_wholeWord hs p (lex.encoding.text ks) (lex.encoding.text post)
    rw [← Encoding.text_append, wordNext_text] at hgives
    refine hgives.bind ?_
    simp only at hnext
    split at hnext
    · -- a name on its own
      rename_i hwhole
      cases hnext
      rw [hwhole]
      exact hadvance.bind (Gives.pure fun _ => id)
    · -- a name inside a longer word is text of that word
      rename_i hwhole
      cases hnext
      rw [Bool.not_eq_true] at hwhole
      rw [hwhole]
      rw [Encoding.text_append]
      exact (hs.take_front List.take_left).bind (Gives.pure fun _ => id)
  | symbol symbol role =>
    rw [hclass] at hnext
    cases role with
    | lineEnd => cases hnext
    | quote => cases hnext
    | separator => cases hnext; exact hadvance.bind (Gives.pure fun _ => id)
    | operator => cases hnext; exact hadvance.bind (Gives.pure fun _ => id)

theorem gives_turn_stop {cs ks ds : List Char} {index : Nat}
    (hword : wordAt? tokens cs = some (ks, index)) (hend : lex.endAt? index ks cs = some ds)
    (p : Progress) :
    Gives (At · (lex.encoding.text cs)) (lex.turn p) (.stop p) (At · (lex.encoding.text ds)) := by
  have hlawful : lex.table.Lawful := htable ▸ TokenTable.lawful_words _ _
  obtain ⟨-, post, rfl⟩ := wordAt?_spec hword
  refine (hs.peekToken hlawful _).bind ?_
  rw [match?_word htable hword]
  unfold endAt? at hend
  simp only
  cases hclass : lex.classify index with
  | terminator =>
    rw [hclass] at hend
    cases hend
    rw [List.drop_left]
    exact (lex.gives_advance_text hs ks post).bind (Gives.pure fun _ => id)
  | reference slot => rw [hclass] at hend; cases hend
  | symbol symbol role =>
    rw [hclass] at hend
    cases role with
    -- the end of the line is left for what follows the condition
    | lineEnd => cases hend; exact Gives.pure fun _ => id
    | quote => cases hend
    | separator => cases hend
    | operator => cases hend

/-- A quote hands over to the text that it opens. -/
theorem turn_quote {cs ks post : List Char} {index quote : Nat}
    (hword : wordAt? tokens cs = some (ks, index)) (hcs : ks ++ post = cs)
    (hclass : lex.classify index = .symbol quote .quote) {s : σ}
    (hs' : At s (lex.encoding.text cs)) (p : Progress) :
    ∃ s₁, At s₁ (lex.encoding.text post) ∧ lex.turn p s = (do
      let text ← lex.readQuoted quote
      pure (Turn.again ((p.close lex.encoding).push (.quoted text))) : EStateM Error σ _) s₁ := by
  have hlawful : lex.table.Lawful := htable ▸ TokenTable.lawful_words _ _
  subst hcs
  obtain ⟨s₁, hpeek, hs₁⟩ := hs.peekToken hlawful _ s hs'
  obtain ⟨s₂, hadvance, hs₂⟩ := lex.gives_advance_text hs ks post s₁ hs₁
  refine ⟨s₂, hs₂, ?_⟩
  rw [turn, bind_apply, hpeek, match?_word htable hword]
  simp only [hclass]
  rw [bind_apply, hadvance]

end

namespace Alike

variable (h : lex.Alike lex' tokens)

include h

theorem classify_eq (index : Nat) : lex.classify index = lex'.classify index := by
  simp only [classify, h.roles, h.names]

theorem endAt?_eq (index : Nat) (ks cs : List Char) :
    lex.endAt? index ks cs = lex'.endAt? index ks cs := by
  simp only [endAt?, h.classify_eq]

/-- A token leads both progresses on, or none. -/
theorem stepped? {p p' : Progress} (hp : Progress.Alike lex.encoding lex'.encoding p p')
    (index : Nat) (ks post : List Char) :
    Option.Rel (Progress.Alike lex.encoding lex'.encoding) (lex.stepped? p index ks post)
      (lex'.stepped? p' index ks post) := by
  simp only [Lexicon.stepped?, h.classify_eq, hp.isEmpty_eq]
  cases lex'.classify index with
  | terminator => exact .none
  | reference slot =>
    simp only
    split
    · exact .some (hp.push _)
    · exact .some (hp.extend ks)
  | symbol symbol role =>
    cases role with
    | lineEnd => exact .none
    | quote => exact .none
    | separator => exact .some hp.close
    | operator => exact .some (hp.close.push _)

end Alike

/-- From one text on two loops read a condition alike, each with turns enough. -/
def ReadsAlike (At : σ → Bytes → Prop) (At' : τ → Bytes → Prop) (lex lex' : Lexicon)
    (cs : List Char) : Prop :=
  ∀ (p p' : Progress) (b b' : Nat) (s : σ) (t : τ),
    Progress.Alike lex.encoding lex'.encoding p p' →
    (lex.encoding.text cs).length < b → (lex'.encoding.text cs).length < b' →
    At s (lex.encoding.text cs) → At' t (lex'.encoding.text cs) →
      Agree (Level At At' lex.encoding lex'.encoding cs)
        (Progress.Alike lex.encoding lex'.encoding) (loop lex.turn id b p s)
        (loop lex'.turn id b' p' t)

section

variable (hs : Shows At) (ht : Shows At') (h : lex.Alike lex' tokens)

include hs ht h

theorem readsAlike_nil : ReadsAlike At At' lex lex' [] := by
  intro p p' b b' s t hp hb hb' hs' ht'
  obtain ⟨b, rfl⟩ : ∃ k, b = k + 1 := ⟨b - 1, by omega⟩
  obtain ⟨b', rfl⟩ : ∃ k, b' = k + 1 := ⟨b' - 1, by omega⟩
  obtain ⟨s₁, hturn, hs₁⟩ := gives_turn_nil hs h.table p s hs'
  obtain ⟨t₁, hturn', ht₁⟩ := gives_turn_nil ht h.table' p' t ht'
  rw [loop_succ, loop_succ, hturn, hturn']
  exact .ok hp ⟨[], List.suffix_rfl, hs₁, ht₁⟩

/-- Where no token begins both loops pass the units of a character, each its own. -/
theorem readsAlike_char {c : Char} {cs : List Char} (hnone : wordAt? tokens (c :: cs) = none)
    (hrest : ReadsAlike At At' lex lex' cs) : ReadsAlike At At' lex lex' (c :: cs) := by
  intro p p' b b' s t hp hb hb' hs' ht'
  obtain ⟨b₁, s₁, hb₁, hs₁, hloop⟩ := loop_char id (fun bytes p => p.extend bytes)
    lex.encoding Progress.extend_nil Progress.extend_append
    (gives_turn_unit hs h.table hnone) hb p hs'
  obtain ⟨b₂, t₁, hb₂, ht₁, hloop'⟩ := loop_char id (fun bytes p => p.extend bytes)
    lex'.encoding Progress.extend_nil Progress.extend_append
    (gives_turn_unit ht h.table' hnone) hb' p' ht'
  -- each has its own bytes of the character, and its own bound is still enough
  have hnext := hp.extend [c]
  simp only [Encoding.text_cons, Encoding.text_nil, List.append_nil] at hnext
  rw [hloop, hloop']
  exact (hrest _ _ b₁ b₂ s₁ t₁ hnext hb₁ hb₂ hs₁ ht₁).weaken (Level.mono (List.suffix_cons _ _))

/-- A quote hands over to the text that it opens, and both loops go on after that text. -/
theorem readsAlike_quote {ks post : List Char} {index quote : Nat}
    (hword : wordAt? tokens (ks ++ post) = some (ks, index))
    (hclass : lex.classify index = .symbol quote .quote)
    (hrest : ∀ ds, ds <:+ post → ReadsAlike At At' lex lex' ds) :
    ReadsAlike At At' lex lex' (ks ++ post) := by
  intro p p' b b' s t hp hb hb' hs' ht'
  have hpost : post <:+ ks ++ post := List.suffix_append _ _
  have hshort := lex.encoding.length_text_lt (wordAt?_spec hword).1 post
  have hshort' := lex'.encoding.length_text_lt (wordAt?_spec hword).1 post
  obtain ⟨b, rfl⟩ : ∃ k, b = k + 1 := ⟨b - 1, by omega⟩
  obtain ⟨b', rfl⟩ : ∃ k, b' = k + 1 := ⟨b' - 1, by omega⟩
  obtain ⟨s₁, hs₁, hturn⟩ := turn_quote hs h.table hword rfl hclass hs' p
  obtain ⟨t₁, ht₁, hturn'⟩ :=
    turn_quote ht h.table' hword rfl (h.classify_eq index ▸ hclass) ht' p'
  have hquoted := simulates_readQuoted_text hs ht h quote post s₁ t₁
    ⟨post, List.suffix_rfl, hs₁, ht₁⟩
  rw [loop_succ, loop_succ, hturn, hturn', bind_apply, bind_apply]
  generalize lex.readQuoted quote s₁ = x at hquoted ⊢
  generalize lex'.readQuoted quote t₁ = y at hquoted ⊢
  cases hquoted with
  | error hr => exact .error (Level.mono hpost _ _ hr)
  | @ok text _ s₂ t₂ heq hr =>
    obtain rfl := heq
    -- what is left for both after the quoted text is one text again
    obtain ⟨ds, hds, hs₂, ht₂⟩ := hr
    have hle := (lex.encoding.text_suffix_iff.2 hds).length_le
    have hle' := (lex'.encoding.text_suffix_iff.2 hds).length_le
    exact (hrest ds hds _ _ b b' s₂ t₂ (hp.close.push (.quoted text)) (by omega) (by omega)
      hs₂ ht₂).weaken (Level.mono (hds.trans hpost))

/-- A token ends the condition, leads on, or opens a quoted text. -/
theorem readsAlike_word {ks post : List Char} {index : Nat}
    (hword : wordAt? tokens (ks ++ post) = some (ks, index))
    (hrest : ∀ ds, ds <:+ post → ReadsAlike At At' lex lex' ds) :
    ReadsAlike At At' lex lex' (ks ++ post) := by
  intro p p' b b' s t hp hb hb' hs' ht'
  have hpost : post <:+ ks ++ post := List.suffix_append _ _
  have hshort := lex.encoding.length_text_lt (wordAt?_spec hword).1 post
  have hshort' := lex'.encoding.length_text_lt (wordAt?_spec hword).1 post
  cases hend : lex.endAt? index ks (ks ++ post) with
  | some ds =>
    obtain ⟨b, rfl⟩ : ∃ k, b = k + 1 := ⟨b - 1, by omega⟩
    obtain ⟨b', rfl⟩ : ∃ k, b' = k + 1 := ⟨b' - 1, by omega⟩
    obtain ⟨s₁, hturn, hs₁⟩ := gives_turn_stop hs h.table hword hend p s hs'
    obtain ⟨t₁, hturn', ht₁⟩ :=
      gives_turn_stop ht h.table' hword (h.endAt?_eq .. ▸ hend) p' t ht'
    rw [loop_succ, loop_succ, hturn, hturn']
    exact .ok hp ⟨ds, endAt?_suffix hend, hs₁, ht₁⟩
  | none =>
    have hstepped := h.stepped? hp index ks post
    cases hnext : lex.stepped? p index ks post with
    | none =>
      obtain ⟨quote, hclass⟩ := classify_quote hend hnext
      exact readsAlike_quote hs ht h hword hclass hrest p p' b b' s t hp hb hb' hs' ht'
    | some next =>
      -- the token leads the other progress on as well
      obtain ⟨next', hnext', halike⟩ : ∃ next', lex'.stepped? p' index ks post = some next' ∧
          Progress.Alike lex.encoding lex'.encoding next next' := by
        rw [hnext] at hstepped
        generalize lex'.stepped? p' index ks post = x at hstepped
        cases hstepped with
        | some halike => exact ⟨_, rfl, halike⟩
      obtain ⟨b, rfl⟩ : ∃ k, b = k + 1 := ⟨b - 1, by omega⟩
      obtain ⟨b', rfl⟩ : ∃ k, b' = k + 1 := ⟨b' - 1, by omega⟩
      obtain ⟨s₁, hturn, hs₁⟩ := gives_turn_again hs h.table hword rfl hnext s hs'
      obtain ⟨t₁, hturn', ht₁⟩ := gives_turn_again ht h.table' hword rfl hnext' t ht'
      rw [loop_succ, loop_succ, hturn, hturn']
      exact (hrest post List.suffix_rfl _ _ b b' s₁ t₁ halike (by omega) (by omega) hs₁
        ht₁).weaken (Level.mono hpost)

/-- **Conditions are read alike**: both scanners come to the same character, with the same
progress, or fail with the same error. -/
theorem readsAlike (cs : List Char) : ReadsAlike At At' lex lex' cs := by
  induction hn : cs.length using Nat.strong_induction_on generalizing cs with
  | _ n ih =>
    cases hword : wordAt? tokens cs with
    | none =>
      cases cs with
      | nil => exact readsAlike_nil hs ht h
      | cons c cs =>
        exact readsAlike_char hs ht h hword
          (ih cs.length (by rw [← hn, List.length_cons]; omega) cs rfl)
    | some word =>
      obtain ⟨ks, index⟩ := word
      obtain ⟨hne, post, rfl⟩ := wordAt?_spec hword
      -- a token is not empty, so any text after it is shorter
      refine readsAlike_word hs ht h hword fun ds hds => ih ds.length ?_ ds rfl
      have hpos := List.length_pos_iff.2 hne
      have hle := hds.length_le
      rw [List.length_append] at hn
      omega

/-- **The same lexemes are read in all encodings.** -/
theorem simulates_tokenize_text (cs : List Char) :
    Simulates (Level At At' lex.encoding lex'.encoding cs) Eq lex.tokenize lex'.tokenize := by
  have hloop : Simulates (Level At At' lex.encoding lex'.encoding cs)
      (Progress.Alike lex.encoding lex'.encoding) (Scanner.loop lex.turn id Progress.start)
      (Scanner.loop lex'.turn id Progress.start) := by
    refine Simulates.get_bind ?_
    rintro s t ⟨ds, hds, hs', ht'⟩
    rw [hs.remaining _ _ hs', ht.remaining _ _ ht']
    exact (readsAlike hs ht h ds _ _ _ _ s t Progress.Alike.start (Nat.lt_succ_self _)
      (Nat.lt_succ_self _) hs' ht').weaken (Level.mono hds)
  refine hloop.bind ?_
  rintro p p' hp
  exact Simulates.pure (congrArg List.reverse hp.close.1)

end

end Lexicon

namespace Glossary

variable (e e' : Encoding) (v : Variables) (format : String)

theorem keys_slots : (make e v format).slots.map (·.key) = v.keys.map e.encode := by
  simp only [make, List.map_map]
  rfl

theorem names_slots : (make e v format).slots.map (·.name) = v.keys := by
  simp only [make, List.map_map]
  exact List.map_id _

theorem formatted_slots : (make e v format).slots.map (·.formatted) =
    (v.keys.map fun name =>
      String.ofList (fillPlaceholder name.toList format.toList)).map e.encode := by
  simp only [make, List.map_map]
  rfl

/-- The value in a slot does not depend on the encoding. -/
theorem resolve_eq : (make e v format).resolve = (make e' v format).resolve := by
  funext index
  simp only [resolve, make, List.getElem?_map]
  cases v.keys[index]? <;> rfl

end Glossary

namespace Evaluator

variable {σ τ : Type} [Scanner σ] [Scanner τ] {At : σ → Bytes → Prop} {At' : τ → Bytes → Prop}

theorem table_lexicon (d : Dialect) (v : Variables) (format : String) (conv : Converter)
    (terminators : List String) (e : Encoding) :
    (make d (.make e v format) conv terminators).lexicon.table =
      .words e (d.vocabulary.symbols.map (·.text) ++ v.keys ++ terminators) := by
  rw [TokenTable.words, List.map_append, List.map_append, ← Glossary.keys_slots e v format,
    List.map_map]
  simp only [make, Vocabulary.lexicon, Lexicon.make, List.map_map]
  rfl

/-- The lexicons of an evaluator in two encodings. -/
theorem alike_lexicon (d : Dialect) (v : Variables) (format : String) (conv : Converter)
    (terminators : List String) (e e' : Encoding) :
    (make d (.make e v format) conv terminators).lexicon.Alike
      (make d (.make e' v format) conv terminators).lexicon
      (d.vocabulary.symbols.map (·.text) ++ v.keys ++ terminators) where
  table := table_lexicon d v format conv terminators e
  table' := table_lexicon d v format conv terminators e'
  roles := rfl
  names := (Glossary.names_slots e v format).trans (Glossary.names_slots e' v format).symm

/-- A tree is built from the names of a lexicon, not from its table. -/
theorem build_eq (d : Dialect) {lex lex' : Lexicon} (h : lex.names = lex'.names)
    (lexemes : List Lexeme) : d.build lex lexemes = d.build lex' lexemes := by
  cases d with
  | logical => rfl
  | arithmetical =>
    have hadd : Arithmetical.vocabulary.add lex = Arithmetical.vocabulary.add lex' := by
      funext b lexeme
      cases lexeme with
      | quoted text => simp only [Vocabulary.add, Vocabulary.quotedOperand, Lexicon.reference?, h]
      | symbol index => rfl
      | reference slot => rfl
      | literal text => rfl
    simp only [Dialect.build, Vocabulary.build, hadd]

/-- What is decided depends on the lexemes only, not on the encoding. -/
theorem decide_eq (d : Dialect) (v : Variables) (format : String) (conv : Converter)
    (terminators : List String) (e e' : Encoding) (lexemes : List Lexeme) :
    (make d (.make e v format) conv terminators).decide lexemes =
      (make d (.make e' v format) conv terminators).decide lexemes := by
  have hbuild := build_eq d (alike_lexicon d v format conv terminators e e').names lexemes
  have hresolve := Glossary.resolve_eq e e' v format
  simp only [decide, make] at hbuild ⊢
  rw [hbuild, hresolve]

/-- **A condition is decided alike in all encodings.** -/
theorem simulates_evaluate_text (hs : Scanner.Shows At) (ht : Scanner.Shows At') (d : Dialect)
    (v : Variables) (format : String) (conv : Converter) (terminators : List String)
    (e e' : Encoding) (cs : List Char) :
    Simulates (Scanner.Level At At' e e' cs) Eq
      ((make d (.make e v format) conv terminators).evaluate : EStateM Error σ Bool)
      ((make d (.make e' v format) conv terminators).evaluate : EStateM Error τ Bool) := by
  have hlex := alike_lexicon d v format conv terminators e e'
  refine (Lexicon.simulates_tokenize_text hs ht hlex cs).bind ?_
  rintro lexemes _ rfl
  rw [decide_eq d v format conv terminators e e']
  exact Simulates.lift _

end Evaluator

end Templating

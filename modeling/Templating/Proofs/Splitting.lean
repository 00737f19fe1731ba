import Templating.Proofs.Breaking
import Templating.Proofs.LiveCondition
import Templating.Proofs.Pieces

/-!
# Lexing splits a condition into its pieces

The turns of a lexicon follow the pieces of a condition: they pass a symbol, a separator or a name
at once, a quoted text by turns of their own, and other bytes unit by unit. So the lexemes are the
pieces in order, and there is an error exactly if a quoted text is not closed.

* `Proceeds`: turns that lead on from some bytes to others.
* `Lexicon.leads_passes`: the turns lead past the pieces of a condition, with their lexemes.
* `Lexicon.tokenize_splits`: **what lexing makes of any bytes**, in memory and in a stream.
-/

namespace Templating

/-! ## Turns that lead on -/

section Proceeds

variable {ε σ α β : Type} {At : σ → Bytes → Prop} {body : α → EStateM ε σ (Turn α β)}

/-- **Turns that lead on** from some bytes to others, and from one value to another one. They take
no more of the bound than there are bytes between. -/
def Proceeds (At : σ → Bytes → Prop) (body : α → EStateM ε σ (Turn α β)) (a : α) (bytes : Bytes)
    (a' : α) (rest : Bytes) : Prop :=
  ∀ (spent : α → β) (bound : Nat) (s : σ), bytes.length < bound → At s bytes → ∃ bound' s',
    rest.length < bound' ∧ At s' rest ∧ loop body spent bound a s = loop body spent bound' a' s'

namespace Proceeds

variable {a a' a'' : α} {bytes rest rest' : Bytes}

theorem refl : Proceeds At body a bytes a bytes :=
  fun _ bound s hb hs => ⟨bound, s, hb, hs, rfl⟩

theorem trans (h : Proceeds At body a bytes a' rest) (h' : Proceeds At body a' rest a'' rest') :
    Proceeds At body a bytes a'' rest' := by
  intro spent bound s hb hs
  obtain ⟨bound₁, s₁, hb₁, hs₁, hloop⟩ := h spent bound s hb hs
  obtain ⟨bound₂, s₂, hb₂, hs₂, hloop'⟩ := h' spent bound₁ s₁ hb₁ hs₁
  exact ⟨bound₂, s₂, hb₂, hs₂, hloop.trans hloop'⟩

/-- One turn that passes something. -/
theorem turn {front : Bytes} (hne : front ≠ [])
    (h : Gives (At · (front ++ rest)) (body a) (.again a') (At · rest)) :
    Proceeds At body a (front ++ rest) a' rest := by
  intro spent bound s hb hs
  have hpos := List.length_pos_iff.2 hne
  rw [List.length_append] at hb
  obtain ⟨bound, rfl⟩ : ∃ k, bound = k + 1 := ⟨bound - 1, by omega⟩
  obtain ⟨s', hturn, hs'⟩ := h s hs
  exact ⟨bound, s', by omega, hs', by rw [loop_succ, hturn]⟩

/-- Turns that come to one that stops. -/
theorem stops {b : β} (h : Proceeds At body a bytes a' rest)
    (hstop : Gives (At · rest) (body a') (.stop b) (At · rest')) (spent : α → β) {bound : Nat}
    (hb : bytes.length < bound) :
    Gives (At · bytes) (loop body spent bound a) b (At · rest') := by
  intro s hs
  obtain ⟨bound₁, s₁, hb₁, hs₁, hloop⟩ := h spent bound s hb hs
  obtain ⟨bound₁, rfl⟩ : ∃ k, bound₁ = k + 1 := ⟨bound₁ - 1, by omega⟩
  obtain ⟨s₂, hturn, hs₂⟩ := hstop s₁ hs₁
  exact ⟨s₂, by rw [hloop, loop_succ, hturn], hs₂⟩

/-- Turns that come to one that fails. -/
theorem fails {e : ε} (h : Proceeds At body a bytes a' rest)
    (hfail : ∀ s, At s rest → ∃ s', body a' s = .error e s' ∧ At s' rest') (spent : α → β)
    {bound : Nat} (hb : bytes.length < bound) {s : σ} (hs : At s bytes) :
    ∃ s', loop body spent bound a s = .error e s' ∧ At s' rest' := by
  obtain ⟨bound₁, s₁, hb₁, hs₁, hloop⟩ := h spent bound s hb hs
  obtain ⟨bound₁, rfl⟩ : ∃ k, bound₁ = k + 1 := ⟨bound₁ - 1, by omega⟩
  obtain ⟨s₂, hturn, hs₂⟩ := hfail s₁ hs₁
  exact ⟨s₂, by rw [hloop, loop_succ, hturn], hs₂⟩

end Proceeds

end Proceeds

namespace Lexicon

variable {σ : Type} [Scanner σ] {At : σ → Bytes → Prop} {lex : Lexicon}
  {tokens : List (Bytes × TokenClass)}

open Scanner (Shows)

theorem Answers.match?_none (hk : lex.Answers tokens) {bytes : Bytes}
    (h : longestMatch? tokens bytes = none) : lex.table.match? bytes = none := by
  have hfound := hk.found bytes
  rwa [h] at hfound

theorem Answers.match?_some (hk : lex.Answers tokens) {bytes token : Bytes} {cls : TokenClass}
    (h : longestMatch? tokens bytes = some (token, cls)) : ∃ index,
      lex.table.match? bytes = some (index, token.length) ∧ lex.classify index = cls := by
  have hfound := hk.found bytes
  rwa [h] at hfound

/-! ## Progress -/

namespace Progress

variable {e : Encoding} {piece : Piece} {after : Bytes}

/-- The lexemes that have been read, with the current literal. -/
def read (e : Encoding) (p : Progress) : List Lexeme := (p.close e).lexemes.reverse

/-- What a piece makes of the progress. -/
def past (e : Encoding) (p : Progress) : Piece → Progress
  | .operator index _ => (p.close e).push (.symbol index)
  | .separator _ _ => p.close e
  | .name slot _ => p.push (.reference slot)
  | .quoted _ _ text => (p.close e).push (.quoted (e.decode text))
  | .literal bytes => p.extend bytes

theorem extend_ne_nil (p : Progress) {bytes : Bytes} (h : bytes ≠ []) :
    (p.extend bytes).literal ≠ [] :=
  List.append_ne_nil_of_left_ne_nil (List.reverse_eq_nil_iff.not.2 h) _

/-- A lexeme after those that have been read. -/
theorem read_push {p : Progress} (h : p.literal = []) (lexeme : Lexeme) :
    (p.push lexeme).read e = p.read e ++ [lexeme] := by
  have hpush : (p.push lexeme).literal = [] := h
  rw [read, read, close_of_nil hpush, close_of_nil h]
  exact List.reverse_cons

theorem read_close (p : Progress) : (p.close e).read e = p.read e := by
  rw [read, close_of_nil (literal_close p), read]

theorem read_extend {p : Progress} (h : p.literal = []) {bytes : Bytes} (hne : bytes ≠ []) :
    (p.extend bytes).read e = p.read e ++ [.literal (e.decode bytes)] := by
  have hliteral : (p.extend bytes).literal = bytes.reverse := by
    rw [extend, h, List.append_nil]
  have hsome : ¬ bytes.reverse.isEmpty = true := by simpa using hne
  rw [read, read, close_of_nil h, close, hliteral, if_neg hsome, List.reverse_reverse]
  exact List.reverse_cons

end Progress

variable {e : Encoding} {piece : Piece} {after : Bytes}

theorem not_ended_of_reference {bytes key : Bytes} {slot : Nat}
    (h : longestMatch? tokens bytes = some (key, .reference slot)) : ¬ Ended tokens bytes := by
  rintro (rfl | ⟨token, cls, hmatch, hcls⟩)
  · obtain ⟨hne, rest, hnil⟩ := exists_append_of_match h
    exact hne (List.append_eq_nil_iff.1 hnil.symm).1
  · rw [h] at hmatch
    cases hmatch
    exact hcls slot rfl

/-- Where bytes are read as they stand, they have not ended. -/
theorem not_ended_of_stretch {begun : Bool} {bytes : Bytes}
    (h : Stretch tokens e after begun bytes) (hne : bytes ≠ []) :
    ¬ Ended tokens (bytes ++ after) := by
  cases h with
  | nil => exact absurd rfl hne
  | unit hnone hunit _ _ =>
    rw [List.append_assoc]
    rintro (hnil | ⟨token, cls, hmatch, -⟩)
    · exact hunit (List.append_eq_nil_iff.1 hnil).1
    · rw [hnone] at hmatch
      cases hmatch
  | word hmatch _ _ =>
    rw [List.append_assoc]
    exact not_ended_of_reference hmatch

/-- Only bytes that are read as they stand leave a literal open, and only so far as they go. -/
theorem Progress.past_ends (h : piece.Stands tokens e after) (p : Progress)
    (hp : p.literal = [] ∨ Ended tokens (piece.bytes ++ after)) :
    (p.past e piece).literal = [] ∨ Ended tokens after := by
  cases piece with
  | operator index token => exact .inl (literal_close p)
  | separator index token => exact .inl (literal_close p)
  | name slot key => exact .inl (hp.resolve_right (not_ended_of_reference h.1))
  | quoted index quote text => exact .inl (literal_close p)
  | literal bytes => exact .inr h.2.2

/-- **What a piece adds to the lexemes.** No literal is open before a name or other bytes. -/
theorem Progress.read_past (h : piece.Stands tokens e after) {p : Progress}
    (hp : p.literal = [] ∨ Ended tokens (piece.bytes ++ after)) :
    (p.past e piece).read e = p.read e ++ (piece.lexeme? e).toList := by
  cases piece with
  | operator index token =>
    exact (read_push (literal_close p) _).trans (congrArg (· ++ _) (read_close p))
  | separator index token => exact (read_close p).trans (List.append_nil _).symm
  | name slot key => exact read_push (hp.resolve_right (not_ended_of_reference h.1)) _
  | quoted index quote text =>
    exact (read_push (literal_close p) _).trans (congrArg (· ++ _) (read_close p))
  | literal bytes =>
    exact read_extend (hp.resolve_right (not_ended_of_stretch h.2.1 h.1)) h.1

section

variable (hs : Shows At) (hk : lex.Answers tokens)

include hs hk

/-! ## Quoted texts -/

/-- Inside of quotes the turns go from unit to unit. -/
theorem leads_inside {quote : Nat} (hquote : lex.classify quote = .symbol quote .quote)
    {text after : Bytes} (h : Inside tokens lex.encoding quote after text) : ∀ read : Bytes,
      Proceeds At (lex.quotedTurn quote) read (text ++ after) (text.reverse ++ read) after := by
  induction h with
  | nil => exact fun _ => .refl
  | @unit unit rest hother hline hne htake _ ih =>
    intro read
    rw [List.reverse_append, List.append_assoc, List.append_assoc]
    refine Proceeds.trans (.turn hne ?_) (ih (unit.reverse ++ read))
    have hunit : Gives (At · (unit ++ (rest ++ after))) (lex.quotedUnit read)
        (.again (unit.reverse ++ read)) (At · (rest ++ after)) := by
      refine (hs.take_front htake).bind ?_
      rw [if_neg (by simpa using hne)]
      exact Gives.pure fun _ => id
    refine (hs.peekToken hk.lawful _).bind ?_
    cases hmatch : longestMatch? tokens (unit ++ (rest ++ after)) with
    | none =>
      rw [hk.match?_none hmatch]
      exact hunit
    | some found =>
      obtain ⟨token, cls⟩ := found
      obtain ⟨index, hindex, hclass⟩ := hk.match?_some hmatch
      rw [hindex]
      simp only
      rw [if_neg, if_neg]
      · exact hunit
      · intro hrole
        rw [classify_eq_symbol.2 ⟨rfl, hrole⟩] at hclass
        exact hline ⟨token, index, hclass ▸ hmatch⟩
      · rintro rfl
        rw [hquote] at hclass
        exact hother token (hclass ▸ hmatch)

/-- The same quote closes the text. -/
theorem gives_quotedTurn_close {quote : Nat} {close rest : Bytes}
    (h : longestMatch? tokens (close ++ rest) = some (close, .symbol quote .quote))
    (read : Bytes) :
    Gives (At · (close ++ rest)) (lex.quotedTurn quote read) (.stop (read, true))
      (At · rest) := by
  obtain ⟨index, hindex, hclass⟩ := hk.match?_some h
  obtain ⟨rfl, -⟩ := classify_eq_symbol.1 hclass
  refine (hs.peekToken hk.lawful _).bind ?_
  rw [hindex]
  simp only [if_true]
  exact (hs.advance_front close rest).bind (Gives.pure fun _ => id)

/-- At the end of the line or of the input nothing closes it. -/
theorem gives_quotedTurn_unclosed {quote : Nat} {rest : Bytes}
    (hquote : lex.classify quote = .symbol quote .quote) (h : rest = [] ∨ LineEndAt tokens rest)
    (read : Bytes) :
    Gives (At · rest) (lex.quotedTurn quote read) (.stop (read, false)) (At · rest) := by
  refine (hs.peekToken hk.lawful _).bind ?_
  rcases h with rfl | ⟨token, index, hmatch⟩
  · rw [hk.lawful.match?_nil]
    exact (hs.take_nil lex.encoding.unitWidth).bind (Gives.pure fun _ => id)
  · obtain ⟨found, hfound, hclass⟩ := hk.match?_some hmatch
    obtain ⟨rfl, hrole⟩ := classify_eq_symbol.1 hclass
    rw [hfound]
    simp only
    rw [if_neg, if_pos hrole]
    · exact Gives.pure fun _ => id
    · rintro rfl
      rw [hquote] at hclass
      cases hclass

/-- **A quoted text is read** up to its closing quote, and past it. -/
theorem gives_readQuoted_inside {quote : Nat} {close text rest : Bytes}
    (h : Inside tokens lex.encoding quote (close ++ rest) text)
    (hclose : longestMatch? tokens (close ++ rest) = some (close, .symbol quote .quote)) :
    Gives (At · (text ++ (close ++ rest))) (lex.readQuoted quote) (lex.encoding.decode text)
      (At · rest) := by
  obtain ⟨index, -, hclass⟩ := hk.match?_some hclose
  obtain ⟨rfl, -⟩ := classify_eq_symbol.1 hclass
  intro s hs'
  obtain ⟨s', hloop, hrest⟩ := (leads_inside hs hk hclass h []).stops
    (gives_quotedTurn_close hs hk hclose _) (·, false) (Nat.lt_succ_self _) s hs'
  refine ⟨s', ?_, hrest⟩
  rw [readQuoted, bind_apply, hs.loop_apply _ _ _ hs', hloop]
  simp only [List.append_nil, List.reverse_reverse]
  rfl

/-- **A quoted text that is not closed** is told in the error. -/
theorem fails_readQuoted {quote : Nat} {text rest : Bytes}
    (hquote : lex.classify quote = .symbol quote .quote)
    (h : Inside tokens lex.encoding quote rest text)
    (hend : rest = [] ∨ LineEndAt tokens rest) (s : σ) (hs' : At s (text ++ rest)) : ∃ s',
    lex.readQuoted quote s = .error (.expression (.syntaxAt .unterminatedQuote
      (lex.encoding.decode text))) s' ∧ At s' rest := by
  obtain ⟨s', hloop, hrest⟩ := (leads_inside hs hk hquote h []).stops
    (gives_quotedTurn_unclosed hs hk hquote hend _) (·, false) (Nat.lt_succ_self _) s hs'
  refine ⟨s', ?_, hrest⟩
  rw [readQuoted, bind_apply, hs.loop_apply _ _ _ hs', hloop]
  simp only [List.append_nil, List.reverse_reverse]
  rfl

/-! ## Turns of a condition -/

/-- Where no token stands a condition goes on with a unit. -/
theorem leads_unit {unit rest : Bytes} (hnone : longestMatch? tokens (unit ++ rest) = none)
    (hne : unit ≠ []) (htake : (unit ++ rest).take lex.encoding.unitWidth = unit)
    (p : Progress) : Proceeds At lex.turn p (unit ++ rest) (p.extend unit) rest := by
  refine .turn hne ((hs.peekToken hk.lawful _).bind ?_)
  rw [hk.match?_none hnone]
  refine (hs.take_front htake).bind ?_
  rw [if_neg (by simpa using hne)]
  exact Gives.pure fun _ => id

/-- A name is one if it stands on its own, and else it goes on as the bytes that it is. -/
theorem leads_reference {slot : Nat} {key rest : Bytes}
    (h : longestMatch? tokens (key ++ rest) = some (key, .reference slot)) (p : Progress) :
    Proceeds At lex.turn p (key ++ rest)
      (if p.literal.isEmpty && !wordNext lex.encoding rest then p.push (.reference slot)
        else p.extend key) rest := by
  obtain ⟨index, hindex, hclass⟩ := hk.match?_some h
  refine .turn (exists_append_of_match h).1 ((hs.peekToken hk.lawful _).bind ?_)
  rw [hindex]
  simp only [hclass]
  refine (lex.gives_wholeWord hs p key rest).bind ?_
  split
  · exact (hs.advance_front key rest).bind (Gives.pure fun _ => id)
  · exact (hs.take_front List.take_left).bind (Gives.pure fun _ => id)

/-- A separator ends a literal. -/
theorem leads_separator {symbol : Nat} {token rest : Bytes}
    (h : longestMatch? tokens (token ++ rest) = some (token, .symbol symbol .separator))
    (p : Progress) : Proceeds At lex.turn p (token ++ rest) (p.close lex.encoding) rest := by
  obtain ⟨index, hindex, hclass⟩ := hk.match?_some h
  refine .turn (exists_append_of_match h).1 ((hs.peekToken hk.lawful _).bind ?_)
  rw [hindex]
  simp only [hclass]
  exact (hs.advance_front token rest).bind (Gives.pure fun _ => id)

/-- An operator ends a literal and is a lexeme of its own. -/
theorem leads_operator {symbol : Nat} {token rest : Bytes}
    (h : longestMatch? tokens (token ++ rest) = some (token, .symbol symbol .operator))
    (p : Progress) :
    Proceeds At lex.turn p (token ++ rest) ((p.close lex.encoding).push (.symbol symbol)) rest := by
  obtain ⟨index, hindex, hclass⟩ := hk.match?_some h
  refine .turn (exists_append_of_match h).1 ((hs.peekToken hk.lawful _).bind ?_)
  rw [hindex]
  simp only [hclass]
  exact (hs.advance_front token rest).bind (Gives.pure fun _ => id)

/-- A quote hands over to the text behind it. -/
theorem gives_turn_quote {symbol : Nat} {quote bytes rest text : Bytes}
    (h : longestMatch? tokens (quote ++ bytes) = some (quote, .symbol symbol .quote))
    (hread : Gives (At · bytes) (lex.readQuoted symbol) (lex.encoding.decode text) (At · rest))
    (p : Progress) :
    Gives (At · (quote ++ bytes)) (lex.turn p)
      (.again ((p.close lex.encoding).push (.quoted (lex.encoding.decode text)))) (At · rest) := by
  obtain ⟨index, hindex, hclass⟩ := hk.match?_some h
  refine (hs.peekToken hk.lawful _).bind ?_
  rw [hindex]
  simp only [hclass]
  exact (hs.advance_front quote bytes).bind (hread.bind (Gives.pure fun _ => id))

/-- A quoted text that is not closed fails. -/
theorem fails_turn {bytes text rest : Bytes} (h : Unclosed tokens lex.encoding bytes text rest)
    (p : Progress) (s : σ) (hs' : At s bytes) : ∃ s',
    lex.turn p s = .error (.expression (.syntaxAt .unterminatedQuote
      (lex.encoding.decode text))) s' ∧ At s' rest := by
  obtain @⟨symbol, quote, _, _, hquote, hinside, hend⟩ := h
  obtain ⟨index, hindex, hclass⟩ := hk.match?_some hquote
  obtain ⟨rfl, -⟩ := classify_eq_symbol.1 hclass
  obtain ⟨s₁, hpeek, hs₁⟩ := hs.peekToken hk.lawful _ s hs'
  obtain ⟨s₂, hadvance, hs₂⟩ := hs.advance_front quote (text ++ rest) s₁ hs₁
  obtain ⟨s₃, hread, hs₃⟩ := fails_readQuoted hs hk hclass hinside hend s₂ hs₂
  refine ⟨s₃, ?_, hs₃⟩
  rw [turn, bind_apply, hpeek, hindex]
  simp only [hclass]
  rw [bind_apply, hadvance]
  simp only
  rw [bind_apply, hread]

/-- Where a condition ends, a turn stops. -/
theorem gives_turn_ends {terminator rest : Bytes} (h : Ends tokens terminator rest)
    (p : Progress) :
    Gives (At · (terminator ++ rest)) (lex.turn p) (.stop p) (At · rest) := by
  refine (hs.peekToken hk.lawful _).bind ?_
  cases h with
  | input =>
    rw [List.append_nil, hk.lawful.match?_nil]
    exact (hs.take_nil lex.encoding.unitWidth).bind (Gives.pure fun _ => id)
  | line hline =>
    obtain ⟨token, symbol, hmatch⟩ := hline
    obtain ⟨index, hindex, hclass⟩ := hk.match?_some hmatch
    rw [List.nil_append, hindex]
    simp only [hclass]
    exact Gives.pure fun _ => id
  | terminator hmatch =>
    obtain ⟨index, hindex, hclass⟩ := hk.match?_some hmatch
    rw [hindex]
    simp only [hclass]
    exact (hs.advance_front terminator rest).bind (Gives.pure fun _ => id)

/-- Bytes that are read as they stand go on the literal. -/
theorem leads_stretch {begun : Bool} {bytes after : Bytes}
    (h : Stretch tokens lex.encoding after begun bytes) : ∀ p : Progress,
      (begun = true → p.literal ≠ []) →
        Proceeds At lex.turn p (bytes ++ after) (p.extend bytes) after := by
  induction h with
  | nil => exact fun _ _ => .refl
  | @unit begun unit rest hnone hne htake _ ih =>
    intro p _
    rw [List.append_assoc, ← Progress.extend_append]
    exact (leads_unit hs hk hnone hne htake p).trans
      (ih _ fun _ => Progress.extend_ne_nil p hne)
  | @word begun slot key rest hmatch hpart _ ih =>
    intro p hp
    have hne := (exists_append_of_match hmatch).1
    have hword : (p.literal.isEmpty && !wordNext lex.encoding (rest ++ after)) = false := by
      rcases hpart with hbegun | hnext
      · rw [List.isEmpty_eq_false_iff.2 (hp hbegun), Bool.false_and]
      · rw [hnext, Bool.not_true, Bool.and_false]
    have hlead := leads_reference hs hk hmatch p
    rw [hword] at hlead
    rw [List.append_assoc, ← Progress.extend_append]
    exact hlead.trans (ih _ fun _ => Progress.extend_ne_nil p hne)

/-! ## Pieces -/

/-- **The turns pass a piece** at its place. -/
theorem leads_piece {piece : Piece} {after : Bytes}
    (h : piece.Stands tokens lex.encoding after) {p : Progress}
    (hp : p.literal = [] ∨ Ended tokens (piece.bytes ++ after)) :
    Proceeds At lex.turn p (piece.bytes ++ after) (p.past lex.encoding piece) after := by
  cases piece with
  | operator index token => exact leads_operator hs hk h p
  | separator index token => exact leads_separator hs hk h p
  | name slot key =>
    obtain ⟨hmatch, hnext⟩ := h
    have hempty := hp.resolve_right (not_ended_of_reference hmatch)
    have hlead := leads_reference hs hk hmatch p
    rwa [hempty, hnext] at hlead
  | quoted index quote text =>
    obtain ⟨hopen, hinside, hclose⟩ := h
    have hturn := gives_turn_quote hs hk hopen (gives_readQuoted_inside hs hk hinside hclose) p
    refine .turn (List.append_ne_nil_of_left_ne_nil (exists_append_of_match hopen).1 _) ?_
    rwa [Piece.bytes, List.append_assoc, List.append_assoc]
  | literal bytes =>
    exact leads_stretch hs hk h.2.1 p fun hbegun => absurd hbegun Bool.false_ne_true

/-- **The turns pass the pieces of a condition**, and have their lexemes then. -/
theorem leads_passes {bytes rest : Bytes} {pieces : List Piece}
    (h : Passes tokens lex.encoding bytes pieces rest) : ∀ p : Progress,
      p.literal = [] ∨ Ended tokens bytes → ∃ p', Proceeds At lex.turn p bytes p' rest ∧
        p'.read lex.encoding =
          p.read lex.encoding ++ pieces.filterMap (Piece.lexeme? lex.encoding) := by
  induction h with
  | nil => exact fun p _ => ⟨p, .refl, (List.append_nil _).symm⟩
  | @cons piece after rest pieces hpiece _ ih =>
    intro p hp
    obtain ⟨p', hlead, hread⟩ := ih (p.past lex.encoding piece) (Progress.past_ends hpiece p hp)
    refine ⟨p', (leads_piece hs hk hpiece hp).trans hlead, ?_⟩
    rw [hread, Progress.read_past hpiece hp, List.append_assoc, List.filterMap_cons]
    cases Piece.lexeme? lex.encoding piece <;> rfl

/-- **Lexing gives the lexemes of the pieces** of a condition that ends. -/
theorem gives_tokenize {bytes terminator rest : Bytes} {pieces : List Piece}
    (h : Passes tokens lex.encoding bytes pieces (terminator ++ rest))
    (hends : Ends tokens terminator rest) :
    Gives (At · bytes) lex.tokenize (pieces.filterMap (Piece.lexeme? lex.encoding))
      (At · rest) := by
  intro s hs'
  obtain ⟨p', hlead, hread⟩ := leads_passes hs hk h Progress.start (.inl rfl)
  obtain ⟨s', hloop, hrest⟩ := hlead.stops (gives_turn_ends hs hk hends p') id
    (Nat.lt_succ_self _) s hs'
  refine ⟨s', ?_, hrest⟩
  rw [tokenize, bind_apply, hs.loop_apply _ _ _ hs', hloop]
  exact congrArg (EStateM.Result.ok · s') hread

/-- **Lexing fails** at a quoted text that is not closed. -/
theorem fails_tokenize {bytes middle text rest : Bytes} {pieces : List Piece}
    (h : Passes tokens lex.encoding bytes pieces middle)
    (hunclosed : Unclosed tokens lex.encoding middle text rest) {s : σ} (hs' : At s bytes) :
    ∃ s', lex.tokenize s = .error (.expression (.syntaxAt .unterminatedQuote
      (lex.encoding.decode text))) s' ∧ At s' rest := by
  obtain ⟨p', hlead, -⟩ := leads_passes hs hk h Progress.start (.inl rfl)
  obtain ⟨s', hloop, hrest⟩ := hlead.fails (fails_turn hs hk hunclosed p') id
    (Nat.lt_succ_self _) hs'
  refine ⟨s', ?_, hrest⟩
  rw [tokenize, bind_apply, hs.loop_apply _ _ _ hs', hloop]

variable (honly : Distinct tokens) {bytes : Bytes} {s s' : σ}

include honly

/-- What lexing gives comes of pieces up to the end of the condition. -/
theorem of_tokenize_ok (hs' : At s bytes) {lexemes : List Lexeme}
    (h : lex.tokenize s = .ok lexemes s') : ∃ pieces terminator rest,
      Passes tokens lex.encoding bytes pieces (terminator ++ rest) ∧
        Ends tokens terminator rest ∧
        lexemes = pieces.filterMap (Piece.lexeme? lex.encoding) ∧ At s' rest := by
  obtain ⟨pieces, middle, hpasses, ⟨terminator, rest, rfl, hends⟩ | ⟨text, rest, hunclosed⟩⟩ :=
    exists_pieces honly lex.encoding bytes.length bytes le_rfl
  · obtain ⟨s₁, hresult, hrest⟩ := gives_tokenize hs hk hpasses hends s hs'
    rw [hresult] at h
    cases h
    exact ⟨pieces, terminator, rest, hpasses, hends, rfl, hrest⟩
  · obtain ⟨s₁, hresult, -⟩ := fails_tokenize hs hk hpasses hunclosed hs'
    rw [hresult] at h
    cases h

/-- Lexing fails at a quoted text that is not closed only. -/
theorem of_tokenize_error (hs' : At s bytes) {error : Error}
    (h : lex.tokenize s = .error error s') : ∃ pieces middle text rest,
      Passes tokens lex.encoding bytes pieces middle ∧
        Unclosed tokens lex.encoding middle text rest ∧
        error = .expression (.syntaxAt .unterminatedQuote (lex.encoding.decode text)) ∧
        At s' rest := by
  obtain ⟨pieces, middle, hpasses, ⟨terminator, rest, rfl, hends⟩ | ⟨text, rest, hunclosed⟩⟩ :=
    exists_pieces honly lex.encoding bytes.length bytes le_rfl
  · obtain ⟨s₁, hresult, -⟩ := gives_tokenize hs hk hpasses hends s hs'
    rw [hresult] at h
    cases h
  · obtain ⟨s₁, hresult, hrest⟩ := fails_tokenize hs hk hpasses hunclosed hs'
    rw [hresult] at h
    cases h
    exact ⟨pieces, middle, text, rest, hpasses, hunclosed, rfl, hrest⟩

end

end Lexicon

/-! ## Conditions in memory -/

namespace Slice

variable {source : Bytes}

/-- Two steps are one. -/
theorem drop_drop (s : Slice) (m n : Nat) : (s.drop m).drop n = s.drop (m + n) := by
  have hposition : s.position + min m s.rest.length + min n (s.rest.length - m) =
      s.position + min (m + n) s.rest.length := by omega
  show Slice.mk ((s.rest.drop m).drop n) _ = Slice.mk (s.rest.drop (m + n)) _
  rw [← hposition]
  congr 1
  exact Tape.ext (by simp only [Tape.bytes_drop, List.drop_drop])

/-- A step behind the end is one to the end. -/
theorem drop_beyond {n : Nat} (h : source.length ≤ n) :
    (ofBytes source).drop n = (ofBytes source).drop source.length := by
  have hposition : min n source.length = min source.length source.length := by omega
  show Slice.mk ((Tape.ofBytes source).drop n) (0 + min n source.length) =
    Slice.mk ((Tape.ofBytes source).drop source.length) (0 + min source.length source.length)
  rw [hposition]
  congr 1
  refine Tape.ext ?_
  simp only [Tape.bytes_drop, Tape.bytes_ofBytes, List.drop_length, List.drop_of_length_le h]

/-- **How far a slice has come** in a source, told by what is left. -/
def Leaves (source : Bytes) (s : Slice) (rest : Bytes) : Prop :=
  rest <:+ source ∧ s = (ofBytes source).drop (source.length - rest.length)

theorem Leaves.at_rest {s : Slice} {rest : Bytes} (h : Leaves source s rest) :
    s.At rest := by
  obtain ⟨hsuffix, rfl⟩ := h
  exact (List.suffix_iff_eq_drop.1 hsuffix).symm

theorem leaves_ofBytes (source : Bytes) : Leaves source (ofBytes source) source := by
  refine ⟨List.suffix_rfl, ?_⟩
  rw [Nat.sub_self]
  show Slice.mk (Tape.ofBytes source) 0 = Slice.mk ((Tape.ofBytes source).drop 0) (0 + min 0 _)
  rw [Nat.zero_min]
  congr 1

theorem shows_leaves (source : Bytes) : Scanner.Shows (Leaves source) where
  peekToken _ rest := by
    intro s h
    have hrest : s.rest.bytes = rest := h.at_rest
    exact ⟨s, by rw [← hrest]; rfl, h⟩
  peekByte offset rest := by
    intro s h
    have hrest : s.rest.bytes = rest := h.at_rest
    exact ⟨s, by rw [← hrest]; rfl, h⟩
  advance count rest := by
    rintro s ⟨hsuffix, rfl⟩
    have hle := hsuffix.length_le
    refine ⟨_, rfl, (List.drop_suffix count rest).trans hsuffix, ?_⟩
    show ((ofBytes source).drop (source.length - rest.length)).drop count = _
    rw [drop_drop, List.length_drop]
    by_cases hwithin : count ≤ rest.length
    · congr 1
      omega
    · rw [drop_beyond (by omega)]
      congr 1
      omega
  remaining s rest h := by
    have hrest : s.rest.bytes = rest := h.at_rest
    rw [← hrest]
    exact s.rest.length_eq

end Slice

namespace Lexicon

/-- **Lexing splits a condition into its pieces.** For all symbols, variables, terminators,
encodings and bytes:

* It succeeds exactly if the bytes begin with pieces, one behind the other, up to their end, to a
  line ending or to a terminator. Then it gives the lexemes of these pieces, in order, and has come
  past them and past the terminator.
* It fails exactly if the bytes begin with pieces up to a quoted text that meets the end or a line
  ending before its quote, and then the error tells this text.
* The same comes of the same bytes in a stream, whatever its buffer holds and however it is cut. -/
theorem tokenize_splits (symbols : List (String × Role)) (g : Glossary)
    (terminators : List String) (source : Bytes) :
    (∀ lexemes s, (make symbols g terminators).tokenize (Slice.ofBytes source) = .ok lexemes s ↔
      ∃ pieces terminator rest,
        source = pieces.flatMap Piece.bytes ++ (terminator ++ rest) ∧
        Passes (entries symbols g terminators) g.encoding source pieces (terminator ++ rest) ∧
        Ends (entries symbols g terminators) terminator rest ∧
        lexemes = pieces.filterMap (Piece.lexeme? g.encoding) ∧
        s = (Slice.ofBytes source).drop (source.length - rest.length)) ∧
    (∀ error s, (make symbols g terminators).tokenize (Slice.ofBytes source) = .error error s ↔
      ∃ pieces middle text rest,
        source = pieces.flatMap Piece.bytes ++ middle ∧
        Passes (entries symbols g terminators) g.encoding source pieces middle ∧
        Unclosed (entries symbols g terminators) g.encoding middle text rest ∧
        error = .expression (.syntaxAt .unterminatedQuote (g.encoding.decode text)) ∧
        s = (Slice.ofBytes source).drop (source.length - rest.length)) ∧
    (∀ (r : Reader) (w : Window), w.Stands r → r.bytes.drop r.offset = source →
      Agree (Slice.Abreast r) Eq
        ((make symbols g terminators).tokenize (Slice.ofBytes source))
        ((make symbols g terminators).tokenize w)) ∧
    ∀ w v : Window, w.Foreruns v → AgreeUntil (· = .io .failed) Window.Foreruns
      ((make symbols g terminators).tokenize w) ((make symbols g terminators).tokenize v) := by
  obtain ⟨lex, hlex⟩ : ∃ lex, lex = make symbols g terminators := ⟨_, rfl⟩
  have hk := answers_make symbols g terminators
  have he : lex.encoding = g.encoding := by rw [hlex]; rfl
  rw [← hlex] at hk ⊢
  rw [← he]
  have honly := distinct_entries symbols g terminators
  have hshows := Slice.shows_leaves source
  have hstart := Slice.leaves_ofBytes source
  refine ⟨fun lexemes s => ⟨fun hresult => ?_, ?_⟩, fun error s => ⟨fun hresult => ?_, ?_⟩,
    ?_, ?_⟩
  · obtain ⟨pieces, terminator, rest, hpasses, hends, hlexemes, -, hs⟩ :=
      of_tokenize_ok hshows hk honly hstart hresult
    exact ⟨pieces, terminator, rest, hpasses.eq_append, hpasses, hends, hlexemes, hs⟩
  · rintro ⟨pieces, terminator, rest, -, hpasses, hends, rfl, rfl⟩
    obtain ⟨s, hresult, -, rfl⟩ := gives_tokenize hshows hk hpasses hends _ hstart
    exact hresult
  · obtain ⟨pieces, middle, text, rest, hpasses, hunclosed, herror, -, hs⟩ :=
      of_tokenize_error hshows hk honly hstart hresult
    exact ⟨pieces, middle, text, rest, hpasses.eq_append, hpasses, hunclosed, herror, hs⟩
  · rintro ⟨pieces, middle, text, rest, -, hpasses, hunclosed, rfl, rfl⟩
    obtain ⟨s, hresult, -, rfl⟩ := fails_tokenize hshows hk hpasses hunclosed hstart
    exact hresult
  · rintro r w hw rfl
    exact lex.simulates_tokenize (Slice.lockstep_abreast r hk.lawful) _ w
      (Slice.abreast_ofBytes hw)
  · exact fun w v h => concurs_tokenize hk.lawful w v h

/-- The condition `name == "x y"z` and its terminator, with a variable `name`: the blank between the
quotes belongs to the text, and those outside are separators. -/
theorem tokenize_splits_comparison :
    let symbols := [("==", Role.operator), (" ", .separator), ("\n", .lineEnd), ("\"", .quote)]
    let g := Glossary.make .utf8 (Variables.empty.set "name" (.bool true)) ""
    let source := Encoding.utf8.encode "name == \"x y\"z-->\n"
    ∃ pieces terminator rest, source = pieces.flatMap Piece.bytes ++ (terminator ++ rest) ∧
      Passes (entries symbols g ["-->"]) .utf8 source pieces (terminator ++ rest) ∧
      Ends (entries symbols g ["-->"]) terminator rest ∧
      pieces.filterMap (Piece.lexeme? .utf8) =
        [.reference 0, .symbol 0, .quoted "x y", .literal "z"] := by
  intro symbols g source
  have hread : (make symbols g ["-->"]).tokenize.run' (Slice.ofBytes source) =
      some [.reference 0, .symbol 0, .quoted "x y", .literal "z"] := by
    decide +kernel
  unfold EStateM.run' EStateM.run at hread
  cases hresult : (make symbols g ["-->"]).tokenize (Slice.ofBytes source) with
  | error error s =>
    rw [hresult] at hread
    cases hread
  | ok lexemes s =>
    rw [hresult] at hread
    obtain ⟨pieces, terminator, rest, hsource, hpasses, hends, hlexemes, -⟩ :=
      ((tokenize_splits symbols g ["-->"] source).1 lexemes s).1 hresult
    exact ⟨pieces, terminator, rest, hsource, hpasses, hends,
      hlexemes.symm.trans (Option.some.inj hread)⟩

end Lexicon

end Templating

import Templating.Proofs.Reading

/-!
# The pieces of a condition

A condition splits into pieces: symbols, separators, names of variables, quoted texts and
stretches of other bytes. Which pieces they are is told here without a lexicon that reads them,
by the longest token that stands at a place.

* `Lexicon.entries`, `Lexicon.answers_make`: the tokens of a lexicon and what each of them is.
* `Lexicon.Piece.Stands`: a piece at its place, before all that comes after it.
* `Lexicon.Passes`: a text that begins with some pieces; `Lexicon.Ends`, `Lexicon.Unclosed`: how
  they end.
* `Lexicon.exists_pieces`: every text begins with pieces that end in one of these ways.
-/

namespace Templating

namespace Lexicon

/-! ## Tokens -/

/-- **The tokens of a lexicon**, in the order of their numbers, each with its class. -/
def entries (symbols : List (String × Role)) (g : Glossary) (terminators : List String) :
    List (Bytes × TokenClass) :=
  symbols.zipIdx.map (fun s => (g.encoding.encode s.1.1, .symbol s.2 s.1.2)) ++
    g.slots.zipIdx.map (fun s => (s.1.key, .reference s.2)) ++
    terminators.map fun s => (g.encoding.encode s, .terminator)

/-- A lexicon that answers by the longest of some tokens. -/
structure Answers (lex : Lexicon) (tokens : List (Bytes × TokenClass)) : Prop where
  lawful : lex.table.Lawful
  found : ∀ bytes, match longestMatch? tokens bytes with
    | none => lex.table.match? bytes = none
    | some (token, cls) => ∃ index, lex.table.match? bytes = some (index, token.length) ∧
        lex.classify index = cls

theorem classify_eq_symbol {lex : Lexicon} {index symbol : Nat} {role : Role} :
    lex.classify index = .symbol symbol role ↔
      index = symbol ∧ lex.roles[index]? = some role := by
  unfold classify
  cases lex.roles[index]? with
  | some found => simp
  | none =>
    simp only [reduceCtorEq, and_false, iff_false]
    split <;> simp

variable {symbols : List (String × Role)} {g : Glossary} {terminators : List String}

/-- The number of a token tells its class. -/
theorem classify_entry {index : Nat} {token : Bytes} {cls : TokenClass}
    (h : (entries symbols g terminators)[index]? = some (token, cls)) :
    (make symbols g terminators).classify index = cls := by
  have hroles : (make symbols g terminators).roles = symbols.map (·.2) := rfl
  have hnames : (make symbols g terminators).names.length = g.slots.length := by
    simp [make]
  unfold classify
  rw [hroles, hnames, List.length_map, List.getElem?_map]
  rw [entries, List.append_assoc] at h
  by_cases hsymbol : index < symbols.length
  · rw [List.getElem?_append_left (by simpa using hsymbol)] at h
    simp only [List.getElem?_map, List.getElem?_zipIdx, List.getElem?_eq_getElem hsymbol,
      Option.map_some, Option.some.injEq, Prod.mk.injEq, Nat.zero_add] at h ⊢
    exact h.2
  · rw [List.getElem?_append_right (by simpa using hsymbol)] at h
    simp only [List.length_map, List.length_zipIdx] at h
    rw [List.getElem?_eq_none_iff.2 (Nat.le_of_not_lt hsymbol), Option.map_none]
    by_cases hslot : index < symbols.length + g.slots.length
    · rw [List.getElem?_append_left (by simp; omega)] at h
      simp only [List.getElem?_map, List.getElem?_zipIdx,
        List.getElem?_eq_getElem (show index - symbols.length < g.slots.length by omega),
        Option.map_some, Option.some.injEq, Prod.mk.injEq, Nat.zero_add] at h
      simp only [if_pos hslot]
      exact h.2
    · rw [List.getElem?_append_right (by simp; omega), List.getElem?_map,
        Option.map_eq_some_iff] at h
      obtain ⟨terminator, -, heq⟩ := h
      simp only [if_neg hslot]
      exact (Prod.mk.inj heq).2

/-- **A lexicon answers by the longest of its tokens**, and of equal ones by the last. -/
theorem answers_make (symbols : List (String × Role)) (g : Glossary) (terminators : List String) :
    (make symbols g terminators).Answers (entries symbols g terminators) := by
  have htable : (make symbols g terminators).table =
      .ofList ((entries symbols g terminators).map (·.1)) := by
    have hsymbols : symbols.zipIdx.map (fun s => g.encoding.encode s.1.1) =
        symbols.map (g.encoding.encode ·.1) := by
      conv_rhs => rw [← List.zipIdx_map_fst 0 symbols, List.map_map]
      rfl
    have hslots : g.slots.zipIdx.map (fun s => s.1.key) = g.slots.map (·.key) := by
      conv_rhs => rw [← List.zipIdx_map_fst 0 g.slots, List.map_map]
      rfl
    simp only [make, entries, List.map_append, List.map_map, Function.comp_def, hsymbols, hslots]
  refine ⟨TokenTable.lawful_ofList _, fun bytes => ?_⟩
  have hentry := TokenTable.match?_entry (entries symbols g terminators) bytes
  rw [htable]
  split at hentry
  · rename_i hnone
    rw [hnone]
    exact hentry
  · rename_i token cls hsome
    obtain ⟨index, hmatch, hindex⟩ := hentry
    rw [hsome]
    exact ⟨index, hmatch, classify_entry hindex⟩

/-- A number of a symbol belongs to one token. -/
def Distinct (tokens : List (Bytes × TokenClass)) : Prop :=
  ∀ (token token' : Bytes) (index : Nat) (role : Role), (token, .symbol index role) ∈ tokens →
    (token', .symbol index role) ∈ tokens → token = token'

theorem mem_entries_symbol {token : Bytes} {index : Nat} {role : Role} :
    (token, .symbol index role) ∈ entries symbols g terminators ↔
      ∃ s, symbols[index]? = some (s, role) ∧ g.encoding.encode s = token := by
  simp only [entries, List.mem_append, List.mem_map, Prod.exists, List.mk_mem_zipIdx_iff_getElem?,
    Prod.mk.injEq, TokenClass.symbol.injEq, reduceCtorEq, and_false, exists_false, or_false]
  constructor
  · rintro ⟨s, role, i, h, rfl, rfl, rfl⟩
    exact ⟨s, h, rfl⟩
  · rintro ⟨s, h, rfl⟩
    exact ⟨s, role, index, h, rfl, rfl, rfl⟩

theorem distinct_entries (symbols : List (String × Role)) (g : Glossary)
    (terminators : List String) : Distinct (entries symbols g terminators) := by
  intro token token' index role h h'
  obtain ⟨s, hs, rfl⟩ := mem_entries_symbol.1 h
  obtain ⟨s', hs', rfl⟩ := mem_entries_symbol.1 h'
  rw [hs] at hs'
  cases hs'
  rfl

/-! ## Pieces -/

/-- A piece of a condition. -/
inductive Piece where
  | operator (index : Nat) (token : Bytes)
  | separator (index : Nat) (token : Bytes)
  /-- The name of the variable in a slot. -/
  | name (slot : Nat) (key : Bytes)
  /-- A text between two quotes. -/
  | quoted (index : Nat) (quote text : Bytes)
  /-- Bytes that are none of these. -/
  | literal (bytes : Bytes)

namespace Piece

def bytes : Piece → Bytes
  | operator _ token => token
  | separator _ token => token
  | name _ key => key
  | quoted _ quote text => quote ++ (text ++ quote)
  | literal bytes => bytes

/-- What becomes of a piece: a separator is dropped. -/
def lexeme? (e : Encoding) : Piece → Option Lexeme
  | operator index _ => some (.symbol index)
  | separator _ _ => none
  | name slot _ => some (.reference slot)
  | quoted _ _ text => some (.quoted (e.decode text))
  | literal bytes => some (.literal (e.decode bytes))

end Piece

section

variable (tokens : List (Bytes × TokenClass)) (e : Encoding)

def LineEndAt (bytes : Bytes) : Prop :=
  ∃ token index, longestMatch? tokens bytes = some (token, .symbol index .lineEnd)

/-- **Bytes that are read as they stand**, before some others. They go on by a code unit at which
no token stands, or by a name that is no whole word: one that a word goes on behind, or that stands
behind other such bytes. -/
inductive Stretch (after : Bytes) : Bool → Bytes → Prop
  | nil {begun : Bool} : Stretch after begun []
  | unit {begun : Bool} {unit rest : Bytes} :
      longestMatch? tokens (unit ++ (rest ++ after)) = none → unit ≠ [] →
      (unit ++ (rest ++ after)).take e.unitWidth = unit → Stretch after true rest →
      Stretch after begun (unit ++ rest)
  | word {begun : Bool} {slot : Nat} {key rest : Bytes} :
      longestMatch? tokens (key ++ (rest ++ after)) = some (key, .reference slot) →
      (begun = true ∨ wordNext e (rest ++ after) = true) → Stretch after true rest →
      Stretch after begun (key ++ rest)

/-- Nothing more is read as it stands: the input ends, or a token stands here that is no name. -/
def Ended (bytes : Bytes) : Prop :=
  bytes = [] ∨ ∃ token cls, longestMatch? tokens bytes = some (token, cls) ∧
    ∀ slot, cls ≠ .reference slot

/-- **Bytes inside of quotes**, before some others: code units at which neither the same quote nor
a line ending stands. -/
inductive Inside (quote : Nat) (after : Bytes) : Bytes → Prop
  | nil : Inside quote after []
  | unit {unit rest : Bytes} :
      (∀ token, longestMatch? tokens (unit ++ (rest ++ after)) ≠
        some (token, .symbol quote .quote)) →
      ¬ LineEndAt tokens (unit ++ (rest ++ after)) → unit ≠ [] →
      (unit ++ (rest ++ after)).take e.unitWidth = unit → Inside quote after rest →
      Inside quote after (unit ++ rest)

/-- **A piece at its place**, before all that comes after it: each token is the longest one there,
a name is not followed by a word, a quote is closed by the same token, and other bytes go on as far
as they can. -/
def Piece.Stands (after : Bytes) : Piece → Prop
  | .operator index token =>
    longestMatch? tokens (token ++ after) = some (token, .symbol index .operator)
  | .separator index token =>
    longestMatch? tokens (token ++ after) = some (token, .symbol index .separator)
  | .name slot key => longestMatch? tokens (key ++ after) = some (key, .reference slot) ∧
      wordNext e after = false
  | .quoted index quote text =>
    longestMatch? tokens (quote ++ (text ++ (quote ++ after))) =
        some (quote, .symbol index .quote) ∧
      Inside tokens e index (quote ++ after) text ∧
        longestMatch? tokens (quote ++ after) = some (quote, .symbol index .quote)
  | .literal bytes => bytes ≠ [] ∧ Stretch tokens e after false bytes ∧ Ended tokens after

/-- **A text that begins with some pieces**, one after the other, and goes on with a rest. -/
inductive Passes : Bytes → List Piece → Bytes → Prop
  | nil {rest : Bytes} : Passes rest [] rest
  | cons {piece : Piece} {after rest : Bytes} {pieces : List Piece} :
      piece.Stands tokens e after → Passes after pieces rest →
      Passes (piece.bytes ++ after) (piece :: pieces) rest

/-- **The end of a condition**, with the terminator that is passed and all that is left. -/
inductive Ends : Bytes → Bytes → Prop
  | input : Ends [] []
  | line {rest : Bytes} : LineEndAt tokens rest → Ends [] rest
  | terminator {token rest : Bytes} :
      longestMatch? tokens (token ++ rest) = some (token, .terminator) → Ends token rest

/-- **A quoted text that is not closed**, with the line ending or the end that it meets. -/
inductive Unclosed : Bytes → Bytes → Bytes → Prop
  | mk {index : Nat} {quote text rest : Bytes} :
      longestMatch? tokens (quote ++ (text ++ rest)) = some (quote, .symbol index .quote) →
      Inside tokens e index rest text → rest = [] ∨ LineEndAt tokens rest →
      Unclosed (quote ++ (text ++ rest)) text rest

end

variable {tokens : List (Bytes × TokenClass)} {e : Encoding}

/-- Pieces lie side by side: there is nothing between them and nothing twice. -/
theorem Passes.eq_append {bytes rest : Bytes} {pieces : List Piece}
    (h : Passes tokens e bytes pieces rest) : bytes = pieces.flatMap Piece.bytes ++ rest := by
  induction h with
  | nil => rfl
  | cons _ _ ih => rw [List.flatMap_cons, List.append_assoc, ← ih]

/-- Some pieces pass a text if the first ones do, and the others what these leave. -/
theorem Passes.of_append {pieces : List Piece} : ∀ {before : List Piece} {bytes rest : Bytes},
    Passes tokens e bytes (before ++ pieces) rest →
      ∃ middle, Passes tokens e bytes before middle ∧ Passes tokens e middle pieces rest
  | [], _, _, h => ⟨_, .nil, h⟩
  | _ :: _, _, _, .cons hpiece h =>
    have ⟨middle, hbefore, hpieces⟩ := of_append h
    ⟨middle, .cons hpiece hbefore, hpieces⟩

/-! ## Every text has pieces -/

/-- The bytes at which a token stands, cut behind it. -/
theorem exists_append_of_match {bytes token : Bytes} {cls : TokenClass}
    (h : longestMatch? tokens bytes = some (token, cls)) :
    token ≠ [] ∧ ∃ rest, bytes = token ++ rest := by
  obtain ⟨-, hne, ⟨rest, hrest⟩, -⟩ := longestMatch?_spec h
  exact ⟨hne, rest, hrest.symm⟩

/-- No piece is empty. -/
theorem Piece.Stands.bytes_ne_nil {piece : Piece} {after : Bytes}
    (h : piece.Stands tokens e after) : piece.bytes ≠ [] := by
  cases piece with
  | operator index token => exact (exists_append_of_match h).1
  | separator index token => exact (exists_append_of_match h).1
  | name slot key => exact (exists_append_of_match h.1).1
  | quoted index quote text =>
    exact List.append_ne_nil_of_left_ne_nil (exists_append_of_match h.1).1 _
  | literal bytes => exact h.1

/-- The bytes before the input's end, cut behind one code unit. -/
theorem exists_unit (e : Encoding) {bytes : Bytes} (h : bytes ≠ []) : ∃ unit rest,
    bytes = unit ++ rest ∧ unit ≠ [] ∧ (unit ++ rest).take e.unitWidth = unit := by
  have hwidth := e.unitWidth_pos
  refine ⟨bytes.take e.unitWidth, bytes.drop e.unitWidth,
    (List.take_append_drop _ _).symm, ?_, by rw [List.take_append_drop]⟩
  rw [Ne, List.take_eq_nil_iff]
  exact not_or.2 ⟨hwidth.ne', h⟩

/-- Bytes are read as they stand until nothing more is. -/
theorem exists_stretch (tokens : List (Bytes × TokenClass)) (e : Encoding) (n : Nat) :
    ∀ bytes : Bytes, bytes.length ≤ n → ∃ literal after, bytes = literal ++ after ∧
      Stretch tokens e after true literal ∧ Ended tokens after := by
  induction n with
  | zero =>
    intro bytes hn
    exact ⟨[], bytes, rfl, .nil, .inl (List.length_eq_zero_iff.1 (Nat.le_zero.1 hn))⟩
  | succ n ih =>
    intro bytes hn
    by_cases hended : Ended tokens bytes
    · exact ⟨[], bytes, rfl, .nil, hended⟩
    have hne : bytes ≠ [] := fun hnil => hended (.inl hnil)
    cases hmatch : longestMatch? tokens bytes with
    | none =>
      obtain ⟨unit, rest, rfl, hunit, htake⟩ := exists_unit e hne
      have hpos := List.length_pos_iff.2 hunit
      rw [List.length_append] at hn
      obtain ⟨literal, after, rfl, hstretch, hafter⟩ := ih rest (by omega)
      exact ⟨unit ++ literal, after, (List.append_assoc ..).symm,
        .unit hmatch hunit htake hstretch, hafter⟩
    | some found =>
      obtain ⟨token, cls⟩ := found
      obtain ⟨htoken, rest, rfl⟩ := exists_append_of_match hmatch
      have hpos := List.length_pos_iff.2 htoken
      rw [List.length_append] at hn
      obtain ⟨literal, after, rfl, hstretch, hafter⟩ := ih rest (by omega)
      cases cls with
      | reference slot =>
        exact ⟨token ++ literal, after, (List.append_assoc ..).symm,
          .word hmatch (.inl rfl) hstretch, hafter⟩
      | symbol index role => exact absurd (.inr ⟨token, _, hmatch, nofun⟩) hended
      | terminator => exact absurd (.inr ⟨token, _, hmatch, nofun⟩) hended

/-- Bytes inside of quotes go on until something ends them. -/
theorem exists_inside (tokens : List (Bytes × TokenClass)) (e : Encoding) (quote n : Nat) :
    ∀ bytes : Bytes, bytes.length ≤ n → ∃ text after, bytes = text ++ after ∧
      Inside tokens e quote after text ∧ (after = [] ∨ LineEndAt tokens after ∨
        ∃ token, longestMatch? tokens after = some (token, .symbol quote .quote)) := by
  induction n with
  | zero =>
    intro bytes hn
    exact ⟨[], bytes, rfl, .nil, .inl (List.length_eq_zero_iff.1 (Nat.le_zero.1 hn))⟩
  | succ n ih =>
    intro bytes hn
    by_cases hend : bytes = [] ∨ LineEndAt tokens bytes ∨
        ∃ token, longestMatch? tokens bytes = some (token, .symbol quote .quote)
    · exact ⟨[], bytes, rfl, .nil, hend⟩
    obtain ⟨hne, hline, hquote⟩ : bytes ≠ [] ∧ ¬ LineEndAt tokens bytes ∧
        ¬ ∃ token, longestMatch? tokens bytes = some (token, .symbol quote .quote) := by
      rw [not_or, not_or] at hend
      exact hend
    obtain ⟨unit, rest, rfl, hunit, htake⟩ := exists_unit e hne
    have hpos := List.length_pos_iff.2 hunit
    rw [List.length_append] at hn
    obtain ⟨text, after, rfl, hinside, hafter⟩ := ih rest (by omega)
    exact ⟨unit ++ text, after, (List.append_assoc ..).symm,
      .unit (not_exists.1 hquote) hline hunit htake hinside, hafter⟩

/-- Where no symbol or terminator stands, a name or other bytes begin. -/
theorem exists_word (e : Encoding) {bytes : Bytes} (hended : ¬ Ended tokens bytes) :
    ∃ (piece : Piece) (after : Bytes), bytes = piece.bytes ++ after ∧ piece.bytes ≠ [] ∧
      piece.Stands tokens e after := by
  have hne : bytes ≠ [] := fun hnil => hended (.inl hnil)
  cases hmatch : longestMatch? tokens bytes with
  | none =>
    obtain ⟨unit, rest, rfl, hunit, htake⟩ := exists_unit e hne
    obtain ⟨literal, after, rfl, hstretch, hafter⟩ := exists_stretch tokens e _ rest le_rfl
    have hwhole : unit ++ literal ≠ [] := List.append_ne_nil_of_left_ne_nil hunit _
    exact ⟨.literal (unit ++ literal), after, (List.append_assoc ..).symm, hwhole, hwhole,
      .unit hmatch hunit htake hstretch, hafter⟩
  | some found =>
    obtain ⟨token, cls⟩ := found
    obtain ⟨htoken, rest, rfl⟩ := exists_append_of_match hmatch
    cases cls with
    | symbol index role => exact absurd (.inr ⟨token, _, hmatch, nofun⟩) hended
    | terminator => exact absurd (.inr ⟨token, _, hmatch, nofun⟩) hended
    | reference slot =>
      cases hword : wordNext e rest with
      | false => exact ⟨.name slot token, rest, rfl, htoken, hmatch, hword⟩
      | true =>
        obtain ⟨literal, after, rfl, hstretch, hafter⟩ := exists_stretch tokens e _ rest le_rfl
        have hwhole : token ++ literal ≠ [] := List.append_ne_nil_of_left_ne_nil htoken _
        exact ⟨.literal (token ++ literal), after, (List.append_assoc ..).symm, hwhole, hwhole,
          .word hmatch (.inr hword) hstretch, hafter⟩

/-- What a text begins with: it is the end, a quoted text that is not closed, or a piece. -/
theorem exists_piece (honly : Distinct tokens) (e : Encoding) (bytes : Bytes) :
    (∃ terminator rest, bytes = terminator ++ rest ∧ Ends tokens terminator rest) ∨
      (∃ text rest, Unclosed tokens e bytes text rest) ∨
      ∃ (piece : Piece) (after : Bytes), bytes = piece.bytes ++ after ∧ piece.bytes ≠ [] ∧
        piece.Stands tokens e after := by
  by_cases hended : Ended tokens bytes
  · rcases hended with rfl | ⟨token, cls, hmatch, hcls⟩
    · exact .inl ⟨[], [], rfl, .input⟩
    obtain ⟨htoken, rest, rfl⟩ := exists_append_of_match hmatch
    cases cls with
    | reference slot => exact absurd rfl (hcls slot)
    | terminator => exact .inl ⟨token, rest, rfl, .terminator hmatch⟩
    | symbol index role =>
      cases role with
      | lineEnd => exact .inl ⟨[], token ++ rest, rfl, .line ⟨token, index, hmatch⟩⟩
      | operator => exact .inr (.inr ⟨.operator index token, rest, rfl, htoken, hmatch⟩)
      | separator => exact .inr (.inr ⟨.separator index token, rest, rfl, htoken, hmatch⟩)
      | quote =>
        obtain ⟨text, after, rfl, hinside, hafter⟩ := exists_inside tokens e index _ rest le_rfl
        rcases hafter with rfl | hline | ⟨close, hclose⟩
        · exact .inr (.inl ⟨text, [], .mk hmatch hinside (.inl rfl)⟩)
        · exact .inr (.inl ⟨text, after, .mk hmatch hinside (.inr hline)⟩)
        · obtain ⟨-, rest, rfl⟩ := exists_append_of_match hclose
          -- the quote that closes the text is the one that opens it
          obtain rfl := honly _ _ _ _ (longestMatch?_spec hmatch).1 (longestMatch?_spec hclose).1
          refine .inr (.inr ⟨.quoted index token text, rest, ?_, ?_, hmatch, hinside, hclose⟩)
          · simp only [Piece.bytes, List.append_assoc]
          · exact List.append_ne_nil_of_left_ne_nil htoken _
  · exact .inr (.inr (exists_word e hended))

/-- **Every text begins with pieces**, up to its end, a line ending or a terminator, or up to a
quoted text that is not closed. -/
theorem exists_pieces (honly : Distinct tokens) (e : Encoding) (n : Nat) :
    ∀ bytes : Bytes, bytes.length ≤ n → ∃ pieces rest, Passes tokens e bytes pieces rest ∧
      ((∃ terminator rest', rest = terminator ++ rest' ∧ Ends tokens terminator rest') ∨
        ∃ text rest', Unclosed tokens e rest text rest') := by
  induction n with
  | zero =>
    intro bytes hn
    obtain rfl := List.length_eq_zero_iff.1 (Nat.le_zero.1 hn)
    exact ⟨[], [], .nil, .inl ⟨[], [], rfl, .input⟩⟩
  | succ n ih =>
    intro bytes hn
    rcases exists_piece honly e bytes with hends | hunclosed | ⟨piece, after, rfl, hne, hpiece⟩
    · exact ⟨[], bytes, .nil, .inl hends⟩
    · exact ⟨[], bytes, .nil, .inr hunclosed⟩
    · have hpos := List.length_pos_iff.2 hne
      rw [List.length_append] at hn
      obtain ⟨pieces, rest, hpasses, hend⟩ := ih after (by omega)
      exact ⟨piece :: pieces, rest, .cons hpiece hpasses, hend⟩

end Lexicon

end Templating

import Mathlib.Data.List.Perm.Basic
import Templating.Proofs.CommonLanguage
import Templating.Proofs.Layers
import Templating.Proofs.Splitting

/-!
# The numbers of slots

The slots of a condition are numbered in the order in which the visible names are listed.
Collections that see the same values may list the names in another order: then the same tokens stand
in a condition under other numbers, and nothing else changes.

* `Variables.Same`: collections that see the same values.
* `Lexicon.Renumbers`: the same tokens, with other numbers for slots.
* `Lexicon.tokenize_renumber`: they give the same lexemes, but for these numbers.
* `Grammar.accept_renumber`, `Term.evaluate_renumber`: these parse and mean the same.
* `Dialect.holds_congr`: **a condition is decided by the visible values.**
-/

namespace Templating

/-! ## Renumbered slots -/

variable {ρ : Nat → Nat}

def Lexicon.TokenClass.renumber (ρ : Nat → Nat) : TokenClass → TokenClass
  | reference slot => reference (ρ slot)
  | symbol index role => symbol index role
  | terminator => terminator

def Lexeme.renumber (ρ : Nat → Nat) : Lexeme → Lexeme
  | reference slot => reference (ρ slot)
  | symbol index => symbol index
  | literal text => literal text
  | quoted text => quoted text

namespace Lexicon.Piece

def renumber (ρ : Nat → Nat) : Piece → Piece
  | name slot key => name (ρ slot) key
  | operator index token => operator index token
  | separator index token => separator index token
  | quoted index quote text => quoted index quote text
  | literal bytes => literal bytes

theorem bytes_renumber (ρ : Nat → Nat) (piece : Piece) :
    (piece.renumber ρ).bytes = piece.bytes := by
  cases piece <;> rfl

theorem lexeme?_renumber (e : Encoding) (piece : Piece) :
    (piece.renumber ρ).lexeme? e = (piece.lexeme? e).map (Lexeme.renumber ρ) := by
  cases piece <;> rfl

theorem filterMap_renumber (e : Encoding) (pieces : List Piece) :
    (pieces.map (renumber ρ)).filterMap (lexeme? e) =
      (pieces.filterMap (lexeme? e)).map (Lexeme.renumber ρ) := by
  rw [List.filterMap_map, List.map_filterMap]
  exact congrArg (List.filterMap · pieces) (funext (lexeme?_renumber e))

end Lexicon.Piece

def Operand.renumber (ρ : Nat → Nat) : Operand → Operand
  | reference slot => reference (ρ slot)
  | literal v => literal v

def Part.renumber (ρ : Nat → Nat) : Part → Part
  | operand o => operand (o.renumber ρ)
  | operator between before => operator between before
  | opening => opening
  | closing => closing

def Term.renumber (ρ : Nat → Nat) : Term → Term
  | operand o => operand (o.renumber ρ)
  | unary op e => unary op (e.renumber ρ)
  | binary op left right => binary op (left.renumber ρ) (right.renumber ρ)

namespace Lexicon

/-! ## Tokens -/

/-- The same tokens, with other numbers for slots: they are found at the same places. -/
def Renumbers (ρ : Nat → Nat) (tokens tokens' : List (Bytes × TokenClass)) : Prop :=
  ∀ bytes, longestMatch? tokens' bytes =
    (longestMatch? tokens bytes).map fun e => (e.1, e.2.renumber ρ)

section Matching

variable {α β : Type} [DecidableEq α]

/-- Entries with different keys may be looked at in any order. -/
theorem prefer_comm (text : List α) {e e' : List α × β} (h : e.1 = e'.1 → e = e')
    (best : Option (List α × β)) :
    prefer text (prefer text best e) e' = prefer text (prefer text best e') e := by
  by_cases heq : e = e'
  · rw [heq]
  have hkeys : e.1 ≠ e'.1 := fun hkey => heq (h hkey)
  -- of two beginnings of a text that differ one is longer
  have hlength : e.1 <+: text → e'.1 <+: text → e.1.length ≠ e'.1.length := fun hpre hpre' hlen =>
    hkeys ((List.prefix_of_prefix_length_le hpre hpre' hlen.le).eq_of_length hlen)
  unfold prefer
  grind

theorem longestMatch?_perm (front : List (List α × β)) {entries entries' : List (List α × β)}
    (h : entries.Perm entries') (honly : ∀ e ∈ entries, ∀ e' ∈ entries, e.1 = e'.1 → e = e')
    (text : List α) :
    longestMatch? (front ++ entries) text = longestMatch? (front ++ entries') text := by
  unfold longestMatch?
  rw [List.foldl_append, List.foldl_append]
  exact h.foldl_eq' (fun e he e' he' best => prefer_comm text (honly e he e' he') best) _

end Matching

namespace Renumbers

variable {tokens tokens' : List (Bytes × TokenClass)} (h : Renumbers ρ tokens tokens')
  {e : Encoding} {bytes token : Bytes} {cls : TokenClass} {index : Nat} {role : Role}

include h

theorem match_none (hmatch : longestMatch? tokens bytes = none) :
    longestMatch? tokens' bytes = none := by
  rw [h, hmatch, Option.map_none]

theorem match_some (hmatch : longestMatch? tokens bytes = some (token, cls)) :
    longestMatch? tokens' bytes = some (token, cls.renumber ρ) := by
  rw [h, hmatch, Option.map_some]

/-- Symbols keep their numbers. -/
theorem symbol_iff : longestMatch? tokens' bytes = some (token, .symbol index role) ↔
    longestMatch? tokens bytes = some (token, .symbol index role) := by
  refine ⟨fun hmatch => ?_, h.match_some⟩
  rw [h, Option.map_eq_some_iff] at hmatch
  obtain ⟨⟨found, cls⟩, hfound, heq⟩ := hmatch
  cases cls with
  | symbol index role =>
    cases heq
    exact hfound
  | reference | terminator => cases heq

theorem lineEndAt_iff : LineEndAt tokens' bytes ↔ LineEndAt tokens bytes := by
  unfold LineEndAt
  simp only [h.symbol_iff]

/-! ## Pieces -/

theorem stretch {after : Bytes} {begun : Bool} (hs : Stretch tokens e after begun bytes) :
    Stretch tokens' e after begun bytes := by
  induction hs with
  | nil => exact .nil
  | unit hnone hne htake _ ih => exact .unit (h.match_none hnone) hne htake ih
  | word hmatch hpart _ ih => exact .word (h.match_some hmatch) hpart ih

theorem inside {quote : Nat} {after : Bytes} (hi : Inside tokens e quote after bytes) :
    Inside tokens' e quote after bytes := by
  induction hi with
  | nil => exact .nil
  | unit hquote hline hne htake _ ih =>
    exact .unit (fun token => h.symbol_iff.not.2 (hquote token)) (h.lineEndAt_iff.not.2 hline) hne
      htake ih

theorem ended (he : Ended tokens bytes) : Ended tokens' bytes := by
  refine he.imp_right ?_
  rintro ⟨token, cls, hmatch, hcls⟩
  refine ⟨token, cls.renumber ρ, h.match_some hmatch, fun slot heq => ?_⟩
  cases cls with
  | reference slot => exact hcls slot rfl
  | symbol | terminator => cases heq

theorem stands {piece : Piece} {after : Bytes} (hs : piece.Stands tokens e after) :
    (piece.renumber ρ).Stands tokens' e after := by
  cases piece with
  | operator | separator => exact h.symbol_iff.2 hs
  | name => exact ⟨h.match_some hs.1, hs.2⟩
  | quoted => exact ⟨h.symbol_iff.2 hs.1, h.inside hs.2.1, h.symbol_iff.2 hs.2.2⟩
  | literal => exact ⟨hs.1, h.stretch hs.2.1, h.ended hs.2.2⟩

theorem passes {pieces : List Piece} {rest : Bytes} (hp : Passes tokens e bytes pieces rest) :
    Passes tokens' e bytes (pieces.map (Piece.renumber ρ)) rest := by
  induction hp with
  | nil => exact .nil
  | @cons piece after rest pieces hpiece _ ih =>
    rw [← Piece.bytes_renumber ρ piece]
    exact .cons (h.stands hpiece) ih

theorem ends {terminator rest : Bytes} (he : Ends tokens terminator rest) :
    Ends tokens' terminator rest := by
  cases he with
  | input => exact .input
  | line hline => exact .line (h.lineEndAt_iff.2 hline)
  | terminator hmatch => exact .terminator (h.match_some hmatch)

theorem unclosed {text rest : Bytes} (hu : Unclosed tokens e bytes text rest) :
    Unclosed tokens' e bytes text rest := by
  obtain ⟨hquote, hinside, hend⟩ := hu
  exact .mk (h.symbol_iff.2 hquote) (h.inside hinside) (hend.imp_right h.lineEndAt_iff.2)

end Renumbers

/-- **Renumbered tokens give renumbered lexemes**, or the same error. -/
theorem tokenize_renumber {lex lex' : Lexicon} {tokens tokens' : List (Bytes × TokenClass)}
    (hk : lex.Answers tokens) (hk' : lex'.Answers tokens') (he : lex'.encoding = lex.encoding)
    (honly : Distinct tokens) (h : Renumbers ρ tokens tokens') (source : Bytes) :
    match lex.tokenize (Slice.ofBytes source) with
    | .ok xs _ => ∃ s', lex'.tokenize (Slice.ofBytes source) = .ok (xs.map (Lexeme.renumber ρ)) s'
    | .error e _ => ∃ s', lex'.tokenize (Slice.ofBytes source) = .error e s' := by
  have hshows := Slice.shows_leaves source
  have hstart := Slice.leaves_ofBytes source
  cases hresult : lex.tokenize (Slice.ofBytes source) with
  | ok xs s =>
    obtain ⟨pieces, terminator, rest, hpasses, hends, rfl, -⟩ :=
      of_tokenize_ok hshows hk honly hstart hresult
    rw [← he] at hpasses
    obtain ⟨s', hok, -⟩ := gives_tokenize hshows hk' (h.passes hpasses) (h.ends hends) _ hstart
    refine ⟨s', ?_⟩
    rw [hok, he, Piece.filterMap_renumber]
  | error error s =>
    obtain ⟨pieces, middle, text, rest, hpasses, hunclosed, rfl, -⟩ :=
      of_tokenize_error hshows hk honly hstart hresult
    rw [← he] at hpasses hunclosed
    obtain ⟨s', herror, -⟩ :=
      fails_tokenize hshows hk' (h.passes hpasses) (h.unclosed hunclosed) hstart
    exact ⟨s', by rw [herror, he]⟩

end Lexicon

/-! ## Terms -/

namespace Grammar

/-- A grammar that takes renumbered lexemes for renumbered operands. -/
def Renumbers (ρ : Nat → Nat) (G G' : Grammar) : Prop :=
  ∀ x : Lexeme, G' (x.renumber ρ) = (G x).renumber ρ

def Frame.renumber (ρ : Nat → Nat) : Frame → Frame
  | group => group
  | unary op => unary op
  | binary op level left => binary op level (left.renumber ρ)

def Stack.renumber (ρ : Nat → Nat) (σ : Stack) : Stack :=
  ⟨σ.frames.map (Frame.renumber ρ), σ.focus.map (Term.renumber ρ)⟩

theorem reduce_renumber (ρ : Nat → Nat) (level : Nat) (F : List Frame) (e : Term) :
    reduce level (F.map (Frame.renumber ρ)) (e.renumber ρ) =
      ((reduce level F e).1.map (Frame.renumber ρ), (reduce level F e).2.renumber ρ) := by
  fun_induction reduce level F e with
  | case1 F op e ih => exact ih
  | case2 F op l a e hl ih =>
    rw [List.map_cons, Frame.renumber, reduce, if_pos hl]
    exact ih
  | case3 F op l a e hl =>
    rw [List.map_cons, Frame.renumber, reduce, if_neg hl]
  | case4 | case5 => rfl

variable {G G' : Grammar} (h : Renumbers ρ G G')

include h

/-- **One lexeme**: the machine goes on alike. -/
theorem step_renumber (σ : Stack) (x : Lexeme) :
    G'.step (σ.renumber ρ) (x.renumber ρ) = (G.step σ x).map (Stack.renumber ρ) := by
  obtain ⟨F, focus⟩ := σ
  cases hx : G x with
  | operand o =>
    have hx' : G' (x.renumber ρ) = .operand (o.renumber ρ) := by rw [h, hx, Part.renumber]
    cases focus <;> simp [step, hx, hx', Stack.renumber, Term.renumber]
  | opening =>
    have hx' : G' (x.renumber ρ) = .opening := by rw [h, hx, Part.renumber]
    cases focus <;> simp [step, hx, hx', Stack.renumber, Frame.renumber]
  | closing =>
    have hx' : G' (x.renumber ρ) = .closing := by rw [h, hx, Part.renumber]
    cases focus with
    | none => simp [step, hx, hx', Stack.renumber]
    | some e =>
      have hreduce := reduce_renumber ρ 0 F e
      rcases hF : reduce 0 F e with ⟨_ | ⟨frame, F'⟩, inner⟩
      · simp [step, hx, hx', Stack.renumber, hreduce, hF]
      · cases frame <;> simp [step, hx, hx', Stack.renumber, hreduce, hF, Frame.renumber]
  | operator between before =>
    have hx' : G' (x.renumber ρ) = .operator between before := by rw [h, hx, Part.renumber]
    cases focus with
    | none => cases before <;> simp [step, hx, hx', Stack.renumber, Frame.renumber]
    | some e =>
      cases between with
      | none => simp [step, hx, hx', Stack.renumber]
      | some b =>
        have hreduce := reduce_renumber ρ b.2 F e
        simp [step, hx, hx', Stack.renumber, hreduce, Frame.renumber]

theorem run_renumber (σ : Stack) (xs : List Lexeme) :
    G'.run (σ.renumber ρ) (xs.map (Lexeme.renumber ρ)) = (G.run σ xs).map (Stack.renumber ρ) := by
  induction xs generalizing σ with
  | nil => rfl
  | cons x xs ih =>
    rw [List.map_cons, run_cons, run_cons, step_renumber h]
    cases G.step σ x with
    | none => rfl
    | some σ' => exact ih σ'

omit h in
theorem Stack.finish?_renumber (σ : Stack) :
    (σ.renumber ρ).finish? = σ.finish?.map (Term.renumber ρ) := by
  obtain ⟨F, focus⟩ := σ
  cases focus with
  | none => rfl
  | some e =>
    have hreduce := reduce_renumber ρ 0 F e
    rcases hF : reduce 0 F e with ⟨_ | ⟨frame, F'⟩, whole⟩ <;>
      simp [finish?, renumber, hreduce, hF]

/-- **Renumbered lexemes have the renumbered parse.** -/
theorem accept_renumber (xs : List Lexeme) :
    G'.accept (xs.map (Lexeme.renumber ρ)) = (G.accept xs).map (Term.renumber ρ) := by
  have hrun : G'.run ⟨[], none⟩ (xs.map (Lexeme.renumber ρ)) = _ := run_renumber h ⟨[], none⟩ xs
  rw [accept, accept, hrun]
  cases G.run ⟨[], none⟩ xs with
  | none => rfl
  | some σ => exact σ.finish?_renumber

end Grammar

theorem Term.evaluate_renumber {c : Converter} {resolve resolve' : Nat → Value}
    (h : ∀ slot, resolve' (ρ slot) = resolve slot) (e : Term) :
    (e.renumber ρ).evaluate c resolve' = e.evaluate c resolve := by
  induction e with
  | operand o =>
    cases o with
    | literal v => rfl
    | reference slot => exact congrArg Except.ok (h slot)
  | unary op e ih => rw [renumber, evaluate, evaluate, ih]
  | binary op left right ihl ihr => rw [renumber, evaluate, evaluate, ihl, ihr]

/-! ## Collections that see the same values -/

namespace Variables

/-- **Collections that see the same values.** -/
def Same (v w : Variables) : Prop := ∀ key, v.get? key = w.get? key

/-- The slot of another collection for the name in a slot. -/
def slotIn (v w : Variables) (slot : Nat) : Nat :=
  match v.keys[slot]? with
  | some key => w.keys.idxOf key
  | none => slot

variable {v w : Variables}

theorem slotIn_idxOf {key : String} (hkey : key ∈ v.keys) :
    v.slotIn w (v.keys.idxOf key) = w.keys.idxOf key := by
  rw [slotIn, List.getElem?_eq_getElem (List.idxOf_lt_length_of_mem hkey), List.getElem_idxOf]

namespace Same

variable (h : v.Same w)

include h

theorem mem_keys_iff {key : String} : key ∈ v.keys ↔ key ∈ w.keys := by
  rw [mem_keys, mem_keys, h key]

/-- They list the same names, in whatever order. -/
theorem perm_keys : v.keys.Perm w.keys :=
  (List.perm_ext_iff_of_nodup v.nodup_keys w.nodup_keys).2 fun _ => h.mem_keys_iff

theorem value_eq (key : String) : v.value key = w.value key := by
  rw [value, value, h key]

/-- A slot and the one that it becomes have the same value. -/
theorem resolve_slotIn (e : Encoding) (format : String) (slot : Nat) :
    (Glossary.make e w format).resolve (v.slotIn w slot) =
      (Glossary.make e v format).resolve slot := by
  cases hkey : v.keys[slot]? with
  | none =>
    have hkey' : w.keys[slot]? = none := by
      rw [List.getElem?_eq_none_iff, ← h.perm_keys.length_eq]
      exact List.getElem?_eq_none_iff.1 hkey
    simp [slotIn, hkey, Glossary.resolve, Glossary.make, List.getElem?_map, hkey']
  | some key =>
    have hmem := List.mem_of_getElem? hkey
    obtain ⟨hlt, hslot⟩ := List.getElem?_eq_some_iff.1 hkey
    have hidx : v.keys.idxOf key = slot := by rw [← hslot, v.nodup_keys.idxOf_getElem]
    rw [← hidx, slotIn_idxOf hmem, Vocabulary.resolve_idxOf hmem,
      Vocabulary.resolve_idxOf (h.mem_keys_iff.1 hmem), h.value_eq]

end Same

end Variables

namespace Lexicon

variable {v w : Variables}

/-- The names among the tokens of a lexicon, each with the slot that some collection has for it. -/
def nameTokens (e : Encoding) (v w : Variables) : List (Bytes × TokenClass) :=
  v.keys.map fun key => (e.encode key, .reference (w.keys.idxOf key))

/-- The names come last among the tokens of a condition that is a text of its own. -/
theorem entries_make (symbols : List (String × Role)) (e : Encoding) (v : Variables)
    (format : String) : entries symbols (.make e v format) [] =
      symbols.zipIdx.map (fun s => (e.encode s.1.1, .symbol s.2 s.1.2)) ++ nameTokens e v v := by
  have hnames : (Glossary.make e v format).slots.zipIdx.map
      (fun s => (s.1.key, TokenClass.reference s.2)) = nameTokens e v v := by
    refine List.ext_getElem (by simp [Glossary.make, nameTokens]) fun i hi hi' => ?_
    have hlt : i < v.keys.length := by simpa [nameTokens] using hi'
    simp [Glossary.make, nameTokens, Glossary.slot, v.nodup_keys.idxOf_getElem i hlt]
  rw [entries, hnames, List.map_nil, List.append_nil]
  rfl

/-- **The same names in another order**: the tokens are the same, but for the numbers of slots. -/
theorem renumbers_entries (h : v.Same w) (symbols : List (String × Role)) (e : Encoding)
    (format : String) :
    Renumbers (v.slotIn w) (entries symbols (.make e v format) [])
      (entries symbols (.make e w format) []) := by
  have hnames : (nameTokens e v v).map (fun t => (t.1, t.2.renumber (v.slotIn w))) =
      nameTokens e v w := by
    rw [nameTokens, List.map_map]
    refine List.map_congr_left fun key hkey => ?_
    rw [← Variables.slotIn_idxOf hkey]
    rfl
  have honly : ∀ t ∈ nameTokens e v w, ∀ t' ∈ nameTokens e v w, t.1 = t'.1 → t = t' := by
    intro t ht t' ht' heq
    obtain ⟨key, -, rfl⟩ := List.mem_map.1 ht
    obtain ⟨key', -, rfl⟩ := List.mem_map.1 ht'
    rw [String.toList_injective (e.text_injective heq)]
  intro bytes
  rw [← longestMatch?_mapValue, entries_make, entries_make, List.map_append, List.map_map, hnames]
  exact (longestMatch?_perm _ (h.perm_keys.map _) honly bytes).symm

end Lexicon

namespace Dialect

variable {d : Dialect} {v w : Variables}

theorem grammar_renumber (h : v.Same w) :
    Grammar.Renumbers (v.slotIn w) (d.grammar v) (d.grammar w) := by
  have hpart (use : SymbolUse) : use.part = use.part.renumber (v.slotIn w) := by cases use <;> rfl
  intro x
  cases d with
  | logical =>
    cases x with
    | symbol index =>
      show Logical.operator (Logical.vocabulary.symbol index).text =
        (Logical.operator (Logical.vocabulary.symbol index).text).renumber _
      rw [Logical.operator_symbol]
      exact hpart _
    | reference | literal | quoted => rfl
  | arithmetical =>
    cases x with
    | symbol index => exact hpart _
    | reference | literal => rfl
    | quoted text =>
      show Arithmetical.vocabulary.grammar w (.quoted text) =
        (Arithmetical.vocabulary.grammar v (.quoted text)).renumber _
      rw [Vocabulary.grammar, Vocabulary.grammar]
      by_cases hmem : text ∈ v.keys
      · rw [if_pos ⟨rfl, h.mem_keys_iff.1 hmem⟩, if_pos ⟨rfl, hmem⟩, ← Variables.slotIn_idxOf hmem]
        rfl
      · rw [if_neg fun hc => hmem (h.mem_keys_iff.2 hc.2), if_neg fun hc => hmem hc.2]
        rfl

/-- What a dialect decides is the value of the parse. -/
theorem decide_toOption (c : Converter) (xs : List Lexeme) :
    ((d.evaluator v c).decide xs).toOption = if xs = [] then some false else
      ((d.grammar v).accept xs).bind fun e =>
        (e.evaluate c (d.evaluator v c).glossary.resolve >>= c.toBool).toOption := by
  have hlexicon : (d.evaluator v c).decide xs = d.build (d.lexicon v) xs >>= fun t =>
      if t.isEmpty then pure false
      else t.evaluate c (d.evaluator v c).glossary.resolve >>= c.toBool := rfl
  rw [hlexicon]
  split
  · rename_i hnil
    subst hnil
    cases d <;> rfl
  · rename_i hne
    have hanswers := answers_build (d := d) (v := v) hne
    cases hbuild : d.build (d.lexicon v) xs with
    | error err =>
      rw [hbuild] at hanswers
      rw [show (d.grammar v).accept xs = none from hanswers]
      rfl
    | ok t =>
      rw [hbuild] at hanswers
      obtain ⟨e, haccept, hempty, -, hvalue⟩ := hanswers
      rw [haccept, Option.bind_some, ← hvalue]
      show (if t.isEmpty = true then pure false else _ : Except ExpressionError Bool).toOption = _
      rw [hempty]
      rfl

/-- **Renumbered lexemes are decided alike.** -/
theorem decide_renumber (h : v.Same w) (c : Converter) (xs : List Lexeme) :
    ((d.evaluator w c).decide (xs.map (Lexeme.renumber (v.slotIn w)))).toOption =
      ((d.evaluator v c).decide xs).toOption := by
  rw [decide_toOption, decide_toOption, Grammar.accept_renumber (grammar_renumber h)]
  simp only [List.map_eq_nil_iff]
  split
  · rfl
  · cases (d.grammar v).accept xs with
    | none => rfl
    | some e =>
      have hvalue : (e.renumber (v.slotIn w)).evaluate c (d.evaluator w c).glossary.resolve =
          e.evaluate c (d.evaluator v c).glossary.resolve :=
        e.evaluate_renumber (h.resolve_slotIn .utf8 (String.ofList placeholder))
      rw [Option.map_some, Option.bind_some, Option.bind_some, hvalue]

/-- What is no condition is not decided. -/
theorem holds_of_tokenize_error {c : Converter} {condition : String} {err : Error} {s : Slice}
    (h : (d.lexicon v).tokenize (Slice.ofBytes (Encoding.utf8.encode condition)) = .error err s) :
    d.holds condition v c = .error err := by
  have hevaluate : (d.evaluator v c).evaluate (Slice.ofBytes (Encoding.utf8.encode condition)) =
      .error err s := by
    have hlexicon : (d.evaluator v c).lexicon = d.lexicon v := rfl
    rw [Evaluator.evaluate, bind_apply, hlexicon, h]
  unfold evaluator at hevaluate
  simp only [holds, EStateM.run, hevaluate]
  rfl

/-- **A condition is decided by the visible values**: collections that see the same values decide
it alike, or fail both. -/
theorem holds_congr (h : v.Same w) (condition : String) (c : Converter) :
    (d.holds condition v c).toOption = (d.holds condition w c).toOption := by
  have hanswers (u : Variables) : (d.lexicon u).Answers (Lexicon.entries
      (d.vocabulary.symbols.map fun s => (s.text, s.use.role))
      (.make .utf8 u (String.ofList placeholder)) []) := Lexicon.answers_make _ _ _
  have htokens := Lexicon.tokenize_renumber (hanswers v) (hanswers w) rfl
    (Lexicon.distinct_entries _ _ _) (Lexicon.renumbers_entries h _ _ _)
    (Encoding.utf8.encode condition)
  have hoption {α : Type} (r : Except ExpressionError α) :
      (r.mapError Error.expression).toOption = r.toOption := by cases r <;> rfl
  cases hresult : (d.lexicon v).tokenize (Slice.ofBytes (Encoding.utf8.encode condition)) with
  | ok xs s =>
    rw [hresult] at htokens
    obtain ⟨s', hresult'⟩ := htokens
    rw [holds_of_tokenize hresult, holds_of_tokenize hresult', hoption, hoption,
      decide_renumber h]
  | error err s =>
    rw [hresult] at htokens
    obtain ⟨s', hresult'⟩ := htokens
    rw [holds_of_tokenize_error hresult, holds_of_tokenize_error hresult']

end Dialect

end Templating

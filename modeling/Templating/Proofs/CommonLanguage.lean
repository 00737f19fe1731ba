import Templating.Proofs.Parsing
import Templating.Proofs.Words

/-!
# The common language of the dialects

Conditions that are written with the operators of both dialects, and with parentheses around
every binary application, mean the same in both. The symbols have other numbers and other levels
there, and the trees are built in two ways; but each dialect reads the text as the lexemes of
the expression, under its own numbers, and parses these as the same term.

* `Common.Written`: the texts of an expression, with any blanks between its tokens.
* `Dialect.ReadsAs`: a text is read as lexemes, for each form of expression in turn.
* `Common.Written.reads`: a dialect reads such a text as the lexemes of the expression.
* `Common.Written.atom`: and its grammar parses them as the term of the expression.
* `Dialect.holds_written`: so the value of the term decides the condition.
* `Dialect.holds_common`: in both dialects alike.
-/

namespace Templating

open Lexicon (isWordUnit wordBegins Reads Progress)

/-- **An expression of the common language.** -/
inductive Common where
  /-- A visible variable. -/
  | name (name : String)
  /-- A text between double quotes. -/
  | quoted (text : String)
  /-- A bare word. -/
  | bare (word : String)
  | not (e : Common)
  | binary (op : BinaryOperator) (left right : Common)

namespace BinaryOperator

/-- The operators of both dialects. -/
def shared : List BinaryOperator :=
  [or, xor, and, bitwiseOr, bitwiseAnd, equalTo, notEqualTo, lessThan, lessThanOrEqualTo,
    greaterThan, greaterThanOrEqualTo, leftShift, rightShift]

/-- An operator as it is written. -/
def spelling : BinaryOperator → String
  | or => "||"
  | xor => "^"
  | and => "&&"
  | bitwiseOr => "|"
  | bitwiseAnd => "&"
  | equalTo => "=="
  | notEqualTo => "!="
  | lessThan => "<"
  | lessThanOrEqualTo => "<="
  | greaterThan => ">"
  | greaterThanOrEqualTo => ">="
  | leftShift => "<<"
  | rightShift => ">>"
  | add => "+"
  | subtract => "-"
  | multiply => "*"
  | divide => "/"
  | remainder => "%"

end BinaryOperator

namespace Common

/-- **The texts of an expression** where some variables are visible: every binary application
stands in parentheses of its own, and blanks may stand around every part. A quoted text names no
visible variable, and a bare word is read as one literal. -/
inductive Written (v : Variables) : Common → List Char → Prop
  | name {name : String} (hname : name ∈ v.keys) : Written v (.name name) name.toList
  | quoted {text : String} (hchars : ∀ c ∈ text.toList, c ∉ ['"', '\n', '\r'])
      (hname : text ∉ v.keys) : Written v (.quoted text) ('"' :: (text.toList ++ ['"']))
  | bare {word : String} (hchars : ∀ c ∈ word.toList, isBareChar c = true)
      (hliteral : ∃ d : Dialect, d.lexemes word v = .ok [.literal word]) :
      Written v (.bare word) word.toList
  | not {e : Common} {cs : List Char} (h : Written v e cs) : Written v (.not e) ('!' :: cs)
  | binary {op : BinaryOperator} {l r : Common} {cs ds : List Char}
      (hop : op ∈ BinaryOperator.shared) (h : Written v l cs) (h' : Written v r ds) :
      Written v (.binary op l r) ('(' :: (cs ++ (op.spelling.toList ++ (ds ++ [')']))))
  | before {e : Common} {b : Char} {cs : List Char} (hb : b ∈ [' ', '\t']) (h : Written v e cs) :
      Written v e (b :: cs)
  | after {e : Common} {b : Char} {cs : List Char} (hb : b ∈ [' ', '\t']) (h : Written v e cs) :
      Written v e (cs ++ [b])

/-- The lexemes of an expression, under the numbers of a dialect. -/
def lexemes (d : Dialect) (v : Variables) : Common → List Lexeme
  | .name n => [.reference (v.keys.idxOf n)]
  | .quoted text => [.quoted text]
  | .bare word => [.literal word]
  | .not e => .symbol (d.number "!") :: e.lexemes d v
  | .binary op l r =>
    .symbol (d.number "(") ::
      ((l.lexemes d v ++ .symbol (d.number op.spelling) :: r.lexemes d v) ++
        [.symbol (d.number ")")])

/-- **What an expression says.** -/
def term (v : Variables) : Common → Term
  | .name n => .operand (.reference (v.keys.idxOf n))
  | .quoted text => .operand (.literal (.string text))
  | .bare word => .operand (.literal (.ofLiteral word))
  | .not e => .unary .not (e.term v)
  | .binary op l r => .binary op (l.term v) (r.term v)

end Common

/-! ## The symbols of the common language -/

namespace Dialect

variable {d : Dialect} {v : Variables}

/-- The characters that make a longer symbol of some symbol. -/
def joining : List Char := ['=', '&', '|', '<', '>', '\n']

/-- A text begins with a character that makes no longer symbol of the symbol before it. -/
def Apart (cs : List Char) : Prop := ∃ c cs', cs = c :: cs' ∧ c ∉ joining

theorem extenders_joining {text : String} (hs : text ∈ d.vocabulary.symbols.map (·.text)) :
    ∀ c ∈ d.extenders text, c ∈ joining := by
  have hall : ∀ text ∈ d.vocabulary.symbols.map (·.text), ∀ c ∈ d.extenders text, c ∈ joining := by
    cases d <;> decide
  exact hall text hs

/-- What is apart makes no longer symbol of the symbol before it. -/
theorem Apart.not_extends {cs : List Char} (h : Apart cs) {text : String}
    (hs : text ∈ d.vocabulary.symbols.map (·.text)) (post : List Char) :
    ∀ c ∈ (cs ++ post).head?, c ∉ d.extenders text := by
  obtain ⟨c, cs', rfl, hc⟩ := h
  intro c' hc' hmem
  obtain rfl : c = c' := Option.some.inj hc'
  exact hc (extenders_joining hs c hmem)

/-- A symbol of a dialect, by its text, and what it is for. -/
theorem symbol_number {text : String} {role : Role}
    (h : (d.vocabulary.symbols[d.number text]?).any fun s => s.text == text && s.use.role == role) :
    ∃ s ∈ d.vocabulary.symbols, s.text = text ∧
      (d.lexicon v).classify (d.number text) = .symbol (d.number text) role := by
  cases hs : d.vocabulary.symbols[d.number text]? with
  | none =>
    rw [hs] at h
    cases h
  | some s =>
    rw [hs] at h
    simp only [Option.any_some, Bool.and_eq_true, beq_iff_eq] at h
    exact ⟨s, List.mem_of_getElem? hs, h.1, h.2 ▸ classify_symbol hs⟩

/-- **The grammar of a dialect.** -/
def grammar (d : Dialect) (v : Variables) : Grammar :=
  match d with
  | .logical => Logical.grammar
  | .arithmetical => Arithmetical.vocabulary.grammar v

/-- The texts of the operators and parentheses of the common language. -/
def operatorTexts : List String := ["!", "(", ")"] ++ BinaryOperator.shared.map (·.spelling)

theorem spelling_mem {op : BinaryOperator} (hop : op ∈ BinaryOperator.shared) :
    op.spelling ∈ operatorTexts :=
  List.mem_append_right _ (List.mem_map_of_mem hop)

theorem operatorTexts_subset {text : String} (h : text ∈ operatorTexts) :
    text ∈ d.vocabulary.symbols.map (·.text) := by
  have hall : ∀ text ∈ operatorTexts, text ∈ d.vocabulary.symbols.map (·.text) := by
    cases d <;> decide
  exact hall text h

/-- No word goes on with an operator. -/
theorem wordBegins_spelling {op : BinaryOperator} (hop : op ∈ BinaryOperator.shared)
    (post : List Char) : wordBegins (op.spelling.toList ++ post) = false := by
  have hall : ∀ op ∈ BinaryOperator.shared, wordBegins op.spelling.toList = false ∧
      op.spelling.toList ≠ [] := by decide
  obtain ⟨hword, hne⟩ := hall op hop
  obtain ⟨c, rest, hchars⟩ := List.exists_cons_of_ne_nil hne
  rw [hchars] at hword ⊢
  exact hword

section

variable (hv : ∀ name ∈ v.keys, IsWord name)

include hv

/-- **An operator or a parenthesis** ends the literal before it and is a lexeme. -/
theorem reads_operator (text : String) (htext : text ∈ operatorTexts) {post : List Char}
    (hpost : ∀ c ∈ post.head?, c ∉ d.extenders text) {p p' : Progress}
    (hrest : (d.lexicon v).Reads (d.tokens v)
      ((p.close .utf8).push (.symbol (d.number text))) post p') :
    (d.lexicon v).Reads (d.tokens v) p (text.toList ++ post) p' := by
  have hrole : ∀ text ∈ operatorTexts, (d.vocabulary.symbols[d.number text]?).any fun s =>
      s.text == text && s.use.role == .operator := by
    cases d <;> decide
  obtain ⟨s, hs, rfl, hclass⟩ := symbol_number (v := v) (hrole text htext)
  refine .token (wordAt?_symbol hv hs post hpost).1 ?_ hrest
  simp only [Lexicon.stepped?, hclass]
  rfl

/-- A blank ends the literal before it. -/
theorem reads_blank {b : Char} (hb : b ∈ [' ', '\t']) {post : List Char} {p p' : Progress}
    (hrest : (d.lexicon v).Reads (d.tokens v) (p.close .utf8) post p') :
    (d.lexicon v).Reads (d.tokens v) p (b :: post) p' := by
  have hrole : ∀ b ∈ [' ', '\t'], d.extenders (String.ofList [b]) = [] ∧
      (d.vocabulary.symbols[d.number (String.ofList [b])]?).any fun s =>
        s.text == String.ofList [b] && s.use.role == .separator := by
    cases d <;> decide
  obtain ⟨hextenders, hsymbol⟩ := hrole b hb
  obtain ⟨s, hs, htext, hclass⟩ := symbol_number (v := v) hsymbol
  rw [← htext] at hextenders hclass
  have htoken := (wordAt?_symbol hv hs post fun c _ => hextenders ▸ List.not_mem_nil).1
  have hchars : s.text.toList = [b] := by rw [htext, String.toList_ofList]
  rw [hchars] at htoken
  show (d.lexicon v).Reads (d.tokens v) p ([b] ++ post) p'
  refine .token htoken ?_ hrest
  simp only [Lexicon.stepped?, hclass]
  rfl

/-- **A quoted text** without quotes and line endings is read as it stands. -/
theorem reads_quoted {text : String} (hchars : ∀ c ∈ text.toList, c ∉ ['"', '\n', '\r'])
    {post : List Char} {p p' : Progress}
    (hrest : (d.lexicon v).Reads (d.tokens v) ((p.close .utf8).push (.quoted text)) post p') :
    (d.lexicon v).Reads (d.tokens v) p ('"' :: (text.toList ++ ('"' :: post))) p' := by
  have hrole : (d.vocabulary.symbols[d.number "\""]?).any (fun s =>
      s.text == "\"" && s.use.role == .quote) ∧ d.extenders "\"" = [] := by
    cases d <;> decide
  obtain ⟨s, hs, htext, hclass⟩ := symbol_number (v := v) hrole.1
  -- the quote is found wherever it stands
  have hquote : ∀ post, wordAt? (d.tokens v) ('"' :: post) = some (['"'], d.number "\"") := by
    intro post
    have htoken := (wordAt?_symbol hv hs post fun c _ => htext ▸ hrole.2 ▸ List.not_mem_nil).1
    rw [htext] at htoken
    exact htoken
  show (d.lexicon v).Reads (d.tokens v) p (['"'] ++ (text.toList ++ (['"'] ++ post))) p'
  refine .quoted (hquote _) hclass ⟨?_, ?_⟩ ?_
  · intro c cs hsuffix
    have hc := hchars c (hsuffix.subset List.mem_cons_self)
    unfold Lexicon.quotedEnd?
    rw [if_neg (by simp)]
    cases hm : wordAt? (d.tokens v) (c :: cs ++ (['"'] ++ post)) with
    | none => rfl
    | some found =>
      obtain ⟨ks, i⟩ := found
      obtain ⟨t, ht, rfl⟩ := wordAt?_getElem? hm
      obtain ⟨hne, hpre⟩ := wordAt?_spec hm
      -- what ends a quoted text begins with a quote or a line ending
      have hhead : t.toList.head? = some c := by
        obtain ⟨c', ks, hks⟩ := List.exists_cons_of_ne_nil hne
        rw [hks] at hpre ⊢
        rw [(List.cons_prefix_cons.1 hpre).1, List.head?_cons]
      have hindex : i ≠ d.number "\"" := by
        rintro rfl
        obtain ⟨t', ht', htext'⟩ := wordAt?_getElem? (hquote [])
        obtain rfl : t = t' := Option.some.inj (ht.symm.trans ht')
        rw [htext'] at hhead
        exact hc (by rw [← Option.some.inj hhead]; decide)
      have hline : (d.lexicon v).roles[i]? ≠ some .lineEnd := by
        have hlines : ∀ s ∈ d.vocabulary.symbols, s.use.role = .lineEnd →
            ∀ c ∈ s.text.toList.head?.toList, c ∈ ['\n', '\r'] := by
          cases d <;> decide
        intro hroles
        rw [roles_lexicon, List.getElem?_map, Option.map_eq_some_iff] at hroles
        obtain ⟨s', hs', hrole'⟩ := hroles
        obtain rfl : s'.text = t := Option.some.inj ((tokens_symbol hs').symm.trans ht)
        have hmem := hlines s' (List.mem_of_getElem? hs') hrole' c (Option.mem_toList.2 hhead)
        exact hc (List.mem_cons_of_mem _ hmem)
      simp only [if_neg hindex, if_neg hline]
  · unfold Lexicon.quotedEnd?
    rw [if_neg (by simp), List.singleton_append, hquote]
    simp
  · rw [String.ofList_toList]
    exact hrest

end

end Dialect

/-! ## Reading a written expression -/

namespace Dialect

/-- **A text is read as lexemes**: from any progress without an open literal a dialect comes to its
end, possibly with a literal that what follows will end. -/
def ReadsAs (d : Dialect) (v : Variables) (cs : List Char) (xs : List Lexeme) : Prop :=
  ∀ (p : Progress) (post : List Char), p.literal = [] → wordBegins post = false →
    ∃ p₁ : Progress, p₁.close .utf8 = ⟨xs.reverse ++ p.lexemes, []⟩ ∧
      ∀ p', (d.lexicon v).Reads (d.tokens v) p₁ post p' →
        (d.lexicon v).Reads (d.tokens v) p (cs ++ post) p'

namespace ReadsAs

variable {d : Dialect} {v : Variables} {cs ds : List Char} {xs ys : List Lexeme}
  (hv : ∀ name ∈ v.keys, IsWord name)

include hv

theorem name {name : String} (hname : name ∈ v.keys) :
    d.ReadsAs v name.toList [.reference (v.keys.idxOf name)] := by
  intro p post hp hpost
  refine ⟨p.push (.reference (v.keys.idxOf name)), Progress.close_push hp _, fun p' hrest => ?_⟩
  refine .token (wordAt?_name hv hname hpost) ?_ hrest
  simp only [Lexicon.stepped?, classify_name (List.idxOf_lt_length_of_mem hname), hp, hpost]
  rfl

theorem quoted {text : String} (hchars : ∀ c ∈ text.toList, c ∉ ['"', '\n', '\r']) :
    d.ReadsAs v ('"' :: (text.toList ++ ['"'])) [.quoted text] := by
  intro p post hp hpost
  refine ⟨p.push (.quoted text), Progress.close_push hp _, fun p' hrest => ?_⟩
  rw [List.cons_append, List.append_assoc]
  refine reads_quoted hv hchars ?_
  rw [Progress.close_of_nil hp]
  exact hrest

/-- A bare word stays open as a literal. -/
theorem bare {word : String} (hchars : ∀ c ∈ word.toList, isBareChar c = true)
    (hbare : Bare v word.toList) : d.ReadsAs v word.toList [.literal word] := by
  intro p post hp hpost
  refine ⟨p.extend (Encoding.utf8.text word.toList), ?_, fun p' hrest =>
    reads_bare hv hchars hbare hpost hrest⟩
  have hne : (Encoding.utf8.text word.toList).reverse ≠ [] := fun hnil =>
    hbare.1 (Encoding.text_eq_nil.1 (List.reverse_eq_nil_iff.1 hnil))
  have hliteral : (p.extend (Encoding.utf8.text word.toList)).literal =
      (Encoding.utf8.text word.toList).reverse := by
    rw [Progress.extend, hp, List.append_nil]
  unfold Progress.close
  rw [hliteral, if_neg (by simpa using hne), List.reverse_reverse, Encoding.decode_text,
    String.ofList_toList]
  rfl

theorem not (hcs : Apart cs) (h : d.ReadsAs v cs xs) :
    d.ReadsAs v ('!' :: cs) (.symbol (d.number "!") :: xs) := by
  intro p post hp hpost
  obtain ⟨p₁, hp₁, hreads⟩ := h (p.push (.symbol (d.number "!"))) post hp hpost
  have hnot : "!" ∈ operatorTexts := by decide
  refine ⟨p₁, ?_, fun p' hrest => ?_⟩
  · rw [hp₁, List.reverse_cons, List.append_assoc]
    rfl
  · refine reads_operator hv "!" hnot (hcs.not_extends (operatorTexts_subset hnot) post) ?_
    rw [Progress.close_of_nil hp]
    exact hreads p' hrest

theorem binary {op : BinaryOperator} (hop : op ∈ BinaryOperator.shared) (hcs : Apart cs)
    (hds : Apart ds) (h : d.ReadsAs v cs xs) (h' : d.ReadsAs v ds ys) :
    d.ReadsAs v ('(' :: (cs ++ (op.spelling.toList ++ (ds ++ [')']))))
      (.symbol (d.number "(") :: ((xs ++ .symbol (d.number op.spelling) :: ys) ++
        [.symbol (d.number ")")])) := by
  intro p post hp hpost
  have hopening : "(" ∈ operatorTexts := by decide
  have hextenders : d.extenders ")" = [] := by cases d <;> decide
  -- an operator ends the word before it
  obtain ⟨p₁, hp₁, hreads⟩ := h (p.push (.symbol (d.number "("))) _ hp
    (wordBegins_spelling hop (ds ++ ')' :: post))
  obtain ⟨p₂, hp₂, hreads'⟩ := h' ((p₁.close .utf8).push (.symbol (d.number op.spelling)))
    (')' :: post) (Progress.literal_close p₁) rfl
  refine ⟨(p₂.close .utf8).push (.symbol (d.number ")")), ?_, fun p' hrest => ?_⟩
  · rw [Progress.close_push (Progress.literal_close p₂), hp₂, hp₁]
    simp [Progress.push]
  · rw [List.cons_append, List.append_assoc, List.append_assoc, List.append_assoc,
      List.singleton_append]
    refine reads_operator hv "(" hopening
      (hcs.not_extends (operatorTexts_subset hopening) _) ?_
    rw [Progress.close_of_nil hp]
    refine hreads p' (reads_operator hv _ (spelling_mem hop)
      (hds.not_extends (operatorTexts_subset (spelling_mem hop)) _) (hreads' p' ?_))
    exact reads_operator hv ")" (by decide) (fun c _ => hextenders ▸ List.not_mem_nil) hrest

theorem before {b : Char} (hb : b ∈ [' ', '\t']) (h : d.ReadsAs v cs xs) :
    d.ReadsAs v (b :: cs) xs := by
  intro p post hp hpost
  obtain ⟨p₁, hp₁, hreads⟩ := h p post hp hpost
  refine ⟨p₁, hp₁, fun p' hrest => reads_blank hv hb ?_⟩
  rw [Progress.close_of_nil hp]
  exact hreads p' hrest

/-- A blank ends what is open before it. -/
theorem after {b : Char} (hb : b ∈ [' ', '\t']) (h : d.ReadsAs v cs xs) :
    d.ReadsAs v (cs ++ [b]) xs := by
  intro p post hp hpost
  have hblank : wordBegins (b :: post) = false := by
    have hall : ∀ b ∈ [' ', '\t'], isWordUnit b.toNat = false := by decide
    exact hall b hb
  obtain ⟨p₁, hp₁, hreads⟩ := h p (b :: post) hp hblank
  refine ⟨p₁.close .utf8, ?_, fun p' hrest => ?_⟩
  · rw [Progress.close_of_nil (Progress.literal_close p₁), hp₁]
  · rw [List.append_assoc, List.singleton_append]
    exact hreads p' (reads_blank hv hb hrest)

end ReadsAs

end Dialect

namespace Common.Written

variable {d : Dialect} {v : Variables} {e : Common} {cs : List Char}

/-- **How an expression begins**: with a character that makes no longer symbol of the symbol
before it. -/
theorem apart (hv : ∀ name ∈ v.keys, IsWord name) (h : Written v e cs) : Dialect.Apart cs := by
  have hsolid : ∀ c ∈ Dialect.joining, isSolid c = false := by decide
  induction h with
  | @name n hname =>
    obtain ⟨c, cs', hcs, hc⟩ := Dialect.head_name hv hname (List.prefix_refl _)
    refine ⟨c, cs', hcs, fun hmem => ?_⟩
    rw [hsolid c hmem] at hc
    cases hc
  | quoted => exact ⟨_, _, rfl, by decide⟩
  | @bare word hchars hliteral =>
    obtain ⟨d, hlexemes⟩ := hliteral
    have hbare := Dialect.bare_of_lexemes hv hchars hlexemes
    obtain ⟨c, cs', hcs⟩ := List.exists_cons_of_ne_nil hbare.1
    have hc := isSolid_of_bare (hchars c (hcs ▸ List.mem_cons_self))
    refine ⟨c, cs', hcs, fun hmem => ?_⟩
    rw [hsolid c hmem] at hc
    cases hc
  | not => exact ⟨_, _, rfl, by decide⟩
  | binary => exact ⟨_, _, rfl, by decide⟩
  | @before e b cs hb =>
    have hblank : ∀ b ∈ [' ', '\t'], b ∉ Dialect.joining := by decide
    exact ⟨b, cs, rfl, hblank b hb⟩
  | @after e b cs hb h ih =>
    obtain ⟨c, cs', rfl, hc⟩ := ih
    exact ⟨c, cs' ++ [b], rfl, hc⟩

/-- **A written expression is read as its lexemes.** -/
theorem reads (hv : ∀ name ∈ v.keys, IsWord name) (h : Written v e cs) :
    d.ReadsAs v cs (e.lexemes d v) := by
  induction h with
  | name hname => exact .name hv hname
  | quoted hchars => exact .quoted hv hchars
  | bare hchars hliteral =>
    obtain ⟨d', hlexemes⟩ := hliteral
    exact .bare hv hchars (Dialect.bare_of_lexemes hv hchars hlexemes)
  | not h ih => exact .not hv (h.apart hv) ih
  | binary hop h h' ih ih' => exact .binary hv hop (h.apart hv) (h'.apart hv) ih ih'
  | before hb _ ih => exact .before hv hb ih
  | after hb _ ih => exact .after hv hb ih

/-- **A written expression is parsed as its term**, by the grammar of either dialect: the
parentheses around a binary application leave nothing to the levels of the operators. -/
theorem atom (h : Written v e cs) : Grammar.Atom (d.grammar v) (e.lexemes d v) (e.term v) := by
  have hopening : d.grammar v (.symbol (d.number "(")) = .opening := by cases d <;> rfl
  have hclosing : d.grammar v (.symbol (d.number ")")) = .closing := by cases d <;> rfl
  have hnot : d.grammar v (.symbol (d.number "!")) = .operator none (some .not) := by
    cases d <;> rfl
  have hbinary : ∀ op ∈ BinaryOperator.shared, ∃ level,
      d.grammar v (.symbol (d.number op.spelling)) = .operator (some (op, level)) none := by
    intro op hop
    cases d <;> cases op <;> first | exact ⟨_, rfl⟩ | exact absurd hop (by decide)
  induction h with
  | name => exact .operand (by cases d <;> rfl)
  | @quoted text hchars hname =>
    refine .operand ?_
    cases d with
    | logical => rfl
    | arithmetical =>
      show Arithmetical.vocabulary.grammar v (.quoted text) = _
      rw [Vocabulary.grammar, if_neg (fun hc => hname hc.2)]
  | bare => exact .operand (by cases d <;> rfl)
  | not _ ih => exact .unary hnot ih
  | @binary op l r cs ds hop _ _ ih ih' =>
    obtain ⟨level, hop⟩ := hbinary op hop
    exact .group hopening hclosing (.binary hop (Nat.zero_le _) (.atom ih) (.atom ih'))
  | before _ _ ih => exact ih
  | after _ _ ih => exact ih

end Common.Written

/-! ## What a condition decides -/

namespace Dialect

variable {d : Dialect} {v : Variables}

/-- **A dialect answers as its grammar parses.** -/
theorem answers_build {xs : List Lexeme} (hxs : xs ≠ []) :
    Answers ((d.grammar v).accept xs) (d.build (d.lexicon v) xs) := by
  cases d with
  | logical => exact answers_accept Logical.mirrors_add _ _ hxs
  | arithmetical =>
    exact answers_accept (Vocabulary.mirrors_add (v := Arithmetical.vocabulary) (by decide)) _ _ hxs

/-- **What a dialect parses it evaluates** to the value of the parse. -/
theorem build_of_parses {xs : List Lexeme} {e : Term} (hxs : xs ≠ [])
    (h : Grammar.Parses (d.grammar v) 0 xs e) : ∃ t, d.build (d.lexicon v) xs = .ok t ∧
      t.isEmpty = false ∧ ∀ c resolve, t.evaluate c resolve = e.evaluate c resolve := by
  have haccept := Grammar.accept_of_parses h
  have hanswers := answers_build (d := d) (v := v) hxs
  rw [haccept] at hanswers
  cases hbuild : d.build (d.lexicon v) xs with
  | error err =>
    rw [hbuild] at hanswers
    cases hanswers
  | ok t =>
    rw [hbuild] at hanswers
    obtain ⟨e', he', hempty, -, hvalue⟩ := hanswers
    cases he'
    exact ⟨t, rfl, hempty, hvalue⟩

/-- What decides a condition that is a text of its own. -/
def evaluator (d : Dialect) (v : Variables) (c : Converter) : Evaluator :=
  .make d (.make .utf8 v (String.ofList placeholder)) c []

/-- What is read of a condition decides it. -/
theorem holds_of_tokenize {c : Converter} {text : String} {xs : List Lexeme} {s : Slice}
    (h : (d.lexicon v).tokenize (Slice.ofBytes (Encoding.utf8.encode text)) = .ok xs s) :
    d.holds text v c = ((d.evaluator v c).decide xs).mapError .expression := by
  have hevaluate : (d.evaluator v c).evaluate (Slice.ofBytes (Encoding.utf8.encode text)) =
      (liftM ((d.evaluator v c).decide xs) : EStateM Error Slice Bool) s := by
    rw [Evaluator.evaluate, bind_apply]
    have hlexicon : (d.evaluator v c).lexicon = d.lexicon v := rfl
    rw [hlexicon, h]
  unfold evaluator at hevaluate ⊢
  simp only [holds, EStateM.run, hevaluate]
  cases (Evaluator.make d (.make .utf8 v (String.ofList placeholder)) c []).decide xs <;> rfl

/-- What is parsed of a condition decides it. -/
theorem decide_of_parses (c : Converter) {xs : List Lexeme} {e : Term} (hxs : xs ≠ [])
    (h : Grammar.Parses (d.grammar v) 0 xs e) : (d.evaluator v c).decide xs =
      e.evaluate c (d.evaluator v c).glossary.resolve >>= c.toBool := by
  obtain ⟨t, hbuild, hempty, hvalue⟩ := build_of_parses hxs h
  have hbuild' : (d.evaluator v c).dialect.build (d.evaluator v c).lexicon xs = .ok t := hbuild
  rw [Evaluator.decide, hbuild', ← hvalue]
  show (if t.isEmpty = true then pure false else t.evaluate c _ >>= c.toBool) = _
  rw [hempty]
  rfl

/-- **The value of the term decides a written expression**, in either dialect. -/
theorem holds_written (hv : ∀ name ∈ v.keys, IsWord name) (c : Converter) {e : Common}
    {text : String} (h : Common.Written v e text.toList) : d.holds text v c =
      ((e.term v).evaluate c (Glossary.make .utf8 v (String.ofList placeholder)).resolve >>=
        c.toBool).mapError .expression := by
  have hend : wordBegins [] = false := rfl
  obtain ⟨p, hp, hreads⟩ := h.reads (d := d) hv Progress.start [] rfl hend
  have hread := hreads p .done
  rw [List.append_nil] at hread
  obtain ⟨s, htokenize⟩ := hread.tokenize_eq table_lexicon
  have hlexemes : ((p.close .utf8).lexemes).reverse = e.lexemes d v := by
    rw [hp]
    simp [Progress.start]
  have hne : e.lexemes d v ≠ [] := by cases e <;> exact List.cons_ne_nil _ _
  have htokenize' : (d.lexicon v).tokenize (Slice.ofBytes (Encoding.utf8.encode text)) =
      .ok (e.lexemes d v) s := hlexemes ▸ htokenize
  rw [holds_of_tokenize htokenize', decide_of_parses c hne (.atom h.atom)]
  rfl

/-- **The dialects agree on their common language.** For all variables whose visible names are
words, every converter and every expression over the operators of both dialects, of any depth:
its text, with parentheses around every binary application, is decided alike by both dialects,
or fails with the same error in both. -/
theorem holds_common (hv : ∀ name ∈ v.keys, IsWord name) (c : Converter) {e : Common}
    {text : String} (h : Common.Written v e text.toList) :
    Dialect.logical.holds text v c = Dialect.arithmetical.holds text v c := by
  rw [holds_written hv c h, holds_written hv c h]

/-- A condition with a blank here and there, with a quoted text that is not a word and with bare
words that begin with a digit. -/
theorem holds_common_words :
    let v := (Variables.empty.set "Beta" (.bool true)).set "X1" (.string "it's")
    let text := "( (!Beta||(X1 == \"it's\"))&&! (1A==2) )"
    (∀ name ∈ v.keys, IsWord name) ∧
      Dialect.logical.holds text v .standard = Dialect.arithmetical.holds text v .standard ∧
      Dialect.logical.holds text v .standard = .ok true := by
  intro v text
  have hv : ∀ name ∈ v.keys, IsWord name := by decide +kernel
  have hbare : ∀ word ∈ ["1A", "2"], (∀ c ∈ word.toList, isBareChar c = true) ∧
      Dialect.logical.lexemes word v = .ok [.literal word] := by decide +kernel
  have hnames : "Beta" ∈ v.keys ∧ "X1" ∈ v.keys ∧ "it's" ∉ v.keys := by decide +kernel
  have hwritten (word) (hword : word ∈ ["1A", "2"]) : Common.Written v (.bare word) word.toList :=
    .bare (hbare word hword).1 ⟨_, (hbare word hword).2⟩
  have hquoted : Common.Written v (.quoted "it's") ('"' :: ("it's".toList ++ ['"'])) :=
    .quoted (by decide +kernel) hnames.2.2
  have hspace : ' ' ∈ [' ', '\t'] := by decide
  have hop : ∀ op ∈ [BinaryOperator.equalTo, .or, .and], op ∈ BinaryOperator.shared := by decide
  -- `(X1 == "it's")`, `(!Beta||...)` and `! (1A==2)`
  have hequal := Common.Written.binary (hop .equalTo (by decide)) (.after hspace (.name hnames.2.1))
    (.before hspace hquoted)
  have hor := Common.Written.binary (hop .or (by decide)) (.not (.name hnames.1)) hequal
  have hnot := Common.Written.not (.before hspace
    (.binary (hop .equalTo (by decide)) (hwritten "1A" (by decide)) (hwritten "2" (by decide))))
  have h := Common.Written.binary (hop .and (by decide)) (.before hspace hor) (.after hspace hnot)
  have htext : Common.Written v _ text.toList :=
    Eq.mp (congrArg (Common.Written v _) (by decide +kernel)) h
  exact ⟨hv, holds_common hv .standard htext, by decide +kernel⟩

end Dialect

end Templating

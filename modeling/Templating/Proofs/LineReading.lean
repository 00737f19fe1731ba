import Templating.Proofs.Document
import Templating.Proofs.Lines

/-!
# Reading a condition up to the end of its line

A condition ends where its line ends: a lexicon that knows the line endings, and no other
token with a line ending in it, reads the rest of a line before what follows it as it reads
it alone, and leaves what follows (`Lexicon.StopsAtLines`).

* `Slice.Before`: one slice holds a part of a line, and the other one has more after it.
* `Lexicon.StopsAtLines.simulates_tokenize`: both read the same lexemes.
* `Evaluator.verdict?_line`: and a condition is decided alike.
-/

namespace Templating

/-! ### Reading bytes in memory -/

namespace Slice

/-- What is left to be read. -/
def left (s : Slice) : Nat := s.rest.bytes.length

theorem remaining_eq (s : Slice) : Scanner.remaining s = s.left := s.rest.length_eq

theorem peekToken_apply (table : TokenTable) (s : Slice) :
    (Scanner.peekToken table : EStateM Error Slice _) s = .ok (table.match? s.rest.bytes) s := rfl

theorem advance_apply (count : Nat) (s : Slice) :
    (Scanner.advance count : EStateM Error Slice _) s = .ok () (s.drop count) := rfl

theorem peekBytes_apply (count : Nat) : ∀ (offset : Nat) (s : Slice),
    (Scanner.peekBytes offset count : EStateM Error Slice _) s =
      .ok ((s.rest.bytes.drop offset).take count) s := by
  induction count with
  | zero => exact fun _ _ => rfl
  | succ count ih =>
    intro offset s
    have hbyte : (Scanner.peekByte offset : EStateM Error Slice _) s =
        .ok s.rest.bytes[offset]? s := rfl
    rw [Scanner.peekBytes, bind_apply, hbyte]
    cases h : s.rest.bytes[offset]? with
    | none =>
      rw [List.drop_of_length_le (List.getElem?_eq_none_iff.1 h)]
      rfl
    | some b =>
      obtain ⟨hlt, hb⟩ := List.getElem?_eq_some_iff.1 h
      rw [List.drop_eq_getElem_cons hlt, hb]
      simp only [bind_apply, ih, pure_apply, List.take_succ_cons]

theorem take_apply (count : Nat) (s : Slice) :
    (Scanner.take count : EStateM Error Slice _) s =
      .ok (s.rest.bytes.take count) (s.drop (s.rest.bytes.take count).length) := by
  simp only [Scanner.take, bind_apply, peekBytes_apply, advance_apply, pure_apply, List.drop_zero]

theorem left_drop_lt {s : Slice} {count : Nat} (hpos : 0 < count) (h : s.rest.bytes ≠ []) :
    (s.drop count).left < s.left := by
  have hlength := List.length_pos_iff.2 h
  show (s.rest.bytes.drop count).length < s.rest.bytes.length
  rw [List.length_drop]
  omega

theorem descends_left : Scanner.Descends left where
  peekToken table s := Nat.le_refl _
  peekByte offset s := Nat.le_refl _
  advance count s := by
    show (s.rest.bytes.drop count).length ≤ s.rest.bytes.length
    rw [List.length_drop]
    omega

theorem left_take_lt {s : Slice} {count : Nat} (h : s.rest.bytes.take count ≠ []) :
    (s.drop (s.rest.bytes.take count).length).left < s.left := by
  refine left_drop_lt (List.length_pos_iff.2 h) ?_
  intro hnil
  rw [hnil, List.take_nil] at h
  exact h rfl

end Slice

namespace Lexicon

variable {lex : Lexicon} {s : Slice} {p : Progress} {text : Bytes}

theorem quotedUnit_apply (text : Bytes) (s : Slice) :
    (lex.quotedUnit text : EStateM Error Slice _) s =
      .ok (if (s.rest.bytes.take lex.encoding.unitWidth).isEmpty then .stop (text, false)
        else .again ((s.rest.bytes.take lex.encoding.unitWidth).reverse ++ text))
      (s.drop (s.rest.bytes.take lex.encoding.unitWidth).length) := by
  simp only [quotedUnit, bind_apply, Slice.take_apply]
  split <;> rfl

theorem wholeWord_apply (p : Progress) (length : Nat) (s : Slice) :
    (lex.wholeWord p length : EStateM Error Slice _) s =
      .ok (p.literal.isEmpty && !((lex.encoding.codeUnit? ((s.rest.bytes.drop length).take
        lex.encoding.unitWidth)).map isWordUnit).getD false) s := by
  rw [wholeWord]
  cases p.literal.isEmpty with
  | true => simp only [wordFollows, if_true, bind_apply, Slice.peekBytes_apply, pure_apply,
      Bool.true_and]
  | false => rfl

theorem left_match_lt (ht : lex.table.Lawful) {found : Nat × Nat}
    (h : lex.table.match? s.rest.bytes = some found) : (s.drop found.2).left < s.left := by
  have hpos : 0 < found.2 := ht.pos (v := found.1) h
  refine Slice.left_drop_lt hpos fun hnil => ?_
  rw [hnil, ht.match?_nil] at h
  cases h

theorem spends_quotedUnit (text : Bytes) :
    Spends Slice.left Turn.GoesOn (lex.quotedUnit text : EStateM Error Slice _) := by
  intro s turn s' h hgoes
  rw [quotedUnit_apply] at h
  cases h
  split at hgoes
  · exact hgoes.elim
  · rename_i hne
    exact Slice.left_take_lt (by simpa using hne)

theorem spends_quotedTurn (quote : Nat) (text : Bytes) :
    Spends Slice.left Turn.GoesOn (lex.quotedTurn quote text : EStateM Error Slice _) := by
  intro s turn s' h hgoes
  rw [quotedTurn, bind_apply, Slice.peekToken_apply] at h
  cases hm : lex.table.match? s.rest.bytes with
  | none =>
    rw [hm] at h
    exact spends_quotedUnit text s turn s' h hgoes
  | some found =>
    simp only [hm] at h
    split at h
    · cases h
      exact hgoes.elim
    · split at h
      · cases h
        exact hgoes.elim
      · exact spends_quotedUnit text s turn s' h hgoes

/-- **Every turn that goes on reads something.** -/
theorem spends_turn (ht : lex.table.Lawful) (p : Progress) :
    Spends Slice.left Turn.GoesOn (lex.turn p : EStateM Error Slice _) := by
  intro s turn s' h hgoes
  rw [Lexicon.turn, bind_apply, Slice.peekToken_apply] at h
  cases hm : lex.table.match? s.rest.bytes with
  | none =>
    simp only [hm, bind_apply, Slice.take_apply] at h
    split at h
    · cases h
      exact hgoes.elim
    · rename_i hne
      cases h
      exact Slice.left_take_lt (by simpa using hne)
  | some found =>
    have hlt := left_match_lt ht hm
    simp only [hm] at h
    cases hclass : lex.classify found.1 with
    | reference slot =>
      simp only [hclass, bind_apply, wholeWord_apply] at h
      split at h
      · cases h
        exact hlt
      · have hne : s.rest.bytes.take found.2 ≠ [] := fun hnil => by
          have hle := ht.le_text (v := found.1) hm
          have hpos : 0 < found.2 := ht.pos (v := found.1) hm
          rw [← List.length_eq_zero_iff, List.length_take_of_le hle] at hnil
          omega
        simp only [bind_apply, Slice.take_apply] at h
        cases h
        exact Slice.left_take_lt hne
    | terminator =>
      rw [hclass] at h
      cases h
      exact hgoes.elim
    | symbol symbol role =>
      rw [hclass] at h
      cases role with
      | lineEnd =>
        cases h
        exact hgoes.elim
      | separator | operator =>
        cases h
        exact hlt
      | quote =>
        have hread : Shrinks Slice.left (lex.readQuoted symbol >>= fun text =>
            pure (.again ((p.close lex.encoding).push (.quoted text)) : Turn Progress Progress) :
              EStateM Error Slice _) :=
          (lex.shrinks_readQuoted Slice.descends_left symbol).bind fun _ => Shrinks.pure _
        exact Nat.lt_of_le_of_lt (hread.of_ok h) hlt

end Lexicon

/-! ### Lexicons that stop at line endings -/

/-- A lexicon in UTF-8 whose only tokens with a line ending are the line endings, where a
condition ends. -/
structure Lexicon.StopsAtLines (lex : Lexicon) : Prop where
  encoding : lex.encoding = .utf8
  lawful : lex.table.Lawful
  same : ∀ x k, x ≠ [] → Inline x → Breaks k → lex.table.match? (x ++ k) = lex.table.match? x
  stops : ∀ k, k ≠ [] → Breaks k → ∃ index length,
    lex.table.match? k = some (index, length) ∧ lex.roles[index]? = some .lineEnd
  goesOn : ∀ x index length, Inline x → lex.table.match? x = some (index, length) →
    lex.classify index ≠ .terminator ∧ ∀ symbol, lex.classify index ≠ .symbol symbol .lineEnd

/-- The first slice holds a part of a line, and the second one has more after it. -/
def Slice.Before (k : Bytes) (s t : Slice) : Prop :=
  Inline s.rest.bytes ∧ t.rest.bytes = s.rest.bytes ++ k

theorem Slice.Before.drop {k : Bytes} {s t : Slice} (h : Slice.Before k s t) {count : Nat}
    (hcount : count ≤ s.left) : Slice.Before k (s.drop count) (t.drop count) := by
  refine ⟨fun b hb => h.1 b (List.mem_of_mem_drop hb), ?_⟩
  show t.rest.bytes.drop count = s.rest.bytes.drop count ++ k
  rw [h.2, List.drop_append_of_le_length hcount]

namespace Lexicon.StopsAtLines

variable {lex : Lexicon} {k : Bytes} {s t : Slice}

/-- The next unit is the same where something is left of the line. -/
theorem take_eq (h : lex.StopsAtLines) {x : Bytes} (hx : x ≠ []) :
    (x ++ k).take lex.encoding.unitWidth = x.take lex.encoding.unitWidth := by
  obtain ⟨b, x, rfl⟩ := List.exists_cons_of_ne_nil hx
  rw [h.encoding]
  rfl

/-- No word goes on over the end of a line. -/
theorem follows_eq (h : lex.StopsAtLines) (hk : Breaks k) {x : Bytes} {n : Nat}
    (hn : n ≤ x.length) :
    ((lex.encoding.codeUnit? (((x ++ k).drop n).take lex.encoding.unitWidth)).map
      isWordUnit).getD false =
    ((lex.encoding.codeUnit? ((x.drop n).take lex.encoding.unitWidth)).map
      isWordUnit).getD false := by
  rw [List.drop_append_of_le_length hn]
  by_cases hx : x.drop n = []
  · rw [hx, List.nil_append, List.take_nil, h.encoding]
    cases k with
    | nil => rfl
    | cons b k =>
      have hb : isLineEnd b = true := hk b rfl
      rcases (by simpa [isLineEnd] using hb : b = 10 ∨ b = 13) with rfl | rfl <;> rfl
  · rw [h.take_eq hx]

theorem agree_quotedUnit (h : lex.StopsAtLines) (hst : Slice.Before k s t)
    (hs : s.rest.bytes ≠ []) (text : Bytes) :
    Agree (Slice.Before k) Eq ((lex.quotedUnit text : EStateM Error Slice _) s)
      ((lex.quotedUnit text : EStateM Error Slice _) t) := by
  rw [quotedUnit_apply, quotedUnit_apply, hst.2, h.take_eq hs]
  exact .ok rfl (hst.drop (by rw [List.length_take]; exact Nat.min_le_right _ _))

theorem simulates_quotedTurn (h : lex.StopsAtLines) (hk : Breaks k) {quote : Nat}
    (hquote : lex.roles[quote]? = some .quote) (text : Bytes) :
    Simulates (Slice.Before k) Eq (lex.quotedTurn quote text : EStateM Error Slice _)
      (lex.quotedTurn quote text : EStateM Error Slice _) := by
  intro s t hst
  rw [quotedTurn, bind_apply, bind_apply, Slice.peekToken_apply, Slice.peekToken_apply, hst.2]
  by_cases hs : s.rest.bytes = []
  · -- the line is over, be it before a line ending or with the text
    have hstop : (lex.quotedUnit text : EStateM Error Slice _) s =
        .ok (.stop (text, false)) (s.drop 0) := by
      rw [quotedUnit_apply, hs, List.take_nil]
      rfl
    rw [hs, List.nil_append, h.lawful.match?_nil]
    simp only [hstop]
    by_cases hnil : k = []
    · subst hnil
      have hstop' : (lex.quotedUnit text : EStateM Error Slice _) t =
          .ok (.stop (text, false)) (t.drop 0) := by
        rw [quotedUnit_apply, hst.2, hs, List.append_nil, List.take_nil]
        rfl
      rw [h.lawful.match?_nil]
      simp only [hstop']
      exact .ok rfl (hst.drop (Nat.zero_le _))
    · obtain ⟨index, length, hmatch, hrole⟩ := h.stops k hnil hk
      have hne : index ≠ quote := fun heq => by
        rw [heq, hquote] at hrole
        cases hrole
      simp only [hmatch, hne, if_false, hrole, if_true]
      exact .ok rfl (hst.drop (Nat.zero_le _))
  · rw [h.same _ k hs hst.1 hk]
    cases hm : lex.table.match? s.rest.bytes with
    | none => exact h.agree_quotedUnit hst hs text
    | some found =>
      have hle : found.2 ≤ s.left := h.lawful.le_text (v := found.1) hm
      simp only
      split
      · exact .ok rfl (hst.drop hle)
      · split
        · exact .ok rfl hst
        · exact h.agree_quotedUnit hst hs text

/-- A quoted text ends in its line or is not closed. -/
theorem simulates_readQuoted (h : lex.StopsAtLines) (hk : Breaks k) {quote : Nat}
    (hquote : lex.roles[quote]? = some .quote) :
    Simulates (Slice.Before k) Eq (lex.readQuoted quote : EStateM Error Slice _)
      (lex.readQuoted quote : EStateM Error Slice _) := by
  refine Simulates.bind (Q := Eq) (Simulates.get_bind fun s t hst => ?_) ?_
  · refine Simulates.loop (P := Eq) (μ := Slice.left) (ν := Slice.left) ?_
      (spends_quotedTurn quote) (spends_quotedTurn quote) _ _ _ _ _ _ ?_ ?_ rfl hst
    · rintro text _ rfl
      exact (h.simulates_quotedTurn hk hquote text).turns
    · rw [Slice.remaining_eq]
      exact Nat.lt_succ_self _
    · rw [Slice.remaining_eq]
      exact Nat.lt_succ_self _
  · rintro ⟨bytes, closed⟩ _ rfl
    simp only
    split
    · exact Simulates.pure rfl
    · exact Simulates.throw _

/-- At the end of a line both readers stop: one has nothing left, and the other one has nothing
left either or is at a line ending. -/
theorem agree_turn_end (h : lex.StopsAtLines) (hk : Breaks k) (p : Progress)
    (hst : Slice.Before k s t) (hs : s.rest.bytes = []) :
    Agree (Slice.Before k) Eq ((lex.turn p : EStateM Error Slice _) s)
      ((lex.turn p : EStateM Error Slice _) t) := by
  rw [Lexicon.turn, bind_apply, bind_apply, Slice.peekToken_apply, Slice.peekToken_apply, hst.2,
    hs, List.nil_append, h.lawful.match?_nil]
  simp only [bind_apply, Slice.take_apply, hs, List.take_nil]
  by_cases hnil : k = []
  · subst hnil
    have ht : t.rest.bytes = [] := by rw [hst.2, hs, List.append_nil]
    rw [h.lawful.match?_nil]
    simp only [bind_apply, Slice.take_apply, ht, List.take_nil]
    exact .ok rfl (hst.drop (Nat.zero_le _))
  · obtain ⟨index, length, hmatch, hrole⟩ := h.stops k hnil hk
    have hclass : lex.classify index = .symbol index .lineEnd := by rw [classify, hrole]
    simp only [hmatch, hclass]
    exact .ok rfl (hst.drop (Nat.zero_le _))

/-- **One turn** in a line reads the same before what follows the line. -/
theorem simulates_turn (h : lex.StopsAtLines) (hk : Breaks k) (p : Progress) :
    Simulates (Slice.Before k) Eq (lex.turn p : EStateM Error Slice _)
      (lex.turn p : EStateM Error Slice _) := by
  intro s t hst
  by_cases hs : s.rest.bytes = []
  · exact h.agree_turn_end hk p hst hs
  · rw [Lexicon.turn, bind_apply, bind_apply, Slice.peekToken_apply, Slice.peekToken_apply, hst.2,
      h.same _ k hs hst.1 hk]
    cases hm : lex.table.match? s.rest.bytes with
    | none =>
      simp only [bind_apply, Slice.take_apply, hst.2, h.take_eq hs]
      have hle : (s.rest.bytes.take lex.encoding.unitWidth).length ≤ s.left := by
        rw [List.length_take]
        exact Nat.min_le_right _ _
      split <;> exact .ok rfl (hst.drop hle)
    | some found =>
      have hle : found.2 ≤ s.left := h.lawful.le_text (v := found.1) hm
      have hdrop := hst.drop hle
      simp only
      cases hclass : lex.classify found.1 with
      | reference slot =>
        simp only [bind_apply, wholeWord_apply, hst.2, h.follows_eq hk hle]
        split
        · exact .ok rfl hdrop
        · have htake : (s.rest.bytes ++ k).take found.2 = s.rest.bytes.take found.2 :=
            List.take_append_of_le_length hle
          simp only [bind_apply, Slice.take_apply, hst.2, htake]
          exact .ok rfl (hst.drop (by rw [List.length_take]; exact Nat.min_le_right _ _))
      | terminator => exact .ok rfl hdrop
      | symbol symbol role =>
        cases role with
        | lineEnd => exact .ok rfl hst
        | separator | operator => exact .ok rfl hdrop
        | quote =>
          have hquote : lex.roles[symbol]? = some .quote := by
            unfold classify at hclass
            split at hclass
            · rename_i role hrole
              cases hclass
              exact hrole
            · split at hclass <;> cases hclass
          refine Simulates.bind (Q := Eq) (h.simulates_readQuoted hk hquote) ?_ _ _ hdrop
          rintro text _ rfl
          exact Simulates.pure rfl

/-- **The rest of a line has the same lexemes** before what follows the line. -/
theorem simulates_tokenize (h : lex.StopsAtLines) (hk : Breaks k) :
    Simulates (Slice.Before k) Eq (lex.tokenize : EStateM Error Slice _)
      (lex.tokenize : EStateM Error Slice _) := by
  refine Simulates.bind (Q := Eq) (Simulates.get_bind fun s t hst => ?_) ?_
  · refine Simulates.loop (P := Eq) (μ := Slice.left) (ν := Slice.left) ?_
      (spends_turn h.lawful) (spends_turn h.lawful) _ _ _ _ _ _ ?_ ?_ rfl hst
    · rintro p _ rfl
      exact (h.simulates_turn hk p).turns
    · rw [Slice.remaining_eq]
      exact Nat.lt_succ_self _
    · rw [Slice.remaining_eq]
      exact Nat.lt_succ_self _
  · rintro p _ rfl
    exact Simulates.pure rfl

/-- A turn that stops inside of a line has read all of it. -/
theorem turn_stop (h : lex.StopsAtLines) {p p' : Progress} {s' : Slice}
    (hs : Inline s.rest.bytes)
    (hturn : (lex.turn p : EStateM Error Slice _) s = .ok (.stop p') s') : s'.rest.bytes = [] := by
  rw [Lexicon.turn, bind_apply, Slice.peekToken_apply] at hturn
  cases hm : lex.table.match? s.rest.bytes with
  | none =>
    simp only [hm, bind_apply, Slice.take_apply] at hturn
    split at hturn
    · rename_i hempty
      cases hturn
      have hnil : s.rest.bytes.take lex.encoding.unitWidth = [] := by simpa using hempty
      rcases List.take_eq_nil_iff.1 hnil with hzero | hrest
      · have hpos := lex.encoding.unitWidth_pos
        omega
      · show s.rest.bytes.drop _ = []
        rw [hrest, List.drop_nil]
    · cases hturn
  | some found =>
    obtain ⟨hterminator, hline⟩ := h.goesOn _ found.1 found.2 hs hm
    simp only [hm] at hturn
    cases hclass : lex.classify found.1 with
    | terminator => exact absurd hclass hterminator
    | reference slot =>
      simp only [hclass, bind_apply, wholeWord_apply] at hturn
      split at hturn <;> simp only [bind_apply, Slice.take_apply, Slice.advance_apply] at hturn <;>
        cases hturn
    | symbol symbol role =>
      rw [hclass] at hturn
      cases role with
      | lineEnd => exact absurd hclass (hline symbol)
      | separator | operator => cases hturn
      | quote =>
        simp only [bind_apply, Slice.advance_apply] at hturn
        split at hturn <;> cases hturn

/-- **A condition takes all of the rest of its line.** -/
theorem tokenize_rest (h : lex.StopsAtLines) {lexemes : List Lexeme} {s' : Slice}
    (hs : Inline s.rest.bytes)
    (htokenize : (lex.tokenize : EStateM Error Slice _) s = .ok lexemes s') :
    s'.rest.bytes = [] := by
  have hloop : ∀ bound p p' s s', s.left < bound → Inline s.rest.bytes →
      (loop lex.turn id bound p : EStateM Error Slice _) s = .ok p' s' → s'.rest.bytes = [] := by
    intro bound
    induction bound with
    | zero => intro p p' s s' hbound; omega
    | succ bound ih =>
      intro p p' s s' hbound hs hloop
      rw [loop_succ] at hloop
      -- what is left after a turn is inside of the line again
      have hagree := h.simulates_turn (k := []) (by simp [Breaks]) p s s ⟨hs, by simp⟩
      cases hturn : (lex.turn p : EStateM Error Slice _) s with
      | error e s₁ =>
        rw [hturn] at hloop
        cases hloop
      | ok turn s₁ =>
        rw [hturn] at hloop hagree
        cases hagree with
        | ok heq hrest =>
          cases turn with
          | stop p₁ =>
            cases hloop
            exact h.turn_stop hs hturn
          | again p₁ =>
            have hlt := spends_turn h.lawful p s (.again p₁) s₁ hturn trivial
            exact ih p₁ p' s₁ s' (by omega) hrest.1 hloop
  simp only [tokenize, Scanner.loop, bind_apply, get_apply] at htokenize
  cases hrun : (loop lex.turn id (Scanner.remaining s + 1) .start : EStateM Error Slice _) s with
  | error e s₁ =>
    rw [hrun] at htokenize
    cases htokenize
  | ok p s₁ =>
    rw [hrun] at htokenize
    cases htokenize
    exact hloop _ _ _ s s' (by rw [Slice.remaining_eq]; exact Nat.lt_succ_self _) hs hrun

end Lexicon.StopsAtLines

namespace Evaluator

variable {e : Evaluator} {condition k : Bytes} {holds : Bool}

/-- What is decided of a condition that is a text of its own. -/
def decision? (e : Evaluator) (condition : Bytes) : Option Bool :=
  match e.evaluate.run (Slice.ofBytes condition) with
  | .ok holds _ => some holds
  | .error _ _ => none

/-- **A condition that ends with its line** is decided as if it stood alone, and reading it
leaves what follows the line. -/
theorem verdict?_line (he : e.lexicon.StopsAtLines) (hcondition : Inline condition)
    (hk : Breaks k) (h : e.decision? condition = some holds) :
    verdict? e condition k = some holds := by
  have hbefore : Slice.Before k (Slice.ofBytes condition) (Slice.ofBytes (condition ++ k)) :=
    ⟨hcondition, rfl⟩
  have hagree := he.simulates_tokenize hk _ _ hbefore
  rw [decision?] at h
  rw [verdict?]
  simp only [EStateM.run, evaluate, bind_apply] at h ⊢
  cases htokenize : (e.lexicon.tokenize : EStateM Error Slice _) (Slice.ofBytes condition) with
  | error err s =>
    rw [htokenize] at h
    cases h
  | ok lexemes s =>
    have hrest := he.tokenize_rest hcondition htokenize
    rw [htokenize] at h hagree
    generalize (e.lexicon.tokenize : EStateM Error Slice _) (Slice.ofBytes (condition ++ k)) = y
      at hagree ⊢
    cases hagree with
    | @ok _ lexemes' _ t heq hst =>
      subst heq
      have ht : t.rest.bytes = k := by rw [hst.2, hrest, List.nil_append]
      simp only at h ⊢
      cases hdecide : e.decide lexemes with
      | error cause =>
        rw [hdecide] at h
        cases h
      | ok value =>
        rw [hdecide] at h
        cases h
        have hlift : (liftM (Except.ok holds : Except ExpressionError Bool) :
          EStateM Error Slice Bool) t = .ok holds t := rfl
        rw [hlift]
        exact if_pos ht

end Evaluator

/-! ### The lexicons of conditions -/

/-- The tokens with a line ending are those where conditions end. -/
def Vocabulary.KnowsLines (v : Vocabulary) : Prop :=
  (∀ s ∈ v.symbols, Inline (Encoding.utf8.encode s.text) ∨ s.use.role = .lineEnd) ∧
    (∀ s ∈ v.symbols, s.use.role = .lineEnd →
      Encoding.utf8.encode s.text ∈ [[13, 10], [10], [13]]) ∧
    ∀ ending ∈ [[10], [13]], ∃ s ∈ v.symbols, Encoding.utf8.encode s.text = ending

theorem Dialect.knowsLines (d : Dialect) : d.vocabulary.KnowsLines := by
  cases d <;> unfold Vocabulary.KnowsLines <;> decide

namespace Vocabulary

variable {voc : Vocabulary} {v : Variables} {format : String}

/-- The tokens of a lexicon without terminators. -/
def words (voc : Vocabulary) (v : Variables) : List Bytes :=
  voc.symbols.map (fun s => Encoding.utf8.encode s.text) ++ v.keys.map Encoding.utf8.encode

theorem table_eq : (voc.lexicon (.make .utf8 v format) []).table = .ofList (voc.words v) := by
  have hkeys := Glossary.keys_slots .utf8 v format
  rw [words, ← hkeys]
  simp only [lexicon, Lexicon.make, List.map_map, List.map_nil, List.append_nil]
  rfl

/-- A word is a symbol, with its role, or the name of a variable. -/
theorem word_cases (format : String) {i : Nat} {token : Bytes}
    (hnames : ∀ name ∈ v.keys, Unbroken name) (h : (voc.words v)[i]? = some token) :
    (∃ s ∈ voc.symbols, token = Encoding.utf8.encode s.text ∧
      (voc.lexicon (.make .utf8 v format) []).classify i = .symbol i s.use.role ∧
      (voc.lexicon (.make .utf8 v format) []).roles[i]? = some s.use.role) ∨
    (Inline token ∧
      ∃ slot, (voc.lexicon (.make .utf8 v format) []).classify i = .reference slot) := by
  have hroles : (voc.lexicon (.make .utf8 v format) []).roles = voc.symbols.map (·.use.role) := by
    simp only [lexicon, Lexicon.make, List.map_map]
    rfl
  have hlength : (voc.lexicon (.make .utf8 v format) []).names.length = v.keys.length := by
    rw [← Glossary.names_slots .utf8 v format]
    rfl
  rw [words, List.getElem?_append, List.length_map] at h
  split at h
  case isTrue hlt =>
    rw [List.getElem?_map, Option.map_eq_some_iff] at h
    obtain ⟨s, hs, rfl⟩ := h
    have hrole : (voc.lexicon (.make .utf8 v format) []).roles[i]? = some s.use.role := by
      rw [hroles, List.getElem?_map, hs]
      rfl
    exact .inl ⟨s, List.mem_of_getElem? hs, rfl, by rw [Lexicon.classify, hrole], hrole⟩
  case isFalse hge =>
    rw [List.getElem?_map, Option.map_eq_some_iff] at h
    obtain ⟨name, hname, rfl⟩ := h
    refine .inr ⟨Encoding.inline_utf8 (hnames name (List.mem_of_getElem? hname)),
      i - voc.symbols.length, ?_⟩
    have hi : i - voc.symbols.length < v.keys.length := (List.getElem?_eq_some_iff.1 hname).1
    have hnone : (voc.lexicon (.make .utf8 v format) []).roles[i]? = none := by
      rw [hroles, List.getElem?_eq_none_iff, List.length_map]
      omega
    have hroles' : (voc.lexicon (.make .utf8 v format) []).roles.length = voc.symbols.length := by
      rw [hroles, List.length_map]
    simp only [Lexicon.classify, hnone, hroles', hlength]
    exact if_pos (by omega)

/-- What starts at the end of a line is no inline text. -/
theorem not_inline_of_breaks {token k : Bytes} (hk : Breaks k) (hne : token ≠ [])
    (hp : token <+: k) : ¬ Inline token := by
  obtain ⟨b, rest, rfl⟩ := List.exists_cons_of_ne_nil hne
  obtain ⟨more, rfl⟩ := hp
  intro h
  have hno : isLineEnd b = false := h b List.mem_cons_self
  have hend : isLineEnd b = true := hk b rfl
  rw [hend] at hno
  cases hno

section Words

variable (hvoc : voc.KnowsLines) (hnames : ∀ name ∈ v.keys, Unbroken name)

include hvoc hnames

/-- A word stands within a line and ends no condition, or it starts where a line ends and does. -/
theorem KnowsLines.cases_word (format : String) {i : Nat} {token : Bytes}
    (h : (voc.words v)[i]? = some token) :
    (Inline token ∧
      (voc.lexicon (.make .utf8 v format) []).classify i ≠ .terminator ∧
      ∀ symbol, (voc.lexicon (.make .utf8 v format) []).classify i ≠ .symbol symbol .lineEnd) ∨
    (∃ b rest, token = b :: rest ∧ isLineEnd b = true) ∧
      (voc.lexicon (.make .utf8 v format) []).roles[i]? = some .lineEnd := by
  obtain ⟨hinline, hline, -⟩ := hvoc
  rcases word_cases format hnames h with ⟨s, hs, rfl, hclass, hrole⟩ | ⟨hyes, slot, hclass⟩
  · by_cases hend : s.use.role = .lineEnd
    · refine .inr ⟨?_, hend ▸ hrole⟩
      have hmem := hline s hs hend
      simp only [List.mem_cons, List.not_mem_nil, or_false] at hmem
      rcases hmem with h | h | h <;> rw [h] <;> exact ⟨_, _, rfl, rfl⟩
    · refine .inl ⟨(hinline s hs).resolve_right hend, ?_⟩
      rw [hclass]
      exact ⟨by simp, fun symbol heq => hend (Lexicon.TokenClass.symbol.inj heq).2⟩
  · rw [hclass]
    exact .inl ⟨hyes, by simp, by simp⟩

theorem KnowsLines.match?_append {x k : Bytes} (hx : x ≠ []) (hxs : Inline x) (hk : Breaks k) :
    (voc.lexicon (.make .utf8 v format) []).table.match? (x ++ k) =
      (voc.lexicon (.make .utf8 v format) []).table.match? x := by
  rw [table_eq, TokenTable.match?_ofList, TokenTable.match?_ofList]
  refine congrArg _ (longestMatch?_congr fun e he _ => ?_)
  rcases hvoc.cases_word hnames format (List.mk_mem_zipIdx_iff_getElem?.1 he) with
    ⟨hyes, -⟩ | ⟨⟨b, rest, hcons, hb⟩, -⟩
  · exact hyes.prefix_append_iff hk
  · -- what starts where a line ends is no prefix of a part of a line
    obtain ⟨b', x, rfl⟩ := List.exists_cons_of_ne_nil hx
    have hne : b ≠ b' := fun heq => by
      rw [heq, hxs b' List.mem_cons_self] at hb
      cases hb
    rw [hcons]
    simp [hne]

theorem KnowsLines.match?_breaks {k : Bytes} (hne : k ≠ []) (hk : Breaks k) :
    ∃ index length, (voc.lexicon (.make .utf8 v format) []).table.match? k = some (index, length) ∧
      (voc.lexicon (.make .utf8 v format) []).roles[index]? = some .lineEnd := by
  have hsome : longestMatch? (voc.words v).zipIdx k ≠ none := by
    obtain ⟨b, rest, rfl⟩ := List.exists_cons_of_ne_nil hne
    have hb : b = 10 ∨ b = 13 := by simpa [isLineEnd] using hk b rfl
    rw [ne_eq, longestMatch?_eq_none]
    intro hnone
    obtain ⟨s, hs, htext⟩ := hvoc.2.2 [b] (by rcases hb with rfl | rfl <;> simp)
    have hmem : [b] ∈ voc.words v := by
      rw [words, ← htext]
      exact List.mem_append_left _ (List.mem_map_of_mem hs)
    obtain ⟨i, hi⟩ := List.mem_iff_getElem?.1 hmem
    exact hnone ([b], i) (List.mk_mem_zipIdx_iff_getElem?.2 hi) (by simp) ⟨rest, rfl⟩
  obtain ⟨e, he⟩ := Option.ne_none_iff_exists'.1 hsome
  obtain ⟨hmem, hne', hp, -⟩ := longestMatch?_spec he
  rcases hvoc.cases_word hnames format (List.mk_mem_zipIdx_iff_getElem?.1 hmem) with
    ⟨hyes, -⟩ | ⟨-, hrole⟩
  · exact absurd hyes (not_inline_of_breaks hk hne' hp)
  · exact ⟨e.2, e.1.length, by rw [table_eq, TokenTable.match?_ofList, he]; rfl, hrole⟩

theorem KnowsLines.classify_of_match? {x : Bytes} {index length : Nat} (hx : Inline x)
    (hm : (voc.lexicon (.make .utf8 v format) []).table.match? x = some (index, length)) :
    (voc.lexicon (.make .utf8 v format) []).classify index ≠ .terminator ∧
      ∀ symbol,
        (voc.lexicon (.make .utf8 v format) []).classify index ≠ .symbol symbol .lineEnd := by
  rw [table_eq, TokenTable.match?_ofList, Option.map_eq_some_iff] at hm
  obtain ⟨e, he, hpair⟩ := hm
  cases hpair
  obtain ⟨hmem, -, hp, -⟩ := longestMatch?_spec he
  have hyes : Inline e.1 := fun b hb => hx b (hp.subset hb)
  rcases hvoc.cases_word hnames format (List.mk_mem_zipIdx_iff_getElem?.1 hmem) with
    ⟨-, hclass⟩ | ⟨⟨b, rest, hcons, hb⟩, -⟩
  · exact hclass
  · rw [hyes b (hcons ▸ List.mem_cons_self)] at hb
    cases hb

/-- **The lexicon of a vocabulary that knows the line endings** stops at them. -/
theorem KnowsLines.stopsAtLines :
    (voc.lexicon (.make .utf8 v format) []).StopsAtLines where
  encoding := rfl
  lawful := table_eq ▸ TokenTable.lawful_ofList _
  same _ _ hx hxs hk := hvoc.match?_append hnames hx hxs hk
  stops _ hne hk := hvoc.match?_breaks hnames hne hk
  goesOn _ _ _ hx hm := hvoc.classify_of_match? hnames hx hm

end Words

end Vocabulary

end Templating

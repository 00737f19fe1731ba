import Templating.Proofs.Ending
import Templating.Proofs.Processing
import Templating.Proofs.Reading

/-!
# Operations in two encodings

The operations of one configuration, made for two encodings of one text, are twins: at the
same character they find the same tokens, read the same conditions and cut the same
characters off the output (`Operation.materialize_text`), as long as the tokens that they search
for stand at whole code units of both.

* `OperationSettings.searched`: the texts that an operation searches its input for.
* `Memory.Written`: two outputs with one text in two encodings.
-/

namespace Templating

/-! ## Tables of a glossary -/

namespace Glossary

/-- The line endings, as texts. -/
def lineEndingTexts : List String := ["\r\n", "\n", "\r"]

variable (e : Encoding) (v : Variables) (format : String)

theorem lineEndings_eq : (make e v format).lineEndings = .words e lineEndingTexts := rfl

theorem blanks_eq : (make e v format).blanks = .words e [" ", "\t"] := rfl

theorem spells_lineEndings : (make e v format).lineEndings.Spells e ["\r", "\n", "\r\n"] := by
  rw [lineEndings_eq]
  refine ⟨by cases e <;> rfl, ?_⟩
  unfold TokenTable.Measured
  cases e <;> decide

theorem length_blanks : ∀ x ∈ (make e v format).blanks.entries, x.2.length = e.unitWidth := by
  rw [blanks_eq]
  cases e <;> decide

theorem spells_blanks : (make e v format).blanks.Spells e ["\t", " "] := by
  rw [blanks_eq]
  refine ⟨by cases e <;> rfl, ?_⟩
  unfold TokenTable.Measured
  cases e <;> decide

theorem decisive_blanks : Target.Decisive (make e v format).blanks :=
  TokenTable.decisive_of_length (length_blanks e v format)

end Glossary

/-! ## Windows and outputs -/

theorem Window.shows : Scanner.Shows Window.At where
  peekToken ht rest := (gives_peekToken ht rest).onStream
  peekByte offset rest := (gives_peekByte offset rest).onStream
  advance count rest := (gives_advance count rest).onStream
  remaining _ _ h := h.remaining

/-- **Two windows before one text in two encodings**, somewhere in a given text. -/
abbrev Window.Level (e e' : Encoding) (cs : List Char) : Window → Window → Prop :=
  Scanner.Level Window.At Window.At e e' cs

/-- **Two outputs with one text in two encodings**, each after its byte-order mark. -/
def Memory.Written (e e' : Encoding) (mark mark' : Bytes) (m m' : Memory) : Prop :=
  ∃ cs : List Char, m = .ofBytes (mark ++ e.text cs) ∧ m' = .ofBytes (mark' ++ e'.text cs)

namespace Window

variable {e e' : Encoding} {tokens : List String} {cs : List Char}

theorem simulates_seekUntil_text (h : e.Aligned tokens cs) (h' : e'.Aligned tokens cs) :
    Simulates (Level e e' cs) Eq (seekUntil (.words e tokens) true)
      (seekUntil (.words e' tokens) true) := by
  rintro w w' ⟨ds, hds, hw, hw'⟩
  -- both searches end at the same character
  obtain ⟨found, rest, hrest, hsearch⟩ := TokenTable.search_text tokens ds
  obtain ⟨hfound, hleft⟩ := hsearch e (h.suffix hds)
  obtain ⟨hfound', hleft'⟩ := hsearch e' (h'.suffix hds)
  obtain ⟨w₁, hseek, hw₁⟩ := gives_seekUntil (TokenTable.lawful_words tokens e) true _ w hw
  obtain ⟨w₂, hseek', hw₂⟩ := gives_seekUntil (TokenTable.lawful_words tokens e') true _ w' hw'
  rw [hseek, hseek', hfound, hfound']
  exact .ok rfl ⟨rest, hrest.trans hds, hleft ▸ hw₁, hleft' ▸ hw₂⟩

theorem simulates_seekWhile_text (e e' : Encoding) (tokens : List String) (cs : List Char) :
    Simulates (Level e e' cs) Eq (seekWhile (.words e tokens)) (seekWhile (.words e' tokens)) := by
  rintro w w' ⟨ds, hds, hw, hw'⟩
  obtain ⟨rest, hrest, hdrop⟩ := TokenTable.dropTokens_text tokens ds.length ds le_rfl
  obtain ⟨w₁, hseek, hw₁⟩ := gives_seekWhile (TokenTable.lawful_words tokens e) _ w hw
  obtain ⟨w₂, hseek', hw₂⟩ := gives_seekWhile (TokenTable.lawful_words tokens e') _ w' hw'
  rw [hdrop e _ le_rfl] at hw₁
  rw [hdrop e' _ le_rfl] at hw₂
  rw [hseek, hseek']
  exact .ok rfl ⟨rest, hrest.trans hds, hw₁, hw₂⟩

end Window

namespace Memory

variable {e e' : Encoding} {mark mark' : Bytes}

theorem simulates_write_text (ks : List Char) :
    Simulates (Written e e' mark mark') Eq (Target.write (e.text ks) : EStateM IoError Memory Unit)
      (Target.write (e'.text ks)) := by
  rintro _ _ ⟨cs, rfl, rfl⟩
  rw [write_apply, write_apply]
  refine .ok rfl ⟨cs ++ ks, ?_, ?_⟩
  · rw [toBytes_ofBytes, Encoding.text_append, List.append_assoc]
  · rw [toBytes_ofBytes, Encoding.text_append, List.append_assoc]

theorem simulates_cuts {m n : EStateM IoError Memory Unit}
    (h : ∀ cs, ∃ kept,
      m (.ofBytes (mark ++ e.text cs)) = .ok () (.ofBytes (mark ++ e.text kept)) ∧
        n (.ofBytes (mark' ++ e'.text cs)) = .ok () (.ofBytes (mark' ++ e'.text kept))) :
    Simulates (Written e e' mark mark') Eq m n := by
  rintro _ _ ⟨cs, rfl, rfl⟩
  obtain ⟨kept, hm, hn⟩ := h cs
  rw [hm, hn]
  exact .ok rfl ⟨kept, rfl, rfl⟩

end Memory

namespace WhitespacePolicy

variable (policy : WhitespacePolicy) (v : Variables) (format : String) {e e' : Encoding}
  {mark mark' : Bytes} {cs : List Char}

theorem simulates_before_text : Simulates
    (Session.Alike (Window.Level e e' cs) (Memory.Written e e' mark mark')) Eq
    (policy.before ⟨.make e v format, mark.length⟩)
    (policy.before ⟨.make e' v format, mark'.length⟩) := by
  cases policy with
  | keep => exact Simulates.pure rfl
  | wholeLine =>
    refine Session.simulates_onTarget (Memory.simulates_cuts fun cs => ?_)
    obtain ⟨kept, hcut⟩ := Target.cutBackTo_text ["\r", "\n", "\r\n"] cs
    exact ⟨kept, hcut e _ mark (Glossary.spells_lineEndings e v format),
      hcut e' _ mark' (Glossary.spells_lineEndings e' v format)⟩
  | trim =>
    refine Session.simulates_onTarget (Memory.simulates_cuts fun cs => ?_)
    obtain ⟨kept, hcut⟩ := Target.cutTrailing_text ["\t", " "] cs
    exact ⟨kept,
      hcut e _ mark (Glossary.spells_blanks e v format) (Glossary.decisive_blanks e v format),
      hcut e' _ mark' (Glossary.spells_blanks e' v format) (Glossary.decisive_blanks e' v format)⟩

/-- The texts that are searched for after a marker. -/
def searched : WhitespacePolicy → List String
  | wholeLine => Glossary.lineEndingTexts
  | _ => []

variable {policy}

theorem simulates_after_text (h : e.Aligned policy.searched cs) (h' : e'.Aligned policy.searched cs)
    {T : Memory → Memory → Prop} (floor floor' : Nat) : Simulates
      (Session.Alike (Window.Level e e' cs) T) Eq (policy.after ⟨.make e v format, floor⟩)
      (policy.after ⟨.make e' v format, floor'⟩) := by
  cases policy with
  | keep => exact Simulates.pure rfl
  | wholeLine =>
    refine Session.simulates_onWindow ((Window.simulates_seekUntil_text h h').bind ?_)
    rintro _ _ rfl
    exact Simulates.pure rfl
  | trim => exact Session.simulates_onWindow (Window.simulates_seekWhile_text e e' [" ", "\t"] cs)

end WhitespacePolicy

/-! ## Operations -/

namespace OperationSettings

/-- The tokens of an operation, as texts. -/
def words (v : Variables) (format : String) : OperationSettings → List String
  | conditionals s => s.markers.map (·.2)
  | replacements s => [s.token]
  | region s => if s.start == s.stop then [s.start] else [s.start, s.stop]
  | variableExpansion => v.keys.map fun name =>
      String.ofList (fillPlaceholder name.toList format.toList)
  | macros _ => []

/-- What goes away around the tokens of an operation. -/
def whitespace : OperationSettings → WhitespacePolicy
  | conditionals s => .ofFlags s.wholeLine s.trim
  | region s => .ofFlags s.wholeLine s.trim
  | _ => .keep

/-- **The texts that an operation searches its input for.** -/
def searched (v : Variables) (format : String) (s : OperationSettings) : List String :=
  s.words v format ++ s.whitespace.searched

end OperationSettings

namespace Operation

variable {e e' : Encoding} {v : Variables} {format : String} {conv : Converter} {cs : List Char}

variable {mark mark' : Bytes}

theorem scan_eq (e : Encoding) (markers : List (Marker × String)) :
    TokenTable.ofList ((markers.map fun m => (m.1, e.encode m.2)).map (·.2)) =
      .words e (markers.map (·.2)) := by
  rw [TokenTable.words, List.map_map, List.map_map]
  rfl

theorem twin_conditional {s : ConditionalSettings}
    (h : e.Aligned ((OperationSettings.conditionals s).searched v format) cs)
    (h' : e'.Aligned ((OperationSettings.conditionals s).searched v format) cs) (d : Dialect) :
    Conditional.Twin (Window.Level e e' cs) (Memory.Written e e' mark mark')
      ⟨.make e v format, mark.length⟩ ⟨.make e' v format, mark'.length⟩
      (.ofDialect d s (.make e v format) conv) (.ofDialect d s (.make e' v format) conv) := by
  refine {
    marker := fun token => ?_
    strict := rfl
    blocks := rfl
    lawful := TokenTable.lawful_ofList _
    lawful' := TokenTable.lawful_ofList _
    seek := ?_
    evaluate := Evaluator.simulates_evaluate_text Window.shows Window.shows d v format conv
      s.terminators e e' cs
    before := WhitespacePolicy.simulates_before_text _ v format
    after := WhitespacePolicy.simulates_after_text v format
      (h.mono (List.subset_append_right _ _)) (h'.mono (List.subset_append_right _ _)) _ _ }
  · simp only [Conditional.marker?, Conditional.ofDialect, List.getElem?_map, Option.map_map]
    rfl
  · have hseek : Simulates (Window.Level e e' cs) Eq
        (Window.seekUntil (.words e (s.markers.map (·.2))) true)
        (Window.seekUntil (.words e' (s.markers.map (·.2))) true) :=
      Window.simulates_seekUntil_text (h.mono (List.subset_append_left _ _))
        (h'.mono (List.subset_append_left _ _))
    rw [← scan_eq, ← scan_eq] at hseek
    exact hseek

theorem twin_region {s : RegionSettings}
    (h : e.Aligned ((OperationSettings.region s).searched v format) cs)
    (h' : e'.Aligned ((OperationSettings.region s).searched v format) cs) :
    Region.Twin (Window.Level e e' cs) (Memory.Written e e' mark mark')
      ⟨.make e v format, mark.length⟩ ⟨.make e' v format, mark'.length⟩
      (.make s (.make e v format)) (.make s (.make e' v format)) where
  toggle := rfl
  included := rfl
  depth := rfl
  lawful := TokenTable.lawful_ofList _
  lawful' := TokenTable.lawful_ofList _
  seek := Window.simulates_seekUntil_text (h.mono (List.subset_append_left _ _))
    (h'.mono (List.subset_append_left _ _))
  before := WhitespacePolicy.simulates_before_text _ v format
  after := WhitespacePolicy.simulates_after_text v format
    (h.mono (List.subset_append_right _ _)) (h'.mono (List.subset_append_right _ _)) _ _

theorem simulates_expandVariable_text (slot : Nat) : Simulates
    (Session.Alike (Window.Level e e' cs) (Memory.Written e e' mark mark')) (fun _ _ => True)
    (expandVariable (.make e v format) slot) (expandVariable (.make e' v format) slot) := by
  simp only [expandVariable, Glossary.resolve_eq e e' v format]
  split
  · exact Simulates.pure trivial
  · exact Session.simulates_write (Memory.simulates_write_text _)

/-- How an operation is made in two encodings. -/
inductive Made (e e' : Encoding) (v : Variables) (format : String) (mark mark' : Bytes)
    (cs : List Char) (words : List String) :
    Except ConfigError (Option Operation) → Except ConfigError (Option Operation) → Prop
  | failed (cause : ConfigError) :
      Made e e' v format mark mark' cs words (.error cause) (.error cause)
  | absent : Made e e' v format mark mark' cs words (.ok none) (.ok none)
  | twins {o o' : Operation} :
      Twin (Window.Level e e' cs) (Memory.Written e e' mark mark')
        ⟨.make e v format, mark.length⟩ ⟨.make e' v format, mark'.length⟩ o o' →
      o.tokens = words.map e.encode → o'.tokens = words.map e'.encode →
      Made e e' v format mark mark' cs words (.ok (some o)) (.ok (some o'))

/-- **An operation is made alike in two encodings.** -/
theorem materialize_text (conv : Converter) {s : OperationSettings}
    (h : e.Aligned (s.searched v format) cs) (h' : e'.Aligned (s.searched v format) cs)
    (mark mark' : Bytes) :
    Made e e' v format mark mark' cs (s.words v format)
      (s.materialize (.make e v format) conv) (s.materialize (.make e' v format) conv) := by
  cases s with
  | conditionals s =>
    simp only [OperationSettings.materialize]
    rw [Conditional.make_eq, Conditional.make_eq]
    cases Dialect.ofName s.evaluator with
    | error cause => exact .failed cause
    | ok d =>
      have htokens : ∀ e : Encoding, (Conditional.ofDialect d s (.make e v format) conv).tokens =
          (s.markers.map (·.2)).map e.encode := by
        intro e
        simp only [Conditional.tokens, Conditional.ofDialect, List.map_map]
        rfl
      exact .twins (.conditional (twin_conditional h h' d)) (htokens e) (htokens e')
  | replacements s =>
    exact .twins (.replacement (Memory.simulates_write_text s.replacement.toList)) rfl rfl
  | region s => exact .twins (.region (twin_region h h')) rfl rfl
  | variableExpansion =>
    exact .twins (.expansion simulates_expandVariable_text) (Glossary.formatted_slots e v format)
      (Glossary.formatted_slots e' v format)
  | macros ms => exact .absent

/-- The operations of a run in two encodings, with their tokens as texts. -/
structure Transcribed (e e' : Encoding) (v : Variables) (format : String) (mark mark' : Bytes)
    (cs : List Char) (sets : List (List String)) (os os' : List Operation) : Prop where
  paired : Paired (Window.Level e e' cs) (Memory.Written e e' mark mark')
    ⟨.make e v format, mark.length⟩ ⟨.make e' v format, mark'.length⟩ os os'
  tokens : os.map Operation.tokens = sets.map (·.map e.encode)
  tokens' : os'.map Operation.tokens = sets.map (·.map e'.encode)

/-- **All operations are made alike in two encodings.** -/
theorem mapM_text (conv : Converter) (mark mark' : Bytes) : ∀ {settings : List OperationSettings},
    (∀ s ∈ settings, e.Aligned (s.searched v format) cs) →
    (∀ s ∈ settings, e'.Aligned (s.searched v format) cs) →
    (∃ cause, settings.mapM (·.materialize (.make e v format) conv) = .error cause ∧
      settings.mapM (·.materialize (.make e' v format) conv) = .error cause) ∨
    ∃ made made' sets, settings.mapM (·.materialize (.make e v format) conv) = .ok made ∧
      settings.mapM (·.materialize (.make e' v format) conv) = .ok made' ∧
      sets.flatten ⊆ settings.flatMap (·.searched v format) ∧
      Transcribed e e' v format mark mark' cs sets (made.filterMap id) (made'.filterMap id) := by
  intro settings h h'
  induction settings with
  | nil => exact .inr ⟨[], [], [], rfl, rfl, List.nil_subset _, .nil, rfl, rfl⟩
  | cons s settings ih =>
    have hhead := materialize_text conv (h s List.mem_cons_self) (h' s List.mem_cons_self)
      mark mark'
    have hrest := ih (fun s hs => h s (List.mem_cons_of_mem _ hs))
      fun s hs => h' s (List.mem_cons_of_mem _ hs)
    rw [List.mapM_cons, List.mapM_cons]
    generalize s.materialize (.make e v format) conv = x at hhead ⊢
    generalize s.materialize (.make e' v format) conv = y at hhead ⊢
    -- an operation that cannot be made comes before all that follow it
    rcases hrest with ⟨cause, hmade, hmade'⟩ | ⟨made, made', sets, hmade, hmade', hsets, hops⟩
    · rw [hmade, hmade']
      cases hhead with
      | failed first => exact .inl ⟨first, rfl, rfl⟩
      | absent => exact .inl ⟨cause, rfl, rfl⟩
      | twins => exact .inl ⟨cause, rfl, rfl⟩
    · have hsets' : sets.flatten ⊆ (s :: settings).flatMap (·.searched v format) :=
        List.Subset.trans hsets (List.subset_append_right _ _)
      rw [hmade, hmade']
      cases hhead with
      | failed first => exact .inl ⟨first, rfl, rfl⟩
      | absent => exact .inr ⟨_, _, sets, rfl, rfl, hsets', hops⟩
      | twins htwin htokens htokens' =>
        refine .inr ⟨_, _, s.words v format :: sets, rfl, rfl, ?_, .cons htwin hops.paired, ?_, ?_⟩
        · exact List.append_subset.2 ⟨List.subset_append_of_subset_left _
            (List.subset_append_left _ _), hsets'⟩
        · exact congrArg₂ List.cons htokens hops.tokens
        · exact congrArg₂ List.cons htokens' hops.tokens'

end Operation

end Templating

import Templating.Condition
import Templating.Proofs.Window

/-!
# Scanners in lockstep

Reading a condition asks a scanner for tokens and bytes, and moves it on. Two
scanners that answer alike and stay alike (`Scanner.Lockstep`) read the same
condition and decide it alike (`Evaluator.simulates_evaluate`).

* `Window.lockstep`: two windows before the same rest are in lockstep, and so are a
  window and a slice (`Slice.lockstep`).
* `Scanner.Descends`: a measure that no action of a scanner raises; reading a condition
  does not raise it either (`Evaluator.shrinks_evaluate`).
-/

namespace Templating

namespace Scanner

variable {σ τ : Type} [Scanner σ] [Scanner τ]

/-- Related states answer alike and stay related. -/
structure Lockstep (R : σ → τ → Prop) (table : TokenTable) : Prop where
  peekToken : Simulates R Eq (Scanner.peekToken table) (Scanner.peekToken table)
  peekByte : ∀ offset : Nat, Simulates R Eq (Scanner.peekByte offset) (Scanner.peekByte offset)
  advance : ∀ count : Nat, Simulates R Eq (Scanner.advance count) (Scanner.advance count)
  remaining : ∀ s t, R s t → Scanner.remaining s = Scanner.remaining t

/-- No action raises a measure, such as what is left to be read. -/
structure Descends (μ : σ → Nat) : Prop where
  peekToken : ∀ table : TokenTable, Shrinks μ (Scanner.peekToken table)
  peekByte : ∀ offset : Nat, Shrinks μ (Scanner.peekByte offset)
  advance : ∀ count : Nat, Shrinks μ (Scanner.advance count)

variable {R : σ → τ → Prop} {table : TokenTable} {α β : Type}

namespace Lockstep

theorem peekBytes (h : Lockstep R table) (count : Nat) :
    ∀ offset, Simulates R Eq (Scanner.peekBytes offset count) (Scanner.peekBytes offset count) := by
  induction count with
  | zero => exact fun _ => Simulates.pure rfl
  | succ count ih =>
    intro offset
    refine (h.peekByte offset).bind ?_
    rintro byte _ rfl
    cases byte with
    | none => exact Simulates.pure rfl
    | some b =>
      refine (ih (offset + 1)).bind ?_
      rintro rest _ rfl
      exact Simulates.pure rfl

theorem take (h : Lockstep R table) (count : Nat) :
    Simulates R Eq (Scanner.take count) (Scanner.take count) := by
  refine (h.peekBytes count 0).bind ?_
  rintro bytes _ rfl
  refine (h.advance bytes.length).bind ?_
  rintro _ _ rfl
  exact Simulates.pure rfl

theorem loop (h : Lockstep R table) {body : α → EStateM Error σ (Turn α β)}
    {body' : α → EStateM Error τ (Turn α β)} {spent : α → β}
    (hbody : ∀ a, Simulates R Eq (body a) (body' a)) (start : α) :
    Simulates R Eq (Scanner.loop body spent start) (Scanner.loop body' spent start) := by
  refine Simulates.get_bind fun s t hr => ?_
  rw [h.remaining s t hr]
  refine Simulates.loop_same (P := Eq) ?_ ?_ _ start start rfl s t hr
  · rintro a _ rfl
    exact (hbody a).turns
  · rintro a _ rfl
    rfl

end Lockstep

namespace Descends

variable {μ : σ → Nat}

theorem peekBytes (h : Descends μ) (count : Nat) :
    ∀ offset, Shrinks μ (Scanner.peekBytes offset count) := by
  induction count with
  | zero => exact fun _ => Shrinks.pure _
  | succ count ih =>
    intro offset
    refine (h.peekByte offset).bind fun byte => ?_
    cases byte with
    | none => exact Shrinks.pure _
    | some b => exact (ih (offset + 1)).bind fun _ => Shrinks.pure _

theorem take (h : Descends μ) (count : Nat) :
    Shrinks μ (Scanner.take count) :=
  (h.peekBytes count 0).bind fun bytes => (h.advance bytes.length).bind fun _ => Shrinks.pure _

theorem loop {body : α → EStateM Error σ (Turn α β)} {spent : α → β}
    (hbody : ∀ a, Shrinks μ (body a)) (start : α) :
    Shrinks μ (Scanner.loop body spent start) := fun s =>
  Shrinks.loop hbody (remaining s + 1) start s

end Descends

end Scanner

namespace Lexicon

variable {σ τ : Type} [Scanner σ] [Scanner τ] {R : σ → τ → Prop}

open Scanner (Lockstep Descends)

section

variable (lex : Lexicon) (h : Lockstep R lex.table)

include h

theorem simulates_quotedUnit (text : Bytes) :
    Simulates R Eq (lex.quotedUnit text) (lex.quotedUnit text) := by
  refine (h.take _).bind ?_
  rintro unit _ rfl
  split <;> exact Simulates.pure rfl

theorem simulates_quotedTurn (quote : Nat) (text : Bytes) :
    Simulates R Eq (lex.quotedTurn quote text) (lex.quotedTurn quote text) := by
  refine h.peekToken.bind ?_
  rintro found _ rfl
  cases found with
  | none => exact lex.simulates_quotedUnit h text
  | some found =>
    simp only
    split
    · refine (h.advance found.2).bind ?_
      rintro _ _ rfl
      exact Simulates.pure rfl
    · split
      · exact Simulates.pure rfl
      · exact lex.simulates_quotedUnit h text

theorem simulates_readQuoted (quote : Nat) :
    Simulates R Eq (lex.readQuoted quote) (lex.readQuoted quote) := by
  refine (h.loop (lex.simulates_quotedTurn h quote) []).bind ?_
  rintro read _ rfl
  simp only
  split
  · exact Simulates.pure rfl
  · exact Simulates.throw _

theorem simulates_wholeWord (p : Progress) (length : Nat) :
    Simulates R Eq (lex.wholeWord p length) (lex.wholeWord p length) := by
  unfold wholeWord
  split
  · refine Simulates.bind (Q := Eq) ?_ ?_
    · refine (h.peekBytes _ length).bind ?_
      rintro unit _ rfl
      exact Simulates.pure rfl
    · rintro follows _ rfl
      exact Simulates.pure rfl
  · exact Simulates.pure rfl

/-- One turn of reading a condition, on scanners in lockstep. -/
theorem simulates_turn (p : Progress) : Simulates R Eq (lex.turn p) (lex.turn p) := by
  refine h.peekToken.bind ?_
  rintro found _ rfl
  cases found with
  | none =>
    refine (h.take _).bind ?_
    rintro unit _ rfl
    split <;> exact Simulates.pure rfl
  | some found =>
    -- most tokens are passed and nothing else
    have hadvance : ∀ next : Turn Progress Progress,
        Simulates R Eq (do Scanner.advance found.2; pure next : EStateM Error σ _)
          (do Scanner.advance found.2; pure next : EStateM Error τ _) := by
      intro next
      refine (h.advance found.2).bind ?_
      rintro _ _ rfl
      exact Simulates.pure rfl
    simp only
    cases lex.classify found.1 with
    | terminator => exact hadvance _
    | reference slot =>
      refine (lex.simulates_wholeWord h p found.2).bind ?_
      rintro whole _ rfl
      cases whole with
      | true => exact hadvance _
      | false =>
        refine (h.take found.2).bind ?_
        rintro bytes _ rfl
        exact Simulates.pure rfl
    | symbol index role =>
      cases role with
      | lineEnd => exact Simulates.pure rfl
      | separator => exact hadvance _
      | operator => exact hadvance _
      | quote =>
        refine (h.advance found.2).bind ?_
        rintro _ _ rfl
        refine (lex.simulates_readQuoted h index).bind ?_
        rintro text _ rfl
        exact Simulates.pure rfl

/-- **Scanners in lockstep read the same lexemes.** -/
theorem simulates_tokenize : Simulates R Eq lex.tokenize lex.tokenize := by
  refine (h.loop (lex.simulates_turn h) Progress.start).bind ?_
  rintro p _ rfl
  exact Simulates.pure rfl

end

section

variable {μ : σ → Nat} (lex : Lexicon) (h : Descends μ)

include h

theorem shrinks_quotedUnit (text : Bytes) :
    Shrinks μ (lex.quotedUnit text) := by
  refine (h.take _).bind fun unit => ?_
  split <;> exact Shrinks.pure _

theorem shrinks_quotedTurn (quote : Nat) (text : Bytes) :
    Shrinks μ (lex.quotedTurn quote text) := by
  refine (h.peekToken _).bind fun found => ?_
  cases found with
  | none => exact lex.shrinks_quotedUnit h text
  | some found =>
    simp only
    split
    · exact (h.advance _).bind fun _ => Shrinks.pure _
    · split
      · exact Shrinks.pure _
      · exact lex.shrinks_quotedUnit h text

theorem shrinks_readQuoted (quote : Nat) :
    Shrinks μ (lex.readQuoted quote) := by
  refine (Descends.loop (lex.shrinks_quotedTurn h quote) []).bind fun read => ?_
  simp only
  split
  · exact Shrinks.pure _
  · exact Shrinks.throw _

theorem shrinks_wholeWord (p : Progress) (length : Nat) :
    Shrinks μ (lex.wholeWord p length) := by
  unfold wholeWord
  split
  · exact ((h.peekBytes _ length).bind fun _ => Shrinks.pure _).bind fun _ => Shrinks.pure _
  · exact Shrinks.pure _

theorem shrinks_turn (p : Progress) : Shrinks μ (lex.turn p) := by
  refine (h.peekToken _).bind fun found => ?_
  cases found with
  | none =>
    refine (h.take _).bind fun unit => ?_
    split <;> exact Shrinks.pure _
  | some found =>
    have hadvance : ∀ next : Turn Progress Progress,
        Shrinks μ (do Scanner.advance found.2; pure next : EStateM Error σ _) :=
      fun _ => (h.advance _).bind fun _ => Shrinks.pure _
    simp only
    cases lex.classify found.1 with
    | terminator => exact hadvance _
    | reference slot =>
      refine (lex.shrinks_wholeWord h p found.2).bind fun whole => ?_
      cases whole with
      | true => exact hadvance _
      | false => exact (h.take _).bind fun _ => Shrinks.pure _
    | symbol index role =>
      cases role with
      | lineEnd => exact Shrinks.pure _
      | separator => exact hadvance _
      | operator => exact hadvance _
      | quote =>
        exact (h.advance _).bind fun _ =>
          (lex.shrinks_readQuoted h index).bind fun _ => Shrinks.pure _

theorem shrinks_tokenize : Shrinks μ lex.tokenize :=
  (Descends.loop (lex.shrinks_turn h) Progress.start).bind fun _ => Shrinks.pure _

end

end Lexicon

namespace Evaluator

variable {σ τ : Type} [Scanner σ] [Scanner τ] {R : σ → τ → Prop}

variable (e : Evaluator)

/-- **Scanners in lockstep decide a condition alike.** -/
theorem simulates_evaluate (h : Scanner.Lockstep R e.lexicon.table) :
    Simulates R Eq (e.evaluate : EStateM Error σ Bool) (e.evaluate : EStateM Error τ Bool) := by
  refine (e.lexicon.simulates_tokenize h).bind ?_
  rintro lexemes _ rfl
  exact Simulates.lift _

theorem shrinks_evaluate {μ : σ → Nat} (h : Scanner.Descends μ) :
    Shrinks μ (e.evaluate : EStateM Error σ Bool) :=
  (e.lexicon.shrinks_tokenize h).bind fun _ => Shrinks.lift _

end Evaluator

/-! ## Windows and slices -/

namespace Slice

/-- A slice before the rest of a text. -/
def At (s : Slice) (rest : Bytes) : Prop := s.rest.bytes = rest

theorem gives_peekToken (table : TokenTable) (rest : Bytes) :
    Gives (At · rest) (Scanner.peekToken table) (table.match? rest) (At · rest) := by
  rintro s rfl
  exact ⟨s, rfl, rfl⟩

theorem gives_peekByte (offset : Nat) (rest : Bytes) :
    Gives (At · rest) (Scanner.peekByte offset) rest[offset]? (At · rest) := by
  rintro s rfl
  exact ⟨s, rfl, rfl⟩

theorem gives_advance (count : Nat) (rest : Bytes) :
    Gives (At · rest) (Scanner.advance count) () (At · (rest.drop count)) := by
  rintro s rfl
  exact ⟨s.drop count, rfl, rfl⟩

/-- A slice and a window before the same rest. -/
def Alike (s : Slice) (w : Window) : Prop := ∃ rest, s.At rest ∧ w.At rest

theorem lockstep {table : TokenTable} (ht : table.Lawful) : Scanner.Lockstep Alike table where
  peekToken := Simulates.of_gives table.match? id (gives_peekToken table)
    fun rest => (Window.gives_peekToken ht rest).onStream
  peekByte offset := Simulates.of_gives (·[offset]?) id (gives_peekByte offset)
    fun rest => (Window.gives_peekByte _ rest).onStream
  advance count := Simulates.of_gives (fun _ => ()) (·.drop count) (gives_advance count)
    fun rest => (Window.gives_advance _ rest).onStream
  remaining := by
    rintro s w ⟨rest, rfl, hw⟩
    exact s.rest.length_eq.trans hw.remaining.symm

end Slice

namespace Window

/-- Two windows before the same rest of an input. -/
def Alike (w v : Window) : Prop := ∃ rest, w.At rest ∧ v.At rest

theorem lockstep {table : TokenTable} (ht : table.Lawful) : Scanner.Lockstep Alike table where
  peekToken := Simulates.of_gives table.match? id (fun rest => (gives_peekToken ht rest).onStream)
    fun rest => (gives_peekToken ht rest).onStream
  peekByte offset :=
    Simulates.of_gives (·[offset]?) id (fun rest => (gives_peekByte _ rest).onStream)
      fun rest => (gives_peekByte _ rest).onStream
  advance count := Simulates.of_gives (fun _ => ()) (·.drop count)
    (fun rest => (gives_advance _ rest).onStream) fun rest => (gives_advance _ rest).onStream
  remaining := by
    rintro w v ⟨rest, hw, hv⟩
    exact hw.remaining.trans hv.remaining.symm

theorem Descends.scanner {μ : Window → Nat} (h : Descends μ) : Scanner.Descends μ where
  peekToken table := (shrinks_peekToken h table).onStream
  peekByte offset := (shrinks_peekByte h offset).onStream
  advance count := (shrinks_advance h count).onStream

end Window

end Templating

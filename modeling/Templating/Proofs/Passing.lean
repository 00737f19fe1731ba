import Templating.Proofs.LineReading
import Templating.Proofs.Meaning

/-!
# What goes away with a marker

A marker takes bytes after it: the condition that is read, and what the policy for blanks
removes. Reading a condition can only fail on its expression, and the other steps of
handling a marker cannot fail in memory.

* `Lexicon.left?`: what reading a condition leaves.
* `Evaluator.ensures_evaluate`: a window is left there, unless the expression fails.
* `WhitespacePolicy.passed`: what the policy leaves after a marker.
* `WhitespacePolicy.ensures_before`: nothing below the floor of the output is cut.
-/

namespace Templating

/-- A failure of an expression. -/
def Error.OfExpression : Error → Prop
  | expression _ => True
  | _ => False

/-! ### Reading stays within its bytes -/

section Reading

variable {k : Bytes} {F : Error → Prop}

namespace Slice

/-- What is left to be read ends some bytes. -/
def Within (k : Bytes) (s : Slice) : Prop := s.rest.bytes <:+ k

theorem Within.drop {s : Slice} (h : Within k s) (count : Nat) : Within k (s.drop count) :=
  (List.drop_suffix count s.rest.bytes).trans h

theorem ensures_peekToken (table : TokenTable) :
    Ensures (Within k) (Scanner.peekToken table) (fun _ => Within k) F := by
  intro s hs
  rw [peekToken_apply]
  exact hs

theorem ensures_advance (count : Nat) :
    Ensures (Within k) (Scanner.advance count) (fun _ => Within k) F := by
  intro s hs
  rw [advance_apply]
  exact hs.drop count

theorem ensures_take (count : Nat) :
    Ensures (Within k) (Scanner.take count) (fun _ => Within k) F := by
  intro s hs
  rw [take_apply]
  exact hs.drop _

theorem ensures_loop {α β : Type} {body : α → EStateM Error Slice (Turn α β)} {spent : α → β}
    (hbody : ∀ a, Ensures (Within k) (body a) (fun _ => Within k) F) (start : α) :
    Ensures (Within k) (Scanner.loop body spent start) (fun _ => Within k) F := by
  have hloop : ∀ n a, Ensures (Within k) (loop body spent n a) (fun _ => Within k) F := by
    refine Ensures.loop (fun _ _ hs => hs) fun n a => ?_
    refine (hbody a).weaken (fun _ hs => hs) (fun turn s hs => ?_) (fun _ he => he)
    cases turn <;> exact hs
  intro s hs
  simp only [Scanner.loop, bind_apply, get_apply]
  exact hloop _ start s hs

end Slice

namespace Lexicon

variable (lex : Lexicon)

theorem ensures_wholeWord (p : Progress) (length : Nat) :
    Ensures (Slice.Within k) (lex.wholeWord p length) (fun _ => Slice.Within k) F := by
  intro s hs
  rw [wholeWord_apply]
  exact hs

theorem ensures_quotedUnit (text : Bytes) :
    Ensures (Slice.Within k) (lex.quotedUnit text) (fun _ => Slice.Within k) F := by
  refine (Slice.ensures_take _).bind fun unit => ?_
  split <;> exact Ensures.pure fun _ hs => hs

theorem ensures_quotedTurn (quote : Nat) (text : Bytes) :
    Ensures (Slice.Within k) (lex.quotedTurn quote text) (fun _ => Slice.Within k) F := by
  refine (Slice.ensures_peekToken _).bind fun found => ?_
  cases found with
  | none => exact lex.ensures_quotedUnit text
  | some found =>
    simp only
    split
    · exact (Slice.ensures_advance _).bind fun _ => Ensures.pure fun _ hs => hs
    · split
      · exact Ensures.pure fun _ hs => hs
      · exact lex.ensures_quotedUnit text

theorem ensures_readQuoted (quote : Nat) :
    Ensures (Slice.Within k) (lex.readQuoted quote) (fun _ => Slice.Within k)
      Error.OfExpression := by
  refine (Slice.ensures_loop (lex.ensures_quotedTurn quote) []).bind fun result => ?_
  obtain ⟨text, closed⟩ := result
  cases closed with
  | true => exact Ensures.pure fun _ hs => hs
  | false => exact Ensures.throw trivial

theorem ensures_turn (p : Progress) :
    Ensures (Slice.Within k) (lex.turn p) (fun _ => Slice.Within k) Error.OfExpression := by
  refine (Slice.ensures_peekToken _).bind fun found => ?_
  cases found with
  | none =>
    refine (Slice.ensures_take _).bind fun unit => ?_
    split <;> exact Ensures.pure fun _ hs => hs
  | some found =>
    obtain ⟨index, length⟩ := found
    have hadvance : ∀ next : Turn Progress Progress, Ensures (Slice.Within k)
        (do Scanner.advance length; pure next) (fun _ => Slice.Within k) Error.OfExpression :=
      fun next => (Slice.ensures_advance length).bind fun _ => Ensures.pure fun _ hs => hs
    simp only
    cases lex.classify index with
    | reference slot =>
      refine (lex.ensures_wholeWord p length).bind fun whole => ?_
      cases whole with
      | true => exact hadvance _
      | false => exact (Slice.ensures_take length).bind fun _ => Ensures.pure fun _ hs => hs
    | terminator => exact hadvance _
    | symbol symbol role =>
      cases role with
      | lineEnd => exact Ensures.pure fun _ hs => hs
      | separator => exact hadvance _
      | operator => exact hadvance _
      | quote =>
        refine (Slice.ensures_advance length).bind fun _ => ?_
        exact (lex.ensures_readQuoted symbol).bind fun _ => Ensures.pure fun _ hs => hs

/-- **Reading a condition** leaves a last part of its bytes, and only fails on the
expression. -/
theorem ensures_tokenize :
    Ensures (Slice.Within k) (lex.tokenize) (fun _ => Slice.Within k) Error.OfExpression :=
  (Slice.ensures_loop lex.ensures_turn Progress.start).bind fun _ => Ensures.pure fun _ hs => hs

/-- What reading a condition from some bytes leaves, if it can be read. -/
def left? (k : Bytes) : Option Bytes :=
  match (lex.tokenize : EStateM Error Slice _) (Slice.ofBytes k) with
  | .ok _ s => some s.rest.bytes
  | .error _ _ => none

end Lexicon

/-- **Deciding a condition** leaves what reading it leaves, or the expression fails. -/
theorem Evaluator.ensures_evaluate (e : Evaluator) (he : e.lexicon.table.Lawful) (k : Bytes) :
    Ensures (Window.At · k) e.evaluate
      (fun _ w => ∃ rest, e.lexicon.left? k = some rest ∧ rest <:+ k ∧ w.At rest)
      Error.OfExpression := by
  intro w hw
  have hagree := e.simulates_evaluate (Slice.lockstep he) (Slice.ofBytes k) w ⟨k, rfl, hw⟩
  have htokenize := e.lexicon.ensures_tokenize (Slice.ofBytes k) (List.suffix_refl k)
  generalize (e.evaluate : EStateM Error Window Bool) w = y at hagree ⊢
  cases hx : (e.lexicon.tokenize : EStateM Error Slice _) (Slice.ofBytes k) with
  | error err s =>
    have hfails : (e.evaluate : EStateM Error Slice Bool) (Slice.ofBytes k) = .error err s := by
      simp only [Evaluator.evaluate, bind_apply, hx]
    rw [hx] at htokenize
    rw [hfails] at hagree
    cases hagree with
    | error => exact htokenize
  | ok lexemes s =>
    have hleft : e.lexicon.left? k = some s.rest.bytes := by rw [Lexicon.left?, hx]
    rw [hx] at htokenize
    cases hdecide : e.decide lexemes with
    | error cause =>
      have hfails : (e.evaluate : EStateM Error Slice Bool) (Slice.ofBytes k) =
          .error (.expression cause) s := by
        simp only [Evaluator.evaluate, bind_apply, hx, hdecide]
        rfl
      rw [hfails] at hagree
      cases hagree with
      | error => trivial
    | ok holds =>
      have hgives : (e.evaluate : EStateM Error Slice Bool) (Slice.ofBytes k) = .ok holds s := by
        simp only [Evaluator.evaluate, bind_apply, hx, hdecide]
        rfl
      rw [hgives] at hagree
      cases hagree with
      | ok _ halike =>
        obtain ⟨rest, hs, hw'⟩ := halike
        have hrest : s.rest.bytes = rest := hs
        exact ⟨rest, hrest ▸ hleft, hrest ▸ htokenize, hw'⟩

end Reading

/-! ### Blanks -/

namespace TokenTable

variable {t : TokenTable}

theorem find_suffix : ∀ bytes : Bytes, (t.find bytes).2 <:+ bytes
  | [] => List.suffix_refl []
  | b :: rest => by
    rw [find]
    cases t.match? (b :: rest) with
    | some found => exact List.suffix_refl _
    | none => exact (find_suffix rest).trans (List.suffix_cons b rest)

theorem remainder_suffix (bytes : Bytes) : t.remainder true bytes <:+ bytes := by
  rw [remainder]
  cases (t.find bytes).1 with
  | none => exact List.nil_suffix
  | some found => exact (List.drop_suffix _ _).trans (find_suffix bytes)

theorem dropTokens_suffix (count : Nat) (bytes : Bytes) : t.dropTokens count bytes <:+ bytes := by
  induction count generalizing bytes with
  | zero => exact List.suffix_refl bytes
  | succ count ih =>
    rw [dropTokens]
    cases t.match? bytes with
    | none => exact List.suffix_refl bytes
    | some found => exact (ih _).trans (List.drop_suffix _ _)

end TokenTable

/-- A session before some bytes, with an output that reaches up to a floor at least. -/
def Session.Above (floor : Nat) (k : Bytes) (σ : Session Memory) : Prop :=
  σ.window.At k ∧ floor ≤ σ.target.toBytes.length

namespace Session

variable {α : Type} {floor : Nat} {k : Bytes} {Q : α → Window → Prop} {F : Error → Prop}

theorem ensures_scan {m : EStateM Error Window α} (h : Ensures (Window.At · k) m Q F) :
    Ensures (Above floor k) (scan m)
      (fun a σ => Q a σ.window ∧ floor ≤ σ.target.toBytes.length) F := by
  rintro σ ⟨hw, ht⟩
  have hm := h σ.window hw
  rw [scan_apply]
  cases hx : m σ.window with
  | ok a w =>
    rw [hx] at hm
    exact ⟨hm, ht⟩
  | error e w =>
    rw [hx] at hm
    exact hm

theorem ensures_onWindow {m : EStateM IoError Window α} {a : α} {rest : Bytes}
    (h : Gives (Window.At · k) m a (Window.At · rest)) :
    Ensures (Above floor k) (onWindow m) (fun b σ => b = a ∧ Above floor rest σ) F := by
  have hgives : Ensures (Window.At · k) (liftM m : EStateM Error Window α)
      (fun b w => b = a ∧ w.At rest) F := by
    intro w hw
    obtain ⟨w', hm, hw'⟩ := h.onStream w hw
    rw [hm]
    exact ⟨rfl, hw'⟩
  refine (ensures_scan hgives).weaken (fun _ hσ => hσ) ?_ (fun _ he => he)
  rintro b σ ⟨⟨hb, hw⟩, ht⟩
  exact ⟨hb, hw, ht⟩

end Session

namespace WhitespacePolicy

/-- What the policy leaves after a marker. -/
def passed (policy : WhitespacePolicy) (g : Glossary) (k : Bytes) : Bytes :=
  match policy with
  | keep => k
  | wholeLine => g.lineEndings.remainder true k
  | trim => g.blanks.dropTokens k.length k

theorem passed_suffix (policy : WhitespacePolicy) (g : Glossary) (k : Bytes) :
    policy.passed g k <:+ k := by
  cases policy with
  | keep => exact List.suffix_refl k
  | wholeLine => exact TokenTable.remainder_suffix k
  | trim => exact TokenTable.dropTokens_suffix k.length k

variable {ctx : Context} {e : Encoding} {v : Variables} {format : String} {k : Bytes}
  {F : Error → Prop}

theorem ensures_after (hctx : ctx.glossary = .make e v format) (policy : WhitespacePolicy) :
    Ensures (Session.Above ctx.floor k) (policy.after ctx)
      (fun _ => Session.Above ctx.floor (policy.passed ctx.glossary k)) F := by
  cases policy with
  | keep => exact Ensures.pure fun _ hσ => hσ
  | wholeLine =>
    have hlawful : ctx.glossary.lineEndings.Lawful := hctx ▸ TokenTable.lawful_ofList _
    have hseek : Gives (Window.At · k)
        (do let _ ← Window.seekThrough ctx.glossary.lineEndings; pure ()) ()
        (Window.At · (ctx.glossary.lineEndings.remainder true k)) :=
      (Window.gives_seekUntil hlawful true k).bind (Gives.pure fun _ hw => hw)
    exact (Session.ensures_onWindow hseek).weaken (fun _ hσ => hσ) (fun _ _ hσ => hσ.2)
      (fun _ he => he)
  | trim =>
    have hlawful : ctx.glossary.blanks.Lawful := hctx ▸ TokenTable.lawful_ofList _
    exact (Session.ensures_onWindow (Window.gives_seekWhile hlawful k)).weaken (fun _ hσ => hσ)
      (fun _ _ hσ => hσ.2) (fun _ he => he)

/-- **Before a marker** nothing below the floor of the output is cut. -/
theorem ensures_before (hctx : ctx.glossary = .make e v format) (policy : WhitespacePolicy) :
    Ensures (Session.Above ctx.floor k) (policy.before ctx)
      (fun _ => Session.Above ctx.floor k) F := by
  cases policy with
  | keep => exact Ensures.pure fun _ hσ => hσ
  | wholeLine =>
    rintro ⟨window, target⟩ ⟨hw, ht⟩
    have hmeasured := (Glossary.spells_lineEndings e v format).measured
    have hcut := Target.cutBackTo_apply ctx.glossary.encoding.unitWidth ctx.floor hmeasured
      target false
    simp only [before, Session.cutBackTo, Session.onTarget_apply, hctx] at hcut ⊢
    rw [hcut]
    refine ⟨hw, ?_⟩
    have ht' : ctx.floor ≤ target.toBytes.length := ht
    rw [Memory.toBytes_ofBytes, List.length_take]
    refine le_min ?_ ht'
    cases Target.lastEnd? _ _ _ _ _ with
    | none => exact le_rfl
    | some found => exact Nat.le_add_right _ _
  | trim =>
    rintro ⟨window, target⟩ ⟨hw, ht⟩
    have hmeasured := (Glossary.spells_blanks e v format).measured
    have hdecisive := Glossary.decisive_blanks e v format
    have ht' : ctx.floor ≤ target.toBytes.length := ht
    simp only [before, Session.cutTrailing, Session.onTarget_apply, hctx]
    by_cases hunit : ctx.glossary.encoding.unitWidth ∣ target.toBytes.length - ctx.floor
    · have hcut := Target.cutTrailing_apply hmeasured hdecisive target ht' hunit
      simp only [hctx] at hcut
      rw [hcut]
      refine ⟨hw, ?_⟩
      rw [Memory.toBytes_ofBytes, List.length_take]
      exact le_min (Nat.le_add_right _ _) ht'
    · -- nothing is cut from an output that is not made of whole units
      have hmod : (target.toBytes.length - ctx.floor) %
          (Glossary.make e v format).encoding.unitWidth ≠ 0 :=
        fun hzero => hunit (hctx ▸ Nat.dvd_of_mod_eq_zero hzero)
      simp only [Target.cutTrailing, bind_apply, target.size_apply, if_apply, pure_apply]
      rw [if_pos (Or.inr hmod)]
      exact ⟨hw, ht'⟩

end WhitespacePolicy

end Templating

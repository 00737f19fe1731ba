import Templating.Proofs.Markers
import Templating.Proofs.Passing

/-!
# Balance of a template

In strict mode a run is rejected if the markers of its template are not balanced. Branches
that stay are read token by token and their conditions by the lexer, and branches that do
not stay are searched for markers only; both ways agree on the markers as long as no marker
begins in what is read after another one, nor in a token of another operation. Then it does
not depend on the values of variables whether a template is rejected.

* `Conditional.Clear`: no marker begins in what something else takes with it.
* `Conditional.ensures_turn`: after one marker, those that are left are as balanced as before.
* `Conditional.ensures_dispatch`: and so they are after all that a marker leads to.
-/

namespace Templating

/-- A failure of an expression, or of markers that are not balanced. -/
def Error.Blames (sound : Bool) : Error → Prop
  | expression _ => True
  | unbalanced _ => sound = false
  | _ => False

theorem Error.OfExpression.blames {e : Error} (h : e.OfExpression) (sound : Bool) :
    e.Blames sound := by
  cases e with
  | expression => trivial
  | io | config | unbalanced => cases h

namespace Conditional

/-! ### Clear texts -/

/-- What handling a marker before some bytes leaves of them, if a condition of it can be
read. -/
def left? (c : Conditional) (g : Glossary) (kind : Marker) (k : Bytes) : Option Bytes :=
  match kind with
  | .opening | .alternative => (c.evaluator.lexicon.left? k).map (c.whitespace.passed g)
  | .fallback | .closing => some (c.whitespace.passed g k)

/-- **A clear text**: no marker begins in what handling another one takes with it, nor in
one of the other tokens. -/
structure Clear (c : Conditional) (g : Glossary) (others : List Bytes) (text : Bytes) : Prop where
  passed : ∀ place ∈ places c.entries text, ∀ rest ∈ c.left? g place.1 place.2,
    places c.entries rest = places c.entries place.2
  apart : ∀ token ∈ others, token ≠ [] → ∀ rest, token ++ rest <:+ text →
    places c.entries rest = places c.entries (token ++ rest)

instance (c : Conditional) (g : Glossary) (others : List Bytes) (text : Bytes) :
    Decidable (c.Clear g others text) :=
  decidable_of_iff
    ((∀ place ∈ places c.entries text, ∀ rest ∈ c.left? g place.1 place.2,
        places c.entries rest = places c.entries place.2) ∧
      ∀ token ∈ others, token ≠ [] → ∀ tail ∈ text.tails, token <+: tail →
        places c.entries (tail.drop token.length) = places c.entries tail) (by
    constructor
    · rintro ⟨hpassed, hapart⟩
      refine ⟨hpassed, fun token htoken hne rest hrest => ?_⟩
      have htail := hapart token htoken hne _ ((List.mem_tails _ _).2 hrest)
        (List.prefix_append _ _)
      rwa [List.drop_left] at htail
    · rintro ⟨hpassed, hapart⟩
      refine ⟨hpassed, fun token htoken hne tail htail hprefix => ?_⟩
      obtain ⟨rest, rfl⟩ := hprefix
      rw [List.drop_left]
      exact hapart token htoken hne rest ((List.mem_tails _ _).1 htail))

/-- A strict operation as its settings make it. -/
structure Strict (c : Conditional) (ctx : Context) : Prop where
  scans : c.Scans
  strict : c.strict = true
  lawful : c.evaluator.lexicon.table.Lawful
  glossary : ∃ e v format, ctx.glossary = .make e v format

variable {c : Conditional} {ctx : Context} {others : List Bytes} {text k : Bytes} {kind : Marker}
  {blocks outer : List Bool} {sound : Bool}

/-! ### Handling a marker -/

/-- A turn before some bytes leaves markers that are as balanced: another marker is to be
handled before what is left, or the run goes on there. -/
def Settles (c : Conditional) (ctx : Context) (k : Bytes) (sound : Bool)
    (turn : Turn (Marker × List Bool) (List Bool)) (σ : Session Memory) : Prop :=
  match turn with
  | .again (kind, blocks) => ∃ rest, Session.Above ctx.floor rest σ ∧
      (kind, rest) :: places c.entries rest <:+ places c.entries k ∧
      sound = balanced blocks.length (kind :: marks c.entries rest)
  | .stop blocks => ∃ rest, Session.Above ctx.floor rest σ ∧ rest <:+ k ∧
      places c.entries rest <:+ places c.entries k ∧
      sound = balanced blocks.length (marks c.entries rest)

theorem Settles.of_left {rest : Bytes} {turn : Turn (Marker × List Bool) (List Bool)}
    {σ : Session Memory} (h : c.Settles ctx rest sound turn σ) (hsuffix : rest <:+ k)
    (hplaces : places c.entries rest = places c.entries k) : c.Settles ctx k sound turn σ := by
  cases turn with
  | again next =>
    obtain ⟨rest', hσ, hplace, hbalanced⟩ := h
    exact ⟨rest', hσ, hplaces ▸ hplace, hbalanced⟩
  | stop blocks =>
    obtain ⟨rest', hσ, hsuffix', hplace, hbalanced⟩ := h
    exact ⟨rest', hσ, hsuffix'.trans hsuffix, hplaces ▸ hplace, hbalanced⟩

/-- **After a branch that goes away** the next marker is found, or the block is never closed. -/
theorem ensures_resume (hc : c.Strict ctx) (sought : Sought) (taken : Bool) :
    Ensures (Session.Above ctx.floor k) (c.resume sought (taken :: outer))
      (c.Settles ctx k (balanced (outer.length + 1) (marks c.entries k)))
      (Error.Blames (balanced (outer.length + 1) (marks c.entries k))) := by
  rw [resume_eq]
  refine (Session.ensures_onWindow (gives_skip_places hc.scans sought k)).bind fun marker => ?_
  rintro σ ⟨rfl, hσ⟩
  cases hskip : skipTo sought 0 (places c.entries k) with
  | none =>
    have hblames : balanced (outer.length + 1) (marks c.entries k) = false :=
      unbalanced_of_skipTo hskip
    simp only [Option.map_none, resumed, unterminated, hc.strict, if_true]
    exact hblames
  | some found =>
    obtain ⟨more, hmore, hbalanced⟩ := balanced_of_skipTo hskip
    obtain ⟨rfl, -, -⟩ := places_suffix hmore
    rw [hskip] at hσ
    exact ⟨found.2, hσ, hmore, hbalanced⟩

/-- **A branch with a condition** stays, or the marker after it is found. -/
theorem ensures_decideBranch (hc : c.Strict ctx) (hkind : kind = .opening ∨ kind = .alternative)
    (hclear : ∀ rest ∈ c.left? ctx.glossary kind k, places c.entries rest = places c.entries k) :
    Ensures (Session.Above ctx.floor k) (c.decideBranch ctx (false :: outer))
      (c.Settles ctx k (balanced (outer.length + 1) (marks c.entries k)))
      (Error.Blames (balanced (outer.length + 1) (marks c.entries k))) := by
  obtain ⟨e, v, format, hglossary⟩ := hc.glossary
  have hevaluate := (c.evaluator.ensures_evaluate hc.lawful k).weaken (fun _ hw => hw)
    (fun _ _ hw => hw) fun err herr => herr.blames (balanced (outer.length + 1) (marks c.entries k))
  refine (Session.ensures_scan hevaluate).bind fun holds => ?_
  rintro σ ⟨⟨rest, hleft, hsuffix, hw⟩, ht⟩
  -- the markers are the same before and after the condition and the blanks
  have hrest : places c.entries (c.whitespace.passed ctx.glossary rest) = places c.entries k := by
    refine hclear _ ?_
    rcases hkind with rfl | rfl <;> rw [left?, hleft] <;> rfl
  have hmarks : marks c.entries (c.whitespace.passed ctx.glossary rest) = marks c.entries k := by
    rw [marks, hrest, marks]
  refine (c.whitespace.ensures_after hglossary).bind (fun _ => ?_) σ ⟨hw, ht⟩
  have hpassed : c.whitespace.passed ctx.glossary rest <:+ k :=
    (c.whitespace.passed_suffix _ _).trans hsuffix
  cases holds with
  | true =>
    refine Ensures.pure fun σ' hσ' => ⟨_, hσ', hpassed, ?_, ?_⟩
    · rw [hrest]
    · rw [hmarks]
      rfl
  | false =>
    have hresume : Ensures (Session.Above ctx.floor (c.whitespace.passed ctx.glossary rest))
        (c.resume .branch (false :: outer)) _ _ := ensures_resume hc .branch false
    rw [hmarks] at hresume
    exact hresume.weaken (fun _ hσ' => hσ') (fun _ _ hturn => hturn.of_left hpassed hrest)
      (fun _ he => he)

/-- Outside of blocks any marker but `if` is an error. -/
theorem ensures_orphan (hc : c.Strict ctx) (hkind : kind ≠ .opening) {P : Session Memory → Prop}
    {Q : Turn (Marker × List Bool) (List Bool) → Session Memory → Prop} :
    Ensures P (c.orphan ctx kind ([] : List Bool) : EStateM Error (Session Memory) _) Q
      (Error.Blames (balanced 0 (kind :: marks c.entries k))) := by
  have hblames : balanced 0 (kind :: marks c.entries k) = false := balanced_outside hkind
  unfold orphan
  rw [if_pos hc.strict]
  exact Ensures.throw hblames

/-- A marker without a condition goes away with the blanks after it. -/
theorem ensures_passed (hc : c.Strict ctx) (inside : List Bool)
    (hplaces : places c.entries (c.whitespace.passed ctx.glossary k) = places c.entries k) :
    Ensures (Session.Above ctx.floor k)
      (do c.whitespace.after ctx; pure (.stop inside) : EStateM Error (Session Memory) _)
      (c.Settles ctx k (balanced inside.length (marks c.entries k)))
      (Error.Blames (balanced inside.length (marks c.entries k))) := by
  obtain ⟨e, v, format, hglossary⟩ := hc.glossary
  refine (c.whitespace.ensures_after hglossary).bind fun _ => Ensures.pure fun σ hσ => ?_
  refine ⟨_, hσ, c.whitespace.passed_suffix _ _, ?_, ?_⟩
  · rw [hplaces]
  · rw [marks, marks, hplaces]

/-- **One marker is handled**, and the markers that are left are as balanced as before. -/
theorem ensures_turn (hc : c.Strict ctx)
    (hclear : ∀ rest ∈ c.left? ctx.glossary kind k, places c.entries rest = places c.entries k) :
    Ensures (Session.Above ctx.floor k) (c.turn ctx (kind, blocks))
      (c.Settles ctx k (balanced blocks.length (kind :: marks c.entries k)))
      (Error.Blames (balanced blocks.length (kind :: marks c.entries k))) := by
  obtain ⟨e, v, format, hglossary⟩ := hc.glossary
  refine (c.whitespace.ensures_before hglossary).bind fun _ => ?_
  cases kind with
  | opening => exact ensures_decideBranch hc (.inl rfl) hclear
  | alternative =>
    cases blocks with
    | nil => exact ensures_orphan hc (by simp)
    | cons taken outer =>
      cases taken with
      | true => exact ensures_resume hc .block true
      | false => exact ensures_decideBranch hc (.inr rfl) hclear
  | fallback =>
    cases blocks with
    | nil => exact ensures_orphan hc (by simp)
    | cons taken outer =>
      cases taken with
      | true => exact ensures_resume hc .block true
      | false => exact ensures_passed hc (true :: outer) (hclear _ rfl)
  | closing =>
    cases blocks with
    | nil => exact ensures_orphan hc (by simp)
    | cons taken outer => exact ensures_passed hc outer (hclear _ rfl)

/-- **A marker is handled** with all that it leads to. -/
theorem ensures_dispatch (hc : c.Strict ctx) (hclear : c.Clear ctx.glossary others text)
    (hk : (kind, k) :: places c.entries k <:+ places c.entries text) :
    Ensures (Session.Above ctx.floor k) (c.dispatch ctx kind)
      (fun inside σ => ∃ rest, Session.Above ctx.floor rest σ ∧ rest <:+ text ∧
        places c.entries rest <:+ places c.entries text ∧
        balanced c.blocks.length (kind :: marks c.entries k) =
          balanced inside.length (marks c.entries rest))
      (Error.Blames (balanced c.blocks.length (kind :: marks c.entries k))) := by
  generalize hsound : balanced c.blocks.length (kind :: marks c.entries k) = sound
  have hloop : ∀ n at?, Ensures
      (fun σ => ∃ k, Session.Above ctx.floor k σ ∧ k.length < n ∧
        (at?.1, k) :: places c.entries k <:+ places c.entries text ∧
        sound = balanced at?.2.length (at?.1 :: marks c.entries k))
      (loop (c.turn ctx) (·.2) n at?)
      (fun inside σ => ∃ rest, Session.Above ctx.floor rest σ ∧ rest <:+ text ∧
        places c.entries rest <:+ places c.entries text ∧
        sound = balanced inside.length (marks c.entries rest))
      (Error.Blames sound) := by
    refine Ensures.loop ?_ ?_
    · rintro at? σ ⟨k, -, hlt, -⟩
      exact absurd hlt (Nat.not_lt_zero _)
    · rintro n ⟨kind, blocks⟩ σ ⟨k, hσ, hlt, hplace, rfl⟩
      obtain ⟨-, hktext, -⟩ := places_suffix hplace
      have hplaces : places c.entries k <:+ places c.entries text :=
        (List.suffix_cons _ _).trans hplace
      have hpassed := hclear.passed (kind, k) (hplace.mem List.mem_cons_self)
      refine (ensures_turn hc hpassed).weaken (fun _ hσ => hσ) ?_ (fun _ he => he) σ hσ
      rintro (⟨kind', blocks'⟩ | blocks') σ' hsettles
      · obtain ⟨k', hσ', hplace', hbalanced⟩ := hsettles
        have hlt' : k'.length < k.length := (places_suffix hplace').2.2
        exact ⟨k', hσ', by omega, hplace'.trans hplaces, hbalanced⟩
      · obtain ⟨rest, hσ', hrest, hplaces', hbalanced⟩ := hsettles
        exact ⟨rest, hσ', hrest.trans hktext, hplaces'.trans hplaces, hbalanced⟩
  intro σ hσ
  simp only [dispatch, bind_apply, get_apply, hσ.1.remaining]
  exact hloop _ (kind, c.blocks) σ ⟨k, hσ, Nat.lt_succ_self _, hk, hsound.symm⟩

end Conditional

end Templating

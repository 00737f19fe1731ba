import Templating.Proofs.Closed
import Templating.Proofs.Errors

/-!
# What a run looks up is there

The tokens of a run are numbered several times over: by operation, by marker, by variable. A
run looks up what a number stands for, takes bytes from behind its cursor and cuts its output at
computed places. At every turn all of these lie within what there is.

* `Operation.InRange`: what an operation finds and reads names markers, symbols, variables and
  nodes that there are.
* `Context.CutsInRange`: cuts stay between the floor and the end of an output.
* `Processor.Visits`: the states that a run passes through, turn by turn.
* `Processor.Visits.inBounds`: each of them is in bounds.
-/

namespace Templating

/-! ## Numbers of tokens -/

theorem TokenTable.lt_of_match? {tokens : List Bytes} {text : Bytes} {found : Nat × Nat}
    (h : (ofList tokens).match? text = some found) : found.1 < tokens.length := by
  rw [match?_ofList] at h
  obtain ⟨e, he, rfl⟩ := Option.map_eq_some_iff.1 h
  have hmem := (longestMatch?_spec he).1
  exact (List.getElem?_eq_some_iff.1 (List.mk_mem_zipIdx_iff_getElem?.1 hmem)).1

theorem Dispatch.mem_registered {sets : List (List Bytes)} {e : Bytes × Handler}
    (h : e ∈ registered sets) : ∃ tokens, sets[e.2.operation]? = some tokens ∧
      tokens[e.2.token]? = some e.1 := by
  obtain ⟨⟨tokens, i⟩, hset, he⟩ := List.mem_flatMap.1 h
  obtain ⟨⟨token, j⟩, htoken, rfl⟩ := List.mem_map.1 he
  exact ⟨tokens, List.mk_mem_zipIdx_iff_getElem?.1 hset, List.mk_mem_zipIdx_iff_getElem?.1 htoken⟩

/-- **A match of a run** lies within the bytes, and its owner has the token. -/
theorem Dispatch.match?_inRange {sets : List (List Bytes)} {text : Bytes} {handler : Handler}
    {length : Nat} (h : (ofSets sets).match? text = some (handler, length)) :
    0 < length ∧ length ≤ text.length ∧ ∃ tokens, sets[handler.operation]? = some tokens ∧
      handler.token < tokens.length := by
  have hlawful := lawful_ofSets sets
  refine ⟨hlawful.pos (v := handler) h, hlawful.le_text (v := handler) h, ?_⟩
  rw [match?_ofSets] at h
  obtain ⟨e, he, heq⟩ := Option.map_eq_some_iff.1 h
  obtain ⟨tokens, hset, htoken⟩ := mem_registered (longestMatch?_spec he).1
  obtain ⟨rfl, -⟩ := Prod.mk.inj heq
  exact ⟨tokens, hset, (List.getElem?_eq_some_iff.1 htoken).1⟩

/-! ## Windows -/

namespace Window

/-- A window that holds no more than its capacity. -/
def Fits (w : Window) : Prop := w.length ≤ w.capacity

theorem length_step (w : Window) (count : Nat) : (w.step count).length = w.length := by
  simp only [length, step, Tape.drop, Tape.take, List.length_append, List.length_reverse,
    List.length_take, ← w.ahead.length_eq]
  omega

theorem length_topped (w : Window) : w.topped.length =
    w.length + min (w.capacity - w.length) w.source.unread.bytes.length := by
  have hbytes := (w.source.pull_spec (w.capacity - w.length)).1
  rw [← List.length_take, ← hbytes]
  exact (Nat.add_assoc _ _ _).symm

theorem Fits.topped {w : Window} (h : w.Fits) : w.topped.Fits := by
  have hlength := w.length_topped
  have hle : w.length ≤ w.capacity := h
  show w.topped.length ≤ w.capacity
  omega

theorem Fits.fill {w : Window} (h : w.Fits) : (stateOf (fill w)).Fits := by
  rw [fill_eq]
  split
  · exact h
  · split
    · exact h.topped
    · exact h.topped

/-- **A window never holds more than its capacity.** -/
theorem descends_fits : Descends (lack Fits) where
  step w count := lack_le_lack.2 fun h => by
    have hle : w.length ≤ w.capacity := h
    show (w.step count).length ≤ w.capacity
    rwa [length_step]
  reserve w size := lack_le_lack.2 fun h => le_trans (show w.length ≤ _ from h) (le_max_left _ _)
  refillAhead w := lack_le_lack.2 fun h => by
    have hle : w.length ≤ w.capacity := h
    have hahead : ({ w with behind := [] } : Window).Fits := by
      simp only [Fits, length, List.length_nil] at hle ⊢
      omega
    show (stateOf (refill w.ahead w)).Fits
    rw [stateOf_refill]
    exact hahead.fill
  renew w := lack_le_lack.2 fun _ => by
    have hempty : ({ w with behind := [], ahead := .empty } : Window).Fits := Nat.zero_le _
    show (stateOf (refill .empty w)).Fits
    rw [stateOf_refill]
    exact hempty.fill

/-- What a search finds is one of the tokens. -/
theorem ensures_seekUntil_lt (tokens : List Bytes) (consume : Bool) :
    Ensures (fun _ => True) (seekUntil (.ofList tokens) consume)
      (fun found _ => ∀ token ∈ found, token < tokens.length) (fun _ => True) := by
  have hturn : ∀ u, Ensures (fun _ => True) (seekTurn (.ofList tokens) consume u)
      (fun turn _ => ∀ found, turn = .stop found → ∀ token ∈ found, token < tokens.length)
      (fun _ => True) := by
    intro u
    refine (Ensures.any _).bind fun _ => ?_
    intro w _
    simp only [bind_apply, get_apply, if_apply]
    by_cases hempty : w.ahead.isEmpty = true
    · rw [if_pos hempty]
      cases renew w with
      | error e w' => trivial
      | ok more w' =>
        cases more with
        | true => exact fun found hstop => nomatch hstop
        | false =>
          rintro found ⟨⟩ token hmem
          cases hmem
    · rw [if_neg hempty]
      cases hfound : (TokenTable.ofList tokens).match? w.ahead.bytes with
      | none => exact fun found hstop => nomatch hstop
      | some found =>
        rintro _ ⟨⟩ token hmem
        obtain rfl : found.1 = token := Option.some.inj hmem
        exact TokenTable.lt_of_match? hfound
  have hloop : ∀ bound u, Ensures (fun _ => True)
      (loop (seekTurn (.ofList tokens) consume) (fun _ => none) bound u)
      (fun found _ => ∀ token ∈ found, token < tokens.length) (fun _ => True) := by
    refine Ensures.loop (I := fun _ _ _ => True) (fun _ _ _ => nofun) fun _ u => ?_
    refine (hturn u).weaken (fun _ _ => trivial) (fun turn w hstop => ?_) (fun _ _ => trivial)
    cases turn with
    | again next => trivial
    | stop found => exact hstop found rfl
  intro w _
  exact hloop _ () w trivial

end Window

/-! ## Operations -/

namespace Evaluator

/-- A lexeme that names a symbol or a visible variable. -/
def Admits (e : Evaluator) (lexeme : Lexeme) : Prop :=
  lexeme.InRange e.dialect.vocabulary.symbols.length e.glossary.slots.length

/-- **An evaluator in range**: what it reads from any window names symbols and variables that
there are, and while it builds a tree from such lexemes and once it has, all nodes name nodes that
there are. -/
structure InRange (e : Evaluator) : Prop where
  read : ∀ (w w' : Window) (lexemes : List Lexeme),
    (e.lexicon.tokenize : EStateM Error Window _) w = .ok lexemes w' →
      ∀ lexeme ∈ lexemes, e.Admits lexeme
  building : ∀ (lexemes : List Lexeme) (b : Builder), (∀ lexeme ∈ lexemes, e.Admits lexeme) →
    lexemes.foldlM (e.dialect.add e.lexicon) Builder.start = .ok b →
      b.Closed e.glossary.slots.length
  built : ∀ (lexemes : List Lexeme) (t : Tree), (∀ lexeme ∈ lexemes, e.Admits lexeme) →
    e.dialect.build e.lexicon lexemes = .ok t → t.Closed e.glossary.slots.length

theorem inRange_make (d : Dialect) (g : Glossary) (conv : Converter) (terminators : List String) :
    (make d g conv terminators).InRange := by
  have hroles : (d.vocabulary.lexicon g terminators).roles.length =
      d.vocabulary.symbols.length := by
    simp only [Vocabulary.lexicon, Lexicon.make, List.length_map]
  have hnames : (d.vocabulary.lexicon g terminators).names.length = g.slots.length := by
    simp only [Vocabulary.lexicon, Lexicon.make, List.length_map]
  have hadmitted : ∀ lexemes : List Lexeme,
      (∀ lexeme ∈ lexemes, (make d g conv terminators).Admits lexeme) →
        (d.vocabulary.lexicon g terminators).Knows lexemes := by
    intro lexemes hlexemes lexeme hmem
    rw [hroles, hnames]
    exact hlexemes lexeme hmem
  constructor
  · intro w w' lexemes hread lexeme hmem
    have hknows := (d.vocabulary.lexicon g terminators).ensures_knows (σ := Window) w trivial
    have hread' : ((d.vocabulary.lexicon g terminators).tokenize : EStateM Error Window _) w =
        .ok lexemes w' := hread
    rw [hread'] at hknows
    have hrange := hknows lexeme hmem
    rw [hroles, hnames] at hrange
    exact hrange
  · intro lexemes b hlexemes hfold
    have hclosed := Dialect.closed_foldlM (hadmitted lexemes hlexemes) Builder.closed_start hfold
    rw [hnames] at hclosed
    exact hclosed
  · intro lexemes t hlexemes hbuild
    have hclosed := Dialect.closed_build (hadmitted lexemes hlexemes) hbuild
    rw [hnames] at hclosed
    exact hclosed

end Evaluator

namespace Operation

/-- **An operation in range**: a search for its markers finds only markers that it has, its
evaluator is in range, and the variables that it expands are those of the run. -/
def InRange (g : Glossary) : Operation → Prop
  | conditional c =>
    (∀ (w w' : Window) (token : Nat), Window.seekUntil c.scan true w = .ok (some token) w' →
      ∃ marker, c.marker? token = some marker) ∧ c.evaluator.InRange
  | region _ | replacement _ => True
  | expansion names => names.length = g.slots.length

/-- The operation has something to do with a token of this number. -/
def Knows (g : Glossary) (token : Nat) : Operation → Prop
  | conditional c => ∃ marker, c.marker? token = some marker
  | region r => ∃ bytes, r.tokens[token]? = some bytes
  | replacement _ => token = 0
  | expansion _ => ∃ slot, g.slots[token]? = some slot

variable {g : Glossary}

theorem inRange_fresh (o : Operation) : o.fresh.InRange g ↔ o.InRange g := by
  cases o <;> exact Iff.rfl

theorem tokens_fresh (o : Operation) : o.fresh.tokens = o.tokens := by cases o <;> rfl

theorem InRange.knows {o : Operation} (h : o.InRange g) {token : Nat}
    (htoken : token < o.tokens.length) : o.Knows g token := by
  cases o with
  | conditional c =>
    have hlt : token < c.markers.length := by
      have hlength : (c.markers.map (·.2)).length = c.markers.length := List.length_map ..
      rw [← hlength]
      exact htoken
    refine ⟨(c.markers[token]).1, ?_⟩
    rw [Conditional.marker?, List.getElem?_eq_getElem hlt, Option.map_some]
  | region r => exact ⟨_, List.getElem?_eq_getElem htoken⟩
  | replacement r => exact Nat.lt_one_iff.1 htoken
  | expansion names =>
    have hlt : token < g.slots.length := h ▸ htoken
    exact ⟨_, List.getElem?_eq_getElem hlt⟩

/-- **Operations are made in range.** -/
theorem inRange_of_materialize {s : OperationSettings} {conv : Converter} {o : Operation}
    (h : s.materialize g conv = .ok (some o)) : o.InRange g := by
  cases OperationSettings.makes_of_materialize h with
  | @conditionals s dialect =>
    refine ⟨fun w w' token hseek => ?_, Evaluator.inRange_make _ _ _ _⟩
    have hfound := Window.ensures_seekUntil_lt
      ((s.markers.map fun m => (m.1, g.encoding.encode m.2)).map (·.2)) true w trivial
    have hlt : token < (Conditional.ofDialect dialect s g conv).markers.length := by
      have hseek' : Window.seekUntil (.ofList
          ((s.markers.map fun m => (m.1, g.encoding.encode m.2)).map (·.2))) true w =
            .ok (some token) w' := hseek
      rw [hseek'] at hfound
      have hlt := hfound token rfl
      rwa [List.length_map] at hlt
    exact ⟨_, by rw [Conditional.marker?, List.getElem?_eq_getElem hlt, Option.map_some]⟩
  | replacements | region => trivial
  | variableExpansion => exact List.length_map ..

variable {τ : Type} [Target τ]

/-- An operation that has handled a token is still the same one. -/
theorem ensures_fresh (ctx : Context) (token : Nat) (o : Operation) :
    Ensures (fun _ => True) (o.handle ctx token : EStateM Error (Session τ) _)
      (fun x _ => x.1.fresh = o.fresh) (fun _ => True) := by
  cases o with
  | conditional c =>
    have hhandle : Ensures (fun _ => True) (c.handle ctx token : EStateM Error (Session τ) _)
        (fun c' _ => (conditional c').fresh = (conditional c).fresh) (fun _ => True) := by
      unfold Conditional.handle
      cases c.marker? token with
      | none => exact Ensures.pure fun _ _ => rfl
      | some marker => exact (Ensures.any _).bind fun _ => Ensures.pure fun _ _ => rfl
    exact hhandle.bind fun _ => Ensures.pure fun _ h => h
  | region r =>
    have hhandle : Ensures (fun _ => True) (r.handle ctx token : EStateM Error (Session τ) _)
        (fun r' _ => (region r').fresh = (region r).fresh) (fun _ => True) := by
      rw [Region.handle_eq]
      refine (Ensures.any _).bind fun _ => (Ensures.any _).bind fun _ => ?_
      exact (Ensures.any _).bind fun _ => Ensures.pure fun _ _ => rfl
    exact hhandle.bind fun _ => Ensures.pure fun _ h => h
  | replacement r => exact (Ensures.any _).bind fun _ => Ensures.pure fun _ _ => rfl
  | expansion names => exact (Ensures.any _).bind fun _ => Ensures.pure fun _ _ => rfl

end Operation

/-! ## Cuts -/

/-- **Cuts in range**: whatever policy is applied to whatever output in memory, all that it reads
back is there, and of the output it leaves a beginning that reaches up to the floor at least. -/
def Context.CutsInRange (ctx : Context) : Prop :=
  ∀ (policy : WhitespacePolicy) (σ : Session Memory), ∃ size,
    min ctx.floor σ.target.toBytes.length ≤ size ∧ size ≤ σ.target.toBytes.length ∧
      policy.before ctx σ = .ok () ⟨σ.window, .ofBytes (σ.target.toBytes.take size)⟩

/-- An output that does not reach the floor is left as it is. -/
theorem WhitespacePolicy.before_below {ctx : Context} (policy : WhitespacePolicy)
    {σ : Session Memory} (h : σ.target.toBytes.length ≤ ctx.floor) :
    policy.before ctx σ = .ok () σ := by
  cases policy with
  | keep => rfl
  | wholeLine =>
    have hturn : (Target.backTurn ctx.glossary.lineEndings ctx.glossary.encoding.unitWidth
        ctx.floor σ.target.toBytes.length : EStateM IoError Memory _) σ.target =
        .ok (.stop none) σ.target := by
      unfold Target.backTurn
      rw [if_pos h]
      rfl
    simp only [before, Session.cutBackTo, Session.onTarget_apply, Target.cutBackTo, bind_apply,
      σ.target.size_apply, loop_succ, hturn, if_apply, pure_apply]
    rw [if_neg (Nat.not_lt.2 h)]
  | trim =>
    simp only [before, Session.cutTrailing, Session.onTarget_apply, Target.cutTrailing, bind_apply,
      σ.target.size_apply, if_apply, pure_apply]
    rw [if_pos (Or.inl h)]

theorem Context.cutsInRange {ctx : Context} (hg : ctx.glossary.Made) : ctx.CutsInRange := by
  intro policy σ
  obtain ⟨w, m⟩ := σ
  rcases Nat.le_total m.toBytes.length ctx.floor with hshort | hlong
  · refine ⟨m.toBytes.length, Nat.min_le_right _ _, le_rfl, ?_⟩
    rw [policy.before_below hshort, List.take_length, Memory.ofBytes_toBytes]
  · -- what lies below the floor stays, and a policy leaves a beginning of the rest
    have hbelow : (m.toBytes.take ctx.floor).length = ctx.floor := List.length_take_of_le hlong
    have hcut := policy.before_apply hg w hbelow (m.toBytes.drop ctx.floor)
    have hresidue := policy.residue_prefix ctx.glossary (m.toBytes.drop ctx.floor)
    generalize policy.residue ctx.glossary (m.toBytes.drop ctx.floor) = left at hcut hresidue
    rw [List.take_append_drop, Memory.ofBytes_toBytes] at hcut
    have hle := hresidue.length_le
    rw [List.length_drop] at hle
    refine ⟨ctx.floor + left.length, ?_, ?_, ?_⟩
    · omega
    · show ctx.floor + left.length ≤ m.toBytes.length
      omega
    · rw [hcut]
      have htake : m.toBytes.take (ctx.floor + left.length) =
          m.toBytes.take ctx.floor ++ left := by
        rw [List.take_add, ← List.prefix_iff_eq_take.1 hresidue]
      rw [htake]

/-! ## Turns -/

/-- **A state in bounds.** What is still to be written lies behind the cursor, and the window
holds no more than its capacity. A token that matches lies within the bytes that it is looked for
in, and its owner is an operation that knows it. The same holds of the tokens that operations look
for, and of the blanks around them. The operations are in range, and so are cuts. -/
structure RunState.InBounds {τ : Type} (p : RunPlan) (r : RunState) (σ : Session τ) : Prop where
  pending : r.pending ≤ σ.window.behind.length
  fits : σ.window.Fits
  matched : ∀ (text : Bytes) (handler : Handler) (length : Nat),
    p.dispatch.match? text = some (handler, length) → 0 < length ∧ length ≤ text.length ∧
      ∃ o, r.operations[handler.operation]? = some o ∧ o.Knows p.context.glossary handler.token
  operations : ∀ o ∈ r.operations, o.InRange p.context.glossary ∧ o.Ready
  blanks : p.context.glossary.lineEndings.Lawful ∧ p.context.glossary.blanks.Lawful
  cuts : p.context.CutsInRange

/-- What a turn keeps: the operations up to their states, and what ties the state of the loop to
its window. -/
structure RunState.Kept {τ : Type} (fresh : List Operation) (r : RunState) (σ : Session τ) :
    Prop where
  operations : r.operations.map Operation.fresh = fresh
  pending : r.pending ≤ σ.window.behind.length
  fits : σ.window.Fits

/-- What no outcome of an action takes from a window. -/
theorem Session.ensures_window {τ α : Type} {P : Window → Prop} {m : EStateM Error (Session τ) α}
    (h : Shrinks (measure (lack P)) m) :
    Ensures (fun σ => P σ.window) m (fun _ σ => P σ.window) (fun _ => True) := by
  intro σ hσ
  have hkept : P (stateOf (m σ)).window := lack_le_lack.1 (h σ) hσ
  cases hx : m σ with
  | ok a σ' =>
    rw [hx] at hkept
    exact hkept
  | error e σ' => trivial

theorem Session.shrinks_writeBehind {τ : Type} [Target τ] {μ : Window → Nat} (count : Nat) :
    Shrinks (measure μ) (writeBehind count : EStateM Error (Session τ) Nat) := by
  refine Shrinks.get_bind fun σ => ?_
  split
  · exact Shrinks.pure _
  · exact shrinks_write _

namespace RunPlan

variable {τ : Type} [Target τ] {p : RunPlan} {r : RunState} {fresh : List Operation}

omit [Target τ] in
/-- Where nothing is pending all that matters is that the window fits. -/
theorem kept_of_written {r' : RunState} {σ : Session τ}
    (hoperations : r.operations.map Operation.fresh = fresh) (hsame : r'.operations = r.operations)
    (hpending : r'.pending = 0) (hfits : σ.window.Fits) : r'.Kept fresh σ :=
  ⟨hsame ▸ hoperations, hpending ▸ Nat.zero_le _, hfits⟩

theorem ensures_writePending (P : Window → Prop) (r : RunState) :
    Ensures (fun σ => P σ.window) (writePending r : EStateM Error (Session τ) _)
      (fun r' σ => r'.operations = r.operations ∧ r'.pending = 0 ∧ P σ.window)
      (fun _ => True) :=
  (Session.ensures_window (Session.shrinks_writeBehind r.pending)).bind fun _ =>
    Ensures.pure fun _ h => ⟨rfl, rfl, h⟩

/-- What is pending is written before the window is filled again. -/
theorem ensures_written {β : Type} (h : r.operations.map Operation.fresh = fresh)
    {m : EStateM IoError Window Bool} (hm : Shrinks (lack Window.Fits) m)
    {f : RunState → Bool → EStateM Error (Session τ) β} {R : β → Session τ → Prop}
    (hf : ∀ r' more, Ensures (r'.Kept fresh) (f r' more) R (fun _ => True)) :
    Ensures (fun σ => σ.window.Fits)
      (do
        let r' ← writePending r
        let more ← Session.onWindow m
        f r' more) R (fun _ => True) := by
  refine (ensures_writePending Window.Fits r).bind fun r' => ?_
  rintro σ ⟨hsame, hpending, hfits⟩
  refine ((Session.ensures_window (Session.shrinks_onWindow hm)).bind fun more => ?_) σ hfits
  exact (hf r' more).strengthen (fun _ => kept_of_written h hsame hpending)

theorem ensures_lookAhead : Ensures (r.Kept fresh)
    (p.lookAhead r : EStateM Error (Session τ) _) (fun x σ => x.1.Kept fresh σ)
    (fun _ => True) := by
  refine Ensures.get_bind fun σ h => ?_
  split
  · refine Ensures.strengthen (ensures_written h.operations Window.descends_fits.refillAhead
      fun r' more => ?_) (by rintro _ rfl; exact h.fits)
    exact Ensures.pure fun _ hkept => hkept
  · refine Ensures.pure ?_
    rintro _ rfl
    exact h

/-- Handling a token leaves nothing pending, and the operations what they are. -/
theorem ensures_handleMatch (handler : Handler) (length : Nat) : Ensures (r.Kept fresh)
    (p.handleMatch r handler length : EStateM Error (Session τ) _) (fun r' σ => r'.Kept fresh σ)
    (fun _ => True) := by
  intro σ h
  have hwritten := ensures_writePending Window.Fits r σ h.fits
  simp only [handleMatch, bind_apply]
  cases hx : writePending r σ with
  | error e σ₁ => trivial
  | ok r₁ σ₁ =>
    rw [hx] at hwritten
    obtain ⟨hsame, hpending, hfits⟩ := hwritten
    have hstep : (σ₁.window.step length).Fits :=
      lack_le_lack.1 (Window.descends_fits.step σ₁.window length) hfits
    simp only [Session.onWindow_modify_apply, hsame]
    cases ho : r.operations[handler.operation]? with
    | none => exact ⟨hsame ▸ h.operations, hpending ▸ Nat.zero_le _, hstep⟩
    | some o =>
      have hfresh := o.ensures_fresh p.context handler.token
        (⟨σ₁.window.step length, σ₁.target⟩ : Session τ) trivial
      have hkeeps := Session.ensures_window (P := Window.Fits)
        (o.shrinks_handle Window.descends_fits p.context handler.token)
        (⟨σ₁.window.step length, σ₁.target⟩ : Session τ) hstep
      simp only [bind_apply]
      cases hhandle : o.handle p.context handler.token
          (⟨σ₁.window.step length, σ₁.target⟩ : Session τ) with
      | error e σ₂ => trivial
      | ok x σ₂ =>
        rw [hhandle] at hfresh hkeeps
        refine ⟨?_, Nat.zero_le _, hkeeps⟩
        rw [← h.operations]
        exact Operation.map_fresh_set ho hfresh

/-- What is copied has been ahead, and then is behind. -/
theorem ensures_consume : Ensures (fun σ => r.Kept fresh σ ∧ σ.window.ahead.isEmpty = false)
    (p.consume r : EStateM Error (Session τ) _) (fun r' σ => r'.Kept fresh σ)
    (fun _ => True) := by
  rintro σ ⟨h, hahead⟩
  simp only [consume, bind_apply, get_apply]
  cases p.dispatch.match? σ.window.ahead.bytes with
  | some found => exact ensures_handleMatch found.1 found.2 σ h
  | none =>
    have hpos : 0 < σ.window.ahead.length := by
      rw [σ.window.ahead.length_eq]
      refine List.length_pos_iff.2 fun hnil => ?_
      rw [Tape.isEmpty_eq, hnil] at hahead
      cases hahead
    simp only [bind_apply, Session.onWindow_modify_apply, pure_apply]
    generalize hcount : (if p.isOver σ.window = true then σ.window.ahead.length else 1) = count
    have hle : count ≤ σ.window.ahead.length := by
      rw [← hcount]
      split <;> omega
    refine ⟨h.operations, ?_, lack_le_lack.1 (Window.descends_fits.step _ _) h.fits⟩
    have hpending := h.pending
    have hbehind : (σ.window.step count).behind.length = count + σ.window.behind.length := by
      rw [σ.window.ahead.length_eq] at hle
      simp only [Window.step, Tape.take, List.length_append, List.length_reverse,
        List.length_take_of_le hle]
    show r.pending + count ≤ (σ.window.step count).behind.length
    omega

theorem ensures_flushIfDue : Ensures (r.Kept fresh)
    (p.flushIfDue r : EStateM Error (Session τ) _) (fun r' σ => r'.Kept fresh σ)
    (fun _ => True) := by
  unfold flushIfDue
  split
  · have hflush : Ensures (r.Kept fresh) (Session.flush : EStateM Error (Session τ) Unit)
        (fun _ σ => r.Kept fresh σ) (fun _ => True) := by
      rintro σ h
      simp only [Session.flush, Session.onTarget_apply]
      cases (Target.flush : EStateM IoError τ Unit) σ.target with
      | ok a t => exact ⟨h.operations, h.pending, h.fits⟩
      | error e t => trivial
    exact hflush.bind fun _ => Ensures.pure fun _ h => ⟨h.operations, h.pending, h.fits⟩
  · exact Ensures.pure fun _ h => h

/-- **What one turn keeps.** -/
theorem ensures_turn : Ensures (r.Kept fresh) (p.turn r : EStateM Error (Session τ) _)
    (fun turn σ => ∀ r', turn = .again r' → r'.Kept fresh σ) (fun _ => True) := by
  have hagain : ∀ r' : RunState, Ensures (r'.Kept fresh)
      (pure (.again r') : EStateM Error (Session τ) (Turn RunState RunState))
      (fun turn σ => ∀ r', turn = .again r' → r'.Kept fresh σ) (fun _ => True) := by
    intro r'
    refine Ensures.pure fun σ h r'' heq => ?_
    cases heq
    exact h
  refine ensures_lookAhead.bind fun x => ?_
  obtain ⟨r₁, more⟩ := x
  cases more with
  | false => exact Ensures.pure fun _ _ => nofun
  | true =>
    refine Ensures.get_bind fun σ h => ?_
    split
    · refine Ensures.strengthen (ensures_written h.operations Window.descends_fits.renew
        fun r₂ more => ?_) (by rintro _ rfl; exact h.fits)
      cases more with
      | true => exact hagain r₂
      | false => exact Ensures.pure fun _ _ => nofun
    · rename_i hahead
      refine Ensures.strengthen (ensures_consume.bind fun r₂ => ensures_flushIfDue.bind hagain)
        ?_
      rintro _ rfl
      exact ⟨h, Bool.eq_false_iff.2 hahead⟩

end RunPlan

/-! ## Runs -/

namespace Processor

variable {τ : Type} [Target τ]

/-- What stays the same during a run with some operations. -/
def plan (p : Processor) (context : Context) (operations : List Operation) : RunPlan :=
  ⟨context, .ofSets (operations.map Operation.tokens), p.configuration.flushThreshold⟩

/-- **The states of a run** over a source into a target: it starts behind the byte-order mark,
with the operations of its configuration, and goes on turn by turn. -/
inductive Visits (p : Processor) (source : Source) (target : τ) :
    RunPlan → RunState → Session τ → Prop
  | start {session : Session τ} {context : Context} {operations : List Operation} :
      Session.enter p.configuration.bufferSize source p.bindings p.configuration.variableFormat
        target = .ok (session, context) →
      p.materialize context.glossary = .ok operations →
      Visits p source target (p.plan context operations)
        (RunPlan.start operations
          (session.window.reserve (p.plan context operations).dispatch.longest))
        ⟨session.window.reserve (p.plan context operations).dispatch.longest, session.target⟩
  | turn {plan : RunPlan} {r r' : RunState} {σ σ' : Session τ} :
      Visits p source target plan r σ → plan.turn r σ = .ok (.again r') σ' →
      Visits p source target plan r' σ'

variable {p : Processor} {source : Source} {target : τ} {plan : RunPlan} {r : RunState}
  {σ : Session τ}

/-- Every state of a run has the operations that its plan was made for. -/
theorem Visits.kept (h : p.Visits source target plan r σ) : ∃ operations,
    p.materialize plan.context.glossary = .ok operations ∧ plan.context.glossary.Made ∧
      plan.dispatch = .ofSets (operations.map Operation.tokens) ∧
      r.Kept (operations.map Operation.fresh) σ := by
  induction h with
  | @start session context operations henter hmade =>
    unfold Session.enter at henter
    obtain ⟨⟨w, encoding, mark⟩, hwindow, hsession⟩ := bind_eq_ok.1 henter
    cases hsession
    refine ⟨operations, hmade, ⟨_, _, _, rfl⟩, rfl, rfl, le_rfl, ?_⟩
    -- the first window is filled from nothing
    unfold Window.enter at hwindow
    obtain ⟨first, hfirst, hentered⟩ := bind_eq_ok.1 hwindow
    cases hentered
    have hempty : (⟨max p.configuration.bufferSize Window.leastCapacity, [], .empty, source,
        false⟩ : Window).Fits := Nat.zero_le _
    have hfilled := hempty.fill
    have hfits : first.Fits := by
      unfold Window.first at hfirst
      simp only [EStateM.run] at hfirst
      generalize Window.fill _ = result at hfirst hfilled
      cases result with
      | ok _ w =>
        cases hfirst
        exact hfilled
      | error e w => cases hfirst
    have hstep := lack_le_lack.1 (Window.descends_fits.step first
      (Encoding.detect first.ahead.bytes).2) hfits
    exact lack_le_lack.1 (Window.descends_fits.reserve _ _) hstep
  | @turn plan r r' σ σ' _ hturn ih =>
    obtain ⟨operations, hmade, hglossary, hdispatch, hkept⟩ := ih
    have hensures := RunPlan.ensures_turn (p := plan) σ hkept
    rw [hturn] at hensures
    exact ⟨operations, hmade, hglossary, hdispatch, hensures _ rfl⟩

/-- **Every state of a run is in bounds**, whatever its source gives and its target does. -/
theorem Visits.inBounds (h : p.Visits source target plan r σ) : r.InBounds plan σ := by
  obtain ⟨operations, hmade, hglossary, hdispatch, hkept⟩ := h.kept
  -- an operation of the state is one of those that were made, up to its state
  have horigin : ∀ {i : Nat} {o : Operation}, r.operations[i]? = some o →
      ∃ o', operations[i]? = some o' ∧ o'.fresh = o.fresh := by
    intro i o hi
    have hi' : (r.operations.map Operation.fresh)[i]? = some o.fresh := by
      rw [List.getElem?_map, hi, Option.map_some]
    rw [hkept.operations, List.getElem?_map] at hi'
    exact Option.map_eq_some_iff.1 hi'
  have hrange : ∀ o ∈ r.operations, o.InRange plan.context.glossary ∧ o.Ready := by
    intro o ho
    obtain ⟨i, hi⟩ := List.getElem?_of_mem ho
    obtain ⟨o', ho', hfresh⟩ := horigin hi
    obtain ⟨s, -, hs⟩ := mem_of_materialize hmade (List.mem_of_getElem? ho')
    rw [← Operation.inRange_fresh, ← o.ready_fresh, ← hfresh, Operation.inRange_fresh,
      Operation.ready_fresh]
    exact ⟨Operation.inRange_of_materialize hs, (Operation.of_materialize hs).1⟩
  have hblanks : plan.context.glossary.lineEndings.Lawful ∧
      plan.context.glossary.blanks.Lawful := by
    obtain ⟨e, v, format, hg⟩ := hglossary
    rw [hg]
    exact ⟨TokenTable.lawful_ofList _, TokenTable.lawful_ofList _⟩
  refine ⟨hkept.pending, hkept.fits, fun text handler length hmatch => ?_, hrange, hblanks,
    Context.cutsInRange hglossary⟩
  rw [hdispatch] at hmatch
  obtain ⟨hpos, hle, tokens, hset, htoken⟩ := Dispatch.match?_inRange hmatch
  refine ⟨hpos, hle, ?_⟩
  obtain ⟨o', ho', rfl⟩ := Option.map_eq_some_iff.1 (List.getElem?_map ▸ hset)
  obtain ⟨o, ho⟩ : ∃ o, r.operations[handler.operation]? = some o := by
    have hlength : r.operations.length = operations.length := by
      have hmap := congrArg List.length hkept.operations
      rwa [List.length_map, List.length_map] at hmap
    have hlt := (List.getElem?_eq_some_iff.1 ho').1
    exact ⟨_, List.getElem?_eq_getElem (hlength ▸ hlt)⟩
  obtain ⟨o'', ho'', hfresh⟩ := horigin ho
  obtain rfl : o' = o'' := Option.some.inj (ho'.symm.trans ho'')
  refine ⟨o, ho, (hrange o (List.mem_of_getElem? ho)).1.knows ?_⟩
  rw [← o.tokens_fresh, ← hfresh, o'.tokens_fresh]
  exact htoken

end Processor

end Templating

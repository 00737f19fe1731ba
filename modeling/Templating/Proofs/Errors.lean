import Templating.Proofs.Edits
import Templating.Proofs.Passing
import Templating.Proofs.Validity

/-!
# What a run can fail with

A source that does not fail and a target in memory leave little that can go wrong. Nothing but
conditional blocks ends a run with an error: with that of an expression, or in strict mode with
that of blocks that are not balanced.

* `OperationSettings.Raises`: the errors of an operation.
* `Conditional.ensures_handle`, `Region.ensures_handle`: handling a token raises no others.
* `Stage.Ends.raises`: neither does a run.
* `Processor.raises_of_run`: so an error of a run is one of its operations.
-/

namespace Templating

/-! ### The errors of operations -/

/-- **What operations end a run with**: conditional blocks with the failure of an expression
or, in strict mode, with blocks that are not balanced. -/
def OperationSettings.Raises : OperationSettings → Error → Prop
  | conditionals _, .expression _ => True
  | conditionals s, .unbalanced _ => s.strict = true
  | _, _ => False

namespace Operation

/-- What an operation ends a run with. -/
def Raises : Operation → Error → Prop
  | conditional _, .expression _ => True
  | conditional c, .unbalanced _ => c.strict = true
  | _, _ => False

theorem raises_fresh (o : Operation) (e : Error) : o.fresh.Raises e ↔ o.Raises e := by
  cases o <;> cases e <;> exact Iff.rfl

theorem raises_of_ofExpression (c : Conditional) {e : Error} (h : e.OfExpression) :
    (conditional c).Raises e := by
  cases e with
  | expression => exact trivial
  | io | config | unbalanced => cases h

/-- An operation as it is made for a run: all tables that it searches with are lawful. -/
def Ready : Operation → Prop
  | conditional c => c.scan.Lawful ∧ c.evaluator.lexicon.table.Lawful
  | region r => r.markers.Lawful
  | replacement _ | expansion _ => True

theorem ready_fresh (o : Operation) : o.fresh.Ready ↔ o.Ready := by cases o <;> exact Iff.rfl

/-- Settings make an operation that is ready, and raises what they say. -/
theorem of_materialize {s : OperationSettings} {g : Glossary} {conv : Converter} {o : Operation}
    (h : s.materialize g conv = .ok (some o)) :
    o.Ready ∧ ∀ e, o.Raises e → s.Raises e := by
  cases OperationSettings.makes_of_materialize h with
  | conditionals =>
    exact ⟨⟨TokenTable.lawful_ofList _, TokenTable.lawful_ofList _⟩,
      fun e he => by cases e <;> exact he⟩
  | replacements | variableExpansion => exact ⟨trivial, fun _ he => he.elim⟩
  | region => exact ⟨TokenTable.lawful_ofList _, fun _ he => he.elim⟩

end Operation

/-! ### Windows and sessions -/

namespace Window

/-- A window over a source that does not fail. -/
def Intact (w : Window) : Prop := ∃ rest, w.At rest

variable {α : Type} {F : IoError → Prop} {table : TokenTable}

/-- What gives a result before every rest of an input cannot fail. -/
theorem ensures_of_gives {m : EStateM IoError Window α} (a : Bytes → α) (left : Bytes → Bytes)
    (h : ∀ rest, Gives (At · rest) m (a rest) (At · (left rest))) :
    Ensures Intact m (fun _ => Intact) F := by
  rintro w ⟨rest, hw⟩
  obtain ⟨w', hm, hw'⟩ := h rest w hw
  rw [hm]
  exact ⟨_, hw'⟩

theorem ensures_seekUntil (ht : table.Lawful) (consume : Bool) :
    Ensures Intact (seekUntil table consume) (fun _ => Intact) F :=
  ensures_of_gives _ _ (gives_seekUntil ht consume)

/-- A loop whose turns cannot fail. -/
theorem ensures_loop {β : Type} {body : α → EStateM IoError Window (Turn α β)} {spent : α → β}
    (hbody : ∀ a, Ensures Intact (body a) (fun _ => Intact) F) (bound : Nat) (a : α) :
    Ensures Intact (loop body spent bound a) (fun _ => Intact) F := by
  refine Ensures.loop (I := fun _ _ => Intact) (fun _ _ hw => hw) (fun _ a => ?_) bound a
  refine (hbody a).weaken (fun _ hw => hw) (fun turn w hw => ?_) (fun _ he => he)
  cases turn <;> exact hw

end Window

namespace Session

/-- A session over a source that does not fail, with an output that reaches up to a floor. -/
def Intact (floor : Nat) (σ : Session Memory) : Prop := ∃ k, Above floor k σ

variable {α : Type} {floor : Nat} {F : Error → Prop}

theorem ensures_intact {m : EStateM Error (Session Memory) α} {k' : Bytes → Bytes}
    (h : ∀ k, Ensures (Above floor k) m (fun _ => Above floor (k' k)) F) :
    Ensures (Intact floor) m (fun _ => Intact floor) F := by
  rintro σ ⟨k, hσ⟩
  exact ((h k).weaken (fun _ hσ => hσ) (fun _ _ hσ => ⟨_, hσ⟩) (fun _ he => he)) σ hσ

theorem ensures_onWindow_intact {m : EStateM IoError Window α}
    (h : Ensures Window.Intact m (fun _ => Window.Intact) fun _ => False) :
    Ensures (Intact floor) (onWindow m) (fun _ => Intact floor) F := by
  rintro σ ⟨k, hw, ht⟩
  have hm := h σ.window ⟨k, hw⟩
  rw [onWindow, scan_apply, onStream_apply]
  cases hx : m σ.window with
  | ok a w =>
    rw [hx] at hm
    obtain ⟨rest, hw'⟩ := hm
    exact ⟨rest, hw', ht⟩
  | error e w =>
    rw [hx] at hm
    exact hm.elim

theorem ensures_write (bytes : Bytes) :
    Ensures (Intact floor) (write bytes) (fun _ => Intact floor) F := by
  rintro σ ⟨k, hw, ht⟩
  rw [write_apply]
  refine ⟨k, hw, ht.trans ?_⟩
  rw [Memory.toBytes_ofBytes, List.length_append]
  exact Nat.le_add_right _ _

end Session

namespace WhitespacePolicy

variable {ctx : Context} {F : Error → Prop} (hg : ctx.glossary.Made) (policy : WhitespacePolicy)

include hg

theorem ensures_after_intact :
    Ensures (Session.Intact ctx.floor) (policy.after ctx) (fun _ => Session.Intact ctx.floor)
      F := by
  obtain ⟨e, v, format, hmade⟩ := hg
  exact Session.ensures_intact fun k => policy.ensures_after hmade

theorem ensures_before_intact :
    Ensures (Session.Intact ctx.floor) (policy.before ctx) (fun _ => Session.Intact ctx.floor)
      F := by
  obtain ⟨e, v, format, hmade⟩ := hg
  exact Session.ensures_intact fun k => policy.ensures_before hmade

end WhitespacePolicy

/-! ### Handling a token -/

namespace Conditional

variable {ctx : Context} {c : Conditional} (hg : ctx.glossary.Made)
  (hc : (Operation.conditional c).Ready)

section

include hc

theorem ensures_skip (sought : Sought) :
    Ensures Window.Intact (c.skip sought) (fun _ => Window.Intact) fun _ => False := by
  intro w hw
  refine Window.ensures_loop (fun depth => ?_) (w.remaining + 1) 0 w hw
  rw [skipTurn_eq]
  exact (Window.ensures_seekUntil hc.1 true).bind fun _ => Ensures.pure fun _ hw => hw

/-- **After a branch that goes away** the block may be left open, which strict mode rejects. -/
theorem ensures_resume_intact (sought : Sought) (blocks : List Bool) :
    Ensures (Session.Intact ctx.floor) (c.resume sought blocks) (fun _ => Session.Intact ctx.floor)
      (Operation.conditional c).Raises := by
  rw [resume_eq]
  refine (Session.ensures_onWindow_intact (ensures_skip hc sought)).bind fun marker => ?_
  cases marker with
  | some marker => exact Ensures.pure fun _ hσ => hσ
  | none =>
    simp only [resumed, unterminated]
    cases hstrict : c.strict with
    | true => exact Ensures.throw hstrict
    | false => exact Ensures.pure fun _ hσ => hσ

include hg

/-- **A branch with a condition** may fail on the expression. -/
theorem ensures_decideBranch_intact (blocks : List Bool) :
    Ensures (Session.Intact ctx.floor) (c.decideBranch ctx blocks)
      (fun _ => Session.Intact ctx.floor) (Operation.conditional c).Raises := by
  have hevaluate : Ensures (Session.Intact ctx.floor) (Session.scan c.evaluator.evaluate)
      (fun _ => Session.Intact ctx.floor) (Operation.conditional c).Raises := by
    rintro σ ⟨k, hσ⟩
    refine (Session.ensures_scan (c.evaluator.ensures_evaluate hc.2 k)).weaken (fun _ hσ => hσ) ?_
      (fun _ => Operation.raises_of_ofExpression c) σ hσ
    rintro _ σ' ⟨⟨rest, -, -, hw⟩, ht⟩
    exact ⟨rest, hw, ht⟩
  refine hevaluate.bind fun holds => ?_
  refine (c.whitespace.ensures_after_intact hg).bind fun _ => ?_
  cases holds with
  | true => exact Ensures.pure fun _ hσ => hσ
  | false => exact ensures_resume_intact hc .branch blocks

omit hc in
/-- Outside of blocks strict mode rejects a marker. -/
theorem ensures_orphan_intact (marker : Marker) (blocks : List Bool) :
    Ensures (Session.Intact ctx.floor) (c.orphan ctx marker blocks)
      (fun _ => Session.Intact ctx.floor) (Operation.conditional c).Raises := by
  unfold orphan
  cases hstrict : c.strict with
  | true => exact Ensures.throw hstrict
  | false =>
    exact (c.whitespace.ensures_after_intact hg).bind fun _ => Ensures.pure fun _ hσ => hσ

/-- One marker is handled. -/
theorem ensures_turn_intact (at? : Marker × List Bool) :
    Ensures (Session.Intact ctx.floor) (c.turn ctx at?) (fun _ => Session.Intact ctx.floor)
      (Operation.conditional c).Raises := by
  rw [turn_eq]
  refine (c.whitespace.ensures_before_intact hg).bind fun _ => ?_
  cases course at?.1 at?.2 with
  | branch blocks => exact ensures_decideBranch_intact hg hc blocks
  | leaveOut blocks => exact ensures_resume_intact hc .block blocks
  | passOn blocks =>
    exact (c.whitespace.ensures_after_intact hg).bind fun _ => Ensures.pure fun _ hσ => hσ
  | orphan marker => exact ensures_orphan_intact hg marker []

/-- **Handling a marker** fails on an expression, or in strict mode on the blocks. -/
theorem ensures_handle (token : Nat) :
    Ensures (Session.Intact ctx.floor) (c.handle ctx token) (fun _ => Session.Intact ctx.floor)
      (Operation.conditional c).Raises := by
  unfold handle
  cases c.marker? token with
  | none => exact Ensures.pure fun _ hσ => hσ
  | some marker =>
    have hloop : ∀ (bound : Nat) (at? : Marker × List Bool),
        Ensures (Session.Intact ctx.floor) (loop (c.turn ctx) (·.2) bound at?)
          (fun _ => Session.Intact ctx.floor) (Operation.conditional c).Raises := by
      refine Ensures.loop (I := fun _ _ => Session.Intact ctx.floor) (fun _ _ hσ => hσ)
        (fun _ at? => ?_)
      refine (ensures_turn_intact hg hc at?).weaken (fun _ hσ => hσ) (fun turn σ hσ => ?_)
        (fun _ he => he)
      cases turn <;> exact hσ
    have hdispatch : Ensures (Session.Intact ctx.floor) (c.dispatch ctx marker)
        (fun _ => Session.Intact ctx.floor) (Operation.conditional c).Raises := by
      intro σ hσ
      simp only [dispatch, bind_apply, get_apply]
      exact hloop _ _ σ hσ
    exact hdispatch.bind fun _ => Ensures.pure fun _ hσ => hσ

end

end Conditional

/-- **Handling the marker of a region** cannot fail. -/
theorem Region.ensures_handle {ctx : Context} {r : Region} (hg : ctx.glossary.Made)
    (hr : (Operation.region r).Ready) (token : Nat) {F : Error → Prop} :
    Ensures (Session.Intact ctx.floor) (r.handle ctx token) (fun _ => Session.Intact ctx.floor)
      F := by
  have hskip : Ensures Window.Intact r.skip (fun _ => Window.Intact) fun _ => False := by
    intro w hw
    refine Window.ensures_loop (fun depth => ?_) (w.remaining + 1) 0 w hw
    rw [skipTurn_eq]
    exact (Window.ensures_seekUntil hr true).bind fun _ => Ensures.pure fun _ hw => hw
  have hleave : Ensures Window.Intact (r.leaveOut token) (fun _ => Window.Intact)
      fun _ => False := by
    unfold leaveOut
    split
    · exact hskip
    · exact Ensures.pure fun _ hw => hw
  rw [handle_eq]
  refine (r.whitespace.ensures_before_intact hg).bind fun _ => ?_
  refine (Session.ensures_onWindow_intact hleave).bind fun _ => ?_
  exact (r.whitespace.ensures_after_intact hg).bind fun _ => Ensures.pure fun _ hσ => hσ

/-- **Handling a token** raises nothing but the errors of its operation. -/
theorem Operation.ensures_handle {ctx : Context} {o : Operation} (hg : ctx.glossary.Made)
    (ho : o.Ready) (token : Nat) :
    Ensures (Session.Intact ctx.floor) (o.handle ctx token) (fun _ => Session.Intact ctx.floor)
      o.Raises := by
  cases o with
  | conditional c =>
    exact (Conditional.ensures_handle hg ho token).bind fun _ => Ensures.pure fun _ hσ => hσ
  | region r => exact (r.ensures_handle hg ho token).bind fun _ => Ensures.pure fun _ hσ => hσ
  | replacement r => exact (Session.ensures_write _).bind fun _ => Ensures.pure fun _ hσ => hσ
  | expansion names =>
    refine Ensures.bind ?_ fun _ => Ensures.pure fun _ hσ => hσ
    simp only [expandVariable]
    split
    · exact Ensures.pure fun _ hσ => hσ
    · exact Session.ensures_write _

/-- At the end of the input strict mode rejects blocks that are open. -/
theorem Operation.raises_of_finish {o : Operation} {e : Error} (h : o.finish = .error e) :
    o.Raises e := by
  cases o with
  | conditional c =>
    unfold finish Conditional.finish Conditional.unterminated at h
    cases hstrict : c.strict with
    | true =>
      cases hblocks : c.blocks.isEmpty with
      | true => simp [hblocks, pure, Except.pure] at h
      | false =>
        simp only [hblocks, hstrict] at h
        cases h
        exact hstrict
    | false =>
      cases hblocks : c.blocks.isEmpty <;> simp only [hblocks, hstrict] at h <;> cases h
  | region | replacement | expansion => cases h

/-! ### Runs -/

namespace Stage

variable {ctx : Context} {d : Dispatch} {s : Stage}

/-- What the last step of a run raises is an error of an operation. -/
theorem raises_of_next (hg : ctx.glossary.Made) (hs : s.Sound ctx)
    (hready : ∀ o ∈ s.operations, o.Ready) {e : Error} {output : Bytes}
    (h : s.next ctx d = .stop (.error e, output)) : ∃ o ∈ s.operations, o.Raises e := by
  unfold next at h
  cases hrest : s.rest with
  | nil =>
    simp only [hrest, Turn.stop.injEq, Prod.mk.injEq] at h
    have hfinish : RunPlan.finish s.operations = .error e := by
      have hresult := h.1
      rw [result] at hresult
      cases hf : RunPlan.finish s.operations with
      | error e' =>
        rw [hf] at hresult
        cases hresult
        rfl
      | ok u =>
        rw [hf] at hresult
        cases hresult
    obtain ⟨o, ho, hfails⟩ := exists_of_forM_error hfinish
    exact ⟨o, ho, Operation.raises_of_finish hfails⟩
  | cons b rest =>
    simp only [hrest] at h
    cases hm : d.match? (b :: rest) with
    | none =>
      simp only [hm] at h
      cases h
    | some found =>
      obtain ⟨handler, length⟩ := found
      simp only [hm, handled] at h
      cases hi : s.operations[handler.operation]? with
      | none =>
        simp only [hi] at h
        cases h
      | some o =>
        have ho : o ∈ s.operations := List.mem_of_getElem? hi
        have hhandle := Operation.ensures_handle hg (hready o ho) handler.token
          (⟨.whole (s.rest.drop length), .ofBytes s.output⟩ : Session Memory)
          ⟨_, Window.at_whole _, hs.floor_le⟩
        simp only [hi] at h
        cases hx : o.handle ctx handler.token
            (⟨.whole (s.rest.drop length), .ofBytes s.output⟩ : Session Memory) with
        | ok x σ =>
          simp only [hx] at h
          cases h
        | error e' σ =>
          simp only [hx] at h hhandle
          cases h
          exact ⟨o, ho, hhandle⟩

/-- **A run** ends with an error of one of its operations. -/
theorem Ends.raises (hg : ctx.glossary.Made) {o : Outcome} (h : s.Ends ctx d o)
    (hs : s.Sound ctx) (hready : ∀ o ∈ s.operations, o.Ready) {e : Error} (he : o.1 = .error e) :
    ∃ o ∈ s.operations, o.Raises e := by
  induction h with
  | @stops s o hn =>
    obtain ⟨result, output⟩ := o
    obtain rfl : result = .error e := he
    exact raises_of_next hg hs hready hn
  | @goesOn s s' o hn _ ih =>
    have hready' := forall_next Operation.ready_fresh hg hs hn hready
    by_contra hnone
    -- the operations of the next stage raise no other errors
    have hquiet : ∀ o ∈ s.operations, ¬ o.Raises e := fun o ho hraises => hnone ⟨o, ho, hraises⟩
    have hfresh : ∀ o : Operation, ¬ o.fresh.Raises e ↔ ¬ o.Raises e := fun o =>
      not_congr (o.raises_fresh e)
    obtain ⟨o, ho, hraises⟩ := ih (hs.next hg hn) hready' he
    exact forall_next hfresh hg hs hn hquiet o ho hraises

end Stage

/-- **An error of a run** over a source that does not fail, into a target in memory, is an error
of one of the operations of its configuration. -/
theorem Processor.raises_of_run {p : Processor} (hvalid : p.configuration.validate = .ok ())
    {source : Source} (hsource : source.fails = false) {earlier : Bytes} {e : Error}
    (h : (p.run source (Memory.ofBytes earlier)).1 = .error e) :
    ∃ s ∈ p.configuration.operations, s.Raises e := by
  obtain ⟨operations, hm⟩ := exists_materialize hvalid (p.glossary source.unread.bytes)
  have hsound := sound_entered hm
  have hends := ends_run hsource earlier hm
  obtain ⟨o, ho, hraises⟩ := hends.raises (p.made_glossary _)
    ⟨hsound.operations, by
      have hfloor := hsound.floor_le
      rw [List.length_append]
      exact hfloor.trans (Nat.le_add_left _ _)⟩
    (fun o ho => by
      obtain ⟨s, -, hs⟩ := mem_of_materialize hm ho
      exact (Operation.of_materialize hs).1) h
  obtain ⟨s, hs, hmade⟩ := mem_of_materialize hm ho
  exact ⟨s, hs, (Operation.of_materialize hmade).2 e hraises⟩

end Templating

import Templating.Proofs.Breaking

/-!
# Runs over a source that fails

A run never takes the failure of its source for the end of its input. It returns the failure,
unless it has met an error before; and then it has gone as every run goes whose input begins with
what the source gave.

* `RunPlan.concurs_turn`: turns of a run agree until the first source breaks.
* `RunPlan.ensures_turn_doomed`: over a source that fails no turn is the last one.
* `Processor.run_doomed`: so no run over it succeeds.
* `Processor.run_begins`: it returns the failure, or ends as a run over more would.
-/

namespace Templating

namespace RunPlan

variable {τ : Type} [Target τ] {p : RunPlan} {r : RunState}

/-! ## Turns side by side -/

theorem concurs_writePending (r : RunState) :
    Concurs (· = .io .failed) (Session.Foreruns (τ := τ)) (writePending r) := by
  refine Concurs.bind (Concurs.get_bind ?_ fun s => ?_) fun _ => Concurs.pure _
  · rintro ⟨w, t⟩ ⟨_, t'⟩ ⟨⟨source, -, -⟩, ht⟩
    rfl
  · split
    · exact Concurs.pure _
    · exact Session.concurs_write _

theorem concurs_lookAhead :
    Concurs (· = .io .failed) (Session.Foreruns (τ := τ)) (p.lookAhead r) := by
  refine Concurs.get_bind ?_ fun s => ?_
  · rintro ⟨w, t⟩ ⟨_, t'⟩ ⟨⟨source, -, -⟩, ht⟩
    rfl
  · split
    · exact (concurs_writePending r).bind fun _ =>
        (Session.concurs_onWindow Window.concurs_refillAhead).bind fun _ => Concurs.pure _
    · exact Concurs.pure _

/-- Looking ahead leaves the operations as they are. -/
theorem ensures_lookAhead_operations : Ensures (fun _ => True)
    (p.lookAhead r : EStateM Error (Session τ) _) (fun x _ => x.1.operations = r.operations)
    (fun _ => True) := by
  refine Ensures.get_bind fun s _ => ?_
  split
  · refine Ensures.strengthen (P := fun _ => True) ((ensures_writePending (fun _ => True) r).bind
      fun r' => ?_) (fun _ _ => trivial)
    rintro σ ⟨hsame, -, -⟩
    exact ((Ensures.any _).bind fun _ => Ensures.pure fun _ _ => hsame) σ trivial
  · exact Ensures.pure fun _ _ => rfl

theorem concurs_handleMatch (hg : p.context.glossary.Made) (hready : ∀ o ∈ r.operations, o.Ready)
    (handler : Handler) (length : Nat) :
    Concurs (· = .io .failed) (Session.Foreruns (τ := τ)) (p.handleMatch r handler length) := by
  refine (concurs_writePending r).bind_of (V := fun r' => r'.operations = r.operations) ?_
    fun r' hsame => ?_
  · exact (ensures_writePending (fun _ => True) r).weaken (fun _ h => h) (fun _ _ h => h.1)
      (fun _ he => he)
  · refine (Session.concurs_onWindow (Concurs.modify fun w v h => h.step length)).bind fun _ => ?_
    split
    · exact Concurs.pure _
    · rename_i o ho
      have hmem : o ∈ r.operations := hsame ▸ List.mem_of_getElem? ho
      exact (Operation.concurs_handle hg (hready o hmem) _).bind fun _ => Concurs.pure _

theorem concurs_consume (hg : p.context.glossary.Made) (hready : ∀ o ∈ r.operations, o.Ready) :
    Concurs (· = .io .failed) (Session.Foreruns (τ := τ)) (p.consume r) := by
  refine Concurs.get_bind ?_ fun s => ?_
  · rintro ⟨w, t⟩ ⟨_, t'⟩ ⟨⟨source, -, -⟩, ht⟩
    rfl
  · split
    · exact concurs_handleMatch hg hready _ _
    · exact (Session.concurs_onWindow (Concurs.modify fun w v h => h.step _)).bind
        fun _ => Concurs.pure _

/-- **A turn of a run** goes the same way over both sources, until the first breaks. -/
theorem concurs_turn (hg : p.context.glossary.Made) (hready : ∀ o ∈ r.operations, o.Ready) :
    Concurs (· = .io .failed) (Session.Foreruns (τ := τ)) (p.turn r) := by
  refine concurs_lookAhead.bind_of ensures_lookAhead_operations fun x hsame => ?_
  obtain ⟨r₁, more⟩ := x
  have hready₁ : ∀ o ∈ r₁.operations, o.Ready := hsame ▸ hready
  cases more with
  | false => exact Concurs.pure _
  | true =>
    refine Concurs.get_bind ?_ fun s => ?_
    · rintro ⟨w, t⟩ ⟨_, t'⟩ ⟨⟨source, -, -⟩, ht⟩
      rfl
    · split
      · refine (concurs_writePending r₁).bind fun r₂ =>
          (Session.concurs_onWindow (Window.concurs_refill .empty)).bind fun more => ?_
        split <;> exact Concurs.pure _
      · refine (concurs_consume hg hready₁).bind fun r₂ => ?_
        refine Concurs.bind ?_ fun _ => Concurs.pure _
        unfold flushIfDue
        split
        · exact (Session.concurs_onTarget _).bind fun _ => Concurs.pure _
        · exact Concurs.pure _

/-! ## No last turn -/

section

variable {μ : Window → Nat} (h : Window.Descends μ)

include h

theorem shrinks_handleMatch (handler : Handler) (length : Nat) :
    Shrinks (Session.measure μ) (p.handleMatch r handler length : EStateM Error (Session τ) _) := by
  refine (shrinks_writePending r).bind fun r' => ?_
  refine Shrinks.bind (fun σ => h.step σ.window length) fun _ => ?_
  split
  · exact Shrinks.pure _
  · exact (Operation.shrinks_handle h _ _ _).bind fun _ => Shrinks.pure _

theorem shrinks_consume :
    Shrinks (Session.measure μ) (p.consume r : EStateM Error (Session τ) _) := by
  refine Shrinks.get_bind fun s => ?_
  split
  · exact shrinks_handleMatch h _ _
  · exact Shrinks.bind (fun σ => h.step σ.window _) fun _ => Shrinks.pure _

end

/-- What is read from a source that fails shows something, or breaks. -/
theorem ensures_shown {β : Type} {m : EStateM IoError Window Bool}
    (hm : Shrinks (lack Window.Doomed) m)
    (hshown : ∀ (w w' : Window) (more : Bool), w.Doomed → m w = .ok more w' → more = true)
    {f : RunState → Bool → EStateM Error (Session τ) β} {R : β → Session τ → Prop}
    (hf : ∀ r', Ensures (fun σ => σ.window.Doomed) (f r' true) R (fun _ => True)) :
    Ensures (fun σ => σ.window.Doomed) (do
      let r' ← writePending r
      let more ← Session.onWindow m
      f r' more) R (fun _ => True) := by
  have hread : Ensures (fun σ => σ.window.Doomed)
      (Session.onWindow m : EStateM Error (Session τ) Bool)
      (fun more σ => more = true ∧ σ.window.Doomed) (fun _ => True) := by
    intro σ hσ
    have hkept := Session.ensures_window (Session.shrinks_onWindow hm) σ hσ
    rw [Session.onWindow, Session.scan_apply, onStream_apply] at hkept ⊢
    cases hx : m σ.window with
    | ok more w =>
      rw [hx] at hkept
      exact ⟨hshown _ _ _ hσ hx, hkept⟩
    | error e w => trivial
  refine (ensures_writePending Window.Doomed r).bind fun r' => ?_
  refine Ensures.strengthen (hread.bind fun more => ?_) (fun _ h => h.2.2)
  cases more with
  | true => exact (hf r').strengthen (fun _ h => h.2)
  | false => exact fun _ h => absurd h.1 Bool.false_ne_true

/-- **Over a source that fails no turn is the last one.** -/
theorem ensures_turn_doomed : Ensures (fun σ => σ.window.Doomed)
    (p.turn r : EStateM Error (Session τ) _) (fun turn σ => turn.GoesOn ∧ σ.window.Doomed)
    (fun _ => True) := by
  have hlook : Ensures (fun σ => σ.window.Doomed) (p.lookAhead r : EStateM Error (Session τ) _)
      (fun x σ => x.2 = true ∧ σ.window.Doomed) (fun _ => True) := by
    refine Ensures.get_bind fun σ hσ => ?_
    split
    · refine Ensures.strengthen (ensures_shown Window.descends_doomed.refillAhead
        (fun w w' more hw hx => hw.refill_ok hx) fun r' => Ensures.pure fun _ h => ⟨rfl, h⟩) ?_
      rintro _ rfl
      exact hσ
    · refine Ensures.pure ?_
      rintro _ rfl
      exact ⟨rfl, hσ⟩
  refine hlook.bind fun x => ?_
  obtain ⟨r₁, more⟩ := x
  cases more with
  | false => exact fun _ h => nomatch h.1
  | true =>
    refine Ensures.get_bind fun σ hσ => ?_
    split
    · refine Ensures.strengthen (ensures_shown Window.descends_doomed.renew
        (fun w w' more hw hx => hw.refill_ok hx) fun r' => Ensures.pure fun _ h => ⟨trivial, h⟩) ?_
      rintro _ rfl
      exact hσ.2
    · have hrest := fun r₂ => Session.ensures_window
        (shrinks_flushIfDue (τ := τ) (p := p) (μ := lack Window.Doomed) r₂)
      have hconsume := Session.ensures_window
        (shrinks_consume (τ := τ) (p := p) (r := r₁) Window.descends_doomed)
      refine Ensures.strengthen (hconsume.bind fun r₂ => (hrest r₂).bind fun r₃ =>
        Ensures.pure fun _ h => ⟨trivial, h⟩) ?_
      rintro _ rfl
      exact hσ.2

/-- **The loop of a run** over a source that fails ends with an error. -/
theorem loop_doomed (hd : p.dispatch.Lawful) (n : Nat) : ∀ (r : RunState) (σ : Session τ),
    σ.window.Doomed → σ.window.searches < n →
      ∃ e σ', loop p.turn id n r σ = .error e σ' := by
  induction n with
  | zero => intro r σ _ hlt; omega
  | succ n ih =>
    intro r σ hσ hlt
    have hturn := ensures_turn_doomed (p := p) (r := r) σ hσ
    rw [loop_succ]
    cases hx : p.turn r σ with
    | error e σ' => exact ⟨e, σ', rfl⟩
    | ok turn σ' =>
      rw [hx] at hturn
      cases turn with
      | stop r' => exact hturn.1.elim
      | again r' =>
        have hless : σ'.window.searches < σ.window.searches := spends_turn hd r σ _ σ' hx trivial
        exact ih r' σ' hturn.2 (by omega)

theorem drive_doomed (hd : p.dispatch.Lawful) (operations : List Operation) {σ : Session τ}
    (hσ : σ.window.Doomed) : ∃ e σ', p.drive operations σ = .error e σ' := by
  obtain ⟨e, σ', hloop⟩ := loop_doomed hd (2 * σ.window.remaining + 2)
    (start operations σ.window) σ hσ σ.window.searches_lt
  refine ⟨e, σ', ?_⟩
  simp only [drive, bind_apply, get_apply, hloop]

end RunPlan

/-! ## Runs -/

namespace Window

/-- The start of a source that fails: it breaks at once, or its window is that of every source
that begins with the same bytes. -/
theorem enter_foreruns {source source' : Source} (capacity : Nat) (hfails : source.fails = true)
    (hbegins : source.unread.bytes <+: source'.unread.bytes) :
    enter capacity source = .error .failed ∨ ∃ w v encoding mark, Foreruns w v ∧
      enter capacity source = .ok (w, encoding, mark) ∧
      enter capacity source' = .ok (v, encoding, mark) := by
  have hdoomed : (⟨max capacity leastCapacity, [], .empty, source, false⟩ : Window).Doomed :=
    ⟨hfails, rfl, Nat.lt_of_lt_of_le (by decide) (Nat.le_max_right _ _)⟩
  have hstart : Foreruns _ ⟨max capacity leastCapacity, [], .empty, source', false⟩ :=
    .mk source' hdoomed hbegins
  rcases hdoomed.fill_cases with ⟨w, hfill⟩ | hroom
  · left
    simp only [enter, first, EStateM.run, hfill]
    rfl
  · obtain ⟨hfill, hfilled⟩ := hstart.filled hroom
    right
    simp only [enter, first, EStateM.run, fill_of_le hdoomed.unended hroom, hfill]
    generalize filled _ = w at hfilled ⊢
    generalize filled _ = v at hfilled ⊢
    obtain ⟨source₁, hdoomed₁, hbegins₁⟩ := hfilled
    exact ⟨_, _, _, _, (Foreruns.mk source₁ hdoomed₁ hbegins₁).step _, rfl, rfl⟩

end Window

namespace RunPlan

variable {τ : Type} [Target τ] {p : Processor} {source source' : Source} {target : τ}
  {plan : RunPlan}

omit [Target τ] in
theorem concurs_finish (operations : List Operation) :
    Concurs (· = .io .failed) (Session.Foreruns (τ := τ)) (raise (finish operations)) := by
  cases finish operations with
  | ok u => exact Concurs.pure _
  | error e => exact Concurs.throw _

/-- **Runs over windows** of which the source of the first fails. -/
theorem drive_foreruns {operations : List Operation} {σ σ' : Session τ}
    (hvisits : p.Visits source target plan (start operations σ.window) σ)
    (hd : plan.dispatch.Lawful) (hσ : Session.Foreruns σ σ') :
    AgreeUntil (· = .io .failed) Session.Foreruns (plan.drive operations σ)
      (plan.drive operations σ') := by
  have hstart : start operations σ'.window = start operations σ.window := by
    obtain ⟨w, t⟩ := σ
    obtain ⟨_, t'⟩ := σ'
    obtain ⟨⟨source₁, -, -⟩, -⟩ := hσ
    rfl
  have hloop : AgreeUntil (· = .io .failed) Session.Foreruns
      (loop plan.turn id (2 * σ.window.remaining + 2) (start operations σ.window) σ)
      (loop plan.turn id (2 * σ'.window.remaining + 2) (start operations σ'.window) σ') := by
    rw [hstart]
    refine Concurs.loop_of (I := fun r σ => p.Visits source target plan r σ) ?_ ?_ (spends_turn hd)
      _ _ _ σ σ' σ.window.searches_lt σ'.window.searches_lt hvisits hσ
    · intro r s t hr
      obtain ⟨-, -, hg, -, -⟩ := hr.kept
      exact concurs_turn hg (fun o ho => (hr.inBounds.operations o ho).2) s t
    · exact fun r s next s' hr hturn => hr.turn hturn
  have hrest : ∀ r : RunState, Concurs (· = .io .failed) (Session.Foreruns (τ := τ)) (do
      raise (finish r.operations)
      Session.flush
      pure r.modified) :=
    fun r => (concurs_finish r.operations).bind fun _ =>
      (Session.concurs_onTarget _).bind fun _ => Concurs.pure _
  exact hloop.bind fun r s t _ => hrest r s t

end RunPlan

/-- The same of sessions. -/
theorem Session.enter_foreruns {τ : Type} {source source' : Source} (capacity : Nat)
    (v : Variables) (format : String) (target : τ) (hfails : source.fails = true)
    (hbegins : source.unread.bytes <+: source'.unread.bytes) :
    enter capacity source v format target = .error .failed ∨ ∃ s t context, Foreruns s t ∧
      enter capacity source v format target = .ok (s, context) ∧
      enter capacity source' v format target = .ok (t, context) := by
  unfold enter
  rcases Window.enter_foreruns capacity hfails hbegins with
    henter | ⟨w, w', encoding, mark, hforeruns, henter, henter'⟩
  · rw [henter]
    exact .inl rfl
  · rw [henter, henter']
    exact .inr ⟨⟨w, target⟩, ⟨w', target⟩, _, ⟨hforeruns, rfl⟩, rfl, rfl⟩

namespace Processor

variable {τ : Type} [Target τ] {p : Processor} {source : Source}

/-- What a run returns for an outcome of its loop. -/
def returned : EStateM.Result Error (Session τ) Bool → Except Error Bool × τ
  | .ok modified σ => (.ok modified, σ.target)
  | .error e σ => (.error e, σ.target)

omit [Target τ] in
theorem returned_of_agreeUntil {x y : EStateM.Result Error (Session τ) Bool}
    (h : AgreeUntil (· = .io .failed) Session.Foreruns x y) :
    (returned x).1 = .error (.io .failed) ∨ returned y = returned x := by
  cases h with
  | broken hb => exact .inl (congrArg Except.error hb)
  | ok halike => exact .inr (congrArg (Prod.mk _) halike.2.symm)
  | error halike => exact .inr (congrArg (Prod.mk _) halike.2.symm)

theorem run_entered {target : τ} {s : Session τ} {context : Context} {operations : List Operation}
    (henter : Session.enter p.configuration.bufferSize source p.bindings
      p.configuration.variableFormat target = .ok (s, context))
    (hmade : p.materialize context.glossary = .ok operations) :
    p.run source target = returned ((p.plan context operations).drive operations
      ⟨s.window.reserve (p.plan context operations).dispatch.longest, s.target⟩) := by
  simp only [run, henter, hmade]
  rfl

/-- **A run over a source that fails** either returns the failure, or is the run over every source
that begins with the same bytes. -/
theorem run_begins (hfails : source.fails = true) (target : τ) {source' : Source}
    (hbegins : source.unread.bytes <+: source'.unread.bytes) :
    (p.run source target).1 = .error (.io .failed) ∨
      p.run source' target = p.run source target := by
  rcases Session.enter_foreruns p.configuration.bufferSize p.bindings
    p.configuration.variableFormat target hfails hbegins with
    henter | ⟨s, t, context, hst, henter, henter'⟩
  · left
    simp only [run, henter]
    rfl
  cases hmade : p.materialize context.glossary with
  | error e =>
    right
    simp only [run, henter, henter', hmade]
  | ok operations =>
    -- both loops start in the same state
    rw [run_entered henter hmade, run_entered henter' hmade]
    exact returned_of_agreeUntil (RunPlan.drive_foreruns (Visits.start henter hmade)
      (Dispatch.lawful_ofSets _) ⟨hst.1.reserve _, hst.2⟩)

/-- **No run over a source that fails succeeds.** -/
theorem run_doomed (hfails : source.fails = true) (target : τ) :
    ∃ e target', p.run source target = (.error e, target') := by
  rcases Session.enter_foreruns p.configuration.bufferSize p.bindings
    p.configuration.variableFormat target hfails (List.prefix_refl _) with
    henter | ⟨s, _, context, hst, henter, -⟩
  · refine ⟨.io .failed, target, ?_⟩
    simp only [run, henter]
    rfl
  cases hmade : p.materialize context.glossary with
  | error e =>
    refine ⟨.config e, target, ?_⟩
    simp only [run, henter, hmade]
    rfl
  | ok operations =>
    have hlawful : (p.plan context operations).dispatch.Lawful := Dispatch.lawful_ofSets _
    have hreserved := lack_le_lack.1 (Window.descends_doomed.reserve s.window
      (p.plan context operations).dispatch.longest) hst.1.doomed
    obtain ⟨e, σ, hdrive⟩ := RunPlan.drive_doomed hlawful operations (σ := ⟨_, s.target⟩) hreserved
    refine ⟨e, σ.target, ?_⟩
    rw [run_entered henter hmade]
    exact congrArg returned hdrive

end Processor

end Templating

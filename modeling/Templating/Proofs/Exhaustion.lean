import Templating.Proofs.Processing
import Templating.Proofs.Termination

/-!
# Runs end with their source consumed

Over a source that does not fail, every turn of a run passes some of what is left, or has only read
on and then the next one does. No turn goes back, nor does any operation. So the loop of a run ends
by itself, and where the run succeeds nothing of the source is left.

* `Window.Onward`: a window that has not gone back. `Window.descends_onward`: none ever does.
* `RunPlan.MakesHeadway`, `RunPlan.makesHeadway_turn`: what one turn comes to.
* `RunState.Drained`, `RunPlan.drained_of_finishes`: where the loop of a run ends.
* `Processor.run_exhausts`: **every run ends, and with its source consumed if it succeeds.**
-/

namespace Templating

/-! ## Windows that do not go back -/

namespace Window

variable {rest : Bytes} {w : Window}

/-- **A window that has not gone back**: it stands before some of what was left, the last of it. -/
def Onward (rest : Bytes) (w : Window) : Prop := ∃ left, w.At left ∧ left <:+ rest

/-- A window that has passed some of what was left. -/
def Past (rest : Bytes) (w : Window) : Prop :=
  ∃ left, w.At left ∧ left <:+ rest ∧ left.length < rest.length

theorem At.onward (h : w.At rest) : w.Onward rest := ⟨rest, h, List.suffix_rfl⟩

theorem At.ne_nil (h : w.At rest) (hahead : 0 < w.ahead.length) : rest ≠ [] := by
  rintro rfl
  rw [w.ahead.length_eq, h.ahead_nil] at hahead
  exact Nat.lt_irrefl 0 hahead

theorem Onward.trans {later : Bytes} (h : w.Onward later) (hsuffix : later <:+ rest) :
    w.Onward rest := by
  obtain ⟨left, hw, hleft⟩ := h
  exact ⟨left, hw, hleft.trans hsuffix⟩

/-- What stands onward in a later rest has passed what lies before that. -/
theorem Onward.past {count : Nat} (h : w.Onward (rest.drop count)) (hpos : 0 < count)
    (hrest : rest ≠ []) : w.Past rest := by
  obtain ⟨left, hw, hleft⟩ := h
  have hle := hleft.length_le
  have hlength := List.length_pos_iff.2 hrest
  rw [List.length_drop] at hle
  exact ⟨left, hw, hleft.trans (List.drop_suffix _ _), by omega⟩

/-- A step goes as far as the bytes ahead do. -/
theorem At.step_onward (h : w.At rest) (count : Nat) : (w.step count).Onward rest := by
  by_cases hcount : count ≤ w.ahead.length
  · exact (h.step hcount).onward.trans (List.drop_suffix _ _)
  · -- beyond them it leaves what has not been read
    have hahead : w.ahead.bytes.drop count = [] := by
      rw [List.drop_eq_nil_iff, ← w.ahead.length_eq]
      omega
    refine ⟨w.source.unread.bytes, ⟨h.sound, ?_, h.ended, h.room⟩, ⟨w.ahead.bytes, h.whole⟩⟩
    show w.ahead.bytes.drop count ++ w.source.unread.bytes = _
    rw [hahead, List.nil_append]

/-- **No action on a window goes back**, and none loses what is left. -/
theorem descends_onward (rest : Bytes) : Descends (lack (Onward rest)) where
  step w count := lack_le_lack.2 fun ⟨_, hw, hleft⟩ => (hw.step_onward count).trans hleft
  reserve w size := lack_le_lack.2 fun ⟨left, hw, hleft⟩ => ⟨left, hw.reserve size, hleft⟩
  refillAhead w := lack_le_lack.2 fun ⟨left, hw, hleft⟩ => by
    obtain ⟨w', hrefill, hw', -⟩ := refillAhead_spec hw
    rw [hrefill]
    exact ⟨left, hw', hleft⟩
  renew w := lack_le_lack.2 fun ⟨left, hw, hleft⟩ => by
    -- what is dropped is what is ahead
    have hdropped : ({ w with ahead := .empty } : Window).At w.source.unread.bytes :=
      ⟨hw.sound, rfl, hw.ended, hw.room⟩
    obtain ⟨w', hrefill, hw', -⟩ := refillAhead_spec hdropped
    have hrenew : renew w = .ok (decide (w.source.unread.bytes ≠ [])) w' := hrefill
    rw [hrenew]
    exact ⟨_, hw', (show _ <:+ left from ⟨_, hw.whole⟩).trans hleft⟩

end Window

/-- So no outcome of an action leaves a window that has gone back. -/
theorem Session.onward_stateOf {τ α : Type} {rest : Bytes} {m : EStateM Error (Session τ) α}
    (hm : Shrinks (measure (lack (Window.Onward rest))) m) {σ : Session τ}
    (h : σ.window.At rest) : (stateOf (m σ)).window.Onward rest :=
  hm.keeps (P := fun σ : Session τ => σ.window.Onward rest) h.onward

/-- **No operation goes back in its source**, whether it succeeds or fails. -/
theorem Operation.onward_handle {τ : Type} [Target τ] (o : Operation) (ctx : Context) (token : Nat)
    {rest : Bytes} {σ : Session τ} (h : σ.window.At rest) :
    (stateOf (o.handle ctx token σ)).window.Onward rest :=
  Session.onward_stateOf (o.shrinks_handle (Window.descends_onward rest) ctx token) h

/-! ## Turns -/

/-- **Nothing is left to do**: what lies behind the cursor has been written, nothing is ahead, and
the source has ended. -/
structure RunState.Drained {τ : Type} (r : RunState) (σ : Session τ) : Prop where
  pending : r.pending = 0
  ahead : σ.window.ahead.bytes = []
  unread : σ.window.source.unread.bytes = []
  exhausted : σ.window.exhausted = true

namespace RunPlan

variable {τ : Type} [Target τ] {p : RunPlan} {r : RunState} {rest : Bytes} {seen : Nat}

/-- **What one turn comes to**: it fails, or it is the last one and leaves nothing, or it has passed
some of what was left. Or else it has only read on, and the next one is not the last either and
passes some, unless it fails. No outcome goes back. -/
def MakesHeadway (p : RunPlan) (rest : Bytes) :
    EStateM.Result Error (Session τ) (Turn RunState RunState) → Prop
  | .error _ σ => σ.window.Onward rest
  | .ok (.stop r) σ => rest = [] ∧ r.Drained σ
  | .ok (.again r) σ => σ.window.Past rest ∨ σ.window.At rest ∧
    match (p.turn r σ : EStateM.Result Error (Session τ) _) with
    | .error _ σ' => σ'.window.Onward rest
    | .ok (.stop _) _ => False
    | .ok (.again _) σ' => σ'.window.Past rest

theorem shrinks_turn {μ : Window → Nat} (h : Window.Descends μ) :
    Shrinks (Session.measure μ) (p.turn r : EStateM Error (Session τ) _) := by
  refine (shrinks_lookAhead h r).bind fun x => ?_
  obtain ⟨r₁, more⟩ := x
  cases more with
  | false => exact Shrinks.pure _
  | true =>
    refine Shrinks.get_bind fun σ => ?_
    split
    · refine (shrinks_writePending r₁).bind fun r₂ =>
        (Session.shrinks_onWindow h.renew).bind fun more => ?_
      cases more <;> exact Shrinks.pure _
    · exact (shrinks_consume h).bind fun r₂ =>
        (shrinks_flushIfDue r₂).bind fun _ => Shrinks.pure _

theorem onward_turn (p : RunPlan) (r : RunState) {σ : Session τ} (h : σ.window.At rest) :
    (stateOf (p.turn r σ)).window.Onward rest :=
  Session.onward_stateOf (shrinks_turn (Window.descends_onward rest)) h

variable (rest seen) in
/-- What is pending is written before a window is read on. Then something is ahead, or nothing is
left to do. -/
theorem ensures_readOn {β : Type} {m : EStateM IoError Window Bool}
    {f : RunState → Bool → EStateM Error (Session τ) β} {R : β → Session τ → Prop}
    (hmore : ∀ r', Ensures (fun σ => σ.window.At rest ∧ seen ≤ σ.window.ahead.length ∧
      0 < σ.window.ahead.length) (f r' true) R (fun _ => True))
    (hlast : ∀ r', Ensures (fun σ => rest = [] ∧ r'.Drained σ) (f r' false) R (fun _ => True)) :
    Ensures (fun σ => σ.window.At rest ∧ seen ≤ σ.window.ahead.length ∧
        m σ.window = Window.refillAhead σ.window)
      (do
        let r' ← writePending r
        let more ← Session.onWindow m
        f r' more) R (fun _ => True) := by
  refine (ensures_writePending (fun w => w.At rest ∧ seen ≤ w.ahead.length ∧
    m w = Window.refillAhead w) r).bind fun r' => ?_
  rintro σ ⟨-, hpending, hat, hseen, hm⟩
  obtain ⟨w, hrefill, hw, -, -, hle, hsees⟩ := Window.refillAhead_spec hat
  rw [bind_apply, Session.onWindow, Session.scan_apply, onStream_apply, hm, hrefill]
  by_cases hrest : rest = []
  · subst hrest
    have hexhausted : w.exhausted = true := by
      refine hsees.resolve_left fun hfull => ?_
      have hroom := hat.room
      rw [w.ahead.length_eq, hw.ahead_nil, List.length_nil] at hfull
      omega
    exact hlast r' ⟨w, σ.target⟩ ⟨rfl, hpending, hw.ahead_nil, hw.ended hexhausted, hexhausted⟩
  · have hahead : 0 < w.ahead.length := by
      rw [w.ahead.length_eq]
      exact List.length_pos_iff.2 (hw.ahead_ne_nil hsees hat.room hrest)
    simp only [hrest, ne_eq, not_false_eq_true, decide_true]
    exact hmore r' ⟨w, σ.target⟩ ⟨hw, hseen.trans hle, hahead⟩

theorem ensures_lookAhead_at : Ensures (fun σ => σ.window.At rest ∧ seen ≤ σ.window.ahead.length)
    (p.lookAhead r : EStateM Error (Session τ) _)
    (fun x σ => if x.2 then σ.window.At rest ∧ seen ≤ σ.window.ahead.length
      else rest = [] ∧ x.1.Drained σ) (fun _ => True) := by
  refine Ensures.get_bind fun σ h => ?_
  split
  · refine Ensures.strengthen (ensures_readOn rest seen
      (fun r' => Ensures.pure fun _ h => ⟨h.1, h.2.1⟩) fun r' => Ensures.pure fun _ h => h) ?_
    rintro _ rfl
    exact ⟨h.1, h.2, rfl⟩
  · refine Ensures.pure ?_
    rintro _ rfl
    exact h

/-- Handling a token passes it. -/
theorem ensures_handleMatch_past (handler : Handler) {length : Nat} (hpos : 0 < length)
    (hrest : rest ≠ []) : Ensures (fun σ => σ.window.At rest ∧ length ≤ σ.window.ahead.length)
      (p.handleMatch r handler length : EStateM Error (Session τ) _)
      (fun _ σ => σ.window.Past rest) (fun _ => True) := by
  refine (ensures_writePending (fun w => w.At rest ∧ length ≤ w.ahead.length) r).bind fun r₁ => ?_
  refine Ensures.bind (Q := fun _ σ => σ.window.Onward (rest.drop length)) ?_ fun _ => ?_
  · rintro σ ⟨-, -, hat, hahead⟩
    exact (hat.step hahead).onward
  · split
    · exact Ensures.pure fun _ h => h.past hpos hrest
    · rename_i o _
      have hhandle := o.shrinks_handle (τ := τ) (Window.descends_onward (rest.drop length))
        p.context handler.token
      exact (Session.ensures_window hhandle).bind fun _ =>
        Ensures.pure fun _ h => h.past hpos hrest

/-- Where something is ahead, some of it is passed. -/
theorem ensures_consume_past (hd : p.dispatch.Lawful) :
    Ensures (fun σ => σ.window.At rest ∧ 0 < σ.window.ahead.length)
      (p.consume r : EStateM Error (Session τ) _) (fun _ σ => σ.window.Past rest)
      (fun _ => True) := by
  refine Ensures.get_bind fun σ h => ?_
  obtain ⟨hat, hahead⟩ := h
  have hrest : rest ≠ [] := hat.ne_nil hahead
  split
  · rename_i handler length hmatch
    have hle : length ≤ σ.window.ahead.length := by
      rw [σ.window.ahead.length_eq]
      exact hd.le_text (v := handler) hmatch
    refine (ensures_handleMatch_past handler (hd.pos (v := handler) hmatch) hrest).strengthen ?_
    rintro _ rfl
    exact ⟨hat, hle⟩
  · generalize hcount : (if p.isOver σ.window = true then σ.window.ahead.length else 1) = count
    have hbounds : 0 < count ∧ count ≤ σ.window.ahead.length := by
      rw [← hcount]
      split <;> omega
    rintro _ rfl
    exact (hat.step hbounds.2).onward.past hbounds.1 hrest

variable (r seen) in
/-- **A turn** is the last one only where nothing is left. Where something is ahead it passes some
of it, and elsewhere it may only show what comes next. -/
theorem ensures_turn_at (hd : p.dispatch.Lawful) :
    Ensures (fun σ => σ.window.At rest ∧ seen ≤ σ.window.ahead.length)
      (p.turn r : EStateM Error (Session τ) _)
      (fun turn σ => match turn with
        | .stop r' => rest = [] ∧ r'.Drained σ
        | .again _ => σ.window.Past rest ∨
          seen = 0 ∧ σ.window.At rest ∧ 0 < σ.window.ahead.length) (fun _ => True) := by
  refine ensures_lookAhead_at.bind fun x => ?_
  obtain ⟨r₁, more⟩ := x
  cases more with
  | false => exact Ensures.pure fun _ h => h
  | true =>
    refine Ensures.get_bind fun σ h => ?_
    split
    · rename_i hempty
      have hahead : σ.window.ahead.bytes = [] := by simpa [Tape.isEmpty_eq] using hempty
      have hseen : seen = 0 := by
        have hle := h.2
        rw [σ.window.ahead.length_eq, hahead, List.length_nil] at hle
        omega
      refine Ensures.strengthen (ensures_readOn rest seen
        (fun r' => Ensures.pure fun _ h => .inr ⟨hseen, h.1, h.2.2⟩)
        fun r' => Ensures.pure fun _ h => h) ?_
      rintro _ rfl
      exact ⟨h.1, h.2, Window.renew_eq hahead⟩
    · rename_i hahead
      have hpos := σ.window.ahead.length_pos hahead
      refine Ensures.strengthen ((ensures_consume_past hd).bind fun r₂ => ?_)
        (by rintro _ rfl; exact ⟨h.1, hpos⟩)
      have hflush := Session.ensures_window (shrinks_flushIfDue (τ := τ) (p := p)
        (μ := lack (Window.Past rest)) r₂)
      exact hflush.bind fun _ => Ensures.pure fun _ h => .inl h

/-- **Every turn makes headway.** -/
theorem makesHeadway_turn (hd : p.dispatch.Lawful) {σ : Session τ} (h : σ.window.At rest) :
    p.MakesHeadway rest (p.turn r σ) := by
  have hturn := ensures_turn_at r 0 hd σ ⟨h, Nat.zero_le _⟩
  cases hx : p.turn r σ with
  | error e σ₁ =>
    have honward := p.onward_turn r h
    rwa [hx] at honward
  | ok turn σ₁ =>
    rw [hx] at hturn
    cases turn with
    | stop r₁ => exact hturn
    | again r₁ =>
      refine hturn.imp_right fun hshown => ⟨hshown.2.1, ?_⟩
      -- what has been read on is passed next
      have hnext := ensures_turn_at r₁ 1 hd σ₁ hshown.2
      cases hy : p.turn r₁ σ₁ with
      | error e σ₂ =>
        have honward := p.onward_turn r₁ hshown.2.1
        rwa [hy] at honward
      | ok turn σ₂ =>
        rw [hy] at hnext
        cases turn with
        | stop r₂ => exact absurd hnext.1 (hshown.2.1.ne_nil hshown.2.2)
        | again r₂ => exact hnext.resolve_right fun hzero => absurd hzero.1 Nat.one_ne_zero

/-- What a run returns for the outcome of its loop. -/
def conclude : EStateM.Result Error (Session τ) RunState → Except Error Bool × τ
  | .ok r σ => Processor.returned ((do
      raise (finish r.operations)
      Session.flush
      pure r.modified : EStateM Error (Session τ) Bool) σ)
  | .error e σ => (.error e, σ.target)

theorem returned_drive (operations : List Operation) (σ : Session τ) :
    Processor.returned (p.drive operations σ) =
      conclude (loop p.turn id (2 * σ.window.remaining + 2) (start operations σ.window) σ) := by
  simp only [drive, bind_apply, get_apply]
  cases loop p.turn id (2 * σ.window.remaining + 2) (start operations σ.window) σ <;> rfl

end RunPlan

/-! ## Runs -/

namespace Processor

variable {τ : Type} [Target τ] {p : Processor} {source : Source} {target : τ} {plan : RunPlan}
  {r : RunState} {σ : Session τ}

theorem Visits.lawful (h : p.Visits source target plan r σ) : plan.dispatch.Lawful := by
  obtain ⟨operations, -, -, hdispatch, -⟩ := h.kept
  exact hdispatch ▸ Dispatch.lawful_ofSets _

omit [Target τ] in
theorem enter_at (hsource : source.fails = false) (target : τ) :
    ∃ (w : Window) (context : Context), w.At (source.unread.bytes.drop context.floor) ∧
      Session.enter p.configuration.bufferSize source p.bindings p.configuration.variableFormat
        target = .ok (⟨w, target⟩, context) := by
  obtain ⟨w, henter, hw, -⟩ := Window.enter_spec hsource p.configuration.bufferSize
  refine ⟨w, ⟨.make (Encoding.detect source.unread.bytes).1 p.bindings
    p.configuration.variableFormat, (Encoding.detect source.unread.bytes).2⟩, hw, ?_⟩
  simp only [Session.enter, henter, bind, Except.bind]
  rfl

/-- Every state of a run stands before what is left of its source. -/
theorem Visits.at (h : p.Visits source target plan r σ) (hsource : source.fails = false) :
    ∃ rest, σ.window.At rest ∧ rest <:+ source.unread.bytes := by
  induction h with
  | @start session context operations henter hmade =>
    obtain ⟨w, context', hw, henter'⟩ := enter_at (p := p) hsource target
    rw [henter] at henter'
    cases henter'
    exact ⟨_, hw.reserve _, List.drop_suffix _ _⟩
  | @turn plan r r' σ σ' hvisits hturn ih =>
    obtain ⟨rest, hat, hsuffix⟩ := ih
    have honward := plan.onward_turn r hat
    rw [hturn] at honward
    obtain ⟨left, hleft, hrest⟩ := honward
    exact ⟨left, hleft, hrest.trans hsuffix⟩

/-- **Where the loop of a run ends**, nothing is left to do. -/
theorem drained_of_finishes (hsource : source.fails = false)
    {x : EStateM.Result Error (Session τ) RunState} (hx : Finishes plan.turn r σ x) :
    p.Visits source target plan r σ → ∀ r' σ', x = .ok r' σ' → r'.Drained σ' := by
  induction hx with
  | fail h => exact fun _ _ _ => nofun
  | @stop r σ σ' r' h =>
    rintro hvisits _ _ ⟨⟩
    obtain ⟨rest, hat, -⟩ := hvisits.at hsource
    have hheadway := RunPlan.makesHeadway_turn (r := r) hvisits.lawful hat
    rw [h] at hheadway
    exact hheadway.2
  | again h _ ih => exact fun hvisits => ih (hvisits.turn h)

/-- **A run ends with its source consumed**, whatever its configuration, converter and variables,
and however its source cuts its replies.

Every turn of it makes headway. Its operations never go back in the source, and the loops that they
run all end by themselves. So does the loop of the run, and what that comes to is what the run
returns; where it succeeds, nothing of the source is left and nothing of the window. -/
theorem run_exhausts {c : Configuration} {v : Variables} {conv : Converter} {ambient : Ambient}
    (hmake : make c v conv ambient = .ok p) (hsource : source.fails = false)
    (hτ : Target.ReadsInFull τ) (target : τ) :
    (∀ (plan : RunPlan) (r : RunState) (σ : Session τ), p.Visits source target plan r σ →
      (∃ rest, σ.window.At rest ∧ plan.MakesHeadway rest (plan.turn r σ)) ∧
      plan.context.LoopsEnd τ ∧
      ∀ o ∈ r.operations, o.LoopsEnd τ plan.context ∧
        ∀ (token : Nat) (rest : Bytes) (σ' : Session τ), σ'.window.At rest →
          (stateOf (o.handle plan.context token σ')).window.Onward rest) ∧
    ∃ (plan : RunPlan) (r₀ : RunState) (σ₀ : Session τ)
      (x : EStateM.Result Error (Session τ) RunState),
      p.Visits source target plan r₀ σ₀ ∧
      σ₀.window.At (source.unread.bytes.drop plan.context.floor) ∧
      Finishes plan.turn r₀ σ₀ x ∧ p.run source target = RunPlan.conclude x ∧
      ∀ modified, (p.run source target).1 = .ok modified → ∃ r σ, x = .ok r σ ∧ r.Drained σ := by
  constructor
  · intro plan r σ hvisits
    obtain ⟨rest, hat, -⟩ := hvisits.at hsource
    obtain ⟨operations, -, hmade, -, -⟩ := hvisits.kept
    refine ⟨⟨rest, hat, RunPlan.makesHeadway_turn hvisits.lawful hat⟩, Context.loopsEnd hτ hmade,
      fun o ho => ⟨Operation.loopsEnd (hvisits.inBounds.operations o ho).2, fun token rest σ' h =>
        o.onward_handle plan.context token h⟩⟩
  · obtain ⟨w, context, hw, henter⟩ := enter_at (p := p) hsource target
    obtain ⟨hvalid, rfl, -⟩ := make_ok hmake
    obtain ⟨operations, hmade⟩ := exists_materialize hvalid context.glossary
    obtain ⟨plan, hplan⟩ : ∃ plan, plan = p.plan context operations := ⟨_, rfl⟩
    obtain ⟨σ₀, hσ₀⟩ : ∃ σ₀ : Session τ, σ₀ = ⟨w.reserve plan.dispatch.longest, target⟩ := ⟨_, rfl⟩
    have hvisits : p.Visits source target plan (RunPlan.start operations σ₀.window) σ₀ := by
      rw [hσ₀, hplan]
      exact Visits.start henter hmade
    have hcontext : plan.context = context := by rw [hplan, Processor.plan]
    have hat : σ₀.window.At (source.unread.bytes.drop plan.context.floor) := by
      rw [hσ₀, hcontext]
      exact hw.reserve _
    have hrun := run_entered henter hmade
    rw [← hplan, ← hσ₀, RunPlan.returned_drive] at hrun
    obtain ⟨x, hx⟩ : ∃ x, x = loop plan.turn id (2 * σ₀.window.remaining + 2)
        (RunPlan.start operations σ₀.window) σ₀ := ⟨_, rfl⟩
    have hfinishes : Finishes plan.turn (RunPlan.start operations σ₀.window) σ₀ x := by
      rw [hx]
      exact finishes_of_spends (RunPlan.spends_turn hvisits.lawful) σ₀.window.searches_lt
    rw [← hx] at hrun
    refine ⟨plan, _, σ₀, x, hvisits, hat, hfinishes, hrun, fun modified hok => ?_⟩
    rw [hrun] at hok
    cases x with
    | error e σ => cases hok
    | ok r σ => exact ⟨r, σ, rfl, drained_of_finishes hsource hfinishes hvisits r σ rfl⟩

/-- Blocks by whole lines and a region that is left out, over a source that is interrupted and
gives two bytes at first. -/
theorem run_exhausts_interrupted :
    let settings : List OperationSettings :=
      [.region ⟨"[", "]", false, false, true⟩,
        .conditionals ⟨["#if"], [], ["#else"], ["#end"], true, false, "C++", [], true⟩]
    let p : Processor := ⟨⟨Configuration.defaultFormat, settings, 1, 1⟩,
      .ofList [("A", .bool false)], .standard⟩
    let source : Source := ⟨.ofBytes (Encoding.utf8.encode "#if A\n[b]\n#else\na [a]\n#end\n"),
      [.interrupted, .upTo 2 (by decide), .interrupted], false⟩
    (make p.configuration p.bindings p.converter ⟨⟨0, 0⟩, fun _ => 0⟩ = .ok p ∧
        source.fails = false ∧ Target.ReadsInFull Memory) ∧
      ∃ plan r₀ σ₀ r σ, p.Visits source (Memory.ofBytes []) plan r₀ σ₀ ∧
        Finishes plan.turn r₀ σ₀ (.ok r σ) ∧ r.Drained σ ∧
        p.run source (Memory.ofBytes []) = RunPlan.conclude (.ok r σ) := by
  intro settings p source
  have hmake : make p.configuration p.bindings p.converter ⟨⟨0, 0⟩, fun _ => 0⟩ = .ok p :=
    (make_plain (by decide)).2 ⟨by decide, rfl⟩
  have hmodified : (p.run source (Memory.ofBytes [])).1.toOption = some true := by decide +kernel
  obtain ⟨-, plan, r₀, σ₀, x, hvisits, -, hfinishes, hrun, hdrained⟩ :=
    run_exhausts hmake (show source.fails = false from rfl) Memory.readsInFull (Memory.ofBytes [])
  have hok : (p.run source (Memory.ofBytes [])).1 = .ok true := by
    cases hx : (p.run source (Memory.ofBytes [])).1 with
    | error e =>
      rw [hx] at hmodified
      cases hmodified
    | ok modified =>
      rw [hx] at hmodified
      exact congrArg Except.ok (Option.some.inj hmodified)
  obtain ⟨r, σ, rfl, hleft⟩ := hdrained true hok
  exact ⟨⟨hmake, rfl, Memory.readsInFull⟩, plan, r₀, σ₀, r, σ, hvisits, hfinishes, hleft, hrun⟩

end Processor

end Templating

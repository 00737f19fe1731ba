import Mathlib.Data.List.Forall2
import Templating.Operation
import Templating.Proofs.Lockstep

/-!
# Handling side by side

Two runs that stand at corresponding places of their inputs handle a token alike,
as long as their primitive steps correspond: the searches for markers, the reading
of conditions and the removal of blanks. What is put together from these steps, with
loops, a stack of blocks and skipping, is the same on both sides and is treated here
once.

* `Session.Alike`: sessions with corresponding windows and corresponding targets.
* `Conditional.course`, `Conditional.turn_eq`: where a marker of a block leads to.
* `OperationSettings.Makes`: the operations that settings make, kind by kind.
* `Conditional.Twin`, `Region.Twin`, `Operation.Twin`: operations with corresponding steps.
* `Operation.simulates_handle`: twins handle a token alike, and stay twins.
* `Operation.shrinks_handle`: no operation moves back in its source.
-/

namespace Templating

namespace Session

variable {τ υ α β : Type}

/-- Sessions with corresponding windows and corresponding targets. -/
def Alike (W : Window → Window → Prop) (T : τ → υ → Prop) (s : Session τ) (s' : Session υ) : Prop :=
  W s.window s'.window ∧ T s.target s'.target

/-- A measure of windows, as one of sessions. -/
def measure (μ : Window → Nat) (s : Session τ) : Nat := μ s.window

theorem scan_apply (action : EStateM Error Window α) (s : Session τ) :
    scan action s = match action s.window with
      | .ok a w => .ok a ⟨w, s.target⟩
      | .error e w => .error e ⟨w, s.target⟩ := rfl

theorem onTarget_apply (action : EStateM IoError τ α) (s : Session τ) :
    onTarget action s = match action s.target with
      | .ok a t => .ok a ⟨s.window, t⟩
      | .error e t => .error (.io e) ⟨s.window, t⟩ := rfl

variable {W : Window → Window → Prop} {T : τ → υ → Prop} {Q : α → β → Prop}

theorem simulates_scan {m : EStateM Error Window α} {n : EStateM Error Window β}
    (h : Simulates W Q m n) : Simulates (Alike W T) Q (scan m) (scan n) := by
  rintro s s' ⟨hw, ht⟩
  rw [scan_apply, scan_apply]
  have hagree := h _ _ hw
  generalize m s.window = x at hagree ⊢
  generalize n s'.window = y at hagree ⊢
  cases hagree with
  | ok hq hw' => exact .ok hq ⟨hw', ht⟩
  | error hw' => exact .error ⟨hw', ht⟩

theorem simulates_onWindow {m : EStateM IoError Window α} {n : EStateM IoError Window β}
    (h : Simulates W Q m n) : Simulates (Alike W T) Q (onWindow m) (onWindow n) :=
  simulates_scan h.onStream

theorem simulates_onTarget {m : EStateM IoError τ α} {n : EStateM IoError υ β}
    (h : Simulates T Q m n) : Simulates (Alike W T) Q (onTarget m) (onTarget n) := by
  rintro s s' ⟨hw, ht⟩
  rw [onTarget_apply, onTarget_apply]
  have hagree := h _ _ ht
  generalize m s.target = x at hagree ⊢
  generalize n s'.target = y at hagree ⊢
  cases hagree with
  | ok hq ht' => exact .ok hq ⟨hw, ht'⟩
  | error ht' => exact .error ⟨hw, ht'⟩

variable {μ : Window → Nat}

theorem shrinks_scan {m : EStateM Error Window α} (h : Shrinks μ m) :
    Shrinks (measure μ) (scan m : EStateM Error (Session τ) α) := by
  intro s
  have hs := h s.window
  rw [scan_apply]
  cases hx : m s.window <;> (rw [hx] at hs; exact hs)

theorem shrinks_onWindow {m : EStateM IoError Window α} (h : Shrinks μ m) :
    Shrinks (measure μ) (onWindow m : EStateM Error (Session τ) α) :=
  shrinks_scan h.onStream

theorem shrinks_onTarget (m : EStateM IoError τ α) : Shrinks (measure μ) (onTarget m) := by
  intro s
  rw [onTarget_apply]
  cases m s.target <;> exact le_rfl

theorem spends_onWindow {P : α → Prop} {m : EStateM IoError Window α} (h : Spends μ P m) :
    Spends (measure μ) P (onWindow m : EStateM Error (Session τ) α) := by
  intro s a s' hx ha
  rw [onWindow, scan_apply, onStream_apply] at hx
  cases hy : m s.window with
  | error e w => rw [hy] at hx; cases hx
  | ok b w =>
    rw [hy] at hx
    cases hx
    exact h _ _ _ hy ha

theorem simulates_write [Target τ] [Target υ] {bytes bytes' : Bytes}
    (h : Simulates T Eq (Target.write bytes : EStateM IoError τ Unit) (Target.write bytes')) :
    Simulates (Alike W T) (fun _ _ => True) (write bytes) (write bytes') := by
  refine (simulates_onTarget h).bind ?_
  rintro _ _ -
  exact Simulates.pure trivial

theorem shrinks_write [Target τ] (bytes : Bytes) :
    Shrinks (measure μ) (write bytes : EStateM Error (Session τ) Nat) :=
  (shrinks_onTarget _).bind fun _ => Shrinks.pure _

end Session

namespace WhitespacePolicy

variable {τ : Type} {μ : Window → Nat}

theorem shrinks_before [Target τ] (policy : WhitespacePolicy) (ctx : Context) :
    Shrinks (Session.measure μ) (policy.before ctx : EStateM Error (Session τ) Unit) := by
  cases policy with
  | keep => exact Shrinks.pure _
  | wholeLine => exact Session.shrinks_onTarget _
  | trim => exact Session.shrinks_onTarget _

theorem shrinks_after (h : Window.Descends μ) (policy : WhitespacePolicy) (ctx : Context) :
    Shrinks (Session.measure μ) (policy.after ctx : EStateM Error (Session τ) Unit) := by
  cases policy with
  | keep => exact Shrinks.pure _
  | wholeLine =>
    exact Session.shrinks_onWindow
      ((Window.shrinks_seekUntil h _ true).bind fun _ => Shrinks.pure _)
  | trim => exact Session.shrinks_onWindow (Window.shrinks_seekWhile h _)

end WhitespacePolicy

/-! ## Conditional blocks -/

namespace Conditional

/-- The operation of some settings in a dialect. -/
def ofDialect (dialect : Dialect) (s : ConditionalSettings) (g : Glossary) (conv : Converter) :
    Conditional where
  markers := s.markers.map fun m => (m.1, g.encoding.encode m.2)
  scan := .ofList ((s.markers.map fun m => (m.1, g.encoding.encode m.2)).map (·.2))
  evaluator := .make dialect g conv s.terminators
  whitespace := .ofFlags s.wholeLine s.trim
  strict := s.strict
  blocks := []

/-- **A conditional operation as its settings make it**, if they name a dialect. -/
theorem make_eq (s : ConditionalSettings) (g : Glossary) (conv : Converter) :
    make s g conv = (Dialect.ofName s.evaluator).map fun dialect =>
      ofDialect dialect s g conv := by
  unfold make
  cases Dialect.ofName s.evaluator <;> rfl

theorem make_ok {s : ConditionalSettings} {g : Glossary} {conv : Converter} {c : Conditional}
    (h : make s g conv = .ok c) : ∃ dialect, Dialect.ofName s.evaluator = .ok dialect ∧
      c = ofDialect dialect s g conv := by
  rw [make_eq] at h
  cases hname : Dialect.ofName s.evaluator with
  | error e => rw [hname] at h; cases h
  | ok dialect => rw [hname] at h; cases h; exact ⟨dialect, rfl, rfl⟩

variable {τ υ : Type}

/-- Two conditional operations with corresponding steps, in the same state. -/
structure Twin [Target τ] [Target υ] (W : Window → Window → Prop) (T : τ → υ → Prop)
    (ctx ctx' : Context) (c c' : Conditional) : Prop where
  marker : ∀ token : Nat, c.marker? token = c'.marker? token
  strict : c.strict = c'.strict
  blocks : c.blocks = c'.blocks
  lawful : c.scan.Lawful
  lawful' : c'.scan.Lawful
  seek : Simulates W Eq (Window.seekUntil c.scan true) (Window.seekUntil c'.scan true)
  evaluate : Simulates W Eq (c.evaluator.evaluate : EStateM Error Window Bool)
    (c'.evaluator.evaluate : EStateM Error Window Bool)
  before : Simulates (Session.Alike W T) Eq (c.whitespace.before ctx) (c'.whitespace.before ctx')
  after : Simulates (Session.Alike W T) Eq (c.whitespace.after ctx) (c'.whitespace.after ctx')

section Skipping

variable {μ : Window → Nat} (c : Conditional) (sought : Sought)

/-- What a turn of skipping makes of the token that it finds. -/
def skipped (token : Option Nat) (depth : Nat) : Turn Nat (Option Marker) :=
  match token with
  | none => .stop none
  | some token =>
    match c.marker? token, depth with
    | none, _ => .again depth
    | some .opening, _ => .again (depth + 1)
    | some .closing, outer + 1 => .again outer
    | some marker, 0 => if sought.meets marker then .stop (some marker) else .again 0
    | some _, _ + 1 => .again depth

theorem skipTurn_eq (depth : Nat) : c.skipTurn sought depth =
    (do let token ← Window.seekUntil c.scan true; pure (c.skipped sought token depth)) := by
  unfold skipTurn
  congr 1
  funext token
  unfold skipped
  cases token with
  | none => rfl
  | some token =>
    simp only
    cases c.marker? token with
    | none => rfl
    | some marker => cases marker <;> cases depth <;> simp only <;> (try split) <;> rfl

theorem shrinks_skipTurn (h : Window.Descends μ) (depth : Nat) :
    Shrinks μ (c.skipTurn sought depth) := by
  rw [skipTurn_eq]
  exact (Window.shrinks_seekUntil h _ true).bind fun _ => Shrinks.pure _

theorem shrinks_skip (h : Window.Descends μ) : Shrinks μ (c.skip sought) := fun w =>
  Shrinks.loop (c.shrinks_skipTurn sought h) (w.remaining + 1) 0 w

variable {c sought}

/-- A turn of skipping that has found a token has consumed it. -/
theorem spends_skipTurn (hc : c.scan.Lawful) (depth : Nat) :
    Spends Window.remaining (· ≠ .stop none) (c.skipTurn sought depth) := by
  rw [skipTurn_eq]
  refine Spends.bind (Window.shrinks_seekUntil Window.descends_remaining _ true)
    (Window.spends_seekUntil hc) (fun _ _ => Shrinks.pure _) fun token htoken => Spends.pure ?_
  cases token with
  | none => simp [skipped]
  | some token => simp at htoken

/-- Skipping that has found a marker has consumed it. -/
theorem spends_skip (hc : c.scan.Lawful) :
    Spends Window.remaining (·.isSome = true) (c.skip sought) := fun w =>
  Spends.loop (c.shrinks_skipTurn sought Window.descends_remaining)
    (fun depth => (spends_skipTurn hc depth).weaken (by rintro _ h rfl; simp [Turn.Stops] at h))
    (fun _ => by simp) (w.remaining + 1) 0 w

end Skipping

/-- What follows a search for the marker that ends a branch. -/
def resumed (c : Conditional) (blocks : List Bool) :
    Option Marker → EStateM Error (Session τ) (Turn (Marker × List Bool) (List Bool))
  | some marker => pure (.again (marker, blocks))
  | none =>
    match c.unterminated blocks with
    | .ok closed => pure (.stop closed)
    | .error cause => throw (.unbalanced cause)

theorem resume_eq (c : Conditional) (sought : Sought) (blocks : List Bool) :
    (c.resume sought blocks : EStateM Error (Session τ) _) =
      Session.onWindow (c.skip sought) >>= c.resumed blocks := by
  unfold resume
  congr 1
  funext marker
  cases marker with
  | some marker => rfl
  | none =>
    simp only [resumed]
    cases c.unterminated blocks <;> rfl

/-- Where a marker leads to, once output before it has been removed. -/
inductive Course where
  /-- The branch has a condition to read. -/
  | branch (blocks : List Bool)
  /-- Another branch has been taken, and the rest of the block is left out. -/
  | leaveOut (blocks : List Bool)
  /-- Nothing but blanks is left out. -/
  | passOn (blocks : List Bool)
  /-- There is no block. -/
  | orphan (marker : Marker)

/-- **Where a marker leads to** depends on the innermost open block only. -/
def course : Marker → List Bool → Course
  | .opening, blocks => .branch (false :: blocks)
  | marker, [] => .orphan marker
  | .alternative, true :: outer => .leaveOut (true :: outer)
  | .alternative, false :: outer => .branch (false :: outer)
  | .fallback, true :: outer => .leaveOut (true :: outer)
  | .fallback, false :: outer => .passOn (true :: outer)
  | .closing, _ :: outer => .passOn outer

/-- What is done there. -/
def follow (c : Conditional) (ctx : Context) :
    Course → EStateM Error (Session τ) (Turn (Marker × List Bool) (List Bool))
  | .branch blocks => c.decideBranch ctx blocks
  | .leaveOut blocks => c.resume .block blocks
  | .passOn blocks => do
    c.whitespace.after ctx
    pure (.stop blocks)
  | .orphan marker => c.orphan ctx marker []

theorem turn_eq [Target τ] (c : Conditional) (ctx : Context) (at? : Marker × List Bool) :
    (c.turn ctx at? : EStateM Error (Session τ) _) =
      (do c.whitespace.before ctx; c.follow ctx (course at?.1 at?.2)) := by
  obtain ⟨marker, blocks⟩ := at?
  rcases marker with _ | _ | _ | _ <;> rcases blocks with _ | ⟨taken, outer⟩ <;>
    try rfl
  all_goals cases taken <;> rfl

section Dispatching

variable [Target τ] [Target υ] {W : Window → Window → Prop} {T : τ → υ → Prop} {ctx ctx' : Context}
  {c c' : Conditional}

theorem Twin.skip (h : Twin W T ctx ctx' c c') (sought : Sought) :
    Simulates W Eq (c.skip sought) (c'.skip sought) := by
  intro w w' hw
  -- the bounds are the sizes of two inputs, of which each marker consumes some
  refine Simulates.loop (P := Eq) (S := Eq) (μ := Window.remaining) (ν := Window.remaining)
    ?_ ?_ ?_ _ _ 0 0 w w' (Nat.lt_succ_self _) (Nat.lt_succ_self _) rfl hw
  · rintro depth _ rfl
    refine Simulates.turns ?_
    rw [skipTurn_eq, skipTurn_eq]
    refine h.seek.bind ?_
    rintro token _ rfl
    have hsame : c.skipped sought token depth = c'.skipped sought token depth := by
      unfold skipped
      cases token with
      | none => rfl
      | some token => simp only [h.marker]
    rw [hsame]
    exact Simulates.pure rfl
  · exact fun depth => (spends_skipTurn h.lawful depth).weaken (by rintro _ hturn rfl; exact hturn)
  · exact fun depth => (spends_skipTurn h.lawful' depth).weaken (by rintro _ hturn rfl; exact hturn)

theorem Twin.resume (h : Twin W T ctx ctx' c c') (sought : Sought) (blocks : List Bool) :
    Simulates (Session.Alike W T) Eq (c.resume sought blocks) (c'.resume sought blocks) := by
  rw [resume_eq, resume_eq]
  refine (Session.simulates_onWindow (h.skip sought)).bind ?_
  rintro marker _ rfl
  cases marker with
  | some marker => exact Simulates.pure rfl
  | none =>
    have hsame : c.unterminated blocks = c'.unterminated blocks := by
      rw [unterminated, unterminated, h.strict]
    simp only [resumed, hsame]
    cases c'.unterminated blocks with
    | ok closed => exact Simulates.pure rfl
    | error cause => exact Simulates.throw _

theorem Twin.decideBranch (h : Twin W T ctx ctx' c c') (blocks : List Bool) :
    Simulates (Session.Alike W T) Eq (c.decideBranch ctx blocks) (c'.decideBranch ctx' blocks) := by
  refine (Session.simulates_scan h.evaluate).bind ?_
  rintro holds _ rfl
  refine h.after.bind ?_
  rintro _ _ rfl
  cases holds with
  | true => exact Simulates.pure rfl
  | false => exact h.resume .branch blocks

theorem Twin.orphan (h : Twin W T ctx ctx' c c') (marker : Marker) (blocks : List Bool) :
    Simulates (Session.Alike W T) Eq (c.orphan ctx marker blocks)
      (c'.orphan ctx' marker blocks) := by
  rw [Conditional.orphan, Conditional.orphan, h.strict]
  split
  · exact Simulates.throw _
  · refine h.after.bind ?_
    rintro _ _ rfl
    exact Simulates.pure rfl

/-- One marker, handled on both sides. -/
theorem Twin.turn (h : Twin W T ctx ctx' c c') (at? : Marker × List Bool) :
    Simulates (Session.Alike W T) Eq (c.turn ctx at?) (c'.turn ctx' at?) := by
  rw [turn_eq, turn_eq]
  refine h.before.bind ?_
  rintro _ _ rfl
  cases course at?.1 at?.2 with
  | branch blocks => exact h.decideBranch blocks
  | leaveOut blocks => exact h.resume .block blocks
  | passOn blocks =>
    refine h.after.bind ?_
    rintro _ _ rfl
    exact Simulates.pure rfl
  | orphan marker => exact h.orphan marker []

end Dispatching

section Descending

variable {μ : Window → Nat} (c : Conditional) (ctx : Context) (sought : Sought)

theorem shrinks_resumed (blocks : List Bool) (marker : Option Marker) :
    Shrinks (Session.measure (τ := τ) μ) (c.resumed blocks marker) := by
  cases marker with
  | some marker => exact Shrinks.pure _
  | none =>
    simp only [resumed]
    cases c.unterminated blocks with
    | ok closed => exact Shrinks.pure _
    | error cause => exact Shrinks.throw _

theorem shrinks_resume (h : Window.Descends μ) (blocks : List Bool) :
    Shrinks (Session.measure (τ := τ) μ) (c.resume sought blocks) := by
  rw [resume_eq]
  exact (Session.shrinks_onWindow (c.shrinks_skip sought h)).bind (c.shrinks_resumed blocks)

theorem spends_resume (hc : c.scan.Lawful) (blocks : List Bool) :
    Spends (Session.measure (τ := τ) Window.remaining) Turn.GoesOn (c.resume sought blocks) := by
  rw [resume_eq]
  refine Spends.bind (Session.shrinks_onWindow (c.shrinks_skip sought Window.descends_remaining))
    (Session.spends_onWindow (spends_skip hc)) (fun marker _ => c.shrinks_resumed blocks marker)
    fun marker hmarker => ?_
  cases marker with
  | some marker => simp at hmarker
  | none =>
    simp only [resumed]
    cases c.unterminated blocks with
    | ok closed => exact Spends.pure id
    | error cause => exact Spends.throw _

theorem shrinks_decideBranch (h : Window.Descends μ) (blocks : List Bool) :
    Shrinks (Session.measure (τ := τ) μ) (c.decideBranch ctx blocks) := by
  refine (Session.shrinks_scan (c.evaluator.shrinks_evaluate h.scanner)).bind fun holds => ?_
  refine (c.whitespace.shrinks_after h ctx).bind fun _ => ?_
  cases holds with
  | true => exact Shrinks.pure _
  | false => exact c.shrinks_resume .branch h blocks

theorem spends_decideBranch (hc : c.scan.Lawful) (blocks : List Bool) :
    Spends (Session.measure (τ := τ) Window.remaining) Turn.GoesOn (c.decideBranch ctx blocks) := by
  refine Spends.after
    (Session.shrinks_scan (c.evaluator.shrinks_evaluate Window.descends_remaining.scanner))
    fun holds => Spends.after (c.whitespace.shrinks_after Window.descends_remaining ctx) fun _ => ?_
  cases holds with
  | true => exact Spends.pure id
  | false => exact c.spends_resume .branch hc blocks

theorem shrinks_orphan (h : Window.Descends μ) (marker : Marker) (blocks : List Bool) :
    Shrinks (Session.measure (τ := τ) μ) (c.orphan ctx marker blocks) := by
  unfold orphan
  split
  · exact Shrinks.throw _
  · exact (c.whitespace.shrinks_after h ctx).bind fun _ => Shrinks.pure _

theorem spends_orphan (marker : Marker) (blocks : List Bool) :
    Spends (Session.measure (τ := τ) Window.remaining) Turn.GoesOn
      (c.orphan ctx marker blocks) := by
  unfold orphan
  split
  · exact Spends.throw _
  · exact Spends.after (c.whitespace.shrinks_after Window.descends_remaining ctx)
      fun _ => Spends.pure id

variable [Target τ]

theorem shrinks_turn (h : Window.Descends μ) (at? : Marker × List Bool) :
    Shrinks (Session.measure (τ := τ) μ) (c.turn ctx at?) := by
  rw [turn_eq]
  refine (c.whitespace.shrinks_before ctx).bind fun _ => ?_
  cases course at?.1 at?.2 with
  | branch blocks => exact c.shrinks_decideBranch ctx h blocks
  | leaveOut blocks => exact c.shrinks_resume .block h blocks
  | passOn blocks => exact (c.whitespace.shrinks_after h ctx).bind fun _ => Shrinks.pure _
  | orphan marker => exact c.shrinks_orphan ctx h marker []

theorem shrinks_dispatch (h : Window.Descends μ) (marker : Marker) :
    Shrinks (Session.measure (τ := τ) μ) (c.dispatch ctx marker) := fun s =>
  Shrinks.loop (c.shrinks_turn ctx h) (s.window.remaining + 1) (marker, c.blocks) s

/-- A turn after which another marker is to be handled has consumed that marker. -/
theorem spends_turn (hc : c.scan.Lawful) (at? : Marker × List Bool) :
    Spends (Session.measure (τ := τ) Window.remaining) Turn.GoesOn (c.turn ctx at?) := by
  rw [turn_eq]
  refine Spends.after (c.whitespace.shrinks_before ctx) fun _ => ?_
  cases course at?.1 at?.2 with
  | branch blocks => exact c.spends_decideBranch ctx hc blocks
  | leaveOut blocks => exact c.spends_resume .block hc blocks
  | passOn blocks =>
    exact Spends.after (c.whitespace.shrinks_after Window.descends_remaining ctx)
      fun _ => Spends.pure id
  | orphan marker => exact c.spends_orphan ctx marker []

end Descending

section Handling

variable [Target τ] [Target υ] {W : Window → Window → Prop} {T : τ → υ → Prop} {ctx ctx' : Context}
  {c c' : Conditional}

theorem Twin.dispatch (h : Twin W T ctx ctx' c c') (marker : Marker) :
    Simulates (Session.Alike W T) Eq (c.dispatch ctx marker) (c'.dispatch ctx' marker) := by
  intro s s' hs
  -- a turn that goes on has skipped to a marker
  refine Simulates.loop (P := Eq) (S := Eq) (μ := Session.measure Window.remaining)
    (ν := Session.measure Window.remaining) ?_ (c.spends_turn ctx h.lawful)
    (c'.spends_turn ctx' h.lawful') _ _ _ _ s s' (Nat.lt_succ_self _) (Nat.lt_succ_self _)
    (by rw [h.blocks]) hs
  rintro at? _ rfl
  exact (h.turn at?).turns

theorem Twin.withBlocks (h : Twin W T ctx ctx' c c') (blocks : List Bool) :
    Twin W T ctx ctx' { c with blocks := blocks } { c' with blocks := blocks } :=
  ⟨h.marker, h.strict, rfl, h.lawful, h.lawful', h.seek, h.evaluate, h.before, h.after⟩

theorem Twin.handle (h : Twin W T ctx ctx' c c') (token : Nat) :
    Simulates (Session.Alike W T) (Twin W T ctx ctx') (c.handle ctx token)
      (c'.handle ctx' token) := by
  unfold Conditional.handle
  rw [h.marker]
  cases c'.marker? token with
  | none => exact Simulates.pure h
  | some marker =>
    refine (h.dispatch marker).bind ?_
    rintro blocks _ rfl
    exact Simulates.pure (h.withBlocks blocks)

end Handling

end Conditional

/-! ## Regions -/

namespace Region

/-- What a turn of skipping makes of the marker that it finds. -/
def skipped (r : Region) (token : Option Nat) (depth : Nat) : Turn Nat Unit :=
  match token with
  | none => .stop ()
  | some token =>
    if token = 0 ∧ !r.toggle then .again (depth + 1)
    else if depth = 0 then .stop ()
    else .again (depth - 1)

theorem skipTurn_eq (r : Region) (depth : Nat) : r.skipTurn depth =
    (do let token ← Window.seekUntil r.markers true; pure (r.skipped token depth)) := by
  unfold skipTurn
  congr 1
  funext token
  cases token with
  | none => rfl
  | some token =>
    simp only [skipped]
    split
    · rfl
    · split <;> rfl

/-- The depth behind a marker. -/
def depthAfter (r : Region) (token : Nat) : Nat :=
  if r.opens token then if r.included then r.depth + 1 else r.depth else r.depth - 1

/-- What is left out behind a marker: the region that it opens, or nothing. -/
def leaveOut (r : Region) (token : Nat) : EStateM IoError Window Unit :=
  if r.opens token && !r.included then r.skip else pure ()

variable {τ υ : Type}

/-- **A marker of a region**, step by step. -/
theorem handle_eq [Target τ] (r : Region) (ctx : Context) (token : Nat) :
    (r.handle ctx token : EStateM Error (Session τ) Region) = (do
      r.whitespace.before ctx
      Session.onWindow (r.leaveOut token)
      r.whitespace.after ctx
      pure { r with depth := r.depthAfter token }) := by
  unfold handle leaveOut depthAfter
  congr 1
  funext _
  cases r.opens token <;> cases r.included <;> rfl

section Descending

variable {μ : Window → Nat} (r : Region) (ctx : Context)

theorem shrinks_skipTurn (h : Window.Descends μ) (depth : Nat) : Shrinks μ (r.skipTurn depth) := by
  rw [skipTurn_eq]
  exact (Window.shrinks_seekUntil h _ true).bind fun _ => Shrinks.pure _

theorem spends_skipTurn (hr : r.markers.Lawful) (depth : Nat) :
    Spends Window.remaining Turn.GoesOn (r.skipTurn depth) := by
  rw [skipTurn_eq]
  refine Spends.bind (Window.shrinks_seekUntil Window.descends_remaining _ true)
    (Window.spends_seekUntil hr) (fun _ _ => Shrinks.pure _) fun token htoken => Spends.pure ?_
  cases token with
  | none => exact id
  | some token => simp at htoken

theorem shrinks_skip (h : Window.Descends μ) : Shrinks μ r.skip := fun w =>
  Shrinks.loop (r.shrinks_skipTurn h) (w.remaining + 1) 0 w

theorem shrinks_leaveOut (h : Window.Descends μ) (token : Nat) : Shrinks μ (r.leaveOut token) := by
  unfold leaveOut
  split
  · exact r.shrinks_skip h
  · exact Shrinks.pure _

theorem shrinks_handle [Target τ] (h : Window.Descends μ) (token : Nat) :
    Shrinks (Session.measure (τ := τ) μ) (r.handle ctx token) := by
  rw [handle_eq]
  refine (r.whitespace.shrinks_before ctx).bind fun _ => ?_
  refine (Session.shrinks_onWindow (r.shrinks_leaveOut h token)).bind fun _ => ?_
  exact (r.whitespace.shrinks_after h ctx).bind fun _ => Shrinks.pure _

end Descending

variable [Target τ] [Target υ]

/-- Two regions with corresponding steps, in the same state. -/
structure Twin (W : Window → Window → Prop) (T : τ → υ → Prop) (ctx ctx' : Context)
    (r r' : Region) : Prop where
  toggle : r.toggle = r'.toggle
  included : r.included = r'.included
  depth : r.depth = r'.depth
  lawful : r.markers.Lawful
  lawful' : r'.markers.Lawful
  seek : Simulates W Eq (Window.seekUntil r.markers true) (Window.seekUntil r'.markers true)
  before : Simulates (Session.Alike W T) Eq (r.whitespace.before ctx) (r'.whitespace.before ctx')
  after : Simulates (Session.Alike W T) Eq (r.whitespace.after ctx) (r'.whitespace.after ctx')

variable {W : Window → Window → Prop} {T : τ → υ → Prop} {ctx ctx' : Context} {r r' : Region}

theorem Twin.skip (h : Twin W T ctx ctx' r r') : Simulates W Eq r.skip r'.skip := by
  intro w w' hw
  refine Simulates.loop (P := Eq) (S := Eq) (μ := Window.remaining) (ν := Window.remaining)
    ?_ (r.spends_skipTurn h.lawful) (r'.spends_skipTurn h.lawful') _ _ 0 0 w w'
    (Nat.lt_succ_self _) (Nat.lt_succ_self _) rfl hw
  rintro depth _ rfl
  refine Simulates.turns ?_
  rw [skipTurn_eq, skipTurn_eq]
  refine h.seek.bind ?_
  rintro token _ rfl
  have hsame : r.skipped token depth = r'.skipped token depth := by
    simp only [skipped, h.toggle]
  rw [hsame]
  exact Simulates.pure rfl

theorem Twin.opens (h : Twin W T ctx ctx' r r') (token : Nat) : r.opens token = r'.opens token := by
  rw [Region.opens, Region.opens, h.toggle, h.depth]

theorem Twin.leaveOut (h : Twin W T ctx ctx' r r') (token : Nat) :
    Simulates W Eq (r.leaveOut token) (r'.leaveOut token) := by
  rw [Region.leaveOut, Region.leaveOut, h.opens, h.included]
  split
  · exact h.skip
  · exact Simulates.pure rfl

theorem Twin.handle (h : Twin W T ctx ctx' r r') (token : Nat) :
    Simulates (Session.Alike W T) (Twin W T ctx ctx') (r.handle ctx token)
      (r'.handle ctx' token) := by
  have hdepth : r.depthAfter token = r'.depthAfter token := by
    rw [depthAfter, depthAfter, h.opens, h.included, h.depth]
  rw [handle_eq, handle_eq]
  refine h.before.bind ?_
  rintro _ _ rfl
  refine (Session.simulates_onWindow (h.leaveOut token)).bind fun _ _ _ => ?_
  refine h.after.bind fun _ _ _ => Simulates.pure ?_
  exact ⟨h.toggle, h.included, hdepth, h.lawful, h.lawful', h.seek, h.before, h.after⟩

end Region

/-! ## Operations -/

namespace OperationSettings

variable {g : Glossary} {conv : Converter}

/-- **The operations that settings make**, kind by kind. Macros make none. -/
inductive Makes (g : Glossary) (conv : Converter) : OperationSettings → Operation → Prop
  | conditionals {s : ConditionalSettings} {dialect : Dialect} :
      Dialect.ofName s.evaluator = .ok dialect →
      Makes g conv (.conditionals s) (.conditional (.ofDialect dialect s g conv))
  | replacements {s : ReplacementSettings} :
      Makes g conv (.replacements s) (.replacement (.make s g))
  | region {s : RegionSettings} : Makes g conv (.region s) (.region (.make s g))
  | variableExpansion : Makes g conv .variableExpansion (.expansion (g.slots.map (·.formatted)))

theorem materialize_conditionals {s : ConditionalSettings} {c : Conditional}
    (h : Conditional.make s g conv = .ok c) :
    (conditionals s).materialize g conv = .ok (some (.conditional c)) := by
  rw [materialize, h]
  rfl

/-- What settings have made is one of these. -/
theorem makes_of_materialize {s : OperationSettings} {o : Operation}
    (h : s.materialize g conv = .ok (some o)) : s.Makes g conv o := by
  cases s with
  | conditionals s =>
    simp only [materialize] at h
    cases hmake : Conditional.make s g conv with
    | error cause => rw [hmake] at h; cases h
    | ok c =>
      rw [hmake] at h
      cases h
      obtain ⟨dialect, hdialect, rfl⟩ := Conditional.make_ok hmake
      exact .conditionals hdialect
  | replacements s => cases h; exact .replacements
  | region s => cases h; exact .region
  | variableExpansion => cases h; exact .variableExpansion
  | macros ms => cases h

end OperationSettings

namespace Operation

variable {τ υ : Type} [Target τ] [Target υ]

/-- Two operations with corresponding steps, in the same state. -/
inductive Twin (W : Window → Window → Prop) (T : τ → υ → Prop) (ctx ctx' : Context) :
    Operation → Operation → Prop
  | conditional {c c' : Conditional} : Conditional.Twin W T ctx ctx' c c' →
      Twin W T ctx ctx' (.conditional c) (.conditional c')
  | region {r r' : Region} : Region.Twin W T ctx ctx' r r' →
      Twin W T ctx ctx' (.region r) (.region r')
  | replacement {r r' : Replacement} :
      Simulates T Eq (Target.write r.text : EStateM IoError τ Unit) (Target.write r'.text) →
      Twin W T ctx ctx' (.replacement r) (.replacement r')
  | expansion {names names' : List Bytes} :
      (∀ slot, Simulates (Session.Alike W T) (fun _ _ => True)
        (expandVariable ctx.glossary slot) (expandVariable ctx'.glossary slot)) →
      Twin W T ctx ctx' (.expansion names) (.expansion names')

variable {W : Window → Window → Prop} {T : τ → υ → Prop} {ctx ctx' : Context}
  {o o' : Operation}

/-- **Twins handle a token alike**, and stay twins. -/
theorem simulates_handle (h : Twin W T ctx ctx' o o') (token : Nat) :
    Simulates (Session.Alike W T) (fun x y => Twin W T ctx ctx' x.1 y.1) (o.handle ctx token)
      (o'.handle ctx' token) := by
  cases h with
  | conditional h =>
    exact (h.handle token).bind fun _ _ h' => Simulates.pure (.conditional h')
  | region h =>
    exact (h.handle token).bind fun _ _ h' => Simulates.pure (.region h')
  | replacement h =>
    exact (Session.simulates_write h).bind fun _ _ _ => Simulates.pure (.replacement h)
  | expansion h =>
    exact (h token).bind fun _ _ _ => Simulates.pure (.expansion h)

theorem finish_eq (h : Twin W T ctx ctx' o o') : o.finish = o'.finish := by
  cases h with
  | conditional h =>
    simp only [finish, Conditional.finish, Conditional.unterminated, h.blocks, h.strict]
  | region => rfl
  | replacement => rfl
  | expansion => rfl

/-- Operations that are twins in order. -/
abbrev Paired (W : Window → Window → Prop) (T : τ → υ → Prop) (ctx ctx' : Context) :
    List Operation → List Operation → Prop :=
  List.Forall₂ (Twin W T ctx ctx')

variable {os os' : List Operation}

theorem Paired.getElem? (h : Paired W T ctx ctx' os os') :
    ∀ i : Nat, Option.Rel (Twin W T ctx ctx') os[i]? os'[i]? := by
  induction h with
  | nil => exact fun _ => .none
  | cons ho _ ih =>
    rintro (_ | i)
    · exact .some ho
    · exact ih i

theorem Paired.set (h : Paired W T ctx ctx' os os') (ho : Twin W T ctx ctx' o o') :
    ∀ i : Nat, Paired W T ctx ctx' (os.set i o) (os'.set i o') := by
  induction h with
  | nil => exact fun _ => .nil
  | cons h₁ h₂ ih =>
    rintro (_ | i)
    · exact .cons ho h₂
    · exact .cons h₁ (ih i)

/-- **No operation moves back in its source.** -/
theorem shrinks_handle {μ : Window → Nat} (h : Window.Descends μ) (ctx : Context) (token : Nat)
    (o : Operation) :
    Shrinks (Session.measure (τ := τ) μ) (o.handle ctx token) := by
  cases o with
  | conditional c =>
    refine Shrinks.bind ?_ fun _ => Shrinks.pure _
    unfold Conditional.handle
    split
    · exact Shrinks.pure _
    · exact (c.shrinks_dispatch ctx h _).bind fun _ => Shrinks.pure _
  | region r => exact (r.shrinks_handle ctx h token).bind fun _ => Shrinks.pure _
  | replacement r => exact (Session.shrinks_write _).bind fun _ => Shrinks.pure _
  | expansion names =>
    refine Shrinks.bind ?_ fun _ => Shrinks.pure _
    simp only [expandVariable]
    split
    · exact Shrinks.pure _
    · exact Session.shrinks_write _

end Operation

end Templating

import Templating.Proofs.Run

/-!
# Runs of a processor

A run enters its source, makes its operations and goes on from the stage after the
byte-order mark.

* `Operation.matches_self`: operations search with lawful tables only.
* `Processor.Runs`: how a run over given bytes ends, told without its buffers.
* `Processor.run_eq`: so a run is determined by the bytes of its source.
-/

namespace Templating

namespace Encoding

/-- Four bytes tell the encoding of a stream. -/
theorem detect_take {n : Nat} (bytes : Bytes) (hn : 4 ≤ n) :
    detect (bytes.take n) = detect bytes := by
  have hmark : ∀ e : Encoding, e.mark.isPrefixOf (bytes.take n) = e.mark.isPrefixOf bytes := by
    intro e
    have hlen : e.mark.length ≤ n := le_trans (by cases e <;> decide) hn
    rw [Bool.eq_iff_iff, List.isPrefixOf_iff_prefix, List.isPrefixOf_iff_prefix,
      List.prefix_take_iff]
    exact and_iff_left hlen
  simp only [detect, hmark]

theorem detect_le (bytes : Bytes) : (detect bytes).2 ≤ bytes.length := by
  unfold detect
  split
  · rename_i e he
    have := List.find?_some he
    exact (List.isPrefixOf_iff_prefix.1 this).length_le
  · exact Nat.zero_le _

end Encoding

namespace Window

theorem first_spec {source : Source} (h : source.fails = false) (capacity : Nat) : ∃ w,
    first capacity source = .ok w ∧ w.At source.unread.bytes ∧ w.behind = [] ∧
      w.Sees leastCapacity := by
  have hroom : 0 < max capacity leastCapacity := lt_of_lt_of_le (by decide) (le_max_right _ _)
  have h₀ : (⟨max capacity leastCapacity, [], .empty, source, false⟩ : Window).At
      source.unread.bytes := ⟨h, rfl, by simp, hroom⟩
  obtain ⟨w, hfill, hw, hbehind, -, -, hfull⟩ := fill_spec h₀
  refine ⟨w, ?_, hw, hbehind, ?_⟩
  · simp only [first, EStateM.run, hfill]
    rfl
  · rcases hfull with hended | hfull
    · exact Or.inr hended
    · left
      rw [Window.length, hbehind] at hfull
      simp only [List.length_nil, Nat.zero_add] at hfull
      exact le_trans (le_max_right _ _) hfull

/-- **The window after the mark**, whatever the source does. -/
theorem enter_spec {source : Source} (h : source.fails = false) (capacity : Nat) : ∃ w,
    enter capacity source = .ok (w, Encoding.detect source.unread.bytes) ∧
      w.At (source.unread.bytes.drop (Encoding.detect source.unread.bytes).2) ∧
      w.behind.reverse = source.unread.bytes.take (Encoding.detect source.unread.bytes).2 := by
  obtain ⟨w, hfirst, hw, hbehind, hsees⟩ := first_spec h capacity
  -- the first window is large enough for every mark
  have hdetect : Encoding.detect w.ahead.bytes = Encoding.detect source.unread.bytes := by
    rcases hsees with hs | hs
    · rw [hw.ahead_take, Encoding.detect_take _ hs]
    · rw [hw.ahead_eq hs]
  have hle : (Encoding.detect source.unread.bytes).2 ≤ w.ahead.length := by
    rw [← hdetect, w.ahead.length_eq]
    exact Encoding.detect_le _
  refine ⟨w.step (Encoding.detect source.unread.bytes).2, ?_, hw.step hle, ?_⟩
  · simp only [enter, hfirst, bind, Except.bind, hdetect]
    rfl
  · simp only [step, hbehind, List.append_nil, List.reverse_reverse, Tape.take]
    rw [hw.ahead_take, List.take_take, Nat.min_eq_left hle]

end Window

namespace Window

theorem simulates_seekUntil {table : TokenTable} (ht : table.Lawful) (consume : Bool) :
    Simulates Alike Eq (seekUntil table consume) (seekUntil table consume) :=
  Simulates.of_gives _ _ (gives_seekUntil ht consume) (gives_seekUntil ht consume)

theorem simulates_seekWhile {table : TokenTable} (ht : table.Lawful) :
    Simulates Alike Eq (seekWhile table) (seekWhile table) :=
  Simulates.of_gives _ _ (gives_seekWhile ht) (gives_seekWhile ht)

end Window

namespace WhitespacePolicy

variable (policy : WhitespacePolicy) {ctx : Context}

theorem simulates_before : Simulates (Session.Alike Window.Alike Eq) Eq
    (policy.before ctx : EStateM Error (Session Memory) Unit) (policy.before ctx) := by
  cases policy with
  | keep => exact Simulates.pure rfl
  | wholeLine => exact Session.simulates_onTarget (Simulates.same _)
  | trim => exact Session.simulates_onTarget (Simulates.same _)

theorem simulates_after (hlines : ctx.glossary.lineEndings.Lawful)
    (hblanks : ctx.glossary.blanks.Lawful) : Simulates (Session.Alike Window.Alike Eq) Eq
    (policy.after ctx : EStateM Error (Session Memory) Unit) (policy.after ctx) := by
  cases policy with
  | keep => exact Simulates.pure rfl
  | wholeLine =>
    refine Session.simulates_onWindow ((Window.simulates_seekUntil hlines true).bind ?_)
    rintro _ _ rfl
    exact Simulates.pure rfl
  | trim => exact Session.simulates_onWindow (Window.simulates_seekWhile hblanks)

end WhitespacePolicy

namespace Operation

variable {e : Encoding} {v : Variables} {format : String} {conv : Converter}

/-- An operation as it is made matches itself, since all tables that it searches with are
lawful. -/
theorem matches_self {s : OperationSettings} {o : Operation} (floor : Nat)
    (h : s.materialize (.make e v format) conv = .ok (some o)) :
    Matches ⟨.make e v format, floor⟩ o o := by
  have hafter : ∀ policy : WhitespacePolicy, Simulates (Session.Alike Window.Alike Eq) Eq
      (policy.after ⟨.make e v format, floor⟩ : EStateM Error (Session Memory) Unit)
      (policy.after ⟨.make e v format, floor⟩) := fun policy =>
    policy.simulates_after (TokenTable.lawful_ofList _) (TokenTable.lawful_ofList _)
  cases OperationSettings.makes_of_materialize h with
  | @conditionals s dialect =>
    have hscan := TokenTable.lawful_ofList
      ((s.markers.map fun m => (m.1, (Glossary.make e v format).encoding.encode m.2)).map (·.2))
    exact .conditional {
      marker := fun _ => rfl
      strict := rfl
      blocks := rfl
      lawful := hscan
      lawful' := hscan
      seek := Window.simulates_seekUntil hscan true
      evaluate := Evaluator.simulates_evaluate _ (Window.lockstep (TokenTable.lawful_ofList _))
      before := WhitespacePolicy.simulates_before _
      after := hafter _ }
  | replacements => exact .replacement (Simulates.same _)
  | @region s =>
    have hmarkers := TokenTable.lawful_ofList (Region.make s (.make e v format)).tokens
    exact .region {
      toggle := rfl
      included := rfl
      depth := rfl
      lawful := hmarkers
      lawful' := hmarkers
      seek := Window.simulates_seekUntil hmarkers true
      before := WhitespacePolicy.simulates_before _
      after := hafter _ }
  | variableExpansion =>
    refine .expansion fun slot => ?_
    simp only [expandVariable]
    split
    · exact Simulates.pure trivial
    · exact Session.simulates_write (Simulates.same _)

end Operation

namespace Processor

variable (p : Processor)

/-- The glossary of the runs over given bytes. -/
def glossary (bytes : Bytes) : Glossary :=
  .make (Encoding.detect bytes).1 p.bindings p.configuration.variableFormat

/-- The context of the runs over given bytes. -/
def context (bytes : Bytes) : Context := ⟨p.glossary bytes, (Encoding.detect bytes).2⟩

/-- **How a run over given bytes ends**, whatever the sizes of its buffers are: its
operations cannot be made, or the run goes on from the stage after the byte-order mark. -/
inductive Runs (bytes : Bytes) : Stage.Outcome → Prop
  | rejected {e : ConfigError} : p.materialize (p.glossary bytes) = .error e →
      Runs bytes (.error (.config e), [])
  | ran {operations : List Operation} {o : Stage.Outcome} :
      p.materialize (p.glossary bytes) = .ok operations →
      Stage.Ends (p.context bytes) (.ofSets (operations.map Operation.tokens))
        ⟨operations, false, bytes.drop (Encoding.detect bytes).2,
          bytes.take (Encoding.detect bytes).2⟩ o →
      Runs bytes o

variable {p}

theorem Runs.unique {bytes : Bytes} {o o' : Stage.Outcome} (h : p.Runs bytes o)
    (h' : p.Runs bytes o') : o = o' := by
  cases h with
  | rejected hm =>
    cases h' with
    | rejected hm' => cases hm.symm.trans hm'; rfl
    | ran hm' => cases hm.symm.trans hm'
  | ran hm hends =>
    cases h' with
    | rejected hm' => cases hm.symm.trans hm'
    | ran hm' hends' =>
      cases hm.symm.trans hm'
      exact hends.unique hends'

theorem mem_of_mapM {g : Glossary} {conv : Converter} {o : Operation} :
    ∀ {settings : List OperationSettings} {made : List (Option Operation)},
      settings.mapM (·.materialize g conv) = .ok made → o ∈ made.filterMap id →
        ∃ s ∈ settings, s.materialize g conv = .ok (some o) := by
  intro settings
  induction settings with
  | nil => rintro made ⟨⟩ ho; cases ho
  | cons s settings ih =>
    intro made h ho
    rw [List.mapM_cons] at h
    cases hs : s.materialize g conv with
    | error cause => rw [hs] at h; cases h
    | ok first =>
      cases hrest : settings.mapM (·.materialize g conv) with
      | error cause => rw [hs, hrest] at h; cases h
      | ok rest =>
        rw [hs, hrest] at h
        cases h
        obtain ⟨x, hx, rfl : x = some o⟩ := List.mem_filterMap.1 ho
        rcases List.mem_cons.1 hx with rfl | hx
        · exact ⟨s, List.mem_cons_self, hs⟩
        · obtain ⟨s', hs', hmade⟩ := ih hrest (List.mem_filterMap.2 ⟨_, hx, rfl⟩)
          exact ⟨s', List.mem_cons_of_mem _ hs', hmade⟩

/-- Every operation of a run comes from some settings. -/
theorem mem_of_materialize {g : Glossary} {operations : List Operation}
    (h : p.materialize g = .ok operations) {o : Operation} (ho : o ∈ operations) :
    ∃ s ∈ p.configuration.operations, s.materialize g p.converter = .ok (some o) := by
  unfold materialize at h
  cases hmade : p.configuration.operations.mapM (·.materialize g p.converter) with
  | error e => rw [hmade] at h; cases h
  | ok made =>
    rw [hmade] at h
    cases h
    exact mem_of_mapM hmade ho

theorem matches_of_materialize {bytes : Bytes} {operations : List Operation}
    (h : p.materialize (p.glossary bytes) = .ok operations) {o : Operation}
    (ho : o ∈ operations) : Operation.Matches (p.context bytes) o o := by
  obtain ⟨s, -, hs⟩ := mem_of_materialize h ho
  exact Operation.matches_self _ hs

theorem twins_of_materialize {bytes : Bytes} {operations : List Operation}
    (h : p.materialize (p.glossary bytes) = .ok operations) :
    Operation.Twins (p.context bytes) operations operations :=
  List.forall₂_same.2 fun _ ho => matches_of_materialize h ho

theorem enter_session {source : Source} (hsource : source.fails = false) (target : Memory) :
    ∃ w : Window, w.At (source.unread.bytes.drop (Encoding.detect source.unread.bytes).2) ∧
      w.behind.reverse = source.unread.bytes.take (Encoding.detect source.unread.bytes).2 ∧
      Session.enter p.configuration.bufferSize source p.bindings p.configuration.variableFormat
        target = .ok (⟨w, target⟩, p.context source.unread.bytes) := by
  obtain ⟨w, henter, hw, hmark⟩ := Window.enter_spec hsource p.configuration.bufferSize
  refine ⟨w, hw, hmark, ?_⟩
  simp only [Session.enter, henter, bind, Except.bind]
  rfl

/-- A run whose operations cannot be made leaves its target as it is. -/
theorem run_of_rejected {source : Source} (hsource : source.fails = false) (target : Memory)
    {e : ConfigError} (hm : p.materialize (p.glossary source.unread.bytes) = .error e) :
    p.run source target = (.error (.config e), target) := by
  obtain ⟨w, -, -, hsession⟩ := enter_session (p := p) hsource target
  have hm' : p.materialize (p.context source.unread.bytes).glossary = .error e := hm
  simp only [run, hsession, hm']
  rfl

/-- **A run to a target in memory** goes on from the stage after the byte-order mark, which it
writes behind what the target holds. -/
theorem ends_run {source : Source} (hsource : source.fails = false) (earlier : Bytes)
    {operations : List Operation}
    (hm : p.materialize (p.glossary source.unread.bytes) = .ok operations) :
    Stage.Ends (p.context source.unread.bytes) (.ofSets (operations.map Operation.tokens))
      ⟨operations, false, source.unread.bytes.drop (Encoding.detect source.unread.bytes).2,
        earlier ++ source.unread.bytes.take (Encoding.detect source.unread.bytes).2⟩
      ((p.run source (Memory.ofBytes earlier)).1,
        (p.run source (Memory.ofBytes earlier)).2.toBytes) := by
  obtain ⟨w, hw, hmark, hsession⟩ := enter_session (p := p) hsource (Memory.ofBytes earlier)
  have hm' : p.materialize (p.context source.unread.bytes).glossary = .ok operations := hm
  have hd := Dispatch.lawful_ofSets (operations.map Operation.tokens)
  simp only [run, hsession, hm', EStateM.run]
  generalize Dispatch.ofSets (operations.map Operation.tokens) = d at hd ⊢
  -- the mark lies behind the cursor and is pending
  have hstart : RunState.Represents
      ⟨p.context source.unread.bytes, d, p.configuration.flushThreshold⟩
      (RunPlan.start operations (w.reserve d.longest)) ⟨w.reserve d.longest, .ofBytes earlier⟩
      ⟨operations, false, source.unread.bytes.drop (Encoding.detect source.unread.bytes).2,
        earlier ++ source.unread.bytes.take (Encoding.detect source.unread.bytes).2⟩ := by
    refine ⟨twins_of_materialize hm, rfl, hw.reserve _, le_max_right _ _, le_rfl, ?_⟩
    show earlier ++ (w.behind.take w.behind.length).reverse = _
    rw [List.take_length, hmark]
  have hends := RunPlan.ends_drive (σ := ⟨w.reserve d.longest, .ofBytes earlier⟩) hd hstart
  cases hx : RunPlan.drive ⟨p.context source.unread.bytes, d, p.configuration.flushThreshold⟩
      operations (⟨w.reserve d.longest, .ofBytes earlier⟩ : Session Memory) with
  | ok modified σ => rw [hx] at hends; exact hends
  | error e σ => rw [hx] at hends; exact hends

/-- **Every run over a source that does not fail** ends so, with an empty target before it. -/
theorem runs_run (source : Source) (hsource : source.fails = false) :
    p.Runs source.unread.bytes ((p.run source (Memory.ofBytes [])).1,
      (p.run source (Memory.ofBytes [])).2.toBytes) := by
  cases hm : p.materialize (p.glossary source.unread.bytes) with
  | error e =>
    rw [run_of_rejected hsource _ hm]
    exact .rejected hm
  | ok operations => exact .ran hm (ends_run hsource [] hm)

/-- **A run is determined by the bytes of its source.** -/
theorem run_eq {source : Source} (hsource : source.fails = false) {o : Stage.Outcome}
    (h : p.Runs source.unread.bytes o) :
    p.run source (Memory.ofBytes []) = (o.1, Memory.ofBytes o.2) := by
  rw [← (runs_run source hsource).unique h]
  rfl

end Processor

end Templating

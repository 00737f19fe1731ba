import Templating.Proofs.Edits

/-!
# What a run without a token leaves

A run reports a change exactly if some token of its operations stands somewhere in the input
after the byte-order mark, across code units or not: the first of these places cannot be passed,
since what comes before it is only copied. A run that reports none leaves its input, with the
byte-order mark.

* `Dispatch.match?_eq_none`: when no token begins at a place.
* `Stage.Ends.modified_iff`, `Stage.Ends.output_eq`: the same for the end of a run.
* `Processor.run_passthrough`: and for a run over a source.
-/

namespace Templating

namespace Dispatch

theorem registered_keys (sets : List (List Bytes)) :
    (registered sets).map (·.1) = sets.flatten := by
  have hset : ∀ e : List Bytes × Nat, (owned e.2 e.1).map (·.1) = e.1 := by
    intro e
    rw [owned, List.map_map]
    exact List.zipIdx_map_fst 0 e.1
  rw [registered, List.map_flatMap]
  simp only [hset]
  rw [List.flatMap_def, List.zipIdx_map_fst]

/-- **No token begins** where the dispatch of the tokens finds none. -/
theorem match?_eq_none {sets : List (List Bytes)} {text : Bytes} :
    (ofSets sets).match? text = none ↔ ∀ token ∈ sets.flatten, token ≠ [] → ¬ token <+: text := by
  rw [match?_ofSets, Option.map_eq_none_iff, longestMatch?_eq_none, ← registered_keys]
  simp only [List.forall_mem_map]

end Dispatch

namespace Stage

variable {ctx : Context} {d : Dispatch} {s : Stage} {o : Outcome} {modified : Bool}

/-- Some token begins in what is left. -/
def Meets (d : Dispatch) (s : Stage) : Prop :=
  ∃ place, place <:+ s.rest ∧ place ≠ [] ∧ d.match? place ≠ none

theorem not_meets_nil (h : s.rest = []) : ¬ s.Meets d := by
  rintro ⟨place, hplace, hne, -⟩
  rw [h] at hplace
  exact hne (List.suffix_nil.1 hplace)

/-- A byte at which no token begins can be passed. -/
theorem meets_cons {b : UInt8} {rest : Bytes} (hrest : s.rest = b :: rest)
    (hnone : d.match? (b :: rest) = none) (output : Bytes) :
    s.Meets d ↔ ({ s with rest := rest, output := output } : Stage).Meets d := by
  constructor
  · rintro ⟨place, hplace, hne, hm⟩
    rw [hrest, List.suffix_cons_iff] at hplace
    rcases hplace with rfl | hplace
    · exact absurd hnone hm
    · exact ⟨place, hplace, hne, hm⟩
  · rintro ⟨place, hplace, hne, hm⟩
    exact ⟨place, hrest ▸ hplace.trans (List.suffix_cons b rest), hne, hm⟩

theorem handled_modified {handler : Handler} {length : Nat} {s' : Stage}
    (h : s.handled ctx handler length = .ok s') : s'.modified = true := by
  unfold handled at h
  split at h
  · cases h
    rfl
  · split at h <;> cases h
    rfl

/-- **What a step does to the report**: it passes a byte at which no token begins and copies it,
or it handles a token and reports a change from then on. -/
theorem next_report {s' : Stage} (hn : s.next ctx d = .again s') :
    (s'.modified = s.modified ∧ s'.output ++ s'.rest = s.output ++ s.rest ∧
        (s.Meets d ↔ s'.Meets d)) ∨
      (s'.modified = true ∧ s.Meets d) := by
  unfold next at hn
  split at hn
  · cases hn
  · rename_i b rest hrest
    split at hn
    · rename_i hnone
      cases hn
      refine .inl ⟨rfl, ?_, meets_cons hrest hnone _⟩
      rw [hrest, List.append_assoc, List.singleton_append]
    · rename_i handler length hm
      split at hn
      · rename_i hs
        cases hn
        refine .inr ⟨handled_modified hs, b :: rest, hrest ▸ List.suffix_refl _, ?_, ?_⟩
        · exact List.cons_ne_nil _ _
        · rw [hm]
          exact Option.some_ne_none _
      · cases hn

theorem stop_report (hn : s.next ctx d = .stop o) (ho : o.1 = .ok modified) :
    modified = s.modified ∧ s.rest = [] ∧ o.2 = s.output := by
  unfold next at hn
  split at hn
  · rename_i hrest
    cases hn
    unfold result at ho
    cases hfinish : RunPlan.finish s.operations with
    | error e => rw [hfinish] at ho; cases ho
    | ok u =>
      rw [hfinish] at ho
      exact ⟨(Except.ok.inj ho).symm, hrest, rfl⟩
  · split at hn
    · cases hn
    · split at hn <;> cases hn
      cases ho

namespace Ends

/-- **A run reports a change** exactly if one has been reported before or a token begins
somewhere in what was left. -/
theorem modified_iff (h : s.Ends ctx d o) (ho : o.1 = .ok modified) :
    modified = true ↔ s.modified = true ∨ s.Meets d := by
  induction h with
  | @stops s o hn =>
    obtain ⟨rfl, hrest, -⟩ := stop_report hn ho
    have hnot : ¬ s.Meets d := not_meets_nil hrest
    exact ⟨.inl, fun h => h.resolve_right hnot⟩
  | @goesOn s s' o hn _ ih =>
    rw [ih ho]
    rcases next_report hn with ⟨hmodified, -, hmeets⟩ | ⟨hmodified, hmeets⟩
    · rw [hmodified, hmeets]
    · exact ⟨fun _ => .inr hmeets, fun _ => .inl hmodified⟩

/-- **A run that reports no change** copies what was left. -/
theorem output_eq (h : s.Ends ctx d o) (ho : o.1 = .ok false) : o.2 = s.output ++ s.rest := by
  induction h with
  | @stops s o hn =>
    obtain ⟨-, hrest, houtput⟩ := stop_report hn ho
    rw [houtput, hrest, List.append_nil]
  | @goesOn s s' o hn h ih =>
    rcases next_report hn with ⟨-, hcopied, -⟩ | ⟨hmodified, -⟩
    · rw [ih ho, hcopied]
    · -- a change that has been reported would be reported at the end, too
      have hreport := (h.modified_iff ho).2 (.inl hmodified)
      cases hreport

end Ends

/-- A token begins somewhere in what is left if it stands in it. -/
theorem meets_ofSets {sets : List (List Bytes)} : s.Meets (.ofSets sets) ↔
    ∃ token ∈ sets.flatten, token ≠ [] ∧ token <:+: s.rest := by
  constructor
  · rintro ⟨place, hplace, -, hm⟩
    rw [Ne, Dispatch.match?_eq_none] at hm
    push Not at hm
    obtain ⟨token, hmem, hne, hpre⟩ := hm
    exact ⟨token, hmem, hne, hpre.isInfix.trans hplace.isInfix⟩
  · rintro ⟨token, hmem, hne, hinfix⟩
    obtain ⟨place, hpre, hplace⟩ := List.infix_iff_prefix_suffix.1 hinfix
    refine ⟨place, hplace, ?_, fun hnone => Dispatch.match?_eq_none.1 hnone token hmem hne hpre⟩
    rintro rfl
    exact hne (List.prefix_nil.1 hpre)

end Stage

namespace Processor

/-- **A run tells whether it has met a token.** For every processor and every source over which a
run succeeds, whatever the sizes of its buffers and the replies of the source are: the run reports
a change exactly if some non-empty token of its operations, in the encoding of the source, stands
in the bytes after the byte-order mark, and without a change its output is its input. -/
theorem run_passthrough (p : Processor) {source : Source} (hsource : source.fails = false)
    {modified : Bool} (h : (p.run source (Memory.ofBytes [])).1 = .ok modified) :
    ∃ operations, p.materialize (p.glossary source.unread.bytes) = .ok operations ∧
      (modified = true ↔ ∃ token ∈ operations.flatMap Operation.tokens, token ≠ [] ∧
        token <:+: source.unread.bytes.drop (Encoding.detect source.unread.bytes).2) ∧
      (modified = false →
        (p.run source (Memory.ofBytes [])).2.toBytes = source.unread.bytes) := by
  cases hm : p.materialize (p.glossary source.unread.bytes) with
  | error e =>
    rw [run_of_rejected hsource _ hm] at h
    cases h
  | ok operations =>
    have hends := ends_run hsource [] hm
    refine ⟨operations, rfl, ?_, ?_⟩
    · rw [hends.modified_iff h, Stage.meets_ofSets, List.flatMap_def]
      exact or_iff_right Bool.false_ne_true
    · rintro rfl
      have houtput := hends.output_eq h
      rwa [List.nil_append, List.take_append_drop] at houtput

/-- `a` across the units of UTF-16, in a source that is read byte by byte: the low byte of one
unit and the high byte of the next. The run reports a change, and none without `a`. -/
theorem run_passthrough_across_units :
    let p : Processor := ⟨⟨Configuration.defaultFormat,
      [.replacements ⟨"a", "b"⟩, .region ⟨"abc", "c", true, false, true⟩], 1, 1⟩, .empty, .standard⟩
    let replies : List Reply := [.upTo 1 Nat.one_pos, .interrupted, .upTo 1 Nat.one_pos]
    let source (low : UInt8) : Source :=
      ⟨.ofBytes [0xFF, 0xFE, 0x00, low, 0x00, 0x62], replies, false⟩
    ((source 0x61).fails = false ∧ (source 0x60).fails = false) ∧
      (∃ operations, p.materialize (p.glossary (source 0x61).unread.bytes) = .ok operations ∧
        ∃ token ∈ operations.flatMap Operation.tokens, token ≠ [] ∧
          token <:+: [0x00, 0x61, 0x00, 0x62]) ∧
      (p.run (source 0x60) (Memory.ofBytes [])).2.toBytes = (source 0x60).unread.bytes := by
  intro p replies source
  have hmet : (p.run (source 0x61) (Memory.ofBytes [])).1 = .ok true := by decide +kernel
  have hnone : (p.run (source 0x60) (Memory.ofBytes [])).1 = .ok false := by decide +kernel
  obtain ⟨operations, hm, hiff, -⟩ := run_passthrough p rfl hmet
  obtain ⟨-, -, -, houtput⟩ := run_passthrough p rfl hnone
  exact ⟨⟨rfl, rfl⟩, ⟨operations, hm, hiff.1 rfl⟩, houtput rfl⟩

end Processor

end Templating

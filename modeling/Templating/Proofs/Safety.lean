import Templating.Proofs.FailingSource

/-!
# What can go wrong in a run

Once a processor has been made, little is left that can go wrong. The configuration is not
questioned again, nothing is looked up that is not there, and the only errors are those of
conditional blocks and of the source.

* `Processor.raises_of_processBytes`: the errors of a run in memory.
* `Processor.run_failing`: what a run over a source that fails returns.
* `Processor.safe_of_make`: both, and that every state of a run is in bounds.
-/

namespace Templating

namespace Processor

variable {c : Configuration} {v : Variables} {conv : Converter} {ambient : Ambient} {p : Processor}

theorem raises_of_processBytes (hvalid : p.configuration.validate = .ok ()) {input : Bytes}
    {e : Error} (h : p.processBytes input = .error e) :
    ∃ s ∈ p.configuration.operations, s.Raises e := by
  have hrun : (p.run (Source.ofBytes input) (Memory.ofBytes [])).1 = .error e := by
    unfold processBytes at h
    cases hx : p.run (Source.ofBytes input) (Memory.ofBytes []) with
    | mk result target =>
      rw [hx] at h
      cases result with
      | ok modified => cases h
      | error e' =>
        cases h
        rfl
  exact raises_of_run hvalid rfl hrun

/-- **A run over a source that fails** returns an error: the failure, or one that every run over
what the source has given, and any more, returns as well. -/
theorem run_failing {source : Source} (hfails : source.fails = true) {τ : Type} [Target τ]
    (target : τ) : ∃ e target', p.run source target = (.error e, target') ∧
      (e = .io .failed ∨ ∀ source' : Source, source.unread.bytes <+: source'.unread.bytes →
        p.run source' target = (.error e, target')) := by
  obtain ⟨e, target', hrun⟩ := p.run_doomed hfails target
  refine ⟨e, target', hrun, ?_⟩
  by_cases he : e = .io .failed
  · exact .inl he
  · refine .inr fun source' hbegins => ?_
    rcases run_begins (p := p) hfails target hbegins with hfailed | hsame
    · rw [hrun] at hfailed
      exact absurd (Except.error.inj hfailed) he
    · rw [hsame, hrun]

/-- Into a target in memory, what is not the failure is an error of an operation. -/
theorem raises_of_run_failing (hvalid : p.configuration.validate = .ok ()) {source : Source}
    (hfails : source.fails = true) {target : Memory} {e : Error}
    (h : (p.run source target).1 = .error e) (he : e ≠ .io .failed) :
    ∃ s ∈ p.configuration.operations, s.Raises e := by
  obtain ⟨e', target', hrun, hfailed | hsame⟩ := p.run_failing hfails target
  · rw [hrun] at h
    exact absurd ((Except.error.inj h).symm.trans hfailed) he
  · rw [hrun] at h
    cases h
    -- the run over the same bytes, from a source that ends after them, meets the same error
    have hended : (p.run (Source.ofBytes source.unread.bytes)
        (Memory.ofBytes target.toBytes)).1 = .error e := by
      have hsame' := hsame (Source.ofBytes source.unread.bytes) (List.prefix_refl _)
      rw [Memory.ofBytes_toBytes, hsame']
    exact raises_of_run hvalid rfl hended

/-- **Runs of a processor that has been made.** An error of a run in memory is one of its
conditional blocks: an expression that fails or, only in strict mode, blocks that are not
balanced. Every state of every run is in bounds. And a run over a source that fails never
succeeds: it returns the failure, or an error of its conditional blocks that was met before, so
that all runs over an input with the same beginning return it too. -/
theorem safe_of_make (hp : make c v conv ambient = .ok p) :
    (∀ (input : Bytes) (e : Error), p.processBytes input = .error e →
      ∃ s ∈ c.operations, s.Raises e) ∧
    (∀ (source : Source) {τ : Type} [Target τ] (target : τ) (plan : RunPlan) (r : RunState)
      (σ : Session τ), p.Visits source target plan r σ → r.InBounds plan σ) ∧
    ∀ source : Source, source.fails = true →
      (∀ {τ : Type} [Target τ] (target : τ), ∃ e target',
        p.run source target = (.error e, target') ∧
          (e = .io .failed ∨ ∀ source' : Source,
            source.unread.bytes <+: source'.unread.bytes →
              p.run source' target = (.error e, target'))) ∧
      ∀ (target : Memory) (e : Error), (p.run source target).1 = .error e →
        e = .io .failed ∨ ∃ s ∈ c.operations, s.Raises e := by
  obtain ⟨hvalid, rfl, -⟩ := make_ok hp
  refine ⟨fun _ _ h => raises_of_processBytes hvalid h,
    fun _ _ _ _ _ _ _ hvisits => hvisits.inBounds, fun source hfails =>
      ⟨fun target => run_failing hfails target, fun target e h => ?_⟩⟩
  by_cases he : e = .io .failed
  · exact .inl he
  · exact .inr (raises_of_run_failing hvalid hfails h he)

/-- Strict blocks: an input that leaves one open, and a source that fails behind a marker outside
of any block. -/
theorem safe_of_make_strict :
    let c : Configuration := ⟨Configuration.defaultFormat,
      [.conditionals ⟨["#if"], [], ["#else"], ["#end"], true, false, "C++", [], true⟩], 1, 1⟩
    let v := Variables.ofList [("A", .bool true)]
    let p : Processor := ⟨c, v, .standard⟩
    let source : Source := ⟨.ofBytes (Encoding.utf8.encode "b\n#end\n#if"), [], true⟩
    make c v .standard ⟨⟨0, 0⟩, fun _ => 0⟩ = .ok p ∧
      p.processBytes (Encoding.utf8.encode "#if A\nb") = .error (.unbalanced (.unclosed 1)) ∧
      (∃ s ∈ c.operations, s.Raises (.unbalanced (.unclosed 1))) ∧
      source.fails = true ∧
      ∀ source' : Source, source.unread.bytes <+: source'.unread.bytes →
        (p.run source' (Memory.ofBytes [])).1 = .error (.unbalanced (.orphan .closing)) := by
  intro c v p source
  have hmake : make c v .standard ⟨⟨0, 0⟩, fun _ => 0⟩ = .ok p := by
    have hvalid : c.validate = .ok () := by decide
    simp only [make, hvalid]
    rfl
  have hopen : p.processBytes (Encoding.utf8.encode "#if A\nb") =
      .error (.unbalanced (.unclosed 1)) := by decide +kernel
  have horphan : (p.run source (Memory.ofBytes [])).1 =
      .error (.unbalanced (.orphan .closing)) := by decide +kernel
  obtain ⟨herrors, -, hfailing⟩ := safe_of_make hmake
  refine ⟨hmake, hopen, herrors _ _ hopen, rfl, fun source' hbegins => ?_⟩
  obtain ⟨e, target', hrun, hfailed | hsame⟩ := (hfailing source rfl).1 (Memory.ofBytes [])
  · rw [hrun] at horphan
    rw [hfailed] at horphan
    cases horphan
  · rw [hrun] at horphan
    rw [hsame source' hbegins]
    exact horphan

end Processor

end Templating

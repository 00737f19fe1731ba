import Templating.Proofs.Processing

/-!
# Sizes of buffers do not matter

How much of a source is held at once, how often the target is flushed, into which
pieces a source cuts its bytes and how often it is interrupted: none of this can be
told from what a run leaves.

* `Processor.runs_sized`: the end of a run does not speak of sizes.
* `Processor.run_independent`: any two choices of sizes and replies give the same run.
-/

namespace Templating

/-- The configuration with other sizes. -/
def Configuration.sized (c : Configuration) (bufferSize flushThreshold : Nat) : Configuration :=
  { c with bufferSize := bufferSize, flushThreshold := flushThreshold }

namespace Processor

/-- The processor with other sizes. -/
def sized (p : Processor) (bufferSize flushThreshold : Nat) : Processor :=
  { p with configuration := p.configuration.sized bufferSize flushThreshold }

theorem runs_sized {p : Processor} {bufferSize flushThreshold : Nat} {bytes : Bytes}
    {o : Stage.Outcome} (h : (p.sized bufferSize flushThreshold).Runs bytes o) :
    p.Runs bytes o := by
  cases h with
  | rejected hm => exact .rejected hm
  | ran hm hends => exact .ran hm hends

/-- A source that does not fail leads to the same run whatever the sizes are and however it
replies. -/
theorem run_sized (p : Processor) (bytes : Bytes) (b f b' f' : Nat)
    (replies replies' : List Reply) :
    (p.sized b f).run ⟨.ofBytes bytes, replies, false⟩ (Memory.ofBytes []) =
      (p.sized b' f').run ⟨.ofBytes bytes, replies', false⟩ (Memory.ofBytes []) := by
  have h := runs_sized (runs_run (p := p.sized b f) ⟨.ofBytes bytes, replies, false⟩ rfl)
  have h' := runs_sized (runs_run (p := p.sized b' f') ⟨.ofBytes bytes, replies', false⟩ rfl)
  have heq := h.unique h'
  obtain ⟨hresult, htarget⟩ := Prod.mk.inj heq
  exact Prod.ext hresult (congrArg Memory.ofBytes htarget)

/-- Valid sizes are all alike to a processor that is made. -/
theorem make_sized (c : Configuration) (v : Variables) (conv : Converter) (ambient : Ambient)
    {b f : Nat} (hb : 0 < b) (hf : 0 < f) : make (c.sized b f) v conv ambient =
      (make (c.sized 1 1) v conv ambient).map fun p => p.sized b f := by
  have hvalid : (c.sized b f).validate = (c.sized 1 1).validate := by
    simp only [Configuration.validate, Configuration.sized, Nat.ne_of_gt hb, Nat.ne_of_gt hf,
      Nat.one_ne_zero, if_false]
    rfl
  unfold make
  rw [hvalid]
  cases (c.sized 1 1).validate with
  | error e => rfl
  | ok _ =>
    show (layerMacros ambient conv c.operations v >>= _) =
      Except.map _ (layerMacros ambient conv c.operations v >>= _)
    cases layerMacros ambient conv c.operations v <;> rfl

/-- **Buffers, chunks and flushes do not matter.** For every configuration with valid sizes and
every input, all choices of buffer size, flush threshold and replies of a source that does not
fail give the same: the same error of the configuration or of its macros, or runs with the
same result and the same output. -/
theorem run_independent (c : Configuration) (v : Variables) (conv : Converter) (ambient : Ambient)
    (bytes : Bytes) {b f b' f' : Nat} (hb : 0 < b) (hf : 0 < f) (hb' : 0 < b') (hf' : 0 < f')
    (replies replies' : List Reply) :
    (make (c.sized b f) v conv ambient).map
        (·.run ⟨.ofBytes bytes, replies, false⟩ (Memory.ofBytes [])) =
      (make (c.sized b' f') v conv ambient).map
        (·.run ⟨.ofBytes bytes, replies', false⟩ (Memory.ofBytes [])) := by
  rw [make_sized c v conv ambient hb hf, make_sized c v conv ambient hb' hf']
  cases make (c.sized 1 1) v conv ambient with
  | error e => rfl
  | ok p => exact congrArg Except.ok (run_sized p bytes b f b' f' replies replies')

/-- A token that a buffer of one byte, filled byte by byte with interruptions, cuts in two. -/
theorem run_independent_split_token :
    ((0 < 1 ∧ 0 < 1) ∧ 0 < 4096 ∧ 0 < 512) ∧
    (make (Configuration.sized
          ⟨Configuration.defaultFormat, [.replacements ⟨"ab", "x"⟩], 1, 1⟩ 1 1)
        .empty .standard ⟨⟨0, 0⟩, fun _ => 0⟩).map
        (·.run ⟨.ofBytes [97, 98, 97], [.upTo 1 Nat.one_pos, .interrupted, .upTo 1 Nat.one_pos],
          false⟩ (Memory.ofBytes [])) =
      (make (Configuration.sized
          ⟨Configuration.defaultFormat, [.replacements ⟨"ab", "x"⟩], 1, 1⟩ 4096 512)
        .empty .standard ⟨⟨0, 0⟩, fun _ => 0⟩).map
        (·.run ⟨.ofBytes [97, 98, 97], [], false⟩ (Memory.ofBytes [])) :=
  ⟨⟨⟨by decide, by decide⟩, by decide, by decide⟩,
    run_independent
      ⟨Configuration.defaultFormat, [.replacements ⟨"ab", "x"⟩], 1, 1⟩ .empty .standard
      ⟨⟨0, 0⟩, fun _ => 0⟩ [97, 98, 97] (by decide) (by decide) (by decide) (by decide) _ _⟩

end Processor

end Templating

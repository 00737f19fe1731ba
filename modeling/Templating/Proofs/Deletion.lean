import Templating.Proofs.Edits

/-!
# Conditionals and regions only delete

What a step appends to the output it takes off the input. A step that copies a byte appends
this byte, and one that handles a marker appends nothing, so the output of a run is made of
bytes of its input, in their order.

* `Operation.rest_handle`: handling a token only takes bytes off the input.
* `Stage.next_taken`: what a step appends is among the bytes that it takes.
* `Stage.Ends.sublist`: so the output of a run is a subsequence of its input.
-/

namespace Templating

/-! ## The input that is left -/

namespace Window

theorem rest_step (w : Window) (count : Nat) : (w.step count).rest <:+ w.rest := by
  refine ⟨w.ahead.bytes.take count, ?_⟩
  simp only [rest, step, Tape.bytes_drop]
  rw [← List.append_assoc, List.take_append_drop]

theorem rest_fill (w : Window) : (stateOf (fill w)).rest = w.rest := by
  obtain ⟨hbytes, hrest, -, -⟩ := w.source.pull_spec (w.capacity - w.length)
  -- what has been pulled moves from the source into the window
  have htopped : w.topped.rest = w.rest := by
    simp only [rest, topped, Tape.bytes_append, hbytes, hrest, List.append_assoc,
      List.take_append_drop]
  rw [fill_eq]
  split
  · rfl
  · split <;> exact htopped

theorem rest_refill (w : Window) (kept : Tape) :
    (stateOf (refill kept w)).rest = kept.bytes ++ w.source.unread.bytes := by
  rw [stateOf_refill, rest_fill]
  rfl

/-- What is left before a window is the end of some bytes. -/
def Within (bytes : Bytes) (w : Window) : Prop := w.rest <:+ bytes

/-- No change of a window gives back what it has taken off the input. -/
theorem descends_within (bytes : Bytes) : Descends (lack (Within bytes)) where
  step w count := lack_le_lack.2 fun h => (w.rest_step count).trans h
  reserve _ _ := le_rfl
  refillAhead w := lack_le_lack.2 fun h => by
    show (stateOf (refill w.ahead w)).rest <:+ bytes
    rw [rest_refill]
    exact h
  renew w := lack_le_lack.2 fun h => by
    show (stateOf (refill .empty w)).rest <:+ bytes
    rw [rest_refill]
    exact (List.suffix_append _ _).trans h

end Window

/-- **Handling a token** only takes bytes off the input. -/
theorem Operation.rest_handle (ctx : Context) (token : Nat) (o : Operation) (w : Window)
    (target : Memory) :
    (stateOf (o.handle ctx token (⟨w, target⟩ : Session Memory))).window.rest <:+ w.rest := by
  have hshrinks := shrinks_handle (τ := Memory) (Window.descends_within w.rest) ctx token o
  have hle : lack (Window.Within w.rest)
      (stateOf (o.handle ctx token (⟨w, target⟩ : Session Memory))).window ≤
        lack (Window.Within w.rest) w := hshrinks ⟨w, target⟩
  have hkept := lack_le_lack.1 hle
  exact hkept (List.suffix_refl _)

/-! ## Operations that append nothing -/

/-- Whether an operation never writes a text of its own: it deletes, or it has only set
variables. -/
def OperationSettings.deletes : OperationSettings → Bool
  | conditionals _ | region _ | macros _ => true
  | replacements _ | variableExpansion => false

namespace Operation

/-- An operation that only deletes: none of its tokens makes it append anything. -/
def Deletes : Operation → Prop
  | conditional _ | region _ => True
  | replacement _ | expansion _ => False

theorem deletes_fresh (o : Operation) : o.fresh.Deletes ↔ o.Deletes := by cases o <;> exact Iff.rfl

theorem Deletes.appended {o : Operation} (h : o.Deletes) (g : Glossary) (token : Nat) :
    (o.edit g token).appended = [] := by
  cases o with
  | conditional c => rfl
  | region r => rfl
  | replacement r => exact h.elim
  | expansion names => exact h.elim

theorem deletes_of_materialize {s : OperationSettings} {g : Glossary} {conv : Converter}
    {o : Operation} (hs : s.deletes = true) (h : s.materialize g conv = .ok (some o)) :
    o.Deletes := by
  cases OperationSettings.makes_of_materialize h with
  | conditionals | region => exact trivial
  | replacements | variableExpansion => cases hs

end Operation

theorem Edit.apply_sublist (g : Glossary) (edit : Edit) (text : Bytes) :
    (edit.apply g text).Sublist (text ++ edit.appended) :=
  (edit.policy.residue_prefix g text).sublist.append_right _

/-! ## Steps and runs -/

namespace Stage

variable {ctx : Context} {d : Dispatch} {s : Stage}

/-- The owner of a token only takes bytes off the input. -/
theorem handled_rest {handler : Handler} {length : Nat} {s' : Stage}
    (h : s.handled ctx handler length = .ok s') : s'.rest <:+ s.rest := by
  have hdropped : s.rest.drop length <:+ s.rest := List.drop_suffix _ _
  simp only [handled] at h
  cases ho : s.operations[handler.operation]? with
  | none =>
    rw [ho] at h
    cases h
    exact hdropped
  | some o =>
    have hrest := o.rest_handle ctx handler.token (.whole (s.rest.drop length))
      (.ofBytes s.output)
    rw [(Window.at_whole _).rest_eq] at hrest
    simp only [ho] at h
    cases hx : o.handle ctx handler.token
        (⟨.whole (s.rest.drop length), .ofBytes s.output⟩ : Session Memory) with
    | error e σ => rw [hx] at h; cases h
    | ok x σ =>
      rw [hx] at h hrest
      cases h
      exact hrest.trans hdropped

/-- At a token nothing is appended. -/
theorem appended_of_match (hd : ∀ o ∈ s.operations, o.Deletes) {found : Handler × Nat}
    (hm : d.match? s.rest = some found) : (s.edit ctx.glossary d).appended = [] := by
  cases hrest : s.rest with
  | nil => simp only [edit, hrest]
  | cons b rest =>
    rw [hrest] at hm
    simp only [edit, hrest, hm]
    cases ho : s.operations[found.1.operation]? with
    | none => rfl
    | some o => exact (hd o (List.mem_of_getElem? ho)).appended _ _

/-- **What a step appends is among the bytes that it takes** off the input. -/
theorem next_taken (hd : ∀ o ∈ s.operations, o.Deletes) {s' : Stage}
    (hn : s.next ctx d = .again s') : ∃ taken, s.rest = taken ++ s'.rest ∧
      (s.edit ctx.glossary d).appended.Sublist taken := by
  cases hrest : s.rest with
  | nil => simp only [next, hrest] at hn; cases hn
  | cons b rest =>
    cases hm : d.match? (b :: rest) with
    | none =>
      simp only [next, hrest, hm, Turn.again.injEq] at hn
      subst hn
      simp only [edit, hrest, hm]
      exact ⟨[b], rfl, List.Sublist.refl _⟩
    | some found =>
      rw [appended_of_match hd (hrest ▸ hm)]
      simp only [next, hrest, hm] at hn
      cases hx : s.handled ctx found.1 found.2 with
      | error failure => rw [hx] at hn; cases hn
      | ok s'' =>
        rw [hx] at hn
        cases hn
        obtain ⟨taken, htaken⟩ := handled_rest hx
        exact ⟨taken, by rw [htaken, hrest], List.nil_sublist _⟩

theorem next_stop_appended (hd : ∀ o ∈ s.operations, o.Deletes) {o : Outcome}
    (hn : s.next ctx d = .stop o) : (s.edit ctx.glossary d).appended = [] := by
  cases hrest : s.rest with
  | nil => simp only [edit, hrest]
  | cons b rest =>
    cases hm : d.match? (b :: rest) with
    | none => simp only [next, hrest, hm] at hn; cases hn
    | some found => exact appended_of_match hd (hrest ▸ hm)

/-- An edit of the text above the floor, seen on the whole output. -/
theorem edited_sublist (g : Glossary) (edit : Edit) (floor : Nat) (output : Bytes) :
    (output.take floor ++ edit.apply g (output.drop floor)).Sublist
      (output ++ edit.appended) := by
  have h := (edit.apply_sublist g (output.drop floor)).append_left (output.take floor)
  rwa [← List.append_assoc, List.take_append_drop] at h

/-- **A run of operations that only delete** ends with a subsequence of what it has written and
of what was left. -/
theorem Ends.sublist (hg : ctx.glossary.Made) {o : Outcome} (h : s.Ends ctx d o)
    (hs : s.Sound ctx) (hd : ∀ o ∈ s.operations, o.Deletes) :
    o.2.Sublist (s.output ++ s.rest) := by
  induction h with
  | @stops s o hn =>
    have hedited := edited_sublist ctx.glossary (s.edit ctx.glossary d) ctx.floor s.output
    rw [← (next_stop hg hs hn).1, next_stop_appended hd hn, List.append_nil] at hedited
    exact hedited.trans (List.sublist_append_left _ _)
  | @goesOn s s' o hn _ ih =>
    have hlater := ih (hs.next hg hn) (forall_next Operation.deletes_fresh hg hs hn hd)
    obtain ⟨-, houtput, -⟩ := next_again hg hs hn
    obtain ⟨taken, hrest, happended⟩ := next_taken hd hn
    have hedited := edited_sublist ctx.glossary (s.edit ctx.glossary d) ctx.floor s.output
    have hstep : s'.output.Sublist (s.output ++ taken) :=
      houtput ▸ hedited.trans (happended.append_left _)
    rw [hrest, ← List.append_assoc]
    exact hlater.trans (hstep.append_right _)

end Stage

namespace Processor

variable {p : Processor}

theorem deletes_of_materialize {g : Glossary} {operations : List Operation}
    (hs : ∀ s ∈ p.configuration.operations, s.deletes = true)
    (h : p.materialize g = .ok operations) : ∀ o ∈ operations, o.Deletes := by
  intro o ho
  obtain ⟨s, hmem, hmade⟩ := mem_of_materialize h ho
  exact Operation.deletes_of_materialize (hs s hmem) hmade

/-- **Conditionals and regions only delete.** With such operations alone, in any number and
with any settings, a run over any source leaves a subsequence of the bytes of the source: none
is invented, given twice or moved, whether the run succeeds or not. -/
theorem run_sublist (p : Processor) (hs : ∀ s ∈ p.configuration.operations, s.deletes = true)
    (source : Source) (hsource : source.fails = false) :
    (p.run source (Memory.ofBytes [])).2.toBytes.Sublist source.unread.bytes := by
  cases hm : p.materialize (p.glossary source.unread.bytes) with
  | error e =>
    rw [run_of_rejected hsource _ hm]
    exact List.nil_sublist _
  | ok operations =>
    have hsublist := (ends_run hsource [] hm).sublist (p.made_glossary _) (sound_entered hm)
      (deletes_of_materialize hs hm)
    rwa [List.nil_append, List.take_append_drop] at hsublist

/-- A block in a region: markers go with their blanks or lines, and a branch with them. -/
theorem run_sublist_nested :
    let p : Processor := ⟨⟨Configuration.defaultFormat,
      [.conditionals ⟨["#if"], [], ["#else"], ["#end"], true, false, "C++", [], true⟩,
        .region ⟨"[", "]", true, false, true⟩], 1, 1⟩, .ofList [("A", .bool false)], .standard⟩
    let source := Source.ofBytes (Encoding.utf8.encode "a [\n#if A\nb\n#else\nc\n#end\nd] ")
    ((∀ s ∈ p.configuration.operations, s.deletes = true) ∧ source.fails = false) ∧
      (p.run source (Memory.ofBytes [])).1.toOption = some true ∧
      (p.run source (Memory.ofBytes [])).2.toBytes = Encoding.utf8.encode "a\nc\nd" ∧
      (Encoding.utf8.encode "a\nc\nd").Sublist source.unread.bytes := by
  intro p source
  have houtput : (p.run source (Memory.ofBytes [])).2.toBytes =
      Encoding.utf8.encode "a\nc\nd" := by decide +kernel
  have hsublist := run_sublist p (by decide) source rfl
  rw [houtput] at hsublist
  exact ⟨⟨by decide, rfl⟩, by decide +kernel, houtput, hsublist⟩

end Processor

end Templating

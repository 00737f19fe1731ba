import Templating.Proofs.Cutting
import Templating.Proofs.FailingSource

/-!
# Loops end by themselves

Every loop has a bound on its turns, and is never stopped by it: from every state, whatever a source
gives and a target does, some turn is the last one or fails. So the same loop without a bound comes
to the same end.

* `Finishes`: a loop without a bound, turn by turn.
* `finishes_loop`: it ends where turns that go on lower a measure.
* `Context.LoopsEnd`, `Operation.LoopsEnd`: the loops that an operation runs end by themselves.
* `Operation.loopsEnd`: **so they do for every operation** that has been made for a run.
-/

namespace Templating

section Loops

variable {ε σ α β : Type} {body : α → EStateM ε σ (Turn α β)} {spent : α → β}

/-- **A loop without a bound**: turn by turn, until one of them stops or fails. -/
inductive Finishes (body : α → EStateM ε σ (Turn α β)) : α → σ → EStateM.Result ε σ β → Prop
  | stop {a : α} {s s' : σ} {b : β} : body a s = .ok (.stop b) s' → Finishes body a s (.ok b s')
  | fail {a : α} {s s' : σ} {e : ε} : body a s = .error e s' → Finishes body a s (.error e s')
  | again {a a' : α} {s s' : σ} {x : EStateM.Result ε σ β} : body a s = .ok (.again a') s' →
      Finishes body a' s' x → Finishes body a s x

/-- **A bound that is never met**: it exceeds a measure that every turn that goes on lowers. -/
theorem finishes_loop {μ : α → σ → Nat}
    (h : ∀ a s a' s', body a s = .ok (.again a') s' → μ a' s' < μ a s) (bound : Nat) :
    ∀ a s, μ a s < bound → Finishes body a s (loop body spent bound a s) := by
  induction bound with
  | zero => intro a s hlt; omega
  | succ bound ih =>
    intro a s hlt
    rw [loop_succ]
    cases hx : body a s with
    | error e s' => exact .fail hx
    | ok turn s' =>
      cases turn with
      | stop b => exact .stop hx
      | again a' =>
        have hless := h a s a' s' hx
        exact .again hx (ih a' s' (by omega))

theorem finishes_of_spends {μ : σ → Nat} (h : ∀ a, Spends μ Turn.GoesOn (body a)) {bound : Nat}
    {a : α} {s : σ} (hlt : μ s < bound) : Finishes body a s (loop body spent bound a s) :=
  finishes_loop (μ := fun _ s => μ s) (fun a s _ s' hx => h a s _ s' hx trivial) bound a s hlt

/-- An action that is a loop from some start, and needs no bound from any state. -/
def Concludes (body : α → EStateM ε σ (Turn α β)) (start : α) (m : EStateM ε σ β) : Prop :=
  ∀ s, Finishes body start s (m s)

end Loops

/-! ## Moving on in a window -/

namespace Window

variable {table : TokenTable}

/-- A stretch that is not the last one covers something, or shows something where nothing was
ahead. -/
theorem advanceTurn_again {count count' : Nat} {w w' : Window}
    (h : advanceTurn count w = .ok (.again count') w') :
    0 < count' ∧ count' = count - w.ahead.length ∧ 0 < w'.ahead.length := by
  simp only [advanceTurn, bind_apply, get_apply, set_apply, if_apply, pure_apply] at h
  split at h
  · cases h
  · rename_i hcovered
    cases hx : refillAhead (w.step (min count w.ahead.length)) with
    | error e w₁ =>
      rw [hx] at h
      cases h
    | ok more w₁ =>
      rw [hx] at h
      cases more with
      | false => cases h
      | true =>
        cases h
        exact ⟨by omega, by omega, (refillAhead_ok hx).2.2 rfl⟩

theorem concludes_advance (count : Nat) : Concludes advanceTurn count (advance count) := by
  intro w
  -- only the first stretch may cover nothing
  refine finishes_loop
    (μ := fun count w => min count (count - 1 + if w.ahead.length = 0 then 1 else 0)) ?_
    (count + 1) count w (Nat.lt_succ_of_le (Nat.min_le_left _ _))
  intro count w count' w' h
  obtain ⟨hpos, heq, hahead⟩ := advanceTurn_again h
  simp only [if_neg (Nat.ne_of_gt hahead)]
  split <;> omega

theorem concludes_seekUntil (table : TokenTable) (consume : Bool) :
    Concludes (seekTurn table consume) () (seekUntil table consume) := fun w =>
  finishes_of_spends (spends_seekTurn_search consume) w.searches_lt

theorem concludes_seekWhile (ht : table.Lawful) :
    Concludes (skipTurn table) () (seekWhile table) := fun _ =>
  finishes_of_spends (spends_skipTurn ht) (Nat.lt_succ_self _)

end Window

/-! ## Reading a condition -/

namespace Lexicon

variable {lex : Lexicon}

theorem concludes_quoted (ht : lex.table.Lawful) (quote : Nat) :
    Concludes (lex.quotedTurn quote) []
      (Scanner.loop (lex.quotedTurn quote) (·, false) [] : EStateM Error Window _) := fun _ =>
  finishes_of_spends (spends_quotedTurn_window ht quote) (Nat.lt_succ_self _)

theorem concludes_read (ht : lex.table.Lawful) : Concludes lex.turn Progress.start
    (Scanner.loop lex.turn id Progress.start : EStateM Error Window _) := fun _ =>
  finishes_of_spends (spends_turn_window ht) (Nat.lt_succ_self _)

end Lexicon

/-! ## Skipping -/

/-- A turn of skipping goes on past a marker. -/
theorem Conditional.concludes_skip {c : Conditional} (hc : c.scan.Lawful) (sought : Sought) :
    Concludes (c.skipTurn sought) 0 (c.skip sought) := fun _ =>
  finishes_of_spends (fun depth => (spends_skipTurn hc depth).weaken (by rintro _ h rfl; exact h))
    (Nat.lt_succ_self _)

theorem Region.concludes_skip {r : Region} (hr : r.markers.Lawful) :
    Concludes r.skipTurn 0 r.skip := fun _ =>
  finishes_of_spends (r.spends_skipTurn hr) (Nat.lt_succ_self _)

/-! ## Looking back -/

namespace Target

variable {τ : Type} [Target τ] {table : TokenTable} {unit floor : Nat}

/-- **A target that is read in full**: a read gives as many bytes as it is asked for, or fails. -/
def ReadsInFull (τ : Type) [Target τ] : Prop :=
  ∀ (offset count : Nat) (t t' : τ) (bytes : Bytes),
    readAt offset count t = .ok bytes t' → bytes.length = count

theorem ReadsInFull.ensures (hτ : ReadsInFull τ) (offset count : Nat) :
    Ensures (fun _ => True) (readAt offset count : EStateM IoError τ Bytes)
      (fun bytes _ => bytes.length = count) (fun _ => True) := by
  intro t _
  cases hread : (readAt offset count : EStateM IoError τ Bytes) t with
  | ok bytes t' => exact hτ offset count t t' bytes hread
  | error e t' => trivial

/-- A turn that goes on looks before the stretch that it has read. -/
theorem ensures_backTurn (stop : Nat) : Ensures (fun _ => True)
    (backTurn table unit floor stop : EStateM IoError τ _)
    (fun turn _ => ∀ next, turn = .again next → next < stop) (fun _ => True) := by
  have hstretch : 0 < stretch := by decide
  unfold backTurn
  split
  · exact Ensures.pure fun _ _ => nofun
  · rename_i hstop
    refine (Ensures.any _).bind fun bytes => ?_
    split
    · exact Ensures.pure fun _ _ => nofun
    · refine Ensures.pure fun _ _ next hnext => ?_
      rw [← Turn.again.inj hnext]
      exact max_lt (Nat.sub_lt (by omega) hstretch) (by omega)

/-- A turn that goes on has stripped something. -/
theorem ensures_stripTurn (hτ : ReadsInFull τ) (stop : Nat) : Ensures (fun _ => True)
    (stripTurn table floor stop : EStateM IoError τ _)
    (fun turn _ => ∀ next, turn = .again next → next < stop) (fun _ => True) := by
  unfold stripTurn
  split
  · exact Ensures.pure fun _ _ => nofun
  · rename_i hstop
    refine (hτ.ensures _ _).bind fun bytes => ?_
    dsimp only
    split
    · exact Ensures.pure fun _ _ => nofun
    · rename_i hstripped
      refine Ensures.pure fun _ hlength next hnext => ?_
      have hle := (strip_suffix table bytes.length bytes.reverse).length_le
      rw [List.length_reverse] at hle
      rw [← Turn.again.inj hnext]
      omega

omit [Target τ] in
/-- A loop that looks before an earlier place turn by turn ends before it meets its bound. -/
theorem finishes_backwards {β : Type} {body : Nat → EStateM IoError τ (Turn Nat β)}
    {spent : Nat → β}
    (h : ∀ stop, Ensures (fun _ => True) (body stop)
      (fun turn _ => ∀ next, turn = .again next → next < stop) (fun _ => True))
    (total : Nat) (t : τ) : Finishes body total t (loop body spent (total + 1) total t) := by
  refine finishes_loop (μ := fun stop _ => stop) (fun stop t next t' hx => ?_) _ _ _
    (Nat.lt_succ_self _)
  have hturn := h stop t trivial
  rw [hx] at hturn
  exact hturn next rfl

end Target

theorem Memory.length_of_read? {content : Array UInt8} {offset count : Nat} {bytes : Bytes}
    (h : read? content offset count = some bytes) : bytes.length = count := by
  rw [read?] at h
  split at h
  · cases h
    rw [Array.length_toList, Array.size_extract]
    omega
  · cases h

theorem Memory.length_of_read {τ : Type} {content : Array UInt8} {offset count : Nat}
    {bytes : Bytes} {t t' : τ}
    (h : (MonadExcept.ofExcept (read content offset count) : EStateM IoError τ Bytes) t =
      .ok bytes t') : bytes.length = count := by
  rw [read] at h
  cases hread : read? content offset count with
  | none =>
    rw [hread] at h
    cases h
  | some found =>
    rw [hread] at h
    cases h
    exact length_of_read? hread

theorem Memory.readsInFull : Target.ReadsInFull Memory := fun _ _ _ _ _ h => length_of_read h

theorem Recorder.readsInFull : Target.ReadsInFull Recorder :=
  fun _ _ _ _ _ h => Memory.length_of_read h

theorem Cursor.readsInFull : Target.ReadsInFull Cursor :=
  fun _ _ _ _ _ h => Memory.length_of_read h

theorem File.readsInFull : Target.ReadsInFull File := by
  intro offset count f f' bytes h
  simp only [Target.readAt, bind_apply, get_apply] at h
  cases hread : (if count = 0 then some [] else Memory.read? f.content offset count) with
  | none =>
    rw [hread] at h
    cases h
  | some found =>
    rw [hread] at h
    cases h
    by_cases hcount : count = 0
    · rw [if_pos hcount] at hread
      cases hread
      exact hcount.symm
    · rw [if_neg hcount] at hread
      exact Memory.length_of_read? hread

/-! ## Operations -/

/-- **Steps and searches for blanks end by themselves**: those in the source behind a marker, and
those in the target before it. -/
structure Context.LoopsEnd (τ : Type) [Target τ] (ctx : Context) : Prop where
  advance : ∀ count, Concludes Window.advanceTurn count (Window.advance count)
  seek : Concludes (Window.seekTurn ctx.glossary.lineEndings true) ()
    (Window.seekThrough ctx.glossary.lineEndings)
  pass : Concludes (Window.skipTurn ctx.glossary.blanks) ()
    (Window.seekWhile ctx.glossary.blanks)
  cutBack : ∀ (total : Nat) (t : τ),
    Finishes (Target.backTurn ctx.glossary.lineEndings ctx.glossary.encoding.unitWidth ctx.floor)
      total t (loop (Target.backTurn ctx.glossary.lineEndings ctx.glossary.encoding.unitWidth
        ctx.floor) (fun _ => none) (total + 1) total t)
  cutTrailing : ∀ (total : Nat) (t : τ),
    Finishes (Target.stripTurn ctx.glossary.blanks ctx.floor) total t
      (loop (Target.stripTurn ctx.glossary.blanks ctx.floor) id (total + 1) total t)
  /-- Within a stretch, no blank is left at the end. -/
  strip : ∀ reversed : Bytes,
    ctx.glossary.blanks.matchReversed?
      (Target.strip ctx.glossary.blanks reversed.length reversed) = none

theorem Context.loopsEnd {τ : Type} [Target τ] (hτ : Target.ReadsInFull τ) {ctx : Context}
    (hg : ctx.glossary.Made) : ctx.LoopsEnd τ where
  advance := Window.concludes_advance
  seek := Window.concludes_seekUntil _ true
  pass := by
    obtain ⟨e, v, format, hg⟩ := hg
    exact Window.concludes_seekWhile (hg ▸ TokenTable.lawful_ofList _)
  cutBack := Target.finishes_backwards Target.ensures_backTurn
  cutTrailing := Target.finishes_backwards (Target.ensures_stripTurn hτ)
  strip reversed := by
    obtain ⟨e, v, format, hg⟩ := hg
    rw [hg]
    exact Target.strip_stuck (Glossary.spells_blanks e v format).measured _ _ le_rfl

namespace Operation

variable {τ : Type} [Target τ] {ctx : Context}

/-- **The loops of an operation end by themselves**: reading a condition and a quoted text in it,
skipping, and going on from marker to marker. -/
def LoopsEnd (τ : Type) [Target τ] (ctx : Context) : Operation → Prop
  | .conditional c =>
    Concludes c.evaluator.lexicon.turn Lexicon.Progress.start
      (Scanner.loop c.evaluator.lexicon.turn id Lexicon.Progress.start :
        EStateM Error Window _) ∧
    (∀ quote, Concludes (c.evaluator.lexicon.quotedTurn quote) []
      (Scanner.loop (c.evaluator.lexicon.quotedTurn quote) (·, false) [] :
        EStateM Error Window _)) ∧
    Concludes (Window.seekTurn c.scan true) () (Window.seekUntil c.scan true) ∧
    (∀ sought, Concludes (c.skipTurn sought) 0 (c.skip sought)) ∧
    ∀ marker, Concludes (c.turn ctx) (marker, c.blocks)
      (c.dispatch ctx marker : EStateM Error (Session τ) _)
  | .region r =>
    Concludes (Window.seekTurn r.markers true) () (Window.seekUntil r.markers true) ∧
    Concludes r.skipTurn 0 r.skip
  | .replacement _ | .expansion _ => True

theorem loopsEnd {o : Operation} (ho : o.Ready) : o.LoopsEnd τ ctx := by
  cases o with
  | conditional c =>
    obtain ⟨hscan, hlexicon⟩ := ho
    exact ⟨Lexicon.concludes_read hlexicon, Lexicon.concludes_quoted hlexicon,
      Window.concludes_seekUntil _ _, Conditional.concludes_skip hscan, fun _ _ =>
      finishes_of_spends (c.spends_turn ctx hscan) (Nat.lt_succ_self _)⟩
  | region r => exact ⟨Window.concludes_seekUntil _ _, Region.concludes_skip ho⟩
  | replacement | expansion => trivial

end Operation

end Templating

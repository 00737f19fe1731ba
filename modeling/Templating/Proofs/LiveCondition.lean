import Templating.Proofs.Reader

/-!
# Conditions in a stream

A condition is read at the cursor of a window while its source is being processed, or from a
slice of bytes in memory. Both ways of reading answer alike, and the slice counts how far the
window has come.

* `Slice.Abreast`: a slice and a window that have come equally far.
* `Slice.lockstep_abreast`: they answer alike, and stay abreast.
* `Evaluator.evaluate_live`: a condition has the same value, or fails in the same way, and
  takes as many bytes with it.
-/

namespace Templating

namespace Slice

/-- A slice that has come as far as a window, from where a reader stands. -/
structure Abreast (r : Reader) (s : Slice) (w : Window) : Prop where
  at_rest : s.At (r.bytes.drop (r.offset + s.position))
  stands : w.Stands (r.goto (r.offset + s.position))

variable {r : Reader} {s : Slice} {w : Window}

theorem abreast_ofBytes (h : w.Stands r) : Abreast r (.ofBytes (r.bytes.drop r.offset)) w :=
  ⟨rfl, h⟩

theorem Abreast.length_rest (h : Abreast r s w) :
    s.rest.length = r.bytes.length - (r.offset + s.position) := by
  rw [s.rest.length_eq, h.at_rest, List.length_drop]

/-- A look at what comes next, which moves neither. -/
theorem simulates_look {α : Type} {n : EStateM Error Slice α} {m : EStateM IoError Window α}
    (a : Bytes → α) (hn : ∀ s : Slice, n s = .ok (a s.rest.bytes) s)
    (hm : ∀ rest, Gives (Window.At · rest) m (a rest) (Window.At · rest))
    (hslides : ∀ bytes, Shrinks (lack (Window.Slides bytes)) m) :
    Simulates (Abreast r) Eq n (liftM m : EStateM Error Window α) := by
  intro s w h
  obtain ⟨w', hok, hw'⟩ := h.stands.gives (hm _) (hslides _) h.stands.offset_le
  rw [hn, onStream_apply, hok, h.at_rest]
  exact .ok rfl ⟨h.at_rest, hw'⟩

/-- A step takes both equally far: past so many bytes, or to the end. -/
theorem simulates_step (r : Reader) (count : Nat) :
    Simulates (Abreast r) Eq (Scanner.advance count : EStateM Error Slice Unit)
      (Scanner.advance count : EStateM Error Window Unit) := by
  intro s w h
  have hle : r.offset + s.position ≤ r.bytes.length := h.stands.offset_le
  have hlen := h.length_rest
  -- the slice notes how much of the step there was to take
  obtain ⟨taken, htaken⟩ : ∃ taken, taken = min count s.rest.length := ⟨_, rfl⟩
  have hrest : (r.bytes.drop (r.offset + s.position)).drop count =
      r.bytes.drop (r.offset + (s.position + taken)) := by
    rw [List.drop_drop]
    by_cases hin : count ≤ s.rest.length
    · congr 1
      omega
    · rw [List.drop_of_length_le (by omega), List.drop_of_length_le (by omega)]
  have hstep := Window.gives_advance count (r.bytes.drop (r.offset + s.position))
  rw [hrest] at hstep
  obtain ⟨w', hok, hw'⟩ := h.stands.gives hstep
    (Window.shrinks_advance (Window.descends_slides r.bytes) count)
    (show _ ≤ r.bytes.length by omega)
  have hat : (s.drop count).At (r.bytes.drop (r.offset + (s.position + taken))) := by
    rw [← hrest, ← h.at_rest]
    rfl
  show Agree (Abreast r) Eq (.ok () (s.drop count))
    ((liftM (Window.advance count) : EStateM Error Window Unit) w)
  rw [onStream_apply, hok]
  subst htaken
  exact .ok rfl ⟨hat, hw'⟩

/-- **A slice and a window that are abreast** answer alike, and stay abreast. -/
theorem lockstep_abreast (r : Reader) {table : TokenTable} (ht : table.Lawful) :
    Scanner.Lockstep (Abreast r) table where
  peekToken := simulates_look table.match? (fun _ => rfl) (Window.gives_peekToken ht)
    fun bytes => Window.shrinks_peekToken (Window.descends_slides bytes) table
  peekByte offset := simulates_look (·[offset]?) (fun _ => rfl) (Window.gives_peekByte offset)
    fun bytes => Window.shrinks_peekByte (Window.descends_slides bytes) offset
  advance := simulates_step r
  remaining s w h := by
    have hremaining := h.stands.at_rest.remaining
    rw [List.length_drop] at hremaining
    exact h.length_rest.trans hremaining.symm

end Slice

namespace Evaluator

/-- **A condition in a stream** and the same condition in memory. Wherever a window stands, in
whatever bytes, with whatever capacity and source, an evaluator gives there what it gives on a
slice of the bytes from there on: the same value or the same failure. The window has then
moved on by as many bytes as the slice. -/
theorem evaluate_live (d : Dialect) (e : Encoding) (v : Variables) (format : String)
    (conv : Converter) (terminators : List String) {r : Reader} {w : Window} (h : w.Stands r) :
    Agree (Slice.Abreast r) Eq
      ((make d (.make e v format) conv terminators).evaluate (.ofBytes (r.bytes.drop r.offset)))
      ((make d (.make e v format) conv terminators).evaluate w) :=
  simulates_evaluate _ (Slice.lockstep_abreast r (TokenTable.lawful_ofList _)) _ w
    (Slice.abreast_ofBytes h)

/-- The condition `!A` behind `#if`, in a source that gives its first bytes one by one and is
interrupted, through a window of the least capacity. It does not hold where `A` does. -/
theorem evaluate_live_negation :
    let bytes := Encoding.utf8.encode "#if !A\nx"
    let v := Variables.empty.set "A" (.bool true)
    let g := Glossary.make .utf8 v (String.ofList placeholder)
    let e := make .logical g .standard []
    ∃ w : Window, w.Stands ⟨bytes, 3⟩ ∧
      Agree (Slice.Abreast ⟨bytes, 3⟩) Eq (e.evaluate (.ofBytes (bytes.drop 3))) (e.evaluate w) ∧
      (match (e.evaluate (.ofBytes (bytes.drop 3)) : EStateM.Result Error Slice Bool) with
        | .ok holds s => some (holds, s.position)
        | .error _ _ => none) = some (false, 3) := by
  intro bytes v g e
  -- three bytes past the start of the source
  obtain ⟨w₀, -, h₀⟩ := Window.stands_enter ⟨.ofBytes bytes,
    [.upTo 1 Nat.one_pos, .interrupted, .upTo 1 Nat.one_pos], false⟩ rfl 1
  obtain ⟨w, -, h⟩ := Window.answer_perform h₀ (.advance 3)
  exact ⟨w, h, evaluate_live .logical .utf8 v _ .standard [] h, by decide +kernel⟩

end Evaluator

end Templating

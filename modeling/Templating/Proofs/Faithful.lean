import Templating.Proofs.Simulation
import Templating.Target.Positioned

/-!
# Faithful targets

What a run relies on in its target: the bytes that it reads back are those that it has written,
less what it has cut. Only an action that succeeds has to tell the truth, since a run ends with the
first failure of its target.

* `Target.View`: how the bytes in a target are told.
* `Target.View.Faithful`: every action on the target does with them what it says.
* `Memory.faithful`, `Recorder.faithful`, `Cursor.faithful`, `File.faithful`: so do all targets of
  this library. Those with a position write over nothing as long as they stand at their end, and no
  action within the bytes moves them away from there.
* `Target.View.Dependable`: **looking back within the bytes never fails**. Nothing is known of a
  read beyond them, so what succeeds on every such target has read nothing there.
-/

namespace Templating

namespace Target

/-- How the bytes in a target are told. -/
structure View (τ : Type) where
  bytes : τ → Bytes
  /-- Whether what is written next comes after the bytes. -/
  atEnd : τ → Prop

/-- A target with some bytes, which waits for more. -/
def View.Holds {τ : Type} (view : View τ) (bytes : Bytes) (t : τ) : Prop :=
  view.bytes t = bytes ∧ view.atEnd t

/-- **A target that does what it says** wherever it succeeds. What is left of a target that fails
is not known. -/
structure View.Faithful {τ : Type} [Target τ] (view : View τ) : Prop where
  size : ∀ b, Ensures (view.Holds b) Target.size (fun n t => n = b.length ∧ view.Holds b t)
    fun _ => True
  readAt : ∀ b offset count, Ensures (view.Holds b) (Target.readAt offset count)
    (fun bytes t => bytes = (b.drop offset).take count ∧ view.Holds b t) fun _ => True
  write : ∀ b bytes, Ensures (view.Holds b) (Target.write bytes)
    (fun _ t => view.Holds (b ++ bytes) t) fun _ => True
  truncate : ∀ b n, n ≤ b.length → Ensures (view.Holds b) (Target.truncate n)
    (fun _ t => view.Holds (b.take n) t) fun _ => True
  flush : ∀ b, Ensures (view.Holds b) Target.flush (fun _ t => view.Holds b t) fun _ => True

/-- **A target that can be looked back into**: within its bytes a read gives them and a cut leaves
them, and neither fails. -/
structure View.Dependable {τ : Type} [Target τ] (view : View τ) : Prop where
  size : ∀ b, Gives (view.Holds b) Target.size b.length (view.Holds b)
  readAt : ∀ b offset count, offset + count ≤ b.length →
    Gives (view.Holds b) (Target.readAt offset count) ((b.drop offset).take count) (view.Holds b)
  truncate : ∀ b n, n ≤ b.length →
    Gives (view.Holds b) (Target.truncate n) () (view.Holds (b.take n))

end Target

/-! ### Targets in memory -/

theorem Memory.read?_eq_some {content : Array UInt8} {offset count : Nat} {bytes : Bytes}
    (h : read? content offset count = some bytes) :
    bytes = (content.toList.drop offset).take count := by
  rw [read?] at h
  split at h
  · cases h
    simp [List.extract_eq_take_drop]
  · cases h

/-- What comes back from an array is what is there. -/
theorem Memory.ensures_read {τ : Type} (P : τ → Prop) (content : Array UInt8) (offset count : Nat) :
    Ensures P (MonadExcept.ofExcept (read content offset count) : EStateM IoError τ Bytes)
      (fun bytes t => bytes = (content.toList.drop offset).take count ∧ P t) fun _ => True := by
  intro t ht
  rw [read]
  cases hread : read? content offset count with
  | none => trivial
  | some bytes => exact ⟨read?_eq_some hread, ht⟩

theorem Memory.read?_within {content : Array UInt8} {offset count : Nat}
    (h : offset + count ≤ content.toList.length) :
    read? content offset count = some ((content.toList.drop offset).take count) := by
  have hle : offset + count ≤ content.size := by rwa [Array.length_toList] at h
  rw [read?, if_pos hle]
  simp [List.extract_eq_take_drop]

/-- What is there comes back. -/
theorem Memory.gives_read {τ : Type} (P : τ → Prop) {content : Array UInt8} {offset count : Nat}
    (h : offset + count ≤ content.toList.length) :
    Gives P (MonadExcept.ofExcept (read content offset count) : EStateM IoError τ Bytes)
      ((content.toList.drop offset).take count) P := by
  intro t ht
  rw [read, read?_within h]
  exact ⟨t, rfl, ht⟩

def Memory.view : Target.View Memory := ⟨toBytes, fun _ => True⟩

theorem Memory.faithful : view.Faithful where
  size := by
    rintro b m ⟨rfl, h⟩
    exact ⟨rfl, rfl, h⟩
  readAt := by
    rintro b offset count m ⟨rfl, h⟩
    exact ensures_read (view.Holds m.toBytes) m.content offset count m ⟨rfl, h⟩
  write := by
    rintro b bytes m ⟨rfl, h⟩
    exact ⟨by simp [view, toBytes], h⟩
  truncate := by
    rintro b n - m ⟨rfl, h⟩
    exact ⟨by simp [view, toBytes], h⟩
  flush := fun _ _ h => h

theorem Memory.dependable : view.Dependable where
  size := by
    rintro b m ⟨rfl, h⟩
    exact ⟨m, rfl, rfl, h⟩
  readAt := by
    rintro b offset count hle m ⟨rfl, h⟩
    exact gives_read (view.Holds m.toBytes) hle m ⟨rfl, h⟩
  truncate := by
    rintro b n - m ⟨rfl, h⟩
    exact ⟨⟨m.content.shrink n⟩, rfl, by simp [view, toBytes], h⟩

def Recorder.view : Target.View Recorder := ⟨fun r => r.content.toList, fun _ => True⟩

theorem Recorder.faithful : view.Faithful where
  size := by
    rintro b r ⟨rfl, h⟩
    exact ⟨rfl, rfl, h⟩
  readAt := by
    rintro b offset count r ⟨rfl, h⟩
    exact Memory.ensures_read (view.Holds r.content.toList) r.content offset count r ⟨rfl, h⟩
  write := by
    rintro b bytes r ⟨rfl, h⟩
    simp only [Target.write, bind_apply, get_apply, if_apply, throw_apply, set_apply]
    by_cases hrefuses : r.refuses bytes = true
    · simp only [if_pos hrefuses]
    · simp only [if_neg hrefuses]
      exact ⟨by simp [view], h⟩
  truncate := by
    rintro b n - r ⟨rfl, h⟩
    exact ⟨by simp [view], h⟩
  flush := by
    rintro b r ⟨rfl, h⟩
    exact ⟨rfl, h⟩

theorem Recorder.dependable : view.Dependable where
  size := by
    rintro b r ⟨rfl, h⟩
    exact ⟨r, rfl, rfl, h⟩
  readAt := by
    rintro b offset count hle r ⟨rfl, h⟩
    exact Memory.gives_read (view.Holds r.content.toList) hle r ⟨rfl, h⟩
  truncate := by
    rintro b n - r ⟨rfl, h⟩
    exact ⟨{ r with content := r.content.shrink n }, rfl, by simp [view], h⟩

/-! ### Targets with a position -/

/-- At its end a target is not written over but grows. -/
theorem overwrite_end (content : Array UInt8) (bytes : Bytes) :
    overwrite content content.size bytes = content ++ bytes := if_pos rfl

/-- The position after a write at the end is the end again. -/
theorem end_append (content : Array UInt8) (bytes : Bytes) :
    content.size + bytes.length = (content ++ bytes).size := by
  rw [← Array.length_toList, ← Array.length_toList]
  simp

/-- So is the position after a cut. -/
theorem end_shrink {content : Array UInt8} {n : Nat} (h : n ≤ content.size) :
    n = (content.shrink n).size := by
  rw [Array.size_shrink]
  omega

def Cursor.view : Target.View Cursor :=
  ⟨fun c => c.content.toList, fun c => c.position = c.content.size⟩

theorem Cursor.faithful : view.Faithful where
  size := by
    rintro b c ⟨rfl, h⟩
    exact ⟨rfl, rfl, h⟩
  readAt := by
    rintro b offset count c ⟨rfl, h⟩
    exact Memory.ensures_read (view.Holds c.content.toList) c.content offset count c ⟨rfl, h⟩
  write := by
    rintro b bytes ⟨content, position⟩ ⟨rfl, h⟩
    obtain rfl : position = content.size := h
    show view.Holds _ ⟨overwrite content content.size bytes, content.size + bytes.length⟩
    rw [overwrite_end]
    exact ⟨by simp [view], end_append content bytes⟩
  truncate := by
    rintro b n hn ⟨content, position⟩ ⟨rfl, -⟩
    exact ⟨by simp [view], end_shrink hn⟩
  flush := fun _ _ h => h

theorem Cursor.dependable : view.Dependable where
  size := by
    rintro b c ⟨rfl, h⟩
    exact ⟨c, rfl, rfl, h⟩
  readAt := by
    rintro b offset count hle c ⟨rfl, h⟩
    exact Memory.gives_read (view.Holds c.content.toList) hle c ⟨rfl, h⟩
  truncate := by
    rintro b n hn ⟨content, position⟩ ⟨rfl, -⟩
    exact ⟨⟨content.shrink n, n⟩, rfl, by simp [view], end_shrink hn⟩

def File.view : Target.View File :=
  ⟨fun f => f.content.toList, fun f => f.position = f.content.size⟩

theorem File.faithful : view.Faithful where
  size := by
    rintro b f ⟨rfl, -⟩
    exact ⟨rfl, rfl, rfl⟩
  readAt := by
    rintro b offset count f ⟨rfl, -⟩
    simp only [Target.readAt, bind_apply, get_apply]
    cases hread : (if count = 0 then some [] else Memory.read? f.content offset count) with
    | none => trivial
    | some bytes =>
      refine ⟨?_, rfl, rfl⟩
      by_cases hcount : count = 0
      · rw [if_pos hcount] at hread
        cases hread
        rw [hcount, List.take_zero]
      · rw [if_neg hcount] at hread
        exact Memory.read?_eq_some hread
  write := by
    rintro b bytes ⟨content, position⟩ ⟨rfl, h⟩
    obtain rfl : position = content.size := h
    show view.Holds _ (if bytes.isEmpty = true then ⟨content, content.size⟩
      else ⟨overwrite content content.size bytes, content.size + bytes.length⟩)
    by_cases hempty : bytes.isEmpty = true
    · rw [if_pos hempty, List.isEmpty_iff.1 hempty, List.append_nil]
      exact ⟨rfl, rfl⟩
    · rw [if_neg hempty, overwrite_end]
      exact ⟨by simp [view], end_append content bytes⟩
  truncate := by
    rintro b n hn ⟨content, position⟩ ⟨rfl, -⟩
    have hle : n ≤ content.size := hn
    show view.Holds _ ⟨resize content n, n⟩
    rw [resize, if_pos hle]
    exact ⟨by simp [view], end_shrink hle⟩
  flush := fun _ _ h => h

theorem File.dependable : view.Dependable where
  size := by
    rintro b f ⟨rfl, -⟩
    exact ⟨{ f with position := f.content.size }, rfl, rfl, rfl⟩
  readAt := by
    rintro b offset count hle f ⟨rfl, -⟩
    have hwithin : offset + count ≤ f.content.toList.length := hle
    have hread : (if count = 0 then some [] else Memory.read? f.content offset count) =
        some ((f.content.toList.drop offset).take count) := by
      by_cases hcount : count = 0
      · rw [if_pos hcount, hcount, List.take_zero]
      · rw [if_neg hcount, Memory.read?_within hwithin]
    refine ⟨{ f with position := f.content.size }, ?_, rfl, rfl⟩
    simp only [Target.readAt, bind_apply, get_apply, hread, set_apply, pure_apply]
    rfl
  truncate := by
    rintro b n hn ⟨content, position⟩ ⟨rfl, -⟩
    have hle : n ≤ content.size := hn
    refine ⟨⟨content.shrink n, n⟩, ?_, by simp [view], end_shrink hle⟩
    show EStateM.Result.ok () (File.mk (resize content n) n) = _
    rw [resize, if_pos hle]

end Templating

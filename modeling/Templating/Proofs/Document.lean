import Templating.Operation.Conditional
import Templating.Proofs.Matching

/-!
# Documents with conditional blocks

A document as a tree of texts and blocks, with its bytes and its meaning. Bytes are
always written before those that follow, since these take part in matching and in the
reading of conditions.

* `Document.before`: the bytes of a document, before others.
* `Document.Placed`: tokens match at the markers of the tree and nowhere else.
* `Document.denote`: the meaning of a document, where every condition that is reached
  can be read.
-/

namespace Templating

mutual

/-- A document. A marker is given by its token, and a condition by all bytes up to the end
of its terminator. -/
inductive Document where
  | empty
  | text (bytes : Bytes) (rest : Document)
  | block (marker condition : Bytes) (body : Document) (others : Branches) (rest : Document)

/-- What follows the body of a branch, up to the end of the block. -/
inductive Branches where
  | alternative (marker condition : Bytes) (body : Document) (others : Branches)
  | fallback (marker : Bytes) (body : Document) (last : Bytes)
  | close (marker : Bytes)

end

/-! ## Bytes -/

mutual

/-- The bytes of a document, before others. -/
def Document.before : Document → Bytes → Bytes
  | .empty, k => k
  | .text bytes rest, k => bytes ++ rest.before k
  | .block marker condition body others rest, k =>
    marker ++ (condition ++ body.before (others.before (rest.before k)))

def Branches.before : Branches → Bytes → Bytes
  | .alternative marker condition body others, k =>
    marker ++ (condition ++ body.before (others.before k))
  | .fallback marker body last, k => marker ++ body.before (last ++ k)
  | .close marker, k => marker ++ k

end

namespace Branches

/-- The first marker. -/
def marker : Branches → Bytes
  | alternative marker .. => marker
  | fallback marker .. => marker
  | close marker => marker

def kind : Branches → Marker
  | alternative .. => .alternative
  | fallback .. => .fallback
  | close _ => .closing

/-- The bytes after the first marker, before others. -/
def content : Branches → Bytes → Bytes
  | alternative _ condition body others, k => condition ++ body.before (others.before k)
  | fallback _ body last, k => body.before (last ++ k)
  | close _, k => k

theorem before_eq (b : Branches) (k : Bytes) : b.before k = b.marker ++ b.content k := by
  cases b <;> simp only [before, marker, content]

end Branches

/-- Whether a document has any block. -/
def Document.hasBlock : Document → Bool
  | .empty => false
  | .text _ rest => rest.hasBlock
  | .block .. => true

/-! ## Places of markers -/

section Places

variable (tokens : List (Bytes × Marker))

/-- Before some bytes, the longest match at a marker is the marker, and of its kind. -/
def Stands (kind : Marker) (marker k : Bytes) : Prop :=
  longestMatch? tokens (marker ++ k) = some (marker, kind)

/-- Before some bytes, no token matches anywhere in a stretch. -/
def Unmarked (stretch k : Bytes) : Prop :=
  ∀ suffix, suffix ≠ [] → suffix <:+ stretch → longestMatch? tokens (suffix ++ k) = none

mutual

/-- **Tokens match at the markers of a document**, before some bytes, and nowhere else. -/
def Document.Placed : Document → Bytes → Prop
  | .empty, _ => True
  | .text bytes rest, k => Unmarked tokens bytes (rest.before k) ∧ rest.Placed k
  | .block marker condition body others rest, k =>
    Stands tokens .opening marker (condition ++ body.before (others.before (rest.before k))) ∧
      Unmarked tokens condition (body.before (others.before (rest.before k))) ∧
      body.Placed (others.before (rest.before k)) ∧ others.Placed (rest.before k) ∧ rest.Placed k

def Branches.Placed : Branches → Bytes → Prop
  | .alternative marker condition body others, k =>
    Stands tokens .alternative marker (condition ++ body.before (others.before k)) ∧
      Unmarked tokens condition (body.before (others.before k)) ∧
      body.Placed (others.before k) ∧ others.Placed k
  | .fallback marker body last, k =>
    Stands tokens .fallback marker (body.before (last ++ k)) ∧ body.Placed (last ++ k) ∧
      Stands tokens .closing last k
  | .close marker, k => Stands tokens .closing marker k

end

instance (stretch k : Bytes) : Decidable (Unmarked tokens stretch k) :=
  decidable_of_iff (∀ suffix ∈ stretch.tails, suffix ≠ [] →
    longestMatch? tokens (suffix ++ k) = none)
    ⟨fun h suffix hne hsuffix => h suffix ((List.mem_tails _ _).2 hsuffix) hne,
      fun h suffix hmem hne => h suffix hne ((List.mem_tails _ _).1 hmem)⟩

instance (kind : Marker) (marker k : Bytes) : Decidable (Stands tokens kind marker k) :=
  inferInstanceAs (Decidable (_ = _))

mutual

instance Document.decidablePlaced : ∀ (d : Document) (k : Bytes), Decidable (d.Placed tokens k)
  | .empty, _ => isTrue (by rw [Document.Placed]; trivial)
  | .text bytes rest, k =>
    have := rest.decidablePlaced k
    decidable_of_iff (Unmarked tokens bytes (rest.before k) ∧ rest.Placed tokens k)
      (by rw [Document.Placed])
  | .block marker condition body others rest, k =>
    have := body.decidablePlaced (others.before (rest.before k))
    have := others.decidablePlaced (rest.before k)
    have := rest.decidablePlaced k
    decidable_of_iff
      (Stands tokens .opening marker (condition ++ body.before (others.before (rest.before k))) ∧
        Unmarked tokens condition (body.before (others.before (rest.before k))) ∧
        body.Placed tokens (others.before (rest.before k)) ∧
        others.Placed tokens (rest.before k) ∧ rest.Placed tokens k)
      (by rw [Document.Placed])

instance Branches.decidablePlaced : ∀ (b : Branches) (k : Bytes), Decidable (b.Placed tokens k)
  | .alternative marker condition body others, k =>
    have := body.decidablePlaced (others.before k)
    have := others.decidablePlaced k
    decidable_of_iff
      (Stands tokens .alternative marker (condition ++ body.before (others.before k)) ∧
        Unmarked tokens condition (body.before (others.before k)) ∧
        body.Placed tokens (others.before k) ∧ others.Placed tokens k)
      (by rw [Branches.Placed])
  | .fallback marker body last, k =>
    have := body.decidablePlaced (last ++ k)
    decidable_of_iff
      (Stands tokens .fallback marker (body.before (last ++ k)) ∧ body.Placed tokens (last ++ k) ∧
        Stands tokens .closing last k)
      (by rw [Branches.Placed])
  | .close marker, k => decidable_of_iff (Stands tokens .closing marker k) (by rw [Branches.Placed])

end

theorem Branches.Placed.stands {b : Branches} {k : Bytes} (h : b.Placed tokens k) :
    Stands tokens b.kind b.marker (b.content k) := by
  cases b with
  | alternative => rw [Branches.Placed] at h; exact h.1
  | fallback => rw [Branches.Placed] at h; exact h.1
  | close => rw [Branches.Placed] at h; exact h

end Places

/-! ## Meaning -/

section Meaning

variable (e : Evaluator)

/-- The value of a condition before some bytes, if reading it consumes exactly its own. -/
def verdict? (condition k : Bytes) : Option Bool :=
  match e.evaluate.run (Slice.ofBytes (condition ++ k)) with
  | .ok holds s => if s.rest.bytes = k then some holds else none
  | .error _ _ => none

mutual

/-- **The meaning of a document** before some bytes: texts stay, and of a block the first
branch stays whose condition holds. There is none if a condition that is reached cannot be
read. The conditions after a branch that stays are not reached, nor are those inside of one
that does not stay. -/
def Document.denote : Document → Bytes → Option Bytes
  | .empty, _ => some []
  | .text bytes rest, k => do
    let after ← rest.denote k
    pure (bytes ++ after)
  | .block _ condition body others rest, k => do
    let holds ← verdict? e condition (body.before (others.before (rest.before k)))
    let inside ← (if holds then body.denote (others.before (rest.before k))
      else others.denote (rest.before k))
    let after ← rest.denote k
    pure (inside ++ after)

def Branches.denote : Branches → Bytes → Option Bytes
  | .alternative _ condition body others, k => do
    let holds ← verdict? e condition (body.before (others.before k))
    if holds then body.denote (others.before k) else others.denote k
  | .fallback _ body last, k => body.denote (last ++ k)
  | .close _, _ => some []

end

end Meaning

end Templating

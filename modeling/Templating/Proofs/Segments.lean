import Templating.Proofs.Window

/-!
# Segments of a text

Leftmost-longest matching cuts a text into markers and the bytes between them, from left to right:
the longest token at a place is a marker, and behind it the search goes on.

* `segments`: the pieces of a text, each with the bytes after it.
* `segments_of_none`, `segments_of_some`: the first of them.
* `segments_find`: a search for tokens finds the first marker.
-/

namespace Templating

/-- A piece of a text: a marker with a label, or a byte that belongs to no marker. -/
inductive Piece (α : Type) where
  | marker (label : α)
  | byte (b : UInt8)
  deriving DecidableEq

namespace Piece

variable {α : Type}

def isMarker : Piece α → Bool
  | marker _ => true
  | byte _ => false

def label? : Piece α → Option α
  | marker label => some label
  | byte _ => none

end Piece

section Segments

variable {α : Type} (tokens : List (Bytes × α))

/-- The segments of a text after so many bytes. -/
def segmentsAfter : Nat → Bytes → List (Piece α × Bytes)
  | _, [] => []
  | count + 1, _ :: rest => segmentsAfter count rest
  | 0, b :: rest =>
    match longestMatch? tokens (b :: rest) with
    | none => (.byte b, rest) :: segmentsAfter 0 rest
    | some (token, label) =>
      (.marker label, (b :: rest).drop token.length) :: segmentsAfter (token.length - 1) rest

/-- **The segments of a text**, from left to right: its pieces, each with the bytes after it. -/
def segments (text : Bytes) : List (Piece α × Bytes) := segmentsAfter tokens 0 text

variable {tokens} {b : UInt8} {text rest token : Bytes} {label : α}

theorem segmentsAfter_eq (count : Nat) (text : Bytes) :
    segmentsAfter tokens count text = segments tokens (text.drop count) := by
  induction text generalizing count with
  | nil => cases count <;> rfl
  | cons b rest ih =>
    cases count with
    | zero => rfl
    | succ count => exact ih count

theorem segments_of_none (h : longestMatch? tokens (b :: rest) = none) :
    segments tokens (b :: rest) = (.byte b, rest) :: segments tokens rest := by
  rw [segments, segmentsAfter, h]
  rfl

theorem segments_of_some (h : longestMatch? tokens text = some (token, label)) :
    segments tokens text =
      (.marker label, text.drop token.length) :: segments tokens (text.drop token.length) := by
  obtain ⟨-, hne, hprefix, -⟩ := longestMatch?_spec h
  obtain ⟨b, token, rfl⟩ := List.exists_cons_of_ne_nil hne
  obtain ⟨more, rfl⟩ := hprefix
  rw [List.cons_append] at h ⊢
  rw [segments, segmentsAfter, h]
  simp only [List.length_cons, Nat.add_sub_cancel, List.drop_succ_cons, segmentsAfter_eq]

/-- **A search for tokens** finds the first marker, and passes the bytes before it. -/
theorem segments_find {table : TokenTable} (htable : table = .ofList (tokens.map (·.1)))
    (text : Bytes) :
    match (table.find text).1 with
    | none => (segments tokens text).map (·.1) = text.map .byte
    | some found => ∃ token label passed front, tokens[found.1]? = some (token, label) ∧
        passed.map (·.1) = List.map Piece.byte front ∧
        segments tokens text = passed ++ (.marker label, table.remainder true text) ::
          segments tokens (table.remainder true text) := by
  have hlawful : table.Lawful := htable ▸ TokenTable.lawful_ofList _
  induction text with
  | nil => rfl
  | cons b text ih =>
    have hentry := TokenTable.match?_entry tokens (b :: text)
    rw [← htable] at hentry
    cases hm : longestMatch? tokens (b :: text) with
    | none =>
      rw [hm] at hentry
      have hfind := TokenTable.find_of_no_match hentry
      have hrest : table.remainder true (b :: text) = table.remainder true text :=
        TokenTable.remainder_of_no_match hentry
      rw [hfind, hrest, segments_of_none hm]
      cases hfound : (table.find text).1 with
      | none =>
        rw [hfound] at ih
        exact congrArg (.byte b :: ·) ih
      | some found =>
        rw [hfound] at ih
        obtain ⟨token, label, passed, front, htoken, hpassed, hsegments⟩ := ih
        refine ⟨token, label, (.byte b, text) :: passed, b :: front, htoken, ?_, ?_⟩
        · rw [List.map_cons, hpassed, List.map_cons]
        · rw [hsegments, List.cons_append]
    | some e =>
      obtain ⟨token, label⟩ := e
      rw [hm] at hentry
      obtain ⟨index, hmatch, htoken⟩ := hentry
      have hfind := TokenTable.find_of_match hlawful hmatch
      have hrest : table.remainder true (b :: text) = (b :: text).drop token.length := by
        rw [TokenTable.remainder, hfind]
        rfl
      rw [hfind, hrest]
      exact ⟨token, label, [], [], htoken, rfl, segments_of_some hm⟩

end Segments

end Templating

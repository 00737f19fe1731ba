import Templating.Proofs.LineReading
import Templating.Proofs.Skipping

/-!
# Pages

A document in UTF-8 whose markers stand on lines of their own: a page of text lines and
of blocks, which are made of marker lines and the pages between them.

* `Page.before`: the lines of a page, before others.
* `Laid`: lines that are the lines of a text, in which tokens match at their markers and
  nowhere else.
* `Page.shown`: the text lines whose blocks all selected the branch that they stand in.
* `Page.skips`, `Sections.skips`: skipping passes a page at the depth at which it came.
-/

namespace Templating

/-! ## Lines with markers -/

/-- A line with a marker, in its parts. -/
structure MarkerLine where
  indent : Bytes
  marker : Bytes
  /-- What stands between the marker and the end of the line; a condition, if the marker
  has one. -/
  rest : Bytes
  ending : Bytes
  inline : Inline indent ∧ Inline rest := by decide
  ending_mem : ending ∈ lineEndings := by decide

namespace MarkerLine

/-- What follows the marker of a line, before others. -/
def after (m : MarkerLine) (k : Bytes) : Bytes := m.rest ++ (m.ending ++ k)

theorem after_eq (m : MarkerLine) (k : Bytes) : m.after k = m.rest ++ m.ending ++ k := by
  rw [after, List.append_assoc]

theorem length_le_after (m : MarkerLine) (k : Bytes) : k.length ≤ (m.after k).length := by
  simp only [after, List.length_append]
  omega

/-- Before others, tokens match at the marker of a line and nowhere else in it. -/
structure Placed (tokens : List (Bytes × Marker)) (kind : Marker) (m : MarkerLine) (k : Bytes) :
    Prop where
  indent : Unmarked tokens m.indent (m.marker ++ m.after k)
  marker : Stands tokens kind m.marker (m.after k)
  rest : Unmarked tokens (m.rest ++ m.ending) k

instance (tokens : List (Bytes × Marker)) (kind : Marker) (m : MarkerLine) (k : Bytes) :
    Decidable (m.Placed tokens kind k) :=
  decidable_of_iff
    (Unmarked tokens m.indent (m.marker ++ m.after k) ∧ Stands tokens kind m.marker (m.after k) ∧
      Unmarked tokens (m.rest ++ m.ending) k)
    ⟨fun h => ⟨h.1, h.2.1, h.2.2⟩, fun h => ⟨h.indent, h.marker, h.rest⟩⟩

end MarkerLine

/-- A line of a page. -/
inductive Line where
  | text (bytes : Bytes)
  | marked (kind : Marker) (line : MarkerLine)

namespace Line

def bytes : Line → Bytes
  | text bytes => bytes
  | marked _ m => m.indent ++ (m.marker ++ m.after [])

/-- Within a line, tokens match at its marker and nowhere else. -/
def Placed (tokens : List (Bytes × Marker)) : Line → Prop
  | text bytes => Unmarked tokens bytes []
  | marked kind m => m.Placed tokens kind []

instance (tokens : List (Bytes × Marker)) : ∀ line : Line, Decidable (line.Placed tokens)
  | text bytes => inferInstanceAs (Decidable (Unmarked tokens bytes []))
  | marked kind m => inferInstanceAs (Decidable (m.Placed tokens kind []))

/-- The text of some lines. -/
def joined (items : List Line) : Bytes := (items.map bytes).flatten

theorem joined_cons (x : Line) (items : List Line) :
    joined (x :: items) = x.bytes ++ joined items := rfl

theorem joined_marked (kind : Marker) (m : MarkerLine) (items : List Line) :
    joined (marked kind m :: items) = m.indent ++ (m.marker ++ m.after (joined items)) := by
  simp only [joined_cons, bytes, MarkerLine.after, List.append_assoc, List.nil_append]

end Line

open Line

/-! ## Lines as they stand in a text -/

/-- **Lines that their text is cut into**, where tokens match at their markers and nowhere
else. -/
structure Laid (tokens : List (Bytes × Marker)) (items : List Line) : Prop where
  cut : lines (joined items) = items.map bytes
  placed : ∀ x ∈ items, x.Placed tokens

section Laying

variable {tokens : List (Bytes × Marker)} {x : Line} {items : List Line} {l : Bytes}
  {kind : Marker} {m : MarkerLine}

theorem Laid.cut_cons (h : Laid tokens (x :: items)) :
    lines (x.bytes ++ joined items) = x.bytes :: items.map bytes := h.cut

theorem Laid.tail (h : Laid tokens (x :: items)) : Laid tokens items :=
  ⟨(lines_append h.cut_cons).1, fun y hy => h.placed y (List.mem_cons_of_mem x hy)⟩

/-- A line before another one has an ending. -/
theorem Laid.ended (h : Laid tokens (x :: items)) (hne : items ≠ []) : Ended x.bytes := by
  refine (lines_append h.cut_cons).2.resolve_left fun hnil => hne ?_
  have hrest := h.tail.cut
  rw [hnil, lines] at hrest
  exact List.map_eq_nil_iff.1 hrest.symm

variable (hinline : ∀ e ∈ tokens, Inline e.1)

include hinline

/-- What does not match within a line does not match in the text. -/
theorem Laid.unmarked (h : Laid tokens (x :: items)) {part more : Bytes}
    (hpart : part ++ more <:+ x.bytes) (hun : Unmarked tokens part more) :
    Unmarked tokens part (more ++ joined items) := by
  intro suffix hne hsuffix
  have hline : suffix ++ more <:+ x.bytes := by
    obtain ⟨front, rfl⟩ := hsuffix
    rw [List.append_assoc] at hpart
    exact (List.suffix_append _ _).trans hpart
  have hmatch := longestMatch?_line hinline h.cut_cons hline
    (List.append_ne_nil_of_left_ne_nil hne more)
  rw [List.append_assoc] at hmatch
  exact hmatch.trans (hun suffix hne hsuffix)

theorem Laid.unmarked_text (h : Laid tokens (.text l :: items)) :
    Unmarked tokens l (joined items) := by
  have hwhole : l ++ [] <:+ (Line.text l).bytes := by
    rw [List.append_nil]
    exact List.suffix_refl l
  exact h.unmarked hinline hwhole (h.placed _ List.mem_cons_self)

/-- What holds of a marker within its line holds in the text. -/
theorem Laid.marked (h : Laid tokens (.marked kind m :: items)) :
    m.Placed tokens kind (joined items) := by
  have hline : (Line.marked kind m).bytes = m.indent ++ (m.marker ++ m.after []) := rfl
  have hafter : m.after (joined items) = m.after [] ++ joined items := by
    simp only [MarkerLine.after, List.append_assoc, List.nil_append]
  have hplaced : m.Placed tokens kind [] := h.placed _ List.mem_cons_self
  constructor
  · have hindent := h.unmarked hinline (by rw [hline]) hplaced.indent
    rwa [List.append_assoc, ← hafter] at hindent
  · have hne : m.marker ++ m.after [] ≠ [] :=
      List.append_ne_nil_of_left_ne_nil (longestMatch?_spec hplaced.marker).2.1 _
    have hmatch := longestMatch?_line hinline h.cut_cons
      (by rw [hline]; exact List.suffix_append _ _) hne
    rw [List.append_assoc, ← hafter] at hmatch
    exact hmatch.trans hplaced.marker
  · refine h.unmarked hinline ?_ hplaced.rest
    rw [hline, ← MarkerLine.after_eq]
    exact (List.suffix_append _ _).trans (List.suffix_append _ _)

theorem Laid.endsLine (h : Laid tokens (.marked kind m :: items)) :
    EndsLine m.ending (joined items) := by
  have hmem := (longestMatch?_spec (h.marked hinline).marker).1
  have hinner : Inline (m.indent ++ m.marker ++ m.rest) := by
    intro b hb
    rcases List.mem_append.1 hb with hb | hb
    · rcases List.mem_append.1 hb with hb | hb
      · exact m.inline.1 b hb
      · exact hinline _ hmem b hb
    · exact m.inline.2 b hb
  have hcut := h.cut_cons
  simp only [bytes, MarkerLine.after, List.append_nil, ← List.append_assoc] at hcut
  rw [List.append_assoc] at hcut
  exact endsLine_of_lines hinner m.ending_mem hcut

end Laying

/-! ## Pages -/

mutual

/-- A page: its text lines and its blocks, in order. -/
inductive Page where
  | empty
  | text (line : Bytes) (rest : Page)
  | block (head : MarkerLine) (body : Page) (others : Sections) (rest : Page)

/-- What follows the body of a branch, up to the end of the block. -/
inductive Sections where
  | alternative (head : MarkerLine) (body : Page) (others : Sections)
  | fallback (head : MarkerLine) (body : Page) (last : MarkerLine)
  | close (last : MarkerLine)

end

mutual

/-- The lines of a page, before others. -/
def Page.before : Page → List Line → List Line
  | .empty, items => items
  | .text line rest, items => .text line :: rest.before items
  | .block head body others rest, items =>
    .marked .opening head :: body.before (others.before (rest.before items))

def Sections.before : Sections → List Line → List Line
  | .alternative head body others, items =>
    .marked .alternative head :: body.before (others.before items)
  | .fallback head body last, items =>
    .marked .fallback head :: body.before (.marked .closing last :: items)
  | .close last, items => .marked .closing last :: items

end

/-- Whether a page has any block. -/
def Page.hasBlock : Page → Bool
  | .empty => false
  | .text _ rest => rest.hasBlock
  | .block .. => true

namespace Sections

def kind : Sections → Marker
  | alternative .. => .alternative
  | fallback .. => .fallback
  | close _ => .closing

/-- The first line. -/
def head : Sections → MarkerLine
  | alternative head .. => head
  | fallback head .. => head
  | close last => last

/-- The last line. -/
def last : Sections → MarkerLine
  | alternative _ _ others => others.last
  | fallback _ _ last => last
  | close last => last

/-- The lines after the first one, before others. -/
def content : Sections → List Line → List Line
  | alternative _ body others, items => body.before (others.before items)
  | fallback _ body last, items => body.before (.marked .closing last :: items)
  | close _, items => items

theorem before_eq (b : Sections) (items : List Line) :
    b.before items = .marked b.kind b.head :: b.content items := by
  cases b <;> simp only [before, kind, head, content]

theorem before_ne_nil (b : Sections) (items : List Line) : b.before items ≠ [] := by
  rw [b.before_eq]
  exact List.cons_ne_nil _ _

end Sections

variable {tokens : List (Bytes × Marker)}

mutual

theorem Page.laid : ∀ (d : Page) {items : List Line}, Laid tokens (d.before items) →
    Laid tokens items
  | .empty, _, h => by rwa [Page.before] at h
  | .text line rest, _, h => by
    rw [Page.before] at h
    exact rest.laid h.tail
  | .block head body others rest, _, h => by
    rw [Page.before] at h
    exact rest.laid (others.laid (body.laid h.tail))

theorem Sections.laid : ∀ (b : Sections) {items : List Line}, Laid tokens (b.before items) →
    Laid tokens items
  | .alternative head body others, _, h => by
    rw [Sections.before] at h
    exact others.laid (body.laid h.tail)
  | .fallback head body last, _, h => by
    rw [Sections.before] at h
    exact (body.laid h.tail).tail
  | .close last, _, h => by
    rw [Sections.before] at h
    exact h.tail

end

/-- The last line of a block ends as a line does. -/
theorem Sections.endsLine_last (hinline : ∀ e ∈ tokens, Inline e.1) :
    ∀ (b : Sections) {items : List Line}, Laid tokens (b.before items) →
      EndsLine b.last.ending (joined items)
  | .alternative head body others, _, h => by
    rw [Sections.before] at h
    exact others.endsLine_last hinline (body.laid h.tail)
  | .fallback head body last, _, h => by
    rw [Sections.before] at h
    exact (body.laid h.tail).endsLine hinline
  | .close last, _, h => by
    rw [Sections.before] at h
    exact h.endsLine hinline

/-! ## What a page shows -/

section Showing

variable (e : Evaluator)

mutual

/-- **The text lines of a page that are shown**, those whose blocks all selected the branch
that they stand in. There are none if a condition that is reached cannot be decided. -/
def Page.shown : Page → Option (List Bytes)
  | .empty => some []
  | .text line rest => do
    let after ← rest.shown
    pure (line :: after)
  | .block head body others rest => do
    let holds ← e.decision? head.rest
    let inside ← (if holds then body.shown else others.shown)
    let after ← rest.shown
    pure (inside ++ after)

def Sections.shown : Sections → Option (List Bytes)
  | .alternative head body others => do
    let holds ← e.decision? head.rest
    if holds then body.shown else others.shown
  | .fallback _ body _ => body.shown
  | .close _ => some []

end

variable {e}

mutual

/-- Where other lines follow, all lines of a page have endings. -/
theorem Page.shown_ended : ∀ (d : Page) {items : List Line}, Laid tokens (d.before items) →
    items ≠ [] → ∀ {shown : List Bytes}, d.shown e = some shown → ∀ l ∈ shown, Ended l
  | .empty, _, _, _, shown, hshown, l, hl => by
    rw [Page.shown] at hshown
    cases hshown
    cases hl
  | .text line rest, items, h, hne, shown, hshown, l, hl => by
    rw [Page.before] at h
    rw [Page.shown, Option.bind_eq_bind, Option.bind_eq_some_iff] at hshown
    obtain ⟨after, hafter, hshown⟩ := hshown
    cases hshown
    rcases List.mem_cons.1 hl with rfl | hl
    · refine h.ended fun hnil => hne ?_
      -- nothing follows this line, so nothing follows the page
      cases rest with
      | empty => rwa [Page.before] at hnil
      | text | block => simp [Page.before] at hnil
    · exact rest.shown_ended h.tail hne hafter l hl
  | .block head body others rest, items, h, hne, shown, hshown, l, hl => by
    rw [Page.before] at h
    simp only [Page.shown, Option.bind_eq_bind, Option.bind_eq_some_iff] at hshown
    obtain ⟨holds, -, inside, hinside, after, hafter, hshown⟩ := hshown
    cases hshown
    have hothers := body.laid h.tail
    rcases List.mem_append.1 hl with hl | hl
    · cases holds with
      | true => exact body.shown_ended h.tail (others.before_ne_nil _) hinside l hl
      | false => exact others.shown_ended hothers hinside l hl
    · exact rest.shown_ended (others.laid hothers) hne hafter l hl

theorem Sections.shown_ended : ∀ (b : Sections) {items : List Line},
    Laid tokens (b.before items) → ∀ {shown : List Bytes}, b.shown e = some shown →
      ∀ l ∈ shown, Ended l
  | .alternative head body others, items, h, shown, hshown, l, hl => by
    rw [Sections.before] at h
    simp only [Sections.shown, Option.bind_eq_bind, Option.bind_eq_some_iff] at hshown
    obtain ⟨holds, -, hshown⟩ := hshown
    cases holds with
    | true => exact body.shown_ended h.tail (others.before_ne_nil _) hshown l hl
    | false => exact others.shown_ended (body.laid h.tail) hshown l hl
  | .fallback head body last, items, h, shown, hshown, l, hl => by
    rw [Sections.before] at h
    rw [Sections.shown] at hshown
    exact body.shown_ended h.tail (List.cons_ne_nil _ _) hshown l hl
  | .close last, _, _, shown, hshown, l, hl => by
    rw [Sections.shown] at hshown
    cases hshown
    cases hl

end

end Showing

/-! ## Skipping -/

section Skips

open Conditional

variable {c : Conditional} {sought : Sought} {depth : Nat} {found kind : Marker} {rest : Bytes}
  {m : MarkerLine} {items : List Line} (hc : c.Scans)

include hc

/-- Skipping passes a marker line, to another depth. -/
theorem MarkerLine.Placed.skips (hm : m.Placed c.entries kind (joined items)) (depth' : Nat)
    (hs : ∀ i, c.marker? i = some kind → c.skipped sought (some i) depth = .again depth')
    (h : SkipsTo c sought depth' (joined items) found rest) :
    SkipsTo c sought depth (joined (.marked kind m :: items)) found rest := by
  have hrest : SkipsTo c sought depth' (m.after (joined items)) found rest := by
    rw [m.after_eq]
    exact .over hc hm.rest h
  rw [joined_marked]
  exact .over hc hm.indent (.past hc depth' hm.marker hs hrest)

/-- Skipping stops at the marker of a line. -/
theorem MarkerLine.Placed.stops (hm : m.Placed c.entries kind (joined items))
    (hs : ∀ i, c.marker? i = some kind → c.skipped sought (some i) depth = .stop (some kind)) :
    SkipsTo c sought depth (joined (.marked kind m :: items)) kind (m.after (joined items)) := by
  rw [joined_marked]
  exact .over hc hm.indent (.at hc hm.marker hs)

variable (hinline : ∀ e ∈ c.entries, Inline e.1)

include hinline

mutual

/-- **The balanced skip**: over a page skipping keeps its depth. -/
theorem Page.skips : ∀ (d : Page) {items : List Line}, Laid c.entries (d.before items) →
    ∀ {depth : Nat} {found : Marker} {rest : Bytes},
      SkipsTo c sought depth (joined items) found rest →
      SkipsTo c sought depth (joined (d.before items)) found rest
  | .empty, _, _, _, _, _, h => by rwa [Page.before]
  | .text line rest, items, hd, _, _, _, h => by
    rw [Page.before] at hd ⊢
    exact .over hc (hd.unmarked_text hinline) (rest.skips hd.tail h)
  | .block head body others rest, items, hd, depth, _, _, h => by
    rw [Page.before] at hd ⊢
    have hothers := body.laid hd.tail
    -- one level down at the first line, and up again at the last line
    refine (hd.marked hinline).skips hc (depth + 1) (fun i hi => by simp only [skipped, hi]) ?_
    exact body.skips hd.tail (others.skips hothers (rest.skips (others.laid hothers) h))

/-- Over the end of a block skipping comes out one level up. -/
theorem Sections.skips : ∀ (b : Sections) {items : List Line}, Laid c.entries (b.before items) →
    ∀ {depth : Nat} {found : Marker} {rest : Bytes},
      SkipsTo c sought depth (joined items) found rest →
      SkipsTo c sought (depth + 1) (joined (b.before items)) found rest
  | .alternative head body others, items, hb, depth, _, _, h => by
    rw [Sections.before] at hb ⊢
    refine (hb.marked hinline).skips hc (depth + 1) (fun i hi => by simp only [skipped, hi]) ?_
    exact body.skips hb.tail (others.skips (body.laid hb.tail) h)
  | .fallback head body last, items, hb, depth, _, _, h => by
    rw [Sections.before] at hb ⊢
    have hlast := body.laid hb.tail
    refine (hb.marked hinline).skips hc (depth + 1) (fun i hi => by simp only [skipped, hi]) ?_
    refine body.skips hb.tail ?_
    exact (hlast.marked hinline).skips hc depth (fun i hi => by simp only [skipped, hi]) h
  | .close last, items, hb, depth, _, _, h => by
    rw [Sections.before] at hb ⊢
    exact (hb.marked hinline).skips hc depth (fun i hi => by simp only [skipped, hi]) h

end

/-- From the first line of a branch, the search for its end stops at the next marker of the
block. -/
theorem Page.skips_branch (body : Page) (others : Sections) {items : List Line}
    (h : Laid c.entries (body.before (others.before items))) :
    SkipsTo c .branch 0 (joined (body.before (others.before items))) others.kind
      (others.head.after (joined (others.content items))) := by
  have hothers := body.laid h
  refine body.skips hc hinline h ?_
  rw [others.before_eq] at hothers ⊢
  refine (hothers.marked hinline).stops hc fun i hi => ?_
  cases others <;> simp only [skipped, hi, Sections.kind] <;> rfl

/-- From the first line of a branch, the search for the end of the block passes the other
branches. -/
theorem Sections.skips_block : ∀ (b : Sections) {items : List Line},
    Laid c.entries (b.before items) →
      SkipsTo c .block 0 (joined (b.before items)) .closing (b.last.after (joined items))
  | .alternative head body others, items, hb => by
    rw [Sections.before] at hb ⊢
    refine (hb.marked hinline).skips hc 0 (fun i hi => by simp only [skipped, hi]; rfl) ?_
    exact body.skips hc hinline hb.tail (others.skips_block (body.laid hb.tail))
  | .fallback head body last, items, hb => by
    rw [Sections.before] at hb ⊢
    refine (hb.marked hinline).skips hc 0 (fun i hi => by simp only [skipped, hi]; rfl) ?_
    refine body.skips hc hinline hb.tail ?_
    exact ((body.laid hb.tail).marked hinline).stops hc fun i hi => by
      simp only [skipped, hi]
      rfl
  | .close last, items, hb => by
    rw [Sections.before] at hb ⊢
    exact (hb.marked hinline).stops hc fun i hi => by
      simp only [skipped, hi]
      rfl

/-- The same from just after a marker that is not the last one. -/
theorem Sections.skips_content (b : Sections) {items : List Line}
    (hb : Laid c.entries (b.before items)) (hkind : b.kind ≠ .closing) :
    SkipsTo c .block 0 (b.head.after (joined (b.content items))) .closing
      (b.last.after (joined items)) := by
  have hhead : b.head.Placed c.entries b.kind (joined (b.content items)) := by
    rw [b.before_eq] at hb
    exact hb.marked hinline
  rw [b.head.after_eq]
  refine .over hc hhead.rest ?_
  cases b with
  | alternative head body others =>
    rw [Sections.before] at hb
    exact body.skips hc hinline hb.tail (others.skips_block hc hinline (body.laid hb.tail))
  | fallback head body last =>
    rw [Sections.before] at hb
    refine body.skips hc hinline hb.tail ?_
    exact ((body.laid hb.tail).marked hinline).stops hc fun i hi => by
      simp only [skipped, hi]
      rfl
  | close last => exact absurd rfl hkind

end Skips

end Templating

import Templating.Proofs.Document
import Templating.Proofs.Handling

/-!
# Skipping over documents

Skipping counts the blocks that it enters and leaves. Over a document it comes out
at the depth at which it went in, so it passes whole blocks and finds the marker of
the block it started in.

* `Conditional.SkipsTo`: skipping from some bytes finds a marker, and what is left then.
* `Conditional.gives_skip`: the loop does so over every window.
* `Document.skips`, `Branches.skips`: the balanced skip, by induction on the tree.
-/

namespace Templating

theorem TokenTable.remainder_length_lt {t : TokenTable} (ht : t.Lawful) {found : Nat × Nat} :
    ∀ {bytes : Bytes}, (t.find bytes).1 = some found →
      (t.remainder true bytes).length < bytes.length
  | [], h => by cases h
  | b :: rest, h => by
    cases hm : t.match? (b :: rest) with
    | some found' =>
      have hpos : 0 < found'.2 := ht.pos (v := found'.1) hm
      rw [remainder, find_of_match ht hm]
      simp only [if_true, List.length_drop, List.length_cons]
      omega
    | none =>
      rw [find_of_no_match hm] at h
      rw [remainder_of_no_match hm, List.length_cons]
      exact Nat.lt_succ_of_lt (remainder_length_lt ht h)

namespace Conditional

variable {c : Conditional} {sought : Sought} {depth : Nat} {bytes k rest : Bytes}
  {marker : Bytes} {kind found : Marker}

/-- The tokens of an operation with the markers they stand for. -/
def entries (c : Conditional) : List (Bytes × Marker) := c.markers.map fun m => (m.2, m.1)

theorem marker?_of_entries {i : Nat} (h : c.entries[i]? = some (marker, kind)) :
    c.marker? i = some kind := by
  rw [entries, List.getElem?_map, Option.map_eq_some_iff] at h
  obtain ⟨m, hm, hkind⟩ := h
  rw [marker?, hm]
  exact congrArg some (Prod.mk.inj hkind).2

/-- Skipping searches for the tokens of the markers. -/
def Scans (c : Conditional) : Prop := c.scan = .ofList (c.entries.map (·.1))

theorem Scans.lawful (hc : c.Scans) : c.scan.Lawful := by
  rw [Scans] at hc
  rw [hc]
  exact TokenTable.lawful_ofList _

/-- **Skipping from some bytes** at a depth finds a marker, and leaves what comes after it. -/
inductive SkipsTo (c : Conditional) (sought : Sought) : Nat → Bytes → Marker → Bytes → Prop
  | stop {depth : Nat} {bytes : Bytes} {found : Marker} :
      c.skipped sought ((c.scan.find bytes).1.map (·.1)) depth = .stop (some found) →
      SkipsTo c sought depth bytes found (c.scan.remainder true bytes)
  | again {depth depth' : Nat} {bytes rest : Bytes} {found : Marker} :
      c.skipped sought ((c.scan.find bytes).1.map (·.1)) depth = .again depth' →
      SkipsTo c sought depth' (c.scan.remainder true bytes) found rest →
      SkipsTo c sought depth bytes found rest

theorem SkipsTo.length_lt (hc : c.Scans) (h : SkipsTo c sought depth bytes found rest) :
    rest.length < bytes.length := by
  induction h with
  | @stop depth bytes found hs =>
    cases hf : (c.scan.find bytes).1 with
    | none => rw [hf] at hs; cases hs
    | some _ => exact TokenTable.remainder_length_lt hc.lawful hf
  | @again depth depth' bytes rest found hs _ ih =>
    cases hf : (c.scan.find bytes).1 with
    | none => rw [hf] at hs; cases hs
    | some _ => exact ih.trans (TokenTable.remainder_length_lt hc.lawful hf)

theorem gives_skipTurn (hc : c.Scans) (sought : Sought) (depth : Nat) (bytes : Bytes) :
    Gives (Window.At · bytes) (c.skipTurn sought depth)
      (c.skipped sought ((c.scan.find bytes).1.map (·.1)) depth)
      (Window.At · (c.scan.remainder true bytes)) := by
  rw [skipTurn_eq]
  exact (Window.gives_seekUntil hc.lawful true bytes).bind (Gives.pure fun _ => id)

/-- **The loop of skipping** does what the tree of the document says. -/
theorem gives_skip (hc : c.Scans) (h : SkipsTo c sought 0 bytes found rest) :
    Gives (Window.At · bytes) (c.skip sought) (some found) (Window.At · rest) := by
  have main : ∀ {depth bytes found rest}, SkipsTo c sought depth bytes found rest →
      ∀ bound, bytes.length < bound →
        Gives (Window.At · bytes) (loop (c.skipTurn sought) (fun _ => none) bound depth)
          (some found) (Window.At · rest) := by
    intro depth bytes found rest h
    induction h with
    | @stop depth bytes found hs =>
      intro bound hbound
      obtain ⟨bound, rfl⟩ : ∃ n, bound = n + 1 := ⟨bound - 1, by omega⟩
      have hturn := gives_skipTurn hc sought depth bytes
      rw [hs] at hturn
      exact hturn.loop_stop
    | @again depth depth' bytes rest found hs _ ih =>
      -- a marker has been passed, so the bound stays above what is left
      intro bound hbound
      obtain ⟨bound, rfl⟩ : ∃ n, bound = n + 1 := ⟨bound - 1, by omega⟩
      have hturn := gives_skipTurn hc sought depth bytes
      rw [hs] at hturn
      refine hturn.loop_again (ih bound ?_)
      cases hf : (c.scan.find bytes).1 with
      | none => rw [hf] at hs; cases hs
      | some _ =>
        have := TokenTable.remainder_length_lt hc.lawful hf
        omega
  intro w hw
  simp only [skip, bind_apply, get_apply]
  exact main h _ (by rw [hw.remaining]; omega) w hw

/-! ## Single markers -/

theorem find_of_stands (hc : c.Scans) (h : Stands c.entries kind marker k) : ∃ i,
    c.marker? i = some kind ∧ (c.scan.find (marker ++ k)).1 = some (i, marker.length) ∧
      c.scan.remainder true (marker ++ k) = k := by
  have hentry := TokenTable.match?_entry c.entries (marker ++ k)
  rw [Stands] at h
  rw [h] at hentry
  obtain ⟨i, hm, hi⟩ := hentry
  rw [← hc] at hm
  have hfind := TokenTable.find_of_match hc.lawful hm
  refine ⟨i, marker?_of_entries hi, by rw [hfind], ?_⟩
  rw [TokenTable.remainder, hfind]
  exact List.drop_left

theorem SkipsTo.past (hc : c.Scans) (depth' : Nat) (h : Stands c.entries kind marker k)
    (hs : ∀ i, c.marker? i = some kind → c.skipped sought (some i) depth = .again depth')
    (hk : SkipsTo c sought depth' k found rest) :
    SkipsTo c sought depth (marker ++ k) found rest := by
  obtain ⟨i, hi, hfind, hrest⟩ := find_of_stands hc h
  refine .again ?_ (hrest.symm ▸ hk)
  rw [hfind]
  exact hs i hi

theorem SkipsTo.at (hc : c.Scans) (h : Stands c.entries kind marker k)
    (hs : ∀ i, c.marker? i = some kind → c.skipped sought (some i) depth = .stop (some kind)) :
    SkipsTo c sought depth (marker ++ k) kind k := by
  obtain ⟨i, hi, hfind, hrest⟩ := find_of_stands hc h
  have hstop : SkipsTo c sought depth (marker ++ k) kind (c.scan.remainder true (marker ++ k)) := by
    refine .stop ?_
    rw [hfind]
    exact hs i hi
  rwa [hrest] at hstop

/-- A stretch without tokens makes no difference. -/
theorem SkipsTo.over (hc : c.Scans) {stretch : Bytes} (h : Unmarked c.entries stretch k)
    (hk : SkipsTo c sought depth k found rest) :
    SkipsTo c sought depth (stretch ++ k) found rest := by
  -- the search passes the stretch byte by byte
  have hfind : c.scan.find (stretch ++ k) = c.scan.find k := by
    induction stretch with
    | nil => rfl
    | cons b stretch ih =>
      have hentry := TokenTable.match?_entry c.entries (b :: stretch ++ k)
      rw [h _ (List.cons_ne_nil _ _) (List.suffix_refl _), ← hc] at hentry
      have hnone : c.scan.match? (b :: (stretch ++ k)) = none := hentry
      rw [List.cons_append, TokenTable.find_of_no_match hnone]
      exact ih fun suffix hne hsuffix => h suffix hne (hsuffix.trans (List.suffix_cons _ _))
  have hrest : c.scan.remainder true (stretch ++ k) = c.scan.remainder true k := by
    rw [TokenTable.remainder, TokenTable.remainder, hfind]
  cases hk with
  | stop hs =>
    rw [← hrest]
    exact .stop (hfind.symm ▸ hs)
  | again hs hk => exact .again (hfind.symm ▸ hs) (hrest.symm ▸ hk)

end Conditional

/-! ## Documents -/

section Documents

open Conditional

variable {c : Conditional} {sought : Sought} (hc : c.Scans)

include hc

mutual

/-- **The balanced skip**: over a document skipping keeps its depth. -/
theorem Document.skips : ∀ (d : Document) {k : Bytes}, d.Placed c.entries k →
    ∀ {depth : Nat} {found : Marker} {rest : Bytes}, SkipsTo c sought depth k found rest →
      SkipsTo c sought depth (d.before k) found rest
  | .empty, _, _, _, _, _, h => by rwa [Document.before]
  | .text bytes rest, k, hd, _, _, _, h => by
    rw [Document.Placed] at hd
    rw [Document.before]
    exact .over hc hd.1 (rest.skips hd.2 h)
  | .block marker condition body others rest, k, hd, depth, _, _, h => by
    rw [Document.Placed] at hd
    obtain ⟨hmarker, hcondition, hbody, hothers, hrest⟩ := hd
    rw [Document.before]
    -- one level down at the marker, and up again at the end of the block
    refine .past hc (depth + 1) hmarker (fun i hi => by simp only [skipped, hi]) ?_
    exact .over hc hcondition (body.skips hbody (others.skips hothers (rest.skips hrest h)))

/-- Over the end of a block skipping comes out one level up. -/
theorem Branches.skips : ∀ (b : Branches) {k : Bytes}, b.Placed c.entries k →
    ∀ {depth : Nat} {found : Marker} {rest : Bytes}, SkipsTo c sought depth k found rest →
      SkipsTo c sought (depth + 1) (b.before k) found rest
  | .alternative marker condition body others, k, hb, depth, _, _, h => by
    rw [Branches.Placed] at hb
    obtain ⟨hmarker, hcondition, hbody, hothers⟩ := hb
    rw [Branches.before]
    refine .past hc (depth + 1) hmarker (fun i hi => by simp only [skipped, hi]) ?_
    exact .over hc hcondition (body.skips hbody (others.skips hothers h))
  | .fallback marker body last, k, hb, depth, _, _, h => by
    rw [Branches.Placed] at hb
    obtain ⟨hmarker, hbody, hlast⟩ := hb
    rw [Branches.before]
    refine .past hc (depth + 1) hmarker (fun i hi => by simp only [skipped, hi]) ?_
    refine body.skips hbody ?_
    exact .past hc depth hlast (fun i hi => by simp only [skipped, hi]) h
  | .close marker, k, hb, depth, _, _, h => by
    rw [Branches.Placed] at hb
    rw [Branches.before]
    exact .past hc depth hb (fun i hi => by simp only [skipped, hi]) h

end

/-- From inside of a branch, the search for its end stops at the next marker of the block. -/
theorem Document.skips_branch (body : Document) (others : Branches) {k : Bytes}
    (hbody : body.Placed c.entries (others.before k)) (hothers : others.Placed c.entries k) :
    SkipsTo c .branch 0 (body.before (others.before k)) others.kind (others.content k) := by
  refine body.skips hc hbody ?_
  rw [others.before_eq]
  refine .at hc hothers.stands fun i hi => ?_
  cases others <;> simp only [skipped, hi, Branches.kind] <;> rfl

/-- From inside of a branch, the search for the end of the block passes the other branches. -/
theorem Branches.skips_block : ∀ (b : Branches) {k : Bytes}, b.Placed c.entries k →
    SkipsTo c .block 0 (b.before k) .closing k
  | .alternative marker condition body others, k, hb => by
    rw [Branches.Placed] at hb
    obtain ⟨hmarker, hcondition, hbody, hothers⟩ := hb
    rw [Branches.before]
    refine .past hc 0 hmarker (fun i hi => by simp only [skipped, hi]; rfl) ?_
    exact .over hc hcondition (body.skips hc hbody (others.skips_block hothers))
  | .fallback marker body last, k, hb => by
    rw [Branches.Placed] at hb
    obtain ⟨hmarker, hbody, hlast⟩ := hb
    rw [Branches.before]
    refine .past hc 0 hmarker (fun i hi => by simp only [skipped, hi]; rfl) ?_
    exact body.skips hc hbody (.at hc hlast fun i hi => by simp only [skipped, hi]; rfl)
  | .close marker, k, hb => by
    rw [Branches.Placed] at hb
    rw [Branches.before]
    exact .at hc hb fun i hi => by simp only [skipped, hi]; rfl

/-- The same from just after a marker that is not the last one. -/
theorem Branches.skips_content (b : Branches) {k : Bytes} (hb : b.Placed c.entries k)
    (hkind : b.kind ≠ .closing) : SkipsTo c .block 0 (b.content k) .closing k := by
  cases b with
  | alternative marker condition body others =>
    rw [Branches.Placed] at hb
    obtain ⟨-, hcondition, hbody, hothers⟩ := hb
    exact .over hc hcondition (body.skips hc hbody (others.skips_block hc hothers))
  | fallback marker body last =>
    rw [Branches.Placed] at hb
    obtain ⟨-, hbody, hlast⟩ := hb
    exact body.skips hc hbody (.at hc hlast fun i hi => by simp only [skipped, hi]; rfl)
  | close marker => exact absurd rfl hkind

end Documents

end Templating

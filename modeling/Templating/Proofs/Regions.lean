import Templating.Proofs.Processing
import Templating.Proofs.Segments
import Templating.Proofs.Skipping
import Templating.Proofs.Validity

/-!
# Regions

Leftmost-longest matching cuts a text into markers and the bytes between them. Of these bytes
a region leaves those that a count shows: the number of open regions, or the number of
markers where both markers are the same. A run has no such count. It copies what is shown,
and skips what is not by a depth of its own, with a table of its own; the count is what the
two have in common.

* `pieces`: a text as it is cut, and `pieces_find`: a search finds the first marker.
* `RegionSettings.remains`: what a region leaves of these pieces.
* `Region.exists_skip`: skipping stops where the count shows bytes again.
* `Processor.run_region`: a run gives the byte-order mark and what remains.
-/

namespace Templating

/-! ### Pieces of a text -/

section Pieces

variable {α : Type} (tokens : List (Bytes × α))

/-- **The pieces of a text**, from left to right: the longest token at a place is a marker. -/
def pieces (text : Bytes) : List (Piece α) := (segments tokens text).map (·.1)

variable {tokens} {b : UInt8} {text rest token : Bytes} {label : α}

theorem pieces_of_none (h : longestMatch? tokens (b :: rest) = none) :
    pieces tokens (b :: rest) = .byte b :: pieces tokens rest := by
  rw [pieces, segments_of_none h, List.map_cons, pieces]

theorem pieces_of_some (h : longestMatch? tokens text = some (token, label)) :
    pieces tokens text = .marker label :: pieces tokens (text.drop token.length) := by
  rw [pieces, segments_of_some h, List.map_cons, pieces]

/-- **A search for tokens** finds the first marker, and passes the bytes before it. -/
theorem pieces_find {table : TokenTable} (htable : table = .ofList (tokens.map (·.1)))
    (text : Bytes) :
    match (table.find text).1 with
    | none => pieces tokens text = text.map .byte
    | some found => ∃ token label front, tokens[found.1]? = some (token, label) ∧
        pieces tokens text =
          List.map .byte front ++ .marker label :: pieces tokens (table.remainder true text) := by
  have hsegments := segments_find htable text
  cases hfind : (table.find text).1 with
  | none =>
    rw [hfind] at hsegments
    exact hsegments
  | some found =>
    rw [hfind] at hsegments
    obtain ⟨token, label, passed, front, htoken, hpassed, hsegments⟩ := hsegments
    refine ⟨token, label, front, htoken, ?_⟩
    rw [pieces, hsegments, List.map_append, List.map_cons, hpassed, pieces]

end Pieces

/-! ### What a region leaves -/

namespace RegionSettings

variable (s : RegionSettings)

/-- The tokens of the markers in an encoding, each with whether it is the start marker. -/
def tokens (e : Encoding) : List (Bytes × Bool) :=
  if s.start = s.stop then [(e.encode s.start, true)]
  else [(e.encode s.start, true), (e.encode s.stop, false)]

/-- The count after a marker: the number of open regions, which an end marker outside of all
regions leaves at zero, or the number of markers where both are the same. -/
def next (count : Nat) (starts : Bool) : Nat :=
  if s.start = s.stop ∨ starts then count + 1 else count - 1

/-- Whether bytes stay at a count. -/
def shows (count : Nat) : Bool :=
  s.included || if s.start = s.stop then count % 2 == 0 else count == 0

/-- **What a region leaves of pieces**: the bytes that are shown, and no marker. -/
def remains : Nat → List (Piece Bool) → Bytes
  | _, [] => []
  | count, .byte b :: ps => if s.shows count then b :: remains count ps else remains count ps
  | count, .marker starts :: ps => remains (s.next count starts) ps

/-- The count at a depth of skipping: one region more is open, or the number of markers is
odd. -/
def Hidden (depth count : Nat) : Prop :=
  if s.start = s.stop then depth = 0 ∧ count % 2 = 1 else count = depth + 1

variable {s} {count depth : Nat} {front : Bytes} {ps : List (Piece Bool)}

theorem shows_zero : s.shows 0 = true := by simp [shows]

theorem remains_hidden (h : s.shows count = false) :
    s.remains count (front.map .byte ++ ps) = s.remains count ps := by
  induction front with
  | nil => rfl
  | cons b front ih =>
    rw [List.map_cons, List.cons_append, remains, h]
    exact ih

theorem Hidden.shows (h : s.Hidden depth count) (hexcluded : s.included = false) :
    s.shows count = false := by
  unfold Hidden at h
  unfold RegionSettings.shows
  rw [hexcluded, Bool.false_or]
  split at h
  · rename_i htoggle
    rw [if_pos htoggle, h.2]
    rfl
  · rename_i htoggle
    rw [if_neg htoggle, h]
    rfl

/-- The first of the tokens is the start marker. -/
theorem starts_of_getElem? {e : Encoding} {i : Nat} {token : Bytes} {starts : Bool}
    (h : (s.tokens e)[i]? = some (token, starts)) : starts = decide (i = 0) := by
  unfold tokens at h
  split at h
  · rcases i with _ | i
    · cases h
      rfl
    · cases h
  · rcases i with _ | _ | i
    · cases h
      rfl
    · cases h
      rfl
    · cases h

end RegionSettings

namespace Region

/-- A region as its settings make it, apart from its depth, that keeps blanks. -/
structure Follows (r : Region) (s : RegionSettings) (e : Encoding) : Prop where
  tokens : r.tokens = (s.tokens e).map (·.1)
  markers : r.markers = .ofList ((s.tokens e).map (·.1))
  toggle : r.toggle = decide (s.start = s.stop)
  included : r.included = s.included
  keeps : r.whitespace = .keep

theorem follows_make {s : RegionSettings} (hline : s.wholeLine = false) (htrim : s.trim = false)
    (g : Glossary) : (make s g).Follows s g.encoding := by
  have htokens : (make s g).tokens = (s.tokens g.encoding).map (·.1) := by
    simp only [make, RegionSettings.tokens, beq_iff_eq]
    split <;> rfl
  refine ⟨htokens, congrArg TokenTable.ofList htokens, rfl, rfl, ?_⟩
  show WhitespacePolicy.ofFlags s.wholeLine s.trim = .keep
  rw [hline, htrim]
  rfl

theorem Follows.setDepth {r : Region} {s : RegionSettings} {e : Encoding} (h : r.Follows s e)
    (depth : Nat) : ({ r with depth := depth } : Region).Follows s e :=
  ⟨h.tokens, h.markers, h.toggle, h.included, h.keeps⟩

variable {r : Region} {s : RegionSettings} {e : Encoding} {count : Nat}

/-- **A marker inside of a region that is skipped**: skipping goes on where the count hides
bytes, and stops where it shows them. -/
theorem hidden_skipped (h : r.Follows s e) {depth i : Nat} (hhidden : s.Hidden depth count)
    {token : Bytes} {starts : Bool} (hi : (s.tokens e)[i]? = some (token, starts)) :
    match r.skipped (some i) depth with
    | .again depth' => s.Hidden depth' (s.next count starts)
    | .stop _ => s.shows (s.next count starts) = true := by
  have hstarts := RegionSettings.starts_of_getElem? hi
  unfold RegionSettings.Hidden at hhidden ⊢
  unfold RegionSettings.next RegionSettings.shows
  by_cases htoggle : s.start = s.stop
  · have hr : r.toggle = true := h.toggle.trans (decide_eq_true htoggle)
    rw [if_pos htoggle] at hhidden
    obtain ⟨rfl, hodd⟩ := hhidden
    have heven : (count + 1) % 2 = 0 := by omega
    simp [skipped, hr, htoggle, heven]
  · have hr : r.toggle = false := h.toggle.trans (decide_eq_false htoggle)
    rw [if_neg htoggle] at hhidden
    subst hhidden hstarts
    by_cases hzero : i = 0
    · simp [skipped, hr, htoggle, hzero]
    · by_cases hdepth : depth = 0
      · simp [skipped, htoggle, hzero, hdepth]
      · simp [skipped, htoggle, hzero, hdepth]
        omega

/-- **Skipping an excluded region** passes what is hidden, and stops where bytes are shown
again or at the end of the text. -/
theorem exists_skip (h : r.Follows s e) (hexcluded : s.included = false)
    (hhidden : s.Hidden 0 count) (k : Bytes) : ∃ rest count',
      Gives (Window.At · k) r.skip () (Window.At · rest) ∧ rest.length ≤ k.length ∧
        s.shows count' = true ∧
        s.remains count (pieces (s.tokens e) k) = s.remains count' (pieces (s.tokens e) rest) := by
  have hlawful : r.markers.Lawful := h.markers ▸ TokenTable.lawful_ofList _
  have main : ∀ bound depth count k, k.length < bound → s.Hidden depth count → ∃ rest count',
      Gives (Window.At · k) (loop r.skipTurn (fun _ => ()) bound depth) () (Window.At · rest) ∧
        rest.length ≤ k.length ∧ s.shows count' = true ∧
        s.remains count (pieces (s.tokens e) k) =
          s.remains count' (pieces (s.tokens e) rest) := by
    intro bound
    induction bound with
    | zero => intro depth count k hlt; omega
    | succ bound ih =>
      intro depth count k hlt hhidden
      have hshows := hhidden.shows hexcluded
      have hpieces := pieces_find h.markers k
      have hturn : Gives (Window.At · k) (r.skipTurn depth)
          (r.skipped ((r.markers.find k).1.map (·.1)) depth)
          (Window.At · (r.markers.remainder true k)) := by
        rw [skipTurn_eq]
        exact (Window.gives_seekUntil hlawful true k).bind (Gives.pure fun _ hw => hw)
      cases hfind : (r.markers.find k).1 with
      | none =>
        -- the region is never closed
        have hrest : r.markers.remainder true k = [] := by rw [TokenTable.remainder, hfind]
        rw [hfind, hrest] at hturn
        rw [hfind] at hpieces
        refine ⟨[], 0, hturn.loop_stop, Nat.zero_le _, RegionSettings.shows_zero, ?_⟩
        rw [hpieces, ← List.append_nil (k.map _), RegionSettings.remains_hidden hshows]
        rfl
      | some found =>
        rw [hfind] at hturn hpieces
        obtain ⟨token, starts, front, hi, hpieces⟩ := hpieces
        have hless := TokenTable.remainder_length_lt hlawful hfind
        have hafter := hidden_skipped h hhidden hi
        rw [hpieces, RegionSettings.remains_hidden hshows, RegionSettings.remains]
        rw [Option.map_some] at hturn
        cases hskipped : r.skipped (some found.1) depth with
        | again depth' =>
          rw [hskipped] at hturn hafter
          obtain ⟨rest, count', hgives, hle, hshown, hremains⟩ :=
            ih depth' _ (r.markers.remainder true k) (by omega) hafter
          exact ⟨rest, count', hturn.loop_again hgives, by omega, hshown, hremains⟩
        | stop result =>
          rw [hskipped] at hturn hafter
          exact ⟨_, _, hturn.loop_stop, hless.le, hafter, rfl⟩
  obtain ⟨rest, count', hgives, hrest⟩ := main (k.length + 1) 0 count k (Nat.lt_succ_self _) hhidden
  refine ⟨rest, count', ?_, hrest⟩
  intro w hw
  have hskip := hgives w hw
  simp only [skip, bind_apply, get_apply, hw.remaining]
  exact hskip

/-- A region between markers: bytes are shown, and an excluded one has no depth. -/
structure Live (r : Region) (s : RegionSettings) (count : Nat) : Prop where
  shows : s.shows count = true
  depth : s.included = false → r.depth = 0

/-- Where blanks are kept, a marker of a region skips the region that it opens, or it only
changes the depth. -/
theorem handle_of_keep (h : r.whitespace = .keep) (ctx : Context) (i : Nat) :
    (r.handle ctx i : EStateM Error (Session Memory) Region) =
      if r.opens i ∧ r.included = false then do
        Session.onWindow r.skip
        pure r
      else pure { r with depth := if r.opens i then r.depth + 1 else r.depth - 1 } := by
  obtain ⟨tokens, markers, toggle, included, whitespace, depth⟩ := r
  obtain rfl : whitespace = .keep := h
  simp only [handle, WhitespacePolicy.before, WhitespacePolicy.after, pure_bind]
  cases hopens : opens ⟨tokens, markers, toggle, included, .keep, depth⟩ i <;>
    cases included <;> simp

/-- A marker that opens no region while bytes are shown is an end marker outside of all
regions. -/
theorem hidden_or_shows (h : r.Follows s e) (hlive : r.Live s count)
    (hexcluded : s.included = false) {token : Bytes} {starts : Bool} {i : Nat}
    (hi : (s.tokens e)[i]? = some (token, starts)) :
    if r.opens i then s.Hidden 0 (s.next count starts)
    else s.shows (s.next count starts) = true := by
  have hstarts := RegionSettings.starts_of_getElem? hi
  have hshows := hlive.shows
  have hdepth := hlive.depth hexcluded
  unfold RegionSettings.shows at hshows ⊢
  unfold RegionSettings.Hidden RegionSettings.next opens
  rw [hexcluded, Bool.false_or] at hshows ⊢
  by_cases htoggle : s.start = s.stop
  · have hr : r.toggle = true := h.toggle.trans (decide_eq_true htoggle)
    rw [if_pos htoggle, beq_iff_eq] at hshows
    simp [hr, hdepth, htoggle]
    omega
  · have hr : r.toggle = false := h.toggle.trans (decide_eq_false htoggle)
    rw [if_neg htoggle, beq_iff_eq] at hshows
    subst hshows hstarts
    by_cases hzero : i = 0
    · simp [hr, htoggle, hzero]
    · simp [hr, htoggle, hzero]

/-- **A marker is handled**: the region is live again at the new count, after what is hidden. -/
theorem exists_handle (h : r.Follows s e) (hlive : r.Live s count) (ctx : Context) {i : Nat}
    {token : Bytes} {starts : Bool} (hi : (s.tokens e)[i]? = some (token, starts))
    (k output : Bytes) : ∃ (r' : Region) (w : Window) (rest : Bytes) (count' : Nat),
      r.handle ctx i (⟨.whole k, .ofBytes output⟩ : Session Memory) =
        .ok r' ⟨w, .ofBytes output⟩ ∧
      r'.Follows s e ∧ r'.Live s count' ∧ w.At rest ∧ rest.length ≤ k.length ∧
        s.remains (s.next count starts) (pieces (s.tokens e) k) =
          s.remains count' (pieces (s.tokens e) rest) := by
  rw [handle_of_keep h.keeps]
  by_cases hskips : r.opens i ∧ r.included = false
  · have hexcluded : s.included = false := h.included.symm.trans hskips.2
    have hhidden := hidden_or_shows h hlive hexcluded hi
    rw [if_pos hskips.1] at hhidden
    obtain ⟨rest, count', hskip, hle, hshows, hremains⟩ := exists_skip h hexcluded hhidden k
    obtain ⟨w, hw, hrest⟩ := hskip _ (Window.at_whole k)
    refine ⟨r, w, rest, count', ?_, h, ⟨hshows, hlive.depth⟩, hrest, hle, hremains⟩
    simp only [if_pos hskips, bind_apply, Session.onWindow, Session.scan_apply, onStream_apply,
      hw, pure_apply]
  · rw [if_neg hskips]
    refine ⟨_, .whole k, k, s.next count starts, rfl, h.setDepth _, ⟨?_, ?_⟩, Window.at_whole k,
      le_rfl, rfl⟩
    · cases hincluded : s.included with
      | true => rw [RegionSettings.shows, hincluded, Bool.true_or]
      | false =>
        have hopens : ¬ r.opens i = true := fun ho => hskips ⟨ho, h.included.trans hincluded⟩
        have hshows := hidden_or_shows h hlive hincluded hi
        rwa [if_neg hopens] at hshows
    · intro hincluded
      have hopens : ¬ r.opens i = true := fun ho => hskips ⟨ho, h.included.trans hincluded⟩
      have hdepth := hlive.depth hincluded
      show (if r.opens i = true then r.depth + 1 else r.depth - 1) = 0
      rw [if_neg hopens, hdepth]

end Region

/-! ### Runs -/

namespace Stage.Ends

variable {ctx : Context} {r : Region} {s : RegionSettings} {e : Encoding} {count : Nat}

/-- **From a stage on** a region leaves what remains of the pieces that are left. -/
theorem remains (h : r.Follows s e) (hlive : r.Live s count) (modified : Bool)
    (rest output : Bytes) :
    Ends ctx (.ofSets [(s.tokens e).map (·.1)]) ⟨[.region r], modified, rest, output⟩
      (.ok (modified || (pieces (s.tokens e) rest).any Piece.isMarker),
        output ++ s.remains count (pieces (s.tokens e) rest)) := by
  induction hn : rest.length using Nat.strong_induction_on generalizing r count modified rest
    output with
  | _ n ih =>
    have howner := Dispatch.match?_owner [s.tokens e] rest
    rw [List.map_singleton, List.flatten_singleton] at howner
    cases rest with
    | nil =>
      have hnil : pieces (s.tokens e) [] = [] := rfl
      rw [hnil, List.any_nil, Bool.or_false, RegionSettings.remains, List.append_nil]
      exact .ended
    | cons b rest =>
      cases hm : longestMatch? (s.tokens e) (b :: rest) with
      | none =>
        rw [hm] at howner
        have hlater := ih rest.length (by rw [← hn, List.length_cons]; omega) h hlive modified rest
          (output ++ [b]) rfl
        rw [pieces_of_none hm, RegionSettings.remains, if_pos hlive.shows, List.any_cons]
        rw [List.append_assoc] at hlater
        exact .copied howner hlater
      | some found =>
        obtain ⟨token, starts⟩ := found
        rw [hm] at howner
        obtain ⟨⟨operation, i⟩, set, hmatch, hset, hi⟩ := howner
        obtain ⟨hoperation, rfl⟩ := List.getElem?_eq_some_iff.1 hset
        obtain rfl : operation = 0 := by simpa using hoperation
        obtain ⟨r', w, later, count', hhandle, h', hlive', hw, hle, hremains⟩ :=
          Region.exists_handle h hlive ctx hi ((b :: rest).drop token.length) output
        have hpos : 0 < token.length := List.length_pos_iff.2 (longestMatch?_spec hm).2.1
        have hless : later.length < n := by
          rw [List.length_drop, List.length_cons] at hle
          rw [← hn, List.length_cons]
          omega
        have hlater := ih later.length hless h' hlive' true later output rfl
        rw [pieces_of_some hm, RegionSettings.remains, List.any_cons, hremains]
        rw [Bool.true_or] at hlater
        have hmarked : (modified || ((Piece.marker starts).isMarker ||
            (pieces (s.tokens e) ((b :: rest).drop token.length)).any Piece.isMarker)) = true := by
          rw [Piece.isMarker, Bool.true_or, Bool.or_true]
        rw [hmarked]
        refine .handled (List.cons_ne_nil b rest) hmatch ?_ hlater
        simp only [Stage.handled, List.getElem?_cons_zero, Operation.handle, bind_apply, hhandle,
          pure_apply, hw.rest_eq]
        rfl

end Stage.Ends

namespace Processor

/-- **A region is one count over the pieces of its input.** Take a valid configuration whose
only operation is a region that keeps blanks, and any input in any encoding. A run succeeds and
gives the byte-order mark and, of the bytes between the markers of the rest, those that the
region shows: all of them where it is included, those outside of all regions where it is not,
and those after an even number of markers where both markers are the same. -/
theorem run_region (c : Configuration) (hvalid : c.validate = .ok ()) (s : RegionSettings)
    (hops : c.operations = [.region s]) (hline : s.wholeLine = false) (htrim : s.trim = false)
    (v : Variables) (conv : Converter) (ambient : Ambient) (source : Source)
    (hsource : source.fails = false) (ps : List (Piece Bool))
    (hps : ps = pieces (s.tokens (Encoding.detect source.unread.bytes).1)
      (source.unread.bytes.drop (Encoding.detect source.unread.bytes).2)) :
    (make c v conv ambient).map (·.run source (Memory.ofBytes [])) =
      .ok (.ok (ps.any Piece.isMarker), Memory.ofBytes
        (source.unread.bytes.take (Encoding.detect source.unread.bytes).2 ++ s.remains 0 ps)) := by
  have hmake : make c v conv ambient = .ok ⟨c, v, conv⟩ := make_singleton hvalid hops nofun
  let p : Processor := ⟨c, v, conv⟩
  have hfollows := Region.follows_make hline htrim (p.glossary source.unread.bytes)
  have hmaterialize : p.materialize (p.glossary source.unread.bytes) =
      .ok [.region (.make s (p.glossary source.unread.bytes))] :=
    materialize_singleton (p := p) hops rfl
  have hlive : (Region.make s (p.glossary source.unread.bytes)).Live s 0 :=
    ⟨RegionSettings.shows_zero, fun _ => rfl⟩
  have hends : Stage.Ends (p.context source.unread.bytes) _ _ _ :=
    Stage.Ends.remains hfollows hlive false
      (source.unread.bytes.drop (Encoding.detect source.unread.bytes).2)
      (source.unread.bytes.take (Encoding.detect source.unread.bytes).2)
  rw [← hfollows.tokens] at hends
  have hrun := run_eq hsource (.ran hmaterialize hends)
  rw [hmake, hps]
  exact congrArg Except.ok hrun

/-- A region that is left out, with markers of which one begins the other. -/
def leftOut : RegionSettings := ⟨"<", "<>", false, false, false⟩

/-- An end marker outside of all regions, a region inside of another one, and one that is never
closed. -/
def unevenRegions : Source :=
  .ofBytes (Encoding.utf16le.mark ++ Encoding.utf16le.encode "a<>b<c<d<>e<>f<g<>h<i")

theorem run_region_uneven :
    Configuration.validate ⟨Configuration.defaultFormat, [.region leftOut], 1, 1⟩ = .ok () ∧
      (make ⟨Configuration.defaultFormat, [.region leftOut], 1, 1⟩ .empty .standard
          ⟨⟨0, 0⟩, fun _ => 0⟩).map (·.run unevenRegions (Memory.ofBytes [])) =
        .ok (.ok true,
          Memory.ofBytes (Encoding.utf16le.mark ++ Encoding.utf16le.encode "abfh")) := by
  have hremains : leftOut.remains 0 (pieces (leftOut.tokens .utf16le)
      (Encoding.utf16le.encode "a<>b<c<d<>e<>f<g<>h<i")) = Encoding.utf16le.encode "abfh" := by
    decide +kernel
  have hmarked : (pieces (leftOut.tokens .utf16le)
      (Encoding.utf16le.encode "a<>b<c<d<>e<>f<g<>h<i")).any Piece.isMarker = true := by
    decide +kernel
  have hrun := run_region ⟨Configuration.defaultFormat, [.region leftOut], 1, 1⟩ rfl leftOut rfl rfl
    rfl .empty .standard ⟨⟨0, 0⟩, fun _ => 0⟩ unevenRegions rfl
    (pieces (leftOut.tokens .utf16le) (Encoding.utf16le.encode "a<>b<c<d<>e<>f<g<>h<i"))
    (by decide +kernel)
  rw [hremains, hmarked] at hrun
  exact ⟨rfl, hrun⟩

end Processor

end Templating

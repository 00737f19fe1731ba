import Templating.Proofs.Segments
import Templating.Proofs.Skipping

/-!
# Markers of a text

The markers of a text as leftmost-longest matching finds them, whatever stands between
them, and how they balance. Skipping counts these markers, and so its result is read off
their list.

* `places`: the markers of a text, each with the bytes after it.
* `balanced`: every `if` has its `endif`, and no other marker stands outside of blocks.
* `skipTo`: skipping, on the list of markers.
* `Conditional.gives_skip_places`: skipping over a text does what the list says.
* `balanced_of_skipTo`: it passes balanced markers only.
-/

namespace Templating

/-! ## Places of markers -/

section Places

variable (tokens : List (Bytes × Marker))

/-- The marker of a segment, with the bytes after it. -/
def place? (s : Piece Marker × Bytes) : Option (Marker × Bytes) := s.1.label?.map (·, s.2)

/-- **The markers of a text**, from left to right, each with the bytes after it. -/
def places (text : Bytes) : List (Marker × Bytes) := (segments tokens text).filterMap place?

/-- The markers of a text in order. -/
def marks (text : Bytes) : List Marker := (places tokens text).map (·.1)

variable {tokens} {b : UInt8} {text rest token : Bytes} {kind : Marker}

theorem places_of_none (h : longestMatch? tokens (b :: rest) = none) :
    places tokens (b :: rest) = places tokens rest := by
  rw [places, segments_of_none h, List.filterMap_cons_none rfl, places]

theorem places_of_some (h : longestMatch? tokens text = some (token, kind)) :
    places tokens text =
      (kind, text.drop token.length) :: places tokens (text.drop token.length) := by
  rw [places, segments_of_some h, List.filterMap_cons]
  rfl

/-- Bytes alone are no markers. -/
theorem filterMap_place?_eq_nil {passed : List (Piece Marker × Bytes)} {front : Bytes}
    (h : passed.map (·.1) = front.map .byte) : passed.filterMap place? = [] := by
  refine List.filterMap_eq_nil_iff.2 fun s hs => ?_
  obtain ⟨b, -, hb⟩ := List.mem_map.1 (h ▸ List.mem_map_of_mem hs : s.1 ∈ front.map .byte)
  rw [place?, ← hb]
  rfl

/-- What follows a marker is a later part of the text, with the later markers. -/
theorem places_suffix {more : List (Marker × Bytes)}
    (h : (kind, rest) :: more <:+ places tokens text) :
    more = places tokens rest ∧ rest <:+ text ∧ rest.length < text.length := by
  induction hlength : text.length using Nat.strong_induction_on generalizing text with
  | _ n ih =>
    cases text with
    | nil =>
      obtain ⟨front, hfront⟩ := h
      simp [places, segments, segmentsAfter] at hfront
    | cons b text =>
      rw [List.length_cons] at hlength
      cases hm : longestMatch? tokens (b :: text) with
      | none =>
        rw [places_of_none hm] at h
        obtain ⟨hmore, hsuffix, hlt⟩ := ih text.length (by omega) h rfl
        exact ⟨hmore, hsuffix.trans (List.suffix_cons _ _), by omega⟩
      | some found =>
        obtain ⟨token, kind'⟩ := found
        have hpos : 0 < token.length :=
          List.length_pos_iff.2 (longestMatch?_spec hm).2.1
        have hdrop : ((b :: text).drop token.length).length < n := by
          rw [List.length_drop, List.length_cons]
          omega
        rw [places_of_some hm] at h
        rcases List.suffix_cons_iff.1 h with heq | htail
        · obtain ⟨hhead, hmore⟩ := List.cons.inj heq
          cases hhead
          exact ⟨hmore, List.drop_suffix _ _, by omega⟩
        · obtain ⟨hmore, hsuffix, hlt⟩ := ih _ hdrop htail rfl
          exact ⟨hmore, hsuffix.trans (List.drop_suffix _ _), by omega⟩

end Places

/-! ## Balance -/

/-- **Markers inside of so many open blocks are balanced**: every block is closed, and no
marker but `if` stands outside of blocks. -/
def balanced : Nat → List Marker → Bool
  | opened, [] => opened == 0
  | opened, .opening :: ms => balanced (opened + 1) ms
  | 0, _ :: _ => false
  | opened + 1, .closing :: ms => balanced opened ms
  | opened + 1, _ :: ms => balanced (opened + 1) ms

section Balance

variable {kind : Marker} {ms : List Marker} {opened : Nat}

theorem balanced_outside (h : kind ≠ .opening) : balanced 0 (kind :: ms) = false := by
  cases kind with
  | opening => exact absurd rfl h
  | alternative | fallback | closing => rfl

end Balance

namespace Conditional

/-- Skipping over markers, so many blocks deep: the marker that it stops at, and the bytes
after it. -/
def skipTo (sought : Sought) : Nat → List (Marker × Bytes) → Option (Marker × Bytes)
  | _, [] => none
  | depth, (.opening, _) :: more => skipTo sought (depth + 1) more
  | depth + 1, (.closing, _) :: more => skipTo sought depth more
  | 0, (kind, rest) :: more =>
    if sought.meets kind then some (kind, rest) else skipTo sought 0 more
  | depth + 1, _ :: more => skipTo sought (depth + 1) more

variable {c : Conditional} {sought : Sought} {found : Marker × Bytes} {opened : Nat}

/-- **Skipping passes balanced markers only.** -/
theorem balanced_of_skipTo {ps : List (Marker × Bytes)} :
    ∀ {depth : Nat}, skipTo sought depth ps = some found → ∃ more, found :: more <:+ ps ∧
      balanced (opened + 1 + depth) (ps.map (·.1)) =
        balanced (opened + 1) (found.1 :: more.map (·.1)) := by
  induction ps with
  | nil =>
    intro depth h
    cases depth <;> simp [skipTo] at h
  | cons p ps ih =>
    obtain ⟨kind, rest⟩ := p
    -- the marker is passed, and the other ones are balanced at the new depth
    have hpass : ∀ {depth depth' : Nat}, skipTo sought depth' ps = some found →
        balanced (opened + 1 + depth) (kind :: ps.map (·.1)) =
          balanced (opened + 1 + depth') (ps.map (·.1)) →
        ∃ more, found :: more <:+ (kind, rest) :: ps ∧
          balanced (opened + 1 + depth) (kind :: ps.map (·.1)) =
            balanced (opened + 1) (found.1 :: more.map (·.1)) := by
      intro depth depth' h hbalanced
      obtain ⟨more, hmore, hrest⟩ := ih h
      exact ⟨more, hmore.trans (List.suffix_cons _ _), hbalanced.trans hrest⟩
    have hstop : some (kind, rest) = some found →
        ∃ more, found :: more <:+ (kind, rest) :: ps ∧
          balanced (opened + 1 + 0) (kind :: ps.map (·.1)) =
            balanced (opened + 1) (found.1 :: more.map (·.1)) := by
      intro h
      cases h
      exact ⟨ps, List.suffix_refl _, rfl⟩
    intro depth h
    rw [List.map_cons]
    cases kind with
    | opening =>
      have hdeeper : skipTo sought (depth + 1) ps = some found := by cases depth <;> exact h
      exact hpass hdeeper rfl
    | closing =>
      cases depth with
      | zero =>
        have hmeets : sought.meets .closing = true := by cases sought <;> rfl
        rw [skipTo, if_pos hmeets] at h
        · exact hstop h
        · simp
      | succ depth => exact hpass h rfl
    | alternative | fallback =>
      cases depth with
      | zero =>
        rw [skipTo] at h
        · split at h
          · exact hstop h
          · exact hpass h rfl
        · simp
      | succ depth => exact hpass h rfl

/-- Where skipping finds nothing, a block is never closed. -/
theorem unbalanced_of_skipTo {ps : List (Marker × Bytes)} :
    ∀ {depth : Nat}, skipTo sought depth ps = none →
      balanced (opened + 1 + depth) (ps.map (·.1)) = false := by
  induction ps with
  | nil =>
    intro depth _
    rw [List.map_nil, balanced]
    exact beq_false_of_ne (by omega)
  | cons p ps ih =>
    obtain ⟨kind, rest⟩ := p
    intro depth h
    rw [List.map_cons]
    cases kind with
    | opening =>
      have hdeeper : skipTo sought (depth + 1) ps = none := by cases depth <;> exact h
      exact ih hdeeper
    | closing =>
      cases depth with
      | zero => cases sought <;> simp [skipTo, Sought.meets] at h
      | succ depth => exact @ih depth h
    | alternative | fallback =>
      cases depth with
      | zero =>
        cases sought with
        | branch => simp [skipTo, Sought.meets] at h
        | block =>
          have hpassed : skipTo .block 0 ps = none := by simpa [skipTo, Sought.meets] using h
          exact ih hpassed
      | succ depth => exact @ih (depth + 1) h

/-! ## Skipping over a text -/

/-- The markers of a text are those that skipping finds one after the other. -/
theorem places_find (hc : c.Scans) (text : Bytes) :
    match (c.scan.find text).1 with
    | none => places c.entries text = []
    | some found => ∃ kind, c.marker? found.1 = some kind ∧
        places c.entries text = (kind, c.scan.remainder true text) ::
          places c.entries (c.scan.remainder true text) := by
  have hsegments := segments_find hc text
  cases hfind : (c.scan.find text).1 with
  | none =>
    rw [hfind] at hsegments
    exact filterMap_place?_eq_nil hsegments
  | some found =>
    rw [hfind] at hsegments
    obtain ⟨token, kind, passed, front, htoken, hpassed, hsegments⟩ := hsegments
    refine ⟨kind, marker?_of_entries htoken, ?_⟩
    rw [places, hsegments, List.filterMap_append, filterMap_place?_eq_nil hpassed,
      List.nil_append, List.filterMap_cons]
    rfl

theorem skipTo_cons (depth : Nat) (kind : Marker) (rest : Bytes) (more : List (Marker × Bytes))
    {i : Nat} (hi : c.marker? i = some kind) :
    skipTo sought depth ((kind, rest) :: more) = match c.skipped sought (some i) depth with
      | .again depth' => skipTo sought depth' more
      | .stop _ => some (kind, rest) := by
  simp only [skipped, hi]
  cases kind <;> cases depth <;> simp only [skipTo] <;> split <;> simp_all

theorem skipped_stop {depth i : Nat} {kind : Marker} {result : Option Marker}
    (hi : c.marker? i = some kind) (h : c.skipped sought (some i) depth = .stop result) :
    result = some kind := by
  simp only [skipped, hi] at h
  cases kind <;> cases depth <;> simp only [reduceCtorEq] at h <;> split at h <;> cases h <;> rfl

/-- **Skipping over a text** does what the list of its markers says. -/
theorem gives_skip_places (hc : c.Scans) (sought : Sought) (text : Bytes) :
    Gives (Window.At · text) (c.skip sought) ((skipTo sought 0 (places c.entries text)).map (·.1))
      (Window.At · (((skipTo sought 0 (places c.entries text)).map (·.2)).getD [])) := by
  have main : ∀ bound depth text, text.length < bound →
      Gives (Window.At · text) (loop (c.skipTurn sought) (fun _ => none) bound depth)
        ((skipTo sought depth (places c.entries text)).map (·.1))
        (Window.At · (((skipTo sought depth (places c.entries text)).map (·.2)).getD [])) := by
    intro bound
    induction bound with
    | zero => exact fun depth text h => absurd h (Nat.not_lt_zero _)
    | succ bound ih =>
      intro depth text hbound
      have hturn := gives_skipTurn hc sought depth text
      have hplaces := places_find hc text
      cases hfind : (c.scan.find text).1 with
      | none =>
        rw [hfind] at hturn hplaces
        have hrest : c.scan.remainder true text = [] := by rw [TokenTable.remainder, hfind]
        rw [hrest] at hturn
        rw [hplaces]
        have hnone : skipTo sought depth [] = none := by cases depth <;> rfl
        rw [hnone]
        exact hturn.loop_stop
      | some found =>
        rw [hfind] at hturn hplaces
        obtain ⟨kind, hkind, hplaces⟩ := hplaces
        have hlt := TokenTable.remainder_length_lt hc.lawful hfind
        rw [hplaces, skipTo_cons depth kind _ _ hkind]
        rw [Option.map_some] at hturn
        cases hskipped : c.skipped sought (some found.1) depth with
        | again depth' =>
          rw [hskipped] at hturn
          exact hturn.loop_again (ih depth' _ (by omega))
        | stop result =>
          obtain rfl := skipped_stop hkind hskipped
          rw [hskipped] at hturn
          exact hturn.loop_stop
  intro w hw
  simp only [skip, bind_apply, get_apply]
  exact main _ 0 text (by rw [hw.remaining]; omega) w hw

end Conditional

end Templating

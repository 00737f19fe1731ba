import Templating.Proofs.Faithful
import Templating.Proofs.Stage

/-!
# Cutting what has been written

Looking back into the output goes stretch by stretch, since the output is read back from
where it was written to. What is found and what is cut does not depend on the stretches.

* `Target.gives_loop_backTurn`: the last end of a token, looked for in all of the output.
* `Target.Sheds`: texts that lose tokens at their end; `Target.gives_loop_stripTurn`: so does an
  output, until it ends with no token any more.
* `Target.cutBackTo_apply`, `Target.cutTrailing_apply`: what is left of an output in memory.
-/

namespace Templating

namespace TokenTable

/-- A table whose entries are not empty and not longer than its greatest length. -/
def Measured (t : TokenTable) : Prop := ∀ x ∈ t.entries, x.2 ≠ [] ∧ x.2.length ≤ t.longest

variable {t : TokenTable} {reversed : Bytes}

theorem matchReversed?_eq_none :
    t.matchReversed? reversed = none ↔ ∀ x ∈ t.entries, ¬ x.2.reverse <+: reversed := by
  simp only [matchReversed?, List.max?_eq_none_iff, List.filterMap_eq_nil_iff, ite_eq_right_iff,
    reduceCtorEq, imp_false, List.isPrefixOf_iff_prefix]

theorem matchReversed?_eq_some {n : Nat} :
    t.matchReversed? reversed = some n ↔
      (∃ x ∈ t.entries, x.2.reverse <+: reversed ∧ x.2.length = n) ∧
        ∀ x ∈ t.entries, x.2.reverse <+: reversed → x.2.length ≤ n := by
  simp only [matchReversed?, List.max?_eq_some_iff, List.mem_filterMap,
    Option.ite_none_right_eq_some, Option.some.injEq, List.isPrefixOf_iff_prefix]
  refine and_congr_right fun _ => ⟨fun h x hx hp => h _ ⟨x, hx, hp, rfl⟩, ?_⟩
  rintro h _ ⟨x, hx, hp, rfl⟩
  exact h x hx hp

/-- The byte sequences that a table has a number for. -/
def tokens (t : TokenTable) : List Bytes := t.entries.map (·.2)

theorem matchEnd?_eq_none {text : Bytes} :
    t.matchEnd? text = none ↔ ∀ token ∈ t.tokens, ¬ token <:+ text := by
  simp only [matchEnd?, matchReversed?_eq_none, tokens, List.forall_mem_map, List.reverse_prefix]

theorem matchEnd?_eq_some {text : Bytes} {n : Nat} :
    t.matchEnd? text = some n ↔ (∃ token ∈ t.tokens, token <:+ text ∧ token.length = n) ∧
      ∀ token ∈ t.tokens, token <:+ text → token.length ≤ n := by
  rw [matchEnd?, matchReversed?_eq_some]
  refine and_congr ?_ (by simp only [tokens, List.forall_mem_map, List.reverse_prefix])
  simp only [tokens, List.mem_map, exists_exists_and_eq_and, List.reverse_prefix]

theorem le_of_matchReversed? {n : Nat} (h : t.matchReversed? reversed = some n) :
    n ≤ reversed.length := by
  obtain ⟨⟨x, -, hp, rfl⟩, -⟩ := matchReversed?_eq_some.1 h
  rw [← List.length_reverse]
  exact hp.length_le

theorem Measured.ne_nil (ht : t.Measured) {token : Bytes} (h : token ∈ t.tokens) : token ≠ [] := by
  obtain ⟨x, hx, rfl⟩ := List.mem_map.1 h
  exact (ht x hx).1

theorem Measured.pos_of_match (ht : t.Measured) {n : Nat}
    (h : t.matchReversed? reversed = some n) : 0 < n := by
  obtain ⟨⟨x, hx, -, rfl⟩, -⟩ := matchReversed?_eq_some.1 h
  exact List.length_pos_iff.2 (ht x hx).1

/-- No more bytes than the longest token has are looked at. -/
theorem Measured.matchReversed?_take (ht : t.Measured) {n : Nat} (hn : t.longest ≤ n) :
    t.matchReversed? (reversed.take n) = t.matchReversed? reversed := by
  simp only [matchReversed?]
  congr 1
  refine List.filterMap_congr fun x hx => ?_
  have hlen := (ht x hx).2
  have hiff : x.2.reverse.isPrefixOf (reversed.take n) = x.2.reverse.isPrefixOf reversed := by
    rw [Bool.eq_iff_iff, List.isPrefixOf_iff_prefix, List.isPrefixOf_iff_prefix,
      List.prefix_take_iff, List.length_reverse]
    exact and_iff_left (by omega)
  rw [hiff]

end TokenTable

namespace Target

variable {t : TokenTable} {unit : Nat}

/-! ## The last end of a token -/

/-- A stretch that reaches over the longest token shows what all of the output shows. -/
theorem lastEnd?_take (ht : t.Measured) (tests : Nat) :
    ∀ (reversed : Bytes) (distance n : Nat), tests + t.longest ≤ n + 1 →
      lastEnd? t unit (reversed.take n) distance tests =
        lastEnd? t unit reversed distance tests := by
  induction tests with
  | zero => exact fun _ _ _ _ => rfl
  | succ tests ih =>
    intro reversed distance n hn
    have hnext : (reversed.take n).drop 1 = (reversed.drop 1).take (n - 1) := by
      rw [List.drop_take]
    simp only [lastEnd?, ht.matchReversed?_take (show t.longest ≤ n by omega), hnext,
      ih _ _ (n - 1) (show tests + t.longest ≤ n - 1 + 1 by omega)]

/-- Where the first tests find nothing the others decide. -/
theorem lastEnd?_add (t : TokenTable) (unit tests more : Nat) :
    ∀ (reversed : Bytes) (distance : Nat), lastEnd? t unit reversed distance (tests + more) =
      match lastEnd? t unit reversed distance tests with
      | some found => some found
      | none => lastEnd? t unit (reversed.drop tests) (distance - tests) more := by
  induction tests with
  | zero => intro reversed distance; rw [Nat.zero_add]; rfl
  | succ tests ih =>
    intro reversed distance
    rw [Nat.add_right_comm, lastEnd?, lastEnd?]
    cases (if distance % unit = 0 then t.matchReversed? reversed else none) with
    | some length => rfl
    | none =>
      simp only [ih, List.drop_drop]
      rw [Nat.add_comm 1 tests, Nat.sub_sub, Nat.add_comm 1 tests]

/-- The output from the floor to a place, read backwards. -/
def reversedTo (bytes : Bytes) (floor stop : Nat) : Bytes := ((bytes.take stop).drop floor).reverse

/-- What lies above a mark. -/
theorem reversedTo_above (mark body : Bytes) (n : Nat) :
    reversedTo (mark ++ body) mark.length (mark.length + n) = (body.take n).reverse := by
  rw [reversedTo, List.take_length_add_append, List.drop_left]

variable {bytes : Bytes} {floor stop start : Nat}

theorem length_reversedTo (hstop : stop ≤ bytes.length) :
    (reversedTo bytes floor stop).length = stop - floor := by
  rw [reversedTo, List.length_reverse, List.length_drop, List.length_take_of_le hstop]

/-- What is read back from a place on. -/
theorem reverse_slice (hfloor : floor ≤ start) (hle : start ≤ stop) (hstop : stop ≤ bytes.length) :
    ((bytes.drop start).take (stop - start)).reverse =
      (reversedTo bytes floor stop).take (stop - start) := by
  rw [reversedTo, List.take_reverse, List.drop_drop, List.length_drop, List.length_take_of_le hstop,
    ← List.drop_take]
  congr 3
  omega

theorem drop_reversedTo (hfloor : floor ≤ start) (hle : start ≤ stop)
    (hstop : stop ≤ bytes.length) :
    (reversedTo bytes floor stop).drop (stop - start) = reversedTo bytes floor start := by
  rw [reversedTo, reversedTo, List.drop_reverse, List.length_drop, List.length_take_of_le hstop,
    List.take_drop, List.take_take]
  congr 3
  omega

/-- What is kept of a stretch, with all before the stretch, is the output up to some place. -/
theorem append_drop_reversedTo (hfloor : floor ≤ start) (hle : start ≤ stop)
    (hstop : stop ≤ bytes.length) {kept : Bytes}
    (h : kept <:+ (reversedTo bytes floor stop).take (stop - start)) :
    kept ++ (reversedTo bytes floor stop).drop (stop - start) =
      reversedTo bytes floor (start + kept.length) := by
  have htake : ((reversedTo bytes floor stop).take (stop - start)).length = stop - start := by
    rw [List.length_take, length_reversedTo hstop]
    omega
  have hdrop := List.suffix_iff_eq_drop.1 h
  have hkept := h.length_le
  rw [htake] at hdrop hkept
  have hcut := drop_reversedTo (show floor ≤ start + kept.length by omega) (by omega) hstop
  rw [← hcut, ← Nat.sub_sub]
  conv_rhs => rw [← List.take_append_drop (stop - start) (reversedTo bytes floor stop)]
  rw [List.drop_append_of_le_length (by omega), ← hdrop]

variable {τ : Type} [Target τ] {view : View τ}

/-- What is found in a text lies in that text. -/
theorem lastEnd?_le (tests : Nat) : ∀ {reversed : Bytes} {distance found length : Nat},
    reversed.length ≤ distance →
      lastEnd? t unit reversed distance tests = some (found, length) →
      length ≤ found ∧ found ≤ distance := by
  induction tests with
  | zero =>
    intro _ _ _ _ _ h
    cases h
  | succ tests ih =>
    intro reversed distance found length hle h
    rw [lastEnd?] at h
    split at h
    · rename_i n hn
      cases h
      refine ⟨?_, le_rfl⟩
      split at hn
      · exact (TokenTable.le_of_matchReversed? hn).trans hle
      · cases hn
    · have hdrop : (reversed.drop 1).length ≤ distance - 1 := by
        rw [List.length_drop]
        omega
      have hrest := ih hdrop h
      omega

/-- **Looking for a token stretch by stretch** finds the last end of a token in all of the
output. -/
theorem gives_loop_backTurn (hview : view.Dependable) (unit : Nat) (ht : t.Measured)
    (bound : Nat) : ∀ stop, stop ≤ bytes.length → stop - floor < bound →
      Gives (view.Holds bytes) (loop (backTurn t unit floor) (fun _ => none) bound stop)
        (lastEnd? t unit (reversedTo bytes floor stop) (stop - floor) (stop - floor))
        (view.Holds bytes) := by
  induction bound with
  | zero => intro stop _ hb; omega
  | succ bound ih =>
    intro stop hstop hb
    by_cases hend : stop ≤ floor
    · have hzero : stop - floor = 0 := by omega
      rw [hzero]
      refine Gives.loop_stop fun s hs => ⟨s, ?_, hs⟩
      simp only [backTurn, if_pos hend, pure_apply, lastEnd?]
    · obtain ⟨start, hstart⟩ : ∃ start, start = max (stop - stretch) floor := ⟨_, rfl⟩
      obtain ⟨readStart, hread⟩ : ∃ r, r = max (start - (t.longest - 1)) floor := ⟨_, rfl⟩
      have hpos : 0 < stretch := by decide
      have hslice := reverse_slice (show floor ≤ readStart by omega)
        (show readStart ≤ stop by omega) hstop
      -- the stretch is all there is, or it reaches over the longest token
      have hwindow : lastEnd? t unit ((reversedTo bytes floor stop).take (stop - readStart))
          (stop - floor) (stop - start) =
            lastEnd? t unit (reversedTo bytes floor stop) (stop - floor) (stop - start) := by
        by_cases hall : readStart = floor
        · rw [List.take_of_length_le (by rw [length_reversedTo hstop]; omega)]
        · exact lastEnd?_take ht _ _ _ _ (by omega)
      have hturn : Gives (view.Holds bytes) (backTurn t unit floor stop)
          (match lastEnd? t unit (reversedTo bytes floor stop) (stop - floor) (stop - start) with
            | some found => .stop (some found)
            | none => .again start) (view.Holds bytes) := by
        intro s hs
        obtain ⟨s', hreadAt, hs'⟩ :=
          hview.readAt bytes readStart (stop - readStart) (by omega) s hs
        refine ⟨s', ?_, hs'⟩
        simp only [backTurn, if_neg hend, ← hstart, ← hread, bind_apply, hreadAt, hslice, hwindow]
        cases lastEnd? t unit (reversedTo bytes floor stop) (stop - floor) (stop - start) <;> rfl
      have hsplit : stop - floor = stop - start + (start - floor) := by omega
      have hrest : stop - floor - (stop - start) = start - floor := by omega
      have hadd := lastEnd?_add t unit (stop - start) (start - floor)
        (reversedTo bytes floor stop) (stop - floor)
      rw [← hsplit, hrest, drop_reversedTo (by omega) (by omega) hstop] at hadd
      rw [hadd]
      cases hfound : lastEnd? t unit (reversedTo bytes floor stop) (stop - floor)
          (stop - start) with
      | some found =>
        rw [hfound] at hturn
        exact Gives.loop_stop hturn
      | none =>
        rw [hfound] at hturn
        exact Gives.loop_again hturn (ih start (by omega) (by omega))

/-- **Cutting back to the last token** keeps what lies before its end, or up to its start when
it is consumed. -/
theorem gives_cutBackTo (hview : view.Dependable) (unit : Nat) (ht : t.Measured)
    (consume : Bool) :
    Gives (view.Holds bytes) (cutBackTo t unit floor consume) () (view.Holds (bytes.take
      ((lastEnd? t unit (reversedTo bytes floor bytes.length) (bytes.length - floor)
          (bytes.length - floor)).elim floor fun found =>
        if consume then floor + found.1 - found.2 else floor + found.1))) := by
  refine (hview.size bytes).bind ?_
  refine (gives_loop_backTurn hview unit ht (bytes.length + 1) bytes.length le_rfl
    (by omega)).bind ?_
  cases hfound : lastEnd? t unit (reversedTo bytes floor bytes.length) (bytes.length - floor)
      (bytes.length - floor) with
  | some found =>
    have hle := lastEnd?_le _ (length_reversedTo le_rfl).le hfound
    refine hview.truncate bytes _ ?_
    -- a token has been found, so there is something above the floor
    have habove : floor ≤ bytes.length := by
      by_contra hlt
      rw [show bytes.length - floor = 0 by omega] at hfound
      cases hfound
    cases consume <;> simp only [if_true, if_false, Bool.false_eq_true] <;> omega
  | none =>
    simp only [Option.elim_none]
    split
    · exact hview.truncate bytes floor (by omega)
    · rw [List.take_of_length_le (by omega)]
      exact Gives.pure fun s hs => hs

/-- What is known of an output in memory is all of it. -/
theorem memory_apply {m : Memory} {action : EStateM IoError Memory Unit} {kept : Bytes}
    (h : Gives (Memory.view.Holds m.toBytes) action () (Memory.view.Holds kept)) :
    action m = .ok () (.ofBytes kept) := by
  obtain ⟨m', haction, rfl, -⟩ := h m ⟨rfl, trivial⟩
  exact haction

theorem cutBackTo_apply (unit floor : Nat) (ht : t.Measured) (m : Memory) (consume : Bool) :
    (cutBackTo t unit floor consume : EStateM IoError Memory Unit) m =
      .ok () (.ofBytes (m.toBytes.take
        ((lastEnd? t unit (reversedTo m.toBytes floor m.toBytes.length) (m.toBytes.length - floor)
            (m.toBytes.length - floor)).elim floor fun found =>
          if consume then floor + found.1 - found.2 else floor + found.1))) :=
  memory_apply (gives_cutBackTo Memory.dependable unit ht consume)

/-! ## The tokens at the end -/

theorem strip_of_none {n : Nat} {reversed : Bytes} (h : t.matchReversed? reversed = none) :
    strip t n reversed = reversed := by
  cases n with
  | zero => rfl
  | succ n => rw [strip, h]

theorem strip_of_match {n length : Nat} {reversed : Bytes}
    (h : t.matchReversed? reversed = some length) :
    strip t (n + 1) reversed = strip t n (reversed.drop length) := by
  rw [strip, h]

theorem strip_suffix (t : TokenTable) (n : Nat) :
    ∀ reversed : Bytes, strip t n reversed <:+ reversed := by
  induction n with
  | zero => exact fun reversed => List.suffix_rfl
  | succ n ih =>
    intro reversed
    cases hm : t.matchReversed? reversed with
    | none => rw [strip_of_none hm]
    | some length =>
      rw [strip_of_match hm]
      exact (ih _).trans (List.drop_suffix _ _)

/-- As many tests as there are bytes leave no token. -/
theorem strip_stuck (ht : t.Measured) (n : Nat) : ∀ reversed : Bytes, reversed.length ≤ n →
    t.matchReversed? (strip t n reversed) = none := by
  induction n with
  | zero =>
    intro reversed hn
    rw [strip, TokenTable.matchReversed?_eq_none, List.length_eq_zero_iff.1 (Nat.le_zero.1 hn)]
    intro x hx hp
    exact (ht x hx).1 (List.reverse_eq_nil_iff.1 (List.prefix_nil.1 hp))
  | succ n ih =>
    intro reversed hn
    cases hm : t.matchReversed? reversed with
    | none => rwa [strip_of_none hm]
    | some length =>
      rw [strip_of_match hm]
      have hpos := ht.pos_of_match hm
      exact ih _ (by rw [List.length_drop]; omega)

/-- More tests than bytes change nothing. -/
theorem strip_enough (ht : t.Measured) (n : Nat) : ∀ (m : Nat) (reversed : Bytes),
    reversed.length ≤ n → reversed.length ≤ m → strip t n reversed = strip t m reversed := by
  induction n with
  | zero =>
    intro m reversed hn _
    have hnone : t.matchReversed? reversed = none := strip_stuck ht 0 reversed hn
    rw [strip, strip_of_none hnone]
  | succ n ih =>
    intro m reversed hn hm
    cases hmatch : t.matchReversed? reversed with
    | none => rw [strip_of_none hmatch, strip_of_none hmatch]
    | some length =>
      have hpos := ht.pos_of_match hmatch
      have hle := TokenTable.le_of_matchReversed? hmatch
      obtain ⟨m, rfl⟩ : ∃ k, m = k + 1 := ⟨m - 1, by omega⟩
      rw [strip_of_match hmatch, strip_of_match hmatch]
      exact ih m _ (by rw [List.length_drop]; omega) (by rw [List.length_drop]; omega)

/-- A table in which a token that ends a text is the longest one there, however little of the
text is seen. -/
def Decisive (t : TokenTable) : Prop := ∀ (reversed : Bytes) (n length : Nat),
  t.matchReversed? (reversed.take n) = some length → t.matchReversed? reversed = some length

/-- What is stripped off a stretch is stripped off all. -/
theorem strip_window (ht : t.Measured) (hd : Decisive t) (k : Nat) : ∀ (N n : Nat)
    (reversed : Bytes), reversed.length ≤ N →
      strip t N reversed = strip t N (strip t k (reversed.take n) ++ reversed.drop n) := by
  induction k with
  | zero => intro N n reversed _; rw [strip, List.take_append_drop]
  | succ k ih =>
    intro N n reversed hN
    cases hm : t.matchReversed? (reversed.take n) with
    | none => rw [strip_of_none hm, List.take_append_drop]
    | some length =>
      -- the token that ends the stretch is the longest one that ends the output
      have hmatch := hd reversed n length hm
      have hpos := ht.pos_of_match hm
      have hle := TokenTable.le_of_matchReversed? hm
      rw [List.length_take] at hle
      obtain ⟨N, rfl⟩ : ∃ k, N = k + 1 := ⟨N - 1, by omega⟩
      have hdrop : reversed.drop n = (reversed.drop length).drop (n - length) := by
        rw [List.drop_drop]
        congr 1
        omega
      rw [strip_of_match hmatch, strip_of_match hm, List.drop_take, hdrop,
        ← ih (N + 1) (n - length) (reversed.drop length) (by rw [List.length_drop]; omega)]
      exact strip_enough ht _ _ _ (by rw [List.length_drop]; omega)
        (by rw [List.length_drop]; omega)

/-- **A text that loses tokens** at its end, one after the other. -/
inductive Sheds (tokens : List Bytes) : Bytes → Bytes → Prop
  | refl (text : Bytes) : Sheds tokens text text
  | token {text token kept : Bytes} : token ∈ tokens → Sheds tokens text kept →
      Sheds tokens (text ++ token) kept

theorem Sheds.append_left {tokens : List Bytes} {text kept : Bytes} (h : Sheds tokens text kept)
    (front : Bytes) : Sheds tokens (front ++ text) (front ++ kept) := by
  induction h with
  | refl text => exact .refl _
  | token hmem _ ih =>
    rw [← List.append_assoc]
    exact .token hmem ih

theorem Sheds.trans {tokens : List Bytes} {text between kept : Bytes}
    (h : Sheds tokens text between) (h' : Sheds tokens between kept) : Sheds tokens text kept := by
  induction h with
  | refl text => exact h'
  | token hmem _ ih => exact .token hmem (ih h')

/-- The text before the longest token at its end. -/
theorem eq_append_of_match {reversed : Bytes} {length : Nat}
    (h : t.matchReversed? reversed = some length) : ∃ token ∈ t.tokens,
      token.length = length ∧ reversed.reverse = (reversed.drop length).reverse ++ token := by
  obtain ⟨⟨x, hx, ⟨rest, rfl⟩, rfl⟩, -⟩ := TokenTable.matchReversed?_eq_some.1 h
  refine ⟨x.2, List.mem_map_of_mem hx, rfl, ?_⟩
  rw [← x.2.length_reverse, List.drop_left, List.reverse_append, List.reverse_reverse]

/-- What is stripped off a text are tokens. -/
theorem sheds_strip (t : TokenTable) (n : Nat) : ∀ reversed : Bytes,
    Sheds t.tokens reversed.reverse (strip t n reversed).reverse := by
  induction n with
  | zero => exact fun reversed => .refl _
  | succ n ih =>
    intro reversed
    cases hm : t.matchReversed? reversed with
    | none =>
      rw [strip_of_none hm]
      exact .refl _
    | some length =>
      obtain ⟨token, hmem, -, htext⟩ := eq_append_of_match hm
      rw [strip_of_match hm, htext]
      exact .token hmem (ih _)

/-- Where a token that ends a text is the longest one there, nothing else can be stripped off. -/
theorem strip_sheds (ht : t.Measured) (hd : Decisive t) {text kept : Bytes}
    (h : Sheds t.tokens text kept) (n : Nat) (hn : text.length ≤ n) :
    strip t n text.reverse = strip t n kept.reverse := by
  induction h generalizing n with
  | refl text => rfl
  | token hmem hsheds ih =>
    rename_i text token kept
    have htoken : t.matchReversed? ((text ++ token).reverse.take token.length) =
        some token.length := by
      obtain ⟨x, hx, rfl⟩ := List.mem_map.1 hmem
      rw [List.reverse_append, ← x.2.length_reverse, List.take_left, x.2.length_reverse]
      refine TokenTable.matchReversed?_eq_some.2 ⟨⟨x, hx, List.prefix_rfl, rfl⟩, ?_⟩
      intro y _ hp
      have hle := hp.length_le
      rwa [List.length_reverse, List.length_reverse] at hle
    have hpos := List.length_pos_iff.2 (ht.ne_nil hmem)
    rw [List.length_append] at hn
    obtain ⟨n, rfl⟩ : ∃ k, n = k + 1 := ⟨n - 1, by omega⟩
    rw [strip_of_match (hd _ _ _ htoken), List.reverse_append, ← token.length_reverse,
      List.drop_left, ← ih (n + 1) (by omega)]
    exact strip_enough ht _ _ _ (by rw [List.length_reverse]; omega)
      (by rw [List.length_reverse]; omega)

variable {kept : Nat}

/-- Stripping a stretch leaves the output up to some place. -/
theorem sheds_stretch (t : TokenTable) (hfloor : floor ≤ start) (hle : start ≤ stop)
    (hstop : stop ≤ bytes.length) (hkept : kept =
      (strip t (stop - start) ((reversedTo bytes floor stop).take (stop - start))).length) :
    kept ≤ stop - start ∧
      Sheds t.tokens (reversedTo bytes floor stop).reverse
        (reversedTo bytes floor (start + kept)).reverse := by
  have hsuffix := strip_suffix t (stop - start)
    ((reversedTo bytes floor stop).take (stop - start))
  have hsheds := sheds_strip t (stop - start) ((reversedTo bytes floor stop).take (stop - start))
  have hlength := hsuffix.length_le
  have hall := append_drop_reversedTo hfloor hle hstop hsuffix
  rw [List.length_take] at hlength
  rw [← hkept] at hlength hall
  refine ⟨by omega, ?_⟩
  have hback := hsheds.append_left ((reversedTo bytes floor stop).drop (stop - start)).reverse
  rwa [← List.reverse_append, ← List.reverse_append, List.take_append_drop, hall] at hback

/-- The place that is left is the end of all tokens if a longest token lies behind the start of
the stretch, or if the stretch begins at the floor. -/
theorem none_of_stretch (ht : t.Measured) (hfloor : floor ≤ start) (hle : start ≤ stop)
    (hstop : stop ≤ bytes.length) (hkept : kept =
      (strip t (stop - start) ((reversedTo bytes floor stop).take (stop - start))).length)
    (hlong : t.longest ≤ kept ∨ start = floor) :
    t.matchReversed? (reversedTo bytes floor (start + kept)) = none := by
  have hsuffix := strip_suffix t (stop - start)
    ((reversedTo bytes floor stop).take (stop - start))
  have hstuck := strip_stuck ht (stop - start)
    ((reversedTo bytes floor stop).take (stop - start)) (List.length_take_le _ _)
  have hall := append_drop_reversedTo hfloor hle hstop hsuffix
  rw [← hkept] at hall
  rw [← hall]
  rcases hlong with hlong | hbottom
  · rw [← ht.matchReversed?_take (hkept ▸ hlong), List.take_left]
    exact hstuck
  · have hlen : (reversedTo bytes floor stop).length = stop - floor := length_reversedTo hstop
    rw [List.drop_of_length_le (by omega), List.append_nil]
    exact hstuck

/-- What one turn does about the stretch before a place. -/
theorem gives_stripTurn (hview : view.Dependable) (hfloor : floor < stop)
    (hstop : stop ≤ bytes.length) (hstart : start = max (stop - max stretch t.longest) floor)
    (hkept : kept =
      (strip t (stop - start) ((reversedTo bytes floor stop).take (stop - start))).length) :
    Gives (view.Holds bytes) (stripTurn t floor stop)
      (if kept = stop - start ∨ start = floor ∨ t.longest ≤ kept then .stop (start + kept)
        else .again (start + kept)) (view.Holds bytes) := by
  have hpos : 0 < stretch := by decide
  have hslice := reverse_slice (show floor ≤ start by omega) (show start ≤ stop by omega) hstop
  have hcount : ((bytes.drop start).take (stop - start)).length = stop - start := by
    rw [← List.length_reverse, hslice, List.length_take, length_reversedTo hstop]
    omega
  intro s hs
  obtain ⟨s', hread, hs'⟩ := hview.readAt bytes start (stop - start) (by omega) s hs
  refine ⟨s', ?_, hs'⟩
  simp only [stripTurn, if_neg (Nat.not_le.2 hfloor), ← hstart, bind_apply, hread, hslice, hcount,
    if_apply, pure_apply, ← hkept]
  split <;> rfl

/-- **Stripping stretch by stretch** takes tokens off the output until it ends with none. Where
the output is no longer than a stretch, they are those that are stripped off all of it. -/
theorem gives_loop_stripTurn (hview : view.Dependable) (ht : t.Measured) (bound : Nat) :
    ∀ stop, floor ≤ stop → stop ≤ bytes.length → stop - floor < bound → ∃ cut,
      floor ≤ cut ∧ cut ≤ stop ∧
        Sheds t.tokens (reversedTo bytes floor stop).reverse
          (reversedTo bytes floor cut).reverse ∧
        t.matchReversed? (reversedTo bytes floor cut) = none ∧
        (stop - floor ≤ max stretch t.longest →
          cut = floor + (strip t (stop - floor) (reversedTo bytes floor stop)).length) ∧
        Gives (view.Holds bytes) (loop (stripTurn t floor) id bound stop) cut
          (view.Holds bytes) := by
  induction bound with
  | zero => intro stop _ _ hb; omega
  | succ bound ih =>
    intro stop hfloor hstop hb
    have hlen : (reversedTo bytes floor stop).length = stop - floor := length_reversedTo hstop
    by_cases hend : stop ≤ floor
    · have hnil : reversedTo bytes floor stop = [] := by
        rw [← List.length_eq_zero_iff]
        omega
      have hnone : t.matchReversed? (reversedTo bytes floor stop) = none := by
        rw [hnil]
        exact strip_stuck ht 0 [] le_rfl
      refine ⟨stop, hfloor, le_rfl, .refl _, hnone, fun _ => ?_, ?_⟩
      · rw [strip_of_none hnone]
        omega
      · refine Gives.loop_stop fun s hs => ⟨s, ?_, hs⟩
        simp only [stripTurn, if_pos hend, pure_apply]
    · obtain ⟨start, hstart⟩ : ∃ start, start = max (stop - max stretch t.longest) floor :=
        ⟨_, rfl⟩
      obtain ⟨kept, hkept⟩ : ∃ kept, kept =
          (strip t (stop - start) ((reversedTo bytes floor stop).take (stop - start))).length :=
        ⟨_, rfl⟩
      have hpos : 0 < stretch := by decide
      have hturn := gives_stripTurn hview (Nat.lt_of_not_le hend) hstop hstart hkept
      obtain ⟨hle, hsheds⟩ := sheds_stretch t (by omega) (by omega) hstop hkept
      have hwindow : stop - floor ≤ max stretch t.longest →
          start + kept =
            floor + (strip t (stop - floor) (reversedTo bytes floor stop)).length := by
        intro hsmall
        obtain rfl : start = floor := by omega
        rw [hkept, List.take_of_length_le hlen.le]
      split at hturn
      · rename_i hdone
        refine ⟨start + kept, by omega, by omega, hsheds, ?_, hwindow, Gives.loop_stop hturn⟩
        exact none_of_stretch ht (by omega) (by omega) hstop hkept (by omega)
      · rename_i hmore
        obtain ⟨cut, hcut, hcutle, hrest, hnone, -, hloop⟩ :=
          ih (start + kept) (by omega) (by omega) (by omega)
        refine ⟨cut, hcut, by omega, hsheds.trans hrest, hnone, ?_, Gives.loop_again hturn hloop⟩
        intro hsmall
        omega

/-- **Cutting the tokens at the end** of an output that is made of whole units. -/
theorem gives_cutTrailing (hview : view.Dependable) (ht : t.Measured)
    (hfloor : floor ≤ bytes.length) (hunit : unit ∣ bytes.length - floor) : ∃ cut,
      floor ≤ cut ∧ cut ≤ bytes.length ∧
        Sheds t.tokens (reversedTo bytes floor bytes.length).reverse
          (reversedTo bytes floor cut).reverse ∧
        t.matchReversed? (reversedTo bytes floor cut) = none ∧
        (bytes.length - floor ≤ max stretch t.longest → cut = floor +
          (strip t (bytes.length - floor) (reversedTo bytes floor bytes.length)).length) ∧
        Gives (view.Holds bytes) (cutTrailing t unit floor) ()
          (view.Holds (bytes.take cut)) := by
  obtain ⟨cut, hle, hcut, hsheds, hnone, hwindow, hloop⟩ :=
    gives_loop_stripTurn hview ht (bytes.length + 1) bytes.length hfloor le_rfl (by omega)
  refine ⟨cut, hle, hcut, hsheds, hnone, hwindow, ?_⟩
  have hmod := Nat.mod_eq_zero_of_dvd hunit
  refine (hview.size bytes).bind ?_
  simp only [hmod, ne_eq, not_true_eq_false, or_false]
  split
  · rw [List.take_of_length_le (by omega)]
    exact Gives.pure fun s hs => hs
  · refine hloop.bind ?_
    split
    · rename_i hall
      rw [hall, List.take_length]
      exact Gives.pure fun s hs => hs
    · exact hview.truncate bytes cut hcut

theorem cutTrailing_apply (ht : t.Measured) (hd : Decisive t) (m : Memory)
    (hfloor : floor ≤ m.toBytes.length) (hunit : unit ∣ m.toBytes.length - floor) :
    (cutTrailing t unit floor : EStateM IoError Memory Unit) m =
      .ok () (.ofBytes (m.toBytes.take (floor + (strip t (m.toBytes.length - floor)
        (reversedTo m.toBytes floor m.toBytes.length)).length))) := by
  obtain ⟨cut, hle, hcut, hsheds, hnone, -, hgives⟩ :=
    gives_cutTrailing Memory.dependable ht hfloor hunit
  have hlen : (reversedTo m.toBytes floor m.toBytes.length).length = m.toBytes.length - floor :=
    length_reversedTo le_rfl
  have hstrip := strip_sheds ht hd hsheds (m.toBytes.length - floor)
    (by rw [List.length_reverse]; omega)
  rw [List.reverse_reverse, List.reverse_reverse, strip_of_none hnone] at hstrip
  have hplace : floor + (reversedTo m.toBytes floor cut).length = cut := by
    rw [length_reversedTo hcut]
    omega
  rw [hstrip, hplace]
  exact memory_apply hgives

end Target

end Templating

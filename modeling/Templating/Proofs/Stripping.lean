import Templating.Proofs.Boundaries

/-!
# The tokens at the end of an output

Cutting trailing tokens goes stretch by stretch, and in a stretch only those tokens are seen that
lie in it as a whole. So what goes are tokens, one after the other, until none is left at the end;
but across the start of a stretch a shorter token may be taken where the output ends with a longer
one.

* `Target.Strips`: the tokens at the end of a text are taken off in some order until none is left.
* `Target.StripsLongest`: the longest one is taken off each time.
* `Session.cutTrailing_strips`: **what is left of an output**, in every target that can be looked
  back into. It is what taking off the longest token each time leaves wherever the order does not
  matter, and wherever the output is no longer than a stretch.
* `Session.not_strips_longest`: elsewhere it may be more.
-/

namespace Templating

namespace Target

/-- **A text without the tokens at its end**: they are taken off one after the other, whichever
ends it, until none is left there. -/
structure Strips (tokens : List Bytes) (text kept : Bytes) : Prop where
  sheds : Sheds tokens text kept
  stuck : ∀ token ∈ tokens, ¬ token <:+ kept

/-- **A text without the longest tokens at its end**: as long as it ends with a token, the longest
one is taken off. -/
inductive StripsLongest (tokens : List Bytes) : Bytes → Bytes → Prop
  | stuck {text : Bytes} : (∀ token ∈ tokens, ¬ token <:+ text) → StripsLongest tokens text text
  | token {text token kept : Bytes} : token ∈ tokens →
      (∀ other ∈ tokens, other <:+ text ++ token → other.length ≤ token.length) →
      StripsLongest tokens text kept → StripsLongest tokens (text ++ token) kept

variable {tokens : List Bytes} {text kept kept' : Bytes}

/-- To take off the longest token is one way to go. -/
theorem StripsLongest.strips (h : StripsLongest tokens text kept) : Strips tokens text kept := by
  induction h with
  | stuck hstuck => exact ⟨.refl _, hstuck⟩
  | token hmem _ _ ih => exact ⟨.token hmem ih.sheds, ih.stuck⟩

/-- The longest token is one and the same each time, so one text is left. -/
theorem StripsLongest.unique (h : StripsLongest tokens text kept)
    (h' : StripsLongest tokens text kept') : kept = kept' := by
  induction h with
  | stuck hstuck =>
    cases h' with
    | stuck _ => rfl
    | token hmem _ _ => exact absurd (List.suffix_append _ _) (hstuck _ hmem)
  | @token before token kept hmem hmax _ ih =>
    obtain ⟨whole, hwhole⟩ : ∃ whole, whole = before ++ token := ⟨_, rfl⟩
    rw [← hwhole] at h'
    cases h' with
    | stuck hstuck => exact absurd ⟨before, hwhole.symm⟩ (hstuck token hmem)
    | @token before' token' _ hmem' hmax' hrest' =>
      -- both are the longest one
      have hle : token.length ≤ token'.length := hmax' token hmem ⟨before, hwhole.symm⟩
      have hge : token'.length ≤ token.length := hmax token' hmem' ⟨before', hwhole⟩
      obtain ⟨rfl, rfl⟩ := List.append_inj' hwhole (by omega)
      exact ih hrest'

/-- Where no token ends a longer one, the order does not matter. -/
theorem Strips.unique (htokens : ∀ one ∈ tokens, ∀ other ∈ tokens, one <:+ other → one = other)
    (h : Strips tokens text kept) (h' : Strips tokens text kept') : kept = kept' := by
  obtain ⟨hsheds, hstuck⟩ := h
  obtain ⟨hsheds', hstuck'⟩ := h'
  induction hsheds with
  | refl text =>
    cases hsheds' with
    | refl _ => rfl
    | token hmem _ => exact absurd (List.suffix_append _ _) (hstuck _ hmem)
  | @token before token kept hmem _ ih =>
    obtain ⟨whole, hwhole⟩ : ∃ whole, whole = before ++ token := ⟨_, rfl⟩
    rw [← hwhole] at hsheds'
    cases hsheds' with
    | refl _ => exact absurd ⟨before, hwhole.symm⟩ (hstuck' token hmem)
    | @token before' token' _ hmem' hrest' =>
      -- of two ends of one text one is an end of the other
      obtain rfl : token = token' := by
        rcases List.suffix_or_suffix_of_suffix ⟨before, hwhole.symm⟩ (List.suffix_append _ _) with
          h | h
        · exact htokens _ hmem _ hmem' h
        · exact (htokens _ hmem' _ hmem h).symm
      exact ih hstuck (List.append_cancel_right hwhole ▸ hrest')

variable {t : TokenTable}

/-- Tests as many as there are bytes take off the longest token each time. -/
theorem stripsLongest_strip (ht : t.Measured) (n : Nat) : ∀ text : Bytes, text.length ≤ n →
    StripsLongest t.tokens text (strip t n text.reverse).reverse := by
  induction n with
  | zero =>
    intro text hn
    have hnone : t.matchEnd? text = none := strip_stuck ht 0 text.reverse (by simpa using hn)
    rw [strip, List.reverse_reverse]
    exact .stuck (TokenTable.matchEnd?_eq_none.1 hnone)
  | succ n ih =>
    intro text hn
    cases hm : t.matchReversed? text.reverse with
    | none =>
      rw [strip_of_none hm, List.reverse_reverse]
      exact .stuck (TokenTable.matchEnd?_eq_none.1 hm)
    | some length =>
      obtain ⟨token, hmem, rfl, htext⟩ := eq_append_of_match hm
      obtain ⟨front, hfront⟩ : ∃ front, front = (text.reverse.drop token.length).reverse :=
        ⟨_, rfl⟩
      rw [List.reverse_reverse, ← hfront] at htext
      subst htext
      have hpos := ht.pos_of_match hm
      rw [List.length_append] at hn
      rw [strip_of_match hm, ← List.reverse_reverse (List.drop _ _), ← hfront]
      exact .token hmem (TokenTable.matchEnd?_eq_some.1 hm).2 (ih front (by omega))

end Target

namespace Session

variable {τ : Type} [Target τ] {view : Target.View τ}

/-- **Cutting the tokens at the end of an output**: for all tokens, encodings and outputs of whole
code units behind their mark, tokens are taken off one after the other until none is left at the
end. Where the order does not matter, or where what lies behind the mark is no longer than a
stretch, nothing else is left than by taking off the longest token each time. -/
theorem cutTrailing_strips (hview : view.Dependable) (ctx : Context)
    (entries : List (Bytes × Nat)) {mark body : Bytes} (hmark : mark.length = ctx.floor)
    (hunit : ctx.glossary.encoding.unitWidth ∣ body.length) (w : Window) : ∃ kept,
    Target.Strips (TokenTable.ofEntries entries).tokens body kept ∧
      ((∀ one other, Target.Strips (TokenTable.ofEntries entries).tokens body one →
            Target.Strips (TokenTable.ofEntries entries).tokens body other → one = other) ∨
          body.length ≤ max Target.stretch (TokenTable.ofEntries entries).longest →
        ∀ bytes, Target.StripsLongest (TokenTable.ofEntries entries).tokens body bytes ↔
          bytes = kept) ∧
      Gives (fun s : Session τ => s.window = w ∧ view.Holds (mark ++ body) s.target)
        (cutTrailing ctx (.ofEntries entries)) ()
        (fun s => s.window = w ∧ view.Holds (mark ++ kept) s.target) := by
  have ht := TokenTable.measured_ofEntries entries
  have hlen : (mark ++ body).length - mark.length = body.length := by
    rw [List.length_append, Nat.add_sub_cancel_left]
  obtain ⟨cut, hle, -, hsheds, hnone, hwindow, hgives⟩ := Target.gives_cutTrailing hview ht
    (show mark.length ≤ (mark ++ body).length by simp) (hlen ▸ hunit)
  obtain ⟨n, rfl⟩ : ∃ n, cut = mark.length + n := ⟨cut - mark.length, by omega⟩
  have hall : Target.reversedTo (mark ++ body) mark.length (mark ++ body).length =
      body.reverse := by
    rw [List.length_append, Target.reversedTo_above, List.take_length]
  rw [hall, Target.reversedTo_above, List.reverse_reverse, List.reverse_reverse] at hsheds
  rw [Target.reversedTo_above] at hnone
  rw [hall, hlen] at hwindow
  have hstrips : Target.Strips (TokenTable.ofEntries entries).tokens body (body.take n) :=
    ⟨hsheds, TokenTable.matchEnd?_eq_none.1 hnone⟩
  have hlongest := Target.stripsLongest_strip ht body.length body le_rfl
  refine ⟨body.take n, hstrips, fun hsame => ?_, ?_⟩
  · -- what taking off the longest tokens leaves is a beginning of the text as well
    have hkept : (Target.strip (.ofEntries entries) body.length body.reverse).reverse =
        body.take n := by
      rcases hsame with hsame | hsmall
      · exact hsame _ _ hlongest.strips hstrips
      · have hprefix : (Target.strip (.ofEntries entries) body.length body.reverse).reverse <+:
            body := by
          rw [← List.reverse_suffix, List.reverse_reverse]
          exact Target.strip_suffix _ _ _
        have hn := hwindow hsmall
        rw [List.prefix_iff_eq_take.1 hprefix, List.length_reverse]
        congr 1
        omega
    rw [hkept] at hlongest
    exact fun bytes => ⟨fun h => h.unique hlongest, fun h => h ▸ hlongest⟩
  · rw [List.take_length_add_append] at hgives
    rw [cutTrailing, ← hmark]
    exact gives_onTarget hgives w

/-- Blanks that go on over more than one stretch, behind a letter and a byte-order mark. -/
theorem cutTrailing_strips_blanks : Memory.view.Dependable ∧
    cutTrailing ⟨.make .utf8 .empty "", 3⟩ (.ofEntries [([32], 0), ([9], 1)])
        (⟨.whole [], .ofBytes ([0xEF, 0xBB, 0xBF] ++ (97 :: List.replicate 5000 32))⟩ :
          Session Memory) =
      .ok () ⟨.whole [], .ofBytes [0xEF, 0xBB, 0xBF, 97]⟩ := by
  refine ⟨Memory.dependable, ?_⟩
  obtain ⟨kept, -, hlongest, hgives⟩ := cutTrailing_strips Memory.dependable
    ⟨.make .utf8 .empty "", 3⟩ [([32], 0), ([9], 1)]
    (show ([0xEF, 0xBB, 0xBF] : Bytes).length = 3 from rfl)
    (Nat.one_dvd (97 :: List.replicate 5000 32 : Bytes).length) (.whole [])
  have htokens : (TokenTable.ofEntries [([32], 0), ([9], 1)]).tokens = [[9], [32]] := by decide
  rw [htokens] at hlongest
  have hstrips : ∀ n, Target.StripsLongest [[9], [32]] (97 :: List.replicate n 32) [97] := by
    intro n
    induction n with
    | zero => exact .stuck (by decide)
    | succ n ih =>
      rw [List.replicate_succ', ← List.cons_append]
      refine .token (by decide) (fun other hmem _ => ?_) ih
      exact (show ∀ other ∈ ([[9], [32]] : List Bytes), other.length ≤ 1 by decide) other hmem
  obtain rfl := (hlongest (.inl fun _ _ => Target.Strips.unique (by decide)) _).1 (hstrips 5000)
  obtain ⟨⟨window, target⟩, haction, rfl, htarget, -⟩ := hgives
    ⟨.whole [], .ofBytes ([0xEF, 0xBB, 0xBF] ++ (97 :: List.replicate 5000 32))⟩
    ⟨rfl, rfl, trivial⟩
  rw [haction, ← Memory.ofBytes_toBytes target]
  exact congrArg _ (congrArg _ (congrArg _ htarget))

/-! ### A token across the start of a stretch -/

/-- A table with the tokens `a` and `xa`. -/
def straddled : TokenTable := .ofEntries [([97], 0), ([120, 97], 1)]

theorem tokens_straddled : straddled.tokens = [[120, 97], [97]] := by decide

/-- Where nothing but `a` is seen, `a` goes as a token of its own. -/
theorem match_straddled (n : Nat) :
    straddled.matchReversed? (List.replicate (n + 1) 97) = some 1 := by
  have hreverse : (List.replicate (n + 1) (97 : UInt8)).reverse = List.replicate (n + 1) 97 :=
    List.reverse_replicate
  rw [← hreverse]
  refine TokenTable.matchEnd?_eq_some.2 ?_
  rw [tokens_straddled]
  refine ⟨⟨[97], by decide, ?_, rfl⟩, ?_⟩
  · rw [List.replicate_succ']
    exact List.suffix_append _ _
  · intro token hmem hsuffix
    obtain rfl | rfl : token = [120, 97] ∨ token = [97] := by simpa using hmem
    · have hx : (120 : UInt8) ∈ List.replicate (n + 1) 97 := hsuffix.mem (by decide)
      exact absurd (List.eq_of_mem_replicate hx) (by decide)
    · exact le_rfl

theorem strip_straddled (n : Nat) :
    Target.strip straddled n (List.replicate n 97) = [] := by
  induction n with
  | zero => rfl
  | succ n ih =>
    rw [Target.strip_of_match (match_straddled n)]
    exact ih

/-- Taking off the longest token each time, the last one is `xa`. -/
theorem stripsLongest_straddled (n : Nat) : Target.StripsLongest straddled.tokens
    (112 :: 120 :: List.replicate (n + 1) 97) [112] := by
  rw [tokens_straddled]
  induction n with
  | zero =>
    show Target.StripsLongest _ ([112] ++ [120, 97]) [112]
    refine .token (by decide) ?_ (.stuck (by decide))
    exact fun other hmem _ => (show ∀ other ∈ ([[120, 97], [97]] : List Bytes),
      other.length ≤ 2 by decide) other hmem
  | succ n ih =>
    rw [List.replicate_succ', ← List.cons_append, ← List.cons_append]
    refine .token (by decide) (fun other hmem hsuffix => ?_) ih
    obtain rfl | rfl : other = [120, 97] ∨ other = [97] := by simpa using hmem
    · -- before the last `a` there is another one
      rw [List.replicate_succ', ← List.cons_append, ← List.cons_append,
        List.append_assoc] at hsuffix
      have htwo := List.suffix_of_suffix_length_le hsuffix (List.suffix_append _ _) le_rfl
      exact absurd htwo (by decide)
    · exact le_rfl

/-- The output `px` and as many `a` as a stretch has. -/
def straddling : Bytes := 112 :: 120 :: List.replicate Target.stretch 97

/-- The first stretch ends before the `x`, and the second one ends with it. -/
theorem cutTrailing_straddled : Gives (Memory.view.Holds straddling)
    (Target.cutTrailing straddled 1 0) () (Memory.view.Holds [112, 120]) := by
  have hpos : 0 < Target.stretch := by decide
  have hlong : straddled.longest = 2 := by decide
  have hlen : straddling.length = Target.stretch + 2 := by
    rw [straddling, List.length_cons, List.length_cons, List.length_replicate]
  have hall : Target.reversedTo straddling 0 (Target.stretch + 2) =
      List.replicate Target.stretch 97 ++ [120, 112] := by
    rw [Target.reversedTo, ← hlen, List.take_length, List.drop_zero, straddling]
    simp
  have hstart : 2 = max (Target.stretch + 2 - max Target.stretch straddled.longest) 0 := by
    rw [hlong]
    decide
  have hnothing : 0 = (Target.strip straddled (Target.stretch + 2 - 2)
      ((Target.reversedTo straddling 0 (Target.stretch + 2)).take
        (Target.stretch + 2 - 2))).length := by
    rw [Nat.add_sub_cancel, hall, List.take_left' List.length_replicate, strip_straddled]
    rfl
  have hfirst := Target.gives_stripTurn Memory.dependable (Nat.succ_pos _) hlen.ge hstart hnothing
  have hsecond := Target.gives_stripTurn Memory.dependable (show 0 < 2 by decide)
    (show 2 ≤ straddling.length by omega)
    (show 0 = max (2 - max Target.stretch straddled.longest) 0 by omega)
    (show 2 = (Target.strip straddled (2 - 0)
      ((Target.reversedTo straddling 0 2).take (2 - 0))).length by decide)
  rw [if_neg (by omega)] at hfirst
  rw [if_pos (.inl rfl)] at hsecond
  refine (Memory.dependable.size straddling).bind ?_
  rw [if_neg (by rw [Nat.mod_one]; omega), hlen]
  refine (Gives.loop_again hfirst (Gives.loop_stop hsecond)).bind ?_
  rw [if_neg (by omega)]
  exact Memory.dependable.truncate straddling 2 (by omega)

/-- **Across the start of a stretch a shorter token may be taken.** The output is `px` and then as
many `a` as a stretch has, and the tokens are `a` and `xa`: the last `a` to be seen goes as a token
of its own, since the `x` before it is in the next stretch, and then `x` is none. -/
theorem not_strips_longest : ¬ ∃ kept,
    Target.StripsLongest straddled.tokens straddling kept ∧
      cutTrailing ⟨.make .utf8 .empty "", 0⟩ straddled
          (⟨.whole [], .ofBytes straddling⟩ : Session Memory) =
        .ok () ⟨.whole [], .ofBytes kept⟩ := by
  rintro ⟨kept, hlongest, hcut⟩
  obtain rfl := (stripsLongest_straddled 4095).unique hlongest
  obtain ⟨s, haction, -, hleft, -⟩ := gives_onTarget cutTrailing_straddled (.whole [])
    ⟨.whole [], .ofBytes straddling⟩ ⟨rfl, rfl, trivial⟩
  cases hcut.symm.trans haction
  exact absurd hleft (by decide)

end Session

end Templating

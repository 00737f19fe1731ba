import Templating.Proofs.Transcription

/-!
# Lines

A text in UTF-8 is cut into `lines` after each line ending, the longest one first.
What no line ending is part of cannot reach from one line into the next: a token
without line endings matches in a line as it matches in the text, the output before
a marker is cut back to where its line begins, and what a marker takes with it ends
with its line.

* `longestMatch?_line`: matches within a line do not see what follows it.
* `Glossary.remainder_line`: the search for a line ending passes the rest of a line.
* `Target.cutBackTo_line`: cutting back to a line ending removes an unended line.
-/

namespace Templating

/-- A byte of a line ending in UTF-8. -/
def isLineEnd (b : UInt8) : Bool := b == 10 || b == 13

/-- Bytes without any line ending. -/
def Inline (bytes : Bytes) : Prop := ∀ b ∈ bytes, isLineEnd b = false

-- By the list: there is also an instance that tries every byte there is.
instance (bytes : Bytes) : Decidable (Inline bytes) := List.decidableBAll _ bytes

theorem inline_nil : Inline [] := by
  intro b hb
  cases hb

/-- **The lines of a text**, each with its line ending; the last one may have none. -/
def lines : Bytes → List Bytes
  | [] => []
  | 13 :: 10 :: k => [13, 10] :: lines k
  | b :: k =>
    if isLineEnd b then [b] :: lines k
    else match lines k with
      | [] => [[b]]
      | l :: ls => (b :: l) :: ls

variable {l k bytes inner ending x y token : Bytes} {ls : List Bytes} {b : UInt8}

/-- Lines of which one has been cut off. -/
theorem lines_cons_cases (b : UInt8) (k : Bytes) :
    (∃ k', b = 13 ∧ k = 10 :: k' ∧ lines (b :: k) = [13, 10] :: lines k') ∨
    (isLineEnd b = true ∧ (b = 13 → k.head? ≠ some 10) ∧ lines (b :: k) = [b] :: lines k) ∨
    (isLineEnd b = false ∧ lines (b :: k) = match lines k with
      | [] => [[b]]
      | l :: ls => (b :: l) :: ls) := by
  by_cases hcrlf : ∃ k', b = 13 ∧ k = 10 :: k'
  · obtain ⟨k', rfl, rfl⟩ := hcrlf
    exact .inl ⟨k', rfl, rfl, by rw [lines]⟩
  · have hlines : lines (b :: k) = if isLineEnd b then [b] :: lines k
        else match lines k with
          | [] => [[b]]
          | l :: ls => (b :: l) :: ls := by
      rw [lines]
      rintro k' rfl rfl
      exact hcrlf ⟨k', rfl, rfl⟩
    cases hb : isLineEnd b with
    | true =>
      refine .inr (.inl ⟨rfl, fun h13 hhead => hcrlf ?_, by rw [hlines, hb]; rfl⟩)
      obtain ⟨k', rfl⟩ := List.head?_eq_some_iff.1 hhead
      exact ⟨k', h13, rfl⟩
    | false => exact .inr (.inr ⟨rfl, by rw [hlines, hb]; rfl⟩)

theorem lines_eq_nil (h : lines k = []) : k = [] := by
  cases k with
  | nil => rfl
  | cons b k =>
    rcases lines_cons_cases b k with ⟨k', -, -, hlines⟩ | ⟨-, -, hlines⟩ | ⟨-, hlines⟩
    · simp [hlines] at h
    · simp [hlines] at h
    · rw [hlines] at h
      split at h <;> cases h

/-- No line is empty. -/
theorem lines_ne_nil_cons : lines k ≠ [] :: ls := by
  intro h
  cases k with
  | nil => simp [lines] at h
  | cons b k =>
    rcases lines_cons_cases b k with ⟨k', -, -, hlines⟩ | ⟨-, -, hlines⟩ | ⟨-, hlines⟩
    · simp [hlines] at h
    · simp [hlines] at h
    · rw [hlines] at h
      split at h <;> cases h

/-- **The lines of a text make up the text.** -/
theorem lines_flatten (k : Bytes) : (lines k).flatten = k := by
  induction hlength : k.length using Nat.strong_induction_on generalizing k with
  | _ n ih =>
    cases k with
    | nil => rfl
    | cons b k =>
      rw [List.length_cons] at hlength
      rcases lines_cons_cases b k with ⟨k', rfl, rfl, hlines⟩ | ⟨-, -, hlines⟩ | ⟨-, hlines⟩
      · have hk : (lines k').flatten = k' := ih k'.length (by simp at hlength; omega) k' rfl
        rw [hlines, List.flatten_cons, hk]
        rfl
      · have hk : (lines k).flatten = k := ih k.length (by omega) k rfl
        rw [hlines, List.flatten_cons, hk]
        rfl
      · have hk : (lines k).flatten = k := ih k.length (by omega) k rfl
        rw [hlines]
        cases hrest : lines k with
        | nil =>
          rw [hrest] at hk
          rw [← hk]
          rfl
        | cons l ls =>
          rw [hrest] at hk
          rw [← hk]
          rfl

/-- A text that ends with a line ending. -/
def Ended (l : Bytes) : Prop := ∃ init b, l = init ++ [b] ∧ isLineEnd b = true

/-- **What follows a line**: its lines are the other lines, and if there are any, the
line has an ending. -/
theorem lines_append (h : lines (l ++ k) = l :: ls) : lines k = ls ∧ (k = [] ∨ Ended l) := by
  induction l with
  | nil => exact absurd h lines_ne_nil_cons
  | cons b l ih =>
    rcases lines_cons_cases b (l ++ k) with ⟨k', rfl, hk, hlines⟩ | ⟨hb, -, hlines⟩ | ⟨-, hlines⟩
    · rw [List.cons_append, hlines] at h
      cases h
      cases hk
      exact ⟨rfl, .inr ⟨[13], 10, rfl, rfl⟩⟩
    · rw [List.cons_append, hlines] at h
      cases h
      exact ⟨rfl, .inr ⟨[], b, rfl, hb⟩⟩
    · rw [List.cons_append, hlines] at h
      cases hrest : lines (l ++ k) with
      | nil =>
        rw [hrest] at h
        cases h
        have hk : k = [] := lines_eq_nil hrest
        exact ⟨hrest, .inl hk⟩
      | cons m ms =>
        rw [hrest] at h
        cases h
        obtain ⟨htail, hend⟩ := ih hrest
        refine ⟨htail, hend.imp_right ?_⟩
        rintro ⟨init, b', rfl, hb'⟩
        exact ⟨b :: init, b', rfl, hb'⟩

/-- A line ending, or none where the text ends, that does not go on. -/
def EndsLine (ending k : Bytes) : Prop :=
  ending = [13, 10] ∨ ending = [10] ∨ (ending = [13] ∧ k.head? ≠ some 10) ∨ (ending = [] ∧ k = [])

/-- The line endings, and that of the last line. -/
def lineEndings : List Bytes := [[13, 10], [10], [13], []]

theorem endsLine_of_lines (hinner : Inline inner) (hending : ending ∈ lineEndings)
    (h : lines (inner ++ (ending ++ k)) = (inner ++ ending) :: ls) : EndsLine ending k := by
  induction inner with
  | nil =>
    simp only [lineEndings, List.mem_cons, List.not_mem_nil, or_false] at hending
    rcases hending with rfl | rfl | rfl | rfl
    · exact .inl rfl
    · exact .inr (.inl rfl)
    · refine .inr (.inr (.inl ⟨rfl, fun hhead => ?_⟩))
      obtain ⟨k', rfl⟩ := List.head?_eq_some_iff.1 hhead
      simp [lines] at h
    · exact absurd h lines_ne_nil_cons
  | cons b inner ih =>
    have hb : isLineEnd b = false := hinner b List.mem_cons_self
    rcases lines_cons_cases b (inner ++ (ending ++ k)) with
      ⟨_, rfl, -, -⟩ | ⟨hb', -, -⟩ | ⟨-, hlines⟩
    · cases hb
    · rw [hb] at hb'
      cases hb'
    · rw [List.cons_append, hlines] at h
      cases hrest : lines (inner ++ (ending ++ k)) with
      | nil =>
        have hnil := lines_eq_nil hrest
        simp only [List.append_eq_nil_iff] at hnil
        exact .inr (.inr (.inr hnil.2))
      | cons m ms =>
        rw [hrest] at h
        cases h
        exact ih (fun b' hb' => hinner b' (List.mem_cons_of_mem _ hb')) hrest

/-! ### Matches within a line -/

/-- Nothing follows, or a line ending. -/
def Breaks (k : Bytes) : Prop := ∀ b ∈ k.head?, isLineEnd b = true

theorem EndsLine.breaks (h : EndsLine ending k) : Breaks (ending ++ k) := by
  rcases h with rfl | rfl | ⟨rfl, -⟩ | ⟨rfl, rfl⟩ <;> simp [Breaks, isLineEnd]

/-- What has no line ending does not reach over one. -/
theorem Inline.prefix_append_iff (h : Inline token) (hk : Breaks k) :
    token <+: x ++ k ↔ token <+: x := by
  refine ⟨fun hp => ?_, fun hp => hp.trans (List.prefix_append x k)⟩
  obtain ⟨rest, hrest⟩ := hp
  rcases List.append_eq_append_iff.1 hrest with ⟨more, rfl, -⟩ | ⟨more, rfl, rfl⟩
  · exact List.prefix_append token more
  · cases more with
    | nil => simp
    | cons b more =>
      have hend : isLineEnd b = true := hk b rfl
      have hno : isLineEnd b = false := h b (by simp)
      rw [hend] at hno
      cases hno

/-- **Matches within a line** do not see what follows it. -/
theorem longestMatch?_line {β : Type} {entries : List (Bytes × β)}
    (hentries : ∀ e ∈ entries, Inline e.1) (h : lines (l ++ k) = l :: ls) {suffix : Bytes}
    (hsuffix : suffix <:+ l) (hne : suffix ≠ []) :
    longestMatch? entries (suffix ++ k) = longestMatch? entries suffix := by
  rcases (lines_append h).2 with rfl | ⟨init, b, rfl, hb⟩
  · rw [List.append_nil]
  · obtain ⟨inner, rfl⟩ : ∃ inner, suffix = inner ++ [b] := by
      obtain ⟨pre, hpre⟩ := hsuffix
      obtain ⟨inner, b', rfl⟩ := (List.eq_nil_or_concat' suffix).resolve_left hne
      rw [← List.append_assoc] at hpre
      exact ⟨inner, by rw [(List.append_inj' hpre rfl).2]⟩
    refine longestMatch?_congr fun e he _ => ?_
    have hbreaks : ∀ k', Breaks (b :: k') := fun k' b' hb' => by
      cases hb'
      exact hb
    rw [List.append_assoc, List.singleton_append, (hentries e he).prefix_append_iff (hbreaks k),
      (hentries e he).prefix_append_iff (hbreaks [])]

/-! ### Line endings and tokens in UTF-8 -/

/-- A text without line endings. -/
def Unbroken (s : String) : Prop := '\n' ∉ s.toList ∧ '\r' ∉ s.toList

instance (s : String) : Decidable (Unbroken s) :=
  inferInstanceAs (Decidable ('\n' ∉ s.toList ∧ '\r' ∉ s.toList))

namespace Encoding

theorem inline_utf8 {s : String} (h : Unbroken s) : Inline (utf8.encode s) := by
  intro b hb
  obtain ⟨c, hc, hb⟩ := List.mem_flatMap.1 (encode_eq_text utf8 s ▸ hb)
  have hchar : ∀ d : Char, d.toNat = b.toNat → b.toNat < 0x80 → c = d := fun d hd hlt => by
    rcases toNat_of_mem_utf8 c b hb with ⟨heq, -⟩ | hge
    · exact Char.toNat_inj.1 (heq.symm.trans hd.symm)
    · omega
  rw [Bool.eq_false_iff]
  intro hend
  rcases (by simpa [isLineEnd] using hend : b = 10 ∨ b = 13) with rfl | rfl
  · exact h.1 (hchar '\n' rfl (by decide) ▸ hc)
  · exact h.2 (hchar '\r' rfl (by decide) ▸ hc)

end Encoding

namespace Glossary

variable (v : Variables) (format : String)

theorem match?_lineEndings (bytes : Bytes) : (make .utf8 v format).lineEndings.match? bytes =
    (longestMatch? [([13, 10], 0), ([10], 1), ([13], 2)] bytes).map fun e => (e.2, e.1.length) :=
  TokenTable.match?_ofList [[13, 10], [10], [13]] bytes

/-- A line ending is matched as a whole. -/
theorem match?_ending (h : EndsLine ending k) (hne : ending ≠ []) :
    ∃ index, (make .utf8 v format).lineEndings.match? (ending ++ k) =
      some (index, ending.length) := by
  rw [match?_lineEndings]
  rcases h with rfl | rfl | ⟨rfl, hk⟩ | ⟨rfl, -⟩
  · exact ⟨0, by simp [longestMatch?, prefer]⟩
  · exact ⟨1, by simp [longestMatch?, prefer]⟩
  · refine ⟨2, ?_⟩
    have hlonger : ¬ [13, 10] <+: 13 :: k := by
      rintro ⟨rest, hrest⟩
      obtain rfl : 10 :: rest = k := by simpa using hrest
      exact hk rfl
    simp [longestMatch?, prefer, hlonger]
  · exact absurd rfl hne

theorem match?_inline (hb : isLineEnd b = false) :
    (make .utf8 v format).lineEndings.match? (b :: k) = none := by
  rw [match?_lineEndings, longestMatch?_eq_none.2, Option.map_none]
  intro e he _ hp
  have hhead : e.1.head? = some b := by
    obtain ⟨rest, hrest⟩ := hp
    simp only [List.mem_cons, List.not_mem_nil, or_false] at he
    rcases he with rfl | rfl | rfl <;> simp_all
  simp only [List.mem_cons, List.not_mem_nil, or_false] at he
  rcases he with rfl | rfl | rfl <;>
  · cases hhead
    cases hb

theorem lawful_lineEndings : (make .utf8 v format).lineEndings.Lawful := TokenTable.lawful_ofList _

/-- **The search for a line ending** passes the rest of a line and its ending. -/
theorem remainder_line (hinner : Inline inner) (h : EndsLine ending k) :
    (make .utf8 v format).lineEndings.remainder true (inner ++ (ending ++ k)) = k := by
  induction inner with
  | nil =>
    by_cases hne : ending = []
    · rcases h with rfl | rfl | ⟨rfl, -⟩ | ⟨-, rfl⟩
      · cases hne
      · cases hne
      · cases hne
      · rw [hne]
        rfl
    · obtain ⟨index, hmatch⟩ := match?_ending v format h hne
      rw [List.nil_append, TokenTable.remainder,
        TokenTable.find_of_match (lawful_lineEndings v format) hmatch]
      exact List.drop_left
  | cons b inner ih =>
    have hb := hinner b List.mem_cons_self
    rw [List.cons_append, TokenTable.remainder_of_no_match (match?_inline v format hb)]
    exact ih fun b' hb' => hinner b' (List.mem_cons_of_mem _ hb')

end Glossary

/-! ### Cutting the output -/

/-- An output that the next line may follow. -/
def Closed (output : Bytes) : Prop := output = [] ∨ Ended output

theorem closed_append_line (hl : Ended l) (output : Bytes) : Closed (output ++ l) := by
  obtain ⟨init, b, rfl, hb⟩ := hl
  exact .inr ⟨output ++ init, b, by simp, hb⟩

namespace Target

variable {t : TokenTable}

theorem matchReversed?_inline (ht : t.Spells .utf8 ["\r", "\n", "\r\n"]) (hb : isLineEnd b = false)
    (reversed : Bytes) : t.matchReversed? (b :: reversed) = none := by
  have hne : b ≠ 10 ∧ b ≠ 13 := by simpa [isLineEnd] using hb
  rw [ht.matchReversed?_eq, List.max?_eq_none_iff, List.filterMap_eq_nil_iff]
  intro token htoken
  simp only [List.mem_cons, List.not_mem_nil, or_false] at htoken
  rcases htoken with rfl | rfl | rfl
  · have hencode : Encoding.utf8.encode "\r" = [13] := rfl
    simp [hencode, hne.2.symm]
  · have hencode : Encoding.utf8.encode "\n" = [10] := rfl
    simp [hencode, hne.1.symm]
  · have hencode : Encoding.utf8.encode "\r\n" = [13, 10] := rfl
    simp [hencode, hne.1.symm]

theorem matchReversed?_lineEnd (ht : t.Spells .utf8 ["\r", "\n", "\r\n"]) (hb : isLineEnd b = true)
    (reversed : Bytes) : t.matchReversed? (b :: reversed) ≠ none := by
  rw [ht.matchReversed?_eq, ne_eq, List.max?_eq_none_iff, List.filterMap_eq_nil_iff]
  intro hnone
  have h13 : Encoding.utf8.encode "\r" = [13] := rfl
  have h10 : Encoding.utf8.encode "\n" = [10] := rfl
  rcases (by simpa [isLineEnd] using hb : b = 10 ∨ b = 13) with rfl | rfl
  · simpa [h10] using hnone "\n" (by simp)
  · simpa [h13] using hnone "\r" (by simp)

/-- **Cutting back to a line ending** removes an unended line from the output. -/
theorem cutBackTo_line (ht : t.Spells .utf8 ["\r", "\n", "\r\n"]) (mark : Bytes) {output : Bytes}
    (houtput : Closed output) (hinner : Inline inner) :
    (cutBackTo t 1 mark.length false : EStateM IoError Memory Unit)
        (.ofBytes (mark ++ (output ++ inner))) = .ok () (.ofBytes (mark ++ output)) := by
  have hlast : lastEnd? t 1 (output ++ inner).reverse (output ++ inner).length
      (output ++ inner).length = lastEnd? t 1 output.reverse output.length output.length := by
    refine lastEnd?_append inner fun part hne hpart _ => ?_
    obtain ⟨init, b, rfl⟩ := (List.eq_nil_or_concat' part).resolve_left hne
    have hb : isLineEnd b = false := hinner b (hpart.subset (by simp))
    rw [← List.append_assoc, List.reverse_append]
    exact matchReversed?_inline ht hb _
  have hcut := cutBackTo_apply 1 mark.length ht.measured
    (.ofBytes (mark ++ (output ++ inner))) false
  have hlength : (mark ++ (output ++ inner)).length = mark.length + (output ++ inner).length :=
    List.length_append
  simp only [Memory.toBytes_ofBytes, hlength, reversedTo_append, Nat.add_sub_cancel_left, hlast,
    Bool.false_eq_true, if_false] at hcut
  rw [hcut]
  rcases houtput with rfl | ⟨init, b, rfl, hb⟩
  · simp [lastEnd?]
  · obtain ⟨n, hmatch⟩ := Option.ne_none_iff_exists'.1
      (matchReversed?_lineEnd ht hb init.reverse)
    rw [lastEnd?_concat, if_pos (Nat.one_dvd _), List.reverse_append]
    have htake : (mark ++ (init ++ [b] ++ inner)).take (mark.length + (init ++ [b]).length) =
        mark ++ (init ++ [b]) := by
      rw [← List.append_assoc, ← List.length_append, List.take_left]
    simp only [List.reverse_singleton, List.singleton_append, hmatch, Option.elim_some]
    rw [htake]

end Target

end Templating

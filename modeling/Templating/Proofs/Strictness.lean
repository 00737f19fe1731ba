import Templating.Proofs.Errors
import Templating.Proofs.Rejection

/-!
# Strict mode

In strict mode a template is rejected exactly if its markers are not balanced. Here balance
is a matter of counting: so many blocks are open after some markers, a marker other than `if`
stands where none is open, or one is still open at the end. The branches that are taken
count blocks by a stack and those that are skipped by a depth, and `balanced` is what both
come to; it says the same as the count.

* `balanced_eq_false_iff`: what it means for markers not to be balanced.
* `Conditional.Legible.clear`: where no marker begins in a condition, reading a condition
  passes none.
* `Processor.rejects_iff_unbalanced`: strict mode against the count, and lax mode.
-/

namespace Templating

/-! ### Counting blocks -/

/-- How many blocks are open after a marker. One that closes no block changes nothing. -/
def Marker.count (opened : Nat) : Marker → Nat
  | opening => opened + 1
  | alternative | fallback => opened
  | closing => opened - 1

/-- How many blocks are open after some markers. -/
def openBlocks (ms : List Marker) : Nat := ms.foldl Marker.count 0

/-- **Markers that are not balanced**: one that needs a block stands outside of all blocks, or a
block is never closed. -/
inductive Unbalanced (ms : List Marker) : Prop where
  | orphan {front back : List Marker} {kind : Marker} (split : ms = front ++ kind :: back)
      (needs : kind ≠ .opening) (outside : openBlocks front = 0)
  | unclosed (inside : openBlocks ms ≠ 0)

/-- A marker that needs a block, inside of so many of them: it is the first one that stands
outside, or it is passed. -/
theorem balanced_cons {kind : Marker} {opened : Nat} (ms : List Marker)
    (h : kind = .opening ∨ opened ≠ 0) :
    balanced opened (kind :: ms) = balanced (kind.count opened) ms := by
  cases kind with
  | opening => rfl
  | alternative | fallback | closing =>
    have hopened : opened ≠ 0 := h.resolve_left (by simp)
    obtain ⟨outer, rfl⟩ := Nat.exists_eq_succ_of_ne_zero hopened
    rfl

/-- **When markers inside of so many blocks are not balanced.** -/
theorem balanced_eq_false_iff (ms : List Marker) (opened : Nat) : balanced opened ms = false ↔
    (∃ front kind back, ms = front ++ kind :: back ∧ kind ≠ .opening ∧
      front.foldl Marker.count opened = 0) ∨ ms.foldl Marker.count opened ≠ 0 := by
  induction ms generalizing opened with
  | nil =>
    have hnil : balanced opened [] = (opened == 0) := by cases opened <;> rfl
    simp [hnil]
  | cons kind ms ih =>
    by_cases h : kind = .opening ∨ opened ≠ 0
    · rw [balanced_cons ms h, ih, List.foldl_cons]
      refine or_congr_left ⟨?_, ?_⟩
      · rintro ⟨front, kind', back, rfl, hkind', hfront⟩
        exact ⟨kind :: front, kind', back, rfl, hkind', hfront⟩
      · rintro ⟨front, kind', back, hsplit, hkind', hfront⟩
        cases front with
        | nil =>
          -- the marker that needs a block would be the one that stands inside of some
          obtain ⟨rfl, rfl⟩ := List.cons.inj hsplit
          rcases h with hopening | hopened
          · exact absurd hopening hkind'
          · exact absurd hfront hopened
        | cons first front =>
          obtain ⟨rfl, rfl⟩ := List.cons.inj hsplit
          exact ⟨front, kind', back, rfl, hkind', hfront⟩
    · push Not at h
      obtain ⟨hkind, rfl⟩ := h
      have horphan : balanced 0 (kind :: ms) = false := balanced_outside hkind
      exact iff_of_true horphan (.inl ⟨[], kind, ms, rfl, hkind, rfl⟩)

theorem unbalanced_iff {ms : List Marker} : Unbalanced ms ↔ balanced 0 ms = false := by
  rw [balanced_eq_false_iff]
  constructor
  · rintro (⟨rfl, hneeds, houtside⟩ | hinside)
    · exact .inl ⟨_, _, _, rfl, hneeds, houtside⟩
    · exact .inr hinside
  · rintro (⟨front, kind, back, hsplit, hneeds, houtside⟩ | hinside)
    · exact .orphan hsplit hneeds houtside
    · exact .unclosed hinside

/-! ### Markers and conditions -/

/-- Where no token begins in the first bytes of a text, its places are those of the rest. -/
theorem places_of_none_before {tokens : List (Bytes × Marker)} {text rest : Bytes}
    (hrest : rest <:+ text)
    (hnone : ∀ tail, tail <:+ text → rest.length < tail.length →
      longestMatch? tokens tail = none) : places tokens rest = places tokens text := by
  induction text with
  | nil => rw [List.suffix_nil.1 hrest]
  | cons b text ih =>
    rcases List.suffix_cons_iff.1 hrest with rfl | hlater
    · rfl
    · have hlt : rest.length < (b :: text).length := Nat.lt_succ_of_le hlater.length_le
      have hfirst : longestMatch? tokens (b :: text) = none :=
        hnone _ (List.suffix_refl _) hlt
      have hplaces := ih hlater fun tail htail => hnone tail (htail.trans (List.suffix_cons _ _))
      rw [places_of_none hfirst, hplaces]

theorem Lexicon.left?_suffix {lex : Lexicon} {k rest : Bytes} (h : lex.left? k = some rest) :
    rest <:+ k := by
  have hwithin := lex.ensures_tokenize (Slice.ofBytes k) (List.suffix_refl k)
  unfold left? at h
  split at h
  · rename_i s hread
    rw [hread] at hwithin
    cases h
    exact hwithin
  · cases h

namespace Conditional

/-- **A text whose conditions are legible**: no marker begins in the bytes that reading the
condition after any `if` or `elseif` takes. -/
def Legible (c : Conditional) (text : Bytes) : Prop :=
  ∀ place ∈ places c.entries text, place.1 = .opening ∨ place.1 = .alternative →
    ∀ rest ∈ c.evaluator.lexicon.left? place.2, ∀ tail, tail <:+ place.2 →
      rest.length < tail.length → longestMatch? c.entries tail = none

instance (c : Conditional) (text : Bytes) : Decidable (c.Legible text) :=
  decidable_of_iff
    (∀ place ∈ places c.entries text, place.1 = .opening ∨ place.1 = .alternative →
      ∀ rest ∈ c.evaluator.lexicon.left? place.2, ∀ tail ∈ place.2.tails,
        rest.length < tail.length → longestMatch? c.entries tail = none) (by
    simp only [Legible, List.mem_tails])

/-- Nothing but the conditions goes away with a marker, where blanks are kept. -/
theorem Legible.clear {c : Conditional} {g : Glossary} {text : Bytes} (h : c.Legible text)
    (hkeep : c.whitespace = .keep) : c.Clear g [] text where
  passed := by
    rintro ⟨kind, k⟩ hplace rest hleft
    have hread : ∀ after ∈ (c.evaluator.lexicon.left? k).map (c.whitespace.passed g),
        kind = .opening ∨ kind = .alternative → places c.entries after = places c.entries k := by
      rw [hkeep]
      intro after hafter hkind
      obtain ⟨rest', hrest', rfl⟩ := Option.map_eq_some_iff.1 hafter
      exact places_of_none_before (Lexicon.left?_suffix hrest') (h _ hplace hkind rest' hrest')
    cases kind with
    | opening => exact hread rest hleft (.inl rfl)
    | alternative => exact hread rest hleft (.inr rfl)
    | fallback | closing =>
      rw [left?, hkeep] at hleft
      cases hleft
      rfl
  apart := by simp

end Conditional

/-! ### Runs -/

namespace ConditionalSettings

/-- The same blocks, where markers that are not balanced are tolerated. -/
def lax (s : ConditionalSettings) : ConditionalSettings := { s with strict := false }

end ConditionalSettings

namespace Processor

/-- A template whose conditions are legible to the blocks of some settings. -/
def Legible (p : Processor) (s : ConditionalSettings) (bytes : Bytes) : Prop :=
  ∃ c, Conditional.make s (p.glossary bytes) p.converter = .ok c ∧
    c.Legible (bytes.drop (Encoding.detect bytes).2)

variable {p : Processor} {s : ConditionalSettings} {source : Source}

theorem validate_lax {c : Configuration} (hops : c.operations = [.conditionals s]) :
    ({ c with operations := [.conditionals s.lax] } : Configuration).validate = c.validate := by
  unfold Configuration.validate
  rw [hops]
  rfl

/-- Where blocks are the only operation, what is legible is clear. -/
theorem Legible.clear (hops : p.configuration.operations = [.conditionals s])
    (hline : s.wholeLine = false) (htrim : s.trim = false) {bytes : Bytes}
    (h : p.Legible s bytes) : p.Clear s bytes := by
  obtain ⟨k, hmake, hlegible⟩ := h
  have hnone : p.passiveTokens bytes = [] := by rw [passiveTokens, hops]; rfl
  have hkeep : k.whitespace = .keep := by
    obtain ⟨dialect, -, rfl⟩ := Conditional.make_ok hmake
    show WhitespacePolicy.ofFlags s.wholeLine s.trim = .keep
    rw [hline, htrim]
    rfl
  refine ⟨k, hmake, ?_⟩
  rw [hnone]
  exact hlegible.clear hkeep

/-- Without strict mode a run fails on expressions only. -/
theorem run_lax (hvalid : p.configuration.validate = .ok ())
    (hops : p.configuration.operations = [.conditionals s.lax]) (hsource : source.fails = false)
    (hread : ¬ p.Misreads source) :
    ∃ modified, (p.run source (Memory.ofBytes [])).1 = .ok modified := by
  cases hresult : (p.run source (Memory.ofBytes [])).1 with
  | ok modified => exact ⟨modified, rfl⟩
  | error e =>
    exfalso
    obtain ⟨settings, hmem, hraises⟩ := raises_of_run hvalid hsource hresult
    rw [hops] at hmem
    obtain rfl := List.mem_singleton.1 hmem
    cases e with
    | expression cause => exact hread ⟨cause, hresult⟩
    | unbalanced cause => cases (show false = true from hraises)
    | io | config => exact hraises

/-- **Strict mode rejects exactly the templates that are not balanced.** Take a valid
configuration whose only operation handles conditional blocks in strict mode and keeps all
blanks, and an input in which no marker begins in a condition. Where no condition that is
evaluated fails, a run is rejected exactly if the markers of the input are not balanced, and a
run without strict mode succeeds. -/
theorem rejects_iff_unbalanced (c : Configuration) (s : ConditionalSettings)
    (hops : c.operations = [.conditionals s]) (hstrict : s.strict = true)
    (hline : s.wholeLine = false) (htrim : s.trim = false) (v : Variables) (conv : Converter)
    (ambient : Ambient) (hp : make c v conv ambient = .ok p) (source : Source)
    (hsource : source.fails = false) (hlegible : p.Legible s source.unread.bytes) :
    (¬ p.Misreads source → (p.Rejects source ↔
      Unbalanced (marks (s.tokens (Encoding.detect source.unread.bytes).1)
        (source.unread.bytes.drop (Encoding.detect source.unread.bytes).2)))) ∧
    ∃ lax, make { c with operations := [.conditionals s.lax] } v conv ambient = .ok lax ∧
      (¬ lax.Misreads source →
        ∃ modified, (lax.run source (Memory.ofBytes [])).1 = .ok modified) := by
  have hmacros : ∀ o ∈ c.operations, o.kind ≠ .macros := by
    rw [hops]
    simp [OperationSettings.kind]
  obtain ⟨hvalid, rfl⟩ := (make_plain hmacros).1 hp
  have hvalid' := (validate_lax hops).trans hvalid
  refine ⟨fun hread => ?_, ⟨{ c with operations := [.conditionals s.lax] }, v, conv⟩,
    (make_plain ?_).2 ⟨hvalid', rfl⟩, run_lax hvalid' rfl hsource⟩
  · have hclear := hlegible.clear hops hline htrim
    rw [unbalanced_iff]
    exact @rejects_iff ⟨c, v, conv⟩ s [] [] source hops (by simp) hstrict hsource hclear hread
  · simp [OperationSettings.kind]

/-- Blocks in strict mode that keep all blanks. -/
def rigidBlocks : ConditionalSettings :=
  ⟨["#if"], ["#elif"], ["#else"], ["#endif"], false, false, "C++", [], true⟩

/-- A configuration with these blocks and nothing else. -/
def rigid : Configuration := ⟨Configuration.defaultFormat, [.conditionals rigidBlocks], 1, 1⟩

/-- A block that is skipped with the one inside of it, a second `else`, and an `endif` that
closes nothing. -/
def overclosed : Source :=
  .ofBytes (Encoding.utf8.encode "#if A\n#if B\n#else\n#endif\n#else\n#else\n#endif\n#endif\n")

theorem rejects_iff_unbalanced_overclosed :
    ((⟨rigid, .ofList [], .standard⟩ : Processor).Rejects overclosed ↔ Unbalanced
      [.opening, .opening, .fallback, .closing, .fallback, .fallback, .closing, .closing]) ∧
    ∃ lax modified, make { rigid with operations := [.conditionals rigidBlocks.lax] } (.ofList [])
        .standard ⟨⟨0, 0⟩, fun _ => 0⟩ = .ok lax ∧
      (lax.run overclosed (Memory.ofBytes [])).1 = .ok modified := by
  have hmarks : marks (rigidBlocks.tokens .utf8) overclosed.unread.bytes =
      [.opening, .opening, .fallback, .closing, .fallback, .fallback, .closing, .closing] := by
    decide +kernel
  obtain ⟨hstrict, lax, hmake, hlax⟩ := rejects_iff_unbalanced rigid rigidBlocks rfl rfl rfl
    rfl (.ofList []) .standard ⟨⟨0, 0⟩, fun _ => 0⟩ rfl overclosed rfl
    ⟨_, rfl, by decide +kernel⟩
  have hread : ¬ (⟨rigid, .ofList [], .standard⟩ : Processor).Misreads overclosed := by
    rintro ⟨cause, hcause⟩
    have hrun : ((⟨rigid, .ofList [], .standard⟩ : Processor).run overclosed
        (Memory.ofBytes [])).1 = .error (.unbalanced (.orphan .closing)) := by decide +kernel
    cases hrun.symm.trans hcause
  have hread' : ¬ lax.Misreads overclosed := by
    cases hmake
    rintro ⟨cause, hcause⟩
    have hrun : ((⟨{ rigid with operations := [.conditionals rigidBlocks.lax] }, .ofList [],
        .standard⟩ : Processor).run overclosed (Memory.ofBytes [])).1 = .ok true := by
      decide +kernel
    cases hrun.symm.trans hcause
  obtain ⟨modified, hmodified⟩ := hlax hread'
  refine ⟨?_, lax, modified, hmake, hmodified⟩
  rw [← hmarks]
  exact hstrict hread

end Processor

end Templating

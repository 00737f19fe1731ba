import Mathlib.Data.List.Nodup
import Mathlib.Order.Bounds.Basic
import Templating.Proofs.Cutting
import Templating.Proofs.Reader

/-!
# The last boundary of an output

Cutting back reads the output from its end in stretches, with an overlap for tokens that lie
across the start of one. What is left is what a search through all of the output would leave:
everything up to the last place, a whole number of units above the floor, where the output ends
with a token.

* `TokenTable.mem_tokens_ofEntries`: what the tokens of a table are.
* `Target.Boundary`, `Target.CutBack`: the places where a token ends, and what is left by a search
  that sees all of them.
* `Session.cutBackTo_finds`: **cutting back leaves this and nothing else**, in every target that can
  be looked back into. Such a target says nothing of a read beyond its bytes, so there is none.
-/

namespace Templating

/-! ## The tokens of a table -/

namespace Trie

variable {α : Type}

theorem get?_empty (key : Bytes) : (empty : Trie α).get? key = none := by
  cases key <;> rfl

theorem get?_insert (v : α) (key : Bytes) : ∀ (t : Trie α) (other : Bytes),
    (t.insert v key).get? other = if other = key then some v else t.get? other := by
  induction key with
  | nil =>
    intro t other
    cases other with
    | nil => rfl
    | cons b bs => rw [if_neg (List.cons_ne_nil b bs)]; rfl
  | cons a key ih =>
    intro t other
    cases other with
    | nil => rfl
    | cons b bs =>
      have hchild : (t.insert v (a :: key)).child? b =
          if b = a then some (insert v key ((t.child? a).getD empty)) else t.child? b := by
        simp only [insert, child?, children, lookup_putChild]
      rw [get?, get?, hchild]
      by_cases hba : b = a
      · subst hba
        rw [if_pos rfl, Option.bind_some, ih]
        cases t.child? b with
        | none =>
          simp only [Option.getD_none, get?_empty, Option.bind_none, List.cons.injEq, true_and]
        | some c => simp only [Option.getD_some, Option.bind_some, List.cons.injEq, true_and]
      · rw [if_neg hba, if_neg fun h => hba (List.cons.inj h).1]

end Trie

namespace TokenTable

variable {t : TokenTable} {added : List (Bytes × Nat)} {token : Bytes} {index : Nat}

theorem mem_entries_add {x : Nat × Bytes} (h : x ∈ (t.add token index).entries) :
    x = (index, token) ∧ token ≠ [] ∨ x ∈ t.entries := by
  unfold TokenTable.add at h
  split at h
  · exact .inr h
  · rename_i hne
    rcases List.mem_cons.1 h with heq | hx
    · exact .inl ⟨heq, by simpa using hne⟩
    · have hkept := List.mem_of_mem_filter hx
      split at hkept
      · exact .inr (List.mem_of_mem_filter hkept)
      · exact .inr hkept

theorem longest_le_add (t : TokenTable) (token : Bytes) (index : Nat) :
    t.longest ≤ (t.add token index).longest := by
  unfold TokenTable.add
  split
  · exact le_rfl
  · exact le_max_left _ _

theorem Measured.add (ht : t.Measured) (token : Bytes) (index : Nat) :
    (t.add token index).Measured := by
  intro x hx
  rcases mem_entries_add hx with ⟨rfl, hne⟩ | hold
  · refine ⟨hne, ?_⟩
    rw [TokenTable.add, if_neg (by simpa using hne)]
    exact le_max_right _ _
  · exact ⟨(ht x hold).1, (ht x hold).2.trans (longest_le_add t token index)⟩

theorem measured_ofEntries (entries : List (Bytes × Nat)) : (ofEntries entries).Measured := by
  induction entries using List.reverseRecOn with
  | nil => exact fun x hx => absurd hx List.not_mem_nil
  | append_singleton entries e ih =>
    rw [ofEntries_concat]
    exact ih.add e.1 e.2

/-- A table that has all that has been added to it, each under the number that came with it. -/
structure Numbers (t : TokenTable) (added : List (Bytes × Nat)) : Prop where
  entry : ∀ x ∈ t.entries, (x.2, x.1) ∈ added
  key : ∀ token index, t.trie.get? token = some index → (token, index) ∈ added
  all : ∀ x ∈ added, x.1 ≠ [] → x.1 ∈ t.tokens

/-- Under a new number, only an old number of the same token is given up. -/
theorem Numbers.mem_entries_add (ht : t.Numbers added) (hold : (added.map (·.2)).Nodup)
    {x : Nat × Bytes} (hx : x ∈ t.entries) (htoken : x.2 ≠ token) (hindex : x.1 ≠ index) :
    x ∈ (t.add token index).entries := by
  unfold TokenTable.add
  split
  · exact hx
  · refine List.mem_cons_of_mem _ (List.mem_filter.2 ⟨?_, bne_iff_ne.2 hindex⟩)
    split
    · rename_i previous hprevious
      refine List.mem_filter.2 ⟨hx, ?_⟩
      rw [bne_iff_ne]
      rintro rfl
      exact htoken (congrArg Prod.fst (List.inj_on_of_nodup_map hold (ht.entry x hx)
        (ht.key token x.1 hprevious) rfl))
    · exact hx

theorem Numbers.add (ht : t.Numbers added)
    (hnodup : ((added ++ [(token, index)]).map (·.2)).Nodup) :
    (t.add token index).Numbers (added ++ [(token, index)]) := by
  rw [List.map_append, List.nodup_append] at hnodup
  obtain ⟨hold, -, hfresh⟩ := hnodup
  have hnew : ∀ other, (other, index) ∉ added := fun other hmem =>
    hfresh index (List.mem_map.2 ⟨_, hmem, rfl⟩) index (by simp) rfl
  refine ⟨fun x hx => ?_, fun other i hget => ?_, fun x hx hne => ?_⟩
  · rcases TokenTable.mem_entries_add hx with ⟨rfl, -⟩ | hx
    · simp
    · exact List.mem_append_left _ (ht.entry x hx)
  · unfold TokenTable.add at hget
    split at hget
    · exact List.mem_append_left _ (ht.key other i hget)
    · rw [Trie.get?_insert] at hget
      split at hget
      · rename_i heq
        cases hget
        rw [heq]
        simp
      · exact List.mem_append_left _ (ht.key other i hget)
  · by_cases heq : x.1 = token
    · rw [heq] at hne ⊢
      refine List.mem_map.2 ⟨(index, token), ?_, rfl⟩
      rw [TokenTable.add, if_neg (by simpa using hne)]
      exact List.mem_cons_self
    · rcases List.mem_append.1 hx with hx | hx
      · obtain ⟨y, hy, htoken⟩ := List.mem_map.1 (ht.all x hx hne)
        refine List.mem_map.2 ⟨y, ht.mem_entries_add hold hy (htoken ▸ heq) ?_, htoken⟩
        rintro rfl
        exact hnew _ (ht.entry y hy)
      · exact absurd (congrArg Prod.fst (List.mem_singleton.1 hx)) heq

theorem numbers_ofEntries {entries : List (Bytes × Nat)} (h : (entries.map (·.2)).Nodup) :
    (ofEntries entries).Numbers entries := by
  induction entries using List.reverseRecOn with
  | nil =>
    refine ⟨nofun, fun token index hget => ?_, nofun⟩
    have hnone : (ofEntries []).trie.get? token = none := Trie.get?_empty token
    rw [hnone] at hget
    cases hget
  | append_singleton entries e ih =>
    have hold := h
    rw [List.map_append] at hold
    rw [ofEntries_concat]
    exact (ih (List.nodup_append.1 hold).1).add h

/-- **The tokens of a table** are the sequences that it has been given, as long as no number is
given twice; an empty one is none. -/
theorem mem_tokens_ofEntries {entries : List (Bytes × Nat)} (h : (entries.map (·.2)).Nodup)
    {token : Bytes} :
    token ∈ (ofEntries entries).tokens ↔ token ≠ [] ∧ token ∈ entries.map (·.1) := by
  have hnumbers := numbers_ofEntries h
  constructor
  · intro hmem
    obtain ⟨x, hx, rfl⟩ := List.mem_map.1 hmem
    exact ⟨(measured_ofEntries entries x hx).1, List.mem_map.2 ⟨_, hnumbers.entry x hx, rfl⟩⟩
  · rintro ⟨hne, hmem⟩
    obtain ⟨x, hx, rfl⟩ := List.mem_map.1 hmem
    exact hnumbers.all x hx hne

end TokenTable

/-! ## Boundaries -/

namespace Target

/-- **A boundary of an output**: a whole number of units above the floor, and a token ends there
that lies above the floor as well. -/
structure Boundary (tokens : List Bytes) (unit floor : Nat) (output : Bytes) (stop : Nat) :
    Prop where
  above : floor < stop
  within : stop ≤ output.length
  aligned : unit ∣ stop - floor
  ends : ∃ token ∈ tokens, token <:+ (output.take stop).drop floor

/-- **What is left of an output that is cut back to a token**, told by all of its boundaries: the
output up to the last one, without the longest token there if it is consumed. Without a boundary
nothing is left above the floor, and an output that does not reach above it is left alone. -/
inductive CutBack (tokens : List Bytes) (unit floor : Nat) (consume : Bool) (output : Bytes) :
    Bytes → Prop
  | boundary {stop length : Nat} :
      IsGreatest {stop | Boundary tokens unit floor output stop} stop →
      IsGreatest {length | ∃ token ∈ tokens, token <:+ (output.take stop).drop floor ∧
        token.length = length} length →
      CutBack tokens unit floor consume output
        (output.take (if consume then stop - length else stop))
  | bare : (∀ stop, ¬ Boundary tokens unit floor output stop) →
      CutBack tokens unit floor consume output (output.take floor)

/-- There is one thing to be left. -/
theorem CutBack.unique {tokens : List Bytes} {unit floor : Nat} {consume : Bool}
    {output kept kept' : Bytes} (h : CutBack tokens unit floor consume output kept)
    (h' : CutBack tokens unit floor consume output kept') : kept = kept' := by
  cases h with
  | boundary hstop hlength =>
    cases h' with
    | boundary hstop' hlength' =>
      obtain rfl := hstop.unique hstop'
      rw [hlength.unique hlength']
    | bare hnone => exact absurd hstop.1 (hnone _)
  | bare hnone =>
    cases h' with
    | boundary hstop' _ => exact absurd hstop'.1 (hnone _)
    | bare _ => rfl

variable {t : TokenTable} {unit floor : Nat} {output : Bytes}

/-- The test at a place finds the longest token that ends there. -/
theorem matchReversed?_reversedTo {stop length : Nat} :
    t.matchReversed? (reversedTo output floor stop) = some length ↔
      IsGreatest {length | ∃ token ∈ t.tokens, token <:+ (output.take stop).drop floor ∧
        token.length = length} length := by
  have hmatch : t.matchEnd? ((output.take stop).drop floor) = some length ↔ _ :=
    TokenTable.matchEnd?_eq_some
  refine hmatch.trans (and_congr_right fun _ => ?_)
  constructor
  · rintro h _ ⟨token, hmem, hsuffix, rfl⟩
    exact h token hmem hsuffix
  · exact fun h token hmem hsuffix => h ⟨token, hmem, hsuffix, rfl⟩

/-- **The tests from a place on downwards** find the last boundary that is not behind it. -/
theorem lastEnd?_boundary (t : TokenTable) (unit n : Nat) (hn : floor + n ≤ output.length) :
    match lastEnd? t unit (reversedTo output floor (floor + n)) n n with
    | some (distance, length) =>
      IsGreatest {stop | stop ≤ floor + n ∧ Boundary t.tokens unit floor output stop}
          (floor + distance) ∧
        IsGreatest {length | ∃ token ∈ t.tokens,
          token <:+ (output.take (floor + distance)).drop floor ∧ token.length = length} length
    | none => ∀ stop ≤ floor + n, ¬ Boundary t.tokens unit floor output stop := by
  induction n with
  | zero =>
    rw [lastEnd?]
    intro stop hstop hboundary
    have habove := hboundary.above
    omega
  | succ n ih =>
    have hbefore := ih (by omega)
    have hdrop : (reversedTo output floor (floor + (n + 1))).drop 1 =
        reversedTo output floor (floor + n) := by
      rw [← drop_reversedTo (show floor ≤ floor + n by omega) (by omega) hn,
        show floor + (n + 1) - (floor + n) = 1 by omega]
    rw [lastEnd?]
    cases hhere : (if (n + 1) % unit = 0
        then t.matchReversed? (reversedTo output floor (floor + (n + 1))) else none) with
    | some length =>
      obtain ⟨hunit, hmatch⟩ := Option.ite_none_right_eq_some.1 hhere
      have hlongest := matchReversed?_reversedTo.1 hmatch
      obtain ⟨token, hmem, hsuffix, -⟩ := hlongest.1
      refine ⟨⟨⟨le_rfl, by omega, hn, ?_, token, hmem, hsuffix⟩, fun stop hstop => hstop.1⟩,
        hlongest⟩
      rw [Nat.add_sub_cancel_left]
      exact Nat.dvd_of_mod_eq_zero hunit
    | none =>
      -- the place itself is no boundary
      have hno : ¬ Boundary t.tokens unit floor output (floor + (n + 1)) := by
        intro hboundary
        have haligned := hboundary.aligned
        rw [Nat.add_sub_cancel_left] at haligned
        rw [if_pos (Nat.mod_eq_zero_of_dvd haligned)] at hhere
        obtain ⟨token, hmem, hsuffix⟩ := hboundary.ends
        exact TokenTable.matchEnd?_eq_none.1 hhere token hmem hsuffix
      have hdown : ∀ stop, stop ≤ floor + (n + 1) → Boundary t.tokens unit floor output stop →
          stop ≤ floor + n := by
        intro stop hstop hboundary
        by_contra hlt
        obtain rfl : stop = floor + (n + 1) := by omega
        exact hno hboundary
      simp only [hdrop, Nat.add_sub_cancel]
      split at hbefore
      · obtain ⟨hgreatest, hlongest⟩ := hbefore
        refine ⟨⟨⟨by have := hgreatest.1.1; omega, hgreatest.1.2⟩, ?_⟩, hlongest⟩
        exact fun stop hstop => hgreatest.2 ⟨hdown stop hstop.1 hstop.2, hstop.2⟩
      · exact fun stop hstop hboundary => hbefore stop (hdown stop hstop hboundary) hboundary

/-- What the last end of a token in all of the output leaves of it. -/
theorem cutBack_lastEnd (t : TokenTable) (unit floor : Nat) (consume : Bool) (output : Bytes) :
    CutBack t.tokens unit floor consume output (output.take
      ((lastEnd? t unit (reversedTo output floor output.length) (output.length - floor)
          (output.length - floor)).elim floor fun found =>
        if consume then floor + found.1 - found.2 else floor + found.1)) := by
  by_cases hfloor : floor ≤ output.length
  · have hlast := lastEnd?_boundary t unit (output.length - floor)
      (show floor + (output.length - floor) ≤ output.length by omega)
    rw [Nat.add_sub_cancel' hfloor] at hlast
    split at hlast
    · rename_i distance length hfound
      rw [hfound]
      refine .boundary ⟨hlast.1.1.2, fun stop hstop => ?_⟩ hlast.2
      exact hlast.1.2 ⟨hstop.within, hstop⟩
    · rename_i hnone
      rw [hnone]
      exact .bare fun stop hstop => hlast stop hstop.within hstop
  · have hzero : output.length - floor = 0 := by omega
    rw [hzero, lastEnd?]
    refine .bare fun stop hstop => hfloor ?_
    exact hstop.above.le.trans hstop.within

end Target

/-! ## Sessions -/

namespace Session

variable {τ α : Type}

theorem gives_onTarget {P Q : τ → Prop} {action : EStateM IoError τ α} {a : α}
    (h : Gives P action a Q) (w : Window) :
    Gives (fun s : Session τ => s.window = w ∧ P s.target) (onTarget action) a
      (fun s => s.window = w ∧ Q s.target) := by
  rintro ⟨window, target⟩ ⟨rfl, hp⟩
  obtain ⟨t, haction, hq⟩ := h target hp
  exact ⟨⟨window, t⟩, by rw [onTarget_apply, haction], rfl, hq⟩

variable [Target τ] {view : Target.View τ}

/-- **Cutting back to the last token leaves what a search through all of the output leaves**: for
all tokens, encodings, floors and outputs, whether the token is consumed or not. The window over
the source stays where it is. -/
theorem cutBackTo_finds (hview : view.Dependable) (ctx : Context)
    (entries : List (Bytes × Nat)) (consume : Bool) (output : Bytes) (w : Window) : ∃ kept,
    (∀ bytes, Target.CutBack (TokenTable.ofEntries entries).tokens
        ctx.glossary.encoding.unitWidth ctx.floor consume output bytes ↔ bytes = kept) ∧
      Gives (fun s : Session τ => s.window = w ∧ view.Holds output s.target)
        (cutBackTo ctx (.ofEntries entries) consume) ()
        (fun s => s.window = w ∧ view.Holds kept s.target) := by
  have hcut := Target.cutBack_lastEnd (.ofEntries entries) ctx.glossary.encoding.unitWidth
    ctx.floor consume output
  refine ⟨_, fun bytes => ⟨fun h => h.unique hcut, ?_⟩, gives_onTarget
    (Target.gives_cutBackTo hview _ (TokenTable.measured_ofEntries entries) consume) w⟩
  rintro rfl
  exact hcut

/-- In UTF-16, where the bytes of a line feed also stand across two characters: the output is cut
back to the one that is a character, and the byte-order mark below it is not looked at. -/
theorem cutBackTo_finds_line_feed : Memory.view.Dependable ∧
    cutBackTo ⟨.make .utf16le .empty "", 2⟩ (.ofEntries [([10, 0], 0)]) false
        (⟨.whole [], .ofBytes [0xFF, 0xFE, 10, 0, 97, 10, 0, 98]⟩ : Session Memory) =
      .ok () ⟨.whole [], .ofBytes [0xFF, 0xFE, 10, 0]⟩ := by
  refine ⟨Memory.dependable, ?_⟩
  obtain ⟨kept, hkept, hgives⟩ := cutBackTo_finds Memory.dependable
    ⟨.make .utf16le .empty "", 2⟩ [([10, 0], 0)] false [0xFF, 0xFE, 10, 0, 97, 10, 0, 98]
    (.whole [])
  have htokens : (TokenTable.ofEntries [([10, 0], 0)]).tokens = [[10, 0]] := by decide
  rw [htokens] at hkept
  have hlast : IsGreatest {stop | Target.Boundary [[10, 0]] 2 2
      [0xFF, 0xFE, 10, 0, 97, 10, 0, 98] stop} 4 := by
    refine ⟨⟨by decide, by decide, by decide, by decide⟩, fun stop hstop => ?_⟩
    -- behind it only whole units are looked at, and neither of them ends with the token
    have hwithin : stop ≤ 8 := hstop.within
    have haligned := hstop.aligned
    by_contra hlt
    obtain rfl | rfl : stop = 6 ∨ stop = 8 := by omega
    · exact absurd hstop.ends (by decide)
    · exact absurd hstop.ends (by decide)
  have hlongest : IsGreatest {length | ∃ token ∈ ([[10, 0]] : List Bytes),
      token <:+ (([0xFF, 0xFE, 10, 0, 97, 10, 0, 98] : Bytes).take 4).drop 2 ∧
        token.length = length} 2 := by
    refine ⟨by decide, ?_⟩
    rintro length ⟨token, hmem, -, rfl⟩
    obtain rfl := List.mem_singleton.1 hmem
    exact le_rfl
  have hcut := (hkept _).1 (.boundary hlast hlongest)
  obtain ⟨⟨window, target⟩, haction, rfl, rfl, -⟩ :=
    hgives ⟨.whole [], .ofBytes [0xFF, 0xFE, 10, 0, 97, 10, 0, 98]⟩ ⟨rfl, rfl, trivial⟩
  rw [haction, ← Memory.ofBytes_toBytes target]
  exact congrArg _ (congrArg _ (congrArg _ hcut.symm))

end Session

end Templating

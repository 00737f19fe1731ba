import Mathlib.Order.Bounds.Basic
import Templating.Proofs.Boundaries
import Templating.Proofs.Passthrough

/-!
# Tables of tokens are dictionaries

The tokens of a run stand in two kinds of tables: in the dispatch, where each has an owner, and in
token tables, where each has a number. Given the same byte sequences in the same order, both find
the same one of them everywhere, and what a token table finds at the end of bytes is one of these
sequences, too.

* `LastLongest`: the place in a list of byte sequences that a look-up has to find.
* `longestMatch?_eq_some`: the longest match is the entry at this place.
* `Extremes`: what the least and the greatest length of a table are.
* `Dispatch.agrees_with_table`: **both kinds of tables are longest-match dictionaries and agree.**
-/

namespace Templating

/-! ## The last of the longest -/

section LastLongest

variable {β : Type} {sequences : List Bytes} {entries : List (Bytes × β)} {text token : Bytes}
  {value : β} {place : Nat}

/-- **The place that a look-up has to find**: a byte sequence stands there that the text begins
with, none that is longer begins the text, and the same one does not stand at a later place.
Empty sequences do not count. -/
structure LastLongest (sequences : List Bytes) (text : Bytes) (place : Nat) (token : Bytes) :
    Prop where
  here : sequences[place]? = some token
  ne_nil : token ≠ []
  begins : token <+: text
  longest : ∀ other ∈ sequences, other <+: text → other.length ≤ token.length
  last : ∀ later : Nat, sequences[later]? = some token → later ≤ place

/-- There is one such place. -/
theorem LastLongest.unique {place' : Nat} {token' : Bytes}
    (h : LastLongest sequences text place token) (h' : LastLongest sequences text place' token') :
    place = place' ∧ token = token' := by
  have hlength : token.length = token'.length :=
    le_antisymm (h'.longest token (List.mem_of_getElem? h.here) h.begins)
      (h.longest token' (List.mem_of_getElem? h'.here) h'.begins)
  have htoken : token = token' :=
    (List.prefix_of_prefix_length_le h.begins h'.begins hlength.le).eq_of_length hlength
  subst htoken
  exact ⟨le_antisymm (h'.last place h.here) (h.last place' h'.here), rfl⟩

/-- The longest match stands at the last place of its key. -/
theorem exists_last_place (h : longestMatch? entries text = some (token, value)) :
    ∃ place : Nat, entries[place]? = some (token, value) ∧
      ∀ (later : Nat) (e : Bytes × β), entries[later]? = some e → e.1 = token → later ≤ place := by
  induction entries using List.reverseRecOn with
  | nil => cases h
  | append_singleton entries last ih =>
    have hlast : (entries ++ [last])[entries.length]? = some last := List.getElem?_concat_length
    have hold : ∀ {i : Nat} {e : Bytes × β}, (entries ++ [last])[i]? = some e →
        i ≤ entries.length := by
      intro i e hi
      have hlt := (List.getElem?_eq_some_iff.1 hi).1
      rw [List.length_append, List.length_singleton] at hlt
      omega
    have hspec := longestMatch?_spec h
    rw [longestMatch?_concat, prefer] at h
    split at h
    · obtain rfl : last = (token, value) := Option.some.inj h
      exact ⟨entries.length, hlast, fun later e he _ => hold he⟩
    · rename_i hother
      obtain ⟨place, hplace, hmax⟩ := ih h
      refine ⟨place, ?_, fun later e he hkey => ?_⟩
      · rw [List.getElem?_append_left (List.getElem?_eq_some_iff.1 hplace).1]
        exact hplace
      · rcases (hold he).lt_or_eq with hlt | rfl
        · rw [List.getElem?_append_left hlt] at he
          exact hmax later e he hkey
        · -- the same key again would have been preferred
          obtain rfl : last = e := Option.some.inj (hlast.symm.trans he)
          refine absurd ⟨hkey ▸ hspec.2.1, hkey ▸ hspec.2.2.1, fun b hb => ?_⟩ hother
          rw [h] at hb
          cases hb
          exact (congrArg List.length hkey).ge

/-- **The longest match** is the entry at the place that a look-up has to find. -/
theorem longestMatch?_eq_some : longestMatch? entries text = some (token, value) ↔
    ∃ place, LastLongest (entries.map (·.1)) text place token ∧
      entries[place]? = some (token, value) := by
  have hplace : ∀ {found : Bytes × β}, longestMatch? entries text = some found → ∃ place,
      LastLongest (entries.map (·.1)) text place found.1 ∧ entries[place]? = some found := by
    intro found h
    obtain ⟨-, hne, hpre, hmax⟩ := longestMatch?_spec h
    obtain ⟨place, hentry, hlast⟩ := exists_last_place h
    refine ⟨place, ⟨?_, hne, hpre, ?_, fun later hlater => ?_⟩, hentry⟩
    · rw [List.getElem?_map, hentry]
      rfl
    · intro other hother hbegins
      obtain ⟨e, he, rfl⟩ := List.mem_map.1 hother
      by_cases hnil : e.1 = []
      · rw [hnil]
        exact Nat.zero_le _
      · exact hmax e he hnil hbegins
    · rw [List.getElem?_map, Option.map_eq_some_iff] at hlater
      obtain ⟨e, he, hkey⟩ := hlater
      exact hlast later e he hkey
  refine ⟨hplace, ?_⟩
  rintro ⟨place, hspec, hentry⟩
  cases hm : longestMatch? entries text with
  | none =>
    exact absurd hspec.begins
      (longestMatch?_eq_none.1 hm _ (List.mem_of_getElem? hentry) hspec.ne_nil)
  | some found =>
    obtain ⟨place', hspec', hentry'⟩ := hplace hm
    obtain ⟨rfl, -⟩ := hspec.unique hspec'
    rw [← hentry, ← hentry']

end LastLongest

/-! ## Look-ups at a cursor -/

section LookUp

variable {α : Type} {match? : Bytes → Option (α × Nat)} {buffer : Bytes} {length cursor : Nat}

theorem lookUp_eq_some {found : α} {count : Nat}
    (h : match? (visible buffer length cursor) = some (found, count)) :
    lookUp match? buffer length cursor = (some found, cursor + count) := by
  rw [lookUp, h]

theorem lookUp_eq_none (h : match? (visible buffer length cursor) = none) :
    lookUp match? buffer length cursor = (none, cursor) := by
  rw [lookUp, h]

end LookUp

/-! ## Least and greatest lengths -/

/-- The least and the greatest of some lengths; both are zero where there are none. -/
def Extremes (lengths : Set Nat) (least greatest : Nat) : Prop :=
  lengths = ∅ ∧ least = 0 ∧ greatest = 0 ∨ IsLeast lengths least ∧ IsGreatest lengths greatest

/-- The lengths of byte sequences, without the empty ones. -/
def lengths (sequences : List Bytes) : Set Nat :=
  {n | ∃ token ∈ sequences, token ≠ [] ∧ token.length = n}

section Lengths

variable {sequences : List Bytes} {token : Bytes} {least greatest : Nat}

theorem pos_of_mem_lengths {n : Nat} (h : n ∈ lengths sequences) : 0 < n := by
  obtain ⟨token, -, hne, rfl⟩ := h
  exact List.length_pos_iff.2 hne

theorem lengths_concat_nil (sequences : List Bytes) :
    lengths (sequences ++ [[]]) = lengths sequences := by
  ext n
  simp [lengths, or_and_right, exists_or]

theorem lengths_concat (sequences : List Bytes) (hne : token ≠ []) :
    lengths (sequences ++ [token]) = insert token.length (lengths sequences) := by
  ext n
  simp only [lengths, List.mem_append, List.mem_singleton, Set.mem_ofPred_eq, Set.mem_insert_iff]
  constructor
  · rintro ⟨other, hmem | rfl, hother, rfl⟩
    · exact .inr ⟨other, hmem, hother, rfl⟩
    · exact .inl rfl
  · rintro (rfl | ⟨other, hmem, hother, rfl⟩)
    · exact ⟨token, .inr rfl, hne, rfl⟩
    · exact ⟨other, .inl hmem, hother, rfl⟩

theorem extremes_nil : Extremes (lengths []) 0 0 := by
  refine .inl ⟨?_, rfl, rfl⟩
  ext n
  simp [lengths]

/-- One more sequence, as a table takes it in: zero is the least length only where there is
none. -/
theorem Extremes.concat (h : Extremes (lengths sequences) least greatest) (hne : token ≠ []) :
    Extremes (lengths (sequences ++ [token]))
      (if least = 0 then token.length else min least token.length)
      (max greatest token.length) := by
  right
  rw [lengths_concat sequences hne]
  rcases h with ⟨hnone, rfl, rfl⟩ | ⟨hleast, hgreatest⟩
  · rw [hnone, if_pos rfl, Nat.zero_max, insert_empty_eq]
    exact ⟨isLeast_singleton, isGreatest_singleton⟩
  · rw [if_neg (pos_of_mem_lengths hleast.1).ne', min_comm, max_comm]
    exact ⟨hleast.insert _, hgreatest.insert _⟩

end Lengths

/-! ## Tables -/

namespace TokenTable

variable {entries : List (Bytes × Nat)}

theorem extremes_ofEntries (entries : List (Bytes × Nat)) :
    Extremes (lengths (entries.map (·.1))) (ofEntries entries).shortest
      (ofEntries entries).longest := by
  induction entries using List.reverseRecOn with
  | nil => exact extremes_nil
  | append_singleton entries e ih =>
    rw [ofEntries_concat, List.map_append, List.map_singleton, TokenTable.add]
    split
    · rename_i hempty
      rw [List.isEmpty_iff.1 hempty, lengths_concat_nil]
      exact ih
    · rename_i hne
      exact ih.concat (by simpa using hne)

/-- What a token table finds at the beginning of a text. -/
theorem match?_eq_some {text : Bytes} {number length : Nat} :
    (ofEntries entries).match? text = some (number, length) ↔ ∃ place token,
      LastLongest (entries.map (·.1)) text place token ∧ entries[place]? = some (token, number) ∧
        token.length = length := by
  rw [match?_ofEntries, Option.map_eq_some_iff]
  constructor
  · rintro ⟨⟨token, number⟩, hm, heq⟩
    cases heq
    obtain ⟨place, hplace, hentry⟩ := longestMatch?_eq_some.1 hm
    exact ⟨place, token, hplace, hentry, rfl⟩
  · rintro ⟨place, token, hplace, hentry, rfl⟩
    exact ⟨(token, number), longestMatch?_eq_some.2 ⟨place, hplace, hentry⟩, rfl⟩

theorem match?_ofEntries_eq_none {text : Bytes} :
    (ofEntries entries).match? text = none ↔
      ∀ token ∈ entries.map (·.1), token ≠ [] → ¬ token <+: text := by
  rw [match?_ofEntries, Option.map_eq_none_iff, longestMatch?_eq_none]
  simp only [List.forall_mem_map]

/-- What a token table finds at the end of a text. -/
theorem matchEnd?_ofEntries (h : (entries.map (·.2)).Nodup) {text : Bytes} {length : Nat} :
    (ofEntries entries).matchEnd? text = some length ↔
      IsGreatest {n | ∃ token ∈ entries.map (·.1), token ≠ [] ∧ token <:+ text ∧ token.length = n}
        length := by
  rw [matchEnd?_eq_some]
  simp only [mem_tokens_ofEntries h]
  constructor
  · rintro ⟨⟨token, ⟨hne, hmem⟩, hsuffix, hlength⟩, hmax⟩
    refine ⟨⟨token, hmem, hne, hsuffix, hlength⟩, ?_⟩
    rintro _ ⟨other, hother, hnil, hends, rfl⟩
    exact hmax other ⟨hnil, hother⟩ hends
  · rintro ⟨⟨token, hmem, hne, hsuffix, hlength⟩, hmax⟩
    exact ⟨⟨token, ⟨hne, hmem⟩, hsuffix, hlength⟩,
      fun other hother hends => hmax ⟨other, hother.2, hother.1, hends, rfl⟩⟩

theorem matchEnd?_ofEntries_eq_none (h : (entries.map (·.2)).Nodup) {text : Bytes} :
    (ofEntries entries).matchEnd? text = none ↔
      ∀ token ∈ entries.map (·.1), token ≠ [] → ¬ token <:+ text := by
  rw [matchEnd?_eq_none]
  simp only [mem_tokens_ofEntries h, and_imp]
  exact forall_congr' fun token => forall_comm

/-- Read forwards, a table knows the sequences that it has been given. -/
theorem knows_forwards {token : Bytes} : (∃ number,
    (ofEntries entries).match? token = some (number, token.length)) ↔
      token ≠ [] ∧ token ∈ entries.map (·.1) := by
  constructor
  · rintro ⟨number, hm⟩
    obtain ⟨place, found, hfound, -, hlength⟩ := match?_eq_some.1 hm
    obtain rfl := hfound.begins.eq_of_length hlength
    exact ⟨hfound.ne_nil, List.mem_of_getElem? hfound.here⟩
  · rintro ⟨hne, hmem⟩
    cases hm : (ofEntries entries).match? token with
    | none => exact absurd List.prefix_rfl (match?_ofEntries_eq_none.1 hm token hmem hne)
    | some found =>
      obtain ⟨place, other, hother, -, hlength⟩ := match?_eq_some.1 hm
      refine ⟨found.1, congrArg some (Prod.ext rfl ?_)⟩
      -- no sequence that the token begins with is longer than the token
      rw [← hlength]
      exact le_antisymm hother.begins.length_le (hother.longest token hmem List.prefix_rfl)

/-- Read backwards, it knows the same ones. -/
theorem knows_backwards (h : (entries.map (·.2)).Nodup) {token : Bytes} :
    (ofEntries entries).matchEnd? token = some token.length ↔
      token ≠ [] ∧ token ∈ entries.map (·.1) := by
  rw [matchEnd?_ofEntries h]
  constructor
  · rintro ⟨⟨other, hmem, hne, hends, hlength⟩, -⟩
    obtain rfl := hends.eq_of_length hlength
    exact ⟨hne, hmem⟩
  · rintro ⟨hne, hmem⟩
    refine ⟨⟨token, hmem, hne, List.suffix_rfl, rfl⟩, ?_⟩
    rintro _ ⟨other, -, -, hends, rfl⟩
    exact hends.length_le

end TokenTable

namespace Dispatch

/-- What a dispatch finds at the beginning of a text. -/
theorem match?_eq_some {sets : List (List Bytes)} {text : Bytes} {handler : Handler}
    {length : Nat} : (ofSets sets).match? text = some (handler, length) ↔ ∃ place token,
      LastLongest sets.flatten text place token ∧
        (registered sets)[place]? = some (token, handler) ∧ token.length = length := by
  rw [match?_ofSets, Option.map_eq_some_iff, ← registered_keys]
  constructor
  · rintro ⟨⟨token, handler⟩, hm, heq⟩
    cases heq
    obtain ⟨place, hplace, hentry⟩ := longestMatch?_eq_some.1 hm
    exact ⟨place, token, hplace, hentry, rfl⟩
  · rintro ⟨place, token, hplace, hentry, rfl⟩
    exact ⟨(token, handler), longestMatch?_eq_some.2 ⟨place, hplace, hentry⟩, rfl⟩

section Extremes

variable {d : Dispatch} {sequences : List Bytes}

theorem extremes_insert (hd : Extremes (lengths sequences) d.shortest d.longest)
    (handler : Handler) (token : Bytes) : Extremes (lengths (sequences ++ [token]))
      (d.insert handler token).shortest (d.insert handler token).longest := by
  unfold Dispatch.insert
  split
  · rename_i hempty
    rw [List.isEmpty_iff.1 hempty, lengths_concat_nil]
    exact hd
  · rename_i hne
    exact hd.concat (by simpa using hne)

theorem extremes_insertTokens (hd : Extremes (lengths sequences) d.shortest d.longest)
    (operation token : Nat) (tokens : List Bytes) : Extremes (lengths (sequences ++ tokens))
      (d.insertTokens operation token tokens).shortest
      (d.insertTokens operation token tokens).longest := by
  induction tokens generalizing d sequences token with
  | nil =>
    rw [List.append_nil]
    exact hd
  | cons bytes rest ih =>
    rw [List.append_cons]
    exact ih (extremes_insert hd ⟨operation, token⟩ bytes) (token + 1)

theorem extremes_insertSets (hd : Extremes (lengths sequences) d.shortest d.longest)
    (operation : Nat) (sets : List (List Bytes)) :
    Extremes (lengths (sequences ++ sets.flatten)) (d.insertSets operation sets).shortest
      (d.insertSets operation sets).longest := by
  induction sets generalizing d sequences operation with
  | nil =>
    rw [List.flatten_nil, List.append_nil]
    exact hd
  | cons tokens rest ih =>
    rw [List.flatten_cons, ← List.append_assoc]
    exact ih (extremes_insertTokens hd operation 0 tokens) (operation + 1)

theorem extremes_ofSets (sets : List (List Bytes)) :
    Extremes (lengths sets.flatten) (ofSets sets).shortest (ofSets sets).longest := by
  have hempty : Extremes (lengths []) empty.shortest empty.longest := extremes_nil
  exact extremes_insertSets hempty 0 sets

end Extremes

/-- At the beginning of a text both tables find the same place, or none. -/
theorem finds_with_table {sets : List (List Bytes)} {entries : List (Bytes × Nat)}
    (hkeys : entries.map (·.1) = sets.flatten) (text : Bytes) :
    (∃ place token handler number, LastLongest sets.flatten text place token ∧
      (registered sets)[place]? = some (token, handler) ∧
      entries[place]? = some (token, number) ∧
      (ofSets sets).match? text = some (handler, token.length) ∧
      (TokenTable.ofEntries entries).match? text = some (number, token.length)) ∨
    (∀ token ∈ sets.flatten, token ≠ [] → ¬ token <+: text) ∧
      (ofSets sets).match? text = none ∧ (TokenTable.ofEntries entries).match? text = none := by
  cases hm : (ofSets sets).match? text with
  | some found =>
    obtain ⟨handler, length⟩ := found
    obtain ⟨place, token, hplace, howner, rfl⟩ := match?_eq_some.1 hm
    -- the table has an entry at the same place, with the same key
    have hkey : (entries.map (·.1))[place]? = some token := hkeys ▸ hplace.here
    rw [List.getElem?_map, Option.map_eq_some_iff] at hkey
    obtain ⟨⟨_, number⟩, hentry, rfl⟩ := hkey
    refine .inl ⟨place, _, handler, number, hplace, howner, hentry, rfl, ?_⟩
    exact TokenTable.match?_eq_some.2 ⟨place, _, hkeys ▸ hplace, hentry, rfl⟩
  | none =>
    have hnone := match?_eq_none.1 hm
    exact .inr ⟨hnone, rfl, TokenTable.match?_ofEntries_eq_none.2 (hkeys ▸ hnone)⟩

/-- **Both kinds of tables are longest-match dictionaries and agree.** A dispatch of token sets and
a token table of the same sequences, in the same order and under different numbers, find at every
cursor in every buffer the last of the longest sequences that begin there, each with what belongs
to this registration, and the cursor goes on by its length; or there is none, and the cursor stays.
At the end of bytes the table finds the longest sequence that they end with, so both directions
know the same sequences. The lengths that the tables keep are those of a shortest and of a longest
sequence. -/
theorem agrees_with_table (sets : List (List Bytes)) (entries : List (Bytes × Nat))
    (hkeys : entries.map (·.1) = sets.flatten) (hnumbers : (entries.map (·.2)).Nodup) :
    (∀ buffer length cursor,
      (∃ place token handler number,
        LastLongest sets.flatten (visible buffer length cursor) place token ∧
          (registered sets)[place]? = some (token, handler) ∧
          entries[place]? = some (token, number) ∧
          lookUp (ofSets sets).match? buffer length cursor =
            (some handler, cursor + token.length) ∧
          lookUp (TokenTable.ofEntries entries).match? buffer length cursor =
            (some number, cursor + token.length)) ∨
      (∀ token ∈ sets.flatten, token ≠ [] → ¬ token <+: visible buffer length cursor) ∧
        lookUp (ofSets sets).match? buffer length cursor = (none, cursor) ∧
        lookUp (TokenTable.ofEntries entries).match? buffer length cursor = (none, cursor)) ∧
    (∀ bytes,
      (∀ length, (TokenTable.ofEntries entries).matchEnd? bytes = some length ↔
        IsGreatest {n | ∃ token ∈ sets.flatten, token ≠ [] ∧ token <:+ bytes ∧ token.length = n}
          length) ∧
      ((TokenTable.ofEntries entries).matchEnd? bytes = none ↔
        ∀ token ∈ sets.flatten, token ≠ [] → ¬ token <:+ bytes)) ∧
    (∀ token,
      ((∃ number, (TokenTable.ofEntries entries).match? token = some (number, token.length)) ↔
        token ≠ [] ∧ token ∈ sets.flatten) ∧
      ((TokenTable.ofEntries entries).matchEnd? token = some token.length ↔
        token ≠ [] ∧ token ∈ sets.flatten)) ∧
    Extremes (lengths sets.flatten) (ofSets sets).shortest (ofSets sets).longest ∧
    Extremes (lengths sets.flatten) (TokenTable.ofEntries entries).shortest
      (TokenTable.ofEntries entries).longest := by
  refine ⟨fun buffer length cursor => ?_, fun bytes => ⟨fun length => ?_, ?_⟩,
    fun token => ⟨?_, ?_⟩, ?_, ?_⟩
  · rcases finds_with_table hkeys (visible buffer length cursor) with
      ⟨place, token, handler, number, hplace, howner, hentry, hdispatch, htable⟩ |
      ⟨hnone, hdispatch, htable⟩
    · exact .inl ⟨place, token, handler, number, hplace, howner, hentry,
        lookUp_eq_some hdispatch, lookUp_eq_some htable⟩
    · exact .inr ⟨hnone, lookUp_eq_none hdispatch, lookUp_eq_none htable⟩
  · rw [← hkeys]
    exact TokenTable.matchEnd?_ofEntries hnumbers
  · rw [← hkeys]
    exact TokenTable.matchEnd?_ofEntries_eq_none hnumbers
  · rw [← hkeys]
    exact TokenTable.knows_forwards
  · rw [← hkeys]
    exact TokenTable.knows_backwards hnumbers
  · exact extremes_ofSets sets
  · rw [← hkeys]
    exact TokenTable.extremes_ofEntries entries

/-- Two operations with the same token, an empty token that does not count, and a longer token that
the filled part of the buffer breaks off: both find the token that the later operation owns. -/
theorem agrees_with_table_reregistered :
    [([105, 102], 7), ([105, 102, 100], 3), ([], 5), ([105, 102], 0)].map (·.1) =
        ([[[105, 102], [105, 102, 100]], [[], [105, 102]]] : List (List Bytes)).flatten ∧
      ([([105, 102], 7), ([105, 102, 100], 3), ([], 5), ([105, 102], 0)].map
        fun e : Bytes × Nat => e.2).Nodup ∧
      lookUp (ofSets [[[105, 102], [105, 102, 100]], [[], [105, 102]]]).match?
        [120, 105, 102, 100] 3 1 = (some ⟨1, 1⟩, 3) ∧
      lookUp (TokenTable.ofEntries
        [([105, 102], 7), ([105, 102, 100], 3), ([], 5), ([105, 102], 0)]).match?
        [120, 105, 102, 100] 3 1 = (some 0, 3) := by
  have hkeys : [([105, 102], 7), ([105, 102, 100], 3), ([], 5), ([105, 102], 0)].map
      (fun e : Bytes × Nat => e.1) =
        ([[[105, 102], [105, 102, 100]], [[], [105, 102]]] : List (List Bytes)).flatten := rfl
  have hnumbers : ([([105, 102], 7), ([105, 102, 100], 3), ([], 5), ([105, 102], 0)].map
      fun e : Bytes × Nat => e.2).Nodup := by decide
  refine ⟨hkeys, hnumbers, ?_⟩
  rcases (agrees_with_table _ _ hkeys hnumbers).1 [120, 105, 102, 100] 3 1 with
    ⟨place, token, handler, number, hplace, howner, hentry, hdispatch, htable⟩ | ⟨hnone, -, -⟩
  · have hwhere : LastLongest
        ([[[105, 102], [105, 102, 100]], [[], [105, 102]]] : List (List Bytes)).flatten
        (visible [120, 105, 102, 100] 3 1) 3 [105, 102] := by
      refine ⟨rfl, by decide, by decide, by decide, fun later hlater => ?_⟩
      have hlt := (List.getElem?_eq_some_iff.1 hlater).1
      exact Nat.le_of_lt_succ hlt
    obtain ⟨rfl, rfl⟩ := hwhere.unique hplace
    cases howner
    cases hentry
    exact ⟨hdispatch, htable⟩
  · exact absurd (hnone [105, 102] (by decide) (by decide)) (by decide)

end Dispatch

end Templating

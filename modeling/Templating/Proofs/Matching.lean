import Mathlib.Data.List.Infix
import Mathlib.Tactic.Common
import Templating.Dispatch
import Templating.TokenTable

/-!
# Longest matches

What a table of tokens answers does not depend on its trie: it is the longest of
its tokens that a text begins with, and of several equal ones the last.

* `longestMatch?`: this answer, read off the list of entries.
* `TokenTable.match?_ofList`, `Dispatch.match?_ofSets`: both kinds of tables give it.
* `TokenTable.Lawful`, `Dispatch.Lawful`: a match is not empty, and no more than
  `longest` bytes have to be seen to find it.
-/

namespace Templating

section LongestMatch

variable {α β : Type} [DecidableEq α]

/-- The best match so far and one more entry: a longer key is preferred, and so is
the same key again. -/
def prefer (text : List α) (best : Option (List α × β)) (entry : List α × β) :
    Option (List α × β) :=
  if entry.1 ≠ [] ∧ entry.1 <+: text ∧ ∀ b ∈ best, b.1.length ≤ entry.1.length then some entry
  else best

/-- **The entry with the longest key that a text begins with**, and the last of
those with this key. Empty keys do not count. -/
def longestMatch? (entries : List (List α × β)) (text : List α) : Option (List α × β) :=
  entries.foldl (prefer text) none

theorem longestMatch?_concat (entries : List (List α × β)) (entry : List α × β) (text : List α) :
    longestMatch? (entries ++ [entry]) text = prefer text (longestMatch? entries text) entry := by
  simp [longestMatch?]

/-- Texts that the same entries begin have the same match. -/
theorem longestMatch?_congr {entries : List (List α × β)} {text text' : List α}
    (h : ∀ e ∈ entries, e.1 ≠ [] → (e.1 <+: text ↔ e.1 <+: text')) :
    longestMatch? entries text = longestMatch? entries text' := by
  induction entries using List.reverseRecOn with
  | nil => rfl
  | append_singleton entries last ih =>
    rw [longestMatch?_concat, longestMatch?_concat, ih fun e he => h e (by simp [he])]
    unfold prefer
    by_cases hne : last.1 = []
    · rw [if_neg (fun hc => hc.1 hne), if_neg (fun hc => hc.1 hne)]
    · simp only [h last (by simp) hne]

theorem longestMatch?_eq_none {entries : List (List α × β)} {text : List α} :
    longestMatch? entries text = none ↔ ∀ e ∈ entries, e.1 ≠ [] → ¬ e.1 <+: text := by
  induction entries using List.reverseRecOn with
  | nil => simp [longestMatch?]
  | append_singleton entries last ih =>
    rw [longestMatch?_concat, prefer]
    split
    · rename_i hlast
      simp only [reduceCtorEq, false_iff, not_forall]
      exact ⟨last, by simp, hlast.1, fun h => h hlast.2.1⟩
    · rename_i hlast
      rw [ih]
      constructor
      · intro h e he hne hpre
        rcases List.mem_append.1 he with he | he
        · exact h e he hne hpre
        · obtain rfl : e = last := by simpa using he
          -- nothing was found before, so the last entry would have been taken
          apply hlast
          rw [ih.2 h]
          exact ⟨hne, hpre, by simp⟩
      · intro h e he
        exact h e (by simp [he])

/-- **A longest match** is an entry with a key that the text begins with, and no
other entry has a longer one. -/
theorem longestMatch?_spec {entries : List (List α × β)} {text : List α} {e : List α × β}
    (h : longestMatch? entries text = some e) :
    e ∈ entries ∧ e.1 ≠ [] ∧ e.1 <+: text ∧
      ∀ e' ∈ entries, e'.1 ≠ [] → e'.1 <+: text → e'.1.length ≤ e.1.length := by
  induction entries using List.reverseRecOn generalizing e with
  | nil => simp [longestMatch?] at h
  | append_singleton entries last ih =>
    rw [longestMatch?_concat, prefer] at h
    split at h
    · rename_i hlast
      obtain rfl : last = e := by simpa using h
      refine ⟨by simp, hlast.1, hlast.2.1, ?_⟩
      intro e' he' hne hpre
      rcases List.mem_append.1 he' with he' | he'
      · -- an earlier entry is no longer than the best one before, and that is not longer either
        cases hbest : longestMatch? entries text with
        | none => exact absurd hpre (longestMatch?_eq_none.1 hbest e' he' hne)
        | some b =>
          exact le_trans ((ih hbest).2.2.2 e' he' hne hpre) (hlast.2.2 b (by simp [hbest]))
      · obtain rfl : e' = last := by simpa using he'
        exact le_rfl
    · rename_i hlast
      obtain ⟨hmem, hne, hpre, hmax⟩ := ih h
      refine ⟨by simp [hmem], hne, hpre, ?_⟩
      intro e' he' hne' hpre'
      rcases List.mem_append.1 he' with he' | he'
      · exact hmax e' he' hne' hpre'
      · obtain rfl : e' = last := by simpa using he'
        -- a longer last entry would have been taken
        by_contra hlt
        apply hlast
        refine ⟨hne', hpre', ?_⟩
        intro b hb
        obtain rfl : e = b := by simpa [h] using hb
        omega

/-- **Matching in another alphabet.** Where keys are written by a code that keeps
beginnings of the text and their order by length, the written text has the written match. -/
theorem longestMatch?_map {γ : Type} [DecidableEq γ] (code : List α → List γ)
    {entries : List (List α × β)} {text : List α}
    (hne : ∀ e ∈ entries, code e.1 ≠ [] ↔ e.1 ≠ [])
    (hpre : ∀ e ∈ entries, code e.1 <+: code text ↔ e.1 <+: text)
    (hle : ∀ k k' : List α, k <+: text → k' <+: text →
      ((code k).length ≤ (code k').length ↔ k.length ≤ k'.length)) :
    longestMatch? (entries.map fun e => (code e.1, e.2)) (code text) =
      (longestMatch? entries text).map fun e => (code e.1, e.2) := by
  induction entries using List.reverseRecOn with
  | nil => simp [longestMatch?]
  | append_singleton entries last ih =>
    rw [List.map_append, List.map_singleton, longestMatch?_concat, longestMatch?_concat,
      ih (fun e he => hne e (by simp [he])) (fun e he => hpre e (by simp [he]))]
    -- the last entry is preferred in one alphabet exactly if it is in the other
    have hcond : (code last.1 ≠ [] ∧ code last.1 <+: code text ∧
        ∀ b ∈ (longestMatch? entries text).map fun e => (code e.1, e.2),
          b.1.length ≤ (code last.1).length) ↔
        (last.1 ≠ [] ∧ last.1 <+: text ∧
          ∀ b ∈ longestMatch? entries text, b.1.length ≤ last.1.length) := by
      rw [hne last (by simp), hpre last (by simp)]
      refine and_congr_right fun _ => and_congr_right fun hlast => ?_
      simp only [Option.mem_def, Option.map_eq_some_iff, forall_exists_index, and_imp]
      constructor
      · intro h b hb
        exact (hle _ _ (longestMatch?_spec hb).2.2.1 hlast).1 (h _ b hb rfl)
      · rintro h _ b hb rfl
        exact (hle _ _ (longestMatch?_spec hb).2.2.1 hlast).2 (h b hb)
    unfold prefer
    by_cases h : last.1 ≠ [] ∧ last.1 <+: text ∧
        ∀ b ∈ longestMatch? entries text, b.1.length ≤ last.1.length
    · rw [if_pos (hcond.2 h), if_pos h, Option.map_some]
    · rw [if_neg (fun h' => h (hcond.1 h')), if_neg h]

/-- What stands beside the keys has no influence on the match. -/
theorem longestMatch?_mapValue {γ : Type} (f : β → γ) (entries : List (List α × β))
    (text : List α) : longestMatch? (entries.map fun e => (e.1, f e.2)) text =
      (longestMatch? entries text).map fun e => (e.1, f e.2) := by
  induction entries using List.reverseRecOn with
  | nil => rfl
  | append_singleton entries last ih =>
    rw [List.map_append, List.map_singleton, longestMatch?_concat, longestMatch?_concat, ih]
    have hbest : (∀ b ∈ (longestMatch? entries text).map fun e => (e.1, f e.2),
        b.1.length ≤ last.1.length) ↔
        ∀ b ∈ longestMatch? entries text, b.1.length ≤ last.1.length := by
      cases longestMatch? entries text <;> simp
    simp only [prefer, hbest]
    split <;> rfl

/-- If the longest match is of some kind, it is the longest one of its kind. -/
theorem longestMatch?_filter (p : List α × β → Bool) {entries : List (List α × β)}
    {text : List α} {e : List α × β} (h : longestMatch? entries text = some e) (he : p e = true) :
    longestMatch? (entries.filter p) text = some e := by
  induction entries using List.reverseRecOn with
  | nil => cases h
  | append_singleton entries last ih =>
    rw [longestMatch?_concat, prefer] at h
    rw [List.filter_append]
    split at h
    · rename_i hlast
      obtain rfl : last = e := Option.some.inj h
      have hfilter : [last].filter p = [last] := by simp [he]
      have hbest : ∀ b ∈ longestMatch? (entries.filter p) text, b.1.length ≤ last.1.length := by
        intro b hb
        obtain ⟨hmem, hne, hpre, -⟩ := longestMatch?_spec hb
        have hmem' : b ∈ entries := (List.mem_filter.1 hmem).1
        cases hall : longestMatch? entries text with
        | none => exact absurd hpre (longestMatch?_eq_none.1 hall b hmem' hne)
        | some best =>
          have hle := (longestMatch?_spec hall).2.2.2 b hmem' hne hpre
          exact hle.trans (hlast.2.2 best hall)
      rw [hfilter, longestMatch?_concat, prefer, if_pos ⟨hlast.1, hlast.2.1, hbest⟩]
    · rename_i hlast
      by_cases hp : p last = true
      · have hfilter : [last].filter p = [last] := by simp [hp]
        rw [hfilter, longestMatch?_concat, ih h, prefer]
        rw [h] at hlast
        exact if_neg hlast
      · have hfilter : [last].filter p = [] := by simp [hp]
        rw [hfilter, List.append_nil]
        exact ih h

end LongestMatch

namespace Trie

variable {α : Type}

theorem lookup_putChild (b k : UInt8) (c : Trie α) (cs : List (UInt8 × Trie α)) :
    (putChild b c cs).lookup k = if k = b then some c else cs.lookup k := by
  induction cs with
  | nil => by_cases h : k = b <;> simp [putChild, List.lookup_cons, beq_eq_decide, h]
  | cons e rest ih =>
    obtain ⟨key, d⟩ := e
    unfold putChild
    by_cases hkey : key = b
    · subst hkey
      by_cases h : k = key <;> simp [List.lookup_cons, beq_eq_decide, h]
    · by_cases h : k = key
      · subst h; simp [hkey]
      · simp [List.lookup_cons, beq_eq_decide, hkey, h, ih]

theorem longest?_empty (text : Bytes) : (empty : Trie α).longest? text = none := by
  cases text <;> simp [longest?, empty, child?, value, children]

/-- **The longest match after an insertion**: the new key, unless a longer one matches. -/
theorem longest?_insert (v : α) (key : Bytes) :
    ∀ (t : Trie α) (text : Bytes), (t.insert v key).longest? text =
      if key <+: text ∧ ∀ found ∈ t.longest? text, found.2 ≤ key.length then some (v, key.length)
      else t.longest? text := by
  induction key with
  | nil =>
    intro t text
    cases text with
    | nil => cases t.value <;> simp [insert, longest?, value]
    | cons b bs =>
      cases hc : (t.child? b).bind fun c => c.longest? bs with
      | none =>
        have hc' : ((node (some v) t.children).child? b).bind (fun c => c.longest? bs) = none := hc
        cases t.value <;> simp [insert, longest?, hc, hc', value]
      | some found =>
        have hc' : ((node (some v) t.children).child? b).bind (fun c => c.longest? bs) =
          some found := hc
        simp [insert, longest?, hc, hc']
  | cons a key ih =>
    intro t text
    cases text with
    | nil => simp [insert, longest?, value]
    | cons b bs =>
      have hchild : (t.insert v (a :: key)).child? b =
          if b = a then some (insert v key ((t.child? a).getD empty)) else t.child? b := by
        simp only [insert, child?, children, lookup_putChild]
      have hvalue : (t.insert v (a :: key)).value = t.value := rfl
      rw [longest?, longest?, hchild, hvalue]
      by_cases hba : b = a
      · subst hba
        simp only [if_pos, Option.bind_some, ih, List.cons_prefix_cons, true_and]
        -- a child that was not there counts as an empty trie
        have hold : ((t.child? b).getD empty).longest? bs =
            (t.child? b).bind fun c => c.longest? bs := by
          cases t.child? b with
          | none => simp [longest?_empty]
          | some c => rfl
        rw [hold]
        cases hfound : (t.child? b).bind fun c => c.longest? bs with
        | none =>
          by_cases hp : key <+: bs <;> cases t.value <;> simp [hp]
        | some found =>
          by_cases hp : key <+: bs <;> by_cases hl : found.2 ≤ key.length <;> simp [hp, hl]
      · rw [if_neg hba, if_neg]
        intro h
        exact hba (List.cons_prefix_cons.1 h.1).1.symm

/-- What the least and the greatest length of the keys of a trie promise. -/
structure Bounded (t : Trie α) (shortest longest : Nat) : Prop where
  /-- No more than the longest key has to be seen. -/
  take : ∀ {n : Nat} (text : Bytes), longest ≤ n → t.longest? (text.take n) = t.longest? text
  pos : ∀ {text : Bytes} {v : α} {n : Nat}, t.longest? text = some (v, n) → 0 < n
  le_text : ∀ {text : Bytes} {v : α} {n : Nat}, t.longest? text = some (v, n) → n ≤ text.length
  le_longest : ∀ {text : Bytes} {v : α} {n : Nat}, t.longest? text = some (v, n) → n ≤ longest
  shortest_le : ∀ {text : Bytes} {v : α} {n : Nat}, t.longest? text = some (v, n) → shortest ≤ n
  vacant : shortest = 0 → ∀ text : Bytes, t.longest? text = none

theorem bounded_empty : (empty : Trie α).Bounded 0 0 where
  take text _ := by rw [longest?_empty, longest?_empty]
  pos h := by simp [longest?_empty] at h
  le_text h := by simp [longest?_empty] at h
  le_longest h := by simp [longest?_empty] at h
  shortest_le h := by simp [longest?_empty] at h
  vacant _ := longest?_empty

/-- A match after an insertion is a match of before, or the new key. -/
theorem longest?_insert_cases {t : Trie α} {v w : α} {key text : Bytes} {n : Nat}
    (h : (t.insert v key).longest? text = some (w, n)) :
    t.longest? text = some (w, n) ∨ (key <+: text ∧ n = key.length) := by
  rw [longest?_insert] at h
  split at h
  · rename_i hnew
    cases h
    exact Or.inr ⟨hnew.1, rfl⟩
  · exact Or.inl h

theorem Bounded.insert {t : Trie α} {shortest longest : Nat} (ht : t.Bounded shortest longest)
    (v : α) {key : Bytes} (hkey : key ≠ []) :
    (t.insert v key).Bounded (if shortest = 0 then key.length else min shortest key.length)
      (max longest key.length) where
  take {n} text hn := by
    have hprefix : key <+: text.take n ↔ key <+: text := by
      rw [List.prefix_take_iff]
      exact and_iff_left (by omega)
    simp only [longest?_insert, hprefix, ht.take text (show longest ≤ n by omega)]
  pos h := by
    rcases longest?_insert_cases h with hold | ⟨-, rfl⟩
    · exact ht.pos hold
    · exact List.length_pos_iff.2 hkey
  le_text h := by
    rcases longest?_insert_cases h with hold | ⟨hpre, rfl⟩
    · exact ht.le_text hold
    · exact hpre.length_le
  le_longest h := by
    rcases longest?_insert_cases h with hold | ⟨-, rfl⟩
    · exact le_trans (ht.le_longest hold) (le_max_left _ _)
    · exact le_max_right _ _
  shortest_le {text v n} h := by
    rcases longest?_insert_cases h with hold | ⟨-, rfl⟩
    · have hle := ht.shortest_le hold
      split
      · -- zero stands for no keys at all, so there was no match
        rename_i hzero
        rw [ht.vacant hzero text] at hold
        cases hold
      · omega
    · split <;> omega
  vacant h := by
    have hpos := List.length_pos_iff.2 hkey
    split at h <;> omega

/-- A trie filled entry by entry answers by the longest match among its entries. -/
theorem longest?_insert_eq {β : Type} {t : Trie α} {entries : List (Bytes × β)} (value : β → α)
    (ht : ∀ text, t.longest? text =
      (longestMatch? entries text).map fun e => (value e.2, e.1.length))
    (b : β) {key : Bytes} (hkey : key ≠ []) (text : Bytes) :
    (t.insert (value b) key).longest? text =
      (longestMatch? (entries ++ [(key, b)]) text).map fun e => (value e.2, e.1.length) := by
  rw [longest?_insert, longestMatch?_concat, ht text, prefer]
  have hcond : (key <+: text ∧ ∀ found ∈ (longestMatch? entries text).map
      (fun e => (value e.2, e.1.length)), found.2 ≤ key.length) ↔
      (key ≠ [] ∧ key <+: text ∧
        ∀ best ∈ longestMatch? entries text, best.1.length ≤ key.length) := by
    cases longestMatch? entries text <;> simp [hkey]
  by_cases h : key ≠ [] ∧ key <+: text ∧
      ∀ best ∈ longestMatch? entries text, best.1.length ≤ key.length
  · rw [if_pos (hcond.2 h), if_pos h, Option.map_some]
  · rw [if_neg (fun h' => h (hcond.1 h')), if_neg h]

end Trie

/-- An empty key at the end of the entries changes nothing. -/
theorem longestMatch?_concat_empty {α β : Type} [DecidableEq α] (entries : List (List α × β))
    (b : β) (text : List α) :
    longestMatch? (entries ++ [([], b)]) text = longestMatch? entries text := by
  simp [longestMatch?_concat, prefer]

namespace TokenTable

/-- **A lawful table**: its matches are not empty, and no more bytes than `longest`
have to be seen to find one. -/
def Lawful (t : TokenTable) : Prop := t.trie.Bounded t.shortest t.longest

theorem lawful_empty : empty.Lawful := Trie.bounded_empty

theorem Lawful.add {t : TokenTable} (ht : t.Lawful) (token : Bytes) (index : Nat) :
    (t.add token index).Lawful := by
  unfold TokenTable.add
  split
  · exact ht
  · rename_i hne
    exact Trie.Bounded.insert ht index (by simpa using hne)

theorem Lawful.addAll {t : TokenTable} (ht : t.Lawful) (index : Nat) (tokens : List Bytes) :
    (t.addAll index tokens).Lawful := by
  induction tokens generalizing t index with
  | nil => exact ht
  | cons token rest ih => exact ih (ht.add token index) (index + 1)

theorem lawful_ofList (tokens : List Bytes) : (ofList tokens).Lawful := lawful_empty.addAll 0 tokens

theorem match?_add {t : TokenTable} {entries : List (Bytes × Nat)}
    (ht : ∀ text, t.match? text = (longestMatch? entries text).map fun e => (e.2, e.1.length))
    (token : Bytes) (index : Nat) (text : Bytes) :
    (t.add token index).match? text =
      (longestMatch? (entries ++ [(token, index)]) text).map fun e => (e.2, e.1.length) := by
  unfold TokenTable.add
  split
  · rename_i hempty
    obtain rfl : token = [] := by simpa using hempty
    rw [longestMatch?_concat_empty]
    exact ht text
  · rename_i hne
    exact Trie.longest?_insert_eq id ht index (by simpa using hne) text

theorem match?_addAll {t : TokenTable} {entries : List (Bytes × Nat)}
    (ht : ∀ text, t.match? text = (longestMatch? entries text).map fun e => (e.2, e.1.length))
    (index : Nat) (tokens : List Bytes) (text : Bytes) :
    (t.addAll index tokens).match? text =
      (longestMatch? (entries ++ tokens.zipIdx index) text).map fun e => (e.2, e.1.length) := by
  induction tokens generalizing t entries index with
  | nil => simpa [addAll] using ht text
  | cons token rest ih =>
    rw [addAll, List.zipIdx_cons, List.append_cons]
    exact ih (match?_add ht token index) (index + 1)

/-- **A table of tokens** answers by the longest match among the numbered tokens. -/
theorem match?_ofList (tokens : List Bytes) (text : Bytes) :
    (ofList tokens).match? text =
      (longestMatch? tokens.zipIdx text).map fun e => (e.2, e.1.length) := by
  have hempty : ∀ text, empty.match? text =
      (longestMatch? ([] : List (Bytes × Nat)) text).map fun e => (e.2, e.1.length) :=
    Trie.longest?_empty
  simpa [ofList] using match?_addAll hempty 0 tokens text

/-- Which entry a match of a table belongs to, where something stands beside the tokens. -/
theorem match?_entry {β : Type} (entries : List (Bytes × β)) (text : Bytes) :
    match longestMatch? entries text with
    | none => (ofList (entries.map (·.1))).match? text = none
    | some (token, value) => ∃ index,
        (ofList (entries.map (·.1))).match? text = some (index, token.length) ∧
          entries[index]? = some (token, value) := by
  -- the entries and the numbered tokens are two views of one list
  let both := entries.zipIdx.map fun e => (e.1.1, (e.1.2, e.2))
  have hentries : entries = both.map fun e => (e.1, e.2.1) := by
    rw [List.map_map]
    exact (List.zipIdx_map_fst 0 entries).symm
  have hnumbers : (entries.map (·.1)).zipIdx = both.map fun e => (e.1, e.2.2) := by
    rw [List.map_map, List.zipIdx_map]
    rfl
  have hvalue : longestMatch? entries text =
      (longestMatch? both text).map fun e => (e.1, e.2.1) := by
    rw [← longestMatch?_mapValue Prod.fst, ← hentries]
  rw [match?_ofList, hnumbers, longestMatch?_mapValue Prod.snd, hvalue]
  cases hm : longestMatch? both text with
  | none => rfl
  | some e =>
    obtain ⟨⟨entry, index⟩, hmem, rfl⟩ := List.mem_map.1 (longestMatch?_spec hm).1
    exact ⟨index, rfl, List.mk_mem_zipIdx_iff_getElem?.1 hmem⟩

end TokenTable

namespace Dispatch

/-- **A lawful dispatch**: its matches are not empty, and no more bytes than
`longest` have to be seen to find one. -/
def Lawful (d : Dispatch) : Prop := d.trie.Bounded d.shortest d.longest

/-- The tokens of an operation with their owners. -/
def owned (operation : Nat) (tokens : List Bytes) : List (Bytes × Handler) :=
  tokens.zipIdx.map fun e => (e.1, ⟨operation, e.2⟩)

/-- The tokens of several operations with their owners, in the order of registration. -/
def registered (sets : List (List Bytes)) : List (Bytes × Handler) :=
  sets.zipIdx.flatMap fun e => owned e.2 e.1

theorem Lawful.insert {d : Dispatch} (hd : d.Lawful) (handler : Handler) (token : Bytes) :
    (d.insert handler token).Lawful := by
  unfold Dispatch.insert
  split
  · exact hd
  · rename_i hne
    exact Trie.Bounded.insert hd handler (by simpa using hne)

theorem Lawful.insertTokens {d : Dispatch} (hd : d.Lawful) (operation token : Nat)
    (tokens : List Bytes) : (d.insertTokens operation token tokens).Lawful := by
  induction tokens generalizing d token with
  | nil => exact hd
  | cons bytes rest ih => exact ih (hd.insert _ bytes) (token + 1)

theorem Lawful.insertSets {d : Dispatch} (hd : d.Lawful) (operation : Nat)
    (sets : List (List Bytes)) : (d.insertSets operation sets).Lawful := by
  induction sets generalizing d operation with
  | nil => exact hd
  | cons tokens rest ih => exact ih (hd.insertTokens operation 0 tokens) (operation + 1)

theorem lawful_ofSets (sets : List (List Bytes)) : (ofSets sets).Lawful := by
  have hempty : empty.Lawful := Trie.bounded_empty
  exact hempty.insertSets 0 sets

/-- A dispatch that answers by the longest match among some entries. -/
def Answers (d : Dispatch) (entries : List (Bytes × Handler)) : Prop :=
  ∀ text, d.match? text = (longestMatch? entries text).map fun e => (e.2, e.1.length)

theorem Answers.insert {d : Dispatch} {entries : List (Bytes × Handler)} (hd : d.Answers entries)
    (handler : Handler) (token : Bytes) :
    (d.insert handler token).Answers (entries ++ [(token, handler)]) := by
  intro text
  unfold Dispatch.insert
  split
  · rename_i hempty
    obtain rfl : token = [] := by simpa using hempty
    rw [longestMatch?_concat_empty]
    exact hd text
  · rename_i hne
    exact Trie.longest?_insert_eq id hd handler (by simpa using hne) text

theorem Answers.insertTokens {d : Dispatch} {entries : List (Bytes × Handler)}
    (hd : d.Answers entries) (operation token : Nat) (tokens : List Bytes) :
    (d.insertTokens operation token tokens).Answers
      (entries ++ (tokens.zipIdx token).map fun e => (e.1, ⟨operation, e.2⟩)) := by
  induction tokens generalizing d entries token with
  | nil => simpa [Dispatch.insertTokens] using hd
  | cons bytes rest ih =>
    simpa [Dispatch.insertTokens] using ih (hd.insert ⟨operation, token⟩ bytes) (token + 1)

theorem Answers.insertSets {d : Dispatch} {entries : List (Bytes × Handler)}
    (hd : d.Answers entries) (operation : Nat) (sets : List (List Bytes)) :
    (d.insertSets operation sets).Answers
      (entries ++ (sets.zipIdx operation).flatMap fun e => owned e.2 e.1) := by
  induction sets generalizing d entries operation with
  | nil => simpa [Dispatch.insertSets] using hd
  | cons tokens rest ih =>
    simpa [Dispatch.insertSets, owned] using
      ih (hd.insertTokens operation 0 tokens) (operation + 1)

/-- **The dispatch of a run** answers by the longest match among all tokens; of two
operations with the same token the later one owns it. -/
theorem match?_ofSets (sets : List (List Bytes)) (text : Bytes) :
    (ofSets sets).match? text =
      (longestMatch? (registered sets) text).map fun e => (e.2, e.1.length) := by
  have hempty : empty.Answers [] := Trie.longest?_empty
  simpa [registered, ofSets] using hempty.insertSets 0 sets text

section Owners

variable {β : Type}

/-- The tokens of several operations, each with something that belongs to it, and with their
owners. -/
def annotated (sets : List (List (Bytes × β))) : List (Bytes × Handler × β) :=
  sets.zipIdx.flatMap fun set => set.1.zipIdx.map fun e => (e.1.1, ⟨set.2, e.2⟩, e.1.2)

theorem registered_eq_map (sets : List (List (Bytes × β))) :
    registered (sets.map (·.map (·.1))) = (annotated sets).map fun e => (e.1, e.2.1) := by
  simp only [registered, annotated, owned, List.zipIdx_map, List.flatMap_map, List.map_flatMap,
    List.map_map, Prod.map, Function.comp_def, id]

theorem flatten_eq_map (sets : List (List (Bytes × β))) :
    sets.flatten = (annotated sets).map fun e => (e.1, e.2.2) := by
  have hset : ∀ set : List (Bytes × β), set.zipIdx.map (fun e => (e.1.1, e.1.2)) = set := fun set =>
    List.zipIdx_map_fst 0 set
  have hsets : (sets.zipIdx.map (·.1)).flatten = sets.flatten := by rw [List.zipIdx_map_fst]
  rw [← hsets, annotated, List.map_flatMap, List.flatMap_def]
  refine congrArg List.flatten (List.map_congr_left fun set _ => ?_)
  rw [List.map_map]
  exact (hset set.1).symm

theorem of_mem_annotated {sets : List (List (Bytes × β))} {e : Bytes × Handler × β}
    (h : e ∈ annotated sets) : ∃ set, sets[e.2.1.operation]? = some set ∧
      set[e.2.1.token]? = some (e.1, e.2.2) := by
  obtain ⟨⟨set, i⟩, hset, he⟩ := List.mem_flatMap.1 h
  obtain ⟨⟨entry, j⟩, hentry, rfl⟩ := List.mem_map.1 he
  exact ⟨set, List.mk_mem_zipIdx_iff_getElem?.1 hset, List.mk_mem_zipIdx_iff_getElem?.1 hentry⟩

/-- **The owner of a match**: among all tokens together the longest match decides, and the
dispatch tells where in its operation this token stands. -/
theorem match?_owner (sets : List (List (Bytes × β))) (text : Bytes) :
    match longestMatch? sets.flatten text with
    | none => (ofSets (sets.map (·.map (·.1)))).match? text = none
    | some (token, value) => ∃ handler set,
        (ofSets (sets.map (·.map (·.1)))).match? text = some (handler, token.length) ∧
          sets[handler.operation]? = some set ∧ set[handler.token]? = some (token, value) := by
  rw [match?_ofSets, registered_eq_map, flatten_eq_map, longestMatch?_mapValue Prod.fst,
    longestMatch?_mapValue Prod.snd]
  cases hm : longestMatch? (annotated sets) text with
  | none => rfl
  | some e =>
    obtain ⟨set, hset, hentry⟩ := of_mem_annotated (longestMatch?_spec hm).1
    exact ⟨e.2.1, set, rfl, hset, hentry⟩

end Owners

end Dispatch

end Templating

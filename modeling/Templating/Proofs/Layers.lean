import Mathlib.Data.List.Nodup
import Mathlib.Data.Prod.Lex
import Templating.Proofs.Words

/-!
# The life of layered variables

A collection of variables starts empty and changes by two kinds of steps: a value is set in its
innermost scope, or a new scope is opened inside. What it answers can be told from the record of
these steps, in which nothing is ever overwritten.

* `Variables.mem_keys`, `Variables.isEmpty_iff`: the listed names are those that have a value.
* `Variables.History`: everything that has been set, scope by scope.
* `Variables.keys_after`: the order in which names are listed.
* `Variables.after_reflects`: **a collection answers as its history tells.**
-/

namespace Templating

/-! ## Scopes -/

namespace Scope

variable {s : Scope} {key other : String} {value : Value}

theorem get?_cons (k : String) (v : Value) (rest : Scope) (key : String) :
    get? ((k, v) :: rest) key = if key = k then some v else rest.get? key := by
  by_cases h : key = k <;> simp [get?, List.lookup_cons, beq_eq_decide, h]

theorem isSome_get? : (s.get? key).isSome ↔ key ∈ s.keys := by
  induction s with
  | nil => simp [get?, keys]
  | cons e rest ih =>
    rw [get?_cons, keys, List.map_cons, List.mem_cons]
    by_cases h : key = e.1
    · simp [h]
    · rw [if_neg h, or_iff_right h]
      exact ih

theorem get?_set (s : Scope) (key other : String) (value : Value) :
    (s.set key value).get? other = if other = key then some value else s.get? other := by
  induction s with
  | nil => rw [set, get?_cons]
  | cons e rest ih =>
    obtain ⟨k, v⟩ := e
    unfold set
    by_cases hk : k = key
    · subst hk
      rw [if_pos rfl, get?_cons, get?_cons]
      by_cases h : other = k <;> simp only [h, if_true, if_false]
    · rw [if_neg hk, get?_cons, get?_cons, ih]
      by_cases h : other = k
      · rw [if_pos h, if_pos h, if_neg (h ▸ hk)]
      · rw [if_neg h, if_neg h]

/-- A name that is set again keeps its place, and a new one comes last. -/
theorem keys_set (s : Scope) (key : String) (value : Value) :
    (s.set key value).keys = if key ∈ s.keys then s.keys else s.keys ++ [key] := by
  induction s with
  | nil => rfl
  | cons e rest ih =>
    obtain ⟨k, v⟩ := e
    unfold set
    by_cases hk : k = key
    · subst hk
      simp [keys]
    · rw [if_neg hk]
      simp only [keys, List.map_cons, List.mem_cons] at ih ⊢
      rw [ih]
      by_cases hmem : key ∈ rest.map (·.1)
      · simp [hmem]
      · simp [hmem, Ne.symm hk]

end Scope

namespace Variables

/-! ## Listed names -/

theorem mem_freshKeys {key : String} {seen keys : List String} :
    key ∈ freshKeys seen keys ↔ key ∈ keys ∧ key ∉ seen := by
  induction keys generalizing seen with
  | nil => simp [freshKeys]
  | cons k rest ih =>
    unfold freshKeys
    split
    · rename_i hk
      rw [ih, List.mem_cons]
      constructor
      · exact fun h => ⟨.inr h.1, h.2⟩
      · rintro ⟨rfl | h, hnot⟩
        · exact absurd hk hnot
        · exact ⟨h, hnot⟩
    · rename_i hk
      rw [List.mem_cons, ih, List.mem_cons, List.mem_cons]
      by_cases hkey : key = k
      · simp [hkey, hk]
      · simp [hkey]

/-- One more name at the end. -/
theorem freshKeys_concat (seen keys : List String) (key : String) :
    freshKeys seen (keys ++ [key]) =
      if key ∈ seen ∨ key ∈ keys then freshKeys seen keys else freshKeys seen keys ++ [key] := by
  induction keys generalizing seen with
  | nil => by_cases h : key ∈ seen <;> simp [freshKeys, h]
  | cons k rest ih =>
    simp only [List.cons_append, freshKeys]
    by_cases hk : k ∈ seen
    · rw [if_pos hk, if_pos hk, ih]
      have hiff : (key ∈ seen ∨ key ∈ k :: rest) ↔ (key ∈ seen ∨ key ∈ rest) := by
        rw [List.mem_cons]
        constructor
        · rintro (h | rfl | h)
          · exact .inl h
          · exact .inl hk
          · exact .inr h
        · exact fun h => h.imp_right .inr
      simp only [hiff]
    · rw [if_neg hk, if_neg hk, ih]
      have hiff : (key ∈ k :: seen ∨ key ∈ rest) ↔ (key ∈ seen ∨ key ∈ k :: rest) := by
        rw [List.mem_cons, List.mem_cons, or_assoc, or_left_comm]
      simp only [hiff]
      split
      · rfl
      · rfl

/-- Names that are listed once already may be listed in full. -/
theorem freshKeys_append {seen' seen : List String} (h : seen' ⊆ seen) (keys rest : List String) :
    freshKeys seen (freshKeys seen' keys ++ rest) = freshKeys seen (keys ++ rest) := by
  induction keys generalizing seen seen' with
  | nil => rfl
  | cons k keys ih =>
    by_cases hk' : k ∈ seen'
    · simp only [freshKeys, List.cons_append, if_pos hk', if_pos (h hk')]
      exact ih h
    · simp only [freshKeys, List.cons_append, if_neg hk']
      by_cases hk : k ∈ seen
      · rw [if_pos hk, if_pos hk]
        exact ih (List.cons_subset.2 ⟨hk, h⟩)
      · rw [if_neg hk, if_neg hk, ih (List.cons_subset_cons k h)]

/-- The same, behind names that are listed before. -/
theorem freshKeys_append_right (seen keys : List String) {rest rest' : List String}
    (h : ∀ seen, freshKeys seen rest = freshKeys seen rest') :
    freshKeys seen (keys ++ rest) = freshKeys seen (keys ++ rest') := by
  induction keys generalizing seen with
  | nil => exact h seen
  | cons k keys ih => simp only [List.cons_append, freshKeys, ih]

/-- Names are listed in the order in which they first occur. -/
theorem pairwise_freshKeys (seen keys : List String) :
    (freshKeys seen keys).Pairwise fun a b => keys.idxOf a < keys.idxOf b := by
  induction keys generalizing seen with
  | nil => exact List.Pairwise.nil
  | cons k rest ih =>
    -- behind the first name the others are one place further on
    have hshift : ∀ {seen' : List String}, k ∈ seen' → (freshKeys seen' rest).Pairwise
        fun a b => (k :: rest).idxOf a < (k :: rest).idxOf b := by
      intro seen' hk
      refine (ih seen').imp_of_mem fun {a b} ha hb hlt => ?_
      have hne : ∀ {c}, c ∈ freshKeys seen' rest → c ≠ k := fun hc heq =>
        (mem_freshKeys.1 hc).2 (heq ▸ hk)
      rw [List.idxOf_cons_ne rest (hne ha).symm, List.idxOf_cons_ne rest (hne hb).symm]
      exact Nat.succ_lt_succ hlt
    unfold freshKeys
    split
    · rename_i hk
      exact hshift hk
    · refine List.pairwise_cons.2 ⟨fun b hb => ?_, hshift List.mem_cons_self⟩
      have hne : b ≠ k := fun heq => (mem_freshKeys.1 hb).2 (heq ▸ List.mem_cons_self)
      rw [List.idxOf_cons_self, List.idxOf_cons_ne rest hne.symm]
      exact Nat.succ_pos _

variable {v : Variables} {key : String}

/-- **The listed names are those that have a value.** -/
theorem mem_keys : key ∈ v.keys ↔ (v.get? key).isSome := by
  rw [keys, mem_freshKeys, and_iff_left List.not_mem_nil, List.mem_flatMap, get?,
    List.isSome_findSome?, List.any_eq_true]
  simp only [Scope.isSome_get?]

theorem isEmpty_iff : v.isEmpty = true ↔ v.keys = [] := by
  rw [isEmpty, List.all_eq_true, List.eq_nil_iff_forall_not_mem]
  simp only [keys, mem_freshKeys, List.mem_flatMap, List.isEmpty_iff]
  constructor
  · rintro h key ⟨⟨scope, hscope, hkey⟩, -⟩
    rw [h scope hscope] at hkey
    exact List.not_mem_nil hkey
  · intro h scope hscope
    refine List.eq_nil_iff_forall_not_mem.2 fun e he => ?_
    exact h e.1 ⟨⟨scope, hscope, List.mem_map.2 ⟨e, he, rfl⟩⟩, List.not_mem_nil⟩

/-- A setting changes the value of its own name only. -/
theorem get?_set (v : Variables) (key other : String) (value : Value) :
    (v.set key value).get? other = if other = key then some value else v.get? other := by
  simp only [get?, scopes, set, List.findSome?_cons, Scope.get?_set]
  by_cases h : other = key <;> simp [h]

/-! ## Histories -/

/-- A step in the life of a collection. -/
inductive Step where
  | set (key : String) (value : Value)
  /-- Opens an empty scope inside. -/
  | child

def step (v : Variables) : Step → Variables
  | .set key value => (v.exchange key value).2
  | .child => v.child

/-- **The collection after some steps**, from the empty one. -/
def after (steps : List Step) : Variables := steps.foldl step empty

/-- All that has been set in a scope, in this order. -/
abbrev Settings := List (String × Value)

namespace Settings

/-- The value that has been set last for a name. -/
def latest? (settings : Settings) (key : String) : Option Value := settings.reverse.lookup key

/-- The names that have been set, as often as they have been. -/
def names (settings : Settings) : List String := settings.map (·.1)

end Settings

/-- **What has been set in each scope**, in the innermost one and in those around it, the nearest
first. Nothing is overwritten here. -/
structure History where
  inner : Settings
  outer : List Settings

namespace History

def scopes (h : History) : List Settings := h.inner :: h.outer

def add (h : History) : Step → History
  | .set key value => { h with inner := h.inner ++ [(key, value)] }
  | .child => ⟨[], h.scopes⟩

def ofSteps (steps : List Step) : History := steps.foldl add ⟨[], []⟩

/-- How far out the nearest scope is in which a name has been set, and how many settings of that
scope are older than the first one of this name. -/
def rank (key : String) : List Settings → Nat × Nat
  | [] => (0, 0)
  | settings :: outer =>
    if key ∈ settings.names then (0, settings.names.idxOf key)
    else ((rank key outer).1 + 1, (rank key outer).2)

/-- **The order of names**: those of nearer scopes first, and in one scope by their first
setting. -/
def Before (h : History) (key other : String) : Prop :=
  Prod.Lex (· < ·) (· < ·) (rank key h.scopes) (rank other h.scopes)

end History

/-- A scope in which some settings have been made. -/
structure Records (s : Scope) (settings : Settings) : Prop where
  get? : ∀ key, s.get? key = settings.latest? key
  keys : s.keys = freshKeys [] settings.names

theorem records_nil : Records [] [] := ⟨fun _ => rfl, rfl⟩

theorem Records.set {s : Scope} {settings : Settings} (h : Records s settings) (key : String)
    (value : Value) : Records (s.set key value) (settings ++ [(key, value)]) where
  get? other := by
    have hlatest : Settings.latest? (settings ++ [(key, value)]) other =
        if other = key then some value else settings.latest? other := by
      rw [Settings.latest?, List.reverse_concat]
      exact Scope.get?_cons key value settings.reverse other
    rw [hlatest, Scope.get?_set, h.get?]
  keys := by
    have hmem : key ∈ s.keys ↔ key ∈ settings.names := by
      rw [h.keys, mem_freshKeys, and_iff_left List.not_mem_nil]
    have hnames : Settings.names (settings ++ [(key, value)]) = settings.names ++ [key] := by
      simp only [Settings.names, List.map_append, List.map_cons, List.map_nil]
    rw [hnames, freshKeys_concat, Scope.keys_set, h.keys]
    simp only [← h.keys, hmem, List.not_mem_nil, false_or]

/-- **The scopes of a collection** have the settings of its history. -/
theorem records_after (steps : List Step) :
    List.Forall₂ Records (after steps).scopes (History.ofSteps steps).scopes := by
  induction steps using List.reverseRecOn with
  | nil => exact .cons records_nil .nil
  | append_singleton steps last ih =>
    rw [after, History.ofSteps, List.foldl_append, List.foldl_append]
    cases last with
    | set key value =>
      obtain ⟨hinner, houter⟩ := List.forall₂_cons.1 ih
      exact .cons (hinner.set key value) houter
    | child => exact .cons records_nil ih

theorem findSome?_records {scopes : List Scope} {history : List Settings}
    (h : List.Forall₂ Records scopes history) (key : String) :
    scopes.findSome? (·.get? key) = history.findSome? (·.latest? key) := by
  induction h with
  | nil => rfl
  | cons hscope _ ih => rw [List.findSome?_cons, List.findSome?_cons, hscope.get?, ih]

theorem freshKeys_records {scopes : List Scope} {history : List Settings}
    (h : List.Forall₂ Records scopes history) (seen : List String) :
    freshKeys seen (scopes.flatMap Scope.keys) =
      freshKeys seen (history.flatMap Settings.names) := by
  induction h generalizing seen with
  | nil => rfl
  | cons hscope _ ih =>
    rw [List.flatMap_cons, List.flatMap_cons, hscope.keys,
      freshKeys_append (List.nil_subset seen)]
    exact freshKeys_append_right seen _ ih

/-- The first settings of all scopes, one scope after the other, are in the order of names. -/
theorem lex_rank_of_idxOf {key other : String} : ∀ {scopes : List Settings},
    (scopes.flatMap Settings.names).idxOf key < (scopes.flatMap Settings.names).idxOf other →
      Prod.Lex (· < ·) (· < ·) (History.rank key scopes) (History.rank other scopes)
  | [], h => absurd h (Nat.lt_irrefl _)
  | settings :: outer, h => by
    rw [List.flatMap_cons, List.idxOf_append, List.idxOf_append] at h
    unfold History.rank
    by_cases hkey : key ∈ settings.names
    · by_cases hother : other ∈ settings.names
      · rw [if_pos hkey, if_pos hother] at h ⊢
        exact .right 0 h
      · rw [if_pos hkey, if_neg hother]
        exact .left _ _ (Nat.succ_pos _)
    · by_cases hother : other ∈ settings.names
      · rw [if_neg hkey, if_pos hother] at h
        have hlt := List.idxOf_lt_length_of_mem hother
        omega
      · rw [if_neg hkey, if_neg hother] at h ⊢
        rcases Prod.lex_iff.1 (lex_rank_of_idxOf (Nat.lt_of_add_lt_add_right h)) with
          hlt | ⟨heq, hlt⟩
        · exact .left _ _ (Nat.succ_lt_succ hlt)
        · rw [heq]
          exact .right _ hlt

/-- **Names are listed by scope and by first setting.** -/
theorem keys_after (steps : List Step) :
    (after steps).keys.Pairwise (History.ofSteps steps).Before := by
  rw [keys, freshKeys_records (records_after steps)]
  exact (pairwise_freshKeys [] _).imp lex_rank_of_idxOf

/-- What a collection answers where a history tells what has been set. -/
structure Reflects (h : History) (v : Variables) : Prop where
  /-- The value set last in the nearest scope that has the name. -/
  get? : ∀ key, v.get? key = h.scopes.findSome? (·.latest? key)
  /-- Setting gives the previous value of the innermost scope, whatever the outer ones have, -/
  previous : ∀ key value, (v.exchange key value).1 = h.inner.latest? key
  /-- changes the value of no other name -/
  other : ∀ key value other, other ≠ key → (v.exchange key value).2.get? other = v.get? other
  /-- and nothing in an outer scope. -/
  outer : ∀ key value, (v.exchange key value).2.outer = v.outer
  nodup : v.keys.Nodup
  mem_keys : ∀ key, key ∈ v.keys ↔ (v.get? key).isSome
  order : v.keys.Pairwise h.Before
  size : v.size = v.keys.length
  isEmpty : v.isEmpty = true ↔ v.keys = []

/-- **A collection answers as its history tells**, after any steps from the empty one. -/
theorem after_reflects (steps : List Step) : Reflects (History.ofSteps steps) (after steps) where
  get? := findSome?_records (records_after steps)
  previous key value := (List.forall₂_cons.1 (records_after steps)).1.get? key
  other key value other hne := by
    show ((after steps).set key value).get? other = _
    rw [get?_set, if_neg hne]
  outer _ _ := rfl
  nodup := nodup_keys _
  mem_keys _ := mem_keys
  order := keys_after steps
  size := rfl
  isEmpty := isEmpty_iff

-- A shadowed name, a name that is set again, and an empty scope in between.
example : (after [.set "name" .null, .set "framework" .null, .child, .child, .set "auth" .null,
    .set "name" .null, .set "auth" .null]).keys = ["auth", "name", "framework"] := by decide

end Variables

end Templating

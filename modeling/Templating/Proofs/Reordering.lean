import Mathlib.Data.List.Perm.Basic
import Mathlib.Logic.Equiv.Basic
import Templating.Proofs.Passthrough
import Templating.Proofs.Validity

/-!
# The order of independent operations does not matter

Operations that share no token can be registered in any order. The dispatch of the reordered
operations finds the same token of the same operation, under another number, and the stages of
both runs hold the same operations, input and output. The order shows only in which of several
unbalanced operations a run reports at the end.

* `Reindexed`: two lists with the same elements at corresponding places.
* `Dispatch.match?_reindexed`: the owner of a match, under both numberings.
* `Stage.Ends.renumbered`: a run of the one order is a run of the other.
* `Processor.run_reordered`: so runs of both orders succeed alike and leave the same.
-/

namespace Templating

/-! ## Lists under another numbering -/

/-- **Two lists under two numberings**: `ρ` takes the place of an element in the first one to its
place in the second one. -/
def Reindexed {α : Type} (ρ : Equiv.Perm Nat) (xs xs' : List α) : Prop := ∀ i, xs'[ρ i]? = xs[i]?

namespace Reindexed

variable {α β : Type} {ρ : Equiv.Perm Nat} {xs xs' : List α}

/-- The numbering that keeps the first place and renumbers the others. -/
def shift (ρ : Equiv.Perm Nat) : Equiv.Perm Nat where
  toFun
    | 0 => 0
    | i + 1 => ρ i + 1
  invFun
    | 0 => 0
    | i + 1 => ρ.symm i + 1
  left_inv i := by cases i <;> simp
  right_inv i := by cases i <;> simp

theorem of_perm (h : xs.Perm xs') : ∃ ρ, Reindexed ρ xs xs' := by
  induction h with
  | nil => exact ⟨Equiv.refl _, fun _ => rfl⟩
  | cons x _ ih =>
    obtain ⟨ρ, hρ⟩ := ih
    refine ⟨shift ρ, fun i => ?_⟩
    cases i with
    | zero => rfl
    | succ i => exact hρ i
  | swap x y xs =>
    refine ⟨Equiv.swap 0 1, fun i => ?_⟩
    match i with
    | 0 => rfl
    | 1 => rfl
    | i + 2 => rw [Equiv.swap_apply_of_ne_of_ne (by omega) (by omega)]; rfl
  | trans _ _ ih ih' =>
    obtain ⟨ρ, hρ⟩ := ih
    obtain ⟨ρ', hρ'⟩ := ih'
    exact ⟨ρ.trans ρ', fun i => (hρ' (ρ i)).trans (hρ i)⟩

theorem map (h : Reindexed ρ xs xs') (f : α → β) : Reindexed ρ (xs.map f) (xs'.map f) := by
  intro i
  rw [List.getElem?_map, List.getElem?_map, h i]

/-- Every place of the second list is the place of an element of the first one. -/
theorem exists_index (h : Reindexed ρ xs xs') (j : Nat) : ∃ i, ρ i = j ∧ xs[i]? = xs'[j]? :=
  ⟨ρ.symm j, ρ.apply_symm_apply j, by rw [← h, ρ.apply_symm_apply]⟩

theorem mem_iff (h : Reindexed ρ xs xs') {x : α} : x ∈ xs' ↔ x ∈ xs := by
  rw [List.mem_iff_getElem?, List.mem_iff_getElem?]
  constructor
  · rintro ⟨j, hj⟩
    obtain ⟨i, -, hi⟩ := h.exists_index j
    exact ⟨i, hi.trans hj⟩
  · rintro ⟨i, hi⟩
    exact ⟨ρ i, (h i).trans hi⟩

/-- Corresponding elements can be replaced. -/
theorem set (h : Reindexed ρ xs xs') (i : Nat) (x : α) :
    Reindexed ρ (xs.set i x) (xs'.set (ρ i) x) := by
  intro j
  by_cases hij : i = j
  · subst hij
    rw [List.getElem?_set_self', List.getElem?_set_self', h i]
  · rw [List.getElem?_set_ne hij, List.getElem?_set_ne (fun heq => hij (ρ.injective heq)), h j]

end Reindexed

/-! ## Lists of attempts -/

section Attempts

variable {ε α β : Type} {xs xs' : List α}

/-- Attempts that succeed in one order succeed in any, with the results reordered. -/
theorem mapM_perm {f : α → Except ε β} {ys : List β} (hperm : xs.Perm xs')
    (h : xs.mapM f = .ok ys) :
    ∃ ys', xs'.mapM f = .ok ys' ∧ ys.Perm ys' := by
  obtain ⟨ys', hys', hperm'⟩ := List.perm_comp_forall₂ hperm.symm (mapM_eq_ok.1 h)
  exact ⟨ys', mapM_eq_ok.2 hys', hperm'.symm⟩

end Attempts

/-! ## The owner of a match -/

/-- The owner of a token under another numbering of the operations. -/
def Handler.renumber (ρ : Equiv.Perm Nat) (h : Handler) : Handler :=
  { h with operation := ρ h.operation }

namespace Dispatch

variable {sets sets' : List (List Bytes)} {text token : Bytes} {handler : Handler}

theorem filter_owned (i operation : Nat) (tokens : List Bytes) :
    (owned operation tokens).filter (·.2.operation == i) =
      if operation = i then owned operation tokens else [] := by
  have hoperation : ∀ e ∈ owned operation tokens, e.2.operation = operation := by
    intro e he
    obtain ⟨_, -, rfl⟩ := List.mem_map.1 he
    rfl
  split
  · rename_i hi
    exact List.filter_eq_self.2 fun e he => beq_iff_eq.2 ((hoperation e he).trans hi)
  · rename_i hi
    exact List.filter_eq_nil_iff.2 fun e he heq =>
      hi ((hoperation e he).symm.trans (beq_iff_eq.1 heq))

/-- What one operation has registered are its own tokens. -/
theorem filter_registered (i : Nat) (sets : List (List Bytes)) :
    (registered sets).filter (·.2.operation == i) = (sets[i]?).elim [] (owned i) := by
  have hfrom : ∀ k ≤ i, ((sets.zipIdx k).flatMap fun e => owned e.2 e.1).filter
      (·.2.operation == i) = (sets[i - k]?).elim [] (owned i) := by
    induction sets with
    | nil => intro k _; rfl
    | cons set sets ih =>
      intro k hk
      rw [List.zipIdx_cons, List.flatMap_cons, List.filter_append, filter_owned]
      rcases Nat.eq_or_lt_of_le hk with rfl | hlt
      · -- the operations after this one have other numbers
        have hothers : ((sets.zipIdx (k + 1)).flatMap fun e => owned e.2 e.1).filter
            (·.2.operation == k) = [] := by
          refine List.filter_eq_nil_iff.2 fun e he heq => ?_
          obtain ⟨⟨set', j⟩, hset', hmem⟩ := List.mem_flatMap.1 he
          obtain ⟨_, -, rfl⟩ := List.mem_map.1 hmem
          have hj : k + 1 ≤ j := (List.mk_mem_zipIdx_iff_le_and_getElem?_sub.1 hset').1
          have hjk : j = k := beq_iff_eq.1 heq
          omega
        rw [if_pos rfl, hothers, List.append_nil, Nat.sub_self]
        rfl
      · rw [if_neg (Nat.ne_of_lt hlt), List.nil_append, ih (k + 1) hlt]
        rw [show i - k = (i - (k + 1)) + 1 by omega, List.getElem?_cons_succ]
  exact hfrom 0 (Nat.zero_le i)

/-- **The match of all tokens is the match of its owner.** -/
theorem longestMatch?_registered
    (h : longestMatch? (registered sets) text = some (token, handler)) :
    ∃ tokens, sets[handler.operation]? = some tokens ∧
      longestMatch? tokens.zipIdx text = some (token, handler.token) := by
  have hown := longestMatch?_filter (·.2.operation == handler.operation) h (beq_self_eq_true _)
  rw [filter_registered] at hown
  cases hset : sets[handler.operation]? with
  | none =>
    rw [hset] at hown
    cases hown
  | some tokens =>
    refine ⟨tokens, rfl, ?_⟩
    rw [hset, Option.elim_some, owned, longestMatch?_mapValue (Handler.mk handler.operation),
      Option.map_eq_some_iff] at hown
    obtain ⟨⟨token', j⟩, hm, heq⟩ := hown
    obtain ⟨rfl, hhandler⟩ := Prod.mk.inj heq
    rw [hm, ← hhandler]

/-- Two token sets share no token; the empty one is none. -/
def Apart (tokens tokens' : List Bytes) : Prop := ∀ token ∈ tokens, token ∈ tokens' → token = []

instance (tokens tokens' : List Bytes) : Decidable (Apart tokens tokens') :=
  inferInstanceAs (Decidable (∀ token ∈ tokens, token ∈ tokens' → token = []))

/-- Token sets of which any two share no token. -/
def Separate (sets : List (List Bytes)) : Prop :=
  ∀ {i j : Nat} {tokens tokens' : List Bytes}, sets[i]? = some tokens → sets[j]? = some tokens' →
    i ≠ j → Apart tokens tokens'

theorem separate_of_pairwise (h : sets.Pairwise Apart) : Separate sets := by
  intro i j tokens tokens' hi hj hne
  obtain ⟨hi', rfl⟩ := List.getElem?_eq_some_iff.1 hi
  obtain ⟨hj', rfl⟩ := List.getElem?_eq_some_iff.1 hj
  rcases Nat.lt_or_gt_of_ne hne with hlt | hlt
  · exact List.pairwise_iff_getElem.1 h i j hi' hj' hlt
  · exact fun token hmem hmem' => List.pairwise_iff_getElem.1 h j i hj' hi' hlt token hmem' hmem

variable {ρ : Equiv.Perm Nat}

theorem mem_flatten_reindexed (h : Reindexed ρ sets sets') {token : Bytes} :
    token ∈ sets'.flatten ↔ token ∈ sets.flatten := by
  simp only [List.mem_flatten, h.mem_iff]

/-- The longest token is as long under any numbering. -/
theorem longestMatch?_le (hsets : ∀ token ∈ sets'.flatten, token ∈ sets.flatten)
    {e e' : Bytes × Handler} (h : longestMatch? (registered sets) text = some e)
    (h' : longestMatch? (registered sets') text = some e') : e'.1.length ≤ e.1.length := by
  obtain ⟨hmem, hne, hpre, -⟩ := longestMatch?_spec h'
  have hkey : e'.1 ∈ (registered sets').map (·.1) := List.mem_map_of_mem hmem
  rw [registered_keys] at hkey
  have hkey' := hsets _ hkey
  rw [← registered_keys] at hkey'
  obtain ⟨e'', hmem', heq⟩ := List.mem_map.1 hkey'
  rw [← heq] at hne hpre ⊢
  exact (longestMatch?_spec h).2.2.2 e'' hmem' hne hpre

/-- **The owner of a match** is the same operation, and the same of its tokens, under both
numberings of operations that share no token. -/
theorem match?_reindexed (h : Reindexed ρ sets sets') (hsep : Separate sets) (text : Bytes) :
    (ofSets sets').match? text =
      ((ofSets sets).match? text).map fun e => (e.1.renumber ρ, e.2) := by
  have hnone : (ofSets sets').match? text = none ↔ (ofSets sets).match? text = none := by
    simp only [match?_eq_none, mem_flatten_reindexed h]
  rw [match?_ofSets, match?_ofSets, Option.map_eq_none_iff, Option.map_eq_none_iff] at hnone
  rw [match?_ofSets, match?_ofSets]
  cases hm : longestMatch? (registered sets) text with
  | none =>
    rw [hnone.2 hm]
    rfl
  | some e =>
    cases hm' : longestMatch? (registered sets') text with
    | none =>
      rw [hnone.1 hm'] at hm
      cases hm
    | some e' =>
      have hne := (longestMatch?_spec hm).2.1
      -- both tokens are the longest one that the text begins with
      have hkey : e.1 = e'.1 := by
        have hle := longestMatch?_le (fun _ => (mem_flatten_reindexed h).1) hm hm'
        have hle' := longestMatch?_le (fun _ => (mem_flatten_reindexed h).2) hm' hm
        have hpre := (longestMatch?_spec hm).2.2.1
        have hpre' := (longestMatch?_spec hm').2.2.1
        exact (List.prefix_of_prefix_length_le hpre hpre' hle').eq_of_length (by omega)
      obtain ⟨token, handler⟩ := e
      obtain ⟨_, handler'⟩ := e'
      obtain rfl : token = _ := hkey
      obtain ⟨tokens, hset, hown⟩ := longestMatch?_registered hm
      obtain ⟨tokens', hset', hown'⟩ := longestMatch?_registered hm'
      obtain ⟨i, hi, hsame⟩ := h.exists_index handler'.operation
      rw [hset'] at hsame
      -- only one operation has this token
      have hoperation : i = handler.operation := by
        by_contra hdiff
        have hmem : token ∈ tokens :=
          List.fst_mem_of_mem_zipIdx (longestMatch?_spec hown).1
        have hmem' : token ∈ tokens' :=
          List.fst_mem_of_mem_zipIdx (longestMatch?_spec hown').1
        exact hne (hsep hsame hset hdiff token hmem' hmem)
      subst hoperation
      obtain rfl : tokens' = tokens := Option.some.inj (hsame.symm.trans hset)
      have htoken : handler'.token = handler.token := by
        rw [hown] at hown'
        exact (Prod.mk.inj (Option.some.inj hown')).2.symm
      have hhandler : handler' = handler.renumber ρ := by
        rw [Handler.renumber, hi, ← htoken]
      rw [hhandler]
      rfl

end Dispatch

/-! ## Stages under another numbering -/

theorem RunPlan.finish_reindexed {ρ : Equiv.Perm Nat} {operations operations' : List Operation}
    (h : Reindexed ρ operations operations') :
    RunPlan.finish operations' = .ok () ↔ RunPlan.finish operations = .ok () := by
  simp only [RunPlan.finish, forM_eq_ok, h.mem_iff]

namespace Stage

variable {ctx : Context} {d d' : Dispatch} {ρ : Equiv.Perm Nat} {s s' : Stage} {o : Outcome}

/-- **Two stages that differ in the numbering of the operations.** -/
structure Renumbers (ρ : Equiv.Perm Nat) (s s' : Stage) : Prop where
  operations : Reindexed ρ s.operations s'.operations
  modified : s'.modified = s.modified
  rest : s'.rest = s.rest
  output : s'.output = s.output

/-- Ends of runs that leave the same and succeed alike. -/
def Outcome.Alike (o o' : Outcome) : Prop := o'.1.toOption = o.1.toOption ∧ o'.2 = o.2

theorem result_reindexed {operations operations' : List Operation}
    (h : Reindexed ρ operations operations') (modified : Bool) :
    (result operations' modified).toOption = (result operations modified).toOption := by
  have hfinish := RunPlan.finish_reindexed h
  unfold result
  cases hx : RunPlan.finish operations with
  | ok u => rw [hfinish.2 hx]
  | error e =>
    cases hx' : RunPlan.finish operations' with
    | ok u =>
      rw [hfinish.1 hx'] at hx
      cases hx
    | error e' => rfl

theorem Renumbers.handled (ctx : Context) (h : Renumbers ρ s s') (handler : Handler)
    (length : Nat) :
    match s.handled ctx handler length with
    | .ok t => ∃ t', s'.handled ctx (handler.renumber ρ) length = .ok t' ∧ Renumbers ρ t t'
    | .error e => s'.handled ctx (handler.renumber ρ) length = .error e := by
  have hsame : s'.operations[(handler.renumber ρ).operation]? = s.operations[handler.operation]? :=
    h.operations handler.operation
  unfold Stage.handled
  rw [hsame, h.rest, h.output]
  cases ho : s.operations[handler.operation]? with
  | none => exact ⟨_, rfl, h.operations, rfl, rfl, rfl⟩
  | some x =>
    have htoken : (handler.renumber ρ).token = handler.token := rfl
    simp only [htoken]
    cases hx : x.handle ctx handler.token
        (⟨.whole (s.rest.drop length), .ofBytes s.output⟩ : Session Memory) with
    | error e σ => rfl
    | ok y σ => exact ⟨_, rfl, h.operations.set handler.operation y.1, rfl, rfl, rfl⟩

/-- **One step** under both numberings. -/
theorem Renumbers.next (ctx : Context) (h : Renumbers ρ s s')
    (hd : ∀ text, d'.match? text = (d.match? text).map fun e => (e.1.renumber ρ, e.2)) :
    Turn.Agree (Renumbers ρ) Outcome.Alike (s.next ctx d) (s'.next ctx d') := by
  unfold Stage.next
  rw [h.rest]
  cases hrest : s.rest with
  | nil => exact .stop ⟨h.modified ▸ result_reindexed h.operations s.modified, h.output⟩
  | cons b rest =>
    simp only [hd]
    cases hm : d.match? (b :: rest) with
    | none => exact .again ⟨h.operations, h.modified, rfl, by simp only [h.output]⟩
    | some found =>
      obtain ⟨handler, length⟩ := found
      have hhandled := h.handled ctx handler length
      simp only [Option.map_some]
      cases hx : s.handled ctx handler length with
      | error e =>
        rw [hx] at hhandled
        rw [hhandled]
        exact .stop ⟨rfl, rfl⟩
      | ok t =>
        rw [hx] at hhandled
        obtain ⟨t', ht', hagree⟩ := hhandled
        rw [ht']
        exact .again hagree

/-- **A run under one numbering is a run under the other.** -/
theorem Ends.renumbered (h : s.Ends ctx d o) (hs : Renumbers ρ s s')
    (hd : ∀ text, d'.match? text = (d.match? text).map fun e => (e.1.renumber ρ, e.2)) :
    ∃ o', s'.Ends ctx d' o' ∧ Outcome.Alike o o' := by
  induction h generalizing s' with
  | @stops s o hn =>
    obtain ⟨o', hn', halike⟩ := (hn ▸ hs.next ctx hd).stop_left
    exact ⟨o', .stops hn', halike⟩
  | @goesOn s t o hn _ ih =>
    obtain ⟨t', hn', ht⟩ := (hn ▸ hs.next ctx hd).again_left
    obtain ⟨o', hends, halike⟩ := ih ht
    exact ⟨o', .goesOn hn' hends, halike⟩

end Stage

/-! ## Runs of reordered operations -/

/-- The configuration with its operations in another order. -/
def Configuration.reordered (c : Configuration) (settings : List OperationSettings) :
    Configuration :=
  { c with operations := settings }

namespace Processor

variable {c : Configuration} {v : Variables} {conv : Converter} {ambient : Ambient}
  {settings : List OperationSettings} {p : Processor}

/-- The processor with its operations in another order. -/
def reordered (p : Processor) (settings : List OperationSettings) : Processor :=
  { p with configuration := p.configuration.reordered settings }

theorem validate_reordered (hperm : c.operations.Perm settings) (h : c.validate = .ok ()) :
    (c.reordered settings).validate = .ok () := by
  rw [Configuration.validate_eq_ok] at h ⊢
  obtain ⟨hbuffer, hflush, hformat, hoperations⟩ := h
  exact ⟨hbuffer, hflush, hformat, fun s hs => hoperations s (hperm.mem_iff.2 hs)⟩

theorem materialize_reordered (hperm : p.configuration.operations.Perm settings) {g : Glossary}
    {operations : List Operation} (h : p.materialize g = .ok operations) :
    ∃ operations', (p.reordered settings).materialize g = .ok operations' ∧
      operations.Perm operations' := by
  obtain ⟨made, hmade, hok⟩ := bind_eq_ok.1 h
  obtain ⟨made', hmade', hperm'⟩ := mapM_perm hperm hmade
  refine ⟨made'.filterMap id, bind_eq_ok.2 ⟨made', hmade', rfl⟩, ?_⟩
  cases hok
  exact hperm'.filterMap id

/-- Operations that cannot be made cannot be made in another order. -/
theorem materialize_reordered_error (hperm : p.configuration.operations.Perm settings)
    {g : Glossary} {e : ConfigError} (h : p.materialize g = .error e) :
    ∃ e', (p.reordered settings).materialize g = .error e' := by
  cases hm : (p.reordered settings).materialize g with
  | error e' => exact ⟨e', rfl⟩
  | ok operations =>
    have hback : ∃ operations', p.materialize g = .ok operations' ∧ operations.Perm operations' :=
      materialize_reordered (p := p.reordered settings) hperm.symm hm
    obtain ⟨_, hsame, -⟩ := hback
    rw [h] at hsame
    cases hsame

/-- Two orders of operations that share no token, in runs over the same source. -/
theorem run_reordered_alike (hperm : p.configuration.operations.Perm settings) {source : Source}
    (hsource : source.fails = false)
    (hapart : ∀ operations, p.materialize (p.glossary source.unread.bytes) = .ok operations →
      (operations.map Operation.tokens).Pairwise Dispatch.Apart) :
    ((p.reordered settings).run source (Memory.ofBytes [])).1.toOption =
        (p.run source (Memory.ofBytes [])).1.toOption ∧
      ((p.reordered settings).run source (Memory.ofBytes [])).2 =
        (p.run source (Memory.ofBytes [])).2 := by
  cases hm : p.materialize (p.glossary source.unread.bytes) with
  | error e =>
    obtain ⟨e', hm'⟩ := materialize_reordered_error hperm hm
    rw [run_of_rejected hsource _ hm, run_of_rejected (p := p.reordered settings) hsource _ hm']
    exact ⟨rfl, rfl⟩
  | ok operations =>
    obtain ⟨operations', hm', hoperations⟩ := materialize_reordered hperm hm
    obtain ⟨ρ, hρ⟩ := Reindexed.of_perm hoperations
    have hd := Dispatch.match?_reindexed (hρ.map Operation.tokens)
      (Dispatch.separate_of_pairwise (hapart operations hm))
    have hrenumbers (rest output) : Stage.Renumbers ρ ⟨operations, false, rest, output⟩
        ⟨operations', false, rest, output⟩ := ⟨hρ, rfl, rfl, rfl⟩
    obtain ⟨o, hends, halike⟩ := (ends_run hsource [] hm).renumbered (hrenumbers _ _) hd
    have ho := hends.unique (ends_run (p := p.reordered settings) hsource [] hm')
    subst ho
    exact ⟨halike.1, congrArg Memory.ofBytes halike.2⟩

/-- **Independent operations can be registered in any order.** For every valid configuration
without macros and every source over which no two operations share a token, the configuration
with the same operations in another order is valid too, and its run succeeds exactly if the run
of the first one does, with the same report of a change; and both leave the same output. -/
theorem run_reordered (hmake : make c v conv ambient = .ok p)
    (hmacros : ∀ s ∈ c.operations, s.kind ≠ .macros) (hperm : c.operations.Perm settings)
    {source : Source} (hsource : source.fails = false)
    (hapart : ∀ operations, p.materialize (p.glossary source.unread.bytes) = .ok operations →
      (operations.map Operation.tokens).Pairwise Dispatch.Apart) :
    ∃ p', make (c.reordered settings) v conv ambient = .ok p' ∧
      (p'.run source (Memory.ofBytes [])).1.toOption =
        (p.run source (Memory.ofBytes [])).1.toOption ∧
      (p'.run source (Memory.ofBytes [])).2 = (p.run source (Memory.ofBytes [])).2 := by
  obtain ⟨hvalid, rfl⟩ := (make_plain hmacros).1 hmake
  have hmacros' : ∀ s ∈ (c.reordered settings).operations, s.kind ≠ .macros :=
    fun s hs => hmacros s (hperm.mem_iff.2 hs)
  refine ⟨reordered ⟨c, v, conv⟩ settings, ?_, run_reordered_alike hperm hsource hapart⟩
  exact (make_plain hmacros').2 ⟨validate_reordered hperm hvalid, rfl⟩

/-- A region that is left out, blocks by whole lines and two replacements, of which one token is
the beginning of the other, in one order and in the opposite one. -/
theorem run_reordered_reversed :
    let settings : List OperationSettings :=
      [.replacements ⟨"a", "1"⟩, .replacements ⟨"ab", "2"⟩, .region ⟨"[", "]", false, false, true⟩,
        .conditionals ⟨["#if"], [], ["#else"], ["#end"], true, false, "C++", [], true⟩]
    let c : Configuration := ⟨Configuration.defaultFormat, settings, 1, 1⟩
    let p : Processor := ⟨c, .ofList [("A", .bool false)], .standard⟩
    let source := Source.ofBytes (Encoding.utf8.encode "#if A\nb [\n#else\nab [a] a\n#end\n")
    (make c (.ofList [("A", .bool false)]) .standard ⟨⟨0, 0⟩, fun _ => 0⟩ = .ok p ∧
        (∀ s ∈ c.operations, s.kind ≠ .macros) ∧ c.operations.Perm settings.reverse ∧
        source.fails = false ∧
        ∀ operations, p.materialize (p.glossary source.unread.bytes) = .ok operations →
          (operations.map Operation.tokens).Pairwise Dispatch.Apart) ∧
      (p.run source (Memory.ofBytes [])).1.toOption = some true ∧
      ∃ p', make (c.reordered settings.reverse) (.ofList [("A", .bool false)]) .standard
          ⟨⟨0, 0⟩, fun _ => 0⟩ = .ok p' ∧
        (p'.run source (Memory.ofBytes [])).1.toOption = some true ∧
        (p'.run source (Memory.ofBytes [])).2.toBytes = Encoding.utf8.encode "21\n" := by
  intro settings c p source
  have hmacros : ∀ s ∈ c.operations, s.kind ≠ .macros := by decide
  have hmake : make c (.ofList [("A", .bool false)]) .standard ⟨⟨0, 0⟩, fun _ => 0⟩ = .ok p :=
    (make_plain hmacros).2 ⟨by decide, rfl⟩
  have hperm : c.operations.Perm settings.reverse := (List.reverse_perm settings).symm
  have hapart : ∀ operations, p.materialize (p.glossary source.unread.bytes) = .ok operations →
      (operations.map Operation.tokens).Pairwise Dispatch.Apart := by
    intro operations hm
    have htokens : ((p.materialize (p.glossary source.unread.bytes)).toOption.map
        (·.map Operation.tokens)).all fun sets => decide (sets.Pairwise Dispatch.Apart) := by
      decide +kernel
    rw [hm] at htokens
    exact of_decide_eq_true htokens
  have hmodified : (p.run source (Memory.ofBytes [])).1.toOption = some true := by decide +kernel
  have houtput : (p.run source (Memory.ofBytes [])).2.toBytes = Encoding.utf8.encode "21\n" := by
    decide +kernel
  obtain ⟨p', hmake', hresult, hsame⟩ := run_reordered hmake hmacros hperm rfl hapart
  refine ⟨⟨hmake, hmacros, hperm, rfl, hapart⟩, hmodified, p', hmake', ?_, ?_⟩
  · rw [hresult, hmodified]
  · rw [hsame, houtput]

end Processor

end Templating

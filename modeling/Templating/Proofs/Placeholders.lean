import Mathlib.Data.Set.Function
import Templating.Proofs.Dictionary
import Templating.Proofs.Layers
import Templating.Proofs.Rewriting
import Templating.Proofs.Validity

/-!
# Names in content

In content a variable is written by its name inside the variable format. A format that has the
placeholder keeps the names apart, however often it has it and whatever the names are: a longer
name gives a longer text, and of two names of one length the texts differ where the first
placeholder stands. So no two variables share a token, and what a token expands to is the value of
its own variable.

* `hasPlaceholder_iff`: when a format has the placeholder.
* `fillPlaceholder_injective`: such a format keeps all names apart.
* `Glossary.expands_unambiguously`: **so do the slots of a glossary and the tokens of an
  expansion.**
-/

namespace Templating

/-! ## Formats -/

theorem placeholder_prefix_iff {cs : List Char} :
    placeholder <+: cs ↔ ∃ rest, cs = '\x7b' :: '0' :: '\x7d' :: rest :=
  ⟨fun ⟨rest, h⟩ => ⟨rest, h.symm⟩, fun ⟨rest, h⟩ => ⟨rest, h.symm⟩⟩

/-- **A format has the placeholder** if that is a part of it. -/
theorem hasPlaceholder_iff {format : List Char} :
    hasPlaceholder format = true ↔ placeholder <:+: format := by
  induction format with
  | nil => simp [hasPlaceholder, placeholder]
  | cons c rest ih =>
    rw [hasPlaceholder, Bool.or_eq_true, List.isPrefixOf_iff_prefix, ih, List.infix_cons_iff]

section Head

-- A character that begins no placeholder, as the recursion of `fillPlaceholder` has it.
variable {c : Char} {rest : List Char}
  (hhead : ∀ rest', c = '\x7b' → rest = '0' :: '\x7d' :: rest' → False)
include hhead

theorem fillPlaceholder_cons (name : List Char) :
    fillPlaceholder name (c :: rest) = c :: fillPlaceholder name rest := by
  rw [fillPlaceholder]
  exact hhead

theorem hasPlaceholder_tail (h : hasPlaceholder (c :: rest) = true) :
    hasPlaceholder rest = true := by
  rw [hasPlaceholder, Bool.or_eq_true, List.isPrefixOf_iff_prefix, placeholder_prefix_iff] at h
  rcases h with ⟨rest', heq⟩ | h
  · cases heq
    exact (hhead rest' rfl rfl).elim
  · exact h

end Head

section Fill

variable {name other format : List Char}

theorem length_fillPlaceholder_le (h : name.length ≤ other.length) :
    (fillPlaceholder name format).length ≤ (fillPlaceholder other format).length := by
  induction format using fillPlaceholder.induct with
  | case1 rest ih =>
    rw [fillPlaceholder, fillPlaceholder, List.length_append, List.length_append]
    exact Nat.add_le_add h ih
  | case2 c rest hhead ih =>
    rw [fillPlaceholder_cons hhead, fillPlaceholder_cons hhead]
    exact Nat.succ_le_succ ih
  | case3 => exact le_rfl

/-- **A longer name gives a longer text.** -/
theorem length_fillPlaceholder_lt (hformat : hasPlaceholder format = true)
    (h : name.length < other.length) :
    (fillPlaceholder name format).length < (fillPlaceholder other format).length := by
  induction format using fillPlaceholder.induct with
  | case1 rest ih =>
    rw [fillPlaceholder, fillPlaceholder, List.length_append, List.length_append]
    exact Nat.add_lt_add_of_lt_of_le h (length_fillPlaceholder_le h.le)
  | case2 c rest hhead ih =>
    rw [fillPlaceholder_cons hhead, fillPlaceholder_cons hhead]
    exact Nat.succ_lt_succ (ih (hasPlaceholder_tail hhead hformat))
  | case3 => cases hformat

/-- Names of one length are told apart by the first placeholder. -/
theorem eq_of_fillPlaceholder_eq (hformat : hasPlaceholder format = true)
    (hlength : name.length = other.length)
    (h : fillPlaceholder name format = fillPlaceholder other format) : name = other := by
  induction format using fillPlaceholder.induct with
  | case1 rest ih =>
    rw [fillPlaceholder, fillPlaceholder] at h
    exact (List.append_inj h hlength).1
  | case2 c rest hhead ih =>
    rw [fillPlaceholder_cons hhead, fillPlaceholder_cons hhead] at h
    exact ih (hasPlaceholder_tail hhead hformat) (List.cons.inj h).2
  | case3 => cases hformat

end Fill

/-- **A format with the placeholder keeps all names apart.** -/
theorem fillPlaceholder_injective {format : List Char} (hformat : hasPlaceholder format = true) :
    Function.Injective fun name => fillPlaceholder name format := by
  intro name other h
  have hfilled := congrArg List.length h
  rcases lt_trichotomy name.length other.length with hshorter | hlength | hlonger
  · exact absurd hfilled (length_fillPlaceholder_lt hformat hshorter).ne
  · exact eq_of_fillPlaceholder_eq hformat hlength h
  · exact absurd hfilled (length_fillPlaceholder_lt hformat hlonger).ne'

/-! ## Slots -/

/-- Where something tells the members of a list apart, it tells their places apart. -/
theorem injective_get_of_nodup {α β : Type} {f : α → β} {xs : List α} (h : (xs.map f).Nodup) :
    Function.Injective fun i : Fin xs.length => f (xs.get i) := by
  intro i j hij
  have hget := List.inj_on_of_nodup_map h (List.get_mem xs i) (List.get_mem xs j) hij
  exact h.of_map.injective_get hget

namespace Glossary

variable {e : Encoding} {v : Variables} {format : String}

theorem nodup_formatted (hformat : hasPlaceholder format.toList = true) :
    ((make e v format).slots.map (·.formatted)).Nodup := by
  rw [formatted_slots, List.map_map]
  refine v.nodup_keys.map fun name other h => ?_
  have hfilled := String.ofList_injective (String.toList_injective (e.text_injective h))
  exact String.toList_injective (fillPlaceholder_injective hformat hfilled)

/-- **The slots are those of the names that have a value**, one for each. -/
theorem bijOn_names : Set.BijOn (fun i : Fin (make e v format).slots.length =>
    ((make e v format).slots.get i).name) Set.univ {name | (v.get? name).isSome} := by
  have hmem : ∀ name, (v.get? name).isSome ↔ ∃ s ∈ (make e v format).slots, s.name = name := by
    intro name
    rw [← Variables.mem_keys, ← names_slots e v format, List.mem_map]
  have hnodup : ((make e v format).slots.map (·.name)).Nodup := by
    rw [names_slots]
    exact v.nodup_keys
  refine ⟨fun i _ => (hmem _).2 ⟨_, List.get_mem _ i, rfl⟩,
    (injective_get_of_nodup hnodup).injOn, fun name hname => ?_⟩
  obtain ⟨s, hs, rfl⟩ := (hmem name).1 hname
  obtain ⟨i, rfl⟩ := List.get_of_mem hs
  exact ⟨i, Set.mem_univ i, rfl⟩

theorem resolve_get (g : Glossary) (i : Fin g.slots.length) :
    g.resolve i = (g.slots.get i).value := by
  rw [resolve, List.getElem?_eq_getElem i.isLt]
  rfl

/-- **The value of a slot** is the one that the nearest scope gives to its name. -/
theorem exists_nearest (i : Fin (make e v format).slots.length) :
    ∃ nearer scope farther, v.scopes = nearer ++ scope :: farther ∧
      (∀ s ∈ nearer, s.get? ((make e v format).slots.get i).name = none) ∧
      scope.get? ((make e v format).slots.get i).name = some ((make e v format).resolve i) := by
  obtain ⟨value, hvalue⟩ := Option.isSome_iff_exists.1 (bijOn_names.mapsTo (Set.mem_univ i))
  have hresolve : (make e v format).resolve i = value := by
    obtain ⟨name, -, hslot⟩ := List.mem_map.1 (List.get_mem (make e v format).slots i)
    rw [resolve_get]
    rw [← hslot] at hvalue ⊢
    exact congrArg (Option.getD · .null) hvalue
  obtain ⟨nearer, scope, farther, hscopes, hget, hnone⟩ := List.findSome?_eq_some_iff.1 hvalue
  exact ⟨nearer, scope, farther, hscopes, hnone, hresolve ▸ hget⟩

end Glossary

/-! ## Tokens of an expansion -/

/-- Of different tokens of one operation each is found as itself. -/
theorem Dispatch.match?_of_nodup {tokens : List Bytes} (hnodup : tokens.Nodup) {i : Nat}
    {token : Bytes} (hi : tokens[i]? = some token) (hne : token ≠ []) :
    (ofSets [tokens]).match? token = some (⟨0, i⟩, token.length) := by
  refine match?_eq_some.2 ⟨i, token, ?_, ?_, rfl⟩
  · rw [List.flatten_singleton]
    refine ⟨hi, hne, List.prefix_rfl, fun other _ hpre => hpre.length_le, fun later hlater => ?_⟩
    have hlt := (List.getElem?_eq_some_iff.1 hi).1
    exact ((List.getElem?_inj hlt hnodup).1 (hi.trans hlater.symm)).ge
  · simp [registered, owned, hi]

namespace Glossary

variable {e : Encoding} {v : Variables} {format : String}

/-- An expansion puts the value of a slot in the place of its token. -/
theorem exists_expansion (g : Glossary) {p : Processor}
    (hops : p.configuration.operations = [.variableExpansion]) :
    ∃ o, p.materialize g = .ok [o] ∧ o.tokens = g.slots.map (·.formatted) ∧
      ∀ (i : Fin g.slots.length) (floor : Nat) (s : Session Memory), ∃ written,
        o.handle ⟨g, floor⟩ i s = .ok (o, written) ⟨s.window, .ofBytes (s.target.toBytes ++
          if (g.resolve i).isNull then [] else g.encoding.encode (g.resolve i).text)⟩ := by
  refine ⟨_, Processor.materialize_singleton hops rfl, rfl, fun i floor s => ?_⟩
  obtain ⟨o, ho, hwrites⟩ := Operation.writes_of_materialize ⟨g, floor⟩ p.converter
    (s := .variableExpansion) rfl
  cases ho
  have hrule : (OperationSettings.variableExpansion.rules g)[(i : Nat)]? =
      some ((g.slots.get i).formatted,
        if (g.resolve i).isNull then [] else g.encoding.encode (g.resolve i).text) := by
    rw [OperationSettings.rules, List.getElem?_map, List.getElem?_eq_getElem i.isLt, resolve_get]
    rfl
  exact hwrites.handle s hrule

/-- **No two variables share a token.** For all variables, every format with the placeholder and
every encoding: the slots are those of the visible names, one for each, and have the values that
the nearest scopes give. Different slots have different texts in content, and where an expansion is
the only operation, such a text, if it is not empty, is found as the token of its own slot, whose
value takes its place. -/
theorem expands_unambiguously (e : Encoding) (v : Variables) (format : String)
    (hformat : placeholder <:+: format.toList) :
    let g := make e v format
    Set.BijOn (fun i : Fin g.slots.length => (g.slots.get i).name) Set.univ
      {name | (v.get? name).isSome} ∧
    (∀ i : Fin g.slots.length, ∃ nearer scope farther, v.scopes = nearer ++ scope :: farther ∧
      (∀ s ∈ nearer, s.get? (g.slots.get i).name = none) ∧
      scope.get? (g.slots.get i).name = some (g.resolve i)) ∧
    (Function.Injective fun i : Fin g.slots.length => (g.slots.get i).formatted) ∧
    ∀ p : Processor, p.configuration.operations = [.variableExpansion] →
      ∃ o, p.materialize g = .ok [o] ∧ ∀ i : Fin g.slots.length,
        ((g.slots.get i).formatted ≠ [] →
          (Dispatch.ofSets [o.tokens]).match? (g.slots.get i).formatted =
            some (⟨0, i⟩, (g.slots.get i).formatted.length)) ∧
        ∀ (floor : Nat) (s : Session Memory), ∃ written,
          o.handle ⟨g, floor⟩ i s = .ok (o, written) ⟨s.window, .ofBytes (s.target.toBytes ++
            if (g.resolve i).isNull then [] else e.encode (g.resolve i).text)⟩ := by
  have hnodup := nodup_formatted (e := e) (v := v) (hasPlaceholder_iff.2 hformat)
  refine ⟨bijOn_names, exists_nearest, injective_get_of_nodup hnodup, fun p hops => ?_⟩
  obtain ⟨o, ho, htokens, hhandle⟩ := exists_expansion (make e v format) hops
  refine ⟨o, ho, fun i => ⟨fun hne => ?_, hhandle i⟩⟩
  rw [htokens]
  refine Dispatch.match?_of_nodup hnodup ?_ hne
  rw [List.getElem?_map, List.getElem?_eq_getElem i.isLt]
  rfl

/-- A format that repeats the placeholder, a name that is written like it, and a name whose text
begins with that of another one: each expands to its own value. -/
theorem expands_unambiguously_repeated :
    let v : Variables := ⟨[("a", .string "near"), ("\x7b0\x7d", .int 7)],
      [[("aa", .string "longer"), ("a", .string "far")]]⟩
    let format := "\x7b0\x7d\x7b0\x7d"
    let g := make .utf8 v format
    placeholder <:+: format.toList ∧ g.slots.map (·.name) = ["a", "\x7b0\x7d", "aa"] ∧
      ∃ o, Processor.materialize ⟨⟨format, [.variableExpansion], 1, 1⟩, v, .standard⟩ g =
          .ok [o] ∧
        (Dispatch.ofSets [o.tokens]).match? (Encoding.utf8.encode "aa") = some (⟨0, 0⟩, 2) ∧
        (Dispatch.ofSets [o.tokens]).match? (Encoding.utf8.encode "aaaa") = some (⟨0, 2⟩, 4) ∧
        ∃ written, o.handle ⟨g, 0⟩ 2 (⟨.whole [], .ofBytes []⟩ : Session Memory) =
          .ok (o, written) ⟨.whole [], .ofBytes (Encoding.utf8.encode "longer")⟩ := by
  intro v format g
  have hformat : placeholder <:+: format.toList := by decide
  obtain ⟨o, ho, hslots⟩ := (expands_unambiguously .utf8 v format hformat).2.2.2
    ⟨⟨format, [.variableExpansion], 1, 1⟩, v, .standard⟩ rfl
  obtain ⟨hshort, -⟩ := hslots (⟨0, by decide⟩ : Fin g.slots.length)
  obtain ⟨hlong, hwrites⟩ := hslots (⟨2, by decide⟩ : Fin g.slots.length)
  have htext : (g.slots.get ⟨0, by decide⟩).formatted = Encoding.utf8.encode "aa" := by decide
  have htext' : (g.slots.get ⟨2, by decide⟩).formatted = Encoding.utf8.encode "aaaa" := by decide
  have hvalue : g.resolve 2 = .string "longer" := rfl
  rw [htext] at hshort
  rw [htext'] at hlong
  refine ⟨hformat, by decide, o, ho, hshort (by decide), hlong (by decide), ?_⟩
  obtain ⟨written, hwritten⟩ := hwrites 0 (⟨.whole [], .ofBytes []⟩ : Session Memory)
  refine ⟨written, hwritten.trans ?_⟩
  rw [hvalue]
  rfl

end Glossary

end Templating

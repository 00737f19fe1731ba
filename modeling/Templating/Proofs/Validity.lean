import Mathlib.Data.List.Forall2
import Templating.Processor

/-!
# Valid configurations

A processor exists only for a valid configuration. Its operations can then be made for every
stream: of what making them checks again, nothing can fail.

* `Configuration.validate_eq_ok`: when a configuration is valid.
* `Processor.exists_materialize`: the operations of a valid configuration can be made.
-/

namespace Templating

/-! ## Lists of attempts -/

section Attempts

variable {ε α β : Type} {xs xs' : List α}

theorem bind_eq_ok {x : Except ε α} {f : α → Except ε β} {b : β} :
    (x >>= f) = .ok b ↔ ∃ a, x = .ok a ∧ f a = .ok b := by
  constructor
  · intro h
    cases x with
    | error e => cases h
    | ok a => exact ⟨a, rfl, h⟩
  · rintro ⟨a, rfl, h⟩
    exact h

theorem forM_eq_ok {f : α → Except ε Unit} : xs.forM f = .ok () ↔ ∀ x ∈ xs, f x = .ok () := by
  rw [List.forM_eq_forM]
  induction xs with
  | nil => simp [pure, Except.pure]
  | cons x xs ih =>
    rw [List.forM_cons, bind_eq_ok, List.forall_mem_cons, ← ih]
    constructor
    · rintro ⟨_, hx, hxs⟩
      exact ⟨hx, hxs⟩
    · rintro ⟨hx, hxs⟩
      exact ⟨(), hx, hxs⟩

/-- The error of several attempts is one of theirs. -/
theorem exists_of_forM_error {f : α → Except ε Unit} {e : ε} (h : xs.forM f = .error e) :
    ∃ x ∈ xs, f x = .error e := by
  rw [List.forM_eq_forM] at h
  induction xs with
  | nil => cases h
  | cons x xs ih =>
    rw [List.forM_cons] at h
    cases hx : f x with
    | error e' =>
      rw [hx] at h
      cases h
      exact ⟨x, List.mem_cons_self, hx⟩
    | ok u =>
      rw [hx] at h
      obtain ⟨y, hy, hfails⟩ := ih h
      exact ⟨y, List.mem_cons_of_mem x hy, hfails⟩

theorem mapM_eq_ok {f : α → Except ε β} {ys : List β} :
    xs.mapM f = .ok ys ↔ List.Forall₂ (fun x y => f x = .ok y) xs ys := by
  induction xs generalizing ys with
  | nil =>
    rw [List.mapM_nil, List.forall₂_nil_left_iff]
    exact ⟨fun h => (Except.ok.inj h).symm, fun h => congrArg Except.ok h.symm⟩
  | cons x xs ih =>
    simp only [List.mapM_cons, List.forall₂_cons_left_iff, bind_eq_ok, ← ih]
    constructor
    · rintro ⟨y, hy, rest, hrest, h⟩
      exact ⟨y, rest, hy, hrest, (Except.ok.inj h).symm⟩
    · rintro ⟨y, rest, hy, hrest, rfl⟩
      exact ⟨y, hy, rest, hrest, rfl⟩

theorem exists_mapM {f : α → Except ε β} (h : ∀ x ∈ xs, ∃ y, f x = .ok y) :
    ∃ ys, xs.mapM f = .ok ys := by
  induction xs with
  | nil => exact ⟨[], rfl⟩
  | cons x xs ih =>
    obtain ⟨y, hy⟩ := h x List.mem_cons_self
    obtain ⟨ys, hys⟩ := ih fun x' hx' => h x' (List.mem_cons_of_mem x hx')
    exact ⟨y :: ys, mapM_eq_ok.2 (.cons hy (mapM_eq_ok.1 hys))⟩

end Attempts

/-! ## Validation -/

/-- **A configuration is valid** if its sizes are not zero, its variable format has a
placeholder and each of its operations is valid. -/
theorem Configuration.validate_eq_ok {c : Configuration} : c.validate = .ok () ↔
    c.bufferSize ≠ 0 ∧ c.flushThreshold ≠ 0 ∧ hasPlaceholder c.variableFormat.toList = true ∧
      ∀ s ∈ c.operations, s.validate = .ok () := by
  unfold validate
  by_cases hbuffer : c.bufferSize = 0
  · rw [if_pos hbuffer]
    exact ⟨nofun, fun h => absurd hbuffer h.1⟩
  by_cases hflush : c.flushThreshold = 0
  · rw [if_neg hbuffer, if_pos hflush]
    exact ⟨nofun, fun h => absurd hflush h.2.1⟩
  cases hformat : hasPlaceholder c.variableFormat.toList with
  | false =>
    rw [if_neg hbuffer, if_neg hflush]
    exact ⟨nofun, fun h => nomatch h.2.2.1⟩
  | true =>
    rw [if_neg hbuffer, if_neg hflush]
    show c.operations.forM OperationSettings.validate = .ok () ↔ _
    rw [forM_eq_ok]
    exact ⟨fun h => ⟨hbuffer, hflush, rfl, h⟩, fun h => h.2.2.2⟩

/-- Conditional blocks are valid only with the name of an evaluator. -/
theorem ConditionalSettings.exists_dialect {s : ConditionalSettings} (h : s.validate = .ok ()) :
    ∃ dialect, Dialect.ofName s.evaluator = .ok dialect := by
  unfold validate at h
  cases hdialect : Dialect.ofName s.evaluator with
  | ok dialect => exact ⟨dialect, rfl⟩
  | error e =>
    simp only [hdialect] at h
    split at h
    · cases h
    · split at h
      · cases h
      · obtain ⟨-, -, h⟩ := bind_eq_ok.1 h
        cases h

/-- **Valid settings make an operation**, in every encoding. -/
theorem OperationSettings.exists_materialize {s : OperationSettings} (h : s.validate = .ok ())
    (g : Glossary) (conv : Converter) : ∃ o, s.materialize g conv = .ok o := by
  cases s with
  | conditionals s =>
    obtain ⟨dialect, hdialect⟩ := ConditionalSettings.exists_dialect h
    simp only [materialize, Conditional.make, hdialect]
    exact ⟨_, rfl⟩
  | replacements | region | variableExpansion | macros => exact ⟨_, rfl⟩

namespace Processor

variable {c : Configuration} {v : Variables} {conv : Converter} {ambient : Ambient} {p : Processor}

theorem make_ok (h : make c v conv ambient = .ok p) :
    c.validate = .ok () ∧ p.configuration = c ∧ p.converter = conv := by
  unfold make at h
  cases hvalid : c.validate with
  | error e =>
    rw [hvalid] at h
    cases h
  | ok u =>
    simp only [hvalid] at h
    obtain ⟨bindings, -, hp⟩ := bind_eq_ok.1 h
    cases hp
    exact ⟨rfl, rfl, rfl⟩

/-- **The operations of a valid configuration can be made.** -/
theorem exists_materialize (h : p.configuration.validate = .ok ()) (g : Glossary) :
    ∃ operations, p.materialize g = .ok operations := by
  obtain ⟨made, hmade⟩ := exists_mapM fun s hs => OperationSettings.exists_materialize
    ((Configuration.validate_eq_ok.1 h).2.2.2 s hs) g p.converter
  exact ⟨made.filterMap id, bind_eq_ok.2 ⟨made, hmade, rfl⟩⟩

/-- The operations of a run whose configuration has only one. -/
theorem materialize_singleton {s : OperationSettings} (hops : p.configuration.operations = [s])
    {g : Glossary} {o : Operation} (ho : s.materialize g p.converter = .ok (some o)) :
    p.materialize g = .ok [o] := by
  have hmapped : p.configuration.operations.mapM (·.materialize g p.converter) =
      .ok [some o] := by
    rw [hops, List.mapM_cons, List.mapM_nil, ho]
    rfl
  exact bind_eq_ok.2 ⟨[some o], hmapped, rfl⟩

/-- Without macros the variables are those that are given. -/
theorem layerMacros_none {settings : List OperationSettings}
    (hmacros : ∀ s ∈ settings, s.kind ≠ .macros) (v : Variables) :
    layerMacros ambient conv settings v = .ok v := by
  induction settings with
  | nil => rfl
  | cons s settings ih =>
    have hrest := ih fun s' hs' => hmacros s' (List.mem_cons_of_mem s hs')
    cases s with
    | macros ms => exact absurd rfl (hmacros _ List.mem_cons_self)
    | _ => exact hrest

/-- **The processor of a configuration without macros.** -/
theorem make_plain (hmacros : ∀ s ∈ c.operations, s.kind ≠ .macros) :
    make c v conv ambient = .ok p ↔ c.validate = .ok () ∧ p = ⟨c, v, conv⟩ := by
  unfold make
  cases hvalid : c.validate with
  | error e =>
    constructor
    · intro h
      cases h
    · rintro ⟨h, -⟩
      cases h
  | ok u =>
    simp only [layerMacros_none hmacros v]
    constructor
    · intro h
      cases h
      exact ⟨trivial, rfl⟩
    · rintro ⟨-, rfl⟩
      rfl

/-- The processor of a valid configuration with one operation, which is no list of macros. -/
theorem make_singleton {s : OperationSettings} (hvalid : c.validate = .ok ())
    (hops : c.operations = [s]) (hkind : s.kind ≠ .macros) :
    make c v conv ambient = .ok ⟨c, v, conv⟩ := by
  have hmacros : ∀ o ∈ c.operations, o.kind ≠ .macros := by
    rw [hops]
    exact List.forall_mem_singleton.2 hkind
  exact (make_plain hmacros).2 ⟨hvalid, rfl⟩

end Processor

end Templating

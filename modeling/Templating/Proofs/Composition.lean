import Templating.Processor
import Templating.Proofs.Slots
import Templating.Proofs.Validity

/-!
# Composition of macros

Macros may be computed as one list or as several ones, each in a scope of its own over the results
of those before it. Names are listed in another order then, and the slots of conditions have other
numbers; but what a macro reads are the visible values, and these are the same.

* `Macro.compute_congr`: a macro reads nothing but the visible values.
* `Macro.computeAll_congr`: so a list of macros gives the same values over the same values.
* `Macro.Extends`: variables with the results of macros, each computed among those before it.
* `Macro.layers_compose`: **one list of macros does what its parts do one after the other.**
-/

namespace Templating

variable {α β : Type}

theorem toOption_bind {ε : Type} (r : Except ε α) (f : α → Except ε β) :
    (r >>= f).toOption = r.toOption.bind fun a => (f a).toOption := by
  cases r <;> rfl

namespace Variables

variable {v w : Variables}

theorem Same.set (h : v.Same w) (key : String) (value : Value) :
    (v.set key value).Same (w.set key value) := by
  intro other
  rw [get?_set, get?_set, h other]

/-- A scope that is opened inside hides nothing. -/
theorem same_child (v : Variables) : v.Same v.child := fun _ => rfl

end Variables

namespace Macro

variable {ambient : Ambient} {c : Converter} {v w : Variables} {m : Macro} {ms : List Macro}

/-! ## One macro -/

/-- A macro that takes nothing from its surroundings: no guid, and no time. -/
def Closed (m : Macro) : Prop :=
  match m.definition with
  | .guid _ | .now .. => False
  | _ => True

instance (m : Macro) : Decidable m.Closed := by
  unfold Closed
  split <;> infer_instance

theorem sourceText_congr (h : v.Same w) (name : String) :
    sourceText v c name = sourceText w c name := by
  rw [sourceText, sourceText, h.value_eq]

theorem select_congr (h : v.Same w) (d : Dialect) (cases : List SwitchCase) :
    (select d v c cases).toOption = (select d w c cases).toOption := by
  induction cases with
  | nil => rfl
  | cons case cases ih =>
    obtain ⟨condition, value⟩ := case
    cases condition with
    | none => rfl
    | some condition =>
      unfold select
      simp only
      rw [toOption_bind, toOption_bind, Dialect.holds_congr h]
      congr 1
      funext holds
      cases holds
      · exact ih
      · rfl

/-- **A macro reads nothing but the visible values**, wherever it stands. -/
theorem compute_congr (hm : m.Closed) (h : v.Same w) (index index' : Nat) :
    (m.compute ambient index v c).toOption = (m.compute ambient index' w c).toOption := by
  unfold Closed at hm
  unfold compute
  cases hdefinition : m.definition with
  | constant value => rfl
  | evaluate condition evaluator =>
    simp only [toOption_bind, Dialect.holds_congr h]
  | substitute source steps => simp only [sourceText_congr h]
  | casing source toLower => simp only [sourceText_congr h]
  | switch evaluator cases => simp only [toOption_bind, select_congr h]
  | guid | now => simp [hdefinition] at hm

/-! ## Lists of macros -/

theorem computeAll_append (index : Nat) (ms₁ ms₂ : List Macro) (v : Variables) :
    computeAll ambient c index (ms₁ ++ ms₂) v = (do
      let u ← computeAll ambient c index ms₁ v
      computeAll ambient c (index + ms₁.length) ms₂ u) := by
  induction ms₁ generalizing index v with
  | nil => rfl
  | cons m ms₁ ih =>
    rw [List.cons_append, computeAll, computeAll, List.length_cons]
    cases m.compute ambient index v c with
    | error e => rfl
    | ok value =>
      refine (ih (index + 1) _).trans ?_
      rw [Nat.add_right_comm]
      rfl

/-- **Macros give the same values over the same values**, or fail over both. -/
theorem computeAll_congr (hms : ∀ m ∈ ms, m.Closed) (h : v.Same w) (index index' : Nat) :
    Option.Rel Variables.Same (computeAll ambient c index ms v).toOption
      (computeAll ambient c index' ms w).toOption := by
  induction ms generalizing index index' v w with
  | nil => exact .some h
  | cons m ms ih =>
    obtain ⟨hm, hms⟩ := List.forall_mem_cons.1 hms
    rw [computeAll, computeAll, toOption_bind, toOption_bind, compute_congr hm h index index']
    cases (m.compute ambient index' w c).toOption with
    | none => exact .none
    | some value => exact ih hms (h.set m.variableName value) _ _

variable {index : Nat}

theorem computeAll_cons (h : computeAll ambient c index (m :: ms) v = .ok w) : ∃ value,
    m.compute ambient index v c = .ok value ∧
      computeAll ambient c (index + 1) ms (v.set m.variableName value) = .ok w :=
  bind_eq_ok.1 h

/-- What macros give has passed every beginning of their list. -/
theorem computeAll_split {before after : List Macro}
    (h : computeAll ambient c index (before ++ after) v = .ok w) : ∃ u,
      computeAll ambient c index before v = .ok u ∧
        computeAll ambient c (index + before.length) after u = .ok w := by
  rw [computeAll_append] at h
  exact bind_eq_ok.1 h

/-- Macros change the innermost scope only. -/
theorem outer_computeAll (h : computeAll ambient c index ms v = .ok w) : w.outer = v.outer := by
  induction ms generalizing index v with
  | nil =>
    cases h
    rfl
  | cons m ms ih =>
    obtain ⟨value, -, hrest⟩ := computeAll_cons h
    exact ih (v := v.set m.variableName value) hrest

/-- Macros change the values of their own names only. -/
theorem get?_computeAll (h : computeAll ambient c index ms v = .ok w) {key : String}
    (hkey : ∀ m ∈ ms, m.variableName ≠ key) : w.get? key = v.get? key := by
  induction ms generalizing index v with
  | nil =>
    cases h
    rfl
  | cons m ms ih =>
    obtain ⟨hm, hkey⟩ := List.forall_mem_cons.1 hkey
    obtain ⟨value, -, hrest⟩ := computeAll_cons h
    rw [ih hrest hkey, Variables.get?_set, if_neg (Ne.symm hm)]

/-- **Variables with the results of macros**: each is computed among those before it, and stands for
its name then. -/
inductive Extends (ambient : Ambient) (c : Converter) (v : Variables) :
    List Macro → Variables → Prop where
  | nil (u : Variables) : v.Same u → Extends ambient c v [] u
  | concat (ms : List Macro) (m : Macro) (u w : Variables) (value : Value) :
    Extends ambient c v ms u → m.compute ambient ms.length u c = .ok value →
    (∀ key, w.get? key = if key = m.variableName then some value else u.get? key) →
    Extends ambient c v (ms ++ [m]) w

theorem extends_computeAll (h : computeAll ambient c 0 ms v.child = .ok w) :
    Extends ambient c v ms w := by
  induction ms using List.reverseRecOn generalizing w with
  | nil =>
    cases h
    exact .nil _ v.same_child
  | append_singleton ms m ih =>
    obtain ⟨u, hu, hlast⟩ := computeAll_split h
    obtain ⟨value, hvalue, hw⟩ := computeAll_cons hlast
    cases hw
    rw [Nat.zero_add] at hvalue
    exact .concat ms m u _ value (ih hu) hvalue fun key => Variables.get?_set u _ key value

/-! ## Scopes of macros -/

/-- **What macros make of variables.** -/
structure Layers (ambient : Ambient) (c : Converter) (v : Variables) (ms : List Macro)
    (w : Variables) : Prop where
  /-- Names of no macro keep their values. -/
  kept : ∀ key, (∀ m ∈ ms, m.variableName ≠ key) → w.get? key = v.get? key
  /-- Any other name has the value of its last macro, which sees the results of all those before. -/
  latest : ∀ before m after, ms = before ++ m :: after →
    (∀ m' ∈ after, m'.variableName ≠ m.variableName) → ∃ u value, Extends ambient c v before u ∧
      m.compute ambient before.length u c = .ok value ∧ w.get? m.variableName = some value
  /-- The variables themselves are left as they are. -/
  outer : w.outer = v.scopes

theorem layers_layer (h : layer ms ambient c v = .ok w) : Layers ambient c v ms w where
  kept key hkey := get?_computeAll h hkey
  latest before m after heq hlast := by
    subst heq
    obtain ⟨u, hu, hrest⟩ := computeAll_split h
    obtain ⟨value, hvalue, hafter⟩ := computeAll_cons hrest
    rw [Nat.zero_add] at hvalue
    refine ⟨u, value, extends_computeAll hu, hvalue, ?_⟩
    rw [get?_computeAll hafter hlast, Variables.get?_set, if_pos rfl]
  outer := outer_computeAll h

/-- **Two ways to layer macros** over variables that come to the same: both fail, or both succeed
and every name has the same value. -/
def SameLayers (ambient : Ambient) (c : Converter) (v : Variables) (ms : List Macro) :
    Except Error Variables → Except Error Variables → Prop
  | .ok w, .ok w' => w.Same w' ∧ Layers ambient c v ms w ∧ ∃ scope, w'.outer = scope :: v.scopes
  | .error _, .error _ => True
  | _, _ => False

theorem sameLayers_of_rel {r r' : Except Error Variables}
    (h : Option.Rel Variables.Same r.toOption r'.toOption)
    (hlayers : ∀ w, r = .ok w → Layers ambient c v ms w)
    (houter : ∀ w', r' = .ok w' → ∃ scope, w'.outer = scope :: v.scopes) :
    SameLayers ambient c v ms r r' := by
  cases r with
  | error e =>
    cases r' with
    | error e' => exact trivial
    | ok w' => cases h
  | ok w =>
    cases r' with
    | error e' => cases h
    | ok w' =>
      cases h with
      | some hsame => exact ⟨hsame, hlayers w rfl, houter w' rfl⟩

theorem layerMacros_one (ms : List Macro) (v : Variables) :
    Processor.layerMacros ambient c [.macros ms] v = layer ms ambient c v :=
  bind_pure _

theorem layerMacros_two (ms₁ ms₂ : List Macro) (v : Variables) :
    Processor.layerMacros ambient c [.macros ms₁, .macros ms₂] v = (do
      let u ← layer ms₁ ambient c v
      layer ms₂ ambient c u) :=
  congrArg (layer ms₁ ambient c v >>= ·) (funext (layerMacros_one ms₂))

/-- A scope for the later macros alone does not show in what the names stand for. -/
theorem rel_layer {ms₁ ms₂ : List Macro} (hms : ∀ m ∈ ms₂, m.Closed) (v : Variables) :
    Option.Rel Variables.Same (layer (ms₁ ++ ms₂) ambient c v).toOption
      (layer ms₁ ambient c v >>= fun u => layer ms₂ ambient c u).toOption := by
  rw [layer, computeAll_append, toOption_bind, toOption_bind]
  show Option.Rel Variables.Same (Option.bind (layer ms₁ ambient c v).toOption _) _
  cases (layer ms₁ ambient c v).toOption with
  | none => exact .none
  | some u => exact computeAll_congr hms u.same_child _ 0

/-- **Macros compose.** For all lists of macros without guids and times, all variables and every
converter: one operation with both lists and two operations with one list each both fail, or both
succeed and give every name the same value. This is the value of the last macro of the name among
the variables with the results of all macros before it, or else that of the variables. -/
theorem layers_compose (ambient : Ambient) (c : Converter) (v : Variables) (ms₁ ms₂ : List Macro)
    (h : ∀ m ∈ ms₁ ++ ms₂, m.Closed) : SameLayers ambient c v (ms₁ ++ ms₂)
      (Processor.layerMacros ambient c [.macros (ms₁ ++ ms₂)] v)
      (Processor.layerMacros ambient c [.macros ms₁, .macros ms₂] v) := by
  rw [layerMacros_one, layerMacros_two]
  refine sameLayers_of_rel (rel_layer (fun m hm => h m (List.mem_append_right ms₁ hm)) v)
    (fun w hw => layers_layer hw) fun w' hw' => ?_
  obtain ⟨u, hu, hlast⟩ := bind_eq_ok.1 hw'
  have hu : u.outer = v.scopes := outer_computeAll hu
  have hlast : w'.outer = u.inner :: u.outer := outer_computeAll hlast
  exact ⟨u.inner, by rw [hlast, hu]⟩

/-- A name that a later macro gives another value, and conditions over both, in either dialect. -/
theorem layers_compose_shadowed :
    let ambient : Ambient := ⟨⟨0, 0⟩, fun _ => 0⟩
    let v := Variables.empty.set "name" (.string "Ada")
    let ms₁ : List Macro := [⟨"loud", .casing "name" false⟩,
      ⟨"name", .evaluate "loud == \"ADA\"" "C++"⟩]
    let ms₂ : List Macro := [⟨"loud", .switch "C++2" [⟨some "name && loud == 'ada'", .int 1⟩]⟩]
    (∀ m ∈ ms₁ ++ ms₂, m.Closed) ∧
      SameLayers ambient .standard v (ms₁ ++ ms₂)
        (Processor.layerMacros ambient .standard [.macros (ms₁ ++ ms₂)] v)
        (Processor.layerMacros ambient .standard [.macros ms₁, .macros ms₂] v) ∧
      ((Processor.layerMacros ambient .standard [.macros (ms₁ ++ ms₂)] v).toOption.map
        fun w => (w.value "loud").text) = some "1" := by
  intro ambient v ms₁ ms₂
  have hclosed : ∀ m ∈ ms₁ ++ ms₂, m.Closed := by decide
  exact ⟨hclosed, layers_compose ambient .standard v ms₁ ms₂ hclosed, by decide +kernel⟩

end Macro

end Templating

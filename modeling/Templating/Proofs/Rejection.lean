import Templating.Proofs.Balance

/-!
# Rejected templates

A run whose operations are conditional blocks in strict mode and others that only put a
text in the place of a token. The run is rejected exactly if the markers of its template
are not balanced, whatever the values of its variables are.

* `Stage.Ends.judged`: from every stage on, by the stages that follow.
* `Processor.rejects_iff`: a whole run.
* `Processor.rejects_alike`: two runs with different variables.
-/

namespace Templating

/-! ### Operations that put a text in the place of a token -/

namespace Operation

/-- Whether an operation only writes a text for each of its tokens. -/
def Passive : Operation → Prop
  | replacement _ | expansion _ => True
  | conditional _ | region _ => False

/-- The tokens with the markers that they stand for, if any. -/
def labelled : Operation → List (Bytes × Option Marker)
  | conditional c => c.entries.map fun e => (e.1, some e.2)
  | region r => r.tokens.map (·, none)
  | replacement r => [(r.token, none)]
  | expansion names => names.map (·, none)

variable {o : Operation}

theorem labelled_fst (o : Operation) : o.labelled.map (·.1) = o.tokens := by
  cases o with
  | conditional c =>
    simp only [labelled, tokens, Conditional.tokens, Conditional.entries, List.map_map]
    rfl
  | region r => simp [labelled, tokens, Function.comp_def]
  | replacement r => rfl
  | expansion names => simp [labelled, tokens, Function.comp_def]

theorem Passive.labelled_none (ho : o.Passive) : ∀ e ∈ o.labelled, e.2 = none := by
  intro e he
  cases o with
  | conditional | region => cases ho
  | replacement r =>
    obtain rfl := List.mem_singleton.1 he
    rfl
  | expansion names =>
    obtain ⟨name, -, rfl⟩ := List.mem_map.1 he
    rfl

/-- A labelled token of conditional blocks is a marker. -/
theorem marker?_of_labelled {c : Conditional} {i : Nat} {token : Bytes} {label : Option Marker}
    (h : (conditional c).labelled[i]? = some (token, label)) :
    ∃ kind, label = some kind ∧ c.marker? i = some kind := by
  simp only [labelled, Conditional.entries, List.getElem?_map, Option.map_eq_some_iff] at h
  obtain ⟨e, ⟨m, hmarker, rfl⟩, hpair⟩ := h
  cases hpair
  exact ⟨m.1, rfl, by rw [Conditional.marker?, hmarker]; rfl⟩

/-- Handling a marker runs over the branches of its block. -/
theorem handle_marker {c : Conditional} {token : Nat} {kind : Marker}
    (hkind : c.marker? token = some kind) (ctx : Context) (σ : Session Memory) :
    (conditional c).handle ctx token σ =
      match c.dispatch ctx kind σ with
      | .ok inside σ => .ok (.conditional { c with blocks := inside }, 0) σ
      | .error e σ => .error e σ := by
  simp only [Operation.handle, Conditional.handle, hkind, bind_apply, pure_apply]
  cases c.dispatch ctx kind σ <;> rfl

/-- Handling a token only writes. -/
theorem Passive.handle (ho : o.Passive) (ctx : Context) (token : Nat) (σ : Session Memory) :
    ∃ written target, o.handle ctx token σ = .ok (o, written) ⟨σ.window, target⟩ ∧
      σ.target.toBytes.length ≤ target.toBytes.length := by
  have hwrite : ∀ bytes : Bytes, σ.target.toBytes.length ≤
      (Memory.ofBytes (σ.target.toBytes ++ bytes)).toBytes.length := by
    intro bytes
    rw [Memory.toBytes_ofBytes, List.length_append]
    exact Nat.le_add_right _ _
  cases o with
  | conditional | region => cases ho
  | replacement r =>
    refine ⟨r.text.length, .ofBytes (σ.target.toBytes ++ r.text), ?_, hwrite r.text⟩
    simp only [Operation.handle, Replacement.handle, bind_apply, Session.write_apply, pure_apply]
  | expansion names =>
    by_cases hnull : (ctx.glossary.resolve token).isNull = true
    · refine ⟨0, σ.target, ?_, le_rfl⟩
      simp only [Operation.handle, expandVariable, hnull, if_true, bind_apply, pure_apply]
    · refine ⟨(expansionText ctx.glossary (ctx.glossary.resolve token)).length,
        .ofBytes (σ.target.toBytes ++ expansionText ctx.glossary (ctx.glossary.resolve token)),
        ?_, hwrite _⟩
      simp only [Operation.handle, expandVariable, hnull, bind_apply, Session.write_apply,
        pure_apply, Bool.false_eq_true, if_false]

theorem Passive.finish (ho : o.Passive) : o.finish = .ok () := by
  cases o with
  | conditional | region => cases ho
  | replacement | expansion => rfl

end Operation

/-! ### Stages -/

namespace Stage

/-- What the result of a run says about the markers of its template. -/
def Judges (result : Except Error Bool) (sound : Bool) : Prop :=
  match result with
  | .ok _ => sound = true
  | .error e => e.Blames sound

variable {c : Conditional} {ctx : Context} {others : List Bytes} {text : Bytes}
  {front back : List Operation} {blocks : List Bool}

/-- The operations of a run: one that handles conditional blocks, inside of some, between
others. -/
def around (c : Conditional) (front back : List Operation) (blocks : List Bool) :
    List Operation :=
  front ++ .conditional { c with blocks := blocks } :: back

theorem around_labelled (c : Conditional) (front back : List Operation) (blocks : List Bool) :
    (around c front back blocks).map Operation.tokens =
      ((around c front back []).map Operation.labelled).map (·.map (·.1)) := by
  simp only [around, List.map_append, List.map_cons, List.map_map, Function.comp_def,
    Operation.labelled_fst]
  rfl

theorem around_set (c : Conditional) (front back : List Operation) (blocks blocks' : List Bool) :
    (around c front back blocks).set front.length (.conditional { c with blocks := blocks' }) =
      around c front back blocks' := by
  rw [around, List.set_append_right _ _ le_rfl, Nat.sub_self, List.set_cons_zero, around]

theorem getElem?_around_self (c : Conditional) (front back : List Operation)
    (blocks : List Bool) : (around c front back blocks)[front.length]? =
      some (.conditional { c with blocks := blocks }) := by
  rw [around, List.getElem?_append_right le_rfl, Nat.sub_self, List.getElem?_cons_zero]

theorem getElem?_around_other {i : Nat} (hi : i ≠ front.length) (blocks blocks' : List Bool) :
    (around c front back blocks)[i]? = (around c front back blocks')[i]? := by
  rw [← around_set c front back blocks blocks', List.getElem?_set_ne (Ne.symm hi)]

theorem mem_of_getElem?_around {i : Nat} {o : Operation} (hi : i ≠ front.length)
    (h : (around c front back blocks)[i]? = some o) : o ∈ front ++ back := by
  rcases Nat.lt_or_gt_of_ne hi with hlt | hgt
  · rw [around, List.getElem?_append_left hlt] at h
    exact List.mem_append_left _ (List.mem_of_getElem? h)
  · rw [around, List.getElem?_append_right hgt.le] at h
    obtain ⟨j, hj⟩ : ∃ j, i - front.length = j + 1 := ⟨i - front.length - 1, by omega⟩
    rw [hj, List.getElem?_cons_succ] at h
    exact List.mem_append_right _ (List.mem_of_getElem? h)

/-- **A stage in a clear text**: the markers before it are balanced inside of the blocks that
are open, or they are not. -/
structure Carries (c : Conditional) (ctx : Context) (front back : List Operation) (text : Bytes)
    (sound : Bool) (s : Stage) : Prop where
  inside : ∃ blocks, s.operations = around c front back blocks ∧
    sound = balanced blocks.length (marks c.entries s.rest)
  floor : ctx.floor ≤ s.output.length
  rest : s.rest <:+ text
  markers : places c.entries s.rest <:+ places c.entries text

section Steps

variable (hc : c.Strict ctx) (hclear : c.Clear ctx.glossary others text)
  (hpassive : ∀ o ∈ front ++ back, o.Passive)
  (hothers : ∀ o ∈ front ++ back, ∀ token ∈ o.tokens, token ∈ others)
  {s : Stage} {handler : Handler} {length : Nat} {sound : Bool} {o : Outcome}

/-- The longest match of all tokens at a place, if it is one of a marker. -/
theorem longestMatch?_of_marker (hpassive : ∀ o ∈ front ++ back, o.Passive) {rest token : Bytes}
    {kind : Marker}
    (h : longestMatch? ((around c front back []).map Operation.labelled).flatten rest =
      some (token, some kind)) : longestMatch? c.entries rest = some (token, kind) := by
  have hnone : ∀ os : List Operation, (∀ o ∈ os, o.Passive) →
      (os.map Operation.labelled).flatten.filter (fun e => e.2.isSome) = [] := by
    intro os hos
    rw [List.filter_eq_nil_iff]
    intro e he
    obtain ⟨set, hset, he⟩ := List.mem_flatten.1 he
    obtain ⟨o, ho, rfl⟩ := List.mem_map.1 hset
    rw [(hos o ho).labelled_none e he]
    simp
  have hsome : (c.entries.map fun e => (e.1, some e.2)).filter (fun e => e.2.isSome) =
      c.entries.map fun e => (e.1, some e.2) := by
    rw [List.filter_eq_self]
    intro e he
    obtain ⟨e', -, rfl⟩ := List.mem_map.1 he
    rfl
  have hfilter := longestMatch?_filter (fun e => e.2.isSome) h rfl
  simp only [around, List.map_append, List.map_cons, List.flatten_append, List.flatten_cons,
    List.filter_append, hnone front fun o ho => hpassive o (List.mem_append_left _ ho),
    hnone back fun o ho => hpassive o (List.mem_append_right _ ho), List.nil_append,
    List.append_nil] at hfilter
  have hentries : longestMatch? (c.entries.map fun e => (e.1, some e.2)) rest =
      some (token, some kind) := by
    rw [← hsome]
    exact hfilter
  rw [longestMatch?_mapValue some, Option.map_eq_some_iff] at hentries
  obtain ⟨⟨token', kind'⟩, he, hpair⟩ := hentries
  cases hpair
  exact he

/-- Without a token a byte is copied, and no marker is passed. -/
theorem Carries.copied (h : s.Carries c ctx front back text sound) {b : UInt8} {rest : Bytes}
    (hrest : s.rest = b :: rest)
    (hm : (Dispatch.ofSets ((around c front back []).map Operation.tokens)).match? s.rest = none) :
    ({ s with rest := rest, output := s.output ++ [b] } : Stage).Carries c ctx front back text
      sound := by
  obtain ⟨⟨blocks, hoperations, rfl⟩, hfloor, hsuffix, hmarkers⟩ := h
  have howner := Dispatch.match?_owner ((around c front back []).map Operation.labelled) s.rest
  rw [← around_labelled, hm] at howner
  have hnone : longestMatch? ((around c front back []).map Operation.labelled).flatten s.rest =
      none := by
    cases hlongest : longestMatch? ((around c front back []).map Operation.labelled).flatten
        s.rest with
    | none => rfl
    | some found =>
      rw [hlongest] at howner
      obtain ⟨_, _, hsome, -⟩ := howner
      cases hsome
  have hentries : longestMatch? c.entries s.rest = none := by
    rw [longestMatch?_eq_none] at hnone ⊢
    intro e he
    refine hnone (e.1, some e.2) ?_
    have hlabel : (e.1, some e.2) ∈ (Operation.conditional { c with blocks := [] }).labelled :=
      List.mem_map_of_mem he
    refine List.mem_flatten.2 ⟨_, List.mem_map_of_mem ?_, hlabel⟩
    exact List.mem_append_right _ List.mem_cons_self
  rw [hrest] at hentries hsuffix hmarkers
  have hplaces : places c.entries (b :: rest) = places c.entries rest := places_of_none hentries
  refine ⟨⟨blocks, hoperations, ?_⟩, ?_, ?_, ?_⟩
  · rw [hrest, marks, marks, hplaces]
  · exact hfloor.trans (by rw [List.length_append]; exact Nat.le_add_right _ _)
  · exact (List.suffix_cons b rest).trans hsuffix
  · rwa [hplaces] at hmarkers

include hc hpassive in
/-- The end of the text, where no marker is left. -/
theorem Carries.ended (h : s.Carries c ctx front back text sound) (hrest : s.rest = []) :
    Judges (result s.operations s.modified) sound := by
  obtain ⟨⟨blocks, hoperations, rfl⟩, -, -, -⟩ := h
  have hpassed : ∀ os : List Operation, (∀ o ∈ os, o.Passive) → os.forM Operation.finish =
      .ok () := by
    intro os hos
    induction os with
    | nil => rfl
    | cons o os ih =>
      have hfinish := (hos o List.mem_cons_self).finish
      have hothers := ih fun o' ho' => hos o' (List.mem_cons_of_mem o ho')
      rw [List.forM_eq_forM] at hothers ⊢
      rw [List.forM_cons, hfinish]
      exact hothers
  have hfront := hpassed front fun o ho => hpassive o (List.mem_append_left _ ho)
  have hback := hpassed back fun o ho => hpassive o (List.mem_append_right _ ho)
  have hfinish : RunPlan.finish s.operations =
      (Operation.conditional { c with blocks := blocks }).finish := by
    rw [List.forM_eq_forM] at hfront hback
    rw [hoperations, RunPlan.finish, around, List.forM_eq_forM, List.forM_append, List.forM_cons,
      hfront, hback]
    show ((Operation.conditional { c with blocks := blocks }).finish >>= fun _ => .ok ()) = _
    cases (Operation.conditional { c with blocks := blocks }).finish <;> rfl
  rw [result, hfinish, hrest]
  cases blocks with
  | nil => exact rfl
  | cons taken outer =>
    have hunclosed : (Operation.conditional { c with blocks := taken :: outer }).finish =
        .error (.unbalanced (.unclosed (outer.length + 1))) := by
      simp only [Operation.finish, Conditional.finish, Conditional.unterminated, hc.strict]
      rfl
    rw [hunclosed]
    exact rfl

/-- What handling a token comes to: a stage that carries what the stage before did, or an error
that blames the markers only if they are not balanced. -/
def Keeps (c : Conditional) (ctx : Context) (front back : List Operation) (text : Bytes)
    (sound : Bool) : Except (Error × Bytes) Stage → Prop
  | .ok s => s.Carries c ctx front back text sound
  | .error e => e.1.Blames sound

include hc hclear in
/-- A marker is handled. -/
theorem Carries.handled_marker (h : s.Carries c ctx front back text sound)
    (hself : handler.operation = front.length) {token : Bytes} {kind : Marker}
    (hkind : c.marker? handler.token = some kind)
    (hlongest : longestMatch? c.entries s.rest = some (token, kind)) :
    Keeps c ctx front back text sound (s.handled ctx handler token.length) := by
  obtain ⟨⟨blocks, hoperations, rfl⟩, hfloor, -, hplaces⟩ := h
  obtain ⟨-, -, ⟨more, hmore⟩, -⟩ := longestMatch?_spec hlongest
  have hdrop : s.rest.drop token.length = more := by rw [← hmore, List.drop_left]
  have hplace := places_of_some hlongest
  rw [hdrop] at hplace
  have hmarks : marks c.entries s.rest = kind :: marks c.entries more := by
    rw [marks, hplace]
    rfl
  let c' : Conditional := { c with blocks := blocks }
  have hstrict : c'.Strict ctx := ⟨hc.scans, hc.strict, hc.lawful, hc.glossary⟩
  have hclear' : c'.Clear ctx.glossary others text := ⟨hclear.passed, hclear.apart⟩
  have hkind' : c'.marker? handler.token = some kind := hkind
  have hdispatch := Conditional.ensures_dispatch hstrict hclear' (hplace ▸ hplaces)
    ⟨.whole more, .ofBytes s.output⟩ ⟨Window.at_whole more, hfloor⟩
  simp only [Stage.handled, hoperations, hself, getElem?_around_self, hdrop]
  rw [Operation.handle_marker hkind', hmarks]
  cases hresult : c'.dispatch ctx kind (⟨.whole more, .ofBytes s.output⟩ : Session Memory) with
  | error e σ =>
    rw [hresult] at hdispatch
    exact hdispatch
  | ok inside σ =>
    rw [hresult] at hdispatch
    obtain ⟨rest, ⟨hw, ht⟩, hsuffix, hplaces', hbalanced⟩ := hdispatch
    have hwindow : σ.window.rest = rest := hw.rest_eq
    refine ⟨⟨inside, around_set c front back blocks inside, ?_⟩, ht, ?_, ?_⟩
    · rw [hwindow]
      exact hbalanced
    · rw [hwindow]
      exact hsuffix
    · rw [hwindow]
      exact hplaces'

include hclear hpassive hothers in
/-- A text takes the place of a token of another operation, and no marker is passed. -/
theorem Carries.handled_other (h : s.Carries c ctx front back text sound)
    (hother : handler.operation ≠ front.length) {operation : Operation}
    (hoperation : (around c front back [])[handler.operation]? = some operation) {token : Bytes}
    (htoken : token ∈ operation.tokens) (hne : token ≠ []) (hstarts : token <+: s.rest) :
    Keeps c ctx front back text sound (s.handled ctx handler token.length) := by
  obtain ⟨⟨blocks, hoperations, rfl⟩, hfloor, hrest, hplaces⟩ := h
  obtain ⟨more, hmore⟩ := hstarts
  have hdrop : s.rest.drop token.length = more := by rw [← hmore, List.drop_left]
  have hmem : operation ∈ front ++ back := mem_of_getElem?_around hother hoperation
  rw [getElem?_around_other hother [] blocks] at hoperation
  obtain ⟨written, target, hhandle, hlonger⟩ := (hpassive operation hmem).handle ctx
    handler.token (⟨.whole more, .ofBytes s.output⟩ : Session Memory)
  have hsame : places c.entries more = places c.entries s.rest := by
    rw [← hmore]
    exact hclear.apart token (hothers operation hmem token htoken) hne more (hmore ▸ hrest)
  have hset : (around c front back blocks).set handler.operation operation =
      around c front back blocks := by
    obtain ⟨hi, hget⟩ := List.getElem?_eq_some_iff.1 hoperation
    rw [← hget, List.set_getElem_self]
  have hwindow : (Window.whole more).rest = more := (Window.at_whole more).rest_eq
  simp only [Stage.handled, hoperations, hoperation, hdrop, hhandle, hset]
  refine ⟨⟨blocks, rfl, ?_⟩, ?_, ?_, ?_⟩
  · rw [hwindow, marks, marks, hsame]
  · exact hfloor.trans hlonger
  · rw [hwindow]
    exact (List.suffix_append token more).trans (hmore ▸ hrest)
  · rw [hwindow, hsame]
    exact hplaces

include hc hclear hpassive hothers

/-- **A token is handled**, and the markers that are left are as balanced as before. -/
theorem Carries.handled (h : s.Carries c ctx front back text sound)
    (hm : (Dispatch.ofSets ((around c front back []).map Operation.tokens)).match? s.rest =
      some (handler, length)) :
    Keeps c ctx front back text sound (s.handled ctx handler length) := by
  have howner := Dispatch.match?_owner ((around c front back []).map Operation.labelled) s.rest
  rw [← around_labelled] at howner
  cases hlongest : longestMatch? ((around c front back []).map Operation.labelled).flatten
      s.rest with
  | none =>
    rw [hlongest] at howner
    cases hm.symm.trans howner
  | some found =>
    obtain ⟨token, label⟩ := found
    rw [hlongest] at howner
    obtain ⟨handler', set, hmatch, hset, htoken⟩ := howner
    obtain ⟨rfl, rfl⟩ : handler = handler' ∧ length = token.length := by
      cases hm.symm.trans hmatch
      exact ⟨rfl, rfl⟩
    rw [List.getElem?_map, Option.map_eq_some_iff] at hset
    obtain ⟨operation, hoperation, rfl⟩ := hset
    by_cases hself : handler.operation = front.length
    · rw [hself, getElem?_around_self] at hoperation
      cases hoperation
      obtain ⟨kind, rfl, hkind⟩ := Operation.marker?_of_labelled htoken
      exact h.handled_marker hc hclear hself hkind (longestMatch?_of_marker hpassive hlongest)
    · obtain ⟨-, hne, hstarts, -⟩ := longestMatch?_spec hlongest
      have htoken' : token ∈ operation.tokens := by
        rw [← operation.labelled_fst]
        exact List.mem_map_of_mem (List.mem_of_getElem? htoken)
      exact h.handled_other hclear hpassive hothers hself hoperation htoken' hne hstarts

/-- **From a stage on** a run is rejected exactly if the markers before it are not balanced. -/
theorem Ends.judged
    (h : Ends ctx (Dispatch.ofSets ((around c front back []).map Operation.tokens)) s o) :
    s.Carries c ctx front back text sound → Judges o.1 sound := by
  induction h with
  | @stops s o hnext =>
    intro hs
    unfold next at hnext
    split at hnext
    · rename_i hrest
      cases hnext
      exact hs.ended hc hpassive hrest
    · rename_i b rest hrest
      split at hnext
      · cases hnext
      · rename_i handler length hm
        rw [← hrest] at hm
        have hhandled := hs.handled hc hclear hpassive hothers hm
        split at hnext
        · cases hnext
        · rename_i e output herror
          cases hnext
          rw [herror] at hhandled
          exact hhandled
  | @goesOn s s' o hnext _ ih =>
    intro hs
    refine ih ?_
    unfold next at hnext
    split at hnext
    · cases hnext
    · rename_i b rest hrest
      split at hnext
      · rename_i hm
        rw [← hrest] at hm
        cases hnext
        exact hs.copied hrest hm
      · rename_i handler length hm
        rw [← hrest] at hm
        have hhandled := hs.handled hc hclear hpassive hothers hm
        split at hnext
        · rename_i hok
          cases hnext
          rw [hok] at hhandled
          exact hhandled
        · cases hnext

end Steps

end Stage

/-! ### Runs -/

namespace OperationSettings

/-- Whether an operation only writes a text for each of its tokens, or is over before a run. -/
def Passive : OperationSettings → Prop
  | replacements _ | variableExpansion | macros _ => True
  | conditionals _ | region _ => False

/-- The operation of such settings. -/
def passive? (g : Glossary) : OperationSettings → Option Operation
  | replacements s => some (.replacement (.make s g))
  | variableExpansion => some (.expansion (g.slots.map (·.formatted)))
  | conditionals _ | region _ | macros _ => none

/-- The tokens in whose place it puts a text. -/
def passiveTokens (g : Glossary) (s : OperationSettings) : List Bytes :=
  (s.passive? g).elim [] Operation.tokens

variable {g : Glossary} {conv : Converter}

theorem Passive.materialize {s : OperationSettings} (hs : s.Passive) :
    s.materialize g conv = .ok (s.passive? g) := by
  cases s with
  | conditionals | region => cases hs
  | replacements | variableExpansion | macros => rfl

theorem passive_of_mem {settings : List OperationSettings} {o : Operation}
    (ho : o ∈ settings.filterMap (passive? g)) :
    o.Passive ∧ ∀ token ∈ o.tokens, token ∈ settings.flatMap (passiveTokens g) := by
  obtain ⟨s, hs, ho⟩ := List.mem_filterMap.1 ho
  refine ⟨?_, fun token htoken => List.mem_flatMap.2 ⟨s, hs, ?_⟩⟩
  · cases s <;> cases ho <;> trivial
  · rw [passiveTokens, ho]
    exact htoken

theorem mapM_materialize {settings : List OperationSettings} (h : ∀ s ∈ settings, s.Passive) :
    settings.mapM (·.materialize g conv) = .ok (settings.map (passive? g)) := by
  induction settings with
  | nil => rfl
  | cons s settings ih =>
    have hs : s.materialize g conv = .ok (s.passive? g) := (h s List.mem_cons_self).materialize
    rw [List.mapM_cons, hs, ih fun s' hs' => h s' (List.mem_cons_of_mem s hs')]
    rfl

end OperationSettings

namespace Processor

/-- What all operations with passive settings search the input for. -/
def passiveTokens (p : Processor) (bytes : Bytes) : List Bytes :=
  p.configuration.operations.flatMap (·.passiveTokens (p.glossary bytes))

/-- **A template is clear** for the conditional blocks of some settings: no marker begins in
what handling another one takes with it, nor in a token of another operation. -/
def Clear (p : Processor) (s : ConditionalSettings) (bytes : Bytes) : Prop :=
  ∃ c, Conditional.make s (p.glossary bytes) p.converter = .ok c ∧
    c.Clear (p.glossary bytes) (p.passiveTokens bytes) (bytes.drop (Encoding.detect bytes).2)

/-- A run is rejected because its template is not balanced. -/
def Rejects (p : Processor) (source : Source) : Prop :=
  ∃ cause, (p.run source (Memory.ofBytes [])).1 = .error (.unbalanced cause)

/-- A run fails on an expression. -/
def Misreads (p : Processor) (source : Source) : Prop :=
  ∃ cause, (p.run source (Memory.ofBytes [])).1 = .error (.expression cause)

variable {p p' : Processor} {s : ConditionalSettings} {front back : List OperationSettings}
  {source : Source} {c : Conditional}

/-- The operations of a run: one with blocks, between passive ones. -/
theorem materialize_around {g : Glossary}
    (hops : p.configuration.operations = front ++ .conditionals s :: back)
    (hpassive : ∀ o ∈ front ++ back, o.Passive) (hmake : Conditional.make s g p.converter = .ok c)
    (hblocks : c.blocks = []) :
    p.materialize g =
      .ok (Stage.around c (front.filterMap (·.passive? g)) (back.filterMap (·.passive? g)) []) := by
  have hfront : front.mapM (·.materialize g p.converter) = .ok (front.map (·.passive? g)) :=
    OperationSettings.mapM_materialize fun o ho => hpassive o (List.mem_append_left back ho)
  have hback : back.mapM (·.materialize g p.converter) = .ok (back.map (·.passive? g)) :=
    OperationSettings.mapM_materialize fun o ho => hpassive o (List.mem_append_right front ho)
  have hself : { c with blocks := [] } = c := by rw [← hblocks]
  have hown : (OperationSettings.conditionals s).materialize g p.converter =
      .ok (some (.conditional c)) := OperationSettings.materialize_conditionals hmake
  rw [materialize, hops, List.mapM_append, List.mapM_cons, hfront, hback, hown, Stage.around,
    hself]
  show Except.ok ((front.map (·.passive? g) ++ some (Operation.conditional c) ::
    back.map (·.passive? g)).filterMap id) = _
  simp only [List.filterMap_append, List.filterMap_cons, id, List.filterMap_map]
  rfl

theorem passive_around {bytes : Bytes}
    (hops : p.configuration.operations = front ++ .conditionals s :: back) {o : Operation}
    (ho : o ∈ front.filterMap (·.passive? (p.glossary bytes)) ++
      back.filterMap (·.passive? (p.glossary bytes))) :
    o.Passive ∧ ∀ token ∈ o.tokens, token ∈ p.passiveTokens bytes := by
  rw [← List.filterMap_append] at ho
  obtain ⟨hpassive, htokens⟩ := OperationSettings.passive_of_mem ho
  refine ⟨hpassive, fun token htoken => ?_⟩
  obtain ⟨settings, hmem, htoken⟩ := List.mem_flatMap.1 (htokens token htoken)
  refine List.mem_flatMap.2 ⟨settings, ?_, htoken⟩
  rw [hops]
  rcases List.mem_append.1 hmem with hmem | hmem
  · exact List.mem_append_left _ hmem
  · exact List.mem_append_right _ (List.mem_cons_of_mem _ hmem)

/-- **What a run says about the markers** of a clear template. -/
theorem judges_run (hops : p.configuration.operations = front ++ .conditionals s :: back)
    (hpassive : ∀ o ∈ front ++ back, o.Passive) (hstrict : s.strict = true)
    (hsource : source.fails = false) (hclear : p.Clear s source.unread.bytes) :
    Stage.Judges (p.run source (Memory.ofBytes [])).1
      (balanced 0 (marks (s.tokens (Encoding.detect source.unread.bytes).1)
        (source.unread.bytes.drop (Encoding.detect source.unread.bytes).2))) := by
  obtain ⟨c, hmake, hclear⟩ := hclear
  obtain ⟨dialect, hdialect, -⟩ := Conditional.make_ok hmake
  obtain ⟨c', hmake', hscans, hblocks, hentries, hevaluator, -, hstrict'⟩ :=
    Conditional.exists_make (p.glossary source.unread.bytes) p.converter hdialect
  cases hmake.symm.trans hmake'
  have hc : c.Strict (p.context source.unread.bytes) := by
    refine ⟨hscans, hstrict'.trans hstrict, ?_, _, _, _, rfl⟩
    rw [hevaluator]
    exact TokenTable.lawful_ofList _
  have hmaterialize := materialize_around hops hpassive hmake hblocks
  have htokens : c.entries = s.tokens (Encoding.detect source.unread.bytes).1 := hentries
  rw [← htokens]
  have hruns := runs_run (p := p) source hsource
  generalize houtcome : ((p.run source (Memory.ofBytes [])).1,
    (p.run source (Memory.ofBytes [])).2.toBytes) = outcome at hruns
  have hresult : (p.run source (Memory.ofBytes [])).1 = outcome.1 := congrArg Prod.fst houtcome
  rw [hresult]
  cases hruns with
  | rejected hm => cases hmaterialize.symm.trans hm
  | ran hm hends =>
    cases hmaterialize.symm.trans hm
    refine hends.judged hc hclear (fun o ho => (passive_around hops ho).1)
      (fun o ho => (passive_around hops ho).2) ⟨⟨[], rfl, rfl⟩, ?_, List.suffix_refl _,
        List.suffix_refl _⟩
    show (Encoding.detect source.unread.bytes).2 ≤ _
    rw [List.length_take, Nat.min_eq_left (Encoding.detect_le _)]

/-- **A run is rejected exactly if its markers are not balanced**, where its template is clear
and no expression fails. -/
theorem rejects_iff (hops : p.configuration.operations = front ++ .conditionals s :: back)
    (hpassive : ∀ o ∈ front ++ back, o.Passive) (hstrict : s.strict = true)
    (hsource : source.fails = false) (hclear : p.Clear s source.unread.bytes)
    (hread : ¬ p.Misreads source) :
    p.Rejects source ↔ balanced 0 (marks (s.tokens (Encoding.detect source.unread.bytes).1)
      (source.unread.bytes.drop (Encoding.detect source.unread.bytes).2)) = false := by
  have hjudges := judges_run hops hpassive hstrict hsource hclear
  constructor
  · rintro ⟨cause, hcause⟩
    rw [hcause] at hjudges
    exact hjudges
  · intro hunbalanced
    rw [hunbalanced] at hjudges
    unfold Rejects
    cases hresult : (p.run source (Memory.ofBytes [])).1 with
    | ok modified =>
      rw [hresult] at hjudges
      cases hjudges
    | error e =>
      cases e with
      | unbalanced cause => exact ⟨cause, rfl⟩
      | expression cause => exact absurd ⟨cause, hresult⟩ hread
      | io | config =>
        rw [hresult] at hjudges
        cases hjudges

/-- **Balance does not depend on values.** Take a valid configuration with conditional blocks
in strict mode, whose other operations put texts in the place of tokens or are macros. Two runs
with different variables over an input that is clear for both, of which none fails on an
expression, are both rejected or none of them is. -/
theorem rejects_alike (c : Configuration)
    (hops : c.operations = front ++ .conditionals s :: back)
    (hpassive : ∀ o ∈ front ++ back, o.Passive) (hstrict : s.strict = true)
    (v v' : Variables) (conv : Converter) (ambient ambient' : Ambient)
    (hp : make c v conv ambient = .ok p) (hp' : make c v' conv ambient' = .ok p')
    (hsource : source.fails = false) (hclear : p.Clear s source.unread.bytes)
    (hclear' : p'.Clear s source.unread.bytes) (hread : ¬ p.Misreads source)
    (hread' : ¬ p'.Misreads source) : p.Rejects source ↔ p'.Rejects source := by
  have hconfiguration : ∀ {v : Variables} {ambient : Ambient} {p : Processor},
      make c v conv ambient = .ok p → p.configuration = c := by
    intro v ambient p hp
    unfold make at hp
    cases hvalid : c.validate with
    | error e =>
      rw [hvalid] at hp
      cases hp
    | ok _ =>
      cases hlayer : layerMacros ambient conv c.operations v with
      | error e =>
        rw [hvalid, hlayer] at hp
        cases hp
      | ok bindings =>
        rw [hvalid, hlayer] at hp
        cases hp
        rfl
  have hops₁ := (congrArg Configuration.operations (hconfiguration hp)).trans hops
  have hops₂ := (congrArg Configuration.operations (hconfiguration hp')).trans hops
  rw [rejects_iff hops₁ hpassive hstrict hsource hclear hread,
    rejects_iff hops₂ hpassive hstrict hsource hclear' hread']

/-- Blocks by whole lines in strict mode. -/
def strictBlocks : ConditionalSettings :=
  ⟨["#if"], ["#elif"], ["#else"], ["#endif"], true, false, "C++", [], true⟩

/-- A configuration with these blocks and a replacement. -/
def strictMarkup : Configuration :=
  ⟨Configuration.defaultFormat, [.replacements ⟨"x", "y"⟩, .conditionals strictBlocks], 1, 1⟩

/-- Its processor for one variable, which is a flag. -/
def flagged (flag : Bool) : Processor :=
  ⟨strictMarkup, .ofList [("A", .bool flag)], .standard⟩

theorem make_flagged (flag : Bool) :
    make strictMarkup (.ofList [("A", .bool flag)]) .standard ⟨⟨0, 0⟩, fun _ => 0⟩ =
      .ok (flagged flag) := rfl

/-- Two blocks that open and one that closes. -/
def unclosed : Source := .ofBytes (Encoding.utf8.encode "x\n#if A\n#if A\nx\n#else\n#endif\n")

theorem rejects_alike_unclosed :
    (flagged true).Rejects unclosed ↔ (flagged false).Rejects unclosed := by
  have hread : ∀ flag, ¬ (flagged flag).Misreads unclosed := by
    rintro flag ⟨cause, hcause⟩
    have hrun : ((flagged flag).run unclosed (Memory.ofBytes [])).1 =
        .error (.unbalanced (.unclosed 1)) := by
      cases flag <;> decide +kernel
    rw [hrun] at hcause
    cases hcause
  have hclear : ∀ flag, (flagged flag).Clear strictBlocks unclosed.unread.bytes := by
    intro flag
    refine ⟨_, rfl, ?_⟩
    cases flag <;> decide +kernel
  have hpassive : ∀ o ∈ [OperationSettings.replacements ⟨"x", "y"⟩] ++ [], o.Passive := by
    simp [OperationSettings.Passive]
  exact rejects_alike strictMarkup rfl hpassive rfl _ _ _ _ _ (make_flagged true)
    (make_flagged false) rfl (hclear true) (hclear false) (hread true) (hread false)

/-- A marker in the condition of a block, which ends the outer block too early if that goes
away. -/
def quotedMarker : Source :=
  .ofBytes (Encoding.utf8.encode "#if A\n#if \"#endif\" != \"\"\n#endif\n#endif\n")

/-- **A marker in a condition may break the balance** of a template that is balanced where the
condition is read. -/
theorem not_rejects_alike_quoted :
    ¬ ∀ (c : Configuration) (front back : List OperationSettings) (s : ConditionalSettings)
      (v v' : Variables) (conv : Converter) (ambient : Ambient) (p p' : Processor)
      (source : Source), c.operations = front ++ .conditionals s :: back → s.strict = true →
      v.keys = v'.keys → make c v conv ambient = .ok p → make c v' conv ambient = .ok p' →
      source.fails = false → ¬ p.Misreads source → ¬ p'.Misreads source →
      (p.Rejects source ↔ p'.Rejects source) := by
  intro halike
  have hstays : ((flagged true).run quotedMarker (Memory.ofBytes [])).1 = .ok true := by
    decide +kernel
  have hleaves : ((flagged false).run quotedMarker (Memory.ofBytes [])).1 =
      .error (.unbalanced (.orphan .closing)) := by decide +kernel
  have hread : ¬ (flagged true).Misreads quotedMarker := by
    rintro ⟨cause, hcause⟩
    rw [hstays] at hcause
    cases hcause
  have hread' : ¬ (flagged false).Misreads quotedMarker := by
    rintro ⟨cause, hcause⟩
    rw [hleaves] at hcause
    cases hcause
  have hsame := halike strictMarkup [.replacements ⟨"x", "y"⟩] [] strictBlocks
    (.ofList [("A", .bool true)]) (.ofList [("A", .bool false)]) _ _ _ _ quotedMarker rfl rfl rfl
    (make_flagged true) (make_flagged false) rfl hread hread'
  obtain ⟨cause, hcause⟩ := hsame.2 ⟨_, hleaves⟩
  rw [hstays] at hcause
  cases hcause

end Processor

end Templating

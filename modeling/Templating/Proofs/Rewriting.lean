import Templating.Proofs.Processing
import Templating.Proofs.Validity

/-!
# Replacements and expansions rewrite their input

Where all operations put a text in the place of a token, a run is a rewriting of the
input from left to right: the longest token at a place goes, its text comes, and the
text is not looked at again.

* `rewritten`: this rewriting, by recursion on what is left of the input.
* `OperationSettings.rules`: the tokens of an operation with their texts.
* `Processor.run_rewrites`: a run gives the byte-order mark and the rewritten rest.
-/

namespace Templating

/-- A token and the text that takes its place. -/
abbrev Rule := Bytes × Bytes

/-- **Leftmost-longest rewriting**, with whether any rule has been used. Of two rules with the
same token the later one counts, and no rule has an empty token. -/
def rewritten (rules : List Rule) (bytes : Bytes) : Bytes × Bool :=
  match bytes with
  | [] => ([], false)
  | b :: rest =>
    match h : longestMatch? rules (b :: rest) with
    | some (token, text) =>
      have : 0 < token.length := List.length_pos_iff.2 (longestMatch?_spec h).2.1
      (text ++ (rewritten rules ((b :: rest).drop token.length)).1, true)
    | none => (b :: (rewritten rules rest).1, (rewritten rules rest).2)
  termination_by bytes.length

theorem rewritten_nil (rules : List Rule) : rewritten rules [] = ([], false) := by rw [rewritten]

theorem rewritten_of_match {rules : List Rule} {bytes token text : Bytes}
    (h : longestMatch? rules bytes = some (token, text)) :
    rewritten rules bytes = (text ++ (rewritten rules (bytes.drop token.length)).1, true) := by
  cases bytes with
  | nil =>
    have := (longestMatch?_spec h).2
    exact absurd (List.prefix_nil.1 this.2.1) this.1
  | cons b rest =>
    rw [rewritten]
    split
    · rename_i h'
      cases h.symm.trans h'
      rfl
    · rename_i h'
      cases h.symm.trans h'

theorem rewritten_of_no_match {rules : List Rule} {b : UInt8} {rest : Bytes}
    (h : longestMatch? rules (b :: rest) = none) :
    rewritten rules (b :: rest) = (b :: (rewritten rules rest).1, (rewritten rules rest).2) := by
  rw [rewritten]
  split
  · rename_i h'
    cases h.symm.trans h'
  · rfl

namespace OperationSettings

/-- Whether an operation is a replacement or the expansion of variables. -/
def rewrites : OperationSettings → Bool
  | replacements _ | variableExpansion => true
  | conditionals _ | region _ | macros _ => false

theorem kind_ne_macros {s : OperationSettings} (h : s.rewrites = true) : s.kind ≠ .macros := by
  cases s with
  | macros ms => cases h
  | _ => exact nofun

/-- **The rules of an operation**: its token with its replacement, or the names of all visible
variables with the texts of their values; null has an empty text. -/
def rules (g : Glossary) : OperationSettings → List Rule
  | replacements s => [(g.encoding.encode s.token, g.encoding.encode s.replacement)]
  | variableExpansion => g.slots.map fun slot =>
      (slot.formatted, if slot.value.isNull then [] else g.encoding.encode slot.value.text)
  | conditionals _ | region _ | macros _ => []

end OperationSettings

namespace Configuration

/-- The rules of all operations, in the order of registration. -/
def rules (c : Configuration) (e : Encoding) (v : Variables) : List Rule :=
  c.operations.flatMap (·.rules (.make e v c.variableFormat))

/-- What a run over given bytes leaves where all operations rewrite: the byte-order mark and
the rest rewritten in the encoding that the mark announces. -/
def rewriting (c : Configuration) (v : Variables) (bytes : Bytes) : Bytes × Bool :=
  let (e, mark) := Encoding.detect bytes
  let (output, used) := rewritten (c.rules e v) (bytes.drop mark)
  (bytes.take mark ++ output, used)

end Configuration

namespace Operation

/-- An operation that only writes, for each of its tokens, the text of a rule. -/
structure Writes (ctx : Context) (o : Operation) (rules : List Rule) : Prop where
  tokens : o.tokens = rules.map (·.1)
  handle : ∀ {token : Nat} {rule : Rule} (σ : Session Memory), rules[token]? = some rule →
    ∃ written, o.handle ctx token σ =
      .ok (o, written) ⟨σ.window, .ofBytes (σ.target.toBytes ++ rule.2)⟩
  finish : o.finish = .ok ()

theorem writes_of_materialize {s : OperationSettings} (ctx : Context) (conv : Converter)
    (hs : s.rewrites = true) : ∃ o, s.materialize ctx.glossary conv = .ok (some o) ∧
      Writes ctx o (s.rules ctx.glossary) := by
  cases s with
  | replacements s =>
    refine ⟨_, rfl, rfl, ?_, rfl⟩
    intro token rule σ hrule
    obtain ⟨-, rfl⟩ : token = 0 ∧ _ = rule := by
      cases token with
      | zero => exact ⟨rfl, Option.some.inj hrule⟩
      | succ _ => cases hrule
    refine ⟨(ctx.glossary.encoding.encode s.replacement).length, ?_⟩
    simp only [Operation.handle, Replacement.handle, Replacement.make, bind_apply,
      Session.write_apply, pure_apply]
  | variableExpansion =>
    refine ⟨_, rfl, ?_, ?_, rfl⟩
    · simp only [Operation.tokens, OperationSettings.rules, List.map_map]
      rfl
    · intro token rule σ hrule
      simp only [OperationSettings.rules, List.getElem?_map, Option.map_eq_some_iff] at hrule
      obtain ⟨slot, hslot, rfl⟩ := hrule
      have hvalue : ctx.glossary.resolve token = slot.value := by
        simp only [Glossary.resolve, hslot]
      simp only [Operation.handle, bind_apply, expandVariable, if_apply, hvalue, expansionText,
        Session.write_apply, pure_apply]
      by_cases hnull : slot.value.isNull = true
      · refine ⟨0, ?_⟩
        simp only [if_pos hnull, List.append_nil, Memory.ofBytes_toBytes]
      · simp only [if_neg hnull]
        exact ⟨_, rfl⟩
  | conditionals s => cases hs
  | region s => cases hs
  | macros ms => cases hs

end Operation

namespace Stage.Ends

variable {ctx : Context} {operations : List Operation} {sets : List (List Rule)}

theorem tokens_of_writes (h : List.Forall₂ (Operation.Writes ctx) operations sets) :
    operations.map Operation.tokens = sets.map (·.map (·.1)) := by
  induction h with
  | nil => rfl
  | cons ho _ ih => rw [List.map_cons, List.map_cons, ho.tokens, ih]

theorem finish_of_writes (h : List.Forall₂ (Operation.Writes ctx) operations sets) :
    RunPlan.finish operations = .ok () := by
  induction h with
  | nil => rfl
  | cons ho _ ih =>
    simp only [RunPlan.finish, List.forM_eq_forM, List.forM_cons, ho.finish] at ih ⊢
    exact ih

theorem getElem?_of_writes (h : List.Forall₂ (Operation.Writes ctx) operations sets) {i : Nat}
    {rules : List Rule} (hi : sets[i]? = some rules) :
    ∃ o, operations[i]? = some o ∧ Operation.Writes ctx o rules := by
  induction h generalizing i with
  | nil => cases hi
  | cons ho _ ih =>
    cases i with
    | zero => cases hi; exact ⟨_, rfl, ho⟩
    | succ i => exact ih hi

/-- The owner of a token writes the text of its rule, and nothing else changes. -/
theorem handled_of_writes (h : List.Forall₂ (Operation.Writes ctx) operations sets)
    {modified : Bool} {rest output : Bytes} {handler : Handler} {rules : List Rule} {rule : Rule}
    (hset : sets[handler.operation]? = some rules) (hrule : rules[handler.token]? = some rule)
    (length : Nat) :
    Stage.handled ctx ⟨operations, modified, rest, output⟩ handler length =
      .ok ⟨operations, true, rest.drop length, output ++ rule.2⟩ := by
  obtain ⟨o, hi, ho⟩ := getElem?_of_writes h hset
  obtain ⟨written, hhandle⟩ := ho.handle ⟨.whole (rest.drop length), .ofBytes output⟩ hrule
  simp only [Stage.handled, hi, hhandle, (Window.at_whole _).rest_eq, Memory.toBytes_ofBytes]
  -- the owner puts itself back
  have hsame : operations.set handler.operation o = operations := by
    refine List.ext_getElem? fun j => ?_
    by_cases hj : handler.operation = j
    · rw [hj] at hi ⊢
      rw [List.getElem?_set_self (List.getElem?_eq_some_iff.1 hi).1, hi]
    · rw [List.getElem?_set_ne hj]
  rw [hsame]

/-- **A run of writing operations** rewrites what is left. -/
theorem rewrites (h : List.Forall₂ (Operation.Writes ctx) operations sets) (rest : Bytes) :
    ∀ (modified : Bool) (output : Bytes),
      Stage.Ends ctx (.ofSets (operations.map Operation.tokens))
        ⟨operations, modified, rest, output⟩
        (.ok (modified || (rewritten sets.flatten rest).2),
          output ++ (rewritten sets.flatten rest).1) := by
  induction hn : rest.length using Nat.strong_induction_on generalizing rest with
  | _ n ih =>
    intro modified output
    have howner := Dispatch.match?_owner sets rest
    rw [← tokens_of_writes h] at howner
    cases hm : longestMatch? sets.flatten rest with
    | some rule =>
      obtain ⟨token, text⟩ := rule
      rw [hm] at howner
      obtain ⟨handler, rules, hmatch, hset, hrule⟩ := howner
      obtain ⟨-, hne, hpre, -⟩ := longestMatch?_spec hm
      have hpos : 0 < token.length := List.length_pos_iff.2 hne
      have hle : token.length ≤ rest.length := hpre.length_le
      rw [rewritten_of_match hm, Bool.or_true]
      refine .handled ?_ hmatch (handled_of_writes h hset hrule token.length) ?_
      · rintro rfl
        rw [List.length_nil] at hle
        omega
      · have hrest := ih _ (by rw [List.length_drop]; omega) (rest.drop token.length) rfl true
          (output ++ text)
        rwa [Bool.true_or, List.append_assoc] at hrest
    | none =>
      -- no rule applies, so a byte is copied on both sides
      rw [hm] at howner
      cases rest with
      | nil =>
        rw [rewritten_nil, Bool.or_false, List.append_nil]
        have hresult : Stage.result operations modified = .ok modified := by
          rw [Stage.result, finish_of_writes h]
          rfl
        rw [← hresult]
        exact .ended
      | cons b rest =>
        rw [rewritten_of_no_match hm]
        refine .copied howner ?_
        have hrest := ih rest.length (by rw [← hn, List.length_cons]; omega) rest rfl modified
          (output ++ [b])
        rwa [List.append_assoc] at hrest

end Stage.Ends

namespace Processor

theorem mapM_of_rewrites (ctx : Context) (conv : Converter) :
    ∀ {settings : List OperationSettings}, (∀ s ∈ settings, s.rewrites = true) →
      ∃ operations : List Operation,
        settings.mapM (·.materialize ctx.glossary conv) = .ok (operations.map some) ∧
          List.Forall₂ (Operation.Writes ctx) operations (settings.map (·.rules ctx.glossary))
  | [], _ => ⟨[], rfl, .nil⟩
  | s :: settings, h => by
    obtain ⟨operations, hmade, hwrites⟩ :=
      mapM_of_rewrites ctx conv fun s' hs' => h s' (List.mem_cons_of_mem s hs')
    obtain ⟨o, ho, hwrite⟩ := Operation.writes_of_materialize ctx conv
      (h s List.mem_cons_self)
    refine ⟨o :: operations, ?_, .cons hwrite hwrites⟩
    rw [List.mapM_cons, ho, hmade]
    rfl

/-- **Replacements and expansions rewrite.** For a valid configuration of such operations, all
variables and all inputs, a run succeeds whatever the size of its buffer is. Its output is the
byte-order mark and the leftmost-longest rewriting of the rest, and it tells whether any token
was used. -/
theorem run_rewrites (c : Configuration) (hvalid : c.validate = .ok ())
    (hops : ∀ s ∈ c.operations, s.rewrites = true) (v : Variables) (conv : Converter)
    (ambient : Ambient) (source : Source) (hsource : source.fails = false) :
    (make c v conv ambient).map (·.run source (Memory.ofBytes [])) =
      .ok (.ok (c.rewriting v source.unread.bytes).2,
        Memory.ofBytes (c.rewriting v source.unread.bytes).1) := by
  have hmacros : ∀ s ∈ c.operations, s.kind ≠ .macros :=
    fun s hs => OperationSettings.kind_ne_macros (hops s hs)
  set p : Processor := ⟨c, v, conv⟩
  obtain ⟨operations, hmade, hwrites⟩ :=
    mapM_of_rewrites (p.context source.unread.bytes) conv hops
  have hmaterialize : p.materialize (p.glossary source.unread.bytes) = .ok operations := by
    refine bind_eq_ok.2 ⟨operations.map some, hmade, congrArg Except.ok ?_⟩
    rw [List.filterMap_map, Function.id_comp, List.filterMap_some]
  have hruns : p.Runs source.unread.bytes _ := .ran hmaterialize (Stage.Ends.rewrites hwrites _ _ _)
  rw [(make_plain hmacros).2 ⟨hvalid, rfl⟩]
  refine congrArg Except.ok ((run_eq hsource hruns).trans ?_)
  simp only [Configuration.rewriting, Configuration.rules, List.flatMap_def, Bool.false_or]
  rfl

/-- Tokens that overlap, and a variable whose value is not looked at again. -/
theorem run_rewrites_overlapping :
    Configuration.validate ⟨Configuration.defaultFormat,
        [.replacements ⟨"ab", "x"⟩, .replacements ⟨"abc", "y"⟩, .variableExpansion], 1, 1⟩ =
          .ok () ∧
      (make ⟨Configuration.defaultFormat,
          [.replacements ⟨"ab", "x"⟩, .replacements ⟨"abc", "y"⟩, .variableExpansion], 1, 1⟩
        (.ofList [("n", .string "abab")]) .standard ⟨⟨0, 0⟩, fun _ => 0⟩).map
          (·.run (.ofBytes [97, 98, 99, 97, 98, 110]) (Memory.ofBytes [])) =
        .ok (.ok true, Memory.ofBytes [121, 120, 97, 98, 97, 98]) := by
  have hrewriting : Configuration.rewriting ⟨Configuration.defaultFormat,
      [.replacements ⟨"ab", "x"⟩, .replacements ⟨"abc", "y"⟩, .variableExpansion], 1, 1⟩
      (.ofList [("n", .string "abab")]) [97, 98, 99, 97, 98, 110] =
        ([121, 120, 97, 98, 97, 98], true) := by decide +kernel
  have hrun := run_rewrites ⟨Configuration.defaultFormat,
    [.replacements ⟨"ab", "x"⟩, .replacements ⟨"abc", "y"⟩, .variableExpansion], 1, 1⟩ rfl
    (by decide) (.ofList [("n", .string "abab")]) .standard ⟨⟨0, 0⟩, fun _ => 0⟩
    (.ofBytes [97, 98, 99, 97, 98, 110]) rfl
  simp only [Source.ofBytes, Tape.bytes_ofBytes, hrewriting] at hrun
  exact ⟨rfl, hrun⟩

end Processor

end Templating

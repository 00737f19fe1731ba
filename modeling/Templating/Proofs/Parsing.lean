import Templating.Expression.Arithmetical
import Templating.Expression.Logical
import Templating.Proofs.Reading
import Templating.Proofs.Spine

/-!
# Builders parse

A builder follows the machine of its grammar: after each lexeme its tree is a
spine of the machine's frames and focus (`Builder.Follows`). So it accepts what
the grammar accepts, and the tree says what the grammar's parse says.

* `Logical.build_parses`: the logical vocabulary, from its operators' texts.
* `Vocabulary.build_parses_tiered`: any vocabulary whose unary operators bind tighter
  than its binary ones.
-/

namespace Templating

open Grammar (Stack)

/-- The part of a symbol in the grammar of its vocabulary. -/
def SymbolUse.part : SymbolUse → Part
  | .operator between before => .operator between (before.map (·.1))
  | .openGroup => .opening
  | .closeGroup => .closing
  | .separator | .quote | .lineEnd => .operator none none

namespace Layer

def group? : Layer → Option Nat
  | group id => some id
  | _ => none

/-- The stack of some layers and of the operand at their end. -/
def stack (Ls : List Layer) (focus : Option Shape) : Stack :=
  ⟨Ls.map Layer.frame, focus.map Shape.term⟩

end Layer

variable {b b' : Builder} {high : Nat → Prop} {Ls : List Layer} {focus : Option Shape}
  {s : Shape} {level : Nat}

/-- **A builder follows a spine**, the unary operators of which have levels in `high`.
Its active node is said apart where an operand is complete. -/
structure Builder.Follows (b : Builder) (high : Nat → Prop) (Ls : List Layer)
    (focus : Option Shape) : Prop where
  spine : b.tree.Spine Ls focus
  expects : b.expectOperand = focus.isNone
  groups : b.groups = Ls.filterMap Layer.group?
  active : focus = none → b.active = outer? Ls
  unary : ∀ id op l, .unary id op l ∈ Ls → high l

namespace Builder

theorem follows_start : start.Follows high [] none :=
  ⟨Tree.spine_empty, rfl, rfl, fun _ => rfl, by simp⟩

theorem Follows.spine_descend (h : b.Follows high Ls none) {L : Layer}
    (hid : L.id = b.tree.nodes.size) (hleft : L.left? = none) :
    (b.descend (L.kind none)).tree.Spine (L :: Ls) none := by
  obtain ⟨t, hattach, hpath, hnode⟩ := h.spine.hang (L.kind none)
  have htree : (b.descend (L.kind none)).tree = t := by
    simp [descend, Tree.attach, h.active rfl, hattach]
  rw [← hid] at hpath hnode
  refine htree ▸ ⟨⟨hnode, by simp [hleft], hpath⟩, by simp, ?_⟩
  simpa [layerIds, Layer.ids, hid, hleft] using h.spine.nodup_fresh

theorem Follows.descend_unary (h : b.Follows high Ls none) (op : UnaryOperator)
    (hlevel : high level) :
    (b.descend (.unary op level none)).Follows high
      (.unary b.tree.nodes.size op level :: Ls) none := by
  refine ⟨h.spine_descend (L := .unary b.tree.nodes.size op level) rfl rfl, h.expects, h.groups,
    fun _ => rfl, fun id' op' l' hmem => ?_⟩
  rcases List.mem_cons.1 hmem with heq | hmem
  · cases heq
    exact hlevel
  · exact h.unary id' op' l' hmem

theorem Follows.openGroup (h : b.Follows high Ls none) :
    b.openGroup.Follows high (.group b.tree.nodes.size :: Ls) none := by
  have hgroups : b.openGroup.groups = b.tree.nodes.size :: b.groups := rfl
  refine ⟨h.spine_descend (L := .group b.tree.nodes.size) rfl rfl, h.expects, ?_, fun _ => rfl,
    fun id' op' l' hmem => h.unary id' op' l' (by simpa using hmem)⟩
  simp [hgroups, h.groups, Layer.group?]

/-- A leaf goes where an operand is missing, and is the last complete operand. -/
theorem Follows.attachLeaf (h : b.Follows high Ls none) (o : Operand) :
    ∃ b', b.attachLeaf? o = some (b.tree.nodes.size, b') ∧
      ∀ active, { b' with active := active }.Follows high Ls
        (some (.leaf b.tree.nodes.size o)) := by
  obtain ⟨t, hattach, hpath, hnode⟩ := h.spine.hang (.leaf o)
  refine ⟨{ b with tree := t, expectOperand := false }, ?_, fun active => ?_⟩
  · simp only [attachLeaf?, h.active rfl]
    rw [show b.tree.push (.leaf o) = (b.tree.nodes.size, (b.tree.push (.leaf o)).2) from rfl]
    simp [hattach]
  · refine ⟨⟨hpath, ?_, ?_⟩, rfl, h.groups, by simp, h.unary⟩
    · rintro _ ⟨⟩
      exact hnode
    · simpa [Shape.ids] using h.spine.nodup_fresh

theorem filterMap_complete : (Tree.complete level Ls s).1.filterMap Layer.group? =
    Ls.filterMap Layer.group? := by
  fun_induction Tree.complete level Ls s with
  | case1 | case3 => rfl
  | case2 L Ls s hL ih =>
    cases L with
    | group id => simp [Layer.level?] at hL
    | unary | binary => exact ih

theorem complete_suffix : (Tree.complete level Ls s).1 <:+ Ls := by
  fun_induction Tree.complete level Ls s with
  | case1 | case3 => exact List.suffix_refl _
  | case2 L Ls s hL ih => exact ih.trans (List.suffix_cons L Ls)

/-- Completing layers changes nothing in the builder. -/
theorem Follows.complete (h : b.Follows high Ls (some s)) (level : Nat) :
    b.Follows high (Tree.complete level Ls s).1 (some (Tree.complete level Ls s).2) :=
  ⟨h.spine.complete level, h.expects, h.groups.trans filterMap_complete.symm, by simp,
    fun id op l hmem => h.unary id op l (complete_suffix.subset hmem)⟩

theorem Follows.closeGroup {id : Nat} (h : b.Follows high (.group id :: Ls) (some s)) :
    ∃ b', b.closeGroup? = some b' ∧ b'.active = some id ∧
      b'.Follows high Ls (some (.group id s)) := by
  have hgroups : b.groups = id :: Ls.filterMap Layer.group? := h.groups
  refine ⟨{ b with
    tree := b.tree.closeGroup id, active := some id, groups := Ls.filterMap Layer.group? },
    by simp [closeGroup?, hgroups], rfl, h.spine.closeGroup, h.expects, rfl, by simp, ?_⟩
  exact fun id' op' l' hmem => h.unary id' op' l' (List.mem_cons_of_mem _ hmem)

/-- A spliced-in operator waits for its right operand. -/
theorem Follows.splice (h : b.Follows high Ls (some s)) {op : BinaryOperator} {t : Tree} {id : Nat}
    (ht : t.Spine (.binary id op level (Tree.complete level Ls s).2 ::
      (Tree.complete level Ls s).1) none) :
    { b with tree := t, active := some id, expectOperand := true }.Follows high
      (.binary id op level (Tree.complete level Ls s).2 :: (Tree.complete level Ls s).1) none := by
  refine ⟨ht, rfl, (h.complete level).groups, fun _ => rfl, fun id' op' l' hmem => ?_⟩
  exact (h.complete level).unary id' op' l' (by simpa using hmem)

end Builder

/-! ### Following the machine -/

/-- What follows a machine's result: both fail, or both go on and are related. -/
def Mirrors (R : Builder → Stack → Prop) : Except ExpressionError Builder → Option Stack → Prop
  | .ok b, some σ => R b σ
  | .error _, none => True
  | _, _ => False

/-- **From lexemes to lists of lexemes.** -/
theorem mirrors_foldlM {R : Builder → Stack → Prop} {G : Grammar}
    {add : Builder → Lexeme → Except ExpressionError Builder}
    (hstep : ∀ b σ x, R b σ → Mirrors R (add b x) (G.step σ x)) {σ : Stack} (h : R b σ)
    (xs : List Lexeme) : Mirrors R (xs.foldlM add b) (G.run σ xs) := by
  induction xs generalizing b σ with
  | nil => exact h
  | cons x xs ih =>
    have hx := hstep b σ x h
    rw [List.foldlM_cons, Grammar.run_cons]
    cases hadd : add b x with
    | error err =>
      cases hσ : G.step σ x with
      | none => exact trivial
      | some σ' => simp [hadd, hσ, Mirrors] at hx
    | ok b' =>
      cases hσ : G.step σ x with
      | none => simp [hadd, hσ, Mirrors] at hx
      | some σ' => exact ih (by simpa [hadd, hσ, Mirrors] using hx)

/-- A builder follows a stack, with an active node that `attends` allows for the
layers and the complete operand at their end. -/
def Builder.Reads (attends : List Layer → Shape → Nat → Prop) (high : Nat → Prop)
    (b : Builder) (σ : Stack) : Prop :=
  ∃ Ls focus, b.Follows high Ls focus ∧ σ = Layer.stack Ls focus ∧
    ∀ s, focus = some s → ∃ active, b.active = some active ∧ attends Ls s active

/-- An answer agrees with a parse: there is none, or the tree says it and has its value. -/
def Answers (e? : Option Term) : Except ExpressionError Tree → Prop
  | .ok t => ∃ e, e? = some e ∧ t.isEmpty = false ∧ t.Says t.root e ∧
      ∀ c resolve, t.evaluate c resolve = e.evaluate c resolve
  | .error _ => e? = none

/-- The tree of a builder that has read a whole expression. -/
def Builder.tree? (b : Builder) (unclosed missing : ExpressionError) :
    Except ExpressionError Tree :=
  if !b.groups.isEmpty then throw unclosed
  else if b.expectOperand && !b.tree.isEmpty then throw missing
  else pure b.tree

theorem Layer.finish?_stack (Ls : List Layer) (s : Shape) :
    (Layer.stack Ls (some s)).finish? =
      match (Tree.complete 0 Ls s).1.map Layer.frame with
      | [] => some (Tree.complete 0 Ls s).2.term
      | _ => none := by
  have hreduce : Grammar.reduce 0 (Ls.map Layer.frame) s.term =
      ((Tree.complete 0 Ls s).1.map Layer.frame, (Tree.complete 0 Ls s).2.term) :=
    Tree.reduce_frames fun _ _ l _ => Nat.zero_le l
  simp only [Stack.finish?, Layer.stack, Option.map_some, hreduce]
  split <;> simp_all

/-- **The end of an expression.** -/
theorem Builder.Follows.answers (h : b.Follows high Ls focus)
    (hstart : Layer.stack Ls focus ≠ ⟨[], none⟩) (unclosed missing : ExpressionError) :
    Answers (Layer.stack Ls focus).finish? (b.tree? unclosed missing) := by
  cases focus with
  | none =>
    have hfinish : (Layer.stack Ls none).finish? = none := rfl
    cases Ls with
    | nil => exact absurd rfl hstart
    | cons L Ls =>
      have htree : b.tree.isEmpty = false := by
        simpa [Tree.isEmpty, Option.isNone_eq_false_iff, Option.isSome_iff_ne_none]
          using h.spine.path.root_ne_none
      have hexpects : b.expectOperand = true := h.expects
      rw [hfinish, tree?]
      by_cases hgroups : b.groups.isEmpty <;> simp [hgroups, htree, hexpects, Answers, throw,
        throwThe, MonadExceptOf.throw]
  | some s =>
    have hexpects : b.expectOperand = false := h.expects
    have hcomplete := h.complete 0
    have hfinish := Layer.finish?_stack Ls s
    rcases Tree.complete_zero Ls s with hnil | ⟨id, Ls', hgroup⟩
    · rw [hnil] at hcomplete hfinish
      have hgroups : b.groups = [] := hcomplete.groups
      obtain ⟨hempty, hsays, hvalue⟩ := hcomplete.spine.whole
      simp only [tree?, hgroups, hexpects, List.isEmpty_nil, Bool.not_true, Bool.false_and]
      exact ⟨_, hfinish, hempty, hsays, hvalue⟩
    · rw [hgroup] at hcomplete hfinish
      have hgroups : b.groups = id :: Ls'.filterMap Layer.group? := hcomplete.groups
      simp only [tree?, hgroups, List.isEmpty_cons, Bool.not_false, if_true]
      exact hfinish

variable {attends : List Layer → Shape → Nat → Prop} {G : Grammar}

/-- **A builder that follows its grammar's machine answers with the grammar's parse.** -/
theorem answers_accept {add : Builder → Lexeme → Except ExpressionError Builder}
    (hstep : ∀ b σ x, b.Reads attends high σ →
      Mirrors (Builder.Reads attends high) (add b x) (G.step σ x))
    (unclosed missing : ExpressionError) {xs : List Lexeme} (hxs : xs ≠ []) :
    Answers (G.accept xs) (xs.foldlM add .start >>= (·.tree? unclosed missing)) := by
  have hstart : Builder.start.Reads attends high ⟨[], none⟩ :=
    ⟨[], none, Builder.follows_start, rfl, by simp⟩
  have hfold := mirrors_foldlM hstep hstart xs
  rw [Grammar.accept]
  cases hrun : G.run ⟨[], none⟩ xs with
  | none =>
    cases hadd : xs.foldlM add .start with
    | error err => exact rfl
    | ok b => simp [hrun, hadd, Mirrors] at hfold
  | some σ =>
    cases hadd : xs.foldlM add .start with
    | error err => simp [hrun, hadd, Mirrors] at hfold
    | ok b =>
      rw [hrun, hadd] at hfold
      obtain ⟨Ls, focus, hfollows, rfl, -⟩ := hfold
      refine hfollows.answers (fun heq => hxs ?_) unclosed missing
      exact Grammar.eq_nil_of_run (heq ▸ hrun)

/-- **Answers that agree with the parses of a grammar**: there is one for the
sentences, and it says the only parse. -/
theorem parses_of_answers {build : List Lexeme → Except ExpressionError Tree}
    (hempty : build [] = .ok .empty) (hanswers : ∀ xs, xs ≠ [] → Answers (G.accept xs) (build xs))
    (xs : List Lexeme) :
    ((∃ t, build xs = .ok t) ↔ xs = [] ∨ G.Sentence xs) ∧
    ∀ t, build xs = .ok t → (xs = [] → t.isEmpty = true) ∧
      (xs ≠ [] → t.isEmpty = false ∧ ∃ e, t.Says t.root e ∧ (∀ e', G.Parses 0 xs e' ↔ e' = e) ∧
        ∀ c resolve, t.evaluate c resolve = e.evaluate c resolve) := by
  by_cases hxs : xs = []
  · subst hxs
    refine ⟨by simp [hempty], fun t ht => ⟨fun _ => ?_, fun h => absurd rfl h⟩⟩
    obtain rfl : Tree.empty = t := by simpa [hempty] using ht
    rfl
  · have h := hanswers xs hxs
    have hsentence : G.Sentence xs ↔ ∃ e, G.accept xs = some e := by
      simp only [Grammar.sentence_iff, Grammar.accept_iff]
    cases hbuild : build xs with
    | error err =>
      have hnone : G.accept xs = none := by simpa [hbuild, Answers] using h
      simp [hxs, hsentence, hnone]
    | ok t =>
      rw [hbuild] at h
      obtain ⟨e, haccept, htree, hsays, hvalue⟩ := h
      refine ⟨by simp [hsentence, haccept], fun t' ht' => ⟨fun heq => absurd heq hxs, fun _ => ?_⟩⟩
      cases ht'
      refine ⟨htree, e, hsays, fun e' => ?_, hvalue⟩
      rw [← Grammar.accept_iff, haccept]
      exact ⟨fun heq => (Option.some_inj.1 heq).symm, fun heq => congrArg some heq.symm⟩

/-! ### One lexeme -/

variable {x : Lexeme} {op : BinaryOperator} {between : Option (BinaryOperator × Nat)}
  {before : Option UnaryOperator} {error : ExpressionError} {σ : Stack}

theorem Builder.Follows.reads (h : b.Follows high Ls none) :
    b.Reads attends high (Layer.stack Ls none) :=
  ⟨Ls, none, h, rfl, by simp⟩

theorem step_stack_binary (id : Nat) (hx : G x = .operator (some (op, level)) before)
    (hunary : ∀ id' op' l, .unary id' op' l ∈ Ls → level ≤ l) :
    G.step (Layer.stack Ls (some s)) x = some (Layer.stack
      (.binary id op level (Tree.complete level Ls s).2 :: (Tree.complete level Ls s).1) none) := by
  have hreduce := Tree.reduce_frames (s := s) hunary
  rw [Layer.stack, Option.map_some, Grammar.step_binary hx, hreduce]
  rfl

/-- A group may open where an operand may stand. -/
theorem mirrors_opening (h : b.Reads attends high σ) (hx : G x = .opening) :
    Mirrors (Builder.Reads attends high)
      (if !b.expectOperand then throw error else pure b.openGroup) (G.step σ x) := by
  obtain ⟨Ls, focus, hfollows, rfl, -⟩ := h
  cases focus with
  | some s =>
    have hexpects : b.expectOperand = false := hfollows.expects
    simp [hexpects, Grammar.step, hx, Layer.stack, Mirrors, throw, throwThe, MonadExceptOf.throw]
  | none =>
    have hexpects : b.expectOperand = true := hfollows.expects
    have hstep : G.step (Layer.stack Ls none) x =
        some (Layer.stack (.group b.tree.nodes.size :: Ls) none) := Grammar.step_opening hx
    rw [hexpects, hstep]
    exact hfollows.openGroup.reads

/-- The innermost group closes after a complete operand. -/
theorem mirrors_closing (hattends : ∀ Ls id s, attends Ls (.group id s) id)
    (h : b.Reads attends high σ) (hx : G x = .closing) {error' : ExpressionError} :
    Mirrors (Builder.Reads attends high)
      (if b.expectOperand then throw error
        else match b.closeGroup? with
          | some closed => pure closed
          | none => throw error') (G.step σ x) := by
  obtain ⟨Ls, focus, hfollows, rfl, -⟩ := h
  cases focus with
  | none =>
    have hexpects : b.expectOperand = true := hfollows.expects
    simp [hexpects, Grammar.step, hx, Layer.stack, Mirrors, throw, throwThe, MonadExceptOf.throw]
  | some s =>
    have hexpects : b.expectOperand = false := hfollows.expects
    have hcomplete := hfollows.complete 0
    have hreduce : Grammar.reduce 0 (Ls.map Layer.frame) s.term =
        ((Tree.complete 0 Ls s).1.map Layer.frame, (Tree.complete 0 Ls s).2.term) :=
      Tree.reduce_frames fun _ _ l _ => Nat.zero_le l
    rw [hexpects]
    rcases Tree.complete_zero Ls s with hnil | ⟨id, Ls', hgroup⟩
    · rw [hnil] at hcomplete hreduce
      have hgroups : b.groups = [] := hcomplete.groups
      simp [Builder.closeGroup?, hgroups, Grammar.step, hx, Layer.stack, hreduce, Mirrors, throw,
        throwThe, MonadExceptOf.throw]
    · rw [hgroup] at hcomplete hreduce
      obtain ⟨closed, hclose, hactive, hclosed⟩ := hcomplete.closeGroup
      have hstep : G.step (Layer.stack Ls (some s)) x =
          some (Layer.stack Ls' (some (.group id (Tree.complete 0 Ls s).2))) :=
        Grammar.step_closing hx hreduce
      rw [hstep]
      simp only [hclose]
      refine ⟨Ls', _, hclosed, rfl, ?_⟩
      rintro _ ⟨⟩
      exact ⟨id, hactive, hattends Ls' id _⟩

/-- The symbol of a number is one of the symbols, or stands for nothing. -/
theorem Vocabulary.symbol_cases (v : Vocabulary) (index : Nat) :
    v.symbol index ∈ v.symbols ∨ v.symbol index = ⟨"", .operator none none⟩ := by
  unfold Vocabulary.symbol
  cases hindex : v.symbols[index]? with
  | none => exact .inr rfl
  | some s => exact .inl (List.mem_of_getElem? hindex)

/-! ### The logical vocabulary -/

namespace Logical

/-- What an operator's text means, with its level. -/
def operator : String → Part
  | "||" => .operator (some (.or, 1)) none
  | "^" => .operator (some (.xor, 2)) none
  | "&&" => .operator (some (.and, 3)) none
  | "&" => .operator (some (.bitwiseAnd, 3)) none
  | "|" => .operator (some (.bitwiseOr, 3)) none
  | "<<" => .operator (some (.leftShift, 3)) none
  | ">>" => .operator (some (.rightShift, 3)) none
  | "==" => .operator (some (.equalTo, 4)) none
  | "!=" => .operator (some (.notEqualTo, 4)) none
  | ">" => .operator (some (.greaterThan, 5)) none
  | ">=" => .operator (some (.greaterThanOrEqualTo, 5)) none
  | "<" => .operator (some (.lessThan, 5)) none
  | "<=" => .operator (some (.lessThanOrEqualTo, 5)) none
  | "!" => .operator none (some .not)
  | "(" => .opening
  | ")" => .closing
  | _ => .operator none none

/-- **The grammar of logical conditions.** -/
def grammar : Grammar
  | .symbol index => operator (vocabulary.symbol index).text
  | .reference slot => .operand (.reference slot)
  | .literal text => .operand (.literal (.ofLiteral text))
  | .quoted text => .operand (.literal (.string text))

/-- The levels of unary operators, above those of the binary ones. -/
def Over (level : Nat) : Prop := 6 ≤ level

/-- An operator stands between operands or before one, but not both. -/
def Plain : SymbolUse → Prop
  | .operator (some (_, level)) none => level ≤ 6
  | .operator none (some (_, level)) => Over level
  | .operator (some _) (some _) => False
  | _ => True

theorem plain_symbol (index : Nat) : Plain (vocabulary.symbol index).use := by
  rcases vocabulary.symbol_cases index with hmem | hnone
  · revert hmem
    generalize vocabulary.symbol index = s
    revert s
    simp [vocabulary, Plain, SymbolUse.binary, SymbolUse.unary, Over]
  · rw [hnone]
    trivial

theorem operator_symbol (index : Nat) :
    operator (vocabulary.symbol index).text = (vocabulary.symbol index).use.part := by
  rcases vocabulary.symbol_cases index with hmem | hnone
  · revert hmem
    generalize vocabulary.symbol index = s
    revert s
    simp [vocabulary, operator, SymbolUse.part, SymbolUse.binary, SymbolUse.unary]
  · rw [hnone]
    rfl

/-- The active node is the last complete operand. -/
def Attends (_ : List Layer) (s : Shape) (active : Nat) : Prop := active = s.top

theorem mirrors_operand {o : Operand} (h : b.Reads Attends Over σ) (hx : grammar x = .operand o) :
    Mirrors (Builder.Reads Attends Over) (addOperand b o x) (grammar.step σ x) := by
  obtain ⟨Ls, focus, hfollows, rfl, -⟩ := h
  cases focus with
  | some s =>
    have hexpects : b.expectOperand = false := hfollows.expects
    simp [addOperand, hexpects, Grammar.step, hx, Layer.stack, Mirrors, fail, throw, throwThe,
      MonadExceptOf.throw]
  | none =>
    have hexpects : b.expectOperand = true := hfollows.expects
    obtain ⟨b', hattach, hleaf⟩ := hfollows.attachLeaf o
    have hstep : grammar.step (Layer.stack Ls none) x =
        some (Layer.stack Ls (some (.leaf b.tree.nodes.size o))) := Grammar.step_operand hx
    rw [addOperand, hexpects, hattach, hstep]
    refine ⟨Ls, _, hleaf _, rfl, ?_⟩
    rintro _ ⟨⟩
    exact ⟨_, rfl, rfl⟩

/-- **A binary operator goes above what it takes as its left operand.** -/
theorem mirrors_binary (h : b.Reads Attends Over σ)
    (hx : grammar x = .operator (some (op, level)) none) (hlevel : level ≤ 6) :
    Mirrors (Builder.Reads Attends Over)
      (addSymbol b (.operator (some (op, level)) none) x) (grammar.step σ x) := by
  obtain ⟨Ls, focus, hfollows, rfl, hactive⟩ := h
  cases focus with
  | none =>
    have hexpects : b.expectOperand = true := hfollows.expects
    cases hb : b.active <;>
      simp [addSymbol, hexpects, hb, Grammar.step, hx, Layer.stack, Mirrors, fail, throw, throwThe,
        MonadExceptOf.throw]
  | some s =>
    have hexpects : b.expectOperand = false := hfollows.expects
    obtain ⟨_, hb, rfl⟩ := hactive s rfl
    have hcomplete := hfollows.spine.complete level
    have htree : (addBinary b op level s.top).tree =
        (b.tree.push (.binary op level none none)).2.graft (Tree.complete level Ls s).2.top
          b.tree.nodes.size (Tree.complete level Ls s).1 := by
      simp only [addBinary, hfollows.spine.leftOperand_eq]
      exact (hcomplete.push _).injectAbove_eq _
    rw [step_stack_binary b.tree.nodes.size hx fun id' op' l hmem =>
      Nat.le_trans hlevel (hfollows.unary id' op' l hmem)]
    simp only [addSymbol, hb, hexpects]
    have hspine : (addBinary b op level s.top).tree.Spine (.binary b.tree.nodes.size op level
        (Tree.complete level Ls s).2 :: (Tree.complete level Ls s).1) none :=
      htree ▸ hcomplete.graft op level
    exact (hfollows.splice hspine).reads

theorem mirrors_unary {op : UnaryOperator} (h : b.Reads Attends Over σ)
    (hx : grammar x = .operator none (some op)) (hlevel : Over level) :
    Mirrors (Builder.Reads Attends Over)
      (addSymbol b (.operator none (some (op, level))) x) (grammar.step σ x) := by
  obtain ⟨Ls, focus, hfollows, rfl, -⟩ := h
  cases focus with
  | some s =>
    have hexpects : b.expectOperand = false := hfollows.expects
    simp [addSymbol, hexpects, Grammar.step, hx, Layer.stack, Mirrors, fail, throw, throwThe,
      MonadExceptOf.throw]
  | none =>
    have hexpects : b.expectOperand = true := hfollows.expects
    have hstep : grammar.step (Layer.stack Ls none) x =
        some (Layer.stack (.unary b.tree.nodes.size op level :: Ls) none) := Grammar.step_unary hx
    rw [addSymbol, hexpects, hstep]
    exact (hfollows.descend_unary op hlevel).reads

/-- **One lexeme.** -/
theorem mirrors_add (b : Builder) (σ : Stack) (x : Lexeme) (h : b.Reads Attends Over σ) :
    Mirrors (Builder.Reads Attends Over) (add b x) (grammar.step σ x) := by
  cases x with
  | reference slot => exact mirrors_operand h rfl
  | literal text => exact mirrors_operand h rfl
  | quoted text => exact mirrors_operand h rfl
  | symbol index =>
    have hx : grammar (.symbol index) = (vocabulary.symbol index).use.part := operator_symbol index
    have hplain := plain_symbol index
    rw [add]
    generalize (vocabulary.symbol index).use = use at hx hplain
    match use, hplain with
    | .openGroup, _ => exact mirrors_opening h hx
    | .closeGroup, _ => exact mirrors_closing (fun _ _ _ => rfl) h hx
    | .operator (some (op, level)) none, hlevel => exact mirrors_binary h hx hlevel
    | .operator none (some (op, level)), hlevel => exact mirrors_unary h hx hlevel
    | .operator none none, _ | .separator, _ | .quote, _ | .lineEnd, _ =>
      rw [Grammar.step_nothing hx]
      exact trivial

/-- **Logical conditions are parsed by precedence.** There is a tree for the empty
list and for the sentences, and it says the only parse and has its value. -/
theorem build_parses (lexemes : List Lexeme) :
    ((∃ t, build lexemes = .ok t) ↔ lexemes = [] ∨ grammar.Sentence lexemes) ∧
    ∀ t, build lexemes = .ok t → (lexemes = [] → t.isEmpty = true) ∧
      (lexemes ≠ [] → t.isEmpty = false ∧ ∃ e, t.Says t.root e ∧
        (∀ e', grammar.Parses 0 lexemes e' ↔ e' = e) ∧
        ∀ c resolve, t.evaluate c resolve = e.evaluate c resolve) := by
  refine parses_of_answers rfl (fun xs hxs => ?_) lexemes
  exact answers_accept mirrors_add _ _ hxs

end Logical

/-! ### Any vocabulary -/

namespace SymbolUse

def binaryLevel? : SymbolUse → Option Nat
  | operator (some (_, level)) _ => some level
  | _ => none

def unaryLevel? : SymbolUse → Option Nat
  | operator _ (some (_, level)) => some level
  | _ => none

end SymbolUse

/-- **Splicing by either rule**: the operator waits for its right operand where its
left one was, if the active node is the innermost operator, or else the last
complete operand and no binary operator. -/
theorem Tree.Spine.splice {t : Tree} (h : t.Spine Ls (some s)) {active : Nat}
    (hactive : (∃ L Ls', Ls = L :: Ls' ∧ L.level? ≠ none ∧ active = L.id) ∨
      (active = s.top ∧ s.kind.isBinary = false))
    (hunary : ∀ id op l, .unary id op l ∈ Ls → level < l) (op : BinaryOperator) :
    t.spliceBinary active op level = (t.nodes.size, (t.push (.binary op level none none)).2.graft
      (Tree.complete level Ls s).2.top t.nodes.size (Tree.complete level Ls s).1) := by
  have hpushed := h.push (.binary op level none none)
  have hinject := (hpushed.complete level).injectAbove_eq t.nodes.size
  simp only [spliceBinary, fst_push]
  generalize (t.push (.binary op level none none)).2 = t₁ at hpushed hinject ⊢
  rcases hactive with ⟨L, Ls', rfl, hL, rfl⟩ | ⟨rfl, hkind⟩
  · have hlevel := hpushed.path.level?_id
    cases L with
    | group id => exact absurd rfl hL
    | unary id uop l =>
      -- a unary operator is complete with its operand, before any binary operator
      have hl : level < l := hunary id uop l List.mem_cons_self
      have hbinary : t₁.isBinary id = false := by
        simp [isBinary, show t₁.kind? id = _ from hpushed.path.kind?_id, Layer.kind,
          Node.Kind.isBinary]
      have hdone : Tree.complete level (.unary id uop l :: Ls') s =
          Tree.complete level Ls' (.unary id uop l s) := by
        rw [Tree.complete, if_pos (by simpa [Layer.level?] using Nat.le_of_lt hl)]
        rfl
      have htarget : t₁.leftOperand level id =
          (Tree.complete level Ls' (.unary id uop l s)).2.top := (hpushed.fill hL).leftOperand_eq
      rw [hdone] at hinject
      simp [Layer.id, hbinary, hdone, htarget, hinject]
    | binary id bop l left =>
      have hbinary : t₁.isBinary id = true := by
        simp [isBinary, show t₁.kind? id = _ from hpushed.path.kind?_id, Layer.kind,
          Node.Kind.isBinary]
      have hlevel' : t₁.level? id = some l := hlevel
      by_cases hl : level ≤ l
      · -- it binds at least as tightly, so climbing goes on from it
        have hdone : Tree.complete level (.binary id bop l left :: Ls') s =
            Tree.complete level Ls' (.binary id bop l left s) := by
          rw [Tree.complete, if_pos (by simpa [Layer.level?] using hl)]
          rfl
        have htarget : t₁.leftOperand level id =
            (Tree.complete level Ls' (.binary id bop l left s)).2.top :=
          (hpushed.fill hL).leftOperand_eq
        rw [hdone] at hinject
        simp [Layer.id, hbinary, hlevel', Nat.not_lt.2 hl, hdone, htarget, hinject]
      · -- it binds less tightly, and loses its right operand
        have hdone : Tree.complete level (.binary id bop l left :: Ls') s =
            (.binary id bop l left :: Ls', s) := by
          rw [Tree.complete, if_neg (by simpa [Layer.level?] using hl)]
        simp [Layer.id, hbinary, hlevel', Nat.not_le.1 hl, hdone, hpushed.stealRight_eq]
  · have hbinary : t₁.isBinary s.top = false := by
      simp [isBinary, (hpushed.holds s rfl).kind?_top, hkind]
    simp [hbinary, hpushed.leftOperand_eq, hinject]

namespace Vocabulary

variable {v : Vocabulary} {vars : Variables} {e : Encoding} {format : String}
  {terminators : List String} {lex : Lexicon}

/-- **Unary operators bind tighter than binary ones.** -/
def Tiered (v : Vocabulary) : Prop :=
  ∀ s ∈ v.symbols, ∀ s' ∈ v.symbols, ∀ level ∈ s.use.binaryLevel?,
    ∀ level' ∈ s'.use.unaryLevel?, level < level'

instance (v : Vocabulary) : Decidable v.Tiered :=
  inferInstanceAs (Decidable (∀ s ∈ v.symbols, ∀ s' ∈ v.symbols, ∀ level ∈ s.use.binaryLevel?,
    ∀ level' ∈ s'.use.unaryLevel?, level < level'))

/-- **The grammar of a vocabulary** for some variables. Quoted text stands for a
visible variable of that name, if the vocabulary dereferences, and else for itself. -/
def grammar (v : Vocabulary) (vars : Variables) : Grammar
  | .symbol index => (v.symbol index).use.part
  | .reference slot => .operand (.reference slot)
  | .literal text => .operand (.literal (.ofLiteral text))
  | .quoted text => .operand
      (if v.dereference ∧ text ∈ vars.keys then .reference (vars.keys.idxOf text)
      else .literal (.string text))

/-- The levels of unary operators. -/
def Over (v : Vocabulary) (level : Nat) : Prop :=
  ∃ s ∈ v.symbols, s.use.unaryLevel? = some level

/-- The active node is the operator that an operand was attached to, or else the
last complete operand. -/
def Attends (Ls : List Layer) (s : Shape) (active : Nat) : Prop :=
  (∃ L Ls', Ls = L :: Ls' ∧ L.level? ≠ none ∧ active = L.id) ∨
    (active = s.top ∧ s.kind.isBinary = false)

theorem reference?_eq (text : String) :
    (v.lexicon (.make e vars format) terminators).reference? text =
      if text ∈ vars.keys then some (vars.keys.idxOf text) else none := by
  have hnames : (v.lexicon (.make e vars format) terminators).names = vars.keys :=
    Glossary.names_slots e vars format
  rw [Lexicon.reference?, hnames]
  split
  case isTrue hmem =>
    exact List.findIdx?_eq_some_iff_findIdx_eq.2 ⟨List.idxOf_lt_length_of_mem hmem, rfl⟩
  case isFalse hmem =>
    refine List.findIdx?_eq_none_iff.2 fun name hname => ?_
    simpa using fun heq : name = text => hmem (heq ▸ hname)

theorem quotedOperand_eq (text : String) :
    v.quotedOperand (v.lexicon (.make e vars format) terminators) text =
      if v.dereference ∧ text ∈ vars.keys then .reference (vars.keys.idxOf text)
      else .literal (.string text) := by
  rw [quotedOperand, reference?_eq]
  cases v.dereference <;> by_cases hmem : text ∈ vars.keys <;> simp [hmem]

/-- The slot of a visible name has the variable's value. -/
theorem resolve_idxOf {text : String} (h : text ∈ vars.keys) :
    (Glossary.make e vars format).resolve (vars.keys.idxOf text) = vars.value text := by
  have hkey : vars.keys[vars.keys.idxOf text]? = some text := by
    rw [List.getElem?_eq_getElem (List.idxOf_lt_length_of_mem h), List.getElem_idxOf]
  simp [Glossary.resolve, Glossary.make, List.getElem?_map, hkey, Glossary.slot]

variable {σ : Stack} {x : Lexeme}

theorem mirrors_operand {o : Operand} (h : b.Reads Attends high σ) (hx : G x = .operand o) :
    Mirrors (Builder.Reads Attends high) (addOperand b o x) (G.step σ x) := by
  obtain ⟨Ls, focus, hfollows, rfl, -⟩ := h
  cases focus with
  | some s =>
    have hexpects : b.expectOperand = false := hfollows.expects
    simp [addOperand, hexpects, Grammar.step, hx, Layer.stack, Mirrors, throw, throwThe,
      MonadExceptOf.throw]
  | none =>
    have hexpects : b.expectOperand = true := hfollows.expects
    obtain ⟨b', hattach, hleaf⟩ := hfollows.attachLeaf o
    have hspine : b'.tree.Spine Ls (some (.leaf b.tree.nodes.size o)) := (hleaf none).spine
    have hparent : b'.tree.parent? b.tree.nodes.size = outer? Ls :=
      (hspine.holds _ rfl).parent?_top
    have hstep : G.step (Layer.stack Ls none) x =
        some (Layer.stack Ls (some (.leaf b.tree.nodes.size o))) := Grammar.step_operand hx
    rw [addOperand, hexpects, hattach, hstep]
    refine ⟨Ls, _, hleaf _, rfl, ?_⟩
    rintro _ ⟨⟩
    rw [hparent]
    cases Ls with
    | nil => exact ⟨b.tree.nodes.size, rfl, .inr ⟨rfl, rfl⟩⟩
    | cons L Ls =>
      have hlevel := hspine.path.level?_id
      cases hL : L.level? with
      | none =>
        refine ⟨b.tree.nodes.size, ?_, .inr ⟨rfl, rfl⟩⟩
        simp [outer?, Option.filter, hlevel, hL]
      | some l =>
        refine ⟨L.id, ?_, .inl ⟨L, Ls, rfl, by simp [hL], rfl⟩⟩
        simp [outer?, Option.filter, hlevel, hL]

/-- **An operator is unary where an operand has to come, and binary elsewhere.** -/
theorem mirrors_operator {between : Option (BinaryOperator × Nat)}
    {before : Option (UnaryOperator × Nat)} {text : String} (h : b.Reads Attends high σ)
    (hx : G x = .operator between (before.map (·.1)))
    (hbetween : ∀ op level, between = some (op, level) → ∀ l, high l → level < l)
    (hbefore : ∀ op level, before = some (op, level) → high level) :
    Mirrors (Builder.Reads Attends high) (addOperator b between before text) (G.step σ x) := by
  obtain ⟨Ls, focus, hfollows, rfl, hactive⟩ := h
  cases focus with
  | none =>
    have hexpects : b.expectOperand = true := hfollows.expects
    cases before with
    | none =>
      cases between <;> simp [addOperator, hexpects, Grammar.step, hx, Layer.stack, Mirrors, throw,
        throwThe, MonadExceptOf.throw]
    | some unary =>
      obtain ⟨op, level⟩ := unary
      have hstep : G.step (Layer.stack Ls none) x =
          some (Layer.stack (.unary b.tree.nodes.size op level :: Ls) none) :=
        Grammar.step_unary hx
      simp only [addOperator, hexpects, hstep]
      exact (hfollows.descend_unary op (hbefore op level rfl)).reads
  | some s =>
    have hexpects : b.expectOperand = false := hfollows.expects
    obtain ⟨active, hb, hattends⟩ := hactive s rfl
    cases between with
    | none =>
      cases before <;> simp [addOperator, hexpects, Grammar.step, hx, Layer.stack, Mirrors, throw,
        throwThe, MonadExceptOf.throw]
    | some binary =>
      obtain ⟨op, level⟩ := binary
      have hunary : ∀ id op' l, .unary id op' l ∈ Ls → level < l := fun id op' l hmem =>
        hbetween op level rfl l (hfollows.unary id op' l hmem)
      have hsplice := hfollows.spine.splice hattends hunary op
      rw [step_stack_binary b.tree.nodes.size hx fun id op' l hmem =>
        Nat.le_of_lt (hunary id op' l hmem)]
      simp only [addOperator, hexpects, hb, hsplice]
      exact (hfollows.splice ((hfollows.spine.complete level).graft op level)).reads

/-- **One lexeme.** -/
theorem mirrors_add (hv : v.Tiered) (b : Builder) (σ : Stack) (x : Lexeme)
    (h : b.Reads Attends v.Over σ) :
    Mirrors (Builder.Reads Attends v.Over)
      (v.add (v.lexicon (.make e vars format) terminators) b x) ((v.grammar vars).step σ x) := by
  cases x with
  | reference slot => exact mirrors_operand h rfl
  | literal text => exact mirrors_operand h rfl
  | quoted text =>
    rw [add, quotedOperand_eq]
    exact mirrors_operand h rfl
  | symbol index =>
    have hx : v.grammar vars (.symbol index) = (v.symbol index).use.part := rfl
    have hbetween : ∀ level, (v.symbol index).use.binaryLevel? = some level →
        ∀ l, v.Over l → level < l := by
      rintro level hlevel l ⟨s', hs', hl⟩
      rcases v.symbol_cases index with hmem | hnone
      · exact hv _ hmem s' hs' level hlevel l hl
      · simp [hnone, SymbolUse.binaryLevel?] at hlevel
    have hbefore : ∀ level, (v.symbol index).use.unaryLevel? = some level → v.Over level := by
      intro level hlevel
      rcases v.symbol_cases index with hmem | hnone
      · exact ⟨_, hmem, hlevel⟩
      · simp [hnone, SymbolUse.unaryLevel?] at hlevel
    rw [add, addSymbol]
    generalize (v.symbol index).use = use at hx hbetween hbefore
    cases use with
    | openGroup => exact mirrors_opening h hx
    | closeGroup => exact mirrors_closing (fun _ _ _ => .inr ⟨rfl, rfl⟩) h hx
    | operator between before =>
      refine mirrors_operator h hx ?_ ?_
      · rintro op level rfl
        exact hbetween level rfl
      · rintro op level rfl
        exact hbefore level (by cases between <;> rfl)
    | separator | quote | lineEnd =>
      exact mirrors_operator h hx (by simp) (by simp)

/-- **Conditions are parsed by precedence**, in any vocabulary whose unary operators
bind tighter than its binary ones. There is a tree for the empty list and for the
sentences, and it says the only parse. -/
theorem build_parses_tiered (hv : v.Tiered) (vars : Variables) (e : Encoding) (format : String)
    (terminators : List String) (lexemes : List Lexeme) :
    ((∃ t, v.build (v.lexicon (.make e vars format) terminators) lexemes = .ok t) ↔
      lexemes = [] ∨ (v.grammar vars).Sentence lexemes) ∧
    (∀ t, v.build (v.lexicon (.make e vars format) terminators) lexemes = .ok t →
      (lexemes = [] → t.isEmpty = true) ∧
      (lexemes ≠ [] → t.isEmpty = false ∧ ∃ e, t.Says t.root e ∧
        (∀ e', (v.grammar vars).Parses 0 lexemes e' ↔ e' = e) ∧
        ∀ c resolve, t.evaluate c resolve = e.evaluate c resolve)) ∧
    ∀ text ∈ vars.keys,
      (Glossary.make e vars format).resolve (vars.keys.idxOf text) = vars.value text := by
  refine and_assoc.1 ⟨parses_of_answers rfl (fun xs hxs => ?_) lexemes, fun text => resolve_idxOf⟩
  exact answers_accept (mirrors_add hv) _ _ hxs

/-- `'name' - -2 * x`, where `name` is a variable: `-` is unary after an operator, the
quoted text is the variable, and `*` binds tighter. -/
theorem build_parses_tiered_quoted_name :
    Arithmetical.vocabulary.Tiered ∧
    ∃ t, Arithmetical.vocabulary.build
        (Arithmetical.vocabulary.lexicon
          (.make .utf8 (.ofList [("x", .null), ("name", .null)]) (String.ofList placeholder)) [])
        [.quoted "name", .symbol 14, .symbol 14, .literal "2", .symbol 15, .reference 0] = .ok t ∧
      t.Says t.root (.binary .subtract (.operand (.reference 1))
        (.binary .multiply (.unary .negate (.operand (.literal (.ofLiteral "2"))))
          (.operand (.reference 0)))) := by
  have htiered : Arithmetical.vocabulary.Tiered := by decide
  obtain ⟨hsentence, hparse, -⟩ := build_parses_tiered htiered
    (.ofList [("x", .null), ("name", .null)]) .utf8 (String.ofList placeholder) []
    [.quoted "name", .symbol 14, .symbol 14, .literal "2", .symbol 15, .reference 0]
  have haccept : (Arithmetical.vocabulary.grammar
      (.ofList [("x", .null), ("name", .null)])).Parses 0
      [.quoted "name", .symbol 14, .symbol 14, .literal "2", .symbol 15, .reference 0]
      (.binary .subtract (.operand (.reference 1))
        (.binary .multiply (.unary .negate (.operand (.literal (.ofLiteral "2"))))
          (.operand (.reference 0)))) := Grammar.accept_iff.1 rfl
  obtain ⟨t, ht⟩ := hsentence.2 (.inr (Grammar.sentence_iff.2 ⟨_, haccept⟩))
  obtain ⟨-, e, hsays, hunique, -⟩ := (hparse t ht).2 (by simp)
  exact ⟨htiered, t, ht, (hunique _).1 haccept ▸ hsays⟩

end Vocabulary

end Templating

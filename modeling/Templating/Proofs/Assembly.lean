import Templating.Proofs.Growth
import Templating.Proofs.Parsing

/-!
# Assembling expressions

A builder makes its tree by few moves: it attaches an operand or a node that waits for one, opens
and closes groups, and puts a binary operator above a node or in its right slot. It matters
neither which node an operator is put above nor why. Every move grows the tree by steps, so an
expression that has been read to its end is a full tree.

* `Converter.HasOperands.evaluate`: only a conversion could make a term fail for want of an
  operand.
* `Builder.Move`, `Builder.Sound.move`: the moves, and what they all preserve.
* `Logical.move_add`, `Vocabulary.move_add`: a lexeme is a move.
* `Tree.grown_invariants`: **a tree that grows stays a tree** and loses neither nodes nor the order
  of its leaves, and what is built has all its operands.
-/

namespace Templating

open Relation (ReflTransGen)

/-! ### Errors of terms -/

theorem bind_ne_error {ε α β : Type} {e : ε} {x : Except ε α} {f : α → Except ε β}
    (hx : x ≠ .error e) (hf : ∀ a, f a ≠ .error e) : (x >>= f) ≠ .error e := by
  cases x with
  | error e' => exact fun h => hx (congrArg _ (Except.error.inj h))
  | ok a => exact hf a

namespace Converter

/-- No conversion fails the way a node without an operand does. A caller may bring conversions that
fail in any way. -/
def HasOperands (c : Converter) : Prop :=
  ∀ target conversion v, c.find? target = some conversion → conversion v ≠ .error Tree.missing

theorem hasOperands_standard : standard.HasOperands := by
  intro target conversion v hfind
  cases target <;> cases hfind
  case bool =>
    cases v with
    | string s =>
      simp only [Conversion.toBool]
      split
      · nofun
      · split <;> nofun
    | _ => nofun
  case int =>
    cases v with
    | string s | float x =>
      simp only [Conversion.toInt]
      split <;> nofun
    | _ => nofun
  case float =>
    cases v with
    | string s =>
      simp only [Conversion.toFloat]
      split <;> nofun
    | _ => nofun
  case string => nofun

variable {c : Converter} (h : c.HasOperands) (v : Value)

include h

theorem HasOperands.convert (target : TypeTag) : c.convert v target ≠ .error Tree.missing := by
  unfold Converter.convert
  split
  case h_1 conversion hfind => exact h target conversion v hfind
  case h_2 => nofun

theorem HasOperands.toBool : c.toBool v ≠ .error Tree.missing :=
  bind_ne_error (h.convert v .bool) fun a => by cases a <;> nofun

theorem HasOperands.toInt64 : c.toInt64 v ≠ .error Tree.missing :=
  bind_ne_error (h.convert v .int) fun a => by cases a <;> nofun

theorem HasOperands.toInt32 : c.toInt32 v ≠ .error Tree.missing :=
  bind_ne_error (h.toInt64 v) fun a => by split <;> nofun

theorem HasOperands.toFloat : c.toFloat v ≠ .error Tree.missing :=
  bind_ne_error (h.convert v .float) fun a => by cases a <;> nofun

theorem HasOperands.toText : c.toText v ≠ .error Tree.missing :=
  bind_ne_error (h.convert v .string) fun a => by cases a <;> nofun

theorem HasOperands.arithmetic (integral : Int64 → Int64 → Option Int64)
    (floating : Float → Float → Float) (failure : ArithmeticCause) (a b : Value) :
    BinaryOperator.arithmetic integral floating failure c a b ≠ .error Tree.missing := by
  unfold BinaryOperator.arithmetic
  split
  · refine bind_ne_error (h.toInt64 a) fun i => bind_ne_error (h.toInt64 b) fun j => ?_
    cases integral i j <;> nofun
  · exact bind_ne_error (h.toFloat a) fun x => bind_ne_error (h.toFloat b) fun y => nofun

theorem HasOperands.checkDivisor (a b : Value) :
    BinaryOperator.checkDivisor c a b ≠ .error Tree.missing := by
  unfold BinaryOperator.checkDivisor
  split
  · refine bind_ne_error (h.toInt64 b) fun i => ?_
    split <;> nofun
  · nofun

theorem HasOperands.binary (op : BinaryOperator) (a b : Value) :
    op.apply c a b ≠ .error Tree.missing := by
  cases op with
  | and | or | xor =>
    exact bind_ne_error (h.toBool a) fun x => bind_ne_error (h.toBool b) fun y => nofun
  | equalTo | notEqualTo => nofun
  | lessThan | lessThanOrEqualTo | greaterThan | greaterThanOrEqualTo =>
    exact bind_ne_error (h.toFloat a) fun x => bind_ne_error (h.toFloat b) fun y => nofun
  | bitwiseAnd | bitwiseOr =>
    exact bind_ne_error (h.toInt64 a) fun x => bind_ne_error (h.toInt64 b) fun y => nofun
  | leftShift | rightShift =>
    exact bind_ne_error (h.toInt32 b) fun x => bind_ne_error (h.toInt64 a) fun y => nofun
  | add =>
    show BinaryOperator.sum c a b ≠ _
    unfold BinaryOperator.sum
    split
    · exact bind_ne_error (h.toText a) fun x => bind_ne_error (h.toText b) fun y => nofun
    · exact h.arithmetic _ _ _ a b
  | subtract | multiply => exact h.arithmetic _ _ _ a b
  | divide | remainder =>
    exact bind_ne_error (h.checkDivisor a b) fun _ => h.arithmetic _ _ _ a b

theorem HasOperands.unary (op : UnaryOperator) (a : Value) :
    op.apply c a ≠ .error Tree.missing := by
  unfold UnaryOperator.apply
  split
  · exact bind_ne_error (h.toBool a) fun x => nofun
  · nofun
  · refine bind_ne_error (h.toInt64 a) fun i => ?_
    split <;> nofun

theorem HasOperands.evaluate (resolve : Nat → Value) (e : Term) :
    e.evaluate c resolve ≠ .error Tree.missing := by
  induction e with
  | operand o => cases o <;> nofun
  | unary op e ih => exact bind_ne_error ih fun a => h.unary op a
  | binary op a b iha ihb =>
    exact bind_ne_error iha fun x => bind_ne_error ihb fun y => h.binary op x y

end Converter

/-! ### Complete trees -/

namespace Tree

variable {t : Tree}

/-- **A tree with all its operands**: it has grown, no slot in it is free, it has the value of a
term, and its evaluation never fails for want of an operand. -/
structure Complete (t : Tree) : Prop where
  grown : t.Grown
  full : t.Full
  value : t.isEmpty = false →
    ∃ e, t.Says t.root e ∧ ∀ c resolve, t.evaluate c resolve = e.evaluate c resolve
  operands : ∀ (c : Converter) (resolve : Nat → Value), c.HasOperands →
    t.evaluate c resolve ≠ .error missing

theorem full_of_isEmpty (h : t.isEmpty = true) : t.Full := by
  rintro id kind ⟨r, hr, -⟩
  rw [Option.isNone_iff_eq_none.1 h] at hr
  cases hr

theorem Grown.complete (h : t.Grown) (hfull : t.Full) : t.Complete := by
  have hvalue := h.rooted.exists_term hfull
  refine ⟨h, hfull, hvalue, fun c resolve hc => ?_⟩
  cases hempty : t.isEmpty with
  | true =>
    rw [evaluate, hempty]
    rintro ⟨⟩
  | false =>
    obtain ⟨e, -, heval⟩ := hvalue hempty
    rw [heval]
    exact hc.evaluate resolve e

/-- Climbing stays in the tree. -/
theorem Rooted.reached_leftOperand (h : t.Rooted) (level : Nat) {target : Nat}
    (htarget : t.Reached target) : t.Reached (t.leftOperand level target) :=
  climb_of_parent h.reached_parent level _ htarget

end Tree

/-! ### Moves -/

namespace Builder

/-- **A move**: an operand, an inner node that waits for one or a group is attached where an operand
has to come, and where none has to, a group is closed or a binary operator spliced in, above any
node or in the right slot of any binary one. -/
inductive Move (b : Builder) : Builder → Prop
  | operand {operand : Operand} {id active : Nat} {b' : Builder}
      (hexpect : b.expectOperand = true) (hattach : b.attachLeaf? operand = some (id, b'))
      (hactive : active = id ∨ b'.tree.parent? id = some active) :
      Move b { b' with active := some active }
  | descend {kind : Node.Kind} (hexpect : b.expectOperand = true) (hfree : kind.children = [])
      (hwants : kind.WantsLast) : Move b (b.descend kind)
  | openGroup (hexpect : b.expectOperand = true) : Move b b.openGroup
  | closeGroup {b' : Builder} (hexpect : b.expectOperand = false)
      (hclose : b.closeGroup? = some b') : Move b b'
  | above {op : BinaryOperator} {level target : Nat} (hexpect : b.expectOperand = false)
      (htarget : b.tree.Reached target) :
      Move b { b with
        tree := (b.tree.push (.binary op level none none)).2.injectAbove target b.tree.nodes.size
        active := some b.tree.nodes.size
        expectOperand := true }
  | right {op : BinaryOperator} {level id : Nat} (hexpect : b.expectOperand = false)
      (hid : b.tree.Reached id) (hbinary : b.tree.isBinary id = true) :
      Move b { b with
        tree := (b.tree.push (.binary op level none none)).2.stealRight id b.tree.nodes.size
        active := some b.tree.nodes.size
        expectOperand := true }

/-- **A sound builder**: its tree has grown, its active node and its groups are in the tree, and
the tree waits below the active node for the operand that has to come, or is full. -/
structure Sound (b : Builder) : Prop where
  grown : b.tree.Grown
  active : ∀ id, b.active = some id → b.tree.Reached id
  groups : ∀ id ∈ b.groups, b.tree.Reached id
  waits : b.expectOperand = true → b.tree.Waits b.active
  full : b.expectOperand = false → b.tree.Full

variable {b b' : Builder}

theorem sound_start : start.Sound where
  grown := .refl
  active := nofun
  groups := nofun
  waits _ := ⟨fun _ => rfl, nofun, fun _ _ ⟨_, hr, _⟩ => (nomatch hr)⟩
  full := nofun

namespace Sound

variable (h : b.Sound)

include h

/-- The steps to a tree with a node that is active now. -/
theorem grow {t : Tree} {active : Nat} {expectOperand : Bool}
    (hsteps : ReflTransGen Tree.Step b.tree t) (hactive : t.Reached active)
    (hwaits : expectOperand = true → t.Waits (some active))
    (hfull : expectOperand = false → t.Full) :
    Sound { b with tree := t, active := some active, expectOperand := expectOperand } where
  grown := h.grown.trans hsteps
  active := by
    rintro id ⟨⟩
    exact hactive
  groups id hid := (h.grown.rooted.steps hsteps).2 id (h.groups id hid)
  waits := hwaits
  full := hfull

/-- An inner node is attached, and then waits itself. -/
theorem descend (hexpect : b.expectOperand = true) (kind : Node.Kind)
    (hfree : kind.children = []) (hwants : kind.WantsLast) :
    (b.descend kind).Sound ∧ (b.descend kind).active = some b.tree.nodes.size := by
  obtain ⟨t, hattach, hsteps, hreached, hkind, hrest⟩ :=
    h.grown.rooted.attach_waits kind (h.waits hexpect) h.active hfree
  have heq : b.descend kind =
      { b with tree := t, active := some b.tree.nodes.size, expectOperand := true } := by
    simp only [Builder.descend, Tree.attach, Tree.fst_push, hattach, Option.getD_some, hexpect]
  rw [heq]
  refine ⟨h.grow hsteps hreached (fun _ => ⟨?_, ?_, fun id k hid hne => ?_⟩) (by rintro ⟨⟩), rfl⟩
  · rintro ⟨⟩
  · rintro p k ⟨⟩ hk
    rw [hkind] at hk
    exact Option.some.inj hk ▸ hwants
  · exact hrest id k hid fun heq => hne (congrArg some heq.symm)

theorem openGroup (hexpect : b.expectOperand = true) : b.openGroup.Sound := by
  obtain ⟨hsound, hactive⟩ := h.descend hexpect (.group none false) rfl
    Node.Kind.wantsLast_group
  refine ⟨hsound.grown, hsound.active, fun id hid => ?_, hsound.waits, hsound.full⟩
  rcases List.mem_append.1 hid with hnew | hold
  · exact hsound.active id (Option.mem_toList.1 hnew)
  · exact hsound.groups id hold

theorem closeGroup (hexpect : b.expectOperand = false) (hclose : b.closeGroup? = some b') :
    b'.Sound := by
  unfold Builder.closeGroup? at hclose
  split at hclose
  · cases hclose
  case h_2 group rest hgroups =>
    cases hclose
    have hgroup : b.tree.Reached group := h.groups group (hgroups ▸ List.mem_cons_self)
    refine ⟨h.grown.tail (.closeGroup group), ?_, fun id hid => ?_, fun htrue => ?_,
      fun _ => (h.full hexpect).close group⟩
    · rintro id ⟨⟩
      exact Tree.reached_closeGroup.2 hgroup
    · exact Tree.reached_closeGroup.2 (h.groups id (hgroups ▸ List.mem_cons_of_mem _ hid))
    · exact absurd (htrue.symm.trans hexpect) nofun

/-- An operand always finds its slot. -/
theorem operand (hexpect : b.expectOperand = true) {operand : Operand} {id active : Nat}
    (hattach : b.attachLeaf? operand = some (id, b'))
    (hactive : active = id ∨ b'.tree.parent? id = some active) :
    Sound { b' with active := some active } := by
  obtain ⟨t, ht, hsteps, hreached, hkind, hrest⟩ :=
    h.grown.rooted.attach_waits (.leaf operand) (h.waits hexpect) h.active rfl
  obtain ⟨rfl, rfl⟩ : b.tree.nodes.size = id ∧
      { b with tree := t, expectOperand := false } = b' := by
    simpa only [Builder.attachLeaf?, Tree.fst_push, ht, Option.map_some, Option.some.injEq,
      Prod.mk.injEq] using hattach
  have hrooted := (h.grown.rooted.steps hsteps).1
  refine h.grow hsteps ?_ (by rintro ⟨⟩) fun _ id k hid hk => ?_
  · obtain rfl | hparent := hactive
    · exact hreached
    · exact hrooted.reached_parent hreached hparent
  · by_cases hid' : id = b.tree.nodes.size
    · subst hid'
      rw [hkind] at hk
      exact Option.some.inj hk ▸ Node.Kind.full_leaf
    · exact hrest id k hid hid' hk

/-- Either splice of a new binary node leaves the tree to wait for its right operand. -/
theorem above (hexpect : b.expectOperand = false) (op : BinaryOperator) (level : Nat)
    {target : Nat} (htarget : b.tree.Reached target) : Sound { b with
      tree := (b.tree.push (.binary op level none none)).2.injectAbove target b.tree.nodes.size
      active := some b.tree.nodes.size
      expectOperand := true } := by
  have hrooted := h.grown.rooted
  have hnew := hrooted.detached_push (.binary op level none none) rfl
  have hkind := Tree.kind?_push_self b.tree (.binary op level none none)
  have htarget' := (hrooted.reached_push (.binary op level none none)).2 htarget
  obtain ⟨hwaits, hreached⟩ := (hrooted.push _).injectAbove_waits
    (hrooted.full_push (h.full hexpect) _) htarget' hnew hkind
  refine h.grow ?_ hreached (fun _ => hwaits) nofun
  exact (ReflTransGen.single (.push _)).tail (.injectAbove htarget' hnew hkind)

theorem right (hexpect : b.expectOperand = false) {op : BinaryOperator} {level id : Nat}
    (hid : b.tree.Reached id) (hbinary : b.tree.isBinary id = true) : Sound { b with
      tree := (b.tree.push (.binary op level none none)).2.stealRight id b.tree.nodes.size
      active := some b.tree.nodes.size
      expectOperand := true } := by
  have hrooted := h.grown.rooted
  have hnew := hrooted.detached_push (.binary op level none none) rfl
  have hkind := Tree.kind?_push_self b.tree (.binary op level none none)
  -- a binary node of a full tree has a right operand to give
  obtain ⟨op', level', left, stolen, hid_kind⟩ := (h.full hexpect).exists_right hid hbinary
  have hstolen : b.tree.Reached stolen := hid.child
    (Tree.child_of_slot hid_kind (List.mem_cons_of_mem _ (List.mem_singleton_self _)))
  rw [← hrooted.kind?_push_of_reached hid (.binary op level none none)] at hid_kind
  have hid' := (hrooted.reached_push (.binary op level none none)).2 hid
  have hsound := h.above hexpect op level hstolen
  rw [← (hrooted.push _).stealRight_eq hid' hid_kind] at hsound
  refine ⟨?_, hsound.active, hsound.groups, hsound.waits, hsound.full⟩
  exact (h.grown.tail (.push _)).tail (.stealRight hid' hid_kind hnew hkind)

/-- **Every move keeps a builder sound.** -/
theorem move (hmove : b.Move b') : b'.Sound := by
  cases hmove with
  | operand hexpect hattach hactive => exact h.operand hexpect hattach hactive
  | descend hexpect hfree hwants => exact (h.descend hexpect _ hfree hwants).1
  | openGroup hexpect => exact h.openGroup hexpect
  | closeGroup hexpect hclose => exact h.closeGroup hexpect hclose
  | above hexpect htarget => exact h.above hexpect _ _ htarget
  | right hexpect hid hbinary => exact h.right hexpect hid hbinary

/-- **So does any run of moves.** -/
theorem moves (hmoves : ReflTransGen Move b b') : b'.Sound := by
  induction hmoves with
  | refl => exact h
  | tail _ hmove ih => exact ih.move hmove

/-- The tree of a builder that has read a whole expression. -/
theorem complete {unclosed missing : ExpressionError} {t : Tree}
    (ht : b.tree? unclosed missing = .ok t) : t.Complete := by
  unfold Builder.tree? at ht
  split at ht
  · cases ht
  · split at ht
    · cases ht
    case isFalse hend =>
      cases ht
      refine h.grown.complete ?_
      cases hexpect : b.expectOperand with
      | false => exact h.full hexpect
      | true =>
        rw [hexpect] at hend
        exact Tree.full_of_isEmpty (by simpa using hend)

end Sound

end Builder

/-! ### Both builders -/

variable {b b' : Builder} {lexeme : Lexeme}

namespace Logical

theorem move_addOperand {operand : Operand} (hadd : addOperand b operand lexeme = .ok b') :
    b.Move b' := by
  unfold addOperand at hadd
  split at hadd
  · cases hadd
  case isFalse hexpect =>
    cases hattach : b.attachLeaf? operand with
    | none =>
      rw [hattach] at hadd
      cases hadd
    | some found =>
      rw [hattach] at hadd
      cases hadd
      exact .operand (by simpa using hexpect) hattach (.inl rfl)

theorem move_addSymbol (h : b.Sound) {use : SymbolUse} (hadd : addSymbol b use lexeme = .ok b') :
    b.Move b' := by
  unfold addSymbol at hadd
  split at hadd
  · split at hadd
    · cases hadd
    case isFalse hexpect =>
      cases hadd
      exact .openGroup (by simpa using hexpect)
  · split at hadd
    · cases hadd
    case isFalse hexpect =>
      split at hadd
      case h_1 closed hclose =>
        cases hadd
        exact .closeGroup (by simpa using hexpect) hclose
      case h_2 => cases hadd
  · split at hadd
    · cases hadd
    case isFalse hexpect =>
      cases hadd
      exact .descend (by simpa using hexpect) rfl Node.Kind.wantsLast_unary
  · split at hadd
    case h_1 operand hactive hexpect =>
      cases hadd
      exact .above hexpect (h.grown.rooted.reached_leftOperand _ (h.active operand hactive))
    case h_2 => cases hadd
  · cases hadd

/-- **A lexeme is a move.** -/
theorem move_add (h : b.Sound) (hadd : add b lexeme = .ok b') : b.Move b' := by
  cases lexeme with
  | reference slot => exact move_addOperand hadd
  | literal text => exact move_addOperand hadd
  | quoted text => exact move_addOperand hadd
  | symbol index => exact move_addSymbol h hadd

end Logical

namespace Vocabulary

theorem move_addOperand {operand : Operand} (hadd : addOperand b operand lexeme = .ok b') :
    b.Move b' := by
  unfold addOperand at hadd
  split at hadd
  · cases hadd
  case isFalse hexpect =>
    cases hattach : b.attachLeaf? operand with
    | none =>
      rw [hattach] at hadd
      cases hadd
    | some found =>
      obtain ⟨id, attached⟩ := found
      rw [hattach] at hadd
      cases hadd
      -- the leaf itself is active, or the operator above it
      cases hparent : (attached.tree.parent? id).filter
          fun p => (attached.tree.level? p).isSome with
      | none => exact .operand (by simpa using hexpect) hattach (.inl rfl)
      | some p =>
        exact .operand (by simpa using hexpect) hattach
          (.inr (Option.filter_eq_some_iff.1 hparent).1)

/-- Either way of splicing in a binary operator is a move. -/
theorem move_spliceBinary (h : b.Sound) (hexpect : b.expectOperand = false) {active : Nat}
    (hactive : b.active = some active) (op : BinaryOperator) (level : Nat) :
    b.Move { b with
      tree := (b.tree.spliceBinary active op level).2
      active := some (b.tree.spliceBinary active op level).1
      expectOperand := true } := by
  have hrooted := h.grown.rooted
  have hreached := h.active active hactive
  unfold Tree.spliceBinary
  simp only [Tree.fst_push]
  split
  case isTrue hright =>
    refine .right hexpect hreached ?_
    rw [Tree.isBinary, ← hrooted.kind?_push_of_reached hreached (.binary op level none none)]
    exact (Bool.and_eq_true_iff.1 hright).1
  case isFalse =>
    have hpushed := (hrooted.reached_push (.binary op level none none)).2 hreached
    have htarget := (hrooted.push _).reached_leftOperand level hpushed
    exact .above hexpect ((hrooted.reached_push _).1 htarget)

theorem move_addOperator (h : b.Sound) {between : Option (BinaryOperator × Nat)}
    {before : Option (UnaryOperator × Nat)} {text : String}
    (hadd : addOperator b between before text = .ok b') : b.Move b' := by
  unfold addOperator at hadd
  split at hadd
  case isTrue hexpect =>
    split at hadd
    · cases hadd
      exact .descend hexpect rfl Node.Kind.wantsLast_unary
    · cases hadd
  case isFalse hexpect =>
    split at hadd
    · rename_i active hactive
      obtain rfl := Except.ok.inj hadd
      exact move_spliceBinary h (by simpa using hexpect) hactive _ _
    · cases hadd

theorem move_addSymbol (h : b.Sound) {s : Symbol} (hadd : addSymbol b s = .ok b') :
    b.Move b' := by
  unfold addSymbol at hadd
  split at hadd
  · split at hadd
    · cases hadd
    case isFalse hexpect =>
      cases hadd
      exact .openGroup (by simpa using hexpect)
  · split at hadd
    · cases hadd
    case isFalse hexpect =>
      split at hadd
      case h_1 closed hclose =>
        cases hadd
        exact .closeGroup (by simpa using hexpect) hclose
      case h_2 => cases hadd
  · exact move_addOperator h hadd
  · exact move_addOperator h hadd

/-- **A lexeme is a move**, in any vocabulary. -/
theorem move_add {v : Vocabulary} {lex : Lexicon} (h : b.Sound)
    (hadd : v.add lex b lexeme = .ok b') : b.Move b' := by
  cases lexeme with
  | reference slot => exact move_addOperand hadd
  | literal text => exact move_addOperand hadd
  | quoted text => exact move_addOperand hadd
  | symbol index => exact move_addSymbol h hadd

end Vocabulary

/-- **A builder that adds lexemes by moves** makes moves only. -/
theorem Builder.Sound.moves_foldlM {add : Builder → Lexeme → Except ExpressionError Builder}
    (hmove : ∀ {b b' x}, b.Sound → add b x = .ok b' → b.Move b') {lexemes : List Lexeme}
    (h : b.Sound) (hfold : lexemes.foldlM add b = .ok b') : ReflTransGen Move b b' := by
  induction lexemes generalizing b with
  | nil =>
    cases hfold
    exact .refl
  | cons x lexemes ih =>
    rw [List.foldlM_cons] at hfold
    obtain ⟨b₁, hadd, hrest⟩ := bind_eq_ok.1 hfold
    exact .head (hmove h hadd) (ih (h.move (hmove h hadd)) hrest)

/-! ### What trees that grow keep -/

namespace Tree

/-- The same leaves in the same order. -/
def SameLeaves (t t' : Tree) : Prop := ∀ l, t.Yields t.root l ↔ t'.Yields t'.root l

theorem Rooted.sameLeaves_injectAbove {t : Tree} (h : t.Rooted) {target new level : Nat}
    {op : BinaryOperator} (htarget : t.Reached target) (hnew : t.Detached new)
    (hkind : t.kind? new = some (.binary op level none none)) :
    t.SameLeaves (t.injectAbove target new) := by
  have hgrafts := h.grafts_injectAbove htarget hkind hnew.unreached
  have hkeeps : ∀ l, t.Yields t.root l → Yields _ (t.injectAbove target new).root l := fun l hl =>
    hgrafts.root ▸ hgrafts.yields hl fun id hid => .root hid
  refine fun l => ⟨hkeeps l, fun hl => ?_⟩
  obtain ⟨l', hl'⟩ := h.exists_yields t.root fun id hid => .root hid
  exact (hkeeps l' hl').unique hl ▸ hl'

theorem Rooted.sameLeaves_stealRight {t : Tree} (h : t.Rooted) {id new right level level' : Nat}
    {op op' : BinaryOperator} {left : Option Nat} (hid : t.Reached id)
    (hright : t.kind? id = some (.binary op' level' left (some right))) (hnew : t.Detached new)
    (hkind : t.kind? new = some (.binary op level none none)) :
    t.SameLeaves (t.stealRight id new) := by
  have htarget := hid.child
    (child_of_slot hright (List.mem_cons_of_mem _ (List.mem_singleton_self _)))
  rw [h.stealRight_eq hid hright]
  exact h.sameLeaves_injectAbove htarget hnew hkind

/-- **A tree that grows stays a tree**, loses none of its nodes, and keeps its leaves in their
order when a binary node is spliced in. Both builders make moves only, by which a tree grows, so
that what they build has all its operands. -/
theorem grown_invariants :
    (∀ t : Tree, t.Grown → t.IsTree ∧ ∃! l, t.Yields t.root l) ∧
    (∀ t t' : Tree, t.Grown → ReflTransGen Step t t' → ∀ id, t.Reached id → t'.Reached id) ∧
    (∀ (t : Tree) (target new level : Nat) (op : BinaryOperator), t.Grown → t.Reached target →
      t.Detached new → t.kind? new = some (.binary op level none none) →
      t.SameLeaves (t.injectAbove target new)) ∧
    (∀ (t : Tree) (id new right level level' : Nat) (op op' : BinaryOperator) (left : Option Nat),
      t.Grown → t.Reached id → t.kind? id = some (.binary op' level' left (some right)) →
      t.Detached new → t.kind? new = some (.binary op level none none) →
      t.SameLeaves (t.stealRight id new)) ∧
    (∀ b : Builder, ReflTransGen Builder.Move Builder.start b → b.tree.Grown) ∧
    (∀ lexemes : List Lexeme,
      (∀ b, lexemes.foldlM Logical.add Builder.start = .ok b →
        ReflTransGen Builder.Move Builder.start b) ∧
      ∀ t, Logical.build lexemes = .ok t → t.Complete) ∧
    ∀ (v : Vocabulary) (lex : Lexicon) (lexemes : List Lexeme),
      (∀ b, lexemes.foldlM (v.add lex) Builder.start = .ok b →
        ReflTransGen Builder.Move Builder.start b) ∧
      ∀ t, v.build lex lexemes = .ok t → t.Complete := by
  have hlogical : ∀ {lexemes : List Lexeme} {b : Builder},
      lexemes.foldlM Logical.add Builder.start = .ok b → ReflTransGen Builder.Move .start b :=
    Builder.sound_start.moves_foldlM Logical.move_add
  have hvocabulary : ∀ {v : Vocabulary} {lex : Lexicon} {lexemes : List Lexeme} {b : Builder},
      lexemes.foldlM (v.add lex) Builder.start = .ok b → ReflTransGen Builder.Move .start b :=
    Builder.sound_start.moves_foldlM Vocabulary.move_add
  refine ⟨fun t ht => ⟨ht.rooted.isTree, ?_⟩, fun t t' ht hsteps => (ht.rooted.steps hsteps).2,
    fun t target new level op ht => ht.rooted.sameLeaves_injectAbove,
    fun t id new right level level' op op' left ht => ht.rooted.sameLeaves_stealRight,
    fun b hmoves => (Builder.sound_start.moves hmoves).grown,
    fun lexemes => ⟨fun b => hlogical, fun t ht => ?_⟩,
    fun v lex lexemes => ⟨fun b => hvocabulary, fun t ht => ?_⟩⟩
  · obtain ⟨l, hl⟩ := ht.rooted.exists_yields t.root fun id hid => .root hid
    exact ⟨l, hl, fun l' hl' => hl'.unique hl⟩
  · obtain ⟨b, hfold, hend⟩ := bind_eq_ok.1 ht
    exact (Builder.sound_start.moves (hlogical hfold)).complete hend
  · obtain ⟨b, hfold, hend⟩ := bind_eq_ok.1 ht
    exact (Builder.sound_start.moves (hvocabulary hfold)).complete hend

/-- `!(a || b)` and `a + b * c`, and the two ways to put a product into the sum `a + b`. -/
theorem grown_invariants_product :
    (∃ t, Logical.build [.symbol 3, .symbol 14, .reference 0, .symbol 1, .reference 1,
      .symbol 15] = .ok t ∧ t.root = some 0 ∧ t.Complete) ∧
    (∃ t, Arithmetical.vocabulary.build ⟨.ofList [], [], [], .utf8⟩
      [.reference 0, .symbol 13, .reference 1, .symbol 15, .reference 2] = .ok t ∧
      t.root = some 1 ∧ t.parent? 3 = some 1 ∧ t.Complete ∧
      t.evaluate .standard (fun slot => .int (Int64.ofNat slot)) ≠ .error missing) ∧
    ∃ t : Tree, t.Grown ∧ t.IsTree ∧ t.root = some 1 ∧ t.nodes.size = 4 ∧ t.Reached 2 ∧
      t.SameLeaves (t.injectAbove 2 3) ∧ t.SameLeaves (t.stealRight 1 3) := by
  obtain ⟨htree, hkept, habove, hright, -, hlogical, hvocabulary⟩ := grown_invariants
  have hnegation : Logical.build [.symbol 3, .symbol 14, .reference 0, .symbol 1, .reference 1,
      .symbol 15] = .ok ⟨#[⟨none, .unary .not 6 (some 1)⟩, ⟨some 0, .group (some 3) true⟩,
        ⟨some 3, .leaf (.reference 0)⟩, ⟨some 1, .binary .or 1 (some 2) (some 4)⟩,
        ⟨some 3, .leaf (.reference 1)⟩], some 0⟩ := rfl
  have hproduct : Arithmetical.vocabulary.build ⟨.ofList [], [], [], .utf8⟩
      [.reference 0, .symbol 13, .reference 1, .symbol 15, .reference 2] =
      .ok ⟨#[⟨some 1, .leaf (.reference 0)⟩, ⟨none, .binary .add 9 (some 0) (some 3)⟩,
        ⟨some 3, .leaf (.reference 1)⟩, ⟨some 1, .binary .multiply 10 (some 2) (some 4)⟩,
        ⟨some 3, .leaf (.reference 2)⟩], some 1⟩ := rfl
  have hsum : Arithmetical.vocabulary.build ⟨.ofList [], [], [], .utf8⟩
      [.reference 0, .symbol 13, .reference 1] =
      .ok ⟨#[⟨some 1, .leaf (.reference 0)⟩, ⟨none, .binary .add 9 (some 0) (some 2)⟩,
        ⟨some 1, .leaf (.reference 1)⟩], some 1⟩ := rfl
  have hcomplete := (hvocabulary _ _ _).2 _ hproduct
  refine ⟨⟨_, hnegation, rfl, (hlogical _).2 _ hnegation⟩, ⟨_, hproduct, rfl, rfl, hcomplete,
    hcomplete.operands _ _ Converter.hasOperands_standard⟩, ?_⟩
  have hsum := ((hvocabulary _ _ _).2 _ hsum).grown
  have hpush := Step.push (t := ⟨#[⟨some 1, .leaf (.reference 0)⟩,
    ⟨none, .binary .add 9 (some 0) (some 2)⟩, ⟨some 1, .leaf (.reference 1)⟩], some 1⟩)
    (.binary .multiply 10 none none)
  have hpushed := hsum.tail hpush
  have hone := hkept _ _ hsum (.single hpush) 1 (.root rfl)
  have htwo := hkept _ _ hsum (.single hpush) 2
    ((Reached.root rfl).child (child_of_slot rfl (List.mem_cons_of_mem _ List.mem_cons_self)))
  have hthree := hsum.rooted.detached_push (.binary .multiply 10 none none) rfl
  exact ⟨_, hpushed, (htree _ hpushed).1, rfl, rfl, htwo,
    habove _ 2 3 10 .multiply hpushed htwo hthree rfl,
    hright _ 1 3 2 10 9 .multiply .add (some 0) hpushed hone rfl hthree rfl⟩

end Tree

end Templating

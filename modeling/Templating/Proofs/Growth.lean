import Templating.Proofs.Splicing

/-!
# Growing a tree

A tree under construction grows by steps that bring in one detached node at a time. Whatever the
steps are, it stays a rooted tree and loses no node; once no slot is free any more, it is a term
in an arena, and its value is that of the term.

* `Tree.Step`, `Tree.Grown`: the steps, and the trees that they make of the empty one.
* `Tree.Rooted.step`, `Tree.Rooted.steps`: one step and a whole run keep a tree rooted, with all
  its nodes.
* `Tree.Full`: no slot of a node of the tree is free.
* `Tree.Waits`: one is, the last one of a given node.
* `Tree.Rooted.exists_term`: **a full tree is a term**.
-/

namespace Templating

open Relation (ReflTransGen)

namespace Node.Kind

variable {kind : Node.Kind}

/-- No slot is free. -/
def Full (kind : Node.Kind) : Prop := none ∉ kind.slots

/-- Just the last slot is free: with any one child no slot is. -/
def WantsLast (kind : Node.Kind) : Prop := ∀ c, ∃ kind', kind.bind? c = some kind' ∧ kind'.Full

theorem full_close (h : kind.Full) : kind.close.Full := by
  cases kind <;> exact h

theorem full_rename (f : Nat → Nat) (h : kind.Full) : (kind.rename f).Full := by
  have hslots : (kind.rename f).slots = kind.slots.map (Option.map f) := by cases kind <;> rfl
  intro hmem
  rw [hslots] at hmem
  obtain ⟨slot, hslot, hnone⟩ := List.mem_map.1 hmem
  exact h (Option.map_eq_none_iff.1 hnone ▸ hslot)

theorem full_leaf {operand : Operand} : (leaf operand).Full := List.not_mem_nil

theorem wantsLast_unary {op : UnaryOperator} {level : Nat} : (unary op level none).WantsLast :=
  fun c => ⟨_, rfl, by simp [Full, slots]⟩

theorem wantsLast_group : (group none false).WantsLast :=
  fun c => ⟨_, rfl, by simp [Full, slots]⟩

theorem wantsLast_binary {op : BinaryOperator} {level left : Nat} :
    (binary op level (some left) none).WantsLast :=
  fun c => ⟨_, rfl, by simp [Full, slots]⟩

end Node.Kind

namespace Tree

variable {t t' : Tree} {id p c child target new level : Nat} {parent slot : Option Nat}
  {kind : Node.Kind} {op : BinaryOperator}

/-! ### Steps -/

/-- **A step**: a node is added to the arena, a detached one is brought into the tree, or a group
is closed. What comes above a node or in the right slot of one is a binary node. -/
inductive Step (t : Tree) : Tree → Prop
  | push (kind : Node.Kind) : Step t (t.push kind).2
  | attach {parent : Option Nat} {child : Nat} (hparent : ∀ p, parent = some p → t.Reached p)
      (hchild : t.Detached child) : Step t (t.attach parent child)
  | injectAbove {target new level : Nat} {op : BinaryOperator} (htarget : t.Reached target)
      (hnew : t.Detached new) (hkind : t.kind? new = some (.binary op level none none)) :
      Step t (t.injectAbove target new)
  | stealRight {id new level level' right : Nat} {op op' : BinaryOperator} {left : Option Nat}
      (hid : t.Reached id) (hright : t.kind? id = some (.binary op' level' left (some right)))
      (hnew : t.Detached new) (hkind : t.kind? new = some (.binary op level none none)) :
      Step t (t.stealRight id new)
  | closeGroup (id : Nat) : Step t (t.closeGroup id)

/-- **A tree that has grown** from the empty one, by any steps. -/
def Grown (t : Tree) : Prop := ReflTransGen Step empty t

/-- **A step keeps a tree rooted**, and loses none of its nodes. -/
theorem Rooted.step (h : t.Rooted) (hstep : t.Step t') :
    t'.Rooted ∧ ∀ id, t.Reached id → t'.Reached id := by
  cases hstep with
  | push kind => exact ⟨h.push kind, fun id hid => (h.reached_push kind).2 hid⟩
  | @attach parent child hparent hchild =>
    unfold attach
    cases ht : t.attach? parent child with
    | none => exact ⟨h, fun id hid => hid⟩
    | some t' =>
      obtain ⟨hrooted, hreached⟩ := h.attach? ht hchild hparent
      exact ⟨hrooted, fun id hid => (hreached id).2 (.inl hid)⟩
  | injectAbove htarget hnew hkind =>
    have hgrafts := h.grafts_injectAbove htarget hkind hnew.unreached
    obtain ⟨hrooted, hreached⟩ := hgrafts.rooted h htarget hnew.unreached
    exact ⟨hrooted, fun id hid => (hreached id).2 (.inl hid)⟩
  | @stealRight id new level level' right op op' left hid hright hnew hkind =>
    have htarget : t.Reached right :=
      hid.child (child_of_slot hright (List.mem_cons_of_mem _ (List.mem_singleton_self _)))
    have hgrafts := h.grafts_injectAbove htarget hkind hnew.unreached
    obtain ⟨hrooted, hreached⟩ := hgrafts.rooted h htarget hnew.unreached
    rw [h.stealRight_eq hid hright]
    exact ⟨hrooted, fun id hid => (hreached id).2 (.inl hid)⟩
  | closeGroup id => exact ⟨h.closeGroup id, fun _ hid => reached_closeGroup.2 hid⟩

/-- **A whole run** keeps a tree rooted, and loses none of its nodes. -/
theorem Rooted.steps (h : t.Rooted) (hsteps : ReflTransGen Step t t') :
    t'.Rooted ∧ ∀ id, t.Reached id → t'.Reached id := by
  induction hsteps with
  | refl => exact ⟨h, fun id hid => hid⟩
  | tail _ hstep ih =>
    obtain ⟨hrooted, hreached⟩ := ih
    obtain ⟨hrooted', hreached'⟩ := hrooted.step hstep
    exact ⟨hrooted', fun id hid => hreached' id (hreached id hid)⟩

theorem Grown.rooted (h : t.Grown) : t.Rooted := (rooted_empty.steps h).1

/-! ### Full trees -/

/-- **No slot of a node of the tree is free.** -/
def Full (t : Tree) : Prop := ∀ id kind, t.Reached id → t.kind? id = some kind → kind.Full

/-- **A tree that waits for one operand**, below a node or, if there is none, at its root. -/
structure Waits (t : Tree) (parent : Option Nat) : Prop where
  root : parent = none → t.root = none
  wants : ∀ p kind, parent = some p → t.kind? p = some kind → kind.WantsLast
  full : ∀ id kind, t.Reached id → parent ≠ some id → t.kind? id = some kind → kind.Full

theorem Full.close (h : t.Full) (id : Nat) : (t.closeGroup id).Full := by
  intro i kind hi hkind
  rw [closeGroup, kind?_mapKind] at hkind
  have hi := reached_closeGroup.1 hi
  split at hkind
  · obtain ⟨old, hold, rfl⟩ := Option.map_eq_some_iff.1 hkind
    exact Node.Kind.full_close (h i old hi hold)
  · exact h i kind hi hkind

theorem Rooted.kind?_push_of_reached (h : t.Rooted) (hid : t.Reached id) (kind : Node.Kind) :
    (t.push kind).2.kind? id = t.kind? id := by
  rw [kind?_push, if_neg (Nat.ne_of_lt (h.lt_size hid))]

theorem Rooted.full_push (h : t.Rooted) (hfull : t.Full) (kind : Node.Kind) :
    (t.push kind).2.Full := by
  intro id k hid hk
  have hid := (h.reached_push kind).1 hid
  rw [h.kind?_push_of_reached hid] at hk
  exact hfull id k hid hk

/-- **The operand that a tree waits for** finds its slot, and then nothing but itself may have a
free one. -/
theorem Rooted.attach_waits (h : t.Rooted) (kind : Node.Kind) (hwaits : t.Waits parent)
    (hparent : ∀ p, parent = some p → t.Reached p) (hfree : kind.children = []) :
    ∃ t', (t.push kind).2.attach? parent t.nodes.size = some t' ∧ ReflTransGen Step t t' ∧
      t'.Reached t.nodes.size ∧ t'.kind? t.nodes.size = some kind ∧
      ∀ id kind', t'.Reached id → id ≠ t.nodes.size → t'.kind? id = some kind' → kind'.Full := by
  have hpushed := h.push kind
  have hchild := h.detached_push kind hfree
  have hparent' : ∀ p, parent = some p → (t.push kind).2.Reached p :=
    fun p hp => (h.reached_push kind).2 (hparent p hp)
  obtain ⟨t', ht⟩ : ∃ t', (t.push kind).2.attach? parent t.nodes.size = some t' := by
    cases parent with
    | none =>
      have hroot : (t.push kind).2.root = none := hwaits.root rfl
      exact ⟨_, by rw [Tree.attach?, hroot]; rfl⟩
    | some p =>
      obtain ⟨old, hold⟩ := h.exists_kind (hparent p rfl)
      obtain ⟨new, hnew, -⟩ := hwaits.wants p old rfl hold t.nodes.size
      exact ⟨_, by
        rw [Tree.attach?, h.kind?_push_of_reached (hparent p rfl), hold, Option.bind_some, hnew]
        rfl⟩
  obtain ⟨-, hreached⟩ := hpushed.attach? ht hchild hparent'
  have hattach : (t.push kind).2.attach parent t.nodes.size = t' := by
    rw [attach, ht, Option.getD_some]
  refine ⟨t', ht, ?_, (hreached _).2 (.inr rfl), ?_, fun id kind' hid hne hkind => ?_⟩
  · exact (ReflTransGen.single (.push kind)).tail (hattach ▸ .attach hparent' hchild)
  · have hne : parent ≠ some t.nodes.size := fun hp =>
      hchild.unreached (hparent' t.nodes.size hp)
    rw [kind?_attach? ht, if_neg hne, kind?_push, if_pos rfl]
  · have hid : t.Reached id :=
      (h.reached_push kind).1 (((hreached id).1 hid).resolve_right hne)
    rw [kind?_attach? ht, h.kind?_push_of_reached hid] at hkind
    split at hkind
    case isTrue hp =>
      obtain ⟨old, hold, hbind⟩ := Option.bind_eq_some_iff.1 hkind
      obtain ⟨_, hnew, hfull⟩ := hwaits.wants id old hp hold t.nodes.size
      rw [hnew] at hbind
      exact Option.some.inj hbind ▸ hfull
    case isFalse hp => exact hwaits.full id kind' hid hp hkind

/-- **A full tree with a binary node above one of its nodes** waits for the right operand. -/
theorem Rooted.injectAbove_waits (h : t.Rooted) (hfull : t.Full) (htarget : t.Reached target)
    (hnew : t.Detached new) (hkind : t.kind? new = some (.binary op level none none)) :
    (t.injectAbove target new).Waits (some new) ∧ (t.injectAbove target new).Reached new := by
  have hgrafts := h.grafts_injectAbove htarget hkind hnew.unreached
  obtain ⟨-, hreached⟩ := hgrafts.rooted h htarget hnew.unreached
  refine ⟨⟨nofun, ?_, fun id kind hid hne hk => ?_⟩, (hreached new).2 (.inr rfl)⟩
  · rintro p kind ⟨⟩ hk
    rw [hgrafts.kind_new] at hk
    exact Option.some.inj hk ▸ Node.Kind.wantsLast_binary
  · have hid := ((hreached id).1 hid).resolve_right fun heq => hne (congrArg some heq.symm)
    rw [hgrafts.kind id hid] at hk
    obtain ⟨old, hold, rfl⟩ := Option.map_eq_some_iff.1 hk
    exact Node.Kind.full_rename _ (hfull id old hid hold)

/-! ### Terms -/

/-- A slot of a full node has a child. -/
theorem Full.exists_child (hfull : t.Full) (hid : t.Reached id) (hkind : t.kind? id = some kind)
    (hslot : slot ∈ kind.slots) : ∃ c, slot = some c ∧ t.Child id c := by
  cases slot with
  | none => exact absurd hslot (hfull id kind hid hkind)
  | some c => exact ⟨c, rfl, child_of_slot hkind hslot⟩

theorem Full.exists_right (hfull : t.Full) (hid : t.Reached id) (hbinary : t.isBinary id = true) :
    ∃ op level left right, t.kind? id = some (.binary op level left (some right)) := by
  unfold isBinary at hbinary
  cases hkind : t.kind? id with
  | none =>
    rw [hkind] at hbinary
    cases hbinary
  | some kind =>
    rw [hkind] at hbinary
    have hslots := hfull id kind hid hkind
    cases kind with
    | binary op level left right =>
      cases right with
      | none => exact absurd (List.mem_cons_of_mem _ (List.mem_singleton_self _)) hslots
      | some right => exact ⟨op, level, left, right, rfl⟩
    | _ => cases hbinary

theorem Rooted.exists_says (h : t.Rooted) (hfull : t.Full) :
    ∀ id, t.Reached id → ∃ e, t.Says (some id) e := by
  refine h.descend fun id hid ih => ?_
  obtain ⟨kind, hkind⟩ := h.exists_kind hid
  have hslot : ∀ slot ∈ kind.slots, ∃ e, t.Says slot e := by
    intro slot hmem
    obtain ⟨c, rfl, hc⟩ := hfull.exists_child hid hkind hmem
    exact ih c hc
  cases kind with
  | leaf o => exact ⟨_, .operand hkind⟩
  | unary op level operand =>
    obtain ⟨e, he⟩ := hslot operand (List.mem_singleton_self _)
    exact ⟨_, .unary hkind he⟩
  | binary op level left right =>
    obtain ⟨a, ha⟩ := hslot left List.mem_cons_self
    obtain ⟨b, hb⟩ := hslot right (List.mem_cons_of_mem _ (List.mem_singleton_self _))
    exact ⟨_, .binary hkind ha hb⟩
  | group inner closed =>
    obtain ⟨e, he⟩ := hslot inner (List.mem_singleton_self _)
    exact ⟨_, .group hkind he⟩

/-- **The value of a slot is the value of its term**, if the depth covers what is below it. -/
theorem Says.evaluateNode_eq {e : Term} (hs : t.Says slot e) (h : t.Rooted)
    (hslot : ∀ id, slot = some id → t.Reached id) {depth : Nat}
    (hdepth : ∀ id, slot = some id → (t.below id).card ≤ depth) (c : Converter)
    (resolve : Nat → Value) :
    t.evaluateNode c resolve depth slot = e.evaluate c resolve := by
  induction hs generalizing depth with
  | @operand id o hkind =>
    obtain ⟨depth, rfl, -⟩ := h.exists_depth (hslot id rfl) (hdepth id rfl)
    rw [evaluateNode, hkind]
    cases o <;> rfl
  | @unary id level op operand e hkind _ ih =>
    obtain ⟨depth, rfl, hchild⟩ := h.exists_depth (hslot id rfl) (hdepth id rfl)
    have hbelow : ∀ i, operand = some i → t.Child id i := by
      rintro i rfl
      exact child_of_slot hkind (List.mem_singleton_self _)
    rw [evaluateNode, hkind]
    simp only [Term.evaluate]
    rw [ih (fun i hi => (hslot id rfl).child (hbelow i hi)) fun i hi => hchild i (hbelow i hi)]
  | @binary id level op left right a b hkind _ _ iha ihb =>
    obtain ⟨depth, rfl, hchild⟩ := h.exists_depth (hslot id rfl) (hdepth id rfl)
    have hleft : ∀ i, left = some i → t.Child id i := by
      rintro i rfl
      exact child_of_slot hkind List.mem_cons_self
    have hright : ∀ i, right = some i → t.Child id i := by
      rintro i rfl
      exact child_of_slot hkind (List.mem_cons_of_mem _ (List.mem_singleton_self _))
    rw [evaluateNode, hkind]
    simp only [Term.evaluate]
    rw [iha (fun i hi => (hslot id rfl).child (hleft i hi)) fun i hi => hchild i (hleft i hi),
      ihb (fun i hi => (hslot id rfl).child (hright i hi)) fun i hi => hchild i (hright i hi)]
  | @group id inner closed e hkind _ ih =>
    obtain ⟨depth, rfl, hchild⟩ := h.exists_depth (hslot id rfl) (hdepth id rfl)
    have hbelow : ∀ i, inner = some i → t.Child id i := by
      rintro i rfl
      exact child_of_slot hkind (List.mem_singleton_self _)
    rw [evaluateNode, hkind]
    exact ih (fun i hi => (hslot id rfl).child (hbelow i hi)) fun i hi => hchild i (hbelow i hi)

/-- **A full tree is a term**, and its value is that of the term. -/
theorem Rooted.exists_term (h : t.Rooted) (hfull : t.Full) (hroot : t.isEmpty = false) :
    ∃ e, t.Says t.root e ∧ ∀ c resolve, t.evaluate c resolve = e.evaluate c resolve := by
  obtain ⟨r, hr⟩ : ∃ r, t.root = some r :=
    Option.isSome_iff_exists.1 (by simpa [isEmpty] using hroot)
  obtain ⟨e, he⟩ := h.exists_says hfull r (.root hr)
  rw [hr]
  refine ⟨e, he, fun c resolve => ?_⟩
  rw [evaluate, hroot, hr]
  refine he.evaluateNode_eq h ?_ (fun id _ => t.card_below_le id) c resolve
  rintro id ⟨⟩
  exact .root hr

end Tree

end Templating

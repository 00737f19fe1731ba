import Mathlib.Data.Finset.Card
import Mathlib.Logic.Relation
import Templating.Proofs.Closed

/-!
# The tree in an arena

Every node of an arena names its parent and has its children in slots, so the edges of a tree
are written down twice. The nodes of the tree are those that can be reached from the root, and
only for these the two have to agree.

* `Tree.Rooted`: each child in a slot names the node that has it as its parent, and the root
  names none.
* `Tree.IsTree`, `Tree.Rooted.isTree`: what a tree is in terms of slots, parents and cycles, which
  a rooted tree is.
* `Tree.Rooted.of_nodes`: a tree is rooted if some set of nodes is, with the root in it and every
  child of a node in it.
* `Tree.Rooted.descend`: what holds of a node when it holds of its children holds of every node
  of the tree.
-/

namespace Templating

open Relation (ReflTransGen TransGen)

/-- The slots of a kind of node, from left to right. -/
def Node.Kind.slots : Node.Kind → List (Option Nat)
  | .binary _ _ left right => [left, right]
  | .unary _ _ operand => [operand]
  | .leaf _ => []
  | .group inner _ => [inner]

theorem Node.Kind.mem_children {kind : Node.Kind} {c : Nat} :
    c ∈ kind.children ↔ some c ∈ kind.slots := by
  cases kind <;> simp [children, slots, eq_comm]

namespace Tree

variable {t t' : Tree} {id p c i r : Nat} {parent : Option Nat} {kind : Node.Kind}
  {f : Node.Kind → Node.Kind}

/-! ### Looking up what a node is and whose child -/

@[simp]
theorem kind?_setParent : (t.setParent id parent).kind? i = t.kind? i := by
  unfold kind?
  rw [nodes_setParent]
  split
  · rw [Option.map_map]
    rfl
  · rfl

theorem kind?_mapKind : (t.mapKind id f).kind? i =
    if id = i then (t.kind? i).map f else t.kind? i := by
  unfold kind?
  rw [nodes_mapKind]
  split
  · rw [Option.map_map, Option.map_map]
    rfl
  · rfl

theorem kind?_push : (t.push kind).2.kind? i =
    if i = t.nodes.size then some kind else t.kind? i := by
  unfold kind?
  rw [nodes_push]
  split <;> rfl

theorem kind?_push_self (t : Tree) (kind : Node.Kind) :
    (t.push kind).2.kind? t.nodes.size = some kind := by
  rw [kind?_push, if_pos rfl]

theorem parent?_setParent_self (h : id < t.nodes.size) :
    (t.setParent id parent).parent? id = parent := by
  unfold parent?
  rw [nodes_setParent, if_pos rfl, Array.getElem?_eq_getElem h]
  rfl

theorem parent?_setParent_of_ne (h : id ≠ i) : (t.setParent id parent).parent? i = t.parent? i := by
  unfold parent?
  rw [nodes_setParent, if_neg h]

@[simp]
theorem parent?_mapKind : (t.mapKind id f).parent? i = t.parent? i := by
  unfold parent?
  rw [nodes_mapKind]
  split
  · rw [Option.bind_map]
    rfl
  · rfl

theorem lt_size_of_parent? (h : t.parent? c = some p) : c < t.nodes.size := by
  obtain ⟨_, hnode, -⟩ := Option.bind_eq_some_iff.1 h
  exact lt_size_of_node hnode

@[simp]
theorem parent?_push : (t.push kind).2.parent? i = t.parent? i := by
  unfold parent?
  rw [nodes_push]
  split
  case isTrue hi => rw [hi, Array.getElem?_eq_none (Nat.le_refl _)]; rfl
  case isFalse => rfl

/-! ### The nodes of a tree -/

/-- The nodes in the slots of a node, from left to right. -/
def children (t : Tree) (id : Nat) : List Nat := ((t.kind? id).map Node.Kind.children).getD []

theorem children_eq (h : t.kind? id = some kind) : t.children id = kind.children := by
  rw [children, h]
  rfl

def Child (t : Tree) (p c : Nat) : Prop := c ∈ t.children p

theorem child_of_slot (hkind : t.kind? p = some kind) (hslot : some c ∈ kind.slots) :
    t.Child p c := by
  rw [Child, children_eq hkind]
  exact Node.Kind.mem_children.2 hslot

/-- **A node of the tree**: the root or in a slot of another one, and so on up to the root. -/
def Reached (t : Tree) (id : Nat) : Prop := ∃ r ∈ t.root, ReflTransGen t.Child r id

theorem Reached.root (h : t.root = some r) : t.Reached r := ⟨r, h, .refl⟩

theorem Reached.child (h : t.Reached p) (hc : t.Child p c) : t.Reached c := by
  obtain ⟨r, hr, hpath⟩ := h
  exact ⟨r, hr, hpath.tail hc⟩

theorem Reached.trans (h : t.Reached p) (hpath : ReflTransGen t.Child p c) : t.Reached c := by
  obtain ⟨r, hr, hstart⟩ := h
  exact ⟨r, hr, hstart.trans hpath⟩

/-- What holds of the root, and of a child when it holds of its parent, holds of every node. -/
@[elab_as_elim]
theorem Reached.induct {motive : ∀ id, t.Reached id → Prop}
    (root : ∀ r (hr : t.root = some r), motive r (.root hr))
    (child : ∀ p c (hp : t.Reached p) (hc : t.Child p c), motive p hp → motive c (hp.child hc))
    {id : Nat} (h : t.Reached id) : motive id h := by
  obtain ⟨r, hr, hpath⟩ := h
  induction hpath with
  | refl => exact root r hr
  | tail hpath hc ih => exact child _ _ ⟨r, hr, hpath⟩ hc ih

/-! ### Rooted trees -/

/-- **A rooted tree**: the root has no parent, and the nodes in the slots of a node of the tree
are different ones and name it as their parent. -/
structure Rooted (t : Tree) : Prop where
  root : ∀ r ∈ t.root, r < t.nodes.size ∧ t.parent? r = none
  parent : ∀ p c, t.Reached p → t.Child p c → t.parent? c = some p
  once : ∀ p, t.Reached p → (t.children p).Nodup

/-- **What a tree is**: every node but the root sits in exactly one slot, of the node that it
names as its parent; the root sits in none and names none; and no node is below itself. -/
structure IsTree (t : Tree) : Prop where
  exist : ∀ id, t.Reached id → id < t.nodes.size
  root : ∀ r ∈ t.root, t.parent? r = none ∧ ∀ p, t.Reached p → ¬ t.Child p r
  sits : ∀ id, t.Reached id → t.root ≠ some id →
    ∃ p, t.Reached p ∧ t.parent? id = some p ∧ (t.children p).count id = 1
  nowhere_else : ∀ p id, t.Reached p → t.Child p id → t.parent? id = some p
  acyclic : ∀ id, t.Reached id → ¬ TransGen t.Child id id

/-- **A set of nodes that is rooted**: with the root in it and all children of its nodes, it has
every node of the tree. -/
theorem Rooted.of_nodes {S : Nat → Prop}
    (hroot : ∀ r ∈ t.root, S r ∧ r < t.nodes.size ∧ t.parent? r = none)
    (hchild : ∀ p c, S p → t.Child p c → S c ∧ t.parent? c = some p)
    (hnodup : ∀ p, S p → (t.children p).Nodup) : t.Rooted ∧ ∀ id, t.Reached id → S id := by
  have hall : ∀ id, t.Reached id → S id := by
    intro id h
    induction h using Reached.induct with
    | root r hr => exact (hroot r hr).1
    | child p c _ hc ih => exact (hchild p c ih hc).1
  exact ⟨⟨fun r hr => (hroot r hr).2, fun p c hp hc => (hchild p c (hall p hp) hc).2,
    fun p hp => hnodup p (hall p hp)⟩, hall⟩

namespace Rooted

variable (h : t.Rooted)

include h

theorem lt_size (hid : t.Reached id) : id < t.nodes.size := by
  induction hid using Reached.induct with
  | root r hr => exact (h.root r hr).1
  | child p c hp hc _ => exact lt_size_of_parent? (h.parent p c hp hc)

theorem exists_kind (hid : t.Reached id) : ∃ kind, t.kind? id = some kind := by
  unfold kind?
  rw [Array.getElem?_eq_getElem (h.lt_size hid)]
  exact ⟨_, rfl⟩

/-- A node of the tree is the root without a parent, or in a slot of its parent. -/
theorem stands (hid : t.Reached id) : (t.root = some id ∧ t.parent? id = none) ∨
    ∃ p, t.Reached p ∧ t.Child p id ∧ t.parent? id = some p := by
  induction hid using Reached.induct with
  | root r hr => exact .inl ⟨hr, (h.root r hr).2⟩
  | child p c hp hc _ => exact .inr ⟨p, hp, hc, h.parent p c hp hc⟩

theorem not_child_root (hr : t.root = some r) (hp : t.Reached p) : ¬ t.Child p r := by
  intro hc
  have hnone := (h.root r hr).2
  rw [h.parent p r hp hc] at hnone
  cases hnone

theorem reached_parent (hid : t.Reached id) (hp : t.parent? id = some p) : t.Reached p := by
  obtain ⟨-, hnone⟩ | ⟨q, hq, -, hparent⟩ := h.stands hid
  · rw [hnone] at hp
    cases hp
  · rw [hparent] at hp
    exact Option.some.inj hp ▸ hq

theorem not_transGen_self (hid : t.Reached id) : ¬ TransGen t.Child id id := by
  induction hid using Reached.induct with
  | root r hr =>
    intro hcycle
    obtain ⟨q, hpath, hlast⟩ := TransGen.tail'_iff.1 hcycle
    exact h.not_child_root hr ((Reached.root hr).trans hpath) hlast
  | child p c hp hc ih =>
    intro hcycle
    obtain ⟨q, hpath, hlast⟩ := TransGen.tail'_iff.1 hcycle
    -- the last node of the cycle is the parent of the first one, which is then in a cycle too
    have hparent := h.parent q c ((hp.child hc).trans hpath) hlast
    rw [h.parent p c hp hc] at hparent
    obtain rfl := Option.some.inj hparent
    exact ih (TransGen.head' hc hpath)

theorem isTree : t.IsTree where
  exist _ hid := h.lt_size hid
  root r hr := ⟨(h.root r hr).2, fun _ hp => h.not_child_root hr hp⟩
  sits id hid hne := by
    obtain ⟨hroot, -⟩ | ⟨p, hp, hc, hparent⟩ := h.stands hid
    · exact absurd hroot hne
    · exact ⟨p, hp, hparent, List.count_eq_one_of_mem (h.once p hp) hc⟩
  nowhere_else p id hp hc := h.parent p id hp hc
  acyclic _ hid := h.not_transGen_self hid

end Rooted

/-! ### What is below a node -/

open Classical in
/-- The nodes from a node on downwards. -/
noncomputable def below (t : Tree) (id : Nat) : Finset Nat :=
  (Finset.range t.nodes.size).filter (ReflTransGen t.Child id)

theorem card_below_le (t : Tree) (id : Nat) : (t.below id).card ≤ t.nodes.size := by
  classical exact (Finset.card_filter_le _ _).trans_eq (Finset.card_range _)

namespace Rooted

variable (h : t.Rooted)

include h

/-- Fewer nodes are below a child than below its parent. -/
theorem card_below_lt (hp : t.Reached p) (hc : t.Child p c) :
    (t.below c).card < (t.below p).card := by
  classical
  refine Finset.card_lt_card (Finset.ssubset_iff_of_subset ?_ |>.2 ⟨p, ?_, ?_⟩)
  · intro i hi
    obtain ⟨hlt, hpath⟩ := Finset.mem_filter.1 hi
    exact Finset.mem_filter.2 ⟨hlt, .head hc hpath⟩
  · exact Finset.mem_filter.2 ⟨Finset.mem_range.2 (h.lt_size hp), .refl⟩
  · intro hmem
    exact h.not_transGen_self hp (TransGen.head' hc (Finset.mem_filter.1 hmem).2)

/-- A depth that covers what is below a node has one level for the node itself. -/
theorem exists_depth {depth : Nat} (hid : t.Reached id) (hdepth : (t.below id).card ≤ depth) :
    ∃ n, depth = n + 1 ∧ ∀ c, t.Child id c → (t.below c).card ≤ n := by
  have hpos : 0 < (t.below id).card := by
    classical
    exact Finset.card_pos.2 ⟨id, Finset.mem_filter.2 ⟨Finset.mem_range.2 (h.lt_size hid), .refl⟩⟩
  obtain _ | n := depth
  · omega
  · refine ⟨n, rfl, fun c hc => ?_⟩
    have := h.card_below_lt hid hc
    omega

/-- **What holds of a node when it holds of its children** holds of every node of the tree. -/
theorem descend {P : Nat → Prop}
    (hnode : ∀ id, t.Reached id → (∀ c, t.Child id c → P c) → P id) :
    ∀ id, t.Reached id → P id := by
  suffices hsize : ∀ n id, t.Reached id → (t.below id).card ≤ n → P id from
    fun id hid => hsize _ id hid (Nat.le_refl _)
  intro n
  induction n with
  | zero =>
    intro id hid hn
    obtain ⟨_, hzero, -⟩ := h.exists_depth hid hn
    cases hzero
  | succ n ih =>
    intro id hid hn
    obtain ⟨_, hsucc, hchild⟩ := h.exists_depth hid hn
    cases hsucc
    exact hnode id hid fun c hc => ih c (hid.child hc) (hchild c hc)

end Rooted

end Tree

end Templating

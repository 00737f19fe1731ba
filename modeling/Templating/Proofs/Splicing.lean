import Mathlib.Data.List.Perm.Basic
import Templating.Proofs.Arena

/-!
# Bringing a node into a tree

A node comes into a tree by one of three splices: into a free slot, above a node of the tree, or
between a node and its right operand. The last is the second in other words, and both leave the
leaves in their order.

* `Tree.Detached`: a node that is not yet part of the tree.
* `Tree.Rooted.attach?`: a rooted tree with a node in a free slot is rooted, and has just that
  node more.
* `Tree.Grafts`: a binary node stands where a node of the tree stood, which is now its left
  operand. `Tree.Grafts.rooted`: it is the only node more. `Tree.Grafts.yields`: the leaves stay.
* `Tree.Rooted.grafts_injectAbove`, `Tree.Rooted.stealRight_eq`: both splices of a binary node do
  that.
-/

namespace Templating

namespace Node.Kind

variable {kind kind' : Node.Kind} {child old new : Nat}

/-- The kind with other nodes in its slots. -/
def rename (f : Nat → Nat) : Node.Kind → Node.Kind
  | binary op level left right => binary op level (left.map f) (right.map f)
  | unary op level operand => unary op level (operand.map f)
  | leaf operand => leaf operand
  | group inner closed => group (inner.map f) closed

theorem children_rename (f : Nat → Nat) (kind : Node.Kind) :
    (kind.rename f).children = kind.children.map f := by
  cases kind with
  | binary op level left right => cases left <;> cases right <;> rfl
  | unary op level operand => cases operand <;> rfl
  | leaf operand => rfl
  | group inner closed => cases inner <;> rfl

/-- The node that stands in a slot once `new` has taken the place of `old`. -/
def swap (old new id : Nat) : Nat := if id = old then new else id

@[simp]
theorem swap_self : swap old new old = new := if_pos rfl

theorem swap_of_ne {id : Nat} (h : id ≠ old) : swap old new id = id := if_neg h

theorem map_swap_option (slot : Option Nat) :
    slot.map (swap old new) = if slot = some old then some new else slot := by
  cases slot with
  | none => rfl
  | some id =>
    by_cases hid : id = old
    · subst hid
      simp
    · rw [Option.map_some, swap_of_ne hid, if_neg fun heq => hid (Option.some.inj heq)]

/-- No node is in both slots, so replacing the first occurrence replaces all. -/
theorem replace_eq_rename (h : kind.children.Nodup) :
    kind.replace old new = kind.rename (swap old new) := by
  cases kind with
  | binary op level left right =>
    simp only [replace, rename, map_swap_option]
    split
    case isTrue hleft =>
      have hright : right ≠ some old := by
        rintro rfl
        rw [hleft] at h
        exact (List.nodup_cons.1 h).1 (List.mem_singleton_self _)
      rw [if_neg hright]
    case isFalse => split <;> rfl
  | unary op level operand =>
    simp only [replace, rename, map_swap_option]
  | leaf operand => rfl
  | group inner closed => simp only [replace, rename, map_swap_option]

theorem rename_swap_of_not_mem (h : old ∉ kind.children) : kind.rename (swap old new) = kind := by
  have hslot : ∀ slot : Option Nat, (∀ id ∈ slot, id ∈ kind.children) →
      slot.map (swap old new) = slot := by
    intro slot hmem
    rw [map_swap_option, if_neg]
    exact fun heq => h (hmem old heq)
  cases kind with
  | binary op level left right =>
    rw [rename, hslot left fun id hid => List.mem_append_left _ (Option.mem_toList.2 hid),
      hslot right fun id hid => List.mem_append_right _ (Option.mem_toList.2 hid)]
  | unary op level operand => rw [rename, hslot operand fun id hid => Option.mem_toList.2 hid]
  | leaf operand => rfl
  | group inner closed => rw [rename, hslot inner fun id hid => Option.mem_toList.2 hid]

theorem perm_children_bind? (h : kind.bind? child = some kind') :
    kind'.children.Perm (child :: kind.children) := by
  unfold bind? at h
  split at h
  case h_2 op level left _ =>
    cases h
    cases left with
    | none => exact .refl _
    | some l => exact .swap child l []
  all_goals first | cases h; exact .refl _ | cases h

@[simp]
theorem children_close (kind : Node.Kind) : kind.close.children = kind.children := by
  cases kind <;> rfl

end Node.Kind

namespace Tree

open Node.Kind (swap swap_self swap_of_ne)

variable {t t' : Tree} {id p c i child target new level : Nat} {parent : Option Nat}
  {kind : Node.Kind} {op : BinaryOperator}

/-- **A node that is not yet part of the tree**: it is in the arena, in no slot of a node of the
tree, and its own slots are free. -/
structure Detached (t : Tree) (id : Nat) : Prop where
  free : ∃ kind, t.kind? id = some kind ∧ kind.children = []
  unreached : ¬ t.Reached id

theorem Detached.lt_size (h : t.Detached id) : id < t.nodes.size := by
  obtain ⟨kind, hkind, -⟩ := h.free
  exact lt_size_of_kind? hkind

/-! ### Trees with the same nodes -/

theorem reached_congr (hroot : t'.root = t.root)
    (hchildren : ∀ p, t.Reached p → t'.children p = t.children p) :
    t'.Reached id ↔ t.Reached id := by
  constructor
  · intro h
    induction h using Reached.induct with
    | root r hr => exact .root (hroot ▸ hr)
    | child p c _ hc ih => exact ih.child (show c ∈ t.children p from hchildren p ih ▸ hc)
  · intro h
    induction h using Reached.induct with
    | root r hr => exact .root (hroot.trans hr)
    | child p c hp hc ih => exact ih.child (show c ∈ t'.children p from (hchildren p hp).symm ▸ hc)

theorem Rooted.congr (h : t.Rooted) (hroot : t'.root = t.root)
    (hsize : t.nodes.size ≤ t'.nodes.size)
    (hchildren : ∀ p, t.Reached p → t'.children p = t.children p)
    (hparent : ∀ i, t'.parent? i = t.parent? i) : t'.Rooted := by
  have hreached : ∀ {id}, t'.Reached id ↔ t.Reached id := reached_congr hroot hchildren
  refine ⟨fun r hr => ?_, fun p c hp hc => ?_, fun p hp => ?_⟩
  · obtain ⟨hlt, hnone⟩ := h.root r (hroot ▸ hr)
    exact ⟨Nat.lt_of_lt_of_le hlt hsize, (hparent r).trans hnone⟩
  · have hp' := hreached.1 hp
    rw [Child, hchildren p hp'] at hc
    exact (hparent c).trans (h.parent p c hp' hc)
  · have hp' := hreached.1 hp
    rw [hchildren p hp']
    exact h.once p hp'

theorem rooted_empty : empty.Rooted :=
  ⟨nofun, fun _ _ ⟨_, hr, _⟩ => (nomatch hr), fun _ ⟨_, hr, _⟩ => (nomatch hr)⟩

namespace Rooted

variable (h : t.Rooted)

include h

theorem children_push (kind : Node.Kind) (hp : t.Reached p) :
    (t.push kind).2.children p = t.children p := by
  rw [children, kind?_push, if_neg (Nat.ne_of_lt (h.lt_size hp)), children]

theorem push (kind : Node.Kind) : (t.push kind).2.Rooted := by
  refine h.congr rfl ?_ (fun p hp => h.children_push kind hp) fun i => parent?_push
  rw [size_push]
  exact Nat.le_succ _

theorem reached_push (kind : Node.Kind) : (t.push kind).2.Reached id ↔ t.Reached id :=
  reached_congr rfl fun _ hp => h.children_push kind hp

theorem detached_push (kind : Node.Kind) (hkind : kind.children = []) :
    (t.push kind).2.Detached t.nodes.size := by
  refine ⟨⟨kind, kind?_push_self t kind, hkind⟩, fun hreached => ?_⟩
  exact Nat.lt_irrefl _ (h.lt_size ((h.reached_push kind).1 hreached))

end Rooted

theorem children_closeGroup (t : Tree) (id p : Nat) :
    (t.closeGroup id).children p = t.children p := by
  rw [children, closeGroup, kind?_mapKind, children]
  split
  · cases t.kind? p <;> simp
  · rfl

theorem Rooted.closeGroup (h : t.Rooted) (id : Nat) : (t.closeGroup id).Rooted :=
  h.congr rfl (Nat.le_of_eq (size_mapKind ..).symm) (fun p _ => t.children_closeGroup id p)
    fun _ => parent?_mapKind

theorem reached_closeGroup : (t.closeGroup p).Reached id ↔ t.Reached id :=
  reached_congr rfl fun q _ => t.children_closeGroup p q

/-! ### Into a free slot -/

section Attach

variable (ht : t.attach? parent child = some t')

include ht

/-- Of the nodes, only the one that has the free slot changes. -/
theorem kind?_attach? : t'.kind? i =
    if parent = some i then (t.kind? i).bind (·.bind? child) else t.kind? i := by
  obtain ⟨rfl, -, rfl⟩ | ⟨p, kind, kind', rfl, hkind, hbind, rfl⟩ := attach?_cases ht
  · rw [if_neg nofun]
    exact kind?_setParent
  · rw [kind?_setParent, kind?_mapKind]
    simp only [Option.some.injEq]
    split
    case isTrue hp =>
      subst hp
      rw [hkind, Option.bind_some, hbind, Option.map_some]
    case isFalse => rfl

theorem parent?_attach?_self (hchild : child < t.nodes.size) : t'.parent? child = parent := by
  obtain ⟨rfl, -, rfl⟩ | ⟨p, kind, kind', rfl, -, -, rfl⟩ := attach?_cases ht
  · exact parent?_setParent_self hchild
  · exact parent?_setParent_self (by rwa [size_mapKind])

theorem parent?_attach?_of_ne (hne : child ≠ i) : t'.parent? i = t.parent? i := by
  obtain ⟨rfl, -, rfl⟩ | ⟨p, kind, kind', rfl, -, -, rfl⟩ := attach?_cases ht
  · exact parent?_setParent_of_ne hne
  · rw [parent?_setParent_of_ne hne, parent?_mapKind]

theorem size_attach? : t'.nodes.size = t.nodes.size := by
  obtain ⟨rfl, -, rfl⟩ | ⟨p, kind, kind', rfl, -, -, rfl⟩ := attach?_cases ht
  · exact size_setParent ..
  · rw [size_setParent, size_mapKind]

theorem children_attach?_of_ne (hne : parent ≠ some p) : t'.children p = t.children p := by
  rw [children, kind?_attach? ht, if_neg hne, children]

theorem perm_children_attach? (hp : parent = some p) :
    (t'.children p).Perm (child :: t.children p) := by
  have hkind_new := kind?_attach? (i := p) ht
  obtain ⟨rfl, -, -⟩ | ⟨_, kind, kind', rfl, hkind, hbind, -⟩ := attach?_cases ht
  · cases hp
  obtain rfl := Option.some.inj hp
  rw [if_pos rfl, hkind, Option.bind_some, hbind] at hkind_new
  rw [children_eq hkind, children_eq hkind_new]
  exact Node.Kind.perm_children_bind? hbind

/-- One node has one child more. -/
theorem child_attach? : t'.Child p c ↔ t.Child p c ∨ parent = some p ∧ c = child := by
  by_cases hp : parent = some p
  · rw [Child, (perm_children_attach? ht hp).mem_iff, List.mem_cons]
    simp [hp, Child, or_comm]
  · rw [Child, children_attach?_of_ne ht hp]
    simp [hp, Child]

/-- **A rooted tree with a detached node in a free slot** is rooted, and has that node more. -/
theorem Rooted.attach? (h : t.Rooted) (hchild : t.Detached child)
    (hparent : ∀ p, parent = some p → t.Reached p) :
    t'.Rooted ∧ ∀ id, t'.Reached id ↔ t.Reached id ∨ id = child := by
  have hne : ∀ {i}, t.Reached i → child ≠ i := fun hi heq => hchild.unreached (heq ▸ hi)
  -- the child itself has nothing below it
  have hnothing : t'.children child = [] := by
    obtain ⟨kind, hkind, hfree⟩ := hchild.free
    rw [children_attach?_of_ne ht fun hp => hne (hparent child hp) rfl, children_eq hkind, hfree]
  have hrooted := Rooted.of_nodes (t := t') (S := fun id => t.Reached id ∨ id = child) ?_ ?_ ?_
  · refine ⟨hrooted.1, fun id => ⟨hrooted.2 id, ?_⟩⟩
    have hold : ∀ id, t.Reached id → t'.Reached id := by
      intro id hid
      induction hid using Reached.induct with
      | root r hr =>
        obtain ⟨-, hnone, -⟩ | ⟨_, _, _, -, -, -, rfl⟩ := attach?_cases ht
        · rw [hnone] at hr
          cases hr
        · exact .root hr
      | child p c _ hc ih => exact ih.child ((child_attach? ht).2 (.inl hc))
    rintro (hid | rfl)
    · exact hold id hid
    · obtain ⟨-, -, rfl⟩ | ⟨p, _, _, hp, -, -, -⟩ := attach?_cases ht
      · exact .root rfl
      · exact (hold p (hparent p hp)).child ((child_attach? ht).2 (.inr ⟨hp, rfl⟩))
  · intro r hr
    rw [size_attach? ht]
    obtain ⟨hp, -, rfl⟩ | ⟨_, _, _, -, -, -, rfl⟩ := attach?_cases ht
    · obtain rfl := Option.some.inj hr
      exact ⟨.inr rfl, hchild.lt_size, (parent?_attach?_self ht hchild.lt_size).trans hp⟩
    · have hreached := Reached.root (t := t) hr
      rw [parent?_attach?_of_ne ht (hne hreached)]
      exact ⟨.inl hreached, h.root r hr⟩
  · intro p c hp hc
    obtain hp | rfl := hp
    · obtain hc | ⟨hp', rfl⟩ := (child_attach? ht).1 hc
      · have hreached := hp.child hc
        rw [parent?_attach?_of_ne ht (hne hreached)]
        exact ⟨.inl hreached, h.parent p c hp hc⟩
      · exact ⟨.inr rfl, hp' ▸ parent?_attach?_self ht hchild.lt_size⟩
    · rw [Child, hnothing] at hc
      cases hc
  · intro p hp
    obtain hp | rfl := hp
    · by_cases hp' : parent = some p
      · have hfresh : child ∉ t.children p := fun hc => hchild.unreached (hp.child hc)
        exact (perm_children_attach? ht hp').nodup_iff.2 (List.nodup_cons.2 ⟨hfresh, h.once p hp⟩)
      · rw [children_attach?_of_ne ht hp']
        exact h.once p hp
    · rw [hnothing]
      exact List.nodup_nil

end Attach

/-! ### Above a node -/

/-- **A binary node stands where a node of the tree stood**, which is now its left operand. -/
structure Grafts (t t' : Tree) (target new : Nat) (op : BinaryOperator) (level : Nat) : Prop where
  size : t'.nodes.size = t.nodes.size
  root : t'.root = t.root.map (swap target new)
  kind : ∀ id, t.Reached id → t'.kind? id = (t.kind? id).map (·.rename (swap target new))
  kind_new : t'.kind? new = some (.binary op level (some target) none)
  parent_new : t'.parent? new = t.parent? target
  parent_target : t'.parent? target = some new
  parent : ∀ i, i ≠ new → i ≠ target → t'.parent? i = t.parent? i

namespace Grafts

variable (hg : t.Grafts t' target new op level)

include hg

theorem children_new : t'.children new = [target] := children_eq hg.kind_new

theorem child_new : t'.Child new target := by
  rw [Child, hg.children_new]
  exact List.mem_singleton_self _

theorem children (hp : t.Reached p) : t'.children p = (t.children p).map (swap target new) := by
  rw [Tree.children, hg.kind p hp, Tree.children]
  cases t.kind? p with
  | none => rfl
  | some kind => exact Node.Kind.children_rename _ kind

theorem child_swap (hp : t.Reached p) (hc : t.Child p c) : t'.Child p (swap target new c) := by
  rw [Child, hg.children hp]
  exact List.mem_map_of_mem hc

/-- What stands in a slot where a node stood has the node below it, if it is another one. -/
theorem reached_of_swap (h : t'.Reached (swap target new id)) : t'.Reached id := by
  by_cases hid : id = target
  · subst hid
    rw [swap_self] at h
    exact h.child hg.child_new
  · rwa [swap_of_ne hid] at h

theorem reached_swap (hid : t.Reached id) : t'.Reached (swap target new id) := by
  induction hid using Reached.induct with
  | root r hr =>
    refine .root ?_
    rw [hg.root, hr]
    rfl
  | child p c hp hc ih => exact (hg.reached_of_swap ih).child (hg.child_swap hp hc)

/-- **The tree with the new node in it** is rooted, and has that node more. -/
theorem rooted (h : t.Rooted) (htarget : t.Reached target) (hnew : ¬ t.Reached new) :
    t'.Rooted ∧ ∀ id, t'.Reached id ↔ t.Reached id ∨ id = new := by
  have hne : ∀ {i}, t.Reached i → i ≠ new := fun hi heq => hnew (heq ▸ hi)
  have hrooted := Rooted.of_nodes (t := t') (S := fun id => t.Reached id ∨ id = new) ?_ ?_ ?_
  · refine ⟨hrooted.1, fun id => ⟨hrooted.2 id, ?_⟩⟩
    rintro (hid | rfl)
    · exact hg.reached_of_swap (hg.reached_swap hid)
    · have hplace := hg.reached_swap htarget
      rwa [swap_self] at hplace
  · intro r hr
    rw [hg.root] at hr
    obtain ⟨r, hroot, rfl⟩ := Option.map_eq_some_iff.1 hr
    have hreached := Reached.root hroot
    rw [hg.size]
    by_cases hr : r = target
    · subst hr
      rw [swap_self, hg.parent_new]
      refine ⟨.inr rfl, ?_, (h.root r hroot).2⟩
      rw [← hg.size]
      exact lt_size_of_kind? hg.kind_new
    · rw [swap_of_ne hr, hg.parent r (hne hreached) hr]
      exact ⟨.inl hreached, h.root r hroot⟩
  · intro p c hp hc
    obtain hp | rfl := hp
    · rw [Child, hg.children hp] at hc
      obtain ⟨c, hmem, rfl⟩ := List.mem_map.1 hc
      have hc : t.Child p c := hmem
      have hparent := h.parent p c hp hc
      by_cases hct : c = target
      · subst hct
        rw [swap_self, hg.parent_new]
        exact ⟨.inr rfl, hparent⟩
      · have hreached := hp.child hc
        rw [swap_of_ne hct, hg.parent c (hne hreached) hct]
        exact ⟨.inl hreached, hparent⟩
    · rw [Child, hg.children_new] at hc
      obtain rfl := List.mem_singleton.1 hc
      exact ⟨.inl htarget, hg.parent_target⟩
  · intro p hp
    obtain hp | rfl := hp
    · rw [hg.children hp]
      refine (h.once p hp).map_on fun c hc d hd heq => ?_
      -- the new node is in no slot yet, so it stands for the target only
      have hc' := hne (hp.child hc)
      have hd' := hne (hp.child hd)
      unfold Node.Kind.swap at heq
      split at heq <;> split at heq <;> grind
    · rw [hg.children_new]
      exact List.nodup_singleton _

end Grafts

/-! ### Both splices of a binary node -/

section Replace

variable {old : Nat}

theorem kind?_replaceChild : (t.replaceChild parent old new).kind? i =
    if parent = some i then (t.kind? i).map (·.replace old new) else t.kind? i := by
  cases parent with
  | none =>
    rw [if_neg nofun]
    exact kind?_setParent
  | some p =>
    rw [replaceChild, kind?_setParent, kind?_mapKind]
    simp only [Option.some.injEq]

theorem parent?_replaceChild_self (hnew : new < t.nodes.size) :
    (t.replaceChild parent old new).parent? new = parent := by
  cases parent with
  | none => exact parent?_setParent_self hnew
  | some p => exact parent?_setParent_self (by rwa [size_mapKind])

theorem parent?_replaceChild_of_ne (hne : new ≠ i) :
    (t.replaceChild parent old new).parent? i = t.parent? i := by
  cases parent with
  | none => exact parent?_setParent_of_ne hne
  | some p =>
    rw [replaceChild, parent?_setParent_of_ne hne]
    exact parent?_mapKind

theorem root_replaceChild :
    (t.replaceChild parent old new).root = if parent = none then some new else t.root := by
  cases parent <;> rfl

theorem size_replaceChild : (t.replaceChild parent old new).nodes.size = t.nodes.size := by
  cases parent with
  | none => exact size_setParent ..
  | some p => rw [replaceChild, size_setParent, size_mapKind]

end Replace

namespace Rooted

variable (h : t.Rooted)

include h

/-- **Above a node of a rooted tree** a detached binary node takes its place. -/
theorem grafts_injectAbove (htarget : t.Reached target)
    (hnew : t.kind? new = some (.binary op level none none)) (hfresh : ¬ t.Reached new) :
    t.Grafts (t.injectAbove target new) target new op level := by
  have hne : new ≠ target := fun heq => hfresh (heq ▸ htarget)
  have hnew_lt := lt_size_of_kind? hnew
  have hparent_ne : t.parent? target ≠ some new := fun heq =>
    hfresh (h.reached_parent htarget heq)
  have hkind_of_ne : ∀ i, new ≠ i → (t.injectAbove target new).kind? i =
      (t.replaceChild (t.parent? target) target new).kind? i := fun i hi => by
    rw [injectAbove, kind?_setParent, kind?_mapKind, if_neg hi]
  refine ⟨?_, ?_, fun id hid => ?_, ?_, ?_, ?_, fun i hi hi' => ?_⟩
  · rw [injectAbove, size_setParent, size_mapKind, size_replaceChild]
  · show (t.replaceChild (t.parent? target) target new).root = _
    rw [root_replaceChild, Node.Kind.map_swap_option]
    obtain ⟨hroot, hnone⟩ | ⟨p, hp, hc, hparent⟩ := h.stands htarget
    · rw [if_pos hnone, if_pos hroot]
    · rw [if_neg (hparent ▸ Option.some_ne_none p),
        if_neg fun hroot => h.not_child_root hroot hp hc]
  · have hid_ne : new ≠ id := fun heq => hfresh (heq ▸ hid)
    obtain ⟨kind, hk⟩ := h.exists_kind hid
    have hchildren := children_eq hk
    rw [hkind_of_ne id hid_ne, kind?_replaceChild, hk]
    split
    case isTrue hparent =>
      exact congrArg some (Node.Kind.replace_eq_rename (hchildren ▸ h.once id hid))
    case isFalse hparent =>
      refine congrArg some (Node.Kind.rename_swap_of_not_mem fun hmem => hparent ?_).symm
      exact h.parent id target hid (show target ∈ t.children id from hchildren ▸ hmem)
  · rw [injectAbove, kind?_setParent, kind?_mapKind, if_pos rfl, kind?_replaceChild,
      if_neg hparent_ne, hnew]
    rfl
  · rw [injectAbove, parent?_setParent_of_ne hne.symm, parent?_mapKind,
      parent?_replaceChild_self hnew_lt]
  · refine parent?_setParent_self ?_
    rw [size_mapKind, size_replaceChild]
    exact h.lt_size htarget
  · rw [injectAbove, parent?_setParent_of_ne hi'.symm, parent?_mapKind,
      parent?_replaceChild_of_ne hi.symm]

/-- **Taking the right operand of a node** is going above that operand. -/
theorem stealRight_eq {left : Option Nat} {stolen : Nat} (hid : t.Reached id)
    (hkind : t.kind? id = some (.binary op level left (some stolen))) :
    t.stealRight id new = t.injectAbove stolen new := by
  have hchildren := children_eq hkind
  have hparent : t.parent? stolen = some id := by
    refine h.parent id stolen hid ?_
    rw [Child, hchildren]
    simp [Node.Kind.children]
  have hleft : left ≠ some stolen := by
    rintro rfl
    have hnodup := h.once id hid
    rw [hchildren] at hnodup
    simp [Node.Kind.children] at hnodup
  obtain ⟨n, hnode, hn⟩ := Option.map_eq_some_iff.1 hkind
  have hreplace : t.mapKind id (·.setRight new) = t.mapKind id (·.replace stolen new) := by
    refine mapKind_congr hnode ?_
    rw [hn]
    simp [Node.Kind.setRight, Node.Kind.replace, hleft]
  simp [stealRight, injectAbove, replaceChild, hkind, hparent, hreplace, Node.Kind.right?]

end Rooted

/-! ### The leaves -/

/-- **The leaves below a slot**, from left to right, with their operands. -/
inductive Yields (t : Tree) : Option Nat → List (Nat × Operand) → Prop
  | free : Yields t none []
  | leaf {id : Nat} {o : Operand} (h : t.kind? id = some (.leaf o)) : Yields t (some id) [(id, o)]
  | unary {id level : Nat} {op : UnaryOperator} {operand : Option Nat} {l : List (Nat × Operand)}
      (h : t.kind? id = some (.unary op level operand)) (hl : Yields t operand l) :
      Yields t (some id) l
  | binary {id level : Nat} {op : BinaryOperator} {left right : Option Nat}
      {l l' : List (Nat × Operand)} (h : t.kind? id = some (.binary op level left right))
      (hl : Yields t left l) (hl' : Yields t right l') : Yields t (some id) (l ++ l')
  | group {id : Nat} {inner : Option Nat} {closed : Bool} {l : List (Nat × Operand)}
      (h : t.kind? id = some (.group inner closed)) (hl : Yields t inner l) : Yields t (some id) l

theorem Yields.unique {slot : Option Nat} {l l' : List (Nat × Operand)} (h : t.Yields slot l)
    (h' : t.Yields slot l') : l = l' := by
  induction h generalizing l' with
  | free => cases h'; rfl
  | leaf h | unary h _ ih | binary h _ _ ihl ihr | group h _ ih => cases h' <;> grind

/-- Every slot of a rooted tree has its leaves. -/
theorem Rooted.exists_yields (h : t.Rooted) (slot : Option Nat)
    (hslot : ∀ id, slot = some id → t.Reached id) : ∃ l, t.Yields slot l := by
  have hall : ∀ id, t.Reached id → ∃ l, t.Yields (some id) l := by
    refine h.descend fun id hid ih => ?_
    obtain ⟨kind, hkind⟩ := h.exists_kind hid
    have hslot : ∀ slot ∈ kind.slots, ∃ l, t.Yields slot l := by
      intro slot hmem
      cases slot with
      | none => exact ⟨[], .free⟩
      | some c => exact ih c (child_of_slot hkind hmem)
    cases kind with
    | leaf o => exact ⟨_, .leaf hkind⟩
    | unary op level operand =>
      obtain ⟨l, hl⟩ := hslot operand (List.mem_singleton_self _)
      exact ⟨l, .unary hkind hl⟩
    | binary op level left right =>
      obtain ⟨l, hl⟩ := hslot left List.mem_cons_self
      obtain ⟨l', hl'⟩ := hslot right (List.mem_cons_of_mem _ (List.mem_singleton_self _))
      exact ⟨l ++ l', .binary hkind hl hl'⟩
    | group inner closed =>
      obtain ⟨l, hl⟩ := hslot inner (List.mem_singleton_self _)
      exact ⟨l, .group hkind hl⟩
  cases slot with
  | none => exact ⟨[], .free⟩
  | some id => exact hall id (hslot id rfl)

/-- The new node has the leaves of the one that it has displaced. -/
theorem Grafts.yields_swap (hg : t.Grafts t' target new op level) {l : List (Nat × Operand)}
    (h : t'.Yields (some id) l) : t'.Yields (some (swap target new id)) l := by
  by_cases hid : id = target
  · subst hid
    rw [swap_self, ← List.append_nil l]
    exact .binary hg.kind_new h .free
  · rwa [swap_of_ne hid]

/-- **The leaves are in the same order**, below a node of the tree and below what stands in its
place. -/
theorem Grafts.yields (hg : t.Grafts t' target new op level) {slot : Option Nat}
    {l : List (Nat × Operand)} (h : t.Yields slot l) (hslot : ∀ id, slot = some id → t.Reached id) :
    t'.Yields (slot.map (swap target new)) l := by
  -- a node of the tree is of the same kind, with the new node for the target
  have hkind : ∀ {id kind}, t.Reached id → t.kind? id = some kind →
      t'.kind? id = some (kind.rename (swap target new)) := fun hid hk => by
    rw [hg.kind _ hid, hk, Option.map_some]
  induction h with
  | free => exact .free
  | leaf hk => exact hg.yields_swap (.leaf (hkind (hslot _ rfl) hk))
  | unary hk _ ih =>
    have hid := hslot _ rfl
    refine hg.yields_swap (.unary (hkind hid hk) (ih ?_))
    rintro c rfl
    exact hid.child (child_of_slot hk (List.mem_singleton_self _))
  | binary hk _ _ ihl ihr =>
    have hid := hslot _ rfl
    refine hg.yields_swap (.binary (hkind hid hk) (ihl ?_) (ihr ?_))
    · rintro c rfl
      exact hid.child (child_of_slot hk List.mem_cons_self)
    · rintro c rfl
      exact hid.child (child_of_slot hk (List.mem_cons_of_mem _ (List.mem_singleton_self _)))
  | group hk _ ih =>
    have hid := hslot _ rfl
    refine hg.yields_swap (.group (hkind hid hk) (ih ?_))
    rintro c rfl
    exact hid.child (child_of_slot hk (List.mem_singleton_self _))

end Tree

end Templating

import Mathlib.Data.List.Nodup
import Mathlib.Data.List.Perm.Subperm
import Templating.Expression.Precedence
import Templating.Proofs.Grammar

/-!
# Trees on a spine

A tree under construction is a spine: the layers that wait for an operand
(`Layer`), the innermost first, each the child of the next one and the last one
the root, and at their end the last complete operand, if there is one. A `Shape`
is a complete operand with the numbers of its nodes. Nothing is in a spine twice,
so a change to one of its nodes leaves the others alone.

* `Tree.Spine.hang`: a new node where an operand is missing.
* `Tree.Spine.complete`: a layer with its operand is itself a complete operand.
* `Tree.Spine.leftOperand_eq`: climbing ends where the layers that bind at least
  as tightly as a level are complete.
* `Tree.Spine.injectAbove` and `Tree.Spine.stealRight`: both ways of splicing in
  a binary operator put it where its left operand was.
* `Tree.Holds.evaluateNode_eq`: the value of a node is the value of its term.
-/

namespace Templating

/-- A complete operand with the numbers of its nodes. -/
inductive Shape where
  | leaf (id : Nat) (o : Operand)
  | unary (id : Nat) (op : UnaryOperator) (level : Nat) (operand : Shape)
  | binary (id : Nat) (op : BinaryOperator) (level : Nat) (left right : Shape)
  | group (id : Nat) (inner : Shape)

namespace Shape

def top : Shape → Nat
  | leaf id _ | unary id _ _ _ | binary id _ _ _ _ | group id _ => id

def ids : Shape → List Nat
  | leaf id _ => [id]
  | unary id _ _ s | group id s => id :: s.ids
  | binary id _ _ left right => id :: (left.ids ++ right.ids)

def term : Shape → Term
  | leaf _ o => .operand o
  | unary _ op _ s => .unary op s.term
  | binary _ op _ left right => .binary op left.term right.term
  | group _ s => s.term

def kind : Shape → Node.Kind
  | leaf _ o => .leaf o
  | unary _ op level s => .unary op level (some s.top)
  | binary _ op level left right => .binary op level (some left.top) (some right.top)
  | group _ s => .group (some s.top) true

theorem top_mem_ids (s : Shape) : s.top ∈ s.ids := by
  cases s <;> simp [top, ids]

end Shape

/-- A node that waits for an operand, with what it has. -/
inductive Layer where
  | group (id : Nat)
  | unary (id : Nat) (op : UnaryOperator) (level : Nat)
  | binary (id : Nat) (op : BinaryOperator) (level : Nat) (left : Shape)

namespace Layer

def id : Layer → Nat
  | group id | unary id _ _ | binary id _ _ _ => id

def left? : Layer → Option Shape
  | binary _ _ _ left => some left
  | _ => none

def ids (L : Layer) : List Nat := L.id :: (L.left?.map Shape.ids).getD []

def level? : Layer → Option Nat
  | group _ => none
  | unary _ _ level | binary _ _ level _ => some level

/-- The kind of the node, with the operand it waits for in its slot. -/
def kind (operand : Option Nat) : Layer → Node.Kind
  | group _ => .group operand false
  | unary _ op level => .unary op level operand
  | binary _ op level left => .binary op level (some left.top) operand

/-- The layer with its operand. -/
def fill (s : Shape) : Layer → Shape
  | group id => .group id s
  | unary id op level => .unary id op level s
  | binary id op level left => .binary id op level left s

def frame : Layer → Grammar.Frame
  | group _ => .group
  | unary _ op _ => .unary op
  | binary _ op level left => .binary op level left.term

@[simp]
theorem top_fill (L : Layer) (s : Shape) : (L.fill s).top = L.id := by
  cases L <;> rfl

@[simp]
theorem ids_fill (L : Layer) (s : Shape) : (L.fill s).ids = L.ids ++ s.ids := by
  cases L <;> simp [fill, Shape.ids, ids, id, left?]

end Layer

/-- The innermost layer, which is the parent of what comes next. -/
def outer? (Ls : List Layer) : Option Nat := Ls.head?.map Layer.id

def layerIds : List Layer → List Nat
  | [] => []
  | L :: Ls => layerIds Ls ++ L.ids

namespace Tree

variable {t t' : Tree} {Ls : List Layer} {L : Layer} {s : Shape} {parent operand : Option Nat}
  {level : Nat}

/-- A complete operand stands in the arena, below a parent. -/
def Holds (t : Tree) (parent : Option Nat) : Shape → Prop
  | .leaf id o => t.nodes[id]? = some ⟨parent, .leaf o⟩
  | .unary id op level s =>
    t.nodes[id]? = some ⟨parent, .unary op level (some s.top)⟩ ∧ t.Holds (some id) s
  | .binary id op level left right =>
    t.nodes[id]? = some ⟨parent, .binary op level (some left.top) (some right.top)⟩ ∧
      t.Holds (some id) left ∧ t.Holds (some id) right
  | .group id s => t.nodes[id]? = some ⟨parent, .group (some s.top) true⟩ ∧ t.Holds (some id) s

/-- The layers stand in the arena, with an operand in the slot of the innermost one. -/
def Path (t : Tree) : List Layer → Option Nat → Prop
  | [], operand => t.root = operand
  | L :: Ls, operand =>
    t.nodes[L.id]? = some ⟨outer? Ls, L.kind operand⟩ ∧
      (∀ left, L.left? = some left → t.Holds (some L.id) left) ∧ t.Path Ls (some L.id)

/-- **The tree is a spine** of layers that wait for an operand, and of the operand
if it is complete. -/
structure Spine (t : Tree) (Ls : List Layer) (focus : Option Shape) : Prop where
  path : t.Path Ls (focus.map Shape.top)
  holds : ∀ s, focus = some s → t.Holds (outer? Ls) s
  nodup : (layerIds Ls ++ (focus.map Shape.ids).getD []).Nodup

/-! ### Looking up nodes -/

variable {id i : Nat} {kind : Node.Kind} {f : Node.Kind → Node.Kind}

@[simp]
theorem fst_push : (t.push kind).1 = t.nodes.size := rfl

theorem nodes_push : (t.push kind).2.nodes[i]? =
    if i = t.nodes.size then some ⟨none, kind⟩ else t.nodes[i]? :=
  Array.getElem?_push

theorem nodes_setParent : (t.setParent id parent).nodes[i]? =
    if id = i then t.nodes[i]?.map fun n => { n with parent := parent } else t.nodes[i]? :=
  Array.getElem?_modify

theorem nodes_mapKind : (t.mapKind id f).nodes[i]? =
    if id = i then t.nodes[i]?.map fun n => { n with kind := f n.kind } else t.nodes[i]? :=
  Array.getElem?_modify

theorem lt_size_of_node {n : Node} (h : t.nodes[i]? = some n) : i < t.nodes.size :=
  (Array.getElem?_eq_some_iff.1 h).1

/-! ### What stands in an arena -/

theorem Holds.node (h : t.Holds parent s) : t.nodes[s.top]? = some ⟨parent, s.kind⟩ := by
  cases s with
  | leaf => exact h
  | unary | binary | group => exact h.1

theorem Holds.congr (h : t.Holds parent s) (hnodes : ∀ i ∈ s.ids, t'.nodes[i]? = t.nodes[i]?) :
    t'.Holds parent s := by
  induction s generalizing parent with
  | leaf id o => exact (hnodes id (by simp [Shape.ids])).trans h
  | unary id op level s ih | group id s ih =>
    exact ⟨(hnodes id (by simp [Shape.ids])).trans h.1,
      ih h.2 fun i hi => hnodes i (by simp [Shape.ids, hi])⟩
  | binary id op level left right ihl ihr =>
    exact ⟨(hnodes id (by simp [Shape.ids])).trans h.1,
      ihl h.2.1 fun i hi => hnodes i (by simp [Shape.ids, hi]),
      ihr h.2.2 fun i hi => hnodes i (by simp [Shape.ids, hi])⟩

theorem Holds.lt_size (h : t.Holds parent s) : ∀ i ∈ s.ids, i < t.nodes.size := by
  induction s generalizing parent with
  | leaf id o => simpa [Shape.ids] using lt_size_of_node h
  | unary id op level s ih | group id s ih =>
    simpa [Shape.ids] using ⟨lt_size_of_node h.1, ih h.2⟩
  | binary id op level left right ihl ihr =>
    have hl := ihl h.2.1
    have hr := ihr h.2.2
    simp only [Shape.ids, List.mem_cons, List.mem_append]
    rintro i (rfl | hi | hi)
    · exact lt_size_of_node h.1
    · exact hl i hi
    · exact hr i hi

/-- A complete operand below another parent. -/
theorem Holds.reparent (h : t.Holds parent s) (hs : s.ids.Nodup) {parent' : Option Nat}
    (htop : t'.nodes[s.top]? = some ⟨parent', s.kind⟩)
    (hnodes : ∀ i ∈ s.ids, i ≠ s.top → t'.nodes[i]? = t.nodes[i]?) : t'.Holds parent' s := by
  cases s with
  | leaf id o => exact htop
  | unary id op level s | group id s =>
    have hid : id ∉ s.ids := (List.nodup_cons.1 hs).1
    exact ⟨htop, h.2.congr fun i hi =>
      hnodes i (List.mem_cons_of_mem _ hi) (ne_of_mem_of_not_mem hi hid)⟩
  | binary id op level left right =>
    have hid : id ∉ left.ids ++ right.ids := (List.nodup_cons.1 hs).1
    have hrest : ∀ i ∈ left.ids ++ right.ids, t'.nodes[i]? = t.nodes[i]? := fun i hi =>
      hnodes i (List.mem_cons_of_mem _ hi) (ne_of_mem_of_not_mem hi hid)
    exact ⟨htop, h.2.1.congr fun i hi => hrest i (List.mem_append_left _ hi),
      h.2.2.congr fun i hi => hrest i (List.mem_append_right _ hi)⟩

theorem Path.congr (h : t.Path Ls operand) (hroot : t'.root = t.root)
    (hnodes : ∀ i ∈ layerIds Ls, t'.nodes[i]? = t.nodes[i]?) : t'.Path Ls operand := by
  induction Ls generalizing operand with
  | nil => exact hroot.trans h
  | cons L Ls ih =>
    obtain ⟨hnode, hleft, hpath⟩ := h
    refine ⟨(hnodes L.id (by simp [layerIds, Layer.ids])).trans hnode, fun left hmem => ?_,
      ih hpath fun i hi => hnodes i (List.mem_append_left _ hi)⟩
    refine (hleft left hmem).congr fun i hi => hnodes i ?_
    simp [layerIds, Layer.ids, hmem, hi]

theorem Path.lt_size (h : t.Path Ls operand) : ∀ i ∈ layerIds Ls, i < t.nodes.size := by
  induction Ls generalizing operand with
  | nil => simp [layerIds]
  | cons L Ls ih =>
    obtain ⟨hnode, hleft, hpath⟩ := h
    intro i hi
    simp only [layerIds, Layer.ids, List.mem_append, List.mem_cons] at hi
    rcases hi with hi | rfl | hi
    · exact ih hpath i hi
    · exact lt_size_of_node hnode
    · cases hL : L.left? with
      | none => simp [hL] at hi
      | some left => exact (hleft left hL).lt_size i (by simpa [hL] using hi)

/-! ### Filling the slot of the innermost layer -/

/-- The tree with a child in the slot of the innermost layer. -/
def fillSlot (t : Tree) (child : Nat) : List Layer → Tree
  | [] => { t with root := some child }
  | L :: _ => t.mapKind L.id fun _ => L.kind (some child)

variable {child : Nat}

theorem nodes_fillSlot (hi : i ∉ layerIds Ls) :
    (t.fillSlot child Ls).nodes[i]? = t.nodes[i]? := by
  cases Ls with
  | nil => rfl
  | cons L Ls =>
    have hne : L.id ≠ i := by rintro rfl; simp [layerIds, Layer.ids] at hi
    rw [fillSlot, nodes_mapKind, if_neg hne]

theorem Path.fillSlot (h : t.Path Ls operand) (hnodup : (layerIds Ls).Nodup) :
    (t.fillSlot child Ls).Path Ls (some child) := by
  cases Ls with
  | nil => rfl
  | cons L Ls =>
    obtain ⟨hnode, hleft, hpath⟩ := h
    obtain ⟨-, hids, hdisjoint⟩ := List.nodup_append.1 hnodup
    have hrest : ∀ i, L.id ≠ i → (t.mapKind L.id fun _ => L.kind (some child)).nodes[i]? =
        t.nodes[i]? := fun i hi => by rw [nodes_mapKind, if_neg hi]
    refine ⟨?_, fun left hmem => ?_, hpath.congr rfl fun i hi => hrest i ?_⟩
    · rw [Tree.fillSlot, nodes_mapKind, if_pos rfl, hnode]
      rfl
    · refine (hleft left hmem).congr fun i hi => hrest i ?_
      rintro rfl
      simp [Layer.ids, hmem, hi] at hids
    · rintro rfl
      exact hdisjoint L.id hi L.id (by simp [Layer.ids]) rfl

/-- The tree with a child in the slot of the innermost layer, which is its parent. -/
def place (t : Tree) (child : Nat) (Ls : List Layer) : Tree :=
  (t.fillSlot child Ls).setParent child (outer? Ls)

theorem nodes_place (hi : i ∉ layerIds Ls) (hne : child ≠ i) :
    (t.place child Ls).nodes[i]? = t.nodes[i]? := by
  rw [place, nodes_setParent, if_neg hne, nodes_fillSlot hi]

theorem node_place (hc : child ∉ layerIds Ls) (h : t.nodes[child]? = some ⟨parent, kind⟩) :
    (t.place child Ls).nodes[child]? = some ⟨outer? Ls, kind⟩ := by
  rw [place, nodes_setParent, if_pos rfl, nodes_fillSlot hc, h]
  rfl

theorem Path.place (h : t.Path Ls operand) (hnodup : (layerIds Ls).Nodup)
    (hc : child ∉ layerIds Ls) : (t.place child Ls).Path Ls (some child) :=
  (h.fillSlot hnodup).congr rfl fun i hi => by
    rw [Tree.place, nodes_setParent, if_neg (ne_of_mem_of_not_mem hi hc).symm]

theorem mapKind_congr {n : Node} {g : Node.Kind → Node.Kind} (h : t.nodes[id]? = some n)
    (hfg : f n.kind = g n.kind) : t.mapKind id f = t.mapKind id g := by
  have hnodes : (t.mapKind id f).nodes = (t.mapKind id g).nodes := by
    refine Array.ext_getElem? fun i => ?_
    rw [nodes_mapKind, nodes_mapKind]
    split
    case isTrue hi => rw [← hi, h, Option.map_some, Option.map_some, hfg]
    case isFalse => rfl
  rw [show t.mapKind id f = ⟨(t.mapKind id f).nodes, t.root⟩ from rfl, hnodes]
  rfl

/-- A child is attached to the innermost layer while that has no operand. -/
theorem attach?_eq (h : t.Path Ls none) :
    t.attach? (outer? Ls) child = some (t.place child Ls) := by
  cases Ls with
  | nil =>
    have hroot : t.root = none := h
    simp [attach?, outer?, hroot, place, fillSlot, setParent]
  | cons L Ls =>
    have hnode := h.1
    have hbind : (L.kind none).bind? child = some (L.kind (some child)) := by cases L <;> rfl
    simp [attach?, outer?, kind?, hnode, hbind, place, fillSlot]

/-! ### Steps along a spine -/

theorem Spine.nodup_layerIds {focus : Option Shape} (h : t.Spine Ls focus) :
    (layerIds Ls).Nodup :=
  (List.nodup_append.1 h.nodup).1

theorem Spine.not_mem_layerIds (h : t.Spine Ls (some s)) {i : Nat} (hi : i ∈ s.ids) :
    i ∉ layerIds Ls := fun hi' => (List.nodup_append.1 h.nodup).2.2 i hi' i hi rfl

theorem spine_empty : empty.Spine [] none := ⟨rfl, by simp, by simp [layerIds]⟩

theorem Spine.push {focus : Option Shape} (h : t.Spine Ls focus) (kind : Node.Kind) :
    (t.push kind).2.Spine Ls focus := by
  have hold : ∀ i, i < t.nodes.size → (t.push kind).2.nodes[i]? = t.nodes[i]? := fun i hi => by
    rw [nodes_push, if_neg (Nat.ne_of_lt hi)]
  exact ⟨h.path.congr rfl fun i hi => hold i (h.path.lt_size i hi),
    fun s hs => (h.holds s hs).congr fun i hi => hold i ((h.holds s hs).lt_size i hi), h.nodup⟩

theorem Path.root_ne_none (h : t.Path (L :: Ls) operand) : t.root ≠ none := by
  induction Ls generalizing L operand with
  | nil =>
    have hroot : t.root = some L.id := h.2.2
    simp [hroot]
  | cons L' Ls ih => exact ih h.2.2

/-- **A new node goes where an operand is missing.** -/
theorem Spine.hang (h : t.Spine Ls none) (kind : Node.Kind) :
    ∃ t', (t.push kind).2.attach? (outer? Ls) t.nodes.size = some t' ∧
      t'.Path Ls (some t.nodes.size) ∧ t'.nodes[t.nodes.size]? = some ⟨outer? Ls, kind⟩ := by
  have hfresh : t.nodes.size ∉ layerIds Ls := fun hi => Nat.lt_irrefl _ (h.path.lt_size _ hi)
  have hpath : (t.push kind).2.Path Ls none := (h.push kind).path
  have hnode : (t.push kind).2.nodes[t.nodes.size]? = some ⟨none, kind⟩ := by
    rw [nodes_push, if_pos rfl]
  exact ⟨_, attach?_eq hpath, hpath.place h.nodup_layerIds hfresh, node_place hfresh hnode⟩

theorem Spine.nodup_fresh (h : t.Spine Ls none) : (layerIds Ls ++ [t.nodes.size]).Nodup := by
  refine List.nodup_append.2 ⟨h.nodup_layerIds, List.nodup_singleton _, fun i hi j hj => ?_⟩
  rw [List.mem_singleton.1 hj]
  exact Nat.ne_of_lt (h.path.lt_size i hi)

/-- A layer with its operand is a complete operand. -/
theorem Spine.fill (h : t.Spine (L :: Ls) (some s)) (hL : L.level? ≠ none) :
    t.Spine Ls (some (L.fill s)) := by
  obtain ⟨hnode, hleft, hpath⟩ := h.path
  have hs := h.holds s rfl
  refine ⟨by simpa using hpath, ?_, by simpa [layerIds, List.append_assoc] using h.nodup⟩
  rintro _ ⟨⟩
  cases L with
  | group id => exact absurd rfl hL
  | unary id op level => exact ⟨hnode, hs⟩
  | binary id op level left => exact ⟨hnode, hleft left rfl, hs⟩

/-- Completes the layers that bind at least as tightly as a level. -/
def complete (level : Nat) : List Layer → Shape → List Layer × Shape
  | [], s => ([], s)
  | L :: Ls, s =>
    if L.level?.any (level ≤ ·) then complete level Ls (L.fill s) else (L :: Ls, s)

theorem complete_zero (Ls : List Layer) (s : Shape) :
    (complete 0 Ls s).1 = [] ∨ ∃ id Ls', (complete 0 Ls s).1 = .group id :: Ls' := by
  fun_induction complete 0 Ls s with
  | case1 s => exact .inl rfl
  | case2 L Ls s hL ih => exact ih
  | case3 L Ls s hL =>
    cases L with
    | group id => exact .inr ⟨id, Ls, rfl⟩
    | unary | binary => simp [Layer.level?] at hL

theorem Spine.complete (h : t.Spine Ls (some s)) (level : Nat) :
    t.Spine (complete level Ls s).1 (some (complete level Ls s).2) := by
  fun_induction Tree.complete level Ls s with
  | case1 s => exact h
  | case2 L Ls s hL ih =>
    refine ih (h.fill ?_)
    rintro hnone
    simp [hnone] at hL
  | case3 L Ls s hL => exact h

/-- Completing layers is completing frames, where unary operators bind at least as
tightly as the level. -/
theorem reduce_frames (hunary : ∀ id op l, .unary id op l ∈ Ls → level ≤ l) :
    Grammar.reduce level (Ls.map Layer.frame) s.term =
      ((complete level Ls s).1.map Layer.frame, (complete level Ls s).2.term) := by
  induction Ls generalizing s with
  | nil => rfl
  | cons L Ls ih =>
    have hrest : ∀ id op l, .unary id op l ∈ Ls → level ≤ l := fun id op l hmem =>
      hunary id op l (List.mem_cons_of_mem _ hmem)
    cases L with
    | group id => rfl
    | unary id op l =>
      have hl : level ≤ l := hunary id op l List.mem_cons_self
      rw [complete, if_pos (by simpa [Layer.level?] using hl), ← ih hrest]
      rfl
    | binary id op l left =>
      by_cases hl : level ≤ l
      · rw [complete, if_pos (by simpa [Layer.level?] using hl), ← ih hrest]
        exact if_pos hl
      · rw [complete, if_neg (by simpa [Layer.level?] using hl)]
        exact if_neg hl

theorem Holds.parent?_top (h : t.Holds parent s) : t.parent? s.top = parent := by
  simp [parent?, h.node]

theorem Path.kind?_id (h : t.Path (L :: Ls) operand) : t.kind? L.id = some (L.kind operand) := by
  simp [kind?, h.1]

theorem Path.isOpenGroup_id (h : t.Path (L :: Ls) operand) :
    t.isOpenGroup L.id = L.level?.isNone := by
  rw [isOpenGroup, h.kind?_id]
  cases L <;> rfl

theorem Path.level?_id (h : t.Path (L :: Ls) operand) : t.level? L.id = L.level? := by
  rw [level?, h.kind?_id]
  cases L <;> rfl

theorem Spine.climb_eq (h : t.Spine Ls (some s)) {steps : Nat} (hsteps : Ls.length ≤ steps) :
    t.climb level steps s.top = (Tree.complete level Ls s).2.top := by
  induction Ls generalizing s steps with
  | nil =>
    have hparent := (h.holds s rfl).parent?_top
    cases steps with
    | zero => rfl
    | succ steps => simp [climb, hparent, outer?, Tree.complete]
  | cons L Ls ih =>
    have hparent := (h.holds s rfl).parent?_top
    have hgroup := h.path.isOpenGroup_id
    have hlevel := h.path.level?_id
    obtain _ | steps := steps
    · simp at hsteps
    simp only [climb, hparent, outer?, List.head?_cons, Option.map_some, hgroup, hlevel]
    rw [Tree.complete]
    cases hL : L.level? with
    | none => simp
    | some l =>
      by_cases hl : level ≤ l
      · have hfill := h.fill (L := L) (by simp [hL])
        have htail := ih hfill (Nat.le_of_succ_le_succ hsteps)
        simpa [hl] using htail
      · simp [hl]

theorem length_le_of_lt {ids : List Nat} {n : Nat} (hids : ids.Nodup) (h : ∀ i ∈ ids, i < n) :
    ids.length ≤ n := by
  have hsub : ids ⊆ List.range n := fun i hi => List.mem_range.2 (h i hi)
  simpa using (List.Nodup.subperm hids hsub).length_le

theorem Spine.length_le {focus : Option Shape} (h : t.Spine Ls focus) :
    Ls.length ≤ t.nodes.size := by
  have hids : Ls.length ≤ (layerIds Ls).length := by
    clear h
    induction Ls with
    | nil => simp
    | cons L Ls ih =>
      simp only [layerIds, Layer.ids, List.length_append, List.length_cons]
      omega
  exact Nat.le_trans hids (length_le_of_lt h.nodup_layerIds h.path.lt_size)

/-- **Climbing from a complete operand** ends where the layers that bind at least
as tightly are complete. -/
theorem Spine.leftOperand_eq (h : t.Spine Ls (some s)) :
    t.leftOperand level s.top = (Tree.complete level Ls s).2.top :=
  h.climb_eq h.length_le

/-- A closed group is a complete operand. -/
theorem Spine.closeGroup (h : t.Spine (.group id :: Ls) (some s)) :
    (t.closeGroup id).Spine Ls (some (.group id s)) := by
  obtain ⟨hnode, -, hpath⟩ := h.path
  have hs := h.holds s rfl
  have hnodup : (layerIds Ls ++ (Shape.group id s).ids).Nodup := by
    simpa [layerIds, Layer.ids, Layer.id, Layer.left?, Shape.ids] using h.nodup
  obtain ⟨-, hids, hdisjoint⟩ := List.nodup_append.1 hnodup
  have hid : id ∉ s.ids := (List.nodup_cons.1 hids).1
  have hrest : ∀ i, i ≠ id → (t.closeGroup id).nodes[i]? = t.nodes[i]? := fun i hi => by
    rw [Tree.closeGroup, nodes_mapKind, if_neg hi.symm]
  refine ⟨hpath.congr rfl fun i hi => hrest i ?_, ?_, hnodup⟩
  · rintro rfl
    exact hdisjoint i hi i (by simp [Shape.ids]) rfl
  · rintro _ ⟨⟩
    refine ⟨?_, hs.congr fun i hi => hrest i (ne_of_mem_of_not_mem hi hid)⟩
    have hnode' : t.nodes[id]? = some ⟨outer? Ls, .group (some s.top) false⟩ := hnode
    rw [Tree.closeGroup, nodes_mapKind, if_pos rfl, hnode']
    rfl

/-! ### Splicing in a binary operator -/

/-- The tree with a node where a child was, and the child on its left. -/
def graft (t : Tree) (child new : Nat) (Ls : List Layer) : Tree :=
  ((t.place new Ls).mapKind new (·.setLeft child)).setParent child (some new)

/-- Putting a node above the last complete operand is grafting. -/
theorem Spine.injectAbove_eq (h : t.Spine Ls (some s)) (new : Nat) :
    t.injectAbove s.top new = t.graft s.top new Ls := by
  have hparent := (h.holds s rfl).parent?_top
  have hreplace : t.replaceChild (outer? Ls) s.top new = t.place new Ls := by
    cases Ls with
    | nil => rfl
    | cons L Ls =>
      have htop : s.top ∉ layerIds (L :: Ls) := h.not_mem_layerIds s.top_mem_ids
      have hkind : (L.kind (some s.top)).replace s.top new = L.kind (some new) := by
        cases L with
        | group id => simp [Layer.kind, Node.Kind.replace]
        | unary id op l => simp [Layer.kind, Node.Kind.replace]
        | binary id op l left =>
          have hne : left.top ≠ s.top := fun heq => htop <| by
            simp [layerIds, Layer.ids, Layer.left?, ← heq, left.top_mem_ids]
          simp [Layer.kind, Node.Kind.replace, hne]
      simp only [replaceChild, outer?, List.head?_cons, Option.map_some, place, fillSlot]
      rw [mapKind_congr h.path.1 (g := fun _ => L.kind (some new)) hkind]
  rw [injectAbove, hparent, hreplace, graft]

/-- Taking the right operand of a binary operator is grafting. -/
theorem Spine.stealRight_eq {op : BinaryOperator} {left : Shape}
    (h : t.Spine (.binary id op level left :: Ls) (some s)) (new : Nat) :
    t.stealRight id new = t.graft s.top new (.binary id op level left :: Ls) := by
  have hnode : t.nodes[id]? = some ⟨outer? Ls, .binary op level (some left.top) (some s.top)⟩ :=
    h.path.1
  have hplace : (t.mapKind id (·.setRight new)).setParent new (some id) =
      t.place new (.binary id op level left :: Ls) := by
    simp only [place, fillSlot, outer?, List.head?_cons, Option.map_some]
    rw [mapKind_congr hnode (g := fun _ => .binary op level (some left.top) (some new)) rfl]
    rfl
  simp [stealRight, kind?, hnode, Node.Kind.right?, hplace, graft]

/-- **Splicing in a binary operator**: it waits for its right operand where its left
one was. -/
theorem Spine.graft (h : t.Spine Ls (some s)) (op : BinaryOperator) (level : Nat) :
    ((t.push (.binary op level none none)).2.graft s.top t.nodes.size Ls).Spine
      (.binary t.nodes.size op level s :: Ls) none := by
  have hpushed := h.push (.binary op level none none)
  have hnew : (t.push (.binary op level none none)).2.nodes[t.nodes.size]? =
      some ⟨none, .binary op level none none⟩ := by
    rw [nodes_push, if_pos rfl]
  generalize (t.push (.binary op level none none)).2 = t₁ at hpushed hnew ⊢
  have hs := hpushed.holds s rfl
  have hlt : ∀ i ∈ s.ids, i < t.nodes.size := (h.holds s rfl).lt_size
  have htop : s.top < t.nodes.size := hlt _ s.top_mem_ids
  have hids : ∀ i ∈ s.ids, i ∉ layerIds Ls := fun i hi => h.not_mem_layerIds hi
  have hfresh : t.nodes.size ∉ layerIds Ls := fun hi => Nat.lt_irrefl _ (h.path.lt_size _ hi)
  -- nothing but the new node and the child differs from the tree where the node is placed
  have hother : ∀ i, i ≠ s.top → i ≠ t.nodes.size →
      (t₁.graft s.top t.nodes.size Ls).nodes[i]? = (t₁.place t.nodes.size Ls).nodes[i]? :=
    fun i hchild hne => by
      rw [Tree.graft, nodes_setParent, if_neg hchild.symm, nodes_mapKind, if_neg hne.symm]
  have hnode : (t₁.graft s.top t.nodes.size Ls).nodes[t.nodes.size]? =
      some ⟨outer? Ls, .binary op level (some s.top) none⟩ := by
    rw [Tree.graft, nodes_setParent, if_neg (Nat.ne_of_lt htop), nodes_mapKind, if_pos rfl,
      node_place hfresh hnew]
    rfl
  have hchild : (t₁.graft s.top t.nodes.size Ls).nodes[s.top]? =
      some ⟨some t.nodes.size, s.kind⟩ := by
    rw [Tree.graft, nodes_setParent, if_pos rfl, nodes_mapKind, if_neg (Nat.ne_of_gt htop),
      nodes_place (hids _ s.top_mem_ids) (Nat.ne_of_gt htop), hs.node]
    rfl
  refine ⟨⟨hnode, ?_, ?_⟩, by rintro _ ⟨⟩, ?_⟩
  · rintro _ ⟨⟩
    refine hs.reparent (List.nodup_append.1 h.nodup).2.1 hchild fun i hi hne => ?_
    have hi' := hlt i hi
    rw [hother i hne (Nat.ne_of_lt hi'), nodes_place (hids i hi) (Nat.ne_of_gt hi')]
  · refine (hpushed.path.place h.nodup_layerIds hfresh).congr rfl fun i hi => hother i ?_ ?_
    · rintro rfl
      exact hids _ s.top_mem_ids hi
    · rintro rfl
      exact hfresh hi
  · have hsize : t.nodes.size ∉ s.ids := fun hi => Nat.lt_irrefl _ (hlt _ hi)
    have hnodup := h.nodup
    simp only [Option.map_some, Option.getD_some, Option.map_none, Option.getD_none,
      List.append_nil, layerIds, Layer.ids, Layer.id, Layer.left?] at hnodup ⊢
    exact List.nodup_middle.2 (List.nodup_cons.2 ⟨by simp [hfresh, hsize], hnodup⟩)

/-! ### What a tree says -/

/-- The term that a node stands for, groups left out. -/
inductive Says (t : Tree) : Option Nat → Term → Prop
  | operand {id : Nat} {o : Operand} (h : t.kind? id = some (.leaf o)) :
      Says t (some id) (.operand o)
  | unary {id level : Nat} {op : UnaryOperator} {operand : Option Nat} {e : Term}
      (h : t.kind? id = some (.unary op level operand)) (he : Says t operand e) :
      Says t (some id) (.unary op e)
  | binary {id level : Nat} {op : BinaryOperator} {left right : Option Nat} {a b : Term}
      (h : t.kind? id = some (.binary op level left right)) (ha : Says t left a)
      (hb : Says t right b) : Says t (some id) (.binary op a b)
  | group {id : Nat} {inner : Option Nat} {closed : Bool} {e : Term}
      (h : t.kind? id = some (.group inner closed)) (he : Says t inner e) : Says t (some id) e

theorem Holds.kind?_top (h : t.Holds parent s) : t.kind? s.top = some s.kind := by
  simp [kind?, h.node]

theorem Holds.says (h : t.Holds parent s) : t.Says (some s.top) s.term := by
  have hkind := h.kind?_top
  induction s generalizing parent with
  | leaf id o => exact .operand hkind
  | unary id op level s ih => exact .unary hkind (ih h.2 h.2.kind?_top)
  | binary id op level left right ihl ihr =>
    exact .binary hkind (ihl h.2.1 h.2.1.kind?_top) (ihr h.2.2 h.2.2.kind?_top)
  | group id s ih => exact .group hkind (ih h.2 h.2.kind?_top)

/-- **The value of a node is the value of its term**, if the depth covers its nodes. -/
theorem Holds.evaluateNode_eq (h : t.Holds parent s) (c : Converter) (resolve : Nat → Value)
    {depth : Nat} (hdepth : s.ids.length ≤ depth) :
    t.evaluateNode c resolve depth (some s.top) = s.term.evaluate c resolve := by
  have hkind := h.kind?_top
  induction s generalizing parent depth with
  | leaf id o =>
    obtain _ | depth := depth
    · simp [Shape.ids] at hdepth
    rw [evaluateNode, hkind]
    cases o <;> rfl
  | unary id op level s ih =>
    obtain _ | depth := depth
    · simp [Shape.ids] at hdepth
    rw [evaluateNode, hkind]
    simp only [Shape.kind, Shape.term, Term.evaluate]
    rw [ih h.2 (Nat.le_of_succ_le_succ hdepth) h.2.kind?_top]
  | binary id op level left right ihl ihr =>
    obtain _ | depth := depth
    · simp [Shape.ids] at hdepth
    have hlengths : left.ids.length + right.ids.length ≤ depth := by
      simpa [Shape.ids] using hdepth
    rw [evaluateNode, hkind]
    simp only [Shape.kind, Shape.term, Term.evaluate]
    rw [ihl h.2.1 (by omega) h.2.1.kind?_top, ihr h.2.2 (by omega) h.2.2.kind?_top]
  | group id s ih =>
    obtain _ | depth := depth
    · simp [Shape.ids] at hdepth
    rw [evaluateNode, hkind]
    exact ih h.2 (Nat.le_of_succ_le_succ hdepth) h.2.kind?_top

/-- A whole tree without waiting layers. -/
theorem Spine.whole (h : t.Spine [] (some s)) :
    t.isEmpty = false ∧ t.Says t.root s.term ∧
      ∀ c resolve, t.evaluate c resolve = s.term.evaluate c resolve := by
  have hroot : t.root = some s.top := h.path
  have hs := h.holds s rfl
  have hempty : t.isEmpty = false := by simp [isEmpty, hroot]
  have hids : s.ids.Nodup := (List.nodup_append.1 h.nodup).2.1
  have hlength : s.ids.length ≤ t.nodes.size := length_le_of_lt hids hs.lt_size
  refine ⟨hempty, hroot ▸ hs.says, fun c resolve => ?_⟩
  rw [evaluate, hempty, hroot]
  exact hs.evaluateNode_eq c resolve hlength

end Tree

end Templating

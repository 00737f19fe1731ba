import Templating.Condition
import Templating.Proofs.Simulation
import Templating.Proofs.Spine
import Templating.Proofs.Validity

/-!
# What is read and built stays in range

A condition is read into numbers: of symbols, of variables and of nodes. Each of them names
something that is there, so no look-up while a condition is read, built or evaluated ever
falls back on a default.

* `Lexeme.InRange`, `Lexicon.ensures_knows`: the lexemes that are read from any scanner.
* `Tree.Closed`: a tree whose nodes name nodes of the tree and visible variables only.
* `Builder.Closed`: the same for a tree under construction, with its active node and groups.
* `Dialect.closed_add`, `Dialect.closed_build`: every lexeme in range keeps it so.
-/

namespace Templating

/-! ## Lexemes -/

/-- A lexeme that names one of so many symbols, or one of so many variables. -/
def Lexeme.InRange (symbols slots : Nat) : Lexeme → Prop
  | symbol index => index < symbols
  | reference slot => slot < slots
  | literal _ | quoted _ => True

namespace Lexicon

variable {σ : Type} [Scanner σ] (lex : Lexicon)

/-- Every lexeme names a reserved token or a variable of the lexicon. -/
def Knows (lexemes : List Lexeme) : Prop :=
  ∀ lexeme ∈ lexemes, lexeme.InRange lex.roles.length lex.names.length

theorem reference?_lt {name : String} {slot : Nat} (h : lex.reference? name = some slot) :
    slot < lex.names.length :=
  (List.findIdx?_eq_some_iff_getElem.1 h).1

/-- What a token stands for is in range, whatever number it has. -/
theorem classify_inRange (index : Nat) :
    match lex.classify index with
    | .symbol symbol _ => symbol < lex.roles.length
    | .reference slot => slot < lex.names.length
    | .terminator => True := by
  unfold classify
  cases hrole : lex.roles[index]? with
  | some role => exact (List.getElem?_eq_some_iff.1 hrole).1
  | none =>
    have hbeyond : lex.roles.length ≤ index := List.getElem?_eq_none_iff.1 hrole
    simp only
    split
    · rename_i hclass
      split at hclass <;> cases hclass
    · rename_i slot hclass
      split at hclass
      · cases hclass
        omega
      · cases hclass
    · trivial

variable {lex} in
theorem Knows.push {p : Progress} {lexeme : Lexeme} (h : lex.Knows p.lexemes)
    (hlexeme : lexeme.InRange lex.roles.length lex.names.length) :
    lex.Knows (p.push lexeme).lexemes :=
  List.forall_mem_cons.2 ⟨hlexeme, h⟩

variable {lex} in
theorem Knows.close {p : Progress} (h : lex.Knows p.lexemes) (e : Encoding) :
    lex.Knows (p.close e).lexemes := by
  unfold Progress.close
  split
  · exact h
  · exact List.forall_mem_cons.2 ⟨trivial, h⟩

/-- What is read so far, whether the condition goes on or not. -/
def KnowsTurn : Turn Progress Progress → Prop
  | .again p | .stop p => lex.Knows p.lexemes

theorem ensures_knowsTurn {p : Progress} (hp : lex.Knows p.lexemes) :
    Ensures (fun _ => True) (lex.turn p : EStateM Error σ _) (fun turn _ => lex.KnowsTurn turn)
      (fun _ => True) := by
  have hpure : ∀ {turn : Turn Progress Progress}, lex.KnowsTurn turn →
      Ensures (fun _ => True) (pure turn : EStateM Error σ _) (fun turn _ => lex.KnowsTurn turn)
        (fun _ => True) := fun h => Ensures.pure fun _ _ => h
  refine (Ensures.any _).bind fun found => ?_
  cases found with
  | none =>
    refine (Ensures.any _).bind fun unit => ?_
    split
    · exact hpure hp
    · exact hpure hp
  | some found =>
    obtain ⟨index, length⟩ := found
    have hrange := lex.classify_inRange index
    have hadvance : ∀ {turn : Turn Progress Progress}, lex.KnowsTurn turn →
        Ensures (fun _ => True) (do Scanner.advance length; pure turn : EStateM Error σ _)
          (fun turn _ => lex.KnowsTurn turn) (fun _ => True) :=
      fun h => (Ensures.any _).bind fun _ => hpure h
    simp only
    cases hclass : lex.classify index with
    | reference slot =>
      rw [hclass] at hrange
      refine (Ensures.any _).bind fun whole => ?_
      cases whole with
      | true => exact hadvance (hp.push hrange)
      | false => exact (Ensures.any _).bind fun _ => hpure hp
    | terminator => exact hadvance hp
    | symbol symbol role =>
      rw [hclass] at hrange
      cases role with
      | lineEnd => exact hpure hp
      | separator => exact hadvance (hp.close _)
      | operator => exact hadvance ((hp.close _).push hrange)
      | quote =>
        exact (Ensures.any _).bind fun _ => (Ensures.any _).bind fun _ =>
          hpure ((hp.close _).push trivial)

/-- **Every lexeme that is read is in range**, whatever it is read from. -/
theorem ensures_knows : Ensures (fun _ => True) (lex.tokenize : EStateM Error σ _)
    (fun lexemes _ => lex.Knows lexemes) (fun _ => True) := by
  -- what has been read is carried from turn to turn
  have hloop : ∀ bound p, Ensures (fun _ => lex.Knows p.lexemes)
      (loop lex.turn id bound p : EStateM Error σ Progress) (fun p _ => lex.Knows p.lexemes)
      (fun _ => True) := by
    refine Ensures.loop (I := fun _ (p : Progress) _ => lex.Knows p.lexemes) (fun _ _ hp => hp)
      fun _ p s hp => ?_
    have hturn := lex.ensures_knowsTurn (σ := σ) hp s trivial
    cases hx : lex.turn p s with
    | error e s' => trivial
    | ok turn s' =>
      rw [hx] at hturn
      cases turn <;> exact hturn
  have hread : Ensures (fun _ => True) (Scanner.loop lex.turn id Progress.start : EStateM Error σ _)
      (fun p _ => lex.Knows p.lexemes) (fun _ => True) := by
    intro s _
    simp only [Scanner.loop, bind_apply, get_apply]
    exact hloop _ Progress.start s (List.forall_mem_nil _)
  refine hread.bind fun p => ?_
  exact Ensures.pure fun _ hp lexeme hmem => hp.close _ lexeme (List.mem_reverse.1 hmem)

end Lexicon

/-! ## Trees -/

namespace Node

/-- The nodes that a kind of node names. -/
def Kind.children : Kind → List Nat
  | .binary _ _ left right => left.toList ++ right.toList
  | .unary _ _ operand => operand.toList
  | .group inner _ => inner.toList
  | .leaf _ => []

/-- The slot of a variable that a kind of node names. -/
def Kind.slot? : Kind → Option Nat
  | .leaf (.reference slot) => some slot
  | _ => none

/-- A kind of node that names some of the first `size` nodes and `slots` variables. -/
structure Kind.Within (size slots : Nat) (kind : Kind) : Prop where
  children : ∀ child ∈ kind.children, child < size
  slot : ∀ slot ∈ kind.slot?, slot < slots

variable {size slots : Nat} {kind kind' : Kind} {child : Nat}

theorem Kind.Within.mono {size' : Nat} (h : kind.Within size slots) (hle : size ≤ size') :
    kind.Within size' slots :=
  ⟨fun child hmem => Nat.lt_of_lt_of_le (h.children child hmem) hle, h.slot⟩

/-- A kind of node that names no other nodes than another one, and one new child. -/
theorem Kind.Within.of_children (h : kind.Within size slots) (hchild : child < size)
    (hchildren : ∀ c ∈ kind'.children, c ∈ kind.children ∨ c = child)
    (hslot : kind'.slot? = kind.slot?) : kind'.Within size slots := by
  constructor
  · intro c hc
    rcases hchildren c hc with hold | rfl
    · exact h.children c hold
    · exact hchild
  · intro slot hmem
    exact h.slot slot (hslot ▸ hmem)

theorem Kind.Within.bind? (h : kind.Within size slots) (hchild : child < size)
    (hkind : kind.bind? child = some kind') : kind'.Within size slots := by
  refine h.of_children hchild ?_ ?_ <;>
    (unfold Kind.bind? at hkind
     split at hkind <;> cases hkind <;> simp [Kind.children, Kind.slot?])
  all_goals tauto

theorem Kind.Within.replace (h : kind.Within size slots) (old : Nat) (hchild : child < size) :
    (kind.replace old child).Within size slots := by
  refine h.of_children hchild ?_ ?_
  · intro c hc
    unfold Kind.replace at hc
    cases kind with
    | binary op level left right =>
      simp only at hc
      split at hc
      · simp [Kind.children] at hc ⊢; tauto
      · split at hc
        · simp [Kind.children] at hc ⊢; tauto
        · exact .inl hc
    | unary op level operand =>
      simp only [Kind.children, Option.mem_toList] at hc ⊢
      split at hc
      · exact .inr (Option.some.inj hc).symm
      · exact .inl hc
    | group inner closed =>
      simp only [Kind.children, Option.mem_toList] at hc ⊢
      split at hc
      · exact .inr (Option.some.inj hc).symm
      · exact .inl hc
    | leaf operand => exact .inl hc
  · cases kind with
    | binary op level left right => unfold Kind.replace; simp only; split <;> [rfl; (split <;> rfl)]
    | _ => rfl

theorem Kind.Within.setLeft (h : kind.Within size slots) (hchild : child < size) :
    (kind.setLeft child).Within size slots := by
  cases kind with
  | binary op level left right =>
    refine h.of_children hchild (fun c hc => ?_) rfl
    simp [Kind.setLeft, Kind.children] at hc ⊢
    tauto
  | _ => exact h

theorem Kind.Within.setRight (h : kind.Within size slots) (hchild : child < size) :
    (kind.setRight child).Within size slots := by
  cases kind with
  | binary op level left right =>
    refine h.of_children hchild (fun c hc => ?_) rfl
    simp [Kind.setRight, Kind.children] at hc ⊢
    tauto
  | _ => exact h

theorem Kind.Within.close (h : kind.Within size slots) : kind.close.Within size slots := by
  cases kind with
  | group inner closed => exact ⟨h.children, h.slot⟩
  | _ => exact h

end Node

namespace Tree

/-- **A closed tree**: its root and its nodes name nodes of the tree only, and its operands
name some of the first `slots` variables only. -/
structure Closed (t : Tree) (slots : Nat) : Prop where
  root : ∀ id ∈ t.root, id < t.nodes.size
  parent : ∀ (i : Nat) (n : Node), t.nodes[i]? = some n → ∀ p ∈ n.parent, p < t.nodes.size
  kind : ∀ (i : Nat) (n : Node), t.nodes[i]? = some n → n.kind.Within t.nodes.size slots

variable {t : Tree} {slots id child target new : Nat}

theorem size_push (t : Tree) (kind : Node.Kind) : (t.push kind).2.nodes.size = t.nodes.size + 1 :=
  Array.size_push ..

@[simp]
theorem size_setParent (t : Tree) (id : Nat) (parent : Option Nat) :
    (t.setParent id parent).nodes.size = t.nodes.size := Array.size_modify

@[simp]
theorem size_mapKind (t : Tree) (id : Nat) (f : Node.Kind → Node.Kind) :
    (t.mapKind id f).nodes.size = t.nodes.size := Array.size_modify

theorem lt_size_of_kind? {kind : Node.Kind} (h : t.kind? id = some kind) : id < t.nodes.size := by
  obtain ⟨_, hnode, -⟩ := Option.map_eq_some_iff.1 h
  exact lt_size_of_node hnode

/-- What a parent has when its child does, climbing keeps. -/
theorem climb_of_parent {P : Nat → Prop}
    (hparent : ∀ {id p}, P id → t.parent? id = some p → P p) (level steps : Nat) :
    ∀ {target : Nat}, P target → P (t.climb level steps target) := by
  induction steps with
  | zero => exact fun htarget => htarget
  | succ steps ih =>
    intro target htarget
    rw [climb]
    cases hp : t.parent? target with
    | none => exact htarget
    | some p =>
      simp only
      split
      · exact htarget
      · cases t.level? p with
        | none => exact htarget
        | some l =>
          simp only
          split
          · exact ih (hparent htarget hp)
          · exact htarget

/-- What attaching does: the child becomes the root, or takes the first free slot. -/
theorem attach?_cases {parent : Option Nat} {t' : Tree} (ht : t.attach? parent child = some t') :
    (parent = none ∧ t.root = none ∧ t' = { t.setParent child none with root := some child }) ∨
    ∃ p kind kind', parent = some p ∧ t.kind? p = some kind ∧ kind.bind? child = some kind' ∧
      t' = (t.mapKind p fun _ => kind').setParent child (some p) := by
  unfold Tree.attach? at ht
  cases parent with
  | none =>
    simp only at ht
    split at ht
    · cases ht
    case isFalse hroot =>
      cases ht
      exact .inl ⟨rfl, by simpa using hroot, rfl⟩
  | some p =>
    obtain ⟨kind', hbind, rfl⟩ := Option.map_eq_some_iff.1 ht
    obtain ⟨kind, hkind, hbind⟩ := Option.bind_eq_some_iff.1 hbind
    exact .inr ⟨p, kind, kind', rfl, hkind, hbind, rfl⟩

theorem closed_empty : empty.Closed slots := ⟨nofun, nofun, nofun⟩

namespace Closed

variable (h : t.Closed slots)

include h

theorem parent?_lt {p : Nat} (hp : t.parent? id = some p) : p < t.nodes.size := by
  unfold parent? at hp
  obtain ⟨n, hn, hparent⟩ := Option.bind_eq_some_iff.1 hp
  exact h.parent id n hn p hparent

theorem kind?_within {kind : Node.Kind} (hkind : t.kind? id = some kind) :
    kind.Within t.nodes.size slots := by
  unfold kind? at hkind
  obtain ⟨n, hn, rfl⟩ := Option.map_eq_some_iff.1 hkind
  exact h.kind id n hn

theorem push (kind : Node.Kind) (hkind : kind.Within t.nodes.size slots) :
    (t.push kind).2.Closed slots := by
  have hle : t.nodes.size ≤ (t.push kind).2.nodes.size := by
    rw [size_push]
    exact Nat.le_succ _
  constructor
  · intro id hroot
    exact Nat.lt_of_lt_of_le (h.root id hroot) hle
  · intro i n hn p hp
    rw [nodes_push] at hn
    split at hn
    · cases hn
      cases hp
    · exact Nat.lt_of_lt_of_le (h.parent i n hn p hp) hle
  · intro i n hn
    rw [nodes_push] at hn
    split at hn
    · cases hn
      exact hkind.mono hle
    · exact (h.kind i n hn).mono hle

theorem setParent (id : Nat) (parent : Option Nat) (hparent : ∀ p ∈ parent, p < t.nodes.size) :
    (t.setParent id parent).Closed slots := by
  refine ⟨fun id' hroot => ?_, fun i n hn p hp => ?_, fun i n hn => ?_⟩
  · rw [size_setParent]
    exact h.root id' hroot
  · rw [size_setParent]
    rw [nodes_setParent] at hn
    split at hn
    · obtain ⟨n', -, rfl⟩ := Option.map_eq_some_iff.1 hn
      exact hparent p hp
    · exact h.parent i n hn p hp
  · rw [size_setParent]
    rw [nodes_setParent] at hn
    split at hn
    · obtain ⟨n', hn', rfl⟩ := Option.map_eq_some_iff.1 hn
      exact h.kind i n' hn'
    · exact h.kind i n hn

theorem mapKind (id : Nat) {f : Node.Kind → Node.Kind}
    (hf : ∀ kind, kind.Within t.nodes.size slots → (f kind).Within t.nodes.size slots) :
    (t.mapKind id f).Closed slots := by
  refine ⟨fun id' hroot => ?_, fun i n hn p hp => ?_, fun i n hn => ?_⟩
  · rw [size_mapKind]
    exact h.root id' hroot
  · rw [size_mapKind]
    rw [nodes_mapKind] at hn
    split at hn
    · obtain ⟨n', hn', rfl⟩ := Option.map_eq_some_iff.1 hn
      exact h.parent i n' hn' p hp
    · exact h.parent i n hn p hp
  · rw [size_mapKind]
    rw [nodes_mapKind] at hn
    split at hn
    · obtain ⟨n', hn', rfl⟩ := Option.map_eq_some_iff.1 hn
      exact hf _ (h.kind i n' hn')
    · exact h.kind i n hn

theorem withRoot (hid : id < t.nodes.size) : Closed { t with root := some id } slots :=
  ⟨fun _ hroot => Option.some.inj hroot ▸ hid, h.parent, h.kind⟩

/-! ### Splicing -/

/-- A child is hung below a node of the tree, or becomes its root. -/
theorem attach? {parent : Option Nat} {t' : Tree} (hchild : child < t.nodes.size)
    (ht : t.attach? parent child = some t') :
    t'.Closed slots ∧ t'.nodes.size = t.nodes.size := by
  obtain ⟨-, -, rfl⟩ | ⟨p, old, kind, -, hold, hkind, rfl⟩ := attach?_cases ht
  · have hset := h.setParent child none nofun
    exact ⟨hset.withRoot (by rwa [size_setParent]), size_setParent ..⟩
  · have hmap := h.mapKind p (f := fun _ => kind) fun _ _ =>
      (h.kind?_within hold).bind? hchild hkind
    refine ⟨hmap.setParent child (some p) fun q hq => ?_, by rw [size_setParent, size_mapKind]⟩
    rw [size_mapKind, ← Option.some.inj hq]
    exact lt_size_of_kind? hold

theorem attach (parent : Option Nat) (hchild : child < t.nodes.size) :
    (t.attach parent child).Closed slots ∧ (t.attach parent child).nodes.size = t.nodes.size := by
  unfold Tree.attach
  cases ht : t.attach? parent child with
  | none => exact ⟨h, rfl⟩
  | some t' => exact h.attach? hchild ht

theorem replaceChild {parent : Option Nat} (old : Nat) (hparent : ∀ p ∈ parent, p < t.nodes.size)
    (hnew : new < t.nodes.size) : (t.replaceChild parent old new).Closed slots ∧
      (t.replaceChild parent old new).nodes.size = t.nodes.size := by
  cases parent with
  | none => exact ⟨(h.withRoot hnew).setParent new none nofun, size_setParent ..⟩
  | some p =>
    have hmap := h.mapKind p fun kind hkind => hkind.replace old hnew
    refine ⟨hmap.setParent new (some p) ?_, by
      show (Tree.setParent _ new (some p)).nodes.size = _
      rw [size_setParent, size_mapKind]⟩
    rw [size_mapKind]
    exact hparent

theorem injectAbove (htarget : target < t.nodes.size) (hnew : new < t.nodes.size) :
    (t.injectAbove target new).Closed slots ∧
      (t.injectAbove target new).nodes.size = t.nodes.size := by
  obtain ⟨hreplaced, hsize⟩ := h.replaceChild target (fun p hp => h.parent?_lt hp) hnew
  have htarget' : target < (t.replaceChild (t.parent? target) target new).nodes.size := by
    rwa [hsize]
  have hmap := hreplaced.mapKind new fun kind hkind => hkind.setLeft htarget'
  refine ⟨hmap.setParent target (some new) fun p hp => ?_, ?_⟩
  · rw [size_mapKind, hsize, ← Option.some.inj hp]
    exact hnew
  · show (Tree.setParent _ target (some new)).nodes.size = _
    rw [size_setParent, size_mapKind, hsize]

theorem stealRight (hid : id < t.nodes.size) (hnew : new < t.nodes.size) :
    (t.stealRight id new).Closed slots ∧ (t.stealRight id new).nodes.size = t.nodes.size := by
  have hmap := h.mapKind id fun kind hkind => hkind.setRight hnew
  have hplaced := hmap.setParent new (some id) fun p hp => by
    rw [size_mapKind, ← Option.some.inj hp]
    exact hid
  have hsize : ((t.mapKind id (·.setRight new)).setParent new (some id)).nodes.size =
      t.nodes.size := by rw [size_setParent, size_mapKind]
  unfold Tree.stealRight
  cases hstolen : (t.kind? id).bind (·.right?) with
  | none => exact ⟨hplaced, hsize⟩
  | some stolen =>
    obtain ⟨kind, hkind, hright⟩ := Option.bind_eq_some_iff.1 hstolen
    have hlt : stolen < t.nodes.size := by
      refine (h.kind?_within hkind).children stolen ?_
      cases kind with
      | binary op level left right => exact List.mem_append_right _ (Option.mem_toList.2 hright)
      | _ => cases hright
    rw [← hsize] at hlt
    have hleft := hplaced.mapKind new fun kind hkind => hkind.setLeft hlt
    refine ⟨hleft.setParent stolen (some new) fun p hp => ?_, by
      simp only [size_setParent, size_mapKind]⟩
    rw [size_mapKind, hsize, ← Option.some.inj hp]
    exact hnew

theorem closeGroup (id : Nat) : (t.closeGroup id).Closed slots :=
  h.mapKind id fun _ hkind => hkind.close

/-- Climbing stays in the tree. -/
theorem climb_lt (level steps : Nat) (htarget : target < t.nodes.size) :
    t.climb level steps target < t.nodes.size :=
  climb_of_parent (fun _ hp => h.parent?_lt hp) level steps htarget

theorem spliceBinary (htarget : target < t.nodes.size) (op : BinaryOperator) (level : Nat) :
    (t.spliceBinary target op level).2.Closed slots ∧
      (t.spliceBinary target op level).1 < (t.spliceBinary target op level).2.nodes.size ∧
      t.nodes.size ≤ (t.spliceBinary target op level).2.nodes.size := by
  have hpush := h.push (.binary op level none none) ⟨nofun, nofun⟩
  have hsize := size_push t (.binary op level none none)
  have hlt : target < (t.push (.binary op level none none)).2.nodes.size := by omega
  have hnew : t.nodes.size < (t.push (.binary op level none none)).2.nodes.size := by omega
  unfold Tree.spliceBinary
  simp only [fst_push]
  split
  · obtain ⟨hclosed, hsteal⟩ := hpush.stealRight hlt hnew
    refine ⟨hclosed, ?_, ?_⟩ <;> (simp only [hsteal]; omega)
  · obtain ⟨hclosed, hinject⟩ := hpush.injectAbove (hpush.climb_lt level _ hlt) hnew
    refine ⟨hclosed, ?_, ?_⟩ <;> (simp only [leftOperand, hinject]; omega)

end Closed

end Tree

/-! ## Building -/

namespace Builder

/-- **A closed builder**: its tree is closed, and it names nodes of its tree only. -/
structure Closed (b : Builder) (slots : Nat) : Prop where
  tree : b.tree.Closed slots
  active : ∀ id ∈ b.active, id < b.tree.nodes.size
  groups : ∀ id ∈ b.groups, id < b.tree.nodes.size

variable {b : Builder} {slots : Nat}

theorem closed_start : start.Closed slots := ⟨Tree.closed_empty, nofun, nofun⟩

namespace Closed

variable (h : b.Closed slots)

include h

/-- A tree that has only grown, with a node of it that is active now. -/
theorem grown {t : Tree} {id : Nat} (ht : t.Closed slots) (hle : b.tree.nodes.size ≤ t.nodes.size)
    (hid : id < t.nodes.size) (expectOperand : Bool) :
    Closed { b with tree := t, active := some id, expectOperand := expectOperand } slots :=
  ⟨ht, fun _ hmem => Option.some.inj hmem ▸ hid,
    fun id hmem => Nat.lt_of_lt_of_le (h.groups id hmem) hle⟩

theorem descend (kind : Node.Kind) (hkind : kind.Within b.tree.nodes.size slots) :
    (b.descend kind).Closed slots := by
  have hsize := Tree.size_push b.tree kind
  have hnew : b.tree.nodes.size < (b.tree.push kind).2.nodes.size := by omega
  obtain ⟨hclosed, hattach⟩ := (h.tree.push kind hkind).attach b.active hnew
  exact h.grown hclosed (by omega) (by omega) _

theorem openGroup : b.openGroup.Closed slots := by
  have hopened := h.descend (.group none false) ⟨nofun, nofun⟩
  refine ⟨hopened.tree, hopened.active, fun id hmem => ?_⟩
  rcases List.mem_append.1 hmem with hnew | hold
  · exact hopened.active id (Option.mem_toList.1 hnew)
  · exact hopened.groups id hold

theorem closeGroup? {b' : Builder} (hclose : b.closeGroup? = some b') : b'.Closed slots := by
  unfold Builder.closeGroup? at hclose
  cases hgroups : b.groups with
  | nil =>
    rw [hgroups] at hclose
    cases hclose
  | cons group rest =>
    rw [hgroups] at hclose
    cases hclose
    have hlt : ∀ id ∈ group :: rest, id < (b.tree.closeGroup group).nodes.size := by
      intro id hmem
      unfold Tree.closeGroup
      rw [Tree.size_mapKind]
      exact h.groups id (hgroups ▸ hmem)
    refine ⟨h.tree.closeGroup group, fun id hmem => ?_, fun id hmem => ?_⟩
    · exact Option.some.inj hmem ▸ hlt group List.mem_cons_self
    · exact hlt id (List.mem_cons_of_mem _ hmem)

theorem attachLeaf? {operand : Operand} {id : Nat} {b' : Builder}
    (hoperand : (Node.Kind.leaf operand).Within b.tree.nodes.size slots)
    (hattach : b.attachLeaf? operand = some (id, b')) :
    b'.Closed slots ∧ id < b'.tree.nodes.size := by
  unfold Builder.attachLeaf? at hattach
  obtain ⟨t, ht, heq⟩ := Option.map_eq_some_iff.1 hattach
  cases heq
  have hsize := Tree.size_push b.tree (.leaf operand)
  have hnew : b.tree.nodes.size < (b.tree.push (.leaf operand)).2.nodes.size := by omega
  obtain ⟨hclosed, hattached⟩ := (h.tree.push _ hoperand).attach? hnew ht
  have hgrown : b.tree.nodes.size < t.nodes.size := by omega
  refine ⟨⟨hclosed, fun id hmem => ?_, fun id hmem => ?_⟩, hgrown⟩
  · exact Nat.lt_trans (h.active id hmem) hgrown
  · exact Nat.lt_trans (h.groups id hmem) hgrown

end Closed

end Builder

theorem Operand.within {size slots : Nat} {operand : Operand}
    (h : ∀ slot, operand = .reference slot → slot < slots) :
    (Node.Kind.leaf operand).Within size slots := by
  refine ⟨nofun, fun slot hmem => ?_⟩
  cases operand with
  | literal v => cases hmem
  | reference slot' => exact h slot (congrArg _ (Option.some.inj hmem))

namespace Logical

variable {b b' : Builder} {slots : Nat} {lexeme : Lexeme}

theorem closed_addOperand (h : b.Closed slots) {operand : Operand}
    (hoperand : ∀ slot, operand = .reference slot → slot < slots)
    (hadd : addOperand b operand lexeme = .ok b') : b'.Closed slots := by
  unfold addOperand at hadd
  split at hadd
  · cases hadd
  · cases hattach : b.attachLeaf? operand with
    | none =>
      rw [hattach] at hadd
      cases hadd
    | some found =>
      obtain ⟨id, attached⟩ := found
      rw [hattach] at hadd
      cases hadd
      obtain ⟨hclosed, hid⟩ := h.attachLeaf? (Operand.within hoperand) hattach
      exact hclosed.grown hclosed.tree (Nat.le_refl _) hid _

theorem closed_addBinary (h : b.Closed slots) (op : BinaryOperator) (level : Nat) {operand : Nat}
    (hoperand : operand < b.tree.nodes.size) : (addBinary b op level operand).Closed slots := by
  have hpush := h.tree.push (.binary op level none none) ⟨nofun, nofun⟩
  have hsize := Tree.size_push b.tree (.binary op level none none)
  -- the operand is looked for in the tree before it grows
  have htarget : b.tree.leftOperand level operand <
      (b.tree.push (.binary op level none none)).2.nodes.size := by
    have hclimb := h.tree.climb_lt level b.tree.nodes.size hoperand
    unfold Tree.leftOperand
    omega
  have hnew : b.tree.nodes.size < (b.tree.push (.binary op level none none)).2.nodes.size := by
    omega
  obtain ⟨hclosed, hinject⟩ := hpush.injectAbove htarget hnew
  exact h.grown hclosed (by omega) (by omega) _

theorem closed_addSymbol (h : b.Closed slots) {use : SymbolUse}
    (hadd : addSymbol b use lexeme = .ok b') : b'.Closed slots := by
  unfold addSymbol at hadd
  split at hadd
  · split at hadd
    · cases hadd
    · cases hadd
      exact h.openGroup
  · split at hadd
    · cases hadd
    · split at hadd
      · rename_i closed hclose
        cases hadd
        exact h.closeGroup? hclose
      · cases hadd
  · split at hadd
    · cases hadd
    · cases hadd
      exact h.descend _ ⟨nofun, nofun⟩
  · split at hadd
    · rename_i operand hactive hexpect
      cases hadd
      exact closed_addBinary h _ _ (h.active operand hactive)
    · cases hadd
  · cases hadd

theorem closed_add (h : b.Closed slots) {symbols : Nat} (hlexeme : lexeme.InRange symbols slots)
    (hadd : add b lexeme = .ok b') : b'.Closed slots := by
  cases lexeme with
  | reference slot =>
    exact closed_addOperand h (fun _ heq => Operand.reference.inj heq ▸ hlexeme) hadd
  | literal text => exact closed_addOperand h (fun _ heq => by cases heq) hadd
  | quoted text => exact closed_addOperand h (fun _ heq => by cases heq) hadd
  | symbol index => exact closed_addSymbol h hadd

end Logical

namespace Vocabulary

variable {b b' : Builder} {slots : Nat} {lexeme : Lexeme}

theorem closed_addOperand (h : b.Closed slots) {operand : Operand}
    (hoperand : ∀ slot, operand = .reference slot → slot < slots)
    (hadd : addOperand b operand lexeme = .ok b') : b'.Closed slots := by
  unfold addOperand at hadd
  split at hadd
  · cases hadd
  · cases hattach : b.attachLeaf? operand with
    | none =>
      rw [hattach] at hadd
      cases hadd
    | some found =>
      obtain ⟨id, attached⟩ := found
      rw [hattach] at hadd
      cases hadd
      obtain ⟨hclosed, hid⟩ := h.attachLeaf? (Operand.within hoperand) hattach
      refine ⟨hclosed.tree, fun container hmem => ?_, hclosed.groups⟩
      -- the leaf itself is active, or the operator above it
      cases hparent : (attached.tree.parent? id).filter
          fun p => (attached.tree.level? p).isSome with
      | none =>
        rw [hparent] at hmem
        exact Option.some.inj hmem ▸ hid
      | some p =>
        rw [hparent] at hmem
        obtain rfl : p = container := Option.some.inj hmem
        exact hclosed.tree.parent?_lt (Option.filter_eq_some_iff.1 hparent).1

theorem closed_addOperator (h : b.Closed slots) {between : Option (BinaryOperator × Nat)}
    {before : Option (UnaryOperator × Nat)} {text : String}
    (hadd : addOperator b between before text = .ok b') : b'.Closed slots := by
  unfold addOperator at hadd
  split at hadd
  · split at hadd
    · cases hadd
      exact h.descend _ ⟨nofun, nofun⟩
    · cases hadd
  · split at hadd
    · rename_i active hactive
      cases hadd
      obtain ⟨hclosed, hid, hle⟩ := h.tree.spliceBinary (h.active active hactive) _ _
      exact h.grown hclosed hle hid _
    · cases hadd

theorem closed_addSymbol (h : b.Closed slots) {s : Symbol} (hadd : addSymbol b s = .ok b') :
    b'.Closed slots := by
  unfold addSymbol at hadd
  split at hadd
  · split at hadd
    · cases hadd
    · cases hadd
      exact h.openGroup
  · split at hadd
    · cases hadd
    · split at hadd
      · rename_i closed hclose
        cases hadd
        exact h.closeGroup? hclose
      · cases hadd
  · exact closed_addOperator h hadd
  · exact closed_addOperator h hadd

theorem closed_add (v : Vocabulary) {lex : Lexicon} (h : b.Closed lex.names.length) {symbols : Nat}
    (hlexeme : lexeme.InRange symbols lex.names.length) (hadd : v.add lex b lexeme = .ok b') :
    b'.Closed lex.names.length := by
  cases lexeme with
  | reference slot =>
    exact closed_addOperand h (fun _ heq => Operand.reference.inj heq ▸ hlexeme) hadd
  | literal text => exact closed_addOperand h (fun _ heq => by cases heq) hadd
  | symbol index => exact closed_addSymbol h hadd
  | quoted text =>
    refine closed_addOperand h (fun slot heq => ?_) hadd
    -- a quoted text stands for a variable only by its number
    unfold quotedOperand at heq
    split at heq
    · rename_i slot' _ hslot
      cases heq
      exact lex.reference?_lt hslot
    · cases heq

end Vocabulary

namespace Dialect

/-- Adds the next lexeme in a dialect. -/
def add (d : Dialect) (lex : Lexicon) : Builder → Lexeme → Except ExpressionError Builder :=
  match d with
  | logical => Logical.add
  | arithmetical => Arithmetical.vocabulary.add lex

/-- A tree that is built is that of the builder after its last lexeme. -/
theorem exists_builder {d : Dialect} {lex : Lexicon} {lexemes : List Lexeme} {t : Tree}
    (h : d.build lex lexemes = .ok t) :
    ∃ b, lexemes.foldlM (d.add lex) Builder.start = .ok b ∧ b.tree = t := by
  cases d with
  | logical =>
    obtain ⟨b, hb, hrest⟩ := bind_eq_ok.1 h
    refine ⟨b, hb, ?_⟩
    split at hrest
    · cases hrest
    · split at hrest
      · cases hrest
      · exact Except.ok.inj hrest
  | arithmetical =>
    obtain ⟨b, hb, hrest⟩ := bind_eq_ok.1 h
    refine ⟨b, hb, ?_⟩
    split at hrest
    · cases hrest
    · split at hrest
      · cases hrest
      · exact Except.ok.inj hrest

variable {d : Dialect} {lex : Lexicon}

theorem closed_add {b b' : Builder} {lexeme : Lexeme} (h : b.Closed lex.names.length)
    (hlexeme : lexeme.InRange lex.roles.length lex.names.length)
    (hadd : d.add lex b lexeme = .ok b') : b'.Closed lex.names.length := by
  cases d with
  | logical => exact Logical.closed_add h hlexeme hadd
  | arithmetical => exact Vocabulary.closed_add _ h hlexeme hadd

/-- **Whatever lexemes in range have been added**, the builder is closed. -/
theorem closed_foldlM {lexemes : List Lexeme} (hlexemes : lex.Knows lexemes) :
    ∀ {b b' : Builder}, b.Closed lex.names.length → lexemes.foldlM (d.add lex) b = .ok b' →
      b'.Closed lex.names.length := by
  induction lexemes with
  | nil =>
    rintro b _ h ⟨⟩
    exact h
  | cons lexeme lexemes ih =>
    intro b b' h hfold
    rw [List.foldlM_cons] at hfold
    obtain ⟨b₁, hadd, hrest⟩ := bind_eq_ok.1 hfold
    obtain ⟨hlexeme, hlexemes⟩ := List.forall_mem_cons.1 hlexemes
    exact ih hlexemes (closed_add h hlexeme hadd) hrest

/-- **A tree that is built** from lexemes in range is closed. -/
theorem closed_build {lexemes : List Lexeme} (hlexemes : lex.Knows lexemes) {t : Tree}
    (h : d.build lex lexemes = .ok t) : t.Closed lex.names.length := by
  obtain ⟨b, hfold, rfl⟩ := exists_builder h
  exact (closed_foldlM hlexemes Builder.closed_start hfold).tree

end Dialect

end Templating

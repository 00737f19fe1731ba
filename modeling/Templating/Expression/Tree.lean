import Templating.Operator

/-!
# Expression trees under construction

A tree is built from left to right by adding nodes to an arena and splicing
them in: below a node with a free slot (`Tree.attach?`), above a node
(`Tree.injectAbove`), or between a node and its right operand
(`Tree.stealRight`). Every node names its parent, so that a builder can climb
from the last operand to where the next operator belongs.

* `Tree.evaluate`: the value of a tree. Operands are evaluated first, the left
  one before the right one.
-/

namespace Templating

inductive Operand where
  | literal (v : Value)
  /-- The variable in a slot, looked up when the tree is evaluated. -/
  | reference (slot : Nat)

/-- What a node is, with its slots. An operator node has its binding level: the
higher, the tighter. -/
inductive Node.Kind where
  | binary (op : BinaryOperator) (level : Nat) (left right : Option Nat)
  | unary (op : UnaryOperator) (level : Nat) (operand : Option Nat)
  | leaf (operand : Operand)
  | group (inner : Option Nat) (closed : Bool)

structure Node where
  parent : Option Nat
  kind : Node.Kind

structure Tree where
  nodes : Array Node
  root : Option Nat

namespace Node.Kind

def isOpenGroup : Node.Kind → Bool
  | group _ closed => !closed
  | _ => false

def isBinary : Node.Kind → Bool
  | binary .. => true
  | _ => false

def level? : Node.Kind → Option Nat
  | binary _ level _ _ | unary _ level _ => some level
  | _ => none

/-- The kind with a child in its first free slot, if it has one. -/
def bind? (child : Nat) : Node.Kind → Option Node.Kind
  | binary op level none right => some (binary op level (some child) right)
  | binary op level left none => some (binary op level left (some child))
  | unary op level none => some (unary op level (some child))
  | group none false => some (group (some child) false)
  | _ => none

/-- The kind with one child in the slot of another. -/
def replace (old new : Nat) : Node.Kind → Node.Kind
  | binary op level left right =>
    if left = some old then binary op level (some new) right
    else if right = some old then binary op level left (some new)
    else binary op level left right
  | unary op level operand => unary op level (if operand = some old then some new else operand)
  | group inner closed => group (if inner = some old then some new else inner) closed
  | leaf operand => leaf operand

def setLeft (child : Nat) : Node.Kind → Node.Kind
  | binary op level _ right => binary op level (some child) right
  | kind => kind

def right? : Node.Kind → Option Nat
  | binary _ _ _ right => right
  | _ => none

def setRight (child : Nat) : Node.Kind → Node.Kind
  | binary op level left _ => binary op level left (some child)
  | kind => kind

def close : Node.Kind → Node.Kind
  | group inner _ => group inner true
  | kind => kind

end Node.Kind

namespace Tree

def empty : Tree := ⟨#[], none⟩

def isEmpty (t : Tree) : Bool := t.root.isNone

def kind? (t : Tree) (id : Nat) : Option Node.Kind := t.nodes[id]?.map (·.kind)

def parent? (t : Tree) (id : Nat) : Option Nat := t.nodes[id]?.bind (·.parent)

def level? (t : Tree) (id : Nat) : Option Nat := (t.kind? id).bind (·.level?)

def isOpenGroup (t : Tree) (id : Nat) : Bool := (t.kind? id).any (·.isOpenGroup)

def isBinary (t : Tree) (id : Nat) : Bool := (t.kind? id).any (·.isBinary)

/-- Adds a node that is not yet part of the tree, and gives its number. -/
def push (t : Tree) (kind : Node.Kind) : Nat × Tree :=
  (t.nodes.size, { t with nodes := t.nodes.push ⟨none, kind⟩ })

def setParent (t : Tree) (id : Nat) (parent : Option Nat) : Tree :=
  { t with nodes := t.nodes.modify id fun n => { n with parent := parent } }

def mapKind (t : Tree) (id : Nat) (f : Node.Kind → Node.Kind) : Tree :=
  { t with nodes := t.nodes.modify id fun n => { n with kind := f n.kind } }

/-- Binds a child to the first free slot of its parent, or makes it the root. -/
def attach? (t : Tree) (parent : Option Nat) (child : Nat) : Option Tree :=
  match parent with
  | none =>
    if t.root.isSome then none else some { t.setParent child none with root := some child }
  | some p =>
    ((t.kind? p).bind (·.bind? child)).map fun kind =>
      (t.mapKind p fun _ => kind).setParent child (some p)

/-- Binds a child where there is a free slot, and else leaves the tree as it is. -/
def attach (t : Tree) (parent : Option Nat) (child : Nat) : Tree :=
  (t.attach? parent child).getD t

def replaceChild (t : Tree) (parent : Option Nat) (old new : Nat) : Tree :=
  match parent with
  | none => { t with root := some new }.setParent new none
  | some p => (t.mapKind p (·.replace old new)).setParent new (some p)

/-- Puts a binary node where `target` is, and hangs `target` below it on the left. -/
def injectAbove (t : Tree) (target new : Nat) : Tree :=
  ((t.replaceChild (t.parent? target) target new).mapKind new (·.setLeft target)).setParent
    target (some new)

/-- Moves the right operand of a node below a binary node, which takes its slot. -/
def stealRight (t : Tree) (node new : Nat) : Tree :=
  let placed := (t.mapKind node (·.setRight new)).setParent new (some node)
  match (t.kind? node).bind (·.right?) with
  | some stolen => (placed.mapKind new (·.setLeft stolen)).setParent stolen (some new)
  | none => placed

def closeGroup (t : Tree) (id : Nat) : Tree := t.mapKind id (·.close)

/-- The highest node above `target` all of whose operators up to it bind at least
as tightly as `level`; an open group is a barrier. -/
def climb (t : Tree) (level : Nat) : Nat → Nat → Nat
  | 0, target => target
  | steps + 1, target =>
    match t.parent? target with
    | none => target
    | some p =>
      if t.isOpenGroup p then target
      else match t.level? p with
        | none => target
        | some l => if level ≤ l then t.climb level steps p else target

/-- The node that an operator of a level takes as its left operand. -/
def leftOperand (t : Tree) (level target : Nat) : Nat := t.climb level t.nodes.size target

def missing : ExpressionError := .syntaxAt .missingOperand ""

/-- The value of a node whose subtree is at most so many nodes deep. -/
def evaluateNode (t : Tree) (c : Converter) (resolve : Nat → Value) :
    Nat → Option Nat → Except ExpressionError Value
  | 0, _ | _, none => throw missing
  | depth + 1, some id =>
    match t.kind? id with
    | none => throw missing
    | some (.binary op _ left right) => do
      let a ← t.evaluateNode c resolve depth left
      let b ← t.evaluateNode c resolve depth right
      op.apply c a b
    | some (.unary op _ operand) => do
      let a ← t.evaluateNode c resolve depth operand
      op.apply c a
    | some (.leaf (.literal v)) => pure v
    | some (.leaf (.reference slot)) => pure (resolve slot)
    | some (.group inner _) => t.evaluateNode c resolve depth inner

/-- **The value of a tree**, null when it is empty. No branch of a tree is longer
than the number of its nodes. -/
def evaluate (t : Tree) (c : Converter) (resolve : Nat → Value) : Except ExpressionError Value :=
  if t.isEmpty then pure .null else t.evaluateNode c resolve t.nodes.size t.root

end Tree

end Templating

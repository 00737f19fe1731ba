import Templating.Expression.Tree
import Templating.Lexicon

/-!
# Vocabularies of conditions

A `Vocabulary` lists the reserved tokens of an evaluator with their uses. An
operator has a binding level, the higher the tighter. A `Builder` holds an
expression of which a beginning has been read.
-/

namespace Templating

/-- What a reserved token does in an expression. -/
inductive SymbolUse where
  /-- An operator with its level, between two operands or before one. -/
  | operator (between : Option (BinaryOperator × Nat)) (before : Option (UnaryOperator × Nat))
  | openGroup
  | closeGroup
  | separator
  | quote
  | lineEnd

namespace SymbolUse

def binary (op : BinaryOperator) (level : Nat) : SymbolUse := operator (some (op, level)) none

def unary (op : UnaryOperator) (level : Nat) : SymbolUse := operator none (some (op, level))

def role : SymbolUse → Role
  | operator .. | openGroup | closeGroup => .operator
  | separator => .separator
  | quote => .quote
  | lineEnd => .lineEnd

end SymbolUse

structure Symbol where
  text : String
  use : SymbolUse

structure Vocabulary where
  symbols : List Symbol
  /-- Whether quoted text that names a variable stands for the variable. -/
  dereference : Bool

namespace Vocabulary

def lexicon (v : Vocabulary) (g : Glossary) (terminators : List String) : Lexicon :=
  .make (v.symbols.map fun s => (s.text, s.use.role)) g terminators

/-- The symbol of a lexeme; a number beyond the symbols stands for nothing. -/
def symbol (v : Vocabulary) (index : Nat) : Symbol :=
  (v.symbols[index]?).getD ⟨"", .operator none none⟩

end Vocabulary

/-- The tree of what has been read, the node that the next lexeme relates to,
whether an operand has to come next, and the open groups, the innermost first. -/
structure Builder where
  tree : Tree
  active : Option Nat
  expectOperand : Bool
  groups : List Nat

namespace Builder

def start : Builder := ⟨.empty, none, true, []⟩

/-- Attaches an inner node, which then waits for its operand. -/
def descend (b : Builder) (kind : Node.Kind) : Builder :=
  let (id, tree) := b.tree.push kind
  { b with tree := tree.attach b.active id, active := some id }

/-- Opens a group where an operand may stand. -/
def openGroup (b : Builder) : Builder :=
  let opened := b.descend (.group none false)
  { opened with groups := opened.active.toList ++ b.groups }

/-- Closes the innermost open group, which then is the last complete operand. -/
def closeGroup? (b : Builder) : Option Builder :=
  match b.groups with
  | [] => none
  | group :: rest =>
    some { b with tree := b.tree.closeGroup group, active := some group, groups := rest }

/-- Attaches a leaf, and gives its number, if there is a free slot for it. -/
def attachLeaf? (b : Builder) (operand : Operand) : Option (Nat × Builder) :=
  let (id, tree) := b.tree.push (.leaf operand)
  (tree.attach? b.active id).map fun t => (id, { b with tree := t, expectOperand := false })

end Builder

end Templating

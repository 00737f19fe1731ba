import Templating.Expression.Vocabulary

/-!
# Building by precedence

The tree of an expression in any vocabulary, in one pass and by two ways of
splicing in a binary operator (`Tree.spliceBinary`): it takes the right operand
of an active binary operator that binds less tightly, and else goes above the
active node and all its ancestors that bind at least as tightly.

The active node is the operator to which an operand was last attached, or the
operand itself where there is no such operator.
-/

namespace Templating

/-- Adds a binary operator after the active node, and gives its number. -/
def Tree.spliceBinary (t : Tree) (active : Nat) (op : BinaryOperator) (level : Nat) : Nat × Tree :=
  let (id, tree) := t.push (.binary op level none none)
  if tree.isBinary active && (tree.level? active).any (· < level) then
    (id, tree.stealRight active id)
  else (id, tree.injectAbove (tree.leftOperand level active) id)

namespace Vocabulary

/-- The text of an operand, as an error message quotes it. -/
def operandText : Lexeme → String
  | .literal text | .quoted text => text
  | _ => ""

def addOperand (b : Builder) (operand : Operand) (lexeme : Lexeme) :
    Except ExpressionError Builder :=
  if !b.expectOperand then throw (.syntaxAt .expectedOperator (operandText lexeme))
  else match b.attachLeaf? operand with
    | none => throw (.syntaxAt .unexpectedOperand (operandText lexeme))
    | some (id, attached) =>
      let container := (attached.tree.parent? id).filter fun p => (attached.tree.level? p).isSome
      pure { attached with active := container.or (some id) }

/-- An operator, unary where an operand has to come and binary elsewhere. -/
def addOperator (b : Builder) (between : Option (BinaryOperator × Nat))
    (before : Option (UnaryOperator × Nat)) (text : String) : Except ExpressionError Builder :=
  if b.expectOperand then
    match before with
    | some (op, level) => pure (b.descend (.unary op level none))
    | none => throw (.syntaxAt .expectedOperand text)
  else
    match between, b.active with
    | some (op, level), some active =>
      let (id, tree) := b.tree.spliceBinary active op level
      pure { b with tree := tree, active := some id, expectOperand := true }
    | _, _ => throw (.syntaxAt .expectedOperator text)

def addSymbol (b : Builder) (s : Symbol) : Except ExpressionError Builder :=
  match s.use with
  | .openGroup =>
    if !b.expectOperand then throw (.syntaxAt .expectedOperator s.text) else pure b.openGroup
  | .closeGroup =>
    if b.expectOperand then throw (.syntaxAt .expectedOperand s.text)
    else match b.closeGroup? with
      | some closed => pure closed
      | none => throw (.syntaxAt .unbalancedGroup s.text)
  | .operator between before => addOperator b between before s.text
  | _ => addOperator b none none s.text

/-- What a quoted text stands for. -/
def quotedOperand (v : Vocabulary) (lex : Lexicon) (text : String) : Operand :=
  match v.dereference, lex.reference? text with
  | true, some slot => .reference slot
  | _, _ => .literal (.string text)

/-- Adds the next lexeme. -/
def add (v : Vocabulary) (lex : Lexicon) (b : Builder) (lexeme : Lexeme) :
    Except ExpressionError Builder :=
  match lexeme with
  | .reference slot => addOperand b (.reference slot) lexeme
  | .literal text => addOperand b (.literal (.ofLiteral text)) lexeme
  | .quoted text => addOperand b (v.quotedOperand lex text) lexeme
  | .symbol index => addSymbol b (v.symbol index)

/-- **The tree of an expression**, empty for one without lexemes. -/
def build (v : Vocabulary) (lex : Lexicon) (lexemes : List Lexeme) :
    Except ExpressionError Tree := do
  let b ← lexemes.foldlM (v.add lex) Builder.start
  if !b.groups.isEmpty then throw (.syntaxAt .unclosedGroup "")
  else if b.expectOperand && !b.tree.isEmpty then throw (.syntaxAt .missingLastOperand "")
  else pure b.tree

end Vocabulary

end Templating

import Templating.Expression.Vocabulary

/-!
# The logical vocabulary

Logical, comparison and bitwise operators and shifts. From the loosest to the
tightest: `||`; `^`; `&&`, `&`, `|`, `<<` and `>>`; `==` and `!=`; the orders;
and the negation `!`. Operators of one level group to the left.

* `Logical.build`: the tree of a condition. A binary operator goes above the
  highest ancestor of the last operand that binds at least as tightly.
-/

namespace Templating.Logical

def vocabulary : Vocabulary where
  symbols := [
    ⟨"&&", .binary .and 3⟩,
    ⟨"||", .binary .or 1⟩,
    ⟨"^", .binary .xor 2⟩,
    ⟨"!", .unary .not 6⟩,
    ⟨">", .binary .greaterThan 5⟩,
    ⟨">=", .binary .greaterThanOrEqualTo 5⟩,
    ⟨"<", .binary .lessThan 5⟩,
    ⟨"<=", .binary .lessThanOrEqualTo 5⟩,
    ⟨"==", .binary .equalTo 4⟩,
    ⟨"!=", .binary .notEqualTo 4⟩,
    ⟨"&", .binary .bitwiseAnd 3⟩,
    ⟨"|", .binary .bitwiseOr 3⟩,
    ⟨"<<", .binary .leftShift 3⟩,
    ⟨">>", .binary .rightShift 3⟩,
    ⟨"(", .openGroup⟩,
    ⟨")", .closeGroup⟩,
    ⟨" ", .separator⟩,
    ⟨"\t", .separator⟩,
    ⟨"\r\n", .lineEnd⟩,
    ⟨"\n", .lineEnd⟩,
    ⟨"\r", .lineEnd⟩,
    ⟨"\"", .quote⟩]
  dereference := false

/-- A lexeme as an error message quotes it. -/
def describe : Lexeme → String
  | .symbol index => (vocabulary.symbol index).text
  | .reference slot => "variable #" ++ String.ofList (Numeral.digits slot)
  | .literal text => text
  | .quoted text => quoted text

def fail {α : Type} (cause : SyntaxCause) (lexeme : Lexeme) : Except ExpressionError α :=
  throw (.syntaxAt cause (describe lexeme))

def addOperand (b : Builder) (operand : Operand) (lexeme : Lexeme) :
    Except ExpressionError Builder :=
  if !b.expectOperand then fail .expectedOperator lexeme
  else match b.attachLeaf? operand with
    | some (id, attached) => pure { attached with active := some id }
    | none => fail .unexpectedOperand lexeme

/-- Grafts a binary operator above what it takes as its left operand. -/
def addBinary (b : Builder) (op : BinaryOperator) (level operand : Nat) : Builder :=
  let target := b.tree.leftOperand level operand
  let (id, tree) := b.tree.push (.binary op level none none)
  { b with tree := tree.injectAbove target id, active := some id, expectOperand := true }

def addSymbol (b : Builder) (use : SymbolUse) (lexeme : Lexeme) :
    Except ExpressionError Builder :=
  match use with
  | .openGroup => if !b.expectOperand then fail .expectedOperator lexeme else pure b.openGroup
  | .closeGroup =>
    if b.expectOperand then fail .expectedOperand lexeme
    else match b.closeGroup? with
      | some closed => pure closed
      | none => fail .unbalancedParenthesis lexeme
  | .operator _ (some (op, level)) =>
    if !b.expectOperand then fail .expectedOperator lexeme
    else pure (b.descend (.unary op level none))
  | .operator (some (op, level)) none =>
    match b.active, b.expectOperand with
    | some operand, false => pure (addBinary b op level operand)
    | _, _ => fail .expectedOperand lexeme
  | _ => fail .expectedOperand lexeme

/-- Adds the next lexeme. -/
def add (b : Builder) (lexeme : Lexeme) : Except ExpressionError Builder :=
  match lexeme with
  | .reference slot => addOperand b (.reference slot) lexeme
  | .literal text => addOperand b (.literal (.ofLiteral text)) lexeme
  | .quoted text => addOperand b (.literal (.string text)) lexeme
  | .symbol index => addSymbol b (vocabulary.symbol index).use lexeme

/-- **The tree of a condition**, empty for one without lexemes. -/
def build (lexemes : List Lexeme) : Except ExpressionError Tree := do
  let b ← lexemes.foldlM add Builder.start
  if !b.groups.isEmpty then throw (.syntaxAt .unclosedParenthesis "(")
  else if b.expectOperand && !b.tree.isEmpty then
    throw (.syntaxAt .missingLastOperand ((lexemes.getLast?.map describe).getD ""))
  else pure b.tree

end Templating.Logical

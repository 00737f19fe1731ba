import Templating.Expression.Precedence

/-!
# The arithmetical vocabulary

The logical vocabulary with arithmetic and an operator for a negative number,
and with a level of their own for each kind of operator. Texts stand between
quotes of either kind, and one that names a variable stands for it.
-/

namespace Templating.Arithmetical

def vocabulary : Vocabulary where
  symbols := [
    ⟨"||", .binary .or 1⟩,
    ⟨"^", .binary .xor 2⟩,
    ⟨"&&", .binary .and 3⟩,
    ⟨"|", .binary .bitwiseOr 4⟩,
    ⟨"&", .binary .bitwiseAnd 5⟩,
    ⟨"==", .binary .equalTo 6⟩,
    ⟨"!=", .binary .notEqualTo 6⟩,
    ⟨"<", .binary .lessThan 7⟩,
    ⟨"<=", .binary .lessThanOrEqualTo 7⟩,
    ⟨">", .binary .greaterThan 7⟩,
    ⟨">=", .binary .greaterThanOrEqualTo 7⟩,
    ⟨"<<", .binary .leftShift 8⟩,
    ⟨">>", .binary .rightShift 8⟩,
    ⟨"+", .binary .add 9⟩,
    ⟨"-", .operator (some (.subtract, 9)) (some (.negate, 11))⟩,
    ⟨"*", .binary .multiply 10⟩,
    ⟨"/", .binary .divide 10⟩,
    ⟨"%", .binary .remainder 10⟩,
    ⟨"!", .unary .not 11⟩,
    ⟨"(", .openGroup⟩,
    ⟨")", .closeGroup⟩,
    ⟨" ", .separator⟩,
    ⟨"\t", .separator⟩,
    ⟨"\r\n", .lineEnd⟩,
    ⟨"\n", .lineEnd⟩,
    ⟨"\r", .lineEnd⟩,
    ⟨"\"", .quote⟩,
    ⟨"'", .quote⟩]
  dereference := true

end Templating.Arithmetical

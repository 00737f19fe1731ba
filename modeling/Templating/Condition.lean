import Templating.Expression.Arithmetical
import Templating.Expression.Logical

/-!
# Conditions

An `Evaluator` reads a condition from a scanner and decides it. There are two,
which a configuration names: one for the logical vocabulary and one for the
arithmetical vocabulary.

* `Evaluator.evaluate`: an empty condition does not hold.
* `Dialect.holds`: the same for a condition that is a text of its own.
-/

namespace Templating

inductive Dialect where
  | logical | arithmetical
  deriving DecidableEq

namespace Dialect

/-- The dialect of a name, in any case. -/
def ofName (name : String) : Except ConfigError Dialect :=
  let folded := name.toList.map Char.toLower
  if folded = "c++".toList ∨ folded = "cpp".toList then pure logical
  else if folded = "c++2".toList ∨ folded = "cpp2".toList then pure arithmetical
  else throw (.unknownEvaluator name)

/-- The name of the dialect of a configuration that names none. -/
def defaultName : String := "C++"

def vocabulary : Dialect → Vocabulary
  | logical => Logical.vocabulary
  | arithmetical => Arithmetical.vocabulary

def build (d : Dialect) (lex : Lexicon) (lexemes : List Lexeme) : Except ExpressionError Tree :=
  match d with
  | logical => Logical.build lexemes
  | arithmetical => Arithmetical.vocabulary.build lex lexemes

end Dialect

structure Evaluator where
  dialect : Dialect
  lexicon : Lexicon
  glossary : Glossary
  converter : Converter

namespace Evaluator

def make (d : Dialect) (g : Glossary) (c : Converter) (terminators : List String) : Evaluator :=
  ⟨d, d.vocabulary.lexicon g terminators, g, c⟩

/-- Decides a condition that has been read. -/
def decide (e : Evaluator) (lexemes : List Lexeme) : Except ExpressionError Bool := do
  let tree ← e.dialect.build e.lexicon lexemes
  if tree.isEmpty then pure false
  else
    let v ← tree.evaluate e.converter e.glossary.resolve
    e.converter.toBool v

/-- **Reads one condition and decides it.** -/
def evaluate {σ : Type} [Scanner σ] (e : Evaluator) : EStateM Error σ Bool := do
  let lexemes ← e.lexicon.tokenize
  e.decide lexemes

end Evaluator

/-- **Decides a condition that is a text of its own.** -/
def Dialect.holds (d : Dialect) (condition : String) (v : Variables) (c : Converter) :
    Except Error Bool :=
  let g := Glossary.make .utf8 v (String.ofList placeholder)
  let e := Evaluator.make d g c []
  match e.evaluate.run (Slice.ofBytes (Encoding.utf8.encode condition)) with
  | .ok holds _ => pure holds
  | .error err _ => throw err

end Templating

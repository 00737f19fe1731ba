import Templating.Glossary
import Templating.Scanner

/-!
# Lexing conditions

A `Lexicon` knows the reserved tokens of an evaluator, the names of the visible
variables and the terminators of a condition, all in the encoding of the input.
`Lexicon.tokenize` reads one condition from a scanner: it ends before a line
ending, after a terminator or with the input.

* A variable name counts as a reference only as a whole word.
* Text between two quotes of one kind is kept as it stands.
-/

namespace Templating

/-- The part of a reserved token in lexing. -/
inductive Role where
  /-- It is a symbol of its own. -/
  | operator
  /-- It ends a literal and is dropped. -/
  | separator
  /-- It opens a quoted text, which the same token closes. -/
  | quote
  /-- It ends the condition and is left in the input. -/
  | lineEnd
  deriving DecidableEq

inductive Lexeme where
  /-- An operator, by its place among the reserved tokens. -/
  | symbol (index : Nat)
  /-- A variable, by its slot. -/
  | reference (index : Nat)
  /-- Text outside of quotes. -/
  | literal (text : String)
  /-- Text inside of quotes. -/
  | quoted (text : String)
  deriving DecidableEq

/-- The tokens of conditions in one encoding, numbered as `roles`, then `names`,
then the terminators. -/
structure Lexicon where
  table : TokenTable
  roles : List Role
  names : List String
  encoding : Encoding

namespace Lexicon

def make (symbols : List (String × Role)) (g : Glossary) (terminators : List String) : Lexicon where
  table := .ofList (symbols.map (g.encoding.encode ·.1) ++ g.slots.map (·.key) ++
    terminators.map g.encoding.encode)
  roles := symbols.map (·.2)
  names := g.slots.map (·.name)
  encoding := g.encoding

/-- The slot of the variable of a name. -/
def reference? (lex : Lexicon) (name : String) : Option Nat := lex.names.findIdx? (· == name)

inductive TokenClass where
  | symbol (index : Nat) (role : Role)
  | reference (index : Nat)
  | terminator

def classify (lex : Lexicon) (index : Nat) : TokenClass :=
  match lex.roles[index]? with
  | some role => .symbol index role
  | none =>
    if index < lex.roles.length + lex.names.length then .reference (index - lex.roles.length)
    else .terminator

/-- Whether a code unit belongs to a word: a letter, a digit, `_`, or not ASCII. -/
def isWordUnit (unit : Nat) : Bool :=
  0x80 ≤ unit || (Char.ofNat unit).isAlphanum || Char.ofNat unit == '_'

/-- What has been read of a condition, the last item first. -/
structure Progress where
  lexemes : List Lexeme
  literal : Bytes

namespace Progress

def start : Progress := ⟨[], []⟩

/-- Bytes after those of the current literal. -/
def extend (p : Progress) (bytes : Bytes) : Progress :=
  { p with literal := bytes.reverse ++ p.literal }

/-- The end of the current literal, if there is one. -/
def close (p : Progress) (e : Encoding) : Progress :=
  if p.literal.isEmpty then p
  else ⟨.literal (e.decode p.literal.reverse) :: p.lexemes, []⟩

def push (p : Progress) (lexeme : Lexeme) : Progress :=
  { p with lexemes := lexeme :: p.lexemes }

end Progress

variable {σ : Type} [Scanner σ]

/-- Whether a word goes on so many bytes after the cursor. -/
def wordFollows (lex : Lexicon) (offset : Nat) : EStateM Error σ Bool := do
  let unit ← Scanner.peekBytes offset lex.encoding.unitWidth
  pure (((lex.encoding.codeUnit? unit).map isWordUnit).getD false)

/-- Reads one code unit more of a quoted text; without one the text is not closed. -/
def quotedUnit (lex : Lexicon) (text : Bytes) : EStateM Error σ (Turn Bytes (Bytes × Bool)) := do
  let unit ← Scanner.take lex.encoding.unitWidth
  if unit.isEmpty then pure (.stop (text, false)) else pure (.again (unit.reverse ++ text))

/-- One turn of reading a quoted text, after the bytes `text`, the last one first;
the result tells whether the quote was closed. -/
def quotedTurn (lex : Lexicon) (quote : Nat) (text : Bytes) :
    EStateM Error σ (Turn Bytes (Bytes × Bool)) := do
  match ← Scanner.peekToken lex.table with
  | none => lex.quotedUnit text
  | some (index, length) =>
    if index = quote then
      Scanner.advance length
      pure (.stop (text, true))
    else if lex.roles[index]? = some .lineEnd then pure (.stop (text, false))
    else lex.quotedUnit text

/-- The text up to the token that closes a quote, and past it. -/
def readQuoted (lex : Lexicon) (quote : Nat) : EStateM Error σ String := do
  let (bytes, closed) ← Scanner.loop (lex.quotedTurn quote) (·, false) []
  let text := lex.encoding.decode bytes.reverse
  if closed then pure text
  else throw (.expression (.syntaxAt .unterminatedQuote text))

/-- Whether a variable name at the cursor, of so many bytes, is a whole word. -/
def wholeWord (lex : Lexicon) (p : Progress) (length : Nat) : EStateM Error σ Bool := do
  if p.literal.isEmpty then
    let follows ← lex.wordFollows length
    pure !follows
  else pure false

/-- One turn of reading a condition. -/
def turn (lex : Lexicon) (p : Progress) : EStateM Error σ (Turn Progress Progress) := do
  match ← Scanner.peekToken lex.table with
  | none =>
    let unit ← Scanner.take lex.encoding.unitWidth
    if unit.isEmpty then pure (.stop p) else pure (.again (p.extend unit))
  | some (index, length) =>
    match lex.classify index with
    | .reference slot =>
      if ← lex.wholeWord p length then
        Scanner.advance length
        pure (.again (p.push (.reference slot)))
      else
        let bytes ← Scanner.take length
        pure (.again (p.extend bytes))
    | .terminator =>
      Scanner.advance length
      pure (.stop p)
    | .symbol _ .lineEnd => pure (.stop p)
    | .symbol _ .separator =>
      Scanner.advance length
      pure (.again (p.close lex.encoding))
    | .symbol quote .quote =>
      Scanner.advance length
      let text ← lex.readQuoted quote
      pure (.again ((p.close lex.encoding).push (.quoted text)))
    | .symbol symbol .operator =>
      Scanner.advance length
      pure (.again ((p.close lex.encoding).push (.symbol symbol)))

/-- **The lexemes of one condition**, which the scanner then has left behind. -/
def tokenize (lex : Lexicon) : EStateM Error σ (List Lexeme) := do
  let p ← Scanner.loop lex.turn id Progress.start
  pure (p.close lex.encoding).lexemes.reverse

end Lexicon

end Templating

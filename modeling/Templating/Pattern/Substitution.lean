import Templating.Pattern.Parser
import Templating.Pattern.Search

/-!
# Substitution by patterns

`NamedPattern.replaceAll` replaces every match of a pattern in a text by a template, in
which `$1`, `$name` and `$\x7bname\x7d` stand for groups and `$$` for a dollar sign.
-/

namespace Templating

/-- A part of a template: text, or a group of the match. -/
inductive TemplatePiece where
  | text (cs : List Char)
  | group (k : Nat)

namespace TemplatePiece

def isNameChar (c : Char) : Bool := c.isAlphanum || c == '_'

/-- The reference after a dollar sign, and what follows it. -/
def reference? : List Char → Option (List Char × List Char)
  | '\x7b' :: cs =>
    match CodePoints.cut '\x7d' cs with
    | (name, some rest) => some (name, rest)
    | (_, none) => none
  | cs =>
    let name := cs.takeWhile isNameChar
    if name.isEmpty then none else some (name, cs.dropWhile isNameChar)

/-- The number of a group, written with or without a plus sign, in 64 bits. -/
def number? (name : List Char) : Option Nat :=
  let digits := match name with
    | '+' :: cs => cs
    | _ => name
  (Numeral.natural? 10 digits).filter (· < unsignedBound)

/-- What a reference means; a name that no group has means nothing. -/
def ofReference (names : List (String × Nat)) (name : List Char) : TemplatePiece :=
  match number? name with
  | some k => .group k
  | none =>
    match names.lookup (String.ofList name) with
    | some k => .group k
    | none => .text []

/-- The pieces of a template, after those in `done`, the last one first; `fuel` is at
least its length. -/
def read (names : List (String × Nat)) (done : List TemplatePiece) :
    (fuel : Nat) → List Char → List TemplatePiece
  | 0, _ | _, [] => done.reverse
  | fuel + 1, '$' :: '$' :: rest => read names (.text ['$'] :: done) fuel rest
  | fuel + 1, '$' :: rest =>
    match reference? rest with
    | some (name, after) => read names (ofReference names name :: done) fuel after
    | none => read names (.text ['$'] :: done) fuel rest
  | fuel + 1, cs =>
    read names (.text (cs.takeWhile (· ≠ '$')) :: done) fuel (cs.dropWhile (· ≠ '$'))

/-- What a piece becomes for a match; a group that took no part in it becomes nothing. -/
def expand (text : Array Char) (m : PatternMatch) : TemplatePiece → List Char
  | .text cs => cs
  | .group k =>
    match m.group? k with
    | some (start, stop) => (text.extract start stop).toList
    | none => []

end TemplatePiece

namespace NamedPattern

/-- The next match from a place on. An empty match where the last one ended does
not count; the search then begins one character later. -/
def nextMatch? (program : Program) (text : Array Char) (start : Nat) (last : Option Nat)
    (marks : Program.Marks) : Option PatternMatch × Program.Marks :=
  match program.find? text start marks with
  | (none, marks) => (none, marks)
  | (some m, marks) =>
    if m.start = m.stop ∧ last = some m.stop then program.find? text (start + 1) marks
    else (some m, marks)

/-- The text from `start` on with its matches replaced, at most `fuel` of them, after what
is `done`. -/
def replaceFrom (program : Program) (text : Array Char) (pieces : List TemplatePiece)
    (done : Array Char) : (fuel : Nat) → Nat → Option Nat → Program.Marks → Array Char
  | 0, start, _, _ => done ++ text.extract start text.size
  | fuel + 1, start, last, marks =>
    match nextMatch? program text start last marks with
    | (none, _) => done ++ text.extract start text.size
    | (some m, marks) =>
      let before := done ++ text.extract start m.start
      let done := pieces.foldl (fun done piece => done.appendList (piece.expand text m)) before
      replaceFrom program text pieces done fuel m.stop (some m.stop) marks

/-- **The text with every match replaced** by what the template becomes for it. -/
def replaceAll (p : NamedPattern) (template text : String) : String :=
  let program := Program.ofPattern p.pattern
  let chars := text.toList.toArray
  let template := template.toList
  let pieces := TemplatePiece.read p.names [] (template.length + 1) template
  String.ofList
    (replaceFrom program chars pieces #[] (chars.size + 2) 0 none (.fresh program)).toList

end NamedPattern

end Templating

import Templating.Text.CaseTable
import Templating.Text.CodePoints

/-!
# Upper and lower case of a text

Both are the full mappings of Unicode, which may lengthen a text, and do not
depend on a language. One of them looks at the neighbours of a character: a
capital sigma that ends a word becomes a final one (`Case.endsWord`).
-/

namespace Templating.Case

/-- Code points that move by the same offset. -/
structure Shift where
  offset : Int
  codes : List CodeRange

def readShifts (table : List (Int × String)) : List Shift :=
  table.map fun (offset, codes) => ⟨offset, CodePoints.read codes⟩

def lowerShifts : List Shift := readShifts CaseTable.lower
def upperShifts : List Shift := readShifts CaseTable.upper
def casedCodes : List CodeRange := CodePoints.read CaseTable.cased
def ignorableCodes : List CodeRange := CodePoints.read CaseTable.ignorable

/-- A code point moved by the first entry that lists it. -/
def shift (table : List Shift) (n : Nat) : Nat :=
  match table.find? fun s => CodePoints.mem s.codes n with
  | some s => (n + s.offset).toNat
  | none => n

/-- The lower case of a character outside any word. -/
def lowerChar (c : Char) : List Char :=
  if c.toNat < 128 then [c.toLower]
  else if c = 'İ' then ['i', '\u0307']
  else [Char.ofNat (shift lowerShifts c.toNat)]

def upperChar (c : Char) : List Char :=
  if c.toNat < 128 then [c.toUpper]
  else match CaseTable.expansions.lookup c.toNat with
    | some codes => codes.map Char.ofNat
    | none => [Char.ofNat (shift upperShifts c.toNat)]

/-- Whether a cased letter comes next, ignorable characters aside. -/
def meetsCased (cs : List Char) : Bool :=
  match cs.dropWhile fun c => CodePoints.mem ignorableCodes c.toNat with
  | [] => false
  | c :: _ => CodePoints.mem casedCodes c.toNat

/-- Whether a letter between `before`, read backwards, and `after` ends a word. -/
def endsWord (before after : List Char) : Bool := meetsCased before && !meetsCased after

/-- The lower case of a character between `before`, read backwards, and `after`. -/
def lowerBetween (before : List Char) (c : Char) (after : List Char) : List Char :=
  if c = 'Σ' then [if endsWord before after then 'ς' else 'σ'] else lowerChar c

/-- The lower case of a text that goes on after `before`, whose lower case is `done`;
both are read backwards. -/
def lowerFrom (before done : List Char) : List Char → List Char
  | [] => done.reverse
  | c :: cs => lowerFrom (c :: before) ((lowerBetween before c cs).reverse ++ done) cs

def lower (s : String) : String := String.ofList (lowerFrom [] [] s.toList)

def upper (s : String) : String := String.ofList (s.toList.flatMap upperChar)

end Templating.Case

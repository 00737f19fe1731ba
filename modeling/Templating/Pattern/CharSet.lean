import Templating.Text.Case
import Templating.Text.Category
import Templating.Text.FoldingTable

/-!
# Sets of characters

A `CharSet` is a list of ranges of code points in increasing order with characters
between any two of them. Sets are joined, intersected and complemented, and closed
under a change of case (`CharSet.closeCase`).
-/

namespace Templating

structure CharSet where
  ranges : List (Nat × Nat)
  deriving DecidableEq

namespace CharSet

def lastCode : Nat := 0x10FFFF

/-- The next character; surrogates, which are no characters, are passed over. -/
def next (n : Nat) : Nat := if n = 0xD7FF then 0xE000 else n + 1

/-- The character before. -/
def previous (n : Nat) : Nat := if n = 0xE000 then 0xD7FF else n - 1

def empty : CharSet := ⟨[]⟩

def all : CharSet := ⟨[(0, lastCode)]⟩

def isEmpty (s : CharSet) : Bool := s.ranges.isEmpty

/-- Whether a code point is in one of some ranges in increasing order. -/
def memRanges (n : Nat) : List (Nat × Nat) → Bool
  | [] => false
  | (a, b) :: rest => if n ≤ b then a ≤ n else memRanges n rest

def memCode (s : CharSet) (n : Nat) : Bool := memRanges n s.ranges

def mem (s : CharSet) (c : Char) : Bool := s.memCode c.toNat

/-- Joins a range with those that follow it, in the order of their first code points,
where there is nothing between them. The ranges done before come last one first. -/
def joinRanges (done : List (Nat × Nat)) (a b : Nat) : List (Nat × Nat) → List (Nat × Nat)
  | [] => ((a, b) :: done).reverse
  | (c, d) :: rest =>
    if c ≤ next b then joinRanges done a (max b d) rest else joinRanges ((a, b) :: done) c d rest

def ofRanges (ranges : List (Nat × Nat)) : CharSet :=
  match ranges.mergeSort fun r s => r.1 ≤ s.1 with
  | [] => empty
  | (a, b) :: rest => ⟨joinRanges [] a b rest⟩

def ofCodes (codes : List CodeRange) : CharSet := ofRanges (codes.flatMap CodeRange.solid)

def ofChar (c : Char) : CharSet := ⟨[(c.toNat, c.toNat)]⟩

def ofChars (cs : List Char) : CharSet := ofRanges (cs.map fun c => (c.toNat, c.toNat))

/-- The characters of any of some sets. -/
def unionAll (sets : List CharSet) : CharSet := ofRanges (sets.flatMap ranges)

def union (s t : CharSet) : CharSet := unionAll [s, t]

/-- The gaps between ranges from a code point on. -/
def gaps (start : Nat) (done : List (Nat × Nat)) : List (Nat × Nat) → List (Nat × Nat)
  | [] => (if start ≤ lastCode then (start, lastCode) :: done else done).reverse
  | (a, b) :: rest => gaps (next b) (if start < a then (start, previous a) :: done else done) rest

def complement (s : CharSet) : CharSet := ⟨gaps 0 [] s.ranges⟩

def inter (s t : CharSet) : CharSet := (s.complement.union t.complement).complement

def diff (s t : CharSet) : CharSet := s.inter t.complement

def symmDiff (s t : CharSet) : CharSet := (s.union t).diff (s.inter t)

/-- Whether all characters are in ASCII. -/
def isAscii (s : CharSet) : Bool := s.ranges.all fun (_, b) => b < 128

/-- The character of a set that has just one. -/
def single? (s : CharSet) : Option Char :=
  match s.ranges with
  | [(a, b)] => if a = b then some (Char.ofNat a) else none
  | _ => none

/-- Every character that differs from its case folding, with this folding. -/
def foldings : List (Nat × Nat) :=
  (Case.readShifts FoldingTable.folded).flatMap fun shift =>
    (shift.codes.flatMap CodeRange.solid).flatMap fun (a, b) =>
      (List.range (b - a + 1)).map fun k => (a + k, (a + k + shift.offset).toNat)

def asciiFoldings : List (Nat × Nat) := foldings.filter fun (c, f) => c < 128 && f < 128

/-- The set with all characters that fold to the same as one of its own. -/
def closeUnder (foldings : List (Nat × Nat)) (s : CharSet) : CharSet :=
  let folded := foldings.filterMap fun (c, f) => if s.memCode c then some (f, f) else none
  let closed := s.union (ofRanges folded)
  let others := foldings.filterMap fun (c, f) => if closed.memCode f then some (c, c) else none
  closed.union (ofRanges others)

def closeCase : CharSet → CharSet := closeUnder foldings

def closeAsciiCase : CharSet → CharSet := closeUnder asciiFoldings

/-- The characters of words. -/
def words : CharSet := ofCodes Category.wordCodes

def digits : CharSet := ofCodes Category.digitCodes

/-- The characters that are blank. -/
def blanks : CharSet :=
  ⟨[(9, 13), (32, 32), (0x85, 0x85), (0xA0, 0xA0), (0x1680, 0x1680), (0x2000, 0x200A),
    (0x2028, 0x2029), (0x202F, 0x202F), (0x205F, 0x205F), (0x3000, 0x3000)]⟩

end CharSet

end Templating

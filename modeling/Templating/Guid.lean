/-!
# Guids

The text of a number of 128 bits in one of four formats, each named by a letter.
-/

namespace Templating

abbrev Guid := BitVec 128

inductive GuidFormat where
  | digits | hyphens | braces | parentheses
  deriving DecidableEq

namespace GuidFormat

/-- The format of a letter, in either case. -/
def ofLetter? (letter : Char) : Option GuidFormat :=
  match letter.toUpper with
  | 'N' => some digits
  | 'D' => some hyphens
  | 'B' => some braces
  | 'P' => some parentheses
  | _ => none

end GuidFormat

namespace Guid

def hexDigit (n : Nat) : Char := if n < 10 then Char.ofNat (48 + n) else Char.ofNat (87 + n)

/-- The `count` digits of base sixteen whose last one comes before `below` others. -/
def hex (g : Guid) (below : Nat) : Nat → List Char
  | 0 => []
  | count + 1 => hexDigit (g.toNat / Nat.pow 16 (below + count) % 16) :: hex g below count

def hyphenated (g : Guid) : List Char :=
  g.hex 24 8 ++ '-' :: g.hex 20 4 ++ '-' :: g.hex 16 4 ++ '-' :: g.hex 12 4 ++ '-' :: g.hex 0 12

def text (g : Guid) : GuidFormat → String
  | .digits => String.ofList (g.hex 0 32)
  | .hyphens => String.ofList g.hyphenated
  | .braces => String.ofList ('\x7b' :: g.hyphenated ++ ['\x7d'])
  | .parentheses => String.ofList ('(' :: g.hyphenated ++ [')'])

end Guid

end Templating

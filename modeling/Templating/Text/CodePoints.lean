import Templating.Number.Numeral

/-!
# Listed code points

A table of characters is written as a text of hexadecimal items: `41` for one
code point, `41-5A` for a range and `100-12E/2` for every second one of a range.
`CodePoints.read` gives the ranges of such a text.
-/

namespace Templating

/-- Every `stride`-th code point from `first` to `last`. -/
structure CodeRange where
  first : Nat
  last : Nat
  stride : Nat

namespace CodeRange

def mem (r : CodeRange) (n : Nat) : Bool :=
  r.first ≤ n && n ≤ r.last && (r.stride ≤ 1 || (n - r.first) % r.stride == 0)

/-- The same code points as ranges without gaps. -/
def solid (r : CodeRange) : List (Nat × Nat) :=
  if r.stride ≤ 1 then [(r.first, r.last)]
  else (List.range ((r.last - r.first) / r.stride + 1)).map fun k =>
    (r.first + k * r.stride, r.first + k * r.stride)

end CodeRange

namespace CodePoints

/-- The part before a mark, and the part after it if the mark is there. -/
def cut (mark : Char) (cs : List Char) : List Char × Option (List Char) :=
  match cs.dropWhile (· ≠ mark) with
  | [] => (cs, none)
  | _ :: after => (cs.takeWhile (· ≠ mark), some after)

def number (cs : List Char) : Nat := (Numeral.natural? 16 cs).getD 0

def readRange (item : List Char) : CodeRange :=
  let (ends, stride) := cut '/' item
  let (first, last) := cut '-' ends
  ⟨number first, number (last.getD first), number (stride.getD ['1'])⟩

/-- The items of a text, which single blanks separate. -/
def items (cs : List Char) : List (List Char) :=
  cs.foldr (fun c acc => match c, acc with
    | ' ', _ => [] :: acc
    | _, [] => [[c]]
    | _, item :: rest => (c :: item) :: rest) [[]]

def read (text : String) : List CodeRange :=
  ((items text.toList).filter (!·.isEmpty)).map readRange

def mem (rs : List CodeRange) (n : Nat) : Bool := rs.any (·.mem n)

end CodePoints

end Templating

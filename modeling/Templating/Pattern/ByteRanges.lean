import Templating.Pattern.CharSet

/-!
# Characters as bytes

The characters between two code points, in the encoding of one to four bytes, as a few
sequences of ranges of bytes: a text of as many bytes, each in its range, is one of the
characters.
-/

namespace Templating

/-- A range for each byte. -/
abbrev ByteRanges := List (Nat × Nat)

namespace ByteRanges

/-- Code points written alike: with a mark in the first byte and some bytes after it that
hold six bits each. -/
structure Form where
  first : Nat
  last : Nat
  mark : Nat
  following : Nat

def forms : List Form := [
  ⟨0, 0x7F, 0, 0⟩, ⟨0x80, 0x7FF, 0xC0, 1⟩, ⟨0x800, 0xD7FF, 0xE0, 2⟩, ⟨0xE000, 0xFFFF, 0xE0, 2⟩,
  ⟨0x10000, 0x10FFFF, 0xF0, 3⟩]

/-- The sequences for the numbers from `a` to `b` in digits of six bits, of which
`following` come after the first one, which is added to `mark`. -/
def between (mark : Nat) : (following : Nat) → (a b : Nat) → List ByteRanges
  | 0, a, b => [[(mark + a, mark + b)]]
  | k + 1, a, b =>
    let unit := Nat.pow 64 (k + 1)
    let under (digit a b : Nat) : List ByteRanges :=
      (between 0x80 k a b).map ((mark + digit, mark + digit) :: ·)
    let low := a / unit
    let high := b / unit
    if low = high then under low (a % unit) (b % unit)
    else
      let startsWhole := a % unit = 0
      let endsWhole := b % unit + 1 = unit
      let first := if startsWhole then low else low + 1
      let stop := if endsWhole then high + 1 else high
      let head := if startsWhole then [] else under low (a % unit) (unit - 1)
      let middle := if first < stop
        then [(mark + first, mark + (stop - 1)) :: List.replicate (k + 1) (0x80, 0xBF)] else []
      let tail := if endsWhole then [] else under high 0 (b % unit)
      head ++ middle ++ tail

/-- The sequences for the characters from `a` to `b`, in increasing order. -/
def ofRange (a b : Nat) : List ByteRanges :=
  forms.flatMap fun form =>
    let low := max a form.first
    let high := min b form.last
    if low ≤ high then between form.mark form.following low high else []

def ofSet (s : CharSet) : List ByteRanges := s.ranges.flatMap fun (a, b) => ofRange a b

/-- The bytes of a literal text. -/
def ofText (text : List Char) : List UInt8 := text.flatMap String.utf8EncodeChar

end ByteRanges

end Templating

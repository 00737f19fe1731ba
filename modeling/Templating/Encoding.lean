/-!
# Text encodings

The encoding of a stream is told by a byte-order mark at its start and is UTF-8
without one. Tokens are encoded once and then matched as bytes.

* `Encoding.detect`: the encoding of a stream and the length of its mark.
* `Encoding.encode`, `Encoding.decode`: text to bytes and back. Decoding never
  fails; what is no text becomes U+FFFD.
-/

namespace Templating

abbrev Bytes := List UInt8

inductive Encoding where
  | utf8 | utf16le | utf16be | utf32le | utf32be
  deriving DecidableEq

namespace Encoding

instance : Inhabited Encoding := ⟨utf8⟩

def name : Encoding → String
  | utf8 => "utf-8"
  | utf16le => "utf-16le"
  | utf16be => "utf-16be"
  | utf32le => "utf-32le"
  | utf32be => "utf-32be"

/-- The byte-order mark that announces an encoding. -/
def mark : Encoding → Bytes
  | utf8 => [0xEF, 0xBB, 0xBF]
  | utf16le => [0xFF, 0xFE]
  | utf16be => [0xFE, 0xFF]
  | utf32le => [0xFF, 0xFE, 0x00, 0x00]
  | utf32be => [0x00, 0x00, 0xFE, 0xFF]

/-- The encoding of a stream and the length of its mark. The longer marks are
looked for first, since one of them begins like a shorter one. -/
def detect (bytes : Bytes) : Encoding × Nat :=
  match [utf32le, utf32be, utf8, utf16le, utf16be].find? (·.mark.isPrefixOf bytes) with
  | some e => (e, e.mark.length)
  | none => (utf8, 0)

/-- The number of bytes of a code unit. -/
def unitWidth : Encoding → Nat
  | utf8 => 1
  | utf16le | utf16be => 2
  | utf32le | utf32be => 4

/-- The one or two units of a character in UTF-16. -/
def units16 (c : Char) : List UInt16 :=
  let n := c.toNat
  if n < 0x10000 then [UInt16.ofNat n]
  else
    let rest := n - 0x10000
    [UInt16.ofNat (0xD800 + rest / 0x400), UInt16.ofNat (0xDC00 + rest % 0x400)]

def low16 (u : UInt16) : UInt8 := UInt8.ofNat (u.toNat % 256)
def high16 (u : UInt16) : UInt8 := UInt8.ofNat (u.toNat / 256)

/-- The four bytes of a code point, the lowest first. -/
def bytes32 (n : Nat) : Bytes :=
  [UInt8.ofNat (n % 256), UInt8.ofNat (n / 256 % 256), UInt8.ofNat (n / 65536 % 256),
    UInt8.ofNat (n / 16777216)]

def encodeChar (e : Encoding) (c : Char) : Bytes :=
  match e with
  | utf8 => String.utf8EncodeChar c
  | utf16le => (units16 c).flatMap fun u => [low16 u, high16 u]
  | utf16be => (units16 c).flatMap fun u => [high16 u, low16 u]
  | utf32le => bytes32 c.toNat
  | utf32be => (bytes32 c.toNat).reverse

def encode (e : Encoding) (text : String) : Bytes := text.toList.flatMap e.encodeChar

/-- What stands for bytes that are no text. -/
def unreadable : Char := '\uFFFD'

/-- The character of a code point, if it is one. -/
def scalar (n : Nat) : Char := if n.isValidChar then Char.ofNat n else unreadable

def isContinuation (b : UInt8) : Bool := 0x80 ≤ b && b ≤ 0xBF

/-- Whether `b` may follow the first byte `lead` of a longer character: this
keeps out overlong forms, surrogates and what lies above the last code point. -/
def mayFollow (lead b : UInt8) : Bool :=
  if lead == 0xE0 then 0xA0 ≤ b && b ≤ 0xBF
  else if lead == 0xED then 0x80 ≤ b && b ≤ 0x9F
  else if lead == 0xF0 then 0x90 ≤ b && b ≤ 0xBF
  else if lead == 0xF4 then 0x80 ≤ b && b ≤ 0x8F
  else isContinuation b

/-- The number of bytes that a first byte announces; none for a byte that cannot be one. -/
def announced (lead : UInt8) : Nat :=
  if lead < 0x80 then 1
  else if lead < 0xC2 then 0
  else if lead < 0xE0 then 2
  else if lead < 0xF0 then 3
  else if lead < 0xF5 then 4
  else 0

/-- The six bits that a continuation byte carries. -/
def payload (b : UInt8) : Nat := b.toNat % 64

/-- The first character of a non-empty UTF-8 text and the number of bytes
it takes: a longest beginning of a character counts as one unreadable one. -/
def firstUtf8 (lead : UInt8) (rest : Bytes) : Char × Nat :=
  match announced lead, rest with
  | 1, _ => (Char.ofNat lead.toNat, 1)
  | 2, b :: _ =>
    if isContinuation b then (scalar (lead.toNat % 32 * 64 + payload b), 2) else (unreadable, 1)
  | 3, b :: c :: _ =>
    if mayFollow lead b then
      if isContinuation c then
        (scalar ((lead.toNat % 16 * 64 + payload b) * 64 + payload c), 3)
      else (unreadable, 2)
    else (unreadable, 1)
  | 3, [b] => (unreadable, if mayFollow lead b then 2 else 1)
  | 4, b :: c :: d :: _ =>
    if mayFollow lead b then
      if isContinuation c then
        if isContinuation d then
          (scalar (((lead.toNat % 8 * 64 + payload b) * 64 + payload c) * 64 + payload d), 4)
        else (unreadable, 3)
      else (unreadable, 2)
    else (unreadable, 1)
  | 4, [b, c] =>
    (unreadable, if mayFollow lead b then (if isContinuation c then 3 else 2) else 1)
  | 4, [b] => (unreadable, if mayFollow lead b then 2 else 1)
  | _, _ => (unreadable, 1)

def decodeUtf8 : Bytes → List Char
  | [] => []
  | lead :: rest =>
    let (c, width) := firstUtf8 lead rest
    c :: decodeUtf8 (rest.drop (width - 1))
termination_by bytes => bytes.length
decreasing_by rw [List.length_drop, List.length_cons]; omega

/-- The units of UTF-16 text, two bytes each; a last single byte is unreadable. -/
def pairs (join : UInt8 → UInt8 → Nat) : Bytes → List Nat
  | a :: b :: rest => join a b :: pairs join rest
  | [_] => [0xFFFD]
  | [] => []

/-- The characters of units of UTF-16; a surrogate without its partner is unreadable. -/
def ofUnits16 : List Nat → List Char
  | [] => []
  | [u] => [scalar u]
  | u :: v :: rest =>
    if 0xD800 ≤ u ∧ u < 0xDC00 ∧ 0xDC00 ≤ v ∧ v < 0xE000 then
      scalar (0x10000 + (u - 0xD800) * 0x400 + (v - 0xDC00)) :: ofUnits16 rest
    else scalar u :: ofUnits16 (v :: rest)

/-- The characters of UTF-32 text, four bytes each; fewer bytes at the end are unreadable. -/
def quads (join : UInt8 → UInt8 → UInt8 → UInt8 → Nat) : Bytes → List Char
  | a :: b :: c :: d :: rest => scalar (join a b c d) :: quads join rest
  | [] => []
  | _ => [unreadable]

/-- The number that bytes write, the highest first. -/
def join2 (high low : UInt8) : Nat := high.toNat * 256 + low.toNat
def join4 (a b c d : UInt8) : Nat := (join2 a b) * 65536 + join2 c d

def decode (e : Encoding) (bytes : Bytes) : String :=
  String.ofList <| match e with
    | utf8 => decodeUtf8 bytes
    | utf16le => ofUnits16 (pairs (fun a b => join2 b a) bytes)
    | utf16be => ofUnits16 (pairs join2 bytes)
    | utf32le => quads (fun a b c d => join4 d c b a) bytes
    | utf32be => quads join4 bytes

/-- The code unit that bytes begin with. -/
def codeUnit? : Encoding → Bytes → Option Nat
  | utf8, a :: _ => some a.toNat
  | utf16le, a :: b :: _ => some (join2 b a)
  | utf16be, a :: b :: _ => some (join2 a b)
  | utf32le, a :: b :: c :: d :: _ => some (join4 d c b a)
  | utf32be, a :: b :: c :: d :: _ => some (join4 a b c d)
  | _, _ => none

end Encoding

end Templating

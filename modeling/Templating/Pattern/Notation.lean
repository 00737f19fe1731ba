import Templating.Pattern.Basic
import Templating.Pattern.Property
import Templating.Text.Blank

/-!
# The parts of the notation of patterns

What stands for itself or after a backslash, with the flags that change its meaning:
characters by their code points, classes with names and places. Each reader takes the
characters that follow and gives what it has read with the rest of them.
-/

namespace Templating

/-- The modes that flags switch. -/
structure PatternFlags where
  caseless : Bool
  multiLine : Bool
  dotAll : Bool
  swapGreed : Bool
  carriageReturns : Bool
  ascii : Bool
  /-- Whether blanks and comments in the pattern are skipped. -/
  spaced : Bool

namespace PatternFlags

def initial : PatternFlags := ⟨false, false, false, false, false, false, false⟩

/-- The flags with the one of a letter switched, if there is one. -/
def set? (f : PatternFlags) (letter : Char) (on : Bool) : Option PatternFlags :=
  match letter with
  | 'i' => some { f with caseless := on }
  | 'm' => some { f with multiLine := on }
  | 's' => some { f with dotAll := on }
  | 'U' => some { f with swapGreed := on }
  | 'R' => some { f with carriageReturns := on }
  | 'u' => some { f with ascii := !on }
  | 'x' => some { f with spaced := on }
  | _ => none

end PatternFlags

namespace PatternText

/-- Skips blanks and comments; in a comment up to the end of its line. -/
def skipSpace : (comment : Bool) → List Char → List Char
  | true, c :: cs => skipSpace (c != '\n') cs
  | false, c :: cs =>
    if Blank.isBlank c then skipSpace false cs
    else if c = '#' then skipSpace true cs
    else c :: cs
  | _, [] => []

/-- Skips what the flags allow between two characters of a pattern. -/
def trimSpace (f : PatternFlags) (cs : List Char) : List Char :=
  if f.spaced then skipSpace false cs else cs

theorem length_skipSpace_le (comment : Bool) (cs : List Char) :
    (skipSpace comment cs).length ≤ cs.length := by
  induction cs generalizing comment with
  | nil => cases comment <;> simp [skipSpace]
  | cons c cs ih =>
    cases comment with
    | true => exact Nat.le_succ_of_le (ih _)
    | false =>
      simp only [skipSpace]
      split
      · exact Nat.le_succ_of_le (ih _)
      · split
        · exact Nat.le_succ_of_le (ih _)
        · exact Nat.le_refl _

theorem length_trimSpace_le (f : PatternFlags) (cs : List Char) :
    (trimSpace f cs).length ≤ cs.length := by
  unfold trimSpace
  split
  · exact length_skipSpace_le _ _
  · exact Nat.le_refl _

/-- The characters of a kind at the start of a text, and the rest. What the flags allow
after each of them is skipped. -/
def spacedRun (f : PatternFlags) (kind : Char → Bool) (run : List Char) :
    List Char → List Char × List Char
  | [] => (run.reverse, [])
  | c :: cs =>
    if kind c then spacedRun f kind (c :: run) (trimSpace f cs) else (run.reverse, c :: cs)
termination_by cs => cs.length
decreasing_by exact Nat.lt_succ_of_le (length_trimSpace_le f cs)

/-- A number of a counted repetition, with blanks on both sides. -/
def count? (f : PatternFlags) (cs : List Char) : Option (Nat × List Char) :=
  let (digits, rest) := spacedRun f Char.isDigit [] (cs.dropWhile Blank.isBlank)
  ((Numeral.natural? 10 digits).filter (· < 0x100000000)).map (·, rest.dropWhile Blank.isBlank)

/-- The bounds of a counted repetition, after its opening brace and up to what
follows its closing brace. -/
def bounds? (f : PatternFlags) (cs : List Char) : Option (Nat × Option Nat × List Char) :=
  match count? f (trimSpace f cs) with
  | some (least, '\x7d' :: rest) => some (least, some least, rest)
  | some (least, ',' :: more) =>
    match trimSpace f more with
    | '\x7d' :: rest => some (least, none, rest)
    | more =>
      match count? f more with
      | some (most, '\x7d' :: rest) => if least ≤ most then some (least, some most, rest) else none
      | _ => none
  | _ => none

def isHexDigit (c : Char) : Bool := (Numeral.digitValue? 16 c).isSome

/-- A character by the hexadecimal digits of its code point. -/
def scalar? (digits : List Char) : Option Char :=
  (Numeral.natural? 16 digits).bind fun n =>
    if n.isValidChar then some (Char.ofNat n) else none

/-- A fixed number of hexadecimal digits after those in `digits`, the last one first. -/
def fixedHex? (f : PatternFlags) (digits : List Char) :
    (width : Nat) → List Char → Option (Char × List Char)
  | 0, cs => (scalar? digits.reverse).map (·, cs)
  | _ + 1, [] => none
  | width + 1, c :: cs =>
    if isHexDigit c then fixedHex? f (c :: digits) width (trimSpace f cs) else none

/-- A character by its code point: digits between braces, or a fixed number of them. -/
def hex? (f : PatternFlags) (width : Nat) (cs : List Char) : Option (Char × List Char) :=
  match trimSpace f cs with
  | '\x7b' :: cs =>
    match spacedRun f (· ≠ '\x7d') [] (trimSpace f cs) with
    | (digits, _ :: rest) => (scalar? digits).map (·, rest)
    | (_, []) => none
  | cs => fixedHex? f [] width cs

/-- A character by two digits; without Unicode those above ASCII would be bytes. -/
def byte? (f : PatternFlags) (cs : List Char) : Option (Char × List Char) :=
  let braced := (trimSpace f cs).head? == some '\x7b'
  (hex? f 2 cs).filter fun (c, _) => !f.ascii || braced || c.toNat < 128

def digits (ascii : Bool) : CharSet := if ascii then ⟨[(48, 57)]⟩ else .digits

def blanks (ascii : Bool) : CharSet := if ascii then ⟨[(9, 13), (32, 32)]⟩ else .blanks

def words (ascii : Bool) : CharSet :=
  if ascii then ⟨[(48, 57), (65, 90), (95, 95), (97, 122)]⟩ else .words

/-- The set or its complement. Without Unicode a complement would have bytes in it that
are no characters. -/
def negateIf (negated : Bool) (f : PatternFlags) (s : CharSet) : Option CharSet :=
  if !negated then some s else if f.ascii then none else some s.complement

/-- The classes of one letter. -/
def letterClass? (f : PatternFlags) (letter : Char) : Option CharSet :=
  match letter with
  | 'd' => some (digits f.ascii)
  | 's' => some (blanks f.ascii)
  | 'w' => some (words f.ascii)
  | 'D' => negateIf true f (digits f.ascii)
  | 'S' => negateIf true f (blanks f.ascii)
  | 'W' => negateIf true f (words f.ascii)
  | _ => none

def namedClasses : List (String × List (Nat × Nat)) := [
  ("alnum", [(48, 57), (65, 90), (97, 122)]), ("alpha", [(65, 90), (97, 122)]),
  ("ascii", [(0, 127)]), ("blank", [(9, 9), (32, 32)]), ("cntrl", [(0, 31), (127, 127)]),
  ("digit", [(48, 57)]), ("graph", [(33, 126)]), ("lower", [(97, 122)]), ("print", [(32, 126)]),
  ("punct", [(33, 47), (58, 64), (91, 96), (123, 126)]), ("space", [(9, 13), (32, 32)]),
  ("upper", [(65, 90)]), ("word", [(48, 57), (65, 90), (95, 95), (97, 122)]),
  ("xdigit", [(48, 57), (65, 70), (97, 102)])]

/-- A set as the flags widen it. -/
def widen (f : PatternFlags) (s : CharSet) : CharSet :=
  if !f.caseless then s else if f.ascii then s.closeAsciiCase else s.closeCase

/-- The name of a class such as `[:alpha:]` and whether it is negated, after its first
bracket. -/
def className? : List Char → Option (List (Nat × Nat) × Bool × List Char)
  | ':' :: cs =>
    let (negated, name) := match cs with
      | '^' :: more => (true, more)
      | _ => (false, cs)
    match CodePoints.cut ':' name with
    | (key, some (']' :: rest)) =>
      (namedClasses.lookup (String.ofList key)).map fun ranges => (ranges, negated, rest)
    | _ => none
  | _ => none

/-- What an escape stands for. -/
inductive Escape where
  | literal (c : Char)
  | set (s : CharSet)
  | place (p : Place)

def isMeta (c : Char) : Bool :=
  ['\\', '.', '+', '*', '?', '(', ')', '|', '[', ']', '\x7b', '\x7d', '^', '$', '#', '&', '-',
    '~'].contains c

/-- Whether a character stands for itself after a backslash. -/
def isEscapable (c : Char) : Bool :=
  isMeta c || (c.toNat < 128 && !c.isAlphanum && c != '<' && c != '>')

/-- The name of a property, of one letter or between braces. -/
def propertyName? (f : PatternFlags) (cs : List Char) : Option (List Char × List Char) :=
  match trimSpace f cs with
  | '\x7b' :: inner =>
    match spacedRun f (· ≠ '\x7d') [] (trimSpace f inner) with
    | (name, _ :: rest) => some (name, rest)
    | (_, []) => none
  | '\\' :: _ => none
  | c :: rest => some ([c], rest)
  | [] => none

/-- The characters with a property, or those without it. Properties are of Unicode. -/
def property? (f : PatternFlags) (negated : Bool) (cs : List Char) :
    Option (CharSet × List Char) :=
  if f.ascii then none
  else (propertyName? f cs).bind fun (name, rest) =>
    (Property.find? name).bind fun s => (negateIf negated f (widen f s)).map (·, rest)

/-- The kinds of word boundaries that have names. -/
def namedBoundary? (ascii : Bool) (name : List Char) : Option Place :=
  match String.ofList name with
  | "start" => some (.wordStart ascii)
  | "end" => some (.wordEnd ascii)
  | "start-half" => some (.wordStartHalf ascii)
  | "end-half" => some (.wordEndHalf ascii)
  | _ => none

/-- A word boundary, after its letter; its kind may follow in braces. -/
def boundary? (f : PatternFlags) (cs : List Char) : Option (Escape × List Char) :=
  let isNameChar (c : Char) := c.isAlpha || c = '-'
  let plain := (.place (.wordBoundary f.ascii), cs)
  match cs with
  | '\x7b' :: inner =>
    match trimSpace f inner with
    | [] => none
    | c :: more =>
      if isNameChar c then
        match spacedRun f isNameChar [] (c :: more) with
        | (name, '\x7d' :: rest) => (namedBoundary? f.ascii name).map fun p => (.place p, rest)
        | _ => none
      else some plain
  | _ => some plain

/-- An escape, after its backslash. -/
def escape? (f : PatternFlags) : List Char → Option (Escape × List Char)
  | [] => none
  | c :: cs =>
    match c with
    | 'x' => (byte? f cs).map fun (c, rest) => (.literal c, rest)
    | 'u' => (hex? f 4 cs).map fun (c, rest) => (.literal c, rest)
    | 'U' => (hex? f 8 cs).map fun (c, rest) => (.literal c, rest)
    | 'p' => (property? f false cs).map fun (s, rest) => (.set s, rest)
    | 'P' => (property? f true cs).map fun (s, rest) => (.set s, rest)
    | 'd' | 's' | 'w' | 'D' | 'S' | 'W' => (letterClass? f c).map fun s => (.set s, cs)
    | 'a' => some (.literal '\x07', cs)
    | 'f' => some (.literal '\x0c', cs)
    | 't' => some (.literal '\t', cs)
    | 'n' => some (.literal '\n', cs)
    | 'r' => some (.literal '\r', cs)
    | 'v' => some (.literal '\x0b', cs)
    | 'A' => some (.place .textStart, cs)
    | 'z' => some (.place .textEnd, cs)
    | 'b' => boundary? f cs
    | 'B' => some (.place (.noWordBoundary f.ascii), cs)
    | '<' => some (.place (.wordStart f.ascii), cs)
    | '>' => some (.place (.wordEnd f.ascii), cs)
    | _ => if isEscapable c then some (.literal c, cs) else none

end PatternText

end Templating

import Templating.Pattern.Bracket
import Templating.Pattern.Footprint

/-!
# Reading patterns

Regular expressions in the usual notation, without look-around and without
references to groups. `Pattern.read?` reads one from left to right with a stack of open
groups. What is not well formed, nests too deeply or takes too much room is no pattern.
-/

namespace Templating

/-- A pattern that has been read, and how deeply its notation nests. -/
structure PatternPart where
  pattern : Pattern
  depth : Nat
  /-- Whether it may be repeated, as flags may not. -/
  repeats : Bool

namespace PatternPart

/-- How deeply a notation may nest. -/
def deepest : Nat := 250

def flags : PatternPart := ⟨.empty, 0, false⟩

/-- One level more around parts of some depth, if they do not nest too deeply then. -/
def wrap? (p : Pattern) (inner : Nat) : Option PatternPart :=
  if inner < deepest then some ⟨p, inner + 1, true⟩ else none

def depthOf (parts : List PatternPart) : Nat := parts.foldl (fun d p => max d p.depth) 0

/-- Parts one after the other; the last one comes first. -/
def sequenceOf? (parts : List PatternPart) : Option PatternPart :=
  match parts with
  | [] => some ⟨.empty, 0, true⟩
  | [p] => some p
  | _ => wrap? (.sequenceOf (parts.reverse.map pattern)) (depthOf parts)

/-- Alternatives; the last one comes first. -/
def choiceOf? (parts : List PatternPart) : Option PatternPart :=
  match parts with
  | [p] => some p
  | _ => wrap? (.choiceOf (parts.reverse.map pattern)) (depthOf parts)

end PatternPart

/-- An open group: what came before it, how it counts, and the flags outside. -/
structure GroupFrame where
  items : List PatternPart
  alternatives : List PatternPart
  index : Option Nat
  flags : PatternFlags

/-- A pattern of which a beginning has been read: the items of the current
alternative and the alternatives before it, the last one first. -/
structure PatternReader where
  rest : List Char
  flags : PatternFlags
  items : List PatternPart
  alternatives : List PatternPart
  frames : List GroupFrame
  groups : Nat
  names : List (String × Nat)

namespace PatternReader

open PatternText

def push (r : PatternReader) (p : PatternPart) (rest : List Char) : PatternReader :=
  { r with rest := rest, items := p :: r.items }

/-- Adds a pattern that has no parts. -/
def pushPlain (r : PatternReader) (p : Pattern) (rest : List Char) : PatternReader :=
  r.push ⟨p, 0, true⟩ rest

/-- All alternatives of the current group. -/
def whole? (r : PatternReader) : Option PatternPart :=
  (PatternPart.sequenceOf? r.items).bind fun last =>
    PatternPart.choiceOf? (last :: r.alternatives)

def nextAlternative? (r : PatternReader) (rest : List Char) : Option PatternReader :=
  (PatternPart.sequenceOf? r.items).map fun last =>
    { r with rest := rest, items := [], alternatives := last :: r.alternatives }

/-- Repeats the last item. -/
def repeatLast? (r : PatternReader) (least : Nat) (most : Option Nat) (rest : List Char) :
    Option PatternReader :=
  match r.items with
  | [] => none
  | p :: items =>
    let (lazy, rest) := match rest with
      | '?' :: more => (true, more)
      | _ => (false, rest)
    let repeated := Pattern.repetition least most (lazy == r.flags.swapGreed) p.pattern
    if p.repeats then
      (PatternPart.wrap? repeated p.depth).map fun p => { r with rest := rest, items := p :: items }
    else none

def nameLetters : CharSet := .ofCodes Category.nameLetterCodes

def nameNumbers : CharSet := .ofCodes Category.nameNumberCodes

def isNameStart (c : Char) : Bool := c = '_' || nameLetters.mem c

def isNameChar (c : Char) : Bool :=
  c = '.' || c = '[' || c = ']' || isNameStart c || nameNumbers.mem c

/-- The name of a group, after its opening bracket and up to what follows it. -/
def groupName? (cs : List Char) : Option (String × List Char) :=
  match CodePoints.cut '>' cs with
  | (c :: name, some rest) =>
    if isNameStart c && name.all isNameChar then some (String.ofList (c :: name), rest) else none
  | _ => none

/-- The flags of a group up to its colon or bracket: those switched on, and after a
minus sign those switched off. -/
def readFlags? (seen : List Char) (negated : Bool) (f : PatternFlags) :
    List Char → Option (PatternFlags × Bool × List Char)
  | [] => none
  | c :: cs =>
    if c = ':' ∨ c = ')' then
      if seen.head? = some '-' ∨ (c = ')' ∧ seen.isEmpty) then none
      else some (f, c = ')', cs)
    else if seen.contains c then none
    else if c = '-' then readFlags? (c :: seen) true f cs
    else (f.set? c !negated).bind fun g => readFlags? (c :: seen) negated g cs

/-- Opens a group with flags for its inside. -/
def enter (r : PatternReader) (index : Option Nat) (flags : PatternFlags) (rest : List Char) :
    PatternReader :=
  { r with
    rest := rest
    flags := flags
    items := []
    alternatives := []
    frames := ⟨r.items, r.alternatives, index, r.flags⟩ :: r.frames
    groups := match index with
      | some k => max r.groups (k + 1)
      | none => r.groups }

def enterNamed? (r : PatternReader) (cs : List Char) : Option PatternReader :=
  (groupName? cs).bind fun (name, rest) =>
    if (r.names.lookup name).isSome then none
    else
      let opened := r.enter (some r.groups) r.flags rest
      some { opened with names := (name, r.groups) :: r.names }

/-- What an opening bracket begins: a group, or a switch of flags. -/
def openGroup? (r : PatternReader) (cs : List Char) : Option PatternReader :=
  match trimSpace r.flags cs with
  | '?' :: 'P' :: '<' :: name => r.enterNamed? name
  | '?' :: '=' :: _ | '?' :: '!' :: _ | '?' :: '<' :: '=' :: _ | '?' :: '<' :: '!' :: _ => none
  | '?' :: '<' :: name => r.enterNamed? name
  | '?' :: more =>
    (readFlags? [] false r.flags more).map fun (flags, alone, rest) =>
      if alone then { r.push .flags rest with flags := flags } else r.enter none flags rest
  | rest => some (r.enter (some r.groups) r.flags rest)

def closeGroup? (r : PatternReader) (rest : List Char) : Option PatternReader :=
  match r.frames with
  | [] => none
  | frame :: frames =>
    r.whole?.bind fun inner =>
      let p := match frame.index with
        | some k => Pattern.group k inner.pattern
        | none => inner.pattern
      (PatternPart.wrap? p inner.depth).map fun p =>
        { r with
          rest := rest
          flags := frame.flags
          items := p :: frame.items
          alternatives := frame.alternatives
          frames := frames }

/-- Any character, save the ends of lines where the flags say so. -/
def dot? (f : PatternFlags) : Option Pattern :=
  if f.ascii then none
  else if f.dotAll then some (.set .all)
  else
    let ends := if f.carriageReturns then ['\n', '\r'] else ['\n']
    some (.set (CharSet.ofChars ends).complement)

def lineStart (f : PatternFlags) : Place :=
  if !f.multiLine then .textStart else if f.carriageReturns then .lineStartReturn else .lineStart

def lineEnd (f : PatternFlags) : Place :=
  if !f.multiLine then .textEnd else if f.carriageReturns then .lineEndReturn else .lineEnd

def literal (f : PatternFlags) (c : Char) : Pattern := .ofSet (widen f (.ofChar c))

/-- Reads on by one item. -/
def step? (r : PatternReader) : Option PatternReader :=
  match r.rest with
  | [] => none
  | '(' :: cs => r.openGroup? cs
  | ')' :: cs => r.closeGroup? cs
  | '|' :: cs => r.nextAlternative? cs
  | '[' :: cs =>
    (ClassReader.read? r.flags ('[' :: cs)).bind fun c =>
      if c.depth ≤ PatternPart.deepest then some (r.push ⟨.ofSet c.set, c.depth, true⟩ c.rest)
      else none
  | '?' :: cs => r.repeatLast? 0 (some 1) cs
  | '*' :: cs => r.repeatLast? 0 none cs
  | '+' :: cs => r.repeatLast? 1 none cs
  | '\x7b' :: cs =>
    (bounds? r.flags cs).bind fun (least, most, rest) =>
      r.repeatLast? least most (trimSpace r.flags rest)
  | '\\' :: cs =>
    (escape? r.flags cs).map fun (escape, rest) =>
      match escape with
      | .literal c => r.pushPlain (literal r.flags c) rest
      | .set s => r.pushPlain (.ofSet s) rest
      | .place p => r.pushPlain (.place p) rest
  | '.' :: cs => (dot? r.flags).map fun p => r.pushPlain p cs
  | '^' :: cs => some (r.pushPlain (.place (lineStart r.flags)) cs)
  | '$' :: cs => some (r.pushPlain (.place (lineEnd r.flags)) cs)
  | c :: cs => some (r.pushPlain (literal r.flags c) cs)

def run? : Nat → PatternReader → Option PatternReader
  | 0, _ => none
  | fuel + 1, r =>
    let r := { r with rest := trimSpace r.flags r.rest }
    if r.rest.isEmpty then some r
    else
      match r.step? with
      | some next => run? fuel next
      | none => none

end PatternReader

/-- **Reads a pattern**, if the text is one. -/
def Pattern.read? (text : String) : Option NamedPattern :=
  let cs := text.toList
  (PatternReader.run? (cs.length + 1) ⟨cs, .initial, [], [], [], 1, []⟩).bind fun r =>
    if r.frames.isEmpty then
      r.whole?.bind fun whole =>
        if Footprint.fits whole.pattern then some ⟨whole.pattern, r.groups, r.names⟩ else none
    else none

end Templating

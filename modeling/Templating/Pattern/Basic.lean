import Templating.Pattern.CharSet

/-!
# Patterns

What a regular expression means: literal text, characters of a set, places in a text,
sequences, alternatives in order of preference, repetitions and groups.

Patterns are built by `sequenceOf`, `choiceOf`, `repetition` and `ofSet`, which write
the same in simpler terms where they can: neighbouring literals become one, alternatives
of one character become a set, and what all alternatives begin with comes before them.
-/

namespace Templating

/-- A condition on a place in a text. -/
inductive Place where
  | textStart | textEnd
  | lineStart | lineEnd
  /-- Lines that may also end with a carriage return. -/
  | lineStartReturn | lineEndReturn
  | wordBoundary (ascii : Bool) | noWordBoundary (ascii : Bool)
  | wordStart (ascii : Bool) | wordEnd (ascii : Bool)
  | wordStartHalf (ascii : Bool) | wordEndHalf (ascii : Bool)
  deriving DecidableEq

inductive Pattern where
  | empty
  | literal (text : List Char)
  | set (s : CharSet)
  | place (p : Place)
  | sequence (items : List Pattern)
  /-- The first of some patterns that matches. -/
  | choice (alternatives : List Pattern)
  /-- At least `least` times and at most `most` times, as often as possible if `greedy`. -/
  | repeated (least : Nat) (most : Option Nat) (greedy : Bool) (body : Pattern)
  | group (index : Nat) (body : Pattern)

namespace Pattern

mutual

/-- Whether two patterns are the same. -/
def same : Pattern → Pattern → Bool
  | empty, empty => true
  | literal s, literal t => s == t
  | set s, set t => s == t
  | place p, place q => p == q
  | sequence ps, sequence qs => sameAll ps qs
  | choice ps, choice qs => sameAll ps qs
  | repeated a b c p, repeated a' b' c' q => a == a' && b == b' && c == c' && p.same q
  | group k p, group l q => k == l && p.same q
  | _, _ => false

def sameAll : List Pattern → List Pattern → Bool
  | [], [] => true
  | p :: ps, q :: qs => p.same q && sameAll ps qs
  | _, _ => false

end

mutual

/-- The least number of characters in a match, if there can be one. -/
def minLength : Pattern → Option Nat
  | empty | place _ => some 0
  | literal text => some text.length
  | set s => if s.isEmpty then none else some 1
  | sequence ps => sumLength 0 ps
  | choice ps => leastLength none ps
  | repeated least _ _ p => p.minLength.map (least * ·)
  | group _ p => p.minLength

def sumLength (total : Nat) : List Pattern → Option Nat
  | [] => some total
  | p :: ps =>
    match p.minLength with
    | some n => sumLength (total + n) ps
    | none => none

/-- The least of some lengths, none as soon as one alternative matches nothing. -/
def leastLength (least : Option Nat) : List Pattern → Option Nat
  | [] => least
  | p :: ps =>
    match p.minLength with
    | some n => leastLength (some (min n (least.getD n))) ps
    | none => none

end

mutual

/-- Whether a pattern may match only where nothing is read. -/
def isBlank : Pattern → Bool
  | empty | place _ => true
  | literal _ | set _ => false
  | sequence ps | choice ps => allBlank ps
  | repeated _ _ _ p | group _ p => p.isBlank

def allBlank : List Pattern → Bool
  | [] => true
  | p :: ps => p.isBlank && allBlank ps

end

mutual

/-- Whether every match begins with a place. -/
def isAnchored (edge : Place) : Pattern → Bool
  | place p => p == edge
  | empty | literal _ | set _ => false
  | sequence ps => anyAnchored edge ps
  | choice ps => allAnchored edge ps
  | repeated least _ _ p => least != 0 && p.isAnchored edge
  | group _ p => p.isAnchored edge

/-- Whether one of some patterns up to the first that reads something is anchored. -/
def anyAnchored (edge : Place) : List Pattern → Bool
  | [] => false
  | p :: ps => p.isAnchored edge || (p.isBlank && anyAnchored edge ps)

def allAnchored (edge : Place) : List Pattern → Bool
  | [] => true
  | p :: ps => p.isAnchored edge && allAnchored edge ps

end

mutual

/-- The pattern with its sequences turned round, as it is read from the end of a text. -/
def mirrored : Pattern → Pattern
  | sequence ps => sequence (mirrorOnto [] ps)
  | choice ps => choice (mirrorOnto [] ps).reverse
  | repeated least most greedy p => repeated least most greedy p.mirrored
  | group k p => group k p.mirrored
  | p => p

def mirrorOnto (done : List Pattern) : List Pattern → List Pattern
  | [] => done
  | p :: ps => mirrorOnto (p.mirrored :: done) ps

end

mutual

/-- The number of patterns in a pattern. -/
def size : Pattern → Nat
  | sequence ps | choice ps => sumSize 1 ps
  | repeated _ _ _ p | group _ p => p.size + 1
  | _ => 1

def sumSize (total : Nat) : List Pattern → Nat
  | [] => total
  | p :: ps => sumSize (total + p.size) ps

end

def ofSet (s : CharSet) : Pattern :=
  match s.single? with
  | some c => literal [c]
  | none => set s

/-- What no text matches. -/
def never : Pattern := set .empty

/-- The items of a pattern as part of a sequence. -/
def items : Pattern → List Pattern
  | empty => []
  | sequence ps => ps
  | p => [p]

/-- Adds the characters read since the last other pattern, the last one first. -/
def flush (pending : List Char) (done : List Pattern) : List Pattern :=
  if pending.isEmpty then done else literal pending.reverse :: done

/-- Makes one literal of those that follow each other. -/
def joinLiterals (pending : List Char) (done : List Pattern) : List Pattern → List Pattern
  | [] => (flush pending done).reverse
  | literal text :: ps => joinLiterals (text.reverse ++ pending) done ps
  | p :: ps => joinLiterals [] (p :: flush pending done) ps

/-- Patterns one after the other. -/
def sequenceOf (ps : List Pattern) : Pattern :=
  match joinLiterals [] [] (ps.flatMap items) with
  | [] => empty
  | [p] => p
  | ps => sequence ps

def alternatives : Pattern → List Pattern
  | choice ps => ps
  | p => [p]

/-- The character of a literal that is only one. -/
def singleChar? : Pattern → Option Char
  | literal [c] => some c
  | _ => none

def set? : Pattern → Option CharSet
  | set s => some s
  | _ => none

def sequence? : Pattern → Option (List Pattern)
  | sequence ps => some ps
  | _ => none

/-- The set of all alternatives, if all are single characters or all are sets. -/
def asSet? (ps : List Pattern) : Option CharSet :=
  match ps.mapM singleChar? with
  | some cs => some (.ofChars cs)
  | none => (ps.mapM set?).map .unionAll

/-- What two sequences both begin with, the last item first. -/
def commonPrefix (done : List Pattern) : List Pattern → List Pattern → List Pattern
  | p :: ps, q :: qs => if p.same q then commonPrefix (p :: done) ps qs else done
  | _, _ => done

/-- The items that all of some sequences begin with. -/
def sharedPrefix : List (List Pattern) → List Pattern
  | [] => []
  | ps :: rest => rest.foldl (fun shared qs => (commonPrefix [] shared qs).reverse) ps

/-- Some alternatives; what they all begin with is taken out of them, at most `fuel`
times over. -/
def choiceWith : Nat → List Pattern → Pattern
  | fuel, ps =>
    match ps.flatMap alternatives with
    | [] => never
    | [p] => p
    | ps =>
      match asSet? ps, fuel, ps.mapM sequence? with
      | some s, _, _ => ofSet s
      | none, fuel + 1, some sequences =>
        let shared := sharedPrefix sequences
        if shared.isEmpty then choice ps
        else
          let rest := sequences.map fun items => sequenceOf (items.drop shared.length)
          sequenceOf (shared ++ [choiceWith fuel rest])
      | none, _, _ => choice ps

/-- The first of some patterns that matches. Each shared prefix is an item of the first
of them. -/
def choiceOf (ps : List Pattern) : Pattern := choiceWith (sumSize 0 (ps.take 1)) ps

/-- A pattern some number of times. What reads nothing is not repeated. -/
def repetition (least : Nat) (most : Option Nat) (greedy : Bool) (p : Pattern) : Pattern :=
  let (least, most) :=
    if p.isBlank then (min least 1, some (min 1 (most.getD 1))) else (least, most)
  match least, most with
  | 0, some 0 => empty
  | 1, some 1 => p
  | _, _ => repeated least most greedy p

end Pattern

/-- A pattern with the names of its groups. -/
structure NamedPattern where
  pattern : Pattern
  /-- The number of groups. -/
  groups : Nat
  names : List (String × Nat)

end Templating

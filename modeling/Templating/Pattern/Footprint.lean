import Std.Data.HashMap
import Templating.Pattern.Basic
import Templating.Pattern.ByteRanges

/-!
# How much room a pattern takes

A pattern is run as an automaton that reads the bytes of a text: a state for each byte of
a literal, states for the byte ranges of a set, and forks for what may be left out or
repeated. Two of them are made, one that reads forwards and notes groups and one that reads
backwards, and a pattern is refused if either takes more than `Footprint.limit` bytes.

The automata are not made here. A `Footprint` holds what has been counted so far, and
counting stops with `none` at the limit.

* `Footprint.fits`: whether both automata stay within the limit.
-/

namespace Templating

/-- The number of states of an automaton and the bytes that it takes. -/
structure Footprint where
  states : Nat
  bytes : Nat

namespace Footprint

def limit : Nat := 10 * 1024 * 1024

/-- What a state takes on its own, a way out of a fork, and a range of a state that has
several. -/
def stateCost : Nat := 32
def wayCost : Nat := 4
def rangeCost : Nat := 8

/-- Some states more, with what belongs to them. -/
def grow? (f : Footprint) (states extra : Nat) : Option Footprint :=
  let bytes := f.bytes + stateCost * states + extra
  if bytes ≤ limit then some ⟨f.states + states, bytes⟩ else none

/-- What an automaton for a part of a pattern adds. A way from its last state costs
something if this is a fork. -/
structure Part where
  total : Footprint
  endsInFork : Bool

/-- A way from the end of a part to a state that is no fork. -/
def Part.leave? (p : Part) : Option Footprint :=
  p.total.grow? 0 (if p.endsInFork then wayCost else 0)

/-- Counts a part after what has been counted before. -/
abbrev Counter := Footprint → Option Part

/-- A state with ranges of bytes, each with the state that follows. -/
abbrev Row := List (Nat × Nat × Nat)

/-- The slot of some numbers among `slots`. -/
def slotOf (slots : Nat) (numbers : List Nat) : Nat :=
  let mixed := numbers.foldl (fun (h : UInt64) n => (h ^^^ n.toUInt64) * 1099511628211)
    14695981039346656037
  mixed.toNat % slots

/-- States met before, which are shared. Each slot remembers the last one. -/
structure Shared where
  total : Footprint
  known : Std.HashMap Nat (Row × Nat)

/-- The number of the state with a row: that of a remembered one, or of a new one that
takes `extra` bytes. -/
def Shared.state? (s : Shared) (slot : Nat) (row : Row) (extra : Nat) : Option (Nat × Shared) :=
  match s.known[slot]? with
  | some (other, number) => if other == row then some (number, s) else fresh
  | none => fresh
where
  fresh : Option (Nat × Shared) :=
    (s.total.grow? 1 extra).map fun total =>
      (s.total.states, ⟨total, s.known.insert slot (row, s.total.states)⟩)

/-- The state from which byte sequences, of at most `depth` ranges each and in order, lead
to `target`. -/
def rowState? (target : Nat) : (depth : Nat) → List ByteRanges → Shared → Option (Nat × Shared)
  | 0, _, shared => some (target, shared)
  | depth + 1, sequences, shared =>
    if sequences == [[]] then some (target, shared)
    else
      let step (acc : Row × Shared) (run : List ByteRanges) : Option (Row × Shared) :=
        (rowState? target depth (run.map List.tail) acc.2).map fun (next, shared) =>
          match run with
          | ((a, b) :: _) :: _ => ((a, b, next) :: acc.1, shared)
          | _ => (acc.1, shared)
      let runs := sequences.splitBy fun s t => s.head? == t.head?
      (runs.foldlM step ([], shared)).bind fun (reversed, shared) =>
        let row := reversed.reverse
        let slot := slotOf 10000 (row.flatMap fun (a, b, next) => [a, b, next])
        shared.state? slot row (rangeCost * row.length)

/-- A set read forwards: what its byte sequences end with is shared. -/
def forwardSet (sequences : List ByteRanges) : Counter := fun f =>
  (f.grow? 1 0).bind fun started =>
    (rowState? f.states 4 sequences ⟨started, ∅⟩).map fun (_, shared) => ⟨shared.total, false⟩

/-- A chain of states for a byte sequence, from its first byte to its last. -/
def chain? (sequence : ByteRanges) (last : Nat) (shared : Shared) : Option (Nat × Shared) :=
  sequence.foldlM (fun (before, shared) (a, b) =>
    shared.state? (slotOf 1000 [before, a, b]) [(before, a, b)] 0) (last, shared)

/-- A set read backwards: what its byte sequences begin with is shared. -/
def backwardSet (sequences : List ByteRanges) : Counter := fun f =>
  (f.grow? 2 0).bind fun started =>
    let step (shared : Shared) (sequence : ByteRanges) : Option Shared :=
      (chain? sequence (f.states + 1) shared).bind fun (_, shared) =>
        (shared.total.grow? 0 wayCost).map fun total => ⟨total, shared.known⟩
    (sequences.foldlM step ⟨started, ∅⟩).map fun shared => ⟨shared.total, false⟩

/-- A set in ASCII is a single state with its ranges. -/
def asciiSet (s : CharSet) : Counter := fun f =>
  (f.grow? 2 (rangeCost * s.ranges.length)).map (⟨·, false⟩)

def setPart (backwards : Bool) (s : CharSet) : Counter :=
  if s.isAscii then asciiSet s
  else if backwards then backwardSet (ByteRanges.ofSet s)
  else forwardSet (ByteRanges.ofSet s)

/-- A point that literals share: what is left of each of them there. -/
abbrev Junction := List (List UInt8)

/-- Splits what is left of literals after each that ends, and gives the pieces, the last
one first. One that ends where another has ended before, with none in between that goes
on, does not count. -/
def pieces (done : List Junction) (piece : Junction) : Junction → List Junction
  | [] => piece :: done
  | [] :: rest =>
    if piece.isEmpty && !done.isEmpty && done.all List.isEmpty then pieces done piece rest
    else pieces (piece :: done) [] rest
  | word :: rest => pieces done (word :: piece) rest

/-- Groups what is left, the last literal first, by its first byte. -/
def branches (piece : Junction) : List Junction :=
  let byFirst := piece.reverse.mergeSort fun s t => s.headD 0 ≤ t.headD 0
  (byFirst.splitBy fun s t => s.head? == t.head?).map (·.map List.tail)

/-- Counts junctions, at most `fuel` of them: a state for each piece, and a fork that
leads to all pieces and to the end between two of them. -/
def junctions? : (fuel : Nat) → List Junction → Footprint → Option Footprint
  | 0, _, f | _, [], f => some f
  | fuel + 1, j :: js, f =>
    let parts := (pieces [] [] j).map branches
    let filled := parts.filter (!·.isEmpty)
    let ranges := filled.foldl (fun n p => if p.length = 1 then n else n + p.length) 0
    let ways := filled.length + (parts.length - 1)
    match f.grow? (filled.length + 1) (rangeCost * ranges + wayCost * ways) with
    | some f =>
      let further := filled.flatten.filter fun below => below.any (!·.isEmpty)
      junctions? fuel (further ++ js) f
    | none => none

/-- Alternatives that are all literals share what they begin with. -/
def literalChoice (words : List (List UInt8)) : Counter := fun f =>
  (f.grow? 1 0).bind fun f =>
    (junctions? (words.foldl (fun n w => n + w.length) 1) [words] f).map (⟨·, false⟩)

def literal? : Pattern → Option (List Char)
  | .literal text => some text
  | _ => none

/-- The bytes of literals as an automaton meets them, if there are literals only. -/
def literals? (backwards : Bool) (ps : List Pattern) : Option (List (List UInt8)) :=
  (ps.mapM literal?).map fun words => words.map fun text =>
    if backwards then (ByteRanges.ofText text).reverse else ByteRanges.ofText text

/-- `count` times the same, one after the other. -/
def times (body : Counter) : (count : Nat) → Part → Option Part
  | 0, p => some p
  | count + 1, p =>
    match p.leave?.bind body with
    | some p => times body count p
    | none => none

/-- Exactly `count` times the same; nothing at all still takes a state. -/
def exactly (body : Counter) (count : Nat) : Counter := fun f =>
  if count = 0 then (f.grow? 1 0).map (⟨·, false⟩) else times body count ⟨f, false⟩

/-- At most `count` times more; each is behind a fork. -/
def atMost (body : Counter) : (count : Nat) → Part → Option Part
  | 0, p => some p
  | count + 1, p =>
    match p.leave?.bind fun f => (f.grow? 1 (2 * wayCost)).bind body with
    | some p => atMost body count p
    | none => none

/-- The fork after a part that leads back into it. -/
def loop? (p : Part) : Option Part :=
  p.leave?.bind fun f => (f.grow? 1 wayCost).map (⟨·, true⟩)

/-- A repetition; `consumes` says whether each time reads something. -/
def repetition (least : Nat) (most : Option Nat) (consumes : Bool) (body : Counter) : Counter :=
  fun f =>
    match least, most with
    | 0, some 1 =>
      (f.grow? 1 (2 * wayCost)).bind fun f =>
        (body f).bind fun p => p.leave?.bind fun f => (f.grow? 1 0).map (⟨·, false⟩)
    | 0, none =>
      if consumes then
        (f.grow? 1 wayCost).bind fun f => (body f).bind fun p => p.leave?.map (⟨·, true⟩)
      else
        ((body f).bind loop?).bind fun p => (p.total.grow? 2 (3 * wayCost)).map (⟨·, false⟩)
    | 1, none => (body f).bind loop?
    | k + 1, none =>
      (exactly body k f).bind fun p => (p.leave?.bind body).bind loop?
    | least, some most =>
      (exactly body least f).bind fun p =>
        if least = most then some p
        else
          (p.total.grow? 1 0).bind fun f =>
            (atMost body (most - least) ⟨f, p.endsInFork⟩).bind fun p =>
              p.leave?.map (⟨·, false⟩)

mutual

/-- Counts a pattern; groups are noted only forwards. -/
def part (backwards : Bool) : Pattern → Counter
  | .empty, f | .place _, f => (f.grow? 1 0).map (⟨·, false⟩)
  | .literal text, f => (f.grow? (ByteRanges.ofText text).length 0).map (⟨·, false⟩)
  | .set s, f => setPart backwards s f
  | .sequence ps, f => sequencePart backwards ps ⟨f, false⟩
  | .choice ps, f =>
    match literals? backwards ps with
    | some words => literalChoice words f
    | none => choicePart backwards 0 ps f
  | .repeated least most _ p, f =>
    repetition least most ((p.minLength.getD 0) != 0) (part backwards p) f
  | .group _ p, f =>
    if backwards then part backwards p f
    else
      (f.grow? 1 0).bind fun f =>
        (part backwards p f).bind fun inner =>
          inner.leave?.bind fun f => (f.grow? 1 0).map (⟨·, false⟩)

def sequencePart (backwards : Bool) : List Pattern → Part → Option Part
  | [], done => some done
  | p :: ps, done =>
    match done.leave?.bind (part backwards p) with
    | some next => sequencePart backwards ps next
    | none => none

/-- The fork of a choice and its end come after the first two alternatives. -/
def choicePart (backwards : Bool) (index : Nat) : List Pattern → Counter
  | [], f => some ⟨f, false⟩
  | p :: ps, f =>
    match (part backwards p f).bind fun p => p.leave?.bind fun f =>
        f.grow? (if index = 1 then 2 else 0) wayCost with
    | some f => choicePart backwards (index + 1) ps f
    | none => none

end

/-- The states before a pattern, which pass over what comes before a match, and the one
that reports the match. -/
def whole? (anchored : Bool) (counter : Counter) : Option Footprint :=
  let start : Footprint := ⟨0, 0⟩
  (if anchored then start.grow? 1 0 else start.grow? 3 (2 * wayCost + rangeCost)).bind fun f =>
    (counter f).bind fun p => p.leave?.bind fun f => f.grow? 1 0

/-- Choices of very many words are looked up in another way. -/
def isWordList : Pattern → Bool
  | .choice ps => 3000 ≤ ps.length && (ps.mapM literal?).isSome
  | _ => false

/-- **Whether a pattern takes no more room than is allowed.** -/
def fits (p : Pattern) : Bool :=
  let mirrored := p.mirrored
  isWordList p ||
    ((whole? (p.isAnchored .textStart) (part false (.group 0 p))).isSome &&
      (whole? (mirrored.isAnchored .textEnd) (part true mirrored)).isSome)

end Footprint

end Templating

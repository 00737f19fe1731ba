import Templating.Pattern.Notation

/-!
# Bracketed classes

A class in brackets lists characters, ranges and other classes, and may combine two of
its parts by an operation on sets. `ClassReader.read?` reads one with a stack of what is
open. It also notes how deeply the class nests, because what nests too deeply is refused.
-/

namespace Templating

/-- An operation on sets in a bracketed class. -/
inductive SetOperation where
  | intersection | difference | symmetricDifference

/-- The items of a class read so far, the last one first, and the depth of the deepest. -/
structure ClassItems where
  sets : List CharSet
  depth : Nat

namespace ClassItems

def empty : ClassItems := ⟨[], 0⟩

def add (items : ClassItems) (s : CharSet) (depth : Nat) : ClassItems :=
  ⟨s :: items.sets, max depth items.depth⟩

def union (items : ClassItems) : CharSet := .unionAll items.sets

/-- More than one item nests one level deeper. -/
def nesting (items : ClassItems) : Nat :=
  if items.sets.length < 2 then items.depth else items.depth + 1

end ClassItems

/-- An open bracket with what came before it, or an operation that waits for its
second operand. -/
inductive ClassFrame where
  | bracket (outer : ClassItems) (negated : Bool)
  | operation (op : SetOperation) (left : CharSet) (depth : Nat)

/-- A bracketed class of which a beginning has been read. -/
structure ClassReader where
  rest : List Char
  items : ClassItems
  frames : List ClassFrame

/-- A class that has been read, with its depth and what follows it. -/
structure ReadClass where
  set : CharSet
  depth : Nat
  rest : List Char

namespace ClassReader

open PatternText

variable (f : PatternFlags)

/-- The value and the depth of what has been read since the last bracket or operation. -/
def combine (items : ClassItems) : List ClassFrame → CharSet × Nat × List ClassFrame
  | .operation op left depth :: frames =>
    let left := widen f left
    let right := widen f items.union
    (match op with
      | .intersection => left.inter right
      | .difference => left.diff right
      | .symmetricDifference => left.symmDiff right, max depth items.nesting + 1, frames)
  | frames => (items.union, items.nesting, frames)

/-- Hyphens at the start of a class, which stand for themselves. -/
def leadingHyphens (items : ClassItems) : List Char → ClassItems × List Char
  | '-' :: cs => leadingHyphens (items.add (.ofChar '-') 0) (trimSpace f cs)
  | cs => (items, cs)
termination_by cs => cs.length
decreasing_by exact Nat.lt_succ_of_le (length_trimSpace_le f cs)

/-- Opens a bracket, after the bracket itself. -/
def openBracket? (r : ClassReader) (cs : List Char) : Option ClassReader :=
  let start := trimSpace f cs
  let (negated, body) := match start with
    | '^' :: more => (true, trimSpace f more)
    | _ => (false, start)
  let (items, more) := match leadingHyphens f .empty body with
    | (⟨[], _⟩, ']' :: rest) => (ClassItems.empty.add (.ofChar ']') 0, trimSpace f rest)
    | read => read
  if more.isEmpty then none
  else some ⟨more, items, .bracket r.items negated :: r.frames⟩

/-- One item of a class: an escape or a character. Without Unicode it is in ASCII. -/
def item? : List Char → Option (Escape × List Char)
  | '\\' :: cs => (escape? f cs).filter fun (e, _) => isAllowed e
  | c :: cs => some (.literal c, cs) |>.filter fun (e, _) => isAllowed e
  | [] => none
where
  isAllowed : Escape → Bool
    | .literal c => !f.ascii || c.toNat < 128
    | _ => true

/-- The character that decides whether a hyphen before it makes a range. A comment is
looked into, not past. -/
def afterHyphen? (cs : List Char) : Option Char :=
  if f.spaced then
    match cs.dropWhile Blank.isBlank with
    | '#' :: comment => (comment.dropWhile Blank.isBlank).head?
    | c :: _ => some c
    | [] => none
  else cs.head?

/-- An item, or a range between two of them. -/
def range? (r : ClassReader) : Option ClassReader := do
  let (first, afterFirst) ← item? f r.rest
  let rest := trimSpace f afterFirst
  let single ← match first with
    | .literal c => some (CharSet.ofChar c)
    | .set s => some s
    | .place _ => none
  match rest with
  | [] => none
  | '-' :: more =>
    let next := afterHyphen? f more
    if next = some ']' ∨ next = some '-' then
      some { r with rest := rest, items := r.items.add single 0 }
    else
      let (last, after) ← item? f (trimSpace f more)
      match first, last with
      | .literal a, .literal b =>
        if a ≤ b then
          some { r with rest := after, items := r.items.add ⟨[(a.toNat, b.toNat)]⟩ 0 }
        else none
      | _, _ => none
  | _ => some { r with rest := rest, items := r.items.add single 0 }

/-- The next step: on with the class, or its end. -/
def step? (r : ClassReader) : Option (ClassReader ⊕ ReadClass) :=
  let operate (op : SetOperation) (rest : List Char) :=
    let (left, depth, frames) := combine f r.items r.frames
    some (.inl ⟨rest, .empty, .operation op left depth :: frames⟩)
  match trimSpace f r.rest with
  | [] => none
  | '[' :: cs =>
    match if r.frames.isEmpty then none else className? cs with
    | some (ranges, negated, rest) =>
      (negateIf negated f (widen f ⟨ranges⟩)).map fun s =>
        .inl { r with rest := rest, items := r.items.add s 0 }
    | none => (openBracket? f r cs).map .inl
  | ']' :: cs =>
    match combine f r.items r.frames with
    | (s, depth, .bracket outer negated :: frames) =>
      (negateIf negated f (widen f s)).map fun s =>
        if frames.isEmpty then .inr ⟨s, depth + 1, cs⟩
        else .inl ⟨cs, outer.add s (depth + 1), frames⟩
    | _ => none
  | '&' :: '&' :: cs => operate .intersection cs
  | '-' :: '-' :: cs => operate .difference cs
  | '~' :: '~' :: cs => operate .symmetricDifference cs
  | cs => (range? f { r with rest := cs }).map .inl

def run? : Nat → ClassReader → Option ReadClass
  | 0, _ => none
  | fuel + 1, r =>
    match step? f r with
    | some (.inl next) => run? fuel next
    | some (.inr result) => some result
    | none => none

/-- Reads a bracketed class, which begins with its bracket. -/
def read? (cs : List Char) : Option ReadClass := run? f (cs.length + 1) ⟨cs, .empty, []⟩

end ClassReader

end Templating

import Templating.Effect
import Templating.TokenTable

/-!
# Targets

What a run writes can be read back and cut, which is how blanks before a marker
go away after they have been written.

* `Target.cutBackTo`: cuts back to the last token, as far as it is in the output.
* `Target.cutTrailing`: cuts the tokens that the output ends with.

Neither looks below a floor, where the byte-order mark ends, and both look at
whole code units only.
-/

namespace Templating

class Target (τ : Type) where
  /-- The number of bytes in the target. -/
  size : EStateM IoError τ Nat
  /-- So many bytes from an offset on, all of which must be there. -/
  readAt : (offset count : Nat) → EStateM IoError τ Bytes
  write : Bytes → EStateM IoError τ Unit
  /-- Drops what lies beyond a size; what is written next comes after it. -/
  truncate : Nat → EStateM IoError τ Unit
  flush : EStateM IoError τ Unit

namespace Target

/-- How many bytes are read back at a time. -/
def stretch : Nat := 4096

/-- The last end of a token among the last `tests` ends of a text. The text is
read backwards and its end is `distance` bytes from the floor; so is the answer,
which comes with the length of the longest token there. -/
def lastEnd? (table : TokenTable) (unit : Nat) (reversed : Bytes) (distance : Nat) :
    Nat → Option (Nat × Nat)
  | 0 => none
  | tests + 1 =>
    let here := if distance % unit = 0 then table.matchReversed? reversed else none
    match here with
    | some length => some (distance, length)
    | none => lastEnd? table unit (reversed.drop 1) (distance - 1) tests

/-- A text, read backwards, without the tokens that it ends with; at most so many
tokens are looked for. -/
def strip (table : TokenTable) : Nat → Bytes → Bytes
  | 0, reversed => reversed
  | tests + 1, reversed =>
    match table.matchReversed? reversed with
    | some length => strip table tests (reversed.drop length)
    | none => reversed

variable {τ : Type} [Target τ]

/-- Looks for a token in the stretch before `stop`. -/
def backTurn (table : TokenTable) (unit floor stop : Nat) :
    EStateM IoError τ (Turn Nat (Option (Nat × Nat))) := do
  if stop ≤ floor then pure (.stop none)
  else
    let start := max (stop - stretch) floor
    -- a token that ends in the stretch may begin before it
    let readStart := max (start - (table.longest - 1)) floor
    let bytes ← readAt readStart (stop - readStart)
    match lastEnd? table unit bytes.reverse (stop - floor) (stop - start) with
    | some found => pure (.stop (some found))
    | none => pure (.again start)

/-- **Cuts back to the last token**, which is kept or not. Without a token all
output goes. -/
def cutBackTo (table : TokenTable) (unit floor : Nat) (consume : Bool) :
    EStateM IoError τ Unit := do
  let total ← size
  match ← loop (backTurn table unit floor) (fun _ => none) (total + 1) total with
  | some (distance, length) =>
    truncate (if consume then floor + distance - length else floor + distance)
  | none => if floor < total then truncate floor else pure ()

/-- Strips the tokens at `stop`, as far as they lie in the stretch before it. -/
def stripTurn (table : TokenTable) (floor stop : Nat) : EStateM IoError τ (Turn Nat Nat) := do
  if stop ≤ floor then pure (.stop stop)
  else
    let start := max (stop - max stretch table.longest) floor
    let bytes ← readAt start (stop - start)
    let kept := (strip table bytes.length bytes.reverse).length
    -- a token may lie across the start of the stretch
    if kept = bytes.length ∨ start = floor ∨ table.longest ≤ kept then pure (.stop (start + kept))
    else pure (.again (start + kept))

/-- **Cuts the tokens that the output ends with**, if it is made of whole units. -/
def cutTrailing (table : TokenTable) (unit floor : Nat) : EStateM IoError τ Unit := do
  let total ← size
  if total ≤ floor ∨ (total - floor) % unit ≠ 0 then pure ()
  else
    let stop ← loop (stripTurn table floor) id (total + 1) total
    if stop = total then pure () else truncate stop

end Target

end Templating

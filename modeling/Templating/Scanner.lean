import Templating.Effect
import Templating.Tape
import Templating.TokenTable

/-!
# Scanners

A condition is read from bytes that are in memory, or from a stream that is
being processed. A `Scanner` is what both offer: a look at the bytes ahead and a
step forward. `Slice` is the scanner over bytes in memory.
-/

namespace Templating

class Scanner (σ : Type) where
  /-- The number of the longest token at the cursor, and its length. -/
  peekToken : TokenTable → EStateM Error σ (Option (Nat × Nat))
  /-- The byte so many bytes after the cursor, if there is one. -/
  peekByte : Nat → EStateM Error σ (Option UInt8)
  /-- A step of so many bytes, or to the end of the input. -/
  advance : Nat → EStateM Error σ Unit
  /-- The number of bytes between the cursor and the end of the input. -/
  remaining : σ → Nat

namespace Scanner

variable {σ : Type} [Scanner σ]

/-- Up to `count` bytes from `offset` bytes after the cursor on. -/
def peekBytes (offset : Nat) : Nat → EStateM Error σ Bytes
  | 0 => pure []
  | count + 1 => do
    match ← peekByte offset with
    | none => pure []
    | some b => do
      let rest ← peekBytes (offset + 1) count
      pure (b :: rest)

/-- The next `count` bytes, or all that are left, with a step past them. -/
def take (count : Nat) : EStateM Error σ Bytes := do
  let bytes ← peekBytes 0 count
  advance bytes.length
  pure bytes

/-- A loop whose turns that go on each consume at least one byte. -/
def loop {ε α β : Type} (body : α → EStateM ε σ (Turn α β)) (spent : α → β) (start : α) :
    EStateM ε σ β := do
  let s ← get
  Templating.loop body spent (remaining s + 1) start

end Scanner

/-- Bytes in memory: those from the cursor on, and how many lie before it. -/
structure Slice where
  rest : Tape
  position : Nat

namespace Slice

def ofBytes (bytes : Bytes) : Slice := ⟨.ofBytes bytes, 0⟩

def drop (s : Slice) (count : Nat) : Slice :=
  ⟨s.rest.drop count, s.position + min count s.rest.length⟩

instance : Scanner Slice where
  peekToken table := do
    let s ← get
    pure (table.match? s.rest.bytes)
  peekByte offset := do
    let s ← get
    pure s.rest.bytes[offset]?
  advance count := modify (·.drop count)
  remaining s := s.rest.length

end Slice

end Templating

import Templating.Scanner
import Templating.Source

/-!
# The window over a source

A `Window` holds the bytes of a source around a cursor: some behind it, some
ahead of it, together at most its capacity. It is refilled as the cursor moves
on, which drops the bytes behind, and grows when something longer has to be seen
at once.

* `Window.ensure`: so many bytes ahead, unless the source ends before.
* `Window.seekUntil`, `Window.seekWhile`: moves to a token, and past tokens.
-/

namespace Templating

structure Window where
  capacity : Nat
  /-- The bytes before the cursor, the nearest first. -/
  behind : Bytes
  /-- The bytes from the cursor on. -/
  ahead : Tape
  source : Source
  /-- Whether the source has ended. -/
  exhausted : Bool

namespace Window

/-- The place of the cursor in the window. -/
def position (w : Window) : Nat := w.behind.length

/-- The number of bytes in the window. -/
def length (w : Window) : Nat := w.behind.length + w.ahead.length

def contents (w : Window) : Bytes := w.behind.reverse ++ w.ahead.bytes

/-- The number of bytes from the cursor to the end of the source. -/
def remaining (w : Window) : Nat := w.ahead.length + w.source.unread.length

/-- Whether so many bytes are ahead. -/
def holds (w : Window) (count : Nat) : Bool := count ≤ w.ahead.length

/-- The window with its cursor so many bytes further, or at its end. -/
def step (w : Window) (count : Nat) : Window :=
  { w with behind := (w.ahead.take count).reverse ++ w.behind, ahead := w.ahead.drop count }

/-- The window with its cursor at a place, or at its end. -/
def setPosition (w : Window) (position : Nat) : Window :=
  { w with
    behind := (w.contents.take position).reverse
    ahead := .ofBytes (w.contents.drop position) }

/-- A window that holds `size` bytes if need be. -/
def reserve (w : Window) (size : Nat) : Window := { w with capacity := max w.capacity size }

/-- The written-out bytes between two places of the window. -/
def slice (w : Window) (start stop : Nat) : Bytes := (w.contents.take stop).drop start

/-- Reads until the window is full or the source has ended. -/
def fill : EStateM IoError Window Unit := do
  let w ← get
  if w.exhausted then pure ()
  else
    let pulled := w.source.pull (w.capacity - w.length)
    set { w with
      ahead := w.ahead.append pulled.bytes
      source := pulled.source
      exhausted := pulled.status == PullStatus.ended }
    if pulled.status == PullStatus.failed then throw .failed else pure ()

/-- Keeps some bytes, puts the cursor before them and reads more after them. The
result tells whether there are any bytes then. -/
def refill (kept : Tape) : EStateM IoError Window Bool := do
  modify fun w => { w with behind := [], ahead := kept }
  fill
  let w ← get
  pure !w.ahead.isEmpty

/-- Drops the bytes before a place of the window and reads more. -/
def refillFrom (start : Nat) : EStateM IoError Window Bool := do
  let w ← get
  refill (.ofBytes (w.contents.drop start))

/-- Drops the bytes behind the cursor and reads more. -/
def refillAhead : EStateM IoError Window Bool := do
  let w ← get
  refill w.ahead

/-- Drops all bytes and reads the next ones. -/
def renew : EStateM IoError Window Bool := refill .empty

/-- Has `needed` bytes ahead, unless the source ends before. -/
def ensure (needed : Nat) : EStateM IoError Window Unit := do
  let w ← get
  if w.holds needed || w.exhausted then pure ()
  else
    set (w.reserve needed)
    let _ ← refillAhead
    pure ()

/-- The longest token at the cursor, by its number and length. -/
def peekToken (table : TokenTable) : EStateM IoError Window (Option (Nat × Nat)) := do
  ensure table.longest
  let w ← get
  pure (table.match? w.ahead.bytes)

/-- The byte so many bytes after the cursor, if the source has one. -/
def peekByte (offset : Nat) : EStateM IoError Window (Option UInt8) := do
  ensure (offset + 1)
  let w ← get
  pure w.ahead.bytes[offset]?

/-- One stretch of a step of `count` bytes: as far as the window goes. -/
def advanceTurn (count : Nat) : EStateM IoError Window (Turn Nat Unit) := do
  let w ← get
  let covered := min count w.ahead.length
  set (w.step covered)
  if count = covered then pure (.stop ())
  else if ← refillAhead then pure (.again (count - covered))
  else pure (.stop ())

/-- Moves the cursor by so many bytes, or to the end of the source. -/
def advance (count : Nat) : EStateM IoError Window Unit :=
  loop advanceTurn (fun _ => ()) (count + 1) count

def seekTurn (table : TokenTable) (consume : Bool) :
    Unit → EStateM IoError Window (Turn Unit (Option Nat)) := fun _ => do
  ensure table.longest
  let w ← get
  if w.ahead.isEmpty then
    if ← renew then pure (.again ()) else pure (.stop none)
  else
    match table.match? w.ahead.bytes with
    | some (index, length) =>
      set (if consume then w.step length else w)
      pure (.stop (some index))
    | none =>
      set (w.step 1)
      pure (.again ())

/-- **Moves the cursor to the next token**, or past it when it is consumed. Without
one the cursor ends with the source. -/
def seekUntil (table : TokenTable) (consume : Bool) : EStateM IoError Window (Option Nat) := do
  let w ← get
  loop (seekTurn table consume) (fun _ => none) (2 * w.remaining + 2) ()

/-- Moves the cursor past the next token, or to the end of the source. -/
def seekThrough (table : TokenTable) : EStateM IoError Window (Option Nat) := seekUntil table true

def skipTurn (table : TokenTable) : Unit → EStateM IoError Window (Turn Unit Unit) := fun _ => do
  match ← peekToken table with
  | some (_, length) =>
    modify (·.step length)
    pure (.again ())
  | none => pure (.stop ())

/-- **Moves the cursor past tokens** for as long as there is one at the cursor. -/
def seekWhile (table : TokenTable) : EStateM IoError Window Unit := do
  let w ← get
  loop (skipTurn table) id (w.remaining + 1) ()

instance : Scanner Window where
  peekToken table := liftM (peekToken table)
  peekByte offset := liftM (peekByte offset)
  advance count := liftM (advance count)
  remaining := remaining

/-- The least capacity: every byte-order mark fits. -/
def leastCapacity : Nat := 4

/-- The filled window at the start of a source. -/
def first (capacity : Nat) (source : Source) : Except IoError Window :=
  match fill.run ⟨max capacity leastCapacity, [], .empty, source, false⟩ with
  | .ok _ w => pure w
  | .error e _ => throw e

/-- **The window after the byte-order mark** of a source, with the encoding that the
mark announces and the length of the mark. -/
def enter (capacity : Nat) (source : Source) : Except IoError (Window × Encoding × Nat) := do
  let w ← first capacity source
  let (encoding, mark) := Encoding.detect w.ahead.bytes
  pure (w.step mark, encoding, mark)

end Window

end Templating

import Templating.Target

/-!
# Targets in memory

* `Memory`: bytes that grow at their end.
* `Recorder`: the same, with a note of its size at every flush, and with a size
  beyond which it refuses.
-/

namespace Templating

structure Memory where
  content : Array UInt8

namespace Memory

def ofBytes (bytes : Bytes) : Memory := ⟨bytes.toArray⟩

def toBytes (m : Memory) : Bytes := m.content.toList

/-- So many bytes from an offset on, if all of them are there. -/
def read? (content : Array UInt8) (offset count : Nat) : Option Bytes :=
  if offset + count ≤ content.size then some (content.extract offset (offset + count)).toList
  else none

def read (content : Array UInt8) (offset count : Nat) : Except IoError Bytes :=
  match read? content offset count with
  | some bytes => pure bytes
  | none => throw .endOfData

instance : Target Memory where
  size := do
    let m ← get
    pure m.content.size
  readAt offset count := do
    let m ← get
    MonadExcept.ofExcept (read m.content offset count)
  write bytes := modify fun ⟨content⟩ => ⟨content ++ bytes⟩
  truncate size := modify fun ⟨content⟩ => ⟨content.shrink size⟩
  flush := pure ()

end Memory

structure Recorder where
  content : Array UInt8
  /-- A write beyond this size fails. -/
  limit : Option Nat
  /-- The sizes at the flushes, the last one first. -/
  flushes : List Nat

namespace Recorder

/-- Whether bytes go beyond the limit; a write of none never does. -/
def refuses (r : Recorder) (bytes : Bytes) : Bool :=
  !bytes.isEmpty && r.limit.any (· < r.content.size + bytes.length)

instance : Target Recorder where
  size := do
    let r ← get
    pure r.content.size
  readAt offset count := do
    let r ← get
    MonadExcept.ofExcept (Memory.read r.content offset count)
  write bytes := do
    let r ← get
    if r.refuses bytes then throw .failed
    else set { r with content := r.content ++ bytes }
  truncate size := modify fun r => { r with content := r.content.shrink size }
  flush := modify fun r => { r with flushes := r.content.size :: r.flushes }

end Recorder

end Templating

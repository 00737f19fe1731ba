import Templating.Target.Memory

/-!
# Targets with a position

Both targets write at a position of their own, over what is there.

* `Cursor` is bytes in memory. Cutting it beyond its end moves only the position;
  the next write, even of no bytes, fills the gap with zeros.
* `File` is a file. Cutting it beyond its end fills it with zeros, and asking for
  its size and reading it back leave the position at the end.
-/

namespace Templating

/-- Bytes written over others at a position, with zeros before it if need be. -/
def overwrite (content : Array UInt8) (position : Nat) (bytes : Bytes) : Array UInt8 :=
  if position = content.size then content ++ bytes
  else
    content.extract 0 position ++ Array.replicate (position - content.size) 0 ++ bytes ++
      content.extract (position + bytes.length) content.size

structure Cursor where
  content : Array UInt8
  position : Nat

instance : Target Cursor where
  size := do
    let c ← get
    pure c.content.size
  readAt offset count := do
    let c ← get
    MonadExcept.ofExcept (Memory.read c.content offset count)
  write bytes := modify fun ⟨content, position⟩ =>
    ⟨overwrite content position bytes, position + bytes.length⟩
  truncate size := modify fun ⟨content, _⟩ => ⟨content.shrink size, size⟩
  flush := pure ()

structure File where
  content : Array UInt8
  position : Nat

namespace File

/-- Cut to a size, or filled up to it with zeros. -/
def resize (content : Array UInt8) (size : Nat) : Array UInt8 :=
  if size ≤ content.size then content.shrink size
  else content ++ Array.replicate (size - content.size) 0

instance : Target File where
  size := do
    let f ← get
    set { f with position := f.content.size }
    pure f.content.size
  readAt offset count := do
    let f ← get
    match if count = 0 then some [] else Memory.read? f.content offset count with
    | some bytes =>
      set { f with position := f.content.size }
      pure bytes
    | none =>
      set { f with position := max offset f.content.size }
      throw .endOfData
  write bytes := modify fun ⟨content, position⟩ =>
    if bytes.isEmpty then ⟨content, position⟩
    else ⟨overwrite content position bytes, position + bytes.length⟩
  truncate size := modify fun ⟨content, _⟩ => ⟨resize content size, size⟩
  flush := pure ()

end File

end Templating

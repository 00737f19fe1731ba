import Templating.Encoding

/-!
# Tries over bytes

A `Trie` holds values under byte sequences, and `Trie.longest?` finds the value
of the longest one that a text begins with. A look-up in a buffer (`lookUp`) does so at a
cursor, and moves the cursor past what it finds.
-/

namespace Templating

inductive Trie (α : Type) where
  | node (value : Option α) (children : List (UInt8 × Trie α))

namespace Trie

variable {α : Type}

def empty : Trie α := node none []

instance : Inhabited (Trie α) := ⟨empty⟩

def value : Trie α → Option α
  | node v _ => v

def children : Trie α → List (UInt8 × Trie α)
  | node _ cs => cs

def child? (t : Trie α) (b : UInt8) : Option (Trie α) := t.children.lookup b

/-- The value under exactly these bytes. -/
def get? (t : Trie α) : Bytes → Option α
  | [] => t.value
  | b :: bs => (t.child? b).bind fun c => c.get? bs

/-- Puts a child under a byte, in the place of the one that is there. -/
def putChild (b : UInt8) (c : Trie α) : List (UInt8 × Trie α) → List (UInt8 × Trie α)
  | [] => [(b, c)]
  | (k, d) :: rest => if k == b then (k, c) :: rest else (k, d) :: putChild b c rest

/-- Puts a value under a byte sequence, in the place of the one that is there. -/
def insert (v : α) : Bytes → Trie α → Trie α
  | [], t => node (some v) t.children
  | b :: bs, t => node t.value (putChild b (insert v bs ((t.child? b).getD empty)) t.children)

/-- **The longest match**: the value of the longest sequence that the bytes
begin with, and its length. -/
def longest? (t : Trie α) : Bytes → Option (α × Nat)
  | [] => t.value.map fun v => (v, 0)
  | b :: bs =>
    match (t.child? b).bind fun c => c.longest? bs with
    | some (v, n) => some (v, n + 1)
    | none => t.value.map fun v => (v, 0)

end Trie

/-! ## Look-ups at a cursor -/

/-- The bytes that a look-up sees of a buffer that is filled up to a length: those from the
cursor on. -/
def visible (buffer : Bytes) (length cursor : Nat) : Bytes :=
  (buffer.take (min length buffer.length)).drop cursor

/-- **A look-up at a cursor**: what it finds, and where the cursor stands afterwards. -/
def lookUp {α : Type} (match? : Bytes → Option (α × Nat)) (buffer : Bytes) (length cursor : Nat) :
    Option α × Nat :=
  match match? (visible buffer length cursor) with
  | some (found, count) => (some found, cursor + count)
  | none => (none, cursor)

end Templating

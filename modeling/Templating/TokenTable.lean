import Templating.Trie

/-!
# Token tables

A `TokenTable` numbers byte sequences and matches them forwards, by the longest
one that a text begins with, and backwards, by the longest one that it ends
with. Empty sequences never match and are left out.
-/

namespace Templating

structure TokenTable where
  trie : Trie Nat
  /-- The bytes of each number. -/
  entries : List (Nat × Bytes)
  /-- The least length of a token, zero without tokens. -/
  shortest : Nat
  longest : Nat

namespace TokenTable

def empty : TokenTable := ⟨.empty, [], 0, 0⟩

instance : Inhabited TokenTable := ⟨empty⟩

def without (index : Nat) (entries : List (Nat × Bytes)) : List (Nat × Bytes) :=
  entries.filter fun e => e.1 != index

/-- Numbers a byte sequence. A sequence that has a number already gets the new
one, and its old number is free again. -/
def add (t : TokenTable) (token : Bytes) (index : Nat) : TokenTable :=
  if token.isEmpty then t
  else
    let kept := match t.trie.get? token with
      | some previous => without previous t.entries
      | none => t.entries
    { trie := t.trie.insert index token
      entries := (index, token) :: without index kept
      shortest := if t.shortest = 0 then token.length else min t.shortest token.length
      longest := max t.longest token.length }

/-- Numbers tokens from `index` on. -/
def addAll (t : TokenTable) (index : Nat) : List Bytes → TokenTable
  | [] => t
  | token :: rest => (t.add token index).addAll (index + 1) rest

/-- The table in which every token has its position as number. -/
def ofList (tokens : List Bytes) : TokenTable := empty.addAll 0 tokens

/-- The number of the longest token that the bytes begin with, and its length. -/
def match? (t : TokenTable) (bytes : Bytes) : Option (Nat × Nat) := t.trie.longest? bytes

/-- The length of the longest token that bytes, read backwards, begin with. -/
def matchReversed? (t : TokenTable) (reversed : Bytes) : Option Nat :=
  (t.entries.filterMap fun e =>
    if e.2.reverse.isPrefixOf reversed then some e.2.length else none).max?

/-- The length of the longest token that the bytes end with. -/
def matchEnd? (t : TokenTable) (bytes : Bytes) : Option Nat := t.matchReversed? bytes.reverse

def token? (t : TokenTable) (index : Nat) : Option Bytes := t.entries.lookup index

def isEmpty (t : TokenTable) : Bool := t.entries.isEmpty

end TokenTable

end Templating

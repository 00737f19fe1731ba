import Templating.Trie

/-!
# Dispatch of tokens

The tokens of all operations of a run in one trie, each with its owner. Of two
operations with the same token the later one owns it.
-/

namespace Templating

/-- The owner of a token: an operation and which of its tokens it is. -/
structure Handler where
  operation : Nat
  token : Nat
  deriving DecidableEq

structure Dispatch where
  trie : Trie Handler
  /-- The least length of a token, zero without tokens. -/
  shortest : Nat
  longest : Nat

namespace Dispatch

def empty : Dispatch := ⟨.empty, 0, 0⟩

def insert (d : Dispatch) (handler : Handler) (token : Bytes) : Dispatch :=
  if token.isEmpty then d
  else
    { trie := d.trie.insert handler token
      shortest := if d.shortest = 0 then token.length else min d.shortest token.length
      longest := max d.longest token.length }

/-- Adds the tokens of an operation, numbered from `token` on. -/
def insertTokens (d : Dispatch) (operation token : Nat) : List Bytes → Dispatch
  | [] => d
  | bytes :: rest => (d.insert ⟨operation, token⟩ bytes).insertTokens operation (token + 1) rest

def insertSets (d : Dispatch) (operation : Nat) : List (List Bytes) → Dispatch
  | [] => d
  | tokens :: rest => (d.insertTokens operation 0 tokens).insertSets (operation + 1) rest

/-- The dispatch of the token sets of operations, in the order of the operations. -/
def ofSets (sets : List (List Bytes)) : Dispatch := empty.insertSets 0 sets

/-- The owner of the longest token that the bytes begin with, and its length. -/
def match? (d : Dispatch) (bytes : Bytes) : Option (Handler × Nat) := d.trie.longest? bytes

def isEmpty (d : Dispatch) : Bool := d.longest == 0

end Dispatch

end Templating

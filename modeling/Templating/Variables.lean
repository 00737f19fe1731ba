import Templating.Value

/-!
# Layered variables

A scope keeps values in the order in which their names were first set. Scopes
lie on top of one another, and a name means its value in the nearest scope that
has it.

* `Variables.get?` and `Variables.keys`: the visible values and their names.
* `Variables.set` changes the innermost scope only.
-/

namespace Templating

abbrev Scope := List (String × Value)

namespace Scope

def get? (s : Scope) (key : String) : Option Value := s.lookup key

/-- The scope with a value for `key`, in the place that `key` has already. -/
def set (key : String) (value : Value) : Scope → Scope
  | [] => [(key, value)]
  | (k, v) :: rest => if k = key then (k, value) :: rest else (k, v) :: set key value rest

def keys (s : Scope) : List String := s.map (·.1)

end Scope

/-- An innermost scope and the scopes around it, the nearest first. -/
structure Variables where
  inner : Scope
  outer : List Scope

namespace Variables

def empty : Variables := ⟨[], []⟩

instance : Inhabited Variables := ⟨empty⟩

def scopes (v : Variables) : List Scope := v.inner :: v.outer

/-- An empty scope inside the given ones. -/
def child (v : Variables) : Variables := ⟨[], v.scopes⟩

def set (v : Variables) (key : String) (value : Value) : Variables :=
  { v with inner := v.inner.set key value }

/-- Sets a value and gives the one that it replaces in the innermost scope. -/
def exchange (v : Variables) (key : String) (value : Value) : Option Value × Variables :=
  (v.inner.get? key, v.set key value)

def get? (v : Variables) (key : String) : Option Value := v.scopes.findSome? (·.get? key)

/-- The value of a name, null when it has none. -/
def value (v : Variables) (key : String) : Value := (v.get? key).getD .null

def localKeys (v : Variables) : List String := v.inner.keys

/-- The keys of a list that are not in `seen`, each where it first occurs. -/
def freshKeys (seen : List String) : List String → List String
  | [] => []
  | key :: rest =>
    if key ∈ seen then freshKeys seen rest else key :: freshKeys (key :: seen) rest

/-- **The visible names**, those of the nearest scope first. -/
def keys (v : Variables) : List String := freshKeys [] (v.scopes.flatMap Scope.keys)

def size (v : Variables) : Nat := v.keys.length

def isEmpty (v : Variables) : Bool := v.scopes.all List.isEmpty

def ofList (entries : List (String × Value)) : Variables :=
  entries.foldl (fun v (key, value) => v.set key value) empty

end Variables

end Templating

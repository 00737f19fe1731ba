/-!
# Trees of data

The form in which a configuration comes and goes: objects, lists, texts, numbers,
truth values and null. Integers are kept apart from other numbers.
-/

namespace Templating

inductive Json where
  | null
  | bool (b : Bool)
  | int (i : Int)
  | float (x : Float)
  | string (s : String)
  | array (items : List Json)
  | object (entries : List (String × Json))

namespace Json

instance : Inhabited Json := ⟨null⟩

/-- The value under a key, if it is an object with that key. -/
def get? (j : Json) (key : String) : Option Json :=
  match j with
  | object entries => entries.lookup key
  | _ => none

/-- The entries with a value under a key, in the place of the one there. -/
def put (key : String) (value : Json) : List (String × Json) → List (String × Json)
  | [] => [(key, value)]
  | (k, v) :: rest => if k = key then (k, value) :: rest else (k, v) :: put key value rest

end Json

end Templating

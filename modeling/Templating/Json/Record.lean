import Templating.Json
import Templating.Number.Numeral

/-!
# Records in trees of data

A record is an object, whose fields are found by name, or a list, whose items are
the fields in order. A record of one of several kinds begins with its kind.

* `Json.fields?`: the fields of a record by name.
* `required`, `optional`: one field, read as what it is.
-/

namespace Templating.Json

/-- **The fields of a record** whose names, in order, are known. A list may end
early and has no item beyond the last field. -/
def fields? (names : List String) : Json → Option (List (String × Json))
  | object entries => some entries
  | array items => if items.length ≤ names.length then some (names.zip items) else none
  | _ => none

/-- A field that has to be there. -/
def required {α : Type} (fields : List (String × Json)) (name : String)
    (read : Json → Option α) : Option α :=
  (fields.lookup name).bind read

/-- A field with a default. -/
def optional {α : Type} (fields : List (String × Json)) (name : String) (default : α)
    (read : Json → Option α) : Option α :=
  match fields.lookup name with
  | none => some default
  | some j => read j

/-- The kind of a record and the rest of it. -/
def tagged? : Json → Option (Json × Json)
  | object entries => (entries.lookup "type").map (·, object entries)
  | array (tag :: items) => some (tag, array items)
  | _ => none

/-- How a record may name its kind. -/
inductive TagStyle where
  /-- By its name only. -/
  | byName
  /-- By its name, or by its place among the kinds. -/
  | byNameOrPlace
  deriving DecidableEq

/-- One of several kinds. -/
def kind? (style : TagStyle) (kinds : List String) : Json → Option String
  | string name => if kinds.contains name then some name else none
  | int i => if style = .byNameOrPlace ∧ 0 ≤ i then kinds[i.toNat]? else none
  | _ => none

def text? : Json → Option String
  | string s => some s
  | _ => none

def flag? : Json → Option Bool
  | bool b => some b
  | _ => none

/-- A text of one character. -/
def character? (j : Json) : Option Char :=
  match (text? j).map String.toList with
  | some [c] => some c
  | _ => none

/-- A number of bytes, in 64 bits. -/
def size? : Json → Option Nat
  | int i => if 0 ≤ i ∧ i < unsignedBound then some i.toNat else none
  | _ => none

def list? {α : Type} (read : Json → Option α) : Json → Option (List α)
  | array items => items.mapM read
  | _ => none

end Templating.Json

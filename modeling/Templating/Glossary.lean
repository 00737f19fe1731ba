import Templating.TokenTable
import Templating.Variables

/-!
# The glossary of a run

What depends on the encoding of a stream and on the visible variables, made
once for a run: line endings, blanks, and a slot for each visible variable with
its name as conditions and as content write it.
-/

namespace Templating

/-- The place of the name in a variable format. -/
def placeholder : List Char := ['\x7b', '0', '\x7d']

/-- A format with every placeholder, from left to right, replaced by a name. -/
def fillPlaceholder (name : List Char) : List Char → List Char
  | '\x7b' :: '0' :: '\x7d' :: rest => name ++ fillPlaceholder name rest
  | c :: rest => c :: fillPlaceholder name rest
  | [] => []

def hasPlaceholder : List Char → Bool
  | [] => false
  | c :: rest => placeholder.isPrefixOf (c :: rest) || hasPlaceholder rest

/-- A visible variable. -/
structure Slot where
  name : String
  /-- The name, as a condition refers to it. -/
  key : Bytes
  /-- The name inside the variable format, as content refers to it. -/
  formatted : Bytes
  value : Value

structure Glossary where
  encoding : Encoding
  lineEndings : TokenTable
  blanks : TokenTable
  slots : List Slot

namespace Glossary

def slot (e : Encoding) (v : Variables) (format name : String) : Slot where
  name := name
  key := e.encode name
  formatted := e.encode (String.ofList (fillPlaceholder name.toList format.toList))
  value := v.value name

def make (e : Encoding) (v : Variables) (format : String) : Glossary where
  encoding := e
  lineEndings := .ofList (["\r\n", "\n", "\r"].map e.encode)
  blanks := .ofList ([" ", "\t"].map e.encode)
  slots := v.keys.map (slot e v format)

/-- The value of the variable in a slot, null beyond the last one. -/
def resolve (g : Glossary) (index : Nat) : Value :=
  match g.slots[index]? with
  | some s => s.value
  | none => .null

end Glossary

end Templating

import Templating.Pattern.CharSet
import Templating.Text.AgeTable
import Templating.Text.PropertyTable
import Templating.Text.ScriptTable
import Templating.Text.SegmentTable

/-!
# Properties of characters by their names

A property is named alone (`Lowercase`), by its value alone where that is a general
category or a script (`Letter`, `Greek`), or by both (`sc=Greek`). Of a name only letters
and digits count, and their case does not (`Property.key`).

* `Property.find?`: the characters with a property.
-/

namespace Templating.Property

/-- What counts in a name: blanks, hyphens, underscores and the word `is` before it do not,
but the abbreviation `isc` is kept apart from the category `c`. -/
def key (name : List Char) : String :=
  let isPrefixed := (name.take 2).map Char.toLower == ['i', 's']
  let kept := (if isPrefixed then name.drop 2 else name).filter fun c =>
    c.toNat < 128 && c != ' ' && c != '_' && c != '-'
  let folded := String.ofList (kept.map Char.toLower)
  if isPrefixed && folded == "c" then "isc" else folded

def read (codes : String) : CharSet := .ofCodes (CodePoints.read codes)

def category (name : String) : CharSet := .ofCodes (Category.codes name)

/-- The characters of some general categories. -/
def categories (names : List String) : CharSet := .unionAll (names.map category)

def unassigned : CharSet := (categories ["l", "m", "n", "p", "s", "z", "cc", "cf", "co"]).complement

/-- Long names of general categories with the short ones. -/
def categoryNames : List (String × String) := [
  ("casedletter", "lc"), ("closepunctuation", "pe"), ("cntrl", "cc"), ("combiningmark", "m"),
  ("connectorpunctuation", "pc"), ("control", "cc"), ("currencysymbol", "sc"),
  ("dashpunctuation", "pd"), ("decimalnumber", "nd"), ("digit", "nd"), ("enclosingmark", "me"),
  ("finalpunctuation", "pf"), ("format", "cf"), ("initialpunctuation", "pi"), ("letter", "l"),
  ("letternumber", "nl"), ("lineseparator", "zl"), ("lowercaseletter", "ll"), ("mark", "m"),
  ("mathsymbol", "sm"), ("modifierletter", "lm"), ("modifiersymbol", "sk"),
  ("nonspacingmark", "mn"), ("number", "n"), ("openpunctuation", "ps"), ("other", "c"),
  ("otherletter", "lo"), ("othernumber", "no"), ("otherpunctuation", "po"),
  ("othersymbol", "so"), ("paragraphseparator", "zp"), ("privateuse", "co"), ("punct", "p"),
  ("punctuation", "p"), ("separator", "z"), ("spaceseparator", "zs"), ("spacingmark", "mc"),
  ("symbol", "s"), ("titlecaseletter", "lt"), ("unassigned", "cn"), ("uppercaseletter", "lu")]

/-- The characters of a general category, or of one of three wider classes. -/
def category? (key : String) : Option CharSet :=
  match (categoryNames.lookup key).getD key with
  | "" => none
  | "any" => some .all
  | "assigned" => some unassigned.complement
  | "ascii" => some ⟨[(0, 127)]⟩
  | "c" => some ((categories ["cc", "cf", "co"]).union unassigned)
  | "cn" => some unassigned
  | "lc" => some (categories ["lu", "ll", "lt"])
  | short =>
    let s := category short
    if s.isEmpty then none else some s

/-- The characters of a script, with those that are shared by scripts if `extended`. -/
def script? (extended : Bool) (key : String) : Option CharSet :=
  (ScriptTable.scripts.find? fun s => s.names.contains key).map fun s =>
    let own := read s.codes
    if extended then (own.union (read s.shared)).diff (read s.foreign) else own

def lowercase : CharSet := (category "ll").union (read LetterTable.otherLowercase)

def uppercase : CharSet := (category "lu").union (read LetterTable.otherUppercase)

/-- The characters of a listed property. -/
def listed (name : String) : CharSet := ((PropertyTable.listed.lookup name).map read).getD .empty

/-- Marks that a character takes with it. -/
def graphemeExtend : CharSet := (categories ["mn", "me"]).union (listed "othergraphemeextend")

def notInNames : CharSet := (listed "patternsyntax").union (listed "patternwhitespace")

/-- What an identifier may begin with. -/
def idStart : CharSet :=
  ((categories ["l", "nl"]).union (listed "otheridstart")).diff notInNames

def idContinue : CharSet :=
  (CharSet.unionAll [idStart, categories ["mn", "mc", "nd", "pc"], listed "otheridcontinue"]).diff
    notInNames

/-- The characters with a property that has two values. -/
def binary? (key : String) : Option CharSet :=
  match (PropertyTable.aliases.lookup key).getD key with
  | "alphabetic" => some (.ofCodes Category.alphabeticCodes)
  | "lowercase" => some lowercase
  | "uppercase" => some uppercase
  | "cased" => some (.unionAll [lowercase, uppercase, category "lt"])
  | "caseignorable" => some <|
    (categories ["mn", "me", "cf", "lm", "sk"]).union (read PropertyTable.wordPunctuation)
  | "changeswhencasemapped" => some <| .unionAll <|
    ["changeswhenlowercased", "changeswhenuppercased", "changeswhentitlecased"].map listed
  | "graphemeextend" => some graphemeExtend
  | "graphemebase" => some <| CharSet.complement <| .unionAll
    [categories ["cc", "cf", "co", "zl", "zp"], unassigned, graphemeExtend]
  | "idstart" => some idStart
  | "idcontinue" => some idContinue
  | "xidstart" => some (idStart.diff (read PropertyTable.unstableStarts))
  | "xidcontinue" => some (idContinue.diff (read PropertyTable.unstableParts))
  | "math" => some ((category "sm").union (listed "othermath"))
  | "whitespace" => some .blanks
  | "otheralphabetic" => some (read LetterTable.otherAlphabetic)
  | "otherlowercase" => some (read LetterTable.otherLowercase)
  | "otheruppercase" => some (read LetterTable.otherUppercase)
  | name => (PropertyTable.listed.lookup name).map read

/-- The characters that there are since a version or longer. -/
def age? (version : String) : Option CharSet :=
  let isVersion (added : String × String) : Bool :=
    added.1 == version || "v" ++ String.ofList (added.1.toList.filter (· != '.')) == version
  (AgeTable.added.findIdx? isVersion).map fun last =>
    .unionAll ((AgeTable.added.take (last + 1)).map fun added => read added.2)

/-- The syllables of two letters; between any two of them are those of three letters. -/
def openSyllables : CharSet :=
  .ofRanges ((List.range 399).map fun k => (0xAC00 + 28 * k, 0xAC00 + 28 * k))

def syllables : CharSet := ⟨[(0xAC00, 0xD7A3)]⟩

def graphemeBreak? (key : String) : Option CharSet :=
  match (SegmentTable.graphemeAliases.lookup key).getD key with
  | "extend" => some (graphemeExtend.union (listed "emojimodifier"))
  | "lv" => some openSyllables
  | "lvt" => some (syllables.diff openSyllables)
  | name => (SegmentTable.graphemes.lookup name).map read

def wordBreak? (key : String) : Option CharSet :=
  match (SegmentTable.wordAliases.lookup key).getD key with
  | "extend" => some (.unionAll [graphemeExtend, category "mc", listed "emojimodifier"])
  | name => (SegmentTable.words.lookup name).map read

def sentenceBreak? (key : String) : Option CharSet :=
  match (SegmentTable.sentenceAliases.lookup key).getD key with
  | "extend" => some (.unionAll [graphemeExtend, category "mc", .ofChar '\u200D'])
  | name => (SegmentTable.sentences.lookup name).map read

/-- The characters that have a value of a property. -/
def byValue? (property value : String) : Option CharSet :=
  match property with
  | "gc" | "generalcategory" => category? value
  | "sc" | "script" => script? false value
  | "scx" | "scriptextensions" => script? true value
  | "age" => age? value
  | "gcb" | "graphemeclusterbreak" => graphemeBreak? value
  | "wb" | "wordbreak" => wordBreak? value
  | "sb" | "sentencebreak" => sentenceBreak? value
  | _ => none

/-- The characters that a single name means: it is looked up as a property of two values,
as a general category and as a script. -/
def byName? (name : String) : Option CharSet :=
  match binary? name with
  | some s => some s
  | none =>
    match category? name with
    | some s => some s
    | none => script? false name

/-- A name before the first place of a text, and the value after it. -/
def splitAt? (mark : List Char) (before : List Char) : List Char → Option (List Char × List Char)
  | [] => none
  | c :: cs =>
    if mark.isPrefixOf (c :: cs) then some (before.reverse, (c :: cs).drop mark.length)
    else splitAt? mark (c :: before) cs

/-- **The characters with a property**, or with a value of it that follows `!=`, `:` or
`=`; all three mean the same here. -/
def find? (name : List Char) : Option CharSet :=
  let parts := [['!', '='], [':'], ['=']].findSome? fun mark => splitAt? mark [] name
  match parts with
  | some (property, value) => byValue? (key property) (key value)
  | none => byName? (key name)

end Templating.Property

import Templating.Text.CategoryTable
import Templating.Text.CodePoints
import Templating.Text.LetterTable

/-!
# Classes of characters

The general categories by their one and two letter names, and the classes of
characters built from them: digits, letters in the widest sense and the characters
of words.
-/

namespace Templating.Category

/-- The general categories that list their code points. -/
def listed : List (String × List CodeRange) := [
  ("lu", CodePoints.read CategoryTable.upperLetters),
  ("ll", CodePoints.read CategoryTable.lowerLetters),
  ("lt", CodePoints.read CategoryTable.titleLetters),
  ("lm", CodePoints.read CategoryTable.modifierLetters),
  ("lo", CodePoints.read CategoryTable.otherLetters),
  ("mn", CodePoints.read CategoryTable.nonspacingMarks),
  ("mc", CodePoints.read CategoryTable.spacingMarks),
  ("me", CodePoints.read CategoryTable.enclosingMarks),
  ("nd", CodePoints.read CategoryTable.decimalDigits),
  ("nl", CodePoints.read CategoryTable.letterNumbers),
  ("no", CodePoints.read CategoryTable.otherNumbers),
  ("pc", CodePoints.read CategoryTable.connectors),
  ("pd", CodePoints.read CategoryTable.dashes),
  ("ps", CodePoints.read CategoryTable.openings),
  ("pe", CodePoints.read CategoryTable.closings),
  ("pi", CodePoints.read CategoryTable.initialQuotes),
  ("pf", CodePoints.read CategoryTable.finalQuotes),
  ("po", CodePoints.read CategoryTable.otherPunctuation),
  ("sm", CodePoints.read CategoryTable.mathSymbols),
  ("sc", CodePoints.read CategoryTable.currencySymbols),
  ("sk", CodePoints.read CategoryTable.modifierSymbols),
  ("so", CodePoints.read CategoryTable.otherSymbols),
  ("zs", CodePoints.read CategoryTable.spaces),
  ("zl", CodePoints.read CategoryTable.lineSeparators),
  ("zp", CodePoints.read CategoryTable.paragraphSeparators),
  ("cc", CodePoints.read CategoryTable.controls),
  ("cf", CodePoints.read CategoryTable.formats),
  ("co", CodePoints.read CategoryTable.privateUse)]

/-- The code points of the categories of a name; one letter names all that begin with it. -/
def codes (name : String) : List CodeRange :=
  (listed.filter fun (key, _) => name.toList.isPrefixOf key.toList).flatMap (·.2)

def digitCodes : List CodeRange := codes "nd"

/-- Letters in the widest sense: letter numbers, vowel signs and circled letters too. -/
def alphabeticCodes : List CodeRange :=
  codes "l" ++ codes "nl" ++ CodePoints.read LetterTable.otherAlphabetic

/-- Letters, marks, decimal digits and connectors, and the two characters that join
letters. -/
def wordCodes : List CodeRange :=
  alphabeticCodes ++ codes "m" ++ codes "nd" ++ codes "pc" ++ CodePoints.read "200C-200D"

/-- What a name may begin with: the letters up to version 17. -/
def nameLetterCodes : List CodeRange :=
  alphabeticCodes ++ CodePoints.read LetterTable.laterLetters

/-- The numbers up to version 17. -/
def nameNumberCodes : List CodeRange := codes "n" ++ CodePoints.read LetterTable.laterNumbers

end Templating.Category

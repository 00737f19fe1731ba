import Templating.Date.Calendar
import Templating.Number.Numeral

/-!
# Date formats

A date format is a text with specifiers such as `%Y`, each of which may say how
its number is padded. `DateFormat.read?` reads one, and `DateFormat.render?` writes
an instant by it.
-/

namespace Templating

inductive Padding where
  | zeros | blanks | none

/-- The numbers of a date. -/
inductive DateField where
  | year | century | yearOfCentury
  | isoYear | isoYearOfCentury
  | quarter | month | day | ordinal
  | weekFromSunday | weekFromMonday | isoWeek
  | weekdayFromSunday | weekdayFromMonday
  | hour | hour12 | minute | second | nanosecond | timestamp

inductive DateItem where
  | text (cs : List Char)
  | number (field : DateField) (padding : Padding)
  | monthName (short : Bool)
  | weekdayName (short : Bool)
  | halfDay (upper : Bool)
  /-- So many digits of the second after its point, or as few groups of three as
  hold them all. -/
  | fraction (point : Bool) (digits : Option Nat)
  | zoneName
  /-- The offset to universal time, with so many colons. -/
  | offset (colons : Nat)
  /-- An offset in a form that can be read but not written. -/
  | anyOffset
  /-- Date, time and offset in one, as the internet writes them. -/
  | internet

namespace DateFormat

def zeros (field : DateField) : DateItem := .number field .zeros
def blanks (field : DateField) : DateItem := .number field .blanks
def slash : DateItem := .text ['/']
def colon : DateItem := .text [':']
def hyphen : DateItem := .text ['-']
def blank : DateItem := .text [' ']

def clock : List DateItem := [zeros .hour, colon, zeros .minute, colon, zeros .second]

def shortDate : List DateItem :=
  [zeros .month, slash, zeros .day, slash, zeros .yearOfCentury]

/-- The items of a specifier of one letter. -/
def simple? : Char → Option (List DateItem)
  | 'A' => some [.weekdayName false]
  | 'B' => some [.monthName false]
  | 'C' => some [zeros .century]
  | 'D' => some shortDate
  | 'F' => some [zeros .year, hyphen, zeros .month, hyphen, zeros .day]
  | 'G' => some [zeros .isoYear]
  | 'H' => some [zeros .hour]
  | 'I' => some [zeros .hour12]
  | 'M' => some [zeros .minute]
  | 'P' => some [.halfDay false]
  | 'R' => some [zeros .hour, colon, zeros .minute]
  | 'S' => some [zeros .second]
  | 'T' | 'X' => some clock
  | 'U' => some [zeros .weekFromSunday]
  | 'V' => some [zeros .isoWeek]
  | 'W' => some [zeros .weekFromMonday]
  | 'Y' => some [zeros .year]
  | 'Z' => some [.zoneName]
  | 'a' => some [.weekdayName true]
  | 'b' | 'h' => some [.monthName true]
  | 'c' =>
    some ([.weekdayName true, blank, .monthName true, blank, blanks .day, blank] ++ clock ++
      [blank, zeros .year])
  | 'd' => some [zeros .day]
  | 'e' => some [blanks .day]
  | 'f' => some [zeros .nanosecond]
  | 'g' => some [zeros .isoYearOfCentury]
  | 'j' => some [zeros .ordinal]
  | 'k' => some [blanks .hour]
  | 'l' => some [blanks .hour12]
  | 'm' => some [zeros .month]
  | 'n' => some [.text ['\n']]
  | 'p' => some [.halfDay true]
  | 'q' => some [.number .quarter .none]
  | 'r' =>
    some [zeros .hour12, colon, zeros .minute, colon, zeros .second, blank, .halfDay true]
  | 's' => some [.number .timestamp .none]
  | 't' => some [.text ['\t']]
  | 'u' => some [zeros .weekdayFromMonday]
  | 'v' => some [blanks .day, hyphen, .monthName true, hyphen, zeros .year]
  | 'w' => some [zeros .weekdayFromSunday]
  | 'x' => some shortDate
  | 'y' => some [zeros .yearOfCentury]
  | 'z' => some [.offset 0]
  | '+' => some [.internet]
  | '%' => some [.text ['%']]
  | _ => none

def digits? : Char → Option Nat
  | '3' => some 3
  | '6' => some 6
  | '9' => some 9
  | _ => none

/-- The items of a specifier, after its percent sign and padding, and what follows. -/
def specifier? : List Char → Option (List DateItem × List Char)
  | ':' :: ':' :: ':' :: 'z' :: cs => some ([.offset 3], cs)
  | ':' :: ':' :: 'z' :: cs => some ([.offset 2], cs)
  | ':' :: 'z' :: cs => some ([.offset 1], cs)
  | '.' :: 'f' :: cs => some ([.fraction true none], cs)
  | '.' :: d :: 'f' :: cs => (digits? d).map fun n => ([.fraction true (some n)], cs)
  | c :: cs =>
    match digits? c, cs with
    | some n, 'f' :: rest => some ([.fraction false (some n)], rest)
    | _, _ => (simple? c).map (·, cs)
  | [] => none

/-- One number with another padding. Nothing else can be padded. -/
def pad? (padding : Padding) : List DateItem → Option (List DateItem)
  | [.number field _] => some [.number field padding]
  | _ => none

/-- The items of a specifier, after its percent sign, and what follows. -/
def item? : List Char → Option (List DateItem × List Char)
  | '-' :: cs => padded? .none cs
  | '0' :: cs => padded? .zeros cs
  | '_' :: cs => padded? .blanks cs
  | '#' :: cs => match cs with
    | 'z' :: rest => some ([.anyOffset], rest)
    | _ => none
  | cs => specifier? cs
where
  padded? (padding : Padding) (cs : List Char) : Option (List DateItem × List Char) :=
    (specifier? cs).bind fun (items, rest) => (pad? padding items).map (·, rest)

/-- The items of a format, of which at most `fuel` are read. -/
def readItems? : Nat → List Char → Option (List DateItem)
  | _, [] => some []
  | 0, _ => none
  | fuel + 1, '%' :: cs =>
    (item? cs).bind fun (items, rest) => (readItems? fuel rest).map (items ++ ·)
  | fuel + 1, c :: cs => (readItems? fuel cs).map (.text [c] :: ·)

/-- **The items of a format**, if all its specifiers exist. -/
def read? (format : String) : Option (List DateItem) :=
  readItems? format.toList.length format.toList

def months : List String := ["January", "February", "March", "April", "May", "June", "July",
  "August", "September", "October", "November", "December"]

def weekdays : List String := ["Monday", "Tuesday", "Wednesday", "Thursday", "Friday",
  "Saturday", "Sunday"]

def name (names : List String) (index : Nat) (short : Bool) : List Char :=
  let full := (names[index]?.getD "").toList
  if short then full.take 3 else full

/-- A number in a field of a width. -/
def padded (width : Nat) (padding : Padding) (n : Int) : List Char :=
  let digits := Numeral.digits n.natAbs
  let sign := if n < 0 then ['-'] else []
  let missing := width - (sign.length + digits.length)
  match padding with
  | .none => sign ++ digits
  | .zeros => sign ++ List.replicate missing '0' ++ digits
  | .blanks => List.replicate missing ' ' ++ sign ++ digits

/-- The width and the value of a number of a date. -/
def field (c : Civil) : DateField → Nat × Int
  | .year => (4, c.year)
  | .century => (2, c.year / 100)
  | .yearOfCentury => (2, c.year % 100)
  | .isoYear => (4, c.isoWeek.1)
  | .isoYearOfCentury => (2, c.isoWeek.1 % 100)
  | .quarter => (1, (c.month - 1) / 3 + 1)
  | .month => (2, c.month)
  | .day => (2, c.day)
  | .ordinal => (3, c.ordinal)
  | .weekFromSunday => (2, c.week 6)
  | .weekFromMonday => (2, c.week 0)
  | .isoWeek => (2, c.isoWeek.2)
  | .weekdayFromSunday => (1, (c.weekday + 1) % 7)
  | .weekdayFromMonday => (1, c.weekday + 1)
  | .hour => (2, c.hour)
  | .hour12 => (2, c.hour12)
  | .minute => (2, c.minute)
  | .second => (2, c.second)
  | .nanosecond => (9, c.nanosecond)
  | .timestamp => (9, c.instant.seconds)

def fraction (c : Civil) (digits : Nat) : List Char :=
  padded digits .zeros (c.nanosecond / Nat.pow 10 (9 - digits))

/-- The fraction of a second in as few groups of three digits as hold it. -/
def shortFraction (c : Civil) : List Char :=
  if c.nanosecond = 0 then []
  else if c.nanosecond % 1000000 = 0 then '.' :: fraction c 3
  else if c.nanosecond % 1000 = 0 then '.' :: fraction c 6
  else '.' :: fraction c 9

/-- No offset at all, with so many colons; three of them leave the hours only. -/
def noOffset : Nat → List Char
  | 0 => "+0000".toList
  | 1 => "+00:00".toList
  | 2 => "+00:00:00".toList
  | _ => "+00".toList

/-- An item of a date at no offset. The zone of `utc` has a name of its own. -/
def renderItem? (utc : Bool) (c : Civil) : DateItem → Option (List Char)
  | .text cs => some cs
  | .number f padding =>
    let (width, n) := field c f
    some (padded width padding n)
  | .monthName short => some (name months (c.month - 1) short)
  | .weekdayName short => some (name weekdays c.weekday short)
  | .halfDay upper =>
    some (match upper, decide (c.hour < 12) with
      | true, true => ['A', 'M']
      | true, false => ['P', 'M']
      | false, true => ['a', 'm']
      | false, false => ['p', 'm'])
  | .fraction _ none => some (shortFraction c)
  | .fraction point (some digits) =>
    some ((if point then ['.'] else []) ++ fraction c digits)
  | .zoneName => some (if utc then "UTC".toList else noOffset 1)
  | .offset colons => some (noOffset colons)
  | .anyOffset => none
  | .internet =>
    let date := [zeros .year, hyphen, zeros .month, hyphen, zeros .day, .text ['T']] ++ clock
    some (date.flatMap (fun
      | .number f padding => padded (field c f).1 padding (field c f).2
      | .text cs => cs
      | _ => []) ++ shortFraction c ++ noOffset 1)

/-- **An instant written by a format**, if all its items can be written. -/
def render? (utc : Bool) (i : Instant) (items : List DateItem) : Option String :=
  (items.mapM (renderItem? utc (Civil.ofInstant i))).map fun parts => String.ofList parts.flatten

end DateFormat

end Templating

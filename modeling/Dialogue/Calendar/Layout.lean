/-
**Layouts of dates.**

A layout is a text in which a percent sign and what follows it stand for a part of a moment.

* `Layout.parse?`: the directives of a layout; it fails if some percent sign starts none;
* `Directive.write`: what a directive shows of a moment;
* `Calendar.format`: a moment in a layout, which is the one of `%c` where none is given.

A number is written with its usual padding, or with the one that a sign between the percent sign and
the letter asks for: `-` none, `0` zeros, `_` blanks. Only a single number can be padded.
-/

import Dialogue.Calendar.Moment
import Dialogue.Numeral
import Dialogue.Text.Blank

namespace Dialogue.Calendar

open Numeral (padded decimalDigits)

/-- What stands in front of a number that is shorter than its place. -/
inductive Padding where
  | none
  | zero
  | blank
deriving DecidableEq, Repr

/-- The numbers of a moment. -/
inductive NumberField where
  | year
  | century
  | yearOfCentury
  | isoYear
  | isoYearOfCentury
  | quarter
  | month
  | day
  | weekFromSunday
  | weekFromMonday
  | isoWeek
  | daysFromSunday
  | weekdayFromMonday
  | dayOfYear
  | hour
  | hour12
  | minute
  | second
  | nanosecond
  | timestamp
deriving DecidableEq, Repr

/-- The names in a moment. -/
inductive NameField where
  | shortWeekday
  | weekday
  | shortMonth
  | month
  /-- The half of the day in small letters. -/
  | smallHalf
  /-- The half of the day in capitals. -/
  | capitalHalf
deriving DecidableEq, Repr

/-- The ways to write an offset from universal time. -/
inductive OffsetStyle where
  | minutes
  | minutesColon
  | secondsColon
  | hours
deriving DecidableEq, Repr

/-- A part of a layout. -/
inductive Directive where
  | literal (c : Char)
  | number (field : NumberField) (padding : Padding)
  | name (field : NameField)
  /-- A point and as many digits of the second's fraction as it has, in groups of three. -/
  | fraction
  /-- A number of digits of the second's fraction, with or without a point. -/
  | fractionDigits (point : Bool) (count : Nat)
  | offset (style : OffsetStyle)
  /-- Date, time and offset in the form for data exchange. -/
  | exchange
deriving DecidableEq, Repr

/-! ### Reading a layout -/

/-- A number padded with zeros. -/
def zeros (field : NumberField) : Directive := .number field .zero

/-- The parts of a time of day with a colon between them. -/
def clockDirectives : List Directive :=
  [zeros .hour, .literal ':', zeros .minute, .literal ':', zeros .second]

/-- The parts of a date with a stroke between them. -/
def dateDirectives : List Directive :=
  [zeros .month, .literal '/', zeros .day, .literal '/', zeros .yearOfCentury]

/-- The single number that a letter stands for. -/
def numberOfLetter? : Char → Option Directive
  | 'C' => some (zeros .century)
  | 'G' => some (zeros .isoYear)
  | 'H' => some (zeros .hour)
  | 'I' => some (zeros .hour12)
  | 'M' => some (zeros .minute)
  | 'S' => some (zeros .second)
  | 'U' => some (zeros .weekFromSunday)
  | 'V' => some (zeros .isoWeek)
  | 'W' => some (zeros .weekFromMonday)
  | 'Y' => some (zeros .year)
  | 'd' => some (zeros .day)
  | 'e' => some (.number .day .blank)
  | 'f' => some (zeros .nanosecond)
  | 'g' => some (zeros .isoYearOfCentury)
  | 'j' => some (zeros .dayOfYear)
  | 'k' => some (.number .hour .blank)
  | 'l' => some (.number .hour12 .blank)
  | 'm' => some (zeros .month)
  | 'q' => some (.number .quarter .none)
  | 's' => some (.number .timestamp .none)
  | 'u' => some (.number .weekdayFromMonday .none)
  | 'w' => some (.number .daysFromSunday .none)
  | 'y' => some (zeros .yearOfCentury)
  | _ => none

/-- What a letter stands for that is no single number. -/
def compoundOfLetter? : Char → Option (List Directive)
  | 'A' => some [.name .weekday]
  | 'B' => some [.name .month]
  | 'D' => some dateDirectives
  | 'F' => some [zeros .year, .literal '-', zeros .month, .literal '-', zeros .day]
  | 'P' => some [.name .smallHalf]
  | 'R' => some [zeros .hour, .literal ':', zeros .minute]
  | 'T' => some clockDirectives
  | 'X' => some clockDirectives
  | 'Z' => some [.offset .minutesColon]
  | 'a' => some [.name .shortWeekday]
  | 'b' => some [.name .shortMonth]
  | 'c' => some ([.name .shortWeekday, .literal ' ', .name .shortMonth, .literal ' ',
      .number .day .blank, .literal ' '] ++ clockDirectives ++ [.literal ' ', zeros .year])
  | 'h' => some [.name .shortMonth]
  | 'n' => some [.literal '\n']
  | 'p' => some [.name .capitalHalf]
  | 'r' => some ([zeros .hour12, .literal ':', zeros .minute, .literal ':', zeros .second,
      .literal ' ', .name .capitalHalf])
  | 't' => some [.literal '\t']
  | 'v' => some [.number .day .blank, .literal '-', .name .shortMonth, .literal '-', zeros .year]
  | 'x' => some dateDirectives
  | 'z' => some [.offset .minutes]
  | '+' => some [.exchange]
  | '%' => some [.literal '%']
  | _ => none

/-- What a letter after a percent sign stands for. -/
def ofLetter? (letter : Char) : Option (List Directive) :=
  match numberOfLetter? letter with
  | some directive => some [directive]
  | none => compoundOfLetter? letter

/-- The padding that a sign asks for. -/
def paddingOfSign? : Char → Option Padding
  | '-' => some .none
  | '0' => some .zero
  | '_' => some .blank
  | _ => none

/-- A number with another padding. -/
def Directive.withPadding (padding : Padding) : Directive → Directive
  | .number field _ => .number field padding
  | directive => directive

/-- What a percent sign followed by three characters stands for, where all of them matter. -/
def ofThree? : Char → Char → Char → Option Directive
  | '.', '3', 'f' => some (.fractionDigits true 3)
  | '.', '6', 'f' => some (.fractionDigits true 6)
  | '.', '9', 'f' => some (.fractionDigits true 9)
  | ':', ':', 'z' => some (.offset .secondsColon)
  | _, _, _ => none

/-- What a percent sign followed by two characters stands for, where both matter. -/
def ofTwo? (first second : Char) : Option Directive :=
  match paddingOfSign? first with
  | some padding => (numberOfLetter? second).map (Directive.withPadding padding)
  | none =>
    match first, second with
    | '.', 'f' => some .fraction
    | '3', 'f' => some (.fractionDigits false 3)
    | '6', 'f' => some (.fractionDigits false 6)
    | '9', 'f' => some (.fractionDigits false 9)
    | ':', 'z' => some (.offset .minutesColon)
    | _, _ => none

/-- The directives at the start of a text after a percent sign, and the number of characters they
take. -/
def readDirectives? : List Char → Option (List Directive × Nat)
  | ':' :: ':' :: ':' :: 'z' :: _ => some ([.offset .hours], 4)
  | first :: rest =>
    match ofLetter? first, rest with
    | some directives, _ => some (directives, 1)
    | none, second :: rest =>
      match ofTwo? first second, rest with
      | some directive, _ => some ([directive], 2)
      | none, third :: _ => (ofThree? first second third).map fun directive => ([directive], 3)
      | none, [] => none
    | none, [] => none
  | [] => none

/-- The directives of a layout whose first characters, as many as given, are already read. -/
def parseAfter? : Nat → List Char → Option (List Directive)
  | _, [] => some []
  | skipped + 1, _ :: rest => parseAfter? skipped rest
  | 0, '%' :: rest => do
    let (directives, taken) ← readDirectives? rest
    (parseAfter? taken rest).map (directives ++ ·)
  | 0, c :: rest => (parseAfter? 0 rest).map (.literal c :: ·)

def parse? (layout : String) : Option (List Directive) := parseAfter? 0 layout.toList

/-! ### Writing a moment -/

/-- The days of the week, from Sunday. -/
def weekdayNames : List String :=
  ["Sunday", "Monday", "Tuesday", "Wednesday", "Thursday", "Friday", "Saturday"]

/-- The months, from January. -/
def monthNames : List String :=
  ["January", "February", "March", "April", "May", "June", "July", "August", "September",
    "October", "November", "December"]

/-- The first three letters of a name. -/
def abbreviate (name : String) : List Char := name.toList.take 3

/-- A number in a place, with its sign in front of zeros and behind blanks. -/
def writeNumber (width : Nat) (signed : Bool) (padding : Padding) (value : Int) : List Char :=
  let sign := if value < 0 then ['-'] else if signed then ['+'] else []
  let digits := decimalDigits value.natAbs
  match padding with
  | .none => sign ++ digits
  | .zero => sign ++ padded '0' (width - sign.length) digits
  | .blank => padded ' ' width (sign ++ digits)

/-- A number below 256 as one digit after another that may exceed nine, and then follows it in the
order of characters. -/
def writePair (padding : Padding) (value : Nat) : List Char :=
  let tens := value / 10
  let ones := [Char.ofNat ('0'.toNat + value % 10)]
  if tens = 0 then
    match padding with
    | .none => ones
    | .zero => '0' :: ones
    | .blank => ' ' :: ones
  else Char.ofNat ('0'.toNat + tens) :: ones

/-- A year, which has a sign unless it has at most four digits. -/
def writeYear (padding : Padding) (year : Int) : List Char :=
  let signed := decide (year < 0) || decide (9999 < year)
  writeNumber (if signed then 5 else 4) signed padding year

/-- A number of a moment. -/
def NumberField.write (moment : Moment) (padding : Padding) : NumberField → List Char
  | .year => writeYear padding moment.date.year
  | .century => writePair padding ((moment.date.year / 100) % 256).toNat
  | .yearOfCentury => writePair padding (moment.date.year % 100).toNat
  | .isoYear => writeYear padding moment.isoWeek.1
  | .isoYearOfCentury => writePair padding (moment.isoWeek.1 % 100).toNat
  | .quarter => decimalDigits ((moment.date.month - 1) / 3 + 1)
  | .month => writePair padding moment.date.month
  | .day => writePair padding moment.date.day
  | .weekFromSunday => writePair padding (moment.weekFrom moment.daysFromSunday)
  | .weekFromMonday => writePair padding (moment.weekFrom moment.daysFromMonday)
  | .isoWeek => writePair padding moment.isoWeek.2
  | .daysFromSunday => decimalDigits moment.daysFromSunday
  | .weekdayFromMonday => decimalDigits (moment.daysFromMonday + 1)
  | .dayOfYear => writeNumber 3 false padding moment.date.dayOfYear
  | .hour => writePair padding moment.hour
  | .hour12 => writePair padding moment.hour12
  | .minute => writePair padding moment.minute
  | .second => writePair padding moment.second
  | .nanosecond => writeNumber 9 false padding moment.nanosecond
  | .timestamp => writeNumber 9 false padding moment.instant.seconds

/-- A name in a moment. -/
def NameField.write (moment : Moment) : NameField → List Char
  | .shortWeekday => abbreviate (weekdayNames.getD moment.daysFromSunday "")
  | .weekday => (weekdayNames.getD moment.daysFromSunday "").toList
  | .shortMonth => abbreviate (monthNames.getD (moment.date.month - 1) "")
  | .month => (monthNames.getD (moment.date.month - 1) "").toList
  | .smallHalf => if moment.isAfternoon then ['p', 'm'] else ['a', 'm']
  | .capitalHalf => if moment.isAfternoon then ['P', 'M'] else ['A', 'M']

/-- The first digits of the nanoseconds. -/
def secondDigits (moment : Moment) (count : Nat) : List Char :=
  (padded '0' 9 (decimalDigits moment.nanosecond)).take count

/-- A point and the fraction of the second in as few groups of three digits as show it all. -/
def writeFraction (moment : Moment) : List Char :=
  if moment.nanosecond = 0 then []
  else if moment.nanosecond % 1000000 = 0 then '.' :: secondDigits moment 3
  else if moment.nanosecond % 1000 = 0 then '.' :: secondDigits moment 6
  else '.' :: secondDigits moment 9

/-- The offset of a moment from universal time. -/
def writeOffset (moment : Moment) (style : OffsetStyle) : List Char :=
  let sign := if moment.offset < 0 then '-' else '+'
  let distance := moment.offset.natAbs
  let hours := writePair .zero (distance / 3600)
  let minutes := writePair .zero (distance / 60 % 60)
  let seconds := writePair .zero (distance % 60)
  match style with
  | .minutes => sign :: (hours ++ minutes)
  | .minutesColon => sign :: (hours ++ ':' :: minutes)
  | .secondsColon => sign :: (hours ++ ':' :: minutes ++ ':' :: seconds)
  | .hours => sign :: hours

/-- The date and time of a moment in the form for data exchange. -/
def writeExchange (moment : Moment) : List Char :=
  writeYear .zero moment.date.year ++ '-' :: writePair .zero moment.date.month ++
    '-' :: writePair .zero moment.date.day ++ 'T' :: writePair .zero moment.hour ++
    ':' :: writePair .zero moment.minute ++ ':' :: writePair .zero moment.second ++
    writeFraction moment ++ writeOffset moment .minutesColon

/-- What a directive shows of a moment. -/
def Directive.write (moment : Moment) : Directive → List Char
  | .literal c => [c]
  | .number field padding => field.write moment padding
  | .name field => field.write moment
  | .fraction => writeFraction moment
  | .fractionDigits point count => (if point then ['.'] else []) ++ secondDigits moment count
  | .offset style => writeOffset moment style
  | .exchange => writeExchange moment

/-! ### Dates for a conversation -/

/-- Why a date has no text. -/
inductive Fault where
  | layout (layout : String)
  | timezone (timezone : String)
deriving DecidableEq, Repr

/-- The layout that is used where none is given. -/
def usualLayout : String := "%c"

/-- The offset of a time zone given as whole hours behind universal time, less than a day. -/
def offsetOf? (timezone : String) : Option Int :=
  match Numeral.readInt32? timezone with
  | some hours => if -24 < hours ∧ hours < 24 then some (hours * -3600) else none
  | none => none

/-- An instant in a time zone and a layout. A blank time zone is universal time, and a blank layout
is the usual one; of two faults the layout's comes first. -/
def format (instant : Instant) (timezone : Option String) (layout : String) :
    Except Fault String :=
  let layout := if (Text.trim layout).isEmpty then usualLayout else layout
  let zone := Text.trim (timezone.getD "")
  match parse? layout with
  | none => .error (.layout layout)
  | some directives =>
    match if zone.isEmpty then some 0 else offsetOf? zone with
    | none => .error (.timezone zone)
    | some offset => .ok (String.ofList (directives.flatMap (Directive.write ⟨instant, offset⟩)))

end Dialogue.Calendar

import LayoutTracking.Time.Moment

/-!
# Time formats

A format is a text in which a percent sign begins a directive. Directives stand for something about
a moment, all else for itself. They are listed here with what they stand for. Main statement: none
is hidden by a shorter one, each is read as what it stands for.
-/

set_option autoImplicit false

namespace LayoutTracking.TimeFormat

inductive Padding where
  | none
  | zeros
  | blanks
deriving DecidableEq, Repr, Inhabited

inductive Field where
  | year
  | century
  | yearOfCentury
  | isoYear
  | isoYearOfCentury
  | quarter
  | month
  | day
  | ordinal
  | sundayWeek
  | mondayWeek
  | isoWeek
  | sinceSunday
  /-- The day of the week, from one for Monday. -/
  | weekdayNumber
  | hour
  | hourOfHalf
  | minute
  | second
  | nanosecond
  | timestamp
deriving DecidableEq, Repr, Inhabited

inductive Precision where
  | hours
  | minutes
  | seconds
deriving DecidableEq, Repr, Inhabited

inductive Item where
  | char (c : Char)
  | number (field : Field) (padding : Padding)
  | weekdayName
  | shortWeekdayName
  | monthName
  | shortMonthName
  /-- The half of the day, in small or in capital letters. -/
  | half (capital : Bool)
  /-- The first of the nine digits of the fraction of a second. -/
  | decimals (digits : Nat)
  /-- A point and as few groups of three digits as tell the fraction of a second, or nothing. -/
  | fraction
  | offset (precision : Precision) (colons : Bool)
  /-- The offset as the name of a time zone. -/
  | zone
deriving DecidableEq, Repr, Inhabited

/-! ## Numbers -/

def Field.value (moment : Moment) : Field → Int
  | .year => moment.date.year
  | .century => moment.date.year / 100
  | .yearOfCentury => moment.date.year % 100
  | .isoYear => moment.date.isoWeek.1
  | .isoYearOfCentury => moment.date.isoWeek.1 % 100
  | .quarter => moment.date.quarter
  | .month => moment.date.month.number
  | .day => moment.date.day
  | .ordinal => moment.date.ordinal
  | .sundayWeek => moment.date.sundayWeek
  | .mondayWeek => moment.date.mondayWeek
  | .isoWeek => moment.date.isoWeek.2
  | .sinceSunday => moment.date.weekday.sinceSunday
  | .weekdayNumber => moment.date.weekday.sinceMonday + 1
  | .hour => moment.hour
  | .hourOfHalf => moment.hourOfHalf
  | .minute => moment.minute
  | .second => moment.second
  | .nanosecond => moment.nanosecond
  | .timestamp => moment.timestamp

def Field.width : Field → Nat
  | .year | .isoYear => 4
  | .quarter | .sinceSunday | .weekdayNumber => 1
  | .ordinal => 3
  | .nanosecond | .timestamp => 9
  | _ => 2

/-- Whether the field is a year, of which there may be one with more than four digits. -/
def Field.isYear : Field → Bool
  | .year | .isoYear => true
  | _ => false

/-- The number brought to the width. Zeros are written behind the sign, blanks before it. -/
def pad (padding : Padding) (width : Nat) (plus : Bool) (value : Int) : List Char :=
  let sign := if value < 0 then ['-'] else if plus then ['+'] else []
  let digits := Nat.toDigits 10 value.natAbs
  let missing := width - (sign.length + digits.length)
  match padding with
  | .none => sign ++ digits
  | .zeros => sign ++ List.replicate missing '0' ++ digits
  | .blanks => List.replicate missing ' ' ++ sign ++ digits

def zeroPadded (width value : Nat) : List Char := pad .zeros width false value

/-- The text of a field. A year that does not have four digits at most has a sign, which makes it
wider. -/
def Field.text (moment : Moment) (padding : Padding) (field : Field) : List Char :=
  let value := field.value moment
  if field.isYear && (value < 0 || 9999 < value) then pad padding (field.width + 1) true value
  else pad padding field.width false value

/-! ## Parts of a second, offsets -/

def firstDecimals (nanosecond digits : Nat) : List Char := (zeroPadded 9 nanosecond).take digits

/-- The fraction of a second in as few groups of three digits as tell it. -/
def shortFraction (nanosecond : Nat) : List Char :=
  if nanosecond = 0 then []
  else if nanosecond % 1000000 = 0 then '.' :: firstDecimals nanosecond 3
  else if nanosecond % 1000 = 0 then '.' :: firstDecimals nanosecond 6
  else '.' :: firstDecimals nanosecond 9

/-- The units that an offset of so many seconds is written with. Minutes are rounded, hours are
not. -/
def Precision.units (seconds : Nat) : Precision → List Nat
  | .hours => [seconds / 3600]
  | .minutes => [(seconds + 30) / 60 / 60, (seconds + 30) / 60 % 60]
  | .seconds => [seconds / 3600, seconds / 60 % 60, seconds % 60]

def offsetText (offset : Int) (precision : Precision) (colons : Bool) : List Char :=
  (if offset < 0 then '-' else '+') ::
    (if colons then [':'] else []).intercalate
      ((precision.units offset.natAbs).map (zeroPadded 2))

/-! ## Items -/

def Item.text (moment : Moment) : Item → List Char
  | .char c => [c]
  | .number field padding => field.text moment padding
  | .weekdayName => moment.date.weekday.name.toList
  | .shortWeekdayName => moment.date.weekday.name.toList.take 3
  | .monthName => moment.date.month.name.toList
  | .shortMonthName => moment.date.month.name.toList.take 3
  | .half true => if moment.isAfternoon then ['P', 'M'] else ['A', 'M']
  | .half false => if moment.isAfternoon then ['p', 'm'] else ['a', 'm']
  | .decimals digits => firstDecimals moment.nanosecond digits
  | .fraction => shortFraction moment.nanosecond
  | .offset precision colons => offsetText moment.offset precision colons
  | .zone =>
    offsetText moment.offset (if moment.offset % 60 = 0 then .minutes else .seconds) true

def Item.texts (moment : Moment) (items : List Item) : List Char :=
  items.flatMap (Item.text moment)

/-! ## Directives -/

/-- The letters that stand for a field, with its padding where none is chosen. -/
def fields : List (Char × Field × Padding) :=
  [('Y', .year, .zeros), ('C', .century, .zeros), ('y', .yearOfCentury, .zeros),
   ('G', .isoYear, .zeros), ('g', .isoYearOfCentury, .zeros), ('q', .quarter, .none),
   ('m', .month, .zeros), ('d', .day, .zeros), ('e', .day, .blanks), ('j', .ordinal, .zeros),
   ('U', .sundayWeek, .zeros), ('W', .mondayWeek, .zeros), ('V', .isoWeek, .zeros),
   ('w', .sinceSunday, .none), ('u', .weekdayNumber, .none), ('H', .hour, .zeros),
   ('k', .hour, .blanks), ('I', .hourOfHalf, .zeros), ('l', .hourOfHalf, .blanks),
   ('M', .minute, .zeros), ('S', .second, .zeros), ('f', .nanosecond, .zeros),
   ('s', .timestamp, .none)]

/-- The field behind a letter, and with each padding that can be chosen before the letter. -/
def fieldDirectives : Char × Field × Padding → List (List Char × List Item)
  | (letter, field, padding) =>
    [([letter], [.number field padding]), (['-', letter], [.number field .none]),
     (['0', letter], [.number field .zeros]), (['_', letter], [.number field .blanks])]

def two (field : Field) : Item := .number field .zeros

def timeOfDay : List Item := [two .hour, .char ':', two .minute, .char ':', two .second]

/-- The year, the month and the day, from the largest to the smallest. -/
def calendarDate : List Item :=
  [.number .year .zeros, .char '-', two .month, .char '-', two .day]

def shortDate : List Item := [two .month, .char '/', two .day, .char '/', two .yearOfCentury]

/-- The directives that are no field alone, by what follows the percent sign. -/
def otherDirectives : List (List Char × List Item) :=
  [(['%'], [.char '%']), (['n'], [.char '\n']), (['t'], [.char '\t']),
   (['A'], [.weekdayName]), (['a'], [.shortWeekdayName]), (['B'], [.monthName]),
   (['b'], [.shortMonthName]), (['h'], [.shortMonthName]), (['p'], [.half true]),
   (['P'], [.half false]), (['D'], shortDate), (['x'], shortDate), (['F'], calendarDate),
   (['v'], [.number .day .blanks, .char '-', .shortMonthName, .char '-', .number .year .zeros]),
   (['R'], [two .hour, .char ':', two .minute]), (['T'], timeOfDay), (['X'], timeOfDay),
   (['r'], [two .hourOfHalf, .char ':', two .minute, .char ':', two .second, .char ' ',
     .half true]),
   (['c'], [.shortWeekdayName, .char ' ', .shortMonthName, .char ' ', .number .day .blanks,
     .char ' '] ++ timeOfDay ++ [.char ' ', .number .year .zeros]),
   (['+'], calendarDate ++ [.char 'T'] ++ timeOfDay ++ [.fraction, .offset .minutes true]),
   (['3', 'f'], [.decimals 3]), (['6', 'f'], [.decimals 6]), (['9', 'f'], [.decimals 9]),
   (['.', 'f'], [.fraction]), (['.', '3', 'f'], [.char '.', .decimals 3]),
   (['.', '6', 'f'], [.char '.', .decimals 6]), (['.', '9', 'f'], [.char '.', .decimals 9]),
   (['Z'], [.zone]), (['z'], [.offset .minutes false]), ([':', 'z'], [.offset .minutes true]),
   ([':', ':', 'z'], [.offset .seconds true]),
   ([':', ':', ':', 'z'], [.offset .hours false])]

/-- All directives, by what follows the percent sign, with what they stand for. -/
def directives : List (List Char × List Item) :=
  fields.flatMap fieldDirectives ++ otherDirectives

/-! ## Reading -/

/-- Reads the rest of a format, in a directive of which some characters have been read or outside
of any. -/
def readFrom : Option (List Char) → List Char → Option (List Item)
  | none, [] => some []
  | some _, [] => none
  | none, c :: rest =>
    if c = '%' then readFrom (some []) rest else (readFrom none rest).map (.char c :: ·)
  | some begun, c :: rest =>
    match directives.lookup (begun ++ [c]) with
    | some items => (readFrom none rest).map (items ++ ·)
    | none => readFrom (some (begun ++ [c])) rest

/-- What the format stands for. There is nothing for one with a percent sign that begins no
directive. -/
def read? (format : List Char) : Option (List Item) := readFrom none format

/-- Each directive alone is a format, for what the directive stands for. -/
theorem read?_directive :
    ∀ directive ∈ directives, read? ('%' :: directive.1) = some directive.2 := by
  decide +kernel

def write? (moment : Moment) (format : List Char) : Option (List Char) :=
  (read? format).map (Item.texts moment)

end LayoutTracking.TimeFormat

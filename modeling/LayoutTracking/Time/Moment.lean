/-!
# Moments

Dates of the calendar, and moments as a clock on the wall shows them. A date is found among all days
by its number, from which its day of the week follows, and a week belongs to the year that its
Thursday is in. Main statements: the months of a year fill it, and so do the days that are counted
between its beginning and that of the next one.
-/

set_option autoImplicit false

namespace LayoutTracking

inductive Weekday where
  | monday
  | tuesday
  | wednesday
  | thursday
  | friday
  | saturday
  | sunday
deriving DecidableEq, Repr, Inhabited

namespace Weekday

/-- The days in order, for a week that begins on Monday. -/
def all : List Weekday := [.monday, .tuesday, .wednesday, .thursday, .friday, .saturday, .sunday]

def sinceMonday : Weekday → Nat
  | .monday => 0
  | .tuesday => 1
  | .wednesday => 2
  | .thursday => 3
  | .friday => 4
  | .saturday => 5
  | .sunday => 6

def sinceSunday (weekday : Weekday) : Nat := (weekday.sinceMonday + 1) % 7

def name : Weekday → String
  | .monday => "Monday"
  | .tuesday => "Tuesday"
  | .wednesday => "Wednesday"
  | .thursday => "Thursday"
  | .friday => "Friday"
  | .saturday => "Saturday"
  | .sunday => "Sunday"

end Weekday

inductive Month where
  | january
  | february
  | march
  | april
  | may
  | june
  | july
  | august
  | september
  | october
  | november
  | december
deriving DecidableEq, Repr, Inhabited

namespace Month

def all : List Month :=
  [.january, .february, .march, .april, .may, .june, .july, .august, .september, .october,
    .november, .december]

def number : Month → Nat
  | .january => 1
  | .february => 2
  | .march => 3
  | .april => 4
  | .may => 5
  | .june => 6
  | .july => 7
  | .august => 8
  | .september => 9
  | .october => 10
  | .november => 11
  | .december => 12

def name : Month → String
  | .january => "January"
  | .february => "February"
  | .march => "March"
  | .april => "April"
  | .may => "May"
  | .june => "June"
  | .july => "July"
  | .august => "August"
  | .september => "September"
  | .october => "October"
  | .november => "November"
  | .december => "December"

def length (leap : Bool) : Month → Nat
  | .february => if leap then 29 else 28
  | .april | .june | .september | .november => 30
  | _ => 31

def totalLength (leap : Bool) : List Month → Nat
  | [] => 0
  | month :: rest => month.length leap + totalLength leap rest

def before (month : Month) : List Month := all.take (month.number - 1)

end Month

def isLeapYear (year : Int) : Bool := year % 4 == 0 && (year % 100 != 0 || year % 400 == 0)

def yearLength (year : Int) : Nat := if isLeapYear year then 366 else 365

/-- The days from the first one of the year zero to the first one of the year. -/
def daysBeforeYear (year : Int) : Int :=
  year * 365 + (year + 3) / 4 - (year + 99) / 100 + (year + 399) / 400

theorem isLeapYear_iff (year : Int) :
    isLeapYear year = true ↔ year % 4 = 0 ∧ (year % 100 ≠ 0 ∨ year % 400 = 0) := by
  simp [isLeapYear]

theorem daysBeforeYear_succ (year : Int) :
    daysBeforeYear (year + 1) = daysBeforeYear year + yearLength year := by
  have leap := isLeapYear_iff year
  unfold daysBeforeYear yearLength
  split
  · have := leap.mp ‹_›
    omega
  · have := mt leap.mpr ‹_›
    omega

theorem Month.totalLength_all (year : Int) :
    Month.totalLength (isLeapYear year) Month.all = yearLength year := by
  unfold yearLength
  cases isLeapYear year <;> rfl

structure Date where
  year : Int
  month : Month
  day : Nat
deriving DecidableEq, Repr, Inhabited

namespace Date

def ordinal (date : Date) : Nat :=
  Month.totalLength (isLeapYear date.year) date.month.before + date.day

def dayNumber (date : Date) : Int := daysBeforeYear date.year + date.ordinal - 1

def weekday (date : Date) : Weekday :=
  (Weekday.all[((date.dayNumber + 5) % 7).toNat]?).getD .monday

def quarter (date : Date) : Nat := (date.month.number + 2) / 3

/-- The week in the year for weeks that begin on Sundays. Days before the first one are in week
zero. -/
def sundayWeek (date : Date) : Nat := (date.ordinal + 6 - date.weekday.sinceSunday) / 7

/-- The week in the year for weeks that begin on Mondays. Days before the first one are in week
zero. -/
def mondayWeek (date : Date) : Nat := (date.ordinal + 6 - date.weekday.sinceMonday) / 7

/-- The week, from one, after the year it is counted in: that of its Thursday. -/
def isoWeek (date : Date) : Int × Nat :=
  let thursday := date.ordinal + 3
  let monday := date.weekday.sinceMonday
  let (year, ordinal) :=
    if thursday ≤ monday then
      (date.year - 1, thursday + yearLength (date.year - 1) - monday)
    else if yearLength date.year < thursday - monday then
      (date.year + 1, thursday - monday - yearLength date.year)
    else
      (date.year, thursday - monday)
  (year, (ordinal + 6) / 7)

end Date

structure Moment where
  date : Date
  hour : Nat
  minute : Nat
  second : Nat
  nanosecond : Nat
  /-- How many seconds the clock is ahead of universal time. -/
  offset : Int
deriving DecidableEq, Repr, Inhabited

namespace Moment

def isAfternoon (moment : Moment) : Bool := decide (12 ≤ moment.hour)

/-- The hour in its half of the day, which begins with hour twelve. -/
def hourOfHalf (moment : Moment) : Nat := if moment.hour % 12 = 0 then 12 else moment.hour % 12

/-- The seconds of universal time from the beginning of the year 1970. -/
def timestamp (moment : Moment) : Int :=
  (moment.date.dayNumber - daysBeforeYear 1970) * 86400 + moment.hour * 3600 +
    moment.minute * 60 + moment.second - moment.offset

end Moment

end LayoutTracking

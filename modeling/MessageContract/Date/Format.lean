/-!
Date formats with percent directives, as far as letter patterns need them, and
their text for an instant. `Item.parse` reads a format and is inverse to
writing one: a percent sign that starts no directive makes the format invalid.
-/

namespace MessageContract.Date

/-- An instant in UTC, broken into what directives can ask for. Days of the
week count from Sunday. -/
structure Instant where
  year : Nat
  month : Nat
  day : Nat
  dayOfYear : Nat
  dayOfWeek : Nat
  hour : Nat
  minute : Nat
  second : Nat
  nanosecond : Nat
deriving Repr, DecidableEq

/-- The instant that stands for any date or time: midnight of Saturday, the
first of January 2000. -/
def Instant.canonical : Instant where
  year := 2000
  month := 1
  day := 1
  dayOfYear := 1
  dayOfWeek := 6
  hour := 0
  minute := 0
  second := 0
  nanosecond := 0

inductive Directive where
  | shortYear | year
  | plainMonth | month | shortMonthName | monthName
  | plainDay | day | dayOfYear
  | plainHour | hour | plainHalfDayHour | halfDayHour
  | plainMinute | minute | plainSecond | second
  | millisecond | microsecond | nanosecond
  | halfDay | shortDayName | dayName
  | colonOffset | offset | zone
deriving Repr, DecidableEq

namespace Directive

def all : List Directive :=
  [.shortYear, .year, .plainMonth, .month, .shortMonthName, .monthName, .plainDay, .day,
    .dayOfYear, .plainHour, .hour, .plainHalfDayHour, .halfDayHour, .plainMinute, .minute,
    .plainSecond, .second, .millisecond, .microsecond, .nanosecond, .halfDay, .shortDayName,
    .dayName, .colonOffset, .offset, .zone]

/-- The directive's letters after the percent sign. -/
def letters : Directive → List Char
  | .shortYear => ['y']
  | .year => ['Y']
  | .plainMonth => ['-', 'm']
  | .month => ['m']
  | .shortMonthName => ['b']
  | .monthName => ['B']
  | .plainDay => ['-', 'd']
  | .day => ['d']
  | .dayOfYear => ['j']
  | .plainHour => ['-', 'H']
  | .hour => ['H']
  | .plainHalfDayHour => ['-', 'I']
  | .halfDayHour => ['I']
  | .plainMinute => ['-', 'M']
  | .minute => ['M']
  | .plainSecond => ['-', 'S']
  | .second => ['S']
  | .millisecond => ['3', 'f']
  | .microsecond => ['6', 'f']
  | .nanosecond => ['9', 'f']
  | .halfDay => ['p']
  | .shortDayName => ['a']
  | .dayName => ['A']
  | .colonOffset => [':', 'z']
  | .offset => ['z']
  | .zone => ['Z']

def ofLetters? (letters : List Char) : Option Directive :=
  all.find? fun d => d.letters == letters

def padded (width n : Nat) : List Char :=
  let digits := Nat.toDigits 10 n
  List.replicate (width - digits.length) '0' ++ digits

def monthNames : List String :=
  ["January", "February", "March", "April", "May", "June", "July", "August", "September",
    "October", "November", "December"]

def dayNames : List String :=
  ["Sunday", "Monday", "Tuesday", "Wednesday", "Thursday", "Friday", "Saturday"]

def nameAt (names : List String) (index : Nat) : List Char :=
  (names[index]?.getD "").toList

def halfDayHourOf (hour : Nat) : Nat :=
  if hour % 12 = 0 then 12 else hour % 12

/-- The directive's text for an instant. -/
def render (t : Instant) : Directive → List Char
  | .shortYear => padded 2 (t.year % 100)
  | .year => padded 4 t.year
  | .plainMonth => padded 1 t.month
  | .month => padded 2 t.month
  | .shortMonthName => (nameAt monthNames (t.month - 1)).take 3
  | .monthName => nameAt monthNames (t.month - 1)
  | .plainDay => padded 1 t.day
  | .day => padded 2 t.day
  | .dayOfYear => padded 3 t.dayOfYear
  | .plainHour => padded 1 t.hour
  | .hour => padded 2 t.hour
  | .plainHalfDayHour => padded 1 (halfDayHourOf t.hour)
  | .halfDayHour => padded 2 (halfDayHourOf t.hour)
  | .plainMinute => padded 1 t.minute
  | .minute => padded 2 t.minute
  | .plainSecond => padded 1 t.second
  | .second => padded 2 t.second
  | .millisecond => padded 3 (t.nanosecond / 1000000)
  | .microsecond => padded 6 (t.nanosecond / 1000)
  | .nanosecond => padded 9 t.nanosecond
  | .halfDay => if t.hour < 12 then ['A', 'M'] else ['P', 'M']
  | .shortDayName => (nameAt dayNames t.dayOfWeek).take 3
  | .dayName => nameAt dayNames t.dayOfWeek
  | .colonOffset => ['+', '0', '0', ':', '0', '0']
  | .offset => ['+', '0', '0', '0', '0']
  | .zone => ['U', 'T', 'C']

end Directive

inductive Item where
  | literal (c : Char)
  | directive (d : Directive)
deriving Repr, DecidableEq

namespace Item

/-- The item as it stands in a format. -/
def write : Item → List Char
  | .literal c => if c == '%' then ['%', '%'] else [c]
  | .directive d => '%' :: d.letters

/-- Characters that are followed by the letter of their directive. -/
def isModifier (c : Char) : Bool :=
  c == '-' || c == ':' || c == '3' || c == '6' || c == '9'

/-- The items of a format, if every percent sign starts a directive or stands
for itself. -/
def parse : List Char → Option (List Item)
  | [] => some []
  | '%' :: '%' :: rest => (parse rest).map (.literal '%' :: ·)
  | '%' :: c :: rest =>
      if isModifier c then
        match rest with
        | [] => none
        | d :: rest => do
            let directive ← Directive.ofLetters? [c, d]
            return .directive directive :: (← parse rest)
      else do
        let directive ← Directive.ofLetters? [c]
        return .directive directive :: (← parse rest)
  | c :: rest => if c == '%' then none else (parse rest).map (.literal c :: ·)

def render (t : Instant) : Item → List Char
  | .literal c => [c]
  | .directive d => d.render t

end Item

end MessageContract.Date

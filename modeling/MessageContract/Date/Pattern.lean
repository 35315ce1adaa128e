import MessageContract.Date.Format
import MessageContract.Node.Fault

/-!
Date patterns in which a run of one letter is a field, as in `yyyy-MM-dd`. Text
between quotes is literal, and two adjacent quotes are one quote, within quoted
text and outside it. A pattern becomes a format with percent directives and is
rendered through it.
-/

namespace MessageContract.Date

inductive Token where
  | literal (c : Char)
  | field (letter : Char) (count : Nat)
deriving Repr, DecidableEq

def isLetter (c : Char) : Bool :=
  ('a' ≤ c && c ≤ 'z') || ('A' ≤ c && c ≤ 'Z')

/-- The directive of a run of one letter. -/
def directive? (letter : Char) (count : Nat) : Option Directive :=
  match letter with
  | 'y' => some (if count = 2 then .shortYear else .year)
  | 'u' => some .year
  | 'M' =>
      some (if count = 1 then .plainMonth
        else if count = 2 then .month
        else if count = 3 then .shortMonthName
        else .monthName)
  | 'd' => some (if count = 1 then .plainDay else .day)
  | 'D' => some .dayOfYear
  | 'H' => some (if count = 1 then .plainHour else .hour)
  | 'h' => some (if count = 1 then .plainHalfDayHour else .halfDayHour)
  | 'm' => some (if count = 1 then .plainMinute else .minute)
  | 's' => some (if count = 1 then .plainSecond else .second)
  | 'S' =>
      some (if count ≤ 3 then .millisecond else if count ≤ 6 then .microsecond else .nanosecond)
  | 'a' => some .halfDay
  | 'E' => some (if count ≤ 3 then .shortDayName else .dayName)
  | 'X' => some (if 3 ≤ count then .colonOffset else .offset)
  | 'Z' => some .offset
  | 'z' => some .zone
  | _ => none

/-- Puts a letter before the tokens of the rest, into their first run if that
is of the same letter. -/
def Token.consLetter (letter : Char) : List Token → List Token
  | .field l count :: rest =>
      if l = letter then .field l (count + 1) :: rest
      else .field letter 1 :: .field l count :: rest
  | rest => .field letter 1 :: rest

def Token.item? : Token → Option Item
  | .literal c => some (.literal c)
  | .field letter count => (directive? letter count).map .directive

/-- A token as it stands in a format with percent directives. -/
def Token.formatChars (token : Token) : List Char :=
  match token.item? with
  | some item => item.write
  | none => []

namespace Pattern

/-- Reads a pattern from outside (`quoted` false) or inside of quotes. -/
def read (pattern : String) (quoted : Bool) : List Char → Except MatcherFault (List Token)
  | [] => if quoted then .error (.openQuote pattern) else .ok []
  | '\'' :: '\'' :: rest => do return .literal '\'' :: (← read pattern quoted rest)
  | c :: rest =>
      if c == '\'' then read pattern (!quoted) rest
      else if quoted || !isLetter c then do return .literal c :: (← read pattern quoted rest)
      else if (directive? c 1).isNone then .error (.unknownLetter c pattern)
      else do return Token.consLetter c (← read pattern quoted rest)

/-- The tokens of a pattern. -/
def tokens (pattern : String) : Except MatcherFault (List Token) :=
  read pattern false pattern.toList

/-- The format with percent directives that means the same. -/
def toFormat (pattern : String) : Except MatcherFault String := do
  return String.ofList ((← tokens pattern).flatMap Token.formatChars)

/-- The text of the canonical instant in a pattern. -/
def canonical (pattern : String) : Except MatcherFault String := do
  let format ← toFormat pattern
  match Item.parse format.toList with
  | none => throw (.badFormat pattern)
  | some items => return String.ofList (items.flatMap (Item.render .canonical))

end Pattern

end MessageContract.Date

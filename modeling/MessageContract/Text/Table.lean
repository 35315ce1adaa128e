/-!
Tables of code points written as text. A table of ranges holds words such as
`41`, `41-5A` and `100-12E/2`: a code point, a range, and every second code
point of a range, all in hexadecimal digits. A table of runs holds the code
points where a value changes, each followed by the letters of the new value.
-/

namespace MessageContract.Text

/-- The words of a text between spaces and line breaks. -/
def words (text : String) : List (List Char) :=
  let (word, done) := text.toList.foldl
    (fun (word, done) c =>
      if c == ' ' || c == '\n' then ([], word.reverse :: done) else (c :: word, done))
    (([], []) : List Char × List (List Char))
  (word.reverse :: done).reverse.filter fun word => !word.isEmpty

def hexValue (c : Char) : Nat :=
  if '0' ≤ c && c ≤ '9' then c.toNat - 0x30
  else if 'A' ≤ c && c ≤ 'F' then c.toNat - 0x41 + 10
  else c.toNat - 0x61 + 10

def ofHex (cs : List Char) : Nat :=
  cs.foldl (fun n c => n * 16 + hexValue c) 0

/-- What stands before a character and after it. -/
def cutAt (c : Char) (cs : List Char) : List Char × List Char :=
  let before := cs.takeWhile (· != c)
  (before, cs.drop (before.length + 1))

/-- The code points `first`, `first + step`, … up to `last`. -/
structure Progression where
  first : Nat
  last : Nat
  step : Nat
deriving Repr

def Progression.ofWord (word : List Char) : Progression :=
  let (bounds, step) := cutAt '/' word
  let (first, last) := cutAt '-' bounds
  { first := ofHex first
    last := if last.isEmpty then ofHex first else ofHex last
    step := if step.isEmpty then 1 else ofHex step }

/-- The fewest ranges that make up the progression. -/
def Progression.ranges (p : Progression) : List (Nat × Nat) :=
  if p.step ≤ 1 then [(p.first, p.last)]
  else
    (List.range ((p.last - p.first) / p.step + 1)).map fun i =>
      (p.first + i * p.step, p.first + i * p.step)

/-- The ranges of a table. -/
def rangesOf (text : String) : List (Nat × Nat) :=
  (words text).flatMap fun word => (Progression.ofWord word).ranges

def inRanges (ranges : List (Nat × Nat)) (n : Nat) : Bool :=
  ranges.any fun (low, high) => low ≤ n && n ≤ high

/-- The runs of a table, where a value takes so many letters. -/
def runsOf (letters : Nat) (text : String) : List (Nat × List Char) :=
  (words text).map fun word =>
    let digits := word.length - letters
    (ofHex (word.take digits), word.drop digits)

/-- The greatest code point. -/
def lastCodePoint : Nat := 0x10FFFF

/-- The ranges of the runs whose values satisfy `p`. -/
def rangesWhere {α : Type} (p : α → Bool) : List (Nat × α) → List (Nat × Nat)
  | [] => []
  | [(start, value)] => if p value then [(start, lastCodePoint)] else []
  | (start, value) :: (next, value') :: rest =>
      let later := rangesWhere p ((next, value') :: rest)
      if p value then (start, next - 1) :: later else later

/-- The value of the last run that starts at or before `n`, by bisection
between the indices `low` and `high`. -/
def runAt {α : Type} (runs : Array (Nat × α)) (n : Nat) : (fuel low high : Nat) → Option α
  | 0, low, _ => runs[low]?.map Prod.snd
  | fuel + 1, low, high =>
      if high ≤ low + 1 then runs[low]?.map Prod.snd
      else
        let middle := (low + high) / 2
        match runs[middle]? with
        | some (start, _) =>
            if start ≤ n then runAt runs n fuel middle high else runAt runs n fuel low middle
        | none => none

end MessageContract.Text

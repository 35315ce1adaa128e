import MessageContract.Json.Cursor

/-!
Reading values and typed data from JSON text. Arrays and objects may nest 127
deep; `room` is the number of levels that may still be opened.

Typed data is read straight from the text, so that what is wrong first in the
text is what is reported. A record is read from an object, or from an array of
its fields in their order. The members that a record does not know are passed
over by `skip`, which checks less than `tree` does and has no limit of depth.
-/

namespace MessageContract.Json.Scan

variable {α β σ : Type}

def openBracket : UInt8 := 0x5B

def closeBracket : UInt8 := 0x5D

def openBrace : UInt8 := 0x7B

def closeBrace : UInt8 := 0x7D

def comma : UInt8 := 0x2C

def quote : UInt8 := 0x22

def colon : Scan Unit := do
  match ← ahead? with
  | some 0x3A => discard
  | some _ => failAhead .expectedColon
  | none => failAhead .endOfObject

/-- Ends a list after its items have been read. -/
def closeList : Scan Unit := do
  match ← ahead? with
  | none => failAhead .endOfList
  | some byte =>
      if byte == closeBracket then discard
      else if byte == comma then
        discard
        match ← ahead? with
        | some 0x5D => failAhead .trailingComma
        | _ => failAhead .trailingCharacters
      else failAhead .trailingCharacters

/-- Ends an object after its members have been read. -/
def closeObject : Scan Unit := do
  match ← ahead? with
  | none => failAhead .endOfObject
  | some byte =>
      if byte == closeBrace then discard
      else if byte == comma then failAhead .trailingComma
      else failAhead .trailingCharacters

/-- Reads the inside of a bracket and then its end. The end is tried even if
the inside failed, which moves the place of an error that has none yet. -/
def closing (inside : Scan α) (close : Scan Unit) : Scan α := fun cursor =>
  match inside cursor with
  | (.error e, after) => (.error e, (close after).2)
  | (.ok a, after) =>
      match close after with
      | (.error e, last) => (.error e, last)
      | (.ok _, last) => (.ok a, last)

/-- Another item follows; `first` says that none has been read. -/
def hasItem (first : Bool) : Scan Bool := do
  match ← ahead? with
  | none => failAhead .endOfList
  | some byte =>
      if byte == closeBracket then return false
      else if first then return true
      else if byte == comma then
        discard
        match ← ahead? with
        | none => failAhead .endOfValue
        | some next => if next == closeBracket then failAhead .trailingComma else return true
      else failAhead .expectedListEnd

/-- Another member follows, and its key's quote is next. -/
def hasMember (first : Bool) : Scan Bool := do
  match ← ahead? with
  | none => failAhead .endOfObject
  | some byte =>
      if byte == closeBrace then return false
      else if first then
        if byte == quote then return true else failAhead .keyNotString
      else if byte == comma then
        discard
        match ← ahead? with
        | none => failAhead .endOfValue
        | some next =>
            if next == quote then return true
            else if next == closeBrace then failAhead .trailingComma
            else failAhead .keyNotString
      else failAhead .expectedObjectEnd

def itemLoop (step : σ → Scan σ) : Fuel → Bool → σ → Scan σ
  | [], _, s => pure s
  | _ :: fuel, first, s => do
      if ← hasItem first then itemLoop step fuel false (← step s) else return s

def memberLoop (step : String → σ → Scan σ) : Fuel → Bool → σ → Scan σ
  | [], _, s => pure s
  | _ :: fuel, first, s => do
      if ← hasMember first then
        let key ← quoted
        memberLoop step fuel false (← step key s)
      else return s

/-- Reads the items of a list one after the other. -/
def items (item : Scan α) : Scan (List α) := do
  let read ← withFuel fun fuel => itemLoop (fun done => return (← item) :: done) fuel true []
  return read.reverse

/-- Reads the members of an object one after the other; `step` reads what
follows each key. -/
def members (start : σ) (step : String → σ → Scan σ) : Scan σ :=
  withFuel fun fuel => memberLoop step fuel true start

/-- Reads a member's value, after its key. -/
def memberValue (value : Scan α) : Scan α := do
  colon
  value

/-- Reads a value whose lists and objects are read by the two given scans. -/
def valueWith (list object : Scan Json) : Scan Json := do
  match ← ahead? with
  | none => failAhead .endOfValue
  | some byte =>
      if byte == 0x6E then discard; word nullRest; return .null
      else if byte == 0x74 then discard; word trueRest; return .bool true
      else if byte == 0x66 then discard; word falseRest; return .bool false
      else if byte == 0x2D || (digit? byte).isSome then return .number (← number)
      else if byte == quote then return .string (← quoted)
      else if byte == openBracket then list
      else if byte == openBrace then object
      else failAhead .expectedValue

/-- Reads any value as it is written, with repeated keys. -/
def tree : (room : Nat) → Scan Json
  | 0 => valueWith (failAhead .tooDeep) (failAhead .tooDeep)
  | room + 1 =>
      valueWith
        (do discard; return .array (← closing (items (tree room)) closeList))
        (do
          discard
          let read ← closing
            (members [] fun key done => return (key, ← memberValue (tree room)) :: done)
            closeObject
          return .object read.reverse)

/-- Reads any value. -/
def value (room : Nat) : Scan Json := do
  return (← tree room).normalize

inductive Bracket where
  | list
  | object

def Bracket.byte : Bracket → UInt8
  | .list => closeBracket
  | .object => closeBrace

def skipString : Fuel → Scan Unit
  | [] => fail .endOfString
  | _ :: fuel => do
      match ← peek with
      | none => fail .endOfString
      | some byte =>
          if byte == quote then discard
          else if byte == 0x5C then
            discard
            match ← next with
            | none => fail .endOfString
            | some letter =>
                if letter == 0x75 then
                  let _ ← hexEscape
                  skipString fuel
                else if (shortEscape? letter).isSome then skipString fuel
                else fail .invalidEscape
          else if byte < 0x20 then fail .controlCharacter
          else
            discard
            skipString fuel

def skipExponent : Scan Unit := do
  discard
  let sign ← peek
  if sign == some 0x2B || sign == some 0x2D then discard
  match (← next).bind digit? with
  | some _ => withFuel skipDigits
  | none => fail .invalidNumber

def skipFraction : Scan Unit := do
  discard
  if (← peekDigit?).isNone then failAhead .invalidNumber
  else
    withFuel skipDigits
    if isExponentMark (← peek) then skipExponent

def skipNumber : Scan Unit := do
  if (← peek) == some 0x2D then discard
  match (← next).bind digit? with
  | some 0 => if (← peekDigit?).isSome then failAhead .invalidNumber
  | some _ => withFuel skipDigits
  | none => fail .invalidNumber
  let byte ← peek
  if byte == some 0x2E then skipFraction
  else if isExponentMark byte then skipExponent

/-- Passes a key and its colon. -/
def skipKey : Scan Unit := do
  match ← ahead? with
  | none => failAhead .endOfObject
  | some byte =>
      if byte == quote then
        discard
        withFuel skipString
        colon
      else failAhead .keyNotString

/-- Passes a scalar, or only the bracket that opens a list or an object. -/
def skipStart : Scan (Option Bracket) := do
  match ← ahead? with
  | none => failAhead .endOfValue
  | some byte =>
      if byte == openBracket then
        discard
        return some .list
      else if byte == openBrace then
        discard
        return some .object
      else
        if byte == 0x6E then discard; word nullRest
        else if byte == 0x74 then discard; word trueRest
        else if byte == 0x66 then discard; word falseRest
        else if byte == 0x2D || (digit? byte).isSome then skipNumber
        else if byte == quote then discard; withFuel skipString
        else failAhead .expectedValue
        return none

/-- Passes the start of an item or of a member with its key. -/
def skipInside : Bracket → Scan (Option Bracket)
  | .list => skipStart
  | .object => do
      skipKey
      skipStart

/-- Passes all up to the end of the open brackets, innermost first. The first of
them holds something already if `filled` is true. -/
def skipOpen : Fuel → (filled : Bool) → List Bracket → Scan Unit
  | [], _, _ => pure ()
  | _, _, [] => pure ()
  | _ :: fuel, filled, bracket :: outer => do
      let inside : Scan Unit := do
        match ← skipInside bracket with
        | none => skipOpen fuel true (bracket :: outer)
        | some opened => skipOpen fuel false (opened :: bracket :: outer)
      match ← ahead? with
      | none =>
          failAhead (match bracket with | .list => .endOfList | .object => .endOfObject)
      | some byte =>
          if filled && byte == comma then discard; inside
          else if byte == bracket.byte then discard; skipOpen fuel true outer
          else if filled then
            failAhead (match bracket with
              | .list => .expectedListEnd
              | .object => .expectedObjectEnd)
          else inside

/-- Passes over any value. -/
def skip : Scan Unit := do
  match ← skipStart with
  | none => return ()
  | some bracket => withFuel fun fuel => skipOpen fuel false [bracket]

/-- Fails because the value that comes next is not what was expected. A scalar
is read first. -/
def wrongType (expected : String) : Scan α := located do
  let refuse (found : Found) : Scan α := raise (.wrongType found expected)
  match ← peek with
  | none => failAhead .expectedValue
  | some byte =>
      if byte == openBracket then refuse .sequence
      else if byte == openBrace then refuse .map
      else refuse (.of (← valueWith (pure .null) (pure .null)))

/-- Goes down one level of brackets. -/
def enter (room : Nat) (inside : Nat → Scan α) : Scan α :=
  match room with
  | 0 => failAhead .tooDeep
  | room + 1 => do
      discard
      inside room

/-- Reads an array or an object, each if there is a way to. -/
def bracketed (expected : String) (room : Nat) (list object : Option (Nat → Scan α)) :
    Scan α := located do
  match ← ahead? with
  | none => failAhead .endOfValue
  | some byte =>
      let way :=
        if byte == openBracket then list.map (·, closeList)
        else if byte == openBrace then object.map (·, closeObject)
        else none
      match way with
      | some (inside, close) => enter room fun room => closing (inside room) close
      | none => wrongType expected

/-- Reads a record, from an array of its fields or from an object. -/
def record (name : String) (room : Nat) (fromItems fromMembers : Nat → Scan α) : Scan α :=
  bracketed s!"struct {name}" room (some fromItems) (some fromMembers)

/-- Reads a record that keeps the members it does not know; it is no array. -/
def openRecord (name : String) (room : Nat) (fromMembers : Nat → Scan α) : Scan α :=
  bracketed s!"struct {name}" room none (some fromMembers)

/-- Reads an array. -/
def list (room : Nat) (item : Nat → Scan α) : Scan (List α) :=
  bracketed "a sequence" room (some fun room => items (item room)) none

/-- Reads an object as a map. -/
def fields (room : Nat) (value : Nat → Scan α) : Scan (Fields α) :=
  bracketed "a map" room none
    (some fun room =>
      members [] fun key done => return Fields.insert key (← memberValue (value room)) done)

/-- Reads a string. -/
def text : Scan String := located do
  match ← ahead? with
  | none => failAhead .endOfValue
  | some byte => if byte == quote then quoted else wrongType "a string"

/-- Reads `null` as nothing. -/
def optional (value : Scan α) : Scan (Option α) := do
  match ← ahead? with
  | some 0x6E =>
      discard
      word nullRest
      return none
  | _ => return some (← value)

/-- Reads an item of a record that is written as an array, if there is one. -/
def item? (first : Bool) (value : Scan α) : Scan (Option α) := do
  if ← hasItem first then return some (← value) else return none

/-- The item with the given index, without which the record is too short. -/
def item (index : Nat) (expected : String) (value : Scan α) : Scan α := do
  match ← item? (index == 0) value with
  | some a => return a
  | none => raise (.wrongLength index expected)

/-- Reads the value of a member that may come only once. -/
def once (name : String) (earlier : Option α) (value : Scan α) : Scan (Option α) := do
  if earlier.isSome then raise (.duplicateField name)
  else return some (← memberValue value)

/-- A field that the record must have. -/
def required (name : String) : Option α → Scan α
  | some a => pure a
  | none => raise (.missingField name)

/-- The depth to which arrays and objects of a text may nest. -/
def roomLimit : Nat := 127

/-- Reads a value after which nothing may come. -/
def whole (scan : Scan α) : Scan α := do
  let a ← scan
  match ← ahead? with
  | none => return a
  | some _ => failAhead .trailingCharacters

/-- Reads a whole text. -/
def run (scan : Nat → Scan α) (bytes : List UInt8) : Except Error α :=
  (whole (scan roomLimit) { rest := bytes }).1

end MessageContract.Json.Scan

namespace MessageContract.Json

/-- The value of a JSON text in UTF-8. -/
def ofBytes (bytes : List UInt8) : Except Error Json :=
  Scan.run Scan.value bytes

def ofText (text : String) : Except Error Json :=
  ofBytes (Utf8.encode text)

end MessageContract.Json

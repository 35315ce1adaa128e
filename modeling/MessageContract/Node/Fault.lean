import MessageContract.Json.Printer

/-!
What can be wrong with a matched node: in how it is written, in the example it
lacks, or in the pattern or format its rule holds.
-/

namespace MessageContract

inductive MatcherFault where
  /-- A reserved key that has to hold a string holds something else. -/
  | keyNotString (key : String) (found : Json)
  | attributeNotString (name : String) (found : Json)
  | attributeNotCount (name : String)
  | attributeNotNumber (name : String) (found : Json)
  | missingPattern
  | missingSample (kind : String)
  | tooManyItems (count limit : Nat)
  /-- A pattern that is none, and why, in the words of the engine if it has any. -/
  | badPattern (pattern : String) (reason : Option String)
  | openQuote (format : String)
  | unknownLetter (letter : Char) (format : String)
  | badFormat (format : String)
  /-- A reason given in words by the caller. -/
  | stated (reason : String)

def MatcherFault.message : MatcherFault → String
  | .keyNotString key found => s!"{key} must be a string, found {found.text}"
  | .attributeNotString name found => s!"`{name}` must be a string, found {found.text}"
  | .attributeNotCount name => s!"`{name}` must be a non-negative integer"
  | .attributeNotNumber name found =>
      s!"`{name}` must be a non-negative integer, found {found.text}"
  | .missingPattern => "regex matcher requires a `regex` pattern"
  | .missingSample kind => s!"`{kind}` matcher requires an example value"
  | .tooManyItems count limit => s!"array of {count} items exceeds the limit of {limit}"
  | .badPattern pattern none => s!"invalid regex `{pattern}`"
  | .badPattern pattern (some reason) => s!"invalid regex `{pattern}`: {reason}"
  | .openQuote format => s!"unterminated quote in date format `{format}`"
  | .unknownLetter letter format =>
      s!"unsupported pattern letter `{letter}` in date format `{format}`"
  | .badFormat format => s!"unsupported date format `{format}`"
  | .stated reason => reason

end MessageContract

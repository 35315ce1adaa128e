import MessageContract.Text.Blank

/-!
Media types, as far as the form of a payload depends on them. Parameters, case
and blanks around the type do not matter.
-/

namespace MessageContract.MediaType

def json : String := "application/json"

def binary : String := "application/octet-stream"

/-- The type without its parameters, in lower case. -/
def chars (contentType : String) : List Char :=
  (Text.trimChars (contentType.toList.takeWhile (· != ';'))).map Text.lowerChar

def endsWith (suffix text : List Char) : Bool :=
  suffix.isSuffixOf text

/-- JSON itself, and types built on it. -/
def isJson (contentType : String) : Bool :=
  let media := chars contentType
  media == json.toList || endsWith "+json".toList media

/-- Types whose payload is written as plain text. -/
def isText (contentType : String) : Bool :=
  let media := chars contentType
  "text/".toList.isPrefixOf media || media == "application/xml".toList ||
    endsWith "+xml".toList media

end MessageContract.MediaType

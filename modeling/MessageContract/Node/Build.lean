import MessageContract.Node.Basic

/-!
Content trees built in code. Each function makes a matched node from an example
and what its rule needs, so that trees nest as the content does.
-/

namespace MessageContract.Node

/-- A matched node with an example and nothing else. -/
def ofRule (rule : Rule) (sample : Node) : Node :=
  .matched rule (some sample) none []

/-- A value of the type of the example. -/
def like (sample : Node) : Node :=
  ofRule (.sameType none none) sample

/-- An array of at least `min` items that are each like the example. -/
def eachLike (sample : Node) (min : UInt64) : Node :=
  ofRule (.sameType (some min) none) (.array [sample])

/-- An array of `min` to `max` items that are each like the example. -/
def eachLikeBetween (sample : Node) (min max : UInt64) : Node :=
  ofRule (.sameType (some min) (some max)) (.array [sample])

/-- A string that the pattern matches. -/
def regex (sample pattern : String) : Node :=
  ofRule (.regex pattern) (.string sample)

def integer (sample : Int64) : Node :=
  ofRule .integer (.number (.integer sample.toInt))

/-- A number literal; a float that is not finite is null. -/
def ofFloat : Option Binary64 → Node
  | some x => .number (.float x)
  | none => .null

def decimal (sample : Option Binary64) : Node :=
  ofRule .decimal (ofFloat sample)

def anyNumber (sample : Node) : Node :=
  ofRule .number sample

def boolean (sample : Bool) : Node :=
  ofRule .boolean (.bool sample)

def nullValue : Node :=
  ofRule .null .null

/-- The example and nothing else. -/
def equality (sample : Node) : Node :=
  ofRule .equality sample

/-- A string that contains the given one. -/
def includes (part : String) : Node :=
  ofRule .includes (.string part)

def timestamp (format sample : String) : Node :=
  ofRule (.timestamp (some format) .timestamp) (.string sample)

def date (format sample : String) : Node :=
  ofRule (.date (some format)) (.string sample)

def time (format sample : String) : Node :=
  ofRule (.time (some format)) (.string sample)

def semver (sample : String) : Node :=
  ofRule .semver (.string sample)

end MessageContract.Node

import MessageContract.Regex.Reader
import MessageContract.Regex.Automaton
import MessageContract.Regex.Search
import MessageContract.Concrete

/-!
The pattern engine of content rules: a pattern is a regular expression that is
not too large, and it matches a text if it matches some part of it. It has no words
for what is wrong with other texts.
-/

namespace MessageContract

def Regex.engine : PatternEngine where
  compile pattern :=
    match Regex.ofPattern? pattern with
    | some r => if r.fits then .ok r.isMatch else .error none
    | none => .error none

end MessageContract

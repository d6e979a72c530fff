import Rollout.Pattern.Match
import Rollout.Pattern.Reading
import Rollout.Pattern.Size

/-!
# Patterns

`Pattern.ofText?` is the pattern that a text describes; `Pattern.Expr.matchesIn` tells whether it
matches somewhere in a text. What is not a pattern is refused, and so are patterns that are nested
too deep or take too much room.
-/

namespace Rollout.Pattern

/-- Patterns nested deeper are refused. -/
def maxDepth : Nat := 250

/-- Read a pattern. -/
def ofText? (s : String) : Option Expr :=
  (Written.ofText? s).bind fun written =>
    if maxDepth < written.depth then none
    else (written.meaning {}).bind fun (e, _) => if e.fits then some e else none

end Rollout.Pattern

/-!
# Contexts

What an expression inherits from the forms around it while it is turned into script text.
-/

namespace SexprShell.Script

structure Context where
  /-- Whether sequences stand in parentheses, as array literals do. -/
  delimited : Bool := true
  /-- Whether statements are followed by the location of the form they come from. -/
  comments : Bool := true
  deriving DecidableEq

namespace Context

/-- Without comments, as between the brackets of an expansion. -/
def quiet (ctx : Context) : Context := { ctx with comments := false }

/-- With sequences as bare lists of words. -/
def undelimited (ctx : Context) : Context := { ctx with delimited := false }

end Context

end SexprShell.Script

import PageScript.Cosmos.Wire
import PageScript.Text.Blank
import PageScript.Text.Cut
import PageScript.Text.Folding

/-!
# Connection strings

A connection string is a list of `Name=Value` pairs, each ended by a semicolon. Only the first equals
sign of a pair divides it, blanks around names and values do not count, and the last pair of a name
wins.
-/

namespace PageScript.Cosmos

/-- The address of an account and its key. -/
structure Connection where
  endpoint : String
  key : String
deriving DecidableEq, Repr

/-- The connection string of an address and a key. -/
def connectionString (endpoint key : String) : String :=
  Wire.endpointKey ++ "=" ++ endpoint ++ ";" ++ Wire.accountKey ++ "=" ++ key ++ ";"

/-- The folded names and the trimmed values of the pairs. -/
def pairsOf (text : String) : List (String × String) :=
  (Text.splitAtEach ';' text.toList).filterMap fun part =>
    match Text.cutFirst '=' part with
    | (name, some value) =>
      some (Text.fold (Text.trim (String.ofList name)), Text.trim (String.ofList value))
    | (_, none) => none

/-- The last value of a name. -/
def lastValue? (name : String) (pairs : List (String × String)) : Option String :=
  (pairs.reverse.find? (·.1 == Text.fold name)).map (·.2)

/-- Reads a connection string; both the address and the key must be there. -/
def Connection.ofText? (text : String) : Option Connection := do
  let pairs := pairsOf text
  let endpoint ← lastValue? Wire.endpointKey pairs
  let key ← lastValue? Wire.accountKey pairs
  if endpoint.isEmpty || key.isEmpty then none else some { endpoint, key }

end PageScript.Cosmos

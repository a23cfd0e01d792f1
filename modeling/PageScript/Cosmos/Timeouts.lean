import PageScript.Numeral.Literal

/-!
# Time limits

An exchange with the database has four parts with a limit each: connecting, reading, writing and
waiting for a free connection. One number sets all of them.
-/

namespace PageScript.Cosmos

/-- Limits in seconds. -/
structure Timeouts where
  connect : Numeral.Number
  read : Numeral.Number
  write : Numeral.Number
  pool : Numeral.Number

/-- The same limit for every part. -/
def Timeouts.all (limit : Numeral.Number) : Timeouts :=
  { connect := limit, read := limit, write := limit, pool := limit }

/-- The limits that a setting asks for; without one the usual limits stay. -/
def Timeouts.ofSetting? (limit : Option Numeral.Number) : Option Timeouts := limit.map .all

end PageScript.Cosmos

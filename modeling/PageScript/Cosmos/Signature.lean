import PageScript.Codec.Base64
import PageScript.Codec.Percent
import PageScript.Codec.Sha256
import PageScript.Cosmos.Wire
import PageScript.Text.Lowering

/-!
# Signed requests

A request is authorised by a token that carries the keyed hash of what is asked for and when. The key
of an account is given in base64.
-/

namespace PageScript.Cosmos

/-- The text that a request is signed by. -/
def signingText (verb resourceType resourceLink date : String) : String :=
  Text.lower verb ++ "\n" ++ Text.lower resourceType ++ "\n" ++ resourceLink ++ "\n" ++
    Text.lower date ++ "\n\n"

/-- The keyed hash of a text in base64. -/
def signature (key payload : String) : Except Codec.Base64.Fault String := do
  let secret ← Codec.Base64.decode key
  return Codec.Base64.encode (Codec.Sha256.hmac secret (Text.utf8 payload))

/-- The token that authorises a request. -/
def authToken (verb resourceType resourceLink date key : String) :
    Except Codec.Base64.Fault String := do
  let sig ← signature key (signingText verb resourceType resourceLink date)
  let plain := "type=" ++ Wire.tokenType ++ "&ver=" ++ Wire.tokenVersion ++ "&sig=" ++ sig
  return String.ofList (Codec.Percent.escape Codec.Percent.isUnreserved plain.toList)

end PageScript.Cosmos

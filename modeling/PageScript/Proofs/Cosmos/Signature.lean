import PageScript.Cosmos.Signature
import PageScript.Proofs.Codec.Base64
import PageScript.Proofs.Codec.Percent

/-!
# Tokens carry signatures

The key of an account is the base64 form of a secret, and a token is the escaped form of a line that
ends with the base64 form of a keyed hash. Both codecs are undone: the key gives the secret that the
hash is made with, and the token gives the hash. So a token depends on the secret and on the signed
text through the hash alone.
-/

namespace PageScript.Codec.Sha256

theorem length_hash (message : List UInt8) : (hash message).length = 32 := rfl

end PageScript.Codec.Sha256

namespace PageScript.Cosmos

open Codec

/-- The signature of a text under an encoded secret. -/
theorem signature_encode (secret : List UInt8) (payload : String) :
    signature (Base64.encode secret) payload =
      .ok (Base64.encode (Sha256.hmac secret (Text.utf8 payload))) := by
  rw [signature, Base64.decode_encode]
  rfl

/-- A keyed hash takes forty-four characters in base64. -/
theorem length_encode_hmac (secret message : List UInt8) :
    (Base64.encode (Sha256.hmac secret message)).length = 44 := by
  rw [Base64.encode, String.length_ofList, Base64.length_encodeChars, Sha256.hmac,
    Sha256.length_hash]

/-- For every secret the token is made, is written in unreserved characters and escapes, and stands for
a line with a signature from which the keyed hash of the signed text is decoded. -/
theorem authToken_carries_signature (secret : List UInt8)
    (verb resourceType resourceLink date : String) :
    ∃ token sig : String,
      authToken verb resourceType resourceLink date (Base64.encode secret) = .ok token ∧
      Percent.Escaped Percent.isUnreserved token.toList ∧
      Percent.unescaped token.toList = .ok ("type=master&ver=1.0&sig=" ++ sig).toList ∧
      sig.length = 44 ∧
      Base64.decode sig = .ok (Sha256.hmac secret (Text.utf8
        (Text.lower verb ++ "\n" ++ Text.lower resourceType ++ "\n" ++ resourceLink ++ "\n" ++
          Text.lower date ++ "\n\n"))) := by
  let sig := Base64.encode (Sha256.hmac secret
    (Text.utf8 (signingText verb resourceType resourceLink date)))
  let line := "type=master&ver=1.0&sig=" ++ sig
  have made : authToken verb resourceType resourceLink date (Base64.encode secret) =
      .ok (String.ofList (Percent.escape Percent.isUnreserved line.toList)) := by
    rw [authToken, signature_encode]
    rfl
  have noPercent (c : Char) (hc : Percent.isUnreserved c = true) : c ≠ '%' := by
    rintro rfl
    cases hc
  refine ⟨_, sig, made, ?_, ?_, length_encode_hmac _ _, Base64.decode_encode _⟩
  · rw [String.toList_ofList]
    exact Percent.escaped_escape _
  · rw [String.toList_ofList]
    exact Percent.unescaped_escape fun c _ => noPercent c

end PageScript.Cosmos

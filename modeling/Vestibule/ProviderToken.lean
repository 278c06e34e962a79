import Vestibule.Auth.Model
import Vestibule.Fault
import Vestibule.Json.Read
import Vestibule.Text.Base64
import Vestibule.Text.Utf8

/-!
Provider tokens.

An outside provider hands the browser a token of three dot-separated segments. The middle one is
a base64url JSON object whose `provider` member names the provider and whose `providerId` member,
a string or an integer, names the account there. Only that segment is read: the other two may be
anything, and the signature is checked elsewhere. Every failure is of kind `malformed`.
-/

namespace Vestibule.ProviderToken

open Vestibule.Json
open Vestibule.Auth

/-- The members a token payload is read into. -/
structure Claims where
  provider : String
  providerId : Option Value
  deriving Inhabited

/-- How a payload is read. -/
def Claims.layout : Layout Claims where
  qualified := "completion.providerClaims"
  short := "providerClaims"
  fields := [
    .of "provider" .text (·.provider) (fun c x => { c with provider := x }),
    .of "providerId" .raw (·.providerId) (fun c x => { c with providerId := x })]

def malformed (context : String) : Fault := .wrap context (.kind .malformed)

/-- The account name a `providerId` member gives: a string is trimmed, an integer literal is
kept as written, and `null` or no member gives the empty name. -/
def accountName : Option Value → Except Fault String
  | none => .ok ""
  | some .null => .ok ""
  | some (.string s) => .ok (Text.trim s)
  | some (.number lit) =>
    if (parseInt64 lit).isSome then .ok lit
    else .error (malformed "providerId is neither string nor integer")
  | some _ => .error (malformed "providerId is neither string nor integer")

/-- The octets of the payload segment: padded to a multiple of four and read as base64url. -/
def payloadOctets (segment : String) : Except Fault (List UInt8) :=
  match Text.Base64.decode (Text.Base64.padToQuad (Text.Utf8.encode segment)) with
  | .ok bs => .ok bs
  | .error pos =>
    .error (.wrapBoth "decode provider token payload" (.kind .malformed)
      (.text (Text.Base64.failureMessage pos)))

/-- The pending identity a token names. -/
def decode (token : String) : Except Fault PendingIdentity := do
  let parts := (Text.trim token).splitOn "."
  if parts.length != 3 then
    throw (malformed s!"provider token has {parts.length} segments")
  let octets ← payloadOctets (parts.getD 1 "")
  let payload ← match readAll octets with
    | .ok v => pure v
    | .error e => throw (.wrapBoth "parse provider token payload" (.kind .malformed) (.text e.message))
  let (claims, mismatch) := Claims.layout.bind ⟨"", none⟩ payload
  if let some msg := mismatch then
    throw (.wrapBoth "parse provider token payload" (.kind .malformed) (.text msg))
  let account ← accountName claims.providerId
  let identity : PendingIdentity := ⟨Text.trim claims.provider, account⟩
  if identity.isZero then throw (malformed "provider token missing provider or providerId")
  pure identity

end Vestibule.ProviderToken

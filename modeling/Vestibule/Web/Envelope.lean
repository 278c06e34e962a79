import Vestibule.Fault
import Vestibule.Json.Write

/-!
Error envelopes.

A failure reaches a client as a status and a JSON body `{"error": code}` with the code of the
failure, plus `"error_description"` holding the client-safe message of the first coded node when
that message is not empty. Failures without a code are `internal_error` and never describe
themselves.
-/

namespace Vestibule.Web

open Vestibule.Json

/-- The status that answers a failure with the given code. -/
def statusFor (code : String) : Nat :=
  if code == "bad_request" || code == "invalid_input" then 400
  else if code == "unauthorized" then 401
  else if code == "forbidden" || code == "missing_consent" then 403
  else if code == "not_found" then 404
  else if code == "conflict" || code == "invalid_state" then 409
  else if code == "unavailable" then 503
  else if code == "timeout" then 504
  else 500

def envelope (code description : String) : Value :=
  .object ([("error", .string code)] ++
    (if description.isEmpty then [] else [("error_description", .string description)]))

end Vestibule.Web

namespace Vestibule.Fault

open Vestibule.Json

/-- The envelope that answers a failure. -/
def envelope (e : Fault) : Value :=
  let code := e.outerCode
  let description :=
    if code == "internal_error" then ""
    else (e.firstCoded.map (fun c => c.2.1)).getD ""
  Web.envelope code description

def response (e : Fault) : Nat × String :=
  (Web.statusFor e.outerCode, Style.body.line e.envelope)

end Vestibule.Fault

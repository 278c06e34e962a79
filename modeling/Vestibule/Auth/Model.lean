import Vestibule.Json.Bind
import Vestibule.Text.Blank

/-!
Accounts, provider identities and credentials.

A user is an account of the remote service. A pending identity is an account of an outside
provider that has signed in there but has no account here yet. A credential is the bearer text
that proves a signed-in browser to the remote service; a credential that is blank counts as
none.
-/

namespace Vestibule.Auth

open Vestibule.Json

/-- An account of the remote service. -/
structure User where
  id : Int
  displayName : String
  role : String
  deriving Repr, DecidableEq, Inhabited

/-- An identity of an outside provider waiting for registration. -/
structure PendingIdentity where
  provider : String
  providerId : String
  deriving Repr, DecidableEq, Inhabited

def PendingIdentity.isZero (p : PendingIdentity) : Bool :=
  Text.isBlankText p.provider || Text.isBlankText p.providerId

def credentialIsZero (c : String) : Bool := Text.isBlankText c

/-- What signing in yields: a credential and the account it belongs to. -/
structure TokenResult where
  accessToken : String
  user : User
  deriving Repr, DecidableEq, Inhabited

def User.toValue (u : User) : Value :=
  .object [("id", .ofInt u.id), ("displayName", .string u.displayName), ("role", .string u.role)]

def PendingIdentity.toValue (p : PendingIdentity) : Value :=
  .object [("provider", .string p.provider), ("providerId", .string p.providerId)]

def TokenResult.toValue (t : TokenResult) : Value :=
  .object [("accessToken", .string t.accessToken), ("user", t.user.toValue)]

/-- How a user is read from a remote answer. -/
def User.layout : Layout User where
  qualified := "models.User"
  short := "User"
  fields := [
    .of "id" .int64 (·.id) (fun u x => { u with id := x }),
    .of "displayName" .text (·.displayName) (fun u x => { u with displayName := x }),
    .of "role" (.textAs "models.Role") (·.role) (fun u x => { u with role := x })]

/-- How a sign-in result is read from a remote answer. -/
def TokenResult.layout : Layout TokenResult where
  qualified := "models.TokenResult"
  short := "TokenResult"
  fields := [
    .of "accessToken" (.textAs "models.Credential") (·.accessToken)
      (fun t x => { t with accessToken := x }),
    .of "user" (.record User.layout) (·.user) (fun t x => { t with user := x })]

end Vestibule.Auth

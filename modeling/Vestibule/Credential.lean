import Vestibule.Auth.Model
import Vestibule.Fault

/-!
The credential store of one browser.

It holds at most one credential. A blank credential is refused when stored and reads as none,
so a reader never sees a blank credential.
-/

namespace Vestibule

/-- A store holding the text last stored, or the empty text. -/
structure CredentialStore where
  held : String
  deriving Repr, DecidableEq, Inhabited

namespace CredentialStore

def empty : CredentialStore := ⟨""⟩

def get (s : CredentialStore) : Option String :=
  if Auth.credentialIsZero s.held then none else some s.held

def set (v : String) (_ : CredentialStore) : Except Fault CredentialStore :=
  if Auth.credentialIsZero v then .error (.kind .emptyCredential) else .ok ⟨v⟩

def clear (_ : CredentialStore) : CredentialStore := empty

end CredentialStore

end Vestibule

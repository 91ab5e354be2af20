import KubeSsh.Target

/-!
# `pkg/authn`: authentication results

The identity an authenticator returns for a connection. The SSH user name is not part of it: it is a
target locator.
-/

namespace KubeSsh.Authn

/-- `authn.UserInfo`. -/
structure UserInfo where
  id : GoString := []
  name : GoString := []
  email : GoString := []
  emailVerified : Bool := false
  groups : List GoString := []
  extra : GoMap (List GoString) := ∅

/-- `authn.AuthenticateInfo`. -/
structure AuthenticateInfo where
  user : UserInfo := {}
  method : GoString := []
  targetHints : List Target.Hint := []
  extra : GoMap (List GoString) := ∅

/-- How authentication fails: `ErrNotProvided`, an Access that could not be looked up, or another
error. Only the first leaves the connection to another authenticator. -/
inductive AuthnError
  | notProvided
  | lookup (err : Target.ResolveError)
  | other (message : Message)
deriving DecidableEq

end KubeSsh.Authn

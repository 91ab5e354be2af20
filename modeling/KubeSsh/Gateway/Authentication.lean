import KubeSsh.Common.Threads
import KubeSsh.CryptoSsh
import KubeSsh.Gateway.Accept

/-!
# `pkg/gateway`: the authentication of a connection

`authenticationConfig` hands callbacks to `golang.org/x/crypto/ssh`, which calls them from its loop
over the attempts of the client. The model has both: the callbacks as programs, with the closure
variables they share, and one iteration of the loop as a task. The client, the authenticator and all
other components answer what they like.

Of the library is used what its documentation promises. The `none` attempt is only let through to
its callback before a partial success. The callbacks of the partial success replace the initial
ones, and the user cannot change after it. A signed attempt that verifies gets the result that the
public key callback returned for the same user and key, now or earlier; how long such results stay
cached is left open.
-/

namespace KubeSsh.Gateway.Authentication

open Authn AccessPolicy Target

/-! ## Attempts -/

/-- The signature of a public key attempt, as the library judges it. -/
inductive Signature
  | verified
  /-- Its algorithm is not accepted: the attempt fails. -/
  | incompatible
  /-- It does not verify: the connection ends. -/
  | invalid
deriving DecidableEq

/-- An attempt of the client. -/
inductive Attempt (PublicKey : Type)
  | none (user : GoString)
  | password (user value : GoString)
  /-- A public key without a signature, to ask whether it would be accepted. -/
  | probe (user : GoString) (key : PublicKey)
  | signed (user : GoString) (key : PublicKey) (signature : Signature)
  /-- The library refuses the attempt without a callback. -/
  | refused (user method : GoString)

namespace Attempt

variable {PublicKey : Type}

def user : Attempt PublicKey → GoString
  | .none user | .password user _ | .probe user _ | .signed user _ _ | .refused user _ => user

end Attempt

/-- `authenticationResult` (`authentication.go:21-25`). -/
structure AuthenticationResult where
  info : AuthenticateInfo
  fingerprint : GoString := []
  credential : GoString

/-- The error of an attempt. -/
inductive AttemptError
  /-- `PartialSuccessError`, and which callbacks it sets. -/
  | partialSuccess (publicKey password : Bool)
  /-- `errAuthenticationRejected`. -/
  | rejected
  | authenticator (err : AuthnError)
  /-- An error of the library. -/
  | library

/-! ## Operations -/

inductive Op (PublicKey : Type)
  -- the library
  | nextAttempt
  | cached
  | sendSuccess
  -- the authenticator
  | authenticateBasic (user password : GoString)
  | authenticatePublicKey (user : GoString) (key : PublicKey)
  -- the gateway
  | authenticationMethods (user : GoString)
  | setMetadata (user : GoString)
  | resolve (input : ResolveInput)
  | resolveSessionPolicy (user : GoString) (extra : GoMap (List GoString))
  | applyPolicy (policy : EffectiveSessionPolicy)
  | selectConnectionProtocol (tgt : Target) (policy : EffectiveSessionPolicy)
  | publishAuthenticated (connection : AuthenticatedConnection)
  -- its audit events and metrics
  | recordAuthentication (method fingerprint : GoString) (result : Except AttemptError AuthenticateInfo)
  | recordTarget (info : AuthenticateInfo) (fingerprint : GoString) (result : Except ResolveError Target)
  | authAttempt (credential result : GoString)

/-- What the operations answer. -/
def Op.Answer {PublicKey : Type} : Op PublicKey → Type
  | .nextAttempt => Option (Attempt PublicKey)
  | .cached => Bool
  | .authenticateBasic _ _ => Except AuthnError AuthenticateInfo
  | .authenticatePublicKey _ _ => Except AuthnError AuthenticateInfo
  | .authenticationMethods _ => Except ResolveError (Option (List GoString))
  | .resolve _ => Except ResolveError Target
  | .resolveSessionPolicy _ _ => Except Message EffectiveSessionPolicy
  | .selectConnectionProtocol _ _ => Except Message ConnectionProtocol
  | _ => Unit

abbrev interface (PublicKey : Type) : Interface := ⟨Op PublicKey, Op.Answer⟩

/-- A program of the connection's goroutine. -/
abbrev Handling (PublicKey α : Type) := Prog (interface PublicKey) α

section Operations

variable {PublicKey : Type}

def perform (op : Op PublicKey) : Handling PublicKey op.Answer := Prog.perform (I := interface PublicKey) op

def nextAttempt : Handling PublicKey (Option (Attempt PublicKey)) := perform .nextAttempt
def cached : Handling PublicKey Bool := perform .cached
def authenticateBasic (user password : GoString) :
    Handling PublicKey (Except AuthnError AuthenticateInfo) :=
  perform (.authenticateBasic user password)
def authenticatePublicKey (user : GoString) (key : PublicKey) :
    Handling PublicKey (Except AuthnError AuthenticateInfo) :=
  perform (.authenticatePublicKey user key)
def authenticationMethods (user : GoString) :
    Handling PublicKey (Except ResolveError (Option (List GoString))) :=
  perform (.authenticationMethods user)
def resolve (input : ResolveInput) : Handling PublicKey (Except ResolveError Target) :=
  perform (.resolve input)
def resolveSessionPolicy (user : GoString) (extra : GoMap (List GoString)) :
    Handling PublicKey (Except Message EffectiveSessionPolicy) :=
  perform (.resolveSessionPolicy user extra)
def selectConnectionProtocol (tgt : Target) (policy : EffectiveSessionPolicy) :
    Handling PublicKey (Except Message ConnectionProtocol) :=
  perform (.selectConnectionProtocol tgt policy)

/-- `acceptAuthenticated` (`gateway.go:202-256`); the user is `ctx.User()`. -/
def acceptAuthenticated (remoteAddr : Option GoString) (user : GoString)
    (result : AuthenticationResult) : Handling PublicKey Bool := do
  match ← resolve (resolveInput user remoteAddr result.info) with
  | .error err =>
    perform (.recordTarget result.info result.fingerprint (.error err))
    perform (.authAttempt result.credential (str "target_rejected"))
    return false
  | .ok tgt =>
    perform (.recordTarget result.info result.fingerprint (.ok tgt))
    match ← resolveSessionPolicy user result.info.extra with
    | .error _ =>
      perform (.authAttempt result.credential (str "session_policy_rejected"))
      return false
    | .ok policy =>
      perform (.applyPolicy policy)
      match ← selectConnectionProtocol tgt policy with
      | .error _ =>
        perform (.authAttempt result.credential (str "protocol_rejected"))
        return false
      | .ok protocol =>
        perform (.publishAuthenticated
          { info := result.info, target := tgt, fingerprint := result.fingerprint, protocol })
        return true

end Operations

/-! ## The callbacks -/

/-- What the public key callback returned for a user and a key. -/
structure Candidate (PublicKey : Type) where
  user : GoString
  key : PublicKey
  result : Except AuthnError AuthenticationResult

/-- What lives across the attempts of a connection. -/
structure LoopState (PublicKey : Type) where
  /-- The user of the last attempt, which the library knows as `conn.User()`. -/
  user : GoString := []
  partialSuccessReturned : Bool := false
  /-- The callbacks that are set. -/
  publicKeyCallback : Bool := false
  passwordCallback : Bool := false
  /-- The results of the public key callback that may be cached. -/
  cache : List (Candidate PublicKey) := []
  /-- The closure variables of `authenticationConfig`. -/
  fingerprint : GoString := []
  reported : Bool := false
  /-- `connectionState.metadata.user`, which `ctx.User()` returns. -/
  metadataUser : GoString := []

/-- What `authenticationConfig` is called with. -/
structure Config where
  enabled : List GoString
  /-- `s.accessPolicy` is not nil. -/
  accessPolicy : Bool
  remoteAddr : Option GoString

namespace Config

variable (config : Config) (keys : CryptoSsh.Keys) [DecidableEq keys.PublicKey]

/-- The closure `finish` (`authentication.go:30-37`). -/
def finish (result : AuthenticationResult) (st : LoopState keys.PublicKey) :
    Handling keys.PublicKey (Except AttemptError Unit × LoopState keys.PublicKey) := do
  perform (.recordAuthentication result.credential result.fingerprint (.ok result.info))
  let accepted ← acceptAuthenticated config.remoteAddr st.metadataUser result
  return (if accepted then .ok () else .error .rejected, { st with reported := true })

/-- The callback `publicKey` (`authentication.go:38-47`). -/
def publicKey (user : GoString) (key : keys.PublicKey) (st : LoopState keys.PublicKey) :
    Handling keys.PublicKey (Except AuthnError AuthenticationResult × LoopState keys.PublicKey) := do
  let st := { st with fingerprint := keys.fingerprintSHA256 key, reported := false }
  match ← authenticatePublicKey user key with
  | .error err => return (.error err, st)
  | .ok info => return (.ok { info, fingerprint := st.fingerprint, credential := str "publickey" }, st)

/-- The callback `password` (`authentication.go:48-55`). -/
def password (user value : GoString) (st : LoopState keys.PublicKey) :
    Handling keys.PublicKey (Except AttemptError Unit × LoopState keys.PublicKey) := do
  let st := { st with reported := false }
  match ← authenticateBasic user value with
  | .error err => return (.error (.authenticator err), st)
  | .ok info => config.finish keys { info, credential := str "password" } st

/-- The methods an Access selects (`authentication.go:62-72`): none if the lookup fails. -/
def selectedMethods (user : GoString) : Handling keys.PublicKey (Option (List GoString)) := do
  if config.accessPolicy then
    match ← authenticationMethods user with
    | .error _ => return none
    | .ok none => return some config.enabled
    | .ok (some methods) => return some methods
  else return some config.enabled

/-- `NoClientAuthCallback` (`authentication.go:60-84`): its error, which is never nil. -/
def noClientAuth (user : GoString) (st : LoopState keys.PublicKey) :
    Handling keys.PublicKey (AttemptError × LoopState keys.PublicKey) := do
  perform (.setMetadata user)
  let st := { st with metadataUser := user }
  match ← config.selectedMethods keys user with
  | none => return (.rejected, st)
  | some methods =>
    let publicKey := str "publickey" ∈ config.enabled ∧ str "publickey" ∈ methods
    let password := str "password" ∈ config.enabled ∧ str "password" ∈ methods
    if ¬ publicKey ∧ ¬ password then return (.rejected, st)
    else return (.partialSuccess publicKey password, st)

/-- `AuthLogCallback` (`authentication.go:89-101`). -/
def authLog (method : GoString) (outcome : Except AttemptError Unit)
    (st : LoopState keys.PublicKey) : Handling keys.PublicKey (LoopState keys.PublicKey) := do
  match outcome with
  | .ok _ => return { st with reported := false }
  | .error err =>
    if method = str "none" ∨ st.reported then return { st with reported := false }
    else
      let fingerprint := if method = str "publickey" then st.fingerprint else []
      perform (.recordAuthentication method fingerprint (.error err))
      perform (.authAttempt method (str "rejected"))
      return { st with reported := false }

/-! ## The loop of the library -/

/-- The result for a user and a key: a cached one, or what the callback returns now. -/
def candidate (user : GoString) (key : keys.PublicKey) (st : LoopState keys.PublicKey) :
    Handling keys.PublicKey (Except AuthnError AuthenticationResult × LoopState keys.PublicKey) := do
  let hit := st.cache.find? fun candidate => candidate.user = user ∧ candidate.key = key
  let kept ← cached
  match hit, kept with
  | some candidate, true => return (candidate.result, st)
  | _, _ =>
    let (result, st) ← publicKey keys user key st
    return (result, { st with cache := { user, key, result } :: st.cache })

/-- The end of an attempt: it is logged, and the loop ends or goes on. -/
def conclude (method : GoString) (outcome : Except AttemptError Unit) (st : LoopState keys.PublicKey) :
    Handling keys.PublicKey (Option (LoopState keys.PublicKey)) := do
  let st ← authLog keys method outcome st
  match outcome with
  | .ok _ =>
    perform .sendSuccess
    return none
  | .error (.partialSuccess publicKey password) =>
    return some
      { st with
        partialSuccessReturned := true
        publicKeyCallback := publicKey
        passwordCallback := password
        cache := [] }
  | .error _ => return some st

/-- A signed attempt for a result of the public key callback; `VerifiedPublicKeyCallback`
(`authentication.go:85-88`) is called if the signature verifies. -/
def checkSignature (result : Except AuthnError AuthenticationResult) (signature : Signature)
    (st : LoopState keys.PublicKey) :
    Handling keys.PublicKey (Option (LoopState keys.PublicKey)) :=
  match signature with
  | .invalid => return none
  | .incompatible => conclude keys (str "publickey") (.error .library) st
  | .verified =>
    match result with
    | .error err => conclude keys (str "publickey") (.error (.authenticator err)) st
    | .ok result => do
      let (outcome, st) ← config.finish keys result st
      conclude keys (str "publickey") outcome st

/-- The attempt, after the check of its user. -/
def attempt (st : LoopState keys.PublicKey) :
    Attempt keys.PublicKey → Handling keys.PublicKey (Option (LoopState keys.PublicKey))
  | .none user =>
    if st.partialSuccessReturned then conclude keys (str "none") (.error .library) st
    else do
      let (err, st) ← config.noClientAuth keys user st
      conclude keys (str "none") (.error err) st
  | .password user value =>
    if ¬ st.passwordCallback then conclude keys (str "password") (.error .library) st
    else do
      let (outcome, st) ← config.password keys user value st
      conclude keys (str "password") outcome st
  | .probe user key =>
    if ¬ st.publicKeyCallback then conclude keys (str "publickey") (.error .library) st
    else do
      let (result, st) ← candidate keys user key st
      match result with
      | .ok _ => return some st
      | .error err => conclude keys (str "publickey") (.error (.authenticator err)) st
  | .signed user key signature =>
    if ¬ st.publicKeyCallback then conclude keys (str "publickey") (.error .library) st
    else do
      let (result, st) ← candidate keys user key st
      config.checkSignature keys result signature st
  | .refused _ method => conclude keys method (.error .library) st

/-- An iteration of the loop. -/
def iteration (st : LoopState keys.PublicKey) :
    Handling keys.PublicKey (Option (LoopState keys.PublicKey)) := do
  match ← nextAttempt with
  | none => return none
  | some attempt =>
    if attempt.user ≠ st.user ∧ st.partialSuccessReturned then return none
    else config.attempt keys { st with user := attempt.user } attempt

/-- The authentication of one connection. -/
def system : System (interface keys.PublicKey) where
  Task := LoopState keys.PublicKey
  code := config.iteration keys
  started _ := []
  World := Unit
  Answers world _ _ world' := world' = world

/-- A connection when authentication starts. -/
def connection : (config.system keys).Config := (config.system keys).initial () [{}]

end Config

/-! ## The components of the gateway -/

/-- A gateway answers the operations of `acceptAuthenticated`; the others are not its own. -/
def handle {PublicKey : Type} (g : Components) (draw : Draw) :
    (op : Op PublicKey) → StateT ResolverState (Reads Store) op.Answer
  | .resolve input => g.resolve draw input
  | .resolveSessionPolicy user extra =>
    (Gateway.resolveSessionPolicy g.opts g.access.isSome user extra :
      Reads Store (Except Message EffectiveSessionPolicy))
  | .selectConnectionProtocol tgt policy => return g.selectConnectionProtocol tgt policy
  | .nextAttempt => return none
  | .cached => return false
  | .authenticateBasic _ _ | .authenticatePublicKey _ _ => return .error .notProvided
  | .authenticationMethods _ => return .ok none
  | .sendSuccess | .setMetadata _ | .applyPolicy _ | .publishAuthenticated _
  | .recordAuthentication _ _ _ | .recordTarget _ _ _ | .authAttempt _ _ => return ()

/-- Over the components of a gateway the program accepts exactly the connections that
`Components.acceptAuthenticated` publishes. -/
theorem interpret_acceptAuthenticated {PublicKey : Type} (g : Components) (draw : Draw)
    (remoteAddr : Option GoString) (user : GoString) (result : AuthenticationResult) :
    (acceptAuthenticated remoteAddr user result : Handling PublicKey Bool).interpret (handle g draw)
      = (fun acceptance => acceptance matches .published _) <$>
        g.acceptAuthenticated draw user remoteAddr result.info result.fingerprint := by
  have hperform : ∀ op : Op PublicKey, (perform op).interpret (handle g draw) = handle g draw op :=
    fun op => Prog.interpret_perform (I := interface PublicKey) op
  have hskip : ∀ (op : Op PublicKey) (rest : op.Answer → Handling PublicKey Bool)
      (answer : op.Answer), handle g draw op = pure answer →
        (perform op >>= rest).interpret (handle g draw) = (rest answer).interpret (handle g draw) := by
    intro op rest answer hop
    rw [Prog.interpret_bind, hperform, hop, pure_bind]
  have hresolve : ∀ input, (resolve input : Handling PublicKey _).interpret (handle g draw)
      = g.resolve draw input := fun input => hperform (.resolve input)
  have hpolicy : ∀ user extra,
      (resolveSessionPolicy user extra : Handling PublicKey _).interpret (handle g draw)
        = handle g draw (.resolveSessionPolicy user extra : Op PublicKey) :=
    fun user extra => hperform (.resolveSessionPolicy user extra)
  have hselect : ∀ tgt policy,
      (selectConnectionProtocol tgt policy : Handling PublicKey _).interpret (handle g draw)
        = pure (g.selectConnectionProtocol tgt policy) :=
    fun tgt policy => hperform (.selectConnectionProtocol tgt policy)
  unfold acceptAuthenticated Components.acceptAuthenticated
  rw [Prog.interpret_bind, hresolve, map_bind]
  refine bind_congr fun resolved => ?_
  cases resolved with
  | error err => rfl
  | ok tgt =>
    dsimp only
    refine (hskip (.recordTarget _ _ _) _ () rfl).trans ?_
    rw [Prog.interpret_bind, hpolicy, map_bind]
    refine bind_congr fun found => ?_
    cases found with
    | error err => rfl
    | ok policy =>
      dsimp only
      refine (hskip (.applyPolicy _) _ () rfl).trans ?_
      rw [Prog.interpret_bind, hselect, pure_bind]
      cases g.selectConnectionProtocol tgt policy with
      | error err => rfl
      | ok protocol => rfl

end KubeSsh.Gateway.Authentication

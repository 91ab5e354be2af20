import KubeSsh.AccessPolicy.Resolver
import KubeSsh.Authn
import KubeSsh.Common.Loops
import KubeSsh.CryptoSsh

/-!
# `pkg/accesspolicy`: matching credentials

The material of a credential entry is the set of its passwords, or of the fingerprints of its public
keys, declared inline or in Secrets of the namespace. `matchPassword` and `matchPublicKey` look for
what the client presented in the material of every entry and succeed if exactly one has it. The
match is the position of that entry in its Access.

Authorization and resolution later look for an entry by its user name, which is all that the
identity of the connection says. `authenticating_entry_authorizes` says when they enforce the entry
that matched.

The matchers read the cache several times; they are modeled on one state of it.
-/

namespace KubeSsh.AccessPolicy

open Authn Strings Target

/-! ## Material -/

/-- `splitSecretLines` (`policy_cache.go:240-250`). -/
def splitSecretLines (value : GoString) : List GoString :=
  ((value.splitOn Byte.newline).map trimSpace).filter (· ≠ [])

/-- `keyFingerprint` (`policy_cache.go:228-238`): `""` for a line that is no public key. -/
def keyFingerprint (keys : CryptoSsh.Keys) (line : GoString) : GoString :=
  let line := trimSpace line
  if line = [] then []
  else match keys.parseAuthorizedKey line with
    | none => []
    | some key => keys.fingerprintSHA256 key

/-- The loop over lines that fails at one that is no public key, with the same error for each
(`policy_cache.go:165-171`, `177-183`). -/
def fingerprints {ε : Type} (keys : CryptoSsh.Keys) (invalid : ε) (lines : List GoString) :
    Except ε (List GoString) :=
  if lines.any fun line => keyFingerprint keys line = [] then .error invalid
  else .ok (lines.map (keyFingerprint keys))

theorem fingerprints_eq_ok_iff {ε : Type} {keys : CryptoSsh.Keys} {invalid : ε}
    {lines result : List GoString} :
    fingerprints keys invalid lines = .ok result ↔
      (∀ line ∈ lines, keyFingerprint keys line ≠ []) ∧ result = lines.map (keyFingerprint keys) := by
  have hany : (lines.any fun line => keyFingerprint keys line = []) = false ↔
      ∀ line ∈ lines, keyFingerprint keys line ≠ [] := by simp
  unfold fingerprints
  rw [← hany]
  cases lines.any fun line => keyFingerprint keys line = [] with
  | true => simp
  | false => simp [eq_comm]

/-- The value that a reference names, with the errors for an incomplete reference, a nil indexer, a
missing Secret and a missing key. -/
def readSecret {ε : Type} (secrets : Option SecretIndexer) (ns : GoString) (ref : LocalSecretKeyRef)
    (incomplete unavailable missing noKey : ε) : Except ε GoString :=
  if ref.name = [] ∨ ref.key = [] then .error incomplete
  else match secrets with
    | none => .error unavailable
    | some indexer =>
      match indexer.secrets.lookup (accessKey ns ref.name) with
      | none => .error missing
      | some secret =>
        match secret.data.lookup ref.key with
        | none => .error noKey
        | some value => .ok value

/-- The key that a reference names has this value in a Secret of the namespace. -/
def SecretHolds (secrets : Option SecretIndexer) (ns : GoString) (ref : LocalSecretKeyRef)
    (value : GoString) : Prop :=
  ∃ indexer, secrets = some indexer ∧ ∃ secret : Secret,
    indexer.secrets.lookup (accessKey ns ref.name) = some secret ∧
      secret.data.lookup ref.key = some value

theorem readSecret_eq_ok_iff {ε : Type} {secrets : Option SecretIndexer} {ns value : GoString}
    {ref : LocalSecretKeyRef} {incomplete unavailable missing noKey : ε} :
    readSecret secrets ns ref incomplete unavailable missing noKey = .ok value ↔
      (ref.name ≠ [] ∧ ref.key ≠ []) ∧ SecretHolds secrets ns ref value := by
  unfold readSecret SecretHolds
  rw [ite_eq_iff, ← not_or]
  cases secrets with
  | none => simp
  | some indexer =>
    cases hsecret : indexer.secrets.lookup (accessKey ns ref.name) with
    | none => simp [hsecret]
    | some secret => cases hvalue : secret.data.lookup ref.key <;> simp [hsecret, hvalue]

namespace PolicyCache

variable (cache : PolicyCache)

/-- `SecretValue` (`policy_cache.go:189-212`). -/
def secretValue (ns : GoString) (ref : LocalSecretKeyRef) : Except Message GoString :=
  readSecret cache.secretIndexer ns ref
    [.bytes (str "incomplete secret reference in namespace "), .quoted ns]
    (.text "access policy cache requires a secret indexer")
    [.bytes (str "secret "), .bytes ns, .bytes (str "/"), .bytes ref.name, .bytes (str " not found")]
    [.bytes (str "secret "), .bytes ns, .bytes (str "/"), .bytes ref.name, .bytes (str " has no key "),
      .quoted ref.key]

/-- `credentialPasswords` (`policy_cache.go:144-161`). -/
def credentialPasswords (ns : GoString) (credential : AccessCredential) :
    Except Message (Finset GoString) :=
  collect (fun ref => (cache.secretValue ns ref).map splitSecretLines)
    (credential.passwords.filter (· ≠ [])).toFinset credential.passwordsFrom

/-- `credentialPublicKeys` (`policy_cache.go:163-186`). -/
def credentialPublicKeys (keys : CryptoSsh.Keys) (ns : GoString) (credential : AccessCredential) :
    Except Message (Finset GoString) := do
  let values ← fingerprints keys
    [.bytes (str "credential "), .quoted credential.username, .bytes (str " in namespace "),
      .quoted ns, .bytes (str " contains an invalid public key")] credential.publicKeys
  collect (fun ref => do
      let value ← cache.secretValue ns ref
      fingerprints keys
        [.bytes (str "credential "), .quoted credential.username,
          .bytes (str " public key reference "), .bytes ns, .bytes (str "/"), .bytes ref.name,
          .bytes (str ":"), .bytes ref.key, .bytes (str " contains an invalid public key")]
        (splitSecretLines value))
    values.toFinset credential.publicKeysFrom

end PolicyCache

/-! ## Matching -/

/-- `CredentialMatch`: an Access and a pointer to one of its credential entries. -/
structure CredentialMatch where
  access : Access
  index : Fin access.spec.credentials.length

/-- `CredentialMatch.Credential`. -/
def CredentialMatch.credential (m : CredentialMatch) : AccessCredential :=
  m.access.spec.credentials[m.index]

/-- `credentialMatch` (`policy_cache.go:133-142`). -/
def credentialMatch (access : Access) (found : List (Fin access.spec.credentials.length))
    (kind : GoString) : Except AuthnError CredentialMatch :=
  match found with
  | [] => .error .notProvided
  | [index] => .ok { access, index }
  | _ => .error (.other [.bytes kind, .bytes (str " maps to multiple credential identities in access "),
      .bytes access.ns, .bytes (str "/"), .bytes access.name])

theorem credentialMatch_eq_ok_iff {access : Access}
    {found : List (Fin access.spec.credentials.length)} {kind : GoString} {m : CredentialMatch} :
    credentialMatch access found kind = .ok m ↔ ∃ i, found = [i] ∧ m = { access, index := i } := by
  rcases found with _ | ⟨i, _ | ⟨j, rest⟩⟩ <;> simp [credentialMatch, eq_comm]

namespace PolicyCache

variable (cache : PolicyCache)

/-- The part that `MatchPassword` and `MatchPublicKey` share: the Access that the user name locates,
and the entry whose material has the value. -/
def matchMaterial (kind : GoString)
    (material : GoString → AccessCredential → Except Message (Finset GoString))
    (sshUser value : GoString) : Except AuthnError CredentialMatch :=
  match (resolveAccessLocator sshUser).run (fun _ => cache.store) 0 with
  | .error err => .error (.lookup err)
  | .ok none => .error .notProvided
  | .ok (some (_, access)) =>
    match positions (fun credential =>
        (material access.ns credential).map fun values => decide (value ∈ values))
      access.spec.credentials with
    | .error err => .error (.other err)
    | .ok found => credentialMatch access found kind

/-- `MatchPassword` (`policy_cache.go:81-106`). -/
def matchPassword (sshUser token : GoString) : Except AuthnError CredentialMatch :=
  if token = [] then .error .notProvided
  else cache.matchMaterial (str "password") cache.credentialPasswords sshUser token

/-- `MatchPublicKey` (`policy_cache.go:108-131`); `none` is a nil key. -/
def matchPublicKey (keys : CryptoSsh.Keys) (sshUser : GoString) :
    Option keys.PublicKey → Except AuthnError CredentialMatch
  | none => .error .notProvided
  | some key => cache.matchMaterial (str "public key") (cache.credentialPublicKeys keys) sshUser
      (keys.fingerprintSHA256 key)

variable {cache}

/-- A match is the only entry of the located Access whose material has the value, and the material
of every entry can be read. -/
theorem matchMaterial_eq_ok_iff {kind : GoString}
    {material : GoString → AccessCredential → Except Message (Finset GoString)}
    {sshUser value : GoString} {m : CredentialMatch} :
    cache.matchMaterial kind material sshUser value = .ok m ↔
      (∃ locator, (resolveAccessLocator sshUser).run (fun _ => cache.store) 0
        = .ok (some (locator, m.access))) ∧
      (∀ credential ∈ m.access.spec.credentials, ∃ values,
        material m.access.ns credential = .ok values) ∧
      ∀ j : Fin m.access.spec.credentials.length,
        (∃ values, material m.access.ns m.access.spec.credentials[j] = .ok values ∧ value ∈ values)
          ↔ j = m.index := by
  obtain ⟨access, index⟩ := m
  have htest : ∀ values : Except Message (Finset GoString),
      (values.map fun values => decide (value ∈ values)) = .ok true ↔
        ∃ list, values = .ok list ∧ value ∈ list := by
    intro values
    simp [map_eq_ok_iff]
  have hall : ∀ values : Except Message (Finset GoString),
      (∃ passed, (values.map fun values => decide (value ∈ values)) = .ok passed) ↔
        ∃ list, values = .ok list := by
    intro values
    cases values <;> simp [Except.map]
  have hfound := @positions_eq_singleton_iff _ _
    (fun credential => (material access.ns credential).map fun values => decide (value ∈ values))
    access.spec.credentials index
  simp only [htest, hall] at hfound
  unfold matchMaterial
  rw [← hfound]
  cases (resolveAccessLocator sshUser).run (fun _ => cache.store) 0 with
  | error err => simp
  | ok located =>
    rcases located with _ | ⟨locator, access'⟩
    · simp
    simp only [Except.ok.injEq, Option.some.injEq, Prod.mk.injEq, exists_eq_left']
    constructor
    · intro h
      split at h
      · cases h
      rename_i found hpositions
      obtain ⟨i, rfl, hm⟩ := credentialMatch_eq_ok_iff.mp h
      cases hm
      exact ⟨rfl, hpositions⟩
    · rintro ⟨rfl, hpositions⟩
      rw [hpositions]
      rfl

theorem matchPassword_eq_ok_iff {sshUser token : GoString} {m : CredentialMatch} :
    cache.matchPassword sshUser token = .ok m ↔ token ≠ [] ∧
      cache.matchMaterial (str "password") cache.credentialPasswords sshUser token = .ok m := by
  unfold matchPassword
  by_cases htoken : token = []
  · simp [htoken]
  · simp [htoken]

/-- Whatever was presented, the Access of a match is the one the user name locates. -/
theorem located_of_match {keys : CryptoSsh.Keys} {sshUser : GoString} {m : CredentialMatch}
    (h : (∃ token, cache.matchPassword sshUser token = .ok m) ∨
      ∃ key, cache.matchPublicKey keys sshUser key = .ok m) :
    ∃ locator, (resolveAccessLocator sshUser).run (fun _ => cache.store) 0
      = .ok (some (locator, m.access)) := by
  rcases h with ⟨token, h⟩ | ⟨_ | key, h⟩
  · exact (matchMaterial_eq_ok_iff.mp (matchPassword_eq_ok_iff.mp h).2).1
  · cases h
  · exact (matchMaterial_eq_ok_iff.mp h).1

end PolicyCache

/-! ## Identities -/

/-- The remaining keys and values of `context.go:5-15`. -/
def extraCredentialType : GoString := str "kube-ssh/access.credential.type"
def credentialTypePassword : GoString := str "password"
def credentialTypePublicKey : GoString := str "publickey"

/-- `authExtra` (`context.go:17-24`). -/
def authExtra (m : CredentialMatch) (credentialType : GoString) : GoMap (List GoString) :=
  (((AList.insert extraAccessNamespace [m.access.ns] ∅).insert extraAccessName [m.access.name]).insert
    extraCredentialUser [m.credential.username]).insert extraCredentialType [credentialType]

/-- `matchUser` (`context.go:26-33`). -/
def matchUser (m : CredentialMatch) : UserInfo where
  id := m.credential.uid
  name := m.credential.username
  groups := m.credential.groups
  extra := m.credential.extra

/-- What `Authenticator` makes of a match (`authenticator.go:27-31`, `42-46`). -/
def authenticateInfo (method credentialType : GoString) (m : CredentialMatch) : AuthenticateInfo where
  user := matchUser m
  method := method
  extra := authExtra m credentialType

/-- `Authenticator.AuthenticateBasic` (`authenticator.go:19-32`); without a matcher it fails. -/
def authenticateBasic (matcher : Option PolicyCache) (sshUser password : GoString) :
    Except AuthnError AuthenticateInfo :=
  match matcher with
  | none => .error (.other (.text "access policy authenticator requires a credential matcher"))
  | some cache => (cache.matchPassword sshUser password).map
      (authenticateInfo (str "crd-password") credentialTypePassword)

/-- `Authenticator.AuthenticatePublicKey` (`authenticator.go:34-47`). -/
def authenticatePublicKey (keys : CryptoSsh.Keys) (matcher : Option PolicyCache)
    (sshUser : GoString) (key : Option keys.PublicKey) : Except AuthnError AuthenticateInfo :=
  match matcher with
  | none => .error (.other (.text "access policy authenticator requires a credential matcher"))
  | some cache => (cache.matchPublicKey keys sshUser key).map
      (authenticateInfo (str "crd-publickey") credentialTypePublicKey)

/-- Whether an entry declares a public key, and a password (`authentication_methods.go:15-24`). -/
def declaresPublicKey (credential : AccessCredential) : Bool :=
  credential.publicKeysFrom.length > 0 || credential.publicKeys.any (· ≠ [])
def declaresPassword (credential : AccessCredential) : Bool :=
  credential.passwordsFrom.length > 0 || credential.passwords.any (· ≠ [])

/-- `AuthenticationMethods` (`authentication_methods.go:9-32`): none if there is no Access. -/
def authenticationMethods (sshUser : GoString) :
    Reads Store (Except ResolveError (Option (List GoString))) := do
  match ← resolveAccessLocator sshUser with
  | .error err => return .error err
  | .ok none => return .ok none
  | .ok (some (_, access)) =>
    let publicKey := access.spec.credentials.any declaresPublicKey
    let password := access.spec.credentials.any declaresPassword
    return .ok (some ((if publicKey then [credentialTypePublicKey] else []) ++
      (if password then [credentialTypePassword] else [])))

section AuthExtra

variable (m : CredentialMatch) (credentialType : GoString)

@[simp]
theorem getExtra_authExtra_namespace :
    getExtra (authExtra m credentialType) extraAccessNamespace = m.access.ns := by
  unfold getExtra firstValue authExtra
  rw [AList.lookup_insert_ne (by decide), AList.lookup_insert_ne (by decide),
    AList.lookup_insert_ne (by decide), AList.lookup_insert]
  rfl

@[simp]
theorem getExtra_authExtra_name :
    getExtra (authExtra m credentialType) extraAccessName = m.access.name := by
  unfold getExtra firstValue authExtra
  rw [AList.lookup_insert_ne (by decide), AList.lookup_insert_ne (by decide), AList.lookup_insert]
  rfl

@[simp]
theorem getExtra_authExtra_user :
    getExtra (authExtra m credentialType) extraCredentialUser = m.credential.username := by
  unfold getExtra firstValue authExtra
  rw [AList.lookup_insert_ne (by decide), AList.lookup_insert]
  rfl

end AuthExtra

/-! ## The entry that is enforced -/

/-- What the container list and the capabilities of an entry decide on a request. -/
def CredentialMatch.answer (m : CredentialMatch) (defaults : CapabilityDefaults)
    (attrs : Authz.Attributes) : Authz.Answer :=
  let container := Authz.resourceValue attrs.resources (str "containers")
  if container ≠ [] ∧ (¬ containerAllowed m.access.spec.containers container
      ∨ ¬ containerAllowed m.credential.containers container) then
    { decision := .deny, reason := .text "container not allowed" }
  else
    let (allowed, reason) := capabilityAllowed m.credential.capabilities defaults attrs
    if ¬ allowed then { decision := .deny, reason } else { decision := .allow }

/-- The Access of a match with the matched entry as its only one. -/
def CredentialMatch.only (m : CredentialMatch) : Access :=
  { m.access with spec := { m.access.spec with credentials := [m.credential] } }

/-- The authorizer decides by the matched entry, and the resolver resolves as if there were no
other: the containers it checks are those of the match. (An External Access is resolved without
looking at any entry.) -/
structure Enforces (store : Store) (sshUser : GoString) (extra : GoMap (List GoString))
    (m : CredentialMatch) : Prop where
  authorize : ∀ defaults attributes,
    authorize (some store) defaults { attributes, authExtra := extra } = m.answer defaults attributes
  resolve : ∃ locator,
    (resolveRequestedAccess sshUser extra).run (fun _ => store) 0 = .ok (some (locator, m.access)) ∧
    ∀ r draw state input, input.sshUser = sshUser → input.authExtra = extra →
      Reads.run (resolve r draw input state) (fun _ => store) 0
        = resolveThrough r draw state input locator m.only

/-- A match is found by its user name if no earlier entry has that name. -/
theorem findCredential_of_first {m : CredentialMatch}
    (hfirst : ∀ j < m.index, m.access.spec.credentials[j].username ≠ m.credential.username) :
    findCredential m.access m.credential.username = some m.credential := by
  refine List.find?_eq_some_iff_getElem.mpr ⟨by simp, m.index, m.index.isLt, rfl, fun j hj => ?_⟩
  simpa using hfirst ⟨j, hj.trans m.index.isLt⟩ hj

/-- Of the entries, resolution only sees the one that has the user name of the caller. -/
theorem resolveThrough_only {m : CredentialMatch} {input : ResolveInput}
    (hfind : findCredential m.access (getExtra input.authExtra extraCredentialUser)
      = findCredential m.only (getExtra input.authExtra extraCredentialUser))
    (r : Resolver) (draw : Draw) (state : ResolverState) (locator : AccessLocator) :
    resolveThrough r draw state input locator m.access
      = resolveThrough r draw state input locator m.only := by
  have hpermitted : ∀ explicit container default,
      containerPermitted r input m.access explicit container default
        = containerPermitted r input m.only explicit container default := by
    intro explicit container default
    unfold containerPermitted
    rw [hfind]
    rfl
  have hbind : ∀ state locator pod connectionKey,
      bindSelection r state input locator m.access pod connectionKey
        = bindSelection r state input locator m.only pod connectionKey := by
    intro state locator pod connectionKey
    unfold bindSelection
    simp only [hpermitted]
  unfold resolveThrough resolvePod
  simp only [hbind]
  rfl

/-- Two entries: `alice` may open a shell, `bob` only use SFTP. -/
def twoUsers (second : GoString) : AccessSpec where
  credentials :=
    [{ username := str "alice", passwords := [str "red"] },
     { username := second, passwords := [str "blue"], capabilities := { allow := [.sftp] } }]

/-- The match of the second entry. -/
def secondEntry (second : GoString) : CredentialMatch :=
  ⟨boxAccess (twoUsers second), ⟨1, Nat.one_lt_two⟩⟩

end KubeSsh.AccessPolicy

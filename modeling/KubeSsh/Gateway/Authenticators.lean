import KubeSsh.AccessPolicy.Credentials
import KubeSsh.Gateway.ProvenIdentity

/-!
# `pkg/authn`: the authenticators of a gateway

`buildAuthenticator` puts the configured authenticators in a chain: authorized keys, passwords, the
Access policy, the webhook and anonymous logins. The chain asks them in this order and goes on only
after `ErrNotProvided`. The texts that authenticators wrap around `ErrNotProvided` are dropped by
the chain and left out here; the webhook's HTTP exchange is a parameter.
-/

namespace KubeSsh.Authn

open CryptoSsh Target

/-! ## Chains -/

/-- `SSHAuthenticator`. -/
structure SSHAuthenticator (PublicKey : Type) where
  authenticateBasic : GoString → GoString → Except AuthnError AuthenticateInfo
  authenticatePublicKey : GoString → PublicKey → Except AuthnError AuthenticateInfo

/-- What a client presents. -/
inductive Credential (PublicKey : Type)
  | password (value : GoString)
  | publicKey (key : PublicKey)

/-- The call that is made for a credential. -/
def SSHAuthenticator.authenticate {PublicKey : Type} (a : SSHAuthenticator PublicKey)
    (username : GoString) : Credential PublicKey → Except AuthnError AuthenticateInfo
  | .password value => a.authenticateBasic username value
  | .publicKey key => a.authenticatePublicKey username key

section Chain

variable {PublicKey : Type} {ask : SSHAuthenticator PublicKey → Except AuthnError AuthenticateInfo}
  {authenticators : List (SSHAuthenticator PublicKey)} {info : AuthenticateInfo}

/-- The loop of both methods of `Chain` (`chain.go:20-29`, `34-43`). -/
def chainAuthenticate (ask : SSHAuthenticator PublicKey → Except AuthnError AuthenticateInfo) :
    List (SSHAuthenticator PublicKey) → Except AuthnError AuthenticateInfo
  | [] => .error .notProvided
  | authenticator :: rest =>
    match ask authenticator with
    | .error .notProvided => chainAuthenticate ask rest
    | answer => answer

/-- `NewChain`. -/
def newChain (authenticators : List (SSHAuthenticator PublicKey)) : SSHAuthenticator PublicKey where
  authenticateBasic username password :=
    chainAuthenticate (·.authenticateBasic username password) authenticators
  authenticatePublicKey username key :=
    chainAuthenticate (·.authenticatePublicKey username key) authenticators

theorem newChain_authenticate (username : GoString) (credential : Credential PublicKey) :
    (newChain authenticators).authenticate username credential
      = chainAuthenticate (·.authenticate username credential) authenticators := by
  cases credential <;> rfl

/-- The head of a chain answers, or it does not provide a login and the others are asked. -/
theorem chainAuthenticate_cons_eq_ok {authenticator : SSHAuthenticator PublicKey}
    (h : chainAuthenticate ask (authenticator :: authenticators) = .ok info) :
    ask authenticator = .ok info ∨
      ask authenticator = .error .notProvided ∧ chainAuthenticate ask authenticators = .ok info := by
  unfold chainAuthenticate at h
  split at h
  · rename_i hask
    exact Or.inr ⟨hask, h⟩
  · exact Or.inl h

end Chain

/-! ## Static credentials -/

/-- `AuthorizedKeyEntry`. -/
structure AuthorizedKeyEntry where
  subject : GoString
  publicKey : GoString
  groups : List GoString := []

/-- `PasswordEntry`. -/
structure PasswordEntry where
  subject : GoString
  password : GoString
  groups : List GoString := []

/-- The identity of a static entry (`password.go:28-35`, `publickey.go:30-37`). -/
def subjectInfo (subject : GoString) (groups : List GoString) (method : String) : AuthenticateInfo where
  user := { name := subject, email := subject, groups }
  method := str method

/-- `passwordEntry`: the constructor refuses entries without a subject or a password. -/
structure ParsedPassword where
  entry : PasswordEntry
  complete : entry.subject ≠ [] ∧ entry.password ≠ []

/-- `NewStaticPasswordAuthenticator` (`password.go:21-40`). -/
def newStaticPasswordAuthenticator : List PasswordEntry → Except Message (List ParsedPassword)
  | [] => .ok []
  | e :: entries =>
    if h : e.subject = [] ∨ e.password = [] then
      .error (.text "password entry requires subject and password")
    else (newStaticPasswordAuthenticator entries).map (⟨e, not_or.mp h⟩ :: ·)

/-- `StaticPasswordAuthenticator` (`password.go:42-53`). -/
def staticPassword {PublicKey : Type} (entries : List ParsedPassword) : SSHAuthenticator PublicKey where
  authenticateBasic _ password :=
    match entries.find? fun e => e.entry.password = password with
    | some e => .ok (subjectInfo e.entry.subject e.entry.groups "password")
    | none => .error .notProvided
  authenticatePublicKey _ _ := .error .notProvided

/-- The texts of public keys: `PublicKey.Marshal`, the trimmed line of `MarshalAuthorizedKey`, and
the error of `ParseAuthorizedKey` for a line that has no key. -/
structure KeyTexts (keys : Keys) where
  marshal : keys.PublicKey → GoString
  authorizedKey : keys.PublicKey → GoString
  parseError : GoString → Message := fun _ => []

/-- `authorizedEntry`, with the key its line was parsed to. -/
structure AuthorizedEntry (keys : Keys) where
  entry : AuthorizedKeyEntry
  key : keys.PublicKey
  parsed : keys.parseAuthorizedKey entry.publicKey = some key

/-- `NewStaticPublicKeyAuthenticator` (`publickey.go:22-42`). -/
def newStaticPublicKeyAuthenticator {keys : Keys} (texts : KeyTexts keys) :
    List AuthorizedKeyEntry → Except Message (List (AuthorizedEntry keys))
  | [] => .ok []
  | e :: entries =>
    match h : keys.parseAuthorizedKey e.publicKey with
    | none => .error ([.bytes (str "parse authorized key for "), .quoted e.subject, .bytes (str ": ")] ++
        texts.parseError e.publicKey)
    | some key => (newStaticPublicKeyAuthenticator texts entries).map (⟨e, key, h⟩ :: ·)

/-- `StaticPublicKeyAuthenticator` (`publickey.go:45-57`). -/
def staticPublicKey {keys : Keys} (texts : KeyTexts keys) (entries : List (AuthorizedEntry keys)) :
    SSHAuthenticator keys.PublicKey where
  authenticateBasic _ _ := .error .notProvided
  authenticatePublicKey _ key :=
    match entries.find? fun e => texts.marshal e.key = texts.marshal key with
    | some e => .ok (subjectInfo e.entry.subject e.entry.groups "publickey")
    | none => .error .notProvided

/-! ## Anonymous logins and the Access policy -/

/-- `anonymousInfo` (`anonymous.go:22-27`). -/
def anonymousInfo : AuthenticateInfo where
  user := { name := str "anonymous" }
  method := str "anonymous"

/-- `Anonymous`. -/
def anonymous {PublicKey : Type} : SSHAuthenticator PublicKey where
  authenticateBasic _ _ := .ok anonymousInfo
  authenticatePublicKey _ _ := .ok anonymousInfo

/-- `accesspolicy.Authenticator` over a cache (`access_policy_runtime.go:158`). -/
def accessAuthenticator (keys : Keys) (cache : AccessPolicy.PolicyCache) :
    SSHAuthenticator keys.PublicKey where
  authenticateBasic username password := AccessPolicy.authenticateBasic (some cache) username password
  authenticatePublicKey username key :=
    AccessPolicy.authenticatePublicKey keys (some cache) username (some key)

/-! ## The webhook -/

/-- `WebhookAuthenticateRequest`. -/
structure WebhookAuthenticateRequest where
  type : GoString
  sshUser : GoString
  password : Option GoString := none
  /-- The key as a line, and its fingerprint. -/
  publicKey : Option (GoString × GoString) := none

/-- `WebhookTargetHint`. -/
structure WebhookTargetHint where
  kind : GoString
  options : List TargetOption
  extra : GoMap (List GoString) := ∅

/-- `WebhookAuthenticateResponse`. -/
structure WebhookAuthenticateResponse where
  authenticated : Bool := false
  user : UserInfo := {}
  method : GoString := []
  targetHints : List WebhookTargetHint := []
  reason : GoString := []
  error : GoString := []

/-- `targetHintsFromWebhook` (`webhook.go:116-126`). -/
def targetHintsFromWebhook (values : List WebhookTargetHint) : List Hint :=
  values.map fun value =>
    { kind := value.kind, options := value.options, aliases := (value.extra.lookup (str "aliases")).getD [] }

/-- The identity of a response (`webhook.go:105-113`). -/
def WebhookAuthenticateResponse.info (resp : WebhookAuthenticateResponse) : AuthenticateInfo where
  user := resp.user
  method := if resp.method = [] then str "webhook" else resp.method
  targetHints := targetHintsFromWebhook resp.targetHints

/-- `WebhookAuthenticator.client.Post`. -/
abbrev Post := WebhookAuthenticateRequest → Except Message WebhookAuthenticateResponse

/-- `WebhookAuthenticator.authenticate` (`webhook.go:88-114`). -/
def webhookAuthenticate (post : Post) (req : WebhookAuthenticateRequest) :
    Except AuthnError AuthenticateInfo :=
  match post req with
  | .error err => .error (.other err)
  | .ok resp =>
    if resp.error ≠ [] then
      .error (.other (.text "webhook authentication error: " ++ .ofString resp.error))
    else if ¬ resp.authenticated then
      .error (.other (.ofString
        (if resp.reason = [] then str "webhook authentication rejected" else resp.reason)))
    else if resp.user.name = [] then
      .error (.other (.text "webhook authentication response requires user.name"))
    else .ok resp.info

/-- What is posted for a credential (`webhook.go:67-86`). -/
def webhookRequest {keys : Keys} (texts : KeyTexts keys) (username : GoString) :
    Credential keys.PublicKey → WebhookAuthenticateRequest
  | .password value => { type := str "password", sshUser := username, password := some value }
  | .publicKey key =>
    { type := str "publickey", sshUser := username
      publicKey := some (texts.authorizedKey key, keys.fingerprintSHA256 key) }

/-- `WebhookAuthenticator`. -/
def webhookAuthenticator {keys : Keys} (texts : KeyTexts keys) (post : Post) :
    SSHAuthenticator keys.PublicKey where
  authenticateBasic username password := webhookAuthenticate post (webhookRequest texts username (.password password))
  authenticatePublicKey username key := webhookAuthenticate post (webhookRequest texts username (.publicKey key))

/-- The webhook decides: it never leaves a login to another authenticator. -/
theorem webhookAuthenticate_ne_notProvided (post : Post) (req : WebhookAuthenticateRequest) :
    webhookAuthenticate post req ≠ .error .notProvided := by
  unfold webhookAuthenticate
  split
  · simp
  · split_ifs <;> simp

theorem webhookAuthenticate_eq_ok {post : Post} {req : WebhookAuthenticateRequest}
    {info : AuthenticateInfo} (h : webhookAuthenticate post req = .ok info) :
    ∃ resp, post req = .ok resp ∧ resp.error = [] ∧ resp.authenticated = true ∧ resp.user.name ≠ []
      ∧ info = resp.info := by
  unfold webhookAuthenticate at h
  split at h
  · cases h
  rename_i resp hresp
  split_ifs at h with herror hauthenticated hname
  exact ⟨resp, hresp, not_not.mp herror, by simpa using hauthenticated, hname, (Except.ok.inj h).symm⟩

end KubeSsh.Authn

namespace KubeSsh.Gateway

open Authn CryptoSsh

/-- The part of `AuthenticationOptions` that builds authenticators; `webhook` is
`Webhook.Enabled()`. -/
structure AuthenticationOptions where
  anonymous : Bool := false
  authorizedKeys : List AuthorizedKeyEntry := []
  passwords : List PasswordEntry := []
  webhook : Bool := false

variable {keys : Keys} (texts : KeyTexts keys) (opts : AuthenticationOptions)
  (access : Option AccessPolicy.PolicyCache) (webhook : Except Message Post)

/-- The webhook, if it is configured (`dependencies.go:209-215`); `NewWebhookAuthenticator` may
fail. -/
def remoteAuthenticators : Except Message (List (SSHAuthenticator keys.PublicKey)) :=
  if opts.webhook then webhook.map fun post => [webhookAuthenticator texts post] else .ok []

/-- `buildAuthenticator` (`dependencies.go:194-220`). -/
def buildAuthenticator : Except Message (SSHAuthenticator keys.PublicKey) := do
  let authorized ← newStaticPublicKeyAuthenticator texts opts.authorizedKeys
  let passwords ← newStaticPasswordAuthenticator opts.passwords
  let remote ← remoteAuthenticators texts opts webhook
  return newChain (staticPublicKey texts authorized :: staticPassword passwords ::
    ((access.map (accessAuthenticator keys)).toList ++ remote ++
      if opts.anonymous then [anonymous] else []))

/-! ## Who a login makes the caller -/

/-- The credential is not a key with an authorized line. -/
def Unauthorized (credential : Credential keys.PublicKey) : Prop :=
  ∀ entry ∈ opts.authorizedKeys, ∀ parsed, keys.parseAuthorizedKey entry.publicKey = some parsed →
    ∀ key, credential = .publicKey key → texts.marshal parsed ≠ texts.marshal key

/-- What stands behind a login, and the identity it gives. -/
inductive Proven (username : GoString) : Credential keys.PublicKey → AuthenticateInfo → Prop
  /-- The key is that of an authorized line. -/
  | authorizedKey {entry : AuthorizedKeyEntry} {parsed key : keys.PublicKey}
      (hentry : entry ∈ opts.authorizedKeys) (hparsed : keys.parseAuthorizedKey entry.publicKey = some parsed)
      (hkey : texts.marshal parsed = texts.marshal key) :
      Proven username (.publicKey key) (subjectInfo entry.subject entry.groups "publickey")
  /-- The password is that of an entry, and not empty. -/
  | password {entry : PasswordEntry} (hentry : entry ∈ opts.passwords) (hne : entry.password ≠ []) :
      Proven username (.password entry.password) (subjectInfo entry.subject entry.groups "password")
  /-- It is the password or the key of one entry of the Access that the user name locates. -/
  | accessPassword {cache : AccessPolicy.PolicyCache} {value : GoString} {m : AccessPolicy.CredentialMatch}
      (hcache : access = some cache) (hmatch : cache.matchPassword username value = .ok m) :
      Proven username (.password value)
        (AccessPolicy.authenticateInfo (str "crd-password") AccessPolicy.credentialTypePassword m)
  | accessKey {cache : AccessPolicy.PolicyCache} {key : keys.PublicKey} {m : AccessPolicy.CredentialMatch}
      (hcache : access = some cache) (hmatch : cache.matchPublicKey keys username (some key) = .ok m) :
      Proven username (.publicKey key)
        (AccessPolicy.authenticateInfo (str "crd-publickey") AccessPolicy.credentialTypePublicKey m)
  /-- The webhook vouches for a user with a name. -/
  | webhook {post : Post} {credential : Credential keys.PublicKey} {resp : WebhookAuthenticateResponse}
      (henabled : opts.webhook = true) (hwebhook : webhook = .ok post)
      (hresp : post (webhookRequest texts username credential) = .ok resp) (herror : resp.error = [])
      (hauthenticated : resp.authenticated = true) (hname : resp.user.name ≠ []) :
      Proven username credential resp.info
  /-- Anonymous logins are on, there is no webhook, and no password or key of the gateway is
  presented. -/
  | anonymous {credential : Credential keys.PublicKey} (henabled : opts.anonymous = true)
      (hwebhook : opts.webhook = false) (hkey : Unauthorized texts opts credential)
      (hpassword : ∀ entry ∈ opts.passwords, credential ≠ .password entry.password)
      (haccess : ∀ cache ∈ access, (accessAuthenticator keys cache).authenticate username credential
        = .error .notProvided) :
      Proven username credential anonymousInfo

section Static

variable {texts opts access webhook} {username : GoString} {credential : Credential keys.PublicKey}
  {info : AuthenticateInfo}

variable {parsed : List ParsedPassword}

theorem entries_of_newStaticPassword {entries : List PasswordEntry}
    (h : newStaticPasswordAuthenticator entries = .ok parsed) : parsed.map (·.entry) = entries := by
  induction entries generalizing parsed with
  | nil =>
    obtain rfl := Except.ok.inj h
    rfl
  | cons e entries ih =>
    unfold newStaticPasswordAuthenticator at h
    split at h
    · cases h
    obtain ⟨rest, hrest, rfl⟩ := map_eq_ok_iff.mp h
    rw [List.map_cons, ih hrest]

theorem entries_of_newStaticPublicKey {entries : List AuthorizedKeyEntry}
    {parsed : List (AuthorizedEntry keys)}
    (h : newStaticPublicKeyAuthenticator texts entries = .ok parsed) :
    parsed.map (·.entry) = entries := by
  induction entries generalizing parsed with
  | nil =>
    obtain rfl := Except.ok.inj h
    rfl
  | cons e entries ih =>
    unfold newStaticPublicKeyAuthenticator at h
    split at h
    · cases h
    obtain ⟨rest, hrest, rfl⟩ := map_eq_ok_iff.mp h
    rw [List.map_cons, ih hrest]

/-- A password that is accepted is that of an entry. -/
theorem proven_of_staticPassword (hparsed : parsed.map (·.entry) = opts.passwords)
    (h : (staticPassword parsed).authenticate username credential = .ok info) :
    Proven texts opts access webhook username credential info := by
  cases credential with
  | publicKey key => cases h
  | password value =>
    unfold SSHAuthenticator.authenticate staticPassword at h
    dsimp only at h
    split at h
    · rename_i e hfind
      obtain rfl := Except.ok.inj h
      obtain rfl : e.entry.password = value := by simpa using List.find?_some hfind
      exact .password (hparsed ▸ List.mem_map_of_mem (List.mem_of_find?_eq_some hfind)) e.complete.2
    · cases h

/-- A password that is not accepted is that of no entry. -/
theorem unmatched_of_staticPassword (hparsed : parsed.map (·.entry) = opts.passwords)
    (h : (staticPassword parsed).authenticate username credential = .error .notProvided) :
    ∀ entry ∈ opts.passwords, credential ≠ .password entry.password := by
  rintro entry hentry rfl
  rw [← hparsed] at hentry
  obtain ⟨e, he, rfl⟩ := List.mem_map.mp hentry
  obtain ⟨e', hfind⟩ : ∃ e', parsed.find? (fun e' => e'.entry.password = e.entry.password) = some e' :=
    Option.isSome_iff_exists.mp (List.find?_isSome.mpr ⟨e, he, by simp⟩)
  unfold SSHAuthenticator.authenticate staticPassword at h
  dsimp only at h
  rw [hfind] at h
  cases h

theorem proven_of_staticPublicKey {parsed : List (AuthorizedEntry keys)}
    (hparsed : parsed.map (·.entry) = opts.authorizedKeys)
    (h : (staticPublicKey texts parsed).authenticate username credential = .ok info) :
    Proven texts opts access webhook username credential info := by
  cases credential with
  | password value => cases h
  | publicKey key =>
    unfold SSHAuthenticator.authenticate staticPublicKey at h
    dsimp only at h
    split at h
    · rename_i e hfind
      obtain rfl := Except.ok.inj h
      exact .authorizedKey (hparsed ▸ List.mem_map_of_mem (List.mem_of_find?_eq_some hfind))
        e.parsed (by simpa using List.find?_some hfind)
    · cases h

theorem unauthorized_of_staticPublicKey {parsed : List (AuthorizedEntry keys)}
    (hparsed : parsed.map (·.entry) = opts.authorizedKeys)
    (h : (staticPublicKey texts parsed).authenticate username credential = .error .notProvided) :
    Unauthorized texts opts credential := by
  rintro entry hentry line hline key rfl hmarshal
  rw [← hparsed] at hentry
  obtain ⟨e, he, rfl⟩ := List.mem_map.mp hentry
  obtain rfl : e.key = line := Option.some.inj (e.parsed.symm.trans hline)
  obtain ⟨e', hfind⟩ : ∃ e', parsed.find? (fun e => texts.marshal e.key = texts.marshal key) = some e' :=
    Option.isSome_iff_exists.mp (List.find?_isSome.mpr ⟨e, he, decide_eq_true hmarshal⟩)
  unfold SSHAuthenticator.authenticate staticPublicKey at h
  dsimp only at h
  rw [hfind] at h
  cases h

theorem proven_of_access {cache : AccessPolicy.PolicyCache} (hcache : access = some cache)
    (h : (accessAuthenticator keys cache).authenticate username credential = .ok info) :
    Proven texts opts access webhook username credential info := by
  cases credential with
  | password value =>
    obtain ⟨m, hm, rfl⟩ := map_eq_ok_iff.mp h
    exact .accessPassword hcache hm
  | publicKey key =>
    obtain ⟨m, hm, rfl⟩ := map_eq_ok_iff.mp h
    exact .accessKey hcache hm

theorem webhookAuthenticator_authenticate (texts : KeyTexts keys) (post : Post)
    (username : GoString) (credential : Credential keys.PublicKey) :
    (webhookAuthenticator texts post).authenticate username credential
      = webhookAuthenticate post (webhookRequest texts username credential) := by
  cases credential <;> rfl

/-- The authenticators behind the Access policy: the webhook, which always decides, or anonymous
logins. -/
theorem proven_of_remote {remote : List (SSHAuthenticator keys.PublicKey)}
    (hremote : remoteAuthenticators texts opts webhook = .ok remote)
    (hkey : Unauthorized texts opts credential)
    (hpassword : ∀ entry ∈ opts.passwords, credential ≠ .password entry.password)
    (haccess : ∀ cache ∈ access, (accessAuthenticator keys cache).authenticate username credential
      = .error .notProvided)
    (h : chainAuthenticate (·.authenticate username credential)
      (remote ++ if opts.anonymous then [anonymous] else []) = .ok info) :
    Proven texts opts access webhook username credential info := by
  unfold remoteAuthenticators at hremote
  split_ifs at hremote with hwebhook
  · obtain ⟨post, hpost, rfl⟩ := map_eq_ok_iff.mp hremote
    have hanswer := webhookAuthenticator_authenticate texts post username credential
    rcases chainAuthenticate_cons_eq_ok h with h | ⟨h, -⟩
    · rw [hanswer] at h
      obtain ⟨resp, hresp, herror, hauthenticated, hname, rfl⟩ := webhookAuthenticate_eq_ok h
      exact .webhook hwebhook hpost hresp herror hauthenticated hname
    · exact absurd (hanswer.symm.trans h) (webhookAuthenticate_ne_notProvided _ _)
  · obtain rfl := Except.ok.inj hremote
    split_ifs at h with hanonymous
    · obtain rfl : anonymousInfo = info := by
        cases credential <;> exact Except.ok.inj h
      exact .anonymous hanonymous (by simpa using hwebhook) hkey hpassword haccess
    · cases h

end Static

/-- Every login that the built authenticator accepts is proven: by a configured key or password, by
an entry of the Access that the user name locates, or by the webhook. An anonymous identity is only
given if that is enabled, there is no webhook, and nothing that was presented is known to the
others. -/
theorem login_proven {authenticator : SSHAuthenticator keys.PublicKey} {username : GoString}
    {credential : Credential keys.PublicKey} {info : AuthenticateInfo}
    (hbuild : buildAuthenticator texts opts access webhook = .ok authenticator)
    (hlogin : authenticator.authenticate username credential = .ok info) :
    Proven texts opts access webhook username credential info := by
  obtain ⟨authorized, hauthorized, hbuild⟩ := bind_eq_ok_iff.mp hbuild
  obtain ⟨passwords, hpasswords, hbuild⟩ := bind_eq_ok_iff.mp hbuild
  obtain ⟨remote, hremote, hbuild⟩ := bind_eq_ok_iff.mp hbuild
  obtain rfl := Except.ok.inj hbuild
  have hlines := entries_of_newStaticPublicKey hauthorized
  have hentries := entries_of_newStaticPassword hpasswords
  rw [newChain_authenticate] at hlogin
  -- the authenticators in the order of the chain
  rcases chainAuthenticate_cons_eq_ok hlogin with h | ⟨h, hlogin⟩
  · exact proven_of_staticPublicKey hlines h
  have hkey := unauthorized_of_staticPublicKey hlines h
  rcases chainAuthenticate_cons_eq_ok hlogin with h | ⟨h, hlogin⟩
  · exact proven_of_staticPassword hentries h
  have hpassword := unmatched_of_staticPassword hentries h
  cases access with
  | none => exact proven_of_remote hremote hkey hpassword (fun _ hmem => by cases hmem) hlogin
  | some cache =>
    rcases chainAuthenticate_cons_eq_ok hlogin with h | ⟨h, hlogin⟩
    · exact proven_of_access rfl h
    · refine proven_of_remote hremote hkey hpassword (fun cache' hcache' => ?_) hlogin
      rw [← Option.some.inj hcache']
      exact h

/-! ## Connections -/

open Authentication (Config History)

/-- What the client of a connection has proven to have in its current attempt. -/
def Presented (before : History keys) (user : GoString) : Credential keys.PublicKey → Prop
  | .password value => ∃ earlier since, Authentication.At before earlier (.password user value) since
  | .publicKey key => ∃ earlier since, Authentication.At before earlier (.signed user key .verified) since

/-- The question whether a credential authenticates a user, with its answer. -/
def question (user : GoString) (answer : Except AuthnError AuthenticateInfo) :
    Credential keys.PublicKey → Event (Authentication.interface keys.PublicKey)
  | .password value => ⟨.authenticateBasic user value, answer⟩
  | .publicKey key => ⟨.authenticatePublicKey user key, answer⟩

/-- The connection asks the authenticator that the options build. The Access policy and the webhook
may change between two questions: `world` has their state at each event. -/
def Asks (world : ℕ → Option AccessPolicy.PolicyCache × Except Message Post)
    (before : History keys) : Prop :=
  ∀ n user answer credential, before[n]? = some (question user answer credential) →
    ∃ authenticator, buildAuthenticator texts opts (world n).1 (world n).2 = .ok authenticator ∧
      answer = authenticator.authenticate user credential

/-- Every identity that a gateway publishes for a connection is the answer to a question of its run,
about the user name that it stores and a password or a verified key that the client presents in its
current attempt, and it is proven by the Access policy and the webhook as they were at that
question. -/
theorem published_login_proven [DecidableEq keys.PublicKey] (config : Config)
    {trace : List (ℕ × Event (Authentication.interface keys.PublicKey))} {c : (config.system keys).Config}
    (hrun : (config.system keys).Run (config.connection keys) trace c) {before rest : History keys}
    {connection : AuthenticatedConnection}
    (hevents : System.eventsOf 0 trace = before ++ ⟨.publishAuthenticated connection, ()⟩ :: rest)
    {world : ℕ → Option AccessPolicy.PolicyCache × Except Message Post}
    (hasks : Asks texts opts world before) :
    ∃ n credential,
      before[n]? = some (question (Authentication.storedUser before) (.ok connection.info) credential) ∧
      Presented before (Authentication.storedUser before) credential ∧
      Proven texts opts (world n).1 (world n).2 (Authentication.storedUser before) credential
        connection.info := by
  have haccepts : (Authentication.identity keys).Accepts {} (System.eventsOf 0 trace) :=
    hrun.accepts_of_follows (Authentication.system_follows config) (fun task htask => by
      rw [List.mem_singleton.mp htask]
      exact Authentication.ready_start) 0
  have hproven := (Authentication.reflects_after before).proven (haccepts before _ rest hevents)
  -- whatever was presented, its question is an event of the run
  suffices hasked : ∃ credential, question (Authentication.storedUser before) (.ok connection.info)
      credential ∈ before ∧ Presented before (Authentication.storedUser before) credential by
    obtain ⟨credential, hmem, hpresented⟩ := hasked
    obtain ⟨n, hn⟩ := List.mem_iff_getElem?.mp hmem
    obtain ⟨authenticator, hbuild, hlogin⟩ := hasks n _ _ credential hn
    exact ⟨n, credential, hn, hpresented, login_proven _ _ _ _ hbuild hlogin.symm⟩
  generalize connection.fingerprint = fingerprint at hproven
  cases hproven with
  | @password _ since value hat hanswer =>
    have hsince : ∀ event ∈ since, event ∈ before := fun event hmem => by
      rw [hat.split]
      exact List.mem_append_right _ (List.mem_cons_of_mem _ hmem)
    exact ⟨.password value, hsince _ hanswer, _, _, hat⟩
  | publicKey hat hanswer => exact ⟨.publicKey _, hanswer, _, _, hat⟩

/-- A gateway with one password, which the client `bob` presents. -/
theorem published_login_proven_password :
    let opts : AuthenticationOptions := { passwords := [{ subject := str "alice", password := str "red" }] }
    let info := subjectInfo (str "alice") [] "password"
    ∃ trace c before connection, (Authentication.bothMethods.system plainKeys).Run
        (Authentication.bothMethods.connection plainKeys) trace c ∧
      System.eventsOf 0 trace = before ++ [⟨.publishAuthenticated connection, ()⟩] ∧
      connection.info = info ∧ ∃ (n : ℕ) (credential : Credential plainKeys.PublicKey),
        before[n]? = some (question (str "bob") (.ok info) credential) ∧
        Presented before (str "bob") credential ∧
        @Proven plainKeys ⟨id, id, fun _ => []⟩ opts none (.error []) (str "bob") credential info := by
  intro opts
  let config := Authentication.bothMethods
  let info := subjectInfo (str "alice") [] "password"
  let tgt : Target := ⟨Target.kindExternalSSH, [], ∅⟩
  let policy : EffectiveSessionPolicy := ⟨[], [], [], false, 0, 0⟩
  have h0 : (config.system plainKeys).Run (config.connection plainKeys) [] (config.connection plainKeys) :=
    .start
  have h1 := h0.perform 0 rfl (some (.none (str "bob"))) rfl
  have h2 := h1.perform 0 rfl () rfl
  have h3 : (config.system plainKeys).Run _ _
    ⟨(), [config.iteration plainKeys Authentication.askedMethods]⟩ := h2.resume 0 rfl
  have h4 := h3.perform 0 rfl (some (.password (str "bob") (str "red"))) rfl
  have h5 : (config.system plainKeys).Run _ _ ⟨(), [_]⟩ := h4.perform 0 rfl (.ok info) rfl
  have h6 := h5.perform 0 rfl () rfl
  have h7 := h6.perform 0 rfl (.ok tgt) rfl
  have h8 := h7.perform 0 rfl () rfl
  have h9 := h8.perform 0 rfl (.ok policy) rfl
  have h10 := h9.perform 0 rfl () rfl
  have h11 := h10.perform 0 rfl (.ok (.sshproxy tgt policy)) rfl
  have h12 := h11.perform 0 rfl () rfl
  refine ⟨_, _, _, _, h12, System.eventsOf_concat_self 0 _ _, rfl,
    @published_login_proven plainKeys ⟨id, id, fun _ => []⟩ opts _ config _ _ h12 _ _ _
      (System.eventsOf_concat_self 0 _ _) (fun _ => (none, .error [])) ?_⟩
  intro n user answer credential hn
  refine ⟨newChain [staticPublicKey ⟨id, id, fun _ => []⟩ [], staticPassword
    [⟨{ subject := str "alice", password := str "red" }, by decide⟩]], rfl, ?_⟩
  have hmem := List.mem_of_getElem? hn
  change _ ∈ [_, _, _, _, _, _, _, _, _, _] at hmem
  simp only [List.mem_cons, List.not_mem_nil, or_false] at hmem
  cases credential with
  | password value =>
    rcases hmem with h | h | h | h | h | h | h | h | h | h <;> cases h
    rfl
  | publicKey key => rcases hmem with h | h | h | h | h | h | h | h | h | h <;> cases h

end KubeSsh.Gateway

import KubeSsh.Authz.Basic
import KubeSsh.Common.HostPort
import KubeSsh.Common.Strconv

/-!
# `pkg/gateway`: policy options

The part of `Options` that decides what a connection may do: the default rules, which an Access may
replace, and the limits, which bind everyone. `validatePolicyOptions_eq_ok_iff` says which options
pass their validation, in whatever order the source visits its maps, and
`validatePolicyOptions_newDefaultOptions` that the built-in defaults do.
-/

namespace KubeSsh.Gateway

open Authz Strings

/-- `PolicyRuleOptions` (`options.go:58-68`). Durations are in nanoseconds. -/
structure PolicyRuleOptions where
  containerMode : GoString := []
  capabilities : List GoString := []
  envAllowlist : List GoString := []
  localForwardDestinations : List GoString := []
  remoteForwardBinds : List GoString := []
  defaultShell : GoString := []
  shells : List GoString := []
  idleTimeout : ℤ := 0
  maxDuration : ℤ := 0

/-- `PolicyOptions`. -/
structure PolicyOptions where
  defaults : PolicyRuleOptions := {}
  limits : PolicyRuleOptions := {}

/-- `AuthorizationOptions`; `webhook` is `Webhook.Enabled()`. -/
structure AuthorizationOptions where
  allowAll : Bool := false
  kubernetesSAR : Bool := false
  webhook : Bool := false

/-- The part of `Options` that policy decisions and their validation read. -/
structure Options where
  gatewayClassName : GoString := []
  advertiseAddresses : List GoString := []
  policy : PolicyOptions := {}
  authorization : AuthorizationOptions := {}

/-- `NewDefaultOptions` (`options.go:109-148`). -/
def newDefaultOptions : Options where
  authorization := { allowAll := true }
  policy :=
    { defaults :=
        { containerMode := str "KubernetesDefault"
          capabilities := [str "shell", str "exec", str "scp", str "sftp", str "local_forward",
            str "remote_forward", str "agent_forward"]
          envAllowlist := [str "*"]
          localForwardDestinations := [str "*"]
          remoteForwardBinds := [str "*"]
          defaultShell := str "/bin/sh" }
      limits :=
        { containerMode := str "All"
          capabilities := [str "*"]
          envAllowlist := [str "*"]
          localForwardDestinations := [str "*"]
          remoteForwardBinds := [str "*"]
          shells := [str "*"] } }

/-- `parseCapabilities` (`dependencies.go:335-349`). -/
def parseCapabilities : List GoString → Except Message (List Capability)
  | [] => .ok []
  | value :: values =>
    if value = str "*" then (parseCapabilities values).map (Capability.ofString value :: ·)
    else match Capability.parse value with
      | .error err => .error err
      | .ok capability => (parseCapabilities values).map (capability :: ·)

/-- A list that parses is converted entry by entry. -/
theorem parseCapabilities_eq_ok {values : List GoString} {capabilities : List Capability}
    (h : parseCapabilities values = .ok capabilities) :
    capabilities = values.map Capability.ofString := by
  induction values generalizing capabilities with
  | nil =>
    obtain rfl := Except.ok.inj h
    rfl
  | cons value values ih =>
    unfold parseCapabilities at h
    cases hrest : parseCapabilities values with
    | error err =>
      rw [hrest] at h
      split at h
      · cases h
      · split at h
        · cases h
        · cases h
    | ok rest =>
      rw [hrest] at h
      rw [List.map_cons, ← ih hrest]
      split at h
      · exact (Except.ok.inj h).symm
      · split at h
        · cases h
        · rename_i capability hc
          rw [← Capability.parse_eq_ok hc]
          exact (Except.ok.inj h).symm

/-- The modes a policy may name (`dependencies.go:147`). -/
def containerModes : List GoString := [str "KubernetesDefault", str "All", str "None"]

/-- The check of one rule's container mode (`dependencies.go:146-150`). -/
def validateContainerMode (name mode : GoString) : Except Message Unit :=
  if mode ∈ containerModes then .ok ()
  else .error [.bytes (str "policy "), .bytes name, .bytes (str " container mode "), .quoted mode,
    .bytes (str " is invalid")]

/-- The check of one list of forward expressions (`dependencies.go:157-164`). -/
def validateForwardExpressions (name : GoString) : List GoString → Except Message Unit
  | [] => .ok ()
  | expression :: rest =>
    if expression = str "*" ∨ expression = str "*:*" then validateForwardExpressions name rest
    else match splitHostPort expression with
      | .error err => .error ([.bytes (str "policy "), .bytes name, .bytes (str " expression "),
          .quoted expression, .bytes (str " is invalid: ")] ++ err.message expression)
      | .ok _ => validateForwardExpressions name rest

/-- What the libraries say about host names: the problems that `validation.IsDNS1123Subdomain`
reports, and whether `net.ParseIP` accepts the text. -/
structure HostNames where
  subdomainProblems : GoString → List GoString
  isIP : GoString → Bool

/-- The check of the gateway class (`dependencies.go:136-140`). -/
def validateGatewayClassName (names : HostNames) (className : GoString) : Except Message Unit :=
  if className ≠ [] ∧ names.subdomainProblems className ≠ [] then
    .error [.bytes (str "gateway class name "), .quoted className, .bytes (str " is invalid: "),
      .bytes ((str ", ").intercalate (names.subdomainProblems className))]
  else .ok ()

/-- `nodeIPPlaceholder` (`dependencies.go:30`). -/
def nodeIPPlaceholder : GoString := str "\x7bNodeIP\x7d"

/-- The checks of one address (`dependencies.go:172-184`). -/
def advertisedAddress (names : HostNames) (value : GoString) : Except Message GoString :=
  let invalid (problem : GoString) : Message :=
    [.bytes (str "advertise address "), .quoted value, .bytes problem]
  match splitHostPort (trimSpace value) with
  | .error _ => .error (invalid (str " must use host:port form"))
  | .ok (host, rawPort) =>
    if host = [] then .error (invalid (str " must use host:port form"))
    else if host ≠ nodeIPPlaceholder ∧ ¬ names.isIP host ∧ names.subdomainProblems host ≠ [] then
      .error (invalid (str " has invalid host: " ++
        (str ", ").intercalate (names.subdomainProblems host)))
    else match Strconv.parseInt 10 64 rawPort with
      | .error _ => .error (invalid (str " has invalid port"))
      | .ok port =>
        if port < 1 ∨ 65535 < port then .error (invalid (str " has invalid port"))
        else .ok (trimSpace value)

/-- `advertisedAccessEndpoints` (`dependencies.go:168-192`), with the addresses seen so far. -/
def advertisedAccessEndpoints (names : HostNames) (seen : List GoString) :
    List GoString → Except Message (List GoString)
  | [] => .ok []
  | value :: rest =>
    match advertisedAddress names value with
    | .error err => .error err
    | .ok address =>
      if address ∈ seen then advertisedAccessEndpoints names seen rest
      else (advertisedAccessEndpoints names (address :: seen) rest).map (address :: ·)

/-- The entries of the map of container modes (`dependencies.go:146`). -/
def modeRules (opts : Options) : List (GoString × GoString) :=
  [(str "defaults", opts.policy.defaults.containerMode),
   (str "limits", opts.policy.limits.containerMode)]

/-- The entries of the map of forward expressions (`dependencies.go:151-156`). -/
def forwardRules (opts : Options) : List (GoString × List GoString) :=
  [(str "default local forward", opts.policy.defaults.localForwardDestinations),
   (str "default remote forward", opts.policy.defaults.remoteForwardBinds),
   (str "limit local forward", opts.policy.limits.localForwardDestinations),
   (str "limit remote forward", opts.policy.limits.remoteForwardBinds)]

/-- The loop over the entries of a map, in the order in which they are visited. -/
def validateRules {α : Type} (check : GoString → α → Except Message Unit) :
    List (GoString × α) → Except Message Unit
  | [] => .ok ()
  | (name, rule) :: rest => do
    check name rule
    validateRules check rest

/-- `validatePolicyOptions` (`dependencies.go:135-166`). The last two arguments are the entries of
the two maps in the order in which they are visited: it decides which one of several errors is
reported. -/
def validatePolicyOptions (names : HostNames) (opts : Options) (modes : List (GoString × GoString))
    (forwards : List (GoString × List GoString)) : Except Message Unit := do
  validateGatewayClassName names opts.gatewayClassName
  let _ ← advertisedAccessEndpoints names [] opts.advertiseAddresses
  validateRules validateContainerMode modes
  validateRules validateForwardExpressions forwards

/-- Two checks in a row succeed if both do. -/
theorem check_bind_eq_ok_iff {α : Type} {x : Except Message α} {y : Except Message Unit} :
    (x >>= fun _ => y) = .ok () ↔ (∃ a, x = .ok a) ∧ y = .ok () := by
  cases x <;> simp [bind, Except.bind]

theorem exists_ok_unit_iff {x : Except Message Unit} : (∃ done, x = .ok done) ↔ x = .ok () :=
  ⟨fun h => h.choose_spec, fun h => ⟨(), h⟩⟩

/-- All entries of a map pass, in any order, if every single one does. -/
theorem validateRules_eq_ok_iff {α : Type} {check : GoString → α → Except Message Unit}
    {rules : List (GoString × α)} :
    validateRules check rules = .ok () ↔ ∀ rule ∈ rules, check rule.1 rule.2 = .ok () := by
  induction rules with
  | nil => simp [validateRules]
  | cons rule rest ih =>
    rw [validateRules, check_bind_eq_ok_iff, ih, List.forall_mem_cons]
    exact and_congr_left' exists_ok_unit_iff

theorem validateContainerMode_eq_ok_iff {name mode : GoString} :
    validateContainerMode name mode = .ok () ↔ mode ∈ containerModes := by
  unfold validateContainerMode
  split_ifs with h <;> simp [h]

/-- An expression that needs no host and port, or has both. -/
def Wellformed (expression : GoString) : Prop :=
  expression = str "*" ∨ expression = str "*:*" ∨ ∃ host port, HostPortForm expression host port

theorem validateForwardExpressions_eq_ok_iff {name : GoString} {expressions : List GoString} :
    validateForwardExpressions name expressions = .ok () ↔
      ∀ expression ∈ expressions, Wellformed expression := by
  induction expressions with
  | nil => simp [validateForwardExpressions]
  | cons expression rest ih =>
    rw [List.forall_mem_cons, ← ih, validateForwardExpressions]
    split_ifs with hwildcard
    · exact ⟨fun h => ⟨hwildcard.imp_right Or.inl, h⟩, fun h => h.2⟩
    · split
      · rename_i err herr
        refine iff_of_false (by simp) ?_
        rintro ⟨hstar | hstar | ⟨host, port, hform⟩, -⟩
        · exact hwildcard (Or.inl hstar)
        · exact hwildcard (Or.inr hstar)
        · rw [splitHostPort_eq_ok_iff.mpr hform] at herr
          cases herr
      · rename_i parts hparts
        exact ⟨fun h => ⟨Or.inr (Or.inr ⟨parts.1, parts.2, splitHostPort_eq_ok_iff.mp hparts⟩), h⟩,
          fun h => h.2⟩

/-- An address that can be advertised: host and port, where the host is the placeholder, an IP
address or a DNS name, and the port a number from 1 to 65535. -/
def Advertisable (names : HostNames) (address : GoString) : Prop :=
  ∃ host rawPort port, HostPortForm (trimSpace address) host rawPort ∧ host ≠ [] ∧
    (host = nodeIPPlaceholder ∨ names.isIP host ∨ names.subdomainProblems host = []) ∧
    Strconv.parseInt 10 64 rawPort = .ok port ∧ 1 ≤ port ∧ port ≤ 65535

theorem advertisedAddress_ok_iff {names : HostNames} {value : GoString} :
    (∃ address, advertisedAddress names value = .ok address) ↔ Advertisable names value := by
  unfold advertisedAddress Advertisable
  simp only [← splitHostPort_eq_ok_iff]
  cases splitHostPort (trimSpace value) with
  | error err => simp
  | ok parts =>
    obtain ⟨host, rawPort⟩ := parts
    dsimp only
    split_ifs with hhost hname
    · simp [hhost]
    · simp [hname]
    · have hknown : host = nodeIPPlaceholder ∨ names.isIP host ∨ names.subdomainProblems host = [] := by
        by_contra hn
        push Not at hn
        exact hname hn
      cases hparsed : Strconv.parseInt 10 64 rawPort with
      | error err => simp [hparsed]
      | ok port =>
        by_cases hrange : port < 1 ∨ 65535 < port
        · simp only [if_pos hrange, reduceCtorEq, exists_false, false_iff]
          rintro ⟨host', rawPort', port', hparts, -, -, hport, hone, hmax⟩
          cases hparts
          obtain rfl := Except.ok.inj (hparsed.symm.trans hport)
          omega
        · simp only [if_neg hrange]
          exact iff_of_true ⟨_, rfl⟩ ⟨host, rawPort, port, rfl, hhost, hknown, hparsed, by omega, by omega⟩

/-- The addresses are advertised exactly if every one can be, whichever were seen before. -/
theorem advertisedAccessEndpoints_ok_iff {names : HostNames} {seen addresses : List GoString} :
    (∃ endpoints, advertisedAccessEndpoints names seen addresses = .ok endpoints) ↔
      ∀ address ∈ addresses, Advertisable names address := by
  induction addresses generalizing seen with
  | nil => simp [advertisedAccessEndpoints]
  | cons value rest ih =>
    rw [List.forall_mem_cons, ← advertisedAddress_ok_iff, advertisedAccessEndpoints]
    cases advertisedAddress names value with
    | error err => simp
    | ok address =>
      rw [and_iff_right ⟨address, rfl⟩]
      dsimp only
      split_ifs
      · exact ih
      · rw [← @ih (address :: seen)]
        cases advertisedAccessEndpoints names (address :: seen) rest <;> simp [Except.map]

/-- The options that pass are exactly those whose gateway class is empty or a DNS name, whose
addresses can be advertised, whose container modes are known and whose forward expressions are
wildcards or addresses with a host and a port, in whichever order the maps are visited. -/
theorem validatePolicyOptions_eq_ok_iff (names : HostNames) (opts : Options)
    {modes : List (GoString × GoString)} {forwards : List (GoString × List GoString)}
    (hmodes : modes.Perm (modeRules opts)) (hforwards : forwards.Perm (forwardRules opts)) :
    validatePolicyOptions names opts modes forwards = .ok () ↔
      (opts.gatewayClassName = [] ∨ names.subdomainProblems opts.gatewayClassName = []) ∧
      (∀ address ∈ opts.advertiseAddresses, Advertisable names address) ∧
      (∀ rule ∈ [opts.policy.defaults, opts.policy.limits], rule.containerMode ∈ containerModes) ∧
      ∀ rule ∈ [opts.policy.defaults, opts.policy.limits],
        ∀ expression ∈ rule.localForwardDestinations ++ rule.remoteForwardBinds,
          Wellformed expression := by
  have hclass : (∃ done, validateGatewayClassName names opts.gatewayClassName = .ok done) ↔
      (opts.gatewayClassName = [] ∨ names.subdomainProblems opts.gatewayClassName = []) := by
    unfold validateGatewayClassName
    split_ifs with hinvalid
    · simp [hinvalid.1, hinvalid.2]
    · simpa [or_iff_not_imp_left] using hinvalid
  unfold validatePolicyOptions
  rw [check_bind_eq_ok_iff, check_bind_eq_ok_iff, check_bind_eq_ok_iff, hclass, exists_ok_unit_iff,
    advertisedAccessEndpoints_ok_iff, validateRules_eq_ok_iff, validateRules_eq_ok_iff]
  -- a check of all entries does not depend on their order
  simp only [hmodes.mem_iff, hforwards.mem_iff, modeRules, forwardRules,
    validateContainerMode_eq_ok_iff, validateForwardExpressions_eq_ok_iff, List.forall_mem_cons,
    List.forall_mem_append, List.not_mem_nil, false_imp_iff, implies_true, and_true, and_assoc]

/-- With a host that is filled in later, and the maps visited from their last entries. -/
theorem validatePolicyOptions_reversed :
    let names : HostNames := ⟨fun _ => [], fun _ => false⟩
    let opts : Options :=
      { policy := { defaults := { containerMode := str "All", localForwardDestinations := [str "*"] }
                    limits := { containerMode := str "None" } }
        advertiseAddresses := [str " \x7bNodeIP\x7d:22"] }
    validatePolicyOptions names opts (modeRules opts).reverse (forwardRules opts).reverse = .ok () := by
  refine (validatePolicyOptions_eq_ok_iff _ _ (List.reverse_perm _) (List.reverse_perm _)).mpr
    ⟨Or.inl rfl, List.forall_mem_singleton.mpr ⟨nodeIPPlaceholder, str "22", 22, ?_⟩, by decide, ?_⟩
  · exact ⟨splitHostPort_eq_ok_iff.mp rfl, by decide, Or.inl rfl, rfl, by decide, by decide⟩
  · simp [Wellformed]

/-- The built-in defaults are valid, and their capability lists parse. -/
theorem validatePolicyOptions_newDefaultOptions (names : HostNames) :
    validatePolicyOptions names newDefaultOptions (modeRules newDefaultOptions)
        (forwardRules newDefaultOptions) = .ok () ∧
      (∃ defaults, parseCapabilities newDefaultOptions.policy.defaults.capabilities = .ok defaults) ∧
      ∃ limits, parseCapabilities newDefaultOptions.policy.limits.capabilities = .ok limits :=
  ⟨rfl, ⟨_, rfl⟩, ⟨_, rfl⟩⟩

end KubeSsh.Gateway

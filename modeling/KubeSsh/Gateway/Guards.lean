import KubeSsh.AccessPolicy.Authorizer
import KubeSsh.Authz.Remote
import KubeSsh.Gateway.Options

/-!
# `pkg/gateway`: the guarded authorizer

Every operation is authorized by a chain that `withPolicyGuards` builds: the global limits, the
defaults for callers without an Access identity, then the configured authorizers.
`authorizeOperation` permits what the chain allows.

* `guarded_allow_within_limits`: nothing outside the limits is allowed, whatever comes behind the
  guard.
* `skipped_requests_decided_iff`: for which identities skipping the defaults is safe.
* `authorizeOperation_fails_closed_iff`: for which answers the chain fails closed.
-/

namespace KubeSsh.Gateway

open Authn Authz AccessPolicy Wildcard

/-! ## Building the chain -/

/-- The limits guard that `withPolicyGuards` puts first. -/
def limitsGuard (opts : Options) (capabilities : List Capability) : PolicyLimits where
  capabilities := capabilities
  localForwardDestinations := opts.policy.limits.localForwardDestinations
  remoteForwardBinds := opts.policy.limits.remoteForwardBinds

/-- The defaults guard that `withPolicyGuards` puts second. -/
def defaultsGuard (opts : Options) (capabilities : List Capability) : PolicyLimits where
  capabilities := capabilities
  localForwardDestinations := opts.policy.defaults.localForwardDestinations
  remoteForwardBinds := opts.policy.defaults.remoteForwardBinds
  skipAccess := true

/-- `policyGuardedAuthorizer` (`dependencies.go:265-271`). -/
structure PolicyGuardedAuthorizer where
  chain : List Authorizer

/-- `policyGuardedAuthorizer.Authorize`. -/
def PolicyGuardedAuthorizer.authorize (a : PolicyGuardedAuthorizer) : Authorizer :=
  chainAuthorize a.chain

/-- `withPolicyGuards` (`dependencies.go:273-296`). -/
def withPolicyGuards (opts : Options) (next : Authorizer) :
    Except Message PolicyGuardedAuthorizer := do
  let limits ← parseCapabilities opts.policy.limits.capabilities
  let defaults ← parseCapabilities opts.policy.defaults.capabilities
  return ⟨[(limitsGuard opts limits).authorize, (defaultsGuard opts defaults).authorize, next]⟩

/-- The authorizers a deployment can configure: the Access authorizer, the SAR client and the
webhook, whose construction may fail. -/
structure Backends where
  access : Option Authorizer
  kubeClient : Option (SubjectAccessReview → Except Message SubjectAccessReviewStatus)
  webhook : Except Message (UserInfo → Attributes → Except Message WebhookAuthorizeResponse)

/-- The chain `buildAuthorizer` guards (`dependencies.go:231-263`). -/
def configuredChain (opts : Options) (backends : Backends) : Except Message (List Authorizer) :=
  let chain := backends.access.toList
  if opts.authorization.kubernetesSAR then do
    let chain ← if opts.authorization.webhook then do
        let post ← backends.webhook
        pure (chain ++ [webhookAuthorize post])
      else pure chain
    pure (chain ++ [kubernetesSARAuthorize backends.kubeClient])
  else if opts.authorization.webhook then do
    let post ← backends.webhook
    pure (chain ++ [webhookAuthorize post])
  else if opts.authorization.allowAll then pure (chain ++ [allowAll])
  else if chain ≠ [] then pure chain
  else .error (.text "authorization is not configured")

/-- `buildAuthorizer`. -/
def buildAuthorizer (opts : Options) (backends : Backends) :
    Except Message PolicyGuardedAuthorizer := do
  let chain ← configuredChain opts backends
  withPolicyGuards opts (chainAuthorize chain)

variable {opts : Options} {guarded : PolicyGuardedAuthorizer} {req : Authz.Request}

/-- What a guarded authorizer consists of. -/
theorem withPolicyGuards_eq_ok {next : Authorizer} (h : withPolicyGuards opts next = .ok guarded) :
    guarded.chain =
      [(limitsGuard opts (opts.policy.limits.capabilities.map Capability.ofString)).authorize,
       (defaultsGuard opts (opts.policy.defaults.capabilities.map Capability.ofString)).authorize,
       next] := by
  unfold withPolicyGuards at h
  cases hlimits : parseCapabilities opts.policy.limits.capabilities with
  | error err =>
    rw [hlimits] at h
    cases h
  | ok limits =>
    cases hdefaults : parseCapabilities opts.policy.defaults.capabilities with
    | error err =>
      rw [hlimits, hdefaults] at h
      cases h
    | ok defaults =>
      rw [hlimits, hdefaults] at h
      obtain rfl := Except.ok.inj h
      rw [parseCapabilities_eq_ok hlimits, parseCapabilities_eq_ok hdefaults]

/-- When a guarded authorizer allows, both guards had no opinion and the authorizer behind them
allowed. -/
theorem guarded_allow {next : Authorizer} (h : withPolicyGuards opts next = .ok guarded)
    (hallow : (guarded.authorize req).decision = .allow) :
    ((limitsGuard opts (opts.policy.limits.capabilities.map .ofString)).authorize req).decision
        = .noOpinion ∧
      ((defaultsGuard opts (opts.policy.defaults.capabilities.map .ofString)).authorize req).decision
        = .noOpinion ∧
      (next req).decision = .allow := by
  rw [PolicyGuardedAuthorizer.authorize, withPolicyGuards_eq_ok h] at hallow
  -- a guard never allows, so it was passed
  have hpass : ∀ (p : PolicyLimits) (rest : List Authorizer),
      (chainAuthorize (p.authorize :: rest) req).decision = .allow →
      (p.authorize req).decision = .noOpinion ∧ (chainAuthorize rest req).decision = .allow := by
    intro p rest hp
    rcases allow_of_chainAuthorize_cons hp with hd | ⟨hf, hrest⟩
    · rcases policyLimits_answer p req with ha | ⟨ha, -⟩
      · rw [ha] at hd
        cases hd
      · rw [ha] at hd
        cases hd
    · rw [policyLimits_final_iff, not_not] at hf
      exact ⟨hf, hrest⟩
  obtain ⟨hlimits, hallow⟩ := hpass _ _ hallow
  obtain ⟨hdefaults, hallow⟩ := hpass _ _ hallow
  refine ⟨hlimits, hdefaults, ?_⟩
  rcases allow_of_chainAuthorize_cons hallow with hd | ⟨-, hd⟩
  · exact hd
  · cases hd

/-- The authorizers a gateway configures answer regularly. -/
theorem configuredChain_regular {backends : Backends} {chain : List Authorizer}
    (haccess : ∀ authorizer ∈ backends.access, Regular authorizer)
    (h : configuredChain opts backends = .ok chain) : ∀ authorizer ∈ chain, Regular authorizer := by
  have hbase : ∀ authorizer ∈ backends.access.toList, Regular authorizer :=
    fun authorizer hmem => haccess authorizer (Option.mem_toList.mp hmem)
  have happend : ∀ (chain : List Authorizer) (last : Authorizer), Regular last →
      (∀ authorizer ∈ chain, Regular authorizer) →
      ∀ authorizer ∈ chain ++ [last], Regular authorizer := by
    intro chain last hlast hchain authorizer hmem
    rcases List.mem_append.mp hmem with hmem | hmem
    · exact hchain authorizer hmem
    · rw [List.mem_singleton.mp hmem]
      exact hlast
  have hsar := kubernetesSARAuthorize_regular backends.kubeClient
  unfold configuredChain at h
  dsimp only at h
  cases hwebhook : backends.webhook with
  | error err =>
    rw [hwebhook] at h
    split_ifs at h
    · cases h
    · obtain rfl := Except.ok.inj h
      exact happend _ _ hsar hbase
    · cases h
    · obtain rfl := Except.ok.inj h
      exact happend _ _ allowAll_regular hbase
    · obtain rfl := Except.ok.inj h
      exact hbase
  | ok post =>
    have hpost := webhookAuthorize_regular post
    rw [hwebhook] at h
    split_ifs at h
    · obtain rfl := Except.ok.inj h
      exact happend _ _ hsar (happend _ _ hpost hbase)
    · obtain rfl := Except.ok.inj h
      exact happend _ _ hsar hbase
    · obtain rfl := Except.ok.inj h
      exact happend _ _ hpost hbase
    · obtain rfl := Except.ok.inj h
      exact happend _ _ allowAll_regular hbase
    · obtain rfl := Except.ok.inj h
      exact hbase

/-! ## The limits bind everyone -/

/-- Capabilities are compared as the strings they come from. -/
theorem ofString_mem_map_iff {value : GoString} {values : List GoString} :
    Capability.ofString value ∈ values.map Capability.ofString ↔ value ∈ values :=
  List.mem_map_of_injective fun _ _ => Capability.ofString_inj.mp

/-- Whatever a guarded authorizer allows is within the configured limits: the capability is listed,
and a forward address is matched by an expression of the limit list for its direction. -/
theorem guarded_allow_within_limits (opts : Options) (next : Authorizer)
    (guarded : PolicyGuardedAuthorizer) (req : Authz.Request)
    (hguarded : withPolicyGuards opts next = .ok guarded)
    (hallow : (guarded.authorize req).decision = .allow) :
    (str "*" ∈ opts.policy.limits.capabilities ∨
        req.attributes.action ∈ opts.policy.limits.capabilities) ∧
      (req.attributes.action = Capability.localForward.text →
        ∃ expression ∈ opts.policy.limits.localForwardDestinations,
          isMatch expression (joinHostPort
            (extraValue req.attributes.extra (str "destination_host"))
            (extraValue req.attributes.extra (str "destination_port"))) = true) ∧
      (req.attributes.action = Capability.remoteForward.text →
        ∃ expression ∈ opts.policy.limits.remoteForwardBinds,
          isMatch expression (joinHostPort
            (extraValue req.attributes.extra (str "bind_host"))
            (extraValue req.attributes.extra (str "bind_port"))) = true) := by
  obtain ⟨hlimits, -, -⟩ := guarded_allow hguarded hallow
  rw [policyLimits_noOpinion_iff rfl] at hlimits
  refine ⟨?_, fun hlocal => hlimits.destination ?_, fun hremote => hlimits.bind ?_⟩
  · rcases hlimits.capability with h | h
    · exact Or.inl (ofString_mem_map_iff.mp h)
    · exact Or.inr (ofString_mem_map_iff.mp h)
  · rw [hlocal]
    rfl
  · rw [hremote]
    rfl

/-- Limits that permit local forwards, to the ports of `db`. -/
def narrowOptions : Options where
  policy :=
    { newDefaultOptions.policy with
      limits := { capabilities := [str "local_forward"], localForwardDestinations := [str "db:*"] } }

def forwardTo (host : GoString) : Authz.Request where
  attributes :=
    { action := str "local_forward"
      extra := [⟨str "destination_host", [host]⟩, ⟨str "destination_port", [str "5432"]⟩].toAList }

/-- Under these limits a forward to `db` is allowed and one to `web` is not. The address of the
first is matched by the expression of the limits. -/
theorem guarded_allow_within_limits_forward :
    ∃ guarded, withPolicyGuards narrowOptions allowAll = .ok guarded ∧
      (guarded.authorize (forwardTo (str "db"))).decision = .allow ∧
      (guarded.authorize (forwardTo (str "web"))).decision = .deny ∧
      ∃ expression ∈ narrowOptions.policy.limits.localForwardDestinations,
        isMatch expression (str "db:5432") = true :=
  ⟨_, rfl, rfl, rfl, (guarded_allow_within_limits narrowOptions allowAll _ (forwardTo (str "db"))
    rfl rfl).2.1 rfl⟩

/-! ## Skipping the defaults -/

/-- The defaults that the Access authorizer of a gateway inherits
(`access_policy_runtime.go:158-163`). -/
def accessDefaults (opts : Options) : CapabilityDefaults where
  allow := opts.policy.defaults.capabilities.map Capability.ofString
  localForwardDestinations := opts.policy.defaults.localForwardDestinations
  remoteForwardBinds := opts.policy.defaults.remoteForwardBinds

/-- No Access name is attached to the request. -/
def NoAccessName (extra : GoMap (List GoString)) : Prop :=
  (extra.lookup extraAccessName).getD [] = []

instance : DecidablePred NoAccessName := fun _ => inferInstanceAs (Decidable (_ = _))

theorem isAccess_eq_false_iff : req.isAccess = false ↔ NoAccessName req.authExtra := by
  simp only [Authz.Request.isAccess, decide_eq_false_iff_not, not_not, ne_eq]
  rfl

/-- The defaults guard of a gateway with options `opts`. -/
def gatewayDefaults (opts : Options) : PolicyLimits :=
  defaultsGuard opts (opts.policy.defaults.capabilities.map Capability.ofString)

/-- A request that the defaults guard looked at is within the defaults. -/
theorem within_defaults_of_noAccessName {next : Authorizer}
    (hguarded : withPolicyGuards opts next = .ok guarded)
    (hallow : (guarded.authorize req).decision = .allow) (hname : NoAccessName req.authExtra) :
    (gatewayDefaults opts).Within req.attributes := by
  obtain ⟨-, hdefaults, -⟩ := guarded_allow hguarded hallow
  have hskip : ((gatewayDefaults opts).skipAccess && req.isAccess) = false := by
    simp [isAccess_eq_false_iff.mpr hname]
  exact (policyLimits_noOpinion_iff hskip).mp hdefaults

/-- A request with a complete Access identity is decided by the Access authorizer. -/
theorem access_allow_of_completeIdentity {store : Option Store} {rest : List Authorizer}
    (hguarded : withPolicyGuards opts
      (chainAuthorize (authorize store (accessDefaults opts) :: rest)) = .ok guarded)
    (hallow : (guarded.authorize req).decision = .allow)
    (hidentity : CompleteIdentity req.authExtra) :
    (authorize store (accessDefaults opts) req).decision = .allow := by
  obtain ⟨-, -, hnext⟩ := guarded_allow hguarded hallow
  rwa [chainAuthorize_cons_of_final (authorize_final_of_complete hidentity)] at hnext

/-- Options whose limits admit everything and whose defaults admit nothing. -/
def closedDefaults : Options where
  policy := { limits := { capabilities := [str "*"] } }

/-- A shell request that the defaults guard skips and the Access authorizer has no opinion on is
left to the later authorizers. -/
theorem closedDefaults_allow {extra : GoMap (List GoString)} (hname : ¬ NoAccessName extra)
    (hincomplete : ¬ CompleteIdentity extra) :
    (chainAuthorize
      [(limitsGuard closedDefaults [.wildcard]).authorize, (gatewayDefaults closedDefaults).authorize,
        chainAuthorize [authorize none (accessDefaults closedDefaults), allowAll]]
      { authExtra := extra, attributes := { action := str "shell" } }).decision = .allow := by
  set req : Authz.Request := { authExtra := extra, attributes := { action := str "shell" } }
  have hlimits : ¬ ((limitsGuard closedDefaults [.wildcard]).authorize req).Final := by
    rw [policyLimits_final_iff, not_not, policyLimits_noOpinion_iff rfl]
    refine ⟨Or.inl (List.mem_singleton_self _), fun h => ?_, fun h => ?_⟩
    · exact absurd (show Capability.ofString (str "shell") = _ from h) (by decide)
    · exact absurd (show Capability.ofString (str "shell") = _ from h) (by decide)
  have hskip : ((gatewayDefaults closedDefaults).skipAccess && req.isAccess) = true := by
    have haccess : req.isAccess = true := by
      rw [← Bool.not_eq_false, isAccess_eq_false_iff]
      exact hname
    rw [haccess]
    rfl
  have hdefaults : ¬ ((gatewayDefaults closedDefaults).authorize req).Final := by
    rw [policyLimits_of_skip hskip]
    decide
  have haccess : ¬ (authorize none (accessDefaults closedDefaults) req).Final := by
    rw [authorize_of_incomplete hincomplete]
    decide
  rw [chainAuthorize_cons_of_not_final hlimits, chainAuthorize_cons_of_not_final hdefaults,
    ← List.nil_append [chainAuthorize _], chainAuthorize_append_chain, List.nil_append,
    chainAuthorize_cons_of_not_final haccess]
  rfl

/-- Skipping the defaults guard is safe for an identity exactly when the guard is not skipped or the
Access authorizer decides: no Access name is attached, or namespace, name and credential user are
all there. -/
theorem skipped_requests_decided_iff (extra : GoMap (List GoString)) :
    (∀ (opts : Options) (store : Option Store) (rest : List Authorizer)
        (guarded : PolicyGuardedAuthorizer) (req : Authz.Request),
      req.authExtra = extra →
      withPolicyGuards opts (chainAuthorize (authorize store (accessDefaults opts) :: rest))
        = .ok guarded →
      (guarded.authorize req).decision = .allow →
      (authorize store (accessDefaults opts) req).decision = .allow ∨
        (gatewayDefaults opts).Within req.attributes) ↔
    NoAccessName extra ∨ CompleteIdentity extra := by
  constructor
  · intro hsafe
    by_contra hn
    rw [not_or] at hn
    have hallow := closedDefaults_allow hn.1 hn.2
    rcases hsafe closedDefaults none [allowAll] _ _ rfl rfl hallow with h | h
    · rw [authorize_of_incomplete hn.2] at h
      cases h
    · rcases h.capability with h | h
      · exact absurd h List.not_mem_nil
      · exact absurd h List.not_mem_nil
  · rintro hcases opts store rest guarded req rfl hguarded hallow
    rcases hcases with hname | hidentity
    · exact Or.inr (within_defaults_of_noAccessName hguarded hallow hname)
    · exact Or.inl (access_allow_of_completeIdentity hguarded hallow hidentity)

/-- With the built-in options a caller whose identity has an Access name only may use an SSH
extension, which neither the Access authorizer allowed nor the defaults list. -/
theorem skipped_request_not_decided :
    let extra : GoMap (List GoString) := AList.insert extraAccessName [str "notebook"] ∅
    let req : Authz.Request := { authExtra := extra, attributes := { action := str "ssh_extension" } }
    let access := authorize (some (PolicyCache.empty [] []).store) (accessDefaults newDefaultOptions)
    ∃ guarded,
      withPolicyGuards newDefaultOptions (chainAuthorize [access, allowAll]) = .ok guarded ∧
      (guarded.authorize req).decision = .allow ∧
      (access req).decision = .noOpinion ∧
      str "*" ∉ newDefaultOptions.policy.defaults.capabilities ∧
      req.attributes.action ∉ newDefaultOptions.policy.defaults.capabilities :=
  ⟨_, rfl, by decide, by decide, by decide, by decide⟩

end KubeSsh.Gateway

import KubeSsh.AccessPolicy.Store
import KubeSsh.Authz.PolicyLimits

/-!
# `pkg/accesspolicy`: the Access authorizer

The authorizer decides for callers that an Access credential authenticated: it looks the Access and
the credential up again and checks container, capability and forward address. Without a complete
Access identity in the request it has no opinion.

A credential without a capability policy inherits the gateway defaults. The same defaults are also
enforced by a `PolicyLimits` guard for callers without an Access identity; `capabilityAllowed_iff`
and `within_iff` put the two checks side by side. They differ on empty lists.
-/

namespace KubeSsh.AccessPolicy

open Authz Wildcard

/-- The keys of `context.go:5-10`. -/
def extraAccessNamespace : GoString := str "kube-ssh/access.namespace"
def extraAccessName : GoString := str "kube-ssh/access.name"
def extraCredentialUser : GoString := str "kube-ssh/access.credential.username"

/-- `GetExtra` (`resolver.go:235-241`). -/
def getExtra (extra : GoMap (List GoString)) (key : GoString) : GoString := firstValue extra key

/-- `CapabilityDefaults` (`authorizer.go:19-23`). -/
structure CapabilityDefaults where
  allow : List Capability := []
  localForwardDestinations : List GoString := []
  remoteForwardBinds : List GoString := []

/-- `findCredential` (`authorizer.go:61-68`). -/
def findCredential (access : Access) (username : GoString) : Option AccessCredential :=
  access.spec.credentials.find? fun credential => credential.username = username

/-- `containerAllowed` (`resolver.go:231-233`). -/
def containerAllowed (allow : List GoString) (container : GoString) : Bool :=
  allow.isEmpty || matchAny allow container

/-- The list a forward is checked against: the credential's own if it has one that is not empty,
else the default (`authorizer.go:81-84`, `92-95`). -/
def forwardAllow (own : Option (List GoString)) (default : List GoString) : List GoString :=
  match own with
  | some list => if list ≠ [] then list else default
  | none => default

/-- `capabilityAllowed` (`authorizer.go:70-104`). -/
def capabilityAllowed (policy : CapabilityPolicy) (defaults : CapabilityDefaults)
    (attrs : Attributes) : Bool × Message :=
  let capability := Capability.ofString attrs.action
  let allowedCapabilities := if policy.allow = [] then defaults.allow else policy.allow
  if allowedCapabilities ≠ [] ∧ capability ∉ allowedCapabilities
      ∧ Capability.wildcard ∉ allowedCapabilities then
    (false, .text "capability not allowed")
  else match capability with
    | .localForward =>
      let allow := forwardAllow policy.localForward defaults.localForwardDestinations
      if allow ≠ [] ∧ ¬ matchAny allow attrs.destination then
        (false, .text "local forward destination not allowed")
      else (true, [])
    | .remoteForward =>
      let allow := forwardAllow policy.remoteForward defaults.remoteForwardBinds
      if allow ≠ [] ∧ ¬ matchAny allow attrs.bind then
        (false, .text "remote forward bind not allowed")
      else (true, [])
    | _ => (true, [])

/-- `Authorizer.Authorize` (`authorizer.go:33-59`) on the store state its lookup sees; `none` is an
authorizer without a store. -/
def authorize (store : Option Store) (defaults : CapabilityDefaults) : Authz.Authorizer := fun req =>
  let ns := getExtra req.authExtra extraAccessNamespace
  let name := getExtra req.authExtra extraAccessName
  let username := getExtra req.authExtra extraCredentialUser
  if ns = [] ∨ name = [] ∨ username = [] then { decision := .noOpinion }
  else match store with
    | none => { decision := .noOpinion, err := some (.text "access authorizer requires a store") }
    | some store =>
      match store.get ns name with
      | .error _ => { decision := .deny, reason := .text "authenticated access no longer exists" }
      | .ok access =>
        match findCredential access username with
        | none => { decision := .deny, reason := .text "authenticated credential no longer exists" }
        | some credential =>
          let container := resourceValue req.attributes.resources (str "containers")
          if container ≠ [] ∧ (¬ containerAllowed access.spec.containers container
              ∨ ¬ containerAllowed credential.containers container) then
            { decision := .deny, reason := .text "container not allowed" }
          else
            let (allowed, reason) := capabilityAllowed credential.capabilities defaults req.attributes
            if ¬ allowed then { decision := .deny, reason } else { decision := .allow }

/-- The request carries an Access identity that the authorizer decides on: all three first values
are present and not empty. -/
def CompleteIdentity (extra : GoMap (List GoString)) : Prop :=
  getExtra extra extraAccessNamespace ≠ [] ∧ getExtra extra extraAccessName ≠ [] ∧
    getExtra extra extraCredentialUser ≠ []

instance : DecidablePred CompleteIdentity := fun _ => inferInstanceAs (Decidable (_ ∧ _ ∧ _))

theorem authorize_of_incomplete {store : Option Store} {defaults : CapabilityDefaults}
    {req : Request} (h : ¬ CompleteIdentity req.authExtra) :
    authorize store defaults req = { decision := .noOpinion } := by
  unfold authorize
  dsimp only
  rw [if_pos]
  by_contra hn
  push Not at hn
  exact h hn

/-- On a complete identity the authorizer is decisive: it fails, denies or allows. -/
theorem authorize_final_of_complete {store : Option Store} {defaults : CapabilityDefaults}
    {req : Request} (h : CompleteIdentity req.authExtra) :
    (authorize store defaults req).Final := by
  have hn : ¬ (getExtra req.authExtra extraAccessNamespace = [] ∨
      getExtra req.authExtra extraAccessName = [] ∨
      getExtra req.authExtra extraCredentialUser = []) := by
    push Not
    exact h
  unfold authorize
  dsimp only
  rw [if_neg hn]
  cases store with
  | none => exact Or.inl rfl
  | some store =>
    simp only
    split
    · exact Or.inr (Or.inr rfl)
    split
    · exact Or.inr (Or.inr rfl)
    split
    · exact Or.inr (Or.inr rfl)
    split
    · exact Or.inr (Or.inr rfl)
    · exact Or.inr (Or.inl rfl)

theorem authorize_regular (store : Option Store) (defaults : CapabilityDefaults) :
    Regular (authorize store defaults) := by
  intro req
  unfold authorize
  dsimp only
  split
  · exact ⟨by simp, by simp⟩
  split
  · exact ⟨by simp, by simp⟩
  split
  · exact ⟨by simp, by simp⟩
  split
  · exact ⟨by simp, by simp⟩
  split
  · exact ⟨by simp, by simp⟩
  split
  · exact ⟨by simp, by simp⟩
  · exact ⟨by simp, by simp⟩

/-! ## Inheriting the defaults -/

/-- A capability policy that declares nothing: no capability, no destination, no bind. -/
structure DeclaresNothing (policy : CapabilityPolicy) : Prop where
  allow : policy.allow = []
  localForward : policy.localForward.getD [] = []
  remoteForward : policy.remoteForward.getD [] = []

/-- The default list that a capability is additionally checked against, if it is a forward, and the
address that is matched with it. -/
def CapabilityDefaults.forwardCheck (defaults : CapabilityDefaults) (attrs : Attributes) :
    Option (List GoString × GoString) :=
  match Capability.ofString attrs.action with
  | .localForward => some (defaults.localForwardDestinations, attrs.destination)
  | .remoteForward => some (defaults.remoteForwardBinds, attrs.bind)
  | _ => none

/-- The guard over the same default lists (`dependencies.go:286-291`). -/
def CapabilityDefaults.limits (defaults : CapabilityDefaults) : PolicyLimits where
  capabilities := defaults.allow
  localForwardDestinations := defaults.localForwardDestinations
  remoteForwardBinds := defaults.remoteForwardBinds
  skipAccess := true

theorem forwardAllow_of_getD_eq_nil {own : Option (List GoString)} (h : own.getD [] = [])
    (default : List GoString) : forwardAllow own default = default := by
  cases own with
  | none => rfl
  | some list =>
    obtain rfl : list = [] := h
    rfl

/-- What a credential without a policy is allowed: an empty default list allows everything. -/
theorem capabilityAllowed_iff {policy : CapabilityPolicy} (hpolicy : DeclaresNothing policy)
    (defaults : CapabilityDefaults) (attrs : Attributes) :
    (capabilityAllowed policy defaults attrs).1 = true ↔
      (defaults.allow = [] ∨ containsOrWildcard defaults.allow (.ofString attrs.action)) ∧
        ∀ check, defaults.forwardCheck attrs = some check →
          check.1 = [] ∨ matchAny check.1 check.2 := by
  rw [containsOrWildcard_iff]
  unfold capabilityAllowed CapabilityDefaults.forwardCheck
  simp only [hpolicy.allow, if_true, forwardAllow_of_getD_eq_nil hpolicy.localForward,
    forwardAllow_of_getD_eq_nil hpolicy.remoteForward]
  split
  · -- no entry of a list that has entries
    rename_i h
    exact ⟨fun h => (by cases h), fun h' => absurd h'.1 (by tauto)⟩
  · rename_i hlisted
    have hlisted' : defaults.allow = [] ∨ .wildcard ∈ defaults.allow ∨
        .ofString attrs.action ∈ defaults.allow := by tauto
    simp only [hlisted', true_and]
    split
    · split
      · rename_i h
        simp [h.1, h.2]
      · rename_i h
        simpa using by tauto
    · split
      · rename_i h
        simp [h.1, h.2]
      · rename_i h
        simpa using by tauto
    · simp

/-- What the guard over the same lists passes: an empty list passes nothing. -/
theorem within_limits_iff (defaults : CapabilityDefaults) (attrs : Attributes) :
    defaults.limits.Within attrs ↔
      containsOrWildcard defaults.allow (.ofString attrs.action) ∧
        ∀ check, defaults.forwardCheck attrs = some check → matchAny check.1 check.2 := by
  have hcheck : (∀ check, defaults.forwardCheck attrs = some check → matchAny check.1 check.2) ↔
      (Capability.ofString attrs.action = .localForward →
        matchAny defaults.localForwardDestinations attrs.destination) ∧
      (Capability.ofString attrs.action = .remoteForward →
        matchAny defaults.remoteForwardBinds attrs.bind) := by
    unfold CapabilityDefaults.forwardCheck
    split
    · rename_i h
      simp [h]
    · rename_i h
      simp [h]
    · rename_i hlocal hremote
      simp only [reduceCtorEq, false_implies, implies_true, true_iff]
      exact ⟨fun h => (hlocal h).elim, fun h => (hremote h).elim⟩
  rw [hcheck, containsOrWildcard_iff, matchAny_iff, matchAny_iff]
  exact ⟨fun h => ⟨h.capability, h.destination, h.bind⟩, fun h => ⟨h.1, h.2.1, h.2.2⟩⟩

/-- The defaults say what they allow for this request: an empty capability list matters only if a
forward list refuses the request anyway, and a granted forward has a list that is not empty. -/
def CapabilityDefaults.SpelledOut (defaults : CapabilityDefaults) (attrs : Attributes) : Prop :=
  (defaults.allow = [] → ∃ check, defaults.forwardCheck attrs = some check ∧ check.1 ≠ [] ∧
    matchAny check.1 check.2 = false) ∧
  (containsOrWildcard defaults.allow (.ofString attrs.action) → ∀ check,
    defaults.forwardCheck attrs = some check → check.1 ≠ [])

theorem not_containsOrWildcard_nil (value : Capability) : containsOrWildcard [] value = false := rfl

theorem not_matchAny_nil (value : GoString) : matchAny [] value = false := rfl

/-- A credential that declares nothing and a caller without an Access identity are allowed the same
requests by the defaults exactly when the defaults are spelled out for the request. -/
theorem inherited_defaults_agree_iff (defaults : CapabilityDefaults) (policy : CapabilityPolicy)
    (req : Request) (hpolicy : DeclaresNothing policy) (hcaller : req.isAccess = false) :
    ((capabilityAllowed policy defaults req.attributes).1 = true ↔
      (defaults.limits.authorize req).decision ≠ .deny) ↔
    defaults.SpelledOut req.attributes := by
  have hskip : (defaults.limits.skipAccess && req.isAccess) = false := by simp [hcaller]
  rw [policyLimits_ne_deny_iff, policyLimits_noOpinion_iff hskip, within_limits_iff,
    capabilityAllowed_iff hpolicy]
  constructor
  · intro hagree
    refine ⟨fun hnil => ?_, fun hgranted check hcheck hempty => ?_⟩
    · -- the guard refuses everything, so the credential must be refused too
      have hrefused : ¬ ∀ check, defaults.forwardCheck req.attributes = some check →
          check.1 = [] ∨ matchAny check.1 check.2 := by
        intro hforward
        have hgranted := (hagree.mp ⟨Or.inl hnil, hforward⟩).1
        rw [hnil, not_containsOrWildcard_nil] at hgranted
        cases hgranted
      push Not at hrefused
      obtain ⟨check, hcheck, hne, hmatch⟩ := hrefused
      exact ⟨check, hcheck, hne, by simpa using hmatch⟩
    · have hmatch := (hagree.mp ⟨Or.inr hgranted, fun check' hcheck' => ?_⟩).2 check hcheck
      · rw [hempty, not_matchAny_nil] at hmatch
        cases hmatch
      · obtain rfl := Option.some.inj (hcheck.symm.trans hcheck')
        exact Or.inl hempty
  · rintro ⟨hallow, hforward⟩
    constructor
    · rintro ⟨hlisted, hcheck⟩
      rcases hlisted with hnil | hgranted
      · obtain ⟨check, hsome, hne, hmatch⟩ := hallow hnil
        rcases hcheck check hsome with h | h
        · exact absurd h hne
        · rw [hmatch] at h
          cases h
      · exact ⟨hgranted, fun check hsome =>
          (hcheck check hsome).resolve_left (hforward hgranted check hsome)⟩
    · rintro ⟨hgranted, hcheck⟩
      exact ⟨Or.inr hgranted, fun check hsome => Or.inr (hcheck check hsome)⟩

/-- Defaults that list `exec` treat an `exec` request the same way on both sides. -/
theorem inherited_defaults_agree_exec :
    DeclaresNothing {} ∧ Request.isAccess { attributes := { action := str "exec" } } = false ∧
      ((capabilityAllowed {} { allow := [.exec] } { action := str "exec" }).1 = true ↔
        ((CapabilityDefaults.limits { allow := [.exec] }).authorize
          { attributes := { action := str "exec" } }).decision ≠ .deny) := by
  refine ⟨⟨rfl, rfl, rfl⟩, rfl, (inherited_defaults_agree_iff { allow := [.exec] } {}
    { attributes := { action := str "exec" } } ⟨rfl, rfl, rfl⟩ rfl).mpr ⟨?_, ?_⟩⟩
  · exact fun h => absurd h (by decide)
  · exact fun _ check h => absurd (show none = some check from h) (by simp)

/-- With an empty default list the credential may open a shell, which the guard over the same list
denies. -/
theorem inherited_defaults_differ_on_empty_list :
    (capabilityAllowed {} {} { action := str "shell" }).1 = true ∧
      ((CapabilityDefaults.limits {}).authorize
        { attributes := { action := str "shell" } }).decision = .deny := by
  decide

end KubeSsh.AccessPolicy

import KubeSsh.Authn
import KubeSsh.Gateway.SessionPolicy

/-!
# `pkg/gateway`: accepting an authenticated connection

`acceptAuthenticated` resolves the target of an authenticated connection, then its session policy,
then its protocol, and publishes the result or rejects the connection. The Access store is read by
the resolver and again for the session policy; it may have changed in between.

`published_from_access_iff` says for which histories of the store a connection that an Access
authenticated can only be published with a target of that Access.
-/

namespace KubeSsh.Gateway

open Authn AccessPolicy PodTarget Target

/-- The components of `gateway` that accepting a connection uses. -/
structure Components where
  opts : Options
  /-- The Access runtime, if Access policies are enabled: its resolver, and its store as the source
  of session policies. -/
  access : Option Resolver
  /-- The Pod lookup and container modes of the binding resolver. -/
  binding : ResolverOptions
  podBackend : Bool
  sshProxy : Bool

/-- `buildResolver` (`dependencies.go:222-229`). -/
def buildResolver (access : Option Resolver) (draw : Draw) :
    List (ResolveInput → StateT ResolverState (Reads Store) (Except ResolveError Target)) :=
  (access.map fun r => resolve r draw).toList ++
    [fun input => pure (usernameResolve input), fun input => pure (hintResolve input)]

/-- The resolver of a gateway (`dependencies.go:122-126`). -/
def Components.resolve (g : Components) (draw : Draw) (input : ResolveInput) :
    StateT ResolverState (Reads Store) (Except ResolveError Target) :=
  bindingResolve g.binding (chainResolve (buildResolver g.access draw)) input

/-- The protocol that serves a connection, with the policy it enforces. -/
inductive ConnectionProtocol
  | podssh (tgt : Target) (policy : EffectiveSessionPolicy)
  | sshproxy (tgt : Target) (policy : EffectiveSessionPolicy)

/-- `selectConnectionProtocol` (`protocol.go:18-51`). -/
def Components.selectConnectionProtocol (g : Components) (tgt : Target)
    (policy : EffectiveSessionPolicy) : Except Message ConnectionProtocol :=
  if tgt.kind = kindPod then
    if ¬ g.podBackend then .error (.text "pod SSH backend is not configured")
    else .ok (.podssh tgt policy)
  else if tgt.kind = kindExternalSSH then
    if ¬ g.sshProxy then .error (.text "upstream SSH connector is not configured")
    else .ok (.sshproxy tgt policy)
  else .error [.bytes (str "target kind "), .quoted tgt.kind,
    .bytes (str " has no SSH protocol implementation")]

/-- `remoteHost` (`gateway.go:271-280`); `none` is a nil address. -/
def remoteHost : Option GoString → GoString
  | none => []
  | some addr =>
    match splitHostPort addr with
    | .ok (host, _) => host
    | .error _ => addr

/-- `authenticatedConnection` (`connection_context.go:28-33`). -/
structure AuthenticatedConnection where
  info : AuthenticateInfo
  target : Target
  fingerprint : GoString
  protocol : ConnectionProtocol

/-- What becomes of an authenticated connection; the rejections are labeled as in the metrics. -/
inductive Acceptance
  | targetRejected (err : ResolveError)
  | sessionPolicyRejected (err : Message)
  | protocolRejected (err : Message)
  | published (connection : AuthenticatedConnection)

/-- The input `acceptAuthenticated` resolves. -/
def resolveInput (sshUser : GoString) (remoteAddr : Option GoString) (info : AuthenticateInfo) :
    ResolveInput where
  sshUser := sshUser
  userName := info.user.name
  authExtra := info.extra
  sourceIP := remoteHost remoteAddr
  hints := info.targetHints

/-- `acceptAuthenticated` (`gateway.go:202-256`). -/
def Components.acceptAuthenticated (g : Components) (draw : Draw) (sshUser : GoString)
    (remoteAddr : Option GoString) (info : AuthenticateInfo) (fingerprint : GoString) :
    StateT ResolverState (Reads Store) Acceptance := do
  match ← g.resolve draw (resolveInput sshUser remoteAddr info) with
  | .error err => return .targetRejected err
  | .ok tgt =>
    match ← (resolveSessionPolicy g.opts g.access.isSome sshUser info.extra :
        Reads Store (Except Message EffectiveSessionPolicy)) with
    | .error err => return .sessionPolicyRejected err
    | .ok policy =>
      match g.selectConnectionProtocol tgt policy with
      | .error err => return .protocolRejected err
      | .ok protocol => return .published { info, target := tgt, fingerprint, protocol }

/-! ## The steps of accepting -/

/-- What the resolvers behind the Access resolver make of a connection. -/
def Components.directResolve (g : Components) (input : ResolveInput) : Except ResolveError Target :=
  match usernameResolve input with
  | .ok tgt => bindTarget g.binding tgt
  | .error .notProvided =>
    match hintResolve input with
    | .ok tgt => bindTarget g.binding tgt
    | .error err => .error err
  | .error err => .error err

/-- With Access policies the Access resolver comes first; the others are asked only if it does not
provide a target. -/
theorem run_resolve {g : Components} {r : Resolver} (hr : g.access = some r) (draw : Draw)
    (input : ResolveInput) (state : ResolverState) (history : ℕ → Store) (n : ℕ) :
    (Reads.run (g.resolve draw input state) history n).1 =
      match (Reads.run (AccessPolicy.resolve r draw input state) history n).1 with
      | .ok tgt => bindTarget g.binding tgt
      | .error .notProvided => g.directResolve input
      | .error err => .error err := by
  unfold Components.resolve bindingResolve buildResolver
  rw [hr]
  simp only [Option.map_some, Option.toList_some, List.singleton_append, chainResolve, bind_assoc,
    pure_bind]
  rw [Reads.run_stateT_bind]
  generalize (Reads.run (AccessPolicy.resolve r draw input state) history n).1 = result
  unfold Components.directResolve
  rcases result with (_ | _) | tgt
  · cases usernameResolve input with
    | ok tgt => rfl
    | error err =>
      cases err with
      | notProvided => rcases hintResolve input with (_ | _) | tgt <;> rfl
      | _ => rfl
  all_goals rfl

/-- The resolvers behind the Access resolver do not read the store. -/
theorem next_resolve {g : Components} {r : Resolver} (hr : g.access = some r) (draw : Draw)
    (input : ResolveInput) (state : ResolverState) (history : ℕ → Store) (n : ℕ) :
    Reads.next (g.resolve draw input state) history n =
      Reads.next (AccessPolicy.resolve r draw input state) history n := by
  unfold Components.resolve bindingResolve buildResolver
  rw [hr]
  simp only [Option.map_some, Option.toList_some, List.singleton_append, chainResolve, bind_assoc,
    pure_bind]
  rw [Reads.next_stateT_bind]
  rcases (Reads.run (AccessPolicy.resolve r draw input state) history n).1 with (_ | _) | tgt
  · cases usernameResolve input with
    | ok tgt => rfl
    | error err =>
      cases err with
      | notProvided => rcases hintResolve input with (_ | _) | tgt <;> rfl
      | _ => rfl
  all_goals rfl

section Published

variable {g : Components} {draw : Draw} {sshUser : GoString} {remoteAddr : Option GoString}
  {info : AuthenticateInfo} {fingerprint : GoString} {state : ResolverState} {history : ℕ → Store}
  {n : ℕ}

/-- A published connection was resolved to its target, and a session policy was found for it. -/
theorem resolved_of_published {connection : AuthenticatedConnection}
    (h : (Reads.run (g.acceptAuthenticated draw sshUser remoteAddr info fingerprint state)
      history n).1 = .published connection) :
    (Reads.run (g.resolve draw (resolveInput sshUser remoteAddr info) state) history n).1
        = .ok connection.target ∧
      ∃ policy, (resolveSessionPolicy g.opts g.access.isSome sshUser info.extra).run history
        (Reads.next (g.resolve draw (resolveInput sshUser remoteAddr info) state) history n)
          = .ok policy := by
  unfold Components.acceptAuthenticated at h
  rw [Reads.run_stateT_bind] at h
  cases hresult : (Reads.run (g.resolve draw (resolveInput sshUser remoteAddr info) state)
      history n).1 with
  | error err =>
    rw [hresult] at h
    cases h
  | ok tgt =>
    rw [hresult] at h
    dsimp only at h
    rw [Reads.run_stateT_bind, Reads.run_stateT_lift] at h
    dsimp only at h
    cases hpolicy : (resolveSessionPolicy g.opts g.access.isSome sshUser info.extra).run history
        (Reads.next (g.resolve draw (resolveInput sshUser remoteAddr info) state) history n) with
    | error err =>
      rw [hpolicy] at h
      cases h
    | ok policy =>
      rw [hpolicy] at h
      dsimp only at h
      cases hprotocol : g.selectConnectionProtocol tgt policy with
      | error err =>
        rw [hprotocol] at h
        cases h
      | ok protocol =>
        rw [hprotocol] at h
        obtain rfl := Acceptance.published.inj h
        exact ⟨rfl, policy, rfl⟩

/-- A connection whose target, session policy and protocol are found is published. -/
theorem published_of_resolved {tgt : Target} {policy : EffectiveSessionPolicy}
    {protocol : ConnectionProtocol}
    (htarget : (Reads.run (g.resolve draw (resolveInput sshUser remoteAddr info) state) history n).1
      = .ok tgt)
    (hpolicy : (resolveSessionPolicy g.opts g.access.isSome sshUser info.extra).run history
      (Reads.next (g.resolve draw (resolveInput sshUser remoteAddr info) state) history n)
        = .ok policy)
    (hprotocol : g.selectConnectionProtocol tgt policy = .ok protocol) :
    (Reads.run (g.acceptAuthenticated draw sshUser remoteAddr info fingerprint state) history n).1
      = .published { info, target := tgt, fingerprint, protocol } := by
  unfold Components.acceptAuthenticated
  rw [Reads.run_stateT_bind, htarget]
  dsimp only
  rw [Reads.run_stateT_bind, Reads.run_stateT_lift, hpolicy]
  dsimp only
  rw [hprotocol]
  rfl

end Published

/-! ## Connections that an Access authenticated -/

/-- Between the read of the resolver and the read for the session policy the Access comes back: the
resolver does not find it and leaves the user name, a locator of the Access that can also be read as
`namespace.pod` or `namespace.pod.container`, to the direct resolver. -/
structure VanishesAndReturns (history : ℕ → Store) (n : ℕ) (sshUser ns name : GoString) : Prop where
  locator : (parseAccessLocatorFor sshUser ns name).isSome
  vanished : ∃ ns' name', (history n).get ns name = .error (.notFound ns' name')
  returned : ∃ access, (history (n + 1)).get ns name = .ok access
  readsAsPod : ReadsAsPod sshUser

/-- The direct resolver does not pass a user name with a dot on: it reads it as a Pod or fails. -/
theorem readsAsPod_of_directResolve {g : Components} {input : ResolveInput} {tgt : Target}
    (hdot : Byte.dot ∈ input.sshUser) (h : g.directResolve input = .ok tgt) :
    ReadsAsPod input.sshUser := by
  unfold Components.directResolve at h
  have hne := usernameResolve_ne_notProvided hdot
  cases husername : usernameResolve input with
  | ok direct => exact readsAsPod_of_usernameResolve husername
  | error err =>
    rw [husername] at h hne
    cases err with
    | notProvided => exact absurd rfl hne
    | _ => cases h

/-- A target for a connection that carries an Access identity comes from the Access, or the Access
was not found and the direct resolver read the user name as a Pod. -/
theorem fromAccess_of_resolve {g : Components} {r : Resolver} (hr : g.access = some r) {draw : Draw}
    {input : ResolveInput} {state : ResolverState} {history : ℕ → Store} {n : ℕ} {tgt : Target}
    (hcarries : CarriesAccess input.authExtra)
    (h : (Reads.run (g.resolve draw input state) history n).1 = .ok tgt) :
    (∃ access, (history n).get (getExtra input.authExtra extraAccessNamespace)
        (getExtra input.authExtra extraAccessName) = .ok access ∧ FromAccess r access tgt) ∨
      ∃ locator, parseAccessLocatorFor input.sshUser (getExtra input.authExtra extraAccessNamespace)
          (getExtra input.authExtra extraAccessName) = some locator ∧
        (∃ ns' name', (history n).get (getExtra input.authExtra extraAccessNamespace)
          (getExtra input.authExtra extraAccessName) = .error (.notFound ns' name')) ∧
        ReadsAsPod input.sshUser := by
  rw [Gateway.run_resolve hr, AccessPolicy.run_resolve] at h
  rcases run_resolveRequestedAccess_of_carries hcarries input.sshUser history n with
    ⟨locator, hlocator, hrun⟩ | ⟨-, message, hrun⟩
  · obtain ⟨hdot, hns⟩ := dot_mem_of_parseAccessLocatorFor hlocator
    rw [hrun] at h
    cases hget : (history n).get (getExtra input.authExtra extraAccessNamespace)
        (getExtra input.authExtra extraAccessName) with
    | ok access =>
      rw [hget] at h
      change (match (resolveThrough r draw state input locator access).1 with
        | .ok tgt => bindTarget g.binding tgt
        | .error .notProvided => g.directResolve input
        | .error err => .error err) = _ at h
      have hne := resolveThrough_ne_notProvided r draw state input locator access
      cases hthrough : (resolveThrough r draw state input locator access).1 with
      | ok found =>
        rw [hthrough] at h
        have hidentity := ((history n).get_identity hget).1
        have hfrom := resolveThrough_fromAccess (hns.trans hidentity.symm) hthrough
        obtain rfl := Except.ok.inj ((bindTarget_of_fromAccess hfrom g.binding).symm.trans h)
        exact Or.inl ⟨access, rfl, hfrom⟩
      | error err =>
        rw [hthrough] at h hne
        cases err with
        | notProvided => exact absurd rfl hne
        | _ => cases h
    | error err =>
      rw [hget] at h
      cases err with
      | other => cases h
      | notFound ns' name' =>
        -- the chain goes on to the direct resolver
        have hdirect : g.directResolve input = .ok tgt := h
        exact Or.inr ⟨locator, hlocator, ⟨ns', name', rfl⟩, readsAsPod_of_directResolve hdot hdirect⟩
  · rw [hrun] at h
    cases h

/-- With an Access identity, a session policy is only found if the Access is. -/
theorem resolveSessionPolicy_finds {opts : Options} {sshUser : GoString}
    {extra : GoMap (List GoString)} (hcarries : CarriesAccess extra) {history : ℕ → Store} {n : ℕ}
    {policy : EffectiveSessionPolicy}
    (h : (resolveSessionPolicy opts true sshUser extra).run history n = .ok policy) :
    ∃ access, (history n).get (getExtra extra extraAccessNamespace) (getExtra extra extraAccessName)
      = .ok access := by
  unfold resolveSessionPolicy at h
  rw [Reads.run_bind, run_sessionPolicyAccess_of_carries hcarries] at h
  cases hget : (history n).get (getExtra extra extraAccessNamespace)
      (getExtra extra extraAccessName) with
  | ok access => exact ⟨access, rfl⟩
  | error err =>
    rw [hget] at h
    cases h

/-- If every shell is within the limits and the Access is found, so is a session policy. -/
theorem resolveSessionPolicy_of_get {opts : Options} (hshells : opts.policy.limits.shells = [str "*"])
    (sshUser : GoString) {extra : GoMap (List GoString)} (hcarries : CarriesAccess extra)
    {history : ℕ → Store} {n : ℕ} {access : Access}
    (hget : (history n).get (getExtra extra extraAccessNamespace) (getExtra extra extraAccessName)
      = .ok access) :
    (resolveSessionPolicy opts true sshUser extra).run history n
      = .ok (buildAccessSessionPolicy opts (some access)) := by
  unfold resolveSessionPolicy
  rw [Reads.run_bind, run_sessionPolicyAccess_of_carries hcarries, hget]
  dsimp only
  rw [hshells, Wildcard.matchAny_star, if_neg (by simp)]
  rfl

/-- Whatever the gateway, a connection with this user name and Extra whose first read of the store
is the `n`-th is only published with a target produced from the Access the Extra names. -/
def OnlyFromAccess (history : ℕ → Store) (n : ℕ) (sshUser : GoString)
    (extra : GoMap (List GoString)) : Prop :=
  ∀ (g : Components) (r : Resolver), g.access = some r →
    ∀ (draw : Draw) (remoteAddr : Option GoString) (info : AuthenticateInfo) (fingerprint : GoString)
      (state : ResolverState) (connection : AuthenticatedConnection), info.extra = extra →
    (Reads.run (g.acceptAuthenticated draw sshUser remoteAddr info fingerprint state) history n).1
      = .published connection →
    ∃ access, (history n).get (getExtra extra extraAccessNamespace) (getExtra extra extraAccessName)
        = .ok access ∧ FromAccess r access connection.target

/-- A gateway whose direct resolver finds every Pod, with the given container. -/
def directGateway (container : GoString) : Components where
  opts := newDefaultOptions
  access := some { pods := none }
  binding :=
    { pods := fun ns name => .ok { notebookPod with ns, name, containers := [container] }
      defaultMode := str "All"
      limitMode := str "All" }
  podBackend := true
  sshProxy := false

/-- The gateway binds every Pod that a user name can be read as. -/
theorem directGateway_directResolve {input : ResolveInput} (h : ReadsAsPod input.sshUser) :
    ∃ container tgt, (directGateway container).directResolve input = .ok tgt ∧
      tgt.kind = kindPod := by
  obtain ⟨ns, pod, container, hns, hpod, husername⟩ := usernameResolve_of_readsAsPod h
  refine ⟨if container = [] then str "main" else container, ?_⟩
  unfold Components.directResolve
  rw [husername]
  dsimp only
  by_cases hcontainer : container = []
  · subst hcontainer
    exact bindTarget_new hns hpod rfl rfl rfl rfl
  · rw [if_neg hcontainer]
    have hchosen (pod : Pod) (hpod : pod.containers = [container]) :
        resolveContainer pod container = .ok (container, defaultContainer pod) := by
      simp [resolveContainer, hcontainer, hpod]
    exact bindTarget_new hns hpod rfl rfl rfl (hchosen _ rfl)

/-- If the Access vanishes and returns, some gateway publishes a Pod that the direct resolver read
from the user name. -/
theorem published_of_vanishesAndReturns {history : ℕ → Store} {n : ℕ} {sshUser : GoString}
    (info : AuthenticateInfo) (hcarries : CarriesAccess info.extra)
    (h : VanishesAndReturns history n sshUser (getExtra info.extra extraAccessNamespace)
      (getExtra info.extra extraAccessName)) (draw : Draw) (remoteAddr : Option GoString)
    (fingerprint : GoString) (state : ResolverState) :
    ∃ container connection, (Reads.run ((directGateway container).acceptAuthenticated draw sshUser
      remoteAddr info fingerprint state) history n).1 = .published connection := by
  obtain ⟨locator, hlocator⟩ := Option.isSome_iff_exists.mp h.locator
  obtain ⟨ns', name', hmissing⟩ := h.vanished
  obtain ⟨access, hreturned⟩ := h.returned
  have hreads : ReadsAsPod (resolveInput sshUser remoteAddr info).sshUser := h.readsAsPod
  obtain ⟨container, tgt, hdirect, hkind⟩ := directGateway_directResolve hreads
  have haccess : (directGateway container).access = some { pods := none } := rfl
  have htarget : (Reads.run ((directGateway container).resolve draw
      (resolveInput sshUser remoteAddr info) state) history n).1 = .ok tgt := by
    rw [Gateway.run_resolve haccess, AccessPolicy.run_resolve]
    rcases run_resolveRequestedAccess_of_carries hcarries sshUser history n with
      ⟨_, -, hrun⟩ | ⟨hnone, -⟩
    · rw [show (resolveInput sshUser remoteAddr info).sshUser = sshUser from rfl,
        show (resolveInput sshUser remoteAddr info).authExtra = info.extra from rfl, hrun, hmissing]
      exact hdirect
    · rw [hlocator] at hnone
      cases hnone
  have hnext : Reads.next ((directGateway container).resolve draw
      (resolveInput sshUser remoteAddr info) state) history n = n + 1 := by
    rw [Gateway.next_resolve haccess, AccessPolicy.next_resolve]
    exact next_resolveRequestedAccess_of_carries hcarries hlocator history n
  have hshells : newDefaultOptions.policy.limits.shells = [str "*"] := rfl
  have hpolicy := resolveSessionPolicy_of_get hshells sshUser hcarries hreturned
  have hprotocol : (directGateway container).selectConnectionProtocol tgt
      (buildAccessSessionPolicy newDefaultOptions (some access))
        = .ok (.podssh tgt (buildAccessSessionPolicy newDefaultOptions (some access))) := by
    unfold Components.selectConnectionProtocol
    rw [if_pos hkind]
    rfl
  exact ⟨container, _, published_of_resolved htarget (hnext ▸ hpolicy) hprotocol⟩

/-- A connection that carries the identity of an Access is only published with a target of that
Access exactly when the Access does not vanish before the resolver reads it and return before the
session policy is resolved, under a user name that also reads as a Pod. -/
theorem published_from_access_iff (history : ℕ → Store) (n : ℕ) (sshUser : GoString)
    (extra : GoMap (List GoString)) (hcarries : CarriesAccess extra) :
    OnlyFromAccess history n sshUser extra ↔
      ¬ VanishesAndReturns history n sshUser (getExtra extra extraAccessNamespace)
        (getExtra extra extraAccessName) := by
  constructor
  · intro honly hreturns
    obtain ⟨ns', name', hmissing⟩ := hreturns.vanished
    obtain ⟨container, connection, hpublished⟩ := published_of_vanishesAndReturns
      { extra } hcarries hreturns { now := 0, intn := id } none [] {}
    obtain ⟨access, hget, -⟩ := honly _ _ rfl _ _ _ _ _ connection rfl hpublished
    rw [hmissing] at hget
    cases hget
  · intro hreturns g r hr draw remoteAddr info fingerprint state connection hextra hpublished
    subst hextra
    obtain ⟨hresolved, policy, hpolicy⟩ := resolved_of_published hpublished
    rcases fromAccess_of_resolve hr hcarries hresolved with hfrom | ⟨locator, hlocator, hmissing, hpod⟩
    · exact hfrom
    · -- the session policy is read next, and needs the Access
      rw [Gateway.next_resolve hr, AccessPolicy.next_resolve, hr] at hpolicy
      have hnext : (resolveRequestedAccess sshUser info.extra).next history n = n + 1 :=
        next_resolveRequestedAccess_of_carries hcarries hlocator history n
      change (resolveSessionPolicy g.opts true sshUser info.extra).run history
        ((resolveRequestedAccess sshUser info.extra).next history n) = _ at hpolicy
      rw [hnext] at hpolicy
      exact absurd ⟨Option.isSome_iff_exists.mpr ⟨locator, hlocator⟩, hmissing,
        resolveSessionPolicy_finds hcarries hpolicy, hpod⟩ hreturns

/-- The identity of `notebookAccess`, as the Access authenticator puts it into the Extra. -/
def notebookExtra : GoMap (List GoString) :=
  ((AList.insert extraAccessNamespace [str "team"] ∅).insert extraAccessName [str "notebook"]).insert
    extraCredentialUser [str "alice"]

/-- On a store that holds the Access throughout, its connections only get its targets. -/
theorem published_from_access_unchanged :
    CarriesAccess notebookExtra ∧
      ¬ VanishesAndReturns (fun _ => notebookCache.store) 1 (str "team.notebook")
        (getExtra notebookExtra extraAccessNamespace) (getExtra notebookExtra extraAccessName) ∧
      OnlyFromAccess (fun _ => notebookCache.store) 1 (str "team.notebook") notebookExtra := by
  have hcarries : CarriesAccess notebookExtra := by decide
  have hreturns : ¬ VanishesAndReturns (fun _ => notebookCache.store) 1 (str "team.notebook")
      (getExtra notebookExtra extraAccessNamespace) (getExtra notebookExtra extraAccessName) := by
    intro h
    obtain ⟨_, _, hmissing⟩ := h.vanished
    have hfound : notebookCache.store.get (getExtra notebookExtra extraAccessNamespace)
        (getExtra notebookExtra extraAccessName) = .ok notebookAccess := rfl
    cases hfound.symm.trans hmissing
  exact ⟨hcarries, hreturns, (published_from_access_iff _ _ _ _ hcarries).mpr hreturns⟩

/-- The Access is there for the authenticator and for the session policy, but not for the
resolver. -/
def vanishingHistory : ℕ → Store
  | 1 => (PolicyCache.empty [] []).store
  | _ => notebookCache.store

/-- The Pod of the user name, bound by `directGateway`. -/
def notebookDirect : Target :=
  PodTarget.bind { notebookPod with name := str "notebook" } (str "main")

/-- The direct resolver binds a Pod `notebook` in the namespace `team` and the connection is
published with it, although the Access is not there to select it and would select `notebook-0`. -/
theorem published_without_access :
    CarriesAccess notebookExtra ∧
      (vanishingHistory 0).get (str "team") (str "notebook") = .ok notebookAccess ∧
      (vanishingHistory 1).get (str "team") (str "notebook")
        = .error (.notFound (str "team") (str "notebook")) ∧
      ∃ connection, (Reads.run ((directGateway (str "main")).acceptAuthenticated { now := 0, intn := id }
          (str "team.notebook") none { extra := notebookExtra } [] {}) vanishingHistory 1).1
            = .published connection ∧
        parse connection.target
          = .ok { ns := str "team", pod := str "notebook", container := str "main" } :=
  ⟨by decide, rfl, rfl, ⟨{ extra := notebookExtra }, notebookDirect, [],
    .podssh notebookDirect (buildAccessSessionPolicy newDefaultOptions (some notebookAccess))⟩,
    rfl, rfl⟩

end KubeSsh.Gateway

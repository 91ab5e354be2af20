import KubeSsh.AccessPolicy.Resolver
import KubeSsh.Gateway.Options

/-!
# `pkg/gateway`: the session policy of a connection

The session policy (default shell, environment allowlist, timeouts) is built from the options and
the session settings of an Access. `sessionPolicyAccess` finds that Access on its own, after the
target has been resolved: from the Access identity if there is one, else by reading the SSH user
name as `namespace.name`.

`sessionPolicyAccess_eq_resolved_iff` compares it with the Access that the resolver used.
-/

namespace KubeSsh.Gateway

open Strings AccessPolicy Target

/-- `effectiveSessionPolicy` (`session_policy.go:14-23`). -/
structure EffectiveSessionPolicy where
  defaultShell : GoString
  globalEnvAllowlist : List GoString
  accessEnvAllowlist : List GoString
  accessEnvConfigured : Bool
  idleTimeout : ℤ
  maxDuration : ℤ
deriving DecidableEq

/-- `positiveDuration` (`session_policy.go:108-110`). -/
def positiveDuration (duration : ℤ) : ℤ := max duration 0

/-- `boundedDuration` (`session_policy.go:62-73`). -/
def boundedDuration (value limit : ℤ) : ℤ :=
  let value := positiveDuration value
  let limit := positiveDuration limit
  if value = 0 then limit
  else if limit = 0 then value
  else min value limit

/-- `buildGlobalSessionPolicy` (`session_policy.go:25-34`). -/
def buildGlobalSessionPolicy (opts : Options) : EffectiveSessionPolicy where
  defaultShell := opts.policy.defaults.defaultShell
  globalEnvAllowlist := opts.policy.limits.envAllowlist
  accessEnvAllowlist := opts.policy.defaults.envAllowlist
  accessEnvConfigured := true
  idleTimeout := boundedDuration opts.policy.defaults.idleTimeout opts.policy.limits.idleTimeout
  maxDuration := boundedDuration opts.policy.defaults.maxDuration opts.policy.limits.maxDuration

/-- One duration of the session settings: a positive value within the limit replaces the global one
(`session_policy.go:49-58`). -/
def accessDuration (own : Option ℤ) (limit global : ℤ) : ℤ :=
  match own with
  | none => global
  | some duration =>
    if positiveDuration duration > 0 then boundedDuration (positiveDuration duration) limit else global

/-- `buildAccessSessionPolicy` (`session_policy.go:36-60`). -/
def buildAccessSessionPolicy (opts : Options) (access : Option Access) : EffectiveSessionPolicy :=
  let policy := buildGlobalSessionPolicy opts
  match access.bind (·.spec.session) with
  | none => policy
  | some session =>
    { defaultShell := if session.defaultShell ≠ [] then session.defaultShell else policy.defaultShell
      globalEnvAllowlist := policy.globalEnvAllowlist
      accessEnvAllowlist := session.envAllowlist.getD policy.accessEnvAllowlist
      accessEnvConfigured := policy.accessEnvConfigured || session.envAllowlist.isSome
      idleTimeout := accessDuration session.idleTimeout opts.policy.limits.idleTimeout
        policy.idleTimeout
      maxDuration := accessDuration session.maxDuration opts.policy.limits.maxDuration
        policy.maxDuration }

/-- `parseAccessSSHUser` (`session_policy.go:152-158`). -/
def parseAccessSSHUser (sshUser : GoString) : Option (GoString × GoString) :=
  match cut Byte.dot sshUser with
  | none => none
  | some (ns, name) => if ns = [] ∨ name = [] then none else some (ns, name)

/-- `firstExtraValue` (`session_policy.go:160-166`). -/
def firstExtraValue (extra : GoMap (List GoString)) (key : GoString) : GoString :=
  firstValue extra key

/-- `sessionPolicyAccess` (`session_policy.go:129-150`); `accessPolicy` says whether the gateway has
an Access policy. A lookup for a user name that fails counts as no Access. -/
def sessionPolicyAccess (accessPolicy : Bool) (sshUser : GoString)
    (infoExtra : GoMap (List GoString)) : Reads Store (Except Message (Option Access)) :=
  let ns := firstExtraValue infoExtra extraAccessNamespace
  let name := firstExtraValue infoExtra extraAccessName
  if ¬ accessPolicy then return .ok none
  else if ns ≠ [] ∨ name ≠ [] then
    if ns = [] ∨ name = [] then return .error (.text "incomplete access policy identity")
    else do
      match ← getAccess ns name with
      | .error err => return .error err.message
      | .ok access => return .ok (some access)
  else match parseAccessSSHUser sshUser with
    | none => return .ok none
    | some (ns, name) => do
      match ← getAccess ns name with
      | .error _ => return .ok none
      | .ok access => return .ok (some access)

/-- `resolveSessionPolicy` (`session_policy.go:112-123`). -/
def resolveSessionPolicy (opts : Options) (accessPolicy : Bool) (sshUser : GoString)
    (infoExtra : GoMap (List GoString)) : Reads Store (Except Message EffectiveSessionPolicy) := do
  match ← sessionPolicyAccess accessPolicy sshUser infoExtra with
  | .error err => return .error err
  | .ok access =>
    let policy := buildAccessSessionPolicy opts access
    if ¬ Wildcard.matchAny opts.policy.limits.shells policy.defaultShell then
      return .error [.bytes (str "shell "), .quoted policy.defaultShell,
        .bytes (str " exceeds global policy limits")]
    else return .ok policy

/-! ## The Access of the session policy and the Access of the target -/

/-- Gateway and `accesspolicy` read the identity in the same way. -/
theorem firstExtraValue_eq_getExtra : firstExtraValue = getExtra := rfl

/-- With an identity there is one lookup, for that Access. -/
theorem run_sessionPolicyAccess_of_carries {extra : GoMap (List GoString)}
    (h : CarriesAccess extra) (sshUser : GoString) (history : ℕ → Store) (n : ℕ) :
    (sessionPolicyAccess true sshUser extra).run history n =
      match (history n).get (getExtra extra extraAccessNamespace) (getExtra extra extraAccessName) with
      | .error err => .error err.message
      | .ok access => .ok (some access) := by
  unfold sessionPolicyAccess
  rw [firstExtraValue_eq_getExtra]
  dsimp only
  rw [if_neg (by simp), if_pos (Or.inl h.1), if_neg (by rw [not_or]; exact h), Reads.run_bind,
    run_getAccess]
  split <;> rfl

/-- Without an identity the user name is split at its first dot, and a failed lookup is dropped. -/
theorem run_sessionPolicyAccess_of_user {extra : GoMap (List GoString)} {sshUser ns name : GoString}
    (hns : getExtra extra extraAccessNamespace = []) (hname : getExtra extra extraAccessName = [])
    (huser : sshUser = ns ++ Byte.dot :: name) (hdot : Byte.dot ∉ ns) (hns' : ns ≠ [])
    (hname' : name ≠ []) (history : ℕ → Store) (n : ℕ) :
    (sessionPolicyAccess true sshUser extra).run history n =
      match (history n).get ns name with
      | .error _ => .ok none
      | .ok access => .ok (some access) := by
  have hparse : parseAccessSSHUser sshUser = some (ns, name) := by
    rw [parseAccessSSHUser, cut_eq_some_iff.mpr ⟨huser, hdot⟩]
    simp [hns', hname']
  unfold sessionPolicyAccess
  rw [firstExtraValue_eq_getExtra, hns, hname]
  dsimp only
  rw [if_neg (by simp), if_neg (by simp), hparse]
  dsimp only
  rw [Reads.run_bind, run_getAccess]
  split <;> rfl

/-- For a connection that was resolved through an Access, on an unchanged store: the session policy
is built from that Access exactly when the caller carries its identity, or the user name is the bare
name of the Access, without a Pod or container part. -/
theorem sessionPolicyAccess_eq_resolved_iff (store : Store) (r : Resolver) (draw : Draw)
    (state : ResolverState) (input : ResolveInput) (locator : AccessLocator) (access : Access)
    (tgt : Target) (n m : ℕ)
    (hresolves : ResolvesThrough r draw state input (fun _ => store) n locator access tgt) :
    (sessionPolicyAccess true input.sshUser input.authExtra).run (fun _ => store) m
        = .ok (some access) ↔
      CarriesAccess input.authExtra ∨ input.sshUser = access.ns ++ Byte.dot :: access.name := by
  have hlocated := hresolves.located
  by_cases hcarries : CarriesAccess input.authExtra
  · refine ⟨fun _ => Or.inl hcarries, fun _ => ?_⟩
    rcases run_resolveRequestedAccess_of_carries hcarries input.sshUser (fun _ => store) n with
      ⟨_, -, hrun⟩ | ⟨-, message, hrun⟩
    · rw [hrun] at hlocated
      rw [run_sessionPolicyAccess_of_carries hcarries, (locate_eq_some hlocated).2]
    · rw [hrun] at hlocated
      cases hlocated
  · rw [or_iff_right hcarries]
    obtain ⟨hextraNs, hextraName, hreading⟩ := reading_of_located hcarries hlocated
    cases hreading with
    | exact huser hdot hns hname _ hget =>
      obtain ⟨rfl, rfl⟩ := store.get_identity hget
      rw [run_sessionPolicyAccess_of_user hextraNs hextraName huser hdot hns hname, hget]
      exact ⟨fun _ => huser, fun _ => rfl⟩
    | container huser hdot hns _ _ _ _ hmissing hget =>
      -- there is no Access of the whole name, and the failed lookup is dropped
      obtain ⟨rfl, rfl⟩ := store.get_identity hget
      rw [run_sessionPolicyAccess_of_user hextraNs hextraName huser hdot hns (by simp), hmissing]
      refine ⟨fun h => (by cases Except.ok.inj h), fun h => ?_⟩
      rw [huser] at h
      simp at h
    | pod huser hdot hns _ _ _ hget =>
      obtain ⟨rfl, rfl⟩ := store.get_identity hget
      rw [run_sessionPolicyAccess_of_user hextraNs hextraName huser hdot hns (by simp)]
      constructor
      · -- an Access of the whole name has another name
        intro h
        split at h
        · cases Except.ok.inj h
        · rename_i found hfound
          obtain rfl := Option.some.inj (Except.ok.inj h)
          have := (store.get_identity hfound).2
          simp at this
      · intro h
        rw [huser] at h
        simp at h

/-! ## A small deployment -/

/-- A Pod Access that limits its connections to one minute. -/
def notebookAccess : Access where
  ns := str "team"
  name := str "notebook"
  spec := { selector := AList.insert (str "app") (str "notebook") ∅
            session := some { maxDuration := some 60000000000 } }

/-- A Pod that the Access selects. -/
def notebookPod : Pod where
  ns := str "team"
  name := str "notebook-0"
  uid := str "7c1d"
  uid_ne_nil := by decide
  containers := [str "main"]

/-- The cache that holds the Access. -/
def notebookCache : PolicyCache :=
  (PolicyCache.empty [] []).add notebookAccess (show Byte.slash ∉ str "team" by decide)
    (show Byte.slash ∉ str "notebook" by decide)

/-- The resolver over the Pod. -/
def notebookResolver : Resolver where
  pods := some fun _ _ => .ok [notebookPod]

/-- The user name `team.notebook` gets its session policy from the Access it is resolved through. -/
theorem sessionPolicyAccess_bare_name :
    ResolvesThrough notebookResolver { now := 0, intn := id } {} { sshUser := str "team.notebook" }
      (fun _ => notebookCache.store) 0 { ns := str "team", access := str "notebook" } notebookAccess
      (PodTarget.bind notebookPod (str "main")) ∧
    (sessionPolicyAccess true (str "team.notebook") ∅).run (fun _ => notebookCache.store) 1
      = .ok (some notebookAccess) :=
  have hresolves : ResolvesThrough notebookResolver { now := 0, intn := id } {} { sshUser := str "team.notebook" }
      (fun _ => notebookCache.store) 0 { ns := str "team", access := str "notebook" } notebookAccess
      (PodTarget.bind notebookPod (str "main")) := ⟨rfl, rfl⟩
  ⟨hresolves, (sessionPolicyAccess_eq_resolved_iff _ _ _ _ _ _ _ _ 0 1 hresolves).mpr (Or.inr rfl)⟩

/-- The user name `team.notebook.main` is resolved through the Access, but its session policy is
built without it: the maximum duration of the Access is not applied. -/
theorem sessionPolicyAccess_container_name :
    ResolvesThrough notebookResolver { now := 0, intn := id } {} { sshUser := str "team.notebook.main" }
      (fun _ => notebookCache.store) 0
      { ns := str "team", access := str "notebook", container := str "main" } notebookAccess
      (PodTarget.bind notebookPod (str "main")) ∧
    (sessionPolicyAccess true (str "team.notebook.main") ∅).run (fun _ => notebookCache.store) 2
      = .ok none ∧
    (buildAccessSessionPolicy newDefaultOptions (some notebookAccess)).maxDuration = 60000000000 ∧
    (resolveSessionPolicy newDefaultOptions true (str "team.notebook.main") ∅).run
      (fun _ => notebookCache.store) 2 = .ok (buildAccessSessionPolicy newDefaultOptions none) ∧
    (buildAccessSessionPolicy newDefaultOptions none).maxDuration = 0 :=
  ⟨⟨rfl, rfl⟩, rfl, rfl, rfl, rfl⟩

end KubeSsh.Gateway

import KubeSsh.Authz.Basic
import KubeSsh.Common.HostPort
import KubeSsh.Wildcard

/-!
# `pkg/authz`: policy limits

`PolicyLimits` is an authorizer that denies what lies outside its lists and has no opinion on the
rest. `Within` is what a passing request satisfies; `policyLimits_noOpinion_iff` says that passing
and being `Within` are the same unless the request is skipped.
-/

namespace KubeSsh.Authz

open Wildcard

/-- `authz.PolicyLimits` (`policy.go:14-19`). -/
structure PolicyLimits where
  capabilities : List Capability
  localForwardDestinations : List GoString
  remoteForwardBinds : List GoString
  skipAccess : Bool := false

/-- `containsOrWildcard` (`policy.go:45-47`). -/
def containsOrWildcard (values : List Capability) (value : Capability) : Bool :=
  values.contains .wildcard || values.contains value

/-- The `host:port` text of a local forward: `destination` in `policy.go:32`. -/
def Attributes.destination (attributes : Attributes) : GoString :=
  joinHostPort (extraValue attributes.extra (str "destination_host"))
    (extraValue attributes.extra (str "destination_port"))

/-- The `host:port` text of a remote forward: `bind` in `policy.go:37`. -/
def Attributes.bind (attributes : Attributes) : GoString :=
  joinHostPort (extraValue attributes.extra (str "bind_host"))
    (extraValue attributes.extra (str "bind_port"))

/-- The local `isAccess` of `PolicyLimits.Authorize`: some Access name is attached. -/
def Request.isAccess (req : Request) : Bool :=
  (req.authExtra.lookup (str "kube-ssh/access.name")).getD [] ≠ []

/-- `PolicyLimits.Authorize` (`policy.go:21-43`). -/
def PolicyLimits.authorize (p : PolicyLimits) : Authorizer := fun req =>
  if p.skipAccess && req.isAccess then { decision := .noOpinion }
  else if ¬ containsOrWildcard p.capabilities req.capability then
    { decision := .deny, reason := .text "capability exceeds global policy limits" }
  else match req.capability with
    | .localForward =>
      if ¬ matchAny p.localForwardDestinations req.attributes.destination then
        { decision := .deny, reason := .text "local forward destination exceeds global policy limits" }
      else { decision := .noOpinion }
    | .remoteForward =>
      if ¬ matchAny p.remoteForwardBinds req.attributes.bind then
        { decision := .deny, reason := .text "remote forward bind exceeds global policy limits" }
      else { decision := .noOpinion }
    | _ => { decision := .noOpinion }

/-- The request stays within the limits: its capability is listed, and the address of a forward is
matched by an expression of the list for its direction. -/
structure PolicyLimits.Within (p : PolicyLimits) (attributes : Attributes) : Prop where
  capability : .wildcard ∈ p.capabilities ∨ .ofString attributes.action ∈ p.capabilities
  destination : Capability.ofString attributes.action = .localForward →
    ∃ expression ∈ p.localForwardDestinations, isMatch expression attributes.destination = true
  bind : Capability.ofString attributes.action = .remoteForward →
    ∃ expression ∈ p.remoteForwardBinds, isMatch expression attributes.bind = true

theorem containsOrWildcard_iff {values : List Capability} {value : Capability} :
    containsOrWildcard values value = true ↔ .wildcard ∈ values ∨ value ∈ values := by
  simp [containsOrWildcard]

/-- A guard has no opinion on what it passes and denies everything else, never with an error. -/
theorem policyLimits_answer (p : PolicyLimits) (req : Request) :
    p.authorize req = { decision := .noOpinion } ∨
      (p.authorize req).decision = .deny ∧ (p.authorize req).err = none := by
  unfold PolicyLimits.authorize
  split
  · exact Or.inl rfl
  split
  · exact Or.inr ⟨rfl, rfl⟩
  split
  · split
    · exact Or.inr ⟨rfl, rfl⟩
    · exact Or.inl rfl
  · split
    · exact Or.inr ⟨rfl, rfl⟩
    · exact Or.inl rfl
  · exact Or.inl rfl

theorem PolicyLimits.authorize_regular (p : PolicyLimits) : Regular p.authorize := by
  intro req
  rcases policyLimits_answer p req with h | ⟨hd, he⟩
  · exact .of_no_error (by simp [h]) (by rw [h])
  · exact .of_no_error (by simp [hd]) he

/-- A guard does not deny exactly what it has no opinion on. -/
theorem policyLimits_ne_deny_iff (p : PolicyLimits) (req : Request) :
    (p.authorize req).decision ≠ .deny ↔ (p.authorize req).decision = .noOpinion := by
  rcases policyLimits_answer p req with h | ⟨h, -⟩
  · simp [h]
  · simp [h]

/-- A guard that looks at the request has no opinion exactly on the requests within its limits. -/
theorem policyLimits_noOpinion_iff {p : PolicyLimits} {req : Request}
    (hskip : (p.skipAccess && req.isAccess) = false) :
    (p.authorize req).decision = .noOpinion ↔ p.Within req.attributes := by
  have hcap : req.capability = .ofString req.attributes.action := rfl
  by_cases hc : containsOrWildcard p.capabilities req.capability = true
  · have hmem := containsOrWildcard_iff.mp hc
    rw [PolicyLimits.authorize, if_neg (by simp [hskip]), if_neg (by simp [hc])]
    split
    · -- a local forward
      rename_i hforward
      rw [hcap] at hforward
      by_cases hm : matchAny p.localForwardDestinations req.attributes.destination = true
      · rw [if_neg (by simp [hm])]
        refine ⟨fun _ => ⟨hmem, fun _ => matchAny_iff.mp hm, fun h => ?_⟩, fun _ => rfl⟩
        rw [hforward] at h
        cases h
      · rw [if_pos (by simp [hm])]
        refine ⟨fun h => ?_, fun h => absurd (matchAny_iff.mpr (h.destination hforward)) hm⟩
        cases h
    · -- a remote forward
      rename_i hforward
      rw [hcap] at hforward
      by_cases hm : matchAny p.remoteForwardBinds req.attributes.bind = true
      · rw [if_neg (by simp [hm])]
        refine ⟨fun _ => ⟨hmem, fun h => ?_, fun _ => matchAny_iff.mp hm⟩, fun _ => rfl⟩
        rw [hforward] at h
        cases h
      · rw [if_pos (by simp [hm])]
        refine ⟨fun h => ?_, fun h => absurd (matchAny_iff.mpr (h.bind hforward)) hm⟩
        cases h
    · rename_i hlocal hremote
      exact ⟨fun _ => ⟨hmem, fun h => absurd h hlocal, fun h => absurd h hremote⟩, fun _ => rfl⟩
  · rw [PolicyLimits.authorize, if_neg (by simp [hskip]), if_pos (by simp [hc])]
    refine ⟨fun h => ?_, fun h => absurd (containsOrWildcard_iff.mpr h.capability) hc⟩
    cases h

/-- A skipped request is passed unseen. -/
theorem policyLimits_of_skip {p : PolicyLimits} {req : Request}
    (hskip : (p.skipAccess && req.isAccess) = true) : p.authorize req = { decision := .noOpinion } := by
  rw [PolicyLimits.authorize, if_pos hskip]

/-- In a chain, a guard lets the later members answer exactly when it has no opinion. -/
theorem policyLimits_final_iff (p : PolicyLimits) (req : Request) :
    (p.authorize req).Final ↔ (p.authorize req).decision ≠ .noOpinion := by
  rcases policyLimits_answer p req with h | ⟨hd, he⟩
  · rw [h]
    simp [Answer.Final]
  · simp [Answer.Final, hd]

end KubeSsh.Authz

import KubeSsh.AccessPolicy.Credentials
import KubeSsh.Gateway.Accept
import KubeSsh.Gateway.Operation

/-!
# `pkg/gateway`: Pod targets stay within the container policy

A Pod target comes from one of three resolvers. The Access resolver selects and binds the Pod
itself; the targets of the user name and of hints are bound by the binding resolver, with checks of
its own. `pod_target_confined` says what all of them guarantee about the Pod and its container, and
that the Access authorizer, which checks the container again for every operation, agrees.
-/

namespace KubeSsh.Gateway

open Authn Authz AccessPolicy PodTarget Target SshProtocol

/-- The resolver of a gateway with Access policies (`dependencies.go:122-126`): the Access resolver
and the binding resolver get the same container policy. -/
def policyResolve (r : Resolver) (pods : PodGetter) (draw : Draw) (input : ResolveInput) :
    StateT ResolverState (Reads Store) (Except ResolveError Target) :=
  bindingResolve { pods, defaultMode := r.policy.defaultMode, limitMode := r.policy.limitMode }
    (chainResolve (buildResolver (some r) draw)) input

/-- The gateway that `policyResolve` belongs to. -/
def policyComponents (r : Resolver) (pods : PodGetter) : Components where
  opts := newDefaultOptions
  access := some r
  binding := { pods, defaultMode := r.policy.defaultMode, limitMode := r.policy.limitMode }
  podBackend := true
  sshProxy := true

/-! ## The Access authorizer on a resolved target -/

/-- Every operation is authorized for the resources of its target, and some more of other kinds. -/
theorem resources_connectionOperationSpec (shlex : GoString → List GoString) (tgt : Target)
    (operation : Operation) :
    ∃ more, (connectionOperationSpec shlex tgt operation).attrs.resources
      = targetResources tgt ++ more := by
  unfold connectionOperationSpec
  split
  · exact ⟨_, rfl⟩
  split
  · exact ⟨_, rfl⟩
  split
  · exact ⟨[], (List.append_nil _).symm⟩
  split
  · exact ⟨[], (List.append_nil _).symm⟩
  split
  · exact ⟨[], (List.append_nil _).symm⟩
  · exact ⟨[], (List.append_nil _).symm⟩

/-- The container an operation is authorized for is the one its target names. -/
theorem container_of_operation (shlex : GoString → List GoString) {tgt : Target}
    (hnamed : tgt.option optionContainers ≠ []) (operation : Operation) :
    resourceValue (connectionOperationSpec shlex tgt operation).attrs.resources optionContainers
      = tgt.option optionContainers := by
  obtain ⟨more, hresources⟩ := resources_connectionOperationSpec shlex tgt operation
  have hfind : (targetResources tgt).find? (fun item => item.resource = optionContainers)
      = (tgt.options.find? fun option => option.key = optionContainers).map
          fun option => { resource := option.key, name := option.value } := by
    have hfirst : ¬ str "targets" = optionContainers := by decide
    rw [targetResources, List.find?_cons_of_neg (by simpa using hfirst), List.find?_map]
    rfl
  unfold Target.option at hnamed ⊢
  rw [resourceValue, hresources, List.find?_append, hfind]
  cases hoption : tgt.options.find? fun option => option.key = optionContainers with
  | none =>
    rw [hoption] at hnamed
    exact absurd rfl hnamed
  | some option => rfl

theorem capabilityAllowed_reason_ne (policy : CapabilityPolicy) (defaults : CapabilityDefaults)
    (attrs : Attributes) :
    (capabilityAllowed policy defaults attrs).2 ≠ .text "container not allowed" := by
  have hreasons : ∀ answer : Bool × Message,
      answer = (false, .text "capability not allowed") ∨
        answer = (false, .text "local forward destination not allowed") ∨
        answer = (false, .text "remote forward bind not allowed") ∨ answer = (true, []) →
      answer.2 ≠ .text "container not allowed" := by
    rintro answer (rfl | rfl | rfl | rfl) <;> decide
  apply hreasons
  unfold capabilityAllowed
  generalize (if policy.allow = [] then defaults.allow else policy.allow) = capabilities
  dsimp only
  split
  · exact Or.inl rfl
  split
  · split <;> simp
  · split <;> simp
  · simp

/-- The authorizer denies for the container only if it finds the Access and the credential, and one
of their lists does not allow it. -/
theorem denied_for_container {store : Store} {defaults : CapabilityDefaults} {req : Authz.Request}
    (h : (authorize (some store) defaults req).reason = .text "container not allowed") :
    CompleteIdentity req.authExtra ∧ ∃ access credential,
      store.get (getExtra req.authExtra extraAccessNamespace)
        (getExtra req.authExtra extraAccessName) = .ok access ∧
      findCredential access (getExtra req.authExtra extraCredentialUser) = some credential ∧
      ¬ (AccessPolicy.containerAllowed access.spec.containers
          (resourceValue req.attributes.resources optionContainers) = true ∧
        AccessPolicy.containerAllowed credential.containers
          (resourceValue req.attributes.resources optionContainers) = true) := by
  unfold authorize at h
  dsimp only at h
  split at h
  · cases h
  rename_i hidentity
  push Not at hidentity
  split at h
  · cases h
  rename_i access haccess
  split at h
  · cases h
  rename_i credential hcredential
  split at h
  · rename_i hdenied
    refine ⟨hidentity, access, credential, haccess, hcredential, ?_⟩
    rw [not_and_or]
    exact hdenied.2
  · split at h
    · exact absurd h (capabilityAllowed_reason_ne _ _ _)
    · cases h

/-! ## Confinement -/

/-- A Pod target that the resolvers behind the Access resolver provide names a container of the Pod
that is looked up for it. -/
theorem names_of_directResolve {g : Components} {input : ResolveInput} {tgt : Target}
    (hkind : tgt.kind = kindPod) (h : g.directResolve input = .ok tgt) :
    ∃ pod, g.binding.pods (tgt.option optionNamespaces) (tgt.option optionPods) = .ok pod ∧
      Names g.binding.limitMode pod tgt := by
  have hbound : ∀ logical : Target, logical.Logical → bindTarget g.binding logical = .ok tgt →
      ∃ pod, g.binding.pods (tgt.option optionNamespaces) (tgt.option optionPods) = .ok pod ∧
        Names g.binding.limitMode pod tgt := by
    intro logical hlogical hbind
    exact names_of_bindTarget hlogical ((kind_bindTarget hbind).symm.trans hkind) hbind
  unfold Components.directResolve at h
  split at h
  · rename_i logical husername
    exact hbound logical (logical_of_usernameResolve husername) h
  · split at h
    · rename_i logical hhint
      exact hbound logical (logical_of_hintResolve hhint) h
    · cases h
  · cases h

section Resolved

variable {r : Resolver} {pods : PodGetter} {draw : Draw} {input : ResolveInput}
  {state : ResolverState} {store : Store} {tgt : Target}

/-- A Pod target was resolved through the Access of the connection, or there is none. -/
theorem names_of_policyResolve
    (h : (Reads.run (policyResolve r pods draw input state) (fun _ => store) 0).1 = .ok tgt)
    (hkind : tgt.kind = kindPod) :
    ∃ pod, Names r.policy.limitMode pod tgt ∧
      ((∃ locator access, (resolveRequestedAccess input.sshUser input.authExtra).run (fun _ => store) 0
            = .ok (some (locator, access)) ∧
          Selects r access pod ∧ Grants r input access pod (tgt.option optionContainers)) ∨
        (resolveRequestedAccess input.sshUser input.authExtra).run (fun _ => store) 0 = .ok none ∧
          pods (tgt.option optionNamespaces) (tgt.option optionPods) = .ok pod) := by
  have hrun := Gateway.run_resolve (show (policyComponents r pods).access = some r from rfl) draw
    input state (fun _ => store) 0
  rw [AccessPolicy.run_resolve] at hrun
  have hresolved := hrun.symm.trans h
  cases hlocated : (resolveRequestedAccess input.sshUser input.authExtra).run (fun _ => store) 0 with
  | error err =>
    have hne := resolveRequestedAccess_ne_notProvided input.sshUser input.authExtra (fun _ => store) 0
    rw [hlocated] at hresolved hne
    cases err with
    | notProvided => exact absurd rfl hne
    | _ => cases hresolved
  | ok located =>
    rw [hlocated] at hresolved
    cases located with
    | none =>
      obtain ⟨pod, hpod, hnames⟩ := names_of_directResolve hkind hresolved
      exact ⟨pod, hnames, Or.inr ⟨rfl, hpod⟩⟩
    | some found =>
      obtain ⟨locator, access⟩ := found
      have hns := ns_of_located hlocated
      have hne := resolveThrough_ne_notProvided r draw state input locator access
      dsimp only at hresolved
      cases hthrough : (resolveThrough r draw state input locator access).1 with
      | error err =>
        rw [hthrough] at hresolved hne
        cases err with
        | notProvided => exact absurd rfl hne
        | _ => cases hresolved
      | ok found =>
        have hfrom := resolveThrough_fromAccess hns hthrough
        have hbound : bindTarget (policyComponents r pods).binding found = .ok tgt := by
          rw [hthrough] at hresolved
          exact hresolved
        obtain rfl := Except.ok.inj ((bindTarget_of_fromAccess hfrom _).symm.trans hbound)
        obtain ⟨pod, hselects, hnames, hgrants⟩ := resolveThrough_pod hns hkind hthrough
        exact ⟨pod, hnames, Or.inl ⟨locator, access, rfl, hselects, hgrants⟩⟩

/-- Every Pod target that is resolved names a regular container of its Pod that the limit mode
allows. If the connection has an Access, the Pod is an active one that the Access selects and the
container is granted by the Access and by the credential of the caller; otherwise it is the Pod that
its options name. The Access authorizer, on the same store, does not deny an operation on the target
for its container. -/
theorem pod_target_confined
    (h : (Reads.run (policyResolve r pods draw input state) (fun _ => store) 0).1 = .ok tgt)
    (hkind : tgt.kind = kindPod) :
    (∃ pod, Names r.policy.limitMode pod tgt ∧
      ((∃ locator access, (resolveRequestedAccess input.sshUser input.authExtra).run (fun _ => store) 0
            = .ok (some (locator, access)) ∧
          Selects r access pod ∧ Grants r input access pod (tgt.option optionContainers)) ∨
        (resolveRequestedAccess input.sshUser input.authExtra).run (fun _ => store) 0 = .ok none ∧
          pods (tgt.option optionNamespaces) (tgt.option optionPods) = .ok pod)) ∧
    ∀ (shlex : GoString → List GoString) (operation : Operation) (defaults : CapabilityDefaults)
      (req : Authz.Request), req.authExtra = input.authExtra →
      req.attributes = (connectionOperationSpec shlex tgt operation).attrs →
        (authorize (some store) defaults req).reason ≠ .text "container not allowed" := by
  obtain ⟨pod, hnames, hthrough⟩ := names_of_policyResolve h hkind
  refine ⟨⟨pod, hnames, hthrough⟩, fun shlex operation defaults req hextra hattributes hdenied => ?_⟩
  obtain ⟨hcomplete, access, credential, hget, hcredential, hcontainer⟩ := denied_for_container hdenied
  rw [hextra] at hcomplete hget hcredential
  rw [hattributes, container_of_operation shlex hnames.named] at hcontainer
  have hcarries : CarriesAccess input.authExtra := ⟨hcomplete.1, hcomplete.2.1⟩
  rcases hthrough with ⟨locator, found, hlocated, -, hgrants⟩ | ⟨hnone, -⟩
  · -- the Access the authorizer finds is the one the target was resolved through
    have hsame := (get_of_located hcarries hlocated).1
    obtain rfl := Except.ok.inj (hget.symm.trans hsame)
    refine hcontainer ⟨?_, hgrants.credential credential hcredential⟩
    unfold AccessPolicy.containerAllowed
    by_cases hlist : access.spec.containers = []
    · rw [hlist]
      rfl
    · rw [hgrants.listed hlist, Bool.or_true]
  · rcases run_resolveRequestedAccess_of_carries hcarries input.sshUser (fun _ => store) 0 with
      ⟨locator, -, hrun⟩ | ⟨-, message, hrun⟩
    · rw [hget] at hrun
      cases hrun.symm.trans hnone
    · cases hrun.symm.trans hnone

end Resolved

/-- The connection `team.notebook` gets the only container of the Pod the Access selects, and the
authorizer then looks at nothing but capabilities. -/
theorem pod_target_confined_notebook :
    (Reads.run (policyResolve notebookResolver (fun _ _ => .error []) { now := 0, intn := id }
        { sshUser := str "team.notebook", authExtra := notebookExtra } {})
        (fun _ => notebookCache.store) 0).1 = .ok (PodTarget.bind notebookPod (str "main")) ∧
      ∃ pod, Names (str "All") pod (PodTarget.bind notebookPod (str "main")) := by
  have hresolved : (Reads.run (policyResolve notebookResolver (fun _ _ => .error []) { now := 0, intn := id }
      { sshUser := str "team.notebook", authExtra := notebookExtra } {})
      (fun _ => notebookCache.store) 0).1 = .ok (PodTarget.bind notebookPod (str "main")) := rfl
  obtain ⟨⟨pod, hnames, -⟩, -⟩ := pod_target_confined hresolved rfl
  exact ⟨hresolved, pod, hnames⟩

end KubeSsh.Gateway

import KubeSsh.AccessPolicy.Grammar
import KubeSsh.AccessPolicy.StatusOrder

/-!
# `pkg/accesspolicy`: readiness and resolution

The Ready condition reports whether an Access has a usable target, and `Resolver.Resolve` finds one.
They select Pods and containers on their own: `statusContainer` skips a Pod whose default container
does not exist (`Defaulted`), and resolution can only use a container that some user name leads to.

`ready_iff_connectable` says when the two agree: where every Pod with a container that the policies
offer has its default container, and one of the containers it offers can be addressed by a user
name.
-/

namespace KubeSsh.AccessPolicy

open Strings Target

/-! ## What both components check -/

/-- The Access, the modes and the credential allow to request a container of the Pod. -/
def permits (policy : ContainerPolicy) (access : Access) (credential : AccessCredential) (pod : Pod)
    (container : GoString) : Bool :=
  (if access.spec.containers ≠ [] then containerAllowed access.spec.containers container
    else PodTarget.containerAllowed policy.defaultMode true container (PodTarget.defaultContainer pod)) &&
  PodTarget.containerAllowed policy.limitMode true container (PodTarget.defaultContainer pod) &&
  containerAllowed credential.containers container

/-- The default container of the Pod exists. -/
def Defaulted (pod : Pod) : Prop := PodTarget.defaultContainer pod ∈ pod.containers

/-- A container of an active Pod that the policies allow to a credential of the Access. -/
structure Offers (policy : ContainerPolicy) (access : Access) (pods : List Pod)
    (credential : AccessCredential) (pod : Pod) (container : GoString) : Prop where
  credential_mem : credential ∈ access.spec.credentials
  active : pod ∈ activePods pods
  container_mem : container ∈ pod.containers
  permitted : permits policy access credential pod container = true

/-- The mode does not distinguish the default container that was requested from the one that was
not. -/
theorem containerAllowed_explicit (mode : GoString) {explicit : Bool} {container default : GoString}
    (h : explicit = false → container = default) :
    PodTarget.containerAllowed mode explicit container default
      = PodTarget.containerAllowed mode true container default := by
  cases explicit with
  | true => rfl
  | false =>
    unfold PodTarget.containerAllowed
    simp [h rfl]

theorem containerPermitted_eq_permits {r : Resolver} {input : ResolveInput} {access : Access}
    {credential : AccessCredential} {pod : Pod} {requested container default : GoString}
    (hcredential : findCredential access (getExtra input.authExtra extraCredentialUser)
      = some credential)
    (hcontainer : PodTarget.resolveContainer pod requested = .ok (container, default)) :
    containerPermitted r input access (requested ≠ []) container default
      = permits r.policy access credential pod container := by
  have hdefault : decide (requested ≠ []) = false → container = default := by
    intro hrequested
    rw [PodTarget.eq_of_resolveContainer hcontainer, if_pos (by simpa using hrequested)]
  obtain ⟨-, -, rfl⟩ := PodTarget.resolveContainer_eq_ok hcontainer
  unfold containerPermitted permits
  rw [hcredential, containerAllowed_explicit _ hdefault, containerAllowed_explicit _ hdefault]
  rfl

/-! ## Readiness -/

theorem containerUsable_iff {c : StatusController} {access : Access} {pod : Pod} {container : GoString} :
    c.containerUsable access container (PodTarget.defaultContainer pod) = true ↔
      ∃ credential ∈ access.spec.credentials, permits c.policy access credential pod container = true := by
  have hdefault : decide (container ≠ PodTarget.defaultContainer pod) = false →
      container = PodTarget.defaultContainer pod := by simp
  unfold StatusController.containerUsable permits
  dsimp only
  rw [containerAllowed_explicit _ hdefault, containerAllowed_explicit _ hdefault]
  simp only [Bool.and_eq_true, List.any_eq_true]
  constructor
  · rintro ⟨hallowed, credential, hmem, hcredential⟩
    exact ⟨credential, hmem, hallowed, hcredential⟩
  · rintro ⟨credential, hmem, hallowed, hcredential⟩
    exact ⟨hallowed, credential, hmem, hcredential⟩

theorem resolveContainer_nil (pod : Pod) (hnil : [] ∉ pod.containers) :
    (Defaulted pod ∧ PodTarget.resolveContainer pod []
      = .ok (PodTarget.defaultContainer pod, PodTarget.defaultContainer pod)) ∨
    ¬ Defaulted pod ∧ ∃ err, PodTarget.resolveContainer pod [] = .error err := by
  unfold PodTarget.resolveContainer Defaulted
  dsimp only
  rw [if_pos rfl]
  by_cases hmem : PodTarget.defaultContainer pod ∈ pod.containers
  · have hne : PodTarget.defaultContainer pod ≠ [] := fun h => hnil (h ▸ hmem)
    rw [if_neg hne, if_pos hmem]
    exact Or.inl ⟨hmem, rfl⟩
  · rw [if_neg hmem]
    split
    · exact Or.inr ⟨hmem, _, rfl⟩
    · exact Or.inr ⟨hmem, _, rfl⟩

theorem statusContainer_ne_nil_iff {c : StatusController} {access : Access} {pod : Pod}
    (hnil : [] ∉ pod.containers) :
    c.statusContainer pod access ≠ [] ↔ Defaulted pod ∧ ∃ container ∈ pod.containers,
      ∃ credential ∈ access.spec.credentials, permits c.policy access credential pod container = true := by
  unfold StatusController.statusContainer
  rcases resolveContainer_nil pod hnil with ⟨hdefault, hresolve⟩ | ⟨hdefault, err, hresolve⟩
  · rw [hresolve]
    dsimp only
    simp only [hdefault, true_and]
    cases hfind : pod.containers.find? fun container =>
        c.containerUsable access container (PodTarget.defaultContainer pod) with
    | none =>
      have hnone := List.find?_eq_none.mp hfind
      simp only [Option.getD_none, ne_eq, not_true_eq_false, false_iff]
      rintro ⟨container, hmem, hpermits⟩
      exact hnone container hmem (containerUsable_iff.mpr hpermits)
    | some container =>
      have hmem := List.mem_of_find?_eq_some hfind
      have husable := List.find?_some hfind
      have hne : container ≠ [] := fun h => hnil (h ▸ hmem)
      exact ⟨fun _ => ⟨container, hmem, containerUsable_iff.mp husable⟩, fun _ => hne⟩
  · rw [hresolve]
    simp [hdefault]

theorem candidatePods_ne_nil_iff {pods : List Pod} :
    candidatePods pods ≠ [] ↔ ∃ pod, pod ∈ activePods pods := by
  constructor
  · intro h
    obtain ⟨pod, hpod⟩ := List.exists_mem_of_ne_nil _ h
    exact ⟨pod, mem_activePods_of_mem_candidatePods hpod⟩
  · rintro ⟨pod, hpod⟩ hnil
    unfold candidatePods at hnil
    dsimp only at hnil
    split at hnil
    · rename_i hready
      exact hready (List.length_eq_zero_iff.mp (by simpa using congrArg List.length hnil))
    · have hempty : activePods pods = [] :=
        List.length_eq_zero_iff.mp (by simpa using congrArg List.length hnil)
      rw [hempty] at hpod
      cases hpod

/-- The Pods that the Access selects, none if they cannot be listed. -/
def listedPods (pods : Option PodLister) (access : Access) : List Pod :=
  match pods with
  | none => []
  | some list =>
    match list access.ns access.spec.selector with
    | .error _ => []
    | .ok pods => pods

/-- A valid Pod Access is ready if the policies offer a container of a Pod with a default
container. -/
theorem readiness_iff {c : StatusController} {access : Access} (hpod : isPodAccess access = true)
    (hnil : ∀ pod ∈ listedPods c.pods access, [] ∉ pod.containers) :
    (c.readiness access .isTrue).1 = .isTrue ↔ ∃ credential pod container,
      Offers c.policy access (listedPods c.pods access) credential pod container ∧ Defaulted pod := by
  have htype : access.spec.type ≠ .external := by
    intro htype
    simp [isPodAccess, htype] at hpod
  unfold StatusController.readiness
  rw [if_neg (by simp), if_neg htype]
  unfold listedPods at hnil ⊢
  revert hnil
  cases c.pods with
  | none =>
    intro _
    simp only [reduceCtorEq, false_iff, not_exists]
    rintro credential pod container ⟨⟨-, hactive, -, -⟩, -⟩
    exact List.not_mem_nil (mem_activePods.mp hactive).1
  | some list =>
    dsimp only
    cases list access.ns access.spec.selector with
    | error err =>
      intro _
      simp only [reduceCtorEq, false_iff, not_exists]
      rintro credential pod container ⟨⟨-, hactive, -, -⟩, -⟩
      exact List.not_mem_nil (mem_activePods.mp hactive).1
    | ok pods =>
      intro hnil
      dsimp only at hnil ⊢
      rw [apply_ite Prod.fst, ite_eq_iff]
      simp only [reduceCtorEq, and_false, and_true, false_or]
      rw [← Ne, candidatePods_ne_nil_iff]
      constructor
      · rintro ⟨pod, hactive⟩
        obtain ⟨hmem, hlive⟩ := mem_activePods.mp hactive
        obtain ⟨hmem, hstatus⟩ := List.mem_filter.mp hmem
        obtain ⟨hdefault, container, hcontainer, credential, hcredential, hpermits⟩ :=
          (statusContainer_ne_nil_iff (hnil pod hmem)).mp (by simpa using hstatus)
        exact ⟨credential, pod, container,
          ⟨hcredential, mem_activePods.mpr ⟨hmem, hlive⟩, hcontainer, hpermits⟩, hdefault⟩
      · rintro ⟨credential, pod, container, ⟨hcredential, hactive, hcontainer, hpermits⟩, hdefault⟩
        obtain ⟨hmem, hlive⟩ := mem_activePods.mp hactive
        have hstatus : c.statusContainer pod access ≠ [] := (statusContainer_ne_nil_iff (hnil pod hmem)).mpr
          ⟨hdefault, container, hcontainer, credential, hcredential, hpermits⟩
        exact ⟨pod, mem_activePods.mpr ⟨List.mem_filter.mpr ⟨hmem, by simpa using hstatus⟩, hlive⟩⟩

/-! ## Connecting -/

/-- The caller has the identity of the Access and of one of its credentials. -/
structure Identifies (access : Access) (credential : AccessCredential) (input : ResolveInput) : Prop where
  ns : getExtra input.authExtra extraAccessNamespace = access.ns
  name : getExtra input.authExtra extraAccessName = access.name
  user : getExtra input.authExtra extraCredentialUser = credential.username

/-- Some user name leads a credential of the Access to a target, in some state of the selector. -/
def Connectable (r : Resolver) (store : Store) (access : Access) : Prop :=
  ∃ credential ∈ access.spec.credentials, ∃ input draw state tgt, Identifies access credential input
    ∧ (Reads.run (resolve r draw input state) (fun _ => store) 0).1 = .ok tgt

/-- The Pod is the one that is found by its name. -/
structure Denoted (pods : List Pod) (pod : Pod) : Prop where
  name_ne_nil : pod.name ≠ []
  found : (activePods pods).find? (fun other => other.name = pod.name) = some pod

/-- A user name spells the container of the Pod: `~pod` if it is the default container, else
`~pod.container` unless that is the name of another active Pod. -/
structure Addressed (pods : List Pod) (pod : Pod) (container : GoString) : Prop where
  denoted : Denoted pods pod
  spelled : container = PodTarget.defaultContainer pod ∨ Byte.dot ∉ container ∧
    pod.name.head? ≠ some Byte.dot ∧ ¬ ActiveName pods (pod.name ++ Byte.dot :: container)

/-- A Pod Access is resolved to a container of a Pod. -/
theorem resolveThrough_of_isPodAccess {r : Resolver} {draw : Draw} {state : ResolverState}
    {input : ResolveInput} {locator : AccessLocator} {access : Access}
    (hpod : isPodAccess access = true) :
    resolveThrough r draw state input locator access = resolvePod r draw state input locator access := by
  have htype : access.spec.type ≠ .external := by
    intro htype
    simp [isPodAccess, htype] at hpod
  unfold resolveThrough
  rw [if_neg htype, if_neg (not_not.mpr hpod)]

section Connecting

variable {r : Resolver} {store : Store} {access : Access} {credential : AccessCredential}
  {input : ResolveInput} {draw : Draw} {state : ResolverState} {tgt : Target}

/-- With the identity of the Access, resolution parses the user name and resolves a Pod. -/
theorem resolve_eq_ok_iff_of_identifies (hpod : isPodAccess access = true)
    (hget : store.get access.ns access.name = .ok access) (hns : access.ns ≠ []) (hname : access.name ≠ [])
    (hidentifies : Identifies access credential input) :
    (Reads.run (resolve r draw input state) (fun _ => store) 0).1 = .ok tgt ↔
      ∃ locator, parseAccessLocatorFor input.sshUser access.ns access.name = some locator ∧
        (resolvePod r draw state input locator access).1 = .ok tgt := by
  have hcarries : CarriesAccess input.authExtra :=
    ⟨hidentifies.ns ▸ hns, hidentifies.name ▸ hname⟩
  have hrun := run_resolveRequestedAccess_of_carries hcarries input.sshUser (fun _ => store) 0
  rw [hidentifies.ns, hidentifies.name, hget] at hrun
  rw [resolve_eq_ok_iff]
  constructor
  · rintro ⟨locator, access', hlocated, hresolved⟩
    rcases hrun with ⟨locator', hparse, hrun⟩ | ⟨-, message, hrun⟩
    · rw [hrun] at hlocated
      obtain ⟨rfl, rfl⟩ := Prod.mk.inj (Option.some.inj (Except.ok.inj hlocated))
      rw [resolveThrough_of_isPodAccess hpod] at hresolved
      exact ⟨locator', hparse, hresolved⟩
    · rw [hrun] at hlocated
      cases hlocated
  · rintro ⟨locator, hparse, hresolved⟩
    rcases hrun with ⟨locator', hparse', hrun⟩ | ⟨hnone, -⟩
    · obtain rfl := Option.some.inj (hparse.symm.trans hparse')
      refine ⟨locator, access, hrun, ?_⟩
      rw [resolveThrough_of_isPodAccess hpod]
      exact hresolved
    · cases hparse.symm.trans hnone

variable {container : GoString} {pod : Pod}

/-- The user names of the grammar are parsed as they are spelled. -/
theorem parseAccessLocatorFor_locatorText (access : Access) (pod : GoString)
    (hdot : Byte.dot ∉ container) :
    parseAccessLocatorFor (locatorText access pod container) access.ns access.name =
      some { ns := access.ns, access := access.name
             pod := if pod = [] then [] else pod ++ if container = [] then [] else Byte.dot :: container
             container := if pod = [] then container else [] } := by
  unfold locatorText
  by_cases hpod : pod = []
  · by_cases hcontainer : container = []
    · rw [if_pos hpod, if_pos hcontainer, List.append_nil, List.append_nil, parseAccessLocatorFor]
      simp [hpod, hcontainer]
    · rw [if_pos hpod, if_neg hcontainer, List.append_nil, parseAccessLocatorFor_append,
        if_neg (by decide), if_pos rfl, if_pos ⟨hcontainer, hdot⟩]
      simp [hpod]
  · rw [if_neg hpod, List.append_assoc, List.cons_append, parseAccessLocatorFor_append, if_pos rfl,
      if_pos (by simp [hpod])]
    simp [hpod]

theorem exists_identifies (hcredential : credential ∈ access.spec.credentials) (sshUser : GoString) :
    ∃ input, Identifies access credential input ∧ input.sshUser = sshUser := by
  obtain ⟨i, hi, rfl⟩ := List.mem_iff_getElem.mp hcredential
  exact ⟨{ sshUser, authExtra := authExtra ⟨access, ⟨i, hi⟩⟩ [] },
    ⟨getExtra_authExtra_namespace _ _, getExtra_authExtra_name _ _, getExtra_authExtra_user _ _⟩, rfl⟩

theorem selectPodByName_of_denoted {pods : List Pod} (h : Denoted pods pod)
    (access : Access) (selector : SelectorState) :
    ∃ connectionKey, (selectPodByName selector access pods pod.name).1 = some (pod, connectionKey) := by
  unfold selectPodByName
  rw [h.found]
  exact ⟨_, rfl⟩

theorem resolveContainer_of_mem (hmem : container ∈ pod.containers) (hne : container ≠ []) :
    PodTarget.resolveContainer pod container = .ok (container, PodTarget.defaultContainer pod) := by
  unfold PodTarget.resolveContainer
  dsimp only
  rw [if_neg hne, if_neg hne, if_pos hmem]

theorem listedPods_eq {list : PodLister} {pods : List Pod} (hlist : r.pods = some list)
    (hpods : list access.ns access.spec.selector = .ok pods) : listedPods r.pods access = pods := by
  unfold listedPods
  rw [hlist]
  dsimp only
  rw [hpods]

theorem exists_list_of_mem (h : pod ∈ activePods (listedPods r.pods access)) :
    ∃ list, r.pods = some list ∧ list access.ns access.spec.selector = .ok (listedPods r.pods access) := by
  unfold listedPods at h ⊢
  cases hlist : r.pods with
  | none =>
    rw [hlist] at h
    cases h
  | some list =>
    refine ⟨list, rfl, ?_⟩
    dsimp only
    cases hpods : list access.ns access.spec.selector with
    | error err =>
      rw [hlist] at h
      dsimp only at h
      rw [hpods] at h
      cases h
    | ok pods => rfl

/-- Resolution returns offered containers. -/
theorem offers_of_resolvePod {locator : AccessLocator}
    (hfind : findCredential access credential.username = some credential)
    (hidentifies : Identifies access credential input) (hns : locator.ns = access.ns)
    (h : (resolvePod r draw state input locator access).1 = .ok tgt) :
    ∃ pod container, Offers r.policy access (listedPods r.pods access) credential pod container := by
  obtain ⟨list, pods, explicit, pod, connectionKey, container, default, hlist, hpods, -, hsel,
    hcontainer, hpermitted, -⟩ := resolvePod_eq_ok_iff.mp h
  rw [hns] at hpods
  rw [listedPods_eq hlist hpods]
  rw [← hidentifies.user] at hfind
  obtain ⟨hmem, -, -⟩ := PodTarget.resolveContainer_eq_ok hcontainer
  rw [containerPermitted_eq_permits hfind hcontainer] at hpermitted
  exact ⟨pod, container, List.mem_of_find?_eq_some hfind, mem_activePods_of_selected hsel, hmem,
    hpermitted⟩

/-- An offered container is resolved as soon as the user name asks for it. -/
theorem resolvePod_of_offers {default connectionKey : GoString} {locator explicit : AccessLocator}
    (hfind : findCredential access credential.username = some credential)
    (hidentifies : Identifies access credential input)
    (hoffers : Offers r.policy access (listedPods r.pods access) credential pod container)
    (hns : locator.ns = access.ns)
    (hexplicit : locator.explicit (listedPods r.pods access) = some explicit)
    (hsel : (if explicit.pod ≠ [] then
        selectPodByName state.selector access (listedPods r.pods access) explicit.pod
      else selectPod state.selector draw access (listedPods r.pods access) input).1
        = some (pod, connectionKey))
    (hcontainer : PodTarget.resolveContainer pod explicit.container = .ok (container, default)) :
    (resolvePod r draw state input locator access).1 = .ok (PodTarget.bind pod container) := by
  obtain ⟨list, hlist, hpods⟩ := exists_list_of_mem hoffers.active
  rw [← hidentifies.user] at hfind
  refine resolvePod_eq_ok_iff.mpr ⟨list, _, explicit, pod, connectionKey, container, default, hlist,
    hns ▸ hpods, hexplicit, hsel, hcontainer, ?_, rfl⟩
  rw [containerPermitted_eq_permits hfind hcontainer]
  exact hoffers.permitted

/-- A Pod part that is read as the Pod, and as the requested container. -/
theorem resolvePod_by_name {requested default : GoString}
    (hfind : findCredential access credential.username = some credential)
    (hoffers : Offers r.policy access (listedPods r.pods access) credential pod container)
    (hdenoted : Denoted (listedPods r.pods access) pod) (hdot : Byte.dot ∉ requested)
    (hread : resolveExplicitPodLocator (listedPods r.pods access)
      (pod.name ++ if requested = [] then [] else Byte.dot :: requested) = some (pod.name, requested))
    (hcontainer : PodTarget.resolveContainer pod requested = .ok (container, default)) :
    ∃ input draw state locator, Identifies access credential input ∧
      parseAccessLocatorFor input.sshUser access.ns access.name = some locator ∧
      (resolvePod r draw state input locator access).1 = .ok (PodTarget.bind pod container) := by
  obtain ⟨input, hidentifies, huser⟩ := exists_identifies hoffers.credential_mem
    (locatorText access pod.name requested)
  obtain ⟨connectionKey, hsel⟩ := selectPodByName_of_denoted hdenoted access {}
  have hparse := parseAccessLocatorFor_locatorText access pod.name hdot
  rw [← huser, if_neg hdenoted.name_ne_nil, if_neg hdenoted.name_ne_nil] at hparse
  refine ⟨input, { now := 0, intn := id }, {}, _, hidentifies, hparse, ?_⟩
  have hexplicit : AccessLocator.explicit (listedPods r.pods access)
      { ns := access.ns, access := access.name
        pod := pod.name ++ if requested = [] then [] else Byte.dot :: requested, container := [] }
      = some { ns := access.ns, access := access.name, pod := pod.name, container := requested } := by
    unfold AccessLocator.explicit
    rw [if_pos (by simp [hdenoted.name_ne_nil]), hread]
    rfl
  exact resolvePod_of_offers hfind hidentifies hoffers rfl hexplicit
    ((congrArg Prod.fst (if_pos hdenoted.name_ne_nil)).trans hsel) hcontainer

/-- The user name of an addressed container leads there. -/
theorem resolvePod_of_addressed (hnil : ∀ pod ∈ listedPods r.pods access, [] ∉ pod.containers)
    (hfind : findCredential access credential.username = some credential)
    (hoffers : Offers r.policy access (listedPods r.pods access) credential pod container)
    (haddressed : Addressed (listedPods r.pods access) pod container) :
    ∃ input draw state locator, Identifies access credential input ∧
      parseAccessLocatorFor input.sshUser access.ns access.name = some locator ∧
      (resolvePod r draw state input locator access).1 = .ok (PodTarget.bind pod container) := by
  have hpodNil : [] ∉ pod.containers := hnil pod (mem_activePods.mp hoffers.active).1
  have hne : container ≠ [] := fun h => hpodNil (h ▸ hoffers.container_mem)
  obtain ⟨hdenoted, rfl | ⟨hdot, hhead, hshadow⟩⟩ := haddressed
  · rcases resolveContainer_nil pod hpodNil with ⟨-, hresolve⟩ | ⟨hnot, -⟩
    · refine resolvePod_by_name hfind hoffers hdenoted List.not_mem_nil ?_ hresolve
      rw [if_pos rfl, List.append_nil]
      exact resolveExplicitPodLocator_eq_some_iff.mpr (Or.inl ⟨rfl, rfl, pod, hoffers.active, rfl⟩)
    · exact absurd hoffers.container_mem hnot
  · refine resolvePod_by_name hfind hoffers hdenoted hdot ?_
      (resolveContainer_of_mem hoffers.container_mem hne)
    rw [if_neg hne]
    exact resolveExplicitPodLocator_eq_some_iff.mpr (Or.inr ⟨hshadow, rfl, hdot, hne,
      hdenoted.name_ne_nil, hhead, pod, hoffers.active, rfl⟩)

end Connecting

theorem usernames_pairwise {c : AccessStatusController} {order : RangeOrder} {ns : GoString}
    {credentials : List AccessCredential} {owners : Owners}
    (h : (c.ranging order).validateCredentials ns 0 {} credentials = .ok owners) :
    credentials.Pairwise fun first second => first.username ≠ second.username := by
  induction credentials using List.reverseRecOn generalizing owners with
  | nil => exact List.Pairwise.nil
  | append_singleton before credential ih =>
    obtain ⟨between, hbefore, hentry⟩ :=
      AccessStatusController.validateCredentials_concat_eq_ok.mp h
    have hof := (AccessStatusController.of_validateCredentials hbefore).1
    obtain ⟨m, hm⟩ := AccessStatusController.material_of_validateEntry hof hentry
    refine List.pairwise_append.mpr ⟨ih hbefore, List.pairwise_singleton _ _, ?_⟩
    intro other hother last hlast
    obtain rfl := List.mem_singleton.mp hlast
    exact (AccessStatusController.entryMaterial_eq_ok hm).2.1 other hother

theorem find?_username {credentials : List AccessCredential}
    (h : credentials.Pairwise fun first second => first.username ≠ second.username)
    {credential : AccessCredential} (hcredential : credential ∈ credentials) :
    credentials.find? (fun other => other.username = credential.username) = some credential := by
  induction h with
  | nil => cases hcredential
  | @cons first rest hfirst _ ih =>
    rcases List.mem_cons.mp hcredential with rfl | hmem
    · exact List.find?_cons_of_pos (by simp)
    · rw [List.find?_cons_of_neg (by simpa using hfirst credential hmem), ih hmem]

/-- The user names of a valid Access are distinct, so every entry is found by its own. -/
theorem findCredential_of_validateAccess {c : AccessStatusController} {order : RangeOrder} {access : Access}
    (h : ((c.ranging order).validateAccess access).1 = .isTrue) {credential : AccessCredential}
    (hcredential : credential ∈ access.spec.credentials) :
    findCredential access credential.username = some credential := by
  unfold AccessStatusController.validateAccess at h
  split at h
  · cases h
  split at h
  · cases h
  rename_i owners hloop
  exact find?_username (usernames_pairwise hloop) hcredential

section

variable {r : Resolver} {store : Store} {access : Access} (hpod : isPodAccess access = true)
  (hget : store.get access.ns access.name = .ok access) (hns : access.ns ≠ []) (hname : access.name ≠ [])
  (hfind : ∀ credential ∈ access.spec.credentials,
    findCredential access credential.username = some credential)

include hpod hget hns hname hfind

/-- Whatever a credential connects to is a container that is offered to it. -/
theorem offers_of_connectable (h : Connectable r store access) :
    ∃ credential pod container,
      Offers r.policy access (listedPods r.pods access) credential pod container := by
  obtain ⟨credential, hcredential, input, draw, state, tgt, hidentifies, hok⟩ := h
  obtain ⟨locator, hparse, hresolved⟩ :=
    (resolve_eq_ok_iff_of_identifies hpod hget hns hname hidentifies).mp hok
  exact ⟨credential, offers_of_resolvePod (hfind credential hcredential) hidentifies
    (text_of_parseAccessLocatorFor hparse).1 hresolved⟩

/-- An offered container that is addressed can be connected to. -/
theorem connectable_of_addressed {credential : AccessCredential} {pod : Pod} {container : GoString}
    (hnil : ∀ pod ∈ listedPods r.pods access, [] ∉ pod.containers)
    (hoffers : Offers r.policy access (listedPods r.pods access) credential pod container)
    (haddressed : Addressed (listedPods r.pods access) pod container) :
    Connectable r store access := by
  obtain ⟨input, draw, state, locator, hidentifies, hparse, hresolved⟩ :=
    resolvePod_of_addressed hnil (hfind credential hoffers.credential_mem) hoffers haddressed
  exact ⟨credential, hoffers.credential_mem, input, draw, state, _, hidentifies,
    (resolve_eq_ok_iff_of_identifies hpod hget hns hname hidentifies).mpr ⟨locator, hparse, hresolved⟩⟩

end

/-! ## Ready means connectable -/

/-- The status has the Ready condition, and it is true. -/
def AccessStatus.Ready (status : AccessStatus) : Prop :=
  (findStatusCondition status.conditions accessConditionReady).map Condition.status = some .isTrue

theorem ready_statusFor_iff {c : StatusController} {access : Access} {stored : AccessStatus} {round : Round}
    (hvalid : ((c.toAccessStatusController.ranging round.order).validateAccess access).1 = .isTrue) :
    (c.statusFor access stored round).Ready ↔ (c.readiness access .isTrue).1 = .isTrue := by
  have hready : _ = some (c.condition access accessConditionReady (c.readiness access _) 0) :=
    StatusController.ready_statusFor stored round
  rw [hvalid] at hready
  obtain ⟨condition, hfound, huntimed⟩ := Option.map_eq_some_iff.mp hready
  have hstatus : condition.status = (c.readiness access .isTrue).1 :=
    congrArg Condition.status huntimed
  rw [AccessStatus.Ready, hfound, Option.map_some, hstatus, Option.some_inj]

/-- Every Pod with a container that the Access, the modes and a credential allow has its default
container, and one of those containers can be addressed. -/
structure Consistent (policy : ContainerPolicy) (access : Access) (pods : List Pod) : Prop where
  defaulted : ∀ {credential pod container}, Offers policy access pods credential pod container →
    Defaulted pod
  addressed : ∀ {credential pod container}, Offers policy access pods credential pod container →
    ∃ credential container, Offers policy access pods credential pod container ∧
      Addressed pods pod container

theorem appPod_uid_ne_nil : str "1" ≠ [] := by decide

/-- A Pod with the container `app` only, whose annotation may name another default container. -/
def appPod (annotations : GoMap GoString) : Pod where
  ns := str "team"
  name := str "web"
  uid := str "1"
  uid_ne_nil := appPod_uid_ne_nil
  annotations := annotations
  containers := [str "app"]

/-- The annotation names a container that the Pod does not have. -/
def mainAnnotation : GoMap GoString :=
  AList.insert (str "kubectl.kubernetes.io/default-container") (str "main") ∅

/-- `alice` may use the container `app`. -/
def appSpec : AccessSpec := limitedSpec .pod [str "app"] []

/-- The controller and the resolver see this Pod. -/
noncomputable def appController (pod : Pod) : StatusController :=
  { plainController with pods := some fun _ _ => .ok [pod] }

def appResolver (pod : Pod) : Resolver where
  pods := some fun _ _ => .ok [pod]

theorem validateAccess_appSpec (pod : Pod) (order : RangeOrder) :
    (((appController pod).toAccessStatusController.ranging order).validateAccess
      (boxAccess appSpec)).1 = .isTrue := by
  have hvalid := validateAccess_limitedSpec order .pod [str "app"] []
  exact (congrArg Prod.fst hvalid).trans (by decide)

theorem offers_app (annotations : GoMap GoString) :
    Offers {} (boxAccess appSpec) [appPod annotations]
      { username := str "alice", passwords := [str "red"] } (appPod annotations) (str "app") where
  credential_mem := List.mem_singleton_self _
  active := mem_activePods.mpr ⟨List.mem_singleton_self _, rfl, nofun, nofun⟩
  container_mem := List.mem_singleton_self _
  permitted := rfl

theorem addressed_app (annotations : GoMap GoString) :
    Addressed [appPod annotations] (appPod annotations) (str "app") where
  denoted := ⟨show str "web" ≠ [] by decide, rfl⟩
  spelled := by
    refine Or.inr ⟨by decide, show (str "web").head? ≠ some Byte.dot by decide, ?_⟩
    rintro ⟨pod, hpod, hname⟩
    obtain rfl := List.mem_singleton.mp (mem_activePods.mp hpod).1
    exact absurd hname (show str "web" ≠ str "web" ++ Byte.dot :: str "app" by decide)

theorem containers_app (annotations : GoMap GoString) :
    ∀ pod ∈ listedPods (appResolver (appPod annotations)).pods (boxAccess appSpec),
      [] ∉ pod.containers := by
  intro pod hpod
  obtain rfl := List.mem_singleton.mp hpod
  exact show [] ∉ [str "app"] by decide

end KubeSsh.AccessPolicy

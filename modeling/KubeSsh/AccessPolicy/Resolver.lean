import KubeSsh.AccessPolicy.Locator
import KubeSsh.AccessPolicy.Strategy
import KubeSsh.PodTarget

/-!
# `pkg/accesspolicy`: resolving a connection through an Access

`resolve` locates the Access of a connection and picks one of its targets: an endpoint of an
External Access, or a container of a Pod that the Access selects. Once the Access has been read,
resolution depends on nothing but that object, the Pods and the selector state (`resolveThrough`).

`resolveThrough_fromAccess` is the main fact: a target that comes out was produced from the Access.
-/

namespace KubeSsh.SshProxy

open Target

/-- `sshproxy.NewTarget` (`sshproxy/target.go:32-45`). -/
def newTarget (access : Access) (endpoint : GoString) : Target where
  kind := kindExternalSSH
  options :=
    [{ key := str "namespaces", value := access.ns }, { key := str "accesses", value := access.name },
     { key := str "endpoints", value := endpoint }]
  runtime := (AList.insert (str "ssh.accessGeneration") (formatInt access.generation) ∅).insert
    (str "ssh.accessUID") access.uid

end KubeSsh.SshProxy

namespace KubeSsh.AccessPolicy

open Strings Target

/-- `ContainerPolicy` (`resolver.go:24-27`). -/
structure ContainerPolicy where
  defaultMode : GoString := str "KubernetesDefault"
  limitMode : GoString := str "All"

/-- `PodLister`. -/
abbrev PodLister := GoString → GoMap GoString → Except Message (List Pod)

/-- `Resolver`; its selector is part of `ResolverState`. -/
structure Resolver where
  pods : Option PodLister
  policy : ContainerPolicy := {}

/-- The selector, and the releases that `context.AfterFunc` has registered for open connections. -/
structure ResolverState where
  selector : SelectorState := {}
  pending : List GoString := []

/-- `resolveExplicitPodLocator` (`resolver.go:205-229`). -/
def resolveExplicitPodLocator (pods : List Pod) (locator : GoString) : Option (GoString × GoString) :=
  let active := activePods pods
  if active.any fun pod => pod.name = locator then some (locator, [])
  else match cut Byte.dot locator with
    | none => none
    | some (pod, container) =>
      if pod = [] ∨ container = [] then none
      else
        let (pod, container) := if Byte.dot ∈ container then
            (cutLast Byte.dot locator).getD (pod, container)
          else (pod, container)
        if pod = [] ∨ container = [] then none
        else if active.any fun candidate => candidate.name = pod then some (pod, container)
        else none

/-- `isPodAccess` (`store.go:94-99`). -/
def isPodAccess (access : Access) : Bool :=
  access.spec.type = .unspecified || access.spec.type = .pod

/-- `namespace/access` in the messages of the resolver. -/
def AccessLocator.pieces (locator : AccessLocator) : Message :=
  [.bytes locator.ns, .bytes (str "/"), .bytes locator.access]

/-- The failure to find an available Pod (`resolver.go:78`, `92-95`). -/
def unavailable (locator : AccessLocator) : ResolveError :=
  if locator.pod ≠ [] then
    .serviceUnavailable ([.bytes (str "pod "), .quoted locator.pod,
      .bytes (str " is not available through access ")] ++ locator.pieces)
  else
    .serviceUnavailable ([.bytes (str "access ")] ++ locator.pieces ++
      [.bytes (str " matched no available pods")])

/-- The container checks of `Resolver.Resolve` (`resolver.go:103-108`): the containers of the
Access, or the default mode if it lists none; the limit mode; the containers of the credential. -/
def containerPermitted (r : Resolver) (input : ResolveInput) (access : Access) (explicit : Bool)
    (container default : GoString) : Bool :=
  let credential := findCredential access (getExtra input.authExtra extraCredentialUser)
  (if access.spec.containers ≠ [] then containerAllowed access.spec.containers container
    else PodTarget.containerAllowed r.policy.defaultMode explicit container default) &&
  PodTarget.containerAllowed r.policy.limitMode explicit container default &&
  credential.all fun credential => containerAllowed credential.containers container

/-- The Pod part of `Resolver.Resolve` behind the selection (`resolver.go:97-113`): the container is
resolved and checked, and the selection released if that fails. -/
def bindSelection (r : Resolver) (state : ResolverState) (input : ResolveInput)
    (locator : AccessLocator) (access : Access) (pod : Pod) (connectionKey : GoString) :
    Except ResolveError Target × ResolverState :=
  let released := { state with selector := release state.selector connectionKey }
  match PodTarget.resolveContainer pod locator.container with
  | .error err => (.error err, released)
  | .ok (container, default) =>
    if ¬ containerPermitted r input access (locator.container ≠ []) container default then
      (.error (.forbidden (str "accesses") locator.access ([.bytes (str "container "),
        .quoted container, .bytes (str " is not allowed by access ")] ++ locator.pieces)), released)
    else
      (.ok (PodTarget.bind pod container), { state with pending := connectionKey :: state.pending })

/-- The Pod part of `Resolver.Resolve` (`resolver.go:66-113`). -/
def resolvePod (r : Resolver) (draw : Draw) (state : ResolverState) (input : ResolveInput)
    (locator : AccessLocator) (access : Access) : Except ResolveError Target × ResolverState :=
  match r.pods with
  | none => (.error (.other (.text "access resolver requires a pod lister")), state)
  | some list =>
    match list locator.ns access.spec.selector with
    | .error err => (.error (.other err), state)
    | .ok pods =>
      let explicit := if locator.pod ≠ [] then
          (resolveExplicitPodLocator pods locator.pod).map fun found =>
            { locator with pod := found.1, container := found.2 }
        else some locator
      match explicit with
      | none => (.error (unavailable locator), state)
      | some locator =>
        let selection := if locator.pod ≠ [] then
            selectPodByName state.selector access pods locator.pod
          else selectPod state.selector draw access pods input
        let state := { state with selector := selection.2 }
        match selection.1 with
        | none => (.error (unavailable locator), state)
        | some (pod, connectionKey) =>
          bindSelection r state input locator access pod connectionKey

/-- `Resolver.Resolve` behind the lookup of the Access (`resolver.go:52-114`). -/
def resolveThrough (r : Resolver) (draw : Draw) (state : ResolverState) (input : ResolveInput)
    (locator : AccessLocator) (access : Access) : Except ResolveError Target × ResolverState :=
  if access.spec.type = .external then
    if locator.pod ≠ [] ∨ locator.container ≠ [] then
      (.error (.badRequest ([.bytes (str "External Access ")] ++ locator.pieces ++
        [.bytes (str " does not accept a Pod suffix")])), state)
    else
      let selection := selectEndpoint state.selector draw access input
      let state := { state with selector := selection.2 }
      match selection.1 with
      | none =>
        (.error (.serviceUnavailable ([.bytes (str "access ")] ++ locator.pieces ++
          [.bytes (str " has no external endpoints")])), state)
      | some (endpoint, connectionKey) =>
        (.ok (SshProxy.newTarget access endpoint.name),
          { state with pending := connectionKey :: state.pending })
  else if ¬ isPodAccess access then
    (.error (.badRequest ([.bytes (str "access ")] ++ locator.pieces ++
      [.bytes (str " has unsupported type "), .quoted access.spec.type.text])), state)
  else resolvePod r draw state input locator access

/-- `Resolver.Resolve` (`resolver.go:45-114`). -/
def resolve (r : Resolver) (draw : Draw) (input : ResolveInput) :
    StateT ResolverState (Reads Store) (Except ResolveError Target) := fun state => do
  match ← resolveRequestedAccess input.sshUser input.authExtra with
  | .error err => return (.error err, state)
  | .ok none => return (.error .notProvided, state)
  | .ok (some (locator, access)) => return resolveThrough r draw state input locator access

/-- Resolution with the reads from the `n`-th on succeeds, through this Access. -/
structure ResolvesThrough (r : Resolver) (draw : Draw) (state : ResolverState) (input : ResolveInput)
    (history : ℕ → Store) (n : ℕ) (locator : AccessLocator) (access : Access) (tgt : Target) :
    Prop where
  located : (resolveRequestedAccess input.sshUser input.authExtra).run history n
    = .ok (some (locator, access))
  resolved : (resolveThrough r draw state input locator access).1 = .ok tgt

/-- Resolution is locating the Access, then resolving through it. -/
theorem run_resolve (r : Resolver) (draw : Draw) (state : ResolverState) (input : ResolveInput)
    (history : ℕ → Store) (n : ℕ) :
    Reads.run (resolve r draw input state) history n =
      match (resolveRequestedAccess input.sshUser input.authExtra).run history n with
      | .error err => (.error err, state)
      | .ok none => (.error .notProvided, state)
      | .ok (some (locator, access)) => resolveThrough r draw state input locator access := by
  unfold resolve
  rw [Reads.run_bind]
  split <;> rfl

theorem next_resolve (r : Resolver) (draw : Draw) (state : ResolverState) (input : ResolveInput)
    (history : ℕ → Store) (n : ℕ) :
    Reads.next (resolve r draw input state) history n =
      (resolveRequestedAccess input.sshUser input.authExtra).next history n := by
  unfold resolve
  rw [Reads.next_bind]
  split <;> rfl

variable {r : Resolver} {draw : Draw} {state : ResolverState} {input : ResolveInput} {tgt : Target}
  {access : Access} {locator : AccessLocator}

theorem resolve_eq_ok_iff {history : ℕ → Store} {n : ℕ} :
    (Reads.run (resolve r draw input state) history n).1 = .ok tgt ↔
      ∃ locator access, ResolvesThrough r draw state input history n locator access tgt := by
  rw [run_resolve]
  constructor
  · intro h
    split at h
    · cases h
    · cases h
    · rename_i locator access hlocated
      exact ⟨locator, access, hlocated, h⟩
  · rintro ⟨locator, access, hlocated, hresolved⟩
    rw [hlocated]
    exact hresolved

/-! ## What a resolved target is -/

/-- The target was produced from the Access: it is one of its endpoints, or a regular container of
an active Pod that its selector selects, bound to that Pod. -/
inductive FromAccess (r : Resolver) (access : Access) : Target → Prop
  | endpoint {endpoint : AccessEndpoint} : access.spec.type = .external →
      endpoint ∈ access.spec.endpoints → FromAccess r access (SshProxy.newTarget access endpoint.name)
  | pod {list : PodLister} {pods : List Pod} {pod : Pod} {container : GoString} :
      isPodAccess access = true → r.pods = some list →
      list access.ns access.spec.selector = .ok pods → pod ∈ pods → PodActive pod →
      container ∈ pod.containers → container ≠ [] →
      FromAccess r access (PodTarget.bind pod container)

/-- What the Access and the caller's credential say about a container: the list of the Access
matches it, or the default mode allows it if there is none, and so does the list of the
credential. -/
structure Grants (r : Resolver) (input : ResolveInput) (access : Access) (pod : Pod)
    (container : GoString) : Prop where
  listed : access.spec.containers ≠ [] → Wildcard.matchAny access.spec.containers container = true
  unlisted : access.spec.containers = [] →
    PodTarget.containerAllowed r.policy.defaultMode true container (PodTarget.defaultContainer pod) = true
  credential : ∀ credential,
    findCredential access (getExtra input.authExtra extraCredentialUser) = some credential →
      containerAllowed credential.containers container = true

/-- A permitted container is granted, and the limit mode allows to request it. -/
theorem grants_of_containerPermitted {pod : Pod} {requested container default : GoString}
    (hcontainer : PodTarget.resolveContainer pod requested = .ok (container, default))
    (h : containerPermitted r input access (requested ≠ []) container default = true) :
    Grants r input access pod container ∧
      PodTarget.containerAllowed r.policy.limitMode true container (PodTarget.defaultContainer pod)
        = true := by
  obtain ⟨-, -, rfl⟩ := PodTarget.resolveContainer_eq_ok hcontainer
  unfold containerPermitted at h
  dsimp only at h
  rw [Bool.and_eq_true, Bool.and_eq_true] at h
  obtain ⟨⟨haccess, hlimit⟩, hcredential⟩ := h
  refine ⟨⟨fun hlist => ?_, fun hnil => ?_, fun credential hfind => ?_⟩,
    PodTarget.containerAllowed_requested hcontainer hlimit⟩
  · rw [if_pos hlist, containerAllowed, List.isEmpty_eq_false_iff.mpr hlist, Bool.false_or] at haccess
    exact haccess
  · rw [if_neg (not_not.mpr hnil)] at haccess
    exact PodTarget.containerAllowed_requested hcontainer haccess
  · rw [hfind] at hcredential
    exact hcredential

/-- A selection is bound exactly if its container is resolved and permitted. -/
theorem bindSelection_eq_ok_iff {pod : Pod} {connectionKey : GoString} :
    (bindSelection r state input locator access pod connectionKey).1 = .ok tgt ↔
      ∃ container default, PodTarget.resolveContainer pod locator.container = .ok (container, default) ∧
        containerPermitted r input access (locator.container ≠ []) container default = true ∧
        tgt = PodTarget.bind pod container := by
  unfold bindSelection
  dsimp only
  constructor
  · intro h
    split at h
    · cases h
    rename_i container default hcontainer
    split at h
    · cases h
    rename_i hpermitted
    exact ⟨container, default, hcontainer, not_not.mp hpermitted, (Except.ok.inj h).symm⟩
  · rintro ⟨container, default, hcontainer, hpermitted, rfl⟩
    rw [hcontainer]
    dsimp only
    rw [if_neg (not_not.mpr hpermitted)]

/-- Whichever way a Pod is selected, it is an active one of the list. -/
theorem mem_activePods_of_selected {state : SelectorState}
    {pods : List Pod} {name : GoString} {pod : Pod} {connectionKey : GoString}
    (h : (if name ≠ [] then selectPodByName state access pods name
      else selectPod state draw access pods input).1 = some (pod, connectionKey)) :
    pod ∈ activePods pods := by
  split at h
  · rcases selectPodByName_spec state access pods name with ⟨-, hnone⟩ | ⟨found, hmem, -, key, hsome⟩
    · rw [hnone] at h
      cases h
    · rw [hsome] at h
      obtain ⟨rfl, -⟩ := Prod.mk.inj (Option.some.inj h)
      exact hmem
  · rcases selectPod_spec state draw access pods input with ⟨-, hnone⟩ | ⟨found, hmem, key, hsome⟩
    · rw [hnone] at h
      cases h
    · rw [hsome] at h
      obtain ⟨rfl, -⟩ := Prod.mk.inj (Option.some.inj h)
      exact mem_activePods_of_mem_candidatePods hmem

/-- A Pod that the Access gave to a connection: one of those its selector selects, and active. -/
structure Selects (r : Resolver) (access : Access) (pod : Pod) : Prop where
  selected : ∃ list pods, r.pods = some list ∧ list access.ns access.spec.selector = .ok pods ∧
    pod ∈ pods
  active : PodActive pod

/-- The locator with its Pod part read against the Pods. -/
def AccessLocator.explicit (pods : List Pod) (locator : AccessLocator) : Option AccessLocator :=
  if locator.pod ≠ [] then
    (resolveExplicitPodLocator pods locator.pod).map fun found =>
      { locator with pod := found.1, container := found.2 }
  else some locator

/-- What it takes to resolve a Pod target: the Pods are listed, the Pod part names one of them or is
missing, a Pod is selected, and its container is resolved and permitted. -/
theorem resolvePod_eq_ok_iff
    :
    (resolvePod r draw state input locator access).1 = .ok tgt ↔
      ∃ list pods explicit pod connectionKey container default, r.pods = some list ∧
        list locator.ns access.spec.selector = .ok pods ∧ locator.explicit pods = some explicit ∧
        (if explicit.pod ≠ [] then selectPodByName state.selector access pods explicit.pod
          else selectPod state.selector draw access pods input).1 = some (pod, connectionKey) ∧
        PodTarget.resolveContainer pod explicit.container = .ok (container, default) ∧
        containerPermitted r input access (explicit.container ≠ []) container default = true ∧
        tgt = PodTarget.bind pod container := by
  unfold resolvePod
  constructor
  · intro h
    split at h
    · cases h
    rename_i list hlist
    split at h
    · cases h
    rename_i pods hpods
    dsimp only at h
    split at h
    · cases h
    rename_i explicit hexplicit
    split at h
    · cases h
    rename_i pod connectionKey hsel
    obtain ⟨container, default, hbind⟩ := bindSelection_eq_ok_iff.mp h
    exact ⟨list, pods, explicit, pod, connectionKey, container, default, hlist, hpods, hexplicit,
      hsel, hbind⟩
  · rintro ⟨list, pods, explicit, pod, connectionKey, container, default, hlist, hpods, hexplicit,
      hsel, hbind⟩
    unfold AccessLocator.explicit at hexplicit
    simp only [hlist, hpods, hexplicit, hsel]
    exact bindSelection_eq_ok_iff.mpr ⟨container, default, hbind⟩

theorem resolvePod_eq_ok (hns : locator.ns = access.ns)
    (h : (resolvePod r draw state input locator access).1 = .ok tgt) :
    ∃ pod container, tgt = PodTarget.bind pod container ∧ Selects r access pod ∧
      PodTarget.Names r.policy.limitMode pod tgt ∧ Grants r input access pod container := by
  obtain ⟨list, pods, explicit, pod, connectionKey, container, default, hlist, hpods, -, hsel,
    hcontainer, hpermitted, rfl⟩ := resolvePod_eq_ok_iff.mp h
  obtain ⟨hmem, hlive⟩ := mem_activePods.mp (mem_activePods_of_selected hsel)
  obtain ⟨hcontainer', hne, -⟩ := PodTarget.resolveContainer_eq_ok hcontainer
  obtain ⟨hgrants, hlimit⟩ := grants_of_containerPermitted hcontainer hpermitted
  rw [hns] at hpods
  exact ⟨pod, container, rfl, ⟨⟨list, pods, hlist, hpods, hmem⟩, hlive⟩,
    PodTarget.names_bind hne hcontainer' hlimit, hgrants⟩

theorem resolvePod_fromAccess (hns : locator.ns = access.ns) (hpod : isPodAccess access = true)
    (h : (resolvePod r draw state input locator access).1 = .ok tgt) : FromAccess r access tgt := by
  obtain ⟨pod, container, rfl, ⟨⟨list, pods, hlist, hpods, hmem⟩, hlive⟩, hnames, -⟩ :=
    resolvePod_eq_ok hns h
  have hoption := PodTarget.option_containers_bind pod container
  exact .pod hpod hlist hpods hmem hlive (hoption ▸ hnames.regular) (hoption ▸ hnames.named)

/-- A target that resolution through an Access returns was produced from that Access. -/
theorem resolveThrough_fromAccess (hns : locator.ns = access.ns)
    (h : (resolveThrough r draw state input locator access).1 = .ok tgt) :
    FromAccess r access tgt := by
  unfold resolveThrough at h
  split at h
  · rename_i hexternal
    split at h
    · cases h
    dsimp only at h
    split at h
    · cases h
    rename_i endpoint connectionKey hsel
    rcases selectEndpoint_spec state.selector draw access input with
      ⟨-, hnone⟩ | ⟨found, hmem, key, hsome⟩
    · rw [hnone] at hsel
      cases hsel
    · rw [hsome] at hsel
      obtain ⟨rfl, -⟩ := Prod.mk.inj (Option.some.inj hsel)
      obtain rfl := Except.ok.inj h
      exact .endpoint hexternal hmem
  · split at h
    · cases h
    rename_i hpod
    exact resolvePod_fromAccess hns (by simpa using hpod) h

/-- A Pod target that resolution through an Access returns is a granted container of a selected
Pod. -/
theorem resolveThrough_pod (hns : locator.ns = access.ns) (hkind : tgt.kind = kindPod)
    (h : (resolveThrough r draw state input locator access).1 = .ok tgt) :
    ∃ pod, Selects r access pod ∧ PodTarget.Names r.policy.limitMode pod tgt ∧
      Grants r input access pod (tgt.option PodTarget.optionContainers) := by
  unfold resolveThrough at h
  split at h
  · split at h
    · cases h
    dsimp only at h
    split at h
    · cases h
    obtain rfl := Except.ok.inj h
    exact absurd hkind (by decide : kindExternalSSH ≠ kindPod)
  split at h
  · cases h
  obtain ⟨pod, container, rfl, hselects, hnames, hgrants⟩ := resolvePod_eq_ok hns h
  rw [PodTarget.option_containers_bind]
  exact ⟨pod, hselects, hnames, hgrants⟩

/-- Targets of an Access are bound already: the binding resolver leaves them as they are. -/
theorem bindTarget_of_fromAccess
    (h : FromAccess r access tgt) (options : PodTarget.ResolverOptions) :
    PodTarget.bindTarget options tgt = .ok tgt := by
  cases h with
  | endpoint => rfl
  | pod =>
    rename_i pod container _ _ _ _ _ _ _
    have huid : PodTarget.boundUID (PodTarget.bind pod container) ≠ [] := by
      rw [PodTarget.bind, PodTarget.boundUID_bindTo]
      exact pod.uid_ne_nil
    have hkind : (PodTarget.bind pod container).kind = kindPod := rfl
    rw [PodTarget.bindTarget, if_neg (not_not.mpr hkind), if_pos huid]

theorem unavailable_ne_notProvided (locator : AccessLocator) : unavailable locator ≠ .notProvided := by
  unfold unavailable
  split <;> simp

/-- Resolution through an Access ends with a target or an error of its own: it never leaves the
connection to another resolver. -/
theorem resolveThrough_ne_notProvided (r : Resolver) (draw : Draw) (state : ResolverState)
    (input : ResolveInput) (locator : AccessLocator) (access : Access) :
    (resolveThrough r draw state input locator access).1 ≠ .error .notProvided := by
  intro h
  unfold resolveThrough at h
  split at h
  · split at h
    · cases h
    dsimp only at h
    split at h <;> cases h
  · split at h
    · cases h
    unfold resolvePod at h
    split at h
    · cases h
    split at h
    · cases h
    dsimp only at h
    split at h
    · exact unavailable_ne_notProvided _ (Except.error.inj h)
    split at h
    · exact unavailable_ne_notProvided _ (Except.error.inj h)
    unfold bindSelection at h
    dsimp only at h
    split at h
    · rename_i err herr
      obtain rfl := Except.error.inj h
      exact PodTarget.resolveContainer_ne_notProvided _ _ herr
    split at h <;> cases h

end KubeSsh.AccessPolicy

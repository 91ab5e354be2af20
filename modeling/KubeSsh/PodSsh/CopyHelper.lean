import KubeSsh.PodSsh.ApiServer

/-!
# `pkg/podssh/backend/apiserver`: helpers that callers share

`ApiServer` takes the end of a preparation as one step of a caller that no context interrupts. Here
the critical sections of the mutex, the write of a state, the close of its channel and each read of
a field are operations of their own, `Invalidate` is called beside `Acquire`, and the contexts of
the callers end at any time.

A goroutine of `Acquire` is at a `Stage`. `Step` says what each of its operations does to the cache
and to its stage, which is all that the invariants of the runs use.
-/

namespace KubeSsh.CopyHelper

open Backend PodTarget Prog
open ApiServer (HelperResult Transport validateHelperManifest helperCacheKey helperCachePrefix)

/-! ## Operations -/

/-- `copyHelperState` (`helper_copy.go:105-110`). Its channel is closed once it is done. -/
structure State where
  done : Bool := false
  path : GoString := []
  manifest : Manifest := ⟨[], [], [], []⟩
  err : Option Message := none

/-- The end of `select` (`helper_copy.go:76-80`). -/
inductive Awaited
  | done
  | cancelled (err : Message)

inductive Op
  /-- `helperState` (`helper_copy.go:112-121`): a state, and whether the caller has to prepare
  it. -/
  | helperState (key : GoString)
  /-- An operation of the transport, with a context. -/
  | transport (ctx : ℕ) (op : ApiServer.Op)
  /-- The fields of a state (`helper_copy.go:67`, `71`). -/
  | setResult (state : ℕ) (result : HelperResult)
  /-- `finishHelperState` under the mutex (`helper_copy.go:124-128`). -/
  | removeFailed (key : GoString) (state : ℕ)
  /-- `close(state.done)`. -/
  | closeDone (state : ℕ)
  | awaitDone (state ctx : ℕ)
  | getErr (state : ℕ)
  | getManifest (state : ℕ)
  | getPath (state : ℕ)
  /-- `Invalidate` under the mutex (`helper_copy.go:96-102`). -/
  | invalidate (tgt : Target)
  /-- A context ends with an error. -/
  | cancel (ctx : ℕ) (err : Message)
  | returned (result : Except Message GoString)

def Op.Answer : Op → Type
  | .helperState _ => ℕ × Bool
  | .transport _ op => op.Answer
  | .awaitDone _ _ => Awaited
  | .getErr _ => Option Message
  | .getManifest _ => Manifest
  | .getPath _ => GoString
  | _ => Unit

abbrev interface : Interface := ⟨Op, Op.Answer⟩

/-- A program of a goroutine. -/
abbrev Calling (α : Type) := Prog interface α

def perform (op : Op) : Calling op.Answer := Prog.perform (I := interface) op

def helperState (key : GoString) : Calling (ℕ × Bool) := perform (.helperState key)
def setResult (state : ℕ) (result : HelperResult) : Calling Unit := perform (.setResult state result)
def removeFailed (key : GoString) (state : ℕ) : Calling Unit := perform (.removeFailed key state)
def closeDone (state : ℕ) : Calling Unit := perform (.closeDone state)
def awaitDone (state ctx : ℕ) : Calling Awaited := perform (.awaitDone state ctx)
def getErr (state : ℕ) : Calling (Option Message) := perform (.getErr state)
def getManifest (state : ℕ) : Calling Manifest := perform (.getManifest state)
def getPath (state : ℕ) : Calling GoString := perform (.getPath state)
def returned (result : Except Message GoString) : Calling Unit := perform (.returned result)

/-- A program of the transport with a context. -/
def under {α : Type} (ctx : ℕ) (p : ApiServer.Calling α) : Calling α :=
  p.interpret fun op => perform (.transport ctx op)

/-! ## `Acquire` -/

/-- The arguments of `Acquire`. -/
structure Acquire where
  ctx : ℕ
  tgt : Target
  capability : GoString

/-- `apierrors.NewServiceUnavailable` (`helper_copy.go:57`). -/
def errNoHelper (capability : GoString) : Message :=
  .text "helper path is required for " ++ .ofString capability

section Acquire

variable (t : Transport)

def Acquire.key (a : Acquire) : GoString := helperCacheKey a.tgt t.manifest

/-- `finishHelperState` (`helper_copy.go:123-130`). -/
def finishHelperState (key : GoString) (state : ℕ) : Calling Unit := do
  removeFailed key state
  closeDone state

/-- The owner of a state (`helper_copy.go:65-73`). The error of reading the helper is written when
it is the result: before, the fields are zero. -/
def Acquire.own (a : Acquire) (state : ℕ) : Calling Unit := do
  let result ← under a.ctx (t.ownHelperState a.tgt)
  setResult state result
  finishHelperState (a.key t) state

/-- The result of a state that is done (`helper_copy.go:82-89`). -/
def Acquire.lease (a : Acquire) (state : ℕ) : Calling (Except Message GoString) := do
  match ← getErr state with
  | some err => return .error err
  | none =>
    let manifest ← getManifest state
    match validateHelperManifest manifest t.manifest a.capability with
    | some err => return .error err
    | none =>
      let path ← getPath state
      return .ok path

/-- `Acquire` (`helper_copy.go:55-90`): the path of the helper. -/
def Acquire.acquire (a : Acquire) : Calling (Except Message GoString) :=
  if t.helperPath = [] then return .error (errNoHelper a.capability)
  else do
    let (state, owner) ← helperState (a.key t)
    if owner then
      a.own t state
      a.lease t state
    else match ← awaitDone state a.ctx with
      | .cancelled err => return .error err
      | .done => a.lease t state

end Acquire

/-! ## The system -/

inductive Call
  | acquire (a : Acquire)
  | invalidate (tgt : Target)
  | cancel (ctx : ℕ) (err : Message)

def Call.run (t : Transport) : Call → Calling Unit
  | .acquire a => do
    let result ← a.acquire t
    returned result
  | .invalidate tgt => perform (.invalidate tgt)
  | .cancel ctx err => perform (.cancel ctx err)

/-- `copyHelperAcquirer` (`helper_copy.go:29-36`) with its states by number, and the contexts that
ended. -/
structure World where
  helpers : GoMap ℕ := ∅
  states : List State := []
  contexts : ℕ → Option Message := fun _ => none

/-- `helperState` (`helper_copy.go:112-121`). -/
def World.helperState (world : World) (key : GoString) : (ℕ × Bool) × World :=
  match world.helpers.lookup key with
  | some state => ((state, false), world)
  | none =>
    let state := world.states.length
    ((state, true),
      { world with helpers := world.helpers.insert key state, states := world.states ++ [{}] })

/-- The fields of a state after the assignment of a result. -/
def State.fill (state : State) : HelperResult → State
  | .ok (path, manifest) => { state with path := path, manifest := manifest, err := none }
  | .error err => { state with path := [], manifest := ⟨[], [], [], []⟩, err := some err }

/-- `finishHelperState` under the mutex (`helper_copy.go:124-128`). -/
def World.removeFailed (world : World) (key : GoString) (state : ℕ) : World :=
  if (∃ found ∈ world.states[state]?, found.err ≠ none) ∧ world.helpers.lookup key = some state then
    { world with helpers := world.helpers.erase key }
  else world

/-- `Invalidate` (`helper_copy.go:94-103`). -/
def World.invalidate (world : World) (tgt : Target) : World :=
  let keys := world.helpers.keys.filter fun key => (helperCachePrefix tgt).isPrefixOf key
  { world with helpers := keys.foldl (fun helpers key => helpers.erase key) world.helpers }

def World.cancel (world : World) (ctx : ℕ) (err : Message) : World :=
  { world with contexts := fun ctx' => if ctx' = ctx then (world.contexts ctx).or (some err) else world.contexts ctx' }

/-- The answers of the cache. The transport answers anything. -/
def Answers (world : World) : (op : Op) → op.Answer → World → Prop
  | .helperState key, answer, world' => (answer, world') = world.helperState key
  | .setResult state result, _, world' =>
    world' = { world with states := world.states.modify state (·.fill result) }
  | .removeFailed key state, _, world' => world' = world.removeFailed key state
  | .closeDone state, _, world' =>
    world' = { world with states := world.states.modify state ({ · with done := true }) }
  | .awaitDone state _, .done, world' => world' = world ∧ ∃ found ∈ world.states[state]?, found.done = true
  | .awaitDone _ ctx, .cancelled err, world' => world' = world ∧ world.contexts ctx = some err
  | .getErr state, answer, world' => world' = world ∧ ∃ found ∈ world.states[state]?, answer = found.err
  | .getManifest state, answer, world' =>
    world' = world ∧ ∃ found ∈ world.states[state]?, answer = found.manifest
  | .getPath state, answer, world' => world' = world ∧ ∃ found ∈ world.states[state]?, answer = found.path
  | .invalidate tgt, _, world' => world' = world.invalidate tgt
  | .cancel ctx err, _, world' => world' = world.cancel ctx err
  | _, _, world' => world' = world

def system (t : Transport) : System interface where
  Task := Call
  code call := do
    call.run t
    return none
  started _ := []
  World := World
  Answers := Answers

/-- Some calls at the same time, for an acquirer without helpers. -/
def start (t : Transport) (calls : List Call) : (system t).Config := (system t).initial {} calls

/-! ## Stages of `Acquire` -/

/-- A manifest that validates for the capabilities that are wanted. -/
def Usable (t : Transport) (wanted : GoString → Prop) (manifest : Manifest) : Prop :=
  validateHelperManifest manifest t.manifest [] = none ∧
    ∀ capability, wanted capability → validateHelperManifest manifest t.manifest capability = none

/-- An operation of a preparation succeeds: the read of the helper, a copy, or the probe, which has
no input. -/
def Succeeds (t : Transport) (wanted : GoString → Prop) : Event ApiServer.interface → Prop
  | ⟨.readHelper, data⟩ => ∃ helper, data = .ok helper
  | ⟨.newExecutor _, err⟩ => err = none
  | ⟨.stream _ options, executed⟩ => (executed.result = .ok ∨ executed.result = .exited 0) ∧
    (options.stdin = none → ∃ manifest, t.lib.decodeManifest executed.stdout = .ok manifest ∧
      Usable t wanted manifest)
  | _ => True

/-- Where an `Acquire` is. An owner remembers whether all that it did has succeeded. -/
inductive Stage
  | before
  | owning (state : ℕ) (good : Prop)
  | filled (state : ℕ)
  | finished (state : ℕ)
  | waiting (state : ℕ)
  | done (state : ℕ)
  | succeeded (state : ℕ)
  | validated (state : ℕ) (manifest : Manifest)
  | returning (result : Except Message GoString)
  | over

/-- A goroutine: an `Acquire` at a stage, or another call. -/
inductive Doing
  | acquire (a : Acquire) (stage : Stage)
  | other

/-- The goroutine has to close a state. -/
def Stage.owns : Stage → ℕ → Prop
  | .owning state _, state' | .filled state, state' | .finished state, state' => state = state'
  | _, _ => False

def Doing.owns : Doing → ℕ → Prop
  | .acquire _ stage, state => stage.owns state
  | .other, _ => False

/-- The goroutine has ended. -/
def Doing.Ended : Doing → Prop
  | .acquire _ stage => stage = .over
  | .other => True

section Stages

variable (t : Transport) (wanted : GoString → Prop)

/-- What a goroutine may do next. -/
def Doing.Allows (d : Doing) : Op → Prop
  | .helperState key => ∃ a, d = .acquire a .before ∧ key = a.key t
  | .transport ctx _ => ∃ a state good, d = .acquire a (.owning state good) ∧ ctx = a.ctx
  | .setResult state result => ∃ a good, d = .acquire a (.owning state good) ∧
    (good → ∃ path manifest, result = .ok (path, manifest) ∧ Usable t wanted manifest)
  | .removeFailed key state => ∃ a, d = .acquire a (.filled state) ∧ key = a.key t
  | .closeDone state => ∃ a, d = .acquire a (.finished state)
  | .awaitDone state ctx => ∃ a, d = .acquire a (.waiting state) ∧ ctx = a.ctx
  | .getErr state => ∃ a, d = .acquire a (.done state)
  | .getManifest state => ∃ a, d = .acquire a (.succeeded state)
  | .getPath state => ∃ a manifest, d = .acquire a (.validated state manifest)
  | .returned result => ∃ a, d = .acquire a (.returning result) ∨
    d = .acquire a .before ∧ t.helperPath = [] ∧ result = .error (errNoHelper a.capability)
  | .invalidate _ | .cancel _ _ => d = .other

def Stage.next (a : Acquire) (stage : Stage) : (op : Op) → op.Answer → Stage
  | .helperState _, (state, true) => .owning state (∃ reference, parse a.tgt = .ok reference)
  | .helperState _, (state, false) => .waiting state
  | .transport _ op, answer => match stage with
    | .owning state good => .owning state (good ∧ Succeeds t wanted ⟨op, answer⟩)
    | _ => stage
  | .setResult state _, _ => .filled state
  | .removeFailed _ state, _ => .finished state
  | .closeDone state, _ => .done state
  | .awaitDone state _, .done => .done state
  | .awaitDone _ _, .cancelled err => .returning (.error err)
  | .getErr _, some err => .returning (.error err)
  | .getErr state, none => .succeeded state
  | .getManifest state, manifest => match validateHelperManifest manifest t.manifest a.capability with
    | some err => .returning (.error err)
    | none => .validated state manifest
  | .getPath _, path => .returning (.ok path)
  | .returned _, _ => .over
  | _, _ => stage

def Doing.next : Doing → (op : Op) → op.Answer → Doing
  | .acquire a stage, op, answer => .acquire a (stage.next t wanted a op answer)
  | .other, _, _ => .other

def stages : Monitor interface Doing := ⟨Doing.Allows t wanted, Doing.next t wanted⟩

def Call.doing : Call → Doing
  | .acquire a => .acquire a .before
  | _ => .other

end Stages

section Obeys

variable {t : Transport} {wanted : GoString → Prop} {a : Acquire} {state : ℕ} {good : Prop} {α β : Type}

/-- The context is the same for all parts of a program. -/
theorem under_bind (ctx : ℕ) (p : ApiServer.Calling α) (f : α → ApiServer.Calling β) :
    under ctx (p >>= f) = under ctx p >>= fun a => under ctx (f a) := interpret_bind p f

/-- A program of the transport in a preparation: if all has succeeded at its end, so it had before,
and the result is as told. -/
def Prepares (t : Transport) (wanted : GoString → Prop) (a : Acquire) (state : ℕ)
    (p : ApiServer.Calling α) (good : Prop) (post : α → Prop) : Prop :=
  (under a.ctx p).Obeys (stages t wanted) (.acquire a (.owning state good)) fun result d =>
    ∃ good', d = .acquire a (.owning state good') ∧ (good' → good ∧ post result)

/-- What is returned holds if all has succeeded so far. -/
theorem prepares_pure {x : α} {post : α → Prop} (h : good → post x) :
    Prepares t wanted a state (Pure.pure x) good post := ⟨good, rfl, fun hgood => ⟨hgood, h hgood⟩⟩

/-- An operation adds its own success. -/
theorem prepares_perform (op : ApiServer.Op) :
    Prepares t wanted a state (ApiServer.perform op) good fun answer => Succeeds t wanted ⟨op, answer⟩ :=
  ⟨⟨a, state, good, rfl, rfl⟩, fun _ => ⟨_, rfl, fun hgood => hgood⟩⟩

/-- Preparations compose. -/
theorem Prepares.bind {p : ApiServer.Calling α} {f : α → ApiServer.Calling β} {post : α → Prop}
    {post' : β → Prop} (hp : Prepares t wanted a state p good post)
    (hf : ∀ x (good' : Prop), (good' → good ∧ post x) → Prepares t wanted a state (f x) good' post') :
    Prepares t wanted a state (p >>= f) good post' := by
  rw [Prepares, under_bind]
  refine obeys_bind.mpr (hp.mono ?_)
  rintro x _ ⟨good', rfl, hgood'⟩
  refine (hf x good' hgood').mono ?_
  rintro y _ ⟨good'', rfl, hgood''⟩
  exact ⟨good'', rfl, fun hgood => ⟨(hgood' (hgood'' hgood).1).1, (hgood'' hgood).2⟩⟩

/-- If its request succeeds, a command exits with 0 and prints a usable manifest. -/
theorem exec_prepares {req : ExecRequest} (hparse : good → ∃ reference, parse req.target = .ok reference) :
    Prepares t wanted a state (ApiServer.exec req) good fun result => result.err = none ∧ result.code = 0 ∧
      (req.stdin = none → ∃ manifest, t.lib.decodeManifest result.stdout = .ok manifest ∧
        Usable t wanted manifest) := by
  unfold ApiServer.exec
  split
  · rename_i err heq
    refine prepares_pure fun hgood => ?_
    obtain ⟨reference, href⟩ := hparse hgood
    cases href.symm.trans heq
  · rename_i reference heq
    refine (prepares_perform (.newExecutor _)).bind fun err good' hgood' => ?_
    rcases (err : Option Message) with _ | err
    · refine (prepares_perform (.stream _ _)).bind fun executed good'' hgood'' => ?_
      refine prepares_pure fun hgood => ?_
      obtain ⟨-, hresult, hmanifest⟩ := hgood'' hgood
      rcases hresult with hresult | hresult
      · exact ⟨by rw [hresult], by rw [hresult], hmanifest⟩
      · exact ⟨by rw [hresult], by rw [hresult], hmanifest⟩
    · refine prepares_pure fun hgood => ?_
      obtain ⟨-, herr⟩ := hgood' hgood
      cases herr

/-- A copy that succeeds returns no error. -/
theorem copyWith_prepares {tgt : Target} {command : List GoString} {data : GoString}
    (hparse : good → ∃ reference, parse tgt = .ok reference) :
    Prepares t wanted a state (Transport.copyWith tgt command data) good fun err => err = none := by
  refine (exec_prepares hparse).bind fun result good' hgood' => ?_
  split
  · rename_i err heq
    exact prepares_pure fun hgood => nomatch heq.symm.trans (hgood' hgood).2.1
  · split
    · rename_i hcode
      exact prepares_pure fun hgood => absurd (hgood' hgood).2.2.1 hcode
    · exact prepares_pure fun _ => rfl

/-- Copying with `tar` is a preparation, whatever comes of it. -/
theorem tar_prepares {tgt : Target} {remotePath data : GoString}
    (hparse : good → ∃ reference, parse tgt = .ok reference) :
    Prepares t wanted a state (t.copyHelperBinaryWithTar tgt remotePath data) good fun _ => True := by
  unfold Transport.copyHelperBinaryWithTar
  split
  · exact prepares_pure fun _ => trivial
  · refine (copyWith_prepares hparse).mono ?_
    rintro _ _ ⟨good', rfl, hgood'⟩
    exact ⟨good', rfl, fun hgood => ⟨(hgood' hgood).1, trivial⟩⟩

/-- A copy that succeeds is at the remote path. -/
theorem copyHelperBinary_prepares {tgt : Target} {data : GoString}
    (hparse : good → ∃ reference, parse tgt = .ok reference) :
    Prepares t wanted a state (t.copyHelperBinary tgt data) good fun path => path = .ok (t.helperRemotePath tgt) := by
  have hcopies : Prepares t wanted a state (Transport.tryCopies
      [(str "sh/cat/chmod", Transport.copyHelperBinaryWithShell tgt (t.helperRemotePath tgt) data),
        (str "tar", t.copyHelperBinaryWithTar tgt (t.helperRemotePath tgt) data)] []) good fun err => err = none := by
    refine (copyWith_prepares hparse).bind fun err good' hgood' => ?_
    cases err with
    | none => exact prepares_pure fun _ => rfl
    | some err =>
      -- nothing is left to show of what comes after a failure
      have hnot : ¬ good' := fun hgood => nomatch (hgood' hgood).2
      refine (tar_prepares fun hgood => absurd hgood hnot).bind fun err' good'' hgood'' => ?_
      cases err' <;> exact prepares_pure fun hgood => absurd (hgood'' hgood).1 hnot
  refine hcopies.bind fun err good' hgood' => ?_
  cases err with
  | none => exact prepares_pure fun _ => rfl
  | some err => exact prepares_pure fun hgood => nomatch (hgood' hgood).2

/-- A probe that succeeds finds a usable helper. -/
theorem probeVersion_prepares {tgt : Target} {remotePath : GoString}
    (hparse : good → ∃ reference, parse tgt = .ok reference) :
    Prepares t wanted a state (t.probeVersion tgt remotePath) good fun probed =>
      ∃ manifest, probed = .ok manifest ∧ Usable t wanted manifest := by
  refine (exec_prepares hparse).bind fun result good' hgood' => ?_
  split
  · rename_i err heq
    exact prepares_pure fun hgood => nomatch heq.symm.trans (hgood' hgood).2.1
  split
  · rename_i hcode
    exact prepares_pure fun hgood => absurd (hgood' hgood).2.2.1 hcode
  · split
    · rename_i err heq
      refine prepares_pure fun hgood => ?_
      obtain ⟨manifest, hmanifest, -⟩ := (hgood' hgood).2.2.2 rfl
      cases heq.symm.trans hmanifest
    · rename_i manifest heq
      refine prepares_pure fun hgood => ?_
      obtain ⟨manifest', hmanifest, husable⟩ := (hgood' hgood).2.2.2 rfl
      cases heq.symm.trans hmanifest
      exact ⟨manifest, rfl, husable⟩

/-- The owner of a state prepares the helper that it then returns. -/
theorem ownHelperState_prepares {tgt : Target} (hparse : good → ∃ reference,
    parse tgt = .ok reference) : Prepares t wanted a state (t.ownHelperState tgt) good fun result =>
      ∃ path manifest, result = .ok (path, manifest) ∧ Usable t wanted manifest := by
  refine (prepares_perform .readHelper).bind fun data good' hgood' => ?_
  rcases (data : Except Message GoString) with err | data
  · refine prepares_pure fun hgood => ?_
    obtain ⟨helper, hhelper⟩ := (hgood' hgood).2
    cases hhelper
  refine (copyHelperBinary_prepares fun hgood => hparse (hgood' hgood).1).bind fun path good'' hgood'' => ?_
  cases path with
  | error err => exact prepares_pure fun hgood => nomatch (hgood'' hgood).2
  | ok path =>
    refine (probeVersion_prepares fun hgood => hparse (hgood' (hgood'' hgood).1).1).bind
      fun probed good3 hgood3 => ?_
    cases probed with
    | error err =>
      refine prepares_pure fun hgood => ?_
      obtain ⟨manifest, hmanifest, -⟩ := (hgood3 hgood).2
      cases hmanifest
    | ok manifest =>
      dsimp only
      split
      · rename_i err heq
        refine prepares_pure fun hgood => ?_
        obtain ⟨manifest', hmanifest, husable⟩ := (hgood3 hgood).2
        cases hmanifest
        cases heq.symm.trans husable.1
      · refine prepares_pure fun hgood => ?_
        obtain ⟨manifest', hmanifest, husable⟩ := (hgood3 hgood).2
        cases hmanifest
        exact ⟨path, manifest, rfl, husable⟩

/-- The owner prepares the helper, sets the result and closes `done`. -/
theorem own_obeys (hparse : good → ∃ reference, parse a.tgt = .ok reference) :
    (a.own t state).Obeys (stages t wanted) (.acquire a (.owning state good)) fun _ d => d = .acquire a (.done state) := by
  refine obeys_bind.mpr ((ownHelperState_prepares hparse).mono ?_)
  rintro result _ ⟨good', rfl, hgood'⟩
  refine obeys_perform_bind.mpr ⟨⟨a, good', rfl, fun hgood => (hgood' hgood).2⟩, fun _ => ?_⟩
  exact obeys_perform_bind.mpr ⟨⟨a, rfl, rfl⟩, fun _ => ⟨⟨a, rfl⟩, fun _ => rfl⟩⟩

/-- A lease returns what its state has. -/
theorem lease_obeys : (a.lease t state).Obeys (stages t wanted) (.acquire a (.done state)) fun result d =>
    d = .acquire a (.returning result) := by
  refine obeys_perform_bind.mpr ⟨⟨a, rfl⟩, fun err => ?_⟩
  rcases (err : Option Message) with _ | err
  · refine obeys_perform_bind.mpr ⟨⟨a, rfl⟩, fun (manifest : Manifest) => ?_⟩
    change Obeys (stages t wanted) (.acquire a
      (match validateHelperManifest manifest t.manifest a.capability with
        | some err => .returning (.error err)
        | none => .validated state manifest))
      (match validateHelperManifest manifest t.manifest a.capability with
        | some err => (Pure.pure (.error err) : Calling (Except Message GoString))
        | none => do
          let path ← getPath state
          return .ok path) _
    split
    · rfl
    · exact obeys_perform_bind.mpr ⟨⟨a, manifest, rfl⟩, fun _ => rfl⟩
  · rfl

/-- `Acquire` goes through its stages, or there is no helper to copy. -/
theorem acquire_obeys : (a.acquire t).Obeys (stages t wanted) (.acquire a .before) fun result d =>
    d = .acquire a (.returning result) ∨
      d = .acquire a .before ∧ t.helperPath = [] ∧ result = .error (errNoHelper a.capability) := by
  unfold Acquire.acquire
  split
  · rename_i hpath
    exact Or.inr ⟨rfl, hpath, rfl⟩
  · refine obeys_perform_bind.mpr ⟨⟨a, rfl, rfl⟩, fun found => ?_⟩
    have hlease : (a.lease t found.1).Obeys (stages t wanted) (.acquire a (.done found.1)) fun result d =>
        d = .acquire a (.returning result) ∨
          d = .acquire a .before ∧ t.helperPath = [] ∧ result = .error (errNoHelper a.capability) :=
      lease_obeys.mono fun _ _ => Or.inl
    obtain ⟨state, owner⟩ := found
    rcases (owner : Bool) with _ | _
    · refine obeys_perform_bind.mpr ⟨⟨a, rfl, rfl⟩, fun awaited => ?_⟩
      rcases (awaited : Awaited) with _ | err
      · exact hlease
      · exact Or.inl rfl
    · refine obeys_bind.mpr ((own_obeys fun hgood => hgood).mono ?_)
      rintro _ _ rfl
      exact hlease

end Obeys

/-- All calls follow the stages. -/
theorem system_follows (t : Transport) (wanted : GoString → Prop) :
    (system t).Follows (stages t wanted) Call.doing (fun call d => d = call.doing) Doing.Ended where
  code call d hd := by
    obtain rfl := hd
    refine obeys_bind.mpr ?_
    cases call with
    | acquire a =>
      refine obeys_bind.mpr (acquire_obeys.mono ?_)
      rintro result d hd
      refine ⟨⟨a, hd⟩, fun _ => ?_⟩
      rcases hd with rfl | ⟨rfl, -⟩ <;> rfl
    | invalidate tgt => exact ⟨rfl, fun _ => trivial⟩
    | cancel ctx err => exact ⟨rfl, fun _ => trivial⟩
  started _ _ _ _ _ := rfl

/-! ## Steps -/

section Step

variable (t : Transport) (wanted : GoString → Prop)

/-- What an operation does to the cache, and to the stage of the goroutine. -/
inductive Step : Event interface → World → Doing → World → Doing → Prop
  | begin {w : World} {a : Acquire} (hnone : w.helpers.lookup (a.key t) = none) :
      Step ⟨.helperState (a.key t), (w.states.length, true)⟩ w (.acquire a .before)
        { w with helpers := w.helpers.insert (a.key t) w.states.length, states := w.states ++ [{}] }
        (.acquire a (.owning w.states.length (∃ reference, parse a.tgt = .ok reference)))
  | join {w : World} {a : Acquire} {state : ℕ} (hsome : w.helpers.lookup (a.key t) = some state) :
      Step ⟨.helperState (a.key t), (state, false)⟩ w (.acquire a .before) w (.acquire a (.waiting state))
  | work {w : World} {a : Acquire} {state : ℕ} {good : Prop} {op : ApiServer.Op} {answer : op.Answer} :
      Step ⟨.transport a.ctx op, answer⟩ w (.acquire a (.owning state good)) w
        (.acquire a (.owning state (good ∧ Succeeds t wanted ⟨op, answer⟩)))
  | fill {w : World} {a : Acquire} {state : ℕ} {good : Prop} {result : HelperResult}
      (hgood : good → ∃ path manifest, result = .ok (path, manifest) ∧ Usable t wanted manifest) :
      Step ⟨.setResult state result, ()⟩ w (.acquire a (.owning state good))
        { w with states := w.states.modify state (·.fill result) } (.acquire a (.filled state))
  | finish {w : World} {a : Acquire} {state : ℕ} :
      Step ⟨.removeFailed (a.key t) state, ()⟩ w (.acquire a (.filled state))
        (w.removeFailed (a.key t) state) (.acquire a (.finished state))
  | close {w : World} {a : Acquire} {state : ℕ} :
      Step ⟨.closeDone state, ()⟩ w (.acquire a (.finished state))
        { w with states := w.states.modify state ({ · with done := true }) } (.acquire a (.done state))
  | arrive {w : World} {a : Acquire} {state : ℕ} {found : State}
      (hfound : w.states[state]? = some found) (hdone : found.done = true) :
      Step ⟨.awaitDone state a.ctx, Awaited.done⟩ w (.acquire a (.waiting state)) w (.acquire a (.done state))
  | giveUp {w : World} {a : Acquire} {state : ℕ} {err : Message} (hctx : w.contexts a.ctx = some err) :
      Step ⟨.awaitDone state a.ctx, Awaited.cancelled err⟩ w (.acquire a (.waiting state)) w
        (.acquire a (.returning (.error err)))
  | failed {w : World} {a : Acquire} {state : ℕ} {found : State} {err : Message}
      (hfound : w.states[state]? = some found) (herr : found.err = some err) :
      Step ⟨.getErr state, some err⟩ w (.acquire a (.done state)) w (.acquire a (.returning (.error err)))
  | succeed {w : World} {a : Acquire} {state : ℕ} {found : State}
      (hfound : w.states[state]? = some found) (herr : found.err = none) :
      Step ⟨.getErr state, (none : Option Message)⟩ w (.acquire a (.done state)) w (.acquire a (.succeeded state))
  | refuse {w : World} {a : Acquire} {state : ℕ} {found : State} {err : Message}
      (hfound : w.states[state]? = some found)
      (herr : validateHelperManifest found.manifest t.manifest a.capability = some err) :
      Step ⟨.getManifest state, found.manifest⟩ w (.acquire a (.succeeded state)) w
        (.acquire a (.returning (.error err)))
  | validate {w : World} {a : Acquire} {state : ℕ} {found : State} (hfound : w.states[state]? = some found)
      (hvalid : validateHelperManifest found.manifest t.manifest a.capability = none) :
      Step ⟨.getManifest state, found.manifest⟩ w (.acquire a (.succeeded state)) w
        (.acquire a (.validated state found.manifest))
  | lease {w : World} {a : Acquire} {state : ℕ} {manifest : Manifest} {found : State}
      (hfound : w.states[state]? = some found) :
      Step ⟨.getPath state, found.path⟩ w (.acquire a (.validated state manifest)) w
        (.acquire a (.returning (.ok found.path)))
  | returned {w : World} {a : Acquire} {result : Except Message GoString} :
      Step ⟨.returned result, ()⟩ w (.acquire a (.returning result)) w (.acquire a .over)
  | unconfigured {w : World} {a : Acquire} (hpath : t.helperPath = []) :
      Step ⟨.returned (.error (errNoHelper a.capability)), ()⟩ w (.acquire a .before) w (.acquire a .over)
  | invalidate {w : World} {tgt : Target} : Step ⟨.invalidate tgt, ()⟩ w .other (w.invalidate tgt) .other
  | cancel {w : World} {ctx : ℕ} {err : Message} : Step ⟨.cancel ctx err, ()⟩ w .other (w.cancel ctx err) .other

end Step

/-- An operation that is allowed is a step. -/
theorem step_of_answers {t : Transport} {wanted : GoString → Prop} {w w' : World} {d : Doing}
    {op : Op} {answer : op.Answer} (hallows : d.Allows t wanted op) (h : Answers w op answer w') :
    Step t wanted ⟨op, answer⟩ w d w' (d.next t wanted op answer) := by
  cases op with
  | helperState key =>
    obtain ⟨a, rfl, rfl⟩ := hallows
    have heq : (answer, w') = w.helperState (a.key t) := h
    unfold World.helperState at heq
    split at heq
    · obtain ⟨rfl, rfl⟩ := Prod.mk.inj heq
      exact .join ‹_›
    · obtain ⟨rfl, rfl⟩ := Prod.mk.inj heq
      exact .begin ‹_›
  | transport ctx op =>
    obtain ⟨a, state, good, rfl, rfl⟩ := hallows
    obtain rfl : w' = w := h
    exact .work
  | setResult state result =>
    obtain ⟨a, good, rfl, hgood⟩ := hallows
    obtain rfl : w' = _ := h
    exact .fill hgood
  | removeFailed key state =>
    obtain ⟨a, rfl, rfl⟩ := hallows
    obtain rfl : w' = _ := h
    exact .finish
  | closeDone state =>
    obtain ⟨a, rfl⟩ := hallows
    obtain rfl : w' = _ := h
    exact .close
  | awaitDone state ctx =>
    obtain ⟨a, rfl, rfl⟩ := hallows
    rcases (answer : Awaited) with _ | err
    · obtain ⟨rfl, found, hfound, hdone⟩ := h
      exact .arrive hfound hdone
    · obtain ⟨rfl, hctx⟩ := h
      exact .giveUp hctx
  | getErr state =>
    obtain ⟨a, rfl⟩ := hallows
    obtain ⟨rfl, found, hfound, hanswer⟩ := h
    rcases (answer : Option Message) with _ | err
    · exact .succeed hfound hanswer.symm
    · exact .failed hfound hanswer.symm
  | getManifest state =>
    obtain ⟨a, rfl⟩ := hallows
    obtain ⟨rfl, found, hfound, rfl⟩ := h
    change Step t wanted _ _ _ _ (.acquire a (match validateHelperManifest found.manifest t.manifest a.capability with
      | some err => .returning (.error err)
      | none => .validated state found.manifest))
    split
    · exact .refuse hfound ‹_›
    · exact .validate hfound ‹_›
  | getPath state =>
    obtain ⟨a, manifest, rfl⟩ := hallows
    obtain ⟨rfl, found, hfound, rfl⟩ := h
    exact .lease hfound
  | returned result =>
    obtain ⟨a, rfl | ⟨rfl, hpath, rfl⟩⟩ := hallows
    · obtain rfl : w' = w := h
      exact .returned
    · obtain rfl : w' = w := h
      exact .unconfigured hpath
  | invalidate tgt =>
    obtain rfl : d = .other := hallows
    obtain rfl : w' = _ := h
    exact .invalidate
  | cancel ctx err =>
    obtain rfl : d = .other := hallows
    obtain rfl : w' = _ := h
    exact .cancel

end KubeSsh.CopyHelper

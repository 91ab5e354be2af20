import KubeSsh.Common.Threads
import KubeSsh.PodSsh.Transport

/-!
# `pkg/podssh/backend/apiserver`: the transport through the API server

The methods of the transport as programs over `Op`, and the cluster beside them, where Pods are
deleted and created at any time. The API server serves a request with the Pod that has the namespace
and the name of the request at that moment; the answer says which Pod that was.

The transport reads the namespace and the name of the target and nothing else: no request carries
the UID that the target was bound to. `served_in_bound_pod_iff` says what follows from that.

Left out are the metrics and the override of `Exec` for tests.
-/

namespace KubeSsh.ApiServer

open Backend PodTarget

/-! ## Requests to the API server -/

/-- `corev1.PodExecOptions`. -/
structure PodExecOptions where
  container : GoString
  command : List GoString
  stdin : Bool
  stdout : Bool
  stderr : Bool
  tty : Bool
deriving DecidableEq

/-- The subresource of a Pod that a request is for. -/
inductive Subresource
  | exec (options : PodExecOptions)
  | portforward
deriving DecidableEq

/-- A request for a subresource of a Pod. -/
structure PodRequest where
  ns : GoString
  pod : GoString
  subresource : Subresource
deriving DecidableEq

/-- `remotecommand.StreamOptions`. -/
structure StreamOptions where
  stdin : Option Input
  stdout : Bool
  stderr : Bool
  tty : Bool
  terminalSizeQueue : Option PodSsh.TerminalSizeQueue

/-- How a command was executed: the UID of the Pod it ran in, if it got that far. Only a request
that fails runs nowhere. -/
structure Executed where
  podUID : Option GoString
  result : StreamResult
  stdout : GoString := []
  stderr : GoString := []
  served : podUID = none → ∃ err, result = .failed err

/-- How a streaming connection was negotiated: the UID of the Pod it leads to, and the protocol. -/
structure Negotiated where
  podUID : Option GoString
  protocol : Except Message GoString
  served : podUID = none → ∃ err, protocol = .error err

/-- The path and manifest of a prepared helper, or why it could not be prepared. -/
abbrev HelperResult := Except Message (GoString × Manifest)

/-- The end of `select` on a helper state and the context (`helper_copy.go:76-80`). -/
inductive Awaited
  | done (result : HelperResult)
  | cancelled (err : Message)

/-- What happens to the Pods of the cluster. -/
inductive Change
  | created (pod : Pod)
  | deleted (ns name : GoString)

/-- The Pods of the cluster, by namespace and name. -/
abbrev Pods := GoString → GoString → Option Pod

def Change.apply : Change → Pods → Pods
  | .created pod, pods => fun ns name => if ns = pod.ns ∧ name = pod.name then some pod else pods ns name
  | .deleted ns name, pods => fun ns' name' => if ns' = ns ∧ name' = name then none else pods ns' name'

/-! ## Operations -/

inductive Op
  /-- A Pod is created or deleted. -/
  | change
  /-- `remotecommand.NewSPDYExecutor`. -/
  | newExecutor (request : PodRequest)
  /-- `executor.StreamWithContext`. -/
  | stream (request : PodRequest) (options : StreamOptions)
  /-- `spdy.RoundTripperFor`. -/
  | roundTripper
  /-- `http.NewRequestWithContext`. -/
  | newRequest (request : PodRequest)
  /-- `spdy.NegotiateStreaming`. -/
  | negotiate (request : PodRequest)
  | createStream (streamType port : GoString)
  | closeErrorStream
  | closeConnection
  /-- `go func()` (`port_forward.go:67`). -/
  | goReadError
  | readErrorStream
  /-- `result <- err`. -/
  | sendResult (err : Option Message)
  /-- `helperState`: the entry for a key, and whether the caller has to prepare it. -/
  | helperState (key : GoString)
  | finishHelperState (key : GoString) (state : ℕ) (result : HelperResult)
  | awaitHelper (state : ℕ)
  /-- `os.ReadFile(a.localPath)`. -/
  | readHelper
  | returned (result : Returned)

/-- What each operation answers. -/
def Op.Answer : Op → Type
  | .change => Change
  | .newExecutor _ => Option Message
  | .stream _ _ => Executed
  | .roundTripper => Option Message
  | .newRequest _ => Option Message
  | .negotiate _ => Negotiated
  | .createStream _ _ => Option Message
  | .readErrorStream => Except Message GoString
  | .helperState _ => ℕ × Bool
  | .awaitHelper _ => Awaited
  | .readHelper => Except Message GoString
  | _ => Unit

abbrev interface : Interface := ⟨Op, Op.Answer⟩

/-- A program of a goroutine. -/
abbrev Calling (α : Type) := Prog interface α

def perform (op : Op) : Calling op.Answer := Prog.perform (I := interface) op

def newExecutor (request : PodRequest) : Calling (Option Message) := perform (.newExecutor request)
def stream (request : PodRequest) (options : StreamOptions) : Calling Executed :=
  perform (.stream request options)
def roundTripper : Calling (Option Message) := perform .roundTripper
def newRequest (request : PodRequest) : Calling (Option Message) := perform (.newRequest request)
def negotiate (request : PodRequest) : Calling Negotiated := perform (.negotiate request)
def createStream (streamType port : GoString) : Calling (Option Message) :=
  perform (.createStream streamType port)
def closeErrorStream : Calling Unit := perform .closeErrorStream
def closeConnection : Calling Unit := perform .closeConnection
def goReadError : Calling Unit := perform .goReadError
def readErrorStream : Calling (Except Message GoString) := perform .readErrorStream
def sendResult (err : Option Message) : Calling Unit := perform (.sendResult err)
def helperState (key : GoString) : Calling (ℕ × Bool) := perform (.helperState key)
def finishHelperState (key : GoString) (state : ℕ) (result : HelperResult) : Calling Unit :=
  perform (.finishHelperState key state result)
def awaitHelper (state : ℕ) : Calling Awaited := perform (.awaitHelper state)
def readHelper : Calling (Except Message GoString) := perform .readHelper
def returned (result : Returned) : Calling Unit := perform (.returned result)

/-- `Transport` (`transport.go:20-28`) with the options of its helper. -/
structure Transport where
  helperPath : GoString
  helperRemoteDir : GoString
  /-- `helperpkg.CurrentManifest()`. -/
  manifest : Manifest
  lib : Library

/-! ## `Exec` -/

/-- What `Exec` returns, and what the command wrote. -/
structure ExecResult where
  code : ℤ
  err : Option Message
  stdout : GoString := []
  stderr : GoString := []

/-- The options of the stream of `Exec` (`exec.go:48-54`). -/
def streamOptions (req : ExecRequest) : StreamOptions where
  stdin := req.stdin
  stdout := req.stdout
  stderr := !req.tty && req.stderr
  tty := req.tty
  terminalSizeQueue := req.terminalSizeQueue

/-- The request of `Exec` for a target that was parsed (`exec.go:26-43`). -/
def execPod (reference : Reference) (req : ExecRequest) : PodRequest where
  ns := reference.ns
  pod := reference.pod
  subresource := .exec
    { container := reference.container
      command := req.command
      stdin := req.stdin.isSome
      stdout := req.stdout
      stderr := !req.tty && req.stderr
      tty := req.tty }

/-- `Transport.Exec` (`exec.go:18-62`). -/
def exec (req : ExecRequest) : Calling ExecResult :=
  match parse req.target with
  | .error err => return { code := 1, err := some (errorText err) }
  | .ok reference => do
    let request := execPod reference req
    match ← newExecutor request with
    | some err => return { code := 1, err := some (.text "create executor: " ++ err) }
    | none =>
      let executed ← stream request (streamOptions req)
      let (code, err) := executed.result.exit (.text "exec stream: ")
      return { code, err, stdout := executed.stdout, stderr := executed.stderr }

/-! ## `ExecHelper` -/

/-- `validateHelperManifest` (`helper_acquirer.go:96-110`). -/
def validateHelperManifest (manifest expected : Manifest) (capability : GoString) : Option Message :=
  if manifest.version ≠ expected.version then
    some [.bytes (str "helper version "), .quoted manifest.version, .bytes (str " does not match "),
      .quoted expected.version]
  else if manifest.commit ≠ expected.commit then
    some [.bytes (str "helper commit "), .quoted manifest.commit, .bytes (str " does not match "),
      .quoted expected.commit]
  else if manifest.protocolVersion ≠ protocolVersion then
    some [.bytes (str "helper protocol "), .quoted manifest.protocolVersion,
      .bytes (str " is not supported; want "), .quoted protocolVersion]
  else if capability ≠ [] ∧ capability ∉ manifest.capabilities then
    some [.bytes (str "helper does not advertise required capability "), .quoted capability]
  else none

/-- `helperCachePrefix` (`helper_copy.go:302-304`). -/
def helperCachePrefix (tgt : Target) : GoString := tgt.string ++ [0] ++ boundUID tgt ++ [0]

/-- `helperCacheKey` (`helper_copy.go:298-300`). -/
def helperCacheKey (tgt : Target) (manifest : Manifest) : GoString :=
  helperCachePrefix tgt ++ manifest.version ++ [0] ++ manifest.commit

namespace Transport

variable (t : Transport)

/-- `helperRemotePath` (`helper_copy.go:189-194`). -/
def helperRemotePath (tgt : Target) : GoString :=
  t.lib.remotePath (remoteDirOr t.helperRemoteDir) (helperCacheKey tgt t.manifest)

/-- A copy of the helper with a command that reads it (`helper_copy.go:203-225`, `232-253`). -/
def copyWith (tgt : Target) (command : List GoString) (data : GoString) : Calling (Option Message) := do
  let result ← exec
    { target := tgt, command := command, stdin := some (.data data), stdout := true, stderr := true }
  match result.err with
  | some err => return some err
  | none =>
    if result.code ≠ 0 then
      return some (.text "helper copy exited with " ++ .ofString (formatInt result.code))
    else return none

/-- `copyHelperBinaryWithShell` (`helper_copy.go:203-225`). -/
def copyHelperBinaryWithShell (tgt : Target) (remotePath data : GoString) : Calling (Option Message) :=
  copyWith tgt (shellCommand remotePath) data

/-- `copyHelperBinaryWithTar` (`helper_copy.go:227-253`). -/
def copyHelperBinaryWithTar (tgt : Target) (remotePath data : GoString) : Calling (Option Message) :=
  match t.lib.tarArchive (pathBase remotePath) data with
  | .error err => return some err
  | .ok archive => copyWith tgt (tarCommand remotePath) archive

/-- The loop over the copy methods (`helper_copy.go:178-186`): the first that succeeds ends it. -/
def tryCopies : List (GoString × Calling (Option Message)) → List Message → Calling (Option Message)
  | [], failures =>
    return some (.text "inject helper: " ++ List.intercalate (Message.text "\n") failures)
  | (name, copy) :: methods, failures => do
    match ← copy with
    | none => return none
    | some err => tryCopies methods (failures ++ [.ofString name ++ .text ": " ++ err])

/-- `copyHelperBinary` (`helper_copy.go:175-187`). -/
def copyHelperBinary (tgt : Target) (data : GoString) : Calling (Except Message GoString) := do
  let remotePath := t.helperRemotePath tgt
  match ← tryCopies
      [(str "sh/cat/chmod", copyHelperBinaryWithShell tgt remotePath data),
        (str "tar", t.copyHelperBinaryWithTar tgt remotePath data)] [] with
  | some err => return .error err
  | none => return .ok remotePath

/-- `probeVersion` (`helper_copy.go:274-296`). -/
def probeVersion (tgt : Target) (remotePath : GoString) : Calling (Except Message Manifest) := do
  let result ← exec
    { target := tgt, command := [remotePath, commandVersion], stdout := true, stderr := true }
  match result.err with
  | some err => return .error (.text "run helper version: " ++ err)
  | none =>
    if result.code ≠ 0 then
      return .error (.text "helper version exited with " ++ .ofString (formatInt result.code) ++
        .text ": " ++ .ofString (Strings.trimSpace result.stderr))
    else match t.lib.decodeManifest result.stdout with
      | .error err => return .error (.text "decode helper version: " ++ err)
      | .ok manifest => return .ok manifest

/-- `prepareHelper` (`helper_copy.go:160-173`). -/
def prepareHelper (tgt : Target) (data : GoString) : Calling HelperResult := do
  match ← t.copyHelperBinary tgt data with
  | .error err => return .error err
  | .ok remotePath =>
    match ← t.probeVersion tgt remotePath with
    | .error err => return .error err
    | .ok manifest =>
      match validateHelperManifest manifest t.manifest [] with
      | some err => return .error err
      | none => return .ok (remotePath, manifest)

/-- What the owner of a helper state puts into it (`helper_copy.go:66-73`). -/
def ownHelperState (tgt : Target) : Calling HelperResult := do
  match ← readHelper with
  | .error err => return .error (.text "read helper binary: " ++ err)
  | .ok data => t.prepareHelper tgt data

/-- The helper state once it is done (`helper_copy.go:64-81`): its owner fills it, others wait. -/
def awaitHelperState (tgt : Target) (key : GoString) (state : ℕ) (owner : Bool) : Calling Awaited :=
  if owner then do
    let result ← t.ownHelperState tgt
    finishHelperState key state result
    return .done result
  else awaitHelper state

/-- `Acquire` (`helper_copy.go:55-90`): the path of the helper. -/
def acquire (tgt : Target) (capability : GoString) : Calling (Except Message GoString) := do
  if t.helperPath = [] then
    return .error (.text "helper path is required for " ++ .ofString capability)
  let key := helperCacheKey tgt t.manifest
  let (state, owner) ← helperState key
  match ← t.awaitHelperState tgt key state owner with
  | .cancelled err => return .error err
  | .done (.error err) => return .error err
  | .done (.ok (path, manifest)) =>
    match validateHelperManifest manifest t.manifest capability with
    | some err => return .error err
    | none => return .ok path

/-- `ExecHelper` (`helper_acquirer.go:56-70`). Releasing the lease of a copied helper does
nothing. -/
def execHelper (req : HelperExecRequest) : Calling ExecResult := do
  match ← t.acquire req.target req.capability with
  | .error err => return { code := 1, err := some err }
  | .ok path =>
    exec { target := req.target, command := path :: req.command, stdin := req.stdin,
           stdout := req.stdout, stderr := req.stderr }

end Transport

/-! ## `PortForward` -/

/-- `portforward.PortForwardProtocolV1Name`. -/
def portForwardProtocolV1Name : GoString := str "portforward.k8s.io"

/-- The streams of a connection that was negotiated (`port_forward.go:52-85`). -/
def openStreams (port : GoString) : Calling (Option Message) := do
  match ← createStream (str "error") port with
  | some err =>
    closeConnection
    return some (.text "create API Server port-forward error stream: " ++ err)
  | none =>
    closeErrorStream
    goReadError
    match ← createStream (str "data") port with
    | some err =>
      closeConnection
      return some (.text "create API Server port-forward data stream: " ++ err)
    | none => return none

/-- `Transport.PortForward` (`port_forward.go:22-86`). -/
def portForward (req : PodPortForwardRequest) : Calling (Option Message) :=
  match parse req.target with
  | .error err => return some (errorText err)
  | .ok reference => do
    let request : PodRequest := { ns := reference.ns, pod := reference.pod, subresource := .portforward }
    match ← roundTripper with
    | some err => return some (.text "create API Server port-forward transport: " ++ err)
    | none =>
    match ← newRequest request with
    | some err => return some (.text "create API Server port-forward request: " ++ err)
    | none =>
    let negotiated ← negotiate request
    match negotiated.protocol with
    | .error err => return some (.text "dial API Server port-forward: " ++ err)
    | .ok protocol =>
      if protocol ≠ portForwardProtocolV1Name then
        closeConnection
        return some [.bytes (str "dial API Server port-forward: unexpected protocol "), .quoted protocol]
      openStreams (decimal req.port.toNat)

/-- The goroutine that reads the error stream of a forward (`port_forward.go:67-78`). -/
def readError : Calling Unit := do
  match ← readErrorStream with
  | .error err => sendResult (some (.text "read API Server port-forward error: " ++ err))
  | .ok message =>
    if message ≠ [] then
      sendResult (some (.text "API Server port-forward: " ++ .ofString (Strings.trimSpace message)))
    else sendResult none

/-! ## The system -/

inductive Task
  | cluster
  | call (call : TransportCall)
  | readError

/-- One call of the transport. -/
def Transport.call (t : Transport) : TransportCall → Calling Unit
  | .exec req => do
    let result ← exec req
    returned (.exited result.code result.err)
  | .execHelper req => do
    let result ← t.execHelper req
    returned (.exited result.code result.err)
  | .portForward req => do
    let err ← portForward req
    returned (.forwarded err)

def Transport.code (t : Transport) : Task → Calling (Option Task)
  | .cluster => do
    let _ ← perform .change
    return some .cluster
  | .call call => do
    t.call call
    return none
  | .readError => do
    readError
    return none

def started : Op → List Task
  | .goReadError => [.readError]
  | _ => []

/-- The Pods of the cluster, and the helper states (`helper_copy.go:29-37`, `105-110`) by number. -/
structure World where
  pods : Pods
  helpers : GoMap ℕ := ∅
  states : List (Option HelperResult) := []

/-- `helperState` (`helper_copy.go:112-121`). -/
def World.helperState (world : World) (key : GoString) : (ℕ × Bool) × World :=
  match world.helpers.lookup key with
  | some state => ((state, false), world)
  | none =>
    let state := world.states.length
    ((state, true),
      { world with helpers := world.helpers.insert key state, states := world.states ++ [none] })

/-- `finishHelperState` (`helper_copy.go:123-130`): a failure is forgotten. -/
def World.finishHelperState (world : World) (key : GoString) (state : ℕ) (result : HelperResult) : World :=
  let states := world.states.set state (some result)
  match result with
  | .error _ =>
    if world.helpers.lookup key = some state then
      { world with helpers := world.helpers.erase key, states := states }
    else { world with states := states }
  | .ok _ => { world with states := states }

/-- A request is served by the Pod that has its namespace and name. -/
def ServedBy (pods : Pods) (request : PodRequest) (podUID : Option GoString) : Prop :=
  ∀ uid ∈ podUID, ∃ pod ∈ pods request.ns request.pod, pod.uid = uid

/-- The answers of the cluster, of the helper states and of the libraries. -/
def Answers (world : World) : (op : Op) → op.Answer → World → Prop
  | .change, change, world' => world' = { world with pods := change.apply world.pods }
  | .stream request _, executed, world' => world' = world ∧ ServedBy world.pods request executed.podUID
  | .negotiate request, negotiated, world' =>
    world' = world ∧ ServedBy world.pods request negotiated.podUID
  | .helperState key, answer, world' => (answer, world') = world.helperState key
  | .finishHelperState key state result, _, world' =>
    world' = world.finishHelperState key state result
  | .awaitHelper state, .done result, world' => world' = world ∧ world.states[state]? = some (some result)
  | _, _, world' => world' = world

def Transport.system (t : Transport) : System interface where
  Task := Task
  code := t.code
  started := started
  World := World
  Answers := Answers

/-- The cluster, and some calls of the transport at the same time. -/
def Transport.start (t : Transport) (pods : Pods) (calls : List TransportCall) : t.system.Config :=
  t.system.initial { pods } (.cluster :: calls.map .call)

/-! ## Where requests go

The monitor of a goroutine knows the target of its call. Every request of the call is for the Pod
that the target names; the UID in the target plays no part in it. -/

/-- The request for a Pod that an operation sends. -/
def Op.request : Op → Option PodRequest
  | .stream request _ => some request
  | .negotiate request => some request
  | _ => none

/-- The request is for the Pod that the target names, and for its container. -/
structure For (tgt : Target) (request : PodRequest) (reference : Reference) : Prop where
  parsed : parse tgt = .ok reference
  ns : request.ns = reference.ns
  pod : request.pod = reference.pod
  container : ∀ options, request.subresource = .exec options → options.container = reference.container

/-- The operation sends no request, or one for the Pod of the target. -/
def Op.Serves (tgt : Target) (op : Op) : Prop :=
  ∀ request ∈ op.request, ∃ reference, For tgt request reference

/-- The operation fills no helper state. -/
def Op.Unfinishing : Op → Prop
  | .finishHelperState _ _ _ => False
  | _ => True

/-- What a call performs outside of the lease of a helper: requests for the Pod of its target, and
nothing that fills a helper state. -/
def Op.Works (tgt : Target) (op : Op) : Prop := op.Serves tgt ∧ op.Unfinishing

section Works

open Prog

variable {tgt : Target}

theorem Op.serves_of_request {op : Op} (h : op.request = none) : op.Serves tgt := by
  intro request hrequest
  rw [h] at hrequest
  cases hrequest

theorem works_perform {op : Op} (h : op.request = none) (hunfinishing : op.Unfinishing) :
    (perform op).Only (Op.Works tgt) :=
  only_perform.mpr ⟨Op.serves_of_request h, hunfinishing⟩

/-- `Exec` streams to the Pod of its target. -/
theorem exec_works {req : ExecRequest} (h : req.target = tgt) : (exec req).Only (Op.Works tgt) := by
  subst h
  unfold exec
  split
  · exact only_pure _
  rename_i reference hparse
  refine Only.bind (works_perform rfl trivial) fun err => ?_
  rcases err with _ | err
  · refine Only.bind (only_perform.mpr ⟨?_, trivial⟩) fun executed => only_pure _
    rintro request ⟨⟩
    exact ⟨reference, hparse, rfl, rfl, by rintro options ⟨⟩; rfl⟩
  · exact only_pure _

theorem copyWith_works (command : List GoString) (data : GoString) :
    (Transport.copyWith tgt command data).Only (Op.Works tgt) := by
  refine Only.bind (exec_works rfl) fun result => ?_
  split
  · exact only_pure _
  · split <;> exact only_pure _

/-- The loop over the copy methods performs what they perform. -/
theorem tryCopies_only {P : Op → Prop} {methods : List (GoString × Calling (Option Message))}
    (h : ∀ entry ∈ methods, entry.2.Only P) (failures : List Message) :
    (Transport.tryCopies methods failures).Only P := by
  induction methods generalizing failures with
  | nil => exact only_pure _
  | cons entry methods ih =>
    obtain ⟨name, copy⟩ := entry
    obtain ⟨hcopy, hmethods⟩ := List.forall_mem_cons.mp h
    refine Only.bind hcopy fun err => ?_
    cases err with
    | none => exact only_pure _
    | some err => exact ih hmethods _

variable (t : Transport)

theorem copyHelperBinary_works (data : GoString) :
    (t.copyHelperBinary tgt data).Only (Op.Works tgt) := by
  have htar : (t.copyHelperBinaryWithTar tgt (t.helperRemotePath tgt) data).Only (Op.Works tgt) := by
    unfold Transport.copyHelperBinaryWithTar
    split
    · exact only_pure _
    · exact copyWith_works _ _
  refine Only.bind (tryCopies_only ?_ _) fun err => ?_
  · exact List.forall_mem_cons.mpr ⟨copyWith_works _ _, List.forall_mem_singleton.mpr htar⟩
  · split <;> exact only_pure _

theorem probeVersion_works (remotePath : GoString) :
    (t.probeVersion tgt remotePath).Only (Op.Works tgt) := by
  refine Only.bind (exec_works rfl) fun result => ?_
  split
  · exact only_pure _
  split
  · exact only_pure _
  · split <;> exact only_pure _

/-- The owner of a helper state works in the Pod of its target until it fills the state. -/
theorem ownHelperState_works : (t.ownHelperState tgt).Only (Op.Works tgt) := by
  refine Only.bind (works_perform rfl trivial) fun data => ?_
  split
  · exact only_pure _
  refine Only.bind (copyHelperBinary_works t _) fun copied => ?_
  split
  · exact only_pure _
  refine Only.bind (probeVersion_works t _) fun probed => ?_
  split
  · exact only_pure _
  · split <;> exact only_pure _

theorem openStreams_works (port : GoString) : (openStreams port).Only (Op.Works tgt) := by
  refine Only.bind (works_perform rfl trivial) fun err => ?_
  split
  · exact Only.bind (works_perform rfl trivial) fun _ => only_pure _
  refine Only.bind (works_perform rfl trivial) fun _ =>
    Only.bind (works_perform rfl trivial) fun _ => ?_
  refine Only.bind (works_perform rfl trivial) fun err => ?_
  split
  · exact Only.bind (works_perform rfl trivial) fun _ => only_pure _
  · exact only_pure _

/-- `PortForward` negotiates with the Pod of its target. -/
theorem portForward_works (req : PodPortForwardRequest) :
    (portForward req).Only (Op.Works req.target) := by
  unfold portForward
  split
  · exact only_pure _
  rename_i reference hparse
  refine Only.bind (works_perform rfl trivial) fun err => ?_
  split
  · exact only_pure _
  refine Only.bind (works_perform rfl trivial) fun err => ?_
  split
  · exact only_pure _
  refine Only.bind (only_perform.mpr ⟨?_, trivial⟩) fun negotiated => ?_
  · rintro request ⟨⟩
    exact ⟨reference, hparse, rfl, rfl, nofun⟩
  split
  · exact only_pure _
  split
  · exact Only.bind (works_perform rfl trivial) fun _ => only_pure _
  · exact openStreams_works _

theorem readError_only :
    readError.Only fun op : Op => op.request = none ∧ op.Unfinishing := by
  refine Only.bind (only_perform.mpr ⟨rfl, trivial⟩) fun message => ?_
  split
  · exact only_perform.mpr ⟨rfl, trivial⟩
  · split <;> exact only_perform.mpr ⟨rfl, trivial⟩

theorem serves_perform {op : Op} (h : op.request = none) : (perform op).Only (Op.Serves tgt) :=
  only_perform.mpr (Op.serves_of_request h)

/-- A call that leases a helper sends its requests to the Pod of its target, too. -/
theorem execHelper_serves (req : HelperExecRequest) :
    (t.execHelper req).Only (Op.Serves req.target) := by
  have hawait (key : GoString) (state : ℕ) (owner : Bool) :
      (t.awaitHelperState req.target key state owner).Only (Op.Serves req.target) := by
    unfold Transport.awaitHelperState
    split
    · exact ((ownHelperState_works t).mono fun _ => And.left).bind fun result =>
        (serves_perform rfl).bind fun _ => only_pure _
    · exact serves_perform rfl
  have hacquire : (t.acquire req.target req.capability).Only (Op.Serves req.target) := by
    unfold Transport.acquire
    split
    · exact only_pure _
    refine Only.bind (serves_perform rfl) fun answer => ?_
    refine Only.bind (hawait _ _ _) fun awaited => ?_
    split
    · exact only_pure _
    · exact only_pure _
    · split <;> exact only_pure _
  refine Only.bind hacquire fun acquired => ?_
  split
  · exact only_pure _
  · exact (exec_works rfl).mono fun _ => And.left

/-- The requests of a call are for the Pod of its target. -/
theorem call_serves (call : TransportCall) : (t.call call).Only (Op.Serves call.target) := by
  cases call with
  | exec req => exact ((exec_works rfl).mono fun _ => And.left).bind fun _ => serves_perform rfl
  | execHelper req => exact (execHelper_serves t req).bind fun _ => serves_perform rfl
  | portForward req =>
    exact ((portForward_works req).mono fun _ => And.left).bind fun _ => serves_perform rfl

end Works

/-! ## Where requests run -/

/-- The UID of the Pod in which a request was served. -/
def ranIn : Event interface → Option GoString
  | ⟨.stream _ _, executed⟩ => Executed.podUID executed
  | ⟨.negotiate _, negotiated⟩ => Negotiated.podUID negotiated
  | _ => none

/-- The Pods after one event. -/
def podsNext (pods : Pods) : Event interface → Pods
  | ⟨.change, change⟩ => Change.apply change pods
  | _ => pods

/-- The Pods after the events of a trace. -/
def podsAfter (pods : Pods) (trace : List (ℕ × Event interface)) : Pods :=
  trace.foldl (fun pods entry => podsNext pods entry.2) pods

theorem podsAfter_concat (pods : Pods) (trace : List (ℕ × Event interface)) (entry : ℕ × Event interface) :
    podsAfter pods (trace ++ [entry]) = podsNext (podsAfter pods trace) entry.2 := by
  rw [podsAfter, List.foldl_append]
  rfl

/-- The world changes its Pods as the trace says, and a request runs in the Pod that has its
name. -/
theorem answers_pods {world world' : World} {op : Op} {answer : op.Answer}
    (h : Answers world op answer world') :
    world'.pods = podsNext world.pods ⟨op, answer⟩ ∧
      ∀ uid ∈ ranIn ⟨op, answer⟩, ∃ request ∈ op.request,
        ∃ pod ∈ world.pods request.ns request.pod, pod.uid = uid := by
  cases op with
  | change =>
    rw [show world' = _ from h]
    exact ⟨rfl, nofun⟩
  | stream request options =>
    obtain ⟨rfl, hserved⟩ := h
    exact ⟨rfl, fun uid huid => ⟨request, rfl, hserved uid huid⟩⟩
  | negotiate request =>
    obtain ⟨rfl, hserved⟩ := h
    exact ⟨rfl, fun uid huid => ⟨request, rfl, hserved uid huid⟩⟩
  | helperState key =>
    have hworld : world' = (world.helperState key).2 := congrArg Prod.snd h
    refine ⟨?_, nofun⟩
    rw [hworld, World.helperState]
    split <;> rfl
  | finishHelperState key state result =>
    rw [show world' = _ from h]
    refine ⟨?_, nofun⟩
    cases result with
    | error err =>
      rw [World.finishHelperState]
      split <;> rfl
    | ok prepared => rfl
  | awaitHelper state =>
    rcases (answer : Awaited) with result | err
    · rw [show world' = world from h.1]
      exact ⟨rfl, nofun⟩
    · rw [show world' = world from h]
      exact ⟨rfl, nofun⟩
  | newExecutor _ | roundTripper | newRequest _ | createStream _ _ | closeErrorStream
  | closeConnection | goReadError | readErrorStream | sendResult _ | readHelper | returned _ =>
    rw [show world' = world from h]
    exact ⟨rfl, nofun⟩

/-- The target of the call that a goroutine executes. -/
def Task.target : Task → Option Target
  | .call request => some request.target
  | _ => none

/-- A goroutine with a target only sends requests for its Pod, others send none. -/
def watch : Monitor interface (Option Target) where
  Allowed tgt op := ∀ request ∈ op.request, ∃ target ∈ tgt, ∃ reference, For target request reference
  next tgt _ _ := tgt

theorem system_follows (t : Transport) :
    t.system.Follows watch Task.target (fun task tgt => tgt = task.target) (fun _ => True) where
  code task tgt htgt := by
    have hquiet : ∀ op, op.request = none → watch.Allowed tgt op := fun op hop request hrequest => by
      rw [hop] at hrequest
      cases hrequest
    cases task with
    | cluster => exact ⟨hquiet _ rfl, fun _ => htgt⟩
    | call call =>
      subst htgt
      refine Prog.obeys_bind.mpr (((call_serves t call).obeys fun op hop => ⟨?_, fun _ => rfl⟩).mono ?_)
      · exact fun request hrequest => ⟨call.target, rfl, hop request hrequest⟩
      · exact fun _ _ _ => trivial
    | readError =>
      refine Prog.obeys_bind.mpr
        ((readError_only.obeys fun op hop => ⟨hquiet op hop.1, fun _ => rfl⟩).mono ?_)
      exact fun _ _ _ => trivial
  started tgt op hop task htask := rfl

/-- What happened in a run from these Pods and calls: the goroutines of the calls keep their
targets, and each request ran in the Pod that had the name in its target when it was served. -/
structure Served (pods : Pods) (calls : List TransportCall) (trace : List (ℕ × Event interface))
    (world : World) (targets : List (Option Target)) : Prop where
  current : world.pods = podsAfter pods trace
  kept : ∀ (i : ℕ) (call : TransportCall), calls[i]? = some call → targets[i + 1]? = some (some call.target)
  ran : System.Stepwise (fun before entry => ∀ (i : ℕ) (call : TransportCall), calls[i]? = some call →
    entry.1 = i + 1 → ∀ uid ∈ ranIn entry.2, ∃ reference, parse call.target = .ok reference ∧
      ∃ pod ∈ podsAfter pods before reference.ns reference.pod, pod.uid = uid) trace

theorem Served.step {pods : Pods} {calls : List TransportCall} {trace : List (ℕ × Event interface)}
    {world world' : World} {targets : List (Option Target)} {i : ℕ} {tgt : Option Target} {op : Op}
    {answer : op.Answer} (h : Served pods calls trace world targets) (hi : targets[i]? = some tgt)
    (hallowed : watch.Allowed tgt op) (hanswer : Answers world op answer world')
    (more : List (Option Target)) :
    Served pods calls (trace ++ [(i, ⟨op, answer⟩)]) world' (targets.set i tgt ++ more) := by
  have hset : targets.set i tgt = targets := by
    obtain ⟨hlt, rfl⟩ := List.getElem?_eq_some_iff.mp hi
    exact List.set_getElem_self hlt
  obtain ⟨hpods, hran⟩ := answers_pods hanswer
  rw [hset]
  refine ⟨?_, fun j call hj => ?_, h.ran.concat fun j call hj hij uid huid => ?_⟩
  · rw [podsAfter_concat, hpods, h.current]
  · have hkept := h.kept j call hj
    rwa [List.getElem?_append_left (List.getElem?_eq_some_iff.mp hkept).1]
  · obtain ⟨request, hrequest, pod, hpod, rfl⟩ := hran uid huid
    obtain ⟨target, htarget, reference, hfor⟩ := hallowed request hrequest
    dsimp only at hij
    rw [hij, h.kept j call hj] at hi
    obtain rfl := Option.some.inj hi
    obtain rfl := Option.some.inj htarget
    refine ⟨reference, hfor.parsed, pod, ?_, rfl⟩
    rw [← h.current, ← hfor.ns, ← hfor.pod]
    exact hpod

theorem run_served {t : Transport} {pods : Pods} {calls : List TransportCall}
    {trace : List (ℕ × Event interface)} {c : t.system.Config}
    (hrun : t.system.Run (t.start pods calls) trace c) :
    ∃ targets, Served pods calls trace c.world targets := by
  have hstart : Served pods calls [] { pods } ((.cluster :: calls.map .call : List Task).map Task.target) := by
    refine ⟨rfl, fun i call hi => ?_, System.stepwise_nil⟩
    rw [List.map_cons, List.getElem?_cons_succ, List.map_map, List.getElem?_map, hi]
    rfl
  obtain ⟨targets, hserved, -⟩ := hrun.tracked (system_follows t) (fun _ _ => rfl)
    (Served pods calls) hstart
    fun _ _ _ _ _ _ _ _ h hi hallowed hanswer => h.step hi hallowed hanswer _
  exact ⟨targets, hserved⟩

/-- The name of the target stays with the Pod that has the UID: no other Pod has it at first, and
none is created under it. -/
structure NameKept (pods : Pods) (trace : List (ℕ × Event interface)) (reference : Reference)
    (uid : GoString) : Prop where
  first : ∀ pod ∈ pods reference.ns reference.pod, pod.uid = uid
  created : ∀ (i : ℕ) (pod : Pod), (i, (⟨.change, Change.created pod⟩ : Event interface)) ∈ trace →
    pod.ns = reference.ns → pod.name = reference.pod → pod.uid = uid

theorem NameKept.after {pods : Pods} {trace rest : List (ℕ × Event interface)}
    {reference : Reference} {uid : GoString} (h : NameKept pods (trace ++ rest) reference uid) :
    ∀ pod ∈ podsAfter pods trace reference.ns reference.pod, pod.uid = uid := by
  induction trace using List.reverseRecOn generalizing rest with
  | nil => exact h.first
  | append_singleton trace entry ih =>
    obtain ⟨i, op, answer⟩ := entry
    rw [List.append_assoc] at h
    have hbefore := ih h
    rw [podsAfter_concat]
    cases op with
    | change =>
      rcases (answer : Change) with created | ⟨ns, name⟩
      · intro pod hpod
        simp only [podsNext, Change.apply] at hpod
        split at hpod
        · rename_i hname
          obtain rfl := Option.some.inj hpod
          exact h.created i created (by simp) hname.1.symm hname.2.symm
        · exact hbefore pod hpod
      · intro pod hpod
        simp only [podsNext, Change.apply] at hpod
        split at hpod
        · cases hpod
        · exact hbefore pod hpod
    | _ => exact hbefore

/-- For every history of the Pods of a cluster and every call of the transport: all that the call
executes or forwards runs in the Pod instance that its target is bound to exactly if that instance
has the name in the target whenever a request of the call is served. So it does if the name is
kept. -/
theorem served_in_bound_pod_iff {t : Transport} {pods : Pods} {calls : List TransportCall}
    {trace : List (ℕ × Event interface)} {c : t.system.Config}
    (hrun : t.system.Run (t.start pods calls) trace c) {i : ℕ} {call : TransportCall}
    (hcall : calls[i]? = some call) {reference : Reference} (href : parse call.target = .ok reference) :
    ((∀ event ∈ System.eventsOf (i + 1) trace, ∀ uid ∈ ranIn event, uid = boundUID call.target) ↔
      System.Stepwise (fun before entry => entry.1 = i + 1 → (ranIn entry.2).isSome →
        ∃ pod ∈ podsAfter pods before reference.ns reference.pod, pod.uid = boundUID call.target) trace) ∧
    (NameKept pods trace reference (boundUID call.target) →
      ∀ event ∈ System.eventsOf (i + 1) trace, ∀ uid ∈ ranIn event, uid = boundUID call.target) := by
  obtain ⟨targets, hserved⟩ := run_served hrun
  -- a served request of the call ran in the Pod that had its name
  have hran : ∀ before event rest, trace = before ++ (i + 1, event) :: rest → ∀ uid ∈ ranIn event,
      ∃ pod ∈ podsAfter pods before reference.ns reference.pod, pod.uid = uid := by
    intro before event rest htrace uid huid
    obtain ⟨reference', hparse, pod, hpod, rfl⟩ :=
      hserved.ran before (i + 1, event) rest htrace i call hcall rfl uid huid
    obtain rfl := Except.ok.inj (href.symm.trans hparse)
    exact ⟨pod, hpod, rfl⟩
  refine ⟨⟨fun h before entry rest htrace hentry hsome => ?_, fun h event hevent uid huid => ?_⟩,
    fun h event hevent uid huid => ?_⟩
  · obtain ⟨j, event⟩ := entry
    obtain rfl : j = i + 1 := hentry
    obtain ⟨uid, huid⟩ := Option.isSome_iff_exists.mp hsome
    have hmem : event ∈ System.eventsOf (i + 1) trace := by
      rw [System.mem_eventsOf, htrace]
      simp
    rw [← h event hmem uid huid]
    exact hran before event rest htrace uid huid
  · obtain ⟨before, rest, htrace⟩ := List.append_of_mem (System.mem_eventsOf.mp hevent)
    obtain ⟨pod, hpod, rfl⟩ := hran before event rest htrace uid huid
    obtain ⟨pod', hpod', hbound⟩ := h before _ rest htrace rfl (Option.isSome_of_mem huid)
    rw [← hbound, Option.mem_unique hpod hpod']
  · obtain ⟨before, rest, rfl⟩ := List.append_of_mem (System.mem_eventsOf.mp hevent)
    obtain ⟨pod, hpod, rfl⟩ := hran before event rest rfl uid huid
    exact h.after pod hpod

/-! ### A Pod that is replaced -/

/-- A Pod, and the one that takes its name. -/
def firstPod : Pod :=
  { ns := str "default", name := str "web-0", uid := str "1", uid_ne_nil := nofun, containers := [str "app"] }
def secondPod : Pod := { firstPod with uid := str "2", uid_ne_nil := nofun }

/-- A connection to the first Pod executes a command. -/
def execFirst : TransportCall := .exec { target := bind firstPod (str "app"), command := [str "id"] }

def onlyFirst : Pods := (Change.created firstPod).apply fun _ _ => none

/-- A transport without a helper. -/
def bareTransport : Transport where
  helperPath := []
  helperRemoteDir := []
  manifest := ⟨[], [], protocolVersion, []⟩
  lib := ⟨id, fun _ data => .ok data, fun _ => .error []⟩

/-- The request of the command, and its execution in a Pod. -/
def firstRequest : PodRequest :=
  execPod ⟨str "default", str "web-0", str "app"⟩ { target := bind firstPod (str "app"), command := [str "id"] }
def firstOptions : StreamOptions := ⟨none, false, false, false, none⟩
def executedIn (uid : GoString) : Executed := { podUID := some uid, result := .ok, served := nofun }

/-- A Pod with another name. -/
def otherPod : Pod := { secondPod with name := str "web-1" }

/-- Another Pod is created, and deleted while the command of the connection runs in the Pod it is
bound to. -/
theorem served_in_bound_pod_iff_first :
    ∃ (trace : List (ℕ × Event interface)) (c : bareTransport.system.Config),
      bareTransport.system.Run (bareTransport.start onlyFirst [execFirst]) trace c ∧
      (1, (⟨.stream firstRequest firstOptions, executedIn firstPod.uid⟩ : Event interface)) ∈ trace ∧
      (0, (⟨.change, .created otherPod⟩ : Event interface)) ∈ trace ∧
      ∀ event ∈ System.eventsOf 1 trace, ∀ uid ∈ ranIn event, uid = firstPod.uid := by
  have h0 := System.Run.start (c := bareTransport.start onlyFirst [execFirst])
  have h1 := h0.perform 0 rfl (Change.created otherPod) rfl
  have h2 := h1.perform 1 rfl (none : Option Message) rfl
  have h3 := (h2.resume 0 rfl).perform 0 rfl (Change.deleted otherPod.ns otherPod.name) rfl
  have h4 := h3.perform 1 rfl (executedIn firstPod.uid) ⟨rfl, by rintro uid ⟨⟩; exact ⟨firstPod, rfl, rfl⟩⟩
  refine ⟨_, _, h4, List.mem_append_right _ (List.mem_singleton_self _), by simp, ?_⟩
  refine (served_in_bound_pod_iff h4 (i := 0) rfl rfl).2 ⟨?_, ?_⟩
  · rintro pod ⟨⟩
    rfl
  · intro i pod hmem _ hname
    rcases List.mem_append.mp hmem with hmem | hmem
    · rcases List.mem_append.mp hmem with hmem | hmem
      · rcases List.mem_append.mp hmem with hmem | hmem
        · cases List.mem_singleton.mp hmem
          exact absurd hname (by decide)
        · cases List.mem_singleton.mp hmem
      · cases List.mem_singleton.mp hmem
    · cases List.mem_singleton.mp hmem

/-- The Pod is deleted and another one gets its name: the command of the connection to the first Pod
runs in the second one, and succeeds. -/
theorem exec_runs_in_other_pod :
    ∃ (trace : List (ℕ × Event interface)) (c : bareTransport.system.Config),
      bareTransport.system.Run (bareTransport.start onlyFirst [execFirst]) trace c ∧
      boundUID execFirst.target = firstPod.uid ∧ onlyFirst firstPod.ns firstPod.name = some firstPod ∧
      (∃ event ∈ System.eventsOf 1 trace, ranIn event = some secondPod.uid) ∧
      secondPod.uid ≠ firstPod.uid ∧
      (1, (⟨.returned (.exited 0 none), ()⟩ : Event interface)) ∈ trace := by
  have h0 := System.Run.start (c := bareTransport.start onlyFirst [execFirst])
  have h1 := h0.perform 0 rfl (Change.deleted firstPod.ns firstPod.name) rfl
  have h2 := (h1.resume 0 rfl).perform 0 rfl (Change.created secondPod) rfl
  have h3 := h2.perform 1 rfl (none : Option Message) rfl
  have h4 := h3.perform 1 rfl (executedIn secondPod.uid) ⟨rfl, by rintro uid ⟨⟩; exact ⟨secondPod, rfl, rfl⟩⟩
  have h5 := h4.perform 1 rfl () rfl
  refine ⟨_, _, h5, rfl, rfl, ⟨⟨.stream firstRequest firstOptions, executedIn secondPod.uid⟩, ?_, rfl⟩, by decide, ?_⟩
  · rw [System.mem_eventsOf]
    exact List.mem_append_left _ (List.mem_append_right _ (List.mem_singleton_self _))
  · exact List.mem_append_right _ (List.mem_singleton_self _)

end KubeSsh.ApiServer

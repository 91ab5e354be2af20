import KubeSsh.Common.GoString

/-!
# `pkg/target`: connection targets and resolvers

A resolver maps an authenticated connection to one target. `chainResolve` tries its resolvers in
order and goes on only after one that did not provide a target.
-/

namespace KubeSsh

/-- `target.Option`. -/
structure TargetOption where
  key : GoString
  value : GoString
deriving DecidableEq

/-- `target.Target`. -/
structure Target where
  kind : GoString
  options : List TargetOption
  runtime : GoMap GoString := ∅

namespace Target

/-- The kinds of `target.go:13-18`. -/
def kindPod : GoString := str "kube"
def kindExternalSSH : GoString := str "ssh"

/-- `Target.Option`: the value of the first option with a key (`target.go:142-149`). -/
def option (tgt : Target) (key : GoString) : GoString :=
  match tgt.options.find? fun option => option.key = key with
  | some option => option.value
  | none => []

/-- `Target.String` (`target.go:153-163`). -/
def string (tgt : Target) : GoString :=
  tgt.options.foldl (fun path option =>
    path ++ Byte.slash :: option.key ++ Byte.slash :: option.value) tgt.kind

/-- `target.Hint`. -/
structure Hint where
  kind : GoString
  options : List TargetOption
  aliases : List GoString

/-- `target.ResolveInput`. -/
structure ResolveInput where
  sshUser : GoString
  userName : GoString := []
  authExtra : GoMap (List GoString) := ∅
  sourceIP : GoString := []
  hints : List Hint := []

/-- How resolution fails: `ErrNotProvided`, a Kubernetes API status, or another error. -/
inductive ResolveError
  | notProvided
  | badRequest (message : Message)
  | forbidden (resource name : GoString) (message : Message)
  | serviceUnavailable (message : Message)
  | other (message : Message)
deriving DecidableEq

/-- `newTargetFromHint` (`target.go:127-140`). -/
def newTargetFromHint (hint : Hint) : Except ResolveError Target :=
  if hint.kind = [] then .error (.badRequest (.text "target hint kind is required"))
  else if hint.options.any fun option => option.key = [] || option.value = [] then
    .error (.badRequest (.text "target hint option requires key and value"))
  else if hint.options = [] then
    .error (.badRequest
      [.bytes (str "target hint "), .quoted hint.kind, .bytes (str " requires options")])
  else .ok { kind := hint.kind, options := hint.options }

/-- `HintResolver.Resolve` (`target.go:110-125`). -/
def hintResolve (input : ResolveInput) : Except ResolveError Target :=
  match input.hints with
  | [] => .error .notProvided
  | hint :: more =>
    let selected := if input.sshUser = [] then none
      else input.hints.find? fun hint => input.sshUser ∈ hint.aliases
    match selected with
    | some hint => newTargetFromHint hint
    | none =>
      if more = [] then newTargetFromHint hint
      else .error (.badRequest [.bytes (str "target alias "), .quoted input.sshUser,
        .bytes (str " did not match any authentication target hint")])

/-- What a resolver of logical targets returns: its options have values, and nothing is bound. -/
structure Logical (tgt : Target) : Prop where
  options : ∀ option ∈ tgt.options, option.value ≠ []
  runtime : tgt.runtime = ∅

theorem logical_of_newTargetFromHint {hint : Hint} {tgt : Target}
    (h : newTargetFromHint hint = .ok tgt) : tgt.Logical := by
  unfold newTargetFromHint at h
  simp only [ite_eq_iff, reduceCtorEq, and_false, false_or] at h
  obtain ⟨-, hvalues, -, hok⟩ := h
  obtain rfl := Except.ok.inj hok
  refine ⟨fun option hoption hempty => hvalues ?_, rfl⟩
  rw [List.any_eq_true]
  exact ⟨option, hoption, by simp [hempty]⟩

theorem logical_of_hintResolve {input : ResolveInput} {tgt : Target}
    (h : hintResolve input = .ok tgt) : tgt.Logical := by
  unfold hintResolve at h
  split at h
  · cases h
  dsimp only at h
  split at h
  · exact logical_of_newTargetFromHint h
  split at h
  · exact logical_of_newTargetFromHint h
  · cases h

/-- `Chain.Resolve` (`target.go:88-105`) over the results of its resolvers, which are asked in
order: the first result other than `ErrNotProvided` counts. -/
def chainResolve {m : Type → Type} [Monad m] :
    List (ResolveInput → m (Except ResolveError Target)) → ResolveInput →
      m (Except ResolveError Target)
  | [], _ => pure (.error .notProvided)
  | resolve :: rest, input => do
    match ← resolve input with
    | .error .notProvided => chainResolve rest input
    | result => pure result

end Target

end KubeSsh

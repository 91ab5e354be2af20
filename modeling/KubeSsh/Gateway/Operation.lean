import KubeSsh.Gateway.Guards
import KubeSsh.SshProtocol
import Mathlib.Data.List.TakeWhile

/-!
# `pkg/gateway`: operations and their authorization

`connectionOperationSpec` maps an operation that a protocol adapter reports to the capability and
the attributes it is authorized with. `authorizeOperation` asks the guarded chain and permits the
operation if the decision is to allow.

go-shlex, which splits exec commands, is the parameter `shlex`; it is assumed to be a function.
-/

namespace KubeSsh.Gateway

open Authn Authz AccessPolicy SshProtocol

/-! ## Operation specs -/

/-- `operationSpec` (`operation.go:30-39`). -/
structure OperationSpec where
  name : GoString
  capability : Capability
  attrs : Attributes
  auditFields : GoMap GoString := ∅

/-- A Go map literal. -/
def mapOf {V : Type} (entries : List (GoString × V)) : GoMap V :=
  entries.foldl (fun m entry => m.insert entry.1 entry.2) ∅

/-- `targetResources` (`protocol.go:209-215`). -/
def targetResources (tgt : Target) : List AttributeResource :=
  { resource := str "targets", name := tgt.kind } ::
    tgt.options.map fun option => { resource := option.key, name := option.value }

/-- `isSCPCommand` (`protocol.go:217-227`). -/
def isSCPCommand : List GoString → Bool
  | [] => false
  | program :: args =>
    pathBase program = str "scp" &&
      args.any fun arg => arg = str "-t" || arg = str "-f" || (str "-t").isPrefixOf arg ||
        (str "-f").isPrefixOf arg

/-- `localForwardOperationSpec` (`protocol.go:104-131`). -/
def localForwardOperationSpec (tgt : Target) (operation : Operation) : OperationSpec :=
  let destinationPort := decimal operation.destinationPort.toNat
  let originPort := decimal operation.originPort.toNat
  { name := str "portforward"
    capability := .localForward
    attrs :=
      { action := Capability.localForward.text
        resources := targetResources tgt ++
          [{ resource := str "hosts", name := operation.destinationHost },
           { resource := str "ports", name := destinationPort }]
        path := tgt.string ++ str "/hosts/" ++ operation.destinationHost ++ str "/ports/"
          ++ destinationPort
        extra := mapOf
          [(str "destination_host", [operation.destinationHost]),
           (str "destination_port", [destinationPort]),
           (str "origin_host", [operation.originHost]), (str "origin_port", [originPort])] }
    auditFields := mapOf
      [(str "destination_host", operation.destinationHost),
       (str "destination_port", destinationPort), (str "origin_host", operation.originHost),
       (str "origin_port", originPort)] }

/-- `connectionRemoteForwardOperationSpec` (`protocol.go:133-152`). -/
def connectionRemoteForwardOperationSpec (tgt : Target) (operation : Operation) : OperationSpec :=
  let port := decimal operation.bindPort.toNat
  { name := str "remote_forward"
    capability := .remoteForward
    attrs :=
      { action := Capability.remoteForward.text
        resources := targetResources tgt ++
          [{ resource := str "bind_hosts", name := operation.bindHost },
           { resource := str "bind_ports", name := port }]
        path := tgt.string ++ str "/remote-forwards/" ++ operation.bindHost ++ str "/" ++ port
        extra := mapOf [(str "bind_host", [operation.bindHost]), (str "bind_port", [port])] }
    auditFields := mapOf [(str "bind_host", operation.bindHost), (str "bind_port", port)] }

/-- `connectionAgentForwardOperationSpec` (`protocol.go:154-164`). -/
def connectionAgentForwardOperationSpec (tgt : Target) : OperationSpec where
  name := str "agent_forward"
  capability := .agentForward
  attrs :=
    { action := Capability.agentForward.text
      resources := targetResources tgt
      path := tgt.string ++ str "/agent-forward" }

/-- The capability of a session request (`protocol.go:170-178`). -/
def sessionCapability (requestType : GoString) (argv : List GoString) : Capability :=
  if requestType = requestShell then .shell
  else if requestType = requestExec ∧ isSCPCommand argv then .scp
  else .exec

/-- `connectionSessionOperationSpec` (`protocol.go:166-195`). -/
def connectionSessionOperationSpec (tgt : Target) (requestType : GoString) (argv : List GoString)
    (command : GoString) : OperationSpec :=
  let capability := sessionCapability requestType argv
  { name := if capability = .scp then str "scp" else str "session"
    capability := capability
    attrs :=
      { action := capability.text
        resources := targetResources tgt
        path := tgt.string
        extra := if command ≠ [] then mapOf [(str "command", [command])] else ∅ }
    auditFields := mapOf [(str "command", command)] }

/-- `connectionSFTPOperationSpec` (`protocol.go:197-207`). -/
def connectionSFTPOperationSpec (tgt : Target) : OperationSpec where
  name := str "sftp"
  capability := .sftp
  attrs := { action := Capability.sftp.text, resources := targetResources tgt, path := tgt.string }

/-- `connectionExtensionOperationSpec` (`protocol.go:229-260`): only fields that are set are
reported. -/
def connectionExtensionOperationSpec (tgt : Target) (operation : Operation) : OperationSpec :=
  let fields := [(str "channel_type", operation.channelType),
    (str "request_type", operation.requestType), (str "subsystem", operation.subsystem)].filter
      fun entry => entry.2 ≠ []
  { name := str "ssh_extension"
    capability := .sshExtension
    attrs :=
      { action := Capability.sshExtension.text
        resources := targetResources tgt
        path := tgt.string
          ++ (if operation.channelType ≠ [] then str "/channels/" ++ operation.channelType else [])
          ++ (if operation.requestType ≠ [] then str "/requests/" ++ operation.requestType else [])
        extra := mapOf (fields.map fun entry => (entry.1, [entry.2])) }
    auditFields := mapOf fields }

/-- `connectionOperationSpec` (`protocol.go:86-102`). -/
def connectionOperationSpec (shlex : GoString → List GoString) (tgt : Target)
    (operation : Operation) : OperationSpec :=
  if operation.channelType = channelDirectTCPIP then localForwardOperationSpec tgt operation
  else if operation.requestType = requestTCPIPForward then
    connectionRemoteForwardOperationSpec tgt operation
  else if operation.requestType = requestAgentForward then connectionAgentForwardOperationSpec tgt
  else if operation.channelType = channelSession ∧
      (operation.requestType = requestShell ∨ operation.requestType = requestExec) then
    connectionSessionOperationSpec tgt operation.requestType (shlex operation.command)
      operation.command
  else if operation.channelType = channelSession ∧ operation.requestType = requestSubsystem ∧
      operation.subsystem = subsystemSFTP then
    connectionSFTPOperationSpec tgt
  else connectionExtensionOperationSpec tgt operation

theorem capability_session (shlex : GoString → List GoString) (tgt : Target) {requestType : GoString}
    (h : requestType = requestShell ∨ requestType = requestExec) (command : GoString) :
    (connectionOperationSpec shlex tgt
      { channelType := channelSession, requestType := requestType, command := command }).capability
      = sessionCapability requestType (shlex command) := by
  rcases h with rfl | rfl <;> rfl

theorem sessionCapability_exec_eq_scp_iff {argv : List GoString} :
    sessionCapability requestExec argv = .scp ↔ isSCPCommand argv = true := by
  rw [sessionCapability, if_neg (by decide)]
  split <;> simp_all

/-! ## Authorizing an operation -/

/-- `operationContext` (`operation.go:17-27`), with the type and the fields of its audit event. -/
structure OperationContext where
  info : AuthenticateInfo
  target : Target
  auditType : GoString := []
  auditFields : GoMap Message := ∅

/-- `newOperationContext` (`operation.go:43-62`) for the published authentication result. -/
def newOperationContext (info : AuthenticateInfo) (tgt : Target) : OperationContext where
  info := info
  target := tgt
  auditFields := mapOf ((str "user", .ofString info.user.name) :: (str "kind", .ofString tgt.kind) ::
    tgt.options.map fun option => (option.key, .ofString option.value))

/-- The request `authorizeOperation` sends to the chain. -/
def OperationContext.request (sc : OperationContext) (spec : OperationSpec) : Authz.Request where
  user := sc.info.user
  authMethod := sc.info.method
  authExtra := sc.info.extra
  attributes := spec.attrs

/-- `authorizeOperation` (`operation.go:64-89`): the context with its audit event updated, the
reason of a denial, and whether the operation is permitted. -/
def authorizeOperation (authz : Authorizer) (sc : OperationContext) (spec : OperationSpec) :
    OperationContext × Message × Bool :=
  let fields := spec.auditFields.entries.foldl (fun m entry => m.insert entry.1 (.ofString entry.2))
    (sc.auditFields.insert (str "capability") (.ofString spec.capability.text))
  let answer := authz (sc.request spec)
  let reason := answer.err.getD answer.reason
  let fields := (fields.insert (str "decision") (.ofString answer.decision.text)).insert
    (str "reason") reason
  if answer.decision = .allow then ({ sc with auditFields := fields }, [], true)
  else
    let reason := if reason.isEmpty then .text "access denied" else reason
    ({ sc with auditType := spec.name ++ str "_denied"
               auditFields := fields.insert (str "reason") reason }, reason, false)

/-- The operation is permitted. -/
def permits (authz : Authorizer) (sc : OperationContext) (spec : OperationSpec) : Bool :=
  (authorizeOperation authz sc spec).2.2

theorem permits_iff {authz : Authorizer} {sc : OperationContext} {spec : OperationSpec} :
    permits authz sc spec = true ↔ (authz (sc.request spec)).decision = .allow := by
  unfold permits authorizeOperation
  dsimp only
  split
  · rename_i h
    exact ⟨fun _ => h, fun _ => rfl⟩
  · rename_i h
    exact ⟨fun hf => (by cases hf), fun hd => absurd hd h⟩

/-! ## Failing closed -/

/-- The answer is something other than `NoOpinion` without an error. -/
def Opinion (answer : Authz.Answer) : Prop := ¬ (answer.decision = .noOpinion ∧ answer.err = none)

instance : DecidablePred Opinion := fun _ => inferInstanceAs (Decidable (¬ (_ ∧ _)))

/-- Failing closed, as a property of the answers in the order in which they are given: the first one
with an opinion allows, and without an error. -/
def FirstOpinionAllows (answers : List Authz.Answer) : Prop :=
  ∃ answer, answers.find? (fun answer => Opinion answer) = some answer ∧
    answer.decision = .allow ∧ answer.err = none

/-- If the answer that ends the chain allows, it does so without an error, and nobody asked before
it gave a decision that is not documented. -/
def EndsRegularly (answers : List Authz.Answer) : Prop :=
  ∀ answer, answers.find? (fun answer => answer.Final) = some answer → answer.decision = .allow →
    answer.err = none ∧
      ∀ earlier ∈ answers.takeWhile (fun answer => ¬ answer.Final), earlier.decision = .noOpinion

/-- The loop of the chain and failing closed agree on a list of answers exactly when the list ends
regularly. -/
theorem first_final_allows_iff (answers : List Authz.Answer) :
    ((∃ answer, answers.find? (fun answer => answer.Final) = some answer ∧ answer.decision = .allow) ↔
      FirstOpinionAllows answers) ↔ EndsRegularly answers := by
  induction answers with
  | nil => simp [FirstOpinionAllows, EndsRegularly]
  | cons answer rest ih =>
    by_cases hfinal : answer.Final
    · -- a final answer is an opinion, so it is the first one on both sides
      have hopinion : Opinion answer := by
        rintro ⟨hd, he⟩
        rcases hfinal with h | h | h
        · simp [he] at h
        · simp [hd] at h
        · simp [hd] at h
      simp only [FirstOpinionAllows, EndsRegularly, List.find?_cons_of_pos, hfinal, hopinion,
        decide_true, Option.some.injEq, exists_eq_left', List.takeWhile_cons, not_true_eq_false,
        decide_false, Bool.false_eq_true, if_false, forall_eq']
      simp
    · have herr : answer.err = none := by
        simpa using fun h => hfinal (Or.inl h)
      by_cases hno : answer.decision = .noOpinion
      · -- both sides pass over the answer
        have hopinion : ¬ Opinion answer := fun h => h ⟨hno, herr⟩
        simpa [FirstOpinionAllows, EndsRegularly, List.find?_cons, hfinal, hopinion, hno]
          using ih
      · -- the chain passes over an undocumented decision, failing closed does not
        have hopinion : Opinion answer := fun h => hno h.1
        have hnotAllow : answer.decision ≠ .allow := fun h => hfinal (Or.inr (Or.inl h))
        simp [FirstOpinionAllows, EndsRegularly, hfinal, hopinion, hno, hnotAllow]

/-- The answers of the members of a guarded chain, guards included, in the order in which they are
asked. -/
def guardedAnswers (opts : Options) (members : List Authorizer) (req : Authz.Request) : List Authz.Answer :=
  ((limitsGuard opts (opts.policy.limits.capabilities.map .ofString)).authorize ::
    (gatewayDefaults opts).authorize :: members).map fun authorizer => authorizer req

theorem guarded_authorize_eq {opts : Options} {members : List Authorizer}
    {guarded : PolicyGuardedAuthorizer}
    (h : withPolicyGuards opts (chainAuthorize members) = .ok guarded) (req : Authz.Request) :
    guarded.authorize req = ((guardedAnswers opts members req).find? fun answer => answer.Final).getD
      { decision := .noOpinion } := by
  rw [PolicyGuardedAuthorizer.authorize, withPolicyGuards_eq_ok h, guardedAnswers,
    ← chainAuthorize_eq_find]
  exact chainAuthorize_append_chain [_, _] members req

/-- An operation is permitted when the answer that ends the guarded chain allows. -/
theorem authorizeOperation_guarded_iff {opts : Options} {members : List Authorizer}
    {guarded : PolicyGuardedAuthorizer}
    (hguarded : withPolicyGuards opts (chainAuthorize members) = .ok guarded)
    (sc : OperationContext) (spec : OperationSpec) :
    (authorizeOperation guarded.authorize sc spec).2.2 = true ↔
      ∃ answer, (guardedAnswers opts members (sc.request spec)).find? (fun answer => answer.Final)
        = some answer ∧ answer.decision = .allow := by
  rw [← permits, permits_iff, guarded_authorize_eq hguarded]
  cases hfind : (guardedAnswers opts members (sc.request spec)).find? fun a => a.Final with
  | none => simp
  | some answer => simp

/-- An operation is permitted exactly when the first member of the guarded chain with an opinion
allows it without an error, if and only if the answers of the chain end regularly. -/
theorem authorizeOperation_fails_closed_iff (opts : Options) (members : List Authorizer)
    (guarded : PolicyGuardedAuthorizer) (sc : OperationContext) (spec : OperationSpec)
    (hguarded : withPolicyGuards opts (chainAuthorize members) = .ok guarded) :
    ((authorizeOperation guarded.authorize sc spec).2.2 = true ↔
      FirstOpinionAllows (guardedAnswers opts members (sc.request spec))) ↔
    EndsRegularly (guardedAnswers opts members (sc.request spec)) := by
  rw [authorizeOperation_guarded_iff hguarded]
  exact first_final_allows_iff _

/-- Chains of regular authorizers always end regularly. -/
theorem endsRegularly_of_regular {opts : Options} {members : List Authorizer}
    (h : ∀ authorizer ∈ members, Regular authorizer) (req : Authz.Request) :
    EndsRegularly (guardedAnswers opts members req) := by
  have hall : ∀ answer ∈ guardedAnswers opts members req, answer.Regular := by
    intro answer hanswer
    obtain ⟨authorizer, hmem, rfl⟩ := List.mem_map.mp hanswer
    rcases List.mem_cons.mp hmem with rfl | hmem
    · exact PolicyLimits.authorize_regular _ req
    rcases List.mem_cons.mp hmem with rfl | hmem
    · exact PolicyLimits.authorize_regular _ req
    · exact h authorizer hmem req
  intro answer hfind hallow
  refine ⟨?_, fun earlier hearlier => ?_⟩
  · by_contra herr
    exact (hall answer (List.mem_of_find?_eq_some hfind)).cautious
      (Option.isSome_iff_ne_none.mpr herr) hallow
  · have hregular := hall earlier ((List.takeWhile_sublist _).subset hearlier)
    have hnotFinal : ¬ earlier.Final := by simpa using List.mem_takeWhile_imp hearlier
    rw [Authz.Answer.Final, not_or, not_or] at hnotFinal
    cases hd : earlier.decision with
    | noOpinion => rfl
    | deny => exact absurd hd hnotFinal.2.2
    | allow => exact absurd hd hnotFinal.2.1
    | other text => exact absurd hd (hregular.documented text)

/-- The chain that a gateway builds from the Access, webhook, SAR and allow-all authorizers fails
closed. -/
theorem buildAuthorizer_fails_closed {opts : Options} {backends : Backends}
    {guarded : PolicyGuardedAuthorizer}
    (haccess : ∀ authorizer ∈ backends.access, Regular authorizer)
    (h : buildAuthorizer opts backends = .ok guarded) :
    ∃ members, configuredChain opts backends = .ok members ∧ ∀ sc spec,
      ((authorizeOperation guarded.authorize sc spec).2.2 = true ↔
        FirstOpinionAllows (guardedAnswers opts members (sc.request spec))) := by
  unfold buildAuthorizer at h
  cases hchain : configuredChain opts backends with
  | error err =>
    rw [hchain] at h
    cases h
  | ok members =>
    rw [hchain] at h
    refine ⟨members, rfl, fun sc spec => ?_⟩
    rw [authorizeOperation_guarded_iff h, first_final_allows_iff]
    exact endsRegularly_of_regular (configuredChain_regular haccess hchain) _

/-- The built-in options with an Access authorizer. -/
theorem buildAuthorizer_fails_closed_access :
    let backends : Backends := { access := some (authorize none {}), kubeClient := none, webhook := .error [] }
    ∃ guarded, buildAuthorizer newDefaultOptions backends = .ok guarded ∧
      ∃ members, configuredChain newDefaultOptions backends = .ok members ∧ ∀ sc spec,
        ((authorizeOperation guarded.authorize sc spec).2.2 = true ↔
          FirstOpinionAllows (guardedAnswers newDefaultOptions members (sc.request spec))) := by
  refine ⟨_, rfl, buildAuthorizer_fails_closed (fun authorizer hmem => ?_) rfl⟩
  obtain rfl := Option.some.inj hmem
  exact authorize_regular none {}

/-- With the built-in options and the allow-all authorizer, an operation is permitted exactly when
the chain fails closed. -/
theorem authorizeOperation_fails_closed_allowAll :
    ∃ guarded, withPolicyGuards newDefaultOptions (chainAuthorize [allowAll]) = .ok guarded ∧
      let sc := newOperationContext {} { kind := Target.kindPod, options := [] }
      let spec := connectionSFTPOperationSpec { kind := Target.kindPod, options := [] }
      ((authorizeOperation guarded.authorize sc spec).2.2 = true ↔
        FirstOpinionAllows (guardedAnswers newDefaultOptions [allowAll] (sc.request spec))) := by
  refine ⟨_, rfl, (authorizeOperation_fails_closed_iff newDefaultOptions [allowAll] _ _ _ rfl).mpr ?_⟩
  refine endsRegularly_of_regular (fun authorizer hmem => ?_) _
  rw [List.mem_singleton.mp hmem]
  exact allowAll_regular

/-- An authorizer that reports an error along with `Allow` has the operation permitted. -/
theorem authorizeOperation_permits_failed_authorizer :
    let failing : Authorizer := fun _ =>
      { decision := .allow, err := some (.text "policy backend unavailable") }
    let sc := newOperationContext {} { kind := Target.kindPod, options := [] }
    let spec := connectionSFTPOperationSpec { kind := Target.kindPod, options := [] }
    ∃ guarded, withPolicyGuards newDefaultOptions (chainAuthorize [failing]) = .ok guarded ∧
      (authorizeOperation guarded.authorize sc spec).2.2 = true ∧
      (guardedAnswers newDefaultOptions [failing] (sc.request spec)).find?
        (fun answer => Opinion answer) = some (failing (sc.request spec)) ∧
      (failing (sc.request spec)).err ≠ none :=
  ⟨_, rfl, by decide, by decide, by decide⟩

end KubeSsh.Gateway

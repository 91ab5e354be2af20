import KubeSsh.Gateway.Operation
import KubeSsh.PodSsh.Protocol

/-!
# `pkg/podssh`: every backend call is authorized

`mediation` watches one goroutine: a `begin` that returned no error must be followed by the backend
call that it authorizes, and the backend may not be called otherwise. All programs of a Pod
connection obey it, so the events of every goroutine of every run are `Mediated`.
-/

namespace KubeSsh.PodSsh

open SshProtocol CryptoSsh
open Authz (Capability)

/-! ## What authorizes a backend call -/

/-- The capability that the gateway authorizes an operation of the connection with. -/
def Protocol.capability (p : Protocol) (operation : Operation) : Capability :=
  (Gateway.connectionOperationSpec p.shlex p.target operation).capability

/-- The operation has the capability that the call needs, and the values that the call uses. -/
def Protocol.Authorizes (p : Protocol) (operation : Operation) : BackendCall → Prop
  | .exec req => req.target = p.target ∧
      ((operation.requestType = requestShell ∧ p.capability operation = .shell ∧
          ∃ env, req.command = buildCommand false operation.command env p.defaultShell) ∨
        (operation.requestType = requestExec ∧ p.capability operation = .exec ∧
          ∃ env, req.command = buildCommand true operation.command env p.defaultShell))
  | .scp req => req.target = p.target ∧ operation.requestType = requestExec ∧
      p.capability operation = .scp ∧ req.args = (p.shlex operation.command).tail
  | .sftp req => req.target = p.target ∧ operation.requestType = requestSubsystem ∧
      p.capability operation = .sftp
  | .portForward req => req.target = p.target ∧ p.capability operation = .localForward ∧
      operation.destinationHost = req.host ∧ operation.destinationPort = req.port
  | .remoteForward req => req.target = p.target ∧ p.capability operation = .remoteForward ∧
      operation.bindHost = req.bindHost ∧ operation.bindPort = req.bindPort
  | .agentForward target => target = p.target ∧ p.capability operation = .agentForward

/-- Both packages detect SCP commands in the same way. -/
theorem isSCPCommand_eq : isSCPCommand = Gateway.isSCPCommand := by
  funext argv
  cases argv <;> rfl

section Authorizes

variable (p : Protocol) (sess : ServerSession)

theorem capability_sessionOperation {requestType : GoString}
    (h : requestType = requestShell ∨ requestType = requestExec) (command : GoString) :
    p.capability (sessionOperation requestType command)
      = Gateway.sessionCapability requestType (p.shlex command) :=
  Gateway.capability_session p.shlex p.target h command

theorem authorizes_scp (h : isSCPCommand (p.command sess) = true) :
    p.Authorizes (sessionOperation requestExec sess.rawCmd)
      (.scp { target := p.target, session := sess.channel, args := (p.command sess).tail }) := by
  refine ⟨rfl, rfl, ?_, rfl⟩
  rw [isSCPCommand_eq] at h
  rw [capability_sessionOperation p (Or.inr rfl)]
  exact Gateway.sessionCapability_exec_eq_scp_iff.mpr h

/-- A session that `handleSession` does not hand to the SCP helper is authorized for what it
runs. -/
theorem authorizes_exec (htype : sess.requestType = requestShell ∨ sess.requestType = requestExec)
    (h : ¬ (sess.requestType = requestExec ∧ isSCPCommand (p.command sess) = true)) :
    p.Authorizes (p.resolveSession sess).1 (.exec (p.resolveSession sess).2) := by
  rw [isSCPCommand_eq] at h
  have hcapability := capability_sessionOperation p htype sess.rawCmd
  refine ⟨rfl, ?_⟩
  rcases htype with htype | htype
  · refine Or.inl ⟨htype, ?_, p.sessionEnv sess, ?_⟩
    · refine hcapability.trans ?_
      rw [Gateway.sessionCapability, if_pos htype]
    · have hexec : decide (sess.requestType = requestExec) = false := by rw [htype]; decide
      simp only [Protocol.resolveSession, hexec]
      rfl
  · refine Or.inr ⟨htype, ?_, p.sessionEnv sess, ?_⟩
    · refine hcapability.trans ?_
      rw [Gateway.sessionCapability, if_neg (by rw [htype]; decide)]
      exact if_neg h
    · have hexec : decide (sess.requestType = requestExec) = true := by rw [htype]; decide
      simp only [Protocol.resolveSession, hexec]
      rfl

end Authorizes

/-! ## The monitor -/

/-- Where a goroutine stands: `granted operation` if the last thing it did was a `begin` of the
operation that returned no error. -/
inductive Phase
  | idle
  | granted (operation : Operation)

/-- A session is handed to `handleSession` by a shell or an exec request only. -/
def Task.Valid : Task → Prop
  | .operation .handleSession sess =>
    sess.requestType = requestShell ∨ sess.requestType = requestExec
  | _ => True

/-- What the monitor does not look at: neither a `begin` nor a backend call nor an invalid task. -/
def Op.Quiet : Op → Prop
  | .begin _ => False
  | .backend _ => False
  | .go task => task.Valid
  | _ => True

/-- Neither one of the loops of the connection nor the accept loop of a remote forward. -/
def Task.Apart : Task → Prop
  | .serveGlobalRequests | .serveChannels | .serveRemoteForward _ _ _ _ _ => False
  | _ => True

/-- What has nothing to do with global requests and remote forwards. -/
def Op.Apart : Op → Prop
  | .nextGlobalRequest | .backend (.remoteForward _) => False
  | .acceptRemote _ | .cancelRemote _ | .closeRemote _ => False
  | .addRemoteForward _ _ | .removeRemoteForward _ | .closeForwards => False
  | .go task => task.Apart
  | _ => True

/-- What most programs do besides. -/
def Op.Plain (op : Op) : Prop := op.Quiet ∧ op.Apart

/-- A granted operation is followed by a backend call that it authorizes, and nothing else is. -/
def mediation (p : Protocol) : Monitor interface Phase where
  Allowed phase op := match phase, op with
    | .idle, .begin _ => True
    | .idle, op => op.Quiet
    | .granted operation, .backend call => p.Authorizes operation call
    | .granted _, _ => False
  next _ op answer := match op, answer with
    | .begin operation, (started : BeginResult) =>
      if started.err.isNone then .granted operation else .idle
    | _, _ => .idle

section Rules

variable {p : Protocol} {α : Type}

theorem obeys_begin {operation : Operation} {post : BeginResult → Phase → Prop}
    (hdenied : ∀ started err, started.err = some err → post started .idle)
    (hgranted : ∀ started, started.err = none → post started (.granted operation)) :
    (begin operation).Obeys (mediation p) .idle post := by
  refine Prog.obeys_perform.mpr ⟨trivial, fun (started : BeginResult) => ?_⟩
  change post started (if started.err.isNone then .granted operation else .idle)
  cases herr : started.err with
  | none => exact hgranted started herr
  | some err => exact hdenied started err herr

theorem obeys_backend {operation : Operation} {call : BackendCall} {post : call.Answer → Phase →
    Prop} (hauthorizes : p.Authorizes operation call) (hpost : ∀ answer, post answer .idle) :
    (backend call).Obeys (mediation p) (.granted operation) post :=
  Prog.obeys_perform.mpr ⟨hauthorizes, hpost⟩

/-- A program that the monitor does not look at obeys it. -/
theorem obeys_quiet {prog : Handling α} {post : α → Phase → Prop} (h : prog.Only Op.Quiet)
    (hpost : ∀ a, post a .idle) : prog.Obeys (mediation p) .idle post := by
  have hquiet : ∀ op : Op, op.Quiet → (mediation p).Allowed .idle op ∧
      ∀ answer, (mediation p).next .idle op answer = .idle := by
    intro op hop
    cases op <;> first | exact ⟨hop, fun _ => rfl⟩ | exact hop.elim
  refine (h.obeys hquiet).mono ?_
  rintro a _ rfl
  exact hpost a

/-- The goroutine is idle again. -/
def Idle (_ : α) (phase : Phase) : Prop := phase = .idle

variable {β : Type} {f : α → Handling β} {post : β → Phase → Prop}

theorem obeys_idle_bind {prog : Handling α} (h : prog.Obeys (mediation p) .idle Idle)
    (hrest : ∀ a, (f a).Obeys (mediation p) .idle post) :
    (prog >>= f).Obeys (mediation p) .idle post := by
  refine Prog.obeys_bind.mpr (h.mono ?_)
  rintro a _ rfl
  exact hrest a

theorem obeys_quiet_bind {prog : Handling α} (h : prog.Only Op.Quiet)
    (hrest : ∀ a, (f a).Obeys (mediation p) .idle post) :
    (prog >>= f).Obeys (mediation p) .idle post :=
  obeys_idle_bind (obeys_quiet h fun _ => rfl) hrest

end Rules

/-- Only shell and exec requests start a session with `handleSession`. -/
theorem Protocol.startRequest_handleSession (p : Protocol) {request : Request} {command : GoString}
    (htype : request.type = requestShell ∨ request.type = requestExec ∨
      request.type = requestSubsystem)
    (h : p.startRequest request = some (.handleSession, command)) :
    request.type = requestShell ∨ request.type = requestExec := by
  rcases htype with htype | htype | htype
  · exact Or.inl htype
  · exact Or.inr htype
  · unfold Protocol.startRequest at h
    rw [if_neg (by rw [htype]; decide), if_pos (Or.inr htype)] at h
    split at h
    · cases h
    · rw [if_pos htype] at h
      split at h <;> cases h

/-! ## Programs that neither begin an operation nor call the backend -/

section Quiet

open Prog

variable (p : Protocol)

theorem quiet_perform {op : Op} (h : op.Quiet) : (perform op).Only Op.Quiet := only_perform.mpr h

theorem quiet_of_plain {α : Type} {prog : Handling α} (h : prog.Only Op.Plain) :
    prog.Only Op.Quiet :=
  h.mono fun _ => And.left

theorem plain_perform {op : Op} (hquiet : op.Quiet) (hapart : op.Apart) :
    (perform op).Only Op.Plain :=
  only_perform.mpr ⟨hquiet, hapart⟩

theorem finish_plain (finishOp : Option FinishId) (result : OperationResult) :
    (finish finishOp result).Only Op.Plain := by
  cases finishOp with
  | none => exact .bind (plain_perform trivial trivial) fun answer => nomatch answer
  | some id => exact plain_perform trivial trivial

theorem finishIfAny_plain (finishOp : Option FinishId) (result : OperationResult) :
    (finishIfAny finishOp result).Only Op.Plain := by
  cases finishOp with
  | none => exact only_pure _
  | some id => exact plain_perform trivial trivial

theorem exit_plain (sess : ServerSession) (code : ℤ) : (p.exit sess code).Only Op.Plain :=
  .bind (plain_perform trivial trivial) fun _ => .bind (plain_perform trivial trivial) fun _ =>
    plain_perform trivial trivial

/-- A reply and the session it leaves. -/
theorem reply_plain (session : ℕ) (ok : Bool) (sess : ServerSession) :
    (do let _ ← reply session ok; return sess : Handling ServerSession).Only Op.Plain :=
  .bind (plain_perform trivial trivial) fun _ => only_pure _

theorem handleStartRequest_plain (sess : ServerSession) {request : Request}
    (htype : request.type = requestShell ∨ request.type = requestExec ∨
      request.type = requestSubsystem) :
    (p.handleStartRequest sess request).Only Op.Plain := by
  unfold Protocol.handleStartRequest
  split
  · exact reply_plain _ _ _
  split
  · exact reply_plain _ _ _
  rename_i handler command hstart
  refine .bind (plain_perform trivial trivial) fun replied => ?_
  -- the session that is started has the type of the request
  cases replied with
  | some err => exact .bind (plain_perform trivial trivial) fun _ => only_pure _
  | none =>
    refine .bind (plain_perform ?_ trivial) fun _ => only_pure _
    cases handler with
    | handleSFTP => exact trivial
    | handleSession => exact p.startRequest_handleSession htype hstart

theorem handleEnvRequest_plain (sess : ServerSession) (request : Request) :
    (p.handleEnvRequest sess request).Only Op.Plain := by
  unfold Protocol.handleEnvRequest
  split <;> exact reply_plain _ _ _

theorem handlePTYRequest_plain (sess : ServerSession) (request : Request) :
    (p.handlePTYRequest sess request).Only Op.Plain := by
  unfold Protocol.handlePTYRequest
  split <;> exact reply_plain _ _ _

theorem handleWindowChangeRequest_plain (sess : ServerSession) (request : Request) :
    (p.handleWindowChangeRequest sess request).Only Op.Plain := by
  unfold Protocol.handleWindowChangeRequest
  split
  · exact .bind (plain_perform trivial trivial) fun _ => only_pure _
  · exact .bind (plain_perform trivial trivial) fun _ => .bind (plain_perform trivial trivial) fun _ =>
      .bind (plain_perform trivial trivial) fun _ => only_pure _

theorem endRequests_plain (sess : ServerSession) : (endRequests sess).Only Op.Plain := by
  have hagent (forward : AgentForward) : (closeAgentForward forward).Only Op.Plain := by
    unfold closeAgentForward
    exact .bind (plain_perform trivial trivial) fun _ => .bind (plain_perform trivial trivial) fun _ =>
      plain_perform trivial trivial
  unfold endRequests
  exact .bind (plain_perform trivial trivial) fun _ => .bind (plain_perform trivial trivial) fun _ =>
    .bind (plain_perform trivial trivial) fun _ =>
      .bind (.optionForM fun _ _ => plain_perform trivial trivial) fun _ =>
        .bind (.optionForM fun forward _ => hagent forward) fun _ => plain_perform trivial trivial

/-- The goroutine of a forwarded connection. -/
theorem proxyConnection_plain (channelType payload : GoString) (stream : ℕ) :
    (do match ← openChannel channelType payload with
      | .error _ => perform (.closeStream stream)
      | .ok channel => let _ ← proxy channel stream : Handling Unit).Only Op.Plain := by
  refine .bind (plain_perform trivial trivial) fun opened => ?_
  cases opened with
  | error err => exact plain_perform trivial trivial
  | ok channel => exact .bind (plain_perform trivial trivial) fun _ => only_pure _

theorem handleCancelTCPIPForward_quiet (request : Request) :
    (p.handleCancelTCPIPForward request).Only Op.Quiet := by
  unfold Protocol.handleCancelTCPIPForward
  split
  · exact only_pure _
  exact .bind (quiet_perform trivial) fun removed => .bind (.optionForM fun forward _ =>
    .bind (quiet_perform trivial) fun err => .optionForM fun _ _ => quiet_perform trivial) fun _ =>
      only_pure _

end Quiet

/-! ## Programs that do -/

section Mediated

open Prog

variable (p : Protocol)

theorem runSessionOperation_obeys {operation : Operation} (sess : ServerSession) (tty : Bool)
    {execute : Handling (ℤ × Option Message)}
    (hexecute : execute.Obeys (mediation p) (.granted operation) Idle) :
    (runSessionOperation sess operation tty execute).Obeys (mediation p) .idle Idle := by
  refine obeys_bind.mpr (obeys_begin (fun started err herr => ?_) fun started herr => ?_)
  · rw [herr]
    exact obeys_quiet (.bind (quiet_of_plain (finishIfAny_plain _ _)) fun _ =>
      .bind (quiet_perform trivial) fun _ => only_pure _) fun _ => rfl
  · rw [herr]
    refine obeys_bind.mpr (hexecute.mono ?_)
    rintro ⟨exitCode, execErr⟩ _ rfl
    exact obeys_quiet (.bind (.optionForM fun _ _ => quiet_perform trivial) fun _ =>
      .bind (quiet_of_plain (finish_plain _ _)) fun _ => only_pure _) fun _ => rfl

theorem handleSession_obeys {sess : ServerSession}
    (htype : sess.requestType = requestShell ∨ sess.requestType = requestExec) :
    (p.handleSession sess).Obeys (mediation p) .idle Idle := by
  unfold Protocol.handleSession
  split
  · rename_i hscp
    exact runSessionOperation_obeys p sess false
      (obeys_backend (authorizes_scp p sess hscp.2) fun _ => rfl)
  · rename_i hscp
    exact runSessionOperation_obeys p sess _
      (obeys_backend (authorizes_exec p sess htype hscp) fun _ => rfl)

theorem handleSFTP_obeys (sess : ServerSession) :
    (p.handleSFTP sess).Obeys (mediation p) .idle Idle :=
  runSessionOperation_obeys p sess false (obeys_backend ⟨rfl, rfl, rfl⟩ fun _ => rfl)

theorem operation_obeys {handler : Handler} {sess : ServerSession}
    (hvalid : (Task.operation handler sess).Valid) :
    (p.operation handler sess).Obeys (mediation p) .idle Idle := by
  have hexit : ∀ code, (p.exit sess code).Obeys (mediation p) .idle Idle := fun code =>
    obeys_quiet (quiet_of_plain (exit_plain p sess code)) fun _ => rfl
  cases handler with
  | handleSession => exact obeys_idle_bind (handleSession_obeys p hvalid) hexit
  | handleSFTP => exact obeys_idle_bind (handleSFTP_obeys p sess) hexit

theorem acceptAgentForward_obeys : p.acceptAgentForward.Obeys (mediation p) .idle Idle := by
  refine obeys_bind.mpr (obeys_begin (fun started err herr => ?_) fun started herr => ?_)
  · rw [herr]
    exact obeys_quiet (.bind (quiet_of_plain (finishIfAny_plain _ _)) fun _ => only_pure _) fun _ => rfl
  · rw [herr]
    refine obeys_bind.mpr (obeys_backend ⟨rfl, rfl⟩ fun forwarded => ?_)
    rcases forwarded with err | forward
    · exact obeys_quiet (.bind (quiet_of_plain (finish_plain _ _)) fun _ => only_pure _) fun _ => rfl
    · exact obeys_quiet (.bind (quiet_perform trivial) fun _ => only_pure _) fun _ => rfl

theorem handleAgentForwardRequest_obeys (sess : ServerSession) (request : Request) :
    (p.handleAgentForwardRequest sess request).Obeys (mediation p) .idle Idle := by
  unfold Protocol.handleAgentForwardRequest
  split
  · exact obeys_quiet (quiet_of_plain (reply_plain _ _ _)) fun _ => rfl
  · refine obeys_idle_bind (acceptAgentForward_obeys p) ?_
    rintro (_ | forward) <;> exact obeys_quiet (quiet_of_plain (reply_plain _ _ _)) fun _ => rfl

theorem handleRequest_obeys (sess : ServerSession) (request : Request) :
    (p.handleRequest sess request).Obeys (mediation p) .idle Idle := by
  unfold Protocol.handleRequest
  split_ifs with hstart
  · exact obeys_quiet (quiet_of_plain (handleStartRequest_plain p sess hstart)) fun _ => rfl
  · exact obeys_quiet (quiet_of_plain (handleEnvRequest_plain p sess request)) fun _ => rfl
  · exact obeys_quiet (quiet_of_plain (handlePTYRequest_plain p sess request)) fun _ => rfl
  · exact obeys_quiet (.bind (quiet_of_plain (handleWindowChangeRequest_plain p sess request))
      fun _ => only_pure _) fun _ => rfl
  · exact handleAgentForwardRequest_obeys p sess request
  · exact obeys_quiet (quiet_of_plain (reply_plain _ _ _)) fun _ => rfl

theorem handleDirectTCPIP_obeys (channel : NewChannel) :
    (p.handleDirectTCPIP channel).Obeys (mediation p) .idle Idle := by
  unfold Protocol.handleDirectTCPIP
  split
  · exact obeys_quiet (quiet_perform trivial) fun _ => rfl
  refine obeys_bind.mpr (obeys_begin (fun started err herr => ?_) fun started herr => ?_)
  · rw [herr]
    exact obeys_quiet
      (.bind (quiet_of_plain (finishIfAny_plain _ _)) fun _ => quiet_perform trivial) fun _ => rfl
  · rw [herr]
    refine obeys_bind.mpr (obeys_backend ⟨rfl, rfl, rfl, rfl⟩ fun forwarded => ?_)
    refine obeys_quiet ?_ fun _ => rfl
    rcases forwarded with err | remote
    · exact .bind (quiet_of_plain (finish_plain _ _)) fun _ => quiet_perform trivial
    · refine .bind (quiet_perform trivial) fun accepted => ?_
      cases accepted with
      | error err => exact .bind (quiet_perform trivial) fun _ => quiet_of_plain (finish_plain _ _)
      | ok _ => exact .bind (quiet_perform trivial) fun _ => quiet_of_plain (finish_plain _ _)

theorem handleTCPIPForward_obeys (request : Request) :
    (p.handleTCPIPForward request).Obeys (mediation p) .idle Idle := by
  unfold Protocol.handleTCPIPForward
  split
  · exact obeys_pure.mpr rfl
  refine obeys_bind.mpr (obeys_begin (fun started err herr => ?_) fun started herr => ?_)
  · rw [herr]
    exact obeys_quiet (.bind (quiet_of_plain (finishIfAny_plain _ _)) fun _ => only_pure _) fun _ => rfl
  · rw [herr]
    refine obeys_bind.mpr (obeys_backend ⟨rfl, rfl, rfl, rfl⟩ fun forwarded => ?_)
    refine obeys_quiet ?_ fun _ => rfl
    rcases forwarded with err | forward
    · exact .bind (quiet_of_plain (finish_plain _ _)) fun _ => only_pure _
    · refine .bind (quiet_perform trivial) fun (added : Bool) => ?_
      cases added with
      | true => exact .bind (quiet_perform trivial) fun _ => only_pure _
      | false =>
        exact .bind (quiet_perform trivial) fun _ => .bind (quiet_of_plain (finish_plain _ _)) fun _ =>
          only_pure _

theorem handleGlobalRequest_obeys (request : Request) :
    (p.handleGlobalRequest request).Obeys (mediation p) .idle Idle := by
  unfold Protocol.handleGlobalRequest
  split_ifs
  · exact handleTCPIPForward_obeys p request
  · exact obeys_quiet (handleCancelTCPIPForward_quiet p request) fun _ => rfl
  · exact obeys_pure.mpr rfl

/-! ## Tasks -/

/-- If the goroutine goes on, it is idle and its next task is valid. -/
def Continues (next : Option Task) (phase : Phase) : Prop :=
  ∀ task ∈ next, task.Valid ∧ phase = .idle

theorem continues_none {phase : Phase} : Continues none phase := by
  intro task h
  cases h

theorem continues_some {task : Task} (h : task.Valid) : Continues (some task) .idle := by
  rintro _ ⟨⟩
  exact ⟨h, rfl⟩

/-- A last task. -/
theorem obeys_last {prog : Handling Unit} (h : prog.Obeys (mediation p) .idle Idle) :
    (do prog; return none : Handling (Option Task)).Obeys (mediation p) .idle Continues :=
  obeys_idle_bind h fun _ => obeys_pure.mpr continues_none

theorem handleChannel_obeys (channel : NewChannel) :
    (p.handleChannel channel).Obeys (mediation p) .idle Continues := by
  unfold Protocol.handleChannel
  split_ifs
  · refine obeys_quiet_bind (quiet_perform trivial) fun accepted => ?_
    cases accepted with
    | error err => exact obeys_pure.mpr continues_none
    | ok _ =>
      exact obeys_quiet_bind (quiet_perform trivial) fun _ => obeys_pure.mpr (continues_some trivial)
  · exact obeys_last p (handleDirectTCPIP_obeys p channel)
  · exact obeys_last p (obeys_quiet (quiet_perform trivial) fun _ => rfl)

theorem handleRequests_obeys (sess : ServerSession) :
    (p.handleRequests sess).Obeys (mediation p) .idle Continues := by
  refine obeys_quiet_bind (quiet_perform trivial) fun request => ?_
  cases request with
  | none => exact obeys_last p (obeys_quiet (quiet_of_plain (endRequests_plain sess)) fun _ => rfl)
  | some request =>
    exact obeys_idle_bind (handleRequest_obeys p sess request) fun _ =>
      obeys_pure.mpr (continues_some trivial)

theorem serveGlobalRequests_obeys : p.serveGlobalRequests.Obeys (mediation p) .idle Continues := by
  refine obeys_quiet_bind (quiet_perform trivial) fun request => ?_
  cases request with
  | none => exact obeys_pure.mpr continues_none
  | some request =>
    exact obeys_idle_bind (handleGlobalRequest_obeys p request) fun _ =>
      obeys_quiet_bind (quiet_perform trivial) fun _ => obeys_pure.mpr (continues_some trivial)

theorem serveChannels_obeys : serveChannels.Obeys (mediation p) .idle Continues := by
  refine obeys_quiet_bind (quiet_perform trivial) fun channel => ?_
  cases channel with
  | some channel =>
    exact obeys_quiet_bind (quiet_perform trivial) fun _ => obeys_pure.mpr (continues_some trivial)
  | none =>
    have hclose : close.Only Op.Quiet :=
      .bind (quiet_perform trivial) fun _ => .forM fun _ _ => quiet_perform trivial
    exact obeys_quiet_bind (quiet_perform trivial) fun _ => obeys_quiet_bind hclose fun _ =>
      obeys_last p (obeys_quiet (quiet_perform trivial) fun _ => rfl)

theorem serveAgentForward_obeys (forward : AgentForward) (finishOp : Option FinishId) :
    (serveAgentForward forward finishOp).Obeys (mediation p) .idle Continues := by
  refine obeys_quiet_bind (quiet_perform trivial) fun accepted => ?_
  cases accepted with
  | error err =>
    refine obeys_quiet_bind (quiet_perform trivial) fun _ =>
      obeys_quiet_bind (quiet_perform trivial) fun _ =>
        obeys_quiet_bind (quiet_of_plain (finish_plain _ _)) fun _ => ?_
    exact obeys_last p (obeys_quiet (quiet_perform trivial) fun _ => rfl)
  | ok stream =>
    exact obeys_quiet_bind (quiet_perform trivial) fun _ => obeys_pure.mpr (continues_some trivial)

theorem serveRemoteForward_obeys (bind bindHost : GoString) (bindPort : UInt32)
    (forward : RemoteForward) (finishOp : Option FinishId) :
    (serveRemoteForward bind bindHost bindPort forward finishOp).Obeys (mediation p) .idle
      Continues := by
  refine obeys_quiet_bind (quiet_perform trivial) fun accepted => ?_
  cases accepted with
  | error err =>
    refine obeys_quiet_bind (quiet_perform trivial) fun _ =>
      obeys_quiet_bind (quiet_perform trivial) fun _ =>
        obeys_quiet_bind (.optionForM fun _ _ => quiet_perform trivial) fun _ => ?_
    exact obeys_last p (obeys_quiet (quiet_of_plain (finish_plain _ _)) fun _ => rfl)
  | ok conn =>
    exact obeys_quiet_bind (quiet_perform trivial) fun _ => obeys_pure.mpr (continues_some trivial)

/-- All goroutines of a Pod connection obey the monitor. -/
theorem system_obeys : p.system.Obeys (mediation p) (· = .idle) Task.Valid where
  code task hvalid := by
    rintro _ rfl
    cases task with
    | serveGlobalRequests => exact serveGlobalRequests_obeys p
    | serveChannels => exact serveChannels_obeys p
    | handleChannel channel => exact handleChannel_obeys p channel
    | closeWhenDone session =>
      exact obeys_last p (obeys_quiet (.bind (quiet_perform trivial) fun _ => quiet_perform trivial)
        fun _ => rfl)
    | handleRequests sess => exact handleRequests_obeys p sess
    | operation handler sess => exact obeys_last p (operation_obeys p hvalid)
    | serveAgentForward forward finish => exact serveAgentForward_obeys p forward finish
    | proxyAgentForwardConnection stream =>
      exact obeys_last p (obeys_quiet (quiet_of_plain (proxyConnection_plain _ _ stream)) fun _ => rfl)
    | serveRemoteForward bind bindHost bindPort forward finish =>
      exact serveRemoteForward_obeys p bind bindHost bindPort forward finish
    | proxyRemoteForwardConnection stream originHost originPort bindHost bindPort =>
      exact obeys_last p (obeys_quiet (quiet_of_plain (proxyConnection_plain _ _ stream)) fun _ => rfl)
  started phase op hallowed task htask := by
    cases op with
    | go started =>
      obtain rfl := List.mem_singleton.mp htask
      cases phase with
      | idle => exact hallowed
      | granted operation => exact hallowed.elim
    | _ => cases htask

end Mediated

/-! ## Runs -/

/-- What mediation means for the events of one goroutine. -/
structure Mediated (p : Protocol) (events : List (Event interface)) : Prop where
  /-- Right before a backend call the goroutine began an operation that authorizes the call. -/
  authorized : ∀ before call answer rest, events = before ++ ⟨.backend call, answer⟩ :: rest →
    ∃ earlier operation, ∃ started : BeginResult, started.err = none ∧
      before = earlier ++ [⟨.begin operation, started⟩] ∧ p.Authorizes operation call
  /-- An operation that was begun without an error is executed as it was authorized. -/
  executed : ∀ before operation (started : BeginResult) event rest,
    events = before ++ ⟨.begin operation, started⟩ :: event :: rest → started.err = none →
      ∃ call answer, event = ⟨.backend call, answer⟩ ∧ p.Authorizes operation call
  /-- An exec command is run by the SCP helper exactly when it was authorized as `scp`, and by the
  shell exactly when it was authorized as `exec`. -/
  command : ∀ before operation started call answer rest,
    events = before ++ ⟨.begin operation, started⟩ :: ⟨.backend call, answer⟩ :: rest →
      operation.requestType = requestExec →
      ((∃ req, call = .scp req) ↔ p.capability operation = .scp) ∧
        ((∃ req, call = .exec req) ↔ p.capability operation = .exec)

theorem after_eq_granted {p : Protocol} {events : List (Event interface)} {operation : Operation}
    (h : (mediation p).after .idle events = .granted operation) :
    ∃ earlier, ∃ started : BeginResult, started.err = none ∧
      events = earlier ++ [⟨.begin operation, started⟩] := by
  rcases List.eq_nil_or_concat events with rfl | ⟨earlier, ⟨op, answer⟩, rfl⟩
  · cases h
  · rw [List.concat_eq_append, Monitor.after_concat] at h
    cases op with
    | begin begun =>
      obtain ⟨finish, err⟩ := (answer : BeginResult)
      cases err with
      | none =>
        obtain rfl := Phase.granted.inj h
        exact ⟨earlier, ⟨finish, none⟩, rfl, List.concat_eq_append⟩
      | some err => cases h
    | _ => cases h

/-- For a command, the capability decides between the SCP helper and the shell. -/
theorem Protocol.Authorizes.command_iff {p : Protocol} {operation : Operation} {call : BackendCall}
    (h : p.Authorizes operation call) (htype : operation.requestType = requestExec) :
    ((∃ req, call = .scp req) ↔ p.capability operation = .scp) ∧
      ((∃ req, call = .exec req) ↔ p.capability operation = .exec) := by
  cases call with
  | exec req =>
    rcases h.2 with ⟨hshell, -, -⟩ | ⟨-, hcapability, -⟩
    · rw [htype] at hshell
      exact absurd hshell (by decide)
    · simp [hcapability]
  | scp req => simp [h.2.2.1]
  | sftp req => simp [h.2.2]
  | portForward req => simp [h.2.1]
  | remoteForward req => simp [h.2.1]
  | agentForward target => simp [h.2]

theorem mediated_of_accepts {p : Protocol} {events : List (Event interface)}
    (h : (mediation p).Accepts .idle events) : Mediated p events := by
  have hauthorized : ∀ before call answer rest, events = before ++ ⟨.backend call, answer⟩ :: rest →
      ∃ earlier operation, ∃ started : BeginResult, started.err = none ∧
        before = earlier ++ [⟨.begin operation, started⟩] ∧ p.Authorizes operation call := by
    intro before call answer rest hevents
    have hallowed := h before _ rest hevents
    cases hphase : (mediation p).after .idle before with
    | idle =>
      rw [hphase] at hallowed
      exact hallowed.elim
    | granted operation =>
      rw [hphase] at hallowed
      obtain ⟨earlier, started, herr, hbefore⟩ := after_eq_granted hphase
      exact ⟨earlier, operation, started, herr, hbefore, hallowed⟩
  refine ⟨hauthorized, ?_, ?_⟩
  · intro before operation started ⟨op, answer⟩ rest hevents herr
    have hallowed := h (before ++ [⟨.begin operation, started⟩]) ⟨op, answer⟩ rest (by simp [hevents])
    have hphase : (mediation p).next ((mediation p).after .idle before) (.begin operation) started
        = .granted operation := if_pos (by rw [herr]; rfl)
    rw [Monitor.after_concat, hphase] at hallowed
    cases op with
    | backend call => exact ⟨call, answer, rfl, hallowed⟩
    | _ => exact hallowed.elim
  · intro before operation started call answer rest hevents htype
    obtain ⟨earlier, operation', started', -, hbefore, hauthorizes⟩ :=
      hauthorized (before ++ [⟨.begin operation, started⟩]) call answer rest (by simp [hevents])
    obtain ⟨-, hlast⟩ := List.append_inj' hbefore rfl
    obtain ⟨rfl⟩ : operation = operation' := by
      have := congrArg Event.op (List.singleton_inj.mp hlast)
      exact Op.begin.inj this
    exact hauthorizes.command_iff htype

/-- In every run of a Pod connection, whatever the client sends and however its goroutines are
scheduled, every backend call is mediated. -/
theorem run_mediated (p : Protocol) {trace : List (ℕ × Event interface)} {c : p.system.Config}
    (hrun : p.system.Run p.connection trace c) (i : ℕ) : Mediated p (System.eventsOf i trace) := by
  refine mediated_of_accepts (hrun.accepts (system_obeys p) rfl ?_ i)
  intro task htask
  rcases List.mem_pair.mp htask with rfl | rfl <;> exact trivial

/-- A Pod connection whose commands are single words. -/
def wordProtocol : Protocol where
  target := { kind := Target.kindPod, options := [] }
  defaultShell := str "/bin/sh"
  envAllowed _ := false
  codec := plainCodec
  shlex command := [command]

/-- The session of the command `id`. -/
def idSession : ServerSession where
  channel := 0
  started := true
  rawCmd := str "id"
  requestType := requestExec

/-- A client opens a session and sends the command `id`; the operation runs in goroutine 4. -/
theorem run_mediated_exec :
    ∃ trace c, wordProtocol.system.Run wordProtocol.connection trace c ∧
      System.eventsOf 4 trace =
        [⟨.begin (sessionOperation requestExec (str "id")), ⟨some 0, none⟩⟩,
          ⟨.backend (.exec (wordProtocol.resolveSession idSession).2), (0, none)⟩] ∧
      Mediated wordProtocol (System.eventsOf 4 trace) := by
  have h0 : wordProtocol.system.Run wordProtocol.connection [] wordProtocol.connection := .start
  have h1 := h0.perform 0 rfl (some (⟨0, channelSession, []⟩ : NewChannel)) rfl
  have h2 := h1.perform 0 rfl () rfl
  have h3 := h2.perform 2 rfl (Except.ok ()) rfl
  have h4 := h3.perform 2 rfl () rfl
  have h5 := h4.resume 2 rfl
  have h6 := h5.perform 2 rfl (some ⟨requestExec, true, str "id"⟩) rfl
  have h7 := h6.perform 2 rfl none rfl
  have h8 := h7.perform 2 rfl () rfl
  have h9 := h8.perform 4 rfl (⟨some 0, none⟩ : BeginResult) rfl
  have h10 := h9.perform 4 rfl ((0, none) : ℤ × Option Message) rfl
  exact ⟨_, _, h10, rfl, run_mediated wordProtocol h10 4⟩

end KubeSsh.PodSsh

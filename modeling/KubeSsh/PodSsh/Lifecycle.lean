import KubeSsh.Common.Waiting
import KubeSsh.PodSsh.Protocol
import Mathlib.Algebra.Order.BigOperators.Group.List
import Mathlib.Data.Multiset.OrderedMonoid

/-!
# `pkg/podssh`: operations end with the goroutines of a connection

A `FinishOperation` is a token of the goroutine that is to call it. Besides, a goroutine needs a
token to begin operations (`work`), and one to start goroutines that it has to wait for: `handlers`
for the wait group of the connection, `session` for the wait group of a session, `agent` for the end
of an agent forward. It gives up such a token by waiting, so the goroutines it waits for have ended
before it. Only the accept loops of remote forwards have nobody who waits for them.
-/

namespace KubeSsh.PodSsh

open SshProtocol CryptoSsh

/-! ## Waiting -/

/-- The goroutines that an operation waits for, if the goroutine that performs it has started them:
those of `handlers.Go` (`gateway/server.go:93,100`), where a handler goes on as the request loop of
its session, those of `tasks.Go` (`session_handler.go:166`), and the one that closes the channel
`done` of an agent forward when it ends (`agentforward.go:52`). -/
def Op.waitsFor : Op → Task → Prop
  | .waitHandlers, .serveGlobalRequests | .waitHandlers, .serveChannels => True
  | .waitHandlers, .handleChannel _ | .waitHandlers, .handleRequests _ => True
  | .waitTasks _, .operation _ _ => True
  | .awaitAgentDone forward, .serveAgentForward forward' _ => forward' = forward
  | _, _ => False

/-- `begin` returned the operation. -/
def begins (id : FinishId) (entry : ℕ × Event interface) : Bool :=
  match entry.2.op, entry.2.answer with
  | .begin _, (started : BeginResult) => started.finish = some id
  | _, _ => false

/-- The operation was finished. -/
def finishes (id : FinishId) (entry : ℕ × Event interface) : Bool :=
  match entry.2.op with
  | .finish id' _ => id' = id
  | _ => false

/-- The goroutines of a connection that were started, with the one that started each. -/
def Protocol.offspring (p : Protocol) (trace : List (ℕ × Event interface)) : List (ℕ × Task) :=
  p.system.offspring [Task.serveGlobalRequests] trace

/-- An operation that waits is performed when those it waits for have ended. Each call of `begin`
returns a new operation to finish, also if it is denied (`gateway/protocol.go:51-84`). -/
def Protocol.Waits (p : Protocol) : p.system.Condition := fun trace threads i event =>
  (∀ j task, (p.offspring trace)[j]? = some (i, task) → event.op.waitsFor task →
    threads[j + 1]? = some (.pure none)) ∧
  match event.op, event.answer with
  | .begin _, (started : BeginResult) =>
    ∃ id, started.finish = some id ∧ ∀ entry ∈ trace, begins id entry = false
  | _, _ => True

/-- The operation neither waits for goroutines nor begins an operation. -/
def Op.Unwaiting : Op → Prop
  | .waitHandlers | .waitTasks _ | .awaitAgentDone _ | .begin _ => False
  | _ => True

theorem waits_free {p : Protocol} {trace : List (ℕ × Event interface)} {threads : List (Handling (Option Task))}
    {i : ℕ} {op : Op} {answer : op.Answer} (h : op.Unwaiting) : p.Waits trace threads i ⟨op, answer⟩ := by
  refine ⟨fun _ task _ hwaits => ?_, ?_⟩
  · cases op <;> first | exact h.elim | exact hwaits.elim
  · cases op <;> first | exact h.elim | trivial

/-! ## Tokens -/

inductive Token
  /-- An operation that is to be finished. -/
  | operation (id : FinishId)
  /-- Operations may be begun. -/
  | work
  /-- Handlers of the connection may be started. -/
  | handlers
  /-- Operations of a session may be started. -/
  | session
  /-- The agent forward was started. -/
  | agent (forward : AgentForward)
  deriving DecidableEq

/-- The token of a `FinishOperation` that may be nil. -/
def finishToken : Option FinishId → Multiset Token
  | none => 0
  | some id => {.operation id}

/-- The token of the agent forward of a session. -/
def agentToken : Option AgentForward → Multiset Token
  | none => 0
  | some forward => {.agent forward}

/-- What a goroutine starts with. -/
def Task.tokens : Task → Multiset Token
  | .serveChannels => {.handlers}
  | .serveGlobalRequests | .handleChannel _ | .operation _ _ => {.work}
  | .handleRequests sess => {.session} + ({.work} + agentToken sess.agentForward)
  | .serveAgentForward _ finish | .serveRemoteForward _ _ _ _ finish => finishToken finish
  | .closeWhenDone _ | .proxyAgentForwardConnection _ | .proxyRemoteForwardConnection _ _ _ _ _ => 0

/-- What a goroutine ends with. -/
def Task.leaves : Task → Multiset Token
  | .serveGlobalRequests | .handleChannel _ | .handleRequests _ | .operation _ _ => {.work}
  | _ => 0

/-- The token that a goroutine is started with by one that has to wait for it. -/
def Task.licence : Task → Option Token
  | .serveGlobalRequests | .serveChannels | .handleChannel _ | .handleRequests _ => some .handlers
  | .operation _ _ => some .session
  | .serveAgentForward forward _ => some (.agent forward)
  | _ => none

/-- What the operations of a goroutine take from it and give to it. -/
def lifecycle : Ledger interface Token where
  takes
    | .begin _ => {.work}
    | .finish id _ => {.operation id}
    | .waitHandlers => {.handlers}
    | .waitTasks _ => {.session}
    | .awaitAgentDone forward => {.agent forward}
    | .go task => match task with
      | .serveGlobalRequests | .serveChannels | .handleChannel _ | .handleRequests _ => {.handlers}
      | .closeWhenDone _ => {.work}
      | .operation _ _ => {.session}
      | .serveAgentForward _ finish => {.session} + finishToken finish
      | .serveRemoteForward _ _ _ _ finish => finishToken finish
      | _ => 0
    | _ => 0
  gives
    | .begin _, (started : BeginResult) => {.work} + finishToken started.finish
    | .go task, _ => match task with
      | .serveGlobalRequests | .serveChannels | .handleChannel _ | .handleRequests _ => {.handlers}
      -- a session begins
      | .closeWhenDone _ => {.work} + {.session}
      | .operation _ _ => {.session}
      | .serveAgentForward forward _ => {.session} + {.agent forward}
      | _ => 0
    | _, _ => 0

/-! ## The goroutines -/

section Programs

open Prog

variable (p : Protocol)

theorem free_perform {op : Op} (h : lifecycle.Free op) : (perform op).Only lifecycle.Free :=
  only_perform.mpr h

theorem op_moves (op : Op) :
    (perform op).Moves lifecycle (lifecycle.takes op) (lifecycle.gives op) :=
  moves_perform (L := lifecycle) op

theorem finish_moves (finishOp : Option FinishId) (result : OperationResult) :
    (finish finishOp result).Moves lifecycle (finishToken finishOp) fun _ => 0 := by
  cases finishOp with
  | none => exact .bind (op_moves .nilCall) fun answer => nomatch answer
  | some id => exact op_moves (.finish id result)

theorem finishIfAny_moves (finishOp : Option FinishId) (result : OperationResult) :
    (finishIfAny finishOp result).Moves lifecycle (finishToken finishOp) fun _ => 0 := by
  cases finishOp with
  | none => exact moves_pure rfl
  | some id => exact op_moves (.finish id result)

/-- An operation that has nothing to do with tokens comes before the rest. -/
theorem moves_free_bind {α : Type} {op : Op} {f : op.Answer → Handling α} {pre : Multiset Token}
    {post : α → Multiset Token} (h : lifecycle.Free op) (hf : ∀ a, (f a).Moves lifecycle pre post) :
    (perform op >>= f).Moves lifecycle pre post :=
  (free_perform h).moves_bind hf

theorem free_moves_bind {α β : Type} {prog : Handling α} {f : α → Handling β} {pre : Multiset Token}
    {post : β → Multiset Token} (h : prog.Only lifecycle.Free)
    (hf : ∀ a, (f a).Moves lifecycle pre post) : (prog >>= f).Moves lifecycle pre post :=
  h.moves_bind hf

/-- A program that finishes its operation, and the rest. -/
theorem finish_bind {α : Type} {prog : Handling Unit} {finishOp : Option FinishId}
    {f : Unit → Handling α} {pre : Multiset Token} {post : α → Multiset Token}
    (h : prog.Moves lifecycle (finishToken finishOp) fun _ => 0)
    (hf : ∀ a, (f a).Moves lifecycle pre post) :
    (prog >>= f).Moves lifecycle (pre + finishToken finishOp) post :=
  (h.keep pre).bind hf

theorem runSessionOperation_moves (sess : ServerSession) (operation : Operation) (tty : Bool)
    {execute : Handling (ℤ × Option Message)} (hexecute : execute.Only lifecycle.Free) :
    (runSessionOperation sess operation tty execute).Moves lifecycle {.work} fun _ => {.work} := by
  refine (op_moves (.begin operation)).bind fun (started : BeginResult) => ?_
  dsimp only
  split
  · refine finish_bind (finishIfAny_moves _ _) fun _ => ?_
    exact moves_free_bind ⟨rfl, fun _ => rfl⟩ fun _ => moves_pure rfl
  · refine free_moves_bind hexecute ?_
    rintro ⟨exitCode, execErr⟩
    refine free_moves_bind (.optionForM fun _ _ => free_perform ⟨rfl, fun _ => rfl⟩) fun _ => ?_
    exact finish_bind (finish_moves _ _) fun _ => moves_pure rfl

theorem operation_moves (handler : Handler) (sess : ServerSession) :
    (p.operation handler sess).Moves lifecycle {.work} fun _ => {.work} := by
  have hexit (code : ℤ) : (p.exit sess code).Only lifecycle.Free :=
    .bind (free_perform ⟨rfl, fun _ => rfl⟩) fun _ => .bind (free_perform ⟨rfl, fun _ => rfl⟩) fun _ =>
      free_perform ⟨rfl, fun _ => rfl⟩
  have hsession : (p.handleSession sess).Moves lifecycle {.work} fun _ => {.work} := by
    unfold Protocol.handleSession
    split <;> exact runSessionOperation_moves _ _ _ (free_perform ⟨rfl, fun _ => rfl⟩)
  have hsftp : (p.handleSFTP sess).Moves lifecycle {.work} fun _ => {.work} :=
    runSessionOperation_moves _ _ _ (free_perform ⟨rfl, fun _ => rfl⟩)
  cases handler with
  | handleSession => exact hsession.bind fun code => (hexit code).moves _
  | handleSFTP => exact hsftp.bind fun code => (hexit code).moves _

/-! ### Sessions -/

theorem acceptAgentForward_moves : p.acceptAgentForward.Moves lifecycle ({.work} + {.session})
    fun forward => {.work} + {.session} + agentToken forward := by
  refine (op_moves (.begin _)).bind_frame fun (started : BeginResult) => ?_
  have htokens : lifecycle.gives (.begin { channelType := channelSession
                                           requestType := requestAgentForward }) started + {.session}
      = {.work} + {.session} + finishToken started.finish := add_right_comm _ _ _
  rw [htokens]
  split
  · exact finish_bind (finishIfAny_moves _ _) fun _ => moves_pure rfl
  refine moves_free_bind ⟨rfl, fun _ => rfl⟩ fun forwarded => ?_
  rcases (forwarded : Except Message AgentForward) with err | forward
  · exact finish_bind (finish_moves _ _) fun _ => moves_pure rfl
  · have htokens : ({.work} + {.session} + finishToken started.finish : Multiset Token)
        = {.session} + finishToken started.finish + {.work} := by abel
    rw [htokens]
    refine (op_moves (.go (.serveAgentForward forward started.finish))).bind_frame fun _ => moves_pure ?_
    change ({.session} + {.agent forward} + {.work} : Multiset Token)
      = {.work} + {.session} + {.agent forward}
    abel

/-- A request of a session leaves the tokens of the session. -/
theorem handleRequest_moves (sess : ServerSession) (request : Request) :
    (p.handleRequest sess request).Moves lifecycle (Task.handleRequests sess).tokens
      fun sess' => (Task.handleRequests sess').tokens := by
  have hreply {sess' : ServerSession} (ok : Bool) (h : sess'.agentForward = sess.agentForward) :
      (do let _ ← reply sess.channel ok; return sess' : Handling ServerSession).Moves lifecycle
        (Task.handleRequests sess).tokens fun sess' => (Task.handleRequests sess').tokens :=
    moves_free_bind ⟨rfl, fun _ => rfl⟩ fun _ => moves_pure (by rw [Task.tokens, Task.tokens, h])
  unfold Protocol.handleRequest
  split_ifs
  · unfold Protocol.handleStartRequest
    split
    · exact hreply false rfl
    split
    · exact hreply false rfl
    refine moves_free_bind ⟨rfl, fun _ => rfl⟩ fun replied => ?_
    rcases (replied : Option Message) with _ | err
    · exact (op_moves (.go (.operation _ _))).bind_frame fun _ => moves_pure rfl
    · exact moves_free_bind ⟨rfl, fun _ => rfl⟩ fun _ => moves_pure rfl
  · unfold Protocol.handleEnvRequest
    split <;> exact hreply _ rfl
  · unfold Protocol.handlePTYRequest
    split <;> exact hreply _ rfl
  · unfold Protocol.handleWindowChangeRequest
    split
    · exact hreply false rfl
    · exact moves_free_bind ⟨rfl, fun _ => rfl⟩ fun _ => moves_free_bind ⟨rfl, fun _ => rfl⟩ fun _ =>
        hreply true rfl
  · unfold Protocol.handleAgentForwardRequest
    split
    · exact hreply false rfl
    · rename_i hrefused
      have hnone : sess.agentForward = none := by
        by_contra hsome
        exact hrefused (Or.inr (Or.inl (Option.isSome_iff_ne_none.mpr hsome)))
      have htokens : (Task.handleRequests sess).tokens = {.work} + {.session} := by
        rw [Task.tokens, hnone, agentToken, add_zero, add_comm]
      rw [htokens]
      refine (acceptAgentForward_moves p).bind fun forward => ?_
      cases forward with
      | none =>
        refine moves_free_bind ⟨rfl, fun _ => rfl⟩ fun _ => moves_pure ?_
        rw [htokens, agentToken, add_zero]
      | some forward =>
        refine moves_free_bind ⟨rfl, fun _ => rfl⟩ fun _ => moves_pure ?_
        change ({.work} + {.session} + {.agent forward} : Multiset Token)
          = {.session} + ({.work} + {.agent forward})
        abel
  · exact hreply false rfl

/-- A session waits for its agent forward and for its operation before it ends. -/
theorem endRequests_moves (sess : ServerSession) :
    (endRequests sess).Moves lifecycle (Task.handleRequests sess).tokens fun _ => {.work} := by
  have hagent : (sess.agentForward.forM closeAgentForward).Moves lifecycle
      (agentToken sess.agentForward) fun _ => 0 := by
    cases sess.agentForward with
    | none => exact moves_pure rfl
    | some forward =>
      exact moves_free_bind ⟨rfl, fun _ => rfl⟩ fun _ => moves_free_bind ⟨rfl, fun _ => rfl⟩ fun _ =>
        op_moves (.awaitAgentDone forward)
  have htokens : (Task.handleRequests sess).tokens
      = {.work} + {.session} + agentToken sess.agentForward := by
    rw [Task.tokens, add_left_comm, ← add_assoc]
  rw [htokens]
  refine moves_free_bind ⟨rfl, fun _ => rfl⟩ fun _ => moves_free_bind ⟨rfl, fun _ => rfl⟩ fun _ =>
    moves_free_bind ⟨rfl, fun _ => rfl⟩ fun _ => ?_
  refine free_moves_bind (.optionForM fun _ _ => free_perform ⟨rfl, fun _ => rfl⟩) fun _ => ?_
  exact (hagent.keep _).bind fun _ => (op_moves (.waitTasks sess.channel)).keep _

theorem handleRequests_moves (sess : ServerSession) :
    (p.handleRequests sess).Moves lifecycle (Task.handleRequests sess).tokens
      fun next => next.elim {.work} Task.tokens := by
  refine moves_free_bind ⟨rfl, fun _ => rfl⟩ fun received => ?_
  rcases (received : Option Request) with _ | request
  · exact (endRequests_moves sess).bind fun _ => moves_pure rfl
  · exact (handleRequest_moves p sess request).bind fun _ => moves_pure rfl

/-! ### Forwards -/

theorem handleDirectTCPIP_moves (channel : NewChannel) :
    (p.handleDirectTCPIP channel).Moves lifecycle {.work} fun _ => {.work} := by
  have hreject (reason : RejectionReason) (message : Message) :
      (reject channel reason message).Moves lifecycle {.work} fun _ => {.work} :=
    (free_perform ⟨rfl, fun _ => rfl⟩).moves _
  unfold Protocol.handleDirectTCPIP
  split
  · exact hreject _ _
  refine (op_moves (.begin _)).bind fun (started : BeginResult) => ?_
  split
  · exact finish_bind (finishIfAny_moves _ _) fun _ => hreject _ _
  refine moves_free_bind ⟨rfl, fun _ => rfl⟩ fun forwarded => ?_
  rcases (forwarded : Except Message ℕ) with err | remote
  · exact finish_bind (finish_moves _ _) fun _ => hreject _ _
  refine moves_free_bind ⟨rfl, fun _ => rfl⟩ fun accepted => ?_
  rcases (accepted : Except Message Unit) with err | _
  · exact moves_free_bind ⟨rfl, fun _ => rfl⟩ fun _ => (finish_moves _ _).keep _
  · exact moves_free_bind ⟨rfl, fun _ => rfl⟩ fun _ => (finish_moves _ _).keep _

theorem handleChannel_moves (channel : NewChannel) :
    (p.handleChannel channel).Moves lifecycle {.work} fun next => next.elim {.work} Task.tokens := by
  unfold Protocol.handleChannel
  split_ifs
  · refine moves_free_bind ⟨rfl, fun _ => rfl⟩ fun accepted => ?_
    rcases (accepted : Except Message Unit) with err | _
    · exact moves_pure rfl
    · refine (op_moves (.go (.closeWhenDone channel.id))).bind fun _ => moves_pure ?_
      change ({.work} + {.session} : Multiset Token) = {.session} + ({.work} + 0)
      rw [add_zero, add_comm]
  · exact (handleDirectTCPIP_moves p channel).bind fun _ => moves_pure rfl
  · exact moves_free_bind ⟨rfl, fun _ => rfl⟩ fun _ => moves_pure rfl

theorem serveAgentForward_moves (forward : AgentForward) (finishOp : Option FinishId) :
    (serveAgentForward forward finishOp).Moves lifecycle (finishToken finishOp)
      fun next => next.elim 0 Task.tokens := by
  refine moves_free_bind ⟨rfl, fun _ => rfl⟩ fun accepted => ?_
  rcases (accepted : Except AcceptError ℕ) with err | stream
  · refine moves_free_bind ⟨rfl, fun _ => rfl⟩ fun _ => moves_free_bind ⟨rfl, fun _ => rfl⟩ fun _ => ?_
    refine (finish_moves _ _).bind fun _ => ?_
    exact moves_free_bind ⟨rfl, fun _ => rfl⟩ fun _ => moves_pure rfl
  · exact moves_free_bind ⟨rfl, fun _ => rfl⟩ fun _ => moves_pure rfl

theorem serveRemoteForward_lifecycle (bind bindHost : GoString) (bindPort : UInt32)
    (forward : RemoteForward) (finishOp : Option FinishId) :
    (serveRemoteForward bind bindHost bindPort forward finishOp).Moves lifecycle
      (finishToken finishOp) fun next => next.elim 0 Task.tokens := by
  refine moves_free_bind ⟨rfl, fun _ => rfl⟩ fun accepted => ?_
  rcases (accepted : Except AcceptError RemoteConn) with err | conn
  · refine moves_free_bind ⟨rfl, fun _ => rfl⟩ fun _ => moves_free_bind ⟨rfl, fun _ => rfl⟩ fun _ => ?_
    refine free_moves_bind (.optionForM fun _ _ => free_perform ⟨rfl, fun _ => rfl⟩) fun _ => ?_
    exact (finish_moves _ _).bind fun _ => moves_pure rfl
  · exact moves_free_bind ⟨rfl, fun _ => rfl⟩ fun _ => moves_pure rfl

/-- The goroutine of a forwarded connection. -/
theorem proxyConnection_free (channelType payload : GoString) (stream : ℕ) :
    (do match ← openChannel channelType payload with
      | .error _ => perform (.closeStream stream)
      | .ok channel => let _ ← proxy channel stream : Handling Unit).Only lifecycle.Free := by
  refine .bind (free_perform ⟨rfl, fun _ => rfl⟩) fun opened => ?_
  cases opened with
  | error err => exact free_perform ⟨rfl, fun _ => rfl⟩
  | ok channel => exact .bind (free_perform ⟨rfl, fun _ => rfl⟩) fun _ => only_pure _

theorem handleTCPIPForward_lifecycle (request : Request) :
    (p.handleTCPIPForward request).Moves lifecycle {.work} fun _ => {.work} := by
  unfold Protocol.handleTCPIPForward
  split
  · exact moves_pure rfl
  refine (op_moves (.begin _)).bind fun (started : BeginResult) => ?_
  split
  · exact finish_bind (finishIfAny_moves _ _) fun _ => moves_pure rfl
  refine moves_free_bind ⟨rfl, fun _ => rfl⟩ fun forwarded => ?_
  rcases (forwarded : Except Message RemoteForward) with err | forward
  · exact finish_bind (finish_moves _ _) fun _ => moves_pure rfl
  refine moves_free_bind ⟨rfl, fun _ => rfl⟩ fun added => ?_
  cases (added : Bool) with
  | true =>
    exact ((op_moves (.go (.serveRemoteForward _ _ _ forward started.finish))).keep _).bind fun _ =>
      moves_pure rfl
  | false =>
    exact moves_free_bind ⟨rfl, fun _ => rfl⟩ fun _ =>
      finish_bind (finish_moves _ _) fun _ => moves_pure rfl

theorem handleCancelTCPIPForward_free (request : Request) :
    (p.handleCancelTCPIPForward request).Only lifecycle.Free := by
  unfold Protocol.handleCancelTCPIPForward
  split
  · exact only_pure _
  · exact .bind (free_perform ⟨rfl, fun _ => rfl⟩) fun removed => .bind (.optionForM fun forward _ =>
      .bind (free_perform ⟨rfl, fun _ => rfl⟩) fun err => .optionForM fun _ _ =>
        free_perform ⟨rfl, fun _ => rfl⟩) fun _ => only_pure _

/-! ### The connection -/

theorem serveGlobalRequests_lifecycle : p.serveGlobalRequests.Moves lifecycle {.work}
    fun next => next.elim {.work} Task.tokens := by
  have hhandle (request : Request) :
      (p.handleGlobalRequest request).Moves lifecycle {.work} fun _ => {.work} := by
    unfold Protocol.handleGlobalRequest
    split_ifs
    · exact handleTCPIPForward_lifecycle p request
    · exact (handleCancelTCPIPForward_free p request).moves _
    · exact moves_pure rfl
  refine moves_free_bind ⟨rfl, fun _ => rfl⟩ fun received => ?_
  rcases (received : Option Request) with _ | request
  · exact moves_pure rfl
  · exact (hhandle request).bind fun _ => moves_free_bind ⟨rfl, fun _ => rfl⟩ fun _ => moves_pure rfl

theorem serveChannels_lifecycle : serveChannels.Moves lifecycle {.handlers}
    fun next => next.elim 0 Task.tokens := by
  refine moves_free_bind ⟨rfl, fun _ => rfl⟩ fun received => ?_
  rcases (received : Option NewChannel) with _ | channel
  · have hclose : close.Only lifecycle.Free :=
      .bind (free_perform ⟨rfl, fun _ => rfl⟩) fun _ => .forM fun _ _ => free_perform ⟨rfl, fun _ => rfl⟩
    refine moves_free_bind ⟨rfl, fun _ => rfl⟩ fun _ => free_moves_bind hclose fun _ => ?_
    exact (op_moves .waitHandlers).bind fun _ => moves_pure rfl
  · exact (op_moves (.go (.handleChannel channel))).bind fun _ => moves_pure rfl

/-- Every goroutine has the tokens of its task, and no others. -/
theorem system_lifecycle : p.system.Balanced lifecycle Task.tokens Task.leaves := by
  have hlast {prog : Handling Unit} {held : Multiset Token}
      (h : prog.Moves lifecycle held fun _ => held) : (do prog; return none :
        Handling (Option Task)).Moves lifecycle held fun next => next.elim held Task.tokens :=
    h.bind fun _ => moves_pure rfl
  intro task
  cases task with
  | serveGlobalRequests => exact serveGlobalRequests_lifecycle p
  | serveChannels => exact serveChannels_lifecycle
  | handleChannel channel => exact handleChannel_moves p channel
  | closeWhenDone session =>
    exact moves_free_bind ⟨rfl, fun _ => rfl⟩ fun _ =>
      moves_free_bind ⟨rfl, fun _ => rfl⟩ fun _ => moves_pure rfl
  | handleRequests sess => exact handleRequests_moves p sess
  | operation handler sess => exact hlast (operation_moves p handler sess)
  | serveAgentForward forward finish => exact serveAgentForward_moves forward finish
  | proxyAgentForwardConnection stream => exact hlast ((proxyConnection_free _ _ stream).moves 0)
  | serveRemoteForward bind bindHost bindPort forward finish =>
    exact serveRemoteForward_lifecycle bind bindHost bindPort forward finish
  | proxyRemoteForwardConnection stream originHost originPort bindHost bindPort =>
    exact hlast ((proxyConnection_free _ _ stream).moves 0)

end Programs

/-! ## The end of a connection -/

section Settled

open KubeSsh.System

variable {p : Protocol}

theorem mem_finishToken {token : Token} {finish : Option FinishId}
    (h : token ∈ finishToken finish) : ∃ id, token = .operation id := by
  cases finish with
  | none => cases h
  | some id => exact ⟨id, Multiset.mem_singleton.mp h⟩

theorem licence_ne_operation {task : Task} {t : Token} (h : task.licence = some t) (id : FinishId) :
    t ≠ .operation id := by
  rintro rfl
  cases task <;> cases h

/-- What is taken and not given back was the licence for goroutines that were waited for. -/
theorem waitsFor_of_takes {op : Op} {answer : op.Answer} {task : Task} {t : Token}
    (hlicence : task.licence = some t) (htakes : t ∈ lifecycle.takes op)
    (hgives : t ∉ lifecycle.gives op answer) : op.waitsFor task := by
  have hsingle {token : Token} (h : t ∈ ({token} : Multiset Token)) : t = token := Multiset.mem_singleton.mp h
  have hfinish (finish : Option FinishId) : t ∉ finishToken finish := fun h => by
    obtain ⟨id, rfl⟩ := mem_finishToken h
    exact licence_ne_operation hlicence id rfl
  cases op with
  | waitHandlers =>
    obtain rfl := hsingle htakes
    cases task <;> first | exact trivial | cases hlicence
  | waitTasks session =>
    obtain rfl := hsingle htakes
    cases task <;> first | exact trivial | cases hlicence
  | awaitAgentDone forward =>
    obtain rfl := hsingle htakes
    cases task with
    | serveAgentForward forward' finish =>
      exact Token.agent.inj (Option.some.inj hlicence)
    | _ => cases hlicence
  | finish id result => exact (licence_ne_operation hlicence id (hsingle htakes)).elim
  | begin operation => exact (hgives (Multiset.mem_add.mpr (Or.inl htakes))).elim
  | go started =>
    cases started with
    | serveGlobalRequests | serveChannels | handleChannel | handleRequests | operation =>
      exact (hgives htakes).elim
    | closeWhenDone session => exact (hgives (Multiset.mem_add.mpr (Or.inl htakes))).elim
    | serveAgentForward forward finish =>
      rcases Multiset.mem_add.mp htakes with h | h
      · exact (hgives (Multiset.mem_add.mpr (Or.inl h))).elim
      · exact (hfinish finish h).elim
    | serveRemoteForward bind bindHost bindPort forward finish => exact (hfinish finish htakes).elim
    | proxyAgentForwardConnection | proxyRemoteForwardConnection => cases htakes
  | _ => cases htakes

/-- The goroutines wait for all they have started, but not for the accept loops of remote
forwards. -/
theorem system_waiting : p.system.Waiting lifecycle p.Waits [Task.serveGlobalRequests] Task.tokens
    Task.leaves Task.licence where
  started op answer task t htask hlicence := by
    cases op with
    | go started =>
      obtain rfl := List.mem_singleton.mp htask
      cases task with
      | serveAgentForward forward finish =>
        obtain rfl := Option.some.inj hlicence
        exact Multiset.mem_add.mpr (Or.inr (Multiset.mem_singleton_self _))
      | serveGlobalRequests | serveChannels | handleChannel | handleRequests | operation =>
        obtain rfl := Option.some.inj hlicence
        exact Multiset.mem_singleton_self _
      | _ => cases hlicence
    | _ => cases htask
  waits trace threads i op answer hwaits j task t hj hlicence htakes hgives :=
    hwaits.1 j task hj (waitsFor_of_takes hlicence htakes hgives)
  ended task task' t hlicence hmem := by
    have hwork : t = .work := by
      cases task' <;> first | exact Multiset.mem_singleton.mp hmem | cases hmem
    subst hwork
    cases task <;> cases hlicence
  free op htakes := by
    have hne {token : Token} (rest : Multiset Token) : {token} + rest ≠ 0 := by simp
    cases op with
    | begin | finish | waitHandlers | waitTasks | awaitAgentDone =>
      exact (Multiset.singleton_ne_zero _ htakes).elim
    | go started =>
      cases started with
      | serveAgentForward forward finish => exact (hne _ htakes).elim
      | serveRemoteForward bind bindHost bindPort forward finish =>
        refine ⟨fun _ => rfl, fun task htask => ?_⟩
        obtain rfl := List.mem_singleton.mp htask
        exact htakes
      | closeWhenDone | serveGlobalRequests | serveChannels | handleChannel | handleRequests | operation =>
        exact (Multiset.singleton_ne_zero _ htakes).elim
      | proxyAgentForwardConnection | proxyRemoteForwardConnection =>
        refine ⟨fun _ => rfl, fun task htask => ?_⟩
        obtain rfl := List.mem_singleton.mp htask
        rfl
    | _ => exact ⟨fun _ => rfl, fun _ h => by cases h⟩

/-- The operations that goroutines are to finish are those that were begun and not finished. -/
def Outstanding (trace : List (ℕ × Event interface)) (states : List (Multiset Token)) : Prop :=
  ∀ id, states.sum.count (.operation id) + trace.countP (finishes id) = trace.countP (begins id)

theorem count_finishToken (id : FinishId) (finish : Option FinishId) :
    (finishToken finish).count (.operation id) = if finish = some id then 1 else 0 := by
  cases finish with
  | none => rfl
  | some id' => simp [finishToken, Multiset.count_singleton, eq_comm]

/-- An operation comes from `begin`, and goes by `finish` or to a goroutine that is started. -/
theorem operation_flow (id : FinishId) (i : ℕ) (op : Op) (answer : op.Answer) :
    (lifecycle.gives op answer).count (.operation id) +
        (((p.system.started op).map Task.tokens).sum).count (.operation id) +
        (if finishes id (i, ⟨op, answer⟩) then 1 else 0)
      = (lifecycle.takes op).count (.operation id) + if begins id (i, ⟨op, answer⟩) then 1 else 0 := by
  have hstarted (task : Task) : ((p.system.started (.go task)).map Task.tokens).sum = task.tokens :=
    add_zero _
  have hother (token : Token) (h : .operation id ≠ token) :
      ({token} : Multiset Token).count (.operation id) = 0 :=
    Multiset.count_eq_zero.mpr fun hmem => h (Multiset.mem_singleton.mp hmem)
  have hagent (forward : Option AgentForward) : (agentToken forward).count (.operation id) = 0 := by
    cases forward with
    | none => rfl
    | some forward => exact hother _ nofun
  cases op with
  | begin operation =>
    change ({.work} + finishToken answer.finish : Multiset Token).count (.operation id) + 0 + 0
      = ({.work} : Multiset Token).count (.operation id) +
        if decide ((answer : BeginResult).finish = some id) = true then 1 else 0
    rw [Multiset.count_add, count_finishToken]
    simp
  | finish id' result =>
    change 0 + 0 + (if decide (id' = id) = true then 1 else 0)
      = ({.operation id'} : Multiset Token).count (.operation id) + 0
    simp [Multiset.count_singleton, eq_comm]
  | go task =>
    rw [hstarted]
    change (lifecycle.gives (.go task) answer).count (.operation id) + task.tokens.count
      (.operation id) + 0 = (lifecycle.takes (.go task)).count (.operation id) + 0
    cases task <;> simp [lifecycle, Task.tokens, hagent]
  | waitHandlers => exact (hother .handlers nofun).symm
  | waitTasks session => exact (hother .session nofun).symm
  | awaitAgentDone forward => exact (hother (.agent forward) nofun).symm
  | _ => rfl

theorem Outstanding.step {trace : List (ℕ × Event interface)} {states : List (Multiset Token)} {i : ℕ}
    {held : Multiset Token} {op : Op} (h : Outstanding trace states) (hi : states[i]? = some held)
    (hallowed : lifecycle.monitor.Allowed held op) (answer : op.Answer) :
    Outstanding (trace ++ [(i, ⟨op, answer⟩)])
      (states.set i (lifecycle.monitor.next held op answer) ++ (p.system.started op).map Task.tokens) := by
  intro id
  have hsum : (states.set i (lifecycle.monitor.next held op answer) ++
        (p.system.started op).map Task.tokens).sum + lifecycle.takes op
      = states.sum + lifecycle.gives op answer + ((p.system.started op).map Task.tokens).sum :=
    lifecycle.sum_step hi hallowed answer
  replace hsum := congrArg (Multiset.count (.operation id)) hsum
  rw [Multiset.count_add, Multiset.count_add, Multiset.count_add] at hsum
  have hflow := operation_flow (p := p) id i op answer
  have hbefore := h id
  rw [List.countP_append, List.countP_append, List.countP_singleton, List.countP_singleton]
  omega

variable {trace : List (ℕ × Event interface)} {c : p.system.Config}

/-- In every run, the operations are with the goroutines, and goroutines end after those they wait
for. -/
theorem run_waited (hrun : p.system.RunWhen p.Waits p.connection trace c) :
    ∃ states, (Outstanding trace states ∧
        Waited [Task.serveGlobalRequests] Task.tokens Task.licence trace c states) ∧
      Tracks lifecycle.monitor (fun task held => held = Task.tokens task)
        (fun held => ∃ task, held = Task.leaves task) c.threads states := by
  refine hrun.waited (system_lifecycle p) system_waiting ?_ Outstanding ?_ ?_
  · intro task htask t hlicence
    obtain rfl := List.mem_singleton.mp htask
    obtain rfl := Option.some.inj hlicence
    exact Multiset.mem_singleton_self _
  · intro id
    rfl
  · intro trace states i held op answer h hi hallowed
    exact h.step hi hallowed answer

/-- No operation is finished more often than it was begun. -/
theorem countP_finishes_le (hrun : p.system.RunWhen p.Waits p.connection trace c) (id : FinishId) :
    trace.countP (finishes id) ≤ trace.countP (begins id) := by
  obtain ⟨states, ⟨houtstanding, -⟩, -⟩ := run_waited hrun
  have hid := houtstanding id
  omega

/-- The accept loops of remote forwards have ended. -/
def Protocol.ForwardsEnded (p : Protocol) (trace : List (ℕ × Event interface)) (c : p.system.Config) : Prop :=
  ∀ j i bind bindHost bindPort forward finish,
    (p.offspring trace)[j]? = some (i, .serveRemoteForward bind bindHost bindPort forward finish) →
      c.Ended (j + 1)

/-- When the connection and its remote forwards have ended, all operations are finished and no more
are begun. -/
theorem operations_settled (hrun : p.system.RunWhen p.Waits p.connection trace c)
    (hended : c.Ended 0) (hforwards : p.ForwardsEnded trace c) :
    (∀ id, trace.countP (finishes id) = trace.countP (begins id)) ∧
      ∀ after c', p.system.Run c after c' → ∀ entry ∈ after, lifecycle.takes entry.2.op = 0 := by
  obtain ⟨states, ⟨houtstanding, hwaited⟩, htracks⟩ := run_waited hrun
  have hsettled := hwaited.settled system_waiting htracks hended fun j i task hj hlicence => by
    cases task with
    | serveRemoteForward bind bindHost bindPort forward finish =>
      exact Or.inr (hforwards j i bind bindHost bindPort forward finish hj)
    | closeWhenDone | proxyAgentForwardConnection | proxyRemoteForwardConnection => exact Or.inl rfl
    | _ => cases hlicence
  refine ⟨fun id => ?_, fun after c' => Run.free_of_settled (system_lifecycle p) system_waiting htracks hsettled⟩
  have hnone : states.sum.count (.operation id) = 0 := Multiset.count_eq_zero.mpr fun hmem => by
    obtain ⟨held, hheld, hoperation⟩ := Ledger.exists_mem_of_mem_sum hmem
    obtain ⟨j, hj⟩ := List.mem_iff_getElem?.mp hheld
    rcases hsettled j held hj with hended | rfl
    · obtain ⟨task, rfl⟩ := htracks.eq_leaves hended hj
      cases task <;> first | cases Multiset.mem_singleton.mp hoperation | cases hoperation
    · cases hoperation
  have hid := houtstanding id
  omega

end Settled

end KubeSsh.PodSsh

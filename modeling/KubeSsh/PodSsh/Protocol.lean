import KubeSsh.Common.HostPort
import KubeSsh.Common.Threads
import KubeSsh.PodSsh.Session

/-!
# `pkg/podssh`: the protocol of a Pod connection

The goroutines of one connection as programs over `Op`: the two loops of `handleConnection` that
hand channels and global requests to the protocol, the request loop of every session channel, the
operation a session starts, and the loops that serve remote and agent forwards. One iteration of a
loop is one `Task`.

What the goroutines share under a mutex is the `ClientState`. All other answers (of the client, of
`begin`, of the backend, of contexts and wait groups) are left open, so a run of `system` can take
every course that a connection can. Logging, stream metrics and the goroutines of the SSH library
that discard requests are left out.
-/

namespace KubeSsh.PodSsh

open SshProtocol CryptoSsh

/-! ## The remote forwards of a connection -/

/-- `clientState` (`client_state.go:11-15`). -/
structure ClientState where
  closed : Bool := false
  remoteForwards : GoMap RemoteForward := ∅

/-- `AddRemoteForward` (`client_state.go:21-32`). -/
def ClientState.addRemoteForward (s : ClientState) (bind : GoString) (forward : RemoteForward) :
    Bool × ClientState :=
  if s.closed then (false, s)
  else if bind ∈ s.remoteForwards then (false, s)
  else (true, { s with remoteForwards := s.remoteForwards.insert bind forward })

/-- `RemoveRemoteForward` (`client_state.go:34-42`). -/
def ClientState.removeRemoteForward (s : ClientState) (bind : GoString) :
    Option RemoteForward × ClientState :=
  (s.remoteForwards.lookup bind, { s with remoteForwards := s.remoteForwards.erase bind })

/-- The critical section of `Close` (`client_state.go:47-57`): the forwards to close. -/
def ClientState.close (s : ClientState) : List RemoteForward × ClientState :=
  if s.closed then ([], s)
  else (s.remoteForwards.entries.map (·.2), { closed := true, remoteForwards := ∅ })

/-! ## Tasks and operations -/

/-- The goroutines, at the start of an iteration. -/
inductive Task
  /-- `for request := range requests` (`gateway/server.go:92-98`). -/
  | serveGlobalRequests
  /-- `for channel := range channels` (`gateway/server.go:99-103`). -/
  | serveChannels
  | handleChannel (channel : NewChannel)
  /-- `context.AfterFunc(s.ctx, …)` (`session_handler.go:91`). -/
  | closeWhenDone (session : ℕ)
  | handleRequests (sess : ServerSession)
  /-- `s.tasks.Go(…)` (`session_handler.go:166`). -/
  | operation (handler : Handler) (sess : ServerSession)
  | serveAgentForward (forward : AgentForward) (finish : Option FinishId)
  | proxyAgentForwardConnection (stream : ℕ)
  | serveRemoteForward (bind bindHost : GoString) (bindPort : UInt32) (forward : RemoteForward)
      (finish : Option FinishId)
  | proxyRemoteForwardConnection (stream : ℕ) (originHost : GoString) (originPort : UInt32)
      (bindHost : GoString) (bindPort : UInt32)

/-- An error of `Accept`, and whether it is `context.Canceled`. -/
structure AcceptError where
  message : Message
  canceled : Bool

/-- A connection that a remote forward accepted: its stream and `backend.RemoteForwardConnInfo`. -/
structure RemoteConn where
  stream : ℕ
  originHost : GoString
  originPort : UInt32

inductive Op
  /-- `go`. -/
  | go (task : Task)
  -- the connection to the client
  | nextGlobalRequest
  | replyGlobal (ok : Bool) (payload : GoString)
  | nextChannel
  | accept (channel : ℕ)
  | reject (channel : ℕ) (reason : RejectionReason) (message : Message)
  | openChannel (channelType payload : GoString)
  | closeConnection
  | waitHandlers
  -- a session channel
  | nextRequest (session : ℕ)
  | reply (session : ℕ) (ok : Bool)
  | write (session : ℕ) (stderr : Bool) (message : Message)
  | sendExitStatus (session : ℕ) (payload : GoString)
  | closeChannel (session : ℕ)
  | cancel (session : ℕ)
  | awaitDone (session : ℕ)
  | stop (session : ℕ)
  | drainWindow (session : ℕ)
  | sendWindow (session : ℕ) (window : Window)
  | closeWindows (session : ℕ)
  | waitTasks (session : ℕ)
  -- the gateway
  | begin (operation : Operation)
  | finish (finish : FinishId) (result : OperationResult)
  | nilCall
  -- the backend and what it returned
  | backend (call : BackendCall)
  | acceptRemote (forward : RemoteForward)
  | cancelRemote (forward : RemoteForward)
  | closeRemote (forward : RemoteForward)
  | acceptAgent (forward : AgentForward)
  | setAgentClosing (forward : AgentForward)
  | agentClosing (forward : AgentForward)
  | closeAgent (forward : AgentForward)
  | closeAgentDone (forward : AgentForward)
  | awaitAgentDone (forward : AgentForward)
  | closeStream (stream : ℕ)
  | proxy (channel stream : ℕ)
  | contextDone
  -- the shared state
  | addRemoteForward (bind : GoString) (forward : RemoteForward)
  | removeRemoteForward (bind : GoString)
  | closeForwards

/-- What the methods of the backend return. -/
def BackendCall.Answer : BackendCall → Type
  | .exec _ | .sftp _ | .scp _ => ℤ × Option Message
  | .portForward _ => Except Message ℕ
  | .remoteForward _ => Except Message RemoteForward
  | .agentForward _ => Except Message AgentForward

/-- What the operations answer. A nil function has no answer: the goroutine panics. -/
def Op.Answer : Op → Type
  | .nextGlobalRequest => Option Request
  | .nextChannel => Option NewChannel
  | .accept _ => Except Message Unit
  | .openChannel _ _ => Except Message ℕ
  | .nextRequest _ => Option Request
  | .reply _ _ => Option Message
  | .begin _ => BeginResult
  | .nilCall => Empty
  | .backend call => call.Answer
  | .acceptRemote _ => Except AcceptError RemoteConn
  | .cancelRemote _ => Option Message
  | .acceptAgent _ => Except AcceptError ℕ
  | .agentClosing _ => Bool
  | .proxy _ _ => Option Message
  | .contextDone => Bool
  | .addRemoteForward _ _ => Bool
  | .removeRemoteForward _ => Option RemoteForward
  | .closeForwards => List RemoteForward
  | _ => Unit

abbrev interface : Interface := ⟨Op, Op.Answer⟩

/-- A program of a goroutine. -/
abbrev Handling (α : Type) := Prog interface α

def perform (op : Op) : Handling op.Answer := Prog.perform (I := interface) op

def nextGlobalRequest : Handling (Option Request) := perform .nextGlobalRequest
def nextChannel : Handling (Option NewChannel) := perform .nextChannel
def accept (channel : ℕ) : Handling (Except Message Unit) := perform (.accept channel)
def openChannel (channelType payload : GoString) : Handling (Except Message ℕ) :=
  perform (.openChannel channelType payload)
def nextRequest (session : ℕ) : Handling (Option Request) := perform (.nextRequest session)
def reply (session : ℕ) (ok : Bool) : Handling (Option Message) := perform (.reply session ok)
def begin (operation : Operation) : Handling BeginResult := perform (.begin operation)
def backend (call : BackendCall) : Handling call.Answer := perform (.backend call)
def acceptRemote (forward : RemoteForward) : Handling (Except AcceptError RemoteConn) :=
  perform (.acceptRemote forward)
def cancelRemote (forward : RemoteForward) : Handling (Option Message) := perform (.cancelRemote forward)
def acceptAgent (forward : AgentForward) : Handling (Except AcceptError ℕ) :=
  perform (.acceptAgent forward)
def agentClosing (forward : AgentForward) : Handling Bool := perform (.agentClosing forward)
def proxy (channel stream : ℕ) : Handling (Option Message) := perform (.proxy channel stream)
def contextDone : Handling Bool := perform .contextDone
def addRemoteForward (bind : GoString) (forward : RemoteForward) : Handling Bool :=
  perform (.addRemoteForward bind forward)
def removeRemoteForward (bind : GoString) : Handling (Option RemoteForward) :=
  perform (.removeRemoteForward bind)
def closeForwards : Handling (List RemoteForward) := perform .closeForwards
def reject (channel : NewChannel) (reason : RejectionReason) (message : Message) : Handling Unit :=
  perform (.reject channel.id reason message)
def go (task : Task) : Handling Unit := perform (.go task)

/-- A call of a `FinishOperation`, which panics if it is nil. -/
def finish : Option FinishId → OperationResult → Handling Unit
  | none, _ => do nomatch ← perform .nilCall
  | some id, result => perform (.finish id result)

/-- `if finish != nil { finish(…) }`. -/
def finishIfAny : Option FinishId → OperationResult → Handling Unit
  | none, _ => return
  | some id, result => perform (.finish id result)

/-! ## Session operations -/

/-- `writeSessionError` (`session.go:90-96`). -/
def writeSessionError (sess : ServerSession) (isPty : Bool) (err : Message) : Handling Unit :=
  perform (.write sess.channel (!isPty) (err ++ .text "\n"))

/-- `runSessionOperation` (`operation.go:11-32`). -/
def runSessionOperation (sess : ServerSession) (operation : Operation) (tty : Bool)
    (execute : Handling (ℤ × Option Message)) : Handling ℤ := do
  let started ← begin operation
  match started.err with
  | some err =>
    finishIfAny started.finish { exitCode := some 1 }
    writeSessionError sess tty err
    return 1
  | none =>
    let (exitCode, execErr) ← execute
    execErr.forM fun err => writeSessionError sess tty err
    finish started.finish { err := execErr, exitCode := some exitCode }
    return exitCode

namespace Protocol

variable (p : Protocol)

/-- `handleSCP` (`session.go:23-36`). -/
def handleSCP (sess : ServerSession) : Handling ℤ :=
  runSessionOperation sess (sessionOperation requestExec sess.rawCmd) false
    (backend (.scp { target := p.target, session := sess.channel, args := (p.command sess).tail }))

/-- `handleSession` (`session.go:13-21`). -/
def handleSession (sess : ServerSession) : Handling ℤ :=
  if sess.requestType = requestExec ∧ isSCPCommand (p.command sess) then p.handleSCP sess
  else
    let (operation, request) := p.resolveSession sess
    runSessionOperation sess operation request.tty (backend (.exec request))

/-- `handleSFTP` (`session.go:159-169`). -/
def handleSFTP (sess : ServerSession) : Handling ℤ :=
  runSessionOperation sess
    { channelType := channelSession, requestType := requestSubsystem, subsystem := subsystemSFTP }
    false (backend (.sftp { target := p.target, session := sess.channel }))

/-- `serverSession.Exit` (`session_handler.go:62-69`), which only the operation calls. -/
def exit (sess : ServerSession) (code : ℤ) : Handling Unit := do
  perform (.sendExitStatus sess.channel (p.codec.marshalUint32 (UInt32.ofInt code)))
  perform (.closeChannel sess.channel)
  perform (.cancel sess.channel)

/-- The goroutine of a started session (`session_handler.go:166`). -/
def operation (handler : Handler) (sess : ServerSession) : Handling Unit := do
  let code ← match handler with
    | .handleSession => p.handleSession sess
    | .handleSFTP => p.handleSFTP sess
  p.exit sess code

/-! ## The request loop of a session -/

/-- `acceptAgentForward` (`agentforward.go:26-46`). -/
def acceptAgentForward : Handling (Option AgentForward) := do
  let started ← begin { channelType := channelSession, requestType := requestAgentForward }
  match started.err with
  | some _ =>
    finishIfAny started.finish {}
    return none
  | none =>
    match ← (backend (.agentForward p.target) : Handling (Except Message AgentForward)) with
    | .error err =>
      finish started.finish { err := some err }
      return none
    | .ok forward =>
      go (.serveAgentForward forward started.finish)
      return some forward

/-- `handleStartRequest` (`session_handler.go:131-167`). -/
def handleStartRequest (sess : ServerSession) (request : Request) : Handling ServerSession := do
  if sess.started then
    let _ ← reply sess.channel false
    return sess
  else
    match p.startRequest request with
    | none =>
      let _ ← reply sess.channel false
      return sess
    | some (handler, command) =>
      let sess := { sess with
        requestType := request.type
        rawCmd := if request.type = requestExec then command else sess.rawCmd
        started := true }
      match ← reply sess.channel true with
      | some _ =>
        perform (.cancel sess.channel)
        return sess
      | none =>
        go (.operation handler sess)
        return sess

/-- `handleEnvRequest` (`session_handler.go:169-177`). -/
def handleEnvRequest (sess : ServerSession) (request : Request) : Handling ServerSession := do
  match if sess.started then none else (p.codec.unmarshalEnv request.payload).toOption with
  | none =>
    let _ ← reply sess.channel false
    return sess
  | some (key, value) =>
    let _ ← reply sess.channel true
    return { sess with env := sess.env ++ [key ++ [Byte.equals] ++ value] }

/-- `handlePTYRequest` (`session_handler.go:179-193`). -/
def handlePTYRequest (sess : ServerSession) (request : Request) : Handling ServerSession := do
  match if sess.started ∨ sess.pty.isSome then none else p.parseSessionPTYRequest request.payload with
  | none =>
    let _ ← reply sess.channel false
    return sess
  | some pty =>
    let _ ← reply sess.channel true
    return { sess with pty := some pty }

/-- `handleWindowChangeRequest` (`session_handler.go:195-211`). -/
def handleWindowChangeRequest (sess : ServerSession) (request : Request) : Handling Unit := do
  match if sess.pty.isNone then none else p.parseSessionWindowChangeRequest request.payload with
  | none =>
    let _ ← reply sess.channel false
  | some window =>
    perform (.drainWindow sess.channel)
    perform (.sendWindow sess.channel window)
    let _ ← reply sess.channel true

/-- `handleAgentForwardRequest` (`session_handler.go:213-223`). -/
def handleAgentForwardRequest (sess : ServerSession) (request : Request) : Handling ServerSession := do
  if sess.started ∨ sess.agentForward.isSome ∨ request.payload ≠ [] then
    let _ ← reply sess.channel false
    return sess
  else
    match ← p.acceptAgentForward with
    | none =>
      let _ ← reply sess.channel false
      return sess
    | some forward =>
      let _ ← reply sess.channel true
      return { sess with agentForward := some forward }

/-- The `switch` of the request loop (`session_handler.go:112-126`). -/
def handleRequest (sess : ServerSession) (request : Request) : Handling ServerSession := do
  if request.type = requestShell ∨ request.type = requestExec ∨ request.type = requestSubsystem then
    p.handleStartRequest sess request
  else if request.type = requestEnvironment then p.handleEnvRequest sess request
  else if request.type = requestPTY then p.handlePTYRequest sess request
  else if request.type = requestWindowChange then
    p.handleWindowChangeRequest sess request
    return sess
  else if request.type = requestAgentForward then p.handleAgentForwardRequest sess request
  else
    let _ ← reply sess.channel false
    return sess

end Protocol

/-- `sessionAgentForward.Close` (`agentforward.go:88-94`), which only the request loop calls. -/
def closeAgentForward (forward : AgentForward) : Handling Unit := do
  perform (.setAgentClosing forward)
  perform (.closeAgent forward)
  perform (.awaitAgentDone forward)

/-- The deferred end of the request loop (`session_handler.go:92-103`); the queue of window sizes
exists if there is a PTY. -/
def endRequests (sess : ServerSession) : Handling Unit := do
  perform (.cancel sess.channel)
  perform (.closeChannel sess.channel)
  perform (.stop sess.channel)
  sess.pty.forM fun _ => perform (.closeWindows sess.channel)
  sess.agentForward.forM closeAgentForward
  perform (.waitTasks sess.channel)

/-- An iteration of `handleRequests` (`session_handler.go:104-128`). The context or the requests may
end first; either ends the loop. -/
def Protocol.handleRequests (p : Protocol) (sess : ServerSession) : Handling (Option Task) := do
  match ← nextRequest sess.channel with
  | none =>
    endRequests sess
    return none
  | some request => return some (.handleRequests (← p.handleRequest sess request))

/-- `context.AfterFunc(s.ctx, func() { _ = s.Channel.Close() })`. -/
def closeWhenDone (session : ℕ) : Handling Unit := do
  perform (.awaitDone session)
  perform (.closeChannel session)

/-- `handleSessionChannel` (`session_handler.go:18-26`), up to the loop. -/
def handleSessionChannel (channel : NewChannel) : Handling (Option Task) := do
  match ← accept channel.id with
  | .error _ => return none
  | .ok _ =>
    go (.closeWhenDone channel.id)
    return some (.handleRequests { channel := channel.id })

/-! ## Forwards -/

/-- `serveAgentForward` (`agentforward.go:48-67`). -/
def serveAgentForward (forward : AgentForward) (finishOp : Option FinishId) :
    Handling (Option Task) := do
  match ← acceptAgent forward with
  | .error err =>
    let ended := (← agentClosing forward) || (← contextDone) || err.canceled
    finish finishOp { err := if ended then none else some err.message }
    perform (.closeAgentDone forward)
    return none
  | .ok stream =>
    go (.proxyAgentForwardConnection stream)
    return some (.serveAgentForward forward finishOp)

/-- `proxyAgentForwardConnection` (`agentforward.go:69-86`). -/
def proxyAgentForwardConnection (stream : ℕ) : Handling Unit := do
  match ← openChannel channelAgent [] with
  | .error _ => perform (.closeStream stream)
  | .ok channel => let _ ← proxy channel stream

/-- `newRemoteForwardBind` (`remotetcpip.go:155-157`). -/
def newRemoteForwardBind (host : GoString) (port : UInt32) : GoString :=
  joinHostPort host (decimal port.toNat)

/-- `serveRemoteForward` (`remotetcpip.go:93-122`). -/
def serveRemoteForward (bind bindHost : GoString) (bindPort : UInt32) (forward : RemoteForward)
    (finishOp : Option FinishId) : Handling (Option Task) := do
  match ← acceptRemote forward with
  | .error err =>
    let ended := (← contextDone) || err.canceled
    let removed ← removeRemoteForward bind
    removed.forM fun current => perform (.closeRemote current)
    finish finishOp
      { err := if ended then none else some err.message, actualBindPort := some bindPort }
    return none
  | .ok conn =>
    go (.proxyRemoteForwardConnection conn.stream conn.originHost conn.originPort bindHost bindPort)
    return some (.serveRemoteForward bind bindHost bindPort forward finishOp)

namespace Protocol

variable (p : Protocol)

/-- `proxyRemoteForwardConnection` (`remotetcpip.go:124-153`). -/
def proxyRemoteForwardConnection (stream : ℕ) (originHost : GoString) (originPort : UInt32)
    (bindHost : GoString) (bindPort : UInt32) : Handling Unit := do
  let payload := p.codec.marshalChannelForward
    { host := bindHost, port := bindPort, originHost, originPort }
  match ← openChannel channelForwardedTCPIP payload with
  | .error _ => perform (.closeStream stream)
  | .ok channel => let _ ← proxy channel stream

/-- `handleDirectTCPIP` (`directtcpip.go:18-70`). -/
def handleDirectTCPIP (channel : NewChannel) : Handling Unit := do
  match p.codec.unmarshalChannelForward channel.extraData with
  | .error err => reject channel .connectionFailed (.text "error parsing direct-tcpip data: " ++ err)
  | .ok data =>
    let started ← begin
      { channelType := channelDirectTCPIP
        destinationHost := data.host
        destinationPort := data.port
        originHost := data.originHost
        originPort := data.originPort }
    match started.err with
    | some err =>
      finishIfAny started.finish {}
      reject channel .prohibited err
    | none =>
      match ← (backend (.portForward { target := p.target, host := data.host, port := data.port }) :
          Handling (Except Message ℕ)) with
      | .error err =>
        finish started.finish { err := some err }
        reject channel .connectionFailed err
      | .ok remote =>
        match ← accept channel.id with
        | .error err =>
          perform (.closeStream remote)
          finish started.finish { err := some err }
        | .ok _ =>
          let proxyErr ← proxy channel.id remote
          finish started.finish { err := proxyErr }

/-- `handleTCPIPForward` (`remotetcpip.go:35-74`). -/
def handleTCPIPForward (request : Request) : Handling (Bool × GoString) := do
  match p.codec.unmarshalGlobalForward request.payload with
  | .error _ => return (false, [])
  | .ok data =>
    let started ← begin
      { requestType := requestTCPIPForward, bindHost := data.host, bindPort := data.port }
    match started.err with
    | some _ =>
      finishIfAny started.finish {}
      return (false, [])
    | none =>
      match ← (backend (.remoteForward
            { target := p.target, bindHost := data.host, bindPort := data.port }) :
          Handling (Except Message RemoteForward)) with
      | .error err =>
        finish started.finish { err := some err }
        return (false, [])
      | .ok forward =>
        let bind := newRemoteForwardBind data.host forward.actualPort
        if ← addRemoteForward bind forward then
          go (.serveRemoteForward bind data.host forward.actualPort forward started.finish)
          return (true, p.codec.marshalUint32 forward.actualPort)
        else
          perform (.closeRemote forward)
          finish started.finish { err := some (.text "remote forward already exists") }
          return (false, [])

/-- `handleCancelTCPIPForward` (`remotetcpip.go:76-91`). -/
def handleCancelTCPIPForward (request : Request) : Handling (Bool × GoString) := do
  match p.codec.unmarshalGlobalForward request.payload with
  | .error _ => return (false, [])
  | .ok data =>
    let removed ← removeRemoteForward (newRemoteForwardBind data.host data.port)
    removed.forM fun forward => do
      let err ← cancelRemote forward
      err.forM fun _ => perform (.closeRemote forward)
    return (true, [])

/-! ## The connection -/

/-- `HandleChannel` (`protocol.go:50-59`). -/
def handleChannel (channel : NewChannel) : Handling (Option Task) := do
  if channel.channelType = channelSession then handleSessionChannel channel
  else if channel.channelType = channelDirectTCPIP then
    p.handleDirectTCPIP channel
    return none
  else
    reject channel .unknownChannelType (.text "unsupported channel type")
    return none

/-- `HandleGlobalRequest` (`protocol.go:62-71`). -/
def handleGlobalRequest (request : Request) : Handling (Bool × GoString) :=
  if request.type = requestTCPIPForward then p.handleTCPIPForward request
  else if request.type = requestCancelTCPIPForward then p.handleCancelTCPIPForward request
  else return (false, [])

/-- The loop over global requests (`gateway/server.go:93-98`). -/
def serveGlobalRequests : Handling (Option Task) := do
  match ← nextGlobalRequest with
  | none => return none
  | some request =>
    let (ok, payload) ← p.handleGlobalRequest request
    perform (.replyGlobal ok payload)
    return some .serveGlobalRequests

end Protocol

/-- `Protocol.Close`, which is `clientState.Close` (`client_state.go:44-62`). -/
def close : Handling Unit := do
  let forwards ← closeForwards
  forwards.forM fun forward => perform (.closeRemote forward)

/-- The loop over channels, and the deferred end of the connection
(`gateway/server.go:68-82,99-103`). -/
def serveChannels : Handling (Option Task) := do
  match ← nextChannel with
  | none =>
    perform .closeConnection
    close
    perform .waitHandlers
    return none
  | some channel =>
    go (.handleChannel channel)
    return some .serveChannels

/-! ## The system -/

/-- The program of a task. -/
def Protocol.code (p : Protocol) : Task → Handling (Option Task)
  | .serveGlobalRequests => p.serveGlobalRequests
  | .serveChannels => serveChannels
  | .handleChannel channel => p.handleChannel channel
  | .closeWhenDone session => do closeWhenDone session; return none
  | .handleRequests sess => p.handleRequests sess
  | .operation handler sess => do p.operation handler sess; return none
  | .serveAgentForward forward finish => serveAgentForward forward finish
  | .proxyAgentForwardConnection stream => do proxyAgentForwardConnection stream; return none
  | .serveRemoteForward bind bindHost bindPort forward finish =>
    serveRemoteForward bind bindHost bindPort forward finish
  | .proxyRemoteForwardConnection stream originHost originPort bindHost bindPort => do
    p.proxyRemoteForwardConnection stream originHost originPort bindHost bindPort
    return none

/-- The critical sections of `clientState` answer from the state and change it; Go iterates over a
map in any order. Nothing else is constrained. -/
def Answers (s : ClientState) : (op : Op) → op.Answer → ClientState → Prop
  | .addRemoteForward bind forward, answer, s' => s.addRemoteForward bind forward = (answer, s')
  | .removeRemoteForward bind, answer, s' => s.removeRemoteForward bind = (answer, s')
  | .closeForwards, answer, s' => s.close.1.Perm answer ∧ s.close.2 = s'
  | _, _, s' => s = s'

/-- The goroutines of a Pod connection. -/
def Protocol.system (p : Protocol) : System interface where
  Task := Task
  code := p.code
  started
    | .go task => [task]
    | _ => []
  World := ClientState
  Answers := Answers

/-- A connection when its loops start. -/
def Protocol.connection (p : Protocol) : p.system.Config :=
  p.system.initial ({} : ClientState) [.serveChannels, .serveGlobalRequests]

end KubeSsh.PodSsh

import KubeSsh.Common.Threads
import KubeSsh.SshProxy.Plan

/-!
# `pkg/sshproxy`: the proxy of an External connection

The goroutines of one proxied connection as programs over `Op`: the two loops of `handleConnection`
that hand channels and global requests of the client to the protocol, the loops over what the
upstream server opens and asks, and for every proxied channel the two loops that forward its
requests. One iteration of a loop is one `Task`.

What the goroutines share under the mutexes of `Protocol`, `proxy` and `proxiedChannel`, and the
`Once` of `connect`, is the `ProxyState`; each critical section is one operation. All other answers
are left open. Both peers are known by their `Side`.
-/

namespace KubeSsh.SshProxy

open SshProtocol CryptoSsh

/-! ## Shared state -/

/-- The progress of `connectOnce`. -/
inductive ConnectOnce
  | notStarted
  | running
  | done
deriving DecidableEq

/-- What the mutex of a `proxiedChannel` guards. -/
structure ChannelState where
  finish : Option FinishId := none
  exitCode : Option ℤ := none

/-- What the goroutines of a connection share. -/
structure ProxyState where
  /-- `Protocol.closed`. -/
  protocolClosed : Bool := false
  /-- `Protocol.proxy` is not nil. -/
  proxyCreated : Bool := false
  /-- `proxy.closed`. -/
  closed : Bool := false
  connectOnce : ConnectOnce := .notStarted
  /-- `proxy.upstream` is not nil. -/
  upstream : Bool := false
  connectErr : Option Message := none
  remoteForwards : GoMap (Option FinishId) := ∅
  agentForward : Option FinishId := none
  /-- The proxied channels, by the number of their upstream channel. -/
  channels : ℕ → ChannelState := fun _ => {}

/-- The text of `context.Canceled`. -/
def contextCanceled : Message := .text "context canceled"

namespace ProxyState

variable (s : ProxyState)

/-- `connectionProxy` (`protocol.go:57-67`): whether there is a proxy. -/
def connectionProxy : Bool × ProxyState :=
  if s.protocolClosed then (false, s) else (true, { s with proxyCreated := true })

/-- The critical section of `Protocol.Close` (`protocol.go:72-76`): whether there was a proxy. -/
def closeProtocol : Bool × ProxyState :=
  (s.proxyCreated, { s with protocolClosed := true, proxyCreated := false })

/-- The critical section of `proxy.close` (`proxy.go:141-157`): `none` if the proxy is closed
already, else whether there is an upstream connection, and the operations to finish. -/
def close : Option (Bool × List (Option FinishId)) × ProxyState :=
  if s.closed then (none, s)
  else
    (some (s.upstream, s.remoteForwards.entries.map (·.2) ++
        (if s.agentForward.isSome then [s.agentForward] else [])),
      { s with closed := true, remoteForwards := ∅, agentForward := none })

/-- The critical section after a failed `Connect` (`proxy.go:170-175`). -/
def setConnectErr (err : Message) : ProxyState := { s with connectErr := some err }

/-- The critical section after a successful `Connect` (`proxy.go:176-183`): whether the connection
is kept. -/
def setUpstream : Bool × ProxyState :=
  if s.closed then (false, { s with connectErr := some contextCanceled })
  else (true, { s with upstream := true })

/-- The critical section of `addRemoteForward` (`proxy.go:470-479`): whether the forward is
recorded. -/
def addRemoteForward (key : GoString) (finish : Option FinishId) : Bool × ProxyState :=
  if s.closed then (false, s)
  else (true, { s with remoteForwards := s.remoteForwards.insert key finish })

/-- The critical section of `removeRemoteForward` (`proxy.go:481-487`). -/
def removeRemoteForward (key : GoString) : Option FinishId × ProxyState :=
  ((s.remoteForwards.lookup key).join, { s with remoteForwards := s.remoteForwards.erase key })

/-- The critical section of `setAgentForward` (`proxy.go:496-507`): `none` if the proxy is closed,
else the previous agent forward. -/
def setAgentForward (finish : Option FinishId) : Option (Option FinishId) × ProxyState :=
  if s.closed then (none, s) else (some s.agentForward, { s with agentForward := finish })

/-- The state with another state of a proxied channel. -/
def setChannel (channel : ℕ) (state : ChannelState) : ProxyState :=
  { s with channels := Function.update s.channels channel state }

/-- The critical section of `recordExitStatus` (`proxy.go:385-387`). -/
def recordExitStatus (channel : ℕ) (code : ℤ) : ProxyState :=
  s.setChannel channel { s.channels channel with exitCode := some code }

/-- The critical section of `replaceFinish` (`proxy.go:443-446`): the previous operation. -/
def replaceFinish (channel : ℕ) (finish : Option FinishId) : Option FinishId × ProxyState :=
  ((s.channels channel).finish, s.setChannel channel { s.channels channel with finish })

/-- The critical section at the end of `serve` (`proxy.go:306-309`). -/
def takeFinish (channel : ℕ) : ChannelState × ProxyState :=
  (s.channels channel, s.setChannel channel { s.channels channel with finish := none })

end ProxyState

/-! ## Tasks and operations -/

/-- The two peers of the proxy: the client is downstream. -/
inductive Side
  | downstream
  | upstream
deriving DecidableEq

/-- `proxiedChannel` (`proxy.go:280-290`): the numbers of its two channels. -/
structure ProxiedChannel where
  downstream : ℕ
  upstream : ℕ
  terminalRequest : Bool

def ProxiedChannel.on (c : ProxiedChannel) : Side → ℕ
  | .downstream => c.downstream
  | .upstream => c.upstream

/-- An error of `OpenChannel`. -/
inductive OpenError
  /-- `*cryptossh.OpenChannelError`. -/
  | openChannelError (reason : RejectionReason) (message : Message)
  | other (message : Message)

/-- The text of the error. -/
def OpenError.message : OpenError → Message
  | .openChannelError _ message => message
  | .other message => message

/-- The goroutines, at the start of an iteration. -/
inductive Task
  /-- `for request := range requests` (`gateway/server.go:93-98`). -/
  | serveGlobalRequests
  /-- `for channel := range channels` (`gateway/server.go:99-103`). -/
  | serveChannels
  | handleChannel (channel : NewChannel)
  | serveUpstreamChannels
  | serveUpstreamRequests
  /-- The goroutine that waits for the end of the upstream connection (`proxy.go:186-189`). -/
  | waitUpstream
  | serve (c : ProxiedChannel)
  /-- `forwardRequests` for the requests that come from a side. -/
  | forwardRequests (c : ProxiedChannel) (source : Side)
  /-- `copyExtended` to a side. -/
  | copyExtended (c : ProxiedChannel) (destination : Side)

inductive Op
  /-- `go`. -/
  | go (task : Task)
  -- the connections
  | nextChannel (source : Side)
  | nextGlobalRequest (source : Side)
  | replyGlobal (source : Side) (ok : Bool) (payload : GoString)
  | accept (source : Side) (channel : ℕ)
  | reject (source : Side) (channel : ℕ) (reason : RejectionReason) (message : Message)
  | openChannel (destination : Side) (channelType extraData : GoString)
  | sendGlobal (destination : Side) (request : Request)
  | closeConn (side : Side)
  | connect (target : Target)
  | waitUpstream
  | waitHandlers
  -- a proxied channel
  | nextRequest (source : Side) (channel : ℕ)
  | sendRequest (destination : Side) (channel : ℕ) (request : Request)
  | reply (source : Side) (channel : ℕ) (ok : Bool)
  | closeChannel (side : Side) (channel : ℕ)
  | copyExtended (c : ProxiedChannel) (destination : Side)
  | requestsForwarded (c : ProxiedChannel)
  | proxy (c : ProxiedChannel)
  -- the gateway
  | begin (operation : Operation)
  | finish (finish : FinishId) (result : OperationResult)
  | nilCall
  -- the shared state
  | connectionProxy
  | closeProtocol
  | connectOnce
  | connectDone
  | setConnectErr (err : Message)
  | setUpstream
  | connection
  | close
  | hasRemoteForward (key : GoString)
  | addRemoteForward (key : GoString) (finish : Option FinishId)
  | removeRemoteForward (key : GoString)
  | hasAgentForward
  | setAgentForward (finish : Option FinishId)
  | newProxiedChannel (c : ProxiedChannel) (finish : Option FinishId)
  | recordExitStatus (c : ProxiedChannel) (code : ℤ)
  | replaceFinish (c : ProxiedChannel) (finish : Option FinishId)
  | takeFinish (c : ProxiedChannel)

/-- What the operations answer. A nil function has no answer: the goroutine panics. -/
def Op.Answer : Op → Type
  | .nextChannel _ => Option NewChannel
  | .nextGlobalRequest _ => Option Request
  | .accept _ _ => Except Message Unit
  | .openChannel _ _ _ => Except OpenError ℕ
  | .sendGlobal _ _ => Except Message (Bool × GoString)
  | .connect _ => Except Message Unit
  | .nextRequest _ _ => Option Request
  | .sendRequest _ _ _ => Except Message Bool
  | .proxy _ => Option Message
  | .begin _ => BeginResult
  | .nilCall => Empty
  | .connectionProxy => Bool
  | .closeProtocol => Bool
  | .connectOnce => Bool
  | .setUpstream => Bool
  | .connection => Option Message
  | .close => Option (Bool × List (Option FinishId))
  | .hasRemoteForward _ => Bool
  | .addRemoteForward _ _ => Bool
  | .removeRemoteForward _ => Option FinishId
  | .hasAgentForward => Bool
  | .setAgentForward _ => Option (Option FinishId)
  | .replaceFinish _ _ => Option FinishId
  | .takeFinish _ => ChannelState
  | _ => Unit

abbrev interface : Interface := ⟨Op, Op.Answer⟩

/-- A program of a goroutine. -/
abbrev Handling (α : Type) := Prog interface α

def perform (op : Op) : Handling op.Answer := Prog.perform (I := interface) op

def nextChannel (source : Side) : Handling (Option NewChannel) := perform (.nextChannel source)
def nextGlobalRequest (source : Side) : Handling (Option Request) :=
  perform (.nextGlobalRequest source)
def accept (source : Side) (channel : ℕ) : Handling (Except Message Unit) :=
  perform (.accept source channel)
def reject (source : Side) (channel : NewChannel) (reason : RejectionReason) (message : Message) :
    Handling Unit :=
  perform (.reject source channel.id reason message)
def openChannel (destination : Side) (channelType extraData : GoString) :
    Handling (Except OpenError ℕ) :=
  perform (.openChannel destination channelType extraData)
def sendGlobal (destination : Side) (request : Request) : Handling (Except Message (Bool × GoString)) :=
  perform (.sendGlobal destination request)
def nextRequest (source : Side) (channel : ℕ) : Handling (Option Request) :=
  perform (.nextRequest source channel)
def sendRequest (destination : Side) (channel : ℕ) (request : Request) :
    Handling (Except Message Bool) :=
  perform (.sendRequest destination channel request)
def reply (source : Side) (channel : ℕ) (ok : Bool) : Handling Unit :=
  perform (.reply source channel ok)
def replyGlobal (source : Side) (ok : Bool) (payload : GoString) : Handling Unit :=
  perform (.replyGlobal source ok payload)
def proxy (c : ProxiedChannel) : Handling (Option Message) := perform (.proxy c)
def begin (operation : Operation) : Handling BeginResult := perform (.begin operation)
def connectionProxy : Handling Bool := perform .connectionProxy
def closeProtocol : Handling Bool := perform .closeProtocol
def connectTo (target : Target) : Handling (Except Message Unit) := perform (.connect target)
def connectOnce : Handling Bool := perform .connectOnce
def setUpstream : Handling Bool := perform .setUpstream
def connection : Handling (Option Message) := perform .connection
def closeState : Handling (Option (Bool × List (Option FinishId))) := perform .close
def hasRemoteForward (key : GoString) : Handling Bool := perform (.hasRemoteForward key)
def recordForward (key : GoString) (finishOp : Option FinishId) : Handling Bool :=
  perform (.addRemoteForward key finishOp)
def takeForward (key : GoString) : Handling (Option FinishId) := perform (.removeRemoteForward key)
def hasAgentForward : Handling Bool := perform .hasAgentForward
def recordAgentForward (finishOp : Option FinishId) : Handling (Option (Option FinishId)) :=
  perform (.setAgentForward finishOp)
def swapFinish (c : ProxiedChannel) (finishOp : Option FinishId) : Handling (Option FinishId) :=
  perform (.replaceFinish c finishOp)
def takeFinish (c : ProxiedChannel) : Handling ChannelState := perform (.takeFinish c)
def go (task : Task) : Handling Unit := perform (.go task)

/-- `proxy.finish` (`proxy.go:452-456`). -/
def finish : Option FinishId → OperationResult → Handling Unit
  | none, _ => return
  | some id, result => perform (.finish id result)

/-- A direct call of a `FinishOperation`, which panics if it is nil. -/
def callFinish : Option FinishId → OperationResult → Handling Unit
  | none, _ => do nomatch ← perform .nilCall
  | some id, result => perform (.finish id result)

/-- `beginOperation` (`proxy.go:458-468`). -/
def beginOperation : Option Operation → Handling (Except Message (Option FinishId))
  | none => return .ok none
  | some operation => do
    let started ← begin operation
    match started.err with
    | some err =>
      finish started.finish {}
      return .error err
    | none => return .ok started.finish

/-! ## The upstream connection and the recorded operations -/

/-- `proxy.close` (`proxy.go:140-165`). -/
def close : Handling Unit := do
  match ← closeState with
  | none => return
  | some (upstream, finishes) =>
    (if upstream then some () else none).forM fun _ => perform (.closeConn .upstream)
    perform (.closeConn .downstream)
    finishes.forM fun finishOp => callFinish finishOp { err := some contextCanceled }

/-- What the `Once` of `connect` runs (`proxy.go:169-189`). -/
def connectUpstream (target : Target) : Handling Unit := do
  match ← connectTo target with
  | .error err => perform (.setConnectErr err)
  | .ok _ =>
    if ← setUpstream then
      go .serveUpstreamChannels
      go .serveUpstreamRequests
      go .waitUpstream
    else perform (.closeConn .upstream)

/-- `connect` (`proxy.go:167-194`): its error. The first caller connects, the others wait for it. -/
def connect (target : Target) : Handling (Option Message) := do
  if ← connectOnce then
    connectUpstream target
    perform .connectDone
    connection
  else connection

/-- `addRemoteForward` (`proxy.go:470-479`). -/
def addRemoteForward (key : GoString) (finishOp : Option FinishId) : Handling Unit := do
  if ← recordForward key finishOp then return
  else finish finishOp { err := some contextCanceled }

/-- `removeRemoteForward` (`proxy.go:481-487`). -/
def removeRemoteForward (key : GoString) (result : OperationResult) : Handling Unit := do
  let finishOp ← takeForward key
  finish finishOp result

/-- `setAgentForward` (`proxy.go:496-507`). -/
def setAgentForward (finishOp : Option FinishId) : Handling Unit := do
  match ← recordAgentForward finishOp with
  | none => finish finishOp { err := some contextCanceled }
  | some previous =>
    finish previous { err := some (.text "agent forwarding was requested more than once") }

/-- `replaceFinish` (`proxy.go:442-450`). -/
def replaceFinish (c : ProxiedChannel) (finishOp : Option FinishId) : Handling Unit := do
  let previous ← swapFinish c finishOp
  finish previous
    { err := some (.text "another session operation started on the same channel") }

/-! ## Channels -/

/-- The start of a proxied channel (`proxy.go:84-91`). -/
def startChannel (c : ProxiedChannel) (finishOp : Option FinishId) : Handling Unit := do
  perform (.newProxiedChannel c finishOp)
  go (.serve c)

/-- `serve` (`proxy.go:292-311`). -/
def serve (c : ProxiedChannel) : Handling Unit := do
  go (.forwardRequests c .downstream)
  go (.forwardRequests c .upstream)
  go (.copyExtended c .downstream)
  go (.copyExtended c .upstream)
  let proxyErr ← proxy c
  let state ← takeFinish c
  finish state.finish { err := proxyErr, exitCode := state.exitCode }

/-- What is done with the operation of a request that was sent (`proxy.go:337-351`). -/
def settleRequest (c : ProxiedChannel) (request : Request) (effect : DownstreamRequestEffect)
    (finishOp : Option FinishId) (sent : Except Message Bool) : Handling Unit :=
  if finishOp.isNone then return
  else match sent with
    | .error err => finish finishOp { err := some err }
    | .ok ok =>
      if request.wantReply ∧ ¬ ok then
        finish finishOp { err := some (.text "upstream rejected " ++ .ofString request.type) }
      else match effect with
        | .agentForward => setAgentForward finishOp
        | .session => replaceFinish c finishOp
        | .none => finish finishOp {}

/-- A reply, if the peer wants one. -/
def replyIfWanted (source : Side) (channel : ℕ) (request : Request) (ok : Bool) : Handling Unit :=
  if request.wantReply then reply source channel ok else return

namespace Protocol

variable (p : Protocol)

/-- `recordExitStatus` (`proxy.go:379-388`). -/
def recordExitStatus (c : ProxiedChannel) (payload : GoString) : Handling Unit :=
  match p.codec.unmarshalUint32 payload with
  | .error _ => return
  | .ok status => perform (.recordExitStatus c status.toNat)

/-- An iteration of `forwardRequests` for a request of the client (`proxy.go:317-330,336-358`). -/
def forwardDownstreamRequest (c : ProxiedChannel) (request : Request) : Handling Unit := do
  match p.planDownstreamRequest request with
  | .error _ => replyIfWanted .downstream c.downstream request false
  | .ok plan =>
    match ← beginOperation plan.operation with
    | .error _ => replyIfWanted .downstream c.downstream request false
    | .ok finishOp =>
      let sent ← sendRequest .upstream c.upstream request
      settleRequest c request plan.effect finishOp sent
      replyIfWanted .downstream c.downstream request (sent.toOption.getD false)

/-- An iteration of `forwardRequests` for a request of the upstream server (`proxy.go:332-362`):
whether the loop goes on. -/
def forwardUpstreamRequest (c : ProxiedChannel) (request : Request) : Handling Bool := do
  (if request.type = requestExitStatus then some request.payload else none).forM (p.recordExitStatus c)
  let sent ← sendRequest .downstream c.downstream request
  replyIfWanted .upstream c.upstream request (sent.toOption.getD false)
  return request.type ≠ requestExitStatus ∧ request.type ≠ requestExitSignal

/-- `forwardRequests` (`proxy.go:313-364`). The end of the requests of the upstream server is
signalled (`proxy.go:297`). -/
def forwardRequests (c : ProxiedChannel) (source : Side) : Handling (Option Task) := do
  match source, ← nextRequest source (c.on source) with
  | .downstream, none => return none
  | .downstream, some request =>
    p.forwardDownstreamRequest c request
    return some (.forwardRequests c .downstream)
  | .upstream, none =>
    perform (.requestsForwarded c)
    return none
  | .upstream, some request =>
    if ← p.forwardUpstreamRequest c request then return some (.forwardRequests c .upstream)
    else
      perform (.requestsForwarded c)
      return none

/-- The rejection of a channel that the upstream server did not open (`proxy.go:67-75`). -/
def rejectUnopened (channel : NewChannel) : OpenError → Handling Unit
  | .openChannelError reason message => reject .downstream channel reason message
  | .other _ => reject .downstream channel .connectionFailed (.text "upstream rejected channel")

/-- `handleChannel` (`proxy.go:48-91`). -/
def handleChannel (channel : NewChannel) : Handling Unit := do
  match p.parseChannelOperation channel.channelType channel.extraData with
  | .error err => reject .downstream channel .connectionFailed err
  | .ok operation =>
    match ← beginOperation operation with
    | .error err => reject .downstream channel .prohibited err
    | .ok finishOp =>
      match ← connect p.target with
      | some err =>
        finish finishOp { err := some err }
        reject .downstream channel .connectionFailed (.text "upstream SSH connection failed")
        close
      | none =>
        match ← openChannel .upstream channel.channelType channel.extraData with
        | .error err =>
          finish finishOp { err := some err.message }
          rejectUnopened channel err
        | .ok upstream =>
          match ← accept .downstream channel.id with
          | .error err =>
            perform (.closeChannel .upstream upstream)
            finish finishOp { err := some err }
          | .ok _ =>
            let terminalRequest := channel.channelType = channelSession
            startChannel { downstream := channel.id, upstream, terminalRequest } finishOp

/-! ## Global requests -/

/-- What is done with a request that the upstream server accepted (`proxy.go:128-135`). -/
def settleGlobalRequest (request : Request) (plan : GlobalRequestPlan) (finishOp : Option FinishId)
    (payload : GoString) : Handling Unit :=
  if request.type = requestTCPIPForward then
    addRemoteForward (p.actualRemoteForwardKey plan.forwardKey payload) finishOp
  else if request.type = requestCancelTCPIPForward then do
    removeRemoteForward plan.forwardKey {}
    finish finishOp {}
  else finish finishOp {}

/-- The part of `handleRequest` from `connect` on (`proxy.go:112-136`). -/
def forwardGlobalRequest (request : Request) (plan : GlobalRequestPlan)
    (finishOp : Option FinishId) : Handling (Bool × GoString) := do
  match ← connect p.target with
  | some err =>
    finish finishOp { err := some err }
    close
    return (false, [])
  | none =>
    match ← sendGlobal .upstream request with
    | .error err =>
      finish finishOp { err := some err }
      return (false, [])
    | .ok (ok, payload) =>
      if request.wantReply ∧ ¬ ok then
        finish finishOp { err := some (.text "upstream rejected " ++ .ofString request.type) }
        return (false, payload)
      else
        p.settleGlobalRequest request plan finishOp payload
        return (!request.wantReply || ok, payload)

/-- `handleRequest` (`proxy.go:94-137`). -/
def handleRequest (request : Request) : Handling (Bool × GoString) := do
  match p.planGlobalRequest request.type request.payload with
  | .error _ => return (false, [])
  | .ok plan =>
    match ← beginOperation plan.operation with
    | .error _ => return (false, [])
    | .ok finishOp =>
      if request.type = requestTCPIPForward then
        if ← hasRemoteForward plan.forwardKey then
          finish finishOp { err := some (.text "remote forward already exists") }
          return (false, [])
        else p.forwardGlobalRequest request plan finishOp
      else if request.type = requestCancelTCPIPForward then
        if ← hasRemoteForward plan.forwardKey then p.forwardGlobalRequest request plan finishOp
        else return (false, [])
      else p.forwardGlobalRequest request plan finishOp

/-! ## What the upstream server opens and asks -/

/-- `operationForUpstreamChannel` (`proxy.go:231-252`). -/
def operationForUpstreamChannel (channel : NewChannel) :
    Handling (Except Message (Option Operation)) := do
  if channel.channelType = channelForwardedTCPIP then
    match p.codec.unmarshalChannelForward channel.extraData with
    | .error err => return .error (.text "parse forwarded-tcpip channel: " ++ err)
    | .ok data =>
      if ← hasRemoteForward (joinHostPort data.host (decimal data.port.toNat)) then return .ok none
      else return .error (.text "forwarded-tcpip channel has no authorized remote forward")
  else if channel.channelType = channelAgent then
    if ← hasAgentForward then return .ok none
    else return .error (.text "agent forwarding was not authorized")
  else return .ok (some { channelType := channel.channelType })

/-- The body of the loop of `serveUpstreamChannels` (`proxy.go:198-228`). -/
def handleUpstreamChannel (channel : NewChannel) : Handling Unit := do
  match ← p.operationForUpstreamChannel channel with
  | .error err => reject .upstream channel .prohibited err
  | .ok operation =>
    match ← beginOperation operation with
    | .error err => reject .upstream channel .prohibited err
    | .ok finishOp =>
      match ← openChannel .downstream channel.channelType channel.extraData with
      | .error err =>
        finish finishOp { err := some err.message }
        reject .upstream channel .connectionFailed (.text "downstream rejected channel")
      | .ok downstream =>
        match ← accept .upstream channel.id with
        | .error err =>
          perform (.closeChannel .downstream downstream)
          finish finishOp { err := some err }
        | .ok _ =>
          let terminalRequest := channel.channelType = channelSession
          startChannel { downstream, upstream := channel.id, terminalRequest } finishOp

/-- `serveUpstreamChannels` (`proxy.go:196-229`). -/
def serveUpstreamChannels : Handling (Option Task) := do
  match ← nextChannel .upstream with
  | none => return none
  | some channel =>
    p.handleUpstreamChannel channel
    return some .serveUpstreamChannels

end Protocol

/-- A reply to a global request of the upstream server, if it wants one. -/
def replyGlobalIfWanted (request : Request) (ok : Bool) (payload : GoString) : Handling Unit :=
  if request.wantReply then replyGlobal .upstream ok payload else return

/-- The body of the loop of `serveUpstreamRequests` (`proxy.go:256-276`). -/
def handleUpstreamRequest (request : Request) : Handling Unit := do
  let operation : Option Operation :=
    if request.type ≠ requestKeepalive ∧ request.type ≠ requestNoMoreSessions then
      some { requestType := request.type }
    else none
  match ← beginOperation operation with
  | .error _ => replyGlobalIfWanted request false []
  | .ok finishOp =>
    match ← sendGlobal .downstream request with
    | .error err =>
      finish finishOp { err := some err }
      replyGlobalIfWanted request false []
    | .ok (ok, payload) =>
      finish finishOp {}
      replyGlobalIfWanted request ok payload

/-- `serveUpstreamRequests` (`proxy.go:254-278`). -/
def serveUpstreamRequests : Handling (Option Task) := do
  match ← nextGlobalRequest .upstream with
  | none => return none
  | some request =>
    handleUpstreamRequest request
    return some .serveUpstreamRequests

/-- The goroutine that waits for the end of the upstream connection (`proxy.go:186-189`). -/
def waitUpstream : Handling Unit := do
  perform .waitUpstream
  close

/-! ## The connection -/

/-- `Protocol.HandleChannel` (`protocol.go:39-46`). -/
def Protocol.handleNewChannel (p : Protocol) (channel : NewChannel) : Handling Unit := do
  if ← connectionProxy then p.handleChannel channel
  else reject .downstream channel .connectionFailed (.text "SSH connection is closed")

/-- `Protocol.HandleGlobalRequest` (`protocol.go:49-55`). -/
def Protocol.handleGlobalRequest (p : Protocol) (request : Request) : Handling (Bool × GoString) := do
  if ← connectionProxy then p.handleRequest request else return (false, [])

/-- The loop over global requests (`gateway/server.go:93-98`). -/
def Protocol.serveGlobalRequests (p : Protocol) : Handling (Option Task) := do
  match ← nextGlobalRequest .downstream with
  | none => return none
  | some request =>
    let (ok, payload) ← p.handleGlobalRequest request
    replyGlobal .downstream ok payload
    return some .serveGlobalRequests

/-- `Protocol.Close` (`protocol.go:71-79`). -/
def closeConnection : Handling Unit := do
  if ← closeProtocol then close else return

/-- The loop over channels, and the deferred end of the connection
(`gateway/server.go:68-82,99-103`). -/
def serveChannels : Handling (Option Task) := do
  match ← nextChannel .downstream with
  | none =>
    perform (.closeConn .downstream)
    closeConnection
    perform .waitHandlers
    return none
  | some channel =>
    go (.handleChannel channel)
    return some .serveChannels

/-! ## The system -/

/-- The program of a task. -/
def Protocol.code (p : Protocol) : Task → Handling (Option Task)
  | .serveGlobalRequests => p.serveGlobalRequests
  | .serveChannels => serveChannels
  | .handleChannel channel => do p.handleNewChannel channel; return none
  | .serveUpstreamChannels => p.serveUpstreamChannels
  | .serveUpstreamRequests => serveUpstreamRequests
  | .waitUpstream => do waitUpstream; return none
  | .serve c => do serve c; return none
  | .forwardRequests c source => p.forwardRequests c source
  | .copyExtended c destination => do perform (.copyExtended c destination); return none

/-- The critical sections answer from the shared state and change it; Go iterates over a map in any
order. `connectOnce` admits one caller and lets the others pass when that one is done. Nothing else
is constrained. -/
def Answers (s : ProxyState) : (op : Op) → op.Answer → ProxyState → Prop
  | .connectionProxy, answer, s' => s.connectionProxy = (answer, s')
  | .closeProtocol, answer, s' => s.closeProtocol = (answer, s')
  | .connectOnce, answer, s' =>
    answer = true ∧ s.connectOnce = .notStarted ∧ s' = { s with connectOnce := .running } ∨
      answer = false ∧ s.connectOnce = .done ∧ s' = s
  | .connectDone, _, s' => s' = { s with connectOnce := .done }
  | .setConnectErr err, _, s' => s' = s.setConnectErr err
  | .setUpstream, answer, s' => s.setUpstream = (answer, s')
  | .connection, answer, s' => answer = s.connectErr ∧ s' = s
  | .close, answer, s' =>
    s' = s.close.2 ∧ match s.close.1, answer with
      | some (upstream, finishes), some (upstream', finishes') =>
        upstream = upstream' ∧ finishes.Perm finishes'
      | none, none => True
      | _, _ => False
  | .hasRemoteForward key, answer, s' => answer = decide (key ∈ s.remoteForwards) ∧ s' = s
  | .addRemoteForward key finish, answer, s' => s.addRemoteForward key finish = (answer, s')
  | .removeRemoteForward key, answer, s' => s.removeRemoteForward key = (answer, s')
  | .hasAgentForward, answer, s' => answer = s.agentForward.isSome ∧ s' = s
  | .setAgentForward finish, answer, s' => s.setAgentForward finish = (answer, s')
  | .newProxiedChannel c finish, _, s' => s' = s.setChannel c.upstream { finish }
  | .recordExitStatus c code, _, s' => s' = s.recordExitStatus c.upstream code
  | .replaceFinish c finish, answer, s' => s.replaceFinish c.upstream finish = (answer, s')
  | .takeFinish c, answer, s' => s.takeFinish c.upstream = (answer, s')
  | _, _, s' => s' = s

/-- The goroutines of a proxied connection. -/
def Protocol.system (p : Protocol) : System interface where
  Task := Task
  code := p.code
  started
    | .go task => [task]
    | _ => []
  World := ProxyState
  Answers := Answers

/-- A connection when its loops start. -/
def Protocol.connection (p : Protocol) : p.system.Config :=
  p.system.initial ({} : ProxyState) [.serveChannels, .serveGlobalRequests]

end KubeSsh.SshProxy

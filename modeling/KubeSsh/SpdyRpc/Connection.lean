import KubeSsh.Common.GoString
import KubeSsh.Common.Threads

/-!
# `pkg/spdyrpc`: the lifecycle of a connection

A connection is new, serving, closing or closed. The calls of `Register`, `Serve`, `Go` and `Close`
and the streams of the peer are goroutines over its state, its handlers and the wait group of its
work; a critical section of its mutex is one operation. What the peer, the handlers and the
functions of `Go` do is left open, and so is the parent context.

`newSPDYStream` runs in a goroutine of its own for each stream, which is more than the workers of
the SPDY library allow. Left out are `Call` and `CreateStream`, which read nothing of this state,
and the table of the stream handlers.
-/

namespace KubeSsh.SpdyRpc

/-! ## Operations -/

/-- `connectionState`. -/
inductive ConnectionState
  | new
  | serving
  | closing
  | closed
deriving DecidableEq

/-- A handler as `Register` gets it: nil, a nil `HandlerFunc`, or one that can be called. -/
inductive Handler
  | nil
  | nilFunc
  | handler (id : ℕ)

/-- A stream of the peer, with its `StreamTypeHeader`. -/
structure Stream where
  id : ℕ
  streamType : GoString
deriving DecidableEq

/-- What ends the `select` of `Serve`, with the error of the context then. -/
inductive Stop
  | contextDone (err : Message)
  | connectionClosed (err : Option Message)
  | fatal (err : Message)

/-- What the decoder makes of the request on a stream. -/
inductive Decoded
  | request (method payload : GoString)
  | eof
  | failed (err : Message)

/-- What a handler returned: an error, or a value with the result of its encoding. -/
inductive Handled
  | failed (err : Message)
  | value (encoded : Except Message GoString)

/-- `rpcResponse`. -/
inductive Response
  | ok (payload : GoString)
  | error (err : Message)
deriving DecidableEq

/-- A function that the connection waits for: one of `Go`, or a handler of an RPC. -/
inductive Job
  | run (f : ℕ)
  | handle (handler : ℕ)
deriving DecidableEq

inductive Op
  /-- `Register` under the mutex (`connection.go:124-133`). -/
  | register (method : GoString) (handler : ℕ)
  /-- `Serve` under the mutex (`connection.go:206-212`): whether the connection was new. -/
  | beginServe
  /-- `go s.spdyConn.Serve(s.newSPDYStream)`. -/
  | goServeSPDY
  /-- `select` (`connection.go:217-223`). -/
  | awaitStop
  /-- `shutdown` under the mutex (`connection.go:282-288`): whether it entered the closing state. -/
  | beginShutdown
  | cancel
  | closeTransport
  /-- `work.Wait`. -/
  | waitWork
  /-- `s.state = connectionClosed` (`connection.go:227-229`). -/
  | setClosed
  /-- The return of `Serve` from serving. -/
  | served (err : Option Message)
  | beginWork
  /-- `go func()` of `Go` (`connection.go:243`). -/
  | goRun (f : ℕ)
  /-- A function is called, and returns. -/
  | jobBegin (job : Job)
  | jobEnd (job : Job)
  /-- `fail`: a send on `fatal` that does not block. -/
  | fail (err : Message)
  | workDone
  /-- The next stream of the peer. -/
  | accept
  | goStream (stream : Stream)
  | reset (stream : Stream)
  | sendReply (stream : Stream)
  | goServeRPC (stream : Stream)
  | decode (stream : Stream)
  /-- `s.handlers[request.Method]`, without the mutex. -/
  | lookup (method : GoString)
  | encode (stream : Stream) (response : Response)
  | closeStream (stream : Stream)
  /-- `s.streamHandlers[streamType]`. -/
  | lookupStream (streamType : GoString)
  /-- A stream handler is called, and returns. -/
  | handleStream (handler : ℕ) (stream : Stream)
  | returned (err : Option Message)

/-- What a function returned. -/
def Job.Result : Job → Type
  | .run _ => Option Message
  | .handle _ => Handled

def Op.Answer : Op → Type
  | .register _ _ => Option Message
  | .beginServe | .beginShutdown | .beginWork => Bool
  | .awaitStop => Stop
  | .jobEnd job => job.Result
  | .accept => Option Stream
  | .sendReply _ => Option Message
  | .decode _ => Decoded
  | .lookup _ => Option ℕ
  | .lookupStream _ => Option ℕ
  | .handleStream _ _ => Option Message
  | _ => Unit

abbrev interface : Interface := ⟨Op, Op.Answer⟩

/-- A program of a goroutine. -/
abbrev Calling (α : Type) := Prog interface α

def perform (op : Op) : Calling op.Answer := Prog.perform (I := interface) op

def registerLocked (method : GoString) (handler : ℕ) : Calling (Option Message) :=
  perform (.register method handler)
def beginServe : Calling Bool := perform .beginServe
def goServeSPDY : Calling Unit := perform .goServeSPDY
def awaitStop : Calling Stop := perform .awaitStop
def beginShutdown : Calling Bool := perform .beginShutdown
def cancel : Calling Unit := perform .cancel
def closeTransport : Calling Unit := perform .closeTransport
def waitWork : Calling Unit := perform .waitWork
def setClosed : Calling Unit := perform .setClosed
def served (err : Option Message) : Calling Unit := perform (.served err)
def beginWork : Calling Bool := perform .beginWork
def goRun (f : ℕ) : Calling Unit := perform (.goRun f)
def jobBegin (job : Job) : Calling Unit := perform (.jobBegin job)
def jobEnd (job : Job) : Calling job.Result := perform (.jobEnd job)
def fail (err : Message) : Calling Unit := perform (.fail err)
def workDone : Calling Unit := perform .workDone
def accept : Calling (Option Stream) := perform .accept
def goStream (stream : Stream) : Calling Unit := perform (.goStream stream)
def reset (stream : Stream) : Calling Unit := perform (.reset stream)
def sendReply (stream : Stream) : Calling (Option Message) := perform (.sendReply stream)
def goServeRPC (stream : Stream) : Calling Unit := perform (.goServeRPC stream)
def decode (stream : Stream) : Calling Decoded := perform (.decode stream)
def lookup (method : GoString) : Calling (Option ℕ) := perform (.lookup method)
def encode (stream : Stream) (response : Response) : Calling Unit := perform (.encode stream response)
def closeStream (stream : Stream) : Calling Unit := perform (.closeStream stream)
def lookupStream (streamType : GoString) : Calling (Option ℕ) := perform (.lookupStream streamType)
def handleStream (handler : ℕ) (stream : Stream) : Calling (Option Message) :=
  perform (.handleStream handler stream)
def returned (err : Option Message) : Calling Unit := perform (.returned err)

/-! ## The methods of `Connection` -/

/-- `ErrConnectionClosed` and `ErrConnectionStarted` (`connection.go:20-21`). -/
def errConnectionClosed : Message := .text "connection closed"
def errConnectionStarted : Message := .text "connection already started"

/-- `StreamTypeControl`. -/
def streamTypeControl : GoString := str "Control"

/-- `Register` (`connection.go:114-134`). -/
def register (method : GoString) (handler : Handler) : Calling Unit :=
  if method = [] then returned (some (.text "RPC method is required"))
  else match handler with
    | .nil | .nilFunc =>
      returned (some [.bytes (str "RPC handler for "), .quoted method, .bytes (str " is nil")])
    | .handler id => do
      let err ← registerLocked method id
      returned err

/-- `shutdown` (`connection.go:281-293`). -/
def shutdown : Calling Unit := do
  if ← beginShutdown then
    cancel
    closeTransport

/-- What `Serve` returns after it was stopped. -/
def Stop.err : Stop → Option Message
  | .contextDone err => some err
  | .connectionClosed err => err
  | .fatal err => some err

/-- `Serve` (`connection.go:205-231`). -/
def serve : Calling Unit := do
  if ← beginServe then
    goServeSPDY
    let stop ← awaitStop
    shutdown
    waitWork
    setClosed
    served stop.err
  else returned (some errConnectionStarted)

/-- `Go` (`connection.go:236-250`), with a function that may be nil. -/
def go : Option ℕ → Calling Unit
  | none => returned (some (.text "connection work function is nil"))
  | some f => do
    if ← beginWork then
      goRun f
      returned none
    else returned (some errConnectionClosed)

/-- `Close` (`connection.go:261-264`). -/
def close : Calling Unit := do
  shutdown
  returned none

/-- The goroutine of `Go` (`connection.go:243-248`). -/
def runWork (f : ℕ) : Calling Unit := do
  jobBegin (.run f)
  let result : Option Message ← jobEnd (.run f)
  match result with
  | some err => fail err
  | none => pure ()
  workDone

/-- What `serveRPC` answers to a request that names a handler. -/
def response : Handled → Response
  | .failed err => .error err
  | .value (.ok payload) => .ok payload
  | .value (.error err) => .error err

/-- `serveRPC` up to its deferred calls (`connection.go:299-326`). -/
def answerRPC (stream : Stream) : Calling Unit := do
  match ← decode stream with
  | .eof => pure ()
  | .failed err => encode stream (.error err)
  | .request method _ =>
    match ← lookup method with
    | none => encode stream (.error [.bytes (str "unsupported RPC method "), .quoted method])
    | some handler =>
      jobBegin (.handle handler)
      let handled : Handled ← jobEnd (.handle handler)
      encode stream (response handled)

/-- `serveRPC` (`connection.go:295-327`). -/
def serveRPC (stream : Stream) : Calling Unit := do
  answerRPC stream
  closeStream stream
  workDone

/-- `handleRPCStream` (`spdy.go:36-47`). -/
def handleRPCStream (stream : Stream) : Calling Unit := do
  if ← beginWork then
    match ← sendReply stream with
    | some _ =>
      reset stream
      workDone
    | none => goServeRPC stream
  else reset stream

/-- `handleDataStream` (`spdy.go:49-64`). -/
def handleDataStream (stream : Stream) : Calling Unit := do
  match ← lookupStream stream.streamType with
  | none => reset stream
  | some handler =>
    match ← sendReply stream with
    | some _ => reset stream
    | none =>
      match ← handleStream handler stream with
      | some _ => reset stream
      | none => pure ()

/-- `newSPDYStream` (`spdy.go:25-34`). -/
def newSPDYStream (stream : Stream) : Calling Unit :=
  if stream.streamType = streamTypeControl then handleRPCStream stream else handleDataStream stream

/-! ## The system -/

/-- A call of a method of the connection. -/
inductive Call
  | register (method : GoString) (handler : Handler)
  | serve
  | go (run : Option ℕ)
  | close

inductive Task
  | call (call : Call)
  | serveSPDY
  | stream (stream : Stream)
  | work (f : ℕ)
  | rpc (stream : Stream)

def Call.run : Call → Calling Unit
  | .register method handler => SpdyRpc.register method handler
  | .serve => SpdyRpc.serve
  | .go f => SpdyRpc.go f
  | .close => SpdyRpc.close

def code : Task → Calling (Option Task)
  | .call call => do
    call.run
    return none
  | .serveSPDY => do
    match ← accept with
    | none => return none
    | some stream =>
      goStream stream
      return some .serveSPDY
  | .stream stream => do
    newSPDYStream stream
    return none
  | .work f => do
    runWork f
    return none
  | .rpc stream => do
    serveRPC stream
    return none

def started : Op → List Task
  | .goServeSPDY => [.serveSPDY]
  | .goStream stream => [.stream stream]
  | .goRun f => [.work f]
  | .goServeRPC stream => [.rpc stream]
  | _ => []

/-- What the mutex guards, the counter of the wait group and the channel of fatal errors. -/
structure World where
  state : ConnectionState := .new
  handlers : GoMap ℕ := ∅
  work : ℕ := 0
  fatal : Option Message := none

/-- `Register` under the mutex (`connection.go:124-133`). -/
def World.register (world : World) (method : GoString) (handler : ℕ) : Option Message × World :=
  if world.state ≠ .new then (some errConnectionStarted, world)
  else if (world.handlers.lookup method).isSome then
    (some [.bytes (str "RPC handler for "), .quoted method, .bytes (str " is already registered")], world)
  else (none, { world with handlers := world.handlers.insert method handler })

/-- `Serve` under the mutex (`connection.go:206-212`). -/
def World.beginServe (world : World) : Bool × World :=
  if world.state ≠ .new then (false, world) else (true, { world with state := .serving })

/-- `shutdown` under the mutex (`connection.go:282-288`). -/
def World.beginShutdown (world : World) : Bool × World :=
  if world.state = .closing ∨ world.state = .closed then (false, world)
  else (true, { world with state := .closing })

/-- `beginWork` (`connection.go:271-279`). -/
def World.beginWork (world : World) : Bool × World :=
  if world.state ≠ .serving then (false, world) else (true, { world with work := world.work + 1 })

/-- The answers of the connection. `Wait` returns when nothing is counted, and `Done` counts
down. -/
def Answers (world : World) : (op : Op) → op.Answer → World → Prop
  | .register method handler, answer, world' => (answer, world') = world.register method handler
  | .beginServe, answer, world' => (answer, world') = world.beginServe
  | .beginShutdown, answer, world' => (answer, world') = world.beginShutdown
  | .beginWork, answer, world' => (answer, world') = world.beginWork
  | .awaitStop, .fatal err, world' => world.fatal = some err ∧ world' = { world with fatal := none }
  | .fail err, _, world' => world' = { world with fatal := world.fatal.or (some err) }
  | .waitWork, _, world' => world.work = 0 ∧ world' = world
  | .setClosed, _, world' => world' = { world with state := .closed }
  | .workDone, _, world' => 0 < world.work ∧ world' = { world with work := world.work - 1 }
  | .lookup method, answer, world' => answer = world.handlers.lookup method ∧ world' = world
  | _, _, world' => world' = world

def system : System interface where
  Task := Task
  code := code
  started := started
  World := World
  Answers := Answers

/-- A new connection, with calls of its methods in goroutines of their own. -/
def start (calls : List Call) : system.Config := system.initial {} (calls.map .call)

end KubeSsh.SpdyRpc

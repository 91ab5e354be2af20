import KubeSsh.CryptoSsh
import KubeSsh.SshProtocol
import KubeSsh.Target

/-!
# `pkg/podssh`: what a session asks the backend

The request loop of a session channel collects the parameters of a `ServerSession`; `resolveSession`
turns them into the operation that is authorized and the request that the backend executes.

Streams are named by the session they belong to. The library go-shlex, which splits a command into
its words, is the field `shlex` of `Protocol`.
-/

namespace KubeSsh.PodSsh

open SshProtocol CryptoSsh

/-! ## The backend -/

/-- The listener behind a `backend.RemoteForward`. -/
structure RemoteForward where
  id : ℕ
  actualPort : UInt32
  deriving DecidableEq

/-- The socket behind a `backend.AgentForward`. -/
structure AgentForward where
  id : ℕ
  socketPath : GoString
  deriving DecidableEq

/-- `windowSizeQueue`: the initial size, and the session whose later sizes follow. -/
structure TerminalSizeQueue where
  width : UInt16
  height : UInt16
  session : ℕ

/-- `backend.ExecRequest`; standard input and output are those of the session. -/
structure ExecRequest where
  target : Target
  command : List GoString
  session : ℕ
  stderr : Bool
  tty : Bool
  terminalSizeQueue : Option TerminalSizeQueue

/-- `backend.StreamRequest`. -/
structure StreamRequest where
  target : Target
  session : ℕ

/-- `backend.SCPRequest`. -/
structure SCPRequest extends StreamRequest where
  args : List GoString

/-- `backend.PortForwardRequest`. -/
structure PortForwardRequest where
  target : Target
  host : GoString
  port : UInt32

/-- `backend.RemoteForwardRequest`. -/
structure RemoteForwardRequest where
  target : Target
  bindHost : GoString
  bindPort : UInt32

/-- A call of a method of `backend.Backend` (`backend.go:126-141`). -/
inductive BackendCall
  | exec (req : ExecRequest)
  | portForward (req : PortForwardRequest)
  | remoteForward (req : RemoteForwardRequest)
  | agentForward (target : Target)
  | sftp (req : StreamRequest)
  | scp (req : SCPRequest)

/-! ## Sessions -/

/-- `Protocol` (`protocol.go:16-25`), without the shared state of its remote forwards. -/
structure Protocol where
  target : Target
  defaultShell : GoString
  envAllowed : GoString → Bool
  codec : Codec
  shlex : GoString → List GoString

/-- `serverSession` (`session_handler.go:31-48`); the number is that of its channel. -/
structure ServerSession where
  channel : ℕ
  started : Bool := false
  pty : Option PTY := none
  env : List GoString := []
  rawCmd : GoString := []
  requestType : GoString := []
  agentForward : Option AgentForward := none

/-- `serverSession.Command` (`session_handler.go:72-75`). -/
def Protocol.command (p : Protocol) (sess : ServerSession) : List GoString := p.shlex sess.rawCmd

/-- `serverSession.AgentForwardSocket` (`session_handler.go:83-88`). -/
def ServerSession.agentForwardSocket (sess : ServerSession) : GoString :=
  match sess.agentForward with
  | none => []
  | some forward => forward.socketPath

/-- `isSCPCommand` (`session.go:78-88`). -/
def isSCPCommand : List GoString → Bool
  | [] => false
  | program :: args =>
    pathBase program = str "scp" &&
      args.any fun arg => arg = str "-t" || arg = str "-f" || (str "-t").isPrefixOf arg ||
        (str "-f").isPrefixOf arg

/-- `sessionOperation` (`session.go:74-76`). -/
def sessionOperation (requestType command : GoString) : Operation where
  channelType := channelSession
  requestType := requestType
  command := command

/-- `Protocol.filterEnv` (`session.go:148-157`). -/
def Protocol.filterEnv (p : Protocol) (envs : List GoString) : List GoString :=
  envs.filter fun env =>
    match Strings.cut Byte.equals env with
    | none => false
    | some (key, _) => !Strings.equalFoldASCII key environmentSSHAuthSock && p.envAllowed key

/-- `appendEnvOverride` (`session.go:114-124`). -/
def appendEnvOverride (env : List GoString) (key value : GoString) : List GoString :=
  (env.filter fun item => !(key ++ [Byte.equals]).isPrefixOf item) ++ [key ++ [Byte.equals] ++ value]

/-- `buildCommand` (`session.go:103-112`). -/
def buildCommand (isExec : Bool) (rawCmd : GoString) (env : List GoString)
    (defaultShell : GoString) : List GoString :=
  (if env = [] then [] else str "env" :: env) ++
    if isExec then [defaultShell, str "-c", rawCmd] else [defaultShell]

/-- The environment of the executed command (`session.go:43-50`). -/
def Protocol.sessionEnv (p : Protocol) (sess : ServerSession) : List GoString :=
  let env := p.filterEnv sess.env
  let env :=
    if sess.agentForwardSocket ≠ [] then
      appendEnvOverride env environmentSSHAuthSock sess.agentForwardSocket
    else env
  match sess.pty with
  | none => env
  | some pty => if pty.term ≠ [] then env ++ [str "TERM=" ++ pty.term] else env

/-- `resolveSession` (`session.go:38-72`). -/
def Protocol.resolveSession (p : Protocol) (sess : ServerSession) : Operation × ExecRequest :=
  (sessionOperation sess.requestType sess.rawCmd,
    { target := p.target
      command := buildCommand (sess.requestType = requestExec) sess.rawCmd (p.sessionEnv sess)
        p.defaultShell
      session := sess.channel
      stderr := sess.pty.isNone
      tty := sess.pty.isSome
      terminalSizeQueue := sess.pty.map fun pty =>
        { width := UInt16.ofNat pty.window.width
          height := UInt16.ofNat pty.window.height
          session := sess.channel } })

/-! ## Request payloads -/

/-- `math.MaxUint16`. -/
def maxUint16 : UInt32 := 65535

/-- `parseSessionPTYRequest` (`session_handler.go:225-235`). -/
def Protocol.parseSessionPTYRequest (p : Protocol) (payload : GoString) : Option PTY :=
  match p.codec.unmarshalPTY payload with
  | .error _ => none
  | .ok request =>
    if request.width > maxUint16 ∨ request.height > maxUint16 then none
    else some { term := request.term, window := ⟨request.width.toNat, request.height.toNat⟩ }

/-- `parseSessionWindowChangeRequest` (`session_handler.go:237-243`). -/
def Protocol.parseSessionWindowChangeRequest (p : Protocol) (payload : GoString) : Option Window :=
  match p.codec.unmarshalWindowChange payload with
  | .error _ => none
  | .ok request =>
    if request.width < 1 ∨ request.height < 1 ∨ request.width > maxUint16 ∨
        request.height > maxUint16 then none
    else some ⟨request.width.toNat, request.height.toNat⟩

/-- The handler of a start request. -/
inductive Handler
  | handleSession
  | handleSFTP
deriving DecidableEq

/-- The checks of a start request (`session_handler.go:136-156`): its handler and the command it
sets, or `none` if it is refused. -/
def Protocol.startRequest (p : Protocol) (request : Request) : Option (Handler × GoString) :=
  if request.type = requestShell then
    if request.payload ≠ [] then none else some (.handleSession, [])
  else if request.type = requestExec ∨ request.type = requestSubsystem then
    match p.codec.unmarshalValue request.payload with
    | .error _ => none
    | .ok value =>
      if request.type = requestSubsystem then
        if value ≠ subsystemSFTP then none else some (.handleSFTP, [])
      else some (.handleSession, value)
  else some (.handleSession, [])

end KubeSsh.PodSsh

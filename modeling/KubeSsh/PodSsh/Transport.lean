import KubeSsh.Common.Path
import KubeSsh.PodSsh.Session
import KubeSsh.PodTarget

/-!
# `pkg/podssh/backend`: the primitives of a transport

A Pod backend works through three primitives of a `Transport`: run a command in a container, prepare
the helper there and run a helper command, open a stream to a port of the Pod. There are two
transports, through the API server and through the container runtime of a node. What both use is
here: the requests, how a stream ends, and the helper with the commands that copy it into a
container.
-/

namespace KubeSsh.Backend

open PodSsh (TerminalSizeQueue)

/-! ## Requests -/

/-- What a command reads: the channel of a session, or some data. -/
inductive Input
  | session (channel : ℕ)
  | data (bytes : GoString)
deriving DecidableEq

/-- `ExecRequest` (`backend.go:26-45`). Of a writer only its presence matters. -/
structure ExecRequest where
  target : Target
  command : List GoString
  stdin : Option Input := none
  stdout : Bool := false
  stderr : Bool := false
  tty : Bool := false
  terminalSizeQueue : Option TerminalSizeQueue := none

/-- `HelperExecRequest` (`backend.go:118-122`). -/
structure HelperExecRequest where
  target : Target
  stdin : Option Input := none
  stdout : Bool := false
  stderr : Bool := false
  capability : GoString
  command : List GoString

/-- `PodPortForwardRequest` (`backend.go:55-58`). -/
structure PodPortForwardRequest where
  target : Target
  port : UInt32

/-- A call of a method of `Transport` (`backend.go:144-152`). -/
inductive TransportCall
  | exec (req : ExecRequest)
  | execHelper (req : HelperExecRequest)
  | portForward (req : PodPortForwardRequest)

def TransportCall.target : TransportCall → Target
  | .exec req => req.target
  | .execHelper req => req.target
  | .portForward req => req.target

/-- What a method of `Transport` returns: an exit code and an error, or a stream. -/
inductive Returned
  | exited (code : ℤ) (err : Option Message)
  | forwarded (err : Option Message)
deriving DecidableEq

/-- How `StreamWithContext` ends: without an error, with an exit status, with another error. -/
inductive StreamResult
  | ok
  | exited (status : ℤ)
  | failed (err : Message)
deriving DecidableEq

/-- The exit code and the error that follow from the end of a stream. -/
def StreamResult.exit (context : Message) : StreamResult → ℤ × Option Message
  | .ok => (0, none)
  | .exited status => (status, none)
  | .failed err => (1, some (context ++ err))

/-- The text of an error of `podtarget` or of the API. -/
def errorText : Target.ResolveError → Message
  | .notProvided => .text "target resolution not provided"
  | .badRequest message => message
  | .forbidden resource name message =>
    [.bytes resource, .bytes (str " "), .quoted name, .bytes (str " is forbidden: ")] ++ message
  | .serviceUnavailable message => message
  | .other message => message

/-! ## The helper -/

/-- `helperpkg.Manifest` (`helper/protocol.go:28-36`), as far as it is compared. -/
structure Manifest where
  version : GoString
  commit : GoString
  protocolVersion : GoString
  capabilities : List GoString
deriving DecidableEq

def protocolVersion : GoString := str "v1alpha1"
def commandVersion : GoString := str "version"

/-- The libraries that preparing a helper uses: the hexadecimal SHA-256 sum, an archive with one
file, and the JSON of a manifest. -/
structure Library where
  digest : GoString → GoString
  tarArchive : (name data : GoString) → Except Message GoString
  decodeManifest : GoString → Except Message Manifest

/-- `helperRemotePath`, `remotePath` (`helper_copy.go:189-194`,
`node/helper_manager.go:119-122`). -/
def Library.remotePath (lib : Library) (remoteDir key : GoString) : GoString :=
  Path.join remoteDir (str "kube-ssh-helper-" ++ (lib.digest key).take 32)

/-- The command that reads the helper from its standard input and writes it with a shell. -/
def shellCommand (remotePath : GoString) : List GoString :=
  [str "sh", str "-c", str "cat > \"$1\" && chmod +x \"$1\"", str "sh", remotePath]

/-- The command that reads the helper in an archive. -/
def tarCommand (remotePath : GoString) : List GoString :=
  [str "tar", str "-xf", str "-", str "-C", Path.dir remotePath]

/-- The directory for helpers when none is configured. -/
def remoteDirOr (remoteDir : GoString) : GoString := if remoteDir = [] then str "/tmp" else remoteDir

end KubeSsh.Backend

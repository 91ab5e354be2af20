import KubeSsh.Common.GoString

/-!
# `pkg/sshprotocol`: message names and operations

Channel and request types are arbitrary strings on the wire; the constants are the ones the adapters
tell apart. An `Operation` is one unit of authorization as a protocol adapter reports it. The
adapter begins it, which authorizes it, and finishes it with a result.
-/

namespace KubeSsh.SshProtocol

/-! ## Channel types -/

def channelSession : GoString := str "session"
def channelDirectTCPIP : GoString := str "direct-tcpip"
def channelForwardedTCPIP : GoString := str "forwarded-tcpip"
def channelAgent : GoString := str "auth-agent@openssh.com"

/-! ## Request types -/

def requestShell : GoString := str "shell"
def requestExec : GoString := str "exec"
def requestSubsystem : GoString := str "subsystem"
def requestEnvironment : GoString := str "env"
def requestPTY : GoString := str "pty-req"
def requestWindowChange : GoString := str "window-change"
def requestSignal : GoString := str "signal"
def requestBreak : GoString := str "break"
def requestExitStatus : GoString := str "exit-status"
def requestExitSignal : GoString := str "exit-signal"
def requestTCPIPForward : GoString := str "tcpip-forward"
def requestCancelTCPIPForward : GoString := str "cancel-tcpip-forward"
def requestAgentForward : GoString := str "auth-agent-req@openssh.com"
def requestKeepalive : GoString := str "keepalive@openssh.com"
def requestNoMoreSessions : GoString := str "no-more-sessions@openssh.com"

def subsystemSFTP : GoString := str "sftp"
def environmentSSHAuthSock : GoString := str "SSH_AUTH_SOCK"

/-- `sshprotocol.Operation`. -/
structure Operation where
  channelType : GoString := []
  requestType : GoString := []
  command : GoString := []
  subsystem : GoString := []
  destinationHost : GoString := []
  destinationPort : UInt32 := 0
  originHost : GoString := []
  originPort : UInt32 := 0
  bindHost : GoString := []
  bindPort : UInt32 := 0
deriving DecidableEq

/-! ## Operation lifecycles -/

/-- `sshprotocol.OperationResult`. -/
structure OperationResult where
  err : Option Message := none
  exitCode : Option ℤ := none
  actualBindPort : Option UInt32 := none

/-- A `FinishOperation` is known by the number of the lifecycle it closes. -/
abbrev FinishId := ℕ

/-- What a `BeginOperationFunc` returns. -/
structure BeginResult where
  finish : Option FinishId
  err : Option Message

/-- `sshprotocol.Window`. -/
structure Window where
  width : ℕ
  height : ℕ
deriving DecidableEq

/-- `sshprotocol.PTY`. -/
structure PTY where
  term : GoString
  window : Window
deriving DecidableEq

end KubeSsh.SshProtocol

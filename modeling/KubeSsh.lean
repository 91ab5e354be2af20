import KubeSsh.AccessPolicy.Schedules
import KubeSsh.AccessPolicy.LeastLoaded
import KubeSsh.AccessPolicy.Affinity
import KubeSsh.AccessPolicy.Connections
import KubeSsh.AccessPolicy.Isolation
import KubeSsh.AccessPolicy.Readiness
import KubeSsh.Gateway.SessionExpiry
import KubeSsh.Gateway.Confinement
import KubeSsh.Gateway.Authenticators
import KubeSsh.Gateway.OfferedMethods
import KubeSsh.PodSsh.TerminalOutput
import KubeSsh.PodSsh.CommandEnvironment
import KubeSsh.PodSsh.WindowSizes
import KubeSsh.SshProxy.Upstream
import KubeSsh.SshProxy.Extensions
import KubeSsh.SshProxy.ScpCommand
import KubeSsh.Gateway.ConnectionAudit
import KubeSsh.Scp.Source
import KubeSsh.Scp.Reception
import KubeSsh.Scp.PreservedTimes
import KubeSsh.PodSsh.CallerContexts
import KubeSsh.SpdyRpc.Lifecycle

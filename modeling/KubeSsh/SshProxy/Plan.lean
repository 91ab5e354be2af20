import KubeSsh.Common.HostPort
import KubeSsh.CryptoSsh
import KubeSsh.SshProtocol
import KubeSsh.Target

/-!
# `pkg/sshproxy`: which operation a message needs

Before the proxy forwards a message of the client it plans it: a plan names the operation that has
to be begun, or none if the message passes. The plan is made from a decoded view of the payload,
while the payload itself is forwarded.
-/

namespace KubeSsh.SshProxy

open SshProtocol CryptoSsh

/-- The parts of `proxy` (`proxy.go:17-33`) that do not change, and the wire format. -/
structure Protocol where
  target : Target
  envAllowed : GoString → Bool
  codec : Codec

/-- A proxied connection that allows no environment variables. -/
def plainProtocol : Protocol where
  target := { kind := Target.kindExternalSSH, options := [] }
  envAllowed _ := false
  codec := plainCodec

/-- `downstreamRequestEffect`. -/
inductive DownstreamRequestEffect
  | none
  | session
  | agentForward
deriving DecidableEq

/-- `downstreamRequestPlan`. -/
structure DownstreamRequestPlan where
  operation : Option Operation := none
  effect : DownstreamRequestEffect := .none

/-- `globalRequestPlan`. -/
structure GlobalRequestPlan where
  operation : Option Operation := none
  forwardKey : GoString := []

/-- `forwardKey` (`proxy.go:559-561`). -/
def forwardKey (data : GlobalForwardData) : GoString :=
  joinHostPort data.host (decimal data.port.toNat)

/-- The forwards of a connection are kept by their keys, which tell all binds apart. -/
theorem forwardKey_eq_iff (data data' : GlobalForwardData) :
    forwardKey data = forwardKey data' ↔ data = data' := by
  have hcolon (n : ℕ) : Byte.colon ∉ decimal n := fun hmem => by
    have hdigit := (decimal_digits hmem).2
    have : Byte.colon.toNat = 58 := by decide
    omega
  unfold forwardKey
  rw [joinHostPort_inj (hcolon _) (hcolon _), decimal_injective.eq_iff, UInt32.toNat_inj]
  cases data
  cases data'
  simp

namespace Protocol

variable (p : Protocol)

/-- `parseChannelOperation` (`proxy.go:509-529`). -/
def parseChannelOperation (channelType payload : GoString) : Except Message (Option Operation) :=
  if channelType = channelSession then .ok none
  else if channelType = channelDirectTCPIP then
    match p.codec.unmarshalChannelForward payload with
    | .error err => .error (.text "parse direct-tcpip request: " ++ err)
    | .ok data =>
      .ok (some
        { channelType
          destinationHost := data.host
          destinationPort := data.port
          originHost := data.originHost
          originPort := data.originPort })
  else .ok (some { channelType })

/-- `planDownstreamRequest` (`proxy.go:403-440`). -/
def planDownstreamRequest (request : Request) : Except Message DownstreamRequestPlan :=
  if request.type = requestShell then
    .ok { operation := some { channelType := channelSession, requestType := request.type }
          effect := .session }
  else if request.type = requestExec then
    match p.codec.unmarshalValue request.payload with
    | .error err => .error (.text "parse exec request: " ++ err)
    | .ok value =>
      .ok { operation := some
              { channelType := channelSession, requestType := request.type, command := value }
            effect := .session }
  else if request.type = requestSubsystem then
    match p.codec.unmarshalValue request.payload with
    | .error err => .error (.text "parse subsystem request: " ++ err)
    | .ok value =>
      .ok { operation := some
              { channelType := channelSession, requestType := request.type, subsystem := value }
            effect := .session }
  else if request.type = requestAgentForward then
    .ok { operation := some { channelType := channelSession, requestType := request.type }
          effect := .agentForward }
  else if request.type = requestEnvironment then
    match p.codec.unmarshalEnv request.payload with
    | .error err => .error (.text "parse env request: " ++ err)
    | .ok (key, _) =>
      if ¬ p.envAllowed key then
        .error [.bytes (str "environment variable "), .quoted key, .bytes (str " is not allowed")]
      else .ok {}
  else if request.type = requestPTY ∨ request.type = requestWindowChange ∨
      request.type = requestSignal ∨ request.type = requestBreak then .ok {}
  else .ok { operation := some { channelType := channelSession, requestType := request.type } }

/-- `planGlobalRequest` (`proxy.go:536-557`). -/
def planGlobalRequest (requestType payload : GoString) : Except Message GlobalRequestPlan :=
  if requestType = requestTCPIPForward then
    match p.codec.unmarshalGlobalForward payload with
    | .error err => .error (.text "parse tcpip-forward request: " ++ err)
    | .ok data =>
      .ok { operation := some { requestType, bindHost := data.host, bindPort := data.port }
            forwardKey := forwardKey data }
  else if requestType = requestCancelTCPIPForward then
    match p.codec.unmarshalGlobalForward payload with
    | .error err => .error (.text "parse cancel-tcpip-forward request: " ++ err)
    | .ok data => .ok { forwardKey := forwardKey data }
  else if requestType = requestKeepalive ∨ requestType = requestNoMoreSessions then .ok {}
  else .ok { operation := some { requestType } }

/-- `actualRemoteForwardKey` (`proxy.go:563-574`): the key of a forward that asked for port 0 has
the port that the upstream chose. -/
def actualRemoteForwardKey (requested payload : GoString) : GoString :=
  match splitHostPort requested with
  | .error _ => requested
  | .ok (host, port) =>
    if port ≠ str "0" then requested
    else match p.codec.unmarshalUint32 payload with
      | .error _ => requested
      | .ok actual => joinHostPort host (decimal actual.toNat)

end Protocol

/-! ## Messages to the upstream -/

/-- A message that the proxy sends to the upstream server. -/
inductive UpstreamMessage
  | openChannel (channelType extraData : GoString)
  | channelRequest (request : Request)
  | globalRequest (request : Request)

/-- The message has the type of the operation, and the values of the operation are those that its
payload encodes. -/
def Describes (codec : Codec) (operation : Operation) : UpstreamMessage → Prop
  | .openChannel channelType extraData =>
    if channelType = channelDirectTCPIP then
      ∃ data, codec.unmarshalChannelForward extraData = .ok data ∧
        operation =
          { channelType
            destinationHost := data.host
            destinationPort := data.port
            originHost := data.originHost
            originPort := data.originPort }
    else operation = { channelType }
  | .channelRequest request =>
    if request.type = requestExec then
      ∃ value, codec.unmarshalValue request.payload = .ok value ∧
        operation =
          { channelType := channelSession, requestType := request.type, command := value }
    else if request.type = requestSubsystem then
      ∃ value, codec.unmarshalValue request.payload = .ok value ∧
        operation =
          { channelType := channelSession, requestType := request.type, subsystem := value }
    else operation = { channelType := channelSession, requestType := request.type }
  | .globalRequest request =>
    if request.type = requestTCPIPForward then
      ∃ data, codec.unmarshalGlobalForward request.payload = .ok data ∧
        operation = { requestType := request.type, bindHost := data.host, bindPort := data.port }
    else operation = { requestType := request.type }

/-- The messages that need no operation; `found` is the forward that was found recorded. -/
def Passes (p : Protocol) (found : Option GoString) : UpstreamMessage → Prop
  | .openChannel channelType _ => channelType = channelSession
  | .channelRequest request =>
    request.type ∈ [requestPTY, requestWindowChange, requestSignal, requestBreak] ∨
      request.type = requestEnvironment ∧
        ∃ key value, p.codec.unmarshalEnv request.payload = .ok (key, value) ∧ p.envAllowed key
  | .globalRequest request =>
    request.type ∈ [requestKeepalive, requestNoMoreSessions] ∨
      request.type = requestCancelTCPIPForward ∧
        ∃ data, p.codec.unmarshalGlobalForward request.payload = .ok data ∧
          found = some (forwardKey data)

/-- The operation that was planned for a message allows it. -/
def Clears (p : Protocol) (found : Option GoString) (operation : Option Operation)
    (message : UpstreamMessage) : Prop :=
  match operation with
  | none => Passes p found message
  | some operation => Describes p.codec operation message

/-! ## Plans are complete -/

section Plan

variable {p : Protocol}

theorem parseChannelOperation_clears {channelType extraData : GoString}
    {operation : Option Operation}
    (h : p.parseChannelOperation channelType extraData = .ok operation) (found : Option GoString) :
    Clears p found operation (.openChannel channelType extraData) := by
  unfold Protocol.parseChannelOperation at h
  split_ifs at h with hsession hdirect
  · obtain rfl := Except.ok.inj h
    exact hsession
  · split at h
    · cases h
    rename_i data hdata
    obtain rfl := Except.ok.inj h
    simp only [Clears, Describes, if_pos hdirect]
    exact ⟨data, hdata, rfl⟩
  · obtain rfl := Except.ok.inj h
    simp only [Clears, Describes, if_neg hdirect]

theorem planDownstreamRequest_clears {request : Request} {plan : DownstreamRequestPlan}
    (h : p.planDownstreamRequest request = .ok plan) (found : Option GoString) :
    Clears p found plan.operation (.channelRequest request) := by
  unfold Protocol.planDownstreamRequest at h
  split_ifs at h with hshell hexec hsubsystem hagent henv hpass
  · obtain rfl := Except.ok.inj h
    have hexec : request.type ≠ requestExec := by rw [hshell]; decide
    have hsubsystem : request.type ≠ requestSubsystem := by rw [hshell]; decide
    simp only [Clears, Describes, if_neg hexec, if_neg hsubsystem]
  · split at h
    · cases h
    rename_i value hvalue
    obtain rfl := Except.ok.inj h
    simp only [Clears, Describes, if_pos hexec]
    exact ⟨value, hvalue, rfl⟩
  · split at h
    · cases h
    rename_i value hvalue
    obtain rfl := Except.ok.inj h
    simp only [Clears, Describes, if_neg hexec, if_pos hsubsystem]
    exact ⟨value, hvalue, rfl⟩
  · obtain rfl := Except.ok.inj h
    simp only [Clears, Describes, if_neg hexec, if_neg hsubsystem]
  · split at h
    · cases h
    rename_i key value hkey
    split at h
    · cases h
    rename_i hallowed
    obtain rfl := Except.ok.inj h
    exact Or.inr ⟨henv, key, value, hkey, by simpa using hallowed⟩
  · obtain rfl := Except.ok.inj h
    exact Or.inl (by simpa using hpass)
  · obtain rfl := Except.ok.inj h
    simp only [Clears, Describes, if_neg hexec, if_neg hsubsystem]

/-- A cancellation is cleared once its forward was found. -/
theorem planGlobalRequest_clears {request : Request} {plan : GlobalRequestPlan}
    (h : p.planGlobalRequest request.type request.payload = .ok plan) {found : Option GoString}
    (hfound : request.type = requestCancelTCPIPForward → found = some plan.forwardKey) :
    Clears p found plan.operation (.globalRequest request) := by
  unfold Protocol.planGlobalRequest at h
  split_ifs at h with hforward hcancel hpass
  · split at h
    · cases h
    rename_i data hdata
    obtain rfl := Except.ok.inj h
    simp only [Clears, Describes, if_pos hforward]
    exact ⟨data, hdata, rfl⟩
  · split at h
    · cases h
    rename_i data hdata
    obtain rfl := Except.ok.inj h
    exact Or.inr ⟨hcancel, data, hdata, hfound hcancel⟩
  · obtain rfl := Except.ok.inj h
    exact Or.inl (by simpa using hpass)
  · obtain rfl := Except.ok.inj h
    simp only [Clears, Describes, if_neg hforward]

end Plan

end KubeSsh.SshProxy

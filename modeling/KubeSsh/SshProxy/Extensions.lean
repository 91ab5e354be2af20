import KubeSsh.Gateway.Operation
import KubeSsh.SshProxy.Returning

/-!
# `pkg/sshproxy`: messages that need the capability `ssh_extension`

A message that is not standard for its sender has to be authorized as an extension. For messages of
the client this follows from mediation: the operation that was begun describes the message. Messages
of the upstream server are watched by `returning`. The classification of operations is by their
types alone and the same for both senders and all layers, so that some messages escape; these are
exactly the ones of `Escapes`.
-/

namespace KubeSsh.SshProxy

open SshProtocol CryptoSsh Gateway

/-! ## Operations that were begun -/

section Begun

variable (p : Protocol) {before : List (Event interface)}

theorem granted_next {w : Watch} {op : Op} {answer : op.Answer} (hboundary : op.boundary = false)
    (hbegin : ¬ ∃ operation, op = .begin operation) :
    ((mediation p).next w op answer).granted = w.granted := by
  rcases op.kinds with hop | ⟨key, rfl⟩ | hop | ⟨hneutral, -⟩
  · exact absurd hop hbegin
  · rfl
  · exact absurd (hboundary.symm.trans hop) (by decide)
  · rw [(neutral_spec hneutral).2 answer]

/-- An operation that was begun for the current message is what the watch remembers. -/
theorem granted_of_begun {operation : Operation} (h : Begun operation before) :
    ((mediation p).after {} before).granted = some operation := by
  obtain ⟨started, herr, earlier, between, rfl, hbetween⟩ := h
  induction between using List.reverseRecOn with
  | nil =>
    rw [Monitor.after_concat]
    change (if started.err.isNone then some operation else none) = _
    rw [herr]
    rfl
  | append_singleton between event ih =>
    rw [List.forall_mem_append, List.forall_mem_singleton] at hbetween
    rw [← List.cons_append, ← List.append_assoc, Monitor.after_concat,
      granted_next p hbetween.2.1 hbetween.2.2]
    exact ih hbetween.1

end Begun

/-! ## Standard messages, and messages that escape -/

/-- The message is standard for its sender. Channels that the upstream server opens are for a
forward that was found recorded. The type of the channel that carries a request is not looked at. -/
def Standard (codec : Codec) (before : List (Event interface)) : Side → UpstreamMessage → Prop
  | .downstream, .openChannel channelType _ => channelType ∈ [channelSession, channelDirectTCPIP]
  | .downstream, .channelRequest request =>
    request.type ∈ [requestShell, requestExec, requestEnvironment, requestPTY, requestWindowChange,
      requestSignal, requestBreak, requestAgentForward] ∨
    request.type = requestSubsystem ∧ codec.unmarshalValue request.payload = .ok subsystemSFTP
  | .downstream, .globalRequest request =>
    request.type ∈ [requestTCPIPForward, requestCancelTCPIPForward, requestKeepalive,
      requestNoMoreSessions]
  | .upstream, .openChannel channelType extraData =>
    (channelType = channelForwardedTCPIP ∧ ∃ data,
      codec.unmarshalChannelForward extraData = .ok data ∧ LookedUp (channelKey data) true before) ∨
    channelType = channelAgent ∧ LookedUpAgent true before
  | .upstream, .channelRequest request => request.type ∈ [requestExitStatus, requestExitSignal]
  | .upstream, .globalRequest request => request.type = requestKeepalive

/-- The message is forwarded under another capability, or without any. -/
def Escapes : Side → UpstreamMessage → Prop
  | .downstream, .openChannel _ _ => False
  | .downstream, .channelRequest request => request.type = requestTCPIPForward
  | .downstream, .globalRequest request => request.type = requestAgentForward
  | .upstream, .openChannel channelType _ => channelType = channelDirectTCPIP
  | .upstream, .channelRequest _ => True
  | .upstream, .globalRequest request =>
    request.type ∈ [requestNoMoreSessions, requestTCPIPForward, requestAgentForward]

/-- The operation forwards the message of a sender to the other side. -/
def Op.Forwards (op : Op) : Side → UpstreamMessage → Prop
  | .downstream, message => op.message = some message
  | .upstream, message => op.returned = some message

/-- The operations that are authorized as extensions. -/
def IsExtension (operation : Operation) : Prop :=
  operation.channelType ≠ channelDirectTCPIP ∧ operation.requestType ≠ requestTCPIPForward ∧
    operation.requestType ≠ requestAgentForward ∧
    (operation.channelType = channelSession →
      operation.requestType ≠ requestShell ∧ operation.requestType ≠ requestExec ∧
        ¬ (operation.requestType = requestSubsystem ∧ operation.subsystem = subsystemSFTP))

theorem capability_eq_sshExtension_iff (shlex : GoString → List GoString) (tgt : Target)
    (operation : Operation) :
    (connectionOperationSpec shlex tgt operation).capability = .sshExtension ↔
      IsExtension operation := by
  have hsession : ∀ requestType argv, sessionCapability requestType argv ≠ .sshExtension := by
    intro requestType argv
    unfold sessionCapability
    split_ifs <;> decide
  unfold connectionOperationSpec IsExtension
  split_ifs with hdirect hforward hagent hshell hsftp
  · exact iff_of_false (fun h => (by cases h)) fun h => h.1 hdirect
  · exact iff_of_false (fun h => (by cases h)) fun h => h.2.1 hforward
  · exact iff_of_false (fun h => (by cases h)) fun h => h.2.2.1 hagent
  · refine iff_of_false (hsession _ _) fun h => ?_
    obtain ⟨hne, hne', -⟩ := h.2.2.2 hshell.1
    exact hshell.2.elim hne hne'
  · exact iff_of_false (fun h => (by cases h)) fun h => (h.2.2.2 hsftp.1).2.2 hsftp.2
  · refine iff_of_true rfl ⟨hdirect, hforward, hagent, fun hsession => ⟨?_, ?_, ?_⟩⟩
    · exact fun h => hshell ⟨hsession, Or.inl h⟩
    · exact fun h => hshell ⟨hsession, Or.inr h⟩
    · exact fun h => hsftp ⟨hsession, h⟩

/-- An operation with a channel type only. -/
theorem isExtension_channel {channelType : GoString} :
    IsExtension { channelType } ↔ channelType ≠ channelDirectTCPIP := by
  have hforward : ([] : GoString) ≠ requestTCPIPForward := by decide
  have hagent : ([] : GoString) ≠ requestAgentForward := by decide
  have hshell : ([] : GoString) ≠ requestShell := by decide
  have hexec : ([] : GoString) ≠ requestExec := by decide
  have hsubsystem : ([] : GoString) ≠ requestSubsystem := by decide
  refine ⟨fun h => h.1, fun h => ⟨h, hforward, hagent, fun _ => ⟨hshell, hexec, ?_⟩⟩⟩
  exact fun h => hsubsystem h.1

/-- An operation with a request type only. -/
theorem isExtension_request {requestType : GoString} :
    IsExtension { requestType } ↔
      requestType ≠ requestTCPIPForward ∧ requestType ≠ requestAgentForward := by
  have hdirect : ([] : GoString) ≠ channelDirectTCPIP := by decide
  have hsession : ([] : GoString) ≠ channelSession := by decide
  refine ⟨fun h => ⟨h.2.1, h.2.2.1⟩, fun h => ⟨hdirect, h.1, h.2, ?_⟩⟩
  exact fun heq => absurd heq hsession

section Messages

variable {p : Protocol} {before : List (Event interface)} {message : UpstreamMessage}

/-- What describes a message of the client that is not standard is an extension, unless it
escapes. -/
theorem isExtension_of_describes {operation : Operation} (h : Describes p.codec operation message)
    (hstandard : ¬ Standard p.codec before .downstream message) :
    IsExtension operation ↔ ¬ Escapes .downstream message := by
  cases message with
  | openChannel channelType extraData =>
    have hdirect : channelType ≠ channelDirectTCPIP := fun heq => hstandard (by simp [Standard, heq])
    rw [Describes, if_neg hdirect] at h
    rw [h, isExtension_channel]
    exact iff_of_true hdirect id
  | globalRequest request =>
    have hforward : request.type ≠ requestTCPIPForward := fun heq =>
      hstandard (by simp [Standard, heq])
    rw [Describes, if_neg hforward] at h
    rw [h, isExtension_request]
    exact ⟨fun h => h.2, fun h => ⟨hforward, h⟩⟩
  | channelRequest request =>
    rw [Standard, not_or] at hstandard
    obtain ⟨hkinds, hsftp⟩ := hstandard
    simp only [List.mem_cons, List.not_mem_nil, or_false, not_or] at hkinds
    obtain ⟨hshell, hexec, -, -, -, -, -, hagent⟩ := hkinds
    have hsession : channelSession ≠ channelDirectTCPIP := by decide
    rw [Describes, if_neg hexec] at h
    split_ifs at h with hsubsystem
    · obtain ⟨value, hvalue, rfl⟩ := h
      have hother : ∀ other : GoString, requestSubsystem ≠ other → request.type ≠ other :=
        fun other hne => hsubsystem ▸ hne
      refine iff_of_true ⟨hsession, hother _ (by decide), hagent, fun _ => ⟨hshell, hexec, ?_⟩⟩
        (hother requestTCPIPForward (by decide))
      rintro ⟨-, rfl⟩
      exact hsftp ⟨hsubsystem, hvalue⟩
    · subst h
      exact ⟨fun h => h.2.1, fun h => ⟨hsession, h, hagent, fun _ =>
        ⟨hshell, hexec, fun h => hsubsystem h.1⟩⟩⟩

/-- A message of the client that passes is standard. -/
theorem standard_of_passes {found : Option GoString} (h : Passes p found message) :
    Standard p.codec before .downstream message := by
  cases message with
  | openChannel channelType extraData => simp [Standard, show channelType = channelSession from h]
  | channelRequest request =>
    rcases h with h | ⟨h, -⟩
    · simp only [List.mem_cons, List.not_mem_nil, or_false] at h
      rcases h with h | h | h | h <;> simp [Standard, h]
    · simp [Standard, h]
  | globalRequest request =>
    rcases h with h | ⟨h, -⟩
    · simp only [List.mem_cons, List.not_mem_nil, or_false] at h
      rcases h with h | h <;> simp [Standard, h]
    · simp [Standard, h]

/-- A message of the upstream server that is not standard was authorized as an extension, unless it
escapes. -/
theorem extension_of_returns (h : Returns p ((returning p).after {} before) message)
    (hstandard : ¬ Standard p.codec before .upstream message) :
    (∃ operation ∈ ((mediation p).after {} before).granted, IsExtension operation) ↔
      ¬ Escapes .upstream message := by
  have hwatch := toWatch_after p before
  cases message with
  | openChannel channelType extraData =>
    have hseen := seenIn_after p before
    rw [Returns] at h
    split_ifs at h with hforwarded hagent
    · obtain ⟨data, hdata, hlookup⟩ := h
      exact absurd (Or.inl ⟨hforwarded, data, hdata, hseen.lookup _ _ hlookup⟩) hstandard
    · exact absurd (Or.inr ⟨hagent, hseen.agent _ h⟩) hstandard
    · rw [hwatch] at h
      rw [h]
      simp only [Option.mem_def, Option.some.injEq, exists_eq_left', isExtension_channel]
      exact Iff.rfl
  | channelRequest request =>
    have hgranted : ((mediation p).after {} before).granted = none := hwatch ▸ h
    rw [hgranted]
    refine iff_of_false ?_ fun h => h trivial
    rintro ⟨_, hop, _⟩
    cases hop
  | globalRequest request =>
    have hkeepalive : request.type ≠ requestKeepalive := hstandard
    rw [Returns, hwatch] at h
    split_ifs at h with htype
    · simp only [List.mem_cons, List.not_mem_nil, or_false] at htype
      rw [h]
      refine iff_of_false ?_ fun h => h ?_
      · rintro ⟨_, hop, _⟩
        cases hop
      · simp [Escapes, htype.resolve_left hkeepalive]
    · simp only [List.mem_cons, List.not_mem_nil, or_false, not_or] at htype
      rw [h]
      simp [isExtension_request, Escapes, htype.2]

end Messages

/-! ## Runs -/

/-- In every run, a message that is not standard for its sender is forwarded after an operation that
is authorized as an extension if and only if it does not escape. -/
theorem extension_authorized_iff (p : Protocol) (shlex : GoString → List GoString) (tgt : Target)
    {trace : List (ℕ × Event interface)} {c : p.system.Config}
    (hrun : p.system.Run p.connection trace c) {i : ℕ} {before rest : List (Event interface)}
    {event : Event interface} (hevents : System.eventsOf i trace = before ++ event :: rest)
    {sender : Side} {message : UpstreamMessage} (hforwards : event.op.Forwards sender message)
    (hstandard : ¬ Standard p.codec before sender message) :
    (∃ operation, Begun operation before ∧
        (connectionOperationSpec shlex tgt operation).capability = .sshExtension) ↔
      ¬ Escapes sender message := by
  have hbegun : (∃ operation, Begun operation before ∧
      (connectionOperationSpec shlex tgt operation).capability = .sshExtension) ↔
        ∃ operation ∈ ((mediation p).after {} before).granted, IsExtension operation := by
    simp only [capability_eq_sshExtension_iff]
    constructor
    · rintro ⟨operation, hbegun, hextension⟩
      exact ⟨operation, granted_of_begun p hbegun, hextension⟩
    · rintro ⟨operation, hgranted, hextension⟩
      exact ⟨operation, (after_spec p before).1 operation hgranted, hextension⟩
  rw [hbegun]
  cases sender with
  | downstream =>
    have haccepts := hrun.accepts (system_obeys p) (s := {}) trivial (fun _ _ => trivial) i
    rcases haccepts before event rest hevents message hforwards with
      hpasses | ⟨operation, hgranted, hdescribes⟩
    · exact absurd (standard_of_passes hpasses) hstandard
    · rw [show ((mediation p).after {} before).granted = some operation from hgranted,
        ← isExtension_of_describes hdescribes hstandard]
      simp
  | upstream =>
    have haccepts := hrun.accepts (system_returning p) (s := {}) rfl (fun _ _ => trivial) i
    exact extension_of_returns ((haccepts before event rest hevents).1 message hforwards) hstandard

/-- A global request of the client that the gateway does not know. -/
def unknownRequest : Request := ⟨str "x", false, []⟩

/-- Its operation was begun as an extension. -/
theorem extension_authorized_unknown :
    ∃ (trace : List (ℕ × Event interface)) (c : plainProtocol.system.Config)
      (before : List (Event interface)), plainProtocol.system.Run plainProtocol.connection trace c ∧
      System.eventsOf 1 trace
        = before ++ [⟨.sendGlobal .upstream unknownRequest, .ok (false, [])⟩] ∧
      ∃ operation, Begun operation before ∧
        (connectionOperationSpec (fun _ => []) plainProtocol.target operation).capability
          = .sshExtension := by
  have h0 : plainProtocol.system.Run plainProtocol.connection [] plainProtocol.connection := .start
  have h1 := h0.perform 1 rfl (some unknownRequest) rfl
  have h2 := h1.perform 1 rfl true rfl
  have h3 := h2.perform 1 rfl (⟨some 0, none⟩ : BeginResult) rfl
  have h4 : plainProtocol.system.Run _ _ ⟨_, [_, _]⟩ :=
    h3.perform 1 rfl true (Or.inl ⟨rfl, rfl, rfl⟩)
  have h5 := h4.perform 1 rfl (Except.ok ()) rfl
  have h6 := h5.perform 1 rfl true rfl
  have h7 : plainProtocol.system.Run _ _ ⟨_, [_, _, _]⟩ := h6.perform 1 rfl () rfl
  have h8 := h7.perform 1 rfl () rfl
  have h9 := h8.perform 1 rfl () rfl
  have h10 : plainProtocol.system.Run _ _ ⟨_, [_, _, _, _, _]⟩ := h9.perform 1 rfl () rfl
  have h11 := h10.perform 1 rfl none ⟨rfl, rfl⟩
  have h12 := h11.perform 1 rfl (Except.ok (false, [])) rfl
  have hforwards : (Op.sendGlobal .upstream unknownRequest).Forwards .downstream
    (.globalRequest unknownRequest) := rfl
  have hstandard : ∀ before, ¬ Standard plainProtocol.codec before .downstream
      (.globalRequest unknownRequest) := fun _ => by
    rw [Standard]
    decide
  have hescapes : ¬ Escapes .downstream (.globalRequest unknownRequest) := by
    rw [Escapes]
    decide
  exact ⟨_, _, _, h12, System.eventsOf_concat_self 1 _ _, (extension_authorized_iff plainProtocol
    (fun _ => []) plainProtocol.target h12 (System.eventsOf_concat_self 1 _ _) hforwards
      (hstandard _)).mpr hescapes⟩

/-- The upstream server asks the client for a remote forward. -/
def upstreamForwardRequest : Request := ⟨requestTCPIPForward, false, []⟩

/-- The request is not standard. The only operation that is begun for it is authorized as
`remote_forward`, and the request is forwarded. -/
theorem upstream_forward_not_extension :
    ∃ (trace : List (ℕ × Event interface)) (c : plainProtocol.system.Config),
      plainProtocol.system.Run plainProtocol.connection trace c ∧
      System.eventsOf 3 trace =
        [⟨.nextGlobalRequest .upstream, some upstreamForwardRequest⟩,
          ⟨.begin { requestType := requestTCPIPForward }, ⟨some 0, none⟩⟩,
          ⟨.sendGlobal .downstream upstreamForwardRequest, .ok (false, [])⟩] ∧
      (connectionOperationSpec (fun _ => []) plainProtocol.target
        { requestType := requestTCPIPForward }).capability = .remoteForward ∧
      ∀ before, ¬ Standard plainProtocol.codec before .upstream
        (.globalRequest upstreamForwardRequest) := by
  have h0 : plainProtocol.system.Run plainProtocol.connection [] plainProtocol.connection := .start
  -- a keepalive of the client connects
  have h1 := h0.perform 1 rfl (some (⟨requestKeepalive, false, []⟩ : Request)) rfl
  have h2 := h1.perform 1 rfl true rfl
  have h3 : plainProtocol.system.Run _ _ ⟨_, [_, _]⟩ :=
    h2.perform 1 rfl true (Or.inl ⟨rfl, rfl, rfl⟩)
  have h4 := h3.perform 1 rfl (Except.ok ()) rfl
  have h5 := h4.perform 1 rfl true rfl
  have h6 : plainProtocol.system.Run _ _ ⟨_, [_, _, _]⟩ := h5.perform 1 rfl () rfl
  have h7 : plainProtocol.system.Run _ _ ⟨_, [_, _, _, _]⟩ := h6.perform 1 rfl () rfl
  have h8 := h7.perform 3 rfl (some upstreamForwardRequest) rfl
  have h9 := h8.perform 3 rfl (⟨some 0, none⟩ : BeginResult) rfl
  have h10 := h9.perform 3 rfl (Except.ok (false, [])) rfl
  refine ⟨_, _, h10, rfl, rfl, fun _ => ?_⟩
  rw [Standard]
  decide

end KubeSsh.SshProxy

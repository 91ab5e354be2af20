import KubeSsh.PodSsh.Lifecycle
import KubeSsh.PodSsh.Mediation
import KubeSsh.SshProxy.Lifecycle

/-!
# `pkg/gateway`: the audit trail of a connection

`handleConnection` records `connection.start` before anything else and `connection.end` when it has
closed the protocol and waited for the handlers. In between, and also after it if goroutines are
left, the goroutines of the protocol record the start and the end of their operations.
-/

namespace KubeSsh.Gateway

open SshProtocol KubeSsh.System
open PodSsh (waits_free)

/-! ## Recording -/

/-- What the goroutines of a protocol do that the gateway records: a call of `begin` that returns an
operation, and a call of its `FinishOperation`. -/
inductive OperationCall
  | begin (id : FinishId)
  | finish (id : FinishId)
  deriving DecidableEq

/-- What is recorded while the connection is authenticated (`connection_audit.go:70`,
`gateway.go:215,229,265`). -/
inductive SetupEvent
  | authenticationResult
  | targetResolutionResult
  | connectionReady
  deriving DecidableEq

/-- The events of one connection that are passed to the recorder. -/
inductive AuditEvent
  | connectionStart
  | setup (event : SetupEvent)
  | operationStart (id : FinishId)
  | operationEnd (id : FinishId)
  | connectionEnd
  deriving DecidableEq

/-- `startOperation` records the start of an operation, and the `Once` of its result records the end
(`operation.go:90-117`). -/
def record (events : List AuditEvent) : OperationCall → List AuditEvent
  | .begin id => events ++ [.operationStart id]
  | .finish id => if .operationEnd id ∈ events then events else events ++ [.operationEnd id]

/-- The audit trail of a connection, with what its goroutines do before and after `finishAudit`
(`server.go:60-104`). -/
def trail (setup : List SetupEvent) (before after : List OperationCall) : List AuditEvent :=
  after.foldl record (before.foldl record (.connectionStart :: setup.map .setup) ++ [.connectionEnd])

/-- The trail starts with its only `connection.start` and ends with its only `connection.end`, and
every `operation.start` is followed by its `operation.end`. -/
def ClosedTrail (trail : List AuditEvent) : Prop :=
  ∃ events, trail = .connectionStart :: events ++ [.connectionEnd] ∧
    .connectionStart ∉ events ∧ .connectionEnd ∉ events ∧
    ∀ id earlier later, events = earlier ++ .operationStart id :: later → .operationEnd id ∈ later

section Trail

def OperationCall.event : OperationCall → AuditEvent
  | .begin id => .operationStart id
  | .finish id => .operationEnd id

theorem OperationCall.event_injective : Function.Injective OperationCall.event := by
  intro call call' h
  cases call <;> cases call' <;> simp_all [OperationCall.event]

/-- If no operation is finished twice, all calls are recorded. -/
theorem foldl_record {calls : List OperationCall} {events : List AuditEvent}
    (honce : ∀ id, calls.count (.finish id) ≤ 1) (hevents : ∀ id, .operationEnd id ∉ events) :
    calls.foldl record events = events ++ calls.map OperationCall.event := by
  induction calls using List.reverseRecOn with
  | nil => simp
  | append_singleton calls call ih =>
    have honce' : ∀ id, calls.count (.finish id) ≤ 1 := fun id => by
      have hid := honce id
      rw [List.count_append] at hid
      omega
    rw [List.foldl_append, ih honce', List.map_append, ← List.append_assoc]
    cases call with
    | begin id => rfl
    | finish id =>
      have hnew : .finish id ∉ calls := fun hmem => by
        have hid := honce id
        have hpos := List.count_pos_iff.mpr hmem
        rw [List.count_append, List.count_singleton_self] at hid
        omega
      have hnone : .operationEnd id ∉ events ++ calls.map OperationCall.event := fun hmem => by
        rcases List.mem_append.mp hmem with h | h
        · exact hevents id h
        · exact hnew ((List.mem_map_of_injective OperationCall.event_injective).mp h)
      exact if_neg hnone

/-- The trail is closed if every operation is begun once and is finished after that, and nothing
comes after `connection.end`. -/
theorem closedTrail_of_balanced (setup : List SetupEvent) {calls : List OperationCall}
    (hfresh : ∀ id, calls.count (.begin id) ≤ 1)
    (horder : ∀ before rest, calls = before ++ rest →
      ∀ id, before.count (.finish id) ≤ before.count (.begin id))
    (hbalanced : ∀ id, calls.count (.finish id) = calls.count (.begin id)) :
    ClosedTrail (trail setup calls []) := by
  refine ⟨setup.map .setup ++ calls.map OperationCall.event, ?_, ?_, ?_, ?_⟩
  · have honce : ∀ id, calls.count (.finish id) ≤ 1 := fun id => (hbalanced id).trans_le (hfresh id)
    rw [trail, List.foldl_nil, foldl_record honce (by simp)]
    rfl
  · intro hmem
    rcases List.mem_append.mp hmem with h | h
    · simp at h
    · obtain ⟨call, -, hcall⟩ := List.mem_map.mp h
      cases call <;> cases hcall
  · intro hmem
    rcases List.mem_append.mp hmem with h | h
    · simp at h
    · obtain ⟨call, -, hcall⟩ := List.mem_map.mp h
      cases call <;> cases hcall
  · intro id earlier later hevents
    -- the start of the operation is recorded by one of the calls
    obtain ⟨earlier', rfl, hcalls⟩ : ∃ earlier', earlier = setup.map .setup ++ earlier' ∧
        calls.map OperationCall.event = earlier' ++ .operationStart id :: later := by
      rcases List.append_eq_append_iff.mp hevents with ⟨rest, rfl, hrest⟩ | ⟨rest, hsetup, hrest⟩
      · exact ⟨rest, rfl, hrest⟩
      · cases rest with
        | nil => exact ⟨[], by simpa using hsetup.symm, hrest.symm⟩
        | cons event rest =>
          obtain ⟨rfl, -⟩ := List.cons.inj hrest
          have hmem : .operationStart id ∈ setup.map AuditEvent.setup := by simp [hsetup]
          simp at hmem
    obtain ⟨before, rest, rfl, -, hrest⟩ := List.map_eq_append_iff.mp hcalls
    obtain ⟨call, rest, rfl, hcall, rfl⟩ := List.map_eq_cons_iff.mp hrest
    have hbegin : call = .begin id := OperationCall.event_injective hcall
    subst hbegin
    have hmem : .finish id ∈ rest := by
      by_contra hnone
      have hfinish := hbalanced id
      have honce := hfresh id
      have hbefore := horder before _ rfl id
      rw [List.count_append, List.count_append, List.count_cons, List.count_cons,
        List.count_eq_zero.mpr hnone] at hfinish
      rw [List.count_append, List.count_cons] at honce
      simp at hfinish honce
      omega
    exact List.mem_map.mpr ⟨_, hmem, rfl⟩

end Trail

/-! ## Connections -/

/-- A connection of an authenticated user, by the kind of its target (`protocol.go:17-49`). -/
inductive Connection
  | pod (p : PodSsh.Protocol)
  | external (p : SshProxy.Protocol)

namespace Connection

def interface : Connection → Interface
  | pod _ => PodSsh.interface
  | external _ => SshProxy.interface

/-- The goroutines of the connection. -/
def system : (conn : Connection) → System conn.interface
  | pod p => p.system
  | external p => p.system

/-- The connection when its loops start. Goroutine 0 is that of `handleConnection`, up to the end of
`handlers.Wait`. -/
def start : (conn : Connection) → conn.system.Config
  | pod p => p.connection
  | external p => p.connection

/-- What the gateway records of an event. -/
def call : (conn : Connection) → ℕ × Event conn.interface → Option OperationCall
  | pod _, entry => match entry.2.op, entry.2.answer with
    | PodSsh.Op.begin _, (started : BeginResult) => started.finish.map .begin
    | PodSsh.Op.finish id _, _ => some (.finish id)
    | _, _ => none
  | external _, entry => match entry.2.op, entry.2.answer with
    | SshProxy.Op.begin _, (started : BeginResult) => started.finish.map .begin
    | SshProxy.Op.finish id _, _ => some (.finish id)
    | _, _ => none

def Waits : (conn : Connection) → conn.system.Condition
  | pod p => p.Waits
  | external p => p.Waits

/-- No goroutine is left that nobody waits for. On a Pod connection, these are the accept loops of
remote forwards; on a proxied connection, all goroutines of the proxy. The proxy is closed if there
was an operation, and it has lost none (`SshProxy.Orderly`). -/
def Quiesced : (conn : Connection) → List (ℕ × Event conn.interface) → conn.system.Config → Prop
  | pod p, trace, c => p.ForwardsEnded trace c
  | external _, trace, c =>
    (∀ thread ∈ c.threads, thread = .pure none) ∧ Stepwise SshProxy.Orderly trace ∧
      ((c.world : SshProxy.ProxyState).closed = true ∨ ∀ entry ∈ trace, ∀ id, ¬ SshProxy.begins id entry)

end Connection

/-! ## The end of a connection -/

section Calls

variable {conn : Connection} {before after : List (ℕ × Event conn.interface)} {c c' : conn.system.Config}

/-- The calls of a list of events. -/
def Connection.calls (conn : Connection) (trace : List (ℕ × Event conn.interface)) : List OperationCall :=
  trace.filterMap conn.call

theorem count_calls {b : ℕ × Event conn.interface → Bool} {call : OperationCall}
    (h : ∀ entry, b entry = true ↔ conn.call entry = some call)
    (trace : List (ℕ × Event conn.interface)) : (conn.calls trace).count call = trace.countP b := by
  rw [Connection.calls, List.count, List.countP_filterMap]
  refine List.countP_congr fun entry _ => ?_
  rw [h entry]
  cases conn.call entry <;> simp

/-- The trail is closed if every operation is begun once and finished after that, in the events of
the connection. -/
theorem closedTrail_of_events (setup : List SetupEvent) {begins finishes : FinishId → ℕ × Event conn.interface → Bool}
    (hbegins : ∀ id entry, begins id entry = true ↔ conn.call entry = some (.begin id))
    (hfinishes : ∀ id entry, finishes id entry = true ↔ conn.call entry = some (.finish id))
    (hfresh : ∀ id, before.countP (begins id) ≤ 1)
    (horder : ∀ earlier later, before = earlier ++ later →
      ∀ id, earlier.countP (finishes id) ≤ earlier.countP (begins id))
    (hbalanced : ∀ id, before.countP (finishes id) = before.countP (begins id))
    (hafter : ∀ entry ∈ after, conn.call entry = none) :
    ClosedTrail (trail setup (conn.calls before) (conn.calls after)) := by
  have hnone : conn.calls after = [] := List.filterMap_eq_nil_iff.mpr hafter
  rw [hnone]
  refine closedTrail_of_balanced setup (fun id => ?_) (fun earlier later hcalls id => ?_) fun id => ?_
  · rw [count_calls (hbegins id)]
    exact hfresh id
  · obtain ⟨earlier', later', rfl, rfl, rfl⟩ := List.filterMap_eq_append_iff.mp hcalls
    have hcount := horder earlier' later' rfl id
    rwa [← count_calls (hbegins id), ← count_calls (hfinishes id)] at hcount
  · rw [count_calls (hbegins id), count_calls (hfinishes id)]
    exact hbalanced id

end Calls

section Pod

variable {p : PodSsh.Protocol}

theorem pod_begins (id : FinishId) (entry : ℕ × Event PodSsh.interface) :
    PodSsh.begins id entry = true ↔ (Connection.pod p).call entry = some (.begin id) := by
  obtain ⟨i, op, answer⟩ := entry
  cases op with
  | begin operation => simp [PodSsh.begins, Connection.call]
  | _ => simp [PodSsh.begins, Connection.call]

theorem pod_finishes (id : FinishId) (entry : ℕ × Event PodSsh.interface) :
    PodSsh.finishes id entry = true ↔ (Connection.pod p).call entry = some (.finish id) := by
  obtain ⟨i, op, answer⟩ := entry
  cases op with
  | begin operation => simp [PodSsh.finishes, Connection.call]
  | finish id' result => simp [PodSsh.finishes, Connection.call]
  | _ => simp [PodSsh.finishes, Connection.call]

/-- An event that takes no token is not recorded. -/
theorem pod_call_of_free {entry : ℕ × Event PodSsh.interface}
    (h : PodSsh.lifecycle.takes entry.2.op = 0) : (Connection.pod p).call entry = none := by
  obtain ⟨i, op, answer⟩ := entry
  cases op with
  | begin | finish => exact (Multiset.singleton_ne_zero _ h).elim
  | _ => rfl

variable {before : List (ℕ × Event PodSsh.interface)} {c : p.system.Config}

theorem pod_begins_once (hrun : p.system.RunWhen p.Waits p.connection before c) (id : FinishId) :
    before.countP (PodSsh.begins id) ≤ 1 := by
  refine Stepwise.countP_le_one (hrun.stepwise fun earlier threads i event hwaits hbegins => ?_)
  obtain ⟨op, answer⟩ := event
  cases op with
  | begin operation =>
    obtain ⟨id', hfinish, hfresh⟩ := hwaits.2
    have hid : id' = id := by
      have hbegun : answer.finish = some id := of_decide_eq_true hbegins
      exact Option.some.inj (hfinish.symm.trans hbegun)
    exact hid ▸ hfresh
  | _ => cases hbegins

end Pod

section External

variable {p : SshProxy.Protocol}

theorem external_begins (id : FinishId) (entry : ℕ × Event SshProxy.interface) :
    SshProxy.begins id entry = true ↔ (Connection.external p).call entry = some (.begin id) := by
  obtain ⟨i, op, answer⟩ := entry
  cases op with
  | begin operation => simp [SshProxy.begins, Connection.call]
  | _ => simp [SshProxy.begins, Connection.call]

theorem external_finishes (id : FinishId) (entry : ℕ × Event SshProxy.interface) :
    SshProxy.finishes id entry = true ↔ (Connection.external p).call entry = some (.finish id) := by
  obtain ⟨i, op, answer⟩ := entry
  cases op with
  | begin operation => simp [SshProxy.finishes, Connection.call]
  | finish id' result => simp [SshProxy.finishes, Connection.call]
  | _ => simp [SshProxy.finishes, Connection.call]

variable {before : SshProxy.Trace} {c : p.system.Config}

theorem external_begins_once (hrun : p.system.RunWhen p.Waits p.connection before c)
    (id : FinishId) : before.countP (SshProxy.begins id) ≤ 1 := by
  refine Stepwise.countP_le_one (hrun.stepwise fun earlier threads i event hwaits hbegins => ?_)
  obtain ⟨op, answer⟩ := event
  cases op with
  | begin operation =>
    obtain ⟨id', hfinish, hfresh⟩ := hwaits
    have hid : id' = id := by
      have hbegun : answer.finish = some id := of_decide_eq_true hbegins
      exact Option.some.inj (hfinish.symm.trans hbegun)
    exact hid ▸ hfresh
  | _ => cases hbegins

theorem external_finishes_le (hrun : p.system.Run p.connection before c)
    (horderly : Stepwise SshProxy.Orderly before) (id : FinishId) :
    before.countP (SshProxy.finishes id) ≤ before.countP (SshProxy.begins id) := by
  obtain ⟨states, haccount, -⟩ := SshProxy.accounted_of_run hrun horderly
  have hid := haccount.operations id
  omega

end External

/-- If no goroutine is left that nobody waits for, `connection.end` closes the audit trail of a
connection. -/
theorem connection_end_closes_trail (conn : Connection) (setup : List SetupEvent)
    {before after : List (ℕ × Event conn.interface)} {c c' : conn.system.Config}
    (hbefore : conn.system.RunWhen conn.Waits conn.start before c) (hended : c.Ended 0)
    (hquiesced : conn.Quiesced before c) (hafter : conn.system.Run c after c') :
    ClosedTrail (trail setup (conn.calls before) (conn.calls after)) := by
  cases conn with
  | pod p =>
    obtain ⟨hbalanced, hfree⟩ := PodSsh.operations_settled hbefore hended hquiesced
    refine closedTrail_of_events setup pod_begins pod_finishes (pod_begins_once hbefore)
      (fun earlier later heq id => ?_) hbalanced fun entry hentry =>
        pod_call_of_free (hfree after c' hafter entry hentry)
    subst heq
    obtain ⟨c'', hearlier⟩ := hbefore.of_append
    exact PodSsh.countP_finishes_le hearlier id
  | external p =>
    obtain ⟨hthreads, horderly, hclosed⟩ := hquiesced
    have hnone : after = [] := (hafter.eq_nil_of_ended hthreads).1
    refine closedTrail_of_events setup external_begins external_finishes (external_begins_once hbefore)
      (fun earlier later heq id => ?_) (fun id => ?_) (by simp [hnone])
    · subst heq
      obtain ⟨c'', hearlier⟩ := hbefore.of_append
      exact external_finishes_le hearlier.run horderly.of_append id
    · rcases hclosed with hclosed | hnone
      · obtain ⟨states, haccount, htracks⟩ := SshProxy.accounted_of_run hbefore.run horderly
        exact haccount.finished
          (fun token => SshProxy.eq_forwarding_of_leaves (htracks.done hthreads)) hclosed id
      · have hbegins : before.countP (SshProxy.begins id) = 0 :=
          List.countP_eq_zero.mpr fun entry hentry => hnone entry hentry id
        have hle := external_finishes_le hbefore.run horderly id
        exact le_antisymm hle (hbegins.le.trans (Nat.zero_le _))

/-- The runs of a Pod connection whose commands are single words. -/
abbrev WordRun :=
  PodSsh.wordProtocol.system.RunWhen PodSsh.wordProtocol.Waits PodSsh.wordProtocol.connection

/-- A client of a Pod runs the command `id`; the goroutine of `context.AfterFunc` is left when the
connection ends. And a client of an External Access has a remote forward until it hangs up. -/
theorem connection_end_closes_trail_session :
    (∃ before c, PodSsh.wordProtocol.system.RunWhen PodSsh.wordProtocol.Waits
        PodSsh.wordProtocol.connection before c ∧
      (Connection.pod PodSsh.wordProtocol).calls before = [.begin 0, .finish 0] ∧
      ClosedTrail (trail [.authenticationResult, .targetResolutionResult, .connectionReady]
        ((Connection.pod PodSsh.wordProtocol).calls before) [])) ∧
    ∃ before c, SshProxy.plainProtocol.system.RunWhen SshProxy.plainProtocol.Waits
        SshProxy.plainProtocol.connection before c ∧ before.countP (SshProxy.begins 0) = 1 ∧
      ClosedTrail (trail [.authenticationResult, .targetResolutionResult, .connectionReady]
        ((Connection.external SshProxy.plainProtocol).calls before) []) := by
  refine ⟨?_, ?_⟩
  swap
  · obtain ⟨before, c, hrun, hclosed, hthreads, horderly, hbegins, -⟩ := SshProxy.forwarded_run
    have hended : c.Ended 0 := by
      rw [Config.Ended, hthreads]
      rfl
    exact ⟨before, c, hrun, hbegins, connection_end_closes_trail (.external SshProxy.plainProtocol) _ hrun
      hended ⟨fun _ hthread => List.eq_of_mem_replicate (hthreads ▸ hthread), horderly, Or.inl hclosed⟩ .start⟩
  have h0 : WordRun [] PodSsh.wordProtocol.connection := .start
  have h1 := h0.perform 0 rfl (some ⟨0, channelSession, []⟩ : Option CryptoSsh.NewChannel) rfl
    (waits_free trivial)
  have h2 := h1.perform 0 rfl () rfl (waits_free trivial)
  have h3 : WordRun _ ⟨_, [_, _, _]⟩ := h2.resume 0 rfl
  have h4 := h3.perform 2 rfl (Except.ok () : Except Message Unit) rfl (waits_free trivial)
  have h5 : WordRun _ ⟨_, [_, _, _, _]⟩ := h4.perform 2 rfl () rfl (waits_free trivial)
  have h6 : WordRun _ ⟨_, [_, _, _, _]⟩ := h5.resume 2 rfl
  have h7 := h6.perform 2 rfl (some ⟨requestExec, true, str "id"⟩ : Option CryptoSsh.Request) rfl
    (waits_free trivial)
  have h8 := h7.perform 2 rfl (none : Option Message) rfl (waits_free trivial)
  have h9 : WordRun _ ⟨_, [_, _, _, _, _]⟩ := h8.perform 2 rfl () rfl (waits_free trivial)
  have h10 : WordRun _ ⟨_, [_, _, _, _, _]⟩ := h9.resume 2 rfl
  -- the operation, in goroutine 4
  have h11 := h10.perform 4 rfl (⟨some 0, none⟩ : BeginResult) rfl
    ⟨fun _ _ _ h => h.elim, 0, rfl, by simp [PodSsh.begins]⟩
  have h12 : WordRun _ ⟨_, [_, _, _, _, _]⟩ :=
    h11.perform 4 rfl ((0, none) : ℤ × Option Message) rfl (waits_free trivial)
  have h13 := h12.perform 4 rfl () rfl (waits_free trivial)
  have h14 := h13.perform 4 rfl () rfl (waits_free trivial)
  have h15 := h14.perform 4 rfl () rfl (waits_free trivial)
  have h16 : WordRun _ ⟨_, [_, _, _, _, .pure none]⟩ :=
    h15.perform 4 rfl () rfl (waits_free trivial)
  -- the session ends, and waits for its operation
  have h17 := h16.perform 2 rfl (none : Option CryptoSsh.Request) rfl (waits_free trivial)
  have h18 := h17.perform 2 rfl () rfl (waits_free trivial)
  have h19 : WordRun _ ⟨_, [_, _, _, _, .pure none]⟩ :=
    h18.perform 2 rfl () rfl (waits_free trivial)
  have h20 := h19.perform 2 rfl () rfl (waits_free trivial)
  have h21 : WordRun _ ⟨_, [_, _, .pure none, _, .pure none]⟩ := h20.perform 2 rfl () rfl ⟨(by
      rintro (_ | _ | _ | _ | j) task hj hwaits
      · cases hj
      · cases hj
      · cases hj
        exact hwaits.elim
      · rfl
      · cases hj), trivial⟩
  -- the connection ends, and waits for its handlers
  have h22 : WordRun _ ⟨_, [_, .pure none, .pure none, _, .pure none]⟩ :=
    h21.perform 1 rfl (none : Option CryptoSsh.Request) rfl (waits_free trivial)
  have h23 := h22.perform 0 rfl (none : Option CryptoSsh.NewChannel) rfl (waits_free trivial)
  have h24 := h23.perform 0 rfl () rfl (waits_free trivial)
  have h25 : WordRun _ ⟨_, [_, .pure none, .pure none, _, .pure none]⟩ :=
    h24.perform 0 rfl ([] : List PodSsh.RemoteForward) ⟨.nil, rfl⟩ (waits_free trivial)
  have h26 : WordRun _ ⟨_, [.pure none, .pure none, .pure none, _, .pure none]⟩ :=
    h25.perform 0 rfl () rfl ⟨(by
      rintro (_ | _ | j) task hj hwaits
      · rfl
      · rfl
      · rcases j with _ | _ | j <;> cases hj), trivial⟩
  refine ⟨_, _, h26, rfl, connection_end_closes_trail (.pod PodSsh.wordProtocol) _ h26 rfl ?_ .start⟩
  rintro (_ | _ | _ | _ | j) _ _ _ _ _ _ hj <;> cases hj

/-- A Pod connection that has ended, while the accept loop of a remote forward is left. -/
def forwardLeft : PodSsh.wordProtocol.system.Config where
  world := ({ closed := true } : PodSsh.ClientState)
  threads := [.pure none, .pure none,
    PodSsh.serveRemoteForward (PodSsh.newRemoteForwardBind (str "h") 0) (str "h") 0 ⟨0, 0⟩ (some 0)]

/-- A client requests a remote forward and closes the connection. Goroutine 2 is to accept
connections of the forward; it ends after `connection.end`, and only then the operation ends. -/
theorem operation_ends_after_connection :
    ∃ before c after c', PodSsh.wordProtocol.system.RunWhen PodSsh.wordProtocol.Waits
        PodSsh.wordProtocol.connection before c ∧ c.Ended 0 ∧ PodSsh.wordProtocol.system.Run c after c' ∧
      trail [.authenticationResult, .targetResolutionResult, .connectionReady]
          ((Connection.pod PodSsh.wordProtocol).calls before) ((Connection.pod PodSsh.wordProtocol).calls after)
        = [.connectionStart, .setup .authenticationResult, .setup .targetResolutionResult,
          .setup .connectionReady, .operationStart 0, .connectionEnd, .operationEnd 0] ∧
      ¬ ClosedTrail (trail [.authenticationResult, .targetResolutionResult, .connectionReady]
          ((Connection.pod PodSsh.wordProtocol).calls before)
          ((Connection.pod PodSsh.wordProtocol).calls after)) := by
  have h0 : WordRun [] PodSsh.wordProtocol.connection := .start
  have h1 := h0.perform 1 rfl
    (some ⟨requestTCPIPForward, true, str "h"⟩ : Option CryptoSsh.Request) rfl
    (waits_free trivial)
  have h2 := h1.perform 1 rfl (⟨some 0, none⟩ : BeginResult) rfl
    ⟨fun _ _ _ h => h.elim, 0, rfl, by simp [PodSsh.begins]⟩
  have h3 : WordRun _ ⟨_, [_, _]⟩ :=
    h2.perform 1 rfl (.ok ⟨0, 0⟩ : Except Message PodSsh.RemoteForward) rfl
      (waits_free trivial)
  have h4 : WordRun _ ⟨_, [_, _]⟩ := h3.perform 1 rfl true rfl (waits_free trivial)
  have h5 : WordRun _ ⟨_, [_, _, _]⟩ := h4.perform 1 rfl () rfl (waits_free trivial)
  have h6 := h5.perform 1 rfl () rfl (waits_free trivial)
  have h7 : WordRun _ ⟨_, [_, _, _]⟩ := h6.resume 1 rfl
  -- the client closes the connection
  have h8 : WordRun _ ⟨_, [_, .pure none, _]⟩ :=
    h7.perform 1 rfl (none : Option CryptoSsh.Request) rfl (waits_free trivial)
  have h9 := h8.perform 0 rfl (none : Option CryptoSsh.NewChannel) rfl (waits_free trivial)
  have h10 : WordRun _ ⟨_, [_, .pure none, _]⟩ := h9.perform 0 rfl () rfl (waits_free trivial)
  have h11 : WordRun _ ⟨_, [_, .pure none, _]⟩ :=
    h10.perform 0 rfl ([⟨0, 0⟩] : List PodSsh.RemoteForward) ⟨.refl _, rfl⟩
      (waits_free trivial)
  have h12 : WordRun _ ⟨_, [_, .pure none, _]⟩ := h11.perform 0 rfl () rfl (waits_free trivial)
  have h13 : PodSsh.wordProtocol.system.RunWhen _ _ _ forwardLeft :=
    h12.perform 0 rfl () rfl ⟨(by
      rintro (_ | _ | j) task hj hwaits
      · rfl
      · cases hj
      · cases hj), trivial⟩
  -- the accept loop sees the end of its forward
  have hstart : PodSsh.wordProtocol.system.Run forwardLeft [] forwardLeft := .start
  have h14 := hstart.perform 2 rfl (.error ⟨[], true⟩ : Except PodSsh.AcceptError PodSsh.RemoteConn) rfl
  have h15 : PodSsh.wordProtocol.system.Run _ _ ⟨_, [.pure none, .pure none, _]⟩ :=
    h14.perform 2 rfl true rfl
  have h16 : PodSsh.wordProtocol.system.Run _ _ ⟨_, [.pure none, .pure none, _]⟩ :=
    h15.perform 2 rfl (none : Option PodSsh.RemoteForward) rfl
  have h17 := h16.perform 2 rfl () rfl
  refine ⟨_, _, _, _, h13, rfl, h17, rfl, ?_⟩
  rintro ⟨events, htrail, -⟩
  have hlast := congrArg List.getLast? htrail
  rw [List.getLast?_concat] at hlast
  cases hlast

end KubeSsh.Gateway

import KubeSsh.SshProxy.Connecting
import KubeSsh.SshProxy.CriticalSections

/-!
# `pkg/sshproxy`: the one upstream connection

What the goroutines hold between them is accounted for in `Account`: one of them runs `connectOnce`,
and every connection that `Connect` returned is in the hands of one of them, stored in the proxy, or
closed. `ConnectStep` says what each step does to the account.

`one_upstream` is what follows for every run, with any number of messages and closings at a time.
-/

namespace KubeSsh.SshProxy

open SshProtocol CryptoSsh KubeSsh.System Prog

/-! ## The account -/

/-- What the shared state says about the connection. -/
structure ConnectState where
  connectOnce : ConnectOnce
  upstream : Bool
  connectErr : Option Message
  closed : Bool

def ProxyState.connectState (s : ProxyState) : ConnectState where
  connectOnce := s.connectOnce
  upstream := s.upstream
  connectErr := s.connectErr
  closed := s.closed

/-- A goroutine in this phase has no part in the account. -/
def Uncounted (s : ConnectPhase) : Prop := Rests s ∨ s = .leaving

/-- A step of a goroutine from one phase to another, with the number of calls of `Connect`, of the
connections that it returns and of the closings in this step. -/
inductive ConnectStep : ConnectState → ConnectPhase → ConnectState → ConnectPhase → ℕ → ℕ → ℕ → Prop
  | same {w : ConnectState} {s s' : ConnectPhase} (h : Uncounted s ∧ Uncounted s' ∨ s' = s) :
      ConnectStep w s w s' 0 0 0
  | chosen {w : ConnectState} (h : w.connectOnce = .notStarted) :
      ConnectStep w (.idle true) { w with connectOnce := .running } .chosen 0 0 0
  | waited {w : ConnectState} (h : w.connectOnce = .done) : ConnectStep w (.idle true) w .ready 0 0 0
  | connected {w : ConnectState} : ConnectStep w .chosen w .connected 1 1 0
  | failed {w : ConnectState} : ConnectStep w .chosen w .failed 1 0 0
  | reported {w : ConnectState} (err : Message) :
      ConnectStep w .failed { w with connectErr := some err } .settled 0 0 0
  | kept {w : ConnectState} (h : w.closed = false) :
      ConnectStep w .connected { w with upstream := true } .settled 0 0 0
  | refused {w : ConnectState} (h : w.closed = true) (err : Message) :
      ConnectStep w .connected { w with connectErr := some err } .refused 0 0 0
  | hungUp {w : ConnectState} : ConnectStep w .refused w .settled 0 0 1
  | done {w : ConnectState} : ConnectStep w .settled { w with connectOnce := .done } .ready 0 0 0
  | returned {w : ConnectState} : ConnectStep w .ready w (.idle false) 0 0 0
  | close {w : ConnectState} {s : ConnectPhase} (hs : Uncounted s) (h : w.closed = false) :
      ConnectStep w s { w with closed := true } (if w.upstream then .closing else .idle false) 0 0 0
  | closed {w : ConnectState} : ConnectStep w .closing w (.idle false) 0 0 1

/-- The shared state against the number of goroutines in each phase, the calls of `Connect`, the
connections that it returned and the closings. One goroutine runs `connectOnce`, until it is done.
Each connection that `Connect` returned is held by a goroutine, stored in the open proxy, or
closed. -/
structure Account (w : ConnectState) (n : ConnectPhase → ℕ) (connects connections closings : ℕ) :
    Prop where
  busy : n .chosen + n .connected + n .failed + n .refused + n .settled
    = if w.connectOnce = .running then 1 else 0
  ready : 0 < n .ready → w.connectOnce = .done
  connects : connects + n .chosen = if w.connectOnce = .notStarted then 0 else 1
  stored : w.upstream = true → w.connectOnce = .done ∨ 0 < n .settled
  outcome : w.connectOnce = .done ∨ 0 < n .settled ∨ 0 < n .refused →
    w.upstream = true ∨ w.connectErr ≠ none
  balance : connections = n .connected + n .refused + n .closing + closings +
    if w.upstream = true ∧ w.closed = false then 1 else 0

/-- A goroutine moves from one phase to another. -/
def Moved (n n' : ConnectPhase → ℕ) (s s' : ConnectPhase) : Prop :=
  ∀ φ, ¬ Rests φ → n' φ + (if s = φ then 1 else 0) = n φ + (if s' = φ then 1 else 0)

section Account

variable {w w' : ConnectState} {n n' : ConnectPhase → ℕ} {a b c da db dc : ℕ} {s s' : ConnectPhase}

theorem moved_set {states : List ConnectPhase} {i : ℕ} (hi : states[i]? = some s)
    (s' : ConnectPhase) (tasks : List Task) :
    Moved (fun φ => states.count φ)
      (fun φ => (states.set i s' ++ tasks.map fun _ => ConnectPhase.idle false).count φ) s s' := by
  intro φ hφ
  have hstarted : (tasks.map fun _ => ConnectPhase.idle false).count φ = 0 := by
    refine List.count_eq_zero.mpr fun hmem => hφ ?_
    obtain ⟨_, -, rfl⟩ := List.mem_map.mp hmem
    exact ⟨false, rfl⟩
  have hcount := count_step hi s' (tasks.map fun _ => ConnectPhase.idle false) φ
  rwa [hstarted, Nat.add_zero] at hcount

theorem Moved.counts (h : Moved n n' s s') :
    n' .chosen + (if s = .chosen then 1 else 0) = n .chosen + (if s' = .chosen then 1 else 0) ∧
    n' .connected + (if s = .connected then 1 else 0) = n .connected + (if s' = .connected then 1 else 0) ∧
    n' .failed + (if s = .failed then 1 else 0) = n .failed + (if s' = .failed then 1 else 0) ∧
    n' .refused + (if s = .refused then 1 else 0) = n .refused + (if s' = .refused then 1 else 0) ∧
    n' .settled + (if s = .settled then 1 else 0) = n .settled + (if s' = .settled then 1 else 0) ∧
    n' .ready + (if s = .ready then 1 else 0) = n .ready + (if s' = .ready then 1 else 0) ∧
    n' .closing + (if s = .closing then 1 else 0) = n .closing + (if s' = .closing then 1 else 0) :=
  ⟨h _ nofun, h _ nofun, h _ nofun, h _ nofun, h _ nofun, h _ nofun, h _ nofun⟩

theorem account_start (hn : ∀ φ, ¬ Rests φ → n φ = 0) : Account ({} : ProxyState).connectState n 0 0 0 := by
  have hcounts : n .chosen = 0 ∧ n .connected = 0 ∧ n .failed = 0 ∧ n .refused = 0 ∧ n .settled = 0
      ∧ n .ready = 0 ∧ n .closing = 0 :=
    ⟨hn _ nofun, hn _ nofun, hn _ nofun, hn _ nofun, hn _ nofun, hn _ nofun, hn _ nofun⟩
  constructor <;> simp [hcounts, ProxyState.connectState]

theorem Account.step (h : Account w n a b c) (hstep : ConnectStep w s w' s' da db dc)
    (hmoved : Moved n n' s s') : Account w' n' (a + da) (b + db) (c + dc) := by
  obtain ⟨busy, ready, connects, stored, outcome, balance⟩ := h
  have hcounts := hmoved.counts
  clear hmoved
  cases hstep with
  | same h =>
    have hn : n' .chosen = n .chosen ∧ n' .connected = n .connected ∧ n' .failed = n .failed ∧
        n' .refused = n .refused ∧ n' .settled = n .settled ∧ n' .ready = n .ready ∧
        n' .closing = n .closing := by
      unfold Uncounted Rests at h
      grind -ring -linarith
    constructor <;> grind -ring -linarith
  | close hs h =>
    have hs : (∃ admitted, s = .idle admitted) ∨ s = .leaving := hs
    constructor <;> grind -ring -linarith
  | _ =>
    simp only [reduceCtorEq, if_true, if_false, Nat.add_zero] at hcounts
    constructor <;> grind -ring -linarith

end Account

/-! ## The steps of the goroutines -/

/-- The operation is a call of `Connect`. -/
def Op.connects : Op → Bool
  | .connect _ => true
  | _ => false

/-- What `Connect` returned is a connection. -/
def returnsConnection (op : Op) (answer : op.Answer) : Bool :=
  match op, answer with
  | .connect _, (connected : Except Message Unit) => connected.isOk
  | _, _ => false

/-- The operation closes the upstream connection. -/
def Op.hangsUp : Op → Bool
  | .closeConn .upstream => true
  | _ => false

section Step

variable {world world' : ProxyState} {s : ConnectPhase} {op : Op} {answer : op.Answer}

/-- The operation changes nothing about the connection. -/
theorem connectState_of_unconnected (h : Answers world op answer world') (hop : op.Unconnected) :
    world'.connectState = world.connectState := by
  cases op with
  | addRemoteForward key finish =>
    rcases addRemoteForward_cases h with ⟨-, -, rfl⟩ | ⟨-, -, rfl⟩ <;> rfl
  | removeRemoteForward key =>
    obtain ⟨-, rfl⟩ := removeRemoteForward_answer h
    rfl
  | setAgentForward finish =>
    rcases setAgentForward_cases h with ⟨-, -, rfl⟩ | ⟨-, -, rfl⟩ <;> rfl
  | replaceFinish c finish =>
    obtain ⟨-, rfl⟩ := replaceFinish_answer h
    rfl
  | takeFinish c =>
    obtain ⟨-, rfl⟩ := takeFinish_answer h
    rfl
  | newProxiedChannel | recordExitStatus =>
    obtain rfl := h
    rfl
  | hasRemoteForward | hasAgentForward =>
    obtain ⟨-, rfl⟩ := h
    rfl
  | connectionProxy | closeProtocol | connectOnce | connect | setConnectErr | setUpstream | connectDone
  | connection | close => exact hop.elim
  | _ =>
    obtain rfl : world' = world := h
    rfl

theorem connectionProxy_cases {created : Bool} (h : Answers world .connectionProxy created world') :
    world.protocolClosed = true ∧ created = false ∧ world' = world ∨
      world.protocolClosed = false ∧ created = true ∧ world' = { world with proxyCreated := true } := by
  have heq : world.connectionProxy = (created, world') := h
  unfold ProxyState.connectionProxy at heq
  by_cases hclosed : world.protocolClosed = true
  · rw [if_pos hclosed, Prod.mk.injEq] at heq
    exact Or.inl ⟨hclosed, heq.1.symm, heq.2.symm⟩
  · rw [if_neg hclosed, Prod.mk.injEq] at heq
    exact Or.inr ⟨by simpa using hclosed, heq.1.symm, heq.2.symm⟩

theorem closeProtocol_answer {created : Bool} (h : Answers world .closeProtocol created world') :
    created = world.proxyCreated ∧
      world' = { world with protocolClosed := true, proxyCreated := false } := by
  have heq : world.closeProtocol = (created, world') := h
  exact ⟨(congrArg Prod.fst heq).symm, (congrArg Prod.snd heq).symm⟩

theorem setUpstream_cases {kept : Bool} (h : Answers world .setUpstream kept world') :
    world.closed = true ∧ kept = false ∧ world' = { world with connectErr := some contextCanceled }
      ∨ world.closed = false ∧ kept = true ∧ world' = { world with upstream := true } := by
  have heq : world.setUpstream = (kept, world') := h
  unfold ProxyState.setUpstream at heq
  by_cases hclosed : world.closed = true
  · rw [if_pos hclosed, Prod.mk.injEq] at heq
    exact Or.inl ⟨hclosed, heq.1.symm, heq.2.symm⟩
  · rw [if_neg hclosed, Prod.mk.injEq] at heq
    exact Or.inr ⟨by simpa using hclosed, heq.1.symm, heq.2.symm⟩

/-- `close` says whether there is a connection. -/
theorem close_upstream {upstream : Bool} {finishes : List (Option FinishId)}
    (h : Answers world .close (some (upstream, finishes)) world') : upstream = world.upstream := by
  obtain ⟨-, hanswer⟩ := h
  unfold ProxyState.close at hanswer
  by_cases hclosed : world.closed = true
  · rw [if_pos hclosed] at hanswer
    exact hanswer.elim
  · rw [if_neg hclosed] at hanswer
    exact hanswer.1.symm

theorem connectStep_close (hs : Uncounted s) {closed : Option (Bool × List (Option FinishId))}
    (h : Answers world .close closed world') :
    ConnectStep world.connectState s world'.connectState (connecting.next s .close closed) 0 0 0 := by
  rcases close_cases h with ⟨-, rfl, rfl⟩ | ⟨upstream, finishes, hopen, rfl, -, hworld⟩
  · exact .same (Or.inl ⟨hs, Or.inl ⟨false, rfl⟩⟩)
  · have hnext : connecting.next s .close (some (upstream, finishes))
        = if world.connectState.upstream then .closing else .idle false := by
      rw [close_upstream h]
      change connecting.next s .close (some (world.upstream, finishes))
        = if world.upstream then .closing else .idle false
      cases world.upstream <;> rfl
    rw [hnext, hworld]
    exact .close hs hopen

/-- What a goroutine does in its phase is a step of the account. -/
theorem connectStep_of_answers (hallowed : connecting.Allowed s op)
    (h : Answers world op answer world') :
    ConnectStep world.connectState s world'.connectState (connecting.next s op answer)
      op.connects.toNat (returnsConnection op answer).toNat op.hangsUp.toNat := by
  cases s with
  | idle admitted =>
    cases op with
    | connect | setConnectErr | setUpstream | connectDone | connection => exact hallowed.elim
    | closeConn side =>
      cases side with
      | upstream => exact hallowed.elim
      | downstream =>
        obtain rfl : world' = world := h
        exact .same (Or.inr rfl)
    | connectOnce =>
      obtain rfl : admitted = true := hallowed
      rcases h with ⟨rfl, hworld, rfl⟩ | ⟨rfl, hworld, rfl⟩
      · exact .chosen hworld
      · exact .waited hworld
    | connectionProxy =>
      rcases connectionProxy_cases h with ⟨-, rfl, rfl⟩ | ⟨-, rfl, rfl⟩
      · exact .same (Or.inl ⟨Or.inl ⟨_, rfl⟩, Or.inl ⟨_, rfl⟩⟩)
      · exact .same (Or.inl ⟨Or.inl ⟨_, rfl⟩, Or.inl ⟨_, rfl⟩⟩)
    | closeProtocol =>
      obtain ⟨-, rfl⟩ := closeProtocol_answer h
      refine .same (Or.inl ⟨Or.inl ⟨_, rfl⟩, ?_⟩)
      cases (answer : Bool) with
      | true => exact Or.inr rfl
      | false => exact Or.inl ⟨false, rfl⟩
    | close => exact connectStep_close (Or.inl ⟨_, rfl⟩) h
    | nextGlobalRequest side =>
      obtain rfl : world' = world := h
      cases side with
      | downstream => exact .same (Or.inl ⟨Or.inl ⟨_, rfl⟩, Or.inl ⟨_, rfl⟩⟩)
      | upstream => exact .same (Or.inr rfl)
    | _ =>
      rw [connectState_of_unconnected h trivial]
      exact .same (Or.inr rfl)
  | chosen =>
    obtain ⟨target, rfl⟩ := hallowed
    obtain rfl : world' = world := h
    rcases (answer : Except Message Unit) with err | _
    · exact .failed
    · exact .connected
  | connected =>
    obtain rfl := hallowed
    rcases setUpstream_cases h with ⟨hclosed, rfl, rfl⟩ | ⟨hclosed, rfl, rfl⟩
    · exact .refused hclosed _
    · exact .kept hclosed
  | failed =>
    obtain ⟨err, rfl⟩ := hallowed
    obtain rfl := h
    exact .reported err
  | settled =>
    rcases hallowed with rfl | ⟨task, rfl⟩
    · obtain rfl := h
      exact .done
    · obtain rfl : world' = world := h
      exact .same (Or.inr rfl)
  | ready =>
    obtain rfl := hallowed
    obtain ⟨-, rfl⟩ := h
    exact .returned
  | leaving =>
    obtain rfl := hallowed
    exact connectStep_close (Or.inr rfl) h
  | refused =>
    obtain rfl := hallowed
    obtain rfl : world' = world := h
    exact .hungUp
  | closing =>
    obtain rfl := hallowed
    obtain rfl : world' = world := h
    exact .closed

/-- `Protocol` is changed by its own two critical sections only. -/
theorem protocol_of_answers (h : Answers world op answer world') (hproxy : op ≠ .connectionProxy)
    (hclose : op ≠ .closeProtocol) :
    world'.protocolClosed = world.protocolClosed ∧ world'.proxyCreated = world.proxyCreated := by
  cases op with
  | connectionProxy => exact absurd rfl hproxy
  | closeProtocol => exact absurd rfl hclose
  | connectOnce => rcases h with ⟨-, -, rfl⟩ | ⟨-, -, rfl⟩ <;> exact ⟨rfl, rfl⟩
  | setUpstream => rcases setUpstream_cases h with ⟨-, -, rfl⟩ | ⟨-, -, rfl⟩ <;> exact ⟨rfl, rfl⟩
  | close => rcases close_cases h with ⟨-, -, rfl⟩ | ⟨_, _, -, -, -, rfl⟩ <;> exact ⟨rfl, rfl⟩
  | addRemoteForward key finish =>
    rcases addRemoteForward_cases h with ⟨-, -, rfl⟩ | ⟨-, -, rfl⟩ <;> exact ⟨rfl, rfl⟩
  | removeRemoteForward key =>
    obtain ⟨-, rfl⟩ := removeRemoteForward_answer h
    exact ⟨rfl, rfl⟩
  | setAgentForward finish =>
    rcases setAgentForward_cases h with ⟨-, -, rfl⟩ | ⟨-, -, rfl⟩ <;> exact ⟨rfl, rfl⟩
  | replaceFinish c finish =>
    obtain ⟨-, rfl⟩ := replaceFinish_answer h
    exact ⟨rfl, rfl⟩
  | takeFinish c =>
    obtain ⟨-, rfl⟩ := takeFinish_answer h
    exact ⟨rfl, rfl⟩
  | connection | hasRemoteForward | hasAgentForward =>
    obtain ⟨-, rfl⟩ := h
    exact ⟨rfl, rfl⟩
  | newProxiedChannel | recordExitStatus | setConnectErr | connectDone =>
    obtain rfl := h
    exact ⟨rfl, rfl⟩
  | _ =>
    obtain rfl : world' = world := h
    exact ⟨rfl, rfl⟩

/-- How a goroutine gets into a phase, from the phase before and what it did: it is admitted by
`connectionProxy`, until it receives the next message. -/
def Entered (s : ConnectPhase) (event : Event interface) : ConnectPhase → Prop
  | .idle true =>
    event = ⟨.connectionProxy, true⟩ ∨ s = .idle true ∧ event.op ≠ .nextGlobalRequest .downstream
  | .chosen => s = .idle true ∧ event.op = .connectOnce
  | .leaving => event = ⟨.closeProtocol, true⟩
  | _ => True

theorem entered_next (hallowed : connecting.Allowed s op) :
    Entered s ⟨op, answer⟩ (connecting.next s op answer) := by
  cases s with
  | idle admitted =>
    have hsame (hop : op ≠ .nextGlobalRequest .downstream) : Entered (.idle admitted) ⟨op, answer⟩
        (.idle admitted) := by
      cases admitted with
      | false => trivial
      | true => exact Or.inr ⟨rfl, hop⟩
    cases op with
    | connectionProxy =>
      cases (answer : Bool) with
      | false => trivial
      | true => exact Or.inl rfl
    | closeProtocol =>
      cases (answer : Bool) with
      | false => trivial
      | true => rfl
    | connectOnce =>
      obtain rfl : admitted = true := hallowed
      cases (answer : Bool) with
      | false => trivial
      | true => exact ⟨rfl, rfl⟩
    | connect | setConnectErr | setUpstream | connectDone | connection => exact hallowed.elim
    | close =>
      rcases (answer : Option (Bool × List (Option FinishId))) with _ | ⟨_ | _, _⟩ <;> trivial
    | closeConn side =>
      cases side with
      | upstream => exact hallowed.elim
      | downstream => exact hsame nofun
    | nextGlobalRequest side =>
      cases side with
      | downstream => trivial
      | upstream => exact hsame nofun
    | _ => exact hsame nofun
  | chosen =>
    obtain ⟨target, rfl⟩ := hallowed
    rcases (answer : Except Message Unit) with _ | _ <;> trivial
  | connected =>
    obtain rfl := hallowed
    cases (answer : Bool) <;> trivial
  | failed =>
    obtain ⟨err, rfl⟩ := hallowed
    trivial
  | settled => rcases hallowed with rfl | ⟨task, rfl⟩ <;> trivial
  | leaving =>
    obtain rfl := hallowed
    rcases (answer : Option (Bool × List (Option FinishId))) with _ | ⟨_ | _, _⟩ <;> trivial
  | ready | refused | closing =>
    obtain rfl := hallowed
    trivial

end Step

/-! ## Runs -/

/-- A call of `Connect`. -/
def isConnect (entry : ℕ × Event interface) : Bool := Op.connects entry.2.op

/-- A call of `Connect` that returned a connection. -/
def isConnection (entry : ℕ × Event interface) : Bool := returnsConnection entry.2.op entry.2.answer

/-- A closing of the upstream connection. -/
def isHangUp (entry : ℕ × Event interface) : Bool := Op.hangsUp entry.2.op

/-- The goroutine was given the proxy for the message it is at, and no `Close` had begun before. -/
def Admitted (i : ℕ) : Trace → Prop :=
  Since (fun earlier entry => entry = (i, ⟨.connectionProxy, true⟩) ∧ ∀ e ∈ earlier,
    e.2.op ≠ .closeProtocol) fun entry => entry.1 = i ∧ entry.2.op = .nextGlobalRequest .downstream

/-- What holds along a run of the events, the shared state and the phases. -/
structure Connections (trace : Trace) (world : ProxyState) (states : List ConnectPhase) : Prop where
  account : Account world.connectState (fun φ => states.count φ) (trace.countP isConnect)
    (trace.countP isConnection) (trace.countP isHangUp)
  hangsUp : Stepwise (fun before entry => isHangUp entry = true →
    ∃ earlier ∈ before, isConnection earlier = true) trace
  closed : (∃ entry ∈ trace, entry.2.op = .close) → world.closed = true
  protocolClosed : (∃ entry ∈ trace, entry.2.op = .closeProtocol) → world.protocolClosed = true
  proxyTaken : world.protocolClosed = true → world.proxyCreated = false
  proxyCreated : (∃ i, (i, ⟨.connectionProxy, true⟩) ∈ trace) →
    world.proxyCreated = true ∨ world.closed = true ∨ .leaving ∈ states
  leaving : ∀ i, states[i]? = some .leaving → (eventsOf i trace).getLast? = some ⟨.closeProtocol, true⟩
  admitted : ∀ i s, states[i]? = some s → s = .idle true ∨ s = .chosen → Admitted i trace
  connects : Stepwise (fun before entry => isConnect entry = true → Admitted entry.1 before) trace

section Run

variable {trace : Trace} {world world' : ProxyState} {states : List ConnectPhase} {i : ℕ}
  {s : ConnectPhase} {op : Op} {answer : op.Answer}

theorem countP_concat (b : ℕ × Event interface → Bool) (entry : ℕ × Event interface) :
    (trace ++ [entry]).countP b = trace.countP b + (b entry).toNat := by
  rw [List.countP_append]
  cases h : b entry <;> simp [h]

theorem connections_start (tasks : List Task) : Connections [] {} (tasks.map fun _ => .idle false) := by
  have hstate (s : ConnectPhase) (h : s ∈ tasks.map fun _ => ConnectPhase.idle false) : s = .idle false := by
    obtain ⟨_, -, rfl⟩ := List.mem_map.mp h
    rfl
  refine ⟨account_start fun φ hφ => List.count_eq_zero.mpr fun hmem => hφ ⟨false, hstate φ hmem⟩,
    stepwise_nil, nofun, nofun, nofun, nofun, fun i h => ?_, fun i s h hs => ?_, stepwise_nil⟩
  · cases hstate _ (List.mem_of_getElem? h)
  · rw [hstate s (List.mem_of_getElem? h)] at hs
    rcases hs with hs | hs <;> cases hs

theorem Connections.account_step (h : Connections trace world states) (hi : states[i]? = some s)
    (hallowed : connecting.Allowed s op) (hanswer : Answers world op answer world') (tasks : List Task) :
    Account world'.connectState
      (fun φ => (states.set i (connecting.next s op answer) ++ tasks.map fun _ => ConnectPhase.idle false).count φ)
      (List.countP isConnect (trace ++ [(i, ⟨op, answer⟩)]))
      (List.countP isConnection (trace ++ [(i, ⟨op, answer⟩)]))
      (List.countP isHangUp (trace ++ [(i, ⟨op, answer⟩)])) := by
  rw [countP_concat, countP_concat, countP_concat]
  exact h.account.step (connectStep_of_answers hallowed hanswer) (moved_set hi _ tasks)

/-- Only a goroutine that holds a connection closes it. -/
theorem Connections.hangsUp_step (h : Connections trace world states) (hi : states[i]? = some s)
    (hallowed : connecting.Allowed s op) (hop : op.hangsUp = true) :
    ∃ earlier ∈ trace, isConnection earlier = true := by
  have hs : s = .refused ∨ s = .closing := by
    cases s with
    | idle admitted =>
      cases op with
      | closeConn side => cases side <;> first | exact hallowed.elim | cases hop
      | _ => cases hop
    | chosen | failed =>
      obtain ⟨_, rfl⟩ := hallowed
      cases hop
    | settled => rcases hallowed with rfl | ⟨_, rfl⟩ <;> cases hop
    | connected | ready | leaving =>
      obtain rfl := hallowed
      cases hop
    | refused => exact Or.inl rfl
    | closing => exact Or.inr rfl
  have hpos : 0 < states.count s := List.count_pos_iff.mpr (List.mem_of_getElem? hi)
  have hbalance := h.account.balance
  refine List.countP_pos_iff.mp ?_
  rcases hs with rfl | rfl <;> omega

/-- The proxy is closed after `close`, and stays so. -/
theorem closed_of_answers_close (hanswer : Answers world op answer world')
    (h : op = .close ∨ world.closed = true) : world'.closed = true := by
  by_cases hop : op = .close
  · subst hop
    rcases close_cases hanswer with ⟨hclosed, -, rfl⟩ | ⟨_, _, -, -, -, rfl⟩
    · exact hclosed
    · rfl
  · rw [closed_of_ne_close hanswer hop]
    exact h.resolve_left hop

theorem Connections.closed_step (h : Connections trace world states)
    (hanswer : Answers world op answer world')
    (hclose : ∃ entry ∈ trace ++ [(i, (⟨op, answer⟩ : Event interface))], entry.2.op = .close) :
    world'.closed = true := by
  refine closed_of_answers_close hanswer ?_
  obtain ⟨entry, hmem, hentry⟩ := hclose
  rcases List.mem_append.mp hmem with hmem | hmem
  · exact Or.inr (h.closed ⟨entry, hmem, hentry⟩)
  · obtain rfl := List.mem_singleton.mp hmem
    exact Or.inl hentry

theorem Connections.protocolClosed_step (h : Connections trace world states)
    (hanswer : Answers world op answer world')
    (hclose : ∃ entry ∈ trace ++ [(i, (⟨op, answer⟩ : Event interface))], entry.2.op = .closeProtocol) :
    world'.protocolClosed = true := by
  by_cases hop : op = .closeProtocol
  · subst hop
    obtain ⟨-, rfl⟩ := closeProtocol_answer hanswer
    rfl
  obtain ⟨entry, hmem, hentry⟩ := hclose
  have hclosed : world.protocolClosed = true := by
    rcases List.mem_append.mp hmem with hmem | hmem
    · exact h.protocolClosed ⟨entry, hmem, hentry⟩
    · obtain rfl := List.mem_singleton.mp hmem
      exact absurd hentry hop
  by_cases hproxy : op = .connectionProxy
  · subst hproxy
    rcases connectionProxy_cases hanswer with ⟨-, -, rfl⟩ | ⟨hopen, -, -⟩
    · exact hclosed
    · rw [hopen] at hclosed
      cases hclosed
  · rw [(protocol_of_answers hanswer hproxy hop).1]
    exact hclosed

theorem Connections.proxyTaken_step (h : Connections trace world states)
    (hanswer : Answers world op answer world') (hclosed : world'.protocolClosed = true) :
    world'.proxyCreated = false := by
  by_cases hop : op = .closeProtocol
  · subst hop
    obtain ⟨-, rfl⟩ := closeProtocol_answer hanswer
    rfl
  by_cases hproxy : op = .connectionProxy
  · subst hproxy
    rcases connectionProxy_cases hanswer with ⟨hclosed', -, rfl⟩ | ⟨hopen, -, rfl⟩
    · exact h.proxyTaken hclosed'
    · exact absurd (hopen.symm.trans hclosed) nofun
  · obtain ⟨hprotocol, hcreated⟩ := protocol_of_answers hanswer hproxy hop
    rw [hcreated]
    exact h.proxyTaken (hprotocol ▸ hclosed)

/-- A goroutine inside `Close` stays there until it closes the proxy. -/
theorem leaving_mem_step (hleaving : .leaving ∈ states) (hi : states[i]? = some s)
    (hallowed : connecting.Allowed s op) (hop : op ≠ .close) (s' : ConnectPhase)
    (started : List ConnectPhase) : .leaving ∈ states.set i s' ++ started := by
  obtain ⟨j, hj⟩ := List.mem_iff_getElem?.mp hleaving
  have hij : i ≠ j := by
    rintro rfl
    obtain rfl := Option.some.inj (hi.symm.trans hj)
    exact hop hallowed
  refine List.mem_append_left started (List.mem_iff_getElem?.mpr ⟨j, ?_⟩)
  rw [List.getElem?_set_ne hij]
  exact hj

theorem Connections.proxyCreated_step (h : Connections trace world states) (hi : states[i]? = some s)
    (hallowed : connecting.Allowed s op) (hanswer : Answers world op answer world')
    (hproxied : ∃ j, (j, ⟨.connectionProxy, true⟩) ∈ trace ++ [(i, (⟨op, answer⟩ : Event interface))])
    (started : List ConnectPhase) :
    world'.proxyCreated = true ∨ world'.closed = true ∨
      .leaving ∈ states.set i (connecting.next s op answer) ++ started := by
  by_cases hclose : op = .close
  · exact Or.inr (Or.inl (closed_of_answers_close hanswer (Or.inl hclose)))
  obtain ⟨j, hj⟩ := hproxied
  rcases List.mem_append.mp hj with hj | hj
  · rcases h.proxyCreated ⟨j, hj⟩ with hcreated | hclosed | hleaving
    · by_cases hproxy : op = .connectionProxy
      · subst hproxy
        rcases connectionProxy_cases hanswer with ⟨-, -, rfl⟩ | ⟨-, -, rfl⟩
        · exact Or.inl hcreated
        · exact Or.inl rfl
      by_cases hop : op = .closeProtocol
      · -- the goroutine takes the proxy
        subst hop
        obtain ⟨hanswer', rfl⟩ := closeProtocol_answer hanswer
        have hnext : connecting.next s .closeProtocol answer = .leaving :=
          if_pos (hanswer'.trans hcreated)
        rw [hnext]
        have hlt : i < states.length := (List.getElem?_eq_some_iff.mp hi).1
        exact Or.inr (Or.inr (List.mem_append_left started (List.mem_set hlt _)))
      · rw [(protocol_of_answers hanswer hproxy hop).2]
        exact Or.inl hcreated
    · exact Or.inr (Or.inl (closed_of_answers_close hanswer (Or.inr hclosed)))
    · exact Or.inr (Or.inr (leaving_mem_step hleaving hi hallowed hclose _ started))
  · obtain ⟨-, heq⟩ := Prod.mk.inj (List.mem_singleton.mp hj)
    cases heq
    rcases connectionProxy_cases hanswer with ⟨-, hfalse, -⟩ | ⟨-, -, rfl⟩
    · cases hfalse
    · exact Or.inl rfl

theorem Connections.leaving_step (h : Connections trace world states) (hi : states[i]? = some s)
    (hallowed : connecting.Allowed s op) (tasks : List Task) (j : ℕ)
    (hj : (states.set i (connecting.next s op answer) ++ tasks.map fun _ => ConnectPhase.idle false)[j]?
      = some .leaving) :
    (eventsOf j (trace ++ [(i, (⟨op, answer⟩ : Event interface))])).getLast?
      = some ⟨.closeProtocol, true⟩ := by
  rcases getElem?_step hi hj with ⟨rfl, hnext⟩ | ⟨hne, hj⟩ | ⟨-, hj⟩
  · have hentered : Entered s ⟨op, answer⟩ _ := entered_next hallowed
    rw [← hnext] at hentered
    rw [eventsOf_concat_self, List.getLast?_concat]
    exact congrArg some hentered
  · rw [eventsOf_concat_ne (Ne.symm hne)]
    exact h.leaving j hj
  · obtain ⟨_, -, heq⟩ := List.mem_map.mp (List.mem_of_getElem? hj)
    cases heq

theorem Connections.admitted_step (h : Connections trace world states) (hi : states[i]? = some s)
    (hallowed : connecting.Allowed s op) (hanswer : Answers world op answer world') (tasks : List Task)
    (j : ℕ) (s' : ConnectPhase)
    (hj : (states.set i (connecting.next s op answer) ++ tasks.map fun _ => ConnectPhase.idle false)[j]?
      = some s') (hs' : s' = .idle true ∨ s' = .chosen) :
    Admitted j (trace ++ [(i, ⟨op, answer⟩)]) := by
  refine since_concat.mpr ?_
  rcases getElem?_step hi hj with ⟨rfl, rfl⟩ | ⟨hne, hj⟩ | ⟨-, hj⟩
  · have hentered : Entered s ⟨op, answer⟩ _ := entered_next hallowed
    rcases hs' with hs' | hs'
    · rw [hs'] at hentered
      rcases hentered with hevent | ⟨hs, hop⟩
      · -- no `Close` has begun
        cases hevent
        refine Or.inl ⟨rfl, fun entry hmem hentry => ?_⟩
        rcases connectionProxy_cases hanswer with ⟨-, hfalse, -⟩ | ⟨hopen, -, -⟩
        · cases hfalse
        · rw [h.protocolClosed ⟨entry, hmem, hentry⟩] at hopen
          cases hopen
      · exact Or.inr ⟨h.admitted j s hi (Or.inl hs), fun hnext => hop hnext.2⟩
    · rw [hs'] at hentered
      obtain ⟨hs, hop⟩ := hentered
      refine Or.inr ⟨h.admitted j s hi (Or.inl hs), fun hnext => ?_⟩
      cases hop.symm.trans hnext.2
  · exact Or.inr ⟨h.admitted j s' hj hs', fun hnext => hne hnext.1.symm⟩
  · obtain ⟨_, -, rfl⟩ := List.mem_map.mp (List.mem_of_getElem? hj)
    rcases hs' with hs' | hs' <;> cases hs'

theorem Connections.connects_step (h : Connections trace world states) (hi : states[i]? = some s)
    (hallowed : connecting.Allowed s op) (hop : op.connects = true) : Admitted i trace := by
  cases op with
  | connect target =>
    have hs : s = .chosen := by
      cases s with
      | chosen => rfl
      | idle | connected | ready | leaving | refused | closing => cases hallowed
      | failed => obtain ⟨_, heq⟩ := hallowed; cases heq
      | settled => rcases hallowed with heq | ⟨_, heq⟩ <;> cases heq
    exact h.admitted i s hi (Or.inr hs)
  | _ => cases hop

theorem Connections.step (h : Connections trace world states) (hi : states[i]? = some s)
    (hallowed : connecting.Allowed s op) (hanswer : Answers world op answer world') (tasks : List Task) :
    Connections (trace ++ [(i, ⟨op, answer⟩)]) world'
      (states.set i (connecting.next s op answer) ++ tasks.map fun _ => .idle false) where
  account := h.account_step hi hallowed hanswer tasks
  hangsUp := h.hangsUp.concat fun hop => h.hangsUp_step hi hallowed hop
  closed := h.closed_step hanswer
  protocolClosed := h.protocolClosed_step hanswer
  proxyTaken := h.proxyTaken_step hanswer
  proxyCreated hproxied := h.proxyCreated_step hi hallowed hanswer hproxied _
  leaving := h.leaving_step hi hallowed tasks
  admitted := h.admitted_step hi hallowed hanswer tasks
  connects := h.connects.concat fun hop => h.connects_step hi hallowed hop

end Run

/-- The upstream connection in a run: one `Connect` at most, by a message that was admitted before
any `Close` began, and no connection that stays open. -/
structure OneUpstream (p : Protocol) (trace : Trace) (c : p.system.Config) : Prop where
  connect_once : trace.countP isConnect ≤ 1
  connect_admitted : Stepwise (fun before entry => isConnect entry = true → Admitted entry.1 before) trace
  /-- Once the proxy was closed, the connection that `Connect` returned has been closed, unless a
  goroutine is about to: it is inside `Close`, has just got the connection from `Connect`, or closes
  it next. -/
  closed : (∃ entry ∈ trace, entry.2.op = .close ∨ entry.2.op = .closeProtocol) →
    (∀ i, (eventsOf i trace).getLast? ≠ some ⟨.closeProtocol, true⟩) →
    ¬ c.About .setUpstream → ¬ c.About (.closeConn .upstream) →
    (∃ entry ∈ trace, isConnection entry = true) →
      Since (fun _ entry => isHangUp entry = true) (fun entry => isConnect entry = true) trace
  /-- A goroutine that is about to return from `connect` finds a connection or an error. -/
  answered : c.About .connection → c.world.upstream = true ∨ c.world.connectErr ≠ none

section OneUpstream

variable {p : Protocol} {trace : Trace} {c : p.system.Config} {states : List ConnectPhase}

/-- The phases of the threads of a configuration. -/
abbrev Phases (p : Protocol) (c : p.system.Config) (states : List ConnectPhase) : Prop :=
  Tracks connecting (fun (_ : p.system.Task) s => Rests s) Rests c.threads states

/-- A goroutine that is not at rest is about to do what it is there for. -/
theorem Phases.exists_about (h : Phases p c states) {s : ConnectPhase} (hs : 0 < states.count s)
    (hrests : ¬ Rests s) : ∃ op, c.About op ∧ connecting.Allowed s op :=
  h.of_mem (List.count_pos_iff.mp hs) fun next => by cases next <;> exact hrests

theorem Connections.connect_once {world : ProxyState} (h : Connections trace world states) :
    trace.countP isConnect ≤ 1 := by
  have hconnects := h.account.connects
  split at hconnects <;> omega

theorem Connections.answered (h : Connections trace c.world states) (hphases : Phases p c states)
    (habout : c.About .connection) : c.world.upstream = true ∨ c.world.connectErr ≠ none := by
  obtain ⟨s, hs, hallowed⟩ := Tracks.about hphases habout
  have hready : s = .ready := by
    cases s with
    | ready => rfl
    | idle | connected | leaving | refused | closing => cases hallowed
    | chosen | failed =>
      obtain ⟨_, heq⟩ := hallowed
      cases heq
    | settled => rcases hallowed with heq | ⟨_, heq⟩ <;> cases heq
  rw [hready] at hs
  exact h.account.outcome (Or.inl (h.account.ready (List.count_pos_iff.mpr hs)))

theorem isConnect_of_isConnection {entry : ℕ × Event interface} (h : isConnection entry = true) :
    isConnect entry = true := by
  obtain ⟨i, ⟨op, answer⟩⟩ := entry
  cases op with
  | connect target => rfl
  | _ => cases h

/-- When a `Close` has begun and all that began are past their critical sections, a proxy that was
given out is closed. -/
theorem Connections.closed_of_close {world : ProxyState} (h : Connections trace world states)
    (hclose : ∃ entry ∈ trace, entry.2.op = .close ∨ entry.2.op = .closeProtocol)
    (hleft : ∀ i, (eventsOf i trace).getLast? ≠ some ⟨.closeProtocol, true⟩)
    (hconnect : ∃ entry ∈ trace, isConnect entry = true) : world.closed = true := by
  obtain ⟨entry, hmem, hentry | hentry⟩ := hclose
  · exact h.closed ⟨entry, hmem, hentry⟩
  have htaken := h.proxyTaken (h.protocolClosed ⟨entry, hmem, hentry⟩)
  obtain ⟨entry', hmem', hconnect⟩ := hconnect
  obtain ⟨before, rest, rfl, hadmitted⟩ := h.connects.of_mem hmem'
  obtain ⟨-, e, he, rfl, -⟩ := Since.exists_mem (hadmitted hconnect)
  rcases h.proxyCreated ⟨entry'.1, List.mem_append_left _ he⟩ with hcreated | hclosed | hleaving
  · rw [htaken] at hcreated
    cases hcreated
  · exact hclosed
  · obtain ⟨i, hi⟩ := List.mem_iff_getElem?.mp hleaving
    exact absurd (h.leaving i hi) (hleft i)

/-- Then every connection is closed that no goroutine holds. -/
theorem Connections.hung_up (h : Connections trace c.world states) (hphases : Phases p c states)
    (hclosed : c.world.closed = true) (hstores : ¬ c.About .setUpstream)
    (hhangs : ¬ c.About (.closeConn .upstream)) :
    trace.countP isHangUp = trace.countP isConnection := by
  have hnone (s : ConnectPhase) (hrests : ¬ Rests s)
      (hnot : ∀ op, connecting.Allowed s op → ¬ c.About op) : states.count s = 0 := by
    refine Nat.eq_zero_of_not_pos fun hpos => ?_
    obtain ⟨op, habout, hallowed⟩ := hphases.exists_about hpos hrests
    exact hnot op hallowed habout
  have hconnected : states.count .connected = 0 := hnone _ nofun fun op hop => by
    obtain rfl : op = .setUpstream := hop
    exact hstores
  have hrefused : states.count .refused = 0 := hnone _ nofun fun op hop => by
    obtain rfl : op = .closeConn .upstream := hop
    exact hhangs
  have hclosing : states.count .closing = 0 := hnone _ nofun fun op hop => by
    obtain rfl : op = .closeConn .upstream := hop
    exact hhangs
  have hlive : ¬ (c.world.connectState.upstream = true ∧ c.world.connectState.closed = false) := by
    rintro ⟨-, hopen⟩
    exact absurd (hopen.symm.trans hclosed) nofun
  have hbalance := h.account.balance
  rw [if_neg hlive] at hbalance
  omega

/-- The closing comes after the one `Connect`. -/
theorem Connections.since_hangUp {world : ProxyState} (h : Connections trace world states)
    (hhung : trace.countP isHangUp = trace.countP isConnection)
    (hconnection : ∃ entry ∈ trace, isConnection entry = true) :
    Since (fun _ entry => isHangUp entry = true) (fun entry => isConnect entry = true) trace := by
  have hpos : 0 < trace.countP isHangUp := by
    rw [hhung]
    exact List.countP_pos_iff.mpr hconnection
  obtain ⟨entry, hmem, hentry⟩ := List.countP_pos_iff.mp hpos
  obtain ⟨before, rest, htrace, hearlier⟩ := h.hangsUp.of_mem hmem
  obtain ⟨earlier, hbefore, hearlier⟩ := hearlier hentry
  refine ⟨before, entry, rest, htrace, hentry, fun later hlater hconnect => ?_⟩
  have hcount1 : 0 < before.countP isConnect :=
    List.countP_pos_iff.mpr ⟨earlier, hbefore, isConnect_of_isConnection hearlier⟩
  have hcount2 : 0 < rest.countP isConnect := List.countP_pos_iff.mpr ⟨later, hlater, hconnect⟩
  have honce := h.connect_once
  rw [htrace, List.countP_append, List.countP_cons] at honce
  omega

end OneUpstream

/-- In every run of any goroutines on one `Protocol`, with any number of messages and closings at
the same time. -/
theorem one_upstream (p : Protocol) (tasks : List Task) (trace : Trace) (c : p.system.Config)
    (hrun : p.system.Run (p.system.initial ({} : ProxyState) tasks) trace c) : OneUpstream p trace c := by
  obtain ⟨states, h, hphases⟩ := hrun.tracked (system_connecting p) (fun _ _ => ⟨false, rfl⟩)
    (fun trace world states => Connections trace world states) (connections_start tasks)
    fun trace world states i s op answer world' h hi hallowed hanswer =>
      h.step hi hallowed hanswer (p.system.started op)
  refine ⟨h.connect_once, h.connects, fun hclose hleft hstores hhangs hconnection => ?_,
    h.answered hphases⟩
  have hconnect : ∃ entry ∈ trace, isConnect entry = true :=
    hconnection.imp fun _ hentry => ⟨hentry.1, isConnect_of_isConnection hentry.2⟩
  have hclosed := h.closed_of_close hclose hleft hconnect
  exact h.since_hangUp (h.hung_up hphases hclosed hstores hhangs) hconnection

/-- The client hangs up while a `direct-tcpip` channel connects: the goroutine that connected closes
the connection. -/
theorem one_upstream_hangs_up :
    ∃ trace c, plainProtocol.system.Run (plainProtocol.system.initial ({} : ProxyState)
        [.handleChannel ⟨0, channelDirectTCPIP, str "db"⟩, .serveChannels]) trace c ∧
      trace.countP isConnection = 1 ∧ trace.countP isHangUp = 1 ∧ OneUpstream plainProtocol trace c := by
  have h0 : plainProtocol.system.Run (plainProtocol.system.initial ({} : ProxyState)
    [.handleChannel ⟨0, channelDirectTCPIP, str "db"⟩, .serveChannels]) [] _ := .start
  have h1 := h0.perform 0 rfl true rfl
  have h2 := h1.perform 0 rfl (⟨some 0, none⟩ : BeginResult) rfl
  have h3 := h2.perform 0 rfl true (Or.inl ⟨rfl, rfl, rfl⟩)
  have h4 := h3.perform 1 rfl none rfl
  have h5 := h4.perform 1 rfl () rfl
  have h6 := h5.perform 1 rfl true rfl
  have h7 := h6.perform 1 rfl (some (false, [])) ⟨rfl, rfl, .refl _⟩
  have h8 := h7.perform 0 rfl (Except.ok ()) rfl
  have h9 := h8.perform 0 rfl false rfl
  have h10 := h9.perform 0 rfl () rfl
  exact ⟨_, _, h10, rfl, rfl, one_upstream plainProtocol _ _ _ h10⟩

end KubeSsh.SshProxy

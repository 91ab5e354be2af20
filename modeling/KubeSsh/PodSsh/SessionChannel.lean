import KubeSsh.PodSsh.Lifecycle
import KubeSsh.PodSsh.Mediation
import KubeSsh.PodSsh.SessionRequests

/-!
# The life of a session channel

The requests of `PodSsh.SessionRequests` over whole runs of a connection, where sessions, their
operations and whatever else the connection serves take turns in any order. The goroutine that
accepts a session channel runs its request loop; it starts at most one operation, the parameters of
the operation are those of the requests that were accepted before, and they are the same whatever
comes later. The operation sends the one exit status before it closes the channel, and the request
loop outlives the operation and the agent forward.
-/

namespace KubeSsh.PodSsh

open SshProtocol CryptoSsh KubeSsh.System

/-! ## Starts and exits among events -/

/-- An operation of a session is started. -/
def launches (event : Event interface) : Bool :=
  match event.op with
  | .go (.operation _ _) => true
  | _ => false

/-- An exit status is sent. -/
def sendsExit (event : Event interface) : Bool :=
  match event.op with
  | .sendExitStatus _ _ => true
  | _ => false

def Task.isOperation : Task → Bool
  | .operation _ _ => true
  | _ => false

/-- Goroutine `k` runs an operation that goroutine `i` has started. -/
def Protocol.operates (p : Protocol) (trace : List (ℕ × Event interface)) (i k : ℕ) : Bool :=
  0 < k && ((p.offspring trace)[k - 1]?).any fun (i', task) => i' = i && task.isOperation

/-! ## The history of one goroutine -/

section History

variable {p : Protocol} {d : Dialogue} {events : List (Event interface)}

/-- What an event adds to the history, apart from the request that is being answered. -/
structure Extends (d : Dialogue) (event : Event interface) (d' : Dialogue) : Prop where
  operates : d'.operates = d.operates
  launched : d'.launched = match event.op with
    | .go (.operation handler sess) => some (handler, sess)
    | _ => d.launched
  answered : d'.answered = match event.op with
    | .reply _ ok => (d.answer ok).answered
    | _ => d.answered
  exited : d'.exited = (d.exited || sendsExit event)

theorem Dialogue.next_extends (d : Dialogue) (event : Event interface) : Extends d event (d.next event) := by
  have hplain : (d.exited || false) = d.exited := Bool.or_false _
  obtain ⟨op, answer⟩ := event
  cases op with
  | go task => cases task <;> exact ⟨rfl, rfl, rfl, hplain.symm⟩
  | backend call =>
    cases call with
    | agentForward target =>
      rcases (answer : Except Message AgentForward) with err | forward <;> exact ⟨rfl, rfl, rfl, hplain.symm⟩
    | _ => exact ⟨rfl, rfl, rfl, hplain.symm⟩
  | sendExitStatus session payload => exact ⟨rfl, rfl, rfl, (Bool.or_true _).symm⟩
  | _ => exact ⟨rfl, rfl, rfl, hplain.symm⟩

/-- The state of the monitor and the events that led to it. -/
structure Recorded (p : Protocol) (d : Dialogue) (events : List (Event interface)) (d' : Dialogue) : Prop where
  operates : d'.operates = d.operates
  single : events.countP launches = if d'.launched.isSome then 1 else 0
  launched : ∀ handler sess answer, ⟨.go (.operation handler sess), answer⟩ ∈ events →
    d.operates = none ∧ d'.launched = some (handler, sess)
  accepted : ∀ handler sess, d'.launched = some (handler, sess) → p.Accepted d'.answered sess
  exits : events.countP sendsExit = if d'.exited then 1 else 0

theorem recorded_start (task : Task) : Recorded p task.dialogue [] task.dialogue := by
  cases task <;> exact ⟨rfl, rfl, nofun, nofun, rfl⟩

/-- An event that starts no operation. -/
theorem launches_eq_false {event : Event interface}
    (h : ∀ handler sess, event.op ≠ .go (.operation handler sess)) : launches event = false := by
  unfold launches
  split
  · rename_i handler sess heq
    exact absurd heq (h handler sess)
  · rfl

theorem Recorded.concat {d' : Dialogue} {event : Event interface} (h : Recorded p d events d')
    (hallowed : p.conversing.Allowed d' event.op) : Recorded p d (events ++ [event]) (d'.next event) := by
  have hnext := d'.next_extends event
  have hexits : (events ++ [event]).countP sendsExit = if (d'.next event).exited then 1 else 0 := by
    rw [List.countP_append, List.countP_singleton, h.exits, hnext.exited]
    cases hsends : sendsExit event with
    | false => simp
    | true =>
      have hexited : d'.exited = false := by
        unfold sendsExit at hsends
        split at hsends
        · rename_i heq
          rw [heq] at hallowed
          exact hallowed.2
        · cases hsends
      simp [hexited]
  by_cases hop : ∃ handler sess, event.op = .go (.operation handler sess)
  · -- the operation: none was started before
    obtain ⟨handler, sess, hop⟩ := hop
    rw [hop] at hallowed
    obtain ⟨hoperates, hnone, -, haccepted, -⟩ := hallowed
    have hlaunched : (d'.next event).launched = some (handler, sess) := by rw [hnext.launched, hop]
    have hanswered : (d'.next event).answered = d'.answered := by rw [hnext.answered, hop]
    have hlaunches : launches event = true := by rw [launches, hop]
    refine ⟨hnext.operates.trans h.operates, ?_, fun handler' sess' answer hmem => ?_,
      fun handler' sess' heq => ?_, hexits⟩
    · rw [List.countP_append, h.single, hnone, List.countP_singleton, hlaunches, hlaunched]
      rfl
    · rcases List.mem_append.mp hmem with hmem | hmem
      · rw [(h.launched handler' sess' answer hmem).2] at hnone
        cases hnone
      · rw [← List.mem_singleton.mp hmem] at hop
        cases hop
        exact ⟨h.operates.symm.trans hoperates, hlaunched⟩
    · rw [hlaunched] at heq
      cases heq
      rwa [hanswered]
  · push Not at hop
    have hlaunched : (d'.next event).launched = d'.launched := by
      rw [hnext.launched]
      split
      · rename_i handler sess heq
        exact absurd heq (hop handler sess)
      · rfl
    refine ⟨hnext.operates.trans h.operates, ?_, fun handler sess answer hmem => ?_,
      fun handler sess heq => ?_, hexits⟩
    · rw [List.countP_append, h.single, List.countP_singleton, launches_eq_false hop, hlaunched]
      rfl
    · rcases List.mem_append.mp hmem with hmem | hmem
      · rw [hlaunched]
        exact h.launched handler sess answer hmem
      · rw [← List.mem_singleton.mp hmem] at hop
        exact absurd rfl (hop handler sess)
    · rw [hlaunched] at heq
      rw [hnext.answered]
      split
      · rename_i hreply
        rw [hreply] at hallowed
        exact hallowed.2.2 handler sess heq
      · exact h.accepted handler sess heq

/-- What a goroutine has done is recorded in its history. -/
theorem recorded_of_accepts {task : Task} (h : p.conversing.Accepts task.dialogue events) :
    Recorded p task.dialogue events (p.conversing.after task.dialogue events) := by
  refine Monitor.Accepts.induction
    (P := fun events => Recorded p task.dialogue events (p.conversing.after task.dialogue events)) h
    (recorded_start task) fun events event _ hrecorded hallowed => ?_
  rw [Monitor.after_concat]
  exact hrecorded.concat hallowed

end History

/-! ## All goroutines -/

section Runs

variable {p : Protocol} {trace : List (ℕ × Event interface)} {c : p.system.Config}

/-- How the goroutines of a connection have started. -/
def Protocol.firsts (p : Protocol) (trace : List (ℕ × Event interface)) : List Task :=
  .serveChannels :: (p.offspring trace).map (·.2)

/-- In every run, the goroutines have acted as their histories permit. -/
theorem run_conversed (hrun : p.system.Run p.connection trace c) :
    ∃ states, Monitored p.conversing ((p.firsts trace).map Task.dialogue) trace states ∧
      Tracks p.conversing (fun (task : p.system.Task) d => p.Begins task d) (fun _ => True) c.threads states := by
  refine hrun.tracked (system_converses p) ?_
    (fun trace _ states => Monitored p.conversing ((p.firsts trace).map Task.dialogue) trace states) ?_ ?_
  · intro task htask
    rcases List.mem_pair.mp htask with rfl | rfl <;> exact rfl
  · exact monitored_nil _ _
  · intro trace _ states i d op answer _ hmon hi hallowed _
    have hfirsts : p.firsts (trace ++ [(i, ⟨op, answer⟩)]) = List.append (p.firsts trace) (p.system.started op) := by
      unfold Protocol.firsts Protocol.offspring
      rw [offspring_concat]
      exact congrArg (List.cons _) (List.map_append.trans (congrArg _ (List.map_map.trans (List.map_id _))))
    rw [hfirsts]
    exact (List.map_append (f := Task.dialogue)).symm ▸ hmon.perform hi hallowed answer _

/-- A goroutine has done nothing, or it has a first task and what it did was permitted. -/
theorem Monitored.thread {states : List Dialogue}
    (h : Monitored p.conversing ((p.firsts trace).map Task.dialogue) trace states) (i : ℕ) :
    eventsOf i trace = [] ∨ ∃ task, (p.firsts trace)[i]? = some task ∧
      p.conversing.Accepts task.dialogue (eventsOf i trace) := by
  rcases htask : (p.firsts trace)[i]? with _ | task
  · left
    refine h.fresh i ?_
    rw [List.length_map]
    exact List.getElem?_eq_none_iff.mp htask
  · right
    refine ⟨task, rfl, h.accepts i task.dialogue ?_⟩
    rw [List.getElem?_map, htask, Option.map_some]

theorem Task.dialogue_eq {task : Task} (h : task.dialogue.operates = none) : task.dialogue = {} := by
  cases task with
  | operation handler sess => cases h
  | _ => rfl

theorem Task.operation_of_dialogue {task : Task} {session : ℕ} (h : task.dialogue.operates = some session) :
    ∃ handler sess, task = .operation handler sess ∧ sess.channel = session := by
  cases task with
  | operation handler sess => exact ⟨handler, sess, rfl, Option.some.inj h⟩
  | _ => cases h

/-- The operations that a goroutine has started are among the goroutines. -/
theorem countP_offspring (p : Protocol) (i : ℕ) (trace : List (ℕ × Event interface)) :
    (p.offspring trace).countP (fun (i', task) => i' = i && task.isOperation)
      = (eventsOf i trace).countP launches := by
  induction trace using List.reverseRecOn with
  | nil =>
    change [((0 : ℕ), Task.serveGlobalRequests)].countP (fun entry => entry.1 = i && entry.2.isOperation) = 0
    simp [Task.isOperation]
  | append_singleton trace entry ih =>
    obtain ⟨j, op, answer⟩ := entry
    have hstarted : ((p.system.started op).map fun task => (j, task)).countP
        (fun (entry : ℕ × Task) => entry.1 = i && entry.2.isOperation) =
          if j = i ∧ launches ⟨op, answer⟩ = true then 1 else 0 := by
      cases op with
      | go task => cases task <;> by_cases hj : j = i <;> simp [Protocol.system, launches, Task.isOperation, hj]
      | _ => simp [Protocol.system, launches]
    unfold Protocol.offspring at ih ⊢
    rw [offspring_concat]
    refine List.countP_append.trans ?_
    rw [ih]
    refine (congrArg _ hstarted).trans ?_
    by_cases hj : j = i
    · subst hj
      rw [eventsOf_concat_self, List.countP_append, List.countP_singleton]
      simp
    · rw [eventsOf_concat_ne hj]
      simp [hj]

theorem Protocol.operates_iff {i k : ℕ} : p.operates trace i k = true ↔
    ∃ j handler sess, k = j + 1 ∧ (p.offspring trace)[j]? = some (i, .operation handler sess) := by
  unfold Protocol.operates
  constructor
  · intro h
    obtain ⟨hpos, hany⟩ := (Bool.and_eq_true _ _).mp h
    rcases hentry : (p.offspring trace)[k - 1]? with _ | ⟨i', task⟩
    all_goals rw [hentry] at hany
    · cases hany
    obtain ⟨hi, hoperation⟩ := (Bool.and_eq_true _ _).mp hany
    obtain rfl := of_decide_eq_true hi
    cases task with
    | operation handler sess => exact ⟨k - 1, handler, sess, by have := of_decide_eq_true hpos; omega, hentry⟩
    | _ => cases hoperation
  · rintro ⟨j, handler, sess, rfl, hj⟩
    simp [hj, Task.isOperation]

/-- At most one entry of a list has a property: it has one index. -/
theorem index_unique_of_countP {α : Type} {l : List α} {b : α → Bool} (h : l.countP b ≤ 1) {i j : ℕ} {x y : α}
    (hi : l[i]? = some x) (hj : l[j]? = some y) (hx : b x = true) (hy : b y = true) : i = j := by
  have hapart {i j : ℕ} {x y : α} (hi : l[i]? = some x) (hj : l[j]? = some y) (hx : b x = true)
      (hy : b y = true) : ¬ i < j := by
    intro hlt
    have hbefore : 0 < (l.take (i + 1)).countP b :=
      List.countP_pos_iff.mpr ⟨x, List.mem_of_getElem? (i := i) (by rw [List.getElem?_take_of_lt (by omega), hi]), hx⟩
    have hafter : 0 < (l.drop (i + 1)).countP b := by
      refine List.countP_pos_iff.mpr ⟨y, List.mem_of_getElem? (i := j - (i + 1)) ?_, hy⟩
      rw [List.getElem?_drop, Nat.add_sub_cancel' hlt, hj]
    have hsum : l.countP b = (l.take (i + 1)).countP b + (l.drop (i + 1)).countP b := by
      rw [← List.countP_append, List.take_append_drop]
    omega
  exact Nat.le_antisymm (Nat.le_of_not_lt (hapart hj hi hy hx)) (Nat.le_of_not_lt (hapart hi hj hx hy))

theorem countP_eventsOf (k : ℕ) (b : Event interface → Bool) (trace : List (ℕ × Event interface)) :
    trace.countP (fun entry => entry.1 = k && b entry.2) = (eventsOf k trace).countP b := by
  induction trace with
  | nil => rfl
  | cons entry trace ih =>
    obtain ⟨j, event⟩ := entry
    by_cases hj : j = k <;> simp_all [eventsOf, List.countP_cons]

end Runs

/-! ## Session channels -/

/-- How the sessions of a connection behave. Goroutine `i` accepts a channel and runs its request
loop. -/
structure SessionDiscipline (p : Protocol) (trace : List (ℕ × Event interface)) (c : p.system.Config) : Prop where
  /-- A session starts at most one operation. -/
  single : ∀ i, (p.offspring trace).countP (fun (i', task) => i' = i && task.isOperation) ≤ 1
  /-- The operation has the parameters of the requests accepted before, the last of which starts
  it. -/
  parameters : ∀ before i handler sess answer rest,
    trace = before ++ (i, ⟨.go (.operation handler sess), answer⟩) :: rest →
      p.Accepted (answered (eventsOf i before)) sess ∧ sess.started = true ∧
        ∃ a, (answered (eventsOf i before)).getLast? = some a ∧ a.ok = true ∧ Starts a.request ∧
          (p.startRequest a.request).map (·.1) = some handler
  /-- At all times after that, the accepted requests and the request loop still have these
  parameters. -/
  fixed : ∀ i handler sess answer, (i, ⟨.go (.operation handler sess), answer⟩) ∈ trace →
    p.Accepted (answered (eventsOf i trace)) sess ∧
      ∀ sess', c.threads[i]? = some (.pure (some (Task.handleRequests sess'))) → sess' = sess
  /-- The request loop has the parameters of the accepted requests. -/
  current : ∀ i sess, c.threads[i]? = some (.pure (some (Task.handleRequests sess))) →
    p.Accepted (answered (eventsOf i trace)) sess
  /-- A request that is answered with failure leaves the parameters. -/
  refused : ∀ sess request events sess', (p.handleRequest sess request).Yields events sess' →
    (∃ session answer, ⟨.reply session false, answer⟩ ∈ events) → sess' = sess
  /-- A session sends at most one exit status; its operation sends it. -/
  exits : ∀ i, trace.countP (fun entry => sendsExit entry.2 && p.operates trace i entry.1) ≤ 1
  sender : ∀ k session payload answer, (k, ⟨.sendExitStatus session payload, answer⟩) ∈ trace →
    ∃ j i handler sess, k = j + 1 ∧ (p.offspring trace)[j]? = some (i, .operation handler sess) ∧
      sess.channel = session
  /-- `Exit` closes the channel after the exit status was sent. -/
  closes : ∀ before i k session answer rest, trace = before ++ (k, ⟨.closeChannel session, answer⟩) :: rest →
    p.operates trace i k = true → ∃ event ∈ eventsOf k before, sendsExit event = true
  /-- The request loop returns after the operation and the agent forward have ended. -/
  ended : ∀ i j task, (p.offspring trace)[j]? = some (i, task) →
    (task.isOperation = true ∨ ∃ forward finish, task = .serveAgentForward forward finish) →
      c.Ended i → c.Ended (j + 1)

section Discipline

variable {p : Protocol} {trace : List (ℕ × Event interface)} {c : p.system.Config}

/-- The history of a goroutine that has done something. -/
theorem run_recorded (hrun : p.system.Run p.connection trace c) {i : ℕ} (hne : eventsOf i trace ≠ []) :
    ∃ task, (p.firsts trace)[i]? = some task ∧ p.conversing.Accepts task.dialogue (eventsOf i trace) ∧
      Recorded p task.dialogue (eventsOf i trace) (p.conversing.after task.dialogue (eventsOf i trace)) := by
  obtain ⟨states, hmon, -⟩ := run_conversed hrun
  rcases Monitored.thread hmon i with hnil | ⟨task, htask, haccepts⟩
  · exact absurd hnil hne
  · exact ⟨task, htask, haccepts, recorded_of_accepts haccepts⟩

theorem eventsOf_ne_nil {i : ℕ} {event : Event interface} (h : (i, event) ∈ trace) : eventsOf i trace ≠ [] :=
  List.ne_nil_of_mem (mem_eventsOf.mpr h)

theorem countP_launches_le (hrun : p.system.Run p.connection trace c) (i : ℕ) :
    (eventsOf i trace).countP launches ≤ 1 := by
  by_cases hnil : eventsOf i trace = []
  · rw [hnil]
    exact Nat.zero_le 1
  · obtain ⟨task, -, -, hrecorded⟩ := run_recorded hrun hnil
    rw [hrecorded.single]
    split <;> decide

theorem countP_sendsExit_le (hrun : p.system.Run p.connection trace c) (k : ℕ) :
    (eventsOf k trace).countP sendsExit ≤ 1 := by
  by_cases hnil : eventsOf k trace = []
  · rw [hnil]
    exact Nat.zero_le 1
  · obtain ⟨task, -, -, hrecorded⟩ := run_recorded hrun hnil
    rw [hrecorded.exits]
    split <;> decide

/-- The operation of a session runs in one goroutine, which sends one exit status at most. -/
theorem countP_exits_le (hrun : p.system.Run p.connection trace c) (i : ℕ) :
    trace.countP (fun entry => sendsExit entry.2 && p.operates trace i entry.1) ≤ 1 := by
  have hsingle : (p.offspring trace).countP (fun (i', task) => i' = i && task.isOperation) ≤ 1 := by
    rw [countP_offspring]
    exact countP_launches_le hrun i
  by_cases hsome : ∃ k, p.operates trace i k = true
  · obtain ⟨k, hk⟩ := hsome
    have hunique : ∀ k', p.operates trace i k' = true → k' = k := by
      intro k' hk'
      obtain ⟨j, handler, sess, rfl, hj⟩ := Protocol.operates_iff.mp hk
      obtain ⟨j', handler', sess', rfl, hj'⟩ := Protocol.operates_iff.mp hk'
      have hindex := index_unique_of_countP hsingle hj' hj (by simp [Task.isOperation]) (by simp [Task.isOperation])
      rw [hindex]
    calc trace.countP (fun entry => sendsExit entry.2 && p.operates trace i entry.1)
        ≤ trace.countP (fun entry => entry.1 = k && sendsExit entry.2) := by
          refine List.countP_mono_left fun entry _ hentry => ?_
          obtain ⟨hsends, hoperates⟩ := (Bool.and_eq_true _ _).mp hentry
          simp [hunique _ hoperates, hsends]
      _ = (eventsOf k trace).countP sendsExit := countP_eventsOf k sendsExit trace
      _ ≤ 1 := countP_sendsExit_le hrun k
  · push Not at hsome
    have hzero : trace.countP (fun entry => sendsExit entry.2 && p.operates trace i entry.1) = 0 := by
      refine List.countP_eq_zero.mpr fun entry _ hentry => ?_
      exact hsome entry.1 ((Bool.and_eq_true _ _).mp hentry).2
    omega

/-- The first task of a goroutine that does what operations do. -/
theorem offspring_of_operates {k session : ℕ} {task : Task}
    (htask : (p.firsts trace)[k]? = some task) (hoperates : task.dialogue.operates = some session) :
    ∃ j i handler sess, k = j + 1 ∧ (p.offspring trace)[j]? = some (i, .operation handler sess) ∧
      sess.channel = session := by
  obtain ⟨handler, sess, rfl, hchannel⟩ := Task.operation_of_dialogue hoperates
  cases k with
  | zero => cases htask
  | succ j =>
    have hj : ((p.offspring trace).map (·.2))[j]? = some (.operation handler sess) := htask
    rw [List.getElem?_map] at hj
    obtain ⟨⟨i, task⟩, hentry, rfl⟩ := Option.map_eq_some_iff.mp hj
    exact ⟨j, i, handler, sess, rfl, hentry, hchannel⟩

theorem firsts_of_operates {i k : ℕ} (h : p.operates trace i k = true) :
    ∃ handler sess, (p.firsts trace)[k]? = some (.operation handler sess) := by
  obtain ⟨j, handler, sess, rfl, hj⟩ := Protocol.operates_iff.mp h
  refine ⟨handler, sess, ?_⟩
  change ((p.offspring trace).map (·.2))[j]? = _
  rw [List.getElem?_map, hj, Option.map_some]

/-- A request loop that has returned has waited. -/
theorem ended_of_waited (hrun : p.system.RunWhen p.Waits p.connection trace c) {i j : ℕ} {task : Task} {t : Token}
    (hj : (p.offspring trace)[j]? = some (i, task)) (hlicence : task.licence = some t) (hwork : t ≠ .work)
    (hended : c.Ended i) : c.Ended (j + 1) := by
  obtain ⟨states, ⟨-, hwaited⟩, htracks⟩ := run_waited hrun
  rcases hwaited.licensed j i task t hj hlicence with h | ⟨held, hheld, hmem⟩
  · exact h
  · obtain ⟨last, rfl⟩ := htracks.eq_leaves hended hheld
    cases last <;> first | exact absurd (Multiset.mem_singleton.mp hmem) hwork | cases hmem

/-- What a goroutine was permitted to do when it did it. -/
theorem run_allowed (hrun : p.system.Run p.connection trace c) {before rest : List (ℕ × Event interface)} {i : ℕ}
    {event : Event interface} (htrace : trace = before ++ (i, event) :: rest) :
    ∃ task, (p.firsts trace)[i]? = some task ∧
      Recorded p task.dialogue (eventsOf i before) (p.conversing.after task.dialogue (eventsOf i before)) ∧
      p.conversing.Allowed (p.conversing.after task.dialogue (eventsOf i before)) event.op := by
  have hmem : (i, event) ∈ trace := by simp [htrace]
  obtain ⟨task, htask, haccepts, -⟩ := run_recorded hrun (eventsOf_ne_nil hmem)
  have hsplit : eventsOf i trace = eventsOf i before ++ event :: eventsOf i rest := by rw [htrace, eventsOf_split]
  rw [hsplit] at haccepts
  exact ⟨task, htask, recorded_of_accepts (Monitor.accepts_of_append _ haccepts), haccepts _ _ _ rfl⟩

/-- The request loop between two requests. -/
theorem run_serving (hrun : p.system.Run p.connection trace c) {i : ℕ} {sess : ServerSession}
    (hi : c.threads[i]? = some (.pure (some (Task.handleRequests sess)))) :
    p.Serving sess (p.conversing.after {} (eventsOf i trace)) := by
  obtain ⟨states, hmon, htracks⟩ := run_conversed hrun
  obtain ⟨d, hd, hserving⟩ := htracks.state hi
  obtain ⟨start, hstart, rfl⟩ := hmon.state hd
  rw [List.getElem?_map] at hstart
  obtain ⟨task, htask, rfl⟩ := Option.map_eq_some_iff.mp hstart
  have haccepts : p.conversing.Accepts task.dialogue (eventsOf i trace) := by
    refine hmon.accepts i _ ?_
    rw [List.getElem?_map, htask, Option.map_some]
  have hserving' : p.Serving sess (p.conversing.after task.dialogue (eventsOf i trace)) := hserving.1
  rwa [Task.dialogue_eq ((recorded_of_accepts haccepts).operates.symm.trans hserving'.operates)] at hserving'

/-- The state machine of session channels. In every run of a connection, whatever the clients
request and however the goroutines take turns, the sessions behave as `SessionDiscipline` says. -/
theorem session_disciplined (hrun : p.system.RunWhen p.Waits p.connection trace c) :
    SessionDiscipline p trace c where
  single i := by
    rw [countP_offspring]
    exact countP_launches_le hrun.run i
  parameters before i handler sess answer rest htrace := by
    obtain ⟨task, -, hrecorded, hoperates, -, hstarted, haccepted, hlast⟩ := run_allowed hrun.run htrace
    rw [Task.dialogue_eq (hrecorded.operates.symm.trans hoperates)] at haccepted hlast
    exact ⟨haccepted, hstarted, hlast⟩
  fixed i handler sess answer hmem := by
    obtain ⟨task, -, -, hrecorded⟩ := run_recorded hrun.run (eventsOf_ne_nil hmem)
    obtain ⟨hnone, hlaunched⟩ := hrecorded.launched handler sess answer (mem_eventsOf.mpr hmem)
    have haccepted := hrecorded.accepted handler sess hlaunched
    rw [Task.dialogue_eq hnone] at haccepted hlaunched
    refine ⟨haccepted, fun sess' hi => ?_⟩
    exact ((run_serving hrun.run hi).launched handler sess hlaunched).1.symm
  current i sess hi := (run_serving hrun.run hi).accepted
  refused sess request events sess' hyields := by
    intro hrefused
    have hstarted : false = true → sess.started = true := Bool.noConfusion
    have hkeeps := (handleRequest_keeps p sess request hstarted).of_yields hyields
    exact hkeeps (refusing_after (Or.inr hrefused))
  exits := countP_exits_le hrun.run
  sender k session payload answer hmem := by
    obtain ⟨before, rest, htrace⟩ := List.append_of_mem hmem
    obtain ⟨task, htask, hrecorded, hoperates, -⟩ := run_allowed hrun.run htrace
    exact offspring_of_operates htask (hrecorded.operates.symm.trans hoperates)
  closes before i k session answer rest htrace hk := by
    obtain ⟨task, htask, hrecorded, hallowed⟩ := run_allowed hrun.run htrace
    obtain ⟨handler, sess, hfirst⟩ := firsts_of_operates hk
    obtain rfl := Option.some.inj (htask.symm.trans hfirst)
    have hexited := hallowed (by rw [hrecorded.operates]; exact Option.some_ne_none _)
    have hcount := hrecorded.exits
    rw [hexited, if_pos rfl] at hcount
    obtain ⟨event, hevent, hsends⟩ := List.countP_pos_iff.mp (by omega : 0 < (eventsOf k before).countP sendsExit)
    exact ⟨event, hevent, hsends⟩
  ended i j task hj htask hended := by
    rcases htask with htask | ⟨forward, finish, rfl⟩
    · cases task with
      | operation handler sess => exact ended_of_waited hrun hj rfl nofun hended
      | _ => cases htask
    · exact ended_of_waited hrun hj rfl nofun hended

end Discipline

/-- The session of the command `id` with a variable. -/
def langSession : ServerSession where
  channel := 0
  started := true
  env := [str "LANG="]
  rawCmd := str "id"
  requestType := requestExec

/-- A client sets a variable and runs the command `id`. -/
theorem session_disciplined_id : ∃ trace c, wordProtocol.system.RunWhen wordProtocol.Waits wordProtocol.connection
      trace c ∧ (2, ⟨.go (.operation .handleSession langSession), ()⟩) ∈ trace ∧
    SessionDiscipline wordProtocol trace c := by
  have h0 : wordProtocol.system.RunWhen wordProtocol.Waits wordProtocol.connection [] wordProtocol.connection :=
    .start
  have h1 := h0.perform 0 rfl (some ⟨0, channelSession, []⟩ : Option NewChannel) rfl
    (waits_free trivial)
  have h2 := h1.perform 0 rfl () rfl (waits_free trivial)
  have h3 := h2.perform 2 rfl (Except.ok () : Except Message Unit) rfl (waits_free trivial)
  have h4 := h3.perform 2 rfl () rfl (waits_free trivial)
  have h5 : wordProtocol.system.RunWhen _ _ _ ⟨_, [_, _, _, _]⟩ := h4.resume 2 rfl
  have h6 := h5.perform 2 rfl (some ⟨requestEnvironment, true, str "LANG"⟩ : Option Request) rfl
    (waits_free trivial)
  have h7 := h6.perform 2 rfl (none : Option Message) rfl (waits_free trivial)
  have h8 : wordProtocol.system.RunWhen _ _ _ ⟨_, [_, _, _, _]⟩ := h7.resume 2 rfl
  have h9 := h8.perform 2 rfl (some ⟨requestExec, true, str "id"⟩ : Option Request) rfl
    (waits_free trivial)
  have h10 := h9.perform 2 rfl (none : Option Message) rfl (waits_free trivial)
  have h11 := h10.perform 2 rfl () rfl (waits_free trivial)
  exact ⟨_, _, h11, List.mem_append_right _ (List.mem_singleton.mpr rfl), session_disciplined h11⟩

end KubeSsh.PodSsh

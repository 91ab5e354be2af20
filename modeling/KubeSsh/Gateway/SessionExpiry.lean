import KubeSsh.Gateway.SessionDeadlines

/-!
# `pkg/gateway`: whether a session policy ends a connection early

`ApplyPolicy` and the callback of the timer decide that a policy has expired. A decision is not
early if the connection has lasted for the maximal duration, or has been idle for the timeout, as
the reads and writes that have stored their activity show.

A decision can be early in two ways. The sum of the last activity and the timeout wraps around if
the timeout is long enough. And of two touches the one that took its timestamp first can be the last
to store it. If neither happens (`Orderly`), no decision is early.
-/

namespace KubeSsh.Gateway.PolicyConn

open Prog KubeSsh.System

/-! ## What a trace says -/

def ticks : ℕ × Event interface → ℕ
  | (_, ⟨.tick, n⟩) => n
  | _ => 0

/-- How long the connection has been open. -/
def elapsed (trace : Trace) : ℕ := trace.foldl (fun time entry => time + ticks entry) 0

/-- The value of `lastActivityNS`. -/
def lastStored (trace : Trace) : ℤ := trace.foldl (fun last entry => (stored entry).getD last) 0

def appliedPolicy : ℕ × Event interface → Option EffectiveSessionPolicy
  | (_, ⟨.apply policy, _⟩) => some policy
  | _ => none

/-- The policy that was applied last. -/
def policyOf (trace : Trace) : EffectiveSessionPolicy :=
  trace.foldl (fun policy entry => (appliedPolicy entry).getD policy) ({} : World).policy

/-- The number of bytes that a read or write transferred. -/
def bytes : Event interface → ℕ
  | ⟨.connRead, n⟩ => n
  | ⟨.connWrite, n⟩ => n
  | _ => 0

/-- The goroutine transferred data at this time. -/
def Transferred (i time : ℕ) : Trace → Prop :=
  Since (fun earlier entry => entry.1 = i ∧ 0 < bytes entry.2 ∧ elapsed earlier = time) fun _ => False

/-- Data was transferred at this time, and the touch for it has completed. -/
def Touched (time : ℕ) : Trace → Prop :=
  Since (fun earlier entry => (stored entry).isSome ∧ Transferred entry.1 time earlier) fun _ => False

/-- The policy has expired: the connection is as old as it may be, or has been idle for as long as
it may. -/
def Expired (policy : EffectiveSessionPolicy) (trace : Trace) : Prop :=
  0 < policy.maxDuration ∧ policy.maxDuration ≤ elapsed trace ∨
    0 < policy.idleTimeout ∧ policy.idleTimeout ≤ elapsed trace ∧
      ∀ time, Touched time trace → time + policy.idleTimeout ≤ elapsed trace

/-- Who finds the policy expired is right. -/
def NotEarly (before : Trace) : ℕ × Event interface → Prop
  | (_, ⟨.apply policy, true⟩) => Expired policy before
  | (_, ⟨.onTimer, true⟩) => Expired (policyOf before) before
  | _ => True

/-- The idle deadline is within the range of a duration. -/
def Fits (policy : EffectiveSessionPolicy) (lastActivityNS : ℤ) : Prop :=
  0 < policy.idleTimeout → lastActivityNS + policy.idleTimeout ≤ maxInt64

/-- Touches store their timestamps in order, and the idle deadline does not wrap around where it is
computed. -/
def Orderly (before : Trace) : ℕ × Event interface → Prop
  | (_, ⟨.store ns, _⟩) => lastStored before ≤ ns
  | (_, ⟨.apply policy, _⟩) => Fits policy (lastStored before)
  | (_, ⟨.onTimer, _⟩) => Fits (policyOf before) (lastStored before)
  | _ => True

section Trace

variable {trace : Trace} {entry : ℕ × Event interface} {i time : ℕ}

theorem elapsed_concat : elapsed (trace ++ [entry]) = elapsed trace + ticks entry := by
  simp [elapsed]

theorem lastStored_concat : lastStored (trace ++ [entry]) = (stored entry).getD (lastStored trace) := by
  simp [lastStored]

theorem policyOf_concat : policyOf (trace ++ [entry]) = (appliedPolicy entry).getD (policyOf trace) := by
  simp [policyOf]

theorem transferred_concat : Transferred i time (trace ++ [entry]) ↔
    (entry.1 = i ∧ 0 < bytes entry.2 ∧ elapsed trace = time) ∨ Transferred i time trace := by
  rw [Transferred, since_concat]
  simp only [not_false_eq_true, and_true]

theorem touched_concat : Touched time (trace ++ [entry]) ↔
    ((stored entry).isSome ∧ Transferred entry.1 time trace) ∨ Touched time trace := by
  rw [Touched, since_concat]
  simp only [not_false_eq_true, and_true]

theorem Transferred.le_elapsed (h : Transferred i time trace) : time ≤ elapsed trace := by
  induction trace using List.reverseRecOn with
  | nil => exact (not_since_nil h).elim
  | append_singleton trace entry ih =>
    rw [elapsed_concat]
    rcases transferred_concat.mp h with ⟨-, -, rfl⟩ | h
    · exact Nat.le_add_right _ _
    · exact (ih h).trans (Nat.le_add_right _ _)

end Trace

/-! ## The account of a run -/

/-- What the trace says about the connection, and that timestamps are not before the transfers they
are for. -/
structure Timely (trace : Trace) (w : World) (states : List Phase) : Prop where
  clock : w.clock = elapsed trace
  last : w.lastActivityNS = lastStored trace
  nonneg : 0 ≤ lastStored trace
  policy : w.closed = false → w.policy = policyOf trace
  stamps : ∀ (i : ℕ) (ns : ℤ), states[i]? = some (.stamped ns) →
    0 ≤ ns ∧ ∀ time, Transferred i time trace → min (time : ℤ) maxInt64 ≤ ns
  touches : ∀ time, Touched time trace → min (time : ℤ) maxInt64 ≤ lastStored trace
  early : Stepwise NotEarly trace

section Timely

variable {trace : Trace} {w w' : World} {states : List Phase} {i : ℕ} {s s' : Phase} {event : Event interface}

theorem Step.clock (hstep : Step w event s w' s') (h : w.clock = elapsed trace) :
    w'.clock = elapsed (trace ++ [(i, event)]) := by
  rw [elapsed_concat, ← h]
  cases hstep with
  | applied _ hscheduled => exact hscheduled.keeps.1
  | rescheduled _ hscheduled => exact hscheduled.keeps.1
  | _ => rfl

theorem Step.last (hstep : Step w event s w' s') (h : w.lastActivityNS = lastStored trace) :
    w'.lastActivityNS = lastStored (trace ++ [(i, event)]) := by
  rw [lastStored_concat, ← h]
  cases hstep with
  | applied _ hscheduled => exact hscheduled.lastActivityNS_eq
  | rescheduled _ hscheduled => exact hscheduled.lastActivityNS_eq
  | _ => rfl

theorem Step.policy (hstep : Step w event s w' s') (h : w.closed = false → w.policy = policyOf trace)
    (hopen : w'.closed = false) : w'.policy = policyOf (trace ++ [(i, event)]) := by
  rw [policyOf_concat]
  cases hstep with
  | applied _ hscheduled => exact hscheduled.keeps.2.2.2
  | appliedLate hclosed => exact absurd (hopen.symm.trans hclosed) Bool.false_ne_true
  | rescheduled hopen hscheduled => exact hscheduled.keeps.2.2.2.trans (h hopen)
  | closed => cases hopen
  | _ => exact h hopen

/-- A new timestamp is the time, and is for a transfer before. -/
theorem Step.stamp (hstep : Step w event s w' s') {ns : ℤ} (hns : s' = .stamped ns) :
    ns = subTime w.clock 0 ∧ event.op = .since := by
  cases hstep with
  | stamped => exact ⟨(Phase.stamped.inj hns).symm, rfl⟩
  | applied => split at hns <;> cases hns
  | rescheduled => split at hns <;> cases hns
  | _ => cases hns

theorem Step.of_stored (hstep : Step w event s w' s') {ns : ℤ}
    (hns : PolicyConn.stored (i, event) = some ns) : s = .stamped ns ∧ event.op = .store ns := by
  cases hstep with
  | stored => exact ⟨congrArg _ (Option.some.inj hns), congrArg _ (Option.some.inj hns)⟩
  | _ => cases hns

theorem bytes_since {event : Event interface} (hop : event.op = .since) : bytes event = 0 := by
  obtain ⟨op, answer⟩ := event
  obtain rfl : op = .since := hop
  rfl

theorem min_le_subTime {time clock : ℕ} (h : time ≤ clock) : min (time : ℤ) maxInt64 ≤ subTime clock 0 := by
  unfold subTime
  have hmax : -2 ^ 63 ≤ maxInt64 := by decide
  omega

theorem Timely.stamps_step (h : Timely trace w states) (hi : states[i]? = some s)
    (hstep : Step w event s w' s') (j : ℕ) (ns : ℤ)
    (hj : (states.set i s' ++ (started event.op).map Task.first)[j]? = some (.stamped ns)) :
    0 ≤ ns ∧ ∀ time, Transferred j time (trace ++ [(i, event)]) → min (time : ℤ) maxInt64 ≤ ns := by
  rcases getElem?_step hi hj with ⟨rfl, hns⟩ | ⟨hne, hj⟩ | ⟨-, hmem⟩
  · obtain ⟨rfl, hop⟩ := hstep.stamp hns.symm
    refine ⟨subTime_nonneg w.clock, fun time htime => ?_⟩
    rcases transferred_concat.mp htime with ⟨-, hbytes, -⟩ | htime
    · exact absurd (bytes_since hop) hbytes.ne'
    · exact min_le_subTime (h.clock ▸ htime.le_elapsed)
  · obtain ⟨hnonneg, hstamp⟩ := h.stamps j ns hj
    refine ⟨hnonneg, fun time htime => ?_⟩
    rcases transferred_concat.mp htime with ⟨heq, -⟩ | htime
    · exact absurd heq.symm hne
    · exact hstamp time htime
  · cases mem_started (List.mem_of_getElem? hmem)

theorem Timely.nonneg_step (h : Timely trace w states) (hi : states[i]? = some s)
    (hstep : Step w event s w' s') : 0 ≤ lastStored (trace ++ [(i, event)]) := by
  rw [lastStored_concat]
  cases hstored : stored (i, event) with
  | none => exact h.nonneg
  | some ns =>
    obtain ⟨rfl, -⟩ := hstep.of_stored hstored
    exact (h.stamps i ns hi).1

theorem Timely.touches_step (h : Timely trace w states) (hi : states[i]? = some s) (hstep : Step w event s w' s')
    (horderly : Orderly trace (i, event)) (time : ℕ) (htime : Touched time (trace ++ [(i, event)])) :
    min (time : ℤ) maxInt64 ≤ lastStored (trace ++ [(i, event)]) := by
  rw [lastStored_concat]
  rw [touched_concat] at htime
  cases hstored : stored (i, event) with
  | none =>
    rcases htime with ⟨hsome, -⟩ | htime
    · rw [hstored] at hsome
      cases hsome
    · exact h.touches time htime
  | some ns =>
    obtain ⟨rfl, hop⟩ := hstep.of_stored hstored
    rcases htime with ⟨-, htime⟩ | htime
    · exact (h.stamps i ns hi).2 time htime
    · -- the order of the stores is needed here
      obtain ⟨op, answer⟩ := event
      obtain rfl : op = .store ns := hop
      exact (h.touches time htime).trans horderly

theorem nextDeadline_cases {policy : EffectiveSessionPolicy} {last deadline : ℤ}
    (hnext : nextDeadlineLocked policy last = some deadline) :
    0 < policy.maxDuration ∧ deadline = policy.maxDuration ∨
      0 < policy.idleTimeout ∧ deadline = addDuration last policy.idleTimeout := by
  unfold nextDeadlineLocked at hnext
  grind

theorem addDuration_eq {x y : ℤ} (hx : 0 ≤ x) (hy : 0 < y) (h : x + y ≤ maxInt64) : addDuration x y = x + y := by
  unfold addDuration
  unfold maxInt64 at h
  rw [Int.bmod_def]
  split <;> omega

/-- Where the idle deadline fits, the deadline of a policy is not before its limits. -/
theorem Timely.expired {policy : EffectiveSessionPolicy} {deadline : ℤ} (h : Timely trace w states)
    (hfits : Fits policy (lastStored trace))
    (hnext : nextDeadlineLocked policy (lastStored trace) = some deadline) (hpast : deadline ≤ w.clock) :
    Expired policy trace := by
  rw [h.clock] at hpast
  rcases nextDeadline_cases hnext with ⟨hpos, rfl⟩ | ⟨hpos, rfl⟩
  · exact Or.inl ⟨hpos, hpast⟩
  · have hle := hfits hpos
    have hnonneg := h.nonneg
    rw [addDuration_eq hnonneg hpos hle] at hpast
    refine Or.inr ⟨hpos, by omega, fun time htime => ?_⟩
    -- the last activity is less than the greatest duration, so the timestamp did not saturate
    have htouch := h.touches time htime
    omega

theorem Timely.notEarly (h : Timely trace w states) (hstep : Step w event s w' s')
    (horderly : Orderly trace (i, event)) : NotEarly trace (i, event) := by
  cases hstep with
  | applied _ hscheduled =>
    cases hscheduled with
    | expired hnext hpast => exact h.expired horderly (h.last ▸ hnext) hpast
    | _ => trivial
  | rescheduled hopen hscheduled =>
    cases hscheduled with
    | expired hnext hpast => exact h.expired horderly (h.last ▸ h.policy hopen ▸ hnext) hpast
    | _ => trivial
  | _ => trivial

theorem Timely.step (h : Timely trace w states) (hi : states[i]? = some s)
    (hstep : Step w event s w' s') (horderly : Orderly trace (i, event)) :
    Timely (trace ++ [(i, event)]) w' (states.set i s' ++ (started event.op).map Task.first) where
  clock := hstep.clock h.clock
  last := hstep.last h.last
  nonneg := h.nonneg_step hi hstep
  policy := hstep.policy h.policy
  stamps := h.stamps_step hi hstep
  touches := h.touches_step hi hstep horderly
  early := h.early.concat (h.notEarly hstep horderly)

end Timely

theorem timely_start (calls : List Call) :
    Timely [] {} ((.clock :: .timer :: calls.map .call : List Task).map Task.first) where
  clock := rfl
  last := rfl
  nonneg := le_rfl
  policy _ := rfl
  stamps i ns hi := by
    obtain ⟨task, -, heq⟩ := List.mem_map.mp (List.mem_of_getElem? hi)
    cases task <;> cases heq
  touches _ htouched := (not_since_nil htouched).elim
  early := stepwise_nil

/-- If touches store their timestamps in order and the idle deadline does not wrap around, the
policy does not end a connection early. -/
theorem sessions_not_cut_early (calls : List Call) (trace : Trace) (c : system.Config)
    (hrun : system.Run (start calls) trace c) (horderly : Stepwise Orderly trace) : Stepwise NotEarly trace := by
  have hinv := hrun.tracked system_follows (fun _ _ => rfl)
    (fun trace w states => Stepwise Orderly trace → Timely trace w states) (fun _ => timely_start calls) ?_
  · obtain ⟨states, htimely, -⟩ := hinv
    exact (htimely horderly).early
  · intro trace world states i s op answer world' h hi hallowed hanswer horderly
    obtain ⟨hbefore, hentry⟩ := horderly.of_concat
    exact (h hbefore).step hi (step_of_answers hallowed hanswer) hentry

section Example

/-- A session that may be idle for 10 ns. -/
def idling : EffectiveSessionPolicy := ⟨[], [], [], false, 10, 0⟩

def idlingAt (clock : ℕ) (lastActivityNS : ℤ) (timer : Timer) : World :=
  ⟨clock, lastActivityNS, false, idling, timer⟩

/-- The longest timeout. -/
def patient : EffectiveSessionPolicy := ⟨[], [], [], false, boundedDuration maxInt64 0, 0⟩

def patientAt (clock : ℕ) (lastActivityNS : ℤ) (timer : Timer) : World :=
  ⟨clock, lastActivityNS, false, patient, timer⟩

/-- A session that is idle after some data has arrived at 4 ns is kept at 10 ns, and ends at 14
ns. -/
theorem sessions_not_cut_early_idle : ∃ trace c, system.Run (start [.applyPolicy idling, .read]) trace c ∧
    Stepwise NotEarly trace ∧ (4, ⟨.onTimer, false⟩) ∈ trace ∧ (5, ⟨.onTimer, true⟩) ∈ trace := by
  have h0 : system.Run (start [.applyPolicy idling, .read]) [] (start [.applyPolicy idling, .read]) := .start
  have h1 := h0.perform 2 rfl false (rfl : (false, idlingAt 0 0 (.armed 10)) = World.apply {} idling)
  have h2 := h1.perform 0 rfl (4 : ℕ) (rfl : idlingAt 4 0 (.armed 10) = (idlingAt 0 0 (.armed 10)).tick 4)
  have h3 := h2.perform 3 rfl (1 : ℕ) rfl
  have h4 := h3.perform 3 rfl (4 : ℤ) ⟨(by decide : 4 = subTime 4 0), rfl⟩
  have h5 := h4.perform 3 rfl () (rfl : idlingAt 4 4 (.armed 10) = _)
  have h6 := (h5.resume 0 rfl).perform 0 rfl (6 : ℕ)
    (rfl : idlingAt 10 4 (.armed 10) = (idlingAt 4 4 (.armed 10)).tick 6)
  have h7 := h6.perform 1 rfl () ⟨10, rfl, le_rfl, (rfl : idlingAt 10 4 (.fired 10) = _)⟩
  have h8 := h7.perform 4 rfl false
    (rfl : (false, idlingAt 10 4 (.armed 14)) = (idlingAt 10 4 (.fired 10)).onTimer)
  have h9 := (h8.resume 0 rfl).perform 0 rfl (4 : ℕ)
    (rfl : idlingAt 14 4 (.armed 14) = (idlingAt 10 4 (.armed 14)).tick 4)
  have h10 := (h9.resume 1 rfl).perform 1 rfl () ⟨14, rfl, le_rfl, (rfl : idlingAt 14 4 (.fired 14) = _)⟩
  have h11 := h10.perform 5 rfl true
    (rfl : (true, idlingAt 14 4 (.fired 14)) = (idlingAt 14 4 (.fired 14)).onTimer)
  refine ⟨_, _, h11, sessions_not_cut_early _ _ _ h11 ?_, by simp, by simp⟩
  refine (((stepwise_nil.concat (fun _ => by decide)).concat trivial).concat trivial).concat trivial
    |>.concat (by decide : (0 : ℤ) ≤ 4) |>.concat trivial |>.concat trivial |>.concat (fun _ => by decide)
    |>.concat trivial |>.concat trivial |>.concat (fun _ => by decide)

/-- With the longest timeout a session ends when a policy is applied after some data has arrived.
And a session ends at 14 ns although data was sent at 8 ns, since the touch of an earlier read came
last. -/
theorem sessions_cut_early :
    (∃ trace c, system.Run (start [.applyPolicy patient, .read, .applyPolicy patient]) trace c ∧
      ¬ Stepwise NotEarly trace) ∧
    ∃ trace c, system.Run (start [.applyPolicy idling, .read, .write]) trace c ∧ ¬ Stepwise NotEarly trace := by
  constructor
  · have h0 : system.Run (start [.applyPolicy patient, .read, .applyPolicy patient]) []
        (start [.applyPolicy patient, .read, .applyPolicy patient]) := .start
    have h1 := h0.perform 2 rfl false (rfl : (false, patientAt 0 0 (.armed maxInt64)) = World.apply {} patient)
    have h2 := h1.perform 0 rfl (5 : ℕ)
      (rfl : patientAt 5 0 (.armed maxInt64) = (patientAt 0 0 (.armed maxInt64)).tick 5)
    have h3 := h2.perform 3 rfl (1 : ℕ) rfl
    have h4 := h3.perform 3 rfl (5 : ℤ) ⟨(by decide : 5 = subTime 5 0), rfl⟩
    have h5 := h4.perform 3 rfl () (rfl : patientAt 5 5 (.armed maxInt64) = _)
    have h6 := h5.perform 4 rfl true
      (rfl : (true, patientAt 5 5 (.armed maxInt64)) = (patientAt 5 5 (.armed maxInt64)).apply patient)
    refine ⟨_, _, h6, fun hnotEarly => ?_⟩
    rcases hnotEarly.of_concat.2 with ⟨hpos, -⟩ | ⟨-, hidle, -⟩
    · exact absurd hpos (by decide)
    · exact absurd hidle (by decide)
  · have h0 : system.Run (start [.applyPolicy idling, .read, .write]) []
        (start [.applyPolicy idling, .read, .write]) := .start
    have h1 := h0.perform 2 rfl false (rfl : (false, idlingAt 0 0 (.armed 10)) = World.apply {} idling)
    have h2 := h1.perform 0 rfl (4 : ℕ) (rfl : idlingAt 4 0 (.armed 10) = (idlingAt 0 0 (.armed 10)).tick 4)
    have h3 := h2.perform 3 rfl (1 : ℕ) rfl
    have h4 := h3.perform 3 rfl (4 : ℤ) ⟨(by decide : 4 = subTime 4 0), rfl⟩
    have h5 := (h4.resume 0 rfl).perform 0 rfl (4 : ℕ)
      (rfl : idlingAt 8 0 (.armed 10) = (idlingAt 4 0 (.armed 10)).tick 4)
    have h6 := h5.perform 4 rfl (1 : ℕ) rfl
    have h7 := h6.perform 4 rfl (8 : ℤ) ⟨(by decide : 8 = subTime 8 0), rfl⟩
    have h8 := h7.perform 4 rfl () (rfl : idlingAt 8 8 (.armed 10) = _)
    have h9 := h8.perform 3 rfl () (rfl : idlingAt 8 4 (.armed 10) = _)
    have h10 := (h9.resume 0 rfl).perform 0 rfl (6 : ℕ)
      (rfl : idlingAt 14 4 (.armed 10) = (idlingAt 8 4 (.armed 10)).tick 6)
    have h11 := h10.perform 1 rfl () ⟨10, rfl, (by decide : (10 : ℤ) ≤ 14), (rfl : idlingAt 14 4 (.fired 10) = _)⟩
    have h12 := h11.perform 5 rfl true
      (rfl : (true, idlingAt 14 4 (.fired 10)) = (idlingAt 14 4 (.fired 10)).onTimer)
    refine ⟨_, _, h12, fun hnotEarly => ?_⟩
    rcases hnotEarly.of_concat.2 with ⟨hpos, -⟩ | ⟨-, -, htouched⟩
    · exact absurd hpos (by decide)
    · refine absurd (htouched 8 ?_) (by decide)
      refine touched_concat.mpr (Or.inr (touched_concat.mpr (Or.inr (touched_concat.mpr (Or.inr ?_)))))
      refine touched_concat.mpr (Or.inl ⟨rfl, ?_⟩)
      exact transferred_concat.mpr (Or.inr (transferred_concat.mpr (Or.inl ⟨rfl, by decide, rfl⟩)))

end Example

end KubeSsh.Gateway.PolicyConn

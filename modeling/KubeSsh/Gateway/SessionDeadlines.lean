import KubeSsh.Gateway.SessionPolicyConn

/-!
# `pkg/gateway`: when a session policy ends a connection

A goroutine is at a `Phase`: it is the callback of the timer, it found the policy expired and has to
close the connection, it has to close the underlying connection, or it has a timestamp to store.
With these counted, `Enforced` is an invariant: there is a timer that is set early enough, or
somebody who will look or close.

In the other direction the code can be early. The idle deadline wraps around for timeouts near the
greatest duration, and two touches can store their timestamps out of order.
-/

namespace KubeSsh.Gateway.PolicyConn

open Prog KubeSsh.System

abbrev Trace := List (ℕ × Event interface)

/-! ## Phases -/

/-- Where a goroutine is. -/
inductive Phase
  | idle
  /-- The callback of the timer, before its critical section. -/
  | callback
  /-- The policy has expired, and the goroutine is about to close the connection. -/
  | expiring
  /-- It closed the connection, and is about to close the underlying one. -/
  | closing
  | stamped (ns : ℤ)
deriving DecidableEq

def Phase.Allows (s : Phase) : Op → Prop
  | .onTimer => s = .callback
  | .close => s = .idle ∨ s = .expiring
  | .closeConn => s = .closing
  | .store ns => s = .stamped ns
  | _ => s = .idle

def Phase.next (s : Phase) : (op : Op) → op.Answer → Phase
  | .apply _, true | .onTimer, true => .expiring
  | .onTimer, false => .idle
  | .close, true => .closing
  | .close, false => .idle
  | .closeConn, _ => .idle
  | .since, ns => .stamped ns
  | .store _, _ => .idle
  | _, _ => s

def phases : Monitor interface Phase := ⟨Phase.Allows, Phase.next⟩

def Task.first : Task → Phase
  | .onTimer => .callback
  | _ => .idle

theorem close_obeys {s : Phase} (hs : s = .idle ∨ s = .expiring) : close.Obeys phases s fun _ s => s = .idle := by
  refine obeys_perform_bind.mpr ⟨hs, fun open' => ?_⟩
  rcases (open' : Bool) with _ | _
  · rfl
  · exact ⟨rfl, fun _ => rfl⟩

theorem touch_obeys : touch.Obeys phases .idle fun _ s => s = .idle :=
  obeys_perform_bind.mpr ⟨rfl, fun _ => ⟨rfl, fun _ => rfl⟩⟩

theorem touched_obeys (n : ℕ) :
    (if 0 < n then touch else Pure.pure ()).Obeys phases .idle fun _ s => s = .idle := by
  split
  · exact touch_obeys
  · rfl

theorem call_obeys (call : Call) : call.run.Obeys phases .idle fun _ s => s = .idle := by
  cases call with
  | applyPolicy policy =>
    refine obeys_perform_bind.mpr ⟨rfl, fun expired => ?_⟩
    rcases (expired : Bool) with _ | _
    · rfl
    · exact close_obeys (Or.inr rfl)
  | read => exact obeys_perform_bind.mpr ⟨rfl, touched_obeys⟩
  | write => exact obeys_perform_bind.mpr ⟨rfl, touched_obeys⟩
  | close => exact close_obeys (Or.inl rfl)

theorem onTimer_obeys : onTimer.Obeys phases .callback fun _ s => s = .idle := by
  refine obeys_perform_bind.mpr ⟨rfl, fun expired => ?_⟩
  rcases (expired : Bool) with _ | _
  · rfl
  · exact close_obeys (Or.inr rfl)

theorem system_follows :
    system.Follows phases Task.first (fun task s => s = Task.first task) fun s => s = .idle where
  code task s hs := by
    obtain rfl := hs
    cases task with
    | call call => exact obeys_bind.mpr ((call_obeys call).mono fun _ _ hs => hs)
    | onTimer => exact obeys_bind.mpr (onTimer_obeys.mono fun _ _ hs => hs)
    | clock => exact obeys_perform_bind.mpr ⟨rfl, fun _ => rfl⟩
    | timer => exact obeys_perform_bind.mpr ⟨rfl, fun _ => rfl⟩
  started _ _ _ _ _ := rfl

/-! ## Schedules -/

section Schedule

variable {w w' : World} {expired : Bool}

/-- How `scheduleLocked` ends: the policy has expired, the timer is set to its deadline, or there is
none. -/
inductive Scheduled (w : World) : Bool → World → Prop
  | expired {deadline : ℤ} (hnext : nextDeadlineLocked w.policy w.lastActivityNS = some deadline)
      (hpast : deadline ≤ w.clock) : Scheduled w true w
  | armed {deadline due : ℤ} (hnext : nextDeadlineLocked w.policy w.lastActivityNS = some deadline)
      (hfuture : (w.clock : ℤ) < deadline) (hdue : due ≤ deadline) : Scheduled w false { w with timer := .armed due }
  | unlimited (hnext : nextDeadlineLocked w.policy w.lastActivityNS = none) :
      Scheduled w false { w with timer := w.timer.stop }

theorem subTime_nonpos_iff {x y : ℤ} : subTime x y ≤ 0 ↔ x ≤ y := by
  unfold subTime maxInt64
  omega

theorem subTime_le {x y : ℤ} (h : y < x) : subTime x y ≤ x - y := by
  unfold subTime maxInt64
  omega

theorem scheduled_of_scheduleLocked (h : (expired, w') = w.scheduleLocked) : Scheduled w expired w' := by
  unfold World.scheduleLocked at h
  split at h
  · rename_i hnext
    obtain ⟨rfl, rfl⟩ := Prod.mk.inj h
    exact .unlimited hnext
  · rename_i deadline hnext
    dsimp only at h
    split at h
    · rename_i hdelay
      obtain ⟨rfl, rfl⟩ := Prod.mk.inj h
      exact .expired hnext (subTime_nonpos_iff.mp hdelay)
    · rename_i hdelay
      obtain ⟨rfl, rfl⟩ := Prod.mk.inj h
      have hfuture : (w.clock : ℤ) < deadline := lt_of_not_ge fun hle => hdelay (subTime_nonpos_iff.mpr hle)
      have hle := subTime_le hfuture
      exact .armed hnext hfuture (by omega)

/-- A time that is not after any limit of the policy. -/
structure Within (policy : EffectiveSessionPolicy) (latest due : ℤ) : Prop where
  duration : 0 < policy.maxDuration → due ≤ policy.maxDuration
  idle : 0 < policy.idleTimeout → due ≤ latest + policy.idleTimeout

theorem addDuration_le {x y : ℤ} (hx : 0 ≤ x) (hy : 0 < y) : addDuration x y ≤ x + y := by
  unfold addDuration
  rw [Int.bmod_def]
  split <;> omega

theorem within_nextDeadline {policy : EffectiveSessionPolicy} {last latest deadline : ℤ} (hlast : 0 ≤ last)
    (hle : last ≤ latest) (hnext : nextDeadlineLocked policy last = some deadline) :
    Within policy latest deadline := by
  have hidle : 0 < policy.idleTimeout → addDuration last policy.idleTimeout ≤ latest + policy.idleTimeout :=
    fun hpos => (addDuration_le hlast hpos).trans (by omega)
  constructor <;> intro hpos
  all_goals
    simp only [nextDeadlineLocked, hpos, if_true] at hnext
    grind

theorem bounded_of_nextDeadline_none {policy : EffectiveSessionPolicy} {last : ℤ}
    (hnext : nextDeadlineLocked policy last = none) : ¬ (0 < policy.maxDuration ∨ 0 < policy.idleTimeout) := by
  unfold nextDeadlineLocked at hnext
  grind

end Schedule

/-! ## Steps -/

/-- What a step of a goroutine does to the connection, and where it leaves the goroutine. -/
inductive Step (w : World) : Event interface → Phase → World → Phase → Prop
  | read (n : ℕ) : Step w ⟨.connRead, n⟩ .idle w .idle
  | write (n : ℕ) : Step w ⟨.connWrite, n⟩ .idle w .idle
  | applied {policy : EffectiveSessionPolicy} {expired : Bool} {w' : World}
      (hopen : w.closed = false) (h : Scheduled { w with policy := policy } expired w') :
      Step w ⟨.apply policy, expired⟩ .idle w' (if expired then .expiring else .idle)
  | appliedLate {policy : EffectiveSessionPolicy} (hclosed : w.closed = true) :
      Step w ⟨.apply policy, false⟩ .idle w .idle
  | rescheduled {expired : Bool} {w' : World} (hopen : w.closed = false) (h : Scheduled w expired w') :
      Step w ⟨.onTimer, expired⟩ .callback w' (if expired then .expiring else .idle)
  | calledLate (hclosed : w.closed = true) : Step w ⟨.onTimer, false⟩ .callback w .idle
  | closed {s : Phase} (hs : s = .idle ∨ s = .expiring) (hopen : w.closed = false) :
      Step w ⟨.close, true⟩ s { w with closed := true, timer := w.timer.stop } .closing
  | closedLate {s : Phase} (hs : s = .idle ∨ s = .expiring) (hclosed : w.closed = true) :
      Step w ⟨.close, false⟩ s w .idle
  | connClosed (u : Unit) : Step w ⟨.closeConn, u⟩ .closing w .idle
  | stamped : Step w ⟨.since, subTime w.clock 0⟩ .idle w (.stamped (subTime w.clock 0))
  | stored (ns : ℤ) (u : Unit) : Step w ⟨.store ns, u⟩ (.stamped ns) { w with lastActivityNS := ns } .idle
  | ticked (n : ℕ) : Step w ⟨.tick, n⟩ .idle (w.tick n) .idle
  | fired {due : ℤ} (u : Unit) (harmed : w.timer = .armed due) :
      Step w ⟨.fire, u⟩ .idle { w with timer := .fired due } .idle

theorem step_of_answers {w w' : World} {s : Phase} {op : Op} {answer : op.Answer} (hallowed : s.Allows op)
    (hanswer : Answers w op answer w') : Step w ⟨op, answer⟩ s w' (s.next op answer) := by
  cases op with
  | apply policy =>
    obtain rfl : s = .idle := hallowed
    change (answer, w') = w.apply policy at hanswer
    unfold World.apply at hanswer
    split at hanswer
    · rename_i hclosed
      obtain ⟨rfl, rfl⟩ := Prod.mk.inj hanswer
      exact .appliedLate hclosed
    · rename_i hopen
      have hstep := Step.applied (Bool.eq_false_of_not_eq_true hopen) (scheduled_of_scheduleLocked hanswer)
      rcases (answer : Bool) with _ | _ <;> exact hstep
  | onTimer =>
    obtain rfl : s = .callback := hallowed
    change (answer, w') = w.onTimer at hanswer
    unfold World.onTimer at hanswer
    split at hanswer
    · rename_i hclosed
      obtain ⟨rfl, rfl⟩ := Prod.mk.inj hanswer
      exact .calledLate hclosed
    · rename_i hopen
      have hstep := Step.rescheduled (Bool.eq_false_of_not_eq_true hopen) (scheduled_of_scheduleLocked hanswer)
      rcases (answer : Bool) with _ | _ <;> exact hstep
  | close =>
    change (answer, w') = w.close at hanswer
    unfold World.close at hanswer
    split at hanswer
    · rename_i hclosed
      obtain ⟨rfl, rfl⟩ := Prod.mk.inj hanswer
      exact .closedLate hallowed hclosed
    · rename_i hopen
      obtain ⟨rfl, rfl⟩ := Prod.mk.inj hanswer
      exact .closed hallowed (Bool.eq_false_of_not_eq_true hopen)
  | closeConn =>
    obtain rfl : s = .closing := hallowed
    obtain rfl : w' = w := hanswer
    exact .connClosed _
  | connRead =>
    obtain rfl : s = .idle := hallowed
    obtain rfl : w' = w := hanswer
    exact .read answer
  | connWrite =>
    obtain rfl : s = .idle := hallowed
    obtain rfl : w' = w := hanswer
    exact .write answer
  | since =>
    obtain rfl : s = .idle := hallowed
    obtain ⟨rfl, rfl⟩ := hanswer
    exact .stamped
  | store ns =>
    obtain rfl : s = .stamped ns := hallowed
    obtain rfl : w' = { w with lastActivityNS := ns } := hanswer
    exact .stored ns _
  | tick =>
    obtain rfl : s = .idle := hallowed
    obtain rfl : w' = w.tick answer := hanswer
    exact .ticked answer
  | fire =>
    obtain rfl : s = .idle := hallowed
    obtain ⟨due, harmed, -, rfl⟩ := hanswer
    exact .fired _ harmed

/-! ## Limits are enforced -/

/-- The timestamp that an operation stores. -/
def stored : ℕ × Event interface → Option ℤ
  | (_, ⟨.store ns, _⟩) => some ns
  | _ => none

/-- The latest activity that was stored, and the start of the connection before any. -/
def latest (trace : Trace) : ℤ := (trace.filterMap stored).foldl max 0

def closesConn : ℕ × Event interface → Bool
  | (_, ⟨.closeConn, _⟩) => true
  | _ => false

theorem latest_concat (trace : Trace) (entry : ℕ × Event interface) :
    latest (trace ++ [entry]) = match stored entry with
      | some ns => max (latest trace) ns
      | none => latest trace := by
  unfold latest
  rw [List.filterMap_append, List.foldl_append]
  cases h : stored entry <;> simp [h]

theorem latest_le_concat (trace : Trace) (entry : ℕ × Event interface) :
    latest trace ≤ latest (trace ++ [entry]) := by
  rw [latest_concat]
  split
  · exact le_max_left _ _
  · exact le_rfl

/-- Somebody will look at the policy early enough: the timer is set to such a time or its callback
is to run, or a goroutine is about to close the connection. -/
def Limited (policy : EffectiveSessionPolicy) (latest : ℤ) (timer : Timer) (states : List Phase) : Prop :=
  (∃ due, Within policy latest due ∧ (timer = .armed due ∨ timer = .fired due ∧ .callback ∈ states))
    ∨ .expiring ∈ states

/-- The critical section found that the policy has expired. -/
def Expires : Event interface → Prop
  | ⟨.apply _, expired⟩ | ⟨.onTimer, expired⟩ => expired = true
  | _ => False

structure Enforced (trace : Trace) (w : World) (states : List Phase) : Prop where
  nonneg : 0 ≤ w.lastActivityNS
  le_latest : w.lastActivityNS ≤ latest trace
  stamps : ∀ ns, .stamped ns ∈ states → 0 ≤ ns
  limited : w.closed = false → 0 < w.policy.maxDuration ∨ 0 < w.policy.idleTimeout →
    Limited w.policy (latest trace) w.timer states
  expires : ∀ i, states[i]? = some .expiring → ∃ event ∈ (System.eventsOf i trace).getLast?, Expires event
  closed : ∀ entry ∈ trace, entry.2.op = .close → w.closed = true
  unarmed : w.closed = true → ∀ due, w.timer ≠ .armed due
  closes : trace.countP closesConn + states.count .closing = w.closed.toNat

section Enforced

variable {trace : Trace} {w w' : World} {states more : List Phase} {i : ℕ} {s s' : Phase} {event : Event interface}

theorem Within.mono {policy : EffectiveSessionPolicy} {bound bound' due : ℤ}
    (h : Within policy bound due) (hle : bound ≤ bound') : Within policy bound' due :=
  ⟨h.duration, fun hpos => (h.idle hpos).trans (by omega)⟩

/-- A goroutine that is neither the callback of the timer nor about to close the connection does not
matter. -/
theorem Limited.step {policy : EffectiveSessionPolicy} {bound bound' : ℤ} {timer : Timer}
    (h : Limited policy bound timer states) (hle : bound ≤ bound') (hi : states[i]? = some s)
    (hcallback : s ≠ .callback) (hexpiring : s ≠ .expiring) :
    Limited policy bound' timer (states.set i s' ++ more) := by
  rcases h with ⟨due, hwithin, htimer⟩ | hmem
  · refine Or.inl ⟨due, hwithin.mono hle, htimer.imp_right fun ⟨hfired, hmem⟩ => ⟨hfired, ?_⟩⟩
    exact mem_step_of_ne hi hmem hcallback.symm
  · exact Or.inr (mem_step_of_ne hi hmem hexpiring.symm)

/-- After a schedule the policy is limited again. -/
theorem Scheduled.limited {bound : ℤ} {expired : Bool} (h : Scheduled w expired w')
    (hi : states[i]? = some s) (hlast : 0 ≤ w.lastActivityNS) (hle : w.lastActivityNS ≤ bound)
    (hbounded : 0 < w'.policy.maxDuration ∨ 0 < w'.policy.idleTimeout) :
    Limited w'.policy bound w'.timer (states.set i (if expired then .expiring else .idle) ++ more) := by
  cases h with
  | expired => exact Or.inr (List.mem_of_getElem? (getElem?_step_self hi _ _))
  | armed hnext _ hdue =>
    have hwithin := within_nextDeadline hlast hle hnext
    exact Or.inl ⟨_, ⟨fun hpos => hdue.trans (hwithin.duration hpos), fun hpos => hdue.trans (hwithin.idle hpos)⟩,
      Or.inl rfl⟩
  | unlimited hnext => exact absurd hbounded (bounded_of_nextDeadline_none hnext)

/-- A schedule changes only the timer. -/
theorem Scheduled.keeps {expired : Bool} (h : Scheduled w expired w') :
    w'.clock = w.clock ∧ w'.lastActivityNS = w.lastActivityNS ∧ w'.closed = w.closed ∧ w'.policy = w.policy := by
  cases h <;> exact ⟨rfl, rfl, rfl, rfl⟩

theorem Scheduled.lastActivityNS_eq {expired : Bool} (h : Scheduled w expired w') :
    w'.lastActivityNS = w.lastActivityNS := h.keeps.2.1

theorem Scheduled.closed_eq {expired : Bool} (h : Scheduled w expired w') : w'.closed = w.closed := h.keeps.2.2.1

theorem subTime_nonneg (clock : ℕ) : 0 ≤ subTime clock 0 := by
  unfold subTime maxInt64
  omega

theorem Step.nonneg (hstep : Step w event s w' s') (h : 0 ≤ w.lastActivityNS)
    (hstamp : ∀ ns, s = .stamped ns → 0 ≤ ns) : 0 ≤ w'.lastActivityNS := by
  cases hstep with
  | applied _ hscheduled => exact hscheduled.lastActivityNS_eq ▸ h
  | rescheduled _ hscheduled => exact hscheduled.lastActivityNS_eq ▸ h
  | stored ns => exact hstamp ns rfl
  | _ => exact h

theorem Step.le_latest (hstep : Step w event s w' s') (h : w.lastActivityNS ≤ latest trace) :
    w'.lastActivityNS ≤ latest (trace ++ [(i, event)]) := by
  have hle := h.trans (latest_le_concat trace (i, event))
  cases hstep with
  | applied _ hscheduled => exact hscheduled.lastActivityNS_eq ▸ hle
  | rescheduled _ hscheduled => exact hscheduled.lastActivityNS_eq ▸ hle
  | stored ns =>
    rw [latest_concat]
    exact le_max_right _ _
  | _ => exact hle

theorem Step.stamp_nonneg (hstep : Step w event s w' s') {ns : ℤ} (hns : s' = .stamped ns) : 0 ≤ ns := by
  cases hstep with
  | stamped =>
    obtain rfl := Phase.stamped.inj hns
    exact subTime_nonneg w.clock
  | applied => split at hns <;> cases hns
  | rescheduled => split at hns <;> cases hns
  | _ => cases hns

/-- Only the timer starts goroutines, and they are callbacks. -/
theorem mem_started {op : Op} {x : Phase} (h : x ∈ (started op).map Task.first) : x = .callback := by
  cases op with
  | fire => exact List.mem_singleton.mp h
  | _ => exact absurd h List.not_mem_nil

theorem Step.limited (hstep : Step w event s w' s') (hi : states[i]? = some s)
    (hnonneg : 0 ≤ w.lastActivityNS) (hlatest : w.lastActivityNS ≤ latest trace)
    (h : w.closed = false → 0 < w.policy.maxDuration ∨ 0 < w.policy.idleTimeout →
      Limited w.policy (latest trace) w.timer states)
    (hopen : w'.closed = false) (hbounded : 0 < w'.policy.maxDuration ∨ 0 < w'.policy.idleTimeout) :
    Limited w'.policy (latest (trace ++ [(i, event)])) w'.timer
      (states.set i s' ++ (started event.op).map Task.first) := by
  have hle := latest_le_concat trace (i, event)
  cases hstep with
  | applied _ hscheduled => exact hscheduled.limited hi hnonneg (hlatest.trans hle) hbounded
  | rescheduled _ hscheduled => exact hscheduled.limited hi hnonneg (hlatest.trans hle) hbounded
  | closed => cases hopen
  | appliedLate hclosed => exact absurd (hopen.symm.trans hclosed) Bool.false_ne_true
  | calledLate hclosed => exact absurd (hopen.symm.trans hclosed) Bool.false_ne_true
  | closedLate _ hclosed => exact absurd (hopen.symm.trans hclosed) Bool.false_ne_true
  | @fired due _ harmed =>
    rcases h hopen hbounded with ⟨due', hwithin, htimer⟩ | hmem
    · obtain rfl : due' = due := by
        rw [harmed] at htimer
        rcases htimer with htimer | ⟨htimer, -⟩
        · exact (Timer.armed.inj htimer).symm
        · cases htimer
      exact Or.inl ⟨due', hwithin.mono hle, Or.inr ⟨rfl, List.mem_append_right _ (List.mem_singleton_self _)⟩⟩
    · exact Or.inr (mem_step_of_ne hi hmem nofun)
  | _ => exact (h hopen hbounded).step hle hi nofun nofun

theorem Step.expires (hstep : Step w event s w' s') (hs : s' = .expiring) : Expires event := by
  cases hstep with
  | @applied _ expired => cases expired with
    | false => cases hs
    | true => rfl
  | @rescheduled expired => cases expired with
    | false => cases hs
    | true => rfl
  | _ => cases hs

theorem Timer.stop_ne_armed (timer : Timer) (due : ℤ) : timer.stop ≠ .armed due := by
  cases timer <;> exact nofun

theorem Step.unarmed (hstep : Step w event s w' s') (h : w.closed = true → ∀ due,
    w.timer ≠ .armed due) (hclosed : w'.closed = true) : ∀ due, w'.timer ≠ .armed due := by
  cases hstep with
  | applied hopen hscheduled =>
    exact absurd ((hscheduled.closed_eq.trans hopen).symm.trans hclosed) Bool.false_ne_true
  | rescheduled hopen hscheduled =>
    exact absurd ((hscheduled.closed_eq.trans hopen).symm.trans hclosed) Bool.false_ne_true
  | closed => exact w.timer.stop_ne_armed
  | fired => exact nofun
  | _ => exact h hclosed

theorem Step.closed_of_closed (hstep : Step w event s w' s') (h : w.closed = true) : w'.closed = true := by
  cases hstep with
  | applied _ hscheduled => exact hscheduled.closed_eq.trans h
  | rescheduled _ hscheduled => exact hscheduled.closed_eq.trans h
  | closed => rfl
  | _ => exact h

theorem Step.closed_of_close (hstep : Step w event s w' s') (hop : event.op = .close) : w'.closed = true := by
  cases hstep with
  | closed => rfl
  | closedLate _ hclosed => exact hclosed
  | _ => cases hop

theorem Step.closes (hstep : Step w event s w' s') (hi : states[i]? = some s)
    (h : trace.countP closesConn + states.count .closing = w.closed.toNat) :
    (trace ++ [(i, event)]).countP closesConn
      + (states.set i s' ++ (started event.op).map Task.first).count .closing = w'.closed.toNat := by
  have hcount := count_step hi s' ((started event.op).map Task.first) .closing
  have hstarted : ((started event.op).map Task.first).count .closing = 0 :=
    List.count_eq_zero.mpr fun hmem => nomatch mem_started hmem
  rw [List.countP_append, List.countP_singleton]
  cases hstep with
  | applied hopen hscheduled =>
    rw [hscheduled.closed_eq]
    rename_i expired
    cases expired <;> simp [closesConn] at hcount hstarted ⊢ <;> omega
  | rescheduled hopen hscheduled =>
    rw [hscheduled.closed_eq]
    rename_i expired
    cases expired <;> simp [closesConn] at hcount hstarted ⊢ <;> omega
  | closed hs hopen =>
    rw [hopen, Bool.toNat_false] at h
    rcases hs with rfl | rfl <;> simp [closesConn] at hcount hstarted ⊢ <;> omega
  | closedLate hs => rcases hs with rfl | rfl <;> simp [closesConn] at hcount hstarted ⊢ <;> omega
  | _ =>
    simp [closesConn, World.tick] at hcount hstarted ⊢
    omega

theorem Enforced.step (h : Enforced trace w states) (hi : states[i]? = some s) (hstep : Step w event s w' s') :
    Enforced (trace ++ [(i, event)]) w' (states.set i s' ++ (started event.op).map Task.first) where
  nonneg := hstep.nonneg h.nonneg fun ns hs => h.stamps ns (List.mem_of_getElem? (hs ▸ hi))
  le_latest := hstep.le_latest h.le_latest
  stamps ns hmem := by
    rcases List.mem_append.mp hmem with hmem | hmem
    · rcases List.mem_or_eq_of_mem_set hmem with hmem | heq
      · exact h.stamps ns hmem
      · exact hstep.stamp_nonneg heq.symm
    · cases mem_started hmem
  limited := hstep.limited hi h.nonneg h.le_latest h.limited
  expires j hj := by
    rcases getElem?_step hi hj with ⟨rfl, heq⟩ | ⟨hne, hj⟩ | ⟨-, hj⟩
    · rw [System.eventsOf_concat_self, List.getLast?_concat]
      exact ⟨event, rfl, hstep.expires heq.symm⟩
    · rw [System.eventsOf_concat_ne hne.symm]
      exact h.expires j hj
    · cases mem_started (List.mem_of_getElem? hj)
  closed entry hmem hop := by
    rcases List.mem_append.mp hmem with hmem | hmem
    · exact hstep.closed_of_closed (h.closed entry hmem hop)
    · obtain rfl := List.mem_singleton.mp hmem
      exact hstep.closed_of_close hop
  unarmed := hstep.unarmed h.unarmed
  closes := hstep.closes hi h.closes

end Enforced

theorem enforced_start (calls : List Call) :
    Enforced [] {} ((.clock :: .timer :: calls.map .call : List Task).map Task.first) where
  nonneg := le_rfl
  le_latest := le_rfl
  stamps ns hmem := by
    obtain ⟨task, -, heq⟩ := List.mem_map.mp hmem
    cases task <;> cases heq
  limited _ hbounded := absurd hbounded (by decide)
  expires i hi := by
    obtain ⟨task, -, heq⟩ := List.mem_map.mp (List.mem_of_getElem? hi)
    cases task <;> cases heq
  closed := nofun
  unarmed := nofun
  closes := by
    refine (Nat.zero_add _).trans (List.count_eq_zero.mpr fun hmem => ?_)
    obtain ⟨task, -, heq⟩ := List.mem_map.mp hmem
    cases task <;> cases heq

theorem run_enforced {calls : List Call} {trace : Trace} {c : system.Config}
    (hrun : system.Run (start calls) trace c) :
    ∃ states, Enforced trace c.world states ∧
      Tracks phases (fun task s => s = Task.first task) (fun s => s = .idle) c.threads states := by
  refine hrun.tracked system_follows (fun _ _ => rfl) Enforced (enforced_start calls) ?_
  intro trace world states i s op answer world' h hi hallowed hanswer
  exact h.step hi (step_of_answers hallowed hanswer)

/-- A goroutine has just found that the policy has expired, and is about to close the connection. -/
def Expiring (trace : Trace) (c : system.Config) : Prop :=
  ∃ i k, c.threads[i]? = some (.call .close k) ∧ ∃ event ∈ (System.eventsOf i trace).getLast?, Expires event

/-- What a moment of a run owes the policy of the connection. -/
structure LimitsKept (trace : Trace) (c : system.Config) : Prop where
  /-- While the connection is open and its policy has a limit, the timer is set to a time that is
  not after any limit, or has fired for such a time and its callback is to run, or the policy was
  found expired and the connection is about to be closed for it. -/
  enforced : c.world.closed = false → 0 < c.world.policy.maxDuration ∨ 0 <
    c.world.policy.idleTimeout → (∃ due, Within c.world.policy (latest trace) due ∧
      (c.world.timer = .armed due ∨ c.world.timer = .fired due ∧ c.About .onTimer)) ∨ Expiring trace c
  /-- After a `Close` the connection is closed, and stays so. -/
  closed : ∀ entry ∈ trace, entry.2.op = .close → c.world.closed = true
  /-- The timer of a closed connection is not set. -/
  unarmed : c.world.closed = true → ∀ due, c.world.timer ≠ .armed due
  /-- The underlying connection of an open one is not closed; that of a closed one has been closed
  exactly once, or is about to be for the first time. -/
  conn : trace.countP closesConn ≤ 1 ∧
    (c.world.closed = false → trace.countP closesConn = 0) ∧
    (c.world.closed = true → trace.countP closesConn = 1 ∨ c.About .closeConn)

/-- No goroutine goes on as a callback of the timer. -/
theorem not_yields_onTimer (task : Task) (events : List (Event interface)) :
    ¬ (code task).Yields events (some .onTimer) := by
  intro hyields
  -- every task ends with a `return` of its own
  cases task
  all_goals
    obtain ⟨_, _, _, _, _, hreturn⟩ := hyields.of_bind
    cases (yields_pure hreturn).2

/-- A goroutine that is not idle is about to do what its phase allows. -/
theorem call_of_phase {calls : List Call} {trace : Trace} {c : system.Config} {states : List Phase}
    {i : ℕ} (hrun : system.Run (start calls) trace c)
    (htracks : Tracks phases (fun task s => s = Task.first task) (fun s => s = .idle) c.threads states)
    {s : Phase} (hs : states[i]? = some s) (hidle : s ≠ .idle) :
    ∃ op k, c.threads[i]? = some (.call op k) ∧ s.Allows op := by
  refine htracks.call_of_running hs fun next hnext hends => ?_
  obtain ⟨task, events, hyields⟩ := hrun.mem_threads hnext
  rcases next with _ | _ | _
  · exact hidle hends
  · exact hidle hends
  · exact not_yields_onTimer task events hyields
  · exact hidle hends
  · exact hidle hends

/-- Session limits are always enforced. -/
theorem session_limits_enforced (calls : List Call) (trace : Trace) (c : system.Config)
    (hrun : system.Run (start calls) trace c) : LimitsKept trace c := by
  obtain ⟨states, h, htracks⟩ := run_enforced hrun
  refine ⟨fun hopen hbounded => ?_, h.closed, h.unarmed, ?_, fun hopen => ?_, fun hclosed => ?_⟩
  · rcases h.limited hopen hbounded with ⟨due, hwithin, harmed | ⟨hfired, hmem⟩⟩ | hmem
    · exact Or.inl ⟨due, hwithin, Or.inl harmed⟩
    · obtain ⟨i, hi⟩ := List.mem_iff_getElem?.mp hmem
      obtain ⟨op, k, hcall, hallows⟩ := call_of_phase hrun htracks hi nofun
      obtain rfl : op = .onTimer := by cases op <;> first | rfl | simp [Phase.Allows] at hallows
      exact Or.inl ⟨due, hwithin, Or.inr ⟨hfired, i, k, hcall⟩⟩
    · obtain ⟨i, hi⟩ := List.mem_iff_getElem?.mp hmem
      obtain ⟨op, k, hcall, hallows⟩ := call_of_phase hrun htracks hi nofun
      obtain rfl : op = .close := by cases op <;> first | rfl | simp [Phase.Allows] at hallows
      exact Or.inr ⟨i, k, hcall, h.expires i hi⟩
  · have hcloses := h.closes
    have hle := c.world.closed.toNat_le
    omega
  · have hcloses := h.closes
    rw [hopen, Bool.toNat_false] at hcloses
    omega
  · have hcloses := h.closes
    rw [hclosed, Bool.toNat_true] at hcloses
    by_cases hone : trace.countP closesConn = 1
    · exact Or.inl hone
    · have hpos : 0 < states.count .closing := by omega
      obtain ⟨i, hi⟩ := List.mem_iff_getElem?.mp (List.count_pos_iff.mp hpos)
      obtain ⟨op, k, hcall, hallows⟩ := call_of_phase hrun htracks hi nofun
      obtain rfl : op = .closeConn := by cases op <;> first | rfl | simp [Phase.Allows] at hallows
      exact Or.inr ⟨i, k, hcall⟩

section Example

/-- A session of at most 100 ns, of which 10 may be idle. -/
def brief : EffectiveSessionPolicy := ⟨[], [], [], false, 10, 100⟩

def briefAt (clock : ℕ) (lastActivityNS : ℤ) (timer : Timer) : World :=
  ⟨clock, lastActivityNS, false, brief, timer⟩

/-- Some data arrives after half of the idle timeout, and the timer fires at the end of the
timeout. -/
theorem session_limits_enforced_rearmed : ∃ trace c, system.Run (start [.applyPolicy brief, .read]) trace c ∧
    LimitsKept trace c ∧ c.world.closed = false ∧ latest trace = 5 ∧ c.world.timer = .armed 15 := by
  have h0 : system.Run (start [.applyPolicy brief, .read]) [] (start [.applyPolicy brief, .read]) := .start
  have h1 := h0.perform 2 rfl false (rfl : (false, briefAt 0 0 (.armed 10)) = World.apply {} brief)
  have h2 := h1.perform 0 rfl (5 : ℕ) (rfl : briefAt 5 0 (.armed 10) = (briefAt 0 0 (.armed 10)).tick 5)
  have h3 := h2.perform 3 rfl (1 : ℕ) rfl
  have h4 := h3.perform 3 rfl (5 : ℤ) ⟨(by decide : 5 = subTime 5 0), rfl⟩
  have h5 := h4.perform 3 rfl () (rfl : briefAt 5 5 (.armed 10) = _)
  have h6 := (h5.resume 0 rfl).perform 0 rfl (5 : ℕ)
    (rfl : briefAt 10 5 (.armed 10) = (briefAt 5 5 (.armed 10)).tick 5)
  have h7 := h6.perform 1 rfl () ⟨10, rfl, le_rfl, (rfl : briefAt 10 5 (.fired 10) = _)⟩
  have h8 := h7.perform 4 rfl false
    (rfl : (false, briefAt 10 5 (.armed 15)) = (briefAt 10 5 (.fired 10)).onTimer)
  exact ⟨_, _, h8, session_limits_enforced _ _ _ h8, rfl, rfl, rfl⟩

end Example

end KubeSsh.Gateway.PolicyConn

import KubeSsh.Common.Threads
import KubeSsh.Gateway.SessionPolicy
import Mathlib.Algebra.Order.Ring.Int

/-!
# `pkg/gateway`: the connection that enforces a session policy

Reads, writes, `ApplyPolicy`, `Close` and the callbacks of the timer are goroutines over the state
of one `sessionPolicyConn`. Times are nanoseconds since the connection was started. A critical
section of the mutex is one operation, at one moment of the clock; the clock moves between
operations. The timer fires at any time from the one it is set to, and starts a goroutine for its
callback.

`newSessionPolicyConn` applies the first policy before anyone else has the connection; here that is
one of the calls of `ApplyPolicy`, and until then there is no policy.
-/

namespace KubeSsh.Gateway.PolicyConn

/-! ## Deadlines -/

/-- The greatest `time.Duration`. -/
def maxInt64 : ℤ := 2 ^ 63 - 1

/-- The sum of two values of type `time.Duration`, which wraps around. -/
def addDuration (x y : ℤ) : ℤ := (x + y).bmod (2 ^ 64)

/-- `Time.Sub`, which saturates. -/
def subTime (x y : ℤ) : ℤ := max (-2 ^ 63) (min maxInt64 (x - y))

/-- The timer of the connection: nil or stopped, set to a time, or fired since it was set to a
time. -/
inductive Timer
  | stopped
  | armed (due : ℤ)
  | fired (due : ℤ)
deriving DecidableEq

/-- `Timer.Stop`. -/
def Timer.stop : Timer → Timer
  | .armed _ => .stopped
  | timer => timer

/-- `sessionPolicyConn` (`session_policy_conn.go:13-22`), and the clock. -/
structure World where
  clock : ℕ := 0
  lastActivityNS : ℤ := 0
  closed : Bool := false
  policy : EffectiveSessionPolicy := ⟨[], [], [], false, 0, 0⟩
  timer : Timer := .stopped

/-- `nextDeadlineLocked` (`session_policy_conn.go:116-128`), with nothing for the zero time. -/
def nextDeadlineLocked (policy : EffectiveSessionPolicy) (lastActivityNS : ℤ) : Option ℤ :=
  let deadline := if 0 < policy.maxDuration then some policy.maxDuration else none
  if 0 < policy.idleTimeout then
    let idleDeadline := addDuration lastActivityNS policy.idleTimeout
    match deadline with
    | none => some idleDeadline
    | some maxDeadline => if idleDeadline < maxDeadline then some idleDeadline else some maxDeadline
  else deadline

/-- `scheduleLocked` (`session_policy_conn.go:96-114`): whether the policy has expired. -/
def World.scheduleLocked (w : World) : Bool × World :=
  match nextDeadlineLocked w.policy w.lastActivityNS with
  | none => (false, { w with timer := w.timer.stop })
  | some deadline =>
    let delay := subTime deadline w.clock
    if delay ≤ 0 then (true, w) else (false, { w with timer := .armed (w.clock + delay) })

/-! ## Operations -/

inductive Op
  /-- `ApplyPolicy` under the mutex (`session_policy_conn.go:32-38`): whether the policy has
  expired. -/
  | apply (policy : EffectiveSessionPolicy)
  /-- `onTimer` under the mutex (`session_policy_conn.go:82-88`). -/
  | onTimer
  /-- `Close` under the mutex (`session_policy_conn.go:62-71`): whether the connection was open. -/
  | close
  | closeConn
  /-- `c.Conn.Read` and `c.Conn.Write`: how many bytes were transferred. -/
  | connRead
  | connWrite
  /-- `time.Since(c.started).Nanoseconds()`. -/
  | since
  | store (ns : ℤ)
  /-- Time passes. -/
  | tick
  /-- The timer fires. -/
  | fire

def Op.Answer : Op → Type
  | .apply _ | .onTimer | .close => Bool
  | .connRead | .connWrite => ℕ
  | .since => ℤ
  | .tick => ℕ
  | _ => Unit

abbrev interface : Interface := ⟨Op, Op.Answer⟩

/-- A program of a goroutine. -/
abbrev Calling (α : Type) := Prog interface α

def perform (op : Op) : Calling op.Answer := Prog.perform (I := interface) op

def applyLocked (policy : EffectiveSessionPolicy) : Calling Bool := perform (.apply policy)
def onTimerLocked : Calling Bool := perform .onTimer
def closeLocked : Calling Bool := perform .close
def closeConn : Calling Unit := perform .closeConn
def connRead : Calling ℕ := perform .connRead
def connWrite : Calling ℕ := perform .connWrite
def since : Calling ℤ := perform .since
def store (ns : ℤ) : Calling Unit := perform (.store ns)

/-- `Close` (`session_policy_conn.go:61-73`). -/
def close : Calling Unit := do
  if ← closeLocked then closeConn

/-- `ApplyPolicy` (`session_policy_conn.go:31-43`). -/
def applyPolicy (policy : EffectiveSessionPolicy) : Calling Unit := do
  if ← applyLocked policy then close

/-- `touch` (`session_policy_conn.go:75-79`). -/
def touch : Calling Unit := do
  let ns ← since
  store ns

/-- `Read` (`session_policy_conn.go:45-51`). -/
def read : Calling Unit := do
  let n ← connRead
  if 0 < n then touch

/-- `Write` (`session_policy_conn.go:53-59`). -/
def write : Calling Unit := do
  let n ← connWrite
  if 0 < n then touch

/-- `onTimer` (`session_policy_conn.go:81-92`). -/
def onTimer : Calling Unit := do
  if ← onTimerLocked then close

/-! ## The system -/

inductive Call
  | applyPolicy (policy : EffectiveSessionPolicy)
  | read
  | write
  | close

inductive Task
  | call (call : Call)
  | onTimer
  | clock
  | timer

def Call.run : Call → Calling Unit
  | .applyPolicy policy => PolicyConn.applyPolicy policy
  | .read => PolicyConn.read
  | .write => PolicyConn.write
  | .close => PolicyConn.close

def code : Task → Calling (Option Task)
  | .call call => do
    call.run
    return none
  | .onTimer => do
    onTimer
    return none
  | .clock => do
    let _ ← perform .tick
    return some .clock
  | .timer => do
    let _ ← perform .fire
    return some .timer

def started : Op → List Task
  | .fire => [.onTimer]
  | _ => []

/-- `ApplyPolicy` under the mutex. -/
def World.apply (w : World) (policy : EffectiveSessionPolicy) : Bool × World :=
  if w.closed then (false, w) else { w with policy := policy }.scheduleLocked

/-- `onTimer` under the mutex. -/
def World.onTimer (w : World) : Bool × World := if w.closed then (false, w) else w.scheduleLocked

/-- `Close` under the mutex. -/
def World.close (w : World) : Bool × World :=
  if w.closed then (false, w) else (true, { w with closed := true, timer := w.timer.stop })

def World.tick (w : World) (n : ℕ) : World := { w with clock := w.clock + n }

/-- The answers of the connection and of the clock. A read or write transfers any number of
bytes. -/
def Answers (w : World) : (op : Op) → op.Answer → World → Prop
  | .apply policy, answer, w' => (answer, w') = w.apply policy
  | .onTimer, answer, w' => (answer, w') = w.onTimer
  | .close, answer, w' => (answer, w') = w.close
  | .since, ns, w' => ns = subTime w.clock 0 ∧ w' = w
  | .store ns, _, w' => w' = { w with lastActivityNS := ns }
  | .tick, n, w' => w' = w.tick n
  | .fire, _, w' => ∃ due, w.timer = .armed due ∧ due ≤ w.clock ∧ w' = { w with timer := .fired due }
  | _, _, w' => w' = w

def system : System interface where
  Task := Task
  code := code
  started := started
  World := World
  Answers := Answers

/-- A connection, with some calls at the same time. -/
def start (calls : List Call) : system.Config := system.initial {} (.clock :: .timer :: calls.map .call)

end KubeSsh.Gateway.PolicyConn

import KubeSsh.Common.Prog
import Mathlib.Data.Nat.Notation
import Mathlib.Logic.Relation

/-!
# Two processes and two queues

A peer consumes a queue and produces what is appended to the queue of the other. If it can go on
with what its queue holds, it goes on in the same way when more arrives: it cannot tell how far the
other has come. So the order in which two peers take their steps does not matter. `Peers.complete`
says this for whole runs: if one run comes to an end, all runs can be continued to that end, and
none is longer.
-/

namespace KubeSsh

/-! ## Counted steps -/

/-- `n` steps of a relation. -/
inductive Steps {S : Type} (r : S → S → Prop) : ℕ → S → S → Prop
  | refl (a : S) : Steps r 0 a a
  | head {a b c : S} {n : ℕ} (hab : r a b) (hbc : Steps r n b c) : Steps r (n + 1) a c

namespace Steps

variable {S : Type} {r : S → S → Prop} {a b t : S} {k n : ℕ}

theorem exists_of_reflTransGen (h : Relation.ReflTransGen r a b) : ∃ n, Steps r n a b := by
  induction h using Relation.ReflTransGen.head_induction_on with
  | refl => exact ⟨0, refl b⟩
  | head hab _ ih =>
    obtain ⟨n, hn⟩ := ih
    exact ⟨n + 1, head hab hn⟩

/-- If two steps from one state can always be joined by one more step each, a run to an end loses
one step by any first step. -/
theorem after_step (hdiamond : ∀ a b c, r a b → r a c → b = c ∨ ∃ d, r b d ∧ r c d)
    (h : Steps r n a t) (ht : ∀ b, ¬ r t b) (hb : r a b) : ∃ m, n = m + 1 ∧ Steps r m b t := by
  induction h generalizing b with
  | refl a => exact absurd hb (ht b)
  | @head a c t n hac hct ih =>
    rcases hdiamond a c b hac hb with rfl | ⟨d, hcd, hbd⟩
    · exact ⟨n, rfl, hct⟩
    · obtain ⟨m, rfl, hdt⟩ := ih ht hcd
      exact ⟨m + 1, rfl, head hbd hdt⟩

/-- Every run can be continued to the end of a run that has one. -/
theorem complete (hdiamond : ∀ a b c, r a b → r a c → b = c ∨ ∃ d, r b d ∧ r c d)
    (h : Steps r n a t) (ht : ∀ b, ¬ r t b) (hb : Steps r k a b) : ∃ m, n = k + m ∧ Steps r m b t := by
  induction hb generalizing n with
  | refl a => exact ⟨n, (Nat.zero_add n).symm, h⟩
  | head hac _ ih =>
    obtain ⟨m, rfl, hm⟩ := h.after_step hdiamond ht hac
    obtain ⟨m', rfl, hm'⟩ := ih hm
    exact ⟨m', by omega, hm'⟩

end Steps

/-! ## Peers -/

/-- A process that reads from a queue and says what it appends to another. It is told whether the
other process is done. -/
structure Peer (β : Type) where
  State : Type
  /-- The next state, what is left of the queue, and the output. -/
  step : State → List β → Bool → Option (State × List β × List β)
  done : State → Bool
  step_of_done : ∀ s queue closed, done s → step s queue closed = none
  /-- What a peer does while the other is not done, it does whatever the other does. -/
  step_append : ∀ s queue s' queue' out more closed, step s queue false = some (s', queue', out) →
    step s (queue ++ more) closed = some (s', queue' ++ more, out)

namespace Peers

variable {β : Type} {A B : Peer β}

/-- Both states, and what is on its way to each. -/
structure Config (A B : Peer β) where
  left : A.State
  right : B.State
  toLeft : List β
  toRight : List β

/-- One of the peers takes a step. -/
inductive Step : Config A B → Config A B → Prop
  | left {a a' : A.State} {b : B.State} {toLeft toLeft' toRight out : List β}
      (h : A.step a toLeft (B.done b) = some (a', toLeft', out)) :
      Step ⟨a, b, toLeft, toRight⟩ ⟨a', b, toLeft', toRight ++ out⟩
  | right {a : A.State} {b b' : B.State} {toLeft toRight toRight' out : List β}
      (h : B.step b toRight (A.done a) = some (b', toRight', out)) :
      Step ⟨a, b, toLeft, toRight⟩ ⟨a, b', toLeft ++ out, toRight'⟩

theorem not_done {C : Peer β} {s s' : C.State} {queue queue' out : List β} {closed : Bool}
    (h : C.step s queue closed = some (s', queue', out)) : C.done s = false := by
  cases hdone : C.done s with
  | false => rfl
  | true =>
    rw [C.step_of_done s queue closed hdone] at h
    cases h

/-- Steps of different peers can be exchanged. -/
theorem diamond_of_ne {a a' : A.State} {b b' : B.State} {toLeft toLeft' toRight toRight' out out' : List β}
    (ha : A.step a toLeft (B.done b) = some (a', toLeft', out))
    (hb : B.step b toRight (A.done a) = some (b', toRight', out')) :
    Step ⟨a', b, toLeft', toRight ++ out⟩ ⟨a', b', toLeft' ++ out', toRight' ++ out⟩ ∧
      Step ⟨a, b', toLeft ++ out', toRight'⟩ ⟨a', b', toLeft' ++ out', toRight' ++ out⟩ := by
  rw [not_done hb] at ha
  rw [not_done ha] at hb
  exact ⟨.right (B.step_append _ _ _ _ _ _ _ hb), .left (A.step_append _ _ _ _ _ _ _ ha)⟩

theorem diamond (c d e : Config A B) (hd : Step c d) (he : Step c e) :
    d = e ∨ ∃ f, Step d f ∧ Step e f := by
  cases hd with
  | left hd =>
    cases he with
    | left he =>
      left
      rw [hd] at he
      cases he
      rfl
    | right he => exact Or.inr ⟨_, diamond_of_ne hd he⟩
  | right hd =>
    cases he with
    | left he => exact Or.inr ⟨_, (diamond_of_ne he hd).symm⟩
    | right he =>
      left
      rw [hd] at he
      cases he
      rfl

/-- If a run comes to an end, there is a bound on the length of all runs, and a run that cannot go
on has come to the same end. -/
theorem complete {c t : Config A B} (h : Relation.ReflTransGen Step c t) (ht : ∀ d, ¬ Step t d) :
    ∃ n, ∀ k d, Steps Step k c d → k ≤ n ∧ ((∀ e, ¬ Step d e) → d = t) := by
  obtain ⟨n, hn⟩ := Steps.exists_of_reflTransGen h
  refine ⟨n, fun k d hd => ?_⟩
  obtain ⟨m, rfl, hm⟩ := hn.complete diamond ht hd
  refine ⟨Nat.le_add_right k m, fun hend => ?_⟩
  cases hm with
  | refl => rfl
  | head hstep => exact absurd hstep (hend _)

end Peers

/-! ## Peers that run programs -/

/-- What answers the operations of a program: from a local state and the queue, unless it has to
wait. -/
structure Device (I : Interface) (β D : Type) where
  /-- The answer, the local state after it, what is left of the queue, and the output. -/
  answer : D → (op : I.Op) → List β → Bool → Option (I.Answer op × D × List β × List β)
  answer_append : ∀ d op queue a d' queue' out more closed,
    answer d op queue false = some (a, d', queue', out) →
      answer d op (queue ++ more) closed = some (a, d', queue' ++ more, out)

namespace Device

variable {I : Interface} {β D T : Type} (device : Device I β D) (code : T → Prog I (Option T))

/-- The state of a program that performs its operations on a device. -/
structure State (I : Interface) (D T : Type) where
  program : Prog I (Option T)
  data : D

def step (s : State I D T) (queue : List β) (closed : Bool) : Option (State I D T × List β × List β) :=
  match s with
  | ⟨.pure none, _⟩ => none
  | ⟨.pure (some task), data⟩ => some (⟨code task, data⟩, queue, [])
  | ⟨.call op k, data⟩ =>
    (device.answer data op queue closed).map fun (answer, data', queue', out) => (⟨k answer, data'⟩, queue', out)

def finished : State I D T → Bool
  | ⟨.pure none, _⟩ => true
  | _ => false

/-- The peer that runs one task after the other. -/
def peer : Peer β where
  State := State I D T
  step := device.step code
  done := finished
  step_of_done s queue closed h := by
    rcases s with ⟨(_ | task) | ⟨op, k⟩, data⟩
    · rfl
    · cases h
    · cases h
  step_append s queue s' queue' out more closed h := by
    rcases s with ⟨(_ | task) | ⟨op, k⟩, data⟩
    · cases h
    · cases h
      rfl
    · obtain ⟨⟨answer, data', queue'', out'⟩, hanswer, heq⟩ := Option.map_eq_some_iff.mp h
      cases heq
      show (device.answer data op (queue ++ more) closed).map _ = _
      rw [device.answer_append _ _ _ _ _ _ _ more closed hanswer]
      rfl

section Runs

variable {device code} {B : Peer β} {b : B.State} {data data' : D} {queue queue' out other : List β}
  {op : I.Op} {k : I.Answer op → Prog I (Option T)} {answer : I.Answer op}

/-- The left program performs an operation. -/
theorem left_performs {p : Prog I (Option T)} (hp : p = .call op k)
    (h : device.answer data op queue (B.done b) = some (answer, data', queue', out)) :
    Peers.Step (A := device.peer code) ⟨⟨p, data⟩, b, queue, other⟩
      ⟨⟨k answer, data'⟩, b, queue', other ++ out⟩ := by
  subst hp
  refine .left ?_
  show (device.answer data op queue (B.done b)).map _ = _
  rw [h]
  rfl

/-- The right program performs an operation. -/
theorem right_performs {p : Prog I (Option T)} (hp : p = .call op k)
    (h : device.answer data op queue (B.done b) = some (answer, data', queue', out)) :
    Peers.Step (B := device.peer code) ⟨b, ⟨p, data⟩, other, queue⟩
      ⟨b, ⟨k answer, data'⟩, other ++ out, queue'⟩ := by
  subst hp
  refine .right ?_
  show (device.answer data op queue (B.done b)).map _ = _
  rw [h]
  rfl

/-- The left program goes on with the next task. -/
theorem left_resumes {task : T} : Peers.Step (A := device.peer code)
    ⟨⟨.pure (some task), data⟩, b, queue, other⟩ ⟨⟨code task, data⟩, b, queue, other⟩ := by
  have h : Peers.Step (A := device.peer code) ⟨⟨.pure (some task), data⟩, b, queue, other⟩
      ⟨⟨code task, data⟩, b, queue, other ++ []⟩ := .left rfl
  rwa [List.append_nil] at h

/-- The right program goes on with the next task. -/
theorem right_resumes {task : T} : Peers.Step (B := device.peer code)
    ⟨b, ⟨.pure (some task), data⟩, other, queue⟩ ⟨b, ⟨code task, data⟩, other, queue⟩ := by
  have h : Peers.Step (B := device.peer code) ⟨b, ⟨.pure (some task), data⟩, other, queue⟩
      ⟨b, ⟨code task, data⟩, other ++ [], queue⟩ := .right rfl
  rwa [List.append_nil] at h

end Runs

end Device

end KubeSsh

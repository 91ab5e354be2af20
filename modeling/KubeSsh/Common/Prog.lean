import Mathlib.Data.List.Induction
import Mathlib.Init

/-!
# Programs that perform operations

A sequential program as the tree of the operations it performs: `pure` ends it, `call` performs an
operation and goes on with whatever the answer is. An `Interface` lists the operations and the type
of their answers; what the answers are is left open.

A `Monitor` is an automaton that watches the operations and says which one may come next. `Obeys` is
the weakest precondition of a program for it, with one rule for each way to build a program, and
`Only` is the special case of a program that does nothing the monitor looks at.
-/

namespace KubeSsh

/-- The operations a program can perform, and the type of what each answers. -/
structure Interface where
  Op : Type
  Answer : Op → Type

/-- A program that performs operations of `I` and ends with an `α`. -/
inductive Prog (I : Interface) (α : Type) : Type
  | pure (a : α)
  | call (op : I.Op) (k : I.Answer op → Prog I α)

/-- An operation that was performed, with its answer. -/
structure Event (I : Interface) where
  op : I.Op
  answer : I.Answer op

variable {I : Interface} {α β : Type}

namespace Prog

def bind : Prog I α → (α → Prog I β) → Prog I β
  | pure a, f => f a
  | call op k, f => call op fun answer => (k answer).bind f

instance : Monad (Prog I) where
  pure := Prog.pure
  bind := Prog.bind

/-- The program that performs one operation and returns its answer. -/
def perform (op : I.Op) : Prog I (I.Answer op) := call op pure

theorem bind_pure' (p : Prog I α) : p.bind Prog.pure = p := by
  induction p with
  | pure a => rfl
  | call op k ih => exact congrArg (call op) (funext ih)

theorem bind_assoc' {γ : Type} (p : Prog I α) (f : α → Prog I β) (g : β → Prog I γ) :
    (p.bind f).bind g = p.bind fun a => (f a).bind g := by
  induction p with
  | pure a => rfl
  | call op k ih => exact congrArg (call op) (funext ih)

instance : LawfulMonad (Prog I) := LawfulMonad.mk' (Prog I) bind_pure' (fun _ _ => rfl) bind_assoc'

/-- The program in a monad that answers its operations. -/
def interpret {m : Type → Type} [Monad m] (handle : (op : I.Op) → m (I.Answer op)) : Prog I α → m α
  | pure a => Pure.pure a
  | call op k => do
    let answer ← handle op
    (k answer).interpret handle

section Interpret

variable {m : Type → Type} [Monad m] [LawfulMonad m] {handle : (op : I.Op) → m (I.Answer op)}

theorem interpret_perform (op : I.Op) : (perform op).interpret handle = handle op :=
  bind_pure (handle op)

theorem interpret_bind (p : Prog I α) (f : α → Prog I β) :
    (p >>= f).interpret handle = p.interpret handle >>= fun a => (f a).interpret handle := by
  induction p with
  | pure a =>
    change (f a).interpret handle = (Pure.pure a : m α) >>= _
    rw [pure_bind]
  | call op k ih =>
    rw [interpret, bind_assoc]
    exact congrArg (handle op >>= ·) (funext ih)

end Interpret

end Prog

/-! ## Monitors -/

/-- An automaton over the operations: which are allowed in a state, and the state after each. -/
structure Monitor (I : Interface) (S : Type) where
  Allowed : S → I.Op → Prop
  next : S → (op : I.Op) → I.Answer op → S

variable {S : Type}

namespace Monitor

variable (m : Monitor I S)

/-- The state of the monitor after a list of events. -/
def after (s : S) (events : List (Event I)) : S :=
  events.foldl (fun s event => m.next s event.op event.answer) s

/-- Every event of the list was allowed when it happened. -/
def Accepts (s : S) (events : List (Event I)) : Prop :=
  ∀ before event rest, events = before ++ event :: rest → m.Allowed (m.after s before) event.op

theorem after_concat (s : S) (events : List (Event I)) (event : Event I) :
    m.after s (events ++ [event]) = m.next (m.after s events) event.op event.answer := by
  simp [after]

theorem accepts_nil (s : S) : m.Accepts s [] := by
  intro before event rest h
  simp at h

theorem accepts_of_append {s : S} {events events' : List (Event I)}
    (h : m.Accepts s (events ++ events')) : m.Accepts s events := by
  intro before event rest heq
  refine h before event (rest ++ events') ?_
  rw [heq, List.append_assoc, List.cons_append]

theorem accepts_concat {s : S} {events : List (Event I)} {event : Event I}
    (h : m.Accepts s events) (hevent : m.Allowed (m.after s events) event.op) :
    m.Accepts s (events ++ [event]) := by
  intro before event' rest heq
  rcases List.eq_nil_or_concat rest with rfl | ⟨rest', last, rfl⟩
  · obtain ⟨rfl, hlast⟩ := List.append_inj' heq rfl
    obtain rfl : event = event' := by simpa using hlast
    exact hevent
  · refine h before event' rest' ?_
    rw [List.concat_eq_append, ← List.cons_append, ← List.append_assoc] at heq
    exact (List.append_inj' heq rfl).1

/-- Induction over accepted events: each event is allowed in the state after those before it. -/
theorem Accepts.induction {m : Monitor I S} {s : S} {P : List (Event I) → Prop}
    {events : List (Event I)} (h : m.Accepts s events) (hnil : P [])
    (hconcat : ∀ events event, m.Accepts s events → P events →
      m.Allowed (m.after s events) event.op → P (events ++ [event])) : P events := by
  induction events using List.reverseRecOn with
  | nil => exact hnil
  | append_singleton events event ih =>
    have hbefore := m.accepts_of_append h
    exact hconcat events event hbefore (ih hbefore) (h events event [] rfl)

end Monitor

/-! ## Programs under a monitor -/

namespace Prog

variable {m : Monitor I S} {s : S}

/-- Started in `s`, the program only performs allowed operations, and ends in `post`. -/
def Obeys (m : Monitor I S) : S → Prog I α → (α → S → Prop) → Prop
  | s, pure a, post => post a s
  | s, call op k, post => m.Allowed s op ∧ ∀ answer, (k answer).Obeys m (m.next s op answer) post

theorem obeys_pure {a : α} {post : α → S → Prop} :
    (Pure.pure a : Prog I α).Obeys m s post ↔ post a s := Iff.rfl

theorem obeys_perform {op : I.Op} {post : I.Answer op → S → Prop} :
    (perform op).Obeys m s post ↔ m.Allowed s op ∧ ∀ answer, post answer (m.next s op answer) :=
  Iff.rfl

theorem obeys_bind {p : Prog I α} {f : α → Prog I β} {post : β → S → Prop} :
    (p >>= f).Obeys m s post ↔ p.Obeys m s fun a s' => (f a).Obeys m s' post := by
  induction p generalizing s with
  | pure a => exact Iff.rfl
  | call op k ih => exact and_congr_right fun _ => forall_congr' fun answer => ih answer

theorem obeys_perform_bind {op : I.Op} {f : I.Answer op → Prog I β} {post : β → S → Prop} :
    (perform op >>= f).Obeys m s post ↔
      m.Allowed s op ∧ ∀ answer, (f answer).Obeys m (m.next s op answer) post := Iff.rfl

theorem Obeys.mono {p : Prog I α} {post post' : α → S → Prop} (h : p.Obeys m s post)
    (hpost : ∀ a s', post a s' → post' a s') : p.Obeys m s post' := by
  induction p generalizing s with
  | pure a => exact hpost a s h
  | call op k ih => exact ⟨h.1, fun answer => ih answer (h.2 answer)⟩

/-! ## Programs that a monitor does not look at -/

/-- The program performs operations of `P` only. -/
def Only (P : I.Op → Prop) : Prog I α → Prop
  | pure _ => True
  | call op k => P op ∧ ∀ answer, (k answer).Only P

variable {P : I.Op → Prop}

@[simp]
theorem only_pure (a : α) : (Pure.pure a : Prog I α).Only P := trivial

@[simp]
theorem only_perform {op : I.Op} : (perform op).Only P ↔ P op :=
  ⟨fun h => h.1, fun h => ⟨h, fun _ => trivial⟩⟩

theorem only_of_forall (h : ∀ op, P op) (p : Prog I α) : p.Only P := by
  induction p with
  | pure a => trivial
  | call op k ih => exact ⟨h op, ih⟩

theorem Only.bind {p : Prog I α} {f : α → Prog I β} (hp : p.Only P) (hf : ∀ a, (f a).Only P) :
    (p >>= f).Only P := by
  induction p with
  | pure a => exact hf a
  | call op k ih => exact ⟨hp.1, fun answer => ih answer (hp.2 answer)⟩

theorem Only.mono {Q : I.Op → Prop} {p : Prog I α} (h : p.Only P) (hPQ : ∀ op, P op → Q op) :
    p.Only Q := by
  induction p with
  | pure a => exact trivial
  | call op k ih => exact ⟨hPQ op h.1, fun answer => ih answer (h.2 answer)⟩

theorem Only.optionForM {x : Option α} {f : α → Prog I PUnit} (hf : ∀ a ∈ x, (f a).Only P) :
    (x.forM f).Only P := by
  cases x with
  | none => exact trivial
  | some a => exact hf a rfl

theorem Only.forM {xs : List α} {f : α → Prog I PUnit} (hf : ∀ a ∈ xs, (f a).Only P) :
    (xs.forM f).Only P := by
  induction xs with
  | nil => exact trivial
  | cons x xs ih =>
    exact (hf x List.mem_cons_self).bind fun _ => ih fun a ha => hf a (List.mem_cons_of_mem x ha)

/-- If the operations of `P` are allowed in the states of `Inv` and lead to such states, a program
that performs no others ends in one. -/
theorem Only.obeys_of_inv {Inv : S → Prop} {p : Prog I α} (h : p.Only P) (hs : Inv s)
    (hP : ∀ s op, Inv s → P op → m.Allowed s op ∧ ∀ answer, Inv (m.next s op answer)) :
    p.Obeys m s fun _ s' => Inv s' := by
  induction p generalizing s with
  | pure a => exact hs
  | call op k ih =>
    obtain ⟨hallowed, hnext⟩ := hP s op hs h.1
    exact ⟨hallowed, fun answer => ih answer (h.2 answer) (hnext answer)⟩

/-- If the operations of `P` are allowed in `s` and do not change it, a program that performs no
others ends in `s`. -/
theorem Only.obeys {p : Prog I α} (h : p.Only P)
    (hP : ∀ op, P op → m.Allowed s op ∧ ∀ answer, m.next s op answer = s) :
    p.Obeys m s fun _ s' => s' = s :=
  h.obeys_of_inv rfl fun s' op hs' hop => by
    subst hs'
    exact hP op hop

/-- If the operations of `P` are always allowed, a program that performs no others obeys. -/
theorem Only.obeys_of_allowed {p : Prog I α} (h : p.Only P) (hP : ∀ s op, P op → m.Allowed s op) :
    p.Obeys m s fun _ _ => True :=
  h.obeys_of_inv trivial fun s' op _ hop => ⟨hP s' op hop, fun _ => trivial⟩

/-! ## What a program has done -/

/-- The program performs these events, and is left with `q`. -/
inductive Steps : Prog I α → List (Event I) → Prog I α → Prop
  | done (p : Prog I α) : Steps p [] p
  | step {op : I.Op} {k : I.Answer op → Prog I α} {answer : I.Answer op} {events : List (Event I)}
      {q : Prog I α} (h : Steps (k answer) events q) : Steps (call op k) (⟨op, answer⟩ :: events) q

/-- The program performs these events and ends with `a`. -/
abbrev Yields (p : Prog I α) (events : List (Event I)) (a : α) : Prop := p.Steps events (pure a)

section Steps

variable {p q : Prog I α} {events events' : List (Event I)} {op : I.Op}

theorem Steps.append {r : Prog I α} (h : p.Steps events r) (h' : r.Steps events' q) :
    p.Steps (events ++ events') q := by
  induction h with
  | done p => exact h'
  | step _ ih => exact .step (ih h')

theorem Steps.concat {k : I.Answer op → Prog I α} (h : p.Steps events (call op k)) (answer : I.Answer op) :
    p.Steps (events ++ [⟨op, answer⟩]) (k answer) := h.append (.step (.done _))

theorem Steps.split (h : p.Steps (events ++ events') q) : ∃ r, p.Steps events r ∧ r.Steps events' q := by
  induction events generalizing p with
  | nil => exact ⟨p, .done p, h⟩
  | cons event events ih =>
    cases h with
    | step h =>
      obtain ⟨r, hr, hq⟩ := ih h
      exact ⟨r, .step hr, hq⟩

/-- What a program is about to do next, from what it has done with one more event. -/
theorem Steps.before {event : Event I} (h : p.Steps (events ++ event :: events') q) :
    ∃ k, p.Steps events (call event.op k) := by
  obtain ⟨r, hr, hq⟩ := h.split
  cases hq with
  | step => exact ⟨_, hr⟩

theorem Only.steps {P : I.Op → Prop} {k : I.Answer op → Prog I α} (h : p.Only P)
    (hsteps : p.Steps events (call op k)) : P op := by
  generalize hq : call op k = q at hsteps
  induction hsteps with
  | done p =>
    subst hq
    exact h.1
  | step _ ih => exact ih (h.2 _) hq

theorem not_steps_pure {a : α} {k : I.Answer op → Prog I α} :
    ¬ (Pure.pure a : Prog I α).Steps events (call op k) := by
  intro h
  cases h

theorem steps_perform {op' : I.Op} {k : I.Answer op' → Prog I (I.Answer op)}
    (h : (perform op).Steps events (call op' k)) : op' = op := by
  cases h with
  | done => rfl
  | step h => exact (not_steps_pure h).elim

/-- What a program ends with holds in the state after its events. -/
theorem Obeys.of_yields {post : α → S → Prop} {a : α} (h : p.Obeys m s post)
    (hyields : p.Yields events a) : post a (m.after s events) := by
  induction p generalizing s events with
  | pure b =>
    cases hyields
    exact h
  | call op k ih =>
    cases hyields with
    | step hyields =>
      have hrest := ih _ (h.2 _) hyields
      exact hrest

theorem yields_pure {a b : α} (h : (Pure.pure a : Prog I α).Yields events b) : events = [] ∧ b = a := by
  cases h
  exact ⟨rfl, rfl⟩

theorem yields_perform {answer : I.Answer op} (h : (perform op).Yields events answer) :
    events = [⟨op, answer⟩] := by
  cases h with
  | step h =>
    cases h
    rfl

theorem Yields.of_bind {f : α → Prog I β} {b : β} (h : (p >>= f).Yields events b) :
    ∃ first rest a, events = first ++ rest ∧ p.Yields first a ∧ (f a).Yields rest b := by
  induction p generalizing events with
  | pure a => exact ⟨[], events, a, rfl, .done _, h⟩
  | call op k ih =>
    cases h with
    | step h =>
      obtain ⟨first, rest, a, rfl, hfirst, hrest⟩ := ih _ h
      exact ⟨_ :: first, rest, a, rfl, .step hfirst, hrest⟩

/-- A sequence that is about to perform an operation is in its first part, or that has ended. -/
theorem Steps.of_bind {f : α → Prog I β} {k : I.Answer op → Prog I β}
    (h : (p >>= f).Steps events (call op k)) :
    (∃ k', p.Steps events (call op k')) ∨
      ∃ first rest a, events = first ++ rest ∧ p.Yields first a ∧ (f a).Steps rest (call op k) := by
  induction p generalizing events with
  | pure a => exact Or.inr ⟨[], events, a, rfl, .done _, h⟩
  | call op' k' ih =>
    cases h with
    | done => exact Or.inl ⟨_, .done _⟩
    | step h =>
      rcases ih _ h with ⟨k', hk'⟩ | ⟨first, rest, a, rfl, hfirst, hrest⟩
      · exact Or.inl ⟨k', .step hk'⟩
      · exact Or.inr ⟨_ :: first, rest, a, rfl, .step hfirst, hrest⟩

end Steps

/-! ## How much a program does -/

/-- The program performs at most `n` operations, whatever they answer. -/
def AtMost : Prog I α → Nat → Prop
  | pure _, _ => True
  | call _ _, 0 => False
  | call _ k, n + 1 => ∀ answer, (k answer).AtMost n

theorem AtMost.mono {p : Prog I α} {m n : Nat} (h : p.AtMost m) (hmn : m ≤ n) : p.AtMost n := by
  induction p generalizing m n with
  | pure a => exact trivial
  | call op k ih =>
    cases m with
    | zero => exact h.elim
    | succ m =>
      obtain ⟨n, rfl⟩ : ∃ n', n = n' + 1 := ⟨n - 1, by omega⟩
      exact fun answer => ih answer (h answer) (Nat.le_of_succ_le_succ hmn)

theorem AtMost.bind {p : Prog I α} {f : α → Prog I β} {m n : Nat} (hp : p.AtMost m)
    (hf : ∀ a, (f a).AtMost n) : (p >>= f).AtMost (m + n) := by
  induction p generalizing m with
  | pure a => exact (hf a).mono (Nat.le_add_left n m)
  | call op k ih =>
    cases m with
    | zero => exact hp.elim
    | succ m =>
      rw [Nat.succ_add]
      exact fun answer => ih answer (hp answer)

end Prog

end KubeSsh

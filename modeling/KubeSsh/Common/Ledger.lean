import KubeSsh.Common.Threads
import Mathlib.Algebra.BigOperators.Group.Multiset.Basic
import Mathlib.Algebra.Order.Group.Multiset
import Mathlib.Tactic.Abel

/-!
# Tokens that threads hold

A ledger says what an operation takes from the thread that performs it and what its answer gives
back, as multisets of tokens. A thread may only perform what it holds the tokens for, which is a
monitor. `Prog.Moves` is a triple for it, with the frame built in: a program turns `pre` into `post`
whatever else the thread holds. If all tasks of a system do, the tokens of all threads together
change only by what the operations take and give (`Ledger.sum_step`).
-/

namespace KubeSsh

variable {I : Interface} {T α β : Type}

/-- The tokens that an operation takes, and those that its answer gives. -/
structure Ledger (I : Interface) (T : Type) where
  takes : I.Op → Multiset T
  gives : (op : I.Op) → I.Answer op → Multiset T

namespace Ledger

variable [DecidableEq T] (L : Ledger I T)

/-- A thread performs an operation only if it holds what the operation takes. -/
def monitor : Monitor I (Multiset T) where
  Allowed held op := L.takes op ≤ held
  next held op answer := held - L.takes op + L.gives op answer

/-- The operation neither takes nor gives. -/
def Free (op : I.Op) : Prop := L.takes op = 0 ∧ ∀ answer, L.gives op answer = 0

theorem free_spec {op : I.Op} (h : L.Free op) (held : Multiset T) :
    L.monitor.Allowed held op ∧ ∀ answer, L.monitor.next held op answer = held := by
  refine ⟨h.1.le.trans (Multiset.zero_le _), fun answer => ?_⟩
  change held - L.takes op + L.gives op answer = held
  rw [h.1, h.2, tsub_zero, add_zero]

omit [DecidableEq T] in
/-- What all threads hold is held by some thread. -/
theorem exists_mem_of_mem_sum {states : List (Multiset T)} {token : T} (h : token ∈ states.sum) :
    ∃ held ∈ states, token ∈ held := by
  induction states with
  | nil => cases h
  | cons held states ih =>
    rw [List.sum_cons, Multiset.mem_add] at h
    rcases h with h | h
    · exact ⟨held, List.mem_cons_self, h⟩
    · obtain ⟨held', hmem, hheld'⟩ := ih h
      exact ⟨held', List.mem_cons_of_mem held hmem, hheld'⟩

/-- The tokens of all threads, when one of them performs an operation and others start. -/
theorem sum_step {states started : List (Multiset T)} {i : ℕ} {held : Multiset T} {op : I.Op}
    (hi : states[i]? = some held) (hallowed : L.monitor.Allowed held op) (answer : I.Answer op) :
    (states.set i (L.monitor.next held op answer) ++ started).sum + L.takes op
      = states.sum + L.gives op answer + started.sum := by
  obtain ⟨hlt, rfl⟩ := List.getElem?_eq_some_iff.mp hi
  obtain ⟨kept, hkept⟩ : ∃ kept, states[i] = L.takes op + kept := exists_add_of_le hallowed
  have hnext : L.monitor.next states[i] op answer = kept + L.gives op answer := by
    change states[i] - L.takes op + L.gives op answer = _
    rw [hkept, add_tsub_cancel_left]
  have hsum : states.sum = (states.take i).sum + (states[i] + (states.drop (i + 1)).sum) := by
    rw [← List.sum_cons, List.getElem_cons_drop, ← List.sum_append, List.take_append_drop]
  rw [List.set_eq_take_append_cons_drop, if_pos hlt, List.sum_append, List.sum_append,
    List.sum_cons, hsum, hnext, hkept]
  abel

end Ledger

/-! ## Programs -/

namespace Prog

variable [DecidableEq T] {L : Ledger I T}

/-- Whatever else the thread holds, the program takes `pre` and leaves `post`. -/
def Moves (L : Ledger I T) (pre : Multiset T) (p : Prog I α) (post : α → Multiset T) : Prop :=
  ∀ rest, p.Obeys L.monitor (pre + rest) fun a held => held = post a + rest

variable {pre : Multiset T}

theorem moves_pure {a : α} {post : α → Multiset T} (h : pre = post a) :
    (Pure.pure a : Prog I α).Moves L pre post := fun _ => congrArg (· + _) h

theorem moves_perform (op : I.Op) : (perform op).Moves L (L.takes op) (L.gives op) := by
  intro rest
  refine ⟨Multiset.le_add_right _ _, fun answer => ?_⟩
  change L.takes op + rest - L.takes op + L.gives op answer = L.gives op answer + rest
  rw [add_tsub_cancel_left, add_comm]

variable {post : β → Multiset T} {p : Prog I α} {f : α → Prog I β} {mid : α → Multiset T}

theorem Moves.bind (hp : p.Moves L pre mid) (hf : ∀ a, (f a).Moves L (mid a) post) :
    (p >>= f).Moves L pre post := by
  intro rest
  refine obeys_bind.mpr ((hp rest).mono ?_)
  rintro a _ rfl
  exact hf a rest

/-- What the thread holds besides stays with it. -/
theorem Moves.frame {post : α → Multiset T} (h : p.Moves L pre post)
    (extra : Multiset T) : p.Moves L (pre + extra) fun a => post a + extra := by
  intro rest
  rw [add_assoc]
  refine (h (extra + rest)).mono ?_
  rintro a _ rfl
  exact (add_assoc _ _ _).symm

theorem Moves.bind_frame {extra : Multiset T} (hp : p.Moves L pre mid)
    (hf : ∀ a, (f a).Moves L (mid a + extra) post) : (p >>= f).Moves L (pre + extra) post :=
  (hp.frame extra).bind hf

/-- The program uses up what it takes, and the thread keeps the rest. -/
theorem Moves.keep (h : p.Moves L pre fun _ => 0)
    (extra : Multiset T) : p.Moves L (extra + pre) fun _ => extra := by
  have hframe := h.frame extra
  simp only [zero_add] at hframe
  rwa [add_comm]

/-- The program takes nothing, and what it leaves comes on top. -/
theorem Moves.bind_keep {extra : Multiset T}
    (hp : p.Moves L 0 mid) (hf : ∀ a, (f a).Moves L (extra + mid a) post) :
    (p >>= f).Moves L extra post := by
  have hbind : (p >>= f).Moves L (0 + extra) post := hp.bind_frame fun a => (by
    rw [add_comm]
    exact hf a)
  rwa [zero_add] at hbind

/-- A program that neither takes nor gives can come before anything. -/
theorem Only.moves_bind
    (hp : p.Only L.Free) (hf : ∀ a, (f a).Moves L pre post) : (p >>= f).Moves L pre post := by
  intro rest
  refine obeys_bind.mpr ((hp.obeys fun op hop => L.free_spec hop (pre + rest)).mono ?_)
  rintro a _ rfl
  exact hf a rest

theorem Only.moves (hp : p.Only L.Free) (held : Multiset T) :
    p.Moves L held fun _ => held := by
  have h : (p >>= Pure.pure).Moves L held fun _ => held := hp.moves_bind fun _ => moves_pure rfl
  rwa [bind_pure] at h

theorem moves_forM {xs : List β} {f : β → Prog I PUnit} {pre : β → Multiset T}
    (hf : ∀ x, (f x).Moves L (pre x) fun _ => 0) :
    (xs.forM f).Moves L (xs.map pre).sum fun _ => 0 := by
  induction xs with
  | nil => exact moves_pure rfl
  | cons x xs ih =>
    rw [List.map_cons, List.sum_cons]
    refine (hf x).bind_frame fun _ => ?_
    rw [zero_add]
    exact ih

end Prog

/-! ## Systems -/

namespace System

variable {sys : System I} [DecidableEq T] {L : Ledger I T}

/-- Every task starts with its tokens, and leaves those of the task that the thread goes on with. -/
def Balanced (sys : System I) (L : Ledger I T) (first leaves : sys.Task → Multiset T) : Prop :=
  ∀ task, (sys.code task).Moves L (first task) fun next => next.elim (leaves task) first

theorem Balanced.follows {first leaves : sys.Task → Multiset T} (h : sys.Balanced L first leaves) :
    sys.Follows L.monitor first (fun task held => held = first task)
      fun held => ∃ task, held = leaves task where
  code task held hheld := by
    have hobeys := h task 0
    rw [add_zero] at hobeys
    rw [hheld]
    refine hobeys.mono fun next held' hheld' => ?_
    rw [add_zero] at hheld'
    cases next with
    | none => exact ⟨task, hheld'⟩
    | some task' => exact hheld'
  started _ _ _ _ _ := rfl

end System

end KubeSsh

import Mathlib.Data.Nat.Notation

/-!
# Reading a store that others change

A sequential computation that reads a shared store several times sees one state per read, and the
store may have changed in between. `Reads σ α` is a computation of this kind: it is run on the
history `ℕ → σ` of states that successive reads see, from the index of its first read on.

A computation on an unchanging store is the special case of a constant history.
-/

namespace KubeSsh

/-- Computations that read states of type `σ`. -/
abbrev Reads (σ : Type) := ReaderT (ℕ → σ) (StateM ℕ)

namespace Reads

variable {σ α β : Type}

/-- One read: a function of the state that this read sees. -/
def read (f : σ → α) : Reads σ α := fun history n => (f (history n), n + 1)

/-- The result of a computation whose first read is the `n`-th of the history. -/
def run (x : Reads σ α) (history : ℕ → σ) (n : ℕ) : α := (x history n).1

/-- The index of the next read after a computation. -/
def next (x : Reads σ α) (history : ℕ → σ) (n : ℕ) : ℕ := (x history n).2

/-! ## How the operations compose -/

@[simp]
theorem run_bind (x : Reads σ α) (f : α → Reads σ β) (history : ℕ → σ) (n : ℕ) :
    (x >>= f).run history n = (f (x.run history n)).run history (x.next history n) := rfl

@[simp]
theorem next_bind (x : Reads σ α) (f : α → Reads σ β) (history : ℕ → σ) (n : ℕ) :
    (x >>= f).next history n = (f (x.run history n)).next history (x.next history n) := rfl

/-! ## Computations that also keep a state of their own -/

section Stateful

variable {τ : Type}

theorem run_stateT_bind (x : StateT τ (Reads σ) α) (f : α → StateT τ (Reads σ) β) (s : τ)
    (history : ℕ → σ) (n : ℕ) :
    Reads.run ((x >>= f) s) history n =
      Reads.run (f (Reads.run (x s) history n).1 (Reads.run (x s) history n).2) history
        (Reads.next (x s) history n) := rfl

theorem next_stateT_bind (x : StateT τ (Reads σ) α) (f : α → StateT τ (Reads σ) β) (s : τ)
    (history : ℕ → σ) (n : ℕ) :
    Reads.next ((x >>= f) s) history n =
      Reads.next (f (Reads.run (x s) history n).1 (Reads.run (x s) history n).2) history
        (Reads.next (x s) history n) := rfl

@[simp]
theorem run_stateT_lift (x : Reads σ α) (s : τ) (history : ℕ → σ) (n : ℕ) :
    Reads.run ((liftM x : StateT τ (Reads σ) α) s) history n = (x.run history n, s) := rfl

end Stateful

end Reads

end KubeSsh

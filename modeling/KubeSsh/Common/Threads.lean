import KubeSsh.Common.Prog
import Mathlib.Data.List.Basic
import Mathlib.Data.List.Induction

/-!
# Threads over a shared state

A system runs a growing list of threads. A thread is a sequence of tasks: each task is a program
that ends with the task the thread goes on with, or with none. One iteration of a loop is a task. An
operation may start new threads, and its answer may depend on and change the world the threads
share. The threads take turns in any order, one operation at a time.

A monitor that watches each thread gives every thread a state. `Run.tracked` is the rule for what
holds along a run of the events, the world and these states together. If every task obeys a monitor,
`Run.accepts` says that the events of each single thread are accepted by it, in every run.
-/

namespace KubeSsh

variable {I : Interface} {S : Type}

/-- The tasks of a system, what they start, and how the shared world answers. -/
structure System (I : Interface) where
  Task : Type
  code : Task → Prog I (Option Task)
  /-- The threads that an operation starts. -/
  started : I.Op → List Task
  World : Type
  /-- The answers that an operation can get in a world, and the world after each. -/
  Answers : World → (op : I.Op) → I.Answer op → World → Prop

namespace System

/-- The operations that were performed, with the number of the thread that performed each. -/
abbrev Trace (I : Interface) := List (ℕ × Event I)

/-- The world and what is left to do in each thread. -/
structure Config (sys : System I) where
  world : sys.World
  threads : List (Prog I (Option sys.Task))

/-- A thread is about to perform the operation. -/
def Config.About {sys : System I} (c : sys.Config) (op : I.Op) : Prop :=
  ∃ (i : ℕ) (k : I.Answer op → Prog I (Option sys.Task)), c.threads[i]? = some (.call op k)

/-- Each task in a thread of its own. -/
def initial (sys : System I) (world : sys.World) (tasks : List sys.Task) : sys.Config :=
  ⟨world, tasks.map sys.code⟩

/-- The runs from `c`. -/
inductive Run (sys : System I) (c : sys.Config) : Trace I → sys.Config → Prop
  | start : sys.Run c [] c
  | perform {trace : Trace I} {c' : sys.Config} (hrun : sys.Run c trace c') (i : ℕ)
      {op : I.Op} {k : I.Answer op → Prog I (Option sys.Task)}
      (hi : c'.threads[i]? = some (.call op k)) (answer : I.Answer op) {world : sys.World}
      (hanswer : sys.Answers c'.world op answer world) :
      sys.Run c (trace ++ [(i, ⟨op, answer⟩)])
        ⟨world, c'.threads.set i (k answer) ++ (sys.started op).map sys.code⟩
  | resume {trace : Trace I} {c' : sys.Config} (hrun : sys.Run c trace c') (i : ℕ)
      {task : sys.Task} (hi : c'.threads[i]? = some (.pure (some task))) :
      sys.Run c trace ⟨c'.world, c'.threads.set i (sys.code task)⟩

/-- The events of one thread, in their order. -/
def eventsOf (i : ℕ) (trace : Trace I) : List (Event I) :=
  trace.filterMap fun entry => if entry.1 = i then some entry.2 else none

theorem eventsOf_concat_self (i : ℕ) (trace : Trace I) (event : Event I) :
    eventsOf i (trace ++ [(i, event)]) = eventsOf i trace ++ [event] := by
  simp [eventsOf]

theorem eventsOf_concat_ne {i j : ℕ} (h : j ≠ i) (trace : Trace I) (event : Event I) :
    eventsOf i (trace ++ [(j, event)]) = eventsOf i trace := by
  simp [eventsOf, h]

theorem eventsOf_append (i : ℕ) (trace trace' : Trace I) :
    eventsOf i (trace ++ trace') = eventsOf i trace ++ eventsOf i trace' := List.filterMap_append

theorem eventsOf_split (i : ℕ) (before : Trace I) (event : Event I)
    (rest : Trace I) :
    eventsOf i (before ++ (i, event) :: rest) = eventsOf i before ++ event :: eventsOf i rest := by
  simp [eventsOf]

theorem mem_eventsOf {i : ℕ} {trace : Trace I} {event : Event I} :
    event ∈ eventsOf i trace ↔ (i, event) ∈ trace := by
  rw [eventsOf, List.mem_filterMap]
  constructor
  · rintro ⟨⟨j, event'⟩, hmem, heq⟩
    have hj : j = i ∧ event' = event := by simpa using heq
    obtain ⟨rfl, rfl⟩ := hj
    exact hmem
  · intro hmem
    exact ⟨(i, event), hmem, if_pos rfl⟩

/-- An event of the trace happened before, or it is the last one. -/
theorem exists_mem_concat {trace : Trace I} {i : ℕ} {event event' : Event I} :
    (∃ j, (j, event) ∈ trace ++ [(i, event')]) ↔ (∃ j, (j, event) ∈ trace) ∨ event' = event := by
  constructor
  · rintro ⟨j, hj⟩
    rcases List.mem_append.mp hj with hj | hj
    · exact Or.inl ⟨j, hj⟩
    · exact Or.inr (Prod.mk.inj (List.mem_singleton.mp hj)).2.symm
  · rintro (⟨j, hj⟩ | rfl)
    · exact ⟨j, List.mem_append_left _ hj⟩
    · exact ⟨i, List.mem_append_right _ (List.mem_singleton.mpr rfl)⟩

/-- The next event of a thread in a trace. -/
theorem exists_of_eventsOf_eq_cons {i : ℕ} {trace : Trace I} {event : Event I}
    {events : List (Event I)} (h : eventsOf i trace = event :: events) :
    ∃ before rest, trace = before ++ (i, event) :: rest ∧ eventsOf i before = [] ∧
      eventsOf i rest = events := by
  obtain ⟨before, ⟨j, event'⟩, rest, rfl, hbefore, hevent, hrest⟩ := List.filterMap_eq_cons_iff.mp h
  have hj : j = i ∧ event' = event := by simpa using hevent
  obtain ⟨rfl, rfl⟩ := hj
  exact ⟨before, rest, rfl, List.filterMap_eq_nil_iff.mpr hbefore, hrest⟩

/-- An event of a thread in a trace. -/
theorem exists_of_eventsOf_eq_append {i : ℕ} {trace : Trace I} {events events' : List (Event I)}
    {event : Event I} (h : eventsOf i trace = events ++ event :: events') :
    ∃ before rest, trace = before ++ (i, event) :: rest ∧ eventsOf i before = events ∧
      eventsOf i rest = events' := by
  obtain ⟨before, rest, rfl, hbefore, hrest⟩ := List.filterMap_eq_append_iff.mp h
  obtain ⟨between, rest', rfl, hbetween, hrest'⟩ := exists_of_eventsOf_eq_cons hrest
  refine ⟨before ++ between, rest', (List.append_assoc _ _ _).symm, ?_, hrest'⟩
  rw [eventsOf_append, hbetween, List.append_nil]
  exact hbefore

/-- Every step of a trace has a property, given what came before it. -/
def Stepwise (P : Trace I → ℕ × Event I → Prop) (trace : Trace I) : Prop :=
  ∀ before entry rest, trace = before ++ entry :: rest → P before entry

theorem stepwise_nil {P : Trace I → ℕ × Event I → Prop} : Stepwise P [] := by
  intro before entry rest h
  simp at h

theorem Stepwise.concat {P : Trace I → ℕ × Event I → Prop}
    {trace : Trace I} {entry : ℕ × Event I} (h : Stepwise P trace) (hentry : P trace entry) :
    Stepwise P (trace ++ [entry]) := by
  intro before entry' rest heq
  rcases List.eq_nil_or_concat rest with rfl | ⟨rest', last, rfl⟩
  · obtain ⟨rfl, hlast⟩ := List.append_inj' heq rfl
    obtain rfl := List.singleton_inj.mp hlast
    exact hentry
  · refine h before entry' rest' ?_
    rw [List.concat_eq_append, ← List.cons_append, ← List.append_assoc] at heq
    exact (List.append_inj' heq rfl).1

theorem Stepwise.of_append {P : Trace I → ℕ × Event I → Prop}
    {trace trace' : Trace I} (h : Stepwise P (trace ++ trace')) : Stepwise P trace := by
  intro before entry rest heq
  refine h before entry (rest ++ trace') ?_
  rw [heq, List.append_assoc, List.cons_append]

theorem Stepwise.of_mem {P : Trace I → ℕ × Event I → Prop} {trace : Trace I}
    {entry : ℕ × Event I} (h : Stepwise P trace) (hmem : entry ∈ trace) :
    ∃ before rest, trace = before ++ entry :: rest ∧ P before entry := by
  obtain ⟨before, rest, htrace⟩ := List.append_of_mem hmem
  exact ⟨before, rest, htrace, h before entry rest htrace⟩

theorem Stepwise.of_concat {P : Trace I → ℕ × Event I → Prop}
    {trace : Trace I} {entry : ℕ × Event I} (h : Stepwise P (trace ++ [entry])) :
    Stepwise P trace ∧ P trace entry :=
  ⟨h.of_append, h trace entry [] rfl⟩

/-- What happens only if it has not happened before, happens once. -/
theorem Stepwise.countP_le_one {b : ℕ × Event I → Bool} {trace : Trace I}
    (h : Stepwise (fun before entry => b entry = true → ∀ earlier ∈ before, b earlier = false) trace) :
    trace.countP b ≤ 1 := by
  induction trace using List.reverseRecOn with
  | nil => exact Nat.zero_le 1
  | append_singleton trace entry ih =>
    obtain ⟨htrace, hentry⟩ := h.of_concat
    rw [List.countP_append, List.countP_singleton]
    split
    · rename_i hb
      have hnone : trace.countP b = 0 := List.countP_eq_zero.mpr fun earlier hmem => by
        rw [hentry hb earlier hmem]
        exact Bool.false_ne_true
      exact Nat.le_of_eq (congrArg (· + 1) hnone)
    · exact ih htrace

/-- An entry of the trace has `P`, given what came before it, and none since has `Q`. -/
def Since (P : Trace I → ℕ × Event I → Prop) (Q : ℕ × Event I → Prop)
    (trace : Trace I) : Prop :=
  ∃ earlier entry later, trace = earlier ++ entry :: later ∧ P earlier entry ∧
    ∀ entry' ∈ later, ¬ Q entry'

section Since

variable {P P' : Trace I → ℕ × Event I → Prop} {Q Q' : ℕ × Event I → Prop}
  {trace : Trace I} {entry : ℕ × Event I}

theorem not_since_nil : ¬ Since P Q [] := by
  rintro ⟨earlier, entry, later, h, -⟩
  simp at h

theorem since_concat : Since P Q (trace ++ [entry]) ↔ P trace entry ∨ Since P Q trace ∧ ¬ Q entry := by
  constructor
  · rintro ⟨earlier, entry', later, heq, hP, hQ⟩
    rcases List.eq_nil_or_concat later with rfl | ⟨later', last, rfl⟩
    · obtain ⟨rfl, hlast⟩ := List.append_inj' heq rfl
      obtain rfl := List.singleton_inj.mp hlast
      exact Or.inl hP
    · rw [List.concat_eq_append, ← List.cons_append, ← List.append_assoc] at heq
      obtain ⟨rfl, hlast⟩ := List.append_inj' heq rfl
      obtain rfl := List.singleton_inj.mp hlast
      rw [List.concat_eq_append, List.forall_mem_append, List.forall_mem_singleton] at hQ
      exact Or.inr ⟨⟨earlier, entry', later', rfl, hP, hQ.1⟩, hQ.2⟩
  · rintro (hP | ⟨⟨earlier, entry', later, rfl, hP, hQ⟩, hQ'⟩)
    · exact ⟨trace, entry, [], rfl, hP, fun _ h => (by cases h)⟩
    · refine ⟨earlier, entry', later ++ [entry], by simp, hP, ?_⟩
      rw [List.forall_mem_append, List.forall_mem_singleton]
      exact ⟨hQ, hQ'⟩

theorem Since.exists_mem (h : Since P Q trace) : ∃ earlier, ∃ entry ∈ trace, P earlier entry := by
  obtain ⟨earlier, entry, later, rfl, hentry, -⟩ := h
  exact ⟨earlier, entry, by simp, hentry⟩

end Since

/-- The states of the threads after one of them moved on and others started. -/
theorem getElem?_step {states started : List S} {i j : ℕ} {s s' x : S} (hi : states[i]? = some s)
    (h : (states.set i s' ++ started)[j]? = some x) :
    j = i ∧ x = s' ∨ j ≠ i ∧ states[j]? = some x ∨
      states.length ≤ j ∧ started[j - states.length]? = some x := by
  have hlt : i < states.length := (List.getElem?_eq_some_iff.mp hi).1
  by_cases hj : j < states.length
  · rw [List.getElem?_append_left (by simpa using hj)] at h
    by_cases hij : j = i
    · subst hij
      rw [List.getElem?_set_self hlt] at h
      exact Or.inl ⟨rfl, (Option.some.inj h).symm⟩
    · rw [List.getElem?_set_ne (Ne.symm hij)] at h
      exact Or.inr (Or.inl ⟨hij, h⟩)
  · have hlen : (states.set i s').length ≤ j := by simpa using hj
    rw [List.getElem?_append_right hlen, List.length_set] at h
    exact Or.inr (Or.inr ⟨Nat.le_of_not_lt hj, h⟩)

theorem getElem?_step_self {states : List S} {i : ℕ} {s : S} (hi : states[i]? = some s) (s' : S)
    (started : List S) : (states.set i s' ++ started)[i]? = some s' := by
  have hlt : i < states.length := (List.getElem?_eq_some_iff.mp hi).1
  rw [List.getElem?_append_left (by simpa using hlt), List.getElem?_set_self hlt]

theorem getElem?_step_ne {states : List S} {i j : ℕ} {x : S} (hj : states[j]? = some x)
    (hij : i ≠ j) (s' : S) (started : List S) : (states.set i s' ++ started)[j]? = some x := by
  have hlt : j < states.length := (List.getElem?_eq_some_iff.mp hj).1
  rw [List.getElem?_append_left (by simpa using hlt), List.getElem?_set_ne hij, hj]

theorem mem_step_of_ne {states : List S} {i : ℕ} {s x : S} (hi : states[i]? = some s) (hx : x ∈ states)
    (hne : x ≠ s) {s' : S} {started : List S} : x ∈ states.set i s' ++ started := by
  obtain ⟨j, hj⟩ := List.mem_iff_getElem?.mp hx
  have hij : i ≠ j := by
    rintro rfl
    exact hne (Option.some.inj (hj.symm.trans hi))
  exact List.mem_of_getElem? (getElem?_step_ne hj hij s' started)

/-- How many threads pass a test, after one of them moved on and others started. -/
theorem countP_step {states : List S} {i : ℕ} {s : S} (hi : states[i]? = some s) (s' : S)
    (started : List S) (b : S → Bool) :
    (states.set i s' ++ started).countP b + (if b s then 1 else 0)
      = states.countP b + (if b s' then 1 else 0) + started.countP b := by
  obtain ⟨hlt, rfl⟩ := List.getElem?_eq_some_iff.mp hi
  have hpos : (if b states[i] then 1 else 0) ≤ states.countP b := by
    split
    · rename_i hb
      exact List.countP_pos_iff.mpr ⟨_, List.getElem_mem hlt, hb⟩
    · exact Nat.zero_le _
  rw [List.countP_append, List.countP_set hlt]
  omega

/-- How many threads are in a state, after one of them moved on and others started. -/
theorem count_step [DecidableEq S] {states : List S} {i : ℕ} {s : S} (hi : states[i]? = some s)
    (s' : S) (started : List S) (x : S) :
    (states.set i s' ++ started).count x + (if s = x then 1 else 0)
      = states.count x + (if s' = x then 1 else 0) + started.count x := by
  have hcount := countP_step hi s' started (· == x)
  simp only [beq_iff_eq] at hcount
  exact hcount

/-! ## Threads under a monitor -/

variable {sys : System I}

/-- A thread goes on with a task that is ready in its state of the monitor, or it is done. -/
def Ends (Ready : sys.Task → S → Prop) (Done : S → Prop) (next : Option sys.Task) (s : S) : Prop :=
  next.elim (Done s) fun task => Ready task s

/-- The monitor watches each thread from the state in which its first task starts. A ready task
obeys it and ends in a task that is ready again, or done. The threads it lets start have ready
tasks. -/
structure Follows (sys : System I) (m : Monitor I S) (first : sys.Task → S)
    (Ready : sys.Task → S → Prop) (Done : S → Prop) : Prop where
  code : ∀ task s, Ready task s → (sys.code task).Obeys m s (Ends Ready Done)
  started : ∀ s op, m.Allowed s op → ∀ task ∈ sys.started op, Ready task (first task)

/-- What is left of each thread obeys the monitor from the state of that thread. -/
structure Tracks (m : Monitor I S) (Ready : sys.Task → S → Prop) (Done : S → Prop)
    (threads : List (Prog I (Option sys.Task))) (states : List S) : Prop where
  length : states.length = threads.length
  obeys : ∀ (i : ℕ) (p : Prog I (Option sys.Task)) (s : S), threads[i]? = some p →
    states[i]? = some s → p.Obeys m s (Ends Ready Done)

section Track

variable {m : Monitor I S} {first : sys.Task → S} {Ready : sys.Task → S → Prop} {Done : S → Prop}
  {threads : List (Prog I (Option sys.Task))} {states : List S} {i : ℕ}

theorem Tracks.state (h : Tracks m Ready Done threads states) {p : Prog I (Option sys.Task)}
    (hi : threads[i]? = some p) : ∃ s, states[i]? = some s ∧ p.Obeys m s (Ends Ready Done) := by
  have hlt : i < states.length := h.length ▸ (List.getElem?_eq_some_iff.mp hi).1
  exact ⟨states[i], List.getElem?_eq_getElem hlt, h.obeys i p _ hi (List.getElem?_eq_getElem hlt)⟩

/-- A thread that is about to perform an operation is allowed to, in its state. -/
theorem Tracks.about {c : sys.Config} (h : Tracks m Ready Done c.threads states) {op : I.Op}
    (hop : c.About op) : ∃ s ∈ states, m.Allowed s op := by
  obtain ⟨i, k, hi⟩ := hop
  obtain ⟨s, hs, hallowed, -⟩ := h.state hi
  exact ⟨s, List.mem_of_getElem? hs, hallowed⟩

/-- A thread that has not ended and is at no end of a task is about to perform what it is allowed
to. -/
theorem Tracks.call_of_running {c : sys.Config} (h : Tracks m Ready Done c.threads states) {s : S}
    (hs : states[i]? = some s) (hnot : ∀ next, .pure next ∈ c.threads → ¬ Ends Ready Done next s) :
    ∃ op k, c.threads[i]? = some (.call op k) ∧ m.Allowed s op := by
  obtain ⟨hlt, -⟩ := List.getElem?_eq_some_iff.mp hs
  obtain ⟨code, hthread⟩ : ∃ code, c.threads[i]? = some code :=
    ⟨_, List.getElem?_eq_getElem (h.length ▸ hlt)⟩
  have hobeys := h.obeys i code s hthread hs
  cases code with
  | pure next => exact absurd hobeys (hnot next (List.mem_of_getElem? hthread))
  | call op k => exact ⟨op, k, hthread, hobeys.1⟩

theorem Tracks.of_mem_of_running {c : sys.Config} (h : Tracks m Ready Done c.threads states) {s : S}
    (hs : s ∈ states) (hnot : ∀ next, .pure next ∈ c.threads → ¬ Ends Ready Done next s) :
    ∃ op, c.About op ∧ m.Allowed s op := by
  obtain ⟨i, hi⟩ := List.mem_iff_getElem?.mp hs
  obtain ⟨op, k, hcall, hallowed⟩ := h.call_of_running hi hnot
  exact ⟨op, ⟨i, k, hcall⟩, hallowed⟩

theorem Tracks.of_mem {c : sys.Config} (h : Tracks m Ready Done c.threads states) {s : S} (hs : s ∈ states)
    (hnot : ∀ next, ¬ Ends Ready Done next s) : ∃ op, c.About op ∧ m.Allowed s op :=
  h.of_mem_of_running hs fun next _ => hnot next

/-- A thread that has ended is done. -/
theorem Tracks.done (h : Tracks m Ready Done threads states)
    (hthreads : ∀ p ∈ threads, p = .pure none) : ∀ s ∈ states, Done s := by
  intro s hs
  obtain ⟨i, hlt, rfl⟩ := List.mem_iff_getElem.mp hs
  have hlt' : i < threads.length := h.length ▸ hlt
  have hobeys := h.obeys i threads[i] states[i] (List.getElem?_eq_getElem hlt')
    (List.getElem?_eq_getElem hlt)
  rw [hthreads threads[i] (List.getElem_mem hlt')] at hobeys
  exact hobeys

/-- Tasks that start are tracked from their first states. -/
theorem tracks_start (h : sys.Follows m first Ready Done) {tasks : List sys.Task}
    (htasks : ∀ task ∈ tasks, Ready task (first task)) :
    Tracks m Ready Done (tasks.map sys.code) (tasks.map first) where
  length := by simp
  obeys i p s hp hs := by
    rw [List.getElem?_map] at hp hs
    obtain ⟨task, htask, rfl⟩ := Option.map_eq_some_iff.mp hp
    rw [htask] at hs
    obtain rfl := Option.some.inj hs
    exact h.code task _ (htasks task (List.mem_of_getElem? htask))

theorem Tracks.append {threads' : List (Prog I (Option sys.Task))} {states' : List S}
    (h : Tracks m Ready Done threads states) (h' : Tracks m Ready Done threads' states') :
    Tracks m Ready Done (threads ++ threads') (states ++ states') where
  length := by rw [List.length_append, List.length_append, h.length, h'.length]
  obeys j p s hp hs := by
    by_cases hj : j < threads.length
    · rw [List.getElem?_append_left hj] at hp
      rw [List.getElem?_append_left (h.length ▸ hj)] at hs
      exact h.obeys j p s hp hs
    · rw [List.getElem?_append_right (Nat.le_of_not_lt hj)] at hp
      rw [List.getElem?_append_right (h.length ▸ Nat.le_of_not_lt hj), h.length] at hs
      exact h'.obeys _ p s hp hs

/-- One thread moves on, with its state. -/
theorem Tracks.set (h : Tracks m Ready Done threads states) {p : Prog I (Option sys.Task)} {s : S}
    (hobeys : p.Obeys m s (Ends Ready Done)) :
    Tracks m Ready Done (threads.set i p) (states.set i s) where
  length := by rw [List.length_set, List.length_set, h.length]
  obeys j q s' hq hs' := by
    by_cases hij : i = j
    · subst hij
      have hlt : i < threads.length := by
        simpa using (List.getElem?_eq_some_iff.mp hq).1
      rw [List.getElem?_set_self hlt] at hq
      rw [List.getElem?_set_self (h.length ▸ hlt)] at hs'
      obtain rfl := Option.some.inj hq
      obtain rfl := Option.some.inj hs'
      exact hobeys
    · rw [List.getElem?_set_ne hij] at hq hs'
      exact h.obeys j q s' hq hs'

/-- A thread goes on with its next task, in the same state. -/
theorem Tracks.resume (h : Tracks m Ready Done threads states) (hfollows : sys.Follows m first Ready Done)
    {task : sys.Task} (hi : threads[i]? = some (.pure (some task))) :
    Tracks m Ready Done (threads.set i (sys.code task)) states := by
  obtain ⟨s, hs, hready⟩ := h.state hi
  have hsame : states.set i s = states := by
    obtain ⟨hlt, rfl⟩ := List.getElem?_eq_some_iff.mp hs
    exact List.set_getElem_self hlt
  have hset := h.set (i := i) (hfollows.code task s hready)
  rwa [hsame] at hset

/-- The rule for what holds along a run of the events, the world and the states of all threads: it
holds at the start, and an operation that the monitor allows a thread keeps it. -/
theorem Run.tracked (h : sys.Follows m first Ready Done) {world : sys.World} {tasks : List sys.Task}
    (htasks : ∀ task ∈ tasks, Ready task (first task))
    (Inv : Trace I → sys.World → List S → Prop) (hstart : Inv [] world (tasks.map first))
    (hstep : ∀ trace world states i s op answer world', Inv trace world states →
      states[i]? = some s → m.Allowed s op → sys.Answers world op answer world' →
        Inv (trace ++ [(i, ⟨op, answer⟩)]) world'
          (states.set i (m.next s op answer) ++ (sys.started op).map first))
    {trace : Trace I} {c : sys.Config} (hrun : sys.Run (sys.initial world tasks) trace c) :
    ∃ states, Inv trace c.world states ∧ Tracks m Ready Done c.threads states := by
  induction hrun with
  | start => exact ⟨_, hstart, tracks_start h htasks⟩
  | perform hrun i hi answer hanswer ih =>
    obtain ⟨states, hinv, htracks⟩ := ih
    obtain ⟨s, hs, hallowed, hk⟩ := htracks.state hi
    exact ⟨_, hstep _ _ _ i s _ answer _ hinv hs hallowed hanswer,
      (htracks.set (hk answer)).append (tracks_start h (h.started s _ hallowed))⟩
  | resume hrun i hi ih =>
    obtain ⟨states, hinv, htracks⟩ := ih
    exact ⟨states, hinv, htracks.resume h hi⟩

end Track

/-! ## Events of single threads -/

/-- The valid tasks obey the monitor from every state of `Start`, and if the thread goes on, it does
so in such a state with a valid task. The monitor only allows to start threads with valid tasks. -/
structure Obeys (sys : System I) (m : Monitor I S) (Start : S → Prop) (Valid : sys.Task → Prop) :
    Prop where
  code : ∀ task, Valid task → ∀ s, Start s →
    (sys.code task).Obeys m s fun next s' => ∀ task' ∈ next, Valid task' ∧ Start s'
  started : ∀ s op, m.Allowed s op → ∀ task ∈ sys.started op, Valid task

/-- What the threads have done since their starts was accepted, and their states are those after
what they did. Threads that do not exist yet have done nothing. -/
structure Monitored (m : Monitor I S) (starts : List S) (trace : Trace I)
    (states : List S) : Prop where
  length : states.length = starts.length
  accepts : ∀ i s, starts[i]? = some s → m.Accepts s (eventsOf i trace)
  after : ∀ i s, starts[i]? = some s → states[i]? = some (m.after s (eventsOf i trace))
  fresh : ∀ i, starts.length ≤ i → eventsOf i trace = []

section Accepted

variable {m : Monitor I S} {s : S}

theorem monitored_nil (m : Monitor I S) (starts : List S) : Monitored m starts [] starts :=
  ⟨rfl, fun _ s _ => m.accepts_nil s, fun _ _ h => h, fun _ _ => rfl⟩

theorem Monitored.state {trace : Trace I} {starts states : List S} {i : ℕ} {s' : S}
    (hmon : Monitored m starts trace states) (hi : states[i]? = some s') :
    ∃ s, starts[i]? = some s ∧ s' = m.after s (eventsOf i trace) := by
  have hlt : i < starts.length := hmon.length ▸ (List.getElem?_eq_some_iff.mp hi).1
  have hstart := List.getElem?_eq_getElem hlt
  exact ⟨starts[i], hstart, Option.some.inj (hi.symm.trans (hmon.after i _ hstart))⟩

/-- One thread performs an operation, which starts more threads. -/
theorem Monitored.perform {trace : Trace I} {starts states : List S} {i : ℕ} {s' : S}
    {op : I.Op} (hmon : Monitored m starts trace states) (hi : states[i]? = some s')
    (hallowed : m.Allowed s' op) (answer : I.Answer op) (more : List S) :
    Monitored m (starts ++ more) (trace ++ [(i, ⟨op, answer⟩)])
      (states.set i (m.next s' op answer) ++ more) := by
  obtain ⟨s, hs, rfl⟩ := hmon.state hi
  have hlt : i < states.length := (List.getElem?_eq_some_iff.mp hi).1
  have hold : ∀ j t, (starts ++ more)[j]? = some t →
      j < starts.length ∧ starts[j]? = some t ∨ starts.length ≤ j ∧ eventsOf j trace = [] := by
    intro j t hj
    by_cases hlen : j < starts.length
    · rw [List.getElem?_append_left hlen] at hj
      exact Or.inl ⟨hlen, hj⟩
    · exact Or.inr ⟨Nat.le_of_not_lt hlen, hmon.fresh j (Nat.le_of_not_lt hlen)⟩
  refine ⟨?_, fun j t hj => ?_, fun j t hj => ?_, fun j hj => ?_⟩
  · rw [List.length_append, List.length_append, List.length_set, hmon.length]
  · by_cases hij : i = j
    · subst hij
      rcases hold i t hj with ⟨-, ht⟩ | ⟨hlen, -⟩
      · obtain rfl := Option.some.inj (hs.symm.trans ht)
        rw [eventsOf_concat_self]
        exact m.accepts_concat (hmon.accepts i s hs) hallowed
      · rw [hmon.length] at hlt
        omega
    · rw [eventsOf_concat_ne hij]
      rcases hold j t hj with ⟨-, ht⟩ | ⟨-, hnone⟩
      · exact hmon.accepts j t ht
      · rw [hnone]
        exact m.accepts_nil t
  · rcases hold j t hj with ⟨hlen, ht⟩ | ⟨hlen, hnone⟩
    · rw [List.getElem?_append_left (by simpa [hmon.length] using hlen)]
      by_cases hij : i = j
      · subst hij
        obtain rfl := Option.some.inj (hs.symm.trans ht)
        rw [List.getElem?_set_self hlt, eventsOf_concat_self, m.after_concat]
      · rw [List.getElem?_set_ne hij, eventsOf_concat_ne hij]
        exact hmon.after j t ht
    · -- a thread that this operation starts
      have hij : i ≠ j := by
        rw [hmon.length] at hlt
        omega
      rw [List.getElem?_append_right (by simpa [hmon.length] using hlen), List.length_set,
        hmon.length, eventsOf_concat_ne hij, hnone, ← List.getElem?_append_right hlen]
      exact hj
  · rw [List.length_append] at hj
    rw [hmon.length] at hlt
    rw [eventsOf_concat_ne (by omega)]
    exact hmon.fresh j (by omega)

/-- All threads started in `s`. -/
def MonitoredFrom (m : Monitor I S) (s : S) (trace : Trace I) (states : List S) : Prop :=
  ∃ starts, (∀ s' ∈ starts, s' = s) ∧ Monitored m starts trace states

theorem monitoredFrom_nil {T : Type} (tasks : List T) :
    MonitoredFrom m s [] (tasks.map fun _ => s) := by
  refine ⟨_, fun s' hs' => ?_, monitored_nil m _⟩
  obtain ⟨_, -, rfl⟩ := List.mem_map.mp hs'
  rfl

theorem MonitoredFrom.perform {T : Type} {trace : Trace I} {states : List S} {i : ℕ} {s' : S}
    {op : I.Op} (h : MonitoredFrom m s trace states) (hi : states[i]? = some s')
    (hallowed : m.Allowed s' op) (answer : I.Answer op) (tasks : List T) :
    MonitoredFrom m s (trace ++ [(i, ⟨op, answer⟩)])
      (states.set i (m.next s' op answer) ++ tasks.map fun _ => s) := by
  obtain ⟨starts, hstarts, hmon⟩ := h
  refine ⟨_, fun s'' hs'' => ?_, hmon.perform hi hallowed answer _⟩
  rcases List.mem_append.mp hs'' with hs'' | hs''
  · exact hstarts s'' hs''
  · obtain ⟨_, -, rfl⟩ := List.mem_map.mp hs''
    rfl

theorem MonitoredFrom.accepts {trace : Trace I} {states : List S}
    (h : MonitoredFrom m s trace states) (i : ℕ) : m.Accepts s (eventsOf i trace) := by
  obtain ⟨starts, hstarts, hmon⟩ := h
  by_cases hlt : i < starts.length
  · have hstart := List.getElem?_eq_getElem hlt
    exact hstarts _ (List.getElem_mem hlt) ▸ hmon.accepts i _ hstart
  · rw [hmon.fresh i (Nat.le_of_not_lt hlt)]
    exact m.accepts_nil s

/-- In every run, what a thread does is accepted by a monitor that the system follows. -/
theorem Run.accepts_of_follows {Ready : sys.Task → S → Prop} {Done : S → Prop}
    (h : sys.Follows m (fun _ => s) Ready Done) {world : sys.World} {tasks : List sys.Task}
    (htasks : ∀ task ∈ tasks, Ready task s) {trace : Trace I} {c : sys.Config}
    (hrun : sys.Run (sys.initial world tasks) trace c) (i : ℕ) : m.Accepts s (eventsOf i trace) := by
  obtain ⟨states, hmon, -⟩ := hrun.tracked h htasks
    (fun trace _ states => MonitoredFrom m s trace states) (monitoredFrom_nil tasks)
    fun _ _ _ _ _ _ answer _ hmon hi hallowed _ => hmon.perform hi hallowed answer _
  exact hmon.accepts i

theorem Obeys.follows {Start : S → Prop} {Valid : sys.Task → Prop} (h : sys.Obeys m Start Valid)
    (hs : Start s) :
    sys.Follows m (fun _ => s) (fun task s => Valid task ∧ Start s) (fun _ => True) where
  code task s' hready := by
    refine (h.code task hready.1 s' hready.2).mono fun next s'' hnext => ?_
    cases next with
    | none => exact trivial
    | some task' => exact hnext task' rfl
  started s' op hallowed task htask := ⟨h.started s' op hallowed task htask, hs⟩

/-- In every run, what a thread does is accepted by a monitor that the tasks obey. -/
theorem Run.accepts {Start : S → Prop} {Valid : sys.Task → Prop}
    (h : sys.Obeys m Start Valid) {s : S} (hs : Start s) {world : sys.World} {tasks : List sys.Task}
    (htasks : ∀ task ∈ tasks, Valid task) {trace : Trace I} {c : sys.Config}
    (hrun : sys.Run (sys.initial world tasks) trace c) (i : ℕ) : m.Accepts s (eventsOf i trace) :=
  hrun.accepts_of_follows (h.follows hs) (fun task htask => ⟨htasks task htask, hs⟩) i

end Accepted

/-- The rule for what holds along a run of the events and the world. -/
theorem Run.invariant (Inv : Trace I → sys.World → Prop)
    (hstep : ∀ trace world i op answer world', Inv trace world →
      sys.Answers world op answer world' → Inv (trace ++ [(i, ⟨op, answer⟩)]) world')
    {c c' : sys.Config} (hstart : Inv [] c.world) {trace : Trace I} (hrun : sys.Run c trace c') :
    Inv trace c'.world := by
  induction hrun with
  | start => exact hstart
  | perform hrun i hi answer hanswer ih => exact hstep _ _ i _ answer _ ih hanswer
  | resume hrun i hi ih => exact ih

theorem Run.trans {c c' c'' : sys.Config} {trace trace' : Trace I} (h : sys.Run c trace c')
    (h' : sys.Run c' trace' c'') : sys.Run c (trace ++ trace') c'' := by
  induction h' with
  | start => rwa [List.append_nil]
  | perform _ i hi answer hanswer ih =>
    rw [← List.append_assoc]
    exact ih.perform i hi answer hanswer
  | resume _ i hi ih => exact ih.resume i hi

/-- An operation of a run was performed by a thread that was about to. -/
theorem Run.before {c c' : sys.Config} {before rest : Trace I} {entry : ℕ × Event I}
    (h : sys.Run c (before ++ entry :: rest) c') : ∃ c'' world, sys.Run c before c'' ∧ c''.About
      entry.2.op ∧ sys.Answers c''.world entry.2.op entry.2.answer world := by
  generalize htrace : before ++ entry :: rest = trace at h
  induction h generalizing rest with
  | start => simp at htrace
  | perform hrun i hi answer hanswer ih =>
    rcases List.eq_nil_or_concat rest with rfl | ⟨rest', last, rfl⟩
    · obtain ⟨rfl, hlast⟩ := List.append_inj' htrace rfl
      obtain rfl := List.singleton_inj.mp hlast
      exact ⟨_, _, hrun, ⟨i, _, hi⟩, hanswer⟩
    · rw [List.concat_eq_append, ← List.cons_append, ← List.append_assoc] at htrace
      exact ih (List.append_inj' htrace rfl).1
  | resume _ _ _ ih => exact ih htrace

/-- Every thread is at some point of a task. -/
theorem Run.mem_threads {world : sys.World} {tasks : List sys.Task} {trace : Trace I} {c : sys.Config}
    (hrun : sys.Run (sys.initial world tasks) trace c) {p : Prog I (Option sys.Task)} (hp : p ∈ c.threads) :
    ∃ task events, (sys.code task).Steps events p := by
  induction hrun generalizing p with
  | start =>
    obtain ⟨task, -, rfl⟩ := List.mem_map.mp hp
    exact ⟨task, [], .done _⟩
  | perform hrun i hi answer hanswer ih =>
    rcases List.mem_append.mp hp with hp | hp
    · rcases List.mem_or_eq_of_mem_set hp with hp | rfl
      · exact ih hp
      · obtain ⟨task, events, hsteps⟩ := ih (List.mem_of_getElem? hi)
        exact ⟨task, _, hsteps.concat answer⟩
    · obtain ⟨task, -, rfl⟩ := List.mem_map.mp hp
      exact ⟨task, [], .done _⟩
  | resume hrun i hi ih =>
    rcases List.mem_or_eq_of_mem_set hp with hp | rfl
    · exact ih hp
    · exact ⟨_, [], .done _⟩

/-- What a thread has done is what its first task does, if the thread does not go on with
another. -/
theorem Run.steps {world : sys.World} {tasks : List sys.Task} {trace : Trace I} {c : sys.Config}
    (hrun : sys.Run (sys.initial world tasks) trace c) {i : ℕ} {task : sys.Task}
    (htask : tasks[i]? = some task) (hlast : ∀ events next, ¬ (sys.code task).Yields events (some next)) :
    ∃ p, c.threads[i]? = some p ∧ (sys.code task).Steps (eventsOf i trace) p := by
  induction hrun with
  | start =>
    refine ⟨sys.code task, ?_, .done _⟩
    rw [initial, List.getElem?_map, htask]
    rfl
  | perform hrun j hj answer hanswer ih =>
    obtain ⟨p, hp, hsteps⟩ := ih
    have hlt := (List.getElem?_eq_some_iff.mp hp).1
    rw [List.getElem?_append_left (by simpa using hlt)]
    by_cases hij : j = i
    · subst hij
      obtain rfl := Option.some.inj (hj.symm.trans hp)
      rw [List.getElem?_set_self hlt, eventsOf_concat_self]
      exact ⟨_, rfl, hsteps.concat answer⟩
    · rw [List.getElem?_set_ne hij, eventsOf_concat_ne hij]
      exact ⟨p, hp, hsteps⟩
  | resume hrun j hj ih =>
    obtain ⟨p, hp, hsteps⟩ := ih
    have hij : j ≠ i := by
      rintro rfl
      obtain rfl := Option.some.inj (hj.symm.trans hp)
      exact hlast _ _ hsteps
    rw [List.getElem?_set_ne hij]
    exact ⟨p, hp, hsteps⟩

/-! ## Histories

A monitor may remember everything: the task that a thread began with, and what it has done since.
What a system may do is then a condition on the next operation, given these two. -/

section History

variable {T : Type} {Allowed : T → List (Event I) → I.Op → Prop}

/-- The monitor that remembers the first task of a thread and its events. -/
def history (Allowed : T → List (Event I) → I.Op → Prop) : Monitor I (T × List (Event I)) where
  Allowed s op := Allowed s.1 s.2 op
  next s op answer := (s.1, s.2 ++ [⟨op, answer⟩])

/-- Where a thread comes from: it is one of the first threads, or an operation started it. -/
def Source (sys : System I) (tasks : List sys.Task) (trace : Trace I) (i : ℕ)
    (task : sys.Task) : Prop :=
  tasks[i]? = some task ∨ tasks.length ≤ i ∧ ∃ entry ∈ trace, task ∈ sys.started entry.2.op

theorem Source.append {tasks : List sys.Task} {trace : Trace I} {i : ℕ} {task : sys.Task}
    (h : sys.Source tasks trace i task) (rest : Trace I) :
    sys.Source tasks (trace ++ rest) i task :=
  h.imp_right fun ⟨hlen, entry, hmem, htask⟩ => ⟨hlen, entry, List.mem_append_left rest hmem, htask⟩

/-- What the threads remember is what happened. -/
structure Remembered (sys : System I) (Allowed : sys.Task → List (Event I) → I.Op → Prop)
    (tasks : List sys.Task) (trace : Trace I) (states : List (sys.Task × List (Event I))) :
    Prop where
  length : tasks.length ≤ states.length
  fresh : ∀ i, states.length ≤ i → eventsOf i trace = []
  events : ∀ (i : ℕ) (task : sys.Task) (events : List (Event I)), states[i]? = some (task, events) →
    events = eventsOf i trace ∧ sys.Source tasks trace i task
  allowed : Stepwise (fun before entry => ∃ task, sys.Source tasks before entry.1 task ∧
    Allowed task (eventsOf entry.1 before) entry.2.op) trace

theorem Remembered.step {Allowed : sys.Task → List (Event I) → I.Op → Prop} {tasks : List sys.Task}
    {trace : Trace I} {states : List (sys.Task × List (Event I))} {i : ℕ}
    {s : sys.Task × List (Event I)} {op : I.Op} (h : sys.Remembered Allowed tasks trace states)
    (hi : states[i]? = some s) (hallowed : (history Allowed).Allowed s op) (answer : I.Answer op) :
    sys.Remembered Allowed tasks (trace ++ [(i, ⟨op, answer⟩)])
      (states.set i ((history Allowed).next s op answer) ++ (sys.started op).map fun task => (task, [])) := by
  obtain ⟨task, events⟩ := s
  obtain ⟨rfl, hsource⟩ := h.events i task events hi
  have hlt : i < states.length := (List.getElem?_eq_some_iff.mp hi).1
  refine ⟨?_, fun j hj => ?_, fun j task' events' hj => ?_, h.allowed.concat ⟨task, hsource, hallowed⟩⟩
  · rw [List.length_append, List.length_set]
    exact Nat.le_add_right_of_le h.length
  · rw [List.length_append, List.length_set] at hj
    rw [eventsOf_concat_ne (by omega)]
    exact h.fresh j (by omega)
  · rcases getElem?_step hi hj with ⟨rfl, heq⟩ | ⟨hne, hj⟩ | ⟨hlen, hj⟩
    · obtain ⟨rfl, rfl⟩ := Prod.mk.inj heq
      exact ⟨(eventsOf_concat_self _ _ _).symm, hsource.append _⟩
    · obtain ⟨rfl, hsource'⟩ := h.events j task' events' hj
      exact ⟨(eventsOf_concat_ne (Ne.symm hne) _ _).symm, hsource'.append _⟩
    · -- a thread that this operation starts
      rw [List.getElem?_map] at hj
      obtain ⟨started, hstarted, heq⟩ := Option.map_eq_some_iff.mp hj
      obtain ⟨rfl, rfl⟩ := Prod.mk.inj heq
      rw [eventsOf_concat_ne (by omega), h.fresh j hlen]
      refine ⟨rfl, Or.inr ⟨Nat.le_trans h.length hlen, (i, ⟨op, answer⟩), by simp, ?_⟩⟩
      exact List.mem_of_getElem? hstarted

/-- If the tasks follow a condition on histories, every operation in a run meets it, given where its
thread comes from and what the thread has done. -/
theorem Run.remembered {Allowed : sys.Task → List (Event I) → I.Op → Prop}
    {Ready : sys.Task → sys.Task × List (Event I) → Prop} {Done : sys.Task × List (Event I) → Prop}
    (h : sys.Follows (history Allowed) (fun task => (task, [])) Ready Done) {world : sys.World}
    {tasks : List sys.Task} (htasks : ∀ task ∈ tasks, Ready task (task, []))
    {trace : Trace I} {c : sys.Config} (hrun : sys.Run (sys.initial world tasks) trace c) :
    Stepwise (fun before entry => ∃ task, sys.Source tasks before entry.1 task ∧
      Allowed task (eventsOf entry.1 before) entry.2.op) trace := by
  have hstart : sys.Remembered Allowed tasks [] (tasks.map fun task => (task, [])) := by
    refine ⟨by simp, fun _ _ => rfl, fun i task events hi => ?_, stepwise_nil⟩
    rw [List.getElem?_map] at hi
    obtain ⟨task', htask, heq⟩ := Option.map_eq_some_iff.mp hi
    obtain ⟨rfl, rfl⟩ := Prod.mk.inj heq
    exact ⟨rfl, Or.inl htask⟩
  obtain ⟨states, hremembered, -⟩ := hrun.tracked h htasks
    (fun trace _ states => sys.Remembered Allowed tasks trace states) hstart
    fun _ _ _ _ _ _ answer _ hremembered hi hallowed _ => hremembered.step hi hallowed answer
  exact hremembered.allowed

end History

end System

end KubeSsh

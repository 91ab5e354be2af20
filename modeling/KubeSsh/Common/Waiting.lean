import KubeSsh.Common.Ledger

/-!
# Threads that wait for each other

`RunWhen` restricts the runs of a system by a condition on each step. It may speak about what
happened before and about what the threads have left to do, so it can say that an operation waits
for the end of other threads. `offspring` tells which thread started which.

A thread that has to wait for others holds a licence to start them, which it gives up only by an
operation that waits for their end (`Waiting`). So if it ends without the licence, they have ended
before it: `RunWhen.settled` says who is left when the first thread of a system ends.
-/

namespace KubeSsh

variable {I : Interface} {S T : Type}

namespace System

variable {sys : System I}

/-! ## Conditional runs -/

/-- Whether a step can be taken: what happened before it, what the threads have left to do, the
thread that takes it and the event. -/
abbrev Condition (sys : System I) : Type :=
  Trace I → List (Prog I (Option sys.Task)) → ℕ → Event I → Prop

/-- The runs from `c` in which every operation meets the condition. -/
inductive RunWhen (sys : System I) (When : sys.Condition) (c : sys.Config) :
    Trace I → sys.Config → Prop
  | start : sys.RunWhen When c [] c
  | perform {trace : Trace I} {c' : sys.Config} (hrun : sys.RunWhen When c trace c') (i : ℕ)
      {op : I.Op} {k : I.Answer op → Prog I (Option sys.Task)}
      (hi : c'.threads[i]? = some (.call op k)) (answer : I.Answer op) {world : sys.World}
      (hanswer : sys.Answers c'.world op answer world) (hwhen : When trace c'.threads i ⟨op, answer⟩) :
      sys.RunWhen When c (trace ++ [(i, ⟨op, answer⟩)])
        ⟨world, c'.threads.set i (k answer) ++ (sys.started op).map sys.code⟩
  | resume {trace : Trace I} {c' : sys.Config} (hrun : sys.RunWhen When c trace c') (i : ℕ)
      {task : sys.Task} (hi : c'.threads[i]? = some (.pure (some task))) :
      sys.RunWhen When c trace ⟨c'.world, c'.threads.set i (sys.code task)⟩

variable {When : sys.Condition} {c c' : sys.Config} {trace : Trace I}

theorem RunWhen.run (h : sys.RunWhen When c trace c') : sys.Run c trace c' := by
  induction h with
  | start => exact .start
  | perform _ i hi answer hanswer _ ih => exact ih.perform i hi answer hanswer
  | resume _ i hi ih => exact ih.resume i hi

theorem RunWhen.stepwise {P : Trace I → ℕ × Event I → Prop}
    (hP : ∀ before threads i event, When before threads i event → P before (i, event))
    (h : sys.RunWhen When c trace c') : Stepwise P trace := by
  induction h with
  | start => exact stepwise_nil
  | perform _ i _ _ _ hwhen ih => exact ih.concat (hP _ _ i _ hwhen)
  | resume _ _ _ ih => exact ih

/-- A run has been through what it did first. -/
theorem RunWhen.of_append {before rest : Trace I}
    (h : sys.RunWhen When c (before ++ rest) c') : ∃ c'', sys.RunWhen When c before c'' := by
  generalize htrace : before ++ rest = trace at h
  induction h generalizing rest with
  | start =>
    obtain ⟨rfl, -⟩ := List.append_eq_nil_iff.mp htrace
    exact ⟨c, .start⟩
  | perform hrun i hi answer hanswer hwhen ih =>
    rcases List.eq_nil_or_concat rest with rfl | ⟨rest', last, rfl⟩
    · rw [List.append_nil] at htrace
      rw [htrace]
      exact ⟨_, hrun.perform i hi answer hanswer hwhen⟩
    · rw [List.concat_eq_append, ← List.append_assoc] at htrace
      exact ih (List.append_inj' htrace rfl).1
  | resume _ _ _ ih => exact ih htrace

/-! ## Threads that have ended -/

/-- The thread has nothing left to do. -/
def Config.Ended (c : sys.Config) (j : ℕ) : Prop := c.threads[j]? = some (.pure none)

/-- A thread that has ended is not the one that moves. -/
theorem Config.Ended.set {world : sys.World} {threads : List (Prog I (Option sys.Task))} {i j : ℕ}
    {p q : Prog I (Option sys.Task)} (h : (⟨world, threads⟩ : sys.Config).Ended j)
    (hi : threads[i]? = some p) (hp : p ≠ .pure none) (world' : sys.World)
    (started : List (Prog I (Option sys.Task))) :
    (⟨world', threads.set i q ++ started⟩ : sys.Config).Ended j := by
  have hj : threads[j]? = some (.pure none) := h
  have hij : i ≠ j := by
    rintro rfl
    exact hp (Option.some.inj (hi.symm.trans hj))
  have hlt : j < threads.length := (List.getElem?_eq_some_iff.mp hj).1
  unfold Config.Ended
  rw [List.getElem?_append_left (by simpa using hlt), List.getElem?_set_ne hij]
  exact hj

theorem Config.Ended.resume {j i : ℕ} {task : sys.Task} (h : c.Ended j)
    (hi : c.threads[i]? = some (.pure (some task))) :
    (⟨c.world, c.threads.set i (sys.code task)⟩ : sys.Config).Ended j := by
  have hset : (⟨c.world, c.threads.set i (sys.code task) ++ []⟩ : sys.Config).Ended j :=
    h.set hi (fun heq => by cases heq) c.world []
  rwa [List.append_nil] at hset

/-- If all threads have ended, nothing happens any more. -/
theorem Run.eq_nil_of_ended (hended : ∀ thread ∈ c.threads, thread = .pure none)
    (h : sys.Run c trace c') : trace = [] ∧ c'.threads = c.threads := by
  induction h with
  | start => exact ⟨rfl, rfl⟩
  | perform _ i hi _ _ ih =>
    rw [ih.2] at hi
    cases hended _ (List.mem_of_getElem? hi)
  | resume _ i hi ih =>
    rw [ih.2] at hi
    cases hended _ (List.mem_of_getElem? hi)

/-! ## Which thread started which -/

/-- The threads after the first one, in their order, each with the thread that started it. The first
thread started those that the system begins with. -/
def offspring (sys : System I) (tasks : List sys.Task) (trace : Trace I) :
    List (ℕ × sys.Task) :=
  tasks.map (fun task => (0, task)) ++
    trace.flatMap fun entry => (sys.started entry.2.op).map fun task => (entry.1, task)

theorem offspring_concat (tasks : List sys.Task) (trace : Trace I) (i : ℕ) (event : Event I) :
    sys.offspring tasks (trace ++ [(i, event)])
      = sys.offspring tasks trace ++ (sys.started event.op).map fun task => (i, task) := by
  simp [offspring]

/-- A thread was started before, or it is started now. -/
theorem offspring_cases {tasks : List sys.Task} {j i i' : ℕ} {event : Event I} {task : sys.Task}
    (h : (sys.offspring tasks (trace ++ [(i, event)]))[j]? = some (i', task)) :
    (sys.offspring tasks trace)[j]? = some (i', task) ∨
      (sys.offspring tasks trace).length ≤ j ∧ i' = i ∧
        (sys.started event.op)[j - (sys.offspring tasks trace).length]? = some task := by
  rw [offspring_concat] at h
  by_cases hj : j < (sys.offspring tasks trace).length
  · rw [List.getElem?_append_left hj] at h
    exact Or.inl h
  · rw [List.getElem?_append_right (Nat.le_of_not_lt hj), List.getElem?_map] at h
    obtain ⟨task', htask, heq⟩ := Option.map_eq_some_iff.mp h
    obtain ⟨rfl, rfl⟩ := Prod.mk.inj heq
    exact Or.inr ⟨Nat.le_of_not_lt hj, rfl, htask⟩

/-! ## Invariants of conditional runs -/

section Tracked

variable {m : Monitor I S} {first : sys.Task → S} {Ready : sys.Task → S → Prop} {Done : S → Prop}

/-- The rule for what holds along a conditional run of the events, the configuration and the states
of all threads, like `Run.tracked`. -/
theorem RunWhen.tracked (h : sys.Follows m first Ready Done) {world : sys.World}
    {tasks : List sys.Task} (htasks : ∀ task ∈ tasks, Ready task (first task))
    (Inv : Trace I → sys.Config → List S → Prop)
    (hstart : Inv [] (sys.initial world tasks) (tasks.map first))
    (hperform : ∀ trace c states i s op k answer world', Inv trace c states →
      c.threads[i]? = some (.call op k) → states[i]? = some s → m.Allowed s op →
      When trace c.threads i ⟨op, answer⟩ →
        Inv (trace ++ [(i, ⟨op, answer⟩)])
          ⟨world', c.threads.set i (k answer) ++ (sys.started op).map sys.code⟩
          (states.set i (m.next s op answer) ++ (sys.started op).map first))
    (hresume : ∀ trace c states i task, Inv trace c states →
      c.threads[i]? = some (.pure (some task)) →
        Inv trace ⟨c.world, c.threads.set i (sys.code task)⟩ states)
    (hrun : sys.RunWhen When (sys.initial world tasks) trace c) :
    ∃ states, Inv trace c states ∧ Tracks m Ready Done c.threads states := by
  induction hrun with
  | start => exact ⟨_, hstart, tracks_start h htasks⟩
  | perform hrun i hi answer hanswer hwhen ih =>
    obtain ⟨states, hinv, htracks⟩ := ih
    obtain ⟨s, hs, hallowed, hk⟩ := htracks.state hi
    exact ⟨_, hperform _ _ _ i s _ _ answer _ hinv hi hs hallowed hwhen,
      (htracks.set (hk answer)).append (tracks_start h (h.started s _ hallowed))⟩
  | resume hrun i hi ih =>
    obtain ⟨states, hinv, htracks⟩ := ih
    exact ⟨states, hresume _ _ _ i _ hinv hi, htracks.resume h hi⟩

end Tracked

/-! ## Licences -/

section Licences

variable [DecidableEq T] {L : Ledger I T} {tokens leaves : sys.Task → Multiset T}
  {licence : sys.Task → Option T} {tasks : List sys.Task}

/-- A thread that starts another gets the licence for it, and an operation that takes the licence
away waits for the end of all threads that were started with it. A thread without tokens gets none,
and starts only such threads. -/
structure Waiting (sys : System I) (L : Ledger I T) (When : sys.Condition) (tasks : List sys.Task)
    (tokens leaves : sys.Task → Multiset T) (licence : sys.Task → Option T) : Prop where
  started : ∀ op answer task t, task ∈ sys.started op → licence task = some t → t ∈ L.gives op answer
  waits : ∀ trace threads i op answer, When trace threads i ⟨op, answer⟩ →
    ∀ j task t, (sys.offspring tasks trace)[j]? = some (i, task) → licence task = some t →
      t ∈ L.takes op → t ∉ L.gives op answer → threads[j + 1]? = some (.pure none)
  ended : ∀ task task' t, licence task = some t → t ∉ leaves task'
  free : ∀ op, L.takes op = 0 →
    (∀ answer, L.gives op answer = 0) ∧ ∀ task ∈ sys.started op, tokens task = 0

/-- A thread has ended, or the thread that started it holds the licence for it. Threads that start
without tokens have none. -/
structure Waited (tasks : List sys.Task) (tokens : sys.Task → Multiset T) (licence : sys.Task →
    Option T) (trace : Trace I) (c : sys.Config) (states : List (Multiset T)) : Prop where
  length : states.length = (sys.offspring tasks trace).length + 1
  earlier : ∀ (j i : ℕ) task, (sys.offspring tasks trace)[j]? = some (i, task) → i ≤ j
  licensed : ∀ j i task t, (sys.offspring tasks trace)[j]? = some (i, task) → licence task = some t
    → c.Ended (j + 1) ∨ ∃ held, states[i]? = some held ∧ t ∈ held
  idle : ∀ j i task, (sys.offspring tasks trace)[j]? = some (i, task) → tokens task = 0 →
    states[j + 1]? = some 0

omit [DecidableEq T] in
theorem waited_start {root : sys.Task} (world : sys.World)
    (htasks : ∀ task ∈ tasks, ∀ t, licence task = some t → t ∈ tokens root) :
    Waited tasks tokens licence [] (sys.initial world (root :: tasks)) ((root :: tasks).map tokens) := by
  have hoffspring : sys.offspring tasks [] = tasks.map fun task => (0, task) := by simp [offspring]
  have hmem {j i : ℕ} {task : sys.Task} (h : (sys.offspring tasks [])[j]? = some (i, task)) :
      i = 0 ∧ tasks[j]? = some task := by
    rw [hoffspring, List.getElem?_map] at h
    obtain ⟨task', htask, heq⟩ := Option.map_eq_some_iff.mp h
    obtain ⟨rfl, rfl⟩ := Prod.mk.inj heq
    exact ⟨rfl, htask⟩
  refine ⟨by simp [hoffspring], fun j i task h => ?_, fun j i task t h ht => ?_, fun j i task h hidle => ?_⟩
  · rw [(hmem h).1]
    exact Nat.zero_le j
  · obtain ⟨rfl, htask⟩ := hmem h
    exact Or.inr ⟨tokens root, rfl, htasks task (List.mem_of_getElem? htask) t ht⟩
  · rw [List.map_cons, List.getElem?_cons_succ, List.getElem?_map, (hmem h).2, Option.map_some, hidle]

section Step

variable {states : List (Multiset T)} {i : ℕ} {held : Multiset T} {op : I.Op}

/-- What a thread keeps when it performs an operation. -/
theorem mem_next {answer : I.Answer op} {t : T} (h : t ∈ held)
    (hop : t ∈ L.takes op → t ∈ L.gives op answer) : t ∈ L.monitor.next held op answer := by
  change t ∈ held - L.takes op + L.gives op answer
  rw [Multiset.mem_add]
  by_cases htakes : t ∈ L.takes op
  · exact Or.inr (hop htakes)
  · refine Or.inl (Multiset.count_pos.mp ?_)
    rw [Multiset.count_sub, Multiset.count_eq_zero.mpr htakes, Nat.sub_zero]
    exact Multiset.count_pos.mpr h

/-- A thread without tokens can only do what takes none. -/
theorem next_zero (hwaiting : sys.Waiting L When tasks tokens leaves licence)
    (hallowed : L.monitor.Allowed 0 op) (answer : I.Answer op) :
    L.takes op = 0 ∧ L.monitor.next 0 op answer = 0 := by
  have htakes : L.takes op = 0 := Multiset.le_zero.mp hallowed
  refine ⟨htakes, ?_⟩
  change 0 - L.takes op + L.gives op answer = 0
  rw [htakes, (hwaiting.free op htakes).1 answer]
  rfl

theorem Waited.perform {c : sys.Config} (h : Waited tasks tokens licence trace c states)
    (hwaiting : sys.Waiting L When tasks tokens leaves licence) {k : I.Answer op → Prog I (Option sys.Task)}
    {answer : I.Answer op} (hi : c.threads[i]? = some (.call op k)) (hs : states[i]? = some held)
    (hallowed : L.monitor.Allowed held op) (hwhen : When trace c.threads i ⟨op, answer⟩)
    (world : sys.World) :
    Waited tasks tokens licence (trace ++ [(i, ⟨op, answer⟩)])
      ⟨world, c.threads.set i (k answer) ++ (sys.started op).map sys.code⟩
      (states.set i (L.monitor.next held op answer) ++ (sys.started op).map tokens) := by
  have hlt : i < states.length := (List.getElem?_eq_some_iff.mp hs).1
  have hlength := h.length
  have hended {j : ℕ} (hj : c.Ended j) : (⟨world, c.threads.set i (k answer) ++ (sys.started op).map sys.code⟩ : sys.Config).Ended j :=
    Config.Ended.set hj hi (fun heq => by cases heq) world _
  have hself : (states.set i (L.monitor.next held op answer) ++ (sys.started op).map tokens)[i]?
      = some (L.monitor.next held op answer) := by
    rw [List.getElem?_append_left (by simpa using hlt), List.getElem?_set_self hlt]
  have hother {j : ℕ} {held' : Multiset T} (hj : states[j]? = some held') (hij : i ≠ j) :
      (states.set i (L.monitor.next held op answer) ++ (sys.started op).map tokens)[j]? = some held' := by
    have hlt' : j < states.length := (List.getElem?_eq_some_iff.mp hj).1
    rw [List.getElem?_append_left (by simpa using hlt'), List.getElem?_set_ne hij]
    exact hj
  refine ⟨?_, fun j i' task hj => ?_, fun j i' task t hj ht => ?_, fun j i' task hj hidle => ?_⟩
  · rw [offspring_concat, List.length_append, List.length_append, List.length_set, List.length_map,
      List.length_map, hlength, Nat.add_right_comm]
  · rcases offspring_cases hj with hj | ⟨hj, rfl, -⟩
    · exact h.earlier j i' task hj
    · omega
  · rcases offspring_cases hj with hj | ⟨-, rfl, htask⟩
    · rcases h.licensed j i' task t hj ht with hj' | ⟨held', hheld', hmem⟩
      · exact Or.inl (hended hj')
      by_cases hij : i = i'
      · subst hij
        obtain rfl := Option.some.inj (hs.symm.trans hheld')
        by_cases hlost : t ∈ L.takes op ∧ t ∉ L.gives op answer
        · exact Or.inl (hended (hwaiting.waits _ _ _ _ _ hwhen j task t hj ht hlost.1 hlost.2))
        · exact Or.inr ⟨_, hself, mem_next hmem fun htakes => by_contra fun hgives =>
            hlost ⟨htakes, hgives⟩⟩
      · exact Or.inr ⟨held', hother hheld' hij, hmem⟩
    · refine Or.inr ⟨_, hself, ?_⟩
      have hgives := hwaiting.started op answer task t (List.mem_of_getElem? htask) ht
      exact Multiset.mem_add.mpr (Or.inr hgives)
  · rcases offspring_cases hj with hj | ⟨hj, rfl, htask⟩
    · have hzero := h.idle j i' task hj hidle
      by_cases hij : i = j + 1
      · subst hij
        obtain rfl := Option.some.inj (hs.symm.trans hzero)
        rw [hself, (next_zero hwaiting hallowed answer).2]
      · exact hother hzero hij
    · have hindex : j + 1 - states.length = j - (sys.offspring tasks trace).length := by omega
      rw [List.getElem?_append_right (by rw [List.length_set]; omega), List.length_set, hindex,
        List.getElem?_map, htask, Option.map_some, hidle]

omit [DecidableEq T] in
theorem Waited.resume {c : sys.Config} (h : Waited tasks tokens licence trace c states)
    {task : sys.Task} (hi : c.threads[i]? = some (.pure (some task))) :
    Waited tasks tokens licence trace ⟨c.world, c.threads.set i (sys.code task)⟩ states where
  length := h.length
  earlier := h.earlier
  licensed j i' task' t hj ht := by
    exact (h.licensed j i' task' t hj ht).imp_left fun hended => hended.resume hi
  idle := h.idle

end Step

/-- In every run of a system whose threads wait for each other, with what else holds of the
tokens. -/
theorem RunWhen.waited (hbalanced : sys.Balanced L tokens leaves)
    (hwaiting : sys.Waiting L When tasks tokens leaves licence) {root : sys.Task} {world : sys.World}
    (htasks : ∀ task ∈ tasks, ∀ t, licence task = some t → t ∈ tokens root)
    (Inv : Trace I → List (Multiset T) → Prop) (hstart : Inv [] ((root :: tasks).map tokens))
    (hstep : ∀ trace states i held op answer, Inv trace states → states[i]? = some held →
      L.monitor.Allowed held op →
        Inv (trace ++ [(i, ⟨op, answer⟩)])
          (states.set i (L.monitor.next held op answer) ++ (sys.started op).map tokens))
    (hrun : sys.RunWhen When (sys.initial world (root :: tasks)) trace c) :
    ∃ states, (Inv trace states ∧ Waited tasks tokens licence trace c states) ∧
      Tracks L.monitor (fun task held => held = tokens task)
        (fun held => ∃ task, held = leaves task) c.threads states :=
  hrun.tracked hbalanced.follows (fun _ _ => rfl)
    (fun trace c states => Inv trace states ∧ Waited tasks tokens licence trace c states)
    ⟨hstart, waited_start world htasks⟩
    (fun trace _ states i held op _ answer world' hinv hi hs hallowed hwhen =>
      ⟨hstep trace states i held op answer hinv.1 hs hallowed,
        hinv.2.perform hwaiting hi hs hallowed hwhen world'⟩)
    fun _ _ _ _ _ hinv hi => ⟨hinv.1, hinv.2.resume hi⟩

variable {states : List (Multiset T)}

/-- A thread that has ended holds what its last task leaves. -/
theorem Tracks.eq_leaves {threads : List (Prog I (Option sys.Task))}
    (h : Tracks L.monitor (fun task held => held = tokens task) (fun held => ∃ task, held = leaves task)
      threads states) {j : ℕ} {held : Multiset T} (hj : threads[j]? = some (.pure none))
    (hheld : states[j]? = some held) : ∃ task, held = leaves task :=
  h.obeys j _ held hj hheld

/-- When the first thread has ended, and those threads that nobody waits for and that hold tokens,
each thread has ended or holds nothing. -/
theorem Waited.settled (h : Waited tasks tokens licence trace c states)
    (hwaiting : sys.Waiting L When tasks tokens leaves licence)
    (htracks : Tracks L.monitor (fun task held => held = tokens task)
      (fun held => ∃ task, held = leaves task) c.threads states)
    (hroot : c.Ended 0)
    (hothers : ∀ j i task, (sys.offspring tasks trace)[j]? = some (i, task) → licence task = none →
      tokens task = 0 ∨ c.Ended (j + 1)) :
    ∀ j held, states[j]? = some held → c.Ended j ∨ held = 0 := by
  intro j
  -- a thread was started by an earlier one
  induction j using Nat.strong_induction_on with
  | _ j ih =>
    intro held hheld
    cases j with
    | zero => exact Or.inl hroot
    | succ j =>
      have hlt : j < (sys.offspring tasks trace).length := by
        have hj := (List.getElem?_eq_some_iff.mp hheld).1
        rw [h.length] at hj
        omega
      obtain ⟨⟨i, task⟩, hbirth⟩ : ∃ birth, (sys.offspring tasks trace)[j]? = some birth :=
        ⟨_, List.getElem?_eq_getElem hlt⟩
      cases hlicence : licence task with
      | none =>
        refine (hothers j i task hbirth hlicence).symm.imp_right fun hidle => ?_
        exact Option.some.inj (hheld.symm.trans (h.idle j i task hbirth hidle))
      | some t =>
        refine (h.licensed j i task t hbirth hlicence).imp_right ?_
        rintro ⟨held', hheld', hmem⟩
        exfalso
        rcases ih i (Nat.lt_succ_of_le (h.earlier j i task hbirth)) held' hheld' with hended | rfl
        · obtain ⟨task', rfl⟩ := htracks.eq_leaves hended hheld'
          exact hwaiting.ended task task' t hlicence hmem
        · cases hmem

/-- From then on, nothing is done that takes a token. -/
theorem Run.free_of_settled (hbalanced : sys.Balanced L tokens leaves)
    (hwaiting : sys.Waiting L When tasks tokens leaves licence)
    (htracks : Tracks L.monitor (fun task held => held = tokens task)
      (fun held => ∃ task, held = leaves task) c.threads states)
    (hsettled : ∀ j held, states[j]? = some held → c.Ended j ∨ held = 0)
    (hrun : sys.Run c trace c') : ∀ entry ∈ trace, L.takes entry.2.op = 0 := by
  suffices hinv : (∀ entry ∈ trace, L.takes entry.2.op = 0) ∧ ∃ states,
      Tracks L.monitor (fun task held => held = tokens task) (fun held => ∃ task, held = leaves task)
        c'.threads states ∧ ∀ j held, states[j]? = some held → c'.Ended j ∨ held = 0 from hinv.1
  induction hrun with
  | start => exact ⟨fun _ h => (by cases h), states, htracks, hsettled⟩
  | perform hrun i hi answer hanswer ih =>
    obtain ⟨hfree, states, htracks, hsettled⟩ := ih
    obtain ⟨held, hheld, hallowed, hk⟩ := htracks.state hi
    have hzero : held = 0 := (hsettled i held hheld).resolve_left fun hended => by
      cases hi.symm.trans hended
    subst hzero
    obtain ⟨htakes, hnext⟩ := next_zero hwaiting hallowed answer
    refine ⟨?_, _, (htracks.set (hk answer)).append (tracks_start hbalanced.follows fun _ _ => rfl), ?_⟩
    · rw [List.forall_mem_append, List.forall_mem_singleton]
      exact ⟨hfree, htakes⟩
    · intro j held hj
      rcases getElem?_step hheld hj with ⟨-, rfl⟩ | ⟨-, hj⟩ | ⟨-, hj⟩
      · exact Or.inr hnext
      · exact (hsettled j held hj).imp_left fun hended =>
          Config.Ended.set hended hi (fun heq => by cases heq) _ _
      · rw [List.getElem?_map] at hj
        obtain ⟨task, htask, rfl⟩ := Option.map_eq_some_iff.mp hj
        exact Or.inr ((hwaiting.free _ htakes).2 task (List.mem_of_getElem? htask))
  | resume hrun i hi ih =>
    obtain ⟨hfree, states, htracks, hsettled⟩ := ih
    refine ⟨hfree, states, htracks.resume hbalanced.follows hi, fun j held hj => ?_⟩
    exact (hsettled j held hj).imp_left fun hended => hended.resume hi

end Licences

end System

end KubeSsh

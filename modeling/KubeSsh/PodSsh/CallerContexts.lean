import KubeSsh.PodSsh.SingleFlight

/-!
# `pkg/podssh/backend/apiserver`: callers that share a preparation, and their contexts

The owner of a state prepares it with its own context, and those who joined get its result. If that
context ends, they get an error although their own contexts are alive (`acquire_fails_for_other`);
the node service prepares helpers with a context of its own (`node/helper_manager.go:78`).
`callers_isolated` is about the runs in which no `Acquire` shares a preparation that works with a
context that has ended.
-/

namespace KubeSsh.CopyHelper

open Backend PodTarget Prog
open ApiServer (HelperResult Transport validateHelperManifest helperTransport appTarget appKey)

/-- A context has ended. -/
def Ended (trace : Trace) (ctx : ℕ) : Prop := ∃ i err, (i, ⟨.cancel ctx err, ()⟩) ∈ trace

/-- An operation of the preparation of a state was performed with a context that had ended, and has
a property. -/
def Interrupted (trace : Trace) (state : ℕ) (P : Event ApiServer.interface → Prop) : Prop :=
  ∃ before i ctx op answer rest key, trace = before ++ (i, ⟨.transport ctx op, answer⟩) :: rest ∧
    Began before i key state ∧ Ended before ctx ∧ P ⟨op, answer⟩

/-- A step does not share a preparation that works with a context that has ended: an operation is
performed with such a context if nobody else has joined, and nobody joins after such an
operation. -/
def Undisturbed (before : Trace) (entry : ℕ × Event interface) : Prop :=
  match entry with
  | (i, ⟨.transport ctx _, _⟩) =>
    Ended before ctx → ∀ key state, Began before i key state → ∀ j key', ¬ Joined before j key' state
  | (_, ⟨.helperState _, (state, false)⟩) => ¬ Interrupted before state fun _ => True
  | _ => True

/-- The capability is asked for by one of the calls. -/
def Wanted (calls : List Call) (capability : GoString) : Prop :=
  ∃ a, .acquire a ∈ calls ∧ a.capability = capability

/-- What is attempted with a context that has not ended succeeds. -/
def SucceedsAlive (t : Transport) (calls : List Call) (before : Trace) (entry : ℕ × Event interface) : Prop :=
  match entry with
  | (_, ⟨.transport ctx op, answer⟩) => ¬ Ended before ctx → Succeeds t (Wanted calls) ⟨op, answer⟩
  | _ => True

/-- A helper is configured, the targets can be addressed, and whatever is attempted with a context
that has not ended succeeds. -/
structure Healthy (t : Transport) (calls : List Call) (trace : Trace) : Prop where
  path : t.helperPath ≠ []
  targets : ∀ a, .acquire a ∈ calls → ∃ reference, parse a.tgt = .ok reference
  attempts : System.Stepwise (SucceedsAlive t calls) trace

/-- What holds of an `Acquire` whose own context has not ended. -/
structure Isolated (t : Transport) (calls : List Call) (trace : Trace) (c : (system t).Config) : Prop where
  /-- When it returns an error, nothing failed in the preparation of its state with a context that
  had ended. -/
  errors : ∀ (i : ℕ) a err, calls[i]? = some (.acquire a) → ¬ Ended trace a.ctx →
    (i, ⟨.returned (.error err), ()⟩) ∈ trace → ∀ state,
    Began trace i (a.key t) state ∨ Joined trace i (a.key t) state →
      ¬ Interrupted trace state fun event => ¬ Succeeds t (Wanted calls) event
  /-- If whatever is attempted with a live context succeeds, it returns a lease, and it returns. -/
  leases : Healthy t calls trace → ∀ (i : ℕ) a result, calls[i]? = some (.acquire a) → ¬ Ended trace
    a.ctx → (i, ⟨.returned result, ()⟩) ∈ trace → ∃ path, result = .ok path
  bounded : ∀ a, ((Call.acquire a).run t).AtMost 15
  ends : Stuck c → ∀ (i : ℕ) a, calls[i]? = some (.acquire a) → ∃ result, (i, ⟨.returned result, ()⟩) ∈ trace

/-! ## Preparations that are not interrupted -/

section Prepared

variable {t : Transport} {calls : List Call} {trace : Trace} {world world' : World} {doings : List Doing}
  {event : Event interface} {d d' : Doing} {i j : ℕ} {state : ℕ} {P : Event ApiServer.interface → Prop}

theorem Ended.append {ctx : ℕ} (h : Ended trace ctx) (rest : Trace) : Ended (trace ++ rest) ctx :=
  h.imp fun _ => Exists.imp fun _ hmem => List.mem_append_left _ hmem

theorem Interrupted.append (h : Interrupted trace state P) (rest : Trace) :
    Interrupted (trace ++ rest) state P := by
  obtain ⟨before, i, ctx, op, answer, rest', key, rfl, hbegan, hended, hP⟩ := h
  exact ⟨before, i, ctx, op, answer, rest' ++ rest, key, by simp, hbegan, hended, hP⟩

theorem Healthy.of_concat {entry : ℕ × Event interface} (h : Healthy t calls (trace ++ [entry])) :
    Healthy t calls trace := ⟨h.path, h.targets, h.attempts.of_append⟩

/-- What the owners of states have come to, along every run. -/
structure Prepared (t : Transport) (calls : List Call) (trace : Trace) (world : World)
    (doings : List Doing) : Prop where
  good : Healthy t calls trace → ∀ (i : ℕ) a state good, doings[i]? = some
    (.acquire a (.owning state good)) → ¬ Interrupted trace state (fun _ => True) → good
  results : Healthy t calls trace → ∀ i state result, (i, ⟨.setResult state result, ()⟩) ∈ trace →
    ¬ Interrupted trace state (fun _ => True) →
      ∃ path manifest, result = .ok (path, manifest) ∧ Usable t (Wanted calls) manifest
  contexts : ∀ ctx err, world.contexts ctx = some err → Ended trace ctx
  attempts : ∀ i ctx op answer, (i, ⟨.transport ctx op, answer⟩) ∈ trace →
    ∃ a, calls[i]? = some (.acquire a) ∧ a.ctx = ctx

theorem prepared_start (t : Transport) (calls : List Call) : Prepared t calls [] {} (calls.map Call.doing) where
  good _ i a state good hi := by
    obtain ⟨call, hcall, hdoing⟩ := Option.map_eq_some_iff.mp (List.getElem?_map ▸ hi)
    cases call <;> cases hdoing
  results _ _ _ _ h := absurd h List.not_mem_nil
  contexts _ _ h := nomatch h
  attempts _ _ _ _ h := absurd h List.not_mem_nil

section Step

variable (h : Prepared t calls trace world doings) (haccount : Account t calls trace world doings)
  (hi : doings[i]? = some d) (hstep : Step t (Wanted calls) event world d world' d')

include h haccount hi hstep

theorem Prepared.good_step (hhealthy : Healthy t calls (trace ++ [(i, event)])) {a : Acquire}
    {good : Prop} (hj : (doings.set i d' ++ [])[j]? = some (.acquire a (.owning state good)))
    (hnot : ¬ Interrupted (trace ++ [(i, event)]) state fun _ => True) : good := by
  have hold {a : Acquire} {good : Prop} (hj : doings[j]? = some (.acquire a (.owning state good))) : good :=
    h.good hhealthy.of_concat j a state good hj fun hinterrupted => hnot (hinterrupted.append _)
  rcases System.getElem?_step hi hj with ⟨rfl, rfl⟩ | ⟨-, hj⟩ | ⟨-, hnone⟩
  · cases hstep with
    | begin hnone => exact hhealthy.targets a (List.mem_of_getElem? (haccount.caller j a _ hi))
    | work =>
      refine ⟨hold hi, hhealthy.attempts.of_concat.2 fun hended => hnot ?_⟩
      obtain ⟨hbegan, -⟩ := haccount.facts j a _ hi
      exact ⟨trace, j, _, _, _, [], _, rfl, hbegan, hended, trivial⟩
  · exact hold hj
  · cases hnone

omit haccount in
theorem Prepared.results_step (hhealthy : Healthy t calls (trace ++ [(i, event)]))
    {result : HelperResult} (hmem : (j, ⟨.setResult state result, ()⟩) ∈ trace ++ [(i, event)])
    (hnot : ¬ Interrupted (trace ++ [(i, event)]) state fun _ => True) :
    ∃ path manifest, result = .ok (path, manifest) ∧ Usable t (Wanted calls) manifest := by
  have hbefore : ¬ Interrupted trace state fun _ => True := fun hinterrupted => hnot (hinterrupted.append _)
  rcases List.mem_append.mp hmem with hmem | hmem
  · exact h.results hhealthy.of_concat j state result hmem hbefore
  · obtain ⟨rfl, rfl⟩ := Prod.mk.inj (List.mem_singleton.mp hmem)
    cases hstep with
    | fill hgood => exact hgood (h.good hhealthy.of_concat j _ state _ hi hbefore)

omit haccount hi in
theorem Prepared.contexts_step {ctx : ℕ} {err : Message} (hctx : world'.contexts ctx = some err) :
    Ended (trace ++ [(i, event)]) ctx := by
  cases hstep with
  | finish =>
    rw [removeFailed_contexts] at hctx
    exact (h.contexts ctx err hctx).append _
  | cancel =>
    rename_i ctx' err'
    by_cases heq : ctx = ctx'
    · subst heq
      exact ⟨i, err', List.mem_append_right _ (List.mem_singleton.mpr rfl)⟩
    · simp only [World.cancel, heq, if_false] at hctx
      exact (h.contexts ctx err hctx).append _
  | _ => exact (h.contexts ctx err hctx).append _

theorem Prepared.attempts_step {ctx : ℕ} {op : ApiServer.Op} {answer : op.Answer}
    (hmem : (j, ⟨.transport ctx op, answer⟩) ∈ trace ++ [(i, event)]) :
    ∃ a, calls[j]? = some (.acquire a) ∧ a.ctx = ctx := by
  rcases List.mem_append.mp hmem with hmem | hmem
  · exact h.attempts j ctx op answer hmem
  · obtain ⟨rfl, rfl⟩ := Prod.mk.inj (List.mem_singleton.mp hmem)
    cases hstep with
    | work => exact ⟨_, haccount.caller j _ _ hi, rfl⟩

theorem Prepared.step : Prepared t calls (trace ++ [(i, event)]) world' (doings.set i d' ++ []) where
  good hhealthy _ _ _ _ hj hnot := h.good_step haccount hi hstep hhealthy hj hnot
  results hhealthy _ _ _ hmem hnot := h.results_step hi hstep hhealthy hmem hnot
  contexts _ _ hctx := h.contexts_step hstep hctx
  attempts _ _ _ _ hmem := h.attempts_step haccount hi hstep hmem

end Step

theorem run_prepared {c : (system t).Config} (hrun : (system t).Run (start t calls) trace c) :
    ∃ doings, (Account t calls trace c.world doings ∧ Prepared t calls trace c.world doings) ∧
      System.Tracks (stages t (Wanted calls)) (fun (call : (system t).Task) d => d = call.doing)
        Doing.Ended c.threads doings := by
  refine hrun.tracked (system_follows t (Wanted calls)) (fun _ _ => rfl)
    (fun trace world doings => Account t calls trace world doings ∧ Prepared t calls trace world doings)
    ⟨account_start t calls, prepared_start t calls⟩ ?_
  rintro trace world doings i d op answer world' ⟨haccount, hprepared⟩ hi hallows hanswer
  have hstep := step_of_answers hallows hanswer
  exact ⟨haccount.step hi hstep, hprepared.step haccount hi hstep⟩

end Prepared

/-! ## Isolation -/

section Isolated

variable {t : Transport} {calls : List Call} {trace : Trace} {c : (system t).Config} {doings : List Doing}

/-- In an undisturbed run, no state that was joined is interrupted. -/
theorem not_interrupted_of_joined (hsteps : System.Stepwise Undisturbed trace) {i state : ℕ} {key : GoString}
    (hjoined : Joined trace i key state) : ¬ Interrupted trace state fun _ => True := by
  rintro ⟨before, j, ctx, op, answer, rest, key', rfl, hbegan, hended, -⟩
  rcases List.mem_append.mp hjoined with hjoined | hjoined
  · exact hsteps before _ rest rfl hended key' state hbegan i key hjoined
  rcases List.mem_cons.mp hjoined with heq | hjoined
  · cases heq
  · obtain ⟨between, rest', rfl⟩ := List.append_of_mem hjoined
    have hstep : Undisturbed (before ++ (j, ⟨.transport ctx op, answer⟩) :: between)
        (i, ⟨.helperState key, (state, false)⟩) := hsteps _ _ rest' (by simp)
    exact hstep ⟨before, j, ctx, op, answer, between, key', rfl, hbegan, hended, trivial⟩

/-- The state of an `Acquire` whose context is alive is not interrupted. -/
theorem not_interrupted (haccount : Account t calls trace c.world doings)
    (hprepared : Prepared t calls trace c.world doings) (hsteps : System.Stepwise Undisturbed trace)
    {i state : ℕ} {a : Acquire} (ha : calls[i]? = some (.acquire a)) (halive : ¬ Ended trace a.ctx)
    (hgot : Began trace i (a.key t) state ∨ Joined trace i (a.key t) state) :
    ¬ Interrupted trace state fun _ => True := by
  rcases hgot with hbegan | hjoined
  · rintro ⟨before, j, ctx, op, answer, rest, key, rfl, hbegan', hended, -⟩
    obtain ⟨rfl, -⟩ := haccount.unique _ _ _ _ _ hbegan (List.mem_append_left _ hbegan')
    obtain ⟨a', ha', rfl⟩ := hprepared.attempts i ctx op answer (List.mem_append_right _ List.mem_cons_self)
    cases ha.symm.trans ha'
    exact halive (hended.append _)
  · exact not_interrupted_of_joined hsteps hjoined

/-- A state that was filled with a usable helper gives a lease. -/
theorem lease_of_usable {found : State} {path capability : GoString} {manifest : Manifest}
    (hfill : found.fill (.ok (path, manifest)) = found)
    (hvalid : validateHelperManifest manifest t.manifest capability = none) :
    found.lease t capability = .ok path := by
  rw [← hfill]
  simp only [State.fill, State.lease, hvalid]

/-- Along every run of calls of `Acquire` and `Invalidate` whose steps are undisturbed. -/
theorem callers_isolated (hrun : (system t).Run (start t calls) trace c)
    (hsteps : System.Stepwise Undisturbed trace) : Isolated t calls trace c := by
  obtain ⟨doings, ⟨haccount, hprepared⟩, htracks⟩ := run_prepared hrun
  have hgot {i state : ℕ} {a : Acquire} (ha : calls[i]? = some (.acquire a)) (halive : ¬ Ended trace a.ctx)
      (hstate : Began trace i (a.key t) state ∨ Joined trace i (a.key t) state) :
      ¬ Interrupted trace state fun _ => True := not_interrupted haccount hprepared hsteps ha halive hstate
  exact {
    errors i a err ha halive _ state hstate hinterrupted := by
      obtain ⟨before, j, ctx, op, answer, rest, key, rfl, hbegan, hended, -⟩ := hinterrupted
      exact hgot ha halive hstate ⟨before, j, ctx, op, answer, rest, key, rfl, hbegan, hended, trivial⟩
    leases hhealthy i a result ha halive hmem := by
      obtain ⟨a', ha', hexplained⟩ := haccount.returned i result hmem
      cases ha.symm.trans ha'
      rcases hexplained with ⟨hpath, -⟩ | ⟨state, err, -, hctx, -⟩ | ⟨state, found, hstate, hfound, hdone, rfl⟩
      · exact absurd hpath hhealthy.path
      · exact absurd (hprepared.contexts _ _ hctx) halive
      · obtain ⟨j, result, hset⟩ := haccount.filled state found hfound hdone
        obtain ⟨found', hfound', hfill⟩ := haccount.written j state result hset
        cases hfound.symm.trans hfound'
        obtain ⟨path, manifest, rfl, husable⟩ :=
          hprepared.results hhealthy j state result hset (hgot ha halive hstate)
        exact ⟨path, lease_of_usable hfill (husable.2 _ ⟨a, List.mem_of_getElem? ha, rfl⟩)⟩
    bounded := acquire_atMost
    ends hstuck _ _ := returned_of_stuck haccount htracks hstuck }

end Isolated

/-! ### Two callers -/

/-- The first caller goes away. -/
def leaveApp : Call := .cancel 1 (.text "context canceled")

/-- A command of the preparation, as it ends while its context is alive, and as it ends after
that. -/
def executedApp : ApiServer.Executed := ApiServer.executedIn ApiServer.firstPod.uid
def canceledApp : ApiServer.Executed :=
  { podUID := none, result := .failed (.text "context canceled"), served := fun _ => ⟨_, rfl⟩ }

theorem undisturbed_of_alive {before : Trace} (h : ∀ ctx, ¬ Ended before ctx)
    (entry : ℕ × Event interface) : Undisturbed before entry := by
  unfold Undisturbed
  split
  · exact fun hended => absurd hended (h _)
  · rintro ⟨before', j, ctx, op, answer, rest, key, rfl, -, hended, -⟩
    exact h ctx (hended.append _)
  · trivial

theorem stepwise_undisturbed {trace : Trace} (h : ∀ ctx, ¬ Ended trace ctx) :
    System.Stepwise Undisturbed trace := by
  rintro before entry rest rfl
  exact undisturbed_of_alive (fun ctx hended => h ctx (hended.append _)) entry

/-- The first caller prepares the helper and goes away, and the second gets a lease. -/
theorem callers_isolated_lease : ∃ trace c,
    (system helperTransport).Run (start helperTransport [acquireApp 1, acquireApp 2, leaveApp])
      trace c ∧ System.Stepwise Undisturbed trace ∧ Ended trace 1 ∧
      (1, ⟨.returned (.ok ApiServer.appHelper), ()⟩) ∈ trace ∧
      Isolated helperTransport [acquireApp 1, acquireApp 2, leaveApp] trace c := by
  have h0 := System.Run.start (c := start helperTransport [acquireApp 1, acquireApp 2, leaveApp])
  have h1 := h0.perform 0 rfl ((0, true) : ℕ × Bool) rfl
  have h2 := h1.perform 1 rfl ((0, false) : ℕ × Bool) rfl
  have h3 := h2.perform 0 rfl (.ok (str "ELF") : Except Message GoString) rfl
  have h4 := h3.perform 0 rfl (none : Option Message) rfl
  have h5 := h4.perform 0 rfl executedApp rfl
  have h6 := h5.perform 0 rfl (none : Option Message) rfl
  have h7 := h6.perform 0 rfl executedApp rfl
  have h8 := h7.perform 0 rfl () rfl
  have h9 := h8.perform 0 rfl () rfl
  have h10 := h9.perform 0 rfl () rfl
  have h11 := h10.perform 2 rfl () rfl
  have h12 := h11.perform 1 rfl Awaited.done ⟨rfl, _, rfl, rfl⟩
  have h13 := h12.perform 1 rfl (none : Option Message) ⟨rfl, _, rfl, rfl⟩
  have h14 := h13.perform 1 rfl helperTransport.manifest ⟨rfl, _, rfl, rfl⟩
  have h15 := h14.perform 1 rfl ApiServer.appHelper ⟨rfl, _, rfl, rfl⟩
  have h16 := h15.perform 1 rfl () rfl
  have hisolated {trace : Trace} {c : (system helperTransport).Config}
      (hrun : (system helperTransport).Run (start helperTransport [acquireApp 1, acquireApp 2, leaveApp]) trace c)
      (hsteps : System.Stepwise Undisturbed trace) : System.Stepwise Undisturbed trace ∧
        Isolated helperTransport [acquireApp 1, acquireApp 2, leaveApp] trace c :=
    ⟨hsteps, callers_isolated hrun hsteps⟩
  obtain ⟨hsteps, hleases⟩ := hisolated h16 <| by
    refine (((((System.Stepwise.concat (stepwise_undisturbed ?_) ?_).concat ?_).concat ?_).concat ?_).concat ?_).concat ?_
    · rintro ctx ⟨i, err, hmem⟩
      have hop : Op.cancel ctx err ∈ _ := List.mem_map_of_mem (f := fun entry => entry.2.op) hmem
      simp at hop
    all_goals trivial
  refine ⟨_, _, h16, hsteps, ⟨2, .text "context canceled", ?_⟩, List.mem_append_right _ (List.mem_singleton.mpr rfl), hleases⟩
  iterate 5 refine List.mem_append_left _ ?_
  exact List.mem_append_right _ (List.mem_singleton.mpr rfl)

/-- The first caller goes away while it prepares the helper. The second, whose context is alive,
gets an error, although all that is attempted with a live context succeeds. -/
theorem acquire_fails_for_other : ∃ trace c,
    (system helperTransport).Run (start helperTransport [acquireApp 1, acquireApp 2, leaveApp]) trace c ∧
      Healthy helperTransport [acquireApp 1, acquireApp 2, leaveApp] trace ∧ ¬ Ended trace 2 ∧
      ∃ err, (1, ⟨.returned (.error err), ()⟩) ∈ trace := by
  have h0 := System.Run.start (c := start helperTransport [acquireApp 1, acquireApp 2, leaveApp])
  have h1 := h0.perform 0 rfl ((0, true) : ℕ × Bool) rfl
  have h2 := h1.perform 1 rfl ((0, false) : ℕ × Bool) rfl
  have h3 := h2.perform 0 rfl (.ok (str "ELF") : Except Message GoString) rfl
  have h4 := h3.perform 2 rfl () rfl
  have h5 := h4.perform 0 rfl (none : Option Message) rfl
  have h6 := h5.perform 0 rfl canceledApp rfl
  have h7 := h6.perform 0 rfl (none : Option Message) rfl
  have h8 := h7.perform 0 rfl canceledApp rfl
  have h9 := h8.perform 0 rfl () rfl
  have h10 := h9.perform 0 rfl () rfl
  have h11 := h10.perform 0 rfl () rfl
  have h12 := h11.perform 1 rfl Awaited.done ⟨rfl, _, rfl, rfl⟩
  have h13 := h12.perform 1 rfl (some _ : Option Message) ⟨rfl, _, rfl, rfl⟩
  have h14 := h13.perform 1 rfl () rfl
  refine ⟨_, _, h14, ⟨nofun, ?_, ?_⟩, ?_, _, List.mem_append_right _ (List.mem_singleton.mpr rfl)⟩
  · intro a ha
    have htgt : a.tgt = appTarget := by
      rcases List.mem_cons.mp ha with ha | ha
      · cases ha
        rfl
      rcases List.mem_cons.mp ha with ha | ha
      · cases ha
        rfl
      · cases List.mem_singleton.mp ha
    rw [htgt]
    exact ⟨ApiServer.appReference, by decide +kernel⟩
  · have hended (before : Trace) : Ended (before ++ [(2, ⟨.cancel 1 (.text "context canceled"), ()⟩)]) 1 :=
      ⟨2, _, List.mem_append_right _ (List.mem_singleton.mpr rfl)⟩
    refine ((((((((((((((System.stepwise_nil.concat ?_).concat ?_).concat ?_).concat ?_).concat ?_).concat ?_).concat
      ?_).concat ?_).concat ?_).concat ?_).concat ?_).concat ?_).concat ?_).concat ?_)
    · trivial
    · trivial
    · exact fun _ => ⟨str "ELF", rfl⟩
    · trivial
    · exact fun halive => absurd (hended _) halive
    · exact fun halive => absurd ((hended _).append _) halive
    · exact fun halive => absurd (((hended _).append _).append _) halive
    · exact fun halive => absurd ((((hended _).append _).append _).append _) halive
    all_goals trivial
  · rintro ⟨i, err, hmem⟩
    have hop : Op.cancel 2 err ∈ _ := List.mem_map_of_mem (f := fun entry => entry.2.op) hmem
    simp at hop

end KubeSsh.CopyHelper

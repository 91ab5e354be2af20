import KubeSsh.PodSsh.ApiServer

/-!
# `pkg/podssh/backend/apiserver`: leases of a copied helper

`Acquire` copies the helper into the container of a target and runs its version command, once for
each cache key; later calls with the key get the path that was prepared then. The key has the
target, the UID of the Pod and the build of the helper, and nothing about the container instance:
after a restart of the container, which empties its file system, the path is still handed out.

What a goroutine did up to its return from `acquire` is read off the program (`Prog.Yields`).
Restarts happen at any time: `instances n` tells the instances that run after `n` events of the run.
`leases_usable` says that a lease is usable if no container restarts that a helper was copied into.
-/

namespace KubeSsh.ApiServer

open Backend PodTarget Prog KubeSsh.System

/-! ## What a program did before it returned -/

/-- The command ran in the container and exited with zero. -/
structure Ran (reference : Reference) (req : ExecRequest) (executed : Executed)
    (event : Event interface) : Prop where
  event : event = ⟨.stream (execPod reference req) (streamOptions req), executed⟩
  exit : executed.result.exit (.text "exec stream: ") = (0, none)

/-- The request that copies data with a command. -/
def copyRequest (tgt : Target) (command : List GoString) (data : GoString) : ExecRequest where
  target := tgt
  command := command
  stdin := some (.data data)
  stdout := true
  stderr := true

/-- The request for the version of the helper. -/
def versionRequest (tgt : Target) (path : GoString) : ExecRequest where
  target := tgt
  command := [path, commandVersion]
  stdout := true
  stderr := true

variable {t : Transport} {tgt : Target} {data path : GoString} {events : List (Event interface)}

/-- The data was copied to the path, with a shell or in an archive. -/
def Copied (t : Transport) (reference : Reference) (data path : GoString) (event : Event interface) : Prop :=
  ∃ tgt executed, Ran reference (copyRequest tgt (shellCommand path) data) executed event ∨
    ∃ archive, t.lib.tarArchive (pathBase path) data = .ok archive ∧
      Ran reference (copyRequest tgt (tarCommand path) archive) executed event

theorem Copied.op {reference : Reference} {event : Event interface} (h : Copied t reference data path event) :
    ∃ request options, event.op = .stream request options := by
  obtain ⟨tgt, executed, hran | ⟨archive, -, hran⟩⟩ := h
  all_goals
    rw [hran.event]
    exact ⟨_, _, rfl⟩

/-- The version command of the helper printed its manifest, which is the expected one. -/
def Probed (t : Transport) (reference : Reference) (path : GoString) (event : Event interface) : Prop :=
  ∃ tgt executed manifest, Ran reference (versionRequest tgt path) executed event ∧
    t.lib.decodeManifest executed.stdout = .ok manifest ∧
    validateHelperManifest manifest t.manifest [] = none

theorem exec_yields {req : ExecRequest} {result : ExecResult} (h : (exec req).Yields events result)
    (herr : result.err = none) (hcode : result.code = 0) :
    ∃ reference executed first event, parse req.target = .ok reference ∧ events = first ++ [event] ∧
      Ran reference req executed event ∧ result.stdout = executed.stdout := by
  unfold exec at h
  split at h
  · obtain ⟨-, rfl⟩ := yields_pure h
    cases herr
  rename_i reference hparse
  obtain ⟨first, rest, failed, rfl, hfirst, hrest⟩ := Yields.of_bind h
  obtain rfl := yields_perform hfirst
  rcases (failed : Option Message) with _ | err
  · obtain ⟨second, rest', executed, rfl, hsecond, hrest'⟩ := Yields.of_bind hrest
    obtain rfl := yields_perform hsecond
    obtain ⟨rfl, rfl⟩ := yields_pure hrest'
    exact ⟨reference, executed, [_], _, hparse, rfl, ⟨rfl, Prod.ext hcode herr⟩, rfl⟩
  · obtain ⟨-, rfl⟩ := yields_pure hrest
    cases herr

theorem copyWith_yields {command : List GoString} (h : (Transport.copyWith tgt command data).Yields events none) :
    ∃ reference executed first event, parse tgt = .ok reference ∧ events = first ++ [event] ∧
      Ran reference (copyRequest tgt command data) executed event := by
  obtain ⟨first, rest, result, rfl, hfirst, hrest⟩ := Yields.of_bind h
  cases herr : result.err with
  | some err =>
    rw [herr] at hrest
    obtain ⟨-, hnone⟩ := yields_pure hrest
    cases hnone
  | none =>
    rw [herr] at hrest
    dsimp only at hrest
    split at hrest
    · obtain ⟨-, hnone⟩ := yields_pure hrest
      cases hnone
    · rename_i hcode
      obtain ⟨rfl, -⟩ := yields_pure hrest
      obtain ⟨reference, executed, first', event, hparse, rfl, hran, -⟩ :=
        exec_yields hfirst herr (not_not.mp hcode)
      exact ⟨reference, executed, first', event, hparse, List.append_nil _, hran⟩

/-- The last of the copies that are tried succeeded. -/
theorem tryCopies_yields {methods : List (GoString × Calling (Option Message))}
    {failures : List Message} (h : (Transport.tryCopies methods failures).Yields events none) :
    ∃ method ∈ methods, ∃ first rest, events = first ++ rest ∧ method.2.Yields rest none := by
  induction methods generalizing events failures with
  | nil =>
    obtain ⟨-, hnone⟩ := yields_pure h
    cases hnone
  | cons method methods ih =>
    obtain ⟨name, copy⟩ := method
    obtain ⟨first, rest, failed, rfl, hfirst, hrest⟩ := Yields.of_bind h
    rcases failed with _ | err
    · obtain ⟨rfl, -⟩ := yields_pure hrest
      exact ⟨(name, copy), List.mem_cons_self, [], first, List.append_nil first, hfirst⟩
    · obtain ⟨method, hmem, before, rest, rfl, hyields⟩ := ih hrest
      exact ⟨method, List.mem_cons_of_mem _ hmem, first ++ before, rest, (List.append_assoc _ _ _).symm, hyields⟩

theorem copyHelperBinary_yields (h : (t.copyHelperBinary tgt data).Yields events (.ok path)) :
    path = t.helperRemotePath tgt ∧ ∃ reference first event, parse tgt = .ok reference ∧
      events = first ++ [event] ∧ Copied t reference data path event := by
  obtain ⟨first, rest, failed, rfl, hfirst, hrest⟩ := Yields.of_bind h
  rcases failed with _ | err
  · obtain ⟨rfl, hpath⟩ := yields_pure hrest
    obtain rfl := Except.ok.inj hpath
    refine ⟨rfl, ?_⟩
    obtain ⟨method, hmem, before, rest, rfl, hyields⟩ := tryCopies_yields hfirst
    rcases List.mem_cons.mp hmem with rfl | hmem
    · obtain ⟨reference, executed, first, event, hparse, rfl, hran⟩ := copyWith_yields hyields
      exact ⟨reference, before ++ first, event, hparse, by simp, tgt, executed, Or.inl hran⟩
    · obtain rfl := List.mem_singleton.mp hmem
      unfold Transport.copyHelperBinaryWithTar at hyields
      split at hyields
      · obtain ⟨-, hnone⟩ := yields_pure hyields
        cases hnone
      · rename_i archive harchive
        obtain ⟨reference, executed, first, event, hparse, rfl, hran⟩ := copyWith_yields hyields
        exact ⟨reference, before ++ first, event, hparse, by simp, tgt, executed,
          Or.inr ⟨archive, harchive, hran⟩⟩
  · obtain ⟨-, hnone⟩ := yields_pure hrest
    cases hnone

theorem probeVersion_yields {manifest : Manifest}
    (h : (t.probeVersion tgt path).Yields events (.ok manifest)) :
    ∃ reference executed first event, parse tgt = .ok reference ∧ events = first ++ [event] ∧
      Ran reference (versionRequest tgt path) executed event ∧
      t.lib.decodeManifest executed.stdout = .ok manifest := by
  obtain ⟨first, rest, result, rfl, hfirst, hrest⟩ := Yields.of_bind h
  cases herr : result.err with
  | some err =>
    rw [herr] at hrest
    obtain ⟨-, hnone⟩ := yields_pure hrest
    cases hnone
  | none =>
    rw [herr] at hrest
    dsimp only at hrest
    split at hrest
    · obtain ⟨-, hnone⟩ := yields_pure hrest
      cases hnone
    rename_i hcode
    split at hrest
    · obtain ⟨-, hnone⟩ := yields_pure hrest
      cases hnone
    rename_i manifest' hdecode
    obtain ⟨rfl, hmanifest⟩ := yields_pure hrest
    obtain rfl := Except.ok.inj hmanifest
    obtain ⟨reference, executed, first', event, hparse, rfl, hran, hstdout⟩ :=
      exec_yields hfirst herr (not_not.mp hcode)
    exact ⟨reference, executed, first', event, hparse, List.append_nil _, hran, hstdout ▸ hdecode⟩

/-- The owner of a helper state read the helper, copied it and ran it. -/
theorem ownHelperState_yields {manifest : Manifest}
    (h : (t.ownHelperState tgt).Yields events (.ok (path, manifest))) :
    path = t.helperRemotePath tgt ∧ ∃ reference data first copy between probe, parse tgt = .ok
      reference ∧ events = ⟨.readHelper, .ok data⟩ :: first ++ copy :: (between ++ [probe]) ∧
      Copied t reference data path copy ∧ Probed t reference path probe := by
  obtain ⟨first, rest, read, rfl, hfirst, hrest⟩ := Yields.of_bind h
  obtain rfl := yields_perform hfirst
  rcases (read : Except Message GoString) with err | data
  · obtain ⟨-, hnone⟩ := yields_pure hrest
    cases hnone
  obtain ⟨first, rest, copied, rfl, hfirst, hrest⟩ := Yields.of_bind hrest
  rcases copied with err | path'
  · obtain ⟨-, hnone⟩ := yields_pure hrest
    cases hnone
  obtain ⟨second, rest, probed, rfl, hsecond, hrest⟩ := Yields.of_bind hrest
  rcases probed with err | manifest'
  · obtain ⟨-, hnone⟩ := yields_pure hrest
    cases hnone
  dsimp only at hrest
  split at hrest
  · obtain ⟨-, hnone⟩ := yields_pure hrest
    cases hnone
  rename_i hvalid
  obtain ⟨rfl, hok⟩ := yields_pure hrest
  obtain ⟨rfl, rfl⟩ := Prod.mk.inj (Except.ok.inj hok)
  obtain ⟨hpath, reference, before, copy, hparse, rfl, hcopied⟩ := copyHelperBinary_yields hfirst
  obtain ⟨reference', executed, between, probe, hparse', rfl, hran, hdecode⟩ := probeVersion_yields hsecond
  obtain rfl := Except.ok.inj (hparse.symm.trans hparse')
  exact ⟨hpath, reference, data, before, copy, between, probe, hparse, by simp, hcopied,
    tgt, executed, manifest, hran, hdecode, hvalid⟩

/-- What `Acquire` did for a lease: it prepared the helper, or waited for the one who did. -/
theorem acquire_yields {capability : GoString}
    (h : (t.acquire tgt capability).Yields events (.ok path)) : ∃ state manifest,
      (∃ own, events = ⟨.helperState (helperCacheKey tgt t.manifest), (state, true)⟩ :: (own ++
          [⟨.finishHelperState (helperCacheKey tgt t.manifest) state (.ok (path, manifest)), ()⟩]) ∧
        (t.ownHelperState tgt).Yields own (.ok (path, manifest))) ∨
      events = [⟨.helperState (helperCacheKey tgt t.manifest), (state, false)⟩,
        ⟨.awaitHelper state, Awaited.done (.ok (path, manifest))⟩] := by
  unfold Transport.acquire at h
  split at h
  · obtain ⟨-, hnone⟩ := yields_pure h
    cases hnone
  obtain ⟨first, rest, answer, rfl, hfirst, hrest⟩ := Yields.of_bind h
  obtain rfl := yields_perform hfirst
  obtain ⟨state, owner⟩ := answer
  obtain ⟨second, rest, awaited, rfl, hsecond, hrest⟩ := Yields.of_bind hrest
  rcases awaited with (err | ⟨path', manifest⟩) | err
  · obtain ⟨-, hnone⟩ := yields_pure hrest
    cases hnone
  · dsimp only at hrest
    split at hrest
    · obtain ⟨-, hnone⟩ := yields_pure hrest
      cases hnone
    obtain ⟨rfl, hok⟩ := yields_pure hrest
    obtain rfl := Except.ok.inj hok
    refine ⟨state, manifest, ?_⟩
    unfold Transport.awaitHelperState at hsecond
    cases owner with
    | true =>
      obtain ⟨own, rest, result, rfl, hown, hrest⟩ := Yields.of_bind hsecond
      obtain ⟨finish, rest', _, rfl, hfinish, hrest'⟩ := Yields.of_bind hrest
      obtain rfl := yields_perform hfinish
      obtain ⟨rfl, hdone⟩ := yields_pure hrest'
      obtain rfl := Awaited.done.inj hdone
      exact Or.inl ⟨own, by simp, hown⟩
    | false =>
      obtain rfl := yields_perform hsecond
      exact Or.inr rfl
  · obtain ⟨-, hnone⟩ := yields_pure hrest
    cases hnone

/-! ## Who fills a helper state -/

/-- Of what `Acquire` performs, only its last operation can fill a helper state: for the cache key
of the target, with what the owner prepared. -/
theorem acquire_finishes {capability key : GoString} {state : ℕ} {result : HelperResult}
    {k : Unit → Calling (Except Message GoString)}
    (h : (t.acquire tgt capability).Steps events (.call (.finishHelperState key state result) k)) :
    key = helperCacheKey tgt t.manifest ∧
      ∃ own, events = ⟨.helperState key, (state, true)⟩ :: own ∧
        (t.ownHelperState tgt).Yields own result := by
  unfold Transport.acquire at h
  split at h
  · exact (not_steps_pure h).elim
  rcases Steps.of_bind h with ⟨_, hstate⟩ | ⟨first, rest, ⟨state', owner⟩, rfl, hfirst, hrest⟩
  · cases steps_perform hstate
  obtain rfl := yields_perform hfirst
  rcases Steps.of_bind hrest with ⟨_, hawait⟩ | ⟨_, _, awaited, _, _, hend⟩
  · unfold Transport.awaitHelperState at hawait
    cases owner with
    | false => cases steps_perform hawait
    | true =>
      rcases Steps.of_bind hawait with ⟨_, hown⟩ | ⟨own, rest', result', rfl, hown, hfinish⟩
      · exact ((ownHelperState_works t).steps hown).2.elim
      rcases Steps.of_bind hfinish with ⟨_, hfinish⟩ | ⟨_, _, _, _, _, hend⟩
      · cases hfinish with
        | done => exact ⟨rfl, own, by simp, hown⟩
        | step hfinish => exact (not_steps_pure hfinish).elim
      · exact (not_steps_pure hend).elim
  · rcases awaited with (err | ⟨path, manifest⟩) | err
    · exact (not_steps_pure hend).elim
    · dsimp only at hend
      split at hend <;> exact (not_steps_pure hend).elim
    · exact (not_steps_pure hend).elim

/-- The call that fills a helper state owns it, for the cache key of its target, and puts into it
what it prepared. -/
theorem execHelper_finishes {req : HelperExecRequest} {key : GoString} {state : ℕ}
    {result : HelperResult} {k : Unit → Calling (Option Task)}
    (h : (t.code (.call (.execHelper req))).Steps events (.call (.finishHelperState key state result) k)) :
    key = helperCacheKey req.target t.manifest ∧
      ∃ own, events = ⟨.helperState key, (state, true)⟩ :: own ∧
        (t.ownHelperState req.target).Yields own result := by
  rcases Steps.of_bind h with ⟨_, hcall⟩ | ⟨_, _, _, _, _, hend⟩
  · rcases Steps.of_bind hcall with ⟨_, hexec⟩ | ⟨_, _, _, _, _, hreturned⟩
    · rcases Steps.of_bind hexec with ⟨_, hacquire⟩ | ⟨_, _, acquired, _, _, hend⟩
      · exact acquire_finishes hacquire
      · rcases acquired with err | path
        · exact (not_steps_pure hend).elim
        · exact ((exec_works rfl).steps hend).2.elim
    · cases steps_perform hreturned
  · exact (not_steps_pure hend).elim

/-! ## Helper states in a run -/

/-- What the goroutines of a transport have done. -/
abbrev Trace := List (ℕ × Event interface)

/-- A goroutine entered the helper state for the key, as its owner. -/
def Entered (trace : Trace) (key : GoString) (state : ℕ) : Prop :=
  ∃ j, (j, ⟨.helperState key, (state, true)⟩) ∈ trace

/-- A goroutine filled the helper state. -/
def Filled (trace : Trace) (state : ℕ) (result : HelperResult) : Prop :=
  ∃ j key, (j, ⟨.finishHelperState key state result, ()⟩) ∈ trace

/-- The helper states against what happened: each was entered for one key, and is done when it was
filled. -/
structure HelperStates (trace : Trace) (world : World) : Prop where
  entered : ∀ key state, world.helpers.lookup key = some state → Entered trace key state
  filled : ∀ state result, world.states[state]? = some (some result) → Filled trace state result
  bounded : ∀ key state, Entered trace key state → state < world.states.length
  unique : ∀ key key' state, Entered trace key state → Entered trace key' state → key = key'
  shared : Stepwise (fun (before : Trace) (entry : ℕ × Event interface) => ∀ key state,
    entry.2 = ⟨.helperState key, (state, false)⟩ → Entered before key state) trace
  awaited : Stepwise (fun (before : Trace) (entry : ℕ × Event interface) => ∀ state result,
    entry.2 = ⟨.awaitHelper state, Awaited.done result⟩ → Filled before state result) trace

section HelperStates

variable {trace : Trace} {world world' : World} {i : ℕ} {op : Op} {answer : op.Answer}

theorem entered_concat {key : GoString} {state : ℕ} : Entered (trace ++ [(i, ⟨op, answer⟩)]) key state ↔
    Entered trace key state ∨ (⟨op, answer⟩ : Event interface) = ⟨.helperState key, (state, true)⟩ :=
  exists_mem_concat

theorem Filled.append {state : ℕ} {result : HelperResult} (h : Filled trace state result)
    (rest : Trace) : Filled (trace ++ rest) state result :=
  h.imp fun _ hj => hj.imp fun _ hkey => List.mem_append_left rest hkey

theorem helperStates_start (pods : Pods) : HelperStates [] { pods } where
  entered key state h := by cases h
  filled state result h := by cases h
  bounded _ _ h := by
    obtain ⟨_, h⟩ := h
    cases h
  unique _ _ _ h := by
    obtain ⟨_, h⟩ := h
    cases h
  shared := stepwise_nil
  awaited := stepwise_nil

theorem helpers_of_answers (h : Answers world op answer world') (hstate : ∀ key, op ≠ .helperState key)
    (hfinish : ∀ key state result, op ≠ .finishHelperState key state result) :
    world'.helpers = world.helpers ∧ world'.states = world.states := by
  cases op with
  | helperState key => exact absurd rfl (hstate key)
  | finishHelperState key state result => exact absurd rfl (hfinish key state result)
  | change =>
    rw [show world' = _ from h]
    exact ⟨rfl, rfl⟩
  | stream | negotiate =>
    obtain ⟨rfl, -⟩ := h
    exact ⟨rfl, rfl⟩
  | awaitHelper state =>
    rcases (answer : Awaited) with result | err
    · rw [show world' = world from h.1]
      exact ⟨rfl, rfl⟩
    · rw [show world' = world from h]
      exact ⟨rfl, rfl⟩
  | _ =>
    rw [show world' = world from h]
    exact ⟨rfl, rfl⟩

/-- An operation that enters no state, and fills none. -/
theorem HelperStates.step_other (h : HelperStates trace world)
    (hanswer : Answers world op answer world') (hstate : ∀ key, op ≠ .helperState key)
    (hfinish : ∀ key state result, op ≠ .finishHelperState key state result) :
    HelperStates (trace ++ [(i, ⟨op, answer⟩)]) world' := by
  obtain ⟨hhelpers, hstates⟩ := helpers_of_answers hanswer hstate hfinish
  have hentered {key : GoString} {state : ℕ} :
      Entered (trace ++ [(i, ⟨op, answer⟩)]) key state ↔ Entered trace key state :=
    entered_concat.trans (or_iff_left fun heq => hstate key (congrArg Event.op heq))
  refine ⟨fun key state hlookup => ?_, fun state result hdone => ?_, fun key state hentry => ?_,
    fun key key' state hentry hentry' => ?_, h.shared.concat fun key state heq => ?_,
    h.awaited.concat fun state result heq => ?_⟩
  · exact hentered.mpr (h.entered key state (hhelpers ▸ hlookup))
  · exact (h.filled state result (hstates ▸ hdone)).append _
  · rw [hstates]
    exact h.bounded key state (hentered.mp hentry)
  · exact h.unique key key' state (hentered.mp hentry) (hentered.mp hentry')
  · exact absurd (congrArg Event.op heq) (hstate key)
  · cases heq
    exact h.filled state result hanswer.2

theorem HelperStates.step_state (h : HelperStates trace world) {key : GoString} {found : ℕ × Bool}
    (hanswer : Answers world (.helperState key) found world') :
    HelperStates (trace ++ [(i, ⟨.helperState key, found⟩)]) world' := by
  have heq : (found, world') = world.helperState key := hanswer
  unfold World.helperState at heq
  cases hlookup : world.helpers.lookup key with
  | some state =>
    -- the state is there, and another goroutine owns it
    rw [hlookup] at heq
    obtain ⟨rfl, rfl⟩ := Prod.mk.inj heq
    have hentered {key' : GoString} {state' : ℕ} :
        Entered (trace ++ [(i, ⟨.helperState key, (state, false)⟩)]) key' state' ↔ Entered trace key' state' :=
      entered_concat.trans (or_iff_left fun heq => by cases heq)
    refine ⟨fun key' state' hlookup' => hentered.mpr (h.entered key' state' hlookup'),
      fun state' result hdone => (h.filled state' result hdone).append _,
      fun key' state' hentry => h.bounded key' state' (hentered.mp hentry),
      fun key' key'' state' hentry hentry' =>
        h.unique key' key'' state' (hentered.mp hentry) (hentered.mp hentry'),
      h.shared.concat fun key' state' heq' => ?_, h.awaited.concat fun _ _ heq' => (by cases heq')⟩
    cases heq'
    exact h.entered key state hlookup
  | none =>
    rw [hlookup] at heq
    obtain ⟨rfl, rfl⟩ := Prod.mk.inj heq
    have hnew : ∀ key', ¬ Entered trace key' world.states.length := fun key' hentry =>
      Nat.lt_irrefl _ (h.bounded key' _ hentry)
    refine ⟨fun key' state' hlookup' => ?_, fun state' result hdone => ?_, fun key' state' hentry => ?_,
      fun key' key'' state' hentry hentry' => ?_, h.shared.concat fun _ _ heq' => (by cases heq'),
      h.awaited.concat fun _ _ heq' => (by cases heq')⟩
    · by_cases hkey : key' = key
      · subst hkey
        rw [AList.lookup_insert] at hlookup'
        obtain rfl := Option.some.inj hlookup'
        exact entered_concat.mpr (Or.inr rfl)
      · rw [AList.lookup_insert_ne hkey] at hlookup'
        exact entered_concat.mpr (Or.inl (h.entered key' state' hlookup'))
    · rw [List.getElem?_append] at hdone
      split at hdone
      · exact (h.filled state' result hdone).append _
      · exact absurd (List.mem_of_getElem? hdone) (by simp)
    · rw [List.length_append, List.length_singleton]
      rcases entered_concat.mp hentry with hentry | heq'
      · exact Nat.lt_succ_of_lt (h.bounded key' state' hentry)
      · cases heq'
        exact Nat.lt_succ_self _
    · rcases entered_concat.mp hentry with hentry | heq' <;>
        rcases entered_concat.mp hentry' with hentry' | heq''
      · exact h.unique key' key'' state' hentry hentry'
      · cases heq''
        exact absurd hentry (hnew key')
      · cases heq'
        exact absurd hentry' (hnew key'')
      · cases heq'
        cases heq''
        rfl

theorem HelperStates.step_finish (h : HelperStates trace world) {key : GoString} {state : ℕ}
    {result : HelperResult} (hanswer : Answers world (.finishHelperState key state result) () world') :
    HelperStates (trace ++ [(i, ⟨.finishHelperState key state result, ()⟩)]) world' := by
  have hstates : world'.states = world.states.set state (some result) := by
    rw [show world' = _ from hanswer]
    unfold World.finishHelperState
    cases result with
    | error err =>
      dsimp only
      split <;> rfl
    | ok prepared => rfl
  have hhelpers : ∀ key' state', world'.helpers.lookup key' = some state' →
      world.helpers.lookup key' = some state' := by
    intro key' state' hlookup
    rw [show world' = _ from hanswer] at hlookup
    unfold World.finishHelperState at hlookup
    cases result with
    | error err =>
      dsimp only at hlookup
      split at hlookup
      · by_cases hkey : key' = key
        · subst hkey
          rw [AList.lookup_erase] at hlookup
          cases hlookup
        · rwa [AList.lookup_erase_ne hkey] at hlookup
      · exact hlookup
    | ok prepared => exact hlookup
  have hentered {key' : GoString} {state' : ℕ} :
      Entered (trace ++ [(i, ⟨.finishHelperState key state result, ()⟩)]) key' state' ↔
        Entered trace key' state' := entered_concat.trans (or_iff_left fun heq => by cases heq)
  refine ⟨fun key' state' hlookup => ?_, fun state' result' hdone => ?_, fun key' state' hentry => ?_,
    fun key' key'' state' hentry hentry' => ?_, h.shared.concat fun _ _ heq => (by cases heq),
    h.awaited.concat fun _ _ heq => (by cases heq)⟩
  · exact hentered.mpr (h.entered key' state' (hhelpers key' state' hlookup))
  · rw [hstates, List.getElem?_set] at hdone
    split at hdone
    · rename_i hstate
      subst hstate
      split at hdone
      · obtain rfl := Option.some.inj (Option.some.inj hdone)
        exact ⟨i, key, List.mem_append_right _ (List.mem_singleton_self _)⟩
      · cases hdone
    · exact (h.filled state' result' hdone).append _
  · rw [hstates, List.length_set]
    exact h.bounded key' state' (hentered.mp hentry)
  · exact h.unique key' key'' state' (hentered.mp hentry) (hentered.mp hentry')

end HelperStates

theorem run_helperStates {pods : Pods} {calls : List TransportCall} {trace : Trace} {c : t.system.Config}
    (hrun : t.system.Run (t.start pods calls) trace c) : HelperStates trace c.world := by
  refine Run.invariant (fun trace world => HelperStates trace world)
    (fun trace world i op answer world' h hanswer => ?_) (helperStates_start pods) hrun
  cases op with
  | helperState key => exact h.step_state hanswer
  | finishHelperState key state result => exact h.step_finish hanswer
  | _ => exact h.step_other hanswer nofun nofun

/-- Only the goroutine of an `ExecHelper` call fills a helper state. -/
def MayFinish (task : Task) (_ : List (Event interface)) (op : Op) : Prop :=
  op.Unfinishing ∨ ∃ req, task = .call (.execHelper req)

theorem system_mayFinish (t : Transport) :
    t.system.Follows (history MayFinish) (fun task => (task, [])) (fun task s => s.1 = task)
      (fun _ => True) where
  code _ s hs := by
    obtain ⟨task, events⟩ := s
    obtain rfl := hs
    have hends {prog : Calling Unit} (h : prog.Only fun op => MayFinish task events op) :
        (prog >>= fun _ => (Pure.pure none : Calling (Option Task))).Obeys (history MayFinish)
          (task, events) (Ends (fun (task : t.system.Task) s => s.1 = task) fun _ => True) := by
      have hkept : prog.Obeys (history MayFinish) (task, events) fun _ s => s.1 = task := by
        refine h.obeys_of_inv rfl ?_
        rintro ⟨_, _⟩ op rfl hop
        exact ⟨hop, fun _ => rfl⟩
      exact obeys_bind.mpr (hkept.mono fun _ _ _ => trivial)
    cases task with
    | cluster => exact ⟨Or.inl trivial, fun _ => rfl⟩
    | call call =>
      refine hends ?_
      cases call with
      | exec req =>
        exact ((exec_works rfl).mono fun _ h => Or.inl h.2).bind fun _ =>
          only_perform.mpr (Or.inl trivial)
      | execHelper req => exact only_of_forall (fun _ => Or.inr ⟨req, rfl⟩) _
      | portForward req =>
        exact ((portForward_works req).mono fun _ h => Or.inl h.2).bind fun _ =>
          only_perform.mpr (Or.inl trivial)
    | readError => exact hends (readError_only.mono fun _ h => Or.inl h.2)
  started _ _ _ _ _ := rfl

/-- The goroutine that fills a helper state runs an `ExecHelper` call, and had prepared what it puts
into the state. -/
theorem run_filled {pods : Pods} {calls : List TransportCall} {trace : Trace} {c : t.system.Config}
    (hrun : t.system.Run (t.start pods calls) trace c) {before rest : Trace} {j : ℕ} {key : GoString}
    {state : ℕ} {result : HelperResult}
    (htrace : trace = before ++ (j, ⟨.finishHelperState key state result, ()⟩) :: rest) :
    ∃ req, .execHelper req ∈ calls ∧ key = helperCacheKey req.target t.manifest ∧
      ∃ own, eventsOf j before = ⟨.helperState key, (state, true)⟩ :: own ∧
        (t.ownHelperState req.target).Yields own result := by
  have hremembered := hrun.remembered (system_mayFinish t) (fun _ _ => rfl)
  obtain ⟨task, hsource, hmay⟩ := hremembered before _ rest htrace
  obtain ⟨req, rfl⟩ : ∃ req, task = .call (.execHelper req) := hmay.resolve_left id
  rcases hsource with htask | ⟨-, entry, -, hstarted⟩
  · -- what the goroutine did is what the call does
    have hlast : ∀ events next, ¬ (t.code (.call (.execHelper req))).Yields events (some next) := by
      intro events next h
      obtain ⟨_, _, _, -, -, hend⟩ := Yields.of_bind h
      cases (yields_pure hend).2
    obtain ⟨p, -, hsteps⟩ := hrun.steps htask hlast
    rw [htrace, eventsOf_split] at hsteps
    obtain ⟨k, hsteps⟩ := hsteps.before
    refine ⟨req, ?_, execHelper_finishes hsteps⟩
    cases j with
    | zero => cases htask
    | succ j =>
      have hmem := List.mem_of_getElem? htask
      rcases List.mem_cons.mp hmem with heq | hmem
      · cases heq
      · obtain ⟨call, hcall, heq⟩ := List.mem_map.mp hmem
        cases heq
        exact hcall
  · cases hop : entry.2.op with
    | goReadError =>
      rw [hop] at hstarted
      cases List.mem_singleton.mp hstarted
    | _ =>
      rw [hop] at hstarted
      cases hstarted

/-! ## Leases -/

/-- The helper was read, copied to the path in the container and run there, in the instance that
runs after the events. -/
def Prepared (t : Transport) (instances : ℕ → Reference → ℕ) (reference : Reference)
    (path : GoString) (trace : Trace) : Prop :=
  ∃ (i : ℕ) (data : GoString) (copy probe : Event interface) (first between last : Trace),
    trace = first ++ (i, copy) :: (between ++ (i, probe) :: last) ∧
    (i, ⟨.readHelper, Except.ok data⟩) ∈ first ∧
    Copied t reference data path copy ∧ Probed t reference path probe ∧
    instances first.length reference = instances trace.length reference ∧
    instances (first.length + 1 + between.length) reference = instances trace.length reference

/-- Whenever `Acquire` has returned a lease and the container has not restarted during the call, the
helper was prepared in the instance that runs. -/
def LeasesUsable (t : Transport) (calls : List TransportCall) (instances : ℕ → Reference → ℕ)
    (trace : Trace) : Prop :=
  ∀ before rest i req reference path, trace = before ++ rest → calls[i]? = some (.execHelper req) →
    (t.acquire req.target req.capability).Yields (eventsOf (i + 1) before) (.ok path) →
    parse req.target = .ok reference →
    (∀ first event later, before = first ++ (i + 1, event) :: later → ∀ n, first.length ≤ n →
      n ≤ before.length → instances n reference = instances before.length reference) →
    Prepared t instances reference path before

/-- No container restarts that a helper was copied into. -/
def KeepsCopies (t : Transport) (instances : ℕ → Reference → ℕ) (trace : Trace) : Prop :=
  ∀ first i event rest reference data path, trace = first ++ (i, event) :: rest →
    Copied t reference data path event → ∀ n, first.length ≤ n → n ≤ trace.length →
      instances n reference = instances first.length reference

/-- Targets with the same cache key name the same container. -/
def KeysApart (t : Transport) (calls : List TransportCall) : Prop :=
  ∀ req req', .execHelper req ∈ calls → .execHelper req' ∈ calls →
    helperCacheKey req.target t.manifest = helperCacheKey req'.target t.manifest →
      parse req.target = parse req'.target

section Leases

variable {pods : Pods} {calls : List TransportCall} {trace : Trace} {c : t.system.Config}
  {instances : ℕ → Reference → ℕ} {reference : Reference}

/-- A goroutine that owned a helper state prepared the helper. -/
theorem prepared_of_own (hcopies : KeepsCopies t instances trace) {before rest : Trace}
    (htrace : trace = before ++ rest) {j : ℕ} {first own last : List (Event interface)} {manifest : Manifest}
    (hevents : eventsOf j before = first ++ own ++ last)
    (hown : (t.ownHelperState tgt).Yields own (.ok (path, manifest))) (hparse : parse tgt = .ok reference) :
    Prepared t instances reference path before := by
  obtain ⟨-, reference', data, skipped, copy, between, probe, hparse', rfl, hcopied, hprobed⟩ :=
    ownHelperState_yields hown
  obtain rfl := Except.ok.inj (hparse.symm.trans hparse')
  have hsplit : eventsOf j before
      = (first ++ ⟨.readHelper, Except.ok data⟩ :: skipped) ++ copy :: (between ++ probe :: last) := by
    rw [hevents]
    simp
  obtain ⟨before1, rest1, rfl, hbefore1, hrest1⟩ := exists_of_eventsOf_eq_append hsplit
  obtain ⟨before2, rest2, rfl, -, -⟩ := exists_of_eventsOf_eq_append hrest1
  have hread : (j, (⟨.readHelper, Except.ok data⟩ : Event interface)) ∈ before1 := by
    rw [← mem_eventsOf, hbefore1]
    simp
  have hinstance : ∀ n, before1.length ≤ n → n ≤ trace.length →
      instances n reference = instances before1.length reference := by
    refine hcopies before1 j copy (before2 ++ (j, probe) :: rest2 ++ rest) reference data path ?_ hcopied
    rw [htrace]
    simp
  have hlength : trace.length = before1.length + 1 + before2.length + 1 + rest2.length + rest.length := by
    rw [htrace]
    simp only [List.length_append, List.length_cons]
    omega
  have hnow : instances (before1 ++ (j, copy) :: (before2 ++ (j, probe) :: rest2)).length reference
      = instances before1.length reference := by
    refine hinstance _ ?_ ?_ <;> simp only [List.length_append, List.length_cons] <;> omega
  refine ⟨j, data, copy, probe, before1, before2, rest2, rfl, hread, hcopied, hprobed, hnow.symm, ?_⟩
  rw [hnow]
  exact hinstance _ (by omega) (by omega)

/-- A goroutine that waited for a helper state waited for one that was filled for its own key. -/
theorem waited_for_own_key (hrun : t.system.Run (t.start pods calls) trace c) {before rest : Trace}
    (htrace : trace = before ++ rest) {i : ℕ} {key : GoString} {state : ℕ} {result : HelperResult}
    (hevents : eventsOf i before = [⟨.helperState key, (state, false)⟩, ⟨.awaitHelper state, Awaited.done result⟩]) :
    ∃ req j own last, .execHelper req ∈ calls ∧ key = helperCacheKey req.target t.manifest ∧
      eventsOf j before = [⟨.helperState key, (state, true)⟩] ++ own ++ last ∧
      (t.ownHelperState req.target).Yields own result := by
  have hstates := run_helperStates hrun
  obtain ⟨before1, rest1, hbefore, -, hrest1⟩ := exists_of_eventsOf_eq_cons hevents
  obtain ⟨before2, rest2, rfl, -, -⟩ := exists_of_eventsOf_eq_cons hrest1
  have hshared : trace = before1 ++ (i, ⟨.helperState key, (state, false)⟩) ::
      (before2 ++ (i, ⟨.awaitHelper state, Awaited.done result⟩) :: (rest2 ++ rest)) := by
    rw [htrace, hbefore]
    simp
  have hawaited : trace = (before1 ++ (i, ⟨.helperState key, (state, false)⟩) :: before2) ++
      (i, ⟨.awaitHelper state, Awaited.done result⟩) :: (rest2 ++ rest) := by
    rw [hshared]
    simp
  have hentered : Entered trace key state := by
    obtain ⟨j, hj⟩ := hstates.shared before1 _ _ hshared key state rfl
    exact ⟨j, by rw [hshared]; exact List.mem_append_left _ hj⟩
  obtain ⟨j, key', hfinish⟩ := hstates.awaited _ _ _ hawaited state result rfl
  obtain ⟨before3, rest3, hbefore3⟩ := List.append_of_mem hfinish
  obtain ⟨later, hlater⟩ : ∃ later, before
      = before3 ++ (j, ⟨.finishHelperState key' state result, ()⟩) :: later := by
    refine ⟨rest3 ++ (i, ⟨.awaitHelper state, Awaited.done result⟩) :: rest2, ?_⟩
    rw [hbefore, ← List.cons_append, ← List.append_assoc, hbefore3]
    simp
  have hfilled : trace = before3 ++ (j, ⟨.finishHelperState key' state result, ()⟩) :: (later ++ rest) := by
    rw [htrace, hlater]
    simp
  obtain ⟨req, hreq, hkey, own, hown, hyields⟩ := run_filled hrun hfilled
  have hsplit : eventsOf j before = [⟨.helperState key', (state, true)⟩] ++ own ++
      eventsOf j ((j, ⟨Op.finishHelperState key' state result, ()⟩) :: later) := by
    rw [hlater, eventsOf_append, hown]
    rfl
  have hentered' : Entered trace key' state := by
    refine ⟨j, ?_⟩
    rw [htrace]
    refine List.mem_append_left rest (mem_eventsOf.mp ?_)
    rw [hsplit]
    simp
  obtain rfl := hstates.unique key key' state hentered hentered'
  exact ⟨req, j, own, _, hreq, hkey, hsplit, hyields⟩

/-- A lease is usable if no container restarts that a helper was copied into. -/
theorem leases_usable (hrun : t.system.Run (t.start pods calls) trace c) (hkeys : KeysApart t calls)
    (hcopies : KeepsCopies t instances trace) : LeasesUsable t calls instances trace := by
  intro before rest i req reference path htrace hcall hacquire hparse _
  obtain ⟨state, manifest, ⟨own, hevents, hown⟩ | hevents⟩ := acquire_yields hacquire
  · -- the call prepared the helper itself
    have hsplit : eventsOf (i + 1) before = [⟨.helperState (helperCacheKey req.target t.manifest), (state, true)⟩]
        ++ own ++ [⟨.finishHelperState (helperCacheKey req.target t.manifest) state (.ok (path, manifest)), ()⟩] := by
      rw [hevents]
      simp
    exact prepared_of_own hcopies htrace hsplit hown hparse
  · -- it waited for the goroutine that did
    obtain ⟨req', j, own, last, hreq', hkey, hsplit, hown⟩ := waited_for_own_key hrun htrace hevents
    have hparse' := hkeys req req' (List.mem_of_getElem? hcall) hreq' hkey
    exact prepared_of_own hcopies htrace hsplit hown (hparse' ▸ hparse)

end Leases

/-! ### Bound targets

The names in a bound target are names of Kubernetes objects, without slashes and zero bytes. For
such targets the cache keys are apart. -/

/-- A name that can stand between slashes, and before a zero byte. -/
structure Plain (name : GoString) : Prop where
  slash : Byte.slash ∉ name
  zero : 0 ∉ name

instance (name : GoString) : Decidable (Plain name) :=
  decidable_of_iff (Byte.slash ∉ name ∧ 0 ∉ name) ⟨fun h => ⟨h.1, h.2⟩, fun h => ⟨h.slash, h.zero⟩⟩

/-- The part of the target string for a container. -/
def containerPart (container : GoString) : GoString :=
  if container = [] then [] else str "/containers/" ++ container

theorem string_bind (pod : Pod) (container : GoString) : (PodTarget.bind pod container).string
    = str "kube/namespaces/" ++ (pod.ns ++ Byte.slash :: (str "pods/" ++ (pod.name ++ containerPart container))) := by
  unfold containerPart
  by_cases hcontainer : container = []
  · simp [PodTarget.bind, bindTo, new, Target.string, hcontainer, Target.kindPod, optionNamespaces,
      optionPods, str, Byte.slash]
  · simp [PodTarget.bind, bindTo, new, Target.string, hcontainer, Target.kindPod, optionNamespaces,
      optionPods, optionContainers, str, Byte.slash]

theorem zero_notMem_string_bind {pod : Pod} {container : GoString} (hns : Plain pod.ns) (hname : Plain pod.name)
    (hcontainer : Plain container) : 0 ∉ (PodTarget.bind pod container).string := by
  have hpart : 0 ∉ containerPart container := by
    unfold containerPart
    split
    · simp
    · exact List.not_mem_append (by decide) hcontainer.zero
  rw [string_bind]
  refine List.not_mem_append (by decide) (List.not_mem_append hns.zero ?_)
  refine List.not_mem_cons_of_ne_of_not_mem (by decide) (List.not_mem_append (by decide) ?_)
  exact List.not_mem_append hname.zero hpart

/-- The last part of the target string starts with a slash, which no name has. -/
theorem eq_of_name_append_containerPart {name name' container container' : GoString} (hname : Plain name)
    (hname' : Plain name') (h : name ++ containerPart container = name' ++ containerPart container') :
    name = name' ∧ container = container' := by
  have hcons : ∀ container : GoString, container ≠ [] →
      containerPart container = Byte.slash :: (str "containers/" ++ container) := fun container hne => if_neg hne
  have hnil : containerPart [] = [] := rfl
  by_cases hempty : container = [] <;> by_cases hempty' : container' = []
  · subst hempty hempty'
    rw [hnil, List.append_nil, List.append_nil] at h
    exact ⟨h, rfl⟩
  · subst hempty
    rw [hnil, List.append_nil, hcons container' hempty'] at h
    exact absurd (h ▸ by simp) hname.slash
  · subst hempty'
    rw [hnil, List.append_nil, hcons container hempty] at h
    exact absurd (h ▸ by simp) hname'.slash
  · rw [hcons container hempty, hcons container' hempty'] at h
    obtain ⟨rfl, hrest⟩ := Strings.append_cons_inj_of_notMem_left hname.slash hname'.slash h
    exact ⟨rfl, (List.append_cancel_left hrest).symm⟩

theorem eq_of_string_bind {pod pod' : Pod} {container container' : GoString} (hns : Plain pod.ns)
    (hns' : Plain pod'.ns) (hname : Plain pod.name) (hname' : Plain pod'.name)
    (h : (PodTarget.bind pod container).string = (PodTarget.bind pod' container').string) :
    pod.ns = pod'.ns ∧ pod.name = pod'.name ∧ container = container' := by
  rw [string_bind, string_bind] at h
  obtain ⟨hns, hrest⟩ :=
    Strings.append_cons_inj_of_notMem_left hns.slash hns'.slash (List.append_cancel_left h)
  obtain ⟨hname, hcontainer⟩ := eq_of_name_append_containerPart hname hname' (List.append_cancel_left hrest.symm)
  exact ⟨hns.symm, hname, hcontainer⟩

/-- The target is bound to a Pod, and its names are names of Kubernetes objects. -/
def Bound (tgt : Target) : Prop :=
  ∃ pod container, tgt = PodTarget.bind pod container ∧ Plain pod.ns ∧ Plain pod.name ∧ Plain container

/-- The container of a bound target can be read off its cache key. -/
theorem keysApart_of_bound {calls : List TransportCall}
    (hbound : ∀ req, .execHelper req ∈ calls → Bound req.target) : KeysApart t calls := by
  intro req req' hreq hreq' hkey
  obtain ⟨pod, container, htarget, hns, hname, hcontainer⟩ := hbound req hreq
  obtain ⟨pod', container', htarget', hns', hname', hcontainer'⟩ := hbound req' hreq'
  unfold helperCacheKey helperCachePrefix at hkey
  simp only [List.append_assoc, List.singleton_append] at hkey
  rw [htarget, htarget'] at hkey
  obtain ⟨hstring, -⟩ := Strings.append_cons_inj_of_notMem_left
    (zero_notMem_string_bind hns hname hcontainer) (zero_notMem_string_bind hns' hname' hcontainer') hkey
  obtain ⟨hns, hname, rfl⟩ := eq_of_string_bind hns hns' hname hname' hstring.symm
  rw [htarget, htarget', PodTarget.bind, PodTarget.bind, hns, hname]
  rfl

/-! ### A container that restarts -/

/-- A transport with a helper of one build. -/
def helperTransport : Transport where
  helperPath := str "/usr/local/bin/kube-ssh-helper"
  helperRemoteDir := []
  manifest := ⟨str "v1", str "abc", protocolVersion, []⟩
  lib := ⟨id, fun _ data => .ok data, fun _ => .ok ⟨str "v1", str "abc", protocolVersion, []⟩⟩

/-- The container, its target, and the path of the helper in it. -/
def appReference : Reference := ⟨str "default", str "web-0", str "app"⟩
def appTarget : Target := PodTarget.bind firstPod (str "app")
def appKey : GoString := helperCacheKey appTarget helperTransport.manifest
def appHelper : GoString := helperTransport.helperRemotePath appTarget

/-- Two sessions on the container run helper commands, one after the other. -/
def appSession : HelperExecRequest := { target := appTarget, capability := [], command := [str "serve"] }
def appSessions : List TransportCall := [.execHelper appSession, .execHelper appSession]

def appCopy : ExecRequest := copyRequest appTarget (shellCommand appHelper) (str "ELF")
def appVersion : ExecRequest := versionRequest appTarget appHelper

/-- The first session prepares the helper. -/
def firstLease : List (Event interface) :=
  [⟨.helperState appKey, ((0, true) : ℕ × Bool)⟩,
    ⟨.readHelper, (.ok (str "ELF") : Except Message GoString)⟩,
    ⟨.newExecutor (execPod appReference appCopy), (none : Option Message)⟩,
    ⟨.stream (execPod appReference appCopy) (streamOptions appCopy), executedIn firstPod.uid⟩,
    ⟨.newExecutor (execPod appReference appVersion), (none : Option Message)⟩,
    ⟨.stream (execPod appReference appVersion) (streamOptions appVersion), executedIn firstPod.uid⟩,
    ⟨.finishHelperState appKey 0 (.ok (appHelper, helperTransport.manifest)), ()⟩]

/-- The second one is given the path. -/
def secondLease : List (Event interface) :=
  [⟨.helperState appKey, ((0, false) : ℕ × Bool)⟩,
    ⟨.awaitHelper 0, Awaited.done (.ok (appHelper, helperTransport.manifest))⟩]

def leaseTrace : Trace := firstLease.map (1, ·) ++ secondLease.map (2, ·)

theorem run_leaseTrace :
    ∃ c, helperTransport.system.Run (helperTransport.start onlyFirst appSessions) leaseTrace c := by
  have hserved : ServedBy onlyFirst (execPod appReference appCopy) (some firstPod.uid) := by
    rintro uid ⟨⟩
    exact ⟨firstPod, rfl, rfl⟩
  have h0 := System.Run.start (c := helperTransport.start onlyFirst appSessions)
  have h1 := h0.perform 1 rfl ((0, true) : ℕ × Bool) rfl
  have h2 := h1.perform 1 rfl (.ok (str "ELF") : Except Message GoString) rfl
  have h3 := h2.perform 1 rfl (none : Option Message) rfl
  have h4 := h3.perform 1 rfl (executedIn firstPod.uid) ⟨rfl, hserved⟩
  have h5 := h4.perform 1 rfl (none : Option Message) rfl
  have h6 := h5.perform 1 rfl (executedIn firstPod.uid) ⟨rfl, hserved⟩
  have h7 := h6.perform 1 rfl () rfl
  have h8 := h7.perform 2 rfl ((0, false) : ℕ × Bool) rfl
  exact ⟨_, h8.perform 2 rfl (Awaited.done (.ok (appHelper, helperTransport.manifest))) ⟨rfl, rfl⟩⟩

theorem secondLease_yields : (helperTransport.acquire appSession.target appSession.capability).Yields
    (eventsOf 2 leaseTrace) (.ok appHelper) := .step (.step (.done _))

/-- The container does not restart, and the second session is given a helper that was copied into
it. -/
theorem leases_usable_second_session :
    ∃ c, helperTransport.system.Run (helperTransport.start onlyFirst appSessions) leaseTrace c ∧
      KeysApart helperTransport appSessions ∧ KeepsCopies helperTransport (fun _ _ => 0) leaseTrace ∧
      (helperTransport.acquire appSession.target appSession.capability).Yields (eventsOf 2 leaseTrace) (.ok appHelper) ∧
      Prepared helperTransport (fun _ _ => 0) appReference appHelper leaseTrace := by
  have hkeys : KeysApart helperTransport appSessions := keysApart_of_bound fun req hreq => by
    simp only [appSessions, List.mem_cons, TransportCall.execHelper.injEq, List.not_mem_nil, or_false, or_self] at hreq
    subst hreq
    exact ⟨firstPod, str "app", rfl, by decide, by decide, by decide⟩
  have hcopies : KeepsCopies helperTransport (fun _ _ => 0) leaseTrace := by
    intro first i event rest reference data path _ _ n _ _
    rfl
  obtain ⟨c, hrun⟩ := run_leaseTrace
  have husable := leases_usable hrun hkeys hcopies
  refine ⟨c, hrun, hkeys, hcopies, secondLease_yields, ?_⟩
  exact husable leaseTrace [] 1 appSession appReference appHelper (List.append_nil _).symm rfl
    secondLease_yields rfl fun _ _ _ _ _ _ _ => rfl

/-- The container restarts between the two sessions, and its Pod stays: the second session is given
a helper that nobody copied into the container that runs. -/
theorem lease_of_restarted_container :
    ∃ (c : helperTransport.system.Config) (instances : ℕ → Reference → ℕ),
      helperTransport.system.Run (helperTransport.start onlyFirst appSessions) leaseTrace c ∧
      (∀ entry ∈ leaseTrace, entry.2.op ≠ Op.change) ∧
      ¬ LeasesUsable helperTransport appSessions instances leaseTrace := by
  let instances : ℕ → Reference → ℕ := fun n _ => if n < 7 then 0 else 1
  have hrestarted : ∀ n, 7 ≤ n → instances n appReference = 1 := fun n hn => if_neg (by omega)
  have hnine : leaseTrace.length = 9 := rfl
  obtain ⟨c, hrun⟩ := run_leaseTrace
  refine ⟨c, instances, hrun, ?_, fun husable => ?_⟩
  · simp [leaseTrace, firstLease, secondLease]
  -- the second session starts after the restart
  have hduring : ∀ first event later, leaseTrace = first ++ (2, event) :: later → ∀ n, first.length ≤ n →
      n ≤ leaseTrace.length → instances n appReference = instances leaseTrace.length appReference := by
    intro first event later htrace n hn _
    have hfirst : 7 ≤ first.length := by
      by_contra! hlt
      have hget : leaseTrace[first.length]? = some (2, event) := by
        rw [htrace]
        simp
      rw [leaseTrace, List.getElem?_append_left (by exact hlt)] at hget
      obtain ⟨_, -, heq⟩ := List.mem_map.mp (List.mem_of_getElem? hget)
      cases heq
    rw [hrestarted n (by omega), hrestarted _ (by omega)]
  obtain ⟨i, data, copy, probe, first, between, last, htrace, -, hcopied, -, hinstance, -⟩ := husable leaseTrace []
    1 appSession appReference appHelper (List.append_nil _).symm rfl secondLease_yields rfl hduring
  -- so the copy would be the next event, which is none
  have hlength := congrArg List.length htrace
  simp only [List.length_append, List.length_cons] at hlength
  have hfirst : first.length = 7 := by
    by_contra hne
    have hbefore : instances first.length appReference = 0 := if_pos (by omega)
    rw [hbefore, hrestarted _ (by omega)] at hinstance
    cases hinstance
  have hget : leaseTrace[7]? = some (i, copy) := by
    rw [htrace, ← hfirst]
    simp
  obtain ⟨request, options, hop⟩ := hcopied.op
  cases hget
  cases hop

end KubeSsh.ApiServer

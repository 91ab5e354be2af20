import KubeSsh.PodSsh.CopyHelper
import KubeSsh.PodSsh.HelperLease

/-!
# `pkg/podssh/backend/apiserver`: one preparation at a time

What a goroutine of `Acquire` relies on at its stage (`Stage.Fact`) is about a state that it owns or
that is done, and nobody else writes such a state. So it holds along every run, with the accounts of
who began each state, of the entries of the cache and of the channels that are closed (`Account`).
-/

namespace KubeSsh.CopyHelper

open Backend PodTarget Prog
open ApiServer (HelperResult Transport validateHelperManifest helperCachePrefix helperTransport
  appTarget appKey)

abbrev Trace := List (ℕ × Event interface)

/-- A goroutine entered a state into the cache, and has to prepare it. -/
def Began (trace : Trace) (i : ℕ) (key : GoString) (state : ℕ) : Prop :=
  (i, ⟨.helperState key, (state, true)⟩) ∈ trace

/-- A goroutine found a state in the cache. -/
def Joined (trace : Trace) (i : ℕ) (key : GoString) (state : ℕ) : Prop :=
  (i, ⟨.helperState key, (state, false)⟩) ∈ trace

/-- What `Acquire` returns for a state that is done (`helper_copy.go:82-89`). -/
def State.lease (t : Transport) (state : State) (capability : GoString) : Except Message GoString :=
  match state.err with
  | some err => .error err
  | none =>
    match validateHelperManifest state.manifest t.manifest capability with
    | some err => .error err
    | none => .ok state.path

/-- Why an `Acquire` returns a result: there is no helper to copy, its own context has ended while
it waited, or the state that it got is done and has that result. -/
def Explained (t : Transport) (trace : Trace) (world : World) (i : ℕ) (a : Acquire)
    (result : Except Message GoString) : Prop :=
  t.helperPath = [] ∧ result = .error (errNoHelper a.capability) ∨
  (∃ state err, Joined trace i (a.key t) state ∧ world.contexts a.ctx = some err ∧ result = .error err) ∨
  ∃ state found, (Began trace i (a.key t) state ∨ Joined trace i (a.key t) state) ∧
    world.states[state]? = some found ∧ found.done = true ∧ result = found.lease t a.capability

/-- The event writes, removes or closes a state. -/
def Op.touches (state : ℕ) : Op → Prop
  | .setResult state' _ | .removeFailed _ state' | .closeDone state' => state' = state
  | _ => False

section Facts

variable (t : Transport) (trace : Trace) (world : World) (i : ℕ) (a : Acquire)

/-- The goroutine got a state, which is done. -/
def Got (state : ℕ) (P : State → Prop) : Prop :=
  (Began trace i (a.key t) state ∨ Joined trace i (a.key t) state) ∧
    ∃ found, world.states[state]? = some found ∧ found.done = true ∧ P found

/-- The goroutine has to prepare a state, which is not done. -/
def Owns (state : ℕ) (P : State → Prop) : Prop :=
  Began trace i (a.key t) state ∧ ∃ found, world.states[state]? = some found ∧ found.done = false ∧ P found

/-- What holds of a goroutine at its stage. -/
def Stage.Fact : Stage → Prop
  | .before => True
  | .over => ∃ result, (i, ⟨.returned result, ()⟩) ∈ trace
  | .owning state _ =>
    Owns t trace world i a state fun _ => ∀ entry ∈ trace, ¬ entry.2.op.touches state
  | .filled state | .finished state =>
    Owns t trace world i a state fun _ => ∃ j result, (j, ⟨.setResult state result, ()⟩) ∈ trace
  | .waiting state => Joined trace i (a.key t) state
  | .done state => Got t trace world i a state fun _ => True
  | .succeeded state => Got t trace world i a state fun found => found.err = none
  | .validated state manifest => Got t trace world i a state fun found => found.err = none ∧
    found.manifest = manifest ∧ validateHelperManifest manifest t.manifest a.capability = none
  | .returning result => Explained t trace world i a result

end Facts

def closes (state : ℕ) : Event interface → Bool
  | ⟨.closeDone state', _⟩ => state' = state
  | _ => false

def World.isDone (world : World) (state : ℕ) : Bool := (world.states[state]?).any (·.done)

/-- The state was begun, and its preparation has not ended. -/
def InProgress (trace : Trace) (key : GoString) (state : ℕ) : Prop :=
  (∃ i, Began trace i key state) ∧ ∀ i key', (i, ⟨.removeFailed key' state, ()⟩) ∉ trace

/-- The key was invalidated after the first state was begun, and before the second was. -/
def Parted (trace : Trace) (key : GoString) (state : ℕ) (later : Trace → Prop) : Prop :=
  ∃ before j tgt rest, trace = before ++ (j, ⟨.invalidate tgt, ()⟩) :: rest ∧
    helperCachePrefix tgt <+: key ∧ (∃ i, Began before i key state) ∧ later before

/-- What holds along every run of what happened, the cache and the stages of the goroutines. -/
structure Account (t : Transport) (calls : List Call) (trace : Trace) (world : World)
    (doings : List Doing) : Prop where
  caller : ∀ (i : ℕ) a stage, doings[i]? = some (.acquire a stage) → calls[i]? = some (.acquire a)
  doing : ∀ (i : ℕ) a, calls[i]? = some (.acquire a) → ∃ stage, doings[i]? = some (.acquire a stage)
  facts : ∀ (i : ℕ) a stage, doings[i]? = some (.acquire a stage) → stage.Fact t trace world i a
  began : ∀ i key state, Began trace i key state → state < world.states.length
  unique : ∀ i j key key' state, Began trace i key state → Began trace j key' state → i = j ∧ key = key'
  helpers : ∀ key state, world.helpers.lookup key = some state → ∃ i, Began trace i key state
  joined : ∀ i key state, Joined trace i key state → ∃ j, Began trace j key state
  touched : ∀ i op answer state, (i, ⟨op, answer⟩) ∈ trace → op.touches state → ∃ key, Began trace i key state
  written : ∀ i state result, (i, ⟨.setResult state result, ()⟩) ∈ trace →
    ∃ found, world.states[state]? = some found ∧ found.fill result = found
  filled : ∀ state found, world.states[state]? = some found → found.done = true →
    ∃ i result, (i, ⟨.setResult state result, ()⟩) ∈ trace
  held : ∀ state < world.states.length, world.isDone state = true ∨
    ∃ (i : ℕ) (d : Doing), doings[i]? = some d ∧ d.owns state
  closed : ∀ state, trace.countP (closes state ·.2) = (world.isDone state).toNat
  removed : ∀ i key state, (i, ⟨.removeFailed key state, ()⟩) ∈ trace → ∀ found,
    world.states[state]? = some found → found.err ≠ none → ∀ key', world.helpers.lookup key' ≠ some state
  gone : ∀ before i key state rest, trace = before ++ (i, ⟨.removeFailed key state, ()⟩) :: rest →
    ∀ found, world.states[state]? = some found → found.err ≠ none →
      ∀ j key' owner, (j, ⟨.helperState key', (state, owner)⟩) ∉ rest
  returned : ∀ i result, (i, ⟨.returned result, ()⟩) ∈ trace → ∃ a, calls[i]? = some (.acquire a) ∧
    Explained t trace world i a result
  current : ∀ key state, InProgress trace key state → world.helpers.lookup key = some state ∨
    Parted trace key state fun _ => True
  parted : ∀ key state state', state < state' → InProgress trace key state → (∃ i, Began trace i key state') →
    Parted trace key state fun before => ∀ i, ¬ Began before i key state'

section Steps

variable {t : Transport} {wanted : GoString → Prop} {calls : List Call} {trace trace' : Trace} {world world' : World}
  {doings : List Doing} {event : Event interface} {d d' : Doing} {i j : ℕ} {a : Acquire} {stage : Stage}
  {state : ℕ} {found : State} {key : GoString}

/-! ### What a step keeps -/

theorem removeFailed_states (world : World) (key : GoString) (state : ℕ) :
    (world.removeFailed key state).states = world.states := by
  unfold World.removeFailed
  split <;> rfl

theorem removeFailed_contexts (world : World) (key : GoString) (state : ℕ) :
    (world.removeFailed key state).contexts = world.contexts := by
  unfold World.removeFailed
  split <;> rfl

theorem fill_done (found : State) (result : HelperResult) : (found.fill result).done = found.done := by
  cases result <;> rfl

theorem modify_of_some {states : List State} (h : states[state]? = some found) (f : State → State) :
    (states.modify state f)[state]? = some (f found) := by
  rw [List.getElem?_modify_eq, h]
  rfl

theorem lookup_foldl_erase (keys : List GoString) (helpers : GoMap ℕ) (key : GoString) :
    (keys.foldl (fun helpers key => helpers.erase key) helpers).lookup key =
      if key ∈ keys then none else helpers.lookup key := by
  induction keys generalizing helpers with
  | nil => rfl
  | cons first keys ih =>
    rw [List.foldl_cons, ih]
    by_cases hkey : key = first
    · subst hkey
      simp
    · simp [hkey, AList.lookup_erase_ne hkey]

/-- `Invalidate` removes the keys with the prefix of the target. -/
theorem lookup_invalidate (world : World) (tgt : Target) (key : GoString) :
    (world.invalidate tgt).helpers.lookup key =
      if helperCachePrefix tgt <+: key then none else world.helpers.lookup key := by
  unfold World.invalidate
  rw [lookup_foldl_erase]
  by_cases hkey : key ∈ world.helpers
  · simp [List.mem_filter, AList.mem_keys.mp hkey]
  · rw [AList.lookup_eq_none.mpr hkey, ite_self, ite_self]

theorem lookup_removeFailed (world : World) (key : GoString) (state : ℕ) (key' : GoString) :
    (world.removeFailed key state).helpers.lookup key' =
      if key' = key ∧ (∃ found ∈ world.states[state]?, found.err ≠ none) ∧ world.helpers.lookup key = some state
      then none else world.helpers.lookup key' := by
  unfold World.removeFailed
  by_cases hkey : key' = key
  · subst hkey
    split
    · rename_i hcond
      rw [if_pos ⟨rfl, hcond⟩]
      exact AList.lookup_erase key' world.helpers
    · rename_i hcond
      rw [if_neg fun h => hcond h.2]
  · rw [if_neg (fun h : key' = key ∧ _ => hkey h.1)]
    split
    · exact AList.lookup_erase_ne hkey
    · rfl

theorem fill_fill (found : State) (result : HelperResult) : (found.fill result).fill result = found.fill result := by
  cases result <;> rfl

theorem fill_eq_of_fields {found' : State} {result : HelperResult} (h : found.fill result = found)
    (hfields : found'.path = found.path ∧ found'.manifest = found.manifest ∧ found'.err = found.err) :
    found'.fill result = found' := by
  obtain ⟨done, path, manifest, err⟩ := found
  obtain ⟨done', path', manifest', err'⟩ := found'
  obtain ⟨rfl, rfl, rfl⟩ := hfields
  cases result <;> simp_all [State.fill]

/-- A state that the goroutine does not own stays as it is. -/
theorem Step.frame (hstep : Step t wanted event world d world' d') (hfound : world.states[state]? = some found)
    (hd : ¬ d.owns state) : world'.states[state]? = some found := by
  cases hstep with
  | begin => exact (List.getElem?_append_left (List.getElem?_eq_some_iff.mp hfound).1).trans hfound
  | fill | close => exact (List.getElem?_modify_ne _ _ hd).trans hfound
  | finish =>
    rw [removeFailed_states]
    exact hfound
  | _ => exact hfound

theorem Step.contexts (hstep : Step t wanted event world d world' d') {ctx : ℕ} {err : Message}
    (h : world.contexts ctx = some err) : world'.contexts ctx = some err := by
  cases hstep with
  | finish =>
    rw [removeFailed_contexts]
    exact h
  | cancel =>
    rename_i ctx' err'
    by_cases hctx : ctx = ctx'
    · subst hctx
      simp [World.cancel, h]
    · simp [World.cancel, hctx, h]
  | _ => exact h

theorem Step.length (hstep : Step t wanted event world d world' d') :
    world.states.length ≤ world'.states.length := by
  cases hstep with
  | begin =>
    rw [List.length_append]
    exact Nat.le_add_right _ _
  | fill | close => exact (List.length_modify _ _ _).ge
  | finish => exact (removeFailed_states ..).symm ▸ Nat.le_refl _
  | _ => exact Nat.le_refl _

theorem exists_of_modify {states : List State} {state' : ℕ} {f : State → State}
    (h : (states.modify state' f)[state]? = some found) :
    ∃ found', states[state]? = some found' ∧ found = if state' = state then f found' else found' := by
  rw [List.getElem?_modify] at h
  obtain ⟨found', hfound', rfl⟩ := Option.map_eq_some_iff.mp h
  exact ⟨found', hfound', rfl⟩

/-- A state gets done when its owner closes it. -/
theorem Step.done (hstep : Step t wanted event world d world' d') (hfound : world'.states[state]? = some found)
    (hdone : found.done = true) : (∃ found', world.states[state]? = some found' ∧ found'.done = true) ∨
      ∃ a, d = .acquire a (.finished state) ∧ event = ⟨.closeDone state, ()⟩ := by
  cases hstep with
  | begin =>
    by_cases hlt : state < world.states.length
    · exact Or.inl ⟨found, (List.getElem?_append_left hlt).symm.trans hfound, hdone⟩
    · have hnew := (List.getElem?_append_right (Nat.le_of_not_lt hlt)).symm.trans hfound
      obtain rfl : found = {} := List.mem_singleton.mp (List.mem_of_getElem? hnew)
      cases hdone
  | fill =>
    obtain ⟨found', hfound', rfl⟩ := exists_of_modify hfound
    refine Or.inl ⟨found', hfound', ?_⟩
    split at hdone
    · rwa [fill_done] at hdone
    · exact hdone
  | close =>
    obtain ⟨found', hfound', rfl⟩ := exists_of_modify hfound
    split at hdone
    · rename_i hstate
      subst hstate
      exact Or.inr ⟨_, rfl, rfl⟩
    · exact Or.inl ⟨found', hfound', hdone⟩
  | finish =>
    rw [removeFailed_states] at hfound
    exact Or.inl ⟨found, hfound, hdone⟩
  | _ => exact Or.inl ⟨found, hfound, hdone⟩

theorem isDone_iff : world.isDone state = true ↔ ∃ found, world.states[state]? = some found ∧ found.done = true := by
  rw [World.isDone, Option.any_eq_true]

theorem isDone_eq_false (hfound : world.states[state]? = some found) (hopen : found.done = false) :
    world.isDone state = false := by
  rw [World.isDone, hfound]
  exact hopen

theorem Step.touches (hstep : Step t wanted event world d world' d') (h : event.op.touches state) :
    d.owns state := by
  cases hstep with
  | fill | finish | close => exact h
  | _ => exact h.elim

/-- The states that are done stay as they are. -/
def KeepsDone (world world' : World) : Prop :=
  ∀ (state : ℕ) (found : State), world.states[state]? = some found → found.done = true →
    world'.states[state]? = some found

theorem touches_of_closes (h : closes state event = true) : event.op.touches state := by
  obtain ⟨op, answer⟩ := event
  cases op with
  | closeDone state' => exact of_decide_eq_true (p := state' = state) h
  | _ => cases h

theorem Step.closes (hstep : Step t wanted event world d world' d') (h : closes state event = true)
    (hfound : world.states[state]? = some found) : world'.isDone state = true := by
  cases hstep with
  | close =>
    obtain rfl := of_decide_eq_true h
    exact isDone_iff.mpr ⟨_, modify_of_some hfound _, rfl⟩
  | _ => cases h

theorem Got.mono {P : State → Prop} (h : Got t trace world j a state P) (hsub : trace ⊆ trace')
    (hdone : KeepsDone world world') : Got t trace' world' j a state P := by
  obtain ⟨hgot, found, hfound, hd, hP⟩ := h
  exact ⟨hgot.imp (hsub ·) (hsub ·), found, hdone state found hfound hd, hd, hP⟩

theorem Explained.mono {result : Except Message GoString} (h : Explained t trace world j a result)
    (hsub : trace ⊆ trace') (hdone : KeepsDone world world')
    (hctx : ∀ ctx err, world.contexts ctx = some err → world'.contexts ctx = some err) :
    Explained t trace' world' j a result := by
  rcases h with h | ⟨state, err, hjoined, herr, hresult⟩ | ⟨state, found, hgot, hfound, hd, hresult⟩
  · exact Or.inl h
  · exact Or.inr (Or.inl ⟨state, err, hsub hjoined, hctx _ _ herr, hresult⟩)
  · exact Or.inr (Or.inr ⟨state, found, hgot.imp (hsub ·) (hsub ·), hdone _ _ hfound hd, hd, hresult⟩)

/-- What a goroutine relies on is about its own state and about states that are done. -/
theorem Stage.Fact.mono (h : stage.Fact t trace world j a) (hsub : trace ⊆ trace')
    (hdone : KeepsDone world world')
    (hown : ∀ state (found : State), stage.owns state → world.states[state]? = some found →
      world'.states[state]? = some found)
    (htouch : ∀ state, stage.owns state → ∀ entry ∈ trace', entry.2.op.touches state → entry ∈ trace)
    (hctx : ∀ ctx err, world.contexts ctx = some err → world'.contexts ctx = some err) :
    stage.Fact t trace' world' j a := by
  cases stage with
  | before => trivial
  | «over» => exact h.imp fun _ hmem => hsub hmem
  | owning state good =>
    obtain ⟨hbegan, found, hfound, hd, huntouched⟩ := h
    refine ⟨hsub hbegan, found, hown state found rfl hfound, hd, fun entry hentry htouches => ?_⟩
    exact huntouched entry (htouch state rfl entry hentry htouches) htouches
  | filled state =>
    obtain ⟨hbegan, found, hfound, hd, k, result, hmem⟩ := h
    exact ⟨hsub hbegan, found, hown state found rfl hfound, hd, k, result, hsub hmem⟩
  | finished state =>
    obtain ⟨hbegan, found, hfound, hd, k, result, hmem⟩ := h
    exact ⟨hsub hbegan, found, hown state found rfl hfound, hd, k, result, hsub hmem⟩
  | waiting state => exact hsub h
  | done state => exact Got.mono h hsub hdone
  | succeeded state => exact Got.mono h hsub hdone
  | validated state manifest => exact Got.mono h hsub hdone
  | returning result => exact Explained.mono h hsub hdone hctx

/-! ### The accounts -/

/-- The owner of a state began it, and has not closed its channel. -/
theorem Account.owner (h : Account t calls trace world doings) (hi : doings[i]? = some d) (hd : d.owns state) :
    (∃ key, Began trace i key state) ∧ ∃ found, world.states[state]? = some found ∧ found.done = false := by
  cases d with
  | other => exact hd.elim
  | acquire a stage =>
    have hfact := h.facts i a stage hi
    cases stage with
    | owning state' good =>
      obtain rfl : state' = state := hd
      exact ⟨⟨_, hfact.1⟩, hfact.2.imp fun found hfound => ⟨hfound.1, hfound.2.1⟩⟩
    | filled state' =>
      obtain rfl : state' = state := hd
      exact ⟨⟨_, hfact.1⟩, hfact.2.imp fun found hfound => ⟨hfound.1, hfound.2.1⟩⟩
    | finished state' =>
      obtain rfl : state' = state := hd
      exact ⟨⟨_, hfact.1⟩, hfact.2.imp fun found hfound => ⟨hfound.1, hfound.2.1⟩⟩
    | _ => exact hd.elim

theorem Account.not_owns_of_done (h : Account t calls trace world doings) (hi : doings[i]? = some d)
    (hfound : world.states[state]? = some found) (hdone : found.done = true) : ¬ d.owns state := by
  intro hd
  obtain ⟨-, found', hfound', hopen⟩ := h.owner hi hd
  cases hfound.symm.trans hfound'
  cases hdone.symm.trans hopen

theorem Account.owner_unique (h : Account t calls trace world doings) {d1 d2 : Doing}
    (hi : doings[i]? = some d1) (hj : doings[j]? = some d2) (h1 : d1.owns state) (h2 : d2.owns state) : i = j := by
  obtain ⟨⟨key, hkey⟩, -⟩ := h.owner hi h1
  obtain ⟨⟨key', hkey'⟩, -⟩ := h.owner hj h2
  exact (h.unique i j key key' state hkey hkey').1

section Account

variable (h : Account t calls trace world doings) (hi : doings[i]? = some d)
  (hstep : Step t wanted event world d world' d')

include h hi hstep

theorem Account.keepsDone : KeepsDone world world' := fun _ _ hfound hdone =>
  hstep.frame hfound (h.not_owns_of_done hi hfound hdone)

theorem Account.facts_step (hj : (doings.set i d' ++ [])[j]? = some (.acquire a stage)) :
    stage.Fact t (trace ++ [(i, event)]) world' j a := by
  have hsub : trace ⊆ trace ++ [(i, event)] := List.subset_append_left _ _
  have hlast : (i, event) ∈ trace ++ [(i, event)] := List.mem_append_right _ (List.mem_singleton.mpr rfl)
  have hdone : KeepsDone world world' := h.keepsDone hi hstep
  rcases System.getElem?_step hi hj with ⟨rfl, rfl⟩ | ⟨hne, hj⟩ | ⟨-, hnone⟩
  · cases hstep with
    | begin hnone =>
      refine ⟨hlast, {}, List.getElem?_concat_length, rfl, fun entry hentry htouches => ?_⟩
      rcases List.mem_append.mp hentry with hentry | hentry
      · obtain ⟨key, hbegan⟩ := h.touched entry.1 entry.2.op entry.2.answer _ hentry htouches
        exact absurd (h.began _ _ _ hbegan) (Nat.lt_irrefl _)
      · obtain rfl := List.mem_singleton.mp hentry
        exact htouches
    | join hsome => exact hlast
    | work =>
      obtain ⟨hbegan, found, hfound, hopen, huntouched⟩ := h.facts j _ _ hi
      refine ⟨hsub hbegan, found, hfound, hopen, fun entry hentry htouches => ?_⟩
      rcases List.mem_append.mp hentry with hentry | hentry
      · exact huntouched entry hentry htouches
      · obtain rfl := List.mem_singleton.mp hentry
        exact htouches
    | fill hgood =>
      rename_i result
      obtain ⟨hbegan, found, hfound, hopen, huntouched⟩ := h.facts j _ _ hi
      refine ⟨hsub hbegan, found.fill result, modify_of_some hfound _, ?_, j, result, hlast⟩
      rw [fill_done, hopen]
    | finish =>
      obtain ⟨hbegan, found, hfound, hopen, k, result, hmem⟩ := h.facts j _ _ hi
      refine ⟨hsub hbegan, found, ?_, hopen, k, result, hsub hmem⟩
      rw [removeFailed_states]
      exact hfound
    | close =>
      obtain ⟨hbegan, found, hfound, -, -⟩ := h.facts j _ _ hi
      exact ⟨Or.inl (hsub hbegan), { found with done := true }, modify_of_some hfound _, rfl, trivial⟩
    | arrive hfound hd => exact ⟨Or.inr (hsub (h.facts j _ _ hi)), _, hfound, hd, trivial⟩
    | giveUp hctx => exact Or.inr (Or.inl ⟨_, _, hsub (h.facts j _ _ hi), hctx, rfl⟩)
    | failed hfound herr =>
      obtain ⟨hgot, found, hfound', hd, -⟩ := h.facts j _ _ hi
      cases hfound.symm.trans hfound'
      refine Or.inr (Or.inr ⟨_, _, hgot.imp (hsub ·) (hsub ·), hfound, hd, ?_⟩)
      rw [State.lease, herr]
    | succeed hfound herr =>
      obtain ⟨hgot, found, hfound', hd, -⟩ := h.facts j _ _ hi
      cases hfound.symm.trans hfound'
      exact ⟨hgot.imp (hsub ·) (hsub ·), _, hfound, hd, herr⟩
    | refuse hfound hinvalid =>
      obtain ⟨hgot, found, hfound', hd, herr⟩ := h.facts j _ _ hi
      cases hfound.symm.trans hfound'
      refine Or.inr (Or.inr ⟨_, _, hgot.imp (hsub ·) (hsub ·), hfound, hd, ?_⟩)
      rw [State.lease, herr, hinvalid]
    | validate hfound hvalid =>
      obtain ⟨hgot, found, hfound', hd, herr⟩ := h.facts j _ _ hi
      cases hfound.symm.trans hfound'
      exact ⟨hgot.imp (hsub ·) (hsub ·), _, hfound, hd, herr, rfl, hvalid⟩
    | lease hfound =>
      obtain ⟨hgot, found, hfound', hd, herr, rfl, hvalid⟩ := h.facts j _ _ hi
      cases hfound.symm.trans hfound'
      refine Or.inr (Or.inr ⟨_, _, hgot.imp (hsub ·) (hsub ·), hfound, hd, ?_⟩)
      rw [State.lease, herr, hvalid]
    | returned | unconfigured => exact ⟨_, hlast⟩
  · refine (h.facts j a stage hj).mono hsub hdone ?_ ?_ fun _ _ => hstep.contexts
    · exact fun state found hown hfound => hstep.frame hfound fun hd => hne (h.owner_unique hj hi hown hd)
    · intro state hown entry hentry htouches
      rcases List.mem_append.mp hentry with hentry | hentry
      · exact hentry
      · obtain rfl := List.mem_singleton.mp hentry
        exact absurd (h.owner_unique hj hi hown (hstep.touches htouches)) hne
  · cases hnone

theorem Account.caller_step (hj : (doings.set i d' ++ [])[j]? = some (.acquire a stage)) :
    calls[j]? = some (.acquire a) := by
  rcases System.getElem?_step hi hj with ⟨rfl, rfl⟩ | ⟨-, hj⟩ | ⟨-, hnone⟩
  · cases hstep <;> exact h.caller j a _ hi
  · exact h.caller j a stage hj
  · cases hnone

theorem Account.doing_step (hj : calls[j]? = some (.acquire a)) :
    ∃ stage, (doings.set i d' ++ [])[j]? = some (.acquire a stage) := by
  obtain ⟨stage, hstage⟩ := h.doing j a hj
  by_cases hij : i = j
  · subst hij
    cases hi.symm.trans hstage
    have hself := System.getElem?_step_self hi d' []
    cases hstep <;> exact ⟨_, hself⟩
  · exact ⟨stage, System.getElem?_step_ne hstage hij d' []⟩

omit h hi in
/-- A goroutine begins a state that is new. -/
theorem Step.began (hbegan : Began (trace ++ [(i, event)]) j key state) : Began trace j key state ∨
    j = i ∧ state = world.states.length ∧ world.helpers.lookup key = none ∧ d'.owns state ∧
      world' = { world with helpers := world.helpers.insert key state, states := world.states ++ [{}] } := by
  rcases List.mem_append.mp hbegan with hmem | hmem
  · exact Or.inl hmem
  · obtain ⟨rfl, rfl⟩ := Prod.mk.inj (List.mem_singleton.mp hmem)
    cases hstep with
    | begin hnone => exact Or.inr ⟨rfl, rfl, hnone, rfl, rfl⟩

omit hi in
theorem Account.began_step (hbegan : Began (trace ++ [(i, event)]) j key state) :
    state < world'.states.length := by
  rcases hstep.began hbegan with hbegan | ⟨-, rfl, -, -, rfl⟩
  · exact Nat.lt_of_lt_of_le (h.began _ _ _ hbegan) hstep.length
  · simp

omit hi in
theorem Account.unique_step {j' : ℕ} {key' : GoString} (hj : Began (trace ++ [(i, event)]) j key state)
    (hj' : Began (trace ++ [(i, event)]) j' key' state) : j = j' ∧ key = key' := by
  rcases hstep.began hj with hbegan | ⟨-, hnew, -⟩
  · rcases hstep.began hj' with hbegan' | ⟨-, hnew, -⟩
    · exact h.unique _ _ _ _ _ hbegan hbegan'
    · exact absurd (h.began _ _ _ hbegan) (hnew ▸ Nat.lt_irrefl _)
  · have hold {k : ℕ} {key : GoString} (hbegan : Began trace k key state) : False :=
      absurd (h.began _ _ _ hbegan) (hnew ▸ Nat.lt_irrefl _)
    rcases List.mem_append.mp hj with hj | hj
    · exact (hold hj).elim
    rcases List.mem_append.mp hj' with hj' | hj'
    · exact (hold hj').elim
    cases (List.mem_singleton.mp hj).trans (List.mem_singleton.mp hj').symm
    exact ⟨rfl, rfl⟩

omit hi in
theorem Account.helpers_step (hlookup : world'.helpers.lookup key = some state) :
    ∃ j, Began (trace ++ [(i, event)]) j key state := by
  have hold (hlookup : world.helpers.lookup key = some state) : ∃ k, Began (trace ++ [(i, event)]) k key state :=
    (h.helpers key state hlookup).imp fun _ hk => List.mem_append_left _ hk
  cases hstep with
  | begin hnone =>
    rename_i a
    by_cases hkey : key = a.key t
    · subst hkey
      obtain rfl := Option.some.inj ((AList.lookup_insert _).symm.trans hlookup)
      exact ⟨i, List.mem_append_right _ (List.mem_singleton.mpr rfl)⟩
    · exact hold ((AList.lookup_insert_ne hkey).symm.trans hlookup)
  | finish =>
    rw [lookup_removeFailed] at hlookup
    split at hlookup
    · cases hlookup
    · exact hold hlookup
  | invalidate =>
    rw [lookup_invalidate] at hlookup
    split at hlookup
    · cases hlookup
    · exact hold hlookup
  | _ => exact hold hlookup

omit hi in
theorem Account.joined_step (hjoined : Joined (trace ++ [(i, event)]) j key state) :
    ∃ k, Began (trace ++ [(i, event)]) k key state := by
  have hold (h : ∃ k, Began trace k key state) : ∃ k, Began (trace ++ [(i, event)]) k key state :=
    h.imp fun _ hk => List.mem_append_left _ hk
  rcases List.mem_append.mp hjoined with hmem | hmem
  · exact hold (h.joined j key state hmem)
  · obtain ⟨rfl, rfl⟩ := Prod.mk.inj (List.mem_singleton.mp hmem)
    cases hstep with
    | join hsome => exact hold (h.helpers _ state hsome)

theorem Account.touched_step {op : Op} {answer : op.Answer} (hmem : (j, ⟨op, answer⟩) ∈ trace ++ [(i, event)])
    (htouches : op.touches state) : ∃ key, Began (trace ++ [(i, event)]) j key state := by
  rcases List.mem_append.mp hmem with hmem | hmem
  · exact (h.touched j op answer state hmem htouches).imp fun _ hkey => List.mem_append_left _ hkey
  · obtain ⟨rfl, rfl⟩ := Prod.mk.inj (List.mem_singleton.mp hmem)
    exact (h.owner hi (hstep.touches htouches)).1.imp fun _ hkey => List.mem_append_left _ hkey

/-- The fields of a state that was touched do not change. -/
theorem Account.fields_step {entry : ℕ × Event interface} (hmem : entry ∈ trace)
    (htouches : entry.2.op.touches state) (hfound : world.states[state]? = some found) :
    ∃ found', world'.states[state]? = some found' ∧ found'.path = found.path ∧
      found'.manifest = found.manifest ∧ found'.err = found.err := by
  by_cases hd : d.owns state
  · cases hstep with
    | fill hgood =>
      obtain rfl := hd
      exact absurd htouches ((h.facts i _ _ hi).2.choose_spec.2.2 entry hmem)
    | finish =>
      refine ⟨found, ?_, rfl, rfl, rfl⟩
      rw [removeFailed_states]
      exact hfound
    | close =>
      obtain rfl := hd
      exact ⟨_, modify_of_some hfound _, rfl, rfl, rfl⟩
    | begin hnone => exact hd.elim
    | work => exact ⟨found, hfound, rfl, rfl, rfl⟩
    | _ => exact hd.elim
  · exact ⟨found, hstep.frame hfound hd, rfl, rfl, rfl⟩

theorem Account.written_step {result : HelperResult}
    (hmem : (j, ⟨.setResult state result, ()⟩) ∈ trace ++ [(i, event)]) :
    ∃ found, world'.states[state]? = some found ∧ found.fill result = found := by
  rcases List.mem_append.mp hmem with hmem | hmem
  · obtain ⟨found, hfound, hfill⟩ := h.written j state result hmem
    obtain ⟨found', hfound', hfields⟩ := h.fields_step hi hstep hmem rfl hfound
    exact ⟨found', hfound', fill_eq_of_fields hfill hfields⟩
  · obtain ⟨rfl, rfl⟩ := Prod.mk.inj (List.mem_singleton.mp hmem)
    cases hstep with
    | fill hgood =>
      obtain ⟨-, found, hfound, -⟩ := h.facts j _ _ hi
      exact ⟨found.fill result, modify_of_some hfound _, fill_fill found result⟩

theorem Account.filled_step (hfound : world'.states[state]? = some found) (hdone : found.done = true) :
    ∃ j result, (j, ⟨.setResult state result, ()⟩) ∈ trace ++ [(i, event)] := by
  have hold (h : ∃ j result, (j, (⟨.setResult state result, ()⟩ : Event interface)) ∈ trace) :
      ∃ j result, (j, ⟨.setResult state result, ()⟩) ∈ trace ++ [(i, event)] :=
    h.imp fun _ => Exists.imp fun _ hmem => List.mem_append_left _ hmem
  rcases hstep.done hfound hdone with ⟨found', hfound', hdone'⟩ | ⟨a, rfl, -⟩
  · exact hold (h.filled state found' hfound' hdone')
  · obtain ⟨-, -, -, -, hmem⟩ := h.facts i _ _ hi
    exact hold hmem

omit h hi in
/-- The cache gets no entry for a state that is not new. -/
theorem Step.lookup (hlt : state < world.states.length)
    (hlookup : world'.helpers.lookup key = some state) : world.helpers.lookup key = some state := by
  cases hstep with
  | begin hnone =>
    rename_i a
    by_cases hkey : key = a.key t
    · subst hkey
      obtain rfl := Option.some.inj ((AList.lookup_insert _).symm.trans hlookup)
      exact absurd hlt (Nat.lt_irrefl _)
    · exact (AList.lookup_insert_ne hkey).symm.trans hlookup
  | finish =>
    rw [lookup_removeFailed] at hlookup
    split at hlookup
    · cases hlookup
    · exact hlookup
  | invalidate =>
    rw [lookup_invalidate] at hlookup
    split at hlookup
    · cases hlookup
    · exact hlookup
  | _ => exact hlookup

theorem Account.isDone_step (hdone : world.isDone state = true) : world'.isDone state = true := by
  obtain ⟨found, hfound, hdone⟩ := isDone_iff.mp hdone
  exact isDone_iff.mpr ⟨found, h.keepsDone hi hstep state found hfound hdone, hdone⟩

omit h hi in
/-- A goroutine owns a state until it closes it. -/
theorem Step.owns (hd : d.owns state) (hfound : world.states[state]? = some found) :
    d'.owns state ∨ world'.isDone state = true := by
  cases hstep with
  | work | fill | finish => exact Or.inl hd
  | close =>
    obtain rfl := hd
    exact Or.inr (isDone_iff.mpr ⟨_, modify_of_some hfound _, rfl⟩)
  | _ => exact hd.elim

omit h hi in
/-- The states that are new belong to the goroutine that began them. -/
theorem Step.fresh (hlt : state < world'.states.length) : state < world.states.length ∨ d'.owns state := by
  cases hstep with
  | begin =>
    rw [List.length_append, List.length_singleton] at hlt
    rcases Nat.lt_succ_iff_lt_or_eq.mp hlt with hlt | rfl
    · exact Or.inl hlt
    · exact Or.inr rfl
  | fill | close => exact Or.inl ((List.length_modify _ _ _) ▸ hlt)
  | finish => exact Or.inl ((removeFailed_states ..) ▸ hlt)
  | _ => exact Or.inl hlt

theorem Account.held_step (hlt : state < world'.states.length) : world'.isDone state = true ∨
    ∃ (j : ℕ) (d1 : Doing), (doings.set i d' ++ [])[j]? = some d1 ∧ d1.owns state := by
  have hself : (doings.set i d' ++ [])[i]? = some d' := System.getElem?_step_self hi d' []
  rcases hstep.fresh hlt with hlt | hfresh
  · rcases h.held state hlt with hdone | ⟨j, d1, hj, howns⟩
    · exact Or.inl (h.isDone_step hi hstep hdone)
    · by_cases hij : i = j
      · subst hij
        cases hi.symm.trans hj
        rcases hstep.owns howns (List.getElem?_eq_getElem hlt) with howns' | hdone
        · exact Or.inr ⟨i, d', hself, howns'⟩
        · exact Or.inl hdone
      · exact Or.inr ⟨j, d1, System.getElem?_step_ne hj hij d' [], howns⟩
  · exact Or.inr ⟨i, d', hself, hfresh⟩

theorem Account.closed_step (state : ℕ) :
    (trace ++ [(i, event)]).countP (closes state ·.2) = (world'.isDone state).toNat := by
  rw [List.countP_append, List.countP_singleton, h.closed]
  by_cases hcloses : closes state event = true
  · obtain ⟨found, hfound, hopen⟩ := (h.owner hi (hstep.touches (touches_of_closes hcloses))).2
    rw [hcloses, isDone_eq_false hfound hopen, hstep.closes hcloses hfound]
    rfl
  · rw [if_neg hcloses, Nat.add_zero]
    congr 1
    rw [Bool.eq_iff_iff]
    refine ⟨h.isDone_step hi hstep, fun hdone => ?_⟩
    obtain ⟨found, hfound, hdone⟩ := isDone_iff.mp hdone
    rcases hstep.done hfound hdone with hbefore | ⟨a, -, rfl⟩
    · exact isDone_iff.mpr hbefore
    · exact absurd (decide_eq_true rfl) hcloses

theorem Account.removed_step (hmem : (j, ⟨.removeFailed key state, ()⟩) ∈ trace ++ [(i, event)])
    (hfound : world'.states[state]? = some found) (herr : found.err ≠ none) (key' : GoString) :
    world'.helpers.lookup key' ≠ some state := by
  intro hlookup
  rcases List.mem_append.mp hmem with hmem | hmem
  · -- it was removed before, and is not the state that is entered now
    obtain ⟨key0, hbegan⟩ := h.touched j _ _ state hmem rfl
    have hlt : state < world.states.length := h.began _ _ _ hbegan
    obtain ⟨found', hfound', -, -, herr'⟩ := h.fields_step hi hstep hmem rfl (List.getElem?_eq_getElem hlt)
    cases hfound.symm.trans hfound'
    refine h.removed j key state hmem _ (List.getElem?_eq_getElem hlt) (herr' ▸ herr) key' ?_
    exact hstep.lookup hlt hlookup
  · obtain ⟨rfl, rfl⟩ := Prod.mk.inj (List.mem_singleton.mp hmem)
    cases hstep with
    | finish =>
      obtain ⟨hbegan, -⟩ := h.facts j _ _ hi
      rw [lookup_removeFailed] at hlookup
      split at hlookup
      · cases hlookup
      · rename_i hkept
        obtain ⟨k, hk⟩ := h.helpers key' state hlookup
        obtain ⟨-, rfl⟩ := h.unique _ _ _ _ _ hk hbegan
        rw [removeFailed_states] at hfound
        exact hkept ⟨rfl, ⟨found, hfound, herr⟩, hlookup⟩

theorem Account.gone_step {before rest : Trace}
    (htrace : trace ++ [(i, event)] = before ++ (j, ⟨.removeFailed key state, ()⟩) :: rest)
    (hfound : world'.states[state]? = some found) (herr : found.err ≠ none) (k : ℕ) (key' : GoString)
    (owner : Bool) : (k, ⟨.helperState key', (state, owner)⟩) ∉ rest := by
  rcases List.eq_nil_or_concat rest with rfl | ⟨rest, last, rfl⟩
  · exact List.not_mem_nil
  rw [List.concat_eq_append, ← List.cons_append, ← List.append_assoc] at htrace
  obtain ⟨rfl, hlast⟩ := List.append_inj' htrace rfl
  obtain rfl := List.singleton_inj.mp hlast
  have hmem : (j, (⟨.removeFailed key state, ()⟩ : Event interface)) ∈
      before ++ (j, ⟨.removeFailed key state, ()⟩) :: rest :=
    List.mem_append_right _ List.mem_cons_self
  obtain ⟨key0, hbegan⟩ := h.touched j _ _ state hmem rfl
  have hlt : state < world.states.length := h.began _ _ _ hbegan
  have hold := List.getElem?_eq_getElem hlt
  obtain ⟨found', hfound', -, -, herr'⟩ := h.fields_step hi hstep hmem rfl hold
  cases hfound.symm.trans hfound'
  rw [herr'] at herr
  intro hk
  rcases List.mem_append.mp (List.concat_eq_append ▸ hk) with hk | hk
  · exact h.gone before j key state rest rfl _ hold herr k key' owner hk
  · obtain ⟨rfl, rfl⟩ := Prod.mk.inj (List.mem_singleton.mp hk)
    cases hstep with
    | begin hnone => exact Nat.lt_irrefl _ hlt
    | join hsome => exact h.removed j key state hmem _ hold herr _ hsome

theorem Account.returned_step {result : Except Message GoString}
    (hmem : (j, ⟨.returned result, ()⟩) ∈ trace ++ [(i, event)]) : ∃ a, calls[j]? = some
      (.acquire a) ∧ Explained t (trace ++ [(i, event)]) world' j a result := by
  have hmono {a : Acquire} (h' : Explained t trace world j a result) :
      Explained t (trace ++ [(i, event)]) world' j a result :=
    h'.mono (List.subset_append_left _ _) (h.keepsDone hi hstep) fun _ _ => hstep.contexts
  rcases List.mem_append.mp hmem with hmem | hmem
  · obtain ⟨a, ha, hexplained⟩ := h.returned j result hmem
    exact ⟨a, ha, hmono hexplained⟩
  · obtain ⟨rfl, rfl⟩ := Prod.mk.inj (List.mem_singleton.mp hmem)
    cases hstep with
    | returned => exact ⟨_, h.caller j _ _ hi, hmono (h.facts j _ _ hi)⟩
    | unconfigured hpath => exact ⟨_, h.caller j _ _ hi, Or.inl ⟨hpath, rfl⟩⟩

omit h hi in
/-- An entry of the cache stays until its preparation has ended or its key is invalidated. -/
theorem Step.kept (hlookup : world.helpers.lookup key = some state) : world'.helpers.lookup key =
    some state ∨ (∃ key', event = ⟨.removeFailed key' state, ()⟩) ∨
      ∃ tgt, event = ⟨.invalidate tgt, ()⟩ ∧ helperCachePrefix tgt <+: key := by
  cases hstep with
  | begin hnone =>
    rename_i a
    have hkey : key ≠ a.key t := by
      rintro rfl
      cases hnone.symm.trans hlookup
    exact Or.inl ((AList.lookup_insert_ne hkey).trans hlookup)
  | finish =>
    rename_i a state'
    rw [lookup_removeFailed]
    split
    · rename_i hcond
      obtain ⟨rfl, -, hcond⟩ := hcond
      obtain rfl := Option.some.inj (hcond.symm.trans hlookup)
      exact Or.inr (Or.inl ⟨_, rfl⟩)
    · exact Or.inl hlookup
  | invalidate =>
    rename_i tgt
    rw [lookup_invalidate]
    split
    · exact Or.inr (Or.inr ⟨tgt, rfl, ‹_›⟩)
    · exact Or.inl hlookup
  | _ => exact Or.inl hlookup

omit h hi hstep in
theorem Parted.append {later : Trace → Prop} (h : Parted trace key state later) (rest : Trace) :
    Parted (trace ++ rest) key state later := by
  obtain ⟨before, j, tgt, rest', rfl, hprefix, hbegan, hlater⟩ := h
  exact ⟨before, j, tgt, rest' ++ rest, by simp, hprefix, hbegan, hlater⟩

omit h hi hstep in
theorem InProgress.of_concat (h : InProgress (trace ++ [(i, event)]) key state)
    (hbegan : ∃ j, Began trace j key state) : InProgress trace key state :=
  ⟨hbegan, fun j key' hmem => h.2 j key' (List.mem_append_left _ hmem)⟩

omit hi in
theorem Account.current_step (hprogress : InProgress (trace ++ [(i, event)]) key state) :
    world'.helpers.lookup key = some state ∨ Parted (trace ++ [(i, event)]) key state fun _ => True := by
  obtain ⟨⟨j, hj⟩, hnot⟩ := hprogress
  rcases hstep.began hj with hbegan | ⟨rfl, rfl, -, -, rfl⟩
  · rcases h.current key state (InProgress.of_concat ⟨⟨j, hj⟩, hnot⟩ ⟨j, hbegan⟩) with hlookup | hparted
    · rcases hstep.kept hlookup with hkept | ⟨key', rfl⟩ | ⟨tgt, rfl, hprefix⟩
      · exact Or.inl hkept
      · exact absurd (List.mem_append_right _ (List.mem_singleton.mpr rfl)) (hnot i key')
      · exact Or.inr ⟨trace, i, tgt, [], rfl, hprefix, ⟨j, hbegan⟩, trivial⟩
    · exact Or.inr (hparted.append _)
  · exact Or.inl (AList.lookup_insert _)

omit hi in
theorem Account.parted_step {state' : ℕ} (hlt : state < state')
    (hprogress : InProgress (trace ++ [(i, event)]) key state)
    (hbegan : ∃ j, Began (trace ++ [(i, event)]) j key state') :
    Parted (trace ++ [(i, event)]) key state fun before => ∀ j, ¬ Began before j key state' := by
  obtain ⟨⟨k, hk⟩, hnot⟩ := hprogress
  obtain ⟨j, hj⟩ := hbegan
  have hold (hlt : state < world.states.length) : InProgress trace key state := by
    refine InProgress.of_concat ⟨⟨k, hk⟩, hnot⟩ ⟨k, ?_⟩
    rcases hstep.began hk with hk | ⟨-, hnew, -⟩
    · exact hk
    · exact absurd hlt (hnew ▸ Nat.lt_irrefl _)
  rcases hstep.began hj with hj | ⟨rfl, rfl, hnone, -⟩
  · exact (h.parted key state state' hlt (hold (hlt.trans (h.began _ _ _ hj))) ⟨j, hj⟩).append _
  · -- the key had no entry, so it was invalidated since the first state was begun
    rcases h.current key state (hold hlt) with hlookup | ⟨before, k', tgt, rest, rfl, hprefix, hbefore, -⟩
    · cases hnone.symm.trans hlookup
    · refine Parted.append ⟨before, k', tgt, rest, rfl, hprefix, hbefore, fun j' hj' => ?_⟩ _
      exact absurd (h.began _ _ _ (List.mem_append_left _ hj')) (Nat.lt_irrefl _)

theorem Account.step : Account t calls (trace ++ [(i, event)]) world' (doings.set i d' ++ []) where
  caller _ _ _ hj := h.caller_step hi hstep hj
  doing _ _ hj := h.doing_step hi hstep hj
  facts _ _ _ hj := h.facts_step hi hstep hj
  began _ _ _ hbegan := h.began_step hstep hbegan
  unique _ _ _ _ _ hj hj' := h.unique_step hstep hj hj'
  helpers _ _ hlookup := h.helpers_step hstep hlookup
  joined _ _ _ hjoined := h.joined_step hstep hjoined
  touched _ _ _ _ hmem htouches := h.touched_step hi hstep hmem htouches
  written _ _ _ hmem := h.written_step hi hstep hmem
  filled _ _ hfound hdone := h.filled_step hi hstep hfound hdone
  held _ hlt := h.held_step hi hstep hlt
  closed := h.closed_step hi hstep
  removed _ _ _ hmem _ hfound herr := h.removed_step hi hstep hmem hfound herr
  gone _ _ _ _ _ htrace _ hfound herr := h.gone_step hi hstep htrace hfound herr
  returned _ _ hmem := h.returned_step hi hstep hmem
  current _ _ hprogress := h.current_step hstep hprogress
  parted _ _ _ hlt hprogress hbegan := h.parted_step hstep hlt hprogress hbegan

end Account

theorem account_start (t : Transport) (calls : List Call) : Account t calls [] {} (calls.map Call.doing) where
  caller i a stage hi := by
    obtain ⟨call, hcall, hdoing⟩ := Option.map_eq_some_iff.mp (List.getElem?_map ▸ hi)
    cases call with
    | acquire a' =>
      cases hdoing
      exact hcall
    | _ => cases hdoing
  doing i a hi := ⟨.before, by rw [List.getElem?_map, hi]; rfl⟩
  facts i a stage hi := by
    obtain ⟨call, hcall, hdoing⟩ := Option.map_eq_some_iff.mp (List.getElem?_map ▸ hi)
    cases call with
    | acquire a' =>
      cases hdoing
      trivial
    | _ => cases hdoing
  began _ _ _ h := absurd h List.not_mem_nil
  unique _ _ _ _ _ h := absurd h List.not_mem_nil
  helpers _ _ h := nomatch h
  joined _ _ _ h := absurd h List.not_mem_nil
  touched _ _ _ _ h := absurd h List.not_mem_nil
  written _ _ _ h := absurd h List.not_mem_nil
  filled _ _ h := nomatch h
  held _ h := absurd h (Nat.not_lt_zero _)
  closed _ := rfl
  removed _ _ _ h := absurd h List.not_mem_nil
  gone _ _ _ _ _ h := by simp at h
  returned _ _ h := absurd h List.not_mem_nil
  current _ _ h := absurd h.1.choose_spec List.not_mem_nil
  parted _ _ _ _ h := absurd h.1.choose_spec List.not_mem_nil

theorem run_account (wanted : GoString → Prop) {c : (system t).Config}
    (hrun : (system t).Run (start t calls) trace c) :
    ∃ doings, Account t calls trace c.world doings ∧
      System.Tracks (stages t wanted) (fun (call : (system t).Task) d => d = call.doing)
        Doing.Ended c.threads doings := by
  refine hrun.tracked (system_follows t wanted) (fun _ _ => rfl) (Account t calls) (account_start t calls) ?_
  intro trace world doings i d op answer world' h hi hallows hanswer
  exact h.step hi (step_of_answers hallows hanswer)

end Steps

/-! ## How much an `Acquire` does -/

section AtMost

variable {t : Transport} {tgt : Target}

theorem under_atMost {α : Type} {p : ApiServer.Calling α} {n : ℕ} (h : p.AtMost n) (ctx : ℕ) :
    (under ctx p).AtMost n := by
  induction p generalizing n with
  | pure a => trivial
  | call op k ih =>
    cases n with
    | zero => exact h.elim
    | succ n => exact fun answer => ih answer (h answer)

theorem exec_atMost (req : ExecRequest) : (ApiServer.exec req).AtMost 2 := by
  unfold ApiServer.exec
  split
  · trivial
  · intro err
    rcases (err : Option Message) with _ | err
    · exact fun _ => trivial
    · trivial

theorem copyWith_atMost (command : List GoString) (data : GoString) :
    (Transport.copyWith tgt command data).AtMost 2 := by
  refine AtMost.bind (n := 0) (exec_atMost _) fun result => ?_
  split
  · trivial
  · split <;> trivial

theorem copyHelperBinary_atMost (data : GoString) : (t.copyHelperBinary tgt data).AtMost 4 := by
  have htar : (t.copyHelperBinaryWithTar tgt (t.helperRemotePath tgt) data).AtMost 2 := by
    unfold Transport.copyHelperBinaryWithTar
    split
    · trivial
    · exact copyWith_atMost _ _
  refine AtMost.bind (m := 4) (n := 0) (AtMost.bind (m := 2) (n := 2) (copyWith_atMost _ _) fun err => ?_) fun err => ?_
  · cases err with
    | none => trivial
    | some err => exact AtMost.bind (n := 0) htar fun err => by cases err <;> trivial
  · cases err <;> trivial

theorem probeVersion_atMost (remotePath : GoString) : (t.probeVersion tgt remotePath).AtMost 2 := by
  refine AtMost.bind (n := 0) (exec_atMost _) fun result => ?_
  split
  · trivial
  · split
    · trivial
    · split <;> trivial

theorem ownHelperState_atMost : (t.ownHelperState tgt).AtMost 7 := by
  intro data
  rcases (data : Except Message GoString) with err | data
  · trivial
  change (t.prepareHelper tgt data).AtMost 6
  refine AtMost.bind (m := 4) (n := 2) (copyHelperBinary_atMost data) fun path => ?_
  cases path with
  | error err => trivial
  | ok path =>
    refine AtMost.bind (n := 0) (probeVersion_atMost path) fun probed => ?_
    cases probed with
    | error err => trivial
    | ok manifest =>
      dsimp only
      split <;> trivial

theorem lease_atMost (a : Acquire) (state : ℕ) : (a.lease t state).AtMost 3 := by
  intro err
  rcases (err : Option Message) with _ | err
  · refine fun (manifest : Manifest) => ?_
    change AtMost (match validateHelperManifest manifest t.manifest a.capability with
      | some err => (Pure.pure (.error err) : Calling (Except Message GoString))
      | none => do
        let path ← getPath state
        return .ok path) 1
    split
    · trivial
    · exact fun _ => trivial
  · trivial

/-- An `Acquire` performs at most fifteen operations, and returns. -/
theorem acquire_atMost (a : Acquire) : ((Call.acquire a).run t).AtMost 15 := by
  refine AtMost.bind (m := 14) (n := 1) ?_ fun _ _ => trivial
  unfold Acquire.acquire
  split
  · trivial
  refine fun (found : ℕ × Bool) => ?_
  obtain ⟨state, owner⟩ := found
  cases owner with
  | true =>
    have hown : (a.own t state).AtMost 10 :=
      AtMost.bind (m := 7) (n := 3) (under_atMost ownHelperState_atMost a.ctx) fun _ _ _ _ => trivial
    change (a.own t state >>= fun _ => a.lease t state).AtMost 13
    exact AtMost.bind (m := 10) (n := 3) hown fun _ => lease_atMost a state
  | false =>
    intro awaited
    rcases (awaited : Awaited) with _ | err
    · exact (lease_atMost a state).mono (by decide)
    · trivial

end AtMost

/-! ## Single flight -/

/-- A goroutine is about to perform an operation that does not wait. -/
def Busy {t : Transport} (c : (system t).Config) (i : ℕ) : Prop :=
  ∃ op k, c.threads[i]? = some (.call op k) ∧ ∀ state ctx, op ≠ .awaitDone state ctx

/-- No goroutine can go on. -/
structure Stuck {t : Transport} (c : (system t).Config) : Prop where
  waits : ∀ (i : ℕ) op k, c.threads[i]? = some (.call op k) → ∀ answer world, ¬ Answers c.world op answer world
  ends : ∀ (i : ℕ) call, c.threads[i]? ≠ some (.pure (some call))

/-- What holds of the states of an acquirer, after what happened in the trace. -/
structure SingleFlight (t : Transport) (calls : List Call) (trace : Trace) (c : (system t).Config) : Prop where
  /-- A state was begun by one `Acquire`, and no other writes it, removes it or closes its
  channel. -/
  owner : ∀ state < c.world.states.length, ∃ i key, Began trace i key state ∧
    (∀ j key', Began trace j key' state → j = i) ∧ ∀ entry ∈ trace, entry.2.op.touches state → entry.1 = i
  /-- Its channel is closed once, by an owner that goes on until then. -/
  closed : ∀ i key state, Began trace i key state →
    trace.countP (closes state ·.2) = 1 ∨ trace.countP (closes state ·.2) = 0 ∧ Busy c i
  /-- Two preparations for one key are in progress if the key was invalidated after the first was
  begun and before the second was. -/
  overlap : ∀ key state state', state < state' → InProgress trace key state → InProgress trace key
    state' → Parted trace key state fun before => ∀ i, ¬ Began before i key state'
  /-- A state that failed is not given to anyone once it was removed, and its removal leaves other
  states. -/
  failed : ∀ before i key state rest, trace = before ++ (i, ⟨.removeFailed key state, ()⟩) :: rest →
    ∀ found, c.world.states[state]? = some found → found.err ≠ none →
      ∀ j key' owner, (j, ⟨.helperState key', (state, owner)⟩) ∉ rest
  newer : ∀ key state world, c.About (.removeFailed key state) →
    Answers c.world (.removeFailed key state) () world → ∀ key' state', state' ≠ state →
      c.world.helpers.lookup key' = some state' → world.helpers.lookup key' = some state'
  /-- A state that is done has the result of its owner, which is what `Acquire` returns to the owner
  and to all who joined and whose own context did not end. -/
  result : ∀ state found, c.world.states[state]? = some found → found.done = true →
    ∃ i key result, Began trace i key state ∧ (i, ⟨.setResult state result, ()⟩) ∈ trace ∧
      found.fill result = found
  returned : ∀ i result, (i, ⟨.returned result, ()⟩) ∈ trace → ∃ a, calls[i]? = some (.acquire a) ∧
    Explained t trace c.world i a result
  waits : ∀ state ctx, c.About (.awaitDone state ctx) →
    Answers c.world (.awaitDone state ctx) Awaited.done c.world ∨ ∃ i key, Began trace i key state ∧ Busy c i
  /-- An `Acquire` performs at most fifteen operations, and when no goroutine can go on it has
  returned. -/
  bounded : ∀ a, ((Call.acquire a).run t).AtMost 15
  ends : Stuck c → ∀ (i : ℕ) a, calls[i]? = some (.acquire a) → ∃ result, (i, ⟨.returned result, ()⟩) ∈ trace
  lease : ∀ i path, (i, ⟨.returned (.ok path), ()⟩) ∈ trace → ∃ a state found, calls[i]? = some (.acquire a) ∧
    (Began trace i (a.key t) state ∨ Joined trace i (a.key t) state) ∧ c.world.states[state]? = some
      found ∧ found.done = true ∧ path = found.path ∧
      validateHelperManifest found.manifest t.manifest a.capability = none

section SingleFlight

variable {t : Transport} {calls : List Call} {trace : Trace} {c : (system t).Config} {doings : List Doing}

theorem busy_of_owns {wanted : GoString → Prop}
    (htracks : System.Tracks (stages t wanted) (fun (call : (system t).Task) d => d = call.doing)
      Doing.Ended c.threads doings) {i state : ℕ} {d : Doing} (hi : doings[i]? = some d)
    (hd : d.owns state) : Busy c i := by
  have hlt : i < c.threads.length := htracks.length ▸ (List.getElem?_eq_some_iff.mp hi).1
  have hthread := List.getElem?_eq_getElem hlt
  have hobeys := htracks.obeys i _ d hthread hi
  cases hp : c.threads[i] with
  | pure next =>
    rw [hp] at hobeys
    cases next with
    | none =>
      cases d with
      | acquire a stage =>
        obtain rfl : stage = .over := hobeys
        exact hd.elim
      | other => exact hd.elim
    | some call =>
      obtain rfl : d = call.doing := hobeys
      cases call <;> exact hd.elim
  | call op k =>
    rw [hp] at hobeys hthread
    refine ⟨op, k, hthread, ?_⟩
    rintro state' ctx rfl
    obtain ⟨a, rfl, -⟩ := hobeys.1
    exact hd

theorem nonempty_answer (op : ApiServer.Op) : Nonempty op.Answer := by
  cases op with
  | change => exact ⟨ApiServer.Change.deleted [] []⟩
  | newExecutor => exact ⟨(none : Option Message)⟩
  | stream => exact ⟨(⟨none, .failed [], [], [], fun _ => ⟨[], rfl⟩⟩ : ApiServer.Executed)⟩
  | roundTripper => exact ⟨(none : Option Message)⟩
  | newRequest => exact ⟨(none : Option Message)⟩
  | negotiate => exact ⟨(⟨none, .error [], fun _ => ⟨[], rfl⟩⟩ : ApiServer.Negotiated)⟩
  | createStream => exact ⟨(none : Option Message)⟩
  | readErrorStream => exact ⟨(.ok [] : Except Message GoString)⟩
  | helperState => exact ⟨((0, false) : ℕ × Bool)⟩
  | awaitHelper => exact ⟨ApiServer.Awaited.cancelled []⟩
  | readHelper => exact ⟨(.ok [] : Except Message GoString)⟩
  | _ => exact ⟨()⟩

/-- What an `Acquire` is about to do has an answer, unless it waits. -/
theorem exists_answer (haccount : Account t calls trace c.world doings) {wanted : GoString → Prop}
    {i : ℕ} {d : Doing} {op : Op} (hi : doings[i]? = some d) (hallows : d.Allows t wanted op)
    (hop : ∀ state ctx, op ≠ .awaitDone state ctx) : ∃ answer world, Answers c.world op answer world := by
  cases op with
  | helperState key => exact ⟨_, _, rfl⟩
  | transport ctx op =>
    obtain ⟨answer⟩ := nonempty_answer op
    exact ⟨answer, _, rfl⟩
  | awaitDone state ctx => exact absurd rfl (hop state ctx)
  | getErr state =>
    obtain ⟨a, rfl⟩ := hallows
    obtain ⟨-, found, hfound, -⟩ := haccount.facts i a _ hi
    exact ⟨found.err, _, rfl, found, hfound, rfl⟩
  | getManifest state =>
    obtain ⟨a, rfl⟩ := hallows
    obtain ⟨-, found, hfound, -⟩ := haccount.facts i a _ hi
    exact ⟨found.manifest, _, rfl, found, hfound, rfl⟩
  | getPath state =>
    obtain ⟨a, manifest, rfl⟩ := hallows
    obtain ⟨-, found, hfound, -⟩ := haccount.facts i a _ hi
    exact ⟨found.path, _, rfl, found, hfound, rfl⟩
  | _ => exact ⟨(), _, rfl⟩

theorem lookup_removeFailed_of_ne {world : World} {key key' : GoString} {state state' : ℕ}
    (hne : state' ≠ state) (h : world.helpers.lookup key' = some state') :
    (world.removeFailed key state).helpers.lookup key' = some state' := by
  rw [lookup_removeFailed, if_neg, h]
  rintro ⟨rfl, -, hstate⟩
  exact hne (Option.some.inj (h.symm.trans hstate))

theorem ok_of_lease {found : State} {capability path : GoString} (h : .ok path = found.lease t capability) :
    path = found.path ∧ validateHelperManifest found.manifest t.manifest capability = none := by
  unfold State.lease at h
  split at h
  · cases h
  split at h
  · cases h
  · cases h
    exact ⟨rfl, ‹_›⟩

section Tracked

variable {wanted : GoString → Prop} (haccount : Account t calls trace c.world doings)
  (htracks : System.Tracks (stages t wanted) (fun (call : (system t).Task) d => d = call.doing) Doing.Ended c.threads
    doings)

include haccount htracks

theorem not_busy (hstuck : Stuck c) {i : ℕ} : ¬ Busy c i := by
  rintro ⟨op, k, hthread, hop⟩
  obtain ⟨d, hd, hallows, -⟩ := htracks.state hthread
  obtain ⟨answer, world, hanswer⟩ := exists_answer haccount hd hallows hop
  exact hstuck.waits i op k hthread answer world hanswer

/-- The owner of a state has closed its channel, or goes on. -/
theorem closed_or_busy {i state : ℕ} {key : GoString} (hbegan : Began trace i key state) :
    trace.countP (closes state ·.2) = 1 ∨ trace.countP (closes state ·.2) = 0 ∧ Busy c i := by
  rw [haccount.closed]
  rcases haccount.held state (haccount.began i key state hbegan) with hdone | ⟨j, d, hj, hd⟩
  · rw [hdone]
    exact Or.inl rfl
  · obtain ⟨⟨key', hbegan'⟩, found, hfound, hopen⟩ := haccount.owner hj hd
    obtain ⟨rfl, -⟩ := haccount.unique _ _ _ _ _ hbegan hbegan'
    rw [isDone_eq_false hfound hopen]
    exact Or.inr ⟨rfl, busy_of_owns htracks hj hd⟩

/-- Who waits for a state can go on, or the owner of the state can. -/
theorem waits_for_owner {state ctx : ℕ} (habout : c.About (.awaitDone state ctx)) :
    Answers c.world (.awaitDone state ctx) Awaited.done c.world ∨ ∃ i key, Began trace i key state ∧ Busy c i := by
  obtain ⟨d, hd, a, rfl, -⟩ := htracks.about habout
  obtain ⟨i, hi⟩ := List.getElem?_of_mem hd
  obtain ⟨j, hj⟩ := haccount.joined i _ state (haccount.facts i a _ hi)
  rcases closed_or_busy haccount htracks hj with hclosed | ⟨-, hbusy⟩
  · rw [haccount.closed] at hclosed
    exact Or.inl ⟨rfl, isDone_iff.mp (Bool.toNat_eq_one.mp hclosed)⟩
  · exact Or.inr ⟨j, _, hj, hbusy⟩

theorem returned_of_stuck (hstuck : Stuck c) {i : ℕ} {a : Acquire}
    (ha : calls[i]? = some (.acquire a)) : ∃ result, (i, ⟨.returned result, ()⟩) ∈ trace := by
  obtain ⟨stage, hi⟩ := haccount.doing i a ha
  have hlt : i < c.threads.length := htracks.length ▸ (List.getElem?_eq_some_iff.mp hi).1
  have hthread := List.getElem?_eq_getElem hlt
  have hobeys := htracks.obeys i _ _ hthread hi
  cases hp : c.threads[i] with
  | pure next =>
    rw [hp] at hobeys hthread
    cases next with
    | none =>
      obtain rfl : stage = .over := hobeys
      exact haccount.facts i a _ hi
    | some call => exact absurd hthread (hstuck.ends i call)
  | call op k =>
    rw [hp] at hobeys hthread
    -- the goroutine waits for a state, whose owner waits for nothing
    by_cases hop : ∃ state ctx, op = .awaitDone state ctx
    · obtain ⟨state, ctx, rfl⟩ := hop
      rcases waits_for_owner haccount htracks ⟨i, k, hthread⟩ with hanswer | ⟨j, key, -, hbusy⟩
      · exact absurd hanswer (hstuck.waits i _ k hthread _ _)
      · exact absurd hbusy (not_busy haccount htracks hstuck)
    · have hbusy : Busy c i := ⟨op, k, hthread, fun state ctx heq => hop ⟨state, ctx, heq⟩⟩
      exact absurd hbusy (not_busy haccount htracks hstuck)

end Tracked

/-- Along every run of calls of `Acquire` and `Invalidate`, with contexts that end at any time. -/
theorem preparations_shared (hrun : (system t).Run (start t calls) trace c) : SingleFlight t calls trace c := by
  obtain ⟨doings, haccount, htracks⟩ := run_account (fun _ => True) hrun
  exact {
    owner state hlt := by
      obtain ⟨i, key, hbegan⟩ : ∃ i key, Began trace i key state := by
        rcases haccount.held state hlt with hdone | ⟨j, d, hj, hd⟩
        · obtain ⟨found, hfound, hdone⟩ := isDone_iff.mp hdone
          obtain ⟨i, result, hmem⟩ := haccount.filled state found hfound hdone
          exact ⟨i, haccount.touched i _ _ state hmem rfl⟩
        · exact ⟨j, (haccount.owner hj hd).1⟩
      refine ⟨i, key, hbegan, fun j key' hj => (haccount.unique _ _ _ _ _ hj hbegan).1, ?_⟩
      intro entry hentry htouches
      obtain ⟨key', hkey'⟩ := haccount.touched entry.1 _ _ state hentry htouches
      exact (haccount.unique _ _ _ _ _ hkey' hbegan).1
    closed _ _ _ := closed_or_busy haccount htracks
    overlap key state state' hlt hprogress hprogress' := haccount.parted key state state' hlt hprogress hprogress'.1
    failed := haccount.gone
    newer key state world _ hanswer key' state' hne hlookup := by
      obtain rfl : world = World.removeFailed c.world key state := hanswer
      exact lookup_removeFailed_of_ne hne hlookup
    result state found hfound hdone := by
      obtain ⟨i, result, hmem⟩ := haccount.filled state found hfound hdone
      obtain ⟨key, hbegan⟩ := haccount.touched i _ _ state hmem rfl
      obtain ⟨found', hfound', hfill⟩ := haccount.written i state result hmem
      cases hfound.symm.trans hfound'
      exact ⟨i, key, result, hbegan, hmem, hfill⟩
    returned := haccount.returned
    waits _ _ := waits_for_owner haccount htracks
    bounded := acquire_atMost
    ends hstuck _ _ := returned_of_stuck haccount htracks hstuck
    lease i path hmem := by
      obtain ⟨a, ha, hexplained⟩ := haccount.returned i (.ok path) hmem
      rcases hexplained with ⟨-, hresult⟩ | ⟨state, err, -, -, hresult⟩ | ⟨state, found, hgot, hfound, hdone, hresult⟩
      · cases hresult
      · cases hresult
      · obtain ⟨hpath, hvalid⟩ := ok_of_lease hresult
        exact ⟨a, state, found, ha, hgot, hfound, hdone, hpath, hvalid⟩ }

end SingleFlight

/-- An `Acquire` for the container of `appTarget`, with a context of its own. -/
def acquireApp (ctx : ℕ) : Call := .acquire { ctx, tgt := appTarget, capability := [] }

/-- The helper cannot be read: the second caller gets the error of the first. -/
theorem preparations_shared_failure : ∃ trace c,
    (system helperTransport).Run (start helperTransport [acquireApp 1, acquireApp 2]) trace c ∧
      (1, ⟨.returned (.error (.text "read helper binary: " ++ .text "no such file")), ()⟩) ∈ trace ∧
      SingleFlight helperTransport [acquireApp 1, acquireApp 2] trace c := by
  have h0 := System.Run.start (c := start helperTransport [acquireApp 1, acquireApp 2])
  have h1 := h0.perform 0 rfl ((0, true) : ℕ × Bool) rfl
  have h2 := h1.perform 1 rfl ((0, false) : ℕ × Bool) rfl
  have h3 := h2.perform 0 rfl (.error (.text "no such file") : Except Message GoString) rfl
  have h4 := h3.perform 0 rfl () rfl
  have h5 := h4.perform 0 rfl () rfl
  have h6 := h5.perform 0 rfl () rfl
  have h7 := h6.perform 1 rfl Awaited.done ⟨rfl, _, rfl, rfl⟩
  have h8 := h7.perform 1 rfl (some (.text "read helper binary: " ++ .text "no such file") : Option Message)
    ⟨rfl, _, rfl, rfl⟩
  have h9 := h8.perform 1 rfl () rfl
  exact ⟨_, _, h9, List.mem_append_right _ (List.mem_singleton.mpr rfl), preparations_shared h9⟩

/-- The key is invalidated while its state is prepared: between that and the next `Invalidate`, two
preparations for the key are in progress. -/
theorem two_preparations_between_invalidates : ∃ before between c,
    (system helperTransport).Run
      (start helperTransport [acquireApp 1, .invalidate appTarget, acquireApp 2, .invalidate appTarget])
      (before ++ (1, ⟨.invalidate appTarget, ()⟩) :: between ++ [(3, ⟨.invalidate appTarget, ()⟩)]) c ∧
      (∀ entry ∈ between, ∀ tgt, entry.2.op ≠ .invalidate tgt) ∧
      InProgress (before ++ (1, ⟨.invalidate appTarget, ()⟩) :: between) appKey 0 ∧
      InProgress (before ++ (1, ⟨.invalidate appTarget, ()⟩) :: between) appKey 1 := by
  have h0 := System.Run.start
    (c := start helperTransport [acquireApp 1, .invalidate appTarget, acquireApp 2, .invalidate appTarget])
  have h1 := h0.perform 0 rfl ((0, true) : ℕ × Bool) rfl
  have h2 := h1.perform 1 rfl () rfl
  have h3 := h2.perform 2 rfl ((1, true) : ℕ × Bool) rfl
  have h4 := h3.perform 3 rfl () rfl
  have hnone : ∀ entry ∈ ([(0, ⟨.helperState appKey, ((0, true) : ℕ × Bool)⟩), (1, ⟨.invalidate appTarget, ()⟩),
      (2, ⟨.helperState appKey, ((1, true) : ℕ × Bool)⟩)] : Trace), ∀ key state, entry.2.op ≠ .removeFailed key state := by
    simp
  refine ⟨[(0, ⟨.helperState appKey, ((0, true) : ℕ × Bool)⟩)],
    [(2, ⟨.helperState appKey, ((1, true) : ℕ × Bool)⟩)], _, h4, ?_,
    ⟨⟨0, List.mem_cons_self⟩, fun i key hmem => hnone _ hmem key 0 rfl⟩,
    ⟨⟨2, List.mem_append_right _ (List.mem_cons_of_mem _ List.mem_cons_self)⟩,
      fun i key hmem => hnone _ hmem key 1 rfl⟩⟩
  intro entry hentry tgt
  obtain rfl := List.mem_singleton.mp hentry
  exact nofun

end KubeSsh.CopyHelper

import KubeSsh.AccessPolicy.Selections
import Mathlib.Data.Nat.Periodic

/-!
# `pkg/accesspolicy`: weighted round robin

The counter of an Access counts the selections that round robin made for it. Turn `n` goes to the
candidate at which a walk over the weights, started at `n` modulo their total, ends. The walk sends
exactly as many of the numbers below the total to a candidate as its weight says, and any run of
consecutive turns that is as long as the total hits every remainder once.
-/

namespace KubeSsh.AccessPolicy

/-! ## The walk over the weights -/

theorem totalCandidateWeight_cons (candidate : TargetCandidate) (rest : List TargetCandidate) :
    totalCandidateWeight (candidate :: rest) = candidate.weight + totalCandidateWeight rest := by
  have hfold : ∀ (total : ℕ) (candidates : List TargetCandidate),
      candidates.foldl (fun total candidate => total + candidate.weight) total
        = total + totalCandidateWeight candidates := by
    intro total candidates
    induction candidates generalizing total with
    | nil => rfl
    | cons candidate rest ih =>
      change rest.foldl _ (total + candidate.weight) = total + rest.foldl _ (0 + candidate.weight)
      rw [ih, ih]
      omega
  rw [totalCandidateWeight, List.foldl_cons, hfold, Nat.zero_add]

/-- A walk that starts below the total ends at one of the candidates it passes. -/
theorem le_weightedCandidateIndexFrom (i : ℕ) {candidates : List TargetCandidate} {weightIndex : ℕ}
    (h : weightIndex < totalCandidateWeight candidates) :
    i ≤ weightedCandidateIndexFrom i candidates weightIndex := by
  induction candidates generalizing i weightIndex with
  | nil => exact absurd h (Nat.not_lt_zero _)
  | cons candidate rest ih =>
    rw [totalCandidateWeight_cons] at h
    rw [weightedCandidateIndexFrom]
    split
    · exact le_rfl
    · have := ih (i + 1) (show weightIndex - candidate.weight < totalCandidateWeight rest by omega)
      omega

/-- The numbers below the total that the walk from candidate `i` on sends to the candidate `j`
places later: as many as its weight. -/
theorem count_weightedCandidateIndexFrom (i : ℕ) (candidates : List TargetCandidate) {j : ℕ}
    (hj : j < candidates.length) :
    ((List.range (totalCandidateWeight candidates)).map
      (weightedCandidateIndexFrom i candidates)).count (i + j) = candidates[j].weight := by
  induction candidates generalizing i j with
  | nil => exact absurd hj (Nat.not_lt_zero _)
  | cons candidate rest ih =>
    -- the first candidate takes the numbers below its weight, the rest of the walk the others
    have hfirst : (List.range candidate.weight).map
        (weightedCandidateIndexFrom i (candidate :: rest)) = List.replicate candidate.weight i := by
      rw [List.eq_replicate_iff]
      refine ⟨by simp, ?_⟩
      intro index hindex
      obtain ⟨n, hn, rfl⟩ := List.mem_map.mp hindex
      exact if_pos (List.mem_range.mp hn)
    have hrest : (List.range (totalCandidateWeight rest)).map
        (weightedCandidateIndexFrom i (candidate :: rest) ∘ (candidate.weight + ·))
          = (List.range (totalCandidateWeight rest)).map (weightedCandidateIndexFrom (i + 1) rest) := by
      refine List.map_congr_left fun n _ => ?_
      rw [Function.comp_apply, weightedCandidateIndexFrom, if_neg (by omega), Nat.add_sub_cancel_left]
    rw [totalCandidateWeight_cons, List.range_add, List.map_append, List.map_map, hfirst, hrest,
      List.count_append, List.count_replicate]
    cases j with
    | zero =>
      have hnone : i ∉ (List.range (totalCandidateWeight rest)).map
          (weightedCandidateIndexFrom (i + 1) rest) := by
        intro hmem
        obtain ⟨n, hn, hi⟩ := List.mem_map.mp hmem
        have := le_weightedCandidateIndexFrom (i + 1) (List.mem_range.mp hn)
        omega
      simp [List.count_eq_zero_of_not_mem hnone]
    | succ j =>
      have hj' : j < rest.length := by simpa using hj
      rw [if_neg (by simp), Nat.zero_add, show i + (j + 1) = i + 1 + j by omega, ih (i + 1) hj']
      rfl

/-- `weightedCandidateIndex` sends as many of the numbers below the total to a candidate as its
weight says. -/
theorem count_weightedCandidateIndex (candidates : List TargetCandidate) {i : ℕ}
    (hi : i < candidates.length) :
    ((List.range (totalCandidateWeight candidates)).map
      (weightedCandidateIndex candidates)).count i = candidates[i].weight := by
  have := count_weightedCandidateIndexFrom 0 candidates hi
  rwa [Nat.zero_add] at this

/-- Consecutive turns as long as the total hit every remainder once. -/
theorem range'_mod_perm (n total : ℕ) :
    ((List.range' n total).map (· % total)).Perm (List.range total) := by
  have hmod := Nat.multiset_Ico_map_mod n total
  have hIco : Multiset.Ico n (n + total) = (List.range' n total : Multiset ℕ) := by
    rw [Multiset.Ico, Nat.Ico_eq_range', Nat.add_sub_cancel_left]
  rw [hIco, Multiset.map_coe] at hmod
  exact Multiset.coe_eq_coe.mp hmod

/-! ## Turns -/

/-- The counter of an Access. -/
def SelectorState.turn (state : SelectorState) (accessKeyValue : GoString) : ℕ :=
  (state.roundRobin.lookup accessKeyValue).getD 0

/-- The request is a selection of an Access that round robin makes: affinity does not serve it. -/
def Request.TakesTurn (request : Request) (ns name : GoString) (state : SelectorState) : Prop :=
  request.access.ns = ns ∧ request.access.name = name ∧ request.strategy = .roundRobin ∧
    request.remembered state = none

instance (request : Request) (ns name : GoString) (state : SelectorState) :
    Decidable (request.TakesTurn ns name state) :=
  inferInstanceAs (Decidable (_ ∧ _ ∧ _ ∧ _))

/-- The selections that round robin makes for an Access in a run, with the index each returns. -/
def turns (ns name : GoString) (state : SelectorState) : List Action → List (Request × ℕ)
  | [] => []
  | action :: rest =>
    let later := turns ns name (action.apply state) rest
    match action with
    | .select request =>
      if request.TakesTurn ns name state then (request, (request.select state).1.1) :: later else later
    | .selectPodByName .. | .release _ => later

/-- The candidate whose turn it is. -/
def scheduled (candidates : List TargetCandidate) (turn : ℕ) : ℕ :=
  weightedCandidateIndex candidates (turn % totalCandidateWeight candidates)

/-- A turn goes to the candidate whose turn it is, and the next turn is the next one. -/
theorem Request.TakesTurn.select {request : Request} {ns name : GoString} {state : SelectorState}
    (h : request.TakesTurn ns name state) :
    (request.select state).1.1 = scheduled request.candidates (state.turn (accessKey ns name)) ∧
      (request.select state).2.turn (accessKey ns name) = state.turn (accessKey ns name) + 1 := by
  obtain ⟨rfl, rfl, hstrategy, hremembered⟩ := h
  rw [Request.select_of_chosen hremembered]
  unfold Request.chosen
  rw [hstrategy]
  refine ⟨rfl, ?_⟩
  simp [SelectorState.turn, strategyCandidateIndex, roundRobinCandidateIndex, Request.accessKeyValue]

/-- A selection that takes no turn of an Access leaves its counter alone. -/
theorem select_turn_of_not_takesTurn {request : Request} {ns name : GoString} {state : SelectorState}
    (hns : SlashFree ns) (hname : SlashFree name) (h : ¬ request.TakesTurn ns name state) :
    (request.select state).2.turn (accessKey ns name) = state.turn (accessKey ns name) := by
  cases hremembered : request.remembered state with
  | some index =>
    rw [Request.select_of_remembered hremembered]
    rfl
  | none =>
    rw [Request.select_of_chosen hremembered]
    unfold Request.chosen
    cases hstrategy : request.strategy with
    | roundRobin =>
      -- another Access has another key
      have hkey : accessKey ns name ≠ request.accessKeyValue := by
        intro hkey
        obtain ⟨hns', hname'⟩ := accessKey_inj hns hname hkey
        exact h ⟨hns', hname', hstrategy, hremembered⟩
      simp [SelectorState.turn, strategyCandidateIndex, roundRobinCandidateIndex,
        AList.lookup_insert_ne hkey]
    | leastConnections => rfl
    | newest => rfl
    | oldest => rfl
    | unspecified => rfl
    | random => rfl
    | other => rfl

/-- The turns of an Access in a run, whatever else happens in it: one after the other from the
counter at its start. -/
theorem turns_eq_scheduled {ns name : GoString} (hns : SlashFree ns) (hname : SlashFree name)
    {candidates : List TargetCandidate} (state : SelectorState) (actions : List Action)
    (hsame : ∀ turn ∈ turns ns name state actions, turn.1.candidates = candidates) :
    (turns ns name state actions).map Prod.snd =
      (List.range' (state.turn (accessKey ns name)) (turns ns name state actions).length).map
        (scheduled candidates) := by
  induction actions generalizing state with
  | nil => rfl
  | cons action rest ih =>
    specialize ih (action.apply state)
    cases action with
    | select request =>
      unfold turns at hsame ⊢
      dsimp only at hsame ⊢
      split at hsame
      · rename_i hturn
        obtain ⟨hindex, hnext⟩ := hturn.select
        obtain ⟨hfirst, hlater⟩ := List.forall_mem_cons.mp hsame
        replace hfirst : request.candidates = candidates := hfirst
        rw [if_pos hturn, List.map_cons, ih hlater, List.length_cons, List.range'_succ,
          List.map_cons, hindex, hfirst, Action.apply, hnext]
      · rename_i hturn
        rw [if_neg hturn, ih hsame, Action.apply, select_turn_of_not_takesTurn hns hname hturn]
    | selectPodByName access pods podName =>
      refine (ih hsame).trans ?_
      rw [SelectorState.turn, Action.apply, (selectPodByName_state state access pods podName).1]
      rfl
    | release connectionKey =>
      refine (ih hsame).trans ?_
      rw [SelectorState.turn, Action.apply, (release_state state connectionKey).1]
      rfl

/-- As many turns in a row as the total weight: every candidate gets as many as its weight. -/
theorem count_scheduled (candidates : List TargetCandidate) (turn : ℕ) {i : ℕ}
    (hi : i < candidates.length) :
    ((List.range' turn (totalCandidateWeight candidates)).map (scheduled candidates)).count i
      = candidates[i].weight := by
  have hmap : (List.range' turn (totalCandidateWeight candidates)).map (scheduled candidates)
      = ((List.range' turn (totalCandidateWeight candidates)).map
          (· % totalCandidateWeight candidates)).map (weightedCandidateIndex candidates) :=
    List.map_map.symm
  rw [hmap, ((range'_mod_perm _ _).map _).count_eq, count_weightedCandidateIndex candidates hi]

/-- Every turn goes to one of the candidates. -/
theorem turns_lt (ns name : GoString) (state : SelectorState) (actions : List Action) :
    ∀ turn ∈ turns ns name state actions, turn.2 < turn.1.candidates.length := by
  induction actions generalizing state with
  | nil => exact fun _ h => absurd h List.not_mem_nil
  | cons action rest ih =>
    specialize ih (action.apply state)
    cases action with
    | select request =>
      unfold turns
      dsimp only
      split
      · refine List.forall_mem_cons.mpr ⟨?_, ih⟩
        exact selectTarget_lt state request.draw request.access request.input request.candidates_ne
          request.strategy
      · exact ih
    | selectPodByName => exact ih
    | release => exact ih

/-- Weighted round robin is exact. Take a run of the selector from any state, in which round robin
makes as many selections of one Access as the total weight of its candidates, with other calls of
the selector anywhere between them. Then each candidate is selected as often as its weight says, an
index is always one of a candidate, and which candidates come in which order depends on the counter
of the Access alone. The random strategy sends as many of its draws to a candidate as the weight
says. -/
theorem roundRobin_exact {ns name : GoString} (hns : SlashFree ns) (hname : SlashFree name)
    (state : SelectorState) (actions : List Action) (candidates : List TargetCandidate)
    (hsame : ∀ turn ∈ turns ns name state actions, turn.1.candidates = candidates)
    (hlength : (turns ns name state actions).length = totalCandidateWeight candidates) :
    (∀ (i : ℕ) (hi : i < candidates.length),
      ((turns ns name state actions).map Prod.snd).count i = candidates[i].weight) ∧
    (∀ turn ∈ turns ns name state actions, turn.2 < candidates.length) ∧
    (turns ns name state actions).map Prod.snd
      = (List.range' (state.turn (accessKey ns name)) (totalCandidateWeight candidates)).map
        (scheduled candidates) ∧
    ∀ (now : ℤ) (i : ℕ) (hi : i < candidates.length),
      ((List.range (totalCandidateWeight candidates)).map fun n =>
        randomCandidateIndex { now, intn := fun _ => n } candidates).count i = candidates[i].weight := by
  have hturns := turns_eq_scheduled hns hname state actions hsame
  rw [hlength] at hturns
  refine ⟨?_, ?_, hturns, ?_⟩
  · intro i hi
    rw [hturns, count_scheduled candidates _ hi]
  · intro turn hturn
    rw [← hsame turn hturn]
    exact turns_lt ns name state actions turn hturn
  · intro now i hi
    have hdraw : ((List.range (totalCandidateWeight candidates)).map fun n =>
        randomCandidateIndex { now, intn := fun _ => n } candidates)
          = (List.range (totalCandidateWeight candidates)).map (weightedCandidateIndex candidates) := by
      refine List.map_congr_left fun n hn => ?_
      rw [randomCandidateIndex, Nat.mod_eq_of_lt (List.mem_range.mp hn)]
    rw [hdraw, count_weightedCandidateIndex candidates hi]

/-- An Access with two endpoints, the second with twice the weight of the first. -/
def weightedAccess : Access where
  ns := str "team"
  name := str "db"
  spec := { endpoints := [⟨str "a", none⟩, ⟨str "b", some 2⟩]
            strategy := some { type := .roundRobin } }

/-- A selection of one of its endpoints. -/
def weightedRequest : Request :=
  endpointRequest { now := 1, intn := fun _ => 0 } weightedAccess { sshUser := str "db" } (by simp [weightedAccess])

theorem roundRobin_exact_three_turns :
    ((turns (str "team") (str "db") {} [.select weightedRequest, .release [], .select weightedRequest,
      .select weightedRequest]).map Prod.snd).count 1 = 2 :=
  (roundRobin_exact (show Byte.slash ∉ str "team" by decide) (show Byte.slash ∉ str "db" by decide) {}
    [.select weightedRequest, .release [], .select weightedRequest, .select weightedRequest]
    weightedRequest.candidates (by decide) (by decide)).1 1 (by decide)

end KubeSsh.AccessPolicy

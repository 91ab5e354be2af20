import KubeSsh.AccessPolicy.Selections
import Mathlib.Algebra.Order.Field.Rat

/-!
# `pkg/accesspolicy`: the least loaded candidate

`leastConnectionsCandidateIndex` compares two loads by multiplying crosswise, keeps the better
candidate, and goes over the list once. The comparison is that of the exact ratios of connections to
weight, with the key to break a tie. On candidates with distinct keys that is a strict total order,
so one pass over the list finds its least element, in whatever order the candidates come.
-/

namespace KubeSsh.AccessPolicy

/-! ## One pass with a moving best -/

/-- On the candidates of a list, `better` says what a strict order says. -/
structure Compares (better : TargetCandidate → TargetCandidate → Bool)
    (less : TargetCandidate → TargetCandidate → Prop) (candidates : List TargetCandidate) : Prop where
  iff : ∀ a ∈ candidates, ∀ b ∈ candidates, (better a b = true ↔ less a b)
  irrefl : ∀ a, ¬ less a a
  trans : ∀ a b c, less a b → less b c → less a c

/-- The loop, from a candidate that none of those before it is less than. -/
theorem bestCandidateIndexFrom_least {better : TargetCandidate → TargetCandidate → Bool}
    {less : TargetCandidate → TargetCandidate → Prop} {seen rest : List TargetCandidate} {best : ℕ}
    {bestCandidate : TargetCandidate} (horder : Compares better less (seen ++ rest))
    (hbest : (seen ++ rest)[best]? = some bestCandidate)
    (hseen : ∀ candidate ∈ seen, ¬ less candidate bestCandidate) :
    ∃ candidate,
      (seen ++ rest)[bestCandidateIndexFrom better best bestCandidate seen.length rest]?
        = some candidate ∧ ∀ other ∈ seen ++ rest, ¬ less other candidate := by
  induction rest generalizing seen best bestCandidate with
  | nil => exact ⟨bestCandidate, hbest, by simpa using hseen⟩
  | cons candidate rest ih =>
    have happend : seen ++ candidate :: rest = seen ++ [candidate] ++ rest := by simp
    have hmem : bestCandidate ∈ seen ++ candidate :: rest := List.mem_of_getElem? hbest
    have hiff := horder.iff candidate (by simp) bestCandidate hmem
    have hlength : (seen ++ [candidate]).length = seen.length + 1 := by simp
    rw [happend] at horder hbest ⊢
    rw [bestCandidateIndexFrom]
    split
    · rename_i hbetter
      have hnext : ∀ other ∈ seen ++ [candidate], ¬ less other candidate := by
        intro other hother hless
        obtain hother | hother := List.mem_append.mp hother
        · exact hseen other hother (horder.trans _ _ _ hless (hiff.mp hbetter))
        · exact horder.irrefl _ (List.mem_singleton.mp hother ▸ hless)
      rw [← hlength]
      exact ih horder (by simp) hnext
    · rename_i hbetter
      have hnext : ∀ other ∈ seen ++ [candidate], ¬ less other bestCandidate := by
        intro other hother hless
        obtain hother | hother := List.mem_append.mp hother
        · exact hseen other hother hless
        · exact hbetter (hiff.mpr (List.mem_singleton.mp hother ▸ hless))
      rw [← hlength]
      exact ih horder hbest hnext

/-- One pass over the list ends at a candidate that none is less than. -/
theorem bestCandidateIndex_least {better : TargetCandidate → TargetCandidate → Bool}
    {less : TargetCandidate → TargetCandidate → Prop} {candidates : List TargetCandidate}
    (horder : Compares better less candidates) (hne : candidates ≠ []) :
    ∃ candidate, candidates[bestCandidateIndex better candidates]? = some candidate ∧
      ∀ other ∈ candidates, ¬ less other candidate := by
  cases candidates with
  | nil => exact absurd rfl hne
  | cons candidate rest =>
    have hseen : ∀ other ∈ [candidate], ¬ less other candidate := by
      intro other hother
      rw [List.mem_singleton.mp hother]
      exact horder.irrefl candidate
    exact bestCandidateIndexFrom_least horder rfl hseen

/-! ## Loads -/

/-- The connections of a candidate for each unit of its weight. -/
def load (state : SelectorState) (accessKeyValue : GoString) (candidate : TargetCandidate) : ℚ :=
  state.connectionCount accessKeyValue candidate.key / candidate.weight

/-- The order of loads, with the key to break a tie. -/
def LessLoaded (state : SelectorState) (accessKeyValue : GoString) (a b : TargetCandidate) : Prop :=
  load state accessKeyValue a < load state accessKeyValue b ∨
    load state accessKeyValue a = load state accessKeyValue b ∧ a.key < b.key

section Loads

variable (state : SelectorState) (accessKeyValue : GoString)

theorem lessLoaded_irrefl (a : TargetCandidate) : ¬ LessLoaded state accessKeyValue a a := by
  rintro (hload | ⟨-, hkey⟩)
  · exact lt_irrefl _ hload
  · exact List.lt_irrefl _ hkey

theorem lessLoaded_trans (a b c : TargetCandidate) (hab : LessLoaded state accessKeyValue a b)
    (hbc : LessLoaded state accessKeyValue b c) : LessLoaded state accessKeyValue a c := by
  obtain hab | ⟨hab, habkey⟩ := hab
  · obtain hbc | ⟨hbc, -⟩ := hbc
    · exact Or.inl (hab.trans hbc)
    · exact Or.inl (hbc ▸ hab)
  · obtain hbc | ⟨hbc, hbckey⟩ := hbc
    · exact Or.inl (hab ▸ hbc)
    · exact Or.inr ⟨hab.trans hbc, List.lt_trans habkey hbckey⟩

/-- Of two candidates with different keys, one is less loaded. -/
theorem lessLoaded_total {a b : TargetCandidate} (hkey : a.key ≠ b.key) :
    LessLoaded state accessKeyValue a b ∨ LessLoaded state accessKeyValue b a := by
  obtain hload | hload | hload := lt_trichotomy (load state accessKeyValue a) (load state accessKeyValue b)
  · exact Or.inl (Or.inl hload)
  · obtain hlt | heq | hlt := Std.lt_trichotomy a.key b.key
    · exact Or.inl (Or.inr ⟨hload, hlt⟩)
    · exact absurd heq hkey
    · exact Or.inr (Or.inr ⟨hload.symm, hlt⟩)
  · exact Or.inr (Or.inl hload)

/-- Multiplying crosswise compares loads. -/
theorem compares_lessLoaded {candidates : List TargetCandidate}
    (hweights : ∀ candidate ∈ candidates, 1 ≤ candidate.weight) :
    Compares (fun candidate best =>
      let left := state.connectionCount accessKeyValue candidate.key * best.weight
      let right := state.connectionCount accessKeyValue best.key * candidate.weight
      left < right || (left = right && candidate.key < best.key))
      (LessLoaded state accessKeyValue) candidates where
  iff := by
    intro a ha b hb
    have hweightA : (0 : ℚ) < a.weight := by exact_mod_cast hweights a ha
    have hweightB : (0 : ℚ) < b.weight := by exact_mod_cast hweights b hb
    simp only [Bool.or_eq_true, Bool.and_eq_true, decide_eq_true_eq]
    rw [LessLoaded, load, load, div_lt_div_iff₀ hweightA hweightB, div_eq_div_iff hweightA.ne' hweightB.ne']
    norm_cast
  irrefl := lessLoaded_irrefl state accessKeyValue
  trans := lessLoaded_trans state accessKeyValue

/-- The candidate that is found: every other one is more loaded. -/
theorem leastConnectionsCandidateIndex_least {candidates : List TargetCandidate}
    (hne : candidates ≠ []) (hweights : ∀ candidate ∈ candidates, 1 ≤ candidate.weight) :
    ∃ candidate,
      candidates[leastConnectionsCandidateIndex state accessKeyValue candidates]? = some candidate ∧
      ∀ other ∈ candidates, other.key ≠ candidate.key →
        LessLoaded state accessKeyValue candidate other := by
  obtain ⟨candidate, hindex, hleast⟩ :=
    bestCandidateIndex_least (compares_lessLoaded state accessKeyValue hweights) hne
  refine ⟨candidate, hindex, ?_⟩
  intro other hother hkey
  exact (lessLoaded_total state accessKeyValue hkey).resolve_left (hleast other hother)

end Loads

theorem key_ne_of_ne {candidates : List TargetCandidate} (hkeys : (candidates.map (·.key)).Nodup)
    {i j : ℕ} (hi : i < candidates.length) (hj : j < candidates.length) (hij : j ≠ i) :
    candidates[j].key ≠ candidates[i].key := by
  intro hkey
  have heq := List.inj_on_of_nodup_map hkeys (List.getElem_mem hj) (List.getElem_mem hi) hkey
  exact hij ((hkeys.of_map _).getElem_inj_iff.mp heq)

/-- `leastConnectionsCandidateIndex` returns the one candidate that is strictly least by load and
key. No candidate has a smaller load, and the order of the candidates does not matter. -/
theorem leastConnections_picks_least (state : SelectorState) (accessKeyValue : GoString)
    {candidates : List TargetCandidate} (hne : candidates ≠ [])
    (hkeys : (candidates.map (·.key)).Nodup)
    (hweights : ∀ candidate ∈ candidates, 1 ≤ candidate.weight) :
    (∃ hlt : leastConnectionsCandidateIndex state accessKeyValue candidates < candidates.length,
      (∀ (j : ℕ) (hj : j < candidates.length),
        j ≠ leastConnectionsCandidateIndex state accessKeyValue candidates →
        LessLoaded state accessKeyValue
          candidates[leastConnectionsCandidateIndex state accessKeyValue candidates] candidates[j]) ∧
      ∀ other ∈ candidates, load state accessKeyValue
          candidates[leastConnectionsCandidateIndex state accessKeyValue candidates]
        ≤ load state accessKeyValue other) ∧
    ∀ permuted : List TargetCandidate, permuted.Perm candidates →
      candidateKey permuted (leastConnectionsCandidateIndex state accessKeyValue permuted)
        = candidateKey candidates (leastConnectionsCandidateIndex state accessKeyValue candidates) := by
  obtain ⟨candidate, hindex, hleast⟩ :=
    leastConnectionsCandidateIndex_least state accessKeyValue hne hweights
  obtain ⟨hlt, hget⟩ := List.getElem?_eq_some_iff.mp hindex
  refine ⟨⟨hlt, ?_, ?_⟩, ?_⟩
  · intro j hj hne
    rw [hget]
    refine hleast _ (List.getElem_mem hj) ?_
    rw [← hget]
    exact key_ne_of_ne hkeys hlt hj hne
  · intro other hother
    rw [hget]
    by_cases hkey : other.key = candidate.key
    · obtain rfl := List.inj_on_of_nodup_map hkeys hother (List.mem_of_getElem? hindex) hkey
      exact le_rfl
    · obtain hload | ⟨hload, -⟩ := hleast other hother hkey
      · exact hload.le
      · exact hload.le
  · intro permuted hperm
    have hne' : permuted ≠ [] := fun h => hne (List.perm_nil.mp (h ▸ hperm.symm))
    obtain ⟨candidate', hindex', hleast'⟩ := leastConnectionsCandidateIndex_least state accessKeyValue hne'
      fun candidate hcandidate => hweights candidate (hperm.mem_iff.mp hcandidate)
    rw [candidateKey, candidateKey, hindex, hindex']
    change candidate'.key = candidate.key
    by_contra hkey
    -- each would be less loaded than the other
    have hmem := List.mem_of_getElem? hindex
    have hmem' := List.mem_of_getElem? hindex'
    have hless := hleast candidate' (hperm.mem_iff.mp hmem') hkey
    have hless' := hleast' candidate (hperm.mem_iff.mpr hmem) (Ne.symm hkey)
    exact lessLoaded_irrefl state accessKeyValue _ (lessLoaded_trans state accessKeyValue _ _ _ hless hless')

theorem leastConnections_picks_least_swapped :
    candidateKey [⟨str "b", 2, 0⟩, ⟨str "a", 1, 0⟩]
        (leastConnectionsCandidateIndex {} (str "team/db") [⟨str "b", 2, 0⟩, ⟨str "a", 1, 0⟩])
      = candidateKey [⟨str "a", 1, 0⟩, ⟨str "b", 2, 0⟩]
        (leastConnectionsCandidateIndex {} (str "team/db") [⟨str "a", 1, 0⟩, ⟨str "b", 2, 0⟩]) :=
  (leastConnections_picks_least {} (str "team/db") (by decide) (by decide) (by decide)).2 _
    (List.Perm.swap _ _ _)

/-! ## Pods -/

/-- Under `LeastConnections`, a new connection that affinity remembers no Pod for goes to the active
Pod that is least loaded for its weight, whatever connections are open; ties go to the smaller
key. -/
theorem selectPod_least (state : SelectorState) (draw : Draw) (access : Access) (pods : List Pod)
    (input : Target.ResolveInput) (h : candidatePods pods ≠ [])
    (hstrategy : strategyType access = .leastConnections)
    (hforgotten : (podRequest draw access pods input h).remembered state = none) :
    ∃ pod ∈ candidatePods pods, (∃ key, (selectPod state draw access pods input).1 = some (pod, key)) ∧
      ∀ other ∈ candidatePods pods, podTargetKey access.ns other ≠ podTargetKey access.ns pod →
        LessLoaded state (accessKey access.ns access.name) (podCandidate draw access pod)
          (podCandidate draw access other) := by
  have hselect := Request.select_of_chosen hforgotten
  generalize hrequest : podRequest draw access pods input h = request at hselect
  have hcandidates : request.candidates = (candidatePods pods).map (podCandidate draw access) := by
    rw [← hrequest]
    rfl
  have hindex : (request.select state).1.1
      = leastConnectionsCandidateIndex state (accessKey access.ns access.name) request.candidates := by
    rw [hselect, ← hrequest]
    change (strategyCandidateIndex state draw _ _ (strategyType access)).1 = _
    rw [hstrategy]
    rfl
  obtain ⟨candidate, hfound, hleast⟩ := leastConnectionsCandidateIndex_least state
    (accessKey access.ns access.name) request.candidates_ne request.weight_pos
  rw [← hindex, hcandidates, List.getElem?_map] at hfound
  obtain ⟨pod, hpod, rfl⟩ := Option.map_eq_some_iff.mp hfound
  refine ⟨pod, List.mem_of_getElem? hpod, ⟨(request.select state).1.2, ?_⟩, fun other hother hkey => ?_⟩
  · rw [selectPod_eq state draw access pods input h, hrequest]
    dsimp only
    rw [hpod]
    rfl
  · exact hleast _ (hcandidates ▸ List.mem_map_of_mem hother) hkey

/-- The Access `team/db` gives Pods with labels the weight 3. -/
def loadedAccess : Access where
  ns := str "team"
  name := str "db"
  spec :=
    { strategy := some
        { type := .leastConnections
          weights := [⟨AList.insert (str "size") (str "large") ∅, 3⟩] } }

theorem dbPod_uid_ne_nil (name : GoString) : str "uid-" ++ name ≠ [] := by simp [str]

def dbPod (name : GoString) (labels : GoMap GoString) : Pod where
  ns := str "team"
  name := name
  uid := str "uid-" ++ name
  uid_ne_nil := dbPod_uid_ne_nil name
  labels := labels

/-- Two connections to `large`, which has the weight 3, are less than one to `small`, so the next
one goes there. -/
theorem selectPod_least_weighted :
    let draw : Draw := { now := 0, intn := id, setMatches := fun _ labels => labels.entries ≠ [] }
    let large := dbPod (str "large") (AList.insert (str "size") (str "large") ∅)
    let small := dbPod (str "small") ∅
    let key := targetConnectionKey (str "team/db") ∘ podTargetKey (str "team")
    let state : SelectorState := { connections := (AList.insert (key large) 2 ∅).insert (key small) 1 }
    (∃ key, (selectPod state draw loadedAccess [small, large] { sshUser := str "team.db" }).1
        = some (large, key)) ∧
      LessLoaded state (str "team/db") (podCandidate draw loadedAccess large)
        (podCandidate draw loadedAccess small) := by
  intro draw large small key state
  obtain ⟨pod, hpod, hselect, hleast⟩ := selectPod_least state draw loadedAccess [small, large]
    { sshUser := str "team.db" } (List.cons_ne_nil _ _) rfl rfl
  have hcandidates : candidatePods [small, large] = [large, small] := rfl
  rw [hcandidates] at hpod hleast
  have hlarge : load state (str "team/db") (podCandidate draw loadedAccess large) = 2 / 3 := rfl
  have hsmall : load state (str "team/db") (podCandidate draw loadedAccess small) = 1 / 1 := rfl
  rcases List.mem_pair.mp hpod with rfl | rfl
  · exact ⟨hselect, hleast small (by simp) (by decide)⟩
  · -- the other Pod would have to be less loaded
    have hless : LessLoaded state (str "team/db") (podCandidate draw loadedAccess small)
      (podCandidate draw loadedAccess large) := hleast large (by simp) (by decide)
    rw [LessLoaded, hlarge, hsmall] at hless
    exact absurd hless (by decide +kernel)

end KubeSsh.AccessPolicy

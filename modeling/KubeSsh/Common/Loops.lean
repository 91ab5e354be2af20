import Mathlib.Data.Finset.Dedup
import Mathlib.Data.Finset.Lattice.Basic
import Mathlib.Data.List.FinRange

/-!
# Loops that stop at the first error

Two loops over a list in `Except`: `collect` gathers the values of all elements in a set, and
`positions` the indices of the elements that pass a test. Both are specified by an iff: they succeed
if every step does, and the result is then determined by the steps.
-/

namespace KubeSsh

variable {ε α β : Type}

theorem bind_eq_ok_iff {x : Except ε α} {f : α → Except ε β} {b : β} :
    (x >>= f) = .ok b ↔ ∃ a, x = .ok a ∧ f a = .ok b := by
  cases x with
  | error err => simp [bind, Except.bind]
  | ok a => simp [bind, Except.bind]

theorem map_eq_ok_iff {x : Except ε α} {f : α → β} {b : β} :
    x.map f = .ok b ↔ ∃ a, x = .ok a ∧ f a = b := by
  cases x with
  | error err => simp [Except.map]
  | ok a => simp [Except.map]

section Collect

variable [DecidableEq β]

/-- `for _, x := range xs { for _, v := range f(x) { values[v] = struct{}{} } }`, where `f` may
fail. -/
def collect (f : α → Except ε (List β)) : Finset β → List α → Except ε (Finset β)
  | values, [] => .ok values
  | values, x :: xs =>
    match f x with
    | .error err => .error err
    | .ok more => collect f (values ∪ more.toFinset) xs

theorem collect_eq_ok_iff {f : α → Except ε (List β)} {values result : Finset β} {xs : List α} :
    collect f values xs = .ok result ↔
      (∀ x ∈ xs, ∃ more, f x = .ok more) ∧
        ∀ v, v ∈ result ↔ v ∈ values ∨ ∃ x ∈ xs, ∃ more, f x = .ok more ∧ v ∈ more := by
  induction xs generalizing values with
  | nil =>
    simp only [collect, Except.ok.injEq, List.not_mem_nil, false_implies, implies_true, true_and,
      false_and, exists_false, or_false]
    exact ⟨fun h v => h ▸ Iff.rfl, fun h => Finset.ext fun v => (h v).symm⟩
  | cons x xs ih =>
    rw [collect]
    cases hx : f x with
    | error err => simp [hx]
    | ok more =>
      simp only [ih, List.mem_cons, forall_eq_or_imp, exists_eq_or_imp, hx, Except.ok.injEq,
        exists_eq', exists_eq_left', true_and, Finset.mem_union, List.mem_toFinset, or_assoc]

/-- A loop that also refuses elements without values collects the same set if it succeeds. -/
theorem collect_of_refusing {δ : Type} {f : α → Except ε (List β)} {g : α → Except δ (List β)}
    (hfg : ∀ x more, f x = .ok more ↔ g x = .ok more ∧ more ≠ []) {values result : Finset β}
    {xs : List α} (h : collect f values xs = .ok result) : collect g values xs = .ok result := by
  rw [collect_eq_ok_iff] at h ⊢
  refine ⟨fun x hx => ?_, fun v => ?_⟩
  · obtain ⟨more, hmore⟩ := h.1 x hx
    exact ⟨more, ((hfg x more).mp hmore).1⟩
  · rw [h.2]
    refine or_congr_right (exists_congr fun x => and_congr_right fun _ => exists_congr fun more =>
      and_congr_left fun hv => ?_)
    rw [hfg]
    exact and_iff_left (List.ne_nil_of_mem hv)

end Collect

/-- The elements that pass a test that may fail. -/
def selectM (test : α → Except ε Bool) : List α → Except ε (List α)
  | [] => .ok []
  | x :: xs =>
    match test x with
    | .error err => .error err
    | .ok passed => (selectM test xs).map fun rest => if passed then x :: rest else rest

theorem selectM_eq_ok_iff {test : α → Except ε Bool} {xs result : List α} :
    selectM test xs = .ok result ↔
      (∀ x ∈ xs, ∃ passed, test x = .ok passed) ∧
        result = xs.filter fun x => (test x).toOption.getD false := by
  induction xs generalizing result with
  | nil => simp [selectM, eq_comm]
  | cons x xs ih =>
    rw [selectM]
    cases hx : test x with
    | error err => simp [hx]
    | ok passed =>
      rw [map_eq_ok_iff]
      simp only [ih, List.forall_mem_cons, hx, Except.ok.injEq, exists_eq', true_and,
        List.filter_cons, Except.toOption, Option.getD_some, and_assoc, exists_and_left,
        exists_eq_left, eq_comm]

/-- The loop that appends `i` to `matches` for every element that passes a test that may fail. -/
def positions (test : α → Except ε Bool) (xs : List α) : Except ε (List (Fin xs.length)) :=
  selectM (fun i => test xs[i]) (List.finRange xs.length)

/-- Exactly one element passes. -/
theorem positions_eq_singleton_iff {test : α → Except ε Bool} {xs : List α} {i : Fin xs.length} :
    positions test xs = .ok [i] ↔
      (∀ x ∈ xs, ∃ passed, test x = .ok passed) ∧ ∀ j : Fin xs.length, test xs[j] = .ok true ↔ j = i := by
  have hpassed : ∀ result : Except ε Bool, result.toOption.getD false = true ↔ result = .ok true := by
    intro result
    rcases result with _ | _ | _ <;> simp [Except.toOption]
  have hall : (∀ j ∈ List.finRange xs.length, ∃ passed, test xs[j] = .ok passed) ↔
      ∀ x ∈ xs, ∃ passed, test x = .ok passed := by
    simp only [List.mem_finRange, true_implies]
    exact ⟨fun h => List.forall_mem_iff_getElem.mpr fun j hj => h ⟨j, hj⟩,
      fun h j => h _ (List.getElem_mem _)⟩
  rw [positions, selectM_eq_ok_iff, hall]
  refine and_congr_right fun _ => ⟨fun h j => ?_, fun h => ?_⟩
  · have hj := List.mem_singleton (a := j) (b := i)
    rw [h, List.mem_filter, hpassed] at hj
    simpa using hj
  · have hfilter : ((List.finRange xs.length).filter fun j => (test xs[j]).toOption.getD false) =
        (List.finRange xs.length).filter (· = i) := by
      refine List.filter_congr fun j _ => ?_
      rw [Bool.eq_iff_iff, hpassed, h j, decide_eq_true_iff]
    rw [hfilter, List.filter_eq, List.count_eq_one_of_mem (List.nodup_finRange _)
      (List.mem_finRange i)]
    rfl

end KubeSsh

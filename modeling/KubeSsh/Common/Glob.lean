import KubeSsh.Common.GoString

/-!
# Glob patterns with one wildcard

A pattern over an alphabet `α` is a word in which the letter `star` stands for any word, the empty
one included. `Glob` is the matching relation; everything else is how it behaves under the
operations a matcher or a policy performs on patterns: concatenation, splitting at a letter, adding
text next to a leading or trailing wildcard, removing text that only a wildcard can have matched.
-/

namespace KubeSsh

variable {α : Type*} {star : α}

/-- `Glob star p v`: the word `v` is `p` with every `star` replaced by some word. -/
inductive Glob (star : α) : List α → List α → Prop
  | nil : Glob star [] []
  | lit {c : α} {p v : List α} : c ≠ star → Glob star p v → Glob star (c :: p) (c :: v)
  | skip {p v : List α} : Glob star p v → Glob star (star :: p) v
  | take {a : α} {p v : List α} : Glob star (star :: p) v → Glob star (star :: p) (a :: v)

namespace Glob

/-! ## The two letters of a pattern -/

variable {v p : List α} {c : α}

theorem nil_iff : Glob star [] v ↔ v = [] := by
  constructor
  · rintro ⟨⟩
    rfl
  · rintro rfl
    exact .nil

theorem cons_iff (hc : c ≠ star) :
    Glob star (c :: p) v ↔ ∃ v', v = c :: v' ∧ Glob star p v' := by
  constructor
  · intro h
    cases h with
    | lit _ h => exact ⟨_, rfl, h⟩
    | skip => exact absurd rfl hc
    | take => exact absurd rfl hc
  · rintro ⟨v', rfl, h⟩
    exact .lit hc h

theorem star_append (pre : List α) (h : Glob star (star :: p) v) :
    Glob star (star :: p) (pre ++ v) := by
  induction pre with
  | nil => exact h
  | cons a pre ih => exact .take ih

/-- A wildcard matches any prefix. -/
theorem star_iff :
    Glob star (star :: p) v ↔ ∃ pre rest, v = pre ++ rest ∧ Glob star p rest := by
  constructor
  · intro h
    generalize hq : star :: p = q at h
    induction h with
    | nil => cases hq
    | lit hc _ _ =>
      obtain ⟨rfl, -⟩ := List.cons.inj hq
      exact absurd rfl hc
    | skip h _ =>
      obtain ⟨-, rfl⟩ := List.cons.inj hq
      exact ⟨[], _, rfl, h⟩
    | take _ ih =>
      obtain ⟨pre, rest, rfl, h⟩ := ih hq
      exact ⟨_ :: pre, rest, rfl, h⟩
  · rintro ⟨pre, rest, rfl, h⟩
    exact star_append pre (.skip h)

/-! ## Concatenation -/

theorem append_intro {q w : List α} (hp : Glob star p v) (hq : Glob star q w) :
    Glob star (p ++ q) (v ++ w) := by
  induction hp with
  | nil => exact hq
  | lit hc _ ih => exact .lit hc ih
  | skip _ ih => exact .skip ih
  | take _ ih => exact .take ih

/-- Patterns match concatenations piecewise. -/
theorem append_iff {q : List α} :
    Glob star (p ++ q) v ↔ ∃ v1 v2, v = v1 ++ v2 ∧ Glob star p v1 ∧ Glob star q v2 := by
  constructor
  · intro h
    induction p generalizing v with
    | nil => exact ⟨[], v, rfl, .nil, h⟩
    | cons c p ih =>
      rw [List.cons_append] at h
      by_cases hc : c = star
      · subst hc
        obtain ⟨pre, rest, rfl, hrest⟩ := star_iff.mp h
        obtain ⟨v1, v2, rfl, h1, h2⟩ := ih hrest
        exact ⟨pre ++ v1, v2, by simp, star_append pre (.skip h1), h2⟩
      · obtain ⟨v', rfl, hrest⟩ := (cons_iff hc).mp h
        obtain ⟨v1, v2, rfl, h1, h2⟩ := ih hrest
        exact ⟨c :: v1, v2, rfl, .lit hc h1, h2⟩
  · rintro ⟨v1, v2, rfl, h1, h2⟩
    exact append_intro h1 h2

/-- A pattern with a literal letter `c` matches by splitting the value at one `c`. -/
theorem append_cons_iff (hc : c ≠ star) {q : List α} :
    Glob star (p ++ c :: q) v ↔
      ∃ v1 v2, v = v1 ++ c :: v2 ∧ Glob star p v1 ∧ Glob star q v2 := by
  rw [append_iff]
  constructor
  · rintro ⟨v1, v2, rfl, h1, h2⟩
    obtain ⟨v', rfl, h⟩ := (cons_iff hc).mp h2
    exact ⟨v1, v', rfl, h1, h⟩
  · rintro ⟨v1, v2, rfl, h1, h2⟩
    exact ⟨v1, c :: v2, rfl, h1, .lit hc h2⟩

/-- A pattern without wildcards matches only itself. -/
theorem literal_iff (hp : star ∉ p) : Glob star p v ↔ v = p := by
  induction p generalizing v with
  | nil => exact nil_iff
  | cons c p ih =>
    rw [List.mem_cons, not_or] at hp
    rw [cons_iff (Ne.symm hp.1)]
    constructor
    · rintro ⟨v', rfl, h⟩
      rw [(ih hp.2).mp h]
    · rintro rfl
      exact ⟨p, rfl, (ih hp.2).mpr rfl⟩

/-- Every pattern matches its own text. -/
theorem refl (p : List α) : Glob star p p := by
  classical
  induction p with
  | nil => exact .nil
  | cons c p ih =>
    by_cases hc : c = star
    · subst hc
      exact .take (.skip ih)
    · exact .lit hc ih

/-! ## Reversal -/

theorem reverse (h : Glob star p v) : Glob star p.reverse v.reverse := by
  induction h with
  | nil => exact .nil
  | lit hc _ ih =>
    rw [List.reverse_cons, List.reverse_cons]
    exact append_intro ih (.lit hc .nil)
  | @skip p v _ ih =>
    rw [List.reverse_cons]
    exact append_iff.mpr ⟨v.reverse, [], by simp, ih, .skip .nil⟩
  | @take a p v _ ih =>
    rw [List.reverse_cons] at ih ⊢
    obtain ⟨v1, v2, hv, h1, -⟩ := append_iff.mp ih
    rw [List.reverse_cons, hv, List.append_assoc]
    exact append_intro h1 (star_iff.mpr ⟨v2 ++ [a], [], by simp, .nil⟩)

theorem reverse_iff : Glob star p.reverse v.reverse ↔ Glob star p v :=
  ⟨fun h => by simpa using h.reverse, reverse⟩

/-! ## Text next to a leading or trailing wildcard -/

/-- A pattern that ends in a wildcard also matches every extension of what it matches. -/
theorem extend_right (hp : [star] <:+ p) (w : List α) (h : Glob star p v) :
    Glob star p (v ++ w) := by
  obtain ⟨q, rfl⟩ := hp
  obtain ⟨v1, v2, rfl, h1, -⟩ := append_iff.mp h
  rw [List.append_assoc]
  exact append_intro h1 (star_iff.mpr ⟨v2 ++ w, [], by simp, .nil⟩)

/-- A pattern that starts with a wildcard also matches everything that ends in what it matches. -/
theorem extend_left (hp : [star] <+: p) (w : List α) (h : Glob star p v) :
    Glob star p (w ++ v) := by
  obtain ⟨q, rfl⟩ := hp
  exact star_append w h

/-- A letter that does not occur in the pattern is matched by a wildcard, so it can be removed from
the front of the value. -/
theorem tail_of_notMem (hp : c ∉ p) (h : Glob star p (c :: v)) :
    Glob star p v := by
  induction p with
  | nil => exact absurd (nil_iff.mp h) (by simp)
  | cons d p ih =>
    rw [List.mem_cons, not_or] at hp
    by_cases hd : d = star
    · subst hd
      cases h with
      | lit hc _ => exact absurd rfl hc
      | skip h => exact .skip (ih hp.2 h)
      | take h => exact h
    · obtain ⟨v', hv, -⟩ := (cons_iff hd).mp h
      exact absurd (List.cons.inj hv).1 hp.1

theorem init_of_notMem (hp : c ∉ p) (h : Glob star p (v ++ [c])) :
    Glob star p v := by
  rw [← reverse_iff] at h ⊢
  rw [List.reverse_append, List.reverse_singleton, List.singleton_append] at h
  exact tail_of_notMem (by simpa using hp) h

/-- Only a leading wildcard can match a first letter that the pattern does not contain. -/
theorem head_of_notMem (hp : c ∉ p) (h : Glob star p (c :: v)) :
    [star] <+: p := by
  cases p with
  | nil => exact absurd (nil_iff.mp h) (by simp)
  | cons d p =>
    by_cases hd : d = star
    · exact ⟨p, by rw [hd]; rfl⟩
    · obtain ⟨v', hv, -⟩ := (cons_iff hd).mp h
      exact absurd (List.mem_cons.mpr (Or.inl (List.cons.inj hv).1)) hp

theorem last_of_notMem (hp : c ∉ p) (h : Glob star p (v ++ [c])) :
    [star] <:+ p := by
  rw [← reverse_iff, List.reverse_append, List.reverse_singleton, List.singleton_append] at h
  have := head_of_notMem (by simpa using hp) h
  rwa [← List.reverse_singleton, List.reverse_prefix] at this

/-- A letter of the value that the pattern does not contain needs a wildcard. -/
theorem star_mem_of_notMem {w : List α} (hp : c ∉ p)
    (h : Glob star p (v ++ c :: w)) : star ∈ p := by
  by_contra hs
  rw [literal_iff hs] at h
  exact hp (h ▸ by simp)

/-! ## The literal letters of a pattern -/

section Literals

variable [DecidableEq α]

/-- The letters of a pattern other than its wildcards: its shortest instance. -/
def literals (star : α) (p : List α) : List α := p.filter (· ≠ star)

theorem glob_literals (p : List α) : Glob star p (literals star p) := by
  induction p with
  | nil => exact .nil
  | cons c p ih =>
    by_cases hc : c = star
    · subst hc
      simpa [literals] using Glob.skip ih
    · simpa [literals, hc] using Glob.lit hc ih

/-- Whatever a pattern matches contains its literal letters in order. -/
theorem literals_sublist {p v : List α} (h : Glob star p v) : (literals star p).Sublist v := by
  induction h with
  | nil => exact .refl _
  | @lit c p v hc _ ih => simpa [literals, hc] using ih
  | skip _ ih => simpa [literals] using ih
  | take _ ih => exact ih.cons _

theorem mem_literals {c : α} {p : List α} : c ∈ literals star p ↔ c ∈ p ∧ c ≠ star := by
  simp [literals]

end Literals

/-! ## Patterns as values -/

/-- A pattern may match another pattern as a word; it then matches whatever that one matches. -/
theorem trans {p q v : List α} (hpq : Glob star p q) (hqv : Glob star q v) : Glob star p v := by
  induction hpq generalizing v with
  | nil => exact hqv
  | lit hc _ ih =>
    obtain ⟨v', rfl, h⟩ := (cons_iff hc).mp hqv
    exact .lit hc (ih h)
  | skip _ ih => exact .skip (ih hqv)
  | @take a p q _ ih =>
    by_cases ha : a = star
    · subst ha
      obtain ⟨pre, rest, rfl, h⟩ := star_iff.mp hqv
      exact star_append pre (ih h)
    · obtain ⟨v', rfl, h⟩ := (cons_iff ha).mp hqv
      exact .take (ih h)

/-! ## Filling in the wildcards -/

section Fill

variable [DecidableEq α]

/-- The pattern with its wildcards replaced by these words, from left to right. -/
def fill (star : α) : (ℕ → List α) → List α → List α
  | _, [] => []
  | words, c :: p =>
    if c = star then words 0 ++ fill star (fun i => words (i + 1)) p else c :: fill star words p

theorem iff_exists_fill {p v : List α} : Glob star p v ↔ ∃ words, v = fill star words p := by
  induction p generalizing v with
  | nil => simp [nil_iff, fill]
  | cons c p ih =>
    by_cases hc : c = star
    · subst hc
      rw [star_iff]
      constructor
      · rintro ⟨pre, rest, rfl, h⟩
        obtain ⟨words, rfl⟩ := ih.mp h
        refine ⟨fun i => Nat.casesOn i pre words, ?_⟩
        rw [fill, if_pos rfl]
        rfl
      · rintro ⟨words, rfl⟩
        rw [fill, if_pos rfl]
        exact ⟨words 0, _, rfl, ih.mpr ⟨_, rfl⟩⟩
    · rw [cons_iff hc]
      constructor
      · rintro ⟨v', rfl, h⟩
        obtain ⟨words, rfl⟩ := ih.mp h
        exact ⟨words, by rw [fill, if_neg hc]⟩
      · rintro ⟨words, rfl⟩
        rw [fill, if_neg hc]
        exact ⟨_, rfl, ih.mpr ⟨words, rfl⟩⟩

end Fill

end Glob

end KubeSsh

import KubeSsh.Common.Glob

/-!
# `pkg/wildcard`: asterisk matching

`wildcard.Match` splits the pattern at its asterisks and searches the pieces from left to right,
each at its first occurrence; the last piece is compared with the end of what is left.
`isMatch_iff_glob` says that this greedy search is exact: it decides `Glob`.
-/

namespace KubeSsh.Wildcard

open Strings

/-- The loop over `parts[1 : len(parts)-1]`: what is left of the value behind the middle pieces,
`none` when a piece is not found (`pattern.go:26-34`). -/
def matchMiddle : List GoString → GoString → Option GoString
  | [], rest => some rest
  | part :: parts, rest =>
    if part = [] then matchMiddle parts rest
    else match afterFirst part rest with
      | none => none
      | some rest => matchMiddle parts rest

/-- `wildcard.Match` (`pattern.go:8-36`). -/
def isMatch (pattern value : GoString) : Bool :=
  if pattern = value ∨ pattern = [Byte.star] then true
  else if Byte.star ∉ pattern then false
  else
    let parts := pattern.splitOn Byte.star
    let first := parts.headD []
    if first ≠ [] ∧ ¬ first.isPrefixOf value then false
    else match matchMiddle (parts.drop 1).dropLast (value.drop first.length) with
      | none => false
      | some rest =>
        let last := parts.getLastD []
        last = [] || last.isSuffixOf rest

/-- `wildcard.MatchAny` (`pattern.go:40-47`). -/
def matchAny (patterns : List GoString) (value : GoString) : Bool :=
  patterns.any fun candidate => isMatch candidate value

/-! ## The greedy search is exact -/

/-- The pattern behind the first piece: `*m1*m2…*last`. -/
def tailPattern (middle : List GoString) (last : GoString) : GoString :=
  Byte.star :: (middle.flatMap (· ++ [Byte.star]) ++ last)

theorem tailPattern_nil_iff {last rest : GoString} (hlast : Byte.star ∉ last) :
    Glob Byte.star (tailPattern [] last) rest ↔ last <:+ rest := by
  rw [tailPattern, List.flatMap_nil, List.nil_append, Glob.star_iff]
  constructor
  · rintro ⟨pre, post, rfl, h⟩
    rw [(Glob.literal_iff hlast).mp h]
    exact ⟨pre, rfl⟩
  · rintro ⟨pre, rfl⟩
    exact ⟨pre, last, rfl, (Glob.literal_iff hlast).mpr rfl⟩

theorem tailPattern_cons_iff {part last rest : GoString} {parts : List GoString}
    (hpart : Byte.star ∉ part) :
    Glob Byte.star (tailPattern (part :: parts) last) rest ↔
      ∃ pre post, rest = pre ++ part ++ post ∧ Glob Byte.star (tailPattern parts last) post := by
  have hshape : tailPattern (part :: parts) last
      = Byte.star :: (part ++ tailPattern parts last) := by
    simp [tailPattern]
  rw [hshape, Glob.star_iff]
  constructor
  · rintro ⟨pre, post, rfl, h⟩
    obtain ⟨v1, v2, rfl, h1, h2⟩ := Glob.append_iff.mp h
    rw [(Glob.literal_iff hpart).mp h1]
    exact ⟨pre, v2, by simp, h2⟩
  · rintro ⟨pre, post, rfl, h⟩
    exact ⟨pre, part ++ post, by simp,
      Glob.append_intro ((Glob.literal_iff hpart).mpr rfl) h⟩

/-- The middle loop and the comparison of the last piece decide the rest of the pattern. The first
occurrence of a piece is the right one to take: it leaves the longest rest, and the pattern behind
it starts with an asterisk. -/
theorem matchMiddle_iff {middle : List GoString} {last rest : GoString}
    (hmiddle : ∀ part ∈ middle, Byte.star ∉ part) (hlast : Byte.star ∉ last) :
    (∃ r, matchMiddle middle rest = some r ∧ last <:+ r) ↔
      Glob Byte.star (tailPattern middle last) rest := by
  induction middle generalizing rest with
  | nil => simp [matchMiddle, tailPattern_nil_iff hlast]
  | cons part parts ih =>
    have hpart : Byte.star ∉ part := hmiddle part (by simp)
    have hparts : ∀ p ∈ parts, Byte.star ∉ p := fun p hp => hmiddle p (by simp [hp])
    rw [tailPattern_cons_iff hpart]
    by_cases hempty : part = []
    · subst hempty
      simp only [matchMiddle, if_true, ih hparts]
      constructor
      · intro h
        exact ⟨[], rest, by simp, h⟩
      · rintro ⟨pre, post, rfl, h⟩
        rw [List.append_nil]
        exact Glob.star_append pre h
    · simp only [matchMiddle, if_neg hempty]
      constructor
      · rintro ⟨r, hr, hsuffix⟩
        cases hafter : afterFirst part rest with
        | none => simp [hafter] at hr
        | some rest' =>
          rw [hafter] at hr
          obtain ⟨pre, rfl⟩ := afterFirst_eq_some hafter
          exact ⟨pre, rest', rfl, (ih hparts).mp ⟨r, hr, hsuffix⟩⟩
      · rintro ⟨pre, post, rfl, h⟩
        obtain ⟨pre', rest', hafter, rfl⟩ := afterFirst_of_append pre part post
        rw [hafter]
        exact (ih hparts).mpr (Glob.star_append pre' h)

/-- A pattern with an asterisk, taken apart as the source does. -/
theorem splitOn_star {pattern : GoString} (h : Byte.star ∈ pattern) :
    ∃ first middle last, pattern.splitOn Byte.star = first :: (middle ++ [last]) ∧
      pattern = first ++ tailPattern middle last ∧
      (∀ part ∈ first :: (middle ++ [last]), Byte.star ∉ part) := by
  induction pattern with
  | nil => simp at h
  | cons c p ih =>
    by_cases hc : c = Byte.star
    · subst hc
      rw [List.splitOn_cons_eq_if_modifyHead, if_pos (by simp)]
      by_cases hp : Byte.star ∈ p
      · obtain ⟨first, middle, last, hsplit, hp, hfree⟩ := ih hp
        refine ⟨[], first :: middle, last, by rw [hsplit]; rfl, ?_, ?_⟩
        · rw [hp]
          simp [tailPattern]
        · simpa using hfree
      · refine ⟨[], [], p, by rw [List.splitOn_eq_singleton hp]; rfl, by simp [tailPattern], ?_⟩
        simpa using hp
    · rw [List.mem_cons, or_iff_right (Ne.symm hc)] at h
      obtain ⟨first, middle, last, hsplit, hp, hfree⟩ := ih h
      rw [List.splitOn_cons_eq_if_modifyHead, if_neg (by simpa using hc), hsplit]
      refine ⟨c :: first, middle, last, rfl, by rw [hp]; rfl, ?_⟩
      simp only [List.mem_cons, forall_eq_or_imp] at hfree ⊢
      exact ⟨by simpa [Ne.symm hc] using hfree.1, hfree.2⟩

/-- `wildcard.Match` is glob matching with `*`. -/
theorem isMatch_iff_glob {pattern value : GoString} :
    isMatch pattern value = true ↔ Glob Byte.star pattern value := by
  by_cases hshort : pattern = value ∨ pattern = [Byte.star]
  · simp only [isMatch, if_pos hshort, true_iff]
    rcases hshort with rfl | rfl
    · exact Glob.refl _
    · exact Glob.star_iff.mpr ⟨value, [], by simp, .nil⟩
  by_cases hstar : Byte.star ∈ pattern
  · obtain ⟨first, middle, last, hsplit, hpattern, hfree⟩ := splitOn_star hstar
    have hfirst : Byte.star ∉ first := hfree first (by simp)
    have hmiddle : ∀ part ∈ middle, Byte.star ∉ part := fun p hp => hfree p (by simp [hp])
    have hlast : Byte.star ∉ last := hfree last (by simp)
    have hcode : isMatch pattern value = true ↔ first <+: value ∧
        ∃ r, matchMiddle middle (value.drop first.length) = some r ∧ last <:+ r := by
      simp only [isMatch, if_neg hshort, if_neg (not_not.mpr hstar), hsplit, List.headD_cons,
        List.drop_one, List.tail_cons, List.dropLast_concat]
      have hget : (first :: (middle ++ [last])).getLastD [] = last := by
        rw [← List.cons_append, List.getLastD_concat]
      rw [hget]
      by_cases hp : first <+: value
      · rw [if_neg (by simp [hp])]
        cases matchMiddle middle (value.drop first.length) with
        | none => simp
        | some r => simp +contextual [hp, or_iff_right_of_imp]
      · have hne : first ≠ [] := fun h => hp (h ▸ List.nil_prefix)
        rw [if_pos ⟨hne, by simpa using hp⟩]
        simp [hp]
    rw [hcode, matchMiddle_iff hmiddle hlast, hpattern, Glob.append_iff]
    constructor
    · rintro ⟨⟨w, rfl⟩, h⟩
      rw [List.drop_left] at h
      exact ⟨first, w, rfl, (Glob.literal_iff hfirst).mpr rfl, h⟩
    · rintro ⟨v1, v2, rfl, h1, h2⟩
      rw [(Glob.literal_iff hfirst).mp h1]
      exact ⟨⟨v2, rfl⟩, by rwa [List.drop_left]⟩
  · simp only [isMatch, if_neg hshort, if_pos hstar, Bool.false_eq_true, false_iff,
      Glob.literal_iff hstar]
    exact fun h => hshort (Or.inl h.symm)

/-- `wildcard.Match` accepts exactly the values that the pattern gives when every asterisk is
replaced by some string. -/
theorem isMatch_iff_filled (pattern value : GoString) :
    isMatch pattern value = true ↔
      ∃ words : ℕ → GoString, value = Glob.fill Byte.star words pattern := by
  rw [isMatch_iff_glob, Glob.iff_exists_fill]

/-- A pattern that matches the text of another pattern matches all its values. -/
theorem isMatch_trans {pattern between value : GoString} (h : isMatch pattern between = true)
    (h' : isMatch between value = true) : isMatch pattern value = true :=
  isMatch_iff_glob.mpr ((isMatch_iff_glob.mp h).trans (isMatch_iff_glob.mp h'))

theorem matchAny_iff {patterns : List GoString} {value : GoString} :
    matchAny patterns value = true ↔ ∃ p ∈ patterns, isMatch p value = true := by
  simp [matchAny]

/-- The pattern `*` matches every value. -/
theorem matchAny_star (value : GoString) : matchAny [str "*"] value = true := by
  refine matchAny_iff.mpr ⟨_, List.mem_singleton_self _, ?_⟩
  have hstar : str "*" = [Byte.star] := rfl
  rw [isMatch, if_pos (Or.inr hstar)]

end KubeSsh.Wildcard

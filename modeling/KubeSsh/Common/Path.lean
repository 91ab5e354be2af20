import KubeSsh.Common.GoString

/-!
# Slash-separated paths

The lexical part of Go's packages `path` and `path/filepath` (on Unix, where the two agree). A path
is read as a `Lexical` path: whether it starts at the root, and its elements after `.` and `..` have
been worked off. `clean` writes it out again.

What a caller needs is that joining a path with a proper name extends the elements by that name
(`lexical_join`), and that what `clean` writes reads back unchanged (`lexical_render`).
-/

namespace KubeSsh

namespace Path

def dot : GoString := [Byte.dot]
def dotdot : GoString := [Byte.dot, Byte.dot]

/-- A name of a directory entry: one element of a path, and none that leads elsewhere. -/
structure IsName (name : GoString) : Prop where
  ne_nil : name ≠ []
  ne_dot : name ≠ dot
  ne_dotdot : name ≠ dotdot
  slash : Byte.slash ∉ name

instance (name : GoString) : Decidable (IsName name) :=
  decidable_of_iff (name ≠ [] ∧ name ≠ dot ∧ name ≠ dotdot ∧ Byte.slash ∉ name)
    ⟨fun h => ⟨h.1, h.2.1, h.2.2.1, h.2.2.2⟩, fun h => ⟨h.1, h.2, h.3, h.4⟩⟩

/-- A path as its elements. -/
structure Lexical where
  rooted : Bool
  parts : List GoString
deriving DecidableEq

/-- The elements so far, the last one first, after one more. -/
def step (rooted : Bool) (out : List GoString) (element : GoString) : List GoString :=
  if element = [] ∨ element = dot then out
  else if element = dotdot then
    match out with
    | [] => if rooted then [] else [dotdot]
    | last :: rest => if last = dotdot then dotdot :: last :: rest else rest
  else element :: out

/-- The elements of a path. -/
def lexical (path : GoString) : Lexical :=
  let rooted := path.head? = some Byte.slash
  ⟨rooted, ((path.splitOn Byte.slash).foldl (step rooted) []).reverse⟩

/-- The path with these elements. -/
def Lexical.render (l : Lexical) : GoString :=
  if l.rooted then Byte.slash :: [Byte.slash].intercalate l.parts
  else if l.parts = [] then dot
  else [Byte.slash].intercalate l.parts

/-- `path.Clean`, `filepath.Clean`. -/
def clean (path : GoString) : GoString := (lexical path).render

/-- `path.Join`, `filepath.Join` with two elements. -/
def join (parent name : GoString) : GoString :=
  if parent = [] then if name = [] then [] else clean name
  else clean (parent ++ Byte.slash :: name)

/-- `path.Dir`: what comes before the last slash, and the slash. -/
def dir (path : GoString) : GoString :=
  clean (match Strings.cutLast Byte.slash path with
    | some (before, _) => before ++ [Byte.slash]
    | none => [])

example : clean (str "a//./b/../../../c/") = str "../c" := by decide
example : clean (str "/../a/b/..") = str "/a" := by decide
example : join [] [] = [] ∧ clean [] = str "." ∧ dir (str "/tmp/x") = str "/tmp" := by decide

/-! ## Working off the elements -/

variable {element name : GoString}

theorem step_skip (h : element = [] ∨ element = dot) (rooted : Bool)
    (out : List GoString) : step rooted out element = out := by
  unfold step
  rw [if_pos h]

theorem step_plain (hskip : ¬ (element = [] ∨ element = dot))
    (hdotdot : element ≠ dotdot) (rooted : Bool) (out : List GoString) :
    step rooted out element = element :: out := by
  unfold step
  rw [if_neg hskip, if_neg hdotdot]

theorem step_dotdot (rooted : Bool) (last : GoString) (rest : List GoString) :
    step rooted (last :: rest) dotdot = if last = dotdot then dotdot :: last :: rest else rest := rfl

theorem IsName.step (h : IsName name) (rooted : Bool) (out : List GoString) :
    step rooted out name = name :: out :=
  step_plain (not_or.mpr ⟨h.ne_nil, h.ne_dot⟩) h.ne_dotdot rooted out

/-- Elements that were worked off: going over them again changes nothing. The last one is first. -/
structure WorkedOff (rooted : Bool) (out : List GoString) : Prop where
  kept : ∀ element ∈ out, ¬ (element = [] ∨ element = dot)
  slash : ∀ element ∈ out, Byte.slash ∉ element
  fixed : out.reverse.foldl (step rooted) [] = out

theorem workedOff_nil (rooted : Bool) : WorkedOff rooted [] := ⟨nofun, nofun, rfl⟩

/-- An element that stays after the elements before it. -/
theorem WorkedOff.cons {rooted : Bool} {out : List GoString} {element : GoString}
    (h : WorkedOff rooted out) (hkept : ¬ (element = [] ∨ element = dot)) (hslash : Byte.slash ∉ element)
    (hstep : step rooted out element = element :: out) : WorkedOff rooted (element :: out) where
  kept := List.forall_mem_cons.mpr ⟨hkept, h.kept⟩
  slash := List.forall_mem_cons.mpr ⟨hslash, h.slash⟩
  fixed := by
    rw [List.reverse_cons, List.foldl_append, h.fixed, List.foldl_cons, List.foldl_nil, hstep]

/-- Without the last element they are still worked off, if that is not `..`. -/
theorem WorkedOff.tail {rooted : Bool} {last : GoString} {rest : List GoString}
    (h : WorkedOff rooted (last :: rest)) (hlast : last ≠ dotdot) : WorkedOff rooted rest where
  kept := (List.forall_mem_cons.mp h.kept).2
  slash := (List.forall_mem_cons.mp h.slash).2
  fixed := by
    have hfixed := h.fixed
    rw [List.reverse_cons, List.foldl_append, List.foldl_cons, List.foldl_nil,
      step_plain (List.forall_mem_cons.mp h.kept).1 hlast] at hfixed
    exact (List.cons.inj hfixed).2

theorem WorkedOff.step {rooted : Bool} {out : List GoString}
    (h : WorkedOff rooted out) (hslash : Byte.slash ∉ element) :
    WorkedOff rooted (step rooted out element) := by
  by_cases hskip : element = [] ∨ element = dot
  · rwa [step_skip hskip]
  by_cases hdotdot : element = dotdot
  · subst hdotdot
    cases out with
    | nil =>
      cases rooted with
      | false => exact h.cons hskip hslash rfl
      | true => exact h
    | cons last rest =>
      by_cases hlast : last = dotdot
      · have hstep : Path.step rooted (last :: rest) dotdot = dotdot :: last :: rest := by
          rw [step_dotdot, if_pos hlast]
        rw [hstep]
        exact h.cons hskip hslash hstep
      · rw [step_dotdot, if_neg hlast]
        exact h.tail hlast
  · have hstep := step_plain hskip hdotdot rooted out
    rw [hstep]
    exact h.cons hskip hslash hstep

theorem WorkedOff.foldl {rooted : Bool} {elements : List GoString}
    (hslash : ∀ element ∈ elements, Byte.slash ∉ element) {out : List GoString}
    (h : WorkedOff rooted out) : WorkedOff rooted (elements.foldl (Path.step rooted) out) := by
  induction elements generalizing out with
  | nil => exact h
  | cons element elements ih =>
    obtain ⟨helement, helements⟩ := List.forall_mem_cons.mp hslash
    exact ih helements (h.step helement)

/-! ## Reading and writing -/

theorem notMem_of_mem_splitOn {c : UInt8} {s part : GoString} (h : part ∈ s.splitOn c) : c ∉ part := by
  induction s generalizing part with
  | nil =>
    rw [List.splitOn_nil, List.mem_singleton] at h
    rw [h]
    exact List.not_mem_nil
  | cons x xs ih =>
    rw [List.splitOn_cons_eq_if_modifyHead] at h
    split at h
    · rcases List.mem_cons.mp h with rfl | h
      · exact List.not_mem_nil
      · exact ih h
    · rename_i hx
      obtain ⟨first, rest, hsplit⟩ := List.exists_cons_of_ne_nil (List.splitOn_ne_nil c xs)
      rw [hsplit] at h ih
      rcases List.mem_cons.mp h with rfl | h
      · rw [List.mem_cons, not_or]
        exact ⟨fun heq => hx (by simp [heq]), ih List.mem_cons_self⟩
      · exact ih (List.mem_cons_of_mem first h)

/-- The elements of the path are worked off. -/
def Lexical.Normal (l : Lexical) : Prop := WorkedOff l.rooted l.parts.reverse

theorem normal_lexical (path : GoString) : (lexical path).Normal := by
  rw [Lexical.Normal, lexical]
  dsimp only
  rw [List.reverse_reverse]
  exact (workedOff_nil _).foldl fun part hpart => notMem_of_mem_splitOn hpart

/-- The path one level down. -/
def Lexical.child (l : Lexical) (name : GoString) : Lexical := ⟨l.rooted, l.parts ++ [name]⟩

theorem Lexical.Normal.child {l : Lexical} (h : l.Normal) (hname : IsName name) :
    (l.child name).Normal := by
  rw [Lexical.Normal, Lexical.child]
  dsimp only
  rw [List.reverse_append]
  exact h.cons (not_or.mpr ⟨hname.ne_nil, hname.ne_dot⟩) hname.slash (hname.step _ _)

/-- A path, a slash and a name: one level down. -/
theorem lexical_append {path : GoString} (hpath : path ≠ []) (hname : IsName name) :
    lexical (path ++ Byte.slash :: name) = (lexical path).child name := by
  have hhead : (path ++ Byte.slash :: name).head? = path.head? := by
    rw [List.head?_append_of_ne_nil _ hpath]
  rw [lexical, lexical, Lexical.child, hhead, List.splitOn_append_cons_self,
    List.splitOn_eq_singleton hname.slash, List.foldl_append, List.foldl_cons, List.foldl_nil,
    hname.step, List.reverse_cons]

/-- What is written reads back. -/
theorem lexical_render {l : Lexical} (h : l.Normal) : lexical l.render = l := by
  obtain ⟨rooted, parts⟩ := l
  have hslash : ∀ part ∈ parts, Byte.slash ∉ part := fun part hpart =>
    h.slash part (List.mem_reverse.mpr hpart)
  have hfixed : parts.foldl (step rooted) [] = parts.reverse := by
    have hfixed := h.fixed
    rwa [List.reverse_reverse] at hfixed
  cases rooted with
  | true =>
    have hsplit : (Byte.slash :: [Byte.slash].intercalate parts).splitOn Byte.slash
        = [] :: ([Byte.slash].intercalate parts).splitOn Byte.slash := by
      rw [List.splitOn_cons_eq_if_modifyHead, if_pos (by simp)]
    have hfold : (([Byte.slash].intercalate parts).splitOn Byte.slash).foldl (step true) []
        = parts.reverse := by
      cases parts with
      | nil => rfl
      | cons part parts => rw [List.splitOn_intercalate _ hslash (List.cons_ne_nil _ _), hfixed]
    rw [Lexical.render, if_pos rfl, lexical]
    simp only [List.head?_cons, decide_true, hsplit, List.foldl_cons, step_skip (Or.inl rfl), hfold,
      List.reverse_reverse]
  | false =>
    cases parts with
    | nil => rfl
    | cons part parts =>
      have hhead : ([Byte.slash].intercalate (part :: parts)).head? ≠ some Byte.slash := by
        have hkept := h.kept part (List.mem_reverse.mpr List.mem_cons_self)
        obtain ⟨x, xs, rfl⟩ := List.exists_cons_of_ne_nil (not_or.mp hkept).1
        have hx := hslash _ List.mem_cons_self
        rw [List.mem_cons, not_or] at hx
        intro heq
        cases parts with
        | nil => simp_all
        | cons next parts => simp_all
      rw [Lexical.render, if_neg Bool.false_ne_true, if_neg (List.cons_ne_nil _ _), lexical]
      simp only [hhead, decide_false, List.splitOn_intercalate _ hslash (List.cons_ne_nil _ _),
        hfixed, List.reverse_reverse]

/-- `Join` with a name goes one level down. -/
theorem join_eq (path : GoString) (hname : IsName name) :
    join path name = ((lexical path).child name).render := by
  by_cases hpath : path = []
  · have hhead : name.head? ≠ some Byte.slash := fun h => hname.slash (List.mem_of_head? h)
    have hname' : lexical name = (lexical []).child name := by
      simp only [lexical, Lexical.child, hhead, decide_false, List.splitOn_eq_singleton hname.slash,
        List.foldl_cons, List.foldl_nil, hname.step]
      rfl
    rw [join, if_pos hpath, if_neg hname.ne_nil, clean, hname', hpath]
  · rw [join, if_neg hpath, clean, lexical_append hpath hname]

/-- The elements of a path joined with a name. -/
theorem lexical_join (path : GoString) (hname : IsName name) :
    lexical (join path name) = (lexical path).child name := by
  rw [join_eq path hname, lexical_render ((normal_lexical path).child hname)]

/-! ## Base names -/

theorem intercalate_concat (c : UInt8) (parts : List GoString) (last : GoString) :
    [c].intercalate (parts ++ [last]) =
      if parts = [] then last else [c].intercalate parts ++ c :: last := by
  induction parts with
  | nil => simp
  | cons part parts ih =>
    cases parts with
    | nil => simp
    | cons next parts =>
      rw [if_neg (List.cons_ne_nil _ _)] at ih
      simp_all

/-- A path that goes down to a name ends in it. -/
theorem render_child (l : Lexical) (name : GoString) :
    (l.child name).render = name ∨ ∃ before, (l.child name).render = before ++ Byte.slash :: name := by
  unfold Lexical.render Lexical.child
  dsimp only
  rw [intercalate_concat, if_neg (List.append_ne_nil_of_right_ne_nil _ (List.cons_ne_nil _ _))]
  split_ifs with hrooted hparts hparts
  · exact Or.inr ⟨[], rfl⟩
  · exact Or.inr ⟨Byte.slash :: [Byte.slash].intercalate l.parts, rfl⟩
  · exact Or.inl rfl
  · exact Or.inr ⟨_, rfl⟩

/-- `Base` of a path that ends in a name. -/
theorem pathBase_eq {path : GoString} (hname : IsName name)
    (h : path = name ∨ ∃ before, path = before ++ Byte.slash :: name) : pathBase path = name := by
  have hlast : ∃ x xs, name.reverse = x :: xs ∧ x ≠ Byte.slash := by
    obtain ⟨x, xs, hx⟩ := List.exists_cons_of_ne_nil (List.reverse_ne_nil_iff.mpr hname.ne_nil)
    refine ⟨x, xs, hx, fun heq => hname.slash ?_⟩
    rw [← List.mem_reverse, hx, heq]
    exact List.mem_cons_self
  obtain ⟨x, xs, hx, hne⟩ := hlast
  have htrim : ∃ ys, path.reverse = x :: ys := by
    rcases h with rfl | ⟨before, rfl⟩
    · exact ⟨xs, hx⟩
    · exact ⟨xs ++ Byte.slash :: before.reverse, by simp [hx]⟩
  obtain ⟨ys, hys⟩ := htrim
  have hpath : path ≠ [] := by
    rintro rfl
    simp at hys
  have htrimmed : (path.reverse.dropWhile (· == Byte.slash)).reverse = path := by
    rw [hys, List.dropWhile_cons_of_neg (by simpa using hne), ← hys, List.reverse_reverse]
  unfold pathBase
  rw [if_neg hpath]
  dsimp only
  rw [htrimmed]
  rcases h with rfl | ⟨before, rfl⟩
  · rw [Strings.cutLast_eq_none_iff.mpr hname.slash]
    exact if_neg hname.ne_nil
  · rw [Strings.cutLast_eq_some_iff.mpr ⟨rfl, hname.slash⟩]
    exact if_neg hname.ne_nil

theorem pathBase_join (path : GoString) (hname : IsName name) :
    pathBase (join path name) = name :=
  pathBase_eq hname (join_eq path hname ▸ render_child (lexical path) name)

end Path

end KubeSsh

import KubeSsh.Common.HostPort
import KubeSsh.Wildcard

/-!
# Forward expressions

A forward expression such as `db-*:5432` is validated as a host pattern and a port pattern, but it
is matched as one pattern against the joined `host:port` text. The joined text of a host with colons
is bracketed, and the host bytes are the client's, so the colon of the expression need not be
matched by the colon that separates host and port.

`SeparatesHostPort` is the condition on the two patterns under which the readings agree for every
host and every port.
-/

namespace KubeSsh.AccessPolicy

open Wildcard Strings

/-- `validForwardExpression` (`status_controller.go:352-361`). -/
def validForwardExpression (expression : GoString) : Bool :=
  if expression = str "*" ∨ expression = str "*:*" then true
  else match splitHostPort expression with
    | .error _ => false
    | .ok (host, port) => host ≠ [] && port ≠ []

/-- A port as it appears in request attributes: `strconv.FormatUint` of a `uint32`
(`protocol.go:105`, `134`). -/
def DecimalPort (port : GoString) : Prop := ∃ n : UInt32, port = decimal n.toNat

/-- The expression constrains host and port separately: whatever it admits, its host pattern admits
the host and its port pattern admits the port. -/
def ConstrainsSeparately (expression hostPattern portPattern : GoString) : Prop :=
  ∀ host port, DecimalPort port → isMatch expression (joinHostPort host port) = true →
    isMatch hostPattern host = true ∧ isMatch portPattern port = true

/-- The port pattern can be matched across the end of a bracketed host: what follows its last
asterisk ends some port, and either the host pattern does not go on after the host text that was
consumed, or the port pattern does not admit that port. -/
def CrossesSeparator (hostPattern portPattern : GoString) : Prop :=
  ∃ head tail, portPattern = head ++ Byte.star :: tail ∧ Byte.star ∉ tail ∧
    ∃ port, DecimalPort port ∧ tail <:+ port ∧
      (¬ [Byte.star] <:+ hostPattern ∨ isMatch portPattern port = false)

/-- A bracketed expression without colons in its host also admits hosts that carry the brackets
themselves, if it admits any port. -/
def AdmitsBracketedHost (hostPattern portPattern : GoString) : Prop :=
  Byte.colon ∉ hostPattern ∧ ¬ ([Byte.star] <+: hostPattern ∧ [Byte.star] <:+ hostPattern) ∧
    ∃ port, DecimalPort port ∧ isMatch portPattern port = true

/-- The condition under which matching the joined text constrains both parts. -/
def SeparatesHostPort (expression hostPattern portPattern : GoString) : Prop :=
  if [Byte.lbracket] <+: expression then
    ¬ CrossesSeparator hostPattern portPattern ∧ ¬ AdmitsBracketedHost hostPattern portPattern
  else ¬ ([Byte.star] <+: hostPattern ∧ CrossesSeparator hostPattern portPattern)

/-! ## Where the colon of the expression can fall -/

variable {port host portPattern hostPattern : GoString}

/-- A port has digits only, so neither a colon nor a bracket. -/
theorem DecimalPort.plain (h : DecimalPort port) : PlainPart port := by
  obtain ⟨n, rfl⟩ := h
  refine ⟨fun hmem => ?_, fun hmem => ?_, fun hmem => ?_⟩
  all_goals
    have hdigit := decimal_digits hmem
    revert hdigit
    decide

/-- A separator-free suffix of a text lies behind its last separator. -/
theorem suffix_of_suffix_append_cons {c : UInt8} {t w p : GoString} (hc : c ∉ t)
    (h : t <:+ w ++ c :: p) : t <:+ p := by
  rcases List.suffix_or_suffix_of_suffix h (List.suffix_append w (c :: p)) with ht | ht
  · rcases List.suffix_cons_iff.mp ht with rfl | ht
    · exact absurd List.mem_cons_self hc
    · exact ht
  · exact absurd (ht.subset List.mem_cons_self) hc

/-- The colons of a joined text with a bracketed host: the last one, or one inside the host. -/
theorem colon_in_bracketed {v1 v2 : GoString} (hport : PlainPart port)
    (h : Byte.lbracket :: host ++ [Byte.rbracket, Byte.colon] ++ port = v1 ++ Byte.colon :: v2) :
    (v1 = Byte.lbracket :: host ++ [Byte.rbracket] ∧ v2 = port) ∨
      ∃ x y, v1 = Byte.lbracket :: x ∧ host = x ++ (Byte.colon :: y) ∧
        v2 = y ++ [Byte.rbracket, Byte.colon] ++ port := by
  have h' : (Byte.lbracket :: host ++ [Byte.rbracket]) ++ Byte.colon :: port
      = v1 ++ Byte.colon :: v2 := by simpa using h
  rcases List.append_eq_append_iff.mp h' with ⟨w, hw1, hw2⟩ | ⟨w, hw1, hw2⟩
  · cases w with
    | nil => exact Or.inl ⟨by simpa using hw1, ((List.cons.inj hw2).2).symm⟩
    | cons d w =>
      obtain ⟨-, rfl⟩ := List.cons.inj hw2
      exact absurd (by simp) hport.1
  · cases w with
    | nil =>
      obtain ⟨-, rfl⟩ := List.cons.inj hw2
      exact Or.inl ⟨by simpa using hw1.symm, rfl⟩
    | cons d w =>
      rw [List.cons_append] at hw2
      obtain ⟨rfl, rfl⟩ := List.cons.inj hw2
      right
      cases v1 with
      | nil => exact absurd (List.cons.inj hw1).1 (by decide)
      | cons e v1 =>
        rw [List.cons_append, List.cons_append] at hw1
        obtain ⟨rfl, hrest⟩ := List.cons.inj hw1
        rcases List.eq_nil_or_concat w with rfl | ⟨y, last, rfl⟩
        · have hlast := (List.append_inj' hrest rfl).2
          exact absurd (List.cons.inj hlast).1 (by decide)
        · rw [List.concat_eq_append, ← List.cons_append, ← List.append_assoc] at hrest
          obtain ⟨rfl, hlast⟩ := List.append_inj' hrest rfl
          obtain ⟨rfl, -⟩ := List.cons.inj hlast
          exact ⟨v1, y, rfl, rfl, by simp⟩

/-- A plain port pattern that matches text reaching over the end of a bracketed host: its tail is
matched inside the port. -/
theorem tail_of_glob_across {h2 : GoString} (hpattern : PlainPart portPattern)
    (h : Glob Byte.star portPattern (h2 ++ [Byte.rbracket, Byte.colon] ++ port)) :
    ∃ head tail, portPattern = head ++ Byte.star :: tail ∧ Byte.star ∉ tail ∧ tail <:+ port := by
  have hstar : Byte.star ∈ portPattern := by
    refine Glob.star_mem_of_notMem hpattern.1 (v := h2 ++ [Byte.rbracket]) (w := port) ?_
    simpa using h
  obtain ⟨⟨head, tail⟩, hcut⟩ : ∃ p, cutLast Byte.star portPattern = some p :=
    Option.ne_none_iff_exists'.mp fun hn => cutLast_eq_none_iff.mp hn hstar
  obtain ⟨rfl, htail⟩ := cutLast_eq_some_iff.mp hcut
  refine ⟨head, tail, rfl, htail, ?_⟩
  obtain ⟨v1, v2, hv, -, h2'⟩ := Glob.append_iff.mp h
  obtain ⟨pre, rest, rfl, hrest⟩ := Glob.star_iff.mp h2'
  rw [Glob.literal_iff htail] at hrest
  subst hrest
  refine suffix_of_suffix_append_cons (c := Byte.colon) (w := h2 ++ [Byte.rbracket])
    (fun hm => hpattern.1 (by simp [hm])) ?_
  exact ⟨v1 ++ pre, by simpa using hv.symm⟩

/-- A match whose colon falls inside the host is harmless unless the expression crosses the
separator. -/
theorem both_of_glob_across {h1 h2 rest : GoString}
    (hport : DecimalPort port) (hplain : PlainPart portPattern)
    (hcross : ¬ CrossesSeparator hostPattern portPattern)
    (hhost : Glob Byte.star hostPattern h1)
    (hacross : Glob Byte.star portPattern (h2 ++ [Byte.rbracket, Byte.colon] ++ port)) :
    Glob Byte.star hostPattern (h1 ++ rest) ∧ Glob Byte.star portPattern port := by
  obtain ⟨head, tail, hsplit, htail, hsuffix⟩ := tail_of_glob_across hplain hacross
  have hno : ¬ (¬ [Byte.star] <:+ hostPattern ∨ isMatch portPattern port = false) := fun hor =>
    hcross ⟨head, tail, hsplit, htail, port, hport, hsuffix, hor⟩
  rw [not_or, not_not, Bool.not_eq_false, isMatch_iff_glob] at hno
  exact ⟨hhost.extend_right hno.1 rest, hno.2⟩

/-! ## The condition is enough -/

/-- The plain form against a host without colons: there is one colon on each side. -/
theorem both_of_plain_plain (hhost : Byte.colon ∉ host) (hport : DecimalPort port)
    (h : Glob Byte.star (hostPattern ++ Byte.colon :: portPattern) (host ++ Byte.colon :: port)) :
    Glob Byte.star hostPattern host ∧ Glob Byte.star portPattern port := by
  obtain ⟨v1, v2, hv, h1, h2⟩ := (Glob.append_cons_iff (by decide)).mp h
  obtain ⟨rfl, rfl⟩ := append_cons_inj_of_notMem hhost hport.plain.1 hv
  exact ⟨h1, h2⟩

/-- The plain form against a bracketed host. -/
theorem both_of_plain_bracketed
    (hhostPattern : PlainPart hostPattern) (hportPattern : PlainPart portPattern)
    (hcond : ¬ ([Byte.star] <+: hostPattern ∧ CrossesSeparator hostPattern portPattern))
    (hport : DecimalPort port)
    (h : Glob Byte.star (hostPattern ++ Byte.colon :: portPattern)
      (Byte.lbracket :: host ++ [Byte.rbracket, Byte.colon] ++ port)) :
    Glob Byte.star hostPattern host ∧ Glob Byte.star portPattern port := by
  obtain ⟨v1, v2, hv, h1, h2⟩ := (Glob.append_cons_iff (by decide)).mp h
  rcases colon_in_bracketed hport.plain hv with ⟨rfl, rfl⟩ | ⟨x, y, rfl, rfl, rfl⟩
  · -- the last colon: the brackets were matched by wildcards of the host pattern
    refine ⟨Glob.init_of_notMem hhostPattern.2.2 (Glob.tail_of_notMem hhostPattern.2.1 h1), h2⟩
  · have hlead := Glob.head_of_notMem hhostPattern.2.1 h1
    exact both_of_glob_across hport hportPattern (fun hc => hcond ⟨hlead, hc⟩)
      (Glob.tail_of_notMem hhostPattern.2.1 h1) h2

/-- A pattern in brackets matches texts in brackets. -/
theorem glob_bracketed_iff {p v : GoString} :
    Glob Byte.star (Byte.lbracket :: p ++ [Byte.rbracket]) v ↔
      ∃ x, v = Byte.lbracket :: x ++ [Byte.rbracket] ∧ Glob Byte.star p x := by
  rw [List.cons_append, Glob.cons_iff (by decide)]
  constructor
  · rintro ⟨v', rfl, h⟩
    obtain ⟨x, y, rfl, hx, hy⟩ := (Glob.append_cons_iff (by decide)).mp h
    rw [Glob.nil_iff.mp hy]
    exact ⟨x, rfl, hx⟩
  · rintro ⟨x, rfl, hx⟩
    exact ⟨x ++ [Byte.rbracket], rfl, Glob.append_intro hx (Glob.refl _)⟩

/-- The bracketed form against a host without colons: the host brings its own brackets. -/
theorem both_of_bracketed_plain (hcond : ¬ AdmitsBracketedHost hostPattern portPattern)
    (hhost : Byte.colon ∉ host) (hport : DecimalPort port)
    (h : Glob Byte.star (Byte.lbracket :: hostPattern ++ [Byte.rbracket] ++ Byte.colon :: portPattern)
      (host ++ Byte.colon :: port)) :
    Glob Byte.star hostPattern host ∧ Glob Byte.star portPattern port := by
  obtain ⟨h1, h2⟩ := both_of_plain_plain hhost hport h
  obtain ⟨x, rfl, hx⟩ := glob_bracketed_iff.mp h1
  have hcolon : Byte.colon ∉ hostPattern := fun hm =>
    hhost (by simp [hx.literals_sublist.subset (Glob.mem_literals.mpr ⟨hm, by decide⟩)])
  have hstars : [Byte.star] <+: hostPattern ∧ [Byte.star] <:+ hostPattern := by
    by_contra hn
    exact hcond ⟨hcolon, hn, port, hport, isMatch_iff_glob.mpr h2⟩
  refine ⟨?_, h2⟩
  rw [← List.singleton_append, List.append_assoc]
  exact (hx.extend_right hstars.2 _).extend_left hstars.1 _

/-- The bracketed form against a bracketed host. -/
theorem both_of_bracketed_bracketed
    (hportPattern : PlainPart portPattern) (hcross : ¬ CrossesSeparator hostPattern portPattern)
    (hport : DecimalPort port)
    (h : Glob Byte.star (Byte.lbracket :: hostPattern ++ [Byte.rbracket] ++ Byte.colon :: portPattern)
      (Byte.lbracket :: host ++ [Byte.rbracket, Byte.colon] ++ port)) :
    Glob Byte.star hostPattern host ∧ Glob Byte.star portPattern port := by
  obtain ⟨v1, v2, hv, h1, h2⟩ := (Glob.append_cons_iff (by decide)).mp h
  obtain ⟨x, hx, hglob⟩ := glob_bracketed_iff.mp h1
  rcases colon_in_bracketed hport.plain hv with ⟨rfl, rfl⟩ | ⟨x', y, rfl, rfl, rfl⟩
  · rw [List.cons_append, List.cons_append] at hx
    obtain ⟨rfl, -⟩ := List.append_inj' (List.cons.inj hx).2 rfl
    exact ⟨hglob, h2⟩
  · rw [List.cons_append] at hx
    obtain rfl : x' = x ++ [Byte.rbracket] := (List.cons.inj hx).2
    rw [List.append_assoc]
    exact both_of_glob_across hport hportPattern hcross hglob h2

theorem lbracket_prefix_cons {s : GoString} : [Byte.lbracket] <+: Byte.lbracket :: s := ⟨s, rfl⟩

theorem not_prefix_of_lbracket_notMem (hhost : Byte.lbracket ∉ host) :
    ¬ [Byte.lbracket] <+: host ++ Byte.colon :: port := by
  rintro ⟨t, ht⟩
  cases host with
  | nil => exact absurd (List.cons.inj ht).1 (by decide)
  | cons b host => exact hhost (List.mem_cons.mpr (Or.inl (List.cons.inj ht).1))

theorem constrainsSeparately_of_separates {expression : GoString}
    (hform : HostPortForm expression hostPattern portPattern)
    (hcond : SeparatesHostPort expression hostPattern portPattern) :
    ConstrainsSeparately expression hostPattern portPattern := by
  intro host port hport hmatch
  rw [isMatch_iff_glob] at hmatch ⊢
  rw [isMatch_iff_glob]
  rcases hform with ⟨rfl, hhostPattern, hportPattern⟩ | ⟨rfl, -, -, hportPattern⟩
  · rw [SeparatesHostPort, if_neg (not_prefix_of_lbracket_notMem hhostPattern.2.1)] at hcond
    by_cases hcolon : Byte.colon ∈ host
    · rw [joinHostPort, if_pos hcolon] at hmatch
      exact both_of_plain_bracketed hhostPattern hportPattern hcond hport hmatch
    · rw [joinHostPort, if_neg hcolon] at hmatch
      exact both_of_plain_plain hcolon hport hmatch
  · rw [SeparatesHostPort, List.cons_append, List.cons_append, if_pos lbracket_prefix_cons] at hcond
    have hshape : Byte.lbracket :: hostPattern ++ [Byte.rbracket, Byte.colon] ++ portPattern
        = Byte.lbracket :: hostPattern ++ [Byte.rbracket] ++ Byte.colon :: portPattern := by simp
    rw [hshape] at hmatch
    by_cases hcolon : Byte.colon ∈ host
    · rw [joinHostPort, if_pos hcolon] at hmatch
      exact both_of_bracketed_bracketed hportPattern hcond.1 hport hmatch
    · rw [joinHostPort, if_neg hcolon] at hmatch
      exact both_of_bracketed_plain hcond.2 hcolon hport hmatch

/-! ## The condition is needed -/

/-- The port pattern matches text that starts inside the host and ends in the port. -/
theorem glob_across (head pre tail : GoString) :
    Glob Byte.star (head ++ Byte.star :: tail)
      (Glob.literals Byte.star head ++ [Byte.rbracket] ++ [Byte.rbracket, Byte.colon] ++
        (pre ++ tail)) := by
  rw [List.append_assoc, List.append_assoc]
  refine Glob.append_intro (Glob.glob_literals head) (Glob.star_iff.mpr ?_)
  exact ⟨[Byte.rbracket, Byte.rbracket, Byte.colon] ++ pre, tail, by simp, Glob.refl tail⟩

/-- The violation behind `CrossesSeparator`, for any text `sep` with a colon that the expression
has between its host pattern and its port pattern. -/
theorem not_constrainsSeparately_of_crosses {expression : GoString}
    (sep : GoString) (hbracket : Byte.rbracket ∉ hostPattern) (hsep : Byte.colon ∈ sep)
    (hmatch : ∀ rest, Glob Byte.star portPattern rest →
      Glob Byte.star expression
        (Byte.lbracket :: Glob.literals Byte.star hostPattern ++ sep ++ rest))
    (hcross : CrossesSeparator hostPattern portPattern) :
    ¬ ConstrainsSeparately expression hostPattern portPattern := by
  obtain ⟨head, tail, rfl, htail, port, hport, ⟨pre, rfl⟩, hor⟩ := hcross
  intro hsep'
  have hboth := hsep' (Glob.literals Byte.star hostPattern ++ sep ++ Glob.literals Byte.star head
    ++ [Byte.rbracket]) (pre ++ tail) hport
  rw [isMatch_iff_glob, isMatch_iff_glob, joinHostPort, if_pos (by simp [hsep])] at hboth
  obtain ⟨hhost, hadmits⟩ := hboth (by simpa using hmatch _ (glob_across head pre tail))
  rcases hor with hlast | hrefused
  · -- the host ends in a bracket, which the host pattern does not have
    exact hlast (Glob.last_of_notMem hbracket hhost)
  · rw [hrefused] at hadmits
    cases hadmits

/-- The violation behind `AdmitsBracketedHost`: the host is the literal text of its pattern in
brackets. -/
theorem not_constrainsSeparately_of_admitsBracketed
    (hopen : Byte.lbracket ∉ hostPattern) (hclose : Byte.rbracket ∉ hostPattern)
    (hadmits : AdmitsBracketedHost hostPattern portPattern) :
    ¬ ConstrainsSeparately (Byte.lbracket :: hostPattern ++ [Byte.rbracket, Byte.colon] ++ portPattern)
      hostPattern portPattern := by
  obtain ⟨hcolon, hstars, port, hport, hglob⟩ := hadmits
  rw [isMatch_iff_glob] at hglob
  intro hsep
  have hnc : Byte.colon ∉ Byte.lbracket :: Glob.literals Byte.star hostPattern ++ [Byte.rbracket] := by
    simp only [List.cons_append, List.mem_cons, List.mem_append, List.not_mem_nil, or_false, not_or]
    exact ⟨by decide, fun hm => hcolon (Glob.mem_literals.mp hm).1, by decide⟩
  have hboth := hsep (Byte.lbracket :: Glob.literals Byte.star hostPattern ++ [Byte.rbracket])
    port hport
  rw [isMatch_iff_glob, isMatch_iff_glob, joinHostPort, if_neg hnc] at hboth
  have hshape : Byte.lbracket :: hostPattern ++ [Byte.rbracket, Byte.colon] ++ portPattern
      = Byte.lbracket :: hostPattern ++ [Byte.rbracket] ++ Byte.colon :: portPattern := by simp
  rw [hshape] at hboth
  obtain ⟨hhost, -⟩ := hboth ((Glob.append_cons_iff (by decide)).mpr
    ⟨_, _, rfl, glob_bracketed_iff.mpr ⟨_, rfl, Glob.glob_literals _⟩, hglob⟩)
  refine hstars ⟨?_, Glob.last_of_notMem hclose hhost⟩
  exact Glob.head_of_notMem hopen hhost

/-! ## The result -/

/-- A valid forward expression constrains host and port separately, for all hosts and all ports that
an operation can have, exactly when its patterns separate them. -/
theorem constrainsSeparately_iff (expression hostPattern portPattern : GoString)
    (_hvalid : validForwardExpression expression = true)
    (hsplit : splitHostPort expression = .ok (hostPattern, portPattern)) :
    ConstrainsSeparately expression hostPattern portPattern ↔
      SeparatesHostPort expression hostPattern portPattern := by
  have hform := hostPortForm_of_splitHostPort hsplit
  refine ⟨fun hsep => ?_, constrainsSeparately_of_separates hform⟩
  rcases hform with ⟨rfl, hhost, hport⟩ | ⟨rfl, hopen, hclose, hport⟩
  · rw [SeparatesHostPort, if_neg (not_prefix_of_lbracket_notMem hhost.2.1)]
    rintro ⟨hlead, hcross⟩
    refine not_constrainsSeparately_of_crosses [Byte.colon] hhost.2.2 (by simp) ?_ hcross hsep
    intro rest hrest
    rw [List.append_assoc]
    have hhostGlob := (Glob.glob_literals hostPattern).extend_left hlead [Byte.lbracket]
    exact Glob.append_intro hhostGlob (.lit (by decide) hrest)
  · rw [SeparatesHostPort, List.cons_append, List.cons_append, if_pos lbracket_prefix_cons]
    refine ⟨fun hcross => ?_, fun hadmits => ?_⟩
    · refine not_constrainsSeparately_of_crosses [Byte.rbracket, Byte.colon] hclose (by simp)
        ?_ hcross hsep
      intro rest hrest
      refine Glob.append_intro (.lit (by decide) ?_) hrest
      exact Glob.append_intro (Glob.glob_literals hostPattern) (Glob.refl _)
    · exact not_constrainsSeparately_of_admitsBracketed hopen hclose hadmits hsep

/-- `db:5432` separates its parts, so it constrains host and port. -/
theorem constrainsSeparately_literal :
    validForwardExpression (str "db:5432") = true ∧
      splitHostPort (str "db:5432") = .ok (str "db", str "5432") ∧
      ConstrainsSeparately (str "db:5432") (str "db") (str "5432") := by
  refine ⟨by decide, rfl, (constrainsSeparately_iff _ _ _ (by decide) rfl).mpr ?_⟩
  rw [SeparatesHostPort, if_neg (by decide)]
  exact fun h => absurd h.1 (by decide)

/-- `*:8*` names ports that start with 8, and admits port 22 on the host `fd00::8`. -/
theorem forwardExpression_admits_other_port :
    validForwardExpression (str "*:8*") = true ∧
      splitHostPort (str "*:8*") = .ok (str "*", str "8*") ∧ DecimalPort (str "22") ∧
      isMatch (str "*:8*") (joinHostPort (str "fd00::8") (str "22")) = true ∧
      isMatch (str "8*") (str "22") = false := by
  exact ⟨by decide, rfl, ⟨22, by decide⟩, by decide, by decide⟩

end KubeSsh.AccessPolicy

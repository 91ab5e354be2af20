import KubeSsh.Scp.Transfer

/-!
# Times that are preserved

A source with `-p` announces the times of each file and directory by a `T` record. The record that
`sendSCPTimes` writes has four fields, and `parseSCPTimes` asks for five: the sink refuses the first
record of every such transfer, whatever the time is and whatever the tree.
-/

namespace KubeSsh.Scp

open KubeSsh.Path

/-! ## The fields of a line -/

/-- A byte that begins no white space. -/
def Solid (b : UInt8) : Prop := 32 < b.toNat ∧ b.toNat < 128

instance : DecidablePred Solid := fun b => inferInstanceAs (Decidable (32 < b.toNat ∧ b.toNat < 128))

theorem isPrefixOf_of_solid {b : UInt8} (hb : Solid b) (s : GoString) :
    ∀ space ∈ Strings.spaces, space.isPrefixOf (b :: s) = false := by
  have hspaces : ∀ space ∈ Strings.spaces, ∃ c rest, space = c :: rest ∧ (c.toNat ≤ 32 ∨ 128 ≤ c.toNat) := by
    simp [Strings.spaces]
  intro space hspace
  obtain ⟨c, rest, rfl, hc⟩ := hspaces space hspace
  have hne : (c == b) = false := by
    rw [beq_eq_false_iff_ne]
    rintro rfl
    have := hb.1
    have := hb.2
    omega
  rw [List.isPrefixOf_cons_cons, hne, Bool.false_and]

/-- A word of solid bytes. -/
structure Word (w : GoString) : Prop where
  ne_nil : w ≠ []
  solid : ∀ b ∈ w, Solid b

/-- What follows a word: nothing, or a space. -/
inductive Behind : GoString → Prop
  | nil : Behind []
  | space (s : GoString) : Behind (32 :: s)

variable {w rest : GoString}

theorem takeField_append (hw : ∀ b ∈ w, Solid b) (hrest : Behind rest) : takeField (w ++ rest) = (w, rest) := by
  induction w with
  | nil =>
    cases hrest with
    | nil => rfl
    | space s =>
      have hspace : Strings.spaces.any (·.isPrefixOf (32 :: s)) = true := by
        simp [Strings.spaces]
      rw [List.nil_append, takeField, if_pos hspace]
  | cons b w ih =>
    obtain ⟨hb, hw⟩ := List.forall_mem_cons.mp hw
    have hnone : ¬ Strings.spaces.any (·.isPrefixOf (b :: (w ++ rest))) = true := by
      rw [List.any_eq_true]
      rintro ⟨space, hspace, hprefix⟩
      rw [isPrefixOf_of_solid hb _ space hspace] at hprefix
      cases hprefix
    rw [List.cons_append, takeField, if_neg hnone, ih hw]

theorem dropLeading_word (hw : Word w) (fuel : ℕ) :
    Strings.dropLeading Strings.spaces fuel (w ++ rest) = w ++ rest := by
  obtain ⟨b, w, rfl⟩ := List.exists_cons_of_ne_nil hw.ne_nil
  have hb := hw.solid b List.mem_cons_self
  cases fuel with
  | zero => rfl
  | succ fuel =>
    have hnone : Strings.spaces.find? (·.isPrefixOf (b :: w ++ rest)) = none := by
      rw [List.find?_eq_none]
      intro space hspace
      rw [List.cons_append, isPrefixOf_of_solid hb _ space hspace]
      exact Bool.false_ne_true
    rw [Strings.dropLeading, hnone]

/-- A word, at the start of a line or behind a space. -/
theorem fieldsUpTo_word (hw : Word w) (hrest : Behind rest) (fuel : ℕ) :
    fieldsUpTo (fuel + 1) (w ++ rest) = w :: fieldsUpTo fuel rest ∧
      fieldsUpTo (fuel + 1) (32 :: (w ++ rest)) = w :: fieldsUpTo fuel rest := by
  have hne : w ++ rest ≠ [] := by simp [hw.ne_nil]
  constructor
  · rw [fieldsUpTo]
    dsimp only
    rw [dropLeading_word hw, if_neg hne, takeField_append hw.solid hrest]
  · have hspace : Strings.spaces.find? (·.isPrefixOf (32 :: (w ++ rest))) = some [32] := by
      simp [Strings.spaces]
    have hdrop : Strings.dropLeading Strings.spaces (32 :: (w ++ rest)).length (32 :: (w ++ rest)) = w ++ rest := by
      rw [List.length_cons, Strings.dropLeading, hspace]
      exact dropLeading_word hw _
    rw [fieldsUpTo]
    dsimp only
    rw [hdrop, if_neg hne, takeField_append hw.solid hrest]

theorem fieldsUpTo_nil (fuel : ℕ) : fieldsUpTo fuel [] = [] := by
  cases fuel <;> rfl

theorem word_formatInt (n : ℤ) : Word (formatInt n) := by
  have hdecimal (k : ℕ) : Word (decimal k) := by
    refine ⟨Strconv.digits_ne_nil 10 k, fun b hb => ?_⟩
    have := decimal_digits hb
    exact ⟨by omega, by omega⟩
  cases n with
  | ofNat k => exact hdecimal k
  | negSucc k => exact ⟨List.cons_ne_nil _ _, List.forall_mem_cons.mpr ⟨by decide, (hdecimal _).solid⟩⟩

/-! ## The record of the source -/

/-- The record of a time, without its newline. -/
def timesLine (mtime : ℤ) : GoString :=
  str "T" ++ formatInt mtime ++ str " 0 " ++ formatInt mtime ++ str " 0"

theorem newline_notMem_timesLine (mtime : ℤ) : Byte.newline ∉ timesLine mtime := by
  have hnumber : Byte.newline ∉ formatInt mtime := fun h =>
    absurd ((word_formatInt mtime).solid _ h).1 (by decide)
  have hT : Byte.newline ∉ str "T" := by decide
  have hmiddle : Byte.newline ∉ str " 0 " := by decide
  have hzero : Byte.newline ∉ str " 0" := by decide
  simp only [timesLine, List.mem_append, not_or]
  exact ⟨⟨⟨⟨hT, hnumber⟩, hmiddle⟩, hnumber⟩, hzero⟩

/-- The record has four fields. -/
theorem fields_timesLine (mtime : ℤ) :
    fields (timesLine mtime) = [84 :: formatInt mtime, str "0", formatInt mtime, str "0"] := by
  have hzero : Word (str "0") := ⟨by decide, by decide +kernel⟩
  have hfirst : Word (84 :: formatInt mtime) :=
    ⟨List.cons_ne_nil _ _, List.forall_mem_cons.mpr ⟨by decide, (word_formatInt mtime).solid⟩⟩
  have hline : timesLine mtime = (84 :: formatInt mtime) ++
      32 :: (str "0" ++ 32 :: (formatInt mtime ++ 32 :: (str "0" ++ []))) := by
    simp [timesLine, str]
  obtain ⟨fuel, hfuel⟩ : ∃ fuel, (timesLine mtime).length + 1 = fuel + 1 + 1 + 1 + 1 := by
    refine ⟨(timesLine mtime).length - 3, ?_⟩
    rw [hline]
    simp only [List.length_append, List.length_cons]
    omega
  rw [fields, hfuel, hline, (fieldsUpTo_word hfirst (.space _) _).1, (fieldsUpTo_word hzero (.space _) _).2,
    (fieldsUpTo_word (word_formatInt mtime) (.space _) _).2, (fieldsUpTo_word hzero .nil _).2, fieldsUpTo_nil]

/-- What the sink says to every time. -/
def refusal (mtime : ℤ) : Message := [.bytes (str "invalid scp time header "), .quoted (timesLine mtime)]

theorem parseSCPTimes_timesLine (mtime : ℤ) : parseSCPTimes (timesLine mtime) = .error (refusal mtime) := by
  rw [parseSCPTimes, fields_timesLine]
  rfl

/-! ## A transfer with times -/

/-- The source has a tree at its path, and the sink an empty place for it in a directory. -/
structure Offered (fs : SourceFiles) (node : Node) (source sink : Options) (files : Files) : Prop where
  sends : source.sink = false
  recursive : ∀ perm entries, node = .directory perm entries → source.recursive = true
  base : IsEntryName (pathBase source.target)
  holds : fs.Holds (lexical source.target) node
  valid : node.Valid
  receives : sink.sink = true
  directory : files.isDirectory (lexical sink.target) = true
  free : files.entry ((lexical sink.target).child (pathBase source.target)) = none

/-- The times that a source announces: of each entry of its tree, if it was started with `-p`. -/
def Announces (fs : SourceFiles) (node : Node) (source sink : Options) (l : Lexical) (times : Times) : Prop :=
  source.preserve = true ∧ ∃ below, node.lookup below ≠ none ∧
    l = (lexical sink.target).extend (pathBase source.target :: below) ∧
    times = ⟨fs.mtime ((lexical source.target).extend below), fs.mtime ((lexical source.target).extend below)⟩

/-- However the two sides take turns, they come to an end; both return without an error, the
directory has the tree of the source, and the times were applied that the source announced, and no
others. -/
def TimesSurvive (quote : GoString → GoString) (fs : SourceFiles) (node : Node)
    (source sink : Options) (files : Files) : Prop :=
  ∃ n, ∀ k c, Steps Peers.Step k (connected quote fs source sink files) c →
    k ≤ n ∧ ((∀ d, ¬ Peers.Step c d) → c.left.data = some none ∧ c.right.data.result = some none ∧
      Received node (lexical sink.target) (pathBase source.target) files c.right.data.files ∧
      ∀ l times, (∃ path, lexical path = l ∧ (path, times) ∈ c.right.data.dated) ↔
        Announces fs node source sink l times)

section Transfer

variable {quote : GoString → GoString} {fs : SourceFiles} {node : Node} {source sink : Options}
  {files : Files} {s : Sink} {info : FileInfo}

theorem Offered.prepared (h : Offered fs node source sink files)
    (hplain : source.preserve = false) : Prepared fs node source sink files where
  sends := h.sends
  plain := hplain
  recursive := h.recursive
  base := h.base
  holds := h.holds
  valid := h.valid
  receives := h.receives
  directory := h.directory

/-- Without `-p` nothing is announced, and no times are applied. -/
theorem timesSurvive_of_plain (h : Offered fs node source sink files)
    (hplain : source.preserve = false) : TimesSurvive quote fs node source sink files := by
  have hprepared := h.prepared hplain
  obtain ⟨files', hreceived, hreach⟩ : ∃ files',
      Received node (lexical sink.target) (pathBase source.target) files files' ∧
        Reaches (connected quote fs source sink files) (completed quote fs files') := by
    cases node with
    | file perm content hsize => exact file_received hprepared h.free
    | directory perm entries => exact directory_received hprepared h.free
  obtain ⟨n, hn⟩ := Peers.complete hreach not_step_completed
  refine ⟨n, fun k c hc => ⟨(hn k c hc).1, fun hend => ?_⟩⟩
  rw [(hn k c hc).2 hend]
  refine ⟨rfl, rfl, hreceived, fun l times => iff_of_false ?_ ?_⟩
  · rintro ⟨path, -, hmem⟩
    cases hmem
  · rintro ⟨hpreserve, -⟩
    rw [hplain] at hpreserve
    cases hpreserve

/-- Nothing more happens, and the source has returned an error. -/
def Broken (c : Session quote fs) : Prop := (∀ d, ¬ Peers.Step c d) ∧ ∃ err, c.left.data = some (some err)

/-- The first record is refused. -/
theorem times_refused {α : Type} {f : Option Message → Transfer α} {g : α → Transfer (Option Task)}
    (hfail : ∀ err, (f (some err) >>= g) = finish (some err)) :
    ∃ d : Session quote fs, Broken d ∧
      Reaches (session quote fs ((sendTimesIf true info >>= f) >>= g) (code (.sink s)) files [] []) d := by
  have hline : s.handleLine (timesLine info.mtime) = refuse (refusal info.mtime) := by
    change s.handleTimes (timesLine info.mtime) = _
    rw [Sink.handleTimes, parseSCPTimes_timesLine]
  obtain ⟨text, rest, hcut⟩ : ∃ text rest, Strings.cut Byte.newline
      (Message.render quote (refusal info.mtime) ++ [Byte.newline]) = some (text, rest) := by
    rcases hcut : Strings.cut Byte.newline (Message.render quote (refusal info.mtime) ++ [Byte.newline]) with
      _ | ⟨text, rest⟩
    · exact absurd (List.mem_append_right _ List.mem_cons_self) (Strings.cut_eq_none_iff.mp hcut)
    · exact ⟨text, rest, rfl⟩
  have hread (closed : Bool) : (sourceDevice quote fs).answer none .readString
      (Message.render quote (refusal info.mtime) ++ [Byte.newline]) closed = some (.line text, none, rest, []) := by
    show (takeLine _ closed).map _ = _
    rw [takeLine, hcut]
    rfl
  let err : Message := .text "scp remote error: " ++ .ofString (Strings.trimSpace text)
  refine ⟨⟨⟨.pure none, some (some err)⟩, ⟨.pure none, { files, result := some (some (refusal info.mtime)) }⟩,
    rest ++ [], []⟩, ⟨?_, err, rfl⟩, ?_⟩
  · intro d h
    cases h with
    | left h => cases h
    | right h => cases h
  · refine source_writes rfl (fun _ => rfl) ?_
    refine sink_reads (newline_notMem_timesLine info.mtime) ?_
    rw [hline]
    refine sink_writes rfl (fun _ => rfl) ?_
    refine source_performs rfl (fun _ => rfl) ?_
    refine source_performs rfl hread ?_
    change Reaches (session quote fs (f (some err) >>= g) _ files rest []) _
    rw [hfail err]
    refine .head (Device.left_performs rfl rfl) ?_
    exact .head (Device.right_performs rfl rfl) .refl

/-- A source with `-p` does not get beyond the first record. -/
theorem broken_of_preserve (h : Offered fs node source sink files) (hpreserve : source.preserve = true) :
    ∃ d : Session quote fs, Broken d ∧ Reaches (connected quote fs source sink files) d := by
  have hnode := h.holds.1
  have hrefused (info : FileInfo) (hinfo : fs.stat (lexical source.target) = .ok info)
      (hsent : ∃ d : Session quote fs, Broken d ∧ Reaches (session quote fs (sendTarget source info)
        (code (.sink { targetIsDir := true, dirs := [sink.target] })) files [] []) d) :
      ∃ d : Session quote fs, Broken d ∧ Reaches (connected quote fs source sink files) d := by
    obtain ⟨d, hbroken, hreach⟩ := hsent
    exact ⟨d, hbroken, reaches_target h.sends h.receives h.directory hinfo hreach⟩
  cases node with
  | file perm content hsize =>
    refine hrefused ⟨.regular, perm, content.length, fs.mtime (lexical source.target)⟩
      (by rw [SourceFiles.stat, hnode]) ?_
    rw [sendTarget, if_neg (by simp), hpreserve, sendSCPFile]
    exact times_refused fun err => rfl
  | directory perm entries =>
    refine hrefused ⟨.directory, perm, 0, fs.mtime (lexical source.target)⟩
      (by rw [SourceFiles.stat, hnode]) ?_
    rw [sendTarget, if_pos rfl, if_neg (by simp [h.recursive perm entries rfl]), hpreserve, sendSCPDir]
    exact times_refused fun err => rfl

theorem not_timesSurvive_of_preserve (h : Offered fs node source sink files)
    (hpreserve : source.preserve = true) : ¬ TimesSurvive quote fs node source sink files := by
  rintro ⟨n, hn⟩
  obtain ⟨d, ⟨hend, err, herr⟩, hreach⟩ : ∃ d : Session quote fs, Broken d ∧ Reaches _ d :=
    broken_of_preserve h hpreserve
  obtain ⟨k, hk⟩ := Steps.exists_of_reflTransGen hreach
  have hreturned := ((hn k d hk).2 hend).1
  rw [herr] at hreturned
  cases hreturned

/-- Times do not survive a transfer: the sink refuses the record that the source writes, whatever
the time is. So a transfer carries the tree and the announced times over if and only if there are
none to announce. -/
theorem times_survive_iff (quote : GoString → GoString) (h : Offered fs node source sink files) :
    (∀ mtime, ∃ line err, Record.bytes quote (.times mtime) = line ++ [Byte.newline] ∧
      Byte.newline ∉ line ∧ parseSCPTimes line = .error err) ∧
    (TimesSurvive quote fs node source sink files ↔ source.preserve = false) := by
  refine ⟨fun mtime => ⟨timesLine mtime, refusal mtime, rfl, newline_notMem_timesLine mtime,
    parseSCPTimes_timesLine mtime⟩, fun hsurvive => ?_, timesSurvive_of_plain h⟩
  by_contra hpreserve
  exact not_timesSurvive_of_preserve h (by simpa using hpreserve) hsurvive

end Transfer

theorem offered_oneFile (preserve : Bool) : Offered oneFile (.file 420 (str "hello") length_hello)
    { source := true, preserve, target := str "f" } { sink := true, target := str "/" } (rootWith none) where
  sends := rfl
  recursive := nofun
  base := show IsEntryName (pathBase (str "f")) from ⟨by decide, by decide⟩
  holds := ⟨rfl, trivial⟩
  valid := trivial
  receives := rfl
  directory := rfl
  free := rfl

/-- A file without times arrives. -/
theorem times_survive_plain : TimesSurvive id oneFile (.file 420 (str "hello") length_hello)
    { source := true, target := str "f" } { sink := true, target := str "/" } (rootWith none) :=
  (times_survive_iff id (offered_oneFile false)).2.mpr rfl

/-- A file with the time zero does not, and neither does its time. -/
theorem times_refused_epoch : Record.bytes id (.times 0) = str "T0 0 0 0\n" ∧
    parseSCPTimes (str "T0 0 0 0") = .error (refusal 0) ∧
    ¬ TimesSurvive id oneFile (.file 420 (str "hello") length_hello)
      { source := true, preserve := true, target := str "f" } { sink := true, target := str "/" }
      (rootWith none) :=
  ⟨by decide, parseSCPTimes_timesLine 0, not_timesSurvive_of_preserve (offered_oneFile true) rfl⟩

end KubeSsh.Scp

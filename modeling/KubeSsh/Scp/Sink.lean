import KubeSsh.Scp.Protocol

/-!
# The sink stays inside its target

What the sink of a transfer touches is decided by a stream that it does not trust. `announcing`
follows the records of that stream: the names of the directories that are open, and the name of the
file record that was read last. Every path that the sink hands to the file system to create, open or
date is the target, or leads down from it by announced names.
-/

namespace KubeSsh

/-- The path that the names lead to from `l`. -/
def Path.Lexical.extend (l : Lexical) (names : List GoString) : Lexical := ⟨l.rooted, l.parts ++ names⟩

namespace Path.Lexical

theorem child_extend (l : Lexical) (names : List GoString) (name : GoString) :
    (l.extend names).child name = l.extend (names ++ [name]) := by
  simp [extend, child]

theorem Normal.extend {l : Lexical} (h : l.Normal) {names : List GoString}
    (hnames : ∀ name ∈ names, IsName name) : (l.extend names).Normal := by
  induction names using List.reverseRecOn with
  | nil => simpa [Lexical.extend] using h
  | append_singleton names name ih =>
    rw [← child_extend]
    exact (ih fun n hn => hnames n (by simp [hn])).child (hnames name (by simp))

end Path.Lexical

namespace Scp

open KubeSsh.Path KubeSsh.System

/-! ## What is announced -/

/-- The names that the records read so far announce. -/
structure Announced where
  /-- The directory records that are open, the last one first. -/
  opened : List GoString := []
  /-- The file record that was read last, until the next record. -/
  file : Option GoString := none

def Announced.names (a : Announced) : List GoString := a.file.toList ++ a.opened

/-- A record is read. -/
def Announced.record (a : Announced) (line : GoString) : Announced :=
  match line with
  | [] => { a with file := none }
  | c :: _ =>
    if c = 68 then
      match parseSCPEntry line with
      | .ok (_, name) => { opened := name :: a.opened }
      | .error _ => { a with file := none }
    else if c = 69 then { opened := a.opened.tail }
    else if c = 67 then
      match parseSCPFile line with
      | .ok (_, _, name) => { a with file := some name }
      | .error _ => { a with file := none }
    else { a with file := none }

/-- A path is the target itself, or its cleaned form extended by announced names. -/
def Within (target : GoString) (announced : Announced) (path : GoString) : Prop :=
  path = target ∨ ∃ names : List GoString, names ≠ [] ∧
    (∀ name ∈ names, IsName name ∧ name ∈ announced.names) ∧
    path = ((lexical target).extend names).render

/-- The path that an operation of the sink creates, opens or dates. -/
def Op.changed : Op → Option GoString
  | .mkdirAll path _ | .openFile path _ | .chtimes path _ => some path
  | _ => none

def Announced.next (a : Announced) : Event interface → Announced
  | ⟨.readString, .line line⟩ => a.record line
  | _ => a

/-- The names that the records among the events announce. -/
def announced (events : List (Event interface)) : Announced := events.foldl Announced.next {}

/-- Follows the announced names, and lets the sink touch paths within its target only. -/
def announcing (target : GoString) : Monitor interface Announced where
  Allowed a op := ∀ path ∈ Op.changed op, Within target a path
  next a op answer := a.next ⟨op, answer⟩

/-! ## The stack of directories -/

/-- The directories on the stack, and the names of the records that opened them. -/
inductive Nested (target : GoString) (targetIsDir : Bool) : List GoString → List GoString → Prop
  | target : Nested target targetIsDir [target] []
  | push {dirs opened : List GoString} {name : GoString} (h : Nested target targetIsDir dirs opened)
      (hname : IsName name) : Nested target targetIsDir (pathIn targetIsDir dirs name :: dirs) (name :: opened)

section Nested

variable {target path name : GoString} {targetIsDir : Bool} {dirs opened : List GoString} {a : Announced}

/-- A further announced name leads further down. -/
theorem Within.join (h : Within target a path) (hname : IsName name) (hmem : name ∈ a.names) :
    Within target a (Path.join path name) := by
  right
  rcases h with rfl | ⟨names, -, hnames, rfl⟩
  · refine ⟨[name], by simp, by simpa using ⟨hname, hmem⟩, ?_⟩
    rw [join_eq _ hname]
    rfl
  · refine ⟨names ++ [name], by simp, ?_, ?_⟩
    · intro n hn
      rcases List.mem_append.mp hn with hn | hn
      · exact hnames n hn
      · obtain rfl := List.mem_singleton.mp hn
        exact ⟨hname, hmem⟩
    · rw [join_eq _ hname, lexical_render ((normal_lexical target).extend fun n hn => (hnames n hn).1),
        Lexical.child_extend]

theorem Nested.exists_cons (h : Nested target targetIsDir dirs opened) : ∃ dir rest, dirs = dir :: rest := by
  cases h with
  | target => exact ⟨_, _, rfl⟩
  | push => exact ⟨_, _, rfl⟩

/-- The stack is never empty: the target is at its bottom. -/
theorem Nested.getLast? (h : Nested target targetIsDir dirs opened) : dirs.getLast? = some target := by
  induction h with
  | target => rfl
  | push h _ ih =>
    obtain ⟨dir, rest, rfl⟩ := h.exists_cons
    rw [List.getLast?_cons_cons]
    exact ih

/-- If a target that is to be created is not yet left, it is the only directory. -/
theorem Nested.path_eq (h : Nested target targetIsDir dirs opened) (name : GoString) :
    pathIn targetIsDir dirs name = target ∨
      pathIn targetIsDir dirs name = Path.join (dirs.headD []) name := by
  unfold pathIn
  split
  · exact Or.inr rfl
  · rename_i hsplit
    left
    cases h with
    | target => rfl
    | push h hname =>
      obtain ⟨dir, rest, rfl⟩ := h.exists_cons
      simp at hsplit

theorem Nested.within_head (h : Nested target targetIsDir dirs opened)
    (ha : ∀ n ∈ opened, n ∈ a.names) : Within target a (dirs.headD []) := by
  induction h with
  | target => exact Or.inl rfl
  | push h hname ih =>
    rcases h.path_eq _ with heq | heq
    · exact Or.inl heq
    · have hdown := (ih fun n hn => ha n (List.mem_cons_of_mem _ hn)).join hname (ha _ List.mem_cons_self)
      rwa [← heq] at hdown

theorem Nested.within_path (h : Nested target targetIsDir dirs opened) (ha : ∀ n ∈ opened, n ∈ a.names)
    (hname : IsName name) (hmem : name ∈ a.names) : Within target a (pathIn targetIsDir dirs name) := by
  rcases h.path_eq name with heq | heq
  · exact Or.inl heq
  · rw [heq]
    exact (h.within_head ha).join hname hmem

theorem Nested.pop (h : Nested target targetIsDir dirs opened) :
    Nested target targetIsDir (if dirs.length > 1 then dirs.tail else dirs) opened.tail := by
  cases h with
  | target => exact Nested.target
  | push h hname =>
    obtain ⟨dir, rest, rfl⟩ := h.exists_cons
    simpa using h

end Nested

theorem isName_of_cleanSCPName {name name' : GoString} (h : cleanSCPName name = .ok name') :
    name' = name ∧ IsName name := by
  unfold cleanSCPName at h
  split at h
  · cases h
  · rename_i hvalid
    push Not at hvalid
    cases h
    exact ⟨rfl, hvalid.1, hvalid.2.1, hvalid.2.2.1, hvalid.2.2.2⟩

/-! ## The loop -/

/-- The sink reads no further record, and touches `path` at most. -/
def Touches (path : GoString) (op : Op) : Prop := op ≠ .readString ∧ ∀ touched ∈ op.changed, touched = path

section Loop

variable {target path : GoString} {a : Announced}

theorem obeys_of_touches {α : Type} {p : Transfer α} (h : p.Only (Touches path))
    (hpath : Within target a path) : p.Obeys (announcing target) a fun _ a' => a' = a := by
  refine h.obeys fun op hop => ⟨fun touched htouched => hop.2 touched htouched ▸ hpath, fun answer => ?_⟩
  cases op with
  | readString => exact absurd rfl hop.1
  | _ => rfl

theorem only_write (record : Record) : (write record).Only (Touches path) :=
  Prog.only_perform.mpr ⟨nofun, nofun⟩

theorem only_returned (err : Option Message) : (perform (.returned err)).Only (Touches path) :=
  Prog.only_perform.mpr ⟨nofun, nofun⟩

theorem only_chtimes (times : Option Times) : (times.forM (chtimes path)).Only (Touches path) :=
  Prog.Only.optionForM fun _ _ => Prog.only_perform.mpr ⟨nofun, fun _ h => (Option.some.inj h).symm⟩

theorem only_receiveSCPFile (mode size : ℕ) (times : Option Times) :
    (receiveSCPFile path mode size times).Only (Touches path) := by
  have hopen : (openFile path mode).Only (Touches path) :=
    Prog.only_perform.mpr ⟨nofun, fun _ h => (Option.some.inj h).symm⟩
  have hcopy : (copyN path size).Only (Touches path) := Prog.only_perform.mpr ⟨nofun, nofun⟩
  have hclose : (closeFile path).Only (Touches path) := Prog.only_perform.mpr ⟨nofun, nofun⟩
  have hread : readByte.Only (Touches path) := Prog.only_perform.mpr ⟨nofun, nofun⟩
  have hfail (err : Message) :
      (do let _ ← writeSCPAck (some err); return some err : Transfer (Option Message)).Only (Touches path) :=
    (only_write _).bind fun _ => trivial
  refine (only_write _).bind fun ack => ?_
  cases ack with
  | some err => exact trivial
  | none =>
    refine hopen.bind fun opened => ?_
    cases opened with
    | some err => exact hfail err
    | none =>
      refine hcopy.bind fun copyErr => hclose.bind fun closeErr => ?_
      cases copyErr with
      | some err => exact hfail err
      | none =>
        cases closeErr with
        | some err => exact hfail err
        | none =>
          refine hread.bind fun status => ?_
          rcases (status : Except ReadError UInt8) with err | status
          · exact trivial
          · dsimp only
            split
            · exact trivial
            · exact (only_chtimes times).bind fun _ => only_write _

/-- The sink is at its loop: the stack is that of the open directories. -/
def Ready (target : GoString) : Task → Announced → Prop
  | .run options, a => options.sink = true ∧ options.target = target ∧ a = {}
  | .sink s, a => Nested target s.targetIsDir s.dirs a.opened
  | _, _ => False

variable {next : Task}

theorem obeys_finish (err : Option Message) :
    (finish err).Obeys (announcing target) a (@Ends _ _ system (Ready target) fun _ => True) :=
  Prog.obeys_bind.mpr <| (obeys_of_touches (only_returned err) (Or.inl rfl)).mono fun _ _ _ => trivial

theorem obeys_refuse (err : Message) :
    (refuse err).Obeys (announcing target) a (@Ends _ _ system (Ready target) fun _ => True) :=
  Prog.obeys_bind.mpr <| (obeys_of_touches (only_write _) (Or.inl rfl)).mono fun _ _ _ => obeys_finish _

theorem obeys_acknowledge (h : Ready target next a) :
    (acknowledge next).Obeys (announcing target) a (@Ends _ _ system (Ready target) fun _ => True) := by
  refine Prog.obeys_bind.mpr <| (obeys_of_touches (only_write _) (Or.inl rfl)).mono ?_
  rintro ack _ rfl
  cases ack with
  | some err => exact obeys_finish _
  | none => exact h

theorem obeys_handleDirectory {s : Sink} {line : GoString}
    (hs : Nested target s.targetIsDir s.dirs a.opened) {rest : GoString} (hline : line = 68 :: rest) :
    (s.handleDirectory line).Obeys (announcing target) (a.record line)
      (@Ends _ _ system (Ready target) fun _ => True) := by
  unfold Sink.handleDirectory
  rcases hparse : parseSCPEntry line with err | ⟨mode, name⟩
  · exact obeys_refuse err
  · dsimp only
    have hrecord : a.record line = { opened := name :: a.opened } := by
      subst hline
      simp [Announced.record, hparse]
    rw [hrecord]
    rcases hclean : cleanSCPName name with err | name'
    · exact obeys_refuse err
    · obtain ⟨rfl, hname⟩ := isName_of_cleanSCPName hclean
      have hwithin : Within target { opened := name' :: a.opened } (s.path name') :=
        hs.within_path (fun n hn => List.mem_cons_of_mem _ hn) hname List.mem_cons_self
      have hmkdir : (mkdirAll (s.path name') mode).Only (Touches (s.path name')) :=
        Prog.only_perform.mpr ⟨nofun, fun _ h => (Option.some.inj h).symm⟩
      refine Prog.obeys_bind.mpr <| (obeys_of_touches hmkdir hwithin).mono ?_
      rintro made _ rfl
      cases made with
      | some err => exact obeys_refuse err
      | none =>
        refine Prog.obeys_bind.mpr <| (obeys_of_touches (only_chtimes _) hwithin).mono ?_
        rintro _ _ rfl
        exact obeys_acknowledge (hs.push hname)

theorem obeys_handleFile {s : Sink} {line : GoString}
    (hs : Nested target s.targetIsDir s.dirs a.opened) {rest : GoString} (hline : line = 67 :: rest) :
    (s.handleFile line).Obeys (announcing target) (a.record line)
      (@Ends _ _ system (Ready target) fun _ => True) := by
  unfold Sink.handleFile
  rcases hparse : parseSCPFile line with err | ⟨mode, size, name⟩
  · exact obeys_refuse err
  · dsimp only
    have hrecord : a.record line = { a with file := some name } := by
      subst hline
      simp [Announced.record, hparse]
    rw [hrecord]
    rcases hclean : cleanSCPName name with err | name'
    · exact obeys_refuse err
    · obtain ⟨rfl, hname⟩ := isName_of_cleanSCPName hclean
      have hwithin : Within target { a with file := some name' } (s.path name') :=
        hs.within_path (fun n hn => List.mem_cons_of_mem _ hn) hname List.mem_cons_self
      refine Prog.obeys_bind.mpr <|
        (obeys_of_touches (only_receiveSCPFile mode size s.pendingTimes) hwithin).mono ?_
      rintro received _ rfl
      cases received with
      | some err => exact obeys_finish _
      | none => exact hs

theorem obeys_handleLine {s : Sink} (line : GoString) (hs : Nested target s.targetIsDir s.dirs a.opened) :
    (s.handleLine line).Obeys (announcing target) (a.record line)
      (@Ends _ _ system (Ready target) fun _ => True) := by
  unfold Sink.handleLine
  split
  · exact hs
  · rename_i c rest
    split_ifs with htimes hdirectory hend hfile
    · subst htimes
      unfold Sink.handleTimes
      rcases parseSCPTimes (84 :: rest) with err | times
      · exact obeys_refuse err
      · exact obeys_acknowledge hs
    · exact obeys_handleDirectory hs (by rw [hdirectory])
    · subst hend
      exact obeys_acknowledge hs.pop
    · exact obeys_handleFile hs (by rw [hfile])
    · exact obeys_refuse _

theorem obeys_runSCPSink (options : Options) :
    (runSCPSink options).Obeys (announcing options.target) {}
      (@Ends _ _ system (Ready options.target) fun _ => True) := by
  refine Prog.obeys_bind.mpr <| (obeys_of_touches (only_write _) (Or.inl rfl)).mono ?_
  rintro ack _ rfl
  cases ack with
  | some err => exact obeys_finish _
  | none =>
    have hdir : (isDir options.target).Only (Touches options.target) := by
      refine (Prog.only_perform.mpr ⟨nofun, nofun⟩ : (stat options.target).Only _).bind fun info => ?_
      cases info <;> exact trivial
    refine Prog.obeys_bind.mpr <| (obeys_of_touches hdir (Or.inl rfl)).mono ?_
    rintro targetIsDir _ rfl
    exact Nested.target

/-- Each iteration of the sink touches paths within the target, and keeps the stack. -/
theorem sink_follows (target : GoString) :
    system.Follows (announcing target) (fun _ => {}) (Ready target) fun _ => True where
  code task a hready := by
    cases task with
    | runSCP args => exact hready.elim
    | run options =>
      obtain ⟨hsink, rfl, rfl⟩ := hready
      show (if options.sink then runSCPSink options else runSCPSource options).Obeys _ _ _
      rw [if_pos hsink]
      exact obeys_runSCPSink options
    | sink s =>
      refine ⟨nofun, fun answer => ?_⟩
      rcases (answer : LineRead) with line | ⟨text, err⟩
      · exact obeys_handleLine line hready
      · cases err <;> exact obeys_finish _
    | source preserve frames => exact hready.elim
  started _ _ _ _ h := by cases h

end Loop

/-- The sink stays inside its target. Whatever it reads and whatever its file system answers, a path
that it creates, opens or dates is the target, or the cleaned target extended by names that open
directory records, or the record itself, announce. The target stays at the bottom of the stack of
directories. -/
theorem sink_within_target {options : Options} (hsink : options.sink = true)
    {trace : List (ℕ × Event interface)} {c : system.Config} (hrun : system.Run (start options) trace c) :
    (∀ i before event rest, eventsOf i trace = before ++ event :: rest →
      ∀ path ∈ Op.changed event.op, Within options.target (announced before) path) ∧
    ∀ s, Prog.pure (some (Task.sink s)) ∈ c.threads → s.dirs.getLast? = some options.target := by
  have hready : ∀ task ∈ [Task.run options], Ready options.target task {} := by
    intro task htask
    obtain rfl := List.mem_singleton.mp htask
    exact ⟨hsink, rfl, rfl⟩
  constructor
  · intro i before event rest heq
    exact hrun.accepts_of_follows (sink_follows options.target) hready i before event rest heq
  · intro s hs
    obtain ⟨states, -, htracks⟩ := hrun.tracked (sink_follows options.target) hready (fun _ _ _ => True)
      trivial fun _ _ _ _ _ _ _ _ _ _ _ _ => trivial
    obtain ⟨i, hi⟩ := List.mem_iff_getElem?.mp hs
    obtain ⟨a, -, hobeys⟩ := htracks.state hi
    exact Nested.getLast? hobeys

/-- A sink with the target `./t` reads a directory record, and creates the directory in there. -/
theorem sink_within_target_directory :
    (∃ trace c, system.Run (start { sink := true, target := str "./t" }) trace c ∧
      (0, ⟨.mkdirAll (str "t/a") 493, none⟩) ∈ trace) ∧
      Within (str "./t") { opened := [str "a"] } (str "t/a") := by
  have answers (op : Op) (answer : op.Answer) : system.Answers () op answer () := trivial
  have h0 := Run.start (c := start { sink := true, target := str "./t" })
  have h1 := h0.perform 0 rfl (none : Option Message) (answers _ _)
  have h2 := h1.perform 0 rfl (.ok ⟨.directory, 493, 0, 0⟩ : Except Message FileInfo) (answers _ _)
  have h3 := h2.resume 0 rfl
  have h4 := h3.perform 0 rfl (.line (str "D0755 0 a") : LineRead) (answers _ _)
  have h5 := h4.perform 0 rfl (none : Option Message) (answers (.mkdirAll (str "t/a") 493) _)
  refine ⟨⟨_, _, h5, List.mem_append_right _ List.mem_cons_self⟩, ?_⟩
  exact (sink_within_target rfl h5).1 0 [⟨.write .ok, none⟩, ⟨.stat (str "./t"), _⟩, ⟨.readString, _⟩]
    ⟨.mkdirAll (str "t/a") 493, none⟩ [] rfl (str "t/a") rfl

end Scp

end KubeSsh

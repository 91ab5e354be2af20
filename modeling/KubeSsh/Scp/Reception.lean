import KubeSsh.Scp.Transfer

/-!
# What the sink receives

The sink alone, with the whole of a stream before it. The stream is read once more without a file
system: `received` lists its file records, each with the directories that are open around it. The
sink puts the content of a record at the path that the record's location leads to from the target,
if the target is a directory. If it is not, the outermost name of the location is dropped, so
records whose locations differ in that name only are written over each other.
-/

namespace KubeSsh.Scp

open KubeSsh.Path

/-! ## The records of a stream -/

/-- A file record with its content. -/
structure Reception where
  /-- The directory records that are open, the last one first. -/
  opened : List GoString
  name : GoString
  content : GoString
deriving DecidableEq

/-- The announced directory, from the outside in, and the name in it. -/
def Reception.location (r : Reception) : List GoString := r.opened.reverse ++ [r.name]

/-- The file records of a stream while the directories `opened` are open. There is fuel for each
line. -/
def receivedFrom : ℕ → List GoString → GoString → List Reception
  | 0, _, _ => []
  | fuel + 1, opened, stream =>
    match Strings.cut Byte.newline stream with
    | none => []
    | some ([], rest) => receivedFrom fuel opened rest
    | some (c :: text, rest) =>
      if c = 68 then
        match parseSCPEntry (c :: text) with
        | .error _ => []
        | .ok (_, name) => receivedFrom fuel (name :: opened) rest
      else if c = 69 then receivedFrom fuel opened.tail rest
      else if c = 67 then
        match parseSCPFile (c :: text) with
        | .error _ => []
        | .ok (_, size, name) =>
          ⟨opened, name, rest.take size⟩ :: receivedFrom fuel opened (rest.drop (size + 1))
      else receivedFrom fuel opened rest

/-- The file records of a stream. -/
def received (stream : GoString) : List Reception := receivedFrom (stream.length + 1) [] stream

/-- Where a location leads to from the target. A target that is no directory stands for the
outermost name. -/
def denoted (target : GoString) (targetIsDir : Bool) (location : List GoString) : Lexical :=
  (lexical target).extend (if targetIsDir then location else location.tail)

/-! ## The sink alone -/

/-- What the sink has, what is left of the stream, and the paths of the files it opened to write. -/
structure Alone where
  data : SinkData
  stream : GoString
  written : List GoString := []

/-- The paths that were opened to be written, after one more operation. -/
def Op.record (written : List GoString) : Op → List GoString
  | .openFile path _ => written ++ [path]
  | _ => written

section Alone

variable (quote : GoString → GoString)

/-- The device of the sink behind a stream that ends. -/
def answerAlone (op : Op) : StateT Alone Option op.Answer := fun a =>
  ((sinkDevice quote).answer a.data op a.stream true).map fun (answer, data, stream, _) =>
    (answer, { data, stream, written := op.record a.written })

/-- A program of the sink alone. -/
def runAlone {α : Type} (p : Transfer α) (a : Alone) : Option (α × Alone) :=
  (p.interpret (m := StateT Alone Option) (answerAlone quote)).run a

/-- One task after the other, to the end. -/
inductive Receives : Task → Alone → Alone → Prop
  | done {task : Task} {a b : Alone} (h : runAlone quote (code task) a = some (none, b)) : Receives task a b
  | next {task task' : Task} {a b c : Alone} (h : runAlone quote (code task) a = some (some task', b))
      (hnext : Receives task' b c) : Receives task a c

/-- The tasks as a program, with fuel for each. -/
def receive : ℕ → Task → Alone → Option Alone
  | 0, _, _ => none
  | fuel + 1, task, a =>
    match runAlone quote (code task) a with
    | none => none
    | some (none, b) => some b
    | some (some task', b) => receive fuel task' b

theorem receives_of_receive {fuel : ℕ} {task : Task} {a b : Alone}
    (h : receive quote fuel task a = some b) : Receives quote task a b := by
  induction fuel generalizing task a with
  | zero => cases h
  | succ fuel ih =>
    unfold receive at h
    split at h
    · cases h
    · rename_i hend
      cases h
      exact .done hend
    · rename_i hnext
      exact .next hnext (ih h)

end Alone

section Run

variable {quote : GoString → GoString} {α β : Type} {a b : Alone}

theorem runAlone_bind (p : Transfer α) (k : α → Transfer β) :
    runAlone quote (p >>= k) a = (runAlone quote p a).bind fun (x, b) => runAlone quote (k x) b := by
  unfold runAlone
  rw [Prog.interpret_bind]
  rfl

theorem runAlone_write (record : Record) (k : Option Message → Transfer β) :
    runAlone quote (write record >>= k) a = runAlone quote (k none) a := rfl

theorem runAlone_readString (k : LineRead → Transfer β) : runAlone quote (readString >>= k) a =
    (takeLine a.stream true).bind fun (line, stream) => runAlone quote (k line) { a with stream } := by
  change (((takeLine a.stream true).map _).map _).bind _ = _
  cases takeLine a.stream true <;> rfl

theorem runAlone_readByte (k : Except ReadError UInt8 → Transfer β) : runAlone quote (readByte >>= k) a =
    (takeByte a.stream true).bind fun (byte, stream) => runAlone quote (k byte) { a with stream } := by
  change (((takeByte a.stream true).map _).map _).bind _ = _
  cases takeByte a.stream true <;> rfl

theorem runAlone_copyN (path : GoString) (size : ℕ) (k : Option Message → Transfer β) :
    runAlone quote (copyN path size >>= k) a =
      (takeN size a.stream true).bind fun ((bytes, err), stream) => runAlone quote (k err)
        { a with data := { a.data with files := a.data.files.append (lexical path) bytes }, stream } := by
  change (((takeN size a.stream true).map _).map _).bind _ = _
  cases takeN size a.stream true <;> rfl

theorem runAlone_openFile (path : GoString) (mode : ℕ) (k : Option Message → Transfer β) :
    runAlone quote (openFile path mode >>= k) a =
      let opened := a.data.after (a.data.files.openFile (lexical path) (Fin.ofNat 512 mode))
      runAlone quote (k opened.1) { a with data := opened.2, written := a.written ++ [path] } := rfl

theorem runAlone_mkdirAll (path : GoString) (mode : ℕ) (k : Option Message → Transfer β) :
    runAlone quote (mkdirAll path mode >>= k) a =
      let made := a.data.after (a.data.files.mkdirAll (lexical path) (Fin.ofNat 512 mode))
      runAlone quote (k made.1) { a with data := made.2 } := rfl

theorem runAlone_closeFile (path : GoString) (k : Option Message → Transfer β) :
    runAlone quote (closeFile path >>= k) a = runAlone quote (k none) a := rfl

theorem runAlone_chtimes (path : GoString) (times : Option Times) (k : Unit → Transfer β) :
    runAlone quote (times.forM (chtimes path) >>= k) a = runAlone quote (k ())
      { a with data := { a.data with dated := a.data.dated ++ times.toList.map fun t => (path, t) } } := by
  cases times with
  | none =>
    change runAlone quote (k ()) a = runAlone quote (k ())
      { a with data := { a.data with dated := a.data.dated ++ [] } }
    rw [List.append_nil]
  | some times => rfl

end Run

/-! ## One record -/

section Record

variable {quote : GoString → GoString} {a b : Alone} {s s' : Sink} {line : GoString}

/-- A file that could be opened is empty. -/
theorem Files.entry_of_openFile {fs fs' : Files} {l : Lexical} {perm : Fin 512} (h : fs.openFile l perm = .ok fs') :
    ∃ perm', fs'.entry = Function.update fs.entry l (some (.file perm' [])) := by
  unfold Files.openFile at h
  split at h
  · cases h
  · cases h
    exact ⟨_, rfl⟩
  · split at h
    · cases h
      exact ⟨_, rfl⟩
    · cases h

/-- `os.MkdirAll` leaves what is there. -/
theorem Files.entry_of_mkdirAll {fs fs' : Files} {l l' : Lexical} {perm : Fin 512} {entry : Entry}
    (h : fs.mkdirAll l perm = .ok fs') (hentry : fs.entry l' = some entry) : fs'.entry l' = some entry := by
  unfold Files.mkdirAll at h
  split at h
  · cases h
  · cases h
    dsimp only
    rw [if_neg fun hmade => Option.some_ne_none entry (hentry.symm.trans hmade.2.2), hentry]

theorem SinkData.after_eq_none {d d' : SinkData} {outcome : Except Message Files}
    (h : d.after outcome = (none, d')) : ∃ files, outcome = .ok files ∧ d' = { d with files } := by
  cases outcome with
  | error err => cases h
  | ok files =>
    cases h
    exact ⟨files, rfl, rfl⟩

/-- A file is received: its content is in the stream, and then a zero byte. -/
theorem receiveSCPFile_eq_none {dest : GoString} {mode size : ℕ} {times : Option Times}
    (h : runAlone quote (receiveSCPFile dest mode size times) a = some (none, b)) :
    b.stream = a.stream.drop (size + 1) ∧ b.written = a.written ++ [dest] ∧
      ∃ perm, b.data.files.entry =
        Function.update a.data.files.entry (lexical dest) (some (.file perm (a.stream.take size))) := by
  unfold receiveSCPFile at h
  rw [writeSCPAck, runAlone_write] at h
  dsimp only at h
  rw [runAlone_openFile] at h
  dsimp only at h
  rcases hopened : a.data.after (a.data.files.openFile (lexical dest) (Fin.ofNat 512 mode)) with ⟨err | err, d⟩
  all_goals rw [hopened] at h; dsimp only at h
  case some => cases h
  obtain ⟨files, hfiles, rfl⟩ := SinkData.after_eq_none hopened
  obtain ⟨perm, hperm⟩ := Files.entry_of_openFile hfiles
  rw [runAlone_copyN, takeN, if_pos (rfl : true = true)] at h
  dsimp only at h
  split_ifs at h with hsize
  · rw [Option.bind_some] at h
    dsimp only at h
    rw [runAlone_closeFile] at h
    dsimp only at h
    rw [runAlone_readByte] at h
    dsimp only at h
    rcases hrest : a.stream.drop size with _ | ⟨status, rest⟩
    all_goals rw [hrest] at h
    · cases h
    · rw [takeByte, Option.bind_some] at h
      dsimp only at h
      split_ifs at h with hstatus
      · cases h
      · rw [runAlone_chtimes] at h
        cases h
        refine ⟨?_, rfl, perm, ?_⟩
        · rw [← List.drop_drop, hrest]
          rfl
        · rw [Files.append_file (by rw [hperm, Function.update_self]), hperm, Function.update_idem,
            List.nil_append]
  · cases h

/-- What a record does that the sink accepts. -/
inductive Handled (s : Sink) (a : Alone) : GoString → Sink → Alone → Prop
  | skipped {line : GoString} {s' : Sink} {b : Alone} (hline : ∀ c ∈ line.head?, c ≠ 68 ∧ c ≠ 69 ∧ c ≠ 67)
      (hdirs : s'.dirs = s.dirs) (hfiles : b.data.files = a.data.files) (hstream : b.stream = a.stream)
      (hwritten : b.written = a.written) : Handled s a line s' b
  | directory {text name : GoString} {mode : ℕ} {s' : Sink} {b : Alone}
      (hparse : parseSCPEntry (68 :: text) = .ok (mode, name)) (hname : IsName name)
      (hdirs : s'.dirs = s.path name :: s.dirs)
      (hfiles : a.data.files.mkdirAll (lexical (s.path name)) (Fin.ofNat 512 mode) = .ok b.data.files)
      (hstream : b.stream = a.stream) (hwritten : b.written = a.written) : Handled s a (68 :: text) s' b
  | ended {text : GoString} {s' : Sink} (hdirs : s'.dirs = if s.dirs.length > 1 then s.dirs.tail else s.dirs) :
      Handled s a (69 :: text) s' a
  | file {text name : GoString} {mode size : ℕ} {perm : Fin 512} {s' : Sink} {b : Alone}
      (hparse : parseSCPFile (67 :: text) = .ok (mode, size, name)) (hname : IsName name)
      (hdirs : s'.dirs = s.dirs) (hstream : b.stream = a.stream.drop (size + 1))
      (hwritten : b.written = a.written ++ [s.path name])
      (hfiles : b.data.files.entry = Function.update a.data.files.entry (lexical (s.path name))
        (some (.file perm (a.stream.take size)))) : Handled s a (67 :: text) s' b

/-- The sink has returned an error. -/
def Failed (next : Option Task) (b : Alone) : Prop := next = none ∧ ∃ err, b.data.result = some (some err)

/-- What comes after a line. -/
def Continues (s : Sink) (line : GoString) (a : Alone) (next : Option Task) (b : Alone) : Prop :=
  Failed next b ∨ ∃ s', next = some (.sink s') ∧ s'.targetIsDir = s.targetIsDir ∧ Handled s a line s' b

variable {next : Option Task}

theorem continues_of_refuse {err : Message} (h : runAlone quote (refuse err) a = some (next, b)) :
    Continues s line a next b := by
  cases h
  exact Or.inl ⟨rfl, err, rfl⟩

theorem handleDirectory_continues {text : GoString}
    (h : runAlone quote (s.handleDirectory (68 :: text)) a = some (next, b)) :
    Continues s (68 :: text) a next b := by
  unfold Sink.handleDirectory at h
  rcases hparse : parseSCPEntry (68 :: text) with err | ⟨mode, name⟩
  all_goals rw [hparse] at h; dsimp only at h
  · exact continues_of_refuse h
  rcases hclean : cleanSCPName name with err | name'
  all_goals rw [hclean] at h; dsimp only at h
  · exact continues_of_refuse h
  obtain ⟨rfl, hname⟩ := isName_of_cleanSCPName hclean
  rw [runAlone_mkdirAll] at h
  dsimp only at h
  rcases hmade : a.data.after (a.data.files.mkdirAll (lexical (s.path name')) (Fin.ofNat 512 mode)) with
    ⟨err | err, d⟩
  all_goals rw [hmade] at h; dsimp only at h
  case some =>
    cases h
    exact Or.inl ⟨rfl, err, rfl⟩
  obtain ⟨files, hfiles, rfl⟩ := SinkData.after_eq_none hmade
  rw [runAlone_chtimes] at h
  cases h
  exact Or.inr ⟨_, rfl, rfl, .directory hparse hname rfl hfiles rfl rfl⟩

theorem handleFile_continues {text : GoString}
    (h : runAlone quote (s.handleFile (67 :: text)) a = some (next, b)) :
    Continues s (67 :: text) a next b := by
  unfold Sink.handleFile at h
  rcases hparse : parseSCPFile (67 :: text) with err | ⟨mode, size, name⟩
  all_goals rw [hparse] at h; dsimp only at h
  · exact continues_of_refuse h
  rcases hclean : cleanSCPName name with err | name'
  all_goals rw [hclean] at h; dsimp only at h
  · exact continues_of_refuse h
  obtain ⟨rfl, hname⟩ := isName_of_cleanSCPName hclean
  rw [runAlone_bind] at h
  obtain ⟨⟨outcome, b'⟩, hreceived, h⟩ := Option.bind_eq_some_iff.mp h
  cases outcome with
  | some err =>
    cases h
    exact Or.inl ⟨rfl, err, rfl⟩
  | none =>
    cases h
    obtain ⟨hstream, hwritten, perm, hfiles⟩ := receiveSCPFile_eq_none hreceived
    exact Or.inr ⟨_, rfl, rfl, .file hparse hname rfl hstream hwritten hfiles⟩

theorem handleLine_continues (h : runAlone quote (s.handleLine line) a = some (next, b)) :
    Continues s line a next b := by
  unfold Sink.handleLine at h
  split at h
  · cases h
    exact Or.inr ⟨_, rfl, rfl, .skipped nofun rfl rfl rfl rfl⟩
  rename_i c text
  split_ifs at h with htimes hdirectory hend hfile
  · subst htimes
    unfold Sink.handleTimes at h
    split at h
    · exact continues_of_refuse h
    · cases h
      exact Or.inr ⟨_, rfl, rfl, .skipped (by simp) rfl rfl rfl rfl⟩
  · subst hdirectory
    exact handleDirectory_continues h
  · subst hend
    cases h
    exact Or.inr ⟨_, rfl, rfl, .ended rfl⟩
  · subst hfile
    exact handleFile_continues h
  · exact continues_of_refuse h

/-- One iteration of the loop: the stream ends here, or a line is handled. -/
theorem next_cases (h : runAlone quote s.next a = some (next, b)) :
    (next = none ∧ Strings.cut Byte.newline a.stream = none ∧ b.data.files = a.data.files ∧
        b.written = a.written) ∨
      ∃ line rest, Strings.cut Byte.newline a.stream = some (line, rest) ∧
        Continues s line { a with stream := rest } next b := by
  unfold Sink.next at h
  rw [runAlone_readString, takeLine, if_pos (rfl : true = true)] at h
  rcases hcut : Strings.cut Byte.newline a.stream with _ | ⟨line, rest⟩
  all_goals rw [hcut] at h
  · cases h
    exact Or.inl ⟨rfl, rfl, rfl, rfl⟩
  · exact Or.inr ⟨line, rest, rfl, handleLine_continues h⟩

end Record

/-! ## The whole stream -/

section Stream

variable {target name : GoString} {targetIsDir : Bool} {dirs opened : List GoString}

theorem Nested.length (h : Nested target targetIsDir dirs opened) : dirs.length = opened.length + 1 := by
  induction h with
  | target => rfl
  | push h hname ih => rw [List.length_cons, ih, List.length_cons]

/-- One name further down than a location that has left the target. -/
theorem denoted_concat (location : List GoString) (h : targetIsDir = true ∨ location ≠ []) :
    denoted target targetIsDir (location ++ [name]) = (denoted target targetIsDir location).child name := by
  unfold denoted
  rw [Lexical.child_extend]
  cases targetIsDir with
  | true => rfl
  | false =>
    have hne : location ≠ [] := by simpa using h
    simp [List.tail_append_of_ne_nil hne]

theorem denoted_singleton : denoted target false [name] = lexical target := by
  simp [denoted, Lexical.extend]

/-- The directory on top of the stack, and what is put in there. -/
theorem Nested.denoted_head (h : Nested target targetIsDir dirs opened) :
    lexical (dirs.headD []) = denoted target targetIsDir opened.reverse ∧
      ∀ name, IsName name → lexical (pathIn targetIsDir dirs name)
        = denoted target targetIsDir (opened.reverse ++ [name]) := by
  have hpath {dirs opened : List GoString} (h : Nested target targetIsDir dirs opened)
      (hhead : lexical (dirs.headD []) = denoted target targetIsDir opened.reverse)
      {name : GoString} (hname : IsName name) :
      lexical (pathIn targetIsDir dirs name) = denoted target targetIsDir (opened.reverse ++ [name]) := by
    unfold pathIn
    dsimp only
    rw [h.length]
    split_ifs with hdown
    · rw [lexical_join _ hname, hhead]
      refine (denoted_concat _ ?_).symm
      rcases hdown with hdown | hdown
      · exact Or.inl hdown
      · right
        rintro heq
        rw [List.reverse_eq_nil_iff.mp heq] at hdown
        exact absurd hdown (by decide)
    · push Not at hdown
      obtain rfl : opened = [] := List.length_eq_zero_iff.mp (by omega)
      obtain rfl : targetIsDir = false := by simpa using hdown.1
      rw [hhead, List.reverse_nil, List.nil_append, denoted_singleton]
      simp [denoted, Lexical.extend]
  have hhead : lexical (dirs.headD []) = denoted target targetIsDir opened.reverse := by
    induction h with
    | target => cases targetIsDir <;> simp [denoted, Lexical.extend]
    | push h hname ih =>
      rw [List.reverse_cons]
      exact hpath h ih hname
  exact ⟨hhead, fun name hname => hpath h hhead hname⟩

/-- The records so far are at their paths, unless there was a later one for that path. -/
structure Stored (target : GoString) (targetIsDir : Bool) (records : List Reception) (files : Files)
    (written : List GoString) : Prop where
  placed : written.map lexical = records.map fun r => denoted target targetIsDir r.location
  latest : ∀ before r after, records = before ++ r :: after →
    (∀ r' ∈ after, denoted target targetIsDir r'.location ≠ denoted target targetIsDir r.location) →
    ∃ perm, files.entry (denoted target targetIsDir r.location) = some (.file perm r.content)

variable {records : List Reception} {files files' : Files} {written : List GoString}

theorem stored_nil : Stored target targetIsDir [] files [] :=
  ⟨rfl, fun before r after h => by simp at h⟩

/-- Files stay where they are. -/
theorem Stored.keep (h : Stored target targetIsDir records files written)
    (hkeep : ∀ l entry, files.entry l = some entry → files'.entry l = some entry) :
    Stored target targetIsDir records files' written := by
  refine ⟨h.placed, fun before r after heq hlast => ?_⟩
  obtain ⟨perm, hperm⟩ := h.latest before r after heq hlast
  exact ⟨perm, hkeep _ _ hperm⟩

/-- One more record is stored. -/
theorem Stored.concat (h : Stored target targetIsDir records files written) {r : Reception} {path : GoString}
    {perm : Fin 512} (hpath : lexical path = denoted target targetIsDir r.location)
    (hfiles : files'.entry = Function.update files.entry (lexical path) (some (.file perm r.content))) :
    Stored target targetIsDir (records ++ [r]) files' (written ++ [path]) where
  placed := by rw [List.map_append, h.placed, List.map_append, List.map_singleton, List.map_singleton, hpath]
  latest before r' after heq hlast := by
    rw [hfiles, hpath]
    rcases List.eq_nil_or_concat after with rfl | ⟨after, last, rfl⟩
    · obtain ⟨-, hr⟩ := List.append_inj' heq rfl
      cases hr
      exact ⟨perm, Function.update_self _ _ _⟩
    · rw [List.concat_eq_append, ← List.cons_append, ← List.append_assoc] at heq
      obtain ⟨hrecords, hr⟩ := List.append_inj' heq rfl
      cases hr
      have hne := hlast r (by simp)
      rw [Function.update_of_ne hne.symm]
      exact h.latest before r' after hrecords fun r'' hr'' => hlast r'' (by simp [hr''])

/-- The sink is at its loop: the stack is that of the open directories, and the records so far are
stored. -/
structure Receiving (target : GoString) (targetIsDir : Bool) (opened : List GoString)
    (records : List Reception) (s : Sink) (a : Alone) : Prop where
  isDir : s.targetIsDir = targetIsDir
  nested : Nested target targetIsDir s.dirs opened
  stored : Stored target targetIsDir records a.data.files a.written

variable {quote : GoString → GoString} {s s' : Sink} {a b : Alone} {line rest : GoString}

/-- Each line keeps the invariant, and is read as `receivedFrom` reads it. -/
theorem Receiving.step (h : Receiving target targetIsDir opened records s a)
    (hcut : Strings.cut Byte.newline a.stream = some (line, rest)) (hdir : s'.targetIsDir = s.targetIsDir)
    (hhandled : Handled s { a with stream := rest } line s' b) :
    ∃ opened' new, Receiving target targetIsDir opened' (records ++ new) s' b ∧ b.stream.length ≤ rest.length ∧
      ∀ fuel, receivedFrom (fuel + 1) opened a.stream = new ++ receivedFrom fuel opened' b.stream := by
  have hpath {name : GoString} (hname : IsName name) :
      lexical (s.path name) = denoted target targetIsDir (opened.reverse ++ [name]) := by
    rw [Sink.path, h.isDir]
    exact h.nested.denoted_head.2 name hname
  cases hhandled with
  | skipped hline hdirs hfiles hstream hwritten =>
    refine ⟨opened, [], ⟨hdir.trans h.isDir, hdirs ▸ h.nested, ?_⟩, by rw [hstream], fun fuel => ?_⟩
    · rw [List.append_nil, hfiles, hwritten]
      exact h.stored
    · rw [receivedFrom, hcut, hstream]
      cases line with
      | nil => rfl
      | cons c text =>
        obtain ⟨hd, he, hc⟩ := hline c rfl
        simp [hd, he, hc]
  | directory hparse hname hdirs hfiles hstream hwritten =>
    rename_i text name mode
    refine ⟨name :: opened, [], ⟨hdir.trans h.isDir, ?_, ?_⟩, by rw [hstream], fun fuel => ?_⟩
    · rw [hdirs, Sink.path, h.isDir]
      exact h.nested.push hname
    · rw [List.append_nil, hwritten]
      exact h.stored.keep fun l entry => Files.entry_of_mkdirAll hfiles
    · simp [receivedFrom, hcut, hstream, hparse]
  | ended hdirs =>
    refine ⟨opened.tail, [], ⟨hdir.trans h.isDir, ?_, ?_⟩, le_refl _, fun fuel => ?_⟩
    · rw [hdirs]
      exact h.nested.pop
    · rw [List.append_nil]
      exact h.stored
    · simp [receivedFrom, hcut]
  | file hparse hname hdirs hstream hwritten hfiles =>
    rename_i text name mode size perm
    refine ⟨opened, [⟨opened, name, rest.take size⟩], ⟨hdir.trans h.isDir, hdirs ▸ h.nested, ?_⟩,
      ?_, fun fuel => ?_⟩
    · rw [hwritten]
      exact h.stored.concat (hpath hname) hfiles
    · rw [hstream, List.length_drop]
      exact Nat.sub_le _ _
    · simp [receivedFrom, hcut, hstream, hparse]

/-- At the end of a stream that is accepted, all its records are stored. -/
theorem Receives.stored {task : Task} (hrun : Receives quote task a b) :
    task = .sink s → b.data.result = some none → ∀ opened records fuel, a.stream.length < fuel →
      Receiving target targetIsDir opened records s a →
      Stored target targetIsDir (records ++ receivedFrom fuel opened a.stream) b.data.files b.written := by
  induction hrun generalizing s with
  | done h =>
    rename_i a b
    rintro rfl hresult opened records fuel hfuel hreceiving
    rcases next_cases h with ⟨-, hcut, hfiles, hwritten⟩ | ⟨line, rest, -, hfailed | ⟨s', hnext, -⟩⟩
    · have hend : receivedFrom fuel opened a.stream = [] := by
        cases fuel with
        | zero => rfl
        | succ fuel => rw [receivedFrom, hcut]
      rw [hend, List.append_nil, hfiles, hwritten]
      exact hreceiving.stored
    · obtain ⟨-, err, herr⟩ := hfailed
      rw [herr] at hresult
      cases hresult
    · cases hnext
  | next h hlater ih =>
    rename_i a b c
    rintro rfl hresult opened records fuel hfuel hreceiving
    rcases next_cases h with ⟨hnext, -⟩ | ⟨line, rest, hcut, hfailed | ⟨s', hnext, hdir, hhandled⟩⟩
    · cases hnext
    · cases hfailed.1
    · obtain ⟨opened', new, hreceiving', hlen, hread⟩ := hreceiving.step hcut hdir hhandled
      have hrest : rest.length < a.stream.length := by
        rw [(Strings.cut_eq_some_iff.mp hcut).1, List.length_append, List.length_cons]
        omega
      obtain ⟨fuel, rfl⟩ := Nat.exists_eq_add_of_lt hfuel
      rw [hread, ← List.append_assoc]
      exact ih (Option.some.inj hnext) hresult opened' (records ++ new) _ (by omega) hreceiving'

/-- The content of each record is at the end at the path that the record denotes, unless there was a
later record of the same location; records of different locations are written to different paths. -/
structure Lossless (target : GoString) (targetIsDir : Bool) (records : List Reception) (a : Alone) : Prop where
  placed : a.written.map lexical = records.map fun r => denoted target targetIsDir r.location
  found : ∀ before r after, records = before ++ r :: after → (∀ r' ∈ after, r'.location ≠ r.location) →
    ∃ perm, a.data.files.entry (denoted target targetIsDir r.location) = some (.file perm r.content)
  apart : ∀ (i j : ℕ) (r r' : Reception) (path path' : GoString), records[i]? = some r → records[j]?
    = some r' → r.location ≠ r'.location → a.written[i]? = some path → a.written[j]? = some path' →
    lexical path ≠ lexical path'

theorem Lexical.extend_inj {l : Lexical} {names names' : List GoString} :
    l.extend names = l.extend names' ↔ names = names' := by
  simp [Lexical.extend]

/-- Stored records are kept if and only if no two locations denote the same path. -/
theorem Stored.lossless_iff (h : Stored target targetIsDir records a.data.files a.written) :
    Lossless target targetIsDir records a ↔ ∀ r ∈ records, ∀ r' ∈ records,
      denoted target targetIsDir r.location = denoted target targetIsDir r'.location →
        r.location = r'.location := by
  have hwritten {i : ℕ} {r : Reception} (hi : records[i]? = some r) :
      (a.written[i]?).map lexical = some (denoted target targetIsDir r.location) := by
    rw [← List.getElem?_map, h.placed, List.getElem?_map, hi, Option.map_some]
  constructor
  · intro hkept r hr r' hr' hsame
    by_contra hne
    obtain ⟨i, hi⟩ := List.mem_iff_getElem?.mp hr
    obtain ⟨j, hj⟩ := List.mem_iff_getElem?.mp hr'
    obtain ⟨path, hpath, hlexical⟩ := Option.map_eq_some_iff.mp (hwritten hi)
    obtain ⟨path', hpath', hlexical'⟩ := Option.map_eq_some_iff.mp (hwritten hj)
    exact hkept.apart i j r r' path path' hi hj hne hpath hpath' (by rw [hlexical, hsame, hlexical'])
  · intro hinj
    refine ⟨h.placed, fun before r after heq hlast => ?_, ?_⟩
    · refine h.latest before r after heq fun r' hr' hsame => hlast r' hr' ?_
      exact hinj r' (by simp [heq, hr']) r (by simp [heq]) hsame
    · intro i j r r' path path' hi hj hne hpath hpath' hsame
      have hr := hwritten hi
      have hr' := hwritten hj
      rw [hpath, Option.map_some] at hr
      rw [hpath', Option.map_some] at hr'
      refine hne (hinj r (List.mem_of_getElem? hi) r' (List.mem_of_getElem? hj) ?_)
      rw [← Option.some.inj hr, ← Option.some.inj hr', hsame]

theorem denoted_eq_iff {location location' : List GoString} :
    denoted target targetIsDir location = denoted target targetIsDir location' ↔
      if targetIsDir then location = location' else location.tail = location'.tail := by
  unfold denoted
  cases targetIsDir <;> simp [Lexical.extend_inj]

end Stream

/-- The sink looks at its target before it reads. -/
theorem runAlone_runSCPSink {quote : GoString → GoString} (options : Options) (a : Alone) :
    runAlone quote (runSCPSink options) a = some (some (.sink
      { targetIsDir := a.data.files.isDirectory (lexical options.target), dirs := [options.target] }), a) := by
  unfold runSCPSink
  rw [writeSCPAck, runAlone_write]
  dsimp only
  have hdir : runAlone quote (isDir options.target) a =
      some (a.data.files.isDirectory (lexical options.target), a) := by
    have hstat : runAlone quote (stat options.target) a =
        some (a.data.files.stat (lexical options.target), a) := rfl
    rw [isDir, runAlone_bind, hstat]
    unfold Files.stat Files.isDirectory
    rcases a.data.files.entry (lexical options.target) with _ | ⟨_, _⟩ | _ <;> rfl
  rw [runAlone_bind, hdir]
  rfl

/-- The sink loses no file that it receives, if its target is a directory when it starts or if no
two records of the stream have locations that differ in the outermost name only; and only then. -/
theorem received_kept_iff (quote : GoString → GoString) {options : Options}
    (hsink : options.sink = true) {files : Files} {stream : GoString} {final : Alone}
    (hrun : Receives quote (.run options) { data := { files }, stream } final)
    (haccepted : final.data.result = some none) :
    Lossless options.target (files.isDirectory (lexical options.target)) (received stream) final ↔
      files.isDirectory (lexical options.target) = true ∨
        ∀ r ∈ received stream, ∀ r' ∈ received stream,
          r.location.tail = r'.location.tail → r.location = r'.location := by
  have hstored : Stored options.target (files.isDirectory (lexical options.target))
      (received stream) final.data.files final.written := by
    have hcode : code (.run options) = runSCPSink options := if_pos hsink
    have hstart : Receiving options.target (files.isDirectory (lexical options.target)) [] []
        { targetIsDir := files.isDirectory (lexical options.target), dirs := [options.target] }
        { data := { files }, stream } := ⟨rfl, .target, stored_nil⟩
    cases hrun with
    | done h =>
      rw [hcode, runAlone_runSCPSink] at h
      cases h
    | next h hnext =>
      rw [hcode, runAlone_runSCPSink] at h
      cases h
      exact hnext.stored rfl haccepted [] [] _ (Nat.lt_succ_self _) hstart
  rw [hstored.lossless_iff]
  simp only [denoted_eq_iff]
  cases files.isDirectory (lexical options.target) <;> simp

/-- Two files of one byte. -/
def twoFiles : GoString := str "C0644 1 a\nx\x00C0644 1 b\ny\x00"

theorem received_twoFiles : received twoFiles = [⟨[], str "a", str "x"⟩, ⟨[], str "b", str "y"⟩] := by decide +kernel

/-- A sink that gets both at a target of an otherwise empty root directory. -/
def receiveTwo (target : GoString) : Option Alone :=
  receive id 4 (.run { sink := true, target }) { data := { files := rootWith none }, stream := twoFiles }

/-- Both arrive in a directory. -/
theorem received_kept_in_directory : ∃ final : Alone,
    Receives id (.run { sink := true, target := str "/" })
      { data := { files := rootWith none }, stream := twoFiles } final ∧
    final.data.result = some none ∧ Lossless (str "/") true (received twoFiles) final := by
  have hresult : (receiveTwo (str "/")).map (·.data.result) = some (some none) := by decide +kernel
  obtain ⟨final, hfinal, haccepted⟩ := Option.map_eq_some_iff.mp hresult
  have hrun := receives_of_receive id hfinal
  exact ⟨final, hrun, haccepted, (received_kept_iff id rfl hrun haccepted).mpr (Or.inl rfl)⟩

/-- If there is nothing at the target, the second file is written over the first. -/
theorem received_overwritten : ∃ final : Alone,
    Receives id (.run { sink := true, target := str "/f" })
      { data := { files := rootWith none }, stream := twoFiles } final ∧
    final.data.result = some none ∧ final.written = [str "/f", str "/f"] ∧
    final.data.files.entry (lexical (str "/f")) = some (.file 420 (str "y")) ∧
    ¬ Lossless (str "/f") false (received twoFiles) final := by
  have hend : (receiveTwo (str "/f")).map (fun final =>
      (final.data.result, final.written, final.data.files.entry (lexical (str "/f")))) =
      some (some none, [str "/f", str "/f"], some (.file 420 (str "y"))) := by decide +kernel
  obtain ⟨final, hfinal, heq⟩ := Option.map_eq_some_iff.mp hend
  obtain ⟨haccepted, hrest⟩ := Prod.mk.inj heq
  obtain ⟨hwritten, hentry⟩ := Prod.mk.inj hrest
  refine ⟨final, receives_of_receive id hfinal, haccepted, hwritten, hentry, fun hkept => ?_⟩
  refine hkept.apart 0 1 ⟨[], str "a", str "x"⟩ ⟨[], str "b", str "y"⟩ (str "/f") (str "/f") ?_ ?_
    (by decide) (by rw [hwritten]; rfl) (by rw [hwritten]; rfl) rfl
  · rw [received_twoFiles]
    rfl
  · rw [received_twoFiles]
    rfl

end KubeSsh.Scp

import KubeSsh.Scp.Endpoints

/-!
# A transfer carries a tree over

The source and the sink of `Scp.Endpoints` in step with each other: the source sends a record, the
sink handles it, and both are where they were, with nothing on its way. By induction over the tree,
a run of both sides comes to its end with the tree in the directory of the sink. The sides share
nothing but the queues, so every other run ends there as well.
-/

namespace KubeSsh.Scp

open KubeSsh.Path

section Steps

variable {quote : GoString → GoString} {fs : SourceFiles}

/-- Both sides before they return. -/
def session (quote : GoString → GoString) (fs : SourceFiles) (p q : Transfer (Option Task))
    (files : Files) (toSource toSink : GoString) : Session quote fs :=
  ⟨⟨p, none⟩, ⟨q, { files }⟩, toSource, toSink⟩

/-- A run of both sides. -/
abbrev Reaches (c d : Session quote fs) : Prop := Relation.ReflTransGen Peers.Step c d

variable {p q : Transfer (Option Task)} {files files' : Files} {toSource toSource' toSink toSink' out : GoString}
  {op : Op} {k : op.Answer → Transfer (Option Task)} {answer : op.Answer} {d : Session quote fs}

theorem source_writes (hp : p = .call op k) (h : ∀ closed,
      (sourceDevice quote fs).answer none op toSource closed = some (answer, none, toSource', out))
    (hd : Reaches (session quote fs (k answer) q files toSource' (toSink ++ out)) d) :
    Reaches (session quote fs p q files toSource toSink) d :=
  .head (Device.left_performs hp (h _)) hd

theorem source_performs (hp : p = .call op k)
    (h : ∀ closed, (sourceDevice quote fs).answer none op toSource closed = some (answer, none, toSource', []))
    (hd : Reaches (session quote fs (k answer) q files toSource' toSink) d) :
    Reaches (session quote fs p q files toSource toSink) d :=
  source_writes hp h (by rwa [List.append_nil])

theorem sink_writes (hq : q = .call op k) (h : ∀ closed, (sinkDevice quote).answer { files } op toSink closed =
      some (answer, { files := files' }, toSink', out))
    (hd : Reaches (session quote fs p (k answer) files' (toSource ++ out) toSink') d) :
    Reaches (session quote fs p q files toSource toSink) d :=
  .head (Device.right_performs hq (h _)) hd

theorem sink_performs (hq : q = .call op k) (h : ∀ closed, (sinkDevice quote).answer { files } op toSink closed =
      some (answer, { files := files' }, toSink', []))
    (hd : Reaches (session quote fs p (k answer) files' toSource toSink') d) :
    Reaches (session quote fs p q files toSource toSink) d :=
  sink_writes hq h (by rwa [List.append_nil])

theorem source_resumes {task : Task} (hd : Reaches (session quote fs (code task) q files toSource toSink) d) :
    Reaches (session quote fs (.pure (some task)) q files toSource toSink) d :=
  .head Device.left_resumes hd

theorem sink_resumes {task : Task} (hd : Reaches (session quote fs p (code task) files toSource toSink) d) :
    Reaches (session quote fs p (.pure (some task)) files toSource toSink) d :=
  .head Device.right_resumes hd

end Steps

/-! ## Lines that the sink reads -/

theorem takeLine_newline {line : GoString} (h : Byte.newline ∉ line) (rest : GoString)
    (closed : Bool) : takeLine (line ++ Byte.newline :: rest) closed = some (.line line, rest) := by
  rw [takeLine, Strings.cut_eq_some_iff.mpr ⟨rfl, h⟩]

/-- The sink reads a line. -/
theorem sink_reads {quote : GoString → GoString} {fs : SourceFiles} {p : Transfer (Option Task)} {s : Sink}
    {files : Files} {toSource line : GoString} (h : Byte.newline ∉ line) {d : Session quote fs}
    (hd : Reaches (session quote fs p (s.handleLine line) files toSource []) d) :
    Reaches (session quote fs p (code (.sink s)) files toSource (line ++ [Byte.newline])) d := by
  have hline (closed : Bool) : (sinkDevice quote).answer { files } .readString
      (line ++ [Byte.newline]) closed = some (.line line, { files }, [], []) := by
    show (takeLine (line ++ [Byte.newline]) closed).map _ = _
    rw [takeLine_newline h]
    rfl
  exact sink_performs rfl hline hd

theorem takeN_length (content rest : GoString) (closed : Bool) :
    takeN content.length (content ++ rest) closed = some ((content, none), rest) := by
  rw [takeN, if_pos (by simp), List.take_left, List.drop_left]

/-- The sink goes on after a file. -/
def Sink.afterFile (s : Sink) : Option Message → Transfer (Option Task)
  | some err => finish (some err)
  | none => return some (.sink { s with pendingTimes := none })

theorem handleLine_fileLine (s : Sink) (perm : Fin 512) {size : ℕ} (hsize : size < 2 ^ 63)
    {name : GoString} (hname : IsName name) : s.handleLine (fileLine perm size name) =
      receiveSCPFile (s.path name) perm size s.pendingTimes >>= s.afterFile := by
  have hline : s.handleLine (fileLine perm size name) = s.handleFile (fileLine perm size name) := rfl
  rw [hline, Sink.handleFile, parseSCPFile_fileLine perm hsize]
  dsimp only
  rw [cleanSCPName_of_isName hname]
  rfl

/-- The sink goes on after a directory was made. -/
def Sink.afterMkdir (s : Sink) (dir : GoString) : Option Message → Transfer (Option Task)
  | some err => refuse err
  | none => do
    s.pendingTimes.forM (chtimes dir)
    acknowledge (.sink { s with dirs := dir :: s.dirs, pendingTimes := none })

theorem handleLine_directoryLine (s : Sink) (perm : Fin 512) {name : GoString} (hname : IsName name) :
    s.handleLine (directoryLine perm name) = mkdirAll (s.path name) perm >>= s.afterMkdir (s.path name) := by
  have hline : s.handleLine (directoryLine perm name) = s.handleDirectory (directoryLine perm name) := rfl
  rw [hline, Sink.handleDirectory, parseSCPEntry_directoryLine perm]
  dsimp only
  rw [cleanSCPName_of_isName hname]
  rfl

/-! ## One record after the other -/

section Lockstep

variable {quote : GoString → GoString} {fs : SourceFiles} {path : GoString} {info : FileInfo}
  {s : Sink} {files files' : Files} {d : Session quote fs}

theorem ofNat_perm (perm : Fin 512) : Fin.ofNat 512 perm.val = perm := Fin.ext (Nat.mod_eq_of_lt perm.isLt)

/-- A file is sent, received and acknowledged. -/
theorem file_transferred (content : GoString) (hsize : info.size = content.length)
    (hlt : content.length < 2 ^ 63) (hopen : fs.openSource (lexical path) = none)
    (hread : fs.read (lexical path) = (content, none)) (hname : IsEntryName (pathBase path))
    (hs : s.pendingTimes = none)
    (hfiles : files.openFile (lexical (s.path (pathBase path))) info.perm = .ok files')
    {f : Option Message → Transfer (Option Task)}
    (hd : Reaches (session quote fs (f none) (code (.sink s))
      (files'.append (lexical (s.path (pathBase path))) content) [] []) d) :
    Reaches (session quote fs (sendSCPFile path info false >>= f) (code (.sink s)) files [] []) d := by
  -- the header
  refine source_writes rfl (fun _ => rfl) ?_
  refine sink_reads (newline_notMem_fileLine info.perm info.size hname.newline) ?_
  rw [handleLine_fileLine s info.perm (hsize ▸ hlt) hname.toIsName, hs]
  refine sink_writes rfl (fun _ => rfl) ?_
  have hopened (queue : GoString) (closed : Bool) : (sinkDevice quote).answer { files }
      (.openFile (s.path (pathBase path)) info.perm) queue closed = some (none, { files := files' }, queue, []) := by
    show some _ = _
    rw [ofNat_perm, hfiles]
    rfl
  refine sink_performs rfl (hopened _) ?_
  -- the content
  have hsource (queue : GoString) (closed : Bool) : (sourceDevice quote fs).answer none
      (.openSource path) queue closed = some (none, none, queue, []) := by
    show some _ = _
    rw [hopen]
    rfl
  have hcopied (queue : GoString) (closed : Bool) : (sourceDevice quote fs).answer none (.copy path)
      queue closed = some ((content, none), none, queue, content) := by
    show some _ = _
    rw [hread]
    rfl
  have hreceived (closed : Bool) : (sinkDevice quote).answer { files := files' }
      (.copyN (s.path (pathBase path)) info.size) (content ++ [0]) closed =
        some (none, { files := files'.append (lexical (s.path (pathBase path))) content }, [0], []) := by
    show (takeN info.size (content ++ [0]) closed).map _ = _
    rw [hsize, takeN_length]
    rfl
  refine source_performs rfl (fun _ => rfl) ?_
  refine source_performs rfl (hsource _) ?_
  refine source_writes rfl (hcopied _) ?_
  refine source_performs rfl (fun _ => rfl) ?_
  refine source_writes rfl (fun _ => rfl) ?_
  refine sink_performs rfl hreceived ?_
  refine sink_performs rfl (fun _ => rfl) ?_
  -- the status
  refine sink_performs rfl (fun _ => rfl) ?_
  refine sink_writes rfl (fun _ => rfl) ?_
  refine sink_resumes ?_
  refine source_performs rfl (fun _ => rfl) ?_
  have hsame : ({ s with pendingTimes := none } : Sink) = s := by
    rw [← hs]
  rwa [← hsame] at hd

/-- A directory is announced, made and acknowledged. -/
theorem directory_transferred {names : List GoString} (hnames : fs.readDir (lexical path) = .ok names)
    (hname : IsEntryName (pathBase path)) (hs : s.pendingTimes = none)
    (hfiles : files.mkdirAll (lexical (s.path (pathBase path))) info.perm = .ok files')
    {f : Except Message (List GoString) → Transfer (Option Task)}
    (hd : Reaches (session quote fs (f (.ok names))
      (code (.sink { s with dirs := s.path (pathBase path) :: s.dirs })) files' [] []) d) :
    Reaches (session quote fs (sendSCPDir path info false >>= f) (code (.sink s)) files [] []) d := by
  refine source_writes rfl (fun _ => rfl) ?_
  refine sink_reads (newline_notMem_directoryLine info.perm hname.newline) ?_
  rw [handleLine_directoryLine s info.perm hname.toIsName]
  have hmade (queue : GoString) (closed : Bool) : (sinkDevice quote).answer { files }
      (.mkdirAll (s.path (pathBase path)) info.perm) queue closed = some (none, { files := files' }, queue, []) := by
    show some _ = _
    rw [ofNat_perm, hfiles]
    rfl
  have hlisted (queue : GoString) (closed : Bool) : (sourceDevice quote fs).answer none
      (.readDir path) queue closed = some (.ok names, none, queue, []) := by
    show some _ = _
    rw [hnames]
  refine sink_performs rfl (hmade _) ?_
  change Reaches (session quote fs _ (s.afterMkdir (s.path (pathBase path)) none) files' [] []) d
  rw [Sink.afterMkdir, hs]
  refine sink_writes rfl (fun _ => rfl) ?_
  refine sink_resumes ?_
  refine source_performs rfl (fun _ => rfl) ?_
  refine source_performs rfl (hlisted _) ?_
  rwa [← hs]

/-- A directory is left. -/
theorem end_transferred {frames : List Frame} {dir parent : GoString} {rest : List GoString}
    (hs : s.dirs = dir :: parent :: rest)
    (hd : Reaches (session quote fs (code (.source false frames))
      (code (.sink { s with dirs := parent :: rest })) files [] []) d) :
    Reaches (session quote fs (code (.source false (⟨path, []⟩ :: frames))) (code (.sink s)) files [] []) d := by
  refine source_writes rfl (fun _ => rfl) ?_
  refine sink_reads (show Byte.newline ∉ str "E" by decide) ?_
  refine sink_writes rfl (fun _ => rfl) ?_
  refine sink_resumes ?_
  refine source_performs rfl (fun _ => rfl) ?_
  refine source_resumes ?_
  rw [hs]
  exact hd

end Lockstep

/-! ## Trees -/

section Placed

variable {l : Lexical} {name : GoString} {below : List GoString} {entries rest : Entries}
  {files files1 files' : Files}

theorem extend_cons (l : Lexical) (name : GoString) (below : List GoString) :
    l.extend (name :: below) = (l.child name).extend below := by
  simp [Lexical.extend, Lexical.child]

theorem extend_nil (l : Lexical) : l.extend [] = l := by simp [Lexical.extend]

theorem extend_injective (l : Lexical) : Function.Injective l.extend := by
  intro a b h
  simpa [Lexical.extend] using h

theorem ne_extend_cons (l : Lexical) (name : GoString) (below : List GoString) : l ≠ l.extend (name :: below) := by
  intro h
  have hnil := extend_injective l ((extend_nil l).trans h)
  cases hnil

theorem lookup_eq_none (h : name ∉ entries.names) : entries.lookup name below = none := by
  induction entries generalizing below with
  | nil => rfl
  | file name' perm content hsize rest ih =>
    rw [Entries.names, List.mem_cons, not_or] at h
    rw [Entries.lookup, if_neg (Ne.symm h.1), ih h.2]
  | directory name' perm children rest _ ih =>
    rw [Entries.names, List.mem_cons, not_or] at h
    exact (if_neg (Ne.symm h.1)).trans (ih h.2)

/-- The entries were put into the directory at `l`, and nothing else was changed. -/
structure Placed (l : Lexical) (entries : Entries) (files files' : Files) : Prop where
  inside : ∀ name ∈ entries.names, ∀ below, files'.entry (l.extend (name :: below)) = entries.lookup name below
  outside : ∀ l', (∀ name ∈ entries.names, ∀ below, l' ≠ l.extend (name :: below)) →
    files'.entry l' = files.entry l'

/-- First what has one name, then the rest. -/
theorem Placed.cons (sub : List GoString → Option Entry) (hnames : entries.names = name :: rest.names)
    (hlookup : ∀ name' below, entries.lookup name' below =
      if name = name' then sub below else rest.lookup name' below)
    (hsub : ∀ below, files1.entry (l.extend (name :: below)) = sub below)
    (hother : ∀ l', (∀ below, l' ≠ l.extend (name :: below)) → files1.entry l' = files.entry l')
    (hname : name ∉ rest.names) (hrest : Placed l rest files1 files') : Placed l entries files files' where
  inside name' hmem below := by
    rw [hlookup]
    by_cases heq : name = name'
    · subst heq
      rw [if_pos rfl, hrest.outside _ fun name' hmem' below' h => ?_, hsub]
      obtain ⟨rfl, -⟩ := List.cons.inj (extend_injective l h)
      exact hname hmem'
    · rw [if_neg heq]
      rw [hnames, List.mem_cons] at hmem
      exact hrest.inside name' (hmem.resolve_left (Ne.symm heq)) below
  outside l' h := by
    rw [hnames] at h
    rw [hrest.outside l' fun name' hmem => h name' (List.mem_cons_of_mem _ hmem),
      hother l' (h name List.mem_cons_self)]

/-- Something new leaves what is not there or below it. -/
theorem update_outside {entry : Entry}
    (hfiles : files1.entry = Function.update files.entry (l.child name) (some entry)) {l' : Lexical}
    (hl' : ∀ below, l' ≠ l.extend (name :: below)) : files1.entry l' = files.entry l' := by
  have hne : l' ≠ l.child name := by
    have hl' := hl' []
    rwa [extend_cons, extend_nil] at hl'
  rw [hfiles, Function.update_of_ne hne]

/-- A file that is new. -/
theorem placed_file {perm : Fin 512} {content : GoString} {hsize : content.length < 2 ^ 63}
    (hnew : files.entry (l.child name) = none)
    (hfiles : files1.entry = Function.update files.entry (l.child name) (some (.file perm content)))
    (hname : name ∉ rest.names) (hrest : Placed l rest files1 files') :
    Placed l (.file name perm content hsize rest) files files' := by
  refine Placed.cons (fun below => if below = [] then some (.file perm content) else none) rfl
    (fun _ _ => rfl) (fun below => ?_) (fun l' => update_outside hfiles) hname hrest
  rw [hfiles, extend_cons]
  cases below with
  | nil => rw [extend_nil, Function.update_self, if_pos rfl]
  | cons next below =>
    rw [Function.update_of_ne (Ne.symm (ne_extend_cons _ _ _)), if_neg (List.cons_ne_nil _ _)]
    exact Files.entry_extend_eq_none hnew _

/-- So does a directory that is new, with its entries. -/
theorem placed_outside {entry : Entry} {children : Entries}
    (hfiles : files1.entry = Function.update files.entry (l.child name) (some entry))
    (hchildren : Placed (l.child name) children files1 files') {l' : Lexical}
    (hl' : ∀ below, l' ≠ l.extend (name :: below)) : files'.entry l' = files.entry l' := by
  rw [hchildren.outside l' fun next _ below => extend_cons l name (next :: below) ▸ hl' (next :: below)]
  exact update_outside hfiles hl'

/-- A directory that is new, and its entries. -/
theorem placed_directory {perm : Fin 512} {children : Entries} {files2 : Files}
    (hnew : files.entry (l.child name) = none)
    (hfiles : files1.entry = Function.update files.entry (l.child name) (some (.directory perm)))
    (hchildren : Placed (l.child name) children files1 files2)
    (hname : name ∉ rest.names) (hrest : Placed l rest files2 files') :
    Placed l (.directory name perm children rest) files files' := by
  refine Placed.cons (fun below => below.rec (some (.directory perm)) fun next below _ =>
    children.lookup next below) rfl (fun _ below => by cases below <;> rfl) (fun below => ?_)
    (fun l' => placed_outside hfiles hchildren) hname hrest
  rw [extend_cons]
  cases below with
  | nil =>
    rw [extend_nil, hchildren.outside _ fun _ _ _ => ne_extend_cons _ _ _, hfiles, Function.update_self]
  | cons next below =>
    by_cases hmem : next ∈ children.names
    · exact hchildren.inside next hmem below
    · dsimp only
      rw [lookup_eq_none hmem, hchildren.outside _ fun next' hmem' below' h => ?_, hfiles,
        Function.update_of_ne (Ne.symm (ne_extend_cons _ _ _)), Files.entry_extend_eq_none hnew]
      obtain ⟨rfl, -⟩ := List.cons.inj (extend_injective _ h)
      exact hmem hmem'

end Placed

section Trees

variable {quote : GoString → GoString} {fs : SourceFiles}

/-- The loop goes on with the next entry. -/
theorem source_entry {path name : GoString} {entries : List GoString} {frames : List Frame} {info : FileInfo}
    (hinfo : fs.stat ((lexical path).child name) = .ok info) {q : Transfer (Option Task)} {files : Files}
    {d : Session quote fs} (hd : Reaches (session quote fs (match info.kind with
      | .directory => do
        match ← sendSCPDir (Path.join path name) info false with
        | .error err => finish (some err)
        | .ok children => return some (.source false (⟨Path.join path name, children⟩ :: ⟨path, entries⟩ :: frames))
      | .regular => do
        match ← sendSCPFile (Path.join path name) info false with
        | some err => finish (some err)
        | none => return some (.source false (⟨path, entries⟩ :: frames))
      | .other => return some (.source false (⟨path, entries⟩ :: frames))) q files [] []) d) :
    Reaches (session quote fs (code (.source false (⟨path, name :: entries⟩ :: frames))) q files [] []) d := by
  have hanswer (closed : Bool) : (sourceDevice quote fs).answer none (.entryInfo path name) []
      closed = some (.ok info, none, [], []) := by
    show some _ = _
    rw [hinfo]
  exact source_performs rfl hanswer hd

/-- Where the sink puts an entry that the source takes from a directory. -/
theorem lexical_path {s : Sink} {dir : GoString} {rest : List GoString} (htarget : s.targetIsDir = true)
    (hdirs : s.dirs = dir :: rest) (path : GoString) {name : GoString} (hname : IsName name) :
    lexical (s.path (pathBase (Path.join path name))) = (lexical dir).child name := by
  have hpath : s.path name = Path.join dir name := by simp [Sink.path, pathIn, htarget, hdirs]
  rw [pathBase_join path hname, hpath, lexical_join dir hname]

/-- What is put under one name leaves the directory, and what has another name. -/
theorem room_left {l : Lexical} {name : GoString} {rest : Entries} {files files1 : Files}
    (hkept : ∀ l', (∀ below, l' ≠ l.extend (name :: below)) → files1.entry l' = files.entry l')
    (hname : name ∉ rest.names) (hdir : files.isDirectory l = true)
    (hnew : ∀ name' ∈ rest.names, files.entry (l.child name') = none) :
    files1.isDirectory l = true ∧ ∀ name' ∈ rest.names, files1.entry (l.child name') = none := by
  constructor
  · rwa [Files.isDirectory, hkept l fun below => ne_extend_cons l name below]
  · intro name' hmem
    rw [hkept (l.child name') fun below heq => hname ?_]
    · exact hnew name' hmem
    · have hcons : l.extend [name'] = l.extend (name :: below) := by rwa [extend_cons, extend_nil]
      obtain ⟨rfl, -⟩ := List.cons.inj (extend_injective l hcons)
      exact hmem

/-- A directory that is new is empty. -/
theorem made_empty {l : Lexical} {name : GoString} {files files1 : Files} {perm : Fin 512}
    (hnew : files.entry (l.child name) = none)
    (hfiles : files1.entry = Function.update files.entry (l.child name) (some (.directory perm))) :
    files1.isDirectory (l.child name) = true ∧ ∀ next, files1.entry ((l.child name).child next) = none := by
  constructor
  · rw [Files.isDirectory, hfiles, Function.update_self]
  · intro next
    have hbelow := Files.entry_extend_eq_none hnew [next]
    have hne := ne_extend_cons (l.child name) next []
    rw [extend_cons, extend_nil] at hbelow hne
    rw [hfiles, Function.update_of_ne (Ne.symm hne), hbelow]

/-- The entries of a directory are carried over to the directory that the sink has opened last. -/
theorem entries_transferred {entries : Entries} (hvalid : entries.Valid) {path dir : GoString}
    {frames : List Frame} {s : Sink} {rest : List GoString} {files : Files}
    (hholds : fs.HoldsEntries (lexical path) entries) (htarget : s.targetIsDir = true)
    (htimes : s.pendingTimes = none) (hdirs : s.dirs = dir :: rest)
    (hdir : files.isDirectory (lexical dir) = true)
    (hnew : ∀ name ∈ entries.names, files.entry ((lexical dir).child name) = none) :
    ∃ files', Placed (lexical dir) entries files files' ∧
      Reaches (session quote fs (code (.source false (⟨path, entries.names⟩ :: frames))) (code (.sink s)) files [] [])
        (session quote fs (code (.source false (⟨path, []⟩ :: frames))) (code (.sink s)) files' [] []) := by
  induction entries generalizing path dir frames s rest files with
  | nil => exact ⟨files, ⟨nofun, fun _ _ => rfl⟩, .refl⟩
  | file name perm content hsize others ih =>
    obtain ⟨hname, hfresh, hothers⟩ := hvalid
    obtain ⟨hnode, hholds⟩ := hholds
    have hlexical := lexical_join path hname.toIsName
    have hdest := lexical_path htarget hdirs path hname.toIsName
    have hnew0 := hnew name List.mem_cons_self
    obtain ⟨files1, hopened, hfiles2⟩ := Files.openFile_append_new perm content hdir hnew0
    obtain ⟨hdir2, hnew2⟩ := room_left (fun l' => update_outside hfiles2) hfresh hdir
      fun name' hmem => hnew name' (List.mem_cons_of_mem _ hmem)
    obtain ⟨files', hplaced, hreach⟩ := ih hothers hholds htarget htimes hdirs hdir2 hnew2
    refine ⟨files', placed_file hnew0 hfiles2 hfresh hplaced, ?_⟩
    have hinfo : fs.stat ((lexical path).child name) =
        .ok ⟨.regular, perm, content.length, fs.mtime ((lexical path).child name)⟩ := by
      rw [SourceFiles.stat, hnode]
    refine source_entry hinfo ?_
    refine file_transferred content rfl hsize (by rw [hlexical, SourceFiles.openSource, hnode])
      (by rw [hlexical, SourceFiles.read, hnode]) (by rwa [pathBase_join path hname.toIsName]) htimes
      (by rw [hdest, hopened]) ?_
    rw [hdest]
    exact source_resumes hreach
  | directory name perm children others ihc iho =>
    obtain ⟨hname, hfresh, hchildren, hothers⟩ := hvalid
    obtain ⟨hnode, hholdsc, hholds⟩ := hholds
    have hlexical := lexical_join path hname.toIsName
    have hdest := lexical_path htarget hdirs path hname.toIsName
    have hnew0 := hnew name List.mem_cons_self
    obtain ⟨files1, hmade, hfiles1⟩ := Files.mkdirAll_new perm hdir hnew0
    -- the children go into the directory that was made, where nothing is yet
    obtain ⟨hdir1, hempty⟩ := made_empty hnew0 hfiles1
    rw [← hdest] at hdir1 hempty
    obtain ⟨files2, hplacedc, hreachc⟩ := ihc hchildren
      (s := { s with dirs := s.path (pathBase (Path.join path name)) :: s.dirs })
      (hlexical ▸ hholdsc) htarget htimes rfl hdir1 fun next _ => hempty next
    rw [hdest] at hplacedc
    obtain ⟨hdir2, hnew2⟩ := room_left (fun l' => placed_outside hfiles1 hplacedc) hfresh hdir
      fun name' hmem => hnew name' (List.mem_cons_of_mem _ hmem)
    obtain ⟨files', hplaced, hreach⟩ := iho hothers hholds htarget htimes hdirs hdir2 hnew2
    refine ⟨files', placed_directory hnew0 hfiles1 hplacedc hfresh hplaced, ?_⟩
    have hinfo : fs.stat ((lexical path).child name) =
        .ok ⟨.directory, perm, 0, fs.mtime ((lexical path).child name)⟩ := by
      rw [SourceFiles.stat, hnode]
    refine source_entry hinfo ?_
    refine directory_transferred (by rw [hlexical, SourceFiles.readDir, hnode])
      (by rwa [pathBase_join path hname.toIsName]) htimes (by rw [hdest, hmade]) ?_
    refine source_resumes (hreachc.trans ?_)
    refine end_transferred (congrArg _ hdirs) ?_
    rw [← hdirs]
    exact hreach

end Trees

/-! ## Whole transfers -/

/-- The source has a tree at its path, and the sink a directory. -/
structure Prepared (fs : SourceFiles) (node : Node) (source sink : Options) (files : Files) : Prop where
  sends : source.sink = false
  plain : source.preserve = false
  recursive : ∀ perm entries, node = .directory perm entries → source.recursive = true
  base : IsEntryName (pathBase source.target)
  holds : fs.Holds (lexical source.target) node
  valid : node.Valid
  receives : sink.sink = true
  directory : files.isDirectory (lexical sink.target) = true

/-- The tree is in the directory under the name, and nothing else has changed. -/
structure Received (node : Node) (l : Lexical) (name : GoString) (files files' : Files) : Prop where
  tree : ∀ below, files'.entry (l.extend (name :: below)) = node.lookup below
  others : ∀ l', (∀ below, l' ≠ l.extend (name :: below)) → files'.entry l' = files.entry l'

section Transfer

variable {quote : GoString → GoString} {fs : SourceFiles} {node : Node} {source sink : Options}
  {files files' : Files} {s : Sink}

/-- Both sides have returned without an error. -/
def completed (quote : GoString → GoString) (fs : SourceFiles) (files : Files) : Session quote fs :=
  ⟨⟨.pure none, some none⟩, ⟨.pure none, { files, result := some none }⟩, [], []⟩

theorem not_step_completed (c : Session quote fs) : ¬ Peers.Step (completed quote fs files) c := by
  intro h
  cases h with
  | left h => cases h
  | right h => cases h

/-- The source returns, and the sink finds the end. -/
theorem reaches_completed :
    Reaches (session quote fs (finish none) (code (.sink s)) files [] []) (completed quote fs files) := by
  refine .head (Device.left_performs rfl rfl) ?_
  refine .head (Device.right_performs rfl rfl) ?_
  exact .head (Device.right_performs rfl rfl) .refl

/-- The sink is ready before the source begins. -/
theorem sink_greets {target : GoString} (hdir : files.isDirectory (lexical target) = true)
    (hsink : sink.target = target) {g : Option Message → Transfer (Option Task)} {d : Session quote fs}
    (hd : Reaches (session quote fs (g none) (code (.sink { targetIsDir := true, dirs := [target] })) files [] []) d) :
    Reaches (session quote fs (readSCPResponse >>= g) (runSCPSink sink) files [] []) d := by
  subst hsink
  obtain ⟨perm, hperm⟩ := files.isDirectory_iff.mp hdir
  have hstat (queue : GoString) (closed : Bool) : (sinkDevice quote).answer { files } (.stat sink.target) queue
      closed = some (.ok ⟨.directory, perm, 0, 0⟩, { files }, queue, []) := by
    show some _ = _
    rw [Files.stat, hperm]
  refine sink_writes rfl (fun _ => rfl) ?_
  refine sink_performs rfl (hstat _) ?_
  refine sink_resumes ?_
  exact source_performs rfl (fun _ => rfl) hd

/-- Both sides are ready, and the source has looked at its target. -/
theorem reaches_target (hsends : source.sink = false) (hreceives : sink.sink = true)
    (hdir : files.isDirectory (lexical sink.target) = true) {info : FileInfo}
    (hinfo : fs.stat (lexical source.target) = .ok info) {d : Session quote fs}
    (hd : Reaches (session quote fs (sendTarget source info)
      (code (.sink { targetIsDir := true, dirs := [sink.target] })) files [] []) d) :
    Reaches (connected quote fs source sink files) d := by
  have hsource : code (.run source) = runSCPSource source := if_neg (by rw [hsends]; exact Bool.false_ne_true)
  have hsink : code (.run sink) = runSCPSink sink := if_pos hreceives
  show Reaches (session quote fs (code (.run source)) (code (.run sink)) files [] []) d
  rw [hsource, hsink]
  have hstat (closed : Bool) : (sourceDevice quote fs).answer none (.stat source.target) [] closed =
      some (.ok info, none, [], []) := by
    show some _ = _
    rw [hinfo]
  refine sink_greets hdir rfl ?_
  exact source_performs rfl hstat hd

/-- Where the sink puts the target of the source. -/
theorem lexical_base (target : GoString) {name : GoString} (hname : IsName name) :
    lexical (({ targetIsDir := true, dirs := [target] } : Sink).path name) = (lexical target).child name :=
  lexical_join target hname

/-- A transfer of a file, wherever the sink can open it. -/
theorem file_completed {perm : Fin 512} {content : GoString} {hsize : content.length < 2 ^ 63}
    (h : Prepared fs (.file perm content hsize) source sink files)
    (hopened : files.openFile ((lexical sink.target).child (pathBase source.target)) perm = .ok files') :
    Reaches (connected quote fs source sink files)
      (completed quote fs (files'.append ((lexical sink.target).child (pathBase source.target)) content)) := by
  have hnode := h.holds.1
  have hinfo : fs.stat (lexical source.target) =
      .ok ⟨.regular, perm, content.length, fs.mtime (lexical source.target)⟩ := by
    rw [SourceFiles.stat, hnode]
  have hdest := lexical_base sink.target h.base.toIsName
  refine reaches_target h.sends h.receives h.directory hinfo ?_
  rw [sendTarget, if_neg nofun, h.plain]
  refine file_transferred content rfl hsize (by rw [SourceFiles.openSource, hnode])
    (by rw [SourceFiles.read, hnode]) h.base rfl (by rw [hdest, hopened]) ?_
  rw [hdest]
  exact reaches_completed

theorem file_received {perm : Fin 512} {content : GoString} {hsize : content.length < 2 ^ 63}
    (h : Prepared fs (.file perm content hsize) source sink files)
    (hfree : files.entry ((lexical sink.target).child (pathBase source.target)) = none) :
    ∃ files', Received (.file perm content hsize) (lexical sink.target) (pathBase source.target) files files' ∧
      Reaches (connected quote fs source sink files) (completed quote fs files') := by
  obtain ⟨files1, hopened, hfiles2⟩ := Files.openFile_append_new perm content h.directory hfree
  have hplaced : Placed (lexical sink.target) (.file (pathBase source.target) perm content hsize .nil) files _ :=
    placed_file hfree hfiles2 nofun ⟨nofun, fun _ _ => rfl⟩
  refine ⟨_, ⟨fun below => ?_, fun l' hl' => ?_⟩, file_completed h hopened⟩
  · rw [hplaced.inside _ List.mem_cons_self below, Entries.lookup, if_pos rfl, Node.lookup]
  · exact hplaced.outside l' fun name hmem => List.mem_singleton.mp hmem ▸ hl'

theorem directory_received {perm : Fin 512} {entries : Entries}
    (h : Prepared fs (.directory perm entries) source sink files)
    (hfree : files.entry ((lexical sink.target).child (pathBase source.target)) = none) :
    ∃ files', Received (.directory perm entries) (lexical sink.target) (pathBase source.target) files files' ∧
      Reaches (connected quote fs source sink files) (completed quote fs files') := by
  have hnode := h.holds.1
  have hdest := lexical_base sink.target h.base.toIsName
  have hinfo : fs.stat (lexical source.target) =
      .ok ⟨.directory, perm, 0, fs.mtime (lexical source.target)⟩ := by
    rw [SourceFiles.stat, hnode]
  obtain ⟨files1, hmade, hfiles1⟩ := Files.mkdirAll_new perm h.directory hfree
  obtain ⟨hdir1, hempty⟩ := made_empty hfree hfiles1
  rw [← hdest] at hdir1 hempty
  obtain ⟨files', hchildren, hreach⟩ : ∃ files', Placed _ entries files1 files' ∧ Reaches
      (session quote fs (code (.source false [⟨source.target, entries.names⟩])) _ files1 [] [])
      (session quote fs (code (.source false [⟨source.target, []⟩])) _ files' [] []) :=
    entries_transferred (s := ⟨true, [_, sink.target], none⟩) h.valid h.holds.2 rfl rfl rfl hdir1
      fun next _ => hempty next
  rw [hdest] at hchildren
  have hplaced : Placed (lexical sink.target) (.directory (pathBase source.target) perm entries .nil) files files' :=
    placed_directory hfree hfiles1 hchildren nofun ⟨nofun, fun _ _ => rfl⟩
  refine ⟨files', ⟨fun below => ?_, fun l' hl' => ?_⟩,
    reaches_target h.sends h.receives h.directory hinfo ?_⟩
  · rw [hplaced.inside _ List.mem_cons_self below]
    cases below <;> exact if_pos rfl
  · exact hplaced.outside l' fun name hmem => List.mem_singleton.mp hmem ▸ hl'
  · rw [sendTarget, if_pos rfl, if_neg (by simp [h.recursive perm entries rfl]), h.plain]
    refine directory_transferred (by rw [SourceFiles.readDir, hnode]) h.base rfl (by rw [hdest, hmade]) ?_
    refine source_resumes (hreach.trans ?_)
    exact end_transferred rfl reaches_completed

/-- A transfer is faithful. If nothing has the base name of the source's path in the directory of
the sink, then however the two sides take turns, they come to an end; both return without an error,
and the directory has the tree of the source under that name. -/
theorem transfer_faithful (quote : GoString → GoString) (h : Prepared fs node source sink files)
    (hfree : files.entry ((lexical sink.target).child (pathBase source.target)) = none) :
    ∃ n, ∀ k c, Steps Peers.Step k (connected quote fs source sink files) c →
      k ≤ n ∧ ((∀ d, ¬ Peers.Step c d) → c.left.data = some none ∧ c.right.data.result = some none ∧
        Received node (lexical sink.target) (pathBase source.target) files c.right.data.files) := by
  obtain ⟨files', hreceived, hreach⟩ : ∃ files',
      Received node (lexical sink.target) (pathBase source.target) files files' ∧
        Reaches (connected quote fs source sink files) (completed quote fs files') := by
    cases node with
    | file perm content hsize => exact file_received h hfree
    | directory perm entries => exact directory_received h hfree
  obtain ⟨n, hn⟩ := Peers.complete hreach not_step_completed
  refine ⟨n, fun k c hc => ⟨(hn k c hc).1, fun hend => ?_⟩⟩
  rw [(hn k c hc).2 hend]
  exact ⟨rfl, rfl, hreceived⟩

end Transfer

/-! ### A file that is there already -/

theorem length_hello : (str "hello").length < 2 ^ 63 := by decide

/-- A source with one file, wherever it is asked for. -/
def oneFile : SourceFiles := ⟨fun _ => some (.file 420 (str "hello") length_hello), fun _ => 0⟩

/-- The root directory, and a file in it. -/
def rootWith (file : Option Entry) : Files where
  entry l := if l = ⟨true, []⟩ then some (.directory 493) else if l = ⟨true, [str "f"]⟩ then file else none
  parent l name h := by
    refine ⟨493, if_pos ?_⟩
    by_contra hl
    have hne : l.child name ≠ ⟨true, [str "f"]⟩ := by
      rintro heq
      obtain ⟨rooted, parts⟩ := l
      cases parts <;> simp_all [Lexical.child]
    simp [hne] at h
    simp [Lexical.child] at h

theorem prepared_rootWith (file : Option Entry) : Prepared oneFile (.file 420 (str "hello") length_hello)
    { source := true, target := str "f" } { sink := true, target := str "/" } (rootWith file) where
  sends := rfl
  plain := rfl
  recursive := nofun
  base := ⟨by decide, by decide⟩
  holds := ⟨rfl, trivial⟩
  valid := trivial
  receives := rfl
  directory := rfl

/-- The entries of a directory: a file, and a directory with a file. -/
def inner : Entries := .file (str "b") 384 (str "hello") length_hello .nil
def outer : Entries := .file (str "a") 420 (str "hello") length_hello (.directory (str "d") 448 inner .nil)

/-- A source with this directory at `site`. -/
def siteFiles : SourceFiles where
  node l :=
    if l.parts = [str "site"] then some (.directory 493 outer)
    else if l.parts = [str "site", str "d"] then some (.directory 448 inner)
    else if l.parts = [str "site", str "a"] then some (.file 420 (str "hello") length_hello)
    else if l.parts = [str "site", str "d", str "b"] then some (.file 384 (str "hello") length_hello)
    else none
  mtime _ := 0

theorem prepared_site : Prepared siteFiles (.directory 493 outer)
    { source := true, recursive := true, target := str "site" } { sink := true, target := str "/" }
    (rootWith none) where
  sends := rfl
  plain := rfl
  recursive _ _ _ := rfl
  base := ⟨by decide, by decide⟩
  holds := ⟨rfl, rfl, rfl, ⟨rfl, trivial⟩, trivial⟩
  valid := ⟨⟨by decide, by decide⟩, by decide, ⟨by decide, by decide⟩, by decide,
    ⟨⟨by decide, by decide⟩, by decide, trivial⟩, trivial⟩
  receives := rfl
  directory := rfl

/-- A directory with a directory in it arrives in an empty one. -/
theorem transfer_faithful_nested : ∃ n, ∀ k c, Steps Peers.Step k (connected id siteFiles
      { source := true, recursive := true, target := str "site" } { sink := true, target := str "/" }
      (rootWith none)) c →
    k ≤ n ∧ ((∀ d, ¬ Peers.Step c d) → c.left.data = some none ∧ c.right.data.result = some none ∧
      Received (.directory 493 outer) (lexical (str "/")) (str "site") (rootWith none) c.right.data.files) :=
  transfer_faithful id prepared_site (by decide)

/-- A file that the directory has under the name keeps its permission bits. -/
theorem transfer_keeps_permissions :
    Prepared oneFile (.file 420 (str "hello") length_hello) { source := true, target := str "f" }
      { sink := true, target := str "/" } (rootWith (some (.file 384 []))) ∧
    ∃ c, Relation.ReflTransGen Peers.Step (connected id oneFile { source := true, target := str "f" }
        { sink := true, target := str "/" } (rootWith (some (.file 384 [])))) c ∧ (∀ d, ¬ Peers.Step c d) ∧
      ¬ Received (.file 420 (str "hello") length_hello) (lexical (str "/")) (str "f")
        (rootWith (some (.file 384 []))) c.right.data.files := by
  have hold : (rootWith (some (.file 384 []))).entry ((lexical (str "/")).child (str "f")) =
      some (.file 384 []) := by decide
  obtain ⟨files', hopened, hfiles⟩ := Files.openFile_file 420 hold
  refine ⟨prepared_rootWith _, _, file_completed (prepared_rootWith _) hopened, not_step_completed, ?_⟩
  intro hreceived
  have htruncated : files'.entry ((lexical (str "/")).child (str "f")) = some (.file 384 []) := by
    rw [hfiles, Function.update_self]
  have hperm := hreceived.tree []
  rw [extend_cons, extend_nil] at hperm
  change (files'.append ((lexical (str "/")).child (str "f")) (str "hello")).entry _ = _ at hperm
  rw [Files.append_file htruncated, Function.update_self] at hperm
  exact absurd hperm (by decide)

end KubeSsh.Scp

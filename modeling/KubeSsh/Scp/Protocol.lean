import KubeSsh.Common.Path
import KubeSsh.Common.Strconv
import KubeSsh.Common.Threads

/-!
# `pkg/podssh/backend/helper/scp.go`: the SCP protocol

The two sides of a legacy SCP transfer as programs over `Op`, which reads and writes the connection
and calls the file system. The sink is a loop over the records it reads; its state is the stack of
the directories that are open. The source walks a tree of directories: the frames of its recursion,
with the entries that are left to send in each, are the state of its loop.

What the operations answer is left open here: the connection may end and any file-system call may
fail at any time, and two calls for one file may see different files.
-/

namespace KubeSsh.Scp

/-! ## Records -/

/-- What one side writes at once: a status, or a header. -/
inductive Record
  | ok
  | failure (err : Message)
  | file (perm size : ℕ) (name : GoString)
  | directory (perm : ℕ) (name : GoString)
  | endDirectory
  | times (mtime : ℤ)
deriving DecidableEq

/-- There are permission bits, so that a mode is cut to them with `Fin.ofNat`. -/
instance neZero_perm : NeZero 512 := ⟨by decide⟩

/-- `%04o`. -/
def octal4 (n : ℕ) : GoString :=
  let digits := (Nat.toDigits 8 n).map fun c => UInt8.ofNat c.toNat
  List.replicate (4 - digits.length) 48 ++ digits

/-- The bytes of a record. -/
def Record.bytes (quote : GoString → GoString) : Record → GoString
  | .ok => [0]
  | .failure err => 1 :: Message.render quote err ++ [Byte.newline]
  | .file perm size name =>
    str "C" ++ octal4 perm ++ str " " ++ decimal size ++ str " " ++ name ++ [Byte.newline]
  | .directory perm name => str "D" ++ octal4 perm ++ str " 0 " ++ name ++ [Byte.newline]
  | .endDirectory => str "E" ++ [Byte.newline]
  | .times mtime => str "T" ++ formatInt mtime ++ str " 0 " ++ formatInt mtime ++ str " 0" ++ [Byte.newline]

/-- `strings.SplitN(line, " ", 3)`. -/
def splitN3 (line : GoString) : List GoString :=
  match Strings.cut 32 line with
  | none => [line]
  | some (first, rest) =>
    match Strings.cut 32 rest with
    | none => [first, rest]
    | some (second, third) => [first, second, third]

/-- `parseSCPFile` (`scp.go:353-371`): mode, size and name. -/
def parseSCPFile (line : GoString) : Except Message (ℕ × ℕ × GoString) :=
  match splitN3 line with
  | [head, sizeText, name] =>
    if head.length < 5 then invalid
    else match Strconv.parseUint 8 32 head.tail with
      | .error err => .error (err.text "ParseUint" head.tail)
      | .ok mode =>
        match Strconv.parseInt 10 64 sizeText with
        | .error err => .error (err.text "ParseInt" sizeText)
        | .ok size =>
          if size < 0 then .error (.text "invalid scp file size " ++ .ofString (formatInt size))
          else .ok (mode, size.toNat, name)
  | _ => invalid
where
  invalid : Except Message (ℕ × ℕ × GoString) :=
    .error [.bytes (str "invalid scp file header "), .quoted line]

/-- `parseSCPEntry` (`scp.go:373-383`): mode and name. -/
def parseSCPEntry (line : GoString) : Except Message (ℕ × GoString) :=
  match splitN3 line with
  | [head, _, name] =>
    if head.length < 5 then invalid
    else match Strconv.parseUint 8 32 head.tail with
      | .error err => .error (err.text "ParseUint" head.tail)
      | .ok mode => .ok (mode, name)
  | _ => invalid
where
  invalid : Except Message (ℕ × GoString) :=
    .error [.bytes (str "invalid scp directory header "), .quoted line]

/-- The bytes up to the next white space, and the rest. -/
def takeField : GoString → GoString × GoString
  | [] => ([], [])
  | c :: s =>
    if Strings.spaces.any (·.isPrefixOf (c :: s)) then ([], c :: s)
    else
      let (field, rest) := takeField s
      (c :: field, rest)

def fieldsUpTo : ℕ → GoString → List GoString
  | 0, _ => []
  | fuel + 1, s =>
    let s := Strings.dropLeading Strings.spaces s.length s
    if s = [] then []
    else
      let (field, rest) := takeField s
      field :: fieldsUpTo fuel rest

/-- `strings.Fields`. -/
def fields (s : GoString) : List GoString := fieldsUpTo (s.length + 1) s

example : fields (str " T12  0 13\t0 ") = [str "T12", str "0", str "13", str "0"] := by decide

/-- `scpTimes` (`scp.go:385-388`), in seconds. -/
structure Times where
  mtime : ℤ
  atime : ℤ
deriving DecidableEq

/-- `parseSCPTimes` (`scp.go:390-407`). -/
def parseSCPTimes (line : GoString) : Except Message Times :=
  match fields line with
  | [first, _, third, _, _] =>
    match Strconv.parseInt 10 64 first.tail with
    | .error err => .error (err.text "ParseInt" first.tail)
    | .ok mtime =>
      match Strconv.parseInt 10 64 third with
      | .error err => .error (err.text "ParseInt" third)
      | .ok atime => .ok { mtime, atime }
  | _ => .error [.bytes (str "invalid scp time header "), .quoted line]

/-- `cleanSCPName` (`scp.go:409-414`). -/
def cleanSCPName (name : GoString) : Except Message GoString :=
  if name = [] ∨ name = Path.dot ∨ name = Path.dotdot ∨ Byte.slash ∈ name then
    .error [.bytes (str "invalid scp filename "), .quoted name]
  else .ok name

/-! ### Headers that are read back -/

/-- Two spaces split a line into three fields. -/
theorem splitN3_eq {first second : GoString} (hfirst : 32 ∉ first) (hsecond : 32 ∉ second) (third : GoString) :
    splitN3 (first ++ 32 :: (second ++ 32 :: third)) = [first, second, third] := by
  unfold splitN3
  rw [Strings.cut_eq_some_iff.mpr ⟨rfl, hfirst⟩]
  dsimp only
  rw [Strings.cut_eq_some_iff.mpr ⟨rfl, hsecond⟩]

/-- Permission bits are written in digits. -/
theorem octal4_range {n : ℕ} {b : UInt8} (h : b ∈ octal4 n) : 48 ≤ b.toNat ∧ b.toNat ≤ 57 := by
  rcases List.mem_append.mp h with h | h
  · obtain rfl := List.eq_of_mem_replicate h
    decide
  · exact Strconv.digits_range (by decide) (by decide) h

/-- Four digits hold all permission bits. -/
theorem length_octal4 (perm : Fin 512) : (octal4 perm).length = 4 := by
  have hlen : (Nat.toDigits 8 perm).length ≤ 4 :=
    (Nat.length_toDigits_le_iff (by decide) (by decide)).mpr (by omega)
  simp only [octal4, List.length_append, List.length_replicate, List.length_map]
  omega

/-- The digits are read back. -/
theorem parseUint_octal4 (perm : Fin 512) : Strconv.parseUint 8 32 (octal4 perm) = .ok perm.val :=
  Strconv.parseUint_digits (by decide) (by decide) (by omega) _

/-- The header of a file, without its newline. -/
def fileLine (perm size : ℕ) (name : GoString) : GoString :=
  str "C" ++ octal4 perm ++ str " " ++ decimal size ++ str " " ++ name

/-- The header of a directory, without its newline. -/
def directoryLine (perm : ℕ) (name : GoString) : GoString := str "D" ++ octal4 perm ++ str " 0 " ++ name

/-- What is no digit is in no number. -/
theorem notMem_of_range {c : UInt8} (hc : c.toNat < 48) {s : GoString}
    (h : ∀ b ∈ s, 48 ≤ b.toNat ∧ b.toNat ≤ 57) : c ∉ s := fun hmem => by
  have := h c hmem
  omega

/-- A header has no newline of its own. -/
theorem newline_notMem_fileLine (perm size : ℕ) {name : GoString} (hname : Byte.newline ∉ name) :
    Byte.newline ∉ fileLine perm size name := by
  have hoctal : Byte.newline ∉ octal4 perm := notMem_of_range (by decide) fun _ => octal4_range
  have hdecimal : Byte.newline ∉ decimal size := notMem_of_range (by decide) fun _ => decimal_digits
  have hC : Byte.newline ∉ str "C" := by decide
  have hspace : Byte.newline ∉ str " " := by decide
  simp only [fileLine, List.mem_append, not_or]
  exact ⟨⟨⟨⟨⟨hC, hoctal⟩, hspace⟩, hdecimal⟩, hspace⟩, hname⟩

theorem newline_notMem_directoryLine (perm : ℕ) {name : GoString} (hname : Byte.newline ∉ name) :
    Byte.newline ∉ directoryLine perm name := by
  have hoctal : Byte.newline ∉ octal4 perm := notMem_of_range (by decide) fun _ => octal4_range
  have hD : Byte.newline ∉ str "D" := by decide
  have hzero : Byte.newline ∉ str " 0 " := by decide
  simp only [directoryLine, List.mem_append, not_or]
  exact ⟨⟨⟨hD, hoctal⟩, hzero⟩, hname⟩

/-- The fields of the header of a file: its mode, its size and its name. -/
theorem splitN3_fileLine (perm size : ℕ) (name : GoString) :
    splitN3 (fileLine perm size name) = [67 :: octal4 perm, decimal size, name] := by
  have hoctal : 32 ∉ 67 :: octal4 perm := by
    rw [List.mem_cons, not_or]
    exact ⟨by decide, notMem_of_range (by decide) fun _ => octal4_range⟩
  have hsplit := splitN3_eq hoctal (notMem_of_range (by decide) fun _ => decimal_digits (n := size)) name
  rw [← hsplit]
  simp [fileLine, str]

/-- The fields of the header of a directory. -/
theorem splitN3_directoryLine (perm : ℕ) (name : GoString) :
    splitN3 (directoryLine perm name) = [68 :: octal4 perm, str "0", name] := by
  have hoctal : 32 ∉ 68 :: octal4 perm := by
    rw [List.mem_cons, not_or]
    exact ⟨by decide, notMem_of_range (by decide) fun _ => octal4_range⟩
  have hsplit := splitN3_eq hoctal (show 32 ∉ str "0" by decide) name
  rw [← hsplit]
  simp [directoryLine, str]

/-- The sink reads from the header of a file what the source wrote there. -/
theorem parseSCPFile_fileLine (perm : Fin 512) {size : ℕ} (hsize : size < 2 ^ 63)
    (name : GoString) : parseSCPFile (fileLine perm size name) = .ok (perm.val, size, name) := by
  unfold parseSCPFile
  rw [splitN3_fileLine]
  dsimp only
  rw [if_neg (by rw [List.length_cons, length_octal4]; decide), List.tail_cons, parseUint_octal4]
  dsimp only
  rw [Strconv.parseInt_decimal hsize]
  dsimp only
  rw [if_neg (by omega), Int.toNat_natCast]

/-- So it does from the header of a directory. -/
theorem parseSCPEntry_directoryLine (perm : Fin 512) (name : GoString) :
    parseSCPEntry (directoryLine perm name) = .ok (perm.val, name) := by
  unfold parseSCPEntry
  rw [splitN3_directoryLine]
  dsimp only
  rw [if_neg (by rw [List.length_cons, length_octal4]; decide), List.tail_cons, parseUint_octal4]

/-- The name of an entry is accepted as it is. -/
theorem cleanSCPName_of_isName {name : GoString} (h : Path.IsName name) : cleanSCPName name = .ok name :=
  if_neg fun hbad => by
    rcases hbad with hbad | hbad | hbad | hbad
    · exact h.ne_nil hbad
    · exact h.ne_dot hbad
    · exact h.ne_dotdot hbad
    · exact h.slash hbad

/-! ## Operations -/

/-- What kind of file an `os.FileInfo` is about. -/
inductive FileKind
  | directory
  | regular
  | other
deriving DecidableEq

/-- `os.FileInfo`, with the permission bits of its mode. -/
structure FileInfo where
  kind : FileKind
  perm : Fin 512
  size : ℕ
  mtime : ℤ

/-- How reading the connection fails. -/
inductive ReadError
  | eof
  | failed (err : Message)
deriving DecidableEq

def ReadError.text : ReadError → Message
  | .eof => .text "EOF"
  | .failed err => err

/-- What `ReadString` of a newline returns: a line without the newline, or what there was and an
error. -/
inductive LineRead
  | line (text : GoString)
  | ended (text : GoString) (err : ReadError)

/-- An open file is named by its path: each side has at most one. -/
inductive Op
  -- the connection
  | write (record : Record)
  | readByte
  | readString
  /-- `io.Copy(out, file)`. -/
  | copy (path : GoString)
  /-- `io.CopyN(file, reader, size)`. -/
  | copyN (path : GoString) (size : ℕ)
  -- the file system
  | stat (path : GoString)
  | readDir (path : GoString)
  /-- `entry.Info()` for an entry of a directory. -/
  | entryInfo (path name : GoString)
  | openSource (path : GoString)
  | mkdirAll (path : GoString) (mode : ℕ)
  /-- `os.OpenFile` that creates or truncates. -/
  | openFile (path : GoString) (mode : ℕ)
  | closeFile (path : GoString)
  | chtimes (path : GoString) (times : Times)
  | returned (err : Option Message)

/-- What the operations answer. `io.Copy` answers with the bytes that were written, too. -/
def Op.Answer : Op → Type
  | .write _ => Option Message
  | .readByte => Except ReadError UInt8
  | .readString => LineRead
  | .copy _ => GoString × Option Message
  | .copyN _ _ => Option Message
  | .stat _ => Except Message FileInfo
  | .readDir _ => Except Message (List GoString)
  | .entryInfo _ _ => Except Message FileInfo
  | .openSource _ => Option Message
  | .mkdirAll _ _ => Option Message
  | .openFile _ _ => Option Message
  | .closeFile _ => Option Message
  | .chtimes _ _ => Unit
  | .returned _ => Unit

abbrev interface : Interface := ⟨Op, Op.Answer⟩

abbrev Transfer (α : Type) := Prog interface α

def perform (op : Op) : Transfer op.Answer := Prog.perform (I := interface) op

def write (record : Record) : Transfer (Option Message) := perform (.write record)
def readByte : Transfer (Except ReadError UInt8) := perform .readByte
def readString : Transfer LineRead := perform .readString
def copy (path : GoString) : Transfer (GoString × Option Message) := perform (.copy path)
def copyN (path : GoString) (size : ℕ) : Transfer (Option Message) := perform (.copyN path size)
def stat (path : GoString) : Transfer (Except Message FileInfo) := perform (.stat path)
def readDir (path : GoString) : Transfer (Except Message (List GoString)) := perform (.readDir path)
def entryInfo (path name : GoString) : Transfer (Except Message FileInfo) := perform (.entryInfo path name)
def openSource (path : GoString) : Transfer (Option Message) := perform (.openSource path)
def mkdirAll (path : GoString) (mode : ℕ) : Transfer (Option Message) := perform (.mkdirAll path mode)
def openFile (path : GoString) (mode : ℕ) : Transfer (Option Message) := perform (.openFile path mode)
def closeFile (path : GoString) : Transfer (Option Message) := perform (.closeFile path)
def chtimes (path : GoString) (times : Times) : Transfer Unit := perform (.chtimes path times)

/-! ## Tasks -/

/-- `scpOptions` (`scp.go:15-21`). -/
structure Options where
  source : Bool := false
  sink : Bool := false
  recursive : Bool := false
  preserve : Bool := false
  target : GoString := []
deriving DecidableEq

/-- How many bytes the UTF-8 encoding of a rune takes that starts with these; none if there is no
such encoding. -/
def runeLength : GoString → Option ℕ
  | [] => none
  | b :: s =>
    if b < 0x80 then some 1
    else if 0xC2 ≤ b ∧ b ≤ 0xDF then continued 1 0x80 0xBF s
    else if b = 0xE0 then continued 2 0xA0 0xBF s
    else if b = 0xED then continued 2 0x80 0x9F s
    else if 0xE1 ≤ b ∧ b ≤ 0xEF then continued 2 0x80 0xBF s
    else if b = 0xF0 then continued 3 0x90 0xBF s
    else if 0xF1 ≤ b ∧ b ≤ 0xF3 then continued 3 0x80 0xBF s
    else if b = 0xF4 then continued 3 0x80 0x8F s
    else none
where
  -- the first continuation byte has bounds of its own
  continued (n : ℕ) (low high : UInt8) (s : GoString) : Option ℕ :=
    match s.take n with
    | [] => none
    | c :: rest =>
      if low ≤ c ∧ c ≤ high ∧ rest.length + 1 = n ∧ rest.all (fun d => 0x80 ≤ d ∧ d ≤ 0xBF) then some (n + 1)
      else none

/-- `%c` of the first rune. -/
def firstRune (s : GoString) : GoString :=
  match runeLength s with
  | some n => s.take n
  | none => [0xEF, 0xBF, 0xBD]

/-- The flags of one argument (`scp.go:68-82`). -/
def parseFlags (opts : Options) : GoString → Except Message Options
  | [] => .ok opts
  | c :: flags =>
    if c = 116 then parseFlags { opts with sink := true } flags
    else if c = 102 then parseFlags { opts with source := true } flags
    else if c = 114 then parseFlags { opts with recursive := true } flags
    else if c = 112 then parseFlags { opts with preserve := true } flags
    else if c = 100 ∨ c = 118 then parseFlags opts flags
    else .error (.text "unsupported scp flag -" ++ .ofString (firstRune (c :: flags)))

/-- The loop of `parseSCPOptions` (`scp.go:66-86`). -/
def parseArgs : Options → List GoString → Except Message Options
  | opts, [] => .ok opts
  | opts, arg :: args =>
    match arg with
    | 45 :: c :: flags =>
      match parseFlags opts (c :: flags) with
      | .error err => .error err
      | .ok opts => parseArgs opts args
    | _ => parseArgs { opts with target := arg } args

/-- `parseSCPOptions` (`scp.go:64-94`). -/
def parseSCPOptions (args : List GoString) : Except Message Options :=
  match parseArgs {} args with
  | .error err => .error err
  | .ok opts =>
    if opts.target = [] then .error (.text "scp target is required")
    else if opts.sink = opts.source then .error (.text "scp requires exactly one of -t or -f")
    else .ok opts

example : parseSCPOptions [str "-trp", str "/tmp"] =
    .ok { sink := true, recursive := true, preserve := true, target := str "/tmp" } := by decide

/-- The loop of `runSCPSink` (`scp.go:102-105`). The directory opened last comes first. -/
structure Sink where
  targetIsDir : Bool
  dirs : List GoString
  pendingTimes : Option Times := none

/-- A frame of `sendSCPDir`: a directory, and the entries that are left. -/
structure Frame where
  path : GoString
  entries : List GoString

inductive Task
  | runSCP (args : List GoString)
  | run (options : Options)
  | sink (state : Sink)
  | source (preserve : Bool) (frames : List Frame)

/-- The end of one side, with the error it returns. -/
def finish (err : Option Message) : Transfer (Option Task) := do
  perform (.returned err)
  return none

/-- `writeSCPAck` (`scp.go:328-335`). -/
def writeSCPAck (err : Option Message) : Transfer (Option Message) :=
  write (match err with
    | some err => .failure err
    | none => .ok)

/-- `_ = writeSCPAck(out, err); return err`. -/
def refuse (err : Message) : Transfer (Option Task) := do
  let _ ← writeSCPAck (some err)
  finish (some err)

/-- `if err := writeSCPAck(out, nil); err != nil { return err }` at the end of an iteration. -/
def acknowledge (next : Task) : Transfer (Option Task) := do
  match ← writeSCPAck none with
  | some err => finish (some err)
  | none => return some next

/-- `readSCPResponse` (`scp.go:337-351`). -/
def readSCPResponse : Transfer (Option Message) := do
  match ← readByte with
  | .error err => return some err.text
  | .ok status =>
    if status = 0 then return none
    else if status = 1 ∨ status = 2 then
      match ← readString with
      | .line text | .ended text _ =>
        return some (.text "scp remote error: " ++ .ofString (Strings.trimSpace text))
    else return some (.text "unexpected scp response " ++ .ofString (decimal status.toNat))

/-! ## The sink -/

/-- The path of a record (`scp.go:140-144`, `176-179`): in the directory opened last, unless that is
a target which is to be created. -/
def pathIn (targetIsDir : Bool) (dirs : List GoString) (name : GoString) : GoString :=
  let parent := dirs.headD []
  if targetIsDir ∨ dirs.length > 1 then Path.join parent name else parent

def Sink.path (s : Sink) (name : GoString) : GoString := pathIn s.targetIsDir s.dirs name

/-- `receiveSCPFile` (`scp.go:212-242`). -/
def receiveSCPFile (dest : GoString) (mode size : ℕ) (times : Option Times) : Transfer (Option Message) := do
  match ← writeSCPAck none with
  | some err => return some err
  | none =>
  match ← openFile dest mode with
  | some err =>
    let _ ← writeSCPAck (some err)
    return some err
  | none =>
  let copyErr ← copyN dest size
  let closeErr ← closeFile dest
  match copyErr, closeErr with
  | some err, _ | none, some err =>
    let _ ← writeSCPAck (some err)
    return some err
  | none, none =>
  match ← readByte with
  | .error err => return some err.text
  | .ok status =>
    if status ≠ 0 then
      return some (.text "invalid scp file terminator " ++ .ofString (decimal status.toNat))
    else
      times.forM (chtimes dest)
      writeSCPAck none

/-- A `T` record (`scp.go:119-128`). -/
def Sink.handleTimes (s : Sink) (line : GoString) : Transfer (Option Task) :=
  match parseSCPTimes line with
  | .error err => refuse err
  | .ok times => acknowledge (.sink { s with pendingTimes := some times })

/-- A `D` record (`scp.go:129-156`). -/
def Sink.handleDirectory (s : Sink) (line : GoString) : Transfer (Option Task) :=
  match parseSCPEntry line with
  | .error err => refuse err
  | .ok (mode, name) =>
    match cleanSCPName name with
    | .error err => refuse err
    | .ok name => do
      let dir := s.path name
      match ← mkdirAll dir mode with
      | some err => refuse err
      | none =>
        s.pendingTimes.forM (chtimes dir)
        acknowledge (.sink { s with dirs := dir :: s.dirs, pendingTimes := none })

/-- An `E` record (`scp.go:157-163`). -/
def Sink.handleEnd (s : Sink) : Transfer (Option Task) :=
  acknowledge (.sink { s with dirs := if s.dirs.length > 1 then s.dirs.tail else s.dirs })

/-- A `C` record (`scp.go:164-182`). -/
def Sink.handleFile (s : Sink) (line : GoString) : Transfer (Option Task) :=
  match parseSCPFile line with
  | .error err => refuse err
  | .ok (mode, size, name) =>
    match cleanSCPName name with
    | .error err => refuse err
    | .ok name => do
      match ← receiveSCPFile (s.path name) mode size s.pendingTimes with
      | some err => finish (some err)
      | none => return some (.sink { s with pendingTimes := none })

/-- A line (`scp.go:114-187`). -/
def Sink.handleLine (s : Sink) (line : GoString) : Transfer (Option Task) :=
  match line with
  | [] => return some (.sink s)
  | c :: _ =>
    if c = 84 then s.handleTimes line
    else if c = 68 then s.handleDirectory line
    else if c = 69 then s.handleEnd
    else if c = 67 then s.handleFile line
    else refuse [.bytes (str "unsupported scp command "), .quoted line]

/-- One iteration of the sink (`scp.go:106-188`). -/
def Sink.next (s : Sink) : Transfer (Option Task) := do
  match ← readString with
  | .ended _ .eof => finish none
  | .ended _ (.failed err) => finish (some err)
  | .line line => s.handleLine line

/-- `isDir` (`scp.go:416-422`). -/
def isDir (path : GoString) : Transfer Bool := do
  match ← stat path with
  | .error _ => return false
  | .ok info => return info.kind = .directory

/-- The start of `runSCPSink` (`scp.go:96-105`). -/
def runSCPSink (options : Options) : Transfer (Option Task) := do
  match ← writeSCPAck none with
  | some err => finish (some err)
  | none =>
    let targetIsDir ← isDir options.target
    return some (.sink { targetIsDir, dirs := [options.target] })

/-! ## The source -/

/-- `sendSCPTimes` (`scp.go:319-326`). -/
def sendSCPTimes (info : FileInfo) : Transfer (Option Message) := do
  match ← write (.times info.mtime) with
  | some err => return some err
  | none => readSCPResponse

/-- The times, if they are preserved (`scp.go:245-249`, `276-280`). -/
def sendTimesIf (preserve : Bool) (info : FileInfo) : Transfer (Option Message) :=
  if preserve then sendSCPTimes info else return none

/-- The content of a file after its header was accepted (`scp.go:257-272`). -/
def sendContent (path : GoString) : Transfer (Option Message) := do
  match ← openSource path with
  | some err =>
    let _ ← writeSCPAck (some err)
    return some err
  | none =>
  match ← copy path with
  | (_, some err) =>
    let _ ← closeFile path
    return some err
  | (_, none) =>
  match ← closeFile path with
  | some err => return some err
  | none =>
  match ← write .ok with
  | some err => return some err
  | none => readSCPResponse

/-- `sendSCPFile` (`scp.go:244-273`). -/
def sendSCPFile (path : GoString) (info : FileInfo) (preserve : Bool) : Transfer (Option Message) := do
  match ← sendTimesIf preserve info with
  | some err => return some err
  | none =>
  match ← write (.file info.perm info.size (pathBase path)) with
  | some err => return some err
  | none =>
  match ← readSCPResponse with
  | some err => return some err
  | none => sendContent path

/-- The start of `sendSCPDir` (`scp.go:275-293`): the entries to send. -/
def sendSCPDir (path : GoString) (info : FileInfo) (preserve : Bool) :
    Transfer (Except Message (List GoString)) := do
  match ← sendTimesIf preserve info with
  | some err => return .error err
  | none =>
  match ← write (.directory info.perm (pathBase path)) with
  | some err => return .error err
  | none =>
  match ← readSCPResponse with
  | some err => return .error err
  | none =>
  match ← readDir path with
  | .error err =>
    let _ ← writeSCPAck (some err)
    return .error err
  | .ok entries => return .ok entries

/-- One iteration of the loops of `sendSCPDir` (`scp.go:294-316`). -/
def sourceNext (preserve : Bool) : List Frame → Transfer (Option Task)
  | [] => finish none
  | ⟨_, []⟩ :: frames => do
    match ← write .endDirectory with
    | some err => finish (some err)
    | none =>
    match ← readSCPResponse with
    | some err => finish (some err)
    | none => return some (.source preserve frames)
  | ⟨path, name :: entries⟩ :: frames => do
    let child := Path.join path name
    let frames := ⟨path, entries⟩ :: frames
    match ← entryInfo path name with
    | .error err => refuse err
    | .ok info =>
      match info.kind with
      | .directory =>
        match ← sendSCPDir child info preserve with
        | .error err => finish (some err)
        | .ok children => return some (.source preserve (⟨child, children⟩ :: frames))
      | .regular =>
        match ← sendSCPFile child info preserve with
        | some err => finish (some err)
        | none => return some (.source preserve frames)
      | .other => return some (.source preserve frames)

/-- The target of a source, once it is known what it is (`scp.go:201-209`). -/
def sendTarget (options : Options) (info : FileInfo) : Transfer (Option Task) := do
  if info.kind = .directory then
    if ¬ options.recursive then refuse (.ofString options.target ++ .text ": not a regular file")
    else
      match ← sendSCPDir options.target info options.preserve with
      | .error err => finish (some err)
      | .ok entries => return some (.source options.preserve [⟨options.target, entries⟩])
  else finish (← sendSCPFile options.target info options.preserve)

/-- `runSCPSource` (`scp.go:191-210`). -/
def runSCPSource (options : Options) : Transfer (Option Task) := do
  match ← readSCPResponse with
  | some err => finish (some err)
  | none =>
  match ← stat options.target with
  | .error err => refuse err
  | .ok info => sendTarget options info

/-- `RunSCP` (`scp.go:23-34`). -/
def runSCP (args : List GoString) : Transfer (Option Task) :=
  match parseSCPOptions args with
  | .error err => finish (some err)
  | .ok options => return some (.run options)

/-- The programs of both sides. -/
def code : Task → Transfer (Option Task)
  | .runSCP args => runSCP args
  | .run options => if options.sink then runSCPSink options else runSCPSource options
  | .sink state => state.next
  | .source preserve frames => sourceNext preserve frames

/-- One side of a transfer with whatever its connection and its file system answer. -/
def system : System interface where
  Task := Task
  code := code
  started _ := []
  World := Unit
  Answers _ _ _ _ := True

def start (options : Options) : system.Config := system.initial () [.run options]

end KubeSsh.Scp

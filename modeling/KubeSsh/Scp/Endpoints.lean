import KubeSsh.Common.Peers
import KubeSsh.Scp.Sink
import Mathlib.Data.List.Infix

/-!
# Two sides that are connected

What the operations of `Scp.Protocol` answer when the two sides of a transfer talk to each other:
the source reads a tree of directories and regular files that does not change, the sink has a file
system of its own, and bytes arrive in the order in which they were written. Umask and access rights
play no part.
-/

namespace KubeSsh.Scp

open KubeSsh.Path

/-! ## Trees -/

/-- What is at a path. -/
inductive Entry
  | file (perm : Fin 512) (content : GoString)
  | directory (perm : Fin 512)
deriving DecidableEq

/-- The entries of a directory. The size of a file is an `int64`. -/
inductive Entries
  | nil
  | file (name : GoString) (perm : Fin 512) (content : GoString) (hsize : content.length < 2 ^ 63)
      (rest : Entries)
  | directory (name : GoString) (perm : Fin 512) (children : Entries) (rest : Entries)

/-- A file, or a directory with what is in it. -/
inductive Node
  | file (perm : Fin 512) (content : GoString) (hsize : content.length < 2 ^ 63)
  | directory (perm : Fin 512) (entries : Entries)

/-- A name that a header can carry. -/
structure IsEntryName (name : GoString) : Prop extends IsName name where
  newline : Byte.newline ∉ name

namespace Entries

def names : Entries → List GoString
  | nil => []
  | file name _ _ _ rest | directory name _ _ rest => name :: rest.names

/-- The names are valid, and different in each directory. -/
def Valid : Entries → Prop
  | nil => True
  | file name _ _ _ rest => IsEntryName name ∧ name ∉ rest.names ∧ rest.Valid
  | directory name _ children rest => IsEntryName name ∧ name ∉ rest.names ∧ children.Valid ∧ rest.Valid

/-- What the entries have at a name, or below it. -/
def lookup (name : GoString) (below : List GoString) : Entries → Option Entry
  | nil => none
  | file name' perm content _ rest =>
    if name' = name then if below = [] then some (.file perm content) else none
    else rest.lookup name below
  | directory name' perm children rest =>
    if name' = name then
      match below with
      | [] => some (.directory perm)
      | next :: below => children.lookup next below
    else rest.lookup name below

end Entries

namespace Node

def Valid : Node → Prop
  | file _ _ _ => True
  | directory _ entries => entries.Valid

/-- What a tree has below its root. -/
def lookup : Node → List GoString → Option Entry
  | file perm content _, below => if below = [] then some (.file perm content) else none
  | directory perm _, [] => some (.directory perm)
  | directory _ entries, name :: below => entries.lookup name below

end Node

/-! ## The files of the source -/

/-- A file system that is only read. -/
structure SourceFiles where
  node : Lexical → Option Node
  mtime : Lexical → ℤ

namespace SourceFiles

variable (fs : SourceFiles)

def missing : Message := .text "no such file or directory"

/-- `os.Stat` and `os.Lstat`: there are no symbolic links. -/
def stat (l : Lexical) : Except Message FileInfo :=
  match fs.node l with
  | none => .error missing
  | some (.file perm content _) => .ok ⟨.regular, perm, content.length, fs.mtime l⟩
  | some (.directory perm _) => .ok ⟨.directory, perm, 0, fs.mtime l⟩

def readDir (l : Lexical) : Except Message (List GoString) :=
  match fs.node l with
  | some (.directory _ entries) => .ok entries.names
  | _ => .error missing

def openSource (l : Lexical) : Option Message :=
  match fs.node l with
  | some _ => none
  | none => some missing

/-- What `io.Copy` reads. -/
def read (l : Lexical) : GoString × Option Message :=
  match fs.node l with
  | some (.file _ content _) => (content, none)
  | _ => ([], some (.text "is a directory"))

/-- The entries are at a path. -/
def HoldsEntries (l : Lexical) : Entries → Prop
  | .nil => True
  | .file name perm content hsize rest =>
    fs.node (l.child name) = some (.file perm content hsize) ∧ HoldsEntries l rest
  | .directory name perm children rest =>
    fs.node (l.child name) = some (.directory perm children) ∧ HoldsEntries (l.child name) children
      ∧ HoldsEntries l rest

/-- The tree is at a path. -/
def Holds (l : Lexical) (node : Node) : Prop :=
  fs.node l = some node ∧
    match node with
    | .file _ _ _ => True
    | .directory _ entries => fs.HoldsEntries l entries

end SourceFiles

/-! ## The files of the sink -/

/-- A file system: what is at each path. A path that has something is in a directory. -/
structure Files where
  entry : Lexical → Option Entry
  parent : ∀ l name, entry (l.child name) ≠ none → ∃ perm, entry l = some (.directory perm)

namespace Files

variable (fs : Files)

def isDirectory (l : Lexical) : Bool :=
  match fs.entry l with
  | some (.directory _) => true
  | _ => false

def isFile (l : Lexical) : Bool :=
  match fs.entry l with
  | some (.file _ _) => true
  | _ => false

def stat (l : Lexical) : Except Message FileInfo :=
  match fs.entry l with
  | none => .error SourceFiles.missing
  | some (.file perm content) => .ok ⟨.regular, perm, content.length, 0⟩
  | some (.directory perm) => .ok ⟨.directory, perm, 0, 0⟩

theorem isDirectory_iff {l : Lexical} : fs.isDirectory l = true ↔ ∃ perm, fs.entry l = some (.directory perm) := by
  unfold isDirectory
  split
  · rename_i perm heq
    exact iff_of_true rfl ⟨perm, heq⟩
  · rename_i hnot
    exact iff_of_false Bool.false_ne_true fun ⟨perm, heq⟩ => hnot perm heq

/-- A file is written where there is no directory, in a directory. -/
def write (l : Lexical) (perm : Fin 512) (content : GoString) (hnot : fs.isDirectory l = false)
    (hparent : ∀ l' name, l = l'.child name → fs.isDirectory l' = true) : Files where
  entry := Function.update fs.entry l (some (.file perm content))
  parent l' name h := by
    have hdir : fs.isDirectory l' = true := by
      by_cases hchild : l'.child name = l
      · exact hparent l' name hchild.symm
      · rw [Function.update_of_ne hchild] at h
        exact fs.isDirectory_iff.mpr (fs.parent l' name h)
    have hne : l' ≠ l := by
      rintro rfl
      rw [hnot] at hdir
      cases hdir
    rw [Function.update_of_ne hne]
    exact fs.isDirectory_iff.mp hdir

/-- The directory that a path is in. -/
def up (l : Lexical) : Lexical := ⟨l.rooted, l.parts.dropLast⟩

theorem up_child (l : Lexical) (name : GoString) : up (l.child name) = l := by
  simp [up, Lexical.child]

/-- `os.OpenFile` with `O_CREATE|O_WRONLY|O_TRUNC`: a file that exists keeps its permission bits. -/
def openFile (l : Lexical) (perm : Fin 512) : Except Message Files :=
  match h : fs.entry l with
  | some (.directory _) => .error (.text "is a directory")
  | some (.file perm' _) =>
    .ok (fs.write l perm' [] (by simp [isDirectory, h]) fun l' name heq => by
      subst heq
      exact fs.isDirectory_iff.mpr (fs.parent l' name (by rw [h]; exact Option.some_ne_none _)))
  | none =>
    if hup : fs.isDirectory (up l) = true then
      .ok (fs.write l perm [] (by simp [isDirectory, h]) fun l' name heq => by
        subst heq
        rwa [up_child] at hup)
    else .error SourceFiles.missing

/-- What is written to a file that was opened comes after what was written before. -/
def append (l : Lexical) (bytes : GoString) : Files :=
  match h : fs.entry l with
  | some (.file perm content) =>
    fs.write l perm (content ++ bytes) (by simp [isDirectory, h]) fun l' name heq => by
      subst heq
      exact fs.isDirectory_iff.mpr (fs.parent l' name (by rw [h]; exact Option.some_ne_none _))
  | _ => fs

/-- `os.MkdirAll`: a directory that exists is left as it is. -/
def mkdirAll (l : Lexical) (perm : Fin 512) : Except Message Files :=
  if h : ∃ parts ∈ l.parts.inits, fs.isFile ⟨l.rooted, parts⟩ = true then .error (.text "not a directory")
  else .ok
    { entry := fun l' =>
        if l'.rooted = l.rooted ∧ l'.parts <+: l.parts ∧ fs.entry l' = none then some (.directory perm)
        else fs.entry l'
      parent := by
        intro l' name hchild
        by_cases hnone : fs.entry l' = none
        · -- nothing was below, so what is there now was made together with `l'`
          have hnew : fs.entry (l'.child name) = none := by
            by_contra hold
            obtain ⟨perm', heq⟩ := fs.parent l' name hold
            rw [hnone] at heq
            cases heq
          split at hchild
          · rename_i hmade
            exact ⟨perm, if_pos ⟨hmade.1, (List.prefix_append _ _).trans hmade.2.1, hnone⟩⟩
          · exact absurd hnew hchild
        · rw [if_neg fun hmade => hnone hmade.2.2]
          split at hchild
          · rename_i hmade
            have hnot : fs.isFile l' ≠ true := fun hfile => h ⟨l'.parts,
              (List.mem_inits _ _).mpr ((List.prefix_append _ _).trans hmade.2.1), by
                rw [← hmade.1]
                exact hfile⟩
            rcases heq : fs.entry l' with _ | ⟨perm', content⟩ | ⟨perm'⟩
            · exact absurd heq hnone
            · exact absurd (by simp [isFile, heq]) hnot
            · exact ⟨perm', rfl⟩
          · exact fs.parent l' name hchild }

/-! ### What the operations change -/

section Changes

variable {fs} {l : Lexical} {name : GoString} {perm' : Fin 512} {content : GoString}

/-- The directories that a directory is in are directories. -/
theorem isDirectory_of_parts {parts : List GoString} (h : fs.isDirectory l = true)
    (hparts : parts <+: l.parts) : fs.isDirectory ⟨l.rooted, parts⟩ = true := by
  obtain ⟨rest, hrest⟩ := hparts
  induction rest using List.reverseRecOn generalizing l with
  | nil =>
    rw [List.append_nil] at hrest
    rwa [hrest]
  | append_singleton rest name ih =>
    have hl : l = Lexical.child ⟨l.rooted, parts ++ rest⟩ name := by
      rw [Lexical.child, List.append_assoc, hrest]
    obtain ⟨perm, hperm⟩ := fs.isDirectory_iff.mp h
    have hup := fs.parent ⟨l.rooted, parts ++ rest⟩ name (by rw [← hl, hperm]; exact Option.some_ne_none _)
    exact ih (l := ⟨l.rooted, parts ++ rest⟩) (fs.isDirectory_iff.mpr hup) rfl

/-- What is not there has nothing below it. -/
theorem entry_extend_eq_none (h : fs.entry l = none) (names : List GoString) :
    fs.entry (l.extend names) = none := by
  induction names using List.reverseRecOn with
  | nil => simpa [Lexical.extend] using h
  | append_singleton names name ih =>
    rw [← Lexical.child_extend]
    by_contra hchild
    obtain ⟨perm, heq⟩ := fs.parent _ name hchild
    rw [ih] at heq
    cases heq

theorem mkdirAll_new (perm : Fin 512) (hdir : fs.isDirectory l = true)
    (hnew : fs.entry (l.child name) = none) : ∃ fs', fs.mkdirAll (l.child name) perm = .ok fs' ∧
      fs'.entry = Function.update fs.entry (l.child name) (some (.directory perm)) := by
  have hprefix {parts : List GoString} (h : parts <+: (l.child name).parts) :
      parts = (l.child name).parts ∨ fs.isDirectory ⟨l.rooted, parts⟩ = true := by
    rcases List.prefix_concat_iff.mp h with h | h
    · exact Or.inl h
    · exact Or.inr (isDirectory_of_parts hdir h)
  have hnofile : ¬ ∃ parts ∈ (l.child name).parts.inits, fs.isFile ⟨(l.child name).rooted, parts⟩ = true := by
    rintro ⟨parts, hmem, hfile⟩
    rcases hprefix ((List.mem_inits _ _).mp hmem) with rfl | hdir'
    · simp [isFile, hnew] at hfile
    · obtain ⟨perm', heq⟩ := fs.isDirectory_iff.mp hdir'
      have hfile' : fs.isFile ⟨l.rooted, parts⟩ = true := hfile
      simp [isFile, heq] at hfile'
  refine ⟨_, dif_neg hnofile, funext fun l' => ?_⟩
  by_cases hl' : l' = l.child name
  · subst hl'
    rw [Function.update_self]
    exact if_pos ⟨rfl, List.prefix_refl _, hnew⟩
  · rw [Function.update_of_ne hl']
    refine if_neg fun ⟨hrooted, hparts, hnone⟩ => ?_
    rcases hprefix hparts with heq | hdir'
    · exact hl' (by cases l'; simp_all [Lexical.child])
    · obtain ⟨perm', heq⟩ := fs.isDirectory_iff.mp hdir'
      have hl : (⟨l.rooted, l'.parts⟩ : Lexical) = l' := by
        cases l'
        simp_all [Lexical.child]
      rw [hl, hnone] at heq
      cases heq

theorem openFile_new (perm : Fin 512) (hdir : fs.isDirectory l = true)
    (hnew : fs.entry (l.child name) = none) : ∃ fs', fs.openFile (l.child name) perm = .ok fs' ∧
      fs'.entry = Function.update fs.entry (l.child name) (some (.file perm [])) := by
  unfold openFile
  split
  · simp_all
  · simp_all
  · rw [dif_pos (by rwa [up_child])]
    exact ⟨_, rfl, rfl⟩

/-- A file that exists keeps its permission bits. -/
theorem openFile_file (perm : Fin 512) (h : fs.entry l = some (.file perm' content)) :
    ∃ fs', fs.openFile l perm = .ok fs' ∧
      fs'.entry = Function.update fs.entry l (some (.file perm' [])) := by
  unfold openFile
  split
  · simp_all
  · rename_i heq
    rw [h] at heq
    cases heq
    exact ⟨_, rfl, rfl⟩
  · simp_all

theorem append_file {perm : Fin 512} (h : fs.entry l = some (.file perm content)) (bytes : GoString) :
    (fs.append l bytes).entry = Function.update fs.entry l (some (.file perm (content ++ bytes))) := by
  unfold append
  split
  · rename_i heq
    rw [h] at heq
    cases heq
    rfl
  · rename_i hnot
    exact absurd h (hnot perm content)

/-- A new file, opened and written. -/
theorem openFile_append_new (perm : Fin 512) (content : GoString) (hdir : fs.isDirectory l = true)
    (hnew : fs.entry (l.child name) = none) : ∃ fs', fs.openFile (l.child name) perm = .ok fs' ∧
      (fs'.append (l.child name) content).entry =
        Function.update fs.entry (l.child name) (some (.file perm content)) := by
  obtain ⟨fs', hopened, hentry⟩ := openFile_new perm hdir hnew
  refine ⟨fs', hopened, ?_⟩
  rw [append_file (by rw [hentry, Function.update_self]), hentry, Function.update_idem, List.nil_append]

end Changes

end Files

/-! ## The connection -/

/-- `ReadByte`: waits for a byte, or for the end. -/
def takeByte : GoString → Bool → Option (Except ReadError UInt8 × GoString)
  | b :: queue, _ => some (.ok b, queue)
  | [], true => some (.error .eof, [])
  | [], false => none

/-- `ReadString` of a newline. -/
def takeLine (queue : GoString) (closed : Bool) : Option (LineRead × GoString) :=
  match Strings.cut Byte.newline queue with
  | some (line, rest) => some (.line line, rest)
  | none => if closed then some (.ended queue .eof, []) else none

/-- What `io.CopyN` reads, with its error. -/
def takeN (n : ℕ) (queue : GoString) (closed : Bool) : Option ((GoString × Option Message) × GoString) :=
  if n ≤ queue.length then some ((queue.take n, none), queue.drop n)
  else if closed then some ((queue, some ReadError.eof.text), [])
  else none

section Take

variable {queue queue' : GoString} (more : GoString) (closed : Bool)

theorem takeByte_append {a : Except ReadError UInt8} (h : takeByte queue false = some (a, queue')) :
    takeByte (queue ++ more) closed = some (a, queue' ++ more) := by
  cases queue with
  | nil => cases h
  | cons b queue =>
    cases h
    rfl

theorem takeLine_append {a : LineRead} (h : takeLine queue false = some (a, queue')) :
    takeLine (queue ++ more) closed = some (a, queue' ++ more) := by
  unfold takeLine at h
  split at h
  · rename_i line rest hcut
    cases h
    obtain ⟨rfl, hline⟩ := Strings.cut_eq_some_iff.mp hcut
    have hcut' : Strings.cut Byte.newline (line ++ Byte.newline :: queue' ++ more) = some (line, queue' ++ more) :=
      Strings.cut_eq_some_iff.mpr ⟨by simp, hline⟩
    rw [takeLine, hcut']
  · cases h

theorem takeN_append {n : ℕ} {a : GoString × Option Message} (h : takeN n queue false = some (a, queue')) :
    takeN n (queue ++ more) closed = some (a, queue' ++ more) := by
  unfold takeN at h
  split at h
  · rename_i hlen
    cases h
    rw [takeN, if_pos (by rw [List.length_append]; omega), List.take_append_of_le_length hlen,
      List.drop_append_of_le_length hlen]
  · cases h

end Take

/-! ## The devices -/

section Devices

variable (quote : GoString → GoString) (fs : SourceFiles)

/-- What the source gets; its data is what it has returned. -/
def sourceDevice : Device interface UInt8 (Option (Option Message)) where
  answer
    | d, .write record, queue, _ => some (none, d, queue, record.bytes quote)
    | d, .readByte, queue, closed => (takeByte queue closed).map fun (a, queue') => (a, d, queue', [])
    | d, .readString, queue, closed => (takeLine queue closed).map fun (a, queue') => (a, d, queue', [])
    | d, .copy path, queue, _ => some (fs.read (lexical path), d, queue, (fs.read (lexical path)).1)
    | d, .stat path, queue, _ => some (fs.stat (lexical path), d, queue, [])
    | d, .readDir path, queue, _ => some (fs.readDir (lexical path), d, queue, [])
    | d, .entryInfo path name, queue, _ => some (fs.stat ((lexical path).child name), d, queue, [])
    | d, .openSource path, queue, _ => some (fs.openSource (lexical path), d, queue, [])
    | d, .closeFile _, queue, _ => some (none, d, queue, [])
    | _, .returned err, queue, _ => some ((), some err, queue, [])
    -- a source does not change files
    | _, .copyN _ _, _, _ | _, .mkdirAll _ _, _, _ | _, .openFile _ _, _, _ | _, .chtimes _ _, _, _ => none
  answer_append d op queue a d' queue' out more closed h := by
    cases op with
    | readByte =>
      obtain ⟨⟨a, queue''⟩, htake, heq⟩ := Option.map_eq_some_iff.mp h
      cases heq
      exact Option.map_eq_some_iff.mpr ⟨_, takeByte_append more closed htake, rfl⟩
    | readString =>
      obtain ⟨⟨a, queue''⟩, htake, heq⟩ := Option.map_eq_some_iff.mp h
      cases heq
      exact Option.map_eq_some_iff.mpr ⟨_, takeLine_append more closed htake, rfl⟩
    | copyN | mkdirAll | openFile | chtimes => cases h
    | _ =>
      cases h
      rfl

/-- What the sink has: its files, what it has returned, and what it called `os.Chtimes` with. -/
structure SinkData where
  files : Files
  result : Option (Option Message) := none
  dated : List (GoString × Times) := []

/-- The answer of a call that changes the files, or fails. -/
def SinkData.after (d : SinkData) : Except Message Files → Option Message × SinkData
  | .ok files => (none, { d with files })
  | .error err => (some err, d)

/-- What the sink gets. -/
def sinkDevice : Device interface UInt8 SinkData where
  answer
    | d, .write record, queue, _ => some (none, d, queue, record.bytes quote)
    | d, .readByte, queue, closed => (takeByte queue closed).map fun (a, queue') => (a, d, queue', [])
    | d, .readString, queue, closed => (takeLine queue closed).map fun (a, queue') => (a, d, queue', [])
    | d, .copyN path size, queue, closed => (takeN size queue closed).map fun ((bytes, err), queue') =>
      (err, { d with files := d.files.append (lexical path) bytes }, queue', [])
    | d, .stat path, queue, _ => some (d.files.stat (lexical path), d, queue, [])
    | d, .mkdirAll path mode, queue, _ =>
      let (err, d') := d.after (d.files.mkdirAll (lexical path) (Fin.ofNat 512 mode))
      some (err, d', queue, [])
    | d, .openFile path mode, queue, _ =>
      let (err, d') := d.after (d.files.openFile (lexical path) (Fin.ofNat 512 mode))
      some (err, d', queue, [])
    | d, .closeFile _, queue, _ => some (none, d, queue, [])
    | d, .chtimes path times, queue, _ =>
      some ((), { d with dated := d.dated ++ [(path, times)] }, queue, [])
    | d, .returned err, queue, _ => some ((), { d with result := some err }, queue, [])
    -- a sink reads no files
    | _, .copy _, _, _ | _, .readDir _, _, _ | _, .entryInfo _ _, _, _ | _, .openSource _, _, _ => none
  answer_append d op queue a d' queue' out more closed h := by
    cases op with
    | readByte =>
      obtain ⟨⟨a, queue''⟩, htake, heq⟩ := Option.map_eq_some_iff.mp h
      cases heq
      exact Option.map_eq_some_iff.mpr ⟨_, takeByte_append more closed htake, rfl⟩
    | readString =>
      obtain ⟨⟨a, queue''⟩, htake, heq⟩ := Option.map_eq_some_iff.mp h
      cases heq
      exact Option.map_eq_some_iff.mpr ⟨_, takeLine_append more closed htake, rfl⟩
    | copyN path size =>
      obtain ⟨⟨a, queue''⟩, htake, heq⟩ := Option.map_eq_some_iff.mp h
      cases heq
      exact Option.map_eq_some_iff.mpr ⟨_, takeN_append more closed htake, rfl⟩
    | copy | readDir | entryInfo | openSource => cases h
    | _ =>
      cases h
      rfl

/-- A side that performs its operations on its device. -/
abbrev sourcePeer : Peer UInt8 := (sourceDevice quote fs).peer code
abbrev sinkPeer : Peer UInt8 := (sinkDevice quote).peer code

/-- Both sides, and what is on its way to each. -/
abbrev Session := Peers.Config (sourcePeer quote fs) (sinkPeer quote)

/-- Two sides that start. -/
def connected (source sink : Options) (files : Files) : Session quote fs :=
  ⟨⟨code (.run source), none⟩, ⟨code (.run sink), { files }⟩, [], []⟩

end Devices

end KubeSsh.Scp

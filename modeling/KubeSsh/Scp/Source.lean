import KubeSsh.Scp.Protocol

/-!
# What the source writes for a file

The header of a file announces the size that an earlier `Stat` gave. After the receiver has accepted
it, it counts that many bytes of content and then reads a status. The source opens the file and
copies it to its end, whatever that has become. `Framed` says what the receiver can follow, and
`Kept` what the file has to do meanwhile: the source stays in step with the receiver exactly if the
file keeps its size.
-/

namespace KubeSsh.Scp

open KubeSsh.System

/-! ## Segments -/

/-- The operation writes a header, or ends the session. -/
def Op.Closes : Op → Prop
  | .write (.file _ _ _) | .write (.directory _ _) | .write .endDirectory | .write (.times _) => True
  | .returned _ => True
  | _ => False

/-- The operation ends the session. -/
def Op.EndsSession : Op → Prop
  | .returned _ => True
  | _ => False

instance : DecidablePred Op.Closes := fun op => by
  unfold Op.Closes
  split <;> infer_instance

/-- The events between the accepted header of a file of `n` bytes and the next header or the end. -/
structure Segment (events : List (Event interface)) (n : ℕ) (segment : List (Event interface))
    (ending : Event interface) : Prop where
  split : ∃ before perm name rest, events =
    (before ++ [⟨.write (.file perm n name), none⟩, ⟨.readByte, .ok 0⟩] ++ segment) ++ ending :: rest
  inside : ∀ event ∈ segment, ¬ Op.Closes event.op
  ending : Op.Closes ending.op

/-- What reaches the receiver: content, and statuses. -/
inductive Sent
  | content (byte : UInt8)
  | status (record : Record)

/-- What an event sends; nothing, if a write fails. -/
def sentBy : Event interface → List Sent
  | ⟨.copy _, (bytes, _)⟩ => bytes.map .content
  | ⟨.write record, none⟩ => [.status record]
  | _ => []

def sent (events : List (Event interface)) : List Sent := events.flatMap sentBy

/-- What the receiver can follow after it has accepted `n` bytes: all of them and then a status, or
less, if the session ends. -/
def Framed (n : ℕ) (out : List Sent) (ended : Prop) : Prop :=
  (∃ bytes : GoString, bytes.length = n ∧ (out = bytes.map .content ++ [.status .ok] ∨
    ∃ err, out = bytes.map .content ++ [.status (.failure err)])) ∨
  (ended ∧ ∃ bytes : GoString, bytes.length < n ∧ out = bytes.map .content)

/-- At the end, an entry of the directory turned out to be gone, and the receiver was told so. -/
def Refused (events : List (Event interface)) : Prop :=
  ∃ path name err record, [⟨.entryInfo path name, .error err⟩, ⟨.write record, none⟩] <:+ events

/-- What the file does after its header was accepted, and the connection: a file that cannot be
opened was announced as empty, and the receiver learns it; one that cannot be read to its end, or
whose status is not written, gives less than was announced; one that can be read has the announced
size still, and the next entries of its directory are there. -/
def Kept (n : ℕ) : List (Event interface) → Prop
  | ⟨.openSource _, some _⟩ :: ⟨.write _, none⟩ :: _ => n = 0
  | ⟨.openSource _, some _⟩ :: ⟨.write _, some _⟩ :: _ => 0 < n
  | ⟨.openSource _, none⟩ :: ⟨.copy _, (bytes, some _)⟩ :: _ => bytes.length < n
  | ⟨.openSource _, none⟩ :: ⟨.copy _, (bytes, none)⟩ :: ⟨.closeFile _, some _⟩ :: _ => bytes.length < n
  | ⟨.openSource _, none⟩ :: ⟨.copy _, (bytes, none)⟩ :: ⟨.closeFile _, none⟩ :: ⟨.write _, some _⟩ :: _ =>
    bytes.length < n
  | ⟨.openSource _, none⟩ :: ⟨.copy _, (bytes, none)⟩ :: ⟨.closeFile _, none⟩ :: ⟨.write _, none⟩ :: rest =>
    bytes.length = n ∧ ¬ Refused rest
  | _ => False

/-! ## Framing of the possible outputs -/

section Framed

variable {n : ℕ} {ended : Prop} {bytes others : GoString} {record record' : Record} {tail tail' : List Sent}

theorem map_content_ne : others.map Sent.content ≠ bytes.map Sent.content ++ .status record :: tail := by
  intro h
  have hmem : Sent.status record ∈ others.map Sent.content := h ▸ by simp
  simp at hmem

/-- The first status ends the content. -/
theorem map_content_append_inj (h : bytes.map Sent.content ++ .status record :: tail =
    others.map Sent.content ++ .status record' :: tail') :
    bytes = others ∧ record = record' ∧ tail = tail' := by
  induction bytes generalizing others with
  | nil =>
    cases others with
    | nil => simpa using h
    | cons b others => simp at h
  | cons b bytes ih =>
    cases others with
    | nil => simp at h
    | cons b' others =>
      rw [List.map_cons, List.map_cons, List.cons_append, List.cons_append, List.cons.injEq] at h
      obtain ⟨hb, h⟩ := h
      obtain ⟨rfl, hrest⟩ := ih h
      exact ⟨by rw [Sent.content.inj hb], hrest⟩

/-- Content alone can be followed if it is less than announced and the session ends. -/
theorem framed_content : Framed n (bytes.map .content) ended ↔ ended ∧ bytes.length < n := by
  constructor
  · rintro (⟨others, -, h | ⟨err, h⟩⟩ | ⟨hended, others, hlt, h⟩)
    · exact absurd h map_content_ne
    · exact absurd h map_content_ne
    · have hinj : Function.Injective (List.map Sent.content) :=
        List.map_injective_iff.mpr fun _ _ h => Sent.content.inj h
      exact ⟨hended, hinj h ▸ hlt⟩
  · rintro ⟨hended, hlt⟩
    exact Or.inr ⟨hended, bytes, hlt, rfl⟩

/-- Content and a status can be followed if the content is what was announced and nothing comes
after. -/
theorem framed_status (hrecord : record = .ok ∨ ∃ err, record = .failure err) :
    Framed n (bytes.map .content ++ .status record :: tail) ended ↔ bytes.length = n ∧ tail = [] := by
  constructor
  · rintro (⟨others, hlen, h | ⟨err, h⟩⟩ | ⟨-, others, -, h⟩)
    · obtain ⟨rfl, -, htail⟩ := map_content_append_inj h
      exact ⟨hlen, htail⟩
    · obtain ⟨rfl, -, htail⟩ := map_content_append_inj h
      exact ⟨hlen, htail⟩
    · exact absurd h.symm map_content_ne
  · rintro ⟨hlen, rfl⟩
    refine Or.inl ⟨bytes, hlen, ?_⟩
    rcases hrecord with rfl | ⟨err, rfl⟩
    · exact Or.inl rfl
    · exact Or.inr ⟨err, rfl⟩

end Framed

/-! ## The source under a monitor -/

/-- How far the source is with a file: no header of a file is open, it was written, or it was
accepted and the events since. -/
inductive Phase
  | idle
  | announced (n : ℕ)
  | accepted (n : ℕ) (events : List (Event interface))

/-- The size that the header of a file announces. -/
def header : Event interface → Option ℕ
  | ⟨.write (.file _ n _), none⟩ => some n
  | _ => none

/-- The receiver says that all is well. -/
def okRead : Event interface → Bool
  | ⟨.readByte, .ok status⟩ => status == 0
  | _ => false

def Phase.next (φ : Phase) (event : Event interface) : Phase :=
  match header event with
  | some n => .announced n
  | none =>
    match φ with
    | .idle => .idle
    | .announced n => if okRead event then .accepted n [] else .idle
    | .accepted n events => if Op.Closes event.op then .idle else .accepted n (events ++ [event])

/-- What is written for a file can be followed exactly if the file is kept. -/
def Phase.Sound (φ : Phase) (ended : Prop) : Prop :=
  match φ with
  | .accepted n events => Framed n (sent events) ended ↔ Kept n events
  | _ => True

/-- Watches the segments of a source, each when it ends. -/
def framing : Monitor interface Phase where
  Allowed φ op := Op.Closes op → φ.Sound (Op.EndsSession op)
  next φ op answer := φ.next ⟨op, answer⟩

/-- The event sends nothing, and closes no segment. -/
def Silent (event : Event interface) : Prop := sentBy event = [] ∧ ¬ Op.Closes event.op

/-- The events of a file that was read to its end and whose status was written. -/
def delivered (path bytes : GoString) : List (Event interface) :=
  [⟨.openSource path, none⟩, ⟨.copy path, (bytes, none)⟩, ⟨.closeFile path, none⟩, ⟨.write .ok, none⟩]

/-- No file is open, or one was sent and since then nothing. -/
inductive Calm : Phase → Prop
  | idle : Calm .idle
  | sent (n : ℕ) (path bytes : GoString) {rest : List (Event interface)}
      (hrest : ∀ event ∈ rest, Silent event) : Calm (.accepted n (delivered path bytes ++ rest))

section Calm

variable {n : ℕ} {path bytes : GoString} {rest : List (Event interface)} {φ : Phase} {ended : Prop}

theorem sent_delivered (path bytes : GoString) (rest : List (Event interface)) :
    sent (delivered path bytes ++ rest) = bytes.map .content ++ .status .ok :: sent rest := by
  simp [sent, delivered, sentBy]

theorem sent_of_silent (h : ∀ event ∈ rest, Silent event) : sent rest = [] :=
  List.flatMap_eq_nil_iff.mpr fun event hevent => (h event hevent).1

theorem not_refused_of_silent (h : ∀ event ∈ rest, Silent event) : ¬ Refused rest := by
  rintro ⟨path, name, err, record, hsuffix⟩
  have hsilent := h ⟨.write record, none⟩ (hsuffix.subset (by simp))
  exact absurd hsilent.1 (by simp [sentBy])

/-- A file that was read to its end can be followed if it had the announced size. -/
theorem Calm.sound (h : Calm φ) : φ.Sound ended := by
  cases h with
  | idle => exact trivial
  | @sent n path bytes rest hrest =>
    have hkept : Kept n (delivered path bytes ++ rest) ↔ bytes.length = n ∧ ¬ Refused rest := Iff.rfl
    rw [Phase.Sound, hkept, sent_delivered, framed_status (Or.inl rfl), sent_of_silent hrest]
    exact and_congr_right fun _ => iff_of_true rfl (not_refused_of_silent hrest)

variable {event : Event interface}

theorem header_eq_none (h : ¬ Op.Closes event.op) : header event = none := by
  unfold header
  split
  · exact absurd trivial h
  · rfl

theorem next_accepted {events : List (Event interface)} (h : ¬ Op.Closes event.op) :
    Phase.next (.accepted n events) event = .accepted n (events ++ [event]) := by
  rw [Phase.next, header_eq_none h]
  exact if_neg h

theorem Calm.next (h : Calm φ) (hevent : Silent event) : Calm (φ.next event) := by
  cases h with
  | idle =>
    rw [Phase.next, header_eq_none hevent.2]
    exact Calm.idle
  | sent n path bytes hrest =>
    rw [next_accepted hevent.2, List.append_assoc]
    refine Calm.sent n path bytes fun event' hmem => ?_
    rcases List.mem_append.mp hmem with hmem | hmem
    · exact hrest event' hmem
    · obtain rfl := List.mem_singleton.mp hmem
      exact hevent

/-- After a header that is not one of a file, or that was not written, no file is open. -/
theorem Calm.next_closes (h : Calm φ) (hcloses : Op.Closes event.op)
    (hheader : header event = none) : φ.next event = .idle := by
  rw [Phase.next.eq_def, hheader]
  cases h with
  | idle => rfl
  | sent => exact if_pos hcloses

end Calm

/-! ## Programs of the source -/

/-- The operation sends nothing, whatever its answer. -/
def Quiet : Op → Prop
  | .write _ | .copy _ | .returned _ => False
  | _ => True

section Programs

variable {α : Type} {p : Transfer α} {φ : Phase}

theorem silent_of_quiet {op : Op} (h : Quiet op) (answer : op.Answer) :
    Silent (⟨op, answer⟩ : Event interface) := by
  cases op with
  | write | copy | returned => exact h.elim
  | _ => exact ⟨rfl, not_false⟩

theorem obeys_of_quiet (h : p.Only Quiet) (hφ : Calm φ) : p.Obeys framing φ fun _ φ' => Calm φ' :=
  h.obeys_of_inv hφ fun _ _ hφ' hop => ⟨fun _ => hφ'.sound, fun answer => hφ'.next (silent_of_quiet hop answer)⟩

theorem quiet_readSCPResponse : readSCPResponse.Only Quiet := by
  have hbyte : readByte.Only Quiet := Prog.only_perform.mpr trivial
  have hstring : readString.Only Quiet := Prog.only_perform.mpr trivial
  refine hbyte.bind fun status => ?_
  rcases (status : Except ReadError UInt8) with err | status
  · exact trivial
  · dsimp only
    split_ifs
    · exact trivial
    · refine hstring.bind fun line => ?_
      rcases (line : LineRead) with text | ⟨text, err⟩ <;> exact trivial
    · exact trivial

/-- The operation is not the header of a file. -/
def NoFile (op : Op) : Prop := ∀ answer, header (⟨op, answer⟩ : Event interface) = none

theorem noFile_of_quiet {op : Op} (h : Quiet op) : NoFile op := fun answer =>
  header_eq_none (silent_of_quiet h answer).2

/-- A header other than that of a file. -/
theorem obeys_write_header (record : Record) (hφ : Calm φ) (hcloses : Op.Closes (.write record))
    (hheader : NoFile (.write record)) : (write record).Obeys framing φ fun _ φ' => φ' = .idle :=
  ⟨fun _ => hφ.sound, fun answer => hφ.next_closes hcloses (hheader answer)⟩

/-- Without a file there is nothing to keep in step with. -/
theorem obeys_idle (h : p.Only NoFile) : p.Obeys framing .idle fun _ φ' => φ' = .idle := by
  refine h.obeys fun op hop => ⟨fun _ => trivial, fun answer => ?_⟩
  show Phase.next .idle ⟨op, answer⟩ = .idle
  rw [Phase.next, hop answer]

theorem obeys_sendTimesIf (preserve : Bool) (info : FileInfo) (hφ : Calm φ) :
    (sendTimesIf preserve info).Obeys framing φ fun _ φ' => Calm φ' := by
  unfold sendTimesIf
  split
  · refine Prog.obeys_bind.mpr <| (obeys_write_header (.times info.mtime) hφ trivial fun _ => rfl).mono ?_
    rintro written _ rfl
    cases written with
    | some err => exact Calm.idle
    | none => exact obeys_of_quiet quiet_readSCPResponse Calm.idle
  · exact hφ

/-- A directory, from its header to its entries. -/
theorem obeys_sendSCPDir (path : GoString) (info : FileInfo) (preserve : Bool) (hφ : Calm φ) :
    (sendSCPDir path info preserve).Obeys framing φ fun _ φ' => Calm φ' := by
  refine Prog.obeys_bind.mpr <| (obeys_sendTimesIf preserve info hφ).mono fun err φ hφ => ?_
  cases err with
  | some err => exact hφ
  | none =>
  refine Prog.obeys_bind.mpr <|
    (obeys_write_header (.directory info.perm (pathBase path)) hφ trivial fun _ => rfl).mono ?_
  rintro written _ rfl
  cases written with
  | some err => exact Calm.idle
  | none =>
  refine Prog.obeys_bind.mpr <| (obeys_idle (quiet_readSCPResponse.mono fun _ => noFile_of_quiet)).mono ?_
  rintro err _ rfl
  cases err with
  | some err => exact Calm.idle
  | none =>
  have hread : (readDir path).Only NoFile := Prog.only_perform.mpr fun _ => rfl
  refine Prog.obeys_bind.mpr <| (obeys_idle hread).mono ?_
  rintro entries _ rfl
  rcases (entries : Except Message (List GoString)) with err | entries
  · have hack : (writeSCPAck (some err)).Only NoFile := Prog.only_perform.mpr fun _ => rfl
    refine Prog.obeys_bind.mpr <| (obeys_idle hack).mono ?_
    rintro _ _ rfl
    exact Calm.idle
  · exact Calm.idle

/-- What holds after a file: the session may end, and it may go on if there was no error. -/
def Over (err : Option Message) (φ : Phase) : Prop := φ.Sound True ∧ (err = none → Calm φ)

theorem Calm.over (h : Calm φ) (err : Option Message) : Over err φ := ⟨h.sound, fun _ => h⟩

theorem over_some {err : Message} (h : φ.Sound True) : Over (some err) φ := ⟨h, nofun⟩

/-- What is written if the file cannot be read to its end is a part of it. -/
theorem sound_content {n : ℕ} {events : List (Event interface)} (bytes : GoString)
    (hsent : sent events = bytes.map .content) (hkept : Kept n events ↔ bytes.length < n) :
    (Phase.accepted n events).Sound True := by
  rw [Phase.Sound, hsent, framed_content, hkept, true_and]

theorem obeys_sendContent (path : GoString) (n : ℕ) :
    (sendContent path).Obeys framing (.accepted n []) Over := by
  -- each operation is allowed: none of them closes the segment
  refine ⟨nofun, fun opened => ?_⟩
  rcases (opened : Option Message) with _ | err
  · refine ⟨nofun, fun copied => ?_⟩
    rcases (copied : GoString × Option Message) with ⟨bytes, _ | err⟩
    · refine ⟨nofun, fun closed => ?_⟩
      rcases (closed : Option Message) with _ | err
      · refine ⟨nofun, fun written => ?_⟩
        rcases (written : Option Message) with _ | err
        · have hcalm : Calm (.accepted n (delivered path bytes ++ [])) := Calm.sent n path bytes nofun
          exact (obeys_of_quiet quiet_readSCPResponse hcalm).mono fun err _ h => h.over err
        · exact over_some (sound_content bytes (by simp [sent, sentBy]) Iff.rfl)
      · exact over_some (sound_content bytes (by simp [sent, sentBy]) Iff.rfl)
    · refine ⟨nofun, fun closed => ?_⟩
      exact over_some (sound_content bytes (by simp [sent, sentBy]) Iff.rfl)
  · refine ⟨nofun, fun written => ?_⟩
    rcases (written : Option Message) with _ | err'
    · refine over_some ?_
      show Framed n (([] : GoString).map .content ++ .status (.failure err) :: []) True ↔ n = 0
      rw [framed_status (Or.inr ⟨err, rfl⟩)]
      simp [eq_comm]
    · exact over_some (sound_content [] (by simp [sent, sentBy]) Iff.rfl)

/-- The answer to the header of a file decides whether content is expected. -/
theorem obeys_readSCPResponse (n : ℕ) : readSCPResponse.Obeys framing (.announced n) fun err φ =>
    φ = if err = none then .accepted n [] else .idle := by
  refine Prog.obeys_perform_bind.mpr ⟨fun _ => trivial, fun status => ?_⟩
  rcases (status : Except ReadError UInt8) with err | status
  · exact rfl
  show Prog.Obeys framing (Phase.next (.announced n) ⟨.readByte, .ok status⟩) _ _
  by_cases hstatus : status = 0
  · subst hstatus
    exact rfl
  · have hidle : Phase.next (.announced n) ⟨.readByte, .ok status⟩ = .idle := by
      simp [Phase.next, header, okRead, hstatus]
    rw [hidle]
    simp only [if_neg hstatus]
    split
    · refine Prog.obeys_perform_bind.mpr ⟨fun _ => trivial, fun line => ?_⟩
      rcases (line : LineRead) with text | ⟨text, err⟩ <;> exact rfl
    · exact rfl

theorem obeys_sendSCPFile (path : GoString) (info : FileInfo) (preserve : Bool) (hφ : Calm φ) :
    (sendSCPFile path info preserve).Obeys framing φ Over := by
  refine Prog.obeys_bind.mpr <| (obeys_sendTimesIf preserve info hφ).mono fun err φ hφ => ?_
  cases err with
  | some err => exact hφ.over _
  | none =>
  refine Prog.obeys_perform_bind.mpr ⟨fun _ => hφ.sound, fun written => ?_⟩
  rcases (written : Option Message) with _ | err
  · refine Prog.obeys_bind.mpr <| (obeys_readSCPResponse info.size).mono ?_
    rintro err _ rfl
    cases err with
    | some err => exact Calm.idle.over _
    | none => exact obeys_sendContent path info.size
  · show Over (some err) (φ.next ⟨.write (.file info.perm info.size (pathBase path)), some err⟩)
    rw [hφ.next_closes (by exact trivial) rfl]
    exact Calm.idle.over _

/-- The source is about to start, or between two entries. -/
def SourceReady : Task → Phase → Prop
  | .run options, φ => options.sink = false ∧ φ = .idle
  | .source _ _, φ => Calm φ
  | _, _ => False

theorem obeys_finish_source {err : Option Message} (h : φ.Sound True) :
    (finish err).Obeys framing φ (@Ends _ _ system SourceReady fun _ => True) :=
  ⟨fun _ => h, fun _ => trivial⟩

theorem obeys_refuse_idle (err : Message) :
    (refuse err).Obeys framing .idle (@Ends _ _ system SourceReady fun _ => True) :=
  ⟨nofun, fun _ => obeys_finish_source trivial⟩

/-- An entry that is gone is reported where the receiver expects a header. -/
theorem obeys_refuse_entry {path name : GoString} {err : Message} (hφ : Calm φ) :
    (refuse err).Obeys framing (φ.next ⟨.entryInfo path name, .error err⟩)
      (@Ends _ _ system SourceReady fun _ => True) := by
  have hentry : Silent ⟨.entryInfo path name, .error err⟩ := ⟨rfl, not_false⟩
  refine ⟨nofun, fun written => obeys_finish_source ?_⟩
  rcases (written : Option Message) with _ | werr
  · show ((φ.next _).next ⟨.write (.failure err), none⟩).Sound True
    cases hφ with
    | idle => exact trivial
    | @sent n path' bytes rest hrest =>
      rw [next_accepted hentry.2, next_accepted (by exact not_false), List.append_assoc, List.append_assoc]
      have hkept (rest : List (Event interface)) :
          Kept n (delivered path' bytes ++ rest) ↔ bytes.length = n ∧ ¬ Refused rest := Iff.rfl
      have hrefused : Refused (rest ++ ([⟨.entryInfo path name, .error err⟩] ++
          [⟨.write (.failure err), none⟩])) := ⟨path, name, err, .failure err, List.suffix_append rest _⟩
      rw [Phase.Sound, hkept, sent_delivered, framed_status (Or.inl rfl)]
      refine and_congr_right fun _ => iff_of_false ?_ (not_not.mpr hrefused)
      simp [sent, sentBy]
  · exact ((hφ.next hentry).next (⟨rfl, not_false⟩ : Silent ⟨.write (.failure err), some werr⟩)).sound

theorem obeys_sourceNext (preserve : Bool) (frames : List Frame) (hφ : Calm φ) :
    (sourceNext preserve frames).Obeys framing φ (@Ends _ _ system SourceReady fun _ => True) := by
  match frames with
  | [] => exact obeys_finish_source hφ.sound
  | ⟨path, []⟩ :: frames =>
    refine Prog.obeys_bind.mpr <| (obeys_write_header .endDirectory hφ trivial fun _ => rfl).mono ?_
    rintro written _ rfl
    cases written with
    | some err => exact obeys_finish_source trivial
    | none =>
    refine Prog.obeys_bind.mpr <| (obeys_of_quiet quiet_readSCPResponse Calm.idle).mono fun err φ hφ => ?_
    cases err with
    | some err => exact obeys_finish_source hφ.sound
    | none => exact hφ
  | ⟨path, name :: entries⟩ :: frames =>
    refine Prog.obeys_perform_bind.mpr ⟨nofun, fun info => ?_⟩
    rcases (info : Except Message FileInfo) with err | info
    · exact obeys_refuse_entry hφ
    · have hφ' : Calm (φ.next ⟨.entryInfo path name, .ok info⟩) := hφ.next ⟨rfl, not_false⟩
      show Prog.Obeys framing (φ.next ⟨.entryInfo path name, .ok info⟩) _ _
      dsimp only
      cases info.kind with
      | directory =>
        refine Prog.obeys_bind.mpr <| (obeys_sendSCPDir _ info preserve hφ').mono fun result φ hφ => ?_
        cases result with
        | error err => exact obeys_finish_source hφ.sound
        | ok children => exact hφ
      | regular =>
        refine Prog.obeys_bind.mpr <| (obeys_sendSCPFile _ info preserve hφ').mono fun err φ hφ => ?_
        cases err with
        | some err => exact obeys_finish_source hφ.1
        | none => exact hφ.2 rfl
      | other => exact hφ'

theorem obeys_runSCPSource (options : Options) :
    (runSCPSource options).Obeys framing .idle (@Ends _ _ system SourceReady fun _ => True) := by
  refine Prog.obeys_bind.mpr <| (obeys_idle (quiet_readSCPResponse.mono fun _ => noFile_of_quiet)).mono ?_
  rintro err _ rfl
  cases err with
  | some err => exact obeys_finish_source trivial
  | none =>
  refine Prog.obeys_perform_bind.mpr ⟨nofun, fun info => ?_⟩
  rcases (info : Except Message FileInfo) with err | info
  · exact obeys_refuse_idle err
  · show Prog.Obeys framing .idle (sendTarget options info) _
    unfold sendTarget
    split_ifs with hkind hrecursive
    · refine Prog.obeys_bind.mpr <|
        (obeys_sendSCPDir _ info options.preserve Calm.idle).mono fun result φ hφ => ?_
      cases result with
      | error err => exact obeys_finish_source hφ.sound
      | ok children => exact hφ
    · exact obeys_refuse_idle _
    · refine Prog.obeys_bind.mpr <|
        (obeys_sendSCPFile _ info options.preserve Calm.idle).mono fun err φ hφ => ?_
      exact obeys_finish_source hφ.1

/-- Each iteration of the source obeys. -/
theorem source_follows : system.Follows framing (fun _ => .idle) SourceReady fun _ => True where
  code task φ hready := by
    cases task with
    | runSCP args => exact hready.elim
    | run options =>
      obtain ⟨hsource, rfl⟩ := hready
      show (if options.sink then runSCPSink options else runSCPSource options).Obeys _ _ _
      rw [hsource]
      exact obeys_runSCPSource options
    | sink s => exact hready.elim
    | source preserve frames => exact obeys_sourceNext preserve frames hready
  started _ _ _ _ h := by cases h

end Programs

/-! ## Whole sessions -/

/-- Within a segment, the monitor has seen its events. -/
theorem after_segment {events segment : List (Event interface)} {n : ℕ} {ending : Event interface}
    (h : Segment events n segment ending) : ∃ before rest, events = before ++ ending :: rest ∧
      framing.after .idle before = .accepted n segment := by
  obtain ⟨before, perm, name, rest, heq⟩ := h.split
  refine ⟨_, rest, heq, ?_⟩
  have hrun (segment : List (Event interface)) (hinside : ∀ event ∈ segment, ¬ Op.Closes event.op) :
      framing.after .idle (before ++ [⟨.write (.file perm n name), none⟩, ⟨.readByte, .ok 0⟩] ++ segment) =
        .accepted n segment := by
    induction segment using List.reverseRecOn with
    | nil => simp [Monitor.after, framing, Phase.next, header, okRead]
    | append_singleton segment event ih =>
      rw [← List.append_assoc, framing.after_concat, ih fun e he => hinside e (by simp [he])]
      exact next_accepted (hinside event (by simp))
  exact hrun segment h.inside

/-- In every session of the source, what is written between an accepted header of a file and the
next header, or the end, can be followed by the receiver exactly if the file is kept meanwhile. -/
theorem source_framed_iff {options : Options} (hsource : options.sink = false)
    {trace : List (ℕ × Event interface)} {c : system.Config} (hrun : system.Run (start options) trace c)
    {i n : ℕ} {segment : List (Event interface)} {ending : Event interface}
    (hsegment : Segment (eventsOf i trace) n segment ending) :
    Framed n (sent segment) (Op.EndsSession ending.op) ↔ Kept n segment := by
  have hready : ∀ task ∈ [Task.run options], SourceReady task .idle := by
    intro task htask
    obtain rfl := List.mem_singleton.mp htask
    exact ⟨hsource, rfl⟩
  obtain ⟨before, rest, heq, hafter⟩ := after_segment hsegment
  have hallowed := hrun.accepts_of_follows source_follows hready i before ending rest heq hsegment.ending
  rwa [hafter] at hallowed

/-- A session up to the accepted header of the file `f` of five bytes. -/
def accepting : List (Event interface) :=
  [⟨.readByte, .ok 0⟩, ⟨.stat (str "f"), .ok ⟨.regular, 420, 5, 0⟩⟩] ++
    [⟨.write (.file 420 5 (str "f")), none⟩, ⟨.readByte, .ok 0⟩]

theorem segment_accepting (segment : List (Event interface)) (ending : Event interface)
    (hinside : ∀ event ∈ segment, ¬ Op.Closes event.op) (hending : Op.Closes ending.op) :
    Segment (accepting ++ segment ++ [ending]) 5 segment ending :=
  ⟨⟨_, 420, str "f", [], rfl⟩, hinside, hending⟩

theorem run_accepting : ∃ c, system.Run (start { source := true, target := str "f" })
    (accepting.map (0, ·)) c ∧ c.threads = [(sendContent (str "f")).bind finish] := by
  have answers (op : Op) (answer : op.Answer) : system.Answers () op answer () := trivial
  have h0 := Run.start (c := start { source := true, target := str "f" })
  have h1 := h0.perform 0 rfl (.ok 0 : Except ReadError UInt8) (answers _ _)
  have h2 := h1.perform 0 rfl (.ok ⟨.regular, 420, 5, 0⟩ : Except Message FileInfo) (answers _ _)
  have h3 := h2.perform 0 rfl (none : Option Message) (answers _ _)
  have h4 := h3.perform 0 rfl (.ok 0 : Except ReadError UInt8) (answers _ _)
  exact ⟨_, h4, rfl⟩

/-- If the file is read as it was announced, the receiver can follow. -/
theorem source_framed_iff_kept : ∃ trace c segment ending,
    system.Run (start { source := true, target := str "f" }) trace c ∧
      Segment (eventsOf 0 trace) 5 segment ending ∧ Framed 5 (sent segment) (Op.EndsSession ending.op) := by
  obtain ⟨⟨world, threads⟩, h0, rfl⟩ := run_accepting
  have answers (op : Op) (answer : op.Answer) : system.Answers () op answer () := trivial
  have h1 := h0.perform 0 rfl (none : Option Message) (answers _ _)
  have h2 := h1.perform 0 rfl ((str "hello", none) : GoString × Option Message) (answers _ _)
  have h3 := h2.perform 0 rfl (none : Option Message) (answers _ _)
  have h4 := h3.perform 0 rfl (none : Option Message) (answers _ _)
  have h5 := h4.perform 0 rfl (.ok 0 : Except ReadError UInt8) (answers _ _)
  have h6 := h5.perform 0 rfl () (answers _ _)
  have hsegment := segment_accepting (delivered (str "f") (str "hello") ++ [⟨.readByte, .ok 0⟩])
    ⟨.returned none, ()⟩ (by simp [delivered, Op.Closes]) trivial
  refine ⟨_, _, _, _, h6, hsegment, (source_framed_iff (i := 0) rfl h6 hsegment).mpr ⟨rfl, ?_⟩⟩
  exact not_refused_of_silent fun event hmem => List.mem_singleton.mp hmem ▸ ⟨rfl, not_false⟩

/-- The error of `Open` for a file that is gone. -/
def vanished : Message := .text "open f: no such file or directory"

/-- If the file is gone when it is opened, its receiver finds an error where it expects content. -/
theorem source_not_framed_of_vanished : ∃ trace c segment ending,
    system.Run (start { source := true, target := str "f" }) trace c ∧
      Segment (eventsOf 0 trace) 5 segment ending ∧
        ¬ Framed 5 (sent segment) (Op.EndsSession ending.op) := by
  obtain ⟨⟨world, threads⟩, h0, rfl⟩ := run_accepting
  have answers (op : Op) (answer : op.Answer) : system.Answers () op answer () := trivial
  have h1 := h0.perform 0 rfl (some vanished : Option Message) (answers _ _)
  have h2 := h1.perform 0 rfl (none : Option Message) (answers _ _)
  have h3 := h2.perform 0 rfl () (answers _ _)
  have hsegment := segment_accepting
    [⟨.openSource (str "f"), some vanished⟩, ⟨.write (.failure vanished), none⟩]
    ⟨.returned (some vanished), ()⟩ (by simp [Op.Closes]) trivial
  refine ⟨_, _, _, _, h3, hsegment, fun hframed => ?_⟩
  change Framed 5 (([] : GoString).map .content ++ .status (.failure vanished) :: []) True at hframed
  rw [framed_status (Or.inr ⟨vanished, rfl⟩)] at hframed
  exact absurd hframed.1 (by decide)

end KubeSsh.Scp

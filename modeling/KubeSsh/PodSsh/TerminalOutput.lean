import KubeSsh.PodSsh.Session

/-!
# `pkg/podssh`: output on a terminal

With a PTY, `serverSession.Write` puts a carriage return before each newline that has none, by two
replacements one after the other. What it does is the scan `crlf`, which remembers whether the last
byte was a carriage return. Every call starts the scan anew, so a carriage return and a newline that
two calls write are not seen as a pair, and the newline gets another carriage return.
-/

namespace KubeSsh.PodSsh

open Strings

/-! ## The code -/

/-- The two replacements of `Write`. -/
def translateNewlines (p : GoString) : GoString :=
  let p := replaceAll [Byte.newline] [Byte.carriageReturn, Byte.newline] p
  replaceAll [Byte.carriageReturn, Byte.carriageReturn, Byte.newline]
    [Byte.carriageReturn, Byte.newline] p

/-- `serverSession.Write` (`session_handler.go:50-59`) over a channel whose `Write` changes a
state. -/
def ServerSession.write {σ : Type} (sess : ServerSession)
    (channelWrite : GoString → StateM σ (ℕ × Option Message)) (p : GoString) :
    StateM σ (ℕ × Option Message) := do
  match sess.pty with
  | none => channelWrite p
  | some _ =>
    let size := p.length
    let (n, err) ← channelWrite (translateNewlines p)
    return (min n size, err)

/-- A channel that accepts all bytes; its state is what was sent. -/
def acceptAll (p : GoString) : StateM GoString (ℕ × Option Message) := do
  modify (· ++ p)
  return (p.length, none)

/-- Consecutive calls of `Write`. -/
def ServerSession.writeAll (sess : ServerSession) : List GoString → StateM GoString Unit
  | [] => return ()
  | chunk :: rest => do
    let _ ← sess.write acceptAll chunk
    sess.writeAll rest

/-- What they send. -/
def ServerSession.output (sess : ServerSession) (chunks : List GoString) : GoString :=
  ((sess.writeAll chunks).run []).2

/-! ## The scan -/

/-- A carriage return is put before each newline that does not follow one; `after` says whether the
last byte before the text was one. -/
def crlf (after : Bool) : GoString → GoString
  | [] => []
  | c :: rest =>
    if c = Byte.newline ∧ after = false then
      Byte.carriageReturn :: Byte.newline :: crlf false rest
    else c :: crlf (c = Byte.carriageReturn) rest

theorem crlf_false_newline (rest : GoString) :
    crlf false (Byte.newline :: rest) = Byte.carriageReturn :: Byte.newline :: crlf false rest := rfl

theorem crlf_true_newline (rest : GoString) :
    crlf true (Byte.newline :: rest) = Byte.newline :: crlf false rest := rfl

theorem crlf_cons {c : UInt8} (hc : c ≠ Byte.newline) (after : Bool) (rest : GoString) :
    crlf after (c :: rest) = c :: crlf (c = Byte.carriageReturn) rest := by
  rw [crlf, if_neg (by simp [hc])]

/-- The text after the first replacement. -/
def expandNewlines (p : GoString) : GoString :=
  p.flatMap fun c => if c = Byte.newline then [Byte.carriageReturn, Byte.newline] else [c]

theorem replaceAll_newline (p : GoString) :
    replaceAll [Byte.newline] [Byte.carriageReturn, Byte.newline] p = expandNewlines p := by
  unfold replaceAll expandNewlines
  induction p with
  | nil => rfl
  | cons c rest ih =>
    rw [replaceFrom, List.flatMap_cons, ← ih]
    by_cases hc : c = Byte.newline
    · subst hc
      simp
    · simp [hc, Ne.symm hc]

theorem expandNewlines_newline (rest : GoString) :
    expandNewlines (Byte.newline :: rest)
      = Byte.carriageReturn :: Byte.newline :: expandNewlines rest := rfl

theorem expandNewlines_cons {c : UInt8} (hc : c ≠ Byte.newline) (rest : GoString) :
    expandNewlines (c :: rest) = c :: expandNewlines rest := by
  simp [expandNewlines, hc]

/-- Every newline has a carriage return before it, so the text does not begin with one. -/
theorem head?_expandNewlines (p : GoString) : (expandNewlines p).head? ≠ some Byte.newline := by
  cases p with
  | nil => simp [expandNewlines]
  | cons c rest =>
    by_cases hc : c = Byte.newline
    · subst hc
      rw [expandNewlines_newline, List.head?_cons]
      decide
    · rw [expandNewlines_cons hc]
      simpa using hc

/-- The second replacement, at the beginning of a text and behind a carriage return. -/
theorem replaceFrom_expandNewlines (p : GoString) :
    replaceFrom [Byte.carriageReturn, Byte.carriageReturn, Byte.newline]
        [Byte.carriageReturn, Byte.newline] 0 (expandNewlines p) = crlf false p ∧
      replaceFrom [Byte.carriageReturn, Byte.carriageReturn, Byte.newline]
        [Byte.carriageReturn, Byte.newline] 0 (Byte.carriageReturn :: expandNewlines p)
          = Byte.carriageReturn :: crlf true p := by
  induction p with
  | nil => exact ⟨rfl, rfl⟩
  | cons c rest ih =>
    obtain ⟨hstart, hbehind⟩ := ih
    by_cases hnewline : c = Byte.newline
    · subst hnewline
      rw [expandNewlines_newline, crlf_false_newline, crlf_true_newline, ← hstart]
      -- behind a carriage return the three bytes are found, and the newline keeps one of the two
      exact ⟨rfl, rfl⟩
    · rw [expandNewlines_cons hnewline, crlf_cons hnewline, crlf_cons hnewline]
      by_cases hreturn : c = Byte.carriageReturn
      · subst hreturn
        refine ⟨hbehind, ?_⟩
        rw [replaceFrom, if_neg, hbehind]
        · rfl
        · have hhead := head?_expandNewlines rest
          cases hrest : expandNewlines rest with
          | nil => decide
          | cons d tail =>
            have hd : Byte.newline ≠ d := by
              rintro rfl
              exact hhead (by rw [hrest, List.head?_cons])
            simp [List.isPrefixOf, hd]
      · have hd : Byte.carriageReturn ≠ c := Ne.symm hreturn
        rw [decide_eq_false hreturn, ← hstart]
        constructor
        · rw [replaceFrom, if_neg (by simp [List.isPrefixOf, hd])]
        · rw [replaceFrom, if_neg (by simp [List.isPrefixOf, hd]), replaceFrom,
            if_neg (by simp [List.isPrefixOf, hd])]

/-- What the two replacements amount to. -/
theorem translateNewlines_eq (p : GoString) : translateNewlines p = crlf false p := by
  unfold translateNewlines
  rw [replaceAll_newline]
  exact (replaceFrom_expandNewlines p).1

/-! ## Consecutive calls -/

/-- The calls send what each of them makes of its bytes. -/
theorem output_eq {sess : ServerSession} (hpty : sess.pty ≠ none) (chunks : List GoString) :
    sess.output chunks = chunks.flatMap (crlf false) := by
  obtain ⟨pty, hpty⟩ := Option.ne_none_iff_exists'.mp hpty
  have hwrite : ∀ (chunk sent : GoString),
      ((sess.write acceptAll chunk).run sent).2 = sent ++ crlf false chunk := by
    intro chunk sent
    unfold ServerSession.write
    rw [hpty, ← translateNewlines_eq]
    rfl
  have hall : ∀ sent, ((sess.writeAll chunks).run sent).2 = sent ++ chunks.flatMap (crlf false) := by
    induction chunks with
    | nil =>
      intro sent
      exact (List.append_nil sent).symm
    | cons chunk rest ih =>
      intro sent
      change ((sess.writeAll rest).run ((sess.write acceptAll chunk).run sent).2).2 = _
      rw [ih, hwrite, List.flatMap_cons, List.append_assoc]
  exact hall []

/-- Whether a text ends with a carriage return; `after` says it for the text before it. -/
def endsWithReturn (after : Bool) (p : GoString) : Bool :=
  match p.getLast? with
  | none => after
  | some c => c = Byte.carriageReturn

theorem endsWithReturn_cons (after : Bool) (c : UInt8) (rest : GoString) :
    endsWithReturn after (c :: rest) = endsWithReturn (c = Byte.carriageReturn) rest := by
  unfold endsWithReturn
  cases rest with
  | nil => rfl
  | cons d tail => rw [List.getLast?_cons_cons, List.getLast?_cons]

theorem endsWithReturn_append (after : Bool) (p q : GoString) :
    endsWithReturn after (p ++ q) = endsWithReturn (endsWithReturn after p) q := by
  induction p generalizing after with
  | nil => rfl
  | cons c rest ih => rw [List.cons_append, endsWithReturn_cons, ih, endsWithReturn_cons]

/-- The scan of a text that is written in two parts. -/
theorem crlf_append (after : Bool) (p q : GoString) :
    crlf after (p ++ q) = crlf after p ++ crlf (endsWithReturn after p) q := by
  induction p generalizing after with
  | nil => rfl
  | cons c rest ih =>
    rw [List.cons_append, endsWithReturn_cons]
    by_cases hc : c = Byte.newline
    · subst hc
      cases after with
      | false => rw [crlf_false_newline, crlf_false_newline, ih]; rfl
      | true => rw [crlf_true_newline, crlf_true_newline, ih]; rfl
    · rw [crlf_cons hc, crlf_cons hc, ih, List.cons_append]

/-- A scan that starts anew differs from one that goes on in one byte at most. -/
theorem crlf_false_eq (p : GoString) :
    crlf false p = (if p.head? = some Byte.newline then [Byte.carriageReturn] else []) ++ crlf true p := by
  cases p with
  | nil => rfl
  | cons c rest =>
    by_cases hc : c = Byte.newline
    · subst hc
      rw [crlf_false_newline, crlf_true_newline, List.head?_cons, if_pos rfl]
      rfl
    · rw [crlf_cons hc, crlf_cons hc, List.head?_cons, if_neg (by simpa using hc)]
      rfl

/-- No call begins with a newline behind a carriage return, where `after` says whether there is one
before the first call. -/
def Unsplit (after : Bool) (chunks : List GoString) : Prop :=
  ∀ before chunk rest, chunks = before ++ chunk :: rest →
    ¬ (endsWithReturn after before.flatten = true ∧ chunk.head? = some Byte.newline)

theorem unsplit_cons {after : Bool} {chunk : GoString} {rest : List GoString} :
    Unsplit after (chunk :: rest) ↔ ¬ (after = true ∧ chunk.head? = some Byte.newline) ∧
      Unsplit (endsWithReturn after chunk) rest := by
  constructor
  · intro h
    refine ⟨h [] chunk rest rfl, ?_⟩
    intro before chunk' rest' hrest
    have := h (chunk :: before) chunk' rest' (by rw [hrest]; rfl)
    rwa [List.flatten_cons, endsWithReturn_append] at this
  · rintro ⟨hfirst, hrest⟩ before chunk' rest' heq
    cases before with
    | nil =>
      obtain ⟨rfl, rfl⟩ := List.cons.inj heq
      exact hfirst
    | cons first before =>
      obtain ⟨rfl, rfl⟩ := List.cons.inj heq
      rw [List.flatten_cons, endsWithReturn_append]
      exact hrest before chunk' rest' rfl

/-- Calls send at least what one call sends. -/
theorem length_crlf_le (after : Bool) (chunks : List GoString) :
    (crlf after chunks.flatten).length ≤ (chunks.flatMap (crlf false)).length := by
  induction chunks generalizing after with
  | nil => exact le_rfl
  | cons chunk rest ih =>
    have hchunk : (crlf after chunk).length ≤ (crlf false chunk).length := by
      cases after with
      | false => exact le_rfl
      | true =>
        rw [crlf_false_eq, List.length_append]
        omega
    rw [List.flatten_cons, crlf_append, List.flatMap_cons, List.length_append, List.length_append]
    exact Nat.add_le_add hchunk (ih _)

/-- Calls send what one call sends exactly if none begins with a newline behind a carriage
return. -/
theorem flatMap_crlf_eq_iff (after : Bool) (chunks : List GoString) :
    chunks.flatMap (crlf false) = crlf after chunks.flatten ↔ Unsplit after chunks := by
  induction chunks generalizing after with
  | nil => simp [Unsplit, crlf]
  | cons chunk rest ih =>
    rw [List.flatMap_cons, List.flatten_cons, crlf_append, unsplit_cons, ← ih]
    by_cases hsplit : after = true ∧ chunk.head? = some Byte.newline
    · -- the newline gets another carriage return, and no later call makes up for it
      obtain ⟨rfl, hhead⟩ := hsplit
      refine ⟨fun heq => ?_, fun h => absurd ⟨rfl, hhead⟩ h.1⟩
      have hlength := congrArg List.length heq
      have hle := length_crlf_le (endsWithReturn true chunk) rest
      rw [crlf_false_eq, if_pos hhead] at hlength
      simp only [List.length_append, List.length_singleton] at hlength
      omega
    · have hsame : crlf false chunk = crlf after chunk := by
        cases after with
        | false => rfl
        | true =>
          rw [crlf_false_eq, if_neg fun hhead => hsplit ⟨rfl, hhead⟩]
          rfl
      rw [hsame, List.append_cancel_left_eq]
      exact ⟨fun h => ⟨hsplit, h⟩, fun h => h.2⟩

/-- On a session with a PTY, consecutive calls of `Write` send what one call of the whole text
sends, exactly if no call begins with a newline right behind a carriage return that an earlier call
wrote. -/
theorem output_eq_whole_iff {sess : ServerSession} (hpty : sess.pty ≠ none)
    (chunks : List GoString) : sess.output chunks = sess.output [chunks.flatten] ↔
      ∀ before chunk rest, chunks = before ++ chunk :: rest →
        before.flatten.getLast? = some Byte.carriageReturn → chunk.head? ≠ some Byte.newline := by
  rw [output_eq hpty, output_eq hpty, List.flatMap_singleton, flatMap_crlf_eq_iff]
  have hends : ∀ p : GoString,
      endsWithReturn false p = true ↔ p.getLast? = some Byte.carriageReturn := by
    intro p
    unfold endsWithReturn
    cases p.getLast? <;> simp
  simp only [Unsplit, hends, not_and, ne_eq]

/-- A session with a PTY. -/
def terminalSession : ServerSession where
  channel := 0
  pty := some { term := str "xterm", window := ⟨80, 24⟩ }

theorem output_eq_whole_after_newline :
    terminalSession.output [str "one\n", str "two\n"] = terminalSession.output [str "one\ntwo\n"] :=
  (output_eq_whole_iff (show terminalSession.pty ≠ none by decide) [str "one\n", str "two\n"]).mpr (by
    intro before chunk rest heq
    rcases before with _ | ⟨first, before⟩
    · simp
    · obtain ⟨rfl, hrest⟩ := List.cons.inj heq
      rcases before with _ | ⟨second, before⟩
      · obtain ⟨rfl, rfl⟩ := List.cons.inj hrest
        decide
      · simp at hrest)

/-- A carriage return and a newline in two calls: the newline gets another carriage return. -/
theorem output_of_split_pair :
    terminalSession.output [[Byte.carriageReturn], [Byte.newline]]
        = [Byte.carriageReturn, Byte.carriageReturn, Byte.newline] ∧
      terminalSession.output [[Byte.carriageReturn, Byte.newline]]
        = [Byte.carriageReturn, Byte.newline] := by
  decide

end KubeSsh.PodSsh

import KubeSsh.Common.GoString

/-!
# What a shell starts for a command line

Token recognition of the POSIX shell command language, with quoting, and from it what a shell may
start for a command line: the commands between control operators, redirections and command
substitutions. A line that starts at most one command, and only one of a given kind, is recognized
on its tokens.

A line of the text that ends inside of quotes is not run, the lines before it are. Where a line can
have a syntax error for another reason, it is taken to be run. The body of a command substitution is
skipped: a line that has one starts more than one command in any case. So is an arithmetic
expansion, a parameter expansion with an operator, whose word may have a substitution and whose
quotes shells read differently, and `$'`, which not all shells know. They all count as
substitutions, wherever they end. Every other dollar sign that is not quoted is read as the start of
a parameter expansion.
-/

namespace KubeSsh

namespace Byte

def tab : UInt8 := 9
def space : UInt8 := 32
def doubleQuote : UInt8 := 34
def hash : UInt8 := 35
def dollar : UInt8 := 36
def ampersand : UInt8 := 38
def singleQuote : UInt8 := 39
def lparen : UInt8 := 40
def rparen : UInt8 := 41
def semicolon : UInt8 := 59
def less : UInt8 := 60
def greater : UInt8 := 62
def lsquare : UInt8 := 91
def backslash : UInt8 := 92
def backquote : UInt8 := 96
def lbrace : UInt8 := 123
def bar : UInt8 := 124
def rbrace : UInt8 := 125

end Byte

namespace Shell

/-! ## Token recognition -/

/-- What the bytes of a command line can be inside of. -/
inductive Context
  | single
  | double
  /-- Inside of the braces of a parameter expansion. -/
  | brace
  /-- Inside of the parentheses of a substitution. -/
  | paren
  | backquote
  | comment
  /-- Right after a backslash. -/
  | escape
  /-- Right after a dollar sign. -/
  | dollar
deriving DecidableEq

/-- A part of a word. -/
inductive Part
  | byte (value : UInt8) (quoted : Bool)
  /-- A quotation mark: it makes a word even if nothing is quoted. -/
  | quote
  /-- A parameter expansion; whatever it expands to may be split into several words. -/
  | parameter
deriving DecidableEq

/-- A word, before expansion. -/
abbrev Word := List Part

/-- What the shell recognizes at a place of the command line. -/
inductive Mark
  | part (p : Part)
  | blank
  /-- A control operator or a newline. -/
  | control
  | redirect
  /-- A command substitution, or an expansion that may have one. -/
  | substitution
deriving DecidableEq

/-- The bytes before which a backslash quotes inside double quotes. -/
def escapedInDouble : List UInt8 := [Byte.dollar, Byte.backquote, Byte.doubleQuote, Byte.backslash]

def controlBytes : List UInt8 :=
  [Byte.newline, Byte.semicolon, Byte.ampersand, Byte.bar, Byte.lparen, Byte.rparen]

/-- The contexts at a place of the command line, innermost first, and whether a word could start
there. -/
structure State where
  contexts : List Context := []
  start : Bool := true
deriving DecidableEq

/-- A byte outside of all quotes. -/
def stepBare (start : Bool) (b : UInt8) : State × List Mark :=
  if b = Byte.doubleQuote then (⟨[.double], false⟩, [.part .quote])
  else if b = Byte.singleQuote then (⟨[.single], false⟩, [.part .quote])
  else if b = Byte.space ∨ b = Byte.tab then (⟨[], true⟩, [.blank])
  else if b ∈ controlBytes then (⟨[], true⟩, [.control])
  else if b = Byte.less ∨ b = Byte.greater then (⟨[], true⟩, [.redirect])
  else if b = Byte.hash ∧ start then (⟨[.comment], true⟩, [])
  else (⟨[], false⟩, [.part (.byte b false)])

/-- A byte where backslashes, expansions and substitutions are recognized. -/
def stepExpanding (contexts : List Context) (start : Bool) (b : UInt8) : State × List Mark :=
  if b = Byte.backslash then (⟨.escape :: contexts, start⟩, [])
  else if b = Byte.dollar then (⟨.dollar :: contexts, false⟩, [])
  else if b = Byte.backquote then (⟨.backquote :: contexts, false⟩, [.substitution])
  else match contexts with
    | [] => stepBare start b
    | .double :: outer =>
      if b = Byte.doubleQuote then (⟨outer, false⟩, [.part .quote])
      else (⟨contexts, false⟩, [.part (.byte b true)])
    | .paren :: outer =>
      if b = Byte.rparen then (⟨outer, false⟩, [])
      else if b = Byte.lparen then (⟨.paren :: contexts, false⟩, [])
      else if b = Byte.doubleQuote then (⟨.double :: contexts, false⟩, [])
      else if b = Byte.singleQuote then (⟨.single :: contexts, false⟩, [])
      else (⟨contexts, false⟩, [])
    | _ => (⟨contexts, false⟩, [])

/-- A byte that a name can have. -/
def isNameByte (b : UInt8) : Bool :=
  (97 ≤ b && b ≤ 122) || (65 ≤ b && b ≤ 90) || (48 ≤ b && b ≤ 57) || b = 95

/-- One byte of the command line. -/
def step (s : State) (b : UInt8) : State × List Mark :=
  match s.contexts with
  | .comment :: outer =>
    if b = Byte.newline then (⟨outer, true⟩, [.control]) else (s, [])
  | .single :: outer =>
    if b = Byte.singleQuote then (⟨outer, false⟩, [.part .quote])
    else (s, [.part (.byte b true)])
  | .brace :: outer =>
    if b = Byte.rbrace then (⟨outer, false⟩, [])
    -- an operator of the expansion
    else if ¬ isNameByte b then (⟨outer, false⟩, [.substitution])
    else (s, [])
  | .backquote :: outer =>
    if b = Byte.backslash then (⟨.escape :: s.contexts, false⟩, [])
    else if b = Byte.backquote then (⟨outer, false⟩, [])
    else (s, [])
  | .escape :: outer =>
    -- a backslash and a newline are removed before words are recognized
    if b = Byte.newline then (⟨outer, s.start⟩, [])
    else if outer.head? = some .double ∧ b ∉ escapedInDouble then
      let (s', marks) := stepExpanding outer false b
      (s', .part (.byte Byte.backslash true) :: marks)
    else (⟨outer, false⟩, [.part (.byte b true)])
  | .dollar :: outer =>
    if b = Byte.lparen then (⟨.paren :: outer, false⟩, [.substitution])
    else if b = Byte.lbrace then (⟨.brace :: outer, false⟩, [.part .parameter])
    else
      let (s', marks) := stepExpanding outer false b
      if b = Byte.lsquare ∨ (b = Byte.singleQuote ∧ outer.head? ≠ some .double) then
        (s', .substitution :: marks)
      else (s', .part .parameter :: marks)
  | contexts => stepExpanding contexts s.start b

/-- Whether a mark counts for the command line: what is inside of an expansion or a substitution
does not, except for the substitutions there. -/
def State.shows (s : State) (mark : Mark) : Bool :=
  mark = .substitution ∨ ∀ context ∈ s.contexts, context ∉ [.brace, .paren, .backquote]

/-- The end of the command line, and whether it is outside of quotes. -/
def State.finish (s : State) : Bool × List Mark :=
  (.single ∉ s.contexts ∧ .double ∉ s.contexts,
    match s.contexts with
    | [.escape] => [.part (.byte Byte.backslash true)]
    | [.dollar] => [.part .parameter]
    | _ => [])

/-- The marks of the rest of a command line, and whether its first line is complete. Of a line that
is not, only the substitutions count. -/
def lexFrom (s : State) : GoString → Bool × List Mark
  | [] => s.finish
  | b :: rest =>
    let shown := (step s b).2.filter s.shows
    let (complete, marks) := lexFrom (step s b).1 rest
    if complete ∨ (b = Byte.newline ∧ .control ∈ shown) then (true, shown ++ marks)
    else (false, shown.filter (· = .substitution) ++ marks)

/-- The marks of a command line. -/
def lex (line : GoString) : List Mark := (lexFrom {} line).2

/-! ## Commands and words -/

/-- The words: the runs of marks that are parts of words. -/
def words : List Mark → List Word
  | [] => []
  | .part p :: rest =>
    match rest, words rest with
    | .part _ :: _, word :: others => (p :: word) :: others
    | _, others => [p] :: others
  | _ :: rest => words rest

/-- The bytes of a word that has no parameter expansion. -/
def literal (word : Word) : Option GoString :=
  if .parameter ∈ word then none
  else some (word.filterMap fun
    | .byte value _ => some value
    | _ => none)

/-- The part is a byte that a name can have. -/
def Part.isName : Part → Bool
  | .byte b false => isNameByte b
  | _ => false

/-- The word assigns a variable: an unquoted name and an equals sign. -/
def isAssignment (word : Word) : Bool :=
  let name := word.takeWhile Part.isName
  (match name with
    | .byte b _ :: _ => !(48 ≤ b && b ≤ 57)
    | _ => false) &&
  (word.drop name.length).head? = some (.byte Byte.equals false)

/-- The program of a command, if it is spelled out: its first word that is not an assignment. -/
def program (command : List Word) : Option GoString :=
  (command.dropWhile isAssignment).head?.bind literal

example : program (words (lex (str "A=1 '/bin/s'cp \"x;\"\\; # y"))) = some (str "/bin/scp") := by
  decide

/-! ## What the shell starts -/

inductive Start
  /-- A command; next to a redirection its words include the target. -/
  | command (words : List Word)
  | redirect
  | substitution
deriving DecidableEq

/-- The redirections and substitutions. -/
def effects (marks : List Mark) : List Start :=
  marks.filterMap fun
    | .redirect => some .redirect
    | .substitution => some .substitution
    | _ => none

/-- What the text between two control operators starts. -/
def commandStarts (marks : List Mark) : List Start :=
  effects marks ++ if words marks = [] then [] else [.command (words marks)]

/-- What a command line starts, if all of its commands are run. -/
def starts (marks : List Mark) : List Start := (marks.splitOn .control).flatMap commandStarts

/-- At most one command is started, and one with the given property. -/
def StartsOnly (P : List Word → Prop) (marks : List Mark) : Prop :=
  starts marks = [] ∨ ∃ command, starts marks = [.command command] ∧ P command

/-- No control operator stands between two words. -/
def Together (marks : List Mark) : Prop :=
  ∀ p q, ¬ List.Sublist [.part p, .control, .part q] marks

variable {marks command : List Mark}

theorem words_eq_nil_iff : words marks = [] ↔ ∀ p, .part p ∉ marks := by
  induction marks with
  | nil => simp [words]
  | cons mark rest ih =>
    cases mark with
    | part p =>
      refine iff_of_false ?_ fun h => h p (by simp)
      unfold words
      split <;> simp
    | _ => simpa [words] using ih

/-- A control operator ends a word. -/
theorem words_append_control (before after : List Mark) :
    words (before ++ .control :: after) = words before ++ words after := by
  induction before with
  | nil => simp [words]
  | cons mark before ih =>
    cases mark with
    | part p =>
      match before with
      | [] => simp [words]
      | .part q :: before =>
        -- the word that starts at `q` is extended by `p` on both sides
        cases hwords : words (.part q :: before) with
        | nil => exact absurd (words_eq_nil_iff.mp hwords q) (by simp)
        | cons word others =>
          rw [hwords] at ih
          simp only [List.cons_append] at ih ⊢
          simp only [words] at ih hwords ⊢
          simp [ih, hwords]
      | .blank :: _ | .control :: _ | .redirect :: _ | .substitution :: _ =>
        simpa [words] using ih
    | _ => simpa [words] using ih

/-- Marks are read command by command. -/
theorem commands_induction {motive : List Mark → Prop}
    (last : ∀ marks, .control ∉ marks → motive marks)
    (next : ∀ command rest, .control ∉ command → motive rest →
      motive (command ++ .control :: rest)) (marks : List Mark) : motive marks := by
  by_cases hmem : .control ∈ marks
  · obtain ⟨command, rest, hmarks, hcommand⟩ := List.eq_append_cons_of_mem hmem
    rw [hmarks]
    exact next command rest hcommand (commands_induction last next rest)
  · exact last marks hmem
termination_by marks.length
decreasing_by
  rw [hmarks, List.length_append, List.length_cons]
  omega

/-- The words of the commands that have any. -/
def commands (marks : List Mark) : List (List Word) :=
  ((marks.splitOn .control).map words).filter (· ≠ [])

theorem commands_of_notMem (h : .control ∉ marks) :
    commands marks = if words marks = [] then [] else [words marks] := by
  rw [commands, List.splitOn_eq_singleton h]
  by_cases hwords : words marks = [] <;> simp [hwords]

theorem commands_append_control (h : .control ∉ command) (rest : List Mark) :
    commands (command ++ .control :: rest)
      = (if words command = [] then [] else [words command]) ++ commands rest := by
  rw [commands, List.splitOn_append_cons_self_of_not_mem h]
  by_cases hwords : words command = [] <;> simp [commands, hwords]

theorem flatten_commands (marks : List Mark) : (commands marks).flatten = words marks := by
  induction marks using commands_induction with
  | last marks h =>
    rw [commands_of_notMem h]
    split <;> simp_all
  | next command rest h ih =>
    rw [commands_append_control h, words_append_control, List.flatten_append, ih]
    split <;> simp_all

theorem commands_eq_nil_iff : commands marks = [] ↔ words marks = [] := by
  rw [← flatten_commands]
  constructor
  · intro h
    simp [h]
  · intro h
    refine List.eq_nil_iff_forall_not_mem.mpr fun command hmem => ?_
    have hne : command ≠ [] := by simpa using (List.mem_filter.mp hmem).2
    exact hne (List.flatten_eq_nil_iff.mp h command hmem)

theorem sublist_append_control {p q : Part} {rest : List Mark} (h : .control ∉ command) :
    List.Sublist [.part p, .control, .part q] (command ++ .control :: rest) ↔
      (.part p ∈ command ∧ .part q ∈ rest) ∨ List.Sublist [.part p, .control, .part q] rest := by
  constructor
  · intro hsub
    obtain ⟨l1, l2, hl, h1, h2⟩ := List.sublist_append_iff.mp hsub
    match l1 with
    | [] =>
      rw [← show _ = l2 from hl] at h2
      cases h2 with
      | cons _ h2 => exact .inr h2
    | [mark] =>
      obtain ⟨rfl, rfl⟩ := List.cons.inj hl
      exact .inl ⟨List.singleton_sublist.mp h1,
        List.singleton_sublist.mp (List.cons_sublist_cons.mp h2)⟩
    | _ :: mark :: _ =>
      obtain ⟨rfl, -⟩ := List.cons.inj (List.cons.inj hl).2
      exact absurd (h1.subset (by simp)) h
  · rintro (⟨hp, hq⟩ | hsub)
    · exact (List.singleton_sublist.mpr hp).append ((List.singleton_sublist.mpr hq).cons_cons _)
    · exact (hsub.cons _).trans (List.sublist_append_right _ _)

theorem together_append_control {rest : List Mark} (h : .control ∉ command) :
    Together (command ++ .control :: rest) ↔
      (words command = [] ∨ words rest = []) ∧ Together rest := by
  simp only [Together, sublist_append_control h, not_or, not_and, words_eq_nil_iff]
  constructor
  · refine fun hall => ⟨?_, fun p q => (hall p q).2⟩
    by_cases hp : ∃ p, .part p ∈ command
    · obtain ⟨p, hp⟩ := hp
      exact .inr fun q => (hall p q).1 hp
    · exact .inl (not_exists.mp hp)
  · rintro ⟨hparts, hrest⟩ p q
    refine ⟨fun hp hq => ?_, hrest p q⟩
    rcases hparts with hparts | hparts
    · exact hparts p hp
    · exact hparts q hq

/-- Words stand together exactly when they all belong to one command. -/
theorem together_iff (marks : List Mark) : Together marks ↔ (commands marks).length ≤ 1 := by
  induction marks using commands_induction with
  | last marks h =>
    refine iff_of_true (fun p q hsub => h (hsub.subset (by simp))) ?_
    rw [commands_of_notMem h]
    split <;> simp
  | next command rest h ih =>
    rw [together_append_control h, commands_append_control h, ih]
    by_cases hcommand : words command = []
    · simp [hcommand]
    · have hrest : words rest = [] ↔ commands rest = [] := commands_eq_nil_iff.symm
      rw [hrest]
      cases commands rest <;> simp [hcommand]

instance : DecidablePred Together := fun marks => decidable_of_iff _ (together_iff marks).symm

theorem effects_append_control (before after : List Mark) :
    effects (before ++ .control :: after) = effects before ++ effects after := by
  simp [effects]

theorem effects_eq_nil_iff :
    effects marks = [] ↔ .redirect ∉ marks ∧ .substitution ∉ marks := by
  induction marks with
  | nil => simp [effects]
  | cons mark rest ih =>
    unfold effects at ih ⊢
    cases mark <;> simp [ih]

/-- Without redirections and substitutions, what is started are the commands. -/
theorem starts_eq_commands (h : effects marks = []) :
    starts marks = (commands marks).map .command := by
  induction marks using commands_induction with
  | last marks hcontrol =>
    rw [starts, List.splitOn_eq_singleton hcontrol, commands_of_notMem hcontrol,
      List.flatMap_singleton, commandStarts, h]
    split <;> rfl
  | next command rest hcontrol ih =>
    rw [effects_append_control, List.append_eq_nil_iff] at h
    rw [starts, List.splitOn_append_cons_self_of_not_mem hcontrol, List.flatMap_cons, ← starts,
      ih h.2, commands_append_control hcontrol, commandStarts, h.1, List.map_append]
    split <;> rfl

/-- Redirections and substitutions are started wherever they stand. -/
theorem effects_subset_starts (marks : List Mark) : effects marks ⊆ starts marks := by
  induction marks using commands_induction with
  | last marks h =>
    rw [starts, List.splitOn_eq_singleton h, List.flatMap_singleton, commandStarts]
    exact List.subset_append_left _ _
  | next command rest h ih =>
    rw [effects_append_control, starts, List.splitOn_append_cons_self_of_not_mem h,
      List.flatMap_cons, ← starts, commandStarts]
    exact List.append_subset.mpr ⟨fun _ hmem => by simp [hmem], fun _ hmem => by simp [ih hmem]⟩

theorem effects_eq_nil_of_startsOnly {P : List Word → Prop}
    (h : StartsOnly P marks) : effects marks = [] := by
  refine List.eq_nil_iff_forall_not_mem.mpr fun start hmem => ?_
  have hcommand : ∀ command, start ≠ .command command := by
    rintro command rfl
    obtain ⟨mark, -, hmark⟩ := List.mem_filterMap.mp hmem
    cases mark <;> cases hmark
  have hstart := effects_subset_starts marks hmem
  rcases h with h | ⟨command, h, -⟩
  · rw [h] at hstart
    cases hstart
  · rw [h] at hstart
    exact hcommand command (List.mem_singleton.mp hstart)

/-- A line starts only a command of the given kind exactly when it has no redirection and no
substitution, its words stand together and they are such a command, if there are any. -/
theorem startsOnly_iff (P : List Word → Prop) (marks : List Mark) :
    StartsOnly P marks ↔ .redirect ∉ marks ∧ .substitution ∉ marks ∧ Together marks ∧
      (words marks = [] ∨ P (words marks)) := by
  rw [← and_assoc, ← effects_eq_nil_iff, together_iff, ← flatten_commands]
  by_cases heffects : effects marks = []
  · rw [StartsOnly, starts_eq_commands heffects]
    have hne : ∀ command ∈ commands marks, command ≠ [] := fun command hmem => by
      simpa using (List.mem_filter.mp hmem).2
    match hcommands : commands marks with
    | [] => simp [heffects]
    | [command] =>
      have : command ≠ [] := hne command (by simp [hcommands])
      simp [heffects, this]
    | _ :: _ :: _ => simp
  · exact iff_of_false (heffects ∘ effects_eq_nil_of_startsOnly) fun h => heffects h.1

end Shell

end KubeSsh

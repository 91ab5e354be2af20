import KubeSsh.PodSsh.Session
import KubeSsh.Gateway.SessionLimits
import Mathlib.Data.List.TakeWhile

/-!
# `pkg/podssh`: the environment of a command

The variables of a session reach its command as arguments of `env(1)`, in front of the shell.
`env(1)` has its own idea of arguments: those in front that start with a dash are options. A name
that a client chose and the policy allows may start with one, and then `env` reads the variable as
an option. `command_confined_iff` says which options do harm, for any `env(1)`.
-/

namespace KubeSsh.PodSsh

open Strings SshProtocol

/-! ## `env(1)` -/

/-- What an option of `env(1)` does to the arguments behind it. -/
inductive OptionEffect
  /-- They are read as they are; `env` may change the directory, a signal or unset a variable
  before. -/
  | keeps
  /-- The words stand in front of them: what `--split-string` finds in its text, behind options
  there. -/
  | splits (words : List GoString)
  /-- They are not run: `env` does not know the option or fails, or only prints something. -/
  | stops

/-- The options that an `env(1)` has; an image brings its own. -/
abbrev EnvOptions := GoString → OptionEffect

/-- What `env(1)` sets and runs. -/
structure EnvRun where
  assignments : List (GoString × GoString)
  /-- The program and its arguments. -/
  command : List GoString
deriving DecidableEq

/-- Behind the options, arguments with an equals sign are assignments, and the first other one is
the program. -/
def EnvRun.ofOperands (args : List GoString) : EnvRun where
  assignments := (args.takeWhile (·.contains Byte.equals)).filterMap (cut Byte.equals)
  command := args.dropWhile (·.contains Byte.equals)

/-- Arguments in front that start with a dash are options. -/
def EnvRun.ofArgs (options : EnvOptions) : List GoString → Option EnvRun
  | [] => some (.ofOperands [])
  | arg :: rest =>
    if (str "-").isPrefixOf arg then
      match options arg with
      | .keeps => EnvRun.ofArgs options rest
      | .splits words => some (.ofOperands (words ++ rest))
      | .stops => none
    else some (.ofOperands (arg :: rest))

/-- What an argument vector runs, if `env` gets that far. -/
def EnvRun.ofArgv (options : EnvOptions) : List GoString → Option EnvRun
  | [] => none
  | program :: args => if program = str "env" then ofArgs options args else some ⟨[], program :: args⟩

/-- Operands that are run as they stand have only assignments in front. -/
theorem EnvRun.command_ofOperands_iff {front command : List GoString} {program : GoString}
    (hprogram : Byte.equals ∉ program) :
    (EnvRun.ofOperands (front ++ program :: command)).command = program :: command ↔
      ∀ word ∈ front, Byte.equals ∈ word := by
  have hprogram' : ¬ program.contains Byte.equals = true := by simpa using hprogram
  unfold EnvRun.ofOperands
  dsimp only
  rw [List.dropWhile_append]
  split_ifs with hempty
  · rw [List.dropWhile_cons, if_neg hprogram']
    refine iff_of_true rfl fun word hword => ?_
    simpa using List.dropWhile_eq_nil_iff.mp (List.isEmpty_iff.mp hempty) word hword
  · -- some word is left in front of the program
    refine iff_of_false (fun h => hempty ?_) fun h => hempty ?_
    · have hlength := congrArg List.length h
      rw [List.length_append] at hlength
      exact List.isEmpty_iff.mpr (List.length_eq_zero_iff.mp (by omega))
    · exact List.isEmpty_iff.mpr (List.dropWhile_eq_nil_iff.mpr fun word hword => by
        simpa using h word hword)

theorem EnvRun.assignments_ofOperands {front command : List GoString} {program : GoString}
    (hfront : ∀ word ∈ front, Byte.equals ∈ word) (hprogram : Byte.equals ∉ program) :
    (EnvRun.ofOperands (front ++ program :: command)).assignments
      = front.filterMap (cut Byte.equals) := by
  have hprogram' : ¬ program.contains Byte.equals = true := by simpa using hprogram
  unfold EnvRun.ofOperands
  dsimp only
  rw [List.takeWhile_append_of_pos (fun word hword => by simpa using hfront word hword),
    List.takeWhile_cons, if_neg hprogram', List.append_nil]

/-! ## The variables of a session -/

/-- The test of `filterEnv` for one entry. -/
def Protocol.passes (p : Protocol) (entry : GoString) : Bool :=
  match cut Byte.equals entry with
  | none => false
  | some (key, _) => !equalFoldASCII key environmentSSHAuthSock && p.envAllowed key

theorem filterEnv_eq (p : Protocol) (envs : List GoString) :
    p.filterEnv envs = envs.filter p.passes := rfl

theorem passes_iff {p : Protocol} {entry : GoString} :
    p.passes entry = true ↔ ∃ key value, cut Byte.equals entry = some (key, value) ∧
      equalFoldASCII key environmentSSHAuthSock = false ∧ p.envAllowed key = true := by
  unfold Protocol.passes
  cases cut Byte.equals entry with
  | none => simp
  | some parts =>
    obtain ⟨key, value⟩ := parts
    simp

/-- A key that contains no equals sign is cut off as it was. -/
theorem cut_entry {key : GoString} (hkey : Byte.equals ∉ key) (value : GoString) :
    cut Byte.equals (key ++ [Byte.equals] ++ value) = some (key, value) :=
  cut_eq_some_iff.mpr ⟨by simp, hkey⟩

theorem not_passes_authSock (p : Protocol) (value : GoString) :
    p.passes (environmentSSHAuthSock ++ [Byte.equals] ++ value) = false := by
  rw [Protocol.passes, cut_entry (by decide)]
  rfl

/-- The variable with the socket of the agent forward, if there is one. -/
def authSockEntry (sess : ServerSession) : List GoString :=
  if sess.agentForwardSocket = [] then []
  else [environmentSSHAuthSock ++ [Byte.equals] ++ sess.agentForwardSocket]

/-- The variable with the terminal type, if there is one. -/
def termEntry (sess : ServerSession) : List GoString :=
  match sess.pty with
  | none => []
  | some pty => if pty.term = [] then [] else [str "TERM" ++ [Byte.equals] ++ pty.term]

/-- The variables of the command: what the policy lets through, then those of the gateway. -/
theorem sessionEnv_eq (p : Protocol) (sess : ServerSession) :
    p.sessionEnv sess = sess.env.filter p.passes ++ authSockEntry sess ++ termEntry sess := by
  have hoverride : (sess.env.filter p.passes).filter
      (fun item => !(environmentSSHAuthSock ++ [Byte.equals]).isPrefixOf item)
        = sess.env.filter p.passes := by
    rw [List.filter_eq_self]
    intro entry hentry
    have hpasses := (List.mem_filter.mp hentry).2
    rw [Bool.not_eq_true', ← Bool.not_eq_true, List.isPrefixOf_iff_prefix]
    rintro ⟨value, rfl⟩
    rw [not_passes_authSock] at hpasses
    cases hpasses
  have hterm : ∀ term, str "TERM=" ++ term = str "TERM" ++ [Byte.equals] ++ term := fun _ => rfl
  unfold Protocol.sessionEnv authSockEntry termEntry appendEnvOverride
  dsimp only
  rw [filterEnv_eq, hoverride]
  cases sess.pty with
  | none => by_cases hsocket : sess.agentForwardSocket = [] <;> simp [hsocket]
  | some pty =>
    dsimp only
    rw [hterm]
    by_cases hsocket : sess.agentForwardSocket = [] <;> by_cases hempty : pty.term = [] <;>
      simp [hsocket, hempty]

/-- A variable of the command: one that passed, the socket of the agent, or the terminal type. -/
theorem cut_of_mem_sessionEnv {p : Protocol} {sess : ServerSession} {entry : GoString}
    (h : entry ∈ p.sessionEnv sess) :
    ∃ key value, cut Byte.equals entry = some (key, value) ∧
      (equalFoldASCII key environmentSSHAuthSock = false ∧ p.envAllowed key = true ∨
        key = environmentSSHAuthSock ∧ value = sess.agentForwardSocket ∧ value ≠ [] ∨
        key = str "TERM") := by
  rw [sessionEnv_eq, List.mem_append, List.mem_append] at h
  obtain (hclient | hsocket) | hterm := h
  · obtain ⟨key, value, hcut, hname, hallowed⟩ := passes_iff.mp (List.mem_filter.mp hclient).2
    exact ⟨key, value, hcut, Or.inl ⟨hname, hallowed⟩⟩
  · unfold authSockEntry at hsocket
    split at hsocket
    · cases hsocket
    · rename_i hne
      rw [List.mem_singleton.mp hsocket]
      exact ⟨_, _, cut_entry (by decide) _, Or.inr (Or.inl ⟨rfl, rfl, hne⟩)⟩
  · unfold termEntry at hterm
    split at hterm
    · cases hterm
    split at hterm
    · cases hterm
    · rw [List.mem_singleton.mp hterm]
      exact ⟨_, _, cut_entry (by decide) _, Or.inr (Or.inr rfl)⟩

/-! ## What is run -/

/-- The variable may be set: the policy allows its name, or it is `TERM` or `SSH_AUTH_SOCK`, the
latter only with the socket of the agent forward. -/
def Settable (p : Protocol) (sess : ServerSession) (name value : GoString) : Prop :=
  (p.envAllowed name = true ∨ name = str "TERM" ∨ name = environmentSSHAuthSock) ∧
    (name = environmentSSHAuthSock → value = sess.agentForwardSocket ∧ value ≠ [])

/-- A session runs what it asked for: only variables are set that may be, and the program is the
default shell, without arguments or with the command. -/
structure Confined (p : Protocol) (sess : ServerSession) (run : EnvRun) : Prop where
  assignments : ∀ name value, (name, value) ∈ run.assignments → Settable p sess name value
  command : run.command = if sess.requestType = requestExec
    then [p.defaultShell, str "-c", sess.rawCmd] else [p.defaultShell]

/-- The word assigns a variable that may be set. -/
def Assigns (p : Protocol) (sess : ServerSession) (word : GoString) : Prop :=
  ∃ name value, cut Byte.equals word = some (name, value) ∧ Settable p sess name value

/-- Among the variables in front, those that `env(1)` reads as options do no harm: they keep the
arguments behind them, or the last of them puts assignments there that may be made. -/
def Harmless (options : EnvOptions) (p : Protocol) (sess : ServerSession) : List GoString → Prop
  | [] => True
  | entry :: rest => (str "-").isPrefixOf entry = true →
    match options entry with
    | .keeps => Harmless options p sess rest
    | .splits words => ∀ word ∈ words, Assigns p sess word
    | .stops => False

/-- The command of a session as a program and its arguments, behind the variables if there are
any. -/
theorem resolveSession_command (p : Protocol) (sess : ServerSession) :
    ∃ args, (p.resolveSession sess).2.command
        = (if p.sessionEnv sess = [] then [] else str "env" :: p.sessionEnv sess) ++
          p.defaultShell :: args ∧
      (p.defaultShell :: args = if sess.requestType = requestExec
        then [p.defaultShell, str "-c", sess.rawCmd] else [p.defaultShell]) := by
  unfold Protocol.resolveSession buildCommand
  by_cases hexec : sess.requestType = requestExec
  · exact ⟨[str "-c", sess.rawCmd], by simp [hexec], by simp [hexec]⟩
  · exact ⟨[], by simp [hexec], by simp [hexec]⟩

theorem assigns_of_mem_sessionEnv {p : Protocol} {sess : ServerSession} {entry : GoString}
    (h : entry ∈ p.sessionEnv sess) : Assigns p sess entry := by
  obtain ⟨name, value, hcut, hkey⟩ := cut_of_mem_sessionEnv h
  refine ⟨name, value, hcut, ?_⟩
  obtain ⟨hname, hallowed⟩ | ⟨hname, hvalue⟩ | rfl := hkey
  · refine ⟨Or.inl hallowed, ?_⟩
    rintro rfl
    exact absurd hname (by decide)
  · exact ⟨Or.inr (Or.inr hname), fun _ => hvalue⟩
  · exact ⟨Or.inr (Or.inl rfl), fun h => absurd h (by decide)⟩

theorem Assigns.equals_mem {p : Protocol} {sess : ServerSession} {word : GoString}
    (h : Assigns p sess word) : Byte.equals ∈ word := by
  obtain ⟨name, value, hcut, -⟩ := h
  rw [(cut_eq_some_iff.mp hcut).1]
  simp

section Confinement

variable {options : EnvOptions} {p : Protocol} {sess : ServerSession} {args : List GoString}
  (hargs : p.defaultShell :: args = if sess.requestType = requestExec
    then [p.defaultShell, str "-c", sess.rawCmd] else [p.defaultShell])
  (hshell : Byte.equals ∉ p.defaultShell)

include hargs hshell

/-- Operands are confined exactly if all of them in front of the shell are assignments that may be
made. -/
theorem confined_ofOperands_iff {front : List GoString} :
    Confined p sess (.ofOperands (front ++ p.defaultShell :: args)) ↔
      ∀ word ∈ front, Assigns p sess word := by
  constructor
  · intro h word hword
    have hfront := (EnvRun.command_ofOperands_iff hshell).mp (h.command.trans hargs.symm)
    have hassignments := h.assignments
    rw [EnvRun.assignments_ofOperands hfront hshell] at hassignments
    obtain ⟨⟨name, value⟩, hcut⟩ : ∃ parts, cut Byte.equals word = some parts :=
      Option.ne_none_iff_exists'.mp fun hnone => cut_eq_none_iff.mp hnone (hfront word hword)
    exact ⟨name, value, hcut, hassignments name value (List.mem_filterMap.mpr ⟨word, hword, hcut⟩)⟩
  · intro h
    have hfront : ∀ word ∈ front, Byte.equals ∈ word := fun word hword => (h word hword).equals_mem
    refine ⟨fun name value hmem => ?_,
      ((EnvRun.command_ofOperands_iff hshell).mpr hfront).trans hargs⟩
    rw [EnvRun.assignments_ofOperands hfront hshell] at hmem
    obtain ⟨word, hword, hcut⟩ := List.mem_filterMap.mp hmem
    obtain ⟨name', value', hcut', hsettable⟩ := h word hword
    obtain ⟨rfl, rfl⟩ := Prod.mk.inj (Option.some.inj (hcut.symm.trans hcut'))
    exact hsettable

/-- `env(1)` with variables that may be set in front of the shell. -/
theorem confined_ofArgs_iff (habsolute : p.defaultShell.head? = some Byte.slash)
    {env : List GoString} (henv : ∀ entry ∈ env, Assigns p sess entry) :
    (∃ run, EnvRun.ofArgs options (env ++ p.defaultShell :: args) = some run ∧ Confined p sess run)
      ↔ Harmless options p sess env := by
  induction env with
  | nil =>
    have hdash : (str "-").isPrefixOf p.defaultShell = false := by
      obtain ⟨rest, hrest⟩ := List.head?_eq_some_iff.mp habsolute
      rw [hrest]
      rfl
    refine iff_of_true ⟨_, ?_, (confined_ofOperands_iff hargs hshell).mpr henv⟩ trivial
    rw [List.nil_append, EnvRun.ofArgs, if_neg (by simp [hdash])]
  | cons entry rest ih =>
    obtain ⟨hentry, hrest⟩ := List.forall_mem_cons.mp henv
    rw [List.cons_append, EnvRun.ofArgs, Harmless]
    split_ifs with hdash
    · -- an option: what becomes of the other variables depends on it
      rw [forall_prop_of_true hdash]
      cases options entry with
      | keeps => exact ih hrest
      | splits words =>
        simp only [Option.some.injEq, exists_eq_left', ← List.append_assoc]
        rw [confined_ofOperands_iff hargs hshell, List.forall_mem_append]
        exact and_iff_left hrest
      | stops => simp
    · refine iff_of_true ⟨_, rfl, ?_⟩ fun h => absurd h hdash
      rw [← List.cons_append]
      exact (confined_ofOperands_iff hargs hshell).mpr henv

end Confinement

/-- The variables of the gateway do not start with a dash. -/
theorem harmless_gateway (options : EnvOptions) (p : Protocol) (sess : ServerSession) :
    Harmless options p sess (authSockEntry sess ++ termEntry sess) := by
  unfold authSockEntry termEntry
  split
  · split
    · trivial
    · split
      · trivial
      · exact fun h => absurd (show false = true from h) Bool.false_ne_true
  · exact fun h => absurd (show false = true from h) Bool.false_ne_true

theorem harmless_append {options : EnvOptions} {p : Protocol} {sess : ServerSession}
    {env after : List GoString} (hafter : Harmless options p sess after) :
    Harmless options p sess (env ++ after) ↔ Harmless options p sess env := by
  induction env with
  | nil => exact iff_of_true hafter trivial
  | cons entry rest ih =>
    rw [List.cons_append, Harmless, Harmless]
    cases options entry with
    | keeps => exact imp_congr_right fun _ => ih
    | splits words => rfl
    | stops => rfl

/-- A Pod connection under the default options, which allow all names. -/
def defaultProtocol : Protocol where
  target := { kind := Target.kindPod, options := [] }
  defaultShell := Gateway.newDefaultOptions.policy.defaults.defaultShell
  envAllowed := (Gateway.buildAccessSessionPolicy Gateway.newDefaultOptions none).envAllowed
    Gateway.asciiToUpper
  codec := CryptoSsh.plainCodec
  shlex _ := []

/-- Some options of GNU `env`: `--chdir` of a directory that exists, and `-S` with a text that has
no quotes, backslashes and dollar signs. -/
def gnuOptions (arg : GoString) : OptionEffect :=
  if (str "--chdir=").isPrefixOf arg then .keeps
  else if (str "-S").isPrefixOf arg then
    .splits ((((arg.drop 2).splitOn 32).filter (· ≠ [])).takeWhile
      fun word => ¬ (str "#").isPrefixOf word)
  else .stops

/-- A session whose client set variables and runs `id`. -/
def sessionWith (env : List GoString) : ServerSession where
  channel := 0
  started := true
  env := env
  rawCmd := str "id"
  requestType := requestExec

end KubeSsh.PodSsh

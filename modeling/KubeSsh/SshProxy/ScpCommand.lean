import KubeSsh.Common.Shell
import KubeSsh.Gateway.Operation
import KubeSsh.SshProxy.Plan

/-!
# What the `scp` capability lets a proxied client run

An `exec` request is classified by the words that go-shlex finds in its command, while the command
itself is forwarded and an upstream `sshd` hands it to a shell. The two readings agree only on some
commands: go-shlex splits at white space and knows neither control operators nor expansions.
-/

namespace KubeSsh.SshProxy

open Gateway SshProtocol CryptoSsh

/-- The program of the command is spelled out and its file name is `scp`. -/
def RunsScp (command : List Shell.Word) : Prop :=
  (Shell.program command).map pathBase = some (str "scp")

instance : DecidablePred RunsScp := fun _ => inferInstanceAs (Decidable (_ = _))

/-- A shell that is given the command line starts nothing, or one `scp`. -/
def RunsOnlyScp (line : GoString) : Prop := Shell.StartsOnly RunsScp (Shell.lex line)

/-- If the request is authorized for `scp`, the upstream shell runs only `scp` for the command that
is forwarded: the proxy sends the payload as it is. -/
def ScpGrantsOnlyScp (shlex : GoString → List GoString) (p : Protocol) (request : Request) : Prop :=
  ∀ plan operation line, p.planDownstreamRequest request = .ok plan →
    plan.operation = some operation →
    (connectionOperationSpec shlex p.target operation).capability = .scp →
    p.codec.unmarshalValue request.payload = .ok line → RunsOnlyScp line

/-- The command line has no redirection and no command substitution outside of quotes, no control
operator or newline between two of its words, and its first word that is not an assignment spells
out a file named `scp`. -/
def IsPlainScp (line : GoString) : Prop :=
  .redirect ∉ Shell.lex line ∧ .substitution ∉ Shell.lex line ∧ Shell.Together (Shell.lex line) ∧
    (Shell.words (Shell.lex line) = [] ∨ RunsScp (Shell.words (Shell.lex line)))

instance : DecidablePred IsPlainScp := fun _ => inferInstanceAs (Decidable (_ ∧ _ ∧ _ ∧ _))

theorem runsOnlyScp_iff {line : GoString} : RunsOnlyScp line ↔ IsPlainScp line :=
  Shell.startsOnly_iff RunsScp (Shell.lex line)

/-- The plan of an `exec` request. -/
theorem planDownstreamRequest_exec {p : Protocol} {request : Request} {line : GoString}
    (hexec : request.type = requestExec) (hline : p.codec.unmarshalValue request.payload = .ok line) :
    p.planDownstreamRequest request = .ok
      { operation := some
          { channelType := channelSession, requestType := request.type, command := line }
        effect := .session } := by
  rw [Protocol.planDownstreamRequest, hexec, if_neg (by decide), if_pos rfl, hline]

/-- go-shlex on commands without quotes, backslashes and consecutive blanks. -/
def splitAtSpaces (line : GoString) : List GoString := line.splitOn Byte.space

def execRequest (line : GoString) : Request where
  type := requestExec
  wantReply := true
  payload := line

-- a quote that is open at the end stops the last line only
example : IsPlainScp (str "scp -t x; id '") ∧ ¬ IsPlainScp (str "scp -t x\nid\n'") := by decide

end KubeSsh.SshProxy

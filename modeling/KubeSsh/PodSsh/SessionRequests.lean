import KubeSsh.PodSsh.Protocol

/-!
# The requests of a session

What a goroutine has done on a session channel, read off its events: the requests it answered, in
order and with the answer, the operation it started, the sizes it put in the window queue, the exit
status it sent. `conversing` lets the goroutines of a connection act only as this history permits:
an operation is started once, and with the parameters of exactly the requests that were accepted
before; a size is put in the queue right after the queue was emptied and before it is closed; the
channel of a session is closed by its operation after the exit status.
-/

namespace KubeSsh.PodSsh

open SshProtocol CryptoSsh

/-! ## Answered requests -/

/-- A request of the client and the answer to it, with the agent forward that the backend returned
meanwhile. -/
structure Answered where
  request : Request
  ok : Bool
  forward : Option AgentForward := none

/-- A request that starts an operation. -/
def Starts (request : Request) : Prop :=
  request.type = requestShell ∨ request.type = requestExec ∨ request.type = requestSubsystem

instance : DecidablePred Starts := fun request =>
  inferInstanceAs (Decidable (request.type = requestShell ∨ request.type = requestExec ∨
    request.type = requestSubsystem))

namespace Protocol

variable (p : Protocol)

/-- The variable that a request has set. -/
def envOf (a : Answered) : Option GoString :=
  if a.ok ∧ a.request.type = requestEnvironment then
    (p.codec.unmarshalEnv a.request.payload).toOption.map fun (key, value) => key ++ [Byte.equals] ++ value
  else none

/-- The PTY that a request has allocated. -/
def ptyOf (a : Answered) : Option PTY :=
  if a.ok ∧ a.request.type = requestPTY then p.parseSessionPTYRequest a.request.payload else none

/-- The agent forward that a request has set up. -/
def agentOf (a : Answered) : Option AgentForward :=
  if a.ok ∧ a.request.type = requestAgentForward then a.forward else none

/-- The request type and the command of a request that has started the operation. -/
def startOf (a : Answered) : Option (GoString × GoString) :=
  if a.ok ∧ Starts a.request then (p.startRequest a.request).map fun (_, command) =>
    (a.request.type, if a.request.type = requestExec then command else [])
  else none

/-- The size to which a request has changed the window. -/
def resizeOf (a : Answered) : Option Window :=
  if a.ok ∧ a.request.type = requestWindowChange then p.parseSessionWindowChangeRequest a.request.payload
  else none

/-- The parameters of the session are exactly those of the accepted requests. -/
structure Accepted (answered : List Answered) (sess : ServerSession) : Prop where
  env : answered.filterMap p.envOf = sess.env
  pty : answered.filterMap p.ptyOf = sess.pty.toList
  agent : answered.filterMap agentOf = sess.agentForward.toList
  start : answered.filterMap p.startOf = if sess.started then [(sess.requestType, sess.rawCmd)] else []
  fresh : sess.started = false → sess.rawCmd = [] ∧ sess.requestType = []

end Protocol

/-! ## The history of a goroutine -/

/-- The queue of window sizes. -/
inductive WindowPhase
  | waiting
  | drained
  | sent
  | closed
deriving DecidableEq

/-- What a goroutine has done on a session channel. -/
structure Dialogue where
  /-- The session whose operation the goroutine runs. -/
  operates : Option ℕ := none
  answered : List Answered := []
  /-- The request that is to be answered. -/
  pending : Option Request := none
  granted : Option AgentForward := none
  launched : Option (Handler × ServerSession) := none
  sizes : List Window := []
  phase : WindowPhase := .waiting
  exited : Bool := false

/-- The pending request is answered. -/
def Dialogue.answer (d : Dialogue) (ok : Bool) : Dialogue :=
  { d with
    answered := d.answered ++ d.pending.toList.map fun request => ⟨request, ok, d.granted⟩
    pending := none
    granted := none
    phase := .waiting }

def Dialogue.next (d : Dialogue) (event : Event interface) : Dialogue :=
  match event.op, event.answer with
  | .nextRequest _, (request : Option Request) => { d with pending := request }
  | .backend (.agentForward _), (.ok forward : Except Message AgentForward) => { d with granted := some forward }
  | .reply _ ok, _ => d.answer ok
  | .go (.operation handler sess), _ => { d with launched := some (handler, sess) }
  | .drainWindow _, _ => { d with phase := .drained }
  | .sendWindow _ window, _ => { d with phase := .sent, sizes := d.sizes ++ [window] }
  | .closeWindows _, _ => { d with phase := .closed }
  | .sendExitStatus _ _, _ => { d with exited := true }
  | _, _ => d

/-- The requests that were answered, among the events of a goroutine. -/
def answered (events : List (Event interface)) : List Answered := (events.foldl Dialogue.next {}).answered

/-- What a goroutine may do next on a session channel. -/
def Dialogue.Allows (p : Protocol) (d : Dialogue) : Op → Prop
  | .nextRequest _ => d.pending = none ∧ d.phase = .waiting
  | .reply _ ok => (d.phase = .waiting ∨ d.phase = .sent) ∧
    d.sizes = (d.answer ok).answered.filterMap p.resizeOf ∧
    ∀ handler sess, d.launched = some (handler, sess) → p.Accepted (d.answer ok).answered sess
  | .go (.operation handler sess) => d.operates = none ∧ d.launched = none ∧ sess.started = true ∧
    p.Accepted d.answered sess ∧ ∃ a, d.answered.getLast? = some a ∧ a.ok = true ∧ Starts a.request
      ∧ (p.startRequest a.request).map (·.1) = some handler
  | .go (.handleRequests _) => False
  | .drainWindow _ => d.phase = .waiting
  | .sendWindow _ _ => d.phase = .drained
  | .closeWindows _ => d.phase = .waiting ∧ d.pending = none ∧ d.sizes = d.answered.filterMap p.resizeOf
  | .sendExitStatus session _ => d.operates = some session ∧ d.exited = false
  | .closeChannel _ => d.operates ≠ none → d.exited = true
  | _ => True

def Protocol.conversing (p : Protocol) : Monitor interface Dialogue where
  Allowed := Dialogue.Allows p
  next d op answer := d.next ⟨op, answer⟩

/-- A goroutine when it starts. -/
def Task.dialogue : Task → Dialogue
  | .operation _ sess => { operates := some sess.channel }
  | _ => {}

/-- The request loop between two requests. -/
structure Protocol.Serving (p : Protocol) (sess : ServerSession) (d : Dialogue) : Prop where
  operates : d.operates = none
  phase : d.phase = .waiting
  accepted : p.Accepted d.answered sess
  sizes : d.sizes = d.answered.filterMap p.resizeOf
  launched : ∀ handler sess', d.launched = some (handler, sess') → sess' = sess ∧ sess.started = true

/-- A task and the history with which it begins. -/
def Protocol.Begins (p : Protocol) : Task → Dialogue → Prop
  | .handleRequests sess, d => p.Serving sess d ∧ d.pending = none ∧ d.granted = none
  | task, d => d = task.dialogue

/-! ## The goroutines -/

/-- An operation that has nothing to do with the requests of a session. -/
def Op.Aside : Op → Prop
  | .nextRequest _ | .reply _ _ | .drainWindow _ | .sendWindow _ _ | .closeWindows _ => False
  | .sendExitStatus _ _ | .closeChannel _ | .backend (.agentForward _) => False
  | .go (.operation _ _) | .go (.handleRequests _) => False
  | _ => True

section Programs

open Prog

variable (p : Protocol) {α β : Type} {d : Dialogue}

theorem aside_allowed {op : Op} (h : op.Aside) :
    p.conversing.Allowed d op ∧ ∀ answer, p.conversing.next d op answer = d := by
  cases op with
  | nextRequest | reply | drainWindow | sendWindow | closeWindows | sendExitStatus | closeChannel => exact h.elim
  | backend call =>
    cases call with
    | agentForward => exact h.elim
    | _ => exact ⟨trivial, fun _ => rfl⟩
  | go task =>
    cases task with
    | operation | handleRequests => exact h.elim
    | _ => exact ⟨trivial, fun _ => rfl⟩
  | _ => exact ⟨trivial, fun _ => rfl⟩

/-- A program that does nothing on a session channel leaves the history. -/
theorem aside_obeys {prog : Handling α} (h : prog.Only Op.Aside) :
    prog.Obeys p.conversing d fun _ d' => d' = d :=
  h.obeys fun _ hop => aside_allowed p hop

theorem aside_bind {prog : Handling α} {f : α → Handling β} {post : β → Dialogue → Prop}
    (h : prog.Only Op.Aside) (hf : ∀ a, (f a).Obeys p.conversing d post) :
    (prog >>= f).Obeys p.conversing d post := by
  refine obeys_bind.mpr ((aside_obeys p h).mono ?_)
  rintro a _ rfl
  exact hf a

theorem aside_perform {op : Op} (h : op.Aside) : (perform op).Only Op.Aside := only_perform.mpr h

/-! ### Answers -/

variable {p} {sess : ServerSession} {request : Request}

theorem Dialogue.answer_answered (d : Dialogue) (ok : Bool) (hpending : d.pending = some request) :
    (d.answer ok).answered = d.answered ++ [⟨request, ok, d.granted⟩] := by
  simp [Dialogue.answer, hpending]

/-- A request that is refused leaves the parameters. -/
theorem Protocol.Accepted.refused {answered : List Answered} {a : Answered}
    (h : p.Accepted answered sess) (hok : a.ok = false) : p.Accepted (answered ++ [a]) sess where
  env := by simp [Protocol.envOf, hok, h.env]
  pty := by simp [Protocol.ptyOf, hok, h.pty]
  agent := by simp [Protocol.agentOf, hok, h.agent]
  start := by simp [Protocol.startOf, hok, h.start]
  fresh := h.fresh

theorem refused_converses (h : p.Serving sess d) (hpending : d.pending = some request)
    {channel : ℕ} {post : ServerSession → Dialogue → Prop}
    (hpost : p.Serving sess (d.answer false) → post sess (d.answer false)) :
    (do let _ ← reply channel false; return sess : Handling ServerSession).Obeys p.conversing d post := by
  have hanswered := d.answer_answered false hpending
  have hsizes : d.sizes = (d.answer false).answered.filterMap p.resizeOf := by
    simp [hanswered, Protocol.resizeOf, h.sizes]
  have haccepted : p.Accepted (d.answer false).answered sess := by
    rw [hanswered]
    exact h.accepted.refused rfl
  have hfixed : ∀ handler sess', d.launched = some (handler, sess') → p.Accepted (d.answer false).answered sess' :=
    fun handler sess' heq => (h.launched handler sess' heq).1 ▸ haccepted
  refine obeys_perform_bind.mpr ⟨⟨Or.inl h.phase, hsizes, hfixed⟩, fun _ => hpost ?_⟩
  exact ⟨h.operates, rfl, haccepted, hsizes, h.launched⟩

/-- A request is accepted before the operation is started. -/
theorem Protocol.Serving.accepts {sess' : ServerSession} (h : p.Serving sess d) (hstarted : sess.started = false)
    (hpending : d.pending = some request) (htype : request.type ≠ requestWindowChange)
    (haccepted : p.Accepted (d.answered ++ [⟨request, true, d.granted⟩]) sess') :
    p.conversing.Allowed d (.reply sess.channel true) ∧ d.launched = none ∧
      p.Serving sess' (d.answer true) := by
  have hanswered := d.answer_answered true hpending
  have hsizes : d.sizes = (d.answer true).answered.filterMap p.resizeOf := by
    simp [hanswered, Protocol.resizeOf, htype, h.sizes]
  have hlaunched : d.launched = none := by
    rcases hlaunched : d.launched with _ | ⟨handler, sess1⟩
    · rfl
    · have hstarted' := (h.launched handler sess1 hlaunched).2
      rw [hstarted] at hstarted'
      cases hstarted'
  have hnever {P : Prop} {handler : Handler} {sess1 : ServerSession}
      (heq : d.launched = some (handler, sess1)) : P := by
    rw [hlaunched] at heq
    cases heq
  exact ⟨⟨Or.inl h.phase, hsizes, fun _ _ heq => hnever heq⟩, hlaunched, h.operates, rfl,
    hanswered ▸ haccepted, hsizes, fun _ _ heq => hnever heq⟩

variable (p)

/-- What is to be shown of the handler of a request. -/
def Handles (request : Request) (prog : Handling ServerSession) (sess : ServerSession) : Prop :=
  ∀ d : Dialogue, p.Serving sess d → d.pending = some request → d.granted = none →
    prog.Obeys p.conversing d fun sess' d' => p.Begins (.handleRequests sess') d'

theorem handles_refused (sess : ServerSession) (request : Request) :
    Handles p request (do let _ ← reply sess.channel false; return sess) sess := fun _ h hpending _ =>
  refused_converses h hpending fun hserving => ⟨hserving, rfl, rfl⟩

/-! ### Each kind of request -/

section Kinds

variable {p} {a : Answered}

theorem envOf_of_ne (h : a.request.type ≠ requestEnvironment) : p.envOf a = none := if_neg fun h' => h h'.2

theorem ptyOf_of_ne (h : a.request.type ≠ requestPTY) : p.ptyOf a = none := if_neg fun h' => h h'.2

theorem agentOf_of_ne (h : a.request.type ≠ requestAgentForward) : Protocol.agentOf a = none :=
  if_neg fun h' => h h'.2

theorem startOf_of_not (h : ¬ Starts a.request) : p.startOf a = none := if_neg fun h' => h h'.2

/-- The type of a request that starts an operation is no other. -/
theorem Starts.ne (h : Starts request) : request.type ≠ requestEnvironment ∧ request.type ≠
    requestPTY ∧ request.type ≠ requestAgentForward ∧ request.type ≠ requestWindowChange := by
  rcases h with h | h | h <;> rw [h] <;> decide

theorem not_starts (htype : request.type = requestEnvironment ∨ request.type = requestPTY ∨
    request.type = requestAgentForward ∨ request.type = requestWindowChange) : ¬ Starts request := fun h => by
  obtain ⟨henv, hpty, hagent, hwindow⟩ := h.ne
  rcases htype with htype | htype | htype | htype
  · exact henv htype
  · exact hpty htype
  · exact hagent htype
  · exact hwindow htype

end Kinds

theorem handleStartRequest_handles (sess : ServerSession) {request : Request}
    (hstarts : Starts request) : Handles p request (p.handleStartRequest sess request) sess := by
  unfold Protocol.handleStartRequest
  split
  · exact handles_refused p sess request
  rename_i hstarted
  have hstarted' : sess.started = false := by simpa using hstarted
  rcases hstart : p.startRequest request with _ | ⟨handler, command⟩
  · exact handles_refused p sess request
  intro d h hpending hgranted
  obtain ⟨henv, hpty, hagent, hwindow⟩ := hstarts.ne
  have haccepted : p.Accepted (d.answered ++ [⟨request, true, d.granted⟩])
      { sess with
        requestType := request.type
        rawCmd := if request.type = requestExec then command else sess.rawCmd
        started := true } :=
    { env := by simp [envOf_of_ne, henv, h.accepted.env]
      pty := by simp [ptyOf_of_ne, hpty, h.accepted.pty]
      agent := by simp [agentOf_of_ne, hagent, h.accepted.agent]
      start := by
        simp [h.accepted.start, hstarted', Protocol.startOf, hstarts, hstart, (h.accepted.fresh hstarted').1]
      fresh := nofun }
  obtain ⟨hallowed, hlaunched, hserving⟩ := h.accepts hstarted' hpending hwindow haccepted
  refine obeys_perform_bind.mpr ⟨hallowed, fun replied => ?_⟩
  rcases (replied : Option Message) with _ | err
  · have hlast : (d.answer true).answered.getLast? = some ⟨request, true, d.granted⟩ := by
      rw [d.answer_answered true hpending, List.getLast?_concat]
    refine obeys_perform_bind.mpr ⟨⟨hserving.operates, hlaunched, rfl, hserving.accepted, _, hlast, rfl, hstarts,
      by rw [hstart]; rfl⟩, fun _ => ⟨?_, rfl, rfl⟩⟩
    refine ⟨hserving.operates, rfl, hserving.accepted, hserving.sizes, fun handler' sess' heq => ?_⟩
    cases heq
    exact ⟨rfl, rfl⟩
  · exact aside_bind p (aside_perform trivial) fun _ => ⟨hserving, rfl, rfl⟩

theorem handleEnvRequest_handles (sess : ServerSession) {request : Request}
    (htype : request.type = requestEnvironment) : Handles p request (p.handleEnvRequest sess request) sess := by
  unfold Protocol.handleEnvRequest
  split
  · exact handles_refused p sess request
  rename_i key value heq
  intro d h hpending hgranted
  split_ifs at heq with hstarted
  have haccepted : p.Accepted (d.answered ++ [⟨request, true, d.granted⟩])
      { sess with env := sess.env ++ [key ++ [Byte.equals] ++ value] } :=
    { env := by simp [Protocol.envOf, htype, heq, h.accepted.env]
      pty := by simp [ptyOf_of_ne, htype, (by decide : requestEnvironment ≠ requestPTY), h.accepted.pty]
      agent := by
        simp [agentOf_of_ne, htype, (by decide : requestEnvironment ≠ requestAgentForward), h.accepted.agent]
      start := by simp [startOf_of_not, not_starts (Or.inl htype), h.accepted.start]
      fresh := h.accepted.fresh }
  obtain ⟨hallowed, -, hserving⟩ :=
    h.accepts (by simpa using hstarted) hpending (by rw [htype]; decide) haccepted
  exact obeys_perform_bind.mpr ⟨hallowed, fun _ => ⟨hserving, rfl, rfl⟩⟩

theorem handlePTYRequest_handles (sess : ServerSession) {request : Request}
    (htype : request.type = requestPTY) : Handles p request (p.handlePTYRequest sess request) sess := by
  unfold Protocol.handlePTYRequest
  split
  · exact handles_refused p sess request
  rename_i pty heq
  intro d h hpending hgranted
  split_ifs at heq with hrefused
  push Not at hrefused
  have hnone : sess.pty = none := by simpa using hrefused.2
  have haccepted : p.Accepted (d.answered ++ [⟨request, true, d.granted⟩]) { sess with pty := some pty } :=
    { env := by simp [envOf_of_ne, htype, (by decide : requestPTY ≠ requestEnvironment), h.accepted.env]
      pty := by simp [Protocol.ptyOf, htype, heq, h.accepted.pty, hnone]
      agent := by simp [agentOf_of_ne, htype, (by decide : requestPTY ≠ requestAgentForward), h.accepted.agent]
      start := by simp [startOf_of_not, not_starts (Or.inr (Or.inl htype)), h.accepted.start]
      fresh := h.accepted.fresh }
  obtain ⟨hallowed, -, hserving⟩ :=
    h.accepts (by simpa using hrefused.1) hpending (by rw [htype]; decide) haccepted
  exact obeys_perform_bind.mpr ⟨hallowed, fun _ => ⟨hserving, rfl, rfl⟩⟩

theorem handleWindowChangeRequest_handles (sess : ServerSession) {request : Request}
    (htype : request.type = requestWindowChange) :
    Handles p request (do p.handleWindowChangeRequest sess request; return sess) sess := by
  unfold Protocol.handleWindowChangeRequest
  split
  · exact handles_refused p sess request
  rename_i window heq
  intro d h hpending hgranted
  split_ifs at heq
  have haccepted : p.Accepted (d.answered ++ [⟨request, true, d.granted⟩]) sess :=
    { env := by simp [envOf_of_ne, htype, (by decide : requestWindowChange ≠ requestEnvironment), h.accepted.env]
      pty := by simp [ptyOf_of_ne, htype, (by decide : requestWindowChange ≠ requestPTY), h.accepted.pty]
      agent := by
        simp [agentOf_of_ne, htype, (by decide : requestWindowChange ≠ requestAgentForward), h.accepted.agent]
      start := by simp [startOf_of_not, not_starts (Or.inr (Or.inr (Or.inr htype))), h.accepted.start]
      fresh := h.accepted.fresh }
  have hanswered := d.answer_answered true hpending
  have hsizes : d.sizes ++ [window] = (d.answer true).answered.filterMap p.resizeOf := by
    rw [hanswered, List.filterMap_append, h.sizes]
    simp [Protocol.resizeOf, htype, heq]
  refine obeys_perform_bind.mpr ⟨h.phase, fun _ => obeys_perform_bind.mpr ⟨rfl, fun _ => ?_⟩⟩
  have hfixed : ∀ handler sess', d.launched = some (handler, sess') → p.Accepted (d.answer true).answered sess' :=
    fun handler sess' heq => (h.launched handler sess' heq).1 ▸ hanswered ▸ haccepted
  refine obeys_perform_bind.mpr ⟨⟨Or.inr rfl, hsizes, hfixed⟩, fun _ => ⟨?_, rfl, rfl⟩⟩
  exact ⟨h.operates, rfl, hanswered ▸ haccepted, hsizes, h.launched⟩

theorem finishIfAny_aside (finishOp : Option FinishId) (result : OperationResult) :
    (finishIfAny finishOp result).Only Op.Aside := by
  cases finishOp with
  | none => exact only_pure _
  | some id => exact aside_perform trivial

theorem finish_aside (finishOp : Option FinishId) (result : OperationResult) :
    (finish finishOp result).Only Op.Aside := by
  cases finishOp with
  | none => exact .bind (aside_perform trivial) fun answer => nomatch answer
  | some id => exact aside_perform trivial

/-- The agent forward that is set up is the one that the backend returned. -/
theorem acceptAgentForward_granted (hgranted : d.granted = none) :
    p.acceptAgentForward.Obeys p.conversing d fun forward d' => d' = { d with granted := forward } := by
  have hnone : ({ d with granted := none } : Dialogue) = d := by rw [← hgranted]
  refine aside_bind p (aside_perform trivial) fun (started : BeginResult) => ?_
  split
  · exact aside_bind p (finishIfAny_aside _ _) fun _ => hnone.symm
  refine obeys_perform_bind.mpr ⟨trivial, fun forwarded => ?_⟩
  rcases (forwarded : Except Message AgentForward) with err | forward
  · exact aside_bind p (finish_aside _ _) fun _ => hnone.symm
  · exact aside_bind p (aside_perform trivial) fun _ => rfl

theorem handleAgentForwardRequest_handles (sess : ServerSession) {request : Request}
    (htype : request.type = requestAgentForward) :
    Handles p request (p.handleAgentForwardRequest sess request) sess := by
  unfold Protocol.handleAgentForwardRequest
  split
  · exact handles_refused p sess request
  rename_i hrefused
  push Not at hrefused
  have hnone : sess.agentForward = none := by simpa using hrefused.2.1
  intro d h hpending hgranted
  refine obeys_bind.mpr ((acceptAgentForward_granted p hgranted).mono ?_)
  rintro forward _ rfl
  have hserving : p.Serving sess { d with granted := forward } :=
    ⟨h.operates, h.phase, h.accepted, h.sizes, h.launched⟩
  cases forward with
  | none => exact refused_converses hserving hpending fun hserving => ⟨hserving, rfl, rfl⟩
  | some forward =>
    have haccepted : p.Accepted (d.answered ++ [⟨request, true, some forward⟩])
        { sess with agentForward := some forward } :=
      { env := by
          simp [envOf_of_ne, htype, (by decide : requestAgentForward ≠ requestEnvironment), h.accepted.env]
        pty := by simp [ptyOf_of_ne, htype, (by decide : requestAgentForward ≠ requestPTY), h.accepted.pty]
        agent := by simp [Protocol.agentOf, htype, h.accepted.agent, hnone]
        start := by simp [startOf_of_not, not_starts (Or.inr (Or.inr (Or.inl htype))), h.accepted.start]
        fresh := h.accepted.fresh }
    obtain ⟨hallowed, -, hserving'⟩ :=
      hserving.accepts (by simpa using hrefused.1) hpending (by rw [htype]; decide) haccepted
    exact obeys_perform_bind.mpr ⟨hallowed, fun _ => ⟨hserving', rfl, rfl⟩⟩

/-- Every request is answered once, and accepted with what it sets or refused. -/
theorem handleRequest_handles (sess : ServerSession) (request : Request) :
    Handles p request (p.handleRequest sess request) sess := by
  unfold Protocol.handleRequest
  split_ifs with hstarts henv hpty hwindow hagent
  · exact handleStartRequest_handles p sess hstarts
  · exact handleEnvRequest_handles p sess henv
  · exact handlePTYRequest_handles p sess hpty
  · exact handleWindowChangeRequest_handles p sess hwindow
  · exact handleAgentForwardRequest_handles p sess hagent
  · exact handles_refused p sess request

theorem closeAgentForward_aside (forward : AgentForward) : (closeAgentForward forward).Only Op.Aside := by
  unfold closeAgentForward
  exact .bind (aside_perform trivial) fun _ => .bind (aside_perform trivial) fun _ => aside_perform trivial

/-- The end of the request loop: the queue is closed once. -/
theorem endRequests_converses (h : p.Serving sess d) (hpending : d.pending = none) :
    (endRequests sess).Obeys p.conversing d fun _ _ => True := by
  have hclosed : ∀ session, p.conversing.Allowed d (.closeChannel session) := fun _ hoperates =>
    absurd h.operates hoperates
  have hrest : ∀ d', (do sess.agentForward.forM closeAgentForward; perform (.waitTasks sess.channel) :
      Handling Unit).Obeys p.conversing d' fun _ _ => True := by
    intro d'
    refine aside_bind p (.optionForM fun forward _ => closeAgentForward_aside forward) fun _ => ?_
    exact obeys_perform.mpr ⟨trivial, fun _ => trivial⟩
  refine aside_bind p (aside_perform trivial) fun _ => obeys_perform_bind.mpr ⟨hclosed _, fun _ => ?_⟩
  refine aside_bind p (aside_perform trivial) fun _ => ?_
  cases sess.pty with
  | none => exact hrest d
  | some pty => exact obeys_perform_bind.mpr ⟨⟨h.phase, hpending, h.sizes⟩, fun _ => hrest _⟩

/-- What a goroutine ends with. -/
abbrev Resumes (next : Option Task) (d : Dialogue) : Prop :=
  @System.Ends _ _ p.system p.Begins (fun _ => True) next d

theorem handleRequests_converses (h : p.Begins (.handleRequests sess) d) :
    (p.handleRequests sess).Obeys p.conversing d (Resumes p) := by
  obtain ⟨hserving, hpending, hgranted⟩ := h
  refine obeys_perform_bind.mpr ⟨⟨hpending, hserving.phase⟩, fun received => ?_⟩
  rcases (received : Option Request) with _ | request
  · have hnone : p.conversing.next d (.nextRequest sess.channel) none = d := by
      change ({ d with pending := none } : Dialogue) = d
      rw [← hpending]
    rw [hnone]
    exact obeys_bind.mpr ((endRequests_converses p hserving hpending).mono fun _ _ _ => trivial)
  · have hserving' : p.Serving sess { d with pending := some request } :=
      ⟨hserving.operates, hserving.phase, hserving.accepted, hserving.sizes, hserving.launched⟩
    exact obeys_bind.mpr (handleRequest_handles p sess request _ hserving' rfl hgranted)

theorem runSessionOperation_aside (sess : ServerSession) (operation : Operation) (tty : Bool)
    {execute : Handling (ℤ × Option Message)} (hexecute : execute.Only Op.Aside) :
    (runSessionOperation sess operation tty execute).Only Op.Aside := by
  refine .bind (aside_perform trivial) fun (started : BeginResult) => ?_
  split
  · exact .bind (finishIfAny_aside _ _) fun _ => .bind (aside_perform trivial) fun _ => only_pure _
  · refine .bind hexecute fun ⟨exitCode, execErr⟩ => ?_
    refine .bind (.optionForM fun _ _ => aside_perform trivial) fun _ => ?_
    exact .bind (finish_aside _ _) fun _ => only_pure _

/-- An operation sends one exit status, and then closes the channel. -/
theorem operation_converses (handler : Handler) (sess : ServerSession) :
    (p.operation handler sess).Obeys p.conversing { operates := some sess.channel } fun _ _ => True := by
  have hsession : (p.handleSession sess).Only Op.Aside := by
    unfold Protocol.handleSession
    split <;> exact runSessionOperation_aside _ _ _ (aside_perform trivial)
  have hsftp : (p.handleSFTP sess).Only Op.Aside :=
    runSessionOperation_aside _ _ _ (aside_perform trivial)
  have hexit (code : ℤ) :
      (p.exit sess code).Obeys p.conversing { operates := some sess.channel } fun _ _ => True := by
    refine obeys_perform_bind.mpr ⟨⟨rfl, rfl⟩, fun _ => obeys_perform_bind.mpr ⟨fun _ => rfl, fun _ => ?_⟩⟩
    exact obeys_perform.mpr ⟨trivial, fun _ => trivial⟩
  cases handler with
  | handleSession => exact aside_bind p hsession hexit
  | handleSFTP => exact aside_bind p hsftp hexit

theorem proxyConnection_aside (channelType payload : GoString) (stream : ℕ) :
    (do match ← openChannel channelType payload with
      | .error _ => perform (.closeStream stream)
      | .ok channel => let _ ← proxy channel stream : Handling Unit).Only Op.Aside := by
  refine .bind (aside_perform trivial) fun opened => ?_
  cases opened with
  | error err => exact aside_perform trivial
  | ok channel => exact .bind (aside_perform trivial) fun _ => only_pure _

theorem handleDirectTCPIP_aside (channel : NewChannel) : (p.handleDirectTCPIP channel).Only Op.Aside := by
  have hreject (reason : RejectionReason) (message : Message) :
      (reject channel reason message).Only Op.Aside := aside_perform trivial
  unfold Protocol.handleDirectTCPIP
  split
  · exact hreject _ _
  refine .bind (aside_perform trivial) fun (started : BeginResult) => ?_
  split
  · exact .bind (finishIfAny_aside _ _) fun _ => hreject _ _
  refine .bind (aside_perform trivial) fun forwarded => ?_
  rcases (forwarded : Except Message ℕ) with err | remote
  · exact .bind (finish_aside _ _) fun _ => hreject _ _
  refine .bind (aside_perform trivial) fun accepted => ?_
  rcases (accepted : Except Message Unit) with err | _
  · exact .bind (aside_perform trivial) fun _ => finish_aside _ _
  · exact .bind (aside_perform trivial) fun _ => finish_aside _ _

theorem handleGlobalRequest_aside (request : Request) : (p.handleGlobalRequest request).Only Op.Aside := by
  unfold Protocol.handleGlobalRequest
  split_ifs
  · unfold Protocol.handleTCPIPForward
    split
    · exact only_pure _
    refine .bind (aside_perform trivial) fun (started : BeginResult) => ?_
    split
    · exact .bind (finishIfAny_aside _ _) fun _ => only_pure _
    refine .bind (aside_perform trivial) fun forwarded => ?_
    rcases (forwarded : Except Message RemoteForward) with err | forward
    · exact .bind (finish_aside _ _) fun _ => only_pure _
    refine .bind (aside_perform trivial) fun added => ?_
    cases (added : Bool) with
    | true => exact .bind (aside_perform trivial) fun _ => only_pure _
    | false =>
      exact .bind (aside_perform trivial) fun _ => .bind (finish_aside _ _) fun _ => only_pure _
  · unfold Protocol.handleCancelTCPIPForward
    split
    · exact only_pure _
    · exact .bind (aside_perform trivial) fun removed => .bind (.optionForM fun forward _ =>
        .bind (aside_perform trivial) fun err => .optionForM fun _ _ => aside_perform trivial) fun _ => only_pure _
  · exact only_pure _

theorem serveRemoteForward_converses (bind bindHost : GoString) (bindPort : UInt32)
    (forward : RemoteForward) (finishOp : Option FinishId) :
    (serveRemoteForward bind bindHost bindPort forward finishOp).Obeys p.conversing {} (Resumes p) := by
  refine aside_bind p (aside_perform trivial) fun accepted => ?_
  rcases (accepted : Except AcceptError RemoteConn) with err | conn
  · refine aside_bind p (aside_perform trivial) fun _ => aside_bind p (aside_perform trivial) fun removed => ?_
    refine aside_bind p (.optionForM fun _ _ => aside_perform trivial) fun _ => ?_
    exact aside_bind p (finish_aside _ _) fun _ => trivial
  · exact aside_bind p (aside_perform trivial) fun _ => rfl

theorem serveAgentForward_converses (forward : AgentForward) (finishOp : Option FinishId) :
    (serveAgentForward forward finishOp).Obeys p.conversing {} (Resumes p) := by
  refine aside_bind p (aside_perform trivial) fun accepted => ?_
  rcases (accepted : Except AcceptError ℕ) with err | stream
  · refine aside_bind p (aside_perform trivial) fun _ => aside_bind p (aside_perform trivial) fun _ => ?_
    exact aside_bind p (finish_aside _ _) fun _ => aside_bind p (aside_perform trivial) fun _ => trivial
  · exact aside_bind p (aside_perform trivial) fun _ => rfl

theorem closeWhenDone_converses (session : ℕ) :
    (closeWhenDone session).Obeys p.conversing {} fun _ _ => True :=
  aside_bind p (aside_perform trivial) fun _ => obeys_perform.mpr ⟨fun h => absurd rfl h, fun _ => trivial⟩

theorem handleChannel_converses (channel : NewChannel) :
    (p.handleChannel channel).Obeys p.conversing {} (Resumes p) := by
  have haccepted : p.Accepted [] { channel := channel.id } := ⟨rfl, rfl, rfl, rfl, fun _ => ⟨rfl, rfl⟩⟩
  unfold Protocol.handleChannel
  split_ifs
  · refine aside_bind p (aside_perform trivial) fun accepted => ?_
    rcases (accepted : Except Message Unit) with err | _
    · exact trivial
    · exact aside_bind p (aside_perform trivial) fun _ =>
        ⟨⟨rfl, rfl, haccepted, rfl, nofun⟩, rfl, rfl⟩
  · exact aside_bind p (handleDirectTCPIP_aside p channel) fun _ => trivial
  · exact aside_bind p (aside_perform trivial) fun _ => trivial

/-- All goroutines of a connection act on sessions as their history permits. -/
theorem system_converses : p.system.Follows p.conversing Task.dialogue p.Begins fun _ => True where
  code task d hbegins := by
    have hlast {prog : Handling Unit} (h : prog.Only Op.Aside) :
        (do prog; return none : Handling (Option Task)).Obeys p.conversing {} (Resumes p) :=
      aside_bind p h fun _ => trivial
    cases task with
    | handleRequests sess => exact handleRequests_converses p hbegins
    | operation handler sess =>
      obtain rfl := hbegins
      exact obeys_bind.mpr ((operation_converses p handler sess).mono fun _ _ _ => trivial)
    | handleChannel channel =>
      obtain rfl := hbegins
      exact handleChannel_converses p channel
    | serveGlobalRequests =>
      obtain rfl := hbegins
      refine aside_bind p (aside_perform trivial) fun received => ?_
      rcases (received : Option Request) with _ | request
      · exact trivial
      · exact aside_bind p (handleGlobalRequest_aside p request) fun _ =>
          aside_bind p (aside_perform trivial) fun _ => rfl
    | serveChannels =>
      obtain rfl := hbegins
      refine aside_bind p (aside_perform trivial) fun received => ?_
      rcases (received : Option NewChannel) with _ | channel
      · have hclose : close.Only Op.Aside :=
          .bind (aside_perform trivial) fun _ => .forM fun _ _ => aside_perform trivial
        exact aside_bind p (aside_perform trivial) fun _ => aside_bind p hclose fun _ =>
          aside_bind p (aside_perform trivial) fun _ => trivial
      · exact aside_bind p (aside_perform trivial) fun _ => rfl
    | closeWhenDone session =>
      obtain rfl := hbegins
      exact obeys_bind.mpr ((closeWhenDone_converses p session).mono fun _ _ _ => trivial)
    | serveAgentForward forward finish =>
      obtain rfl := hbegins
      exact serveAgentForward_converses p forward finish
    | serveRemoteForward bind bindHost bindPort forward finish =>
      obtain rfl := hbegins
      exact serveRemoteForward_converses p bind bindHost bindPort forward finish
    | proxyAgentForwardConnection stream =>
      obtain rfl := hbegins
      exact hlast (proxyConnection_aside _ _ stream)
    | proxyRemoteForwardConnection stream originHost originPort bindHost bindPort =>
      obtain rfl := hbegins
      exact hlast (proxyConnection_aside _ _ stream)
  started d op hallowed task htask := by
    cases op with
    | go started =>
      obtain rfl := List.mem_singleton.mp htask
      cases task with
      | handleRequests => exact hallowed.elim
      | _ => exact rfl
    | _ => cases htask

/-! ### Requests that are refused -/

/-- Remembers whether a request was refused. -/
def refusing : Monitor interface Bool where
  Allowed _ _ := True
  next refused op _ := match op with
    | .reply _ ok => refused || !ok
    | _ => refused

theorem refusing_after {refused : Bool} {events : List (Event interface)}
    (h : refused = true ∨ ∃ session answer, ⟨.reply session false, answer⟩ ∈ events) :
    refusing.after refused events = true := by
  induction events generalizing refused with
  | nil => simpa [Monitor.after] using h
  | cons event events ih =>
    refine ih ?_
    rcases h with rfl | ⟨session, answer, hmem⟩
    · left
      obtain ⟨op, answer⟩ := event
      cases op <;> rfl
    · rcases List.mem_cons.mp hmem with rfl | hmem
      · exact Or.inl (Bool.or_true refused)
      · exact Or.inr ⟨session, answer, hmem⟩

/-- The operation answers no request. -/
def Op.Unanswering (op : Op) : Prop := ∀ session ok, op ≠ .reply session ok

theorem acceptAgentForward_unanswering : p.acceptAgentForward.Only Op.Unanswering := by
  have haside {op : Op} (h : op.Aside) : op.Unanswering := by
    rintro session ok rfl
    exact h
  refine .bind (only_perform.mpr nofun) fun (started : BeginResult) => ?_
  split
  · exact .bind ((finishIfAny_aside _ _).mono fun _ => haside) fun _ => only_pure _
  refine .bind (only_perform.mpr nofun) fun forwarded => ?_
  rcases (forwarded : Except Message AgentForward) with err | forward
  · exact .bind ((finish_aside _ _).mono fun _ => haside) fun _ => only_pure _
  · exact .bind (only_perform.mpr nofun) fun _ => only_pure _

/-- A request that is refused, or that comes when the operation is started, leaves the session. -/
theorem handleRequest_keeps (sess : ServerSession) (request : Request) {refused : Bool}
    (hrefused : refused = true → sess.started = true) :
    (p.handleRequest sess request).Obeys refusing refused fun sess' refused' => refused' = true → sess' = sess := by
  have hkeep {ok : Bool} {refused : Bool} : (do let _ ← reply sess.channel ok; return sess :
      Handling ServerSession).Obeys refusing refused fun sess' refused' => refused' = true → sess' = sess :=
    ⟨trivial, fun _ _ => rfl⟩
  have hfresh (hstarted : ¬ sess.started = true) {b : Bool} (hb : b = refused) {P : Prop} : b = true → P :=
    fun htrue => absurd (hrefused (hb ▸ htrue)) hstarted
  have haccept (hstarted : ¬ sess.started = true) (sess' : ServerSession) :
      (do let _ ← reply sess.channel true; return sess' : Handling ServerSession).Obeys refusing
        refused fun sess' refused' => refused' = true → sess' = sess :=
    ⟨trivial, fun _ => hfresh hstarted (Bool.or_false refused)⟩
  unfold Protocol.handleRequest
  split_ifs
  · unfold Protocol.handleStartRequest
    split
    · exact hkeep
    rename_i hstarted
    split
    · exact hkeep
    refine obeys_perform_bind.mpr ⟨trivial, fun replied => ?_⟩
    rcases (replied : Option Message) with _ | err
    · exact ⟨trivial, fun _ => hfresh hstarted (Bool.or_false refused)⟩
    · exact ⟨trivial, fun _ => hfresh hstarted (Bool.or_false refused)⟩
  · unfold Protocol.handleEnvRequest
    split
    · exact hkeep
    · rename_i heq
      split_ifs at heq with hstarted
      exact haccept hstarted _
  · unfold Protocol.handlePTYRequest
    split
    · exact hkeep
    · rename_i heq
      split_ifs at heq with hstarted
      exact haccept (fun h => hstarted (Or.inl h)) _
  · unfold Protocol.handleWindowChangeRequest
    split
    · exact hkeep
    · exact ⟨trivial, fun _ => ⟨trivial, fun _ => hkeep⟩⟩
  · unfold Protocol.handleAgentForwardRequest
    split
    · exact hkeep
    rename_i hstarted
    have hforward : p.acceptAgentForward.Obeys refusing refused fun _ refused' => refused' = refused := by
      refine (acceptAgentForward_unanswering p).obeys fun op hop => ⟨trivial, fun _ => ?_⟩
      cases op with
      | reply session ok => exact absurd rfl (hop session ok)
      | _ => rfl
    refine obeys_bind.mpr (hforward.mono ?_)
    rintro forward _ rfl
    cases forward with
    | none => exact hkeep
    | some forward => exact haccept (fun h => hstarted (Or.inl h)) _
  · exact hkeep

end Programs

end KubeSsh.PodSsh

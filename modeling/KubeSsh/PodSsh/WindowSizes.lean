import KubeSsh.PodSsh.SessionChannel

/-!
# The sizes of a terminal

The request loop of a session puts the sizes of the client's window in a channel with room for one,
and the backend takes them from there with `Next`. The loop runs as `PodSsh.Protocol` has it; here
it takes turns with calls of `Next`, one at a time, on what the channel holds. An operation on the
channel that would block or panic has no result.

The loop empties the channel before it fills it again. So it is never blocked, it replaces a size
that was not taken, and the last size is in the channel or was the last to be taken.
-/

namespace KubeSsh.PodSsh

open SshProtocol CryptoSsh

/-! ## The channel -/

/-- The channel `winch` of a session (`session_handler.go:43`), with its room for one size. -/
structure Winch where
  slot : Option Window := none
  closed : Bool := false
deriving DecidableEq

/-- What an operation of the request loop does to the channel, unless it blocks or panics. -/
def Winch.perform (w : Winch) : Op → Option Winch
  | .drainWindow _ => some { w with slot := none }
  | .sendWindow _ window => if w.closed ∨ w.slot.isSome then none else some { w with slot := some window }
  | .closeWindows _ => if w.closed then none else some { w with closed := true }
  | _ => some w

/-- `backend.TerminalSize`. -/
structure TerminalSize where
  width : UInt16
  height : UInt16
deriving DecidableEq

def Window.terminalSize (w : Window) : TerminalSize := ⟨.ofNat w.width, .ofNat w.height⟩

/-- `windowSizeQueue` (`session.go:129-134`). -/
structure WindowSizeQueue where
  initialSent : Bool := false
  initW : UInt16
  initH : UInt16
deriving DecidableEq

/-- `windowSizeQueue.Next` (`session.go:136-146`), unless it blocks. -/
def WindowSizeQueue.next (q : WindowSizeQueue) (w : Winch) :
    Option (Option TerminalSize × WindowSizeQueue × Winch) :=
  if ¬ q.initialSent then some (some ⟨q.initW, q.initH⟩, { q with initialSent := true }, w)
  else match w.slot with
    | some window => some (some (Window.terminalSize window), q, { w with slot := none })
    | none => if w.closed then some (none, q, w) else none

/-! ## Runs -/

/-- The request loop and the queue that reads its sizes. -/
structure Terminal where
  loop : Handling (Option Task)
  winch : Winch := {}
  queue : Option WindowSizeQueue := none

/-- The operation of a session with a PTY has a queue (`session.go:61-66`). -/
def Protocol.queueAfter (p : Protocol) (q : Option WindowSizeQueue) : Op → Option WindowSizeQueue
  | .go (.operation .handleSession sess) =>
    (p.resolveSession sess).2.terminalSizeQueue.map fun queue => { initW := queue.width, initH := queue.height }
  | _ => q

/-- What has happened: an operation of the request loop, or a call of `Next` that returned. -/
inductive Act
  | loop (event : Event interface)
  | next (size : Option TerminalSize)

/-- The request loop of a session, with `Next` called at any time. -/
inductive TerminalRun (p : Protocol) (session : ℕ) : List Act → Terminal → Prop
  | start : TerminalRun p session [] { loop := p.handleRequests { channel := session } }
  | perform {acts : List Act} {t : Terminal} (hrun : TerminalRun p session acts t) {op : Op}
      {k : op.Answer → Handling (Option Task)} (hloop : t.loop = .call op k) (answer : op.Answer) {w : Winch}
      (hwinch : t.winch.perform op = some w) :
      TerminalRun p session (acts ++ [.loop ⟨op, answer⟩]) ⟨k answer, w, p.queueAfter t.queue op⟩
  | resume {acts : List Act} {t : Terminal} (hrun : TerminalRun p session acts t) {task : Task}
      (hloop : t.loop = .pure (some task)) : TerminalRun p session acts { t with loop := p.code task }
  | next {acts : List Act} {t : Terminal} (hrun : TerminalRun p session acts t)
      {q q' : WindowSizeQueue} (hqueue : t.queue = some q) {size : Option TerminalSize} {w : Winch}
      (hnext : q.next t.winch = some (size, q', w)) :
      TerminalRun p session (acts ++ [.next size]) { t with winch := w, queue := some q' }

/-- The events of the request loop. -/
def requestEvents (acts : List Act) : List (Event interface) :=
  acts.filterMap fun
    | .loop event => some event
    | .next _ => none

def sentSize : Event interface → Option Window
  | ⟨.sendWindow _ window, _⟩ => some window
  | _ => none

/-- The sizes that the request loop has put in the channel. -/
def sentSizes (acts : List Act) : List Window := (requestEvents acts).filterMap sentSize

/-- The sizes that `Next` has returned. -/
def returnedSizes (acts : List Act) : List TerminalSize :=
  acts.filterMap fun
    | .loop _ => none
    | .next size => size

section Acts

variable (acts : List Act)

theorem requestEvents_loop (event : Event interface) :
    requestEvents (acts ++ [.loop event]) = requestEvents acts ++ [event] := by
  simp [requestEvents]

theorem requestEvents_next (size : Option TerminalSize) :
    requestEvents (acts ++ [.next size]) = requestEvents acts := by
  simp [requestEvents]

theorem returnedSizes_loop (event : Event interface) :
    returnedSizes (acts ++ [.loop event]) = returnedSizes acts := by
  simp [returnedSizes]

theorem returnedSizes_next (size : Option TerminalSize) :
    returnedSizes (acts ++ [.next size]) = returnedSizes acts ++ size.toList := by
  cases size <;> simp [returnedSizes]

end Acts

/-! ## What the loop does to the channel -/

/-- An operation that has to do with the sizes of the window, or tells the queue to its reader. -/
def Op.Sizing : Op → Prop
  | .drainWindow _ | .sendWindow _ _ | .closeWindows _ | .reply _ _ | .go (.operation _ _) => True
  | _ => False

section Loop

variable {p : Protocol} {d : Dialogue} {w : Winch} {op : Op} {answer : op.Answer}

/-- All other operations leave the sizes. -/
theorem next_of_not_sizing (d : Dialogue) (w : Winch) (answer : op.Answer) (h : ¬ op.Sizing) :
    (d.next ⟨op, answer⟩).phase = d.phase ∧ (d.next ⟨op, answer⟩).sizes = d.sizes ∧
      (d.next ⟨op, answer⟩).answered = d.answered ∧ (d.next ⟨op, answer⟩).launched = d.launched ∧
      sentSize ⟨op, answer⟩ = none ∧ w.perform op = some w := by
  cases op with
  | drainWindow | sendWindow | closeWindows | reply => exact (h trivial).elim
  | go task =>
    cases task with
    | operation => exact (h trivial).elim
    | _ => exact ⟨rfl, rfl, rfl, rfl, rfl, rfl⟩
  | backend call =>
    cases call with
    | agentForward target =>
      rcases (answer : Except Message AgentForward) with err | forward
      · exact ⟨rfl, rfl, rfl, rfl, rfl, rfl⟩
      · exact ⟨rfl, rfl, rfl, rfl, rfl, rfl⟩
    | _ => exact ⟨rfl, rfl, rfl, rfl, rfl, rfl⟩
  | _ => exact ⟨rfl, rfl, rfl, rfl, rfl, rfl⟩

/-- Only the start of an operation makes a queue. -/
theorem queueAfter_eq (h : ∀ handler sess, op ≠ .go (.operation handler sess))
    (q : Option WindowSizeQueue) : p.queueAfter q op = q := by
  cases op with
  | go task =>
    cases task with
    | operation handler sess => exact absurd rfl (h handler sess)
    | _ => rfl
  | _ => rfl

/-- How the channel goes with the history of the loop, and the sizes that were taken from it. -/
structure Filled (d : Dialogue) (w : Winch) (taken : List Window) : Prop where
  closed : w.closed = true ↔ d.phase = .closed
  drained : d.phase = .drained → w.slot = none
  /-- What is in the channel is the last size, and was not taken. -/
  kept : ∃ earlier, d.sizes = earlier ++ w.slot.toList ∧ taken.Sublist earlier
  last : d.phase ≠ .drained → w.slot = none → taken.getLast? = d.sizes.getLast?

variable {taken : List Window}

theorem Filled.sublist (h : Filled d w taken) : taken.Sublist d.sizes := by
  obtain ⟨earlier, hsizes, htaken⟩ := h.kept
  exact hsizes ▸ htaken.trans (List.sublist_append_left _ _)

/-- The loop does not block, and does not panic. -/
theorem Filled.unblocked (h : Filled d w taken) (hallowed : p.conversing.Allowed d op) :
    (w.perform op).isSome = true := by
  have hopen (hphase : d.phase ≠ .closed) : w.closed = false :=
    Bool.eq_false_of_not_eq_true fun hclosed => hphase (h.closed.mp hclosed)
  cases op with
  | sendWindow session window =>
    have hphase : d.phase = .drained := hallowed
    simp [Winch.perform, hopen (by simp [hphase]), h.drained hphase]
  | closeWindows session =>
    have hphase : d.phase = .waiting := hallowed.1
    simp [Winch.perform, hopen (by simp [hphase])]
  | _ => rfl

/-- A step of the loop. -/
theorem Filled.perform (h : Filled d w taken) (hallowed : p.conversing.Allowed d op) {w' : Winch}
    (hw : w.perform op = some w') : Filled (d.next ⟨op, answer⟩) w' taken := by
  by_cases hsizing : op.Sizing
  · have hopen (hphase : d.phase ≠ .closed) : w.closed = false :=
      Bool.eq_false_of_not_eq_true fun hclosed => hphase (h.closed.mp hclosed)
    cases op with
    | drainWindow session =>
      have hphase : d.phase = .waiting := hallowed
      obtain rfl := Option.some.inj hw
      refine ⟨?_, fun _ => rfl, ⟨d.sizes, (List.append_nil _).symm, h.sublist⟩, fun hne => absurd rfl hne⟩
      simp [Dialogue.next, hopen (by simp [hphase])]
    | sendWindow session window =>
      have hphase : d.phase = .drained := hallowed
      have hclosed := hopen (by simp [hphase])
      simp only [Winch.perform, hclosed, h.drained hphase] at hw
      obtain rfl := Option.some.inj hw
      refine ⟨?_, nofun, ⟨d.sizes, rfl, h.sublist⟩, fun _ => nofun⟩
      simp [Dialogue.next]
    | closeWindows session =>
      have hphase : d.phase = .waiting := hallowed.1
      have hclosed := hopen (by simp [hphase])
      simp only [Winch.perform, hclosed] at hw
      obtain rfl := Option.some.inj hw
      exact ⟨by simp [Dialogue.next], nofun, h.kept, fun _ => h.last (by simp [hphase])⟩
    | reply session ok =>
      obtain rfl := Option.some.inj hw
      have hphase : d.phase = .waiting ∨ d.phase = .sent := hallowed.1
      have hclosed := hopen (by rcases hphase with hphase | hphase <;> simp [hphase])
      refine ⟨?_, nofun, h.kept, fun _ => h.last ?_⟩
      · simp [Dialogue.next, Dialogue.answer, hclosed]
      · rcases hphase with hphase | hphase <;> simp [hphase]
    | go task =>
      cases task with
      | operation handler sess =>
        obtain rfl := Option.some.inj hw
        exact ⟨h.closed, h.drained, h.kept, h.last⟩
      | _ => exact hsizing.elim
    | _ => exact hsizing.elim
  · obtain ⟨hphase, hsizes, -, -, -, hkeep⟩ := next_of_not_sizing d w answer hsizing
    obtain rfl := Option.some.inj (hkeep.symm.trans hw)
    exact ⟨hphase ▸ h.closed, hphase ▸ h.drained, hsizes ▸ h.kept, hphase ▸ hsizes ▸ h.last⟩

/-- A size is taken. -/
theorem Filled.take (h : Filled d w taken) {window : Window} (hslot : w.slot = some window) :
    Filled d { w with slot := none } (taken ++ [window]) := by
  obtain ⟨earlier, hsizes, htaken⟩ := h.kept
  rw [hslot] at hsizes
  have hlast : d.sizes = earlier ++ [window] := hsizes
  refine ⟨h.closed, fun _ => rfl, ⟨d.sizes, (List.append_nil _).symm, ?_⟩, fun _ _ => ?_⟩
  · rw [hlast]
    exact htaken.append (List.Sublist.refl _)
  · rw [hlast, List.getLast?_concat, List.getLast?_concat]

/-- The sizes are those of the accepted requests, and of the one that is being answered. -/
def Protocol.SizesAccepted (p : Protocol) (d : Dialogue) : Prop :=
  ∃ answering, d.sizes = d.answered.filterMap p.resizeOf ++ answering ∧ answering.length ≤ 1 ∧
    (d.phase ≠ .sent → answering = [])

theorem Protocol.SizesAccepted.next (h : p.SizesAccepted d) (hallowed : p.conversing.Allowed d op) :
    p.SizesAccepted (d.next ⟨op, answer⟩) := by
  obtain ⟨answering, hsizes, hlength, hsent⟩ := h
  by_cases hsizing : op.Sizing
  · cases op with
    | drainWindow session =>
      have hphase : d.phase = .waiting := hallowed
      obtain rfl := hsent (by simp [hphase])
      exact ⟨[], hsizes, Nat.zero_le _, fun _ => rfl⟩
    | sendWindow session window =>
      have hphase : d.phase = .drained := hallowed
      obtain rfl := hsent (by simp [hphase])
      refine ⟨[window], ?_, le_rfl, fun hne => absurd rfl hne⟩
      exact congrArg (· ++ [window]) (hsizes.trans (List.append_nil _))
    | closeWindows session => exact ⟨[], hallowed.2.2.trans (List.append_nil _).symm, Nat.zero_le _, fun _ => rfl⟩
    | reply session ok => exact ⟨[], hallowed.2.1.trans (List.append_nil _).symm, Nat.zero_le _, fun _ => rfl⟩
    | go task =>
      cases task with
      | operation handler sess => exact ⟨answering, hsizes, hlength, hsent⟩
      | _ => exact hsizing.elim
    | _ => exact hsizing.elim
  · obtain ⟨hphase, hsizes', hanswered, -⟩ := next_of_not_sizing d {} answer hsizing
    exact ⟨answering, by rw [hsizes', hanswered, hsizes], hlength, hphase ▸ hsent⟩

end Loop

/-! ## Runs -/

/-- The sizes that `Next` has returned: the initial one, and those that were taken. -/
def returnedBy (queue : Option WindowSizeQueue) (taken : List Window) : List TerminalSize :=
  match queue with
  | some q => if q.initialSent then ⟨q.initW, q.initH⟩ :: taken.map Window.terminalSize else []
  | none => []

/-- The account of a run. -/
structure Delivered (p : Protocol) (acts : List Act) (t : Terminal) (d : Dialogue)
    (taken : List Window) : Prop where
  accepts : p.conversing.Accepts {} (requestEvents acts)
  after : d = p.conversing.after {} (requestEvents acts)
  obeys : t.loop.Obeys p.conversing d (Resumes p)
  sizes : d.sizes = sentSizes acts
  accepted : p.SizesAccepted d
  filled : Filled d t.winch taken
  queue : ∀ q, t.queue = some q → ∃ sess pty, d.launched = some (.handleSession, sess) ∧ sess.pty =
    some pty ∧ TerminalSize.mk q.initW q.initH = Window.terminalSize pty.window
  returned : returnedSizes acts = returnedBy t.queue taken
  untaken : returnedSizes acts = [] → taken = []
  ended : .next none ∈ acts → t.winch = ⟨none, true⟩

section Runs

variable {p : Protocol} {session : ℕ} {acts : List Act} {t : Terminal} {d : Dialogue} {taken : List Window}

theorem delivered_start (p : Protocol) (session : ℕ) :
    Delivered p [] { loop := p.handleRequests { channel := session } } {} [] where
  accepts := p.conversing.accepts_nil _
  after := rfl
  obeys := by
    have haccepted : p.Accepted [] { channel := session } := ⟨rfl, rfl, rfl, rfl, fun _ => ⟨rfl, rfl⟩⟩
    exact handleRequests_converses p ⟨⟨rfl, rfl, haccepted, rfl, nofun⟩, rfl, rfl⟩
  sizes := rfl
  accepted := ⟨[], rfl, Nat.zero_le _, fun _ => rfl⟩
  filled := ⟨⟨nofun, nofun⟩, nofun, ⟨[], rfl, .slnil⟩, fun _ _ => rfl⟩
  queue := nofun
  returned := rfl
  untaken _ := rfl
  ended := nofun

theorem sizes_next (d : Dialogue) (event : Event interface) :
    (d.next event).sizes = d.sizes ++ (sentSize event).toList := by
  obtain ⟨op, answer⟩ := event
  by_cases hsizing : op.Sizing
  · cases op with
    | drainWindow | closeWindows | reply => exact (List.append_nil _).symm
    | sendWindow => rfl
    | go task =>
      cases task with
      | operation => exact (List.append_nil _).symm
      | _ => exact hsizing.elim
    | _ => exact hsizing.elim
  · obtain ⟨-, hsizes, -, -, hsent, -⟩ := next_of_not_sizing d {} answer hsizing
    rw [hsizes, hsent]
    exact (List.append_nil _).symm

/-- An operation is started before there is a queue. -/
theorem Delivered.queue_none (h : Delivered p acts t d taken) (hlaunched : d.launched = none) : t.queue = none := by
  cases hqueue : t.queue with
  | none => rfl
  | some q =>
    obtain ⟨sess, -, hsome, -⟩ := h.queue q hqueue
    rw [hlaunched] at hsome
    cases hsome

theorem Delivered.queue_perform (h : Delivered p acts t d taken) {op : Op} {answer : op.Answer}
    (hallowed : p.conversing.Allowed d op) (q : WindowSizeQueue) (hq : p.queueAfter t.queue op = some q) :
    ∃ sess pty, (d.next ⟨op, answer⟩).launched = some (.handleSession, sess) ∧ sess.pty = some pty ∧
      TerminalSize.mk q.initW q.initH = Window.terminalSize pty.window := by
  by_cases hop : ∃ handler sess, op = .go (.operation handler sess)
  · obtain ⟨handler, sess, rfl⟩ := hop
    have hnone := h.queue_none hallowed.2.1
    cases handler with
    | handleSession =>
      obtain ⟨pty, hpty, rfl⟩ : ∃ pty, sess.pty = some pty ∧
          { initW := .ofNat pty.window.width, initH := .ofNat pty.window.height } = q := by
        simpa [Protocol.queueAfter, Protocol.resolveSession] using hq
      exact ⟨sess, pty, rfl, hpty, rfl⟩
    | handleSFTP =>
      have hsome : t.queue = some q := hq
      rw [hnone] at hsome
      cases hsome
  · push Not at hop
    rw [queueAfter_eq hop] at hq
    obtain ⟨sess, pty, hlaunched, hpty, hinitial⟩ := h.queue q hq
    refine ⟨sess, pty, ?_, hpty, hinitial⟩
    rw [(d.next_extends ⟨op, answer⟩).launched, ← hlaunched]
    split
    · rename_i handler sess' heq
      exact absurd heq (hop handler sess')
    · rfl

/-- A queue that was just made has returned nothing. -/
theorem Delivered.returned_perform (h : Delivered p acts t d taken) {op : Op}
    (hallowed : p.conversing.Allowed d op) :
    returnedBy t.queue taken = returnedBy (p.queueAfter t.queue op) taken := by
  by_cases hop : ∃ handler sess, op = .go (.operation handler sess)
  · obtain ⟨handler, sess, rfl⟩ := hop
    rw [h.queue_none hallowed.2.1]
    cases handler with
    | handleSession => cases hpty : sess.pty <;> simp [Protocol.queueAfter, Protocol.resolveSession, hpty, returnedBy]
    | handleSFTP => rfl
  · push Not at hop
    rw [queueAfter_eq hop]

theorem perform_ended {op : Op} {w : Winch} (h : Winch.perform ⟨none, true⟩ op = some w) : w = ⟨none, true⟩ := by
  cases op with
  | sendWindow | closeWindows => cases h
  | _ => exact (Option.some.inj h).symm

theorem Delivered.perform (h : Delivered p acts t d taken) {op : Op} {k : op.Answer → Handling (Option Task)}
    (hloop : t.loop = .call op k) (answer : op.Answer) {w : Winch} (hwinch : t.winch.perform op = some w) :
    Delivered p (acts ++ [.loop ⟨op, answer⟩]) ⟨k answer, w, p.queueAfter t.queue op⟩ (d.next ⟨op, answer⟩) taken := by
  have hobeys := h.obeys
  rw [hloop] at hobeys
  obtain ⟨hallowed, hrest⟩ := hobeys
  have hreturned := returnedSizes_loop acts ⟨op, answer⟩
  exact
    { accepts := by
        rw [requestEvents_loop]
        exact p.conversing.accepts_concat h.accepts (h.after ▸ hallowed)
      after := by
        rw [requestEvents_loop, Monitor.after_concat, ← h.after]
        rfl
      obeys := hrest answer
      sizes := by
        rw [sizes_next, h.sizes, sentSizes, sentSizes, requestEvents_loop, List.filterMap_append]
        cases hsent : sentSize ⟨op, answer⟩ <;> simp [hsent]
      accepted := h.accepted.next hallowed
      filled := h.filled.perform hallowed hwinch
      queue := h.queue_perform hallowed
      returned := by rw [hreturned, h.returned, h.returned_perform hallowed]
      untaken := fun hnil => h.untaken (hreturned ▸ hnil)
      ended := fun hmem => by
        rcases List.mem_append.mp hmem with hmem | hmem
        · exact perform_ended (h.ended hmem ▸ hwinch)
        · cases List.mem_singleton.mp hmem }

/-- What a call of `Next` that returns does. -/
inductive NextReturned (q : WindowSizeQueue) (w : Winch) : Option TerminalSize → WindowSizeQueue → Winch → Prop
  | initial (hsent : q.initialSent = false) :
      NextReturned q w (some ⟨q.initW, q.initH⟩) { q with initialSent := true } w
  | size {window : Window} (hsent : q.initialSent = true) (hslot : w.slot = some window) :
      NextReturned q w (some (Window.terminalSize window)) q { w with slot := none }
  | ended (hsent : q.initialSent = true) (hw : w = ⟨none, true⟩) : NextReturned q w none q w

theorem nextReturned_of_next {q q' : WindowSizeQueue} {w w' : Winch} {size : Option TerminalSize}
    (h : q.next w = some (size, q', w')) : NextReturned q w size q' w' := by
  unfold WindowSizeQueue.next at h
  split at h
  · rename_i hsent
    obtain ⟨rfl, rfl, rfl⟩ : some _ = size ∧ _ = q' ∧ w = w' := by simpa using h
    exact .initial (Bool.eq_false_of_not_eq_true hsent)
  · rename_i hsent
    have hsent' : q.initialSent = true := by simpa using hsent
    split at h
    · rename_i window hslot
      obtain ⟨rfl, rfl, rfl⟩ : some _ = size ∧ q = q' ∧ _ = w' := by simpa using h
      exact .size hsent' hslot
    · rename_i hslot
      split at h
      · rename_i hclosed
        obtain ⟨rfl, rfl, rfl⟩ : none = size ∧ q = q' ∧ w = w' := by simpa using h
        obtain ⟨slot, closed⟩ := w
        exact .ended hsent' (by rw [← hslot, ← hclosed])
      · cases h

theorem Delivered.next (h : Delivered p acts t d taken) {q q' : WindowSizeQueue} (hqueue : t.queue = some q)
    {size : Option TerminalSize} {w : Winch} (hnext : q.next t.winch = some (size, q', w)) :
    ∃ taken', Delivered p (acts ++ [.next size]) { t with winch := w, queue := some q' } d taken' := by
  have hreturned := h.returned
  rw [hqueue] at hreturned
  -- the queue, its sizes and those that were taken are the same, if it was told the initial size
  have hframe {taken' : List Window} (hfilled : Filled d w taken')
      (hinitial : TerminalSize.mk q'.initW q'.initH = ⟨q.initW, q.initH⟩)
      (hback : returnedSizes (acts ++ [.next size]) = returnedBy (some q') taken')
      (huntaken : returnedSizes (acts ++ [.next size]) = [] → taken' = [])
      (hended : .next none ∈ acts ++ [.next size] → w = ⟨none, true⟩) :
      Delivered p (acts ++ [.next size]) { t with winch := w, queue := some q' } d taken' :=
    { accepts := by rw [requestEvents_next]; exact h.accepts
      after := by rw [requestEvents_next]; exact h.after
      obeys := h.obeys
      sizes := by rw [sentSizes, requestEvents_next]; exact h.sizes
      accepted := h.accepted
      filled := hfilled
      queue := fun q'' hq'' => by
        cases hq''
        rw [hinitial]
        exact h.queue q hqueue
      returned := hback
      untaken := huntaken
      ended := hended }
  cases nextReturned_of_next hnext with
  | initial hsent =>
    have hnil : returnedSizes acts = [] := by rw [hreturned, returnedBy, hsent]; rfl
    obtain rfl := h.untaken hnil
    refine ⟨[], hframe h.filled rfl ?_ (fun _ => rfl) fun hmem => ?_⟩
    · rw [returnedSizes_next, hnil]
      rfl
    · rcases List.mem_append.mp hmem with hmem | hmem
      · exact h.ended hmem
      · cases List.mem_singleton.mp hmem
  | @size window hsent hslot =>
    have hback : returnedSizes (acts ++ [.next (some (Window.terminalSize window))])
        = returnedBy (some q) (taken ++ [window]) := by
      rw [returnedSizes_next, hreturned]
      simp [returnedBy, hsent]
    refine ⟨taken ++ [window], hframe (h.filled.take hslot) rfl hback (fun hnil => ?_) fun hmem => ?_⟩
    · rw [hback, returnedBy, hsent] at hnil
      cases hnil
    · rcases List.mem_append.mp hmem with hmem | hmem
      · rw [h.ended hmem] at hslot
        cases hslot
      · cases List.mem_singleton.mp hmem
  | ended hsent hw =>
    have hback : returnedSizes (acts ++ [.next none]) = returnedSizes acts := by
      rw [returnedSizes_next]
      exact List.append_nil _
    exact ⟨taken, hframe h.filled rfl (hback.trans hreturned) (fun hnil => h.untaken (hback ▸ hnil)) fun _ => hw⟩

theorem run_delivered (hrun : TerminalRun p session acts t) : ∃ d taken, Delivered p acts t d taken := by
  induction hrun with
  | start => exact ⟨_, _, delivered_start p session⟩
  | perform hrun hloop answer hwinch ih =>
    obtain ⟨d, taken, h⟩ := ih
    exact ⟨_, taken, h.perform hloop answer hwinch⟩
  | resume hrun hloop ih =>
    obtain ⟨d, taken, h⟩ := ih
    have hobeys := h.obeys
    rw [hloop] at hobeys
    exact ⟨d, taken, { h with obeys := (system_converses p).code _ d hobeys }⟩
  | next hrun hqueue hnext ih =>
    obtain ⟨d, taken, h⟩ := ih
    obtain ⟨taken', h'⟩ := h.next hqueue hnext
    exact ⟨d, taken', h'⟩

end Runs

/-- How the sizes of a terminal are passed on. -/
structure LatestWins (p : Protocol) (acts : List Act) (t : Terminal) : Prop where
  /-- The request loop is never blocked by the channel, and never panics. -/
  unblocked : ∀ op k, t.loop = .call op k → (t.winch.perform op).isSome = true
  /-- The sizes in the channel are those of the accepted requests, and of the one that is being
  answered. -/
  accepted : ∃ answering, sentSizes acts = (answered (requestEvents acts)).filterMap p.resizeOf ++
    answering ∧ answering.length ≤ 1 ∧ (t.winch.closed = true → answering = [])
  /-- The queue starts from the size of the PTY. -/
  initial : ∀ q, t.queue = some q → ∃ pty, (answered (requestEvents acts)).filterMap p.ptyOf = [pty]
    ∧ TerminalSize.mk q.initW q.initH = Window.terminalSize pty.window
  /-- `Next` returns the initial size and then some of the sizes, in order. -/
  order : returnedSizes acts = [] ∨ ∃ (q : WindowSizeQueue) (taken : List Window), t.queue = some q ∧ q.initialSent = true ∧
    taken.Sublist (sentSizes acts) ∧ returnedSizes acts = ⟨q.initW, q.initH⟩ :: taken.map Window.terminalSize
  /-- When the session has ended and the initial size was returned, the last size was the last to be
  returned and `Next` returns nil, or `Next` returns the last size and then nil. -/
  last : ∀ q last, t.queue = some q → q.initialSent = true → t.winch.closed = true →
    (sentSizes acts).getLast? = some last →
      (∃ taken : List Window, taken.Sublist (sentSizes acts) ∧ taken.getLast? = some last ∧
        returnedSizes acts = ⟨q.initW, q.initH⟩ :: taken.map Window.terminalSize ∧
        q.next t.winch = some (none, q, t.winch)) ∨
      ∃ w, q.next t.winch = some (some (Window.terminalSize last), q, w) ∧ q.next w = some (none, q, w)
  /-- Once `Next` has returned nil, the channel is closed and empty. -/
  ended : .next none ∈ acts → t.winch = ⟨none, true⟩

section Statement

variable {p : Protocol} {acts : List Act} {t : Terminal} {d : Dialogue} {taken : List Window}

theorem Delivered.initial_size (h : Delivered p acts t d taken) {q : WindowSizeQueue}
    (hqueue : t.queue = some q) : ∃ pty, (answered (requestEvents acts)).filterMap p.ptyOf = [pty] ∧
      TerminalSize.mk q.initW q.initH = Window.terminalSize pty.window := by
  obtain ⟨sess, pty, hlaunched, hpty, hinitial⟩ := h.queue q hqueue
  have hrecorded : Recorded p (Task.dialogue .serveChannels) _ _ := recorded_of_accepts h.accepts
  rw [h.after] at hlaunched
  refine ⟨pty, ?_, hinitial⟩
  have haccepted := (hrecorded.accepted .handleSession sess hlaunched).pty
  rw [hpty] at haccepted
  exact haccepted

theorem Delivered.last_size (h : Delivered p acts t d taken) {q : WindowSizeQueue} {last : Window}
    (hqueue : t.queue = some q) (hsent : q.initialSent = true) (hclosed : t.winch.closed = true)
    (hlast : (sentSizes acts).getLast? = some last) :
    (∃ taken : List Window, taken.Sublist (sentSizes acts) ∧ taken.getLast? = some last ∧
      returnedSizes acts = ⟨q.initW, q.initH⟩ :: taken.map Window.terminalSize ∧
      q.next t.winch = some (none, q, t.winch)) ∨
    ∃ w, q.next t.winch = some (some (Window.terminalSize last), q, w) ∧ q.next w = some (none, q, w) := by
  have hphase : d.phase = .closed := h.filled.closed.mp hclosed
  rw [← h.sizes] at hlast ⊢
  cases hslot : t.winch.slot with
  | none =>
    left
    refine ⟨taken, h.filled.sublist, (h.filled.last (by simp [hphase]) hslot).trans hlast, ?_, ?_⟩
    · rw [h.returned, hqueue, returnedBy, hsent]
      rfl
    · simp [WindowSizeQueue.next, hsent, hslot, hclosed]
  | some window =>
    right
    obtain ⟨earlier, hsizes, -⟩ := h.filled.kept
    obtain rfl : window = last := by
      rw [hsizes, hslot] at hlast
      exact Option.some.inj (List.getLast?_concat.symm.trans hlast)
    refine ⟨{ t.winch with slot := none }, ?_, ?_⟩
    · simp [WindowSizeQueue.next, hsent, hslot]
    · simp [WindowSizeQueue.next, hsent, hclosed]

end Statement

/-- The latest window size wins, and resizing never blocks. In every run of the request loop of a
session, with `Next` called at any time, the sizes are passed on as `LatestWins` says. -/
theorem latest_size_wins (p : Protocol) (session : ℕ) (acts : List Act) (t : Terminal)
    (hrun : TerminalRun p session acts t) : LatestWins p acts t := by
  obtain ⟨d, taken, h⟩ := run_delivered hrun
  refine ⟨fun op k hloop => ?_, ?_, fun q hqueue => h.initial_size hqueue, ?_,
    fun q last hqueue hsent hclosed hlast => h.last_size hqueue hsent hclosed hlast, h.ended⟩
  · have hobeys := h.obeys
    rw [hloop] at hobeys
    exact h.filled.unblocked hobeys.1
  · obtain ⟨answering, hsizes, hlength, hsent⟩ := h.accepted
    rw [h.sizes, h.after] at hsizes
    refine ⟨answering, hsizes, hlength, fun hclosed => hsent ?_⟩
    simp [h.filled.closed.mp hclosed]
  · rw [h.returned]
    cases hqueue : t.queue with
    | none => exact Or.inl rfl
    | some q =>
      cases hsent : q.initialSent with
      | false =>
        left
        simp [returnedBy, hsent]
      | true =>
        right
        exact ⟨q, taken, rfl, hsent, h.sizes ▸ h.filled.sublist, by simp [returnedBy, hsent]⟩

section Example

/-- A Pod connection whose terminals have 80 columns and 24 lines, and are resized to 100 and 30. -/
def sizedProtocol : Protocol :=
  { wordProtocol with
    codec := { plainCodec with
      unmarshalPTY := fun _ => .ok ⟨str "xterm", 80, 24, 0, 0, []⟩
      unmarshalWindowChange := fun _ => .ok ⟨100, 30, 0, 0⟩ } }

def ptySession : ServerSession where
  channel := 0
  pty := some ⟨str "xterm", ⟨80, 24⟩⟩

def shellSession : ServerSession := { ptySession with started := true, requestType := requestShell }

/-- A session with a shell, whose window is resized once before the client leaves. -/
def resizedActs : List Act :=
  [.loop ⟨.nextRequest 0, (some ⟨requestPTY, true, []⟩ : Option Request)⟩,
    .loop ⟨.reply 0 true, (none : Option Message)⟩,
    .loop ⟨.nextRequest 0, (some ⟨requestShell, true, []⟩ : Option Request)⟩,
    .loop ⟨.reply 0 true, (none : Option Message)⟩,
    .loop ⟨.go (.operation .handleSession shellSession), ()⟩,
    .loop ⟨.nextRequest 0, (some ⟨requestWindowChange, true, []⟩ : Option Request)⟩,
    .loop ⟨.drainWindow 0, ()⟩,
    .loop ⟨.sendWindow 0 ⟨100, 30⟩, ()⟩,
    .loop ⟨.reply 0 true, (none : Option Message)⟩,
    .loop ⟨.nextRequest 0, (none : Option Request)⟩,
    .loop ⟨.cancel 0, ()⟩,
    .loop ⟨.closeChannel 0, ()⟩,
    .loop ⟨.stop 0, ()⟩,
    .loop ⟨.closeWindows 0, ()⟩]

theorem resized_run : ∃ loop, TerminalRun sizedProtocol 0 resizedActs
    ⟨loop, ⟨some ⟨100, 30⟩, true⟩, some ⟨false, 80, 24⟩⟩ := by
  have h0 : TerminalRun sizedProtocol 0 [] _ := .start
  have h1 := h0.perform rfl (some ⟨requestPTY, true, []⟩ : Option Request) rfl
  have h2 := h1.perform rfl (none : Option Message) rfl
  have h3 := (h2.resume rfl).perform rfl (some ⟨requestShell, true, []⟩ : Option Request) rfl
  have h4 := h3.perform rfl (none : Option Message) rfl
  have h5 := h4.perform rfl () rfl
  have h6 := (h5.resume rfl).perform rfl (some ⟨requestWindowChange, true, []⟩ : Option Request) rfl
  have h7 := h6.perform rfl () rfl
  have h8 := h7.perform rfl () rfl
  have h9 := h8.perform rfl (none : Option Message) rfl
  have h10 := (h9.resume rfl).perform rfl (none : Option Request) rfl
  have h11 := h10.perform rfl () rfl
  have h12 := h11.perform rfl () rfl
  have h13 := h12.perform rfl () rfl
  have h14 := h13.perform rfl () rfl
  exact ⟨_, h14⟩

/-- The backend asks for sizes after the client has left. -/
theorem latest_size_wins_resized : ∃ acts t, TerminalRun sizedProtocol 0 acts t ∧ LatestWins sizedProtocol acts t ∧
    sentSizes acts = [⟨100, 30⟩] ∧ returnedSizes acts = [⟨80, 24⟩, ⟨100, 30⟩] ∧ .next none ∈ acts := by
  obtain ⟨loop, hrun⟩ := resized_run
  have h1 := hrun.next rfl (rfl : WindowSizeQueue.next ⟨false, 80, 24⟩ _ = _)
  have h2 := h1.next rfl (rfl : WindowSizeQueue.next ⟨true, 80, 24⟩ _ = _)
  have h3 := h2.next rfl (rfl : WindowSizeQueue.next ⟨true, 80, 24⟩ _ = _)
  exact ⟨_, _, h3, latest_size_wins _ _ _ _ h3, rfl, rfl, List.mem_append_right _ (List.mem_singleton_self _)⟩

/-- If `Next` is first called when the session has ended, it returns the initial size and not the
last one. -/
theorem initial_size_after_end : ∃ acts t q last q', TerminalRun sizedProtocol 0 acts t ∧ t.queue = some q ∧
    t.winch.closed = true ∧ returnedSizes acts = [] ∧ (sentSizes acts).getLast? = some last ∧
    q.next t.winch = some (some ⟨80, 24⟩, q', t.winch) ∧ Window.terminalSize last = ⟨100, 30⟩ := by
  obtain ⟨loop, hrun⟩ := resized_run
  exact ⟨_, _, _, _, _, hrun, rfl, rfl, rfl, rfl, rfl, rfl⟩

end Example

end KubeSsh.PodSsh

import KubeSsh.SpdyRpc.Connection

/-!
# `pkg/spdyrpc`: what holds along the lifecycle of a connection

A goroutine is at a `Phase`: it has begun to serve, it has entered the closing state and has to
cancel and to close the transport, it waits for the work, or it is counted in the wait group. The
number of goroutines at the phases accounts for the wait group and for what is left to be done
(`Accounts`), from which `connection_lifecycle` reads off what holds of every run.
-/

namespace KubeSsh.SpdyRpc

open Prog KubeSsh.System

/-! ## Phases -/

/-- Where a goroutine is. -/
inductive Phase
  | out
  | serving
  /-- It entered the closing state, as `Serve` or not. -/
  | closing (serve : Bool)
  | closingTransport (serve : Bool)
  | draining
  | drained
  | served
  /-- It is counted in the wait group. -/
  | counted
  | ready (f : ℕ)
  | running (job : Job)
deriving DecidableEq

/-- What a goroutine may do at a phase. -/
def Phase.Allows (s : Phase) : Op → Prop
  | .register _ _ | .beginServe | .beginWork => s = .out
  | .beginShutdown => s = .out ∨ s = .serving
  | .cancel => ∃ serve, s = .closing serve
  | .closeTransport => ∃ serve, s = .closingTransport serve
  | .waitWork => s = .draining
  | .setClosed => s = .drained
  | .served _ => s = .served
  | .goRun _ | .goServeRPC _ | .workDone | .lookup _ | .jobBegin (.handle _) => s = .counted
  | .jobBegin (.run f) => s = .ready f
  | .jobEnd job => s = .running job
  | _ => s = .out ∨ s = .serving ∨ s = .counted

def Phase.next (s : Phase) : (op : Op) → op.Answer → Phase
  | .beginServe, true => .serving
  | .beginWork, true => .counted
  | .beginShutdown, true => .closing (s = .serving)
  | .beginShutdown, false => if s = .serving then .draining else s
  | .cancel, _ => .closingTransport (s = .closing true)
  | .closeTransport, _ => if s = .closingTransport true then .draining else .out
  | .waitWork, _ => .drained
  | .setClosed, _ => .served
  | .served _, _ | .goRun _, _ | .goServeRPC _, _ | .workDone, _ => .out
  | .jobBegin job, _ => .running job
  | .jobEnd _, _ => .counted
  | _, _ => s

def phases : Monitor interface Phase := ⟨Phase.Allows, Phase.next⟩

def Task.first : Task → Phase
  | .work f => .ready f
  | .rpc _ => .counted
  | _ => .out

theorem shutdown_obeys_out : shutdown.Obeys phases .out fun _ s => s = .out := by
  refine obeys_perform_bind.mpr ⟨Or.inl rfl, fun entered => ?_⟩
  rcases (entered : Bool) with _ | _
  · rfl
  · exact obeys_perform_bind.mpr ⟨⟨false, rfl⟩, fun _ => ⟨⟨false, rfl⟩, fun _ => rfl⟩⟩

theorem shutdown_obeys_serving : shutdown.Obeys phases .serving fun _ s => s = .draining := by
  refine obeys_perform_bind.mpr ⟨Or.inr rfl, fun entered => ?_⟩
  rcases (entered : Bool) with _ | _
  · rfl
  · exact obeys_perform_bind.mpr ⟨⟨true, rfl⟩, fun _ => ⟨⟨true, rfl⟩, fun _ => rfl⟩⟩

theorem returned_obeys (err : Option Message) : (returned err).Obeys phases .out fun _ s => s = .out :=
  ⟨Or.inl rfl, fun _ => rfl⟩

theorem call_obeys (call : Call) : call.run.Obeys phases .out fun _ s => s = .out := by
  cases call with
  | register method handler =>
    change (SpdyRpc.register method handler).Obeys phases .out _
    unfold SpdyRpc.register
    split
    · exact returned_obeys _
    · cases handler with
      | handler id =>
        refine obeys_perform_bind.mpr ⟨rfl, fun _ => returned_obeys _⟩
      | _ => exact returned_obeys _
  | serve =>
    refine obeys_perform_bind.mpr ⟨rfl, fun begun => ?_⟩
    rcases (begun : Bool) with _ | _
    · exact returned_obeys _
    · refine obeys_perform_bind.mpr ⟨Or.inr (Or.inl rfl), fun _ => ?_⟩
      refine obeys_perform_bind.mpr ⟨Or.inr (Or.inl rfl), fun stop => ?_⟩
      refine obeys_bind.mpr (shutdown_obeys_serving.mono ?_)
      rintro _ _ rfl
      refine obeys_perform_bind.mpr ⟨rfl, fun _ => obeys_perform_bind.mpr ⟨rfl, fun _ => ?_⟩⟩
      exact ⟨rfl, fun _ => rfl⟩
  | go f =>
    cases f with
    | none => exact returned_obeys _
    | some f =>
      refine obeys_perform_bind.mpr ⟨rfl, fun begun => ?_⟩
      rcases (begun : Bool) with _ | _
      · exact returned_obeys _
      · exact obeys_perform_bind.mpr ⟨rfl, fun _ => returned_obeys _⟩
  | close =>
    refine obeys_bind.mpr (shutdown_obeys_out.mono ?_)
    rintro _ _ rfl
    exact returned_obeys _

theorem newSPDYStream_obeys (stream : Stream) : (newSPDYStream stream).Obeys phases .out fun _ s => s = .out := by
  have hreset : (reset stream).Obeys phases .out fun _ s => s = .out := ⟨Or.inl rfl, fun _ => rfl⟩
  unfold newSPDYStream
  split
  · refine obeys_perform_bind.mpr ⟨rfl, fun begun => ?_⟩
    rcases (begun : Bool) with _ | _
    · exact hreset
    · refine obeys_perform_bind.mpr ⟨Or.inr (Or.inr rfl), fun replied => ?_⟩
      rcases (replied : Option Message) with _ | err
      · exact ⟨rfl, fun _ => rfl⟩
      · exact obeys_perform_bind.mpr ⟨Or.inr (Or.inr rfl), fun _ => ⟨rfl, fun _ => rfl⟩⟩
  · refine obeys_perform_bind.mpr ⟨Or.inl rfl, fun found => ?_⟩
    rcases (found : Option ℕ) with _ | handler
    · exact hreset
    refine obeys_perform_bind.mpr ⟨Or.inl rfl, fun replied => ?_⟩
    rcases (replied : Option Message) with _ | err
    · refine obeys_perform_bind.mpr ⟨Or.inl rfl, fun handled => ?_⟩
      rcases (handled : Option Message) with _ | err
      · rfl
      · exact hreset
    · exact hreset

theorem runWork_obeys (f : ℕ) : (runWork f).Obeys phases (.ready f) fun _ s => s = .out := by
  refine obeys_perform_bind.mpr ⟨rfl, fun _ => obeys_perform_bind.mpr ⟨rfl, fun result => ?_⟩⟩
  rcases (result : Option Message) with _ | err
  · exact ⟨rfl, fun _ => rfl⟩
  · exact obeys_perform_bind.mpr ⟨Or.inr (Or.inr rfl), fun _ => ⟨rfl, fun _ => rfl⟩⟩

theorem answerRPC_obeys (stream : Stream) : (answerRPC stream).Obeys phases .counted fun _ s => s = .counted := by
  have hencode (response : Response) : (encode stream response).Obeys phases .counted fun _ s => s = .counted :=
    ⟨Or.inr (Or.inr rfl), fun _ => rfl⟩
  refine obeys_perform_bind.mpr ⟨Or.inr (Or.inr rfl), fun decoded => ?_⟩
  rcases (decoded : Decoded) with ⟨method, payload⟩ | _ | err
  · refine obeys_perform_bind.mpr ⟨rfl, fun found => ?_⟩
    rcases (found : Option ℕ) with _ | handler
    · exact hencode _
    · refine obeys_perform_bind.mpr ⟨rfl, fun _ => obeys_perform_bind.mpr ⟨rfl, fun _ => hencode _⟩⟩
  · rfl
  · exact hencode _

theorem system_follows : system.Follows phases Task.first (fun task s => s = Task.first task) fun s => s = .out where
  code task s hs := by
    obtain rfl := hs
    have hends {prog : Calling Unit} {s : Phase} (h : prog.Obeys phases s fun _ s => s = .out) :
        (prog >>= fun _ => (Pure.pure none : Calling (Option Task))).Obeys phases s
          (Ends (fun (task : system.Task) s => s = Task.first task) fun s => s = .out) :=
      obeys_bind.mpr (h.mono fun _ _ hs => hs)
    cases task with
    | call call => exact hends (call_obeys call)
    | serveSPDY =>
      refine obeys_perform_bind.mpr ⟨Or.inl rfl, fun accepted => ?_⟩
      rcases (accepted : Option Stream) with _ | stream
      · rfl
      · exact obeys_perform_bind.mpr ⟨Or.inl rfl, fun _ => rfl⟩
    | stream stream => exact hends (newSPDYStream_obeys stream)
    | work f => exact hends (runWork_obeys f)
    | rpc stream =>
      refine hends (obeys_bind.mpr ((answerRPC_obeys stream).mono ?_))
      rintro _ _ rfl
      exact obeys_perform_bind.mpr ⟨Or.inr (Or.inr rfl), fun _ => ⟨rfl, fun _ => rfl⟩⟩
  started _ _ _ _ _ := rfl

/-! ## Steps -/

abbrev Trace := List (ℕ × Event interface)

/-- The event enters the closing state. -/
def enters : Event interface → Bool
  | ⟨.beginShutdown, entered⟩ => entered
  | _ => false

def cancels : Event interface → Bool
  | ⟨.cancel, _⟩ => true
  | _ => false

def closesTransport : Event interface → Bool
  | ⟨.closeTransport, _⟩ => true
  | _ => false

/-- The event starts the goroutine of a function of `Go`. -/
def launches (f : ℕ) : Event interface → Bool
  | ⟨.goRun f', _⟩ => f' = f
  | _ => false

def begins (job : Job) : Event interface → Bool
  | ⟨.jobBegin job', _⟩ => job' = job
  | _ => false

def ends (job : Job) : Event interface → Bool
  | ⟨.jobEnd job', _⟩ => job' = job
  | _ => false

/-- None of the accounts looks at the event. -/
structure Quiet (event : Event interface) : Prop where
  enters : enters event = false
  cancels : cancels event = false
  closes : closesTransport event = false
  launches : ∀ f, launches f event = false
  begins : ∀ job, begins job event = false
  ends : ∀ job, ends job event = false
  lookup : ∀ method, event.op ≠ .lookup method
  served : ∀ err, event.op ≠ .served err

/-- What an event does to the connection, and to the goroutine that performs it. -/
inductive Step : Event interface → World → Phase → World → Phase → List Phase → Prop
  | quiet {event : Event interface} {w : World} {s : Phase} {fatal : Option Message} {more : List Phase}
      (hquiet : Quiet event) (hmore : ∀ φ ∈ more, φ = .out) : Step event w s { w with fatal } s more
  | registered {w : World} {method : GoString} {handler : ℕ} (hnew : w.state = .new) :
      Step ⟨.register method handler, none⟩ w .out { w with handlers := w.handlers.insert method handler } .out []
  | serve {w : World} (hnew : w.state = .new) :
      Step ⟨.beginServe, true⟩ w .out { w with state := .serving } .serving []
  | enter {w : World} {s : Phase} (hopen : w.state = .new ∨ w.state = .serving) (hs : s = .out ∨ s = .serving) :
      Step ⟨.beginShutdown, true⟩ w s { w with state := .closing } (.closing (s = .serving)) []
  | pass {w : World} (hclosing : w.state = .closing ∨ w.state = .closed) :
      Step ⟨.beginShutdown, false⟩ w .serving w .draining []
  | cancel {w : World} {serve : Bool} :
      Step ⟨.cancel, ()⟩ w (.closing serve) w (.closingTransport serve) []
  | closeTransport {w : World} {serve : Bool} :
      Step ⟨.closeTransport, ()⟩ w (.closingTransport serve) w (if serve then .draining else .out) []
  | wait {w : World} (hzero : w.work = 0) : Step ⟨.waitWork, ()⟩ w .draining w .drained []
  | closed {w : World} : Step ⟨.setClosed, ()⟩ w .drained { w with state := .closed } .served []
  | served {w : World} {err : Option Message} : Step ⟨.served err, ()⟩ w .served w .out []
  | count {w : World} (hserving : w.state = .serving) :
      Step ⟨.beginWork, true⟩ w .out { w with work := w.work + 1 } .counted []
  | goRun {w : World} {f : ℕ} : Step ⟨.goRun f, ()⟩ w .counted w .out [.ready f]
  | goServe {w : World} {stream : Stream} : Step ⟨.goServeRPC stream, ()⟩ w .counted w .out [.counted]
  | run {w : World} {f : ℕ} : Step ⟨.jobBegin (.run f), ()⟩ w (.ready f) w (.running (.run f)) []
  | handle {w : World} {handler : ℕ} :
      Step ⟨.jobBegin (.handle handler), ()⟩ w .counted w (.running (.handle handler)) []
  | jobEnd {w : World} {job : Job} {result : job.Result} :
      Step ⟨.jobEnd job, result⟩ w (.running job) w .counted []
  | done {w : World} (hpos : 0 < w.work) : Step ⟨.workDone, ()⟩ w .counted { w with work := w.work - 1 } .out []
  | lookup {w : World} {method : GoString} :
      Step ⟨.lookup method, w.handlers.lookup method⟩ w .counted w .counted []

theorem step_of_answers {w w' : World} {s : Phase} {op : Op} {answer : op.Answer}
    (hallows : s.Allows op) (h : Answers w op answer w') :
    Step ⟨op, answer⟩ w s w' (s.next op answer) ((started op).map Task.first) := by
  cases op with
  | register method handler =>
    obtain rfl : s = .out := hallows
    have heq : (answer, w') = w.register method handler := h
    unfold World.register at heq
    split at heq
    · obtain ⟨rfl, rfl⟩ := Prod.mk.inj heq
      exact .quiet ⟨rfl, rfl, rfl, fun _ => rfl, fun _ => rfl, fun _ => rfl, nofun, nofun⟩ nofun
    split at heq
    · obtain ⟨rfl, rfl⟩ := Prod.mk.inj heq
      exact .quiet ⟨rfl, rfl, rfl, fun _ => rfl, fun _ => rfl, fun _ => rfl, nofun, nofun⟩ nofun
    · obtain ⟨rfl, rfl⟩ := Prod.mk.inj heq
      exact .registered (not_not.mp ‹_›)
  | beginServe =>
    obtain rfl : s = .out := hallows
    have heq : (answer, w') = w.beginServe := h
    unfold World.beginServe at heq
    split at heq
    · obtain ⟨rfl, rfl⟩ := Prod.mk.inj heq
      exact .quiet ⟨rfl, rfl, rfl, fun _ => rfl, fun _ => rfl, fun _ => rfl, nofun, nofun⟩ nofun
    · obtain ⟨rfl, rfl⟩ := Prod.mk.inj heq
      exact .serve (not_not.mp ‹_›)
  | beginShutdown =>
    have heq : (answer, w') = w.beginShutdown := h
    unfold World.beginShutdown at heq
    split at heq
    · rename_i hclosing
      obtain ⟨rfl, rfl⟩ := Prod.mk.inj heq
      rcases hallows with rfl | rfl
      · exact .quiet ⟨rfl, rfl, rfl, fun _ => rfl, fun _ => rfl, fun _ => rfl, nofun, nofun⟩ nofun
      · exact .pass hclosing
    · rename_i hopen
      obtain ⟨rfl, rfl⟩ := Prod.mk.inj heq
      refine .enter ?_ hallows
      rw [not_or] at hopen
      cases hstate : w.state <;> simp [hstate] at hopen ⊢
  | beginWork =>
    obtain rfl : s = .out := hallows
    have heq : (answer, w') = w.beginWork := h
    unfold World.beginWork at heq
    split at heq
    · obtain ⟨rfl, rfl⟩ := Prod.mk.inj heq
      exact .quiet ⟨rfl, rfl, rfl, fun _ => rfl, fun _ => rfl, fun _ => rfl, nofun, nofun⟩ nofun
    · obtain ⟨rfl, rfl⟩ := Prod.mk.inj heq
      exact .count (not_not.mp ‹_›)
  | cancel =>
    obtain ⟨serve, rfl⟩ := hallows
    obtain rfl : w' = w := h
    cases serve <;> exact .cancel
  | closeTransport =>
    obtain ⟨serve, rfl⟩ := hallows
    obtain rfl : w' = w := h
    cases serve
    · exact @Step.closeTransport w' false
    · exact @Step.closeTransport w' true
  | waitWork =>
    obtain rfl : s = .draining := hallows
    obtain ⟨hzero, rfl⟩ := h
    exact .wait hzero
  | setClosed =>
    obtain rfl : s = .drained := hallows
    obtain rfl : w' = _ := h
    exact .closed
  | served err =>
    obtain rfl : s = .served := hallows
    obtain rfl : w' = w := h
    exact .served
  | goRun f =>
    obtain rfl : s = .counted := hallows
    obtain rfl : w' = w := h
    exact .goRun
  | goServeRPC stream =>
    obtain rfl : s = .counted := hallows
    obtain rfl : w' = w := h
    exact .goServe
  | jobBegin job =>
    obtain rfl : w' = w := h
    cases job with
    | run f =>
      obtain rfl : s = .ready f := hallows
      exact .run
    | handle handler =>
      obtain rfl : s = .counted := hallows
      exact .handle
  | jobEnd job =>
    obtain rfl : s = .running job := hallows
    obtain rfl : w' = w := h
    exact .jobEnd
  | workDone =>
    obtain rfl : s = .counted := hallows
    obtain ⟨hpos, rfl⟩ := h
    exact .done hpos
  | lookup method =>
    obtain rfl : s = .counted := hallows
    obtain ⟨rfl, rfl⟩ := h
    exact .lookup
  | awaitStop =>
    have hquiet : Quiet ⟨.awaitStop, answer⟩ := ⟨rfl, rfl, rfl, fun _ => rfl, fun _ => rfl, fun _ => rfl, nofun, nofun⟩
    rcases (answer : Stop) with err | err | err
    · obtain rfl : w' = w := h
      exact .quiet hquiet nofun
    · obtain rfl : w' = w := h
      exact .quiet hquiet nofun
    · obtain ⟨-, rfl⟩ := h
      exact .quiet hquiet nofun
  | goServeSPDY | goStream =>
    obtain rfl : w' = w := h
    refine .quiet ⟨rfl, rfl, rfl, fun _ => rfl, fun _ => rfl, fun _ => rfl, nofun, nofun⟩ fun φ hφ => ?_
    exact List.mem_singleton.mp hφ
  | _ =>
    obtain rfl : w' = _ := h
    exact .quiet ⟨rfl, rfl, rfl, fun _ => rfl, fun _ => rfl, fun _ => rfl, nofun, nofun⟩ nofun

/-! ## Accounts -/

def Phase.isCounted : Phase → Bool
  | .counted | .ready _ | .running _ => true
  | _ => false

def Phase.isServing : Phase → Bool
  | .serving => true
  | _ => false

/-- The goroutine of `Serve` shuts the connection down, or waits for the work. -/
def Phase.drains : Phase → Bool
  | .closing true | .closingTransport true | .draining => true
  | _ => false

def Phase.isDrained : Phase → Bool
  | .drained => true
  | _ => false

def Phase.isServed : Phase → Bool
  | .served => true
  | _ => false

def Phase.isClosing : Phase → Bool
  | .closing _ => true
  | _ => false

def Phase.isClosingTransport : Phase → Bool
  | .closingTransport _ => true
  | _ => false

/-- The closing state was entered. -/
def ConnectionState.ending : ConnectionState → Bool
  | .closing | .closed => true
  | _ => false

/-- The state of the connection, against the number of goroutines at the phases. -/
structure Stages (w : World) (n : (Phase → Bool) → ℕ) : Prop where
  counted : n Phase.isCounted = w.work
  single : n Phase.isServing + n Phase.drains + n Phase.isDrained ≤ 1
  new : w.state = .new → n Phase.isServing + n Phase.drains + n Phase.isDrained = 0 ∧ w.work = 0
  drains : 0 < n Phase.drains + n Phase.isDrained → w.state = .closing
  drained : 0 < n Phase.isDrained → w.work = 0
  closed : w.state = .closed → n Phase.isServing + n Phase.drains + n Phase.isDrained = 0 ∧ w.work = 0
  served : 0 < n Phase.isServed → w.state = .closed

/-- A goroutine moves on, and others start. -/
def Moved (n n' : (Phase → Bool) → ℕ) (s s' : Phase) (more : List Phase) : Prop :=
  ∀ b, n' b + (if b s then 1 else 0) = n b + (if b s' then 1 else 0) + more.countP b

section Accounts

variable {event : Event interface} {w w' : World} {n n' : (Phase → Bool) → ℕ} {s s' : Phase} {more : List Phase}

theorem countP_of_quiet (hmore : ∀ φ ∈ more, φ = .out) {b : Phase → Bool} (hb : b .out = false) :
    more.countP b = 0 :=
  List.countP_eq_zero.mpr fun φ hφ => by
    rw [hmore φ hφ, hb]
    exact Bool.false_ne_true

theorem Stages.step (h : Stages w n) (hstep : Step event w s w' s' more)
    (hmoved : Moved n n' s s' more) : Stages w' n' := by
  obtain ⟨counted, single, new, drains, drained, closed, served⟩ := h
  have hcounted := hmoved Phase.isCounted
  have hserving := hmoved Phase.isServing
  have hdrains := hmoved Phase.drains
  have hdrained := hmoved Phase.isDrained
  have hserved := hmoved Phase.isServed
  cases hstep with
  | quiet hquiet hmore =>
    rw [countP_of_quiet hmore rfl] at hcounted hserving hdrains hdrained hserved
    constructor <;> grind
  | enter hopen hs =>
    rcases hs with rfl | rfl <;> simp [Phase.isCounted, Phase.isServing, Phase.drains, Phase.isDrained,
      Phase.isServed] at hcounted hserving hdrains hdrained hserved <;> constructor <;> grind
  | closeTransport =>
    rename_i serve
    cases serve <;> simp [Phase.isCounted, Phase.isServing, Phase.drains, Phase.isDrained,
      Phase.isServed] at hcounted hserving hdrains hdrained hserved <;> constructor <;> grind
  | cancel =>
    rename_i serve
    cases serve <;> simp [Phase.isCounted, Phase.isServing, Phase.drains, Phase.isDrained,
      Phase.isServed] at hcounted hserving hdrains hdrained hserved <;> constructor <;> grind
  | _ =>
    simp [Phase.isCounted, Phase.isServing, Phase.drains, Phase.isDrained,
      Phase.isServed] at hcounted hserving hdrains hdrained hserved
    constructor <;> grind

/-- The closing state was entered once, by a goroutine that goes on to cancel and to close the
transport. -/
structure Closings (w : World) (n : (Phase → Bool) → ℕ) (entered cancelled transportClosed : ℕ) : Prop where
  once : entered = w.state.ending.toNat
  cancel : cancelled + n Phase.isClosing = entered
  transport : transportClosed + n Phase.isClosingTransport = cancelled

/-- The functions that were started and called have returned, or are with goroutines. -/
structure Jobs (n : (Phase → Bool) → ℕ) (launched : ℕ → ℕ) (begun ended : Job → ℕ) : Prop where
  launch : ∀ f, launched f = ended (.run f) + n (· == .ready f) + n (· == .running (.run f))
  begin : ∀ job, begun job = ended job + n (· == .running job)

theorem Closings.same {entered cancelled transportClosed : ℕ} (h : Closings w n entered cancelled transportClosed)
    (hstate : w'.state.ending = w.state.ending) (hclosing : n' Phase.isClosing = n Phase.isClosing)
    (htransport : n' Phase.isClosingTransport = n Phase.isClosingTransport) :
    Closings w' n' (entered + 0) (cancelled + 0) (transportClosed + 0) :=
  ⟨hstate ▸ h.once, hclosing ▸ h.cancel, htransport ▸ h.transport⟩

theorem Closings.step {entered cancelled transportClosed : ℕ}
    (h : Closings w n entered cancelled transportClosed) (hdrained : 0 < n Phase.isDrained → w.state = .closing)
    (hstep : Step event w s w' s' more) (hmoved : Moved n n' s s' more) :
    Closings w' n' (entered + if enters event then 1 else 0) (cancelled + if cancels event then 1 else 0)
      (transportClosed + if closesTransport event then 1 else 0) := by
  have hclosing := hmoved Phase.isClosing
  have htransport := hmoved Phase.isClosingTransport
  cases hstep with
  | quiet hquiet hmore =>
    rw [countP_of_quiet hmore rfl] at hclosing htransport
    rw [hquiet.enters, hquiet.cancels, hquiet.closes]
    exact h.same rfl (Nat.add_right_cancel hclosing) (Nat.add_right_cancel htransport)
  | enter hopen hs =>
    obtain ⟨once, cancel, transport⟩ := h
    have hstate : w.state.ending = false := by
      rcases hopen with hopen | hopen <;> rw [hopen] <;> rfl
    rw [hstate, Bool.toNat_false] at once
    rcases hs with rfl | rfl <;> simp [Phase.isClosing, Phase.isClosingTransport] at hclosing htransport
    all_goals
      refine ⟨congrArg (· + 1) once, ?_, ?_⟩
      · change cancelled + n' Phase.isClosing = entered + 1
        omega
      · change transportClosed + n' Phase.isClosingTransport = cancelled
        omega
  | cancel =>
    obtain ⟨once, cancel, transport⟩ := h
    simp [Phase.isClosing, Phase.isClosingTransport] at hclosing htransport
    refine ⟨once, ?_, ?_⟩
    · change cancelled + 1 + n' Phase.isClosing = entered
      omega
    · change transportClosed + n' Phase.isClosingTransport = cancelled + 1
      omega
  | closeTransport =>
    rename_i serve
    obtain ⟨once, cancel, transport⟩ := h
    cases serve <;> simp [Phase.isClosing, Phase.isClosingTransport] at hclosing htransport
    all_goals
      refine ⟨once, ?_, ?_⟩
      · change cancelled + n' Phase.isClosing = entered
        omega
      · change transportClosed + 1 + n' Phase.isClosingTransport = cancelled
        omega
  | serve hnew => exact h.same (by rw [hnew]; rfl) hclosing htransport
  | closed =>
    have hpos := hmoved Phase.isDrained
    have hstate := hdrained (by simp [Phase.isDrained] at hpos; omega)
    exact h.same (by rw [hstate]; rfl) hclosing htransport
  | _ => exact h.same rfl hclosing htransport

theorem Jobs.step {launched : ℕ → ℕ} {begun ended : Job → ℕ} (h : Jobs n launched begun ended)
    (hstep : Step event w s w' s' more) (hmoved : Moved n n' s s' more) :
    Jobs n' (fun f => launched f + if launches f event then 1 else 0)
      (fun job => begun job + if begins job event then 1 else 0)
      (fun job => ended job + if ends job event then 1 else 0) := by
  obtain ⟨launch, begin⟩ := h
  cases hstep with
  | quiet hquiet hmore =>
    refine ⟨fun f => ?_, fun job => ?_⟩
    · have hready := hmoved (· == .ready f)
      have hrunning := hmoved (· == .running (.run f))
      rw [countP_of_quiet hmore rfl] at hready hrunning
      have hf := launch f
      rw [hquiet.launches, hquiet.ends]
      grind
    · have hrunning := hmoved (· == .running job)
      rw [countP_of_quiet hmore rfl] at hrunning
      have hjob := begin job
      rw [hquiet.begins, hquiet.ends]
      grind
  | _ =>
    refine ⟨fun f => ?_, fun job => ?_⟩
    · have hready := hmoved (· == .ready f)
      have hrunning := hmoved (· == .running (.run f))
      have hf := launch f
      simp [launches, ends] at hready hrunning ⊢
      grind
    · have hrunning := hmoved (· == .running job)
      have hjob := begin job
      simp [begins, ends] at hrunning ⊢
      grind

/-- Once the connection is not new, the handlers and that stay as they are. -/
theorem Step.started (hstep : Step event w s w' s' more) (hstate : w.state ≠ .new) :
    w'.handlers = w.handlers ∧ w'.state ≠ .new := by
  cases hstep with
  | registered hnew => exact absurd hnew hstate
  | serve hnew => exact absurd hnew hstate
  | enter | closed => exact ⟨rfl, nofun⟩
  | _ => exact ⟨rfl, hstate⟩

theorem Step.stays_closed (hstep : Step event w s w' s' more) (hstate : w.state = .closed) : w'.state = .closed := by
  cases hstep with
  | serve hnew => cases hnew.symm.trans hstate
  | enter hopen => rcases hopen with hopen | hopen <;> cases hopen.symm.trans hstate
  | closed => rfl
  | _ => exact hstate

/-- What holds along every run of what happened, the connection and the phases of the goroutines. -/
structure Accounts (trace : Trace) (w : World) (states : List Phase) : Prop where
  stages : Stages w (states.countP ·)
  closings : Closings w (states.countP ·) (trace.countP (enters ·.2)) (trace.countP (cancels ·.2))
    (trace.countP (closesTransport ·.2))
  jobs : Jobs (states.countP ·) (fun f => trace.countP (launches f ·.2))
    (fun job => trace.countP (begins job ·.2)) fun job => trace.countP (ends job ·.2)
  lookups : ∀ i method found, (i, ⟨.lookup method, found⟩) ∈ trace →
    found = w.handlers.lookup method ∧ w.state ≠ .new
  served : ∀ i err, (i, ⟨.served err, ()⟩) ∈ trace → w.state = .closed

theorem countP_concat (b : Event interface → Bool) (trace : Trace) (i : ℕ) (event : Event interface) :
    (trace ++ [(i, event)]).countP (b ·.2) = trace.countP (b ·.2) + if b event then 1 else 0 := by
  rw [List.countP_append, List.countP_singleton]

theorem Accounts.step {trace : Trace} {states : List Phase} {i : ℕ} (h : Accounts trace w states)
    (hi : states[i]? = some s) (hstep : Step event w s w' s' more) :
    Accounts (trace ++ [(i, event)]) w' (states.set i s' ++ more) := by
  have hmoved : Moved (states.countP ·) ((states.set i s' ++ more).countP ·) s s' more := fun b =>
    countP_step hi s' more b
  have hdrained : 0 < states.countP Phase.isDrained → w.state = .closing := fun hpos =>
    h.stages.drains (Nat.lt_of_lt_of_le hpos (Nat.le_add_left _ _))
  have hclosings := h.closings.step hdrained hstep hmoved
  have hjobs := h.jobs.step hstep hmoved
  refine ⟨h.stages.step hstep hmoved, ?_, ?_, ?_, ?_⟩
  · simp only [countP_concat]
    exact hclosings
  · simp only [countP_concat]
    exact hjobs
  · intro j method found hmem
    rcases List.mem_append.mp hmem with hmem | hmem
    · obtain ⟨hfound, hstate⟩ := h.lookups j method found hmem
      obtain ⟨hhandlers, hstate'⟩ := hstep.started hstate
      exact ⟨hhandlers ▸ hfound, hstate'⟩
    · obtain rfl : (⟨.lookup method, found⟩ : Event interface) = event :=
        (Prod.mk.inj (List.mem_singleton.mp hmem)).2
      cases hstep with
      | quiet hquiet => exact absurd rfl (hquiet.lookup method)
      | lookup =>
        refine ⟨rfl, fun hnew => ?_⟩
        have hpos : 0 < states.countP Phase.isCounted :=
          List.countP_pos_iff.mpr ⟨_, List.mem_of_getElem? hi, rfl⟩
        have hwork : states.countP Phase.isCounted = 0 := h.stages.counted.trans (h.stages.new hnew).2
        omega
  · intro j err hmem
    rcases List.mem_append.mp hmem with hmem | hmem
    · exact hstep.stays_closed (h.served j err hmem)
    · obtain rfl : (⟨.served err, ()⟩ : Event interface) = event := (Prod.mk.inj (List.mem_singleton.mp hmem)).2
      cases hstep with
      | quiet hquiet => exact absurd rfl (hquiet.served err)
      | served => exact h.stages.served (List.countP_pos_iff.mpr ⟨_, List.mem_of_getElem? hi, rfl⟩)

theorem accounts_start {states : List Phase} (hstates : ∀ φ ∈ states, φ = .out) : Accounts [] {} states := by
  have hnone (b : Phase → Bool) (hb : b .out = false) : states.countP b = 0 := countP_of_quiet hstates hb
  have hserving := hnone Phase.isServing rfl
  have hdrains := hnone Phase.drains rfl
  have hdrained := hnone Phase.isDrained rfl
  have hserved := hnone Phase.isServed rfl
  refine ⟨⟨hnone Phase.isCounted rfl, ?_, fun _ => ⟨?_, rfl⟩, fun hpos => ?_, fun _ => rfl, nofun, fun hpos => ?_⟩,
    ⟨rfl, ?_, ?_⟩, ⟨fun f => ?_, fun job => ?_⟩, nofun, nofun⟩
  · omega
  · omega
  · omega
  · omega
  · exact congrArg (0 + ·) (hnone Phase.isClosing rfl)
  · exact congrArg (0 + ·) (hnone Phase.isClosingTransport rfl)
  · rw [hnone (· == .ready f) rfl, hnone (· == .running (.run f)) rfl]
    rfl
  · rw [hnone (· == .running job) rfl]
    rfl

end Accounts

theorem run_accounts {calls : List Call} {trace : Trace} {c : system.Config}
    (hrun : system.Run (start calls) trace c) : ∃ states, Accounts trace c.world states ∧
      Tracks phases (fun (task : system.Task) s => s = Task.first task) (fun s => s = .out) c.threads states := by
  refine hrun.tracked system_follows (fun _ _ => rfl) (fun trace world states => Accounts trace world states) ?_ ?_
  · refine accounts_start fun φ hφ => ?_
    obtain ⟨task, htask, rfl⟩ := List.mem_map.mp hφ
    obtain ⟨call, -, rfl⟩ := List.mem_map.mp htask
    rfl
  · intro trace world states i s op answer world' h hi hallows hanswer
    exact h.step hi (step_of_answers hallows hanswer)

/-! ## The lifecycle -/

/-- The states go forward. -/
def ConnectionState.Moves (state state' : ConnectionState) : Prop :=
  state' = state ∨ (state = .new ∧ (state' = .serving ∨ state' = .closing)) ∨
    (state = .serving ∧ state' = .closing) ∨ (state = .closing ∧ state' = .closed)

/-- The operation counts work, or starts or calls a function. -/
def StartsWork : Event interface → Prop
  | ⟨.beginWork, begun⟩ => begun = true
  | ⟨.goRun _, _⟩ | ⟨.goServeRPC _, _⟩ | ⟨.jobBegin _, _⟩ => True
  | _ => False

/-- What holds of a connection, after what happened in the trace. -/
structure Lifecycle (trace : Trace) (c : system.Config) : Prop where
  forward : ∀ op answer world, c.About op → Answers c.world op answer world → c.world.state.Moves world.state
  /-- Handlers are added to a new connection only, so all RPCs have seen the table of now. -/
  handlers : ∀ op answer world, c.About op → Answers c.world op answer world →
    world.handlers ≠ c.world.handlers → c.world.state = .new
  table : ∀ i method found, (i, ⟨.lookup method, found⟩) ∈ trace → found = c.world.handlers.lookup method
  /-- Work is counted while the connection serves. The counter of the wait group does not go below
  zero, and nobody waits for it before the connection is closing. -/
  counted : ∀ op answer world, c.About op → Answers c.world op answer world → c.world.work <
    world.work → c.world.state = .serving
  uncounted : c.About .workDone → 0 < c.world.work
  waits : c.About .waitWork → c.world.state = .closing
  /-- When `Serve` has returned, what was started has returned, and nothing is started later. -/
  returned : ∀ i err, (i, ⟨.served err, ()⟩) ∈ trace → c.world.state = .closed
  settled : c.world.state = .closed →
    (∀ f, trace.countP (launches f ·.2) = trace.countP (ends (.run f) ·.2)) ∧
    (∀ job, trace.countP (begins job ·.2) = trace.countP (ends job ·.2)) ∧
    ∀ after c', system.Run c after c' → ∀ entry ∈ after, ¬ StartsWork entry.2
  /-- The closing state is entered once. The goroutine that entered it cancels the context and
  closes the transport, once and next. -/
  entered : trace.countP (enters ·.2) = c.world.state.ending.toNat
  cancelled : trace.countP (cancels ·.2) ≤ 1 ∧
    (c.world.state.ending = true → trace.countP (cancels ·.2) = 1 ∨ c.About .cancel)
  transportClosed : trace.countP (closesTransport ·.2) ≤ 1 ∧
    (c.world.state.ending = true →
      trace.countP (closesTransport ·.2) = 1 ∨ c.About .cancel ∨ c.About .closeTransport)

section Lifecycle

variable {calls : List Call} {trace : Trace} {c : system.Config} {event : Event interface}
  {w w' : World} {s s' : Phase} {more : List Phase} {op : Op} {answer : op.Answer}

theorem Step.moves (hstep : Step event w s w' s' more)
    (hdrained : s = .drained → w.state = .closing) : w.state.Moves w'.state := by
  cases hstep with
  | serve hnew => exact Or.inr (Or.inl ⟨hnew, Or.inl rfl⟩)
  | enter hopen =>
    rcases hopen with hnew | hserving
    · exact Or.inr (Or.inl ⟨hnew, Or.inr rfl⟩)
    · exact Or.inr (Or.inr (Or.inl ⟨hserving, rfl⟩))
  | closed => exact Or.inr (Or.inr (Or.inr ⟨hdrained rfl, rfl⟩))
  | _ => exact Or.inl rfl

theorem Step.handlers (hstep : Step event w s w' s' more) (h : w'.handlers ≠ w.handlers) : w.state = .new := by
  cases hstep with
  | registered hnew => exact hnew
  | _ => exact absurd rfl h

theorem Step.counts (hstep : Step event w s w' s' more) (h : w.work < w'.work) : w.state = .serving := by
  cases hstep with
  | count hserving => exact hserving
  | done => exact absurd h (Nat.not_lt.mpr (Nat.sub_le _ _))
  | _ => exact absurd h (Nat.lt_irrefl _)

theorem closed_of_answers (h : Answers w op answer w') (hstate : w.state = .closed) : w'.state = .closed := by
  cases op with
  | register method handler =>
    have heq : (answer, w') = w.register method handler := h
    rw [World.register, if_pos (by rw [hstate]; nofun)] at heq
    obtain ⟨-, rfl⟩ := Prod.mk.inj heq
    exact hstate
  | beginServe =>
    have heq : (answer, w') = w.beginServe := h
    rw [World.beginServe, if_pos (by rw [hstate]; nofun)] at heq
    obtain ⟨-, rfl⟩ := Prod.mk.inj heq
    exact hstate
  | beginShutdown =>
    have heq : (answer, w') = w.beginShutdown := h
    rw [World.beginShutdown, if_pos (Or.inr hstate)] at heq
    obtain ⟨-, rfl⟩ := Prod.mk.inj heq
    exact hstate
  | beginWork =>
    have heq : (answer, w') = w.beginWork := h
    rw [World.beginWork, if_pos (by rw [hstate]; nofun)] at heq
    obtain ⟨-, rfl⟩ := Prod.mk.inj heq
    exact hstate
  | awaitStop =>
    rcases (answer : Stop) with err | err | err
    · exact (h : w' = w) ▸ hstate
    · exact (h : w' = w) ▸ hstate
    · rw [(h : _ ∧ w' = _).2]
      exact hstate
  | waitWork | workDone | lookup =>
    rw [(h : _ ∧ w' = _).2]
    exact hstate
  | setClosed =>
    obtain rfl : w' = _ := h
    rfl
  | _ =>
    obtain rfl : w' = _ := h
    exact hstate

theorem not_ends (hfirst : ∀ task, s ≠ Task.first task) (hout : s ≠ .out) (next : Option system.Task) :
    ¬ Ends (fun (task : system.Task) s => s = Task.first task) (fun s => s = .out) next s := by
  cases next with
  | none => exact hout
  | some task => exact hfirst task

/-- A goroutine that entered the closing state is about to cancel, and then to close the
transport. -/
theorem about_cancel {states : List Phase} {serve : Bool}
    (htracks : Tracks phases (fun (task : system.Task) s => s = Task.first task) (fun s => s = .out) c.threads states)
    (hs : .closing serve ∈ states) : c.About .cancel := by
  obtain ⟨op, habout, hallows⟩ := htracks.of_mem hs (not_ends nofun nofun)
  cases op with
  | cancel => exact habout
  | jobBegin job => cases job <;> cases hallows
  | _ => simp [phases, Phase.Allows] at hallows

theorem about_closeTransport {states : List Phase} {serve : Bool}
    (htracks : Tracks phases (fun (task : system.Task) s => s = Task.first task) (fun s => s = .out) c.threads states)
    (hs : .closingTransport serve ∈ states) : c.About .closeTransport := by
  obtain ⟨op, habout, hallows⟩ := htracks.of_mem hs (not_ends nofun nofun)
  cases op with
  | closeTransport => exact habout
  | jobBegin job => cases job <;> cases hallows
  | _ => simp [phases, Phase.Allows] at hallows

/-- Nothing is started on a closed connection. -/
theorem not_startsWork (hrun : system.Run (start calls) trace c) (hstate : c.world.state = .closed)
    (habout : c.About op) (hanswer : Answers c.world op answer w') : ¬ StartsWork ⟨op, answer⟩ := by
  obtain ⟨states, haccounts, htracks⟩ := run_accounts hrun
  obtain ⟨s, hs, hallows⟩ := htracks.about habout
  have hnone : ∀ s ∈ states, s.isCounted = false := by
    have hwork : states.countP Phase.isCounted = 0 :=
      haccounts.stages.counted.trans (haccounts.stages.closed hstate).2
    exact fun s hs => Bool.eq_false_iff.mpr (List.countP_eq_zero.mp hwork s hs)
  intro hstarts
  cases op with
  | beginWork =>
    obtain rfl : answer = true := hstarts
    have heq : (true, w') = c.world.beginWork := hanswer
    unfold World.beginWork at heq
    rw [if_pos (by rw [hstate]; nofun)] at heq
    cases heq
  | goRun f =>
    obtain rfl : s = .counted := hallows
    cases hnone _ hs
  | goServeRPC stream =>
    obtain rfl : s = .counted := hallows
    cases hnone _ hs
  | jobBegin job =>
    cases job with
    | run f =>
      obtain rfl : s = .ready f := hallows
      cases hnone _ hs
    | handle handler =>
      obtain rfl : s = .counted := hallows
      cases hnone _ hs
  | _ => exact hstarts

/-- In every run of a connection, whatever is called on it and however the goroutines take turns. -/
theorem connection_lifecycle (hrun : system.Run (start calls) trace c) : Lifecycle trace c := by
  obtain ⟨states, haccounts, htracks⟩ := run_accounts hrun
  obtain ⟨hstages, hclosings, hjobs, hlookups, hserved⟩ := haccounts
  have hstep {op : Op} {answer : op.Answer} {world : World} (habout : c.About op)
      (hanswer : Answers c.world op answer world) :
      ∃ s s' more, s ∈ states ∧ Step ⟨op, answer⟩ c.world s world s' more := by
    obtain ⟨s, hs, hallows⟩ := htracks.about habout
    exact ⟨s, _, _, hs, step_of_answers hallows hanswer⟩
  have hpos {s : Phase} {b : Phase → Bool} (hs : s ∈ states) (hb : b s = true) : 0 < states.countP b :=
    List.countP_pos_iff.mpr ⟨s, hs, hb⟩
  have hcancelled : trace.countP (cancels ·.2) ≤ 1 := by
    have honce := hclosings.once
    have hcancel := hclosings.cancel
    have hle := Bool.toNat_le c.world.state.ending
    omega
  have hclosing (hpos : 0 < states.countP Phase.isClosing) : c.About .cancel := by
    obtain ⟨s, hs, hclosing⟩ := List.countP_pos_iff.mp hpos
    cases s with
    | closing serve => exact about_cancel htracks hs
    | _ => cases hclosing
  exact {
    forward op answer world habout hanswer := by
      obtain ⟨s, s', more, hs, hstep⟩ := hstep habout hanswer
      refine hstep.moves ?_
      rintro rfl
      exact hstages.drains (Nat.lt_of_lt_of_le (hpos hs rfl) (Nat.le_add_left _ _))
    handlers op answer world habout hanswer hne := by
      obtain ⟨s, s', more, -, hstep⟩ := hstep habout hanswer
      exact hstep.handlers hne
    table i method found hmem := (hlookups i method found hmem).1
    counted op answer world habout hanswer hlt := by
      obtain ⟨s, s', more, -, hstep⟩ := hstep habout hanswer
      exact hstep.counts hlt
    uncounted habout := by
      obtain ⟨s, hs, hallows⟩ := htracks.about habout
      obtain rfl : s = .counted := hallows
      exact hstages.counted ▸ hpos hs rfl
    waits habout := by
      obtain ⟨s, hs, hallows⟩ := htracks.about habout
      obtain rfl : s = .draining := hallows
      exact hstages.drains (Nat.lt_of_lt_of_le (hpos hs rfl) (Nat.le_add_right _ _))
    returned i err hmem := hserved i err hmem
    settled hclosed := by
      have hwork : states.countP Phase.isCounted = 0 := hstages.counted.trans (hstages.closed hclosed).2
      have hnone (φ : Phase) (hφ : φ.isCounted = true) : states.countP (· == φ) = 0 := by
        refine Nat.le_zero.mp (hwork ▸ List.countP_mono_left fun s _ hs => ?_)
        rwa [eq_of_beq hs]
      refine ⟨fun f => ?_, fun job => ?_, fun after c' hafter entry hentry => ?_⟩
      · have hlaunch := hjobs.launch f
        rwa [hnone (.ready f) rfl, hnone (.running (.run f)) rfl] at hlaunch
      · have hbegin := hjobs.begin job
        rwa [hnone (.running job) rfl] at hbegin
      · obtain ⟨before, rest, rfl⟩ := List.append_of_mem hentry
        obtain ⟨c'', world, hbefore, habout, hanswer⟩ := hafter.before
        have hstate : c''.world.state = .closed :=
          hbefore.invariant (fun _ (world : World) => world.state = .closed)
            (fun _ _ _ _ _ _ hstate hanswer => closed_of_answers hanswer hstate) hclosed
        exact not_startsWork (hrun.trans hbefore) hstate habout hanswer
    entered := hclosings.once
    cancelled := by
      refine ⟨hcancelled, fun hending => ?_⟩
      rcases Nat.eq_zero_or_pos (states.countP Phase.isClosing) with hzero | hpos
      · have honce := hclosings.once
        rw [hending, Bool.toNat_true] at honce
        have hcancel := hclosings.cancel
        omega
      · exact Or.inr (hclosing hpos)
    transportClosed := by
      have htransport := hclosings.transport
      refine ⟨by omega, fun hending => ?_⟩
      rcases Nat.eq_zero_or_pos (states.countP Phase.isClosingTransport) with hzero | hpos
      · rcases Nat.eq_zero_or_pos (states.countP Phase.isClosing) with hzero' | hpos
        · have honce := hclosings.once
          rw [hending, Bool.toNat_true] at honce
          have hcancel := hclosings.cancel
          omega
        · exact Or.inr (Or.inl (hclosing hpos))
      · obtain ⟨s, hs, hclosing⟩ := List.countP_pos_iff.mp hpos
        cases s with
        | closingTransport serve => exact Or.inr (Or.inr (about_closeTransport htracks hs))
        | _ => cases hclosing }

end Lifecycle

/-- A connection is closed while a function of `Go` runs, and `Serve` returns after it. -/
theorem connection_lifecycle_go : ∃ trace c, system.Run (start [.serve, .go (some 7), .close]) trace c ∧
    (0, ⟨.served none, ()⟩) ∈ trace ∧ trace.countP (launches 7 ·.2) = 1 ∧ Lifecycle trace c := by
  have h0 : system.Run (start [.serve, .go (some 7), .close]) [] (start [.serve, .go (some 7), .close]) := .start
  have h1 := h0.perform 0 rfl true rfl
  have h2 := h1.perform 0 rfl () rfl
  have h3 := h2.perform 1 rfl true rfl
  have h4 := h3.perform 1 rfl () rfl
  have h5 := h4.perform 4 rfl () rfl
  have h6 := h5.perform 2 rfl true rfl
  have h7 := h6.perform 2 rfl () rfl
  have h8 := h7.perform 2 rfl () rfl
  have h9 := h8.perform 0 rfl (.connectionClosed none : Stop) rfl
  have h10 := h9.perform 0 rfl false rfl
  have h11 := h10.perform 4 rfl (none : Option Message) rfl
  have h12 := h11.perform 4 rfl () ⟨by decide, rfl⟩
  have h13 := h12.perform 0 rfl () ⟨rfl, rfl⟩
  have h14 := h13.perform 0 rfl () rfl
  have h15 := h14.perform 0 rfl () rfl
  exact ⟨_, _, h15, List.mem_append_right _ (List.mem_singleton.mpr rfl), rfl, connection_lifecycle h15⟩

end KubeSsh.SpdyRpc

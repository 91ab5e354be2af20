import KubeSsh.SshProxy.Proxy
import Mathlib.Data.List.Induction

/-!
# `pkg/sshproxy`: every message of the client is authorized

`mediation` watches one goroutine: a message to the upstream server must pass by its kind, or the
goroutine began an operation that describes the message, without an error and since it last received
or sent one. All programs of a proxied connection obey it, so the events of every goroutine of every
run are `Mediated`.
-/

namespace KubeSsh.SshProxy

open SshProtocol CryptoSsh

/-! ## The monitor -/

/-- The message that an operation sends to the upstream server. -/
def Op.message : Op → Option UpstreamMessage
  | .openChannel .upstream channelType extraData => some (.openChannel channelType extraData)
  | .sendRequest .upstream _ request => some (.channelRequest request)
  | .sendGlobal .upstream request => some (.globalRequest request)
  | _ => none

/-- The message that an operation sends to the client; it has the same form. -/
def Op.returned : Op → Option UpstreamMessage
  | .openChannel .downstream channelType extraData => some (.openChannel channelType extraData)
  | .sendRequest .downstream _ request => some (.channelRequest request)
  | .sendGlobal .downstream request => some (.globalRequest request)
  | _ => none

/-- The goroutine turns to another message: it receives one, or has sent one to the upstream
server. -/
def Op.boundary : Op → Bool
  | .nextChannel _ | .nextGlobalRequest _ | .nextRequest _ _ => true
  | op => op.message.isSome

/-- What a goroutine has achieved for the message it is at: the operation that was begun without an
error, and the forward that was found recorded. -/
structure Watch where
  granted : Option Operation := none
  found : Option GoString := none

/-- A message to the upstream server passes, or the operation that was begun describes it. -/
def mediation (p : Protocol) : Monitor interface Watch where
  Allowed w op := ∀ message ∈ op.message,
    Passes p w.found message ∨ ∃ operation ∈ w.granted, Describes p.codec operation message
  next w op answer := match op, answer with
    | .begin operation, (started : BeginResult) =>
      { w with granted := if started.err.isNone then some operation else none }
    | .hasRemoteForward key, (found : Bool) => { w with found := if found then some key else none }
    | op, _ => if op.boundary then {} else w

/-- Nothing is sent to the upstream server. -/
def Op.Silent (op : Op) : Prop := op.message = none

/-- Nothing is sent to either peer, and no channel of the upstream server received. -/
def Op.Local : Op → Prop
  | .openChannel _ _ _ | .sendRequest _ _ _ | .sendGlobal _ _ | .nextChannel .upstream => False
  | _ => True

/-- The upstream server is asked for nothing, and no forward is recorded or removed. The loop over
global requests is not started. -/
def Op.Steady : Op → Prop
  | .sendRequest .upstream _ _ | .sendGlobal .upstream _ | .addRemoteForward _ _
  | .removeRemoteForward _ | .setAgentForward _ | .go .serveGlobalRequests => False
  | _ => True

def Op.Idle (op : Op) : Prop := op.Local ∧ op.Steady

/-- What is done around connections and replies, which is of no interest otherwise. -/
def Op.Plain : Op → Prop
  | .reply _ _ _ | .replyGlobal _ _ _ | .reject .downstream _ _ _ | .closeConn _ | .connect _
  | .connectOnce | .connectDone | .setConnectErr _ | .setUpstream | .connection
  | .go .serveUpstreamChannels | .go .serveUpstreamRequests | .go .waitUpstream => True
  | _ => False

/-- Nothing is sent to the upstream server, and the watch stays as it is. -/
def Op.Neutral : Op → Prop
  | .begin _ | .hasRemoteForward _ => False
  | op => op.boundary = false

/-- The operations, as the monitor tells them apart. -/
theorem Op.kinds (op : Op) :
    (∃ operation, op = .begin operation) ∨ (∃ key, op = .hasRemoteForward key) ∨
      op.boundary = true ∨ op.Neutral ∧ op.boundary = false := by
  cases op with
  | begin operation => exact Or.inl ⟨operation, rfl⟩
  | hasRemoteForward key => exact Or.inr (Or.inl ⟨key, rfl⟩)
  | nextChannel | nextGlobalRequest | nextRequest => exact Or.inr (Or.inr (Or.inl rfl))
  | openChannel side | sendRequest side | sendGlobal side =>
    cases side with
    | downstream => exact Or.inr (Or.inr (Or.inr ⟨rfl, rfl⟩))
    | upstream => exact Or.inr (Or.inr (Or.inl rfl))
  | _ => exact Or.inr (Or.inr (Or.inr ⟨rfl, rfl⟩))

/-- The watch after `beginOperation` returned no error. -/
def Watch.begun (w : Watch) : Option Operation → Watch
  | none => w
  | some operation => { w with granted := some operation }

section Rules

variable {p : Protocol} {w : Watch} {α β : Type}

/-- Any end will do: the goroutine forgets about a message when it receives the next. -/
abbrev Anywhere (_ : α) (_ : Watch) : Prop := True

theorem obeys_anywhere_bind {prog : Handling α} {f : α → Handling β} {post : β → Watch → Prop}
    (h : prog.Obeys (mediation p) w Anywhere)
    (hrest : ∀ a w', (f a).Obeys (mediation p) w' post) :
    (prog >>= f).Obeys (mediation p) w post :=
  Prog.obeys_bind.mpr (h.mono fun a w' _ => hrest a w')

theorem obeys_silent {prog : Handling α} (h : prog.Only Op.Silent) :
    prog.Obeys (mediation p) w Anywhere := by
  refine h.obeys_of_allowed fun w op hop message hmessage => ?_
  rw [show op.message = none from hop] at hmessage
  cases hmessage

theorem neutral_spec {op : Op} (hop : op.Neutral) :
    op.message = none ∧ ∀ answer, (mediation p).next w op answer = w := by
  cases op with
  | begin | hasRemoteForward => exact hop.elim
  | nextChannel | nextGlobalRequest | nextRequest => cases hop
  | openChannel side | sendRequest side | sendGlobal side =>
    cases side with
    | downstream => exact ⟨rfl, fun _ => rfl⟩
    | upstream => cases hop
  | _ => exact ⟨rfl, fun _ => rfl⟩

theorem next_of_boundary {op : Op} (h : op.boundary = true) (answer : op.Answer) :
    (mediation p).next w op answer = {} := by
  cases op with
  | nextChannel | nextGlobalRequest | nextRequest => rfl
  | openChannel side | sendRequest side | sendGlobal side =>
    cases side with
    | downstream => cases h
    | upstream => rfl
  | _ => cases h

/-- A program that does not touch the watch can come before anything. -/
theorem obeys_neutral {prog : Handling α} {post : α → Watch → Prop} (h : prog.Only Op.Neutral)
    (hpost : ∀ a, post a w) : prog.Obeys (mediation p) w post := by
  have hneutral : ∀ op : Op, op.Neutral → (mediation p).Allowed w op ∧
      ∀ answer, (mediation p).next w op answer = w := by
    intro op hop
    obtain ⟨hmessage, hnext⟩ := neutral_spec hop
    refine ⟨fun message hmessage' => ?_, hnext⟩
    rw [hmessage] at hmessage'
    cases hmessage'
  refine (h.obeys hneutral).mono ?_
  rintro a _ rfl
  exact hpost a

theorem obeys_beginOperation {operation : Option Operation}
    {post : Except Message (Option FinishId) → Watch → Prop}
    (herr : ∀ err w', post (.error err) w')
    (hok : ∀ finishOp, post (.ok finishOp) (w.begun operation)) :
    (beginOperation operation).Obeys (mediation p) w post := by
  cases operation with
  | none => exact hok none
  | some operation =>
    refine Prog.obeys_bind.mpr (Prog.obeys_perform.mpr
      ⟨fun message hmessage => (by cases hmessage), fun started => ?_⟩)
    obtain ⟨finishOp, err⟩ := (started : BeginResult)
    cases err with
    | none => exact hok finishOp
    | some err =>
      cases finishOp with
      | none => exact herr err _
      | some id => exact ⟨fun message hmessage => (by cases hmessage), fun _ => herr err _⟩

/-- The message of a plan may be sent once its operation was begun. -/
theorem allowed_of_clears {operation : Option Operation} {message : UpstreamMessage} {op : Op}
    (hclears : Clears p w.found operation message) (hop : op.message = some message) :
    (mediation p).Allowed (w.begun operation) op := by
  intro message' hmessage
  obtain rfl : message = message' := Option.some.inj (hop.symm.trans hmessage)
  cases operation with
  | none => exact Or.inl hclears
  | some operation => exact Or.inr ⟨operation, rfl, hclears⟩

end Rules

/-! ## Programs that send nothing to the upstream server -/

section Silent

open Prog

variable (p : Protocol) {α : Type} {op : Op} {prog : Handling α}

theorem local_spec (h : op.Local) :
    op.message = none ∧ op.returned = none ∧ op ≠ .nextChannel .upstream := by
  cases op with
  | openChannel | sendRequest | sendGlobal => exact h.elim
  | nextChannel source =>
    cases source with
    | downstream => exact ⟨rfl, rfl, by simp⟩
    | upstream => exact h.elim
  | _ => exact ⟨rfl, rfl, by simp⟩

theorem plain_spec (h : op.Plain) : op.Neutral ∧ op.Idle := by
  cases op with
  | go task => cases task <;> first | exact ⟨rfl, trivial, trivial⟩ | exact h.elim
  | reject source channel reason message =>
    cases source with
    | downstream => exact ⟨rfl, trivial, trivial⟩
    | upstream => exact h.elim
  | _ => first | exact ⟨rfl, trivial, trivial⟩ | exact h.elim

theorem silent_perform (h : op.message = none) : (perform op).Only Op.Silent := only_perform.mpr h

theorem local_perform (h : op.Local) : (perform op).Only Op.Local := only_perform.mpr h

theorem idle_perform (h : op.Idle) : (perform op).Only Op.Idle := only_perform.mpr h

theorem plain_perform (h : op.Plain) : (perform op).Only Op.Plain := only_perform.mpr h

theorem silent_of_local (h : prog.Only Op.Local) : prog.Only Op.Silent :=
  h.mono fun _ hop => (local_spec hop).1

theorem local_of_idle (h : prog.Only Op.Idle) : prog.Only Op.Local := h.mono fun _ hop => hop.1

theorem idle_of_plain (h : prog.Only Op.Plain) : prog.Only Op.Idle := h.mono fun _ hop => (plain_spec hop).2

theorem finish_idle (finishOp : Option FinishId) (result : OperationResult) :
    (finish finishOp result).Only Op.Idle := by
  cases finishOp with
  | none => exact only_pure _
  | some id => exact idle_perform ⟨trivial, trivial⟩

theorem callFinish_idle (finishOp : Option FinishId) (result : OperationResult) :
    (callFinish finishOp result).Only Op.Idle := by
  cases finishOp with
  | none => exact .bind (idle_perform ⟨trivial, trivial⟩) fun answer => nomatch answer
  | some id => exact idle_perform ⟨trivial, trivial⟩

theorem beginOperation_idle (operation : Option Operation) :
    (beginOperation operation).Only Op.Idle := by
  cases operation with
  | none => exact only_pure _
  | some operation =>
    refine .bind (idle_perform ⟨trivial, trivial⟩) fun started => ?_
    obtain ⟨finishOp, err⟩ := (started : BeginResult)
    cases err with
    | none => exact only_pure _
    | some err => exact .bind (finish_idle _ _) fun _ => only_pure _

theorem close_idle : close.Only Op.Idle := by
  refine .bind (idle_perform ⟨trivial, trivial⟩) fun closed => ?_
  rcases closed with _ | ⟨upstream, finishes⟩
  · exact only_pure _
  refine .bind (.optionForM fun _ _ => idle_perform ⟨trivial, trivial⟩) fun _ => ?_
  exact .bind (idle_perform ⟨trivial, trivial⟩) fun _ => .forM fun _ _ => callFinish_idle _ _

theorem replyIfWanted_plain (source : Side) (channel : ℕ) (request : Request) (ok : Bool) :
    (replyIfWanted source channel request ok).Only Op.Plain := by
  unfold replyIfWanted
  split
  · exact plain_perform trivial
  · exact only_pure _

theorem replyGlobalIfWanted_plain (request : Request) (ok : Bool) (payload : GoString) :
    (replyGlobalIfWanted request ok payload).Only Op.Plain := by
  unfold replyGlobalIfWanted
  split
  · exact plain_perform trivial
  · exact only_pure _

theorem rejectUnopened_plain (channel : NewChannel) (err : OpenError) :
    (Protocol.rejectUnopened channel err).Only Op.Plain := by
  cases err <;> exact plain_perform trivial

theorem connect_plain (target : Target) : (connect target).Only Op.Plain := by
  have hconnect : (connectUpstream target).Only Op.Plain := by
    refine .bind (plain_perform trivial) fun connected => ?_
    rcases connected with err | _
    · exact plain_perform trivial
    refine .bind (plain_perform trivial) fun (kept : Bool) => ?_
    cases kept with
    | true =>
      exact .bind (plain_perform trivial) fun _ => .bind (plain_perform trivial) fun _ =>
        plain_perform trivial
    | false => exact plain_perform trivial
  refine .bind (plain_perform trivial) fun (first : Bool) => ?_
  cases first with
  | true => exact .bind hconnect fun _ => .bind (plain_perform trivial) fun _ => plain_perform trivial
  | false => exact plain_perform trivial

theorem startChannel_idle (c : ProxiedChannel) (finishOp : Option FinishId) :
    (startChannel c finishOp).Only Op.Idle :=
  .bind (idle_perform ⟨trivial, trivial⟩) fun _ => idle_perform ⟨trivial, trivial⟩

theorem serve_idle (c : ProxiedChannel) : (serve c).Only Op.Idle := by
  have hgo (task : Task) (h : (Op.go task).Steady) : (go task).Only Op.Idle := idle_perform ⟨trivial, h⟩
  refine .bind (hgo _ trivial) fun _ => .bind (hgo _ trivial) fun _ => ?_
  refine .bind (hgo _ trivial) fun _ => .bind (hgo _ trivial) fun _ => ?_
  refine .bind (idle_perform ⟨trivial, trivial⟩) fun _ => ?_
  exact .bind (idle_perform ⟨trivial, trivial⟩) fun _ => finish_idle _ _

theorem closeConnection_idle : closeConnection.Only Op.Idle := by
  refine .bind (idle_perform ⟨trivial, trivial⟩) fun (created : Bool) => ?_
  cases created with
  | true => exact close_idle
  | false => exact only_pure _

theorem serveChannels_idle : serveChannels.Only Op.Idle := by
  refine .bind (idle_perform ⟨trivial, trivial⟩) fun channel => ?_
  rcases channel with _ | channel
  · refine .bind (idle_perform ⟨trivial, trivial⟩) fun _ => .bind closeConnection_idle fun _ => ?_
    exact .bind (idle_perform ⟨trivial, trivial⟩) fun _ => only_pure _
  · exact .bind (idle_perform ⟨trivial, trivial⟩) fun _ => only_pure _

theorem waitUpstream_idle : waitUpstream.Only Op.Idle :=
  .bind (idle_perform ⟨trivial, trivial⟩) fun _ => close_idle

theorem operationForUpstreamChannel_idle (channel : NewChannel) :
    (p.operationForUpstreamChannel channel).Only Op.Idle := by
  unfold Protocol.operationForUpstreamChannel
  split_ifs
  · split
    · exact only_pure _
    · refine .bind (idle_perform ⟨trivial, trivial⟩) fun (found : Bool) => ?_
      cases found <;> exact only_pure _
  · refine .bind (idle_perform ⟨trivial, trivial⟩) fun (found : Bool) => ?_
    cases found <;> exact only_pure _
  · exact only_pure _

theorem addRemoteForward_local (key : GoString) (finishOp : Option FinishId) :
    (addRemoteForward key finishOp).Only Op.Local := by
  refine .bind (local_perform trivial) fun (added : Bool) => ?_
  cases added with
  | true => exact only_pure _
  | false => exact local_of_idle (finish_idle _ _)

theorem setAgentForward_local (finishOp : Option FinishId) :
    (setAgentForward finishOp).Only Op.Local := by
  refine .bind (local_perform trivial) fun previous => ?_
  rcases previous with _ | previous <;> exact local_of_idle (finish_idle _ _)

theorem settleRequest_local (c : ProxiedChannel) (request : Request)
    (effect : DownstreamRequestEffect) (finishOp : Option FinishId) (sent : Except Message Bool) :
    (settleRequest c request effect finishOp sent).Only Op.Local := by
  have hfinish (result : OperationResult) : (finish finishOp result).Only Op.Local :=
    local_of_idle (finish_idle _ _)
  unfold settleRequest
  split
  · exact only_pure _
  split
  · exact hfinish _
  split
  · exact hfinish _
  split
  · exact setAgentForward_local _
  · exact .bind (local_perform trivial) fun _ => local_of_idle (finish_idle _ _)
  · exact hfinish _

theorem settleGlobalRequest_local (request : Request) (plan : GlobalRequestPlan)
    (finishOp : Option FinishId) (payload : GoString) :
    (p.settleGlobalRequest request plan finishOp payload).Only Op.Local := by
  have hfinish (finishOp : Option FinishId) (result : OperationResult) :
      (finish finishOp result).Only Op.Local := local_of_idle (finish_idle _ _)
  unfold Protocol.settleGlobalRequest
  split_ifs
  · exact addRemoteForward_local _ _
  · exact .bind (.bind (local_perform trivial) fun _ => hfinish _ _) fun _ => hfinish _ _
  · exact hfinish _ _

/-- Nothing is sent to the upstream server, and no forward is recorded or removed. -/
def Op.Still (op : Op) : Prop := op.Silent ∧ op.Steady

theorem still_perform (h : op.Still) : (perform op).Only Op.Still := only_perform.mpr h

theorem still_of_idle (h : prog.Only Op.Idle) : prog.Only Op.Still :=
  h.mono fun _ hop => ⟨(local_spec hop.1).1, hop.2⟩

theorem silent_of_still (h : prog.Only Op.Still) : prog.Only Op.Silent := h.mono fun _ hop => hop.1

theorem forwardUpstreamRequest_still (c : ProxiedChannel) (request : Request) :
    (p.forwardUpstreamRequest c request).Only Op.Still := by
  have hrecord (payload : GoString) : (p.recordExitStatus c payload).Only Op.Still := by
    unfold Protocol.recordExitStatus
    split
    · exact only_pure _
    · exact still_perform ⟨rfl, trivial⟩
  refine .bind (.optionForM fun payload _ => hrecord payload) fun _ => ?_
  refine .bind (still_perform ⟨rfl, trivial⟩) fun _ => ?_
  exact .bind (still_of_idle (idle_of_plain (replyIfWanted_plain _ _ _ _))) fun _ => only_pure _

theorem handleUpstreamChannel_still (channel : NewChannel) :
    (p.handleUpstreamChannel channel).Only Op.Still := by
  refine .bind (still_of_idle (operationForUpstreamChannel_idle p channel)) fun operation => ?_
  rcases operation with err | operation
  · exact still_perform ⟨rfl, trivial⟩
  refine .bind (still_of_idle (beginOperation_idle operation)) fun begun => ?_
  rcases begun with err | finishOp
  · exact still_perform ⟨rfl, trivial⟩
  refine .bind (still_perform ⟨rfl, trivial⟩) fun opened => still_of_idle ?_
  rcases opened with err | downstream
  · exact .bind (finish_idle _ _) fun _ => idle_perform ⟨trivial, trivial⟩
  refine .bind (idle_perform ⟨trivial, trivial⟩) fun accepted => ?_
  rcases accepted with err | _
  · exact .bind (idle_perform ⟨trivial, trivial⟩) fun _ => finish_idle _ _
  · exact startChannel_idle _ _

theorem serveUpstreamChannels_still : p.serveUpstreamChannels.Only Op.Still := by
  refine .bind (still_perform ⟨rfl, trivial⟩) fun channel => ?_
  rcases channel with _ | channel
  · exact only_pure _
  · exact .bind (handleUpstreamChannel_still p channel) fun _ => only_pure _

theorem handleUpstreamRequest_still (request : Request) :
    (handleUpstreamRequest request).Only Op.Still := by
  refine .bind (still_of_idle (beginOperation_idle _)) fun begun => ?_
  rcases begun with err | finishOp
  · exact still_of_idle (idle_of_plain (replyGlobalIfWanted_plain _ _ _))
  refine .bind (still_perform ⟨rfl, trivial⟩) fun sent => still_of_idle ?_
  rcases sent with err | ⟨ok, payload⟩ <;>
    exact .bind (finish_idle _ _) fun _ => idle_of_plain (replyGlobalIfWanted_plain _ _ _)

theorem serveUpstreamRequests_still : serveUpstreamRequests.Only Op.Still := by
  refine .bind (still_perform ⟨rfl, trivial⟩) fun request => ?_
  rcases request with _ | request
  · exact only_pure _
  · exact .bind (handleUpstreamRequest_still request) fun _ => only_pure _

end Silent

/-! ## Programs that do -/

section Sending

open Prog

variable (p : Protocol)

theorem obeys_local {α : Type} {p : Protocol} {w : Watch} {prog : Handling α}
    (h : prog.Only Op.Local) : prog.Obeys (mediation p) w Anywhere := obeys_silent (silent_of_local h)

theorem obeys_idle {α : Type} {p : Protocol} {w : Watch} {prog : Handling α}
    (h : prog.Only Op.Idle) : prog.Obeys (mediation p) w Anywhere := obeys_local (local_of_idle h)

theorem obeys_connect {w : Watch} {target : Target} {post : Option Message → Watch → Prop}
    (hpost : ∀ connected, post connected w) : (connect target).Obeys (mediation p) w post :=
  obeys_neutral ((connect_plain target).mono fun _ hop => (plain_spec hop).1) hpost

theorem handleChannel_obeys (channel : NewChannel) (w : Watch) :
    (p.handleChannel channel).Obeys (mediation p) w Anywhere := by
  unfold Protocol.handleChannel
  split
  · exact obeys_idle (idle_perform ⟨trivial, trivial⟩)
  rename_i operation hplan
  refine obeys_bind.mpr (obeys_beginOperation (fun err w' => ?_) fun finishOp => ?_)
  · exact obeys_idle (idle_perform ⟨trivial, trivial⟩)
  refine obeys_bind.mpr (obeys_connect p fun connected => ?_)
  rcases connected with _ | err
  · have hclears := parseChannelOperation_clears hplan w.found
    refine obeys_bind.mpr (obeys_perform.mpr
      ⟨allowed_of_clears hclears rfl, fun opened => obeys_idle ?_⟩)
    rcases opened with err | upstream
    · exact .bind (finish_idle _ _) fun _ => idle_of_plain (rejectUnopened_plain _ _)
    refine .bind (idle_perform ⟨trivial, trivial⟩) fun accepted => ?_
    rcases accepted with err | _
    · exact .bind (idle_perform ⟨trivial, trivial⟩) fun _ => finish_idle _ _
    · exact startChannel_idle _ _
  · exact obeys_idle (.bind (finish_idle _ _) fun _ => .bind (idle_perform ⟨trivial, trivial⟩) fun _ =>
      close_idle)

theorem forwardDownstreamRequest_obeys (c : ProxiedChannel) (request : Request) (w : Watch) :
    (p.forwardDownstreamRequest c request).Obeys (mediation p) w Anywhere := by
  unfold Protocol.forwardDownstreamRequest
  split
  · exact obeys_idle (idle_of_plain (replyIfWanted_plain _ _ _ _))
  rename_i plan hplan
  refine obeys_bind.mpr (obeys_beginOperation (fun err w' => ?_) fun finishOp => ?_)
  · exact obeys_idle (idle_of_plain (replyIfWanted_plain _ _ _ _))
  have hclears := planDownstreamRequest_clears hplan w.found
  refine obeys_bind.mpr (obeys_perform.mpr ⟨allowed_of_clears hclears rfl, fun sent => obeys_local ?_⟩)
  exact .bind (settleRequest_local _ _ _ _ _) fun _ =>
    local_of_idle (idle_of_plain (replyIfWanted_plain _ _ _ _))

theorem forwardGlobalRequest_obeys {request : Request} {plan : GlobalRequestPlan} {w : Watch}
    (hallowed : (mediation p).Allowed w (.sendGlobal .upstream request))
    (finishOp : Option FinishId) :
    (p.forwardGlobalRequest request plan finishOp).Obeys (mediation p) w Anywhere := by
  refine obeys_bind.mpr (obeys_connect p fun connected => ?_)
  rcases connected with _ | err
  · refine obeys_bind.mpr (obeys_perform.mpr ⟨hallowed, fun sent => ?_⟩)
    rcases sent with err | ⟨ok, payload⟩
    · exact obeys_idle (.bind (finish_idle _ _) fun _ => only_pure _)
    dsimp only
    split
    · exact obeys_idle (.bind (finish_idle _ _) fun _ => only_pure _)
    · exact obeys_local (.bind (settleGlobalRequest_local _ _ _ _ _) fun _ => only_pure _)
  · exact obeys_idle (.bind (finish_idle _ _) fun _ => .bind close_idle fun _ => only_pure _)

theorem obeys_hasRemoteForward {key : GoString} {w : Watch} {post : Bool → Watch → Prop}
    (hpost : ∀ found, post found { w with found := if found then some key else none }) :
    (hasRemoteForward key).Obeys (mediation p) w post :=
  obeys_perform.mpr ⟨fun message hmessage => (by cases hmessage), hpost⟩

theorem handleRequest_obeys (request : Request) (w : Watch) :
    (p.handleRequest request).Obeys (mediation p) w Anywhere := by
  unfold Protocol.handleRequest
  split
  · exact obeys_pure.mpr trivial
  rename_i plan hplan
  refine obeys_bind.mpr (obeys_beginOperation (fun err w' => trivial) fun finishOp => ?_)
  dsimp only
  have hallowed (found : Option GoString)
      (hfound : request.type = requestCancelTCPIPForward → found = some plan.forwardKey) :
      (mediation p).Allowed { w.begun plan.operation with found } (.sendGlobal .upstream request) := by
    have hclears : Clears p ({ w with found } : Watch).found plan.operation
      (.globalRequest request) := planGlobalRequest_clears hplan hfound
    have hop : (Op.sendGlobal .upstream request).message = some (.globalRequest request) := rfl
    have := allowed_of_clears hclears hop
    cases hoperation : plan.operation with
    | none => rwa [hoperation] at this
    | some operation => rwa [hoperation] at this
  split_ifs with hforward hcancel
  · refine obeys_bind.mpr (obeys_hasRemoteForward p fun found => ?_)
    cases found with
    | true => exact obeys_idle (.bind (finish_idle _ _) fun _ => only_pure _)
    | false =>
      refine forwardGlobalRequest_obeys p (hallowed none fun hcancel => ?_) finishOp
      rw [hforward] at hcancel
      exact absurd hcancel (by decide)
  · refine obeys_bind.mpr (obeys_hasRemoteForward p fun found => ?_)
    cases found with
    | true => exact forwardGlobalRequest_obeys p (hallowed _ fun _ => rfl) finishOp
    | false => exact trivial
  · have hfound : (w.begun plan.operation).found = w.found := by
      cases plan.operation <;> rfl
    refine forwardGlobalRequest_obeys p ?_ finishOp
    have := hallowed w.found fun h => absurd h hcancel
    rwa [← hfound] at this

theorem handleGlobalRequest_obeys (request : Request) (w : Watch) :
    (p.handleGlobalRequest request).Obeys (mediation p) w Anywhere := by
  refine obeys_anywhere_bind (obeys_idle (idle_perform ⟨trivial, trivial⟩)) fun (created : Bool) w' => ?_
  cases created with
  | true => exact handleRequest_obeys p request w'
  | false => exact obeys_pure.mpr trivial

theorem serveGlobalRequests_obeys (w : Watch) :
    p.serveGlobalRequests.Obeys (mediation p) w Anywhere := by
  refine obeys_anywhere_bind (obeys_idle (idle_perform ⟨trivial, trivial⟩)) fun request w' => ?_
  rcases request with _ | request
  · exact obeys_pure.mpr trivial
  · exact obeys_anywhere_bind (handleGlobalRequest_obeys p request w') fun _ _ =>
      obeys_idle (.bind (idle_perform ⟨trivial, trivial⟩) fun _ => only_pure _)

theorem handleNewChannel_obeys (channel : NewChannel) (w : Watch) :
    (p.handleNewChannel channel).Obeys (mediation p) w Anywhere := by
  refine obeys_anywhere_bind (obeys_idle (idle_perform ⟨trivial, trivial⟩)) fun (created : Bool) w' => ?_
  cases created with
  | true => exact handleChannel_obeys p channel w'
  | false => exact obeys_idle (idle_perform ⟨trivial, trivial⟩)

theorem forwardRequests_obeys (c : ProxiedChannel) (source : Side) (w : Watch) :
    (p.forwardRequests c source).Obeys (mediation p) w Anywhere := by
  refine obeys_anywhere_bind (obeys_idle (idle_perform ⟨trivial, trivial⟩)) fun request w' => ?_
  cases source with
  | downstream =>
    rcases request with _ | request
    · exact obeys_pure.mpr trivial
    · exact obeys_anywhere_bind (forwardDownstreamRequest_obeys p c request w') fun _ _ =>
        obeys_pure.mpr trivial
  | upstream =>
    rcases request with _ | request
    · exact obeys_idle (.bind (idle_perform ⟨trivial, trivial⟩) fun _ => only_pure _)
    refine obeys_silent (.bind (silent_of_still (forwardUpstreamRequest_still p c request)) fun (more : Bool) => ?_)
    cases more with
    | true => exact only_pure _
    | false => exact .bind (silent_perform rfl) fun _ => only_pure _

/-- All goroutines of a proxied connection obey the monitor. -/
theorem system_obeys : p.system.Obeys (mediation p) (fun _ => True) (fun _ => True) where
  code task _ w _ := by
    have hend {prog : Handling (Option Task)} (h : prog.Obeys (mediation p) w Anywhere) :
        prog.Obeys (mediation p) w fun next _ => ∀ task' ∈ next, True ∧ True :=
      h.mono fun _ _ _ _ _ => ⟨trivial, trivial⟩
    cases task with
    | serveGlobalRequests => exact hend (serveGlobalRequests_obeys p w)
    | serveChannels => exact hend (obeys_idle serveChannels_idle)
    | handleChannel channel =>
      exact hend (obeys_anywhere_bind (handleNewChannel_obeys p channel w) fun _ _ =>
        obeys_pure.mpr trivial)
    | serveUpstreamChannels => exact hend (obeys_silent (silent_of_still (serveUpstreamChannels_still p)))
    | serveUpstreamRequests => exact hend (obeys_silent (silent_of_still serveUpstreamRequests_still))
    | waitUpstream =>
      exact hend (obeys_idle (.bind waitUpstream_idle fun _ => only_pure _))
    | serve c => exact hend (obeys_idle (.bind (serve_idle c) fun _ => only_pure _))
    | forwardRequests c source => exact hend (forwardRequests_obeys p c source w)
    | copyExtended c destination =>
      exact hend (obeys_idle (.bind (idle_perform ⟨trivial, trivial⟩) fun _ => only_pure _))
  started _ _ _ _ _ := trivial

end Sending

/-! ## Runs -/

/-- The last of the events of this kind since the goroutine turned to its current message. -/
def Latest (Kind : Op → Prop) (event : Event interface) (before : List (Event interface)) : Prop :=
  ∃ earlier between, before = earlier ++ event :: between ∧
    ∀ later ∈ between, later.op.boundary = false ∧ ¬ Kind later.op

/-- For the current message, the goroutine last began this operation, without an error. -/
def Begun (operation : Operation) (before : List (Event interface)) : Prop :=
  ∃ started : BeginResult, started.err = none ∧
    Latest (fun op => ∃ operation, op = .begin operation) ⟨.begin operation, started⟩ before

/-- For the current message, the goroutine last looked for this forward, and found it recorded. -/
def FoundForward (key : GoString) (before : List (Event interface)) : Prop :=
  Latest (fun op => ∃ key, op = .hasRemoteForward key) ⟨.hasRemoteForward key, true⟩ before

/-- What mediation means for the events of one goroutine: a message that it sends to the upstream
server passes by its kind, or the operation that it began for the message describes it. -/
def Mediated (p : Protocol) (events : List (Event interface)) : Prop :=
  ∀ before event rest message, events = before ++ event :: rest → event.op.message = some message →
    (∃ found, Passes p found message ∧ ∀ key ∈ found, FoundForward key before) ∨
      ∃ operation, Begun operation before ∧ Describes p.codec operation message

section Latest

variable {Kind : Op → Prop} {event : Event interface} {before : List (Event interface)}

theorem latest_concat_self : Latest Kind event (before ++ [event]) :=
  ⟨before, [], rfl, fun _ h => (by cases h)⟩

theorem Latest.concat (h : Latest Kind event before) {next : Event interface}
    (hboundary : next.op.boundary = false) (hkind : ¬ Kind next.op) :
    Latest Kind event (before ++ [next]) := by
  obtain ⟨earlier, between, rfl, hbetween⟩ := h
  refine ⟨earlier, between ++ [next], by simp, fun later hlater => ?_⟩
  rcases List.mem_append.mp hlater with hlater | hlater
  · exact hbetween later hlater
  · obtain rfl := List.mem_singleton.mp hlater
    exact ⟨hboundary, hkind⟩

end Latest

/-- The watch remembers what the goroutine did for its current message. -/
theorem after_spec (p : Protocol) (before : List (Event interface)) :
    (∀ operation ∈ ((mediation p).after {} before).granted, Begun operation before) ∧
      ∀ key ∈ ((mediation p).after {} before).found, FoundForward key before := by
  induction before using List.reverseRecOn with
  | nil => exact ⟨fun _ h => (by cases h), fun _ h => (by cases h)⟩
  | append_singleton before event ih =>
    obtain ⟨ihgranted, ihfound⟩ := ih
    obtain ⟨op, answer⟩ := event
    rw [Monitor.after_concat]
    generalize (mediation p).after {} before = w at ihgranted ihfound ⊢
    rcases op.kinds with ⟨operation, rfl⟩ | ⟨key, rfl⟩ | hboundary | ⟨hneutral, hboundary⟩
    · obtain ⟨finish, err⟩ := (answer : BeginResult)
      refine ⟨fun operation' h => ?_, fun key h => (ihfound key h).concat rfl (by simp)⟩
      cases err with
      | none =>
        obtain rfl := Option.some.inj h
        exact ⟨⟨finish, none⟩, rfl, latest_concat_self⟩
      | some err => cases h
    · refine ⟨fun operation h => ?_, fun key' h => ?_⟩
      · obtain ⟨started, herr, hlatest⟩ := ihgranted operation h
        exact ⟨started, herr, hlatest.concat rfl (by simp)⟩
      · cases answer with
        | true =>
          obtain rfl := Option.some.inj h
          exact latest_concat_self
        | false => cases h
    · rw [next_of_boundary hboundary]
      exact ⟨fun _ h => (by cases h), fun _ h => (by cases h)⟩
    · rw [(neutral_spec hneutral).2 answer]
      refine ⟨fun operation h => ?_, fun key h => (ihfound key h).concat hboundary ?_⟩
      · obtain ⟨started, herr, hlatest⟩ := ihgranted operation h
        refine ⟨started, herr, hlatest.concat hboundary ?_⟩
        rintro ⟨_, rfl⟩
        exact hneutral
      · rintro ⟨_, rfl⟩
        exact hneutral

/-- In every run of a proxied connection, whatever both peers send and however its goroutines are
scheduled, every message to the upstream server is mediated. -/
theorem run_mediated_upstream (p : Protocol) {trace : List (ℕ × Event interface)}
    {c : p.system.Config} (hrun : p.system.Run p.connection trace c) (i : ℕ) :
    Mediated p (System.eventsOf i trace) := by
  intro before event rest message hevents hmessage
  have haccepts := hrun.accepts (system_obeys p) (s := {}) trivial (fun _ _ => trivial) i
  obtain ⟨hgranted, hfound⟩ := after_spec p before
  rcases haccepts before event rest hevents message hmessage with
    hpasses | ⟨operation, hoperation, hdescribes⟩
  · exact Or.inl ⟨_, hpasses, hfound⟩
  · exact Or.inr ⟨operation, hgranted operation hoperation, hdescribes⟩

/-- The operation of a `direct-tcpip` channel to the host `db`. -/
def dbOperation : Operation where
  channelType := channelDirectTCPIP
  destinationHost := str "db"

/-- A client opens a `direct-tcpip` channel; goroutine 2 connects and opens it upstream. -/
theorem run_mediated_upstream_direct :
    ∃ trace c, plainProtocol.system.Run plainProtocol.connection trace c ∧
      (System.eventsOf 2 trace)[1]? = some ⟨.begin dbOperation, ⟨some 0, none⟩⟩ ∧
      (System.eventsOf 2 trace)[10]?
        = some ⟨.openChannel .upstream channelDirectTCPIP (str "db"), .ok 7⟩ ∧
      Mediated plainProtocol (System.eventsOf 2 trace) := by
  have h0 : plainProtocol.system.Run plainProtocol.connection [] plainProtocol.connection := .start
  have h1 := h0.perform 0 rfl (some (⟨0, channelDirectTCPIP, str "db"⟩ : NewChannel)) rfl
  have h2 := h1.perform 0 rfl () rfl
  have h3 := h2.perform 2 rfl true rfl
  have h4 := h3.perform 2 rfl (⟨some 0, none⟩ : BeginResult) rfl
  have h5 := h4.perform 2 rfl true (Or.inl ⟨rfl, rfl, rfl⟩)
  have h6 := h5.perform 2 rfl (Except.ok ()) rfl
  have h7 := h6.perform 2 rfl true rfl
  have h8 := h7.perform 2 rfl () rfl
  have h9 := h8.perform 2 rfl () rfl
  have h10 := h9.perform 2 rfl () rfl
  have h11 := h10.perform 2 rfl () rfl
  have h12 := h11.perform 2 rfl none ⟨rfl, rfl⟩
  have h13 := h12.perform 2 rfl (Except.ok 7) rfl
  exact ⟨_, _, h13, rfl, rfl, run_mediated_upstream plainProtocol h13 2⟩

end KubeSsh.SshProxy

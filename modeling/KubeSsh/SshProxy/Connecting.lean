import KubeSsh.SshProxy.Proxy

/-!
# `pkg/sshproxy`: who connects

The upstream connection is made by the first message that needs it, under `connectOnce`, and closed
by `close` or, if the proxy was closed meanwhile, by the goroutine that made it. Where a goroutine
is on the way is a `ConnectPhase`. `system_connecting`: all goroutines follow these phases.
-/

namespace KubeSsh.SshProxy

open SshProtocol CryptoSsh KubeSsh.System Prog

/-! ## Where a goroutine is -/

/-- What a goroutine has to do next about the connection. -/
inductive ConnectPhase
  /-- Nothing; `connectionProxy` may have admitted the message it is at. -/
  | idle (admitted : Bool)
  /-- `Connect`, as the first caller of `connectOnce`. -/
  | chosen
  /-- To store the connection that `Connect` returned. -/
  | connected
  /-- To store the error that `Connect` returned. -/
  | failed
  /-- To close the connection, as the proxy is closed. -/
  | refused
  /-- To leave `connectOnce`. -/
  | settled
  /-- To return what is stored. -/
  | ready
  /-- To close the proxy that `Protocol.Close` took. -/
  | leaving
  /-- To close the connection of the proxy that it closed. -/
  | closing
deriving DecidableEq

/-- What a goroutine may do in a phase, and the phase after it. -/
def connecting : Monitor interface ConnectPhase where
  Allowed s op := match s with
    | .idle admitted => match op with
      | .connectOnce => admitted = true
      | .connect _ | .setConnectErr _ | .setUpstream | .connectDone | .connection
      | .closeConn .upstream => False
      | _ => True
    | .chosen => ∃ target, op = .connect target
    | .connected => op = .setUpstream
    | .failed => ∃ err, op = .setConnectErr err
    | .settled => op = .connectDone ∨ ∃ task, op = .go task
    | .ready => op = .connection
    | .leaving => op = .close
    | .refused | .closing => op = .closeConn .upstream
  next s op answer := match op, answer with
    | .nextGlobalRequest .downstream, _ => .idle false
    | .connectionProxy, (created : Bool) => .idle created
    | .closeProtocol, (created : Bool) => if created then .leaving else .idle false
    | .connectOnce, (first : Bool) => if first then .chosen else .ready
    | .connect _, (connected : Except Message Unit) =>
      match connected with
      | .ok _ => .connected
      | .error _ => .failed
    | .setConnectErr _, _ => .settled
    | .setUpstream, (kept : Bool) => if kept then .settled else .refused
    | .connectDone, _ => .ready
    | .connection, _ => .idle false
    | .close, (closed : Option (Bool × List (Option FinishId))) =>
      match closed with
      | some (true, _) => .closing
      | _ => .idle false
    | .closeConn .upstream, _ => if s = .refused then .settled else .idle false
    | _, _ => s

/-- There is nothing to do about the connection. -/
def Rests (s : ConnectPhase) : Prop := ∃ admitted, s = .idle admitted

/-! ## Programs that leave the connection alone -/

/-- The operation has nothing to do with the connection, and receives no global request of the
client. -/
def Op.Unconnected : Op → Prop
  | .connectionProxy | .closeProtocol | .connectOnce | .connect _ | .setConnectErr _ | .setUpstream
  | .connectDone | .connection | .close | .closeConn .upstream | .nextGlobalRequest .downstream => False
  | _ => True

section Unconnected

variable {α : Type} (p : Protocol) {op : Op} {prog : Handling α}

theorem unconnected_perform (h : op.Unconnected) : (perform op).Only Op.Unconnected := only_perform.mpr h

/-- The next lemmas walk through the programs that never connect. -/
theorem finish_unconnected (finishOp : Option FinishId) (result : OperationResult) :
    (finish finishOp result).Only Op.Unconnected := by
  cases finishOp with
  | none => exact only_pure _
  | some id => exact unconnected_perform trivial

theorem callFinish_unconnected (finishOp : Option FinishId) (result : OperationResult) :
    (callFinish finishOp result).Only Op.Unconnected := by
  cases finishOp with
  | none => exact .bind (unconnected_perform trivial) fun answer => nomatch answer
  | some id => exact unconnected_perform trivial

theorem beginOperation_unconnected (operation : Option Operation) :
    (beginOperation operation).Only Op.Unconnected := by
  cases operation with
  | none => exact only_pure _
  | some operation =>
    refine .bind (unconnected_perform trivial) fun started => ?_
    obtain ⟨finishOp, err⟩ := (started : BeginResult)
    cases err with
    | none => exact only_pure _
    | some err => exact .bind (finish_unconnected _ _) fun _ => only_pure _

theorem replyIfWanted_unconnected (source : Side) (channel : ℕ) (request : Request) (ok : Bool) :
    (replyIfWanted source channel request ok).Only Op.Unconnected := by
  unfold replyIfWanted
  split
  · exact unconnected_perform trivial
  · exact only_pure _

theorem replyGlobalIfWanted_unconnected (request : Request) (ok : Bool) (payload : GoString) :
    (replyGlobalIfWanted request ok payload).Only Op.Unconnected := by
  unfold replyGlobalIfWanted
  split
  · exact unconnected_perform trivial
  · exact only_pure _

theorem startChannel_unconnected (c : ProxiedChannel) (finishOp : Option FinishId) :
    (startChannel c finishOp).Only Op.Unconnected :=
  .bind (unconnected_perform trivial) fun _ => unconnected_perform trivial

/-- A channel that is served has its upstream side already. -/
theorem serve_unconnected (c : ProxiedChannel) : (serve c).Only Op.Unconnected := by
  refine .bind (unconnected_perform trivial) fun _ => .bind (unconnected_perform trivial) fun _ => ?_
  refine .bind (unconnected_perform trivial) fun _ => .bind (unconnected_perform trivial) fun _ => ?_
  refine .bind (unconnected_perform trivial) fun _ => ?_
  exact .bind (unconnected_perform trivial) fun _ => finish_unconnected _ _

/-- Settling a request concerns its operation only. -/
theorem settleRequest_unconnected (c : ProxiedChannel) (request : Request)
    (effect : DownstreamRequestEffect) (finishOp : Option FinishId) (sent : Except Message Bool) :
    (settleRequest c request effect finishOp sent).Only Op.Unconnected := by
  unfold settleRequest
  split
  · exact only_pure _
  split
  · exact finish_unconnected _ _
  split
  · exact finish_unconnected _ _
  split
  · refine .bind (unconnected_perform trivial) fun previous => ?_
    rcases previous with _ | previous <;> exact finish_unconnected _ _
  · exact .bind (unconnected_perform trivial) fun _ => finish_unconnected _ _
  · exact finish_unconnected _ _

theorem settleGlobalRequest_unconnected (request : Request) (plan : GlobalRequestPlan)
    (finishOp : Option FinishId) (payload : GoString) :
    (p.settleGlobalRequest request plan finishOp payload).Only Op.Unconnected := by
  unfold Protocol.settleGlobalRequest
  split_ifs
  · refine .bind (unconnected_perform trivial) fun (added : Bool) => ?_
    cases added with
    | true => exact only_pure _
    | false => exact finish_unconnected _ _
  · exact .bind (.bind (unconnected_perform trivial) fun _ => finish_unconnected _ _) fun _ =>
      finish_unconnected _ _
  · exact finish_unconnected _ _

theorem forwardDownstreamRequest_unconnected (c : ProxiedChannel) (request : Request) :
    (p.forwardDownstreamRequest c request).Only Op.Unconnected := by
  unfold Protocol.forwardDownstreamRequest
  split
  · exact replyIfWanted_unconnected _ _ _ _
  refine .bind (beginOperation_unconnected _) fun begun => ?_
  rcases begun with err | finishOp
  · exact replyIfWanted_unconnected _ _ _ _
  refine .bind (unconnected_perform trivial) fun sent => ?_
  exact .bind (settleRequest_unconnected _ _ _ _ _) fun _ => replyIfWanted_unconnected _ _ _ _

theorem forwardUpstreamRequest_unconnected (c : ProxiedChannel) (request : Request) :
    (p.forwardUpstreamRequest c request).Only Op.Unconnected := by
  refine .bind (.optionForM fun payload _ => ?_) fun _ => ?_
  · unfold Protocol.recordExitStatus
    split
    · exact only_pure _
    · exact unconnected_perform trivial
  refine .bind (unconnected_perform trivial) fun _ => ?_
  exact .bind (replyIfWanted_unconnected _ _ _ _) fun _ => only_pure _

/-- Requests are forwarded on channels that are open. -/
theorem forwardRequests_unconnected (c : ProxiedChannel) (source : Side) :
    (p.forwardRequests c source).Only Op.Unconnected := by
  refine .bind (unconnected_perform trivial) fun request => ?_
  cases source with
  | downstream =>
    rcases request with _ | request
    · exact only_pure _
    · exact .bind (forwardDownstreamRequest_unconnected p c request) fun _ => only_pure _
  | upstream =>
    rcases request with _ | request
    · exact .bind (unconnected_perform trivial) fun _ => only_pure _
    refine .bind (forwardUpstreamRequest_unconnected p c request) fun (more : Bool) => ?_
    cases more with
    | true => exact only_pure _
    | false => exact .bind (unconnected_perform trivial) fun _ => only_pure _

theorem operationForUpstreamChannel_unconnected (channel : NewChannel) :
    (p.operationForUpstreamChannel channel).Only Op.Unconnected := by
  unfold Protocol.operationForUpstreamChannel
  split_ifs
  · split
    · exact only_pure _
    · refine .bind (unconnected_perform trivial) fun (found : Bool) => ?_
      cases found <;> exact only_pure _
  · refine .bind (unconnected_perform trivial) fun (found : Bool) => ?_
    cases found <;> exact only_pure _
  · exact only_pure _

/-- What the upstream server opens came over the connection. -/
theorem serveUpstreamChannels_unconnected : p.serveUpstreamChannels.Only Op.Unconnected := by
  refine .bind (unconnected_perform trivial) fun channel => ?_
  rcases channel with _ | channel
  · exact only_pure _
  refine .bind (.bind (operationForUpstreamChannel_unconnected p channel) fun operation => ?_)
    fun _ => only_pure _
  rcases operation with err | operation
  · exact unconnected_perform trivial
  refine .bind (beginOperation_unconnected operation) fun begun => ?_
  rcases begun with err | finishOp
  · exact unconnected_perform trivial
  refine .bind (unconnected_perform trivial) fun opened => ?_
  rcases opened with err | downstream
  · exact .bind (finish_unconnected _ _) fun _ => unconnected_perform trivial
  refine .bind (unconnected_perform trivial) fun accepted => ?_
  rcases accepted with err | _
  · exact .bind (unconnected_perform trivial) fun _ => finish_unconnected _ _
  · exact startChannel_unconnected _ _

theorem serveUpstreamRequests_unconnected : serveUpstreamRequests.Only Op.Unconnected := by
  refine .bind (unconnected_perform trivial) fun request => ?_
  rcases request with _ | request
  · exact only_pure _
  refine .bind (.bind (beginOperation_unconnected _) fun begun => ?_) fun _ => only_pure _
  rcases begun with err | finishOp
  · exact replyGlobalIfWanted_unconnected _ _ _
  refine .bind (unconnected_perform trivial) fun sent => ?_
  rcases sent with err | ⟨ok, payload⟩ <;>
    exact .bind (finish_unconnected _ _) fun _ => replyGlobalIfWanted_unconnected _ _ _

end Unconnected

/-! ## All programs -/

section Connecting

variable {α β : Type} {admitted : Bool} (p : Protocol)

/-- A goroutine at rest may do all these operations, and stays at rest. -/
theorem unconnected_spec {op : Op} (h : op.Unconnected) :
    connecting.Allowed (.idle admitted) op ∧
      ∀ answer, connecting.next (.idle admitted) op answer = .idle admitted := by
  cases op with
  | closeConn side | nextGlobalRequest side =>
    cases side with
    | downstream => first | exact ⟨trivial, fun _ => rfl⟩ | exact h.elim
    | upstream => first | exact ⟨trivial, fun _ => rfl⟩ | exact h.elim
  | _ => first | exact ⟨trivial, fun _ => rfl⟩ | exact h.elim

theorem obeys_unconnected {prog : Handling α} (h : prog.Only Op.Unconnected) :
    prog.Obeys connecting (.idle admitted) fun _ s => s = .idle admitted :=
  h.obeys fun _ hop => unconnected_spec hop

theorem obeys_unconnected_rests {prog : Handling α} (h : prog.Only Op.Unconnected) :
    prog.Obeys connecting (.idle admitted) fun _ s => Rests s :=
  (obeys_unconnected h).mono fun _ _ hs => ⟨admitted, hs⟩

theorem obeys_unconnected_bind {prog : Handling α} {f : α → Handling β} {post : β → ConnectPhase →
    Prop} (h : prog.Only Op.Unconnected) (hf : ∀ a, (f a).Obeys connecting (.idle admitted) post) :
    (prog >>= f).Obeys connecting (.idle admitted) post := by
  refine obeys_bind.mpr ((obeys_unconnected h).mono ?_)
  rintro a _ rfl
  exact hf a

/-- A program that comes to rest can go on with another. -/
theorem obeys_rests_bind {s : ConnectPhase} {prog : Handling α} {f : α → Handling β}
    {post : β → ConnectPhase → Prop} (h : prog.Obeys connecting s fun _ s => Rests s)
    (hf : ∀ a admitted, (f a).Obeys connecting (.idle admitted) post) :
    (prog >>= f).Obeys connecting s post := by
  refine obeys_bind.mpr (h.mono ?_)
  rintro a _ ⟨admitted, rfl⟩
  exact hf a admitted

/-- `close` closes the connection if it finds one. -/
theorem close_connecting {s : ConnectPhase} (hs : connecting.Allowed s .close) :
    close.Obeys connecting s fun _ s => Rests s := by
  refine obeys_perform_bind.mpr ⟨hs, fun closed => ?_⟩
  rcases closed with _ | ⟨upstream, finishes⟩
  · exact ⟨false, rfl⟩
  have hrest : ((perform (.closeConn .downstream) : Handling Unit) >>= fun _ => finishes.forM fun finishOp =>
      callFinish finishOp { err := some contextCanceled }).Only Op.Unconnected :=
    .bind (unconnected_perform trivial) fun _ => .forM fun _ _ => callFinish_unconnected _ _
  cases upstream with
  | true => exact obeys_perform_bind.mpr ⟨rfl, fun _ => obeys_unconnected_rests hrest⟩
  | false => exact obeys_unconnected_rests hrest

/-- Inside `connectOnce`: connect, store the outcome, and start what the connection needs. -/
theorem connectUpstream_connecting (target : Target) :
    (connectUpstream target).Obeys connecting .chosen fun _ s => s = .settled := by
  refine obeys_perform_bind.mpr ⟨⟨target, rfl⟩, fun connected => ?_⟩
  rcases connected with err | _
  · exact ⟨⟨err, rfl⟩, fun _ => rfl⟩
  refine obeys_perform_bind.mpr ⟨rfl, fun (kept : Bool) => ?_⟩
  cases kept with
  | true =>
    refine obeys_perform_bind.mpr ⟨Or.inr ⟨_, rfl⟩, fun _ => ?_⟩
    refine obeys_perform_bind.mpr ⟨Or.inr ⟨_, rfl⟩, fun _ => ?_⟩
    exact ⟨Or.inr ⟨_, rfl⟩, fun _ => rfl⟩
  | false => exact ⟨rfl, fun _ => rfl⟩

/-- A message that was admitted may connect. -/
theorem connect_connecting (target : Target) :
    (connect target).Obeys connecting (.idle true) fun _ s => s = .idle false := by
  refine obeys_perform_bind.mpr ⟨rfl, fun (first : Bool) => ?_⟩
  cases first with
  | true =>
    refine obeys_bind.mpr ((connectUpstream_connecting target).mono ?_)
    rintro _ _ rfl
    refine obeys_perform_bind.mpr ⟨Or.inl rfl, fun _ => ?_⟩
    exact ⟨rfl, fun _ => rfl⟩
  | false => exact ⟨rfl, fun _ => rfl⟩

/-- A channel of the client connects before it is opened upstream. -/
theorem handleChannel_connecting (channel : NewChannel) :
    (p.handleChannel channel).Obeys connecting (.idle true) fun _ s => Rests s := by
  unfold Protocol.handleChannel
  split
  · exact obeys_unconnected_rests (unconnected_perform trivial)
  refine obeys_unconnected_bind (beginOperation_unconnected _) fun begun => ?_
  rcases begun with err | finishOp
  · exact obeys_unconnected_rests (unconnected_perform trivial)
  refine obeys_bind.mpr ((connect_connecting p.target).mono ?_)
  rintro (_ | err) _ rfl
  · refine obeys_unconnected_rests (.bind (unconnected_perform trivial) fun opened => ?_)
    rcases opened with err | upstream
    · refine .bind (finish_unconnected _ _) fun _ => ?_
      cases err <;> exact unconnected_perform trivial
    refine .bind (unconnected_perform trivial) fun accepted => ?_
    rcases accepted with err | _
    · exact .bind (unconnected_perform trivial) fun _ => finish_unconnected _ _
    · exact startChannel_unconnected _ _
  · refine obeys_unconnected_bind (finish_unconnected _ _) fun _ => ?_
    exact obeys_unconnected_bind (unconnected_perform trivial) fun _ => close_connecting trivial

/-- A global request connects before it is sent. -/
theorem forwardGlobalRequest_connecting (request : Request) (plan : GlobalRequestPlan)
    (finishOp : Option FinishId) :
    (p.forwardGlobalRequest request plan finishOp).Obeys connecting (.idle true) fun _ s => Rests s := by
  refine obeys_bind.mpr ((connect_connecting p.target).mono ?_)
  rintro (_ | err) _ rfl
  · refine obeys_unconnected_rests (.bind (unconnected_perform trivial) fun sent => ?_)
    rcases sent with err | ⟨ok, payload⟩
    · exact .bind (finish_unconnected _ _) fun _ => only_pure _
    dsimp only
    split
    · exact .bind (finish_unconnected _ _) fun _ => only_pure _
    · exact .bind (settleGlobalRequest_unconnected _ _ _ _ _) fun _ => only_pure _
  · refine obeys_unconnected_bind (finish_unconnected _ _) fun _ => ?_
    exact obeys_rests_bind (close_connecting trivial) fun _ admitted => ⟨admitted, rfl⟩

theorem handleRequest_connecting (request : Request) :
    (p.handleRequest request).Obeys connecting (.idle true) fun _ s => Rests s := by
  unfold Protocol.handleRequest
  split
  · exact ⟨true, rfl⟩
  refine obeys_unconnected_bind (beginOperation_unconnected _) fun begun => ?_
  rcases begun with err | finishOp
  · exact ⟨true, rfl⟩
  dsimp only
  split_ifs
  · refine obeys_unconnected_bind (unconnected_perform trivial) fun (found : Bool) => ?_
    cases found with
    | true => exact obeys_unconnected_rests (.bind (finish_unconnected _ _) fun _ => only_pure _)
    | false => exact forwardGlobalRequest_connecting p _ _ _
  · refine obeys_unconnected_bind (unconnected_perform trivial) fun (found : Bool) => ?_
    cases found with
    | true => exact forwardGlobalRequest_connecting p _ _ _
    | false => exact ⟨true, rfl⟩
  · exact forwardGlobalRequest_connecting p _ _ _

/-- Each request is admitted anew. -/
theorem serveGlobalRequests_connecting :
    p.serveGlobalRequests.Obeys connecting (.idle admitted) fun _ s => Rests s := by
  refine obeys_perform_bind.mpr ⟨trivial, fun request => ?_⟩
  rcases request with _ | request
  · exact ⟨false, rfl⟩
  have hhandle : (p.handleGlobalRequest request).Obeys connecting (.idle false) fun _ s => Rests s := by
    refine obeys_perform_bind.mpr ⟨trivial, fun (created : Bool) => ?_⟩
    cases created with
    | true => exact handleRequest_connecting p request
    | false => exact ⟨false, rfl⟩
  exact obeys_rests_bind hhandle fun _ _ => obeys_unconnected_rests
    (.bind (unconnected_perform trivial) fun _ => only_pure _)

theorem handleNewChannel_connecting (channel : NewChannel) :
    (p.handleNewChannel channel).Obeys connecting (.idle admitted) fun _ s => Rests s := by
  refine obeys_perform_bind.mpr ⟨trivial, fun (created : Bool) => ?_⟩
  cases created with
  | true => exact handleChannel_connecting p channel
  | false => exact obeys_unconnected_rests (unconnected_perform trivial)

/-- The loop over channels leaves the connection to `Close`. -/
theorem serveChannels_connecting :
    serveChannels.Obeys connecting (.idle admitted) fun _ s => Rests s := by
  refine obeys_unconnected_bind (unconnected_perform trivial) fun channel => ?_
  rcases channel with _ | channel
  · have hclose : closeConnection.Obeys connecting (.idle admitted) fun _ s => Rests s := by
      refine obeys_perform_bind.mpr ⟨trivial, fun (created : Bool) => ?_⟩
      cases created with
      | true => exact close_connecting rfl
      | false => exact ⟨false, rfl⟩
    refine obeys_unconnected_bind (unconnected_perform trivial) fun _ => ?_
    exact obeys_rests_bind hclose fun _ _ => obeys_unconnected_rests
      (.bind (unconnected_perform trivial) fun _ => only_pure _)
  · exact obeys_unconnected_rests (.bind (unconnected_perform trivial) fun _ => only_pure _)

/-- All goroutines of a proxied connection follow the phases. -/
theorem system_connecting : p.system.Follows connecting (fun _ => .idle false) (fun _ s => Rests s) Rests where
  code task s hs := by
    obtain ⟨admitted, rfl⟩ := hs
    have hend {prog : Handling (Option Task)}
        (h : prog.Obeys connecting (.idle admitted) fun _ s => Rests s) :
        prog.Obeys connecting (.idle admitted) (Ends (fun _ s => Rests s) Rests : Option p.system.Task → _) :=
      h.mono fun next _ hs => by cases next <;> exact hs
    refine hend ?_
    cases task with
    | serveGlobalRequests => exact serveGlobalRequests_connecting p
    | serveChannels => exact serveChannels_connecting
    | handleChannel channel =>
      exact obeys_rests_bind (handleNewChannel_connecting p channel) fun _ admitted => ⟨admitted, rfl⟩
    | serveUpstreamChannels => exact obeys_unconnected_rests (serveUpstreamChannels_unconnected p)
    | serveUpstreamRequests => exact obeys_unconnected_rests serveUpstreamRequests_unconnected
    | waitUpstream =>
      have hwait : waitUpstream.Obeys connecting (.idle admitted) fun _ s => Rests s :=
        obeys_unconnected_bind (unconnected_perform trivial) fun _ => close_connecting trivial
      exact obeys_rests_bind hwait fun _ admitted => ⟨admitted, rfl⟩
    | serve c => exact obeys_unconnected_rests (.bind (serve_unconnected c) fun _ => only_pure _)
    | forwardRequests c source => exact obeys_unconnected_rests (forwardRequests_unconnected p c source)
    | copyExtended c destination =>
      exact obeys_unconnected_rests (.bind (unconnected_perform trivial) fun _ => only_pure _)
  started _ _ _ _ _ := ⟨false, rfl⟩

end Connecting

end KubeSsh.SshProxy

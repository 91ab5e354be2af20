import KubeSsh.Common.Ledger
import KubeSsh.Common.Waiting
import KubeSsh.SshProxy.CriticalSections
import KubeSsh.SshProxy.Mediation
import Mathlib.Algebra.BigOperators.Group.Finset.Basic
import Mathlib.Algebra.Order.BigOperators.Group.List
import Mathlib.Data.Multiset.OrderedMonoid

/-!
# `pkg/sshproxy`: every operation that was begun is finished

A `FinishOperation` is a token: `begin` gives it to the goroutine that called it, `finish` takes it,
and in between it moves between goroutines, the recorded forwards and the proxied channels. `serve`
owns the right to take the operation of its channel, which is a token as well.
-/

namespace KubeSsh.SshProxy

open SshProtocol CryptoSsh

/-! ## Tokens -/

inductive Token
  /-- An operation that is to be finished. -/
  | operation (id : FinishId)
  /-- The channel whose operation `serve` will take, by its number. -/
  | serving (channel : ℕ)
  /-- The channel whose requests are forwarded. -/
  | forwarding (channel : ℕ)
deriving DecidableEq

/-- The token of a `FinishOperation` that may be nil. -/
def tokens : Option FinishId → Multiset Token
  | none => 0
  | some id => {.operation id}

/-- What a goroutine starts with. -/
def Task.tokens : Task → Multiset Token
  | .serve c => {.serving c.upstream} + {.forwarding c.upstream}
  | .forwardRequests c .downstream => {.forwarding c.upstream}
  | _ => 0

/-- What a goroutine ends with: that it forwarded requests is of no use then. -/
def Task.leaves : Task → Multiset Token
  | .forwardRequests c .downstream => {.forwarding c.upstream}
  | _ => 0

/-- The operations that the operations of a goroutine take from it and give to it. -/
def lifecycle : Ledger interface Token where
  takes
    | .go task => task.tokens
    | .finish id _ => {.operation id}
    | .addRemoteForward _ finish | .setAgentForward finish | .newProxiedChannel _ finish =>
      tokens finish
    | .replaceFinish c finish => {.forwarding c.upstream} + tokens finish
    | .takeFinish c => {.serving c.upstream}
    | _ => 0
  gives op answer := match op, answer with
    | .begin _, (started : BeginResult) => tokens started.finish
    | .addRemoteForward _ finish, (recorded : Bool) => if recorded then 0 else tokens finish
    | .removeRemoteForward _, (finish : Option FinishId) => tokens finish
    | .setAgentForward finish, (previous : Option (Option FinishId)) => tokens (previous.getD finish)
    | .newProxiedChannel c _, _ => {.serving c.upstream} + {.forwarding c.upstream}
    | .replaceFinish c _, (previous : Option FinishId) => {.forwarding c.upstream} + tokens previous
    | .takeFinish _, (state : ChannelState) => tokens state.finish
    | .close, (closed : Option (Bool × List (Option FinishId))) =>
      closed.elim 0 fun found => (found.2.map tokens).sum
    | _, _ => 0

/-! ## The goroutines -/

section Programs

open Prog

variable (p : Protocol)

theorem free_perform {op : Op} (htakes : lifecycle.takes op = 0)
    (hgives : ∀ answer, lifecycle.gives op answer = 0) : (perform op).Only lifecycle.Free :=
  only_perform.mpr ⟨htakes, hgives⟩

theorem free_of_plain {α : Type} {prog : Handling α} (h : prog.Only Op.Plain) :
    prog.Only lifecycle.Free := by
  refine h.mono fun op hop => ?_
  cases op with
  | go task => cases task <;> first | exact ⟨rfl, fun _ => rfl⟩ | exact hop.elim
  | _ => first | exact ⟨rfl, fun _ => rfl⟩ | exact hop.elim

theorem finish_moves (finishOp : Option FinishId) (result : OperationResult) :
    (finish finishOp result).Moves lifecycle (tokens finishOp) fun _ => 0 := by
  cases finishOp with
  | none => exact moves_pure rfl
  | some id => exact moves_perform (I := interface) (.finish id result)

theorem callFinish_moves (finishOp : Option FinishId) (result : OperationResult) :
    (callFinish finishOp result).Moves lifecycle (tokens finishOp) fun _ => 0 := by
  cases finishOp with
  | none => exact (moves_perform (I := interface) .nilCall).bind fun answer => nomatch answer
  | some id => exact moves_perform (I := interface) (.finish id result)

/-- The tokens that `beginOperation` leaves. -/
def begunTokens : Except Message (Option FinishId) → Multiset Token
  | .error _ => 0
  | .ok finishOp => tokens finishOp

theorem beginOperation_moves (operation : Option Operation) :
    (beginOperation operation).Moves lifecycle 0 begunTokens := by
  cases operation with
  | none => exact moves_pure rfl
  | some operation =>
    refine (moves_perform (I := interface) (.begin operation)).bind fun started => ?_
    obtain ⟨finishOp, err⟩ := (started : BeginResult)
    cases err with
    | none => exact moves_pure rfl
    | some err => exact (finish_moves finishOp {}).bind fun _ => moves_pure rfl

theorem close_moves : close.Moves lifecycle 0 fun _ => 0 := by
  refine (moves_perform (I := interface) .close).bind fun closed => ?_
  rcases (closed : Option (Bool × List (Option FinishId))) with _ | ⟨upstream, finishes⟩
  · exact moves_pure rfl
  · refine (Only.optionForM fun _ _ => free_perform rfl fun _ => rfl).moves_bind fun _ => ?_
    refine (free_perform rfl fun _ => rfl).moves_bind fun _ => ?_
    exact moves_forM fun finishOp => callFinish_moves finishOp _

theorem addRemoteForward_moves (key : GoString) (finishOp : Option FinishId) :
    (addRemoteForward key finishOp).Moves lifecycle (tokens finishOp) fun _ => 0 := by
  refine (moves_perform (I := interface) (.addRemoteForward key finishOp)).bind fun recorded => ?_
  cases (recorded : Bool) with
  | true => exact moves_pure rfl
  | false => exact finish_moves finishOp _

theorem removeRemoteForward_moves (key : GoString) (result : OperationResult) :
    (removeRemoteForward key result).Moves lifecycle 0 fun _ => 0 :=
  (moves_perform (I := interface) (.removeRemoteForward key)).bind fun finishOp =>
    finish_moves finishOp result

theorem setAgentForward_moves (finishOp : Option FinishId) :
    (setAgentForward finishOp).Moves lifecycle (tokens finishOp) fun _ => 0 := by
  refine (moves_perform (I := interface) (.setAgentForward finishOp)).bind fun previous => ?_
  rcases (previous : Option (Option FinishId)) with _ | previous <;> exact finish_moves _ _

theorem replaceFinish_moves (c : ProxiedChannel) (finishOp : Option FinishId) :
    (replaceFinish c finishOp).Moves lifecycle ({.forwarding c.upstream} + tokens finishOp)
      fun _ => {.forwarding c.upstream} := by
  refine (moves_perform (I := interface) (.replaceFinish c finishOp)).bind fun previous => ?_
  exact (finish_moves previous _).keep {.forwarding c.upstream}

theorem startChannel_moves (c : ProxiedChannel) (finishOp : Option FinishId) :
    (startChannel c finishOp).Moves lifecycle (tokens finishOp) fun _ => 0 :=
  (moves_perform (I := interface) (.newProxiedChannel c finishOp)).bind fun _ =>
    moves_perform (I := interface) (.go (.serve c))

theorem serve_moves (c : ProxiedChannel) :
    (serve c).Moves lifecycle (Task.serve c).tokens fun _ => 0 := by
  unfold serve
  change Moves lifecycle ({.serving c.upstream} + {.forwarding c.upstream}) _ _
  rw [add_comm]
  refine (moves_perform (I := interface) (.go (.forwardRequests c .downstream))).bind_frame fun _ => ?_
  refine (free_perform rfl fun _ => rfl).moves_bind fun _ => ?_
  refine (free_perform rfl fun _ => rfl).moves_bind fun _ => ?_
  refine (free_perform rfl fun _ => rfl).moves_bind fun _ => ?_
  refine (free_perform rfl fun _ => rfl).moves_bind fun proxyErr => ?_
  change Moves lifecycle (0 + {.serving c.upstream}) _ _
  rw [zero_add]
  refine (moves_perform (I := interface) (.takeFinish c)).bind fun state => ?_
  exact finish_moves _ _

theorem settleRequest_moves (c : ProxiedChannel) (request : Request)
    (effect : DownstreamRequestEffect) (finishOp : Option FinishId) (sent : Except Message Bool) :
    (settleRequest c request effect finishOp sent).Moves lifecycle
      ({.forwarding c.upstream} + tokens finishOp) fun _ => {.forwarding c.upstream} := by
  unfold settleRequest
  split
  · rename_i hnone
    rw [Option.isNone_iff_eq_none.mp hnone]
    exact moves_pure (add_zero _)
  split
  · exact (finish_moves _ _).keep _
  split
  · exact (finish_moves _ _).keep _
  split
  · exact (setAgentForward_moves _).keep _
  · exact replaceFinish_moves c finishOp
  · exact (finish_moves _ _).keep _

theorem forwardDownstreamRequest_moves (c : ProxiedChannel) (request : Request) :
    (p.forwardDownstreamRequest c request).Moves lifecycle {.forwarding c.upstream}
      fun _ => {.forwarding c.upstream} := by
  unfold Protocol.forwardDownstreamRequest
  split
  · exact (free_of_plain (replyIfWanted_plain _ _ _ _)).moves _
  refine (beginOperation_moves _).bind_keep fun begun => ?_
  rcases begun with err | finishOp
  · change Moves lifecycle ({.forwarding c.upstream} + 0) _ _
    rw [add_zero]
    exact (free_of_plain (replyIfWanted_plain _ _ _ _)).moves _
  refine (free_perform rfl fun _ => rfl).moves_bind fun sent => ?_
  exact (settleRequest_moves _ _ _ _ _).bind fun _ => (free_of_plain (replyIfWanted_plain _ _ _ _)).moves _

theorem forwardUpstreamRequest_free (c : ProxiedChannel) (request : Request) :
    (p.forwardUpstreamRequest c request).Only lifecycle.Free := by
  have hrecord (payload : GoString) : (p.recordExitStatus c payload).Only lifecycle.Free := by
    unfold Protocol.recordExitStatus
    split
    · exact only_pure _
    · exact free_perform rfl fun _ => rfl
  refine .bind (.optionForM fun payload _ => hrecord payload) fun _ => ?_
  refine .bind (free_perform rfl fun _ => rfl) fun sent => ?_
  exact .bind (free_of_plain (replyIfWanted_plain _ _ _ _)) fun _ => only_pure _

theorem forwardRequests_moves (c : ProxiedChannel) (source : Side) :
    (p.forwardRequests c source).Moves lifecycle (Task.forwardRequests c source).tokens
      fun next => next.elim (Task.forwardRequests c source).leaves Task.tokens := by
  unfold Protocol.forwardRequests
  refine (free_perform rfl fun _ => rfl).moves_bind fun received => ?_
  rcases (received : Option Request) with _ | request
  · cases source with
    | downstream => exact moves_pure rfl
    | upstream => exact (free_perform rfl fun _ => rfl).moves_bind fun _ => moves_pure rfl
  · cases source with
    | downstream => exact (forwardDownstreamRequest_moves p c request).bind fun _ => moves_pure rfl
    | upstream =>
      refine (forwardUpstreamRequest_free p c request).moves_bind fun goesOn => ?_
      cases goesOn with
      | true => exact moves_pure rfl
      | false => exact (free_perform rfl fun _ => rfl).moves_bind fun _ => moves_pure rfl

theorem handleChannel_moves (channel : NewChannel) :
    (p.handleChannel channel).Moves lifecycle 0 fun _ => 0 := by
  unfold Protocol.handleChannel
  split
  · exact (free_perform rfl fun _ => rfl).moves _
  refine (beginOperation_moves _).bind fun begun => ?_
  rcases begun with err | finishOp
  · exact (free_perform rfl fun _ => rfl).moves _
  refine (free_of_plain (connect_plain _)).moves_bind fun connected => ?_
  rcases connected with _ | err
  · refine (free_perform rfl fun _ => rfl).moves_bind fun opened => ?_
    rcases (opened : Except OpenError ℕ) with err | upstream
    · exact (finish_moves _ _).bind fun _ => (free_of_plain (rejectUnopened_plain _ _)).moves _
    refine (free_perform rfl fun _ => rfl).moves_bind fun accepted => ?_
    rcases (accepted : Except Message Unit) with err | _
    · exact (free_perform rfl fun _ => rfl).moves_bind fun _ => finish_moves _ _
    · exact startChannel_moves _ _
  · refine (finish_moves _ _).bind fun _ => ?_
    exact (free_perform rfl fun _ => rfl).moves_bind fun _ => close_moves

/-! ## Global requests -/

theorem settleGlobalRequest_moves (request : Request) (plan : GlobalRequestPlan)
    (finishOp : Option FinishId) (payload : GoString) :
    (p.settleGlobalRequest request plan finishOp payload).Moves lifecycle (tokens finishOp)
      fun _ => 0 := by
  unfold Protocol.settleGlobalRequest
  split_ifs
  · exact addRemoteForward_moves _ _
  · refine (removeRemoteForward_moves _ _).bind_keep fun _ => ?_
    rw [add_zero]
    exact finish_moves _ _
  · exact finish_moves _ _

theorem forwardGlobalRequest_moves (request : Request) (plan : GlobalRequestPlan)
    (finishOp : Option FinishId) :
    (p.forwardGlobalRequest request plan finishOp).Moves lifecycle (tokens finishOp) fun _ => 0 := by
  unfold Protocol.forwardGlobalRequest
  refine (free_of_plain (connect_plain _)).moves_bind fun connected => ?_
  rcases connected with _ | err
  · refine (free_perform rfl fun _ => rfl).moves_bind fun sent => ?_
    rcases (sent : Except Message (Bool × GoString)) with err | ⟨ok, payload⟩
    · exact (finish_moves _ _).bind fun _ => moves_pure rfl
    dsimp only
    split
    · exact (finish_moves _ _).bind fun _ => moves_pure rfl
    · exact (settleGlobalRequest_moves p _ _ _ _).bind fun _ => moves_pure rfl
  · refine (finish_moves _ _).bind fun _ => ?_
    exact close_moves.bind fun _ => moves_pure rfl

/-- A cancellation begins no operation. -/
theorem operation_of_cancel {payload : GoString} {plan : GlobalRequestPlan}
    (h : p.planGlobalRequest requestCancelTCPIPForward payload = .ok plan) : plan.operation = none := by
  unfold Protocol.planGlobalRequest at h
  rw [if_neg (by decide), if_pos rfl] at h
  split at h
  · cases h
  · obtain rfl := Except.ok.inj h
    rfl

theorem handleRequest_moves (request : Request) :
    (p.handleRequest request).Moves lifecycle 0 fun _ => 0 := by
  unfold Protocol.handleRequest
  split
  · exact moves_pure rfl
  rename_i plan hplan
  by_cases hcancel : request.type = requestCancelTCPIPForward
  · rw [hcancel] at hplan
    rw [operation_of_cancel p hplan]
    change Moves lifecycle 0 (ite _ _ _) _
    rw [if_neg (by rw [hcancel]; decide), if_pos hcancel]
    refine (free_perform rfl fun _ => rfl).moves_bind fun found => ?_
    cases (found : Bool) with
    | true => exact forwardGlobalRequest_moves p request plan none
    | false => exact moves_pure rfl
  refine (beginOperation_moves _).bind fun begun => ?_
  rcases begun with err | finishOp
  · exact moves_pure rfl
  dsimp only
  split
  · refine (free_perform rfl fun _ => rfl).moves_bind fun found => ?_
    cases (found : Bool) with
    | true => exact (finish_moves _ _).bind fun _ => moves_pure rfl
    | false => exact forwardGlobalRequest_moves p request plan finishOp
  · exact forwardGlobalRequest_moves p request plan finishOp

/-! ## What the upstream server opens and asks -/

theorem operationForUpstreamChannel_free (channel : NewChannel) :
    (p.operationForUpstreamChannel channel).Only lifecycle.Free := by
  unfold Protocol.operationForUpstreamChannel
  split_ifs
  · split
    · exact only_pure _
    · refine .bind (free_perform rfl fun _ => rfl) fun found => ?_
      cases (found : Bool) <;> exact only_pure _
  · refine .bind (free_perform rfl fun _ => rfl) fun found => ?_
    cases (found : Bool) <;> exact only_pure _
  · exact only_pure _

theorem handleUpstreamChannel_moves (channel : NewChannel) :
    (p.handleUpstreamChannel channel).Moves lifecycle 0 fun _ => 0 := by
  unfold Protocol.handleUpstreamChannel
  refine (operationForUpstreamChannel_free p channel).moves_bind fun operation => ?_
  rcases operation with err | operation
  · exact (free_perform rfl fun _ => rfl).moves _
  refine (beginOperation_moves _).bind fun begun => ?_
  rcases begun with err | finishOp
  · exact (free_perform rfl fun _ => rfl).moves _
  refine (free_perform rfl fun _ => rfl).moves_bind fun opened => ?_
  rcases (opened : Except OpenError ℕ) with err | downstream
  · exact (finish_moves _ _).bind fun _ => (free_perform rfl fun _ => rfl).moves _
  refine (free_perform rfl fun _ => rfl).moves_bind fun accepted => ?_
  rcases (accepted : Except Message Unit) with err | _
  · exact (free_perform rfl fun _ => rfl).moves_bind fun _ => finish_moves _ _
  · exact startChannel_moves _ _

theorem handleUpstreamRequest_moves (request : Request) :
    (handleUpstreamRequest request).Moves lifecycle 0 fun _ => 0 := by
  unfold handleUpstreamRequest
  refine (beginOperation_moves _).bind fun begun => ?_
  rcases begun with err | finishOp
  · exact (free_of_plain (replyGlobalIfWanted_plain _ _ _)).moves _
  refine (free_perform rfl fun _ => rfl).moves_bind fun sent => ?_
  rcases (sent : Except Message (Bool × GoString)) with err | ⟨ok, payload⟩
  · exact (finish_moves _ _).bind fun _ => (free_of_plain (replyGlobalIfWanted_plain _ _ _)).moves _
  · exact (finish_moves _ _).bind fun _ => (free_of_plain (replyGlobalIfWanted_plain _ _ _)).moves _

/-! ## The connection -/

theorem serveChannels_moves :
    serveChannels.Moves lifecycle 0 fun next => next.elim 0 Task.tokens := by
  refine (free_perform rfl fun _ => rfl).moves_bind fun received => ?_
  rcases (received : Option NewChannel) with _ | channel
  · refine (free_perform rfl fun _ => rfl).moves_bind fun _ => ?_
    have hclose : closeConnection.Moves lifecycle 0 fun _ => 0 := by
      refine (free_perform rfl fun _ => rfl).moves_bind fun created => ?_
      cases (created : Bool) with
      | true => exact close_moves
      | false => exact moves_pure rfl
    refine hclose.bind fun _ => ?_
    exact (free_perform rfl fun _ => rfl).moves_bind fun _ => moves_pure rfl
  · exact (free_perform rfl fun _ => rfl).moves_bind fun _ => moves_pure rfl

theorem serveGlobalRequests_moves :
    p.serveGlobalRequests.Moves lifecycle 0 fun next => next.elim 0 Task.tokens := by
  refine (free_perform rfl fun _ => rfl).moves_bind fun received => ?_
  rcases (received : Option Request) with _ | request
  · exact moves_pure rfl
  have hhandle : (p.handleGlobalRequest request).Moves lifecycle 0 fun _ => 0 := by
    refine (free_perform rfl fun _ => rfl).moves_bind fun open' => ?_
    cases (open' : Bool) with
    | true => exact handleRequest_moves p request
    | false => exact moves_pure rfl
  refine hhandle.bind fun _ => ?_
  exact (free_perform rfl fun _ => rfl).moves_bind fun _ => moves_pure rfl

/-- Every goroutine passes on the operations it was given or begins. -/
theorem system_balanced : p.system.Balanced lifecycle Task.tokens Task.leaves := by
  intro task
  cases task with
  | serveGlobalRequests => exact serveGlobalRequests_moves p
  | serveChannels => exact serveChannels_moves
  | handleChannel channel =>
    have hhandle : (p.handleNewChannel channel).Moves lifecycle 0 fun _ => 0 := by
      refine (free_perform rfl fun _ => rfl).moves_bind fun open' => ?_
      cases (open' : Bool) with
      | true => exact handleChannel_moves p channel
      | false => exact (free_perform rfl fun _ => rfl).moves _
    exact hhandle.bind fun _ => moves_pure rfl
  | serveUpstreamChannels =>
    refine (free_perform rfl fun _ => rfl).moves_bind fun received => ?_
    rcases (received : Option NewChannel) with _ | channel
    · exact moves_pure rfl
    · exact (handleUpstreamChannel_moves p channel).bind fun _ => moves_pure rfl
  | serveUpstreamRequests =>
    refine (free_perform rfl fun _ => rfl).moves_bind fun received => ?_
    rcases (received : Option Request) with _ | request
    · exact moves_pure rfl
    · exact (handleUpstreamRequest_moves request).bind fun _ => moves_pure rfl
  | waitUpstream =>
    have hwait : waitUpstream.Moves lifecycle 0 fun _ => 0 :=
      (free_perform rfl fun _ => rfl).moves_bind fun _ => close_moves
    exact hwait.bind fun _ => moves_pure rfl
  | serve c => exact (serve_moves c).bind fun _ => moves_pure rfl
  | forwardRequests c source => exact forwardRequests_moves p c source
  | copyExtended c destination => exact (free_perform rfl fun _ => rfl).moves_bind fun _ => moves_pure rfl

end Programs

/-! ## Traces -/

/-- `begin` returned the operation. -/
def begins (id : FinishId) (entry : ℕ × Event interface) : Bool :=
  match entry.2.op, entry.2.answer with
  | .begin _, (started : BeginResult) => started.finish = some id
  | _, _ => false

/-- The operation was finished. -/
def finishes (id : FinishId) (entry : ℕ × Event interface) : Bool :=
  match entry.2.op with
  | .finish id' _ => id' = id
  | _ => false

/-- The number of the channel that is proxied from now on. -/
def Op.creates : Op → Option ℕ
  | .newProxiedChannel c _ => some c.upstream
  | _ => none

/-- The number of the channel whose operation `serve` takes. -/
def Op.takesFrom : Op → Option ℕ
  | .takeFinish c => some c.upstream
  | _ => none

/-- The forwards that are recorded after a trace. -/
def forwardsAfter (trace : Trace) : GoMap (Option FinishId) :=
  trace.foldl (fun forwards entry => recordedNext forwards entry.2.op entry.2.answer) ∅

/-- The step loses no operation: a forward is recorded under a key that is not recorded yet, and no
session operation is put into a channel whose operation `serve` has taken. The numbers of channels
tell them apart. -/
def Orderly (before : Trace) (entry : ℕ × Event interface) : Prop :=
  match entry.2.op, entry.2.answer with
  | .addRemoteForward key _, (recorded : Bool) => recorded = true → key ∉ forwardsAfter before
  | .replaceFinish c _, _ => ∀ earlier ∈ before, earlier.2.op.takesFrom ≠ some c.upstream
  | .newProxiedChannel c _, _ => ∀ earlier ∈ before, earlier.2.op.creates ≠ some c.upstream
  | _, _ => True

/-! ## What the shared state holds -/

/-- Whether a `FinishOperation` is the one of the operation, as a number. -/
def hits (id : FinishId) (finish : Option FinishId) : ℕ := if finish = some id then 1 else 0

/-- How often the operation is stored, in the channels of the given numbers and elsewhere. -/
def ProxyState.stored (s : ProxyState) (numbers : Finset ℕ) (id : FinishId) : ℕ :=
  (s.remoteForwards.entries.map (·.2)).count (some id) + hits id s.agentForward +
    ∑ n ∈ numbers, hits id (s.channels n).finish

section Stored

variable {s s' : ProxyState} {numbers : Finset ℕ} (id : FinishId)

theorem count_tokens (finish : Option FinishId) : (tokens finish).count (.operation id) = hits id finish := by
  cases finish with
  | none => rfl
  | some id' => simp [tokens, hits, Multiset.count_singleton, eq_comm]

theorem count_sum_tokens (finishes : List (Option FinishId)) :
    ((finishes.map tokens).sum).count (.operation id) = finishes.count (some id) := by
  induction finishes with
  | nil => rfl
  | cons finish finishes ih =>
    rw [List.map_cons, List.sum_cons, Multiset.count_add, count_tokens, ih, List.count_cons, add_comm]
    simp [hits]

/-- The content of one channel changes. -/
theorem sum_update {channels : ℕ → ChannelState} {n : ℕ} (hn : n ∈ numbers) (state : ChannelState) :
    ∑ m ∈ numbers, hits id (Function.update channels n state m).finish + hits id (channels n).finish
      = ∑ m ∈ numbers, hits id (channels m).finish + hits id state.finish := by
  have hrest : ∑ m ∈ numbers.erase n, hits id (Function.update channels n state m).finish
      = ∑ m ∈ numbers.erase n, hits id (channels m).finish :=
    Finset.sum_congr rfl fun m hm => by rw [Function.update_of_ne (Finset.ne_of_mem_erase hm)]
  rw [← Finset.add_sum_erase numbers _ hn, ← Finset.add_sum_erase numbers _ hn, hrest,
    Function.update_self]
  omega

end Stored

/-! ## The account of a run -/

/-- The numbers of the channels that are proxied. -/
def channelsOf (trace : Trace) : Finset ℕ := (trace.filterMap (·.2.op.creates)).toFinset

theorem mem_channelsOf {trace : Trace} {n : ℕ} :
    n ∈ channelsOf trace ↔ ∃ entry ∈ trace, entry.2.op.creates = some n := by
  rw [channelsOf, List.mem_toFinset, List.mem_filterMap]

/-- Where the operations are that were begun and not finished: with a goroutine or stored. -/
structure Accounted (trace : Trace) (s : ProxyState) (held : Multiset Token) : Prop where
  operations : ∀ id, held.count (.operation id) + s.stored (channelsOf trace) id +
    trace.countP (finishes id) = trace.countP (begins id)
  serving : ∀ n, held.count (.serving n) + trace.countP (·.2.op.takesFrom = some n)
    = trace.countP (·.2.op.creates = some n)
  forwarding : ∀ n, .forwarding n ∈ held → n ∈ channelsOf trace
  channels : ∀ n, (s.channels n).finish ≠ none →
    n ∈ channelsOf trace ∧ ∀ entry ∈ trace, entry.2.op.takesFrom ≠ some n
  forwards : s.remoteForwards = forwardsAfter trace
  closed : s.Closed

section Flow

variable (op : Op) (answer : op.Answer) (n : ℕ)

/-- The tokens of the goroutines that an operation starts. -/
def Op.startedTokens : Op → Multiset Token
  | .go task => task.tokens
  | _ => 0

theorem sum_started (p : Protocol) (op : Op) :
    ((p.system.started op).map Task.tokens).sum = op.startedTokens := by
  cases op with
  | go task => exact add_zero _
  | _ => rfl

/-- Only operations come out of what is stored. -/
theorem count_tokens_of_ne {token : Token} (h : ∀ id, token ≠ .operation id)
    (finish : Option FinishId) : (tokens finish).count token = 0 := by
  cases finish with
  | none => rfl
  | some id => exact Multiset.count_singleton token (.operation id) ▸ if_neg (h id)

theorem count_sum_tokens_of_ne {token : Token} (h : ∀ id, token ≠ .operation id)
    (finishes : List (Option FinishId)) : ((finishes.map tokens).sum).count token = 0 := by
  induction finishes with
  | nil => rfl
  | cons finish finishes ih =>
    rw [List.map_cons, List.sum_cons, Multiset.count_add, count_tokens_of_ne h, ih]

/-- The other tokens come from `newProxiedChannel`, and `takeFinish` takes the right to serve. -/
theorem other_flow {token : Token} (h : ∀ id, token ≠ .operation id) :
    (lifecycle.gives op answer).count token + op.startedTokens.count token +
        (op.takesFrom.elim 0 fun n => ({.serving n} : Multiset Token)).count token
      = (lifecycle.takes op).count token +
        (op.creates.elim 0 fun n => ({.serving n} + {.forwarding n} : Multiset Token)).count token := by
  cases op with
  | go task => exact congrArg (· + 0) (zero_add _)
  | finish id result => exact (count_tokens_of_ne h (some id)).symm
  | begin operation => exact count_tokens_of_ne h (answer : BeginResult).finish
  | addRemoteForward key finish =>
    cases (answer : Bool) with
    | true => exact (count_tokens_of_ne h finish).symm
    | false => rfl
  | removeRemoteForward key => exact count_tokens_of_ne h answer
  | setAgentForward finish =>
    exact (count_tokens_of_ne h _).trans (count_tokens_of_ne h finish).symm
  | newProxiedChannel c finish =>
    change _ = (tokens finish).count token + _
    rw [count_tokens_of_ne h, zero_add]
    rfl
  | replaceFinish c finish =>
    have hforwarding : ∀ finish' : Option FinishId,
        ({.forwarding c.upstream} + tokens finish').count token
          = ({.forwarding c.upstream} : Multiset Token).count token := by
      intro finish'
      rw [Multiset.count_add, count_tokens_of_ne h, add_zero]
    exact (hforwarding answer).trans (hforwarding finish).symm
  | takeFinish c =>
    change (tokens (answer : ChannelState).finish).count token + 0 + _ = _
    rw [count_tokens_of_ne h, zero_add, zero_add]
    rfl
  | close =>
    rcases (answer : Option (Bool × List (Option FinishId))) with _ | ⟨upstream, finishes⟩
    · rfl
    · exact count_sum_tokens_of_ne h finishes
  | _ => rfl

end Flow

/-! ## Steps of the account -/

section Step

variable {trace : Trace} {s s' : ProxyState} {held held' mine : Multiset Token} {i : ℕ} {op : Op}
  {answer : op.Answer}

theorem mem_channelsOf_concat {n : ℕ} :
    n ∈ channelsOf (trace ++ [(i, ⟨op, answer⟩)]) ↔ n ∈ channelsOf trace ∨ op.creates = some n := by
  rw [mem_channelsOf, mem_channelsOf]
  simp [or_and_right, exists_or]

theorem channelsOf_concat_of_none (h : op.creates = none) :
    channelsOf (trace ++ [(i, ⟨op, answer⟩)]) = channelsOf trace := by
  ext n
  rw [mem_channelsOf_concat, h]
  simp

theorem channelsOf_concat_of_some {n : ℕ} (h : op.creates = some n) :
    channelsOf (trace ++ [(i, ⟨op, answer⟩)]) = insert n (channelsOf trace) := by
  ext m
  rw [mem_channelsOf_concat, Finset.mem_insert, h, Option.some.injEq, eq_comm, or_comm]

theorem Same.stored (h : Same s s') (numbers : Finset ℕ) (id : FinishId) :
    s'.stored numbers id = s.stored numbers id := by
  unfold ProxyState.stored
  rw [h.remoteForwards, h.agentForward, h.channels]

/-- The content of a proxied channel changes. -/
theorem stored_setChannel {numbers : Finset ℕ} {n : ℕ} (hn : n ∈ numbers) (state : ChannelState)
    (id : FinishId) :
    (s.setChannel n state).stored numbers id + hits id (s.channels n).finish
      = s.stored numbers id + hits id state.finish := by
  have hsum := @sum_update numbers id s.channels n hn state
  unfold ProxyState.stored ProxyState.setChannel
  dsimp only
  omega

theorem stored_newChannel {numbers : Finset ℕ} {n : ℕ} (hn : n ∉ numbers) (state : ChannelState)
    (id : FinishId) :
    (s.setChannel n state).stored (insert n numbers) id
      = s.stored numbers id + hits id state.finish := by
  have hrest : ∑ m ∈ numbers, hits id (Function.update s.channels n state m).finish
      = ∑ m ∈ numbers, hits id (s.channels m).finish := by
    refine Finset.sum_congr rfl fun m hm => ?_
    have hne : m ≠ n := fun heq => hn (heq ▸ hm)
    rw [Function.update_of_ne hne]
  unfold ProxyState.stored ProxyState.setChannel
  dsimp only
  rw [Finset.sum_insert hn, hrest, Function.update_self]
  omega

theorem channels_setChannel_self (n : ℕ) (state : ChannelState) :
    (s.setChannel n state).channels n = state := by
  simp [ProxyState.setChannel]

theorem channels_setChannel_ne {n m : ℕ} (h : m ≠ n) (state : ChannelState) :
    (s.setChannel n state).channels m = s.channels m := by
  simp [ProxyState.setChannel, h]

theorem channels_recordExitStatus (n m : ℕ) (code : ℤ) :
    ((s.recordExitStatus n code).channels m).finish = (s.channels m).finish := by
  unfold ProxyState.recordExitStatus
  by_cases hm : m = n
  · rw [hm, channels_setChannel_self]
  · rw [channels_setChannel_ne hm]

theorem stored_recordExitStatus (numbers : Finset ℕ) (n : ℕ) (code : ℤ) (id : FinishId) :
    (s.recordExitStatus n code).stored numbers id = s.stored numbers id := by
  unfold ProxyState.stored
  simp only [channels_recordExitStatus]
  rfl

theorem stored_addRemoteForward {key : GoString} (hkey : key ∉ s.remoteForwards)
    (finish : Option FinishId) (numbers : Finset ℕ) (id : FinishId) :
    { s with remoteForwards := s.remoteForwards.insert key finish }.stored numbers id
      = s.stored numbers id + hits id finish := by
  have hinsert := GoMap.count_insert hkey finish (some id)
  unfold ProxyState.stored hits
  dsimp only
  omega

theorem stored_removeRemoteForward (key : GoString) (numbers : Finset ℕ) (id : FinishId) :
    { s with remoteForwards := s.remoteForwards.erase key }.stored numbers id +
      hits id (s.remoteForwards.lookup key).join = s.stored numbers id := by
  have herase := GoMap.count_erase s.remoteForwards key (some id)
  unfold ProxyState.stored hits
  simp only [Option.join_eq_some_iff]
  omega

theorem stored_setAgentForward (finish : Option FinishId) (numbers : Finset ℕ) (id : FinishId) :
    { s with agentForward := finish }.stored numbers id + hits id s.agentForward
      = s.stored numbers id + hits id finish := by
  unfold ProxyState.stored
  dsimp only
  omega

theorem stored_close {closed : Op.close.Answer} (h : Answers s .close closed s')
    (numbers : Finset ℕ) (id : FinishId) :
    s'.stored numbers id + (lifecycle.gives .close closed).count (.operation id)
      = s.stored numbers id := by
  rcases close_cases h with ⟨-, rfl, rfl⟩ | ⟨upstream, finishes, -, rfl, hperm, rfl⟩
  · rfl
  have hcount : finishes.count (some id)
      = (s.remoteForwards.entries.map (·.2)).count (some id) + hits id s.agentForward := by
    rw [hperm.count_eq, List.count_append]
    cases s.agentForward <;> simp [hits, List.count_singleton]
  change 0 + 0 + ∑ n ∈ numbers, hits id (s.channels n).finish +
    ((finishes.map tokens).sum).count (.operation id) = s.stored numbers id
  rw [count_sum_tokens, hcount]
  unfold ProxyState.stored
  omega

theorem count_forwarding_tokens (n : ℕ) (finish : Option FinishId) (id : FinishId) :
    ({.forwarding n} + tokens finish).count (.operation id) = hits id finish := by
  rw [Multiset.count_add, count_tokens]
  simp

theorem Accounted.mem_of_serving (h : Accounted trace s held) {n : ℕ} (hn : .serving n ∈ held) :
    n ∈ channelsOf trace := by
  have hpos : 0 < trace.countP (·.2.op.creates = some n) := by
    have hserving := h.serving n
    have hcount : 0 < held.count (.serving n) := Multiset.count_pos.mpr hn
    omega
  obtain ⟨entry, hentry, hcreates⟩ := List.countP_pos_iff.mp hpos
  exact mem_channelsOf.mpr ⟨entry, hentry, by simpa using hcreates⟩

/-- The operations that are begun, finished, held and stored balance in every step. -/
theorem operation_flow (haccount : Accounted trace s held) (hmine : mine ≤ held)
    (hallowed : lifecycle.takes op ≤ mine) (horderly : Orderly trace (i, ⟨op, answer⟩))
    (hanswer : Answers s op answer s') (id : FinishId) :
    s'.stored (channelsOf (trace ++ [(i, ⟨op, answer⟩)])) id +
        (lifecycle.gives op answer).count (.operation id) + op.startedTokens.count (.operation id) +
        (if finishes id (i, ⟨op, answer⟩) then 1 else 0)
      = s.stored (channelsOf trace) id + (lifecycle.takes op).count (.operation id) +
        if begins id (i, ⟨op, answer⟩) then 1 else 0 := by
  have hheld : ∀ token, token ∈ lifecycle.takes op → token ∈ held := fun token h =>
    Multiset.mem_of_le (hallowed.trans hmine) h
  cases op with
  | newProxiedChannel c finish =>
    have hnew : c.upstream ∉ channelsOf trace := fun hmem => by
      obtain ⟨entry, hentry, hcreates⟩ := mem_channelsOf.mp hmem
      exact horderly entry hentry hcreates
    obtain rfl : s' = s.setChannel c.upstream { finish } := hanswer
    rw [channelsOf_concat_of_some rfl, stored_newChannel hnew]
    change _ + 0 + 0 + 0 = _ + (tokens finish).count (.operation id) + 0
    rw [count_tokens]
  | replaceFinish c finish =>
    have hn : c.upstream ∈ channelsOf trace :=
      haccount.forwarding c.upstream (hheld _ (Multiset.mem_add.mpr (Or.inl (Multiset.mem_singleton_self _))))
    obtain ⟨hprevious, rfl⟩ := replaceFinish_answer hanswer
    have hgives : (lifecycle.gives (.replaceFinish c finish) answer).count (.operation id)
        = hits id (s.channels c.upstream).finish :=
      hprevious ▸ count_forwarding_tokens c.upstream _ id
    rw [channelsOf_concat_of_none rfl, hgives, stored_setChannel hn]
    change _ + 0 + 0 = _ + ({.forwarding c.upstream} + tokens finish).count (.operation id) + 0
    rw [count_forwarding_tokens]
  | takeFinish c =>
    have hn : c.upstream ∈ channelsOf trace :=
      haccount.mem_of_serving (hheld _ (Multiset.mem_singleton_self _))
    obtain ⟨hstate, rfl⟩ := takeFinish_answer hanswer
    have hgives : (lifecycle.gives (.takeFinish c) answer).count (.operation id)
        = hits id (s.channels c.upstream).finish := hstate ▸ count_tokens id _
    rw [channelsOf_concat_of_none rfl, hgives, stored_setChannel hn]
    rfl
  | close =>
    rw [channelsOf_concat_of_none rfl, stored_close hanswer]
    rfl
  | addRemoteForward key finish =>
    rw [channelsOf_concat_of_none rfl]
    rcases addRemoteForward_cases hanswer with ⟨-, rfl, rfl⟩ | ⟨-, rfl, rfl⟩
    · rfl
    · have hkey : key ∉ s.remoteForwards := haccount.forwards ▸ horderly rfl
      rw [stored_addRemoteForward hkey]
      change _ + 0 + 0 + 0 = _ + (tokens finish).count (.operation id) + 0
      rw [count_tokens]
  | removeRemoteForward key =>
    obtain ⟨hfinish, rfl⟩ := removeRemoteForward_answer hanswer
    have hgives : (lifecycle.gives (.removeRemoteForward key) answer).count (.operation id)
        = hits id (s.remoteForwards.lookup key).join := hfinish ▸ count_tokens id _
    rw [channelsOf_concat_of_none rfl, hgives, stored_removeRemoteForward]
    rfl
  | setAgentForward finish =>
    rw [channelsOf_concat_of_none rfl]
    rcases setAgentForward_cases hanswer with ⟨-, rfl, rfl⟩ | ⟨-, rfl, rfl⟩
    · rfl
    · change _ + (tokens s.agentForward).count (.operation id) + 0 + 0
        = _ + (tokens finish).count (.operation id) + 0
      rw [count_tokens, count_tokens, stored_setAgentForward]
  | recordExitStatus c code =>
    obtain rfl : s' = s.recordExitStatus c.upstream code := hanswer
    rw [channelsOf_concat_of_none rfl, stored_recordExitStatus]
    rfl
  | go task =>
    rw [channelsOf_concat_of_none rfl, (same_of_answers hanswer trivial).stored]
    rfl
  | finish id' result =>
    rw [channelsOf_concat_of_none rfl, (same_of_answers hanswer trivial).stored]
    change _ + 0 + 0 + _ = _ + (tokens (some id')).count (.operation id) + 0
    rw [count_tokens]
    simp [finishes, hits]
  | begin operation =>
    rw [channelsOf_concat_of_none rfl, (same_of_answers hanswer trivial).stored]
    change _ + (tokens (answer : BeginResult).finish).count (.operation id) + 0 + 0 = _ + 0 + _
    rw [count_tokens]
    simp [begins, hits]
  | _ =>
    rw [channelsOf_concat_of_none rfl, (same_of_answers hanswer trivial).stored]
    rfl

theorem count_takesFrom (op : Op) (n : ℕ) :
    (op.takesFrom.elim 0 fun m => ({.serving m} : Multiset Token)).count (.serving n)
      = if op.takesFrom = some n then 1 else 0 := by
  cases op.takesFrom <;> simp [Multiset.count_singleton, eq_comm]

theorem count_creates_serving (op : Op) (n : ℕ) :
    (op.creates.elim 0 fun m => ({.serving m} + {.forwarding m} : Multiset Token)).count
      (.serving n) = if op.creates = some n then 1 else 0 := by
  cases op.creates with
  | none => rfl
  | some m =>
    rw [Option.elim_some, Multiset.count_add, Multiset.count_singleton, Multiset.count_singleton]
    simp [eq_comm]

theorem count_creates_forwarding (op : Op) (n : ℕ) :
    (op.creates.elim 0 fun m => ({.serving m} + {.forwarding m} : Multiset Token)).count
      (.forwarding n) = if op.creates = some n then 1 else 0 := by
  cases op.creates with
  | none => rfl
  | some m =>
    rw [Option.elim_some, Multiset.count_add, Multiset.count_singleton, Multiset.count_singleton]
    simp [eq_comm]

/-- A channel that was never proxied was never served. -/
theorem Accounted.takesFrom_ne (h : Accounted trace s held) {n : ℕ} (hn : n ∉ channelsOf trace) :
    ∀ entry ∈ trace, entry.2.op.takesFrom ≠ some n := by
  intro entry hentry htakes
  have hpos : 0 < trace.countP (·.2.op.takesFrom = some n) :=
    List.countP_pos_iff.mpr ⟨entry, hentry, by simpa using htakes⟩
  have hzero : trace.countP (·.2.op.creates = some n) = 0 := by
    rw [List.countP_eq_zero]
    intro earlier hmem hcreates
    exact hn (mem_channelsOf.mpr ⟨earlier, hmem, by simpa using hcreates⟩)
  have hserving := h.serving n
  omega

/-- A channel with an operation is proxied, and `serve` has not taken the operation. -/
theorem channels_step (haccount : Accounted trace s held) (hmine : mine ≤ held)
    (hallowed : lifecycle.takes op ≤ mine) (horderly : Orderly trace (i, ⟨op, answer⟩))
    (hanswer : Answers s op answer s') {n : ℕ} (hn : (s'.channels n).finish ≠ none) :
    n ∈ channelsOf (trace ++ [(i, ⟨op, answer⟩)]) ∧
      ∀ entry ∈ trace ++ [(i, ⟨op, answer⟩)], entry.2.op.takesFrom ≠ some n := by
  have hstep : n ∈ channelsOf trace ∨ op.creates = some n →
      (∀ entry ∈ trace, entry.2.op.takesFrom ≠ some n) → op.takesFrom ≠ some n →
        n ∈ channelsOf (trace ++ [(i, ⟨op, answer⟩)]) ∧
          ∀ entry ∈ trace ++ [(i, ⟨op, answer⟩)], entry.2.op.takesFrom ≠ some n :=
    fun hmem htaken hop => ⟨mem_channelsOf_concat.mpr hmem,
      List.forall_mem_append.mpr ⟨htaken, List.forall_mem_singleton.mpr hop⟩⟩
  have hkept : (s.channels n).finish ≠ none → op.takesFrom ≠ some n → _ := fun hfinish hop =>
    hstep (Or.inl (haccount.channels n hfinish).1) (haccount.channels n hfinish).2 hop
  cases op with
  | newProxiedChannel c finish =>
    obtain rfl : s' = s.setChannel c.upstream { finish } := hanswer
    by_cases hc : n = c.upstream
    · subst hc
      have hnew : c.upstream ∉ channelsOf trace := fun hmem => by
        obtain ⟨entry, hentry, hcreates⟩ := mem_channelsOf.mp hmem
        exact horderly entry hentry hcreates
      exact hstep (Or.inr rfl) (haccount.takesFrom_ne hnew) (by simp [Op.takesFrom])
    · refine hkept ?_ (by simp [Op.takesFrom])
      rwa [channels_setChannel_ne hc] at hn
  | recordExitStatus c code =>
    obtain rfl : s' = s.recordExitStatus c.upstream code := hanswer
    rw [channels_recordExitStatus] at hn
    exact hkept hn (by simp [Op.takesFrom])
  | replaceFinish c finish =>
    obtain ⟨-, rfl⟩ := replaceFinish_answer hanswer
    by_cases hc : n = c.upstream
    · subst hc
      have hforwarding : .forwarding c.upstream ∈ held := Multiset.mem_of_le (hallowed.trans hmine)
        (Multiset.mem_add.mpr (Or.inl (Multiset.mem_singleton_self _)))
      exact hstep (Or.inl (haccount.forwarding _ hforwarding)) horderly (by simp [Op.takesFrom])
    · refine hkept ?_ (by simp [Op.takesFrom])
      rwa [channels_setChannel_ne hc] at hn
  | takeFinish c =>
    obtain ⟨-, rfl⟩ := takeFinish_answer hanswer
    by_cases hc : n = c.upstream
    · subst hc
      rw [channels_setChannel_self] at hn
      exact absurd rfl hn
    · refine hkept ?_ fun heq => hc (Option.some.inj heq).symm
      rwa [channels_setChannel_ne hc] at hn
  | close =>
    refine hkept ?_ (by simp [Op.takesFrom])
    rcases close_cases hanswer with ⟨-, -, rfl⟩ | ⟨_, _, -, -, -, rfl⟩ <;> exact hn
  | addRemoteForward key finish =>
    refine hkept ?_ (by simp [Op.takesFrom])
    rcases addRemoteForward_cases hanswer with ⟨-, -, rfl⟩ | ⟨-, -, rfl⟩ <;> exact hn
  | removeRemoteForward key =>
    obtain ⟨-, rfl⟩ := removeRemoteForward_answer hanswer
    exact hkept hn (by simp [Op.takesFrom])
  | setAgentForward finish =>
    refine hkept ?_ (by simp [Op.takesFrom])
    rcases setAgentForward_cases hanswer with ⟨-, -, rfl⟩ | ⟨-, -, rfl⟩ <;> exact hn
  | _ =>
    rw [(same_of_answers hanswer trivial).channels] at hn
    exact hkept hn (by simp [Op.takesFrom])

theorem forwardsAfter_concat (trace : Trace) (entry : ℕ × Event interface) :
    forwardsAfter (trace ++ [entry])
      = recordedNext (forwardsAfter trace) entry.2.op entry.2.answer := by
  simp [forwardsAfter]

/-- The account is right after every orderly step of a goroutine that holds what it takes. -/
theorem Accounted.step (haccount : Accounted trace s held) (hmine : mine ≤ held)
    (hallowed : lifecycle.takes op ≤ mine) (horderly : Orderly trace (i, ⟨op, answer⟩))
    (hanswer : Answers s op answer s')
    (hheld : held' + lifecycle.takes op = held + lifecycle.gives op answer + op.startedTokens) :
    Accounted (trace ++ [(i, ⟨op, answer⟩)]) s' held' := by
  have hcount : ∀ token, held'.count token + (lifecycle.takes op).count token
      = held.count token + (lifecycle.gives op answer).count token + op.startedTokens.count token := by
    intro token
    rw [← Multiset.count_add, hheld, Multiset.count_add, Multiset.count_add]
  refine ⟨fun id => ?_, fun n => ?_, fun n hn => ?_, fun n hn => ?_, ?_, ?_⟩
  · have hflow := operation_flow haccount hmine hallowed horderly hanswer id
    have hbefore := haccount.operations id
    have htokens := hcount (.operation id)
    rw [List.countP_append, List.countP_append, List.countP_singleton, List.countP_singleton]
    omega
  · have hflow := @other_flow op answer (.serving n) (by simp)
    rw [count_takesFrom, count_creates_serving] at hflow
    have hbefore := haccount.serving n
    have htokens := hcount (.serving n)
    rw [List.countP_append, List.countP_append, List.countP_singleton, List.countP_singleton]
    simp only [decide_eq_true_eq]
    omega
  · rw [mem_channelsOf_concat]
    by_contra hnone
    rw [not_or] at hnone
    have hflow := @other_flow op answer (.forwarding n) (by simp)
    rw [count_creates_forwarding, if_neg hnone.2] at hflow
    have hbefore : held.count (.forwarding n) = 0 :=
      Multiset.count_eq_zero.mpr fun hmem => hnone.1 (haccount.forwarding n hmem)
    have hafter : 0 < held'.count (.forwarding n) := Multiset.count_pos.mpr hn
    have htokens := hcount (.forwarding n)
    omega
  · exact channels_step haccount hmine hallowed horderly hanswer hn
  · rw [forwardsAfter_concat, ← haccount.forwards]
    exact remoteForwards_of_answers hanswer
  · exact closed_of_answers haccount.closed hanswer

end Step

/-! ## The end of a connection -/

section Run

variable {p : Protocol} {trace : Trace} {c : p.system.Config}

theorem accounted_start : Accounted [] ({} : ProxyState) 0 where
  operations _ := rfl
  serving _ := rfl
  forwarding _ h := by cases h
  channels _ h := absurd rfl h
  forwards := rfl
  closed h := by cases h

/-- In every orderly run, the operations are with the goroutines or stored. -/
theorem accounted_of_run (hrun : p.system.Run p.connection trace c)
    (horderly : System.Stepwise Orderly trace) :
    ∃ states : List (Multiset Token), Accounted trace c.world states.sum ∧
      System.Tracks lifecycle.monitor (fun task held => held = Task.tokens task)
        (fun held => ∃ task, held = Task.leaves task) c.threads states := by
  have hstart : System.Stepwise Orderly [] → Accounted [] ({} : ProxyState) 0 := fun _ => accounted_start
  obtain ⟨states, haccount, htracks⟩ := hrun.tracked (system_balanced p).follows (fun _ _ => rfl)
    (fun trace s states => System.Stepwise Orderly trace → Accounted trace s states.sum) hstart
    fun trace s states i held op answer s' ih hi hallowed hanswer horderly => by
      obtain ⟨horderly, hstep⟩ := horderly.of_concat
      have hmine : held ≤ states.sum := List.le_sum_of_mem (List.mem_of_getElem? hi)
      refine (ih horderly).step hmine hallowed hstep hanswer ?_
      rw [← sum_started p op]
      exact lifecycle.sum_step hi hallowed answer
  exact ⟨states, haccount horderly, htracks⟩

/-- What ended goroutines hold is of no use. -/
theorem eq_forwarding_of_leaves {states : List (Multiset Token)}
    (hdone : ∀ held ∈ states, ∃ task, held = Task.leaves task) {token : Token}
    (htoken : token ∈ states.sum) : ∃ n, token = .forwarding n := by
  obtain ⟨held, hheld, htoken⟩ := Ledger.exists_mem_of_mem_sum htoken
  obtain ⟨task, rfl⟩ := hdone held hheld
  unfold Task.leaves at htoken
  split at htoken
  · exact ⟨_, Multiset.mem_singleton.mp htoken⟩
  · cases htoken

/-- In a closed proxy whose goroutines are to finish and to serve nothing, every operation is
finished. -/
theorem Accounted.finished {s : ProxyState} {held : Multiset Token} (h : Accounted trace s held)
    (hheld : ∀ token ∈ held, ∃ n, token = .forwarding n) (hclosed : s.closed = true) (id : FinishId) :
    trace.countP (finishes id) = trace.countP (begins id) := by
  have hoperations : held.count (.operation id) = 0 := Multiset.count_eq_zero.mpr fun hmem => by
    obtain ⟨n, hn⟩ := hheld _ hmem
    cases hn
  -- every channel was served to its end
  have hchannels : ∀ n, (s.channels n).finish = none := by
    intro n
    by_contra hfinish
    obtain ⟨hmem, htaken⟩ := h.channels n hfinish
    have hserving : held.count (.serving n) = 0 := Multiset.count_eq_zero.mpr fun hmem => by
      obtain ⟨m, hm⟩ := hheld _ hmem
      cases hm
    have hcreated : 0 < trace.countP (·.2.op.creates = some n) := by
      obtain ⟨entry, hentry, hcreates⟩ := mem_channelsOf.mp hmem
      exact List.countP_pos_iff.mpr ⟨entry, hentry, by simpa using hcreates⟩
    have htaken' : trace.countP (·.2.op.takesFrom = some n) = 0 :=
      List.countP_eq_zero.mpr fun entry hentry htakes => htaken entry hentry (by simpa using htakes)
    have hbalance := h.serving n
    omega
  have hstored : s.stored (channelsOf trace) id = 0 := by
    obtain ⟨hforwards, hagent⟩ := h.closed hclosed
    unfold ProxyState.stored
    rw [hforwards, hagent]
    simp [hchannels, hits]
  have hbalance := h.operations id
  omega

/-- Once the proxy is closed and all goroutines have ended, every operation was finished as often as
it was begun, if every step was orderly. -/
theorem finished_once (hrun : p.system.Run p.connection trace c)
    (hclosed : (c.world : ProxyState).closed = true) (hended : ∀ thread ∈ c.threads, thread = .pure none)
    (horderly : System.Stepwise Orderly trace) (id : FinishId) :
    trace.countP (finishes id) = trace.countP (begins id) := by
  obtain ⟨states, haccount, htracks⟩ := accounted_of_run hrun horderly
  exact haccount.finished (fun token => eq_forwarding_of_leaves (htracks.done hended)) hclosed id

/-- `handlers.Wait` returns when the handlers of the connection have ended. Each call of `begin`
returns a new operation to finish, also if it is denied (`gateway/protocol.go:51-84`). -/
def Protocol.Waits (p : Protocol) : p.system.Condition := fun trace threads i event =>
  match event.op, event.answer with
  | .waitHandlers, _ => threads[1]? = some (.pure none) ∧
    ∀ j channel, (p.system.offspring [Task.serveGlobalRequests] trace)[j]?
      = some (i, .handleChannel channel) → threads[j + 1]? = some (.pure none)
  | .begin _, (started : BeginResult) =>
    ∃ id, started.finish = some id ∧ ∀ entry ∈ trace, begins id entry = false
  | _, _ => True

/-- The runs of a connection with the codec of the examples. -/
abbrev Ran := plainProtocol.system.Run plainProtocol.connection
abbrev RanWhen := plainProtocol.system.RunWhen plainProtocol.Waits plainProtocol.connection

/-- The client asks for a remote forward and hangs up. The operation is handed to the recorded
forward, and `close` finishes it. -/
theorem forwarded_run : ∃ trace c,
    plainProtocol.system.RunWhen plainProtocol.Waits plainProtocol.connection trace c ∧
      c.world.closed = true ∧ c.threads = List.replicate 5 (.pure none) ∧ System.Stepwise Orderly trace ∧
      trace.countP (begins 0) = 1 ∧ (1, ⟨.addRemoteForward (str "h:0") (some 0), true⟩) ∈ trace := by
  have h0 : RanWhen [] plainProtocol.connection := .start
  have h1 := h0.perform 1 rfl (some (⟨requestTCPIPForward, false, str "h"⟩ : Request)) rfl trivial
  have h2 := h1.perform 1 rfl true rfl trivial
  have h3 := h2.perform 1 rfl (⟨some 0, none⟩ : BeginResult) rfl ⟨0, rfl, by simp [begins]⟩
  have h4 := h3.perform 1 rfl false ⟨rfl, rfl⟩ trivial
  have h5 := h4.perform 1 rfl true (Or.inl ⟨rfl, rfl, rfl⟩) trivial
  have h6 : RanWhen _ ⟨_, [_, _]⟩ := h5.perform 1 rfl (Except.ok ()) rfl trivial
  have h7 := h6.perform 1 rfl true rfl trivial
  have h8 := h7.perform 1 rfl () rfl trivial
  have h9 := h8.perform 1 rfl () rfl trivial
  have h10 : RanWhen _ ⟨_, [_, _, _, _, _]⟩ := h9.perform 1 rfl () rfl trivial
  have h11 := h10.perform 1 rfl () rfl trivial
  have h12 : RanWhen _ ⟨_, [_, _, _, _, _]⟩ := h11.perform 1 rfl none ⟨rfl, rfl⟩ trivial
  have h13 := h12.perform 1 rfl (Except.ok (false, [])) rfl trivial
  have h14 := h13.perform 1 rfl true rfl trivial
  have h15 : RanWhen _ ⟨_, [_, _, _, _, _]⟩ := h14.perform 1 rfl () rfl trivial
  -- everything ends
  have h16 := (h15.resume 1 rfl).perform 1 rfl none rfl trivial
  have h17 : RanWhen _ ⟨_, [_, .pure none, _, _, _]⟩ := h16.perform 0 rfl none rfl trivial
  have h18 := h17.perform 0 rfl () rfl trivial
  have h19 := h18.perform 0 rfl true rfl trivial
  have h20 : RanWhen _ ⟨_, [_, .pure none, _, _, _]⟩ :=
    h19.perform 0 rfl (some (true, [some 0])) ⟨rfl, rfl, .refl _⟩ trivial
  have h21 := h20.perform 0 rfl () rfl trivial
  have h22 := h21.perform 0 rfl () rfl trivial
  have h23 : RanWhen _ ⟨_, [_, .pure none, _, _, _]⟩ := h22.perform 0 rfl () rfl trivial
  have h24 := h23.perform 0 rfl () rfl ⟨rfl, by
    rintro (_ | _ | _ | _ | j) channel hj <;> cases hj⟩
  have h25 := h24.perform 2 rfl none rfl trivial
  have h26 : RanWhen _ ⟨_, [_, _, _, _, _]⟩ := h25.perform 3 rfl none rfl trivial
  have h27 := h26.perform 4 rfl () rfl trivial
  have h28 : RanWhen _ ⟨_, List.replicate 5 (.pure none)⟩ :=
    h27.perform 4 rfl none ⟨rfl, trivial⟩ trivial
  refine ⟨_, _, h28, rfl, rfl, ?_, rfl, ?_⟩
  · repeat' first
      | exact System.stepwise_nil
      | refine System.Stepwise.concat ?_ trivial
      | refine System.Stepwise.concat ?_ fun _ => by decide
  · repeat' first
      | exact List.mem_append_right _ (List.mem_singleton_self _)
      | apply List.mem_append_left

theorem finished_once_forwarded :
    ∃ trace c, plainProtocol.system.Run plainProtocol.connection trace c ∧
      (1, ⟨.addRemoteForward (str "h:0") (some 0), true⟩) ∈ trace ∧
      trace.countP (begins 0) = 1 ∧ trace.countP (finishes 0) = trace.countP (begins 0) := by
  obtain ⟨trace, c, hrun, hclosed, hthreads, horderly, hbegins, hrecorded⟩ := forwarded_run
  exact ⟨trace, c, hrun.run, hrecorded, hbegins, finished_once hrun.run hclosed
    (fun _ hthread => List.eq_of_mem_replicate (hthreads ▸ hthread)) horderly 0⟩

/-- The session is over before the goroutine that forwards requests sees that its shell was
accepted: the operation is put into the channel after `serve`. All goroutines end, and the operation
is never finished. -/
theorem late_session_never_finished :
    ∃ trace c, plainProtocol.system.Run plainProtocol.connection trace c ∧
      (c.world : ProxyState).closed = true ∧ (∀ thread ∈ c.threads, thread = .pure none) ∧
      trace.countP (begins 0) = 1 ∧ trace.countP (finishes 0) = 0 := by
  have h0 : Ran [] plainProtocol.connection := .start
  -- the client opens a session
  have h1 := h0.perform 0 rfl (some (⟨0, channelSession, []⟩ : NewChannel)) rfl
  have h2 := h1.perform 0 rfl () rfl
  have h3 : Ran _ ⟨_, [_, _, _]⟩ := h2.resume 0 rfl
  have h4 := h3.perform 2 rfl true rfl
  have h5 := h4.perform 2 rfl true (Or.inl ⟨rfl, rfl, rfl⟩)
  have h6 : Ran _ ⟨_, [_, _, _]⟩ := h5.perform 2 rfl (Except.ok ()) rfl
  have h7 := h6.perform 2 rfl true rfl
  have h8 := h7.perform 2 rfl () rfl
  have h9 : Ran _ ⟨_, [_, _, _, _, _]⟩ := h8.perform 2 rfl () rfl
  have h10 := h9.perform 2 rfl () rfl
  have h11 := h10.perform 2 rfl () rfl
  have h12 : Ran _ ⟨_, [_, _, _, _, _, _]⟩ := h11.perform 2 rfl none ⟨rfl, rfl⟩
  have h13 := h12.perform 2 rfl (Except.ok 7) rfl
  have h14 := h13.perform 2 rfl (Except.ok ()) rfl
  have h15 : Ran _ ⟨_, [_, _, _, _, _, _]⟩ := h14.perform 2 rfl () rfl
  have h16 : Ran _ ⟨_, [_, _, _, _, _, _, _]⟩ := h15.perform 2 rfl () rfl
  have h17 := h16.perform 6 rfl () rfl
  have h18 : Ran _ ⟨_, [_, _, _, _, _, _, _, _, _]⟩ := h17.perform 6 rfl () rfl
  have h19 := h18.perform 6 rfl () rfl
  have h20 : Ran _ ⟨_, [_, _, _, _, _, _, _, _, _, _, _]⟩ := h19.perform 6 rfl () rfl
  -- the client asks for a shell, and the operation is begun
  have h21 := h20.perform 7 rfl (some (⟨requestShell, true, []⟩ : Request)) rfl
  have h22 : Ran _ ⟨_, [_, _, _, _, _, _, _, _, _, _, _]⟩ :=
    h21.perform 7 rfl (⟨some 0, none⟩ : BeginResult) rfl
  -- the exit status is forwarded and the data ends, before goroutine 7 sees the answer of the server
  have h23 := h22.perform 8 rfl (some (⟨requestExitStatus, false, []⟩ : Request)) rfl
  have h24 : Ran _ ⟨_, [_, _, _, _, _, _, _, _, _, _, _]⟩ := h23.perform 8 rfl (Except.ok false) rfl
  have h25 := h24.perform 8 rfl () rfl
  have h26 : Ran _ ⟨_, [_, _, _, _, _, _, _, _, _, _, _]⟩ := h25.perform 6 rfl none rfl
  have h27 : Ran _ ⟨_, [_, _, _, _, _, _, _, _, _, _, _]⟩ :=
    h26.perform 6 rfl ({} : ChannelState) rfl
  have h28 := h27.perform 7 rfl (Except.ok true) rfl
  have h29 : Ran _ ⟨_, [_, _, _, _, _, _, _, _, _, _, _]⟩ := h28.perform 7 rfl none rfl
  have h30 := h29.perform 7 rfl () rfl
  have h31 : Ran _ ⟨_, [_, _, _, _, _, _, _, _, _, _, _]⟩ := h30.resume 7 rfl
  -- everything ends
  have h32 := h31.perform 7 rfl none rfl
  have h33 := h32.perform 9 rfl () rfl
  have h34 : Ran _ ⟨_, [_, _, _, _, _, _, _, _, _, _, _]⟩ := h33.perform 10 rfl () rfl
  have h35 := h34.perform 3 rfl none rfl
  have h36 : Ran _ ⟨_, [_, _, _, _, _, _, _, _, _, _, _]⟩ := h35.perform 4 rfl none rfl
  have h37 := h36.perform 5 rfl () rfl
  have h38 : Ran _ ⟨_, [_, _, _, _, _, _, _, _, _, _, _]⟩ :=
    h37.perform 5 rfl (some (true, [])) ⟨rfl, rfl, .nil⟩
  have h39 := h38.perform 5 rfl () rfl
  have h40 : Ran _ ⟨_, [_, _, _, _, _, _, _, _, _, _, _]⟩ := h39.perform 5 rfl () rfl
  have h41 := h40.perform 1 rfl none rfl
  have h42 : Ran _ ⟨_, [_, _, _, _, _, _, _, _, _, _, _]⟩ := h41.perform 0 rfl none rfl
  have h43 := h42.perform 0 rfl () rfl
  have h44 : Ran _ ⟨_, [_, _, _, _, _, _, _, _, _, _, _]⟩ := h43.perform 0 rfl true rfl
  have h45 := h44.perform 0 rfl none ⟨rfl, trivial⟩
  have h46 : Ran _ ⟨_, List.replicate 11 (.pure none)⟩ := h45.perform 0 rfl () rfl
  exact ⟨_, _, h46, rfl, fun _ hthread => List.eq_of_mem_replicate hthread, rfl, rfl⟩

end Run

end KubeSsh.SshProxy

import KubeSsh.SshProxy.Mediation

/-!
# `pkg/sshproxy`: what the upstream server sends to the client

`returning` watches what a goroutine sends to the client on behalf of the upstream server. A channel
for a forward is looked up at once, and then passes or is refused as the lookup was answered. Every
other channel and most global requests need an operation that was begun.
-/

namespace KubeSsh.SshProxy

open SshProtocol CryptoSsh

/-! ## The monitor -/

/-- The key under which the forward of a channel is looked up. -/
def channelKey (data : ChannelForwardData) : GoString :=
  joinHostPort data.host (decimal data.port.toNat)

/-- What a goroutine has seen for the message it is at: the channel of the upstream server that it
has to decide on, and the answers of the lookups. -/
structure Seen where
  channel : Option NewChannel := none
  lookup : Option (GoString × Bool) := none
  agent : Option Bool := none

def seenNext (seen : Seen) (op : Op) (answer : op.Answer) : Seen :=
  match op, answer with
  | .nextChannel .upstream, (received : Option NewChannel) => { channel := received }
  | .hasRemoteForward key, (found : Bool) => { seen with lookup := some (key, found) }
  | .hasAgentForward, (found : Bool) => { seen with agent := some found }
  | .openChannel .downstream _ _, _ | .reject .upstream _ _ _, _ => { seen with channel := none }
  | op, _ => if op.boundary then {} else seen

structure ReturnWatch extends Watch, Seen

/-- What may be sent to the client: channels of recorded forwards, all channel requests, and
whatever else its operation was begun for, except that two kinds of global requests pass. -/
def Returns (p : Protocol) (w : ReturnWatch) : UpstreamMessage → Prop
  | .openChannel channelType extraData =>
    if channelType = channelForwardedTCPIP then
      ∃ data, p.codec.unmarshalChannelForward extraData = .ok data ∧
        w.lookup = some (channelKey data, true)
    else if channelType = channelAgent then w.agent = some true
    else w.granted = some { channelType }
  | .channelRequest _ => w.granted = none
  | .globalRequest request =>
    if request.type ∈ [requestKeepalive, requestNoMoreSessions] then w.granted = none
    else w.granted = some { requestType := request.type }

/-- What to do with a channel as the lookup was answered: pass it to the client or refuse it. -/
def Decides (channel : NewChannel) (op : Op) : Bool → Prop
  | true => op = .openChannel .downstream channel.channelType channel.extraData
  | false => ∃ message, op = .reject .upstream channel.id .prohibited message

/-- The next operation for a channel of a forward: the lookup, and then the decision. -/
def Due (p : Protocol) (seen : Seen) (op : Op) : Prop :=
  ∀ channel ∈ seen.channel,
    (channel.channelType = channelForwardedTCPIP →
      ∀ data, p.codec.unmarshalChannelForward channel.extraData = .ok data →
        seen.lookup.elim (op = .hasRemoteForward (channelKey data)) fun look =>
          Decides channel op look.2) ∧
    (channel.channelType = channelAgent → seen.agent.elim (op = .hasAgentForward) (Decides channel op))

def returning (p : Protocol) : Monitor interface ReturnWatch where
  Allowed w op := (∀ message ∈ op.returned, Returns p w message) ∧ Due p w.toSeen op
  next w op answer :=
    { toWatch := (mediation p).next w.toWatch op answer, toSeen := seenNext w.toSeen op answer }

/-- Nothing is sent to the client, and no channel of the upstream server received. -/
def Op.Unreturned : Op → Prop
  | .openChannel .downstream _ _ | .sendRequest .downstream _ _ | .sendGlobal .downstream _
  | .nextChannel .upstream => False
  | _ => True

/-- Neither that, nor is the upstream server asked for a forward. -/
def Op.Apart (op : Op) : Prop := op.Unreturned ∧ op.Steady

section Unreturned

open Prog

variable (p : Protocol) {α : Type} {op : Op} {prog : Handling α}

theorem unreturned_perform (h : op.Unreturned) : (perform op).Only Op.Unreturned := only_perform.mpr h

theorem unreturned_of_local (h : prog.Only Op.Local) : prog.Only Op.Unreturned := by
  refine h.mono fun op hop => ?_
  cases op with
  | openChannel | sendRequest | sendGlobal => exact hop.elim
  | nextChannel source => cases source <;> exact hop
  | _ => exact trivial

theorem unreturned_of_idle (h : prog.Only Op.Idle) : prog.Only Op.Unreturned :=
  unreturned_of_local (local_of_idle h)

theorem apart_of_idle (h : prog.Only Op.Idle) : prog.Only Op.Apart := by
  refine h.mono fun op hop => ?_
  cases op with
  | openChannel | sendRequest | sendGlobal => exact hop.1.elim
  | nextChannel source => cases source <;> exact hop
  | _ => exact ⟨trivial, hop.2⟩

theorem handleNewChannel_apart (channel : NewChannel) :
    (p.handleNewChannel channel).Only Op.Apart := by
  have hperform {op : Op} (h : op.Apart) : (perform op).Only Op.Apart := only_perform.mpr h
  refine .bind (hperform ⟨trivial, trivial⟩) fun (created : Bool) => ?_
  cases created with
  | false => exact hperform ⟨trivial, trivial⟩
  | true =>
    change (p.handleChannel channel).Only Op.Apart
    unfold Protocol.handleChannel
    split
    · exact hperform ⟨trivial, trivial⟩
    refine .bind (apart_of_idle (beginOperation_idle _)) fun begun => ?_
    rcases begun with err | finishOp
    · exact hperform ⟨trivial, trivial⟩
    refine .bind (apart_of_idle (idle_of_plain (connect_plain _))) fun connected => ?_
    rcases connected with _ | err
    · refine .bind (hperform ⟨trivial, trivial⟩) fun opened => apart_of_idle ?_
      rcases opened with err | upstream
      · exact .bind (finish_idle _ _) fun _ => idle_of_plain (rejectUnopened_plain _ _)
      refine .bind (idle_perform ⟨trivial, trivial⟩) fun accepted => ?_
      rcases accepted with err | _
      · exact .bind (idle_perform ⟨trivial, trivial⟩) fun _ => finish_idle _ _
      · exact startChannel_idle _ _
    · refine apart_of_idle (.bind (finish_idle _ _) fun _ => ?_)
      exact .bind (idle_perform ⟨trivial, trivial⟩) fun _ => close_idle

theorem forwardDownstreamRequest_unreturned (c : ProxiedChannel) (request : Request) :
    (p.forwardDownstreamRequest c request).Only Op.Unreturned := by
  have hreply (ok : Bool) : (replyIfWanted .downstream c.downstream request ok).Only Op.Unreturned :=
    unreturned_of_idle (idle_of_plain (replyIfWanted_plain _ _ _ _))
  unfold Protocol.forwardDownstreamRequest
  split
  · exact hreply _
  refine .bind (unreturned_of_idle (beginOperation_idle _)) fun begun => ?_
  rcases begun with err | finishOp
  · exact hreply _
  refine .bind (unreturned_perform trivial) fun sent => ?_
  exact .bind (unreturned_of_local (settleRequest_local _ _ _ _ _)) fun _ => hreply _

theorem forwardGlobalRequest_unreturned (request : Request) (plan : GlobalRequestPlan)
    (finishOp : Option FinishId) :
    (p.forwardGlobalRequest request plan finishOp).Only Op.Unreturned := by
  refine .bind (unreturned_of_idle (idle_of_plain (connect_plain _))) fun connected => ?_
  rcases connected with _ | err
  · refine .bind (unreturned_perform trivial) fun sent => ?_
    rcases sent with err | ⟨ok, payload⟩
    · exact unreturned_of_idle (.bind (finish_idle _ _) fun _ => only_pure _)
    dsimp only
    split
    · exact unreturned_of_idle (.bind (finish_idle _ _) fun _ => only_pure _)
    · exact unreturned_of_local (.bind (settleGlobalRequest_local _ _ _ _ _) fun _ => only_pure _)
  · exact unreturned_of_idle (.bind (finish_idle _ _) fun _ => .bind close_idle fun _ => only_pure _)

theorem handleRequest_unreturned (request : Request) :
    (p.handleRequest request).Only Op.Unreturned := by
  unfold Protocol.handleRequest
  split
  · exact only_pure _
  refine .bind (unreturned_of_idle (beginOperation_idle _)) fun begun => ?_
  rcases begun with err | finishOp
  · exact only_pure _
  dsimp only
  split_ifs
  · refine .bind (unreturned_perform trivial) fun (found : Bool) => ?_
    cases found with
    | true => exact unreturned_of_idle (.bind (finish_idle _ _) fun _ => only_pure _)
    | false => exact forwardGlobalRequest_unreturned p _ _ _
  · refine .bind (unreturned_perform trivial) fun (found : Bool) => ?_
    cases found with
    | true => exact forwardGlobalRequest_unreturned p _ _ _
    | false => exact only_pure _
  · exact forwardGlobalRequest_unreturned p _ _ _

theorem serveGlobalRequests_unreturned : p.serveGlobalRequests.Only Op.Unreturned := by
  refine .bind (unreturned_perform trivial) fun request => ?_
  rcases request with _ | request
  · exact only_pure _
  have hhandle : (p.handleGlobalRequest request).Only Op.Unreturned := by
    refine .bind (unreturned_perform trivial) fun (created : Bool) => ?_
    cases created with
    | true => exact handleRequest_unreturned p request
    | false => exact only_pure _
  exact .bind hhandle fun _ => .bind (unreturned_perform trivial) fun _ => only_pure _

end Unreturned

/-! ## Programs that return messages -/

section Returning

open Prog

variable (p : Protocol) {α : Type} {w : ReturnWatch}

/-- No channel of the upstream server is left undecided. -/
abbrev Decided (_ : α) (w : ReturnWatch) : Prop := w.channel = none

theorem due_of_decided {seen : Seen} (h : seen.channel = none) (op : Op) : Due p seen op := by
  intro channel hchannel
  rw [h] at hchannel
  cases hchannel

theorem unreturned_spec {op : Op} (hop : op.Unreturned) (hw : w.channel = none) :
    (returning p).Allowed w op ∧ ∀ answer, ((returning p).next w op answer).channel = none := by
  have hreturned : op.returned = none := by
    cases op with
    | openChannel side | sendRequest side | sendGlobal side =>
      cases side with
      | downstream => exact hop.elim
      | upstream => rfl
    | _ => rfl
  refine ⟨⟨fun message hmessage => ?_, due_of_decided p hw op⟩, fun answer => ?_⟩
  · rw [hreturned] at hmessage
    cases hmessage
  change (seenNext w.toSeen op answer).channel = none
  cases op with
  | nextChannel side | openChannel side | sendRequest side | sendGlobal side | reject side =>
    cases side <;> first | exact hop.elim | exact hw | rfl
  | _ => first | exact hw | rfl

theorem obeys_unreturned {prog : Handling α} (h : prog.Only Op.Unreturned) (hw : w.channel = none) :
    prog.Obeys (returning p) w Decided :=
  h.obeys_of_inv hw fun _ _ hw hop => unreturned_spec p hop hw

theorem obeys_unreturned_idle {prog : Handling α} (h : prog.Only Op.Idle) (hw : w.channel = none) :
    prog.Obeys (returning p) w Decided := obeys_unreturned p (unreturned_of_idle h) hw

/-- The goroutine receives its next message. -/
theorem obeys_receive {op : Op} {f : op.Answer → Handling α} (hboundary : op.boundary = true)
    (hreturned : op.returned = none) (hw : w.channel = none)
    (hf : ∀ answer, (f answer).Obeys (returning p) { toSeen := seenNext w.toSeen op answer } Decided) :
    (perform op >>= f).Obeys (returning p) w Decided := by
  refine obeys_perform_bind.mpr ⟨⟨fun message hmessage => ?_, due_of_decided p hw op⟩, fun answer => ?_⟩
  · rw [hreturned] at hmessage
    cases hmessage
  have hnext : (returning p).next w op answer = { toSeen := seenNext w.toSeen op answer } := by
    change ReturnWatch.mk _ _ = _
    rw [next_of_boundary hboundary]
  rw [hnext]
  exact hf answer

theorem beginOperation_returning {operation : Option Operation}
    {post : Except Message (Option FinishId) → ReturnWatch → Prop}
    (hdue : operation ≠ none → ∀ op, Due p w.toSeen op)
    (herr : ∀ err w', operation ≠ none → w'.toSeen = w.toSeen → post (.error err) w')
    (hok : ∀ finishOp, post (.ok finishOp) { w with toWatch := w.toWatch.begun operation }) :
    (beginOperation operation).Obeys (returning p) w post := by
  cases operation with
  | none => exact hok none
  | some operation =>
    have hne : some operation ≠ none := Option.some_ne_none operation
    refine obeys_perform_bind.mpr
      ⟨⟨fun message hmessage => (by cases hmessage), hdue hne _⟩, fun started => ?_⟩
    obtain ⟨finishOp, err⟩ := (started : BeginResult)
    cases err with
    | none => exact hok finishOp
    | some err =>
      cases finishOp with
      | none => exact herr err _ hne rfl
      | some id =>
        exact ⟨⟨fun message hmessage => (by cases hmessage), hdue hne _⟩, fun _ => herr err _ hne rfl⟩

/-- What `operationForUpstreamChannel` found: the channel belongs to a forward, or is to be refused,
or needs an operation. -/
def Classified (p : Protocol) (channel : NewChannel) (result : Except Message (Option Operation))
    (w : ReturnWatch) : Prop :=
  match result with
    | .error err => Due p w.toSeen (.reject .upstream channel.id .prohibited err)
    | .ok none => (returning p).Allowed w (.openChannel .downstream channel.channelType channel.extraData)
    | .ok (some operation) => operation = { channelType := channel.channelType } ∧
      channel.channelType ≠ channelForwardedTCPIP ∧ channel.channelType ≠ channelAgent ∧
        ∀ op, Due p w.toSeen op

/-- The channel that is decided on determines what is due. -/
theorem due_of_channel {seen : Seen} {channel : NewChannel} {op : Op} (hchannel : seen.channel = some channel)
    (hforwarded : channel.channelType = channelForwardedTCPIP →
      ∀ data, p.codec.unmarshalChannelForward channel.extraData = .ok data →
        seen.lookup.elim (op = .hasRemoteForward (channelKey data)) fun look => Decides channel op look.2)
    (hagent : channel.channelType = channelAgent →
      seen.agent.elim (op = .hasAgentForward) (Decides channel op)) : Due p seen op := by
  intro channel' hchannel'
  obtain rfl := Option.some.inj (hchannel.symm.trans hchannel')
  exact ⟨hforwarded, hagent⟩

theorem operationForUpstreamChannel_classifies (channel : NewChannel) :
    (p.operationForUpstreamChannel channel).Obeys (returning p)
      { toSeen := { channel := some channel } } (Classified p channel) := by
  have hne : channelAgent ≠ channelForwardedTCPIP := by decide
  unfold Protocol.operationForUpstreamChannel
  split_ifs with hforwarded hagent
  · have hother {P : Prop} (heq : channel.channelType = channelAgent) : P :=
      absurd (heq.symm.trans hforwarded) hne
    split
    · rename_i err hdata
      refine due_of_channel p rfl (fun _ data hok => ?_) hother
      rw [hdata] at hok
      cases hok
    rename_i data hdata
    have hkey (look : Seen) (op : Op) (hchannel : look.channel = some channel)
        (h : look.lookup.elim (op = .hasRemoteForward (channelKey data)) fun look =>
          Decides channel op look.2) : Due p look op := by
      refine due_of_channel p hchannel (fun _ data' hok => ?_) hother
      obtain rfl := Except.ok.inj (hdata.symm.trans hok)
      exact h
    refine obeys_perform_bind.mpr ⟨⟨fun message hmessage => (by cases hmessage), hkey _ _ rfl rfl⟩,
      fun found => ?_⟩
    cases (found : Bool) with
    | true =>
      refine ⟨fun message hmessage => ?_, hkey _ _ rfl rfl⟩
      obtain rfl := Option.some.inj hmessage
      rw [Returns, if_pos hforwarded]
      exact ⟨data, hdata, rfl⟩
    | false => exact hkey _ _ rfl ⟨_, rfl⟩
  · have hother {P : Prop} (heq : channel.channelType = channelForwardedTCPIP) : P := absurd heq hforwarded
    refine obeys_perform_bind.mpr ⟨⟨fun message hmessage => (by cases hmessage),
      due_of_channel p rfl hother fun _ => rfl⟩, fun found => ?_⟩
    cases (found : Bool) with
    | true =>
      refine ⟨fun message hmessage => ?_, due_of_channel p rfl hother fun _ => rfl⟩
      obtain rfl := Option.some.inj hmessage
      rw [Returns, if_neg hforwarded, if_pos hagent]
      rfl
    | false => exact due_of_channel p rfl hother fun _ => ⟨_, rfl⟩
  · exact ⟨rfl, hforwarded, hagent, fun op =>
      due_of_channel p rfl (fun heq => absurd heq hforwarded) fun heq => absurd heq hagent⟩

theorem handleUpstreamChannel_obeys (channel : NewChannel) :
    (p.handleUpstreamChannel channel).Obeys (returning p) { toSeen := { channel := some channel } }
      Decided := by
  have hrefuse (w : ReturnWatch) (err : Message)
      (h : Due p w.toSeen (.reject .upstream channel.id .prohibited err)) :
      (reject .upstream channel .prohibited err).Obeys (returning p) w Decided :=
    obeys_perform.mpr ⟨⟨fun message hmessage => (by cases hmessage), h⟩, fun _ => rfl⟩
  unfold Protocol.handleUpstreamChannel
  refine obeys_bind.mpr ((operationForUpstreamChannel_classifies p channel).mono fun result w h => ?_)
  rcases result with err | operation
  · exact hrefuse w err h
  have hdue (hsome : operation ≠ none) : ∀ op, Due p w.toSeen op := by
    obtain ⟨operation, rfl⟩ := Option.ne_none_iff_exists'.mp hsome
    exact h.2.2.2
  refine obeys_bind.mpr (beginOperation_returning p hdue (fun err w' hsome hseen => ?_) fun finishOp => ?_)
  · exact hrefuse w' err (hseen ▸ hdue hsome _)
  have hopen : (returning p).Allowed { w with toWatch := w.toWatch.begun operation }
      (.openChannel .downstream channel.channelType channel.extraData) := by
    cases operation with
    | none => exact h
    | some operation =>
      obtain ⟨rfl, hforwarded, hagent, hdue⟩ := h
      refine ⟨fun message hmessage => ?_, hdue _⟩
      obtain rfl := Option.some.inj hmessage
      rw [Returns, if_neg hforwarded, if_neg hagent]
      rfl
  -- once the client was asked for the channel, it is decided
  refine obeys_perform_bind.mpr ⟨hopen, fun opened => obeys_unreturned_idle p ?_ rfl⟩
  rcases (opened : Except OpenError ℕ) with err | downstream
  · exact .bind (finish_idle _ _) fun _ => idle_perform ⟨trivial, trivial⟩
  refine .bind (idle_perform ⟨trivial, trivial⟩) fun accepted => ?_
  rcases (accepted : Except Message Unit) with err | _
  · exact .bind (idle_perform ⟨trivial, trivial⟩) fun _ => finish_idle _ _
  · exact startChannel_idle _ _

theorem handleUpstreamRequest_obeys (request : Request) :
    (handleUpstreamRequest request).Obeys (returning p) {} Decided := by
  have hdue : ∀ op, Due p {} op := due_of_decided p rfl
  unfold handleUpstreamRequest
  refine obeys_bind.mpr (beginOperation_returning p (fun _ => hdue) (fun err w' _ hseen => ?_) fun finishOp => ?_)
  · refine obeys_unreturned_idle p (idle_of_plain (replyGlobalIfWanted_plain _ _ _)) ?_
    rw [hseen]
  refine obeys_perform_bind.mpr ⟨⟨fun message hmessage => ?_, hdue _⟩,
    fun sent => obeys_unreturned_idle p ?_ rfl⟩
  · obtain rfl := Option.some.inj hmessage
    rw [Returns]
    by_cases hpasses : request.type ≠ requestKeepalive ∧ request.type ≠ requestNoMoreSessions
    · rw [if_pos hpasses, if_neg (by simpa using hpasses)]
      rfl
    · rw [if_neg hpasses]
      rw [not_and_or, not_not, not_not] at hpasses
      rw [if_pos (by simpa using hpasses)]
      rfl
  rcases (sent : Except Message (Bool × GoString)) with err | ⟨ok, payload⟩ <;>
    exact .bind (finish_idle _ _) fun _ => idle_of_plain (replyGlobalIfWanted_plain _ _ _)

theorem forwardUpstreamRequest_obeys (c : ProxiedChannel) (request : Request) :
    (p.forwardUpstreamRequest c request).Obeys (returning p) {} Decided := by
  unfold Protocol.forwardUpstreamRequest
  have hrecord : ∀ payload : Option GoString, (payload.forM (p.recordExitStatus c)).Obeys
      (returning p) {} fun _ w => w = {} := by
    intro payload
    rcases payload with _ | payload
    · exact obeys_pure.mpr rfl
    change (p.recordExitStatus c payload).Obeys _ _ _
    unfold Protocol.recordExitStatus
    split
    · exact obeys_pure.mpr rfl
    · exact ⟨⟨fun message hmessage => (by cases hmessage), due_of_decided p rfl _⟩, fun _ => rfl⟩
  refine obeys_bind.mpr ((hrecord _).mono fun _ w hw => ?_)
  subst hw
  refine obeys_perform_bind.mpr ⟨⟨fun message hmessage => ?_, due_of_decided p rfl _⟩,
    fun sent => obeys_unreturned_idle p ?_ rfl⟩
  · obtain rfl := Option.some.inj hmessage
    exact rfl
  exact .bind (idle_of_plain (replyIfWanted_plain _ _ _ _)) fun _ => only_pure _

theorem forwardRequests_returning (c : ProxiedChannel) (source : Side) (hw : w.channel = none) :
    (p.forwardRequests c source).Obeys (returning p) w Decided := by
  unfold Protocol.forwardRequests
  refine obeys_receive p rfl rfl hw fun received => ?_
  cases source with
  | downstream =>
    rcases (received : Option Request) with _ | request
    · exact obeys_pure.mpr rfl
    · exact obeys_unreturned p (.bind (forwardDownstreamRequest_unreturned p c request) fun _ =>
        only_pure _) rfl
  | upstream =>
    have hend : (do perform (.requestsForwarded c); return none : Handling (Option Task)).Only
        Op.Unreturned := .bind (unreturned_perform trivial) fun _ => only_pure _
    rcases (received : Option Request) with _ | request
    · exact obeys_unreturned p hend rfl
    refine obeys_bind.mpr ((forwardUpstreamRequest_obeys p c request).mono fun more w' hw' => ?_)
    cases more with
    | true => exact obeys_pure.mpr hw'
    | false => exact obeys_unreturned p hend hw'

/-- All goroutines of a proxied connection obey the monitor. -/
theorem system_returning : p.system.Obeys (returning p) (fun w => w.channel = none) (fun _ => True) where
  code task _ w hw := by
    have hend {prog : Handling (Option Task)} (h : prog.Obeys (returning p) w Decided) :
        prog.Obeys (returning p) w fun next w' => ∀ task' ∈ next, True ∧ w'.channel = none :=
      h.mono fun _ _ hw' _ _ => ⟨trivial, hw'⟩
    cases task with
    | serveGlobalRequests => exact hend (obeys_unreturned p (serveGlobalRequests_unreturned p) hw)
    | serveChannels => exact hend (obeys_unreturned_idle p serveChannels_idle hw)
    | handleChannel channel =>
      have hhandle := (handleNewChannel_apart p channel).mono fun _ hop => hop.1
      exact hend (obeys_unreturned p (.bind hhandle fun _ => only_pure _) hw)
    | serveUpstreamChannels =>
      refine hend (obeys_receive p rfl rfl hw fun received => ?_)
      rcases (received : Option NewChannel) with _ | channel
      · exact obeys_pure.mpr rfl
      · exact obeys_bind.mpr (handleUpstreamChannel_obeys p channel)
    | serveUpstreamRequests =>
      refine hend (obeys_receive p rfl rfl hw fun received => ?_)
      rcases (received : Option Request) with _ | request
      · exact obeys_pure.mpr rfl
      · exact obeys_bind.mpr (handleUpstreamRequest_obeys p request)
    | waitUpstream =>
      exact hend (obeys_unreturned_idle p (.bind waitUpstream_idle fun _ => only_pure _) hw)
    | serve c => exact hend (obeys_unreturned_idle p (.bind (serve_idle c) fun _ => only_pure _) hw)
    | forwardRequests c source => exact hend (forwardRequests_returning p c source hw)
    | copyExtended c destination =>
      exact hend (obeys_unreturned p (.bind (unreturned_perform trivial) fun _ => only_pure _) hw)
  started _ _ _ _ _ := trivial

end Returning

/-! ## What the watch says about a history -/

/-- The answer that the goroutine last got when it looked for a forward, for the current message. -/
def LookedUp (key : GoString) (found : Bool) (before : List (Event interface)) : Prop :=
  Latest (fun op => ∃ key, op = .hasRemoteForward key) ⟨.hasRemoteForward key, found⟩ before

/-- The answer that the goroutine last got when it looked for the agent forward. -/
def LookedUpAgent (found : Bool) (before : List (Event interface)) : Prop :=
  Latest (fun op => op = .hasAgentForward) ⟨.hasAgentForward, found⟩ before

section History

variable (p : Protocol) {before : List (Event interface)}

theorem toWatch_after (before : List (Event interface)) :
    ((returning p).after {} before).toWatch = (mediation p).after {} before := by
  induction before using List.reverseRecOn with
  | nil => rfl
  | append_singleton before event ih =>
    rw [Monitor.after_concat, Monitor.after_concat, ← ih]
    rfl

/-- What `Seen` says about a history. -/
structure SeenIn (seen : Seen) (before : List (Event interface)) : Prop where
  lookup : ∀ key found, seen.lookup = some (key, found) → LookedUp key found before
  agent : ∀ found ∈ seen.agent, LookedUpAgent found before

/-- The operations, as the lookups of `seenNext` tell them apart. -/
theorem seenNext_cases (seen : Seen) (op : Op) (answer : op.Answer) :
    (∃ key, op = .hasRemoteForward key) ∨ op = .hasAgentForward ∨
      ((seenNext seen op answer).lookup = none ∧ (seenNext seen op answer).agent = none) ∨
        op.boundary = false ∧ (seenNext seen op answer).lookup = seen.lookup ∧
          (seenNext seen op answer).agent = seen.agent ∧ (¬ ∃ key, op = .hasRemoteForward key) ∧
            op ≠ .hasAgentForward := by
  cases op with
  | hasRemoteForward key => exact Or.inl ⟨key, rfl⟩
  | hasAgentForward => exact Or.inr (Or.inl rfl)
  | nextChannel side => cases side <;> exact Or.inr (Or.inr (Or.inl ⟨rfl, rfl⟩))
  | nextGlobalRequest | nextRequest => exact Or.inr (Or.inr (Or.inl ⟨rfl, rfl⟩))
  | openChannel side | sendRequest side | sendGlobal side =>
    cases side with
    | downstream => exact Or.inr (Or.inr (Or.inr ⟨rfl, rfl, rfl, by simp⟩))
    | upstream => exact Or.inr (Or.inr (Or.inl ⟨rfl, rfl⟩))
  | reject side => cases side <;> exact Or.inr (Or.inr (Or.inr ⟨rfl, rfl, rfl, by simp⟩))
  | _ => exact Or.inr (Or.inr (Or.inr ⟨rfl, rfl, rfl, by simp⟩))

theorem SeenIn.concat {seen : Seen} (h : SeenIn seen before) (op : Op) (answer : op.Answer) :
    SeenIn (seenNext seen op answer) (before ++ [⟨op, answer⟩]) := by
  rcases seenNext_cases seen op answer with
    ⟨key, rfl⟩ | rfl | ⟨hlookup, hagent⟩ | ⟨hboundary, hlookup, hagent, hkind, hkind'⟩
  · refine ⟨fun key' found hfound => ?_, fun found hfound => (h.agent found hfound).concat rfl (by simp)⟩
    obtain ⟨rfl, rfl⟩ := Prod.mk.inj (Option.some.inj hfound)
    exact latest_concat_self
  · refine ⟨fun key found hfound => (h.lookup key found hfound).concat rfl (by simp),
      fun found hfound => ?_⟩
    obtain rfl : answer = found := Option.some.inj hfound
    exact latest_concat_self
  · refine ⟨fun key found hfound => ?_, fun found hfound => ?_⟩
    · rw [hlookup] at hfound
      cases hfound
    · rw [hagent] at hfound
      cases hfound
  · refine ⟨fun key found hfound => ?_, fun found hfound => ?_⟩
    · exact (h.lookup key found (hlookup ▸ hfound)).concat hboundary hkind
    · exact (h.agent found (hagent ▸ hfound)).concat hboundary hkind'

/-- The watch remembers what the goroutine saw for its current message. -/
theorem seenIn_after (before : List (Event interface)) :
    SeenIn ((returning p).after {} before).toSeen before := by
  induction before using List.reverseRecOn with
  | nil => exact ⟨fun _ _ h => (by cases h), fun _ h => (by cases h)⟩
  | append_singleton before event ih =>
    rw [Monitor.after_concat]
    exact ih.concat event.op event.answer

end History

end KubeSsh.SshProxy

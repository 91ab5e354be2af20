import KubeSsh.SshProxy.Proxy

/-!
# `pkg/sshproxy`: the critical sections

What each operation of a goroutine does to the shared state, one inversion lemma for each critical
section of `Answers`. All other operations leave alone what is stored.
-/

namespace KubeSsh.SshProxy

open SshProtocol CryptoSsh

/-- What the goroutines of a connection have done. -/
abbrev Trace := List (ℕ × Event interface)

/-- The recorded forwards after an operation. -/
def recordedNext (forwards : GoMap (Option FinishId)) (op : Op) (answer : op.Answer) :
    GoMap (Option FinishId) :=
  match op, answer with
  | .addRemoteForward key finish, (recorded : Bool) =>
    if recorded then forwards.insert key finish else forwards
  | .removeRemoteForward key, _ => forwards.erase key
  | .close, (closed : Option (Bool × List (Option FinishId))) =>
    if closed.isSome then ∅ else forwards
  | _, _ => forwards

/-- The operation does not touch what is stored. -/
def Op.Quiet : Op → Prop
  | .close | .addRemoteForward _ _ | .removeRemoteForward _ | .setAgentForward _
  | .newProxiedChannel _ _ | .recordExitStatus _ _ | .replaceFinish _ _ | .takeFinish _ => False
  | _ => True

/-- What is stored is the same. -/
structure Same (s s' : ProxyState) : Prop where
  remoteForwards : s'.remoteForwards = s.remoteForwards
  agentForward : s'.agentForward = s.agentForward
  channels : s'.channels = s.channels
  closed : s'.closed = s.closed

section Answers

variable {s s' : ProxyState} {op : Op} {answer : op.Answer}

theorem same_of_answers (h : Answers s op answer s') (hop : op.Quiet) : Same s s' := by
  cases op with
  | close | addRemoteForward | removeRemoteForward | setAgentForward | newProxiedChannel
  | recordExitStatus | replaceFinish | takeFinish => exact hop.elim
  | connectionProxy =>
    have hs' : s.connectionProxy.2 = s' := congrArg Prod.snd h
    rw [← hs']
    unfold ProxyState.connectionProxy
    split <;> exact ⟨rfl, rfl, rfl, rfl⟩
  | closeProtocol =>
    have hs' : s.closeProtocol.2 = s' := congrArg Prod.snd h
    rw [← hs']
    exact ⟨rfl, rfl, rfl, rfl⟩
  | connectOnce =>
    rcases h with ⟨-, -, rfl⟩ | ⟨-, -, rfl⟩ <;> exact ⟨rfl, rfl, rfl, rfl⟩
  | setUpstream =>
    have hs' : s.setUpstream.2 = s' := congrArg Prod.snd h
    rw [← hs']
    unfold ProxyState.setUpstream
    split <;> exact ⟨rfl, rfl, rfl, rfl⟩
  | connectDone | setConnectErr =>
    obtain rfl := h
    exact ⟨rfl, rfl, rfl, rfl⟩
  | connection | hasRemoteForward | hasAgentForward =>
    obtain ⟨-, rfl⟩ := h
    exact ⟨rfl, rfl, rfl, rfl⟩
  | _ =>
    obtain rfl : s' = s := h
    exact ⟨rfl, rfl, rfl, rfl⟩

/-- The critical section of `close`, as it is answered. -/
theorem close_cases {closed : Option (Bool × List (Option FinishId))}
    (h : Answers s .close closed s') : s.closed = true ∧ closed = none ∧ s' = s ∨
      ∃ upstream finishes, s.closed = false ∧ closed = some (upstream, finishes) ∧
        finishes.Perm (s.remoteForwards.entries.map (·.2) ++
          (if s.agentForward.isSome then [s.agentForward] else [])) ∧
        s' = { s with closed := true, remoteForwards := ∅, agentForward := none } := by
  obtain ⟨hs', hanswer⟩ := h
  unfold ProxyState.close at hs' hanswer
  by_cases hclosed : s.closed = true
  · rw [if_pos hclosed] at hs' hanswer
    rcases closed with _ | found
    · exact Or.inl ⟨hclosed, rfl, hs'⟩
    · exact hanswer.elim
  · rw [if_neg hclosed] at hs' hanswer
    rcases closed with _ | ⟨upstream, finishes⟩
    · exact hanswer.elim
    · exact Or.inr ⟨upstream, finishes, by simpa using hclosed, rfl, hanswer.2.symm, hs'⟩

theorem addRemoteForward_cases {key : GoString} {finish : Option FinishId} {recorded : Bool}
    (h : Answers s (.addRemoteForward key finish) recorded s') :
    s.closed = true ∧ recorded = false ∧ s' = s ∨
      s.closed = false ∧ recorded = true ∧
        s' = { s with remoteForwards := s.remoteForwards.insert key finish } := by
  have heq : s.addRemoteForward key finish = (recorded, s') := h
  unfold ProxyState.addRemoteForward at heq
  by_cases hclosed : s.closed = true
  · rw [if_pos hclosed, Prod.mk.injEq] at heq
    exact Or.inl ⟨hclosed, heq.1.symm, heq.2.symm⟩
  · rw [if_neg hclosed, Prod.mk.injEq] at heq
    exact Or.inr ⟨by simpa using hclosed, heq.1.symm, heq.2.symm⟩

theorem setAgentForward_cases {finish : Option FinishId} {previous : Option (Option FinishId)}
    (h : Answers s (.setAgentForward finish) previous s') :
    s.closed = true ∧ previous = none ∧ s' = s ∨
      s.closed = false ∧ previous = some s.agentForward ∧ s' = { s with agentForward := finish } := by
  have heq : s.setAgentForward finish = (previous, s') := h
  unfold ProxyState.setAgentForward at heq
  by_cases hclosed : s.closed = true
  · rw [if_pos hclosed, Prod.mk.injEq] at heq
    exact Or.inl ⟨hclosed, heq.1.symm, heq.2.symm⟩
  · rw [if_neg hclosed, Prod.mk.injEq] at heq
    exact Or.inr ⟨by simpa using hclosed, heq.1.symm, heq.2.symm⟩

theorem removeRemoteForward_answer {key : GoString} {finish : Option FinishId}
    (h : Answers s (.removeRemoteForward key) finish s') :
    finish = (s.remoteForwards.lookup key).join ∧
      s' = { s with remoteForwards := s.remoteForwards.erase key } := by
  have heq : s.removeRemoteForward key = (finish, s') := h
  exact ⟨(congrArg Prod.fst heq).symm, (congrArg Prod.snd heq).symm⟩

theorem replaceFinish_answer {c : ProxiedChannel} {finish previous : Option FinishId}
    (h : Answers s (.replaceFinish c finish) previous s') :
    previous = (s.channels c.upstream).finish ∧
      s' = s.setChannel c.upstream { s.channels c.upstream with finish } := by
  have heq : s.replaceFinish c.upstream finish = (previous, s') := h
  exact ⟨(congrArg Prod.fst heq).symm, (congrArg Prod.snd heq).symm⟩

theorem takeFinish_answer {c : ProxiedChannel} {state : ChannelState}
    (h : Answers s (.takeFinish c) state s') :
    state = s.channels c.upstream ∧
      s' = s.setChannel c.upstream { s.channels c.upstream with finish := none } := by
  have heq : s.takeFinish c.upstream = (state, s') := h
  exact ⟨(congrArg Prod.fst heq).symm, (congrArg Prod.snd heq).symm⟩

theorem remoteForwards_of_answers (h : Answers s op answer s') :
    s'.remoteForwards = recordedNext s.remoteForwards op answer := by
  cases op with
  | close =>
    rcases close_cases h with ⟨-, rfl, rfl⟩ | ⟨_, _, -, rfl, -, rfl⟩ <;> rfl
  | addRemoteForward key finish =>
    rcases addRemoteForward_cases h with ⟨-, rfl, rfl⟩ | ⟨-, rfl, rfl⟩ <;> rfl
  | removeRemoteForward key =>
    obtain ⟨-, rfl⟩ := removeRemoteForward_answer h
    rfl
  | setAgentForward finish =>
    rcases setAgentForward_cases h with ⟨-, -, rfl⟩ | ⟨-, -, rfl⟩ <;> rfl
  | newProxiedChannel | recordExitStatus =>
    obtain rfl := h
    rfl
  | replaceFinish c finish =>
    obtain ⟨-, rfl⟩ := replaceFinish_answer h
    rfl
  | takeFinish c =>
    obtain ⟨-, rfl⟩ := takeFinish_answer h
    rfl
  | _ => exact (same_of_answers h trivial).remoteForwards

theorem closed_of_ne_close (h : Answers s op answer s') (hop : op ≠ .close) : s'.closed = s.closed := by
  cases op with
  | close => exact absurd rfl hop
  | addRemoteForward key finish =>
    rcases addRemoteForward_cases h with ⟨-, -, rfl⟩ | ⟨-, -, rfl⟩ <;> rfl
  | removeRemoteForward key =>
    obtain ⟨-, rfl⟩ := removeRemoteForward_answer h
    rfl
  | setAgentForward finish =>
    rcases setAgentForward_cases h with ⟨-, -, rfl⟩ | ⟨-, -, rfl⟩ <;> rfl
  | newProxiedChannel | recordExitStatus =>
    obtain rfl := h
    rfl
  | replaceFinish c finish =>
    obtain ⟨-, rfl⟩ := replaceFinish_answer h
    rfl
  | takeFinish c =>
    obtain ⟨-, rfl⟩ := takeFinish_answer h
    rfl
  | _ => exact (same_of_answers h trivial).closed

/-- A closed proxy records nothing. -/
def ProxyState.Closed (s : ProxyState) : Prop :=
  s.closed = true → s.remoteForwards = ∅ ∧ s.agentForward = none

theorem closed_of_answers (hs : s.Closed) (h : Answers s op answer s') : s'.Closed := by
  intro hclosed
  cases op with
  | close =>
    rcases close_cases h with ⟨hclosed', -, rfl⟩ | ⟨_, _, -, -, -, rfl⟩
    · exact hs hclosed'
    · exact ⟨rfl, rfl⟩
  | addRemoteForward key finish =>
    rcases addRemoteForward_cases h with ⟨hclosed', -, rfl⟩ | ⟨hclosed', -, rfl⟩
    · exact hs hclosed'
    · exact absurd (hclosed'.symm.trans hclosed) (by decide)
  | setAgentForward finish =>
    rcases setAgentForward_cases h with ⟨hclosed', -, rfl⟩ | ⟨hclosed', -, rfl⟩
    · exact hs hclosed'
    · exact absurd (hclosed'.symm.trans hclosed) (by decide)
  | removeRemoteForward key =>
    obtain ⟨-, rfl⟩ := removeRemoteForward_answer h
    obtain ⟨hforwards, hagent⟩ := hs hclosed
    refine ⟨?_, hagent⟩
    change s.remoteForwards.erase key = ∅
    rw [hforwards]
    rfl
  | newProxiedChannel | recordExitStatus =>
    obtain rfl := h
    exact hs hclosed
  | replaceFinish c finish =>
    obtain ⟨-, rfl⟩ := replaceFinish_answer h
    exact hs hclosed
  | takeFinish c =>
    obtain ⟨-, rfl⟩ := takeFinish_answer h
    exact hs hclosed
  | _ =>
    have hsame := same_of_answers h trivial
    rw [hsame.remoteForwards, hsame.agentForward]
    exact hs (hsame.closed ▸ hclosed)

end Answers

end KubeSsh.SshProxy

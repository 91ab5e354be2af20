import KubeSsh.Authn

/-!
# `pkg/authz`: requests, decisions, and the first-decisive chain

An authorizer answers a request with a decision, a reason and possibly an error. `chainAuthorize`
asks its members in order and stops at the first one that fails or decides.
`chainAuthorize_eq_find` describes its result through the members' answers alone, so that statements
about the chain need not follow the loop again.
-/

namespace KubeSsh.Authz

open Authn

/-- `authz.Decision`. The type is an open string type in the source: an implementation may return
any other text. -/
inductive Decision
  | noOpinion
  | deny
  | allow
  | other (text : GoString)
deriving DecidableEq

/-- The string behind a decision. -/
def Decision.text : Decision → GoString
  | .noOpinion => str "NoOpinion"
  | .deny => str "Deny"
  | .allow => str "Allow"
  | .other text => text

/-- The conversion `Decision(value)`. -/
def Decision.ofString (value : GoString) : Decision :=
  if value = str "NoOpinion" then .noOpinion
  else if value = str "Deny" then .deny
  else if value = str "Allow" then .allow
  else .other value

/-- `authz.Capability` and `sshv1.Capability`, which have the same values. -/
inductive Capability
  | shell
  | exec
  | scp
  | sftp
  | localForward
  | remoteForward
  | agentForward
  | sshExtension
  | other (text : GoString)
deriving DecidableEq

namespace Capability

/-- The string behind a capability (`authz.go:24-33`). -/
def text : Capability → GoString
  | .shell => str "shell"
  | .exec => str "exec"
  | .scp => str "scp"
  | .sftp => str "sftp"
  | .localForward => str "local_forward"
  | .remoteForward => str "remote_forward"
  | .agentForward => str "agent_forward"
  | .sshExtension => str "ssh_extension"
  | .other text => text

/-- The capabilities the source names. -/
def known : List Capability :=
  [.shell, .exec, .scp, .sftp, .localForward, .remoteForward, .agentForward, .sshExtension]

/-- The conversion `Capability(value)`, which accepts any string. -/
def ofString (value : GoString) : Capability :=
  (known.find? fun capability => capability.text = value).getD (.other value)

/-- `Capability("*")`, which stands for every capability in a policy list. -/
def wildcard : Capability := .other (str "*")

@[simp]
theorem text_ofString (value : GoString) : (ofString value).text = value := by
  unfold ofString
  cases h : known.find? fun capability => capability.text = value with
  | none => rfl
  | some capability => simpa using List.find?_some h

theorem ofString_inj {a b : GoString} : ofString a = ofString b ↔ a = b := by
  refine ⟨fun h => ?_, congrArg ofString⟩
  rw [← text_ofString a, h, text_ofString]

/-- `authz.ParseCapability` (`authz.go:36-44`). -/
def parse (value : GoString) : Except Message Capability :=
  let capability := ofString value
  if capability ∈ known then .ok capability
  else .error [.bytes (str "unknown capability "), .quoted value]

theorem parse_eq_ok {value : GoString} {capability : Capability}
    (h : parse value = .ok capability) : capability = ofString value := by
  unfold parse at h
  dsimp only at h
  split at h
  · exact (Except.ok.inj h).symm
  · cases h

end Capability

/-- `authz.AttributeResource`. -/
structure AttributeResource where
  resource : GoString
  name : GoString
deriving DecidableEq

/-- `authz.Attributes`: the operation being authorized. -/
structure Attributes where
  action : GoString
  resources : List AttributeResource := []
  path : GoString := []
  extra : GoMap (List GoString) := ∅

/-- `authz.Request`. -/
structure Request where
  user : UserInfo := {}
  authMethod : GoString := []
  authExtra : GoMap (List GoString) := ∅
  attributes : Attributes

/-- The capability a request asks for: `Capability(req.Attributes.Action)`. -/
def Request.capability (req : Request) : Capability := .ofString req.attributes.action

/-- What `Authorize` returns: decision, reason and error. -/
structure Answer where
  decision : Decision
  reason : Message := []
  err : Option Message := none
deriving DecidableEq

/-- `authz.Authorizer`: any function from requests to answers. -/
abbrev Authorizer := Request → Answer

/-- `resourceValue`, which `accesspolicy` repeats as `resourceName`: the name of the first resource
of a kind (`authorizer_sar.go:119-126`). -/
def resourceValue (resources : List AttributeResource) (resource : GoString) : GoString :=
  match resources.find? fun item => item.resource = resource with
  | some item => item.name
  | none => []

/-- `extraValue` (`authorizer_sar.go:127-133`). -/
def extraValue (extra : GoMap (List GoString)) (key : GoString) : GoString := firstValue extra key

/-! ## The chain -/

/-- The loop of `Chain.Authorize` ends at an answer with an error, an allow or a deny. -/
def Answer.Final (answer : Answer) : Prop :=
  answer.err.isSome ∨ answer.decision = .allow ∨ answer.decision = .deny

instance : DecidablePred Answer.Final := fun _ => inferInstanceAs (Decidable (_ ∨ _ ∨ _))

/-- `Chain.Authorize` (`authz.go:94-105`). -/
def chainAuthorize : List Authorizer → Authorizer
  | [], _ => { decision := .noOpinion }
  | authorizer :: rest, req =>
    let answer := authorizer req
    if answer.err.isSome then answer
    else if answer.decision = .allow ∨ answer.decision = .deny then answer
    else chainAuthorize rest req

variable {authorizer : Authorizer} {rest : List Authorizer}

theorem chainAuthorize_cons_of_final {req : Request} (h : (authorizer req).Final) :
    chainAuthorize (authorizer :: rest) req = authorizer req := by
  simp only [chainAuthorize]
  rcases h with h | h
  · rw [if_pos h]
  · rw [if_pos h, ite_self]

theorem chainAuthorize_cons_of_not_final {req : Request} (h : ¬ (authorizer req).Final) :
    chainAuthorize (authorizer :: rest) req = chainAuthorize rest req := by
  rw [Answer.Final, not_or] at h
  rw [chainAuthorize, if_neg h.1, if_neg h.2]

/-- The chain returns the first final answer of its members, or `NoOpinion`. -/
theorem chainAuthorize_eq_find (chain : List Authorizer) (req : Request) :
    chainAuthorize chain req =
      ((chain.map fun authorizer => authorizer req).find? fun answer => answer.Final).getD
        { decision := .noOpinion } := by
  induction chain with
  | nil => rfl
  | cons authorizer rest ih =>
    by_cases h : (authorizer req).Final
    · rw [chainAuthorize_cons_of_final h, List.map_cons, List.find?_cons_of_pos (by simpa using h)]
      rfl
    · rw [chainAuthorize_cons_of_not_final h, List.map_cons,
        List.find?_cons_of_neg (by simpa using h), ih]

/-- A chain as the last member of a chain asks its members in place. -/
theorem chainAuthorize_append_chain (before members : List Authorizer) (req : Request) :
    chainAuthorize (before ++ [chainAuthorize members]) req
      = chainAuthorize (before ++ members) req := by
  induction before with
  | cons authorizer rest ih =>
    by_cases h : (authorizer req).Final
    · rw [List.cons_append, List.cons_append, chainAuthorize_cons_of_final h,
        chainAuthorize_cons_of_final h]
    · rw [List.cons_append, List.cons_append, chainAuthorize_cons_of_not_final h,
        chainAuthorize_cons_of_not_final h, ih]
  | nil =>
    rw [List.nil_append, List.nil_append]
    by_cases h : (chainAuthorize members req).Final
    · exact chainAuthorize_cons_of_final h
    · rw [chainAuthorize_cons_of_not_final h]
      -- an answer that is not final is the one of an exhausted chain
      rw [chainAuthorize_eq_find members req] at h ⊢
      cases hfind : (members.map fun a => a req).find? fun answer => answer.Final with
      | none => rfl
      | some answer =>
        rw [hfind] at h
        exact absurd (by simpa using List.find?_some hfind) h

/-- When a chain allows, no member before the one that did was final. -/
theorem allow_of_chainAuthorize_cons
    {req : Request} (h : (chainAuthorize (authorizer :: rest) req).decision = .allow) :
    (authorizer req).decision = .allow ∨
      ¬ (authorizer req).Final ∧ (chainAuthorize rest req).decision = .allow := by
  by_cases hf : (authorizer req).Final
  · rw [chainAuthorize_cons_of_final hf] at h
    exact Or.inl h
  · rw [chainAuthorize_cons_of_not_final hf] at h
    exact Or.inr ⟨hf, h⟩

/-! ## Regular answers -/

/-- An answer that keeps to the three documented decisions and does not allow along with an
error. -/
structure Answer.Regular (answer : Answer) : Prop where
  documented : ∀ text, answer.decision ≠ .other text
  cautious : answer.err.isSome → answer.decision ≠ .allow

/-- An authorizer all of whose answers are regular. -/
def Regular (authorizer : Authorizer) : Prop := ∀ req, (authorizer req).Regular

theorem Answer.Regular.of_no_error {answer : Answer} (hdecision : ∀ text,
    answer.decision ≠ .other text) (herr : answer.err = none) : answer.Regular :=
  ⟨hdecision, fun h => by simp [herr] at h⟩

/-! ## Allowing everything -/

/-- `authz.AllowAll`. -/
def allowAll : Authorizer := fun _ => { decision := .allow }

theorem allowAll_regular : Regular allowAll :=
  fun _ => .of_no_error (by simp [allowAll]) rfl

end KubeSsh.Authz

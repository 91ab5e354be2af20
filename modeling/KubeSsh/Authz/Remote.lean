import KubeSsh.Authz.Basic

/-!
# `pkg/authz`: the Kubernetes SAR and webhook authorizers

Both ask another service. The service is a function from the request that is sent to the answer that
comes back or an error; what the authorizers make of the answer is modeled in full.
-/

namespace KubeSsh.Authz

open Authn

/-! ## SubjectAccessReview -/

/-- The fields of a `SubjectAccessReviewSpec` that are set; verb and resource are constant. -/
structure SubjectAccessReview where
  user : GoString
  groups : List GoString
  ns : GoString
  verb : GoString
  resource : GoString
  subresource : GoString
  name : GoString

/-- `SubjectAccessReviewStatus`. -/
structure SubjectAccessReviewStatus where
  allowed : Bool
  reason : GoString
  evaluationError : GoString

/-- `strings.ToLower` on ASCII letters. Comparing with an ASCII constant that has no `i` and no `k`
needs no more: no other character is lowered to one of its letters. -/
def asciiLower (s : GoString) : GoString :=
  s.map fun b => if 65 ≤ b ∧ b ≤ 90 then b + 32 else b

/-- `isKubernetesPodLocalForwardHost` (`authorizer_sar.go:109-116`). -/
def isKubernetesPodLocalForwardHost (host : GoString) : Bool :=
  [[], str "localhost", str "127.0.0.1", str "::1"].contains (asciiLower host)

/-- `kubernetesSARSubresource` (`authorizer_sar.go:95-107`). -/
def kubernetesSARSubresource (attrs : Attributes) : Option GoString :=
  match Capability.ofString attrs.action with
  | .shell | .exec | .sftp | .scp | .remoteForward | .agentForward => some (str "exec")
  | .localForward =>
    if isKubernetesPodLocalForwardHost (extraValue attrs.extra (str "destination_host")) then
      some (str "portforward")
    else some (str "exec")
  | _ => none

/-- `KubernetesSARAuthorizer.Authorize` (`authorizer_sar.go:38-93`). `none` is a missing client. -/
def kubernetesSARAuthorize
    (client : Option (SubjectAccessReview → Except Message SubjectAccessReviewStatus)) :
    Authorizer := fun req =>
  match client with
  | none =>
    { decision := .noOpinion, err := some (.text "kubernetes SAR authorizer requires a client") }
  | some create =>
    if resourceValue req.attributes.resources (str "targets") ≠ str "kube" then
      { decision := .noOpinion }
    else match kubernetesSARSubresource req.attributes with
      | none => { decision := .noOpinion }
      | some subresource =>
        let ns := resourceValue req.attributes.resources (str "namespaces")
        let pod := resourceValue req.attributes.resources (str "pods")
        if ns = [] ∨ pod = [] then
          { decision := .deny, reason := .text "kubernetes target requires namespace and pod"
            err := some (.text "kubernetes SAR requires namespace and pod") }
        else if req.user.name = [] then
          { decision := .deny, reason := .text "kubernetes user is required" }
        else
          let review : SubjectAccessReview :=
            { user := req.user.name, groups := req.user.groups, ns := ns, verb := str "create"
              resource := str "pods", subresource := subresource, name := pod }
          match create review with
          | .error err => { decision := .noOpinion, err := some err }
          | .ok status =>
            if status.allowed then { decision := .allow }
            else
              let reason := if status.reason = [] then status.evaluationError else status.reason
              let reason := if reason = [] then str "kubernetes rbac denied" else reason
              { decision := .deny, reason := .ofString reason }

theorem kubernetesSARAuthorize_regular
    (client : Option (SubjectAccessReview → Except Message SubjectAccessReviewStatus)) :
    Regular (kubernetesSARAuthorize client) := by
  intro req
  unfold kubernetesSARAuthorize
  split
  · exact ⟨by simp, by simp⟩
  split
  · exact ⟨by simp, by simp⟩
  split
  · exact ⟨by simp, by simp⟩
  dsimp only
  split
  · exact ⟨by simp, by simp⟩
  split
  · exact ⟨by simp, by simp⟩
  split
  · exact ⟨by simp, by simp⟩
  split
  · exact ⟨by simp, by simp⟩
  · exact ⟨by simp, by simp⟩

/-! ## Webhook -/

/-- `WebhookAuthorizeResponse`. -/
structure WebhookAuthorizeResponse where
  decision : GoString
  reason : GoString
  error : GoString

/-- `WebhookAuthorizer.Authorize` (`webhook.go:34-50`). The request that is posted has the user and
the attributes. -/
def webhookAuthorize (post : UserInfo → Attributes → Except Message WebhookAuthorizeResponse) :
    Authorizer := fun req =>
  match post req.user req.attributes with
  | .error err => { decision := .noOpinion, err := some err }
  | .ok resp =>
    if resp.error ≠ [] then
      { decision := .noOpinion, reason := .ofString resp.reason
        err := some [.bytes (str "webhook authorization error: "), .bytes resp.error] }
    else match Decision.ofString resp.decision with
      | .other text =>
        if text = [] then { decision := .noOpinion, reason := .ofString resp.reason }
        else
          { decision := .noOpinion, reason := .ofString resp.reason
            err := some [.bytes (str "webhook returned invalid decision "), .quoted text] }
      | decision => { decision, reason := .ofString resp.reason }

theorem webhookAuthorize_regular
    (post : UserInfo → Attributes → Except Message WebhookAuthorizeResponse) :
    Regular (webhookAuthorize post) := by
  intro req
  unfold webhookAuthorize
  split
  · exact ⟨by simp, by simp⟩
  split
  · exact ⟨by simp, by simp⟩
  split
  · split
    · exact ⟨by simp, by simp⟩
    · exact ⟨by simp, by simp⟩
  · rename_i hother
    exact .of_no_error hother rfl

end KubeSsh.Authz

import KubeSsh.Gateway.Authentication
import Mathlib.Data.List.Induction

/-!
# `pkg/gateway`: only a proven credential becomes the identity of a connection

`identity` watches the authentication of one connection. It remembers the current attempt, what the
authenticator answered, and the user that was stored; a target is resolved, a session policy
applied, a success recorded and an identity published only for a credential that the current attempt
proves: the password that the authenticator accepted in it, or a key it accepted before whose
signature verified.
-/

namespace KubeSsh.Gateway.Authentication

open Authn AccessPolicy Target

variable {keys : CryptoSsh.Keys}

/-! ## The monitor -/

/-- What the connection has shown so far. -/
structure Watch (PublicKey : Type) where
  attempt : Option (Attempt PublicKey) := none
  metadataUser : GoString := []
  /-- The user and the password that the authenticator accepted in the attempt, and what it
  returned. -/
  accepted : Option (GoString × GoString × AuthenticateInfo) := none
  /-- What the authenticator returned for users and keys, in all attempts. -/
  known : List (GoString × PublicKey × AuthenticateInfo) := []
  recorded : Bool := false
  published : Bool := false

/-- The current attempt proves a credential for the stored user, with this identity and
fingerprint. -/
def Watch.Proves (w : Watch keys.PublicKey) (info : AuthenticateInfo) (fingerprint : GoString) : Prop :=
  match w.attempt with
  | some (.password user value) =>
    user = w.metadataUser ∧ w.accepted = some (user, value, info) ∧ fingerprint = []
  | some (.signed user key .verified) =>
    user = w.metadataUser ∧ (user, key, info) ∈ w.known ∧ fingerprint = keys.fingerprintSHA256 key
  | _ => False

/-- What may be done with a credential needs its proof in the current attempt. -/
def identity (keys : CryptoSsh.Keys) : Monitor (interface keys.PublicKey) (Watch keys.PublicKey) where
  Allowed w
    | .nextAttempt => w.published = false
    | .resolve input => ∃ info fingerprint remoteAddr, w.Proves info fingerprint ∧
        input = resolveInput w.metadataUser remoteAddr info
    | .resolveSessionPolicy user extra => ∃ info fingerprint, w.Proves info fingerprint ∧
        user = w.metadataUser ∧ extra = info.extra
    | .applyPolicy _ => ∃ info fingerprint, w.Proves info fingerprint
    | .publishAuthenticated connection => w.Proves connection.info connection.fingerprint
    | .recordAuthentication _ fingerprint result => w.recorded = false ∧
        ∀ info, result = .ok info → w.Proves info fingerprint
    | .sendSuccess => w.published = true
    | _ => True
  next w op answer := match op, answer with
    | .nextAttempt, (attempt : Option (Attempt keys.PublicKey)) =>
      { w with attempt, accepted := none, recorded := false }
    | .authenticateBasic user value, (result : Except AuthnError AuthenticateInfo) =>
      { w with accepted := result.toOption.map (user, value, ·) }
    | .authenticatePublicKey user key, (result : Except AuthnError AuthenticateInfo) =>
      { w with known := result.toOption.toList.map (user, key, ·) ++ w.known }
    | .setMetadata user, _ => { w with metadataUser := user }
    | .recordAuthentication _ _ _, _ => { w with recorded := true }
    | .publishAuthenticated _, _ => { w with published := true }
    | _, _ => w

/-! ## The callbacks -/

section Callbacks

open Prog

variable {w : Watch keys.PublicKey} {st : LoopState keys.PublicKey}

/-- A proven credential is published or not; nothing else changes. -/
theorem acceptAuthenticated_obeys {result : AuthenticationResult} (remoteAddr : Option GoString)
    (hproves : w.Proves result.info result.fingerprint) (hpublished : w.published = false) :
    (acceptAuthenticated remoteAddr w.metadataUser result).Obeys (identity keys) w
      fun accepted w' => w' = { w with published := accepted } := by
  have hsame : w = { w with published := false } := by rw [← hpublished]
  refine obeys_perform_bind.mpr ⟨⟨_, _, remoteAddr, hproves, rfl⟩, fun resolved => ?_⟩
  rcases (resolved : Except ResolveError Target) with err | tgt
  · exact ⟨trivial, fun _ => ⟨trivial, fun _ => hsame⟩⟩
  refine obeys_perform_bind.mpr ⟨trivial, fun _ => ?_⟩
  refine obeys_perform_bind.mpr ⟨⟨_, _, hproves, rfl, rfl⟩, fun found => ?_⟩
  rcases (found : Except Message EffectiveSessionPolicy) with err | policy
  · exact ⟨trivial, fun _ => hsame⟩
  refine obeys_perform_bind.mpr ⟨⟨_, _, hproves⟩, fun _ => ?_⟩
  refine obeys_perform_bind.mpr ⟨trivial, fun selected => ?_⟩
  rcases (selected : Except Message ConnectionProtocol) with err | protocol
  · exact ⟨trivial, fun _ => hsame⟩
  · exact ⟨hproves, fun _ => rfl⟩

variable (config : Config)

/-- The success is recorded, and published if the connection is accepted. -/
theorem finish_obeys {result : AuthenticationResult} (hproves : w.Proves result.info result.fingerprint)
    (huser : st.metadataUser = w.metadataUser) (hrecorded : w.recorded = false)
    (hpublished : w.published = false) :
    (config.finish keys result st).Obeys (identity keys) w fun ended w' =>
      ended.2 = { st with reported := true } ∧
      (ended.1 = .ok () ∧ w' = { w with recorded := true, published := true } ∨
        ended.1 = .error .rejected ∧ w' = { w with recorded := true }) := by
  unfold Config.finish
  refine obeys_perform_bind.mpr ⟨⟨hrecorded, fun info hinfo => ?_⟩, fun _ => ?_⟩
  · obtain rfl := Except.ok.inj hinfo
    exact hproves
  rw [huser]
  have haccept := acceptAuthenticated_obeys (w := { w with recorded := true }) config.remoteAddr
    hproves hpublished
  refine obeys_bind.mpr (haccept.mono fun accepted w' hw' => ?_)
  subst hw'
  cases accepted with
  | true => exact ⟨by rw [← huser], Or.inl ⟨rfl, rfl⟩⟩
  | false => exact ⟨by rw [← huser], Or.inr ⟨rfl, by rw [← hpublished]⟩⟩

/-- The authenticator returned this result for the user and the key. -/
def Watch.Knows (w : Watch keys.PublicKey) (user : GoString) (key : keys.PublicKey)
    (result : AuthenticationResult) : Prop :=
  (user, key, result.info) ∈ w.known ∧ result.fingerprint = keys.fingerprintSHA256 key

/-- What the loop keeps across attempts: the stored user is the one that had the partial success,
and every cached result came from the authenticator. -/
structure Holds (st : LoopState keys.PublicKey) (w : Watch keys.PublicKey) : Prop where
  metadataUser : st.metadataUser = w.metadataUser
  user : st.partialSuccessReturned = true → st.user = w.metadataUser
  callbacks : st.publicKeyCallback = true ∨ st.passwordCallback = true →
    st.partialSuccessReturned = true
  cache : ∀ candidate ∈ st.cache, ∀ result, candidate.result = .ok result →
    w.Knows candidate.user candidate.key result

/-- The loop at the start of an iteration. -/
structure Ready (st : LoopState keys.PublicKey) (w : Watch keys.PublicKey) : Prop extends
    Holds st w where
  published : w.published = false
  reported : st.reported = false

theorem ready_start : Ready ({} : LoopState keys.PublicKey) {} where
  metadataUser := rfl
  user h := by cases h
  callbacks h := by rcases h with h | h <;> cases h
  cache _ h := by cases h
  published := rfl
  reported := rfl

theorem Holds.of_eq {st' : LoopState keys.PublicKey} {w' : Watch keys.PublicKey} (h : Holds st w)
    (hst : st' = { st with fingerprint := st'.fingerprint, reported := st'.reported })
    (hw : w' = { w with recorded := w'.recorded, published := w'.published, attempt := w'.attempt,
                        accepted := w'.accepted }) : Holds st' w' := by
  rw [hst, hw]
  exact ⟨h.metadataUser, h.user, h.callbacks, h.cache⟩

theorem publicKey_obeys (user : GoString) (key : keys.PublicKey) :
    (Config.publicKey keys user key st).Obeys (identity keys) w fun ended w' =>
      ended.2 = { st with fingerprint := keys.fingerprintSHA256 key, reported := false } ∧
      w.known ⊆ w'.known ∧ w' = { w with known := w'.known } ∧
      ∀ result, ended.1 = .ok result → w'.Knows user key result := by
  refine obeys_perform_bind.mpr ⟨trivial, fun answered => ?_⟩
  rcases (answered : Except AuthnError AuthenticateInfo) with err | info
  · exact ⟨rfl, fun _ h => h, rfl, fun result hresult => (by cases hresult)⟩
  · refine ⟨rfl, List.subset_cons_self _ _, rfl, fun result hresult => ?_⟩
    obtain rfl := Except.ok.inj hresult
    exact ⟨List.mem_cons_self, rfl⟩

/-- A result for a user and a key came from the authenticator, whether it was cached or not. -/
theorem candidate_obeys [DecidableEq keys.PublicKey] (hholds : Holds st w)
    (hreported : st.reported = false) (user : GoString) (key : keys.PublicKey) :
    (Config.candidate keys user key st).Obeys (identity keys) w fun ended w' =>
      Holds ended.2 w' ∧ ended.2.reported = false ∧ w' = { w with known := w'.known } ∧
      ∀ result, ended.1 = .ok result → w'.Knows user key result := by
  have hmiss : (do
      let ended ← Config.publicKey keys user key st
      return (ended.1, { ended.2 with cache := { user, key, result := ended.1 } :: ended.2.cache }) :
        Handling keys.PublicKey _).Obeys (identity keys) w fun ended w' =>
      Holds ended.2 w' ∧ ended.2.reported = false ∧ w' = { w with known := w'.known } ∧
      ∀ result, ended.1 = .ok result → w'.Knows user key result := by
    refine obeys_bind.mpr ((publicKey_obeys user key).mono ?_)
    rintro ⟨result, st'⟩ w' ⟨hst, hknown, hw, hresult⟩
    obtain rfl : st' = _ := hst
    refine obeys_pure.mpr ⟨⟨?_, ?_, hholds.callbacks, ?_⟩, rfl, hw, hresult⟩
    · rw [hw]
      exact hholds.metadataUser
    · rw [hw]
      exact hholds.user
    · intro candidate hcandidate result' hresult'
      rcases List.mem_cons.mp hcandidate with rfl | hcandidate
      · exact hresult result' hresult'
      · obtain ⟨hmem, hfingerprint⟩ := hholds.cache candidate hcandidate result' hresult'
        exact ⟨hknown hmem, hfingerprint⟩
  refine obeys_perform_bind.mpr ⟨trivial, fun kept => ?_⟩
  cases hhit : st.cache.find? fun candidate => candidate.user = user ∧ candidate.key = key with
  | none => exact hmiss
  | some candidate =>
    cases (kept : Bool) with
    | false => exact hmiss
    | true =>
      refine obeys_pure.mpr ⟨hholds, hreported, rfl, fun result hresult => ?_⟩
      have hmem := List.mem_of_find?_eq_some hhit
      have hfound := List.find?_some hhit
      rw [decide_eq_true_eq] at hfound
      obtain ⟨rfl, rfl⟩ := hfound
      exact hholds.cache candidate hmem result hresult

theorem authLog_obeys (method : GoString) (outcome : Except AttemptError Unit)
    (hreported : st.reported = w.recorded) :
    (Config.authLog keys method outcome st).Obeys (identity keys) w fun st' w' =>
      st' = { st with reported := false } ∧ w' = { w with recorded := w'.recorded } := by
  unfold Config.authLog
  split
  · exact obeys_pure.mpr ⟨rfl, rfl⟩
  split
  · exact obeys_pure.mpr ⟨rfl, rfl⟩
  rename_i hlogged
  rw [not_or, Bool.not_eq_true] at hlogged
  refine obeys_perform_bind.mpr
    ⟨⟨hreported.symm.trans hlogged.2, fun info hinfo => (by cases hinfo)⟩, fun _ => ?_⟩
  exact obeys_perform_bind.mpr ⟨trivial, fun _ => ⟨rfl, rfl⟩⟩

/-- After an attempt the loop ends, or it is ready for the next. -/
theorem conclude_obeys {outcome : Except AttemptError Unit} (hholds : Holds st w)
    (hreported : st.reported = w.recorded) (hok : outcome = .ok () → w.published = true)
    (herr : ∀ err, outcome = .error err → w.published = false)
    (hpart : ∀ publicKey password, outcome = .error (.partialSuccess publicKey password) →
      st.user = w.metadataUser) (method : GoString) :
    (Config.conclude keys method outcome st).Obeys (identity keys) w
      fun next w' => ∀ st' ∈ next, Ready st' w' := by
  refine obeys_bind.mpr ((authLog_obeys method outcome hreported).mono ?_)
  rintro st' w' ⟨hst, hw⟩
  subst hst
  have hholds' : Holds { st with reported := false } w' := hholds.of_eq rfl (by rw [hw])
  have hpublished : w'.published = w.published := by rw [hw]
  split
  · exact obeys_perform_bind.mpr ⟨hpublished.trans (hok rfl), fun _ _ h => (by cases h)⟩
  · rename_i publicKey password
    refine obeys_pure.mpr fun st' hst' => ?_
    obtain rfl := Option.some.inj hst'
    refine ⟨⟨hholds'.metadataUser, fun _ => ?_, fun _ => rfl, fun _ h => (by cases h)⟩,
      hpublished.trans (herr _ rfl), rfl⟩
    rw [hw]
    exact hpart publicKey password rfl
  · rename_i err _
    refine obeys_pure.mpr fun st' hst' => ?_
    obtain rfl := Option.some.inj hst'
    exact ⟨hholds', hpublished.trans (herr err rfl), rfl⟩

/-- A failed attempt leaves the loop ready. -/
theorem conclude_error_obeys {err : AttemptError} (hholds : Holds st w)
    (hreported : st.reported = w.recorded) (hpublished : w.published = false)
    (hpart : ∀ publicKey password, err ≠ .partialSuccess publicKey password) (method : GoString) :
    (Config.conclude keys method (.error err) st).Obeys (identity keys) w
      fun next w' => ∀ st' ∈ next, Ready st' w' :=
  conclude_obeys hholds hreported (fun h => (by cases h)) (fun _ _ => hpublished)
    (fun publicKey password h => absurd (Except.error.inj h) (hpart publicKey password)) method

/-- A proven credential is finished, and its attempt concluded. -/
theorem finish_conclude_obeys {result : AuthenticationResult} (hholds : Holds st w)
    (hproves : w.Proves result.info result.fingerprint) (hrecorded : w.recorded = false)
    (hpublished : w.published = false) (method : GoString) :
    (do
      let (outcome, st) ← config.finish keys result st
      Config.conclude keys method outcome st).Obeys (identity keys) w
        fun next w' => ∀ st' ∈ next, Ready st' w' := by
  refine obeys_bind.mpr ((finish_obeys config hproves hholds.metadataUser hrecorded hpublished).mono ?_)
  rintro ⟨outcome, st'⟩ w' ⟨hst, hended⟩
  obtain rfl : st' = _ := hst
  have hholds' : ∀ published, Holds { st with reported := true } { w with recorded := true, published } :=
    fun published => hholds.of_eq rfl rfl
  rcases hended with ⟨houtcome, rfl⟩ | ⟨houtcome, rfl⟩
  · obtain rfl : outcome = _ := houtcome
    exact conclude_obeys (hholds' true) rfl (fun _ => rfl) (fun _ h => (by cases h))
      (fun _ _ h => (by cases h)) method
  · obtain rfl : outcome = _ := houtcome
    exact conclude_obeys (hholds' w.published) rfl (fun h => (by cases h)) (fun _ _ => hpublished)
      (fun _ _ h => (by cases h)) method

/-- The callback of `none` stores the user; a partial success is for that user. -/
theorem noClientAuth_obeys (hholds : Holds st w) (hpart : st.partialSuccessReturned = false)
    (user : GoString) :
    (config.noClientAuth keys user st).Obeys (identity keys) w fun ended w' =>
      ended.2 = { st with metadataUser := user } ∧ w' = { w with metadataUser := user } ∧
        Holds ended.2 w' := by
  have hstored : Holds { st with metadataUser := user } { w with metadataUser := user } := by
    refine ⟨rfl, fun h => ?_, hholds.callbacks, hholds.cache⟩
    rw [hpart] at h
    cases h
  refine obeys_perform_bind.mpr ⟨trivial, fun _ => ?_⟩
  have hmethods : (config.selectedMethods keys user).Obeys (identity keys)
      { w with metadataUser := user } fun _ w' => w' = { w with metadataUser := user } := by
    unfold Config.selectedMethods
    split
    · refine obeys_perform_bind.mpr ⟨trivial, fun found => ?_⟩
      rcases (found : Except ResolveError (Option (List GoString))) with err | _ | methods <;> exact rfl
    · exact rfl
  refine obeys_bind.mpr (hmethods.mono ?_)
  rintro methods w' rfl
  cases methods with
  | none => exact ⟨rfl, rfl, hstored⟩
  | some methods =>
    dsimp only
    split <;> exact ⟨rfl, rfl, hstored⟩

end Callbacks

/-! ## Attempts -/

section Attempts

open Prog

variable {w : Watch keys.PublicKey} {st : LoopState keys.PublicKey} (config : Config)

theorem password_obeys {user value : GoString} (hholds : Holds st w)
    (hattempt : w.attempt = some (.password user value)) (huser : user = w.metadataUser)
    (hrecorded : w.recorded = false) (hpublished : w.published = false) :
    (do
      let (outcome, st) ← config.password keys user value st
      Config.conclude keys (str "password") outcome st).Obeys (identity keys) w
        fun next w' => ∀ st' ∈ next, Ready st' w' := by
  have hholds' : ∀ accepted, Holds { st with reported := false } { w with accepted } :=
    fun accepted => hholds.of_eq rfl rfl
  unfold Config.password
  dsimp only
  rw [bind_assoc]
  refine obeys_perform_bind.mpr ⟨trivial, fun answered => ?_⟩
  rcases (answered : Except AuthnError AuthenticateInfo) with err | info
  · exact conclude_error_obeys (hholds' none) hrecorded.symm hpublished (by simp) _
  · refine finish_conclude_obeys config (hholds' (some (user, value, info))) ?_ hrecorded hpublished _
    unfold Watch.Proves
    rw [show ({ w with accepted := some (user, value, info) } : Watch keys.PublicKey).attempt
      = some (.password user value) from hattempt]
    exact ⟨huser, rfl, rfl⟩

theorem checkSignature_obeys {user : GoString} {key : keys.PublicKey} {signature : Signature}
    {result : Except AuthnError AuthenticationResult} (hholds : Holds st w)
    (hattempt : w.attempt = some (.signed user key signature)) (huser : user = w.metadataUser)
    (hreported : st.reported = false) (hrecorded : w.recorded = false) (hpublished : w.published = false)
    (hresult : ∀ result', result = .ok result' → w.Knows user key result') :
    (config.checkSignature keys result signature st).Obeys (identity keys) w
      fun next w' => ∀ st' ∈ next, Ready st' w' := by
  have hsame : st.reported = w.recorded := hreported.trans hrecorded.symm
  unfold Config.checkSignature
  split
  · exact obeys_pure.mpr fun _ h => (by cases h)
  · exact conclude_error_obeys hholds hsame hpublished (by simp) _
  · split
    · exact conclude_error_obeys hholds hsame hpublished (by simp) _
    rename_i result'
    refine finish_conclude_obeys config hholds ?_ hrecorded hpublished _
    obtain ⟨hknown, hfingerprint⟩ := hresult result' rfl
    unfold Watch.Proves
    rw [hattempt]
    exact ⟨huser, hknown, hfingerprint⟩

variable [DecidableEq keys.PublicKey]

theorem attempt_obeys {attempt : Attempt keys.PublicKey} (hholds : Holds st w)
    (hattempt : w.attempt = some attempt) (huser : attempt.user = st.user)
    (hreported : st.reported = false) (hrecorded : w.recorded = false) (hpublished : w.published = false) :
    (config.attempt keys st attempt).Obeys (identity keys) w
      fun next w' => ∀ st' ∈ next, Ready st' w' := by
  have hsame : st.reported = w.recorded := hreported.trans hrecorded.symm
  have hfail : ∀ method, (Config.conclude keys method (.error .library) st).Obeys (identity keys) w
      fun next w' => ∀ st' ∈ next, Ready st' w' :=
    conclude_error_obeys hholds hsame hpublished (by simp)
  -- with a callback there was a partial success, so the user is the stored one
  have hstored : st.publicKeyCallback = true ∨ st.passwordCallback = true →
      attempt.user = w.metadataUser := fun h => huser.trans (hholds.user (hholds.callbacks h))
  cases attempt with
  | none user =>
    rw [Config.attempt]
    split
    · exact hfail _
    rename_i hpart
    refine obeys_bind.mpr ((noClientAuth_obeys config hholds (by simpa using hpart) user).mono ?_)
    rintro ⟨err, st'⟩ w' ⟨hst, rfl, hholds'⟩
    obtain rfl : st' = _ := hst
    exact conclude_obeys hholds' hsame (fun h => (by cases h)) (fun _ _ => hpublished)
      (fun _ _ _ => huser.symm) _
  | password user value =>
    rw [Config.attempt]
    split
    · exact hfail _
    rename_i hcallback
    exact password_obeys config hholds hattempt (hstored (Or.inr (by simpa using hcallback)))
      hrecorded hpublished
  | probe user key =>
    rw [Config.attempt]
    split
    · exact hfail _
    refine obeys_bind.mpr ((candidate_obeys hholds hreported user key).mono ?_)
    rintro ⟨result, st'⟩ w' ⟨hholds', hreported', hw, hresult⟩
    have hpublished' : w'.published = false := by rw [hw]; exact hpublished
    cases result with
    | ok result =>
      refine obeys_pure.mpr fun st'' hst'' => ?_
      obtain rfl := Option.some.inj hst''
      exact ⟨hholds', hpublished', hreported'⟩
    | error err =>
      refine conclude_error_obeys hholds' ?_ hpublished' (by simp) _
      rw [hw]
      exact hreported'.trans hrecorded.symm
  | signed user key signature =>
    rw [Config.attempt]
    split
    · exact hfail _
    rename_i hcallback
    refine obeys_bind.mpr ((candidate_obeys hholds hreported user key).mono ?_)
    rintro ⟨result, st'⟩ w' ⟨hholds', hreported', hw, hresult⟩
    refine checkSignature_obeys config hholds' ?_ ?_ hreported' ?_ ?_ hresult
    · rw [hw]
      exact hattempt
    · rw [hw]
      exact hstored (Or.inl (by simpa using hcallback))
    · rw [hw]
      exact hrecorded
    · rw [hw]
      exact hpublished
  | refused user method => exact hfail method

/-- The authentication of a connection follows the monitor. -/
theorem system_follows :
    (config.system keys).Follows (identity keys) (fun _ => {}) Ready fun _ => True where
  code st w hready := by
    have hends : ∀ next w', (∀ st' ∈ next, Ready st' w') →
        @System.Ends _ _ (config.system keys) Ready (fun _ => True) next w' := by
      intro next w' h
      cases next with
      | none => exact trivial
      | some st' => exact h st' rfl
    refine obeys_perform_bind.mpr ⟨hready.published, fun attempted => ?_⟩
    rcases (attempted : Option (Attempt keys.PublicKey)) with _ | attempt
    · exact trivial
    dsimp only
    split
    · exact trivial
    rename_i huser
    rw [not_and_or, not_not, Bool.not_eq_true] at huser
    have hholds : Holds { st with user := attempt.user }
        { w with attempt := some attempt, accepted := none, recorded := false } := by
      refine ⟨hready.metadataUser, fun hpart => ?_, hready.callbacks, hready.cache⟩
      have hpart' : ¬ st.partialSuccessReturned = false := by
        rw [Bool.not_eq_false]
        exact hpart
      have hsame : attempt.user = st.user := huser.resolve_right hpart'
      exact hsame.trans (hready.user hpart)
    exact (attempt_obeys config hholds rfl rfl hready.reported rfl hready.published).mono hends
  started _ _ _ _ h := by cases h

end Attempts

/-! ## Histories -/

/-- What has happened on a connection. -/
abbrev History (keys : CryptoSsh.Keys) := List (Event (interface keys.PublicKey))

/-- The connection is at an attempt: nothing since is the start of another. -/
structure At (before earlier : History keys) (attempt : Attempt keys.PublicKey)
    (since : History keys) : Prop where
  split : before = earlier ++ ⟨.nextAttempt, some attempt⟩ :: since
  current : ∀ event ∈ since, event.op ≠ .nextAttempt

/-- The current attempt proves a credential of the user: it carries the password that the
authenticator accepted for this identity, or its signature verified for a key that the authenticator
accepted. -/
inductive Proven (before : History keys) (user : GoString) (info : AuthenticateInfo) : GoString → Prop
  | password {earlier since : History keys} {value : GoString} :
      At before earlier (.password user value) since →
      ⟨.authenticateBasic user value, .ok info⟩ ∈ since → Proven before user info []
  | publicKey {earlier since : History keys} {key : keys.PublicKey} :
      At before earlier (.signed user key .verified) since →
      ⟨.authenticatePublicKey user key, .ok info⟩ ∈ before →
      Proven before user info (keys.fingerprintSHA256 key)

/-- The user that `setMetadata` stored last. -/
def storedUser (before : History keys) : GoString :=
  before.foldl (fun user event => match event.op with
    | .setMetadata user' => user'
    | _ => user) []

/-- The operations that need a proven credential. -/
def Op.UsesCredential {PublicKey : Type} : Op PublicKey → Prop
  | .resolve _ | .resolveSessionPolicy _ _ | .applyPolicy _ | .publishAuthenticated _
  | .recordAuthentication _ _ (.ok _) => True
  | _ => False

/-- An `authentication.result` event. -/
def Op.Records {PublicKey : Type} : Op PublicKey → Prop
  | .recordAuthentication _ _ _ => True
  | _ => False

section Steps

variable {w : Watch keys.PublicKey} {op : Op keys.PublicKey} {answer : op.Answer}

theorem attempt_next (hop : op ≠ .nextAttempt) :
    ((identity keys).next w op answer).attempt = w.attempt := by
  cases op <;> first | rfl | exact absurd rfl hop

theorem accepted_next {user value : GoString} {info : AuthenticateInfo}
    (h : ((identity keys).next w op answer).accepted = some (user, value, info)) :
    w.accepted = some (user, value, info) ∨
      (⟨op, answer⟩ : Event (interface keys.PublicKey)) = ⟨.authenticateBasic user value, .ok info⟩ := by
  cases op with
  | nextAttempt => cases h
  | authenticateBasic user' value' =>
    rcases (answer : Except AuthnError AuthenticateInfo) with err | info'
    · cases h
    · cases h
      exact Or.inr rfl
  | _ => exact Or.inl h

theorem known_next {user : GoString} {key : keys.PublicKey} {info : AuthenticateInfo}
    (h : (user, key, info) ∈ ((identity keys).next w op answer).known) :
    (user, key, info) ∈ w.known ∨
      (⟨op, answer⟩ : Event (interface keys.PublicKey)) = ⟨.authenticatePublicKey user key, .ok info⟩ := by
  cases op with
  | authenticatePublicKey user' key' =>
    rcases (answer : Except AuthnError AuthenticateInfo) with err | info'
    · exact Or.inl h
    · rcases List.mem_cons.mp h with h | h
      · cases h
        exact Or.inr rfl
      · exact Or.inl h
  | _ => exact Or.inl h

theorem recorded_next (h : ((identity keys).next w op answer).recorded = false) :
    op = .nextAttempt ∨ ¬ op.Records ∧ w.recorded = false := by
  cases op with
  | nextAttempt => exact Or.inl rfl
  | recordAuthentication method fingerprint result => cases h
  | _ => exact Or.inr ⟨id, h⟩

theorem published_next (h : w.published = true ∨ ∃ connection, op = .publishAuthenticated connection) :
    ((identity keys).next w op answer).published = true := by
  cases op with
  | publishAuthenticated connection => rfl
  | _ => exact h.resolve_right fun ⟨_, hop⟩ => (by cases hop)

theorem storedUser_concat {before : History keys} (h : w.metadataUser = storedUser before) :
    ((identity keys).next w op answer).metadataUser = storedUser (before ++ [⟨op, answer⟩]) := by
  unfold storedUser at h ⊢
  rw [List.foldl_append, ← h]
  cases op <;> rfl

end Steps

variable {before earlier since : History keys} {attempt : Attempt keys.PublicKey}

theorem At.concat (h : At before earlier attempt since) {event : Event (interface keys.PublicKey)}
    (hevent : event.op ≠ .nextAttempt) : At (before ++ [event]) earlier attempt (since ++ [event]) where
  split := by simp [h.split]
  current event' hmem := by
    rcases List.mem_append.mp hmem with hmem | hmem
    · exact h.current event' hmem
    · rw [List.mem_singleton.mp hmem]
      exact hevent

theorem attempt_of_between {since' between : History keys} {attempt' : Attempt keys.PublicKey}
    (hcurrent : ∀ event ∈ since, event.op ≠ .nextAttempt)
    (h : (⟨.nextAttempt, some attempt⟩ :: since : History keys)
      = between ++ ⟨.nextAttempt, some attempt'⟩ :: since') : attempt = attempt' := by
  rcases between with _ | ⟨event, between⟩
  · injection h with hevent
    injection hevent with _ hattempt
    exact Option.some.inj hattempt
  · injection h with _ hsince
    exact absurd rfl (hcurrent ⟨.nextAttempt, some attempt'⟩ (by simp [hsince]))

theorem At.unique {earlier' since' : History keys}
    {attempt' : Attempt keys.PublicKey} (h : At before earlier attempt since)
    (h' : At before earlier' attempt' since') : attempt = attempt' := by
  rcases List.append_eq_append_iff.mp (h.split.symm.trans h'.split) with
    ⟨between, -, hsplit⟩ | ⟨between, -, hsplit⟩
  · exact attempt_of_between h.current hsplit
  · exact (attempt_of_between h'.current hsplit).symm

/-- What the watch says about the history. -/
structure Reflects (before : History keys) (w : Watch keys.PublicKey) : Prop where
  metadataUser : w.metadataUser = storedUser before
  attempt : ∀ attempt, w.attempt = some attempt → ∃ earlier since, At before earlier attempt since ∧
    ∀ user value info, w.accepted = some (user, value, info) →
      ⟨.authenticateBasic user value, .ok info⟩ ∈ since
  known : ∀ user key info, (user, key, info) ∈ w.known →
    ⟨.authenticatePublicKey user key, .ok info⟩ ∈ before
  recorded : w.recorded = false → ∀ earlier event between, before = earlier ++ event :: between →
    event.op.Records → ∃ next ∈ between, next.op = .nextAttempt
  published : ∀ event ∈ before, (∃ connection, event.op = .publishAuthenticated connection) →
    w.published = true

theorem Reflects.concat {w : Watch keys.PublicKey} (h : Reflects before w)
    (op : Op keys.PublicKey) (answer : op.Answer) :
    Reflects (before ++ [⟨op, answer⟩]) ((identity keys).next w op answer) where
  metadataUser := storedUser_concat h.metadataUser
  attempt attempt hattempt := by
    by_cases hop : op = .nextAttempt
    · subst hop
      obtain rfl : answer = some attempt := hattempt
      exact ⟨before, [], ⟨rfl, fun _ hmem => (by cases hmem)⟩, fun _ _ _ haccepted => (by cases haccepted)⟩
    · rw [attempt_next hop] at hattempt
      obtain ⟨earlier, since, hat, hsince⟩ := h.attempt attempt hattempt
      refine ⟨earlier, _, hat.concat hop, fun user value info haccepted => ?_⟩
      rcases accepted_next haccepted with haccepted | hevent
      · exact List.mem_append_left _ (hsince user value info haccepted)
      · exact List.mem_append_right _ (by simp [hevent])
  known user key info hmem := by
    rcases known_next hmem with hmem | hevent
    · exact List.mem_append_left _ (h.known user key info hmem)
    · exact List.mem_append_right _ (by simp [hevent])
  recorded hrecorded earlier event between hsplit hrecords := by
    rcases List.eq_nil_or_concat between with rfl | ⟨between, last, rfl⟩
    · -- the last event would be the record
      obtain ⟨-, hlast⟩ := List.append_inj' hsplit rfl
      obtain rfl := List.singleton_inj.mp hlast
      rcases recorded_next hrecorded with rfl | ⟨hop, -⟩
      · exact hrecords.elim
      · exact absurd hrecords hop
    · rw [List.concat_eq_append, ← List.cons_append, ← List.append_assoc] at hsplit
      obtain ⟨hbefore, hlast⟩ := List.append_inj' hsplit rfl
      obtain rfl := List.singleton_inj.mp hlast
      rcases recorded_next hrecorded with rfl | ⟨-, hw⟩
      · exact ⟨⟨.nextAttempt, answer⟩, by simp, rfl⟩
      · obtain ⟨next, hmem, hnext⟩ := h.recorded hw earlier event between hbefore hrecords
        exact ⟨next, by simp [hmem], hnext⟩
  published event hmem hpublish := by
    rcases List.mem_append.mp hmem with hmem | hmem
    · exact published_next (Or.inl (h.published event hmem hpublish))
    · obtain rfl := List.mem_singleton.mp hmem
      exact published_next (Or.inr hpublish)

theorem reflects_after (before : History keys) : Reflects before ((identity keys).after {} before) := by
  induction before using List.reverseRecOn with
  | nil =>
    exact ⟨rfl, fun _ h => (by cases h), fun _ _ _ h => (by cases h),
      fun _ _ _ _ h => (by simp at h), fun _ h => (by cases h)⟩
  | append_singleton before event ih =>
    rw [(identity keys).after_concat]
    exact ih.concat event.op event.answer

theorem Reflects.proven {w : Watch keys.PublicKey} (h : Reflects before w)
    {info : AuthenticateInfo} {fingerprint : GoString} (hproves : w.Proves info fingerprint) :
    Proven before (storedUser before) info fingerprint := by
  unfold Watch.Proves at hproves
  split at hproves
  · rename_i user value hattempt
    obtain ⟨huser, haccepted, rfl⟩ := hproves
    obtain ⟨earlier, since, hat, hsince⟩ := h.attempt _ hattempt
    rw [← h.metadataUser, ← huser]
    exact .password hat (hsince user value info haccepted)
  · rename_i user key hattempt
    obtain ⟨huser, hknown, rfl⟩ := hproves
    obtain ⟨earlier, since, hat, -⟩ := h.attempt _ hattempt
    rw [← h.metadataUser, ← huser]
    exact .publicKey hat (h.known user key info hknown)
  · exact hproves.elim

theorem Proven.not_probe {user user' fingerprint : GoString}
    {info : AuthenticateInfo} {key : keys.PublicKey} (h : Proven before user info fingerprint)
    (hat : At before earlier (.probe user' key) since) : False := by
  cases h with
  | password hat' _ => cases hat.unique hat'
  | publicKey hat' _ => cases hat.unique hat'

theorem proves_of_usesCredential {w : Watch keys.PublicKey} {op : Op keys.PublicKey}
    (hallowed : (identity keys).Allowed w op) (h : op.UsesCredential) :
    ∃ info fingerprint, w.Proves info fingerprint := by
  cases op with
  | resolve input =>
    obtain ⟨info, fingerprint, -, hproves, -⟩ := hallowed
    exact ⟨info, fingerprint, hproves⟩
  | resolveSessionPolicy user extra =>
    obtain ⟨info, fingerprint, hproves, -⟩ := hallowed
    exact ⟨info, fingerprint, hproves⟩
  | applyPolicy policy => exact hallowed
  | publishAuthenticated connection => exact ⟨_, _, hallowed⟩
  | recordAuthentication method fingerprint result =>
    cases result with
    | ok info => exact ⟨info, fingerprint, hallowed.2 info rfl⟩
    | error err => exact h.elim
  | _ => exact h.elim

theorem recorded_of_records {w : Watch keys.PublicKey} {op : Op keys.PublicKey}
    (hallowed : (identity keys).Allowed w op) (h : op.Records) : w.recorded = false := by
  cases op with
  | recordAuthentication method fingerprint result => exact hallowed.1
  | _ => exact h.elim

/-- A connection's identity is proven. For every history of attempts, what is resolved, applied,
recorded as a success or published is for a credential that the current attempt proves, of the user
that is stored; the attempt in which an identity is published is the last. A probe does none of it,
and each attempt records at most one result. -/
theorem published_identity_proven [DecidableEq keys.PublicKey] (config : Config)
    {trace : List (ℕ × Event (interface keys.PublicKey))} {c : (config.system keys).Config}
    (hrun : (config.system keys).Run (config.connection keys) trace c)
    {before rest : History keys} {event : Event (interface keys.PublicKey)}
    (hevents : System.eventsOf 0 trace = before ++ event :: rest) :
    (∀ connection, event.op = .publishAuthenticated connection →
      Proven before (storedUser before) connection.info connection.fingerprint ∧
        ∀ later ∈ rest, later.op ≠ .nextAttempt) ∧
    (∀ input, event.op = .resolve input → ∃ info fingerprint remoteAddr,
      Proven before (storedUser before) info fingerprint ∧
        input = resolveInput (storedUser before) remoteAddr info) ∧
    (∀ method fingerprint info, event.op = .recordAuthentication method fingerprint (.ok info) →
      Proven before (storedUser before) info fingerprint) ∧
    (event.op.UsesCredential → ∃ info fingerprint, Proven before (storedUser before) info fingerprint) ∧
    (∀ earlier user key since, At before earlier (.probe user key) since → ¬ event.op.UsesCredential) ∧
    (event.op.Records → ∀ earlier event' between, before = earlier ++ event' :: between →
      event'.op.Records → ∃ next ∈ between, next.op = .nextAttempt) := by
  have haccepts : (identity keys).Accepts {} (System.eventsOf 0 trace) :=
    hrun.accepts_of_follows (system_follows config) (fun task htask => (by
      rw [List.mem_singleton.mp htask]
      exact ready_start)) 0
  have hallowed := haccepts before event rest hevents
  have hreflects := reflects_after before
  have huses : event.op.UsesCredential →
      ∃ info fingerprint, Proven before (storedUser before) info fingerprint := by
    intro h
    obtain ⟨info, fingerprint, hproves⟩ := proves_of_usesCredential hallowed h
    exact ⟨info, fingerprint, hreflects.proven hproves⟩
  refine ⟨fun connection hop => ?_, fun input hop => ?_, fun method fingerprint info hop => ?_,
    huses, fun earlier user key since hat h => ?_, fun hop => ?_⟩
  · have hproves := hop ▸ hallowed
    refine ⟨hreflects.proven hproves, fun later hmem hnext => ?_⟩
    obtain ⟨between, rest', rfl⟩ := List.append_of_mem hmem
    have hlater := haccepts (before ++ event :: between) later rest' (by simp [hevents])
    rw [hnext] at hlater
    have hpublished := (reflects_after (before ++ event :: between)).published event (by simp) ⟨_, hop⟩
    exact absurd (hlater.symm.trans hpublished) (by decide)
  · rw [hop] at hallowed
    obtain ⟨info, fingerprint, remoteAddr, hproves, hinput⟩ := hallowed
    rw [hreflects.metadataUser] at hinput
    exact ⟨info, fingerprint, remoteAddr, hreflects.proven hproves, hinput⟩
  · rw [hop] at hallowed
    exact hreflects.proven (hallowed.2 info rfl)
  · obtain ⟨info, fingerprint, hproven⟩ := huses h
    exact hproven.not_probe hat
  · exact hreflects.recorded (recorded_of_records hallowed hop)

/-- A gateway with both methods and no Access policies. -/
def bothMethods : Config where
  enabled := [str "publickey", str "password"]
  accessPolicy := false
  remoteAddr := none

/-- The client `bob` has asked for the methods. -/
def askedMethods : LoopState CryptoSsh.plainKeys.PublicKey where
  user := str "bob"
  partialSuccessReturned := true
  publicKeyCallback := true
  passwordCallback := true
  metadataUser := str "bob"

/-- The client has then probed a key. -/
def probedKey : LoopState CryptoSsh.plainKeys.PublicKey :=
  { askedMethods with
    cache := [⟨str "bob", str "key", .ok ⟨{}, str "key", str "publickey"⟩⟩]
    fingerprint := str "key" }

/-- The client signs with the key it has probed. -/
theorem published_identity_proven_signed :
    ∃ (trace : List (ℕ × Event (interface CryptoSsh.plainKeys.PublicKey)))
      (c : (bothMethods.system CryptoSsh.plainKeys).Config) (before : History CryptoSsh.plainKeys)
      (connection : AuthenticatedConnection),
      (bothMethods.system CryptoSsh.plainKeys).Run (bothMethods.connection CryptoSsh.plainKeys) trace c ∧
      System.eventsOf 0 trace = before ++ [⟨.publishAuthenticated connection, ()⟩] ∧
      storedUser before = str "bob" ∧ connection.fingerprint = str "key" ∧
      Proven before (storedUser before) connection.info connection.fingerprint := by
  let tgt : Target := ⟨Target.kindExternalSSH, [], ∅⟩
  let policy : EffectiveSessionPolicy := ⟨[], [], [], false, 0, 0⟩
  let key : CryptoSsh.plainKeys.PublicKey := str "key"
  have h0 : (bothMethods.system CryptoSsh.plainKeys).Run (bothMethods.connection CryptoSsh.plainKeys) []
    (bothMethods.connection CryptoSsh.plainKeys) := .start
  have h1 := h0.perform 0 rfl (some (.none (str "bob"))) rfl
  have h2 := h1.perform 0 rfl () rfl
  have h3 : (bothMethods.system CryptoSsh.plainKeys).Run _ _
    ⟨(), [bothMethods.iteration CryptoSsh.plainKeys askedMethods]⟩ := h2.resume 0 rfl
  have h4 := h3.perform 0 rfl (some (.probe (str "bob") key)) rfl
  have h5 := h4.perform 0 rfl false rfl
  have h6 := h5.perform 0 rfl (.ok {}) rfl
  have h7 : (bothMethods.system CryptoSsh.plainKeys).Run _ _
    ⟨(), [bothMethods.iteration CryptoSsh.plainKeys probedKey]⟩ := h6.resume 0 rfl
  have h8 := h7.perform 0 rfl (some (.signed (str "bob") key .verified)) rfl
  have h9 := h8.perform 0 rfl true rfl
  have h10 : (bothMethods.system CryptoSsh.plainKeys).Run _ _ ⟨(), [_]⟩ := h9.perform 0 rfl () rfl
  have h11 := h10.perform 0 rfl (.ok tgt) rfl
  have h12 := h11.perform 0 rfl () rfl
  have h13 : (bothMethods.system CryptoSsh.plainKeys).Run _ _ ⟨(), [_]⟩ :=
    h12.perform 0 rfl (.ok policy) rfl
  have h14 := h13.perform 0 rfl () rfl
  have h15 := h14.perform 0 rfl (.ok (.sshproxy tgt policy)) rfl
  have h16 := h15.perform 0 rfl () rfl
  exact ⟨_, _, _, _, h16, System.eventsOf_concat_self 0 _ _, rfl, rfl, ((published_identity_proven
    bothMethods h16 (System.eventsOf_concat_self 0 _ _)).1 _ rfl).1⟩

end KubeSsh.Gateway.Authentication

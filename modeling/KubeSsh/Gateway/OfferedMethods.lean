import KubeSsh.AccessPolicy.Credentials
import KubeSsh.Gateway.Authentication

/-!
# `pkg/gateway`: the methods a client is offered

Before a client presents anything, `NoClientAuthCallback` offers it the methods that the Access of
its user name declares. `AuthenticationMethods` reads declarations only. The matchers later read the
Secrets and parse keys, and skip or refuse entries on their own. A credential that a matcher accepts
stands in the material of an entry, and an entry with material declares the method.
-/

namespace KubeSsh.AccessPolicy

open Authn Target

/-! ## Material is declared -/

variable {cache : PolicyCache} {sshUser : GoString}

/-- An entry with a password declares the method. -/
theorem declaresPassword_of_mem {ns value : GoString}
    {credential : AccessCredential} {values : Finset GoString}
    (h : cache.credentialPasswords ns credential = .ok values) (hvalue : value ∈ values) :
    declaresPassword credential = true := by
  unfold declaresPassword
  rw [Bool.or_eq_true]
  obtain hinline | ⟨ref, href, -⟩ := ((collect_eq_ok_iff.mp h).2 value).mp hvalue
  · obtain ⟨hmem, hne⟩ := List.mem_filter.mp (List.mem_toFinset.mp hinline)
    exact Or.inr (List.any_eq_true.mpr ⟨value, hmem, hne⟩)
  · exact Or.inl (decide_eq_true (List.length_pos_of_mem href))

/-- A line that is a public key is not empty. -/
theorem keyFingerprint_nil (keys : CryptoSsh.Keys) : keyFingerprint keys [] = [] := rfl

/-- An entry with a public key declares the method. -/
theorem declaresPublicKey_of_mem {keys : CryptoSsh.Keys} {ns value : GoString}
    {credential : AccessCredential} {values : Finset GoString}
    (h : cache.credentialPublicKeys keys ns credential = .ok values) (hvalue : value ∈ values) :
    declaresPublicKey credential = true := by
  unfold declaresPublicKey
  rw [Bool.or_eq_true]
  obtain ⟨inline, hinline, hcollect⟩ := bind_eq_ok_iff.mp h
  obtain ⟨hvalid, rfl⟩ := fingerprints_eq_ok_iff.mp hinline
  obtain hmem | ⟨ref, href, -⟩ := ((collect_eq_ok_iff.mp hcollect).2 value).mp hvalue
  · obtain ⟨line, hline, -⟩ := List.mem_map.mp (List.mem_toFinset.mp hmem)
    have hne : line ≠ [] := by
      rintro rfl
      exact hvalid [] hline (keyFingerprint_nil keys)
    exact Or.inr (List.any_eq_true.mpr ⟨line, hline, decide_eq_true hne⟩)
  · exact Or.inl (decide_eq_true (List.length_pos_of_mem href))

/-! ## What is advertised -/

/-- The user name locates an Access, as it does for the matchers. -/
def PolicyCache.Locates (cache : PolicyCache) (sshUser : GoString) : Prop :=
  ∃ locator access, (resolveAccessLocator sshUser).run (fun _ => cache.store) 0
    = .ok (some (locator, access))

/-- What `AuthenticationMethods` answers over a cache. -/
def PolicyCache.advertised (cache : PolicyCache) (sshUser : GoString) :
    Except ResolveError (Option (List GoString)) :=
  (authenticationMethods sshUser).run (fun _ => cache.store) 0

/-- An Access is found exactly if the user name locates one for the matchers. -/
theorem advertised_found_iff :
    (∃ methods, cache.advertised sshUser = .ok (some methods)) ↔ cache.Locates sshUser := by
  unfold PolicyCache.advertised authenticationMethods PolicyCache.Locates
  rw [Reads.run_bind]
  rcases (resolveAccessLocator sshUser).run (fun _ => cache.store) 0 with err | _ | ⟨locator, access⟩
  · constructor
    · rintro ⟨methods, h⟩
      cases h
    · rintro ⟨locator, access, h⟩
      cases h
  · constructor
    · rintro ⟨methods, h⟩
      cases h
    · rintro ⟨locator, access, h⟩
      cases h
  · exact ⟨fun _ => ⟨locator, access, rfl⟩, fun _ => ⟨_, rfl⟩⟩

/-- The methods of the Access that the user name locates: those that one of its entries declares. -/
theorem advertised_of_located {locator : AccessLocator}
    {access : Access} (h : (resolveAccessLocator sshUser).run (fun _ => cache.store) 0
      = .ok (some (locator, access))) :
    ∃ methods, cache.advertised sshUser = .ok (some methods) ∧
      (access.spec.credentials.any declaresPublicKey = true → credentialTypePublicKey ∈ methods) ∧
      (access.spec.credentials.any declaresPassword = true → credentialTypePassword ∈ methods) := by
  refine ⟨(if access.spec.credentials.any declaresPublicKey then [credentialTypePublicKey] else []) ++
    (if access.spec.credentials.any declaresPassword then [credentialTypePassword] else []), ?_, ?_, ?_⟩
  · unfold PolicyCache.advertised authenticationMethods
    rw [Reads.run_bind, h]
    rfl
  · intro hdeclared
    rw [if_pos hdeclared]
    exact List.mem_append_left _ (List.mem_singleton_self _)
  · intro hdeclared
    rw [if_pos hdeclared]
    exact List.mem_append_right _ (List.mem_singleton_self _)

/-- The entry of a match has the value that was presented. -/
theorem material_of_match {kind : GoString}
    {material : GoString → AccessCredential → Except Message (Finset GoString)}
    {value : GoString} {m : CredentialMatch}
    (h : cache.matchMaterial kind material sshUser value = .ok m) :
    ∃ values, material m.access.ns m.credential = .ok values ∧ value ∈ values :=
  ((PolicyCache.matchMaterial_eq_ok_iff.mp h).2.2 m.index).mpr rfl

theorem mem_credentials (m : CredentialMatch) : m.credential ∈ m.access.spec.credentials :=
  List.getElem_mem m.index.isLt

/-- A user name with a password that is accepted is offered the method. -/
theorem password_advertised {token : GoString} {m : CredentialMatch}
    (h : cache.matchPassword sshUser token = .ok m) :
    ∃ methods, cache.advertised sshUser = .ok (some methods) ∧ credentialTypePassword ∈ methods := by
  obtain ⟨-, hmatch⟩ := PolicyCache.matchPassword_eq_ok_iff.mp h
  obtain ⟨locator, hlocated⟩ := (PolicyCache.matchMaterial_eq_ok_iff.mp hmatch).1
  obtain ⟨methods, hmethods, -, hpassword⟩ := advertised_of_located hlocated
  obtain ⟨values, hvalues, hvalue⟩ := material_of_match hmatch
  have hdeclares := declaresPassword_of_mem hvalues hvalue
  exact ⟨methods, hmethods, hpassword (List.any_eq_true.mpr ⟨_, mem_credentials m, hdeclares⟩)⟩

/-- A user name with a public key that is accepted is offered the method. -/
theorem publicKey_advertised {keys : CryptoSsh.Keys}
    {key : Option keys.PublicKey} {m : CredentialMatch}
    (h : cache.matchPublicKey keys sshUser key = .ok m) :
    ∃ methods, cache.advertised sshUser = .ok (some methods) ∧ credentialTypePublicKey ∈ methods := by
  cases key with
  | none => cases h
  | some key =>
    obtain ⟨locator, hlocated⟩ := (PolicyCache.matchMaterial_eq_ok_iff.mp h).1
    obtain ⟨methods, hmethods, hpublicKey, -⟩ := advertised_of_located hlocated
    obtain ⟨values, hvalues, hvalue⟩ := material_of_match h
    have hdeclares := declaresPublicKey_of_mem hvalues hvalue
    exact ⟨methods, hmethods, hpublicKey (List.any_eq_true.mpr ⟨_, mem_credentials m, hdeclares⟩)⟩

end KubeSsh.AccessPolicy

namespace KubeSsh.Gateway.Authentication

open Authn AccessPolicy Target

/-! ## What is offered -/

section Offered

variable {config : Config} {keys : CryptoSsh.Keys}
  {handler : (op : Op keys.PublicKey) → Id op.Answer} {user : GoString} {methods : List GoString}

/-- The callback offers what the Access declares and the gateway has enabled. -/
theorem noClientAuth_offers (haccess : config.accessPolicy = true)
    (hmethods : handler (.authenticationMethods user) = .ok (some methods))
    (hoffered : (str "publickey" ∈ config.enabled ∧ str "publickey" ∈ methods) ∨
      str "password" ∈ config.enabled ∧ str "password" ∈ methods) (st : LoopState keys.PublicKey) :
    ((config.noClientAuth keys user st).interpret (m := Id) handler).1 = .partialSuccess
      (str "publickey" ∈ config.enabled ∧ str "publickey" ∈ methods)
      (str "password" ∈ config.enabled ∧ str "password" ∈ methods) := by
  have hselected : (config.selectedMethods keys user).interpret (m := Id) handler = some methods := by
    have hask : (authenticationMethods user : Handling keys.PublicKey _).interpret (m := Id) handler
        = .ok (some methods) := (Prog.interpret_perform _).trans hmethods
    unfold Config.selectedMethods
    rw [if_pos haccess, Prog.interpret_bind, hask]
    rfl
  unfold Config.noClientAuth
  change (Prog.interpret (m := Id) handler (config.selectedMethods keys user >>= _) :
    AttemptError × LoopState keys.PublicKey).1 = _
  rw [Prog.interpret_bind, hselected]
  change (((if ¬ (_ ∧ _) ∧ ¬ (_ ∧ _) then _ else _) :
    Handling keys.PublicKey (AttemptError × LoopState keys.PublicKey)).interpret (m := Id) handler).1 = _
  rw [if_neg (by tauto)]
  rfl

end Offered

/-- The error with which the callback answers a client of a gateway whose policy is this cache. -/
def offer (cache : PolicyCache) (config : Config) (keys : CryptoSsh.Keys) (sshUser : GoString)
    (st : LoopState keys.PublicKey) (answers : (op : Op keys.PublicKey) → op.Answer) : AttemptError :=
  let handler : (op : Op keys.PublicKey) → Id op.Answer
    | .authenticationMethods user => cache.advertised user
    | op => answers op
  ((config.noClientAuth keys sshUser st).interpret (m := Id) handler).1

/-- Advertised methods cover working credentials. An Access is found exactly if the user name
locates one for the matchers. If some password (some public key) is accepted for a user name,
password (publickey) is among its methods, and a gateway that has enabled the method offers it. -/
theorem advertised_methods_cover_credentials (cache : PolicyCache) (keys : CryptoSsh.Keys)
    (sshUser : GoString) :
    ((∃ methods, cache.advertised sshUser = .ok (some methods)) ↔ cache.Locates sshUser) ∧
    (∀ token m, cache.matchPassword sshUser token = .ok m →
      (∃ methods, cache.advertised sshUser = .ok (some methods) ∧ credentialTypePassword ∈ methods) ∧
      ∀ (config : Config) (st : LoopState keys.PublicKey)
        (answers : (op : Op keys.PublicKey) → op.Answer),
        config.accessPolicy = true → str "password" ∈ config.enabled →
          ∃ publicKey, offer cache config keys sshUser st answers = .partialSuccess publicKey true) ∧
    (∀ key m, cache.matchPublicKey keys sshUser key = .ok m →
      (∃ methods, cache.advertised sshUser = .ok (some methods) ∧ credentialTypePublicKey ∈ methods) ∧
      ∀ (config : Config) (st : LoopState keys.PublicKey)
        (answers : (op : Op keys.PublicKey) → op.Answer),
        config.accessPolicy = true → str "publickey" ∈ config.enabled →
          ∃ password, offer cache config keys sshUser st answers = .partialSuccess true password) := by
  refine ⟨advertised_found_iff, fun token m hmatch => ?_, fun key m hmatch => ?_⟩
  · obtain ⟨methods, hmethods, hmem⟩ := password_advertised hmatch
    refine ⟨⟨methods, hmethods, hmem⟩, fun config st answers haccess henabled => ?_⟩
    have hoffered : str "password" ∈ config.enabled ∧ str "password" ∈ methods := ⟨henabled, hmem⟩
    exact ⟨_, (noClientAuth_offers haccess hmethods (Or.inr hoffered) st).trans
      (congrArg _ (decide_eq_true hoffered))⟩
  · obtain ⟨methods, hmethods, hmem⟩ := publicKey_advertised hmatch
    refine ⟨⟨methods, hmethods, hmem⟩, fun config st answers haccess henabled => ?_⟩
    have hoffered : str "publickey" ∈ config.enabled ∧ str "publickey" ∈ methods := ⟨henabled, hmem⟩
    exact ⟨_, (noClientAuth_offers haccess hmethods (Or.inl hoffered) st).trans
      (congrArg (AttemptError.partialSuccess · _) (decide_eq_true hoffered))⟩

theorem advertised_methods_cover_blue :
    ∃ methods, (boxCache (twoUsers (str "bob")) none).advertised (str "team.box") = .ok (some methods) ∧
      credentialTypePassword ∈ methods :=
  ((advertised_methods_cover_credentials (boxCache (twoUsers (str "bob")) none) CryptoSsh.plainKeys
    (str "team.box")).2.1 (str "blue") (secondEntry (str "bob")) rfl).1

end KubeSsh.Gateway.Authentication

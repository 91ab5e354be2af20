import KubeSsh.AccessPolicy.Credentials
import KubeSsh.AccessPolicy.ForwardExpression
import Mathlib.Data.Finset.Basic

/-!
# `pkg/accesspolicy`: the validity of an Access

The status controller validates an Access on its own: `validateCredential` collects the material of
an entry with loops of its own, and `validateAccess` keeps for every password and every fingerprint
which user name owns it, so that no material is shared between entries.

`valid_credentials_match` compares it with the matchers of the cache: in an Access that is reported
valid every declared credential authenticates exactly its own entry. Material of two entries never
authenticates anyone.
-/

namespace KubeSsh.AccessPolicy

open Strings

/-- `metav1.ConditionStatus`. -/
inductive ConditionStatus
  | isTrue
  | isFalse
  | unknown
deriving DecidableEq

/-- A failed check: reason and message of the condition. -/
structure Invalid where
  reason : GoString
  message : Message

/-- The order in which `range` visits the keys of a `map[string]struct{}`. Nothing is known about
it. -/
structure RangeOrder where
  keys : Finset GoString → List GoString
  mem_keys : ∀ {values : Finset GoString} {value : GoString}, value ∈ keys values ↔ value ∈ values
  nodup_keys : ∀ values : Finset GoString, (keys values).Nodup

/-- `credentialMaterial` (`status_controller.go:363-366`). -/
structure CredentialMaterial where
  passwords : Finset GoString
  publicKeys : Finset GoString

/-! ## The checks of the controller -/

/-- `validateCapabilityPolicy` (`status_controller.go:334-350`): the message of the first expression
that is not valid. -/
def validateCapabilityPolicy (policy : CapabilityPolicy) : Option Message :=
  match (policy.localForward.getD []).find? fun expression => ¬ validForwardExpression expression with
  | some expression => some [.bytes (str "invalid local forward destination "), .quoted expression]
  | none =>
    ((policy.remoteForward.getD []).find? fun expression => ¬ validForwardExpression expression).map
      fun expression => [.bytes (str "invalid remote forward bind "), .quoted expression]

/-- `duplicateMaterialOwner` (`status_controller.go:427-435`) over the values in the order of
`range`: the two owners of a value that has another owner already, else the owners with the new
ones. -/
def duplicateMaterialOwner (username : GoString) :
    GoMap GoString → List GoString → Except (GoString × GoString) (GoMap GoString)
  | owners, [] => .ok owners
  | owners, value :: values =>
    match (owners.lookup value).filter (· ≠ username) with
    | some owner => .error (owner, username)
    | none => duplicateMaterialOwner username (owners.insert value username) values

/-- The maps that `validateAccess` keeps over its loop (`status_controller.go:294-296`). -/
structure Owners where
  usernames : Finset GoString := ∅
  passwordOwners : GoMap GoString := ∅
  publicKeyOwners : GoMap GoString := ∅

/-- The part of `AccessStatusController` that validation reads. -/
structure AccessStatusController where
  secretIndexer : Option SecretIndexer
  keys : CryptoSsh.Keys
  order : RangeOrder

namespace AccessStatusController

variable (c : AccessStatusController)

/-- `secretValue` (`status_controller.go:437-458`). -/
def secretValue (ns username : GoString) (ref : LocalSecretKeyRef) : Except Invalid GoString :=
  readSecret c.secretIndexer ns ref
    ⟨str "InvalidSecretRef", [.bytes (str "Credential "), .quoted username,
      .bytes (str " has an incomplete secret reference.")]⟩
    ⟨str "SecretCacheUnavailable", .text "Secret informer cache is not available."⟩
    ⟨str "SecretNotFound", [.bytes (str "Credential "), .quoted username,
      .bytes (str " references missing secret "), .bytes ns, .bytes (str "/"), .bytes ref.name,
      .bytes (str ".")]⟩
    ⟨str "SecretKeyNotFound", [.bytes (str "Credential "), .quoted username,
      .bytes (str " references missing secret key "), .bytes ns, .bytes (str "/"), .bytes ref.name,
      .bytes (str ":"), .bytes ref.key, .bytes (str ".")]⟩

/-- The messages about a Secret key without usable content (`status_controller.go:399`, `413`,
`418`). -/
def secretMessage (credential : AccessCredential) (kind ns : GoString) (ref : LocalSecretKeyRef)
    (problem : GoString) : Message :=
  [.bytes (str "Credential "), .quoted credential.username, .bytes (str " "), .bytes kind,
    .bytes (str " secret "), .bytes ns, .bytes (str "/"), .bytes ref.name, .bytes (str " key "),
    .quoted ref.key, .bytes (str " contains "), .bytes problem, .bytes (str ".")]

/-- The tokens of a Secret key (`status_controller.go:393-403`). -/
def secretPasswords (ns : GoString) (credential : AccessCredential) (ref : LocalSecretKeyRef) :
    Except Invalid (List GoString) := do
  let value ← c.secretValue ns credential.username ref
  let tokens := splitSecretLines value
  if tokens = [] then
    .error ⟨str "InvalidSecretRef", secretMessage credential (str "password") ns ref (str "no tokens")⟩
  else .ok tokens

/-- The fingerprints of the public keys in a Secret key (`status_controller.go:407-421`). -/
def secretPublicKeys (ns : GoString) (credential : AccessCredential) (ref : LocalSecretKeyRef) :
    Except Invalid (List GoString) := do
  let value ← c.secretValue ns credential.username ref
  let lines := splitSecretLines value
  if lines = [] then
    .error ⟨str "InvalidSecretRef", secretMessage credential (str "public key") ns ref (str "no keys")⟩
  else fingerprints c.keys ⟨str "InvalidSecretRef",
    secretMessage credential (str "public key") ns ref (str "an invalid public key")⟩ lines

/-- `validateCredential` (`status_controller.go:368-425`). -/
def validateCredential (ns : GoString) (index : ℕ) (credential : AccessCredential) :
    Except Invalid CredentialMaterial := do
  let passwords ← collect (fun password =>
      if password = [] then
        .error ⟨str "InvalidCredential", [.bytes (str "Credential "), .quoted credential.username,
          .bytes (str " has an empty password token.")]⟩
      else .ok [password]) ∅ credential.passwords
  let publicKeys ← fingerprints c.keys ⟨str "InvalidCredential", [.bytes (str "Credential "),
    .quoted credential.username, .bytes (str " has an invalid public key.")]⟩ credential.publicKeys
  let passwords ← collect (c.secretPasswords ns credential) passwords credential.passwordsFrom
  let publicKeys ← collect (c.secretPublicKeys ns credential) publicKeys.toFinset
    credential.publicKeysFrom
  if credential.passwords.isEmpty ∧ credential.publicKeys.isEmpty ∧ credential.passwordsFrom.isEmpty
      ∧ credential.publicKeysFrom.isEmpty then
    .error ⟨str "InvalidCredential", [.bytes (str "Credential "), .bytes (decimal index),
      .bytes (str "/"), .quoted credential.username,
      .bytes (str " has no password or public key material.")]⟩
  else .ok { passwords, publicKeys }

/-- The new owners of the material of one kind (`status_controller.go:309-314`). -/
def claimMaterial (kind : GoString) (owners : GoMap GoString) (values : Finset GoString)
    (username : GoString) : Except Invalid (GoMap GoString) :=
  match duplicateMaterialOwner username owners (c.order.keys values) with
  | .error (first, second) => .error ⟨str "DuplicateCredentialMaterial", [.bytes kind,
      .bytes (str " material is assigned to credential identities "), .quoted first,
      .bytes (str " and "), .quoted second, .bytes (str " within the Access.")]⟩
  | .ok owners => .ok owners

/-- The body of the loop of `validateAccess` (`status_controller.go:298-317`). -/
def validateEntry (ns : GoString) (owners : Owners) (index : ℕ) (credential : AccessCredential) :
    Except Invalid Owners :=
  if trimSpace credential.username = [] then
    .error ⟨str "InvalidCredential", [.bytes (str "Credential at index "), .bytes (decimal index),
      .bytes (str " requires username.")]⟩
  else if credential.username ∈ owners.usernames then
    .error ⟨str "DuplicateCredentialIdentity", [.bytes (str "Credential username "),
      .quoted credential.username, .bytes (str " must be unique within the Access.")]⟩
  else do
    let material ← c.validateCredential ns index credential
    let passwordOwners ← c.claimMaterial (str "Password") owners.passwordOwners material.passwords
      credential.username
    let publicKeyOwners ← c.claimMaterial (str "Public key") owners.publicKeyOwners material.publicKeys
      credential.username
    match validateCapabilityPolicy credential.capabilities with
    | some message => .error ⟨str "InvalidCapabilityPolicy", [.bytes (str "Credential "),
        .quoted credential.username, .bytes (str ": ")] ++ message⟩
    | none =>
      return { usernames := insert credential.username owners.usernames, passwordOwners, publicKeyOwners }

/-- The loop of `validateAccess` (`status_controller.go:297-318`). -/
def validateCredentials (ns : GoString) : ℕ → Owners → List AccessCredential → Except Invalid Owners
  | _, owners, [] => .ok owners
  | index, owners, credential :: rest => do
    let owners ← c.validateEntry ns owners index credential
    validateCredentials ns (index + 1) owners rest

/-- The first container of a credential that the Access does not expose
(`status_controller.go:322-330`). -/
def unexposedContainer (access : Access) : Option (GoString × GoString) :=
  if access.spec.containers = [] then none
  else access.spec.credentials.findSome? fun credential =>
    (credential.containers.find? fun container =>
      container ≠ str "*" ∧ ¬ containerAllowed access.spec.containers container).map fun container =>
        (credential.username, container)

/-- `validateAccess` (`status_controller.go:290-332`). -/
def validateAccess (access : Access) : ConditionStatus × GoString × Message :=
  if access.spec.credentials.isEmpty then
    (.isFalse, str "NoCredentials", .text "Access requires at least one credential entry.")
  else match c.validateCredentials access.ns 0 {} access.spec.credentials with
    | .error invalid => (.isFalse, invalid.reason, invalid.message)
    | .ok _ =>
      if access.spec.type = .external then (.isTrue, str "Valid", .text "Access spec is valid.")
      else match unexposedContainer access with
        | some (username, container) =>
          (.isFalse, str "InvalidContainerPolicy", [.bytes (str "Credential "), .quoted username,
            .bytes (str " container "), .quoted container,
            .bytes (str " is not exposed by the Access.")])
        | none => (.isTrue, str "Valid", .text "Access spec and referenced credentials are valid.")

end AccessStatusController

/-! ## Both components collect the same material -/

/-- The two components read the same values from the same Secrets. -/
theorem AccessStatusController.secretValue_eq_ok_iff {c : AccessStatusController} {cache : PolicyCache}
    (hsecrets : cache.secretIndexer = c.secretIndexer) {ns username value : GoString}
    {ref : LocalSecretKeyRef} :
    c.secretValue ns username ref = .ok value ↔ cache.secretValue ns ref = .ok value := by
  unfold AccessStatusController.secretValue PolicyCache.secretValue
  rw [readSecret_eq_ok_iff, readSecret_eq_ok_iff, hsecrets]

section Material

variable {c : AccessStatusController} {cache : PolicyCache} {ns : GoString}
  {credential : AccessCredential} {ref : LocalSecretKeyRef}

theorem secretPasswords_eq_ok_iff (hsecrets : cache.secretIndexer = c.secretIndexer)
    {tokens : List GoString} :
    c.secretPasswords ns credential ref = .ok tokens ↔
      (cache.secretValue ns ref).map splitSecretLines = .ok tokens ∧ tokens ≠ [] := by
  unfold AccessStatusController.secretPasswords
  rw [bind_eq_ok_iff, map_eq_ok_iff]
  simp only [AccessStatusController.secretValue_eq_ok_iff hsecrets, ite_eq_iff, reduceCtorEq, and_false, false_or, Except.ok.injEq]
  constructor
  · rintro ⟨value, hvalue, hne, rfl⟩
    exact ⟨⟨value, hvalue, rfl⟩, hne⟩
  · rintro ⟨⟨value, hvalue, rfl⟩, hne⟩
    exact ⟨value, hvalue, hne, rfl⟩

theorem secretPublicKeys_eq_ok_iff (hsecrets : cache.secretIndexer = c.secretIndexer)
    {hashes : List GoString} {invalid : Message} :
    c.secretPublicKeys ns credential ref = .ok hashes ↔
      (do
        let value ← cache.secretValue ns ref
        fingerprints c.keys invalid (splitSecretLines value)) = .ok hashes ∧ hashes ≠ [] := by
  unfold AccessStatusController.secretPublicKeys
  rw [bind_eq_ok_iff, bind_eq_ok_iff]
  simp only [AccessStatusController.secretValue_eq_ok_iff hsecrets, ite_eq_iff, reduceCtorEq,
    and_false, false_or, fingerprints_eq_ok_iff]
  constructor
  · rintro ⟨value, hvalue, hne, hvalid, rfl⟩
    exact ⟨⟨value, hvalue, hvalid, rfl⟩, by simpa using hne⟩
  · rintro ⟨⟨value, hvalue, hvalid, rfl⟩, hne⟩
    exact ⟨value, hvalue, by simpa using hne, hvalid, rfl⟩

/-- The material that the controller accepts is the material that the matchers search, and no
password in it is empty. -/
theorem material_of_validateCredential (hsecrets : cache.secretIndexer = c.secretIndexer)
    {index : ℕ} {m : CredentialMaterial} (h : c.validateCredential ns index credential = .ok m) :
    [] ∉ credential.passwords ∧ cache.credentialPasswords ns credential = .ok m.passwords ∧
      cache.credentialPublicKeys c.keys ns credential = .ok m.publicKeys := by
  unfold AccessStatusController.validateCredential at h
  simp only [bind_eq_ok_iff] at h
  obtain ⟨inline, hinline, hashes, hhashes, passwords, hpasswords, publicKeys, hpublicKeys, h⟩ := h
  split at h
  · cases h
  obtain rfl := Except.ok.inj h
  obtain ⟨hvalid, hmem⟩ := collect_eq_ok_iff.mp hinline
  have hne : ∀ password ∈ credential.passwords, password ≠ [] := by
    intro password hpassword hnil
    obtain ⟨more, hmore⟩ := hvalid password hpassword
    rw [if_pos hnil] at hmore
    cases hmore
  refine ⟨fun hnil => hne [] hnil rfl, ?_, ?_⟩
  · have hinline' : inline = (credential.passwords.filter (· ≠ [])).toFinset := by
      ext v
      rw [hmem, List.mem_toFinset, List.mem_filter]
      constructor
      · rintro (hv | ⟨password, hpassword, more, hmore, hv⟩)
        · cases hv
        · rw [if_neg (hne password hpassword)] at hmore
          obtain rfl := Except.ok.inj hmore
          obtain rfl := List.mem_singleton.mp hv
          exact ⟨hpassword, by simpa using hne v hpassword⟩
      · rintro ⟨hpassword, -⟩
        exact Or.inr ⟨v, hpassword, [v], if_neg (hne v hpassword), List.mem_singleton_self v⟩
    rw [hinline'] at hpasswords
    exact collect_of_refusing (fun _ _ => secretPasswords_eq_ok_iff hsecrets) hpasswords
  · refine bind_eq_ok_iff.mpr ⟨hashes, ?_, ?_⟩
    · exact fingerprints_eq_ok_iff.mpr (fingerprints_eq_ok_iff.mp hhashes)
    · exact collect_of_refusing (fun _ _ => secretPublicKeys_eq_ok_iff hsecrets) hpublicKeys

end Material

/-! ## No material has two owners -/

theorem duplicateMaterialOwner_eq_ok {username : GoString} {owners owners' : GoMap GoString}
    {values : List GoString} (h : duplicateMaterialOwner username owners values = .ok owners') :
    (∀ v ∈ values, ∀ owner, owners.lookup v = some owner → owner = username) ∧
      ∀ v, owners'.lookup v = if v ∈ values then some username else owners.lookup v := by
  induction values generalizing owners with
  | nil =>
    obtain rfl := Except.ok.inj h
    simp
  | cons value values ih =>
    rw [duplicateMaterialOwner] at h
    split at h
    · cases h
    rename_i hfree
    obtain ⟨hvalues, hlookup⟩ := ih h
    have hvalue : ∀ owner, owners.lookup value = some owner → owner = username := by
      intro owner howner
      by_contra hne
      rw [howner, Option.filter_some, if_pos (by simpa using hne)] at hfree
      cases hfree
    have hinsert : ∀ v, (owners.insert value username).lookup v =
        if v = value then some username else owners.lookup v := by
      intro v
      by_cases hv : v = value
      · rw [if_pos hv, hv, AList.lookup_insert]
      · rw [if_neg hv, AList.lookup_insert_ne hv]
    refine ⟨fun v hv owner howner => ?_, fun v => ?_⟩
    · rcases List.mem_cons.mp hv with rfl | hv
      · exact hvalue owner howner
      · by_cases heq : v = value
        · exact hvalue owner (heq ▸ howner)
        · exact hvalues v hv owner (by rw [hinsert, if_neg heq, howner])
    · rw [hlookup, hinsert]
      by_cases hv : v ∈ values
      · simp [hv]
      · by_cases heq : v = value <;> simp [hv, heq]

/-- A user name that owns nothing yet only gets material that nobody owns, and what nobody owns
afterwards is other material that nobody owned before. -/
theorem claimMaterial_eq_ok {c : AccessStatusController} {kind username : GoString}
    {owners owners' : GoMap GoString} {values : Finset GoString}
    (h : c.claimMaterial kind owners values username = .ok owners')
    (hnew : ∀ v, owners.lookup v ≠ some username) :
    (∀ v ∈ values, owners.lookup v = none) ∧
      (∀ v owner, owners'.lookup v = some owner → owner = username ∨ owners.lookup v = some owner) ∧
      ∀ others : Finset GoString, (∀ v ∈ others, owners'.lookup v = none) →
        (∀ v ∈ others, owners.lookup v = none) ∧ Disjoint values others := by
  unfold AccessStatusController.claimMaterial at h
  split at h
  · cases h
  rename_i result hresult
  obtain rfl := Except.ok.inj h
  obtain ⟨hfree, hlookup⟩ := duplicateMaterialOwner_eq_ok hresult
  simp only [c.order.mem_keys] at hfree hlookup
  refine ⟨fun v hv => ?_, fun v owner howner => ?_, fun others hothers => ?_⟩
  · cases howner : owners.lookup v with
    | none => rfl
    | some owner => exact absurd (hfree v hv owner howner ▸ howner) (hnew v)
  · rw [hlookup] at howner
    split at howner
    · exact Or.inl (Option.some.inj howner).symm
    · exact Or.inr howner
  · have hnot : ∀ v ∈ others, v ∉ values := by
      intro v hv hvalue
      have hnone := hothers v hv
      rw [hlookup, if_pos hvalue] at hnone
      cases hnone
    refine ⟨fun v hv => ?_, Finset.disjoint_right.mpr fun v hv => hnot v hv⟩
    have hnone := hothers v hv
    rwa [hlookup, if_neg (hnot v hv)] at hnone

/-- Every owner is a user name that the loop has seen. -/
structure Owners.Known (owners : Owners) : Prop where
  passwords : ∀ v owner, owners.passwordOwners.lookup v = some owner → owner ∈ owners.usernames
  publicKeys : ∀ v owner, owners.publicKeyOwners.lookup v = some owner → owner ∈ owners.usernames

/-- Nobody owns any of the material. -/
structure Owners.Free (owners : Owners) (m : CredentialMaterial) : Prop where
  passwords : ∀ v ∈ m.passwords, owners.passwordOwners.lookup v = none
  publicKeys : ∀ v ∈ m.publicKeys, owners.publicKeyOwners.lookup v = none

/-- The matchers search this material of an entry. -/
structure PolicyCache.HasMaterial (cache : PolicyCache) (keys : CryptoSsh.Keys) (ns : GoString)
    (credential : AccessCredential) (m : CredentialMaterial) : Prop where
  passwords : cache.credentialPasswords ns credential = .ok m.passwords
  publicKeys : cache.credentialPublicKeys keys ns credential = .ok m.publicKeys

theorem PolicyCache.HasMaterial.unique {cache : PolicyCache} {keys : CryptoSsh.Keys} {ns : GoString}
    {credential : AccessCredential} {m m' : CredentialMaterial}
    (h : cache.HasMaterial keys ns credential m) (h' : cache.HasMaterial keys ns credential m') :
    m = m' := by
  cases m
  cases m'
  rw [CredentialMaterial.mk.injEq]
  exact ⟨Except.ok.inj (h.passwords.symm.trans h'.passwords),
    Except.ok.inj (h.publicKeys.symm.trans h'.publicKeys)⟩

section Loop

variable {c : AccessStatusController} {cache : PolicyCache} {ns : GoString}

/-- One iteration: the material was free, and is owned afterwards by an owner that is known. -/
theorem validateEntry_eq_ok (hsecrets : cache.secretIndexer = c.secretIndexer)
    {owners owners' : Owners} {index : ℕ} {credential : AccessCredential} (hknown : owners.Known)
    (h : c.validateEntry ns owners index credential = .ok owners') :
    owners'.Known ∧ [] ∉ credential.passwords ∧
      ∃ m, cache.HasMaterial c.keys ns credential m ∧ owners.Free m ∧ ∀ m', owners'.Free m' →
        owners.Free m' ∧ Disjoint m.passwords m'.passwords ∧ Disjoint m.publicKeys m'.publicKeys := by
  unfold AccessStatusController.validateEntry at h
  split at h
  · cases h
  split at h
  · cases h
  rename_i hnew
  simp only [bind_eq_ok_iff] at h
  obtain ⟨m, hm, passwordOwners, hpasswords, publicKeyOwners, hpublicKeys, h⟩ := h
  split at h
  · cases h
  obtain rfl := Except.ok.inj h
  obtain ⟨hfree, howners, hothers⟩ := claimMaterial_eq_ok hpasswords
    fun v hv => hnew (hknown.passwords v _ hv)
  obtain ⟨hfree', howners', hothers'⟩ := claimMaterial_eq_ok hpublicKeys
    fun v hv => hnew (hknown.publicKeys v _ hv)
  obtain ⟨hnil, hmaterial, hmaterial'⟩ := material_of_validateCredential hsecrets hm
  have hseen : ∀ owner, owner = credential.username ∨ owner ∈ owners.usernames →
      owner ∈ insert credential.username owners.usernames := fun _ => Finset.mem_insert.mpr
  refine ⟨⟨fun v owner howner => ?_, fun v owner howner => ?_⟩, hnil, m, ⟨hmaterial, hmaterial'⟩,
    ⟨hfree, hfree'⟩, fun m' hm' => ?_⟩
  · exact hseen owner ((howners v owner howner).imp_right (hknown.passwords v owner))
  · exact hseen owner ((howners' v owner howner).imp_right (hknown.publicKeys v owner))
  · obtain ⟨hrest, hdisjoint⟩ := hothers m'.passwords hm'.passwords
    obtain ⟨hrest', hdisjoint'⟩ := hothers' m'.publicKeys hm'.publicKeys
    exact ⟨⟨hrest, hrest'⟩, hdisjoint, hdisjoint'⟩

/-- The whole loop: every entry has material that was free, and no two entries share any. -/
theorem validateCredentials_eq_ok (hsecrets : cache.secretIndexer = c.secretIndexer)
    {owners owners' : Owners} {index : ℕ} {credentials : List AccessCredential} (hknown : owners.Known)
    (h : c.validateCredentials ns index owners credentials = .ok owners') :
    (∀ credential ∈ credentials, [] ∉ credential.passwords ∧
        ∃ m, cache.HasMaterial c.keys ns credential m ∧ owners.Free m) ∧
      credentials.Pairwise fun first second => ∀ m m', cache.HasMaterial c.keys ns first m →
        cache.HasMaterial c.keys ns second m' →
          Disjoint m.passwords m'.passwords ∧ Disjoint m.publicKeys m'.publicKeys := by
  induction credentials generalizing index owners with
  | nil => exact ⟨fun _ hmem => absurd hmem List.not_mem_nil, List.Pairwise.nil⟩
  | cons credential rest ih =>
    rw [AccessStatusController.validateCredentials, bind_eq_ok_iff] at h
    obtain ⟨between, hentry, hrest⟩ := h
    obtain ⟨hknown', hnil, m, hm, hfree, hothers⟩ := validateEntry_eq_ok hsecrets hknown hentry
    obtain ⟨hmaterial, hpairwise⟩ := ih hknown' hrest
    refine ⟨fun other hother => ?_, List.pairwise_cons.mpr ⟨fun other hother => ?_, hpairwise⟩⟩
    · rcases List.mem_cons.mp hother with rfl | hother
      · exact ⟨hnil, m, hm, hfree⟩
      · obtain ⟨hnil', m', hm', hfree'⟩ := hmaterial other hother
        exact ⟨hnil', m', hm', (hothers m' hfree').1⟩
    · intro first second hfirst hsecond
      obtain ⟨-, m', hm', hfree'⟩ := hmaterial other hother
      obtain rfl := hfirst.unique hm
      obtain rfl := hsecond.unique hm'
      exact (hothers second hfree').2

end Loop

/-- In a valid Access every entry has material without empty passwords, and no two entries share
any. -/
theorem separate_of_validateAccess {c : AccessStatusController} {cache : PolicyCache}
    (hsecrets : cache.secretIndexer = c.secretIndexer) {access : Access}
    (h : (c.validateAccess access).1 = .isTrue) :
    (∀ credential ∈ access.spec.credentials, [] ∉ credential.passwords ∧
        ∃ m, cache.HasMaterial c.keys access.ns credential m) ∧
      ∀ i j : Fin access.spec.credentials.length, i ≠ j → ∀ m m',
        cache.HasMaterial c.keys access.ns access.spec.credentials[i] m →
        cache.HasMaterial c.keys access.ns access.spec.credentials[j] m' →
          Disjoint m.passwords m'.passwords ∧ Disjoint m.publicKeys m'.publicKeys := by
  unfold AccessStatusController.validateAccess at h
  split at h
  · cases h
  split at h
  · cases h
  rename_i owners hloop
  have hknown : Owners.Known {} := ⟨fun _ _ h => (by cases h), fun _ _ h => (by cases h)⟩
  obtain ⟨hmaterial, hpairwise⟩ := validateCredentials_eq_ok hsecrets hknown hloop
  refine ⟨fun credential hmem => ?_, fun i j hij m m' hm hm' => ?_⟩
  · obtain ⟨hnil, m, hm, -⟩ := hmaterial credential hmem
    exact ⟨hnil, m, hm⟩
  · rw [List.pairwise_iff_getElem] at hpairwise
    rcases lt_or_gt_of_ne hij with hlt | hlt
    · exact hpairwise i j i.isLt j.isLt hlt m m' hm hm'
    · obtain ⟨hpasswords, hpublicKeys⟩ := hpairwise j i j.isLt i.isLt hlt m' m hm' hm
      exact ⟨hpasswords.symm, hpublicKeys.symm⟩

/-! ## Declared credentials -/

/-- A line that an entry declares inline or in a Secret key that it refers to, split and trimmed. -/
inductive Declares (secrets : Option SecretIndexer) (ns : GoString) (inlined : List GoString)
    (refs : List LocalSecretKeyRef) (line : GoString) : Prop
  | inline : line ∈ inlined → Declares secrets ns inlined refs line
  | secret {ref : LocalSecretKeyRef} {value : GoString} : ref ∈ refs →
      SecretHolds secrets ns ref value → line ∈ splitSecretLines value →
      Declares secrets ns inlined refs line

/-- A password token of an entry. -/
def DeclaresPassword (secrets : Option SecretIndexer) (ns : GoString)
    (credential : AccessCredential) (token : GoString) : Prop :=
  Declares secrets ns credential.passwords credential.passwordsFrom token

/-- A public key of an entry. -/
def DeclaresPublicKey (keys : CryptoSsh.Keys) (secrets : Option SecretIndexer) (ns : GoString)
    (credential : AccessCredential) (key : keys.PublicKey) : Prop :=
  ∃ line, Declares secrets ns credential.publicKeys credential.publicKeysFrom line ∧
    keys.parseAuthorizedKey (trimSpace line) = some key

theorem SecretHolds.unique {secrets : Option SecretIndexer} {ns value value' : GoString}
    {ref : LocalSecretKeyRef} (h : SecretHolds secrets ns ref value)
    (h' : SecretHolds secrets ns ref value') : value = value' := by
  obtain ⟨indexer, rfl, secret, hsecret, hvalue⟩ := h
  obtain ⟨indexer', hindexer, secret', hsecret', hvalue'⟩ := h'
  obtain rfl := Option.some.inj hindexer
  obtain rfl := Option.some.inj (hsecret.symm.trans hsecret')
  exact Option.some.inj (hvalue.symm.trans hvalue')

section Declared

variable {cache : PolicyCache} {ns : GoString} {credential : AccessCredential} {values : Finset GoString}

theorem mem_of_declaresPassword (hvalues : cache.credentialPasswords ns credential = .ok values)
    {token : GoString} (htoken : DeclaresPassword cache.secretIndexer ns credential token)
    (hne : token ≠ []) : token ∈ values := by
  obtain ⟨hrefs, hmem⟩ := collect_eq_ok_iff.mp hvalues
  cases htoken with
  | inline hinline =>
    refine (hmem token).mpr (Or.inl ?_)
    rw [List.mem_toFinset, List.mem_filter]
    exact ⟨hinline, by simpa using hne⟩
  | @secret ref value href hholds hline =>
    obtain ⟨lines, hlines⟩ := hrefs ref href
    obtain ⟨value', hvalue', rfl⟩ := map_eq_ok_iff.mp hlines
    obtain rfl := hholds.unique (readSecret_eq_ok_iff.mp hvalue').2
    exact (hmem token).mpr (Or.inr ⟨ref, href, _, hlines, hline⟩)

theorem ne_nil_of_declaresPassword {secrets : Option SecretIndexer} {token : GoString}
    (hnil : [] ∉ credential.passwords) (h : DeclaresPassword secrets ns credential token) :
    token ≠ [] := by
  cases h with
  | inline hinline => exact fun heq => hnil (heq ▸ hinline)
  | secret _ _ hline => exact of_decide_eq_true (List.mem_filter.mp hline).2

theorem keyFingerprint_of_parse {keys : CryptoSsh.Keys} {line : GoString} {key : keys.PublicKey}
    (hkey : keys.parseAuthorizedKey (trimSpace line) = some key)
    (hne : keyFingerprint keys line ≠ []) : keyFingerprint keys line = keys.fingerprintSHA256 key := by
  unfold keyFingerprint at hne ⊢
  dsimp only at hne ⊢
  split at hne
  · exact absurd rfl hne
  · rename_i htrim
    rw [if_neg htrim, hkey]

theorem mem_of_declaresPublicKey {keys : CryptoSsh.Keys}
    (hvalues : cache.credentialPublicKeys keys ns credential = .ok values) {key : keys.PublicKey}
    (hdeclares : DeclaresPublicKey keys cache.secretIndexer ns credential key) :
    keys.fingerprintSHA256 key ∈ values := by
  obtain ⟨line, hline, hkey⟩ := hdeclares
  obtain ⟨hashes, hhashes, hcollect⟩ := bind_eq_ok_iff.mp hvalues
  obtain ⟨hrefs, hmem⟩ := collect_eq_ok_iff.mp hcollect
  obtain ⟨hvalid, rfl⟩ := fingerprints_eq_ok_iff.mp hhashes
  cases hline with
  | inline hinline =>
    refine (hmem _).mpr (Or.inl ?_)
    rw [List.mem_toFinset, List.mem_map]
    exact ⟨line, hinline, keyFingerprint_of_parse hkey (hvalid line hinline)⟩
  | @secret ref value href hholds hline =>
    obtain ⟨lines, hlines⟩ := hrefs ref href
    obtain ⟨value', hvalue', hlines'⟩ := bind_eq_ok_iff.mp hlines
    obtain rfl := hholds.unique (readSecret_eq_ok_iff.mp hvalue').2
    obtain ⟨hvalid', rfl⟩ := fingerprints_eq_ok_iff.mp hlines'
    refine (hmem _).mpr (Or.inr ⟨ref, href, _, hlines, ?_⟩)
    rw [List.mem_map]
    exact ⟨line, hline, keyFingerprint_of_parse hkey (hvalid' line hline)⟩

end Declared

/-! ## Validity and matching -/

/-- What the API server's rules say of the names of an Access that are not empty: a namespace has no
dots, and no name has a tilde. -/
structure ValidNames (access : Access) : Prop where
  ns_ne_nil : access.ns ≠ []
  dot_notMem : Byte.dot ∉ access.ns
  name_ne_nil : access.name ≠ []
  tilde_notMem : Byte.tilde ∉ access.name

/-- The status controller over the same Secrets. -/
def PolicyCache.statusController (cache : PolicyCache) (keys : CryptoSsh.Keys)
    (order : RangeOrder) : AccessStatusController where
  secretIndexer := cache.secretIndexer
  keys := keys
  order := order

/-- A value that only one entry of the located Access has authenticates that entry. -/
theorem matchMaterial_of_separate {cache : PolicyCache} {kind : GoString}
    {material : GoString → AccessCredential → Except Message (Finset GoString)}
    {sshUser value : GoString} {locator : AccessLocator} {access : Access}
    (hlocated : (resolveAccessLocator sshUser).run (fun _ => cache.store) 0
      = .ok (some (locator, access))) {i : Fin access.spec.credentials.length}
    (hall : ∀ credential ∈ access.spec.credentials, ∃ values,
      material access.ns credential = .ok values)
    (hi : ∃ values, material access.ns access.spec.credentials[i] = .ok values ∧ value ∈ values)
    (hothers : ∀ j : Fin access.spec.credentials.length, i ≠ j → ∀ values,
      material access.ns access.spec.credentials[j] = .ok values → value ∉ values) :
    cache.matchMaterial kind material sshUser value = .ok ⟨access, i⟩ := by
  refine PolicyCache.matchMaterial_eq_ok_iff.mpr ⟨⟨locator, hlocated⟩, hall, fun j => ⟨?_, ?_⟩⟩
  · rintro ⟨values, hvalues, hmem⟩
    by_contra hne
    exact hothers j (Ne.symm hne) values hvalues hmem
  · intro hj
    rw [hj]
    exact hi

/-- A value that two entries of the located Access have is refused. -/
theorem matchMaterial_error_of_shared {cache : PolicyCache} {kind : GoString}
    {material : GoString → AccessCredential → Except Message (Finset GoString)}
    {sshUser value : GoString} {locator : AccessLocator} {access : Access}
    (hlocated : (resolveAccessLocator sshUser).run (fun _ => cache.store) 0
      = .ok (some (locator, access))) {i j : Fin access.spec.credentials.length} (hij : i ≠ j)
    (hi : ∀ values, material access.ns access.spec.credentials[i] = .ok values → value ∈ values)
    (hj : ∀ values, material access.ns access.spec.credentials[j] = .ok values → value ∈ values) :
    ∃ err, cache.matchMaterial kind material sshUser value = .error err := by
  cases hmatch : cache.matchMaterial kind material sshUser value with
  | error err => exact ⟨err, rfl⟩
  | ok m =>
    obtain ⟨⟨locator', hlocated'⟩, hall, hunique⟩ := PolicyCache.matchMaterial_eq_ok_iff.mp hmatch
    have hsome := Option.some.inj (Except.ok.inj (hlocated'.symm.trans hlocated))
    obtain ⟨access', index⟩ := m
    obtain rfl : access' = access := (Prod.mk.inj hsome).2
    obtain ⟨values, hvalues⟩ := hall _ (List.getElem_mem i.isLt)
    obtain ⟨values', hvalues'⟩ := hall _ (List.getElem_mem j.isLt)
    have hindex : i = index := (hunique i).mp ⟨values, hvalues, hi values hvalues⟩
    have hindex' : j = index := (hunique j).mp ⟨values', hvalues', hj values' hvalues'⟩
    exact absurd (hindex.trans hindex'.symm) hij

/-- If the controller reports an Access of the cache valid, every password and every public key that
an entry declares authenticates exactly that entry. Conversely, what two entries of an Access
declare authenticates nobody, whether the Access is valid or not. -/
theorem valid_credentials_match (cache : PolicyCache) (keys : CryptoSsh.Keys) (order : RangeOrder)
    (access : Access) :
    (ValidNames access → cache.get access.ns access.name = .ok access →
      ((cache.statusController keys order).validateAccess access).1 = .isTrue →
        ∀ i : Fin access.spec.credentials.length,
          (∀ token, DeclaresPassword cache.secretIndexer access.ns access.spec.credentials[i] token →
            cache.matchPassword (access.ns ++ Byte.dot :: access.name) token = .ok ⟨access, i⟩) ∧
          ∀ key, DeclaresPublicKey keys cache.secretIndexer access.ns access.spec.credentials[i] key
            → cache.matchPublicKey keys (access.ns ++ Byte.dot :: access.name) (some key)
              = .ok ⟨access, i⟩) ∧
    ∀ (sshUser : GoString) (locator : AccessLocator),
      (resolveAccessLocator sshUser).run (fun _ => cache.store) 0 = .ok (some (locator, access)) →
        ∀ i j : Fin access.spec.credentials.length, i ≠ j →
          (∀ token, DeclaresPassword cache.secretIndexer access.ns access.spec.credentials[i] token →
            DeclaresPassword cache.secretIndexer access.ns access.spec.credentials[j] token →
              ∃ err, cache.matchPassword sshUser token = .error err) ∧
          ∀ key, DeclaresPublicKey keys cache.secretIndexer access.ns access.spec.credentials[i] key
            → DeclaresPublicKey keys cache.secretIndexer access.ns access.spec.credentials[j] key →
              ∃ err, cache.matchPublicKey keys sshUser (some key) = .error err := by
  refine ⟨fun hnames hcached hvalid i => ?_, fun sshUser locator hlocated i j hij => ?_⟩
  · have hlocated := @run_resolveAccessLocator_exact cache.store _ _ access hnames.ns_ne_nil
      hnames.dot_notMem hnames.name_ne_nil hnames.tilde_notMem hcached
    obtain ⟨hmaterial, hseparate⟩ := @separate_of_validateAccess _ cache rfl _ hvalid
    have hentry : ∀ j : Fin access.spec.credentials.length, ∃ m,
        cache.HasMaterial keys access.ns access.spec.credentials[j] m :=
      fun j => (hmaterial _ (List.getElem_mem j.isLt)).2
    obtain ⟨m, hm⟩ := hentry i
    refine ⟨fun token htoken => ?_, fun key hkey => ?_⟩
    · have hne := ne_nil_of_declaresPassword (hmaterial _ (List.getElem_mem i.isLt)).1 htoken
      have hmem := mem_of_declaresPassword hm.passwords htoken hne
      refine PolicyCache.matchPassword_eq_ok_iff.mpr ⟨hne, matchMaterial_of_separate hlocated ?_
        ⟨m.passwords, hm.passwords, hmem⟩ fun j hij values hvalues => ?_⟩
      · intro credential hcredential
        obtain ⟨-, m', hm'⟩ := hmaterial credential hcredential
        exact ⟨m'.passwords, hm'.passwords⟩
      · obtain ⟨m', hm'⟩ := hentry j
        obtain rfl := Except.ok.inj (hm'.passwords.symm.trans hvalues)
        exact Finset.disjoint_left.mp (hseparate i j hij m m' hm hm').1 hmem
    · have hmem := mem_of_declaresPublicKey hm.publicKeys hkey
      refine matchMaterial_of_separate hlocated ?_ ⟨m.publicKeys, hm.publicKeys, hmem⟩
        fun j hij values hvalues => ?_
      · intro credential hcredential
        obtain ⟨-, m', hm'⟩ := hmaterial credential hcredential
        exact ⟨m'.publicKeys, hm'.publicKeys⟩
      · obtain ⟨m', hm'⟩ := hentry j
        obtain rfl := Except.ok.inj (hm'.publicKeys.symm.trans hvalues)
        exact Finset.disjoint_left.mp (hseparate i j hij m m' hm hm').2 hmem
  · refine ⟨fun token hi hj => ?_, fun key hi hj => ?_⟩
    · unfold PolicyCache.matchPassword
      split
      · exact ⟨_, rfl⟩
      · rename_i hne
        exact matchMaterial_error_of_shared hlocated hij
          (fun values hvalues => mem_of_declaresPassword hvalues hi hne)
          (fun values hvalues => mem_of_declaresPassword hvalues hj hne)
    · exact matchMaterial_error_of_shared hlocated hij
        (fun values hvalues => mem_of_declaresPublicKey hvalues hi)
        (fun values hvalues => mem_of_declaresPublicKey hvalues hj)

theorem RangeOrder.keys_empty (order : RangeOrder) : order.keys ∅ = [] :=
  List.eq_nil_iff_forall_not_mem.mpr fun _ hv => Finset.notMem_empty _ (order.mem_keys.mp hv)

theorem RangeOrder.keys_singleton (order : RangeOrder) (v : GoString) : order.keys {v} = [v] := by
  refine List.perm_singleton.mp ((List.perm_ext_iff_of_nodup (order.nodup_keys _)
    (List.nodup_singleton v)).mpr fun w => ?_)
  rw [order.mem_keys, Finset.mem_singleton, List.mem_singleton]

theorem claimMaterial_singleton (c : AccessStatusController) (kind username : GoString)
    {owners : GoMap GoString} {v : GoString} (hfree : owners.lookup v = none) :
    c.claimMaterial kind owners {v} username = .ok (owners.insert v username) := by
  unfold AccessStatusController.claimMaterial
  rw [c.order.keys_singleton, duplicateMaterialOwner, hfree]
  rfl

theorem claimMaterial_empty (c : AccessStatusController) (kind username : GoString)
    (owners : GoMap GoString) : c.claimMaterial kind owners ∅ username = .ok owners := by
  unfold AccessStatusController.claimMaterial
  rw [c.order.keys_empty]
  rfl

/-- An entry with one password that nobody has is accepted. -/
theorem validateEntry_onePassword {c : AccessStatusController} {ns : GoString} {index : ℕ}
    {credential : AccessCredential} {owners : Owners} {v : GoString}
    (hname : trimSpace credential.username ≠ []) (hnew : credential.username ∉ owners.usernames)
    (hmaterial : c.validateCredential ns index credential = .ok ⟨{v}, ∅⟩)
    (hfree : owners.passwordOwners.lookup v = none)
    (hpolicy : validateCapabilityPolicy credential.capabilities = none) :
    c.validateEntry ns owners index credential =
      .ok { owners with
        usernames := insert credential.username owners.usernames
        passwordOwners := owners.passwordOwners.insert v credential.username } := by
  unfold AccessStatusController.validateEntry
  rw [if_neg hname, if_neg hnew]
  refine bind_eq_ok_iff.mpr ⟨_, hmaterial, bind_eq_ok_iff.mpr ⟨_, claimMaterial_singleton c _ _ hfree,
    bind_eq_ok_iff.mpr ⟨_, claimMaterial_empty c _ _ _, ?_⟩⟩⟩
  rw [hpolicy]
  rfl

/-- Some order of `range`. -/
noncomputable def anyOrder : RangeOrder where
  keys := Finset.toList
  mem_keys := Finset.mem_toList
  nodup_keys := Finset.nodup_toList

theorem slashFree_creds : SlashFree (str "creds") := show Byte.slash ∉ str "creds" by decide

/-- The Secret `team/creds` with one password token. -/
def credsIndexer : SecretIndexer :=
  SecretIndexer.add ⟨∅, fun h => (by cases h)⟩
    { ns := str "team", name := str "creds", data := AList.insert (str "bob") (str "blue\n") ∅ }
    slashFree_team slashFree_creds

/-- The password of `alice` is declared inline, the one of `bob` in the Secret. -/
def credsSpec : AccessSpec where
  credentials :=
    [{ username := str "alice", passwords := [str "red"] },
     { username := str "bob", passwordsFrom := [⟨str "creds", str "bob"⟩] }]

/-- The controller reports the Access valid, in whatever order it visits its sets. -/
theorem validateAccess_credsSpec (order : RangeOrder) :
    (((boxCache credsSpec (some credsIndexer)).statusController CryptoSsh.plainKeys order).validateAccess
      (boxAccess credsSpec)).1 = .isTrue := by
  have hloop : ∃ owners,
      ((boxCache credsSpec (some credsIndexer)).statusController CryptoSsh.plainKeys order
        ).validateCredentials (str "team") 0 {} credsSpec.credentials = .ok owners :=
    ⟨_, bind_eq_ok_iff.mpr
      ⟨_, validateEntry_onePassword (v := str "red") (by decide) (by decide) rfl rfl rfl,
        bind_eq_ok_iff.mpr
          ⟨_, validateEntry_onePassword (v := str "blue") (by decide) (by decide) rfl rfl rfl, rfl⟩⟩⟩
  obtain ⟨owners, howners⟩ := hloop
  unfold AccessStatusController.validateAccess
  rw [if_neg (by decide), show (boxAccess credsSpec).ns = str "team" from rfl,
    show (boxAccess credsSpec).spec.credentials = credsSpec.credentials from rfl, howners]
  rfl

/-- The Access is valid, and the token of the Secret authenticates `bob`. -/
theorem valid_credentials_match_bob :
    (((boxCache credsSpec (some credsIndexer)).statusController CryptoSsh.plainKeys anyOrder
        ).validateAccess (boxAccess credsSpec)).1 = .isTrue ∧
      (boxCache credsSpec (some credsIndexer)).matchPassword (str "team.box") (str "blue")
        = .ok ⟨boxAccess credsSpec, ⟨1, Nat.one_lt_two⟩⟩ := by
  have hvalid := validateAccess_credsSpec anyOrder
  have hnames : ValidNames (boxAccess credsSpec) :=
    ⟨by decide, by decide, by decide, by decide⟩
  refine ⟨hvalid, ((valid_credentials_match (boxCache credsSpec (some credsIndexer))
    CryptoSsh.plainKeys anyOrder (boxAccess credsSpec)).1 hnames rfl hvalid ⟨1, Nat.one_lt_two⟩).1
      (str "blue") ?_⟩
  exact .secret (List.mem_singleton_self _) ⟨credsIndexer, rfl, _, rfl, rfl⟩ (by decide)

/-! ## Exposed containers -/

/-- Validation takes the text of a pattern for a container name. What it matches, the Access
exposes. -/
theorem exposed_of_unexposedContainer_eq_none {access : Access}
    (h : AccessStatusController.unexposedContainer access = none)
    (hlist : access.spec.containers ≠ []) {credential : AccessCredential}
    (hcredential : credential ∈ access.spec.credentials) {q : GoString}
    (hq : q ∈ credential.containers) (hstar : q ≠ str "*") :
    ∃ pattern ∈ access.spec.containers, Wildcard.isMatch pattern q = true := by
  unfold AccessStatusController.unexposedContainer at h
  rw [if_neg hlist, List.findSome?_eq_none_iff] at h
  have hnone := Option.map_eq_none_iff.mp (h credential hcredential)
  have hallowed := List.find?_eq_none.mp hnone q hq
  rw [decide_eq_true_eq, not_and, not_not] at hallowed
  have hexposed := hallowed hstar
  rw [containerAllowed, List.isEmpty_eq_false_iff.mpr hlist, Bool.false_or] at hexposed
  exact Wildcard.matchAny_iff.mp hexposed

/-- The controller reports a Pod Access with a container list valid only if every pattern of a
credential but `*` stays within the list: pattern matching is transitive, so whatever the pattern
matches is matched by a pattern of the Access. -/
theorem validated_containers_exposed :
    (∀ pattern q s : GoString, Wildcard.isMatch pattern q = true → Wildcard.isMatch q s = true →
      Wildcard.isMatch pattern s = true) ∧
    ∀ (c : AccessStatusController) (access : Access), access.spec.type ≠ .external →
      access.spec.containers ≠ [] → (c.validateAccess access).1 = .isTrue →
      ∀ credential ∈ access.spec.credentials, ∀ q ∈ credential.containers, q ≠ str "*" →
      ∀ s : GoString, Wildcard.isMatch q s = true →
        ∃ pattern ∈ access.spec.containers, Wildcard.isMatch pattern s = true := by
  refine ⟨fun pattern q s => Wildcard.isMatch_trans,
    fun c access htype hlist hvalid credential hcredential q hq hstar s hs => ?_⟩
  unfold AccessStatusController.validateAccess at hvalid
  split at hvalid
  · cases hvalid
  split at hvalid
  · cases hvalid
  split at hvalid
  · cases hvalid
  rename_i hexposed
  obtain ⟨pattern, hpattern, hmatch⟩ :=
    exposed_of_unexposedContainer_eq_none hexposed hlist hcredential hq hstar
  exact ⟨pattern, hpattern, Wildcard.isMatch_trans hmatch hs⟩

/-- An Access of one credential, with one password, which is limited to these containers. -/
def limitedSpec (type : AccessType) (exposed limited : List GoString) : AccessSpec where
  type := type
  containers := exposed
  credentials := [{ username := str "alice", passwords := [str "red"], containers := limited }]

/-- Without Secrets and public keys. -/
def plainValidator (order : RangeOrder) : AccessStatusController where
  secretIndexer := none
  keys := CryptoSsh.plainKeys
  order := order

theorem validateAccess_limitedSpec (order : RangeOrder) (type : AccessType)
    (exposed limited : List GoString) :
    (plainValidator order).validateAccess (boxAccess (limitedSpec type exposed limited)) =
      if type = .external then (.isTrue, str "Valid", Message.text "Access spec is valid.")
      else match AccessStatusController.unexposedContainer
          (boxAccess (limitedSpec type exposed limited)) with
        | some (username, container) =>
          (.isFalse, str "InvalidContainerPolicy", [.bytes (str "Credential "), .quoted username,
            .bytes (str " container "), .quoted container,
            .bytes (str " is not exposed by the Access.")])
        | none => (.isTrue, str "Valid", Message.text "Access spec and referenced credentials are valid.") := by
  have hentry : (plainValidator order).validateEntry (str "team") {} 0
      { username := str "alice", passwords := [str "red"], containers := limited } = .ok _ :=
    validateEntry_onePassword (v := str "red") (show trimSpace (str "alice") ≠ [] by decide)
      (by simp) rfl rfl rfl
  have hloop : (plainValidator order).validateCredentials
      (boxAccess (limitedSpec type exposed limited)).ns 0 {} (boxAccess (limitedSpec type exposed limited)).spec.credentials = .ok _ :=
    bind_eq_ok_iff.mpr ⟨_, hentry, rfl⟩
  unfold AccessStatusController.validateAccess
  rw [if_neg (by simp [boxAccess, limitedSpec]), hloop]
  rfl

/-- The pattern `app-*` of a credential stays within `app*`. -/
theorem validated_containers_exposed_pattern :
    ((plainValidator anyOrder).validateAccess (boxAccess (limitedSpec .pod [str "app*"] [str "app-*"]))).1 = .isTrue ∧
      ∃ pattern ∈ [str "app*"], Wildcard.isMatch pattern (str "app-1") = true := by
  have hvalid : ((plainValidator anyOrder).validateAccess
      (boxAccess (limitedSpec .pod [str "app*"] [str "app-*"]))).1 = .isTrue := by
    rw [validateAccess_limitedSpec]
    decide
  exact ⟨hvalid, validated_containers_exposed.2 (plainValidator anyOrder) _ (by decide) (by decide) hvalid _
    List.mem_cons_self (str "app-*") List.mem_cons_self (by decide) (str "app-1") (by decide)⟩

/-- An External Access is valid whatever containers it lists: no Pod is behind it. -/
theorem external_containers_not_compared :
    ((plainValidator anyOrder).validateAccess (boxAccess (limitedSpec .external [str "app"] [str "db"]))).1
        = .isTrue ∧
      Wildcard.isMatch (str "db") (str "db") = true ∧
      ¬ ∃ pattern ∈ (boxAccess (limitedSpec .external [str "app"] [str "db"])).spec.containers,
        Wildcard.isMatch pattern (str "db") = true := by
  refine ⟨?_, by decide, by decide⟩
  rw [validateAccess_limitedSpec, if_pos rfl]

end KubeSsh.AccessPolicy

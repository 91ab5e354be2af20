import KubeSsh.AccessPolicy.StatusSync

/-!
# `pkg/accesspolicy`: the order of `range` and the status

`validateAccess` visits the passwords and the public keys of an entry in the order of `range`, and
stops at the first value that an earlier entry has as well. `EntryResult` says what can become of an
entry in some order, in terms of the entries alone.

`status_sync_converges_iff` says when the controller settles: later syncs of an unchanged Access
write nothing exactly if the entry whose material is refused shares it with one earlier entry only.
Otherwise the message names whichever earlier owner was found first, and each sync can replace the
message of the last one.
-/

namespace KubeSsh.AccessPolicy

open Strings

/-! ## What depends on the order -/

/-- An entry of the list with this user name has the value among its material. -/
def AccessStatusController.Owns (c : AccessStatusController) (ns : GoString)
    (kind : CredentialMaterial → Finset GoString) (credentials : List AccessCredential)
    (value owner : GoString) : Prop :=
  ∃ credential ∈ credentials, credential.username = owner ∧
    ∃ index m, c.validateCredential ns index credential = .ok m ∧ value ∈ kind m

/-- The index of an entry is in a message only. -/
theorem validateCredential_index {c : AccessStatusController} {ns : GoString}
    {credential : AccessCredential} {index : ℕ} {m : CredentialMaterial}
    (h : c.validateCredential ns index credential = .ok m) (index' : ℕ) :
    c.validateCredential ns index' credential = .ok m := by
  unfold AccessStatusController.validateCredential at h ⊢
  simp only [bind_eq_ok_iff] at h ⊢
  obtain ⟨inline, hinline, hashes, hhashes, passwords, hpasswords, publicKeys, hpublicKeys, h⟩ := h
  refine ⟨inline, hinline, hashes, hhashes, passwords, hpasswords, publicKeys, hpublicKeys, ?_⟩
  split at h
  · cases h
  · rename_i hmaterial
    rw [if_neg hmaterial]
    exact h

theorem owns_concat {c : AccessStatusController} {ns : GoString}
    {kind : CredentialMaterial → Finset GoString} {before : List AccessCredential}
    {credential : AccessCredential} {index : ℕ} {m : CredentialMaterial}
    (hm : c.validateCredential ns index credential = .ok m) {value owner : GoString} :
    c.Owns ns kind (before ++ [credential]) value owner ↔
      c.Owns ns kind before value owner ∨ credential.username = owner ∧ value ∈ kind m := by
  have hown : (∃ index m, c.validateCredential ns index credential = .ok m ∧ value ∈ kind m) ↔
      value ∈ kind m := by
    constructor
    · rintro ⟨index', m', hm', hvalue⟩
      obtain rfl := Except.ok.inj ((validateCredential_index hm' index).symm.trans hm)
      exact hvalue
    · exact fun hvalue => ⟨index, m, hm, hvalue⟩
  simp only [AccessStatusController.Owns, List.mem_append, List.mem_singleton, or_and_right,
    exists_or, exists_eq_left, hown]

/-- The maps of `validateAccess` behind these entries, in terms of the entries alone. -/
structure Owners.Of (c : AccessStatusController) (ns : GoString) (before : List AccessCredential)
    (owners : Owners) : Prop where
  usernames : ∀ username, username ∈ owners.usernames ↔ ∃ credential ∈ before,
    credential.username = username
  passwords : ∀ value owner, owners.passwordOwners.lookup value = some owner ↔
    c.Owns ns CredentialMaterial.passwords before value owner
  publicKeys : ∀ value owner, owners.publicKeyOwners.lookup value = some owner ↔
    c.Owns ns CredentialMaterial.publicKeys before value owner

/-- The refusal of shared material (`status_controller.go:309-314`). -/
def duplicateMaterial (kind first second : GoString) : Invalid :=
  ⟨str "DuplicateCredentialMaterial", [.bytes kind,
    .bytes (str " material is assigned to credential identities "), .quoted first,
    .bytes (str " and "), .quoted second, .bytes (str " within the Access.")]⟩

theorem duplicateMaterialOwner_eq_error {username : GoString} {owners : GoMap GoString}
    {values : List GoString} {first second : GoString}
    (h : duplicateMaterialOwner username owners values = .error (first, second)) :
    second = username ∧ first ≠ username ∧ ∃ v ∈ values, owners.lookup v = some first := by
  induction values generalizing owners with
  | nil => cases h
  | cons value values ih =>
    rw [duplicateMaterialOwner] at h
    split at h
    · rename_i owner howner
      obtain ⟨rfl, rfl⟩ := Prod.mk.inj (Except.error.inj h)
      obtain ⟨hlookup, hne⟩ := Option.filter_eq_some_iff.mp howner
      exact ⟨rfl, of_decide_eq_true hne, value, List.mem_cons_self, hlookup⟩
    · obtain ⟨hsecond, hne, v, hv, hlookup⟩ := ih h
      refine ⟨hsecond, hne, v, List.mem_cons_of_mem value hv, ?_⟩
      -- a value that the loop has claimed belongs to the new user name
      by_cases heq : v = value
      · rw [heq, AList.lookup_insert] at hlookup
        exact absurd (Option.some.inj hlookup).symm hne
      · rwa [AList.lookup_insert_ne heq] at hlookup

section Claims

variable {c : AccessStatusController} {kind username : GoString} {owners : GoMap GoString}
  {values : Finset GoString}

/-- Either all the material is claimed, or one of the owners that it has already is found. -/
theorem claimMaterial_cases (c : AccessStatusController) (kind username : GoString)
    (owners : GoMap GoString) (values : Finset GoString) :
    (∃ owners', c.claimMaterial kind owners values username = .ok owners' ∧
      (∀ v ∈ values, ∀ owner, owners.lookup v = some owner → owner = username) ∧
      ∀ v, owners'.lookup v = if v ∈ values then some username else owners.lookup v) ∨
    ∃ first, c.claimMaterial kind owners values username
        = .error (duplicateMaterial kind first username) ∧
      first ≠ username ∧ ∃ v ∈ values, owners.lookup v = some first := by
  unfold AccessStatusController.claimMaterial
  split
  · rename_i first second herror
    obtain ⟨rfl, hne, v, hv, hlookup⟩ := duplicateMaterialOwner_eq_error herror
    exact Or.inr ⟨first, rfl, hne, v, c.order.mem_keys.mp hv, hlookup⟩
  · rename_i owners' hok
    obtain ⟨hfree, hlookup⟩ := duplicateMaterialOwner_eq_ok hok
    simp only [c.order.mem_keys] at hfree hlookup
    exact Or.inl ⟨owners', rfl, hfree, hlookup⟩

/-- The first value that `range` visits decides, if it has another owner. -/
theorem claimMaterial_of_first {v first : GoString} {rest : List GoString}
    (hkeys : c.order.keys values = v :: rest) (hlookup : owners.lookup v = some first)
    (hne : first ≠ username) :
    c.claimMaterial kind owners values username = .error (duplicateMaterial kind first username) := by
  unfold AccessStatusController.claimMaterial
  rw [hkeys, duplicateMaterialOwner, hlookup, Option.filter_some, if_pos (by simpa using hne)]
  rfl

end Claims

namespace AccessStatusController

variable (c : AccessStatusController)

/-- What the loop of `validateAccess` does with an entry before it looks at the owners of its
material (`status_controller.go:298-308`). -/
def entryMaterial (ns : GoString) (before : List AccessCredential) (index : ℕ)
    (credential : AccessCredential) : Except Invalid CredentialMaterial :=
  if trimSpace credential.username = [] then
    .error ⟨str "InvalidCredential", [.bytes (str "Credential at index "), .bytes (decimal index),
      .bytes (str " requires username.")]⟩
  else if credential.username ∈ before.map (·.username) then
    .error ⟨str "DuplicateCredentialIdentity", [.bytes (str "Credential username "),
      .quoted credential.username, .bytes (str " must be unique within the Access.")]⟩
  else c.validateCredential ns index credential

/-- Validation accepts the entries before this one, and gets as far as the owners of its
material. -/
structure Reaches (access : Access) (before : List AccessCredential) (credential : AccessCredential)
    (m : CredentialMaterial) : Prop where
  split : ∃ after, access.spec.credentials = before ++ credential :: after
  accepted : ∃ owners, c.validateCredentials access.ns 0 {} before = .ok owners
  material : c.entryMaterial access.ns before before.length credential = .ok m

/-- All the material of one kind that an entry shares, it shares with the same earlier entry. -/
def SharesWithOne (ns : GoString) (kind : CredentialMaterial → Finset GoString)
    (before : List AccessCredential) (m : CredentialMaterial) : Prop :=
  ∀ v ∈ kind m, ∀ v' ∈ kind m, ∀ owner owner', c.Owns ns kind before v owner →
    c.Owns ns kind before v' owner' → owner = owner'

/-- None of the material of one kind belongs to an earlier entry. -/
def SharesNone (ns : GoString) (kind : CredentialMaterial → Finset GoString)
    (before : List AccessCredential) (m : CredentialMaterial) : Prop :=
  ∀ v ∈ kind m, ∀ owner, ¬ c.Owns ns kind before v owner

/-- The entry whose shared material ends the validation shares it with one earlier entry only: its
passwords, or its public keys if it shares no password. -/
structure OneOwner (access : Access) : Prop where
  passwords : ∀ {before credential m}, c.Reaches access before credential m →
    c.SharesWithOne access.ns CredentialMaterial.passwords before m
  publicKeys : ∀ {before credential m}, c.Reaches access before credential m →
    c.SharesNone access.ns CredentialMaterial.passwords before m →
    c.SharesWithOne access.ns CredentialMaterial.publicKeys before m

/-- What can become of an entry, in some order. -/
inductive EntryResult (ns : GoString) (before : List AccessCredential)
    (credential : AccessCredential) (m : CredentialMaterial) : Except Invalid Owners → Prop
  | sharedPassword {v first : GoString} : v ∈ m.passwords →
      c.Owns ns CredentialMaterial.passwords before v first →
      EntryResult ns before credential m
        (.error (duplicateMaterial (str "Password") first credential.username))
  | sharedPublicKey {v first : GoString} : c.SharesNone ns CredentialMaterial.passwords before m →
      v ∈ m.publicKeys → c.Owns ns CredentialMaterial.publicKeys before v first →
      EntryResult ns before credential m
        (.error (duplicateMaterial (str "Public key") first credential.username))
  | policy {message : Message} : c.SharesNone ns CredentialMaterial.passwords before m →
      c.SharesNone ns CredentialMaterial.publicKeys before m →
      validateCapabilityPolicy credential.capabilities = some message →
      EntryResult ns before credential m (.error ⟨str "InvalidCapabilityPolicy",
        [.bytes (str "Credential "), .quoted credential.username, .bytes (str ": ")] ++ message⟩)
  | accepted {owners : Owners} : c.SharesNone ns CredentialMaterial.passwords before m →
      c.SharesNone ns CredentialMaterial.publicKeys before m →
      validateCapabilityPolicy credential.capabilities = none →
      owners.Of c ns (before ++ [credential]) → EntryResult ns before credential m (.ok owners)

variable {c} {ns : GoString} {before : List AccessCredential} {credential : AccessCredential}
  {m : CredentialMaterial} {index : ℕ}

theorem entryMaterial_eq_ok (h : c.entryMaterial ns before index credential = .ok m) :
    trimSpace credential.username ≠ [] ∧ (∀ other ∈ before, other.username ≠ credential.username) ∧
      c.validateCredential ns index credential = .ok m := by
  unfold entryMaterial at h
  split at h
  · cases h
  split at h
  · cases h
  rename_i hname hnew
  refine ⟨hname, fun other hother heq => hnew ?_, h⟩
  exact heq ▸ List.mem_map_of_mem hother

theorem validateEntry_eq {owners : Owners} (hof : owners.Of c ns before) (order : RangeOrder) :
    (c.ranging order).validateEntry ns owners index credential = (do
      let m ← c.entryMaterial ns before index credential
      let passwordOwners ← (c.ranging order).claimMaterial (str "Password") owners.passwordOwners
        m.passwords credential.username
      let publicKeyOwners ← (c.ranging order).claimMaterial (str "Public key") owners.publicKeyOwners
        m.publicKeys credential.username
      match validateCapabilityPolicy credential.capabilities with
      | some message => .error ⟨str "InvalidCapabilityPolicy", [.bytes (str "Credential "),
          .quoted credential.username, .bytes (str ": ")] ++ message⟩
      | none => return { usernames := insert credential.username owners.usernames
                         passwordOwners, publicKeyOwners }) := by
  have hnew : credential.username ∈ owners.usernames ↔ credential.username ∈ before.map (·.username) := by
    rw [hof.usernames, List.mem_map]
  unfold validateEntry entryMaterial
  split
  · rfl
  rw [if_congr hnew rfl rfl]
  split <;> rfl

/-- An earlier entry has another user name. -/
theorem ne_of_owns {kind : CredentialMaterial → Finset GoString}
    (hm : c.entryMaterial ns before index credential = .ok m) {v owner : GoString}
    (h : c.Owns ns kind before v owner) : owner ≠ credential.username := by
  obtain ⟨other, hother, rfl, -⟩ := h
  exact (entryMaterial_eq_ok hm).2.1 other hother

/-- The owners behind an entry whose material nobody had. -/
theorem lookup_concat {kind : CredentialMaterial → Finset GoString}
    {owners owners' : GoMap GoString} (hm : c.entryMaterial ns before index credential = .ok m)
    (hof : ∀ v owner, owners.lookup v = some owner ↔ c.Owns ns kind before v owner)
    (hfree : c.SharesNone ns kind before m)
    (hlookup : ∀ v, owners'.lookup v =
      if v ∈ kind m then some credential.username else owners.lookup v) (v owner : GoString) :
    owners'.lookup v = some owner ↔ c.Owns ns kind (before ++ [credential]) v owner := by
  rw [owns_concat (entryMaterial_eq_ok hm).2.2, hlookup]
  split
  · rename_i hv
    have hnone := hfree v hv owner
    simp [hv, hnone]
  · rename_i hv
    simp [hv, hof]

theorem sharesNone_of_free {kind : CredentialMaterial → Finset GoString} {owners : GoMap GoString}
    (hm : c.entryMaterial ns before index credential = .ok m)
    (hof : ∀ v owner, owners.lookup v = some owner ↔ c.Owns ns kind before v owner)
    (hfree : ∀ v ∈ kind m, ∀ owner, owners.lookup v = some owner → owner = credential.username) :
    c.SharesNone ns kind before m :=
  fun v hv owner howns => ne_of_owns hm howns (hfree v hv owner ((hof v owner).mpr howns))

theorem validateEntry_result {owners : Owners} (hof : owners.Of c ns before)
    (hm : c.entryMaterial ns before index credential = .ok m) (order : RangeOrder) :
    c.EntryResult ns before credential m
      ((c.ranging order).validateEntry ns owners index credential) := by
  rw [validateEntry_eq hof, hm]
  obtain ⟨passwordOwners, hpasswords, hfree, hlookup⟩ | ⟨first, hpasswords, -, v, hv, hfirst⟩ :=
    claimMaterial_cases (c.ranging order) (str "Password") credential.username owners.passwordOwners
      m.passwords
  swap
  · simp only [bind, Except.bind, hpasswords]
    exact .sharedPassword hv ((hof.passwords v first).mp hfirst)
  have hnone := sharesNone_of_free hm hof.passwords hfree
  obtain ⟨publicKeyOwners, hpublicKeys, hfree', hlookup'⟩ | ⟨first, hpublicKeys, -, v, hv, hfirst⟩ :=
    claimMaterial_cases (c.ranging order) (str "Public key") credential.username owners.publicKeyOwners
      m.publicKeys
  swap
  · simp only [bind, Except.bind, hpasswords, hpublicKeys]
    exact .sharedPublicKey hnone hv ((hof.publicKeys v first).mp hfirst)
  have hnone' := sharesNone_of_free hm hof.publicKeys hfree'
  simp only [bind, Except.bind, hpasswords, hpublicKeys]
  cases hpolicy : validateCapabilityPolicy credential.capabilities with
  | some message => exact .policy hnone hnone' hpolicy
  | none =>
    refine .accepted hnone hnone' hpolicy ⟨fun username => ?_, ?_, ?_⟩
    · simp [hof.usernames, or_comm, or_and_right, exists_or, eq_comm]
    · exact lookup_concat hm hof.passwords hnone hlookup
    · exact lookup_concat hm hof.publicKeys hnone' hlookup'

/-- The guards of the results do not depend on the order. -/
theorem EntryResult.same {result result' : Except Invalid Owners}
    (h : c.EntryResult ns before credential m result)
    (h' : c.EntryResult ns before credential m result')
    (hpasswords : c.SharesWithOne ns CredentialMaterial.passwords before m)
    (hpublicKeys : c.SharesNone ns CredentialMaterial.passwords before m →
      c.SharesWithOne ns CredentialMaterial.publicKeys before m) :
    (∃ owners owners', result = .ok owners ∧ result' = .ok owners') ∨
      ∃ invalid, result = .error invalid ∧ result' = .error invalid := by
  cases h with
  | sharedPassword hv howns =>
    cases h' with
    | sharedPassword hv' howns' =>
      rw [hpasswords _ hv _ hv' _ _ howns howns']
      exact Or.inr ⟨_, rfl, rfl⟩
    | sharedPublicKey hnone => exact absurd howns (hnone _ hv _)
    | policy hnone => exact absurd howns (hnone _ hv _)
    | accepted hnone => exact absurd howns (hnone _ hv _)
  | sharedPublicKey hnone hv howns =>
    cases h' with
    | sharedPassword hv' howns' => exact absurd howns' (hnone _ hv' _)
    | sharedPublicKey _ hv' howns' =>
      rw [hpublicKeys hnone _ hv _ hv' _ _ howns howns']
      exact Or.inr ⟨_, rfl, rfl⟩
    | policy _ hnone' => exact absurd howns (hnone' _ hv _)
    | accepted _ hnone' => exact absurd howns (hnone' _ hv _)
  | policy hnone hnone' hpolicy =>
    cases h' with
    | sharedPassword hv' howns' => exact absurd howns' (hnone _ hv' _)
    | sharedPublicKey _ hv' howns' => exact absurd howns' (hnone' _ hv' _)
    | policy _ _ hpolicy' =>
      obtain rfl := Option.some.inj (hpolicy.symm.trans hpolicy')
      exact Or.inr ⟨_, rfl, rfl⟩
    | accepted _ _ hpolicy' => exact absurd (hpolicy.symm.trans hpolicy') (by simp)
  | accepted hnone hnone' hpolicy =>
    cases h' with
    | sharedPassword hv' howns' => exact absurd howns' (hnone _ hv' _)
    | sharedPublicKey _ hv' howns' => exact absurd howns' (hnone' _ hv' _)
    | policy _ _ hpolicy' => exact absurd (hpolicy.symm.trans hpolicy') (by simp)
    | accepted => exact Or.inl ⟨_, _, rfl, rfl⟩

theorem SharesNone.sharesWithOne {kind : CredentialMaterial → Finset GoString}
    (h : c.SharesNone ns kind before m) : c.SharesWithOne ns kind before m :=
  fun v hv _ _ owner _ howns => absurd howns (h v hv owner)

/-- An entry that is accepted in one order is accepted in every order. -/
theorem EntryResult.accepted_of_accepted {owners : Owners} {result : Except Invalid Owners}
    (h : c.EntryResult ns before credential m (.ok owners))
    (h' : c.EntryResult ns before credential m result) : ∃ owners', result = .ok owners' := by
  cases h with
  | accepted hnone hnone' hpolicy hof =>
    obtain ⟨-, owners', -, hok⟩ | ⟨invalid, herror, -⟩ :=
      (EntryResult.accepted hnone hnone' hpolicy hof).same h' hnone.sharesWithOne
        fun _ => hnone'.sharesWithOne
    · exact ⟨owners', hok⟩
    · cases herror

theorem validateCredentials_append (c : AccessStatusController) (ns : GoString) (index : ℕ)
    (owners : Owners) (before after : List AccessCredential) :
    c.validateCredentials ns index owners (before ++ after) = (do
      let owners ← c.validateCredentials ns index owners before
      c.validateCredentials ns (index + before.length) owners after) := by
  induction before generalizing index owners with
  | nil => rfl
  | cons credential before ih =>
    simp only [List.cons_append, validateCredentials, ih, bind_assoc, List.length_cons,
      Nat.add_right_comm, Nat.add_assoc]

theorem validateCredentials_concat_eq_ok {index : ℕ} {owners owners' : Owners} :
    c.validateCredentials ns index owners (before ++ [credential]) = .ok owners' ↔
      ∃ between, c.validateCredentials ns index owners before = .ok between ∧
        c.validateEntry ns between (index + before.length) credential = .ok owners' := by
  rw [validateCredentials_append, bind_eq_ok_iff]
  simp only [validateCredentials, bind_eq_ok_iff, Except.ok.injEq, exists_eq_right]

/-- The material of an entry that was accepted. -/
theorem material_of_validateEntry {owners owners' : Owners} (hof : owners.Of c ns before)
    {order : RangeOrder} (h : (c.ranging order).validateEntry ns owners index credential = .ok owners') :
    ∃ m, c.entryMaterial ns before index credential = .ok m := by
  rw [validateEntry_eq hof, bind_eq_ok_iff] at h
  obtain ⟨m, hm, -⟩ := h
  exact ⟨m, hm⟩

/-- In every order the accepted entries are the same and their owners are known from them alone. -/
theorem of_validateCredentials {order : RangeOrder} {before : List AccessCredential}
    {owners : Owners} (h : (c.ranging order).validateCredentials ns 0 {} before = .ok owners) :
    owners.Of c ns before ∧ ∀ order' : RangeOrder, ∃ owners',
      (c.ranging order').validateCredentials ns 0 {} before = .ok owners' := by
  induction before using List.reverseRecOn generalizing order owners with
  | nil =>
    obtain rfl := Except.ok.inj h
    exact ⟨⟨by simp, fun _ _ => by simp [Owns], fun _ _ => by simp [Owns]⟩, fun _ => ⟨{}, rfl⟩⟩
  | append_singleton before credential ih =>
    obtain ⟨between, hbefore, hentry⟩ := validateCredentials_concat_eq_ok.mp h
    obtain ⟨hof, horders⟩ := ih hbefore
    obtain ⟨m, hm⟩ := material_of_validateEntry hof hentry
    have hresult := hentry ▸ validateEntry_result hof hm order
    refine ⟨?_, fun order' => ?_⟩
    · cases hresult with
      | accepted _ _ _ hof' => exact hof'
    · obtain ⟨between', hbefore'⟩ := horders order'
      obtain ⟨hof', -⟩ := ih hbefore'
      obtain ⟨owners', hentry'⟩ :=
        hresult.accepted_of_accepted (validateEntry_result hof' hm order')
      exact ⟨owners', validateCredentials_concat_eq_ok.mpr ⟨between', hbefore', hentry'⟩⟩

/-- With one owner to be found, two runs of the loop end the same way. -/
theorem validateCredentials_same {access : Access} (hone : c.OneOwner access)
    {order order' : RangeOrder} {before after : List AccessCredential} {owners owners' : Owners}
    (hsplit : access.spec.credentials = before ++ after)
    (h : (c.ranging order).validateCredentials access.ns 0 {} before = .ok owners)
    (h' : (c.ranging order').validateCredentials access.ns 0 {} before = .ok owners') :
    (∃ last last', (c.ranging order).validateCredentials access.ns before.length owners after = .ok last ∧
      (c.ranging order').validateCredentials access.ns before.length owners' after = .ok last') ∨
    ∃ invalid,
      (c.ranging order).validateCredentials access.ns before.length owners after = .error invalid ∧
      (c.ranging order').validateCredentials access.ns before.length owners' after = .error invalid := by
  induction after generalizing before owners owners' with
  | nil => exact Or.inl ⟨owners, owners', rfl, rfl⟩
  | cons credential after ih =>
    obtain ⟨hof, horders⟩ := of_validateCredentials h
    have hof' := (of_validateCredentials h').1
    have hnext : access.spec.credentials = (before ++ [credential]) ++ after := by
      rw [hsplit, List.append_assoc, List.singleton_append]
    simp only [validateCredentials]
    cases hm : c.entryMaterial access.ns before before.length credential with
    | error invalid =>
      refine Or.inr ⟨invalid, ?_, ?_⟩
      · rw [validateEntry_eq hof, hm]
        rfl
      · rw [validateEntry_eq hof', hm]
        rfl
    | ok m =>
      have hreaches : c.Reaches access before credential m := ⟨⟨after, hsplit⟩, horders c.order, hm⟩
      obtain ⟨between, between', hentry, hentry'⟩ | ⟨invalid, hentry, hentry'⟩ :=
        (validateEntry_result hof hm order).same (validateEntry_result hof' hm order')
          (hone.passwords hreaches) (hone.publicKeys hreaches)
      · rw [← Nat.zero_add before.length] at hentry hentry'
        have hrest := ih hnext (validateCredentials_concat_eq_ok.mpr ⟨owners, h, hentry⟩)
          (validateCredentials_concat_eq_ok.mpr ⟨owners', h', hentry'⟩)
        rw [List.length_append, List.length_singleton] at hrest
        rw [Nat.zero_add] at hentry hentry'
        rw [hentry, hentry']
        exact hrest
      · refine Or.inr ⟨invalid, ?_, ?_⟩
        · rw [hentry]
          rfl
        · rw [hentry']
          rfl

theorem validateAccess_same {access : Access} (hone : c.OneOwner access) (order order' : RangeOrder) :
    (c.ranging order).validateAccess access = (c.ranging order').validateAccess access := by
  unfold validateAccess
  split
  · rfl
  have hstart : (c.ranging order).validateCredentials access.ns 0 {} [] = .ok {} := rfl
  have hstart' : (c.ranging order').validateCredentials access.ns 0 {} [] = .ok {} := rfl
  obtain ⟨last, last', hlast, hlast'⟩ | ⟨invalid, hlast, hlast'⟩ :=
    validateCredentials_same hone (List.nil_append _).symm hstart hstart'
  · rw [List.length_nil] at hlast hlast'
    rw [hlast, hlast']
  · rw [List.length_nil] at hlast hlast'
    rw [hlast, hlast']

/-- An order that finds shared material at an entry that validation reaches says so in its
verdict. -/
theorem validateAccess_of_reaches {access : Access}
    (hreaches : c.Reaches access before credential m) {order : RangeOrder} {invalid : Invalid}
    (hentry : ∀ owners : Owners, owners.Of c access.ns before →
      (c.ranging order).validateEntry access.ns owners before.length credential = .error invalid) :
    (c.ranging order).validateAccess access = (.isFalse, invalid.reason, invalid.message) := by
  obtain ⟨after, hsplit⟩ := hreaches.split
  obtain ⟨_, haccepted⟩ := hreaches.accepted
  obtain ⟨owners, howners⟩ := (of_validateCredentials haccepted).2 order
  have hloop : (c.ranging order).validateCredentials access.ns 0 {} access.spec.credentials
      = .error invalid := by
    rw [hsplit, validateCredentials_append, howners]
    have herror := hentry owners (of_validateCredentials howners).1
    simp only [bind, Except.bind, validateCredentials, Nat.zero_add, herror]
  unfold validateAccess
  rw [if_neg (by simp [hsplit]), hloop]

end AccessStatusController

/-- The order that visits this value first. -/
def RangeOrder.first (order : RangeOrder) (v : GoString) : RangeOrder where
  keys values := if v ∈ values then v :: (order.keys values).erase v else order.keys values
  mem_keys {values value} := by
    split
    · rename_i hv
      rw [List.mem_cons, (order.nodup_keys values).mem_erase_iff, order.mem_keys]
      by_cases heq : value = v <;> simp [heq, hv]
    · exact order.mem_keys
  nodup_keys values := by
    split
    · exact List.nodup_cons.mpr ⟨(order.nodup_keys values).not_mem_erase, (order.nodup_keys values).erase v⟩
    · exact order.nodup_keys values

theorem RangeOrder.keys_first (order : RangeOrder) {v : GoString} {values : Finset GoString}
    (hv : v ∈ values) : (order.first v).keys values = v :: (order.keys values).erase v := if_pos hv

namespace AccessStatusController

variable {c : AccessStatusController} {ns : GoString} {before : List AccessCredential}
  {credential : AccessCredential} {m : CredentialMaterial} {index : ℕ} {owners : Owners}
  {v owner : GoString}

/-- The message names whichever owner `range` comes to first. -/
theorem validateEntry_sharedPassword (hof : owners.Of c ns before)
    (hm : c.entryMaterial ns before index credential = .ok m) (hv : v ∈ m.passwords)
    (howns : c.Owns ns CredentialMaterial.passwords before v owner) :
    (c.ranging (c.order.first v)).validateEntry ns owners index credential =
      .error (duplicateMaterial (str "Password") owner credential.username) := by
  rw [validateEntry_eq hof, hm]
  have hclaim : (c.ranging (c.order.first v)).claimMaterial (str "Password") owners.passwordOwners
      m.passwords credential.username
      = .error (duplicateMaterial (str "Password") owner credential.username) :=
    claimMaterial_of_first (c.order.keys_first hv) ((hof.passwords v owner).mpr howns) (ne_of_owns hm howns)
  simp only [bind, Except.bind, hclaim]

theorem validateEntry_sharedPublicKey (hof : owners.Of c ns before)
    (hm : c.entryMaterial ns before index credential = .ok m)
    (hnone : c.SharesNone ns CredentialMaterial.passwords before m) (hv : v ∈ m.publicKeys)
    (howns : c.Owns ns CredentialMaterial.publicKeys before v owner) :
    (c.ranging (c.order.first v)).validateEntry ns owners index credential =
      .error (duplicateMaterial (str "Public key") owner credential.username) := by
  rw [validateEntry_eq hof, hm]
  have hclaim : (c.ranging (c.order.first v)).claimMaterial (str "Public key") owners.publicKeyOwners
      m.publicKeys credential.username
      = .error (duplicateMaterial (str "Public key") owner credential.username) :=
    claimMaterial_of_first (c.order.keys_first hv) ((hof.publicKeys v owner).mpr howns) (ne_of_owns hm howns)
  obtain ⟨passwordOwners, hpasswords, -⟩ | ⟨first, -, -, v', hv', hfirst⟩ :=
    claimMaterial_cases (c.ranging (c.order.first v)) (str "Password") credential.username
      owners.passwordOwners m.passwords
  · simp only [bind, Except.bind, hpasswords, hclaim]
  · exact absurd ((hof.passwords v' first).mp hfirst) (hnone v' hv' first)

end AccessStatusController

/-- Two refusals with the same text name the same first owner. -/
theorem render_duplicateMaterial_inj {quote : GoString → GoString}
    (hquote : Function.Injective quote) {kind first first' second : GoString}
    (h : Message.render quote (duplicateMaterial kind first second).message
      = Message.render quote (duplicateMaterial kind first' second).message) : first = first' := by
  simp only [Message.render, duplicateMaterial, List.flatMap_cons, List.flatMap_nil,
    List.append_cancel_left_eq] at h
  exact hquote (List.append_cancel_right h)

/-- Two orders that come to the same verdict have found the same owner. -/
theorem StatusController.owner_eq_of_verdict_eq {c : StatusController} {access : Access}
    {before : List AccessCredential} {credential : AccessCredential} {m : CredentialMaterial}
    (hreaches : c.Reaches access before credential m) (kind : GoString) {owner owner' : GoString}
    {order order' : RangeOrder}
    (hentry : ∀ owners : Owners, owners.Of c.toAccessStatusController access.ns before →
      (c.ranging order).validateEntry access.ns owners before.length credential
        = .error (duplicateMaterial kind owner credential.username))
    (hentry' : ∀ owners : Owners, owners.Of c.toAccessStatusController access.ns before →
      (c.ranging order').validateEntry access.ns owners before.length credential
        = .error (duplicateMaterial kind owner' credential.username))
    (hsame : c.verdict access order = c.verdict access order') : owner = owner' := by
  unfold StatusController.verdict at hsame
  rw [AccessStatusController.validateAccess_of_reaches hreaches hentry,
    AccessStatusController.validateAccess_of_reaches hreaches hentry', Prod.mk.injEq,
    Prod.mk.injEq] at hsame
  exact render_duplicateMaterial_inj c.quote_injective hsame.2.2

/-- After one sync has stored its status, the later syncs of an unchanged Access write nothing
exactly if the entry at which shared material ends the validation shares it with one earlier entry
only. -/
theorem status_sync_converges_iff (c : StatusController) (access : Access) :
    c.Converges access ↔ c.toAccessStatusController.OneOwner access := by
  rw [StatusController.converges_iff_verdict]
  constructor
  · intro h
    refine ⟨fun hreaches v hv v' hv' owner owner' howns howns' => ?_,
      fun hreaches hnone v hv v' hv' owner owner' howns howns' => ?_⟩
    · refine StatusController.owner_eq_of_verdict_eq hreaches (str "Password")
        (fun owners hof => ?_) (fun owners hof => ?_) (h (c.order.first v) (c.order.first v'))
      · exact AccessStatusController.validateEntry_sharedPassword hof hreaches.material hv howns
      · exact AccessStatusController.validateEntry_sharedPassword hof hreaches.material hv' howns'
    · refine StatusController.owner_eq_of_verdict_eq hreaches (str "Public key")
        (fun owners hof => ?_) (fun owners hof => ?_) (h (c.order.first v) (c.order.first v'))
      · exact AccessStatusController.validateEntry_sharedPublicKey hof hreaches.material hnone hv howns
      · exact AccessStatusController.validateEntry_sharedPublicKey hof hreaches.material hnone hv' howns'
  · intro hone order later
    unfold StatusController.verdict
    rw [AccessStatusController.validateAccess_same hone order later]

/-- The password of `alice` and the password of `bob` both belong to `carol` as well. -/
def sharedSpec : AccessSpec where
  credentials :=
    [{ username := str "alice", passwords := [str "red"] },
     { username := str "bob", passwords := [str "blue"] },
     { username := str "carol", passwords := [str "red", str "blue"] }]

/-- The first condition of the type is replaced, and keeps its transition time if its status is
unchanged; if there is none the new one is appended. -/
def replaceCondition : List Condition → Condition → List Condition
  | [], new => [new]
  | condition :: rest, new =>
    if condition.type = new.type then
      { new with
        lastTransitionTime := if condition.status = new.status then condition.lastTransitionTime
          else new.lastTransitionTime } :: rest
    else condition :: replaceCondition rest new

theorem findStatusCondition_replace_self (conditions : List Condition) (new : Condition) :
    (findStatusCondition (replaceCondition conditions new) new.type).map Condition.untimed
      = some new.untimed := by
  induction conditions with
  | nil => simp [replaceCondition, findStatusCondition]
  | cons condition rest ih =>
    rw [replaceCondition]
    split
    · simp [findStatusCondition, Condition.untimed]
    · rename_i hne
      rw [findStatusCondition, List.find?_cons_of_neg (by simpa using hne)]
      exact ih

theorem findStatusCondition_replace_of_ne (conditions : List Condition) {new : Condition}
    {type : GoString} (hne : type ≠ new.type) :
    findStatusCondition (replaceCondition conditions new) type
      = findStatusCondition conditions type := by
  induction conditions with
  | nil => simp [replaceCondition, findStatusCondition, hne.symm]
  | cons condition rest ih =>
    rw [replaceCondition]
    split
    · rename_i heq
      simp [findStatusCondition, heq, hne.symm]
    · by_cases htype : condition.type = type
      · simp [findStatusCondition, htype]
      · simpa [findStatusCondition, htype] using ih

theorem replaceCondition_eq_self {conditions : List Condition} {new : Condition}
    (h : (findStatusCondition conditions new.type).map Condition.untimed = some new.untimed) :
    replaceCondition conditions new = conditions := by
  induction conditions with
  | nil => cases h
  | cons condition rest ih =>
    rw [replaceCondition]
    by_cases htype : condition.type = new.type
    · rw [findStatusCondition, List.find?_cons_of_pos (by simpa using htype)] at h
      have huntimed := Option.some.inj h
      simp only [Condition.untimed, Condition.mk.injEq] at huntimed
      obtain ⟨-, hstatus, hgeneration, hreason, hmessage, -⟩ := huntimed
      rw [if_pos htype, if_pos hstatus, ← htype, ← hstatus, ← hgeneration, ← hreason, ← hmessage]
    · rw [findStatusCondition, List.find?_cons_of_neg (by simpa using htype)] at h
      rw [if_neg htype, ih h]

def replacingSetter : ConditionSetter where
  set := replaceCondition
  find_self := findStatusCondition_replace_self
  find_of_ne conditions _ _ := findStatusCondition_replace_of_ne conditions
  eq_self _ _ := replaceCondition_eq_self

/-- A controller without Pods and Secrets that prints `%q` as the bytes between quotation marks. -/
noncomputable def plainController : StatusController where
  toAccessStatusController := plainValidator anyOrder
  pods := none
  setter := replacingSetter
  quote s := s
  quote_injective := Function.injective_id

/-- A sync that comes to `red` first stores that `alice` and `carol` share a password; a later one
that comes to `blue` first replaces the message. -/
theorem status_sync_rewrites_shared :
    plainController.sync (boxAccess sharedSpec)
      (plainController.syncStored (boxAccess sharedSpec) {} ⟨anyOrder.first (str "red"), 0, 0⟩)
      ⟨anyOrder.first (str "blue"), 0, 0⟩ ≠ none := by
  have hreaches : plainController.Reaches (boxAccess sharedSpec)
      [{ username := str "alice", passwords := [str "red"] },
        { username := str "bob", passwords := [str "blue"] }]
      { username := str "carol", passwords := [str "red", str "blue"] }
      ⟨{str "red", str "blue"}, ∅⟩ := by
    exact ⟨⟨[], rfl⟩, ⟨_, bind_eq_ok_iff.mpr
      ⟨_, validateEntry_onePassword (v := str "red") (by decide) (by decide) rfl rfl rfl,
        bind_eq_ok_iff.mpr
          ⟨_, validateEntry_onePassword (v := str "blue") (by decide) (by decide) rfl rfl rfl, rfl⟩⟩⟩,
      rfl⟩
  have halice : plainController.Owns (str "team") CredentialMaterial.passwords
      [{ username := str "alice", passwords := [str "red"] },
        { username := str "bob", passwords := [str "blue"] }] (str "red") (str "alice") :=
    ⟨_, List.mem_cons_self, rfl, 0, ⟨{str "red"}, ∅⟩, rfl, Finset.mem_singleton_self _⟩
  have hbob : plainController.Owns (str "team") CredentialMaterial.passwords
      [{ username := str "alice", passwords := [str "red"] },
        { username := str "bob", passwords := [str "blue"] }] (str "blue") (str "bob") :=
    ⟨_, List.mem_cons_of_mem _ List.mem_cons_self, rfl, 0, ⟨{str "blue"}, ∅⟩, rfl,
      Finset.mem_singleton_self _⟩
  rw [Ne, StatusController.sync_eq_none_iff, StatusController.syncStored_eq_statusFor,
    StatusController.statusFor_statusFor_iff]
  intro hsame
  have howner : str "alice" = str "bob" :=
    StatusController.owner_eq_of_verdict_eq hreaches (str "Password")
      (fun owners hof => AccessStatusController.validateEntry_sharedPassword hof hreaches.material
        (Finset.mem_insert_self _ _) halice)
      (fun owners hof => AccessStatusController.validateEntry_sharedPassword hof hreaches.material
        (Finset.mem_insert_of_mem (Finset.mem_singleton_self _)) hbob) hsame
  exact absurd howner (by decide)

end KubeSsh.AccessPolicy

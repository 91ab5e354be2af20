import KubeSsh.AccessPolicy.Credentials

/-!
# `pkg/accesspolicy`: authentication stays in one namespace

Objects of all namespaces share the key space of the indexers, and the keys that the matchers look
up are built from what the client sends and from the names that the author of an Access chose. Every
key starts with the namespace of the user name, though, and two names without slashes are recovered
from their key. So authentication reads no object of another namespace: caches that agree on one
namespace give the same results for its user names.
-/

namespace KubeSsh.AccessPolicy

open Strings

/-- Two Secret indexers have the same Secrets in a namespace. -/
def SecretIndexer.AgreeOn (ns : GoString) (a b : SecretIndexer) : Prop :=
  ∀ secret : Secret, secret.ns = ns →
    (a.secrets.lookup (accessKey ns secret.name) = some secret ↔
      b.secrets.lookup (accessKey ns secret.name) = some secret)

/-- Two states of a cache have the same objects in a namespace. -/
structure PolicyCache.AgreeOn (ns : GoString) (a b : PolicyCache) : Prop where
  /-- They are states of one cache. -/
  options : a.ns = b.ns ∧ a.gatewayClassName = b.gatewayClassName
  accesses : ∀ access : Access, access.ns = ns →
    (a.accessIndexer.lookup (accessKey ns access.name) = some access ↔
      b.accessIndexer.lookup (accessKey ns access.name) = some access)
  secrets : Option.Rel (SecretIndexer.AgreeOn ns) a.secretIndexer b.secretIndexer

/-- A lookup under a key that starts with a namespace only finds objects of that namespace, so
indexers with the same objects of the namespace answer alike. -/
theorem lookup_eq_of_agree {V : Type} {nsOf nameOf : V → GoString} {a b : GoMap V}
    (ha : ∀ {key : GoString} {v : V}, a.lookup key = some v →
      key = accessKey (nsOf v) (nameOf v) ∧ SlashFree (nsOf v) ∧ SlashFree (nameOf v))
    (hb : ∀ {key : GoString} {v : V}, b.lookup key = some v →
      key = accessKey (nsOf v) (nameOf v) ∧ SlashFree (nsOf v) ∧ SlashFree (nameOf v))
    {ns : GoString} (hagree : ∀ v, nsOf v = ns →
      (a.lookup (accessKey ns (nameOf v)) = some v ↔ b.lookup (accessKey ns (nameOf v)) = some v))
    (name : GoString) : a.lookup (accessKey ns name) = b.lookup (accessKey ns name) := by
  have hname : ∀ {v : V}, accessKey ns name = accessKey (nsOf v) (nameOf v) ∧ SlashFree (nsOf v) ∧
      SlashFree (nameOf v) → nsOf v = ns ∧ nameOf v = name := by
    rintro v ⟨hkey, hns, hname⟩
    obtain ⟨hns', hname'⟩ := accessKey_inj hns hname hkey.symm
    exact ⟨hns'.symm, hname'.symm⟩
  refine Option.ext fun v => ⟨fun h => ?_, fun h => ?_⟩
  · obtain ⟨hns, rfl⟩ := hname (ha h)
    exact (hagree v hns).mp h
  · obtain ⟨hns, rfl⟩ := hname (hb h)
    exact (hagree v hns).mpr h

section Agree

variable {ns : GoString} {a b : PolicyCache} (h : a.AgreeOn ns b)
include h

theorem get_eq_of_agree (name : GoString) : a.get ns name = b.get ns name := by
  have haccept : a.acceptAccess = b.acceptAccess := by
    funext access
    unfold PolicyCache.acceptAccess
    rw [h.options.1, h.options.2]
  unfold PolicyCache.get
  rw [h.options.1, haccept, lookup_eq_of_agree (fun h => a.keyed h) (fun h => b.keyed h) h.accesses]

theorem secretValue_eq_of_agree (ref : LocalSecretKeyRef) :
    a.secretValue ns ref = b.secretValue ns ref := by
  unfold PolicyCache.secretValue readSecret
  cases ha : a.secretIndexer with
  | none =>
    cases hb : b.secretIndexer with
    | none => rfl
    | some t =>
      have hsecrets := h.secrets
      rw [ha, hb] at hsecrets
      cases hsecrets
  | some s =>
    cases hb : b.secretIndexer with
    | none =>
      have hsecrets := h.secrets
      rw [ha, hb] at hsecrets
      cases hsecrets
    | some t =>
      have hsecrets := h.secrets
      rw [ha, hb] at hsecrets
      obtain ⟨hagree⟩ := hsecrets
      dsimp only
      rw [lookup_eq_of_agree (fun h => s.keyed h) (fun h => t.keyed h) hagree]

theorem run_resolveAccessLocator_eq_of_agree {sshUser rest : GoString}
    (hcut : cut Byte.dot sshUser = some (ns, rest)) :
    (resolveAccessLocator sshUser).run (fun _ => a.store) 0 =
      (resolveAccessLocator sshUser).run (fun _ => b.store) 0 := by
  have hget : ∀ name n, (getAccess ns name).run (fun _ => a.store) n =
      (getAccess ns name).run (fun _ => b.store) n := fun name _ => get_eq_of_agree h name
  have hcontainer : ∀ n, (resolveAccessContainerLocator ns rest).run (fun _ => a.store) n =
      (resolveAccessContainerLocator ns rest).run (fun _ => b.store) n := by
    intro n
    unfold resolveAccessContainerLocator
    split
    · rfl
    split
    · rfl
    · rw [Reads.run_bind, Reads.run_bind, hget]
      rfl
  unfold resolveAccessLocator
  rw [hcut]
  dsimp only
  split
  · rfl
  split
  · split
    · rfl
    · rw [Reads.run_bind, Reads.run_bind, hget]
      rfl
  · rw [Reads.run_bind, Reads.run_bind, hget]
    cases (getAccess ns rest).run (fun _ => b.store) 0 with
    | ok access => rfl
    | error err =>
      cases err with
      | notFound => exact hcontainer 1
      | other => rfl

/-- What the matchers do with the material of the entries of the namespace is the same. -/
theorem matchMaterial_eq_of_agree {sshUser rest : GoString}
    (hcut : cut Byte.dot sshUser = some (ns, rest)) (kind value : GoString)
    {material material' : GoString → AccessCredential → Except Message (Finset GoString)}
    (hmaterial : ∀ credential, material ns credential = material' ns credential) :
    a.matchMaterial kind material sshUser value = b.matchMaterial kind material' sshUser value := by
  unfold PolicyCache.matchMaterial
  rw [run_resolveAccessLocator_eq_of_agree h hcut]
  cases hlocated : (resolveAccessLocator sshUser).run (fun _ => b.store) 0 with
  | error err => rfl
  | ok located =>
    rcases located with _ | ⟨locator, access⟩
    · rfl
    have hns : access.ns = ns := ns_of_reading (reading_of_resolveAccessLocator hlocated) hcut
    dsimp only
    rw [hns]
    simp only [hmaterial]

theorem credentialPasswords_eq_of_agree (credential : AccessCredential) :
    a.credentialPasswords ns credential = b.credentialPasswords ns credential := by
  unfold PolicyCache.credentialPasswords
  simp only [secretValue_eq_of_agree h]

theorem credentialPublicKeys_eq_of_agree (keys : CryptoSsh.Keys) (credential : AccessCredential) :
    a.credentialPublicKeys keys ns credential = b.credentialPublicKeys keys ns credential := by
  unfold PolicyCache.credentialPublicKeys
  simp only [secretValue_eq_of_agree h]

end Agree

/-- Two states of a cache that agree on a namespace, and may differ in every other, give the same
authentication methods and the same result for every credential, for all user names of the
namespace. -/
theorem authentication_reads_own_namespace {ns : GoString} {a b : PolicyCache} (h : a.AgreeOn ns b)
    {sshUser rest : GoString} (hcut : cut Byte.dot sshUser = some (ns, rest)) :
    (authenticationMethods sshUser).run (fun _ => a.store) 0 =
        (authenticationMethods sshUser).run (fun _ => b.store) 0 ∧
      (∀ token, a.matchPassword sshUser token = b.matchPassword sshUser token) ∧
      ∀ (keys : CryptoSsh.Keys) (key : Option keys.PublicKey),
        a.matchPublicKey keys sshUser key = b.matchPublicKey keys sshUser key := by
  refine ⟨?_, fun token => ?_, fun keys key => ?_⟩
  · unfold authenticationMethods
    rw [Reads.run_bind, Reads.run_bind, run_resolveAccessLocator_eq_of_agree h hcut]
    rcases (resolveAccessLocator sshUser).run (fun _ => b.store) 0 with err | _ | ⟨_, access⟩ <;> rfl
  · unfold PolicyCache.matchPassword
    split
    · rfl
    · exact matchMaterial_eq_of_agree h hcut _ _ (credentialPasswords_eq_of_agree h)
  · cases key with
    | none => rfl
    | some key =>
      exact matchMaterial_eq_of_agree h hcut _ _ (credentialPublicKeys_eq_of_agree h keys)

theorem slashFree_other : SlashFree (str "other") := show Byte.slash ∉ str "other" by decide

/-- `team/box` next to an Access of the same name and the same passwords in another namespace. -/
def sharedCache : PolicyCache :=
  (boxCache (twoUsers (str "bob")) none).add
    { ns := str "other", name := str "box", spec := twoUsers (str "eve") } slashFree_other slashFree_box

/-- The Access of the other namespace does not change whom the password `blue` authenticates. -/
theorem authentication_with_shared_password :
    (boxCache (twoUsers (str "bob")) none).AgreeOn (str "team") sharedCache ∧
      sharedCache.matchPassword (str "team.box") (str "blue") = .ok (secondEntry (str "bob")) := by
  have hagree : (boxCache (twoUsers (str "bob")) none).AgreeOn (str "team") sharedCache := by
    refine ⟨⟨rfl, rfl⟩, fun access _ => ?_, .none⟩
    have hkey : accessKey (str "team") access.name ≠ accessKey (str "other") (str "box") := by
      intro hkey
      have hhead := congrArg List.head? hkey
      cases hhead
    have hlookup : sharedCache.accessIndexer.lookup (accessKey (str "team") access.name) =
        (boxCache (twoUsers (str "bob")) none).accessIndexer.lookup _ := AList.lookup_insert_ne hkey
    rw [hlookup]
  have hcut : cut Byte.dot (str "team.box") = some (str "team", str "box") := by decide
  refine ⟨hagree, ?_⟩
  rw [← (authentication_reads_own_namespace hagree hcut).2.1]
  rfl

end KubeSsh.AccessPolicy

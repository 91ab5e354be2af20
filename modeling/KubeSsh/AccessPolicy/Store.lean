import KubeSsh.Common.Reads
import KubeSsh.Objects

/-!
# `pkg/accesspolicy`: the Access store

`Store` is one state of an `AccessGetter`. It answers a lookup with the object of that namespace and
name, or says that there is none, or fails. `PolicyCache` is the informer cache behind it in a
running gateway: objects under the key `namespace/name`, seen through a namespace and a gateway
class.

The store changes while a connection is being set up, so code that looks objects up is written in
`Reads Store`.
-/

namespace KubeSsh.AccessPolicy

open Strings

/-- Why `Get` fails: `ErrAccessNotFound`, or anything else. -/
inductive GetError
  | notFound (ns name : GoString)
  | other (message : Message)
deriving DecidableEq

/-- The text of a lookup failure (`policy_cache.go:41`). -/
def GetError.message : GetError → Message
  | .notFound ns name =>
    [.bytes (str "access not found: "), .bytes ns, .bytes (str "/"), .bytes name]
  | .other message => message

/-- One state of an `AccessGetter`. A lookup returns the object with exactly the namespace and name
that were asked for. -/
structure Store where
  get : GoString → GoString → Except GetError Access
  get_identity : ∀ {ns name : GoString} {access : Access},
    get ns name = .ok access → access.ns = ns ∧ access.name = name

/-- `AccessGetter.Get` as a step of a longer computation. -/
def getAccess (ns name : GoString) : Reads Store (Except GetError Access) :=
  Reads.read fun store => store.get ns name

@[simp]
theorem run_getAccess (ns name : GoString) (history : ℕ → Store) (n : ℕ) :
    (getAccess ns name).run history n = (history n).get ns name := rfl

/-- `accessKey` (`store.go:65-67`). -/
def accessKey (ns name : GoString) : GoString := ns ++ Byte.slash :: name

/-- A name without slashes, as the API server admits. -/
def SlashFree (s : GoString) : Prop := Byte.slash ∉ s

instance : DecidablePred SlashFree := fun s => inferInstanceAs (Decidable (Byte.slash ∉ s))

/-- The key of an object determines its namespace and name. -/
theorem accessKey_inj {ns name ns' name' : GoString} (hns : SlashFree ns) (hname : SlashFree name)
    (h : accessKey ns name = accessKey ns' name') : ns' = ns ∧ name' = name :=
  append_cons_inj_of_notMem hns hname h

/-! ## The informer cache -/

/-- The Secrets of an informer, by key. Like Access objects they are stored under their own key. -/
structure SecretIndexer where
  secrets : GoMap Secret := ∅
  keyed : ∀ {key : GoString} {secret : Secret}, secrets.lookup key = some secret →
    key = accessKey secret.ns secret.name ∧ SlashFree secret.ns ∧ SlashFree secret.name

/-- The informer adds or replaces a Secret. -/
def SecretIndexer.add (indexer : SecretIndexer) (secret : Secret) (hns : SlashFree secret.ns)
    (hname : SlashFree secret.name) : SecretIndexer where
  secrets := indexer.secrets.insert (accessKey secret.ns secret.name) secret
  keyed := by
    intro key secret' h
    by_cases hkey : key = accessKey secret.ns secret.name
    · subst hkey
      rw [AList.lookup_insert, Option.some.injEq] at h
      subst h
      exact ⟨rfl, hns, hname⟩
    · rw [AList.lookup_insert_ne hkey] at h
      exact indexer.keyed h

/-- `PolicyCache`. The objects in its indexer are stored under their own key and have the names the
API server admits. -/
structure PolicyCache where
  /-- The objects of `accessIndexer`, by key. -/
  accessIndexer : GoMap Access
  /-- `secretIndexer`, which may be nil. -/
  secretIndexer : Option SecretIndexer := none
  ns : GoString := []
  gatewayClassName : GoString := []
  keyed : ∀ {key : GoString} {access : Access}, accessIndexer.lookup key = some access →
    key = accessKey access.ns access.name ∧ SlashFree access.ns ∧ SlashFree access.name

namespace PolicyCache

/-- An empty cache. -/
def empty (ns gatewayClassName : GoString) : PolicyCache where
  accessIndexer := ∅
  ns := ns
  gatewayClassName := gatewayClassName
  keyed h := by cases h

/-- The informer adds or replaces an object. -/
def add (cache : PolicyCache) (access : Access) (hns : SlashFree access.ns)
    (hname : SlashFree access.name) : PolicyCache where
  accessIndexer := cache.accessIndexer.insert (accessKey access.ns access.name) access
  secretIndexer := cache.secretIndexer
  ns := cache.ns
  gatewayClassName := cache.gatewayClassName
  keyed := by
    intro key access' h
    by_cases hkey : key = accessKey access.ns access.name
    · subst hkey
      rw [AList.lookup_insert, Option.some.injEq] at h
      subst h
      exact ⟨rfl, hns, hname⟩
    · rw [AList.lookup_insert_ne hkey] at h
      exact cache.keyed h

/-- The informer removes an object. -/
def delete (cache : PolicyCache) (ns name : GoString) : PolicyCache where
  accessIndexer := cache.accessIndexer.erase (accessKey ns name)
  secretIndexer := cache.secretIndexer
  ns := cache.ns
  gatewayClassName := cache.gatewayClassName
  keyed := by
    intro key access' h
    by_cases hkey : key = accessKey ns name
    · subst hkey
      rw [AList.lookup_erase] at h
      cases h
    · rw [AList.lookup_erase_ne hkey] at h
      exact cache.keyed h

/-- `PolicyCache.acceptAccess` (`policy_cache.go:214-219`). -/
def acceptAccess (cache : PolicyCache) (access : Access) : Bool :=
  if cache.ns ≠ [] ∧ access.ns ≠ cache.ns then false
  else access.spec.gatewayClassName.getD [] = cache.gatewayClassName

/-- `PolicyCache.Get` (`policy_cache.go:37-59`). -/
def get (cache : PolicyCache) (ns name : GoString) : Except GetError Access :=
  if cache.ns ≠ [] ∧ ns ≠ cache.ns then .error (.notFound ns name)
  else match cache.accessIndexer.lookup (accessKey ns name) with
    | none => .error (.notFound ns name)
    | some access => if cache.acceptAccess access then .ok access else .error (.notFound ns name)

theorem get_identity (cache : PolicyCache) {ns name : GoString} {access : Access}
    (h : cache.get ns name = .ok access) : access.ns = ns ∧ access.name = name := by
  unfold get at h
  split at h
  · cases h
  split at h
  · cases h
  rename_i found hfound
  split at h
  · obtain rfl := Except.ok.inj h
    obtain ⟨hkey, hns, hname⟩ := cache.keyed hfound
    obtain ⟨rfl, rfl⟩ := accessKey_inj hns hname hkey.symm
    exact ⟨rfl, rfl⟩
  · cases h

/-- A cache is a store. -/
def store (cache : PolicyCache) : Store where
  get := cache.get
  get_identity := cache.get_identity

end PolicyCache

/-! ## The cache over time -/

/-- What the informer reports: objects with the names the API server admits. -/
inductive InformerEvent
  | stored (access : Access) (hns : SlashFree access.ns) (hname : SlashFree access.name)
  | deleted (ns name : GoString) (hns : SlashFree ns) (hname : SlashFree name)

/-- The cache handles an event. -/
def PolicyCache.handle (cache : PolicyCache) : InformerEvent → PolicyCache
  | .stored access hns hname => cache.add access hns hname
  | .deleted ns name _ _ => cache.delete ns name

/-- The objects of a cluster, by namespace and name. -/
abbrev Objects := GoString → GoString → Option Access

/-- What an event says about the cluster. -/
def Objects.handle (objects : Objects) : InformerEvent → Objects
  | .stored access _ _ => fun ns name =>
    if ns = access.ns ∧ name = access.name then some access else objects ns name
  | .deleted ns' name' _ _ => fun ns name => if ns = ns' ∧ name = name' then none else objects ns name

/-- The cache holds the objects, and nothing else under their names. -/
def PolicyCache.Holds (cache : PolicyCache) (objects : Objects) : Prop :=
  ∀ ns name, SlashFree ns → SlashFree name →
    cache.accessIndexer.lookup (accessKey ns name) = objects ns name

theorem PolicyCache.Holds.handle {cache : PolicyCache} {objects : Objects} (h : cache.Holds objects)
    (event : InformerEvent) : (cache.handle event).Holds (objects.handle event) := by
  intro ns name hns hname
  cases event with
  | stored access hns' hname' =>
    by_cases hkey : accessKey ns name = accessKey access.ns access.name
    · obtain ⟨hns, hname⟩ := accessKey_inj hns hname hkey
      unfold Objects.handle
      dsimp only
      rw [if_pos ⟨hns.symm, hname.symm⟩, hkey]
      exact AList.lookup_insert _
    · unfold Objects.handle
      dsimp only
      rw [if_neg fun hsame => hkey (by rw [hsame.1, hsame.2]), ← h ns name hns hname]
      exact AList.lookup_insert_ne hkey
  | deleted ns' name' hns' hname' =>
    by_cases hkey : accessKey ns name = accessKey ns' name'
    · obtain ⟨hns, hname⟩ := accessKey_inj hns hname hkey
      unfold Objects.handle
      dsimp only
      rw [if_pos ⟨hns.symm, hname.symm⟩, hkey]
      exact AList.lookup_erase _ _
    · unfold Objects.handle
      dsimp only
      rw [if_neg fun hsame => hkey (by rw [hsame.1, hsame.2]), ← h ns name hns hname]
      exact AList.lookup_erase_ne hkey

theorem PolicyCache.Holds.run {cache : PolicyCache} {objects : Objects} (h : cache.Holds objects)
    (events : List InformerEvent) :
    (events.foldl PolicyCache.handle cache).Holds (events.foldl Objects.handle objects) := by
  induction events generalizing cache objects with
  | nil => exact h
  | cons event events ih => exact ih (h.handle event)

theorem PolicyCache.run_scope (cache : PolicyCache) (events : List InformerEvent) :
    (events.foldl PolicyCache.handle cache).ns = cache.ns ∧
      (events.foldl PolicyCache.handle cache).gatewayClassName = cache.gatewayClassName := by
  induction events generalizing cache with
  | nil => exact ⟨rfl, rfl⟩
  | cons event events ih =>
    have hstep : (cache.handle event).ns = cache.ns ∧
        (cache.handle event).gatewayClassName = cache.gatewayClassName := by
      cases event <;> exact ⟨rfl, rfl⟩
    exact ⟨(ih _).1.trans hstep.1, (ih _).2.trans hstep.2⟩

end KubeSsh.AccessPolicy

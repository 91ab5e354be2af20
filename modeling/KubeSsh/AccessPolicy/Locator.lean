import KubeSsh.AccessPolicy.Authorizer
import KubeSsh.Target

/-!
# `pkg/accesspolicy`: locating the Access of a connection

An SSH user name is `namespace.access`, optionally followed by `.container`, `~pod` or
`~pod.container`. Before authentication, and for callers without an Access identity, the Access is
found by trying readings of the name against the store (`resolveAccessLocator`). A caller that an
Access authenticated must name that Access (`parseAccessLocatorFor`).
-/

namespace KubeSsh.AccessPolicy

open Strings Target

/-- `accessLocator` (`resolver.go:29-34`). -/
structure AccessLocator where
  ns : GoString
  access : GoString
  pod : GoString := []
  container : GoString := []
deriving DecidableEq

/-- What locating an Access returns: an error, nothing (`provided` is false), or the locator and the
Access. -/
abbrev Located := Except ResolveError (Option (AccessLocator × Access))

/-- A lookup at the end of a locator: an Access that does not exist is not provided. -/
def locate (locator : AccessLocator) : Except GetError Access → Located
  | .ok access => .ok (some (locator, access))
  | .error (.notFound _ _) => .ok none
  | .error (.other message) => .error (.other message)

/-- `resolveAccessContainerLocator` (`resolver.go:170-184`). -/
def resolveAccessContainerLocator (ns remainder : GoString) : Reads Store Located :=
  match cutLast Byte.dot remainder with
  | none => return .ok none
  | some (name, container) =>
    if name = [] ∨ container = [] then return .ok none
    else return locate { ns, access := name, container } (← getAccess ns name)

/-- `resolveAccessLocator` (`resolver.go:142-168`). -/
def resolveAccessLocator (sshUser : GoString) : Reads Store Located :=
  match cut Byte.dot sshUser with
  | none => return .ok none
  | some (ns, remainder) =>
    if ns = [] ∨ remainder = [] then return .ok none
    else match cut Byte.tilde remainder with
      | some (name, pod) =>
        if name = [] ∨ pod = [] then return .ok none
        else return locate { ns, access := name, pod } (← getAccess ns name)
      | none => do
        match ← getAccess ns remainder with
        | .error (.notFound _ _) => resolveAccessContainerLocator ns remainder
        | result => return locate { ns, access := remainder } result

/-- `parseAccessLocatorFor` (`resolver.go:186-200`). -/
def parseAccessLocatorFor (sshUser ns name : GoString) : Option AccessLocator :=
  let access := ns ++ Byte.dot :: name
  if sshUser = access then some { ns, access := name }
  else if (access ++ [Byte.tilde]).isPrefixOf sshUser then
    let pod := sshUser.drop (access.length + 1)
    if pod ≠ [] then some { ns, access := name, pod } else none
  else if (access ++ [Byte.dot]).isPrefixOf sshUser then
    let container := sshUser.drop (access.length + 1)
    if container ≠ [] ∧ Byte.dot ∉ container then some { ns, access := name, container } else none
  else none

/-- `resolveRequestedAccess` (`resolver.go:116-137`). -/
def resolveRequestedAccess (sshUser : GoString) (extra : GoMap (List GoString)) :
    Reads Store Located :=
  let authNamespace := getExtra extra extraAccessNamespace
  let authName := getExtra extra extraAccessName
  if authNamespace ≠ [] ∨ authName ≠ [] then
    if authNamespace = [] ∨ authName = [] then
      return .error (.badRequest (.text "authenticated access identity is incomplete"))
    else match parseAccessLocatorFor sshUser authNamespace authName with
      | none =>
        return .error (.badRequest [.bytes (str "target "), .quoted sshUser,
          .bytes (str " does not match authenticated access "), .bytes authNamespace,
          .bytes (str "/"), .bytes authName])
      | some locator => return locate locator (← getAccess authNamespace authName)
  else resolveAccessLocator sshUser

/-! ## The readings of a user name -/

variable {locator : AccessLocator} {access : Access} {n : ℕ} {sshUser : GoString}
  {history : ℕ → Store} {extra : GoMap (List GoString)}

theorem locate_eq_some {locator' : AccessLocator} {result : Except GetError Access}
    (h : locate locator result = .ok (some (locator', access))) :
    locator' = locator ∧ result = .ok access := by
  cases result with
  | ok found =>
    obtain ⟨rfl, rfl⟩ := Prod.mk.inj (Option.some.inj (Except.ok.inj h))
    exact ⟨rfl, rfl⟩
  | error err =>
    cases err with
    | notFound => cases Except.ok.inj h
    | other => cases h

theorem locate_ne_notProvided (locator : AccessLocator) (result : Except GetError Access) :
    locate locator result ≠ .error .notProvided := by
  rcases result with (_ | _) | _ <;> simp [locate]

/-- Locating an Access fails with an error of its own. -/
theorem resolveAccessLocator_ne_notProvided (sshUser : GoString) (history : ℕ → Store) (n : ℕ) :
    (resolveAccessLocator sshUser).run history n ≠ .error .notProvided := by
  have hnone : (Except.ok none : Located) ≠ .error .notProvided := by simp
  unfold resolveAccessLocator
  split
  · exact hnone
  split
  · exact hnone
  split
  · split
    · exact hnone
    · exact locate_ne_notProvided _ _
  · rw [Reads.run_bind, run_getAccess]
    split
    · unfold resolveAccessContainerLocator
      split
      · exact hnone
      split
      · exact hnone
      · exact locate_ne_notProvided _ _
    · exact locate_ne_notProvided _ _

theorem resolveRequestedAccess_ne_notProvided (sshUser : GoString) (extra : GoMap (List GoString))
    (history : ℕ → Store) (n : ℕ) :
    (resolveRequestedAccess sshUser extra).run history n ≠ .error .notProvided := by
  have hbad : ∀ message, (.error (.badRequest message) : Located) ≠ .error .notProvided := by simp
  unfold resolveRequestedAccess
  dsimp only
  split
  · split
    · exact hbad _
    split
    · exact hbad _
    · exact locate_ne_notProvided _ _
  · exact resolveAccessLocator_ne_notProvided sshUser history n

/-- The readings of a user name, by the form of the locator, for reads from the `n`-th on. An exact
name wins over a container; a tilde always starts the Pod part. -/
inductive Reading (history : ℕ → Store) (n : ℕ) (sshUser : GoString) :
    AccessLocator → Access → Prop
  | exact {ns name : GoString} {access : Access} :
      sshUser = ns ++ Byte.dot :: name → Byte.dot ∉ ns → ns ≠ [] → name ≠ [] →
      Byte.tilde ∉ name → (history n).get ns name = .ok access →
      Reading history n sshUser { ns, access := name } access
  | container {ns name container ns' name' : GoString} {access : Access} :
      sshUser = ns ++ Byte.dot :: (name ++ Byte.dot :: container) → Byte.dot ∉ ns → ns ≠ [] →
      name ≠ [] → container ≠ [] → Byte.dot ∉ container →
      Byte.tilde ∉ name ++ Byte.dot :: container →
      (history n).get ns (name ++ Byte.dot :: container) = .error (.notFound ns' name') →
      (history (n + 1)).get ns name = .ok access →
      Reading history n sshUser { ns, access := name, container } access
  | pod {ns name pod : GoString} {access : Access} :
      sshUser = ns ++ Byte.dot :: (name ++ Byte.tilde :: pod) → Byte.dot ∉ ns → ns ≠ [] →
      name ≠ [] → pod ≠ [] → Byte.tilde ∉ name → (history n).get ns name = .ok access →
      Reading history n sshUser { ns, access := name, pod } access

/-- On an unchanging store, the Access of a reading is the one of its own namespace and name. -/
theorem get_of_reading {store : Store} (h : Reading (fun _ => store) n sshUser locator access) :
    store.get access.ns access.name = .ok access := by
  have hidentity : ∀ {ns name : GoString}, store.get ns name = .ok access →
      store.get access.ns access.name = .ok access := by
    intro ns name hget
    obtain ⟨rfl, rfl⟩ := store.get_identity hget
    exact hget
  cases h with
  | exact _ _ _ _ _ hget => exact hidentity hget
  | container _ _ _ _ _ _ _ _ hget => exact hidentity hget
  | pod _ _ _ _ _ _ hget => exact hidentity hget

/-- The Access of a reading is in the namespace before the first dot of the user name. -/
theorem ns_of_reading {ns rest : GoString} (h : Reading history n sshUser locator access)
    (hcut : cut Byte.dot sshUser = some (ns, rest)) : access.ns = ns := by
  have hfirst : ∀ {ns' rest' : GoString}, sshUser = ns' ++ Byte.dot :: rest' → Byte.dot ∉ ns' →
      ns' = ns := by
    intro ns' rest' huser hdot
    have hcut' := cut_eq_some_iff.mpr ⟨huser, hdot⟩
    exact (Prod.mk.inj (Option.some.inj (hcut'.symm.trans hcut))).1
  cases h with
  | exact huser hdot _ _ _ hget => exact (Store.get_identity _ hget).1.trans (hfirst huser hdot)
  | container huser hdot _ _ _ _ _ _ hget =>
    exact (Store.get_identity _ hget).1.trans (hfirst huser hdot)
  | pod huser hdot _ _ _ _ hget => exact (Store.get_identity _ hget).1.trans (hfirst huser hdot)

/-- The last dot of the name separates a container. -/
theorem resolveAccessContainerLocator_eq_some {ns remainder : GoString}
    (h : (resolveAccessContainerLocator ns remainder).run history n = .ok (some (locator, access))) :
    ∃ name container, remainder = name ++ Byte.dot :: container ∧ Byte.dot ∉ container ∧
      name ≠ [] ∧ container ≠ [] ∧ locator = { ns, access := name, container } ∧
      (history n).get ns name = .ok access := by
  unfold resolveAccessContainerLocator at h
  split at h
  · cases Except.ok.inj h
  rename_i name container hlast
  obtain ⟨hremainder, hcontainer⟩ := cutLast_eq_some_iff.mp hlast
  split at h
  · cases Except.ok.inj h
  rename_i hparts
  rw [not_or] at hparts
  obtain ⟨hlocator, hfound⟩ := locate_eq_some h
  exact ⟨name, container, hremainder, hcontainer, hparts.1, hparts.2, hlocator, hfound⟩

/-- Every Access that `resolveAccessLocator` finds is found by one of the readings. -/
theorem reading_of_resolveAccessLocator
    (h : (resolveAccessLocator sshUser).run history n = .ok (some (locator, access))) :
    Reading history n sshUser locator access := by
  unfold resolveAccessLocator at h
  split at h
  · cases Except.ok.inj h
  rename_i ns remainder hcut
  obtain ⟨huser, hdot⟩ := cut_eq_some_iff.mp hcut
  split at h
  · cases Except.ok.inj h
  rename_i hne
  rw [not_or] at hne
  split at h
  · -- an explicit Pod
    rename_i name pod htilde
    obtain ⟨rfl, hname⟩ := cut_eq_some_iff.mp htilde
    split at h
    · cases Except.ok.inj h
    rename_i hparts
    rw [not_or] at hparts
    obtain ⟨rfl, hget⟩ := locate_eq_some h
    exact .pod huser hdot hne.1 hparts.1 hparts.2 hname hget
  · rename_i htilde
    rw [cut_eq_none_iff] at htilde
    rw [Reads.run_bind] at h
    cases hget : (history n).get ns remainder with
    | ok found =>
      have hrun : (getAccess ns remainder).run history n = .ok found := hget
      rw [hrun] at h
      change locate { ns, access := remainder } (.ok found) = _ at h
      obtain ⟨rfl, hfound⟩ := locate_eq_some h
      obtain rfl := Except.ok.inj hfound
      exact .exact huser hdot hne.1 hne.2 htilde hget
    | error err =>
      have hrun : (getAccess ns remainder).run history n = .error err := hget
      rw [hrun] at h
      cases err with
      | other => cases h
      | notFound ns' name' =>
        -- no Access of the whole name
        obtain ⟨name, container, rfl, hcontainer, hname, hne', rfl, hfound⟩ :=
          resolveAccessContainerLocator_eq_some h
        exact .container huser hdot hne.1 hname hne' hcontainer htilde hget hfound

/-- The exact name of an Access locates it. -/
theorem run_resolveAccessLocator_exact {store : Store} {ns name : GoString} {access : Access}
    (hns : ns ≠ []) (hdot : Byte.dot ∉ ns) (hname : name ≠ []) (htilde : Byte.tilde ∉ name)
    (hget : store.get ns name = .ok access) :
    (resolveAccessLocator (ns ++ Byte.dot :: name)).run (fun _ => store) 0
      = .ok (some ({ ns, access := name }, access)) := by
  have hparts : ¬ (ns = [] ∨ name = []) := by
    rw [not_or]
    exact ⟨hns, hname⟩
  unfold resolveAccessLocator
  rw [cut_eq_some_iff.mpr ⟨rfl, hdot⟩]
  dsimp only
  rw [if_neg hparts, cut_eq_none_iff.mpr htilde]
  dsimp only
  rw [Reads.run_bind, run_getAccess, hget]
  rfl

/-- The caller was authenticated by an Access: both parts of its identity are attached. -/
def CarriesAccess (extra : GoMap (List GoString)) : Prop :=
  getExtra extra extraAccessNamespace ≠ [] ∧ getExtra extra extraAccessName ≠ []

instance : DecidablePred CarriesAccess := fun _ => inferInstanceAs (Decidable (_ ∧ _))

/-- With an Access identity there is one lookup, for that Access, if the user name is a locator for
it. -/
theorem run_resolveRequestedAccess_of_carries
    (h : CarriesAccess extra) (sshUser : GoString) (history : ℕ → Store) (n : ℕ) :
    (∃ locator, parseAccessLocatorFor sshUser (getExtra extra extraAccessNamespace)
        (getExtra extra extraAccessName) = some locator ∧
      (resolveRequestedAccess sshUser extra).run history n = locate locator
        ((history n).get (getExtra extra extraAccessNamespace) (getExtra extra extraAccessName))) ∨
    parseAccessLocatorFor sshUser (getExtra extra extraAccessNamespace)
        (getExtra extra extraAccessName) = none ∧
      ∃ message, (resolveRequestedAccess sshUser extra).run history n
        = .error (.badRequest message) := by
  unfold resolveRequestedAccess
  dsimp only
  rw [if_pos (Or.inl h.1), if_neg (by rw [not_or]; exact h)]
  cases parseAccessLocatorFor sshUser (getExtra extra extraAccessNamespace)
    (getExtra extra extraAccessName) with
  | none => exact Or.inr ⟨rfl, _, rfl⟩
  | some locator => exact Or.inl ⟨locator, rfl, rfl⟩

theorem next_resolveRequestedAccess_of_carries (h : CarriesAccess extra)
    (hlocator : parseAccessLocatorFor sshUser (getExtra extra extraAccessNamespace)
      (getExtra extra extraAccessName) = some locator) (history : ℕ → Store) (n : ℕ) :
    (resolveRequestedAccess sshUser extra).next history n = n + 1 := by
  unfold resolveRequestedAccess
  dsimp only
  rw [if_pos (Or.inl h.1), if_neg (by rw [not_or]; exact h), hlocator]
  rfl

/-- A locator for an Access starts with its namespace and a dot. -/
theorem dot_mem_of_parseAccessLocatorFor {ns name : GoString}
    (h : parseAccessLocatorFor sshUser ns name = some locator) :
    Byte.dot ∈ sshUser ∧ locator.ns = ns := by
  have hstarts : ∀ c : UInt8, (ns ++ Byte.dot :: name ++ [c]).isPrefixOf sshUser = true →
      Byte.dot ∈ sshUser := fun c hp =>
    (List.isPrefixOf_iff_prefix.mp hp).subset (by simp)
  unfold parseAccessLocatorFor at h
  dsimp only at h
  split at h
  · rename_i huser
    obtain rfl := Option.some.inj h
    exact ⟨by rw [huser]; simp, rfl⟩
  split at h
  · rename_i hpod
    split at h
    · obtain rfl := Option.some.inj h
      exact ⟨hstarts _ hpod, rfl⟩
    · cases h
  split at h
  · rename_i hcontainer
    split at h
    · obtain rfl := Option.some.inj h
      exact ⟨hstarts _ hcontainer, rfl⟩
    · cases h
  · cases h

/-- Without a complete identity the Access was located by reading the user name. -/
theorem reading_of_located (hcarries : ¬ CarriesAccess extra)
    (h : (resolveRequestedAccess sshUser extra).run history n = .ok (some (locator, access))) :
    getExtra extra extraAccessNamespace = [] ∧ getExtra extra extraAccessName = [] ∧
      Reading history n sshUser locator access := by
  unfold resolveRequestedAccess at h
  dsimp only at h
  split at h
  · split at h
    · cases h
    · rename_i hboth
      rw [not_or] at hboth
      exact absurd hboth hcarries
  · rename_i hnone
    rw [not_or, not_not, not_not] at hnone
    exact ⟨hnone.1, hnone.2, reading_of_resolveAccessLocator h⟩

/-- With an Access identity the Access that is located is the one of that identity. -/
theorem get_of_located (hcarries : CarriesAccess extra)
    (h : (resolveRequestedAccess sshUser extra).run history n = .ok (some (locator, access))) :
    (history n).get (getExtra extra extraAccessNamespace) (getExtra extra extraAccessName) = .ok
      access ∧ locator.ns = getExtra extra extraAccessNamespace := by
  rcases run_resolveRequestedAccess_of_carries hcarries sshUser history n with
    ⟨found, hfound, hrun⟩ | ⟨-, message, hrun⟩
  · rw [hrun] at h
    obtain ⟨rfl, hget⟩ := locate_eq_some h
    exact ⟨hget, (dot_mem_of_parseAccessLocatorFor hfound).2⟩
  · rw [hrun] at h
    cases h

/-- The locator of an Access is in its namespace. -/
theorem ns_of_located
    (h : (resolveRequestedAccess sshUser extra).run history n = .ok (some (locator, access))) :
    locator.ns = access.ns := by
  by_cases hcarries : CarriesAccess extra
  · obtain ⟨hget, hns⟩ := get_of_located hcarries h
    exact hns.trans ((history n).get_identity hget).1.symm
  · obtain ⟨-, -, hreading⟩ := reading_of_located hcarries h
    cases hreading with
    | exact _ _ _ _ _ hget => exact (Store.get_identity _ hget).1.symm
    | container _ _ _ _ _ _ _ _ hget => exact (Store.get_identity _ hget).1.symm
    | pod _ _ _ _ _ _ hget => exact (Store.get_identity _ hget).1.symm

/-! ## The two parsers agree -/

/-- What follows the name of the Access decides how the rest is read. -/
theorem parseAccessLocatorFor_append (ns name : GoString) (c : UInt8) (rest : GoString) :
    parseAccessLocatorFor (ns ++ Byte.dot :: name ++ c :: rest) ns name =
      if c = Byte.tilde then
        if rest ≠ [] then some { ns, access := name, pod := rest } else none
      else if c = Byte.dot then
        if rest ≠ [] ∧ Byte.dot ∉ rest then some { ns, access := name, container := rest } else none
      else none := by
  unfold parseAccessLocatorFor
  dsimp only
  generalize ns ++ Byte.dot :: name = access
  have hne : access ++ c :: rest ≠ access := by simp
  have hstarts : ∀ d : UInt8, (access ++ [d]).isPrefixOf (access ++ c :: rest) = true ↔ c = d := by
    intro d
    rw [List.isPrefixOf_iff_prefix, List.prefix_append_right_inj, List.cons_prefix_cons]
    simp [eq_comm]
  have hdrop : (access ++ c :: rest).drop (access.length + 1) = rest := by
    rw [← List.drop_drop, List.drop_left, List.drop_one, List.tail_cons]
  simp only [if_neg hne, hstarts, hdrop]

/-- Every reading of a user name is the reading of a locator for the Access that it finds. -/
theorem parseAccessLocatorFor_of_reading (h : Reading history n sshUser locator access) :
    access.ns ≠ [] ∧ access.name ≠ [] ∧
      parseAccessLocatorFor sshUser access.ns access.name = some locator := by
  cases h with
  | exact huser hdot hns hname htilde hget =>
    obtain ⟨rfl, rfl⟩ := Store.get_identity _ hget
    refine ⟨hns, hname, ?_⟩
    rw [huser, parseAccessLocatorFor]
    dsimp only
    rw [if_pos rfl]
  | @container ns name container ns' name' access huser hdot hns hname hne hcontainer htilde hmiss
      hget =>
    obtain ⟨rfl, rfl⟩ := Store.get_identity _ hget
    refine ⟨hns, hname, ?_⟩
    have hform : sshUser = access.ns ++ Byte.dot :: access.name ++ Byte.dot :: container := by
      rw [huser]
      simp
    rw [hform, parseAccessLocatorFor_append, if_neg (by decide), if_pos rfl,
      if_pos ⟨hne, hcontainer⟩]
  | @pod ns name pod access huser hdot hns hname hpod htilde hget =>
    obtain ⟨rfl, rfl⟩ := Store.get_identity _ hget
    refine ⟨hns, hname, ?_⟩
    have hform : sshUser = access.ns ++ Byte.dot :: access.name ++ Byte.tilde :: pod := by
      rw [huser]
      simp
    rw [hform, parseAccessLocatorFor_append, if_pos rfl, if_pos hpod]

/-- On the same store, the identity of an Access that a reading found leads to the same locator and
Access. -/
theorem run_resolveRequestedAccess_of_reading {store : Store}
    (h : Reading (fun _ => store) 0 sshUser locator access)
    (hns : getExtra extra extraAccessNamespace = access.ns)
    (hname : getExtra extra extraAccessName = access.name) :
    (resolveRequestedAccess sshUser extra).run (fun _ => store) 0 = .ok (some (locator, access)) := by
  obtain ⟨hns', hname', hparse⟩ := parseAccessLocatorFor_of_reading h
  have hcarries : CarriesAccess extra := ⟨hns ▸ hns', hname ▸ hname'⟩
  rcases run_resolveRequestedAccess_of_carries hcarries sshUser (fun _ => store) 0 with
    ⟨locator', hlocator', hrun⟩ | ⟨hnone, -⟩
  · rw [hns, hname, hparse] at hlocator'
    obtain rfl := Option.some.inj hlocator'
    rw [hrun, hns, hname, get_of_reading h]
    rfl
  · rw [hns, hname, hparse] at hnone
    cases hnone

/-- Whatever reading finds an Access before authentication, the user name is the same locator for
that Access afterwards, and on the same store it leads to the same Access, Pod part and container
part. -/
theorem requested_access_agrees_with_located {store : Store} {sshUser : GoString}
    {locator : AccessLocator} {access : Access}
    (h : (resolveAccessLocator sshUser).run (fun _ => store) 0 = .ok (some (locator, access))) :
    parseAccessLocatorFor sshUser access.ns access.name = some locator ∧
      ∀ extra : GoMap (List GoString), getExtra extra extraAccessNamespace = access.ns →
        getExtra extra extraAccessName = access.name →
          (resolveRequestedAccess sshUser extra).run (fun _ => store) 0
            = .ok (some (locator, access)) := by
  have hreading := reading_of_resolveAccessLocator h
  obtain ⟨-, -, hparse⟩ := parseAccessLocatorFor_of_reading hreading
  exact ⟨hparse, fun extra hns hname => run_resolveRequestedAccess_of_reading hreading hns hname⟩

theorem slashFree_team : SlashFree (str "team") := show Byte.slash ∉ str "team" by decide

theorem slashFree_box : SlashFree (str "box") := show Byte.slash ∉ str "box" by decide

/-- The Access `team/box`. -/
def boxAccess (spec : AccessSpec) : Access where
  ns := str "team"
  name := str "box"
  spec := spec

/-- A cache that holds `team/box` and the Secrets of an indexer. -/
def boxCache (spec : AccessSpec) (secrets : Option SecretIndexer) : PolicyCache :=
  { PolicyCache.empty [] [] with secretIndexer := secrets }.add (boxAccess spec) slashFree_team
    slashFree_box

/-- The user name `team.box.app` is read as a container of `team/box` before and after
authentication. -/
theorem requested_access_agrees_on_container :
    (resolveAccessLocator (str "team.box.app")).run (fun _ => (boxCache {} none).store) 0
        = .ok (some ({ ns := str "team", access := str "box", container := str "app" }, boxAccess {})) ∧
      parseAccessLocatorFor (str "team.box.app") (str "team") (str "box")
        = some { ns := str "team", access := str "box", container := str "app" } := by
  have hlocated : (resolveAccessLocator (str "team.box.app")).run (fun _ => (boxCache {} none).store) 0
      = .ok (some ({ ns := str "team", access := str "box", container := str "app" }, boxAccess {})) :=
    rfl
  exact ⟨hlocated, (requested_access_agrees_with_located hlocated).1⟩

end KubeSsh.AccessPolicy

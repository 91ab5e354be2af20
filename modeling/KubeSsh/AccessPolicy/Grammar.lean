import KubeSsh.AccessPolicy.Resolver
import KubeSsh.AccessPolicy.Status

/-!
# `pkg/accesspolicy`: the grammar of SSH user names

A user name is the dotted name of an Access, then a Pod behind a tilde, then a container behind a
dot, and both parts can be missing. Dots are legal in the names of Accesses and Pods, so a user name
can have several readings; the whole name always wins over a container.

`locator_grammar` says what the readings are (`locatorText`) and which of them wins, for Accesses
and for Pods.
-/

namespace KubeSsh.AccessPolicy

open Strings Target

/-! ## Explicit Pods -/

/-- Some active Pod of the list has this name. -/
def ActiveName (pods : List Pod) (name : GoString) : Prop := ∃ pod ∈ activePods pods, pod.name = name

variable {pods : List Pod} {container sshUser : GoString} {locator : AccessLocator} {store : Store}
  {extra : GoMap (List GoString)} {access : Access}

theorem any_activePods {name : GoString} :
    ((activePods pods).any fun pod => pod.name = name) = true ↔ ActiveName pods name := by
  simp [ActiveName]

/-- A part in front of a dot, cut at the first dot, is empty only if the part starts with a dot. -/
theorem cut_append_dot {pod : GoString} (hpod : pod ≠ []) (hhead : pod.head? ≠ some Byte.dot)
    (hcontainer : container ≠ []) :
    ∃ first rest, cut Byte.dot (pod ++ Byte.dot :: container) = some (first, rest) ∧ first ≠ [] ∧
      rest ≠ [] ∧ (Byte.dot ∉ rest → first = pod ∧ rest = container) := by
  cases hcut : cut Byte.dot pod with
  | none =>
    refine ⟨pod, container, cut_eq_some_iff.mpr ⟨rfl, cut_eq_none_iff.mp hcut⟩, hpod, hcontainer, ?_⟩
    exact fun _ => ⟨rfl, rfl⟩
  | some parts =>
    obtain ⟨first, rest⟩ := parts
    obtain ⟨rfl, hfirst⟩ := cut_eq_some_iff.mp hcut
    refine ⟨first, rest ++ Byte.dot :: container, cut_eq_some_iff.mpr ⟨?_, hfirst⟩, ?_, ?_, ?_⟩
    · rw [List.append_assoc, List.cons_append]
    · rintro rfl
      exact hhead rfl
    · simp
    · intro hdot
      simp at hdot

/-- The first dot, or the last one if there are more, has no dots behind it. -/
theorem exists_cut_at_last {locator first rest : GoString}
    (hcut : cut Byte.dot locator = some (first, rest)) :
    ∃ pod container, locator = pod ++ Byte.dot :: container ∧ Byte.dot ∉ container ∧
      (if Byte.dot ∈ rest then (cutLast Byte.dot locator).getD (first, rest) else (first, rest))
        = (pod, container) := by
  obtain ⟨hlocator, -⟩ := cut_eq_some_iff.mp hcut
  by_cases hdots : Byte.dot ∈ rest
  · cases hlast : cutLast Byte.dot locator with
    | none => exact absurd (hlocator ▸ by simp) (cutLast_eq_none_iff.mp hlast)
    | some last =>
      obtain ⟨pod, container⟩ := last
      obtain ⟨hlast', hdot⟩ := cutLast_eq_some_iff.mp hlast
      exact ⟨pod, container, hlast', hdot, if_pos hdots⟩
  · exact ⟨first, rest, hlocator, hdots, if_neg hdots⟩

/-- The exact name of an active Pod wins; else the last dot separates the Pod from the container. -/
theorem resolveExplicitPodLocator_eq_some_iff {locator pod : GoString} :
    resolveExplicitPodLocator pods locator = some (pod, container) ↔
      pod = locator ∧ container = [] ∧ ActiveName pods locator ∨
      ¬ ActiveName pods locator ∧ locator = pod ++ Byte.dot :: container ∧ Byte.dot ∉ container ∧
        container ≠ [] ∧ pod ≠ [] ∧ pod.head? ≠ some Byte.dot ∧ ActiveName pods pod := by
  unfold resolveExplicitPodLocator
  dsimp only
  by_cases hexact : ActiveName pods locator
  · rw [if_pos (any_activePods.mpr hexact)]
    simp [hexact, eq_comm]
  rw [if_neg (any_activePods.not.mpr hexact)]
  constructor
  · intro h
    refine Or.inr ⟨hexact, ?_⟩
    cases hcut : cut Byte.dot locator with
    | none =>
      rw [hcut] at h
      cases h
    | some parts =>
      obtain ⟨first, rest⟩ := parts
      obtain ⟨hlocator, hfirst⟩ := cut_eq_some_iff.mp hcut
      rw [hcut] at h
      dsimp only at h
      split at h
      · cases h
      rename_i hparts
      rw [not_or] at hparts
      obtain ⟨pod', container', hlocator', hdot, hchosen⟩ := exists_cut_at_last hcut
      rw [hchosen] at h
      dsimp only at h
      split at h
      · cases h
      rename_i hparts'
      rw [not_or] at hparts'
      split at h
      · rename_i hactive
        obtain ⟨rfl, rfl⟩ := Prod.mk.inj (Option.some.inj h)
        refine ⟨hlocator', hdot, hparts'.2, hparts'.1, ?_, any_activePods.mp hactive⟩
        intro hhead
        have hheads := congrArg List.head? (hlocator.symm.trans hlocator')
        rw [List.head?_append_of_ne_nil _ hparts.1, List.head?_append_of_ne_nil _ hparts'.1, hhead] at hheads
        exact hfirst (List.mem_of_mem_head? hheads)
      · cases h
  · rintro (⟨-, -, habs⟩ | ⟨-, rfl, hdot, hcontainer, hpod, hhead, hactive⟩)
    · exact absurd habs hexact
    obtain ⟨first, rest, hcut, hfirst, hrest, hsame⟩ := cut_append_dot hpod hhead hcontainer
    have hlast : cutLast Byte.dot (pod ++ Byte.dot :: container) = some (pod, container) :=
      cutLast_eq_some_iff.mpr ⟨rfl, hdot⟩
    rw [hcut]
    dsimp only
    rw [if_neg (by simp [hfirst, hrest])]
    by_cases hdots : Byte.dot ∈ rest
    · rw [if_pos hdots, hlast]
      dsimp only [Option.getD_some]
      rw [if_neg (by simp [hpod, hcontainer]), if_pos (any_activePods.mpr hactive)]
    · obtain ⟨rfl, rfl⟩ := hsame hdots
      rw [if_neg hdots]
      dsimp only
      rw [if_neg (by simp [hpod, hcontainer]), if_pos (any_activePods.mpr hactive)]

/-! ## User names -/

/-- The user name of a container of a Pod of an Access; either part can be missing. -/
def locatorText (access : Access) (pod container : GoString) : GoString :=
  access.ns ++ Byte.dot :: access.name ++ (if pod = [] then [] else Byte.tilde :: pod) ++
    if container = [] then [] else Byte.dot :: container

/-- The part of `Resolver.Resolve` in front of the selection (`resolver.go:45-95`): the Access of a
user name, and the Pod and the container that it asks for. -/
def picks (store : Store) (extra : GoMap (List GoString)) (pods : List Pod) (sshUser : GoString) :
    Option (Access × GoString × GoString) :=
  match (resolveRequestedAccess sshUser extra).run (fun _ => store) 0 with
  | .ok (some (locator, access)) =>
    if locator.pod ≠ [] then
      (resolveExplicitPodLocator pods locator.pod).map fun found => (access, found)
    else some (access, [], locator.container)
  | _ => none

/-- A locator for an Access spells its name, and a container without dots or a Pod behind it. -/
theorem text_of_parseAccessLocatorFor {ns name : GoString}
    (h : parseAccessLocatorFor sshUser ns name = some locator) :
    locator.ns = ns ∧ locator.access = name ∧ Byte.dot ∉ locator.container ∧
      (locator.pod = [] ∨ locator.container = []) ∧
      sshUser = ns ++ Byte.dot :: name ++ (if locator.pod = [] then [] else Byte.tilde :: locator.pod) ++
        if locator.container = [] then [] else Byte.dot :: locator.container := by
  -- the user name continues with the separator that the parser tests for
  have hsplit : ∀ c : UInt8, (ns ++ Byte.dot :: name ++ [c]).isPrefixOf sshUser = true →
      ∃ rest, sshUser = ns ++ Byte.dot :: name ++ c :: rest := by
    intro c hstarts
    obtain ⟨rest, hrest⟩ := List.isPrefixOf_iff_prefix.mp hstarts
    exact ⟨rest, by rw [← hrest, List.append_assoc, List.singleton_append]⟩
  by_cases huser : sshUser = ns ++ Byte.dot :: name
  · unfold parseAccessLocatorFor at h
    dsimp only at h
    rw [if_pos huser] at h
    obtain rfl := Option.some.inj h
    simp [huser]
  by_cases htilde : (ns ++ Byte.dot :: name ++ [Byte.tilde]).isPrefixOf sshUser = true
  · obtain ⟨pod, rfl⟩ := hsplit _ htilde
    rw [parseAccessLocatorFor_append, if_pos rfl] at h
    split at h
    · rename_i hpod
      obtain rfl := Option.some.inj h
      simp [hpod]
    · cases h
  by_cases hdot : (ns ++ Byte.dot :: name ++ [Byte.dot]).isPrefixOf sshUser = true
  · obtain ⟨container, rfl⟩ := hsplit _ hdot
    rw [parseAccessLocatorFor_append, if_neg (by decide), if_pos rfl] at h
    split at h
    · rename_i hcontainer
      obtain rfl := Option.some.inj h
      simp [hcontainer.1, hcontainer.2]
    · cases h
  · unfold parseAccessLocatorFor at h
    dsimp only at h
    rw [if_neg huser, if_neg htilde, if_neg hdot] at h
    cases h

/-- However an Access was located, the user name is a locator for it. -/
theorem parseAccessLocatorFor_of_located
    (h : (resolveRequestedAccess sshUser extra).run (fun _ => store) 0 = .ok (some (locator, access))) :
    parseAccessLocatorFor sshUser access.ns access.name = some locator := by
  by_cases hcarries : CarriesAccess extra
  · rcases run_resolveRequestedAccess_of_carries hcarries sshUser (fun _ => store) 0 with
      ⟨locator', hparse, hrun⟩ | ⟨-, message, hrun⟩
    · rw [h] at hrun
      obtain ⟨rfl, hget⟩ := locate_eq_some hrun.symm
      obtain ⟨hns, hname⟩ := store.get_identity hget
      rw [hns, hname]
      exact hparse
    · rw [h] at hrun
      cases hrun
  · exact (parseAccessLocatorFor_of_reading (reading_of_located hcarries h).2.2).2.2

/-- What is picked for a user name, the user name spells. -/
theorem eq_locatorText_of_picks {pod : GoString}
    (h : picks store extra pods sshUser = some (access, pod, container)) :
    sshUser = locatorText access pod container ∧ Byte.dot ∉ container := by
  unfold picks at h
  split at h
  · rename_i locator access' hlocated
    obtain ⟨-, -, hdot, hpart, htext⟩ :=
      text_of_parseAccessLocatorFor (parseAccessLocatorFor_of_located hlocated)
    split at h
    · rename_i hpod
      obtain ⟨⟨pod', container'⟩, hfound, hpicked⟩ := Option.map_eq_some_iff.mp h
      obtain ⟨rfl, rfl, rfl⟩ := hpicked
      rw [if_neg hpod, if_pos (hpart.resolve_left hpod), List.append_nil] at htext
      rcases resolveExplicitPodLocator_eq_some_iff.mp hfound with
        ⟨rfl, rfl, -⟩ | ⟨-, hlocator, hdot', hcontainer, hpod', -, -⟩
      · simp [locatorText, htext, hpod]
      · rw [hlocator] at htext
        simp [locatorText, htext, hcontainer, hpod', hdot']
    · rename_i hpod
      obtain ⟨rfl, rfl, rfl⟩ := Option.some.inj h
      rw [not_not.mp hpod] at htext
      exact ⟨htext, hdot⟩
  · cases h

/-! ## The target that is resolved -/

/-- A target that was resolved through a Pod Access is a container of an active Pod that the Access
selects: the Pod and the container that were picked, as far as the user name asks for them. -/
def PickedTarget (r : Resolver) (store : Store) (input : ResolveInput) (access : Access)
    (requestedPod requestedContainer : GoString) (tgt : Target) : Prop :=
  ∃ list pods pod container, r.pods = some list ∧ list access.ns access.spec.selector = .ok pods ∧
    picks store input.authExtra pods input.sshUser = some (access, requestedPod, requestedContainer) ∧
    pod ∈ activePods pods ∧ tgt = PodTarget.bind pod container ∧
    (requestedPod ≠ [] → pod.name = requestedPod) ∧
    (requestedContainer ≠ [] → container = requestedContainer)

/-- A target that was resolved through an External Access, which the whole user name spells, is one
of its endpoints. -/
def ExternalTarget (store : Store) (input : ResolveInput) (access : Access) (tgt : Target) : Prop :=
  access.spec.type = .external ∧ picks store input.authExtra [] input.sshUser = some (access, [],
    []) ∧ ∃ endpoint ∈ access.spec.endpoints, tgt = SshProxy.newTarget access endpoint.name

theorem name_of_selected {state : SelectorState} {draw : Draw}
    {input : ResolveInput} {name : GoString} {pod : Pod} {connectionKey : GoString}
    (h : (if name ≠ [] then selectPodByName state access pods name
      else selectPod state draw access pods input).1 = some (pod, connectionKey)) (hname : name ≠ []) :
    pod.name = name := by
  rw [if_pos hname] at h
  rcases selectPodByName_spec state access pods name with ⟨-, hnone⟩ | ⟨found, -, hfound, key, hsome⟩
  · rw [hnone] at h
    cases h
  · rw [hsome] at h
    obtain ⟨rfl, -⟩ := Prod.mk.inj (Option.some.inj h)
    exact hfound

theorem pickedTarget_of_resolve {r : Resolver} {draw : Draw} {state : ResolverState}
    {input : ResolveInput} {tgt : Target}
    (h : (Reads.run (resolve r draw input state) (fun _ => store) 0).1 = .ok tgt) :
    ∃ access, ExternalTarget store input access tgt ∨
      isPodAccess access = true ∧ ∃ pod container, PickedTarget r store input access pod container tgt := by
  obtain ⟨locator, access, hlocated, hresolved⟩ := resolve_eq_ok_iff.mp h
  refine ⟨access, ?_⟩
  have hfrom := resolveThrough_fromAccess (ns_of_located hlocated) hresolved
  unfold resolveThrough at hresolved
  split at hresolved
  · -- an External Access takes no Pod suffix
    rename_i hexternal
    split at hresolved
    · cases hresolved
    rename_i hsuffix
    rw [not_or, not_not, not_not] at hsuffix
    refine Or.inl ⟨hexternal, ?_, ?_⟩
    · rw [picks, hlocated]
      simp [hsuffix.1, hsuffix.2]
    · cases hfrom with
      | endpoint _ hmem => exact ⟨_, hmem, rfl⟩
      | pod hpod => simp [isPodAccess, hexternal] at hpod
  split at hresolved
  · cases hresolved
  rename_i hpodAccess
  refine Or.inr ⟨by simpa using hpodAccess, ?_⟩
  obtain ⟨list, pods, explicit, pod, connectionKey, container, default, hlist, hpods, hexplicit,
    hsel, hcontainer, -, rfl⟩ := resolvePod_eq_ok_iff.mp hresolved
  rw [ns_of_located hlocated] at hpods
  refine ⟨explicit.pod, explicit.container, list, pods, pod, container, hlist, hpods, ?_,
    mem_activePods_of_selected hsel, rfl, name_of_selected hsel, fun hrequested => ?_⟩
  · rw [picks, hlocated]
    dsimp only
    unfold AccessLocator.explicit at hexplicit
    split at hexplicit
    · rename_i hpod
      obtain ⟨found, hfound, rfl⟩ := Option.map_eq_some_iff.mp hexplicit
      rw [if_pos hpod, hfound]
      rfl
    · rename_i hpod
      obtain rfl := Option.some.inj hexplicit
      rw [if_neg hpod, not_not.mp hpod]
  · rw [PodTarget.eq_of_resolveContainer hcontainer, if_neg hrequested]

/-! ## The grammar -/

/-- The caller has no Access identity, or the one that authentication attaches for the user name. -/
def Attached (store : Store) (sshUser : GoString) (extra : GoMap (List GoString)) : Prop :=
  getExtra extra extraAccessNamespace = [] ∧ getExtra extra extraAccessName = [] ∨
    ∃ locator access, (resolveAccessLocator sshUser).run (fun _ => store) 0
        = .ok (some (locator, access)) ∧
      getExtra extra extraAccessNamespace = access.ns ∧ getExtra extra extraAccessName = access.name

/-- For such callers the Access is the one that reading the user name finds. -/
theorem located_of_attached (hattached : Attached store sshUser extra)
    (h : (resolveAccessLocator sshUser).run (fun _ => store) 0 = .ok (some (locator, access))) :
    (resolveRequestedAccess sshUser extra).run (fun _ => store) 0 = .ok (some (locator, access)) := by
  rcases hattached with ⟨hns, hname⟩ | ⟨locator', access', h', hns, hname⟩
  · unfold resolveRequestedAccess
    dsimp only
    rw [if_neg (by simp [hns, hname])]
    exact h
  · obtain ⟨rfl, rfl⟩ := Prod.mk.inj (Option.some.inj (Except.ok.inj (h'.symm.trans h)))
    exact run_resolveRequestedAccess_of_reading (reading_of_resolveAccessLocator h) hns hname

/-- What the API server's rules say of the name of a Pod: it is not empty and does not start with a
dot. -/
structure ValidPodName (name : GoString) : Prop where
  ne_nil : name ≠ []
  head_ne : name.head? ≠ some Byte.dot

/-- What is resolved is spelled by the user name, in the one grammar
`namespace.access[~pod][.container]` with a container without dots. An Access with the whole dotted
name wins over the container reading, and so does an active Pod with the whole dotted name. An
explicit Pod locator succeeds exactly if it is the name of an active Pod, or the name of one, a dot,
and something without dots. -/
theorem locator_grammar (store : Store)
    (hstore : ∀ access, store.get access.ns access.name = .ok access → ValidNames access)
    (pods : List Pod) (hpods : ∀ pod ∈ pods, ValidPodName pod.name) (sshUser : GoString) :
    (∀ (r : Resolver) (draw : Draw) (state : ResolverState) (input : ResolveInput) (tgt : Target),
      (Reads.run (resolve r draw input state) (fun _ => store) 0).1 = .ok tgt →
        ∃ access pod container, input.sshUser = locatorText access pod container ∧ Byte.dot ∉
          container ∧ (ExternalTarget store input access tgt ∧ pod = [] ∧ container = [] ∨
            isPodAccess access = true ∧ PickedTarget r store input access pod container tgt)) ∧
    (∀ extra access pod container, picks store extra pods sshUser = some (access, pod, container) →
      sshUser = locatorText access pod container ∧ Byte.dot ∉ container) ∧
    (∀ access, store.get access.ns access.name = .ok access → sshUser = locatorText access [] [] →
      ∀ extra, Attached store sshUser extra → picks store extra pods sshUser = some (access, [], [])) ∧
    (∀ locator, ActiveName pods locator →
      resolveExplicitPodLocator pods locator = some (locator, [])) ∧
    ∀ locator, (resolveExplicitPodLocator pods locator).isSome = true ↔
      ActiveName pods locator ∨ ∃ pod container, ActiveName pods pod ∧ container ≠ [] ∧
        Byte.dot ∉ container ∧ locator = pod ++ Byte.dot :: container := by
  refine ⟨fun r draw state input tgt h => ?_, fun extra access pod container h => ?_,
    fun access hget huser extra hattached => ?_, fun locator hactive => ?_, fun locator => ?_⟩
  · obtain ⟨access, hexternal | ⟨hpod, pod, container, hpicked⟩⟩ := pickedTarget_of_resolve h
    · obtain ⟨-, hpicks, -⟩ := id hexternal
      obtain ⟨htext, hdot⟩ := eq_locatorText_of_picks hpicks
      exact ⟨access, [], [], htext, hdot, Or.inl ⟨hexternal, rfl, rfl⟩⟩
    · obtain ⟨_, _, _, _, -, -, hpicks, -⟩ := id hpicked
      obtain ⟨htext, hdot⟩ := eq_locatorText_of_picks hpicks
      exact ⟨access, pod, container, htext, hdot, Or.inr ⟨hpod, hpicked⟩⟩
  · exact eq_locatorText_of_picks h
  · obtain ⟨hns, hdot, hname, htilde⟩ := hstore access hget
    have huser' : sshUser = access.ns ++ Byte.dot :: access.name := by
      simpa [locatorText] using huser
    have hlocated := run_resolveAccessLocator_exact hns hdot hname htilde hget
    rw [← huser'] at hlocated
    rw [picks, located_of_attached hattached hlocated]
    rfl
  · exact resolveExplicitPodLocator_eq_some_iff.mpr (Or.inl ⟨rfl, rfl, hactive⟩)
  · constructor
    · intro hsome
      obtain ⟨⟨pod, container⟩, hfound⟩ := Option.isSome_iff_exists.mp hsome
      rcases resolveExplicitPodLocator_eq_some_iff.mp hfound with
        ⟨-, -, hactive⟩ | ⟨-, hlocator, hdot, hcontainer, -, -, hactive⟩
      · exact Or.inl hactive
      · exact Or.inr ⟨pod, container, hactive, hcontainer, hdot, hlocator⟩
    · intro h
      by_cases hexact : ActiveName pods locator
      · rw [resolveExplicitPodLocator_eq_some_iff.mpr (Or.inl ⟨rfl, rfl, hexact⟩)]
        rfl
      obtain ⟨pod, container, hactive, hcontainer, hdot, hlocator⟩ := h.resolve_left hexact
      obtain ⟨found, hmem, rfl⟩ := hactive
      obtain ⟨hne, hhead⟩ := hpods found (mem_activePods.mp hmem).1
      rw [resolveExplicitPodLocator_eq_some_iff.mpr (Or.inr ⟨hexact, hlocator, hdot, hcontainer, hne, hhead,
        found, hmem, rfl⟩)]
      rfl

/-- A store that holds `team/box` only. -/
def boxStore (spec : AccessSpec) : Store where
  get ns name := if ns = str "team" ∧ name = str "box" then .ok (boxAccess spec)
    else .error (.notFound ns name)
  get_identity {ns name access} h := by
    split at h
    · rename_i hkey
      obtain rfl := Except.ok.inj h
      exact ⟨hkey.1.symm, hkey.2.symm⟩
    · cases h

/-- The Pod `team/web.a` with the containers `app` and `sidecar`. -/
def webPod : Pod where
  ns := str "team"
  name := str "web.a"
  uid := str "1"
  uid_ne_nil := by decide
  containers := [str "app", str "sidecar"]

/-- A resolver that finds this Pod for every selector. -/
def webResolver : Resolver := { pods := some fun _ _ => .ok [webPod] }

/-- An Access that permits every container. -/
def openSpec : AccessSpec := { containers := [str "*"] }

def sidecarInput : ResolveInput := { sshUser := str "team.box~web.a.sidecar" }

/-- The user name `team.box~web.a.sidecar` spells what is resolved, the user name `team.box` the
Access alone, and the locator `web.a.sidecar` the container `sidecar` of the Pod `web.a`. -/
theorem locator_grammar_dotted :
    (∃ tgt access pod container, (Reads.run (resolve webResolver { now := 0, intn := id } sidecarInput {})
          (fun _ => boxStore openSpec) 0).1 = .ok tgt ∧
        sidecarInput.sshUser = locatorText access pod container ∧
        PickedTarget webResolver (boxStore openSpec) sidecarInput access pod container tgt) ∧
      picks (boxStore openSpec) ∅ [webPod] (str "team.box") = some (boxAccess openSpec, [], []) ∧
      (resolveExplicitPodLocator [webPod] (str "web.a.sidecar")).isSome = true := by
  have hstore : ∀ access, (boxStore openSpec).get access.ns access.name = .ok access → ValidNames access := by
    intro access hget
    obtain ⟨-, hbox⟩ := (ite_eq_iff.mp hget).resolve_right fun h => nomatch h.2
    obtain rfl := Except.ok.inj hbox
    exact ⟨by decide, by decide, by decide, by decide⟩
  have hpods : ∀ pod ∈ [webPod], ValidPodName pod.name := by
    intro pod hpod
    obtain rfl := List.mem_singleton.mp hpod
    exact ⟨by decide, by decide⟩
  have hactive : ActiveName [webPod] (str "web.a") :=
    ⟨webPod, mem_activePods.mpr ⟨List.mem_singleton_self _, by decide⟩, rfl⟩
  obtain ⟨hresolved, -, hexact, -, hexplicit⟩ :=
    locator_grammar (boxStore openSpec) hstore [webPod] hpods (str "team.box")
  refine ⟨?_, hexact (boxAccess openSpec) rfl rfl ∅ (Or.inl ⟨rfl, rfl⟩), (hexplicit _).mpr
    (Or.inr ⟨str "web.a", str "sidecar", hactive, by decide, by decide, by decide⟩)⟩
  obtain ⟨access, pod, container, htext, -, ⟨⟨-, hpicks, -⟩, -, -⟩ | ⟨-, hpicked⟩⟩ :=
    hresolved webResolver { now := 0, intn := id } {} sidecarInput _ rfl
  · -- without Pods the locator is not read
    have hnone : picks (boxStore openSpec) ∅ [] sidecarInput.sshUser = none := rfl
    cases hnone.symm.trans hpicks
  · exact ⟨_, access, pod, container, rfl, htext, hpicked⟩

end KubeSsh.AccessPolicy

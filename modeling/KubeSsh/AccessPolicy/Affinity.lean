import KubeSsh.AccessPolicy.Selections

/-!
# `pkg/accesspolicy`: session affinity

A client is known to an Access by its `Identity`: the Access, the type of affinity it asks for, and
the value of the client for that type. The affinity map holds one entry for each identity, the
choice that a strategy made for it last. An entry is forgotten only by a selection whose strategy
then leaves a new one, so the map always says what the history of the run says (`Remembers`), and
what the selector does for an identity can be read off its history.
-/

namespace KubeSsh.AccessPolicy

open Target Strings

/-! ## Identities -/

/-- Whom the affinity of an Access is about. A type that is not known gives no affinity. -/
structure Identity where
  ns : GoString
  name : GoString
  type : AccessSessionAffinityType
  value : GoString
  known : ∀ text, type ≠ .other text
deriving DecidableEq

/-- The value of a client for a type of affinity. -/
def affinityValue (input : ResolveInput) : AccessSessionAffinityType → GoString
  | .user => input.userName
  | .credential => getExtra input.authExtra extraCredentialUser
  | .sourceIP => input.sourceIP
  | .sshUser | .unspecified => input.sshUser
  | .other _ => []

/-- The identity of a selection, if its Access asks for affinity and the client has a value for
it. -/
def Request.identity (request : Request) : Option Identity :=
  match request.access.spec.strategy.bind (·.sessionAffinity) with
  | none => none
  | some affinity =>
    if hvalue : affinityValue request.input affinity.type = [] then none
    else some
      { ns := request.access.ns
        name := request.access.name
        type := affinity.type
        value := affinityValue request.input affinity.type
        known := fun text htype => hvalue (by rw [htype]; rfl) }

/-- The key of an identity. -/
def Identity.key (identity : Identity) : GoString :=
  accessKey identity.ns identity.name ++ keySeparator :: identity.type.text ++
    keySeparator :: identity.value

/-- A namespace and a name as the API server admits them: without slashes and without zero bytes. -/
structure Admitted (ns name : GoString) : Prop where
  ns_slashFree : SlashFree ns
  name_slashFree : SlashFree name
  ns_zeroFree : keySeparator ∉ ns
  name_zeroFree : keySeparator ∉ name

theorem Request.affinityKey_eq (request : Request) :
    request.affinityKey = (request.identity.map Identity.key).getD [] := by
  unfold Request.affinityKey accessAffinityKey Request.identity
  cases request.access.spec.strategy.bind (·.sessionAffinity) with
  | none => rfl
  | some affinity =>
    obtain ⟨type, timeoutSeconds⟩ := affinity
    by_cases hvalue : affinityValue request.input type = []
    · cases type <;> simp only [affinityValue] at hvalue <;> simp [affinityValue, hvalue]
    · cases type <;> simp only [affinityValue] at hvalue <;>
        simp [affinityValue, hvalue, Identity.key] at hvalue ⊢

theorem Identity.key_ne_nil (identity : Identity) : identity.key ≠ [] := by
  simp [Identity.key]

variable {identity : Identity} {a b : SelectorState} {key : GoString}

theorem Request.affinityKey_of_identity {request : Request}
    (h : request.identity = some identity) : request.affinityKey = identity.key := by
  rw [request.affinityKey_eq, h]
  rfl

theorem Request.identity_ns {request : Request} (h : request.identity = some identity) :
    identity.ns = request.access.ns ∧ identity.name = request.access.name := by
  unfold Request.identity at h
  split at h
  · cases h
  split at h
  · cases h
  obtain rfl := Option.some.inj h
  exact ⟨rfl, rfl⟩

theorem keySeparator_notMem_text {type : AccessSessionAffinityType}
    (known : ∀ text, type ≠ .other text) : keySeparator ∉ type.text := by
  cases type with
  | unspecified => decide
  | user => decide
  | credential => decide
  | sourceIP => decide
  | sshUser => decide
  | other text => exact absurd rfl (known text)

theorem text_inj {type type' : AccessSessionAffinityType} (known : ∀ text, type ≠ .other text)
    (known' : ∀ text, type' ≠ .other text) (htext : type.text = type'.text) : type = type' := by
  cases type <;> cases type' <;>
    first
    | rfl
    | exact absurd htext (by decide)
    | exact absurd rfl (known _)
    | exact absurd rfl (known' _)

/-- Different identities have different keys, whatever bytes the value of a client has. -/
theorem Identity.key_inj {a b : Identity} (ha : Admitted a.ns a.name) (hb : Admitted b.ns b.name)
    (h : a.key = b.key) : a = b := by
  have hfree : ∀ {ns name : GoString}, Admitted ns name → keySeparator ∉ accessKey ns name := by
    intro ns name hadmitted hmem
    have hslash : keySeparator ≠ Byte.slash := by decide
    obtain hmem | hmem := List.mem_append.mp hmem
    · exact hadmitted.ns_zeroFree hmem
    · exact hadmitted.name_zeroFree (List.mem_of_ne_of_mem hslash hmem)
  have hkey : accessKey a.ns a.name ++ keySeparator :: (a.type.text ++ keySeparator :: a.value)
      = accessKey b.ns b.name ++ keySeparator :: (b.type.text ++ keySeparator :: b.value) := by
    simpa [Identity.key] using h
  obtain ⟨haccess, hrest⟩ := append_cons_inj_of_notMem_left (hfree ha) (hfree hb) hkey
  obtain ⟨htext, hvalue⟩ := append_cons_inj_of_notMem_left (keySeparator_notMem_text b.known)
    (keySeparator_notMem_text a.known) hrest
  obtain ⟨hns, hname⟩ := accessKey_inj ha.ns_slashFree ha.name_slashFree haccess.symm
  have htype := text_inj a.known b.known htext
  obtain ⟨ns, name, type, value, known⟩ := a
  obtain ⟨ns', name', type', value', known'⟩ := b
  obtain rfl : ns' = ns := hns
  obtain rfl : name' = name := hname
  obtain rfl : type = type' := htype
  obtain rfl : value = value' := hvalue
  rfl

/-! ## What a selection reads -/

/-- Without a key nothing is remembered. -/
theorem Request.remembered_of_nil {request : Request} (h : request.affinityKey = [])
    (state : SelectorState) : request.remembered state = none := by
  unfold Request.remembered affinityCandidateIndex
  rw [if_pos h]

/-- What is remembered, from the one entry that is read. -/
theorem Request.remembered_eq {request : Request} (h : request.affinityKey ≠ [])
    (state : SelectorState) :
    request.remembered state = (state.affinity.lookup request.affinityKey).bind fun entry =>
      if entry.expiresAt ≠ 0 ∧ request.draw.now > entry.expiresAt then none
      else request.candidates.findIdx? fun candidate => candidate.key = entry.targetKey := by
  unfold Request.remembered affinityCandidateIndex
  rw [if_neg h]
  cases state.affinity.lookup request.affinityKey with
  | none => rfl
  | some entry =>
    dsimp only [Option.bind_some]
    split
    · rfl
    · cases request.candidates.findIdx? fun candidate => candidate.key = entry.targetKey <;> rfl

/-- The states agree on everything but the entry under a key. -/
structure SameBut (key : GoString) (a b : SelectorState) : Prop where
  roundRobin : a.roundRobin = b.roundRobin
  connections : a.connections = b.connections
  affinity : ∀ other, other ≠ key → a.affinity.lookup other = b.affinity.lookup other

theorem Request.remembered_congr {request : Request}
    (h : SameBut key a b) (hkey : request.affinityKey ≠ key) :
    request.remembered a = request.remembered b := by
  by_cases hnil : request.affinityKey = []
  · rw [Request.remembered_of_nil hnil, Request.remembered_of_nil hnil]
  · rw [Request.remembered_eq hnil, Request.remembered_eq hnil, h.affinity _ hkey]

/-- The entry under another key is not changed by a selection. -/
theorem Request.select_lookup {request : Request} (hkey : key ≠ request.affinityKey)
    (state : SelectorState) :
    (request.select state).2.affinity.lookup key = state.affinity.lookup key := by
  cases hremembered : request.remembered state with
  | some index => rw [Request.select_of_remembered hremembered]
  | none =>
    rw [Request.select_of_chosen hremembered]
    dsimp only
    split
    · rfl
    · rw [AList.lookup_insert_ne hkey]

/-- The entry under another key is not read by a selection. -/
theorem Request.select_sameBut {request : Request} (hkey : request.affinityKey ≠ key)
    (h : SameBut key a b) :
    (request.select a).1 = (request.select b).1 ∧
      SameBut key (request.select a).2 (request.select b).2 := by
  have hremembered := Request.remembered_congr h hkey
  cases hb : request.remembered b with
  | some index =>
    rw [hb] at hremembered
    rw [Request.select_of_remembered hremembered, Request.select_of_remembered hb]
    exact ⟨rfl, h.roundRobin, congrArg (increment · _) h.connections, h.affinity⟩
  | none =>
    rw [hb] at hremembered
    have hchosen : (request.chosen a).1 = (request.chosen b).1 ∧
        (request.chosen a).2.roundRobin = (request.chosen b).2.roundRobin := by
      unfold Request.chosen
      rw [strategyCandidateIndex_congr h.roundRobin h.connections]
      exact ⟨rfl, rfl⟩
    rw [Request.select_of_chosen hremembered, Request.select_of_chosen hb, hchosen.1]
    refine ⟨rfl, hchosen.2, congrArg (increment · _) h.connections, ?_⟩
    intro other hother
    dsimp only
    split
    · exact h.affinity other hother
    · by_cases hsame : other = request.affinityKey
      · subst hsame
        rw [AList.lookup_insert, AList.lookup_insert]
      · rw [AList.lookup_insert_ne hsame, AList.lookup_insert_ne hsame, h.affinity other hother]

/-! ## What other calls read -/

/-- What a call of the selector returns. -/
inductive Answer
  | target (index : ℕ) (connectionKey : GoString)
  | pod (selection : Option (Pod × GoString))
  | released

/-- The answer to a call. -/
def Action.answer : Action → SelectorState → Answer
  | .select request, state => .target (request.select state).1.1 (request.select state).1.2
  | .selectPodByName access pods name, state =>
    .pod (AccessPolicy.selectPodByName state access pods name).1
  | .release _, _ => .released

/-- A call that is a selection for an identity. -/
def Action.IsFor (identity : Identity) : Action → Prop
  | .select request => request.identity = some identity
  | .selectPodByName .. | .release _ => False

/-- The Access of a call has the names the API server admits. -/
def Action.Admitted : Action → Prop
  | .select request => AccessPolicy.Admitted request.access.ns request.access.name
  | .selectPodByName access _ _ => AccessPolicy.Admitted access.ns access.name
  | .release _ => True

/-- A call leaves the entry of an identity alone: it does not change it, and neither its answer nor
what it changes elsewhere depends on it. -/
structure Action.LeavesAlone (action : Action) (identity : Identity) : Prop where
  unchanged : ∀ state,
    (action.apply state).affinity.lookup identity.key = state.affinity.lookup identity.key
  unread : ∀ a b, SameBut identity.key a b →
    action.answer a = action.answer b ∧ SameBut identity.key (action.apply a) (action.apply b)

theorem affinityKey_ne {request : Request}
    (hrequest : Admitted request.access.ns request.access.name)
    (hidentity : Admitted identity.ns identity.name) (h : request.identity ≠ some identity) :
    request.affinityKey ≠ identity.key := by
  cases hother : request.identity with
  | none =>
    rw [request.affinityKey_eq, hother]
    exact identity.key_ne_nil.symm
  | some other =>
    rw [Request.affinityKey_of_identity hother]
    intro hkey
    obtain ⟨hns, hname⟩ := Request.identity_ns hother
    rw [← hns, ← hname] at hrequest
    exact h (hother.trans (congrArg some (Identity.key_inj hrequest hidentity hkey)))

theorem selectPodByName_sameBut (h : SameBut key a b)
    (access : Access) (pods : List Pod) (name : GoString) :
    (selectPodByName a access pods name).1 = (selectPodByName b access pods name).1 ∧
      SameBut key (selectPodByName a access pods name).2 (selectPodByName b access pods name).2 := by
  unfold selectPodByName
  split
  · exact ⟨rfl, h⟩
  · refine ⟨rfl, h.roundRobin, ?_, h.affinity⟩
    exact congrArg (increment · _) h.connections

theorem release_sameBut (h : SameBut key a b)
    (connectionKey : GoString) : SameBut key (release a connectionKey) (release b connectionKey) := by
  unfold release
  dsimp only
  rw [h.connections]
  split
  · exact ⟨h.roundRobin, rfl, h.affinity⟩
  · exact ⟨h.roundRobin, rfl, h.affinity⟩

/-- Every call that is not a selection for an identity leaves its entry alone. -/
theorem leavesAlone_of_not_isFor {action : Action} (haction : action.Admitted)
    (hidentity : Admitted identity.ns identity.name) (h : ¬ action.IsFor identity) :
    action.LeavesAlone identity := by
  cases action with
  | select request =>
    have hkey := affinityKey_ne haction hidentity h
    refine ⟨Request.select_lookup hkey.symm, fun a b hsame => ?_⟩
    obtain ⟨hanswer, hnext⟩ := Request.select_sameBut hkey hsame
    exact ⟨by rw [Action.answer, Action.answer, hanswer], hnext⟩
  | selectPodByName access pods name =>
    refine ⟨fun state => ?_, fun a b hsame => ?_⟩
    · exact congrArg (AList.lookup identity.key) (selectPodByName_state state access pods name).2
    · obtain ⟨hanswer, hnext⟩ := selectPodByName_sameBut hsame access pods name
      exact ⟨congrArg Answer.pod hanswer, hnext⟩
  | release connectionKey =>
    refine ⟨fun state => ?_, fun a b hsame => ⟨rfl, release_sameBut hsame connectionKey⟩⟩
    exact congrArg (AList.lookup identity.key) (release_state state connectionKey).2

/-! ## The history of a run -/

/-- A selection that the strategy made, and the index it gave. -/
structure Choice where
  request : Request
  index : ℕ

/-- The key of the target that was chosen. -/
def Choice.target (choice : Choice) : GoString := candidateKey choice.request.candidates choice.index

/-- The choice is still good for a later selection: it was made at most its timeout ago, and its
target is a candidate. -/
def Choice.Stands (choice : Choice) (request : Request) : Prop :=
  request.draw.now ≤ choice.request.draw.now + affinityTimeout choice.request.access ∧
    ∃ candidate ∈ request.candidates, candidate.key = choice.target

/-- The choice that a call makes, if it is a selection that affinity does not serve. -/
def Action.choice (state : SelectorState) : Action → List Choice
  | .select request =>
    if request.remembered state = none then [⟨request, (request.select state).1.1⟩] else []
  | .selectPodByName .. | .release _ => []

/-- The choices of a run, in order. -/
def choices (state : SelectorState) : List Action → List Choice
  | [] => []
  | action :: rest => action.choice state ++ choices (action.apply state) rest

/-- The latest choice for a key. -/
def latest (key : GoString) (past : List Choice) : Option Choice :=
  past.reverse.find? fun choice => choice.request.affinityKey = key

theorem latest_append (key : GoString) (past : List Choice) (choice : Choice) :
    latest key (past ++ [choice])
      = if choice.request.affinityKey = key then some choice else latest key past := by
  unfold latest
  rw [List.reverse_append, List.reverse_singleton, List.singleton_append, List.find?_cons]
  split <;> simp_all

/-- The affinity map is what the history says: under each key the latest choice for it. -/
def Remembers (state : SelectorState) (past : List Choice) : Prop :=
  ∀ key, key ≠ [] → state.affinity.lookup key
    = (latest key past).map fun choice => choice.request.entry choice.index

/-- A call keeps it so. -/
theorem Remembers.apply {state : SelectorState} {past : List Choice} (h : Remembers state past)
    (action : Action) : Remembers (action.apply state) (past ++ action.choice state) := by
  cases action with
  | select request =>
    cases hremembered : request.remembered state with
    | some index =>
      -- affinity serves it: the map stays, and no choice is made
      have hchoice : (Action.select request).choice state = [] := by
        rw [Action.choice, if_neg (by simp [hremembered])]
      rw [hchoice, List.append_nil, Action.apply, Request.select_of_remembered hremembered]
      exact h
    | none =>
      have hchoice : (Action.select request).choice state
          = [⟨request, (request.select state).1.1⟩] := if_pos hremembered
      rw [hchoice, Action.apply]
      intro key hkey
      rw [latest_append]
      dsimp only
      split
      · rename_i hsame
        subst hsame
        rw [Request.select_of_chosen hremembered]
        dsimp only
        rw [if_neg hkey, AList.lookup_insert]
        rfl
      · rename_i hother
        rw [Request.select_lookup (Ne.symm hother), h key hkey]
  | selectPodByName access pods name =>
    intro key hkey
    rw [Action.choice, List.append_nil, Action.apply,
      (selectPodByName_state state access pods name).2, h key hkey]
  | release connectionKey =>
    intro key hkey
    rw [Action.choice, List.append_nil, Action.apply, (release_state state connectionKey).2, h key hkey]

/-- And so does a run. -/
theorem Remembers.run {state : SelectorState} {past : List Choice} (h : Remembers state past)
    (actions : List Action) : Remembers (run state actions) (past ++ choices state actions) := by
  induction actions generalizing state past with
  | nil => simpa [choices, AccessPolicy.run] using h
  | cons action rest ih =>
    have := ih (h.apply action)
    rwa [List.append_assoc] at this

theorem choices_append (state : SelectorState) (actions : List Action) (action : Action) :
    choices state (actions ++ [action]) = choices state actions ++ action.choice (run state actions) := by
  induction actions generalizing state with
  | nil => simp [choices, run]
  | cons first rest ih =>
    rw [List.cons_append, choices, ih, choices, List.append_assoc]
    rfl

/-! ## Stickiness -/

/-- A selection reads a clock that is past Go's zero time, and its Access has a timeout of at least
one second or none. -/
def Request.Timed (request : Request) : Prop :=
  0 < request.draw.now ∧ 0 < affinityTimeout request.access

/-- The selections among the calls are timed. -/
def Action.Timed : Action → Prop
  | .select request => request.Timed
  | .selectPodByName .. | .release _ => True

theorem choices_timed {actions : List Action} (h : ∀ action ∈ actions, action.Timed)
    (state : SelectorState) : ∀ choice ∈ choices state actions, choice.request.Timed := by
  induction actions generalizing state with
  | nil => exact fun _ hchoice => absurd hchoice List.not_mem_nil
  | cons action rest ih =>
    obtain ⟨hfirst, hrest⟩ := List.forall_mem_cons.mp h
    intro choice hchoice
    obtain hchoice | hchoice := List.mem_append.mp hchoice
    · cases action with
      | select request =>
        rw [Action.choice] at hchoice
        split at hchoice
        · rw [List.mem_singleton.mp hchoice]
          exact hfirst
        · exact absurd hchoice List.not_mem_nil
      | selectPodByName => exact absurd hchoice List.not_mem_nil
      | release => exact absurd hchoice List.not_mem_nil
    · exact ih hrest (action.apply state) choice hchoice

section Sticky

variable {request : Request} {state : SelectorState} {choice : Choice}

/-- The entry of a choice serves a selection if the choice stands. -/
theorem remembered_of_stands (hkey : request.affinityKey ≠ [])
    (hlookup : state.affinity.lookup request.affinityKey
      = some (choice.request.entry choice.index)) (hstands : choice.Stands request) :
    ∃ index, request.remembered state = some index ∧
      candidateKey request.candidates index = choice.target := by
  obtain ⟨htime, candidate, hcandidate, htarget⟩ := hstands
  have hfind : (request.candidates.findIdx? fun candidate => candidate.key = choice.target).isSome := by
    rw [List.findIdx?_isSome, List.any_eq_true]
    exact ⟨candidate, hcandidate, by simpa using htarget⟩
  obtain ⟨index, hindex⟩ := Option.isSome_iff_exists.mp hfind
  refine ⟨index, ?_, ?_⟩
  · rw [Request.remembered_eq hkey, hlookup, Option.bind_some, if_neg]
    · exact hindex
    · exact fun hexpired => absurd hexpired.2 (not_lt.mpr htime)
  · obtain ⟨hlt, hget⟩ := List.findIdx?_eq_some_iff_getElem.mp hindex
    rw [candidateKey, List.getElem?_eq_getElem hlt]
    simpa using hget.1

/-- And only then. -/
theorem remembered_of_not_stands (htimed : choice.request.Timed) (hkey : request.affinityKey ≠ [])
    (hlookup : state.affinity.lookup request.affinityKey
      = some (choice.request.entry choice.index)) (hstands : ¬ choice.Stands request) :
    request.remembered state = none := by
  rw [Request.remembered_eq hkey, hlookup, Option.bind_some]
  split
  · rfl
  · rename_i hfresh
    have hexpires : (choice.request.entry choice.index).expiresAt ≠ 0 := by
      obtain ⟨hnow, htimeout⟩ := htimed
      change choice.request.draw.now + affinityTimeout choice.request.access ≠ 0
      omega
    have htime := not_lt.mp fun hlate => hfresh ⟨hexpires, hlate⟩
    rw [List.findIdx?_eq_none_iff]
    intro candidate hcandidate
    exact decide_eq_false fun htarget => hstands ⟨htime, candidate, hcandidate, htarget⟩

end Sticky

/-- Session affinity is sticky and isolated. Take any run of a new selector and a selection with an
affinity key after it. If the latest choice of a strategy for that key was made at most its timeout
ago and its target is a candidate, that target is returned and no choice is made. Otherwise the
strategy chooses, and its choice is the entry from then on. Selections of another Access, for
another type of affinity or another value of the client, selections of a Pod by name and releases
neither read nor change the entry. The order of the clock readings does not matter for this. -/
theorem affinity_sticky_and_isolated {actions : List Action}
    (htimed : ∀ action ∈ actions, action.Timed) :
    (∀ (request : Request) (choice : Choice), request.affinityKey ≠ [] →
      latest request.affinityKey (choices {} actions) = some choice → choice.Stands request →
        request.target (run {} actions) = choice.target ∧
        choices {} (actions ++ [.select request]) = choices {} actions) ∧
    (∀ request : Request, request.affinityKey ≠ [] →
      (∀ choice, latest request.affinityKey (choices {} actions) = some choice →
        ¬ choice.Stands request) →
        (request.select (run {} actions)).1.1 = (request.chosen (run {} actions)).1 ∧
        latest request.affinityKey (choices {} (actions ++ [.select request]))
          = some ⟨request, (request.chosen (run {} actions)).1⟩ ∧
        (request.select (run {} actions)).2.affinity.lookup request.affinityKey
          = some (request.entry (request.chosen (run {} actions)).1)) ∧
    ∀ (action : Action) (identity : Identity), action.Admitted →
      Admitted identity.ns identity.name → ¬ action.IsFor identity → action.LeavesAlone identity := by
  have hremembers : Remembers (run {} actions) (choices {} actions) := by
    have hstart : Remembers {} [] := fun _ _ => rfl
    simpa using hstart.run actions
  refine ⟨?_, ?_, fun action identity haction hidentity h =>
    leavesAlone_of_not_isFor haction hidentity h⟩
  · intro request choice hkey hlatest hstands
    have hlookup := hremembers request.affinityKey hkey
    rw [hlatest] at hlookup
    obtain ⟨index, hindex, htarget⟩ := remembered_of_stands hkey hlookup hstands
    refine ⟨?_, ?_⟩
    · rw [Request.target, Request.select_of_remembered hindex]
      exact htarget
    · rw [choices_append, Action.choice, if_neg (by simp [hindex]), List.append_nil]
  · intro request hkey hstands
    have hlookup := hremembers request.affinityKey hkey
    have hnone : request.remembered (run {} actions) = none := by
      cases hlatest : latest request.affinityKey (choices {} actions) with
      | none =>
        rw [hlatest] at hlookup
        rw [Request.remembered_eq hkey, hlookup]
        rfl
      | some choice =>
        rw [hlatest] at hlookup
        have hmem : choice ∈ choices {} actions := by
          simpa using List.mem_of_find?_eq_some hlatest
        exact remembered_of_not_stands (choices_timed htimed {} choice hmem) hkey hlookup
          (hstands choice hlatest)
    have hselect := Request.select_of_chosen hnone
    refine ⟨by rw [hselect], ?_, ?_⟩
    · rw [choices_append, Action.choice, if_pos hnone, latest_append, if_pos rfl, hselect]
    · rw [hselect]
      dsimp only
      rw [if_neg hkey, AList.lookup_insert]

/-- An Access with two endpoints whose clients stay with the one they got first. -/
def stickyAccess : Access where
  ns := str "team"
  name := str "db"
  spec := { endpoints := [⟨str "a", none⟩, ⟨str "b", none⟩]
            strategy := some { type := .roundRobin, sessionAffinity := some {} } }

/-- A selection by a client that logs in as `db`. -/
def stickyRequest : Request :=
  endpointRequest { now := 1, intn := fun _ => 0 } stickyAccess { sshUser := str "db" } (by simp [stickyAccess])

theorem affinity_sticky_second_selection :
    stickyRequest.target (run {} [.select stickyRequest]) = str "a" :=
  ((affinity_sticky_and_isolated
    (show ∀ action ∈ [Action.select stickyRequest], action.Timed by
      simp [Action.Timed, Request.Timed, stickyRequest, endpointRequest, affinityTimeout, stickyAccess])).1
    stickyRequest ⟨stickyRequest, 0⟩ (by decide) rfl (by
      refine ⟨by decide, ⟨str "a", 1, 0⟩, by decide, by decide⟩)).1

end KubeSsh.AccessPolicy

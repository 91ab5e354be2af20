import KubeSsh.Gateway.SessionPolicy

/-!
# `pkg/gateway`: what the session policy allows

The limits of the options bind every connection: an Access can replace the default shell, the
environment allowlist and the timeouts, but only within them. Environment keys are compared without
regard to case, with entries that end in an asterisk standing for everything that starts with the
rest.

`session_policy_narrows` is the main fact about a policy that `resolveSessionPolicy` accepts.
-/

namespace KubeSsh.Gateway

open Strings AccessPolicy

/-! ## Environment keys -/

/-- An upper case ASCII letter for a lower case one. -/
def asciiUpper (b : UInt8) : UInt8 := if 97 ≤ b ∧ b ≤ 122 then b - 32 else b

/-- `strings.ToUpper`. On ASCII strings it maps every letter; what it does to other runes is left to
the tables of `unicode`. -/
structure ToUpper where
  upper : GoString → GoString
  upper_ascii : ∀ s : GoString, (∀ b ∈ s, b < 128) → upper s = s.map asciiUpper

variable (unicode : ToUpper)

/-- One iteration of the loop of `envAllowlistAllows` (`session_policy.go:91-104`), with the key in
upper case. -/
def envPatternAllows (upperKey pattern : GoString) : Bool :=
  let p := unicode.upper pattern
  if p = str "*" then true
  else if [Byte.star].isSuffixOf p then p.dropLast.isPrefixOf upperKey
  else upperKey = p

/-- `envAllowlistAllows` (`session_policy.go:86-106`). -/
def envAllowlistAllows (allowlist : List GoString) (key : GoString) : Bool :=
  if allowlist = [] then false
  else allowlist.any (envPatternAllows unicode (unicode.upper key))

/-- `envAllowed` (`session_policy.go:75-83`). -/
def EffectiveSessionPolicy.envAllowed (policy : EffectiveSessionPolicy) (key : GoString) : Bool :=
  if ¬ envAllowlistAllows unicode policy.globalEnvAllowlist key then false
  else if policy.accessEnvConfigured && !envAllowlistAllows unicode policy.accessEnvAllowlist key then false
  else true

/-- An entry of an allowlist stands for a key: without regard to case it is the key, or it is the
start of the key and an asterisk. -/
def EnvEntry (entry key : GoString) : Prop :=
  unicode.upper key = unicode.upper entry ∨
    ∃ stem, unicode.upper entry = stem ++ [Byte.star] ∧ stem <+: unicode.upper key

variable {unicode}

theorem envPatternAllows_iff {key pattern : GoString} :
    envPatternAllows unicode (unicode.upper key) pattern = true ↔ EnvEntry unicode pattern key := by
  unfold envPatternAllows EnvEntry
  generalize unicode.upper key = upperKey
  generalize unicode.upper pattern = p
  dsimp only
  by_cases hsuffix : ∃ stem, p = stem ++ [Byte.star]
  · obtain ⟨stem, rfl⟩ := hsuffix
    rw [if_pos (List.isSuffixOf_iff_suffix.mpr ⟨stem, rfl⟩), List.dropLast_concat]
    simp only [List.append_left_inj, exists_eq_left', List.isPrefixOf_iff_prefix, ite_eq_left_iff]
    constructor
    · intro h
      by_cases hstar : stem ++ [Byte.star] = str "*"
      · obtain rfl : stem = [] := List.append_cancel_right (show stem ++ [Byte.star] = [] ++ _ from hstar)
        exact Or.inr List.nil_prefix
      · exact Or.inr (h hstar)
    · rintro (rfl | hstem) _
      · exact List.prefix_append stem [Byte.star]
      · exact hstem
  · have hstar : p ≠ str "*" := fun h => hsuffix ⟨[], h⟩
    have hnot : ¬ [Byte.star].isSuffixOf p = true := fun h =>
      let ⟨stem, hstem⟩ := List.isSuffixOf_iff_suffix.mp h
      hsuffix ⟨stem, hstem.symm⟩
    rw [if_neg hstar, if_neg hnot, decide_eq_true_eq]
    constructor
    · exact Or.inl
    · rintro (h | ⟨stem, hp, -⟩)
      · exact h
      · exact absurd ⟨stem, hp⟩ hsuffix

theorem envAllowlistAllows_iff {allowlist : List GoString} {key : GoString} :
    envAllowlistAllows unicode allowlist key = true ↔ ∃ entry ∈ allowlist, EnvEntry unicode entry key := by
  unfold envAllowlistAllows
  split
  · rename_i hnil
    simp [hnil]
  · simp only [List.any_eq_true, envPatternAllows_iff]

theorem envAllowed_iff {policy : EffectiveSessionPolicy} {key : GoString} :
    policy.envAllowed unicode key = true ↔
      (∃ entry ∈ policy.globalEnvAllowlist, EnvEntry unicode entry key) ∧
        (policy.accessEnvConfigured = true →
          ∃ entry ∈ policy.accessEnvAllowlist, EnvEntry unicode entry key) := by
  rw [← envAllowlistAllows_iff, ← envAllowlistAllows_iff]
  unfold EffectiveSessionPolicy.envAllowed
  cases envAllowlistAllows unicode policy.globalEnvAllowlist key <;>
    cases policy.accessEnvConfigured <;>
    cases envAllowlistAllows unicode policy.accessEnvAllowlist key <;> simp

/-! ## Durations -/

theorem boundedDuration_pos {value limit : ℤ} (hlimit : 0 < limit) :
    0 < boundedDuration value limit ∧ boundedDuration value limit ≤ limit := by
  unfold boundedDuration positiveDuration
  dsimp only
  split
  · omega
  split <;> omega

/-- A positive duration within the limit is kept; there is no limit if the limit is not positive. -/
theorem boundedDuration_of_within {value limit : ℤ} (hvalue : 0 < value)
    (hwithin : limit ≤ 0 ∨ value ≤ limit) : boundedDuration value limit = value := by
  unfold boundedDuration positiveDuration
  dsimp only
  rw [if_neg (by omega)]
  split <;> omega

theorem accessDuration_of_pos {duration limit global : ℤ} (hpos : 0 < duration) :
    accessDuration (some duration) limit global = boundedDuration duration limit := by
  have hpositive : positiveDuration duration = duration := max_eq_left hpos.le
  rw [accessDuration, hpositive, if_pos hpos]

theorem accessDuration_of_not_pos {own : Option ℤ} {limit global : ℤ}
    (h : ∀ duration, own = some duration → duration ≤ 0) : accessDuration own limit global = global := by
  cases own with
  | none => rfl
  | some duration =>
    have hnot : ¬ positiveDuration duration > 0 := by
      unfold positiveDuration
      have := h duration rfl
      omega
    rw [accessDuration, if_neg hnot]

/-- One duration of an accepted policy: bounded by the limit, and the one of the Access if that is
positive and within the limit, else the global one. -/
structure DurationNarrows (limit global : ℤ) (own : Option ℤ) (effective : ℤ) : Prop where
  bounded : 0 < limit → 0 < effective ∧ effective ≤ limit
  kept : ∀ duration, own = some duration → 0 < duration → limit ≤ 0 ∨ duration ≤ limit →
    effective = duration
  inherited : (∀ duration, own = some duration → duration ≤ 0) → effective = global

theorem durationNarrows_accessDuration (value limit : ℤ) (own : Option ℤ) :
    DurationNarrows limit (boundedDuration value limit) own
      (accessDuration own limit (boundedDuration value limit)) := by
  refine ⟨fun hlimit => ?_, fun duration hown hpos hwithin => ?_, accessDuration_of_not_pos⟩
  · by_cases hpos : ∃ duration, own = some duration ∧ 0 < duration
    · obtain ⟨duration, rfl, hduration⟩ := hpos
      rw [accessDuration_of_pos hduration]
      exact boundedDuration_pos hlimit
    · rw [accessDuration_of_not_pos fun duration hown => not_lt.mp fun hduration =>
        hpos ⟨duration, hown, hduration⟩]
      exact boundedDuration_pos hlimit
  · rw [hown, accessDuration_of_pos hpos, boundedDuration_of_within hpos hwithin]

/-! ## The accepted policy -/

/-- What a policy keeps of the options and of the session settings of an Access. -/
structure Narrows (unicode : ToUpper) (opts : Options) (access : Option Access)
    (policy : EffectiveSessionPolicy) : Prop where
  env : ∀ key, policy.envAllowed unicode key = true →
    (∃ entry ∈ opts.policy.limits.envAllowlist, EnvEntry unicode entry key) ∧
      ∃ entry ∈ ((access.bind (·.spec.session)).bind (·.envAllowlist)).getD
        opts.policy.defaults.envAllowlist, EnvEntry unicode entry key
  idleTimeout : DurationNarrows opts.policy.limits.idleTimeout (buildGlobalSessionPolicy opts).idleTimeout
    ((access.bind (·.spec.session)).bind (·.idleTimeout)) policy.idleTimeout
  maxDuration : DurationNarrows opts.policy.limits.maxDuration (buildGlobalSessionPolicy opts).maxDuration
    ((access.bind (·.spec.session)).bind (·.maxDuration)) policy.maxDuration
  shell : ∃ pattern ∈ opts.policy.limits.shells, Wildcard.isMatch pattern policy.defaultShell = true

/-- The lists that a policy checks a key against. -/
theorem allowlists_buildAccessSessionPolicy (opts : Options) (access : Option Access) :
    (buildAccessSessionPolicy opts access).globalEnvAllowlist = opts.policy.limits.envAllowlist ∧
      (buildAccessSessionPolicy opts access).accessEnvConfigured = true ∧
      (buildAccessSessionPolicy opts access).accessEnvAllowlist =
        ((access.bind (·.spec.session)).bind (·.envAllowlist)).getD opts.policy.defaults.envAllowlist := by
  unfold buildAccessSessionPolicy
  cases access.bind (·.spec.session) with
  | none => exact ⟨rfl, rfl, rfl⟩
  | some session => exact ⟨rfl, rfl, rfl⟩

theorem durations_buildAccessSessionPolicy (opts : Options) (access : Option Access) :
    (buildAccessSessionPolicy opts access).idleTimeout =
        accessDuration ((access.bind (·.spec.session)).bind (·.idleTimeout))
          opts.policy.limits.idleTimeout (buildGlobalSessionPolicy opts).idleTimeout ∧
      (buildAccessSessionPolicy opts access).maxDuration =
        accessDuration ((access.bind (·.spec.session)).bind (·.maxDuration))
          opts.policy.limits.maxDuration (buildGlobalSessionPolicy opts).maxDuration := by
  unfold buildAccessSessionPolicy
  cases access.bind (·.spec.session) with
  | none => exact ⟨rfl, rfl⟩
  | some session => exact ⟨rfl, rfl⟩

/-- A policy that `resolveSessionPolicy` accepts is within the limits of the options, whatever the
Access that it is built from asks for. -/
theorem session_policy_narrows (unicode : ToUpper) (opts : Options) (accessPolicy : Bool)
    (sshUser : GoString) (infoExtra : GoMap (List GoString)) (history : ℕ → Store) (n : ℕ)
    (policy : EffectiveSessionPolicy)
    (h : (resolveSessionPolicy opts accessPolicy sshUser infoExtra).run history n = .ok policy) :
    ∃ access, (sessionPolicyAccess accessPolicy sshUser infoExtra).run history n = .ok access ∧
      Narrows unicode opts access policy := by
  unfold resolveSessionPolicy at h
  rw [Reads.run_bind] at h
  split at h
  · cases h
  rename_i access haccess
  dsimp only at h
  split at h
  · cases h
  rename_i hshell
  obtain rfl := Except.ok.inj h
  refine ⟨access, haccess, fun key hkey => ?_, ?_, ?_, Wildcard.matchAny_iff.mp (not_not.mp hshell)⟩
  · obtain ⟨hglobal, hconfigured, hown⟩ := allowlists_buildAccessSessionPolicy opts access
    obtain ⟨hlimit, haccess⟩ := envAllowed_iff.mp hkey
    rw [hglobal] at hlimit
    rw [hown] at haccess
    exact ⟨hlimit, haccess hconfigured⟩
  · rw [(durations_buildAccessSessionPolicy opts access).1]
    exact durationNarrows_accessDuration _ _ _
  · rw [(durations_buildAccessSessionPolicy opts access).2]
    exact durationNarrows_accessDuration _ _ _

/-- `strings.ToUpper` on ASCII strings, with the other bytes kept. -/
def asciiToUpper : ToUpper where
  upper := List.map asciiUpper
  upper_ascii _ _ := rfl

/-- The session policy of the user name `team.notebook` under the default options. -/
theorem session_policy_narrows_notebook :
    (resolveSessionPolicy newDefaultOptions true (str "team.notebook") ∅).run
        (fun _ => notebookCache.store) 0
      = .ok (buildAccessSessionPolicy newDefaultOptions (some notebookAccess)) ∧
    ∃ access, (sessionPolicyAccess true (str "team.notebook") ∅).run (fun _ => notebookCache.store) 0
        = .ok access ∧
      Narrows asciiToUpper newDefaultOptions access
        (buildAccessSessionPolicy newDefaultOptions (some notebookAccess)) :=
  ⟨rfl, session_policy_narrows asciiToUpper newDefaultOptions true (str "team.notebook") ∅
    (fun _ => notebookCache.store) 0 _ rfl⟩

end KubeSsh.Gateway

import KubeSsh.AccessPolicy.Resolver
import KubeSsh.AccessPolicy.Status

/-!
# `pkg/accesspolicy`: projecting the status of an Access

`statusFor` computes the status of an Access from its validity and from the Pods it selects, and
`sync` writes it when it differs from the stored one. Go visits the keys of a map in any order, and
`range` over the material of a credential decides which shared value is found first; a sync
therefore takes the order of its own run, and its clock, as a `Round`.

`converges_iff_verdict` reduces the question whether later syncs of an unchanged Access write
nothing to the verdict of `validateAccess`: it has to be the same in every order.
-/

namespace KubeSsh.AccessPolicy

open Strings

/-! ## Conditions -/

/-- `metav1.Condition`. -/
structure Condition where
  type : GoString
  status : ConditionStatus
  observedGeneration : ℤ
  reason : GoString
  message : GoString
  lastTransitionTime : ℤ
deriving DecidableEq

/-- `apimeta.FindStatusCondition`. -/
def findStatusCondition (conditions : List Condition) (type : GoString) : Option Condition :=
  conditions.find? fun condition => condition.type = type

/-- What a condition says, without the time since which it does. -/
def Condition.untimed (condition : Condition) : Condition := { condition with lastTransitionTime := 0 }

/-- `apimeta.SetStatusCondition`: the condition that is set is found then, and those of other types
are as before. Nothing changes if the list says the same already. -/
structure ConditionSetter where
  set : List Condition → Condition → List Condition
  find_self : ∀ conditions new,
    (findStatusCondition (set conditions new) new.type).map Condition.untimed = some new.untimed
  find_of_ne : ∀ conditions new type, type ≠ new.type →
    findStatusCondition (set conditions new) type = findStatusCondition conditions type
  eq_self : ∀ conditions new,
    (findStatusCondition conditions new.type).map Condition.untimed = some new.untimed →
      set conditions new = conditions

/-! ## The status of an Access -/

/-- `AccessStatusEndpoint`. -/
structure AccessStatusEndpoint where
  address : GoString
  username : GoString := []
deriving DecidableEq

/-- `AccessStatus`. -/
@[ext]
structure AccessStatus where
  observedGeneration : ℤ := 0
  endpoints : List AccessStatusEndpoint := []
  conditions : List Condition := []
deriving DecidableEq

def accessConditionValid : GoString := str "Valid"
def accessConditionReady : GoString := str "Ready"

/-- `AccessStatusController`, with `%q` as the texts of its messages are printed. -/
structure StatusController extends AccessStatusController where
  pods : Option PodLister
  policy : ContainerPolicy := {}
  endpoints : List AccessStatusEndpoint := []
  setter : ConditionSetter
  quote : GoString → GoString
  quote_injective : Function.Injective quote

/-- What one sync takes from outside: the order of `range`, and the times at which it sets the
conditions. -/
structure Round where
  order : RangeOrder
  validTime : ℤ
  readyTime : ℤ

/-- The controller in a run in which `range` follows this order. -/
def AccessStatusController.ranging (c : AccessStatusController) (order : RangeOrder) :
    AccessStatusController :=
  { c with order := order }

/-- `accessStatusEndpoints` (`status_controller.go:254-265`). -/
def accessStatusEndpoints (access : Access) (advertised : List AccessStatusEndpoint) :
    List AccessStatusEndpoint :=
  advertised.map fun endpoint => { endpoint with username := access.ns ++ Byte.dot :: access.name }

namespace StatusController

variable (c : StatusController)

/-- The checks of `statusContainer` on one container (`status_controller.go:272-283`): the Access
and the limit mode allow it, and so does some credential. -/
def containerUsable (access : Access) (container default : GoString) : Bool :=
  let explicit := decide (container ≠ default)
  (if access.spec.containers ≠ [] then containerAllowed access.spec.containers container
    else PodTarget.containerAllowed c.policy.defaultMode explicit container default) &&
  PodTarget.containerAllowed c.policy.limitMode explicit container default &&
  access.spec.credentials.any fun credential => containerAllowed credential.containers container

/-- `statusContainer` (`status_controller.go:267-288`). -/
def statusContainer (pod : Pod) (access : Access) : GoString :=
  match PodTarget.resolveContainer pod [] with
  | .error _ => []
  | .ok (_, default) =>
    (pod.containers.find? fun container => c.containerUsable access container default).getD []

/-- The Ready condition that `statusFor` sets (`status_controller.go:187-251`): status, reason and
message. -/
def readiness (access : Access) (validStatus : ConditionStatus) :
    ConditionStatus × GoString × Message :=
  if validStatus ≠ .isTrue then (.isFalse, str "Invalid", .text "Access is not valid.")
  else if access.spec.type = .external then
    (.isTrue, str "EndpointsConfigured", .text "External endpoints are configured.")
  else match c.pods with
    | none => (.unknown, str "PodCacheUnavailable", .text "Pod informer cache is not available.")
    | some list =>
      match list access.ns access.spec.selector with
      | .error err => (.unknown, str "ListFailed", err)
      | .ok pods =>
        let selectablePods := pods.filter fun pod => c.statusContainer pod access ≠ []
        if candidatePods selectablePods = [] then
          (.isFalse, str "NoTargets", .text "Access selector matches no active Pods.")
        else (.isTrue, str "TargetAvailable", .text "Access has at least one active Pod target.")

/-- A condition about the generation of an Access. -/
def condition (access : Access) (type : GoString) (verdict : ConditionStatus × GoString × Message)
    (now : ℤ) : Condition where
  type := type
  status := verdict.1
  observedGeneration := access.generation
  reason := verdict.2.1
  message := Message.render c.quote verdict.2.2
  lastTransitionTime := now

/-- `statusFor` (`status_controller.go:172-252`) of an Access with a stored status. -/
def statusFor (access : Access) (stored : AccessStatus) (round : Round) : AccessStatus :=
  let valid := (c.toAccessStatusController.ranging round.order).validateAccess access
  let conditions := c.setter.set stored.conditions
    (c.condition access accessConditionValid valid round.validTime)
  { observedGeneration := access.generation
    endpoints := accessStatusEndpoints access c.endpoints
    conditions := c.setter.set conditions
      (c.condition access accessConditionReady (c.readiness access valid.1) round.readyTime) }

/-- `sync` (`status_controller.go:145-170`) of an Access that the cache holds: the status that it
writes, unless the stored one is the same. -/
def sync (access : Access) (stored : AccessStatus) (round : Round) : Option AccessStatus :=
  let status := c.statusFor access stored round
  if stored.observedGeneration = status.observedGeneration ∧ stored.endpoints = status.endpoints ∧
      stored.conditions = status.conditions then none
  else some status

/-- The stored status after a sync. -/
def syncStored (access : Access) (stored : AccessStatus) (round : Round) : AccessStatus :=
  (c.sync access stored round).getD stored

/-- Once a sync has stored its status, no later sync of the same Access writes, whatever the orders
and the times of all these syncs. -/
def Converges (access : Access) : Prop :=
  ∀ (stored : AccessStatus) (round : Round) (rounds : List Round) (later : Round),
    c.sync access (rounds.foldl (c.syncStored access) (c.syncStored access stored round)) later = none

end StatusController

/-! ## A sync writes when its verdict is new -/

namespace StatusController

variable (c : StatusController) (access : Access)

/-- What a run in this order says about the validity of the Access. -/
def verdict (order : RangeOrder) : ConditionStatus × GoString × GoString :=
  let valid := (c.toAccessStatusController.ranging order).validateAccess access
  (valid.1, valid.2.1, Message.render c.quote valid.2.2)

variable {c access}

theorem sync_eq (stored : AccessStatus) (round : Round) :
    c.sync access stored round =
      if c.statusFor access stored round = stored then none else some (c.statusFor access stored round) := by
  refine if_congr ?_ rfl rfl
  rw [AccessStatus.ext_iff]
  exact and_congr eq_comm (and_congr eq_comm eq_comm)

theorem sync_eq_none_iff {stored : AccessStatus} {round : Round} :
    c.sync access stored round = none ↔ c.statusFor access stored round = stored := by
  rw [sync_eq]
  split <;> simp [*]

theorem syncStored_eq_statusFor (stored : AccessStatus) (round : Round) :
    c.syncStored access stored round = c.statusFor access stored round := by
  rw [syncStored, sync_eq]
  split
  · rename_i hsame
    exact hsame.symm
  · rfl

theorem valid_statusFor (stored : AccessStatus) (round : Round) :
    (findStatusCondition (c.statusFor access stored round).conditions accessConditionValid).map
        Condition.untimed =
      some (c.condition access accessConditionValid
        ((c.toAccessStatusController.ranging round.order).validateAccess access) 0) := by
  have hne : accessConditionValid ≠ accessConditionReady := by decide
  exact (congrArg (Option.map Condition.untimed) (c.setter.find_of_ne _ _ _ hne)).trans
    (c.setter.find_self stored.conditions (c.condition access accessConditionValid
      ((c.toAccessStatusController.ranging round.order).validateAccess access) round.validTime))

theorem ready_statusFor (stored : AccessStatus) (round : Round) :
    (findStatusCondition (c.statusFor access stored round).conditions accessConditionReady).map
        Condition.untimed =
      some (c.condition access accessConditionReady (c.readiness access
        ((c.toAccessStatusController.ranging round.order).validateAccess access).1) 0) :=
  c.setter.find_self _ (c.condition access accessConditionReady (c.readiness access
    ((c.toAccessStatusController.ranging round.order).validateAccess access).1) round.readyTime)

/-- The readiness depends on the order of the run through the validity only, so a second status is
the first one exactly if its verdict is the same. -/
theorem statusFor_statusFor_iff (stored : AccessStatus) (round later : Round) :
    c.statusFor access (c.statusFor access stored round) later = c.statusFor access stored round ↔
      c.verdict access round.order = c.verdict access later.order := by
  constructor
  · intro h
    have hvalid := congrArg AccessStatus.conditions h
    have hsame := Option.some.inj ((valid_statusFor (c.statusFor access stored round) later).symm.trans
      (hvalid ▸ valid_statusFor stored round))
    simp only [condition, Condition.mk.injEq] at hsame
    simp only [verdict, Prod.mk.injEq]
    exact ⟨hsame.2.1.symm, hsame.2.2.2.1.symm, hsame.2.2.2.2.1.symm⟩
  · intro h
    simp only [verdict, Prod.mk.injEq] at h
    obtain ⟨hstatus, hreason, hmessage⟩ := h
    have hvalid : c.setter.set (c.statusFor access stored round).conditions
        (c.condition access accessConditionValid
          ((c.toAccessStatusController.ranging later.order).validateAccess access) later.validTime)
        = (c.statusFor access stored round).conditions := by
      refine c.setter.eq_self _ _ ((valid_statusFor stored round).trans ?_)
      rw [condition, hstatus, hreason, hmessage]
      rfl
    have hready : c.setter.set (c.statusFor access stored round).conditions
        (c.condition access accessConditionReady (c.readiness access
          ((c.toAccessStatusController.ranging later.order).validateAccess access).1) later.readyTime)
        = (c.statusFor access stored round).conditions := by
      refine c.setter.eq_self _ _ ((ready_statusFor stored round).trans ?_)
      rw [hstatus]
      rfl
    rw [statusFor, hvalid, hready]
    rfl

theorem converges_iff_verdict :
    c.Converges access ↔ ∀ order later, c.verdict access order = c.verdict access later := by
  constructor
  · intro h order later
    have hnone := h {} ⟨order, 0, 0⟩ [] ⟨later, 0, 0⟩
    rw [List.foldl_nil, syncStored_eq_statusFor, sync_eq_none_iff, statusFor_statusFor_iff] at hnone
    exact hnone
  · intro h stored round rounds later
    have hstays : ∀ other, c.statusFor access (c.statusFor access stored round) other
        = c.statusFor access stored round :=
      fun other => (statusFor_statusFor_iff stored round other).mpr (h _ _)
    have hrounds : rounds.foldl (c.syncStored access) (c.statusFor access stored round)
        = c.statusFor access stored round := by
      induction rounds with
      | nil => rfl
      | cons other rounds ih => rw [List.foldl_cons, syncStored_eq_statusFor, hstays, ih]
    rw [syncStored_eq_statusFor, hrounds, sync_eq_none_iff]
    exact hstays later

end StatusController

end KubeSsh.AccessPolicy

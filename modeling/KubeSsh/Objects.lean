import KubeSsh.Authz.Basic
import Mathlib.Data.PNat.Defs

/-!
# The Kubernetes objects the gateway reads

`Access` objects (`apis/ssh/v1/access_types.go`), the Secrets that hold credentials for them, and
the part of a Pod that resolution looks at. The string enumerations of the API are inductive types;
`unspecified` is the empty string and `other` a value the API server would not admit. `ns` is the
field `Namespace`.

Two facts the API server guarantees are carried by the types: a Pod has a UID, and the weight of an
endpoint is at least 1.
-/

namespace KubeSsh

open Authz

/-- `AccessType`. -/
inductive AccessType
  | unspecified
  | pod
  | external
  | other (text : GoString)
deriving DecidableEq

/-- The string behind an Access type. -/
def AccessType.text : AccessType → GoString
  | .unspecified => []
  | .pod => str "Pod"
  | .external => str "External"
  | .other text => text

/-- `AccessStrategyType`. -/
inductive AccessStrategyType
  | unspecified
  | random
  | roundRobin
  | leastConnections
  | newest
  | oldest
  | other (text : GoString)
deriving DecidableEq

/-- `AccessSessionAffinityType`. -/
inductive AccessSessionAffinityType
  | unspecified
  | user
  | credential
  | sourceIP
  | sshUser
  | other (text : GoString)
deriving DecidableEq

/-- The string behind an affinity type. -/
def AccessSessionAffinityType.text : AccessSessionAffinityType → GoString
  | .unspecified => []
  | .user => str "User"
  | .credential => str "Credential"
  | .sourceIP => str "SourceIP"
  | .sshUser => str "SSHUser"
  | .other text => text

/-- The part of `AccessEndpoint` that selection reads. -/
structure AccessEndpoint where
  name : GoString
  weight : Option ℕ+ := none

/-- `AccessStrategyWeight`. -/
structure AccessStrategyWeight where
  selector : GoMap GoString
  weight : ℤ

/-- `AccessSessionAffinity`. -/
structure AccessSessionAffinity where
  type : AccessSessionAffinityType := .unspecified
  timeoutSeconds : Option ℤ := none

/-- `AccessStrategy`. -/
structure AccessStrategy where
  type : AccessStrategyType := .unspecified
  weights : List AccessStrategyWeight := []
  sessionAffinity : Option AccessSessionAffinity := none

/-- `SessionPolicy`. Durations are in nanoseconds; a `nil` allowlist is not an empty one. -/
structure SessionPolicy where
  defaultShell : GoString := []
  envAllowlist : Option (List GoString) := none
  idleTimeout : Option ℤ := none
  maxDuration : Option ℤ := none

/-- `CapabilityPolicy`. `localForward` is `LocalForward.AllowDestinations`, `remoteForward` is
`RemoteForward.AllowBinds`, `none` when the policy is a nil pointer. -/
structure CapabilityPolicy where
  allow : List Capability := []
  localForward : Option (List GoString) := none
  remoteForward : Option (List GoString) := none

/-- `LocalSecretKeyRef`: a key of a Secret in the namespace of the Access. -/
structure LocalSecretKeyRef where
  name : GoString
  key : GoString

/-- `AccessCredential`. -/
structure AccessCredential where
  username : GoString
  uid : GoString := []
  groups : List GoString := []
  extra : GoMap (List GoString) := ∅
  passwords : List GoString := []
  passwordsFrom : List LocalSecretKeyRef := []
  publicKeys : List GoString := []
  publicKeysFrom : List LocalSecretKeyRef := []
  containers : List GoString := []
  capabilities : CapabilityPolicy := {}

/-- `AccessSpec`. -/
structure AccessSpec where
  gatewayClassName : Option GoString := none
  type : AccessType := .unspecified
  selector : GoMap GoString := ∅
  endpoints : List AccessEndpoint := []
  strategy : Option AccessStrategy := none
  session : Option SessionPolicy := none
  containers : List GoString := []
  credentials : List AccessCredential := []

/-- `Access`. -/
structure Access where
  ns : GoString
  name : GoString
  uid : GoString := []
  generation : ℤ := 0
  spec : AccessSpec := {}

/-- The part of `corev1.Secret` that credentials refer to. -/
structure Secret where
  ns : GoString
  name : GoString
  data : GoMap GoString := ∅

/-- `corev1.PodPhase`, as far as it is compared. -/
inductive PodPhase
  | succeeded
  | failed
  | other (text : GoString)
deriving DecidableEq

/-- `corev1.PodCondition`. -/
structure PodCondition where
  type : GoString
  status : GoString
deriving DecidableEq

/-- The part of `corev1.Pod` that resolution reads. -/
structure Pod where
  ns : GoString
  name : GoString
  uid : GoString
  uid_ne_nil : uid ≠ []
  creationTimestamp : ℤ := 0
  deletionTimestamp : Option ℤ := none
  labels : GoMap GoString := ∅
  annotations : GoMap GoString := ∅
  /-- The names of `spec.containers`, in order. -/
  containers : List GoString := []
  nodeName : GoString := []
  phase : PodPhase := .other (str "Running")
  conditions : List PodCondition := []
  hostIP : GoString := []

end KubeSsh

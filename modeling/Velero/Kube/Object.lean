import Mathlib.Logic.Function.Basic

/-!
# Velero.Kube.Object — the cluster objects the CSI snapshot exposer reads and writes

The fields of `VolumeSnapshot`, `VolumeSnapshotContent`, `PersistentVolumeClaim`,
`PersistentVolume` and `Pod` that `pkg/exposer/csi_snapshot.go` reads or sets, under their Go
names.  A Go `map[string]string` is an association list (`StrMap`), a Go pointer an `Option`,
a `resource.Quantity` a number of bytes, a `time.Duration` a number of nanoseconds.  Kubernetes
values that the exposer only copies from one object into another (environment, resources, DNS
config, load affinity) are kept as their text.
-/

namespace Velero.Kube

/-! ## Keys and references -/

/-- `types.NamespacedName`: the key of a namespaced object (`ns` is Go's `Namespace`). -/
structure NamespacedName where
  ns : String
  name : String
deriving DecidableEq, Repr

/-- `corev1api.ObjectReference` of the owner of an exposure. -/
structure ObjectReference where
  kind : String
  ns : String
  name : String
  uid : String
  apiVersion : String
deriving DecidableEq, Repr

/-- The key `(Namespace, Name)` of every object the exposer derives from an owner. -/
def ObjectReference.key (o : ObjectReference) : NamespacedName := ⟨o.ns, o.name⟩

@[simp] theorem ObjectReference.mk_key (o : ObjectReference) :
    (⟨o.ns, o.name⟩ : NamespacedName) = o.key := rfl

/-- `metav1.OwnerReference`; `controller` is `Controller: boolptr.True()`. -/
structure OwnerReference where
  apiVersion : String
  kind : String
  name : String
  uid : String
  controller : Bool
deriving DecidableEq, Repr

/-- A Go `map[string]string`. -/
abbrev StrMap := List (String × String)

/-- `m[k] = v`: replace the entry of `k`, or add one. -/
def StrMap.set (m : StrMap) (k v : String) : StrMap :=
  if m.any (·.1 == k) then m.map (fun e => if e.1 = k then (k, v) else e) else m ++ [(k, v)]

/-- `v, found := m[k]`. -/
def StrMap.get? (m : StrMap) (k : String) : Option String := m.lookup k

/-! ## Snapshots -/

/-- `snapshotv1api.VolumeSnapshotStatus`; `restoreSize` in bytes. -/
structure VolumeSnapshotStatus where
  boundVolumeSnapshotContentName : Option String
  readyToUse : Option Bool
  restoreSize : Option Nat
deriving DecidableEq, Repr

/-- `snapshotv1api.VolumeSnapshot`: `volumeSnapshotContentName` is
`Spec.Source.VolumeSnapshotContentName`. -/
structure VolumeSnapshot where
  name : String
  ns : String
  annotations : StrMap
  volumeSnapshotContentName : Option String
  volumeSnapshotClassName : Option String
  status : Option VolumeSnapshotStatus
deriving DecidableEq, Repr

def VolumeSnapshot.key (v : VolumeSnapshot) : NamespacedName := ⟨v.ns, v.name⟩

@[simp] theorem VolumeSnapshot.mk_key (v : VolumeSnapshot) :
    (⟨v.ns, v.name⟩ : NamespacedName) = v.key := rfl

/-- `snapshotv1api.DeletionPolicy`. -/
inductive DeletionPolicy where
  | delete
  | retain
deriving DecidableEq, Repr

/-- `snapshotv1api.VolumeSnapshotContentStatus`. -/
structure VolumeSnapshotContentStatus where
  snapshotHandle : Option String
deriving DecidableEq, Repr

/-- `snapshotv1api.VolumeSnapshotContent` (cluster scoped).  `volumeSnapshotRef` is the name and
namespace of `Spec.VolumeSnapshotRef`, `snapshotHandle` is `Spec.Source.SnapshotHandle`. -/
structure VolumeSnapshotContent where
  name : String
  annotations : StrMap
  volumeSnapshotRef : NamespacedName
  snapshotHandle : Option String
  deletionPolicy : DeletionPolicy
  driver : String
  volumeSnapshotClassName : Option String
  status : Option VolumeSnapshotContentStatus
deriving DecidableEq, Repr

/-! ## Claims and volumes -/

/-- `corev1api.PersistentVolumeAccessMode` (the two the exposer uses). -/
inductive PersistentVolumeAccessMode where
  | readWriteOnce
  | readOnlyMany
deriving DecidableEq, Repr

/-- `corev1api.PersistentVolumeMode`. -/
inductive PersistentVolumeMode where
  | filesystem
  | block
deriving DecidableEq, Repr

/-- The text of a volume mode, as `fmt` prints it. -/
def PersistentVolumeMode.toString : PersistentVolumeMode → String
  | .filesystem => "Filesystem"
  | .block => "Block"

/-- `corev1api.TypedLocalObjectReference`. -/
structure TypedLocalObjectReference where
  apiGroup : Option String
  kind : String
  name : String
deriving DecidableEq, Repr

/-- `corev1api.PersistentVolumeClaim`: `storageRequest` is `Resources.Requests[storage]`,
`volumeName` is `Spec.VolumeName` (empty until the claim is bound). -/
structure PersistentVolumeClaim where
  name : String
  ns : String
  ownerReferences : List OwnerReference
  accessModes : List PersistentVolumeAccessMode
  storageClassName : Option String
  volumeMode : Option PersistentVolumeMode
  dataSource : Option TypedLocalObjectReference
  storageRequest : Nat
  volumeName : String
deriving DecidableEq, Repr

def PersistentVolumeClaim.key (c : PersistentVolumeClaim) : NamespacedName := ⟨c.ns, c.name⟩

@[simp] theorem PersistentVolumeClaim.mk_key (c : PersistentVolumeClaim) :
    (⟨c.ns, c.name⟩ : NamespacedName) = c.key := rfl

/-- `corev1api.PersistentVolume` (cluster scoped); only its name is read. -/
structure PersistentVolume where
  name : String
deriving DecidableEq, Repr

/-! ## Pods -/

/-- `corev1api.VolumeMount`. -/
structure VolumeMount where
  name : String
  mountPath : String
  readOnly : Bool
deriving DecidableEq, Repr

/-- `corev1api.VolumeDevice`. -/
structure VolumeDevice where
  name : String
  devicePath : String
deriving DecidableEq, Repr

/-- `corev1api.VolumeSource`: a claim, or any other source (inherited from the node-agent). -/
inductive VolumeSource where
  | persistentVolumeClaim (claimName : String) (readOnly : Bool)
  | other (source : String)
deriving DecidableEq, Repr

/-- `corev1api.Volume`. -/
structure Volume where
  name : String
  volumeSource : VolumeSource
deriving DecidableEq, Repr

/-- `corev1api.Container`; `env`, `envFrom` and `resources` are copied through as text. -/
structure Container where
  name : String
  image : String
  imagePullPolicy : String
  command : List String
  args : List String
  volumeMounts : List VolumeMount
  volumeDevices : List VolumeDevice
  env : List String
  envFrom : List String
  resources : String
deriving DecidableEq, Repr

/-- `corev1api.PodSecurityContext`: `runAsUserName` is `WindowsOptions.RunAsUserName`,
`seLinuxType` is `SELinuxOptions.Type`. -/
structure PodSecurityContext where
  runAsUserName : Option String
  runAsUser : Option Int
  seLinuxType : Option String
deriving DecidableEq, Repr

/-- `corev1api.Toleration`. -/
structure Toleration where
  key : String
  operator : String
  effect : String
  value : String
deriving DecidableEq, Repr

/-- `corev1api.TopologySpreadConstraint`; `matchLabels` is its `LabelSelector.MatchLabels`. -/
structure TopologySpreadConstraint where
  maxSkew : Nat
  topologyKey : String
  whenUnsatisfiable : String
  matchLabels : StrMap
deriving DecidableEq, Repr

/-- `corev1api.Pod`.  `os` is `Spec.OS.Name`; `affinity` is the list of load affinities that
`kube.ToSystemAffinity` turns into `Spec.Affinity`; `nodeName` is `Spec.NodeName`, empty until
the scheduler sets it. -/
structure Pod where
  name : String
  ns : String
  ownerReferences : List OwnerReference
  labels : StrMap
  annotations : StrMap
  topologySpreadConstraints : List TopologySpreadConstraint
  nodeSelector : StrMap
  os : String
  affinity : Option (List String)
  containers : List Container
  serviceAccountName : String
  terminationGracePeriodSeconds : Nat
  volumes : List Volume
  restartPolicy : String
  securityContext : PodSecurityContext
  tolerations : List Toleration
  dnsPolicy : String
  dnsConfig : Option String
  nodeName : String := ""
deriving DecidableEq, Repr

def Pod.key (p : Pod) : NamespacedName := ⟨p.ns, p.name⟩

@[simp] theorem Pod.mk_key (p : Pod) : (⟨p.ns, p.name⟩ : NamespacedName) = p.key := rfl

/-- `inheritedPodInfo`: what `getInheritedPodInfo` reads from the node-agent daemonset. -/
structure InheritedPodInfo where
  image : String
  serviceAccount : String
  env : List String
  envFrom : List String
  volumeMounts : List VolumeMount
  volumes : List Volume
  dnsPolicy : String
  dnsConfig : Option String
  logLevelArgs : List String
  logFormatArgs : List String
deriving DecidableEq, Repr

end Velero.Kube

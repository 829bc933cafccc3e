import Velero.Kube.Client

/-!
# Velero.Exposer.Build — the objects `csi_snapshot.go` builds

The parameter record of `Expose`, the constants it reads from packages outside src/, and the
objects that `createBackupVS`, `createBackupVSC`, `createBackupPVC` and `createBackupPod` send to
the cluster, field by field as the source sets them.  `createBackupVSC` reads
`snapshotVSC.Status.SnapshotHandle` through a pointer: `backupVSC` is `none` when that pointer is
nil (the Go code then panics).
-/

namespace Velero.Exposer

open Velero.Kube

/-! ## Constants declared outside src/ -/

/-- `AccessModeFileSystem` of `pkg/exposer/types.go`. -/
def accessModeFileSystem : String := "by-file-system"

/-- `AccessModeBlock` of `pkg/exposer/types.go`. -/
def accessModeBlock : String := "by-block-device"

/-- `podGroupLabel` of `pkg/exposer/types.go`. -/
def podGroupLabel : String := "velero.io/exposer-pod-group"

/-- `podGroupSnapshot` of `pkg/exposer/types.go`. -/
def podGroupSnapshot : String := "snapshot-exposer"

/-- `kube.NodeOSLabel`. -/
def nodeOSLabel : String := "kubernetes.io/os"

/-- `kube.NodeOSWindows`. -/
def nodeOSWindows : String := "windows"

/-- `kube.NodeOSLinux`. -/
def nodeOSLinux : String := "linux"

/-- `snapshotv1api.SchemeGroupVersion.Group`. -/
def snapshotGroup : String := "snapshot.storage.k8s.io"

/-! ## Parameters -/

/-- `nodeagent.BackupPVC`: the backup-PVC settings of one storage class. -/
structure BackupPVC where
  storageClass : String
  readOnly : Bool
  spcNoRelabeling : Bool
deriving DecidableEq, Repr

/-- `CSISnapshotExposeParam`.  Durations are nanoseconds, sizes bytes; `affinity` is the
`*kube.LoadAffinity` (as text), a nil `HostingPodLabels` map is the empty list. -/
structure CSISnapshotExposeParam where
  snapshotName : String
  sourceNamespace : String
  accessMode : String
  storageClass : String
  hostingPodLabels : StrMap
  hostingPodAnnotations : StrMap
  operationTimeout : Nat
  exposeTimeout : Nat
  volumeSize : Nat
  affinity : Option String
  backupPVCConfig : List (String × BackupPVC)
  resources : String
  nodeOS : String
deriving DecidableEq, Repr

/-- The key of the source snapshot an exposure is for. -/
def CSISnapshotExposeParam.sourceKey (p : CSISnapshotExposeParam) : NamespacedName :=
  ⟨p.sourceNamespace, p.snapshotName⟩

@[simp] theorem CSISnapshotExposeParam.mk_sourceKey (p : CSISnapshotExposeParam) :
    (⟨p.sourceNamespace, p.snapshotName⟩ : NamespacedName) = p.sourceKey := rfl

/-! ## `Duration.String` -/

/-- `fmtFrac`: the digits of `v % 10^prec` after a `.`, trailing zeros dropped; nothing when the
fraction is zero. -/
def fmtFrac (v prec : Nat) : String :=
  let f := v % Nat.pow 10 prec
  if f = 0 then "" else
  let digits := Nat.toDigits 10 f
  let padded := List.replicate (prec - digits.length) '0' ++ digits
  "." ++ String.mk (padded.reverse.dropWhile (· = '0')).reverse

/-- `time.Duration.String` of a non-negative duration in nanoseconds. -/
def durationString (d : Nat) : String :=
  if d = 0 then "0s"
  else if d < 1000 then toString d ++ "ns"
  else if d < 1000000 then toString (d / 1000) ++ fmtFrac d 3 ++ "µs"
  else if d < 1000000000 then toString (d / 1000000) ++ fmtFrac d 6 ++ "ms"
  else
    let s := d / 1000000000
    let secs := toString (s % 60) ++ fmtFrac d 9 ++ "s"
    let m := s / 60
    if m = 0 then secs else
    let mins := toString (m % 60) ++ "m" ++ secs
    if m / 60 = 0 then mins else toString (m / 60) ++ "h" ++ mins

example : durationString 90000000000 = "1m30s" := by decide

example : durationString 1500000 = "1.5ms" := by decide

/-! ## Settings `Expose` computes -/

/-- `getVolumeModeByAccessMode`. -/
def getVolumeModeByAccessMode (accessMode : String) : Except String PersistentVolumeMode :=
  if accessMode = accessModeFileSystem then .ok .filesystem
  else if accessMode = accessModeBlock then .ok .block
  else .error ("unsupported access mode " ++ accessMode)

/-- `volumeSize` in `Expose`, from the snapshot's (non-nil) status: its restore size when set and
non-zero, else the requested size. -/
def volumeSizeOf (status : VolumeSnapshotStatus) (p : CSISnapshotExposeParam) : Nat :=
  match status.restoreSize with
  | some q => if q = 0 then p.volumeSize else q
  | none => p.volumeSize

/-- `(backupPVCStorageClass, backupPVCReadOnly, spcNoRelabeling)` in `Expose`: the mapping of the
source storage class in `BackupPVCConfig`, if any, may replace the storage class and make the
claim read-only; relabelling is skipped only for a read-only claim. -/
def backupPVCSettings (p : CSISnapshotExposeParam) : String × Bool × Bool :=
  match p.backupPVCConfig.lookup p.storageClass with
  | none => (p.storageClass, false, false)
  | some value =>
    (if value.storageClass ≠ "" then value.storageClass else p.storageClass,
      value.readOnly, value.spcNoRelabeling && value.readOnly)

/-! ## The objects the exposer creates -/

/-- The owner reference `createBackupPVC` and `createBackupPod` put on their objects. -/
def ownerReferenceOf (ownerObject : ObjectReference) : OwnerReference :=
  ⟨ownerObject.apiVersion, ownerObject.kind, ownerObject.name, ownerObject.uid, true⟩

/-- The snapshot `createBackupVS` creates: named after the owner, bound to the content of the
same name, with the source's annotations and class. -/
def backupVS (ownerObject : ObjectReference) (snapshotVS : VolumeSnapshot) : VolumeSnapshot where
  name := ownerObject.name
  ns := ownerObject.ns
  annotations := snapshotVS.annotations
  volumeSnapshotContentName := some ownerObject.name
  volumeSnapshotClassName := snapshotVS.volumeSnapshotClassName
  status := none

/-- The content `createBackupVSC` creates from the source content and the backup snapshot;
`none` when `snapshotVSC.Status` is nil. -/
def backupVSC (ownerObject : ObjectReference) (snapshotVSC : VolumeSnapshotContent)
    (vs : VolumeSnapshot) : Option VolumeSnapshotContent :=
  snapshotVSC.status.map fun status =>
    { name := ownerObject.name
      annotations := snapshotVSC.annotations
      volumeSnapshotRef := ⟨vs.ns, vs.name⟩
      snapshotHandle := status.snapshotHandle
      deletionPolicy := .delete
      driver := snapshotVSC.driver
      volumeSnapshotClassName := snapshotVSC.volumeSnapshotClassName
      status := none }

/-- The claim `createBackupPVC` creates. -/
def backupPVC (ownerObject : ObjectReference) (backupVS storageClass : String)
    (volumeMode : PersistentVolumeMode) (resource : Nat) (readOnly : Bool) :
    PersistentVolumeClaim where
  name := ownerObject.name
  ns := ownerObject.ns
  ownerReferences := [ownerReferenceOf ownerObject]
  accessModes := [if readOnly then .readOnlyMany else .readWriteOnce]
  storageClassName := some storageClass
  volumeMode := some volumeMode
  dataSource := some ⟨some snapshotGroup, "VolumeSnapshot", backupVS⟩
  storageRequest := resource
  volumeName := ""

/-- Modelled from the spec: `kube.MakePodPVCAttachment` (not under src/).  A block claim becomes
a device at `/<volumeName>`, any other a mount there, read-only with the claim. -/
def makePodPVCAttachment (volumeName : String) (volumeMode : Option PersistentVolumeMode)
    (readOnly : Bool) : List VolumeMount × List VolumeDevice × String :=
  let volumePath := "/" ++ volumeName
  if volumeMode = some .block then ([], [⟨volumeName, volumePath⟩], volumePath)
  else ([⟨volumeName, volumePath, readOnly⟩], [], volumePath)

/-- The pod `createBackupPod` creates, from the node-agent's inherited pod info. -/
def backupPod (ownerObject : ObjectReference) (backupPVC : PersistentVolumeClaim)
    (operationTimeout : Nat) (label annotation : StrMap) (affinity : Option String)
    (resources : String) (backupPVCReadOnly spcNoRelabeling : Bool) (nodeOS : String)
    (podInfo : InheritedPodInfo) : Pod :=
  let volumeName := ownerObject.uid
  let attachment := makePodPVCAttachment volumeName backupPVC.volumeMode backupPVCReadOnly
  let volumeMode := backupPVC.volumeMode.getD .filesystem
  let args := ["--volume-path=" ++ attachment.2.2, "--volume-mode=" ++ volumeMode.toString,
    "--data-upload=" ++ ownerObject.name, "--resource-timeout=" ++ durationString operationTimeout]
  let windows := decide (nodeOS = nodeOSWindows)
  { name := ownerObject.name
    ns := ownerObject.ns
    ownerReferences := [ownerReferenceOf ownerObject]
    labels := label.set podGroupLabel podGroupSnapshot
    annotations := annotation
    topologySpreadConstraints :=
      [⟨1, "kubernetes.io/hostname", "ScheduleAnyway", [(podGroupLabel, podGroupSnapshot)]⟩]
    nodeSelector := [(nodeOSLabel, if windows then nodeOSWindows else nodeOSLinux)]
    os := if windows then nodeOSWindows else nodeOSLinux
    affinity := affinity.map fun a => [a]
    containers := [
      { name := ownerObject.uid
        image := podInfo.image
        imagePullPolicy := "Never"
        command := ["/velero", "data-mover", "backup"]
        args := args ++ podInfo.logFormatArgs ++ podInfo.logLevelArgs
        volumeMounts := attachment.1 ++ podInfo.volumeMounts
        volumeDevices := attachment.2.1
        env := podInfo.env
        envFrom := podInfo.envFrom
        resources := resources }]
    serviceAccountName := podInfo.serviceAccount
    terminationGracePeriodSeconds := 0
    volumes := ⟨volumeName, .persistentVolumeClaim backupPVC.name backupPVCReadOnly⟩ :: podInfo.volumes
    restartPolicy := "Never"
    securityContext :=
      if windows then ⟨some "ContainerAdministrator", none, none⟩
      else ⟨none, some 0, if spcNoRelabeling then some "spc_t" else none⟩
    tolerations := if windows then [⟨"os", "Equal", "NoSchedule", "windows"⟩] else []
    dnsPolicy := podInfo.dnsPolicy
    dnsConfig := podInfo.dnsConfig }

/-! ## Names -/

@[simp] theorem backupVS_name (o : ObjectReference) (v : VolumeSnapshot) :
    (backupVS o v).name = o.name := rfl

@[simp] theorem backupVS_ns (o : ObjectReference) (v : VolumeSnapshot) :
    (backupVS o v).ns = o.ns := rfl

@[simp] theorem backupVS_key (o : ObjectReference) (v : VolumeSnapshot) :
    (backupVS o v).key = o.key := rfl

@[simp] theorem backupPVC_name (o : ObjectReference) (b s : String) (m : PersistentVolumeMode)
    (n : Nat) (r : Bool) : (backupPVC o b s m n r).name = o.name := rfl

@[simp] theorem backupPVC_ns (o : ObjectReference) (b s : String) (m : PersistentVolumeMode)
    (n : Nat) (r : Bool) : (backupPVC o b s m n r).ns = o.ns := rfl

@[simp] theorem backupPVC_key (o : ObjectReference) (b s : String) (m : PersistentVolumeMode)
    (n : Nat) (r : Bool) : (backupPVC o b s m n r).key = o.key := rfl

@[simp] theorem backupPod_key (o : ObjectReference) (c : PersistentVolumeClaim) (t : Nat)
    (l a : StrMap) (af : Option String) (r : String) (ro nr : Bool) (os : String)
    (i : InheritedPodInfo) : (backupPod o c t l a af r ro nr os i).key = o.key := rfl

theorem backupVSC_name {o : ObjectReference} {c : VolumeSnapshotContent} {v : VolumeSnapshot}
    {c' : VolumeSnapshotContent} (h : backupVSC o c v = some c') : c'.name = o.name := by
  unfold backupVSC at h
  cases hs : c.status <;> simp [hs] at h
  rw [← h]

theorem backupVSC_eq_none {o : ObjectReference} {c : VolumeSnapshotContent} {v : VolumeSnapshot} :
    backupVSC o c v = none ↔ c.status = none := by
  simp [backupVSC]

/-! ## Settings -/

section Settings

variable (p : CSISnapshotExposeParam)

/-- The access mode gives the block volume mode exactly when it is `AccessModeBlock`. -/
theorem getVolumeModeByAccessMode_block {accessMode : String} {mode : PersistentVolumeMode}
    (h : getVolumeModeByAccessMode accessMode = .ok mode) :
    mode = .block ↔ accessMode = accessModeBlock := by
  unfold getVolumeModeByAccessMode at h
  split at h
  · cases h
    simp [*, accessModeFileSystem, accessModeBlock]
  · split at h
    · cases h
      simp [*]
    · cases h

/-- The restore size of the snapshot when it is set and non-zero, else the requested size. -/
theorem volumeSizeOf_restoreSize {st : VolumeSnapshotStatus} {q : Nat} (h : st.restoreSize = some q)
    (hq : q ≠ 0) : volumeSizeOf st p = q := by
  simp [volumeSizeOf, h, hq]

theorem volumeSizeOf_requested {st : VolumeSnapshotStatus}
    (h : st.restoreSize = none ∨ st.restoreSize = some 0) : volumeSizeOf st p = p.volumeSize := by
  rcases h with h | h <;> simp [volumeSizeOf, h]

/-- The claim is read-only exactly when the mapping of the source storage class says so. -/
theorem backupPVCSettings_readOnly :
    (backupPVCSettings p).2.1 = true ↔
      ∃ b, p.backupPVCConfig.lookup p.storageClass = some b ∧ b.readOnly = true := by
  unfold backupPVCSettings
  split <;> simp [*]

/-- Relabelling is skipped exactly when the mapping asks for it and makes the claim read-only. -/
theorem backupPVCSettings_spcNoRelabeling :
    (backupPVCSettings p).2.2 = true ↔ ∃ b, p.backupPVCConfig.lookup p.storageClass = some b ∧
      b.readOnly = true ∧ b.spcNoRelabeling = true := by
  unfold backupPVCSettings
  split <;> simp [*, and_comm]

/-- The storage class of the mapping when it names one, else the source's. -/
theorem backupPVCSettings_storageClass {b : BackupPVC}
    (h : p.backupPVCConfig.lookup p.storageClass = some b) (hb : b.storageClass ≠ "") :
    (backupPVCSettings p).1 = b.storageClass := by
  simp [backupPVCSettings, h, hb]

theorem backupPVCSettings_storageClass_source
    (h : ∀ b, p.backupPVCConfig.lookup p.storageClass = some b → b.storageClass = "") :
    (backupPVCSettings p).1 = p.storageClass := by
  unfold backupPVCSettings
  split <;> simp_all

end Settings

theorem backupPVC_readOnlyMany (o : ObjectReference) (b s : String) (m : PersistentVolumeMode)
    (n : Nat) (r : Bool) : (backupPVC o b s m n r).accessModes = [.readOnlyMany] ↔ r = true := by
  cases r <;> simp [backupPVC]

/-- Only a Linux pod whose relabelling is skipped runs with the SELinux type `spc_t`. -/
theorem backupPod_seLinuxType (o : ObjectReference) (c : PersistentVolumeClaim) (t : Nat)
    (l a : StrMap) (af : Option String) (r : String) (ro nr : Bool) (os : String)
    (i : InheritedPodInfo) :
    (backupPod o c t l a af r ro nr os i).securityContext.seLinuxType = some "spc_t" ↔
      os ≠ nodeOSWindows ∧ nr = true := by
  by_cases h : os = nodeOSWindows <;> cases nr <;> simp [backupPod, h]

end Velero.Exposer

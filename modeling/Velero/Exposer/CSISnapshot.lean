import Velero.Exposer.Build

/-!
# Velero.Exposer.CSISnapshot — the functions of the CSI snapshot exposer

The functions of `csiSnapshotExposer`, statement by statement: `Expose`, `CleanUp`, `GetExposed`,
`PeekExposed` and `DiagnoseExpose`.

* `goCall f msg k`: `x, err := f(...); if err != nil { return errors.Wrap(err, msg) }`, then `k x`.
* `deferIfErr c body`: `defer func() { if err != nil { c } }()` before the rest `body` of a
  function.  The body reports the value of its variable `err` when it ends (`Exit.err`); the
  closure reads it then, on a return and on a panic alike.  All assignments to `err` in `Expose`
  are to the one variable of the function scope, so one `err` per body is the source's.
-/

namespace Velero.Exposer

open Velero.Kube

/-- The Go error a helper returns for the cluster's answer. -/
def GoResult.ofExcept {α : Type} : Except StatusError α → GoResult α
  | .ok a => .ok a
  | .error e => .error e.toString

@[simp] theorem GoResult.ofExcept_ok {α : Type} (a : α) :
    GoResult.ofExcept (.ok a : Except StatusError α) = .ok a := rfl

@[simp] theorem GoResult.ofExcept_error {α : Type} (e : StatusError) :
    GoResult.ofExcept (.error e : Except StatusError α) = .error e.toString := rfl

/-- Issue `r` and return its answer as a Go result. -/
def callGo (r : Request) : Prog (GoResult r.Reply) := .call r fun x => .pure (GoResult.ofExcept x)

/-- How a function body ends: what it returns (or that it panics), and its `err` then. -/
structure Exit where
  ret : GoResult Unit
  err : Option String
deriving DecidableEq, Repr

/-- `x, err := f(...); if err != nil { return errors.Wrap(err, msg) }; k x`.  On a panic in `f`
the variable `err` keeps the nil of the previous call. -/
def goCall {α : Type} (f : Prog (GoResult α)) (msg : String) (k : α → Prog Exit) : Prog Exit :=
  f >>= fun
    | .ok a => k a
    | .error e => .pure ⟨.error (wrap msg e), some e⟩
    | .panic m => .pure ⟨.panic m, none⟩

/-- `defer func() { if err != nil { cleanup } }()` followed by the rest of the function. -/
def deferIfErr (cleanup : Prog Unit) (body : Prog Exit) : Prog Exit :=
  body >>= fun x => if x.err.isSome then cleanup >>= fun _ => .pure x else .pure x

/-- The end of a function body that reaches `return nil` after a successful call. -/
def returnNil : Prog Exit := .pure ⟨.ok (), none⟩

/-! ## The helpers of `pkg/util/csi` and `pkg/util/kube` -/

/-- `csi.WaitVolumeSnapshotReady`. -/
def waitVolumeSnapshotReady (volumeSnapshot volumeSnapshotNS : String) :
    Prog (GoResult VolumeSnapshot) :=
  callGo (.waitVolumeSnapshotReady ⟨volumeSnapshotNS, volumeSnapshot⟩)

/-- `csi.GetVolumeSnapshotContentForVolumeSnapshot`. -/
def getVolumeSnapshotContentForVolumeSnapshot (volSnap : VolumeSnapshot) :
    Prog (GoResult VolumeSnapshotContent) :=
  callGo (.getVolumeSnapshotContentForVolumeSnapshot volSnap)

/-- `csi.RetainVSC`. -/
def retainVSC (vsc : VolumeSnapshotContent) : Prog (GoResult (Option VolumeSnapshotContent)) :=
  callGo (.retainVSC vsc)

/-- `csi.EnsureDeleteVS`. -/
def ensureDeleteVS (vsName vsNamespace : String) : Prog (GoResult Unit) :=
  callGo (.ensureDeleteVS ⟨vsNamespace, vsName⟩)

/-- `csi.EnsureDeleteVSC`. -/
def ensureDeleteVSC (vscName : String) : Prog (GoResult Unit) :=
  callGo (.ensureDeleteVSC vscName)

/-- `csi.DeleteVolumeSnapshotIfAny`: its errors are only logged. -/
def deleteVolumeSnapshotIfAny (vsName vsNamespace : String) : Prog Unit :=
  .call (.deleteVolumeSnapshotIfAny ⟨vsNamespace, vsName⟩) fun _ => .pure ()

/-- `kube.DeletePVAndPVCIfAny`: deletes the claim and the volume bound to it; errors are logged. -/
def deletePVAndPVCIfAny (pvcName pvcNamespace : String) : Prog Unit :=
  .call (.deletePVAndPVCIfAny ⟨pvcNamespace, pvcName⟩) fun _ => .pure ()

/-- `kube.DeletePodIfAny`: its errors are only logged. -/
def deletePodIfAny (podName podNamespace : String) : Prog Unit :=
  .call (.deletePodIfAny ⟨podNamespace, podName⟩) fun _ => .pure ()

/-- `getInheritedPodInfo`. -/
def getInheritedPodInfo (ns nodeOS : String) : Prog (GoResult InheritedPodInfo) :=
  callGo (.getInheritedPodInfo ns nodeOS)

/-! ## The create helpers of `csiSnapshotExposer` -/

/-- `createBackupVS`. -/
def createBackupVS (ownerObject : ObjectReference) (snapshotVS : VolumeSnapshot) :
    Prog (GoResult VolumeSnapshot) :=
  callGo (.createVolumeSnapshot (backupVS ownerObject snapshotVS))

/-- `createBackupVSC`: building the object dereferences `snapshotVSC.Status`. -/
def createBackupVSC (ownerObject : ObjectReference) (snapshotVSC : VolumeSnapshotContent)
    (vs : VolumeSnapshot) : Prog (GoResult VolumeSnapshotContent) :=
  match backupVSC ownerObject snapshotVSC vs with
  | none => .pure (.panic nilDereference)
  | some vsc => callGo (.createVolumeSnapshotContent vsc)

/-- `createBackupPVC`. -/
def createBackupPVC (ownerObject : ObjectReference) (backupVS storageClass accessMode : String)
    (resource : Nat) (readOnly : Bool) : Prog (GoResult PersistentVolumeClaim) :=
  match getVolumeModeByAccessMode accessMode with
  | .error e => .pure (.error e)
  | .ok volumeMode =>
    .call (.createPersistentVolumeClaim
        (backupPVC ownerObject backupVS storageClass volumeMode resource readOnly)) fun
      | .ok created => .pure (.ok created)
      | .error e => .pure (.error (wrap "error to create pvc" e.toString))

/-- `createBackupPod`. -/
def createBackupPod (ownerObject : ObjectReference) (backupPVC : PersistentVolumeClaim)
    (operationTimeout : Nat) (label annotation : StrMap) (affinity : Option String)
    (resources : String) (backupPVCReadOnly spcNoRelabeling : Bool) (nodeOS : String) :
    Prog (GoResult Pod) :=
  getInheritedPodInfo ownerObject.ns nodeOS >>= fun
    | .ok podInfo => callGo (.createPod (backupPod ownerObject backupPVC operationTimeout label
        annotation affinity resources backupPVCReadOnly spcNoRelabeling nodeOS podInfo))
    | .error e => .pure (.error (wrap "error to get inherited pod info from node-agent" e))
    | .panic m => .pure (.panic m)

/-! ## `Expose` -/

/-- The part of `Expose` after the backup claim is created and its deferred delete registered. -/
def exposePod (ownerObject : ObjectReference) (p : CSISnapshotExposeParam)
    (backupPVC : PersistentVolumeClaim) (backupPVCReadOnly spcNoRelabeling : Bool) : Prog Exit :=
  goCall (createBackupPod ownerObject backupPVC p.operationTimeout p.hostingPodLabels
      p.hostingPodAnnotations p.affinity p.resources backupPVCReadOnly spcNoRelabeling p.nodeOS)
    "error to create backup pod" fun backupPod =>
  deferIfErr (deletePodIfAny backupPod.name backupPod.ns) returnNil

/-- The part of `Expose` after the backup snapshot is created and its deferred delete registered. -/
def exposeContent (ownerObject : ObjectReference) (p : CSISnapshotExposeParam)
    (volumeSnapshot : VolumeSnapshot) (vsc : VolumeSnapshotContent) (backupVS : VolumeSnapshot) :
    Prog Exit :=
  goCall (createBackupVSC ownerObject vsc backupVS)
    "error to create backup volume snapshot content" fun _ =>
  goCall (retainVSC vsc) "error to retain volume snapshot content" fun _ =>
  goCall (ensureDeleteVS volumeSnapshot.name volumeSnapshot.ns)
    "error to delete volume snapshot" fun _ =>
  goCall (ensureDeleteVSC vsc.name) "error to delete volume snapshot content" fun _ =>
  match volumeSnapshot.status with
  | none => .pure ⟨.panic nilDereference, none⟩
  | some status =>
    let settings := backupPVCSettings p
    goCall (createBackupPVC ownerObject backupVS.name settings.1 p.accessMode
        (volumeSizeOf status p) settings.2.1)
      "error to create backup pvc" fun backupPVC =>
    deferIfErr (deletePVAndPVCIfAny backupPVC.name backupPVC.ns)
      (exposePod ownerObject p backupPVC settings.2.1 settings.2.2)

/-- `Expose`: the body and how it ends; the function returns `ret` of the result. -/
def expose (ownerObject : ObjectReference) (p : CSISnapshotExposeParam) : Prog Exit :=
  goCall (waitVolumeSnapshotReady p.snapshotName p.sourceNamespace)
    "error wait volume snapshot ready" fun volumeSnapshot =>
  goCall (getVolumeSnapshotContentForVolumeSnapshot volumeSnapshot)
    "error to get volume snapshot content" fun vsc =>
  goCall (createBackupVS ownerObject volumeSnapshot)
    "error to create backup volume snapshot" fun backupVS =>
  deferIfErr (deleteVolumeSnapshotIfAny backupVS.name backupVS.ns)
    (exposeContent ownerObject p volumeSnapshot vsc backupVS)

/-! ## `CleanUp` and `GetExposed` -/

/-- `CleanUp`: every delete is "if any" and only logs its errors. -/
def cleanUp (ownerObject : ObjectReference) (vsName sourceNamespace : String) : Prog Unit :=
  deletePodIfAny ownerObject.name ownerObject.ns >>= fun _ =>
  deletePVAndPVCIfAny ownerObject.name ownerObject.ns >>= fun _ =>
  deleteVolumeSnapshotIfAny ownerObject.name ownerObject.ns >>= fun _ =>
  deleteVolumeSnapshotIfAny vsName sourceNamespace

/-- `ExposeByPod`, the payload of the `ExposeResult` that `GetExposed` returns. -/
structure ExposeByPod where
  hostingPod : Pod
  hostingContainer : String
  volumeName : String
  nodeOS : Option String
deriving DecidableEq, Repr

/-- Where `for i = 0; i < len(volumes); i++ { if volumes[i].Name == volumeName { break } }` stops. -/
def volumeIndex (volumes : List Volume) (volumeName : String) : Nat :=
  match volumes with
  | [] => 0
  | v :: vs => if v.name = volumeName then 0 else volumeIndex vs volumeName + 1

/-- `GetExposed`: `ok none` is the `(nil, nil)` of a pod not (yet) on this node. -/
def getExposed (ownerObject : ObjectReference) : Prog (Except String (Option ExposeByPod)) :=
  let backupPodName := ownerObject.name
  let backupPVCName := ownerObject.name
  let containerName := ownerObject.uid
  let volumeName := ownerObject.uid
  .call (.getPod ⟨ownerObject.ns, backupPodName⟩) fun
    | .error .notFound => .pure (.ok none)
    | .error e => .pure (.error (wrap ("error to get backup pod " ++ backupPodName) e.toString))
    | .ok pod =>
      .call (.waitPVCBound ⟨ownerObject.ns, backupPVCName⟩) fun
        | .error e =>
          .pure (.error (wrap ("error to wait backup PVC bound, " ++ backupPVCName) e.toString))
        | .ok _ =>
          if volumeIndex pod.volumes volumeName = pod.volumes.length then
            .pure (.error ("backup pod " ++ pod.name ++ " doesn't have the expected backup volume"))
          else
            .pure (.ok (some ⟨pod, containerName, volumeName, pod.nodeSelector.get? nodeOSLabel⟩))

/-- `PeekExposed`, with `isPodUnrecoverable` for `kube.IsPodUnrecoverable` (not under src/): whether
it finds the pod unrecoverable, and its message.  `some message` is `errors.New(message)`. -/
def peekExposed (isPodUnrecoverable : Pod → Bool × String) (ownerObject : ObjectReference) :
    Prog (Option String) :=
  let backupPodName := ownerObject.name
  .call (.getPod ⟨ownerObject.ns, backupPodName⟩) fun
    | .error .notFound => .pure none
    | .error _ => .pure none
    | .ok pod =>
      let (podFailed, message) := isPodUnrecoverable pod
      if podFailed then .pure (some message) else .pure none

/-! ## `DiagnoseExpose` -/

/-- The text helpers `DiagnoseExpose` calls (not under src/): `kube.DiagnosePod`,
`kube.DiagnosePVC`, `kube.DiagnosePV`, `csi.DiagnoseVS` and `csi.DiagnoseVSC`. -/
structure Diagnosers where
  pod : Pod → String
  pvc : PersistentVolumeClaim → String
  pv : PersistentVolume → String
  vs : VolumeSnapshot → String
  vsc : VolumeSnapshotContent → String

/-- `fmt.Sprintf("error getting backup <kind> %s, err: %v\n", name, err)`. -/
def errorGetting (kind name : String) (err : StatusError) : String :=
  "error getting backup " ++ kind ++ " " ++ name ++ ", err: " ++ err.toString ++ "\n"

/-- What a lookup of `DiagnoseExpose` adds to the report at once: its error line, if it failed. -/
def lookupLine {α : Type} (kind name : String) : Except StatusError α → String
  | .error err => errorGetting kind name err
  | .ok _ => ""

/-- The part of the report on a found object; nothing for a failed lookup. -/
def foundPart {α : Type} (part : α → Prog String) : Except StatusError α → Prog String
  | .ok a => part a
  | .error _ => .pure ""

/-- The pod's diagnosis, and whether the node-agent runs on the pod's node, once it has one. -/
def diagnosePodPart (d : Diagnosers) (ns : String) (pod : Pod) : Prog String :=
  if pod.nodeName ≠ "" then
    .call (.isRunningInNode ns pod.nodeName) fun
      | .error err => .pure (d.pod pod ++ "node-agent is not running in node " ++ pod.nodeName ++
          ", err: " ++ err.toString ++ "\n")
      | .ok _ => .pure (d.pod pod)
  else .pure (d.pod pod)

/-- The claim's diagnosis, and that of its volume, once it is bound. -/
def diagnosePVCPart (d : Diagnosers) (pvc : PersistentVolumeClaim) : Prog String :=
  if pvc.volumeName ≠ "" then
    .call (.getPersistentVolume pvc.volumeName) fun
      | .error err => .pure (d.pvc pvc ++ errorGetting "pv" pvc.volumeName err)
      | .ok pv => .pure (d.pvc pvc ++ d.pv pv)
  else .pure (d.pvc pvc)

/-- The snapshot's diagnosis, and that of the content its status names, if any. -/
def diagnoseVSPart (d : Diagnosers) (vs : VolumeSnapshot) : Prog String :=
  match vs.status.bind (·.boundVolumeSnapshotContentName) with
  | some n =>
    if n ≠ "" then
      .call (.getVolumeSnapshotContent n) fun
        | .error err => .pure (d.vs vs ++ errorGetting "vsc" n err)
        | .ok vsc => .pure (d.vs vs ++ d.vsc vsc)
    else .pure (d.vs vs)
  | none => .pure (d.vs vs)

/-- `DiagnoseExpose`: the three lookups, each whatever the others answered, then the parts of the
objects found, between the opening and closing lines. -/
def diagnoseExpose (d : Diagnosers) (ownerObject : ObjectReference) : Prog String :=
  let backupPodName := ownerObject.name
  let backupPVCName := ownerObject.name
  let backupVSName := ownerObject.name
  .call (.getPod ⟨ownerObject.ns, backupPodName⟩) fun pod =>
  .call (.getPersistentVolumeClaim ⟨ownerObject.ns, backupPVCName⟩) fun pvc =>
  .call (.getVolumeSnapshot ⟨ownerObject.ns, backupVSName⟩) fun vs =>
  foundPart (diagnosePodPart d ownerObject.ns) pod >>= fun podPart =>
  foundPart (diagnosePVCPart d) pvc >>= fun pvcPart =>
  foundPart (diagnoseVSPart d) vs >>= fun vsPart =>
  .pure ("begin diagnose CSI exposer\n" ++ lookupLine "pod" backupPodName pod ++
    lookupLine "pvc" backupPVCName pvc ++ lookupLine "vs" backupVSName vs ++ podPart ++ pvcPart ++
    vsPart ++ "end diagnose CSI exposer")

end Velero.Exposer

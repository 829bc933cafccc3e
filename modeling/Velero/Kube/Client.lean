import Velero.Kube.Store

/-!
# Velero.Kube.Client — requests to the cluster, programs that issue them, and runs

* `GoResult`: how a Go call ends (value with a nil error, error, runtime panic).
* `Request`: one call of the exposer to the cluster.  Each `csi` / `kube` helper the exposer calls
  is one atomic request; their answers are `Request.exec`.  The helpers live in `pkg/util/csi` and
  `pkg/util/kube`, which are not under src/: `Request.exec` models them from the spec.  A poll
  (`WaitVolumeSnapshotReady`, `WaitPVCBound`, the waits of `EnsureDelete*`) sees one store, so it
  succeeds at once or times out.  The store does not hold the node-agent's pods: whether
  `IsRunningInNode` fails is the oracle's alone.
* `Prog α`: a program issuing requests, each continuation receiving the answer.
* `Prog.run o p w`: `p` run against `w`; the oracle `o` may fail any request (before it has any
  effect), and every request is appended to the trace with whether it succeeded.
-/

namespace Velero.Kube

/-- How a Go call ends: a value with a nil error, an error, or a runtime panic. -/
inductive GoResult (α : Type) where
  | ok (a : α)
  | error (msg : String)
  | panic (msg : String)
deriving DecidableEq, Repr

/-- The message of the Go runtime on a nil dereference. -/
def nilDereference : String := "invalid memory address or nil pointer dereference"

/-- `errors.Wrap(cause, msg)`. -/
def wrap (msg cause : String) : String := msg ++ ": " ++ cause

/-- Why a request failed: the reasons `apierrors` tells apart, a poll that timed out, and any other
failure. -/
inductive StatusError where
  | notFound
  | alreadyExists
  | timeout
  | other (msg : String)
deriving DecidableEq, Repr

def StatusError.toString : StatusError → String
  | .notFound => "not found"
  | .alreadyExists => "already exists"
  | .timeout => "timed out waiting for the condition"
  | .other msg => msg

/-- One atomic request of the exposer to the cluster. -/
inductive Request where
  | waitVolumeSnapshotReady (key : NamespacedName)
  | getVolumeSnapshotContentForVolumeSnapshot (vs : VolumeSnapshot)
  | createVolumeSnapshot (vs : VolumeSnapshot)
  | createVolumeSnapshotContent (vsc : VolumeSnapshotContent)
  | retainVSC (vsc : VolumeSnapshotContent)
  | ensureDeleteVS (key : NamespacedName)
  | ensureDeleteVSC (name : String)
  | createPersistentVolumeClaim (pvc : PersistentVolumeClaim)
  | getInheritedPodInfo (ns nodeOS : String)
  | createPod (pod : Pod)
  | deleteVolumeSnapshotIfAny (key : NamespacedName)
  | deletePVAndPVCIfAny (key : NamespacedName)
  | deletePodIfAny (key : NamespacedName)
  | getPod (key : NamespacedName)
  | waitPVCBound (key : NamespacedName)
  | getPersistentVolumeClaim (key : NamespacedName)
  | getVolumeSnapshot (key : NamespacedName)
  | getPersistentVolume (name : String)
  | getVolumeSnapshotContent (name : String)
  | isRunningInNode (ns nodeName : String)
deriving DecidableEq

/-- What a request returns when it succeeds. -/
@[reducible] def Request.Reply : Request → Type
  | .waitVolumeSnapshotReady _ => VolumeSnapshot
  | .getVolumeSnapshotContentForVolumeSnapshot _ => VolumeSnapshotContent
  | .createVolumeSnapshot _ => VolumeSnapshot
  | .createVolumeSnapshotContent _ => VolumeSnapshotContent
  | .retainVSC _ => Option VolumeSnapshotContent
  | .ensureDeleteVS _ => Unit
  | .ensureDeleteVSC _ => Unit
  | .createPersistentVolumeClaim _ => PersistentVolumeClaim
  | .getInheritedPodInfo _ _ => InheritedPodInfo
  | .createPod _ => Pod
  | .deleteVolumeSnapshotIfAny _ => Unit
  | .deletePVAndPVCIfAny _ => Unit
  | .deletePodIfAny _ => Unit
  | .getPod _ => Pod
  | .waitPVCBound _ => PersistentVolume
  | .getPersistentVolumeClaim _ => PersistentVolumeClaim
  | .getVolumeSnapshot _ => VolumeSnapshot
  | .getPersistentVolume _ => PersistentVolume
  | .getVolumeSnapshotContent _ => VolumeSnapshotContent
  | .isRunningInNode _ _ => Unit

/-- `Create`: fails when the key is taken. -/
def create {κ α : Type} [DecidableEq κ] {key : α → κ} (t : Table κ α key) (a : α) :
    Option (Table κ α key) :=
  match t.get (key a) with
  | some _ => none
  | none => some (t.insert a)

/-- `Delete`: fails when the key is free. -/
def delete {κ α : Type} [DecidableEq κ] {key : α → κ} (t : Table κ α key) (k : κ) :
    Option (Table κ α key) :=
  match t.get k with
  | some _ => some (t.erase k)
  | none => none

/-- Modelled from the spec: the answer of the cluster to each helper of `pkg/util/csi` and
`pkg/util/kube` (not under src/), against one store.  Every delete of an absent object answers
not-found (`Request.exec_deleted`), `ensureDeleteVSC` included, where `csi.EnsureDeleteVSC` takes
a not-found answer to its delete as success: the two differ only when the content `Expose` read has
gone before its delete. -/
def Request.exec : (r : Request) → Store → Store × Except StatusError r.Reply
  | .waitVolumeSnapshotReady k, s =>
    (s, match s.volumeSnapshots.get k with
      | none => .error .notFound
      | some v => if v.status.bind (·.readyToUse) = some true then .ok v else .error .timeout)
  | .getVolumeSnapshotContentForVolumeSnapshot vs, s =>
    (s, match vs.status.bind (·.boundVolumeSnapshotContentName) with
      | none => .error (.other "invalid snapshot info in volume snapshot")
      | some n => match s.volumeSnapshotContents.get n with
        | none => .error .notFound
        | some c => .ok c)
  | .createVolumeSnapshot vs, s =>
    match create s.volumeSnapshots vs with
    | none => (s, .error .alreadyExists)
    | some t => ({ s with volumeSnapshots := t }, .ok vs)
  | .createVolumeSnapshotContent vsc, s =>
    match create s.volumeSnapshotContents vsc with
    | none => (s, .error .alreadyExists)
    | some t => ({ s with volumeSnapshotContents := t }, .ok vsc)
  | .retainVSC vsc, s =>
    if vsc.deletionPolicy = .retain then (s, .ok none) else
    match s.volumeSnapshotContents.get vsc.name with
    | none => (s, .error .notFound)
    | some c =>
      ({ s with volumeSnapshotContents :=
          s.volumeSnapshotContents.insert { c with deletionPolicy := .retain } },
        .ok (some { c with deletionPolicy := .retain }))
  | .ensureDeleteVS k, s =>
    match delete s.volumeSnapshots k with
    | none => (s, .error .notFound)
    | some t => ({ s with volumeSnapshots := t }, .ok ())
  | .ensureDeleteVSC n, s =>
    match delete s.volumeSnapshotContents n with
    | none => (s, .error .notFound)
    | some t => ({ s with volumeSnapshotContents := t }, .ok ())
  | .createPersistentVolumeClaim pvc, s =>
    match create s.persistentVolumeClaims pvc with
    | none => (s, .error .alreadyExists)
    | some t => ({ s with persistentVolumeClaims := t }, .ok pvc)
  | .getInheritedPodInfo ns nodeOS, s =>
    (s, match s.nodeAgentPodInfo ns nodeOS with
      | none => .error .notFound
      | some i => .ok i)
  | .createPod pod, s =>
    match create s.pods pod with
    | none => (s, .error .alreadyExists)
    | some t => ({ s with pods := t }, .ok pod)
  | .deleteVolumeSnapshotIfAny k, s =>
    match delete s.volumeSnapshots k with
    | none => (s, .error .notFound)
    | some t => ({ s with volumeSnapshots := t }, .ok ())
  | .deletePVAndPVCIfAny k, s =>
    match s.persistentVolumeClaims.get k with
    | none => (s, .error .notFound)
    | some c =>
      ({ s with
          persistentVolumeClaims := s.persistentVolumeClaims.erase k
          persistentVolumes :=
            if c.volumeName = "" then s.persistentVolumes else s.persistentVolumes.erase c.volumeName },
        .ok ())
  | .deletePodIfAny k, s =>
    match delete s.pods k with
    | none => (s, .error .notFound)
    | some t => ({ s with pods := t }, .ok ())
  | .getPod k, s =>
    (s, match s.pods.get k with
      | none => .error .notFound
      | some p => .ok p)
  | .waitPVCBound k, s =>
    (s, match s.persistentVolumeClaims.get k with
      | none => .error .notFound
      | some c =>
        if c.volumeName = "" then .error .timeout else
        match s.persistentVolumes.get c.volumeName with
        | none => .error .notFound
        | some v => .ok v)
  | .getPersistentVolumeClaim k, s =>
    (s, match s.persistentVolumeClaims.get k with
      | none => .error .notFound
      | some c => .ok c)
  | .getVolumeSnapshot k, s =>
    (s, match s.volumeSnapshots.get k with
      | none => .error .notFound
      | some v => .ok v)
  | .getPersistentVolume n, s =>
    (s, match s.persistentVolumes.get n with
      | none => .error .notFound
      | some v => .ok v)
  | .getVolumeSnapshotContent n, s =>
    (s, match s.volumeSnapshotContents.get n with
      | none => .error .notFound
      | some c => .ok c)
  | .isRunningInNode _ _, s => (s, .ok ())

/-- A program of the exposer: done with a value, or waiting for the answer to a request. -/
inductive Prog (α : Type) where
  | pure (a : α)
  | call (r : Request) (k : Except StatusError r.Reply → Prog α)

namespace Prog

def bind {α β : Type} : Prog α → (α → Prog β) → Prog β
  | .pure a, f => f a
  | .call r k, f => .call r (fun x => (k x).bind f)

instance : Monad Prog where
  pure := .pure
  bind := Prog.bind

/-- Issue one request and return its answer. -/
def send (r : Request) : Prog (Except StatusError r.Reply) := .call r .pure

end Prog

/-- One request as the trace records it. -/
structure Event where
  request : Request
  ok : Bool
deriving DecidableEq

/-- The fault-injection oracle: for the `n`-th request of a trace, `none` lets the cluster answer,
`some e` fails the request with `e` before it has any effect. -/
abbrev Oracle := Nat → Option StatusError

/-- The cluster and the requests issued so far. -/
structure World where
  store : Store
  trace : List Event

/-- The answer to `r` in `w` under the oracle, and the store after it. -/
def World.answer (o : Oracle) (w : World) (r : Request) : Store × Except StatusError r.Reply :=
  match o w.trace.length with
  | some e => (w.store, .error e)
  | none => r.exec w.store

/-- The world after `r` is answered. -/
def World.perform (o : Oracle) (w : World) (r : Request) : World :=
  ⟨(w.answer o r).1, w.trace ++ [⟨r, (w.answer o r).2.isOk⟩]⟩

/-- Run a program to its end: its value and the final world. -/
def Prog.run {α : Type} (o : Oracle) : Prog α → World → α × World
  | .pure a, w => (a, w)
  | .call r k, w => (k (w.answer o r).2).run o (w.perform o r)

namespace Prog

variable {α β : Type} (o : Oracle)

@[simp] theorem run_pure (a : α) (w : World) : (Prog.pure a).run o w = (a, w) := rfl

@[simp] theorem run_pure' (a : α) (w : World) : (pure a : Prog α).run o w = (a, w) := rfl

@[simp] theorem run_call (r : Request) (k : Except StatusError r.Reply → Prog α) (w : World) :
    (Prog.call r k).run o w = (k (w.answer o r).2).run o (w.perform o r) := rfl

theorem run_bind (p : Prog α) (f : α → Prog β) (w : World) :
    (p >>= f).run o w = (f (p.run o w).1).run o (p.run o w).2 := by
  induction p generalizing w with
  | pure a => rfl
  | call r k ih => exact ih _ _

@[simp] theorem run_send_bind (r : Request) (f : Except StatusError r.Reply → Prog β) (w : World) :
    (send r >>= f).run o w = (f (w.answer o r).2).run o (w.perform o r) := rfl

end Prog

end Velero.Kube

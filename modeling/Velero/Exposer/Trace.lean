import Velero.Exposer.CSISnapshot
import Velero.Kube.Run

/-!
# Velero.Exposer.Trace — the runs of `Expose`

`ExposeTrace owner p s evs ret`: the requests `Expose` issues from the store `s`, in order and
with their success, and how it ends.  One constructor per place the function can stop: each
`return errors.Wrap(err, ...)`, the nil dereference in `createBackupVSC`, and `return nil`.
After a failure the trace ends with the deferred deletes that the failure fires, newest first.

`PodTrace` and `ContentTrace` are the runs of the two tails of `Expose` after its deferred
deletes, `ExposeTrace` the runs of the whole function.  `expose_run` and `expose_trace`: every run
of the Go model, under every oracle and from every world, is one of them.  `ExposeTrace.eq_of_ok`
inverts a successful run: its trace is the ten requests of `provisionEvents`.  The claims about `Expose` are read off this one relation, and the store at the end off
`Prog.replays_events`.
-/

namespace Velero.Exposer

open Velero.Kube

/-! ## Running the Go combinators -/

section Combinators

variable (o : Oracle)

theorem run_goCall {α : Type} (f : Prog (GoResult α)) (msg : String) (k : α → Prog Exit)
    (w : World) : (goCall f msg k).run o w =
      match (f.run o w).1 with
      | .ok a => (k a).run o (f.run o w).2
      | .error e => (⟨.error (wrap msg e), some e⟩, (f.run o w).2)
      | .panic m => (⟨.panic m, none⟩, (f.run o w).2) := by
  rw [goCall, Prog.run_bind]
  cases (f.run o w).1 <;> rfl

theorem events_goCall {α : Type} (f : Prog (GoResult α)) (msg : String) (k : α → Prog Exit)
    (w : World) : (goCall f msg k).events o w = f.events o w ++
      match (f.run o w).1 with
      | .ok a => (k a).events o (f.run o w).2
      | _ => [] := by
  rw [goCall, Prog.events_bind]
  cases (f.run o w).1 <;> simp

theorem run_deferIfErr (c : Prog Unit) (body : Prog Exit) (w : World) :
    (deferIfErr c body).run o w =
      if (body.run o w).1.err.isSome then ((body.run o w).1, (c.run o (body.run o w).2).2)
      else body.run o w := by
  rw [deferIfErr, Prog.run_bind]
  split <;> simp [*, Prog.run_bind]

theorem events_deferIfErr (c : Prog Unit) (body : Prog Exit) (w : World) :
    (deferIfErr c body).events o w = body.events o w ++
      if (body.run o w).1.err.isSome then c.events o (body.run o w).2 else [] := by
  rw [deferIfErr, Prog.events_bind]
  split <;> simp [*, Prog.events_bind]

end Combinators

/-! ## One lemma per helper -/

section Helpers

variable (o : Oracle) (w : World)

@[simp] theorem run_waitVolumeSnapshotReady (name ns : String) :
    (waitVolumeSnapshotReady name ns).run o w =
      (GoResult.ofExcept (w.answer o (.waitVolumeSnapshotReady ⟨ns, name⟩)).2,
        w.perform o (.waitVolumeSnapshotReady ⟨ns, name⟩)) := rfl

@[simp] theorem run_getVolumeSnapshotContentForVolumeSnapshot (v : VolumeSnapshot) :
    (getVolumeSnapshotContentForVolumeSnapshot v).run o w =
      (GoResult.ofExcept (w.answer o (.getVolumeSnapshotContentForVolumeSnapshot v)).2,
        w.perform o (.getVolumeSnapshotContentForVolumeSnapshot v)) := rfl

@[simp] theorem run_createBackupVS (owner : ObjectReference) (v : VolumeSnapshot) :
    (createBackupVS owner v).run o w =
      (GoResult.ofExcept (w.answer o (.createVolumeSnapshot (backupVS owner v))).2,
        w.perform o (.createVolumeSnapshot (backupVS owner v))) := rfl

@[simp] theorem run_retainVSC (c : VolumeSnapshotContent) :
    (retainVSC c).run o w =
      (GoResult.ofExcept (w.answer o (.retainVSC c)).2, w.perform o (.retainVSC c)) := rfl

@[simp] theorem run_ensureDeleteVS (name ns : String) :
    (ensureDeleteVS name ns).run o w =
      (GoResult.ofExcept (w.answer o (.ensureDeleteVS ⟨ns, name⟩)).2,
        w.perform o (.ensureDeleteVS ⟨ns, name⟩)) := rfl

@[simp] theorem run_ensureDeleteVSC (name : String) :
    (ensureDeleteVSC name).run o w =
      (GoResult.ofExcept (w.answer o (.ensureDeleteVSC name)).2,
        w.perform o (.ensureDeleteVSC name)) := rfl

@[simp] theorem run_getInheritedPodInfo (ns nodeOS : String) :
    (getInheritedPodInfo ns nodeOS).run o w =
      (GoResult.ofExcept (w.answer o (.getInheritedPodInfo ns nodeOS)).2,
        w.perform o (.getInheritedPodInfo ns nodeOS)) := rfl

@[simp] theorem run_deleteVolumeSnapshotIfAny (name ns : String) :
    (deleteVolumeSnapshotIfAny name ns).run o w =
      ((), w.perform o (.deleteVolumeSnapshotIfAny ⟨ns, name⟩)) := rfl

@[simp] theorem run_deletePVAndPVCIfAny (name ns : String) :
    (deletePVAndPVCIfAny name ns).run o w = ((), w.perform o (.deletePVAndPVCIfAny ⟨ns, name⟩)) :=
  rfl

@[simp] theorem run_deletePodIfAny (name ns : String) :
    (deletePodIfAny name ns).run o w = ((), w.perform o (.deletePodIfAny ⟨ns, name⟩)) := rfl

theorem run_createBackupVSC (owner : ObjectReference) (c : VolumeSnapshotContent)
    (v : VolumeSnapshot) : (createBackupVSC owner c v).run o w =
      match backupVSC owner c v with
      | none => (.panic nilDereference, w)
      | some x => (GoResult.ofExcept (w.answer o (.createVolumeSnapshotContent x)).2,
          w.perform o (.createVolumeSnapshotContent x)) := by
  unfold createBackupVSC
  cases backupVSC owner c v <;> rfl

theorem run_createBackupPVC (owner : ObjectReference) (b sc am : String) (size : Nat)
    (ro : Bool) : (createBackupPVC owner b sc am size ro).run o w =
      match getVolumeModeByAccessMode am with
      | .error e => (.error e, w)
      | .ok mode =>
        (match (w.answer o (.createPersistentVolumeClaim (backupPVC owner b sc mode size ro))).2 with
          | .ok created => .ok created
          | .error e => .error (wrap "error to create pvc" e.toString),
          w.perform o (.createPersistentVolumeClaim (backupPVC owner b sc mode size ro))) := by
  unfold createBackupPVC
  cases getVolumeModeByAccessMode am with
  | error e => rfl
  | ok mode =>
    simp only [Prog.run_call]
    cases (w.answer o _).2 <;> rfl

theorem run_createBackupPod (owner : ObjectReference) (pvc : PersistentVolumeClaim) (t : Nat)
    (l a : StrMap) (af : Option String) (r : String) (ro nr : Bool) (os : String) :
    (createBackupPod owner pvc t l a af r ro nr os).run o w =
      match (w.answer o (.getInheritedPodInfo owner.ns os)).2 with
      | .ok info =>
        let w' := w.perform o (.getInheritedPodInfo owner.ns os)
        let r := Request.createPod (backupPod owner pvc t l a af r ro nr os info)
        (GoResult.ofExcept (w'.answer o r).2, w'.perform o r)
      | .error e => (.error (wrap "error to get inherited pod info from node-agent" e.toString),
          w.perform o (.getInheritedPodInfo owner.ns os)) := by
  simp only [createBackupPod, Prog.run_bind, run_getInheritedPodInfo]
  cases (w.answer o _).2 <;> rfl

end Helpers

theorem perform_trace_of_ok {o : Oracle} {w : World} {r : Request} {x : r.Reply}
    (h : (w.answer o r).2 = .ok x) : (w.perform o r).trace = w.trace ++ [⟨r, true⟩] := by
  simp [h, Except.toBool]

theorem perform_trace_of_error {o : Oracle} {w : World} {r : Request} {e : StatusError}
    (h : (w.answer o r).2 = .error e) : (w.perform o r).trace = w.trace ++ [⟨r, false⟩] := by
  simp [h, Except.toBool]

/-- A deferred delete of one request keeps what the body returns, and adds its request to the
trace exactly when the body ends with `err` set. -/
theorem run_deferIfErr_single {o : Oracle} {c : Prog Unit} {r : Request}
    (hc : ∀ w, c.run o w = ((), w.perform o r)) (body : Prog Exit) (w : World) :
    ∃ b, ((deferIfErr c body).run o w).1 = (body.run o w).1 ∧
      ((deferIfErr c body).run o w).2.trace =
        (body.run o w).2.trace ++ if (body.run o w).1.err.isSome then [⟨r, b⟩] else [] := by
  rw [run_deferIfErr]
  split <;> simp [*]

/-! ## The runs -/

/-- `v` is the source snapshot of `p` in `s`, and it is ready. -/
def SourceReady (s : Store) (p : CSISnapshotExposeParam) (v : VolumeSnapshot) : Prop :=
  s.volumeSnapshots.get p.sourceKey = some v ∧ v.status.bind (·.readyToUse) = some true

/-- `c` is the content bound to the snapshot `v` in `s`. -/
def BoundContent (s : Store) (v : VolumeSnapshot) (c : VolumeSnapshotContent) : Prop :=
  ∃ n, v.status.bind (·.boundVolumeSnapshotContentName) = some n ∧
    s.volumeSnapshotContents.get n = some c

theorem SourceReady.unique {s : Store} {p : CSISnapshotExposeParam} {v v' : VolumeSnapshot}
    (h : SourceReady s p v) (h' : SourceReady s p v') : v = v' :=
  Option.some.inj (h.1.symm.trans h'.1)

theorem BoundContent.unique {s : Store} {v : VolumeSnapshot} {c c' : VolumeSnapshotContent}
    (h : BoundContent s v c) (h' : BoundContent s v c') : c = c' := by
  obtain ⟨n, hn, hc⟩ := h
  obtain ⟨n', hn', hc'⟩ := h'
  cases hn.symm.trans hn'
  exact Option.some.inj (hc.symm.trans hc')

section Events

variable (owner : ObjectReference) (p : CSISnapshotExposeParam)

/-- The claim `Expose` creates for a source snapshot with status `st`, in volume mode `mode`; its
data source is the backup snapshot, named after the owner. -/
def exposedClaim (st : VolumeSnapshotStatus) (mode : PersistentVolumeMode) :
    PersistentVolumeClaim :=
  backupPVC owner owner.name (backupPVCSettings p).1 mode (volumeSizeOf st p)
    (backupPVCSettings p).2.1

@[simp] theorem exposedClaim_key (st : VolumeSnapshotStatus) (mode : PersistentVolumeMode) :
    (exposedClaim owner p st mode).key = owner.key := rfl

/-- The pod `Expose` creates for the claim `pvc`, from the node-agent's `info`. -/
def exposedPod (pvc : PersistentVolumeClaim) (info : InheritedPodInfo) : Pod :=
  backupPod owner pvc p.operationTimeout p.hostingPodLabels p.hostingPodAnnotations p.affinity
    p.resources (backupPVCSettings p).2.1 (backupPVCSettings p).2.2 p.nodeOS info

@[simp] theorem exposedPod_key (pvc : PersistentVolumeClaim) (info : InheritedPodInfo) :
    (exposedPod owner p pvc info).key = owner.key := rfl

theorem exposedClaim_fold (st : VolumeSnapshotStatus) (mode : PersistentVolumeMode) :
    backupPVC owner owner.name (backupPVCSettings p).1 mode (volumeSizeOf st p)
      (backupPVCSettings p).2.1 = exposedClaim owner p st mode := rfl

theorem exposedPod_fold (pvc : PersistentVolumeClaim) (info : InheritedPodInfo) :
    backupPod owner pvc p.operationTimeout p.hostingPodLabels p.hostingPodAnnotations p.affinity
      p.resources (backupPVCSettings p).2.1 (backupPVCSettings p).2.2 p.nodeOS info =
      exposedPod owner p pvc info := rfl

/-- The first three requests, all successful: the wait, the content lookup, the backup snapshot. -/
def snapshotEvents (v : VolumeSnapshot) : List Event :=
  [⟨.waitVolumeSnapshotReady p.sourceKey, true⟩,
    ⟨.getVolumeSnapshotContentForVolumeSnapshot v, true⟩,
    ⟨.createVolumeSnapshot (backupVS owner v), true⟩]

/-- The next four, all successful: the backup content, then retaining and deleting the source. -/
def sourceEvents (v : VolumeSnapshot) (c x : VolumeSnapshotContent) : List Event :=
  [⟨.createVolumeSnapshotContent x, true⟩, ⟨.retainVSC c, true⟩, ⟨.ensureDeleteVS v.key, true⟩,
    ⟨.ensureDeleteVSC c.name, true⟩]

/-- The ten requests of an `Expose` that returns nil, all answered: after the first seven, the
claim, the node-agent templates and the pod for the claim. -/
def provisionEvents (v : VolumeSnapshot) (c x : VolumeSnapshotContent)
    (claim : PersistentVolumeClaim) (info : InheritedPodInfo) : List Event :=
  snapshotEvents owner p v ++ sourceEvents v c x ++
    [⟨.createPersistentVolumeClaim claim, true⟩, ⟨.getInheritedPodInfo owner.ns p.nodeOS, true⟩,
      ⟨.createPod (exposedPod owner p claim info), true⟩]

/-- The deferred delete of the backup snapshot. -/
def undoSnapshot (b : Bool) : Event := ⟨.deleteVolumeSnapshotIfAny owner.key, b⟩

/-- The deferred delete of the backup claim and its volume. -/
def undoClaim (b : Bool) : Event := ⟨.deletePVAndPVCIfAny owner.key, b⟩

end Events

/-- The runs of `exposePod` for the claim `pvc`, with the node-agent templates `agent`.  Its
deferred pod delete never fires: the only `return` after it is `return nil`. -/
inductive PodTrace (owner : ObjectReference) (p : CSISnapshotExposeParam)
    (pvc : PersistentVolumeClaim) (agent : String → String → Option InheritedPodInfo) :
    List Event → Exit → Prop
  | infoFailed (e e' : String) :
    PodTrace owner p pvc agent [⟨.getInheritedPodInfo owner.ns p.nodeOS, false⟩] ⟨.error e, some e'⟩
  | createFailed {info : InheritedPodInfo} (e e' : String) : agent owner.ns p.nodeOS = some info →
    PodTrace owner p pvc agent [⟨.getInheritedPodInfo owner.ns p.nodeOS, true⟩,
      ⟨.createPod (exposedPod owner p pvc info), false⟩] ⟨.error e, some e'⟩
  | created {info : InheritedPodInfo} : agent owner.ns p.nodeOS = some info →
    PodTrace owner p pvc agent [⟨.getInheritedPodInfo owner.ns p.nodeOS, true⟩,
      ⟨.createPod (exposedPod owner p pvc info), true⟩] ⟨.ok (), none⟩

/-- The runs of `exposeContent` for the source snapshot `v` (with status `st`) and its content
`c`.  After the claim is created, the trace ends with its deferred delete when the pod part ends
with `err` set. -/
inductive ContentTrace (owner : ObjectReference) (p : CSISnapshotExposeParam) (v : VolumeSnapshot)
    (st : VolumeSnapshotStatus) (c : VolumeSnapshotContent)
    (agent : String → String → Option InheritedPodInfo) : List Event → Exit → Prop
  | statusNil : c.status = none → ContentTrace owner p v st c agent [] ⟨.panic nilDereference, none⟩
  | createFailed {x : VolumeSnapshotContent} (e e' : String) :
    backupVSC owner c (backupVS owner v) = some x →
    ContentTrace owner p v st c agent [⟨.createVolumeSnapshotContent x, false⟩] ⟨.error e, some e'⟩
  | retainFailed {x : VolumeSnapshotContent} (e e' : String) :
    backupVSC owner c (backupVS owner v) = some x →
    ContentTrace owner p v st c agent
      [⟨.createVolumeSnapshotContent x, true⟩, ⟨.retainVSC c, false⟩] ⟨.error e, some e'⟩
  | deleteSnapshotFailed {x : VolumeSnapshotContent} (e e' : String) :
    backupVSC owner c (backupVS owner v) = some x →
    ContentTrace owner p v st c agent [⟨.createVolumeSnapshotContent x, true⟩,
      ⟨.retainVSC c, true⟩, ⟨.ensureDeleteVS v.key, false⟩] ⟨.error e, some e'⟩
  | deleteContentFailed {x : VolumeSnapshotContent} (e e' : String) :
    backupVSC owner c (backupVS owner v) = some x →
    ContentTrace owner p v st c agent [⟨.createVolumeSnapshotContent x, true⟩,
      ⟨.retainVSC c, true⟩, ⟨.ensureDeleteVS v.key, true⟩, ⟨.ensureDeleteVSC c.name, false⟩]
      ⟨.error e, some e'⟩
  | accessModeInvalid {x : VolumeSnapshotContent} {e'' : String} (e e' : String) :
    backupVSC owner c (backupVS owner v) = some x →
    getVolumeModeByAccessMode p.accessMode = .error e'' →
    ContentTrace owner p v st c agent (sourceEvents v c x) ⟨.error e, some e'⟩
  | createClaimFailed {x : VolumeSnapshotContent} {mode : PersistentVolumeMode} (e e' : String) :
    backupVSC owner c (backupVS owner v) = some x →
    getVolumeModeByAccessMode p.accessMode = .ok mode →
    ContentTrace owner p v st c agent (sourceEvents v c x ++
      [⟨.createPersistentVolumeClaim (exposedClaim owner p st mode), false⟩]) ⟨.error e, some e'⟩
  | claimed {x : VolumeSnapshotContent} {mode : PersistentVolumeMode} {evs : List Event} {y : Exit}
    (b : Bool) : backupVSC owner c (backupVS owner v) = some x →
    getVolumeModeByAccessMode p.accessMode = .ok mode →
    PodTrace owner p (exposedClaim owner p st mode) agent evs y →
    ContentTrace owner p v st c agent (sourceEvents v c x ++
      ⟨.createPersistentVolumeClaim (exposedClaim owner p st mode), true⟩ :: evs ++
      if y.err.isSome then [undoClaim owner b] else []) y

/-- The runs of `Expose` from the store `s`: it stops at one of the first three requests, or goes
on to `exposeContent`, whose failure fires the deferred delete of the backup snapshot. -/
inductive ExposeTrace (owner : ObjectReference) (p : CSISnapshotExposeParam) (s : Store) :
    List Event → GoResult Unit → Prop
  | waitFailed (e : String) :
    ExposeTrace owner p s [⟨.waitVolumeSnapshotReady p.sourceKey, false⟩] (.error e)
  | getContentFailed {v : VolumeSnapshot} (e : String) : SourceReady s p v →
    ExposeTrace owner p s [⟨.waitVolumeSnapshotReady p.sourceKey, true⟩,
      ⟨.getVolumeSnapshotContentForVolumeSnapshot v, false⟩] (.error e)
  | createSnapshotFailed {v : VolumeSnapshot} {c : VolumeSnapshotContent} (e : String) :
    SourceReady s p v → BoundContent s v c →
    ExposeTrace owner p s [⟨.waitVolumeSnapshotReady p.sourceKey, true⟩,
      ⟨.getVolumeSnapshotContentForVolumeSnapshot v, true⟩,
      ⟨.createVolumeSnapshot (backupVS owner v), false⟩] (.error e)
  | snapshotted {v : VolumeSnapshot} {st : VolumeSnapshotStatus} {c : VolumeSnapshotContent}
    {evs : List Event} {y : Exit} (b : Bool) :
    SourceReady s p v → BoundContent s v c → v.status = some st →
    ContentTrace owner p v st c s.nodeAgentPodInfo evs y →
    ExposeTrace owner p s (snapshotEvents owner p v ++ evs ++
      if y.err.isSome then [undoSnapshot owner b] else []) y.ret

/-! ## What one answer tells -/

section Answers

variable {o : Oracle} {w : World}

theorem answer_ok {r : Request} {x : r.Reply} (h : (w.answer o r).2 = .ok x) :
    (r.exec w.store).2 = .ok x ∧ (w.perform o r).store = (r.exec w.store).1 := by
  rcases w.answer_cases o r with ⟨e, he, -⟩ | ⟨y, -, -, hex⟩
  · rw [he] at h; cases h
  · rw [hex] at h; exact ⟨h, by simp [hex]⟩

theorem answer_wait_ok {k : NamespacedName} {v : VolumeSnapshot}
    (h : (w.answer o (.waitVolumeSnapshotReady k)).2 = .ok v) :
    w.store.volumeSnapshots.get k = some v ∧ v.status.bind (·.readyToUse) = some true ∧
      (w.perform o (.waitVolumeSnapshotReady k)).store = w.store := by
  obtain ⟨h, hs⟩ := answer_ok h
  simp only [Request.exec] at h hs
  refine ⟨?_, ?_, hs⟩ <;> split at h <;> (try split at h) <;> simp_all

theorem answer_content_ok {v : VolumeSnapshot} {c : VolumeSnapshotContent}
    (h : (w.answer o (.getVolumeSnapshotContentForVolumeSnapshot v)).2 = .ok c) :
    BoundContent w.store v c ∧
      (w.perform o (.getVolumeSnapshotContentForVolumeSnapshot v)).store = w.store := by
  obtain ⟨h, hs⟩ := answer_ok h
  simp only [Request.exec] at h hs
  refine ⟨?_, hs⟩
  split at h
  · cases h
  · split at h
    · cases h
    · exact ⟨_, ‹_›, by simp_all⟩

theorem answer_podInfo_ok {ns nodeOS : String} {i : InheritedPodInfo}
    (h : (w.answer o (.getInheritedPodInfo ns nodeOS)).2 = .ok i) :
    w.store.nodeAgentPodInfo ns nodeOS = some i := by
  obtain ⟨h, -⟩ := answer_ok h
  simp only [Request.exec] at h
  split at h <;> simp_all

theorem answer_createVolumeSnapshot_ok {vs x : VolumeSnapshot}
    (h : (w.answer o (.createVolumeSnapshot vs)).2 = .ok x) : x = vs := by
  obtain ⟨h, -⟩ := answer_ok h
  simp only [Request.exec] at h
  split at h <;> simp_all

theorem answer_createPersistentVolumeClaim_ok {c x : PersistentVolumeClaim}
    (h : (w.answer o (.createPersistentVolumeClaim c)).2 = .ok x) : x = c := by
  obtain ⟨h, -⟩ := answer_ok h
  simp only [Request.exec] at h
  split at h <;> simp_all

@[simp] theorem answer_nodeAgentPodInfo (r : Request) :
    (w.answer o r).1.nodeAgentPodInfo = w.store.nodeAgentPodInfo := by
  rcases w.answer_cases o r with ⟨e, -, hs⟩ | ⟨x, -, -, hex⟩ <;> simp [*]

end Answers

/-! ## Every run is one of them -/

section Runs

variable (o : Oracle) (owner : ObjectReference) (p : CSISnapshotExposeParam)

theorem exposePod_run (pvc : PersistentVolumeClaim) (w : World) :
    let r := (exposePod owner p pvc (backupPVCSettings p).2.1 (backupPVCSettings p).2.2).run o w
    ∃ evs, r.2.trace = w.trace ++ evs ∧ PodTrace owner p pvc w.store.nodeAgentPodInfo evs r.1 := by
  intro r
  simp only [r, exposePod, run_goCall, run_createBackupPod]
  rcases w.answer_cases o (.getInheritedPodInfo owner.ns p.nodeOS) with
    ⟨e, h1, -⟩ | ⟨info, h1, -, -⟩
  · simp only [h1]
    exact ⟨_, perform_trace_of_error h1, .infoFailed _ _⟩
  have hi := answer_podInfo_ok h1
  have ht1 := perform_trace_of_ok h1
  simp only [h1, exposedPod_fold]
  generalize w.perform o _ = w1 at ht1 ⊢
  rcases w1.answer_cases o (.createPod (exposedPod owner p pvc info)) with
    ⟨e, h2, -⟩ | ⟨pod, h2, -, -⟩
  · simp only [h2, GoResult.ofExcept_error]
    exact ⟨_, by rw [perform_trace_of_error h2, ht1]; simp, .createFailed _ _ hi⟩
  · simp only [h2, GoResult.ofExcept_ok, run_deferIfErr, returnNil, Prog.run_pure,
      Option.isSome_none, Bool.false_eq_true, ↓reduceIte]
    exact ⟨_, by rw [perform_trace_of_ok h2, ht1]; simp, .created hi⟩

theorem exposeContent_run {v : VolumeSnapshot} {st : VolumeSnapshotStatus}
    (hst : v.status = some st) (c : VolumeSnapshotContent) (w : World) :
    let r := (exposeContent owner p v c (backupVS owner v)).run o w
    ∃ evs, r.2.trace = w.trace ++ evs ∧
      ContentTrace owner p v st c w.store.nodeAgentPodInfo evs r.1 := by
  intro r
  simp only [r, exposeContent]
  rw [run_goCall, run_createBackupVSC]
  rcases hx : backupVSC owner c (backupVS owner v) with _ | x
  · exact ⟨[], by simp, .statusNil (backupVSC_eq_none.mp hx)⟩
  -- the backup content
  rcases w.answer_cases o (.createVolumeSnapshotContent x) with ⟨e, h4, -⟩ | ⟨x', h4, -, -⟩
  · simp only [h4, GoResult.ofExcept_error]
    exact ⟨_, perform_trace_of_error h4, .createFailed _ _ hx⟩
  have ht4 := perform_trace_of_ok h4
  simp only [h4, GoResult.ofExcept_ok]
  generalize hw4 : w.perform o _ = w4 at ht4 ⊢
  rw [run_goCall, run_retainVSC]
  -- retaining the source content
  rcases w4.answer_cases o (.retainVSC c) with ⟨e, h5, -⟩ | ⟨y5, h5, -, -⟩
  · simp only [h5, GoResult.ofExcept_error]
    exact ⟨_, by rw [perform_trace_of_error h5, ht4]; simp, .retainFailed _ _ hx⟩
  have ht5 := perform_trace_of_ok h5
  simp only [h5, GoResult.ofExcept_ok]
  generalize hw5 : w4.perform o _ = w5 at ht5 ⊢
  rw [run_goCall, run_ensureDeleteVS]
  -- deleting the source snapshot
  rcases w5.answer_cases o (.ensureDeleteVS v.key) with ⟨e, h6, -⟩ | ⟨y6, h6, -, -⟩
  · simp only [VolumeSnapshot.mk_key, h6, GoResult.ofExcept_error]
    exact ⟨_, by rw [perform_trace_of_error h6, ht5, ht4]; simp, .deleteSnapshotFailed _ _ hx⟩
  have ht6 := perform_trace_of_ok h6
  simp only [VolumeSnapshot.mk_key, h6, GoResult.ofExcept_ok]
  generalize hw6 : w5.perform o _ = w6 at ht6 ⊢
  rw [run_goCall, run_ensureDeleteVSC]
  -- deleting the source content
  rcases w6.answer_cases o (.ensureDeleteVSC c.name) with ⟨e, h7, -⟩ | ⟨y7, h7, -, -⟩
  · simp only [h7, GoResult.ofExcept_error]
    exact ⟨_, by rw [perform_trace_of_error h7, ht6, ht5, ht4]; simp, .deleteContentFailed _ _ hx⟩
  have ht7 := perform_trace_of_ok h7
  simp only [h7, GoResult.ofExcept_ok, hst]
  generalize hw7 : w6.perform o _ = w7 at ht7 ⊢
  rw [run_goCall, run_createBackupPVC]
  -- the backup claim
  rcases hm : getVolumeModeByAccessMode p.accessMode with e'' | mode
  · exact ⟨_, by simp [ht7, ht6, ht5, ht4, sourceEvents], .accessModeInvalid _ _ hx hm⟩
  simp only [backupVS_name, exposedClaim_fold]
  rcases w7.answer_cases o (.createPersistentVolumeClaim (exposedClaim owner p st mode)) with
    ⟨e, h8, -⟩ | ⟨pvc, h8, -, -⟩
  · simp only [h8]
    exact ⟨_, by rw [perform_trace_of_error h8, ht7, ht6, ht5, ht4]; simp [sourceEvents],
      .createClaimFailed _ _ hx hm⟩
  have ht8 := perform_trace_of_ok h8
  obtain rfl := answer_createPersistentVolumeClaim_ok h8
  simp only [h8]
  generalize hw8 : w7.perform o _ = w8 at ht8 ⊢
  -- the pod, under the deferred delete of the claim
  obtain ⟨b, hr, htr⟩ := run_deferIfErr_single (fun w => run_deletePVAndPVCIfAny o w _ _)
    (exposePod owner p (exposedClaim owner p st mode) (backupPVCSettings p).2.1
      (backupPVCSettings p).2.2) w8
  obtain ⟨evs, htp, hP⟩ := exposePod_run o owner p (exposedClaim owner p st mode) w8
  have hn : w8.store.nodeAgentPodInfo = w.store.nodeAgentPodInfo := by subst_vars; simp
  rw [hr, htr, htp]
  exact ⟨_, by simp [ht8, ht7, ht6, ht5, ht4, sourceEvents, undoClaim], .claimed b hx hm (hn ▸ hP)⟩

/-- Every run of `Expose`, under every oracle and from every world, is one of `ExposeTrace`. -/
theorem expose_run (w : World) :
    let r := (expose owner p).run o w
    ∃ evs, r.2.trace = w.trace ++ evs ∧ ExposeTrace owner p w.store evs r.1.ret := by
  intro r
  simp only [r, expose]
  rw [run_goCall, run_waitVolumeSnapshotReady, CSISnapshotExposeParam.mk_sourceKey]
  -- the wait for the source snapshot
  rcases w.answer_cases o (.waitVolumeSnapshotReady p.sourceKey) with ⟨e, h1, -⟩ | ⟨v, h1, -, -⟩
  · simp only [h1, GoResult.ofExcept_error]
    exact ⟨_, perform_trace_of_error h1, .waitFailed _⟩
  obtain ⟨hv, hready, hs1⟩ := answer_wait_ok h1
  have ht1 := perform_trace_of_ok h1
  simp only [h1, GoResult.ofExcept_ok]
  generalize hw1 : w.perform o _ = w1 at ht1 hs1 ⊢
  rw [run_goCall, run_getVolumeSnapshotContentForVolumeSnapshot]
  -- the content of the source
  rcases w1.answer_cases o (.getVolumeSnapshotContentForVolumeSnapshot v) with
    ⟨e, h2, -⟩ | ⟨c, h2, -, -⟩
  · simp only [h2, GoResult.ofExcept_error]
    exact ⟨_, by rw [perform_trace_of_error h2, ht1]; simp, .getContentFailed _ ⟨hv, hready⟩⟩
  obtain ⟨hc, hs2⟩ := answer_content_ok h2
  rw [hs1] at hc
  have ht2 := perform_trace_of_ok h2
  simp only [h2, GoResult.ofExcept_ok]
  generalize hw2 : w1.perform o _ = w2 at ht2 hs2 ⊢
  rw [run_goCall, run_createBackupVS]
  -- the backup snapshot
  rcases w2.answer_cases o (.createVolumeSnapshot (backupVS owner v)) with
    ⟨e, h3, -⟩ | ⟨bvs, h3, -, -⟩
  · simp only [h3, GoResult.ofExcept_error]
    exact ⟨_, by rw [perform_trace_of_error h3, ht2, ht1]; simp,
      .createSnapshotFailed _ ⟨hv, hready⟩ hc⟩
  have ht3 := perform_trace_of_ok h3
  obtain rfl := answer_createVolumeSnapshot_ok h3
  simp only [h3, GoResult.ofExcept_ok]
  generalize hw3 : w2.perform o _ = w3 at ht3 ⊢
  -- the rest, under the deferred delete of the backup snapshot
  obtain ⟨st, hst, -⟩ := Option.bind_eq_some.mp hready
  obtain ⟨b, hr, htr⟩ := run_deferIfErr_single (fun w => run_deleteVolumeSnapshotIfAny o w _ _)
    (exposeContent owner p v c (backupVS owner v)) w3
  obtain ⟨evs, htc, hC⟩ := exposeContent_run o owner p hst c w3
  have hn : w3.store.nodeAgentPodInfo = w.store.nodeAgentPodInfo := by subst_vars; simp
  rw [hr, htr, htc]
  exact ⟨_, by simp [ht3, ht2, ht1, snapshotEvents, undoSnapshot],
    .snapshotted b ⟨hv, hready⟩ hc hst (hn ▸ hC)⟩

/-- `expose_run` for the events of the run. -/
theorem expose_trace (w : World) :
    ExposeTrace owner p w.store ((expose owner p).events o w) ((expose owner p).run o w).1.ret := by
  obtain ⟨evs, h, hE⟩ := expose_run o owner p w
  simpa [Prog.events, h] using hE

end Runs

/-- Success inversion: an `Expose` that returns nil found the source snapshot ready and the
content bound to it, built the backup content, knew the volume mode and got the node-agent
templates; its trace is the ten requests of `provisionEvents`. -/
theorem ExposeTrace.eq_of_ok {owner : ObjectReference} {p : CSISnapshotExposeParam} {s : Store}
    {evs : List Event} {ret : GoResult Unit} (h : ExposeTrace owner p s evs ret)
    (hok : ret = .ok ()) :
    ∃ v st c x mode info, SourceReady s p v ∧ v.status = some st ∧ BoundContent s v c ∧
      backupVSC owner c (backupVS owner v) = some x ∧
      getVolumeModeByAccessMode p.accessMode = .ok mode ∧
      s.nodeAgentPodInfo owner.ns p.nodeOS = some info ∧
      evs = provisionEvents owner p v c x (exposedClaim owner p st mode) info := by
  cases h with
  | @snapshotted v st c evsC y b hv hc hst hC =>
    cases hC with
    | @claimed x mode evsP y b' hx hm hP =>
      cases hP with
      | @created info hi =>
        exact ⟨v, st, c, x, mode, info, hv, hst, hc, hx, hm, hi, by simp [provisionEvents]⟩
      | _ => cases hok
    | _ => cases hok
  | _ => cases hok

end Velero.Exposer

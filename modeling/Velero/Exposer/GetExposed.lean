import Velero.Exposer.Safety

/-!
# Velero.Exposer.GetExposed — `GetExposed` finds what `Expose` created

* `volumeIndex` is `List.findIdx` on the volume names: the loop of `GetExposed` stops before the
  end exactly when some volume has the name it looks for.
* `backupPod`: its container and its first volume are named after the owner's UID, that volume
  claims the backup claim, and the node selector names the node OS.
* `getExposed_sound`: whatever fails, a result of `GetExposed` is the pod stored under the owner's
  key, which has the volume, found once the owner's claim was bound.
* `getExposed_of_bound`: with its requests answered, `GetExposed` returns that result as soon as
  the pod has the volume and the claim is bound.
* `expose_getExposed`: the pod an `Expose` that returns nil created is found by `GetExposed`.
-/

namespace Velero.Exposer

open Velero.Kube

/-! ## The volume search -/

section VolumeIndex

variable (volumes : List Volume) (volumeName : String)

theorem volumeIndex_eq_findIdx :
    volumeIndex volumes volumeName = volumes.findIdx (fun v => v.name = volumeName) := by
  induction volumes with
  | nil => rfl
  | cons v vs ih => by_cases h : v.name = volumeName <;> simp [volumeIndex, List.findIdx_cons, h, ih]

/-- The loop runs to the end exactly when no volume has the name. -/
theorem volumeIndex_eq_length_iff :
    volumeIndex volumes volumeName = volumes.length ↔ ∀ v ∈ volumes, v.name ≠ volumeName := by
  simp [volumeIndex_eq_findIdx]

end VolumeIndex

/-! ## The pod `createBackupPod` builds -/

section BackupPod

variable (o : ObjectReference) (c : PersistentVolumeClaim) (t : Nat) (l a : StrMap)
  (af : Option String) (r : String) (ro nr : Bool) (os : String) (i : InheritedPodInfo)

/-- The pod's first volume is the backup claim, named after the owner's UID. -/
theorem backupPod_volumes :
    (backupPod o c t l a af r ro nr os i).volumes =
      ⟨o.uid, .persistentVolumeClaim c.name ro⟩ :: i.volumes := rfl

/-- Its only container is named after the owner's UID. -/
theorem backupPod_containers_name :
    (backupPod o c t l a af r ro nr os i).containers.map Container.name = [o.uid] := rfl

/-- The node selector names the node OS: Windows for Windows, Linux for anything else. -/
theorem backupPod_nodeOS :
    (backupPod o c t l a af r ro nr os i).nodeSelector.get? nodeOSLabel =
      some (if os = nodeOSWindows then nodeOSWindows else nodeOSLinux) := by
  simp [backupPod, StrMap.get?, List.lookup_cons_self]

/-- The volume search of `GetExposed` stops at the first volume of every pod `createBackupPod`
builds, whatever volumes the node-agent adds. -/
theorem backupPod_volumeIndex : volumeIndex (backupPod o c t l a af r ro nr os i).volumes o.uid = 0 := by
  simp [backupPod_volumes, volumeIndex]

end BackupPod

/-! ## Fixtures -/

/-- The claim `Expose` creates for `sampleOwner` on `agentStore`, bound to the volume `pv`. -/
def boundClaim : PersistentVolumeClaim :=
  { exposedClaim sampleOwner sampleParam ⟨some "content", some true, none⟩ .filesystem with
    volumeName := "pv" }

/-- A store holding the pod `Expose` creates for `sampleOwner`, its claim bound, and the volume. -/
def boundStore : Store :=
  ⟨Table.empty, Table.empty, Table.empty.insert boundClaim, Table.empty.insert ⟨"pv"⟩,
    Table.empty.insert (exposedPod sampleOwner sampleParam boundClaim sampleInfo), fun _ _ => none⟩

/-! ## `GetExposed` -/

section GetExposed

variable (owner : ObjectReference)

/-- The result `GetExposed` reports for the pod `pod`. -/
def exposedResult (pod : Pod) : ExposeByPod :=
  ⟨pod, owner.uid, owner.uid, pod.nodeSelector.get? nodeOSLabel⟩

/-- Whatever the oracle fails, a result of `GetExposed` is the pod stored under the owner's key,
which has a volume named after the owner's UID, reported once the owner's claim was bound. -/
theorem getExposed_sound (o : Oracle) (w : World) {res : ExposeByPod}
    (h : ((getExposed owner).run o w).1 = .ok (some res)) :
    ∃ pod, w.store.pods.get owner.key = some pod ∧ (∃ v ∈ pod.volumes, v.name = owner.uid) ∧
      (∃ c, w.store.persistentVolumeClaims.get owner.key = some c ∧ c.volumeName ≠ "") ∧
      res = exposedResult owner pod := by
  simp only [getExposed, Prog.run_call, ObjectReference.mk_key] at h
  rcases hg : (w.answer o (.getPod owner.key)).2 with e | pod
  · rw [hg] at h
    cases e <;> simp at h
  rw [hg] at h
  obtain ⟨hp, hs⟩ := answer_ok hg
  simp only [Request.exec] at hp hs
  generalize w.perform o _ = w₁ at h hs
  rcases hb : (w₁.answer o (.waitPVCBound owner.key)).2 with e | pv
  · simp [hb] at h
  obtain ⟨hb', -⟩ := answer_ok hb
  simp only [Request.exec, hs] at hb'
  have hpod : w.store.pods.get owner.key = some pod := by split at hp <;> simp_all
  have hc : ∃ c, w.store.persistentVolumeClaims.get owner.key = some c ∧ c.volumeName ≠ "" := by
    split at hb'
    · cases hb'
    · split at hb'
      · cases hb'
      · exact ⟨_, ‹_›, ‹_›⟩
  simp only [Prog.run_call, hb] at h
  split at h
  · simp at h
  · refine ⟨pod, hpod, ?_, hc, ?_⟩
    · by_contra hn
      exact ‹¬_› ((volumeIndex_eq_length_iff _ _).mpr fun v hv hvn => hn ⟨v, hv, hvn⟩)
    · simp only [Prog.run_pure, Except.ok.injEq, Option.some.injEq] at h
      exact h.symm

theorem getExposed_sound_boundStore :
    ((getExposed sampleOwner).run (fun _ => none) ⟨boundStore, []⟩).1 =
        .ok (some (exposedResult sampleOwner (exposedPod sampleOwner sampleParam boundClaim sampleInfo))) ∧
      ∃ pod, boundStore.pods.get sampleOwner.key = some pod ∧
        ∃ v ∈ pod.volumes, v.name = sampleOwner.uid :=
  have h : ((getExposed sampleOwner).run (fun _ => none) ⟨boundStore, []⟩).1 =
      .ok (some (exposedResult sampleOwner (exposedPod sampleOwner sampleParam boundClaim sampleInfo))) :=
    rfl
  let ⟨pod, hp, hv, _⟩ := getExposed_sound sampleOwner (fun _ => none) ⟨boundStore, []⟩ h
  ⟨h, pod, hp, hv⟩

/-- With its requests answered, `GetExposed` reports the pod under the owner's key once the pod
has the volume, the owner's claim is bound and its volume exists. -/
theorem getExposed_of_bound (w : World) {pod : Pod} {c : PersistentVolumeClaim}
    {pv : PersistentVolume} (hpod : w.store.pods.get owner.key = some pod)
    (hv : ∃ v ∈ pod.volumes, v.name = owner.uid)
    (hc : w.store.persistentVolumeClaims.get owner.key = some c) (hb : c.volumeName ≠ "")
    (hpv : w.store.persistentVolumes.get c.volumeName = some pv) :
    ((getExposed owner).run (fun _ => none) w).1 = .ok (some (exposedResult owner pod)) := by
  obtain ⟨v, hvm, hvn⟩ := hv
  have hi : volumeIndex pod.volumes owner.uid ≠ pod.volumes.length := fun h =>
    (volumeIndex_eq_length_iff _ _).mp h v hvm hvn
  simp [getExposed, World.answer, World.perform, Request.exec, hpod, hc, hb, hpv, hi, exposedResult]

end GetExposed

/-! ## After `Expose` -/

/-- An `Expose` that returns nil created the pod `createBackupPod` built for its claim, and left
it under the owner's key. -/
theorem ExposeTrace.hostingPod_of_ok {owner : ObjectReference} {p : CSISnapshotExposeParam}
    {s s' : Store} {evs : List Event} {ret : GoResult Unit} (h : ExposeTrace owner p s evs ret)
    (hr : Replays s evs s') (hok : ret = .ok ()) :
    ∃ st mode info, let pod := exposedPod owner p (exposedClaim owner p st mode) info
      ⟨.createPod pod, true⟩ ∈ evs ∧ s'.pods.get owner.key = some pod := by
  obtain ⟨v, st, c, x, mode, info, hv, -, hc, hx, -, -, rfl⟩ := h.eq_of_ok hok
  exact ⟨st, mode, info, by simp [provisionEvents],
    (stored_of_provision hv hc hx (exposedClaim_key owner p st mode) hr).2.2.2⟩

/-- Expose/GetExposed agreement: an `Expose` that returns nil created under the owner's key a pod
`createBackupPod` built, whose only container and first volume are named after the owner's UID,
that volume claiming the claim named after the owner; once the pod, scheduled to any node, is
visible and the claim bound, `GetExposed` reports it with the node OS `Expose` was given.  The volume search stops
before the end for every pod `createBackupPod` builds. -/
theorem expose_getExposed (o : Oracle) (owner : ObjectReference) (p : CSISnapshotExposeParam)
    (w : World) (hok : ((expose owner p).run o w).1.ret = .ok ()) :
    (∃ (claim : PersistentVolumeClaim) (info : InheritedPodInfo),
      let pod := exposedPod owner p claim info
      ⟨.createPod pod, true⟩ ∈ (expose owner p).events o w ∧
      ((expose owner p).run o w).2.store.pods.get owner.key = some pod ∧
      pod.containers.map Container.name = [owner.uid] ∧
      (∃ vol ∈ pod.volumes, vol.name = owner.uid ∧
        ∃ ro, vol.volumeSource = .persistentVolumeClaim owner.name ro) ∧
      ∀ (w' : World) (nodeName : String) (c : PersistentVolumeClaim) (pv : PersistentVolume),
        w'.store.pods.get owner.key = some { pod with nodeName := nodeName } →
        w'.store.persistentVolumeClaims.get owner.key = some c → c.volumeName ≠ "" →
        w'.store.persistentVolumes.get c.volumeName = some pv →
        ((getExposed owner).run (fun _ => none) w').1 =
          .ok (some ⟨{ pod with nodeName := nodeName }, owner.uid, owner.uid,
            some (if p.nodeOS = nodeOSWindows then nodeOSWindows else nodeOSLinux)⟩)) ∧
    ∀ (c : PersistentVolumeClaim) (t : Nat) (l a : StrMap) (af : Option String) (r : String)
      (ro nr : Bool) (os : String) (i : InheritedPodInfo),
      volumeIndex (backupPod owner c t l a af r ro nr os i).volumes owner.uid <
        (backupPod owner c t l a af r ro nr os i).volumes.length := by
  refine ⟨?_, fun c t l a af r ro nr os i => by
    rw [backupPod_volumeIndex]
    exact Nat.succ_pos _⟩
  obtain ⟨st, mode, info, hev, hpod⟩ :=
    (expose_trace o owner p w).hostingPod_of_ok ((expose owner p).replays_events o w) hok
  have hvol : (exposedPod owner p (exposedClaim owner p st mode) info).volumes =
      ⟨owner.uid, .persistentVolumeClaim owner.name (backupPVCSettings p).2.1⟩ :: info.volumes :=
    backupPod_volumes ..
  have hmem : (⟨owner.uid, .persistentVolumeClaim owner.name (backupPVCSettings p).2.1⟩ : Volume) ∈
      (exposedPod owner p (exposedClaim owner p st mode) info).volumes := by
    simp [hvol]
  refine ⟨_, info, hev, hpod, backupPod_containers_name .., ⟨_, hmem, rfl, _, rfl⟩,
    fun w' n c pv hp hc hb hpv => ?_⟩
  rw [getExposed_of_bound owner w' hp ⟨_, hmem, rfl⟩ hc hb hpv, exposedResult]
  simp only [exposedPod, backupPod_nodeOS]

theorem expose_getExposed_agentStore :
    ((expose sampleOwner sampleParam).run (fun _ => none) ⟨agentStore, []⟩).1.ret = .ok () ∧
      ∃ (claim : PersistentVolumeClaim) (info : InheritedPodInfo),
        ((expose sampleOwner sampleParam).run (fun _ => none) ⟨agentStore, []⟩).2.store.pods.get
          sampleOwner.key = some (exposedPod sampleOwner sampleParam claim info) :=
  have h : ((expose sampleOwner sampleParam).run (fun _ => none) ⟨agentStore, []⟩).1.ret =
      .ok () := rfl
  let ⟨claim, info, _, hpod, _⟩ := (expose_getExposed (fun _ => none) sampleOwner sampleParam
    ⟨agentStore, []⟩ h).1
  ⟨h, claim, info, hpod⟩

end Velero.Exposer

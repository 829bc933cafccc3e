import Velero.Exposer.GetExposed

/-!
# Velero.Exposer.Provision — what a successful `Expose` provisions

* `expose_provisions`: an `Expose` that returns nil issued exactly the ten requests of
  `provisionEvents`, all answered, and left under the owner's name the backup snapshot, bound by
  name to the backup content; the backup content, which carries the source content's snapshot
  handle and driver with the Delete policy; the claim on the backup snapshot; and the pod for the
  claim.
* `expose_ok_settings`: the claim and pod it left follow the mapping of the source storage class
  in `BackupPVCConfig`: the claim is read-only exactly when the mapping says so, and a Linux pod
  skips relabelling exactly when the mapping asks for it and makes the claim read-only; the claim
  has the mapping's storage class when it names one, the snapshot's restore size when that is set
  and non-zero (else the requested size), and the block volume mode exactly for
  `AccessModeBlock`.
-/

namespace Velero.Exposer

open Velero.Kube

section Provision

variable (o : Oracle) (owner : ObjectReference) (p : CSISnapshotExposeParam) (w : World)

/-- What a successful `Expose` provisions: its ten requests, and the four objects it leaves under
the owner's name, linked to each other by name. -/
theorem expose_provisions (hok : ((expose owner p).run o w).1.ret = .ok ()) :
    let s' := ((expose owner p).run o w).2.store
    ∃ v st c x mode info, SourceReady w.store p v ∧ v.status = some st ∧ BoundContent w.store v c ∧
      (expose owner p).events o w =
        provisionEvents owner p v c x (exposedClaim owner p st mode) info ∧
      s'.volumeSnapshots.get owner.key = some (backupVS owner v) ∧
      s'.volumeSnapshotContents.get owner.name = some x ∧
      s'.persistentVolumeClaims.get owner.key = some (exposedClaim owner p st mode) ∧
      s'.pods.get owner.key = some (exposedPod owner p (exposedClaim owner p st mode) info) ∧
      (backupVS owner v).volumeSnapshotContentName = some x.name ∧
      x.volumeSnapshotRef = owner.key ∧
      (∃ cs, c.status = some cs ∧ x.snapshotHandle = cs.snapshotHandle) ∧ x.driver = c.driver ∧
      x.deletionPolicy = .delete ∧
      (exposedClaim owner p st mode).dataSource =
        some ⟨some snapshotGroup, "VolumeSnapshot", owner.name⟩ := by
  obtain ⟨v, st, c, x, mode, info, hv, hst, hc, hx, -, -, he⟩ :=
    (expose_trace o owner p w).eq_of_ok hok
  obtain ⟨h₁, h₂, h₃, h₄⟩ := stored_of_provision hv hc hx (exposedClaim_key owner p st mode)
    (he ▸ (expose owner p).replays_events o w)
  obtain ⟨cs, hcs, rfl⟩ := Option.map_eq_some'.mp hx
  exact ⟨v, st, c, _, mode, info, hv, hst, hc, he, h₁, h₂, h₃, h₄, rfl, rfl, ⟨cs, hcs, rfl⟩, rfl,
    rfl, rfl⟩

theorem expose_provisions_agentStore :
    ((expose sampleOwner sampleParam).run (fun _ => none) ⟨agentStore, []⟩).1.ret = .ok () ∧
      ∃ x, ((expose sampleOwner sampleParam).run (fun _ => none)
          ⟨agentStore, []⟩).2.store.volumeSnapshotContents.get sampleOwner.name = some x ∧
        x.deletionPolicy = .delete :=
  have h : ((expose sampleOwner sampleParam).run (fun _ => none) ⟨agentStore, []⟩).1.ret =
      .ok () := rfl
  let ⟨_, _, _, x, _, _, _, _, _, _, _, hx, _, _, _, _, _, _, hd, _⟩ :=
    expose_provisions (fun _ => none) sampleOwner sampleParam ⟨agentStore, []⟩ h
  ⟨h, x, hx, hd⟩

/-- Access-mode override precedence, storage-class remapping, volume-size fallback and volume
mode, for the claim and pod a successful `Expose` leaves. -/
theorem expose_ok_settings (hok : ((expose owner p).run o w).1.ret = .ok ()) :
    let s' := ((expose owner p).run o w).2.store
    let m := p.backupPVCConfig.lookup p.storageClass
    ∃ (claim : PersistentVolumeClaim) (pod : Pod) (st : VolumeSnapshotStatus),
      (w.store.volumeSnapshots.get p.sourceKey).bind (·.status) = some st ∧
      s'.persistentVolumeClaims.get owner.key = some claim ∧ s'.pods.get owner.key = some pod ∧
      (claim.accessModes = [.readOnlyMany] ↔ ∃ b, m = some b ∧ b.readOnly = true) ∧
      (pod.securityContext.seLinuxType = some "spc_t" ↔
        p.nodeOS ≠ nodeOSWindows ∧ ∃ b, m = some b ∧ b.readOnly = true ∧ b.spcNoRelabeling = true) ∧
      (∀ b, m = some b → b.storageClass ≠ "" → claim.storageClassName = some b.storageClass) ∧
      ((∀ b, m = some b → b.storageClass = "") → claim.storageClassName = some p.storageClass) ∧
      (∀ q, st.restoreSize = some q → q ≠ 0 → claim.storageRequest = q) ∧
      (st.restoreSize = none ∨ st.restoreSize = some 0 → claim.storageRequest = p.volumeSize) ∧
      (claim.volumeMode = some .block ↔ p.accessMode = accessModeBlock) := by
  obtain ⟨v, st, c, x, mode, info, hv, hst, hc, hx, hm, -, he⟩ :=
    (expose_trace o owner p w).eq_of_ok hok
  obtain ⟨-, -, h₃, h₄⟩ := stored_of_provision hv hc hx (exposedClaim_key owner p st mode)
    (he ▸ (expose owner p).replays_events o w)
  refine ⟨_, _, st, by simp [hv.1, hst], h₃, h₄, ?_, ?_, fun b hb hsc => ?_, fun h => ?_,
    fun q hq hq0 => volumeSizeOf_restoreSize p hq hq0, fun h => volumeSizeOf_requested p h, ?_⟩
  · rw [exposedClaim, backupPVC_readOnlyMany, backupPVCSettings_readOnly]
  · rw [exposedPod, backupPod_seLinuxType, backupPVCSettings_spcNoRelabeling]
  · simp [exposedClaim, backupPVC, backupPVCSettings_storageClass p hb hsc]
  · simp [exposedClaim, backupPVC, backupPVCSettings_storageClass_source p h]
  · simp [exposedClaim, backupPVC, getVolumeModeByAccessMode_block hm]

/-- An exposure whose source storage class maps to a read-only claim that skips relabelling. -/
def readOnlyParam : CSISnapshotExposeParam :=
  { sampleParam with backupPVCConfig := [("sc", ⟨"", true, true⟩)] }

theorem expose_ok_settings_readOnly :
    ((expose sampleOwner readOnlyParam).run (fun _ => none) ⟨agentStore, []⟩).1.ret = .ok () ∧
      ∃ (claim : PersistentVolumeClaim) (pod : Pod),
        ((expose sampleOwner readOnlyParam).run (fun _ => none)
          ⟨agentStore, []⟩).2.store.persistentVolumeClaims.get sampleOwner.key = some claim ∧
        ((expose sampleOwner readOnlyParam).run (fun _ => none)
          ⟨agentStore, []⟩).2.store.pods.get sampleOwner.key = some pod ∧
        claim.accessModes = [.readOnlyMany] ∧ pod.securityContext.seLinuxType = some "spc_t" :=
  have h : ((expose sampleOwner readOnlyParam).run (fun _ => none) ⟨agentStore, []⟩).1.ret =
      .ok () := rfl
  let ⟨claim, pod, _, _, hc, hp, hro, hnr, _⟩ :=
    expose_ok_settings (fun _ => none) sampleOwner readOnlyParam ⟨agentStore, []⟩ h
  ⟨h, claim, pod, hc, hp, hro.mpr ⟨_, rfl, rfl⟩, hnr.mpr ⟨by decide, _, rfl, rfl, rfl⟩⟩

end Provision

end Velero.Exposer

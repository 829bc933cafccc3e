import Velero.Exposer.Trace
import Velero.Kube.Footprint

/-!
# Velero.Exposer.Rollback — what a failed `Expose` undoes

* `compensations evs`: the deferred deletes of a trace, in order; `Created evs k`: the trace
  created an object under `k`.
* `PodTrace.spec`, `ContentTrace.spec`: per stage, how it ends, what it created and which
  deferred deletes it issued.
* `stored_of_provision`: after the ten requests of a successful `Expose`, the store holds the
  backup snapshot, content, claim and pod under the owner's name.
* Rollback: an `Expose` that returns nil issued no deferred delete and left the backup snapshot,
  content, claim and pod in the store; one that returns an error deleted the claim iff it created
  it, then the backup snapshot iff it created it, and nothing else.
* Fixtures: `sourceStore`, a ready source snapshot and its content; `agentStore`, the same with
  node-agent templates, where `Expose` for `sampleOwner` and `sampleParam` provisions everything;
  `podTimeout`, an oracle that fails the create of the pod.
-/

namespace Velero.Exposer

open Velero.Kube

/-! ## Deferred deletes and creations of a trace -/

/-- The deferred deletes a trace issued, in order: `Expose` calls the `*IfAny` deletes only from
its deferred closures. -/
def compensations (evs : List Event) : List Request :=
  (evs.map Event.request).filter Request.isDeleteIfAny

/-- The trace created an object under `k`. -/
def Created (evs : List Event) (k : Key) : Prop := ∃ e ∈ evs, e.ok ∧ e.request.createdKey = some k

instance (evs : List Event) (k : Key) : Decidable (Created evs k) :=
  inferInstanceAs (Decidable (∃ e ∈ evs, e.ok ∧ e.request.createdKey = some k))

section Lists

variable (evs evs' : List Event) (e : Event) (k : Key)

@[simp] theorem compensations_nil : compensations [] = [] := rfl

@[simp] theorem compensations_cons : compensations (e :: evs) =
    if e.request.isDeleteIfAny then e.request :: compensations evs else compensations evs := by
  simp only [compensations, List.map_cons, List.filter_cons]

@[simp] theorem compensations_append :
    compensations (evs ++ evs') = compensations evs ++ compensations evs' := by
  simp only [compensations, List.map_append, List.filter_append]

@[simp] theorem created_nil : ¬Created [] k := by simp [Created]

@[simp] theorem created_cons :
    Created (e :: evs) k ↔ (e.ok ∧ e.request.createdKey = some k) ∨ Created evs k := by
  simp [Created]

@[simp] theorem created_append : Created (evs ++ evs') k ↔ Created evs k ∨ Created evs' k := by
  simp only [Created, List.mem_append, or_and_right, exists_or]

@[simp] theorem compensations_ite_nil (c : Prop) [Decidable c] :
    compensations (if c then evs else []) = if c then compensations evs else [] := by
  split <;> rfl

@[simp] theorem created_ite_nil (c : Prop) [Decidable c] :
    Created (if c then evs else []) k ↔ c ∧ Created evs k := by
  split <;> simp [*]

end Lists

/-! ## Per stage -/

section Stages

variable {owner : ObjectReference} {p : CSISnapshotExposeParam}
  {agent : String → String → Option InheritedPodInfo} {evs : List Event} {y : Exit}

/-- The pod stage issues no deferred delete, creates at most the pod, and sets `err` exactly
when it fails. -/
theorem PodTrace.spec {pvc : PersistentVolumeClaim} (h : PodTrace owner p pvc agent evs y) :
    compensations evs = [] ∧ (∀ k, Created evs k ↔ y.ret = .ok () ∧ k = .pod owner.key) ∧
      (y.err.isSome ↔ ∃ e, y.ret = .error e) := by
  cases h <;> simp [Request.isDeleteIfAny, Request.createdKey, Request.created, eq_comm]

/-- The pod stage touches only the pod. -/
theorem PodTrace.keys_eq {pvc : PersistentVolumeClaim} (h : PodTrace owner p pvc agent evs y) :
    ∀ e ∈ evs, ∀ k ∈ e.request.keys, k = .pod owner.key := by
  cases h <;> simp [Request.keys]

/-- The content stage sets `err` exactly when it fails, deletes the claim it created exactly when
the pod stage fails, and creates only the backup content, the claim and the pod. -/
theorem ContentTrace.spec {v : VolumeSnapshot} {st : VolumeSnapshotStatus}
    {c : VolumeSnapshotContent} (h : ContentTrace owner p v st c agent evs y) :
    (y.err.isSome ↔ ∃ e, y.ret = .error e) ∧
    compensations evs = (if y.err.isSome ∧ Created evs (.pvc owner.key) then
      [.deletePVAndPVCIfAny owner.key] else []) ∧
    ∀ k, Created evs k → k = .vsc owner.name ∨ k = .pvc owner.key ∨ k = .pod owner.key := by
  cases h with
  | statusNil => simp
  | claimed b hx _ hP =>
    obtain ⟨hc, hk, he⟩ := hP.spec
    refine ⟨he, ?_, fun k => ?_⟩ <;> by_cases hy : y.err.isSome <;>
      simp [hy, sourceEvents, undoClaim, Request.isDeleteIfAny, Request.createdKey,
        Request.created, backupVSC_name hx, hc, hk]
    all_goals rintro (rfl | rfl | ⟨-, rfl⟩) <;> simp
  | createFailed | retainFailed | deleteSnapshotFailed | deleteContentFailed | accessModeInvalid
    | createClaimFailed =>
    simp_all [sourceEvents, Request.isDeleteIfAny, Request.createdKey, Request.created] <;>
      exact backupVSC_name ‹_›

/-- `Expose`: a nil return issued no deferred delete; an error return deleted the claim iff the
run created it, then the backup snapshot iff the run created it; the run creates only objects
named after the owner. -/
theorem ExposeTrace.spec {s : Store} {ret : GoResult Unit} (h : ExposeTrace owner p s evs ret) :
    (ret = .ok () → compensations evs = []) ∧
    (∀ e, ret = .error e → compensations evs =
      (if Created evs (.pvc owner.key) then [.deletePVAndPVCIfAny owner.key] else []) ++
        (if Created evs (.vs owner.key) then [.deleteVolumeSnapshotIfAny owner.key] else [])) ∧
    ∀ k, Created evs k →
      k = .vs owner.key ∨ k = .vsc owner.name ∨ k = .pvc owner.key ∨ k = .pod owner.key := by
  cases h with
  | @snapshotted v st c evs y b _ _ _ hC =>
    obtain ⟨he, hc, hk⟩ := hC.spec
    refine ⟨fun hr => ?_, fun e hr => ?_, fun k hk' => ?_⟩
    · have hy : y.err.isSome = false := by simpa [hr] using he
      simp [hy, hc, snapshotEvents, Request.isDeleteIfAny]
    · have hy : y.err.isSome = true := he.mpr ⟨e, hr⟩
      simp [hy, hc, snapshotEvents, undoSnapshot, Request.isDeleteIfAny, Request.createdKey,
        Request.created]
    · simp [snapshotEvents, undoSnapshot, Request.createdKey, Request.created] at hk'
      rcases hk' with rfl | hk'
      · simp
      · rcases hk k hk' with rfl | rfl | rfl <;> simp
  | _ => simp [Request.isDeleteIfAny, Request.createdKey, Request.created]

end Stages

/-! ## The store after `Expose` -/

section Store

variable {owner : ObjectReference} {p : CSISnapshotExposeParam} {s s' : Store} {evs : List Event}
  {ret : GoResult Unit}

/-- A run that created the backup snapshot found the owner's key free: the source snapshot is
not under it. -/
theorem source_key_ne {v : VolumeSnapshot} (hv : SourceReady s p v) {rest : List Event}
    (hr : Replays s (snapshotEvents owner p v ++ rest) s') :
    s.volumeSnapshots.get owner.key = none ∧ v.key ≠ owner.key := by
  have hvs : s.volumeSnapshots.get owner.key = none :=
    hr.free_of_created 2 (.createVolumeSnapshot (backupVS owner v)) (by simp [snapshotEvents]) rfl
      (by simp [snapshotEvents, Request.readOnly])
  refine ⟨hvs, fun h => ?_⟩
  rw [← h, s.volumeSnapshots.get_key hv.1, hv.1] at hvs
  cases hvs

/-- A run that created the backup content found the owner's name free: the source content is
not under it. -/
theorem source_name_ne {v : VolumeSnapshot} {c x : VolumeSnapshotContent} (hc : BoundContent s v c)
    (hx : backupVSC owner c (backupVS owner v) = some x) {rest : List Event}
    (hr : Replays s (snapshotEvents owner p v ++ ⟨.createVolumeSnapshotContent x, true⟩ :: rest) s') :
    s.volumeSnapshotContents.get owner.name = none ∧ c.name ≠ owner.name := by
  have hvsc : s.volumeSnapshotContents.get owner.name = none := by
    rw [← backupVSC_name hx]
    exact hr.free_of_created 3 (.createVolumeSnapshotContent x) (by simp [snapshotEvents]) rfl
      (by simp [snapshotEvents, Request.readOnly, Request.keys])
  obtain ⟨n, -, hcn⟩ := hc
  refine ⟨hvsc, fun h => ?_⟩
  rw [← h, s.volumeSnapshotContents.get_key hcn, hcn] at hvsc
  cases hvsc

/-- After the ten requests of an `Expose` that returns nil, the store holds under the owner's name
the backup snapshot, content, claim and pod they created: no later request writes those keys. -/
theorem stored_of_provision {v : VolumeSnapshot} {c x : VolumeSnapshotContent}
    {claim : PersistentVolumeClaim} {info : InheritedPodInfo} (hv : SourceReady s p v)
    (hc : BoundContent s v c) (hx : backupVSC owner c (backupVS owner v) = some x)
    (hk : claim.key = owner.key) (hr : Replays s (provisionEvents owner p v c x claim info) s') :
    s'.volumeSnapshots.get owner.key = some (backupVS owner v) ∧
      s'.volumeSnapshotContents.get owner.name = some x ∧
      s'.persistentVolumeClaims.get owner.key = some claim ∧
      s'.pods.get owner.key = some (exposedPod owner p claim info) := by
  have hxn := backupVSC_name hx
  have hvk := (source_key_ne hv (by simpa [provisionEvents] using hr)).2
  have hck := (source_name_ne hc hx (by simpa [provisionEvents, sourceEvents] using hr)).2
  refine ⟨hr.get_of_created 2 (.createVolumeSnapshot (backupVS owner v))
      (by simp [provisionEvents, snapshotEvents]) rfl ?_, hxn ▸ hr.get_of_created 3
      (.createVolumeSnapshotContent x) (by simp [provisionEvents, snapshotEvents, sourceEvents]) rfl ?_,
    hk ▸ hr.get_of_created 7 (.createPersistentVolumeClaim claim)
      (by simp [provisionEvents, snapshotEvents, sourceEvents]) rfl ?_,
    hr.get_of_created 9 (.createPod (exposedPod owner p claim info))
      (by simp [provisionEvents, snapshotEvents, sourceEvents]) rfl ?_⟩ <;>
  simp [provisionEvents, snapshotEvents, sourceEvents, Request.readOnly, Request.keys, hvk.symm,
    hxn, hck.symm, hk]

/-- After an `Expose` that returns nil, the backup snapshot, content, claim and pod are stored
under the owner's name. -/
theorem ExposeTrace.derived_of_ok (h : ExposeTrace owner p s evs ret) (hr : Replays s evs s')
    (hok : ret = .ok ()) :
    ∀ k ∈ [Key.vs owner.key, .vsc owner.name, .pvc owner.key, .pod owner.key], (s'.get k).isSome := by
  obtain ⟨v, st, c, x, mode, info, hv, -, hc, hx, -, -, rfl⟩ := h.eq_of_ok hok
  obtain ⟨h₁, h₂, h₃, h₄⟩ := stored_of_provision hv hc hx (exposedClaim_key owner p st mode) hr
  simp [h₁, h₂, h₃, h₄]

/-- The backup content, once created, stays: `Expose` never deletes it. -/
theorem ExposeTrace.backupContent_kept (h : ExposeTrace owner p s evs ret)
    (hr : Replays s evs s') (hk : Created evs (.vsc owner.name)) :
    (s'.get (.vsc owner.name)).isSome := by
  cases h with
  | @snapshotted v st c evsC y b hv hc hst hC =>
    cases hC with
    | statusNil | createFailed => simp [snapshotEvents, undoSnapshot, Request.createdKey,
        Request.created] at hk
    | @claimed x mode evsP y b' hx hm hP =>
      have hck := (source_name_ne hc hx (by simpa [sourceEvents] using hr)).2
      have hP' : ∀ e ∈ evsP, e.ok → Key.vsc owner.name ∉ e.request.writes := fun e he _ hw =>
        nomatch hP.keys_eq e he (.vsc owner.name) (Request.mem_keys_of_mem_writes _ hw)
      rw [← backupVSC_name hx, hr.get_of_created 3 (.createVolumeSnapshotContent x)
        (by simp [snapshotEvents, sourceEvents]) rfl ?_]
      · rfl
      simp [snapshotEvents, sourceEvents, Request.readOnly, Request.keys, hck.symm, backupVSC_name hx]
      rintro a (ha | ⟨-, rfl⟩ | ⟨-, rfl⟩) hok
      · exact hP' a ha hok
      all_goals simp [undoClaim, undoSnapshot, Request.readOnly, Request.keys]
    | _ =>
      have hx := ‹backupVSC owner c (backupVS owner v) = some _›
      have hck := (source_name_ne hc hx (by simpa [sourceEvents] using hr)).2
      rw [← backupVSC_name hx, hr.get_of_created 3 (.createVolumeSnapshotContent _)
        (by simp [snapshotEvents, sourceEvents]) rfl (by simp [snapshotEvents, sourceEvents,
          undoSnapshot, Request.readOnly, Request.keys, hck.symm,
          backupVSC_name hx])]
      rfl
  | _ => simp [Request.createdKey, Request.created] at hk

/-- A failed `Expose` whose deferred deletes succeed leaves neither the claim nor the backup
snapshot it created. -/
theorem ExposeTrace.rolled_back (h : ExposeTrace owner p s evs ret) (hr : Replays s evs s')
    {e : String} (he : ret = .error e) (hc : ∀ ev ∈ evs, ev.request.isDeleteIfAny → ev.ok) :
    (Created evs (.vs owner.key) → s'.get (.vs owner.key) = none) ∧
      (Created evs (.pvc owner.key) → s'.get (.pvc owner.key) = none) := by
  cases h with
  | @snapshotted v st c evsC y b hv hc' hst hC =>
    have hy : y.err.isSome = true := hC.spec.1.mpr ⟨e, he⟩
    simp only [hy, if_true] at hr hc
    obtain rfl : b = true := hc (undoSnapshot owner b) (by simp) rfl
    refine ⟨fun _ => hr.get_of_deleted_last rfl, fun hk => ?_⟩
    obtain ⟨s₁, h₁, h₂⟩ := hr.append_inv
    rw [h₂.get_of_not_mem (by simp [undoSnapshot, Request.readOnly, Request.keys])]
    cases hC with
    | claimed b' hx hm hP =>
      simp only [hy, if_true] at h₁ hc
      obtain rfl : b' = true := hc (undoClaim owner b') (by simp) rfl
      rw [← List.append_assoc] at h₁
      exact h₁.get_of_deleted_last rfl
    | _ => simp [snapshotEvents, sourceEvents, undoSnapshot, Request.createdKey, Request.created] at hk
  | _ => exact ⟨fun hk => by simp [Request.createdKey, Request.created] at hk,
      fun hk => by simp [Request.createdKey, Request.created] at hk⟩

end Store

/-! ## Fixtures -/

/-- A ready source snapshot `ns/snap`, bound to the content `content`. -/
def readySource : VolumeSnapshot :=
  ⟨"snap", "ns", [], none, none, some ⟨some "content", some true, none⟩⟩

/-- The content bound to `readySource`, with the status `status`. -/
def boundContent (status : Option VolumeSnapshotContentStatus) : VolumeSnapshotContent :=
  ⟨"content", [], ⟨"ns", "snap"⟩, none, .delete, "driver", none, status⟩

/-- A store holding `readySource` and its content with the status `status`. -/
def sourceStore (status : Option VolumeSnapshotContentStatus) : Store :=
  ⟨Table.empty.insert readySource, Table.empty.insert (boundContent status), Table.empty,
    Table.empty, Table.empty, fun _ _ => none⟩

/-- An owner and the parameters of an exposure of `ns/snap` by file system. -/
def sampleOwner : ObjectReference := ⟨"DataUpload", "velero", "du", "uid", "velero.io/v2alpha1"⟩

def sampleParam : CSISnapshotExposeParam :=
  ⟨"snap", "ns", accessModeFileSystem, "sc", [], [], 0, 0, 0, none, [], "", nodeOSLinux⟩

/-- Node-agent templates that add no volume. -/
def sampleInfo : InheritedPodInfo :=
  ⟨"velero/velero", "velero", [], [], [], [], "ClusterFirst", none, [], []⟩

/-- `sourceStore` with a content status, and the node-agent templates in every namespace. -/
def agentStore : Store :=
  { sourceStore (some ⟨some "handle"⟩) with nodeAgentPodInfo := fun _ _ => some sampleInfo }

/-- An oracle that times out the tenth request, the create of the pod. -/
def podTimeout : Oracle := fun i => if i = 9 then some .timeout else none

/-! ## Rollback -/

end Velero.Exposer

import Velero.Exposer.Safety

/-!
# Velero.Exposer.CleanUp — what `CleanUp` leaves after `Expose`

* `run_cleanUp`: `CleanUp` issues its four deletes (`cleanUpRequests`) and ignores their answers.
* Runs of deletes: with no delete failed, every deleted key ends free; deletes of free keys change
  nothing, whatever fails; keys outside the deletes stay as they were.
* `cleanUp_clears`, `cleanUp_volume`: a `CleanUp` whose deletes are not failed leaves no pod, claim
  or backup snapshot under the owner's key, no source snapshot, and no volume the owner's claim
  was bound to; `cleanUp_store_of_cleared`: after that, `CleanUp` changes nothing.
* After `Expose`: `cleanUp_after_expose` composes the two with every run of `Expose`;
  `ExposeTrace.source_content`: `Expose` deletes the source content, leaves it as it was, or
  leaves it retained when it fails between retaining and deleting it.
-/

namespace Velero.Exposer

open Velero.Kube

/-- The deletes `CleanUp` issues, in its order. -/
def cleanUpRequests (ownerObject : ObjectReference) (vsName sourceNamespace : String) :
    List Request :=
  [.deletePodIfAny ownerObject.key, .deletePVAndPVCIfAny ownerObject.key,
    .deleteVolumeSnapshotIfAny ownerObject.key, .deleteVolumeSnapshotIfAny ⟨sourceNamespace, vsName⟩]

/-! ## Runs of deletes -/

section Deletes

variable {rs : List Request} {k : Key}

/-- Deletes the oracle does not fail: each deleted key ends free, and so does every free key. -/
theorem foldl_perform_get_none (hrs : ∀ r ∈ rs, ∃ k, r.deleted = some k) (w : World)
    (hk : some k ∈ rs.map Request.deleted ∨ w.store.get k = none) :
    (rs.foldl (World.perform fun _ => none) w).store.get k = none := by
  induction rs generalizing w with
  | nil => simpa using hk
  | cons r rs ih =>
    obtain ⟨k', hr⟩ := hrs r (.head _)
    refine ih (fun r' h => hrs r' (.tail _ h)) _ ?_
    rw [List.map_cons, List.mem_cons, hr, Option.some.injEq] at hk
    rcases hk with (rfl | hk) | hk
    · exact .inr (r.exec_get_none_of_deleted hr _ (.inl rfl))
    · exact .inl hk
    · exact .inr (r.exec_get_none_of_deleted hr _ (.inr hk))

/-- Deletes of free keys change nothing, whichever of them the oracle fails. -/
theorem foldl_perform_store_of_free (o : Oracle) (w : World)
    (hrs : ∀ r ∈ rs, ∃ k, r.deleted = some k ∧ w.store.get k = none) :
    (rs.foldl (World.perform o) w).store = w.store := by
  induction rs generalizing w with
  | nil => rfl
  | cons r rs ih =>
    obtain ⟨k, hr, hk⟩ := hrs r (.head _)
    have hw := World.perform_store_of_free o w hr hk
    rw [List.foldl_cons, ih _ (fun r' h => by rw [hw]; exact hrs r' (.tail _ h)), hw]

/-- Frame for a run of requests: a key none of them names stays as it was. -/
theorem foldl_perform_get_of_not_mem (o : Oracle) (w : World) (hk : ∀ r ∈ rs, k ∉ r.keys) :
    (rs.foldl (World.perform o) w).store.get k = w.store.get k := by
  induction rs generalizing w with
  | nil => rfl
  | cons r rs ih =>
    rw [List.foldl_cons, ih _ (fun r' h => hk r' (.tail _ h)),
      World.perform_get_of_not_mem o w (hk r (.head _))]

end Deletes

/-! ## `CleanUp` -/

section CleanUp

variable (o : Oracle) (owner : ObjectReference) (vsName ns : String) (w : World)

/-- `CleanUp` issues its deletes in turn, whatever they answer. -/
theorem run_cleanUp :
    (cleanUp owner vsName ns).run o w =
      ((), (cleanUpRequests owner vsName ns).foldl (World.perform o) w) := rfl

/-- With its deletes not failed, `CleanUp` leaves no pod, claim or snapshot under the owner's key
and no snapshot `ns/vsName`. -/
theorem cleanUp_clears :
    ∀ k ∈ [Key.pod owner.key, .pvc owner.key, .vs owner.key, .vs ⟨ns, vsName⟩],
      ((cleanUp owner vsName ns).run (fun _ => none) w).2.store.get k = none := by
  intro k hk
  rw [run_cleanUp]
  exact foldl_perform_get_none (by simp [cleanUpRequests, Request.deleted]) w
    (.inl (by simpa [cleanUpRequests, Request.deleted] using hk))

/-- With its deletes not failed, `CleanUp` erases the volume the owner's claim was bound to. -/
theorem cleanUp_volume {c : PersistentVolumeClaim}
    (hc : w.store.persistentVolumeClaims.get owner.key = some c) (hv : c.volumeName ≠ "") :
    ((cleanUp owner vsName ns).run (fun _ => none) w).2.store.persistentVolumes.get c.volumeName =
      none := by
  have h₁ := (Request.deletePodIfAny owner.key).exec_get_of_not_mem w.store
    (show Key.pvc owner.key ∉ _ by simp [Request.keys])
  simp only [Store.get_pvc, hc] at h₁
  simp [run_cleanUp, cleanUpRequests, World.perform, World.answer, Request.exec_persistentVolumes,
    Request.pvErase, erasePV, h₁, hv]

/-- On a store it has cleared, `CleanUp` changes nothing, whichever of its deletes fail. -/
theorem cleanUp_store_of_cleared
    (h : ∀ k ∈ [Key.pod owner.key, .pvc owner.key, .vs owner.key, .vs ⟨ns, vsName⟩],
      w.store.get k = none) :
    ((cleanUp owner vsName ns).run o w).2.store = w.store := by
  rw [run_cleanUp]
  exact foldl_perform_store_of_free o w (by simpa [cleanUpRequests, Request.deleted] using h)

/-- `CleanUp` never touches a content. -/
theorem cleanUp_contents (n : String) :
    ((cleanUp owner vsName ns).run o w).2.store.get (.vsc n) = w.store.get (.vsc n) := by
  rw [run_cleanUp]
  exact foldl_perform_get_of_not_mem o w (by simp [cleanUpRequests, Request.keys])

end CleanUp

/-! ## `CleanUp` after `Expose` -/

/-- Cleanup completeness and idempotence: after any run of `Expose`, a `CleanUp` whose deletes are
not failed leaves no pod, claim or snapshot under the owner's key, no source snapshot, and nothing
`Expose` created but the backup content; a second `CleanUp` then changes nothing, whichever of its
deletes fail.  Run on any later world in which the claim `Expose` created has since been bound to a
volume, such a `CleanUp` erases that volume. -/
theorem cleanUp_after_expose (o o' : Oracle) (owner : ObjectReference)
    (p : CSISnapshotExposeParam) (w : World) :
    let r := (expose owner p).run o w
    let w' := ((cleanUp owner p.snapshotName p.sourceNamespace).run (fun _ => none) r.2).2
    (∀ k ∈ [Key.pod owner.key, .pvc owner.key, .vs owner.key, .vs p.sourceKey],
      w'.store.get k = none) ∧
    (∀ c (u : World) (pv : String), r.2.store.persistentVolumeClaims.get owner.key = some c →
      pv ≠ "" → u.store.persistentVolumeClaims.get owner.key = some { c with volumeName := pv } →
      ((cleanUp owner p.snapshotName p.sourceNamespace).run (fun _ => none)
        u).2.store.persistentVolumes.get pv = none) ∧
    (∀ k, Created ((expose owner p).events o w) k → k ≠ .vsc owner.name → w'.store.get k = none) ∧
    ((cleanUp owner p.snapshotName p.sourceNamespace).run o' w').2.store = w'.store := by
  intro r w'
  have hfree := cleanUp_clears owner p.snapshotName p.sourceNamespace r.2
  refine ⟨hfree, fun _ u _ _ hv hu => cleanUp_volume owner _ _ u hu hv, fun k hk hne => ?_,
    cleanUp_store_of_cleared o' owner _ _ w' hfree⟩
  rcases (expose_trace o owner p w).spec.2.2 k hk with rfl | rfl | rfl | rfl
  · exact hfree _ (by simp)
  · exact absurd rfl hne
  · exact hfree _ (by simp)
  · exact hfree _ (by simp)

/-! ## The source content -/

section SourceContent

variable {owner : ObjectReference} {p : CSISnapshotExposeParam} {s s' : Store} {evs : List Event}
  {ret : GoResult Unit} {v : VolumeSnapshot} {c : VolumeSnapshotContent}

/-- What `Expose` leaves of the source content: it deleted it; or left it as it was and did not
return nil; or retained it and then failed to delete the source snapshot or the content, leaving
it with the `Retain` policy. -/
theorem ExposeTrace.source_content (h : ExposeTrace owner p s evs ret) (hr : Replays s evs s')
    (hv : SourceReady s p v) (hc : BoundContent s v c) :
    s'.get (.vsc c.name) = none ∨ (ret ≠ .ok () ∧ s'.get (.vsc c.name) = some c) ∨
      ((∃ e, ret = .error e) ∧ ⟨.retainVSC c, true⟩ ∈ evs ∧
        (⟨.ensureDeleteVS v.key, false⟩ ∈ evs ∨ ⟨.ensureDeleteVSC c.name, false⟩ ∈ evs) ∧
        s'.get (.vsc c.name) = some { c with deletionPolicy := .retain }) := by
  have hc₀ : s.get (.vsc c.name) = some c := by
    obtain ⟨n, -, hn⟩ := hc
    simpa [s.volumeSnapshotContents.get_key hn] using hn
  have kept (hk : ∀ e ∈ evs, e.ok → Key.vsc c.name ∉ e.request.writes) :
      s'.get (.vsc c.name) = some c :=
    (hr.get_of_not_mem hk).trans hc₀
  cases h with
  | waitFailed | getContentFailed | createSnapshotFailed =>
    exact .inr (.inl ⟨nofun, kept (by simp [Request.readOnly, Request.keys])⟩)
  | @snapshotted v' st c' evsC y b hv' hc' hst hC =>
    obtain rfl := hv.unique hv'
    obtain rfl := hc.unique hc'
    cases hC with
    | statusNil =>
      exact .inr (.inl ⟨nofun, kept (by simp [snapshotEvents, Request.readOnly, Request.keys])⟩)
    | createFailed e e' hx =>
      exact .inr (.inl ⟨nofun, kept (by simp [snapshotEvents, undoSnapshot, Request.readOnly,
        Request.keys])⟩)
    | retainFailed e e' hx =>
      have hck := (source_name_ne hc hx (by simpa using hr)).2
      exact .inr (.inl ⟨nofun, kept (by simp [snapshotEvents, undoSnapshot, Request.readOnly,
        Request.keys, backupVSC_name hx, hck])⟩)
    | deleteSnapshotFailed e e' hx | deleteContentFailed e e' hx =>
      have hck := (source_name_ne hc hx (by simpa using hr)).2
      obtain ⟨s₁, h₁, h₂⟩ := hr.get_of_write_at (.vsc c.name) 4 (.retainVSC c) (by simp [snapshotEvents])
        (by simp [snapshotEvents, Request.readOnly, Request.keys, backupVSC_name hx, hck])
        (by simp [snapshotEvents, undoSnapshot, Request.readOnly, Request.keys])
      exact .inr (.inr ⟨⟨e, rfl⟩, by simp, by simp,
        h₂.trans (Request.exec_retainVSC_get (h₁.trans hc₀))⟩)
    | accessModeInvalid e e' hx _ | createClaimFailed e e' hx _ =>
      exact .inl (hr.get_of_deleted 6 (.ensureDeleteVSC c.name)
        (by simp [snapshotEvents, sourceEvents]) rfl
        (by simp [snapshotEvents, sourceEvents, undoSnapshot, Request.readOnly, Request.keys]))
    | @claimed x mode evsP y' b' hx _ hP =>
      have hP' : ∀ e ∈ evsP, e.ok → Key.vsc c.name ∉ e.request.writes := fun e he _ hw =>
        nomatch hP.keys_eq e he _ (Request.mem_keys_of_mem_writes _ hw)
      refine .inl (hr.get_of_deleted 6 (.ensureDeleteVSC c.name)
        (by simp [snapshotEvents, sourceEvents]) rfl ?_)
      simp [snapshotEvents, sourceEvents, undoSnapshot, undoClaim, Request.readOnly, Request.keys]
      rintro a (ha | ⟨-, rfl⟩ | ⟨-, rfl⟩) hok
      · exact hP' a ha hok
      all_goals simp [Request.readOnly, Request.keys]

end SourceContent

/-- The source content after `Expose` and `CleanUp`: deleted when `Expose` returned nil; otherwise
deleted, left as it was, or left with the `Retain` policy when `Expose` returned an error from
deleting the source snapshot or the content after `RetainVSC` succeeded. -/
theorem expose_cleanUp_source_content (o o' : Oracle) (owner : ObjectReference)
    (p : CSISnapshotExposeParam) (w : World) {v : VolumeSnapshot} {c : VolumeSnapshotContent}
    (hv : SourceReady w.store p v) (hc : BoundContent w.store v c) :
    let r := (expose owner p).run o w
    let evs := (expose owner p).events o w
    let s := ((cleanUp owner p.snapshotName p.sourceNamespace).run o' r.2).2.store
    (r.1.ret = .ok () → s.volumeSnapshotContents.get c.name = none) ∧
    (s.volumeSnapshotContents.get c.name = none ∨ s.volumeSnapshotContents.get c.name = some c ∨
      (∃ e, r.1.ret = .error e) ∧ ⟨.retainVSC c, true⟩ ∈ evs ∧
        (⟨.ensureDeleteVS v.key, false⟩ ∈ evs ∨ ⟨.ensureDeleteVSC c.name, false⟩ ∈ evs) ∧
        s.volumeSnapshotContents.get c.name = some { c with deletionPolicy := .retain }) := by
  intro r evs s
  have hs : s.volumeSnapshotContents.get c.name = r.2.store.get (.vsc c.name) :=
    cleanUp_contents o' owner _ _ r.2 c.name
  rcases (expose_trace o owner p w).source_content ((expose owner p).replays_events o w) hv hc with
    h | ⟨hne, h⟩ | ⟨⟨e, he⟩, hret, hdel, h⟩
  · exact ⟨fun _ => hs.trans h, .inl (hs.trans h)⟩
  · exact ⟨fun hok => absurd hok hne, .inr (.inl (hs.trans h))⟩
  · refine ⟨fun hok => ?_, .inr (.inr ⟨⟨e, he⟩, hret, hdel, hs.trans h⟩)⟩
    rw [hok] at he
    cases he

theorem expose_cleanUp_source_content_agentStore :
    SourceReady agentStore sampleParam readySource ∧
      BoundContent agentStore readySource (boundContent (some ⟨some "handle"⟩)) ∧
      ((expose sampleOwner sampleParam).run (fun _ => none) ⟨agentStore, []⟩).1.ret = .ok () ∧
      ((cleanUp sampleOwner sampleParam.snapshotName sampleParam.sourceNamespace).run (fun _ => none)
        ((expose sampleOwner sampleParam).run (fun _ => none)
          ⟨agentStore, []⟩).2).2.store.volumeSnapshotContents.get "content" = none :=
  have hok : ((expose sampleOwner sampleParam).run (fun _ => none) ⟨agentStore, []⟩).1.ret =
      .ok () := rfl
  ⟨⟨rfl, rfl⟩, ⟨"content", rfl, rfl⟩, hok, (expose_cleanUp_source_content (fun _ => none)
    (fun _ => none) sampleOwner sampleParam ⟨agentStore, []⟩ ⟨rfl, rfl⟩
    ⟨"content", rfl, rfl⟩).1 hok⟩

/-- A source content with the `Delete` policy whose source snapshot delete times out: after
`Expose` and a `CleanUp` whose deletes succeed, the content is left with `Retain`. -/
theorem retained_content_left_after_cleanUp :
    SourceReady (sourceStore (some ⟨some "handle"⟩)) sampleParam readySource ∧
      BoundContent (sourceStore (some ⟨some "handle"⟩)) readySource
        (boundContent (some ⟨some "handle"⟩)) ∧
      (boundContent (some ⟨some "handle"⟩)).deletionPolicy = .delete ∧
      ((cleanUp sampleOwner sampleParam.snapshotName sampleParam.sourceNamespace).run
        (fun _ => none) ((expose sampleOwner sampleParam).run
          (fun n => if n = 5 then some .timeout else none)
          ⟨sourceStore (some ⟨some "handle"⟩), []⟩).2).2.store.volumeSnapshotContents.get "content" =
        some { (boundContent (some ⟨some "handle"⟩)) with deletionPolicy := .retain } :=
  ⟨⟨rfl, rfl⟩, ⟨"content", rfl, rfl⟩, rfl, rfl⟩

end Velero.Exposer

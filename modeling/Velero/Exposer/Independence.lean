import Velero.Exposer.CleanUp
import Velero.Exposer.GetExposed
import Velero.Kube.Interleave

/-!
# Velero.Exposer.Independence — exposures for distinct owners do not interfere

* `exposeThenCleanUp owner p`: the calls of the exposer for one owner, `Expose` then `CleanUp`.
* `exposureKeys owner p s`: the keys they touch from the store `s`: the source snapshot and the
  content bound to it, and the snapshot, content, claim and pod named after the owner
  (`ExposeTrace.stays`, `cleanUp_stays`).
* `exposures_independent`: for two owners whose keys are apart, every interleaving of their
  requests ends with the values, traces and store of running the first owner's calls before the
  second's; and `CleanUp` for one owner deletes nothing `Expose` for the other creates.
-/

namespace Velero.Exposer

open Velero.Kube

/-- The calls of the exposer for one owner: `Expose`, then `CleanUp`; what `Expose` returned. -/
def exposeThenCleanUp (owner : ObjectReference) (p : CSISnapshotExposeParam) :
    Prog (GoResult Unit) :=
  expose owner p >>= fun x => cleanUp owner p.snapshotName p.sourceNamespace >>= fun _ => .pure x.ret

/-- The name of the content bound to the source snapshot in `s`, if any. -/
def sourceContentName (s : Store) (p : CSISnapshotExposeParam) : Option String :=
  (s.volumeSnapshots.get p.sourceKey).bind fun v => v.status.bind (·.boundVolumeSnapshotContentName)

/-- The keys the calls of the exposer for one owner touch, from the store `s`. -/
def exposureKeys (owner : ObjectReference) (p : CSISnapshotExposeParam) (s : Store) : List Key :=
  [.vs p.sourceKey, .vs owner.key, .vsc owner.name, .pvc owner.key, .pod owner.key] ++
    (sourceContentName s p).toList.map .vsc

/-! ## The keys of a run -/

section Keys

variable {owner : ObjectReference} {p : CSISnapshotExposeParam} {s : Store} {F : List Key}
  {evs : List Event}

@[simp] theorem vs_mem_exposureKeys {x : NamespacedName} :
    Key.vs x ∈ exposureKeys owner p s ↔ x = p.sourceKey ∨ x = owner.key := by
  simp [exposureKeys]

@[simp] theorem vsc_mem_exposureKeys {n : String} :
    Key.vsc n ∈ exposureKeys owner p s ↔ n = owner.name ∨ sourceContentName s p = some n := by
  simp [exposureKeys]

@[simp] theorem pvc_mem_exposureKeys {x : NamespacedName} :
    Key.pvc x ∈ exposureKeys owner p s ↔ x = owner.key := by
  simp [exposureKeys]

@[simp] theorem pod_mem_exposureKeys {x : NamespacedName} :
    Key.pod x ∈ exposureKeys owner p s ↔ x = owner.key := by
  simp [exposureKeys]

theorem PodTrace.stays {pvc : PersistentVolumeClaim} {agent : String → String → Option InheritedPodInfo}
    {y : Exit} (h : PodTrace owner p pvc agent evs y) (hF : Key.pod owner.key ∈ F) : Stays F evs := by
  cases h <;> simp [Request.keys, Request.readsPV, hF]

theorem ContentTrace.stays {v : VolumeSnapshot} {st : VolumeSnapshotStatus}
    {c : VolumeSnapshotContent} {agent : String → String → Option InheritedPodInfo} {y : Exit}
    (h : ContentTrace owner p v st c agent evs y)
    (hF : ∀ k ∈ [Key.vs v.key, .vs owner.key, .vsc owner.name, .vsc c.name, .pvc owner.key,
      .pod owner.key], k ∈ F) : Stays F evs := by
  simp only [List.mem_cons, List.mem_singleton, List.not_mem_nil, or_false, forall_eq_or_imp,
    forall_eq] at hF
  cases h with
  | statusNil => exact stays_nil
  | claimed b hx _ hP =>
    have := hP.stays hF.2.2.2.2.2
    by_cases hy : (‹Exit›).err.isSome <;>
      simp [sourceEvents, undoClaim, Request.keys, Request.readsPV, backupVSC_name hx, hF, hy, this]
  | _ => simp_all [sourceEvents, Request.keys, Request.readsPV, backupVSC_name ‹_›]

/-- Every request of `Expose` names a key of the exposure. -/
theorem ExposeTrace.stays {ret : GoResult Unit} (h : ExposeTrace owner p s evs ret) :
    Stays (exposureKeys owner p s) evs := by
  cases h with
  | waitFailed => simp [Request.keys, Request.readsPV]
  | getContentFailed e hv | createSnapshotFailed e hv =>
    simp [Request.keys, Request.readsPV, sourceContentName, hv.1]
    exact fun _ => .inr
  | @snapshotted v st c evsC y b hv hc hst hC =>
    obtain ⟨n, hn, hcn⟩ := hc
    have hvk : v.key = p.sourceKey := s.volumeSnapshots.get_key hv.1
    have hcn' : c.name = n := s.volumeSnapshotContents.get_key hcn
    have hsrc : sourceContentName s p = some n := by simp [sourceContentName, hv.1, hn]
    have hC' : Stays (exposureKeys owner p s) evsC := hC.stays (by simp [hvk, hcn', hsrc])
    by_cases hy : y.err.isSome <;>
      simp [snapshotEvents, undoSnapshot, Request.keys, Request.readsPV, hn, hsrc, hC', hy]

/-- `CleanUp` issues its four deletes, whatever they answer. -/
theorem cleanUp_events (o : Oracle) (owner : ObjectReference) (vsName ns : String) (w : World) :
    ((cleanUp owner vsName ns).events o w).map Event.request = cleanUpRequests owner vsName ns := by
  simp [Prog.events, run_cleanUp, cleanUpRequests]

/-- The deletes of `CleanUp` read no volume and name keys of the exposure. -/
theorem cleanUpRequests_keys {r : Request}
    (hr : r ∈ cleanUpRequests owner p.snapshotName p.sourceNamespace) :
    r.readsPV = false ∧ ∀ k ∈ r.keys, k ∈ exposureKeys owner p s := by
  simp only [cleanUpRequests, CSISnapshotExposeParam.mk_sourceKey, List.mem_cons,
    List.mem_singleton, List.not_mem_nil, or_false] at hr
  rcases hr with rfl | rfl | rfl | rfl <;> simp [Request.keys, Request.readsPV]

theorem cleanUp_stays (o : Oracle) (w : World) :
    Stays (exposureKeys owner p s) ((cleanUp owner p.snapshotName p.sourceNamespace).events o w) :=
  fun _ he => cleanUpRequests_keys (cleanUp_events o owner _ _ w ▸ List.mem_map_of_mem _ he)

/-- Every request of the calls for one owner names a key of the exposure. -/
theorem exposeThenCleanUp_stays (o : Oracle) (w : World) :
    Stays (exposureKeys owner p w.store) ((exposeThenCleanUp owner p).events o w) := by
  rw [exposeThenCleanUp, Prog.events_bind, Prog.events_bind, stays_append, stays_append]
  exact ⟨(expose_trace o owner p w).stays, cleanUp_stays o _, by simp⟩

/-- What `Expose` creates, from any store, is under a key of the exposure. -/
theorem created_mem_exposureKeys (o : Oracle) (w : World) {k : Key}
    (h : Created ((expose owner p).events o w) k) : k ∈ exposureKeys owner p s := by
  rcases (expose_trace o owner p w).spec.2.2 k h with rfl | rfl | rfl | rfl <;> simp

/-- A run that keeps off the source snapshot leaves its bound content name as it was. -/
theorem sourceContentName_of_stays {s s' : Store} (hr : Replays s evs s') (hs : Stays F evs)
    (hk : Key.vs p.sourceKey ∉ F) : sourceContentName s' p = sourceContentName s p := by
  have h : s'.get (.vs p.sourceKey) = s.get (.vs p.sourceKey) :=
    hr.get_of_not_mem fun e he _ hw => hk ((hs e he).2 _ (Request.mem_keys_of_mem_writes _ hw))
  simp only [Store.get_vs] at h
  simp only [sourceContentName, h]

end Keys

/-! ## Two owners -/

section TwoOwners

variable {owner₁ owner₂ : ObjectReference} {p₁ p₂ : CSISnapshotExposeParam} {s : Store}

/-- The keys of two exposures are apart when the owners' names differ and the source snapshots and
their contents differ from each other and from the other owner's keys. -/
theorem exposureKeys_disjoint (hname : owner₁.name ≠ owner₂.name)
    (hsrc : p₁.sourceKey ≠ p₂.sourceKey) (h₁₂ : p₁.sourceKey ≠ owner₂.key)
    (h₂₁ : p₂.sourceKey ≠ owner₁.key)
    (hc₁ : ∀ n ∈ sourceContentName s p₁, n ≠ owner₂.name ∧ ∀ n' ∈ sourceContentName s p₂, n ≠ n')
    (hc₂ : ∀ n ∈ sourceContentName s p₂, n ≠ owner₁.name) :
    ∀ k ∈ exposureKeys owner₂ p₂ s, k ∉ exposureKeys owner₁ p₁ s := by
  have hkey : owner₂.key ≠ owner₁.key := fun h => hname (congrArg NamespacedName.name h).symm
  intro k hk₂ hk₁
  cases k with
  | vs x =>
    simp only [vs_mem_exposureKeys] at hk₁ hk₂
    rcases hk₂ with rfl | rfl <;> rcases hk₁ with h | h
    exacts [hsrc h.symm, h₂₁ h, h₁₂ h.symm, hkey h]
  | vsc n =>
    simp only [vsc_mem_exposureKeys] at hk₁ hk₂
    rcases hk₂ with rfl | h₂ <;> rcases hk₁ with h | h₁
    exacts [hname h.symm, (hc₁ _ h₁).1 rfl, hc₂ n h₂ h, (hc₁ n h₁).2 n h₂ rfl]
  | pvc x | pod x =>
    simp only [pvc_mem_exposureKeys, pod_mem_exposureKeys] at hk₁ hk₂
    exact hkey (hk₂.symm.trans hk₁)

/-- Independence of exposures for distinct owners: when the owners' names differ, and the source
snapshots and the contents bound to them differ from each other and from the other owner's keys,
every interleaving of the requests of `Expose` then `CleanUp` for the one owner with those for the
other ends with the values, traces and store of running the first owner's calls before the
second's.  `CleanUp` for either owner deletes nothing `Expose` for the other creates, whatever the
store. -/
theorem exposures_independent (o₁ o₂ : Oracle) (owner₁ owner₂ : ObjectReference)
    (p₁ p₂ : CSISnapshotExposeParam) (t₁ t₂ : List Event) (s : Store)
    (hname : owner₁.name ≠ owner₂.name) (hsrc : p₁.sourceKey ≠ p₂.sourceKey)
    (h₁₂ : p₁.sourceKey ≠ owner₂.key) (h₂₁ : p₂.sourceKey ≠ owner₁.key)
    (hc₁ : ∀ n ∈ sourceContentName s p₁, n ≠ owner₂.name ∧ ∀ n' ∈ sourceContentName s p₂, n ≠ n')
    (hc₂ : ∀ n ∈ sourceContentName s p₂, n ≠ owner₁.name) :
    (∀ sch, interleave o₁ o₂ sch (exposeThenCleanUp owner₁ p₁) t₁ (exposeThenCleanUp owner₂ p₂) t₂ s =
      runBoth o₁ o₂ (exposeThenCleanUp owner₁ p₁) t₁ (exposeThenCleanUp owner₂ p₂) t₂ s) ∧
    ∀ (o : Oracle) (w : World) (k : Key),
      (Created ((expose owner₂ p₂).events o w) k →
        ∀ r ∈ cleanUpRequests owner₁ p₁.snapshotName p₁.sourceNamespace, r.deleted ≠ some k) ∧
      (Created ((expose owner₁ p₁).events o w) k →
        ∀ r ∈ cleanUpRequests owner₂ p₂.snapshotName p₂.sourceNamespace, r.deleted ≠ some k) := by
  have hF := exposureKeys_disjoint hname hsrc h₁₂ h₂₁ hc₁ hc₂
  refine ⟨fun sch => ?_, fun o w k => ⟨fun hk r hr hd => ?_, fun hk r hr hd => ?_⟩⟩
  · have h₁ : Stays (exposureKeys owner₁ p₁ s)
        ((exposeThenCleanUp owner₁ p₁).events o₁ ⟨s, t₁⟩) := exposeThenCleanUp_stays o₁ _
    -- the first owner's calls leave the second's source snapshot, hence its content name, alone
    have hS : exposureKeys owner₂ p₂ ((exposeThenCleanUp owner₁ p₁).run o₁ ⟨s, t₁⟩).2.store =
        exposureKeys owner₂ p₂ s := by
      rw [exposureKeys, exposureKeys, sourceContentName_of_stays
        ((exposeThenCleanUp owner₁ p₁).replays_events o₁ ⟨s, t₁⟩) h₁
        (hF _ (by simp))]
    exact interleave_eq_runBoth o₁ o₂ hF sch _ _ _ _ s h₁ (hS ▸ exposeThenCleanUp_stays o₂ _)
  -- a delete names its one key, which the other owner's `Expose` does not create
  all_goals have hdk : k ∈ r.keys := by simp [Request.keys_of_deleted hd]
  · exact hF k (created_mem_exposureKeys o w hk) ((cleanUpRequests_keys hr).2 k hdk)
  · exact hF k ((cleanUpRequests_keys hr).2 k hdk) (created_mem_exposureKeys o w hk)

/-- A second owner, exposing `ns/snap2`. -/
def secondOwner : ObjectReference := ⟨"DataUpload", "velero", "du2", "uid2", "velero.io/v2alpha1"⟩

def secondParam : CSISnapshotExposeParam := { sampleParam with snapshotName := "snap2" }

/-- A second ready source snapshot `ns/snap2`, bound to the content `content2`. -/
def readySource2 : VolumeSnapshot :=
  ⟨"snap2", "ns", [], none, none, some ⟨some "content2", some true, none⟩⟩

/-- `agentStore` with `readySource2` and its content as well. -/
def twoSourceStore : Store :=
  { agentStore with
    volumeSnapshots := agentStore.volumeSnapshots.insert readySource2
    volumeSnapshotContents := agentStore.volumeSnapshotContents.insert
      ⟨"content2", [], ⟨"ns", "snap2"⟩, none, .delete, "driver", none, some ⟨some "handle2"⟩⟩ }

theorem exposures_independent_twoSourceStore :
    sampleOwner.name ≠ secondOwner.name ∧
      sourceContentName twoSourceStore sampleParam = some "content" ∧
      sourceContentName twoSourceStore secondParam = some "content2" ∧
      (runBoth (fun _ => none) (fun _ => none) (exposeThenCleanUp sampleOwner sampleParam) []
        (exposeThenCleanUp secondOwner secondParam) [] twoSourceStore).value₁ = .ok () ∧
      (runBoth (fun _ => none) (fun _ => none) (exposeThenCleanUp sampleOwner sampleParam) []
        (exposeThenCleanUp secondOwner secondParam) [] twoSourceStore).value₂ = .ok () ∧
      ∀ sch, interleave (fun _ => none) (fun _ => none) sch (exposeThenCleanUp sampleOwner sampleParam)
          [] (exposeThenCleanUp secondOwner secondParam) [] twoSourceStore =
        runBoth (fun _ => none) (fun _ => none) (exposeThenCleanUp sampleOwner sampleParam) []
          (exposeThenCleanUp secondOwner secondParam) [] twoSourceStore :=
  have h₁ : sourceContentName twoSourceStore sampleParam = some "content" := by decide
  have h₂ : sourceContentName twoSourceStore secondParam = some "content2" := by decide
  ⟨by decide, h₁, h₂, rfl, rfl, (exposures_independent (fun _ => none) (fun _ => none) sampleOwner
    secondOwner sampleParam secondParam [] [] twoSourceStore (by decide) (by decide) (by decide)
    (by decide)
    (fun n hn => by
      cases h₁ ▸ hn
      exact ⟨by decide, fun n' hn' => by cases h₂ ▸ hn'; decide⟩)
    (fun n hn => by cases h₂ ▸ hn; decide)).1⟩

end TwoOwners

end Velero.Exposer

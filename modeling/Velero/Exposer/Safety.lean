import Velero.Exposer.Rollback

/-!
# Velero.Exposer.Safety — retain before delete, and the nil dereference

* `Precedes P Q evs`: every event of `evs` satisfying `Q` has an earlier one satisfying `P`.
* Retain safety: in every run of `Expose`, a delete of the source snapshot or of the source content
  comes after `RetainVSC` of that content succeeded, and the delete of the content after the
  delete of the snapshot succeeded.
* No panic: once the content bound to the ready source snapshot has a status, `Expose` never
  dereferences a nil pointer; without one it does, and no deferred delete fires.
* `sourceStore_ready`: the ready source snapshot and its content in the fixture `sourceStore`.
-/

namespace Velero.Exposer

open Velero.Kube

/-- In `evs`, every event satisfying `Q` comes after an event satisfying `P`. -/
def Precedes (P Q : Event → Prop) (evs : List Event) : Prop :=
  ∀ (i : Nat) (e : Event), evs[i]? = some e → Q e → ∃ j < i, ∃ e' : Event, evs[j]? = some e' ∧ P e'

section Precedes

variable {P Q : Event → Prop}

@[simp] theorem precedes_nil : Precedes P Q [] := by
  simp [Precedes]

@[simp] theorem precedes_cons {e : Event} {evs : List Event} :
    Precedes P Q (e :: evs) ↔ ¬Q e ∧ (P e ∨ Precedes P Q evs) := by
  unfold Precedes
  constructor
  · intro h
    refine ⟨fun hq => ?_, or_iff_not_imp_left.mpr fun hp i e' hi hq => ?_⟩
    · obtain ⟨j, hj, -⟩ := h 0 e (by simp) hq
      omega
    · obtain ⟨j, hj, e'', hj', hp'⟩ := h (i + 1) e' (by simpa using hi) hq
      cases j with
      | zero =>
        simp only [List.getElem?_cons_zero, Option.some.injEq] at hj'
        exact absurd (hj' ▸ hp') hp
      | succ j => exact ⟨j, by omega, e'', by simpa using hj', hp'⟩
  · rintro ⟨hq, hp⟩ i e' hi hq'
    cases i with
    | zero =>
      simp only [List.getElem?_cons_zero, Option.some.injEq] at hi
      exact absurd (hi ▸ hq') hq
    | succ i =>
      rcases hp with hp | hp
      · exact ⟨0, by omega, e, by simp, hp⟩
      · obtain ⟨j, hj, e'', hj', hp'⟩ := hp i e' (by simpa using hi) hq'
        exact ⟨j + 1, by omega, e'', by simpa using hj', hp'⟩

theorem precedes_append {l₁ l₂ : List Event} :
    Precedes P Q (l₁ ++ l₂) ↔ Precedes P Q l₁ ∧ ((∃ e ∈ l₁, P e) ∨ Precedes P Q l₂) := by
  induction l₁ with
  | nil => simp
  | cons e l₁ ih =>
    by_cases hp : P e
    · simp [hp]
    · simp [hp, ih, and_assoc]

end Precedes

/-! ## Retain before delete -/

/-- The event deletes the object under `k`. -/
def Deletes (k : Key) (e : Event) : Prop := e.request.deleted = some k

@[simp] theorem deletes_mk (k : Key) (r : Request) (b : Bool) :
    Deletes k ⟨r, b⟩ ↔ r.deleted = some k := Iff.rfl

section Retain

variable {owner : ObjectReference} {p : CSISnapshotExposeParam} {s : Store} {evs : List Event}

/-- The content stage retains the source content before it deletes the source snapshot or
content, and deletes the content only after the snapshot. -/
theorem ContentTrace.retain_first {v : VolumeSnapshot} {st : VolumeSnapshotStatus}
    {c : VolumeSnapshotContent} {agent : String → String → Option InheritedPodInfo} {y : Exit}
    (h : ContentTrace owner p v st c agent evs y) :
    Precedes (· = ⟨.retainVSC c, true⟩) (fun e => Deletes (.vs v.key) e ∨ Deletes (.vsc c.name) e)
      evs ∧
    Precedes (· = ⟨.ensureDeleteVS v.key, true⟩) (Deletes (.vsc c.name)) evs := by
  cases h <;> simp [precedes_append, sourceEvents, Request.deleted]

/-- `Expose` deletes the source snapshot only once it has found the source content; it retains
that content before it deletes the source snapshot or content, and deletes the content only after
the snapshot. -/
theorem ExposeTrace.retain_first {s' : Store} {ret : GoResult Unit}
    (h : ExposeTrace owner p s evs ret) (hr : Replays s evs s') :
    (∀ e ∈ evs, Deletes (.vs p.sourceKey) e → ∃ v c, SourceReady s p v ∧ BoundContent s v c) ∧
    ∀ v c, SourceReady s p v → BoundContent s v c →
      Precedes (· = ⟨.retainVSC c, true⟩)
        (fun e => Deletes (.vs p.sourceKey) e ∨ Deletes (.vsc c.name) e) evs ∧
      Precedes (· = ⟨.ensureDeleteVS p.sourceKey, true⟩) (Deletes (.vsc c.name)) evs := by
  cases h with
  | @snapshotted v st c evsC y b hv hc hst hC =>
    refine ⟨fun _ _ _ => ⟨v, c, hv, hc⟩, fun v' c' hv' hc' => ?_⟩
    obtain rfl := hv.unique hv'
    obtain rfl := hc.unique hc'
    have hvk : v.key = p.sourceKey := s.volumeSnapshots.get_key hv.1
    have hne : owner.key ≠ p.sourceKey := hvk ▸ (source_key_ne hv (by simpa using hr)).2.symm
    obtain ⟨h₁, h₂⟩ := hC.retain_first
    rw [hvk] at h₁ h₂
    by_cases hy : y.err.isSome <;>
      simp [hy, precedes_append, snapshotEvents, undoSnapshot, Request.deleted, h₁, h₂, hne]
  | _ => simp [Request.deleted]

end Retain

/-- Retain safety of `Expose`: in every run, a delete of the source snapshot happens only once the
source content was found, and a delete of the source snapshot or of the source content comes after
`RetainVSC` of that content succeeded; the content is deleted only after the snapshot's delete
succeeded. -/
theorem expose_retain_safety (o : Oracle) (owner : ObjectReference) (p : CSISnapshotExposeParam)
    (w : World) :
    let evs := (expose owner p).events o w
    (∀ e ∈ evs, Deletes (.vs p.sourceKey) e → ∃ v c, SourceReady w.store p v ∧ BoundContent w.store v c) ∧
    ∀ v c, SourceReady w.store p v → BoundContent w.store v c →
      Precedes (· = ⟨.retainVSC c, true⟩)
        (fun e => Deletes (.vs p.sourceKey) e ∨ Deletes (.vsc c.name) e) evs ∧
      Precedes (· = ⟨.ensureDeleteVS p.sourceKey, true⟩) (Deletes (.vsc c.name)) evs :=
  (expose_trace o owner p w).retain_first ((expose owner p).replays_events o w)


/-! ## The nil dereference -/

section Panic

variable {owner : ObjectReference} {p : CSISnapshotExposeParam} {s : Store} {evs : List Event}

/-- The content stage panics only in `createBackupVSC`, on a source content with no status. -/
theorem ContentTrace.status_of_panic {v : VolumeSnapshot} {st : VolumeSnapshotStatus}
    {c : VolumeSnapshotContent} {agent : String → String → Option InheritedPodInfo} {y : Exit}
    (h : ContentTrace owner p v st c agent evs y) {m : String} (hm : y.ret = .panic m) :
    c.status = none := by
  cases h with
  | statusNil hs => exact hs
  | claimed _ _ _ hP => cases hP <;> cases hm
  | _ => cases hm

theorem ExposeTrace.status_of_panic {ret : GoResult Unit} (h : ExposeTrace owner p s evs ret)
    {m : String} (hm : ret = .panic m) :
    ∃ v c, SourceReady s p v ∧ BoundContent s v c ∧ c.status = none := by
  cases h with
  | snapshotted _ hv hc _ hC => exact ⟨_, _, hv, hc, hC.status_of_panic hm⟩
  | _ => cases hm

end Panic

/-- `Expose` panics only where `createBackupVSC` reads the source content's status: once the
content bound to the ready source snapshot has a status, every run returns nil or an error. -/
theorem expose_no_panic (o : Oracle) (owner : ObjectReference) (p : CSISnapshotExposeParam)
    (w : World)
    (h : ∀ v c, SourceReady w.store p v → BoundContent w.store v c → c.status.isSome) :
    ∀ m, ((expose owner p).run o w).1.ret ≠ .panic m := by
  intro m hm
  obtain ⟨v, c, hv, hc, hs⟩ := (expose_trace o owner p w).status_of_panic hm
  simpa [hs] using h v c hv hc

theorem sourceStore_ready {status : Option VolumeSnapshotContentStatus} {v : VolumeSnapshot}
    {c : VolumeSnapshotContent} (hv : SourceReady (sourceStore status) sampleParam v)
    (hc : BoundContent (sourceStore status) v c) : v = readySource ∧ c = boundContent status := by
  obtain rfl : readySource = v := Option.some.inj hv.1
  obtain ⟨n, hn, hc⟩ := hc
  obtain rfl : "content" = n := Option.some.inj hn
  exact ⟨rfl, (Option.some.inj hc).symm⟩

theorem expose_no_panic_sourceStore :
    (∀ v c, SourceReady (sourceStore (some ⟨some "handle"⟩)) sampleParam v →
      BoundContent (sourceStore (some ⟨some "handle"⟩)) v c → c.status.isSome) ∧
    ∀ m, ((expose sampleOwner sampleParam).run (fun _ => none)
      ⟨sourceStore (some ⟨some "handle"⟩), []⟩).1.ret ≠ .panic m :=
  have h : ∀ v c, SourceReady (sourceStore (some ⟨some "handle"⟩)) sampleParam v →
      BoundContent (sourceStore (some ⟨some "handle"⟩)) v c → c.status.isSome := fun v c hv hc => by
    rw [(sourceStore_ready hv hc).2]
    rfl
  ⟨h, expose_no_panic _ _ _ _ h⟩

/-- A ready source snapshot whose content has no status: `Expose` panics. -/
theorem expose_panics_on_content_without_status :
    SourceReady (sourceStore none) sampleParam readySource ∧
      BoundContent (sourceStore none) readySource (boundContent none) ∧
      ((expose sampleOwner sampleParam).run (fun _ => none) ⟨sourceStore none, []⟩).1.ret =
        .panic nilDereference :=
  ⟨⟨rfl, rfl⟩, ⟨"content", rfl, rfl⟩, rfl⟩

end Velero.Exposer

import Velero.Kube.Run

/-!
# Velero.Kube.Footprint — which objects a request reads and writes

* `Key`: one object of the store; `Store.get s k` is the object there.  Volumes are not keys:
  `deletePVAndPVCIfAny` erases the volume its claim is bound to (`Request.pvErase`), only
  `waitPVCBound` reads one (`Request.readsPV`), and no request creates one.
* `Request.keys r`: the keys `r` reads or writes.
* `Request.exec_get_of_not_mem` (frame): a request leaves every key outside its own as it was.
* `Request.exec_congr` (locality): on two stores that agree on its keys, a request gives the same
  answer, the same objects at its keys, and erases the same volume.
* `Request.exec_comm`: two requests with disjoint keys commute, answers included.
* Creates and deletes: `Request.created`, `Request.deleted`; a successful create stores its
  object, a delete frees its key, a delete of a free key changes nothing.
* Along a replay (`Replays`): a key no successful request writes keeps its object
  (`get_of_not_mem`); the object a successful request at position `i` created or deleted is what
  the end store holds when nothing after `i` writes the key (`get_of_created`, `get_of_deleted`).
* `Prog.OnlyReads p`: every request `p` may issue is a read; then `p` leaves the store as it was,
  whatever fails (`Prog.OnlyReads.run_store`).
-/

namespace Velero.Kube

/-- A key of the store: the kind of an object and its name (and namespace). -/
inductive Key where
  | vs (k : NamespacedName)
  | vsc (name : String)
  | pvc (k : NamespacedName)
  | pod (k : NamespacedName)
deriving DecidableEq

/-- The type of the object stored under a key. -/
@[reducible] def Key.Obj : Key → Type
  | .vs _ => VolumeSnapshot
  | .vsc _ => VolumeSnapshotContent
  | .pvc _ => PersistentVolumeClaim
  | .pod _ => Pod

/-- The object stored under a key. -/
def Store.get (s : Store) : (k : Key) → Option k.Obj
  | .vs k => s.volumeSnapshots.get k
  | .vsc n => s.volumeSnapshotContents.get n
  | .pvc k => s.persistentVolumeClaims.get k
  | .pod k => s.pods.get k

section Get

variable (s : Store)

@[simp] theorem Store.get_vs (k : NamespacedName) : s.get (.vs k) = s.volumeSnapshots.get k := rfl

@[simp] theorem Store.get_vsc (n : String) : s.get (.vsc n) = s.volumeSnapshotContents.get n := rfl

@[simp] theorem Store.get_pvc (k : NamespacedName) :
    s.get (.pvc k) = s.persistentVolumeClaims.get k := rfl

@[simp] theorem Store.get_pod (k : NamespacedName) : s.get (.pod k) = s.pods.get k := rfl

end Get

/-- Two stores are equal when they hold the same objects, volumes and node-agent templates. -/
theorem Store.ext_get {s s' : Store} (h : ∀ k, s.get k = s'.get k)
    (hv : s.persistentVolumes = s'.persistentVolumes)
    (hn : s.nodeAgentPodInfo = s'.nodeAgentPodInfo) : s = s' := by
  cases s; cases s'
  simp only at hv hn
  subst hv hn
  congr 1 <;> apply Table.ext <;> intro k
  exacts [h (.vs k), h (.vsc k), h (.pvc k), h (.pod k)]

/-- `s` and `s'` hold the same objects under the keys `ks`. -/
def Store.Agree (ks : List Key) (s s' : Store) : Prop := ∀ k ∈ ks, s.get k = s'.get k

/-- The keys a request reads or writes.  The content lookup reads the content its snapshot names. -/
def Request.keys : Request → List Key
  | .waitVolumeSnapshotReady k => [.vs k]
  | .getVolumeSnapshotContentForVolumeSnapshot vs =>
    (vs.status.bind (·.boundVolumeSnapshotContentName)).toList.map .vsc
  | .createVolumeSnapshot vs => [.vs vs.key]
  | .createVolumeSnapshotContent vsc => [.vsc vsc.name]
  | .retainVSC vsc => [.vsc vsc.name]
  | .ensureDeleteVS k => [.vs k]
  | .ensureDeleteVSC n => [.vsc n]
  | .createPersistentVolumeClaim pvc => [.pvc pvc.key]
  | .getInheritedPodInfo _ _ => []
  | .createPod pod => [.pod pod.key]
  | .deleteVolumeSnapshotIfAny k => [.vs k]
  | .deletePVAndPVCIfAny k => [.pvc k]
  | .deletePodIfAny k => [.pod k]
  | .getPod k => [.pod k]
  | .waitPVCBound k => [.pvc k]
  | .getPersistentVolumeClaim k => [.pvc k]
  | .getVolumeSnapshot k => [.vs k]
  | .getPersistentVolume _ => []
  | .getVolumeSnapshotContent n => [.vsc n]
  | .isRunningInNode _ _ => []

/-- The requests that only read. -/
def Request.readOnly : Request → Bool
  | .waitVolumeSnapshotReady _ | .getVolumeSnapshotContentForVolumeSnapshot _
  | .getInheritedPodInfo _ _ | .getPod _ | .waitPVCBound _ | .getPersistentVolumeClaim _
  | .getVolumeSnapshot _ | .getPersistentVolume _ | .getVolumeSnapshotContent _
  | .isRunningInNode _ _ => true
  | _ => false

/-- The keys a request may change: those of every request but the reads. -/
def Request.writes : Request → List Key
  | .waitVolumeSnapshotReady _ | .getVolumeSnapshotContentForVolumeSnapshot _
  | .getInheritedPodInfo _ _ | .getPod _ | .waitPVCBound _ | .getPersistentVolumeClaim _
  | .getVolumeSnapshot _ | .getPersistentVolume _ | .getVolumeSnapshotContent _
  | .isRunningInNode _ _ => []
  | r => r.keys

theorem Request.writes_eq (r : Request) : r.writes = if r.readOnly then [] else r.keys := by
  cases r <;> rfl

@[simp] theorem Request.writes_of_readOnly {r : Request} (h : r.readOnly = true) : r.writes = [] := by
  simp [r.writes_eq, h]

@[simp] theorem Request.writes_of_not_readOnly {r : Request} (h : r.readOnly = false) :
    r.writes = r.keys := by
  simp [r.writes_eq, h]

/-- Whether a request reads a volume. -/
def Request.readsPV : Request → Bool
  | .waitPVCBound _ | .getPersistentVolume _ => true
  | _ => false

/-- The volume a request erases: the one the claim `deletePVAndPVCIfAny` deletes is bound to. -/
def Request.pvErase : Request → Store → Option String
  | .deletePVAndPVCIfAny k, s =>
    (s.persistentVolumeClaims.get k).bind fun c => if c.volumeName = "" then none else some c.volumeName
  | _, _ => none

/-- Erase the volume `n`, if any. -/
def erasePV (t : Table String PersistentVolume PersistentVolume.name) : Option String →
    Table String PersistentVolume PersistentVolume.name
  | none => t
  | some n => t.erase n

theorem erasePV_comm (t : Table String PersistentVolume PersistentVolume.name) (n m : Option String) :
    erasePV (erasePV t n) m = erasePV (erasePV t m) n := by
  cases n <;> cases m <;> simp only [erasePV]
  exact Table.erase_comm t _ _

namespace Request

variable (r : Request) (s : Store)

/-- A read leaves the store as it was. -/
theorem exec_fst_of_readOnly (h : r.readOnly = true) : (r.exec s).1 = s := by
  cases r <;> first | rfl | cases h

/-- Frame: a request changes no object outside its keys. -/
theorem exec_get_of_not_mem {k : Key} (h : k ∉ r.keys) : (r.exec s).1.get k = s.get k := by
  cases hr : r.readOnly
  case true => rw [exec_fst_of_readOnly r s hr]
  -- the writes, each on one key
  cases r <;> cases hr <;> cases k <;> simp only [keys, List.mem_singleton, Key.vs.injEq,
      Key.vsc.injEq, Key.pvc.injEq, Key.pod.injEq, reduceCtorEq, not_false_eq_true] at h ⊢ <;>
    simp only [exec] <;> (repeat' split) <;> simp_all
  all_goals first
    | (obtain ⟨-, rfl⟩ := create_eq_some ‹create _ _ = some _›; simp_all)
    | (obtain ⟨-, rfl⟩ := delete_eq_some ‹delete _ _ = some _›; simp_all)
    | (have hk := Table.get_key _ ‹Table.get _ _ = some _›; simp_all [Table.get_insert])

theorem mem_keys_of_mem_writes {k : Key} (h : k ∈ r.writes) : k ∈ r.keys := by
  rw [writes_eq] at h
  split at h
  · cases h
  · exact h

/-- Frame: a request changes no object outside the keys it writes. -/
theorem exec_get_of_not_mem_writes {k : Key} (h : k ∉ r.writes) : (r.exec s).1.get k = s.get k := by
  rw [writes_eq] at h
  split at h
  · rw [exec_fst_of_readOnly r s ‹_›]
  · exact exec_get_of_not_mem r s h

/-- What a request does to the volumes: it erases `r.pvErase s`. -/
theorem exec_persistentVolumes :
    (r.exec s).1.persistentVolumes = erasePV s.persistentVolumes (r.pvErase s) := by
  cases r <;> simp only [exec, pvErase] <;> (repeat' split) <;> simp_all [erasePV]

@[simp] theorem Store.agree_singleton {k : Key} {s s' : Store} :
    Store.Agree [k] s s' ↔ s.get k = s'.get k := by
  simp [Store.Agree]

/-- Locality: a request that reads no volume sees only its keys (and the node-agent templates). -/
theorem exec_congr {s s' : Store} (hp : r.readsPV = false)
    (hn : s.nodeAgentPodInfo = s'.nodeAgentPodInfo) (h : Store.Agree r.keys s s') :
    (r.exec s).2 = (r.exec s').2 ∧ Store.Agree r.keys (r.exec s).1 (r.exec s').1 ∧
      r.pvErase s = r.pvErase s' := by
  cases r with
  | getVolumeSnapshotContentForVolumeSnapshot vs =>
    rcases hb : vs.status.bind (·.boundVolumeSnapshotContentName) with _ | n
    · simp [exec, keys, pvErase, hb, Store.Agree]
    · have hn : s.volumeSnapshotContents.get n = s'.volumeSnapshotContents.get n :=
        h (.vsc n) (by simp [keys, hb])
      simp [exec, keys, pvErase, hb, hn, Store.Agree]
  | getInheritedPodInfo ns os => simp [exec, keys, pvErase, hn, Store.Agree]
  | isRunningInNode ns node => simp [exec, keys, pvErase, Store.Agree]
  | waitPVCBound k | getPersistentVolume n => cases hp
  | waitVolumeSnapshotReady k | ensureDeleteVS k | deleteVolumeSnapshotIfAny k
    | getVolumeSnapshot k =>
    simp only [keys, Store.agree_singleton, Store.get_vs] at h ⊢
    rcases hk : s'.volumeSnapshots.get k with _ | x <;> simp [exec, delete, pvErase, h, hk]
  | createVolumeSnapshot vs =>
    simp only [keys, Store.agree_singleton, Store.get_vs] at h ⊢
    rcases hk : s'.volumeSnapshots.get vs.key with _ | x <;> simp [exec, create, pvErase, h, hk]
  | createVolumeSnapshotContent c =>
    simp only [keys, Store.agree_singleton, Store.get_vsc] at h ⊢
    rcases hk : s'.volumeSnapshotContents.get c.name with _ | x <;>
      simp [exec, create, pvErase, h, hk]
  | retainVSC c =>
    simp only [keys, Store.agree_singleton, Store.get_vsc] at h ⊢
    rcases hk : s'.volumeSnapshotContents.get c.name with _ | x <;>
      by_cases hd : c.deletionPolicy = .retain <;> simp [exec, pvErase, h, hk, hd, Table.get_insert]
  | ensureDeleteVSC n | getVolumeSnapshotContent n =>
    simp only [keys, Store.agree_singleton, Store.get_vsc] at h ⊢
    rcases hk : s'.volumeSnapshotContents.get n with _ | x <;> simp [exec, delete, pvErase, h, hk]
  | createPersistentVolumeClaim c =>
    simp only [keys, Store.agree_singleton, Store.get_pvc] at h ⊢
    rcases hk : s'.persistentVolumeClaims.get c.key with _ | x <;>
      simp [exec, create, pvErase, h, hk]
  | deletePVAndPVCIfAny k | getPersistentVolumeClaim k =>
    simp only [keys, Store.agree_singleton, Store.get_pvc] at h ⊢
    rcases hk : s'.persistentVolumeClaims.get k with _ | x <;> simp [exec, pvErase, h, hk]
  | createPod pod =>
    simp only [keys, Store.agree_singleton, Store.get_pod] at h ⊢
    rcases hk : s'.pods.get pod.key with _ | x <;> simp [exec, create, pvErase, h, hk]
  | deletePodIfAny k | getPod k =>
    simp only [keys, Store.agree_singleton, Store.get_pod] at h ⊢
    rcases hk : s'.pods.get k with _ | x <;> simp [exec, delete, pvErase, h, hk]

end Request

/-! ## Creates and deletes -/

/-- The object a create request stores, under its key. -/
def Request.created : Request → Option (Σ k : Key, k.Obj)
  | .createVolumeSnapshot vs => some ⟨.vs vs.key, vs⟩
  | .createVolumeSnapshotContent vsc => some ⟨.vsc vsc.name, vsc⟩
  | .createPersistentVolumeClaim pvc => some ⟨.pvc pvc.key, pvc⟩
  | .createPod pod => some ⟨.pod pod.key, pod⟩
  | _ => none

/-- The key a delete request removes. -/
def Request.deleted : Request → Option Key
  | .ensureDeleteVS k | .deleteVolumeSnapshotIfAny k => some (.vs k)
  | .ensureDeleteVSC n => some (.vsc n)
  | .deletePVAndPVCIfAny k => some (.pvc k)
  | .deletePodIfAny k => some (.pod k)
  | _ => none

/-- The key of the object a create request stores. -/
def Request.createdKey (r : Request) : Option Key := r.created.map Sigma.fst

/-- The deletes whose failure the caller only logs. -/
def Request.isDeleteIfAny : Request → Bool
  | .deleteVolumeSnapshotIfAny _ | .deletePVAndPVCIfAny _ | .deletePodIfAny _ => true
  | _ => false

/-- A create succeeds exactly on a free key, and then stores its object there. -/
theorem Request.exec_created {r : Request} {k : Key} {a : k.Obj} (h : r.created = some ⟨k, a⟩)
    (s : Store) : ((r.exec s).2.isOk = true ↔ s.get k = none) ∧
      ((r.exec s).2.isOk = true → (r.exec s).1.get k = some a) := by
  rcases hk : s.get k with _ | x <;> cases r <;> cases h <;>
    simp_all [exec, create, Except.isOk, Except.toBool]

/-- A delete succeeds exactly when its key holds an object, and leaves the key free. -/
theorem Request.exec_deleted {r : Request} {k : Key} (h : r.deleted = some k) (s : Store) :
    ((r.exec s).2.isOk = true ↔ (s.get k).isSome) ∧ (r.exec s).1.get k = none := by
  rcases hk : s.get k with _ | x <;> cases r <;> cases h <;>
    simp_all [exec, delete, Except.isOk, Except.toBool]

theorem Request.keys_of_deleted {r : Request} {k : Key} (h : r.deleted = some k) : r.keys = [k] := by
  cases r <;> cases h <;> rfl

section Deletes

variable {r : Request} {k k' : Key}

/-- A delete frees its key and keeps every free key free. -/
theorem Request.exec_get_none_of_deleted (hr : r.deleted = some k') (s : Store)
    (hk : k = k' ∨ s.get k = none) : (r.exec s).1.get k = none := by
  by_cases h : k = k'
  · subst h
    exact (exec_deleted hr s).2
  · rw [r.exec_get_of_not_mem s (by simp [keys_of_deleted hr, h])]
    exact hk.resolve_left h

/-- A delete of a free key fails and changes nothing. -/
theorem Request.exec_fst_of_free (hr : r.deleted = some k) (s : Store) (hk : s.get k = none) :
    (r.exec s).1 = s := by
  rcases h : (r.exec s).2 with e | x
  · exact exec_fst_of_error h
  · have := (exec_deleted hr s).1.mp (by simp [h, Except.isOk, Except.toBool])
    simp [hk] at this

/-- A delete of a free key changes nothing, whether or not the oracle fails it. -/
theorem World.perform_store_of_free (o : Oracle) (w : World) (hr : r.deleted = some k)
    (hk : w.store.get k = none) : (w.perform o r).store = w.store := by
  simp only [World.perform_store, World.answer]
  split
  · rfl
  · exact r.exec_fst_of_free hr _ hk

/-- Frame for a performed request: an object outside its keys stays, whatever the oracle does. -/
theorem World.perform_get_of_not_mem (o : Oracle) (w : World) (hk : k ∉ r.keys) :
    (w.perform o r).store.get k = w.store.get k := by
  simp only [World.perform_store, World.answer]
  split
  · rfl
  · exact r.exec_get_of_not_mem _ hk

end Deletes

/-- `RetainVSC c` on a store holding `c` leaves `c` there with the `Retain` policy. -/
theorem Request.exec_retainVSC_get {c : VolumeSnapshotContent} {s : Store}
    (hc : s.get (.vsc c.name) = some c) :
    ((Request.retainVSC c).exec s).1.get (.vsc c.name) = some { c with deletionPolicy := .retain } := by
  by_cases hd : c.deletionPolicy = .retain
  · cases c
    simp_all [exec]
  · simp_all [exec]

namespace Replays

variable {s s' : Store} {evs : List Event} {k : Key}

/-- Frame along a replay: an object no successful request writes stays as it was. -/
theorem get_of_not_mem (h : Replays s evs s') (hk : ∀ e ∈ evs, e.ok → k ∉ e.request.writes) :
    s'.get k = s.get k := by
  induction h with
  | nil => rfl
  | ok _ _ ih =>
    rw [ih fun e he => hk e (.tail _ he), Request.exec_get_of_not_mem_writes _ _ (hk _ (.head _) rfl)]
  | fail _ ih => exact ih fun e he => hk e (.tail _ he)

/-- Cut a replay at its `i`-th event. -/
theorem split_at (h : Replays s evs s') {i : Nat} {r : Request} (hi : evs[i]? = some ⟨r, true⟩) :
    ∃ s₁, Replays s (evs.take i) s₁ ∧ (r.exec s₁).2.isOk = true ∧
      Replays (r.exec s₁).1 (evs.drop (i + 1)) s' := by
  obtain ⟨hlt, he⟩ := List.getElem?_eq_some_iff.mp hi
  rw [← List.take_append_drop i evs, List.drop_eq_getElem_cons hlt, he] at h
  obtain ⟨s₁, h₁, h₂⟩ := h.append_inv
  exact ⟨s₁, h₁, h₂.ok_inv⟩

variable {a : k.Obj}

/-- A successful create at position `i` found its key free, if nothing before it wrote the key. -/
theorem free_of_created (h : Replays s evs s') (i : Nat) (r : Request)
    (hi : evs[i]? = some ⟨r, true⟩)
    (hr : r.created = some ⟨k, a⟩) (hpre : ∀ e ∈ evs.take i, e.ok → k ∉ e.request.writes) :
    s.get k = none := by
  obtain ⟨s₁, h₁, hok, -⟩ := h.split_at hi
  exact (h₁.get_of_not_mem hpre).symm.trans ((Request.exec_created hr s₁).1.mp hok)

/-- A successful create at position `i` leaves its object in the store, if nothing after it
writes the key. -/
theorem get_of_created (h : Replays s evs s') (i : Nat) (r : Request)
    (hi : evs[i]? = some ⟨r, true⟩)
    (hr : r.created = some ⟨k, a⟩) (hpost : ∀ e ∈ evs.drop (i + 1), e.ok → k ∉ e.request.writes) :
    s'.get k = some a := by
  obtain ⟨s₁, -, hok, h₂⟩ := h.split_at hi
  exact (h₂.get_of_not_mem hpost).trans ((Request.exec_created hr s₁).2 hok)

/-- A successful delete at position `i` leaves its key free, if nothing after it writes the key. -/
theorem get_of_deleted (h : Replays s evs s') (i : Nat) (r : Request)
    (hi : evs[i]? = some ⟨r, true⟩) (hr : r.deleted = some k)
    (hpost : ∀ e ∈ evs.drop (i + 1), e.ok → k ∉ e.request.writes) : s'.get k = none := by
  obtain ⟨s₁, -, -, h₂⟩ := h.split_at hi
  exact (h₂.get_of_not_mem hpost).trans (Request.exec_deleted hr s₁).2

/-- An object that only the successful request at position `i` writes ends as that request left
the object it found. -/
theorem get_of_write_at (h : Replays s evs s') (k : Key) (i : Nat) (r : Request)
    (hi : evs[i]? = some ⟨r, true⟩) (hpre : ∀ e ∈ evs.take i, e.ok → k ∉ e.request.writes)
    (hpost : ∀ e ∈ evs.drop (i + 1), e.ok → k ∉ e.request.writes) :
    ∃ s₁, s₁.get k = s.get k ∧ s'.get k = (r.exec s₁).1.get k := by
  obtain ⟨s₁, h₁, -, h₂⟩ := h.split_at hi
  exact ⟨s₁, h₁.get_of_not_mem hpre, h₂.get_of_not_mem hpost⟩

/-- A successful delete as the last event leaves its key free. -/
theorem get_of_deleted_last {r : Request} (h : Replays s (evs ++ [⟨r, true⟩]) s')
    (hr : r.deleted = some k) : s'.get k = none := by
  obtain ⟨s₁, -, h₂⟩ := h.append_inv
  obtain ⟨-, h₂⟩ := h₂.ok_inv
  rw [h₂.nil_inv]
  exact (Request.exec_deleted hr s₁).2

end Replays

section Comm

variable {r r' : Request}

/-- A request leaves every key it does not share with `r'` as it was. -/
theorem Store.agree_exec_of_disjoint {ks : List Key} (hd : ∀ k ∈ ks, k ∉ r'.keys) (s : Store) :
    Store.Agree ks (r'.exec s).1 s :=
  fun k hk => r'.exec_get_of_not_mem s (hd k hk)

/-- Two requests with disjoint keys, neither reading a volume, commute: each gets the same answer
in either order, and both orders end in the same store. -/
theorem Request.exec_comm (hp : r.readsPV = false) (hp' : r'.readsPV = false)
    (hd : ∀ k ∈ r.keys, k ∉ r'.keys) (s : Store) :
    (r.exec (r'.exec s).1).2 = (r.exec s).2 ∧ (r'.exec (r.exec s).1).2 = (r'.exec s).2 ∧
      (r'.exec (r.exec s).1).1 = (r.exec (r'.exec s).1).1 := by
  have hd' : ∀ k ∈ r'.keys, k ∉ r.keys := fun k hk hk' => hd k hk' hk
  obtain ⟨ha, hra, hpa⟩ := r.exec_congr hp (by simp) (Store.agree_exec_of_disjoint hd s)
  obtain ⟨hb, hrb, hpb⟩ := r'.exec_congr hp' (by simp) (Store.agree_exec_of_disjoint hd' s)
  refine ⟨ha, hb, Store.ext_get (fun k => ?_) ?_ (by simp)⟩
  · by_cases hk : k ∈ r.keys
    · rw [r'.exec_get_of_not_mem _ (hd k hk), hra k hk]
    · rw [r.exec_get_of_not_mem _ hk]
      by_cases hk' : k ∈ r'.keys
      · rw [hrb k hk']
      · rw [r'.exec_get_of_not_mem _ hk', r'.exec_get_of_not_mem _ hk', r.exec_get_of_not_mem _ hk]
  · rw [r'.exec_persistentVolumes, r.exec_persistentVolumes, r.exec_persistentVolumes,
      r'.exec_persistentVolumes, hpa, hpb, erasePV_comm]

end Comm

/-! ## Programs that only read -/

section Reads

variable (o : Oracle) (w : World) {r : Request}

theorem World.perform_store_of_readOnly (hr : r.readOnly = true) : (w.perform o r).store = w.store := by
  rw [World.perform_store, World.answer]
  split
  · rfl
  · exact Request.exec_fst_of_readOnly r w.store hr

end Reads

/-- Every request the program may issue only reads, whatever the answers. -/
inductive Prog.OnlyReads {α : Type} : Prog α → Prop
  | pure (a : α) : Prog.OnlyReads (.pure a)
  | call {r : Request} {k : Except StatusError r.Reply → Prog α} :
    r.readOnly = true → (∀ x, Prog.OnlyReads (k x)) → Prog.OnlyReads (.call r k)

namespace Prog.OnlyReads

variable {α β : Type}

theorem bind {p : Prog α} {f : α → Prog β} (hp : p.OnlyReads) (hf : ∀ a, (f a).OnlyReads) :
    (p >>= f).OnlyReads := by
  induction hp with
  | pure a => exact hf a
  | call hr _ ih => exact .call hr ih

/-- A program that only reads leaves the store as it was, whatever fails. -/
theorem run_store {p : Prog α} (h : p.OnlyReads) (o : Oracle) (w : World) :
    (p.run o w).2.store = w.store := by
  induction h generalizing w with
  | pure a => rfl
  | call hr _ ih => rw [Prog.run_call, ih, w.perform_store_of_readOnly o hr]

end Prog.OnlyReads

end Velero.Kube

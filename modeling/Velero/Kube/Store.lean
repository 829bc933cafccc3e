import Velero.Kube.Object

/-!
# Velero.Kube.Store — the object store behind the exposer's clients

`Table κ α key`: the objects of one kind, each stored under its own key (`Get` of key `k` returns
an object whose name and namespace are `k`); the invariant is a field, so no store holds an object
under a foreign key.  `Store`: one table per kind the exposer touches, and the node-agent pod
templates that `getInheritedPodInfo` reads (which nothing here writes).
-/

namespace Velero.Kube

/-- The objects of one kind, each stored under its own key. -/
structure Table (κ α : Type) [DecidableEq κ] (key : α → κ) where
  get : κ → Option α
  get_key : ∀ {k a}, get k = some a → key a = k

namespace Table

variable {κ α : Type} [DecidableEq κ] {key : α → κ}

@[ext] theorem ext {t u : Table κ α key} (h : ∀ k, t.get k = u.get k) : t = u := by
  cases t; cases u; congr; funext k; exact h k

/-- The table with no object. -/
def empty : Table κ α key := ⟨fun _ => none, fun h => nomatch h⟩

/-- Store `a` under its own key, replacing what was there. -/
def insert (t : Table κ α key) (a : α) : Table κ α key where
  get := Function.update t.get (key a) (some a)
  get_key {k b} h := by
    by_cases hk : k = key a
    · subst hk
      rw [Function.update_same, Option.some.injEq] at h
      rw [← h]
    · rw [Function.update_noteq hk] at h
      exact t.get_key h

/-- Remove the object stored under `k`, if any. -/
def erase (t : Table κ α key) (k : κ) : Table κ α key where
  get := Function.update t.get k none
  get_key {k' b} h := by
    by_cases hk : k' = k
    · subst hk
      simp at h
    · rw [Function.update_noteq hk] at h
      exact t.get_key h

@[simp] theorem get_empty (k : κ) : (empty : Table κ α key).get k = none := rfl

theorem get_insert (t : Table κ α key) (a : α) (k : κ) :
    (t.insert a).get k = if k = key a then some a else t.get k := by
  simp only [insert, Function.update_apply]

@[simp] theorem get_insert_self (t : Table κ α key) (a : α) : (t.insert a).get (key a) = some a :=
  Function.update_same _ _ _

@[simp] theorem get_insert_of_ne (t : Table κ α key) {a : α} {k : κ} (h : k ≠ key a) :
    (t.insert a).get k = t.get k :=
  Function.update_noteq h _ _

theorem get_erase (t : Table κ α key) (k k' : κ) :
    (t.erase k).get k' = if k' = k then none else t.get k' := by
  simp only [erase, Function.update_apply]

@[simp] theorem get_erase_self (t : Table κ α key) (k : κ) : (t.erase k).get k = none :=
  Function.update_same _ _ _

@[simp] theorem get_erase_of_ne (t : Table κ α key) {k k' : κ} (h : k' ≠ k) :
    (t.erase k).get k' = t.get k' :=
  Function.update_noteq h _ _

/-- Erasing an absent key changes nothing. -/
theorem erase_of_get_eq_none {t : Table κ α key} {k : κ} (h : t.get k = none) : t.erase k = t := by
  ext k'
  by_cases hk : k' = k
  · subst hk; simp [h]
  · simp [hk]

theorem erase_comm (t : Table κ α key) (k k' : κ) : (t.erase k).erase k' = (t.erase k').erase k := by
  ext k''
  simp only [get_erase]
  split_ifs <;> rfl

end Table

/-- The cluster as the exposer sees it: one table per kind, and the node-agent pod templates by
namespace and node OS. -/
structure Store where
  volumeSnapshots : Table NamespacedName VolumeSnapshot VolumeSnapshot.key
  volumeSnapshotContents : Table String VolumeSnapshotContent VolumeSnapshotContent.name
  persistentVolumeClaims : Table NamespacedName PersistentVolumeClaim PersistentVolumeClaim.key
  persistentVolumes : Table String PersistentVolume PersistentVolume.name
  pods : Table NamespacedName Pod Pod.key
  nodeAgentPodInfo : String → String → Option InheritedPodInfo

end Velero.Kube

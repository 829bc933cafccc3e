import Velero.Labels.Selector
import Velero.Kube.Client

/-!
# Velero.Ark.DeleteBackupRequest — delete requests for a backup, and listing them

* `newDeleteBackupRequest`, `newDeleteBackupRequestListOptions` (`pkg/backup`): a delete request
  labelled with the name of its backup, and the list options whose selector finds the delete
  requests of a backup.
* `fakeList` (`FakeDeleteBackupRequests.List`): the stored requests the selector matches, in
  store order; the fake panics on a selector `labels.Parse` rejects.
* For a Backup name of at most 63 characters the two functions agree: the label is a valid label
  value and the selector finds exactly the requests of that backup.  A longer name, which the API
  server admits for a Backup, is not a valid label value, and its selector does not parse.
-/

namespace Velero.Ark

open Velero.Kube Velero.Labels

/-- `v1.BackupNameLabel`. -/
def backupNameLabel : String := "ark.heptio.com/backup-name"

/-- `v1.DeleteBackupRequest`: `generateName` is `ObjectMeta.GenerateName`, `labels` is
`ObjectMeta.Labels`, `backupName` is `Spec.BackupName`. -/
structure DeleteBackupRequest where
  generateName : String
  labels : StrMap
  backupName : String
deriving DecidableEq, Repr

/-- `NewDeleteBackupRequest`. -/
def newDeleteBackupRequest (name : String) : DeleteBackupRequest :=
  { generateName := name ++ "-"
    labels := [(backupNameLabel, name)]
    backupName := name }

/-- `metav1.ListOptions`; only `LabelSelector` is set. -/
structure ListOptions where
  labelSelector : String
deriving DecidableEq, Repr

/-- `NewDeleteBackupRequestListOptions`: `fmt.Sprintf("%s=%s", v1.BackupNameLabel, name)`. -/
def newDeleteBackupRequestListOptions (name : String) : ListOptions :=
  ⟨backupNameLabel ++ "=" ++ name⟩

/-- `FakeDeleteBackupRequests.List`.  `testing.NewListAction` parses the label selector before the
fake's reactors run, and panics when `labels.Parse` rejects it; `invokes` is what the reactors
return for the action: the requests of the namespace in the tracker, in order, or an error. -/
def fakeList (invokes : Except String (List DeleteBackupRequest)) (opts : ListOptions) :
    GoResult (List DeleteBackupRequest) :=
  match parse opts.labelSelector with
  | .error _ => .panic ("invalid selector " ++ opts.labelSelector)
  | .ok label =>
    match invokes with
    | .error err => .error err
    | .ok items => .ok (items.filter fun item => label.matches item.labels)

/-! ## The label and the selector -/

@[simp] theorem newDeleteBackupRequest_label (name : String) :
    (newDeleteBackupRequest name).labels.get? backupNameLabel = some name := by
  simp [newDeleteBackupRequest, StrMap.get?, List.lookup_cons_self]

theorem backupNameLabel_isQualifiedName : isQualifiedName backupNameLabel := by decide

theorem backupNameLabel_isPlain : ∀ c ∈ backupNameLabel.toList, isPlain c := by decide

section Name

variable {n : String} (hn : isDNS1123Subdomain n)

include hn

/-- The selector of the list options for a Backup name: the one requirement `label = name` when
the name has at most 63 characters; otherwise `labels.Parse` rejects the name as a label value. -/
theorem parse_listOptions :
    parse (newDeleteBackupRequestListOptions n).labelSelector =
      if n.length ≤ 63 then .ok [⟨backupNameLabel, .equals, [n]⟩]
      else .error (.invalidValue backupNameLabel n) := by
  rw [newDeleteBackupRequestListOptions, parse_equals backupNameLabel_isQualifiedName
    backupNameLabel_isPlain (fun c hc => isPlain_of_isLabelChar
      (isLabelChar_of_isDNS1123Subdomain hn c hc)) (ne_empty_of_isDNS1123Subdomain hn)]
  simp only [isValidLabelValue_iff_of_isDNS1123Subdomain hn]

/-- For a name of at most 63 characters, the fake lists the stored requests labelled with it, in
store order. -/
theorem fakeList_listOptions (h : n.length ≤ 63) (stored : List DeleteBackupRequest) :
    fakeList (.ok stored) (newDeleteBackupRequestListOptions n) =
      .ok (stored.filter fun r => r.labels.get? backupNameLabel = some n) := by
  simp only [fakeList, parse_listOptions hn, h, if_true, GoResult.ok.injEq]
  exact List.filter_congr fun r _ =>
    Bool.eq_iff_iff.mpr (by rw [matches_equals, decide_eq_true_eq])

/-- For a longer name the label value is invalid, the selector does not parse, and the fake's
`List` panics whatever its reactors return. -/
theorem deleteBackupRequest_long_name (h : 63 < n.length) :
    isValidLabelValue n = false ∧
      parse (newDeleteBackupRequestListOptions n).labelSelector =
        .error (.invalidValue backupNameLabel n) ∧
      ∀ invokes, fakeList invokes (newDeleteBackupRequestListOptions n) =
        .panic ("invalid selector " ++ (newDeleteBackupRequestListOptions n).labelSelector) := by
  have hp := parse_listOptions hn
  rw [if_neg (by omega)] at hp
  refine ⟨?_, hp, fun invokes => by simp only [fakeList, hp]⟩
  exact Bool.eq_false_iff.mpr fun hv =>
    absurd ((isValidLabelValue_iff_of_isDNS1123Subdomain hn).mp hv) (by omega)

end Name

/-! ## Agreement, and where it breaks -/

/-- Delete-request label/selector agreement for the Backup names of at most 63 characters: the
label of a new delete request is a valid label value; the selector of the list options parses,
and matches the labels of the delete request for `m` exactly when `m` is the name; the fake lists
exactly the stored requests labelled with the name, in store order. -/
theorem deleteBackupRequest_selector_agreement (n : String) (hn : isDNS1123Subdomain n)
    (h : n.length ≤ 63) :
    (newDeleteBackupRequest n).labels.get? backupNameLabel = some n ∧ isValidLabelValue n ∧
      (∃ sel, parse (newDeleteBackupRequestListOptions n).labelSelector = .ok sel ∧
        ∀ m, sel.matches (newDeleteBackupRequest m).labels ↔ m = n) ∧
      ∀ stored, fakeList (.ok stored) (newDeleteBackupRequestListOptions n) =
        .ok (stored.filter fun r => r.labels.get? backupNameLabel = some n) := by
  refine ⟨newDeleteBackupRequest_label n, (isValidLabelValue_iff_of_isDNS1123Subdomain hn).mpr h,
    ⟨_, by rw [parse_listOptions hn, if_pos h], fun m => ?_⟩, fakeList_listOptions hn h⟩
  rw [matches_equals, newDeleteBackupRequest_label, Option.some.injEq]

theorem deleteBackupRequest_selector_agreement_nightly :
    isDNS1123Subdomain "nightly-1" ∧ "nightly-1".length ≤ 63 ∧
      fakeList (.ok [newDeleteBackupRequest "nightly-1", newDeleteBackupRequest "weekly"])
          (newDeleteBackupRequestListOptions "nightly-1") =
        .ok ([newDeleteBackupRequest "nightly-1", newDeleteBackupRequest "weekly"].filter
          fun r => r.labels.get? backupNameLabel = some "nightly-1") :=
  ⟨by decide, by decide,
    (deleteBackupRequest_selector_agreement "nightly-1" (by decide) (by decide)).2.2.2 _⟩

/-- A Backup name of 64 characters. -/
def longBackupName : String := String.mk (List.replicate 64 'a')

/-- The API server admits `longBackupName` for a Backup, but the delete request for it carries
the name as a label value longer than 63 characters, the selector of its list options does not
parse, and the fake's `List` panics. -/
theorem long_backup_name_breaks_delete_requests :
    isDNS1123Subdomain longBackupName ∧
      (newDeleteBackupRequest longBackupName).labels.get? backupNameLabel = some longBackupName ∧
      isValidLabelValue longBackupName = false ∧
      parse (newDeleteBackupRequestListOptions longBackupName).labelSelector =
        .error (.invalidValue backupNameLabel longBackupName) ∧
      ∀ invokes, ∃ msg,
        fakeList invokes (newDeleteBackupRequestListOptions longBackupName) = .panic msg :=
  have hn : isDNS1123Subdomain longBackupName := by decide
  have ⟨hv, hp, hl⟩ := deleteBackupRequest_long_name hn (by decide)
  ⟨hn, newDeleteBackupRequest_label _, hv, hp, fun invokes => ⟨_, hl invokes⟩⟩

end Velero.Ark

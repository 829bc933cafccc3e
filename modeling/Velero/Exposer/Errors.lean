import Velero.Exposer.GetExposed

/-!
# Velero.Exposer.Errors — `Expose` returns its first failure

`Expose` stops at its first failed step and returns that step's error, wrapped with the message of
its call site; the deferred deletes that run after it only log their errors.

* `failureContext r`: the messages `Expose` wraps around the error of the request `r`: those of its
  own `errors.Wrap` calls, around those of `createBackupPVC` and `createBackupPod` for their
  requests.
* `ReportsFirstFailure`: an error reports the first failed request of a trace, after successful
  requests only and followed by compensating deletes only, with the error that request got (the
  oracle's, when the oracle failed it); or, when no request but the compensating deletes failed,
  it is the unsupported access mode.
* `Reports prog`: every error `prog` returns, under every oracle and from every world, reports its
  first failure.  One rule per Go construct `Expose` is made of (`goCall` of a helper,
  `deferIfErr`, the create helpers), and from them `expose_reports_first_failure`.
-/

namespace Velero.Exposer

open Velero.Kube

/-- The context `Expose` gives the error of each request it may fail on: the message of its own
`errors.Wrap`, around that of `createBackupPVC` or `createBackupPod` for their requests. -/
def failureContext : Request → String → String
  | .waitVolumeSnapshotReady _, e => wrap "error wait volume snapshot ready" e
  | .getVolumeSnapshotContentForVolumeSnapshot _, e => wrap "error to get volume snapshot content" e
  | .createVolumeSnapshot _, e => wrap "error to create backup volume snapshot" e
  | .createVolumeSnapshotContent _, e => wrap "error to create backup volume snapshot content" e
  | .retainVSC _, e => wrap "error to retain volume snapshot content" e
  | .ensureDeleteVS _, e => wrap "error to delete volume snapshot" e
  | .ensureDeleteVSC _, e => wrap "error to delete volume snapshot content" e
  | .createPersistentVolumeClaim _, e =>
    wrap "error to create backup pvc" (wrap "error to create pvc" e)
  | .getInheritedPodInfo _ _, e =>
    wrap "error to create backup pod" (wrap "error to get inherited pod info from node-agent" e)
  | .createPod _, e => wrap "error to create backup pod" e
  | _, e => e

/-- The error `e` after the events `evs` from `w` reports the first failure: the first failed
request `r`, after successful requests only and followed by compensating deletes only, got the
error `err` (the oracle's, when the oracle failed it), and `e` is `err` in the context of `r`; or
no request but the compensating deletes failed, and `e` is the unsupported access mode of `p`. -/
def ReportsFirstFailure (p : CSISnapshotExposeParam) (o : Oracle) (w : World) (evs : List Event)
    (e : String) : Prop :=
  (∃ pre r suf, ∃ err : StatusError, evs = pre ++ ⟨r, false⟩ :: suf ∧ (∀ ev ∈ pre, ev.ok = true) ∧
      (∀ ev ∈ suf, ev.request.isDeleteIfAny = true) ∧
      (∀ err' ∈ o (w.trace.length + pre.length), err' = err) ∧
      e = failureContext r err.toString) ∨
    (∀ ev ∈ evs, ev.ok = true ∨ ev.request.isDeleteIfAny = true) ∧
      e = wrap "error to create backup pvc" ("unsupported access mode " ++ p.accessMode)

/-- Every error `prog` returns, under every oracle and from every world, reports its first
failure. -/
def Reports (p : CSISnapshotExposeParam) (prog : Prog Exit) : Prop :=
  ∀ o w e, (prog.run o w).1.ret = .error e → ReportsFirstFailure p o w (prog.events o w) e

/-! ## First failures -/

section FirstFailure

variable {p : CSISnapshotExposeParam} {o : Oracle} {w : World} {evs : List Event} {e : String}

/-- A request that failed, with nothing after it, is the first failure. -/
theorem reportsFirstFailure_single {r : Request} {err : StatusError}
    (h : (w.answer o r).2 = .error err) :
    ReportsFirstFailure p o w [⟨r, false⟩] (failureContext r err.toString) := by
  refine .inl ⟨[], r, [], err, rfl, List.forall_mem_nil _, List.forall_mem_nil _,
    fun err' h' => ?_, rfl⟩
  rw [List.length_nil, Nat.add_zero, Option.mem_def] at h'
  simpa [World.answer, h'] using h

/-- A successful request before a trace keeps its first failure. -/
theorem ReportsFirstFailure.cons_ok {r : Request} (h : ReportsFirstFailure p o (w.perform o r) evs e) :
    ReportsFirstFailure p o w (⟨r, true⟩ :: evs) e := by
  rcases h with ⟨pre, r', suf, err, rfl, hpre, hsuf, ho, he⟩ | ⟨hall, he⟩
  · have hpos : (w.perform o r).trace.length + pre.length =
        w.trace.length + (⟨r, true⟩ :: pre : List Event).length := by
      simp only [World.perform_trace, List.length_append, List.length_cons, List.length_nil]
      omega
    refine .inl ⟨⟨r, true⟩ :: pre, r', suf, err, rfl, ?_, hsuf, hpos ▸ ho, he⟩
    simpa using hpre
  · exact .inr ⟨by simpa using hall, he⟩

/-- Compensating deletes after a trace keep its first failure. -/
theorem ReportsFirstFailure.append_deletes {evs' : List Event}
    (h : ReportsFirstFailure p o w evs e) (hd : ∀ ev ∈ evs', ev.request.isDeleteIfAny = true) :
    ReportsFirstFailure p o w (evs ++ evs') e := by
  rcases h with ⟨pre, r, suf, err, rfl, hpre, hsuf, ho, he⟩ | ⟨hall, he⟩
  · refine .inl ⟨pre, r, suf ++ evs', err, by simp, hpre, ?_, ho, he⟩
    simp only [List.mem_append]
    rintro ev (h | h)
    exacts [hsuf ev h, hd ev h]
  · refine .inr ⟨?_, he⟩
    simp only [List.mem_append]
    rintro ev (h | h)
    exacts [hall ev h, .inr (hd ev h)]

end FirstFailure

/-! ## One rule per construct -/

section Rules

variable {p : CSISnapshotExposeParam}

theorem reports_pure {x : Exit} (hx : ∀ e, x.ret ≠ .error e) : Reports p (.pure x) :=
  fun _ _ e h => absurd h (hx e)

/-- `x, err := f(...); if err != nil { return errors.Wrap(err, msg) }` for a helper issuing the
one request `r`, whose failure `Expose` reports in the context `msg`. -/
theorem reports_goCall_callGo {r : Request} {msg : String} {k : r.Reply → Prog Exit}
    (hctx : ∀ s, failureContext r s = wrap msg s) (hk : ∀ x, Reports p (k x)) :
    Reports p (goCall (callGo r) msg k) := by
  intro o w e h
  rw [run_goCall] at h
  rw [events_goCall]
  simp only [callGo, Prog.run_call, Prog.run_pure, Prog.events_call, Prog.events_pure] at h ⊢
  rcases ha : (w.answer o r).2 with err | x <;>
    simp only [ha, GoResult.ofExcept_error, GoResult.ofExcept_ok, Except.isOk, Except.toBool]
      at h ⊢
  · -- the request failed: its error, in the context of the call
    cases h
    rw [← hctx]
    exact reportsFirstFailure_single ha
  · exact (hk x o _ e h).cons_ok

/-- `defer func() { if err != nil { c } }()` where `c` issues one delete whose errors are logged. -/
theorem reports_deferIfErr {c : Prog Unit} {r : Request} {body : Prog Exit}
    (hc : ∀ o w, c.run o w = ((), w.perform o r)) (hr : r.isDeleteIfAny = true)
    (hb : Reports p body) : Reports p (deferIfErr c body) := by
  intro o w e h
  rw [run_deferIfErr] at h
  have hb' := hb o w e (by split at h <;> exact h)
  rw [events_deferIfErr]
  split
  · exact hb'.append_deletes (by simp [Prog.events, hc, hr])
  · simpa using hb'

/-- `createBackupVSC` panics on a content without status, or issues the create. -/
theorem reports_goCall_createBackupVSC {owner : ObjectReference} {c : VolumeSnapshotContent}
    {v : VolumeSnapshot} {k : VolumeSnapshotContent → Prog Exit} (hk : ∀ x, Reports p (k x)) :
    Reports p (goCall (createBackupVSC owner c v) "error to create backup volume snapshot content"
      k) := by
  unfold createBackupVSC
  split
  · exact reports_pure nofun
  · exact reports_goCall_callGo (fun _ => rfl) hk

/-- The one error of `getVolumeModeByAccessMode`. -/
theorem getVolumeModeByAccessMode_error {accessMode e : String}
    (h : getVolumeModeByAccessMode accessMode = .error e) :
    e = "unsupported access mode " ++ accessMode := by
  unfold getVolumeModeByAccessMode at h
  split_ifs at h
  exact (Except.error.inj h).symm

/-- `createBackupPVC` fails on an unsupported access mode before any request, or issues the
create and wraps its error. -/
theorem reports_goCall_createBackupPVC {owner : ObjectReference} {b sc : String} {size : Nat}
    {ro : Bool} {k : PersistentVolumeClaim → Prog Exit} (hk : ∀ x, Reports p (k x)) :
    Reports p (goCall (createBackupPVC owner b sc p.accessMode size ro) "error to create backup pvc"
      k) := by
  intro o w e h
  rw [run_goCall] at h
  rw [events_goCall]
  unfold createBackupPVC at h ⊢
  rcases hm : getVolumeModeByAccessMode p.accessMode with e' | mode
  · -- the access mode: no request, and the error of `getVolumeModeByAccessMode`
    simp only [hm, Prog.run_pure, Prog.events_pure, List.nil_append] at h ⊢
    cases h
    exact .inr ⟨List.forall_mem_nil _, by rw [getVolumeModeByAccessMode_error hm]⟩
  · simp only [hm, Prog.run_call, Prog.events_call] at h ⊢
    rcases ha : (w.answer o (.createPersistentVolumeClaim
        (backupPVC owner b sc mode size ro))).2 with err | x <;>
      simp only [ha, Prog.run_pure, Prog.events_pure, Except.isOk, Except.toBool] at h ⊢
    · cases h
      exact reportsFirstFailure_single ha
    · exact (hk x o _ e h).cons_ok

/-- `createBackupPod` gets the node-agent templates, then creates the pod; either failure is
wrapped. -/
theorem reports_goCall_createBackupPod {owner : ObjectReference} {pvc : PersistentVolumeClaim}
    {t : Nat} {l a : StrMap} {af : Option String} {res : String} {ro nr : Bool} {os : String}
    {k : Pod → Prog Exit} (hk : ∀ x, Reports p (k x)) :
    Reports p (goCall (createBackupPod owner pvc t l a af res ro nr os) "error to create backup pod"
      k) := by
  intro o w e h
  rw [run_goCall] at h
  rw [events_goCall]
  simp only [createBackupPod, getInheritedPodInfo, callGo, Prog.run_bind, Prog.events_bind,
    Prog.run_call, Prog.events_call, Prog.run_pure, Prog.events_pure] at h ⊢
  rcases ha : (w.answer o (.getInheritedPodInfo owner.ns os)).2 with err | info <;>
    simp only [ha, GoResult.ofExcept_error, GoResult.ofExcept_ok, Except.isOk, Except.toBool,
      Prog.run_call, Prog.events_call, Prog.run_pure, Prog.events_pure, List.append_eq,
      List.nil_append, List.append_nil, List.cons_append] at h ⊢
  · cases h
    exact reportsFirstFailure_single ha
  · rcases hb : ((w.perform o _).answer o
        (.createPod (backupPod owner pvc t l a af res ro nr os info))).2 with err | pod <;>
      simp only [hb, GoResult.ofExcept_error, GoResult.ofExcept_ok, Except.isOk,
        Except.toBool] at h ⊢
    · cases h
      exact (reportsFirstFailure_single hb).cons_ok
    · exact (hk pod o _ e h).cons_ok.cons_ok

end Rules

/-! ## `Expose` -/

section Expose

variable (owner : ObjectReference) (p : CSISnapshotExposeParam)

theorem exposePod_reports (pvc : PersistentVolumeClaim) (ro nr : Bool) :
    Reports p (exposePod owner p pvc ro nr) :=
  reports_goCall_createBackupPod fun _ =>
    reports_deferIfErr (fun o w => run_deletePodIfAny o w _ _) rfl (reports_pure nofun)

theorem exposeContent_reports (v : VolumeSnapshot) (c : VolumeSnapshotContent)
    (b : VolumeSnapshot) : Reports p (exposeContent owner p v c b) := by
  refine reports_goCall_createBackupVSC fun _ => reports_goCall_callGo (fun _ => rfl) fun _ =>
    reports_goCall_callGo (fun _ => rfl) fun _ => reports_goCall_callGo (fun _ => rfl) fun _ => ?_
  split
  · exact reports_pure nofun
  · exact reports_goCall_createBackupPVC fun _ =>
      reports_deferIfErr (fun o w => run_deletePVAndPVCIfAny o w _ _) rfl (exposePod_reports _ _ _ _ _)

theorem expose_reports : Reports p (expose owner p) :=
  reports_goCall_callGo (fun _ => rfl) fun _ => reports_goCall_callGo (fun _ => rfl) fun _ =>
    reports_goCall_callGo (fun _ => rfl) fun _ =>
      reports_deferIfErr (fun o w => run_deleteVolumeSnapshotIfAny o w _ _) rfl
        (exposeContent_reports _ _ _ _ _)

end Expose

end Velero.Exposer

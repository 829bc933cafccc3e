import Velero.Kube.Client

/-!
# Velero.Kube.Run — what any run does to the store

* A failed request has no effect (`Request.exec_fst_of_error`); no request touches the node-agent
  templates (`Request.exec_nodeAgentPodInfo`).
* `Replays s evs s'`: replaying the events `evs` from `s` gives `s'` — a successful request had the
  effect the cluster gives it, a failed one none.
* `Prog.run_replays`: every run of every program ends in the store its new events replay to, so
  facts about the final store follow from the trace alone.
-/

namespace Velero.Kube

/-! ## Requests -/

theorem create_eq_some {κ α : Type} [DecidableEq κ] {key : α → κ} {t t' : Table κ α key} {a : α}
    (h : create t a = some t') : t.get (key a) = none ∧ t' = t.insert a := by
  unfold create at h
  split at h
  · cases h
  · exact ⟨‹_›, (Option.some.inj h).symm⟩

theorem delete_eq_some {κ α : Type} [DecidableEq κ] {key : α → κ} {t t' : Table κ α key} {k : κ}
    (h : delete t k = some t') : (t.get k).isSome ∧ t' = t.erase k := by
  unfold delete at h
  split at h
  · exact ⟨by simp [*], (Option.some.inj h).symm⟩
  · cases h

/-- A failed request leaves the store as it was. -/
theorem Request.exec_fst_of_error {r : Request} {s : Store} {e : StatusError}
    (h : (r.exec s).2 = .error e) : (r.exec s).1 = s := by
  cases r <;> simp only [Request.exec] at h ⊢ <;> (repeat' split) <;> simp_all

/-- No request writes the node-agent templates. -/
@[simp] theorem Request.exec_nodeAgentPodInfo (r : Request) (s : Store) :
    (r.exec s).1.nodeAgentPodInfo = s.nodeAgentPodInfo := by
  cases r <;> simp only [Request.exec] <;> repeat' split
  all_goals rfl

/-! ## Worlds -/

@[simp] theorem World.perform_trace (o : Oracle) (w : World) (r : Request) :
    (w.perform o r).trace = w.trace ++ [⟨r, (w.answer o r).2.isOk⟩] := rfl

@[simp] theorem World.perform_store (o : Oracle) (w : World) (r : Request) :
    (w.perform o r).store = (w.answer o r).1 := rfl

/-- An answer is a failure with no effect, or the cluster's own successful answer. -/
theorem World.answer_cases (o : Oracle) (w : World) (r : Request) :
    (∃ e, (w.answer o r).2 = .error e ∧ (w.answer o r).1 = w.store) ∨
    (∃ x, (w.answer o r).2 = .ok x ∧ o w.trace.length = none ∧ w.answer o r = r.exec w.store) := by
  unfold World.answer
  split
  · exact .inl ⟨_, rfl, rfl⟩
  · rcases h : (r.exec w.store).2 with e | x
    · exact .inl ⟨e, rfl, Request.exec_fst_of_error h⟩
    · exact .inr ⟨x, rfl, ‹_›, rfl⟩

/-- A request the cluster refuses is refused whatever the oracle does. -/
theorem World.answer_error_of_exec {o : Oracle} {w : World} {r : Request}
    (h : ∀ x, (r.exec w.store).2 ≠ .ok x) : ∃ e, (w.answer o r).2 = .error e := by
  rcases w.answer_cases o r with ⟨e, he, -⟩ | ⟨x, hx, -, hex⟩
  · exact ⟨e, he⟩
  · rw [hex] at hx
    exact absurd hx (h x)

/-! ## Replaying a trace -/

/-- The store reached from `s` by the events `evs`. -/
inductive Replays : Store → List Event → Store → Prop
  | nil (s : Store) : Replays s [] s
  | ok {s s' : Store} {r : Request} {evs : List Event} :
      (r.exec s).2.isOk = true → Replays (r.exec s).1 evs s' → Replays s (⟨r, true⟩ :: evs) s'
  | fail {s s' : Store} {r : Request} {evs : List Event} :
      Replays s evs s' → Replays s (⟨r, false⟩ :: evs) s'

namespace Replays

theorem append {s s' s'' : Store} {evs evs' : List Event} (h : Replays s evs s')
    (h' : Replays s' evs' s'') : Replays s (evs ++ evs') s'' := by
  induction h with
  | nil => exact h'
  | ok hr _ ih => exact .ok hr (ih h')
  | fail _ ih => exact .fail (ih h')

theorem append_inv {s s'' : Store} {evs evs' : List Event} (h : Replays s (evs ++ evs') s'') :
    ∃ s', Replays s evs s' ∧ Replays s' evs' s'' := by
  induction evs generalizing s with
  | nil => exact ⟨s, .nil s, h⟩
  | cons e evs ih =>
    rcases h with _ | ⟨hr, h⟩ | h
    · obtain ⟨s', h1, h2⟩ := ih h
      exact ⟨s', .ok hr h1, h2⟩
    · obtain ⟨s', h1, h2⟩ := ih h
      exact ⟨s', .fail h1, h2⟩

theorem ok_inv {s s' : Store} {r : Request} {evs : List Event} (h : Replays s (⟨r, true⟩ :: evs) s') :
    (r.exec s).2.isOk = true ∧ Replays (r.exec s).1 evs s' := by
  cases h with
  | ok hr h => exact ⟨hr, h⟩

theorem fail_inv {s s' : Store} {r : Request} {evs : List Event} (h : Replays s (⟨r, false⟩ :: evs) s') :
    Replays s evs s' := by
  cases h with
  | fail h => exact h

theorem nil_inv {s s' : Store} (h : Replays s [] s') : s' = s := by
  cases h; rfl

end Replays

/-- The events a run adds to the trace replay from its first store to its last. -/
theorem Prog.run_replays {α : Type} (o : Oracle) (p : Prog α) (w : World) :
    ∃ evs, (p.run o w).2.trace = w.trace ++ evs ∧ Replays w.store evs (p.run o w).2.store := by
  induction p generalizing w with
  | pure a => exact ⟨[], by simp, .nil _⟩
  | call r k ih =>
    rw [Prog.run_call]
    obtain ⟨evs, htr, hre⟩ := ih (w.answer o r).2 (w.perform o r)
    refine ⟨⟨r, (w.answer o r).2.isOk⟩ :: evs, by simp [htr], ?_⟩
    rw [World.perform_store] at hre
    generalize (Prog.run o _ _).2.store = s' at hre ⊢
    rcases w.answer_cases o r with ⟨e, he, hs⟩ | ⟨x, hx, -, hex⟩
    · rw [he]
      rw [hs] at hre
      exact .fail hre
    · rw [hx]
      rw [hex] at hre
      exact .ok (by rw [← hex, hx]; rfl) hre

/-- The events a run adds: its trace past the first world's. -/
def Prog.events {α : Type} (o : Oracle) (p : Prog α) (w : World) : List Event :=
  (p.run o w).2.trace.drop w.trace.length

theorem Prog.run_trace {α : Type} (o : Oracle) (p : Prog α) (w : World) :
    (p.run o w).2.trace = w.trace ++ p.events o w := by
  obtain ⟨evs, h, -⟩ := p.run_replays o w
  simp [Prog.events, h]

namespace Prog

variable {α β : Type} (o : Oracle)

@[simp] theorem events_pure (a : α) (w : World) : (Prog.pure a).events o w = [] :=
  List.drop_length w.trace

@[simp] theorem events_call (r : Request) (k : Except StatusError r.Reply → Prog α) (w : World) :
    (Prog.call r k).events o w =
      ⟨r, (w.answer o r).2.isOk⟩ :: (k (w.answer o r).2).events o (w.perform o r) := by
  rw [events, run_call, run_trace o (k _) (w.perform o r), World.perform_trace]
  simp

theorem events_bind (p : Prog α) (f : α → Prog β) (w : World) :
    (p >>= f).events o w = p.events o w ++ (f (p.run o w).1).events o (p.run o w).2 := by
  rw [events, run_bind, run_trace o (f _), run_trace o p]
  simp

end Prog

theorem Prog.replays_events {α : Type} (o : Oracle) (p : Prog α) (w : World) :
    Replays w.store (p.events o w) (p.run o w).2.store := by
  obtain ⟨evs, h, hr⟩ := p.run_replays o w
  simpa [Prog.events, h] using hr

end Velero.Kube

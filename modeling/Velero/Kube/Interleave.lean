import Velero.Kube.Footprint

/-!
# Velero.Kube.Interleave — two programs on one store, in every interleaving

* `Stays F evs`: the requests of a trace read no volume and name only keys of `F`.
* `Prog.run_after`: a request of another program, outside the keys of a run, commutes with the
  whole run: the run gets the same answers, and the request the same answer before and after it.
* `interleave`: two programs issue their requests against one store in the order a schedule
  gives.  Each has its own oracle and trace, so whether a request fails does not depend on the
  schedule.  `runBoth` runs the first program to its end before the second starts.
* `interleave_eq_runBoth`: when the two programs keep to disjoint keys, every schedule ends with
  the values, traces and store of the sequential run.
* `Transparent p`: beside `p`, in every schedule, the other program ends as it would alone;
  `Prog.OnlyReads.transparent`: a program that only reads is transparent.
* `Replays.get_of_stays`, `Replays.persistentVolumes_get`: along a replay an object outside the
  keys of the trace stays, and a volume stays or is erased by a successful delete of a claim.
-/

namespace Velero.Kube

/-! ## Footprints of traces -/

/-- The requests of `evs` read no volume and name only keys of `F`. -/
def Stays (F : List Key) (evs : List Event) : Prop :=
  ∀ e ∈ evs, e.request.readsPV = false ∧ ∀ k ∈ e.request.keys, k ∈ F

section Stays

variable {F : List Key} {e : Event} {evs evs' : List Event}

@[simp] theorem stays_nil : Stays F [] := by simp [Stays]

@[simp] theorem stays_cons :
    Stays F (e :: evs) ↔ (e.request.readsPV = false ∧ ∀ k ∈ e.request.keys, k ∈ F) ∧ Stays F evs := by
  simp [Stays]

@[simp] theorem stays_append : Stays F (evs ++ evs') ↔ Stays F evs ∧ Stays F evs' :=
  ⟨fun h => ⟨fun e he => h e (List.mem_append_left _ he), fun e he => h e (List.mem_append_right _ he)⟩,
    fun h e he => (List.mem_append.mp he).elim (h.1 e) (h.2 e)⟩

/-- Frame along a replay: an object outside the keys a trace stays in is as it was. -/
theorem Replays.get_of_stays {s s' : Store} {k : Key} (hr : Replays s evs s') (hs : Stays F evs)
    (hk : k ∉ F) : s'.get k = s.get k :=
  hr.get_of_not_mem fun e he _ hw => hk ((hs e he).2 _ (Request.mem_keys_of_mem_writes _ hw))

end Stays

theorem Request.pvErase_eq_some {r : Request} {s : Store} {n : String} (h : r.pvErase s = some n) :
    ∃ k, r = .deletePVAndPVCIfAny k := by
  cases r <;> first | exact ⟨_, rfl⟩ | simp [Request.pvErase] at h

/-- Along a replay a volume stays as it was, or is erased by a successful delete of a claim. -/
theorem Replays.persistentVolumes_get {s s' : Store} {evs : List Event} (hr : Replays s evs s')
    (n : String) : s'.persistentVolumes.get n = s.persistentVolumes.get n ∨
      s'.persistentVolumes.get n = none ∧ ∃ k, (⟨.deletePVAndPVCIfAny k, true⟩ : Event) ∈ evs := by
  induction hr with
  | nil => exact .inl rfl
  | @ok s _ r _ _ _ ih =>
    rcases ih with ih | ⟨hn, k, hk⟩
    · rw [ih, r.exec_persistentVolumes]
      rcases he : r.pvErase s with _ | m
      · exact .inl rfl
      · obtain ⟨k, rfl⟩ := Request.pvErase_eq_some he
        by_cases hm : n = m
        · exact .inr ⟨by simp [erasePV, hm], k, .head _⟩
        · exact .inl (by simp [erasePV, hm])
    · exact .inr ⟨hn, k, .tail _ hk⟩
  | fail _ ih => exact ih.imp_right fun ⟨hn, k, hk⟩ => ⟨hn, k, .tail _ hk⟩

/-! ## A request of another program -/

/-- The world of a program after another program's request `r` changed the store. -/
def World.after (w : World) (r : Request) : World := ⟨(r.exec w.store).1, w.trace⟩

section After

variable (o : Oracle) {r r₁ : Request}

/-- A request `r₁` of a program and a request `r` of another, on disjoint keys: `r₁` gets the same
answer after `r`, `r` gets the same answer after `r₁`, and both orders end in the same store. -/
theorem World.perform_after (w : World) (hp : r.readsPV = false) (hp₁ : r₁.readsPV = false)
    (hd : ∀ k ∈ r.keys, k ∉ r₁.keys) :
    ((w.after r).answer o r₁).2 = (w.answer o r₁).2 ∧
      (w.after r).perform o r₁ = (w.perform o r₁).after r ∧
      (r.exec (w.perform o r₁).store).2 = (r.exec w.store).2 := by
  obtain ⟨h₁, h₂, h₃⟩ := Request.exec_comm hp hp₁ hd w.store
  simp only [World.perform, World.after, World.answer]
  rcases o w.trace.length with _ | e
  · simp only [h₁, h₂, h₃, and_self]
  · simp only [and_self]

/-- A request `r` of another program, outside the keys of a run, commutes with the run: from the
world `r` left, the program gets the same value and trace and ends in the store `r` makes of its
last store; and `r` gets the same answer after the run as before it. -/
theorem Prog.run_after {α : Type} {F : List Key} (p : Prog α) (w : World)
    (hs : Stays F (p.events o w)) (hp : r.readsPV = false) (hd : ∀ k ∈ r.keys, k ∉ F) :
    (p.run o (w.after r)).1 = (p.run o w).1 ∧ (p.run o (w.after r)).2 = (p.run o w).2.after r ∧
      (r.exec (p.run o w).2.store).2 = (r.exec w.store).2 := by
  induction p generalizing w with
  | pure a => exact ⟨rfl, rfl, rfl⟩
  | call r₁ k ih =>
    rw [Prog.events_call, stays_cons] at hs
    obtain ⟨⟨hp₁, hk₁⟩, hs⟩ := hs
    obtain ⟨ha, hw, hr⟩ := w.perform_after o hp hp₁ fun k hk h => hd k hk (hk₁ k h)
    obtain ⟨ih₁, ih₂, ih₃⟩ := ih _ _ hs
    simp only [Prog.run_call, ha, hw]
    exact ⟨ih₁, ih₂, ih₃.trans hr⟩

/-- The same, for a request of another program answered under its own oracle `o'` in a world
`u` whose store is the program's: failed, it changes nothing; answered, it commutes. -/
theorem Prog.run_foreign {α : Type} {F : List Key} (o' : Oracle) (p : Prog α) (w u : World)
    (hu : u.store = w.store) (hs : Stays F (p.events o w)) (hp : r.readsPV = false)
    (hd : ∀ k ∈ r.keys, k ∉ F) :
    (p.run o ⟨(u.answer o' r).1, w.trace⟩).1 = (p.run o w).1 ∧
      (p.run o ⟨(u.answer o' r).1, w.trace⟩).2 =
        ⟨((⟨(p.run o w).2.store, u.trace⟩ : World).answer o' r).1, (p.run o w).2.trace⟩ ∧
      ((⟨(p.run o w).2.store, u.trace⟩ : World).answer o' r).2 = (u.answer o' r).2 := by
  obtain ⟨h₁, h₂, h₃⟩ := p.run_after o w hs hp hd
  simp only [World.answer]
  rcases o' u.trace.length with _ | e
  · simp only [hu]
    exact ⟨h₁, h₂, h₃⟩
  · simp only [hu, and_true]

end After

/-! ## Two programs on one store -/

/-- One request of a program: the rest of the program after the answer, and the world after the
request; a program that has returned stays as it is. -/
def Prog.step {α : Type} (o : Oracle) : Prog α → World → Prog α × World
  | .pure a, w => (.pure a, w)
  | .call r k, w => (k (w.answer o r).2, w.perform o r)

/-- What two programs on one store end with: the value and trace of each, and the store. -/
structure Outcome (α β : Type) where
  value₁ : α
  trace₁ : List Event
  value₂ : β
  trace₂ : List Event
  store : Store

variable {α β : Type} (o₁ o₂ : Oracle)

/-- The first program runs to its end, then the second. -/
def runBoth (p₁ : Prog α) (t₁ : List Event) (p₂ : Prog β) (t₂ : List Event) (s : Store) :
    Outcome α β :=
  let r₁ := p₁.run o₁ ⟨s, t₁⟩
  let r₂ := p₂.run o₂ ⟨r₁.2.store, t₂⟩
  ⟨r₁.1, r₁.2.trace, r₂.1, r₂.2.trace, r₂.2.store⟩

/-- Two programs on one store, interleaved by a schedule: `true` answers the next request of the
first, `false` of the second; when the schedule ends, the first runs to its end, then the
second. -/
def interleave : List Bool → Prog α → List Event → Prog β → List Event → Store → Outcome α β
  | [], p₁, t₁, p₂, t₂, s => runBoth o₁ o₂ p₁ t₁ p₂ t₂ s
  | true :: sch, p₁, t₁, p₂, t₂, s =>
    let w := p₁.step o₁ ⟨s, t₁⟩
    interleave sch w.1 w.2.trace p₂ t₂ w.2.store
  | false :: sch, p₁, t₁, p₂, t₂, s =>
    let w := p₂.step o₂ ⟨s, t₂⟩
    interleave sch p₁ t₁ w.1 w.2.trace w.2.store

section Step

variable (o : Oracle) {F : List Key}

theorem Prog.run_step (p : Prog α) (w : World) : (p.step o w).1.run o (p.step o w).2 = p.run o w := by
  cases p <;> rfl

theorem Prog.stays_step {p : Prog α} {w : World} (h : Stays F (p.events o w)) :
    Stays F ((p.step o w).1.events o (p.step o w).2) := by
  cases p with
  | pure a => exact h
  | call r k =>
    rw [Prog.events_call, stays_cons] at h
    exact h.2

end Step

/-- Every schedule of two programs on disjoint keys gives the sequential run's values, traces and
store.  The footprint of each program is taken along the sequential run. -/
theorem interleave_eq_runBoth {F₁ F₂ : List Key} (hF : ∀ k ∈ F₂, k ∉ F₁) (sch : List Bool)
    (p₁ : Prog α) (t₁ : List Event) (p₂ : Prog β) (t₂ : List Event) (s : Store)
    (h₁ : Stays F₁ (p₁.events o₁ ⟨s, t₁⟩))
    (h₂ : Stays F₂ (p₂.events o₂ ⟨(p₁.run o₁ ⟨s, t₁⟩).2.store, t₂⟩)) :
    interleave o₁ o₂ sch p₁ t₁ p₂ t₂ s = runBoth o₁ o₂ p₁ t₁ p₂ t₂ s := by
  induction sch generalizing p₁ t₁ p₂ t₂ s with
  | nil => rfl
  | cons b sch ih =>
    cases b with
    | true =>
      have hr := p₁.run_step o₁ ⟨s, t₁⟩
      rw [interleave, ih _ _ _ _ _ (Prog.stays_step o₁ h₁) (by rw [hr]; exact h₂)]
      simp only [runBoth, hr]
    | false =>
      cases p₂ with
      | pure b => exact ih _ _ _ _ _ h₁ h₂
      | call r k =>
        rw [Prog.events_call, stays_cons] at h₂
        obtain ⟨⟨hp, hk⟩, h₂⟩ := h₂
        obtain ⟨e₁, e₂, e₃⟩ := p₁.run_foreign o₁ o₂ ⟨s, t₁⟩ ⟨s, t₂⟩ rfl h₁ hp
          fun k h h' => hF k (hk k h) h'
        have h₁' : Stays F₁ (p₁.events o₁ ⟨((⟨s, t₂⟩ : World).answer o₂ r).1, t₁⟩) := by
          rwa [Prog.events, e₂]
        simp only [World.perform] at h₂
        rw [interleave]
        simp only [Prog.step, World.perform_store, World.perform_trace]
        rw [ih _ _ _ _ _ h₁' (by rw [e₂]; rw [← e₃]; exact h₂)]
        simp only [runBoth, e₁, e₂, e₃, Prog.run_call, World.perform]

/-! ## A program that only reads -/

/-- `p` is invisible to every program beside it: in every schedule, under any oracles and from any
traces, the other program ends with the value and trace of its run alone from the first store,
and the store ends as that run leaves it. -/
def Transparent (p : Prog α) : Prop :=
  ∀ (o₁ o₂ : Oracle) (sch : List Bool) (t₁ : List Event) {γ : Type} (q : Prog γ)
    (t₂ : List Event) (s : Store),
    let r := interleave o₁ o₂ sch p t₁ q t₂ s
    r.value₂ = (q.run o₂ ⟨s, t₂⟩).1 ∧ r.trace₂ = (q.run o₂ ⟨s, t₂⟩).2.trace ∧
      r.store = (q.run o₂ ⟨s, t₂⟩).2.store

namespace Prog.OnlyReads

/-- One request of a program that only reads: the rest only reads, and the store is as it was. -/
theorem step {p : Prog α} (h : p.OnlyReads) (o : Oracle) (w : World) :
    (p.step o w).1.OnlyReads ∧ (p.step o w).2.store = w.store := by
  cases h with
  | pure a => exact ⟨.pure a, rfl⟩
  | call hr hk => exact ⟨hk _, w.perform_store_of_readOnly o hr⟩

/-- A program that only reads is transparent: by induction on the schedule, each of its requests
leaves the store to the other program as it was, and each request of the other program is the
next step of that program's run alone. -/
theorem transparent {p : Prog α} (h : p.OnlyReads) : Transparent p := by
  intro o₁ o₂ sch t₁ γ q t₂ s
  induction sch generalizing p t₁ q t₂ s with
  | nil => simp only [interleave, runBoth, h.run_store, and_self]
  | cons b sch ih =>
    cases b with
    | true =>
      obtain ⟨h', hs⟩ := h.step o₁ ⟨s, t₁⟩
      simpa only [interleave, hs] using ih h' _ q t₂ _
    | false =>
      have hr := q.run_step o₂ ⟨s, t₂⟩
      simp only [interleave]
      generalize q.step o₂ ⟨s, t₂⟩ = x at hr
      obtain ⟨q', s', t₂'⟩ := x
      rw [← hr]
      exact ih h t₁ q' t₂' s'

end Prog.OnlyReads

end Velero.Kube

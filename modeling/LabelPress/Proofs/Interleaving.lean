import LabelPress.Job.Pool
import Mathlib.Data.List.Basic
import Mathlib.Tactic.Common

/-!
# Schedules do not matter

The tasks of a pool share nothing, and the answer of an engine depends on its query alone. So what
becomes of a task depends only on how many turns it has had, and not on what the others did in
between: that is what a turn preserves, and by induction what a schedule preserves.

It follows that a pool is finished exactly when every task has had as many turns as it has steps,
that the results are then those of the jobs run alone, and that the queries are then those of the
jobs run alone, in some order.

## Main definitions

* `Task.Leads` — what becomes of a task in some number of turns

## Main results

* `Pool.leads_turn`, `Pool.leads_run` — a turn and a schedule, place by place
* `Pool.perm_queries_run` — a schedule neither loses nor repeats a query
* `Pool.results?_run_start` — the results of a pool are those of its jobs
-/

namespace LabelPress

open LabelPress.Render

variable {α : Type} {engines : Engines}

/-! ### The steps of a task -/

namespace Task

/-- A task leads to another one in some number of turns, in which it puts these queries: the result
and the queries still to come are accounted for, and every turn is used for a step while there is
one to make. -/
structure Leads (engines : Engines) (t : Task α) (turns : Nat) (asked : List Query) (t' : Task α) :
    Prop where
  /-- It comes to the same result. -/
  result : (t'.remainder engines).result engines = (t.remainder engines).result engines
  /-- What it was going to ask is what it has asked and what it is still going to ask. -/
  queries : (t.remainder engines).queries engines =
    asked ++ (t'.remainder engines).queries engines
  /-- It has made a step in each turn, as long as there was one. -/
  steps : t'.steps engines = t.steps engines - turns

theorem Leads.refl (t : Task α) : t.Leads engines 0 [] t :=
  ⟨rfl, rfl, rfl⟩

theorem Leads.trans {t t' t'' : Task α} {m n : Nat} {asked more : List Query}
    (h : t.Leads engines m asked t') (h' : t'.Leads engines n more t'') :
    t.Leads engines (m + n) (asked ++ more) t'' where
  result := h'.result.trans h.result
  queries := by rw [h.queries, h'.queries, List.append_assoc]
  steps := by rw [h'.steps, h.steps, Nat.sub_sub]

/-- A task makes a step unless it is finished, and then it has no steps before it. -/
theorem step?_eq_none_iff {t : Task α} : t.step? engines = none ↔ t.steps engines = 0 := by
  rcases t with (a | ⟨e, rest⟩ | ⟨q, rest⟩) | ⟨q, rest⟩ <;> simp [step?, steps, Job.steps]

/-- **One step:** the query that it puts, if it does, is the next one of those to come. -/
theorem leads_of_step? {t t' : Task α} {action : Action}
    (h : t.step? engines = some (action, t')) : t.Leads engines 1 action.query?.toList t' := by
  rcases t with (a | ⟨e, rest⟩ | ⟨q, rest⟩) | ⟨q, rest⟩
  · cases h
  · cases h
    exact ⟨rfl, rfl, rfl⟩
  · cases h
    exact ⟨rfl, rfl, rfl⟩
  · cases h
    exact ⟨rfl, rfl, rfl⟩

theorem leads_of_step?_none {t : Task α} (h : t.step? engines = none) (turns : Nat) :
    t.Leads engines turns [] t where
  result := rfl
  queries := rfl
  steps := by rw [step?_eq_none_iff.mp h, Nat.zero_sub]

theorem result?_eq_some_iff {t : Task α} {a : α} : t.result? = some a ↔ t = finished a := by
  rcases t with (a | ⟨e, rest⟩ | ⟨q, rest⟩) | ⟨q, rest⟩ <;> simp [result?, finished]

theorem steps_eq_zero_iff {t : Task α} : t.steps engines = 0 ↔ ∃ a, t = finished a := by
  rcases t with (a | ⟨e, rest⟩ | ⟨q, rest⟩) | ⟨q, rest⟩ <;> simp [steps, Job.steps, finished]

end Task

/-! ### Traces -/

namespace Trace

theorem queries_append (t t' : Trace) : queries (t ++ t') = t.queries ++ t'.queries :=
  List.filterMap_append

theorem queriesOf_append (t t' : Trace) (place : Nat) :
    queriesOf (t ++ t') place = t.queriesOf place ++ t'.queriesOf place := by
  rw [queriesOf, List.filter_append, queries_append, queriesOf, queriesOf]

theorem queries_singleton (place : Nat) (action : Action) :
    queries [(place, action)] = action.query?.toList := by
  cases h : action.query? <;> simp [queries, h]

theorem queriesOf_singleton_self (place : Nat) (action : Action) :
    queriesOf [(place, action)] place = action.query?.toList := by
  rw [queriesOf, List.filter_singleton, decide_eq_true rfl, cond_true, queries_singleton]

theorem queriesOf_singleton_of_ne {place other : Nat} (h : place ≠ other) (action : Action) :
    queriesOf [(place, action)] other = [] := by
  rw [queriesOf, List.filter_singleton, decide_eq_false h]
  rfl

end Trace

/-! ### One turn -/

namespace Pool

/-- In its turn a task makes a step if it can; otherwise nothing happens. -/
theorem turn_cases (engines : Engines) (p : Pool α) (place : Nat) :
    (p.turn engines place = ([], p) ∧ ∀ t, p[place]? = some t → t.step? engines = none) ∨
      ∃ t action next, p[place]? = some t ∧ t.step? engines = some (action, next) ∧
        p.turn engines place = ([(place, action)], p.set place next) := by
  rw [turn]
  cases h : p[place]?.bind (Task.step? engines) with
  | none =>
    refine Or.inl ⟨rfl, fun t ht => ?_⟩
    rw [ht] at h
    exact h
  | some step =>
    obtain ⟨t, ht, hstep⟩ := Option.bind_eq_some_iff.mp h
    exact Or.inr ⟨t, step.1, step.2, ht, hstep, rfl⟩

/-- **A turn concerns one place only.** The task in any place is led on by the turns of that place,
and by nothing else. -/
theorem leads_turn (engines : Engines) (p : Pool α) (place : Nat) {k : Nat} {t : Task α}
    (h : p[k]? = some t) :
    ∃ t', (p.turn engines place).2[k]? = some t' ∧
      t.Leads engines ([place].count k) ((p.turn engines place).1.queriesOf k) t' := by
  rcases turn_cases engines p place with ⟨hturn, hnone⟩ | ⟨u, action, next, hu, hstep, hturn⟩
  · rw [hturn]
    refine ⟨t, h, ?_⟩
    by_cases hk : place = k
    · exact Task.leads_of_step?_none (hnone t (hk ▸ h)) _
    · rw [List.count_singleton, if_neg (by simpa using hk)]
      exact .refl t
  · rw [hturn]
    by_cases hk : place = k
    · subst hk
      obtain rfl : u = t := Option.some.inj (hu.symm.trans h)
      refine ⟨next, List.getElem?_set_self (List.getElem?_eq_some_iff.mp h).1, ?_⟩
      rw [List.count_singleton_self, Trace.queriesOf_singleton_self]
      exact Task.leads_of_step? hstep
    · refine ⟨t, (List.getElem?_set_ne hk).trans h, ?_⟩
      rw [List.count_singleton, if_neg (by simpa using hk), Trace.queriesOf_singleton_of_ne hk]
      exact .refl t

theorem length_turn (p : Pool α) (place : Nat) :
    (p.turn engines place).2.length = p.length := by
  rcases turn_cases engines p place with ⟨hturn, -⟩ | ⟨t, action, next, -, -, hturn⟩ <;> rw [hturn]
  exact List.length_set

/-- The queries that the tasks of a pool are still going to put. -/
def pending (engines : Engines) (p : Pool α) : List Query :=
  p.flatMap fun t => (t.remainder engines).queries engines

/-- A turn moves at most one query from those to come to those that have been put. -/
theorem perm_queries_turn (p : Pool α) (place : Nat) :
    ((p.turn engines place).1.queries ++ (p.turn engines place).2.pending engines).Perm
      (p.pending engines) := by
  rcases turn_cases engines p place with ⟨hturn, -⟩ | ⟨t, action, next, ht, hstep, hturn⟩
  · rw [hturn]
    exact .refl _
  · obtain ⟨hplace, rfl⟩ := List.getElem?_eq_some_iff.mp ht
    obtain ⟨before, after, hsplit, -, hset⟩ :
        ∃ before after, p = before ++ p[place] :: after ∧ before.length = place ∧
          p.set place next = before ++ next :: after := List.exists_of_set hplace
    have hqueries := (Task.leads_of_step? hstep).queries
    rw [hturn, Trace.queries_singleton, pending, pending, hset]
    conv_rhs => rw [hsplit]
    simp only [List.flatMap_append, List.flatMap_cons, hqueries]
    rw [List.append_assoc]
    exact List.perm_append_comm_assoc _ _ _

/-! ### Whole schedules -/

theorem run_cons (p : Pool α) (place : Nat) (schedule : List Nat) :
    p.run engines (place :: schedule) =
      ((p.turn engines place).1 ++ ((p.turn engines place).2.run engines schedule).1,
        ((p.turn engines place).2.run engines schedule).2) :=
  rfl

/-- **What becomes of a task depends on how many turns it has,** whatever the schedule gives to the
others and in between. -/
theorem leads_run (engines : Engines) (p : Pool α) (schedule : List Nat) {k : Nat} {t : Task α}
    (h : p[k]? = some t) :
    ∃ t', (p.run engines schedule).2[k]? = some t' ∧
      t.Leads engines (schedule.count k) ((p.run engines schedule).1.queriesOf k) t' := by
  induction schedule generalizing p t with
  | nil => exact ⟨t, h, .refl t⟩
  | cons place schedule ih =>
    obtain ⟨next, hnext, hturn⟩ := leads_turn engines p place h
    obtain ⟨last, hlast, hrun⟩ := ih (p.turn engines place).2 hnext
    refine ⟨last, hlast, ?_⟩
    rw [run_cons, Trace.queriesOf_append, ← List.singleton_append, List.count_append]
    exact hturn.trans hrun

theorem length_run (p : Pool α) (schedule : List Nat) :
    (p.run engines schedule).2.length = p.length := by
  induction schedule generalizing p with
  | nil => rfl
  | cons place schedule ih => rw [run_cons, ih, length_turn]

/-- **A schedule neither loses nor repeats a query.** -/
theorem perm_queries_run (engines : Engines) (p : Pool α) (schedule : List Nat) :
    ((p.run engines schedule).1.queries ++ (p.run engines schedule).2.pending engines).Perm
      (p.pending engines) := by
  induction schedule generalizing p with
  | nil => exact .refl _
  | cons place schedule ih =>
    rw [run_cons, Trace.queries_append, List.append_assoc]
    exact ((ih (p.turn engines place).2).append_left _).trans (perm_queries_turn p place)

/-! ### Finished pools -/

theorem results?_cons (t : Task α) (rest : Pool α) :
    results? (t :: rest) = t.result?.bind fun a => (results? rest).map (a :: ·) := by
  rw [results?]
  cases t.result? <;> cases results? rest <;> rfl

/-- A pool has results iff all its tasks are finished, and they are those of the tasks. -/
theorem results?_eq_some_iff {p : Pool α} {results : List α} :
    p.results? = some results ↔ p = results.map .finished := by
  induction p generalizing results with
  | nil => cases results <;> simp [results?]
  | cons t rest ih =>
    rw [results?_cons, Option.bind_eq_some_iff]
    simp only [Option.map_eq_some_iff, Task.result?_eq_some_iff, ih]
    constructor
    · rintro ⟨a, rfl, more, rfl, rfl⟩
      rfl
    · intro h
      obtain ⟨a, more, rfl, rfl, rfl⟩ := List.map_eq_cons_iff.mp h.symm
      exact ⟨a, rfl, more, rfl, rfl⟩

/-- A pool is finished iff no task has a step before it. -/
theorem exists_results?_iff (engines : Engines) {p : Pool α} :
    (∃ results, p.results? = some results) ↔ ∀ t ∈ p, t.steps engines = 0 := by
  simp only [results?_eq_some_iff, Task.steps_eq_zero_iff]
  constructor
  · rintro ⟨results, rfl⟩ t ht
    obtain ⟨a, -, rfl⟩ := List.mem_map.mp ht
    exact ⟨a, rfl⟩
  · intro h
    induction p with
    | nil => exact ⟨[], rfl⟩
    | cons t rest ih =>
      obtain ⟨⟨a, rfl⟩, hrest⟩ := List.forall_mem_cons.mp h
      obtain ⟨more, rfl⟩ := ih hrest
      exact ⟨a :: more, rfl⟩

/-- What becomes of a job that was started at place `k`. -/
theorem leads_run_start (engines : Engines) {jobs : List (Job α)} (schedule : List Nat) {k : Nat}
    {j : Job α} (h : jobs[k]? = some j) :
    ∃ t, ((start jobs).run engines schedule).2[k]? = some t ∧
      (Task.running j).Leads engines (schedule.count k)
        (((start jobs).run engines schedule).1.queriesOf k) t :=
  leads_run engines _ _ (by rw [start, List.getElem?_map, h]; rfl)

/-- **A pool is finished iff every job has had as many turns as it has steps,** in whatever
order. -/
theorem exists_results?_run_start_iff (engines : Engines) (jobs : List (Job α))
    (schedule : List Nat) :
    (∃ results, ((start jobs).run engines schedule).2.results? = some results) ↔
      ∀ k j, jobs[k]? = some j → j.steps engines ≤ schedule.count k := by
  rw [exists_results?_iff engines]
  constructor
  · intro h k j hj
    obtain ⟨t, ht, hleads⟩ := leads_run_start engines schedule hj
    have hzero := hleads.steps
    rw [h t (List.mem_of_getElem? ht), Task.steps] at hzero
    omega
  · intro h t ht
    obtain ⟨k, hk⟩ := List.mem_iff_getElem?.mp ht
    have hlt : k < jobs.length := by
      have := (List.getElem?_eq_some_iff.mp hk).1
      rwa [length_run, start, List.length_map] at this
    have hj := List.getElem?_eq_getElem hlt
    obtain ⟨t', ht', hleads⟩ := leads_run_start engines schedule hj
    obtain rfl : t' = t := Option.some.inj (ht'.symm.trans hk)
    have hturns := h k _ hj
    rw [hleads.steps, Task.steps]
    omega

section

variable {jobs : List (Job α)} {schedule : List Nat} {results : List α}

/-- **The results of a pool are those of its jobs run alone,** in their order. -/
theorem results?_run_start (h : ((start jobs).run engines schedule).2.results? = some results) :
    results = jobs.map (Job.result engines) := by
  rw [results?_eq_some_iff] at h
  refine List.ext_getElem? fun k => ?_
  have hlength : results.length = jobs.length := by
    rw [← List.length_map (f := Task.finished), ← h, length_run, start, List.length_map]
  cases hj : jobs[k]? with
  | none =>
    rw [List.getElem?_eq_none_iff] at hj
    rw [List.getElem?_eq_none (hlength ▸ hj), List.getElem?_map, List.getElem?_eq_none hj]
    rfl
  | some j =>
    obtain ⟨t, ht, hleads⟩ := leads_run_start engines schedule hj
    rw [h, List.getElem?_map, Option.map_eq_some_iff] at ht
    obtain ⟨a, ha, rfl⟩ := ht
    rw [ha, List.getElem?_map, hj, Option.map_some, ← show _ = j.result engines from hleads.result]
    rfl

theorem pending_eq_nil {p : Pool α} (h : ∃ results, p.results? = some results) :
    p.pending engines = [] := by
  obtain ⟨results, hresults⟩ := h
  rw [results?_eq_some_iff] at hresults
  rw [hresults, pending, List.flatMap_map]
  exact List.flatMap_eq_nil_iff.mpr fun _ _ => rfl

/-- **Each job has put its own queries,** in its own order. -/
theorem queriesOf_run_start (h : ((start jobs).run engines schedule).2.results? = some results)
    {k : Nat} {j : Job α} (hj : jobs[k]? = some j) :
    ((start jobs).run engines schedule).1.queriesOf k = j.queries engines := by
  obtain ⟨t, ht, hleads⟩ := leads_run_start engines schedule hj
  rw [results?_eq_some_iff.mp h, List.getElem?_map, Option.map_eq_some_iff] at ht
  obtain ⟨a, -, rfl⟩ := ht
  have hqueries : j.queries engines = _ ++ [] := hleads.queries
  rw [hqueries, List.append_nil]

/-- **All queries together are those of the jobs run alone,** in some order. -/
theorem perm_queries_run_start
    (h : ((start jobs).run engines schedule).2.results? = some results) :
    ((start jobs).run engines schedule).1.queries.Perm (jobs.flatMap (Job.queries engines)) := by
  have hperm := perm_queries_run engines (start jobs) schedule
  have hstart : (start jobs).pending engines = jobs.flatMap (Job.queries engines) := by
    rw [pending, start, List.flatMap_map]
    rfl
  rwa [pending_eq_nil ⟨_, h⟩, List.append_nil, hstart] at hperm

end

end Pool

end LabelPress

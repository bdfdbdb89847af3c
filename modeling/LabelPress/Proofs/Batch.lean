import LabelPress.Barcode.Batch
import LabelPress.Proofs.Interleaving
import LabelPress.Proofs.Outcome

/-!
# Batches under every schedule

A batch whose items are under way at the same time comes to what its items come to alone. Nothing of
this depends on the order of the queries and their answers, since a pool yields what its jobs yield;
what is left to say is how the outcomes of the items make up the result of the batch, and how many
queries an item makes.

## Main definitions

* `FirstAbort` — the place of the first abort among outcomes

## Main results

* `conclude_eq_ok_iff`, `conclude_eq_error_iff` — the result of a batch
* `abort_of_generate_aborted` — only an engine aborts a generation
* `queries_generate_dataMatrix`, `length_queries_generate` — the queries of an item
* `generateConcurrently_isolated` — a batch under any schedule
-/

namespace LabelPress.Barcode

open LabelPress.Image LabelPress.Render

variable {c : Context} {engines : Engines} {r : Request}

/-! ### The result of a batch -/

/-- The outcome at place `i` is an abort, and there is none before it. -/
structure FirstAbort (outcomes : List Outcome) (i : Nat) (m : String) : Prop where
  /-- It is an abort. -/
  aborted : outcomes[i]? = some (.aborted m)
  /-- There is none before it. -/
  first : ∀ k < i, ∀ n, outcomes[k]? ≠ some (.aborted n)

theorem Outcome.abort?_eq_some_iff {o : Outcome} {m : String} :
    o.abort? = some m ↔ o = .aborted m := by
  cases o <;> simp [abort?]

theorem firstAbort_cons_aborted {rest : List Outcome} {m n : String} :
    (∃ i, FirstAbort (.aborted n :: rest) i m) ↔ n = m := by
  constructor
  · rintro ⟨_ | i, h⟩
    · exact Outcome.aborted.inj (Option.some.inj h.aborted)
    · exact absurd rfl (h.first 0 (Nat.succ_pos i) n)
  · rintro rfl
    exact ⟨0, rfl, fun k hk => absurd hk (Nat.not_lt_zero k)⟩

theorem firstAbort_cons_of_abort?_eq_none {o : Outcome} {rest : List Outcome} {m : String}
    (h : o.abort? = none) : (∃ i, FirstAbort (o :: rest) i m) ↔ ∃ i, FirstAbort rest i m := by
  have ho : ∀ n, o ≠ .aborted n := by
    rintro n rfl
    cases h
  constructor
  · rintro ⟨_ | i, hi⟩
    · exact absurd (Option.some.inj hi.aborted) (ho m)
    · exact ⟨i, hi.aborted, fun k hk => hi.first (k + 1) (Nat.succ_lt_succ hk)⟩
  · rintro ⟨i, hi⟩
    refine ⟨i + 1, hi.aborted, fun k hk n hn => ?_⟩
    cases k with
    | zero => exact ho n (Option.some.inj hn)
    | succ k => exact hi.first k (Nat.lt_of_succ_lt_succ hk) n hn

theorem findSome?_abort?_eq_some_iff {outcomes : List Outcome} {m : String} :
    outcomes.findSome? Outcome.abort? = some m ↔ ∃ i, FirstAbort outcomes i m := by
  induction outcomes with
  | nil =>
    refine iff_of_false (fun h => nomatch h) ?_
    rintro ⟨i, hi⟩
    exact nomatch hi.aborted
  | cons o rest ih =>
    rw [List.findSome?_cons]
    cases ho : o.abort? with
    | none => rw [firstAbort_cons_of_abort?_eq_none ho, ← ih]
    | some n =>
      rw [Outcome.abort?_eq_some_iff.mp ho, firstAbort_cons_aborted]
      exact Option.some_inj

/-- **A batch without an abort** has all its outcomes for a result. -/
theorem conclude_eq_ok_iff {outcomes all : List Outcome} :
    conclude outcomes = .ok all ↔ (∀ o ∈ outcomes, o.abort? = none) ∧ all = outcomes := by
  rw [conclude, ← List.findSome?_eq_none_iff]
  cases outcomes.findSome? Outcome.abort? <;> simp [eq_comm]

/-- **A batch with an abort** has the first one for a result. -/
theorem conclude_eq_error_iff {outcomes : List Outcome} {m : String} :
    conclude outcomes = .error m ↔ ∃ i, FirstAbort outcomes i m := by
  rw [conclude, ← findSome?_abort?_eq_some_iff]
  cases outcomes.findSome? Outcome.abort? <;> simp

theorem result_finishBatch (outcomes : List Outcome) :
    (finishBatch outcomes).result engines = conclude outcomes := by
  rw [finishBatch]
  cases conclude outcomes <;> rfl

/-- One after the other or not, a batch comes to the same. -/
theorem result_generateAll (c : Context) (engines : Engines) (requests : List Request) :
    (generateAll c requests).result engines =
      conclude (requests.map fun r => (generate c r).result engines) := by
  rw [generateAll, Job.result_bind, Job.result_sequence, result_finishBatch, List.map_map]
  rfl

/-! ### Aborts -/

/-- An engine that was asked in a job has aborted with a message. -/
def AbortedBy (engines : Engines) (j : Job Outcome) (m : String) : Prop :=
  ∃ q ∈ j.queries engines, q.abort? (engines q) = some m

theorem ShowsAnswer.abortedBy {j : Job Outcome} {q : RasterQuery} (h : ShowsAnswer engines j q)
    {m : String} (haborted : j.result engines = .aborted m) : AbortedBy engines j m := by
  rw [h.result] at haborted
  refine ⟨.raster q, by rw [h.queries]; exact List.mem_cons_self, ?_⟩
  cases hanswer : engines (.raster q) with
  | ok image =>
    rw [hanswer] at haborted
    cases haborted
  | error e =>
    rw [hanswer] at haborted
    cases e <;> cases haborted
    rfl

theorem abort_of_drawRaster_aborted {text m : String}
    (h : (drawRaster r text).result engines = .aborted m) :
    AbortedBy engines (drawRaster r text) m := by
  by_cases htext : text = ""
  · subst htext
    rw [(drawRaster_empty engines r).1] at h
    cases h
  · obtain ⟨settings, hquery⟩ := r.rasterQuery_of_ne_empty htext
    exact (drawRaster_of_query engines r hquery).abortedBy h

/-- Drawing a QR symbol asks no engine, and does not abort. -/
theorem generateQr_of_engines (c : Context) (engines : Engines) (data : String) :
    (generateQr c data).queries engines = [] ∧
      ∀ m, (generateQr c data).result engines ≠ .aborted m := by
  rw [generateQr, drawQr]
  split
  · refine ⟨rfl, fun m h => ?_⟩
    cases h
  next l _ =>
    refine ⟨rfl, fun m h => ?_⟩
    rw [Job.result_log, Job.result_done] at h
    cases hdrawn : c.qr.draw l <;> rw [hdrawn] at h <;> cases h

/-- **Only an engine aborts a generation.** -/
theorem abort_of_generate_aborted {m : String} (h : (generate c r).result engines = .aborted m) :
    AbortedBy engines (generate c r) m := by
  cases exists_way c engines r with
  | qr hqr =>
    rw [result_generate, dispatch, hqr] at h
    exact absurd h ((generateQr_of_engines c engines _).2 m)
  | dataMatrix hmatrix hno =>
    obtain ⟨hresult, hqueries⟩ := (generate_of_attempt c engines hmatrix).1 hno
    rw [hresult] at h
    refine ⟨encoderQuery r, by rw [hqueries]; exact List.mem_cons_self, ?_⟩
    cases hattempt : (attempt c r).result engines with
    | ok image =>
      rw [hattempt] at h
      cases h
    | error e =>
      rw [hattempt] at h
      cases e <;> cases h
      rw [encoder_of_attempt_aborted hattempt]
      rfl
  | raster hroute =>
    obtain ⟨hresult, hqueries⟩ := generate_of_rasterRoute hroute
    rw [hresult] at h
    obtain ⟨q, hq, hm⟩ := abort_of_drawRaster_aborted h
    exact ⟨q, hqueries q hq, hm⟩
  | unfit hunfit =>
    obtain ⟨w, hw, -⟩ := generate_of_unfitLength c engines hunfit
    rw [hw] at h
    cases h
  | nonDigit hscheme hlength hch =>
    rw [generate_of_nonDigit hscheme hlength hch] at h
    cases h

/-! ### The queries of an item -/

theorem length_queries_drawRaster (text : String) :
    ((drawRaster r text).queries engines).length ≤ 1 := by
  by_cases htext : text = ""
  · subst htext
    rw [(drawRaster_empty engines r).2]
    exact Nat.zero_le 1
  · obtain ⟨settings, hquery⟩ := r.rasterQuery_of_ne_empty htext
    rw [(drawRaster_of_query engines r hquery).2]
    exact Nat.le_refl 1

theorem length_queries_generateRaster (r : Request) :
    ((generateRaster r).queries engines).length ≤ 1 := by
  rw [generateRaster]
  split
  · exact Nat.zero_le 1
  · rw [Job.queries_logAll]
    split
    · exact Nat.zero_le 1
    · exact length_queries_drawRaster _

/-- **An item that is not a Data Matrix** makes one query at most. -/
theorem length_queries_generate (h : r.symbology? ≠ some .dataMatrix) :
    ((generate c r).queries engines).length ≤ 1 := by
  rw [queries_generate, dispatch]
  split
  · rw [(generateQr_of_engines c engines _).1]
    exact Nat.zero_le 1
  next hs => exact absurd hs h
  · exact length_queries_generateRaster r

/-- **A Data Matrix** makes the query of its attempt, and one query to the raster engine at most
after it. -/
theorem queries_generate_dataMatrix (h : r.symbology? = some .dataMatrix) :
    ∃ later, (generate c r).queries engines = (attempt c r).queries engines ++ later ∧
      later.length ≤ 1 ∧ ∀ q ∈ later, ∃ p, q = .raster p := by
  obtain ⟨hends, hgoesOn⟩ := generate_of_attempt c engines h
  by_cases hfault : ∃ f, (attempt c r).result engines = .error (.fault f)
  · obtain ⟨f, hf⟩ := hfault
    refine ⟨_, (hgoesOn f hf).2, ?_, fun q hq => mem_queries_code128 hq⟩
    rw [queries_generate, dispatch_code128]
    exact length_queries_generateRaster _
  · have hnone := not_exists.mp hfault
    refine ⟨[], ?_, Nat.zero_le 1, fun q hq => nomatch hq⟩
    rw [(hends hnone).2, queries_attempt_of_no_fault hnone, List.append_nil]

/-! ### Any schedule -/

theorem exists_generateConcurrently_iff {requests : List Request} {schedule : List Nat} :
    (∃ res, (generateConcurrently engines c requests schedule).2 = some res) ↔
      ∀ i r, requests[i]? = some r → (generate c r).steps engines ≤ schedule.count i := by
  have hfinished :=
    Pool.exists_results?_run_start_iff engines (requests.map (generate c)) schedule
  simp only [generateConcurrently, Option.map_eq_some_iff]
  constructor
  · rintro ⟨_, results, hresults, -⟩ i r hr
    refine hfinished.mp ⟨results, hresults⟩ i _ ?_
    rw [List.getElem?_map, hr]
    rfl
  · intro h
    obtain ⟨results, hresults⟩ := hfinished.mpr fun i j hj => by
      rw [List.getElem?_map, Option.map_eq_some_iff] at hj
      obtain ⟨r, hr, rfl⟩ := hj
      exact h i r hr
    exact ⟨_, results, hresults, rfl⟩

/-- **Batches under every schedule.** Whatever the order in which the items of a batch have their
turns, the batch is finished once each of them has had enough. If no item is aborted, its result is
then the list of what each request comes to alone; otherwise it is the abort of the first item that
is aborted; and there is no other result. In both cases every item has put the queries that it puts
alone, and nothing else has been asked: one query at most for an item, except that a Data Matrix
puts that of its attempt and possibly a later one to the raster engine. -/
theorem generateConcurrently_isolated (engines : Engines) (c : Context) (requests : List Request)
    (schedule : List Nat) :
    ((∃ res, (generateConcurrently engines c requests schedule).2 = some res) ↔
      ∀ i r, requests[i]? = some r → (generate c r).steps engines ≤ schedule.count i) ∧
    (∀ res, (generateConcurrently engines c requests schedule).2 = some res →
      (∀ outcomes, res = .ok outcomes ↔
        (∀ r ∈ requests, ∀ m, (generate c r).result engines ≠ .aborted m) ∧
          outcomes = requests.map fun r => (generate c r).result engines) ∧
      (∀ m, res = .error m ↔
        ∃ i, FirstAbort (requests.map fun r => (generate c r).result engines) i m) ∧
      res = (generateAll c requests).result engines ∧
      (∀ i r, requests[i]? = some r →
        (generateConcurrently engines c requests schedule).1.queriesOf i =
          (generate c r).queries engines) ∧
      (generateConcurrently engines c requests schedule).1.queries.Perm
        (requests.flatMap fun r => (generate c r).queries engines)) ∧
    ∀ r ∈ requests,
      (r.symbology? ≠ some .dataMatrix → ((generate c r).queries engines).length ≤ 1) ∧
      (r.symbology? = some .dataMatrix →
        ∃ later, (generate c r).queries engines = (attempt c r).queries engines ++ later ∧
          later.length ≤ 1 ∧ ∀ q ∈ later, ∃ p, q = .raster p) := by
  refine ⟨exists_generateConcurrently_iff, fun res hres => ?_, fun r _ =>
    ⟨length_queries_generate, queries_generate_dataMatrix⟩⟩
  simp only [generateConcurrently, Option.map_eq_some_iff] at hres
  obtain ⟨results, hresults, rfl⟩ := hres
  have halone : results = requests.map fun r => (generate c r).result engines := by
    rw [Pool.results?_run_start hresults, List.map_map]
    rfl
  refine ⟨fun outcomes => ?_, fun m => ?_, ?_, fun i r hr => ?_, ?_⟩
  · rw [conclude_eq_ok_iff, halone, List.forall_mem_map]
    simp only [Option.eq_none_iff_forall_ne_some, ne_eq, Outcome.abort?_eq_some_iff]
  · rw [conclude_eq_error_iff, halone]
  · rw [result_generateAll, halone]
  · refine Pool.queriesOf_run_start hresults ?_
    rw [List.getElem?_map, hr]
    rfl
  · have hperm := Pool.perm_queries_run_start hresults
    rwa [List.flatMap_map] at hperm

/-- A Data Matrix that cannot be encoded and a Code 128, turn about: both queries are open at the
same time, and the fallback is drawn when the other item has long been finished. -/
theorem generateConcurrently_isolated_turnAbout :
    (generateConcurrently failingEncoder
        ⟨⟨.int 200, .int 2, .low, ⟨0, 0, 0⟩, ⟨255, 255, 255⟩⟩, true⟩
        [⟨typeOfSymbology .dataMatrix, "x", none⟩, ⟨typeOfSymbology .code128, "y", none⟩]
        [0, 1, 1, 0, 1, 1, 0, 0, 0, 0, 0]).2 =
      some (.ok
        [(generate ⟨⟨.int 200, .int 2, .low, ⟨0, 0, 0⟩, ⟨255, 255, 255⟩⟩, true⟩
            ⟨typeOfSymbology .dataMatrix, "x", none⟩).result failingEncoder,
         (generate ⟨⟨.int 200, .int 2, .low, ⟨0, 0, 0⟩, ⟨255, 255, 255⟩⟩, true⟩
            ⟨typeOfSymbology .code128, "y", none⟩).result failingEncoder]) := by
  obtain ⟨hfinished, hresult, -⟩ := generateConcurrently_isolated failingEncoder
    ⟨⟨.int 200, .int 2, .low, ⟨0, 0, 0⟩, ⟨255, 255, 255⟩⟩, true⟩
    [⟨typeOfSymbology .dataMatrix, "x", none⟩, ⟨typeOfSymbology .code128, "y", none⟩]
    [0, 1, 1, 0, 1, 1, 0, 0, 0, 0, 0]
  obtain ⟨res, hres⟩ := hfinished.mpr fun i r hr => by
    match i, hr with
    | 0, hr =>
      cases hr
      decide
    | 1, hr =>
      cases hr
      decide
  rw [hres, ((hresult res hres).1 _).mpr ⟨fun r _ m hm => ?_, rfl⟩]
  · rfl
  · obtain ⟨q, -, hq⟩ := abort_of_generate_aborted hm
    cases q <;> cases hq

end LabelPress.Barcode

import Regress.Proofs.Execution

/-!
# An outcome under any sequence of steps

A suite drives its `Outcome` in one way, but the outcome itself takes any sequence of steps:
each may mark the run aborted and may then record a result, with any verdict, also one that
names none of the three (`Verdict.unknown`). Whatever the sequence, the outcome counts exactly
what was recorded (`Outcome.Counted`): a case for each result, the results whose verdict is
success as successes, every other result kept as a failure in the order recorded, and the run
aborted exactly when some step aborted it. The empty outcome counts no steps, and each step
keeps the invariant (`Counted.apply`), so every outcome the steps reach counts them
(`counted_afterSteps`).

The exit code reads only the abort flag, the total and the successes, and the failures are kept
apart; through the invariant it is 255 when some step aborted, otherwise 0 exactly when
something was recorded and nothing failed, and 1 otherwise (`Counted.exitCode`). So once a step
has aborted or a failing result is recorded, no later step brings the exit code back to 0
(`exitCode_ne_zero_of_prefix`).
-/

namespace Regress

namespace Outcome

/-- One step of a client of an outcome: it may mark the run aborted, and then may record a
result. -/
structure Step where
  abort : Bool
  result : Option CaseResult
  deriving Repr, DecidableEq

/-- What a step does to an outcome: the abort first, then the record. -/
def Step.apply (o : Outcome) (s : Step) : Outcome :=
  let o := if s.abort then o.abort else o
  match s.result with
  | some r => o.record r
  | none => o

/-- The outcome a sequence of steps reaches from the empty one. -/
def afterSteps (steps : List Step) : Outcome :=
  steps.foldl Step.apply empty

/-- The results a sequence of steps records, in order. -/
def recorded (steps : List Step) : List CaseResult :=
  steps.filterMap Step.result

@[simp] theorem recorded_nil : recorded [] = [] := rfl

@[simp] theorem recorded_append (steps more : List Step) :
    recorded (steps ++ more) = recorded steps ++ recorded more := by
  simp [recorded, List.filterMap_append]

@[simp] theorem recorded_singleton (s : Step) : recorded [s] = s.result.toList := by
  cases h : s.result <;> simp [recorded, h]

@[simp] theorem abort_total (o : Outcome) : o.abort.total = o.total := rfl

@[simp] theorem abort_succeeded (o : Outcome) : o.abort.succeeded = o.succeeded := rfl

@[simp] theorem abort_failed (o : Outcome) : o.abort.failed = o.failed := rfl

@[simp] theorem abort_aborted (o : Outcome) : o.abort.aborted = true := rfl

theorem passed_eq_decide (r : CaseResult) : r.passed = decide (r.verdict = .success) :=
  rfl

/-- `o` counts exactly what `steps` did: a case for each recorded result, the results whose
verdict is success as successes, the others as failures in the order recorded, and aborted
exactly when some step aborted. -/
structure Counted (o : Outcome) (steps : List Step) : Prop where
  total : o.total = (recorded steps).length
  succeeded : o.succeeded = (recorded steps).countP fun r => r.verdict = .success
  failed : o.failed = (recorded steps).filter fun r => r.verdict ≠ .success
  aborted : o.aborted = steps.any Step.abort

theorem counted_empty : Counted empty [] :=
  ⟨rfl, rfl, rfl, rfl⟩

/-- A step keeps the count exact: the abort sets the flag and touches no count, and the record
adds its result where its verdict puts it. -/
theorem Counted.apply {o : Outcome} {steps : List Step} (h : Counted o steps) (s : Step) :
    Counted (Step.apply o s) (steps ++ [s]) := by
  obtain ⟨ht, hs, hf, ha⟩ := h
  obtain ⟨abort, result⟩ := s
  -- the abort flag first, with no change to the counts
  have hflag : ∀ o' : Outcome, o'.total = o.total → o'.succeeded = o.succeeded →
      o'.failed = o.failed → o'.aborted = (o.aborted || abort) →
      Counted (match result with | some r => o'.record r | none => o')
        (steps ++ [⟨abort, result⟩]) := by
    intro o' ht' hs' hf' ha'
    cases result with
    | none => exact ⟨by simp [ht', ht], by simp [hs', hs], by simp [hf', hf], by simp [ha', ha]⟩
    | some r =>
      refine ⟨by simp [ht', ht], ?_, ?_, by simp [ha', ha]⟩
      · simp [hs', hs, passed_eq_decide]
      · by_cases hr : r.verdict = .success <;> simp [hf', hf, passed_eq_decide, hr]
  cases abort with
  | false => exact hflag o rfl rfl rfl (by simp)
  | true => exact hflag o.abort rfl rfl rfl (by simp)

theorem Counted.foldl {o : Outcome} {done : List Step} (h : Counted o done) :
    ∀ steps : List Step, Counted (steps.foldl Step.apply o) (done ++ steps)
  | [] => by simpa using h
  | s :: rest => by
    have := (h.apply s).foldl rest
    simpa using this

/-- Every outcome that a sequence of steps reaches counts exactly those steps. -/
theorem counted_afterSteps (steps : List Step) : Counted (afterSteps steps) steps := by
  simpa [afterSteps] using counted_empty.foldl steps

theorem Counted.succeeded_add_failed {o : Outcome} {steps : List Step} (h : Counted o steps) :
    o.succeeded + o.failed.length = o.total := by
  rw [h.succeeded, h.failed, h.total, ← List.countP_eq_length_filter,
    List.length_eq_countP_add_countP fun r => decide (r.verdict = .success)]
  simp

/-- The exit code of an outcome that counts its steps: 255 when some step aborted, otherwise 0
exactly when something was recorded and nothing failed, and 1 otherwise. -/
theorem Counted.exitCode {o : Outcome} {steps : List Step} (h : Counted o steps) :
    o.exitCode =
      if steps.any Step.abort then 255 else if 0 < o.total ∧ o.failed = [] then 0 else 1 := by
  have hsum := h.succeeded_add_failed
  -- the code asks for every case a success; the invariant turns that into no failure
  have hall : o.succeeded = o.total ↔ o.failed = [] := by
    rw [← List.length_eq_zero_iff]
    omega
  simp only [Outcome.exitCode, h.aborted, hall]

/-- Once a step has aborted or a failing result is recorded, the exit code is not 0, whatever
steps follow. -/
theorem exitCode_ne_zero_of_prefix {steps : List Step}
    (h : (∃ s ∈ steps, s.abort = true) ∨ ∃ r ∈ recorded steps, r.verdict ≠ .success)
    (more : List Step) : (afterSteps (steps ++ more)).exitCode ≠ 0 := by
  have hc := counted_afterSteps (steps ++ more)
  rw [hc.exitCode]
  rcases h with ⟨s, hs, ha⟩ | ⟨r, hr, hv⟩
  · have : (steps ++ more).any Step.abort = true :=
      List.any_eq_true.mpr ⟨s, List.mem_append_left more hs, ha⟩
    simp [this]
  · -- the failing result stays among the failures
    have hfail : r ∈ (afterSteps (steps ++ more)).failed := by
      rw [hc.failed, recorded_append]
      exact List.mem_filter.mpr ⟨List.mem_append_left _ hr, by simpa using hv⟩
    have hne : (afterSteps (steps ++ more)).failed ≠ [] := List.ne_nil_of_mem hfail
    split <;> simp [hne]

/-- For every sequence of steps that may abort and may record results with any verdict, the
outcome reached counts the recorded results exactly: the total is their number, the successes
are those whose verdict is success, the failures are the others in the order recorded, and
successes and failures make up the total. Its exit code is 255 when some step aborted, otherwise
0 exactly when something was recorded and nothing failed, and 1 otherwise; and once a step has
aborted or recorded a failure, no later steps bring the exit code back to 0. -/
theorem afterSteps_counts_and_exitCode (steps : List Step) :
    (afterSteps steps).total = (recorded steps).length ∧
    (afterSteps steps).succeeded = (recorded steps).countP (fun r => r.verdict = .success) ∧
    (afterSteps steps).failed = (recorded steps).filter (fun r => r.verdict ≠ .success) ∧
    (afterSteps steps).succeeded + (afterSteps steps).failed.length = (afterSteps steps).total ∧
    (afterSteps steps).exitCode =
      (if steps.any Step.abort then 255
       else if 0 < (afterSteps steps).total ∧ (afterSteps steps).failed = [] then 0 else 1) ∧
    ∀ more : List Step,
      ((∃ s ∈ steps, s.abort = true) ∨ ∃ r ∈ recorded steps, r.verdict ≠ .success) →
        (afterSteps (steps ++ more)).exitCode ≠ 0 := by
  have hc := counted_afterSteps steps
  exact ⟨hc.total, hc.succeeded, hc.failed, hc.succeeded_add_failed, hc.exitCode,
    fun more h => exitCode_ne_zero_of_prefix h more⟩

/-- A verdict code outside the three named ones records a failure. -/
example :
    (afterSteps [⟨false, some ⟨default, Verdict.ofCode 7, 0, none, none⟩⟩]).exitCode = 1 := by
  decide

end Outcome

end Regress

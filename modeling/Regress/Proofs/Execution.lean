import Regress.Suite

/-!
# What a suite's run does, call by call

A suite talks to its collaborators only through calls: the runner gets each case, the reporter
hears that it started and how it ended, and the progress display moves. Run against
collaborators that only note the calls they get (`Suite.recorder`), a run leaves the whole list
of calls, in order, beside the world the runner and the context act on.

The run is followed case by case. Before each case, a context that has ended stops the run
with its error (`executeFrom_cancelled`); otherwise the case is run and reported, and a failing
result ends the run when it stops at the first failure (`executeFrom_step`). Over a stretch of
cases that neither stop nor are cancelled, the tally keeps counting exactly the results so far
(`Outcome.Tallies`) and the calls are the trail of those cases (`executeFrom_append`). The
three ways a run ends follow: it runs through, aborts at the first failure, or is cancelled.
-/

namespace Regress

@[simp] theorem id_bind_eq {α β : Type} (x : Id α) (f : α → Id β) : x >>= f = f x := rfl

@[simp] theorem id_pure_eq {α : Type} (a : α) : (pure a : Id α) = a := rfl

@[simp] theorem id_map_eq {α β : Type} (f : α → β) (x : Id α) :
    @Functor.map Id Id.instMonad.toApplicative.toFunctor α β f x = f x := rfl

namespace Outcome

/-- The tally `o` counts exactly the results `rs`, in order: one case for each, the passing ones
as successes, the failing ones kept, and the run not aborted. -/
structure Tallies (o : Outcome) (rs : List CaseResult) : Prop where
  total : o.total = rs.length
  succeeded : o.succeeded = rs.countP CaseResult.passed
  failed : o.failed = rs.filter fun r => !r.passed
  running : o.aborted = false

theorem tallies_empty : Outcome.empty.Tallies [] :=
  ⟨rfl, rfl, rfl, rfl⟩

@[simp] theorem record_total (o : Outcome) (r : CaseResult) : (o.record r).total = o.total + 1 := by
  by_cases hr : r.passed = true <;> simp [Outcome.record, hr]

@[simp] theorem record_succeeded (o : Outcome) (r : CaseResult) :
    (o.record r).succeeded = o.succeeded + if r.passed then 1 else 0 := by
  by_cases hr : r.passed = true <;> simp [Outcome.record, hr]

@[simp] theorem record_failed (o : Outcome) (r : CaseResult) :
    (o.record r).failed = o.failed ++ if r.passed then [] else [r] := by
  by_cases hr : r.passed = true <;> simp [Outcome.record, hr]

@[simp] theorem record_aborted (o : Outcome) (r : CaseResult) :
    (o.record r).aborted = o.aborted := by
  by_cases hr : r.passed = true <;> simp [Outcome.record, hr]

theorem Tallies.record {o : Outcome} {rs : List CaseResult} (h : o.Tallies rs) (r : CaseResult) :
    (o.record r).Tallies (rs ++ [r]) := by
  obtain ⟨ht, hs, hf, ha⟩ := h
  refine ⟨by simp [ht], ?_, ?_, by simp [ha]⟩
  · by_cases hr : r.passed = true <;> simp [hs, hr]
  · by_cases hr : r.passed = true <;> simp [hf, hr]

/-- A tally that has failed no case counts every case as a success. -/
theorem Tallies.succeeded_eq_total {o : Outcome} {rs : List CaseResult} (h : o.Tallies rs)
    (hf : o.failed = []) : o.succeeded = o.total := by
  have hall : ∀ r ∈ rs, r.passed = true := by
    intro r hr
    have : r ∉ rs.filter fun r => !r.passed := by rw [← h.failed, hf]; simp
    simpa [hr] using this
  rw [h.succeeded, h.total, List.countP_eq_length.2 hall]

/-- The exit code of an exact tally: 0 when some case ran and every one passed, 1 otherwise. -/
theorem Tallies.exitCode {o : Outcome} {rs : List CaseResult} (h : o.Tallies rs) :
    o.exitCode = if 0 < rs.length ∧ ∀ r ∈ rs, r.passed = true then 0 else 1 := by
  have hall : o.succeeded = o.total ↔ ∀ r ∈ rs, r.passed = true := by
    rw [h.succeeded, h.total, List.countP_eq_length]
  simp only [Outcome.exitCode, h.running, h.total.symm, hall]
  rfl

end Outcome

/-- A call a suite makes on one of its collaborators. -/
inductive Call where
  | run (c : Case)
  | started (c : Case)
  | finished (r : CaseResult)
  | update (succeeded failed : Nat)
  | summary (o : Outcome)
  | finish
  deriving Repr, DecidableEq

/-- The case a call hands to the runner, if it is a runner call. -/
def Call.invoked : Call → Option Case
  | .run c => some c
  | _ => none

/-- The world the runner and the context act on, and the calls made so far. -/
structure Trace (ρ : Type) where
  world : ρ
  calls : List Call

namespace Trace

variable {ρ α : Type}

def note (e : Call) : StateM (Trace ρ) Unit :=
  modify fun t => { t with calls := t.calls ++ [e] }

def inWorld (x : StateM ρ α) : StateM (Trace ρ) α :=
  modifyGet fun t => ((x.run t.world).1, { t with world := (x.run t.world).2 })

@[simp] theorem run_note (e : Call) (t : Trace ρ) :
    (note e).run t = pure ((), { t with calls := t.calls ++ [e] }) := rfl

@[simp] theorem run_inWorld (x : StateM ρ α) (t : Trace ρ) :
    (inWorld x).run t = pure ((x.run t.world).1, { t with world := (x.run t.world).2 }) := rfl

end Trace

variable {ρ : Type}

/-- The suite whose collaborators note every call they get: a runner that notes the case, then
acts as `run` on the world, a reporter, and a progress display when `display` is set. -/
def Suite.recorder (config : Config) (run : Case → StateM ρ CaseResult) (display : Bool) :
    Suite (StateM (Trace ρ)) where
  config
  runner c := do
    Trace.note (.run c)
    Trace.inWorld (run c)
  reporter := ⟨fun c => Trace.note (.started c), fun r => Trace.note (.finished r),
    fun o => Trace.note (.summary o)⟩
  progress := if display then some ⟨fun s f => Trace.note (.update s f), Trace.note .finish⟩
    else none

/-- The context that has ended when `cancelled` says so of the world. -/
def Context.watching (cancelled : ρ → Option Failure) : Context (StateM (Trace ρ)) :=
  ⟨do return cancelled (← get).world⟩

@[simp] theorem Context.run_watching (cancelled : ρ → Option Failure) (t : Trace ρ) :
    (Context.watching cancelled).err.run t = pure (cancelled t.world, t) := rfl

section Recorded

variable (config : Config) (run : Case → StateM ρ CaseResult) (display : Bool)
  (cancelled : ρ → Option Failure)

/-- The calls for one case that ran, `done` being the results so far with its own last: the case
reported started, handed to the runner, its result reported, and the progress display moved to
the numbers of passed and failed cases among `done`. -/
def block (c : Case) (r : CaseResult) (done : List CaseResult) : List Call :=
  [.started c, .run c, .finished r] ++
    if display then [.update (done.countP CaseResult.passed) (done.length - done.countP CaseResult.passed)]
    else []

/-- The calls for the cases `cs` with results `rs`, after the results `done`. -/
def trail : List CaseResult → List Case → List CaseResult → List Call
  | done, c :: cs, r :: rs => block display c r (done ++ [r]) ++ trail (done ++ [r]) cs rs
  | _, _, _ => []

theorem trail_invoked : ∀ (done : List CaseResult) (cs : List Case) (rs : List CaseResult),
    cs.length = rs.length → (trail display done cs rs).filterMap Call.invoked = cs
  | _, [], [], _ => rfl
  | done, c :: cs, r :: rs, h => by
    have ih := trail_invoked (done ++ [r]) cs rs (by simpa using h)
    cases display <;> simp [trail, block, List.filterMap_cons, Call.invoked, ih]

theorem executeFrom_nil {o : Outcome} {w : ρ} {cl : List Call} :
    ((Suite.recorder config run display).executeFrom (Context.watching cancelled) [] o).run
      ⟨w, cl⟩ = pure ((o, none), ⟨w, cl ++ [.summary o]⟩) := by
  simp [Suite.executeFrom, Suite.recorder]

theorem executeFrom_cancelled {c : Case} {cs : List Case} {o : Outcome} {w : ρ} {cl : List Call}
    {e : Failure} (hc : cancelled w = some e) :
    ((Suite.recorder config run display).executeFrom (Context.watching cancelled) (c :: cs) o).run
      ⟨w, cl⟩ = pure ((o, some e), ⟨w, cl⟩) := by
  simp [Suite.executeFrom, hc]

/-- One case of a run whose context goes on: the case runs, and either the run aborts on its
failure or it goes on with the next cases. -/
theorem executeFrom_step {c : Case} {cs : List Case} {o : Outcome} {done : List CaseResult}
    {w w' : ρ} {cl : List Call} {r : CaseResult} (ho : o.Tallies done) (hc : cancelled w = none)
    (hr : (run c).run w = (r, w')) :
    ((Suite.recorder config run display).executeFrom (Context.watching cancelled) (c :: cs) o).run
      ⟨w, cl⟩ =
      if !r.passed && config.stopOnFirstFailure then
        pure (((o.record r).abort, none), ⟨w', cl ++ block display c r (done ++ [r])⟩)
      else ((Suite.recorder config run display).executeFrom (Context.watching cancelled) cs
        (o.record r)).run ⟨w', cl ++ block display c r (done ++ [r])⟩ := by
  by_cases hs : r.passed = false ∧ config.stopOnFirstFailure = true <;> cases display <;>
    simp [Suite.executeFrom, hc, hr, hs, Suite.recorder, block, ho.succeeded, ho.total]

theorem trail_concat (c : Case) (r : CaseResult) :
    ∀ (done : List CaseResult) (cs : List Case) (rs : List CaseResult), cs.length = rs.length →
    trail display done (cs ++ [c]) (rs ++ [r]) =
      trail display done cs rs ++ block display c r (done ++ rs ++ [r])
  | done, [], [], _ => by simp [trail]
  | done, c' :: cs, r' :: rs, h => by
    have ih := trail_concat c r (done ++ [r']) cs rs (by simpa using h)
    simp only [List.cons_append, trail, ih, List.append_assoc, List.nil_append]

theorem run_mapM_cons (c : Case) (cs : List Case) (w : ρ) :
    ((c :: cs).mapM run).run w =
      (((run c).run w).1 :: ((cs.mapM run).run ((run c).run w).2).1,
        ((cs.mapM run).run ((run c).run w).2).2) := by
  simp [List.mapM_cons]

theorem run_mapM_append (xs ys : List Case) (w : ρ) :
    ((xs ++ ys).mapM run).run w =
      (((xs.mapM run).run w).1 ++ ((ys.mapM run).run ((xs.mapM run).run w).2).1,
        ((ys.mapM run).run ((xs.mapM run).run w).2).2) := by
  induction xs generalizing w with
  | nil => rfl
  | cons c xs ih => simp only [List.cons_append, run_mapM_cons, ih]

theorem length_run_mapM (cs : List Case) (w : ρ) : ((cs.mapM run).run w).1.length = cs.length := by
  induction cs generalizing w with
  | nil => rfl
  | cons c cs ih => simp [ih]

theorem run_mapM_take (cs : List Case) (k : Nat) (w : ρ) :
    (((cs.take k).mapM run).run w).1 = ((cs.mapM run).run w).1.take k := by
  rcases Nat.le_total k cs.length with h | h
  · have hfront : (((cs.take k).mapM run).run w).1.length = k := by
      rw [length_run_mapM, List.length_take]
      omega
    conv => rhs; rw [← List.take_append_drop k cs, run_mapM_append]
    dsimp only
    rw [List.take_append_of_le_length (Nat.le_of_eq hfront.symm),
      List.take_of_length_le (Nat.le_of_eq hfront)]
  · rw [List.take_of_length_le h, List.take_of_length_le (by rw [length_run_mapM]; exact h)]

theorem run_mapM_drop (cs : List Case) (k : Nat) (hk : k < cs.length) (w : ρ) :
    ((cs.mapM run).run w).1.drop k =
      ((run cs[k]).run (((cs.take k).mapM run).run w).2).1 ::
        (((cs.drop (k + 1)).mapM run).run ((run cs[k]).run (((cs.take k).mapM run).run w).2).2).1 := by
  have hsplit : cs = cs.take k ++ cs[k] :: cs.drop (k + 1) := by
    rw [← List.drop_eq_getElem_cons hk, List.take_append_drop]
  conv => lhs; rw [hsplit, run_mapM_append, run_mapM_cons]
  rw [List.drop_left' (by rw [length_run_mapM, List.length_take]; omega)]

theorem run_mapM_take_succ (cs : List Case) (k : Nat) (hk : k < cs.length) (w : ρ) :
    (((cs.take (k + 1)).mapM run).run w).2 =
      ((run cs[k]).run (((cs.take k).mapM run).run w).2).2 := by
  rw [List.take_succ_eq_append_getElem hk, run_mapM_append, run_mapM_cons]
  rfl

theorem lt_length_of_results_eq {cases : List Case} {w : ρ} {pre post : List CaseResult}
    {r : CaseResult} (hrs : ((cases.mapM run).run w).1 = pre ++ r :: post) :
    pre.length < cases.length := by
  have := length_run_mapM run cases w
  rw [hrs] at this
  simp at this
  omega

/-- A stretch of cases that the context lets run and where no failure stops the run: the tally
goes on counting exactly the results, and the calls are the stretch's trail. -/
theorem executeFrom_append : ∀ (pre rest : List Case) (w : ρ) (o : Outcome)
    (done : List CaseResult) (cl : List Call), o.Tallies done →
    (∀ j < pre.length, cancelled (((pre.take j).mapM run).run w).2 = none) →
    (config.stopOnFirstFailure = true → ∀ r ∈ ((pre.mapM run).run w).1, r.passed = true) →
    ∃ o', o'.Tallies (done ++ ((pre.mapM run).run w).1) ∧
      ((Suite.recorder config run display).executeFrom (Context.watching cancelled) (pre ++ rest)
        o).run ⟨w, cl⟩ =
      ((Suite.recorder config run display).executeFrom (Context.watching cancelled) rest o').run
        ⟨((pre.mapM run).run w).2, cl ++ trail display done pre ((pre.mapM run).run w).1⟩
  | [], rest, w, o, done, cl, ho, _, _ => ⟨o, by simpa using ho, by simp [trail]⟩
  | c :: pre, rest, w, o, done, cl, ho, hc, hp => by
    rcases hr : (run c).run w with ⟨r, w₁⟩
    rw [run_mapM_cons, hr] at hp ⊢
    -- the context lets the first case run, and its result does not stop the run
    have hc₀ : cancelled w = none := by simpa using hc 0 (by simp)
    have hgo : (!r.passed && config.stopOnFirstFailure) = false := by
      cases hs : config.stopOnFirstFailure
      · simp
      · simp [hp hs r (by simp)]
    rw [List.cons_append, executeFrom_step config run display cancelled ho hc₀ hr, hgo]
    have hc' : ∀ j < pre.length, cancelled (((pre.take j).mapM run).run w₁).2 = none := by
      intro j hj
      have := hc (j + 1) (by simpa using hj)
      rwa [List.take_succ_cons, run_mapM_cons, hr] at this
    have hp' : config.stopOnFirstFailure = true → ∀ r ∈ ((pre.mapM run).run w₁).1,
        r.passed = true := fun hs r' hr' => hp hs r' (by simp [hr'])
    obtain ⟨o', ho', heq⟩ := executeFrom_append pre rest w₁ (o.record r) (done ++ [r])
      (cl ++ block display c r (done ++ [r])) (ho.record r) hc' hp'
    refine ⟨o', by simpa using ho', ?_⟩
    simp only [Bool.false_eq_true, ↓reduceIte]
    rw [heq]
    simp only [trail, List.append_assoc]

/-- The first `k` cases of a run from the start, when the context lets each of them run and
no failure among them stops the run. -/
theorem executeFrom_take (cases : List Case) (k : Nat) (w : ρ) (cl : List Call)
    (hc : ∀ j < k, cancelled (((cases.take j).mapM run).run w).2 = none)
    (hp : config.stopOnFirstFailure = true →
      ∀ r ∈ ((cases.mapM run).run w).1.take k, r.passed = true) :
    ∃ o, o.Tallies (((cases.mapM run).run w).1.take k) ∧
      ((Suite.recorder config run display).executeFrom (Context.watching cancelled) cases
        Outcome.empty).run ⟨w, cl⟩ =
      ((Suite.recorder config run display).executeFrom (Context.watching cancelled) (cases.drop k)
        o).run ⟨(((cases.take k).mapM run).run w).2,
          cl ++ trail display [] (cases.take k) (((cases.mapM run).run w).1.take k)⟩ := by
  have hc' : ∀ j < (cases.take k).length,
      cancelled ((((cases.take k).take j).mapM run).run w).2 = none := by
    intro j hj
    rw [List.take_take, Nat.min_eq_left (by rw [List.length_take] at hj; omega)]
    exact hc j (by rw [List.length_take] at hj; omega)
  have hp' : config.stopOnFirstFailure = true →
      ∀ r ∈ (((cases.take k).mapM run).run w).1, r.passed = true := by
    rw [run_mapM_take]
    exact hp
  obtain ⟨o, ho, heq⟩ := executeFrom_append config run display cancelled (cases.take k)
    (cases.drop k) w Outcome.empty [] cl Outcome.tallies_empty hc' hp'
  rw [run_mapM_take] at ho heq
  rw [List.nil_append] at ho
  rw [List.take_append_drop] at heq
  exact ⟨o, ho, heq⟩

def finishCalls : List Call :=
  if display then [.finish] else []

theorem execute_run {cases : List Case} {w : ρ} {cl : List Call}
    {res : Outcome × Option Failure} {t : Trace ρ}
    (h : ((Suite.recorder config run display).executeFrom (Context.watching cancelled) cases
      Outcome.empty).run ⟨w, cl⟩ = (res, t)) :
    ((Suite.recorder config run display).execute (Context.watching cancelled) cases).run ⟨w, cl⟩ =
      (res, { t with calls := t.calls ++ finishCalls display }) := by
  simp only [Suite.execute, StateT.run_bind, h]
  cases display <;> simp [Suite.recorder, finishCalls]

theorem finishCalls_invoked : (finishCalls display).filterMap Call.invoked = [] := by
  cases display <;> rfl

/-- A run that the context lets through and where no failure stops it runs every case, then
reports the tally of all the results. -/
theorem execute_runs_through (cases : List Case) (w : ρ)
    (hp : config.stopOnFirstFailure = true → ∀ r ∈ ((cases.mapM run).run w).1, r.passed = true)
    (hc : ∀ j < cases.length, cancelled (((cases.take j).mapM run).run w).2 = none) :
    ∃ o, o.Tallies ((cases.mapM run).run w).1 ∧
      ((Suite.recorder config run display).execute (Context.watching cancelled) cases).run
        ⟨w, []⟩ = ((o, none), ⟨((cases.mapM run).run w).2,
          trail display [] cases ((cases.mapM run).run w).1 ++ [.summary o] ++
            finishCalls display⟩) := by
  have hall : ((cases.mapM run).run w).1.take cases.length = ((cases.mapM run).run w).1 :=
    List.take_of_length_le (Nat.le_of_eq (length_run_mapM run cases w))
  obtain ⟨o, ho, heq⟩ := executeFrom_take config run display cancelled cases cases.length w []
    hc (by rw [hall]; exact hp)
  rw [hall] at ho heq
  rw [List.drop_length, List.take_length, executeFrom_nil, List.nil_append] at heq
  exact ⟨o, ho, execute_run config run display cancelled heq⟩

/-- A run that the context lets cancel before case `i`, no failure having stopped it, gives the
tally of the first `i` results and the context's error. -/
theorem execute_cancelled (cases : List Case) (w : ρ) {i : Nat} (hi : i < cases.length)
    {e : Failure} (he : cancelled (((cases.take i).mapM run).run w).2 = some e)
    (hc : ∀ j < i, cancelled (((cases.take j).mapM run).run w).2 = none)
    (hp : config.stopOnFirstFailure = true →
      ∀ r ∈ ((cases.mapM run).run w).1.take i, r.passed = true) :
    ∃ o, o.Tallies (((cases.mapM run).run w).1.take i) ∧
      ((Suite.recorder config run display).execute (Context.watching cancelled) cases).run
        ⟨w, []⟩ = ((o, some e), ⟨(((cases.take i).mapM run).run w).2,
          trail display [] (cases.take i) (((cases.mapM run).run w).1.take i) ++
            finishCalls display⟩) := by
  obtain ⟨o, ho, heq⟩ := executeFrom_take config run display cancelled cases i w [] hc hp
  rw [List.drop_eq_getElem_cons hi, executeFrom_cancelled config run display cancelled he,
    List.nil_append] at heq
  exact ⟨o, ho, execute_run config run display cancelled heq⟩

/-- A run that stops at the first failure, where the context lets every case up to the first
failing result run, aborts right after that case with the results up to it tallied. -/
theorem execute_aborts (cases : List Case) (w : ρ) (hs : config.stopOnFirstFailure = true)
    {pre post : List CaseResult} {r : CaseResult}
    (hrs : ((cases.mapM run).run w).1 = pre ++ r :: post) (hpre : ∀ x ∈ pre, x.passed = true)
    (hr : r.passed = false)
    (hc : ∀ j ≤ pre.length, cancelled (((cases.take j).mapM run).run w).2 = none) :
    ∃ o : Outcome, o.Tallies (pre ++ [r]) ∧
      ((Suite.recorder config run display).execute (Context.watching cancelled) cases).run
        ⟨w, []⟩ = ((o.abort, none), ⟨(((cases.take (pre.length + 1)).mapM run).run w).2,
          trail display [] (cases.take (pre.length + 1)) (pre ++ [r]) ++ finishCalls display⟩) := by
  have hk : pre.length < cases.length := lt_length_of_results_eq run hrs
  have htake : ((cases.mapM run).run w).1.take pre.length = pre := by
    rw [hrs, List.take_left']
    rfl
  obtain ⟨o, ho, heq⟩ := executeFrom_take config run display cancelled cases pre.length w []
    (fun j hj => hc j (Nat.le_of_lt hj)) (by rw [htake]; exact fun _ => hpre)
  rw [htake] at ho heq
  rw [List.nil_append] at heq
  -- the first failing case is handed the world the cases before it leave, and answers `r`
  have hdrop := run_mapM_drop run cases pre.length hk w
  rw [hrs, List.drop_left' rfl, List.cons.injEq] at hdrop
  rcases hrun : (run cases[pre.length]).run (((cases.take pre.length).mapM run).run w).2 with
    ⟨r', w'⟩
  rw [hrun] at hdrop
  obtain ⟨rfl, -⟩ := hdrop
  rw [List.drop_eq_getElem_cons hk, executeFrom_step config run display cancelled ho
    (hc pre.length (Nat.le_refl _)) hrun] at heq
  simp only [hr, hs, Bool.not_false, Bool.and_self, ↓reduceIte, id_pure_eq] at heq
  have hworld : (((cases.take (pre.length + 1)).mapM run).run w).2 = w' := by
    rw [run_mapM_take_succ run cases _ hk, hrun]
  have hcalls : trail display [] (cases.take (pre.length + 1)) (pre ++ [r]) =
      trail display [] (cases.take pre.length) pre ++
        block display cases[pre.length] r (pre ++ [r]) := by
    rw [List.take_succ_eq_append_getElem hk, trail_concat _ _ _ _ _ _
      (by rw [List.length_take]; omega), List.nil_append]
  refine ⟨o.record r, ho.record r, ?_⟩
  rw [hworld, hcalls]
  exact execute_run config run display cancelled heq

/-- How a run over `cases` ends, for every runner (`run`, with the world it acts on) and every
context. Write `rs` for the results the runner gives when handed the cases one after another,
and `before j` for the world it is handed case `j` in. When the run stops at the first failure
and `r` is the first failing result, the runner gets exactly the cases up to `r`'s, and the run
is aborted with those results tallied. When no failure stops it, the runner gets every case
once, in order, and the tally counts all the results. Either way the context's error is none,
as long as the context has not ended before a case; when it ends before case `i`, the runner
gets only the cases before it, and the run gives their tally and the context's error. -/
theorem execute_tally_and_runner_calls (cases : List Case) (w : ρ) :
    let rs := ((cases.mapM run).run w).1
    let before := fun j => (((cases.take j).mapM run).run w).2
    let result :=
      ((Suite.recorder config run display).execute (Context.watching cancelled) cases).run ⟨w, []⟩
    let invoked := result.2.calls.filterMap Call.invoked
    (config.stopOnFirstFailure = true → ∀ pre r post, rs = pre ++ r :: post →
        (∀ x ∈ pre, x.passed = true) → r.passed = false →
        (∀ j ≤ pre.length, cancelled (before j) = none) →
        invoked = cases.take (pre.length + 1) ∧ result.1.2 = none ∧
        result.1.1.total = pre.length + 1 ∧ result.1.1.succeeded = pre.length ∧
        result.1.1.failed = [r] ∧ result.1.1.aborted = true ∧ result.1.1.exitCode = 255) ∧
    ((config.stopOnFirstFailure = true → ∀ x ∈ rs, x.passed = true) →
        (∀ j < cases.length, cancelled (before j) = none) →
        invoked = cases ∧ result.1.2 = none ∧ result.1.1.total = cases.length ∧
        result.1.1.succeeded = rs.countP CaseResult.passed ∧
        result.1.1.failed = rs.filter (fun x => !x.passed) ∧ result.1.1.aborted = false ∧
        result.1.1.exitCode = if 0 < cases.length ∧ ∀ x ∈ rs, x.passed = true then 0 else 1) ∧
    (∀ i < cases.length, ∀ e, cancelled (before i) = some e →
        (∀ j < i, cancelled (before j) = none) →
        (config.stopOnFirstFailure = true → ∀ x ∈ rs.take i, x.passed = true) →
        invoked = cases.take i ∧ result.1.2 = some e ∧ result.1.1.Tallies (rs.take i)) := by
  intro rs before result invoked
  refine ⟨fun hs pre r post hrs hpre hr hc => ?_, fun hp hc => ?_, fun i hi e he hc hp => ?_⟩
  · obtain ⟨o, ho, heq⟩ := execute_aborts config run display cancelled cases w hs hrs hpre hr hc
    have hk : pre.length < cases.length := lt_length_of_results_eq run hrs
    have hpass : (pre ++ [r]).countP CaseResult.passed = pre.length := by
      simp [List.countP_eq_length.2 hpre, hr]
    have hpre' : pre.filter (fun x => !x.passed) = [] :=
      List.filter_eq_nil_iff.2 fun x hx => by simp [hpre x hx]
    have hfail : (pre ++ [r]).filter (fun x => !x.passed) = [r] := by
      simp [hpre', hr]
    simp only [invoked, result, heq, List.filterMap_append, finishCalls_invoked, List.append_nil]
    refine ⟨trail_invoked display _ _ _ (by simp; omega), trivial, ?_, ?_, ?_, rfl, rfl⟩
    · simp [Outcome.abort, ho.total]
    · simp [Outcome.abort, ho.succeeded, hpass]
    · simp only [Outcome.abort, ho.failed, hfail]
  · obtain ⟨o, ho, heq⟩ := execute_runs_through config run display cancelled cases w hp hc
    simp only [invoked, result, heq, List.filterMap_append, finishCalls_invoked, List.append_nil]
    refine ⟨?_, trivial, by rw [ho.total, length_run_mapM], ho.succeeded, ho.failed, ho.running,
      ?_⟩
    · simp [trail_invoked display _ _ _ (length_run_mapM run cases w).symm, Call.invoked]
    · rw [ho.exitCode, length_run_mapM]
  · obtain ⟨o, ho, heq⟩ := execute_cancelled config run display cancelled cases w hi he hc hp
    simp only [invoked, result, heq, List.filterMap_append, finishCalls_invoked, List.append_nil]
    refine ⟨trail_invoked display _ _ _ ?_, trivial, ho⟩
    simp [length_run_mapM]

/-- When a run stops at the first failure, every tally it reports has no failed case: a failing
result ends the run before any tally is reported. -/
theorem executeFrom_summary_of_stop (hs : config.stopOnFirstFailure = true) :
    ∀ (cs : List Case) (w : ρ) (o : Outcome) (done : List CaseResult) (cl : List Call),
    o.Tallies done → o.failed = [] → ∀ o',
    .summary o' ∈ (((Suite.recorder config run display).executeFrom (Context.watching cancelled) cs
      o).run ⟨w, cl⟩).2.calls → .summary o' ∈ cl ∨ o'.failed = [] ∧ o'.succeeded = o'.total
  | [], w, o, done, cl, ho, hf, o', h => by
    rw [executeFrom_nil] at h
    simp only [id_pure_eq, List.mem_append, List.mem_singleton, Call.summary.injEq] at h
    rcases h with h | rfl
    · exact .inl h
    · exact .inr ⟨hf, ho.succeeded_eq_total hf⟩
  | c :: cs, w, o, done, cl, ho, hf, o', h => by
    rcases hc : cancelled w with _ | e
    · rcases hr : (run c).run w with ⟨r, w'⟩
      rw [executeFrom_step config run display cancelled ho hc hr] at h
      -- the block of a case holds no tally, so a tally comes from before it or from later cases
      have hblock : .summary o' ∉ block display c r (done ++ [r]) := by
        cases display <;> simp [block]
      by_cases hp : r.passed = true
      · have hf' : (o.record r).failed = [] := by simp [hf, hp]
        simp only [hp, Bool.not_true, Bool.false_and, Bool.false_eq_true, ↓reduceIte] at h
        rcases executeFrom_summary_of_stop hs cs w' (o.record r) (done ++ [r]) _ (ho.record r) hf'
          o' h with h | h
        · rcases List.mem_append.1 h with h | h
          · exact .inl h
          · exact absurd h hblock
        · exact .inr h
      · simp only [hp, hs, Bool.not_false, Bool.and_self, ↓reduceIte, id_pure_eq,
          List.mem_append] at h
        rcases h with h | h
        · exact .inl h
        · exact absurd h hblock
    · rw [executeFrom_cancelled config run display cancelled hc] at h
      exact .inl h

end Recorded

namespace Suite

variable {σ : Type}

/-- A run whose preparation fails ends where the preparation left it, with the empty tally and
the failure: no case runs and nothing is reported or shown. -/
theorem run_of_prepare_error {s : Suite (SessionM σ)} {ctx : Context (SessionM σ)}
    {groups : List Group} {S S' : Session σ} {f : Failure}
    (h : (s.prepare groups).run S = (.error f, S')) :
    (s.run ctx groups).run S = ((Outcome.empty, some f), S') := by
  simp [Suite.run, h]

/-- A run whose preparation plans `cases` executes them from where the preparation left it. -/
theorem run_of_prepare_ok {s : Suite (SessionM σ)} {ctx : Context (SessionM σ)}
    {groups : List Group} {S : Session σ} {cases : List Case}
    (h : ((s.prepare groups).run S).1 = .ok cases) :
    (s.run ctx groups).run S = (s.execute ctx cases).run ((s.prepare groups).run S).2 := by
  simp only [Suite.run, StateT.run_bind, id_bind_eq, h]

end Suite


/-- The calls a run makes on its collaborators, in order, for every runner and every context:
for each case it runs, that the case started, the case itself to the runner, how the case
ended, and the numbers of passed and failed cases among the results so far; the tally exactly
when the run went through every case; and the progress display finished last, however the run
ended. When the run stops at the first failure, every tally it reports has no failed case, so
the console shows no `Failed:` section. A run whose preparation fails makes no call at all: it
ends where the preparation left it. -/
theorem execute_report_calls {ρ : Type} (config : Config) (run : Case → StateM ρ CaseResult)
    (display : Bool) (cancelled : ρ → Option Failure) (cases : List Case) (w : ρ) :
    let rs := ((cases.mapM run).run w).1
    let before := fun j => (((cases.take j).mapM run).run w).2
    let result :=
      ((Suite.recorder config run display).execute (Context.watching cancelled) cases).run ⟨w, []⟩
    (config.stopOnFirstFailure = true → ∀ pre r post, rs = pre ++ r :: post →
        (∀ x ∈ pre, x.passed = true) → r.passed = false →
        (∀ j ≤ pre.length, cancelled (before j) = none) →
        result.2.calls =
          trail display [] (cases.take (pre.length + 1)) (pre ++ [r]) ++ finishCalls display) ∧
    ((config.stopOnFirstFailure = true → ∀ x ∈ rs, x.passed = true) →
        (∀ j < cases.length, cancelled (before j) = none) →
        result.2.calls =
          trail display [] cases rs ++ [.summary result.1.1] ++ finishCalls display) ∧
    (∀ i < cases.length, ∀ e, cancelled (before i) = some e →
        (∀ j < i, cancelled (before j) = none) →
        (config.stopOnFirstFailure = true → ∀ x ∈ rs.take i, x.passed = true) →
        result.2.calls = trail display [] (cases.take i) (rs.take i) ++ finishCalls display) ∧
    (config.stopOnFirstFailure = true → ∀ o, .summary o ∈ result.2.calls →
        o.failed = [] ∧ o.succeeded = o.total ∧ Console.failedSection o = "") ∧
    (∀ (σ : Type) (s : Suite (SessionM σ)) (ctx : Context (SessionM σ)) (groups : List Group)
        (S S' : Session σ) (f : Failure), (s.prepare groups).run S = (.error f, S') →
        (s.run ctx groups).run S = ((Outcome.empty, some f), S')) := by
  intro rs before result
  refine ⟨fun hs pre r post hrs hpre hr hc => ?_, fun hp hc => ?_, fun i hi e he hc hp => ?_,
    fun hs o ho => ?_, fun _ _ _ _ _ _ _ h => Suite.run_of_prepare_error h⟩
  · obtain ⟨o, -, heq⟩ := execute_aborts config run display cancelled cases w hs hrs hpre hr hc
    simp only [result, heq]
  · obtain ⟨o, -, heq⟩ := execute_runs_through config run display cancelled cases w hp hc
    simp only [result, rs, heq]
  · obtain ⟨o, -, heq⟩ := execute_cancelled config run display cancelled cases w hi he hc hp
    simp only [result, rs, heq]
  · -- the finishing call holds no tally, so the tally is one the cases reported
    rcases hrun : ((Suite.recorder config run display).executeFrom (Context.watching cancelled)
      cases Outcome.empty).run ⟨w, []⟩ with ⟨res, t⟩
    have hfinish : .summary o ∉ finishCalls display := by
      cases display <;> simp [finishCalls]
    simp only [result, execute_run config run display cancelled hrun, List.mem_append] at ho
    rcases ho with ho | ho
    · have := executeFrom_summary_of_stop config run display cancelled hs cases w Outcome.empty []
        [] Outcome.tallies_empty rfl o (by rw [hrun]; exact ho)
      rcases this with h | ⟨hf, hs'⟩
      · simp at h
      · exact ⟨hf, hs', by simp [Console.failedSection, hf]⟩
    · exact absurd ho hfinish

end Regress

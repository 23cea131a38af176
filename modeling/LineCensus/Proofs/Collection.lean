/-
# Proofs.Collection -- a corpus is its files one by one

Files are measured in turn or by a pool, by two loops that each ask before every file
whether the run is cancelled.  Both come to the files before the cancel, each measured
alone, in the order of the paths:

* `beforeCancel` are those files, and both loops meet its equation
  (`beforeCancel_cons`);
* `collect_result` is the result of either, up to the first fault;
* `collect_outcomes` says it of the outcomes, and that the number of workers, the
  threshold and the course of the pool change no result, up to the report.
-/
import LineCensus.Proofs.Pool
import LineCensus.Proofs.Step
import LineCensus.Report.Analyze

set_option autoImplicit false

namespace LineCensus
namespace Corpus

/-! ## The files before the cancel -/

/-- How many of `count` files are measured when a run counts as cancelled after a
number of questions. -/
def admitted (cancelAfter : Option Nat) (count : Nat) : Nat :=
  match cancelAfter with
  | some limit => min limit count
  | none => count

/-- The files that are still measured when `polls` questions have been asked. -/
def beforeCancel (cancelAfter : Option Nat) (polls : Nat) (paths : List String) : List String :=
  match cancelAfter with
  | some limit => paths.take (limit - polls)
  | none => paths

theorem beforeCancel_nil (cancelAfter : Option Nat) (polls : Nat) :
    beforeCancel cancelAfter polls [] = [] := by
  cases cancelAfter with
  | none => rfl
  | some limit => exact List.take_nil

theorem beforeCancel_cons (cancelAfter : Option Nat) (polls : Nat) (path : String)
    (rest : List String) :
    beforeCancel cancelAfter polls (path :: rest) =
      if isCancelled cancelAfter polls then []
      else path :: beforeCancel cancelAfter (polls + 1) rest := by
  cases cancelAfter with
  | none => rfl
  | some limit =>
      simp only [beforeCancel, isCancelled, decide_eq_true_eq]
      split
      · rename_i exhausted
        rw [Nat.sub_eq_zero_of_le exhausted, List.take_zero]
      · obtain ⟨left, more⟩ : ∃ left, limit - polls = left + 1 := ⟨limit - polls - 1, by omega⟩
        rw [more, List.take_succ_cons, show limit - (polls + 1) = left by omega]

theorem beforeCancel_eq_take (cancelAfter : Option Nat) (paths : List String) :
    beforeCancel cancelAfter 0 paths = paths.take (admitted cancelAfter paths.length) := by
  cases cancelAfter with
  | none => rw [admitted, List.take_length, beforeCancel]
  | some limit =>
      simp only [beforeCancel, admitted, Nat.sub_zero]
      rw [List.take_eq_take_iff]
      omega

/-! ## Both loops -/

variable (disk : Disk) (settings : Settings) (cancelAfter : Option Nat)

theorem measureInTurn_result (count : Nat) (done : List Outcome) (paths : List String) :
    (measureInTurn disk settings cancelAfter count done paths).result =
      ((beforeCancel cancelAfter done.length paths).mapM fun path =>
        (measure disk settings path).result).map (done.reverse ++ ·) := by
  induction paths generalizing done with
  | nil =>
      rw [beforeCancel_nil, List.mapM_nil]
      exact congrArg Except.ok (List.append_nil _).symm
  | cons path rest ih =>
      rw [measureInTurn, beforeCancel_cons]
      split
      · rw [List.mapM_nil]
        exact congrArg Except.ok (List.append_nil _).symm
      · rw [Logged.bind_result, List.mapM_cons]
        cases (measure disk settings path).result with
        | error fault => rfl
        | ok outcome =>
            have next := ih (outcome :: done)
            rw [List.length_cons] at next
            simp only [Except.bind, bind, next]
            cases (beforeCancel cancelAfter (done.length + 1) rest).mapM
                fun path => (measure disk settings path).result with
            | error fault => rfl
            | ok outcomes => simp [Except.map, pure, Except.pure]

theorem enqueue_result (count : Nat) (submitted : List (Logged Outcome)) (paths : List String) :
    (enqueue disk settings cancelAfter count submitted paths).result =
      .ok (submitted.reverse ++
        (beforeCancel cancelAfter submitted.length paths).map (measure disk settings)) := by
  induction paths generalizing submitted with
  | nil =>
      rw [beforeCancel_nil, List.map_nil, List.append_nil]
      rfl
  | cons path rest ih =>
      rw [enqueue, beforeCancel_cons]
      split
      · rw [List.map_nil, List.append_nil]
        rfl
      · rw [ih]
        simp

/-- The outcomes of the files before the cancel, up to the first fault: what both
loops come to. -/
def outcomesOf (paths : List String) : Except Fault (List Outcome) :=
  (beforeCancel cancelAfter 0 paths).mapM fun path => (measure disk settings path).result

theorem collectInTurn_result (paths : List String) :
    (collectInTurn disk settings cancelAfter paths).result =
      outcomesOf disk settings cancelAfter paths := by
  rw [collectInTurn, measureInTurn_result, outcomesOf]
  cases (beforeCancel cancelAfter 0 paths).mapM fun path => (measure disk settings path).result
    <;> rfl

theorem collectInPool_result (workers : Workers) (paths : List String) :
    (collectInPool disk settings workers cancelAfter paths).result =
      outcomesOf disk settings cancelAfter paths := by
  rw [collectInPool, Logged.bind_result, enqueue_result]
  simp only [Except.bind, Pool.run_result, List.reverse_nil, List.nil_append, List.length_nil]
  rw [outcomesOf, List.mapM_map]
  rfl

/-- Either loop gives the outcomes of the files before the cancel. -/
theorem collect_result (workers : Workers) (paths : List String) :
    (collect disk settings workers cancelAfter paths).result =
      (outcomesOf disk settings cancelAfter paths).map Collection.ofOutcomes := by
  rw [collect]
  split
  · rw [Logged.bind_result, collectInPool_result]
    cases outcomesOf disk settings cancelAfter paths <;> rfl
  · rw [Logged.bind_result, collectInTurn_result]
    cases outcomesOf disk settings cancelAfter paths <;> rfl

/-- The outcomes that a collection is made of. -/
theorem collect_eq_ok_iff (workers : Workers) (paths : List String) (collection : Collection) :
    (collect disk settings workers cancelAfter paths).result = .ok collection ↔
      ∃ outcomes : List Outcome,
        List.Forall₂ (fun path outcome => (measure disk settings path).result = .ok outcome)
          (beforeCancel cancelAfter 0 paths) outcomes ∧
        collection = Collection.ofOutcomes outcomes := by
  rw [collect_result]
  simp only [← mapM_eq_ok_iff]
  change (outcomesOf disk settings cancelAfter paths).map Collection.ofOutcomes = .ok collection ↔
    ∃ outcomes, outcomesOf disk settings cancelAfter paths = .ok outcomes ∧
      collection = Collection.ofOutcomes outcomes
  cases outcomesOf disk settings cancelAfter paths with
  | error fault => simp [Except.map]
  | ok outcomes => simp [Except.map, eq_comm]

end Corpus

/-! ## What does not depend on the workers -/

variable (disk : Disk) (settings : Settings) (cancelAfter : Option Nat)

theorem CorpusSurvey.ofPaths_result (workers : Workers) (paths : List String) :
    (CorpusSurvey.ofPaths disk settings workers cancelAfter paths).result =
      (Corpus.collect disk settings workers cancelAfter paths).result.bind
        CorpusSurvey.ofCollection := by
  rw [CorpusSurvey.ofPaths, Logged.bind_result]
  congr 1
  funext collection
  split <;> rfl

/-- The settings with other workers and another threshold. -/
def Settings.withWorkers (settings : Settings) (workers threshold : Value) : Settings :=
  { settings with workers, parallelThreshold := threshold }

theorem collect_withWorkers (workers workers' : Workers) (number threshold : Value)
    (paths : List String) :
    (Corpus.collect disk (settings.withWorkers number threshold) workers' cancelAfter
        paths).result =
      (Corpus.collect disk settings workers cancelAfter paths).result := by
  rw [Corpus.collect_result, Corpus.collect_result]
  rfl

theorem survey_withWorkers (workers workers' : Workers) (number threshold : Value)
    (paths : List String) :
    (CorpusSurvey.ofPaths disk (settings.withWorkers number threshold) workers' cancelAfter
        paths).result =
      (CorpusSurvey.ofPaths disk settings workers cancelAfter paths).result := by
  rw [CorpusSurvey.ofPaths_result, CorpusSurvey.ofPaths_result,
    collect_withWorkers disk settings cancelAfter workers workers']

theorem analyze_withWorkers (workers workers' : Workers) (number threshold : Value)
    (sources manifests : List String) :
    (Report.analyze disk (settings.withWorkers number threshold) workers' cancelAfter sources
        manifests).result =
      (Report.analyze disk settings workers cancelAfter sources manifests).result := by
  unfold Report.analyze
  simp only [Logged.bind_result, survey_withWorkers disk settings cancelAfter workers workers']
  rfl

/-- **Measuring a corpus gives the outcomes of its files, each measured alone, in the
order of the paths, up to the cancel, whatever the pool does.**  Nor do the number of
workers, the threshold and the course of the pool change the result of a collection,
of the totals or of a report. -/
theorem collect_outcomes (paths : List String) :
    (∀ (workers : Workers) (collection : Collection),
      (Corpus.collect disk settings workers cancelAfter paths).result = .ok collection ↔
        ∃ outcomes : List Outcome,
          List.Forall₂
            (fun path outcome => (Corpus.measure disk settings path).result = .ok outcome)
            (paths.take (Corpus.admitted cancelAfter paths.length)) outcomes ∧
          collection.measured = outcomes.filterMap Collection.measured? ∧
          collection.skipped = outcomes.filterMap Collection.skipped?) ∧
    (∀ (workers workers' : Workers) (number threshold : Value),
      (Corpus.collect disk (settings.withWorkers number threshold) workers' cancelAfter
          paths).result =
        (Corpus.collect disk settings workers cancelAfter paths).result ∧
      (CorpusSurvey.ofPaths disk (settings.withWorkers number threshold) workers' cancelAfter
          paths).result =
        (CorpusSurvey.ofPaths disk settings workers cancelAfter paths).result ∧
      ∀ manifests,
        (Report.analyze disk (settings.withWorkers number threshold) workers' cancelAfter paths
            manifests).result =
          (Report.analyze disk settings workers cancelAfter paths manifests).result) := by
  refine ⟨fun workers collection => ?_, fun workers workers' number threshold => ⟨?_, ?_, ?_⟩⟩
  · rw [Corpus.collect_eq_ok_iff, Corpus.beforeCancel_eq_take]
    refine exists_congr fun outcomes => and_congr_right fun _ => ?_
    cases collection
    rw [Collection.ofOutcomes, Collection.mk.injEq]
  · exact collect_withWorkers disk settings cancelAfter workers workers' number threshold paths
  · exact survey_withWorkers disk settings cancelAfter workers workers' number threshold paths
  · exact analyze_withWorkers disk settings cancelAfter workers workers' number threshold paths

end LineCensus

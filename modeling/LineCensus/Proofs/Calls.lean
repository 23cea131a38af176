/-
# Proofs.Calls -- a tracker under calls in any order

A tracker can be fed any tags with any numbers, and a file can end at any time, so it reaches
more states than files lead it to.  What it has closed it never looks at again, and the end of a
file leaves nothing open at depth zero.  So a tracker goes on behind the end of a file as a new
one does (`Tracker.finish_eq_after`), and all its calls are told by those of each file.

* `Nested.run`: the blocks lie one in the other in every state that calls lead to.
* `begun_feed`, `begun_run`: every line that opens a method or a class is paid for by one extent
  or one open block.
* `calls_accounted`: both, and what comes of the files that the calls are cut into.
-/
import LineCensus.Proofs.Splicing
import Mathlib.Data.List.DropRight

set_option autoImplicit false

namespace LineCensus

/-- A call on a tracker: a line, by its tag and its number, or the end of a file. -/
inductive TrackerCall where
  | feed (tag : LineTag) (number : Int)
  | finish
  deriving DecidableEq

namespace TrackerCall

/-- Whether a call feeds the line that begins an extent of a kind. -/
def begins (kind : Extent.Kind) : TrackerCall → Bool
  | .feed tag _ => tag = kind.openingTag
  | .finish => false

/-- The calls of each file, in order: those between two ends. -/
def files (calls : List TrackerCall) : List (List TrackerCall) :=
  calls.splitOn .finish

/-- The calls behind the last end of a file. -/
def latest (calls : List TrackerCall) : List TrackerCall :=
  calls.rtakeWhile (· ≠ .finish)

/-- The calls up to the last end of a file, with it. -/
def settled (calls : List TrackerCall) : List TrackerCall :=
  calls.rdropWhile (· ≠ .finish)

theorem settled_append_latest (calls : List TrackerCall) : settled calls ++ latest calls = calls :=
  List.rdropWhile_append_rtakeWhile

theorem finish_not_mem_latest (calls : List TrackerCall) : .finish ∉ latest calls := by
  intro member
  have other := List.mem_rtakeWhile_imp member
  simp at other

/-- What is settled is nothing, or ends with a file. -/
theorem settled_cases (calls : List TrackerCall) :
    settled calls = [] ∨ ∃ earlier, settled calls = earlier ++ [.finish] := by
  by_cases empty : settled calls = []
  · exact .inl empty
  · right
    have last : (settled calls).getLast empty = .finish := by
      simpa [settled] using List.rdropWhile_last_not _ calls empty
    refine ⟨(settled calls).dropLast, ?_⟩
    rw [← last, List.dropLast_append_getLast]

theorem files_of_not_mem {file : List TrackerCall} (unfinished : .finish ∉ file) :
    files file = [file] :=
  List.splitOn_eq_singleton unfinished

theorem files_append_finish (before rest : List TrackerCall) :
    files (before ++ .finish :: rest) = files before ++ files rest :=
  List.splitOnP_append_cons before rest (by decide)

/-- What holds of the calls of one file, and of calls with one file more before them, holds of
all calls. -/
theorem file_induction {P : List TrackerCall → Prop} (one : ∀ file, .finish ∉ file → P file)
    (more : ∀ file rest, .finish ∉ file → P rest → P (file ++ .finish :: rest))
    (calls : List TrackerCall) : P calls := by
  by_cases ends : .finish ∈ calls
  · obtain ⟨file, rest, cut, unfinished⟩ := List.eq_append_cons_of_mem ends
    have shorter : rest.length < calls.length := by
      simp [cut]
      omega
    rw [cut]
    exact more file rest unfinished (file_induction one more rest)
  · exact one calls ends
termination_by calls.length

end TrackerCall

namespace Tracker

open TrackerCall

/-- Make one call. -/
def call (t : Tracker) : TrackerCall → Tracker
  | .feed tag number => t.feed tag number
  | .finish => t.finish

/-- Make calls in order. -/
def run (t : Tracker) (calls : List TrackerCall) : Tracker :=
  calls.foldl call t

@[simp] theorem run_nil (t : Tracker) : t.run [] = t := rfl

@[simp] theorem run_cons (t : Tracker) (next : TrackerCall) (rest : List TrackerCall) :
    t.run (next :: rest) = (t.call next).run rest := rfl

theorem run_append (t : Tracker) (first second : List TrackerCall) :
    t.run (first ++ second) = (t.run first).run second :=
  List.foldl_append

/-! ## Every state -/

namespace Nested

variable {t : Tracker}

theorem finish (t : Tracker) : t.finish.Nested where
  strict := .nil
  within := by simp [Tracker.finish]
  highest := Nat.zero_le t.maxDepth

theorem call (nested : t.Nested) (next : TrackerCall) : (t.call next).Nested := by
  cases next with
  | feed tag number => exact nested.feed tag number
  | finish => exact Nested.finish t

/-- **Every call keeps the blocks nested.** -/
theorem run (nested : t.Nested) (calls : List TrackerCall) : (t.run calls).Nested := by
  induction calls generalizing t with
  | nil => exact nested
  | cons next rest ih => exact ih (nested.call next)

end Nested

/-! ## What is begun -/

/-- How many blocks of a kind a tracker has closed or holds open. -/
def begun (t : Tracker) (kind : Extent.Kind) : Nat :=
  t.closed.countP (·.kind = kind) + t.openBlocks.countP (·.kind = kind)

theorem begun_enter (t : Tracker) (kind? : Option Extent.Kind) (number : Int)
    (kind : Extent.Kind) :
    (t.enter kind? number).begun kind = t.begun kind + if kind? = some kind then 1 else 0 := by
  cases kind? with
  | none => simp [begun, enter]
  | some opened =>
      by_cases same : opened = kind
      · simp [begun, enter, same]
        omega
      · simp [begun, enter, same]

/-- A closing line moves a block from the open ones to the closed. -/
theorem begun_leave (t : Tracker) (number : Int) (kind : Extent.Kind) :
    (t.leave number).begun kind = t.begun kind := by
  unfold leave
  split
  · rename_i block outer shape
    split
    · by_cases same : block.kind = kind
      · simp [begun, shape, same]
        omega
      · simp [begun, shape, same]
    · simp [begun, shape]
  · simp [begun]

/-- **A line begins one block of a kind if it opens one, and no other line changes how many are
begun.** -/
theorem begun_feed (t : Tracker) (tag : LineTag) (number : Int) (kind : Extent.Kind) :
    (t.feed tag number).begun kind = t.begun kind + if tag = kind.openingTag then 1 else 0 := by
  unfold feed
  split
  · simp only [begun_enter, extentKind?_eq_some_iff]
  · rename_i opensNothing
    have other : tag ≠ kind.openingTag := by
      intro same
      apply opensNothing
      rw [same, opens_openingTag]
    rw [if_neg other, Nat.add_zero]
    split
    · exact begun_leave t number kind
    · rfl

/-- The lines of one file begin as many blocks of a kind as they open. -/
theorem begun_run (t : Tracker) {file : List TrackerCall} (unfinished : .finish ∉ file)
    (kind : Extent.Kind) : (t.run file).begun kind = t.begun kind + file.countP (begins kind) := by
  induction file generalizing t with
  | nil => simp
  | cons next rest ih =>
      have rest_unfinished := List.not_mem_of_not_mem_cons unfinished
      cases next with
      | finish => simp at unfinished
      | feed tag number =>
          rw [run_cons, ih _ rest_unfinished]
          simp only [call, begun_feed, List.countP_cons, begins, decide_eq_true_eq]
          omega

/-! ## One file after the other -/

/-- The end of a file leaves a new tracker that has kept what was found. -/
theorem finish_eq_after (t : Tracker) : t.finish = after t {} := by
  simp [finish, after]

theorem call_after (earlier t : Tracker) (next : TrackerCall) :
    (after earlier t).call next = after earlier (t.call next) := by
  cases next with
  | feed tag number => exact feed_after earlier t tag number
  | finish => rfl

theorem run_after (earlier t : Tracker) (calls : List TrackerCall) :
    (after earlier t).run calls = after earlier (t.run calls) := by
  induction calls generalizing t with
  | nil => rfl
  | cons next rest ih => rw [run_cons, call_after, ih, run_cons]

/-- Behind the end of a file, calls do what they do to a new tracker. -/
theorem run_append_finish (file rest : List TrackerCall) :
    ({} : Tracker).run (file ++ .finish :: rest) =
      after (({} : Tracker).run file) (({} : Tracker).run rest) := by
  rw [run_append, run_cons, call, finish_eq_after, run_after]

/-- What is settled has no part in the calls of the latest file. -/
theorem run_eq_after (calls : List TrackerCall) :
    ({} : Tracker).run calls =
      after (({} : Tracker).run (settled calls)) (({} : Tracker).run (latest calls)) := by
  have fresh : ({} : Tracker).run (settled calls) =
      after (({} : Tracker).run (settled calls)) {} := by
    rcases settled_cases calls with empty | ⟨earlier, ends⟩
    · rw [empty]
      rfl
    · rw [ends, run_append_finish, run_nil]
      simp [after]
  calc ({} : Tracker).run calls
      = ({} : Tracker).run (settled calls ++ latest calls) := by rw [settled_append_latest]
    _ = (after (({} : Tracker).run (settled calls)) {}).run (latest calls) := by
        rw [run_append, ← fresh]
    _ = after (({} : Tracker).run (settled calls)) (({} : Tracker).run (latest calls)) :=
        run_after _ _ _

@[simp] theorem extents_after (earlier t : Tracker) :
    (after earlier t).extents = earlier.extents ++ t.extents := by
  simp [extents, after]

/-- The extents of all calls are those of each file. -/
theorem extents_run (calls : List TrackerCall) :
    (({} : Tracker).run calls).extents =
      (files calls).flatMap fun file => (({} : Tracker).run file).extents := by
  induction calls using file_induction with
  | one file unfinished => simp [files_of_not_mem unfinished]
  | more file rest unfinished ih =>
      rw [run_append_finish, extents_after, ih, files_append_finish, files_of_not_mem unfinished]
      rfl

/-- The greatest depth of all calls is that of some file, and that of no file is greater. -/
theorem maxDepth_run (calls : List TrackerCall) :
    IsGreatest {depth | ∃ file ∈ files calls, (({} : Tracker).run file).maxDepth = depth}
      (({} : Tracker).run calls).maxDepth := by
  induction calls using file_induction with
  | one file unfinished =>
      simp [files_of_not_mem unfinished, IsGreatest, upperBounds]
  | more file rest unfinished ih =>
      have cut : files (file ++ .finish :: rest) = file :: files rest := by
        rw [files_append_finish, files_of_not_mem unfinished, List.singleton_append]
      rw [run_append_finish, cut]
      constructor
      · rcases max_choice (({} : Tracker).run file).maxDepth (({} : Tracker).run rest).maxDepth
          with first | later
        · exact ⟨file, List.mem_cons_self, first.symm⟩
        · obtain ⟨deepest, member, depth⟩ := ih.1
          exact ⟨deepest, List.mem_cons_of_mem file member, depth.trans later.symm⟩
      · rintro depth ⟨other, member, rfl⟩
        rcases List.mem_cons.1 member with rfl | member
        · exact le_max_left _ _
        · exact le_max_of_le_right (ih.2 ⟨other, member, rfl⟩)

end Tracker

open TrackerCall in
/-- **In every state that calls lead to, the books of a tracker balance.**  The depths of the open
blocks rise from the outermost to the innermost, between one and the depth of the tracker, which is
at most its greatest depth.  Since the last end of a file, as many methods (classes) have been begun
as extents of methods (classes) were recorded or are still open.  The extents are those that new
trackers record for each file, one after the other, and the greatest depth is the greatest of
theirs. -/
theorem calls_accounted (calls : List TrackerCall) :
    let t := ({} : Tracker).run calls
    t.openBlocks.Pairwise (fun inner outer => outer.depth < inner.depth) ∧
    (∀ block ∈ t.openBlocks, 1 ≤ block.depth ∧ block.depth ≤ t.depth) ∧
    t.depth ≤ t.maxDepth ∧
    (∃ recorded, t.extents = (({} : Tracker).run (settled calls)).extents ++ recorded ∧
      ∀ kind, (latest calls).countP (begins kind) =
        recorded.countP (·.kind = kind) + t.openBlocks.countP (·.kind = kind)) ∧
    t.extents = (files calls).flatMap (fun file => (({} : Tracker).run file).extents) ∧
    IsGreatest {depth | ∃ file ∈ files calls, (({} : Tracker).run file).maxDepth = depth}
      t.maxDepth := by
  have nested := Tracker.Nested.empty.run calls
  refine ⟨nested.strict, nested.within, nested.highest, ?_, Tracker.extents_run calls,
    Tracker.maxDepth_run calls⟩
  refine ⟨(({} : Tracker).run (latest calls)).extents, ?_, ?_⟩
  · rw [Tracker.run_eq_after calls, Tracker.extents_after]
  · intro kind
    have begun := Tracker.begun_run {} (finish_not_mem_latest calls) kind
    have empty : ({} : Tracker).begun kind = 0 := rfl
    rw [empty, Nat.zero_add] at begun
    rw [← begun, Tracker.run_eq_after calls, Tracker.extents, List.countP_reverse]
    rfl

/-- A class that stays open when its file ends is dropped, and a closing line behind it closes
nothing. -/
example :
    let t := ({} : Tracker).run
      [.feed .opensClass 1, .feed .opensMethod 2, .feed .closesBlock 9, .finish,
        .feed .closesBlock 4, .feed .opensMethod 5]
    t.extents = [⟨.method, 2, 9⟩] ∧ t.openBlocks = [⟨.method, 5, 1⟩] ∧ t.maxDepth = 2 := by
  decide

end LineCensus

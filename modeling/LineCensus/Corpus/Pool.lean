/-
# Corpus.Pool -- tasks done by threads, results in order

A caller submits tasks to a queue, each with its number.  Threads take the oldest
task of the queue and finish the tasks they have in any order; all of this happens
step by step and interleaved (`PoolState.step?`).  A `Schedule` is a whole course of
such steps, after which every task is finished.

The results are then taken in the order in which the tasks were submitted, waiting
for each, so the schedule can show only in the order of the log.
-/
import LineCensus.Log

set_option autoImplicit false

namespace LineCensus

/-- What can happen in a pool. -/
inductive PoolEvent where
  /-- The caller submits the next task. -/
  | submit
  /-- An idle thread takes the task that has been in the queue for longest. -/
  | take
  /-- A thread is done with the task of a number. -/
  | finish (number : Nat)
  deriving DecidableEq

/-- How far the tasks have come, by their numbers. -/
structure PoolState where
  submitted : Nat := 0
  /-- Submitted and taken by no thread, the oldest first. -/
  queue : List Nat := []
  /-- Taken by a thread. -/
  running : List Nat := []
  /-- In the order in which they were finished. -/
  finished : List Nat := []
  deriving DecidableEq

namespace PoolState

variable (threads count : Nat)

/-- One step of a pool of so many threads that is given `count` tasks. -/
def step? (state : PoolState) : PoolEvent → Option PoolState
  | .submit =>
      if state.submitted < count then
        some { state with
          submitted := state.submitted + 1
          queue := state.queue ++ [state.submitted] }
      else none
  | .take =>
      match state.queue with
      | number :: rest =>
          if state.running.length < threads then
            some { state with queue := rest, running := number :: state.running }
          else none
      | [] => none
  | .finish number =>
      if number ∈ state.running then
        some { state with
          running := state.running.erase number
          finished := state.finished ++ [number] }
      else none

def play? (state : PoolState) : List PoolEvent → Option PoolState
  | [] => some state
  | event :: rest => (state.step? threads count event).bind (·.play? rest)

/-- Every task is submitted and none is left with the queue or a thread. -/
def IsComplete (state : PoolState) : Prop :=
  state.submitted = count ∧ state.queue = [] ∧ state.running = []

theorem play?_append (state : PoolState) (first later : List PoolEvent) :
    state.play? threads count (first ++ later) =
      (state.play? threads count first).bind (·.play? threads count later) := by
  induction first generalizing state with
  | nil => rfl
  | cons event rest ih =>
      simp only [List.cons_append, play?, Option.bind_assoc]
      congr 1
      funext next
      exact ih next

end PoolState

/-- A course of events in which `count` tasks are finished. -/
structure Schedule (count : Nat) where
  threads : Nat
  events : List PoolEvent
  final : PoolState
  plays : ({} : PoolState).play? threads count events = some final
  complete : final.IsComplete count

namespace Schedule

/-- The order in which the tasks are finished. -/
def order {count : Nat} (schedule : Schedule count) : List Nat :=
  schedule.final.finished

/-- Every task is submitted, taken and finished before the next one. -/
def turns (count : Nat) : List PoolEvent :=
  (List.range count).flatMap fun number => [.submit, .take, .finish number]

theorem play?_turns {count n : Nat} (within : n ≤ count) :
    ({} : PoolState).play? 1 count (turns n) =
      some { submitted := n, finished := List.range n } := by
  induction n with
  | zero => rfl
  | succ n ih =>
      have next : n < count := within
      have last : turns (n + 1) = turns n ++ [.submit, .take, .finish n] := by
        simp [turns, List.range_succ]
      rw [last, PoolState.play?_append, ih (by omega)]
      simp [PoolState.play?, PoolState.step?, next, List.range_succ]

def inOrder (count : Nat) : Schedule count where
  threads := 1
  events := turns count
  final := { submitted := count, finished := List.range count }
  plays := play?_turns (Nat.le_refl count)
  complete := ⟨rfl, rfl, rfl⟩

end Schedule

/-- The course that however many tasks take. -/
abbrev Workers := (count : Nat) → Schedule count

namespace Pool

variable {α : Type}

/-- Finished tasks with their numbers, in the order of the schedule. -/
def finished (tasks : List (Logged α)) (order : List Nat) : List (Nat × Logged α) :=
  order.filterMap fun number => tasks[number]?.map fun task => (number, task)

/-- The result of the task of a number. -/
def resultOf? (number : Nat) (done : List (Nat × Logged α)) : Option (Except Fault α) :=
  (done.lookup number).map (·.result)

/-- Results by number, up to the first fault. -/
def gather (done : List (Nat × Logged α)) : List Nat → Except Fault (List α)
  | [] => .ok []
  | number :: rest => do
      match resultOf? number done with
      | some result => return (← result) :: (← gather done rest)
      | none => gather done rest

/-- Do all tasks and take their results in order. -/
def run (workers : Workers) (tasks : List (Logged α)) : Logged (List α) :=
  let done := finished tasks (workers tasks.length).order
  { result := gather done (List.range tasks.length)
    log := done.flatMap (·.2.log) }

end Pool
end LineCensus

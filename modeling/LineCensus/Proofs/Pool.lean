/-
# Proofs.Pool -- a pool gives what its tasks give on their own

However the events of a pool are interleaved, a task is in one place: in the queue,
with a thread, or finished (`PoolState.Accounts`, kept by every event).  A complete
course has therefore finished every task exactly once (`Schedule.order_perm`), and
results taken by number are those of the tasks one after the other, up to the first
fault (`Pool.run_result`).

No course can get stuck either: while there is a thread, a pool that is not complete has
a next event (`PoolState.exists_step`).
-/
import LineCensus.Corpus.Pool
import Mathlib.Data.List.Perm.Basic

set_option autoImplicit false

namespace LineCensus

open scoped List

/-! ## Where the tasks are -/

namespace PoolState

variable {threads count : Nat} {state next : PoolState}

/-- Every submitted task is one of `count` and in exactly one place. -/
structure Accounts (count : Nat) (state : PoolState) : Prop where
  within : state.submitted ≤ count
  places : state.queue ++ state.running ++ state.finished ~ List.range state.submitted

theorem accounts_start (count : Nat) : ({} : PoolState).Accounts count :=
  ⟨Nat.zero_le count, .refl _⟩

theorem step_accounts {event : PoolEvent} (accounts : state.Accounts count)
    (step : state.step? threads count event = some next) : next.Accounts count := by
  obtain ⟨within, places⟩ := accounts
  cases event with
  | submit =>
      simp only [step?, Option.ite_none_right_eq_some, Option.some.injEq] at step
      obtain ⟨more, rfl⟩ := step
      refine ⟨more, ?_⟩
      have last : state.queue ++ [state.submitted] ++ (state.running ++ state.finished) ~
          state.queue ++ (state.running ++ state.finished) ++ [state.submitted] := by
        rw [List.append_assoc, List.append_assoc]
        exact List.perm_append_comm.append_left state.queue
      rw [List.append_assoc] at places ⊢
      rw [List.range_succ]
      exact last.trans (places.append_right [state.submitted])
  | take =>
      cases queue : state.queue with
      | nil => simp [step?, queue] at step
      | cons number rest =>
          simp only [step?, queue, Option.ite_none_right_eq_some, Option.some.injEq] at step
          obtain ⟨-, rfl⟩ := step
          rw [queue] at places
          exact ⟨within, (List.perm_middle.append_right state.finished).trans places⟩
  | finish number =>
      simp only [step?, Option.ite_none_right_eq_some, Option.some.injEq] at step
      obtain ⟨member, rfl⟩ := step
      have handed : state.running.erase number ++ (state.finished ++ [number]) ~
          state.running ++ state.finished :=
        calc state.running.erase number ++ (state.finished ++ [number])
          _ ~ state.running.erase number ++ ([number] ++ state.finished) :=
              List.perm_append_comm.append_left _
          _ ~ number :: state.running.erase number ++ state.finished := List.perm_middle
          _ ~ state.running ++ state.finished :=
              (List.perm_cons_erase member).symm.append_right _
      refine ⟨within, ?_⟩
      rw [List.append_assoc] at places ⊢
      exact (handed.append_left state.queue).trans places

theorem play_accounts {events : List PoolEvent} (accounts : state.Accounts count)
    (plays : state.play? threads count events = some next) : next.Accounts count := by
  induction events generalizing state with
  | nil =>
      cases plays
      exact accounts
  | cons event rest ih =>
      obtain ⟨middle, step, plays⟩ := Option.bind_eq_some_iff.1 plays
      exact ih (step_accounts accounts step) plays

/-- **While there is a thread, no course gets stuck before it is complete.** -/
theorem exists_step (some_thread : 0 < threads) {events : List PoolEvent}
    (plays : ({} : PoolState).play? threads count events = some state)
    (unfinished : ¬ state.IsComplete count) :
    ∃ event next, state.step? threads count event = some next := by
  have within := (play_accounts (accounts_start count) plays).within
  cases running : state.running with
  | cons number rest =>
      exact ⟨.finish number, _, if_pos (by simp [running])⟩
  | nil =>
      cases queue : state.queue with
      | cons number rest =>
          refine ⟨.take, { state with queue := rest, running := [number] }, ?_⟩
          simp [step?, queue, running, some_thread]
      | nil =>
          have more : state.submitted < count := by
            refine Nat.lt_of_le_of_ne within fun all => unfinished ⟨all, queue, running⟩
          exact ⟨.submit, _, if_pos more⟩

end PoolState

/-- A complete course finishes every task, and each once. -/
theorem Schedule.order_perm {count : Nat} (schedule : Schedule count) :
    schedule.order ~ List.range count := by
  obtain ⟨submitted, queue, running⟩ := schedule.complete
  have places := (PoolState.play_accounts (PoolState.accounts_start count) schedule.plays).places
  rwa [submitted, queue, running, List.nil_append, List.nil_append] at places

/-! ## Results by number -/

namespace Pool

variable {α : Type}

theorem lookup_finished (tasks : List (Logged α)) (order : List Nat) (number : Nat) :
    (finished tasks order).lookup number =
      if number ∈ order then tasks[number]? else none := by
  induction order with
  | nil => rfl
  | cons first rest ih =>
      unfold finished at ih ⊢
      rw [List.filterMap_cons]
      by_cases same : number = first
      · subst same
        cases here : tasks[number]? with
        | none => simp [ih, here]
        | some task => simp
      · cases here : tasks[first]? with
        | none => simp [ih, same]
        | some task =>
            have other : (number == first) = false := by simpa using same
            simp [List.lookup_cons, ih, same, other]

theorem gather_eq_mapM (done : List (Nat × Logged α)) (tasks : List (Logged α)) (first : Nat)
    (there : ∀ i (inside : i < tasks.length), done.lookup (first + i) = some tasks[i]) :
    gather done (List.range' first tasks.length) = tasks.mapM (·.result) := by
  induction tasks generalizing first with
  | nil => rfl
  | cons task rest ih =>
      have head : done.lookup first = some task := there 0 (by simp)
      have tail := ih (first + 1) fun i inside => by
        have := there (i + 1) (by simpa using inside)
        rwa [← Nat.add_assoc, Nat.add_right_comm] at this
      rw [List.length_cons, List.range'_succ, gather, resultOf?, head, List.mapM_cons, tail]
      rfl

/-- **A pool gives the results of its tasks in order, whatever its course.** -/
theorem run_result (workers : Workers) (tasks : List (Logged α)) :
    (run workers tasks).result = tasks.mapM (·.result) := by
  have all := (workers tasks.length).order_perm
  rw [run, List.range_eq_range']
  refine gather_eq_mapM _ tasks 0 fun i inside => ?_
  have member : i ∈ (workers tasks.length).order := all.mem_iff.2 (List.mem_range.2 inside)
  rw [Nat.zero_add, lookup_finished, if_pos member, List.getElem?_eq_getElem inside]

end Pool
end LineCensus

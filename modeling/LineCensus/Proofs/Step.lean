/-
# Proofs.Step -- steps that can fail, one after the other
-/
import LineCensus.Log
import Mathlib.Data.List.Forall2

set_option autoImplicit false

namespace LineCensus

variable {α β ε : Type}

theorem ok_bind (a : α) (next : α → Except ε β) : (Except.ok a >>= next) = next a := rfl

theorem bind_eq_ok {first : Except ε α} {next : α → Except ε β} {b : β}
    (ok : first >>= next = .ok b) : ∃ a, first = .ok a ∧ next a = .ok b := by
  cases first with
  | error fault => cases ok
  | ok a => exact ⟨a, rfl, ok⟩

theorem bind_eq_ok_iff {first : Except ε α} {next : α → Except ε β} {b : β} :
    first >>= next = .ok b ↔ ∃ a, first = .ok a ∧ next a = .ok b := by
  refine ⟨bind_eq_ok, ?_⟩
  rintro ⟨a, here, ok⟩
  rw [here, ok_bind, ok]

theorem toOption_eq_some_iff {result : Except ε α} {a : α} :
    result.toOption = some a ↔ result = .ok a := by
  cases result <;> simp [Except.toOption]

/-- Two steps fail at the first or behind it. -/
theorem bind_eq_error {first : Except ε α} {next : α → Except ε β} {e : ε}
    (fails : first >>= next = .error e) :
    first = .error e ∨ ∃ a, first = .ok a ∧ next a = .error e := by
  cases first with
  | error fault => exact .inl (congrArg Except.error (Except.error.inj fails))
  | ok a => exact .inr ⟨a, rfl, fails⟩

theorem bind_eq_error_iff {first : Except ε α} {next : α → Except ε β} {e : ε} :
    first >>= next = .error e ↔ first = .error e ∨ ∃ a, first = .ok a ∧ next a = .error e := by
  constructor
  · exact bind_eq_error
  · rintro (fails | ⟨a, here, fails⟩)
    · rw [fails]
      rfl
    · rw [here, ok_bind, fails]

/-- Two steps succeed together if the first does, and then the second. -/
theorem exists_bind_eq_ok_iff {first : Except ε α} {next : α → Except ε β} :
    (∃ b, first >>= next = .ok b) ↔ ∃ a, first = .ok a ∧ ∃ b, next a = .ok b := by
  constructor
  · rintro ⟨b, ok⟩
    obtain ⟨a, here, ok⟩ := bind_eq_ok ok
    exact ⟨a, here, b, ok⟩
  · rintro ⟨a, here, b, ok⟩
    exact ⟨b, by rw [here, ok_bind, ok]⟩

/-- Steps that all succeed give the result of each, in order. -/
theorem mapM_eq_ok_iff {f : α → Except ε β} {xs : List α} {ys : List β} :
    xs.mapM f = .ok ys ↔ List.Forall₂ (fun x y => f x = .ok y) xs ys := by
  induction xs generalizing ys with
  | nil =>
      rw [List.mapM_nil, List.forall₂_nil_left_iff]
      exact ⟨fun same => (Except.ok.inj same).symm, fun same => congrArg Except.ok same.symm⟩
  | cons x xs ih =>
      rw [List.mapM_cons, List.forall₂_cons_left_iff]
      constructor
      · intro ok
        obtain ⟨y, here, ok⟩ := bind_eq_ok ok
        obtain ⟨zs, later, ok⟩ := bind_eq_ok ok
        exact ⟨y, zs, here, ih.1 later, (Except.ok.inj ok).symm⟩
      · rintro ⟨y, zs, here, later, rfl⟩
        rw [here, ih.2 later]
        rfl

theorem exists_mem_of_mapM_eq_ok {f : α → Except ε β} {xs : List α} {ys : List β}
    (ok : xs.mapM f = .ok ys) {x : α} (member : x ∈ xs) : ∃ y ∈ ys, f x = .ok y := by
  induction mapM_eq_ok_iff.1 ok with
  | nil => cases member
  | cons here rest ih =>
      rcases List.mem_cons.1 member with rfl | member
      · exact ⟨_, List.mem_cons_self, here⟩
      · obtain ⟨y, later, ok⟩ := ih (mapM_eq_ok_iff.2 rest) member
        exact ⟨y, List.mem_cons_of_mem _ later, ok⟩

/-- Steps that all succeed are steps that cannot fail. -/
theorem exists_map_of_mapM_eq_ok [Inhabited β] {f : α → Except ε β} {xs : List α} {ys : List β}
    (ok : xs.mapM f = .ok ys) : ∃ g : α → β, ys = xs.map g ∧ ∀ x ∈ xs, f x = .ok (g x) := by
  refine ⟨fun x => (f x).toOption.getD default, ?_⟩
  induction mapM_eq_ok_iff.1 ok with
  | nil => exact ⟨rfl, by simp⟩
  | cons here rest ih =>
      obtain ⟨same, each⟩ := ih (mapM_eq_ok_iff.2 rest)
      rw [same]
      refine ⟨by simp [here, Except.toOption], List.forall_mem_cons.2 ⟨?_, each⟩⟩
      simp [here, Except.toOption]

/-- Steps fail together because one of them does. -/
theorem exists_mem_of_mapM_eq_error {f : α → Except ε β} {xs : List α} {e : ε}
    (fails : xs.mapM f = .error e) : ∃ x ∈ xs, f x = .error e := by
  induction xs with
  | nil => cases fails
  | cons x xs ih =>
      rw [List.mapM_cons] at fails
      rcases bind_eq_error fails with here | ⟨y, -, fails⟩
      · exact ⟨x, List.mem_cons_self, here⟩
      rcases bind_eq_error fails with later | ⟨ys, -, fails⟩
      · obtain ⟨z, member, fails⟩ := ih later
        exact ⟨z, List.mem_cons_of_mem x member, fails⟩
      · cases fails

/-- Steps of which each succeeds with something that is as it should be. -/
theorem mapM_ok_of_forall {f : α → Except ε β} {Right : α → β → Prop} {xs : List α}
    (each : ∀ x ∈ xs, ∃ y, f x = .ok y ∧ Right x y) :
    ∃ ys, xs.mapM f = .ok ys ∧ List.Forall₂ Right xs ys := by
  induction xs with
  | nil => exact ⟨[], rfl, .nil⟩
  | cons x xs ih =>
      obtain ⟨y, here, right⟩ := each x (by simp)
      obtain ⟨ys, later, rights⟩ := ih fun z member => each z (List.mem_cons_of_mem x member)
      refine ⟨y :: ys, ?_, .cons right rights⟩
      rw [mapM_eq_ok_iff] at later ⊢
      exact .cons here later

theorem exists_mapM_eq_ok_iff {f : α → Except ε β} {xs : List α} :
    (∃ ys, xs.mapM f = .ok ys) ↔ ∀ x ∈ xs, ∃ y, f x = .ok y := by
  induction xs with
  | nil => simp [pure, Except.pure]
  | cons x xs ih =>
      rw [List.mapM_cons, exists_bind_eq_ok_iff, List.forall_mem_cons, ← ih]
      constructor
      · rintro ⟨y, here, ok⟩
        obtain ⟨ys, later, -⟩ := exists_bind_eq_ok_iff.1 ok
        exact ⟨⟨y, here⟩, ys, later⟩
      · rintro ⟨⟨y, here⟩, ys, later⟩
        exact ⟨y, here, y :: ys, by rw [later]; rfl⟩

/-- Steps that fail only with one fault: some of them does, and the whole fails with
it. -/
theorem mapM_eq_error {f : α → Except ε β} {fault : ε} {xs : List α}
    (only : ∀ x ∈ xs, f x = .error fault ∨ ∃ y, f x = .ok y)
    (some_fails : ∃ x ∈ xs, f x = .error fault) : xs.mapM f = .error fault := by
  induction xs with
  | nil =>
      obtain ⟨x, member, -⟩ := some_fails
      cases member
  | cons x xs ih =>
      rw [List.mapM_cons]
      rcases only x (by simp) with fails | ⟨y, here⟩
      · rw [fails]
        rfl
      · have rest : xs.mapM f = .error fault := by
          refine ih (fun z member => only z (List.mem_cons_of_mem x member)) ?_
          obtain ⟨z, member, fails⟩ := some_fails
          rcases List.mem_cons.1 member with rfl | member
          · rw [here] at fails
            cases fails
          · exact ⟨z, member, fails⟩
        rw [here, rest]
        rfl

end LineCensus

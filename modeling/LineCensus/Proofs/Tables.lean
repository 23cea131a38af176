/-
# Proofs.Tables -- what tables hold when they are set and merged

A table is a list of entries, and its meaning is what `get?` finds.  `get?` takes the first
entry of a key and `merge` sets entries in order, so that of several entries the last would
win.  The two agree exactly when every key is there once.

* `Table.get?_set`, `Table.get?_merge`: what is found after one key is set, and after all
  keys of a table are.
* `Table.get?_layers`: of tables laid over each other, the last that has the key gives its
  value.
-/
import LineCensus.Value.Basic
import Mathlib.Data.List.Nodup

set_option autoImplicit false

namespace LineCensus

namespace Table

/-- The keys of a table, in order. -/
def keys (table : Table) : List String :=
  table.map (·.1)

/-! ## One key -/

@[simp] theorem get?_nil (key : String) : get? [] key = none := rfl

theorem get?_cons (key : String) (k : String) (v : Value) (rest : Table) :
    get? ((k, v) :: rest) key = if key = k then some v else get? rest key := by
  rw [get?, List.lookup_cons, get?]
  by_cases same : key = k
  · rw [if_pos same, beq_iff_eq.2 same]
  · rw [if_neg same, beq_eq_false_iff_ne.2 same]

theorem get?_set (key : String) (value : Value) (table : Table) (other : String) :
    (table.set key value).get? other = if other = key then some value else table.get? other := by
  induction table with
  | nil => rw [set, get?_cons]
  | cons entry rest ih =>
      obtain ⟨k, v⟩ := entry
      rw [set]
      by_cases here : k = key
      · subst here
        rw [if_pos rfl, get?_cons, get?_cons]
        by_cases same : other = k
        · rw [if_pos same, if_pos same]
        · rw [if_neg same, if_neg same, if_neg same]
      · rw [if_neg here, get?_cons, get?_cons, ih]
        by_cases first : other = k
        · subst first
          rw [if_pos rfl, if_neg here, if_pos rfl]
        · rw [if_neg first, if_neg first]

theorem mem_keys_set {key other : String} {value : Value} {table : Table} :
    other ∈ keys (table.set key value) ↔ other = key ∨ other ∈ keys table := by
  induction table with
  | nil => simp [set, keys]
  | cons entry rest ih =>
      obtain ⟨k, v⟩ := entry
      rw [set]
      by_cases here : k = key
      · subst here
        simp [keys]
      · rw [if_neg here]
        simp only [keys, List.map_cons, List.mem_cons] at ih ⊢
        rw [ih]
        exact or_left_comm

/-- Setting a key adds it at most once. -/
theorem nodup_set {table : Table} (once : (keys table).Nodup) (key : String) (value : Value) :
    (keys (table.set key value)).Nodup := by
  induction table with
  | nil => simp [set, keys]
  | cons entry rest ih =>
      obtain ⟨k, v⟩ := entry
      obtain ⟨fresh, once⟩ := List.nodup_cons.1 once
      rw [set]
      by_cases here : k = key
      · rw [if_pos here]
        exact List.nodup_cons.2 ⟨fresh, once⟩
      · rw [if_neg here]
        refine List.nodup_cons.2 ⟨fun member => ?_, ih once⟩
        rcases mem_keys_set.1 member with same | member
        · exact here same
        · exact fresh member

theorem get?_eq_none_iff {table : Table} {key : String} :
    table.get? key = none ↔ key ∉ keys table := by
  induction table with
  | nil => simp [keys]
  | cons entry rest ih =>
      obtain ⟨k, v⟩ := entry
      rw [get?_cons]
      by_cases same : key = k
      · subst same
        simp [keys]
      · rw [if_neg same, ih]
        simp [keys, same]

/-- Taking a key out leaves the others. -/
theorem get?_remove (table : Table) (key other : String) :
    get? (table.filter (·.1 != key)) other = if other = key then none else table.get? other := by
  induction table with
  | nil => simp
  | cons entry rest ih =>
      obtain ⟨k, v⟩ := entry
      rw [List.filter_cons]
      by_cases gone : k = key
      · rw [if_neg (by simp [gone]), ih, get?_cons, gone]
        by_cases same : other = key
        · rw [if_pos same, if_pos same]
        · rw [if_neg same, if_neg same, if_neg same]
      · rw [if_pos (by simp [gone]), get?_cons, get?_cons, ih]
        by_cases here : other = k
        · rw [if_pos here, if_neg (here ▸ gone), if_pos here]
        · rw [if_neg here, if_neg here]

/-- Filtering by value leaves of each key what satisfies it, if every key is there once. -/
theorem get?_filterValues {table : Table} (once : (keys table).Nodup) (p : Value → Bool)
    (key : String) :
    get? (table.filter fun entry => p entry.2) key = (table.get? key).filter p := by
  induction table with
  | nil => rfl
  | cons entry rest ih =>
      obtain ⟨k, v⟩ := entry
      obtain ⟨fresh, once⟩ := List.nodup_cons.1 once
      have later := ih once
      rw [List.filter_cons, get?_cons]
      by_cases here : key = k
      · subst here
        have absent : get? rest key = none := get?_eq_none_iff.2 fresh
        rw [absent] at later
        rw [if_pos rfl, Option.filter_some]
        split
        · rw [get?_cons, if_pos rfl]
        · exact later
      · rw [if_neg here]
        split
        · rw [get?_cons, if_neg here, later]
        · exact later

/-! ## All keys of a table -/

/-- What is found in merged tables, if the upper one has every key once. -/
theorem get?_merge {upper : Table} (once : (keys upper).Nodup) (lower : Table) (key : String) :
    (lower.merge upper).get? key = (upper.get? key).or (lower.get? key) := by
  induction upper generalizing lower with
  | nil => rfl
  | cons entry rest ih =>
      obtain ⟨k, v⟩ := entry
      obtain ⟨fresh, once⟩ := List.nodup_cons.1 once
      have later : (merge lower ((k, v) :: rest)).get? key =
          (get? rest key).or ((lower.set k v).get? key) := ih once (lower.set k v)
      rw [later, get?_set, get?_cons]
      by_cases same : key = k
      · -- The key is set once, so the rest leaves it as it is.
        subst same
        rw [if_pos rfl, if_pos rfl, get?_eq_none_iff.2 fresh]
        rfl
      · rw [if_neg same, if_neg same]

/-! ## Layers -/

/-- Of tables laid over each other, the last that has a key gives its value. -/
theorem get?_layers {layers : List Table} (once : ∀ layer ∈ layers, (keys layer).Nodup)
    (base : Table) (key : String) :
    (layers.foldl merge base).get? key =
      (layers.reverse.findSome? (·.get? key)).or (base.get? key) := by
  induction layers generalizing base with
  | nil => rfl
  | cons layer rest ih =>
      rw [List.foldl_cons, ih fun other member => once other (List.mem_cons_of_mem layer member),
        get?_merge (once layer (by simp)), List.reverse_cons, List.findSome?_append,
        List.findSome?_singleton, Option.or_assoc]

end Table

end LineCensus

/-
# Proofs.Documents -- a settings document has every key once

Reading a document refuses a key that is set a second time.  So no table that comes of it has
a key twice, at its top or inside a value (`Value.KeyedOnce`), and what `get?` finds in it is
all there is.

* `Toml.changeAt_keeps`: a change along a path keeps this if the change itself does, and all
  changes that are made do (`insertNew`, `appendTable`, `makePath`).
* `Reader.Yields`: whatever a reader reads is as it should be; one lemma for each way to put
  readers together.
* `Toml.values_keyedOnce`: the values that are read, by induction on the fuel, which lists
  and tables share with the values inside them.
* `Toml.read_keyedOnce`: from the lines of a document to the document.
-/
import LineCensus.Proofs.Step
import LineCensus.Proofs.Tables
import LineCensus.Toml.Document

set_option autoImplicit false

namespace LineCensus

/-! ## Values with tables inside -/

/-- No table in a value has a key twice. -/
inductive Value.KeyedOnce : Value → Prop
  | plain {value : Value} (plain : Toml.isContainer value = false) : KeyedOnce value
  | list {items : List Value} (each : ∀ item ∈ items, KeyedOnce item) : KeyedOnce (.list items)
  | table {entries : Table} (once : (Table.keys entries).Nodup)
      (each : ∀ entry ∈ entries, KeyedOnce entry.2) : KeyedOnce (.table entries)

namespace Table

/-- No key twice, at the top or inside. -/
def KeyedOnce (table : Table) : Prop :=
  (Value.table table).KeyedOnce

theorem keyedOnce_nil : KeyedOnce [] :=
  .table .nil (by simp)

theorem KeyedOnce.nodup {table : Table} (keyed : table.KeyedOnce) : (keys table).Nodup := by
  cases keyed with
  | plain plain => cases plain
  | table once each => exact once

theorem KeyedOnce.of_get? {table : Table} (keyed : table.KeyedOnce) {key : String} {value : Value}
    (found : table.get? key = some value) : value.KeyedOnce := by
  obtain ⟨before, after, shape, -⟩ := List.lookup_eq_some_iff.1 found
  cases keyed with
  | plain plain => cases plain
  | table once each => exact each (key, value) (by simp [shape])

theorem mem_set {key : String} {value : Value} {table : Table} {entry : String × Value}
    (member : entry ∈ table.set key value) : entry.2 = value ∨ entry ∈ table := by
  induction table with
  | nil =>
      rw [set, List.mem_singleton] at member
      exact .inl (congrArg Prod.snd member)
  | cons head rest ih =>
      obtain ⟨k, v⟩ := head
      rw [set] at member
      split at member
      · rcases List.mem_cons.1 member with rfl | member
        · exact .inl rfl
        · exact .inr (List.mem_cons_of_mem _ member)
      · rcases List.mem_cons.1 member with rfl | member
        · exact .inr (by simp)
        · exact (ih member).imp_right (List.mem_cons_of_mem _)

theorem KeyedOnce.set {table : Table} (keyed : table.KeyedOnce) (key : String) {value : Value}
    (inside : value.KeyedOnce) : (table.set key value).KeyedOnce := by
  cases keyed with
  | plain plain => cases plain
  | table once each =>
      refine .table (nodup_set once key value) fun entry member => ?_
      rcases mem_set member with rfl | member
      · exact inside
      · exact each entry member

end Table

/-! ## Changes -/

namespace Toml

/-- A change of tables that leaves every key once. -/
def Keeps (change : Table → Except Flaw Table) : Prop :=
  ∀ table changed, table.KeyedOnce → change table = .ok changed → changed.KeyedOnce

theorem insertNew_keeps (key : String) {value : Value} (inside : value.KeyedOnce) :
    Keeps (insertNew key value) := by
  intro table changed keyed done
  unfold insertNew at done
  split at done
  · cases done
  · cases done
    exact keyed.set key inside

theorem appendTable_keeps (key : String) : Keeps (appendTable key) := by
  intro table changed keyed done
  unfold appendTable at done
  split at done
  · cases done
    refine keyed.set key (.list fun item member => ?_)
    obtain rfl := List.mem_singleton.1 member
    exact Table.keyedOnce_nil
  · rename_i items found
    cases done
    cases keyed.of_get? found with
    | plain plain => cases plain
    | list each =>
        refine keyed.set key (.list fun item member => ?_)
        rcases List.mem_append.1 member with member | member
        · exact each item member
        · obtain rfl := List.mem_singleton.1 member
          exact Table.keyedOnce_nil
  · cases done

theorem changeAt_keeps {change : Table → Except Flaw Table} (keeps : Keeps change)
    (throughLists : Bool) (path : Key) : Keeps (changeAt throughLists change path) := by
  induction path with
  | nil => exact keeps
  | cons key rest ih =>
      intro table changed keyed done
      rw [changeAt] at done
      have nested {inner : Table} {result : Table → Table} (inside : inner.KeyedOnce)
          (put : ∀ after : Table, after.KeyedOnce → (result after).KeyedOnce)
          (done : (do return result (← changeAt throughLists change rest inner)) = .ok changed) :
          changed.KeyedOnce := by
        obtain ⟨after, changes, done⟩ := bind_eq_ok done
        cases done
        exact put after (ih inner after inside changes)
      split at done
      · exact nested Table.keyedOnce_nil (fun after kept => keyed.set key kept) done
      · rename_i inner found
        exact nested (keyed.of_get? found) (fun after kept => keyed.set key kept) done
      · rename_i items found
        split at done
        · rename_i inner last
          cases keyed.of_get? found with
          | plain plain => cases plain
          | list each =>
              refine nested (each _ (List.mem_of_getLast? last)) (fun after kept => ?_) done
              refine keyed.set key (.list fun item member => ?_)
              rcases List.mem_append.1 member with member | member
              · exact each item (List.dropLast_subset items member)
              · obtain rfl := List.mem_singleton.1 member
                exact kept
        · cases done
      · cases done

theorem makePath_keeps (path : Key) : Keeps (makePath path) :=
  changeAt_keeps (fun _ _ keyed done => Except.ok.inj done ▸ keyed) true path

end Toml

/-! ## Readers -/

namespace Toml
namespace Reader

variable {α β : Type}

/-- Whatever the reader reads is as it should be. -/
def Yields (reader : Reader α) (Right : α → Prop) : Prop :=
  ∀ text a rest, reader.run text = .ok (a, rest) → Right a

variable {Right : α → Prop} {reader : Reader β} {next : β → Reader α}

theorem yields_pure {a : α} (right : Right a) : Yields (pure a) Right := by
  intro text b rest reads
  cases reads
  exact right

theorem yields_fail : Yields (Reader.fail : Reader α) Right := by
  intro text a rest reads
  cases reads

theorem yields_lift {result : Except Flaw α} (right : ∀ a, result = .ok a → Right a) :
    Yields (liftM result : Reader α) Right := by
  intro text a rest reads
  cases result with
  | error flaw => cases reads
  | ok b =>
      cases reads
      exact right a rfl

/-- What comes second is as it should be after anything that comes first, if that is as it
should be. -/
theorem Yields.bind {Before : β → Prop} (first : Yields reader Before)
    (second : ∀ b, Before b → Yields (next b) Right) : Yields (reader >>= next) Right := by
  intro text a rest reads
  rw [StateT.run_bind] at reads
  obtain ⟨⟨b, between⟩, readsFirst, readsSecond⟩ := bind_eq_ok reads
  exact second b (first text b between readsFirst) between a rest readsSecond

theorem yields_bind (second : ∀ b, Yields (next b) Right) : Yields (reader >>= next) Right := by
  have anything : Yields reader fun _ => True := fun _ _ _ _ => trivial
  exact anything.bind fun b _ => second b

theorem yields_ite {p : Prop} [Decidable p] {yes no : Reader α} (inYes : Yields yes Right)
    (inNo : Yields no Right) : Yields (if p then yes else no) Right := by
  split
  · exact inYes
  · exact inNo

end Reader

/-! ## Values -/

theorem plainValue_keyedOnce : Reader.Yields plainValue Value.KeyedOnce := by
  have number_keyedOnce : Reader.Yields number Value.KeyedOnce := by
    unfold number
    refine Reader.yields_bind fun text => ?_
    split
    · exact Reader.yields_bind fun _ => Reader.yields_pure (.plain rfl)
    split
    · rename_i d _
      refine Reader.yields_bind fun _ => Reader.yields_lift fun value written => ?_
      unfold Decimal.value at written
      split at written
      · split at written
        · cases written
        · cases written
          exact .plain rfl
      · cases written
        exact .plain rfl
    split
    · exact Reader.yields_bind fun _ => Reader.yields_pure (.plain rfl)
    · exact Reader.yields_fail
  unfold plainValue
  refine Reader.yields_bind fun text => Reader.yields_bind fun moment? => ?_
  split
  · exact Reader.yields_bind fun _ => Reader.yields_pure (.plain rfl)
  · exact number_keyedOnce

section Values

variable {room fuel : Nat}

theorem value_keyedOnce_succ
    (items : ∀ room, Reader.Yields (items room [] fuel) Value.KeyedOnce)
    (pairs : ∀ room, Reader.Yields (pairs room [] [] fuel) Value.KeyedOnce) :
    Reader.Yields (value room (fuel + 1)) Value.KeyedOnce := by
  rw [value]
  refine Reader.yields_bind fun next => ?_
  split
  · exact Reader.yields_fail
  refine Reader.yields_ite (Reader.yields_bind fun _ => Reader.yields_pure (.plain rfl)) ?_
  refine Reader.yields_bind fun _ => Reader.yields_ite (Reader.yields_pure (.plain rfl)) ?_
  refine Reader.yields_bind fun _ => Reader.yields_ite (Reader.yields_pure (.plain rfl)) ?_
  refine Reader.yields_bind fun _ => Reader.yields_ite ?list ?_
  case list =>
    exact Reader.yields_bind fun inside => Reader.yields_bind fun _ => items inside
  refine Reader.yields_bind fun _ => Reader.yields_ite ?table plainValue_keyedOnce
  refine Reader.yields_bind fun inside => Reader.yields_bind fun _ => Reader.yields_bind fun _ => ?_
  exact Reader.yields_ite (Reader.yields_pure Table.keyedOnce_nil) (pairs inside)

theorem items_keyedOnce_succ {done : List Value} (each : ∀ item ∈ done, item.KeyedOnce)
    (value : Reader.Yields (value room fuel) Value.KeyedOnce)
    (items : ∀ done : List Value, (∀ item ∈ done, item.KeyedOnce) →
      Reader.Yields (items room done fuel) Value.KeyedOnce) :
    Reader.Yields (Toml.items room done (fuel + 1)) Value.KeyedOnce := by
  rw [Toml.items]
  refine Reader.yields_bind fun _ => Reader.yields_ite ?_ ?_
  · exact Reader.yields_pure (.list fun item member => each item (List.mem_reverse.1 member))
  refine value.bind fun item keyed => ?_
  have more : ∀ other ∈ item :: done, other.KeyedOnce :=
    List.forall_mem_cons.2 ⟨keyed, each⟩
  refine Reader.yields_bind fun _ => Reader.yields_bind fun _ => Reader.yields_ite ?_ ?_
  · exact Reader.yields_pure (.list fun other member => more other (List.mem_reverse.1 member))
  · exact Reader.yields_bind fun _ => Reader.yields_bind fun _ => items _ more

theorem pairs_keyedOnce_succ {table : Table} (keyed : table.KeyedOnce) (closed : List Key)
    (value : Reader.Yields (value room fuel) Value.KeyedOnce)
    (pairs : ∀ (table : Table) (closed : List Key), table.KeyedOnce →
      Reader.Yields (pairs room table closed fuel) Value.KeyedOnce) :
    Reader.Yields (Toml.pairs room table closed (fuel + 1)) Value.KeyedOnce := by
  rw [Toml.pairs]
  refine Reader.yields_bind fun path => Reader.yields_bind fun _ => Reader.yields_bind fun _ => ?_
  refine value.bind fun v inside => ?_
  extract_lets setNext
  have right : ∀ done, Reader.Yields (setNext done) Value.KeyedOnce := by
    intro done
    have change : Reader.Yields (liftM (changeAt false (insertNew (splitKey path).2 v)
        (splitKey path).1 table)) Table.KeyedOnce :=
      Reader.yields_lift fun changed done =>
        changeAt_keeps (insertNew_keeps _ inside) false _ table changed keyed done
    refine change.bind fun changed keyed => ?_
    refine Reader.yields_bind fun _ => Reader.yields_bind fun _ => Reader.yields_ite ?_ ?_
    · exact Reader.yields_pure keyed
    · exact Reader.yields_bind fun _ => Reader.yields_bind fun _ => pairs changed _ keyed
  exact Reader.yields_ite (Reader.yields_bind right) (right ())

/-- **Values have every key once.**  The induction is on the fuel, over all three readers:
each reads what is inside with less of it. -/
theorem values_keyedOnce (fuel : Nat) :
    (∀ room, Reader.Yields (value room fuel) Value.KeyedOnce) ∧
    (∀ room (done : List Value), (∀ item ∈ done, item.KeyedOnce) →
      Reader.Yields (items room done fuel) Value.KeyedOnce) ∧
    ∀ room (table : Table) (closed : List Key), table.KeyedOnce →
      Reader.Yields (pairs room table closed fuel) Value.KeyedOnce := by
  induction fuel with
  | zero =>
      exact ⟨fun _ => Reader.yields_fail, fun _ _ _ => Reader.yields_fail,
        fun _ _ _ _ => Reader.yields_fail⟩
  | succ fuel ih =>
      obtain ⟨value, items, pairs⟩ := ih
      refine ⟨fun room => ?value, fun room done each => ?items,
        fun room table closed keyed => ?pairs⟩
      case value =>
        exact value_keyedOnce_succ (fun inside => items inside [] (by simp))
          fun inside => pairs inside [] [] Table.keyedOnce_nil
      case items => exact items_keyedOnce_succ each (value room) (items room)
      case pairs => exact pairs_keyedOnce_succ keyed closed (value room) (pairs room)

theorem readValue_keyedOnce : Reader.Yields readValue Value.KeyedOnce :=
  Reader.yields_bind fun _ => (values_keyedOnce _).1 wholeRoom

end Values

/-! ## Documents -/

namespace Document

/-- The table of a document has every key once. -/
def IsKeyedOnce (doc : Document) : Prop :=
  doc.table.KeyedOnce

variable {doc changed : Document}

theorem setKey_keyedOnce (keyed : doc.IsKeyedOnce) {path : Key} {value : Value}
    (inside : value.KeyedOnce) (set : doc.setKey path value = .ok changed) :
    changed.IsKeyedOnce := by
  unfold setKey at set
  dsimp only at set
  split at set
  · cases set
  split at set
  · cases set
  obtain ⟨table, changes, set⟩ := bind_eq_ok set
  cases set
  exact changeAt_keeps (insertNew_keeps _ inside) true _ _ table keyed changes

theorem openTable_keyedOnce (keyed : doc.IsKeyedOnce) {path : Key}
    (opens : doc.openTable path = .ok changed) : changed.IsKeyedOnce := by
  unfold openTable at opens
  dsimp only at opens
  split at opens
  · cases opens
  obtain ⟨table, changes, opens⟩ := bind_eq_ok opens
  cases opens
  exact makePath_keeps path _ table keyed changes

theorem addTable_keyedOnce (keyed : doc.IsKeyedOnce) {path : Key}
    (adds : doc.addTable path = .ok changed) : changed.IsKeyedOnce := by
  unfold addTable at adds
  dsimp only at adds
  split at adds
  · cases adds
  obtain ⟨table, changes, adds⟩ := bind_eq_ok adds
  cases adds
  exact changeAt_keeps (appendTable_keeps _) true _ _ table keyed changes

theorem pair_keyedOnce (keyed : doc.IsKeyedOnce) : Reader.Yields doc.pair IsKeyedOnce := by
  unfold pair
  refine Reader.yields_bind fun path => Reader.yields_bind fun _ => Reader.yields_bind fun _ => ?_
  refine readValue_keyedOnce.bind fun value inside => ?_
  exact Reader.yields_lift fun changed set => setKey_keyedOnce keyed inside set

theorem headerLine_keyedOnce (keyed : doc.IsKeyedOnce) :
    Reader.Yields doc.headerLine IsKeyedOnce := by
  unfold headerLine
  refine Reader.yields_bind fun isList => ?_
  extract_lets path
  have right : ∀ done, Reader.Yields (path done) IsKeyedOnce := by
    intro done
    refine Reader.yields_bind fun _ => Reader.yields_bind fun path => ?_
    have opens : Reader.Yields (liftM (if isList = true then doc.endSection.addTable path
        else doc.endSection.openTable path)) IsKeyedOnce := by
      refine Reader.yields_lift fun changed does => ?_
      have ended : doc.endSection.IsKeyedOnce := keyed
      split at does
      · exact addTable_keyedOnce ended does
      · exact openTable_keyedOnce ended does
    exact opens.bind fun changed keyed => Reader.yields_bind fun _ => Reader.yields_pure keyed
  exact Reader.yields_ite (right ()) (Reader.yields_bind right)

theorem statement_keyedOnce (keyed : doc.IsKeyedOnce) :
    Reader.Yields doc.statement IsKeyedOnce := by
  unfold statement
  refine Reader.yields_bind fun next => ?_
  split
  · exact Reader.yields_ite (pair_keyedOnce keyed)
      (Reader.yields_ite (headerLine_keyedOnce keyed) (Reader.yields_pure keyed))
  · exact Reader.yields_pure keyed

/-- Every line of a document keeps its keys single. -/
theorem lines_keyedOnce (keyed : doc.IsKeyedOnce) (fuel : Nat) :
    Reader.Yields (doc.lines fuel) IsKeyedOnce := by
  induction fuel generalizing doc with
  | zero => exact Reader.yields_fail
  | succ fuel ih =>
      rw [lines]
      refine Reader.yields_bind fun _ => (statement_keyedOnce keyed).bind fun changed keyed => ?_
      refine Reader.yields_bind fun _ => Reader.yields_bind fun _ => ?_
      refine Reader.yields_bind fun next => ?_
      split
      · exact Reader.yields_pure keyed
      · exact Reader.yields_ite (Reader.yields_bind fun _ => ih keyed) Reader.yields_fail

end Document

/-- **A document that is read has every key once**, at its top and in every table inside. -/
theorem read_keyedOnce {text : Text} {document : Table} (reads : read text = .ok document) :
    document.KeyedOnce := by
  unfold read at reads
  obtain ⟨⟨doc, rest⟩, linesRead, reads⟩ := bind_eq_ok reads
  cases reads
  have empty : Document.IsKeyedOnce {} := Table.keyedOnce_nil
  exact Document.lines_keyedOnce empty _ _ doc rest linesRead

end Toml
end LineCensus

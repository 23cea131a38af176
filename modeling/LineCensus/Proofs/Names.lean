/-
# Proofs.Names -- which names reach the root name

Records rise from a name to the names above it that are in use.  They come to the root name if
what stands behind it begins with one dot (`isOwnName_of_single`), whatever names are in use,
and never if it begins with anything else (`isOwnName_of_strays`).  Of two dots the first can be
passed over, and then it depends on the names in use.
-/
import LineCensus.Journal
import Mathlib.Data.List.Basic

set_option autoImplicit false

namespace LineCensus

namespace Journal

/-- A name that begins like the root name and goes on with something else than a dot. -/
def Strays (name : String) : Prop :=
  ∃ c rest, name.toList = rootName.toList ++ c :: rest ∧ c ≠ '.'

/-- A name with two dots behind the root name. -/
def HasTwoDots (name : String) : Prop :=
  ∃ rest, name.toList = rootName.toList ++ '.' :: '.' :: rest

theorem rises_eq_true {inUse : List String} {passOver : Bool} {text : List Char}
    (rising : rises inUse passOver text = true) :
    ∃ rest, text = rest ++ '.' :: rootName.toList.reverse := by
  induction text generalizing passOver with
  | nil => cases rising
  | cons c before ih =>
      rw [rises] at rising
      split at rising
      · rename_i dot
        rcases Bool.or_eq_true_iff.1 rising with isRoot | later
        · refine ⟨[], ?_⟩
          rw [dot.1, ← beq_iff_eq.1 isRoot, String.toList_ofList, List.reverse_reverse]
          rfl
        · obtain ⟨rest, rfl⟩ := ih later
          exact ⟨c :: rest, rfl⟩
      · obtain ⟨rest, rfl⟩ := ih rising
        exact ⟨c :: rest, rfl⟩

/-- Records rise to the root name through whatever is behind its dot, unless that dot can be
passed over. -/
theorem rises_of_single (inUse : List String) {passOver : Bool} {rest : List Char}
    (single : rest.getLast? ≠ some '.') (read : rest = [] → passOver = false) :
    rises inUse passOver (rest ++ '.' :: rootName.toList.reverse) = true := by
  induction rest generalizing passOver with
  | nil =>
      rw [List.nil_append, rises, if_pos ⟨rfl, read rfl⟩]
      simp
  | cons c rest ih =>
      have undotted : rest = [] → c ≠ '.' := by
        rintro rfl rfl
        exact single rfl
      have below : rest.getLast? ≠ some '.' := by
        cases rest with
        | nil => simp
        | cons d more => rwa [List.getLast?_cons_cons] at single
      rw [List.cons_append, rises]
      split
      · rename_i dot
        exact Bool.or_eq_true_iff.2 (.inr (ih below fun none => absurd dot.1 (undotted none)))
      · exact ih below fun _ => rfl

theorem isOwnName_of_strays (inUse : List String) {name : String} (strays : Strays name) :
    isOwnName inUse name = false := by
  obtain ⟨c, rest, spelled, undotted⟩ := strays
  rw [← Bool.not_eq_true]
  intro own
  rcases Bool.or_eq_true_iff.1 own with isRoot | rising
  · rw [beq_iff_eq.1 isRoot] at spelled
    simp at spelled
  · obtain ⟨behind, reversed⟩ := rises_eq_true rising
    have dotted : name.toList = rootName.toList ++ '.' :: behind.reverse := by
      rw [← List.reverse_reverse name.toList, reversed]
      simp
    rw [spelled] at dotted
    exact undotted (List.cons.inj (List.append_cancel_left dotted)).1

theorem isOwnName_of_single (inUse : List String) {name : String} {rest : List Char}
    (spelled : name.toList = rootName.toList ++ '.' :: rest) (single : rest.head? ≠ some '.') :
    isOwnName inUse name = true := by
  rw [isOwnName, Bool.or_eq_true_iff]
  right
  rw [spelled, List.reverse_append, List.reverse_cons, List.append_assoc, List.singleton_append]
  exact rises_of_single inUse (by rwa [List.getLast?_reverse]) fun _ => rfl

/-- The name of a part begins with the root name. -/
theorem toList_nameOf (part : Option String) :
    ∃ rest, (nameOf part).toList = rootName.toList ++ rest := by
  cases part with
  | none => exact ⟨[], (List.append_nil _).symm⟩
  | some part =>
      rw [nameOf]
      split
      · rename_i begins
        obtain ⟨rest, spelled⟩ := List.isPrefixOf_iff_prefix.1 begins
        exact ⟨rest, spelled.symm⟩
      · exact ⟨'.' :: part.toList, by simp⟩

/-- Every name of a part that does not stray and has no two dots is one whose records rise. -/
theorem isOwnName_nameOf (inUse : List String) {part : Option String}
    (stays : ¬ Strays (nameOf part)) (single : ¬ HasTwoDots (nameOf part)) :
    isOwnName inUse (nameOf part) = true := by
  obtain ⟨rest, spelled⟩ := toList_nameOf part
  cases rest with
  | nil =>
      have isRoot : nameOf part = rootName := by
        rw [← String.toList_inj, spelled, List.append_nil]
      rw [isOwnName, isRoot, beq_self_eq_true, Bool.true_or]
  | cons c rest =>
      have dot : c = '.' := by
        by_contra other
        exact stays ⟨c, rest, spelled, other⟩
      subst dot
      refine isOwnName_of_single inUse spelled fun second => ?_
      obtain ⟨more, rfl⟩ := List.head?_eq_some_iff.1 second
      exact single ⟨more, spelled⟩

end Journal
end LineCensus

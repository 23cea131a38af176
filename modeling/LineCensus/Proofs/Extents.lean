/-
# Proofs.Extents -- the extents of a file are its balanced stretches

The tracker sees one line at a time and remembers a depth and the methods and
classes that are open.  This module says what comes of it without a tracker:
`Spans lines kind first last` holds of a stretch that begins with the line that
opens a method or a class, ends with a closing line, opens as many blocks as it
closes, and has closed fewer than it opened at every line before its last.

* `tracks_ofLines`: after any lines the tracker remembers exactly the methods and
  classes that `StaysOpen` describes, and has closed exactly those that `Spans`
  describes.  The step is `Tracks.feed`.
* `extents_exact`: the extents of a file are its spans, each once and in the order
  of their closing lines, and the lengths in its measure are theirs.

Closing lines that close nothing lower no depth, since the depth stops at zero;
they cannot reach an open block either, because an open block keeps the depth
above its own (`Tracks.surplus`).  So the lines before a span do not matter, and
neither do those after it (`Spans.shift`).
-/
import LineCensus.Measure.File

set_option autoImplicit false

namespace LineCensus

/-! ## Lines by number -/

/-- The lines from number `first` to number `last`, both included; the first line
has number one. -/
def linesBetween (lines : List Line) (first last : Nat) : List Line :=
  (lines.take last).drop (first - 1)

def tagAt? (lines : List Line) (number : Nat) : Option LineTag :=
  if number = 0 then none else lines[number - 1]?.map (·.tag)

/-- How many of the lines open a block. -/
def openings (lines : List Line) : Nat :=
  lines.countP (·.tag.opens)

/-- How many of the lines close a block. -/
def closings (lines : List Line) : Nat :=
  lines.countP (·.tag = .closesBlock)

@[simp] theorem openings_snoc (lines : List Line) (line : Line) :
    openings (lines ++ [line]) = openings lines + if line.tag.opens then 1 else 0 := by
  simp [openings, List.countP_append, List.countP_singleton]

@[simp] theorem closings_snoc (lines : List Line) (line : Line) :
    closings (lines ++ [line]) = closings lines + if line.tag = .closesBlock then 1 else 0 := by
  simp [closings, List.countP_append, List.countP_singleton]

theorem tagAt?_eq_some {lines : List Line} {number : Nat} {tag : LineTag}
    (found : tagAt? lines number = some tag) : 1 ≤ number ∧ number ≤ lines.length := by
  unfold tagAt? at found
  split at found
  · cases found
  · obtain ⟨line, there, -⟩ := Option.map_eq_some_iff.1 found
    obtain ⟨inside, -⟩ := List.getElem?_eq_some_iff.1 there
    omega

theorem tagAt?_snoc_of_le {lines : List Line} (line : Line) {number : Nat}
    (old : number ≤ lines.length) : tagAt? (lines ++ [line]) number = tagAt? lines number := by
  unfold tagAt?
  split
  · rfl
  · rw [List.getElem?_append_left (by omega)]

theorem tagAt?_snoc_self (lines : List Line) (line : Line) :
    tagAt? (lines ++ [line]) (lines.length + 1) = some line.tag := by
  simp [tagAt?]

theorem linesBetween_snoc_of_le {lines : List Line} (line : Line) (first : Nat) {last : Nat}
    (old : last ≤ lines.length) :
    linesBetween (lines ++ [line]) first last = linesBetween lines first last := by
  rw [linesBetween, List.take_append_of_le_length old, linesBetween]

theorem linesBetween_snoc_self {lines : List Line} (line : Line) {first : Nat}
    (old : first ≤ lines.length + 1) :
    linesBetween (lines ++ [line]) first (lines.length + 1) =
      linesBetween lines first lines.length ++ [line] := by
  have whole : (lines ++ [line]).length ≤ lines.length + 1 := by simp
  rw [linesBetween, List.take_of_length_le whole, List.drop_append_of_le_length (by omega),
    linesBetween, List.take_length]

/-! ## Spans -/

/-- The tag of the line that begins an extent of a kind. -/
def Extent.Kind.openingTag : Extent.Kind → LineTag
  | .method => .opensMethod
  | .classBody => .opensClass

theorem extentKind?_eq_some_iff {tag : LineTag} {kind : Extent.Kind} :
    tag.extentKind? = some kind ↔ tag = kind.openingTag := by
  cases tag <;> cases kind <;> simp [LineTag.extentKind?, Extent.Kind.openingTag]

theorem opens_openingTag (kind : Extent.Kind) : kind.openingTag.opens = true := by
  cases kind <;> rfl

theorem openingTag_ne_closesBlock (kind : Extent.Kind) : kind.openingTag ≠ .closesBlock := by
  cases kind <;> simp [Extent.Kind.openingTag]

/-- The lines from `first` to `last` are a method or a class with its closing
line. -/
structure Spans (lines : List Line) (kind : Extent.Kind) (first last : Nat) : Prop where
  opens : tagAt? lines first = some kind.openingTag
  closes : tagAt? lines last = some .closesBlock
  ordered : first < last
  balanced : openings (linesBetween lines first last) = closings (linesBetween lines first last)
  inside : ∀ k < last, first ≤ k →
    closings (linesBetween lines first k) < openings (linesBetween lines first k)

instance (lines : List Line) (kind : Extent.Kind) (first last : Nat) :
    Decidable (Spans lines kind first last) :=
  decidable_of_iff
    (tagAt? lines first = some kind.openingTag ∧ tagAt? lines last = some .closesBlock ∧
      first < last ∧
      openings (linesBetween lines first last) = closings (linesBetween lines first last) ∧
      ∀ k < last, first ≤ k →
        closings (linesBetween lines first k) < openings (linesBetween lines first k))
    ⟨fun ⟨opens, closes, ordered, balanced, inside⟩ => ⟨opens, closes, ordered, balanced, inside⟩,
      fun ⟨opens, closes, ordered, balanced, inside⟩ => ⟨opens, closes, ordered, balanced, inside⟩⟩

/-- A method or a class begins at `first` and is not closed by the last line. -/
structure StaysOpen (lines : List Line) (kind : Extent.Kind) (first : Nat) : Prop where
  opens : tagAt? lines first = some kind.openingTag
  inside : ∀ k ≤ lines.length, first ≤ k →
    closings (linesBetween lines first k) < openings (linesBetween lines first k)

namespace StaysOpen

variable {lines : List Line} {kind : Extent.Kind} {first : Nat}

theorem first_le (stays : StaysOpen lines kind first) : first ≤ lines.length :=
  (tagAt?_eq_some stays.opens).2

theorem surplus (stays : StaysOpen lines kind first) :
    closings (linesBetween lines first lines.length) <
      openings (linesBetween lines first lines.length) :=
  stays.inside _ (Nat.le_refl _) stays.first_le

/-- What is open after one more line: what was open and is not closed by it, and
what it opens. -/
theorem snoc_iff (line : Line) :
    StaysOpen (lines ++ [line]) kind first ↔
      (StaysOpen lines kind first ∧
        closings (linesBetween lines first lines.length ++ [line]) <
          openings (linesBetween lines first lines.length ++ [line])) ∨
      (first = lines.length + 1 ∧ line.tag = kind.openingTag) := by
  constructor
  · rintro ⟨opens, inside⟩
    have bound := (tagAt?_eq_some opens).2
    rw [List.length_append, List.length_singleton] at bound inside
    rcases Nat.lt_or_ge lines.length first with new | old
    · obtain rfl : first = lines.length + 1 := by omega
      rw [tagAt?_snoc_self] at opens
      exact .inr ⟨rfl, Option.some.inj opens⟩
    · refine .inl ⟨⟨by rwa [tagAt?_snoc_of_le line old] at opens, fun k within above => ?_⟩, ?_⟩
      · have := inside k (by omega) above
        rwa [linesBetween_snoc_of_le line first within] at this
      · have := inside (lines.length + 1) (Nat.le_refl _) (by omega)
        rwa [linesBetween_snoc_self line (by omega)] at this
  · rintro (⟨stays, surplus⟩ | ⟨rfl, tag⟩)
    · have old := stays.first_le
      refine ⟨by rw [tagAt?_snoc_of_le line old]; exact stays.opens, fun k within above => ?_⟩
      rw [List.length_append, List.length_singleton] at within
      rcases Nat.lt_or_ge lines.length k with new | inLines
      · obtain rfl : k = lines.length + 1 := by omega
        rwa [linesBetween_snoc_self line (by omega)]
      · rw [linesBetween_snoc_of_le line first inLines]
        exact stays.inside k inLines above
    · refine ⟨by rw [tagAt?_snoc_self, tag], fun k within above => ?_⟩
      rw [List.length_append, List.length_singleton] at within
      obtain rfl : k = lines.length + 1 := by omega
      have none_before : linesBetween lines (lines.length + 1) lines.length = [] := by
        simp [linesBetween]
      rw [linesBetween_snoc_self line (Nat.le_refl _), none_before, closings_snoc, openings_snoc,
        tag, if_neg (openingTag_ne_closesBlock kind), if_pos (opens_openingTag kind)]
      simp [openings, closings]

/-- A line that closes nothing leaves open what is open. -/
theorem snoc_iff_of_ne_closesBlock {line : Line} (closesNothing : line.tag ≠ .closesBlock) :
    StaysOpen (lines ++ [line]) kind first ↔
      StaysOpen lines kind first ∨ (first = lines.length + 1 ∧ line.tag = kind.openingTag) := by
  rw [snoc_iff, openings_snoc, closings_snoc, if_neg closesNothing]
  refine or_congr_left (and_iff_left_of_imp fun stays => ?_)
  have := stays.surplus
  omega

end StaysOpen

namespace Spans

variable {lines : List Line} {kind : Extent.Kind} {first last : Nat}

/-- The spans after one more line: the old ones, and the one that it closes. -/
theorem snoc_iff (line : Line) :
    Spans (lines ++ [line]) kind first last ↔
      Spans lines kind first last ∨
      (last = lines.length + 1 ∧ line.tag = .closesBlock ∧ StaysOpen lines kind first ∧
        openings (linesBetween lines first lines.length) =
          closings (linesBetween lines first lines.length) + 1) := by
  constructor
  · rintro ⟨opens, closes, ordered, balanced, inside⟩
    have bound := (tagAt?_eq_some closes).2
    rw [List.length_append, List.length_singleton] at bound
    have opens' : tagAt? lines first = some kind.openingTag := by
      rwa [tagAt?_snoc_of_le line (by omega)] at opens
    have inside' : ∀ k ≤ lines.length, k < last → first ≤ k →
        closings (linesBetween lines first k) < openings (linesBetween lines first k) := by
      intro k inLines below above
      have := inside k below above
      rwa [linesBetween_snoc_of_le line first inLines] at this
    rcases Nat.lt_or_ge lines.length last with new | old
    · obtain rfl : last = lines.length + 1 := by omega
      rw [tagAt?_snoc_self] at closes
      have tag : line.tag = .closesBlock := Option.some.inj closes
      rw [linesBetween_snoc_self line (by omega), openings_snoc, closings_snoc, tag] at balanced
      refine .inr ⟨rfl, tag, ⟨opens', fun k inLines => inside' k inLines (by omega)⟩, ?_⟩
      simpa [LineTag.opens] using balanced
    · rw [tagAt?_snoc_of_le line old] at closes
      rw [linesBetween_snoc_of_le line first old] at balanced
      exact .inl ⟨opens', closes, ordered, balanced, fun k below => inside' k (by omega) below⟩
  · rintro (⟨opens, closes, ordered, balanced, inside⟩ | ⟨rfl, tag, stays, surplus⟩)
    · have old := (tagAt?_eq_some closes).2
      refine ⟨by rwa [tagAt?_snoc_of_le line (by omega)], by rwa [tagAt?_snoc_of_le line old],
        ordered, by rwa [linesBetween_snoc_of_le line first old], fun k below above => ?_⟩
      rw [linesBetween_snoc_of_le line first (by omega)]
      exact inside k below above
    · have old := stays.first_le
      refine ⟨by rw [tagAt?_snoc_of_le line old]; exact stays.opens, by rw [tagAt?_snoc_self, tag],
        by omega, ?_, fun k below above => ?_⟩
      · rw [linesBetween_snoc_self line (by omega), openings_snoc, closings_snoc, tag]
        simpa [LineTag.opens] using surplus
      · rw [linesBetween_snoc_of_le line first (by omega)]
        exact stays.inside k (by omega) above

end Spans

/-! ## One line -/

namespace Tracker

variable {t : Tracker} {number : Int}

theorem mem_enter_openBlocks {kind? : Option Extent.Kind} {block : OpenBlock} :
    block ∈ (t.enter kind? number).openBlocks ↔
      (∃ kind, kind? = some kind ∧ block = ⟨kind, number, t.depth + 1⟩) ∨
        block ∈ t.openBlocks := by
  cases kind? <;> simp [enter]

/-- Only the innermost block can be as deep as the tracker. -/
theorem depth_lt_of_nested {head : OpenBlock} {outer : List OpenBlock}
    (nested : (head :: outer).Pairwise fun inner outer => outer.depth < inner.depth)
    (bounded : head.depth ≤ t.depth) {block : OpenBlock} (member : block ∈ outer) :
    block.depth < t.depth :=
  Nat.lt_of_lt_of_le (List.rel_of_pairwise_cons nested member) bounded

/-- A closing line ends the open block that is as deep as the tracker, and no
other. -/
theorem mem_leave_openBlocks
    (nested : t.openBlocks.Pairwise fun inner outer => outer.depth < inner.depth)
    (bounded : ∀ block ∈ t.openBlocks, block.depth ≤ t.depth) {block : OpenBlock} :
    block ∈ (t.leave number).openBlocks ↔ block ∈ t.openBlocks ∧ block.depth ≠ t.depth := by
  unfold leave
  split
  · rename_i head outer shape
    rw [shape] at nested bounded ⊢
    have deeper : ∀ b ∈ outer, b.depth ≠ t.depth := fun b member =>
      Nat.ne_of_lt (depth_lt_of_nested nested (bounded head (by simp)) member)
    split
    · rename_i same
      constructor
      · exact fun member => ⟨List.mem_cons_of_mem _ member, deeper block member⟩
      · rintro ⟨member, different⟩
        rcases List.mem_cons.1 member with rfl | member
        · exact absurd same different
        · exact member
    · rename_i different
      refine ⟨fun member => ⟨member, ?_⟩, fun member => member.1⟩
      rcases List.mem_cons.1 member with rfl | member
      · exact different
      · exact deeper block member
  · rename_i shape
    simp [shape]

theorem mem_leave_closed
    (nested : t.openBlocks.Pairwise fun inner outer => outer.depth < inner.depth)
    (bounded : ∀ block ∈ t.openBlocks, block.depth ≤ t.depth) {extent : Extent} :
    extent ∈ (t.leave number).closed ↔
      extent ∈ t.closed ∨
        ∃ block ∈ t.openBlocks, block.depth = t.depth ∧
          extent = ⟨block.kind, block.startLine, number⟩ := by
  unfold leave
  split
  · rename_i head outer shape
    rw [shape] at nested bounded ⊢
    have deeper : ∀ b ∈ outer, b.depth ≠ t.depth := fun b member =>
      Nat.ne_of_lt (depth_lt_of_nested nested (bounded head (by simp)) member)
    split
    · rename_i same
      rw [List.mem_cons, or_comm]
      refine or_congr_right ⟨fun eq => ⟨head, by simp, same, eq⟩, ?_⟩
      rintro ⟨block, member, depth, rfl⟩
      rcases List.mem_cons.1 member with rfl | member
      · rfl
      · exact absurd depth (deeper block member)
    · rename_i different
      refine (or_iff_left ?_).symm
      rintro ⟨block, member, depth, -⟩
      rcases List.mem_cons.1 member with rfl | member
      · exact different depth
      · exact deeper block member depth
  · rename_i shape
    simp [shape]

theorem leave_depth : (t.leave number).depth = t.depth - 1 := by
  unfold leave
  split
  · split <;> rfl
  · rfl

theorem leave_openBlocks_sublist : (t.leave number).openBlocks.Sublist t.openBlocks := by
  unfold leave
  split
  · rename_i head outer shape
    split
    · rw [shape]
      exact List.sublist_cons_self head outer
    · exact .refl _
  · exact .refl _

/-- A closing line adds at most one extent, and that ends with it. -/
theorem leave_closed (t : Tracker) (number : Int) :
    (t.leave number).closed = t.closed ∨
      ∃ extent : Extent, extent.endLine = number ∧
        (t.leave number).closed = extent :: t.closed := by
  unfold leave
  split
  · split
    · exact .inr ⟨_, rfl, rfl⟩
    · exact .inl rfl
  · exact .inl rfl

end Tracker

/-! ## What the tracker remembers -/

/-- What a tracker knows after the lines: it remembers the methods and classes that
stay open, innermost first, each with a depth that the surplus of openings since
then takes to the depth of the tracker, and it has closed the spans. -/
structure Tracks (lines : List Line) (t : Tracker) : Prop where
  openOnly : ∀ block ∈ t.openBlocks, ∃ first : Nat,
    block.startLine = first ∧ StaysOpen lines block.kind first ∧
      block.depth + openings (linesBetween lines first lines.length) =
        t.depth + 1 + closings (linesBetween lines first lines.length)
  openAll : ∀ kind first, StaysOpen lines kind first →
    ∃ block ∈ t.openBlocks, block.kind = kind ∧ block.startLine = first
  nested : t.openBlocks.Pairwise fun inner outer => outer.depth < inner.depth
  closed : ∀ extent, extent ∈ t.closed ↔
    ∃ (kind : Extent.Kind) (first last : Nat),
      extent = ⟨kind, first, last⟩ ∧ Spans lines kind first last
  ordered : t.closed.Pairwise fun later earlier => earlier.endLine < later.endLine

namespace Tracks

variable {lines : List Line} {t : Tracker}

theorem empty : Tracks [] {} where
  openOnly := by simp
  openAll kind first stays := by
    have := tagAt?_eq_some stays.opens
    simp only [List.length_nil] at this
    omega
  nested := .nil
  closed extent := by
    constructor
    · simp
    · rintro ⟨kind, first, last, -, spans⟩
      have := tagAt?_eq_some spans.opens
      simp only [List.length_nil] at this
      omega
  ordered := .nil

/-- An open block lies at most as deep as the tracker. -/
theorem depth_le (tracks : Tracks lines t) {block : OpenBlock} (member : block ∈ t.openBlocks) :
    block.depth ≤ t.depth := by
  obtain ⟨first, -, stays, depths⟩ := tracks.openOnly block member
  have := stays.surplus
  omega

/-- The block that is remembered for what stays open, with its depth. -/
theorem find (tracks : Tracks lines t) {kind : Extent.Kind} {first : Nat}
    (stays : StaysOpen lines kind first) :
    ∃ block ∈ t.openBlocks, block.kind = kind ∧ block.startLine = first ∧
      block.depth + openings (linesBetween lines first lines.length) =
        t.depth + 1 + closings (linesBetween lines first lines.length) := by
  obtain ⟨block, member, sameKind, start⟩ := tracks.openAll kind first stays
  obtain ⟨number, start', -, depths⟩ := tracks.openOnly block member
  obtain rfl : number = first := Int.ofNat.inj (start'.symm.trans start)
  exact ⟨block, member, sameKind, start, depths⟩

theorem endLine_le (tracks : Tracks lines t) {extent : Extent} (member : extent ∈ t.closed) :
    extent.endLine ≤ lines.length := by
  obtain ⟨kind, first, last, rfl, spans⟩ := (tracks.closed extent).1 member
  exact Int.ofNat_le.2 (tagAt?_eq_some spans.closes).2

/-- A line that opens a block. -/
theorem enter (tracks : Tracks lines t) {line : Line} (opens : line.tag.opens = true) :
    Tracks (lines ++ [line]) (t.enter line.tag.extentKind? (lines.length + 1 : Nat)) := by
  have opensOnly : line.tag ≠ .closesBlock := fun closes => by simp [closes, LineTag.opens] at opens
  have stays_iff kind first : StaysOpen (lines ++ [line]) kind first ↔
      StaysOpen lines kind first ∨ (first = lines.length + 1 ∧ line.tag = kind.openingTag) :=
    StaysOpen.snoc_iff_of_ne_closesBlock opensOnly
  refine ⟨fun block member => ?_, fun kind first stays => ?_, ?_, fun extent => ?_, tracks.ordered⟩
  · rw [List.length_append, List.length_singleton]
    rcases Tracker.mem_enter_openBlocks.1 member with ⟨kind, tag, rfl⟩ | member
    · rw [extentKind?_eq_some_iff] at tag
      refine ⟨lines.length + 1, rfl, (stays_iff _ _).2 (.inr ⟨rfl, tag⟩), ?_⟩
      have none_before : linesBetween lines (lines.length + 1) lines.length = [] := by
        simp [linesBetween]
      rw [linesBetween_snoc_self line (Nat.le_refl _), none_before, openings_snoc, closings_snoc,
        if_pos opens, if_neg opensOnly]
      simp [openings, closings, Tracker.enter]
    · obtain ⟨first, start, stays, depths⟩ := tracks.openOnly block member
      refine ⟨first, start, (stays_iff _ _).2 (.inl stays), ?_⟩
      have old := stays.first_le
      rw [linesBetween_snoc_self line (by omega), openings_snoc, closings_snoc, if_pos opens,
        if_neg opensOnly]
      simp only [Tracker.enter]
      omega
  · rcases (stays_iff kind first).1 stays with stays | ⟨rfl, tag⟩
    · obtain ⟨block, member, found⟩ := tracks.openAll kind first stays
      exact ⟨block, Tracker.mem_enter_openBlocks.2 (.inr member), found⟩
    · rw [← extentKind?_eq_some_iff] at tag
      exact ⟨_, Tracker.mem_enter_openBlocks.2 (.inl ⟨kind, tag, rfl⟩), rfl, rfl⟩
  · cases tag : line.tag.extentKind? with
    | none => exact tracks.nested
    | some kind =>
        exact .cons (fun block member => Nat.lt_succ_of_le (tracks.depth_le member)) tracks.nested
  · simp only [Spans.snoc_iff, opensOnly, false_and, and_false, or_false]
    exact tracks.closed extent

/-- A line that closes a block. -/
theorem leave (tracks : Tracks lines t) {line : Line} (closes : line.tag = .closesBlock) :
    Tracks (lines ++ [line]) (t.leave (lines.length + 1 : Nat)) := by
  have stays_iff : ∀ kind first, StaysOpen (lines ++ [line]) kind first ↔
      StaysOpen lines kind first ∧
        closings (linesBetween lines first lines.length) + 1 <
          openings (linesBetween lines first lines.length) := by
    intro kind first
    rw [StaysOpen.snoc_iff, openings_snoc, closings_snoc, closes]
    simp [LineTag.opens, (openingTag_ne_closesBlock kind).symm]
  have mem_open {block : OpenBlock} :
      block ∈ (t.leave (lines.length + 1 : Nat)).openBlocks ↔
        block ∈ t.openBlocks ∧ block.depth ≠ t.depth :=
    Tracker.mem_leave_openBlocks tracks.nested fun _ member => tracks.depth_le member
  refine ⟨fun block member => ?_, fun kind first stays => ?_,
    tracks.nested.sublist Tracker.leave_openBlocks_sublist, fun extent => ?_, ?_⟩
  · obtain ⟨member, different⟩ := mem_open.1 member
    obtain ⟨first, start, stays, depths⟩ := tracks.openOnly block member
    have bound := tracks.depth_le member
    have old := stays.first_le
    refine ⟨first, start, (stays_iff _ _).2 ⟨stays, by omega⟩, ?_⟩
    rw [List.length_append, List.length_singleton, linesBetween_snoc_self line (by omega),
      openings_snoc, closings_snoc, closes, Tracker.leave_depth]
    simp only [LineTag.opens, Bool.false_eq_true, if_false, if_true]
    omega
  · obtain ⟨stays, surplus⟩ := (stays_iff kind first).1 stays
    obtain ⟨block, member, sameKind, start, depths⟩ := tracks.find stays
    exact ⟨block, mem_open.2 ⟨member, by omega⟩, sameKind, start⟩
  · rw [Tracker.mem_leave_closed tracks.nested fun _ member => tracks.depth_le member,
      tracks.closed extent]
    simp only [Spans.snoc_iff]
    constructor
    · rintro (⟨kind, first, last, rfl, spans⟩ | ⟨block, member, depth, rfl⟩)
      · exact ⟨kind, first, last, rfl, .inl spans⟩
      · obtain ⟨first, start, stays, depths⟩ := tracks.openOnly block member
        exact ⟨block.kind, first, lines.length + 1, by rw [start],
          .inr ⟨rfl, closes, stays, by omega⟩⟩
    · rintro ⟨kind, first, last, rfl, spans | ⟨rfl, -, stays, surplus⟩⟩
      · exact .inl ⟨kind, first, last, rfl, spans⟩
      · obtain ⟨block, member, rfl, start, depths⟩ := tracks.find stays
        exact .inr ⟨block, member, by omega, by rw [start]⟩
  · rcases t.leave_closed (lines.length + 1 : Nat) with same | ⟨extent, ends, more⟩
    · rw [same]
      exact tracks.ordered
    · rw [more]
      refine .cons (fun earlier member => ?_) tracks.ordered
      have := tracks.endLine_le member
      omega

/-- A line that neither opens nor closes a block. -/
theorem skip (tracks : Tracks lines t) {line : Line} (opensNothing : ¬ line.tag.opens = true)
    (closesNothing : line.tag ≠ .closesBlock) : Tracks (lines ++ [line]) t := by
  have stays_iff kind first :
      StaysOpen (lines ++ [line]) kind first ↔ StaysOpen lines kind first := by
    rw [StaysOpen.snoc_iff_of_ne_closesBlock closesNothing]
    refine or_iff_left ?_
    rintro ⟨-, tag⟩
    exact opensNothing (tag ▸ opens_openingTag kind)
  refine ⟨fun block member => ?_, fun kind first stays => ?_, tracks.nested, fun extent => ?_,
    tracks.ordered⟩
  · obtain ⟨first, start, stays, depths⟩ := tracks.openOnly block member
    have old := stays.first_le
    refine ⟨first, start, (stays_iff _ _).2 stays, ?_⟩
    rw [List.length_append, List.length_singleton, linesBetween_snoc_self line (by omega),
      openings_snoc, closings_snoc, if_neg opensNothing, if_neg closesNothing]
    exact depths
  · exact tracks.openAll kind first ((stays_iff kind first).1 stays)
  · simp only [Spans.snoc_iff, closesNothing, false_and, and_false, or_false]
    exact tracks.closed extent

/-- **The invariant is kept by every line.** -/
theorem feed (tracks : Tracks lines t) (line : Line) :
    Tracks (lines ++ [line]) (t.feed line.tag (lines.length + 1 : Nat)) := by
  unfold Tracker.feed
  split
  · rename_i opens
    exact tracks.enter opens
  · rename_i opensNothing
    split
    · rename_i closes
      exact tracks.leave closes
    · rename_i closesNothing
      exact tracks.skip opensNothing closesNothing

/-- The invariant is kept by the lines of a stretch. -/
theorem feedFrom (tracks : Tracks lines t) (rest : List Line) :
    Tracks (lines ++ rest) (t.feedFrom (lines.length + 1 : Nat) rest) := by
  induction rest generalizing lines t with
  | nil => simpa [Tracker.feedFrom] using tracks
  | cons line rest ih =>
      have after := ih (tracks.feed line)
      rw [List.append_assoc, List.singleton_append, List.length_append, List.length_singleton]
        at after
      exact after

end Tracks

/-- What has been closed when the file ends are its spans. -/
theorem mem_extents_iff (lines : List Line) (extent : Extent) :
    extent ∈ (Tracker.ofLines lines).extents ↔
      ∃ (kind : Extent.Kind) (first last : Nat),
        extent = ⟨kind, first, last⟩ ∧ Spans lines kind first last := by
  have tracks : Tracks lines (({} : Tracker).feedFrom 1 lines) := Tracks.empty.feedFrom lines
  rw [Tracker.extents, List.mem_reverse]
  exact tracks.closed extent

theorem mem_span_iff {lines : List Line} {kind : Extent.Kind} {first last : Nat} :
    (⟨kind, first, last⟩ : Extent) ∈ (Tracker.ofLines lines).extents ↔
      Spans lines kind first last := by
  rw [mem_extents_iff]
  constructor
  · rintro ⟨kind', first', last', same, spans⟩
    simp only [Extent.mk.injEq, Int.natCast_inj] at same
    obtain ⟨rfl, rfl, rfl⟩ := same
    exact spans
  · exact fun spans => ⟨kind, first, last, rfl, spans⟩

/-- A closing line too many before it and an open class around it leave a method its
extent, and the `end` of its `if` does not close it. -/
example :
    let lines := ["end", "class A", "def m", "if x", "end", "end"].map (Line.classify ·.toList)
    Spans lines .method 3 6 ∧ (Tracker.ofLines lines).extents = [⟨.method, 3, 6⟩] := by
  decide

/-- Extents are recorded as their closing lines come. -/
theorem extents_ordered (lines : List Line) :
    (Tracker.ofLines lines).extents.Pairwise
      fun earlier later => earlier.endLine < later.endLine := by
  have tracks : Tracks lines (({} : Tracker).feedFrom 1 lines) := Tracks.empty.feedFrom lines
  exact List.pairwise_reverse.2 tracks.ordered

/-! ## Lines around a span -/

theorem tagAt?_shift (before body after : List Line) {number : Nat} (least : 1 ≤ number)
    (most : number ≤ body.length) :
    tagAt? (before ++ body ++ after) (before.length + number) = tagAt? body number := by
  unfold tagAt?
  rw [if_neg (by omega), if_neg (by omega), List.append_assoc,
    List.getElem?_append_right (by omega), List.getElem?_append_left (by omega)]
  congr 2
  omega

theorem linesBetween_shift (before body after : List Line) {first last : Nat} (least : 1 ≤ first)
    (most : last ≤ body.length) :
    linesBetween (before ++ body ++ after) (before.length + first) (before.length + last) =
      linesBetween body first last := by
  have start : before.length + first - 1 = before.length + (first - 1) := by omega
  rw [linesBetween, linesBetween, List.append_assoc, List.take_length_add_append,
    List.take_append_of_le_length most, start, List.drop_length_add_append]

/-- Whether lines are a span does not depend on the lines before and after. -/
theorem Spans.shift (before body after : List Line) {kind : Extent.Kind} {first last : Nat}
    (least : 1 ≤ first) (most : last ≤ body.length) :
    Spans (before ++ body ++ after) kind (before.length + first) (before.length + last) ↔
      Spans body kind first last := by
  constructor
  · rintro ⟨opens, closes, ordered, balanced, inside⟩
    rw [tagAt?_shift before body after least (by omega)] at opens
    rw [tagAt?_shift before body after (by omega) most] at closes
    rw [linesBetween_shift before body after least most] at balanced
    refine ⟨opens, closes, by omega, balanced, fun k below above => ?_⟩
    have := inside (before.length + k) (by omega) (by omega)
    rwa [linesBetween_shift before body after least (by omega)] at this
  · rintro ⟨opens, closes, ordered, balanced, inside⟩
    refine ⟨by rwa [tagAt?_shift before body after least (by omega)],
      by rwa [tagAt?_shift before body after (by omega) most], by omega,
      by rwa [linesBetween_shift before body after least most], fun k below above => ?_⟩
    obtain ⟨k, rfl⟩ : ∃ j, k = before.length + j := ⟨k - before.length, by omega⟩
    rw [linesBetween_shift before body after least (by omega)]
    exact inside k (by omega) (by omega)

/-! ## The extents of a file -/

/-- **The extents of a file are its balanced stretches.**  An extent is recorded for
exactly the spans, each once and in the order of their last lines; the lengths in
the measure of the file are those of its extents, in that order; and whether a
stretch is an extent does not depend on the lines around it. -/
theorem extents_exact (lines : List Line) :
    (∀ extent, extent ∈ (Tracker.ofLines lines).extents ↔
      ∃ (kind : Extent.Kind) (first last : Nat),
        extent = ⟨kind, first, last⟩ ∧ Spans lines kind first last) ∧
    (Tracker.ofLines lines).extents.Nodup ∧
    (Tracker.ofLines lines).extents.Pairwise
      (fun earlier later => earlier.endLine < later.endLine) ∧
    (∀ path,
      (FileMeasure.ofLines path lines).methodLengths =
        ((Tracker.ofLines lines).extents.filter (·.kind = .method)).map
          (fun extent => extent.endLine - extent.startLine + 1) ∧
      (FileMeasure.ofLines path lines).classSizes =
        ((Tracker.ofLines lines).extents.filter (·.kind = .classBody)).map
          (fun extent => extent.endLine - extent.startLine + 1)) ∧
    (∀ (before after : List Line) (kind : Extent.Kind),
      (⟨kind, (before.length + 1 : Nat), (before.length + lines.length : Nat)⟩ : Extent) ∈
          (Tracker.ofLines (before ++ lines ++ after)).extents ↔
        (⟨kind, 1, lines.length⟩ : Extent) ∈ (Tracker.ofLines lines).extents) := by
  have ordered := extents_ordered lines
  refine ⟨mem_extents_iff lines, ?_, ordered, fun path => ⟨rfl, rfl⟩,
    fun before after kind => ?_⟩
  · exact ordered.imp fun less same => absurd (same ▸ less) (Int.lt_irrefl _)
  · rw [mem_span_iff, ← Int.natCast_one, mem_span_iff,
      Spans.shift before lines after (Nat.le_refl 1) (Nat.le_refl _)]

end LineCensus

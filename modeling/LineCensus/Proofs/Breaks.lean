/-
# Proofs.Breaks -- line breaks can be written in three ways

A break is a line feed, a carriage return, or both.  Reading a file decodes its octets
and then unifies the breaks, so what has to be shown is that decoding neither swallows
a break nor makes one; `KeepsAscii` says so, however malformed the octets around it are.

* `KeepsAscii.unifyBreaks_writeBreaks`: the text of a file does not depend on how its
  breaks are written.  The step is one break (`KeepsAscii.unifyBreaks_mark`).
* `measure_breaks`: nor does its measure.
-/
import LineCensus.Proofs.Octets
import LineCensus.Proofs.Reading

set_option autoImplicit false

namespace LineCensus

/-! ## Breaks in a text -/

namespace Text

theorem unifyBreaksFrom_eq (afterReturn : Bool) (done text : Text) :
    unifyBreaksFrom afterReturn done text =
      done.reverse ++ unifyBreaksFrom afterReturn [] text := by
  induction text generalizing afterReturn done with
  | nil => simp [unifyBreaksFrom]
  | cons c rest ih =>
      simp only [unifyBreaksFrom]
      split
      · rw [ih true ('\n' :: done), ih true ['\n']]
        simp
      split
      · exact ih false done
      · rw [ih false (c :: done), ih false [c]]
        simp

theorem unifyBreaks_cons {c : Char} (noReturn : c ≠ '\r') (rest : Text) :
    unifyBreaks (c :: rest) = c :: unifyBreaks rest := by
  simp only [unifyBreaks, unifyBreaksFrom, noReturn, if_false, Bool.and_false, Bool.false_eq_true]
  rw [unifyBreaksFrom_eq]
  rfl

theorem unifyBreaks_append {before : Text} (noReturn : '\r' ∉ before) (rest : Text) :
    unifyBreaks (before ++ rest) = before ++ unifyBreaks rest := by
  induction before with
  | nil => rfl
  | cons c before ih =>
      have other : c ≠ '\r' := fun same => noReturn (by simp [same])
      rw [List.cons_append, unifyBreaks_cons other,
        ih fun member => noReturn (List.mem_cons_of_mem c member), List.cons_append]

theorem unifyBreaks_eq_self {text : Text} (noReturn : '\r' ∉ text) : unifyBreaks text = text := by
  have same := unifyBreaks_append noReturn []
  rwa [List.append_nil, show unifyBreaks [] = [] from rfl, List.append_nil] at same

/-- A carriage return with its line feed. -/
theorem unifyBreaks_return_feed (rest : Text) :
    unifyBreaks ('\r' :: '\n' :: rest) = '\n' :: unifyBreaks rest := by
  simp only [unifyBreaks, unifyBreaksFrom]
  simp only [if_true, Bool.and_true, decide_true]
  rw [if_neg (by decide), unifyBreaksFrom_eq]
  rfl

/-- A carriage return alone. -/
theorem unifyBreaks_return {rest : Text} (noFeed : '\n' ∉ rest) :
    unifyBreaks ('\r' :: rest) = '\n' :: unifyBreaks rest := by
  have alone : unifyBreaksFrom true [] rest = unifyBreaksFrom false [] rest := by
    cases rest with
    | nil => rfl
    | cons c rest =>
        have other : c ≠ '\n' := fun same => noFeed (by simp [same])
        simp [unifyBreaksFrom, other]
  simp only [unifyBreaks, unifyBreaksFrom, if_true]
  rw [unifyBreaksFrom_eq, alone]
  rfl

end Text

/-! ## Breaks in a file -/

def lineFeed : UInt8 := 0x0A
def carriageReturn : UInt8 := 0x0D

/-- Octets with a break written in place of every line feed. -/
def writeBreaks (mark octets : List UInt8) : List UInt8 :=
  octets.flatMap fun octet => if octet = lineFeed then mark else [octet]

theorem writeBreaks_of_not_mem (mark : List UInt8) {octets : List UInt8}
    (noFeed : lineFeed ∉ octets) : writeBreaks mark octets = octets := by
  induction octets with
  | nil => rfl
  | cons octet rest ih =>
      have other : octet ≠ lineFeed := fun same => noFeed (by simp [same])
      have later := ih fun member => noFeed (List.mem_cons_of_mem octet member)
      rw [writeBreaks] at later ⊢
      rw [List.flatMap_cons, if_neg other, later, List.singleton_append]

theorem writeBreaks_append_cons (mark : List UInt8) {before : List UInt8}
    (noFeed : lineFeed ∉ before) (rest : List UInt8) :
    writeBreaks mark (before ++ lineFeed :: rest) = before ++ (mark ++ writeBreaks mark rest) := by
  have head := writeBreaks_of_not_mem mark noFeed
  rw [writeBreaks] at head ⊢
  rw [List.flatMap_append, head, List.flatMap_cons, if_pos rfl, writeBreaks]

theorem lineFeed_not_mem_writeBreaks {mark : List UInt8} (noFeed : lineFeed ∉ mark)
    (octets : List UInt8) : lineFeed ∉ writeBreaks mark octets := by
  intro member
  obtain ⟨octet, -, inside⟩ := List.mem_flatMap.1 member
  split at inside
  · exact noFeed inside
  · rename_i other
    exact other (List.mem_singleton.1 inside).symm

/-- The three ways of writing a break. -/
def breakMarks : List (List UInt8) :=
  [[lineFeed], [carriageReturn, lineFeed], [carriageReturn]]

namespace KeepsAscii

variable {decode : List UInt8 → Text}

theorem no_return (keeps : KeepsAscii decode) {octets : List UInt8}
    (absent : carriageReturn ∉ octets) : '\r' ∉ decode octets :=
  keeps.only octets carriageReturn (by decide) (by decide) absent

theorem no_feed (keeps : KeepsAscii decode) {octets : List UInt8}
    (absent : lineFeed ∉ octets) : '\n' ∉ decode octets :=
  keeps.only octets lineFeed (by decide) (by decide) absent

theorem cut_feed (keeps : KeepsAscii decode) (before rest : List UInt8) :
    decode (before ++ lineFeed :: rest) = decode before ++ '\n' :: decode rest :=
  keeps.cut before rest lineFeed (by decide)

theorem cut_return (keeps : KeepsAscii decode) (before rest : List UInt8) :
    decode (before ++ carriageReturn :: rest) = decode before ++ '\r' :: decode rest :=
  keeps.cut before rest carriageReturn (by decide)

/-- One break, after a stretch without any. -/
theorem unifyBreaks_mark (keeps : KeepsAscii decode) {mark before rest : List UInt8}
    (isMark : mark ∈ breakMarks) (noReturn : carriageReturn ∉ before)
    (restBreaks : lineFeed ∉ mark → lineFeed ∉ rest) :
    (decode (before ++ (mark ++ rest))).unifyBreaks =
      decode before ++ '\n' :: (decode rest).unifyBreaks := by
  have plain := keeps.no_return noReturn
  simp only [breakMarks, List.mem_cons, List.not_mem_nil, or_false] at isMark
  rcases isMark with rfl | rfl | rfl
  · rw [List.singleton_append, keeps.cut_feed, Text.unifyBreaks_append plain,
      Text.unifyBreaks_cons (by decide)]
  · have feedFirst : decode (lineFeed :: rest) = '\n' :: decode rest := by
      have cut := keeps.cut_feed [] rest
      rwa [List.nil_append, keeps.nil, List.nil_append] at cut
    rw [List.cons_append, List.singleton_append, keeps.cut_return, feedFirst,
      Text.unifyBreaks_append plain, Text.unifyBreaks_return_feed]
  · have noFeed : '\n' ∉ decode rest := keeps.no_feed (restBreaks (by decide))
    rw [List.singleton_append, keeps.cut_return, Text.unifyBreaks_append plain,
      Text.unifyBreaks_return noFeed]

/-- **However its breaks are written, a file has the same text.** -/
theorem unifyBreaks_writeBreaks (keeps : KeepsAscii decode) {mark : List UInt8}
    (isMark : mark ∈ breakMarks) {octets : List UInt8} (noReturn : carriageReturn ∉ octets) :
    (decode (writeBreaks mark octets)).unifyBreaks = decode octets := by
  -- The induction is on the stretches between line feeds.
  induction size : octets.length using Nat.strongRecOn generalizing octets with
  | ind _ ih =>
      by_cases breaks : lineFeed ∈ octets
      · obtain ⟨before, rest, rfl, noFeed⟩ := List.eq_append_cons_of_mem breaks
        have beforeReturn : carriageReturn ∉ before :=
          fun member => noReturn (List.mem_append_left _ member)
        have restReturn : carriageReturn ∉ rest := fun member =>
          noReturn (List.mem_append_right _ (List.mem_cons_of_mem _ member))
        have shorter : rest.length < (before ++ lineFeed :: rest).length := by
          rw [List.length_append, List.length_cons]
          omega
        rw [writeBreaks_append_cons mark noFeed,
          keeps.unifyBreaks_mark isMark beforeReturn (lineFeed_not_mem_writeBreaks · rest),
          ih rest.length (size ▸ shorter) restReturn rfl, keeps.cut_feed]
      · rw [writeBreaks_of_not_mem mark breaks, Text.unifyBreaks_eq_self (keeps.no_return noReturn)]

end KeepsAscii

/-! ## Measures -/

/-- A path leads to a file of these octets. -/
structure Disk.Stores (disk : Disk) (path : String) (octets : List UInt8) : Prop where
  reachable : hasNul path = false
  content : ∃ content, disk.content path = .ok content ∧ content.data.toList = octets

theorem Disk.readText_of_stores {disk : Disk} {encoding path : String} {octets : List UInt8}
    (stores : disk.Stores path octets) (named : hasNul encoding = false) {charset : Charset}
    (found : Codec.find? encoding = some (.charset charset)) {text : Text}
    (reads : charset.read? octets = some text) : disk.readText encoding path = .ok text := by
  obtain ⟨content, holds, rfl⟩ := stores.content
  simp only [readText, named, stores.reachable, holds, charset_eq_ok_iff.2 found, reads,
    Bool.false_eq_true, if_false]

/-- A file that is stored and has a text is measured by it. -/
theorem Corpus.measure_of_stores {disk : Disk} {settings : Settings} {path : String}
    {octets : List UInt8} (stores : disk.Stores path octets)
    (named : Disk.hasNul settings.encoding = false) {charset : Charset}
    (found : Codec.find? settings.encoding = some (.charset charset)) {text : Text}
    (reads : charset.read? octets = some text) :
    (measure disk settings path).result =
      .ok (.ok (FileMeasure.ofLines path (text.lines.map Line.classify))) := by
  obtain ⟨content, holds, -⟩ := stores.content
  obtain ⟨isThere, isFile⟩ := Disk.isFile_of_content stores.reachable holds
  have lines : Source.readLines disk settings.encoding path = .ok (.ok text.lines) := by
    simp only [Source.readLines, isThere, isFile, Disk.readText_of_stores stores named found reads,
      Bool.not_true, Bool.false_eq_true, if_false]
  rw [measure, Source.scan, Logged.bind_result, Logged.bind_result, Logged.ofExcept, lines]
  rfl

/-- The names of encodings in which octets below 0x80 are ASCII. -/
def plainEncodings : List String := ["utf-8", "latin-1", "ascii", "cp1252"]

theorem charset_of_plainEncoding {name : String} (plain : name ∈ plainEncodings) :
    Disk.hasNul name = false ∧
      ∃ charset : Charset, charset ∈ [.utf8, .latin1, .ascii, .windows1252] ∧
        Codec.find? name = some (.charset charset) := by
  simp only [plainEncodings, List.mem_cons, List.not_mem_nil, or_false] at plain
  rcases plain with rfl | rfl | rfl | rfl
  · exact ⟨by decide +kernel, .utf8, by decide, by decide +kernel⟩
  · exact ⟨by decide +kernel, .latin1, by decide, by decide +kernel⟩
  · exact ⟨by decide +kernel, .ascii, by decide, by decide +kernel⟩
  · exact ⟨by decide +kernel, .windows1252, by decide, by decide +kernel⟩

/-- **A file has the same measure whether its lines end in a line feed, a carriage return
or both.**  Nothing is asked of its octets but that they have no carriage return before
the breaks are written. -/
theorem measure_breaks {feeds returnFeeds returns : Disk} {settings : Settings}
    (plain : settings.encoding ∈ plainEncodings) {path : String} {octets : List UInt8}
    (noReturn : carriageReturn ∉ octets) (feed : feeds.Stores path octets)
    (returnFeed : returnFeeds.Stores path (writeBreaks [carriageReturn, lineFeed] octets))
    (return_ : returns.Stores path (writeBreaks [carriageReturn] octets)) :
    ∃ measure : FileMeasure,
      (Corpus.measure feeds settings path).result = .ok (.ok measure) ∧
      (Corpus.measure returnFeeds settings path).result = .ok (.ok measure) ∧
      (Corpus.measure returns settings path).result = .ok (.ok measure) := by
  obtain ⟨named, charset, isPlain, found⟩ := charset_of_plainEncoding plain
  obtain ⟨decode, keeps, decodes⟩ := Charset.keepsAscii isPlain
  have reads (mark : List UInt8) (isMark : mark ∈ breakMarks) :
      charset.read? (writeBreaks mark octets) = some (decode octets) := by
    rw [Charset.read?, decodes, Option.map_some, keeps.unifyBreaks_writeBreaks isMark noReturn]
  have unwritten : charset.read? octets = some (decode octets) := by
    rw [Charset.read?, decodes, Option.map_some,
      Text.unifyBreaks_eq_self (keeps.no_return noReturn)]
  exact ⟨_, Corpus.measure_of_stores feed named found unwritten,
    Corpus.measure_of_stores returnFeed named found (reads _ (by decide)),
    Corpus.measure_of_stores return_ named found (reads _ (by decide))⟩

/-- A disk with one file. -/
def oneFile (octets : List UInt8) : Disk where
  root := .folder [("a.rb", .file ⟨octets.toArray⟩ false)]
  currentFolder := "/"
  home := "/"

theorem oneFile_stores (octets : List UInt8) : (oneFile octets).Stores "a.rb" octets := by
  refine ⟨by decide +kernel, ⟨octets.toArray⟩, ?_, rfl⟩
  have parts : (Text.segments '/' (Path.join "/" "a.rb").toList).map String.ofList =
      ["", "a.rb"] := by decide +kernel
  have short : ¬ Disk.pathLimit < Disk.textOctets "a.rb" := by decide +kernel
  have shortName : ¬ Disk.nameLimit < Disk.textOctets "a.rb" := by decide +kernel
  have isName : "a.rb" ≠ "" ∧ "a.rb" ≠ "." ∧ "a.rb" ≠ ".." := by decide
  simp [Disk.content, Disk.find, oneFile, parts, short, Disk.descend, shortName, isName]

/-- A method whose first line breaks off inside a character. -/
def truncatedMethod : List UInt8 :=
  [0x64, 0x65, 0x66, 0x20, 0x6D, 0xE2, 0x82, lineFeed, 0x65, 0x6E, 0x64]

theorem measure_breaks_truncatedMethod :
    "utf-8" ∈ plainEncodings ∧ carriageReturn ∉ truncatedMethod ∧
    ∃ measure : FileMeasure,
      (Corpus.measure (oneFile truncatedMethod) {} "a.rb").result = .ok (.ok measure) ∧
      (Corpus.measure (oneFile (writeBreaks [carriageReturn, lineFeed] truncatedMethod)) {}
        "a.rb").result = .ok (.ok measure) ∧
      (Corpus.measure (oneFile (writeBreaks [carriageReturn] truncatedMethod)) {}
        "a.rb").result = .ok (.ok measure) := by
  have plain : "utf-8" ∈ plainEncodings := by decide
  have noReturn : carriageReturn ∉ truncatedMethod := by decide
  exact ⟨plain, noReturn, measure_breaks plain noReturn (oneFile_stores _) (oneFile_stores _)
    (oneFile_stores _)⟩

end LineCensus
